import NullFlow.Proofs.Summary.Rounds

/-!
# What summaries mean

A parameter is **grounded** if its function surely dereferences it, where a call counts as a
dereference of what it passes as a grounded parameter – and nothing else makes a parameter grounded.
So behind every grounded parameter stand dereferences in the end; functions that only pass a pointer
on to each other ground none of their parameters.

Every round finds grounded parameters only (`Summaries.rounds_within_grounded`), so summaries list
no others. They list all of them if a further round would find nothing new
(`Summaries.grounded_within_of_round_eq`), and this is so if there are not too many pointer
parameters. Otherwise the rounds may end too early: a function that passes its parameters on to
itself, each one position further to the front, needs a round for each of them.
-/

namespace NullFlow

namespace Summaries

variable {graphs : List Graph} {known : Summaries} {R : Parameters} {function : String} {i : Nat}

/-- **The grounded parameters**: the least set of parameters that holds whatever the graphs show if
calls dereference its members. -/
inductive Grounded (graphs : List Graph) : Parameters
  | intro {R : Parameters} {function : String} {i : Nat}
      (hR : ∀ callee j, R callee j → Grounded graphs callee j)
      (h : Shows graphs R function i) : Grounded graphs function i

/-- The grounded parameters are what the graphs show if calls dereference them. -/
theorem grounded_iff_shows :
    Grounded graphs function i ↔ Shows graphs (Grounded graphs) function i :=
  ⟨fun ⟨hR, h⟩ => Shows.mono hR function i h, fun h => .intro (fun _ _ h => h) h⟩

/-- **No smaller set will do.** -/
theorem grounded_within (h : (Shows graphs R).Within R) : (Grounded graphs).Within R := by
  intro function i hg
  induction hg with
  | intro _ hshows ih => exact h _ _ (Shows.mono ih _ _ hshows)

/-- **A set of parameters supports only itself**: for each of them there is a walk to an exit of its
function on which it is not dereferenced, and not passed on but as a parameter of the set. -/
def SupportsOnlyItself (graphs : List Graph) (R : Parameters) : Prop :=
  ∀ function i, R function i → ∀ g p, Graph.lastNamed? graphs function = some g →
    g.parameters[i]? = some p → ∃ b ∈ g.exits, ∃ es, g.Walk g.entry es b ∧
      ∀ f ∈ g.factsAlong es ++ g.factsOf b, ¬f.DereferencesBy (fun callee j => ¬R callee j) p.name

/-- A set that supports only itself has no grounded member. -/
theorem not_grounded_of_supportsOnlyItself (hR : SupportsOnlyItself graphs R) (h : R function i) :
    ¬Grounded graphs function i := by
  intro hg
  -- the parameters outside of the set can do without it
  have houtside :
      (Shows graphs fun callee j => ¬R callee j).Within fun callee j => ¬R callee j := by
    rintro function i ⟨g, p, hg, hp, hd⟩ hmem
    obtain ⟨b, hb, es, w, hnone⟩ := hR function i hmem g p hg hp
    obtain ⟨f, hf, hderef⟩ := hd.dereferences hb w
    exact hnone f hf hderef
  exact grounded_within houtside function i hg h

/-- **Every round finds grounded parameters only.** -/
theorem rounds_within_grounded (graphs : List Graph) (n : Nat) :
    (rounds graphs n none).Holds.Within (Grounded graphs) := by
  induction n with
  | zero => exact fun function i h => (not_holds_none h).elim
  | succ n ih =>
    rw [rounds_succ]
    intro function i h
    exact .intro ih (holds_round_iff.mp h)

/-- **When nothing new is found, nothing is missing.** -/
theorem grounded_within_of_round_eq (h : round graphs known = known) :
    (Grounded graphs).Within known.Holds := by
  refine grounded_within fun function i hshows => ?_
  have hfound := holds_round_iff.mpr hshows
  rwa [h] at hfound

end Summaries

/-! ## Functions of one block -/

namespace Graph

variable {g : Graph} {facts : List Fact} {R : Parameters} {p : Parameter}

/-- **A graph of one block** with the given facts, at which control enters and leaves. -/
structure IsStraight (g : Graph) (facts : List Fact) : Prop where
  edges_eq : g.edges = []
  entry_eq : g.entry = 0
  exits_eq : g.exits = [0]
  blocks_eq : ∃ block, g.blocks = (∅ : Std.ExtTreeMap BlockId Block).insert 0 block ∧
    block.facts = facts

namespace IsStraight

theorem entry_mem (h : g.IsStraight facts) : g.entry ∈ g.blocks := by
  obtain ⟨block, hblocks, -⟩ := h.blocks_eq
  rw [hblocks, Std.ExtTreeMap.mem_insert, h.entry_eq]
  exact Or.inl rfl

theorem entry_mem_exits (h : g.IsStraight facts) : g.entry ∈ g.exits := by
  rw [h.exits_eq, h.entry_eq]
  exact List.mem_singleton_self 0

theorem eq_nil_of_walk (h : g.IsStraight facts) {es : List Edge} {b c : BlockId}
    (w : g.Walk b es c) : es = [] := by
  cases w with
  | nil _ => rfl
  | snoc _ he _ =>
    rw [outEdges, h.edges_eq] at he
    cases he

theorem facts_eq (h : g.IsStraight facts) {b : BlockId} {block : Block}
    (hb : g.blocks[b]? = some block) : block.facts = facts := by
  obtain ⟨only, hblocks, hfacts⟩ := h.blocks_eq
  rw [hblocks, Std.ExtTreeMap.getElem?_insert] at hb
  split at hb
  · cases hb
    exact hfacts
  · simp at hb

/-- What control meets on the way to the exit are the facts of the block. -/
theorem facts_of_walk (h : g.IsStraight facts) {es : List Edge} {b : BlockId}
    (w : g.Walk g.entry es b) : g.factsAlong es ++ g.factsOf b = facts := by
  obtain ⟨block, hb⟩ := exists_getElem?_of_mem_blocks w.mem_blocks
  rw [h.eq_nil_of_walk w, factsAlong_nil, List.nil_append, factsOf_eq hb, h.facts_eq hb]

/-- A function of one block surely dereferences what one of its facts dereferences and none
assigns to. -/
theorem surelyDereferences_iff (h : g.IsStraight facts) :
    g.SurelyDereferences R p ↔ p.isPointer = true ∧ (∀ f ∈ facts, ¬f.Assigns p.name) ∧
      ∃ f ∈ facts, f.DereferencesBy R p.name := by
  constructor
  · intro hsure
    obtain ⟨block, hb⟩ := exists_getElem?_of_mem_blocks h.entry_mem
    refine ⟨hsure.isPointer, fun f hf => hsure.not_assigns hb ?_, ?_⟩
    · rw [h.facts_eq hb]
      exact hf
    · have hderef := hsure.dereferences h.entry_mem_exits (.nil h.entry_mem)
      rwa [h.facts_of_walk (.nil h.entry_mem)] at hderef
  · rintro ⟨hpointer, hassigns, hderef⟩
    refine ⟨hpointer, fun hb hf => hassigns _ ?_,
      ⟨g.entry, h.entry_mem_exits, [], .nil h.entry_mem⟩, fun hb w => ?_⟩
    · rwa [h.facts_eq hb] at hf
    · rwa [h.facts_of_walk w]

/-- On the way to its exit such a function meets its facts and no others. -/
theorem exists_walk {P : Fact → Prop} (h : g.IsStraight facts) (hP : ∀ f ∈ facts, P f) :
    ∃ b ∈ g.exits, ∃ es, g.Walk g.entry es b ∧ ∀ f ∈ g.factsAlong es ++ g.factsOf b, P f := by
  refine ⟨g.entry, h.entry_mem_exits, [], .nil h.entry_mem, ?_⟩
  rwa [h.facts_of_walk (.nil h.entry_mem)]

end IsStraight

/-- **A function that runs straight through one block** and returns. -/
def straight (function : String) (parameters : List Parameter) (facts : List Fact) : Graph :=
  ({ function, file := "a.c", parameters } : Graph).addBlock
    { id := 0, label := "entry", terminator := .returning, isEntry := true, isExit := true,
      statements := [⟨1, .other, "", facts⟩] }

theorem isStraight_straight (function : String) (parameters : List Parameter)
    (facts : List Fact) : (straight function parameters facts).IsStraight facts :=
  ⟨rfl, rfl, rfl, _, rfl, by simp [Block.facts]⟩

theorem surelyDereferences_straight {function : String} {parameters : List Parameter} :
    (straight function parameters facts).SurelyDereferences R p ↔ p.isPointer = true ∧
      (∀ f ∈ facts, ¬f.Assigns p.name) ∧ ∃ f ∈ facts, f.DereferencesBy R p.name :=
  (isStraight_straight function parameters facts).surelyDereferences_iff

end Graph

namespace Summaries

variable {graphs : List Graph} {R : Parameters} {function : String} {i : Nat}

/-! ## Summaries are grounded -/

/-- **Summaries are sound and grounded.** What they list is grounded; in particular they list no
member of a set of parameters that supports only itself, as functions do that only call each
other. -/
theorem compute_grounded (graphs : List Graph) :
    (∀ function i, (compute graphs).derefsParameter function i = true →
      Grounded graphs function i) ∧
    ∀ R, SupportsOnlyItself graphs R → ∀ function i, R function i →
      (compute graphs).derefsParameter function i = false := by
  have hsound := rounds_within_grounded graphs (graphs.length + 1)
  refine ⟨hsound, fun R hR function i hmem => ?_⟩
  rw [Bool.eq_false_iff]
  exact fun h => not_grounded_of_supportsOnlyItself hR hmem (hsound function i h)

/-- A function that dereferences its parameter, one that calls it, and two that call each other. -/
def calling : List Graph :=
  [.straight "leaf" [⟨"p", true⟩] [.deref "p" .star 1],
    .straight "caller" [⟨"q", true⟩] [.call "leaf" [some "q"] 2],
    .straight "ping" [⟨"r", true⟩] [.call "pong" [some "r"] 3],
    .straight "pong" [⟨"s", true⟩] [.call "ping" [some "s"] 4]]

theorem compute_grounded_calling : Grounded calling "caller" 0 ∧
    (compute calling).derefsParameter "ping" 0 = false := by
  obtain ⟨hsound, hrecursive⟩ := compute_grounded calling
  constructor
  · have hleaf : (rounds calling 1 none).Holds "leaf" 0 := by
      rw [rounds_succ]
      exact holds_round_iff.mpr ⟨_, ⟨"p", true⟩, rfl, rfl, Graph.surelyDereferences_straight.mpr
        ⟨rfl, fun f hf => by cases List.mem_singleton.mp hf; rintro ⟨⟩,
          _, List.mem_cons_self, .deref .star 1⟩⟩
    have hcaller : (rounds calling 2 none).Holds "caller" 0 := by
      rw [rounds_succ]
      exact holds_round_iff.mpr ⟨_, ⟨"q", true⟩, rfl, rfl, Graph.surelyDereferences_straight.mpr
        ⟨rfl, fun f hf => by cases List.mem_singleton.mp hf; rintro ⟨⟩,
          _, List.mem_cons_self, .call (i := 0) rfl hleaf⟩⟩
    exact hsound "caller" 0 (rounds_within_compute (by decide) "caller" 0 hcaller)
  · -- the two functions pass their parameters to each other and do nothing else
    refine hrecursive (fun callee j => (callee = "ping" ∨ callee = "pong") ∧ j = 0) ?_ "ping" 0
      ⟨Or.inl rfl, rfl⟩
    have hcall : ∀ (callee v : String) (line : Nat), callee = "ping" ∨ callee = "pong" →
        ¬(Fact.call callee [some v] line).DereferencesBy
          (fun callee j => ¬((callee = "ping" ∨ callee = "pong") ∧ j = 0)) v := by
      rintro callee v line hcallee (_ | @⟨_, _, _, i, ha, hR⟩)
      cases i with
      | zero => exact hR ⟨hcallee, rfl⟩
      | succ i => cases ha
    rintro function i ⟨rfl | rfl, rfl⟩ g p hg hp
    · cases hg
      cases hp
      refine (Graph.isStraight_straight _ _ _).exists_walk fun f hf => ?_
      cases List.mem_singleton.mp hf
      exact hcall "pong" "r" 3 (Or.inr rfl)
    · cases hg
      cases hp
      refine (Graph.isStraight_straight _ _ _).exists_walk fun f hf => ?_
      cases List.mem_singleton.mp hf
      exact hcall "ping" "s" 4 (Or.inl rfl)

/-! ## Summaries that miss nothing -/

/-- **Summaries are exact if the pointer parameters are not more than the rounds.** Then a further
round finds nothing new, and exactly the grounded parameters are listed. -/
theorem compute_exact (h : (pointerParameters graphs).length ≤ graphs.length + 1) :
    round graphs (compute graphs) = compute graphs ∧
      ∀ function i, (compute graphs).derefsParameter function i = true ↔
        Grounded graphs function i := by
  have hfixed : round graphs (compute graphs) = compute graphs := round_rounds h
  refine ⟨hfixed, fun function i => ⟨?_, grounded_within_of_round_eq hfixed function i⟩⟩
  exact rounds_within_grounded graphs (graphs.length + 1) function i

theorem compute_exact_calling : (pointerParameters calling).length ≤ calling.length + 1 ∧
    round calling (compute calling) = compute calling ∧
      ∀ function i, (compute calling).derefsParameter function i = true ↔
        Grounded calling function i :=
  ⟨by decide, compute_exact (by decide)⟩

/-- What one function of one block shows. -/
theorem shows_straight {parameters : List Parameter} {facts : List Fact} :
    Shows [.straight function parameters facts] R function i ↔
      ∃ p, parameters[i]? = some p ∧ p.isPointer = true ∧ (∀ f ∈ facts, ¬f.Assigns p.name) ∧
        ∃ f ∈ facts, f.DereferencesBy R p.name := by
  have hlast : Graph.lastNamed? [.straight function parameters facts] function
      = some (.straight function parameters facts) := Graph.lastNamed?_singleton _
  constructor
  · rintro ⟨g, p, hg, hp, h⟩
    rw [hlast] at hg
    cases hg
    exact ⟨p, hp, Graph.surelyDereferences_straight.mp h⟩
  · rintro ⟨p, hp, h⟩
    exact ⟨_, p, hlast, hp, Graph.surelyDereferences_straight.mpr h⟩

/-- A function that dereferences the first of its three parameters and passes the others to itself,
each one position further to the front: `*a; f(b, c, a);`. -/
def passedAlong : Graph :=
  .straight "f" [⟨"a", true⟩, ⟨"b", true⟩, ⟨"c", true⟩]
    [.deref "a" .star 2, .call "f" [some "b", some "c", some "a"] 3]

/-- Each round finds the parameter after the one found before. -/
theorem shows_passedAlong : Shows [passedAlong] R "f" i ↔
    i = 0 ∨ i = 1 ∧ R "f" 0 ∨ i = 2 ∧ R "f" 1 := by
  have hargs : ∀ v : String, (∃ j, [some "b", some "c", some "a"][j]? = some (some v) ∧ R "f" j) ↔
      v = "b" ∧ R "f" 0 ∨ v = "c" ∧ R "f" 1 ∨ v = "a" ∧ R "f" 2 := by
    intro v
    constructor
    · rintro ⟨_ | _ | _ | j, ha, hR⟩
      · cases ha
        exact Or.inl ⟨rfl, hR⟩
      · cases ha
        exact Or.inr (Or.inl ⟨rfl, hR⟩)
      · cases ha
        exact Or.inr (Or.inr ⟨rfl, hR⟩)
      · cases ha
    · rintro (⟨rfl, hR⟩ | ⟨rfl, hR⟩ | ⟨rfl, hR⟩)
      · exact ⟨0, rfl, hR⟩
      · exact ⟨1, rfl, hR⟩
      · exact ⟨2, rfl, hR⟩
  have hderefs : ∀ v : String, (∃ f ∈ [Fact.deref "a" .star 2,
      .call "f" [some "b", some "c", some "a"] 3], f.DereferencesBy R v) ↔
      v = "a" ∨ v = "b" ∧ R "f" 0 ∨ v = "c" ∧ R "f" 1 ∨ v = "a" ∧ R "f" 2 := by
    intro v
    simp only [List.mem_cons, List.not_mem_nil, or_false, exists_eq_or_imp, exists_eq_left,
      Fact.dereferencesBy_deref_iff, Fact.dereferencesBy_call_iff, hargs, eq_comm (a := "a")]
  have hassigns : ∀ v : String, ∀ f ∈ [Fact.deref "a" .star 2,
      .call "f" [some "b", some "c", some "a"] 3], ¬f.Assigns v := by
    intro v f hf h
    cases h
    simp at hf
  unfold passedAlong
  rw [shows_straight]
  simp only [hderefs]
  rcases i with _ | _ | _ | i
  · exact iff_of_true ⟨_, rfl, rfl, hassigns "a", Or.inl rfl⟩ (Or.inl rfl)
  · exact ⟨fun ⟨p, hp, _, _, h⟩ => by cases hp; simpa using h,
      fun h => ⟨_, rfl, rfl, hassigns "b", by simpa using h⟩⟩
  · exact ⟨fun ⟨p, hp, _, _, h⟩ => by cases hp; simpa using h,
      fun h => ⟨_, rfl, rfl, hassigns "c", by simpa using h⟩⟩
  · exact iff_of_false (fun ⟨p, hp, _⟩ => by cases hp) (by simp)

/-- **The rounds may end too early**: for one function with three pointer parameters there are two
rounds, which find the first two parameters, and a third round would find the last. -/
theorem round_compute_passedAlong :
    round [passedAlong] (compute [passedAlong]) ≠ compute [passedAlong] ∧
      Grounded [passedAlong] "f" 2 ∧ (compute [passedAlong]).derefsParameter "f" 2 = false := by
  have hfirst : ∀ i, (rounds [passedAlong] 1 none).Holds "f" i ↔ i = 0 := by
    intro i
    rw [rounds_succ, holds_round_iff, shows_passedAlong]
    simp [rounds, not_holds_none]
  have hsecond : ∀ i, (compute [passedAlong]).Holds "f" i ↔ i = 0 ∨ i = 1 := by
    intro i
    rw [compute_eq_round, holds_round_iff, shows_passedAlong]
    simp [hfirst]
  have hthird : (round [passedAlong] (compute [passedAlong])).Holds "f" 2 := by
    rw [holds_round_iff, shows_passedAlong]
    exact Or.inr (Or.inr ⟨rfl, (hsecond 1).mpr (Or.inr rfl)⟩)
  have hmissing : ¬(compute [passedAlong]).Holds "f" 2 := by simp [hsecond]
  refine ⟨fun hfixed => hmissing (hfixed ▸ hthird), ?_, Bool.eq_false_iff.mpr hmissing⟩
  exact .intro (rounds_within_grounded [passedAlong] 2) (holds_round_iff.mp hthird)

end Summaries

end NullFlow
