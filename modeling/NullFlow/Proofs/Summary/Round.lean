import NullFlow.Analysis.Summary
import NullFlow.Proofs.Check.ReverseNull

/-!
# One round of summaries

A round asks of every function which of its parameters it surely dereferences, and it takes on trust
what is known about the functions that are called. What a round finds is decided by the walks to the
exits (`Summaries.holds_round_iff`), so that the loop over the blocks can be forgotten from here on.

What is known enters a round only as a **set of parameters** (`Summaries.round_congr`), and who
knows more finds more (`Summaries.round_mono`). A round is therefore a monotone operator on sets of
parameters, and this operator is `Shows`.
-/

namespace NullFlow

/-- **A set of parameters**, each given by the name of its function and by its position. -/
abbrev Parameters := String → Nat → Prop

/-- One set of parameters is part of another. -/
def Parameters.Within (R S : Parameters) : Prop := ∀ function i, R function i → S function i

/-- The parameters that are known to be dereferenced. -/
def Summaries.Holds (known : Summaries) : Parameters :=
  fun function i => known.derefsParameter function i = true

/-! ## Facts and sets of parameters -/

namespace Fact

variable {R S : Parameters} {known : Summaries} {v : String} {f : Fact}

/-- **A fact dereferences a variable, if calls dereference the given parameters**: it is a
dereference of it, or a call that passes it as one of them. -/
inductive DereferencesBy (R : Parameters) (v : String) : Fact → Prop
  | deref (kind : DerefKind) (line : Nat) : DereferencesBy R v (.deref v kind line)
  | call {function : String} {args : List (Option String)} {line i : Nat}
      (ha : args[i]? = some (some v)) (hR : R function i) :
      DereferencesBy R v (.call function args line)

theorem dereferencesBy_deref_iff {w : String} {kind : DerefKind} {line : Nat} :
    (Fact.deref w kind line).DereferencesBy R v ↔ w = v :=
  ⟨fun | .deref _ _ => rfl, fun h => h ▸ .deref kind line⟩

theorem dereferencesBy_call_iff {function : String} {args : List (Option String)} {line : Nat} :
    (Fact.call function args line).DereferencesBy R v ↔
      ∃ i, args[i]? = some (some v) ∧ R function i :=
  ⟨fun | .call ha hR => ⟨_, ha, hR⟩, fun ⟨_, ha, hR⟩ => .call ha hR⟩

theorem dereferencesBy_holds_iff : f.DereferencesBy known.Holds v ↔ f.Dereferences known v := by
  constructor
  · rintro (⟨kind, line⟩ | ⟨ha, hR⟩)
    · exact .deref kind line
    · exact .call ha hR
  · rintro (⟨kind, line⟩ | ⟨ha, hk⟩)
    · exact .deref kind line
    · exact .call ha hk

theorem DereferencesBy.mono (hRS : R.Within S) (h : f.DereferencesBy R v) :
    f.DereferencesBy S v := by
  cases h with
  | deref kind line => exact .deref kind line
  | call ha hR => exact .call ha (hRS _ _ hR)

/-- Where a variable is never assigned to, a dereference of it stays the last fact that concerns
it. -/
theorem lastDereferences_iff_exists {fs : List Fact} (h : ∀ f ∈ fs, ¬f.Assigns v) :
    LastDereferences known v fs ↔ ∃ f ∈ fs, f.Dereferences known v := by
  constructor
  · rintro ⟨before, f, after, rfl, hf, -⟩
    exact ⟨f, List.mem_append_right before List.mem_cons_self, hf⟩
  · rintro ⟨f, hf, hd⟩
    obtain ⟨before, after, rfl⟩ := List.append_of_mem hf
    -- what comes after the dereference is followed fact by fact
    have hlast : LastDereferences known v (before ++ [f]) := lastDereferences_snoc.mpr (Or.inl hd)
    have hafter : ∀ c ∈ after, ¬c.Assigns v := fun c hc => h c (by simp [hc])
    clear h hf hd
    induction after generalizing before f with
    | nil => exact hlast
    | cons c after ih =>
      have hstep : LastDereferences known v ((before ++ [f]) ++ [c]) :=
        lastDereferences_snoc.mpr (Or.inr ⟨hafter c List.mem_cons_self, hlast⟩)
      rw [List.append_cons]
      exact ih c (before ++ [f]) hstep fun d hd => hafter d (List.mem_cons_of_mem c hd)

end Fact

/-! ## What a graph shows about a parameter -/

namespace Graph

variable {g : Graph} {R S : Parameters} {p : Parameter} {v : String}

/-- **The last listed graph of a function**, which is the one that counts if there are several. -/
def lastNamed? (graphs : List Graph) (function : String) : Option Graph :=
  graphs.reverse.find? (·.function == function)

theorem lastNamed?_cons (g : Graph) (graphs : List Graph) (function : String) :
    lastNamed? (g :: graphs) function =
      (lastNamed? graphs function).or (if g.function = function then some g else none) := by
  unfold lastNamed?
  rw [List.reverse_cons, List.find?_append, List.find?_singleton]
  simp only [beq_iff_eq]

theorem lastNamed?_singleton (g : Graph) : lastNamed? [g] g.function = some g := by
  rw [lastNamed?_cons, if_pos rfl]
  rfl

theorem mem_of_lastNamed? {graphs : List Graph} {function : String}
    (h : lastNamed? graphs function = some g) : g ∈ graphs := by
  unfold lastNamed? at h
  exact List.mem_reverse.mp (List.mem_of_find?_eq_some h)

theorem function_of_lastNamed? {graphs : List Graph} {function : String}
    (h : lastNamed? graphs function = some g) : g.function = function := by
  unfold lastNamed? at h
  have hname := List.find?_some h
  exact beq_iff_eq.mp hname

/-- **A function surely dereferences a pointer**, if calls dereference the given parameters: it
never assigns to it, it can return, and every walk to the end of an exit meets a dereference. -/
structure SurelyDereferences (g : Graph) (R : Parameters) (p : Parameter) : Prop where
  isPointer : p.isPointer = true
  not_assigns {b : BlockId} {block : Block} {f : Fact} (hb : g.blocks[b]? = some block)
    (hf : f ∈ block.facts) : ¬f.Assigns p.name
  exists_exit : ∃ b ∈ g.exits, g.Reaches b
  dereferences {b : BlockId} {es : List Edge} (hb : b ∈ g.exits) (w : g.Walk g.entry es b) :
    ∃ f ∈ g.factsAlong es ++ g.factsOf b, f.DereferencesBy R p.name

theorem SurelyDereferences.mono (hRS : R.Within S) (h : g.SurelyDereferences R p) :
    g.SurelyDereferences S p where
  isPointer := h.isPointer
  not_assigns := h.not_assigns
  exists_exit := h.exists_exit
  dereferences hb w := by
    obtain ⟨f, hf, hd⟩ := h.dereferences hb w
    exact ⟨f, hf, hd.mono hRS⟩

/-- A fact that a walk meets is a fact of a block. -/
theorem exists_block_of_mem_factsOf {b : BlockId} {f : Fact} (h : f ∈ g.factsOf b) :
    ∃ block, g.blocks[b]? = some block ∧ f ∈ block.facts := by
  unfold factsOf at h
  cases hb : g.blocks[b]? with
  | none =>
    rw [hb] at h
    cases h
  | some block =>
    rw [hb] at h
    exact ⟨block, rfl, h⟩

theorem exists_block_of_mem_factsAlong {es : List Edge} {b : BlockId} {f : Fact}
    (h : f ∈ g.factsAlong es ++ g.factsOf b) :
    ∃ (c : BlockId) (block : Block), g.blocks[c]? = some block ∧ f ∈ block.facts := by
  rcases List.mem_append.mp h with h | h
  · obtain ⟨e, -, hf⟩ := List.mem_flatMap.mp h
    exact ⟨e.source, exists_block_of_mem_factsOf hf⟩
  · exact ⟨b, exists_block_of_mem_factsOf h⟩

theorem mem_assignedVars : v ∈ g.assignedVars ↔
    ∃ (b : BlockId) (block : Block) (f : Fact),
      g.blocks[b]? = some block ∧ f ∈ block.facts ∧ f.Assigns v := by
  unfold assignedVars
  rw [Std.ExtTreeSet.mem_ofList, List.contains_iff_mem, List.mem_filterMap]
  unfold facts
  constructor
  · rintro ⟨f, hf, hv⟩
    obtain ⟨block, hblock, hf⟩ := List.mem_flatMap.mp hf
    obtain ⟨b, hb⟩ := exists_of_mem_blockList hblock
    cases f with
    | assign w value line =>
      cases hv
      exact ⟨b, block, _, hb, hf, .assign value line⟩
    | deref w kind line => cases hv
    | call function args line => cases hv
  · rintro ⟨b, block, f, hb, hf, ⟨value, line⟩⟩
    exact ⟨_, List.mem_flatMap.mpr ⟨block, mem_blockList hb, hf⟩, rfl⟩

end Graph

theorem Analysis.mem_exitStates {σ ρ : Type} {a : Analysis σ ρ} {g : Graph} {s : σ} :
    s ∈ a.exitStates g ↔ ∃ b ∈ g.exits, ∃ (block : Block) (t : σ),
      g.blocks[b]? = some block ∧ (a.solve g)[b]? = some t ∧ s = a.transfer block t := by
  unfold exitStates
  rw [List.mem_filterMap]
  refine exists_congr fun b => and_congr_right fun _ => ?_
  constructor
  · intro h
    split at h
    · next block t hb ht => exact ⟨block, t, hb, ht, (Option.some.inj h).symm⟩
    · cases h
  · rintro ⟨block, t, hb, ht, rfl⟩
    rw [hb, ht]

namespace MustDeref

variable {known : Summaries} {g : Graph} {v : String}

theorem exists_mem_exitStates_iff :
    (∃ s, s ∈ (analysis known g).exitStates g) ↔ ∃ b ∈ g.exits, g.Reaches b := by
  constructor
  · rintro ⟨s, hs⟩
    obtain ⟨b, hb, block, t, hblock, ht, -⟩ := Analysis.mem_exitStates.mp hs
    obtain ⟨es, w, -⟩ := exists_walk_of_solve (Graph.mem_blocks_of_getElem? hblock) ht ""
    exact ⟨b, hb, es, w⟩
  · rintro ⟨b, hb, es, w⟩
    obtain ⟨block, hblock⟩ := Graph.exists_getElem?_of_mem_blocks w.mem_blocks
    obtain ⟨t, ht, -⟩ := exists_solve_of_walk known w
    exact ⟨_, Analysis.mem_exitStates.mpr ⟨b, hb, block, t, hblock, ht, rfl⟩⟩

/-- **All exits keep a variable** exactly if it is left dereferenced on every walk to the end of an
exit. -/
theorem forall_mem_exitStates_iff :
    (∀ s ∈ (analysis known g).exitStates g, v ∈ s) ↔
      ∀ b ∈ g.exits, ∀ es, g.Walk g.entry es b →
        Fact.LastDereferences known v (g.factsAlong es ++ g.factsOf b) := by
  constructor
  · intro h b hb es w
    obtain ⟨block, hblock⟩ := Graph.exists_getElem?_of_mem_blocks w.mem_blocks
    obtain ⟨t, ht, hmem⟩ := exists_solve_of_walk known w
    have hv := h _ (Analysis.mem_exitStates.mpr ⟨b, hb, block, t, hblock, ht, rfl⟩)
    rw [Graph.factsOf_eq hblock]
    exact DerefState.lastDereferences_of_mem_afterAll (hmem v) hv
  · intro h s hs
    obtain ⟨b, hb, block, t, hblock, ht, rfl⟩ := Analysis.mem_exitStates.mp hs
    obtain ⟨es, w, hkept⟩ := exists_walk_of_solve (Graph.mem_blocks_of_getElem? hblock) ht v
    have hlast := h b hb es w
    rw [Graph.factsOf_eq hblock] at hlast
    exact DerefState.mem_afterAll_of_imp hkept hlast

end MustDeref

namespace Summaries

variable {graphs : List Graph} {known known' : Summaries} {function : String} {i : Nat}
  {R S : Parameters}

/-- **A graph shows what its walks show** about a parameter. -/
theorem parameterDereferenced_iff {g : Graph} {p : Parameter} :
    parameterDereferenced ((MustDeref.analysis known g).exitStates g) g.assignedVars p = true ↔
      g.SurelyDereferences known.Holds p := by
  have hassigned : g.assignedVars.contains p.name = false ↔
      ∀ (b : BlockId) (block : Block) (f : Fact), g.blocks[b]? = some block → f ∈ block.facts →
        ¬f.Assigns p.name := by
    rw [← Bool.not_eq_true, Std.ExtTreeSet.contains_iff_mem, Graph.mem_assignedVars]
    simp only [not_exists, not_and]
  have hexits : (∀ s ∈ (MustDeref.analysis known g).exitStates g, s.contains p.name = true) ↔
      ∀ b ∈ g.exits, ∀ es, g.Walk g.entry es b →
        Fact.LastDereferences known p.name (g.factsAlong es ++ g.factsOf b) := by
    simp only [Std.ExtTreeMap.contains_iff_mem]
    exact MustDeref.forall_mem_exitStates_iff
  unfold parameterDereferenced
  simp only [Bool.and_eq_true, Bool.not_eq_true', List.isEmpty_eq_false_iff_exists_mem,
    List.all_eq_true, MustDeref.exists_mem_exitStates_iff, hassigned, hexits]
  -- without assignments to the parameter, any dereference on a walk is as good as the last fact
  constructor
  · rintro ⟨⟨⟨hpointer, hexit⟩, hall⟩, hassigns⟩
    refine ⟨hpointer, fun hb hf => hassigns _ _ _ hb hf, hexit, fun {b es} hb w => ?_⟩
    obtain ⟨f, hf, hd⟩ := (Fact.lastDereferences_iff_exists fun f hf => by
      obtain ⟨c, block, hc, hf⟩ := Graph.exists_block_of_mem_factsAlong hf
      exact hassigns c block f hc hf).mp (hall b hb es w)
    exact ⟨f, hf, Fact.dereferencesBy_holds_iff.mpr hd⟩
  · intro h
    refine ⟨⟨⟨h.isPointer, h.exists_exit⟩, fun b hb es w => ?_⟩, fun _ _ _ hb hf =>
      h.not_assigns hb hf⟩
    obtain ⟨f, hf, hd⟩ := h.dereferences hb w
    refine (Fact.lastDereferences_iff_exists fun f hf => ?_).mpr
      ⟨f, hf, Fact.dereferencesBy_holds_iff.mp hd⟩
    obtain ⟨c, block, hc, hf⟩ := Graph.exists_block_of_mem_factsAlong hf
    exact h.not_assigns hc hf

/-- The entries that a round makes for the graphs of a list, on top of what was there before. -/
theorem getElem?_foldl_insert (graphs : List Graph) (known : Summaries)
    (m : Std.ExtTreeMap String (List Bool)) (function : String) :
    (graphs.foldl (fun m g => m.insert g.function (known.ofGraph g)) m)[function]? =
      ((Graph.lastNamed? graphs function).map known.ofGraph).or m[function]? := by
  induction graphs generalizing m with
  | nil => rfl
  | cons g graphs ih =>
    rw [List.foldl_cons, ih, Std.ExtTreeMap.getElem?_insert, Graph.lastNamed?_cons]
    simp only [Std.LawfulEqCmp.compare_eq_iff_eq]
    -- a later graph of the function comes first, then this one, then what was there before
    cases Graph.lastNamed? graphs function with
    | some _ => rfl
    | none =>
      by_cases h : g.function = function
      · rw [if_pos h, if_pos h]
        rfl
      · rw [if_neg h, if_neg h]
        rfl

theorem getElem?_round (graphs : List Graph) (known : Summaries) (function : String) :
    (round graphs known).functions[function]? =
      (Graph.lastNamed? graphs function).map known.ofGraph := by
  unfold round
  rw [getElem?_foldl_insert, Std.ExtTreeMap.getElem?_empty, Option.or_none]

/-- What a round says about a parameter of the last listed graph of a function. -/
theorem derefsParameter_round {g : Graph} {p : Parameter}
    (hg : Graph.lastNamed? graphs function = some g) (hp : g.parameters[i]? = some p)
    (known : Summaries) : (round graphs known).derefsParameter function i =
      parameterDereferenced ((MustDeref.analysis known g).exitStates g) g.assignedVars p := by
  unfold derefsParameter
  rw [getElem?_round, hg, Option.map_some, Option.bind_some]
  unfold ofGraph
  rw [List.getElem?_map, hp, Option.map_some, Option.getD_some]

/-- **What the graphs show**, if calls dereference the given parameters: of the last listed graph of
a function the parameters that it surely dereferences. -/
def Shows (graphs : List Graph) (R : Parameters) : Parameters := fun function i =>
  ∃ g p, Graph.lastNamed? graphs function = some g ∧ g.parameters[i]? = some p ∧
    g.SurelyDereferences R p

theorem Shows.mono (hRS : R.Within S) : (Shows graphs R).Within (Shows graphs S) := by
  rintro function i ⟨g, p, hg, hp, h⟩
  exact ⟨g, p, hg, hp, h.mono hRS⟩

/-- **A round finds what the graphs show**, if calls dereference what is known before. -/
theorem holds_round_iff :
    (round graphs known).Holds function i ↔ Shows graphs known.Holds function i := by
  constructor
  · intro h
    -- only parameters of listed functions have entries
    obtain ⟨entry, hentry, hi⟩ : ∃ entry, (round graphs known).functions[function]? = some entry ∧
        entry[i]? = some true := by
      unfold Holds derefsParameter at h
      cases hf : (round graphs known).functions[function]? with
      | none => simp [hf] at h
      | some entry => cases hi : entry[i]? <;> simp_all
    rw [getElem?_round] at hentry
    obtain ⟨g, hg, rfl⟩ := Option.map_eq_some_iff.mp hentry
    unfold ofGraph at hi
    rw [List.getElem?_map] at hi
    obtain ⟨p, hp, hd⟩ := Option.map_eq_some_iff.mp hi
    exact ⟨g, p, hg, hp, parameterDereferenced_iff.mp hd⟩
  · rintro ⟨g, p, hg, hp, h⟩
    unfold Holds
    rw [derefsParameter_round hg hp]
    exact parameterDereferenced_iff.mpr h

/-! ## A round as an operator -/

/-- **Only the set of known parameters matters** to a round. -/
theorem round_congr (h : known.Holds = known'.Holds) :
    round graphs known = round graphs known' := by
  have hgraph : ∀ g : Graph, known.ofGraph g = known'.ofGraph g := by
    intro g
    unfold ofGraph
    refine List.map_congr_left fun p _ => ?_
    rw [Bool.eq_iff_iff, parameterDereferenced_iff, parameterDereferenced_iff, h]
  unfold round
  simp only [hgraph]

/-- Two rounds that find the same parameters have the same result. -/
theorem round_eq_of_holds_eq (h : (round graphs known).Holds = (round graphs known').Holds) :
    round graphs known = round graphs known' := by
  have hentry : ∀ function : String,
      (round graphs known).functions[function]? = (round graphs known').functions[function]? := by
    intro function
    rw [getElem?_round, getElem?_round]
    refine Option.map_congr fun g hg => ?_
    unfold ofGraph
    refine List.map_congr_left fun p hp => ?_
    obtain ⟨i, hi⟩ := List.mem_iff_getElem?.mp hp
    have hsame := congrFun (congrFun h function) i
    unfold Holds at hsame
    rw [derefsParameter_round hg hi, derefsParameter_round hg hi] at hsame
    exact Bool.eq_iff_iff.mpr (Iff.of_eq hsame)
  have hfunctions : (round graphs known).functions = (round graphs known').functions :=
    Std.ExtTreeMap.ext_getElem? hentry
  exact congrArg Summaries.mk hfunctions

/-- **Who knows more finds more.** -/
theorem round_mono (h : known.Holds.Within known'.Holds) :
    (round graphs known).Holds.Within (round graphs known').Holds := by
  intro function i hi
  exact holds_round_iff.mpr ((Shows.mono h) function i (holds_round_iff.mp hi))

end Summaries

end NullFlow
