import Mathlib.Data.List.Forall2
import NullFlow.Proofs.Analysis.Reached
import NullFlow.Proofs.Check.ForwardNull
import NullFlow.Proofs.Summary.Rounds

/-!
# Code that control does not reach

Blocks that no walk from the entry leads to have no states, so neither analysis reports anything in
them or lets anything flow out of them. In one place they count all the same: a parameter counts as
assigned to if **any** block of the graph assigns to it. Graphs that agree where control reaches
therefore have the same findings if they also agree on which pointer parameters are assigned to, or
if calls are not looked into (`CheckOptions.check_congr`); an assignment behind a `return` is enough
to hide what a function dereferences from its callers (`CheckOptions.check_assigningBehindReturn`).
-/

namespace NullFlow

/-- **Two graphs agree on the pointer parameters that are assigned to**, by whatever block. -/
def Graph.AgreesOnAssigned (g h : Graph) : Prop :=
  ∀ p ∈ g.parameters, p.isPointer = true → (p.name ∈ g.assignedVars ↔ p.name ∈ h.assignedVars)

/-! ## Summaries -/

namespace Summaries

variable {g h : Graph} {gs hs : List Graph}

/-- What a graph shows about its parameters, it shows where control reaches, except for
assignments. -/
theorem ofGraph_congr (known : Summaries) (agree : g.AgreesWhereReached h)
    (assigned : g.AgreesOnAssigned h) : known.ofGraph g = known.ofGraph h := by
  unfold ofGraph
  rw [← agree.parameters, ← MustDeref.exitStates_congr agree known]
  refine List.map_congr_left fun p hp => ?_
  unfold parameterDereferenced
  cases hpointer : p.isPointer with
  | false => rfl
  | true =>
    have hcontains : g.assignedVars.contains p.name = h.assignedVars.contains p.name := by
      rw [Bool.eq_iff_iff, Std.ExtTreeSet.contains_iff_mem, Std.ExtTreeSet.contains_iff_mem]
      exact assigned p hp hpointer
    rw [hcontains]

theorem round_congr_graphs (known : Summaries) (agree : List.Forall₂ Graph.AgreesWhereReached gs hs)
    (assigned : List.Forall₂ Graph.AgreesOnAssigned gs hs) : round gs known = round hs known := by
  unfold round
  congr 1
  generalize (∅ : Std.ExtTreeMap String (List Bool)) = m
  induction agree generalizing m with
  | nil => rfl
  | cons hgh _ ih =>
    cases assigned with
    | cons hassigned assigned =>
      rw [List.foldl_cons, List.foldl_cons, hgh.function, ofGraph_congr known hgh hassigned]
      exact ih assigned _

theorem rounds_congr_graphs (known : Summaries) (n : Nat)
    (agree : List.Forall₂ Graph.AgreesWhereReached gs hs)
    (assigned : List.Forall₂ Graph.AgreesOnAssigned gs hs) :
    rounds gs n known = rounds hs n known := by
  induction n generalizing known with
  | zero => rfl
  | succ n ih => rw [rounds, rounds, round_congr_graphs known agree assigned, ih]

theorem compute_congr (agree : List.Forall₂ Graph.AgreesWhereReached gs hs)
    (assigned : List.Forall₂ Graph.AgreesOnAssigned gs hs) : compute gs = compute hs := by
  unfold compute
  rw [agree.length_eq]
  exact rounds_congr_graphs _ _ agree assigned

end Summaries

/-! ## Findings -/

namespace CheckOptions

variable {o : CheckOptions} {gs hs : List Graph}

/-- The findings in a graph are made where control reaches, given what is known about calls. -/
theorem findingsIn_congr (o : CheckOptions) (known : Summaries) {g h : Graph}
    (agree : g.AgreesWhereReached h) : o.findingsIn known g = o.findingsIn known h := by
  unfold findingsIn
  rw [ForwardNull.collect_congr agree known, MustDeref.collect_congr agree known]

/-- **Code that control does not reach does not matter**, except for assignments to pointer
parameters where calls are looked into. -/
theorem check_congr (agree : List.Forall₂ Graph.AgreesWhereReached gs hs)
    (assigned : o.interprocedural = true → List.Forall₂ Graph.AgreesOnAssigned gs hs) :
    o.check gs = o.check hs := by
  have hknown : o.summaries gs = o.summaries hs := by
    unfold summaries
    split
    · next hcalls => exact Summaries.compute_congr agree (assigned hcalls)
    · rfl
  have hfindings : gs.flatMap (o.findingsIn (o.summaries hs))
      = hs.flatMap (o.findingsIn (o.summaries hs)) := by
    generalize o.summaries hs = known
    clear hknown assigned
    induction agree with
    | nil => rfl
    | cons hgh _ ih => rw [List.flatMap_cons, List.flatMap_cons, findingsIn_congr o known hgh, ih]
  unfold check
  simp only [hknown, hfindings]

end CheckOptions

/-! ## A block behind a return -/

namespace Graph

/-- A function that reads through its parameter on line 2 and returns, with the given statements
behind the `return`. -/
def readingParameter (behind : List Statement) : Graph :=
  (({ function := "use", file := "a.c", parameters := [⟨"p", true⟩] } : Graph).addBlock
    { id := 0, label := "entry", terminator := .returning, isExit := true,
      statements := [⟨2, .expression, "*p;", [.deref "p" .star 2]⟩] }).addBlock
    { id := 1, label := "unreachable", statements := behind }

/-- A function that passes null to it. -/
def passingNull : Graph :=
  ({ function := "g", file := "a.c" } : Graph).addBlock
    { id := 0, label := "entry",
      statements := [⟨6, .declaration ["q"], "int *q = 0;", [.assign "q" .null 6]⟩,
        ⟨7, .call "use", "use(q);", [.call "use" [some "q"] 7]⟩] }

/-- No walk leaves the entry. -/
theorem walk_readingParameter {behind : List Statement} {es : List Edge} {b : BlockId}
    (w : (readingParameter behind).Walk 0 es b) : es = [] ∧ b = 0 := by
  cases w with
  | nil _ => exact ⟨rfl, rfl⟩
  | snoc _ he _ => cases he

theorem agreesWhereReached_readingParameter (ss ts : List Statement) :
    (readingParameter ss).AgreesWhereReached (readingParameter ts) where
  function := rfl
  file := rfl
  parameters := rfl
  entry := rfl
  exits := rfl
  blocks {b} hb := by
    have h0 : b = 0 := by
      rcases hb with ⟨es, w⟩ | ⟨es, w⟩
      · exact (walk_readingParameter w).2
      · exact (walk_readingParameter w).2
    rw [h0]
    rfl
  outEdges _ := rfl

theorem agreesWhereReached_refl (g : Graph) : g.AgreesWhereReached g :=
  ⟨rfl, rfl, rfl, rfl, rfl, fun _ => rfl, fun _ => rfl⟩

end Graph

theorem CheckOptions.check_congr_readingParameter :
    ({} : CheckOptions).check [.readingParameter [], .passingNull]
      = ({} : CheckOptions).check
          [.readingParameter [⟨4, .assignment "q", "q = 0;", [.assign "q" .null 4]⟩],
            .passingNull] := by
  refine check_congr
    (.cons (Graph.agreesWhereReached_readingParameter _ _)
      (.cons (Graph.agreesWhereReached_refl _) .nil))
    fun _ => .cons (fun p hp _ => ?_) (.cons (fun p hp _ => (List.not_mem_nil hp).elim) .nil)
  rw [List.mem_singleton.mp hp]
  decide

/-! ## An assignment behind a return -/

namespace Graph

/-- The same function with an assignment to the parameter behind the `return`. -/
def assigningBehindReturn : Graph :=
  readingParameter [⟨4, .assignment "p", "p = 0;", [.assign "p" .null 4]⟩]

theorem block_passingNull {b : BlockId} {block : Block}
    (hb : passingNull.blocks[b]? = some block) :
    block.facts = [.assign "q" .null 6, .call "use" [some "q"] 7] ∧
      block.terminator = .fallThrough := by
  change ((∅ : Std.ExtTreeMap BlockId Block).insert 0 _)[b]? = some block at hb
  rw [Std.ExtTreeMap.getElem?_insert] at hb
  split at hb
  · cases hb
    exact ⟨rfl, rfl⟩
  · simp at hb

end Graph

namespace CheckOptions

theorem summaries_eq_compute (graphs : List Graph) :
    ({} : CheckOptions).summaries graphs = .compute graphs := by
  unfold summaries
  rw [if_pos rfl]

/-- Without anything behind the `return` the function is known to dereference what it is passed. -/
theorem holds_summaries_readingParameter :
    (({} : CheckOptions).summaries [.readingParameter [], .passingNull]).Holds "use" 0 := by
  rw [summaries_eq_compute]
  refine Summaries.rounds_within_compute (n := 1) (by decide) "use" 0 ?_
  rw [Summaries.rounds_succ, Summaries.holds_round_iff]
  refine ⟨.readingParameter [], ⟨"p", true⟩, rfl, rfl, rfl, fun {b block f} hb hf h => ?_,
    ⟨0, List.mem_singleton_self 0, [], .nil (by decide)⟩, fun {b es} hb w => ?_⟩
  · have hassigned : "p" ∉ (Graph.readingParameter []).assignedVars := by decide
    exact hassigned (Graph.mem_assignedVars.mpr ⟨b, block, f, hb, hf, h⟩)
  · obtain ⟨rfl, rfl⟩ := Graph.walk_readingParameter w
    exact ⟨_, List.mem_singleton_self _, .deref .star 2⟩

/-- An assignment to the parameter behind the `return` keeps this from being known. -/
theorem not_holds_summaries_assigningBehindReturn :
    ¬(({} : CheckOptions).summaries [.assigningBehindReturn, .passingNull]).Holds "use" 0 := by
  rw [summaries_eq_compute, Summaries.compute_eq_round, Summaries.holds_round_iff]
  rintro ⟨g, p, hg, hp, h⟩
  cases hg
  cases hp
  exact h.not_assigns (b := 1) rfl (List.mem_singleton_self _) (.assign .null 4)

/-- **A call that passes null to a function that dereferences it** is reported in the caller. -/
theorem exists_mem_findingsIn_passingNull {known : Summaries} (h : known.Holds "use" 0) :
    ∃ f ∈ ({} : CheckOptions).findingsIn known .passingNull, f.function = "g" := by
  have hnull : (NullState.afterAll known ∅ [.assign "q" .null 6])["q"]?
      = some (.null ⟨6, .assignZero⟩) := Std.ExtTreeMap.getElem?_insert_self
  have hwalk : Graph.passingNull.Walk Graph.passingNull.entry [] 0 := .nil (by decide)
  obtain ⟨o, hf⟩ := ForwardNull.exists_finding_of_along (f := .call "use" [some "q"] 7) hwalk rfl
    rfl rfl (.call (i := 0) rfl h) hnull
  exact ⟨_, mem_findingsIn.mpr (Or.inl ⟨rfl, hf⟩), rfl⟩

/-- Nothing is reported in the caller if the function is not known to dereference it. -/
theorem findingsIn_passingNull {known : Summaries} (h : ¬known.Holds "use" 0) :
    ({} : CheckOptions).findingsIn known .passingNull = [] := by
  refine findingsIn_eq_nil (fun b block hb f hf v hderef => ?_) fun b block hb _ _ _ => ?_
  · rw [(Graph.block_passingNull hb).1] at hf
    simp only [List.mem_cons, List.not_mem_nil, or_false] at hf
    rcases hf with rfl | rfl
    · cases hderef
    · obtain @⟨_, _, _, _⟩ | @⟨_, _, _, i, ha, hk⟩ := hderef
      cases i with
      | zero => exact h hk
      | succ i => cases ha
  · rw [(Graph.block_passingNull hb).2]
    exact nofun

/-- **Unreachable code hides a defect.** The graphs agree where control reaches, but the defect that
is reported in the caller goes unreported once the callee assigns to its parameter behind the
`return`. -/
theorem check_assigningBehindReturn :
    List.Forall₂ Graph.AgreesWhereReached
      [.readingParameter [], .passingNull] [.assigningBehindReturn, .passingNull] ∧
    ({} : CheckOptions).check [.readingParameter [], .passingNull]
      ≠ ({} : CheckOptions).check [.assigningBehindReturn, .passingNull] := by
  refine ⟨.cons (Graph.agreesWhereReached_readingParameter _ _)
    (.cons (Graph.agreesWhereReached_refl _) .nil), fun heq => ?_⟩
  obtain ⟨f, hf, hfunction⟩ := exists_mem_findingsIn_passingNull holds_summaries_readingParameter
  have hgraph : .passingNull ∈ [.readingParameter [], Graph.passingNull] :=
    List.mem_cons_of_mem _ List.mem_cons_self
  obtain ⟨x, hx, hdefect⟩ := exists_mem_check hgraph hf
  have hcaller : x.function = "g" := (congrArg Defect.function hdefect).trans hfunction
  -- with the assignment, it could only have been made in one of the graphs
  rw [heq] at hx
  obtain ⟨g, hg, hx⟩ := mem_check hx
  rcases List.mem_cons.mp hg with rfl | hg
  · have hcallee : x.function = "use" := (file_function_of_mem_findingsIn hx).2
    rw [hcaller] at hcallee
    exact absurd hcallee (by decide)
  · rw [List.mem_singleton.mp hg] at hx
    have hnone := findingsIn_passingNull not_holds_summaries_assigningBehindReturn
    exact List.not_mem_nil (hnone ▸ hx)

end CheckOptions

end NullFlow
