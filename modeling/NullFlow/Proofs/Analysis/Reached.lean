import Mathlib.Data.List.Basic
import NullFlow.Proofs.Analysis.MustDeref
import NullFlow.Proofs.Analysis.Nullness
import NullFlow.Proofs.Graph.Reached

/-!
# Analyses on graphs that agree where control goes

On two graphs that agree where control reaches, the loop takes the same blocks off its queue and
pushes the same states along the same edges, so it computes the same states
(`Analysis.solve_congr`), and what is reported from these states is the same
(`Analysis.collect_congr`, `Analysis.exitStates_congr`).

The one thing that may differ is the **rank**, for it counts over the variables and lines of the
whole graph, blocks that nothing reaches included. It only serves to tell when a join has changed a
state; an order of which this holds literally is `Analysis.Order.Exact`, and the orders of both
analyses are.
-/

namespace NullFlow

namespace Analysis

variable {σ ρ : Type}

/-- **The rank tells exactly when a join changes a state**: one that does not move the rank gives
the old state back. -/
def Order.Exact {a : Analysis σ ρ} {g : Graph} (o : a.Order g) : Prop :=
  ∀ ⦃s t : σ⦄, o.Fits s → o.Fits t → a.rank s ≤ a.rank (a.join s t) → a.join s t = s

/-- **Two analyses flow alike**: they may differ in their ranks and in what they report. -/
structure FlowsLike (a b : Analysis σ ρ) : Prop where
  entry : a.entry = b.entry
  join : a.join = b.join
  transfer : a.transfer = b.transfer
  refine : a.refine = b.refine

section Push

variable {a b : Analysis σ ρ} {g h : Graph} {oa : a.Order g} {ob : b.Order h}

theorem Order.Exact.rank_lt_iff (ha : oa.Exact) {s t : σ} (hs : oa.Fits s) (ht : oa.Fits t) :
    a.rank (a.join s t) < a.rank s ↔ a.join s t ≠ s := by
  constructor
  · intro hlt heq
    rw [heq] at hlt
    exact Nat.lt_irrefl _ hlt
  · intro hne
    exact Nat.lt_of_not_le fun hle => hne (ha hs ht hle)

/-- **Analyses that flow alike push alike**, as long as the states fit for both. -/
theorem push_congr (hab : a.FlowsLike b) (ha : oa.Exact) (hb : ob.Exact) {block : Block} {out : σ}
    {e : Edge} {now : States σ × List BlockId} (hfa : oa.AllFit now.1) (hfb : ob.AllFit now.1)
    (hout : ∀ t, a.refine block e out = some t → oa.Fits t ∧ ob.Fits t) :
    a.push block out e now = b.push block out e now := by
  unfold push
  rw [← hab.refine]
  cases hr : a.refine block e out with
  | none => rfl
  | some t =>
    obtain ⟨hta, htb⟩ := hout t hr
    cases ho : now.1[e.target]? with
    | none => rfl
    | some old =>
      have hiff : a.rank (a.join old t) < a.rank old ↔ b.rank (b.join old t) < b.rank old := by
        rw [ha.rank_lt_iff (hfa _ old ho) hta, hb.rank_lt_iff (hfb _ old ho) htb, hab.join]
      simp only [hiff]
      rw [hab.join]

/-- What flows along several edges keeps the states fit for both analyses, and is the same for
both. -/
theorem pushAll_congr (hab : a.FlowsLike b) (ha : oa.Exact) (hb : ob.Exact) {block : Block}
    {out : σ} {es : List Edge} {now : States σ × List BlockId} (hfa : oa.AllFit now.1)
    (hfb : ob.AllFit now.1)
    (hout : ∀ e t, a.refine block e out = some t → oa.Fits t ∧ ob.Fits t) :
    a.pushAll block out es now = b.pushAll block out es now := by
  induction es generalizing now with
  | nil => rfl
  | cons e es ih =>
    have hpush := push_congr hab ha hb hfa hfb (hout e)
    have hout' : ∀ t, b.refine block e out = some t → ob.Fits t := by
      rw [← hab.refine]
      exact fun t hr => (hout e t hr).2
    show a.pushAll block out es (a.push block out e now)
      = b.pushAll block out es (b.push block out e now)
    rw [← hpush]
    exact ih (hfa.push fun t hr => (hout e t hr).1) (hpush ▸ hfb.push hout')

/-- A block in the queue after some edges was there before, or one of them leads to it. -/
theorem mem_queue_pushAll {block : Block} {out : σ} {es : List Edge}
    {now : States σ × List BlockId} {c : BlockId} (hc : c ∈ (a.pushAll block out es now).2) :
    c ∈ now.2 ∨ ∃ e ∈ es, c = e.target := by
  refine pushAll_invariant (I := fun next => ∀ c ∈ next.2, c ∈ now.2 ∨ ∃ e ∈ es, c = e.target)
    a block out (fun e he next hI c hc => ?_) (fun c hc => Or.inl hc) c hc
  have hp := a.push_pushed block out e next
  generalize a.push block out e next = last at hc hp
  have henqueue : c ∈ enqueue next.2 e.target → c ∈ now.2 ∨ ∃ e ∈ es, c = e.target := fun h =>
    (mem_enqueue.mp h).elim (hI c) fun h => Or.inr ⟨e, he, h⟩
  cases hp with
  | blocked _ => exact hI c hc
  | settled _ _ _ => exact hI c hc
  | fresh _ _ => exact henqueue hc
  | joined _ _ => exact henqueue hc

end Push

/-! ## The loop -/

/-- A block that has a state and exists is reached. -/
theorem reaches_of_solve (a : Analysis σ ρ) {g : Graph} {b : BlockId} {s : σ}
    (hs : (a.solve g)[b]? = some s) (hb : b ∈ g.blocks) : g.Reaches b := by
  refine a.solve_induction g (P := fun b _ => b ∈ g.blocks → g.Reaches b)
    (fun _ hin => ⟨[], .nil hin⟩) (fun hP hblock he _ ht => ?_) (fun hs _ => hs) hs hb
  exact (hP (Graph.mem_blocks_of_getElem? hblock)).snoc he ht

section Solve

variable {a b : Analysis σ ρ} {g h : Graph} {oa : a.Order g} {ob : b.Order h}

/-- **The invariant of two loops at once**: their states fit for both analyses, and a block in their
queue is reached if it exists. -/
structure InStep (oa : a.Order g) (ob : b.Order h) (states : States σ) (queue : List BlockId) :
    Prop where
  fitsLeft : oa.AllFit states
  fitsRight : ob.AllFit states
  reached {c : BlockId} (hc : c ∈ queue) (hin : c ∈ g.blocks ∨ c ∈ h.blocks) : g.Reaches c

theorem InStep.blocks (agree : g.AgreesWhereReached h) {states : States σ} {queue : List BlockId}
    (hin : InStep oa ob states queue) {c : BlockId} (hc : c ∈ queue) :
    g.blocks[c]? = h.blocks[c]? :=
  agree.blocks_of_imp (fun hg => hin.reached hc (Or.inl hg))
    (fun hh => agree.reaches_iff.mp (hin.reached hc (Or.inr hh)))

/-- **Taking a block off both queues** does the same to both, and the invariant stays. -/
theorem InStep.step (agree : g.AgreesWhereReached h) (hab : a.FlowsLike b) (ha : oa.Exact)
    (hb : ob.Exact) {c : BlockId} {rest : List BlockId} {states : States σ} {block : Block}
    {state : σ} (hin : InStep oa ob states (c :: rest)) (hblock : g.blocks[c]? = some block)
    (hs : states[c]? = some state) :
    a.pushAll block (a.transfer block state) (g.outEdges c) (states, rest)
        = b.pushAll block (b.transfer block state) (h.outEdges c) (states, rest) ∧
      InStep oa ob (a.pushAll block (a.transfer block state) (g.outEdges c) (states, rest)).1
        (a.pushAll block (a.transfer block state) (g.outEdges c) (states, rest)).2 := by
  have hreached : g.Reaches c :=
    hin.reached List.mem_cons_self (Or.inl (Graph.mem_blocks_of_getElem? hblock))
  have hblock' : h.blocks[c]? = some block := by
    rw [← hin.blocks agree List.mem_cons_self, hblock]
  have hleft : ∀ e t, a.refine block e (a.transfer block state) = some t → oa.Fits t :=
    fun e t hr => oa.fits_flow hblock (hin.fitsLeft c state hs) hr
  have hright : ∀ e t, b.refine block e (b.transfer block state) = some t → ob.Fits t :=
    fun e t hr => ob.fits_flow hblock' (hin.fitsRight c state hs) hr
  have hsame : a.pushAll block (a.transfer block state) (g.outEdges c) (states, rest)
      = b.pushAll block (b.transfer block state) (h.outEdges c) (states, rest) := by
    rw [← agree.outEdges (Or.inl hreached), ← hab.transfer]
    rw [← hab.transfer, ← hab.refine] at hright
    exact pushAll_congr hab ha hb hin.fitsLeft hin.fitsRight
      fun e t hr => ⟨hleft e t hr, hright e t hr⟩
  refine ⟨hsame, ?_, ?_, fun {d} hd hex => ?_⟩
  · exact pushAll_invariant (I := fun now => oa.AllFit now.1) a block _
      (fun e _ now hnow => hnow.push (hleft e)) hin.fitsLeft
  · rw [hsame]
    exact pushAll_invariant (I := fun now => ob.AllFit now.1) b block _
      (fun e _ now hnow => hnow.push (hright e)) hin.fitsRight
  · rcases mem_queue_pushAll hd with hd | ⟨e, he, rfl⟩
    · exact hin.reached (List.mem_cons_of_mem c hd) hex
    · -- the end of an edge out of a reached block: in either graph the edge leads there
      rcases hex with hg | hh
      · exact hreached.snoc he hg
      · rw [agree.outEdges (Or.inl hreached)] at he
        exact agree.reaches_iff.mpr ((agree.reaches_iff.mp hreached).snoc he hh)

/-- Both loops end with the same states. -/
theorem InStep.iterate (agree : g.AgreesWhereReached h) (hab : a.FlowsLike b) (ha : oa.Exact)
    (hb : ob.Exact) {states : States σ} {queue : List BlockId} (hin : InStep oa ob states queue) :
    a.iterate g states queue = b.iterate h states queue := by
  induction states, queue using iterate.induct a g with
  | case1 states => rw [Analysis.iterate, Analysis.iterate]
  | case2 states c rest block state hs hblock now ih =>
    obtain ⟨hsame, hnext⟩ := hin.step agree hab ha hb hblock hs
    rw [Analysis.iterate, Analysis.iterate, ← hin.blocks agree List.mem_cons_self, hblock, hs]
    simp only [← hsame]
    exact ih hnext
  | case3 states c rest hnone ih =>
    have hrest : InStep oa ob states rest :=
      ⟨hin.fitsLeft, hin.fitsRight, fun hc => hin.reached (List.mem_cons_of_mem c hc)⟩
    rw [Analysis.iterate, Analysis.iterate, ← hin.blocks agree List.mem_cons_self]
    split
    · next block state hblock hs => exact (hnone block state hblock hs).elim
    · exact ih hrest

/-- **Analyses that flow alike compute the same states** on graphs that agree where control
reaches. -/
theorem solve_congr (agree : g.AgreesWhereReached h) (hab : a.FlowsLike b) (ha : oa.Exact)
    (hb : ob.Exact) : a.solve g = b.solve h := by
  have hentry : g.entry ∈ g.blocks ↔ h.entry ∈ h.blocks :=
    ⟨fun hin => agree.entry ▸ agree.mem_blocks ⟨[], .nil hin⟩,
      fun hin => agree.entry ▸ agree.symm.mem_blocks ⟨[], .nil hin⟩⟩
  unfold solve
  by_cases hin : g.entry ∈ g.blocks
  · rw [if_pos hin, if_pos (hentry.mp hin), ← agree.entry, ← hab.entry]
    refine InStep.iterate agree hab ha hb ⟨oa.invariant_start.fits, ?_, fun {c} hc _ => ?_⟩
    · rw [agree.entry, hab.entry]
      exact ob.invariant_start.fits
    · rw [List.mem_singleton.mp hc]
      exact ⟨[], .nil hin⟩
  · rw [if_neg hin, if_neg (hin ∘ hentry.mpr)]

/-- A block with a state is the same in both graphs. -/
theorem blocks_of_solve (agree : g.AgreesWhereReached h) (hsolve : a.solve g = b.solve h)
    {c : BlockId} {s : σ} (hs : (a.solve g)[c]? = some s) : g.blocks[c]? = h.blocks[c]? :=
  agree.blocks_of_imp (a.reaches_of_solve hs) (b.reaches_of_solve (hsolve ▸ hs))

/-- **The states at the exits are the same.** -/
theorem exitStates_congr (agree : g.AgreesWhereReached h) (hab : a.FlowsLike b)
    (hsolve : a.solve g = b.solve h) : a.exitStates g = b.exitStates h := by
  unfold exitStates
  rw [← agree.exits]
  refine List.filterMap_congr fun c _ => ?_
  rw [← hsolve, ← hab.transfer]
  cases hs : (a.solve g)[c]? with
  | none => cases g.blocks[c]? <;> cases h.blocks[c]? <;> rfl
  | some s => rw [blocks_of_solve agree hsolve hs]

/-- The reports, from the map of those of each block that has a state. -/
theorem collect_eq (a : Analysis σ ρ) (g : Graph) : a.collect g =
    (g.blocks.filterMap fun c block => ((a.solve g)[c]?).map (a.reports block)).toList.flatMap
      (·.2) := by
  unfold collect
  rw [Std.ExtTreeMap.toList_filterMap]
  induction g.blocks.toList with
  | nil => rfl
  | cons p l ih =>
    simp only at ih
    rw [List.flatMap_cons, ih, List.filterMap_cons]
    cases hs : (a.solve g)[p.1]? with
    | none => simp only [hs, Option.map_none, List.nil_append]
    | some s => simp only [hs, Option.map_some, List.flatMap_cons]

/-- **The reports are the same**, if those of a block are. -/
theorem collect_congr (agree : g.AgreesWhereReached h) (hreports : a.reports = b.reports)
    (hsolve : a.solve g = b.solve h) : a.collect g = b.collect h := by
  rw [collect_eq a g, collect_eq b h, ← hsolve, ← hreports]
  have hblocks : (g.blocks.filterMap fun c block => ((a.solve g)[c]?).map (a.reports block))
      = h.blocks.filterMap fun c block => ((a.solve g)[c]?).map (a.reports block) := by
    refine Std.ExtTreeMap.ext_getElem? fun c => ?_
    rw [Std.ExtTreeMap.getElem?_filterMap', Std.ExtTreeMap.getElem?_filterMap']
    cases hs : (a.solve g)[c]? with
    | none => cases g.blocks[c]? <;> cases h.blocks[c]? <;> rfl
    | some s => rw [blocks_of_solve agree hsolve hs]
  rw [hblocks]

end Solve

end Analysis

/-! ## The two analyses -/

/-- Joining a value with one below it changes nothing. -/
theorem Nullness.join_eq_left_of_below {x y : Option Nullness} (h : Below y x) : join x y = x := by
  rcases x with _ | _ | a | a <;> rcases y with _ | _ | b | b <;>
    simp_all [Below, join, origin?, Origin.earliest]

/-- The rank of a state tells exactly when a join changes it. -/
theorem ForwardNull.exact_order (known : Summaries) (g : Graph) : (order known g).Exact := by
  intro s t hs ht hle
  refine Std.ExtTreeMap.ext_getElem? fun v => ?_
  show (s.join t)[v]? = s[v]?
  rw [NullState.getElem?_join]
  exact Nullness.join_eq_left_of_below ((order known g).below_of_rank_le hs ht hle v)

theorem MustDeref.exact_order (known : Summaries) (g : Graph) : (order known g).Exact := by
  intro s t _ _ hle
  refine Std.ExtTreeMap.ext_getElem? fun v => ?_
  show (s.join t)[v]? = s[v]?
  rw [DerefState.getElem?_join]
  cases hs : s[v]? with
  | none => rfl
  | some a =>
    refine Classical.byContradiction fun hne => ?_
    exact Nat.not_le_of_lt (DerefState.rank_join_lt_of_ne hs hne) hle

section Congr

variable {g h : Graph} (agree : g.AgreesWhereReached h) (known : Summaries)

include agree

/-- **The forward analysis reports the same** in graphs that agree where control reaches. -/
theorem ForwardNull.collect_congr :
    (analysis known g).collect g = (analysis known h).collect h := by
  have hfinding : finding g = finding h := by
    unfold finding
    rw [agree.file, agree.function]
  have hderefs : dereferenceFindings g = dereferenceFindings h := by
    funext s ds
    induction ds generalizing s with
    | nil => rfl
    | cons d ds ih => rw [dereferenceFindings, dereferenceFindings, hfinding, ih]
  have hreports : factFindings known g = factFindings known h := by
    funext s fs
    induction fs generalizing s with
    | nil => rfl
    | cons f fs ih => rw [factFindings, factFindings, hderefs, ih]
  refine Analysis.collect_congr agree ?_ (Analysis.solve_congr agree ⟨rfl, rfl, rfl, rfl⟩
    (exact_order known g) (exact_order known h))
  funext block s
  show factFindings known g s block.facts = factFindings known h s block.facts
  rw [hreports]

theorem MustDeref.solve_congr : (analysis known g).solve g = (analysis known h).solve h :=
  Analysis.solve_congr agree ⟨rfl, rfl, rfl, rfl⟩ (exact_order known g) (exact_order known h)

/-- **The analysis of certain dereferences reports the same** in such graphs. -/
theorem MustDeref.collect_congr :
    (analysis known g).collect g = (analysis known h).collect h := by
  refine Analysis.collect_congr agree ?_ (solve_congr agree known)
  have hfinding : finding g = finding h := by
    unfold finding
    rw [agree.file, agree.function]
  funext block s
  show conditionFindings g block _ = conditionFindings h block _
  unfold conditionFindings
  rw [hfinding]

theorem MustDeref.exitStates_congr :
    (analysis known g).exitStates g = (analysis known h).exitStates h :=
  Analysis.exitStates_congr agree ⟨rfl, rfl, rfl, rfl⟩ (solve_congr agree known)

end Congr

end NullFlow
