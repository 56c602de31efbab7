import NullFlow.Analysis.Nullness
import NullFlow.Proofs.Graph.Walk
import NullFlow.Proofs.Structured.Statement

/-!
# What a walk executes

A walk executes the statements of the blocks it leaves, decides their conditions by the edges it
takes, and executes the statements of the block it ends at; `Graph.reading` lists these actions.

An execution may also be watched from the middle of a block on. `Graph.Goes` follows one from any
place up to the end of the function, and counts its steps, because a loop without statements
takes steps without an action. From the start of a block it is the same as a walk to an exit, or to
a block that ends in a call that never returns (`Graph.exists_goes_iff_walk`).
-/

namespace NullFlow

/-- What taking an edge decides. -/
def EdgeKind.decided (k : EdgeKind) : List Action := (k.outcome?.map .decided).toList

/-- The block ends in a call to a function that never returns. -/
def Block.Halts (block : Block) : Prop := ∃ f, block.terminator = .noReturn f

namespace Graph

variable {g : Graph}

/-- The statements of a block, none if it does not exist. -/
def statementsOf (g : Graph) (b : BlockId) : List Statement :=
  (g.blocks[b]?).elim [] (·.statements)

/-- The actions of leaving a block along an edge. -/
def actionsOf (g : Graph) (e : Edge) : List Action :=
  (g.statementsOf e.source).map .ran ++ e.kind.decided

/-- **What a walk executes**, to the end of the block it ends at. -/
def reading (g : Graph) (es : List Edge) (b : BlockId) : List Action :=
  es.flatMap g.actionsOf ++ (g.statementsOf b).map .ran

/-- **How an execution of a function ends**: it leaves the function, or it halts in a call. -/
inductive Stop where
  | left
  | halted

/-- **A block at which executions end.** -/
inductive StopsAt (g : Graph) (b : BlockId) : Stop → Prop
  | left (hb : b ∈ g.blocks) (he : b ∈ g.exits) : StopsAt g b .left
  | halted {block : Block} (hb : g.blocks[b]? = some block) (ht : block.Halts) : StopsAt g b .halted

theorem stopsAt_halted_iff {b : BlockId} :
    g.StopsAt b .halted ↔ ∃ block, g.blocks[b]? = some block ∧ block.Halts := by
  constructor
  · rintro (_ | ⟨hb, ht⟩)
    exact ⟨_, hb, ht⟩
  · rintro ⟨_, hb, ht⟩
    exact .halted hb ht

/-- A walk ends at a block that exists, so it may end at any exit. -/
theorem Walk.stopsAt_left_iff {b c : BlockId} {es : List Edge} (w : g.Walk b es c) :
    g.StopsAt c .left ↔ c ∈ g.exits :=
  ⟨fun | .left _ he => he, fun he => .left w.mem_blocks he⟩

/-- **A place in a function**: a block, and those of its statements that are still to come. -/
structure Place where
  block : BlockId
  rest : List Statement

/-- The start of a block. -/
def start (g : Graph) (b : BlockId) : Place := ⟨b, g.statementsOf b⟩

/-- **An execution from a place to its end**, with the number of its steps. -/
inductive Goes (g : Graph) : Nat → Place → List Action → Stop → Prop
  /-- The block is at its end, and the execution too. -/
  | stop {b : BlockId} {stop : Stop} (h : g.StopsAt b stop) : Goes g 0 ⟨b, []⟩ [] stop
  /-- The next statement of the block. -/
  | past {n : Nat} {b : BlockId} {s : Statement} {rest : List Statement} {as : List Action}
      {stop : Stop} (h : Goes g n ⟨b, rest⟩ as stop) :
      Goes g (n + 1) ⟨b, s :: rest⟩ (.ran s :: as) stop
  /-- An edge out of the block. -/
  | along {n : Nat} {b : BlockId} {e : Edge} {as : List Action} {stop : Stop} (hb : b ∈ g.blocks)
      (he : e ∈ g.outEdges b) (h : Goes g n (g.start e.target) as stop) :
      Goes g (n + 1) ⟨b, []⟩ (e.kind.decided ++ as) stop

theorem StopsAt.mem_blocks {b : BlockId} {stop : Stop} (h : g.StopsAt b stop) : b ∈ g.blocks := by
  cases h with
  | left hb _ => exact hb
  | halted hb _ => exact mem_blocks_of_getElem? hb

/-! ## Executions and walks -/

/-- The next statement of a block is executed. -/
theorem goes_cons_iff {n : Nat} {b : BlockId} {s : Statement} {rest : List Statement}
    {as : List Action} {stop : Stop} : g.Goes n ⟨b, s :: rest⟩ as stop ↔
      ∃ m bs, n = m + 1 ∧ as = .ran s :: bs ∧ g.Goes m ⟨b, rest⟩ bs stop := by
  constructor
  · rintro ⟨⟩
    exact ⟨_, _, rfl, rfl, ‹_›⟩
  · rintro ⟨m, bs, rfl, rfl, h⟩
    exact h.past

/-- The statements of a block are executed one by one. -/
theorem goes_append_iff {b : BlockId} {ss rest : List Statement} {n : Nat} {as : List Action}
    {stop : Stop} : g.Goes n ⟨b, ss ++ rest⟩ as stop ↔
      ∃ m bs, n = m + ss.length ∧ as = ss.map .ran ++ bs ∧ g.Goes m ⟨b, rest⟩ bs stop := by
  induction ss generalizing n as with
  | nil => simp only [List.nil_append, List.length_nil, Nat.add_zero, List.map_nil, exists_and_left,
      exists_eq_left']
  | cons s ss ih =>
    rw [List.cons_append, goes_cons_iff]
    simp only [ih]
    constructor
    · rintro ⟨_, _, rfl, rfl, m, bs, rfl, rfl, h⟩
      exact ⟨m, bs, rfl, rfl, h⟩
    · rintro ⟨m, bs, rfl, rfl, h⟩
      exact ⟨_, _, rfl, rfl, m, bs, rfl, rfl, h⟩

/-- All statements of a block are executed. -/
theorem goes_start_iff {b : BlockId} {n : Nat} {as : List Action} {stop : Stop} :
    g.Goes n (g.start b) as stop ↔
      ∃ m bs, n = m + (g.statementsOf b).length ∧ as = (g.statementsOf b).map .ran ++ bs ∧
        g.Goes m ⟨b, []⟩ bs stop := by
  rw [← goes_append_iff, List.append_nil]
  rfl

/-- What a walk with one more edge at its start executes. -/
theorem reading_cons (e : Edge) (es : List Edge) (c : BlockId) :
    g.reading (e :: es) c
      = (g.statementsOf e.source).map .ran ++ (e.kind.decided ++ g.reading es c) := by
  simp only [reading, actionsOf, List.flatMap_cons, List.append_assoc]

/-- The walk of an execution, from the end of its first block on. -/
theorem Goes.exists_walk {n : Nat} {p : Place} {as : List Action} {stop : Stop}
    (h : g.Goes n p as stop) : ∃ es c, g.Walk p.block es c ∧ g.StopsAt c stop ∧
      ∀ before, g.statementsOf p.block = before ++ p.rest →
        before.map .ran ++ as = g.reading es c := by
  induction h with
  | @stop b _ h =>
    refine ⟨[], b, .nil h.mem_blocks, h, fun before hbefore => ?_⟩
    rw [List.append_nil] at hbefore
    simp only [reading, List.flatMap_nil, List.nil_append, List.append_nil, hbefore]
  | @past _ b s rest _ _ h ih =>
    obtain ⟨es, c, w, hstop, hreading⟩ := ih
    refine ⟨es, c, w, hstop, fun before hbefore => ?_⟩
    rw [← hreading (before ++ [s]) (by rw [hbefore, List.append_assoc]; rfl)]
    simp only [List.map_append, List.map_cons, List.map_nil, List.append_assoc, List.cons_append,
      List.nil_append]
  | @along _ b e as _ hb he h ih =>
    obtain ⟨es, c, w, hstop, hreading⟩ := ih
    refine ⟨e :: es, c, w.cons hb he, hstop, fun before hbefore => ?_⟩
    rw [List.append_nil] at hbefore
    rw [reading_cons, source_of_mem_outEdges he, hbefore, ← hreading [] rfl]
    rfl

/-- The execution along a walk, followed by an execution from its end. -/
theorem Walk.goes {b c : BlockId} {es : List Edge} (w : g.Walk b es c) {n : Nat} {as : List Action}
    {stop : Stop} (h : g.Goes n (g.start c) as stop) :
    ∃ m, g.Goes m (g.start b) (es.flatMap g.actionsOf ++ as) stop := by
  induction w generalizing n as with
  | nil _ => exact ⟨n, h⟩
  | snoc w he _ ih =>
    have hblock := goes_start_iff.mpr ⟨_, _, rfl, rfl, .along w.mem_blocks he h⟩
    obtain ⟨m, hm⟩ := ih hblock
    refine ⟨m, ?_⟩
    rwa [List.flatMap_append, List.flatMap_cons, List.flatMap_nil, List.append_nil,
      List.append_assoc, actionsOf, source_of_mem_outEdges he, List.append_assoc]

/-- **Executions are walks**: from the start of a block to an end, what executions do is what walks
execute. -/
theorem exists_goes_iff_walk {b : BlockId} {as : List Action} {stop : Stop} :
    (∃ n, g.Goes n (g.start b) as stop) ↔
      ∃ es c, g.Walk b es c ∧ g.StopsAt c stop ∧ g.reading es c = as := by
  constructor
  · rintro ⟨n, h⟩
    obtain ⟨es, c, w, hstop, hreading⟩ := h.exists_walk
    exact ⟨es, c, w, hstop, (hreading [] rfl).symm⟩
  · rintro ⟨es, c, w, hstop, rfl⟩
    have hblock := goes_start_iff.mpr ⟨_, _, rfl, rfl, .stop hstop⟩
    rw [List.append_nil] at hblock
    exact w.goes hblock

end Graph

end NullFlow
