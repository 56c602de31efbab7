import NullFlow.Graph.Basic

/-!
# Walks through a graph

A **walk** is what an execution of the function follows: it leaves a block along one of the edges
out of it and enters the block at the edge's end, and every block on the way exists. It is given by
its edges, in the order in which they are taken, so parallel edges make different walks.

What a walk meets can be read off its edges: `Graph.factsAlong` lists the facts of the blocks it
leaves, `Graph.stepsAlong` the same facts with the edges between them. The block at the end is not
among those; its facts are added where a walk is followed to the end of its last block, or a part of
them where it is followed to one of its facts.
-/

namespace NullFlow

namespace Graph

/-- **A walk** from a block along the given edges to another block. -/
inductive Walk (g : Graph) (b : BlockId) : List Edge → BlockId → Prop
  /-- Staying at a block that exists. -/
  | nil (hb : b ∈ g.blocks) : Walk g b [] b
  /-- Taking one more edge, to a block that exists. -/
  | snoc {es : List Edge} {c : BlockId} {e : Edge} (w : Walk g b es c) (he : e ∈ g.outEdges c)
      (ht : e.target ∈ g.blocks) : Walk g b (es ++ [e]) e.target

/-- **The block at the end of some walk from the entry.** -/
def Reaches (g : Graph) (b : BlockId) : Prop := ∃ es, g.Walk g.entry es b

variable {g : Graph}

/-- The block at the end of a walk exists. -/
theorem Walk.mem_blocks {b c : BlockId} {es : List Edge} (w : g.Walk b es c) : c ∈ g.blocks := by
  cases w with
  | nil hb => exact hb
  | snoc _ _ ht => exact ht

/-- Before a walk may stand an edge to its start. -/
theorem Walk.cons {b c : BlockId} {e : Edge} {es : List Edge} (hb : b ∈ g.blocks)
    (he : e ∈ g.outEdges b) (w : g.Walk e.target es c) : g.Walk b (e :: es) c := by
  induction w with
  | nil ht => exact (Walk.nil hb).snoc he ht
  | snoc _ he' ht' ih => exact ih.snoc he' ht'

theorem source_of_mem_outEdges {b : BlockId} {e : Edge} (he : e ∈ g.outEdges b) : e.source = b :=
  (mem_outEdges.mp he).2

theorem mem_blocks_of_getElem? {b : BlockId} {block : Block} (hb : g.blocks[b]? = some block) :
    b ∈ g.blocks := by
  rw [Std.ExtTreeMap.mem_iff_isSome_getElem?, hb]
  rfl

theorem exists_getElem?_of_mem_blocks {b : BlockId} (hb : b ∈ g.blocks) :
    ∃ block, g.blocks[b]? = some block := by
  rw [Std.ExtTreeMap.mem_iff_isSome_getElem?] at hb
  exact Option.isSome_iff_exists.mp hb

/-! ## What a walk meets -/

/-- The facts of a block, none if it does not exist. -/
def factsOf (g : Graph) (b : BlockId) : List Fact := (g.blocks[b]?).elim [] (·.facts)

/-- **The facts of the blocks that a walk leaves**, in order. -/
def factsAlong (g : Graph) (es : List Edge) : List Fact := es.flatMap fun e => g.factsOf e.source

/-- **A step of a walk**: past a fact, or along an edge out of a block. -/
inductive Step where
  | fact (f : Fact)
  | edge (block : Block) (e : Edge)

/-- The steps that lead through a block and along an edge out of it. -/
def stepsOf (g : Graph) (e : Edge) : List Step :=
  match g.blocks[e.source]? with
  | some block => block.facts.map Step.fact ++ [Step.edge block e]
  | none => []

/-- **The steps of a walk** up to the start of the block at its end. -/
def stepsAlong (g : Graph) (es : List Edge) : List Step := es.flatMap g.stepsOf

theorem factsOf_eq {b : BlockId} {block : Block} (hb : g.blocks[b]? = some block) :
    g.factsOf b = block.facts := by
  simp only [factsOf, hb, Option.elim_some]

@[simp] theorem factsAlong_nil : g.factsAlong [] = [] := rfl

@[simp] theorem factsAlong_snoc (es : List Edge) (e : Edge) :
    g.factsAlong (es ++ [e]) = g.factsAlong es ++ g.factsOf e.source := by
  simp only [factsAlong, List.flatMap_append, List.flatMap_cons, List.flatMap_nil, List.append_nil]

theorem stepsAlong_snoc {e : Edge} {block : Block} (hb : g.blocks[e.source]? = some block)
    (es : List Edge) :
    g.stepsAlong (es ++ [e])
      = g.stepsAlong es ++ block.facts.map Step.fact ++ [Step.edge block e] := by
  simp only [stepsAlong, List.flatMap_append, List.flatMap_cons, List.flatMap_nil, List.append_nil,
    stepsOf, hb, List.append_assoc]

end Graph

end NullFlow
