import NullFlow.Fact
import NullFlow.NullTest
import Std.Data.ExtTreeMap

/-!
# Control flow graphs

The graph of a function has **blocks**, which are runs of statements without a jump in or out, and
**edges** between them. A block ends in a terminator; where it is a branch, the terminator keeps
what the condition says about pointers, and the kind of an edge says for which outcome it is taken.

A graph is a plain value and is built up block by block and edge by edge. Nothing forces an edge to
lead to a block that exists, and a block added under a number that is taken replaces the old one.

`Graph.dominators` and `Graph.unreachable` hold the answers of the last time they were asked for;
adding an edge does not bring them up to date.
-/

namespace NullFlow

/-- **The number of a block.** -/
abbrev BlockId := Nat

/-- **When an edge is taken.** -/
inductive EdgeKind where
  /-- When the block ends. -/
  | fallThrough
  /-- When the condition at the end of the block is true. -/
  | trueBranch
  /-- When it is false. -/
  | falseBranch
  /-- By a jump to a label or a case. -/
  | jump
  /-- Back to the head of a loop. -/
  | loopBack
  /-- Out of a loop or a switch. -/
  | loopExit
  deriving DecidableEq, Repr

/-- **An edge** from one block to another. -/
structure Edge where
  source : BlockId
  target : BlockId
  kind : EdgeKind
  deriving DecidableEq, Repr

/-- **What a statement is**, as far as reports show it. -/
inductive StatementKind where
  | declaration (names : List String)
  | assignment (target : String)
  | expression
  | call (function : String)
  | returning
  /-- A condition that is evaluated at the end of its block. -/
  | condition
  /-- A jump. -/
  | controlFlow
  | other
  deriving DecidableEq, Repr

/-- **A statement of a block**: its line, the beginning of its text and what it does to
variables. -/
structure Statement where
  line : Nat
  kind : StatementKind
  text : String
  facts : List Fact
  deriving DecidableEq, Repr

/-- **How a block ends.** -/
inductive Terminator where
  | jump
  /-- On the outcome of a condition. -/
  | branch (condition : String) (line : Nat) (test : NullTest)
  | switch (condition : String)
  | returning
  /-- In a call to a function that never returns. -/
  | noReturn (function : String)
  | fallThrough
  /-- As the head of a loop without a condition. -/
  | loop
  | breaking
  | continuing
  | goto (label : String)
  deriving DecidableEq

/-- **A block**: statements that run one after the other. -/
structure Block where
  id : BlockId
  label : String
  startLine : Nat := 0
  endLine : Nat := 0
  terminator : Terminator := .fallThrough
  statements : List Statement := []
  isEntry : Bool := false
  isExit : Bool := false
  deriving DecidableEq

/-- The facts of all statements of the block, in order. -/
def Block.facts (b : Block) : List Fact := b.statements.flatMap (·.facts)

/-- **A parameter of a function.** -/
structure Parameter where
  name : String
  isPointer : Bool
  deriving DecidableEq, Repr

/-- **The control flow graph of a function.** -/
structure Graph where
  function : String
  file : String
  /-- The line on which the definition begins. -/
  startLine : Nat := 0
  parameters : List Parameter := []
  blocks : Std.ExtTreeMap BlockId Block := ∅
  edges : List Edge := []
  entry : BlockId := 0
  /-- The blocks that leave the function, in the order in which they were marked. -/
  exits : List BlockId := []
  /-- For each reachable block its immediate dominator. -/
  dominators : Std.ExtTreeMap BlockId BlockId := ∅
  unreachable : List BlockId := []

namespace Graph

/-- **Adds a block**, or replaces the one with the same number. A block marked as entry becomes the
entry of the graph, one marked as exit joins the exits. -/
def addBlock (g : Graph) (b : Block) : Graph :=
  { g with
    entry := if b.isEntry then b.id else g.entry
    exits := if b.isExit then g.exits ++ [b.id] else g.exits
    blocks := g.blocks.insert b.id b }

/-- Adds an edge. -/
def addEdge (g : Graph) (source target : BlockId) (kind : EdgeKind) : Graph :=
  { g with edges := g.edges ++ [⟨source, target, kind⟩] }

/-- The edges that leave a block. -/
def outEdges (g : Graph) (b : BlockId) : List Edge := g.edges.filter (·.source == b)

/-- The targets of the edges that leave a block. -/
def successors (g : Graph) (b : BlockId) : List BlockId := (g.outEdges b).map (·.target)

/-- The sources of the edges that lead to a block. -/
def predecessors (g : Graph) (b : BlockId) : List BlockId :=
  (g.edges.filter (·.target == b)).map (·.source)

/-- The numbers of the blocks in ascending order. -/
def blockIds (g : Graph) : List BlockId := g.blocks.keys

/-- The blocks in ascending order of their numbers. -/
def blockList (g : Graph) : List Block := g.blocks.values

theorem mem_outEdges {g : Graph} {b : BlockId} {e : Edge} :
    e ∈ g.outEdges b ↔ e ∈ g.edges ∧ e.source = b := by
  simp [outEdges]

theorem mem_successors {g : Graph} {b c : BlockId} :
    c ∈ g.successors b ↔ ∃ e ∈ g.edges, e.source = b ∧ e.target = c := by
  simp [successors, mem_outEdges, and_assoc]

end Graph

end NullFlow
