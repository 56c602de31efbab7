import NullFlow.Graph.Dominators

/-!
# Building a graph

A graph grows block by block while a function is read. `Builder` is the graph so far with what the
growth needs to know besides: the number of the next block, where `break` and `continue` lead at the
moment, and the blocks of the labels met so far.

The operations on a block do nothing if the block does not exist, except that an edge is added in
any case.
-/

namespace NullFlow

/-- **A graph under construction.** -/
structure Builder where
  graph : Graph
  /-- The number of the next block. -/
  next : BlockId := 0
  /-- Where `break` leads, innermost first. -/
  breaks : List BlockId := []
  /-- Where `continue` leads, innermost first. -/
  continues : List BlockId := []
  /-- The blocks of the labels that were defined or jumped to. -/
  labels : Std.ExtTreeMap String BlockId := ∅

namespace Builder

/-- The empty graph of a function. -/
def start (function file : String) : Builder := { graph := { function, file } }

/-- Changes a block, if it exists. -/
def modifyBlock (s : Builder) (b : BlockId) (f : Block → Block) : Builder :=
  match s.graph.blocks[b]? with
  | some block => { s with graph := { s.graph with blocks := s.graph.blocks.insert b (f block) } }
  | none => s

/-- **A new block** with the next number. -/
def createBlock (s : Builder) (label : String) : BlockId × Builder :=
  (s.next, { s with next := s.next + 1, graph := s.graph.addBlock { id := s.next, label } })

/-- **Makes a block the entry.** -/
def setEntry (s : Builder) (b : BlockId) : Builder :=
  if b ∈ s.graph.blocks then
    let t := s.modifyBlock b fun block => { block with isEntry := true }
    { t with graph := { t.graph with entry := b } }
  else s

/-- **Makes a block an exit**; it joins the exits once. -/
def setExit (s : Builder) (b : BlockId) : Builder :=
  if b ∈ s.graph.blocks then
    let t := s.modifyBlock b fun block => { block with isExit := true }
    let exits := if t.graph.exits.contains b then t.graph.exits else t.graph.exits ++ [b]
    { t with graph := { t.graph with exits } }
  else s

/-- The block with one more statement; its lines reach as far as its statements. -/
def withStatement (block : Block) (s : Statement) : Block :=
  { block with
    startLine := if block.statements.isEmpty then s.line else min block.startLine s.line
    endLine := if block.statements.isEmpty then s.line else max block.endLine s.line
    statements := block.statements ++ [s] }

/-- **Adds a statement** at the end of a block. -/
def addStatement (s : Builder) (b : BlockId) (statement : Statement) : Builder :=
  s.modifyBlock b (withStatement · statement)

/-- **Sets how a block ends.** -/
def setTerminator (s : Builder) (b : BlockId) (terminator : Terminator) : Builder :=
  s.modifyBlock b fun block => { block with terminator }

/-- **Adds an edge.** -/
def addEdge (s : Builder) (source target : BlockId) (kind : EdgeKind) : Builder :=
  { s with graph := s.graph.addEdge source target kind }

/-- **The block of a label**, created when the label is first mentioned. -/
def labelBlock (s : Builder) (label : String) : BlockId × Builder :=
  match s.labels[label]? with
  | some b => (b, s)
  | none =>
    let (b, t) := s.createBlock ("label_" ++ label)
    (b, { t with labels := t.labels.insert label b })

/-- Opens a construct that `break` leaves, and `continue` too if a place for it is given. -/
def enter (s : Builder) (breakTo : BlockId) (continueTo : Option BlockId) : Builder :=
  { s with breaks := breakTo :: s.breaks, continues := continueTo.toList ++ s.continues }

/-- Goes back to the targets of `break` and `continue` of an earlier time. -/
def leave (s outer : Builder) : Builder :=
  { s with breaks := outer.breaks, continues := outer.continues }

/-- **The finished graph.** -/
def build (s : Builder) : Graph := s.graph.finish

end Builder

end NullFlow
