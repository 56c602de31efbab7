import NullFlow.Graph.Dominators

/-!
# Graphs as drawings

`Graph.dot` writes a graph in the language of graph drawing programs: blocks as nodes, entry and
exits as ellipses, unreachable blocks in red, and edges with a style and a colour for their kind.
-/

namespace NullFlow

namespace Graph

/-- The colour of a block: the first of these that applies. -/
def blockColour (g : Graph) (b : Block) : String :=
  if g.unreachable.contains b.id then "red"
  else if b.isEntry then "green"
  else if b.isExit then "blue"
  else "black"

/-- The line that draws a block. -/
def dotBlock (g : Graph) (b : Block) : String :=
  let shape := if b.isEntry || b.isExit then "ellipse" else "box"
  "  " ++ toString b.id ++ " [label=\"" ++ b.label ++ "\\n(" ++ toString b.startLine ++ "-"
    ++ toString b.endLine ++ ")\", shape=" ++ shape ++ ", color=" ++ g.blockColour b ++ "];\n"

/-- How the edges of a kind are drawn: their style and their colour. -/
def edgeStyle : EdgeKind → String × String
  | .fallThrough => ("solid", "black")
  | .trueBranch => ("solid", "green")
  | .falseBranch => ("solid", "red")
  | .jump => ("dotted", "black")
  | .loopBack => ("dashed", "blue")
  | .loopExit => ("solid", "black")

/-- The line that draws an edge. -/
def dotEdge (e : Edge) : String :=
  let (style, colour) := edgeStyle e.kind
  "  " ++ toString e.source ++ " -> " ++ toString e.target ++ " [style=" ++ style ++ ", color="
    ++ colour ++ "];\n"

/-- **The drawing of a graph.** -/
def dot (g : Graph) : String :=
  "digraph \"" ++ g.function ++ "\" \x7b\n"
    ++ "  rankdir=TB;\n"
    ++ "  node [shape=box, fontname=\"monospace\"];\n\n"
    ++ String.join (g.blockList.map g.dotBlock)
    ++ String.join (g.edges.map dotEdge)
    ++ "\x7d\n"

end Graph

end NullFlow
