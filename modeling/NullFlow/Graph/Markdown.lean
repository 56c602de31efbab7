import NullFlow.Graph.Dominators
import NullFlow.Text.Quoted

/-!
# Graphs as text

`Graph.markdown` describes a graph block by block, with the edges, the unreachable blocks and the
loops. Texts of the program stand in it as they are, except inside a statement's kind and a
terminator, where they are quoted.
-/

namespace NullFlow

open Text (quote)

/-- A list in square brackets. -/
def bracketed (items : List String) : String := "[" ++ ", ".intercalate items ++ "]"

/-- A name with one named field, as in `Call { function: "f" }`. -/
def withField (name field value : String) : String :=
  name ++ " \x7b " ++ field ++ ": " ++ value ++ " \x7d"

/-- A number, with blanks before it up to the given width. -/
def padLeft (width n : Nat) : String :=
  let digits := toString n
  String.ofList (List.replicate (width - digits.length) ' ') ++ digits

/-- The kind of a statement, in words. -/
def StatementKind.describe : StatementKind → String
  | .declaration vs => withField "Declaration" "variables" (bracketed (vs.map quote))
  | .assignment v => withField "Assignment" "variable" (quote v)
  | .expression => "Expression"
  | .call f => withField "Call" "function" (quote f)
  | .returning => "Return"
  | .condition => "Condition"
  | .controlFlow => "ControlFlow"
  | .other => "Other"

/-- How a block ends, in words. -/
def Terminator.describe : Terminator → String
  | .jump => "Jump"
  | .branch condition _ _ => "Branch `" ++ condition ++ "`"
  | .switch condition => withField "Switch" "condition" (quote condition)
  | .returning => "Return"
  | .noReturn f => withField "NoReturn" "function" (quote f)
  | .fallThrough => "FallThrough"
  | .loop => "Loop"
  | .breaking => "Break"
  | .continuing => "Continue"
  | .goto label => withField "Goto" "label" (quote label)

/-- The kind of an edge, in a word. -/
def EdgeKind.describe : EdgeKind → String
  | .fallThrough => "FallThrough"
  | .trueBranch => "TrueBranch"
  | .falseBranch => "FalseBranch"
  | .jump => "Jump"
  | .loopBack => "LoopBack"
  | .loopExit => "LoopExit"

/-- The lines of source a block covers. -/
def Block.lineRange (b : Block) : String := toString b.startLine ++ "-" ++ toString b.endLine

/-- A statement on a line of its own. -/
def Statement.markdown (s : Statement) : String :=
  padLeft 4 s.line ++ ": " ++ s.kind.describe ++ " - " ++ s.text ++ "\n"

/-- The section about a block. -/
def Block.markdown (b : Block) : String :=
  let mark := if b.isEntry then " (ENTRY)" else if b.isExit then " (EXIT)" else ""
  let statements :=
    if b.statements.isEmpty then ""
    else "```\n" ++ String.join (b.statements.map (·.markdown)) ++ "```\n\n"
  "### Block " ++ toString b.id ++ ": " ++ b.label ++ mark ++ "\n\n"
    ++ "Lines: " ++ b.lineRange ++ "\n\n"
    ++ statements
    ++ "Terminator: " ++ b.terminator.describe ++ "\n\n"

namespace Graph

/-- A parameter, with a star if it is a pointer. -/
def parameterText (p : Parameter) : String := if p.isPointer then "*" ++ p.name else p.name

/-- The lines about an unreachable block; a block that does not exist has none. -/
def unreachableLine (g : Graph) (b : BlockId) : String :=
  match g.blocks[b]? with
  | some block => "- Block " ++ toString b ++ ": lines " ++ block.lineRange ++ "\n"
  | none => ""

/-- **The description of a graph.** -/
def markdown (g : Graph) : String :=
  let parameters :=
    if g.parameters.isEmpty then ""
    else "**Parameters**: " ++ ", ".intercalate (g.parameters.map parameterText) ++ "\n"
  let edge (e : Edge) :=
    "- Block " ++ toString e.source ++ " -> Block " ++ toString e.target ++ " ("
      ++ e.kind.describe ++ ")\n"
  let unreachable :=
    if g.unreachable.isEmpty then ""
    else "## Unreachable Blocks\n\n" ++ String.join (g.unreachable.map g.unreachableLine) ++ "\n"
  let loop (l : BlockId × BlockId) :=
    "- Loop at Block " ++ toString l.2 ++ " (back edge from Block " ++ toString l.1 ++ ")\n"
  let loops :=
    if g.loops.isEmpty then "" else "## Loops Detected\n\n" ++ String.join (g.loops.map loop)
  "# Control Flow Graph: `" ++ g.function ++ "`\n\n"
    ++ "**File**: `" ++ g.file ++ "`\n\n"
    ++ parameters
    ++ "**Blocks**: " ++ toString g.blocks.size ++ "\n"
    ++ "**Edges**: " ++ toString g.edges.length ++ "\n\n"
    ++ "## Basic Blocks\n\n"
    ++ String.join (g.blockList.map (·.markdown))
    ++ "## Edges\n\n" ++ String.join (g.edges.map edge) ++ "\n"
    ++ unreachable ++ loops

end Graph

end NullFlow
