import NullFlow.C.Facts
import NullFlow.C.Source
import NullFlow.Graph.Builder

/-!
# The graph of a function

`Node.graph?` reads the definition of a function and builds its graph. Statements are appended to
the block that is open; a construct that branches or jumps closes it and opens others. Code after a
jump goes to a block of its own that no edge leads to.

| construct | blocks, in the order of their numbers |
| --- | --- |
| `if` | the branch taken, the block after it, the other branch |
| `while` | the head with the condition, the body, the block after it |
| `do` | the body, the condition, the block after it |
| `for` | the head, the body, the update, the block after it |
| `switch` | the block after it, one block for each case |
| label | the block of the label |

The walk through the definition is one recursion, `Node.appendTo`; how a construct is laid out is
said by a function of its own, which is handed the walk as `visit`.
-/

namespace NullFlow

namespace C.Node

/-- The longest part of a statement's text that a graph keeps, in characters. -/
def excerptLength : Nat := 100

/-- The beginning of the node's text. -/
def excerpt (n : Node) : String := String.ofList (n.text.toList.take excerptLength)

/-- **Functions that never return.** -/
def noReturnFunctions : List String :=
  ["exit", "_exit", "_Exit", "abort", "quick_exit", "longjmp", "siglongjmp",
   "__builtin_unreachable"]

end C.Node

/-- A step of the construction, which fails if a node lacks a part it cannot do without. -/
abbrev Build := StateT Builder Option

namespace Build

open C (Node Role)

/-- A new block. -/
def create (label : String) : Build BlockId := modifyGet (·.createBlock label)

/-- The block of a label. -/
def labelled (label : String) : Build BlockId := modifyGet (·.labelBlock label)

def edge (source target : BlockId) (kind : EdgeKind) : Build Unit :=
  modify (·.addEdge source target kind)

def terminate (b : BlockId) (t : Terminator) : Build Unit := modify (·.setTerminator b t)

/-- Appends a node as a statement of the given kind, with the given facts. -/
def append (b : BlockId) (n : Node) (kind : StatementKind) (facts : List Fact) : Build Unit :=
  modify (·.addStatement b ⟨n.line, kind, n.excerpt, facts⟩)

/-- **Appends a condition** and makes the block branch on it. -/
def branchOn (nulls : List String) (b : BlockId) (condition : Node) : Build Unit := do
  append b condition .condition (condition.facts nulls)
  terminate b (.branch condition.excerpt condition.line (condition.nullTest nulls))

/-- Leads to the innermost target, if there is one. -/
def jumpOut (b : BlockId) (targets : List BlockId) (kind : EdgeKind) : Build Unit :=
  match targets with
  | target :: _ => edge b target kind
  | [] => pure ()

/-- Falls from one block to another, if there is one to fall from. -/
def fallFrom (source? : Option BlockId) (target : BlockId) : Build Unit :=
  match source? with
  | some source => edge source target .fallThrough
  | none => pure ()

/-- Runs a step inside of a construct that `break` leaves, and `continue` too if a place for it is
given. -/
def inside (breakTo : BlockId) (continueTo : Option BlockId) (step : Build BlockId) :
    Build BlockId := do
  let outer ← get
  set (outer.enter breakTo continueTo)
  let last ← step
  modify (·.leave outer)
  return last

/-- **The walk inside a node**: appends a smaller node to the open block and gives the block that is
open after it. -/
abbrev Visit (n : Node) := (c : Node) → sizeOf c < sizeOf n → BlockId → Build BlockId

/-- Appends several parts of a node, one after the other. -/
def appendAll {n : Node} (visit : Visit n) (parts : List Node)
    (h : ∀ c ∈ parts, sizeOf c < sizeOf n) (current : BlockId) : Build BlockId :=
  parts.attach.foldlM (fun active ⟨c, hc⟩ => visit c (h c hc) active) current

/-- Appends all named children of a node. -/
def appendChildren (n : Node) (visit : Visit n) (current : BlockId) : Build BlockId :=
  appendAll visit n.namedChildren (fun _ => Node.sizeOf_namedChildren) current

/-- Appends the child in a role; without such a child the block stays open. -/
def appendChild (n : Node) (visit : Visit n) (r : Role) (current : BlockId) : Build BlockId :=
  match h : n.child? r with
  | some c => visit c (Node.sizeOf_child? h) current
  | none => pure current

/-! ## Branches and loops -/

/-- Appends the branch after `else`, which is wrapped in a clause. -/
def appendElse (n : Node) (visit : Visit n) (current : BlockId) : Build BlockId :=
  match h : n.child? .alternative with
  | some c =>
    if c.kind == .elseClause then
      appendAll visit c.namedChildren
        (fun _ hc => Nat.lt_trans (Node.sizeOf_namedChildren hc) (Node.sizeOf_child? h)) current
    else visit c (Node.sizeOf_child? h) current
  | none => pure current

def appendIf (nulls : List String) (n : Node) (visit : Visit n) (current : BlockId) :
    Build BlockId := do
  let condition ← (n.child? .condition : Option Node)
  branchOn nulls current condition
  let thenBlock ← create "then"
  let after ← create "endif"
  edge current thenBlock .trueBranch
  let thenEnd ← appendChild n visit .consequence thenBlock
  edge thenEnd after .fallThrough
  if (n.child? .alternative).isSome then
    let elseBlock ← create "else"
    edge current elseBlock .falseBranch
    let elseEnd ← appendElse n visit elseBlock
    edge elseEnd after .fallThrough
  else
    edge current after .falseBranch
  return after

def appendWhile (nulls : List String) (n : Node) (visit : Visit n) (current : BlockId) :
    Build BlockId := do
  let head ← create "while_header"
  edge current head .fallThrough
  if let some condition := n.child? .condition then
    branchOn nulls head condition
  let body ← create "while_body"
  let after ← create "while_exit"
  edge head body .trueBranch
  edge head after .falseBranch
  let bodyEnd ← inside after (some head) (appendChild n visit .body body)
  edge bodyEnd head .loopBack
  return after

def appendDo (nulls : List String) (n : Node) (visit : Visit n) (current : BlockId) :
    Build BlockId := do
  let body ← create "do_body"
  let test ← create "do_condition"
  let after ← create "do_exit"
  edge current body .fallThrough
  let bodyEnd ← inside after (some test) (appendChild n visit .body body)
  edge bodyEnd test .fallThrough
  if let some condition := n.child? .condition then
    branchOn nulls test condition
  edge test body .trueBranch
  edge test after .falseBranch
  return after

/-- Appends the first or the last clause of a `for` statement, if it has one. -/
def appendClause (nulls : List String) (b : BlockId) : (clause : Option Node) → Build Unit
  | some clause => append b clause .expression (clause.facts nulls)
  | none => pure ()

/-- Ends the head of a `for` loop: on the outcome of the condition, or without one in the body. -/
def endForHead (nulls : List String) (head body after : BlockId) :
    (condition : Option Node) → Build Unit
  | some condition => do
    branchOn nulls head condition
    edge head body .trueBranch
    edge head after .falseBranch
  | none => do
    terminate head .loop
    edge head body .fallThrough

/-- Appends a `for` statement without its first clause. -/
def appendForLoop (nulls : List String) (n : Node) (visit : Visit n) (current : BlockId) :
    Build BlockId := do
  let head ← create "for_header"
  edge current head .fallThrough
  let body ← create "for_body"
  let latch ← create "for_update"
  let after ← create "for_exit"
  endForHead nulls head body after (n.child? .condition)
  let bodyEnd ← inside after (some latch) (appendChild n visit .body body)
  edge bodyEnd latch .fallThrough
  appendClause nulls latch (n.child? .update)
  edge latch head .loopBack
  return after

def appendFor (nulls : List String) (n : Node) (visit : Visit n) (current : BlockId) :
    Build BlockId := do
  appendClause nulls current (n.child? .initializer)
  appendForLoop nulls n visit current

/-! ## Switches -/

/-- The cases of a switch: those children of its body that are cases. A case further inside is
none. -/
def casesOf (n : Node) : List Node :=
  match n.child? .body with
  | some body => body.namedChildren.filter (·.kind == .caseStatement)
  | none => []

theorem sizeOf_casesOf {n c : Node} (h : c ∈ casesOf n) : sizeOf c < sizeOf n := by
  unfold casesOf at h
  split at h
  · next body hb =>
    exact Nat.lt_trans (Node.sizeOf_namedChildren (List.mem_filter.mp h).1) (Node.sizeOf_child? hb)
  · exact absurd h List.not_mem_nil

/-- The statements of a case: everything in it but its value. -/
def caseStatements (c : Node) : List Node := c.namedChildren.filter (·.role != some .value)

theorem sizeOf_caseStatements {c s : Node} (h : s ∈ caseStatements c) : sizeOf s < sizeOf c :=
  Node.sizeOf_namedChildren (List.mem_filter.mp h).1

/-- **Appends the cases of a switch**, of which `count` came before. Control falls from the end of
one case, `previous`, to the start of the next. Gives the end of the last case. -/
def appendCases {n : Node} (visit : Visit n) (dispatch : BlockId) (count : Nat)
    (previous : Option BlockId) :
    (cases : List Node) → (∀ c ∈ cases, sizeOf c < sizeOf n) → Build (Option BlockId)
  | [], _ => pure previous
  | c :: rest, h => do
    let block ← create ("case_" ++ toString (count + 1))
    edge dispatch block .jump
    fallFrom previous block
    let last ← appendAll visit (caseStatements c)
      (fun _ hs => Nat.lt_trans (sizeOf_caseStatements hs) (h c List.mem_cons_self)) block
    appendCases visit dispatch (count + 1) (some last) rest
      (fun d hd => h d (List.mem_cons_of_mem c hd))

def appendSwitch (nulls : List String) (n : Node) (visit : Visit n) (current : BlockId) :
    Build BlockId := do
  if let some condition := n.child? .condition then
    append current condition .condition (condition.facts nulls)
  terminate current (.switch ((n.child? .condition).elim "" (·.excerpt)))
  let after ← create "switch_exit"
  let cases := casesOf n
  let last ← inside after none do
    let last ← appendCases visit current 0 none cases fun _ => sizeOf_casesOf
    fallFrom last after
    if cases.all fun c => (c.child? .value).isSome then
      edge current after .jump
    return after
  return last

/-! ## Jumps, labels and plain statements -/

/-- Appends a labelled statement to the block of its label. -/
def appendLabelled (n : Node) (visit : Visit n) (current : BlockId) : Build BlockId := do
  let target ← labelled ((n.child? .label).elim "" (·.excerpt))
  edge current target .fallThrough
  appendAll visit (n.namedChildren.filter (·.kind != .statementIdentifier))
    (fun _ hc => Node.sizeOf_namedChildren (List.mem_filter.mp hc).1) target

def appendReturn (nulls : List String) (n : Node) (current : BlockId) : Build BlockId := do
  append current n .returning (n.facts nulls)
  terminate current .returning
  modify (·.setExit current)
  create "after_return"

def appendBreak (n : Node) (current : BlockId) : Build BlockId := do
  append current n .controlFlow []
  terminate current .breaking
  jumpOut current (← get).breaks .loopExit
  create "after_break"

def appendContinue (n : Node) (current : BlockId) : Build BlockId := do
  append current n .controlFlow []
  terminate current .continuing
  jumpOut current (← get).continues .loopBack
  create "after_continue"

def appendGoto (n : Node) (current : BlockId) : Build BlockId := do
  append current n .controlFlow []
  let label := (n.child? .label).elim "" (·.excerpt)
  let target ← labelled label
  terminate current (.goto label)
  edge current target .jump
  create "after_goto"

/-- What an expression statement is, none for an empty one. -/
def expressionKind? (n : Node) : Option StatementKind :=
  n.firstNamed?.map fun e =>
    if e.kind == .assignmentExpression then .assignment ((e.child? .left).elim "" (·.excerpt))
    else if e.kind == .callExpression then .call ((e.child? .function).elim "" (·.excerpt))
    else .expression

/-- **Appends an expression statement.** After a call that never returns the block is closed without
being an exit of the function. -/
def appendExpression (nulls : List String) (n : Node) (current : BlockId) : Build BlockId := do
  match expressionKind? n with
  | none => return current
  | some kind =>
    append current n kind (n.facts nulls)
    match kind with
    | .call f =>
      if Node.noReturnFunctions.contains f then
        terminate current (.noReturn f)
        create "after_noreturn"
      else return current
    | _ => return current

/-- Appends a statement of any other kind, unless it is a single character. -/
def appendOther (nulls : List String) (n : Node) (current : BlockId) : Build BlockId := do
  if 1 < n.excerpt.utf8ByteSize then
    append current n .other (n.facts nulls)
  return current

end Build

namespace C.Node

open Build

/-- **Appends a statement to the open block** and gives the block that is open after it. Comments
and declarations of types leave no trace. -/
def appendTo (nulls : List String) (n : Node) (current : BlockId) : Build BlockId :=
  let visit : Visit n := fun c _ b => c.appendTo nulls b
  match n.kind with
  | .compoundStatement => appendChildren n visit current
  | .ifStatement => appendIf nulls n visit current
  | .whileStatement => appendWhile nulls n visit current
  | .doStatement => appendDo nulls n visit current
  | .forStatement => appendFor nulls n visit current
  | .switchStatement => appendSwitch nulls n visit current
  | .labeledStatement => appendLabelled n visit current
  | .comment => pure current
  | .returnStatement => appendReturn nulls n current
  | .breakStatement => appendBreak n current
  | .continueStatement => appendContinue n current
  | .gotoStatement => appendGoto n current
  | .declaration => do
    append current n (.declaration ((n.childrenIn .declarator).filterMap declaredName?))
      (n.facts nulls)
    return current
  | .expressionStatement => appendExpression nulls n current
  | .typeDefinition | .structSpecifier | .enumSpecifier | .unionSpecifier => pure current
  | _ => appendOther nulls n current
termination_by sizeOf n

/-! ## Functions -/

/-- The declarator of the function itself, under those of its result. -/
def functionDeclarator? (n : Node) : Option Node :=
  if n.kind == .functionDeclarator then some n
  else match _h : n.child? .declarator with
    | some inner => inner.functionDeclarator?
    | none => none
termination_by sizeOf n
decreasing_by exact sizeOf_child? ‹_›

/-- The declarator of the function that a definition defines. -/
def definedDeclarator? (n : Node) : Option Node :=
  (n.child? .declarator).bind functionDeclarator?

/-- **The name of the function** that a definition defines. -/
def functionName? (n : Node) : Option String :=
  n.definedDeclarator?.bind fun d => (d.child? .declarator).bind declaredName?

/-- The parameter that a declaration in a parameter list names, if it names one. -/
def parameter? (n : Node) : Option Parameter :=
  if n.kind == .parameterDeclaration then
    (n.child? .declarator).bind fun d => d.declaredName?.map fun name => ⟨name, d.declaresPointer⟩
  else none

/-- **The named parameters** of a definition, in the order of their declaration. -/
def functionParameters (n : Node) : List Parameter :=
  match n.definedDeclarator?.bind (·.child? .parameters) with
  | some list => list.namedChildren.filterMap parameter?
  | none => []

/-- **The graph of a definition** of the named function. -/
def graphOf? (nulls : List String) (file function : String) (n : Node) : Option Graph := do
  let (entry, s) := (Builder.start function file).createBlock "entry"
  let body ← n.child? .body
  let (last, s) ← body.appendTo nulls entry (s.setEntry entry)
  let graph := ((s.setExit last).setTerminator last .returning).build
  return { graph with startLine := n.line, parameters := n.functionParameters }

/-- The definitions in a node, from left to right. A definition inside another one is part of it. -/
def functionDefinitions (n : Node) : List Node :=
  if n.kind == .functionDefinition then [n]
  else n.namedChildren.attach.flatMap fun ⟨c, _⟩ => c.functionDefinitions
termination_by sizeOf n
decreasing_by exact sizeOf_namedChildren ‹_›

end C.Node

/-- **The graphs of a source file**, one for each definition that names a function. -/
def C.Source.graphs (s : C.Source) (file : String) (nulls : List String) : List Graph :=
  s.root.functionDefinitions.filterMap fun n =>
    n.functionName?.bind fun name => n.graphOf? nulls file name

end NullFlow
