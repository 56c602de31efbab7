import NullFlow.Proofs.Graph.Parts
import NullFlow.Proofs.Structured.Statement

/-!
# Structured statements of a syntax tree

`Node.stmt?` reads a syntax tree as a structured statement. It has an answer for trees that are made
of blocks, expressions, declarations, `return`, `if`, loops, `switch` statements made of `case` and
`default` groups, `break` and `continue`, and it has none for trees with labels, jumps to labels or
anything else in them. Comments and declarations of types do nothing.
-/

namespace NullFlow.C.Node

/-- The node as a statement of a graph. -/
def statement (nulls : List String) (n : Node) (kind : StatementKind) : Statement :=
  ⟨n.line, kind, n.excerpt, n.facts nulls⟩

/-- **The reading inside a node**: what a smaller node says. -/
abbrev Reading (n : Node) := (c : Node) → sizeOf c < sizeOf n → Option Stmt

variable {n c : Node} {rest : List Node}

/-! Parts of a node are smaller than the node. -/

theorem sizeOf_head (h : ∀ d ∈ c :: rest, sizeOf d < sizeOf n) : sizeOf c < sizeOf n :=
  h c List.mem_cons_self

theorem sizeOf_tail (h : ∀ d ∈ c :: rest, sizeOf d < sizeOf n) : ∀ d ∈ rest, sizeOf d < sizeOf n :=
  fun d hd => h d (List.mem_cons_of_mem c hd)

theorem sizeOf_headStatements (h : ∀ d ∈ c :: rest, sizeOf d < sizeOf n) :
    ∀ d ∈ Build.caseStatements c, sizeOf d < sizeOf n :=
  fun _ hd => Nat.lt_trans (Build.sizeOf_caseStatements hd) (sizeOf_head h)

theorem sizeOf_elseStatements (h : n.child? .alternative = some c) :
    ∀ d ∈ c.namedChildren, sizeOf d < sizeOf n :=
  fun _ hd => Nat.lt_trans (sizeOf_namedChildren hd) (sizeOf_child? h)

/-- Several parts of a node, one after the other. -/
def sequence? (read : Reading n) :
    (parts : List Node) → (∀ c ∈ parts, sizeOf c < sizeOf n) → Option Stmt
  | [], _ => some .skip
  | c :: rest, h => do
    let first ← read c (sizeOf_head h)
    let second ← sequence? read rest (sizeOf_tail h)
    return .seq first second

/-- The part in a role. -/
def childStmt? (n : Node) (read : Reading n) (r : Role) : Option Stmt :=
  match h : n.child? r with
  | some c => read c (sizeOf_child? h)
  | none => none

/-- The branch after `else`, which is wrapped in a clause. -/
def elseStmt? (n : Node) (read : Reading n) : Option Stmt :=
  match h : n.child? .alternative with
  | some c =>
    if c.kind == .elseClause then sequence? read c.namedChildren (sizeOf_elseStatements h)
    else read c (sizeOf_child? h)
  | none => none

/-- The groups of a `switch`. -/
def groups? (read : Reading n) :
    (cases : List Node) → (∀ c ∈ cases, sizeOf c < sizeOf n) → Option Groups
  | [], _ => some .none
  | c :: rest, h => do
    let body ← sequence? read (Build.caseStatements c) (sizeOf_headStatements h)
    let groups ← groups? read rest (sizeOf_tail h)
    return .group (c.child? .value).isNone body groups

/-- The body of a `switch` consists of groups, besides comments. -/
def hasOnlyGroups (body : Node) : Bool :=
  body.kind == .compoundStatement &&
    body.namedChildren.all fun c => c.kind == .caseStatement || c.kind == .comment

/-- An expression statement. It may be empty, and it may be a call that never returns. -/
def expressionStmt (nulls : List String) (n : Node) : Stmt :=
  match Build.expressionKind? n with
  | none => .skip
  | some (.call f) =>
    if noReturnFunctions.contains f then .halt (n.statement nulls (.call f))
    else .plain (n.statement nulls (.call f))
  | some kind => .plain (n.statement nulls kind)

/-- A `for` statement with the given body. Its first clause is executed once before the loop. -/
def forStmt (nulls : List String) (n : Node) (body : Stmt) : Stmt :=
  let loop := .forLoop ((n.child? .condition).map (·.statement nulls .condition))
    ((n.child? .update).map (·.statement nulls .expression)) body
  match n.child? .initializer with
  | some initializer => .seq (.plain (initializer.statement nulls .expression)) loop
  | none => loop

/-- **The structured statement of a node**, if it is one. -/
def stmt? (nulls : List String) (n : Node) : Option Stmt :=
  let read : Reading n := fun c _ => c.stmt? nulls
  match n.kind with
  | .compoundStatement => sequence? read n.namedChildren fun _ => sizeOf_namedChildren
  | .expressionStatement => some (n.expressionStmt nulls)
  | .declaration =>
    some (.plain (n.statement nulls
      (.declaration ((n.childrenIn .declarator).filterMap declaredName?))))
  | .returnStatement => some (.ret (n.statement nulls .returning))
  | .breakStatement => some (.brk n.jump)
  | .continueStatement => some (.cont n.jump)
  | .ifStatement => do
    let condition ← n.child? .condition
    let yes ← childStmt? n read .consequence
    if (n.child? .alternative).isSome then
      let no ← elseStmt? n read
      return .ifElse (condition.statement nulls .condition) yes no
    else
      return .ifThen (condition.statement nulls .condition) yes
  | .whileStatement => do
    let condition ← n.child? .condition
    let body ← childStmt? n read .body
    return .whileLoop (condition.statement nulls .condition) body
  | .doStatement => do
    let body ← childStmt? n read .body
    let condition ← n.child? .condition
    return .doLoop body (condition.statement nulls .condition)
  | .forStatement => do
    let body ← childStmt? n read .body
    return n.forStmt nulls body
  | .switchStatement => do
    let value ← n.child? .condition
    let body ← n.child? .body
    let groups ← groups? read (Build.casesOf n) fun _ => Build.sizeOf_casesOf
    if body.hasOnlyGroups then return .switch (value.statement nulls .condition) groups else none
  | .comment | .typeDefinition | .structSpecifier | .enumSpecifier | .unionSpecifier => some .skip
  | _ => none
termination_by sizeOf n

end NullFlow.C.Node
