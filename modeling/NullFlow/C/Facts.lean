import NullFlow.C.Condition
import NullFlow.Fact

/-!
# Facts of statements and expressions

`Node.facts` lists what a statement or an expression does to variables, in the order of evaluation:
operands before the operation, the value of an assignment before its target, arguments before the
call.

**Guards.** The right side of `p && …` runs only if `p` is not null, and the branches of `p ? … : …`
know the outcome of the test. A dereference of a variable that a test before it in the same
expression has shown not to be null is left out.

**Unevaluated operands** of `sizeof` and its relatives do nothing.
-/

namespace NullFlow.C.Node

/-- **What a variable holds** after the value of this expression is stored into it. -/
def storedValue (nulls : List String) (n : Node) : AssignedValue :=
  if n.isNullConstant nulls then .null
  else match n.kind with
    | .stringLiteral | .concatenatedString => .nonNull
    | .pointerExpression => if n.hasOperator "&" then .nonNull else .unknown
    | .parenthesizedExpression | .castExpression =>
      match _hv : n.child? .value with
      | some inner => inner.storedValue nulls
      | none =>
        match _hf : n.firstNamed? with
        | some inner => inner.storedValue nulls
        | none => .unknown
    | _ => .unknown
termination_by sizeOf n
decreasing_by
  all_goals first
    | exact sizeOf_child? ‹_›
    | exact sizeOf_firstNamed? ‹_›

/-- The dereference of an operand: a fact if the operand is a variable that no test guards. -/
def derefFact (nulls : List String) (guarded : Vars) (operand : Node) (kind : DerefKind)
    (line : Nat) : List Fact :=
  match operand.plainVariable? nulls with
  | some var => if guarded.contains var then [] else [.deref var kind line]
  | none => []

/-- **The facts of a node** where some variables are known not to be null. -/
def factsUnder (nulls : List String) (guarded : Vars) (n : Node) : List Fact :=
  match n.kind with
  | .comment | .sizeofExpression | .alignofExpression | .offsetofExpression => []
  | .pointerExpression =>
    match _h : n.child? .argument with
    | some argument =>
      argument.factsUnder nulls guarded
        ++ (if n.hasOperator "*" then derefFact nulls guarded argument .star n.line else [])
    | none => []
  | .fieldExpression =>
    match _h : n.child? .argument with
    | some argument =>
      argument.factsUnder nulls guarded
        ++ (if n.hasOperator "->" then derefFact nulls guarded argument .arrow n.line else [])
    | none => []
  | .subscriptExpression =>
    (match _h : n.child? .index with
      | some index => index.factsUnder nulls guarded
      | none => [])
      ++ (match _h : n.child? .argument with
        | some argument =>
          argument.factsUnder nulls guarded ++ derefFact nulls guarded argument .subscript n.line
        | none => [])
  | .callExpression =>
    (n.callArguments.attach.flatMap fun ⟨a, _⟩ => a.factsUnder nulls guarded)
      ++ (match _h : n.child? .function with
        | some function =>
          if function.kind == .identifier then
            [.call function.text (n.callArguments.map (·.plainVariable? nulls)) n.line]
          else function.factsUnder nulls guarded
        | none => [])
  | .assignmentExpression =>
    (match _h : n.child? .right with
      | some right => right.factsUnder nulls guarded
      | none => [])
      ++ (match _h : n.child? .left with
        | some left =>
          match left.plainVariable? nulls with
          | some var =>
            let value := match n.child? .right with
              | some right => if n.hasOperator "=" then right.storedValue nulls else .unknown
              | none => .unknown
            [.assign var value n.line]
          | none => left.factsUnder nulls guarded
        | none => [])
  | .updateExpression =>
    match _h : n.child? .argument with
    | some argument =>
      match argument.plainVariable? nulls with
      | some var => [.assign var .unknown n.line]
      | none => argument.factsUnder nulls guarded
    | none => []
  | .initDeclarator =>
    (match _h : n.child? .value with
      | some value => value.factsUnder nulls guarded
      | none => [])
      ++ (match (n.child? .declarator).bind declaredName? with
        | some var =>
          let value := match n.child? .value with
            | some value => value.storedValue nulls
            | none => .unknown
          [.assign var value n.line]
        | none => [])
  | .declaration =>
    (n.childrenIn .declarator).attach.flatMap fun ⟨d, _⟩ =>
      if d.kind == .initDeclarator then d.factsUnder nulls guarded
      else match d.declaredName? with
        | some var => [.assign var .unknown n.line]
        | none => []
  | .binaryExpression =>
    match _hl : n.child? .left, _hr : n.child? .right with
    | some left, some right =>
      let test := left.nullTest nulls
      let rightGuarded :=
        if n.hasOperator "&&" then guarded ∪ test.nonNullWhenTrue
        else if n.hasOperator "||" then guarded ∪ test.nonNullWhenFalse
        else guarded
      left.factsUnder nulls guarded ++ right.factsUnder nulls rightGuarded
    | _, _ => []
  | .conditionalExpression =>
    match _h : n.child? .condition with
    | some condition =>
      let test := condition.nullTest nulls
      condition.factsUnder nulls guarded
        ++ (match _hc : n.child? .consequence with
          | some consequence => consequence.factsUnder nulls (guarded ∪ test.nonNullWhenTrue)
          | none => [])
        ++ (match _ha : n.child? .alternative with
          | some alternative => alternative.factsUnder nulls (guarded ∪ test.nonNullWhenFalse)
          | none => [])
    | none => []
  | _ => n.namedChildren.attach.flatMap fun ⟨c, _⟩ => c.factsUnder nulls guarded
termination_by sizeOf n
decreasing_by
  all_goals first
    | exact sizeOf_child? ‹_›
    | exact sizeOf_childrenIn ‹_›
    | exact sizeOf_namedChildren ‹_›
    | exact sizeOf_callArguments ‹_›

/-- **The facts of a statement or an expression**, in the order of evaluation. -/
def facts (nulls : List String) (n : Node) : List Fact := n.factsUnder nulls ∅

end NullFlow.C.Node
