import NullFlow.C.Names
import NullFlow.NullTest

/-!
# Conditions as null tests

`Node.nullTest` reads off a condition what its outcome says about pointers. A bare variable is a
test that it is not null, and so is an assignment, for the variable assigned to. Comparisons count
if one side is a null constant. Any other expression says nothing.
-/

namespace NullFlow.C.Node

/-- The test made by comparing two operands, if either is a null constant: that the variable on the
other side is null. -/
def comparisonTest (nulls : List String) (left right : Node) : NullTest :=
  let compared :=
    if right.isNullConstant nulls then left.comparedVariable? nulls
    else if left.isNullConstant nulls then right.comparedVariable? nulls
    else none
  match compared with
  | some var => .isNull var
  | none => .none

/-- **What a condition says about pointers.** -/
def nullTest (nulls : List String) (n : Node) : NullTest :=
  match n.kind with
  | .parenthesizedExpression =>
    match _h : n.firstNamed? with
    | some inner => inner.nullTest nulls
    | none => .none
  | .identifier =>
    match n.plainVariable? nulls with
    | some var => (NullTest.isNull var).negate
    | none => .none
  | .assignmentExpression =>
    match (n.child? .left).bind (·.plainVariable? nulls) with
    | some var => (NullTest.isNull var).negate
    | none => .none
  | .unaryExpression =>
    match _h : n.child? .argument with
    | some argument =>
      if n.hasOperator "!" then (argument.nullTest nulls).negate else .none
    | none => .none
  | .binaryExpression =>
    match _hl : n.child? .left, _hr : n.child? .right with
    | some left, some right =>
      if n.hasOperator "&&" then (left.nullTest nulls).and (right.nullTest nulls)
      else if n.hasOperator "||" then (left.nullTest nulls).or (right.nullTest nulls)
      else if n.hasOperator "==" then comparisonTest nulls left right
      else if n.hasOperator "!=" then (comparisonTest nulls left right).negate
      else .none
    | _, _ => .none
  | _ => .none
termination_by sizeOf n
decreasing_by
  · exact sizeOf_firstNamed? ‹_›
  all_goals exact sizeOf_child? ‹_›

end NullFlow.C.Node
