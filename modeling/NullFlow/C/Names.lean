import NullFlow.C.Node

/-!
# Variables and null constants in expressions

Which variable an expression names, which expressions are null constants and which variable a
declarator declares. Besides `NULL` and `nullptr` a program may have names of its own for null; they
are given as the list `nulls`.

An expression names a variable if it is its name, in any number of parentheses. What stands first in
the parentheses counts, so a comment there hides the name.
-/

namespace NullFlow.C.Node

/-- Whether a name stands for null. -/
def isNullName (nulls : List String) (name : String) : Bool :=
  name == "NULL" || name == "nullptr" || nulls.contains name

/-- **The variable an expression names**, if it names one. -/
def plainVariable? (nulls : List String) (n : Node) : Option String :=
  match n.kind with
  | .identifier => if isNullName nulls n.text then none else some n.text
  | .parenthesizedExpression =>
    match _h : n.firstNamed? with
    | some inner => inner.plainVariable? nulls
    | none => none
  | _ => none
termination_by sizeOf n
decreasing_by exact sizeOf_firstNamed? ‹_›

/-- The digits of a number after the marks of base sixteen. -/
def dropHexMarks : List Char → List Char
  | '0' :: 'x' :: r => dropHexMarks r
  | s => s

/-- **Whether a number is a null constant**: it is written with zeros only, base mark and suffix
apart. -/
def isZeroText (text : String) : Bool :=
  let digits := (text.toList.reverse.dropWhile ['l', 'L', 'u', 'U'].contains).reverse
  !digits.isEmpty && (dropHexMarks digits).all (· == '0')

/-- **Whether an expression is a null constant**, in parentheses or under casts as well. -/
def isNullConstant (nulls : List String) (n : Node) : Bool :=
  match n.kind with
  | .nullLiteral => true
  | .numberLiteral => isZeroText n.text
  | .identifier => isNullName nulls n.text
  | .parenthesizedExpression =>
    match _h : n.firstNamed? with
    | some inner => inner.isNullConstant nulls
    | none => false
  | .castExpression =>
    match _h : n.child? .value with
    | some value => value.isNullConstant nulls
    | none => false
  | _ => false
termination_by sizeOf n
decreasing_by
  · exact sizeOf_firstNamed? ‹_›
  · exact sizeOf_child? ‹_›

/-- **The variable that is compared** when this expression is compared with null: the variable it
names, or the one it assigns to. -/
def comparedVariable? (nulls : List String) (n : Node) : Option String :=
  match n.kind with
  | .parenthesizedExpression =>
    match _h : n.firstNamed? with
    | some inner => inner.comparedVariable? nulls
    | none => none
  | .assignmentExpression => (n.child? .left).bind (·.plainVariable? nulls)
  | _ => n.plainVariable? nulls
termination_by sizeOf n
decreasing_by exact sizeOf_firstNamed? ‹_›

/-! ## Calls -/

/-- **The arguments of a call**, comments left out. -/
def callArguments (n : Node) : List Node :=
  match n.child? .arguments with
  | some arguments => arguments.namedChildren.filter (·.kind != .comment)
  | none => []

theorem sizeOf_callArguments {n a : Node} (h : a ∈ n.callArguments) : sizeOf a < sizeOf n := by
  unfold callArguments at h
  split at h
  · next arguments harg =>
    exact Nat.lt_trans (sizeOf_namedChildren (List.mem_filter.mp h).1) (sizeOf_child? harg)
  · exact absurd h List.not_mem_nil

/-! ## Declarators -/

/-- The declarator inside another one: the child in that role or else the first named child. -/
def innerDeclarator? (n : Node) : Option Node := (n.child? .declarator).or n.firstNamed?

theorem sizeOf_innerDeclarator? {n c : Node} (h : n.innerDeclarator? = some c) :
    sizeOf c < sizeOf n := by
  unfold innerDeclarator? at h
  cases hc : n.child? .declarator with
  | none => rw [hc, Option.none_or] at h; exact sizeOf_firstNamed? h
  | some d => rw [hc, Option.some_or] at h; cases h; exact sizeOf_child? hc

/-- **The variable a declarator declares.** A declarator of a function declares none. -/
def declaredName? (n : Node) : Option String :=
  match n.kind with
  | .identifier => some n.text
  | .pointerDeclarator | .arrayDeclarator | .initDeclarator | .parenthesizedDeclarator
  | .attributedDeclarator =>
    match _h : n.innerDeclarator? with
    | some inner => inner.declaredName?
    | none => none
  | _ => none
termination_by sizeOf n
decreasing_by all_goals exact sizeOf_innerDeclarator? ‹_›

/-- **Whether a declarator declares a pointer.** An array is none. -/
def declaresPointer (n : Node) : Bool :=
  match n.kind with
  | .pointerDeclarator => true
  | .initDeclarator | .parenthesizedDeclarator | .attributedDeclarator =>
    match _h : n.innerDeclarator? with
    | some inner => inner.declaresPointer
    | none => false
  | _ => false
termination_by sizeOf n
decreasing_by all_goals exact sizeOf_innerDeclarator? ‹_›

end NullFlow.C.Node
