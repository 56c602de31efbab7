import NullFlow.Category

/-!
# Findings

A **finding** says where a defect is, what it is, and by which **events** it came about: where the
pointer was compared with null, where it was dereferenced. One event is the main one; it is where
the defect is reported.

Findings are listed by file, line, function and category. What a finding says does not count for its
place, so findings that agree in these four stay in the order in which they were made.
-/

namespace NullFlow

/-- **What happens at a step** towards a defect. -/
inductive EventTag where
  /-- A pointer is compared with null. -/
  | nullCheck
  /-- A pointer is assigned a null constant. -/
  | assignZero
  /-- A pointer is dereferenced. -/
  | varDerefOp
  /-- A pointer is passed to a function that dereferences it. -/
  | varDerefModel
  /-- A pointer is dereferenced before it is compared with null. -/
  | derefBeforeCheck
  deriving DecidableEq, Repr

namespace EventTag

/-- The name of a tag in reports. -/
def name : EventTag → String
  | .nullCheck => "null_check"
  | .assignZero => "assign_zero"
  | .varDerefOp => "var_deref_op"
  | .varDerefModel => "var_deref_model"
  | .derefBeforeCheck => "deref_before_check"

/-- All tags. -/
def all : List EventTag := [.nullCheck, .assignZero, .varDerefOp, .varDerefModel, .derefBeforeCheck]

/-- Reads the name of a tag. -/
def ofName? (text : String) : Option EventTag := all.find? (·.name == text)

end EventTag

/-- **A step towards a defect.** -/
structure Event where
  tag : EventTag
  line : Nat
  description : String
  isMain : Bool := false
  deriving DecidableEq, Repr

/-- **A reported defect.** -/
structure Finding where
  file : String
  function : String
  line : Nat
  category : Category
  message : String
  events : List Event := []
  deriving DecidableEq, Repr

namespace Finding

/-- The main event, if there is one. -/
def mainEvent? (f : Finding) : Option Event := f.events.find? (·.isMain)

/-- The finding on one line. -/
def summary (f : Finding) : String :=
  f.file ++ ":" ++ toString f.line ++ ": " ++ f.category.checker ++ " in " ++ f.function ++ ": "
    ++ f.message

/-- **The order of findings**: by file, then line, then function, then category. -/
def order (f g : Finding) : Ordering :=
  (compare f.file g.file).then <| (compare f.line g.line).then <|
    (compare f.function g.function).then (compare f.category.rank g.category.rank)

/-- **Sorts findings**, keeping the order of those that agree in file, line, function and
category. -/
def sort (fs : List Finding) : List Finding := fs.mergeSort fun f g => (order f g).isLE

/-- Whether two findings report the same defect, by whatever events. -/
def sameDefect (f g : Finding) : Bool :=
  f.file == g.file && f.function == g.function && f.line == g.line && f.category == g.category
    && f.message == g.message

/-- The findings after a given one, without those that repeat the one before them. -/
def dropRepeats (last : Finding) : List Finding → List Finding
  | [] => []
  | f :: r => if last.sameDefect f then dropRepeats last r else f :: dropRepeats f r

/-- **Keeps the first of neighbours that report the same defect.** -/
def distinct : List Finding → List Finding
  | [] => []
  | f :: r => f :: dropRepeats f r

end Finding

end NullFlow
