import NullFlow.Vars

/-!
# Null tests

What the outcome of a condition says about pointers: if it is true, some variables are known to be
null and some not to be, and if it is false, others are. The connectives of conditions act on null
tests: a negation swaps the two outcomes, a conjunction that is true makes both of its sides true,
and of a conjunction that is false only that is known which either side would tell.
-/

namespace NullFlow

/-- **What a condition says about pointers**, outcome by outcome. -/
structure NullTest where
  nullWhenTrue : Vars := ∅
  nonNullWhenTrue : Vars := ∅
  nullWhenFalse : Vars := ∅
  nonNullWhenFalse : Vars := ∅
  deriving DecidableEq

namespace NullTest

/-- A condition that says nothing. -/
def none : NullTest := {}

/-- Whether the condition says nothing about any variable. -/
def isEmpty (t : NullTest) : Bool :=
  t.nullWhenTrue.isEmpty && t.nonNullWhenTrue.isEmpty && t.nullWhenFalse.isEmpty
    && t.nonNullWhenFalse.isEmpty

/-- **Every variable that the condition compares with null.** -/
def testedVars (t : NullTest) : Vars :=
  t.nullWhenTrue ∪ t.nonNullWhenTrue ∪ t.nullWhenFalse ∪ t.nonNullWhenFalse

/-- The condition that a variable is null. -/
def isNull (var : String) : NullTest :=
  { nullWhenTrue := {var}, nonNullWhenFalse := {var} }

/-- The opposite condition. -/
def negate (t : NullTest) : NullTest where
  nullWhenTrue := t.nullWhenFalse
  nonNullWhenTrue := t.nonNullWhenFalse
  nullWhenFalse := t.nullWhenTrue
  nonNullWhenFalse := t.nonNullWhenTrue

/-- **Both conditions.** If the conjunction is true, all that either says holds; if it is false,
only what both say. -/
def and (s t : NullTest) : NullTest where
  nullWhenTrue := s.nullWhenTrue ∪ t.nullWhenTrue
  nonNullWhenTrue := s.nonNullWhenTrue ∪ t.nonNullWhenTrue
  nullWhenFalse := s.nullWhenFalse ∩ t.nullWhenFalse
  nonNullWhenFalse := s.nonNullWhenFalse ∩ t.nonNullWhenFalse

/-- **One of two conditions**: the opposite of both opposites. -/
def or (s t : NullTest) : NullTest := (s.negate.and t.negate).negate

/-- The variables that are null if the condition has the given outcome. -/
def nullWhen (t : NullTest) (outcome : Bool) : Vars :=
  if outcome then t.nullWhenTrue else t.nullWhenFalse

/-- The variables that are not null if the condition has the given outcome. -/
def nonNullWhen (t : NullTest) (outcome : Bool) : Vars :=
  if outcome then t.nonNullWhenTrue else t.nonNullWhenFalse

@[simp] theorem negate_negate (t : NullTest) : t.negate.negate = t := rfl

end NullTest

end NullFlow
