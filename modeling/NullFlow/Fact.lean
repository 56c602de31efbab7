/-!
# Facts about pointers

A statement is reduced to the list of things it does to variables, in the order in which it does
them: it dereferences one, it assigns to one, it passes some to a function. Everything else about a
statement is of no consequence to the analyses.

Only whole variables count. `s->next->x` dereferences `s`; what it does to `s->next` is not
recorded.
-/

namespace NullFlow

/-- **How a pointer is dereferenced.** -/
inductive DerefKind where
  /-- As in `*p`. -/
  | star
  /-- As in `p->x`. -/
  | arrow
  /-- As in `p[i]`. -/
  | subscript
  deriving DecidableEq, Repr

/-- **What a variable holds after an assignment.** -/
inductive AssignedValue where
  | null
  | nonNull
  | unknown
  deriving DecidableEq, Repr

/-- **What a statement does to variables.** Lines are those of the source. -/
inductive Fact where
  | deref (var : String) (kind : DerefKind) (line : Nat)
  | assign (var : String) (value : AssignedValue) (line : Nat)
  /-- A call by name; each argument that is a plain variable is named. -/
  | call (function : String) (args : List (Option String)) (line : Nat)
  deriving DecidableEq, Repr

end NullFlow
