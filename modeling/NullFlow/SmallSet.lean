/-!
# Small sets of numbers

A `SmallSet` holds numbers below `SmallSet.bound` as the bits of three words, so that the union, the
difference and the comparison of two sets take a few machine instructions. The tables of a grammar
are made of such sets: sets of tokens, and sets of classes of characters.
-/

namespace NullFlow

/-- **A set of numbers below 192.** -/
structure SmallSet where
  /-- The numbers below 64. -/
  low : UInt64
  /-- The numbers from 64 to 127. -/
  middle : UInt64
  /-- The numbers from 128 to 191. -/
  high : UInt64
  deriving DecidableEq, Repr, Hashable, Inhabited

namespace SmallSet

/-- What the members stay below. -/
def bound : Nat := 192

/-- The set without members. -/
def empty : SmallSet := ⟨0, 0, 0⟩

instance : EmptyCollection SmallSet := ⟨empty⟩

/-- The word in which one bit stands for a number. -/
def bit (i : Nat) : UInt64 := (1 : UInt64) <<< (i % 64).toUInt64

/-- Whether the number is in the set. -/
def contains (s : SmallSet) (i : Nat) : Bool :=
  let word := if i < 64 then s.low else if i < 128 then s.middle else if i < 192 then s.high else 0
  word &&& bit i != 0

/-- The set with one number more. -/
def insert (s : SmallSet) (i : Nat) : SmallSet :=
  if i < 64 then { s with low := s.low ||| bit i }
  else if i < 128 then { s with middle := s.middle ||| bit i }
  else if i < 192 then { s with high := s.high ||| bit i }
  else s

/-- The numbers of either set. -/
def union (s t : SmallSet) : SmallSet :=
  ⟨s.low ||| t.low, s.middle ||| t.middle, s.high ||| t.high⟩

/-- The numbers of both sets. -/
def inter (s t : SmallSet) : SmallSet :=
  ⟨s.low &&& t.low, s.middle &&& t.middle, s.high &&& t.high⟩

/-- The numbers of the first set that are not in the second. -/
def diff (s t : SmallSet) : SmallSet :=
  ⟨s.low &&& ~~~ t.low, s.middle &&& ~~~ t.middle, s.high &&& ~~~ t.high⟩

instance : Union SmallSet := ⟨union⟩
instance : Inter SmallSet := ⟨inter⟩
instance : SDiff SmallSet := ⟨diff⟩

/-- Whether the set has no member. -/
def isEmpty (s : SmallSet) : Bool := s.low == 0 && s.middle == 0 && s.high == 0

/-- Whether two sets share a member. -/
def meets (s t : SmallSet) : Bool :=
  s.low &&& t.low != 0 || s.middle &&& t.middle != 0 || s.high &&& t.high != 0

/-- The set of the numbers in a list. -/
def ofList (l : List Nat) : SmallSet := l.foldl insert empty

/-- The set with one member. -/
def singleton (i : Nat) : SmallSet := empty.insert i

/-- The set of the numbers from `first` to `last`. -/
def interval (first last : Nat) : SmallSet :=
  ofList ((List.range (last + 1 - first)).map (first + ·))

/-- The members in ascending order. -/
def toList (s : SmallSet) : List Nat := (List.range bound).filter s.contains

@[simp] theorem contains_empty (i : Nat) : empty.contains i = false := by
  simp [contains, empty]

theorem isEmpty_empty : empty.isEmpty = true := rfl

@[simp] theorem union_empty (s : SmallSet) : s.union empty = s := by
  simp [union, empty]

theorem union_comm (s t : SmallSet) : s.union t = t.union s := by
  simp [union, UInt64.or_comm]

theorem union_self (s : SmallSet) : s.union s = s := by
  simp [union]

end SmallSet

end NullFlow
