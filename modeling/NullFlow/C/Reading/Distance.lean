/-!
# Distances in a text

A `Distance` says how far it is from one place of a text to another, in bytes and in lines. A place
of a text is its distance from the beginning.
-/

namespace NullFlow.C

/-- **How far it is from one place to another**: in bytes, in line breaks, and in bytes after the
last line break. -/
structure Distance where
  bytes : Nat
  rows : Nat
  columns : Nat
  deriving DecidableEq, Repr, Inhabited

namespace Distance

/-- No way at all. -/
def zero : Distance := ⟨0, 0, 0⟩

/-- One way after the other. -/
def add (a b : Distance) : Distance :=
  if b.rows > 0 then ⟨a.bytes + b.bytes, a.rows + b.rows, b.columns⟩
  else ⟨a.bytes + b.bytes, a.rows, a.columns + b.columns⟩

/-- The way from one place to a later one. -/
def since (later earlier : Distance) : Distance :=
  if later.rows > earlier.rows then
    ⟨later.bytes - earlier.bytes, later.rows - earlier.rows, later.columns⟩
  else ⟨later.bytes - earlier.bytes, 0, later.columns - earlier.columns⟩

/-- The place after a character. -/
def past (place : Distance) (c : Char) : Distance :=
  if c = '\n' then ⟨place.bytes + 1, place.rows + 1, 0⟩
  else ⟨place.bytes + c.utf8Size, place.rows, place.columns + c.utf8Size⟩

@[simp] theorem add_zero (a : Distance) : a.add zero = a := by
  simp [add, zero]

@[simp] theorem zero_add (a : Distance) : zero.add a = a := by
  cases a
  simp only [add, zero, Nat.zero_add]
  split <;> simp_all

/-- Going on from an earlier place by the way to the later one leads there. -/
theorem add_since {a b : Distance} (hb : a.bytes ≤ b.bytes) (hr : a.rows ≤ b.rows)
    (hc : a.rows = b.rows → a.columns ≤ b.columns) : a.add (b.since a) = b := by
  have hbytes := Nat.add_sub_cancel' hb
  unfold since
  by_cases hlater : b.rows > a.rows
  · have hrows := Nat.add_sub_cancel' hr
    have hnew : b.rows - a.rows > 0 := Nat.sub_pos_of_lt hlater
    rw [if_pos hlater, add, if_pos hnew]
    simp only [hbytes, hrows]
  · have hsame : a.rows = b.rows := Nat.le_antisymm hr (Nat.le_of_not_lt hlater)
    have hcolumns := Nat.add_sub_cancel' (hc hsame)
    rw [if_neg hlater, add, if_neg (Nat.lt_irrefl 0)]
    simp only [hbytes, hsame, hcolumns]

end Distance

end NullFlow.C
