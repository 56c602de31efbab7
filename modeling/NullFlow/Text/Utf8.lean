/-!
# Bytes as text

Sources are read as UTF-8. Bytes that are no UTF-8 do not make a source unreadable: as many of them
as could begin a character are replaced by one replacement character, and reading goes on with the
next byte.
-/

namespace NullFlow.Text

/-- The character that stands for bytes that are none. -/
def replacement : Char := '\uFFFD'

/-- **What the first byte of a character says**: the bits it contributes, the number of bytes that
follow, and the least and the greatest value the next byte may have. -/
structure Lead where
  bits : Nat
  following : Nat
  least : UInt8 := 0x80
  greatest : UInt8 := 0xBF

/-- What a byte says as the first byte of a character of several bytes, none if it cannot be it. The
narrower ranges rule out characters that are written with too many bytes, surrogates, and numbers
beyond the last character. -/
def lead? (b : UInt8) : Option Lead :=
  if 0xC2 ≤ b ∧ b ≤ 0xDF then some { bits := b.toNat - 0xC0, following := 1 }
  else if b = 0xE0 then some { bits := 0, following := 2, least := 0xA0 }
  else if b = 0xED then some { bits := 0xD, following := 2, greatest := 0x9F }
  else if 0xE1 ≤ b ∧ b ≤ 0xEF then some { bits := b.toNat - 0xE0, following := 2 }
  else if b = 0xF0 then some { bits := 0, following := 3, least := 0x90 }
  else if 0xF1 ≤ b ∧ b ≤ 0xF3 then some { bits := b.toNat - 0xF0, following := 3 }
  else if b = 0xF4 then some { bits := 4, following := 3, greatest := 0x8F }
  else none

/-- Reads the bytes that follow within a character: the character, or the replacement where a byte
does not fit, and how many bytes were read. -/
def following (bits : Nat) (least greatest : UInt8) : Nat → List UInt8 → Char × Nat
  | 0, _ => (Char.ofNat bits, 0)
  | _ + 1, [] => (replacement, 0)
  | n + 1, b :: r =>
    if least ≤ b ∧ b ≤ greatest then
      let (c, count) := following (64 * bits + (b.toNat - 0x80)) 0x80 0xBF n r
      (c, count + 1)
    else (replacement, 0)

/-- **Reads bytes as text**, whatever they are. -/
def ofBytes (bytes : List UInt8) : List Char :=
  match bytes with
  | [] => []
  | b :: r =>
    if b < 0x80 then Char.ofNat b.toNat :: ofBytes r
    else match lead? b with
      | none => replacement :: ofBytes r
      | some l =>
        let (c, count) := following l.bits l.least l.greatest l.following r
        c :: ofBytes (r.drop count)
termination_by bytes.length
decreasing_by all_goals simp +arith

/-- A byte below 128 is a character by itself. -/
theorem ofBytes_of_lt {bytes : List UInt8} (h : ∀ b ∈ bytes, b < 0x80) :
    ofBytes bytes = bytes.map fun b => Char.ofNat b.toNat := by
  induction bytes with
  | nil => rw [ofBytes, List.map_nil]
  | cons b r ih =>
    rw [ofBytes, if_pos (h b List.mem_cons_self), ih fun c hc => h c (List.mem_cons_of_mem b hc),
      List.map_cons]

/-- The number of lines of a text; a line need not end with a line break. -/
def countLines (text : List Char) : Nat :=
  match text with
  | [] => 0
  | _ => text.count '\n' + if text.getLast? == some '\n' then 0 else 1

end NullFlow.Text
