import NullFlow.Text.Hex

/-!
# Configuration files: the place in the text

YAML depends on the columns of its lines. A `Cursor` is the rest of a text with the line and the
column it begins at, and a `Scan` is a step that moves the cursor and may fail.
-/

namespace NullFlow.Yaml

/-- **A place in a text.** -/
structure Cursor where
  rest : List Char
  index : Nat := 0
  line : Nat := 0
  column : Nat := 0

/-- **A step through a text.** -/
abbrev Scan (α : Type) := StateT Cursor Option α

/-- Fails. -/
def fail {α : Type} : Scan α := fun _ => none

/-- Whether the character ends a line. -/
def isBreak (c : Char) : Bool :=
  c == '\n' || c == '\r' || c == '\u0085' || c == '\u2028' || c == '\u2029'

def isBlank (c : Char) : Bool := c == ' ' || c == '\t'

/-- Whether a text ends here, or a blank or the end of the line comes next. -/
def isGap (c : Option Char) : Bool := c.all fun c => isBlank c || isBreak c

/-- Whether the text or the line ends here. -/
def isLineEnd (c : Option Char) : Bool := c.all isBreak

/-- Characters that a text may hold. -/
def isAllowed (c : Char) : Bool :=
  let n := c.toNat
  c == '\t' || c == '\n' || c == '\r' || (0x20 ≤ n && n ≤ 0x7E) || n == 0x85
    || (0xA0 ≤ n && n ≤ 0xD7FF) || (0xE000 ≤ n && n ≤ 0xFFFD && n != 0xFEFF) || 0x10000 ≤ n

/-- The next character, which stays. -/
def peek : Scan (Option Char) := return (← get).rest.head?

/-- A character further on, which stays. -/
def peekAt (n : Nat) : Scan (Option Char) := return (← get).rest[n]?

/-- How much text is left. -/
def remaining : Scan Nat := return (← get).rest.length

/-- Takes a character that is no line break. -/
def next : Scan Char := fun s =>
  match s.rest with
  | [] => none
  | c :: r => some (c, { s with rest := r, index := s.index + 1, column := s.column + 1 })

/-- **Takes a line break.** Most of them stand for a plain one. -/
def nextBreak : Scan (List Char) := fun s =>
  let broken (length : Nat) (r : List Char) : Cursor :=
    { rest := r, index := s.index + length, line := s.line + 1 }
  match s.rest with
  | '\r' :: '\n' :: r => some (['\n'], broken 2 r)
  | '\n' :: r => some (['\n'], broken 1 r)
  | '\r' :: r => some (['\n'], broken 1 r)
  | '\u0085' :: r => some (['\n'], broken 1 r)
  | c :: r => if isBreak c then some ([c], broken 1 r) else some ([], s)
  | [] => some ([], s)

/-- Takes the character if it comes next. -/
def take (c : Char) : Scan Bool := do
  if (← peek) == some c then
    discard next
    return true
  else return false

/-- Takes as many fitting characters as there are; none of them may be a line break. -/
def takeWhile (fits : Char → Bool) : Scan (List Char) := fun s =>
  let taken := s.rest.takeWhile fits
  some (taken, { s with
    rest := s.rest.dropWhile fits
    index := s.index + taken.length
    column := s.column + taken.length })

/-- Skips a comment up to the end of its line, if one begins here. -/
def skipComment : Scan Unit := do
  if (← peek) == some '#' then discard (takeWhile (!isBreak ·))

/-- Whether a line begins here with the mark that begins or ends a document. -/
def atDocumentMark (mark : Char) : Scan Bool := do
  let s ← get
  return s.column == 0 && s.rest.take 3 == [mark, mark, mark] && isGap s.rest[3]?

/-- Whether a document begins or ends here. -/
def atDocumentEdge : Scan Bool := return (← atDocumentMark '-') || (← atDocumentMark '.')

end NullFlow.Yaml
