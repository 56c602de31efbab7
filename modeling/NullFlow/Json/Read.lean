import NullFlow.Json.Basic

/-!
# Reading JSON

`JsonValue.read?` reads a text that is one value with white space around it. Any deviation from the
format makes it fail. The spelling of texts is checked, but not whether it stands for characters.
-/

namespace NullFlow.JsonValue

/-- White space between the parts of a value. -/
def isSpace (c : Char) : Bool := c == ' ' || c == '\n' || c == '\t' || c == '\r'

/-- The text without the white space at its beginning. -/
def skipSpace (s : List Char) : List Char := s.dropWhile isSpace

/-- **Reads the rest of a text up to its closing quote**: the spelling, and what follows. -/
def readText? : List Char → Option (List Char × List Char)
  | [] => none
  | '"' :: r => some ([], r)
  | '\\' :: 'u' :: a :: b :: c :: d :: r =>
    if (hex4? a b c d).isSome then
      (readText? r).map fun (s, rest) => ('\\' :: 'u' :: a :: b :: c :: d :: s, rest)
    else none
  | '\\' :: e :: r =>
    if (shortEscape? e).isSome then (readText? r).map fun (s, rest) => ('\\' :: e :: s, rest)
    else none
  | c :: r =>
    if c = '\\' ∨ c.toNat < 0x20 then none else (readText? r).map fun (s, rest) => (c :: s, rest)

/-- Whether the character is a decimal digit. -/
def isDigit (c : Char) : Bool := '0' ≤ c && c ≤ '9'

/-- One digit or more: the digits, and what follows. -/
def readDigits? (s : List Char) : Option (List Char × List Char) :=
  match s.span isDigit with
  | ([], _) => none
  | (digits, rest) => some (digits, rest)

/-- The whole part of a number: a single zero, or digits that do not begin with one. -/
def readWhole? : List Char → Option (List Char × List Char)
  | '0' :: c :: r => if isDigit c then none else some (['0'], c :: r)
  | s => readDigits? s

/-- The fraction of a number, which may be missing. -/
def readFraction? : List Char → Option (List Char × List Char)
  | '.' :: r => (readDigits? r).map fun (digits, rest) => ('.' :: digits, rest)
  | s => some ([], s)

/-- The exponent of a number, which may be missing. -/
def readExponent? : List Char → Option (List Char × List Char)
  | e :: s :: r =>
    if e = 'e' ∨ e = 'E' then
      if s = '+' ∨ s = '-' then (readDigits? r).map fun (digits, rest) => (e :: s :: digits, rest)
      else (readDigits? (s :: r)).map fun (digits, rest) => (e :: digits, rest)
    else some ([], e :: s :: r)
  | [e] => if e = 'e' ∨ e = 'E' then none else some ([], [e])
  | [] => some ([], [])

/-- **Reads a number**: its spelling, and what follows. -/
def readNumber? (s : List Char) : Option (List Char × List Char) := do
  let (sign, s) := match s with
    | '-' :: r => (['-'], r)
    | _ => ([], s)
  let (whole, s) ← readWhole? s
  let (fraction, s) ← readFraction? s
  let (exponent, s) ← readExponent? s
  return (sign ++ whole ++ fraction ++ exponent, s)

/-- Removes a word from the beginning. -/
def dropWord? : List Char → List Char → Option (List Char)
  | [], s => some s
  | w :: ws, c :: r => if w = c then dropWord? ws r else none
  | _ :: _, [] => none

mutual

/-- **Reads a value** after white space: the value, and what follows. `depth` bounds the number of
characters that are looked at on the way. -/
def readValue? : (depth : Nat) → List Char → Option (JsonValue × List Char)
  | 0, _ => none
  | depth + 1, s =>
    match skipSpace s with
    | [] => none
    | '"' :: r => (readText? r).map fun (spelled, rest) => (.text spelled, rest)
    | '[' :: r =>
      match skipSpace r with
      | ']' :: rest => some (.list [], rest)
      | _ => (readItems? depth r).map fun (items, rest) => (.list items, rest)
    | '\x7b' :: r =>
      match skipSpace r with
      | '\x7d' :: rest => some (.object [], rest)
      | _ => (readFields? depth r).map fun (fields, rest) => (.object fields, rest)
    | 'n' :: r => (dropWord? "ull".toList r).map (.null, ·)
    | 't' :: r => (dropWord? "rue".toList r).map (.bool true, ·)
    | 'f' :: r => (dropWord? "alse".toList r).map (.bool false, ·)
    | c :: r => (readNumber? (c :: r)).map fun (spelled, rest) => (.number spelled, rest)

/-- Reads items up to the closing bracket. -/
def readItems? : (depth : Nat) → List Char → Option (List JsonValue × List Char)
  | 0, _ => none
  | depth + 1, s => do
    let (item, rest) ← readValue? depth s
    match skipSpace rest with
    | ',' :: r => (readItems? depth r).map fun (items, rest) => (item :: items, rest)
    | ']' :: r => some ([item], r)
    | _ => none

/-- Reads fields up to the closing brace. -/
def readFields? : (depth : Nat) → List Char → Option (List (List Char × JsonValue) × List Char)
  | 0, _ => none
  | depth + 1, s =>
    match skipSpace s with
    | '"' :: r => do
      let (name, rest) ← readText? r
      match skipSpace rest with
      | ':' :: r => do
        let (value, rest) ← readValue? depth r
        match skipSpace rest with
        | ',' :: r =>
          (readFields? depth r).map fun (fields, rest) => ((name, value) :: fields, rest)
        | '\x7d' :: r => some ([(name, value)], r)
        | _ => none
      | _ => none
    | _ => none

end

/-- **Reads a text that is one value.** Each step of the reading takes a character or is followed by
one that does, so twice as many steps as there are characters are enough. -/
def read? (s : String) : Option JsonValue := do
  let (value, rest) ← readValue? (2 * s.length + 2) s.toList
  if (skipSpace rest).isEmpty then some value else none

end NullFlow.JsonValue
