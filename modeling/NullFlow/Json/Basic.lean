import NullFlow.Text.Hex

/-!
# JSON values

Reports that other tools read, and the findings that other tools write, are in JSON. A value keeps
its texts and numbers as they are **spelled**: what stands between the quotes of a text is looked
into only when someone asks for the text, so a value can hold a text that is never asked for
although its spelling stands for none.

`JsonValue.ofText` spells a text, `JsonValue.text?` reads it back; likewise for numbers.
-/

namespace NullFlow

open Text (hexDigit hexValue?)

/-- **A JSON value.** -/
inductive JsonValue where
  | null
  | bool (b : Bool)
  /-- A number as it is spelled. -/
  | number (spelled : List Char)
  /-- A text as it is spelled between its quotes. -/
  | text (spelled : List Char)
  | list (items : List JsonValue)
  /-- The fields in their order, each with its name as it is spelled. -/
  | object (fields : List (List Char × JsonValue))
  deriving Repr, Inhabited

namespace JsonValue

/-! ## Texts -/

/-- The value of four hexadecimal digits. -/
def hex4? (a b c d : Char) : Option Nat := do
  return 4096 * (← hexValue? a) + 256 * (← hexValue? b) + 16 * (← hexValue? c) + (← hexValue? d)

/-- **How a character is spelled.** Only quotes, backslashes and control characters need an
escape. -/
def spellChar (c : Char) : List Char :=
  if c = '"' then ['\\', '"']
  else if c = '\\' then ['\\', '\\']
  else if c = '\x08' then ['\\', 'b']
  else if c = '\t' then ['\\', 't']
  else if c = '\n' then ['\\', 'n']
  else if c = '\x0C' then ['\\', 'f']
  else if c = '\r' then ['\\', 'r']
  else if c.toNat < 0x20 then
    ['\\', 'u', '0', '0', hexDigit (c.toNat / 16), hexDigit (c.toNat % 16)]
  else [c]

/-- How a text is spelled. -/
def spell (s : String) : List Char := s.toList.flatMap spellChar

/-- The value of a text. -/
def ofText (s : String) : JsonValue := .text (spell s)

/-- The character that a short escape stands for. -/
def shortEscape? : Char → Option Char
  | '"' => some '"'
  | '\\' => some '\\'
  | '/' => some '/'
  | 'b' => some '\x08'
  | 'f' => some '\x0C'
  | 'n' => some '\n'
  | 'r' => some '\r'
  | 't' => some '\t'
  | _ => none

/-- **The characters that are spelled.** Two escapes with the halves of a surrogate pair stand for
one character, and half of a pair stands for none. -/
def unspell? : List Char → Option (List Char)
  | [] => some []
  | '\\' :: 'u' :: a :: b :: c :: d :: r => do
    let n ← hex4? a b c d
    if 0xD800 ≤ n ∧ n < 0xDC00 then
      match r with
      | '\\' :: 'u' :: a' :: b' :: c' :: d' :: r' => do
        let m ← hex4? a' b' c' d'
        if 0xDC00 ≤ m ∧ m < 0xE000 then
          (unspell? r').map (Char.ofNat (0x10000 + 1024 * (n - 0xD800) + (m - 0xDC00)) :: ·)
        else none
      | _ => none
    else if 0xDC00 ≤ n ∧ n < 0xE000 then none
    else (unspell? r).map (Char.ofNat n :: ·)
  | '\\' :: e :: r => do
    let c ← shortEscape? e
    (unspell? r).map (c :: ·)
  | c :: r => if c = '\\' then none else (unspell? r).map (c :: ·)

/-- The text that a value is. -/
def text? : JsonValue → Option String
  | .text spelled => (unspell? spelled).map String.ofList
  | _ => none

/-! ## Numbers and truth values -/

/-- The value of a whole number. -/
def ofNat (n : Nat) : JsonValue := .number (toString n).toList

/-- The first number that does not fit into 64 bits. -/
def numberLimit : Nat := Nat.pow 2 64

/-- The number that decimal digits stand for, after digits that stand for the given number. -/
def digits? (before : Nat) : List Char → Option Nat
  | [] => some before
  | c :: r => if '0' ≤ c ∧ c ≤ '9' then digits? (10 * before + (c.toNat - '0'.toNat)) r else none

/-- The whole number that a value is: digits without a sign, a fraction or an exponent, that fit
into 64 bits. -/
def nat? : JsonValue → Option Nat
  | .number spelled => (digits? 0 spelled).filter (· < numberLimit)
  | _ => none

/-- The truth value that a value is. -/
def bool? : JsonValue → Option Bool
  | .bool b => some b
  | _ => none

/-- The items of a list. -/
def list? : JsonValue → Option (List JsonValue)
  | .list items => some items
  | _ => none

/-! ## Objects -/

/-- An object with fields in order. -/
def ofFields (fields : List (String × JsonValue)) : JsonValue :=
  .object (fields.map fun (name, value) => (spell name, value))

/-- The values under a name, in order. -/
def valuesOf (name : List Char) : List (List Char × JsonValue) → List JsonValue
  | [] => []
  | (n, v) :: r => if unspell? n = some name then v :: valuesOf name r else valuesOf name r

/-- **The fields of a record** with the given names, none for a field that is missing. A record is
an object, in which every name has a meaning and none of the given names is repeated, or a list of
values for the first of the names. -/
def record? (names : List String) : JsonValue → Option (List (Option JsonValue))
  | .object fields =>
    if fields.all fun f => (unspell? f.1).isSome then
      names.mapM fun name =>
        match valuesOf name.toList fields with
        | [] => some none
        | [v] => some (some v)
        | _ => none
    else none
  | .list items =>
    if items.length ≤ names.length then
      some (items.map some ++ List.replicate (names.length - items.length) none)
    else none
  | _ => none

/-- The word that a value is: a text, or an object with that text as the name of a single null. -/
def word? : JsonValue → Option String
  | .text spelled => (unspell? spelled).map String.ofList
  | .object [(name, .null)] => (unspell? name).map String.ofList
  | _ => none

/-- A value or null. -/
def ofOption {α : Type} (f : α → JsonValue) : Option α → JsonValue
  | some a => f a
  | none => .null

/-- A list of values. -/
def ofList {α : Type} (f : α → JsonValue) (items : List α) : JsonValue := .list (items.map f)

end JsonValue

end NullFlow
