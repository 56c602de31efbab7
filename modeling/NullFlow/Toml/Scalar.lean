import NullFlow.Text.Hex
import NullFlow.Toml.Basic

/-!
# Configuration tables: texts, numbers and dates

Readers for the values of a TOML document that hold no other values. A reader takes characters from
the beginning of the text and gives what it read with the rest, or nothing if the text does not
begin with what it reads.
-/

namespace NullFlow.Toml

/-- **A reader**: what was read, and the rest. -/
abbrev Reader (α : Type) := StateT (List Char) Option α

/-- Fails. -/
def fail {α : Type} : Reader α := fun _ => none

/-- The first reader that succeeds. -/
def orElse {α : Type} (a b : Reader α) : Reader α := fun s => (a s).or (b s)

/-- What a reader gives, or none if it fails. -/
def optional {α : Type} (a : Reader α) : Reader (Option α) := fun s =>
  match a s with
  | some (x, rest) => some (some x, rest)
  | none => some (none, s)

/-- The next character, which stays. -/
def peek : Reader (Option Char) := fun s => some (s.head?, s)

/-- The next character, if it fits. -/
def satisfying (fits : Char → Bool) : Reader Char
  | [] => none
  | c :: r => if fits c then some (c, r) else none

/-- The given characters. -/
def exactly : List Char → Reader Unit
  | [] => pure ()
  | c :: r => do
    discard (satisfying (· == c))
    exactly r

/-- As many fitting characters as there are. -/
def run (fits : Char → Bool) : Reader (List Char) := fun s =>
  some (s.takeWhile fits, s.dropWhile fits)

/-- A fixed number of fitting characters. -/
def count (fits : Char → Bool) : Nat → Reader (List Char)
  | 0 => pure []
  | n + 1 => do
    let c ← satisfying fits
    return c :: (← count fits n)

/-! ## Blanks, line breaks and comments -/

def isBlank (c : Char) : Bool := c == ' ' || c == '\t'

/-- A character of a comment or a text: anything but a control character. -/
def isPlain (c : Char) : Bool := c == '\t' || (0x20 ≤ c.toNat && c.toNat != 0x7F)

/-- Blanks. -/
def blanks : Reader Unit := discard (run isBlank)

/-- A line break. -/
def lineBreak : Reader Unit := orElse (exactly ['\n']) (exactly ['\r', '\n'])

/-- A comment up to the end of its line, if there is one. -/
def comment : Reader Unit := discard <| optional do
  exactly ['#']
  run isPlain

/-- The end of a line after blanks and a comment; the text may end there. -/
def lineEnd : Reader Unit := do
  blanks
  comment
  if (← peek).isSome then lineBreak

/-- Blanks, comments and line breaks between the items of a list. -/
def gap : Reader Unit := fun s => go (s.length + 1) s
where
  /-- At most the given number of lines. -/
  go : Nat → Reader Unit
    | 0 => pure ()
    | n + 1 => do
      blanks
      comment
      if (← optional lineBreak).isSome then go n

/-! ## Texts -/

/-- The character with a number in hexadecimal digits. -/
def scalar (digits : List Char) : Reader Char := do
  let values ← (digits.mapM Text.hexValue? : Option (List Nat))
  let n := values.foldl (fun n d => 16 * n + d) 0
  if n < 0xD800 || (0xE000 ≤ n && n < 0x110000) then return Char.ofNat n else fail

/-- The character that an escape stands for, after its backslash. -/
def escape : Reader Char := do
  match ← satisfying fun _ => true with
  | 'b' => return '\x08'
  | 't' => return '\t'
  | 'n' => return '\n'
  | 'f' => return '\x0C'
  | 'r' => return '\r'
  | '"' => return '"'
  | '\\' => return '\\'
  | 'u' => scalar (← count (fun c => (Text.hexValue? c).isSome) 4)
  | 'U' => scalar (← count (fun c => (Text.hexValue? c).isSome) 8)
  | _ => fail

/-- The rest of a text up to the quote that opened it; escapes count only in double quotes. -/
def lineText (quote : Char) : Nat → Reader (List Char)
  | 0 => fail
  | n + 1 => do
    let c ← satisfying isPlain
    if c == quote then return []
    else if c == '\\' && quote == '"' then
      let e ← escape
      return e :: (← lineText quote n)
    else return c :: (← lineText quote n)

/-- The rest of a text without the blanks and line breaks at its beginning. -/
def dropWhite : List Char → List Char
  | '\r' :: '\n' :: r => dropWhite r
  | c :: r => if isBlank c || c == '\n' then dropWhite r else c :: r
  | [] => []

/-- A line break that is hidden by a backslash, with all the white space after it. -/
def hiddenBreak : Reader Unit := do
  blanks
  lineBreak
  modify dropWhite

/-- Closing quotes: three, after one or two that belong to the text. -/
def closing (quote : Char) : Reader (List Char) :=
  let exactlyMore (n : Nat) : Reader (List Char) := do
    exactly (List.replicate (3 + n) quote)
    return List.replicate n quote
  orElse (exactlyMore 2) (orElse (exactlyMore 1) (exactlyMore 0))

/-- The rest of a text of several lines up to three quotes. -/
def linesText (quote : Char) : Nat → Reader (List Char)
  | 0 => fail
  | n + 1 => do
    if let some quotes ← optional (closing quote) then return quotes
    if (← optional lineBreak).isSome then return '\n' :: (← linesText quote n)
    let c ← satisfying isPlain
    if c == '\\' && quote == '"' then
      if (← optional hiddenBreak).isSome then linesText quote n
      else
        let e ← escape
        return e :: (← linesText quote n)
    else return c :: (← linesText quote n)

/-- **A text** in quotes of one kind, on one line or on several. -/
def quoted (quote : Char) (severalLines : Bool) : Reader String := fun s =>
  (do
    if severalLines && (← optional (exactly [quote, quote, quote])).isSome then
      discard (optional lineBreak)
      return String.ofList (← linesText quote (s.length + 1))
    else
      exactly [quote]
      return String.ofList (← lineText quote (s.length + 1)) : Reader String) s

/-! ## Numbers -/

def isDecimal (c : Char) : Bool := '0' ≤ c && c ≤ '9'

/-- Digits with single underscores between them. -/
def digits (isDigit : Char → Bool) : Reader (List Char) := do
  let first ← satisfying isDigit
  let more ← run fun c => isDigit c || c == '_'
  let groups := ((first :: more).splitOn '_')
  if groups.any (·.isEmpty) then fail else return groups.flatten

/-- The value of digits. -/
def value (base : Nat) (ds : List Char) : Nat :=
  ds.foldl (fun n c => base * n + (Text.hexValue? c).getD 0) 0

/-- A sign, if there is one. -/
def sign : Reader (Option Char) := optional (satisfying fun c => c == '+' || c == '-')

/-- Decimal digits without a superfluous zero at the beginning. -/
def whole : Reader (List Char) :=
  orElse (do
      let d ← satisfying fun c => '1' ≤ c && c ≤ '9'
      let more ← optional do
        discard (optional (exactly ['_']))
        digits isDecimal
      return d :: more.getD [])
    (do exactly ['0']; return ['0'])

/-- Whether a number fits into 64 bits with a sign. -/
def fits (n : Int) : Bool := -9223372036854775808 ≤ n && n ≤ 9223372036854775807

/-- **A whole number**: decimal with a sign, or to another base without one. -/
def integer : Reader Int := do
  let based (base : Nat) (mark : Char) (isDigit : Char → Bool) : Reader Int := do
    exactly ['0', mark]
    return (value base (← digits isDigit) : Nat)
  let decimal : Reader Int := do
    let s ← sign
    let n : Int := (value 10 (← whole) : Nat)
    return if s == some '-' then -n else n
  let n ← orElse (based 16 'x' fun c => (Text.hexValue? c).isSome) <|
    orElse (based 8 'o' fun c => '0' ≤ c && c ≤ '7') <|
    orElse (based 2 'b' fun c => c == '0' || c == '1') decimal
  if fits n then return n else fail

/-- Whether a decimal number is beyond all numbers of double precision. -/
def isHuge (mantissa : Nat) (exponent : Int) : Bool :=
  let size := (toString mantissa).length + exponent
  if mantissa == 0 || size < 309 then false
  else if 309 < size then true
  else (Nat.pow 2 54 - 1) * Nat.pow 2 970 * Nat.pow 10 (-exponent).toNat
      ≤ mantissa * Nat.pow 10 exponent.toNat

/-- **A number with a fraction or an exponent**, or one of the special ones. -/
def float : Reader Unit := do
  let s ← sign
  if (← optional (orElse (exactly "inf".toList) (exactly "nan".toList))).isSome then return ()
  let before ← whole
  let after ← optional do
    exactly ['.']
    digits isDecimal
  let exponent : Option Int ← optional do
    discard (satisfying fun c => c == 'e' || c == 'E')
    let s ← sign
    let n : Int := (value 10 (← digits isDecimal) : Nat)
    return if s == some '-' then -n else n
  if after.isNone && exponent.isNone then fail
  let fraction := after.getD []
  let shifted := exponent.getD 0 - fraction.length
  if isHuge (value 10 (before ++ fraction)) shifted && s != some '-' then fail

/-! ## Dates -/

/-- A number of a fixed number of digits within bounds. -/
def bounded (width least greatest : Nat) : Reader Nat := do
  let n := value 10 (← count isDecimal width)
  if least ≤ n && n ≤ greatest then return n else fail

/-- How many days a month has. -/
def daysIn (year month : Nat) : Nat :=
  if month == 2 then if year % 4 == 0 && (year % 100 != 0 || year % 400 == 0) then 29 else 28
  else if [4, 6, 9, 11].contains month then 30 else 31

/-- A day. -/
def date : Reader Unit := do
  let year ← bounded 4 0 9999
  exactly ['-']
  let month ← bounded 2 1 12
  exactly ['-']
  discard (bounded 2 1 (daysIn year month))

/-- A time of the day. -/
def time : Reader Unit := do
  discard (bounded 2 0 23)
  exactly [':']
  discard (bounded 2 0 59)
  exactly [':']
  discard (bounded 2 0 60)
  discard <| optional do
    exactly ['.']
    discard (satisfying isDecimal)
    run isDecimal

/-- The distance of a local time from universal time. -/
def zone : Reader Unit :=
  orElse (discard (satisfying fun c => c == 'Z' || c == 'z')) do
    discard (satisfying fun c => c == '+' || c == '-')
    discard (bounded 2 0 23)
    exactly [':']
    discard (bounded 2 0 59)

/-- **A day, a time of the day, or both.** -/
def moment : Reader Unit :=
  orElse (do
      date
      discard <| optional do
        discard (satisfying fun c => c == 'T' || c == 't' || c == ' ')
        time
        optional zone)
    time

/-- **A value that holds no other values.** -/
def scalarValue : Reader TomlValue := do
  match ← peek with
  | some '"' => return .text (← quoted '"' true)
  | some '\'' => return .text (← quoted '\'' true)
  | some 't' => do exactly "true".toList; return .other
  | some 'f' => do exactly "false".toList; return .other
  | some 'i' => do exactly "inf".toList; return .other
  | some 'n' => do exactly "nan".toList; return .other
  | _ =>
    orElse (do moment; return .other) <|
      orElse (do float; return .other) (do return .integer (← integer))

end NullFlow.Toml
