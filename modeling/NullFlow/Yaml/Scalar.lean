import NullFlow.Yaml.Cursor

/-!
# Configuration files: scalars

The three ways to write a text: plain, in quotes, or as a block of lines. Line breaks inside of the
first two are folded: a single one becomes a blank, and of several all but the first stay.
-/

namespace NullFlow.Yaml

/-- **What stands between two words**: blanks, or line breaks with whatever blanks there are around
them. A line break that is hidden by a backslash counts as none. -/
inductive Space where
  | blanks (cs : List Char)
  | breaks (first more : List Char)

namespace Space

/-- Whether the line was left. -/
def isBroken : Space → Bool
  | .blanks _ => false
  | .breaks _ _ => true

/-- What the space contributes to a text. -/
def folded : Space → List Char
  | .blanks cs => cs
  | .breaks first more =>
    if first == ['\n'] then if more.isEmpty then [' '] else more else first ++ more

end Space

/-- **Takes the space between two words.** Behind a line break no tab may stand before the given
column. -/
def takeSpace (indent : Int) : (fuel : Nat) → Space → Scan Space
  | 0, s => pure s
  | fuel + 1, s => do
    match ← peek with
    | none => return s
    | some c =>
      if isBlank c then
        if s.isBroken && c == '\t' && ((← get).column : Int) < indent then fail
        discard next
        takeSpace indent fuel <| match s with
          | .blanks cs => .blanks (cs ++ [c])
          | s => s
      else if isBreak c then
        let b ← nextBreak
        takeSpace indent fuel <| match s with
          | .blanks _ => .breaks b []
          | .breaks first more => .breaks first (more ++ b)
      else return s

/-! ## Plain scalars -/

/-- Characters with a meaning between brackets. -/
def isFlowMark (c : Char) : Bool := c == ',' || c == '[' || c == ']' || c == '\x7b' || c == '\x7d'

/-- Takes a word of a plain scalar, up to a blank or to a mark that ends the scalar. -/
def plainWord (inFlow : Bool) : (fuel : Nat) → Scan (List Char)
  | 0 => pure []
  | fuel + 1 => do
    let c? ← peek
    if isGap c? then return []
    let some c := c? | return []
    let after ← peekAt 1
    if c == ':' then
      if inFlow && after.any (fun a => isFlowMark a || a == '?') then fail
      if isGap after then return []
    if inFlow && isFlowMark c then return []
    discard next
    return c :: (← plainWord inFlow fuel)

/-- Takes the rest of a plain scalar after some text and space. -/
def plainFrom (indent : Int) (inFlow : Bool) :
    (fuel : Nat) → (before : List Char) → Space → Scan (List Char × Bool)
  | 0, before, space => pure (before, space.isBroken)
  | fuel + 1, before, space => do
    if (← atDocumentEdge) || (← peek) == some '#' then return (before, space.isBroken)
    let word ← plainWord inFlow (← remaining)
    if word.isEmpty then return (before, space.isBroken)
    let text := before ++ space.folded ++ word
    if !((← peek).any fun c => isBlank c || isBreak c) then return (text, false)
    let space ← takeSpace indent (← remaining) (.blanks [])
    if !inFlow && ((← get).column : Int) < indent then return (text, space.isBroken)
    plainFrom indent inFlow fuel text space

/-- **Takes a plain scalar** in a block that begins at the given column: its text, and whether the
line after it was reached. -/
def plain (indent : Int) (inFlow : Bool) : Scan (List Char × Bool) := do
  plainFrom (indent + 1) inFlow ((← remaining) + 1) [] (.blanks [])

/-! ## Quoted scalars -/

/-- Takes the character with a number of hexadecimal digits. -/
def hexChar (width : Nat) : Scan Char := do
  let digits := (← get).rest.take width
  if digits.length < width then fail
  let values ← (digits.mapM Text.hexValue? : Option (List Nat))
  let n := values.foldl (fun n d => 16 * n + d) 0
  if (0xD800 ≤ n && n < 0xE000) || 0x110000 ≤ n then fail
  modify fun s =>
    { s with rest := s.rest.drop width, index := s.index + width, column := s.column + width }
  return Char.ofNat n

/-- The character that a short escape stands for. -/
def escaped? : Char → Option Char
  | '0' => some '\x00'
  | 'a' => some '\x07'
  | 'b' => some '\x08'
  | 't' => some '\t'
  | '\t' => some '\t'
  | 'n' => some '\n'
  | 'v' => some '\x0B'
  | 'f' => some '\x0C'
  | 'r' => some '\r'
  | 'e' => some '\x1B'
  | ' ' => some ' '
  | '"' => some '"'
  | '/' => some '/'
  | '\\' => some '\\'
  | 'N' => some '\u0085'
  | '_' => some '\u00A0'
  | 'L' => some '\u2028'
  | 'P' => some '\u2029'
  | _ => none

/-- Takes an escape after its backslash. -/
def escape : Scan Char := do
  match ← next with
  | 'x' => hexChar 2
  | 'u' => hexChar 4
  | 'U' => hexChar 8
  | c => (escaped? c : Option Char)

/-- Takes a word of a quoted scalar: its characters, and whether it ended in a hidden line break. -/
def quotedWord (quote : Char) : (fuel : Nat) → Scan (List Char × Bool)
  | 0 => pure ([], false)
  | fuel + 1 => do
    let c? ← peek
    if isGap c? then return ([], false)
    let after ← peekAt 1
    let more (c : Char) : Scan (List Char × Bool) := do
      let (cs, hidden) ← quotedWord quote fuel
      return (c :: cs, hidden)
    if quote == '\'' && c? == some quote && after == some quote then
      discard next
      discard next
      more quote
    else if c? == some quote then return ([], false)
    else if quote == '"' && c? == some '\\' then
      discard next
      if after.any isBreak then
        discard nextBreak
        return ([], true)
      more (← escape)
    else more (← next)

/-- Takes the rest of a quoted scalar. -/
def quotedFrom (quote : Char) : (fuel : Nat) → Scan (List Char)
  | 0 => fail
  | fuel + 1 => do
    if (← atDocumentEdge) || (← peek).isNone then fail
    let (word, hidden) ← quotedWord quote (← remaining)
    if ← take quote then return word
    let space ← takeSpace 0 (← remaining) (if hidden then .breaks [] [] else .blanks [])
    return word ++ space.folded ++ (← quotedFrom quote fuel)

/-- **Takes a quoted scalar.** -/
def quoted (quote : Char) : Scan (List Char) := do
  discard next
  quotedFrom quote ((← remaining) + 1)

/-! ## Block scalars -/

/-- **What becomes of the line breaks at the end** of a block scalar. -/
inductive Chomping where
  | strip
  | clip
  | keep
  deriving DecidableEq

/-- The chomping that a mark asks for, if the next character is one. -/
def chomping? : Scan (Option Chomping) := do
  if ← take '+' then return some .keep
  else if ← take '-' then return some .strip
  else return none

/-- The indentation that a digit asks for, if the next character is one. -/
def indentation? : Scan (Option Nat) := do
  match ← peek with
  | some c =>
    if c == '0' then fail
    else if '1' ≤ c && c ≤ '9' then
      discard next
      return some (c.toNat - '0'.toNat)
    else return none
  | none => return none

/-- Takes empty lines and the indentation of the line after them; zero stands for an indentation
that is not known yet. Gives the line breaks and the widest indentation. -/
def blockBreaks (indent : Nat) : (fuel : Nat) → (widest : Nat) → Scan (List Char × Nat)
  | 0, widest => pure ([], widest)
  | fuel + 1, widest => do
    let open' (column : Nat) : Bool := indent == 0 || column < indent
    let spaces := (← get).rest.takeWhile (· == ' ')
    let column := (← get).column
    let taken := if indent == 0 then spaces.length else min spaces.length (indent - column)
    modify fun s =>
      { s with rest := s.rest.drop taken, index := s.index + taken, column := s.column + taken }
    let column := (← get).column
    let widest := max widest column
    if open' column && (← peek) == some '\t' then fail
    if (← peek).any isBreak then
      let b ← nextBreak
      let (more, widest) ← blockBreaks indent fuel widest
      return (b ++ more, widest)
    else return ([], widest)

/-- Takes the lines of a block scalar: the text, and the line breaks after it, the first one and the
rest. -/
def blockLines (isLiteral : Bool) (indent : Nat) :
    (fuel : Nat) → (first more : List Char) → (afterBlank : Bool) →
      Scan (List Char × List Char × List Char)
  | 0, first, more, _ => pure ([], first, more)
  | fuel + 1, first, more, afterBlank => do
    if (← get).column != indent || (← peek).isNone then return ([], first, more)
    let isIndented := (← peek).any isBlank
    let joint :=
      if !isLiteral && first == ['\n'] && !afterBlank && !isIndented then
        if more.isEmpty then [' '] else more
      else first ++ more
    let line ← takeWhile (!isBreak ·)
    let first ← nextBreak
    let (more, _) ← blockBreaks indent ((← remaining) + 1) 0
    let (text, ends) ← blockLines isLiteral indent fuel first more isIndented
    return (joint ++ line ++ text, ends)

/-- **Takes a block scalar** in a block that begins at the given column. -/
def block (outer : Int) (isLiteral : Bool) : Scan (List Char) := do
  discard next
  let early ← chomping?
  let width ← indentation?
  let late ← if early.isSome then pure none else if width.isSome then chomping? else pure none
  discard (takeWhile isBlank)
  skipComment
  if !isLineEnd (← peek) then fail
  discard nextBreak
  let known : Nat := match width with
    | some w => (max outer 0).toNat + w
    | none => 0
  let (breaks, widest) ← blockBreaks known ((← remaining) + 1) 0
  let indent := if known == 0 then max (max widest (outer + 1).toNat) 1 else known
  let (text, first, more) ← blockLines isLiteral indent ((← remaining) + 1) [] breaks false
  return match (early.or late).getD .clip with
    | .strip => text
    | .clip => text ++ first
    | .keep => text ++ first ++ more

end NullFlow.Yaml
