import NullFlow.Yaml.Scalar
import NullFlow.Text.Utf8

/-!
# Configuration files: tokens

The tokens of a YAML text. Besides the marks and scalars that are written, there are tokens for the
beginning and the end of blocks, which indentation shows, and for keys, which only the colon after
them shows: while tokens are read, the place of everything that could still turn out to be a key is
remembered, one place for each level of brackets. A key stands on one line, and is not longer than
`PossibleKey.reach`.
-/

namespace NullFlow.Yaml

/-- **How a scalar is written.** -/
inductive Style where
  | plain
  | quoted
  | literal
  | folded
  deriving DecidableEq, Repr

/-- **A token.** -/
inductive Token where
  | version (major minor : Nat)
  | tagHandle (handle meaning : String)
  | documentStart
  | documentEnd
  | sequenceStart
  | mappingStart
  | blockEnd
  | flowSequenceStart
  | flowSequenceEnd
  | flowMappingStart
  | flowMappingEnd
  | entry
  | flowEntry
  | key
  | value
  | alias (name : String)
  | anchor (name : String)
  | tag (handle suffix : String)
  | scalar (text : String) (style : Style)
  deriving DecidableEq, Repr

/-- **Something that could be a key**: where it is, and which token it begins with. -/
structure PossibleKey where
  /-- Nothing else could stand there. -/
  isRequired : Bool
  token : Nat
  index : Nat
  line : Nat
  column : Nat

/-- The longest distance between the beginning of a key and its colon. -/
def PossibleKey.reach : Nat := 1024

/-- **The tokens so far**, and what is needed to read on. -/
structure Scanner where
  cursor : Cursor
  tokens : List Token := []
  /-- The column of the block that is open, negative before the first. -/
  indent : Int := -1
  /-- The columns of the blocks around it. -/
  outer : List Int := []
  /-- What could be a key: inside of the innermost brackets first, and in the block last. -/
  keys : List (Option PossibleKey) := [none]
  /-- Whether a key may begin here. -/
  keyAllowed : Bool := true

/-- **A step that reads tokens.** -/
abbrev Reading (α : Type) := StateT Scanner Option α

namespace Scanner

/-- Moves the cursor. -/
def moving {α : Type} (step : Scan α) : Reading α := fun s =>
  (step s.cursor).map fun (a, cursor) => (a, { s with cursor })

def refuse {α : Type} : Reading α := fun _ => none

/-- Whether there are brackets around the place. -/
def inFlow : Reading Bool := return 1 < (← get).keys.length

/-- Appends a token. -/
def emit (t : Token) : Reading Unit := modify fun s => { s with tokens := s.tokens ++ [t] }

/-- Inserts a token before others. -/
def insert (place : Nat) (t : Token) : Reading Unit := modify fun s =>
  { s with tokens := s.tokens.take place ++ [t] ++ s.tokens.drop place }

/-- Appends a mark of so many characters. -/
def emitMark (length : Nat) (t : Token) : Reading Unit := do
  for _ in List.range length do
    discard (moving next)
  emit t

def allowKey (allowed : Bool) : Reading Unit := modify fun s => { s with keyAllowed := allowed }

/-! ## Keys -/

/-- Sets what could be a key inside of the innermost brackets. -/
def setKey (k : Option PossibleKey) : Reading Unit :=
  modify fun s => { s with keys := k :: s.keys.tail }

/-- What could be a key can no longer be one. -/
def dropKey : Reading Unit := do
  if ((← get).keys.head?.getD none).any (·.isRequired) then refuse
  setKey none

/-- Remembers that a key could begin here. -/
def markKey : Reading Unit := do
  let s ← get
  if s.keyAllowed then
    dropKey
    setKey <| some {
      isRequired := s.keys.length == 1 && s.indent == s.cursor.column
      token := s.tokens.length
      index := s.cursor.index
      line := s.cursor.line
      column := s.cursor.column }

/-- Forgets keys that are too far away. -/
def dropStale : Reading Unit := do
  let s ← get
  let isStale (k : PossibleKey) : Bool :=
    k.line < s.cursor.line || k.index + PossibleKey.reach < s.cursor.index
  if s.keys.any fun k? => k?.any fun k => isStale k && k.isRequired then refuse
  set { s with keys := s.keys.map (Option.filter fun k => !isStale k) }

/-! ## Blocks -/

/-- Closes the blocks that begin further to the right. -/
def closeBlocks (column : Int) : Reading Unit := fun s =>
  if 1 < s.keys.length then some ((), s)
  else
    let all := s.indent :: s.outer
    let closed := all.takeWhile (column < ·)
    let kept := all.drop closed.length
    some ((), { s with
      tokens := s.tokens ++ closed.map fun _ => .blockEnd
      indent := kept.headD (-1)
      outer := kept.tail })

/-- Opens a block, unless it is open already; its first token is inserted before others. -/
def openBlock (column place : Nat) (t : Token) : Reading Unit := do
  let s ← get
  if s.keys.length == 1 && s.indent < column then
    insert place t
    modify fun s => { s with indent := column, outer := s.indent :: s.outer }

/-- Opens a block whose first token comes next. -/
def openBlockHere (t : Token) : Reading Unit := do
  let s ← get
  if !s.keyAllowed then refuse
  openBlock s.cursor.column s.tokens.length t

/-! ## Names, tags and directives -/

/-- Characters of names. -/
def isNameChar (c : Char) : Bool := c.isAlphanum || c == '_' || c == '-'

/-- The name of an anchor or an alias, after its mark. -/
def anchorName : Reading String := do
  discard (moving next)
  let name ← moving (takeWhile isNameChar)
  let c ← moving peek
  if name.isEmpty || !(isGap c || c.any "?:,]\x7d%@`".toList.contains) then refuse
  return String.ofList name

/-- Characters of tags; brackets and commas are allowed only where they could mean nothing else. -/
def isTagChar (bracketed : Bool) (c : Char) : Bool :=
  isNameChar c || ";/?:@&=+$.%!~*'()".toList.contains c || (bracketed && ",[]".toList.contains c)

/-- A byte of a tag: a percent sign and two hexadecimal digits. -/
def tagByte : Reading Nat := do
  if !(← moving (take '%')) then refuse
  match Text.hexValue? (← moving next), Text.hexValue? (← moving next) with
  | some high, some low => return 16 * high + low
  | _, _ => refuse

/-- A character of a tag that is spelled out byte by byte. The first byte tells how many follow. -/
def tagEscape : Reading (List Char) := do
  let first ← tagByte
  let following ←
    if first < 0x80 then pure 0
    else if 0xC0 ≤ first && first < 0xE0 then pure 1
    else if 0xE0 ≤ first && first < 0xF0 then pure 2
    else if 0xF0 ≤ first && first < 0xF8 then pure 3
    else refuse
  let rest ← (List.replicate following ()).mapM fun _ => do
    let byte ← tagByte
    if byte < 0x80 || 0xC0 ≤ byte then refuse
    return UInt8.ofNat byte
  return Text.ofBytes (.ofNat first :: rest)

/-- The characters of a tag. -/
def tagChars (bracketed : Bool) : (fuel : Nat) → Reading (List Char)
  | 0 => pure []
  | fuel + 1 => do
    match ← moving peek with
    | some '%' => return (← tagEscape) ++ (← tagChars bracketed fuel)
    | some c =>
      if isTagChar bracketed c then
        discard (moving next)
        return c :: (← tagChars bracketed fuel)
      else return []
    | none => return []

/-- The text of a tag, up to the first character that is none of its own. -/
def tagText (bracketed : Bool) : Reading String :=
  return String.ofList (← tagChars bracketed (← moving remaining))

/-- A tag. -/
def tag : Reading Token := do
  discard (moving next)
  let t ← (do
    if ← moving (take '<') then
      let suffix ← tagText true
      if suffix.isEmpty || !(← moving (take '>')) then refuse
      return .tag "" suffix
    let name := String.ofList (← moving (takeWhile isNameChar))
    if ← moving (take '!') then
      let suffix ← tagText false
      if suffix.isEmpty then refuse
      return .tag ("!" ++ name ++ "!") suffix
    let suffix := name ++ (← tagText false)
    return if suffix.isEmpty then .tag "" "!" else .tag "!" suffix)
  let c ← moving peek
  if !(isGap c || (c == some ',' && (← inFlow))) then refuse
  return t

/-- A number in a directive. -/
def directiveNumber : Reading Nat := do
  let digits ← moving (takeWhile fun c => '0' ≤ c && c ≤ '9')
  if digits.isEmpty || 9 < digits.length then refuse
  return digits.foldl (fun n c => 10 * n + (c.toNat - '0'.toNat)) 0

/-- A directive, which fills its line. -/
def directive : Reading Token := do
  discard (moving next)
  let name := String.ofList (← moving (takeWhile isNameChar))
  if !isGap (← moving peek) then refuse
  discard (moving (takeWhile isBlank))
  let t ← (do
    match name with
    | "YAML" =>
      let major ← directiveNumber
      if !(← moving (take '.')) then refuse
      return .version major (← directiveNumber)
    | "TAG" =>
      if !(← moving (take '!')) then refuse
      let handle := String.ofList (← moving (takeWhile isNameChar))
      let closed ← moving (take '!')
      if !closed && !handle.isEmpty then refuse
      if (← moving (takeWhile isBlank)).isEmpty then refuse
      let meaning ← tagText true
      if meaning.isEmpty || !isGap (← moving peek) then refuse
      return .tagHandle (if closed then "!" ++ handle ++ "!" else "!") meaning
    | _ => refuse)
  discard (moving (takeWhile isBlank))
  moving skipComment
  if !isLineEnd (← moving peek) then refuse
  discard (moving nextBreak)
  return t

/-! ## One token after the other -/

/-- Skips blanks, comments and line breaks; after a line break a key may begin. -/
def skipSpace : (fuel : Nat) → Reading Unit
  | 0 => pure ()
  | fuel + 1 => do
    let tabs := (← inFlow) || !(← get).keyAllowed
    discard (moving (takeWhile fun c => c == ' ' || (tabs && c == '\t')))
    moving skipComment
    if (← moving peek).any isBreak then
      discard (moving nextBreak)
      if !(← inFlow) then allowKey true
      skipSpace fuel

/-- Reads the colon after a key. -/
def readValue : Reading Unit := do
  match (← get).keys.head?.getD none with
  | some k =>
    insert k.token .key
    openBlock k.column k.token .mappingStart
    setKey none
    allowKey false
  | none =>
    if !(← inFlow) then openBlockHere .mappingStart
    allowKey (!(← inFlow))
  emitMark 1 .value

/-- Reads a scalar that could be a key. -/
def readScalar (style : Style) (text : Scan (List Char)) : Reading Unit := do
  markKey
  allowKey false
  emit (.scalar (String.ofList (← moving text)) style)

/-- Reads a plain scalar; a key may follow if it ends with its line. -/
def readPlain : Reading Unit := do
  markKey
  allowKey false
  let (text, isBroken) ← moving (plain (← get).indent (← inFlow))
  emit (.scalar (String.ofList text) .plain)
  if isBroken then allowKey true

/-- Reads a block scalar. -/
def readBlockScalar (style : Style) : Reading Unit := do
  dropKey
  allowKey true
  emit (.scalar (String.ofList (← moving (block (← get).indent (style == .literal)))) style)

/-- Opens brackets. -/
def openFlow (t : Token) : Reading Unit := do
  markKey
  modify fun s => { s with keys := none :: s.keys }
  allowKey true
  emitMark 1 t

/-- Closes brackets. -/
def closeFlow (t : Token) : Reading Unit := do
  dropKey
  if ← inFlow then modify fun s => { s with keys := s.keys.tail }
  allowKey false
  emitMark 1 t

/-- Ends all blocks and reads a mark or a directive. -/
def readEdge (t : Reading Unit) : Reading Unit := do
  closeBlocks (-1)
  dropKey
  allowKey false
  t

/-- Marks that begin something else than a plain scalar. -/
def indicators : List Char := "-?:,[]\x7b\x7d#&*!|>'\"%@`".toList

/-- **Reads a token** at a place where one begins. -/
def readToken (c : Char) : Reading Unit := do
  let flow ← inFlow
  let gapAfter := isGap (← moving (peekAt 1))
  if (← get).cursor.column == 0 && c == '%' then readEdge (do emit (← directive))
  else if ← moving (atDocumentMark '-') then readEdge (emitMark 3 .documentStart)
  else if ← moving (atDocumentMark '.') then readEdge (emitMark 3 .documentEnd)
  else if c == '[' then openFlow .flowSequenceStart
  else if c == '\x7b' then openFlow .flowMappingStart
  else if c == ']' then closeFlow .flowSequenceEnd
  else if c == '\x7d' then closeFlow .flowMappingEnd
  else if c == ',' then
    dropKey
    allowKey true
    emitMark 1 .flowEntry
  else if c == '-' && gapAfter then
    if !flow then openBlockHere .sequenceStart
    dropKey
    allowKey true
    emitMark 1 .entry
  else if c == '?' && (flow || gapAfter) then
    if !flow then openBlockHere .mappingStart
    dropKey
    allowKey (!flow)
    emitMark 1 .key
  else if c == ':' && (flow || gapAfter) then readValue
  else if c == '*' then
    markKey
    allowKey false
    emit (.alias (← anchorName))
  else if c == '&' then
    markKey
    allowKey false
    emit (.anchor (← anchorName))
  else if c == '!' then
    markKey
    allowKey false
    emit (← tag)
  else if c == '|' && !flow then readBlockScalar .literal
  else if c == '>' && !flow then readBlockScalar .folded
  else if c == '\'' || c == '"' then readScalar .quoted (quoted c)
  else if (!isBlank c && !indicators.contains c) || (c == '-' && !gapAfter)
      || (!flow && (c == '?' || c == ':') && !gapAfter) then
    readPlain
  else refuse

/-- Reads tokens up to the end of the text. Every token takes at least one character. -/
def readAll : (fuel : Nat) → Reading Unit
  | 0 => refuse
  | fuel + 1 => do
    skipSpace ((← get).cursor.rest.length + 1)
    dropStale
    closeBlocks (← get).cursor.column
    match ← moving peek with
    | some c =>
      readToken c
      readAll fuel
    | none =>
      closeBlocks (-1)
      dropKey

end Scanner

/-- **The tokens of a text**, none if it has parts that are no tokens. A byte order mark at its
beginning is skipped. -/
def tokens? (text : String) : Option (List Token) := do
  let cs := match text.toList with
    | '\uFEFF' :: r => r
    | cs => cs
  if !cs.all isAllowed then none
  let s : Scanner := { cursor := { rest := cs } }
  return ((← Scanner.readAll (cs.length + 1) s).2).tokens

end NullFlow.Yaml
