import NullFlow.SmallSet
import NullFlow.Text.CharClass

/-!
# Patterns of tokens

A `Pattern` says which texts a token may have. Patterns are regular expressions over **classes of
characters**: every ASCII character is a class of its own, and the others fall into three classes,
by what they may do in an identifier. A set of classes is a `SmallSet`.

`Pattern.compile` turns a pattern into **places**: one for every set of characters in it, with the
places that may come next. The text of a token is a walk from place to place.
-/

namespace NullFlow.C

open NullFlow.Text

/-! ## Classes of characters -/

/-- The class of the letters beyond ASCII. -/
def letterClass : Nat := 128

/-- The class of the characters beyond ASCII that may continue an identifier but not begin it. -/
def markClass : Nat := 129

/-- The class of all other characters beyond ASCII. -/
def otherClass : Nat := 130

/-- **The class of a character.** -/
def charClass (c : Char) : Nat :=
  if c.toNat < letterClass then c.toNat
  else if isIdentifierStart c then letterClass
  else if isIdentifierRest c then markClass
  else otherClass

namespace CharSet

/-- The characters of a text. -/
def of (text : String) : SmallSet := .ofList (text.toList.map charClass)

/-- All characters but the null character, which no pattern takes. -/
def any : SmallSet := .interval 1 otherClass

/-- All characters that are not in the text. -/
def butNot (text : String) : SmallSet := any \ of text

/-- The ASCII characters from one to another. -/
def span (first last : Char) : SmallSet := .interval (charClass first) (charClass last)

def digits : SmallSet := span '0' '9'

def hexDigits : SmallSet := digits ∪ span 'a' 'f' ∪ span 'A' 'F'

def asciiLetters : SmallSet := span 'a' 'z' ∪ span 'A' 'Z'

/-- The characters of words in directives. -/
def wordChars : SmallSet := asciiLetters ∪ digits ∪ of "_"

/-- The characters that may begin an identifier. -/
def nameStart : SmallSet := (asciiLetters ∪ of "_$").insert letterClass

/-- The characters that may continue an identifier. -/
def nameRest : SmallSet := (nameStart ∪ digits).insert markClass

/-- The characters between tokens. -/
def blanks : SmallSet := of " \t\n\x0b\x0c\r"

end CharSet

/-! ## Patterns -/

/-- **A regular expression over classes of characters.** -/
inductive Pattern where
  /-- The empty text. -/
  | nothing
  /-- One character of the set. -/
  | one (set : SmallSet)
  | next (first second : Pattern)
  | either (first second : Pattern)
  /-- The pattern any number of times. -/
  | many (p : Pattern)
  deriving Repr, Inhabited

namespace Pattern

instance : Append Pattern := ⟨next⟩

instance : OrElse Pattern := ⟨fun a b => either a (b ())⟩

/-- The pattern, or nothing. -/
def maybe (p : Pattern) : Pattern := p <|> nothing

/-- The pattern once or more often. -/
def many1 (p : Pattern) : Pattern := p ++ many p

/-- The pattern a number of times. -/
def times : Nat → Pattern → Pattern
  | 0, _ => nothing
  | n + 1, p => p ++ times n p

/-- One text and no other. -/
def exactly (s : String) : Pattern :=
  s.toList.foldr (fun c p => one (CharSet.of (String.singleton c)) ++ p) nothing

/-- One of several texts. -/
def anyOf : List String → Pattern
  | [] => nothing
  | [s] => exactly s
  | s :: r => exactly s <|> anyOf r

/-- A character of the given text. -/
def oneOf (s : String) : Pattern := one (CharSet.of s)

/-- A character that the given text does not hold. -/
def noneOf (s : String) : Pattern := one (CharSet.butNot s)

end Pattern

/-! ## Places -/

/-- **A place in the pattern of a token.** -/
structure Place where
  /-- The number of the token. -/
  token : Nat
  /-- The characters that lead on from here; the place at the end of the token has none. -/
  chars : SmallSet
  /-- Whether the place belongs to the blanks before the token. -/
  isBlank : Bool
  /-- Whether the token may end here. -/
  isEnd : Bool
  /-- The places after a character. -/
  next : List Nat
  deriving Inhabited

/-- The union of two ascending lists of numbers. -/
def mergeAscending : List Nat → List Nat → List Nat
  | [], r => r
  | l, [] => l
  | a :: l, b :: r =>
    if a < b then a :: mergeAscending l (b :: r)
    else if b < a then b :: mergeAscending (a :: l) r
    else a :: mergeAscending l r
termination_by l r => l.length + r.length

namespace Pattern

/-- What the compiler knows of a part of a pattern: whether the empty text fits it, and its first
and its last places. -/
structure Extent where
  nullable : Bool
  first : List Nat
  last : List Nat

/-- Adds places that may come after others. -/
def link (places : Array Place) (sources targets : List Nat) : Array Place :=
  sources.foldl (fun places i =>
    places.modify i fun p => { p with next := mergeAscending p.next targets }) places

/-- **The places of a pattern**, appended to those of other patterns. -/
def compile (token : Nat) (isBlank : Bool) : Pattern → Array Place → Extent × Array Place
  | nothing, places => (⟨true, [], []⟩, places)
  | one set, places =>
    (⟨false, [places.size], [places.size]⟩, places.push ⟨token, set, isBlank, false, []⟩)
  | next a b, places =>
    let (x, places) := a.compile token isBlank places
    let (y, places) := b.compile token isBlank places
    (⟨x.nullable && y.nullable,
      if x.nullable then mergeAscending x.first y.first else x.first,
      if y.nullable then mergeAscending x.last y.last else y.last⟩,
      link places x.last y.first)
  | either a b, places =>
    let (x, places) := a.compile token isBlank places
    let (y, places) := b.compile token isBlank places
    (⟨x.nullable || y.nullable, mergeAscending x.first y.first, mergeAscending x.last y.last⟩,
      places)
  | many a, places =>
    let (x, places) := a.compile token isBlank places
    (⟨true, x.first, x.last⟩, link places x.last x.first)

end Pattern

end NullFlow.C
