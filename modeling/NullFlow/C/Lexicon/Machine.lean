import NullFlow.C.Lexicon.Basic

/-!
# The places of all tokens

`Lexicon.ofTokens` compiles the patterns of a list of tokens into one array of places. The places of
a token stand behind those of the tokens listed before it. Blanks may come before a token, unless it
touches the one before it, so most tokens have places for blanks as well.
-/

namespace NullFlow.C

/-- **The tokens with the places of their patterns.** -/
structure Lexicon where
  tokens : Array Token
  places : Array Place
  /-- The first places of each token, blanks before it left out. -/
  bareStarts : Array (List Nat)
  /-- The first places of each token. -/
  starts : Array (List Nat)
  deriving Inhabited

namespace Lexicon

/-- Adds a token. -/
def push (lexicon : Lexicon) (t : Token) : Lexicon :=
  let number := lexicon.tokens.size
  let final := lexicon.places.size
  let places := lexicon.places.push ⟨number, .empty, false, true, []⟩
  let (body, places) := t.pattern.compile number false places
  let places := Pattern.link places body.last [final]
  if t.isTouching then
    ⟨lexicon.tokens.push t, places, lexicon.bareStarts.push body.first,
      lexicon.starts.push body.first⟩
  else
    let (blank, places) := Token.blank.compile number true places
    let start := mergeAscending blank.first body.first
    ⟨lexicon.tokens.push t, Pattern.link places blank.last start,
      lexicon.bareStarts.push body.first, lexicon.starts.push start⟩

/-- The lexicon of a list of tokens. -/
def ofTokens (tokens : List Token) : Lexicon := tokens.foldl push ⟨#[], #[], #[], #[]⟩

/-- How many tokens there are; this is also the number of the end of the text. -/
def size (lexicon : Lexicon) : Nat := lexicon.tokens.size

/-- The level of a token. -/
def level (lexicon : Lexicon) (i : Nat) : Int := lexicon.tokens[i]!.level

/-- The level at which a place is read: blanks are read at level zero. -/
def placeLevel (lexicon : Lexicon) (p : Place) : Int :=
  if p.isBlank then 0 else lexicon.level p.token

/-- **Whether one token goes before another** that has the same text. -/
def prefers (lexicon : Lexicon) (i j : Nat) : Bool :=
  let t := lexicon.tokens[i]!
  let u := lexicon.tokens[j]!
  if t.level != u.level then t.level > u.level
  else if t.exactness != u.exactness then t.exactness > u.exactness
  else i < j

/-- The token that a text has come to when it leads to the given places. -/
def ended? (lexicon : Lexicon) (set : List Place) : Option Nat :=
  (set.filter (·.isEnd)).foldl (fun best p =>
    match best with
    | some t => if lexicon.prefers t p.token then best else some p.token
    | none => some p.token) none

/-- The places with the given numbers. -/
def placesAt (lexicon : Lexicon) (set : List Nat) : List Place := set.map (lexicon.places[·]!)

/-- The characters with which a token may begin. -/
def firstChars (lexicon : Lexicon) (i : Nat) : SmallSet :=
  (lexicon.placesAt lexicon.bareStarts[i]!).foldl (fun s p => s ∪ p.chars) ∅

/-- The numbers of the tokens for which a property holds. -/
def numbersOf (lexicon : Lexicon) (p : Token → Bool) : SmallSet :=
  .ofList ((List.range lexicon.size).filter fun i => p lexicon.tokens[i]!)

end Lexicon

end NullFlow.C
