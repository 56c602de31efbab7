import NullFlow.C.Automaton.Basic
import NullFlow.C.Reading.Distance

/-!
# Scanning

`Mode.scan` finds the token that begins at a place of a text, after blanks. It follows all tokens of
a mode at once and remembers the last one that was complete. It goes on as long as a longer token is
possible, unless that would be one of a lower level.
-/

namespace NullFlow.C

/-- **A token as it stands in a text.** -/
structure Lexeme where
  token : Nat
  start : Distance
  stop : Distance
  deriving Inhabited

/-- **What the scanner finds.** -/
inductive Scanned where
  | found (l : Lexeme)
  /-- No token: where it would begin, and how far the scanner got. -/
  | nothing (start reached : Distance)

/-- How far the scanner has got in the blanks before a token. -/
inductive Gap where
  /-- A token has begun. -/
  | closed
  /-- A token may begin here. -/
  | here
  /-- Behind a backslash that may join two lines. -/
  | backslash
  /-- Behind such a backslash and a carriage return. -/
  | carriageReturn
  deriving DecidableEq, Inhabited

/-- The gap after a character. -/
def Gap.step (g : Gap) (c : Char) : Gap :=
  match g, c with
  | here, '\\' => backslash
  | here, _ => if CharSet.blanks.contains (charClass c) then here else closed
  | backslash, '\r' => carriageReturn
  | backslash, '\n' => here
  | carriageReturn, '\n' => here
  | _, _ => closed

/-- **The scanner at work.** -/
structure Scanner where
  gap : Gap
  /-- The places the tokens have come to. -/
  places : List Nat
  start : Distance
  place : Distance
  /-- The last complete token. -/
  best : Option Lexeme
  /-- Whether nothing but blanks has been read. -/
  isBlank : Bool
  deriving Inhabited

namespace Scanner

/-- The places after a character. -/
def advance (a : Automaton) (mode : Mode) (s : Scanner) (c : Char) : List Nat :=
  let cls := charClass c
  let begun := if s.gap = .here then mode.afterFirst[cls]! else []
  s.places.foldl (fun found i =>
    let p := a.lexicon.places[i]!
    if p.chars.contains cls then mergeAscending found p.next else found) begun

/-- Whether a complete token keeps the scanner from going on to some places, or in the blanks. -/
def isSettled (a : Automaton) (s : Scanner) (token : Nat) (places : List Place) (gap : Gap) :
    Bool :=
  let levels := places.map fun p => a.lexicon.level p.token
  let level := if gap = .closed then levels.foldl max (levels.headD 0) else levels.foldl max 0
  let own := a.lexicon.level token
  level < own
    || level == own && (places.isEmpty
      || s.gap != .closed && !(places.any (·.token == token)
        || gap != .closed && !a.lexicon.tokens[token]!.isTouching))

/-- **Scans on.** `fuel` bounds the number of characters. -/
def run (a : Automaton) (source : String) (mode : Mode) : (fuel : Nat) → Scanner → Scanned
  | 0, s => s.best.elim (.nothing s.start s.place) .found
  | fuel + 1, s =>
    let ended := a.lexicon.ended? (a.lexicon.placesAt s.places)
    let best := (ended.map fun t => (⟨t, s.start, s.place⟩ : Lexeme)).or s.best
    let answer : Scanned := best.elim (.nothing s.start s.place) .found
    if source.utf8ByteSize ≤ s.place.bytes then
      if s.isBlank && mode.tokens.contains a.finish then
        .found ⟨a.finish, s.start, s.place⟩
      else answer
    else
      let c := String.Pos.Raw.get source ⟨s.place.bytes⟩
      let gap := s.gap.step c
      let places := s.advance a mode c
      if places.isEmpty && gap = .closed then answer
      else if ended.any fun t => s.isSettled a t (a.lexicon.placesAt places) gap then answer
      else
        let place := s.place.past c
        run a source mode fuel
          ⟨gap, places, if places.isEmpty then place else s.start, place, best,
            s.isBlank && places.isEmpty⟩

end Scanner

namespace Mode

/-- **Finds the token at a place of a text.** -/
def scan (a : Automaton) (source : String) (mode : Mode) (place : Distance) : Scanned :=
  Scanner.run a source mode (source.utf8ByteSize + 1 - place.bytes)
    ⟨.here, mode.touching, place, place, none, true⟩

end Mode

end NullFlow.C
