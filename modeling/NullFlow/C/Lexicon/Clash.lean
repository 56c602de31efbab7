import NullFlow.C.Lexicon.Machine

/-!
# Tokens that get in each other's way

Two tokens that are allowed at the same place may compete for the text there. `Clashes.ofLexicon`
compares every two tokens and records how one may stand against the other:

* `same`: both fit the same text and the first is preferred;
* `stops`: where the first ends the second could go on, but the first is preferred;
* `outruns`: the first goes on where the second ends;
* `swallows`: it does so with a character that could also begin a token after the second;
* `takesBlanks`: the first fits a text that could as well be blanks before the second.

A table may allow a token where the grammar does not ask for it only if that token clashes with none
that the grammar does ask for.
-/

namespace NullFlow.C

/-- **How one token stands against another.** -/
structure Standing where
  same : Bool
  stops : Bool
  outruns : Bool
  swallows : Bool
  takesBlanks : Bool
  deriving Inhabited

/-- How two tokens stand against each other. -/
structure Encounter where
  /-- The token with the smaller number against the other one. -/
  first : Standing
  second : Standing
  deriving Inhabited

namespace Encounter

/-- Nothing is known of the two tokens yet. -/
def start : Encounter :=
  ⟨⟨false, false, false, false, false⟩, ⟨false, false, false, false, false⟩⟩

/-- Changes what is known of one of the two tokens. -/
def note (e : Encounter) (isFirst : Bool) (f : Standing → Standing) : Encounter :=
  if isFirst then { e with first := f e.first } else { e with second := f e.second }

end Encounter

/-- **The ways on from a set of places**: the characters of one way lead to the same places. -/
structure Way where
  chars : SmallSet
  isBlank : Bool
  level : Int
  places : List Nat
  deriving Inhabited

namespace Way

/-- Adds a way to others that share no character with each other. -/
def add (w : Way) : List Way → List Way
  | [] => if w.chars.isEmpty then [] else [w]
  | v :: r =>
    if v.chars.meets w.chars then
      let both : Way :=
        ⟨v.chars ∩ w.chars, v.isBlank && w.isBlank, max v.level w.level,
          mergeAscending v.places w.places⟩
      let rest := { v with chars := v.chars \ w.chars }
      let others := add { w with chars := w.chars \ v.chars } r
      if rest.chars.isEmpty then both :: others else both :: rest :: others
    else v :: add w r

end Way

namespace Lexicon

/-- The ways on from a set of places. -/
def ways (lexicon : Lexicon) (set : List Place) : List Way :=
  set.foldl (fun ways p =>
    if p.isEnd then ways
    else (Way.mk p.chars p.isBlank (lexicon.placeLevel p) p.next).add ways) []

/-- The token that has ended at the given places, of the two tokens under comparison, with what this
says about them. -/
def ending (lexicon : Lexicon) (i : Nat) (set : List Place) (e : Encounter) :
    Option Nat × Encounter :=
  let ends := set.filter (·.isEnd)
  if set.any (·.isBlank) then
    match ends with
    | p :: _ => (none, e.note (p.token == i) fun s => { s with takesBlanks := true })
    | [] => (none, e)
  else
    match ends with
    | [] => (none, e)
    | [p] => (some p.token, e)
    | p :: q :: _ =>
      let winner := if lexicon.prefers p.token q.token then p.token else q.token
      (some winner, e.note (winner == i) fun s => { s with same := true })

/-- What a way on says about two tokens of which one has ended, and whether a reader may take it. -/
def passing (lexicon : Lexicon) (follow : Array SmallSet) (i j ended : Nat) (w : Way)
    (e : Encounter) : Bool × Encounter :=
  if (lexicon.placesAt w.places).any (·.token == ended) then (true, e)
  else if w.level < lexicon.level ended then
    (false, e.note (ended == i) fun s => { s with stops := true })
  else
    let other := if ended == i then j else i
    (true, e.note (other == i) fun s =>
      { s with outruns := true, swallows := s.swallows || w.chars.meets follow[ended]! })

/-- One set of places: what it says about two tokens, and the sets that come next. -/
def compareAt (lexicon : Lexicon) (follow : Array SmallSet) (i j : Nat) (set : List Nat)
    (e : Encounter) : List (List Nat) × Encounter :=
  let places := lexicon.placesAt set
  if places.all (·.token == i) || places.all (·.token == j) then ([], e)
  else
    let (ended, e) := lexicon.ending i places e
    (lexicon.ways places).foldl (fun (sets, e) w =>
      match ended with
      | none => (w.places :: sets, e)
      | some t =>
        let (passes, e) := lexicon.passing follow i j t w e
        (if passes then w.places :: sets else sets, e)) ([], e)

/-- Compares two tokens from several sets of places on. `fuel` bounds the number of sets. -/
def compareFrom (lexicon : Lexicon) (follow : Array SmallSet) (i j : Nat) :
    (fuel : Nat) → (pending seen : List (List Nat)) → Encounter → Encounter
  | 0, _, _, e => e
  | _, [], _, e => e
  | fuel + 1, set :: pending, seen, e =>
    if seen.contains set then lexicon.compareFrom follow i j fuel pending seen e
    else
      let (sets, e) := lexicon.compareAt follow i j set e
      lexicon.compareFrom follow i j fuel (sets ++ pending) (set :: seen) e

/-- How many sets of places the comparison of two tokens may take. -/
def comparisonBound : Nat := 100000

/-- **Compares two tokens**, the first with the smaller number. -/
def compare (lexicon : Lexicon) (follow : Array SmallSet) (i j : Nat) : Encounter :=
  lexicon.compareFrom follow i j comparisonBound
    [mergeAscending lexicon.starts[i]! lexicon.starts[j]!] [] .start

end Lexicon

/-- **How all tokens stand against each other**: for each token, the tokens for which a relation
holds. -/
structure Clashes where
  same : Array SmallSet
  stops : Array SmallSet
  outruns : Array SmallSet
  swallows : Array SmallSet
  takesBlanks : Array SmallSet
  deriving Inhabited

namespace Clashes

/-- Records how one token stands against another. -/
def record (c : Clashes) (i j : Nat) (s : Standing) : Clashes :=
  let mark (holds : Bool) (rows : Array SmallSet) :=
    if holds then rows.modify i (·.insert j) else rows
  ⟨mark s.same c.same, mark s.stops c.stops, mark s.outruns c.outruns, mark s.swallows c.swallows,
    mark s.takesBlanks c.takesBlanks⟩

/-- **Compares all tokens**, given which tokens may come after each of them. -/
def ofLexicon (lexicon : Lexicon) (followers : Array SmallSet) : Clashes :=
  let starts := (Array.range lexicon.size).map lexicon.firstChars
  let follow := followers.map fun tokens =>
    tokens.toList.foldl (fun s t => s ∪ starts[t]!) (∅ : SmallSet)
  let none := Array.replicate lexicon.size SmallSet.empty
  (List.range lexicon.size).foldl (fun c j =>
    (List.range j).foldl (fun c i =>
      let e := lexicon.compare follow i j
      (c.record i j e.first).record j i e.second) c) ⟨none, none, none, none, none⟩

/-- The tokens that a token keeps from being read. -/
def conflicts (c : Clashes) (i : Nat) : SmallSet := c.swallows[i]! ∪ c.takesBlanks[i]! ∪ c.same[i]!

/-- The tokens with which a token has a text, or the beginning of one, in common. -/
def overlaps (c : Clashes) (i : Nat) : SmallSet :=
  c.takesBlanks[i]! ∪ c.stops[i]! ∪ c.same[i]! ∪ c.outruns[i]!

/-- Whether one token may take text that belongs to another one. -/
def overreaches (c : Clashes) (i j : Nat) : Bool :=
  (c.swallows[i]!.contains j || c.takesBlanks[i]!.contains j) && !c.takesBlanks[j]!.contains i

end Clashes

end NullFlow.C
