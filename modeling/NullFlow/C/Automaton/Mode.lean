import NullFlow.C.Automaton.Merge

/-!
# Modes of the scanner

What a text is depends on what the grammar allows: after `#include` the mark `<` begins a file name,
in an expression it is an operator. The scanner therefore works in **modes**, each with the tokens
it looks for. Two states share a mode if no token that only one of them allows gets in the way of
those that the other allows, so there are far fewer modes than states. The modes are made state by
state, beginning with those that allow the most.
-/

namespace NullFlow.C

/-- **A mode of the scanner**: the tokens it looks for. -/
structure Mode where
  /-- The tokens, with names for all key words; the end of the text may be among them. -/
  tokens : SmallSet
  /-- The first places of the tokens that must touch the one before them. -/
  touching : List Nat
  /-- For each class of characters, where the other tokens go on after it. -/
  afterFirst : Array (List Nat)
  deriving Inhabited

namespace Mode

/-- The mode that looks for some tokens. -/
def ofTokens (lexicon : Lexicon) (tokens : SmallSet) : Mode :=
  let all := (tokens.toList.filter (· < lexicon.size))
  let (touching, free) := all.partition fun t => lexicon.tokens[t]!.isTouching
  let starts (l : List Nat) := l.foldl (fun s t => mergeAscending s lexicon.bareStarts[t]!) []
  let places := lexicon.placesAt (starts free)
  ⟨tokens, starts touching, (Array.range (otherClass + 1)).map fun c =>
    places.foldl (fun s p => if p.chars.contains c then mergeAscending s p.next else s) []⟩

/-- **The tokens that must not be looked for where another token is not allowed**: those whose texts
the other token would take, and those that are never allowed beside it and share a text with it. -/
def obstacles (clashes : Clashes) (companions : Array SmallSet) : Array SmallSet :=
  let tokens := List.range companions.size
  let overlaps := (Array.range companions.size).map clashes.overlaps
  (Array.range companions.size).map fun t =>
    let others := tokens.filter fun e => overlaps[e]!.contains t
    clashes.conflicts t ∪ clashes.stops[t]! ∪ ((overlaps[t]! ∪ .ofList others) \ companions[t]!)

/-- Whether none of the tokens in the first set that the second lacks is an obstacle to the second
set. -/
def isHarmless (obstacles : Array SmallSet) (a b : SmallSet) : Bool :=
  (a \ b).toList.all fun t => !(obstacles[t]?.any b.meets)

/-- Adds a state's tokens to the first of several sets that they fit, or after them. The place of
the set comes with the result. -/
def place (obstacles : Array SmallSet) (tokens : SmallSet) : List SmallSet → Nat × List SmallSet
  | [] => (0, [tokens])
  | s :: r =>
    if isHarmless obstacles tokens s && isHarmless obstacles s tokens then (0, (s ∪ tokens) :: r)
    else
      let (i, r) := place obstacles tokens r
      (i + 1, s :: r)

end Mode

end NullFlow.C
