import NullFlow.C.Automaton.State
import NullFlow.C.Lexicon.Clash

/-!
# Tokens in company

Which tokens may follow each other in a text, and which are allowed side by side in a state. Both
settle which tokens a reader can tell apart where more is allowed than the grammar asks for: in
states that have been merged, and above all in the state of a reader that has lost its way.
-/

namespace NullFlow.C

/-- **The tokens that may come after each token.** A token that may stand anywhere may come after
all others, and all others after it. -/
def Items.followers (items : Items) (extra : Nat) : Array SmallSet :=
  let tokens := items.finish
  let add (sets : Array SmallSet) (before after : Step) : Array SmallSet :=
    items.last[before.symbol]!.toList.foldl
      (fun sets t => sets.modify t (· ∪ items.first[after.symbol]!)) sets
  let plain := items.grammar.all.foldl (fun sets p =>
    (p.steps.zip p.steps.tail).foldl (fun sets (a, b) => add sets a b) sets)
    (Array.replicate tokens SmallSet.empty)
  (plain.map (·.insert extra)).set! extra (.ofList (List.range tokens))

namespace State

/-- The tokens that the state allows. -/
def tokens (s : State) : SmallSet := .ofList (s.actions.map (·.1))

end State

namespace States

/-- **The tokens that each token is allowed beside**, in some state. -/
def companions (s : States) (finish : Nat) : Array SmallSet :=
  s.states.foldl (fun sets state =>
    let here := state.tokens
    state.actions.foldl (fun sets (t, _) =>
      if t < finish then sets.modify t (· ∪ here) else sets) sets)
    (Array.replicate finish SmallSet.empty)

/-- **The tokens that a lost reader looks for**: those that take no text from tokens they are never
allowed beside, the key words and the names, and those that get in no such token's way. -/
def lostTokens (lexicon : Lexicon) (clashes : Clashes) (companions : Array SmallSet) (word : Nat) :
    List Nat :=
  let tokens := List.range lexicon.size
  let apart (i j : Nat) : Bool := !companions[i]!.contains j
  let modest := tokens.filter fun i =>
    !tokens.any fun j => j != i && apart i j && clashes.overreaches i j
  tokens.filter fun i =>
    modest.contains i || lexicon.tokens[i]!.isKeyword || i == word
      || !modest.any fun j => apart i j && (clashes.conflicts i).contains j

/-- Says what a lost reader does: it leaves every token it looks for to the repair. -/
def withLost (s : States) (tokens : List Nat) (finish : Nat) : States :=
  { s with states := s.states.modify lost fun state =>
      { state with actions := (tokens ++ [finish]).map (·, [.recover]) } }

end States

end NullFlow.C
