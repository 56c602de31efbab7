import NullFlow.C.Automaton.Mode

/-!
# The automaton of a grammar

`Automaton.ofGrammar` makes the tables that a reader works with: for each state what to do with
every token, where every finished construct leads, and the mode of the scanner.
-/

namespace NullFlow.C

/-- **The tables of a reader.** -/
structure Automaton where
  lexicon : Lexicon
  /-- The number of names among the tokens. -/
  word : Nat
  /-- The key words with the numbers of their tokens. -/
  keywords : Std.HashMap String Nat
  /-- The kind of the node that each symbol becomes, if it becomes one. -/
  kinds : Array (Option Kind)
  /-- The lists of parts of finished constructs. -/
  layouts : Array (List Part)
  /-- For each state the actions on each token. -/
  actions : Array (Array (List Action))
  /-- For each state where each symbol leads; zero stands for nowhere. -/
  gotos : Array (Array Nat)
  /-- The mode of the scanner in each state. -/
  modes : Array Nat
  scanners : Array Mode
  deriving Inhabited

namespace Automaton

/-- The state of a reader that has lost its way. -/
def lost : Nat := 0

/-- The state at the beginning of a text. -/
def start : Nat := 1

/-- The number that stands for the end of the text. -/
def finish (a : Automaton) : Nat := a.lexicon.size

/-- The number of a symbol, given its place in the grammar. -/
def symbol (a : Automaton) (head : Nat) : Nat := a.finish + 1 + head

/-- What to do with a token. -/
def action (a : Automaton) (state token : Nat) : List Action := (a.actions[state]!)[token]!

/-- Whether a state allows a token. -/
def allows (a : Automaton) (state token : Nat) : Bool := !(a.action state token).isEmpty

/-- **The state after a symbol.** -/
def next (a : Automaton) (state symbol : Nat) : Nat :=
  if a.finish < symbol then (a.gotos[state]!)[symbol - a.finish - 1]!
  else match (a.action state symbol).getLast? with
    | some (.shift target _) => target
    | some .skip => state
    | _ => lost

/-- The tokens that a merged state allows, with names for all key words. -/
def scanned (lexicon : Lexicon) (word : Nat) (actions : Array (List Action)) : SmallSet :=
  (List.range (lexicon.size + 1)).foldl (fun s t =>
    if actions[t]!.isEmpty then s
    else if lexicon.tokens[t]?.any (·.isKeyword) then s.insert word
    else s.insert t) ∅

/-- The states that can be got to. `fuel` bounds the number of steps. -/
def reachable (actions : Array (Array (List Action))) (gotos : Array (Array Nat)) :
    (fuel : Nat) → (pending : List Nat) → Array Bool → Array Bool
  | 0, _, seen => seen
  | _, [], seen => seen
  | fuel + 1, s :: pending, seen =>
    if seen[s]! then reachable actions gotos fuel pending seen
    else
      let shifts := actions[s]!.toList.flatMap fun l => l.filterMap (·.target?)
      let steps := gotos[s]!.toList.filter (· != lost)
      reachable actions gotos fuel (shifts ++ steps ++ pending) (seen.set! s true)

/-- How many steps `reachable` may take. -/
def reachBound : Nat := 10000000

/-- The states in the order in which they are given modes: first the two from which a reader starts,
then by the number of entries in their tables. -/
def byEntries (actions : Array (Array (List Action))) (gotos : Array (Array Nat))
    (used : Array Bool) : List Nat :=
  let entries (s : Nat) : Nat :=
    (actions[s]!.filter (!·.isEmpty)).size + (gotos[s]!.filter (· != lost)).size
  let sizes := (Array.range actions.size).map entries
  let others := (List.range actions.size).filter fun s => start < s && used[s]!
  lost :: start :: others.mergeSort fun a b => sizes[b]! ≤ sizes[a]!

/-- **The automaton of a grammar.** `extra` is the token that may stand anywhere, `name` the one for
names. -/
def ofGrammar (tokens : List Token) (rules : List (Symbol × Rule)) (extra name : Token) :
    Automaton :=
  let lexicon := Lexicon.ofTokens tokens
  let grammar := Productions.ofRules tokens rules
  let n := grammar.numbering
  let items := Items.ofProductions grammar
  let word := n.ofToken name
  let clashes := Clashes.ofLexicon lexicon (items.followers (n.ofToken extra))
  let full := States.ofItems items (n.ofToken extra)
  let companions := full.companions n.finish
  let lostTokens := States.lostTokens lexicon clashes companions word
  let short := (full.withLost lostTokens n.finish).shorten n.isPassing
  let division := short.division (States.barriers lexicon clashes word) n.finish n.heads
  let actions := division.members.map fun members =>
    members.foldl (fun row i =>
      short.states[i]!.actions.foldl (fun row (t, l) =>
        row.set! t (l.map (·.mapTarget (division.group[·]!)))) row)
      (Array.replicate (n.finish + 1) [])
  let gotos := division.members.map fun members =>
    members.foldl (fun row i =>
      short.states[i]!.gotos.foldl (fun row (h, s) => row.set! h division.group[s]!) row)
      (Array.replicate n.heads lost)
  let used := reachable actions gotos reachBound [start] (Array.replicate actions.size false)
  let obstacles := Mode.obstacles clashes companions
  let (modes, sets) := (byEntries actions gotos used).foldl (fun (modes, sets) s =>
    let (i, sets) := Mode.place obstacles (scanned lexicon word actions[s]!) sets
    (modes.set! s i, sets)) (Array.replicate actions.size 0, ([] : List SmallSet))
  { lexicon := lexicon
    word := word
    keywords := tokens.zipIdx.foldl (fun m (t, i) => t.words.foldl (·.insert · i) m) ∅
    kinds := (tokens.map Token.kind? ++ [none] ++ n.symbols.map Symbol.kind?).toArray
      ++ Array.replicate n.repeated.length none
    layouts := items.layouts
    actions := actions
    gotos := gotos
    modes := modes
    scanners := (sets.map (Mode.ofTokens lexicon)).toArray }

end Automaton

end NullFlow.C
