import NullFlow.C.Automaton.Company
import NullFlow.C.Automaton.Shortcut

/-!
# Merging states

Many states have the same items and differ only in the tokens that may come after them. Those that
do not contradict each other are merged: wherever both know what to do with a token they do the
same, no token of one gets in the way of a token of the other, and no symbol leads to states that
are kept apart. A merged state reduces a little longer before it notices an error than its parts
would, and this shows in how errors are repaired.

States are divided into **groups**. In the beginning a group holds all states with the same items.
Groups are divided further for as long as two of their states contradict each other.
-/

namespace NullFlow.C

/-- **What a state does, laid out for comparison.** -/
structure Row where
  /-- For every token with actions: the token, the number of the actions, and where they lead. -/
  entries : List (Nat × Nat × Nat)
  /-- The number of the actions for each token; zero stands for none. -/
  shapes : Array Nat
  /-- Where the actions for each token lead. -/
  targets : Array Nat
  /-- The tokens with actions, the end of the text left out. -/
  tokens : SmallSet
  gotos : List (Nat × Nat)
  /-- Where each symbol leads; zero stands for nowhere. -/
  gotoTargets : Array Nat
  deriving Inhabited

/-- Numbers for lists of actions whose steps lead nowhere in particular. -/
abbrev Shapes := Std.HashMap (List Action) Nat

namespace Row

/-- Lays out a state. -/
def ofState (finish heads : Nat) (shapes : Shapes) (s : State) : Row × Shapes :=
  let (entries, shapes) := s.actions.foldl (fun (entries, shapes) (t, l) =>
    let shape := l.map (·.mapTarget fun _ => 0)
    let target := (l.findSome? (·.target?)).getD 0
    match shapes[shape]? with
    | some n => ((t, n, target) :: entries, shapes)
    | none => ((t, shapes.size + 1, target) :: entries, shapes.insert shape (shapes.size + 1)))
    (([] : List (Nat × Nat × Nat)), shapes)
  let none := Array.replicate (finish + 1) 0
  (⟨entries, entries.foldl (fun a (t, n, _) => a.set! t n) none,
    entries.foldl (fun a (t, _, i) => a.set! t i) none,
    .ofList ((entries.map (·.1)).filter (· < finish)), s.gotos,
    s.gotos.foldl (fun a (h, i) => a.set! h i) (Array.replicate heads 0)⟩, shapes)

/-- Whether an entry contradicts what another state does: where both know the token they must do the
same, and a token that only one knows must not get in the way of the tokens of the other. -/
def contradicts (clashes : Array SmallSet) (group : Array Nat) (other : Row) :
    Nat × Nat × Nat → Bool
  | (t, shape, target) =>
    let there := other.shapes[t]!
    if there = 0 then clashes[t]!.meets other.tokens
    else there != shape || (target != 0 && group[target]! != group[other.targets[t]!]!)

/-- **Whether two states contradict each other.** -/
def isAtOdds (clashes : Array SmallSet) (group : Array Nat) (a b : Row) : Bool :=
  a.entries.any (contradicts clashes group b)
    || b.entries.any fun (t, _, _) => a.shapes[t]! = 0 && clashes[t]!.meets a.tokens

/-- **Whether a symbol leads from two states to different groups.** -/
def isParted (group : Array Nat) (a b : Row) : Bool :=
  (a.entries.any fun (t, _, target) =>
      target != 0 && b.targets[t]! != 0 && group[target]! != group[b.targets[t]!]!)
    || a.gotos.any fun (h, target) =>
      b.gotoTargets[h]! != 0 && group[target]! != group[b.gotoTargets[h]!]!

end Row

/-- **A division of the states into groups.** -/
structure Division where
  /-- The group of each state. -/
  group : Array Nat
  /-- The states of each group, in ascending order. -/
  members : Array (List Nat)
  deriving Inhabited

namespace Division

/-- The states with the same items are a group. -/
def ofStates (s : States) : Division :=
  let group := s.states.map (·.core)
  ⟨group, (List.range s.states.size).foldr (fun i members =>
    members.modify group[i]! (i :: ·)) (Array.replicate s.cores.size [])⟩

/-- Keeps every number that is not at odds with one kept before it; the others come second. -/
def sift (atOdds : Nat → Nat → Bool) : List Nat → List Nat × List Nat
  | [] => ([], [])
  | i :: r =>
    let parts := r.partition (atOdds i)
    let rest := sift atOdds parts.2
    (i :: rest.1, mergeAscending parts.1 rest.2)
termination_by l => l.length
decreasing_by
  simp only [List.partition_eq_filter_filter, List.length_cons]
  exact Nat.lt_succ_of_le (List.length_filter_le _ _)

/-- Divides the groups from one on, and the new groups as well. `fuel` bounds their number. -/
def divideFrom (atOdds : Array Nat → Nat → Nat → Bool) :
    (fuel : Nat) → Nat → Division → Division
  | 0, _, d => d
  | fuel + 1, g, d =>
    if g < d.members.size then
      match sift (atOdds d.group) d.members[g]! with
      | (_, []) => divideFrom atOdds fuel (g + 1) d
      | (kept, others) =>
        divideFrom atOdds fuel (g + 1)
          ⟨others.foldl (fun group i => group.set! i d.members.size) d.group,
            (d.members.set! g kept).push others⟩
    else d

/-- Divides all groups until nothing changes. `fuel` bounds the number of rounds. -/
def divide (atOdds : Array Nat → Nat → Nat → Bool) : (fuel : Nat) → Division → Division
  | 0, d => d
  | fuel + 1, d =>
    let next := divideFrom atOdds d.group.size 0 d
    if next.members.size = d.members.size then d else divide atOdds fuel next

end Division

namespace States

/-- The tokens that a token must not be added to. A key word and a name do not get in each other's
way. The end of the text has the barriers of the first token. -/
def barriers (lexicon : Lexicon) (clashes : Clashes) (word : Nat) : Array SmallSet :=
  let keywords := lexicon.numbersOf (·.isKeyword)
  let rows := (Array.range lexicon.size).map fun t =>
    if t = word then clashes.conflicts t \ keywords
    else if keywords.contains t then clashes.conflicts t \ .singleton word
    else clashes.conflicts t
  rows.push rows[0]!

/-- **Divides the states into groups** of states that can be merged. -/
def division (s : States) (barriers : Array SmallSet) (finish heads : Nat) : Division :=
  let (rows, _) := s.states.foldl (fun (rows, shapes) state =>
    let (row, shapes) := Row.ofState finish heads shapes state
    (rows.push row, shapes)) ((#[] : Array Row), (∅ : Shapes))
  let start := Division.divideFrom (fun group i j => Row.isAtOdds barriers group rows[i]! rows[j]!)
    s.states.size 0 (.ofStates s)
  start.divide (fun group i j => Row.isParted group rows[i]! rows[j]!) s.states.size

end States

end NullFlow.C
