import NullFlow.C.Automaton.Item

/-!
# States

A **state** of the automaton is a set of items, each with the tokens that may come after its
construct. It stands for everything a reader has to remember of the text before. `States.ofItems`
builds the states from the one where nothing has been read: from every state, each symbol leads to
the state of the items that the symbol advances.

**Conflicts.** Where a token may both be taken and end a construct, the levels decide; on the same
level the side does to which operators group. If both leave it open, the reader is told to do both
and goes on with two readings. State zero has no items: it is the state of a reader that has lost
its way.
-/

namespace NullFlow.C

/-- **The end of a construct**: so many parts are put together to one. -/
structure Reduction where
  head : Nat
  count : Nat
  weight : Int
  /-- The number of the list of parts. -/
  layout : Nat
  deriving DecidableEq, Hashable, Inhabited, Repr

/-- **What a reader does with a token.** -/
inductive Action where
  /-- Takes the token. A shift that `repeats` goes on with a repetition, which the reduction before
  it does as well, so that it is only taken by a reader that has nothing to reduce. -/
  | shift (target : Nat) (repeats : Bool)
  | reduce (r : Reduction)
  /-- The text is complete. -/
  | accept
  /-- Takes the token as one that may stand anywhere. -/
  | skip
  /-- Leaves the token to the repair of errors. -/
  | recover
  deriving DecidableEq, Hashable, Inhabited, Repr

/-- **A set of items**, in ascending order, with the tokens that may come after each. -/
abbrev Kernel := List (Nat × SmallSet)

/-- Adds an item to a set of items. -/
def Kernel.insert (item : Nat) (tokens : SmallSet) : Kernel → Kernel
  | [] => [(item, tokens)]
  | (j, others) :: r =>
    if item < j then (item, tokens) :: (j, others) :: r
    else if item = j then (j, others ∪ tokens) :: r
    else (j, others) :: Kernel.insert item tokens r

/-- **A state**: its items and what they allow. -/
structure State where
  kernel : Kernel
  /-- The number of the set of items without tokens. -/
  core : Nat
  /-- What to do with a token, in the order of tokens. -/
  actions : List (Nat × List Action)
  /-- Where a finished construct leads, in the order of symbols. -/
  gotos : List (Nat × Nat)
  deriving Inhabited

/-! ## What may begin where a symbol may stand -/

/-- **A symbol that may begin where another one may stand**: with the tokens that may come after it,
and whether everything that may come after the other symbol may come after this one. -/
structure Reach where
  head : Nat
  tokens : SmallSet
  passes : Bool
  deriving Inhabited

namespace Items

/-- How many symbols there are besides the tokens. -/
def heads (items : Items) : Nat := items.grammar.numbering.heads

def finish (items : Items) : Nat := items.grammar.numbering.finish

/-- The symbols with which the productions of a symbol begin. -/
def leading (items : Items) (head : Nat) : List Reach :=
  items.starts[head]!.filterMap fun i =>
    let item := items.items[i]!
    match item.next?.bind items.grammar.numbering.head? with
    | some h => some (match item.second? with
      | some s => ⟨h, items.first[s]!, false⟩
      | none => ⟨h, ∅, true⟩)
    | none => none

/-- Follows the leading symbols from several symbols on. `fuel` bounds the number of steps. -/
def follow (leading : Array (List Reach)) :
    (fuel : Nat) → (pending : List Reach) → Array (Option Reach) → Array (Option Reach)
  | 0, _, found => found
  | _, [], found => found
  | fuel + 1, r :: pending, found =>
    let known := found[r.head]!
    let old := known.getD ⟨r.head, ∅, false⟩
    let new : Reach := ⟨r.head, old.tokens ∪ r.tokens, old.passes || r.passes⟩
    if known.isSome && new.tokens == old.tokens && new.passes == old.passes then
      follow leading fuel pending found
    else
      let next := leading[r.head]!.map fun s =>
        if s.passes then { s with tokens := new.tokens, passes := new.passes } else s
      follow leading fuel (next ++ pending) (found.set! r.head (some new))

/-- How many steps `follow` may take. -/
def followBound : Nat := 1000000

/-- The symbols that may begin where each symbol may stand. -/
def reaches (items : Items) : Array (List Reach) :=
  let leading := (Array.range items.heads).map items.leading
  (Array.range items.heads).map fun h =>
    let reached := follow leading followBound [⟨h, ∅, true⟩] (Array.replicate items.heads none)
    reached.toList.filterMap id

/-- **What may begin in a state**: for each symbol the tokens that may come after it. -/
def beginnings (items : Items) (reaches : Array (List Reach)) (kernel : Kernel) : Array SmallSet :=
  kernel.foldl (fun found (i, tokens) =>
    let item := items.items[i]!
    match item.next?.bind items.grammar.numbering.head? with
    | none => found
    | some h =>
      let after := match item.second? with
        | some s => items.first[s]!
        | none => tokens
      reaches[h]!.foldl (fun found r =>
        found.modify r.head (· ∪ r.tokens ∪ if r.passes then after else ∅)) found)
    (Array.replicate items.heads SmallSet.empty)

/-- **The items after each symbol.** -/
def successors (items : Items) (kernel : Kernel) (beginnings : Array SmallSet) : Array Kernel :=
  let advance (found : Array Kernel) (i : Nat) (tokens : SmallSet) : Array Kernel :=
    let item := items.items[i]!
    match item.next? with
    | some s => found.modify s (Kernel.insert item.advanced tokens)
    | none => found
  let inside := kernel.foldl (fun found (i, tokens) => advance found i tokens)
    (Array.replicate (items.finish + 1 + items.heads) [])
  (List.range items.heads).foldr (fun h found =>
    let tokens := beginnings[h]!
    if tokens.isEmpty then found
    else items.starts[h]!.foldr (fun i found => advance found i tokens) found) inside

/-- The items of finished constructs in a state. -/
def finished (items : Items) (kernel : Kernel) (beginnings : Array SmallSet) : Kernel :=
  let empty := (List.range items.heads).flatMap fun h =>
    if beginnings[h]!.isEmpty then []
    else (items.starts[h]!.filter fun i => items.items[i]!.next?.isNone).map fun i =>
      (i, beginnings[h]!)
  empty ++ kernel.filter fun (i, _) => items.items[i]!.next?.isNone

/-! ## Conflicts -/

/-- What to do at the end of an item. -/
def ending (items : Items) (item : Item) : Action :=
  if item.head = items.heads then .accept
  else .reduce ⟨item.head, item.place, item.weight, item.layout⟩

/-- Whether only repetitions have a part in a conflict, and all in the same one. -/
def isRepetition (items : Items) (involved : List Item) : Bool :=
  match (involved.map (·.head)).eraseDups with
  | [h] => items.grammar.numbering.isRepetition h
  | _ => false

/-- **What to do with a token** that ends some items and, if there is a target, advances others. -/
def decide (items : Items) (kernel : List Item) (token : Nat) (endings : List Item)
    (target? : Option Nat) : List Action :=
  let level := (endings.map (·.level)).foldl max ((endings.head?.map (·.level)).getD 0)
  let best := endings.filter (·.level == level)
  let reductions := best.map items.ending
  match target?, endings with
  | none, _ => reductions
  | some target, [] => [.shift target false]
  | some target, _ =>
    let inside := kernel.filter fun i =>
      i.place > 0 && i.next?.any fun s => items.first[s]!.contains token
    let tighter := inside.any (·.level > level)
    let looser := inside.any (·.level < level)
    if items.isRepetition (inside ++ endings) then reductions ++ [.shift target true]
    else if tighter && !looser then [.shift target false]
    else if looser && !tighter then reductions
    else if !tighter && !looser && best.all (·.side? == some .left) then reductions
    else if !tighter && !looser && best.all (·.side? == some .right) then [.shift target false]
    else reductions ++ [.shift target false]

end Items

/-! ## All states -/

/-- **The states of an automaton**, with the numbers of those that have been found. -/
structure States where
  states : Array State
  numbers : Std.HashMap Kernel Nat
  cores : Std.HashMap (List Nat) Nat
  deriving Inhabited

namespace States

/-- The number of the state with the given items, which is added if it is new. -/
def number (s : States) (kernel : Kernel) : Nat × States :=
  match s.numbers[kernel]? with
  | some i => (i, s)
  | none =>
    let core := kernel.map (·.1)
    let (c, cores) := match s.cores[core]? with
      | some c => (c, s.cores)
      | none => (s.cores.size, s.cores.insert core s.cores.size)
    (s.states.size,
      ⟨s.states.push ⟨kernel, c, [], []⟩, s.numbers.insert kernel s.states.size, cores⟩)

/-- The numbers of the states after some symbols, each with its symbol. -/
def targets (successors : Array Kernel) (s : States) (symbols : List Nat) :
    List (Nat × Nat) × States :=
  let (found, s) := symbols.foldl (fun (found, s) symbol =>
    match successors[symbol]! with
    | [] => (found, s)
    | kernel =>
      let (i, s) := s.number kernel
      ((symbol, i) :: found, s)) (([] : List (Nat × Nat)), s)
  (found.reverse, s)

/-- What to do with every token in a state. -/
def actions (items : Items) (kernel : Kernel) (finished : Kernel) (shifts : List (Nat × Nat))
    (extra : Nat) : List (Nat × List Action) :=
  let inside := kernel.map fun (i, _) => items.items[i]!
  let ending := finished.foldl (fun s (_, tokens) => s ∪ tokens) (∅ : SmallSet)
  let shifting := SmallSet.ofList (shifts.map (·.1))
  (ending ∪ shifting).insert extra |>.toList.map fun t =>
    let endings := if ending.contains t then
        (finished.filter (·.2.contains t)).map fun (i, _) => items.items[i]!
      else []
    let target? := if shifting.contains t then shifts.lookup t else none
    match items.decide inside t endings target? with
    | [] => (t, [.skip])
    | found => (t, found)

/-- **Works out what a state allows**, and adds the states it leads to. -/
def expand (items : Items) (reaches : Array (List Reach)) (extra : Nat) (s : States) (i : Nat) :
    States :=
  let kernel := s.states[i]!.kernel
  let beginnings := items.beginnings reaches kernel
  let successors := items.successors kernel beginnings
  let (shifts, s) := s.targets successors (List.range (items.finish + 1))
  let (gotos, s) := s.targets successors
    ((List.range items.heads).map items.grammar.numbering.ofHead)
  let found := actions items kernel (items.finished kernel beginnings) shifts extra
  { s with states := s.states.modify i fun state =>
      { state with actions := found, gotos := gotos.map fun (a, b) => (a - items.finish - 1, b) } }

/-- Works out all states from one on. `fuel` bounds their number. -/
def expandFrom (items : Items) (reaches : Array (List Reach)) (extra : Nat) :
    (fuel : Nat) → Nat → States → States
  | 0, _, s => s
  | fuel + 1, i, s =>
    if i < s.states.size then
      expandFrom items reaches extra fuel (i + 1) (s.expand items reaches extra i)
    else s

/-- How many states an automaton may have. -/
def bound : Nat := 100000

/-- The state without items. -/
def lost : Nat := 0

/-- The state at the beginning of a text. -/
def start : Nat := 1

/-- **All states of a grammar**, given the number of a token that may stand anywhere. -/
def ofItems (items : Items) (extra : Nat) : States :=
  let none : States := ⟨#[⟨[], 0, [], []⟩], ∅, (∅ : Std.HashMap (List Nat) Nat).insert [] 0⟩
  let (_, s) := none.number [(items.root, .singleton items.finish)]
  s.expandFrom items items.reaches extra bound start

end States

end NullFlow.C
