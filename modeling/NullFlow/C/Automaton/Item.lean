import NullFlow.C.Automaton.Production
import Std.Data.HashMap

/-!
# Items

An **item** is a production with a mark in it: what stands before the mark has been read, what
stands after it is still to come. Two items are one if they differ only in symbols before the mark,
because a reading can no longer tell them apart; but the symbols stay if roles inside of them count
for the construct that is read.

Items are numbered by how far they have been read, then by the symbol they stand for.
-/

namespace NullFlow.C

/-- **What a part of a finished construct is to the construct**: the kind it takes in place of its
own, its role, and the roles inside of it that count for the construct. -/
structure Part where
  kind? : Option Kind
  role? : Option Role
  inner : SmallSet
  deriving DecidableEq, Hashable, Inhabited

/-- Whether the part is nothing but itself. -/
def Part.isBlank (p : Part) : Bool := p.kind?.isNone && p.role?.isNone && p.inner.isEmpty

/-- What tells an item from others. -/
structure Essence where
  head : Nat
  weight : Int
  /-- The parts that have been read, with their symbols where they count. -/
  done : List (Option Kind × Option Role × Option Nat)
  /-- How the last part that has been read binds. -/
  binding? : Option Binding
  rest : List Step
  deriving BEq, Hashable

/-- **An item.** -/
structure Item where
  head : Nat
  weight : Int
  /-- How many parts have been read. -/
  place : Nat
  /-- The next symbol. -/
  next? : Option Nat
  /-- The symbol after the next one. -/
  second? : Option Nat
  /-- The item after the next symbol. -/
  advanced : Nat
  /-- The level at which the last part that was read binds, and the side. -/
  level : Int
  side? : Option Side
  /-- The number of the list of parts that the finished construct has. -/
  layout : Nat
  deriving Inhabited

/-- **The items of a grammar**, with what the construction of the automaton has to know about
symbols. -/
structure Items where
  grammar : Productions
  items : Array Item
  /-- The lists of parts of finished constructs. -/
  layouts : Array (List Part)
  /-- The first items of every symbol of the grammar. -/
  starts : Array (List Nat)
  /-- The item with which the text begins. -/
  root : Nat
  /-- The tokens with which a symbol may begin, by the number of the symbol. -/
  first : Array SmallSet
  /-- The tokens with which a symbol may end. -/
  last : Array SmallSet
  deriving Inhabited

namespace Productions

/-- Repeats a step until it changes nothing, at most `fuel` times. -/
def settled {α : Type} [BEq α] (step : α → α) : (fuel : Nat) → (start : α) → α
  | 0, start => start
  | fuel + 1, start =>
    let next := step start
    if next == start then start else settled step fuel next

/-- Repeats a step until it changes nothing. As many times as there are symbols are enough for a
step that carries something from one symbol to another: what gets to a symbol at all gets there
without passing one twice. -/
def saturate {α : Type} [BEq α] (g : Productions) (step : α → α) (start : α) : α :=
  settled step g.numbering.heads start

/-- The roles in the construct that a step of a production brings with it. -/
def innerRoles (g : Productions) (roles : Array SmallSet) (s : Step) : SmallSet :=
  match g.numbering.head? s.symbol with
  | some h => if g.isOpen[h]! then roles[h]! else ∅
  | none => ∅

/-- The roles that a step of a production passes on to all constructs around it. A node passes on
none. -/
def passedRoles (g : Productions) (roles : Array SmallSet) (s : Step) : SmallSet :=
  match g.numbering.head? s.symbol with
  | some h => if g.isNode[h]! then ∅ else g.innerRoles roles s
  | none => ∅

/-- **The roles that occur in a symbol**, by its place in the grammar. -/
def rolesInside (g : Productions) : Array SmallSet :=
  g.saturate (fun roles =>
    g.all.foldl (fun roles p =>
      let found := p.steps.foldl (fun found s =>
        found ∪ g.passedRoles roles s ∪ (s.role?.elim ∅ fun r => .singleton r.ctorIdx))
        roles[p.head]!
      roles.set! p.head found) roles)
    (Array.replicate g.numbering.heads SmallSet.empty)

/-- For each symbol the tokens that some step of its productions may begin or end with. -/
def edgeTokens (g : Productions) (edge : List Step → Option Step) : Array SmallSet :=
  let n := g.numbering
  let tokens := (Array.range (n.finish + 1)).map SmallSet.singleton
  g.saturate (fun sets =>
    g.all.foldl (fun sets p =>
      match edge p.steps with
      | some s => sets.modify (n.ofHead p.head) (· ∪ sets[s.symbol]!)
      | none => sets) sets)
    (tokens ++ Array.replicate n.heads SmallSet.empty)

/-- What tells the item at a place of a production from others. -/
def essence (g : Productions) (roles : Array SmallSet) (p : Production) (place : Nat) : Essence :=
  let done := p.steps.take place
  let keeps := done.any fun s => !(g.innerRoles roles s).isEmpty
  ⟨p.head, p.weight,
    done.map fun s => (s.kind?, s.role?, if keeps then some s.symbol else none),
    done.getLast?.bind (·.binding?), p.steps.drop place⟩

/-- The parts of a finished construct, blank ones at the end left out. -/
def parts (g : Productions) (roles : Array SmallSet) (p : Production) : List Part :=
  let all := p.steps.map fun s => (⟨s.kind?, s.role?, g.innerRoles roles s⟩ : Part)
  (all.reverse.dropWhile (·.isBlank)).reverse

/-- The production of the whole text, whose head lies beyond the symbols of the grammar. -/
def wholeText (g : Productions) : Production :=
  ⟨g.numbering.heads, [⟨g.numbering.ofHead 0, none, none, none⟩], 0⟩

end Productions

namespace Items

/-- The items while they are being numbered. -/
structure Draft where
  numbers : Std.HashMap Essence Nat
  layouts : Std.HashMap (List Part) Nat
  /-- Each item with the production and the place that showed it first. -/
  found : Array (Production × Nat)
  lists : Array (List Part)

namespace Draft

/-- Adds the item at a place of a production. -/
def add (g : Productions) (roles : Array SmallSet) (d : Draft) (p : Production) (place : Nat) :
    Draft :=
  let key := g.essence roles p place
  if d.numbers.contains key then d
  else
    let parts := g.parts roles p
    let d := { d with
      numbers := d.numbers.insert key d.found.size
      found := d.found.push (p, place) }
    if d.layouts.contains parts then d
    else { d with layouts := d.layouts.insert parts d.lists.size, lists := d.lists.push parts }

/-- The number of the item at a place of a production. -/
def number (g : Productions) (roles : Array SmallSet) (d : Draft) (p : Production) (place : Nat) :
    Nat := d.numbers.getD (g.essence roles p place) 0

/-- The item with a number. -/
def item (g : Productions) (roles : Array SmallSet) (d : Draft) (p : Production) (place : Nat) :
    Item :=
  let rest := p.steps.drop place
  let before := (p.steps.take place).getLast?
  ⟨p.head, p.weight, place, rest.head?.map (·.symbol), rest.tail.head?.map (·.symbol),
    if rest.isEmpty then 0 else d.number g roles p (place + 1),
    (before.map Step.level).getD 0, before.bind fun s => s.binding?.bind (·.side?),
    d.layouts.getD (g.parts roles p) 0⟩

end Draft

/-- **The items of a grammar.** -/
def ofProductions (g : Productions) : Items :=
  let roles := g.rolesInside
  let all := g.all ++ [g.wholeText]
  let longest := all.foldl (fun n p => max n p.steps.length) 0
  let empty : Draft := ⟨∅, (∅ : Std.HashMap (List Part) Nat).insert [] 0, #[], #[[]]⟩
  let draft := (List.range (longest + 1)).foldl (fun d place =>
    all.foldl (fun d p => if place ≤ p.steps.length then d.add g roles p place else d) d) empty
  ⟨g, draft.found.map fun (p, place) => draft.item g roles p place, draft.lists,
    g.byHead.map fun ps => (ps.map fun p => draft.number g roles p 0).eraseDups,
    draft.number g roles g.wholeText 0, g.edgeTokens (·.head?), g.edgeTokens (·.getLast?)⟩

end Items

end NullFlow.C
