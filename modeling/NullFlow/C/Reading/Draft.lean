import NullFlow.C.Reading.Scan

/-!
# Drafts

A **draft** is a tree over a part of the text as the reader puts it together: it has a node for
every production, also for those that leave no node in the syntax tree, and it knows the blanks
before it.

**Cost.** Errors make a draft costly: text that was skipped by its length and by the constructs that
were given up with it, a token that was made up by a fixed price. Of two drafts of the same text the
cheaper is preferred, then the one of greater weight, then the one whose symbols come earlier in the
grammar.
-/

namespace NullFlow.C

/-- **What a draft stands for.** -/
inductive Label where
  /-- A token or another symbol of the grammar, by its number. -/
  | symbol (n : Nat)
  /-- Text that the grammar cannot place. -/
  | error
  /-- A part of such text, while it may still grow. -/
  | skipped
  deriving DecidableEq, Repr, Inhabited

/-- **What is known of a draft** besides its parts. -/
structure DraftInfo where
  label : Label
  /-- How many parts there are. -/
  count : Nat
  /-- The blanks before the draft. -/
  gap : Distance
  /-- The text of the draft. -/
  size : Distance
  /-- Whether it stands where the grammar has no place for it, as comments do. -/
  isExtra : Bool
  /-- Whether it is a key word. -/
  isKeyword : Bool
  /-- Whether it is a token that the text lacks. -/
  isMissing : Bool
  /-- The price of the errors inside. -/
  errors : Nat
  weight : Int
  /-- The number of the list of parts, from the production. -/
  layout : Nat
  /-- How many nodes of the syntax tree are children of this one. -/
  children : Nat
  /-- How many nodes of the syntax tree are below this one. -/
  below : Nat
  deriving Inhabited

/-- **Drafts.** -/
inductive Draft where
  | mk (info : DraftInfo) (parts : List Draft)
  deriving Inhabited

namespace Price

/-- Text that is skipped, however short it is. -/
def error : Nat := 500
/-- A token that the text lacks, besides the error that this is. -/
def missing : Nat := 110
/-- A construct that is given up. -/
def tree : Nat := 100
/-- A byte that is skipped. -/
def byte : Nat := 1
/-- A line that is skipped. -/
def line : Nat := 30
/-- By how much a reading may be worse than another one before it is given up. -/
def patience : Nat := 1800

end Price

namespace Automaton

/-- The kind of node that a draft becomes of itself. -/
def kind? (a : Automaton) : Label → Option Kind
  | .symbol n => a.kinds[n]!
  | .error => some .error
  | .skipped => none

/-- Whether a draft becomes a node of itself. -/
def shows (a : Automaton) (l : Label) : Bool := (a.kind? l).isSome

end Automaton

namespace Draft

/-- What is known of the draft. -/
def info : Draft → DraftInfo
  | mk i _ => i

/-- The parts from left to right. -/
def parts : Draft → List Draft
  | mk _ p => p

/-- Changes what is known of the draft. -/
def modify (f : DraftInfo → DraftInfo) : Draft → Draft
  | mk i p => mk (f i) p

/-- The draft as one that the grammar has no place for. -/
def asExtra (d : Draft) : Draft := d.modify fun i => { i with isExtra := true }

/-- The text of the draft and the blanks before it. -/
def total (d : Draft) : Distance := d.info.gap.add d.info.size

/-- **The price of the errors in the draft.** -/
def cost (d : Draft) : Nat :=
  if d.info.isMissing then Price.missing + Price.error else d.info.errors

/-- How many nodes of the syntax tree the draft becomes. -/
def nodes (a : Automaton) (d : Draft) : Nat :=
  d.info.below + (if a.shows d.info.label then 1 else 0)
    + (if d.info.label = .skipped then 1 else 0)

/-- A draft without parts. -/
def leaf (label : Label) (gap size : Distance) (isKeyword isMissing : Bool) : Draft :=
  mk ⟨label, 0, gap, size, false, isKeyword, isMissing, 0, 0, 0, 0, 0⟩ []

/-- Adds a part to what is known of a draft, with the kind it takes in place of its own. -/
def extend (a : Automaton) (i : DraftInfo) (kind? : Option Kind) (c : Draft) : DraftInfo :=
  let shows := a.shows c.info.label
  let given := !c.info.isExtra && kind?.isSome
  let isWrong := i.label matches .error | .skipped
  let givenUp :=
    if isWrong && !c.info.isExtra && !(c.info.label = .error && c.info.count = 0) then
      if shows then Price.tree
      else if c.info.count > 0 then Price.tree * c.info.children
      else 0
    else 0
  { i with
    count := i.count + 1
    gap := if i.count = 0 then c.info.gap else i.gap
    size := if i.count = 0 then c.info.size else i.size.add c.total
    errors := i.errors + (if c.info.label = .skipped then 0 else c.cost) + givenUp
    weight := i.weight + c.info.weight
    below := i.below + c.info.below + (if given || shows then 1 else 0)
    children := i.children
      + (if given || shows then 1 else if c.info.count > 0 then c.info.children else 0) }

/-- Adds parts one after the other; parts that have a place in the production take the kinds it
gives them. -/
def extendAll (a : Automaton) : List Draft → List Part → DraftInfo → DraftInfo
  | [], _, i => i
  | c :: r, parts, i =>
    let i := extend a i (parts.head?.bind (·.kind?)) c
    extendAll a r (if c.info.isExtra then parts else parts.tail) i

/-- **A draft made of parts.** -/
def ofParts (a : Automaton) (label : Label) (layout : Nat) (parts : List Draft) : Draft :=
  let start : DraftInfo :=
    ⟨label, 0, .zero, .zero, false, false, false, 0, 0, layout, 0, 0⟩
  let i := extendAll a parts a.layouts[layout]! start
  let isWrong := label matches .error | .skipped
  mk { i with
    errors := i.errors
      + if isWrong then Price.error + Price.byte * i.size.bytes + Price.line * i.size.rows
        else 0 } parts

/-- The parts up to the last one that is no extra, and the extras after it. -/
def splitExtras (parts : List Draft) : List Draft × List Draft :=
  let rev := parts.reverse
  ((rev.dropWhile (·.info.isExtra)).reverse, (rev.takeWhile (·.info.isExtra)).reverse)

/-! ## The better of two drafts -/

/-- The place of a label in the order of symbols: the end of the text and names come first. -/
def rank (a : Automaton) : Label → Nat
  | .symbol n =>
    if n = a.finish then 0
    else if n = a.word then 1
    else if n < a.word then n + 2
    else if n < a.finish then n + 1
    else n
  | .skipped => a.kinds.size
  | .error => a.kinds.size + 1

/-- Compares two drafts by their labels, the upper ones first. -/
def order (a : Automaton) : Draft → Draft → Ordering
  | mk i p, mk j q =>
    match compare (rank a i.label) (rank a j.label) with
    | .eq =>
      match compare i.count j.count with
      | .eq => orderAll p q
      | o => o
    | o => o
where
  /-- Compares the parts of two drafts from left to right. -/
  orderAll : List Draft → List Draft → Ordering
    | c :: r, d :: s =>
      match order a c d with
      | .eq => orderAll r s
      | o => o
    | _, _ => .eq

/-- **Whether the second draft is better than the first.** -/
def isBeaten (a : Automaton) (left right : Draft) : Bool :=
  if right.cost != left.cost then right.cost < left.cost
  else if right.info.weight != left.info.weight then right.info.weight > left.info.weight
  else left.cost > 0 || order a left right = .gt

/-- Whether two drafts are as good as the same to a reader that has come upon both. -/
def isAlike (a b : Draft) : Bool :=
  a.info.label = b.info.label
    && (a.cost > 0 && b.cost > 0
      || a.info.gap.bytes == b.info.gap.bytes && a.info.size.bytes == b.info.size.bytes
        && a.info.count == b.info.count && a.info.isExtra == b.info.isExtra)

end Draft

end NullFlow.C
