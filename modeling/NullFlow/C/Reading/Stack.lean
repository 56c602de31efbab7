import NullFlow.C.Reading.Draft

/-!
# Readings side by side

Where the grammar leaves it open how a text is to be read, the reader follows several **readings**
at once. What a reading has read is a stack of drafts with a state above each. The stacks share what
they have in common: a **cell** holds a state and links to the cells below, one for each way in
which the state was reached. Two readings that come to the same state at the same place go on as
one.
-/

namespace NullFlow.C

/-- **A link** to a cell below, with the draft between the two. -/
structure Link where
  below : Nat
  /-- What was read in between; a reader that gets lost steps up without reading. -/
  draft? : Option Draft
  deriving Inhabited

/-- **A cell**: a state at a place of the text. -/
structure Cell where
  state : Nat
  links : List Link
  place : Distance
  /-- The price of all errors so far. -/
  cost : Nat
  /-- How many nodes have been read; a reading that is far ahead has proved itself. -/
  nodes : Nat
  weight : Int
  deriving Inhabited

/-- Whether a reading goes on. -/
inductive Status where
  | active
  /-- The reading waits for a repair. -/
  | paused
  | halted
  deriving DecidableEq, Inhabited

/-- **A place that a lost reading may go back to**: so many drafts below its top. -/
structure Anchor where
  place : Distance
  depth : Nat
  state : Nat
  deriving Inhabited

/-- **A reading.** -/
structure Head where
  /-- The cell on top of its stack. -/
  cell : Nat
  /-- How many nodes had been read at the last error. -/
  mark : Nat
  status : Status
  /-- The token at which a paused reading waits. -/
  token? : Option Draft
  /-- Where a lost reading may go back to. -/
  anchors? : Option (List Anchor)
  deriving Inhabited

/-- **The reader**: its readings, and the best draft of the whole text. -/
structure Reader where
  cells : Array Cell
  heads : Array Head
  finished? : Option Draft
  /-- How often the end of the text was reached. -/
  arrivals : Nat
  deriving Inhabited

namespace Reader

/-- How many readings are followed. -/
def headLimit : Nat := 6

/-- How many readings more a single step may begin. -/
def headReserve : Nat := 4

/-- How many ways may lead to one cell. -/
def linkLimit : Nat := 8

/-- How many ways down a stack are followed at once. -/
def walkLimit : Nat := 64

/-- A reader before the first token. -/
def start : Reader :=
  ⟨#[⟨Automaton.start, [], .zero, 0, 0, 0⟩], #[⟨0, 0, .active, none, none⟩], none, 0⟩

/-- A reading. -/
def head (r : Reader) (v : Nat) : Head := r.heads[v]!

/-- The top of a reading. -/
def top (r : Reader) (v : Nat) : Cell := r.cells[(r.head v).cell]!

def modifyHead (r : Reader) (v : Nat) (f : Head → Head) : Reader :=
  { r with heads := r.heads.modify v f }

/-- Adds a reading. -/
def addHead (r : Reader) (h : Head) : Reader := { r with heads := r.heads.push h }

/-- Gives a reading up. -/
def remove (r : Reader) (v : Nat) : Reader := { r with heads := r.heads.eraseIdx! v }

/-- **Puts a draft on top of a reading**, with the state that it leads to. -/
def push (a : Automaton) (r : Reader) (v : Nat) (draft? : Option Draft) (state : Nat) : Reader :=
  let h := r.head v
  let below := r.top v
  let cell : Cell := match draft? with
    | some d => ⟨state, [⟨h.cell, draft?⟩], below.place.add d.total, below.cost + d.cost,
        below.nodes + d.nodes a, below.weight + d.info.weight⟩
    | none => { below with state := state, links := [⟨h.cell, none⟩] }
  let mark := if draft?.isNone then cell.nodes else h.mark
  let number := r.cells.size
  { r with
    cells := r.cells.push cell
    heads := r.heads.modify v fun h => { h with cell := number, mark := mark } }

/-! ## Joining readings -/

/-- Whether two links carry the same draft, as far as a reader cares. -/
def carriesSame (a b : Link) : Bool :=
  match a.draft?, b.draft? with
  | none, none => true
  | some x, some y => x.isAlike y
  | _, _ => false

/-- What a link says about the weight of the cell above it. -/
def linkWeight (cells : Array Cell) (l : Link) : Int :=
  cells[l.below]!.weight + (l.draft?.map (·.info.weight)).getD 0

/-- **Adds a link to a cell**, unless one like it is there. `fuel` bounds how deep cells are joined
in turn. -/
def addLink (a : Automaton) : (fuel : Nat) → Array Cell → Nat → Link → Array Cell
  | 0, cells, _, _ => cells
  | fuel + 1, cells, self, link =>
    if link.below = self then cells
    else
      let below := cells[link.below]!
      let isSame (l : Link) : Bool := carriesSame l link && l.below == link.below
      let joins (l : Link) : Bool :=
        let other := cells[l.below]!
        carriesSame l link && other.state == below.state
          && other.place.bytes == below.place.bytes && other.cost == below.cost
      match cells[self]!.links.findIdx? fun l => isSame l || joins l with
      | some i =>
        let old := cells[self]!.links[i]!
        if isSame old then
          let isHeavier : Bool := match old.draft?, link.draft? with
            | some x, some y => x.info.weight < y.info.weight
            | _, _ => false
          if isHeavier then
            let weight := linkWeight cells link
            cells.modify self fun c => { c with links := c.links.set i link, weight := weight }
          else cells
        else
          let cells := below.links.foldl (fun cells l => addLink a fuel cells old.below l) cells
          let weight := linkWeight cells link
          cells.modify self fun c => { c with weight := max c.weight weight }
      | none =>
        if linkLimit ≤ cells[self]!.links.length then cells
        else
          let nodes := below.nodes + (link.draft?.map (·.nodes a)).getD 0
          let weight := linkWeight cells link
          cells.modify self fun c =>
            { c with
              links := c.links ++ [link]
              nodes := max c.nodes nodes
              weight := max c.weight weight }

/-- Whether two readings have come to the same state at the same place and price. -/
def canMerge (r : Reader) (v w : Nat) : Bool :=
  let x := r.top v
  let y := r.top w
  (r.head v).status = .active && (r.head w).status = .active && x.state == y.state
    && x.place.bytes == y.place.bytes && x.cost == y.cost

/-- **Lets one reading go on for two.** -/
def merge (a : Automaton) (r : Reader) (v w : Nat) : Reader :=
  let self := (r.head v).cell
  let links := (r.top w).links
  match r with
  | ⟨cells, heads, finished?, arrivals⟩ =>
    let depth := cells.size
    let cells := links.foldl (fun cells l => addLink a depth cells self l) cells
    let nodes := cells[self]!.nodes
    let isLost := cells[self]!.state = Automaton.lost
    let heads := heads.modify v fun h => if isLost then { h with mark := nodes } else h
    ⟨cells, heads.eraseIdx! w, finished?, arrivals⟩

/-- Joins a reading with the first of several others that it can be joined with. The answer is
whether there was one. -/
def mergeWithAny (a : Automaton) (r : Reader) (others : List Nat) (w : Nat) : Reader × Bool :=
  match others.find? (r.canMerge · w) with
  | some v => (r.merge a v w, true)
  | none => (r, false)

/-- Puts one reading in the place of another. -/
def rename (r : Reader) (v w : Nat) : Reader :=
  if v = w then r
  else
    let h := r.head v
    let anchors := h.anchors?.or (r.head w).anchors?
    { r with heads := (r.heads.set! w { h with anchors? := anchors }).eraseIdx! v }

/-! ## Ways down a stack -/

/-- **A way down a stack**: the cell it has come to, and what lies above. -/
structure Walk where
  cell : Nat
  /-- The drafts on the way, the lowest first. -/
  drafts : List Draft
  /-- How many of them are no extras. -/
  depth : Nat
  deriving Inhabited

/-- What to do with a way down: whether to take what lies above it as a **slice**, and whether to
end. -/
structure Verdict where
  takes : Bool
  ends : Bool

/-- The drafts that were taken off a stack, with the reading that is left. -/
structure Slice where
  head : Nat
  drafts : List Draft
  deriving Inhabited

/-- The way one link further down. -/
def Walk.down (w : Walk) (l : Link) : Walk :=
  match l.draft? with
  | some d => ⟨l.below, d :: w.drafts, if d.info.isExtra then w.depth else w.depth + 1⟩
  | none => ⟨l.below, w.drafts, w.depth + 1⟩

/-- Records a slice. Slices with the same cell below are kept together and share a reading, which is
added for the first of them and is like the reading that they are taken from. -/
def addSlice (v : Nat) (w : Walk) (r : Reader) (slices : List Slice) : Reader × List Slice :=
  let isHere (s : Slice) : Bool := (r.head s.head).cell == w.cell
  match slices.reverse.find? isHere with
  | some s =>
    let after := (slices.reverse.takeWhile (!isHere ·)).reverse
    (r, slices.take (slices.length - after.length) ++ ⟨s.head, w.drafts⟩ :: after)
  | none =>
    (r.addHead ⟨w.cell, (r.head v).mark, .active, none, none⟩,
      slices ++ [⟨r.heads.size, w.drafts⟩])

/-- **Takes every way one link down.** `going` are the ways that go on along their first link,
`begun` those along other links. -/
def walkRound {σ : Type} (v : Nat) (judge : Reader → σ → Walk → Verdict × σ) :
    (walks going begun : List Walk) → Reader × List Slice × σ →
      List Walk × (Reader × List Slice × σ)
  | [], going, begun, state => (going.reverse ++ begun.reverse, state)
  | w :: rest, going, begun, (r, slices, s) =>
    let links := r.cells[w.cell]!.links
    let (verdict, s) := judge r s w
    let (r, slices) := if verdict.takes then addSlice v w r slices else (r, slices)
    match links with
    | [] => walkRound v judge rest going begun (r, slices, s)
    | l :: others =>
      if verdict.ends then walkRound v judge rest going begun (r, slices, s)
      else
        let room := walkLimit - (rest.length + 1 + going.length + begun.length)
        let more := (others.take room).map w.down
        walkRound v judge rest (w.down l :: going) (more.reverse ++ begun) (r, slices, s)

/-- Walks until all ways have ended. `fuel` bounds how far. -/
def walkFrom {σ : Type} (v : Nat) (judge : Reader → σ → Walk → Verdict × σ) :
    (fuel : Nat) → List Walk → Reader × List Slice × σ → Reader × List Slice × σ
  | 0, _, state => state
  | _, [], state => state
  | fuel + 1, walks, state =>
    let (walks, state) := walkRound v judge walks [] [] state
    walkFrom v judge fuel walks state

/-- **Walks down the stack of a reading.** -/
def walk {σ : Type} (r : Reader) (v : Nat) (judge : Reader → σ → Walk → Verdict × σ) (s : σ) :
    Reader × List Slice × σ :=
  walkFrom v judge (r.cells.size + 1) [⟨(r.head v).cell, [], 0⟩] (r, [], s)

/-- **Takes so many drafts off a stack**, in every possible way. -/
def pop (r : Reader) (v count : Nat) : Reader × List Slice :=
  let (r, slices, _) := r.walk v (fun _ s w =>
    (if w.depth = count then ⟨true, true⟩ else ⟨false, false⟩, s)) ()
  (r, slices)

/-- Takes all drafts off a stack. -/
def popAll (r : Reader) (v : Nat) : Reader × List Slice :=
  let (r, slices, _) := r.walk v (fun r s w =>
    (if r.cells[w.cell]!.links.isEmpty then ⟨true, true⟩ else ⟨false, false⟩, s)) ()
  (r, slices)

/-- **Takes an error off the top of a stack**, if there is one, and gives its draft. -/
def popError (r : Reader) (v : Nat) : Reader × Option Draft :=
  let isError (d : Draft) : Bool := d.info.label = .error
  if (r.top v).links.any fun l => l.draft?.any isError then
    let (r, slices, _) := r.walk v (fun _ found w =>
      match w.drafts with
      | [] => (⟨false, false⟩, found)
      | d :: _ =>
        if !found && isError d then (⟨true, true⟩, true) else (⟨false, true⟩, found)) false
    match slices with
    | s :: _ => (r.rename s.head v, s.drafts.head?)
    | [] => (r, none)
  else (r, none)

/-- Whether a way is deeper than every anchor or has an anchor of its own. -/
def isAnchored (anchors : List Anchor) (depth state : Nat) : Bool :=
  (anchors.takeWhile fun e => depth ≤ e.depth).any fun e => e.depth == depth && e.state == state

/-- **The places a reading may go back to**, the nearest first. `limit` is the greatest depth. -/
def anchors (r : Reader) (v limit : Nat) : List Anchor :=
  let (_, _, found) := r.walk v (fun r found w =>
    let c := r.cells[w.cell]!
    if limit < w.depth then (⟨false, true⟩, found)
    else if isAnchored found w.depth c.state then (⟨false, false⟩, found)
    else (⟨false, false⟩, ⟨c.place, w.depth, c.state⟩ :: found)) ([] : List Anchor)
  found.reverse

end Reader

end NullFlow.C
