import NullFlow.C.Reading.Reduce

/-!
# Comparing readings

Readings compete. One that is lost yields to one that is not, and a costly one to a cheap one: the
further a reading has come since its last error, the sooner it drives out one that is worse. At the
same price the weight decides which of two is followed first.
-/

namespace NullFlow.C

/-- **How well a reading does.** -/
structure Score where
  cost : Nat
  /-- How many nodes have been read since the last error. -/
  progress : Nat
  weight : Int
  isLost : Bool
  deriving Inhabited

/-- **Which of two readings is better**, and whether the other one is still worth following. -/
inductive Ranking where
  | takeLeft
  | preferLeft
  | even
  | preferRight
  | takeRight
  deriving DecidableEq

namespace Score

/-- **Compares two readings.** -/
def rank (x y : Score) : Ranking :=
  if !x.isLost && y.isLost then if x.cost < y.cost then .takeLeft else .preferLeft
  else if x.isLost && !y.isLost then if y.cost < x.cost then .takeRight else .preferRight
  else if x.cost < y.cost then
    if (y.cost - x.cost) * (1 + x.progress) > Price.patience then .takeLeft else .preferLeft
  else if y.cost < x.cost then
    if (x.cost - y.cost) * (1 + y.progress) > Price.patience then .takeRight else .preferRight
  else if x.weight > y.weight then .preferLeft
  else if y.weight > x.weight then .preferRight
  else .even

end Score

namespace Reader

/-- **The price of a reading**: that of its errors, and of the one it is about to make. -/
def price (r : Reader) (v : Nat) : Nat :=
  let c := r.top v
  let isAstray := c.state = Automaton.lost && c.links.head?.any (·.draft?.isNone)
  c.cost + if (r.head v).status = .paused || isAstray then Price.error else 0

/-- Counts the progress of a reading from here on, if constructs were taken back since its last
error. -/
def lowerMark (r : Reader) (v : Nat) : Reader :=
  let nodes := (r.top v).nodes
  r.modifyHead v fun h => { h with mark := min h.mark nodes }

/-- How many nodes a reading has read since its last error. -/
def progress (r : Reader) (v : Nat) : Nat := (r.top v).nodes - (r.head v).mark

/-- How well a reading does. -/
def score (r : Reader) (v : Nat) : Score :=
  let isPaused := (r.head v).status = .paused
  ⟨r.price v + if isPaused then Price.tree else 0, r.progress v, (r.top v).weight,
    isPaused || (r.top v).state = Automaton.lost⟩

/-- Whether one of several readings is so good that another one is not worth following. -/
def isOutdoneBy (v : Nat) (s : Score) : List Nat → Reader → Bool × Reader
  | [], r => (false, r)
  | i :: rest, r =>
    if i = v || (r.head i).status != .active || (r.top i).place.bytes < (r.top v).place.bytes then
      isOutdoneBy v s rest r
    else
      let r := r.lowerMark i
      match s.rank (r.score i) with
      | .takeRight => (true, r)
      | .preferRight => if r.canMerge i v then (true, r) else isOutdoneBy v s rest r
      | _ => isOutdoneBy v s rest r

/-- **Whether a reading is not worth following at a price**, if it is not lost at that price. -/
def isOutdone (r : Reader) (v cost : Nat) : Bool × Reader :=
  if r.finished?.any (·.cost ≤ cost) then (true, r)
  else
    let r := r.lowerMark v
    isOutdoneBy v ⟨cost, r.progress v, (r.top v).weight, false⟩ (List.range r.heads.size) r

end Reader

end NullFlow.C
