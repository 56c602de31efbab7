import NullFlow.C.Reading.Stack

/-!
# Finishing constructs

When the text of a construct is complete, its parts are taken off the stack and put together to one
draft. Where several ways lead down the stack there are several drafts, of which the best is kept
for each cell that is reached. The readings that come of this are joined with others where possible.
-/

namespace NullFlow.C

namespace Reader

/-- Gathers slices that were taken by the same reading. -/
def bySource : List Slice → List (Nat × List (List Draft))
  | [] => []
  | s :: r =>
    match bySource r with
    | (v, all) :: others =>
      if v = s.head then (v, s.drafts :: all) :: others
      else (s.head, [s.drafts]) :: (v, all) :: others
    | [] => [(s.head, [s.drafts])]

/-- A finished construct with the extras that stood after it. -/
def construct (a : Automaton) (red : Reduction) (drafts : List Draft) : Draft × List Draft :=
  let (parts, extras) := Draft.splitExtras drafts
  (.ofParts a (.symbol (a.symbol red.head)) red.layout parts, extras)

/-- The best of several ways to put a construct together. -/
def best (a : Automaton) (red : Reduction) : List (List Draft) → Draft × List Draft
  | [] => (default, [])
  | first :: others =>
    others.foldl (fun (d, extras) drafts =>
      let (e, more) := construct a red drafts
      if d.isBeaten a e then (e, more) else (d, extras)) (construct a red first)

/-- Puts a finished construct and the extras after it on a stack. -/
def pushConstruct (a : Automaton) (r : Reader) (v : Nat) (red : Reduction)
    (found : Draft × List Draft) : Reader :=
  let state := a.next (r.top v).state (a.symbol red.head)
  let draft := found.1.modify fun i => { i with weight := i.weight + red.weight }
  found.2.foldl (fun r e => r.push a v (some e) state) (r.push a v (some draft) state)

/-- Finishes a construct for each reading that its parts were taken by. `removed` says how many
readings have been given up or joined before. -/
def finishAll (a : Automaton) (v : Nat) (red : Reduction) (limit : Nat) :
    List (Nat × List (List Draft)) → (removed : Nat) → Reader → Reader
  | [], _, r => r
  | (source, slices) :: rest, removed, r =>
    let here := source - removed
    if limit < here then finishAll a v red limit rest (removed + 1) (r.remove here)
    else
      let r := r.pushConstruct a here red (best a red slices)
      let (r, merged) := r.mergeWithAny a ((List.range here).filter (· != v)) here
      finishAll a v red limit rest (if merged then removed + 1 else removed) r

/-- **Finishes a construct.** The answer is the first reading that has come of it. -/
def reduce (a : Automaton) (r : Reader) (v : Nat) (red : Reduction) : Reader × Option Nat :=
  let before := r.heads.size
  let halted := (r.heads.filter (·.status = .halted)).size
  let (r, slices) := r.pop v red.count
  let r := r.finishAll a v red (headLimit + headReserve + halted) (bySource slices) 0
  (r, if before < r.heads.size then some before else none)

end Reader

end NullFlow.C
