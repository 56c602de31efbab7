import NullFlow.C.Automaton.State

/-!
# Shortcuts

In some states there is nothing to do but to rename the last symbol: a construct becomes an item of
the list it stands in, without a node or a role of its own. A step into such a state may as well go
to the state that comes after the renaming. `States.shorten` sends all steps there.
-/

namespace NullFlow.C

namespace State

/-- **The symbol to which the state renames the last one**, if it does nothing else. -/
def renaming? (s : State) (isPassing : Nat → Bool) : Option Nat :=
  let actions : List Action := s.actions.flatMap fun (_, l) => l.filter (· != .skip)
  match actions with
  | .reduce r :: _ =>
    if isPassing r.head && actions.all (· == .reduce ⟨r.head, 1, 0, 0⟩) then some r.head else none
  | _ => none

/-- Where a step from this state ends after all renamings. `fuel` bounds their number. -/
def settle (s : State) (renamings : Array (Option Nat)) : (fuel : Nat) → Nat → Nat
  | 0, target => target
  | fuel + 1, target =>
    match renamings[target]! with
    | some head =>
      match s.gotos.lookup head with
      | some next => s.settle renamings fuel next
      | none => target
    | none => target

end State

namespace Action

/-- Sends the steps of an action elsewhere. -/
def mapTarget (f : Nat → Nat) : Action → Action
  | shift target repeats => shift (f target) repeats
  | a => a

/-- Where the action leads. -/
def target? : Action → Option Nat
  | shift target _ => some target
  | _ => none

end Action

namespace States

/-- How many renamings may follow each other. -/
def renamingBound : Nat := 1000

/-- **Leaves out the states that only rename.** -/
def shorten (s : States) (isPassing : Nat → Bool) : States :=
  let renamings := s.states.map (·.renaming? isPassing)
  { s with states := s.states.map fun state =>
      let settle := state.settle renamings renamingBound
      { state with
        actions := state.actions.map fun (t, l) => (t, l.map (·.mapTarget settle))
        gotos := state.gotos.map fun (h, target) => (h, settle target) } }

end States

/-- Whether a symbol does nothing but pass on what stands for it. -/
def Numbering.isPassing (n : Numbering) (head : Nat) : Bool :=
  n.symbols[head]?.all (·.isPassing)

end NullFlow.C
