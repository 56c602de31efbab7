import NullFlow.Analysis.MustDeref

/-!
# Summaries of functions

A function surely dereferences a pointer parameter if it never assigns to it and has dereferenced it
whenever it returns. Calls count as dereferences if the called function is known to dereference what
it is passed, so summaries are computed in **rounds**: the first knows nothing about any function,
and each following round knows what the one before it found. The rounds end when nothing new is
found, or after one more round than there are functions.
-/

namespace NullFlow

/-- The variables that any block of a graph assigns to. -/
def Graph.assignedVars (g : Graph) : Vars :=
  Std.ExtTreeSet.ofList <| g.facts.filterMap fun
    | .assign var _ _ => some var
    | _ => none

namespace Summaries

/-- **Whether a function surely dereferences a parameter**, given its states at the exits that
control reaches: there is such an exit, and the parameter was dereferenced at each. -/
def parameterDereferenced (exits : List DerefState) (assigned : Vars) (p : Parameter) : Bool :=
  p.isPointer && !exits.isEmpty && exits.all (·.contains p.name) && !assigned.contains p.name

/-- What a graph shows about the parameters of its function. -/
def ofGraph (known : Summaries) (g : Graph) : List Bool :=
  let exits := (MustDeref.analysis known g).exitStates g
  let assigned := g.assignedVars
  g.parameters.map (parameterDereferenced exits assigned)

/-- **One round**: what all graphs show, given what is known. Of several graphs of one function the
last counts. -/
def round (graphs : List Graph) (known : Summaries) : Summaries where
  functions := graphs.foldl (fun m g => m.insert g.function (known.ofGraph g)) ∅

/-- At most the given number of rounds, fewer if one finds nothing new. -/
def rounds (graphs : List Graph) : Nat → Summaries → Summaries
  | 0, known => known
  | n + 1, known =>
    let found := round graphs known
    if found = known then known else rounds graphs n found

/-- **The summaries of all functions.** -/
def compute (graphs : List Graph) : Summaries := rounds graphs (graphs.length + 1) none

end Summaries

end NullFlow
