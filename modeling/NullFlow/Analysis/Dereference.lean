import NullFlow.Graph.Basic
import Std.Data.ExtTreeSet

/-!
# Dereferences, direct and through calls

A function that dereferences a parameter on every way through it dereferences the argument of every
call to it. `Summaries` says which parameters of which functions are dereferenced so; with it, a
call is as good as a dereference of the variables it passes.
-/

namespace NullFlow

/-- **What is known about functions**: for each, which of its named parameters it surely
dereferences. Nothing is known about a function that is not listed. -/
structure Summaries where
  functions : Std.ExtTreeMap String (List Bool) := ∅
  deriving DecidableEq

namespace Summaries

/-- No function is known. -/
def none : Summaries := {}

/-- **Whether a function surely dereferences its parameter** in the given position. -/
def derefsParameter (s : Summaries) (function : String) (index : Nat) : Bool :=
  ((s.functions[function]?).bind (·[index]?)).getD false

/-- The variables that a call passes in dereferenced positions, counted from the given one. -/
def dereferencedFrom (s : Summaries) (function : String) (index : Nat) :
    List (Option String) → List String
  | [] => []
  | some var :: r =>
    if s.derefsParameter function index then var :: s.dereferencedFrom function (index + 1) r
    else s.dereferencedFrom function (index + 1) r
  | Option.none :: r => s.dereferencedFrom function (index + 1) r

/-- **The variables that a call dereferences** through the function it calls. -/
def dereferenced (s : Summaries) (function : String) (args : List (Option String)) :
    List String := s.dereferencedFrom function 0 args

/-- Whether no function dereferences a parameter. -/
def isEmpty (s : Summaries) : Bool := s.functions.all fun _ parameters => !parameters.contains true

end Summaries

/-- **A dereference of a variable**, direct or by a function it is passed to. -/
structure Dereference where
  var : String
  line : Nat
  callee : Option String
  deriving DecidableEq, Repr

/-- **What a fact dereferences**, in order. -/
def Fact.dereferences (known : Summaries) : Fact → List Dereference
  | .deref var _ line => [⟨var, line, none⟩]
  | .call function args line =>
    (known.dereferenced function args).map fun var => ⟨var, line, some function⟩
  | .assign _ _ _ => []

/-- The variables that a fact mentions. -/
def Fact.vars : Fact → List String
  | .deref var _ _ => [var]
  | .call _ args _ => args.filterMap id
  | .assign var _ _ => [var]

/-- The line of a fact. -/
def Fact.line : Fact → Nat
  | .deref _ _ line => line
  | .call _ _ line => line
  | .assign _ _ line => line

namespace Graph

/-- The facts of all blocks. -/
def facts (g : Graph) : List Fact := g.blockList.flatMap (·.facts)

/-- The variables that a block mentions, in its facts or in its condition. -/
def blockVars (b : Block) : List String :=
  b.facts.flatMap (·.vars) ++ match b.terminator with
    | .branch _ _ test => test.testedVars.toList
    | _ => []

/-- **The variables that a graph mentions.** -/
def vars (g : Graph) : Vars := Std.ExtTreeSet.ofList (g.blockList.flatMap blockVars)

/-- The lines on which a block assigns or tests. -/
def blockLines (b : Block) : List Nat :=
  b.facts.map (·.line) ++ match b.terminator with
    | .branch _ line _ => [line]
    | _ => []

/-- **The last line that a graph mentions.** -/
def lastLine (g : Graph) : Nat := (g.blockList.flatMap blockLines).foldl max 0

end Graph

end NullFlow
