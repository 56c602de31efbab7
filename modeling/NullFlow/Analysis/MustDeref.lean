import NullFlow.Analysis.Dereference
import NullFlow.Analysis.Solver
import NullFlow.Finding

/-!
# Certain dereferences

Follows which variables have been dereferenced on every way to a point and not been assigned to
since. A condition that then tests such a variable comes too late, and that is a defect.

For each variable the **site** of a dereference is kept, to explain the finding. Joining keeps the
variables that both sides have, each with the site on the earlier line, so a state can only shrink
or move its sites to earlier lines. `DerefState.rank` counts how far.
-/

namespace NullFlow

/-- **Where a variable was dereferenced**, and by which function if it was passed to one. -/
structure DerefSite where
  line : Nat
  callee : Option String
  deriving DecidableEq, Repr

/-- The site on the earlier line, the first of two on the same line. -/
def DerefSite.earliest (a b : DerefSite) : DerefSite := if a.line ≤ b.line then a else b

/-- **The variables that were dereferenced** on every way to a point. -/
abbrev DerefState := Std.ExtTreeMap String DerefSite

namespace DerefState

/-- **The variables that were dereferenced on both ways.** -/
def join (s t : DerefState) : DerefState :=
  s.filterMap fun v a => (t[v]?).map a.earliest

/-- How far a state may still move: each variable counts for one and for its line. -/
def rank (s : DerefState) : Nat := total (s.toList.map fun p => p.2.line + 1)

/-- Records a dereference, unless one of the same variable is known. -/
def record (s : DerefState) (d : Dereference) : DerefState :=
  s.insertIfNew d.var ⟨d.line, d.callee⟩

/-- **The variables that were dereferenced once a fact is past.** -/
def after (known : Summaries) (s : DerefState) (f : Fact) : DerefState :=
  match f with
  | .assign var _ _ => s.erase var
  | f => (f.dereferences known).foldl record s

/-- The same for several facts in a row. -/
def afterAll (known : Summaries) (s : DerefState) (fs : List Fact) : DerefState :=
  fs.foldl (after known) s

end DerefState

namespace MustDeref

/-- How the dereference before the check is described. -/
def siteText (var : String) (site : DerefSite) : String :=
  match site.callee with
  | some callee => "Passing \"" ++ var ++ "\" to \"" ++ callee ++ "\", which dereferences it."
  | none => "Directly dereferencing pointer \"" ++ var ++ "\"."

/-- How the check is described. -/
def checkText (var : String) : String :=
  "Null-checking \"" ++ var
    ++ "\" suggests that it may be null, "
    ++ "but it has already been dereferenced on all paths leading to the check."

/-- **The finding** for a variable that is tested after it was dereferenced. -/
def finding (g : Graph) (line : Nat) (var : String) (site : DerefSite) : Finding where
  file := g.file
  function := g.function
  line := line
  category := .reverseNull
  message := checkText var
  events :=
    [⟨.derefBeforeCheck, site.line, siteText var site, false⟩,
     ⟨.nullCheck, line, checkText var, true⟩]

/-- **The findings at the end of a block**: one for each variable that its condition tests and that
was dereferenced before. -/
def conditionFindings (g : Graph) (b : Block) (s : DerefState) : List Finding :=
  match b.terminator with
  | .branch _ line test =>
    test.testedVars.toList.filterMap fun v => (s[v]?).map (finding g line v)
  | _ => []

/-- **The analysis of certain dereferences in a graph.** -/
def analysis (known : Summaries) (g : Graph) : Analysis DerefState Finding where
  entry := ∅
  join := DerefState.join
  transfer b s := s.afterAll known b.facts
  reports b s := conditionFindings g b (s.afterAll known b.facts)
  refine _ _ s := some s
  rank := DerefState.rank

end MustDeref

end NullFlow
