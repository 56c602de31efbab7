import NullFlow.Analysis.Nullness
import NullFlow.Analysis.Summary
import NullFlow.Graph.OfFunction

/-!
# Checking

Runs the two analyses on the graphs of a source file and lists what they find, sorted and without
repetitions.
-/

namespace NullFlow

/-- **What to check.** -/
structure CheckOptions where
  /-- Whether calls to functions of the same file are looked into. -/
  interprocedural : Bool := true
  /-- Names that stand for null besides `NULL` and `nullptr`. -/
  nullNames : List String := []
  /-- The categories to report; an empty list stands for all. -/
  categories : List Category := []
  deriving DecidableEq, Repr

namespace CheckOptions

/-- Whether a category is reported. -/
def enables (o : CheckOptions) (c : Category) : Bool :=
  o.categories.isEmpty || o.categories.contains c

/-- What is known about the functions of the graphs. -/
def summaries (o : CheckOptions) (graphs : List Graph) : Summaries :=
  if o.interprocedural then .compute graphs else .none

/-- **The findings in one graph**, as the analyses make them. -/
def findingsIn (o : CheckOptions) (known : Summaries) (g : Graph) : List Finding :=
  (if o.enables .forwardNull then (ForwardNull.analysis known g).collect g else [])
    ++ (if o.enables .reverseNull then (MustDeref.analysis known g).collect g else [])

/-- **The findings in the graphs of a file.** -/
def check (o : CheckOptions) (graphs : List Graph) : List Finding :=
  let known := o.summaries graphs
  Finding.distinct (Finding.sort (graphs.flatMap (o.findingsIn known)))

/-- The findings in a source file. -/
def checkSource (o : CheckOptions) (s : C.Source) (file : String) : List Finding :=
  o.check (s.graphs file o.nullNames)

end CheckOptions

end NullFlow
