import NullFlow.Suite.Basic

/-!
# Problems of fixtures

A fixture has to be valid C, it has to show the defect of its category, a defect has to be found on
every line that its author marked, and it has to agree with the manifest. Whatever is wrong with it
is listed, in this order; files of the manifest that are not in the suite come last.
-/

namespace NullFlow

/-- **What is wrong with a fixture.** -/
inductive ProblemKind where
  | loadFailed (message : String)
  | syntaxError (line column : Nat) (detail : String)
  /-- No defect of the category is found. -/
  | noDefect (category : Category)
  | missedDefect (line : Nat) (message : String)
  | digestMismatch (expected actual : String)
  | notInManifest
  | missingFile
  deriving DecidableEq, Repr

/-- **Something that is wrong with a fixture.** -/
structure Problem where
  file : String
  kind : ProblemKind
  deriving DecidableEq, Repr

/-- The problem in words. -/
def Problem.summary (p : Problem) : String :=
  p.file ++ match p.kind with
    | .loadFailed message => ": cannot load: " ++ message
    | .syntaxError line column detail =>
      ":" ++ toString line ++ ":" ++ toString column ++ ": syntax error: " ++ detail
    | .noDefect category =>
      ": no " ++ category.checker ++ " finding; the fixture does not exhibit its defect"
    | .missedDefect line message =>
      ":" ++ toString line ++ ": annotated defect not found: " ++ message
    | .digestMismatch expected actual =>
      ": sha256 " ++ actual ++ " does not match manifest " ++ expected
    | .notInManifest => ": not listed in the manifest"
    | .missingFile => ": listed in the manifest but not found"

/-- **What is wrong with the fixtures of a suite.** -/
structure ValidationReport where
  /-- The number of fixtures. -/
  checked : Nat
  problems : List Problem
  deriving DecidableEq, Repr

/-- Whether nothing is wrong. -/
def ValidationReport.isClean (r : ValidationReport) : Bool := r.problems.isEmpty

namespace Examination

/-- The places where the fixture is not valid C. -/
def syntaxProblems (a : Examination) : List ProblemKind :=
  a.fixture.source.issues.map fun i => .syntaxError i.line i.column i.detail

/-- The defect that is not found. -/
def defectProblems (a : Examination) : List ProblemKind :=
  if a.findings.any (·.category == a.fixture.category) then []
  else [.noDefect a.fixture.category]

/-- The marks on lines without a finding. -/
def annotationProblems (a : Examination) : List ProblemKind :=
  (a.fixture.annotations.filter fun n => !a.findings.any (·.line == n.line)).map fun n =>
    .missedDefect n.line n.message

/-- Where the fixture disagrees with its entry in the manifest. -/
def manifestProblems (a : Examination) (entry : Option ManifestEntry) : List ProblemKind :=
  match entry with
  | none => [.notInManifest]
  | some e => match e.digest with
    | none => []
    | some digest =>
      if digest == a.fixture.digest then [] else [.digestMismatch digest a.fixture.digest]

end Examination

/-- **What is wrong with a file of a suite.** -/
def Attempt.problems (m : Manifest) (a : Attempt) : List Problem :=
  let kinds : List ProblemKind := match a.result with
    | .error e => [.loadFailed e.message]
    | .ok examined =>
      examined.syntaxProblems ++ examined.defectProblems ++ examined.annotationProblems
        ++ examined.manifestProblems (m.get? a.file)
  kinds.map (⟨a.file, ·⟩)

/-- **What is wrong with a suite.** -/
def Manifest.validate (m : Manifest) (attempts : List Attempt) : ValidationReport where
  checked := attempts.length
  problems := attempts.flatMap (·.problems m)
    ++ (m.absentFrom attempts).map fun file => ⟨file, .missingFile⟩

end NullFlow
