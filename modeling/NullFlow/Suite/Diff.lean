import NullFlow.Suite.Basic
import NullFlow.Total

/-!
# Comparing a suite with its manifest

The findings in a fixture are held against those that are expected in it, one to one (`diff`): an
expected finding takes the first finding that meets it and has not been taken. A suite **passes** if
every fixture can be loaded, nothing is missing, nothing is unexpected, and every file of the
manifest is there.

The findings may be those of another analyser. They are attributed to a fixture by the end of their
path (`sameFile`).
-/

namespace NullFlow

/-- **The outcome of a comparison.** -/
structure Diff where
  matched : List Expected := []
  missing : List Expected := []
  unexpected : List Finding := []
  deriving DecidableEq, Repr

/-- **Holds findings against those that are expected.** -/
def diff : List Expected → List Finding → Diff
  | [], findings => { unexpected := findings }
  | e :: more, findings =>
    if findings.any e.isMetBy then
      let rest := diff more (findings.eraseP e.isMetBy)
      { rest with matched := e :: rest.matched }
    else
      let rest := diff more findings
      { rest with missing := e :: rest.missing }

/-- **Whether the file of a finding is that of a fixture**: its path is or ends in the name. -/
def sameFile (path file : String) : Bool :=
  let path := (Path.withSlashes path).toList
  path == file.toList || ('/' :: file.toList).isSuffixOf path

/-- The findings that belong to a file, under its name. -/
def attributed (findings : List Finding) (file : String) : List Finding :=
  (findings.filter fun f => sameFile f.file file).map fun f => { f with file := file }

/-- **What is reported about a fixture.** -/
structure FixtureResult where
  file : String
  /-- Its category, unless it could not be loaded. -/
  category : Option Category
  /-- All findings in it. -/
  findings : List Finding
  matched : List Expected
  missing : List Expected
  unexpected : List Finding
  /-- Why it could not be loaded. -/
  error : Option String
  deriving DecidableEq, Repr

/-- Whether everything is as expected. -/
def FixtureResult.passed (r : FixtureResult) : Bool :=
  r.error.isNone && r.missing.isEmpty && r.unexpected.isEmpty

/-- **Where findings come from.** -/
inductive FindingSource where
  /-- The own checkers. -/
  | checkers
  /-- A file. -/
  | imported (path : String)
  deriving DecidableEq, Repr

/-- **What is reported about a suite.** -/
structure SuiteReport where
  directory : String
  manifest : String
  source : FindingSource
  fixtures : List FixtureResult
  /-- The files of the manifest that are not in the suite. -/
  orphaned : List String
  deriving DecidableEq, Repr

namespace SuiteReport

/-- **Whether the suite agrees with its manifest.** -/
def passed (r : SuiteReport) : Bool := r.orphaned.isEmpty && r.fixtures.all (·.passed)

/-- How many expected findings were met. -/
def matchedCount (r : SuiteReport) : Nat := total (r.fixtures.map (·.matched.length))

/-- How many expected findings were not met. -/
def missingCount (r : SuiteReport) : Nat := total (r.fixtures.map (·.missing.length))

/-- How many findings were not expected. -/
def unexpectedCount (r : SuiteReport) : Nat := total (r.fixtures.map (·.unexpected.length))

/-- **All findings**, expected or not. -/
def allFindings (r : SuiteReport) : List Finding := r.fixtures.flatMap (·.findings)

end SuiteReport

/-- **What to report about a file of a suite**, given the findings of another analyser if they take
the place of the own ones. -/
def Attempt.report (m : Manifest) (imported : Option (List Finding)) (a : Attempt) :
    FixtureResult :=
  let expected := m.expectedIn a.file
  match a.result with
  | .error e => {
      file := a.file
      category := none
      findings := []
      matched := []
      missing := expected
      unexpected := []
      error := some e.message }
  | .ok examined =>
    let findings := Finding.sort <| match imported with
      | some all => attributed all a.file
      | none => examined.findings
    let d := diff expected findings
    { file := a.file
      category := some examined.fixture.category
      findings
      matched := d.matched
      missing := d.missing
      unexpected := d.unexpected
      error := none }

/-- **The report of a suite.** -/
def SuiteOptions.report (o : SuiteOptions) (m : Manifest) (imported : Option (List Finding))
    (attempts : List Attempt) : SuiteReport where
  directory := o.directory
  manifest := o.manifest
  source := match o.findings with
    | some path => .imported path
    | none => .checkers
  fixtures := attempts.map (·.report m imported)
  orphaned := m.absentFrom attempts

end NullFlow
