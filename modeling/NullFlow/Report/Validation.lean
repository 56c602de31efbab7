import NullFlow.Report.Findings
import NullFlow.Suite.Validation

/-!
# Reports of problems

`ValidationReport.render` writes what is wrong with the fixtures of a suite in any format but that
of a defect database, which has no place for it.
-/

namespace NullFlow

open JsonValue (ofText ofNat ofFields)

namespace ProblemKind

/-- The fields of a kind of problems, its name first. -/
def fields : ProblemKind → List (String × JsonValue)
  | .loadFailed message => [("kind", ofText "load_failed"), ("message", ofText message)]
  | .syntaxError line column detail =>
    [("kind", ofText "syntax_error"), ("line", ofNat line), ("column", ofNat column),
      ("detail", ofText detail)]
  | .noDefect category => [("kind", ofText "no_defect"), ("category", ofText category.label)]
  | .missedDefect line message =>
    [("kind", ofText "unmatched_annotation"), ("line", ofNat line), ("message", ofText message)]
  | .digestMismatch expected actual =>
    [("kind", ofText "digest_mismatch"), ("expected", ofText expected), ("actual", ofText actual)]
  | .notInManifest => [("kind", ofText "not_in_manifest")]
  | .missingFile => [("kind", ofText "missing_file")]

end ProblemKind

/-- The object of a problem. -/
def Problem.toJson (p : Problem) : JsonValue :=
  ofFields [("file", ofText p.file), ("kind", ofFields p.kind.fields)]

namespace ValidationReport

/-- The object of a report. -/
def toJson (r : ValidationReport) : JsonValue :=
  ofFields [("fixtures_checked", ofNat r.checked), ("problems", .ofList Problem.toJson r.problems)]

/-- The report as text. -/
def text (r : ValidationReport) : String :=
  String.join (r.problems.map fun p => asLine p.summary)
    ++ asLine (toString r.checked ++ " fixture(s) checked, " ++ toString r.problems.length
      ++ " problem(s)")

/-- The report as a page. -/
def markdown (r : ValidationReport) : String :=
  "# Fixture Validation\n\n" ++ "Checked " ++ toString r.checked ++ " fixture(s).\n\n"
    ++ String.join (r.problems.map fun p => asLine ("- " ++ p.summary))
    ++ if r.isClean then "*No problems found.*\n" else ""

/-- **The report in a format**, none if there is no such report. -/
def render? (r : ValidationReport) : Format → Option String
  | .text => some r.text
  | .json => some (r.toJson.print ++ "\n")
  | .markdown => some r.markdown
  | .xml => none

end ValidationReport

end NullFlow
