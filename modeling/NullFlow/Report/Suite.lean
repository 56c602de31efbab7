import NullFlow.Report.Findings
import NullFlow.Suite.Diff

/-!
# Reports of suites

`SuiteReport.render` writes what is reported about a suite in any format. For a defect database only
the findings themselves are of interest.
-/

namespace NullFlow

open JsonValue (ofText ofNat ofFields ofOption)

/-- The object of an expected finding. -/
def Expected.toJson (e : Expected) : JsonValue :=
  ofFields [("file", ofText e.file), ("function", ofText e.function), ("line", ofNat e.line),
    ("category", ofText e.category.label)]

/-- The object of a source of findings. -/
def FindingSource.toJson : FindingSource → JsonValue
  | .checkers => ofFields [("kind", ofText "oracle")]
  | .imported path => ofFields [("kind", ofText "imported"), ("path", ofText path)]

namespace FixtureResult

/-- The object of a fixture. -/
def toJson (r : FixtureResult) : JsonValue :=
  ofFields [("file", ofText r.file), ("category", ofOption (fun c => ofText c.label) r.category),
    ("findings", .ofList Finding.toJson r.findings), ("matched", .ofList Expected.toJson r.matched),
    ("missing", .ofList Expected.toJson r.missing),
    ("unexpected", .ofList Finding.toJson r.unexpected), ("error", ofOption ofText r.error)]

/-- How many findings were met, missing and unexpected. -/
def counts (r : FixtureResult) : List Nat :=
  [r.matched.length, r.missing.length, r.unexpected.length]

/-- A fixture as text. -/
def text (r : FixtureResult) : String :=
  asLine ((if r.passed then "PASS" else "FAIL") ++ " " ++ r.file ++ " ("
      ++ toString r.matched.length ++ " matched, " ++ toString r.missing.length ++ " missing, "
      ++ toString r.unexpected.length ++ " unexpected)")
    ++ String.join (r.error.toList.map fun e => asLine ("    error: " ++ e))
    ++ String.join (r.missing.map fun e => asLine ("    missing: " ++ e.summary))
    ++ String.join (r.unexpected.map fun f => asLine ("    unexpected: " ++ f.summary))

/-- The row of a fixture. -/
def markdownRow (r : FixtureResult) : String :=
  tableRow ([r.file, if r.passed then "pass" else "fail"] ++ r.counts.map toString)

/-- What does not agree with the manifest. -/
def mismatches (r : FixtureResult) : List String :=
  r.missing.map (fun e => "- missing: `" ++ e.summary ++ "`")
    ++ r.unexpected.map fun f => "- unexpected: `" ++ f.summary ++ "`"

end FixtureResult

namespace SuiteReport

/-- The object of a suite. -/
def toJson (r : SuiteReport) : JsonValue :=
  ofFields [("suite_dir", ofText r.directory), ("manifest", ofText r.manifest),
    ("source", r.source.toJson), ("fixtures", .ofList FixtureResult.toJson r.fixtures),
    ("orphaned", .ofList ofText r.orphaned)]

/-- The report for other tools, with the time at which it was made. -/
def json (r : SuiteReport) (time : String) : String :=
  (JsonValue.sortFields <| ofFields [("generated_at", ofText time), ("passed", .bool r.passed),
    ("matched", ofNat r.matchedCount), ("missing", ofNat r.missingCount),
    ("unexpected", ofNat r.unexpectedCount), ("report", r.toJson)]).print ++ "\n"

/-- The report as text. -/
def text (r : SuiteReport) : String :=
  String.join (r.fixtures.map (·.text))
    ++ String.join (r.orphaned.map fun file =>
      asLine ("FAIL " ++ file ++ " (listed in manifest, file not found)"))
    ++ "\n" ++ asLine ((if r.passed then "passed" else "FAILED") ++ ": "
      ++ toString r.fixtures.length ++ " fixture(s), " ++ toString r.matchedCount ++ " matched, "
      ++ toString r.missingCount ++ " missing, " ++ toString r.unexpectedCount ++ " unexpected")

/-- What does not agree with the manifest. -/
def mismatches (r : SuiteReport) : List String :=
  r.fixtures.flatMap (·.mismatches) ++ r.orphaned.map fun file => "- not found: `" ++ file ++ "`"

/-- The report as a page with tables. -/
def markdown (r : SuiteReport) : String :=
  "# Fixture Suite\n\n" ++ "**Result**: " ++ (if r.passed then "passed" else "failed") ++ "\n\n"
    ++ tableRow ["Fixture", "Status", "Matched", "Missing", "Unexpected"]
    ++ "|---------|--------|---------|---------|------------|\n"
    ++ String.join (r.fixtures.map (·.markdownRow))
    ++ if r.mismatches.isEmpty then ""
      else "\n## Mismatches\n\n" ++ String.join (r.mismatches.map asLine)

/-- **The report in any format.** -/
def render (r : SuiteReport) (format : Format) (time : String) : String :=
  match format with
  | .text => r.text
  | .json => r.json time
  | .markdown => r.markdown
  | .xml => Finding.listXml r.allFindings

end SuiteReport

end NullFlow
