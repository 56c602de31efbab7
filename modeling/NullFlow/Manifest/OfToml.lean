import NullFlow.Manifest.Basic
import NullFlow.Toml.Document

/-!
# Manifests as text

A manifest is written in TOML. `fixture` holds the tables of the fixtures, and `expect` in each of
them those of the expected findings. Other keys are of no consequence.
-/

namespace NullFlow

/-- The table of an expected finding. -/
def ExpectedTable.ofToml? (v : TomlValue) : Option ExpectedTable := do
  let [function, line, category] ← v.record? ["function", "line", "category"] | none
  return {
    function := ← (← function).text?
    line := ← (← line).nat?
    category := ← match category with
      | some c => c.text?.map some
      | none => some none }

/-- The table of a fixture. -/
def FixtureTable.ofToml? (v : TomlValue) : Option FixtureTable := do
  let [file, category, digest, expected] ← v.record? ["file", "category", "sha256", "expect"] | none
  return {
    file := ← (← file).text?
    category := ← (← category).text?
    digest := ← match digest with
      | some d => d.text?.map some
      | none => some none
    expected := ← match expected with
      | some l => l.list?.bind (·.mapM ExpectedTable.ofToml?)
      | none => some [] }

namespace Manifest

/-- The tables in a text. -/
def tablesOf? (text : String) : Option (List FixtureTable) := do
  let [fixtures] ← (← Toml.read? text).record? ["fixture"] | none
  match fixtures with
  | some l => l.list?.bind (·.mapM FixtureTable.ofToml?)
  | none => some []

/-- **Reads a manifest.** -/
def parse (text : String) : Except ManifestFault Manifest :=
  match tablesOf? text with
  | some tables => ofTables tables
  | none => .error .malformed

end Manifest

end NullFlow
