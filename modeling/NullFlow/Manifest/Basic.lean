import NullFlow.Finding
import Std.Data.ExtTreeMap

/-!
# Manifests

A manifest lists, for the fixtures of a suite, the findings that an analyzer must report. It is made
of tables, as they are written in a file: one for every fixture, with one for each expected finding.
`Manifest.ofTables` accepts them if every fixture has one table only, every category can be read and
every expected finding is on a line; of several faults the first in the order of the tables counts.

The expected findings of a fixture are kept in the order of `Expected.order`.
-/

namespace NullFlow

/-- **A finding that is expected.** -/
structure Expected where
  file : String
  function : String
  line : Nat
  category : Category
  deriving DecidableEq, Repr

namespace Expected

/-- **Whether a finding is the expected one**, whatever it says. -/
def isMetBy (e : Expected) (f : Finding) : Bool :=
  e.file == f.file && e.function == f.function && e.line == f.line && e.category == f.category

/-- The expected finding on one line. -/
def summary (e : Expected) : String :=
  e.file ++ ":" ++ toString e.line ++ ": " ++ e.category.checker ++ " in " ++ e.function

/-- **The order of expected findings**: by file, then function, then line, then category. -/
def order (e f : Expected) : Ordering :=
  (compare e.file f.file).then <| (compare e.function f.function).then <|
    (compare e.line f.line).then (compare e.category.rank f.category.rank)

/-- Sorts expected findings. -/
def sort (es : List Expected) : List Expected := es.mergeSort fun e f => (order e f).isLE

end Expected

/-- **A fixture of a manifest.** -/
structure ManifestEntry where
  file : String
  category : Category
  /-- The digest of the file, in small letters. -/
  digest : Option String
  expected : List Expected
  deriving DecidableEq, Repr

/-- **A manifest**: its fixtures by the names of their files. -/
structure Manifest where
  entries : Std.ExtTreeMap String ManifestEntry := ∅

/-- The table of an expected finding. Its category is that of the fixture if it has none. -/
structure ExpectedTable where
  function : String
  line : Nat
  category : Option String
  deriving DecidableEq, Repr

/-- The table of a fixture. -/
structure FixtureTable where
  file : String
  category : String
  digest : Option String
  expected : List ExpectedTable
  deriving DecidableEq, Repr

/-- **Why a manifest is refused.** -/
inductive ManifestFault where
  /-- The text is not made of tables of the right form. -/
  | malformed
  | duplicate (file : String)
  | unknownCategory (text : String)
  | lineZero (file function : String)
  deriving DecidableEq, Repr

/-- The fault in words; a text of the wrong form has none. -/
def ManifestFault.message : ManifestFault → String
  | .malformed => ""
  | .duplicate file => "duplicate entry for '" ++ file ++ "'"
  | .unknownCategory text => "unknown category '" ++ text ++ "'"
  | .lineZero file function => file ++ ": expectation for '" ++ function ++ "' has line 0"

namespace Manifest

/-- A category by the text that stands for it. -/
def category (text : String) : Except ManifestFault Category :=
  match Category.parse? text with
  | some c => .ok c
  | none => .error (.unknownCategory text)

/-- The finding that a table of a fixture expects. -/
def expected (file : String) (default : Category) (t : ExpectedTable) :
    Except ManifestFault Expected := do
  let c ← match t.category with
    | some text => category text
    | none => .ok default
  if t.line = 0 then .error (.lineZero file t.function)
  else .ok ⟨file, t.function, t.line, c⟩

/-- The entry that a table describes. -/
def entry (t : FixtureTable) : Except ManifestFault ManifestEntry := do
  let c ← category t.category
  let es ← t.expected.mapM (expected t.file c)
  .ok ⟨t.file, c, t.digest.map fun d => String.ofList (d.toList.map Char.toLower), Expected.sort es⟩

/-- **Adds the entry of a table**, whose file must be new. -/
def add (m : Manifest) (t : FixtureTable) : Except ManifestFault Manifest := do
  if t.file ∈ m.entries then .error (.duplicate t.file)
  else .ok { entries := m.entries.insert t.file (← entry t) }

/-- **The manifest that is made of tables.** -/
def ofTables (tables : List FixtureTable) : Except ManifestFault Manifest := tables.foldlM add {}

/-- The entry of a file. -/
def get? (m : Manifest) (file : String) : Option ManifestEntry := m.entries[file]?

/-- The entries in the order of their files. -/
def toList (m : Manifest) : List ManifestEntry := m.entries.values

/-- The findings that are expected in a file; none are in a file without an entry. -/
def expectedIn (m : Manifest) (file : String) : List Expected :=
  ((m.get? file).map (·.expected)).getD []

end Manifest

end NullFlow
