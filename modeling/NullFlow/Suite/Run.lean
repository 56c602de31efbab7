import NullFlow.Finding.Json
import NullFlow.Manifest.OfToml
import NullFlow.Suite.Diff
import NullFlow.Suite.Validation

/-!
# Running a suite

The steps of a run that need the world: reading the manifest, finding the fixtures, loading and
examining each of them. What is reported in the end is a function of what came of the files
(`SuiteOptions.report`, `Manifest.validate`).
-/

namespace NullFlow

variable {m : Type → Type} [Monad m] [World m]

/-- **Loads a manifest.** -/
def Manifest.load (path : String) : ExceptT Failure m Manifest := do
  match ← World.readText (m := m) path with
  | .error fault => throw (.unreadable path fault)
  | .ok text => match Manifest.parse text with
    | .error fault => throw (.badManifest path fault)
    | .ok manifest => return manifest

/-- **Loads the findings of another analyser.** -/
def Finding.load (path : String) : ExceptT Failure m (List Finding) := do
  match ← World.readText (m := m) path with
  | .error fault => throw (.unreadable path fault)
  | .ok text => match Finding.listOfJson? text with
    | none => throw (.badFindings path)
    | some findings => return findings

/-- **The sources in a directory**, sorted by the names that lead to them. -/
def discover (directory : String) : ExceptT Failure m (List String) := do
  if !(← World.isDirectory (m := m) directory) then throw (.noSuite directory)
  let files ← ExceptT.adapt (.unwalkable directory) (.mk (World.filesBelow (m := m) directory))
  let sources := files.filter fun names => names.getLast?.any Path.isSourceName
  return (sources.mergeSort fun a b => (compare a b).isLE).map fun names =>
    Path.join directory (Path.ofParts names)

/-- Computes something as a phase of the run. -/
def computing {α : Type} (phase : String) (result : Unit → α) : m α :=
  World.during phase (pure () >>= fun u => pure (result u))

namespace SuiteOptions

/-- **Looks for defects in a fixture**, unless the findings come from elsewhere. -/
def examine (o : SuiteOptions) (f : Fixture) : m Examination := do
  if o.findings.isSome then return ⟨f, 0, []⟩
  let graphs ← computing "cfg" fun _ => f.source.graphs f.file o.checks.nullNames
  let findings ← computing "check" fun _ => o.checks.check graphs
  return ⟨f, graphs.length, findings⟩

/-- **Loads and examines a file of the suite.** -/
def attempt (o : SuiteOptions) (manifest : Manifest) (path : String) : m Attempt := do
  let file := Path.relativeName o.directory path
  let category := (manifest.get? file).map (·.category)
  let (result, ns) ← World.timed (do
    match ← World.during "load" (Fixture.load path file category o.maxFileSize).run with
    | .error e => return .error e
    | .ok fixture => return .ok (← o.examine fixture))
  if let .ok a := result then
    World.changeMetrics (·.recordFixture ⟨file, ns / 1000, a.functions, a.findings.length⟩)
  return ⟨file, result⟩

/-- Loads and examines files of the suite, in order. -/
def attempts (o : SuiteOptions) (manifest : Manifest) (paths : List String) : m (List Attempt) :=
  paths.mapM (o.attempt manifest)

/-- Loads the manifest of the suite. -/
def loadManifest (o : SuiteOptions) : ExceptT Failure m Manifest :=
  ExceptT.adapt (.loadingManifest o.manifest) (Manifest.load o.manifest)

/-- **Runs the suite** and compares it with its manifest. -/
def run (o : SuiteOptions) : ExceptT Failure m SuiteReport := do
  let manifest ← o.loadManifest
  let paths ← discover o.directory
  let imported ← match o.findings with
    | some path => some <$> Finding.load path
    | none => pure none
  return o.report manifest imported (← (o.attempts manifest paths : m (List Attempt)))

/-- **Looks for problems of the fixtures.** It always looks for defects itself. -/
def validate (o : SuiteOptions) : ExceptT Failure m ValidationReport := do
  let manifest ← o.loadManifest
  let paths ← discover o.directory
  let own := { o with findings := none }
  return manifest.validate (← (own.attempts manifest paths : m (List Attempt)))

/-- The findings in a file. -/
def checkFile (o : SuiteOptions) (path : String) : ExceptT Failure m (List Finding) := do
  let bytes ← Fixture.readLimited path o.maxFileSize
  let source ← (World.during "parse" (World.parseBytes bytes) : m C.Source)
  (computing "check" fun _ =>
    o.checks.checkSource source (Path.withSlashes path) : m (List Finding))

/-- **The findings in files and in the sources of directories**, sorted. -/
def checkPaths (o : SuiteOptions) (paths : List String) : ExceptT Failure m (List Finding) := do
  let files ← paths.flatMapM fun path => do
    if ← World.isDirectory (m := m) path then discover path else return [path]
  return Finding.sort (← files.flatMapM o.checkFile)

end SuiteOptions

end NullFlow
