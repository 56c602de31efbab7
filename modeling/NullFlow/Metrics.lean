import NullFlow.Precision
import NullFlow.Report.Findings
import NullFlow.Total
import Std.Data.ExtTreeMap

/-!
# Metrics

How long the phases of a run took, and what was found in each fixture. Durations are in whole
microseconds. A percentile of some samples is the sample at the smallest place that leaves at most
the rest of them behind it.
-/

namespace NullFlow

/-- **The durations of one phase**, in the order in which they were measured. -/
structure Stats where
  samples : List Nat := []
  deriving DecidableEq, Repr

namespace Stats

/-- Durations are kept in 64 bits. -/
def limit : Nat := Nat.pow 2 64

/-- Adds a duration. -/
def record (s : Stats) (us : Nat) : Stats := ⟨s.samples ++ [us]⟩

/-- How many durations there are. -/
def count (s : Stats) : Nat := s.samples.length

/-- The sum of the durations. -/
def total (s : Stats) : Nat := NullFlow.total s.samples % limit

/-- The shortest duration; without any, the longest there could be. -/
def least (s : Stats) : Nat := s.samples.foldl min (limit - 1)

/-- The longest duration, zero without any. -/
def greatest (s : Stats) : Nat := s.samples.foldl max 0

/-- The average duration, zero without any. -/
def average (s : Stats) : Fraction :=
  if s.samples.isEmpty then ⟨0, 1⟩
  else (Fraction.rounded ⟨s.total, 1⟩).dividedBy (Fraction.rounded ⟨s.count, 1⟩)

/-- **The sample below which a percentage of the samples lies**, zero without any samples. -/
def percentile (s : Stats) (percent : Fraction) : Nat :=
  let place := ((percent.dividedBy ⟨100, 1⟩).times (Fraction.rounded ⟨s.count, 1⟩)).ceiling
  (s.samples.mergeSort.drop (min (place - 1) (s.count - 1))).headD 0

/-- The median. -/
def median (s : Stats) : Nat := s.percentile ⟨50, 1⟩

/-- The duration that all but a twentieth of the samples stay within. -/
def most (s : Stats) : Nat := s.percentile ⟨95, 1⟩

end Stats

/-- **What was found in a fixture**, and how long it took. -/
structure FixtureMetrics where
  file : String
  duration : Nat
  functions : Nat
  findings : Nat
  deriving DecidableEq, Repr

/-- **The metrics of a run.** -/
structure Metrics where
  phases : Std.ExtTreeMap String Stats := ∅
  /-- The fixtures in the order in which they were finished. -/
  fixtures : List FixtureMetrics := []

namespace Metrics

/-- What is known about a phase. -/
def phase? (m : Metrics) (name : String) : Option Stats := m.phases[name]?

/-- Adds the duration of a phase in microseconds. -/
def recordPhase (m : Metrics) (name : String) (us : Nat) : Metrics :=
  { m with phases := m.phases.insert name (((m.phase? name).getD {}).record us) }

/-- Adds the duration of a phase in nanoseconds; what is left after the last full microsecond does
not count. -/
def recordNanos (m : Metrics) (name : String) (ns : Nat) : Metrics := m.recordPhase name (ns / 1000)

/-- Adds what was found in a fixture. -/
def recordFixture (m : Metrics) (f : FixtureMetrics) : Metrics :=
  { m with fixtures := m.fixtures ++ [f] }

/-- The fixtures in the order of their files. -/
def fixtureList (m : Metrics) : List FixtureMetrics :=
  m.fixtures.mergeSort fun f g => (compare f.file g.file).isLE

/-- The row of a phase. -/
def phaseRow (name : String) (s : Stats) : String :=
  tableRow [name, toString s.count, s.average.decimal 2, toString s.median, toString s.most,
    toString s.least, toString s.greatest]

/-- The row of a fixture. -/
def fixtureRow (f : FixtureMetrics) : String :=
  tableRow [f.file, toString f.duration, toString f.functions, toString f.findings]

/-- The section about the phases. -/
def phaseSection (m : Metrics) : String :=
  "## Phases\n\n" ++
    if m.phases.isEmpty then "*No phases recorded.*\n\n"
    else
      tableRow ["Phase", "Count", "Avg (µs)", "P50 (µs)", "P95 (µs)", "Min (µs)", "Max (µs)"]
        ++ "|-------|-------|----------|----------|----------|----------|----------|\n"
        ++ String.join (m.phases.toList.map fun (name, s) => phaseRow name s) ++ "\n"

/-- The section about the fixtures, which is left out if there are none. -/
def fixtureSection (m : Metrics) : String :=
  if m.fixtures.isEmpty then ""
  else
    "## Fixtures\n\n" ++ tableRow ["File", "Time (µs)", "Functions", "Findings"]
      ++ "|------|-----------|-----------|----------|\n"
      ++ String.join (m.fixtureList.map fixtureRow)

/-- **The metrics as text**, with the duration of the whole run in milliseconds. -/
def report (m : Metrics) (elapsed : Nat) : String :=
  "# Analysis Metrics\n\n" ++ "**Wall time**: " ++ toString elapsed ++ "ms\n\n" ++ m.phaseSection
    ++ m.fixtureSection

open JsonValue (ofText ofNat ofFields)

/-- The object of a phase. -/
def phaseJson (s : Stats) : JsonValue :=
  ofFields [("avg_us", .number (s.average.decimal 6).toList), ("count", ofNat s.count),
    ("max_us", ofNat s.greatest), ("min_us", ofNat s.least), ("p50_us", ofNat s.median),
    ("p95_us", ofNat s.most), ("total_us", ofNat s.total)]

/-- The object of a fixture. -/
def fixtureJson (f : FixtureMetrics) : JsonValue :=
  ofFields [("analysis_us", ofNat f.duration), ("file", ofText f.file),
    ("finding_count", ofNat f.findings), ("function_count", ofNat f.functions)]

/-- **The metrics for other tools.** -/
def toJson (m : Metrics) (elapsed : Nat) : JsonValue :=
  ofFields [("elapsed_ms", ofNat elapsed),
    ("fixtures", JsonValue.ofList fixtureJson m.fixtureList),
    ("phases", ofFields (m.phases.toList.map fun (name, s) => (name, phaseJson s)))]

end Metrics

end NullFlow
