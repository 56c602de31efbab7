import NullFlow.Config.Basic
import NullFlow.Fixture

/-!
# Suites

A suite is a directory of fixtures with a manifest of the findings that are expected in them. To run
it, every fixture is loaded and examined; a fixture that cannot be loaded is no reason to leave out
the others, so what came of each one is kept as an `Attempt`.
-/

namespace NullFlow

/-- **How to run a suite.** -/
structure SuiteOptions where
  directory : String
  manifest : String
  /-- The size of the largest file that is read, in bytes. -/
  maxFileSize : Nat
  checks : CheckOptions := {}
  /-- Whether fixtures may be examined at the same time, which makes no difference to reports. -/
  parallel : Bool := false
  /-- The file with the findings of another analyser, which take the place of the own ones. -/
  findings : Option String := none
  deriving DecidableEq, Repr

/-- How to run the suite of a configuration. -/
def SuiteOptions.ofConfig (c : Config) : SuiteOptions where
  directory := c.suiteDir
  manifest := c.manifestPath
  maxFileSize := c.maxFileSize
  checks := c.checkOptions
  parallel := c.parallel

/-- **A fixture with what was found in it.** -/
structure Examination where
  fixture : Fixture
  /-- The number of its functions; they are not counted if the findings come from elsewhere. -/
  functions : Nat
  findings : List Finding

/-- **What came of a file of a suite.** -/
structure Attempt where
  file : String
  result : Except Failure Examination

/-- The files of the manifest that are not among those of the suite. -/
def Manifest.absentFrom (m : Manifest) (attempts : List Attempt) : List String :=
  (m.toList.map (·.file)).filter fun file => !attempts.any (·.file == file)

end NullFlow
