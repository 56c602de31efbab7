import NullFlow.Command.Arguments
import NullFlow.Config.Load
import NullFlow.Graph.Dot
import NullFlow.Graph.Markdown
import NullFlow.Report.Suite
import NullFlow.Report.Validation
import NullFlow.Suite.Run

/-!
# Running a command

`Command.execute` runs the program: it reads the command line, loads the configuration and does what
is asked for. The outcome is what goes to the output and how the program ends: with zero if
everything is fine, with one if a suite is not as it should be or the run cannot go on, with two if
the command line is refused.
-/

namespace NullFlow.Command

/-- **How the program ends.** -/
structure Outcome where
  exit : Nat
  output : String := ""
  /-- Why the run could not go on. -/
  failure : Option Failure := none
  /-- The format in which metrics are asked for. -/
  metrics : Option MetricsFormat := none

/-- The program and its version. -/
def versionLine : String := "nullfix 0.3.0\n"

/-- How to use the program. -/
def helpText : String :=
  "Usage: nullfix [OPTIONS] <COMMAND>\n\n" ++
  "Commands:\n" ++
  "  check     Analyze C files or directories and print the findings\n" ++
  "  harness   Diff findings against the golden manifest\n" ++
  "  validate  Check that every fixture is valid C and exhibits its defect\n" ++
  "  cfg       Print the control flow graphs of a C file\n\n" ++
  "Options:\n" ++
  "      --config <CONFIG>      Configuration file\n" ++
  "  -v, --verbose              Enable verbose logging\n" ++
  "      --metrics[=<METRICS>]  Print timing metrics when done (markdown or json)\n" ++
  "  -h, --help                 Print help\n" ++
  "  -V, --version              Print version\n"

/-- **What is told besides the output**: why the run failed, how to use the program, or the metrics
of the run, which took the given number of milliseconds. -/
def Outcome.notice (o : Outcome) (metrics : Metrics) (elapsed : Nat) : String :=
  match o.failure, o.metrics with
  | some f, _ => f.report
  | none, some .markdown => asLine (metrics.report elapsed)
  | none, some .json => asLine (metrics.toJson elapsed).print
  | none, none => if o.exit == 2 then helpText else ""

/-- The format that is asked for, or else that of the configuration. -/
def chosenFormat (c : Config) (format : Option Format) : Except Failure Format :=
  match format with
  | some format => .ok format
  | none => match Format.parse? c.format with
    | some format => .ok format
    | none => .error (.unknownFormat c.format)

/-- How to run the suite that is asked for. -/
def suiteOptions (c : Config) (suite manifest : Option String) : SuiteOptions :=
  .ofConfig { c with suiteDir := suite.getD c.suiteDir, manifest := manifest.or c.manifest }

/-- The options with what is asked for: only these categories, and perhaps not to look into the
calls. -/
def narrowed (o : SuiteOptions) (categories : List Category) (noInterprocedural : Bool) :
    SuiteOptions :=
  let interprocedural := o.checks.interprocedural && !noInterprocedural
  { o with checks := { o.checks with categories, interprocedural } }

/-- The exit code of a command that tells whether something is as it should be. -/
def exitCode (isGood : Bool) : Nat := if isGood then 0 else 1

section

variable {m : Type → Type} [Monad m] [World m]

/-- **Does what is asked for.** -/
def Task.run (c : Config) : Task → ExceptT Failure m Outcome
  | .check paths format categories noInterprocedural => do
    let format ← ExceptT.mk (pure (chosenFormat c format))
    let findings ← (narrowed (.ofConfig c) categories noInterprocedural).checkPaths paths
    return { exit := 0, output := Finding.report format findings }
  | .harness suite manifest findings format noInterprocedural => do
    let format ← ExceptT.mk (pure (chosenFormat c format))
    let o := narrowed (suiteOptions c suite manifest) [] noInterprocedural
    let report ← SuiteOptions.run { o with findings }
    let time ← (World.now : m String)
    return { exit := exitCode report.passed, output := report.render format time }
  | .validate suite manifest format => do
    if format == some .xml then throw .validateAsXml
    let format ← ExceptT.mk (pure (chosenFormat c format))
    let report ← (suiteOptions c suite manifest).validate
    let some output := report.render? (if format == .xml then .text else format)
      | throw .noProblemsAsXml
    return { exit := exitCode report.isClean, output }
  | .cfg file function dot => do
    let bytes ← Fixture.readLimited file c.maxFileSize
    let source ← (World.parseBytes bytes : m C.Source)
    let graphs := (source.graphs file c.nullMacros).filter fun g => function.all (· == g.function)
    if graphs.isEmpty then
      throw <| match function with
        | some name => .noFunction name file
        | none => .noFunctions file
    let shown := graphs.map fun g => asLine (if dot then g.dot else g.markdown)
    return { exit := 0, output := String.join shown }

/-- Loads the configuration and does what is asked for. -/
def Arguments.run (a : Arguments) (userConfig : Option String) (lookup : String → Option String) :
    ExceptT Failure m Outcome := do
  let sources : ConfigSources := { explicit := a.config, userConfig }
  let config ← ExceptT.adapt .loadingConfig (sources.load lookup)
  return { ← a.task.run config with metrics := a.metrics }

/-- **Runs the program** with the words of its command line, the path of the user's own
configuration, and a way to look up variables of the environment. -/
def execute (words : List String) (userConfig : Option String) (lookup : String → Option String) :
    m Outcome := do
  match Arguments.parse words with
  | .error .refused => return { exit := 2 }
  | .error .help => return { exit := 0, output := helpText }
  | .error .version => return { exit := 0, output := versionLine }
  | .ok a => match ← (a.run userConfig lookup).run with
    | .error f => return { exit := 1, failure := some f }
    | .ok outcome => return outcome

end

end NullFlow.Command
