import NullFlow.Category
import NullFlow.Command.Options
import NullFlow.Format

/-!
# Commands

What a user can ask for on the command line, and how it is read. Some options may stand before the
name of the command as well as behind it; there the later one counts.
-/

namespace NullFlow.Command

/-- **A format of metrics.** -/
inductive MetricsFormat where
  | markdown
  | json
  deriving DecidableEq, Repr

/-- The format with a name. -/
def MetricsFormat.ofName? : String → Option MetricsFormat
  | "markdown" => some .markdown
  | "json" => some .json
  | _ => none

/-- The format with exactly this name. -/
def formatNamed? (text : String) : Option Format := Format.all.find? (·.name == text)

/-- **A command.** -/
inductive Task where
  /-- Lists the findings in files and directories. -/
  | check (paths : List String) (format : Option Format) (categories : List Category)
      (noInterprocedural : Bool)
  /-- Compares a suite with its manifest. -/
  | harness (suite manifest findings : Option String) (format : Option Format)
      (noInterprocedural : Bool)
  /-- Looks for problems of the fixtures of a suite. -/
  | validate (suite manifest : Option String) (format : Option Format)
  /-- Shows the graphs of a file. -/
  | cfg (file : String) (function : Option String) (dot : Bool)
  deriving DecidableEq, Repr

/-- **What is asked for.** -/
structure Arguments where
  config : Option String
  verbose : Bool
  metrics : Option MetricsFormat
  task : Task
  deriving DecidableEq, Repr

/-! ## Options -/

/-- Whether a text can be a path. -/
def isPath (text : String) : Bool := !text.isEmpty

/-- The options of all commands. -/
def commonSwitches : List Switch :=
  [{ name := "config", accepts := isPath },
   { name := "verbose", letter := some 'v', arity := .flag },
   { name := "metrics", arity := .attached "markdown"
     accepts := fun text => (MetricsFormat.ofName? text).isSome }]

/-- The option for the format of a report. -/
def formatSwitch : Switch :=
  { name := "format", accepts := fun text => (formatNamed? text).isSome }

/-- An option with a path. -/
def pathSwitch (name : String) : Switch := { name, accepts := isPath }

/-- The option not to look into calls. -/
def callsSwitch : Switch := { name := "no-interprocedural", arity := .flag }

/-- What stands before the name of a command. -/
def programUsage : Usage :=
  { switches := commonSwitches, hasVersion := true, endsAtOperand := true }

/-- The option for categories. -/
def categorySwitch : Switch :=
  { name := "category", repeats := true, accepts := fun text => (Category.parse? text).isSome }

/-- What stands behind the name of a command. -/
def usage? : String → Option Usage
  | "check" => some
    { switches := commonSwitches ++ [formatSwitch, categorySwitch, callsSwitch] }
  | "harness" => some
    { switches := commonSwitches ++ [pathSwitch "suite", pathSwitch "manifest",
        pathSwitch "findings", formatSwitch, callsSwitch]
      most := some 0 }
  | "validate" => some
    { switches := commonSwitches ++ [pathSwitch "suite", pathSwitch "manifest", formatSwitch]
      most := some 0 }
  | "cfg" => some
    { switches := commonSwitches ++ [{ name := "function" }, { name := "dot", arity := .flag }]
      most := some 1 }
  | _ => none

/-! ## Reading -/

/-- The command with a name, given what stands behind it. -/
def task? (name : String) (g : Given) : Option Task :=
  let format := (g.value? "format").bind formatNamed?
  match name, g.operands with
  | "check", path :: paths => some <| .check (path :: paths) format
      ((g.values "category").filterMap Category.parse?) (g.has "no-interprocedural")
  | "harness", [] => some <| .harness (g.value? "suite") (g.value? "manifest")
      (g.value? "findings") format (g.has "no-interprocedural")
  | "validate", [] => some <| .validate (g.value? "suite") (g.value? "manifest") format
  | "cfg", [file] => some <| .cfg file (g.value? "function") (g.has "dot")
  | _, _ => none

/-- **Reads a command line**, without the name of the program. -/
def Arguments.parse (words : List String) : Except Stop Arguments := do
  let (before, rest) ← programUsage.scan words {}
  match before.operands with
  | ["help"] => .error .help
  | [name] =>
    let some u := usage? name | .error .refused
    let (behind, _) ← u.scan rest {}
    let some task := task? name behind | .error .refused
    let common (option : String) := (behind.value? option).or (before.value? option)
    return {
      config := common "config"
      verbose := (common "verbose").isSome
      metrics := (common "metrics").bind MetricsFormat.ofName?
      task }
  | _ => .error .refused

end NullFlow.Command
