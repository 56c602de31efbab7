import NullFlow.Command.Run
import Std.Time.DateTime

/-!
# The program

Runs a command on the machine: the files are those of the file system, C is parsed by the automaton
of its grammar, durations are measured by the clock, and what the command answers is printed.
Everything else is decided by `NullFlow.Command.execute`.
-/

namespace NullFlow.Machine

/-- A run on the machine, which collects metrics. -/
abbrev Run := StateT Metrics IO

/-- **Why the machine refused a file.** -/
def faultOf : IO.Error → ReadFault
  | .noFileOrDirectory .. => .missing
  | .inappropriateType .. => .notDirectory
  | .permissionDenied .. => .denied
  | e => .other (toString e)

/-- What the machine answers, or why it refuses. -/
def answer {α : Type} (action : IO α) : IO (Except ReadFault α) := do
  match ← action.toBaseIO with
  | .ok a => return .ok a
  | .error e => return .error (faultOf e)

/-- What stands at a path, behind links. No path is empty. -/
def status (path : String) : IO (Except ReadFault Status) := do
  if path.isEmpty then return .error .missing
  answer do
    let data ← ((← IO.currentDir) / path).metadata
    return match data.type with
      | .dir => .directory
      | .file => .file data.byteSize.toNat
      | _ => .special

/-- The bytes of a file. -/
def read (path : String) : IO (Except ReadFault (List UInt8)) := do
  match ← status path with
  | .error e => return .error e
  | .ok .directory => return .error .isDirectory
  | .ok _ => answer do return (← IO.FS.readBinFile path).toList

/-- A step of a walk that comes to a path. -/
def reach {α : Type} (path : String) (action : IO (Except ReadFault α)) : ExceptT WalkFault IO α :=
  ExceptT.adapt (.unreadable path) (ExceptT.mk action)

/-- The regular files below a directory, with the names that lead there. Links are followed, but not
back to a directory that the walk is in; `above` lists these by where they really are. -/
partial def filesBelow (path : String) (above : List (String × String)) :
    ExceptT WalkFault IO (List (List String)) := do
  let real ← reach path (answer do
    return (← IO.FS.realPath ((← IO.currentDir) / path)).toString)
  if let some ancestor := above.lookup real then throw (.loop path ancestor)
  let entries ← reach path (answer do ((← IO.currentDir) / path).readDir)
  let found ← entries.toList.mapM fun entry => do
    let below := Path.join path entry.fileName
    match ← reach below (status below) with
    | .directory =>
      return (← filesBelow below ((real, path) :: above)).map (entry.fileName :: ·)
    | .file _ => return [[entry.fileName]]
    | .special => return []
  return found.flatten

/-- A number in decimal, with zeros in front up to the given width. -/
def padded (width : Nat) (n : Int) : String :=
  let digits := toString n
  "".pushn '0' (width - digits.length) ++ digits

/-- The time of day in Greenwich, in the format of RFC 3339. -/
def timeOfDay : IO String := do
  let now := Std.Time.PlainDateTime.ofWallTime (.ofTimestamp (← Std.Time.Timestamp.now) .zero)
  let date := "-".intercalate
    [padded 4 now.year.toInt, padded 2 now.month.val, padded 2 now.day.val]
  let time := ":".intercalate
    [padded 2 now.hour.val, padded 2 now.minute.val, padded 2 now.second.val]
  return date ++ "T" ++ time ++ "." ++ padded 9 now.nanosecond.val ++ "+00:00"

instance : World Run where
  status path := status path
  read path := read path
  filesBelow path := (filesBelow path []).run
  -- the parsing is a step of its own, so that its time is measured
  parse text := pure () >>= fun _ => pure (C.Source.parse text)
  timed work := do
    let start ← IO.monoNanosNow
    let result ← work
    return (result, (← IO.monoNanosNow) - start)
  changeMetrics := modify
  now := timeOfDay

/-- The user's own configuration. -/
def userConfig? : IO (Option String) := do
  return ConfigSources.ownPath? (← IO.getEnv "XDG_CONFIG_HOME") (← IO.getEnv "HOME")

/-- The variables of the environment that a configuration looks up. -/
def environment : IO (List (String × String)) :=
  Config.variableNames.filterMapM fun name => do return (← IO.getEnv name).map (name, ·)

end NullFlow.Machine

open NullFlow in
/-- **Runs the program.** -/
def main (words : List String) : IO UInt32 := do
  let start ← IO.monoMsNow
  let environment ← Machine.environment
  let run : Machine.Run Command.Outcome :=
    Command.execute words (← Machine.userConfig?) fun name => List.lookup name environment
  let (outcome, metrics) ← run.run {}
  IO.print outcome.output
  (← IO.getStdout).flush
  IO.eprint (outcome.notice metrics ((← IO.monoMsNow) - start))
  return outcome.exit.toUInt32
