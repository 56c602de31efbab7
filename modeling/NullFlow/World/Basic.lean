import NullFlow.C.Source
import NullFlow.Metrics
import NullFlow.Text.Utf8

/-!
# The world around a run

A run reads files, has the C in them parsed, and measures how long its phases take. `World` says
what it needs for that, so that the same run can take place on a real machine or inside of a file
tree that is a value (`NullFlow.World.FileTree`).
-/

namespace NullFlow

/-- **Why a file cannot be read.** -/
inductive ReadFault where
  | missing
  | isDirectory
  | notDirectory
  /-- The file is there, but it may not be read. -/
  | denied
  /-- The bytes of the file are no text. -/
  | notText
  | other (message : String)
  deriving DecidableEq, Repr

/-- The fault in words. -/
def ReadFault.message : ReadFault → String
  | .missing => "No such file or directory (os error 2)"
  | .isDirectory => "Is a directory (os error 21)"
  | .notDirectory => "Not a directory (os error 20)"
  | .denied => "Permission denied (os error 13)"
  | .notText => "stream did not contain valid UTF-8"
  | .other message => message

/-- **Why a directory cannot be walked through.** -/
inductive WalkFault where
  /-- What stands at a path on the way cannot be read. -/
  | unreadable (path : String) (fault : ReadFault)
  /-- A link leads back to a directory that the way has come through. -/
  | loop (path ancestor : String)
  deriving DecidableEq, Repr

/-- The fault in words, and below it what caused it. -/
def WalkFault.chain : WalkFault → List String
  | .unreadable path fault =>
    ["IO error for operation on " ++ path ++ ": " ++ fault.message, fault.message]
  | .loop path ancestor =>
    ["File system loop found: " ++ path ++ " points to an ancestor " ++ ancestor]

/-- **What stands at a path.** -/
inductive Status where
  /-- A regular file of so many bytes. -/
  | file (size : Nat)
  | directory
  /-- Something else: a device, a pipe or a socket. -/
  | special
  deriving DecidableEq, Repr

/-- The size of what stands at a path; a directory takes up a block. -/
def Status.size : Status → Nat
  | .file size => size
  | .directory => 4096
  | .special => 0

/-- **What a run needs from the world around it.** -/
class World (m : Type → Type) where
  /-- What stands at a path. -/
  status : String → m (Except ReadFault Status)
  /-- The bytes of the file at a path. -/
  read : String → m (Except ReadFault (List UInt8))
  /-- The regular files below a directory, each as the names that lead there from it. -/
  filesBelow : String → m (Except WalkFault (List (List String)))
  /-- Parses C. -/
  parse : String → m C.Source
  /-- Does something and tells how many nanoseconds it took. -/
  timed : {α : Type} → m α → m (α × Nat)
  /-- Changes what was measured. -/
  changeMetrics : (Metrics → Metrics) → m Unit
  /-- The time of day, as it stands in reports. -/
  now : m String

namespace World

variable {m : Type → Type} [Monad m] [World m]

/-- **Does something as a phase of the run**, and records how long it took. -/
def during {α : Type} (phase : String) (work : m α) : m α := do
  let (a, ns) ← timed work
  changeMetrics (·.recordNanos phase ns)
  return a

/-- Whether there is a directory at a path. -/
def isDirectory (path : String) : m Bool := return (← status path).toOption == some .directory

/-- Whether there is a regular file at a path. -/
def isFile (path : String) : m Bool := do
  match ← status path with
  | .ok (.file _) => return true
  | _ => return false

/-- Whether there is anything at a path. -/
def exists? (path : String) : m Bool := return (← status path).toOption.isSome

/-- Reads the file at a path as text. -/
def readText (path : String) : m (Except ReadFault String) := do
  match ← read path with
  | .error e => return .error e
  | .ok bytes => match String.fromUTF8? ⟨bytes.toArray⟩ with
    | some text => return .ok text
    | none => return .error .notText

/-- Parses the bytes of a source. What is no text among them is replaced. -/
def parseBytes (bytes : List UInt8) : m C.Source := parse (String.ofList (Text.ofBytes bytes))

end World

end NullFlow
