import NullFlow.Path
import NullFlow.World.Basic
import Std.Data.ExtTreeSet

/-!
# File trees

A `FileTree` is a value that holds directories, regular files and what else may stand there.
Whatever is in it is found by the names that lead there from the root; a relative path begins in the
working directory. What is locked is there, but it may not be read.

A path is walked step by step (`FileTree.walk`). Every step leads on from a directory, so a path
through a regular file is refused, and so is one that ends in a slash or a dot behind a regular
file.

`InTree` is the monad of runs inside of a file tree, in which nothing takes any time. The parser is
a part of the session as well: a run leaves it open how C is parsed.
-/

namespace NullFlow

/-- **What a file tree holds at a place.** -/
inductive Entry where
  | file (bytes : List UInt8)
  | directory
  /-- A device, a pipe or a socket, out of which some bytes come. -/
  | special (bytes : List UInt8)
  deriving DecidableEq, Repr

/-- **A file tree** with a working directory. -/
structure FileTree where
  entries : Std.ExtTreeMap (List String) Entry := ∅
  workingDirectory : List String := []
  /-- The places of what may not be read. -/
  locked : Std.ExtTreeSet (List String) := ∅

namespace FileTree

/-- What is at the place that some names lead to. The root is always there. -/
def entry? (t : FileTree) (place : List String) : Option Entry :=
  if place.isEmpty then some .directory else t.entries[place]?

/-- The place that a step leads to. -/
def stepTo (place : List String) : Step → List String
  | .root => []
  | .current => place
  | .parent => place.dropLast
  | .name n => place ++ [n]

/-- **The place that steps lead to**, which need not hold anything. -/
def walk (t : FileTree) (place : List String) : List Step → Except ReadFault (List String)
  | [] => .ok place
  | step :: more =>
    match t.entry? place with
    | some .directory => t.walk (stepTo place step) more
    | some _ => .error .notDirectory
    | none => .error .missing

/-- Whether a path can only lead to a directory: its last part is empty or a dot. -/
def endsOpen (path : String) : Bool :=
  match (Path.parts path).getLast? with
  | some part => part == "" || part == "."
  | none => false

/-- The place that a path leads to. -/
def place (t : FileTree) (path : String) : Except ReadFault (List String) :=
  if path.isEmpty then .error .missing else t.walk t.workingDirectory (Path.steps path)

/-- **What is at a path.** -/
def locate (t : FileTree) (path : String) : Except ReadFault Entry := do
  match t.entry? (← t.place path) with
  | some .directory => .ok .directory
  | some e => if endsOpen path then .error .notDirectory else .ok e
  | none => .error .missing

/-- What stands at a path. -/
def status (t : FileTree) (path : String) : Except ReadFault Status :=
  (t.locate path).map fun
    | .file bytes => .file bytes.length
    | .directory => .directory
    | .special _ => .special

/-- The bytes of the file at a path. -/
def read (t : FileTree) (path : String) : Except ReadFault (List UInt8) := do
  let e ← t.locate path
  if (← t.place path) ∈ t.locked then .error .denied
  else match e with
    | .file bytes | .special bytes => .ok bytes
    | .directory => .error .isDirectory

/-- The names that lead from a place to the first locked directory there or below. -/
def lockedBelow? (t : FileTree) (place : List String) : Option (List String) :=
  (t.locked.toList.find? fun names =>
    place.isPrefixOf names && t.entry? names == some .directory).map (·.drop place.length)

/-- **The regular files below a directory**, each as the names that lead there from it. No directory
on the way may be locked. -/
def filesBelow (t : FileTree) (path : String) : Except WalkFault (List (List String)) :=
  match t.place path with
  | .error fault => .error (.unreadable path fault)
  | .ok place => match t.lockedBelow? place with
    | some [] => .error (.unreadable path .denied)
    | some names => .error (.unreadable (Path.join path (Path.ofParts names)) .denied)
    | none => .ok <| t.entries.toList.filterMap fun
      | (names, .file _) => if place.isPrefixOf names then some (names.drop place.length) else none
      | _ => none

/-! ## Changes -/

/-- Puts something at a place and directories around it. -/
def put (t : FileTree) (place : List String) (e : Entry) : FileTree :=
  let around := (List.range place.length).map fun n => (place.take n, Entry.directory)
  { t with entries := (t.entries.insertMany around).insert place e }

/-- Whether something can be put at a place: around it there are only directories. -/
def hasRoom (t : FileTree) (place : List String) : Bool :=
  (List.range place.length).all fun n => ((t.entry? (place.take n)).getD .directory) == .directory

/-- The place of something new at a path, none if there is a file in the way. -/
def newPlace? (t : FileTree) (path : String) : Option (List String) :=
  let place := (Path.steps path).foldl stepTo t.workingDirectory
  if path.isEmpty || !t.hasRoom place then none else some place

/-- **Writes a file**, with the directories around it. -/
def write? (t : FileTree) (path : String) (bytes : List UInt8) : Option FileTree := do
  let place ← t.newPlace? path
  if t.entry? place == some .directory then none
  return t.put place (.file bytes)

/-- **Makes a directory**, with the directories around it. -/
def makeDirectory? (t : FileTree) (path : String) : Option FileTree := do
  let place ← t.newPlace? path
  match t.entry? place with
  | some .directory | none => return t.put place .directory
  | _ => none

/-- **Removes what is at a path**, with everything below it. -/
def remove? (t : FileTree) (path : String) : Option FileTree := do
  let place ← (t.place path).toOption
  if (t.entry? place).isNone then none
  return { t with entries := t.entries.filter fun names _ => !place.isPrefixOf names }

end FileTree

/-- **What a run finds around it**: the files, and the parser. -/
structure Surroundings where
  files : FileTree
  parser : String → C.Source := C.Source.parse

/-- **A run inside of a file tree.** -/
structure Session extends Surroundings where
  metrics : Metrics := {}

/-- The monad of runs inside of a file tree. -/
abbrev InTree (α : Type) := StateM Session α

instance : World (StateM Session) where
  status path := return (← get).files.status path
  read path := return (← get).files.read path
  filesBelow path := return (← get).files.filesBelow path
  parse text := return (← get).parser text
  timed work := return (← work, 0)
  changeMetrics change := modify fun s => { s with metrics := change s.metrics }
  now := return "1970-01-01T00:00:00+00:00"

end NullFlow
