/-!
# Paths

A path is a text with slashes. `Path.steps` reads it as the way that is walked: repeated slashes and
dots between them are no steps, only a dot at the very beginning is one, so `./a` and `a` are walked
differently although they lead to the same place.

`Path.relativeName` is the name of a file of a suite: its path without the steps that lead to the
suite.
-/

namespace NullFlow

/-- **A step on the way that a path describes.** -/
inductive Step where
  /-- To the root of all files. -/
  | root
  /-- To where one is, only at the beginning of a path. -/
  | current
  /-- Up. -/
  | parent
  /-- Down. -/
  | name (text : String)
  deriving DecidableEq, Repr

namespace Path

/-- The parts of a path between slashes. The empty path has none. -/
def parts (path : String) : List String :=
  if path.isEmpty then [] else (path.toList.splitOn '/').map String.ofList

/-- The step that the first part of a path stands for; an absolute path begins with an empty
part. -/
def firstStep : String → Step
  | "" => .root
  | "." => .current
  | ".." => .parent
  | part => .name part

/-- The step that a later part stands for, none for an empty part or a dot. -/
def laterStep? : String → Option Step
  | "" => none
  | "." => none
  | ".." => some .parent
  | part => some (.name part)

/-- **The steps of a path.** -/
def steps (path : String) : List Step :=
  match parts path with
  | [] => []
  | first :: rest => firstStep first :: rest.filterMap laterStep?

/-- Whether a path begins at the root. -/
def isAbsolute (path : String) : Bool := (steps path).head? == some .root

/-- **A path inside a directory.** -/
def join (directory path : String) : String :=
  if isAbsolute path then path
  else if directory.isEmpty || directory.endsWith '/' then directory ++ path
  else directory ++ "/" ++ path

/-- Removes parts from the front until only what follows the given steps is left. -/
def dropLater : List Step → List String → Option (List String)
  | [], rest => some (rest.dropWhile fun part => (laterStep? part).isNone)
  | _ :: _, [] => none
  | step :: more, part :: rest =>
    match laterStep? part with
    | none => dropLater (step :: more) rest
    | some s => if s = step then dropLater more rest else none

/-- Removes the parts at the end that are no steps. -/
def dropEnd (rest : List String) : List String :=
  (rest.reverse.dropWhile fun part => (laterStep? part).isNone).reverse

/-- Puts a slash between parts. -/
def ofParts (rest : List String) : String := "/".intercalate rest

/-- **What follows the steps of one path in another**, as it is spelled there, none if the other
path leads elsewhere. Nothing but slashes and dots is lost at its ends. -/
def below? (root path : String) : Option String :=
  match steps root, parts path with
  | [], [] => some ""
  | [], first :: rest =>
    match first, dropEnd rest with
    | "", [] => some "/"
    | _, kept => some (ofParts (first :: kept))
  | _ :: _, [] => none
  | step :: more, first :: rest =>
    if firstStep first = step then (dropLater more rest).map fun kept => ofParts (dropEnd kept)
    else none

/-- A text with slashes in the place of backslashes. -/
def withSlashes (text : String) : String :=
  String.ofList (text.toList.map fun c => if c == '\\' then '/' else c)

/-- **The name of a file relative to the directory of its suite**, or its whole path if it lies
elsewhere. -/
def relativeName (root path : String) : String := withSlashes ((below? root path).getD path)

/-- The name at the end of a path, if it ends in one. -/
def fileName? (path : String) : Option String :=
  match (steps path).getLast? with
  | some (.name text) => some text
  | _ => none

/-- The name of a file split at its last dot, which must not be its first character. -/
def splitName (name : String) : String × Option String :=
  match (name.toList.splitOn '.').reverse with
  | last :: before :: more =>
    let stem := ['.'].intercalate (before :: more).reverse
    if stem.isEmpty || name == ".." then (name, none)
    else (String.ofList stem, some (String.ofList last))
  | _ => (name, none)

/-- **The stem of a file's name**, without the directory and without the extension. -/
def stem? (path : String) : Option String := (fileName? path).map fun name => (splitName name).1

/-- Whether a name is that of a C source. -/
def isSourceName (name : String) : Bool := (splitName name).2 == some "c"

end Path

end NullFlow
