import NullFlow.Annotation
import NullFlow.Category
import NullFlow.Digest
import NullFlow.Failure
import NullFlow.Path
import NullFlow.Text.Utf8

/-!
# Fixtures

A fixture is a small source file that shows one defect. Its category is given, or else it is the one
that the name of the file begins with. Files above a given size are not read.
-/

namespace NullFlow

/-- **A fixture.** -/
structure Fixture where
  /-- The name of the file without its directory and its extension. -/
  name : String
  path : String
  /-- The name of the file in findings and in the manifest. -/
  file : String
  category : Category
  source : C.Source
  /-- The digest of the bytes of the file. -/
  digest : String

namespace Fixture

/-- The marks of expected defects. -/
def annotations (f : Fixture) : List Annotation := f.source.annotations

/-- The number of lines. -/
def lineCount (f : Fixture) : Nat := Text.countLines f.source.text.toList

/-- The name of the fixture at a path, or else that of its file. -/
def nameAt (path file : String) : String := (Path.stem? path).getD file

/-- The category that is given, or else the one that the name begins with. -/
def chosenCategory (name file : String) (category : Option Category) : Except Failure Category :=
  match category.or (Category.ofFileStem? name) with
  | none => .error (.unknownCategory file)
  | some category => .ok category

/-- The fixture that is made of a text. -/
def ofText (name file : String) (category : Category) (text : String) : Fixture where
  name := name
  path := file
  file := file
  category := category
  source := C.Source.parse text
  digest := Digest.ofBytes text.toUTF8.toList

section

variable {m : Type → Type} [Monad m] [World m]

/-- **Reads a file** that is not larger than the given limit. -/
def readLimited (path : String) (limit : Nat) : ExceptT Failure m (List UInt8) := do
  match ← World.status (m := m) path with
  | .error fault => throw (.unreadable path fault)
  | .ok status =>
    if limit < status.size then throw (.tooLarge path status.size limit)
    match ← World.read (m := m) path with
    | .error fault => throw (.unreadable path fault)
    | .ok bytes => return bytes

/-- **Loads a fixture.** -/
def load (path file : String) (category : Option Category) (limit : Nat) :
    ExceptT Failure m Fixture := do
  let bytes ← readLimited path limit
  let name := nameAt path file
  let category ← ExceptT.mk (pure (chosenCategory name file category))
  let source ← (World.parseBytes bytes : m C.Source)
  return { name, path, file, category, source, digest := Digest.ofBytes bytes }

end

end Fixture

end NullFlow
