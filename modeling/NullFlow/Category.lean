import NullFlow.Text.LowerCase

/-!
# Categories of defects

The two defects that are looked for, and the texts that stand for them: a **label** in manifests and
reports, and the name of the **checker** in reports that other tools read.
-/

namespace NullFlow

/-- **A category of defects.** -/
inductive Category where
  /-- A pointer that was compared with null is dereferenced where it may be null. -/
  | forwardNull
  /-- A pointer is dereferenced before it is compared with null. -/
  | reverseNull
  deriving DecidableEq, Repr

namespace Category

/-- All categories, in order. -/
def all : List Category := [.forwardNull, .reverseNull]

/-- The text that stands for the category in manifests and reports. -/
def label : Category → String
  | .forwardNull => "forward-null"
  | .reverseNull => "reverse-null"

/-- The name of the checker that reports the category. -/
def checker : Category → String
  | .forwardNull => "FORWARD_NULL"
  | .reverseNull => "REVERSE_INULL"

/-- The place of the category in the order of reports. -/
def rank : Category → Nat
  | .forwardNull => 0
  | .reverseNull => 1

/-- A hyphen in the place of an underscore. -/
def hyphenated (c : Char) : Char := if c == '_' then '-' else c

/-- **Reads a category.** White space around the text and the case of letters do not matter, and
words may be separated by hyphens, underscores or blanks. -/
def parse? (text : String) : Option Category :=
  let plain := (Text.lower (Text.trim text.toList)).map fun c =>
    if c == ' ' then '-' else hyphenated c
  match String.ofList plain with
  | "forward-null" => some .forwardNull
  | "reverse-null" => some .reverseNull
  | "reverse-inull" => some .reverseNull
  | _ => none

/-- **The category that the name of a file begins with**, if it begins with one. -/
def ofFileStem? (stem : String) : Option Category :=
  let plain := (Text.lower stem.toList).map hyphenated
  all.find? fun c => c.label.toList.isPrefixOf plain

end Category

end NullFlow
