import NullFlow.Text.LowerCase

/-!
# Report formats
-/

namespace NullFlow

/-- **A format of reports.** -/
inductive Format where
  | text
  | json
  | markdown
  /-- The errors that a defect database imports. -/
  | xml
  deriving DecidableEq, Repr

namespace Format

/-- All formats, in the order in which they are listed to users. -/
def all : List Format := [.text, .json, .markdown, .xml]

/-- The name of a format. -/
def name : Format → String
  | .text => "text"
  | .json => "json"
  | .markdown => "markdown"
  | .xml => "xml"

/-- Other names of a format. -/
def alias? : String → Option Format
  | "txt" => some .text
  | "md" => some .markdown
  | "coverity" => some .xml
  | _ => none

/-- A text as far as it matters for names: without the white space around it, in small letters. -/
def normalize (text : String) : String := String.ofList (Text.lower (Text.trim text.toList))

/-- **Reads the name of a format**; white space around it and the case of letters do not matter. -/
def parse? (text : String) : Option Format :=
  (all.find? (·.name == normalize text)).or (alias? (normalize text))

end Format

end NullFlow
