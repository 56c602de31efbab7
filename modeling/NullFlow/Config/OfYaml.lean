import NullFlow.Config.Basic
import NullFlow.Text.Number
import NullFlow.Yaml.Node

/-!
# Configurations as text

A configuration is written in YAML, as a mapping from settings to values. Settings that are not
there keep their defaults, and so do all of them in an empty document. Keys that are no settings are
of no consequence, and no setting may be given twice.

A text may be any scalar as it is written. A number and a truth value must not be in quotes.
-/

namespace NullFlow

namespace Yaml

/-- The prefix of the common tags. -/
def commonTag (name : String) : String := "tag:yaml.org,2002:" ++ name

/-- Whether a scalar in this style may be something else than text: a plain one, or a block that is
tagged as such. -/
def mayBe (name : String) (tag : Option String) (style : Style) : Bool :=
  style == .plain || (style == .literal && tag == some (commonTag name))

/-- Whether nothing is written where a node stands. -/
def isLeftOut : Node → Bool
  | .scalar _ _ text style => text.isEmpty && style == .plain
  | _ => false

/-- The words that stand for nothing. -/
def nullWords : List String := ["null", "Null", "NULL", "~"]

/-- The value of digits to a base. -/
def digitsTo (base : Nat) (digits : List Char) : Option Nat := do
  if digits.isEmpty then none
  let values ← digits.mapM Text.hexValue?
  if values.any (base ≤ ·) then none
  some (values.foldl (fun n d => base * n + d) 0)

/-- **The number that a plain text stands for**: decimal without leading zeros, or to the base
sixteen, eight or two behind a zero and a letter, with or without a plus sign. -/
def number? (text : String) : Option Nat :=
  let unsigned := match text.toList with
    | '+' :: r => r
    | cs => cs
  let value := match unsigned with
    | '0' :: 'x' :: r => digitsTo 16 r
    | '0' :: 'o' :: r => digitsTo 8 r
    | '0' :: 'b' :: r => digitsTo 2 r
    | ['0'] => some 0
    | '0' :: _ => none
    | cs => digitsTo 10 cs
  value.filter (· < Text.numberLimit)

namespace Document

variable (d : Document)

/-- The text of a scalar. -/
def text? (n : Node) : Option String :=
  match d.resolve n with
  | .scalar _ _ text _ => some text
  | _ => none

/-- The text of a scalar that may stand for nothing. -/
def optionalText? (n : Node) : Option (Option String) :=
  match d.resolve n with
  | .scalar _ tag text style =>
    if style != .plain then some (some text)
    else match tag with
      | none => some (if text.isEmpty || nullWords.contains text then none else some text)
      | some t =>
        if t != commonTag "null" then some (some text)
        else if nullWords.contains text then some none
        else none
  | _ => none

/-- The number of a scalar. -/
def nat? (n : Node) : Option Nat :=
  match d.resolve n with
  | .scalar _ tag text style => if mayBe "int" tag style then number? text else none
  | _ => none

/-- The truth value of a scalar. -/
def bool? (n : Node) : Option Bool :=
  match d.resolve n with
  | .scalar _ tag text style =>
    if !mayBe "bool" tag style then none
    else if ["true", "True", "TRUE"].contains text then some true
    else if ["false", "False", "FALSE"].contains text then some false
    else none
  | _ => none

/-- The texts of a sequence, which may be left out. -/
def texts? (n : Node) : Option (List String) :=
  match d.resolve n with
  | .sequence _ items => items.mapM d.text?
  | n => if isLeftOut n then some [] else none

/-- The entries of the document by their keys, which are scalars. -/
def entries? : Option (List (String × Node)) :=
  match d.root.map d.resolve with
  | none => some []
  | some (.mapping _ entries) => entries.mapM fun (k, v) => return (← d.text? k, v)
  | some n => if isLeftOut n then some [] else none

end Document

end Yaml

namespace Config

/-- The value under a key, or a default; the key must not be given twice. -/
def setting? {α : Type} (entries : List (String × Yaml.Node)) (key : String)
    (read? : Yaml.Node → Option α) (default : α) : Option α :=
  match entries.filter (·.1 == key) with
  | [] => some default
  | [(_, n)] => read? n
  | _ => none

/-- The configuration in a document. -/
def ofDocument? (d : Yaml.Document) : Option Config := do
  let entries ← d.entries?
  let defaults : Config := {}
  return {
    version := ← setting? entries "version" d.text? defaults.version
    suiteDir := ← setting? entries "suite_dir" d.text? defaults.suiteDir
    manifest := ← setting? entries "manifest" d.optionalText? defaults.manifest
    maxFileSize := ← setting? entries "max_file_size" d.nat? defaults.maxFileSize
    interprocedural := ← setting? entries "interprocedural" d.bool? defaults.interprocedural
    nullMacros := ← setting? entries "null_macros" d.texts? defaults.nullMacros
    format := ← setting? entries "format" d.text? defaults.format
    parallel := ← setting? entries "parallel" d.bool? defaults.parallel }

/-- **Reads a configuration.** -/
def parse? (text : String) : Option Config := do ofDocument? (← Yaml.read? text)

end Config

end NullFlow
