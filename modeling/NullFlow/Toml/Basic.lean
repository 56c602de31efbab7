/-!
# Configuration tables: values

The values of a TOML document as far as manifests need them. Numbers with a fraction, truth values
and dates are checked when they are read, and then nothing is kept of them.
-/

namespace NullFlow

/-- **A TOML value.** -/
inductive TomlValue where
  | text (s : String)
  | integer (n : Int)
  /-- A value of another kind. -/
  | other
  | list (items : List TomlValue)
  | table (fields : List (String × TomlValue))
  deriving Repr, Inhabited

namespace TomlValue

/-- The text that a value is. -/
def text? : TomlValue → Option String
  | .text s => some s
  | _ => none

/-- The number that a value is, if it is not negative. -/
def nat? : TomlValue → Option Nat
  | .integer (.ofNat n) => some n
  | _ => none

/-- The items of a list. -/
def list? : TomlValue → Option (List TomlValue)
  | .list items => some items
  | _ => none

/-- **The fields of a record** with the given names, none for a field that is missing. A record is a
table, or a list of values for the first of the names. -/
def record? (names : List String) : TomlValue → Option (List (Option TomlValue))
  | .table fields => some (names.map fun name => List.lookup name fields)
  | .list items => some ((items.map some ++ names.map fun _ => none).take names.length)
  | _ => none

end TomlValue

end NullFlow
