import NullFlow.Json.Basic

/-!
# Printing JSON

Values are printed with every item and every field on a line of its own, indented by two blanks for
each list or object around it. A list or an object without items is printed on one line.

`JsonValue.sortFields` brings the fields of all objects into alphabetical order.
-/

namespace NullFlow.JsonValue

/-- A line break and the indentation after it. -/
def lineBreak (depth : Nat) : List Char := '\n' :: List.replicate (2 * depth) ' '

/-- A text between quotes. -/
def quoted (spelled : List Char) : List Char := '"' :: spelled ++ ['"']

mutual

/-- **The printed value** inside of as many lists and objects as `depth` says. -/
def printAt (depth : Nat) : JsonValue → List Char
  | .null => "null".toList
  | .bool true => "true".toList
  | .bool false => "false".toList
  | .number spelled => spelled
  | .text spelled => quoted spelled
  | .list [] => "[]".toList
  | .list (item :: items) =>
    '[' :: lineBreak (depth + 1) ++ printAt (depth + 1) item ++ printItems (depth + 1) items
      ++ lineBreak depth ++ [']']
  | .object [] => ['\x7b', '\x7d']
  | .object ((name, value) :: fields) =>
    '\x7b' :: lineBreak (depth + 1) ++ quoted name ++ ": ".toList ++ printAt (depth + 1) value
      ++ printFields (depth + 1) fields ++ lineBreak depth ++ ['\x7d']

/-- The printed items after the first one. -/
def printItems (depth : Nat) : List JsonValue → List Char
  | [] => []
  | item :: items => ',' :: lineBreak depth ++ printAt depth item ++ printItems depth items

/-- The printed fields after the first one. -/
def printFields (depth : Nat) : List (List Char × JsonValue) → List Char
  | [] => []
  | (name, value) :: fields =>
    ',' :: lineBreak depth ++ quoted name ++ ": ".toList ++ printAt depth value
      ++ printFields depth fields

end

/-- **The printed value.** -/
def print (v : JsonValue) : String := String.ofList (printAt 0 v)

/-- Inserts a field before the first one with a name that is not smaller. -/
def insertField (field : List Char × JsonValue) :
    List (List Char × JsonValue) → List (List Char × JsonValue)
  | [] => [field]
  | f :: r => if field.1 ≤ f.1 then field :: f :: r else f :: insertField field r

mutual

/-- **The value with the fields of every object in alphabetical order.** -/
def sortFields : JsonValue → JsonValue
  | .list items => .list (sortItems items)
  | .object fields => .object (sortNamed fields)
  | v => v

/-- The items of a list, each with its fields in order. -/
def sortItems : List JsonValue → List JsonValue
  | [] => []
  | item :: items => sortFields item :: sortItems items

/-- The fields of an object in order, each with the fields inside it in order. -/
def sortNamed : List (List Char × JsonValue) → List (List Char × JsonValue)
  | [] => []
  | (name, value) :: fields => insertField (name, sortFields value) (sortNamed fields)

end

end NullFlow.JsonValue
