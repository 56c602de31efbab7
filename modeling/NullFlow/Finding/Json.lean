import NullFlow.Finding
import NullFlow.Json.Print
import NullFlow.Json.Read

/-!
# Findings in JSON

Findings are exchanged with other tools as a list of objects. `Finding.listToJson` writes the text,
`Finding.listOfJson?` reads it; a finding that is read need not list its events, and an event need
not say that it is not the main one.
-/

namespace NullFlow

open JsonValue (ofText ofNat ofFields)

/-- The object of an event. -/
def Event.toJson (e : Event) : JsonValue :=
  ofFields [("tag", ofText e.tag.name), ("line", ofNat e.line),
    ("description", ofText e.description),
    ("main", .bool e.isMain)]

/-- The event of an object. -/
def Event.ofJson? (v : JsonValue) : Option Event := do
  let [tag, line, description, main] ← v.record? ["tag", "line", "description", "main"] | none
  return {
    tag := ← EventTag.ofName? (← (← tag).word?)
    line := ← (← line).nat?
    description := ← (← description).text?
    isMain := ← match main with
      | some m => m.bool?
      | none => some false }

/-- The category with a label. -/
def Category.ofLabel? (label : String) : Option Category := all.find? (·.label == label)

namespace Finding

/-- The object of a finding. -/
def toJson (f : Finding) : JsonValue :=
  ofFields [("file", ofText f.file), ("function", ofText f.function), ("line", ofNat f.line),
    ("category", ofText f.category.label), ("message", ofText f.message),
    ("events", JsonValue.ofList Event.toJson f.events)]

/-- The finding of an object. -/
def ofJson? (v : JsonValue) : Option Finding := do
  let [file, function, line, category, message, events] ←
    v.record? ["file", "function", "line", "category", "message", "events"] | none
  return {
    file := ← (← file).text?
    function := ← (← function).text?
    line := ← (← line).nat?
    category := ← Category.ofLabel? (← (← category).word?)
    message := ← (← message).text?
    events := ← match events with
      | some l => l.list?.bind (·.mapM Event.ofJson?)
      | none => some [] }

/-- **The text of a list of findings.** -/
def listToJson (fs : List Finding) : String := (JsonValue.ofList toJson fs).print ++ "\n"

/-- **The findings in a text**, none if it is not a list of findings. -/
def listOfJson? (text : String) : Option (List Finding) := do
  (← (← JsonValue.read? text).list?).mapM ofJson?

end Finding

end NullFlow
