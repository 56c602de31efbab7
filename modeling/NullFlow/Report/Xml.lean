import NullFlow.Finding
import NullFlow.Text.Markup

/-!
# Findings for a defect database

One element for every finding, on a line of its own, with an element for each of its events. A line
below one is written as one, and a function named `unknown` has no name. A finding without events
gets a single main event made of the finding itself.
-/

namespace NullFlow

open Text (markup)

/-- An element around some text. -/
def element (name content : String) : String := "<" ++ name ++ ">" ++ content ++ "</" ++ name ++ ">"

namespace Finding

/-- **The element of an event.** -/
def eventXml (isMain : Bool) (tag description : String) (line : Nat) (file : String) : String :=
  element "event" <|
    (if isMain then element "main" "true" else "")
      ++ element "tag" tag ++ element "description" (markup description)
      ++ element "line" (toString (max line 1)) ++ element "file" (markup file)

/-- The elements of the events of a finding. -/
def eventsXml (f : Finding) : String :=
  if f.events.isEmpty then
    let checker := String.ofList (f.category.checker.toList.map Char.toLower)
    eventXml true checker f.message f.line f.file
  else String.join (f.events.map fun e => eventXml e.isMain e.tag.name e.description e.line f.file)

/-- **The element of a finding.** -/
def xml (f : Finding) : String :=
  element "error"
      (element "checker" f.category.checker ++ element "file" (markup f.file)
        ++ element "function" (if f.function == "unknown" then "" else markup f.function)
        ++ f.eventsXml ++ element "extra" "" ++ element "subcategory" "none")
    ++ "\n"

/-- **The elements of several findings.** -/
def listXml (fs : List Finding) : String := String.join (fs.map xml)

end Finding

end NullFlow
