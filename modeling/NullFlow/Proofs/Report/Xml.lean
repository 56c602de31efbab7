import NullFlow.Proofs.Json.Finding
import NullFlow.Proofs.Report.Markup

/-!
# What a defect database is told

The report for a defect database reads as one element for each finding, in order, each with an
element for each of its events. Texts of the findings are characters inside of these elements and
nothing else. So what an element tells of its finding (`Finding.Told`) is read back from the report,
whatever the texts are (`Finding.read_listXml`): the category, the file, the function unless it is
`unknown`, and the events, or that there are none, and then the message and the line. What is not
told of a finding with events is its own message and line.
-/

namespace NullFlow

open Markup (Reads ofText)

/-! ## Looking into elements -/

namespace Markup

/-- The character, if it is one. -/
def char? : Markup → Option Char
  | .char c => some c
  | .element _ _ => none

/-- The content of an element with the given name. -/
def contentOf? (name : String) : Markup → Option (List Markup)
  | .char _ => none
  | .element n xs => if n = name then some xs else none

/-- The contents of the elements with a name. -/
def named (name : String) (xs : List Markup) : List (List Markup) := xs.filterMap (contentOf? name)

/-- The text that some content is made of. -/
def text? (xs : List Markup) : Option String := (xs.mapM char?).map String.ofList

/-- The text in the first element with a name. -/
def field? (name : String) (xs : List Markup) : Option String := (named name xs).head?.bind text?

/-- The number in the first element with a name. -/
def number? (name : String) (xs : List Markup) : Option Nat :=
  (field? name xs).bind fun s => JsonValue.digits? 0 s.toList

@[simp] theorem text?_ofText (s : String) : text? (ofText s) = some s := by
  unfold text? ofText
  rw [mapM_map_eq_some (f := char) (g := char?) (k := id) fun _ _ => rfl, List.map_id,
    Option.map_some, String.ofList_toList]

section

variable (name n : String) (content xs ys : List Markup)

@[simp] theorem named_nil : named name [] = [] := rfl

@[simp] theorem named_char (c : Char) : named name (.char c :: xs) = named name xs := rfl

@[simp] theorem named_element : named name (.element n content :: xs) =
    if n = name then content :: named name xs else named name xs := by
  unfold named
  rw [List.filterMap_cons, contentOf?]
  split
  · next h =>
    split at h
    · cases h
    · next hne => rw [if_neg hne]
  · next h =>
    split at h
    · next heq => rw [← Option.some.inj h, if_pos heq]
    · cases h

@[simp] theorem named_append : named name (xs ++ ys) = named name xs ++ named name ys :=
  List.filterMap_append

theorem named_map_element (contents : List (List Markup)) :
    named name (contents.map (.element name)) = contents := by
  induction contents with
  | nil => rfl
  | cons content contents ih => rw [List.map_cons, named_element, if_pos rfl, ih]

end

end Markup

open Markup (named field? number?)

/-! ## What is told -/

namespace Category

/-- What stands in the place of a tag if there are no events. -/
def tag (c : Category) : String := String.ofList (c.checker.toList.map Char.toLower)

/-- The category that a checker reports. -/
def ofChecker? (checker : String) : Option Category := all.find? (·.checker == checker)

theorem ofChecker?_checker (c : Category) : ofChecker? c.checker = some c := by
  cases c <;> decide

/-- The name of a checker is no tag of an event. -/
theorem ofName?_tag (c : Category) : EventTag.ofName? c.tag = none := by
  cases c <;> decide

end Category

namespace Finding

/-- **What an element tells of how a defect came about.** -/
inductive Account where
  /-- By these events, each on a line. -/
  | events (es : List Event)
  /-- There are no events; the message and the line are those of the finding. -/
  | withoutEvents (message : String) (line : Nat)
  deriving DecidableEq, Repr

/-- **What an element tells of a finding.** -/
structure Told where
  category : Category
  file : String
  function : String
  account : Account
  deriving DecidableEq, Repr

/-- A line as it is told: there is none before the first one. -/
def toldLine (line : Nat) : Nat := max line 1

/-- **What is told of a finding.** -/
def told (f : Finding) : Told where
  category := f.category
  file := f.file
  function := if f.function = "unknown" then "" else f.function
  account :=
    if f.events = [] then .withoutEvents f.message (toldLine f.line)
    else .events (f.events.map fun e => { e with line := toldLine e.line })

/-! ### The reader of a report -/

/-- Reads an event off its element. -/
def eventOf? (xs : List Markup) : Option Event := do
  return {
    tag := ← EventTag.ofName? (← field? "tag" xs)
    line := ← number? "line" xs
    description := ← field? "description" xs
    isMain := !(named "main" xs).isEmpty }

/-- Reads the message and the line off the only element of a finding without events. -/
def noEventsOf? : List (List Markup) → Option Account
  | [xs] => return .withoutEvents (← field? "description" xs) (← number? "line" xs)
  | _ => none

/-- Reads how a defect came about off the elements of the events. -/
def accountOf? (events : List (List Markup)) : Option Account :=
  ((events.mapM eventOf?).map .events).or (noEventsOf? events)

/-- Reads what is told of a finding off its element. -/
def toldOf? (xs : List Markup) : Option Told := do
  return {
    category := ← Category.ofChecker? (← field? "checker" xs)
    file := ← field? "file" xs
    function := ← field? "function" xs
    account := ← accountOf? (named "event" xs) }

/-- **Reads a report** for a defect database. -/
def readXml? (text : String) : Option (List Told) := do
  (named "error" (← Markup.read? text)).mapM toldOf?

/-! ## What a report reads as -/

/-- The element of an event. -/
def eventContent (isMain : Bool) (tag description : String) (line : Nat) (file : String) :
    List Markup :=
  (if isMain then [.element "main" (ofText "true")] else []) ++
    [.element "tag" (ofText tag), .element "description" (ofText description),
      .element "line" (ofText (toString (toldLine line))), .element "file" (ofText file)]

/-- The contents of the elements of the events. -/
def eventContents (f : Finding) : List (List Markup) :=
  if f.events = [] then [eventContent true f.category.tag f.message f.line f.file]
  else f.events.map fun e => eventContent e.isMain e.tag.name e.description e.line f.file

/-- **What the element of a finding is around.** -/
def content (f : Finding) : List Markup :=
  .element "checker" (ofText f.category.checker) :: .element "file" (ofText f.file) ::
    .element "function" (ofText (if f.function = "unknown" then "" else f.function)) ::
    (f.eventContents.map (.element "event") ++
      [.element "extra" [], .element "subcategory" (ofText "none")])

/-- A finding takes up a line. -/
def markup (f : Finding) : List Markup := [.element "error" f.content, .char '\n']

end Finding

theorem Markup.reads_toString (n : Nat) : Reads (toString n) (ofText (toString n)) :=
  reads_plain (JsonValue.not_mem_toString (by decide)) (JsonValue.not_mem_toString (by decide))

namespace Finding

theorem reads_eventXml {tag : String} (htag : Reads tag (ofText tag)) (isMain : Bool)
    (description : String) (line : Nat) (file : String) :
    Reads (eventXml isMain tag description line file)
      [.element "event" (eventContent isMain tag description line file)] := by
  have hmain : Reads (if isMain then element "main" "true" else "")
      (if isMain then [.element "main" (ofText "true")] else []) := by
    cases isMain with
    | true => exact (Markup.reads_plain (by decide) (by decide)).element "main" (by decide)
    | false => exact Markup.reads_empty
  have hparts := (((hmain.append (htag.element "tag" (by decide))).append
    ((Markup.reads_markup description).element "description" (by decide))).append
    ((Markup.reads_toString (toldLine line)).element "line" (by decide))).append
    ((Markup.reads_markup file).element "file" (by decide))
  simp only [List.append_assoc, List.cons_append, List.nil_append] at hparts
  exact hparts.element "event" (by decide)

theorem reads_eventsXml (f : Finding) :
    Reads f.eventsXml (f.eventContents.map (.element "event")) := by
  unfold eventsXml eventContents
  by_cases h : f.events = []
  · have htag : Reads f.category.tag (ofText f.category.tag) := by
      cases f.category <;> exact Markup.reads_plain (by decide) (by decide)
    rw [if_pos (List.isEmpty_iff.mpr h), if_pos h]
    exact reads_eventXml htag true f.message f.line f.file
  · have hevent (e : Event) : Reads (eventXml e.isMain e.tag.name e.description e.line f.file)
        [.element "event" (eventContent e.isMain e.tag.name e.description e.line f.file)] := by
      have htag : Reads e.tag.name (ofText e.tag.name) := by
        cases e.tag <;> exact Markup.reads_plain (by decide) (by decide)
      exact reads_eventXml htag e.isMain e.description e.line f.file
    have hevents := Markup.reads_join hevent f.events
    rw [← List.map_eq_flatMap] at hevents
    rw [if_neg (fun hempty => h (List.isEmpty_iff.mp hempty)), if_neg h, List.map_map]
    exact hevents

/-- **A finding reads as its element**, whatever its texts are. -/
theorem reads_xml (f : Finding) : Reads f.xml f.markup := by
  have hchecker : Reads f.category.checker (ofText f.category.checker) := by
    cases f.category <;> exact Markup.reads_plain (by decide) (by decide)
  have hfunction : Reads (if f.function == "unknown" then "" else Text.markup f.function)
      (ofText (if f.function = "unknown" then "" else f.function)) := by
    by_cases h : f.function = "unknown"
    · rw [if_pos (beq_iff_eq.mpr h), if_pos h]
      exact Markup.reads_empty
    · rw [if_neg (fun hunknown => h (beq_iff_eq.mp hunknown)), if_neg h]
      exact Markup.reads_markup f.function
  have hnone : Reads "none" (ofText "none") := Markup.reads_plain (by decide) (by decide)
  have hparts := (((((hchecker.element "checker" (by decide)).append
    ((Markup.reads_markup f.file).element "file" (by decide))).append
    (hfunction.element "function" (by decide))).append f.reads_eventsXml).append
    (Markup.reads_empty.element "extra" (by decide))).append
    (hnone.element "subcategory" (by decide))
  simp only [List.append_assoc, List.cons_append, List.nil_append] at hparts
  have hline : Reads "\n" [.char '\n'] := Markup.reads_plain (by decide) (by decide)
  exact (hparts.element "error" (by decide)).append hline

/-- **A report reads as the elements of its findings**, one after the other. -/
theorem reads_listXml (fs : List Finding) : Reads (listXml fs) (fs.flatMap markup) :=
  Markup.reads_join reads_xml fs

/-! ## What is read back -/

/-- **An event is read off its element.** -/
theorem eventOf?_eventContent (e : Event) (file : String) :
    eventOf? (eventContent e.isMain e.tag.name e.description e.line file) =
      some { e with line := toldLine e.line } := by
  obtain ⟨tag, line, description, isMain⟩ := e
  cases isMain <;> simp [eventOf?, eventContent, field?, number?, JsonValue.digits?_toDigits,
    EventTag.ofName?_name]

/-- No event is read off the element of a finding without events. -/
theorem eventOf?_tag (c : Category) (message : String) (line : Nat) (file : String) :
    eventOf? (eventContent true c.tag message line file) = none := by
  simp [eventOf?, eventContent, field?, number?, Category.ofName?_tag]

theorem noEventsOf?_eventContent (tag message : String) (line : Nat) (file : String) :
    noEventsOf? [eventContent true tag message line file] =
      some (.withoutEvents message (toldLine line)) := by
  simp [noEventsOf?, eventContent, field?, number?, JsonValue.digits?_toDigits]

/-- **How a defect came about is read off the elements of the events.** -/
theorem accountOf?_eventContents (f : Finding) :
    accountOf? f.eventContents = some f.told.account := by
  unfold accountOf? eventContents told
  by_cases h : f.events = []
  · simp only [if_pos h]
    rw [List.mapM_cons, eventOf?_tag, noEventsOf?_eventContent]
    rfl
  · simp only [if_neg h]
    rw [mapM_map_eq_some fun e _ => eventOf?_eventContent e f.file]
    rfl

/-- **What is told of a finding is read off its element.** -/
theorem toldOf?_content (f : Finding) : toldOf? f.content = some f.told := by
  have hevents : named "event" f.content = f.eventContents := by
    simp [content, Markup.named_map_element]
  unfold toldOf?
  rw [hevents, accountOf?_eventContents]
  simp [content, field?, Category.ofChecker?_checker, told]

theorem named_flatMap_markup (fs : List Finding) :
    named "error" (fs.flatMap markup) = fs.map content := by
  induction fs with
  | nil => rfl
  | cons f fs ih => simp [markup, ih]

/-- **A report is read back as what its findings tell**, whatever their texts are: its elements are
those of the findings and of their events, in order. -/
theorem read_listXml (fs : List Finding) : Markup.read? (listXml fs) = some (fs.flatMap markup) ∧
    readXml? (listXml fs) = some (fs.map told) := by
  have hread := (reads_listXml fs).read?
  refine ⟨hread, ?_⟩
  unfold readXml?
  rw [hread, Option.bind_eq_bind, Option.bind_some, named_flatMap_markup]
  exact mapM_map_eq_some fun f _ => f.toldOf?_content

end Finding

end NullFlow
