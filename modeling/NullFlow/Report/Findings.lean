import NullFlow.Finding.Json
import NullFlow.Format
import NullFlow.Report.Xml

/-!
# Reports of findings

`Finding.report` writes a list of findings in any format. As text, a finding is followed by its
events except the main one, which says the same as the finding.
-/

namespace NullFlow

/-- A text with a line break after it. -/
def asLine (s : String) : String := s ++ "\n"

/-- A row of a table. -/
def tableRow (cells : List String) : String := asLine ("| " ++ " | ".intercalate cells ++ " |")

namespace Finding

/-- An event below its finding. -/
def eventText (f : Finding) (e : Event) : String :=
  asLine ("    " ++ f.file ++ ":" ++ toString e.line ++ ": " ++ e.tag.name ++ ": " ++ e.description)

/-- A finding with its events. -/
def text (f : Finding) : String :=
  asLine f.summary ++ String.join ((f.events.filter (!·.isMain)).map f.eventText)

/-- The findings as text, with their number. -/
def listText (fs : List Finding) : String :=
  String.join (fs.map text) ++ asLine (toString fs.length ++ " finding(s)")

/-- A text inside of a table, in which a bar would end the cell. -/
def cellText (s : String) : String :=
  String.ofList (s.toList.flatMap fun c => if c == '|' then ['\\', '|'] else [c])

/-- The row of a finding. -/
def markdownRow (f : Finding) : String :=
  tableRow [f.file, toString f.line, f.category.checker, f.function, cellText f.message]

/-- The findings as a table. -/
def listMarkdown (fs : List Finding) : String :=
  "# Findings\n\n" ++
    if fs.isEmpty then "*No findings.*\n"
    else
      tableRow ["File", "Line", "Checker", "Function", "Message"]
        ++ "|------|------|---------|----------|---------|\n"
        ++ String.join (fs.map markdownRow)

/-- **The report of a list of findings.** -/
def report (format : Format) (fs : List Finding) : String :=
  match format with
  | .text => listText fs
  | .json => listToJson fs
  | .markdown => listMarkdown fs
  | .xml => listXml fs

end Finding

end NullFlow
