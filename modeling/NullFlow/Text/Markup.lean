/-!
# Text inside markup

Text between tags is written so that no character of it can be taken for markup.
-/

namespace NullFlow.Text

/-- How a character is written between tags. -/
def markupChar : Char → List Char
  | '&' => "&amp;".toList
  | '<' => "&lt;".toList
  | '>' => "&gt;".toList
  | '"' => "&quot;".toList
  | '\'' => "&apos;".toList
  | c => [c]

/-- **Text as it is written between tags.** -/
def markup (text : String) : String := String.ofList (text.toList.flatMap markupChar)

end NullFlow.Text
