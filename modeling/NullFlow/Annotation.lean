import NullFlow.C.Source

/-!
# Annotations

An author marks the line of an expected defect by a comment with the marker `ERROR:` in it. The rest
of the comment is the message, without the white space around it and without the mark that closes
the comment.

The marker counts only where a word begins, and only if its message stays on one line; of several
markers the first that counts is taken.
-/

namespace NullFlow

open NullFlow.Text

/-- **The mark of an expected defect.** -/
structure Annotation where
  line : Nat
  message : String
  deriving DecidableEq, Repr

namespace Annotation

/-- The marker that turns a comment into an annotation. -/
def marker : List Char := "ERROR:".toList

/-- The text without the mark that closes a block comment. -/
def dropClosing (s : List Char) : List Char :=
  if ['*', '/'].isSuffixOf s then s.take (s.length - 2) else s

/-- The message in the text after a marker. -/
def messageOf (s : List Char) : List Char :=
  trimEnd (dropClosing (trimEnd (trimStart s)))

/-- **The message of the first marker that counts**, in a text with the given character before
it. -/
def messageFrom? (before : Option Char) : List Char → Option (List Char)
  | [] => none
  | c :: r =>
    if marker.isPrefixOf (c :: r) && !before.any isWord then
      let message := messageOf ((c :: r).drop marker.length)
      if message.contains '\n' then messageFrom? (some c) r else some message
    else messageFrom? (some c) r

/-- The annotation in a comment, if there is one. -/
def ofComment? (c : C.Comment) : Option Annotation :=
  (messageFrom? none c.text.toList).map fun m => ⟨c.line, String.ofList m⟩

end Annotation

/-- **The annotations of a source**, in the order of their lines. -/
def C.Source.annotations (s : C.Source) : List Annotation :=
  s.comments.filterMap Annotation.ofComment?

end NullFlow
