import NullFlow.C.Tree

/-!
# Source files

`Source.parse` reads a source text into a syntax tree. Reading never fails: text that the grammar
cannot place becomes an error node, and a token that had to be made up is a leaf without text. Both
are listed by `Source.issues`. A source is **well formed** if there are none.
-/

namespace NullFlow.C

/-- **What is wrong** at a place of a source. -/
inductive IssueKind where
  /-- Text that the grammar could not place. -/
  | error
  /-- A token that had to be made up. -/
  | missing
  deriving DecidableEq, Repr

/-- **A place where a source breaks the grammar.** The detail is the offending text or the name of
the missing token. Lines and columns count from one, columns in bytes. -/
structure Issue where
  line : Nat
  column : Nat
  kind : IssueKind
  detail : String
  deriving DecidableEq, Repr

/-- A comment with the line it begins on. -/
structure Comment where
  line : Nat
  text : String
  deriving DecidableEq, Repr

/-- The name of a token that may be missing; a mark is its own name. -/
def Kind.tokenName : Kind → String
  | .token text => text
  | .character => "character"
  | .comment => "comment"
  | .escapeSequence => "escape_sequence"
  | .falseLiteral => "false"
  | .fieldIdentifier => "field_identifier"
  | .identifier => "identifier"
  | .msRestrictModifier => "ms_restrict_modifier"
  | .msSignedPointerModifier => "ms_signed_ptr_modifier"
  | .msUnsignedPointerModifier => "ms_unsigned_ptr_modifier"
  | .numberLiteral => "number_literal"
  | .preprocArgument => "preproc_arg"
  | .preprocDirective => "preproc_directive"
  | .primitiveType => "primitive_type"
  | .statementIdentifier => "statement_identifier"
  | .stringContent => "string_content"
  | .systemHeader => "system_lib_string"
  | .trueLiteral => "true"
  | .typeIdentifier => "type_identifier"
  | _ => ""

namespace Node

/-- The longest part of an offending text that an issue shows, in characters. -/
def shownLength : Nat := 40

/-- Whether the node is a token that had to be made up: a leaf that covers no text. -/
def isMissing (n : Node) : Bool :=
  n.children.isEmpty && n.text.isEmpty && n.kind != .translationUnit && n.kind != .error

/-- **The issues of a node**, from left to right. Inside an error nothing more is reported. -/
def issues (n : Node) : List Issue :=
  if n.isMissing then [⟨n.line, n.column, .missing, n.kind.tokenName⟩]
  else if n.kind == .error then
    [⟨n.line, n.column, .error, String.ofList (n.text.toList.take shownLength)⟩]
  else n.children.attach.flatMap fun ⟨c, _⟩ => c.issues
termination_by sizeOf n
decreasing_by exact sizeOf_lt_of_mem ‹_›

/-- The comments inside a node, from left to right. -/
def comments (n : Node) : List Comment :=
  if n.kind == .comment then [⟨n.line, n.text⟩]
  else n.children.attach.flatMap fun ⟨c, _⟩ => c.comments
termination_by sizeOf n
decreasing_by exact sizeOf_lt_of_mem ‹_›

/-- The first node of a kind, a node before those inside it. -/
def find? (n : Node) (kind : Kind) : Option Node :=
  if n.kind == kind then some n
  else n.namedChildren.attach.findSome? fun ⟨c, _⟩ => c.find? kind
termination_by sizeOf n
decreasing_by exact sizeOf_namedChildren ‹_›

end Node

/-- **The automaton that reads C.** Comments may stand anywhere, and key words are told from
identifiers. -/
def Grammar.automaton : Automaton :=
  .ofGrammar Token.all Grammar.rules (.leaf .comment) (.leaf .identifier)

/-- **A source file**: its text and its syntax tree. -/
structure Source where
  text : String
  root : Node
  deriving Inhabited

namespace Source

/-- Reads a source text. -/
def parse (text : String) : Source :=
  let tree? := (Grammar.automaton.read text).bind (·.toTree Grammar.automaton text)
  ⟨text, tree?.getD ⟨.error, none, text, 1, 1, []⟩⟩

/-- Everything that is wrong with the source. -/
def issues (s : Source) : List Issue := s.root.issues

/-- Whether the source follows the grammar. -/
def isWellFormed (s : Source) : Bool := s.issues.isEmpty

/-- The comments of the source in the order of their lines. -/
def comments (s : Source) : List Comment := s.root.comments.mergeSort fun a b => a.line ≤ b.line

end Source

end NullFlow.C
