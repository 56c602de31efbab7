import NullFlow.C.Lexicon.Pattern
import NullFlow.C.Node

/-!
# The tokens of C

A `Token` is a sort of lexeme that the grammar tells from others: every key word, every mark, and
the names, numbers, pieces of text and directives. `Token.all` lists them, and the number of a token
is its place in that list.

**Which token a text is.** Of the tokens that the grammar allows at a place the longest counts. Of
several of the same length the one of the higher level counts, then the one that is spelled out
rather than described by a pattern, then the one that is listed first. Key words are read as
identifiers and told apart afterwards, so `index` never begins with the word `in`.
-/

namespace NullFlow.C

/-- **The tokens.** -/
inductive Token where
  /-- A key word or a mark, which is written in one way only. -/
  | text (s : String)
  /-- The beginning of a preprocessor line, with blanks allowed after the number sign. -/
  | directive (name : String)
  /-- The parenthesis that follows the name of a macro with nothing between them. -/
  | openTouching
  /-- The line break after a condition of the preprocessor. -/
  | lineBreak
  /-- The line break right after a directive. -/
  | lineEnd
  /-- A lexeme with a text of its own. -/
  | leaf (kind : Kind)
  deriving DecidableEq, Repr, Inhabited

namespace Token

/-- **All tokens**, in the order in which the rules of the grammar come upon them. -/
def all : List Token :=
  [.directive "include", .lineEnd, .directive "define", .openTouching, .text "...", .text ",",
   .text ")", .directive "if", .lineBreak, .directive "endif", .directive "ifdef",
   .directive "ifndef", .directive "else", .directive "elif", .directive "elifdef",
   .directive "elifndef", .leaf .preprocArgument, .leaf .preprocDirective, .text "(",
   .text "defined", .text "!", .text "~", .text "-", .text "+", .text "*", .text "/", .text "%",
   .text "||", .text "&&", .text "|", .text "^", .text "&", .text "==", .text "!=", .text ">",
   .text ">=", .text "<=", .text "<", .text "<<", .text ">>", .text ";", .text "__extension__",
   .text "typedef", .text "extern", .text "__attribute__", .text "__attribute", .text "::",
   .text "[[", .text "]]", .text "__declspec", .text "__based", .text "__cdecl",
   .text "__clrcall", .text "__stdcall", .text "__fastcall", .text "__thiscall",
   .text "__vectorcall", .leaf .msRestrictModifier, .leaf .msUnsignedPointerModifier,
   .leaf .msSignedPointerModifier, .text "_unaligned", .text "__unaligned", .text "\x7b",
   .text "\x7d", .text "signed", .text "unsigned", .text "long", .text "short", .text "[",
   .text "static", .text "]", .text "=", .text "auto", .text "register", .text "inline",
   .text "__inline", .text "__inline__", .text "__forceinline", .text "thread_local",
   .text "__thread", .text "const", .text "constexpr", .text "volatile", .text "restrict",
   .text "__restrict__", .text "_Atomic", .text "_Noreturn", .text "noreturn", .text "_Nonnull",
   .text "alignas", .text "_Alignas", .leaf .primitiveType, .text "enum", .text ":",
   .text "struct", .text "union", .text "if", .text "else", .text "switch", .text "case",
   .text "default", .text "while", .text "do", .text "for", .text "return", .text "break",
   .text "continue", .text "goto", .text "__try", .text "__except", .text "__finally",
   .text "__leave", .text "?", .text "*=", .text "/=", .text "%=", .text "+=", .text "-=",
   .text "<<=", .text ">>=", .text "&=", .text "^=", .text "|=", .text "--", .text "++",
   .text "sizeof", .text "__alignof__", .text "__alignof", .text "_alignof", .text "alignof",
   .text "_Alignof", .text "offsetof", .text "_Generic", .text "asm", .text "__asm__",
   .text "__asm", .text "__volatile__", .text ".", .text "->", .leaf .numberLiteral, .text "L'",
   .text "u'", .text "U'", .text "u8'", .text "'", .leaf .character, .text "L\"", .text "u\"",
   .text "U\"", .text "u8\"", .text "\"", .leaf .stringContent, .leaf .escapeSequence,
   .leaf .systemHeader, .leaf .trueLiteral, .leaf .falseLiteral, .text "NULL", .text "nullptr",
   .leaf .identifier, .leaf .comment]

/-- How many tokens there are. -/
def count : Nat := all.length

/-- The number that stands for the end of the text. -/
def finish : Nat := count

/-- The names of the built-in types. -/
def primitiveTypes : List String :=
  ["bool", "char", "int", "float", "double", "void", "size_t", "ssize_t", "ptrdiff_t", "intptr_t",
   "uintptr_t", "charptr_t", "nullptr_t", "max_align_t", "int8_t", "int16_t", "int32_t", "int64_t",
   "uint8_t", "uint16_t", "uint32_t", "uint64_t", "char8_t", "char16_t", "char32_t", "char64_t"]

/-- The ways a token is spelled, if they are words. -/
def words : Token → List String
  | text s => if s.toList.all fun c => c.isAlphanum || c == '_' then [s] else []
  | leaf .primitiveType => primitiveTypes
  | leaf .trueLiteral => ["TRUE", "true"]
  | leaf .falseLiteral => ["FALSE", "false"]
  | leaf .msRestrictModifier => ["__restrict"]
  | leaf .msUnsignedPointerModifier => ["__uptr"]
  | leaf .msSignedPointerModifier => ["__sptr"]
  | _ => []

/-- Whether the token is a key word. -/
def isKeyword (t : Token) : Bool := !t.words.isEmpty

/-- **The kind of the leaf** that the token becomes; some tokens leave none. -/
def kind? : Token → Option Kind
  | text s => some (.token s)
  | directive name => some (.token ("#" ++ name))
  | openTouching => some (.token "(")
  | lineBreak => some (.token "\n")
  | lineEnd => none
  | leaf k => some k

/-! ## Patterns -/

section Patterns

open Pattern

/-- A line break as files of either kind have it. -/
def newline : Pattern := maybe (oneOf "\r") ++ oneOf "\n"

/-- What may stand between two tokens, besides comments. -/
def blank : Pattern := one CharSet.blanks <|> exactly "\\" ++ newline

/-- Digits, with apostrophes between groups of them. -/
def digitGroups (digits : SmallSet) : Pattern :=
  many1 (one digits) ++ many (exactly "'" ++ many1 (one digits))

/-- **Numbers**: a sign, marks of the base, digits with a point, an exponent and a suffix. -/
def number : Pattern :=
  let sign := maybe (oneOf "-+")
  let hexMark := exactly "0" ++ oneOf "xX"
  let binaryMark := exactly "0" ++ oneOf "bB"
  let decimal := digitGroups CharSet.digits
  let hex := digitGroups CharSet.hexDigits
  sign ++ maybe (hexMark <|> binaryMark)
    ++ ((decimal <|> binaryMark ++ decimal <|> hexMark ++ hex) ++ maybe (exactly "." ++ maybe hex)
        <|> exactly "." ++ decimal)
    ++ maybe (oneOf "eEpP" ++ maybe (sign ++ hex))
    ++ many (oneOf "uUlLwWfFbBdD")

/-- A character named by its code point. -/
def universalName : Pattern :=
  exactly "\\u" ++ times 4 (one CharSet.hexDigits)
    <|> exactly "\\U" ++ times 8 (one CharSet.hexDigits)

def identifierPattern : Pattern :=
  (one CharSet.nameStart <|> universalName) ++ many (one CharSet.nameRest <|> universalName)

/-- A backslash with what it makes of the characters after it. -/
def escape : Pattern :=
  let hex := one CharSet.hexDigits
  exactly "\\"
    ++ (noneOf "xuU" <|> times 2 (one CharSet.digits) ++ maybe (one CharSet.digits)
        <|> exactly "x" ++ hex ++ maybe hex ++ maybe hex ++ maybe hex
        <|> exactly "u" ++ times 4 hex <|> exactly "U" ++ times 8 hex)

/-- A comment to the end of the line, which a backslash carries on, or up to the closing mark. -/
def commentPattern : Pattern :=
  exactly "//" ++ many (many1 (oneOf "\\") ++ (noneOf "\n" <|> newline) <|> noneOf "\\\n")
    <|> exactly "/*" ++ many (noneOf "*") ++ many1 (oneOf "*")
      ++ many (noneOf "/*" ++ many (noneOf "*") ++ many1 (oneOf "*")) ++ exactly "/"

/-- The rest of a directive, with the lines that a backslash joins to it. -/
def argumentPattern : Pattern :=
  one (CharSet.any \ CharSet.blanks)
    ++ many (noneOf "/\n" <|> exactly "/" ++ noneOf "*" <|> exactly "\\" ++ newline)

/-- **The texts a token may have.** -/
def pattern : Token → Pattern
  | text s => exactly s
  | directive name => exactly "#" ++ many (oneOf " \t") ++ exactly name
  | openTouching => exactly "("
  | lineBreak => exactly "\n"
  | lineEnd => newline
  | leaf .preprocArgument => argumentPattern
  | leaf .preprocDirective =>
    exactly "#" ++ many (oneOf " \t") ++ one (CharSet.asciiLetters ∪ CharSet.digits)
      ++ many (one CharSet.wordChars)
  | leaf .numberLiteral => number
  | leaf .character => noneOf "\n'"
  | leaf .stringContent => many1 (noneOf "\\\"\n")
  | leaf .escapeSequence => escape
  | leaf .systemHeader => exactly "<" ++ many (noneOf ">\n" <|> exactly "\\>") ++ exactly ">"
  | leaf .identifier => identifierPattern
  | leaf .comment => commentPattern
  | t => anyOf t.words

end Patterns

/-- Whether no blanks may stand before the token. -/
def isTouching : Token → Bool
  | openTouching | lineEnd | leaf .character | leaf .stringContent => true
  | _ => false

/-- Tokens of a higher level go before others, whatever their length. -/
def level : Token → Int
  | leaf .preprocArgument => -1
  | leaf .stringContent | leaf .escapeSequence => 1
  | _ => 0

/-- How exactly the token is spelled: a fixed text goes before a pattern, and a token that touches
the one before it goes before one that need not. -/
def exactness : Token → Nat
  | openTouching => 3
  | text _ | lineBreak | leaf .msRestrictModifier | leaf .msUnsignedPointerModifier
  | leaf .msSignedPointerModifier => 2
  | lineEnd | leaf .character | leaf .stringContent => 1
  | _ => 0

/-- The number of a token. -/
def number? (t : Token) : Option Nat := all.findIdx? (· == t)

end Token

end NullFlow.C
