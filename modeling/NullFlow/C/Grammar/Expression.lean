import NullFlow.C.Grammar.Declaration

/-!
# Expressions

Operators bind by the levels of `Level`. What a name in parentheses means — a type before an
operand, or an operand — is left open by the rules, so that both readings are followed for as long
as the text allows.
-/

namespace NullFlow.C.Grammar

open Rule

/-- **An expression that is no binary one.** -/
def operand : Rule := choice
  [node .conditionalExpression, node .assignmentExpression, node .unaryExpression,
    node .updateExpression, node .castExpression, node .pointerExpression, node .sizeofExpression,
    node .alignofExpression, node .offsetofExpression, node .genericExpression,
    node .subscriptExpression, node .callExpression, node .fieldExpression,
    node .compoundLiteralExpression, leaf .identifier, leaf .numberLiteral, group .string,
    leaf .trueLiteral, leaf .falseLiteral, node .nullLiteral, node .charLiteral,
    node .parenthesizedExpression, node .gnuAsmExpression, node .extensionExpression]

/-- What may be assigned to. -/
def assignable : Rule := choice
  [leaf .identifier, node .callExpression, node .fieldExpression, node .pointerExpression,
    node .subscriptExpression, node .parenthesizedExpression]

/-- A string, or several pieces of one. -/
def anyString : Rule := node .stringLiteral <|> node .concatenatedString

/-- A type in parentheses. -/
def typeInParentheses : Rule := tok "(" ++ role .type (node .typeDescriptor) ++ tok ")"

/-- The value of a member or an element. -/
def memberValue : Rule := role .value (group .expression <|> node .initializerList)

/-- The operands of inline assembly on one side of the colon before them. -/
def assemblyOperand : Rule :=
  maybe (tok "[" ++ role .symbol (leaf .identifier) ++ tok "]")
    ++ role .constraint (node .stringLiteral) ++ tok "("
    ++ role .value (group .expression) ++ tok ")"

/-- **Expressions with operators.** -/
def operations : List (Symbol × Rule) :=
  let expression : Rule := group .expression
  let list : Rule := expression <|> node .commaExpression
  [(.group .expression, operand <|> node .binaryExpression),
    (.group .string, bindLeft 0 anyString),
    (.node .commaExpression, role .left expression ++ tok "," ++ role .right list),
    (.node .conditionalExpression, bindRight Level.conditional <|
      role .condition expression ++ tok "?" ++ maybe (role .consequence list) ++ tok ":"
        ++ role .alternative expression),
    (.node .assignmentExpression, bindRight Level.assignment <|
      role .left assignable
        ++ role .operator (oneOf
          ["=", "*=", "/=", "%=", "+=", "-=", "<<=", ">>=", "&=", "^=", "|="])
        ++ role .right expression),
    (.node .pointerExpression, bindLeft Level.cast <|
      role .operator (oneOf ["*", "&"]) ++ role .argument expression),
    (.node .unaryExpression, bindLeft Level.unary <|
      role .operator (oneOf ["!", "~", "-", "+"]) ++ role .argument expression),
    (.node .binaryExpression, choice <|
      Level.ofOperators.map fun (operator, level) => bindLeft level <|
        role .left expression ++ role .operator (tok operator) ++ role .right expression),
    (.node .updateExpression, bindRight Level.unary <|
      role .operator (oneOf ["--", "++"]) ++ role .argument expression
        <|> role .argument expression ++ role .operator (oneOf ["--", "++"])),
    (.node .castExpression,
      bindAlone Level.cast (typeInParentheses ++ role .value expression)),
    (.node .typeDescriptor,
      qualifiers ++ role .type (group .typeSpecifier) ++ qualifiers
        ++ role .declarator (maybe (group .abstractDeclarator))),
    (.node .sizeofExpression, bindAlone Level.measure <|
      tok "sizeof" ++ (role .value expression <|> typeInParentheses)),
    (.node .alignofExpression, bindAlone Level.measure <|
      oneOf ["__alignof__", "__alignof", "_alignof", "alignof", "_Alignof"] ++ typeInParentheses),
    (.node .offsetofExpression, bindAlone Level.offsetOf <|
      tok "offsetof" ++ tok "(" ++ role .type (node .typeDescriptor) ++ tok ","
        ++ role .member fieldName ++ tok ")"),
    (.node .genericExpression, bindAlone Level.call <|
      tok "_Generic" ++ tok "(" ++ expression ++ tok ","
        ++ commas1 (node .typeDescriptor ++ tok ":" ++ expression) ++ tok ")"),
    (.node .subscriptExpression, bindAlone Level.subscript <|
      role .argument expression ++ tok "[" ++ role .index expression ++ tok "]"),
    (.node .callExpression, bindAlone Level.call <|
      role .function expression ++ role .arguments (node .argumentList))]

/-- **Inline assembly.** -/
def assembly : List (Symbol × Rule) :=
  let parts (k : Kind) (r : Rule) : Symbol × Rule := (.node k, tok ":" ++ commas r)
  [(.node .gnuAsmExpression, bindAlone Level.call <|
      oneOf ["asm", "__asm__", "__asm"] ++ many (node .gnuAsmQualifier) ++ tok "("
        ++ role .assemblyCode anyString
        ++ maybe (role .outputOperands (node .gnuAsmOutputOperandList)
          ++ maybe (role .inputOperands (node .gnuAsmInputOperandList)
            ++ maybe (role .clobbers (node .gnuAsmClobberList)
              ++ maybe (role .gotoLabels (node .gnuAsmGotoList)))))
        ++ tok ")"),
    (.node .gnuAsmQualifier, oneOf ["volatile", "__volatile__", "inline", "goto"]),
    parts .gnuAsmOutputOperandList (role .operand (node .gnuAsmOutputOperand)),
    (.node .gnuAsmOutputOperand, assemblyOperand),
    parts .gnuAsmInputOperandList (role .operand (node .gnuAsmInputOperand)),
    (.node .gnuAsmInputOperand, assemblyOperand),
    parts .gnuAsmClobberList (role .register anyString),
    parts .gnuAsmGotoList (role .label (leaf .identifier))]

/-- **Operands that are made of parts.** -/
def operands : List (Symbol × Rule) :=
  let expression : Rule := group .expression
  [(.node .extensionExpression, tok "__extension__" ++ expression),
    (.node .argumentList,
      tok "(" ++ commas (expression <|> node .compoundStatement) ++ tok ")"),
    (.node .fieldExpression,
      bindAlone Level.field (role .argument expression) ++ role .operator (oneOf [".", "->"])
        ++ role .field fieldName),
    (.node .compoundLiteralExpression,
      typeInParentheses ++ role .value (node .initializerList)),
    (.node .parenthesizedExpression,
      tok "(" ++ choice [expression, node .commaExpression, node .compoundStatement] ++ tok ")"),
    (.node .initializerList,
      tok "\x7b"
        ++ commas (choice [node .initializerPair, expression, node .initializerList])
        ++ maybe (tok ",") ++ tok "\x7d"),
    (.node .initializerPair,
      role .designator (many1 <| choice
          [node .subscriptDesignator, node .fieldDesignator, node .subscriptRangeDesignator])
          ++ tok "=" ++ memberValue
        <|> role .designator fieldName ++ tok ":" ++ memberValue),
    (.node .subscriptDesignator, tok "[" ++ expression ++ tok "]"),
    (.node .subscriptRangeDesignator,
      tok "[" ++ role .start expression ++ tok "..." ++ role .stop expression ++ tok "]"),
    (.node .fieldDesignator, tok "." ++ fieldName)]

/-- **Literals**, and what is read as a type in some places and as an expression in others. -/
def literals : List (Symbol × Rule) :=
  let quoted (marks : List String) (inner : Rule) (mark : String) : Rule :=
    oneOf marks ++ inner ++ tok mark
  let string : Rule := node .stringLiteral
  let name : Rule := leaf .identifier
  [(.node .charLiteral,
      quoted ["L'", "u'", "U'", "u8'", "'"]
        (many1 (leaf .escapeSequence <|> leaf .character)) "'"),
    (.node .concatenatedString, bindRight 0 <|
      choice [name ++ string, string ++ string, string ++ name] ++ many (string <|> name)),
    (.node .stringLiteral,
      quoted ["L\"", "u\"", "U\"", "u8\"", "\""]
        (many (leaf .stringContent <|> leaf .escapeSequence)) "\""),
    (.node .nullLiteral, oneOf ["NULL", "nullptr"]),
    (.group .emptyDeclaration, group .typeSpecifier ++ tok ";"),
    (.node .macroTypeSpecifier, weigh (-1) <|
      role .name name ++ typeInParentheses)]

end NullFlow.C.Grammar
