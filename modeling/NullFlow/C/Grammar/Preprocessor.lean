import NullFlow.C.Grammar.Rule

/-!
# Preprocessor lines

Directives are not carried out but read as constructs of the language, wherever a declaration, a
statement or a member may stand. A conditional holds the items between its lines, so its five rules
are made once for each setting in which such items are found.
-/

namespace NullFlow.C.Grammar

open Rule

/-- The beginning of a preprocessor line. -/
def directive (name : String) : Rule := token (.directive name)

/-- **The conditionals around items of one setting**; without a setting these are the items of a
file or a block. -/
def conditionals (setting : Option Setting) (item : Rule) (level : Int) : List (Symbol × Rule) :=
  let here (k : Kind) : Symbol := match setting with
    | none => .node k
    | some s => .form k s
  let otherwise := maybe <| choice
    [symbol (here .preprocElse), symbol (here .preprocElif), symbol (here .preprocElifdef)]
  let condition := role .condition (group .preprocExpression) ++ token .lineBreak
  let name := role .name (leaf .identifier)
  let alternative := role .alternative otherwise
  [(here .preprocIf, bindAlone level <|
      directive "if" ++ condition ++ many item ++ alternative ++ directive "endif"),
    (here .preprocIfdef, bindAlone level <|
      (directive "ifdef" <|> directive "ifndef") ++ name ++ many item ++ alternative
        ++ directive "endif"),
    (here .preprocElse, bindAlone level (directive "else" ++ many item)),
    (here .preprocElif, bindAlone level <|
      directive "elif" ++ condition ++ many item ++ alternative),
    (here .preprocElifdef, bindAlone level <|
      (directive "elifdef" <|> directive "elifndef") ++ name ++ many item ++ alternative)]

/-- A form of an expression in the condition of a conditional. -/
def conditionForm (k : Kind) : Rule := form k .condition

/-- **Directives and the expressions of their conditions.** -/
def preprocessor : List (Symbol × Rule) :=
  let value := role .value (maybe (leaf .preprocArgument))
  let expression := group .preprocExpression
  [(.node .preprocInclude,
      directive "include"
        ++ role .path (choice
          [node .stringLiteral, leaf .systemHeader, leaf .identifier,
            conditionForm .callExpression])
        ++ token .lineEnd),
    (.node .preprocDefine,
      directive "define" ++ role .name (leaf .identifier) ++ value ++ token .lineEnd),
    (.node .preprocFunctionDefine,
      directive "define" ++ role .name (leaf .identifier)
        ++ role .parameters (node .preprocParameters) ++ value ++ token .lineEnd),
    (.node .preprocParameters,
      token .openTouching ++ commas (leaf .identifier <|> tok "...") ++ tok ")"),
    (.node .preprocCall,
      role .directive (leaf .preprocDirective)
        ++ role .argument (maybe (leaf .preprocArgument)) ++ token .lineEnd)]
  ++ conditionals none (group .blockItem) 0
  ++ conditionals (some .fieldList) (group .fieldListItem) 0
  ++ conditionals (some .enumeratorList) (node .enumerator ++ tok ",") 0
  ++ conditionals (some .lastEnumerators) (node .enumerator) (-1)
  ++ [(.group .preprocExpression, choice
      [leaf .identifier, conditionForm .callExpression, leaf .numberLiteral, node .charLiteral,
        node .preprocDefined, conditionForm .unaryExpression, conditionForm .binaryExpression,
        conditionForm .parenthesizedExpression]),
    (.form .parenthesizedExpression .condition, tok "(" ++ expression ++ tok ")"),
    (.node .preprocDefined,
      bindAlone Level.call (tok "defined" ++ tok "(" ++ leaf .identifier ++ tok ")")
        <|> tok "defined" ++ leaf .identifier),
    (.form .unaryExpression .condition, bindLeft Level.unary <|
      role .operator (oneOf ["!", "~", "-", "+"]) ++ role .argument expression),
    (.form .callExpression .condition, bindAlone Level.call <|
      role .function (leaf .identifier) ++ role .arguments (conditionForm .argumentList)),
    (.form .argumentList .condition, tok "(" ++ commas expression ++ tok ")"),
    (.form .binaryExpression .condition, choice <|
      Level.ofOperators.map fun (operator, level) => bindLeft level <|
        role .left expression ++ role .operator (tok operator) ++ role .right expression)]

end NullFlow.C.Grammar
