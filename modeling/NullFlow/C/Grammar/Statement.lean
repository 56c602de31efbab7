import NullFlow.C.Grammar.Expression

/-!
# Statements

A statement may stand outside of all functions as well, where an expression statement is one only if
its expression is no binary one. A declaration may follow a label and stand among the statements of
a case.
-/

namespace NullFlow.C.Grammar

open Rule

/-- One expression or several with commas between. -/
def expressions : Rule := group .expression <|> node .commaExpression

/-- The statements that are no case of a switch. -/
def plainStatements : List Kind :=
  [.attributedStatement, .labeledStatement, .compoundStatement, .expressionStatement, .ifStatement,
   .switchStatement, .doStatement, .whileStatement, .forStatement, .returnStatement,
   .breakStatement, .continueStatement, .gotoStatement, .sehTryStatement, .sehLeaveStatement]

def plainStatement : Rule := choice (plainStatements.map node)

/-- A condition in its parentheses. -/
def condition : Rule := role .condition (node .parenthesizedExpression)

def body : Rule := role .body (group .statement)

/-- **Statements.** -/
def statements : List (Symbol × Rule) :=
  let compound : Rule := role .body (node .compoundStatement)
  [(.node .attributedStatement, many1 (node .attributeDeclaration) ++ group .statement),
    (.group .statement, node .caseStatement <|> plainStatement),
    (.group .topLevelStatement, choice
      [node .caseStatement, node .attributedStatement, node .labeledStatement,
        node .compoundStatement, form .expressionStatement .topLevel, node .ifStatement,
        node .switchStatement, node .doStatement, node .whileStatement, node .forStatement,
        node .returnStatement, node .breakStatement, node .continueStatement,
        node .gotoStatement]),
    (.node .labeledStatement,
      role .label labelName ++ tok ":" ++ (node .declaration <|> group .statement)),
    (.form .expressionStatement .topLevel, maybe operand ++ tok ";"),
    (.node .expressionStatement, maybe expressions ++ tok ";"),
    (.node .ifStatement, bindRight 0 <|
      tok "if" ++ condition ++ role .consequence (group .statement)
        ++ maybe (role .alternative (node .elseClause))),
    (.node .elseClause, tok "else" ++ group .statement),
    (.node .switchStatement, tok "switch" ++ condition ++ compound),
    (.node .caseStatement, bindRight 0 <|
      (tok "case" ++ role .value (group .expression) <|> tok "default") ++ tok ":"
        ++ many (choice [plainStatement, node .declaration, node .typeDefinition])),
    (.node .whileStatement, tok "while" ++ condition ++ body),
    (.node .doStatement, tok "do" ++ body ++ tok "while" ++ condition ++ tok ";"),
    (.node .forStatement, tok "for" ++ tok "(" ++ group .forBody ++ tok ")" ++ body),
    (.group .forBody,
      (role .initializer (node .declaration)
          <|> role .initializer (maybe expressions) ++ tok ";")
        ++ role .condition (maybe expressions) ++ tok ";" ++ role .update (maybe expressions)),
    (.node .returnStatement, tok "return" ++ maybe expressions ++ tok ";"),
    (.node .breakStatement, tok "break" ++ tok ";"),
    (.node .continueStatement, tok "continue" ++ tok ";"),
    (.node .gotoStatement, tok "goto" ++ role .label labelName ++ tok ";"),
    (.node .sehTryStatement,
      tok "__try" ++ compound ++ (node .sehExceptClause <|> node .sehFinallyClause)),
    (.node .sehExceptClause,
      tok "__except" ++ role .filter (node .parenthesizedExpression) ++ compound),
    (.node .sehFinallyClause, tok "__finally" ++ compound),
    (.node .sehLeaveStatement, tok "__leave" ++ tok ";")]

end NullFlow.C.Grammar
