import NullFlow.C.Grammar.Expression
import NullFlow.C.Grammar.Preprocessor
import NullFlow.C.Grammar.Statement

/-!
# The grammar of C

`Grammar.rules` lists the rules of all symbols; the first is that of a whole file. The grammar knows
the common extensions: attributes, inline assembly, statement expressions, structured exception
handling, and preprocessor lines wherever a declaration, a statement or a member may stand.
-/

namespace NullFlow.C.Grammar

open Rule

/-- What may stand in a file as well as in a block. -/
def itemsAround (statements : List Rule) : Rule :=
  choice <|
    [node .functionDefinition, form .functionDefinition .oldStyle, node .linkageSpecification,
      node .declaration] ++ statements
      ++ [node .attributedStatement, node .typeDefinition, group .emptyDeclaration,
        node .preprocIf, node .preprocIfdef, node .preprocInclude, node .preprocDefine,
        node .preprocFunctionDefine, node .preprocCall]

/-- Files and the items in them. -/
def files : List (Symbol × Rule) :=
  [(.node .translationUnit, many (group .topLevelItem)),
    (.group .topLevelItem, itemsAround [group .topLevelStatement]),
    (.group .blockItem, itemsAround [group .statement])]

/-- **The rules of all symbols.** -/
def rules : List (Symbol × Rule) :=
  files ++ preprocessor ++ functions ++ attributes ++ declarators ++ types ++ statements
    ++ operations ++ assembly ++ operands ++ literals

end NullFlow.C.Grammar
