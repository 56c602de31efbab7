import NullFlow.C.Grammar.Rule

/-!
# Declarations, declarators and types

A declarator resembles the expressions in which the declared thing is used. It names a variable, a
member of a structure or a type, and each of the three has declarators of its own, which differ in
the kind of the name only; a declarator without a name stands in casts and parameters.

Where a text can be read as a declaration and as an expression, the weights decide: a pointer
declarator speaks for a declaration, and a name in parentheses or a macro in the place of a type
speaks against one.
-/

namespace NullFlow.C.Grammar

open Rule

/-- The words of the sized types. -/
def sizeWord : Rule := oneOf ["signed", "unsigned", "long", "short"]

/-- A name as the name of a type. -/
def typeName : Rule := named .typeIdentifier (leaf .identifier)

/-- A name as the name of a member. -/
def fieldName : Rule := named .fieldIdentifier (leaf .identifier)

/-- A name as the name of a label. -/
def labelName : Rule := named .statementIdentifier (leaf .identifier)

def qualifiers : Rule := many (node .typeQualifier)

def callModifier : Rule := maybe (node .msCallModifier)

/-- The brackets of an array declarator. -/
def arraySuffix : Rule :=
  tok "[" ++ many (node .typeQualifier <|> tok "static")
    ++ role .size (maybe (group .expression <|> tok "*")) ++ tok "]"

/-- What stands before the declarator of a pointer. -/
def pointerMark : Rule := tok "*" ++ many (node .msPointerModifier) ++ qualifiers

/-! ## Declarators with one kind of name -/

/-- A declarator in parentheses. -/
def grouped (inner : Rule) : Rule :=
  weigh Level.groupedDeclarator (tok "(" ++ callModifier ++ inner ++ tok ")")

def attributed (inner : Rule) : Rule := bindRight 0 (inner ++ many1 (node .attributeDeclaration))

def pointer (inner : Rule) : Rule :=
  weigh 1 <| bindRight 0 <|
    maybe (node .msBasedModifier) ++ pointerMark ++ role .declarator inner

def functionOf (inner : Rule) : Rule :=
  bindAlone 1 (role .declarator inner ++ role .parameters (node .parameterList))

def arrayOf (inner : Rule) : Rule := bindAlone 1 (role .declarator inner ++ arraySuffix)

/-- The declarators of one setting around a name. -/
def declaratorIn (setting : Setting) (name : Rule) : Rule :=
  choice
    [form .attributedDeclarator setting, form .pointerDeclarator setting,
      form .functionDeclarator setting, form .arrayDeclarator setting,
      form .parenthesizedDeclarator setting, name]

/-! ## Function definitions and declarations -/

def functions : List (Symbol × Rule) :=
  [(.node .functionDefinition,
      callModifier ++ group .declarationSpecifiers ++ callModifier
        ++ role .declarator (group .declarator) ++ role .body (node .compoundStatement)),
    (.form .functionDefinition .oldStyle,
      callModifier ++ group .declarationSpecifiers
        ++ role .declarator (form .functionDeclarator .oldStyle) ++ many (node .declaration)
        ++ role .body (node .compoundStatement)),
    (.node .declaration,
      group .declarationSpecifiers
        ++ commas1 (role .declarator <|
          callModifier ++ group .declarationDeclarator ++ maybe (node .gnuAsmExpression)
            <|> node .initDeclarator)
        ++ tok ";"),
    (.node .typeDefinition,
      maybe (tok "__extension__") ++ tok "typedef" ++ group .typeDefinitionType
        ++ group .typeDefinitionDeclarators ++ many (node .attributeSpecifier) ++ tok ";"),
    (.group .typeDefinitionType, qualifiers ++ role .type (group .typeSpecifier) ++ qualifiers),
    (.group .typeDefinitionDeclarators, commas1 (role .declarator (group .typeDeclarator))),
    (.group .declarationModifiers, choice
      [node .storageClassSpecifier, node .typeQualifier, node .attributeSpecifier,
        node .attributeDeclaration, node .msDeclspecModifier]),
    (.group .declarationSpecifiers, bindRight 0 <|
      many (group .declarationModifiers) ++ role .type (group .typeSpecifier)
        ++ many (group .declarationModifiers)),
    (.node .linkageSpecification,
      tok "extern" ++ role .value (node .stringLiteral)
        ++ role .body (choice
          [node .functionDefinition, node .declaration, node .declarationList]))]

/-! ## Attributes and modifiers -/

def attributes : List (Symbol × Rule) :=
  [(.node .attributeSpecifier,
      oneOf ["__attribute__", "__attribute"] ++ tok "(" ++ node .argumentList ++ tok ")"),
    (.node .attribute,
      maybe (role .scope (leaf .identifier) ++ tok "::") ++ role .name (leaf .identifier)
        ++ maybe (node .argumentList)),
    (.node .attributeDeclaration, tok "[[" ++ commas1 (node .attribute) ++ tok "]]"),
    (.node .msDeclspecModifier, tok "__declspec" ++ tok "(" ++ leaf .identifier ++ tok ")"),
    (.node .msBasedModifier, tok "__based" ++ node .argumentList),
    (.node .msCallModifier, oneOf
      ["__cdecl", "__clrcall", "__stdcall", "__fastcall", "__thiscall", "__vectorcall"]),
    (.node .msUnalignedPointerModifier, oneOf ["_unaligned", "__unaligned"]),
    (.node .msPointerModifier, choice
      [node .msUnalignedPointerModifier, leaf .msRestrictModifier,
        leaf .msUnsignedPointerModifier, leaf .msSignedPointerModifier]),
    (.node .declarationList, tok "\x7b" ++ many (group .blockItem) ++ tok "\x7d")]

/-! ## Declarators -/

def declarators : List (Symbol × Rule) :=
  let plain : Rule := group .declarator
  let field : Rule := group .fieldDeclarator
  let type : Rule := group .typeDeclarator
  let abstract : Rule := group .abstractDeclarator
  let parameters : Rule := role .parameters (node .parameterList)
  [(.group .declarator, choice
      [node .attributedDeclarator, node .pointerDeclarator, node .functionDeclarator,
        node .arrayDeclarator, node .parenthesizedDeclarator, leaf .identifier]),
    (.group .declarationDeclarator, choice
      [node .attributedDeclarator, node .pointerDeclarator,
        form .functionDeclarator .declaration, node .arrayDeclarator,
        node .parenthesizedDeclarator, leaf .identifier]),
    (.group .fieldDeclarator, declaratorIn .field fieldName),
    (.group .typeDeclarator, declaratorIn .type <| choice
      [typeName, named .typeIdentifier sizeWord, leaf .primitiveType]),
    (.group .abstractDeclarator, choice
      [node .abstractPointerDeclarator, node .abstractFunctionDeclarator,
        node .abstractArrayDeclarator, node .abstractParenthesizedDeclarator]),
    (.node .parenthesizedDeclarator, grouped plain),
    (.form .parenthesizedDeclarator .field, grouped field),
    (.form .parenthesizedDeclarator .type, grouped type),
    (.node .abstractParenthesizedDeclarator, bindAlone 1 <|
      tok "(" ++ callModifier ++ abstract ++ tok ")"),
    (.node .attributedDeclarator, attributed plain),
    (.form .attributedDeclarator .field, attributed field),
    (.form .attributedDeclarator .type, attributed type),
    (.node .pointerDeclarator, pointer plain),
    (.form .pointerDeclarator .field, pointer field),
    (.form .pointerDeclarator .type, pointer type),
    (.node .abstractPointerDeclarator, weigh 1 <| bindRight 0 <|
      pointerMark ++ role .declarator (maybe abstract)),
    (.node .functionDeclarator, bindRight 1 <|
      role .declarator plain ++ parameters ++ maybe (node .gnuAsmExpression)
        ++ many (choice
          [node .attributeSpecifier, leaf .identifier, form .callExpression .condition])),
    (.form .functionDeclarator .declaration, bindRight 1 <|
      role .declarator plain ++ parameters ++ maybe (node .gnuAsmExpression)
        ++ many (node .attributeSpecifier)),
    (.form .functionDeclarator .field, functionOf field),
    (.form .functionDeclarator .type, functionOf type),
    (.node .abstractFunctionDeclarator, functionOf (maybe abstract)),
    (.form .functionDeclarator .oldStyle,
      role .declarator plain ++ role .parameters (form .parameterList .oldStyle)),
    (.node .arrayDeclarator, arrayOf plain),
    (.form .arrayDeclarator .field, arrayOf field),
    (.form .arrayDeclarator .type, arrayOf type),
    (.node .abstractArrayDeclarator, arrayOf (maybe abstract)),
    (.node .initDeclarator,
      role .declarator plain ++ tok "="
        ++ role .value (node .initializerList <|> group .expression)),
    (.node .compoundStatement, tok "\x7b" ++ many (group .blockItem) ++ tok "\x7d")]

/-! ## Types -/

/-- A structure or a union: its name, its members or both. -/
def record (word : String) (before : Rule) : Rule :=
  bindRight 0 <|
    tok word ++ before
      ++ (role .name typeName ++ role .body (maybe (node .fieldDeclarationList))
        <|> role .body (node .fieldDeclarationList))
      ++ maybe (node .attributeSpecifier)

/-- The type that a size or a sign goes with. A name there may as well be what is declared. -/
def sizedBase : Rule := role .type (maybe (weigh (-1) typeName <|> leaf .primitiveType))

def types : List (Symbol × Rule) :=
  [(.node .storageClassSpecifier, oneOf
      ["extern", "static", "auto", "register", "inline", "__inline", "__inline__",
        "__forceinline", "thread_local", "__thread"]),
    (.node .typeQualifier,
      oneOf ["const", "constexpr", "volatile", "restrict", "__restrict__", "__extension__",
          "_Atomic", "_Noreturn", "noreturn", "_Nonnull"]
        <|> node .alignasQualifier),
    (.node .alignasQualifier,
      oneOf ["alignas", "_Alignas"] ++ tok "("
        ++ (group .expression <|> node .typeDescriptor) ++ tok ")"),
    (.group .typeSpecifier, choice
      [node .structSpecifier, node .unionSpecifier, node .enumSpecifier, node .macroTypeSpecifier,
        node .sizedTypeSpecifier, leaf .primitiveType, typeName]),
    (.node .sizedTypeSpecifier,
      many sizeWord ++ sizedBase ++ many1 sizeWord
        <|> many1 sizeWord ++ qualifiers ++ sizedBase ++ many sizeWord),
    (.node .enumSpecifier,
      tok "enum"
        ++ (role .name typeName ++ maybe (tok ":" ++ role .underlyingType (leaf .primitiveType))
            ++ role .body (maybe (node .enumeratorList))
          <|> role .body (node .enumeratorList))
        ++ maybe (node .attributeSpecifier)),
    (.node .enumeratorList,
      tok "\x7b"
        ++ many (choice
          [node .enumerator ++ tok ",", form .preprocIf .enumeratorList,
            form .preprocIfdef .enumeratorList, node .preprocCall ++ tok ","])
        ++ maybe (choice
          [node .enumerator, form .preprocIf .lastEnumerators, form .preprocIfdef .lastEnumerators,
            node .preprocCall])
        ++ tok "\x7d"),
    (.node .structSpecifier,
      record "struct" (maybe (node .attributeSpecifier) ++ maybe (node .msDeclspecModifier))),
    (.node .unionSpecifier, record "union" (maybe (node .msDeclspecModifier))),
    (.node .fieldDeclarationList, tok "\x7b" ++ many (group .fieldListItem) ++ tok "\x7d"),
    (.group .fieldListItem, choice
      [node .fieldDeclaration, node .preprocDefine, node .preprocFunctionDefine, node .preprocCall,
        form .preprocIf .fieldList, form .preprocIfdef .fieldList]),
    (.node .fieldDeclaration,
      group .declarationSpecifiers ++ maybe (group .fieldDeclarators)
        ++ maybe (node .attributeSpecifier) ++ tok ";"),
    (.group .fieldDeclarators,
      commas1 (role .declarator (group .fieldDeclarator) ++ maybe (node .bitfieldClause))),
    (.node .bitfieldClause, tok ":" ++ group .expression),
    (.node .enumerator,
      role .name (leaf .identifier) ++ maybe (tok "=" ++ role .value (group .expression))),
    (.node .variadicParameter, tok "..."),
    (.node .parameterList,
      tok "("
        ++ (commas (node .parameterDeclaration <|> node .variadicParameter)
          <|> node .compoundStatement)
        ++ tok ")"),
    (.form .parameterList .oldStyle,
      tok "(" ++ commas (leaf .identifier <|> node .variadicParameter) ++ tok ")"),
    (.node .parameterDeclaration,
      group .declarationSpecifiers
        ++ maybe (role .declarator (group .declarator <|> group .abstractDeclarator))
        ++ many (node .attributeSpecifier))]

end NullFlow.C.Grammar
