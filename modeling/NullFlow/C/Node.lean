/-!
# Syntax trees of C

A source file is read as a **concrete syntax tree**: every token of the source is a leaf, comments
included, and every construct of the language is a node above the leaves it is made of. A node knows
its kind, the role it plays in the construct around it, the text it covers and where that text
begins. The analyses look at kinds, roles and texts; they never look at the source itself.

**Named nodes** are the constructs and the tokens with a meaning of their own (identifiers,
literals, comments). The other leaves are **tokens** such as a brace or an operator, whose kind is
their text.
-/

namespace NullFlow.C

/-- **The kind of a node**: one constructor for each construct of the grammar, and `token` for
punctuation, operators and key words. -/
inductive Kind where
  | token (text : String)
  | abstractArrayDeclarator
  | abstractFunctionDeclarator
  | abstractParenthesizedDeclarator
  | abstractPointerDeclarator
  | alignasQualifier
  | alignofExpression
  | argumentList
  | arrayDeclarator
  | assignmentExpression
  | attribute
  | attributeDeclaration
  | attributeSpecifier
  | attributedDeclarator
  | attributedStatement
  | binaryExpression
  | bitfieldClause
  | breakStatement
  | callExpression
  | caseStatement
  | castExpression
  | charLiteral
  | character
  | commaExpression
  | comment
  | compoundLiteralExpression
  | compoundStatement
  | concatenatedString
  | conditionalExpression
  | continueStatement
  | declaration
  | declarationList
  | doStatement
  | elseClause
  | enumSpecifier
  | enumerator
  | enumeratorList
  | error
  | escapeSequence
  | expressionStatement
  | extensionExpression
  | falseLiteral
  | fieldDeclaration
  | fieldDeclarationList
  | fieldDesignator
  | fieldExpression
  | fieldIdentifier
  | forStatement
  | functionDeclarator
  | functionDefinition
  | genericExpression
  | gnuAsmClobberList
  | gnuAsmExpression
  | gnuAsmGotoList
  | gnuAsmInputOperand
  | gnuAsmInputOperandList
  | gnuAsmOutputOperand
  | gnuAsmOutputOperandList
  | gnuAsmQualifier
  | gotoStatement
  | identifier
  | ifStatement
  | initDeclarator
  | initializerList
  | initializerPair
  | labeledStatement
  | linkageSpecification
  | macroTypeSpecifier
  | msBasedModifier
  | msCallModifier
  | msDeclspecModifier
  | msPointerModifier
  | msRestrictModifier
  | msSignedPointerModifier
  | msUnalignedPointerModifier
  | msUnsignedPointerModifier
  | nullLiteral
  | numberLiteral
  | offsetofExpression
  | parameterDeclaration
  | parameterList
  | parenthesizedDeclarator
  | parenthesizedExpression
  | pointerDeclarator
  | pointerExpression
  | preprocArgument
  | preprocCall
  | preprocDefine
  | preprocDefined
  | preprocDirective
  | preprocElif
  | preprocElifdef
  | preprocElse
  | preprocFunctionDefine
  | preprocIf
  | preprocIfdef
  | preprocInclude
  | preprocParameters
  | primitiveType
  | returnStatement
  | sehExceptClause
  | sehFinallyClause
  | sehLeaveStatement
  | sehTryStatement
  | sizedTypeSpecifier
  | sizeofExpression
  | statementIdentifier
  | storageClassSpecifier
  | stringContent
  | stringLiteral
  | structSpecifier
  | subscriptDesignator
  | subscriptExpression
  | subscriptRangeDesignator
  | switchStatement
  | systemHeader
  | translationUnit
  | trueLiteral
  | typeDefinition
  | typeDescriptor
  | typeIdentifier
  | typeQualifier
  | unaryExpression
  | unionSpecifier
  | updateExpression
  | variadicParameter
  | whileStatement
  deriving DecidableEq, Repr, Inhabited, Hashable

/-- **The role of a node** in the construct around it: the left operand, the condition, the body. -/
inductive Role where
  | alternative
  | argument
  | arguments
  | assemblyCode
  | body
  | clobbers
  | condition
  | consequence
  | constraint
  | declarator
  | designator
  | directive
  | field
  | filter
  | function
  | gotoLabels
  | index
  | initializer
  | inputOperands
  | label
  | left
  | member
  | name
  | operand
  | operator
  | outputOperands
  | parameters
  | path
  | register
  | right
  | scope
  | size
  | start
  | stop
  | symbol
  | target
  | type
  | underlyingType
  | update
  | value
  deriving DecidableEq, Repr, Hashable

/-- **A node of the syntax tree.** Lines and columns count from one, columns in bytes. -/
structure Node where
  kind : Kind
  /-- The role in the construct around the node, if it has one. -/
  role : Option Role
  /-- The source text the node covers, comments and white space inside it included. -/
  text : String
  line : Nat
  column : Nat
  children : List Node
  deriving Inhabited

namespace Node

/-- Whether the node is a construct, a literal, a name or a comment, and not a bare token. -/
def isNamed (n : Node) : Bool :=
  match n.kind with
  | .token _ => false
  | _ => true

/-- The children that are no bare tokens; comments are among them. -/
def namedChildren (n : Node) : List Node := n.children.filter isNamed

/-- The first named child, which may be a comment. -/
def firstNamed? (n : Node) : Option Node := n.children.find? isNamed

/-- The first child in the given role. -/
def child? (n : Node) (r : Role) : Option Node := n.children.find? (·.role == some r)

/-- All children in the given role. -/
def childrenIn (n : Node) (r : Role) : List Node := n.children.filter (·.role == some r)

/-- The operator of an expression, as its token. -/
def hasOperator (n : Node) (text : String) : Bool :=
  match n.child? .operator with
  | some op => op.kind == .token text
  | none => false

/-- A child is smaller than its parent. -/
theorem sizeOf_lt_of_mem {n c : Node} (h : c ∈ n.children) : sizeOf c < sizeOf n := by
  have := List.sizeOf_lt_of_mem h
  cases n
  simp_all
  omega

theorem mem_children_of_child? {n c : Node} {r : Role} (h : n.child? r = some c) :
    c ∈ n.children := List.mem_of_find?_eq_some h

theorem mem_children_of_firstNamed? {n c : Node} (h : n.firstNamed? = some c) :
    c ∈ n.children := List.mem_of_find?_eq_some h

theorem mem_children_of_namedChildren {n c : Node} (h : c ∈ n.namedChildren) :
    c ∈ n.children := (List.mem_filter.mp h).1

theorem mem_children_of_childrenIn {n c : Node} {r : Role} (h : c ∈ n.childrenIn r) :
    c ∈ n.children := (List.mem_filter.mp h).1

/-- The child in a role is smaller than its parent. -/
theorem sizeOf_child? {n c : Node} {r : Role} (h : n.child? r = some c) : sizeOf c < sizeOf n :=
  sizeOf_lt_of_mem (mem_children_of_child? h)

/-- The first named child is smaller than its parent. -/
theorem sizeOf_firstNamed? {n c : Node} (h : n.firstNamed? = some c) : sizeOf c < sizeOf n :=
  sizeOf_lt_of_mem (mem_children_of_firstNamed? h)

/-- A named child is smaller than its parent. -/
theorem sizeOf_namedChildren {n c : Node} (h : c ∈ n.namedChildren) : sizeOf c < sizeOf n :=
  sizeOf_lt_of_mem (mem_children_of_namedChildren h)

theorem sizeOf_childrenIn {n c : Node} {r : Role} (h : c ∈ n.childrenIn r) :
    sizeOf c < sizeOf n :=
  sizeOf_lt_of_mem (mem_children_of_childrenIn h)

end Node

end NullFlow.C
