import NullFlow.C.Lexicon.Basic

/-!
# Rules of a grammar

A grammar gives each of its **symbols** a rule, and a rule says which tokens and symbols stand for
it, in which roles they do so, and how tightly operators bind. A symbol is one of three:

* a construct, which becomes a node of the syntax tree;
* a form of a construct that is met in one setting only, such as the preprocessor conditional inside
  of an enumeration, which becomes the same node as the construct itself;
* a group, which becomes no node, so that its parts are parts of the construct around it.
-/

namespace NullFlow.C

/-- **Groups**: symbols that leave no node in the tree. -/
inductive Group where
  | topLevelItem
  | blockItem
  | preprocExpression
  | typeDefinitionType
  | typeDefinitionDeclarators
  | declarationModifiers
  | declarationSpecifiers
  | declarator
  | declarationDeclarator
  | fieldDeclarator
  | typeDeclarator
  | abstractDeclarator
  | typeSpecifier
  | fieldListItem
  | fieldDeclarators
  | statement
  | topLevelStatement
  | forBody
  | expression
  | string
  | emptyDeclaration
  deriving DecidableEq, Repr

/-- Whether the group is a category, a name for any one of several constructs. -/
def Group.isCategory : Group → Bool
  | expression | statement | typeSpecifier | declarator | fieldDeclarator | typeDeclarator
  | abstractDeclarator => true
  | _ => false

/-- **Settings** in which a construct has a form of its own. -/
inductive Setting where
  /-- Among the members of a structure. -/
  | fieldList
  /-- Among the members of an enumeration. -/
  | enumeratorList
  /-- At the end of the members of an enumeration. -/
  | lastEnumerators
  /-- In a condition of the preprocessor. -/
  | condition
  /-- Where a member of a structure is declared. -/
  | field
  /-- Where a type is named. -/
  | type
  /-- In a declaration that has no body. -/
  | declaration
  /-- In a function whose parameters are declared after the parentheses. -/
  | oldStyle
  /-- Outside of all functions. -/
  | topLevel
  deriving DecidableEq, Repr

/-- **The symbols of the grammar.** -/
inductive Symbol where
  | node (kind : Kind)
  | form (kind : Kind) (setting : Setting)
  | group (g : Group)
  deriving DecidableEq, Repr

namespace Symbol

/-- The kind of the node that the symbol becomes. -/
def kind? : Symbol → Option Kind
  | node k => some k
  | form k _ => some k
  | group _ => none

/-- Whether the symbol becomes a node. -/
def isNode (s : Symbol) : Bool := s.kind?.isSome

/-- **Whether the roles inside of the symbol are open**: they count for the construct around it as
well. If the symbol becomes a node, they count for no construct further out. -/
def isOpen : Symbol → Bool
  | node _ => false
  | form _ s => s == .declaration || s == .oldStyle || s == .topLevel
  | group _ => true

/-- Whether the symbol does nothing but pass on what stands for it. -/
def isPassing : Symbol → Bool
  | group g => !g.isCategory
  | _ => false

end Symbol

/-- To which side operators of one level group. -/
inductive Side where
  | left
  | right
  deriving DecidableEq, Repr, Hashable

/-- **Rules.** -/
inductive Rule where
  | nothing
  | token (t : Token)
  | symbol (s : Symbol)
  | next (first second : Rule)
  | either (first second : Rule)
  /-- The rule once or more often. -/
  | many1 (r : Rule)
  /-- The parts have a role in the construct around them. -/
  | role (role : Role) (r : Rule)
  /-- The part becomes a node of another kind than its own. -/
  | named (kind : Kind) (r : Rule)
  /-- How tightly the parts bind, and to which side. -/
  | bind (level : Int) (side : Option Side) (r : Rule)
  /-- What a reading by this rule weighs against another reading of the same text. -/
  | weigh (weight : Int) (r : Rule)
  deriving DecidableEq, Repr

namespace Rule

instance : Append Rule := ⟨next⟩

instance : OrElse Rule := ⟨fun a b => either a (b ())⟩

instance : Coe Symbol Rule := ⟨symbol⟩

/-- The rule, or nothing. -/
def maybe (r : Rule) : Rule := r <|> nothing

/-- The rule any number of times. -/
def many (r : Rule) : Rule := maybe (many1 r)

/-- One of several rules. -/
def choice : List Rule → Rule
  | [] => nothing
  | [r] => r
  | r :: rs => r <|> choice rs

/-- A key word or a mark. -/
def tok (s : String) : Rule := token (.text s)

/-- One of several key words or marks. -/
def oneOf (texts : List String) : Rule := choice (texts.map tok)

/-- A lexeme with a text of its own. -/
def leaf (k : Kind) : Rule := token (.leaf k)

/-- A construct. -/
def node (k : Kind) : Rule := symbol (.node k)

/-- A group of constructs. -/
def group (g : Group) : Rule := symbol (.group g)

/-- The form of a construct in a setting. -/
def form (k : Kind) (s : Setting) : Rule := symbol (.form k s)

/-- The rule once or more often, with commas between. -/
def commas1 (r : Rule) : Rule := r ++ many (tok "," ++ r)

/-- The rule any number of times, with commas between. -/
def commas (r : Rule) : Rule := maybe (commas1 r)

/-- Operators that group to the left. -/
def bindLeft (level : Int) (r : Rule) : Rule := bind level (some .left) r

/-- Operators that group to the right. -/
def bindRight (level : Int) (r : Rule) : Rule := bind level (some .right) r

/-- Operators of one level that cannot stand side by side. -/
def bindAlone (level : Int) (r : Rule) : Rule := bind level none r

end Rule

/-! ## Levels of binding -/

namespace Level

def groupedDeclarator : Int := -10
def assignment : Int := -2
def conditional : Int := -1
def logicalOr : Int := 1
def logicalAnd : Int := 2
def inclusiveOr : Int := 3
def exclusiveOr : Int := 4
def bitwiseAnd : Int := 5
def equal : Int := 6
def relational : Int := 7
def offsetOf : Int := 8
def shift : Int := 9
def add : Int := 10
def multiply : Int := 11
def cast : Int := 12
def measure : Int := 13
def unary : Int := 14
def call : Int := 15
def field : Int := 16
def subscript : Int := 17

/-- The binary operators with their levels. -/
def ofOperators : List (String × Int) :=
  [("+", add), ("-", add), ("*", multiply), ("/", multiply), ("%", multiply), ("||", logicalOr),
   ("&&", logicalAnd), ("|", inclusiveOr), ("^", exclusiveOr), ("&", bitwiseAnd), ("==", equal),
   ("!=", equal), (">", relational), (">=", relational), ("<=", relational), ("<", relational),
   ("<<", shift), (">>", shift)]

end Level

end NullFlow.C
