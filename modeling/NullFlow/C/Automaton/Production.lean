import NullFlow.C.Grammar.Basic

/-!
# Productions

A rule with choices and repetitions stands for a list of **productions**, each a plain sequence of
symbols. `Productions.ofRules` writes out the rules of a grammar in this way and numbers the
symbols: first the tokens, then the end of the text, then the symbols of the grammar in the order of
their rules, and last one symbol for every sort of repetition. A repetition is made of two shorter
ones or of one of the things that are repeated.
-/

namespace NullFlow.C

/-- How tightly the parts of a rule bind, and to which side. -/
structure Binding where
  level : Int
  side? : Option Side
  deriving DecidableEq, Repr, Hashable, Inhabited

/-- **One part of a production.** -/
structure Step where
  /-- The number of the symbol. -/
  symbol : Nat
  /-- The kind that the part takes in place of its own. -/
  kind? : Option Kind
  role? : Option Role
  binding? : Option Binding
  deriving DecidableEq, Repr, Hashable, Inhabited

/-- The level at which a part binds; zero unless a rule says something else. -/
def Step.level (s : Step) : Int := (s.binding?.map (·.level)).getD 0

/-- **A sequence of symbols that stands for another symbol.** -/
structure Production where
  /-- The place of the symbol among those of the grammar. -/
  head : Nat
  steps : List Step
  weight : Int
  deriving DecidableEq, Repr, Inhabited

namespace Rule

/-- The contents of all repetitions in a rule, those of inner ones first, after others. -/
def repetitions : Rule → List Rule → List Rule
  | nothing, found => found
  | token _, found => found
  | symbol _, found => found
  | next a b, found => b.repetitions (a.repetitions found)
  | either a b, found => b.repetitions (a.repetitions found)
  | many1 a, found =>
    let found := a.repetitions found
    if found.contains a then found else found ++ [a]
  | role _ a, found => a.repetitions found
  | named _ a, found => a.repetitions found
  | bind _ _ a, found => a.repetitions found
  | weigh _ a, found => a.repetitions found

end Rule

/-- **The symbols of a grammar and their numbers.** -/
structure Numbering where
  tokens : List Token
  symbols : List Symbol
  /-- What is repeated by each of the symbols for repetitions. -/
  repeated : List Rule
  deriving Inhabited

namespace Numbering

/-- The number that stands for the end of the text. -/
def finish (n : Numbering) : Nat := n.tokens.length

/-- How many symbols there are besides the tokens. -/
def heads (n : Numbering) : Nat := n.symbols.length + n.repeated.length

/-- The number of a symbol, given its place among those of the grammar. -/
def ofHead (n : Numbering) (head : Nat) : Nat := n.finish + 1 + head

/-- The place of a symbol among those of the grammar, if it is no token. -/
def head? (n : Numbering) (symbol : Nat) : Option Nat :=
  if n.finish < symbol then some (symbol - n.finish - 1) else none

def ofToken (n : Numbering) (t : Token) : Nat := n.tokens.findIdx (· == t)

def ofSymbol (n : Numbering) (s : Symbol) : Nat := n.ofHead (n.symbols.findIdx (· == s))

def ofRepeated (n : Numbering) (r : Rule) : Nat :=
  n.ofHead (n.symbols.length + n.repeated.findIdx (· == r))

/-- Whether the symbol stands for a repetition. -/
def isRepetition (n : Numbering) (head : Nat) : Bool := n.symbols.length ≤ head

end Numbering

/-- The weight with the greater amount. -/
def heavier (v w : Int) : Int := if v.natAbs < w.natAbs then w else v

namespace Rule

/-- **The sequences of a rule**, each with its weight. What is said of a part inside of the rule
counts more than what is said around it. -/
def sequences (n : Numbering) : Rule → List (List Step × Int)
  | nothing => [([], 0)]
  | token t => [([⟨n.ofToken t, none, none, none⟩], 0)]
  | symbol s => [([⟨n.ofSymbol s, none, none, none⟩], 0)]
  | many1 a => [([⟨n.ofRepeated a, none, none, none⟩], 0)]
  | next a b =>
    let second := b.sequences n
    (a.sequences n).flatMap fun (s, v) => second.map fun (t, w) => (s ++ t, heavier v w)
  | either a b => a.sequences n ++ b.sequences n
  | role r a => (a.sequences n).map fun (s, w) =>
      (s.map fun x => { x with role? := x.role?.or (some r) }, w)
  | named k a => (a.sequences n).map fun (s, w) =>
      (s.map fun x => { x with kind? := x.kind?.or (some k) }, w)
  | bind level side a => (a.sequences n).map fun (s, w) =>
      (s.map fun x => { x with binding? := x.binding?.or (some ⟨level, side⟩) }, w)
  | weigh weight a => (a.sequences n).map fun (s, w) => (s, heavier weight w)

/-- The productions of a rule. -/
def productions (n : Numbering) (head : Nat) (r : Rule) : List Production :=
  ((r.sequences n).map fun (s, w) => (⟨head, s, w⟩ : Production)).eraseDups

end Rule

/-- **The productions of a grammar**, by the symbol they stand for. -/
structure Productions where
  numbering : Numbering
  byHead : Array (List Production)
  /-- Whether the roles inside of a symbol count for the construct around it. -/
  isOpen : Array Bool
  /-- Whether a symbol becomes a node. -/
  isNode : Array Bool
  deriving Inhabited

namespace Productions

/-- The productions of a repetition: two shorter ones, or the rule that is repeated. -/
def ofRepetition (n : Numbering) (head : Nat) (r : Rule) : List Production :=
  let itself : Step := ⟨n.ofHead head, none, none, none⟩
  (⟨head, [itself, itself], 0⟩ :: r.productions n head).eraseDups

/-- **Writes out the rules of a grammar.** -/
def ofRules (tokens : List Token) (rules : List (Symbol × Rule)) : Productions :=
  let repeated := rules.foldl (fun found r => r.2.repetitions found) []
  let n : Numbering := ⟨tokens, rules.map (·.1), repeated⟩
  let plain := rules.zipIdx.map fun ((_, r), head) => r.productions n head
  let repetitions := repeated.zipIdx.map fun (r, i) => ofRepetition n (rules.length + i) r
  ⟨n, (plain ++ repetitions).toArray,
    (rules.map (·.1.isOpen) ++ repeated.map fun _ => true).toArray,
    (rules.map (·.1.isNode) ++ repeated.map fun _ => false).toArray⟩

/-- All productions. -/
def all (g : Productions) : List Production := g.byHead.toList.flatten

end Productions

end NullFlow.C
