import Mathlib.Logic.Relation
import NullFlow.Proofs.Condition.OfNode
import NullFlow.Proofs.Expression.Correspondence

/-!
# Redundant parentheses

`Node.Wrapped` says that an expression is another one with parentheses put around some of its parts,
any number of them, and around itself. All look-ups see through them, so nothing changes of what is
read off the expression (`Node.Wrapped.readsAlike`), with one exception: a function is called by its
name only where the name stands bare. So `(f)(p)` calls nothing (`Node.facts_callee_parenthesized`),
and all that parentheses around called names do is that the facts lose calls
(`Node.Wrapped.reads_same`).
-/

namespace NullFlow

/-- The fact is a call. -/
def Fact.isCall : Fact → Bool
  | .call _ _ _ => true
  | .deref _ _ _ | .assign _ _ _ => false

namespace C.Node

/-- **Parentheses around a node**: it is all that they contain. -/
structure Encloses (m inner : Node) : Prop where
  kind : m.kind = .parenthesizedExpression
  named : m.namedChildren = [inner]
  role : ∀ c ∈ m.children, c.role = none

/-- Nodes agree in what is read off themselves. -/
structure Resembles (n m : Node) : Prop where
  kind : n.kind = m.kind
  line : n.line = m.line
  text (hkind : n.kind = .identifier ∨ n.kind = .numberLiteral) : n.text = m.text

/-- **A part of a node may be put in parentheses**: any part but tokens, comments, declarators and
lists of arguments. The names of called functions are left out if this is asked for. -/
structure Admits (callees : Bool) (n c : Node) : Prop where
  isNamed : c.isNamed = true
  kind : c.kind ≠ .comment
  role : c.role ∉ [some .declarator, some .arguments]
  /-- A part that stands in for a declarator is none that may be put in parentheses. -/
  declarator (hkind : n.kind ∈ wrappers) : (n.child? .declarator).isSome = true
  callee (hrole : c.role = some .function) (hkind : c.kind = .identifier) :
    callees = true ∧ c.children = []

/-- **Parentheses are put** around some nodes, which are parts of a node, and around parts of
them. -/
inductive Parenthesized (callees : Bool) : Node → List Node → List Node → Prop
  | nil {n : Node} : Parenthesized callees n [] []
  | cons {n c d inner : Node} {cs ds : List Node} (hrole : c.role = d.role)
      (hlayers : Relation.ReflTransGen Encloses d inner) (hadmits : d = inner ∨ n.Admits callees c)
      (hresembles : c.Resembles inner)
      (hchildren : Parenthesized callees c c.children inner.children)
      (h : Parenthesized callees n cs ds) : Parenthesized callees n (c :: cs) (d :: ds)

/-- **A node is kept**, with parentheses around parts of it. -/
structure Kept (callees : Bool) (n m : Node) : Prop where
  resembles : n.Resembles m
  children : Parenthesized callees n n.children m.children

/-- **A node in redundant parentheses**, with parentheses around parts of it. -/
def Wrapped (callees : Bool) (n m : Node) : Prop :=
  ∃ inner, Relation.ReflTransGen Encloses m inner ∧ n.Kept callees inner

variable {callees : Bool} {nulls : List String} {guarded : Vars} {n m c d inner : Node}

/-! ## Layers of parentheses -/

namespace Encloses

theorem firstNamed?_eq (h : m.Encloses inner) : m.firstNamed? = some inner := by
  have hfirst : m.firstNamed? = m.namedChildren.head? := List.head?_filter.symm
  rw [hfirst, h.named]
  rfl

theorem child?_eq_none (h : m.Encloses inner) (r : Role) : m.child? r = none := by
  refine List.find?_eq_none.mpr fun c hc => ?_
  rw [h.role c hc]
  exact Bool.false_ne_true

/-- Parentheses read like what they contain. -/
theorem readsAlike (h : m.Encloses inner) (nulls : List String) : m.ReadsAlike nulls inner where
  plainVariable?_eq := plainVariable?_parenthesized h.kind h.firstNamed?_eq
  isNullConstant_eq := isNullConstant_parenthesized h.kind h.firstNamed?_eq
  comparedVariable?_eq := comparedVariable?_parenthesized h.kind h.firstNamed?_eq
  nullTest_eq := nullTest_parenthesized h.kind h.firstNamed?_eq
  storedValue_eq := storedValue_parenthesized h.kind (h.child?_eq_none .value) h.firstNamed?_eq

/-- Parentheses do what they contain does. -/
theorem factsUnder_eq (h : m.Encloses inner) (guarded : Vars) :
    m.factsUnder nulls guarded = inner.factsUnder nulls guarded := by
  rw [factsUnder_eq_flatMap (by rw [h.kind]; decide), h.named, List.flatMap_singleton]

end Encloses

theorem readsAlike_of_layers (h : Relation.ReflTransGen Encloses m inner) :
    m.ReadsAlike nulls inner := by
  induction h using Relation.ReflTransGen.head_induction_on with
  | refl => exact ⟨rfl, rfl, rfl, rfl, rfl⟩
  | head hm _ ih => exact (hm.readsAlike nulls).trans ih

theorem factsUnder_of_layers (h : Relation.ReflTransGen Encloses m inner) :
    m.factsUnder nulls guarded = inner.factsUnder nulls guarded := by
  induction h using Relation.ReflTransGen.head_induction_on with
  | refl => rfl
  | head hm _ ih => exact (hm.factsUnder_eq guarded).trans ih

/-- A node in parentheses is kept, or it is a parenthesized expression. -/
theorem Wrapped.kept_or_parenthesized (h : n.Wrapped callees m) :
    n.Kept callees m ∨ m.kind = .parenthesizedExpression := by
  obtain ⟨inner, hlayers, hkept⟩ := h
  cases hlayers.cases_head with
  | inl heq => exact Or.inl (heq ▸ hkept)
  | inr hm =>
    obtain ⟨k, hk, -⟩ := hm
    exact Or.inr hk.kind

/-! ## Parts -/

/-- **What becomes of a part of a node**: it is kept, or put in parentheses where this may be. -/
structure Placed (callees : Bool) (n c d : Node) : Prop where
  role : c.role = d.role
  wrapped : c.Wrapped callees d
  kept_or_admits : c.Kept callees d ∨ n.Admits callees c ∧ d.kind = .parenthesizedExpression

theorem Parenthesized.forall₂ {cs ds : List Node} (h : Parenthesized callees n cs ds) :
    List.Forall₂ (n.Placed callees) cs ds := by
  induction h with
  | nil => exact .nil
  | cons hrole hlayers hadmits hresembles hchildren _ _ ih =>
    have hwrapped : Wrapped callees _ _ := ⟨_, hlayers, hresembles, hchildren⟩
    refine .cons ⟨hrole, hwrapped, ?_⟩ ih
    rcases hadmits with rfl | hadmits
    · exact Or.inl ⟨hresembles, hchildren⟩
    · exact hwrapped.kept_or_parenthesized.imp_right fun hparens => ⟨hadmits, hparens⟩

namespace Placed

theorem isNamed_eq (h : n.Placed callees c d) : c.isNamed = d.isNamed := by
  rcases h.kept_or_admits with hkept | ⟨hadmits, hparens⟩
  · rw [isNamed, isNamed, hkept.resembles.kind]
  · rw [hadmits.isNamed, isNamed, hparens]

theorem isComment_eq (h : n.Placed callees c d) : (c.kind != .comment) = (d.kind != .comment) := by
  rcases h.kept_or_admits with hkept | ⟨hadmits, hparens⟩
  · rw [hkept.resembles.kind]
  · rw [hparens, bne_iff_ne.mpr hadmits.kind]
    rfl

/-- A token is kept. -/
theorem isToken_eq (h : n.Placed callees c d) (text : String) :
    (c.kind == .token text) = (d.kind == .token text) := by
  rcases h.kept_or_admits with hkept | ⟨hadmits, hparens⟩
  · rw [hkept.resembles.kind]
  · have hnamed := hadmits.isNamed
    rw [hparens, beq_eq_false_iff_ne.mpr fun hc => by rw [isNamed, hc] at hnamed; cases hnamed]
    rfl

/-- Declarators and lists of arguments are kept. -/
theorem kept (h : n.Placed callees c d) (hrole : c.role ∈ [some .declarator, some .arguments]) :
    c.Kept callees d :=
  h.kept_or_admits.resolve_right fun hadmits => hadmits.1.role hrole

end Placed

namespace Kept

variable (h : n.Kept callees m)

include h

/-- The children that satisfy a condition become those of the other node that do. -/
theorem filter {p : Node → Bool} (hp : ∀ c d, n.Placed callees c d → p c = p d) :
    List.Forall₂ (fun c d => p c = true ∧ n.Placed callees c d) (n.children.filter p)
      (m.children.filter p) := by
  have hplaced := h.children.forall₂
  generalize n.children = cs, m.children = ds at hplaced
  induction hplaced with
  | nil => exact .nil
  | @cons c d _ _ hcd _ ih =>
    rw [List.filter_cons, List.filter_cons, ← hp c d hcd]
    split
    · next hc => exact .cons ⟨hc, hcd⟩ ih
    · exact ih

/-- The first child that satisfies a condition becomes the first one that does. -/
theorem find? {p : Node → Bool} (hp : ∀ c d, n.Placed callees c d → p c = p d) :
    n.children.find? p = none ∧ m.children.find? p = none ∨
      ∃ c d, n.children.find? p = some c ∧ m.children.find? p = some d ∧ n.Placed callees c d := by
  have hfilter := h.filter hp
  rw [← List.head?_filter, ← List.head?_filter]
  generalize n.children.filter p = cs, m.children.filter p = ds at hfilter
  cases hfilter with
  | nil => exact Or.inl ⟨rfl, rfl⟩
  | cons hcd _ => exact Or.inr ⟨_, _, rfl, rfl, hcd.2⟩

theorem child? (r : Role) : n.child? r = none ∧ m.child? r = none ∨
    ∃ c d, n.child? r = some c ∧ m.child? r = some d ∧ n.Placed callees c d :=
  h.find? fun _ _ hcd => by rw [hcd.role]

theorem firstNamed? : n.firstNamed? = none ∧ m.firstNamed? = none ∨
    ∃ c d, n.firstNamed? = some c ∧ m.firstNamed? = some d ∧ n.Placed callees c d :=
  h.find? fun _ _ hcd => hcd.isNamed_eq

theorem hasOperator_eq (text : String) : n.hasOperator text = m.hasOperator text := by
  unfold hasOperator
  rcases h.child? .operator with ⟨hn, hm⟩ | ⟨c, d, hc, hd, hcd⟩
  · rw [hn, hm]
  · simp only [hc, hd, hcd.isToken_eq]

theorem callArguments :
    List.Forall₂ (Wrapped callees) n.callArguments m.callArguments := by
  unfold Node.callArguments
  rcases h.child? .arguments with ⟨hn, hm⟩ | ⟨c, d, hc, hd, hcd⟩
  · rw [hn, hm]
    exact .nil
  · have hrole : c.role = some .arguments := by simpa using List.find?_some hc
    rw [hc, hd]
    simp only [namedChildren, List.filter_filter]
    refine ((hcd.kept (by simp [hrole])).filter fun a b hab => ?_).imp fun a b hab => hab.2.wrapped
    rw [hab.isNamed_eq, hab.isComment_eq]

theorem parts : List.Forall₂ (Wrapped callees) n.parts m.parts := by
  simp only [Node.parts, namedChildren, List.filter_filter]
  refine (h.filter fun a b hab => ?_).imp fun a b hab => hab.2.wrapped
  rw [hab.isNamed_eq, hab.isComment_eq]

end Kept

/-- A declarator that is kept declares the same name. -/
theorem Kept.declaredName?_eq {n m : Node} (h : n.Kept callees m) :
    n.declaredName? = m.declaredName? := by
  refine declaredName?_congr (R := Kept callees) h.resembles.kind
    (fun hname => h.resembles.text (Or.inl hname)) ?_ (fun hkind hnone => ?_)
    fun _ _ _ hcd => hcd.declaredName?_eq
  · refine (h.child? .declarator).imp_right fun ⟨c, d, hc, hd, hcd⟩ => ⟨c, d, hc, hd, hcd.kept ?_⟩
    have hrole : c.role = some .declarator := by simpa using List.find?_some hc
    simp [hrole]
  · rcases h.firstNamed? with ⟨hn, hm⟩ | ⟨c, d, hc, hd, hcd⟩
    · exact Or.inr ⟨fun c hc => (nomatch hn.symm.trans hc), fun d hd => (nomatch hm.symm.trans hd)⟩
    · refine Or.inl ⟨c, d, hc, hd, hcd.kept_or_admits.resolve_right fun hadmits => ?_⟩
      have hdeclarator := hadmits.1.declarator hkind
      rw [hnone] at hdeclarator
      cases hdeclarator
termination_by sizeOf n

/-- **A node that is kept corresponds to what becomes of it.** -/
theorem Kept.corresponds (h : n.Kept callees m) : n.Corresponds (Wrapped callees) m where
  kind := h.resembles.kind
  line := h.resembles.line
  text := h.resembles.text
  operator := h.hasOperator_eq
  child r := (h.child? r).imp_right fun ⟨c, d, hc, hd, hcd⟩ => ⟨c, d, hc, hd, hcd.wrapped⟩
  first _ := by
    rcases h.firstNamed? with ⟨hn, hm⟩ | ⟨c, d, hc, hd, hcd⟩
    · exact Or.inr ⟨fun c hc => (nomatch hn.symm.trans hc), fun d hd => (nomatch hm.symm.trans hd)⟩
    · exact Or.inl ⟨c, d, hc, hd, hcd.wrapped⟩
  callArguments := h.callArguments
  parts := h.parts
  declarators := by
    refine (h.filter fun c d hcd => by rw [hcd.role]).imp fun c d hcd => ?_
    have hkept := hcd.2.kept (by simp [eq_of_beq hcd.1])
    exact ⟨hcd.2.wrapped, hkept.resembles.kind, hkept.declaredName?_eq⟩

/-- **Redundant parentheses are looked through.** -/
theorem Wrapped.readsAlike {n m : Node} (h : n.Wrapped callees m) (nulls : List String) :
    n.ReadsAlike nulls m := by
  obtain ⟨inner, hlayers, hkept⟩ := h
  have hinner : n.ReadsAlike nulls inner :=
    hkept.corresponds.readsAlike fun _ _ _ hcd => hcd.readsAlike nulls
  exact hinner.trans (readsAlike_of_layers hlayers).symm
termination_by sizeOf n

/-! ## Facts -/

/-- **Facts without some calls**, if any names of called functions are in parentheses. -/
structure LosesCalls (callees : Bool) (fs gs : List Fact) : Prop where
  sublist : gs.Sublist fs
  filter_eq : fs.filter (!·.isCall) = gs.filter (!·.isCall)
  eq (hcallees : callees = false) : fs = gs

theorem additive_losesCalls : Additive (LosesCalls callees) where
  refl fs := ⟨List.Sublist.refl fs, rfl, fun _ => rfl⟩
  append hfs hgs := by
    refine ⟨hfs.sublist.append hgs.sublist, ?_, fun hcallees => ?_⟩
    · rw [List.filter_append, List.filter_append, hfs.filter_eq, hgs.filter_eq]
    · rw [hfs.eq hcallees, hgs.eq hcallees]

/-- A name in parentheses does nothing. -/
theorem Wrapped.factsUnder_eq_nil (h : c.Wrapped callees d) (hkind : c.kind = .identifier)
    (hchildren : c.children = []) : d.factsUnder nulls guarded = [] := by
  obtain ⟨inner, hlayers, hkept⟩ := h
  have hinner : inner.children = [] := by
    have hforall := hkept.children.forall₂
    rw [hchildren] at hforall
    exact List.forall₂_nil_left_iff.mp hforall
  rw [factsUnder_of_layers hlayers,
    factsUnder_identifier (hkept.resembles.kind ▸ hkind) hinner]

/-- **What is called** may be lost: a name is called only where it stands bare. -/
theorem Placed.calleeFacts {args : List (Option String)} {line : Nat}
    (h : n.Placed callees c d) (hrole : c.role = some .function)
    (hfacts : LosesCalls callees (c.factsUnder nulls guarded) (d.factsUnder nulls guarded)) :
    LosesCalls callees (calleeFacts nulls guarded args line c)
      (calleeFacts nulls guarded args line d) := by
  rcases h.kept_or_admits with hkept | ⟨hadmits, hparens⟩
  · exact additive_losesCalls.calleeFacts hkept.resembles.kind
      (fun hname => hkept.resembles.text (Or.inl hname)) hfacts
  · have hd : Node.calleeFacts nulls guarded args line d = d.factsUnder nulls guarded := by
      rw [Node.calleeFacts, hparens]
      rfl
    rw [hd, Node.calleeFacts]
    split
    · next hname =>
      obtain ⟨rfl, hchildren⟩ := hadmits.callee hrole (eq_of_beq hname)
      rw [h.wrapped.factsUnder_eq_nil (eq_of_beq hname) hchildren]
      exact ⟨List.nil_sublist _, rfl, fun hcallees => absurd hcallees (by decide)⟩
    · exact hfacts

theorem Wrapped.factsUnder {n m : Node} (h : n.Wrapped callees m) (guarded : Vars) :
    LosesCalls callees (n.factsUnder nulls guarded) (m.factsUnder nulls guarded) := by
  obtain ⟨inner, hlayers, hkept⟩ := h
  rw [factsUnder_of_layers hlayers]
  refine hkept.corresponds.factsUnder additive_losesCalls (fun _ _ _ hcd => hcd.readsAlike nulls)
    (fun _ _ _ hcd guarded => hcd.factsUnder guarded) guarded fun c d hc hd hcd guarded _ _ => ?_
  obtain ⟨hn, -⟩ | ⟨c', d', hc', hd', hplaced⟩ := hkept.child? .function
  · cases hn.symm.trans hc
  · cases hc.symm.trans hc'
    cases hd.symm.trans hd'
    have := sizeOf_child? hc
    exact hplaced.calleeFacts (by simpa using List.find?_some hc) (hcd.factsUnder guarded)
termination_by sizeOf n

/-- **Redundant parentheses do not matter.** An expression in which parentheses are put around parts
makes the same test and does the same, but for calls of functions whose names are in parentheses:
those are lost. -/
theorem Wrapped.reads_same (h : n.Wrapped callees m) (nulls : List String) :
    n.nullTest nulls = m.nullTest nulls ∧ (m.facts nulls).Sublist (n.facts nulls) ∧
      (n.facts nulls).filter (!·.isCall) = (m.facts nulls).filter (!·.isCall) ∧
      (callees = false → n.facts nulls = m.facts nulls) := by
  have hfacts : LosesCalls callees (n.facts nulls) (m.facts nulls) := h.factsUnder ∅
  exact ⟨(h.readsAlike nulls).nullTest_eq, hfacts.sublist, hfacts.filter_eq, hfacts.eq⟩

/-! ### A variable and a function in parentheses -/

/-- Nodes that are left alone. -/
theorem Parenthesized.of_kept {cs : List Node} (h : ∀ c ∈ cs, c.Kept callees c) :
    Parenthesized callees n cs cs := by
  induction cs with
  | nil => exact .nil
  | cons c cs ih =>
    have hc := h c List.mem_cons_self
    exact .cons rfl .refl (Or.inl rfl) hc.resembles hc.children
      (ih fun d hd => h d (List.mem_cons_of_mem c hd))

/-- No parentheses need be put anywhere. -/
theorem Kept.refl (n : Node) : n.Kept callees n :=
  ⟨⟨rfl, rfl, fun _ => rfl⟩, .of_kept fun c hc =>
    have := sizeOf_lt_of_mem hc
    Kept.refl c⟩
termination_by sizeOf n

/-- A name in parentheses. -/
def enclosed (role : Role) (v : String) : Node :=
  ⟨.parenthesizedExpression, some role, "(" ++ v ++ ")", 1, 1,
    [mark none "(", ⟨.identifier, none, v, 1, 1, []⟩, mark none ")"]⟩

theorem encloses_enclosed (role : Role) (v : String) :
    (enclosed role v).Encloses ⟨.identifier, none, v, 1, 1, []⟩ where
  kind := rfl
  named := rfl
  role := by simp [enclosed, mark]

/-- A name is put in parentheses, and what follows is left alone. -/
theorem Parenthesized.enclosed {role : Role} {v : String} {cs : List Node}
    (h : n.Admits callees (operand role v)) :
    Parenthesized callees n (operand role v :: cs) (enclosed role v :: cs) :=
  .cons rfl (.single (encloses_enclosed role v)) (Or.inr h) ⟨rfl, rfl, fun _ => rfl⟩ .nil
    (.of_kept fun c _ => .refl c)

/-- A name may be put in parentheses where it stands for no declarator. -/
theorem admits_operand {role : Role} {v : String} (hrole : role ∉ [.declarator, .arguments])
    (hkind : n.kind ∉ wrappers) (hcallee : role = .function → callees = true) :
    n.Admits callees (operand role v) where
  isNamed := rfl
  kind := nofun
  role := by simpa [operand] using hrole
  declarator h := absurd h hkind
  callee h _ := ⟨hcallee (Option.some.inj h), rfl⟩

/-- `*p`, where `p` may be in parentheses. -/
def readOf (p : Node) : Node :=
  ⟨.pointerExpression, none, "*p", 1, 1, [mark (some .operator) "*", p]⟩

/-- `f(p)`, where `f` may be in parentheses. -/
def callOf (f : Node) : Node :=
  ⟨.callExpression, none, "f(p)", 1, 1,
    [f, ⟨.argumentList, some .arguments, "(p)", 1, 2,
      [mark none "(", ⟨.identifier, none, "p", 1, 3, []⟩, mark none ")"]⟩]⟩

theorem reads_same_enclosed :
    (readOf (operand .argument "p")).Wrapped false (readOf (enclosed .argument "p")) ∧
      (readOf (enclosed .argument "p")).facts [] = [.deref "p" .star 1] := by
  have hmark : (mark (some .operator) "*").Kept false (mark (some .operator) "*") := .refl _
  have hwrapped :
      (readOf (operand .argument "p")).Wrapped false (readOf (enclosed .argument "p")) :=
    ⟨_, .refl, ⟨rfl, rfl, fun _ => rfl⟩, .cons rfl .refl (Or.inl rfl) hmark.resembles
      hmark.children (.enclosed (admits_operand (by decide) (by decide) nofun))⟩
  refine ⟨hwrapped, ?_⟩
  rw [← (hwrapped.reads_same []).2.2.2 rfl, facts, factsUnder_star rfl rfl rfl,
    factsUnder_identifier rfl rfl,
    derefFact_of_plainVariable? (plainVariable?_identifier rfl rfl)]
  rfl

theorem facts_callOf {f : Node} (hrole : f.role = some .function) : (callOf f).facts [] =
    calleeFacts [] ∅ [some "p"] 1 f := by
  have hargument : plainVariable? [] ⟨.identifier, none, "p", 1, 3, []⟩ = some "p" :=
    plainVariable?_identifier rfl rfl
  have hfunction : (callOf f).child? .function = some f := by
    rw [child?, callOf, List.find?_cons_of_pos (by rw [hrole]; rfl)]
  have harguments : (callOf f).callArguments = [⟨.identifier, none, "p", 1, 3, []⟩] := by
    rw [callArguments, child?, callOf, List.find?_cons_of_neg (by rw [hrole]; decide)]
    rfl
  rw [facts, factsUnder_call rfl, hfunction, harguments, List.flatMap_singleton,
    factsUnder_identifier rfl rfl, List.map_singleton, hargument]
  rfl

/-- **A function in parentheses is not called**: `(f)(p)` is `f(p)` in redundant parentheses, and
the call is missing from its facts. -/
theorem facts_callee_parenthesized :
    (callOf (operand .function "f")).Wrapped true (callOf (enclosed .function "f")) ∧
      (callOf (operand .function "f")).facts [] = [.call "f" [some "p"] 1] ∧
      (callOf (enclosed .function "f")).facts [] = [] := by
  refine ⟨⟨_, .refl, ⟨rfl, rfl, fun _ => rfl⟩,
    .enclosed (admits_operand (by decide) (by decide) fun _ => rfl)⟩, facts_callOf rfl, ?_⟩
  rw [facts_callOf rfl]
  show factsUnder [] ∅ (enclosed .function "f") = []
  rw [(encloses_enclosed .function "f").factsUnder_eq, factsUnder_identifier rfl rfl]

end C.Node

end NullFlow
