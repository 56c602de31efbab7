import Mathlib.Data.List.Forall2
import NullFlow.Proofs.Expression.Kinds

/-!
# Expressions that correspond to each other

What is read off an expression is the variable it names, whether it is a null constant, what its
outcome says about pointers, what it stores and what it does. All of it is read off parts of the
expression, which are looked up by role, by kind and by position. A node **corresponds** to another
one with regard to a relation (`Node.Corresponds`) if every look-up finds related parts in both, and
then what agrees for related parts agrees for the nodes (`Node.Corresponds.readsAlike`,
`Node.Corresponds.factsUnder`). So a relation whose nodes correspond to each other with regard to
the relation itself keeps everything, by recursion.
-/

namespace NullFlow.C

/-! ## Related parts -/

theorem exists_of_rel {α β : Type} {R : α → β → Prop} {a : Option α} {b : Option β}
    (h : Option.Rel R a b) :
    a = none ∧ b = none ∨ ∃ c d, a = some c ∧ b = some d ∧ R c d := by
  cases h with
  | none => exact Or.inl ⟨rfl, rfl⟩
  | some h => exact Or.inr ⟨_, _, rfl, rfl, h⟩

/-- What is read off elements one by one is the same for related ones. -/
theorem map_congr {α β γ : Type} {R : α → β → Prop} {f : α → γ} {g : β → γ} {as : List α}
    {bs : List β} (h : List.Forall₂ R as bs) (hfg : ∀ a ∈ as, ∀ b, R a b → f a = g b) :
    as.map f = bs.map g := by
  induction h with
  | nil => rfl
  | cons hab _ ih =>
    rw [List.map_cons, List.map_cons, hfg _ List.mem_cons_self _ hab,
      ih fun a ha => hfg a (List.mem_cons_of_mem _ ha)]

namespace Node

variable {R : Node → Node → Prop} {nulls : List String} {n m : Node}

/-- Related nodes stand first in both, or comments do. -/
def FirstRelated (R : Node → Node → Prop) (n m : Node) : Prop :=
  (∃ c d, n.firstNamed? = some c ∧ m.firstNamed? = some d ∧ R c d) ∨
    (∀ c, n.firstNamed? = some c → c.kind = .comment) ∧
      ∀ d, m.firstNamed? = some d → d.kind = .comment

/-- **What is made of the child in a role**, or else of the first named child, is the same if a
comment counts as none. -/
theorem elim_or_firstNamed? {α : Type} {f : Node → α} {x : α} {r : Role}
    (hchild : n.child? r = none ∧ m.child? r = none ∨
      ∃ c d, n.child? r = some c ∧ m.child? r = some d ∧ R c d)
    (hfirst : n.child? r = none → FirstRelated R n m)
    (hcomment : ∀ c : Node, c.kind = .comment → f c = x)
    (hf : ∀ c d : Node, sizeOf c < sizeOf n → R c d → f c = f d) :
    ((n.child? r).or n.firstNamed?).elim x f = ((m.child? r).or m.firstNamed?).elim x f := by
  rcases hchild with ⟨hn, hm⟩ | ⟨c, d, hc, hd, hcd⟩
  · rw [hn, hm, Option.none_or, Option.none_or]
    rcases hfirst hn with ⟨c, d, hc, hd, hcd⟩ | ⟨hn, hm⟩
    · rw [hc, hd]
      exact hf c d (sizeOf_firstNamed? hc) hcd
    · have hnone {k : Node} (hk : ∀ c, k.firstNamed? = some c → c.kind = .comment) :
          k.firstNamed?.elim x f = x := by
        cases hfirst : k.firstNamed? with
        | none => rfl
        | some c => exact hcomment c (hk c hfirst)
      rw [hnone hn, hnone hm]
  · rw [hc, hd]
    exact hf c d (sizeOf_child? hc) hcd

/-- **The name that a declarator declares** is the same if that is so for related declarators. -/
theorem declaredName?_congr (hkind : n.kind = m.kind)
    (htext : n.kind = .identifier → n.text = m.text)
    (hchild : n.child? .declarator = none ∧ m.child? .declarator = none ∨
      ∃ c d, n.child? .declarator = some c ∧ m.child? .declarator = some d ∧ R c d)
    (hfirst : n.kind ∈ wrappers → n.child? .declarator = none → FirstRelated R n m)
    (hR : ∀ c d : Node, sizeOf c < sizeOf n → R c d → c.declaredName? = d.declaredName?) :
    n.declaredName? = m.declaredName? := by
  by_cases hwrapper : n.kind ∈ wrappers
  · rw [declaredName?_eq_elim hwrapper, declaredName?_eq_elim (hkind ▸ hwrapper)]
    exact elim_or_firstNamed? hchild (hfirst hwrapper) (fun c hc => by rw [declaredName?, hc]) hR
  · rw [declaredName?, declaredName?, ← hkind]
    clear hkind
    split
    · next hname => rw [htext hname]
    all_goals first
      | rfl
      | exact absurd (by simp [wrappers, *]) hwrapper

/-- **A node corresponds to another one**: it is of the same kind on the same line, has the same
operator and, if it is a name or a number, the same text, and its parts are related to the parts of
the other one. What stands first in both may be comments instead. -/
structure Corresponds (R : Node → Node → Prop) (n m : Node) : Prop where
  kind : n.kind = m.kind
  line : n.line = m.line
  text (hkind : n.kind = .identifier ∨ n.kind = .numberLiteral) : n.text = m.text
  operator (text : String) : n.hasOperator text = m.hasOperator text
  child (r : Role) : n.child? r = none ∧ m.child? r = none ∨
    ∃ c d, n.child? r = some c ∧ m.child? r = some d ∧ R c d
  first (hlooks : n.looksAtFirst = true) : FirstRelated R n m
  callArguments : List.Forall₂ R n.callArguments m.callArguments
  parts : List.Forall₂ R n.parts m.parts
  declarators :
    List.Forall₂ (fun c d => R c d ∧ c.kind = d.kind ∧ c.declaredName? = d.declaredName?)
      (n.childrenIn .declarator) (m.childrenIn .declarator)

/-- **Nodes read alike** as values. -/
structure ReadsAlike (nulls : List String) (n m : Node) : Prop where
  plainVariable?_eq : n.plainVariable? nulls = m.plainVariable? nulls
  isNullConstant_eq : n.isNullConstant nulls = m.isNullConstant nulls
  comparedVariable?_eq : n.comparedVariable? nulls = m.comparedVariable? nulls
  nullTest_eq : n.nullTest nulls = m.nullTest nulls
  storedValue_eq : n.storedValue nulls = m.storedValue nulls

theorem ReadsAlike.symm (h : n.ReadsAlike nulls m) : m.ReadsAlike nulls n :=
  ⟨h.1.symm, h.2.symm, h.3.symm, h.4.symm, h.5.symm⟩

theorem ReadsAlike.trans {k : Node} (h : n.ReadsAlike nulls m) (h' : m.ReadsAlike nulls k) :
    n.ReadsAlike nulls k :=
  ⟨h.1.trans h'.1, h.2.trans h'.2, h.3.trans h'.3, h.4.trans h'.4, h.5.trans h'.5⟩

theorem ReadsAlike.comparisonTest_eq {left left' right right' : Node}
    (hl : left.ReadsAlike nulls left') (hr : right.ReadsAlike nulls right') :
    comparisonTest nulls left right = comparisonTest nulls left' right' := by
  unfold comparisonTest
  rw [hl.isNullConstant_eq, hr.isNullConstant_eq, hl.comparedVariable?_eq, hr.comparedVariable?_eq]

theorem ReadsAlike.derefFact_eq (h : n.ReadsAlike nulls m) (guarded : Vars) (kind : DerefKind)
    (line : Nat) : derefFact nulls guarded n kind line = derefFact nulls guarded m kind line := by
  unfold derefFact
  rw [h.plainVariable?_eq]

namespace Corresponds

variable (h : n.Corresponds R m)

include h

/-- What is made of the child in a role is related if that is so for related children. -/
theorem elim_child {α : Type} {P : α → α → Prop} {x : α} {f g : Node → α} (hx : P x x) (r : Role)
    (hfg : ∀ c d, n.child? r = some c → m.child? r = some d → R c d → P (f c) (g d)) :
    P ((n.child? r).elim x f) ((m.child? r).elim x g) := by
  rcases h.child r with ⟨hn, hm⟩ | ⟨c, d, hc, hd, hcd⟩
  · rw [hn, hm]
    exact hx
  · rw [hc, hd]
    exact hfg c d hc hd hcd

/-- What parentheses are read as is what stands in them is read as. -/
theorem eq_of_parenthesized {α : Type} {f : Node → α} {x : α}
    (hkind : n.kind = .parenthesizedExpression)
    (hfirst : ∀ k c : Node, k.kind = .parenthesizedExpression → k.firstNamed? = some c → f k = f c)
    (hhidden : ∀ k : Node, k.kind = .parenthesizedExpression →
      (∀ c, k.firstNamed? = some c → c.kind = .comment) → f k = x)
    (hf : ∀ c d : Node, sizeOf c < sizeOf n → R c d → f c = f d) : f n = f m := by
  have hkind' : m.kind = .parenthesizedExpression := h.kind ▸ hkind
  rcases h.first (looksAtFirst_parenthesized hkind) with ⟨c, d, hc, hd, hcd⟩ | ⟨hn, hm⟩
  · rw [hfirst n c hkind hc, hfirst m d hkind' hd]
    exact hf c d (sizeOf_firstNamed? hc) hcd
  · rw [hhidden n hkind hn, hhidden m hkind' hm]

/-! ## Values -/

section Values

variable (ih : ∀ c d, sizeOf c < sizeOf n → R c d → c.ReadsAlike nulls d)

include ih

theorem plainVariable?_eq : n.plainVariable? nulls = m.plainVariable? nulls := by
  by_cases hparens : n.kind = .parenthesizedExpression
  · exact h.eq_of_parenthesized hparens (fun _ _ => plainVariable?_parenthesized)
      (fun _ => plainVariable?_hidden) fun c d hlt hcd => (ih c d hlt hcd).plainVariable?_eq
  · by_cases hname : n.kind = .identifier
    · rw [plainVariable?, plainVariable?, ← h.kind, hname, h.text (Or.inl hname)]
    · rw [plainVariable?_eq_none hname hparens,
        plainVariable?_eq_none (h.kind ▸ hname) (h.kind ▸ hparens)]

theorem isNullConstant_eq : n.isNullConstant nulls = m.isNullConstant nulls := by
  by_cases hparens : n.kind = .parenthesizedExpression
  · exact h.eq_of_parenthesized hparens (fun _ _ => isNullConstant_parenthesized)
      (fun _ => isNullConstant_hidden) fun c d hlt hcd => (ih c d hlt hcd).isNullConstant_eq
  · rw [isNullConstant, isNullConstant, ← h.kind]
    split
    · rfl
    · next hnumber => rw [h.text (Or.inr hnumber)]
    · next hname => rw [h.text (Or.inl hname)]
    · next hparens' => exact absurd hparens' hparens
    · rcases h.child .value with ⟨hn, hm⟩ | ⟨c, d, hc, hd, hcd⟩
      · rw [hn, hm]
      · rw [hc, hd]
        exact (ih c d (sizeOf_child? hc) hcd).isNullConstant_eq
    · rfl

theorem comparedVariable?_eq : n.comparedVariable? nulls = m.comparedVariable? nulls := by
  by_cases hparens : n.kind = .parenthesizedExpression
  · exact h.eq_of_parenthesized hparens (fun _ _ => comparedVariable?_parenthesized)
      (fun _ => comparedVariable?_hidden) fun c d hlt hcd => (ih c d hlt hcd).comparedVariable?_eq
  · rw [comparedVariable?, comparedVariable?, ← h.kind]
    split
    · next hparens' => exact absurd hparens' hparens
    · rcases h.child .left with ⟨hn, hm⟩ | ⟨c, d, hc, hd, hcd⟩
      · rw [hn, hm]
      · rw [hc, hd]
        exact (ih c d (sizeOf_child? hc) hcd).plainVariable?_eq
    · exact h.plainVariable?_eq ih

/-- **What the outcome says about pointers** is the same. -/
theorem nullTest_eq : n.nullTest nulls = m.nullTest nulls := by
  by_cases hparens : n.kind = .parenthesizedExpression
  · exact h.eq_of_parenthesized hparens (fun _ _ => nullTest_parenthesized)
      (fun _ => nullTest_hidden) fun c d hlt hcd => (ih c d hlt hcd).nullTest_eq
  · rw [nullTest, nullTest, ← h.kind]
    split
    · next hparens' => exact absurd hparens' hparens
    · rw [h.plainVariable?_eq ih]
    · rcases h.child .left with ⟨hn, hm⟩ | ⟨c, d, hc, hd, hcd⟩
      · rw [hn, hm]
      · rw [hc, hd, Option.bind_some, Option.bind_some,
          (ih c d (sizeOf_child? hc) hcd).plainVariable?_eq]
    · rcases h.child .argument with ⟨hn, hm⟩ | ⟨c, d, hc, hd, hcd⟩
      · rw [hn, hm]
      · rw [hc, hd]
        simp only [h.operator, (ih c d (sizeOf_child? hc) hcd).nullTest_eq]
    · rcases h.child .left with ⟨hn, hm⟩ | ⟨c, d, hc, hd, hcd⟩
      · rw [hn, hm]
      · rcases h.child .right with ⟨hn, hm⟩ | ⟨c', d', hc', hd', hcd'⟩
        · rw [hc, hd, hn, hm]
        · have hleft := ih c d (sizeOf_child? hc) hcd
          have hright := ih c' d' (sizeOf_child? hc') hcd'
          rw [hc, hd, hc', hd']
          simp only [h.operator, hleft.nullTest_eq, hright.nullTest_eq,
            hleft.comparisonTest_eq hright]
    · rfl

/-- **What is stored** is the same. -/
theorem storedValue_eq : n.storedValue nulls = m.storedValue nulls := by
  have hnull := h.isNullConstant_eq ih
  cases hn : n.isNullConstant nulls with
  | true => rw [storedValue, storedValue, if_pos hn, if_pos (hnull ▸ hn)]
  | false =>
    by_cases hkind : n.kind = .parenthesizedExpression ∨ n.kind = .castExpression
    · rw [storedValue_eq_elim hn hkind, storedValue_eq_elim (hnull ▸ hn) (h.kind ▸ hkind)]
      refine elim_or_firstNamed? (h.child .value) (fun hvalue => h.first ?_) (fun c hc => ?_)
        fun c d hlt hcd => (ih c d hlt hcd).storedValue_eq
      · rcases hkind with hkind | hkind
        · exact looksAtFirst_parenthesized hkind
        · rw [looksAtFirst, hkind, hvalue]
          rfl
      · rw [storedValue, isNullConstant, hc]
        rfl
    · rw [storedValue, storedValue, ← h.kind, ← hnull, hn, h.operator,
        if_neg Bool.false_ne_true, if_neg Bool.false_ne_true]
      split
      all_goals first
        | rfl
        | exact absurd ‹_› (not_or.mp hkind).1
        | exact absurd ‹_› (not_or.mp hkind).2

/-- **Nodes that correspond to each other read alike** if their related parts do. -/
theorem readsAlike : n.ReadsAlike nulls m where
  plainVariable?_eq := h.plainVariable?_eq ih
  isNullConstant_eq := h.isNullConstant_eq ih
  comparedVariable?_eq := h.comparedVariable?_eq ih
  nullTest_eq := h.nullTest_eq ih
  storedValue_eq := h.storedValue_eq ih

end Values

end Corresponds

/-! ## Facts -/

/-- A relation between lists of facts that is kept when lists are put one after the other. -/
structure Additive (E : List Fact → List Fact → Prop) : Prop where
  refl (fs : List Fact) : E fs fs
  append {fs fs' gs gs' : List Fact} (hfs : E fs fs') (hgs : E gs gs') : E (fs ++ gs) (fs' ++ gs')

theorem additive_eq : Additive (· = ·) where
  refl _ := rfl
  append hfs hgs := by rw [hfs, hgs]

/-- Nodes of the same kind are called alike. -/
theorem Additive.calleeFacts {E : List Fact → List Fact → Prop} (hE : Additive E) {guarded : Vars}
    {args : List (Option String)} {line : Nat} (hkind : n.kind = m.kind)
    (htext : n.kind = .identifier → n.text = m.text)
    (hfacts : E (n.factsUnder nulls guarded) (m.factsUnder nulls guarded)) :
    E (calleeFacts nulls guarded args line n) (calleeFacts nulls guarded args line m) := by
  rw [Node.calleeFacts, Node.calleeFacts, ← hkind]
  split
  · next hname =>
    rw [htext (eq_of_beq hname)]
    exact hE.refl _
  · exact hfacts

theorem Additive.flatMap {α β : Type} {E : List Fact → List Fact → Prop} (hE : Additive E)
    {R : α → β → Prop} {f : α → List Fact} {g : β → List Fact} {as : List α} {bs : List β}
    (h : List.Forall₂ R as bs) (hfg : ∀ a ∈ as, ∀ b, R a b → E (f a) (g b)) :
    E (as.flatMap f) (bs.flatMap g) := by
  induction h with
  | nil => exact hE.refl []
  | cons hab _ ih =>
    rw [List.flatMap_cons, List.flatMap_cons]
    exact hE.append (hfg _ List.mem_cons_self _ hab)
      (ih fun a ha => hfg a (List.mem_cons_of_mem _ ha))

theorem sizeOf_parts {c : Node} (hc : c ∈ n.parts) : sizeOf c < sizeOf n :=
  sizeOf_namedChildren (List.mem_filter.mp hc).1

namespace Corresponds

/-- The declared name is the same. -/
theorem declaredName?_declarator (h : n.Corresponds R m) :
    (n.child? .declarator).bind declaredName? = (m.child? .declarator).bind declaredName? := by
  have hfirst (k : Node) : k.child? .declarator = (k.childrenIn .declarator).head? :=
    List.head?_filter.symm
  have hdeclarators := h.declarators
  rw [hfirst, hfirst]
  generalize n.childrenIn .declarator = cs, m.childrenIn .declarator = ds at hdeclarators
  cases hdeclarators with
  | nil => rfl
  | cons hcd _ => exact hcd.2.2

variable {E : List Fact → List Fact → Prop} (hE : Additive E) (h : n.Corresponds R m)
  (hread : ∀ c d, sizeOf c < sizeOf n → R c d → c.ReadsAlike nulls d)
  (ih : ∀ c d, sizeOf c < sizeOf n → R c d →
    ∀ guarded, E (c.factsUnder nulls guarded) (d.factsUnder nulls guarded))
  (guarded : Vars)

include hE h ih

/-- The facts of an operand. -/
theorem factsUnder_operand (r : Role) (guarded : Vars) :
    E ((n.child? r).elim [] (factsUnder nulls guarded))
      ((m.child? r).elim [] (factsUnder nulls guarded)) :=
  h.elim_child (hE.refl []) r fun c d hc _ hcd => ih c d (sizeOf_child? hc) hcd guarded

include hread

/-- The facts of an operand that is dereferenced. -/
theorem factsUnder_dereferenced (isDereference : Bool) (kind : DerefKind) :
    E ((n.child? .argument).elim [] fun argument => argument.factsUnder nulls guarded ++
        if isDereference then derefFact nulls guarded argument kind n.line else [])
      ((m.child? .argument).elim [] fun argument => argument.factsUnder nulls guarded ++
        if isDereference then derefFact nulls guarded argument kind m.line else []) := by
  refine h.elim_child (hE.refl []) .argument fun c d hc _ hcd => ?_
  refine hE.append (ih c d (sizeOf_child? hc) hcd guarded) ?_
  rw [(hread c d (sizeOf_child? hc) hcd).derefFact_eq, h.line]
  exact hE.refl _

/-- The facts of what is assigned to. -/
theorem factsUnder_target (r : Role) (value : AssignedValue) :
    E ((n.child? r).elim [] (targetFacts nulls guarded value n.line))
      ((m.child? r).elim [] (targetFacts nulls guarded value m.line)) := by
  refine h.elim_child (hE.refl []) r fun c d hc _ hcd => ?_
  rw [targetFacts, targetFacts, (hread c d (sizeOf_child? hc) hcd).plainVariable?_eq, h.line]
  cases d.plainVariable? nulls with
  | some var => exact hE.refl _
  | none => exact ih c d (sizeOf_child? hc) hcd guarded

/-- **Nodes that correspond to each other do alike** if their related parts do, and call alike. -/
theorem factsUnder
    (hcallee : ∀ c d, n.child? .function = some c → m.child? .function = some d → R c d →
      ∀ guarded args line,
        E (calleeFacts nulls guarded args line c) (calleeFacts nulls guarded args line d)) :
    E (n.factsUnder nulls guarded) (m.factsUnder nulls guarded) := by
  by_cases hspecial : n.kind ∈ special
  · -- one case for each special kind: four of them are not evaluated, the others look parts up
    simp only [special, List.mem_cons, List.not_mem_nil, or_false] at hspecial
    rcases hspecial with hkind | hkind | hkind | hkind | hkind | hkind | hkind | hkind | hkind |
      hkind | hkind | hkind | hkind | hkind <;> have hkind' := h.kind ▸ hkind
    iterate 4
      · rw [Node.factsUnder, Node.factsUnder, ← h.kind, hkind]
        exact hE.refl []
    · rw [factsUnder_pointer hkind, factsUnder_pointer hkind', ← h.operator]
      exact h.factsUnder_dereferenced hE hread ih guarded _ _
    · rw [factsUnder_field hkind, factsUnder_field hkind', ← h.operator]
      exact h.factsUnder_dereferenced hE hread ih guarded _ _
    · rw [factsUnder_subscript hkind, factsUnder_subscript hkind']
      exact hE.append (h.factsUnder_operand hE ih .index guarded)
        (h.factsUnder_dereferenced hE hread ih guarded true .subscript)
    · have hargs : n.callArguments.map (plainVariable? nulls) =
          m.callArguments.map (plainVariable? nulls) :=
        map_congr h.callArguments fun c hc d hcd =>
          (hread c d (sizeOf_callArguments hc) hcd).plainVariable?_eq
      rw [factsUnder_call hkind, factsUnder_call hkind', hargs, h.line]
      exact hE.append
        (hE.flatMap h.callArguments fun c hc d hcd => ih c d (sizeOf_callArguments hc) hcd guarded)
        (h.elim_child (hE.refl []) .function fun c d hc hd hcd =>
          hcallee c d hc hd hcd guarded _ _)
    · have hvalue : ((n.child? .right).elim .unknown fun right =>
            if n.hasOperator "=" then right.storedValue nulls else .unknown) =
          (m.child? .right).elim .unknown fun right =>
            if m.hasOperator "=" then right.storedValue nulls else .unknown :=
        h.elim_child rfl .right fun c d hc _ hcd => by
          rw [h.operator, (hread c d (sizeOf_child? hc) hcd).storedValue_eq]
      rw [factsUnder_assign hkind, factsUnder_assign hkind', hvalue]
      exact hE.append (h.factsUnder_operand hE ih .right guarded)
        (h.factsUnder_target hE hread ih guarded .left _)
    · rw [factsUnder_update hkind, factsUnder_update hkind']
      exact h.factsUnder_target hE hread ih guarded .argument _
    · have hvalue : (n.child? .value).elim .unknown (storedValue nulls) =
          (m.child? .value).elim .unknown (storedValue nulls) :=
        h.elim_child rfl .value fun c d hc _ hcd =>
          (hread c d (sizeOf_child? hc) hcd).storedValue_eq
      rw [factsUnder_initDeclarator hkind, factsUnder_initDeclarator hkind', hvalue, h.line,
        h.declaredName?_declarator]
      exact hE.append (h.factsUnder_operand hE ih .value guarded) (hE.refl _)
    · rw [factsUnder_of_declaration hkind, factsUnder_of_declaration hkind', h.line]
      refine hE.flatMap h.declarators fun c hc d hcd => ?_
      rw [hcd.2.1, hcd.2.2]
      split
      · exact ih c d (sizeOf_childrenIn hc) hcd.1 guarded
      · exact hE.refl _
    · rw [factsUnder_operands hkind, factsUnder_operands hkind']
      refine h.elim_child (hE.refl []) .left fun c d hc _ hcd => ?_
      refine h.elim_child (hE.refl []) .right fun c' d' hc' _ hcd' => ?_
      have hguarded : guardedRight nulls guarded n c = guardedRight nulls guarded m d := by
        rw [guardedRight, guardedRight, h.operator, h.operator,
          (hread c d (sizeOf_child? hc) hcd).nullTest_eq]
      rw [hguarded]
      exact hE.append (ih c d (sizeOf_child? hc) hcd guarded) (ih c' d' (sizeOf_child? hc') hcd' _)
    · rw [factsUnder_choice hkind, factsUnder_choice hkind']
      refine h.elim_child (hE.refl []) .condition fun c d hc _ hcd => ?_
      rw [(hread c d (sizeOf_child? hc) hcd).nullTest_eq]
      exact hE.append (hE.append (ih c d (sizeOf_child? hc) hcd guarded)
          (h.factsUnder_operand hE ih .consequence _))
        (h.factsUnder_operand hE ih .alternative _)
  · rw [factsUnder_eq_flatMap hspecial, factsUnder_eq_flatMap (h.kind ▸ hspecial),
      flatMap_parts factsUnder_comment, flatMap_parts factsUnder_comment]
    exact hE.flatMap h.parts fun c hc d hcd => ih c d (sizeOf_parts hc) hcd guarded

end Corresponds

end Node

end NullFlow.C
