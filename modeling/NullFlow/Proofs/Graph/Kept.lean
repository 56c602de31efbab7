import Mathlib.Data.List.Perm.Basic
import NullFlow.Proofs.Condition.OfNode
import NullFlow.Proofs.Graph.Parts

/-!
# Which facts of a statement a graph keeps

The facts of a statement are found in one walk over its tree. The graph gets them piece by piece:
each statement that the construction comes to adds **its own** facts, those of its condition or, if
it has no parts, all it has. What is missing in the graph is then a matter of the syntax alone: the
facts of the values of cases, those of declarations of types, and those of the statements that the
construction passes over. `C.Node.perm_facts` says that nothing else is lost and that nothing is
kept twice, for statements that have the form the grammar gives them (`C.Node.IsStatement`).
-/

namespace NullFlow.C.Node

open Build

variable {nulls : List String} {n c : Node}

/-! ## The facts of the children -/

theorem flatMap_filter_eq {α β : Type} {l : List α} {p : α → Bool} {f : α → List β}
    (h : ∀ a ∈ l, p a = false → f a = []) : (l.filter p).flatMap f = l.flatMap f := by
  induction l with
  | nil => rfl
  | cons a l ih =>
    have hrest := ih fun b hb => h b (List.mem_cons_of_mem a hb)
    rw [List.filter_cons, List.flatMap_cons]
    split
    · rw [List.flatMap_cons, hrest]
    · next ha =>
      rw [hrest, h a List.mem_cons_self (Bool.eq_false_iff.mpr ha), List.nil_append]

/-- Comments do nothing. -/
theorem flatMap_facts_parts : n.parts.flatMap (facts nulls) =
    n.namedChildren.flatMap (facts nulls) :=
  flatMap_filter_eq fun c _ hc => facts_comment (by simpa using hc)

/-- The kinds of declarations that declare nothing but types. -/
def typeDeclarations : List Kind :=
  [.typeDefinition, .structSpecifier, .enumSpecifier, .unionSpecifier]

/-! ## Statements -/

/-- The children in some roles, in the order of the roles. -/
def childrenFor (n : Node) (roles : List Role) : List Node :=
  roles.flatMap fun r => (n.child? r).toList

theorem childrenFor_nil : n.childrenFor [] = [] := rfl

theorem childrenFor_cons {r : Role} {roles : List Role} :
    n.childrenFor (r :: roles) = (n.child? r).toList ++ n.childrenFor roles := List.flatMap_cons

/-- **The form of a statement**: the roles of its children, for the constructs that look their
children up by role. -/
def form? : Kind → Option (List Role)
  | .ifStatement => some [.condition, .consequence, .alternative]
  | .whileStatement => some [.condition, .body]
  | .doStatement => some [.body, .condition]
  | .forStatement => some [.initializer, .condition, .update, .body]
  | .switchStatement => some [.condition, .body]
  | _ => none

/-- **A statement as the grammar has it.** Such are all statements of a source without syntax
errors. -/
structure IsStatement (n : Node) : Prop where
  /-- Comments apart, the children are those of its form, one in each role at most. -/
  parts_eq : ∀ roles, form? n.kind = some roles → n.parts = n.childrenFor roles
  condition : n.kind = .ifStatement ∨ n.kind = .whileStatement ∨ n.kind = .doStatement →
    (n.child? .condition).isSome
  /-- The cases of a switch stand in a block. -/
  body : n.kind = .switchStatement → ∀ c ∈ n.child? .body, c.kind = .compoundStatement
  /-- A jump has nothing but the name of a label. -/
  jump : n.kind = .breakStatement ∨ n.kind = .continueStatement ∨ n.kind = .gotoStatement →
    ∀ c ∈ n.parts, c.kind = .statementIdentifier
  /-- The name of a label has no parts. -/
  label : ∀ c ∈ n.namedChildren, c.kind = .statementIdentifier → c.children = []
  /-- Only the empty statement is a single character and not a token. -/
  single : n.excerpt.utf8ByteSize ≤ 1 → n.kind ≠ .expressionStatement → n.children = []

/-- **The facts that a statement adds to the graph**, those of its parts apart. -/
def ownFacts (nulls : List String) (n : Node) : List Fact :=
  match n.kind with
  | .ifStatement | .whileStatement | .doStatement | .switchStatement =>
    (n.childrenFor [.condition]).flatMap (facts nulls)
  | .forStatement => (n.childrenFor [.initializer, .condition, .update]).flatMap (facts nulls)
  | .returnStatement | .declaration => n.facts nulls
  | .expressionStatement => if n.firstNamed?.isSome then n.facts nulls else []
  | .compoundStatement | .labeledStatement | .comment | .breakStatement | .continueStatement
  | .gotoStatement | .typeDefinition | .structSpecifier | .enumSpecifier | .unionSpecifier => []
  | _ => if 1 < n.excerpt.utf8ByteSize then n.facts nulls else []

/-- The facts of a statement that are left out on purpose: those of a declaration of a type, and
those of the values of cases. -/
def ownOmissions (nulls : List String) (n : Node) : List Fact :=
  match n.kind with
  | .typeDefinition | .structSpecifier | .enumSpecifier | .unionSpecifier => n.facts nulls
  | .switchStatement => (casesOf n).flatMap fun c =>
    (c.namedChildren.filter (·.role == some .value)).flatMap (facts nulls)
  | _ => []

theorem looseStatements_eq_nil (h : n.kind ≠ .switchStatement) : n.looseStatements = [] := by
  unfold looseStatements
  split
  · exact absurd ‹_› h
  · rfl

theorem ownOmissions_eq_nil (h : n.kind ∉ .switchStatement :: typeDeclarations) :
    n.ownOmissions nulls = [] := by
  unfold ownOmissions
  split
  case h_6 => rfl
  all_goals
    next hkind =>
      rw [hkind] at h
      exact absurd (by decide) h

theorem flatMap_facts_elseStatements : n.elseStatements.flatMap (facts nulls) =
    (n.child? .alternative).toList.flatMap (facts nulls) := by
  unfold elseStatements
  cases n.child? .alternative with
  | none => rfl
  | some c =>
    simp only [List.flatMap_singleton, Option.toList_some]
    split
    · next hkind =>
      exact (facts_eq_flatMap (by rw [beq_iff_eq.mp hkind]; decide)).symm
    · rw [List.flatMap_singleton]

/-- A case is its values and its statements. -/
theorem perm_facts_case (h : c.kind = .caseStatement) :
    ((c.namedChildren.filter (·.role == some .value)).flatMap (facts nulls) ++
      (caseStatements c).flatMap (facts nulls)).Perm (c.facts nulls) := by
  rw [facts_eq_flatMap (by rw [h]; decide), ← List.flatMap_append]
  exact (List.filter_append_perm _ _).flatMap_right _

namespace IsStatement

variable {roles : List Role}

theorem facts_eq (h : n.IsStatement) (hform : form? n.kind = some roles) :
    n.facts nulls = (n.childrenFor roles).flatMap (facts nulls) := by
  have hspecial : n.kind ∉ special := by
    unfold form? at hform
    split at hform
    case h_6 => cases hform
    all_goals
      next hkind =>
        rw [hkind]
        decide
  rw [facts_eq_flatMap hspecial, ← flatMap_facts_parts, h.parts_eq roles hform]

/-- **The body of a switch** is its cases and what stands outside of them. -/
theorem perm_facts_switch (h : n.IsStatement) (hkind : n.kind = .switchStatement) :
    (n.ownOmissions nulls ++ n.looseStatements.flatMap (facts nulls) ++
      n.substatements.flatMap (facts nulls)).Perm
        ((n.child? .body).toList.flatMap (facts nulls)) := by
  simp only [ownOmissions, looseStatements, substatements, hkind, casesOf]
  cases hbody : n.child? .body with
  | none => exact List.Perm.nil
  | some body =>
    have hblock := h.body hkind body hbody
    simp only [Option.elim_some, Option.toList_some, List.flatMap_singleton]
    rw [facts_eq_flatMap (by rw [hblock]; decide), List.flatMap_assoc]
    let cases := body.namedChildren.filter (·.kind == .caseStatement)
    let loose := body.namedChildren.filter (·.kind != .caseStatement)
    let values (c : Node) := (c.namedChildren.filter (·.role == some .value)).flatMap (facts nulls)
    let statements (c : Node) := (caseStatements c).flatMap (facts nulls)
    have hcases : (cases.flatMap values ++ cases.flatMap statements).Perm
        (cases.flatMap (facts nulls)) :=
      (List.flatMap_append_perm cases values statements).trans
        (List.Perm.flatMap_left cases fun c hc =>
          perm_facts_case (beq_iff_eq.mp (List.mem_filter.mp hc).2))
    have hsplit : (cases.flatMap (facts nulls) ++ loose.flatMap (facts nulls)).Perm
        (body.namedChildren.flatMap (facts nulls)) := by
      rw [← List.flatMap_append]
      exact (List.filter_append_perm _ _).flatMap_right _
    refine List.Perm.trans ?_ ((hcases.append_right _).trans hsplit)
    rw [List.append_assoc, List.append_assoc]
    exact List.perm_append_comm.append_left _

/-- A jump does nothing itself. -/
theorem facts_jump (h : n.IsStatement)
    (hkind : n.kind = .breakStatement ∨ n.kind = .continueStatement ∨ n.kind = .gotoStatement) :
    n.facts nulls = [] := by
  have hspecial : n.kind ∉ special := by
    rcases hkind with hkind | hkind | hkind <;> rw [hkind] <;> decide
  rw [facts_eq_flatMap hspecial, ← flatMap_facts_parts, List.flatMap_eq_nil_iff]
  intro c hc
  exact facts_of_children_eq_nil (h.label c (List.mem_filter.mp hc).1 (h.jump hkind c hc))

/-- **The facts of a statement without parts** are its own, but for a declaration of a type. -/
theorem ownFacts_eq (h : n.IsStatement) (hparts : n.kind ∉ constructs)
    (htype : n.kind ∉ typeDeclarations) : n.ownFacts nulls = n.facts nulls := by
  unfold ownFacts
  split
  case h_6 | h_7 => rfl
  case h_8 hkind =>
    split
    · rfl
    · next hnone =>
      have hnil : n.namedChildren = [] := List.filter_eq_nil_iff.mpr
        (List.find?_eq_none.mp (Option.not_isSome_iff_eq_none.mp hnone))
      rw [facts_eq_flatMap (by rw [hkind]; decide), hnil]
      rfl
  case h_11 hkind => exact (facts_comment hkind).symm
  case h_12 hkind => exact (h.facts_jump (Or.inl hkind)).symm
  case h_13 hkind => exact (h.facts_jump (Or.inr (Or.inl hkind))).symm
  case h_14 hkind => exact (h.facts_jump (Or.inr (Or.inr hkind))).symm
  case h_19 =>
    split
    · rfl
    · next hsize =>
      exact (facts_of_children_eq_nil (h.single (Nat.not_lt.mp hsize) ‹_›)).symm
  -- statements with parts and declarations of types
  all_goals
    next hkind =>
      rw [hkind] at hparts htype
      first
        | exact absurd (by decide) hparts
        | exact absurd (by decide) htype

/-- **The facts of a construct** are its own and those of its parts, but for a switch. -/
theorem perm_facts_construct (h : n.IsStatement) (hparts : n.kind ∈ constructs)
    (hswitch : n.kind ≠ .switchStatement) :
    (n.ownFacts nulls ++ n.substatements.flatMap (facts nulls)).Perm (n.facts nulls) := by
  have hform {roles : List Role} (hform : form? n.kind = some roles) :
      n.facts nulls = (n.childrenFor roles).flatMap (facts nulls) := h.facts_eq hform
  simp only [constructs, List.mem_cons, List.not_mem_nil, or_false] at hparts
  unfold ownFacts substatements
  rcases hparts with hkind | hkind | hkind | hkind | hkind | hkind | hkind
  case inl =>
    simp only [hkind]
    rw [facts_eq_flatMap (by rw [hkind]; decide)]
    exact List.Perm.refl _
  case inr.inl =>
    simp only [hkind]
    rw [hform (by rw [hkind]; rfl)]
    simp only [childrenFor_cons, childrenFor_nil, List.flatMap_append, List.append_nil,
      flatMap_facts_elseStatements]
    exact List.Perm.refl _
  case inr.inr.inl =>
    simp only [hkind]
    rw [hform (by rw [hkind]; rfl)]
    simp only [childrenFor_cons, childrenFor_nil, List.flatMap_append, List.append_nil]
    exact List.Perm.refl _
  case inr.inr.inr.inl =>
    -- the body of a `do` statement comes before its condition
    simp only [hkind]
    rw [hform (by rw [hkind]; rfl)]
    simp only [childrenFor_cons, childrenFor_nil, List.flatMap_append, List.append_nil]
    exact List.perm_append_comm
  case inr.inr.inr.inr.inl =>
    simp only [hkind]
    rw [hform (by rw [hkind]; rfl)]
    simp only [childrenFor_cons, childrenFor_nil, List.flatMap_append, List.append_nil,
      List.append_assoc]
    exact List.Perm.refl _
  case inr.inr.inr.inr.inr.inl => exact absurd hkind hswitch
  case inr.inr.inr.inr.inr.inr =>
    simp only [hkind]
    have hlabel : ∀ c ∈ n.namedChildren, (c.kind != .statementIdentifier) = false →
        c.facts nulls = [] := fun c hc hname =>
      facts_of_children_eq_nil (h.label c hc (by simpa using hname))
    rw [facts_eq_flatMap (by rw [hkind]; decide), flatMap_filter_eq hlabel]
    exact List.Perm.refl _

end IsStatement

/-- **The facts of one statement** are its own, those left out, those of the statements that are
passed over and those of its parts. -/
theorem IsStatement.perm_facts (h : n.IsStatement) : (n.ownFacts nulls ++ (n.ownOmissions nulls ++
    n.looseStatements.flatMap (facts nulls) ++ n.substatements.flatMap (facts nulls))).Perm
      (n.facts nulls) := by
  by_cases hswitch : n.kind = .switchStatement
  · have hown : n.ownFacts nulls = (n.child? .condition).toList.flatMap (facts nulls) := by
      simp only [ownFacts, hswitch, childrenFor_cons, childrenFor_nil, List.append_nil]
    have hform : n.facts nulls = (n.childrenFor [.condition, .body]).flatMap (facts nulls) :=
      h.facts_eq (by rw [hswitch]; rfl)
    rw [hform, hown, childrenFor_cons, List.flatMap_append, childrenFor_cons, childrenFor_nil,
      List.append_nil]
    exact (h.perm_facts_switch hswitch).append_left _
  rw [looseStatements_eq_nil hswitch, List.flatMap_nil, List.append_nil]
  by_cases htype : n.kind ∈ typeDeclarations
  · simp only [typeDeclarations, List.mem_cons, List.not_mem_nil, or_false] at htype
    rcases htype with hkind | hkind | hkind | hkind <;>
      simp only [ownFacts, ownOmissions, substatements, hkind, List.flatMap_nil, List.append_nil,
        List.nil_append, List.Perm.refl]
  rw [ownOmissions_eq_nil fun hmem => (List.mem_cons.mp hmem).elim hswitch htype, List.nil_append]
  by_cases hparts : n.kind ∈ constructs
  · exact h.perm_facts_construct hparts hswitch
  · rw [h.ownFacts_eq hparts htype, substatements_eq_nil hparts, List.flatMap_nil, List.append_nil]

/-! ## Whole bodies -/

/-- **The facts that the graph of a statement keeps.** -/
def keptFacts (nulls : List String) (n : Node) : List Fact := n.reached.flatMap (ownFacts nulls)

/-- **The facts that it leaves out on purpose.** -/
def omissions (nulls : List String) (n : Node) : List Fact :=
  n.reached.flatMap (ownOmissions nulls)

theorem keptFacts_eq (n : Node) :
    n.keptFacts nulls = n.ownFacts nulls ++ n.substatements.flatMap (keptFacts nulls) := by
  unfold keptFacts
  rw [reached_eq, List.flatMap_cons, List.flatMap_assoc]

/-- The same, statement by statement. -/
theorem perm_flatMap_reached (n : Node) :
    (n.keptFacts nulls ++ n.omissions nulls ++ n.strays.flatMap (facts nulls)).Perm
      (n.reached.flatMap fun m =>
        m.ownFacts nulls ++ m.ownOmissions nulls ++ m.looseStatements.flatMap (facts nulls)) := by
  unfold keptFacts omissions strays
  rw [List.flatMap_assoc]
  exact ((List.flatMap_append_perm ..).append_right _).trans (List.flatMap_append_perm ..)

/-- **The facts of a statement** are those that its graph keeps, those left out on purpose, and
those of the statements that are passed over. -/
theorem perm_facts {n : Node} (h : ∀ m ∈ n.reached, m.IsStatement) :
    (n.keptFacts nulls ++ n.omissions nulls ++ n.strays.flatMap (facts nulls)).Perm
      (n.facts nulls) := by
  have hone := @IsStatement.perm_facts nulls n (h n n.self_mem_reached)
  have hparts : (n.substatements.flatMap fun c => c.reached.flatMap fun m => m.ownFacts nulls ++
      m.ownOmissions nulls ++ m.looseStatements.flatMap (facts nulls)).Perm
      (n.substatements.flatMap (facts nulls)) :=
    List.Perm.flatMap_left _ fun c hc => c.perm_flatMap_reached.symm.trans
      (perm_facts fun m hm => h m (mem_reached_of_substatements hc hm))
  refine n.perm_flatMap_reached.trans ?_
  rw [reached_eq, List.flatMap_cons, List.flatMap_assoc, List.append_assoc, List.append_assoc]
  rw [List.append_assoc] at hone
  exact (((hparts.append_left _).append_left _).append_left _).trans hone
termination_by sizeOf n
decreasing_by exact sizeOf_substatements hc

end NullFlow.C.Node
