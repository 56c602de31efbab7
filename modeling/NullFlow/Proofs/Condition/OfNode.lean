import NullFlow.Proofs.Condition.Evaluation
import NullFlow.Proofs.Expression.Kinds

/-!
# Conditions in the source

`Node.Reads` says which condition over pointer variables a node of the syntax tree is: one made of
names and null constants with `!`, `&&`, `||`, `==`, `!=`, `?:`, assignments to names and
parentheses. What the analysis makes of the node is what it makes of the condition: they have the
same facts and the same test (`Node.Reads.factsUnder_eq`, `Node.Reads.nullTest_eq`).

So the state behind a condition is sound wherever its facts and its test are right
(`C.refine_sound`). They need not be: in `!p && (p = q)` the test holds what is said of `p` before
the assignment against what is said after it, and rules out an edge that is taken
(`C.refine_notAndAssigned`).
-/

namespace NullFlow.C

namespace Node

/-- **A node reads as a condition** over pointer variables. Names that stand for null are given. -/
inductive Reads (nulls : List String) : Node → Condition → Prop
  | name {n : Node} (hkind : n.kind = .identifier) (hname : isNullName nulls n.text = false)
      (hparts : n.namedChildren = []) : Reads nulls n (.name n.text)
  /-- A null constant, cast or not, that does nothing. -/
  | null {n : Node} (hnull : n.isNullConstant nulls = true)
      (hkind : n.kind ≠ .parenthesizedExpression)
      (hfacts : ∀ guarded, n.factsUnder nulls guarded = []) : Reads nulls n .null
  | parentheses {n inner : Node} {c : Condition} (hkind : n.kind = .parenthesizedExpression)
      (hfirst : n.firstNamed? = some inner) (hparts : n.parts = [inner])
      (hvalue : n.child? .value = none) (h : Reads nulls inner c) : Reads nulls n c
  /-- Parentheses that begin with a comment. -/
  | commented {n comment inner : Node} {c : Condition} (hkind : n.kind = .parenthesizedExpression)
      (hfirst : n.firstNamed? = some comment) (hcomment : comment.kind = .comment)
      (hparts : n.parts = [inner]) (hvalue : n.child? .value = none) (h : Reads nulls inner c) :
      Reads nulls n (.veiled c)
  | not {n argument : Node} {c : Condition} (hkind : n.kind = .unaryExpression)
      (hoperator : n.hasOperator "!" = true) (hargument : n.child? .argument = some argument)
      (hparts : n.parts = [argument]) (h : Reads nulls argument c) : Reads nulls n (.not c)
  | junction {n left right : Node} {l r : Condition} {decisive : Bool}
      (hkind : n.kind = .binaryExpression)
      (hoperator : n.hasOperator (if decisive then "||" else "&&") = true)
      (hleft : n.child? .left = some left) (hright : n.child? .right = some right)
      (hl : Reads nulls left l) (hr : Reads nulls right r) :
      Reads nulls n (.junction decisive l r)
  | comparison {n left right : Node} {l r : Condition} {equal : Bool}
      (hkind : n.kind = .binaryExpression)
      (hoperator : n.hasOperator (if equal then "==" else "!=") = true)
      (hleft : n.child? .left = some left) (hright : n.child? .right = some right)
      (hl : Reads nulls left l) (hr : Reads nulls right r) :
      Reads nulls n (.comparison equal l r)
  | choice {n condition consequence alternative : Node} {c y a : Condition}
      (hkind : n.kind = .conditionalExpression)
      (hcondition : n.child? .condition = some condition)
      (hconsequence : n.child? .consequence = some consequence)
      (halternative : n.child? .alternative = some alternative)
      (hc : Reads nulls condition c) (hy : Reads nulls consequence y)
      (ha : Reads nulls alternative a) : Reads nulls n (.choice c y a)
  /-- `l ?: r`, which is `l` unless that is null. -/
  | fallback {n condition alternative : Node} {c a : Condition}
      (hkind : n.kind = .conditionalExpression)
      (hcondition : n.child? .condition = some condition)
      (hconsequence : n.child? .consequence = none)
      (halternative : n.child? .alternative = some alternative)
      (hc : Reads nulls condition c) (ha : Reads nulls alternative a) :
      Reads nulls n (.veiled (.junction true c a))
  | assignment {n left right : Node} {v : String} {c : Condition}
      (hkind : n.kind = .assignmentExpression) (hleft : n.child? .left = some left)
      (hv : left.plainVariable? nulls = some v) (hright : n.child? .right = some right)
      (h : Reads nulls right c) :
      Reads nulls n (.assignment v (n.hasOperator "=") n.line c)

variable {nulls : List String} {n : Node} {c : Condition}

namespace Reads

theorem isNullConstant_eq (h : n.Reads nulls c) : n.isNullConstant nulls = c.isNull := by
  induction h with
  | null hnull _ _ => exact hnull
  | name hkind hname _ =>
    rw [isNullConstant, hkind]
    exact hname
  | parentheses hkind hfirst _ _ _ ih => exact (isNullConstant_parenthesized hkind hfirst).trans ih
  | commented hkind hfirst hcomment =>
    rw [isNullConstant_parenthesized hkind hfirst, isNullConstant, hcomment]
    rfl
  | not hkind | junction hkind | comparison hkind | choice hkind | fallback hkind
  | assignment hkind =>
    rw [isNullConstant, hkind]
    rfl

theorem storedValue_eq (h : n.Reads nulls c) :
    n.storedValue nulls = if c.isNull then .null else .unknown := by
  have hnull := h.isNullConstant_eq
  induction h with
  | null =>
    rw [storedValue, hnull]
    rfl
  | parentheses hkind hfirst _ hvalue h ih =>
    exact (storedValue_parenthesized hkind hvalue hfirst).trans (ih h.isNullConstant_eq)
  | commented hkind hfirst hcomment _ hvalue =>
    rw [storedValue_parenthesized hkind hvalue hfirst, storedValue, isNullConstant, hcomment]
    rfl
  | name hkind | not hkind | junction hkind | comparison hkind | choice hkind | fallback hkind
  | assignment hkind =>
    rw [storedValue, hnull, hkind]

theorem comparedVariable?_eq (h : n.Reads nulls c) : n.comparedVariable? nulls = c.named? := by
  induction h with
  | null hnull hkind _ =>
    rw [Node.comparedVariable?_eq ?_ hkind]
    · exact plainVariable?_of_isNullConstant hnull hkind
    · intro hassign
      rw [isNullConstant, hassign] at hnull
      cases hnull
  | name hkind hname _ =>
    rw [Node.comparedVariable?_eq (by simp [hkind]) (by simp [hkind])]
    exact plainVariable?_identifier hkind hname
  | parentheses hkind hfirst _ _ _ ih =>
    exact (comparedVariable?_parenthesized hkind hfirst).trans ih
  | commented hkind hfirst hcomment =>
    rw [comparedVariable?_parenthesized hkind hfirst,
      Node.comparedVariable?_eq (by simp [hcomment]) (by simp [hcomment])]
    exact plainVariable?_eq_none (by simp [hcomment]) (by simp [hcomment])
  | not hkind | junction hkind | comparison hkind | choice hkind | fallback hkind =>
    rw [Node.comparedVariable?_eq (by simp [hkind]) (by simp [hkind])]
    exact plainVariable?_eq_none (by simp [hkind]) (by simp [hkind])
  | assignment hkind hleft hv => exact (comparedVariable?_assignment hkind hleft).trans hv

/-- **The facts of a node are those of the condition**, under any guards. -/
theorem factsUnder_eq (h : n.Reads nulls c) (guarded : Vars) :
    n.factsUnder nulls guarded = c.facts := by
  induction h generalizing guarded with
  | null _ _ hfacts => exact hfacts guarded
  | name hkind _ hparts =>
    rw [factsUnder, hkind]
    simp only
    rw [flatMap_namedChildren, parts, hparts]
    rfl
  | parentheses hkind _ hparts _ _ ih | commented hkind _ _ hparts _ _ ih
  | not hkind _ _ hparts _ ih =>
    rw [factsUnder, hkind]
    simp only
    rw [flatMap_namedChildren, hparts, List.flatMap_singleton]
    exact ih guarded
  | junction hkind _ hleft hright _ _ ihl ihr | comparison hkind _ hleft hright _ _ ihl ihr =>
    rw [factsUnder_binary hkind hleft hright, ihl, ihr]
    rfl
  | choice hkind hcondition hconsequence halternative _ _ _ ihc ihy iha =>
    rw [factsUnder_conditional hkind hcondition halternative, hconsequence, Option.elim_some, ihc,
      ihy, iha]
    rfl
  | fallback hkind hcondition hconsequence halternative _ _ ihc iha =>
    rw [factsUnder_conditional hkind hcondition halternative, hconsequence, Option.elim_none,
      List.append_nil, ihc, iha]
    rfl
  | @assignment n _ _ v c hkind hleft hv hright h ih =>
    rw [factsUnder_assigned hkind hright hleft hv, ih, h.storedValue_eq, Condition.facts]
    cases n.hasOperator "=" <;> cases c.isNull <;> rfl

theorem comparisonTest_eq {left right : Node} {l r : Condition} (hl : left.Reads nulls l)
    (hr : right.Reads nulls r) : comparisonTest nulls left right =
      (Condition.compared? l r).elim .none NullTest.isNull := by
  unfold comparisonTest Condition.compared?
  rw [hl.isNullConstant_eq, hr.isNullConstant_eq, hl.comparedVariable?_eq, hr.comparedVariable?_eq]
  simp only
  split <;> simp_all

/-- **The test of a node is that of the condition.** -/
theorem nullTest_eq (h : n.Reads nulls c) : n.nullTest nulls = c.test := by
  induction h with
  | null hnull hkind _ => exact nullTest_of_isNullConstant hnull hkind
  | name hkind hname _ => exact nullTest_identifier hkind hname
  | parentheses hkind hfirst _ _ _ ih => exact (nullTest_parenthesized hkind hfirst).trans ih
  | commented hkind hfirst hcomment =>
    rw [nullTest_parenthesized hkind hfirst, nullTest, hcomment]
    rfl
  | not hkind hoperator hargument _ _ ih =>
    rw [nullTest_not hkind hoperator hargument, ih]
    rfl
  | junction hkind hoperator hleft hright _ _ ihl ihr =>
    rw [nullTest_junction hkind hleft hright hoperator, ihl, ihr]
    rfl
  | comparison hkind hoperator hleft hright hl hr =>
    rw [nullTest_comparison hkind hleft hright hoperator, comparisonTest_eq hl hr]
    rfl
  | choice hkind | fallback hkind =>
    rw [nullTest, hkind]
    rfl
  | assignment hkind hleft hv => exact nullTest_assignment hkind hleft hv

end Reads

end Node

/-! ## Soundness -/

/-- **States stay sound across a condition** that no assignment confuses. Let a valuation agree with
a state, and let the condition have an outcome. If the facts and the test of the condition are right
about every variable that it tests, then the edge for this outcome is not ruled out, and the state
after it agrees with the valuation after the evaluation at every variable that the facts are right
about. -/
theorem refine_sound {nulls : List String} {n : Node} {c : Condition} (hread : n.Reads nulls c)
    {ρ ρ' : Valuation} {outcome : Bool} (heval : c.Yields ρ outcome ρ') {s : NullState}
    (hs : ∀ v, s.AgreesAt ρ v)
    (htested : ∀ v ∈ (n.nullTest nulls).testedVars, c.Keeps v ∧ c.Carries v) (known : Summaries)
    {block : Block} {text : String} {line : Nat}
    (hterm : block.terminator = .branch text line (n.nullTest nulls)) {e : Edge}
    (hedge : e.kind.outcome? = some outcome) :
    ∃ t, ForwardNull.refine block e (s.afterAll known (n.facts nulls)) = some t ∧
      ∀ v, c.Keeps v → t.AgreesAt ρ' v := by
  have hfacts : n.facts nulls = c.facts := hread.factsUnder_eq ∅
  rw [hread.nullTest_eq] at htested hterm
  rw [hfacts]
  have hafter : ∀ v, c.Keeps v → (s.afterAll known c.facts).AgreesAt ρ' v :=
    fun v hv => heval.agreesAt_afterAll known hv (hs v)
  -- what the test says is so, and so it contradicts neither the state nor itself
  have hnull : ∀ v ∈ c.test.nullWhen outcome, c.Keeps v ∧ ρ' v = false := fun v hv =>
    have h := htested v (NullTest.mem_testedVars_of_nullWhen hv)
    ⟨h.1, heval.test h.2 (x := false) hv⟩
  have hnonNull : ∀ v ∈ c.test.nonNullWhen outcome, c.Keeps v ∧ ρ' v = true := fun v hv =>
    have h := htested v (NullTest.mem_testedVars_of_nonNullWhen hv)
    ⟨h.1, heval.test h.2 (x := true) hv⟩
  obtain ⟨t, ht⟩ : ∃ t, (s.afterAll known c.facts).assume line (c.test.nullWhen outcome)
      (c.test.nonNullWhen outcome) = some t := by
    refine NullState.exists_assume line (fun v hv h => ?_) fun v hv =>
      ⟨fun hv' => ?_, fun o h => ?_⟩
    · exact absurd ((hafter v (hnull v hv).1).nonNull h) (by simp [(hnull v hv).2])
    · exact absurd ((hnonNull v hv).2.symm.trans (hnull v hv').2) (by decide)
    · exact absurd ((hafter v (hnonNull v hv).1).null h) (by simp [(hnonNull v hv).2])
  refine ⟨t, ?_, fun v hv => ?_⟩
  · unfold ForwardNull.refine
    rw [hterm, hedge]
    exact ht
  · obtain ⟨-, -, ht⟩ := NullState.assume_eq_some_iff.mp ht
    have htv := ht v
    split at htv
    · next hmem =>
      exact ⟨fun _ => (hnonNull v hmem).2, fun h => nomatch htv.symm.trans h⟩
    · split at htv
      · next hmem =>
        exact ⟨fun h => (nomatch htv.symm.trans h), fun _ => (hnull v hmem).2⟩
      · exact (hafter v hv).congr htv rfl

/-! ## A test and an assignment of one variable -/

namespace Node

/-- A variable in a role. -/
def operand (role : Role) (v : String) : Node := ⟨.identifier, some role, v, 1, 1, []⟩

/-- A token, in a role or in none. -/
def mark (role? : Option Role) (text : String) : Node := ⟨.token text, role?, text, 1, 1, []⟩

/-- `(p = q)` as a right operand. -/
def assignedToP : Node :=
  ⟨.parenthesizedExpression, some .right, "(p = q)", 1, 1,
    [mark none "(",
      ⟨.assignmentExpression, none, "p = q", 1, 1,
        [operand .left "p", mark (some .operator) "=", operand .right "q"]⟩,
      mark none ")"]⟩

/-- `!p` as a left operand. -/
def notP : Node :=
  ⟨.unaryExpression, some .left, "!p", 1, 1, [mark (some .operator) "!", operand .argument "p"]⟩

/-- A left operand `&& (p = q)`. -/
def andAssignedToP (left : Node) : Node :=
  ⟨.binaryExpression, none, left.text ++ " && (p = q)", 1, 1,
    [left, mark (some .operator) "&&", assignedToP]⟩

theorem reads_operand (role : Role) {v : String} (hv : isNullName [] v = false) :
    (operand role v).Reads [] (.name v) := .name rfl hv rfl

theorem reads_assignedToP : assignedToP.Reads [] (.assignment "p" true 1 (.name "q")) := by
  have hp : (operand .left "p").plainVariable? [] = some "p" := by
    rw [plainVariable?]
    rfl
  exact .parentheses rfl rfl rfl rfl
    (.assignment rfl rfl hp rfl (reads_operand .right (by decide)))

theorem reads_notP : notP.Reads [] (.not (.name "p")) :=
  .not rfl (by decide) rfl rfl (reads_operand .argument (by decide))

theorem reads_andAssignedToP {left : Node} {l : Condition} (h : left.Reads [] l)
    (hrole : left.role = some .left) :
    (andAssignedToP left).Reads [] (.junction false l (.assignment "p" true 1 (.name "q"))) := by
  refine .junction rfl ?_ ?_ ?_ h reads_assignedToP
  · simp [hasOperator, child?, andAssignedToP, hrole, mark]
  · simp [child?, andAssignedToP, hrole]
  · simp [child?, andAssignedToP, hrole, mark, assignedToP]

end Node

/-- A block that ends in a condition. -/
def endingIn (n : Node) : Block :=
  { id := 0, label := "entry", terminator := .branch n.text n.line (n.nullTest []) }

/-- `p && (p = q)`: what the left operand says of `p`, the right one says again. -/
theorem refine_sound_andAssigned :
    let c : Condition := .junction false (.name "p") (.assignment "p" true 1 (.name "q"))
    let n := Node.andAssignedToP (Node.operand .left "p")
    ∃ t, ForwardNull.refine (endingIn n) ⟨0, 1, .trueBranch⟩
        ((∅ : NullState).afterAll .none (n.facts [])) = some t ∧
      ∀ v, c.Keeps v → t.AgreesAt (Function.update (fun _ => true) "p" true) v := by
  intro c n
  have hkeeps : ∀ v, c.Keeps v := fun v =>
    ⟨trivial, fun ⟨f, hf, line, h⟩ => by
      rw [h] at hf
      cases List.mem_singleton.mp hf⟩
  exact refine_sound (Node.reads_andAssignedToP (Node.reads_operand .left (by decide)) rfl)
    (.undecided (.name (v := "p") (ρ := fun _ => true)) (.assigned .name))
    (fun v => .of_none Std.ExtTreeMap.getElem?_empty)
    (fun v _ => ⟨hkeeps v, trivial, trivial, fun _ _ h => h⟩) .none rfl rfl

/-- **An edge that is taken can be ruled out.** In `!p && (p = q)` the left operand says that `p` is
null and the right one that it is not, each at its own time; the test joins them, and what it then
asks for is impossible. But if `p` is null and `q` is not, the condition is true. -/
theorem refine_notAndAssigned :
    let c : Condition := .junction false (.not (.name "p")) (.assignment "p" true 1 (.name "q"))
    let n := Node.andAssignedToP Node.notP
    n.Reads [] c ∧
      c.Yields (fun v => v != "p") true (Function.update (fun v => v != "p") "p" true) ∧
      (∀ v, (∅ : NullState).AgreesAt (fun v => v != "p") v) ∧
      ForwardNull.refine (endingIn n) ⟨0, 1, .trueBranch⟩
        ((∅ : NullState).afterAll .none (n.facts [])) = none := by
  intro c n
  have hread : n.Reads [] c := Node.reads_andAssignedToP Node.reads_notP rfl
  refine ⟨hread, .undecided (.not .name) (.assigned .name),
    fun v => .of_none Std.ExtTreeMap.getElem?_empty, ?_⟩
  have hfacts : n.facts [] = c.facts := hread.factsUnder_eq ∅
  rw [endingIn, hread.nullTest_eq, hfacts]
  rfl

end NullFlow.C
