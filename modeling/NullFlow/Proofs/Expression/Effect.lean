import NullFlow.C.Facts

/-!
# What the evaluation of an expression does

An evaluation does not do all that is written down: the right operand of `&&` or `||` may be left
out, and of the last two operands of `?:` one is. An `Effect` is what is written down, operand by
operand, and `Effect.Runs` says what may be done of it if nothing is known about values.

`Node.effect` reads the effect off a syntax tree, operands before the operation. It knows nothing of
guards: what `Node.facts` leaves out because of a test is part of the effect. An operand whose
address is taken counts as evaluated.
-/

namespace NullFlow

/-- **What an expression does to variables**, as far as it is evaluated. -/
inductive Effect where
  | nothing
  | fact (f : Fact)
  | seq (first second : Effect)
  /-- Of an operand that may be left out. -/
  | optional (e : Effect)
  /-- Of two operands of which one is evaluated. -/
  | either (first second : Effect)

namespace Effect

/-- **The runs of an effect**: what may be done if every test may come out either way. -/
inductive Runs : Effect → List Fact → Prop
  | nothing : Runs .nothing []
  | fact {f : Fact} : Runs (.fact f) [f]
  | seq {a b : Effect} {fs gs : List Fact} (h₁ : Runs a fs) (h₂ : Runs b gs) :
      Runs (.seq a b) (fs ++ gs)
  | skip {e : Effect} : Runs (.optional e) []
  | take {e : Effect} {fs : List Fact} (h : Runs e fs) : Runs (.optional e) fs
  | first {a b : Effect} {fs : List Fact} (h : Runs a fs) : Runs (.either a b) fs
  | second {a b : Effect} {fs : List Fact} (h : Runs b fs) : Runs (.either a b) fs

/-- All that is written down. -/
def facts : Effect → List Fact
  | .nothing => []
  | .fact f => [f]
  | .seq a b | .either a b => a.facts ++ b.facts
  | .optional e => e.facts

/-- Several effects in a row. -/
def all (es : List Effect) : Effect := es.foldr .seq .nothing

theorem facts_ite_optional {c : Prop} [Decidable c] (e : Effect) :
    (if c then e.optional else e).facts = e.facts := by
  split <;> rfl

theorem facts_all (es : List Effect) : (all es).facts = es.flatMap facts := by
  induction es with
  | nil => rfl
  | cons e es ih =>
    show e.facts ++ (all es).facts = _
    rw [ih, List.flatMap_cons]

theorem exists_runs (e : Effect) : ∃ fs, e.Runs fs := by
  induction e with
  | nothing => exact ⟨_, .nothing⟩
  | fact f => exact ⟨_, .fact⟩
  | seq a b iha ihb =>
    obtain ⟨fs, ha⟩ := iha
    obtain ⟨gs, hb⟩ := ihb
    exact ⟨_, .seq ha hb⟩
  | optional e => exact ⟨_, .skip⟩
  | either a b iha =>
    obtain ⟨fs, ha⟩ := iha
    exact ⟨_, .first ha⟩

variable {P : Fact → Prop} {e : Effect} {fs : List Fact}

/-! ## What is done in any case -/

/-- Some fact of a kind is written down. -/
def Mentions (P : Fact → Prop) (e : Effect) : Prop := ∃ f ∈ e.facts, P f

/-- **A fact of a kind comes about in any case.** -/
def Sure (P : Fact → Prop) : Effect → Prop
  | .nothing | .optional _ => False
  | .fact f => P f
  | .seq a b => a.Sure P ∨ b.Sure P
  | .either a b => a.Sure P ∧ b.Sure P

/-- **A fact of a kind depends on a test**: an operand that may be left out has one, or of two
operands of which one is evaluated only one does. -/
def Depends (P : Fact → Prop) : Effect → Prop
  | .nothing | .fact _ => False
  | .optional e => e.Mentions P
  | .seq a b => a.Depends P ∨ b.Depends P
  | .either a b => a.Depends P ∨ b.Depends P ∨ ¬(a.Mentions P ↔ b.Mentions P)

theorem mentions_seq_iff {a b : Effect} :
    (seq a b).Mentions P ↔ a.Mentions P ∨ b.Mentions P := by
  unfold Mentions
  simp only [facts, List.mem_append, or_and_right, exists_or]

theorem mentions_either_iff {a b : Effect} :
    (either a b).Mentions P ↔ a.Mentions P ∨ b.Mentions P := by
  unfold Mentions
  simp only [facts, List.mem_append, or_and_right, exists_or]

/-- **What is written down is done in any case or depends on a test.** -/
theorem Mentions.sure_or_depends (h : e.Mentions P) : e.Sure P ∨ e.Depends P := by
  induction e with
  | nothing =>
    obtain ⟨f, hf, -⟩ := h
    cases hf
  | fact g =>
    obtain ⟨f, hf, hP⟩ := h
    rw [List.mem_singleton.mp hf] at hP
    exact Or.inl hP
  | seq a b iha ihb =>
    rcases mentions_seq_iff.mp h with h | h
    · exact (iha h).imp Or.inl Or.inl
    · exact (ihb h).imp Or.inr Or.inr
  | optional e => exact Or.inr h
  | either a b iha ihb =>
    by_cases hsame : a.Mentions P ↔ b.Mentions P
    · -- both operands have such a fact, so it is sure unless it depends on a test inside of one
      rw [mentions_either_iff, hsame, or_self] at h
      rcases iha (hsame.mpr h) with ha | ha
      · rcases ihb h with hb | hb
        · exact Or.inl ⟨ha, hb⟩
        · exact Or.inr (Or.inr (Or.inl hb))
      · exact Or.inr (Or.inl ha)
    · exact Or.inr (Or.inr (Or.inr hsame))

theorem Runs.exists_of_sure (h : e.Runs fs) (hsure : e.Sure P) : ∃ f ∈ fs, P f := by
  induction h with
  | nothing => exact hsure.elim
  | fact => exact ⟨_, List.mem_singleton_self _, hsure⟩
  | seq _ _ iha ihb =>
    rcases hsure with ha | hb
    · obtain ⟨f, hf, hP⟩ := iha ha
      exact ⟨f, List.mem_append_left _ hf, hP⟩
    · obtain ⟨f, hf, hP⟩ := ihb hb
      exact ⟨f, List.mem_append_right _ hf, hP⟩
  | skip => exact hsure.elim
  | take => exact hsure.elim
  | first _ ih => exact ih hsure.1
  | second _ ih => exact ih hsure.2

/-- What does not come about in any case can be avoided. -/
theorem exists_runs_of_not_sure (h : ¬e.Sure P) : ∃ fs, e.Runs fs ∧ ∀ f ∈ fs, ¬P f := by
  induction e with
  | nothing => exact ⟨[], .nothing, fun _ hf => by cases hf⟩
  | fact g =>
    refine ⟨[g], .fact, fun f hf => ?_⟩
    rw [List.mem_singleton.mp hf]
    exact h
  | seq a b iha ihb =>
    obtain ⟨fs, ha, hfs⟩ := iha fun hsure => h (Or.inl hsure)
    obtain ⟨gs, hb, hgs⟩ := ihb fun hsure => h (Or.inr hsure)
    refine ⟨fs ++ gs, .seq ha hb, fun f hf => ?_⟩
    exact (List.mem_append.mp hf).elim (hfs f) (hgs f)
  | optional e => exact ⟨[], .skip, fun _ hf => by cases hf⟩
  | either a b iha ihb =>
    by_cases hsure : a.Sure P
    · obtain ⟨fs, hb, hfs⟩ := ihb fun hb => h ⟨hsure, hb⟩
      exact ⟨fs, .second hb, hfs⟩
    · obtain ⟨fs, ha, hfs⟩ := iha hsure
      exact ⟨fs, .first ha, hfs⟩

/-- **A fact of a kind comes about in any case** exactly if every run meets one. -/
theorem sure_iff : e.Sure P ↔ ∀ fs, e.Runs fs → ∃ f ∈ fs, P f := by
  constructor
  · exact fun hsure fs h => h.exists_of_sure hsure
  · intro hall
    refine Classical.byContradiction fun hsure => ?_
    obtain ⟨fs, h, hnone⟩ := exists_runs_of_not_sure hsure
    obtain ⟨f, hf, hP⟩ := hall fs h
    exact hnone f hf hP

end Effect

/-! ## The effect of a syntax tree -/

namespace C

/-- **Kinds of nodes that direct control**, or of which it is not certain that they belong to the
program. -/
def Kind.directsControl : Kind → Bool
  | .ifStatement | .elseClause | .whileStatement | .doStatement | .forStatement
  | .switchStatement | .caseStatement | .labeledStatement | .gotoStatement | .breakStatement
  | .continueStatement | .returnStatement | .sehTryStatement | .sehExceptClause
  | .sehFinallyClause | .sehLeaveStatement | .functionDefinition | .preprocIf | .preprocIfdef
  | .preprocElse | .preprocElif | .preprocElifdef | .error => true
  | _ => false

namespace Node

/-- Whether control is directed somewhere in a node. -/
def hasControl (n : Node) : Bool :=
  n.kind.directsControl || n.children.attach.any fun ⟨c, _⟩ => c.hasControl
termination_by sizeOf n
decreasing_by exact sizeOf_lt_of_mem ‹_›

theorem hasControl_eq_false_iff {n : Node} : n.hasControl = false ↔
    n.kind.directsControl = false ∧ ∀ c ∈ n.children, c.hasControl = false := by
  rw [hasControl, Bool.or_eq_false_iff, List.any_eq_false]
  simp only [Bool.not_eq_true, List.mem_attach, forall_const, Subtype.forall]

/-- **Expressions and statements without control flow**, `return` with a value among them: nothing
inside directs control. -/
def IsPlain (n : Node) : Prop :=
  (n.kind = .returnStatement ∨ n.kind.directsControl = false) ∧
    ∀ c ∈ n.children, c.hasControl = false

/-- The effect of a smaller node. -/
abbrev EffectOf (n : Node) := (c : Node) → sizeOf c < sizeOf n → Effect

/-- The effect of the part in a role. -/
def childEffect (n : Node) (effectOf : EffectOf n) (r : Role) : Effect :=
  match h : n.child? r with
  | some c => effectOf c (sizeOf_child? h)
  | none => .nothing

theorem childEffect_of_child? {n c : Node} {effectOf : EffectOf n} {r : Role}
    (hc : n.child? r = some c) : n.childEffect effectOf r = effectOf c (sizeOf_child? hc) := by
  unfold childEffect
  split
  · next d hd =>
    cases hc.symm.trans hd
    rfl
  · next hnone => cases hc.symm.trans hnone

/-- The effect of several parts, one after the other. -/
def partsEffect {n : Node} (effectOf : EffectOf n) (parts : List Node)
    (h : ∀ c ∈ parts, sizeOf c < sizeOf n) : Effect :=
  .all (parts.attach.map fun ⟨c, hc⟩ => effectOf c (h c hc))

/-- The dereference of an operand that is a variable. -/
def dereference (nulls : List String) (kind : DerefKind) (line : Nat) :
    (operand : Option Node) → Effect
  | some operand =>
    match operand.plainVariable? nulls with
    | some var => .fact (.deref var kind line)
    | none => .nothing
  | none => .nothing

/-- What an assignment stores. -/
def assignedValue (nulls : List String) (n : Node) : AssignedValue :=
  match n.child? .right with
  | some right => if n.hasOperator "=" then right.storedValue nulls else .unknown
  | none => .unknown

/-- What a declaration stores. -/
def declaredValue (nulls : List String) (n : Node) : AssignedValue :=
  match n.child? .value with
  | some value => value.storedValue nulls
  | none => .unknown

/-- **The effect of a node.** Operands of `sizeof` and its relatives are not evaluated. Of a generic
selection one operand is, and which one is decided by types, so each of them may be left out. -/
def effect (nulls : List String) (n : Node) : Effect :=
  let effectOf : EffectOf n := fun c _ => c.effect nulls
  match n.kind with
  | .comment | .sizeofExpression | .alignofExpression | .offsetofExpression => .nothing
  | .pointerExpression =>
    .seq (n.childEffect effectOf .argument)
      (if n.hasOperator "*" then dereference nulls .star n.line (n.child? .argument) else .nothing)
  | .fieldExpression =>
    .seq (n.childEffect effectOf .argument)
      (if n.hasOperator "->" then dereference nulls .arrow n.line (n.child? .argument)
        else .nothing)
  | .subscriptExpression =>
    .seq (n.childEffect effectOf .index)
      (.seq (n.childEffect effectOf .argument)
        (dereference nulls .subscript n.line (n.child? .argument)))
  | .callExpression =>
    .seq (partsEffect effectOf n.callArguments fun _ => sizeOf_callArguments)
      (match n.child? .function with
        | some function =>
          if function.kind == .identifier then
            .fact (.call function.text (n.callArguments.map (·.plainVariable? nulls)) n.line)
          else n.childEffect effectOf .function
        | none => .nothing)
  | .assignmentExpression =>
    -- a variable that is assigned to is not read
    .seq (n.childEffect effectOf .right)
      (match (n.child? .left).bind (·.plainVariable? nulls) with
        | some var => .fact (.assign var (n.assignedValue nulls) n.line)
        | none => n.childEffect effectOf .left)
  | .updateExpression =>
    match (n.child? .argument).bind (·.plainVariable? nulls) with
    | some var => .fact (.assign var .unknown n.line)
    | none => n.childEffect effectOf .argument
  | .initDeclarator =>
    .seq (n.childEffect effectOf .value)
      (match (n.child? .declarator).bind declaredName? with
        | some var => .fact (.assign var (n.declaredValue nulls) n.line)
        | none => .nothing)
  | .declaration =>
    .all ((n.childrenIn .declarator).attach.map fun ⟨d, _⟩ =>
      if d.kind == .initDeclarator then d.effect nulls
      else match d.declaredName? with
        | some var => .fact (.assign var .unknown n.line)
        | none => .nothing)
  | .binaryExpression =>
    .seq (n.childEffect effectOf .left)
      (if n.hasOperator "&&" || n.hasOperator "||" then .optional (n.childEffect effectOf .right)
        else n.childEffect effectOf .right)
  | .conditionalExpression =>
    .seq (n.childEffect effectOf .condition)
      (.either (n.childEffect effectOf .consequence) (n.childEffect effectOf .alternative))
  | .genericExpression =>
    partsEffect (fun c h => .optional (effectOf c h)) n.namedChildren fun _ => sizeOf_namedChildren
  | _ => partsEffect effectOf n.namedChildren fun _ => sizeOf_namedChildren
termination_by sizeOf n
decreasing_by
  · assumption
  · exact sizeOf_childrenIn ‹_›

/-- **The evaluations of an expression**, or of a statement without control flow. -/
def Evaluates (nulls : List String) (n : Node) (fs : List Fact) : Prop :=
  n.IsPlain ∧ (n.effect nulls).Runs fs

/-- What is without control flow can be evaluated. -/
theorem exists_evaluates {n : Node} (h : n.IsPlain) (nulls : List String) :
    ∃ fs, n.Evaluates nulls fs := by
  obtain ⟨fs, hfs⟩ := (n.effect nulls).exists_runs
  exact ⟨fs, h, hfs⟩

end Node

end C

end NullFlow
