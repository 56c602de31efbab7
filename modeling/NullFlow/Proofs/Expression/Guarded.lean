import NullFlow.Proofs.Condition.OfNode
import NullFlow.Proofs.Expression.Mandatory
import NullFlow.Proofs.Expression.OfNode

/-!
# Which dereferences are left out

In the facts of an expression a dereference is missing only if its variable is guarded, and every
evaluation that comes to it has tested before that the variable is not null
(`Node.leftOut_tested`). What the test found may be out of date: the guards of the right operand of
`&&` are those of the left one, whatever the right one assigns to before it dereferences. In
`p && (p = 0, *p)` the dereference is left out as well (`Node.leftOut_assigned`), so that the
statement counts as one that assigns null to `p` and dereferences nothing. A variable that the
expression does not assign to is still what the test has found.
-/

namespace NullFlow.C.Node

open Occurrence (listed? done?)

variable {nulls : List String} {n : Node}

/-- **An evaluation** of an expression, or of a statement without control flow: its outcome as a
truth value, and what happens in it. -/
structure Evaluation (nulls : List String) (n : Node) (outcome : Bool) (es : List Occurrence) :
    Prop where
  isPlain : n.IsPlain
  runs : (n.course nulls).Runs ∅ outcome es

/-- What an evaluation assigns to is assigned to by the facts. -/
theorem Evaluation.exists_assigns {outcome : Bool} {es : List Occurrence} {e : Occurrence}
    {v : String} (h : n.Evaluation nulls outcome es) (hn : n.Everywhere HasOperands) (he : e ∈ es)
    (hv : e.Assigns v) : ∃ f ∈ n.facts nulls, f.Assigns v := by
  cases e with
  | fact f =>
    refine ⟨f, ?_, hv⟩
    have hmem : .fact f ∈ es.filter (!·.isTest) := List.mem_filter.mpr ⟨he, rfl⟩
    rw [facts, ← listed_course nulls n hn]
    exact List.mem_filterMap.mpr ⟨_, h.runs.sublist_written.subset hmem, rfl⟩
  | leftOut | test => exact hv.elim

/-- **Dereferences are left out for a reason.** What is written down of an expression is its effect,
and the facts are what of it is not left out. In an evaluation, which does some of that in its
order, a dereference that is left out comes after a test that its variable is not null, and nothing
has been assigned to the variable since if the expression does not assign to it at all. -/
theorem leftOut_tested (nulls : List String) (h : n.Everywhere HasOperands) :
    (n.course nulls).gather done? ∅ = (n.effect nulls).facts ∧
      (n.course nulls).gather listed? ∅ = n.facts nulls ∧
      ∀ outcome es, n.Evaluation nulls outcome es →
        (es.filter (!·.isTest)).Sublist ((n.course nulls).written ∅) ∧
        ∀ before v kind line after, es = before ++ .leftOut v kind line :: after →
          ∃ earlier since, before = earlier ++ .test v true :: since ∧
            ((∀ f ∈ n.facts nulls, ¬f.Assigns v) → ∀ e ∈ since, ¬e.Assigns v) := by
  refine ⟨done_course nulls n h ∅, listed_course nulls n h ∅, fun outcome es heval => ?_⟩
  refine ⟨heval.runs.sublist_written, fun before v kind line after hes => ?_⟩
  have htest : .test v true ∈ before :=
    (heval.runs.leftOutTested before v kind line after hes).resolve_left
      Std.ExtTreeSet.not_mem_empty
  obtain ⟨earlier, since, rfl⟩ := List.append_of_mem htest
  refine ⟨earlier, since, rfl, fun hassigns e he hv => ?_⟩
  have hmem : e ∈ es := by
    rw [hes]
    exact List.mem_append_left _ (List.mem_append_right _ (List.mem_cons_of_mem _ he))
  obtain ⟨f, hf, hfv⟩ := heval.exists_assigns h hmem hv
  exact hassigns f hf hfv

/-! ### A guard and an assignment -/

/-- `p = 0` as a left operand. -/
def clearedP : Node :=
  ⟨.assignmentExpression, some .left, "p = 0", 1, 7,
    [operand .left "p", mark (some .operator) "=", ⟨.numberLiteral, some .right, "0", 1, 11, []⟩]⟩

/-- `(p = 0, *p)` as a right operand. -/
def clearedAndRead : Node :=
  ⟨.parenthesizedExpression, some .right, "(p = 0, *p)", 1, 6,
    [mark none "(",
      ⟨.commaExpression, none, "p = 0, *p", 1, 7, [clearedP, mark none ",", pointee .right]⟩,
      mark none ")"]⟩

theorem course_leaf (hkind : n.kind = .identifier ∨ n.kind = .numberLiteral)
    (hchildren : n.children = []) : n.course nulls = .nothing := by
  obtain ⟨kind, role, text, line, column, children⟩ := n
  cases hchildren
  rw [course]
  rcases hkind with rfl | rfl <;> rfl

theorem course_pointee (r : Role) :
    (pointee r).course [] = .seq .nothing (.dereference "p" .star 1) := by
  rw [course]
  show Course.seq (pointed.course []) (dereferenceCourse [] .star 1 pointed) = _
  rw [course_leaf (Or.inl rfl) rfl, dereferenceCourse, plainVariable?_pointed]

theorem course_clearedP :
    clearedP.course [] = .seq .nothing (.fact (.assign "p" .null 1)) := by
  have hp : (operand .left "p").plainVariable? [] = some "p" := plainVariable?_identifier rfl rfl
  have hnull : clearedP.assignedValue [] = .null := by
    show Node.storedValue [] ⟨.numberLiteral, some .right, "0", 1, 11, []⟩ = .null
    rw [storedValue, isNullConstant]
    rfl
  rw [course_assignment rfl]
  show Course.seq (course [] ⟨.numberLiteral, some .right, "0", 1, 11, []⟩)
    (((operand .left "p").plainVariable? []).elim ((operand .left "p").course []) fun var =>
      .fact (.assign var (clearedP.assignedValue []) 1)) = _
  rw [course_leaf (Or.inr rfl) rfl, hp, hnull]
  rfl

theorem course_clearedAndRead : clearedAndRead.course [] =
    .leading (.seq (.seq .nothing (.fact (.assign "p" .null 1)))
      (.seq (.seq .nothing (.dereference "p" .star 1)) .nothing)) .nothing := by
  rw [course_parenthesized rfl]
  show Course.led [course [] ⟨.commaExpression, none, "p = 0, *p", 1, 7,
    [clearedP, mark none ",", pointee .right]⟩] = _
  rw [course]
  show Course.led [.all [clearedP.course [], (pointee .right).course []]] = _
  rw [course_clearedP, course_pointee]
  rfl

/-- `p && right`. -/
def guardedByP (right : Node) : Node := conjunction "p && …" (operand .left "p") right

theorem course_guardedByP {right : Node}
    (hright : (guardedByP right).child? .right = some right)
    (hcompared : right.comparedVariable? [] = none) : (guardedByP right).course [] =
      .junction false (.test true "p" .nothing) (right.course []) := by
  have hp : (operand .left "p").comparedVariable? [] = some "p" := by
    rw [comparedVariable?_eq (by decide) (by decide), plainVariable?_identifier rfl rfl]
    rfl
  rw [course_binary rfl, hright]
  show Course.junction false ((operand .left "p").truth []) (right.truth []) = _
  rw [truth, truth, hp, hcompared, course_leaf (Or.inl rfl) rfl]
  rfl

/-- Nothing directs control, and operators have their operands. -/
def Regular (n : Node) : Prop := n.HasOperands ∧ n.kind.directsControl = false

theorem regular_of_kind
    (hkind : n.kind ∉ [.unaryExpression, .binaryExpression, .conditionalExpression])
    (hcontrol : n.kind.directsControl = false) : n.Regular := by
  simp only [List.mem_cons, List.not_mem_nil, or_false, not_or] at hkind
  exact ⟨⟨fun h => absurd h hkind.1, fun h => absurd h hkind.2.1, fun h => absurd h hkind.2.2⟩,
    hcontrol⟩

theorem everywhere_leaf (hkind : n.Regular) (hchildren : n.children = []) :
    n.Everywhere Regular :=
  .node hkind fun c hc => by rw [hchildren] at hc; cases hc

theorem Everywhere.hasOperands (h : n.Everywhere Regular) : n.Everywhere HasOperands := by
  induction h with
  | node here _ ih => exact .node here.1 ih

theorem Everywhere.isPlain (h : n.Everywhere Regular) : n.IsPlain := by
  have hcontrol {m : Node} (h : m.Everywhere Regular) : m.hasControl = false := by
    induction h with
    | node here _ ih => exact hasControl_eq_false_iff.mpr ⟨here.2, ih⟩
  exact ⟨Or.inr h.here.2, fun c hc => hcontrol (h.of_mem hc)⟩

theorem everywhere_operand (r : Role) (v : String) : (operand r v).Everywhere Regular :=
  everywhere_leaf (regular_of_kind (by simp [operand]) rfl) rfl

theorem everywhere_mark (r? : Option Role) (text : String) : (mark r? text).Everywhere Regular :=
  everywhere_leaf (regular_of_kind (by simp [mark]) rfl) rfl

theorem everywhere_pointee (r : Role) : (pointee r).Everywhere Regular := by
  refine .node (regular_of_kind (by simp [pointee]) rfl) ?_
  exact List.forall_mem_cons.mpr ⟨everywhere_mark _ _, List.forall_mem_singleton.mpr
    (everywhere_leaf (regular_of_kind (by decide) rfl) rfl)⟩

theorem everywhere_clearedP : clearedP.Everywhere Regular := by
  refine .node (regular_of_kind (by decide) rfl) ?_
  exact List.forall_mem_cons.mpr ⟨everywhere_operand _ _, List.forall_mem_cons.mpr
    ⟨everywhere_mark _ _, List.forall_mem_singleton.mpr
      (everywhere_leaf (regular_of_kind (by decide) rfl) rfl)⟩⟩

theorem everywhere_clearedAndRead : clearedAndRead.Everywhere Regular := by
  refine .node (regular_of_kind (by decide) rfl) ?_
  refine List.forall_mem_cons.mpr ⟨everywhere_mark _ _, List.forall_mem_cons.mpr
    ⟨.node (regular_of_kind (by decide) rfl) ?_, List.forall_mem_singleton.mpr
      (everywhere_mark _ _)⟩⟩
  exact List.forall_mem_cons.mpr ⟨everywhere_clearedP, List.forall_mem_cons.mpr
    ⟨everywhere_mark _ _, List.forall_mem_singleton.mpr (everywhere_pointee _)⟩⟩

theorem everywhere_guardedByP {right : Node}
    (hright : (guardedByP right).child? .right = some right) (h : right.Everywhere Regular) :
    (guardedByP right).Everywhere Regular := by
  refine .node ⟨⟨nofun, fun _ => ⟨_, right, rfl, hright⟩, nofun⟩, rfl⟩ ?_
  exact List.forall_mem_cons.mpr ⟨everywhere_operand _ _, List.forall_mem_cons.mpr
    ⟨everywhere_mark _ _, List.forall_mem_singleton.mpr h⟩⟩

/-- What the right operand of `p && …` knows. -/
def guardP : Vars := ∅ ∪ (Course.test true "p" .nothing).nullTest.nonNullWhen true

theorem dereference_guardP : Occurrence.dereference guardP "p" .star 1 = .leftOut "p" .star 1 :=
  if_pos (by decide)

/-- If `p` is not null, the right operand of `p && …` is evaluated. -/
theorem runs_guardedByP {c : Course} {b : Bool} {es : List Occurrence} (h : c.Runs guardP b es) :
    (Course.junction false (.test true "p" .nothing) c).Runs ∅ b (.test "p" true :: es) := by
  have htest : (Course.test true "p" .nothing).Runs ∅ (!false) [.test "p" true] :=
    .test (x := true) .nothing
  exact .undecided htest h

theorem leftOut_tested_guarded :
    (guardedByP (pointee .right)).Everywhere HasOperands ∧
      (guardedByP (pointee .right)).facts [] = [] ∧
      (guardedByP (pointee .right)).Evaluation [] true [.test "p" true, .leftOut "p" .star 1] ∧
      ∃ earlier since, [Occurrence.test "p" true] = earlier ++ .test "p" true :: since ∧
        ∀ e ∈ since, ¬e.Assigns "p" := by
  have hregular : (guardedByP (pointee .right)).Everywhere Regular :=
    everywhere_guardedByP rfl (everywhere_pointee _)
  have hcourse : (guardedByP (pointee .right)).course [] =
      .junction false (.test true "p" .nothing) (.seq .nothing (.dereference "p" .star 1)) := by
    rw [course_guardedByP rfl (comparedVariable?_eq_none (by decide)), course_pointee]
  obtain ⟨-, hlisted, hall⟩ := leftOut_tested [] hregular.hasOperands
  have hfacts : (guardedByP (pointee .right)).facts [] = [] := by
    rw [← hlisted, hcourse]
    decide
  have heval : (guardedByP (pointee .right)).Evaluation [] true
      [.test "p" true, .leftOut "p" .star 1] := by
    refine ⟨hregular.isPlain, ?_⟩
    rw [hcourse, ← dereference_guardP]
    exact runs_guardedByP (.seq (x := true) (y := true) .nothing .dereference)
  refine ⟨hregular.hasOperands, hfacts, heval, ?_⟩
  obtain ⟨earlier, since, hbefore, hsince⟩ := (hall _ _ heval).2 [.test "p" true] "p" .star 1 [] rfl
  refine ⟨earlier, since, hbefore, hsince fun f hf => ?_⟩
  rw [hfacts] at hf
  cases hf

/-- **A dereference is left out of a variable that is null**: in `p && (p = 0, *p)` an evaluation
tests `p`, assigns null to it and dereferences it, and all that the facts know of is the
assignment. -/
theorem leftOut_assigned :
    (guardedByP clearedAndRead).Everywhere HasOperands ∧
      (guardedByP clearedAndRead).facts [] = [.assign "p" .null 1] ∧
      (guardedByP clearedAndRead).Evaluation [] true
        [.test "p" true, .fact (.assign "p" .null 1), .leftOut "p" .star 1] ∧
      ¬∃ earlier since, [Occurrence.test "p" true, .fact (.assign "p" .null 1)] =
        earlier ++ .test "p" true :: since ∧ ∀ e ∈ since, ¬e.Assigns "p" := by
  have hregular : (guardedByP clearedAndRead).Everywhere Regular :=
    everywhere_guardedByP rfl everywhere_clearedAndRead
  have hcompared : clearedAndRead.comparedVariable? [] = none := by
    rw [comparedVariable?_parenthesized rfl rfl]
    exact comparedVariable?_eq_none (by decide)
  have hcourse : (guardedByP clearedAndRead).course [] = .junction false (.test true "p" .nothing)
      (.leading (.seq (.seq .nothing (.fact (.assign "p" .null 1)))
        (.seq (.seq .nothing (.dereference "p" .star 1)) .nothing)) .nothing) := by
    rw [course_guardedByP rfl hcompared, course_clearedAndRead]
  refine ⟨hregular.hasOperands, ?_, ⟨hregular.isPlain, ?_⟩, ?_⟩
  · rw [facts, ← listed_course [] _ hregular.hasOperands, hcourse]
    decide
  · rw [hcourse, ← dereference_guardP]
    have hassign : (Course.seq .nothing (.fact (.assign "p" .null 1))).Runs guardP true
        [.fact (.assign "p" .null 1)] := .seq (x := true) (y := true) .nothing .fact
    have hread : (Course.seq .nothing (.dereference "p" .star 1)).Runs guardP true
        [.dereference guardP "p" .star 1] := .seq (x := true) (y := true) .nothing .dereference
    exact runs_guardedByP (.leading (y := true)
      (.seq hassign (.seq (b := true) (y := true) hread .nothing)) .nothing)
  · rintro ⟨earlier, since, heq, hsince⟩
    cases earlier with
    | nil =>
      obtain ⟨-, rfl⟩ := List.cons.inj heq
      exact hsince _ (List.mem_singleton_self _) (.assign _ _)
    | cons e earlier =>
      have hmem : Occurrence.test "p" true ∈ [Occurrence.fact (.assign "p" .null 1)] := by
        rw [(List.cons.inj heq).2]
        exact List.mem_append_right _ List.mem_cons_self
      cases List.mem_singleton.mp hmem

end NullFlow.C.Node
