import Mathlib.Data.List.Basic
import NullFlow.Proofs.Expression.Course
import NullFlow.Proofs.Expression.Effect
import NullFlow.Proofs.Expression.Kinds

/-!
# The courses of syntax trees

`Node.course` reads off a syntax tree what its evaluation does and tests. It agrees with all that is
known of the tree otherwise, kind by kind: its test is the test of the node
(`Node.nullTest_eq_truth`), what it lists are the facts of the node (`Node.listed_course`), and what
it does, dereferences that are left out included, is the effect of the node (`Node.done_course`).
The facts and the effect are both put together as courses are (`Node.FollowsCourse`), so that one
induction on the node serves both of them (`Node.FollowsCourse.gather_course`).
-/

namespace NullFlow

namespace C.Node

open Occurrence (listed? done?)

/-- The dereference of an operand that is a variable. -/
def dereferenceCourse (nulls : List String) (kind : DerefKind) (line : Nat) (operand : Node) :
    Course :=
  match operand.plainVariable? nulls with
  | some var => .dereference var kind line
  | none => .nothing

/-- The variable that two operands compare with null, if either of them is a null constant. -/
def comparedWithNull? (nulls : List String) (left right : Node) : Option String :=
  if right.isNullConstant nulls then left.comparedVariable? nulls
  else if left.isNullConstant nulls then right.comparedVariable? nulls
  else none

/-- **The course of a node.** An operand of `!`, `&&`, `||` or `?:` is tested if it has the value of
a variable, and `==` and `!=` test a variable next to a null constant. -/
def course (nulls : List String) (n : Node) : Course :=
  match n.kind with
  | .comment | .sizeofExpression | .alignofExpression | .offsetofExpression => .nothing
  | .pointerExpression =>
    (n.child? .argument).pelim .nothing fun argument _ => .seq (argument.course nulls)
      (if n.hasOperator "*" then dereferenceCourse nulls .star n.line argument else .nothing)
  | .fieldExpression =>
    (n.child? .argument).pelim .nothing fun argument _ => .seq (argument.course nulls)
      (if n.hasOperator "->" then dereferenceCourse nulls .arrow n.line argument else .nothing)
  | .subscriptExpression =>
    .seq ((n.child? .index).pelim .nothing fun index _ => index.course nulls)
      ((n.child? .argument).pelim .nothing fun argument _ =>
        .seq (argument.course nulls) (dereferenceCourse nulls .subscript n.line argument))
  | .callExpression =>
    .seq (.all (n.callArguments.attach.map fun ⟨a, _⟩ => a.course nulls))
      ((n.child? .function).pelim .nothing fun function _ =>
        if function.kind == .identifier then
          .fact (.call function.text (n.callArguments.map (·.plainVariable? nulls)) n.line)
        else function.course nulls)
  | .assignmentExpression =>
    -- a variable that is assigned to is not read
    .seq ((n.child? .right).pelim .nothing fun right _ => right.course nulls)
      ((n.child? .left).pelim .nothing fun left _ =>
        match left.plainVariable? nulls with
        | some var => .fact (.assign var (n.assignedValue nulls) n.line)
        | none => left.course nulls)
  | .updateExpression =>
    (n.child? .argument).pelim .nothing fun argument _ =>
      match argument.plainVariable? nulls with
      | some var => .fact (.assign var .unknown n.line)
      | none => .seq (argument.course nulls) .nothing
  | .initDeclarator =>
    .seq ((n.child? .value).pelim .nothing fun value _ => value.course nulls)
      (match (n.child? .declarator).bind declaredName? with
        | some var => .fact (.assign var (n.declaredValue nulls) n.line)
        | none => .nothing)
  | .declaration =>
    .all ((n.childrenIn .declarator).attach.map fun ⟨d, _⟩ =>
      if d.kind == .initDeclarator then d.course nulls
      else match d.declaredName? with
        | some var => .fact (.assign var .unknown n.line)
        | none => .nothing)
  | .binaryExpression =>
    (n.child? .left).pelim .nothing fun left _ =>
      (n.child? .right).pelim .nothing fun right _ =>
        let l := left.course nulls
        let r := right.course nulls
        if n.hasOperator "&&" then
          .junction false (.testing true (left.comparedVariable? nulls) l)
            (.testing true (right.comparedVariable? nulls) r)
        else if n.hasOperator "||" then
          .junction true (.testing true (left.comparedVariable? nulls) l)
            (.testing true (right.comparedVariable? nulls) r)
        else if n.hasOperator "==" then
          .testing false (comparedWithNull? nulls left right) (.seq l r)
        else if n.hasOperator "!=" then
          .testing true (comparedWithNull? nulls left right) (.seq l r)
        else .seq l r
  | .conditionalExpression =>
    (n.child? .condition).pelim .nothing fun condition _ =>
      .choice (.testing true (condition.comparedVariable? nulls) (condition.course nulls))
        ((n.child? .consequence).pelim .nothing fun consequence _ => consequence.course nulls)
        ((n.child? .alternative).pelim .nothing fun alternative _ => alternative.course nulls)
  | .unaryExpression =>
    if n.hasOperator "!" then
      (n.child? .argument).pelim .nothing fun argument _ =>
        .not (.testing true (argument.comparedVariable? nulls) (argument.course nulls))
    else .all (n.namedChildren.attach.map fun ⟨c, _⟩ => c.course nulls)
  | .parenthesizedExpression => .led (n.namedChildren.attach.map fun ⟨c, _⟩ => c.course nulls)
  | .genericExpression =>
    -- one of the operands is evaluated, and which one is decided by types
    .all (n.namedChildren.attach.map fun ⟨c, _⟩ => .optional (c.course nulls))
  | _ => .all (n.namedChildren.attach.map fun ⟨c, _⟩ => c.course nulls)
termination_by sizeOf n
decreasing_by
  all_goals first
    | exact sizeOf_child? ‹_›
    | exact sizeOf_childrenIn ‹_›
    | exact sizeOf_namedChildren ‹_›
    | exact sizeOf_callArguments ‹_›

/-- **The course of a node as a truth value**, which is a test if the node has the value of a
variable. -/
def truth (nulls : List String) (n : Node) : Course :=
  .testing true (n.comparedVariable? nulls) (n.course nulls)

variable {nulls : List String} {n argument left right : Node}

/-! ## Nodes and their courses -/

theorem course_parenthesized (hkind : n.kind = .parenthesizedExpression) :
    n.course nulls = .led (n.namedChildren.map (course nulls)) := by
  rw [course, hkind]
  simp only
  rw [List.map_subtype (fun _ _ => rfl), List.unattach_attach]

theorem course_not (hkind : n.kind = .unaryExpression) (hoperator : n.hasOperator "!" = true) :
    n.course nulls =
      (n.child? .argument).elim .nothing fun argument => .not (argument.truth nulls) := by
  rw [course, hkind]
  simp only [Option.pelim_eq_elim]
  exact if_pos hoperator

theorem course_unary (hkind : n.kind = .unaryExpression) (hoperator : n.hasOperator "!" = false) :
    n.course nulls = .all (n.namedChildren.map (course nulls)) := by
  rw [course, hkind]
  simp only [hoperator, Bool.false_eq_true, if_false]
  rw [List.map_subtype (fun _ _ => rfl), List.unattach_attach]

/-- The course of two operands depends on the operator. -/
def pairCourse (nulls : List String) (n left right : Node) : Course :=
  if n.hasOperator "&&" then .junction false (left.truth nulls) (right.truth nulls)
  else if n.hasOperator "||" then .junction true (left.truth nulls) (right.truth nulls)
  else
    let both := Course.seq (left.course nulls) (right.course nulls)
    if n.hasOperator "==" then .testing false (comparedWithNull? nulls left right) both
    else if n.hasOperator "!=" then .testing true (comparedWithNull? nulls left right) both
    else both

theorem course_binary (hkind : n.kind = .binaryExpression) : n.course nulls =
    (n.child? .left).elim .nothing fun left =>
      (n.child? .right).elim .nothing fun right => n.pairCourse nulls left right := by
  rw [course, hkind]
  simp only [Option.pelim_eq_elim]
  rfl

theorem course_assignment (hkind : n.kind = .assignmentExpression) : n.course nulls =
    .seq ((n.child? .right).elim .nothing (·.course nulls))
      ((n.child? .left).elim .nothing fun left =>
        (left.plainVariable? nulls).elim (left.course nulls) fun var =>
          .fact (.assign var (n.assignedValue nulls) n.line)) := by
  rw [course, hkind]
  simp only [Option.pelim_eq_elim]
  congr 2
  funext left
  cases left.plainVariable? nulls <;> rfl

/-- Only parentheses, negations and operations of two operands may say something themselves. -/
theorem nullTest_course
    (h : n.kind ∉ [.parenthesizedExpression, .unaryExpression, .binaryExpression]) :
    (n.course nulls).nullTest = .none := by
  have helim {operand? : Option Node} {f : Node → Course} (hf : ∀ c, (f c).nullTest = .none) :
      (operand?.elim .nothing f).nullTest = .none := by
    cases operand? with
    | none => rfl
    | some c => exact hf c
  rw [course]
  simp only [Option.pelim_eq_elim]
  split
  case h_13 | h_15 | h_16 =>
    rename_i hkind
    simp [hkind] at h
  case h_10 => exact helim fun c => by split <;> rfl
  all_goals first
    | rfl
    | exact Course.nullTest_all
    | exact helim fun _ => rfl

/-- An operand that has the value of no variable is no test itself. -/
theorem nullTest_truth (h : n.comparedVariable? nulls = none) :
    (n.truth nulls).nullTest = (n.course nulls).nullTest := by
  rw [truth, h]
  rfl

theorem nullTest_truth_of_comparedVariable? {v : String} (h : n.comparedVariable? nulls = some v) :
    (n.truth nulls).nullTest = (NullTest.isNull v).negate := by
  rw [truth, h]
  rfl

theorem comparedVariable?_eq_none
    (h : n.kind ∉ [.identifier, .parenthesizedExpression, .assignmentExpression]) :
    n.comparedVariable? nulls = none := by
  simp only [List.mem_cons, List.not_mem_nil, or_false, not_or] at h
  rw [comparedVariable?_eq h.2.2 h.2.1, plainVariable?_eq_none h.1 h.2.1]

theorem comparisonTest_eq : comparisonTest nulls left right =
    (comparedWithNull? nulls left right).elim .none .isNull := by
  unfold comparisonTest comparedWithNull?
  simp only
  split <;> simp only [*, Option.elim_some, Option.elim_none]

/-- What two operands say, depending on the operator. -/
theorem nullTest_pairCourse : (n.pairCourse nulls left right).nullTest =
    let compared := (comparedWithNull? nulls left right).elim .none .isNull
    if n.hasOperator "&&" then (left.truth nulls).nullTest.and (right.truth nulls).nullTest
    else if n.hasOperator "||" then (left.truth nulls).nullTest.or (right.truth nulls).nullTest
    else if n.hasOperator "==" then compared
    else if n.hasOperator "!=" then compared.negate
    else .none := by
  unfold pairCourse
  simp only
  split
  · rfl
  split
  · rfl
  cases comparedWithNull? nulls left right
  all_goals
    split
    · rfl
    split <;> rfl

/-- **The test of a node is that of its course.** -/
theorem nullTest_eq_truth (nulls : List String) (n : Node) :
    n.nullTest nulls = (n.truth nulls).nullTest := by
  unfold nullTest
  split
  · next hkind =>
    split
    · next inner hfirst =>
      obtain ⟨after, hnamed⟩ := List.head?_eq_some_iff.mp (List.head?_filter.trans hfirst)
      rw [nullTest_eq_truth nulls inner, truth, truth, comparedVariable?_parenthesized hkind hfirst,
        course_parenthesized hkind, namedChildren, hnamed]
      cases inner.comparedVariable? nulls <;> rfl
    · next hnone =>
      have hnamed : n.namedChildren = [] :=
        List.head?_eq_none_iff.mp (List.head?_filter.trans hnone)
      have hcompared : n.comparedVariable? nulls = none :=
        comparedVariable?_hidden hkind fun c hc =>
          absurd (hnone.symm.trans hc) (Option.some_ne_none c).symm
      rw [nullTest_truth hcompared, course_parenthesized hkind, hnamed]
      rfl
  · next hkind =>
    have hcompared : n.comparedVariable? nulls = n.plainVariable? nulls :=
      comparedVariable?_eq (by simp [hkind]) (by simp [hkind])
    split
    · next v hv => exact (nullTest_truth_of_comparedVariable? (hcompared.trans hv)).symm
    · next hnone =>
      rw [nullTest_truth (hcompared.trans hnone), nullTest_course (by simp [hkind])]
  · next hkind =>
    have hcompared :
        n.comparedVariable? nulls = (n.child? .left).bind (·.plainVariable? nulls) := by
      rw [comparedVariable?, hkind]
    split
    · next v hv => exact (nullTest_truth_of_comparedVariable? (hcompared.trans hv)).symm
    · next hnone =>
      rw [nullTest_truth (hcompared.trans hnone), nullTest_course (by simp [hkind])]
  · next hkind =>
    rw [nullTest_truth (comparedVariable?_eq_none (by simp [hkind]))]
    cases hoperator : n.hasOperator "!" with
    | true =>
      rw [course_not hkind hoperator]
      split <;> rename_i hargument <;> rw [hargument]
      · rw [if_pos rfl, nullTest_eq_truth nulls]
        rfl
      · rfl
    | false =>
      rw [course_unary hkind hoperator, Course.nullTest_all]
      split <;> rfl
  · next hkind =>
    rw [nullTest_truth (comparedVariable?_eq_none (by simp [hkind])), course_binary hkind]
    split
    · next left right hleft hright =>
      rw [hleft, hright, comparisonTest_eq, nullTest_eq_truth nulls left,
        nullTest_eq_truth nulls right]
      exact nullTest_pairCourse.symm
    · next hnone =>
      cases hleft : n.child? .left with
      | none => rfl
      | some left =>
        cases hright : n.child? .right with
        | none => rfl
        | some right => exact (hnone _ _ hleft hright).elim
  · next hparens hname hassign hunary hbinary =>
    have hcompared : n.kind ∉ [.identifier, .parenthesizedExpression, .assignmentExpression] := by
      simp only [List.mem_cons, List.not_mem_nil, or_false, not_or]
      exact ⟨hname, hparens, hassign⟩
    have hplain : n.kind ∉ [.parenthesizedExpression, .unaryExpression, .binaryExpression] := by
      simp only [List.mem_cons, List.not_mem_nil, or_false, not_or]
      exact ⟨hparens, hunary, hbinary⟩
    rw [nullTest_truth (comparedVariable?_eq_none hcompared), nullTest_course hplain]
termination_by sizeOf n
decreasing_by
  · exact sizeOf_firstNamed? ‹_›
  all_goals exact sizeOf_child? ‹_›

/-! ## The facts of a course -/

/-- **What the grammar says of operators**: a negation has one part, its operand, an operation of
two operands has both of them, and a choice has a condition. -/
structure HasOperands (n : Node) : Prop where
  negation (hkind : n.kind = .unaryExpression) (hoperator : n.hasOperator "!" = true) :
    ∃ argument, n.child? .argument = some argument ∧ n.parts = [argument]
  binary (hkind : n.kind = .binaryExpression) :
    ∃ left right, n.child? .left = some left ∧ n.child? .right = some right
  choice (hkind : n.kind = .conditionalExpression) :
    ∃ condition, n.child? .condition = some condition

/-- **A property of every node of a tree.** -/
inductive Everywhere (P : Node → Prop) : Node → Prop
  | node {n : Node} (here : P n) (below : ∀ c ∈ n.children, Everywhere P c) : Everywhere P n

namespace Everywhere

variable {P : Node → Prop} {c : Node}

theorem here (h : n.Everywhere P) : P n := by
  cases h with
  | node here below => exact here

theorem of_mem (h : n.Everywhere P) (hc : c ∈ n.children) : c.Everywhere P := by
  cases h with
  | node here below => exact below c hc

theorem of_mem_callArguments (h : n.Everywhere P) (hc : c ∈ n.callArguments) :
    c.Everywhere P := by
  unfold callArguments at hc
  split at hc
  · next arguments harguments =>
    exact (h.of_mem (mem_children_of_child? harguments)).of_mem
      (mem_children_of_namedChildren (List.mem_filter.mp hc).1)
  · cases hc

end Everywhere

variable {guarded : Vars} {read : Occurrence → Option Fact}

/-- What is gathered from an operand, if there is one. -/
theorem gather_elim {operand? : Option Node} {f : Node → Course} {g : Node → List Fact}
    (h : ∀ c, operand? = some c → (f c).gather read guarded = g c) :
    (operand?.elim .nothing f).gather read guarded = operand?.elim [] g := by
  cases operand? with
  | none => rfl
  | some c => exact h c rfl

theorem gather_pairCourse : (n.pairCourse nulls left right).gather read guarded =
    (left.course nulls).gather read guarded ++
      (right.course nulls).gather read (guardedRight nulls guarded n left) := by
  rw [guardedRight, nullTest_eq_truth nulls left]
  unfold pairCourse
  split
  · rw [Course.gather_junction, truth, truth, Course.gather_testing, Course.gather_testing]
    rfl
  split
  · rw [Course.gather_junction, truth, truth, Course.gather_testing, Course.gather_testing]
    rfl
  simp only
  split
  · rw [Course.gather_testing, Course.gather_seq]
  split
  · rw [Course.gather_testing, Course.gather_seq]
  · rw [Course.gather_seq]

section

variable {kind : DerefKind} {line : Nat} {operand : Node}

theorem listed_dereferenceCourse :
    (dereferenceCourse nulls kind line operand).gather listed? guarded =
      derefFact nulls guarded operand kind line := by
  unfold dereferenceCourse derefFact
  cases operand.plainVariable? nulls with
  | none => rfl
  | some v =>
    simp only [Course.gather, Course.written, Occurrence.dereference]
    split <;> rfl

theorem done_dereferenceCourse :
    (dereferenceCourse nulls kind line operand).gather done? guarded =
      (dereference nulls kind line (some operand)).facts := by
  simp only [dereferenceCourse, dereference]
  cases operand.plainVariable? nulls with
  | none => rfl
  | some v =>
    simp only [Course.gather, Course.written, Occurrence.dereference]
    split <;> rfl

end

/-- What is read off parts one by one, where they are known to be parts. -/
theorem flatMap_attach {α : Type} {l : List Node} {f g : Node → List α} (h : ∀ c ∈ l, f c = g c) :
    (l.attach.flatMap fun c => f c.1) = l.flatMap g := by
  rw [List.flatMap_subtype (g := f) (fun _ _ => rfl), List.unattach_attach]
  exact List.flatMap_congr h

/-! ### Lists that are put together like courses -/

/-- The kinds of nodes that are not evaluated. -/
def unevaluated : List Kind :=
  [.comment, .sizeofExpression, .alignofExpression, .offsetofExpression]

/-- **What is listed of nodes is put together as their courses are.** `list guarded n` is what is
listed of a node where some variables are guarded, and `read` tells what counts as a fact. The facts
of a node are such a list, and what the effect of a node mentions is another one. -/
structure FollowsCourse (nulls : List String) (read : Occurrence → Option Fact)
    (list : Vars → Node → List Fact) : Prop where
  read_fact (f : Fact) : read (.fact f) = some f
  nothing {n : Node} {guarded : Vars} (hkind : n.kind ∈ unevaluated) : list guarded n = []
  pointer {n : Node} {guarded : Vars} (hkind : n.kind = .pointerExpression) :
    list guarded n = (n.child? .argument).elim [] fun c => list guarded c ++
      if n.hasOperator "*" then (dereferenceCourse nulls .star n.line c).gather read guarded else []
  field {n : Node} {guarded : Vars} (hkind : n.kind = .fieldExpression) :
    list guarded n = (n.child? .argument).elim [] fun c => list guarded c ++
      if n.hasOperator "->" then (dereferenceCourse nulls .arrow n.line c).gather read guarded
      else []
  subscript {n : Node} {guarded : Vars} (hkind : n.kind = .subscriptExpression) :
    list guarded n = (n.child? .index).elim [] (list guarded) ++
      (n.child? .argument).elim [] fun c =>
        list guarded c ++ (dereferenceCourse nulls .subscript n.line c).gather read guarded
  call {n : Node} {guarded : Vars} (hkind : n.kind = .callExpression) :
    list guarded n = n.callArguments.flatMap (list guarded) ++
      (n.child? .function).elim [] fun c =>
        if c.kind == .identifier then
          [.call c.text (n.callArguments.map (·.plainVariable? nulls)) n.line]
        else list guarded c
  assignment {n : Node} {guarded : Vars} (hkind : n.kind = .assignmentExpression) :
    list guarded n = (n.child? .right).elim [] (list guarded) ++
      (n.child? .left).elim [] fun c => (c.plainVariable? nulls).elim (list guarded c) fun v =>
        [.assign v (n.assignedValue nulls) n.line]
  update {n : Node} {guarded : Vars} (hkind : n.kind = .updateExpression) :
    list guarded n = (n.child? .argument).elim [] fun c =>
      (c.plainVariable? nulls).elim (list guarded c) fun v => [.assign v .unknown n.line]
  initDeclarator {n : Node} {guarded : Vars} (hkind : n.kind = .initDeclarator) :
    list guarded n = (n.child? .value).elim [] (list guarded) ++
      ((n.child? .declarator).bind declaredName?).elim [] fun v =>
        [.assign v (n.declaredValue nulls) n.line]
  declaration {n : Node} {guarded : Vars} (hkind : n.kind = .declaration) :
    list guarded n = (n.childrenIn .declarator).flatMap fun d =>
      if d.kind == .initDeclarator then list guarded d
      else d.declaredName?.elim [] fun v => [.assign v .unknown n.line]
  binary {n : Node} {guarded : Vars} (h : n.HasOperands) (hkind : n.kind = .binaryExpression) :
    list guarded n = (n.child? .left).elim [] fun left => (n.child? .right).elim [] fun right =>
      list guarded left ++ list (guardedRight nulls guarded n left) right
  choice {n : Node} {guarded : Vars} (h : n.HasOperands)
      (hkind : n.kind = .conditionalExpression) :
    list guarded n = (n.child? .condition).elim [] fun c => list guarded c ++
      (n.child? .consequence).elim [] (list (guarded ∪ (c.nullTest nulls).nonNullWhenTrue)) ++
      (n.child? .alternative).elim [] (list (guarded ∪ (c.nullTest nulls).nonNullWhenFalse))
  other {n : Node} {guarded : Vars} (hkind : n.kind ∉ special) :
    list guarded n = n.namedChildren.flatMap (list guarded)

/-! What is gathered from the parts of a node, if it is known for each of them. -/

section

variable {list : Node → List Fact} {operand? : Option Node} {l : List Node} {line : Nat}

theorem gather_dereferenced {isDereference : Bool} {kind : DerefKind}
    (h : ∀ c, operand? = some c → (c.course nulls).gather read guarded = list c) :
    Course.gather read guarded (operand?.elim .nothing fun c => .seq (c.course nulls)
        (if isDereference then dereferenceCourse nulls kind line c else .nothing)) =
      operand?.elim [] fun c => list c ++
        if isDereference then (dereferenceCourse nulls kind line c).gather read guarded
        else [] := by
  refine gather_elim fun c hc => ?_
  rw [Course.gather_seq, h c hc]
  split <;> rfl

theorem gather_target (hread : ∀ f, read (.fact f) = some f) {value : AssignedValue}
    {other : Node → Course} (h : ∀ c, operand? = some c → (other c).gather read guarded = list c) :
    Course.gather read guarded (operand?.elim .nothing fun c =>
        match c.plainVariable? nulls with
        | some v => .fact (.assign v value line)
        | none => other c) =
      operand?.elim [] fun c => (c.plainVariable? nulls).elim (list c) fun v =>
        [.assign v value line] := by
  refine gather_elim fun c hc => ?_
  cases c.plainVariable? nulls with
  | some v => exact Course.gather_fact hread
  | none => exact h c hc

theorem gather_declared (hread : ∀ f, read (.fact f) = some f) {value : AssignedValue}
    {name? : Option String} :
    Course.gather read guarded (match name? with
      | some v => .fact (.assign v value line)
      | none => .nothing) = name?.elim [] fun v => [.assign v value line] := by
  cases name? with
  | some v => exact Course.gather_fact hread
  | none => rfl

theorem gather_parts (h : ∀ c ∈ l, (c.course nulls).gather read guarded = list c) :
    (Course.all (l.attach.map fun c => c.1.course nulls)).gather read guarded = l.flatMap list := by
  rw [Course.gather_all, List.flatMap_map]
  exact flatMap_attach h

theorem gather_declarators (hread : ∀ f, read (.fact f) = some f)
    (h : ∀ c ∈ l, (c.course nulls).gather read guarded = list c) :
    Course.gather read guarded (.all (l.attach.map fun c =>
        if c.1.kind == .initDeclarator then c.1.course nulls
        else match c.1.declaredName? with
          | some v => .fact (.assign v .unknown line)
          | none => .nothing)) =
      l.flatMap fun c => if c.kind == .initDeclarator then list c
        else c.declaredName?.elim [] fun v => [.assign v .unknown line] := by
  rw [Course.gather_all, List.flatMap_map]
  refine flatMap_attach (f := fun c => Course.gather read guarded
    (if c.kind == .initDeclarator then c.course nulls
      else match c.declaredName? with
        | some v => .fact (.assign v .unknown line)
        | none => .nothing)) fun c hc => ?_
  split
  · exact h c hc
  · exact gather_declared hread

/-- The operand of a negation is the only part of it. -/
theorem gather_negation (hn : n.HasOperands) (hkind : n.kind = .unaryExpression)
    (hoperator : n.hasOperator "!" = true) (hcomment : ∀ c : Node, c.kind = .comment → list c = [])
    (h : ∀ c, n.child? .argument = some c → (c.course nulls).gather read guarded = list c) :
    Course.gather read guarded ((n.child? .argument).elim .nothing fun c =>
        .not (c.truth nulls)) = n.namedChildren.flatMap list := by
  obtain ⟨c, hc, hparts⟩ := hn.negation hkind hoperator
  rw [flatMap_parts hcomment, hparts, List.flatMap_singleton, hc, Option.elim_some,
    Course.gather_not, truth, Course.gather_testing, h c hc]

end

/-- **What the course of a node gathers** is what is listed of the node. -/
theorem FollowsCourse.gather_course {list : Vars → Node → List Fact}
    (h : FollowsCourse nulls read list) (n : Node) (hn : n.Everywhere HasOperands)
    (guarded : Vars) : (n.course nulls).gather read guarded = list guarded n := by
  have hchild {r : Role} (guarded : Vars) (c : Node) (hc : n.child? r = some c) :
      (c.course nulls).gather read guarded = list guarded c :=
    h.gather_course c (hn.of_mem (mem_children_of_child? hc)) guarded
  have hnamed (c : Node) (hc : c ∈ n.namedChildren) :
      (c.course nulls).gather read guarded = list guarded c :=
    h.gather_course c (hn.of_mem (mem_children_of_namedChildren hc)) guarded
  rw [course]
  simp only [Option.pelim_eq_elim]
  split
  case h_1 | h_2 | h_3 | h_4 =>
    rename_i hkind
    exact (h.nothing (hkind ▸ by decide)).symm
  case h_5 hkind =>
    rw [h.pointer hkind]
    exact gather_dereferenced (hchild guarded)
  case h_6 hkind =>
    rw [h.field hkind]
    exact gather_dereferenced (hchild guarded)
  case h_7 hkind =>
    rw [h.subscript hkind, Course.gather_seq, gather_elim (hchild guarded)]
    refine congrArg _ (gather_elim fun c hc => ?_)
    rw [Course.gather_seq, hchild guarded c hc]
  case h_8 hkind =>
    rw [h.call hkind, Course.gather_seq]
    refine congrArg₂ _ (gather_parts fun c hc => ?_) (gather_elim fun c hc => ?_)
    · exact h.gather_course c (hn.of_mem_callArguments hc) guarded
    · split
      · exact Course.gather_fact h.read_fact
      · exact hchild guarded c hc
  case h_9 hkind =>
    rw [h.assignment hkind, Course.gather_seq, gather_elim (hchild guarded)]
    exact congrArg _ (gather_target h.read_fact (hchild guarded))
  case h_10 hkind =>
    rw [h.update hkind]
    refine gather_target h.read_fact fun c hc => ?_
    rw [Course.gather_seq, hchild guarded c hc, Course.gather_nothing, List.append_nil]
  case h_11 hkind =>
    rw [h.initDeclarator hkind, Course.gather_seq, gather_elim (hchild guarded)]
    exact congrArg _ (gather_declared h.read_fact)
  case h_12 hkind =>
    rw [h.declaration hkind]
    exact gather_declarators h.read_fact fun d hd =>
      h.gather_course d (hn.of_mem (mem_children_of_childrenIn hd)) guarded
  case h_13 hkind =>
    rw [h.binary hn.here hkind]
    refine gather_elim fun left hl => gather_elim fun right hr => ?_
    exact gather_pairCourse.trans (congrArg₂ _ (hchild guarded left hl) (hchild _ right hr))
  case h_14 hkind =>
    rw [h.choice hn.here hkind]
    refine gather_elim fun c hc => ?_
    rw [Course.gather_choice, Course.gather_testing, hchild guarded c hc, gather_elim (hchild _),
      gather_elim (hchild _), nullTest_eq_truth nulls c]
    rfl
  case h_15 hkind =>
    rw [h.other (hkind ▸ by decide)]
    split
    · next hoperator =>
      exact gather_negation hn.here hkind hoperator
        (fun c hc => h.nothing (hc ▸ by decide)) (hchild guarded)
    · exact gather_parts hnamed
  case h_16 hkind =>
    rw [h.other (hkind ▸ by decide), Course.gather_led, List.flatMap_map]
    exact flatMap_attach hnamed
  case h_17 hkind =>
    rw [h.other (hkind ▸ by decide), Course.gather_all, List.flatMap_map]
    exact flatMap_attach hnamed
  case h_18 =>
    have hspecial : n.kind ∉ special := by
      simp only [special, List.mem_cons, List.not_mem_nil, or_false, not_or]
      and_intros <;> assumption
    rw [h.other hspecial]
    exact gather_parts hnamed
termination_by sizeOf n
decreasing_by
  · exact sizeOf_child? hc
  · exact sizeOf_namedChildren hc
  · exact sizeOf_callArguments hc
  · exact sizeOf_childrenIn hd

/-! ### Lists of facts, written with eliminators -/

theorem assignedValue_eq_elim : n.assignedValue nulls = (n.child? .right).elim .unknown fun right =>
    if n.hasOperator "=" then right.storedValue nulls else .unknown := by
  rw [assignedValue]
  cases n.child? .right <;> rfl

theorem declaredValue_eq_elim :
    n.declaredValue nulls = (n.child? .value).elim .unknown (storedValue nulls) := by
  rw [declaredValue]
  cases n.child? .value <;> rfl

theorem targetFacts_eq_elim {value : AssignedValue} {line : Nat} :
    targetFacts nulls guarded value line = fun c : Node =>
      (c.plainVariable? nulls).elim (c.factsUnder nulls guarded) fun v =>
        [.assign v value line] := by
  funext c
  rw [targetFacts]
  cases c.plainVariable? nulls <;> rfl

theorem facts_childEffect {r : Role} : (n.childEffect (fun c _ => c.effect nulls) r).facts =
    (n.child? r).elim [] fun c => (c.effect nulls).facts := by
  cases hc : n.child? r with
  | some c => rw [childEffect_of_child? hc, Option.elim_some]
  | none =>
    unfold childEffect
    split
    · next hd => cases hc.symm.trans hd
    · rfl

theorem facts_partsEffect {effectOf : EffectOf n} {parts : List Node}
    {hparts : ∀ c ∈ parts, sizeOf c < sizeOf n}
    (h : ∀ c hc, (effectOf c hc).facts = (c.effect nulls).facts) :
    (partsEffect effectOf parts hparts).facts = parts.flatMap fun c => (c.effect nulls).facts := by
  rw [partsEffect, Effect.facts_all, List.flatMap_map,
    List.flatMap_subtype fun c hc => h c (hparts c hc), List.unattach_attach]

theorem facts_dereferenced {operand? : Option Node} {isDereference : Bool} {kind : DerefKind}
    {line : Nat} :
    (operand?.elim [] fun c => (c.effect nulls).facts) ++
        (if isDereference then dereference nulls kind line operand? else .nothing).facts =
      operand?.elim [] fun c => (c.effect nulls).facts ++
        if isDereference then (dereferenceCourse nulls kind line c).gather done? guarded
        else [] := by
  cases operand? with
  | none => split <;> rfl
  | some c =>
    simp only [Option.elim_some, done_dereferenceCourse]
    split <;> rfl

theorem facts_target {r : Role} {value : AssignedValue} {line : Nat} :
    (match (n.child? r).bind (·.plainVariable? nulls) with
      | some v => .fact (.assign v value line)
      | none => n.childEffect (fun c _ => c.effect nulls) r : Effect).facts =
      (n.child? r).elim [] fun c => (c.plainVariable? nulls).elim (c.effect nulls).facts fun v =>
        [.assign v value line] := by
  cases hc : n.child? r with
  | none => exact facts_childEffect.trans (by rw [hc]; rfl)
  | some c =>
    simp only [Option.bind_some, Option.elim_some]
    cases c.plainVariable? nulls with
    | some v => rfl
    | none => rw [childEffect_of_child? hc]; rfl

/-! ### What is listed, and what is done -/

/-- **The facts of a node follow its course.** -/
theorem followsCourse_factsUnder :
    FollowsCourse nulls listed? fun guarded n => n.factsUnder nulls guarded where
  read_fact _ := rfl
  nothing {n} _ hkind := by
    simp only [unevaluated, List.mem_cons, List.not_mem_nil, or_false] at hkind
    rw [factsUnder]
    rcases hkind with hkind | hkind | hkind | hkind <;> rw [hkind]
  pointer hkind := by simp only [factsUnder_pointer hkind, listed_dereferenceCourse]
  field hkind := by simp only [factsUnder_field hkind, listed_dereferenceCourse]
  subscript hkind := by simp only [factsUnder_subscript hkind, listed_dereferenceCourse]
  call hkind := factsUnder_call hkind
  assignment {n} _ hkind := by
    rw [factsUnder_assign hkind, assignedValue_eq_elim, targetFacts_eq_elim]
  update hkind := by rw [factsUnder_update hkind, targetFacts_eq_elim]
  initDeclarator {n} _ hkind := by rw [factsUnder_initDeclarator hkind, declaredValue_eq_elim]
  declaration {n} _ hkind := by
    rw [factsUnder_of_declaration hkind]
    refine List.flatMap_congr fun d _ => ?_
    cases d.declaredName? <;> rfl
  binary _ hkind := factsUnder_operands hkind
  choice _ hkind := factsUnder_choice hkind
  other hkind := factsUnder_eq_flatMap hkind _

/-- **What the effect of a node mentions follows its course**, whatever is guarded. -/
theorem followsCourse_effect :
    FollowsCourse nulls done? fun _ n => (n.effect nulls).facts where
  read_fact _ := rfl
  nothing {n} _ hkind := by
    simp only [unevaluated, List.mem_cons, List.not_mem_nil, or_false] at hkind
    rw [effect]
    rcases hkind with hkind | hkind | hkind | hkind <;> rw [hkind] <;> rfl
  pointer {n} _ hkind := by
    rw [effect]
    simp only [hkind, Effect.facts, facts_childEffect]
    exact facts_dereferenced
  field {n} _ hkind := by
    rw [effect]
    simp only [hkind, Effect.facts, facts_childEffect]
    exact facts_dereferenced
  subscript {n} _ hkind := by
    rw [effect]
    simp only [hkind, Effect.facts, facts_childEffect]
    cases n.child? .argument with
    | none => rfl
    | some c => simp only [Option.elim_some, done_dereferenceCourse]
  call {n} _ hkind := by
    rw [effect]
    simp only [hkind, Effect.facts]
    refine congrArg₂ _ (facts_partsEffect fun _ _ => rfl) ?_
    cases hc : n.child? .function with
    | none => rfl
    | some c =>
      simp only [Option.elim_some, childEffect_of_child? hc]
      split <;> rfl
  assignment {n} _ hkind := by
    rw [effect]
    simp only [hkind, Effect.facts, facts_childEffect]
    exact congrArg _ facts_target
  update {n} _ hkind := by
    rw [effect]
    simp only [hkind]
    exact facts_target
  initDeclarator {n} _ hkind := by
    rw [effect]
    simp only [hkind, Effect.facts, facts_childEffect]
    cases (n.child? .declarator).bind declaredName? <;> rfl
  declaration {n} _ hkind := by
    rw [effect]
    simp only [hkind, Effect.facts_all, List.flatMap_map]
    refine flatMap_attach (f := fun d => (if d.kind == .initDeclarator then d.effect nulls
      else match d.declaredName? with
        | some v => .fact (.assign v .unknown n.line)
        | none => .nothing).facts) fun d _ => ?_
    split
    · rfl
    · cases d.declaredName? <;> rfl
  binary {n} _ h hkind := by
    obtain ⟨left, right, hl, hr⟩ := h.binary hkind
    rw [effect]
    simp only [hkind, Effect.facts, facts_childEffect, Effect.facts_ite_optional, hl, hr,
      Option.elim_some]
  choice {n} _ h hkind := by
    obtain ⟨c, hc⟩ := h.choice hkind
    rw [effect]
    simp only [hkind, Effect.facts, facts_childEffect, hc, Option.elim_some, List.append_assoc]
  other {n} _ hkind := by
    rw [effect]
    split
    case h_15 | h_16 => exact facts_partsEffect fun _ _ => rfl
    all_goals
      next heq =>
        rw [heq] at hkind
        exact absurd (by decide) hkind

/-- **What a course lists are the facts**: the guards of a node and of its course are the same. -/
theorem listed_course (nulls : List String) (n : Node) (h : n.Everywhere HasOperands)
    (guarded : Vars) : (n.course nulls).gather listed? guarded = n.factsUnder nulls guarded :=
  followsCourse_factsUnder.gather_course n h guarded

/-- **What is done is what the effect mentions**, whatever is guarded. -/
theorem done_course (nulls : List String) (n : Node) (h : n.Everywhere HasOperands)
    (guarded : Vars) : (n.course nulls).gather done? guarded = (n.effect nulls).facts :=
  followsCourse_effect.gather_course n h guarded

end C.Node

end NullFlow
