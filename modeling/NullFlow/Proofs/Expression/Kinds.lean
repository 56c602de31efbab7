import NullFlow.C.Facts

/-!
# Expressions, kind by kind

What is read off an expression is a recursion over its tree. For the kinds of nodes that such a
function treats on their own, its value is stated here in terms of the parts of the node, so that
proofs about it go by these equations.
-/

namespace NullFlow.C.Node

variable {nulls : List String} {guarded : Vars}
  {n inner argument left right condition consequence alternative : Node} {v : String}

/-- An expression has one operator. -/
theorem hasOperator_eq_false {s t : String} (h : n.hasOperator s = true) (hne : s ≠ t) :
    n.hasOperator t = false := by
  unfold hasOperator at h ⊢
  cases hop : n.child? .operator with
  | none => rfl
  | some op =>
    rw [hop] at h
    simp only [beq_iff_eq] at h
    simp [h, hne]

/-! ## Parentheses

What stands first in them counts. A comment there is all that is seen of what they contain. -/

theorem plainVariable?_parenthesized (hkind : n.kind = .parenthesizedExpression)
    (hfirst : n.firstNamed? = some inner) :
    n.plainVariable? nulls = inner.plainVariable? nulls := by
  rw [plainVariable?, hkind]
  simp only
  rw [hfirst]

theorem isNullConstant_parenthesized (hkind : n.kind = .parenthesizedExpression)
    (hfirst : n.firstNamed? = some inner) :
    n.isNullConstant nulls = inner.isNullConstant nulls := by
  rw [isNullConstant, hkind]
  simp only
  rw [hfirst]

theorem comparedVariable?_parenthesized (hkind : n.kind = .parenthesizedExpression)
    (hfirst : n.firstNamed? = some inner) :
    n.comparedVariable? nulls = inner.comparedVariable? nulls := by
  rw [comparedVariable?, hkind]
  simp only
  rw [hfirst]

theorem storedValue_parenthesized (hkind : n.kind = .parenthesizedExpression)
    (hvalue : n.child? .value = none) (hfirst : n.firstNamed? = some inner) :
    n.storedValue nulls = inner.storedValue nulls := by
  rw [storedValue, isNullConstant_parenthesized hkind hfirst]
  split
  · next hnull =>
    rw [storedValue, if_pos hnull]
  · rw [hkind]
    simp only
    rw [hvalue, hfirst]

theorem nullTest_parenthesized (hkind : n.kind = .parenthesizedExpression)
    (hfirst : n.firstNamed? = some inner) : n.nullTest nulls = inner.nullTest nulls := by
  rw [nullTest, hkind]
  simp only
  rw [hfirst]

section Hidden

variable (hkind : n.kind = .parenthesizedExpression)
  (hfirst : ∀ c, n.firstNamed? = some c → c.kind = .comment)

include hkind hfirst

theorem plainVariable?_hidden : n.plainVariable? nulls = none := by
  rw [plainVariable?, hkind]
  simp only
  split
  · next c hc => rw [plainVariable?, hfirst c hc]
  · rfl

theorem isNullConstant_hidden : n.isNullConstant nulls = false := by
  rw [isNullConstant, hkind]
  simp only
  split
  · next c hc => rw [isNullConstant, hfirst c hc]
  · rfl

theorem comparedVariable?_hidden : n.comparedVariable? nulls = none := by
  rw [comparedVariable?, hkind]
  simp only
  split
  · next c hc => rw [comparedVariable?, plainVariable?, hfirst c hc]
  · rfl

theorem nullTest_hidden : n.nullTest nulls = .none := by
  rw [nullTest, hkind]
  simp only
  split
  · next c hc => rw [nullTest, hfirst c hc]
  · rfl

end Hidden

/-! ## What stands first -/

/-- **Whether it counts which named child stands first.** Some constructs look there only if the
child in the role they look for is missing. -/
def looksAtFirst (n : Node) : Bool :=
  match n.kind with
  | .parenthesizedExpression | .expressionStatement => true
  | .castExpression => (n.child? .value).isNone
  | .pointerDeclarator | .arrayDeclarator | .initDeclarator | .parenthesizedDeclarator
  | .attributedDeclarator => (n.child? .declarator).isNone
  | _ => false

theorem looksAtFirst_parenthesized (hkind : n.kind = .parenthesizedExpression) :
    n.looksAtFirst = true := by
  rw [looksAtFirst, hkind]

/-- What is stored by parentheses or a cast is what is stored by the expression inside of them. -/
theorem storedValue_eq_elim (hnull : n.isNullConstant nulls = false)
    (hkind : n.kind = .parenthesizedExpression ∨ n.kind = .castExpression) :
    n.storedValue nulls =
      ((n.child? .value).or n.firstNamed?).elim .unknown (storedValue nulls) := by
  rw [storedValue, hnull]
  rcases hkind with hkind | hkind <;>
  · simp only [hkind, Bool.false_eq_true, if_false]
    cases n.child? .value <;> cases n.firstNamed? <;> rfl

/-- The kinds of declarators that have another one inside. -/
def wrappers : List Kind :=
  [.pointerDeclarator, .arrayDeclarator, .initDeclarator, .parenthesizedDeclarator,
   .attributedDeclarator]

theorem looksAtFirst_wrapper (hkind : n.kind ∈ wrappers) (hnone : n.child? .declarator = none) :
    n.looksAtFirst = true := by
  simp only [wrappers, List.mem_cons, List.not_mem_nil, or_false] at hkind
  rcases hkind with hkind | hkind | hkind | hkind | hkind <;>
    rw [looksAtFirst, hkind, hnone] <;> rfl

theorem declaredName?_eq_elim (hkind : n.kind ∈ wrappers) :
    n.declaredName? = ((n.child? .declarator).or n.firstNamed?).elim none declaredName? := by
  have hinner : n.innerDeclarator? = (n.child? .declarator).or n.firstNamed? := rfl
  simp only [wrappers, List.mem_cons, List.not_mem_nil, or_false] at hkind
  rw [declaredName?, ← hinner]
  rcases hkind with hkind | hkind | hkind | hkind | hkind <;>
  · simp only [hkind]
    cases n.innerDeclarator? <;> rfl

/-! ## Names -/

/-- A name without a meaning of its own names a variable. -/
theorem plainVariable?_identifier (hkind : n.kind = .identifier)
    (hname : isNullName nulls n.text = false) : n.plainVariable? nulls = some n.text := by
  rw [plainVariable?]
  simp only [hkind, hname]
  rfl

/-- Nothing but a name, in parentheses or not, names a variable. -/
theorem plainVariable?_eq_none (hname : n.kind ≠ .identifier)
    (hparens : n.kind ≠ .parenthesizedExpression) : n.plainVariable? nulls = none := by
  unfold plainVariable?
  split
  · exact absurd ‹_› hname
  · exact absurd ‹_› hparens
  · rfl

theorem comparedVariable?_eq (hassign : n.kind ≠ .assignmentExpression)
    (hparens : n.kind ≠ .parenthesizedExpression) :
    n.comparedVariable? nulls = n.plainVariable? nulls := by
  unfold comparedVariable?
  split
  · exact absurd ‹_› hparens
  · exact absurd ‹_› hassign
  · rfl

theorem nullTest_identifier (hkind : n.kind = .identifier)
    (hname : isNullName nulls n.text = false) :
    n.nullTest nulls = (NullTest.isNull n.text).negate := by
  rw [nullTest, hkind]
  simp only
  rw [plainVariable?_identifier hkind hname]

/-- To mention a name does nothing. -/
theorem factsUnder_identifier (hkind : n.kind = .identifier) (hchildren : n.children = []) :
    n.factsUnder nulls guarded = [] := by
  obtain ⟨kind, role, text, line, column, children⟩ := n
  cases hkind
  cases hchildren
  rw [factsUnder]
  rfl

/-! ## Null constants -/

theorem plainVariable?_of_isNullConstant (h : n.isNullConstant nulls = true)
    (hkind : n.kind ≠ .parenthesizedExpression) : n.plainVariable? nulls = none := by
  by_cases hname : n.kind = .identifier
  · rw [isNullConstant, hname] at h
    rw [plainVariable?, hname]
    exact if_pos h
  · exact plainVariable?_eq_none hname hkind

theorem nullTest_of_isNullConstant (h : n.isNullConstant nulls = true)
    (hkind : n.kind ≠ .parenthesizedExpression) : n.nullTest nulls = .none := by
  unfold nullTest
  split
  · next hparens => exact absurd hparens hkind
  · rw [plainVariable?_of_isNullConstant h hkind]
  all_goals first
    | rfl
    | next hother =>
      -- no other kind makes a test and is a null constant
      rw [isNullConstant, hother] at h
      cases h

/-! ## Assignments -/

theorem comparedVariable?_assignment (hkind : n.kind = .assignmentExpression)
    (hleft : n.child? .left = some left) :
    n.comparedVariable? nulls = left.plainVariable? nulls := by
  rw [comparedVariable?, hkind]
  simp only
  rw [hleft, Option.bind_some]

theorem nullTest_assignment (hkind : n.kind = .assignmentExpression)
    (hleft : n.child? .left = some left) (hv : left.plainVariable? nulls = some v) :
    n.nullTest nulls = (NullTest.isNull v).negate := by
  rw [nullTest, hkind]
  simp only
  rw [hleft, Option.bind_some, hv]

/-! ## Operators -/

theorem nullTest_not (hkind : n.kind = .unaryExpression) (hoperator : n.hasOperator "!" = true)
    (hargument : n.child? .argument = some argument) :
    n.nullTest nulls = (argument.nullTest nulls).negate := by
  rw [nullTest, hkind]
  simp only
  rw [hargument]
  exact if_pos hoperator

section

variable (hkind : n.kind = .binaryExpression) (hleft : n.child? .left = some left)
  (hright : n.child? .right = some right)

include hkind hleft hright

/-- **The test of two operands** depends on the operator. -/
theorem nullTest_binary : n.nullTest nulls =
    if n.hasOperator "&&" then (left.nullTest nulls).and (right.nullTest nulls)
    else if n.hasOperator "||" then (left.nullTest nulls).or (right.nullTest nulls)
    else if n.hasOperator "==" then comparisonTest nulls left right
    else if n.hasOperator "!=" then (comparisonTest nulls left right).negate
    else .none := by
  rw [nullTest, hkind]
  simp only
  rw [hleft, hright]

/-- The test of `&&`, or of `||`. -/
theorem nullTest_junction {decisive : Bool}
    (hoperator : n.hasOperator (if decisive then "||" else "&&") = true) : n.nullTest nulls =
      if decisive then (left.nullTest nulls).or (right.nullTest nulls)
      else (left.nullTest nulls).and (right.nullTest nulls) := by
  rw [nullTest_binary hkind hleft hright]
  cases decisive with
  | false => exact if_pos hoperator
  | true =>
    have hand := hasOperator_eq_false (t := "&&") hoperator (by decide)
    rw [hand]
    exact if_pos hoperator

/-- The test of `==`, or of `!=`. -/
theorem nullTest_comparison {equal : Bool}
    (hoperator : n.hasOperator (if equal then "==" else "!=") = true) : n.nullTest nulls =
      if equal then comparisonTest nulls left right
      else (comparisonTest nulls left right).negate := by
  have hand := hasOperator_eq_false (t := "&&") hoperator (by cases equal <;> decide)
  have hor := hasOperator_eq_false (t := "||") hoperator (by cases equal <;> decide)
  rw [nullTest_binary hkind hleft hright, hand, hor]
  cases equal with
  | true => exact if_pos hoperator
  | false =>
    have heq := hasOperator_eq_false (t := "==") hoperator (by decide)
    rw [heq]
    exact if_pos hoperator

end

/-! ## Facts -/

theorem derefFact_of_plainVariable? {operand : Node} {kind : DerefKind} {line : Nat}
    (h : operand.plainVariable? nulls = some v) : derefFact nulls guarded operand kind line =
      if guarded.contains v then [] else [.deref v kind line] := by
  unfold derefFact
  rw [h]

theorem derefFact_eq_nil {operand : Node} {kind : DerefKind} {line : Nat}
    (h : operand.plainVariable? nulls = none) : derefFact nulls guarded operand kind line = [] := by
  unfold derefFact
  rw [h]

theorem factsUnder_pointer (hkind : n.kind = .pointerExpression) : n.factsUnder nulls guarded =
    (n.child? .argument).elim [] fun argument => argument.factsUnder nulls guarded ++
      if n.hasOperator "*" then derefFact nulls guarded argument .star n.line else [] := by
  rw [factsUnder, hkind]
  simp only
  cases n.child? .argument <;> rfl

theorem factsUnder_star (hkind : n.kind = .pointerExpression) (hoperator : n.hasOperator "*" = true)
    (hargument : n.child? .argument = some argument) :
    n.factsUnder nulls guarded =
      argument.factsUnder nulls guarded ++ derefFact nulls guarded argument .star n.line := by
  rw [factsUnder_pointer hkind, hargument, hoperator]
  rfl

theorem factsUnder_field (hkind : n.kind = .fieldExpression) : n.factsUnder nulls guarded =
    (n.child? .argument).elim [] fun argument => argument.factsUnder nulls guarded ++
      if n.hasOperator "->" then derefFact nulls guarded argument .arrow n.line else [] := by
  rw [factsUnder, hkind]
  simp only
  cases n.child? .argument <;> rfl

theorem factsUnder_subscript (hkind : n.kind = .subscriptExpression) :
    n.factsUnder nulls guarded = (n.child? .index).elim [] (factsUnder nulls guarded) ++
      (n.child? .argument).elim [] fun argument => argument.factsUnder nulls guarded ++
        derefFact nulls guarded argument .subscript n.line := by
  rw [factsUnder, hkind]
  simp only
  cases n.child? .index <;> cases n.child? .argument <;> rfl

/-- What is called: a function by its name, or what another expression yields. -/
def calleeFacts (nulls : List String) (guarded : Vars) (args : List (Option String)) (line : Nat)
    (function : Node) : List Fact :=
  if function.kind == .identifier then [.call function.text args line]
  else function.factsUnder nulls guarded

/-- A call by name comes after its arguments. -/
theorem factsUnder_call (hkind : n.kind = .callExpression) : n.factsUnder nulls guarded =
    n.callArguments.flatMap (factsUnder nulls guarded) ++ (n.child? .function).elim []
      (calleeFacts nulls guarded (n.callArguments.map (plainVariable? nulls)) n.line) := by
  rw [factsUnder, hkind]
  simp only
  rw [List.flatMap_subtype (fun _ _ => rfl), List.unattach_attach]
  cases n.child? .function <;> rfl

/-- What is assigned to: a variable, or what another expression yields. -/
def targetFacts (nulls : List String) (guarded : Vars) (value : AssignedValue) (line : Nat)
    (target : Node) : List Fact :=
  match target.plainVariable? nulls with
  | some var => [.assign var value line]
  | none => target.factsUnder nulls guarded

/-- An assignment comes after the value that is assigned. -/
theorem factsUnder_assign (hkind : n.kind = .assignmentExpression) : n.factsUnder nulls guarded =
    (n.child? .right).elim [] (factsUnder nulls guarded) ++
      (n.child? .left).elim [] (targetFacts nulls guarded
        ((n.child? .right).elim .unknown fun right =>
          if n.hasOperator "=" then right.storedValue nulls else .unknown) n.line) := by
  rw [factsUnder, hkind]
  simp only
  cases n.child? .right <;> cases n.child? .left <;> rfl

/-- An assignment to a variable stores the value of its right side. -/
theorem factsUnder_assigned (hkind : n.kind = .assignmentExpression)
    (hright : n.child? .right = some right) (hleft : n.child? .left = some left)
    (hv : left.plainVariable? nulls = some v) :
    n.factsUnder nulls guarded = right.factsUnder nulls guarded ++
      [.assign v (if n.hasOperator "=" then right.storedValue nulls else .unknown) n.line] := by
  rw [factsUnder_assign hkind, hright, hleft, Option.elim_some, Option.elim_some, targetFacts, hv]
  rfl

/-- An assignment to anything but a variable evaluates both of its sides. -/
theorem factsUnder_assignment (hkind : n.kind = .assignmentExpression)
    (hright : n.child? .right = some right) (hleft : n.child? .left = some left)
    (hplain : left.plainVariable? nulls = none) :
    n.factsUnder nulls guarded
      = right.factsUnder nulls guarded ++ left.factsUnder nulls guarded := by
  rw [factsUnder_assign hkind, hright, hleft, Option.elim_some, Option.elim_some, targetFacts,
    hplain]

theorem factsUnder_update (hkind : n.kind = .updateExpression) : n.factsUnder nulls guarded =
    (n.child? .argument).elim [] (targetFacts nulls guarded .unknown n.line) := by
  rw [factsUnder, hkind]
  simp only
  cases n.child? .argument <;> rfl

theorem factsUnder_initDeclarator (hkind : n.kind = .initDeclarator) :
    n.factsUnder nulls guarded = (n.child? .value).elim [] (factsUnder nulls guarded) ++
      ((n.child? .declarator).bind declaredName?).elim [] fun var =>
        [.assign var ((n.child? .value).elim .unknown (storedValue nulls)) n.line] := by
  rw [factsUnder, hkind]
  simp only
  cases n.child? .value <;> cases (n.child? .declarator).bind declaredName? <;> rfl

/-- A declaration does what the initializers in it do. -/
theorem factsUnder_of_declaration (hkind : n.kind = .declaration) :
    n.factsUnder nulls guarded = (n.childrenIn .declarator).flatMap fun d =>
      if d.kind == .initDeclarator then d.factsUnder nulls guarded
      else (d.declaredName?.map (Fact.assign · .unknown n.line)).toList := by
  rw [factsUnder, hkind]
  simp only
  rw [List.flatMap_subtype (g := fun d =>
    if d.kind == .initDeclarator then d.factsUnder nulls guarded
    else (d.declaredName?.map (Fact.assign · .unknown n.line)).toList) fun d _ => ?_,
    List.unattach_attach]
  cases d.declaredName? <;> rfl

/-- The variables that are guarded in a right operand: it may know the outcome of the left one. -/
def guardedRight (nulls : List String) (guarded : Vars) (n left : Node) : Vars :=
  if n.hasOperator "&&" then guarded ∪ (left.nullTest nulls).nonNullWhenTrue
  else if n.hasOperator "||" then guarded ∪ (left.nullTest nulls).nonNullWhenFalse
  else guarded

theorem factsUnder_operands (hkind : n.kind = .binaryExpression) : n.factsUnder nulls guarded =
    (n.child? .left).elim [] fun left => (n.child? .right).elim [] fun right =>
      left.factsUnder nulls guarded ++
        right.factsUnder nulls (guardedRight nulls guarded n left) := by
  rw [factsUnder, hkind]
  simp only
  cases n.child? .left <;> cases n.child? .right <;> rfl

/-- **The facts of two operands**: the right one may know the outcome of the left one. -/
theorem factsUnder_binary (hkind : n.kind = .binaryExpression) (hleft : n.child? .left = some left)
    (hright : n.child? .right = some right) : n.factsUnder nulls guarded =
      left.factsUnder nulls guarded ++
    right.factsUnder nulls
      (if n.hasOperator "&&" then guarded ∪ (left.nullTest nulls).nonNullWhenTrue
      else if n.hasOperator "||" then guarded ∪ (left.nullTest nulls).nonNullWhenFalse
      else guarded) := by
  rw [factsUnder_operands hkind, hleft, hright]
  rfl

theorem factsUnder_choice (hkind : n.kind = .conditionalExpression) : n.factsUnder nulls guarded =
    (n.child? .condition).elim [] fun condition => condition.factsUnder nulls guarded ++
      (n.child? .consequence).elim []
        (factsUnder nulls (guarded ∪ (condition.nullTest nulls).nonNullWhenTrue)) ++
      (n.child? .alternative).elim []
        (factsUnder nulls (guarded ∪ (condition.nullTest nulls).nonNullWhenFalse)) := by
  rw [factsUnder, hkind]
  simp only
  cases n.child? .condition <;> cases n.child? .consequence <;> cases n.child? .alternative <;> rfl

/-- **The facts of a choice**: its branches know the outcome of the condition. -/
theorem factsUnder_conditional (hkind : n.kind = .conditionalExpression)
    (hcondition : n.child? .condition = some condition)
    (halternative : n.child? .alternative = some alternative) : n.factsUnder nulls guarded =
      condition.factsUnder nulls guarded ++
        ((n.child? .consequence).elim [] fun consequence =>
          consequence.factsUnder nulls (guarded ∪ (condition.nullTest nulls).nonNullWhenTrue)) ++
        alternative.factsUnder nulls (guarded ∪ (condition.nullTest nulls).nonNullWhenFalse) := by
  rw [factsUnder_choice hkind, hcondition, Option.elim_some, halternative, Option.elim_some]

/-! ## Nodes that do what their children do -/

/-- The named parts of a node, comments left out. -/
def parts (n : Node) : List Node := n.namedChildren.filter (·.kind != .comment)

/-- Comments count for nothing where each of them contributes nothing. -/
theorem flatMap_parts {α : Type} {f : Node → List α}
    (h : ∀ c : Node, c.kind = .comment → f c = []) :
    n.namedChildren.flatMap f = n.parts.flatMap f := by
  rw [parts]
  induction n.namedChildren with
  | nil => rfl
  | cons c l ih =>
    by_cases hc : c.kind = .comment
    · rw [List.filter_cons_of_neg (by simpa using hc), List.flatMap_cons, h c hc, ih,
        List.nil_append]
    · rw [List.filter_cons_of_pos (by simpa using hc), List.flatMap_cons, List.flatMap_cons, ih]

theorem factsUnder_comment (c : Node) (hkind : c.kind = .comment) :
    c.factsUnder nulls guarded = [] := by
  rw [factsUnder, hkind]

/-- **Parts that are comments do nothing.** -/
theorem flatMap_namedChildren (n : Node) (nulls : List String) (guarded : Vars) :
    n.namedChildren.attach.flatMap (fun ⟨c, _⟩ => c.factsUnder nulls guarded)
      = n.parts.flatMap (·.factsUnder nulls guarded) := by
  rw [List.flatMap_subtype (fun _ _ => rfl), List.unattach_attach]
  exact flatMap_parts factsUnder_comment

/-- The kinds of nodes that do more than their children do, or less. -/
def special : List Kind :=
  [.comment, .sizeofExpression, .alignofExpression, .offsetofExpression, .pointerExpression,
   .fieldExpression, .subscriptExpression, .callExpression, .assignmentExpression,
   .updateExpression, .initDeclarator, .declaration, .binaryExpression, .conditionalExpression]

/-- Any other node does what its children do. -/
theorem factsUnder_eq_flatMap (h : n.kind ∉ special) (guarded : Vars) :
    n.factsUnder nulls guarded = n.namedChildren.flatMap (factsUnder nulls guarded) := by
  rw [factsUnder]
  split
  case h_15 => rw [List.flatMap_subtype (fun _ _ => rfl), List.unattach_attach]
  all_goals
    next hkind =>
      rw [hkind] at h
      exact absurd (by decide) h

theorem facts_eq_flatMap (h : n.kind ∉ special) :
    n.facts nulls = n.namedChildren.flatMap (facts nulls) := factsUnder_eq_flatMap h ∅

theorem facts_comment (h : n.kind = .comment) : n.facts nulls = [] := factsUnder_comment n h

/-- A node without children does nothing. -/
theorem facts_of_children_eq_nil (h : n.children = []) : n.facts nulls = [] := by
  obtain ⟨kind, role, text, line, column, children⟩ := n
  cases h
  rw [facts, factsUnder]
  split <;> rfl

end NullFlow.C.Node
