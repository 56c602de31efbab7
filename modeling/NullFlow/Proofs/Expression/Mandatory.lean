import NullFlow.Proofs.Analysis.MustDeref
import NullFlow.Proofs.Expression.Effect
import NullFlow.Proofs.Expression.Kinds

/-!
# Which dereferences are mandatory

The facts of an expression are one list, whatever tests there are inside of the expression. They are
the facts of its effect without dereferences that a guard makes superfluous (`Node.covered`), so
nothing in the list says that an operand may be left out.

A variable that the facts leave dereferenced is therefore dereferenced by every evaluation, or its
dereference depends on a test. Both happen: after `c && *p` the variable `p` counts as dereferenced,
though it is not if `c` is false.
-/

namespace NullFlow.C.Node

variable {nulls : List String} {guarded : Vars} {n c : Node} {r : Role}

/-! ## Facts and effects -/

/-- **The facts are those of the effect**, in its order and without some dereferences that a guard
makes superfluous. -/
def Covered (nulls : List String) (n : Node) : Prop :=
  ∀ guarded, (n.factsUnder nulls guarded).Sublist (n.effect nulls).facts

/-- A guard can only take the dereference of an operand away. -/
theorem derefFact_sublist {operand : Node} {kind : DerefKind} {line : Nat} :
    (derefFact nulls guarded operand kind line).Sublist
      (dereference nulls kind line (some operand)).facts := by
  unfold derefFact
  split
  · next var hvar =>
    have hfacts : (dereference nulls kind line (some operand)).facts = [.deref var kind line] := by
      simp only [dereference, hvar, Effect.facts]
    rw [hfacts]
    split
    · exact List.nil_sublist _
    · exact List.Sublist.refl _
  · exact List.nil_sublist _

/-- The facts of parts and the effects of parts, one after the other. -/
theorem flatMap_sublist_facts_all {α : Type} {l : List α} {f : α → List Fact} {e : α → Effect}
    (h : ∀ a, (f a).Sublist (e a).facts) : (l.flatMap f).Sublist (Effect.all (l.map e)).facts := by
  rw [Effect.facts_all, List.flatMap_map]
  induction l with
  | nil => exact List.Sublist.refl []
  | cons a l ih =>
    rw [List.flatMap_cons, List.flatMap_cons]
    exact (h a).append ih

section

variable (h : ∀ c : Node, sizeOf c < sizeOf n → c.Covered nulls)

include h

/-- The facts of the part in a role. -/
theorem sublist_childEffect (hc : n.child? r = some c) (guarded : Vars) :
    (c.factsUnder nulls guarded).Sublist (n.childEffect (fun c _ => c.effect nulls) r).facts := by
  rw [childEffect_of_child? hc]
  exact h c (sizeOf_child? hc) guarded

/-- The facts of the part in a role, if there is one. -/
theorem sublist_part (r : Role) (guarded : Vars) :
    (match _h : n.child? r with
      | some c => c.factsUnder nulls guarded
      | none => []).Sublist (n.childEffect (fun c _ => c.effect nulls) r).facts := by
  split
  · next hc => exact sublist_childEffect h hc guarded
  · exact List.nil_sublist _

/-- An operand is evaluated and then dereferenced, by some operator. -/
theorem sublist_dereferenced {kind : DerefKind} (hc : n.child? .argument = some c)
    (isDereference : Bool) :
    (c.factsUnder nulls guarded
        ++ if isDereference then derefFact nulls guarded c kind n.line else []).Sublist
      (Effect.seq (n.childEffect (fun c _ => c.effect nulls) .argument)
        (if isDereference then dereference nulls kind n.line (n.child? .argument)
          else .nothing)).facts := by
  refine (sublist_childEffect h hc guarded).append ?_
  split
  · rw [hc]
    exact derefFact_sublist
  · exact List.nil_sublist _

/-- The target of an assignment is a variable, or it is evaluated. -/
theorem sublist_target {value : AssignedValue} (hc : n.child? r = some c) :
    (match c.plainVariable? nulls with
      | some var => [Fact.assign var value n.line]
      | none => c.factsUnder nulls guarded).Sublist
      (match (n.child? r).bind (·.plainVariable? nulls) with
        | some var => Effect.fact (.assign var value n.line)
        | none => n.childEffect (fun c _ => c.effect nulls) r).facts := by
  rw [hc, Option.bind_some]
  cases c.plainVariable? nulls with
  | some var => exact List.Sublist.refl _
  | none => exact sublist_childEffect h hc guarded

end

/-- **The facts of every node are those of its effect**, without guarded dereferences. -/
theorem covered (nulls : List String) (n : Node) : n.Covered nulls := by
  have h : ∀ c : Node, sizeOf c < sizeOf n → c.Covered nulls := fun c _ => covered nulls c
  intro guarded
  rw [factsUnder, effect]
  -- the cases stand in the order of `factsUnder`; the last one is for everything else
  split
  case h_15 =>
    -- an effect knows generic selections besides
    split
    case h_15 | h_16 =>
      exact flatMap_sublist_facts_all fun c => h c.1 (sizeOf_namedChildren c.2) guarded
    all_goals contradiction
  all_goals
    rename_i hkind
    simp only [hkind]
  case h_1 | h_2 | h_3 | h_4 => exact List.nil_sublist _
  case h_5 | h_6 =>
    split
    · next hc => exact sublist_dereferenced h hc _
    · exact List.nil_sublist _
  case h_7 =>
    refine (sublist_part h .index guarded).append ?_
    split
    · next hc => exact sublist_dereferenced h hc true
    · exact List.nil_sublist _
  case h_8 =>
    refine List.Sublist.append ?_ ?_
    · exact flatMap_sublist_facts_all fun a => h a.1 (sizeOf_callArguments a.2) guarded
    · split
      · next function hc =>
        simp only [hc]
        split
        · exact List.Sublist.refl _
        · exact sublist_childEffect h hc guarded
      · exact List.nil_sublist _
  case h_9 =>
    refine (sublist_part h .right guarded).append ?_
    split
    · next hc => exact sublist_target h hc
    · exact List.nil_sublist _
  case h_10 =>
    split
    · next hc => exact sublist_target h hc
    · exact List.nil_sublist _
  case h_11 =>
    refine (sublist_part h .value guarded).append ?_
    cases (n.child? .declarator).bind declaredName? with
    | some var => exact List.Sublist.refl _
    | none => exact List.nil_sublist _
  case h_12 =>
    refine flatMap_sublist_facts_all fun d => ?_
    split
    · exact h d.1 (sizeOf_childrenIn d.2) guarded
    · cases d.1.declaredName? with
      | some var => exact List.Sublist.refl _
      | none => exact List.nil_sublist _
  case h_13 =>
    split
    · next hl hr =>
      refine (sublist_childEffect h hl guarded).append ?_
      rw [Effect.facts_ite_optional]
      exact sublist_childEffect h hr _
    · exact List.nil_sublist _
  case h_14 =>
    split
    · next hc =>
      rw [List.append_assoc]
      exact (sublist_childEffect h hc guarded).append
        ((sublist_part h .consequence _).append (sublist_part h .alternative _))
    · exact List.nil_sublist _
termination_by sizeOf n

section

variable {left right : Node}

/-- The right side of a conjunction knows that the left one is true. -/
theorem factsUnder_and (hkind : n.kind = .binaryExpression) (hand : n.hasOperator "&&" = true)
    (hleft : n.child? .left = some left) (hright : n.child? .right = some right) :
    n.factsUnder nulls guarded = left.factsUnder nulls guarded
      ++ right.factsUnder nulls (guarded ∪ (left.nullTest nulls).nonNullWhenTrue) := by
  rw [factsUnder_binary hkind hleft hright, if_pos hand]

theorem effect_and (hkind : n.kind = .binaryExpression) (hand : n.hasOperator "&&" = true)
    (hleft : n.child? .left = some left) (hright : n.child? .right = some right) :
    n.effect nulls = .seq (left.effect nulls) (.optional (right.effect nulls)) := by
  rw [effect]
  simp only [hkind, hand, Bool.true_or, if_true, childEffect_of_child? hleft,
    childEffect_of_child? hright]

end

theorem effect_identifier (hkind : n.kind = .identifier) (hchildren : n.children = []) :
    n.effect nulls = .nothing := by
  obtain ⟨kind, role, text, line, column, children⟩ := n
  cases hkind
  cases hchildren
  rw [effect]
  rfl

/-! ## Evaluations -/

variable {known : Summaries} {v : String}

/-- **A variable that the facts leave dereferenced** is dereferenced by every evaluation, or its
dereference depends on a test inside of the expression. -/
theorem evaluations_dereference (hv : v ∈ (∅ : DerefState).afterAll known (n.facts nulls)) :
    (∀ fs, n.Evaluates nulls fs → ∃ f ∈ fs, f.Dereferences known v) ∨
      (n.effect nulls).Depends (·.Dereferences known v) := by
  have hempty : v ∈ (∅ : DerefState) → Fact.LastDereferences known v [] :=
    fun h => absurd h Std.ExtTreeMap.not_mem_empty
  obtain ⟨before, f, after, hfacts, hf, -⟩ := DerefState.lastDereferences_of_mem_afterAll hempty hv
  have hmentions : (n.effect nulls).Mentions (·.Dereferences known v) := by
    refine ⟨f, (covered nulls n ∅).subset ?_, hf⟩
    show f ∈ [] ++ n.facts nulls
    rw [hfacts]
    exact List.mem_append_right before List.mem_cons_self
  exact hmentions.sure_or_depends.imp_left fun hsure fs h => Effect.sure_iff.mp hsure fs h.2

/-- The expressions `c` and `*p` and the conjunction of two expressions. -/
def flag (r : Role) : Node := ⟨.identifier, some r, "c", 1, 1, []⟩

def pointed : Node := ⟨.identifier, some .argument, "p", 1, 2, []⟩

def pointee (r : Role) : Node :=
  ⟨.pointerExpression, some r, "*p", 1, 1, [⟨.token "*", some .operator, "*", 1, 1, []⟩, pointed]⟩

def conjunction (text : String) (left right : Node) : Node :=
  ⟨.binaryExpression, none, text, 1, 1,
    [left, ⟨.token "&&", some .operator, "&&", 1, 1, []⟩, right]⟩

theorem plainVariable?_pointed : pointed.plainVariable? [] = some "p" :=
  plainVariable?_identifier rfl rfl

theorem factsUnder_pointee {r : Role} (h : guarded.contains "p" = false) :
    (pointee r).factsUnder [] guarded = [.deref "p" .star 1] := by
  have hname : pointed.factsUnder [] guarded = [] := factsUnder_identifier rfl rfl
  have hoperator : (pointee r).hasOperator "*" = true := rfl
  rw [factsUnder_star rfl hoperator rfl, hname, List.nil_append,
    derefFact_of_plainVariable? plainVariable?_pointed, h]
  rfl

theorem effect_pointee (r : Role) :
    (pointee r).effect [] = .seq .nothing (.fact (.deref "p" .star 1)) := by
  have hname : pointed.effect [] = .nothing := effect_identifier rfl rfl
  rw [effect]
  show Effect.seq (pointed.effect []) (match pointed.plainVariable? [] with
    | some var => .fact (.deref var .star 1)
    | none => .nothing) = _
  rw [hname, plainVariable?_pointed]

theorem mem_afterAll_pointee : "p" ∈ (∅ : DerefState).afterAll known [.deref "p" .star 1] := by
  have hderef : (Fact.deref "p" .star 1).Dereferences known "p" := .deref .star 1
  exact DerefState.mem_after.mpr (Or.inl hderef)

theorem evaluations_dereference_readFirst :
    "p" ∈ (∅ : DerefState).afterAll .none
        ((conjunction "*p && c" (pointee .left) (flag .right)).facts []) ∧
      ∀ fs, (conjunction "*p && c" (pointee .left) (flag .right)).Evaluates [] fs →
        ∃ f ∈ fs, f.Dereferences .none "p" := by
  have hleft : "p" ∈ (∅ : DerefState).afterAll .none
      ((conjunction "*p && c" (pointee .left) (flag .right)).facts []) := by
    rw [facts, factsUnder_and rfl rfl rfl rfl, factsUnder_pointee rfl,
      factsUnder_identifier rfl rfl, List.append_nil]
    exact mem_afterAll_pointee
  refine ⟨hleft, (evaluations_dereference hleft).resolve_right ?_⟩
  rw [effect_and rfl rfl rfl rfl, effect_pointee, effect_identifier rfl rfl]
  simp [Effect.Depends, Effect.Mentions, Effect.facts]

/-- **A dereference may be skipped**: after `c && *p` the variable `p` counts as dereferenced, and
there is an evaluation that does nothing. -/
theorem evaluates_skipped :
    "p" ∈ (∅ : DerefState).afterAll .none
        ((conjunction "c && *p" (flag .left) (pointee .right)).facts []) ∧
      (conjunction "c && *p" (flag .left) (pointee .right)).Evaluates [] [] := by
  have hguard : ((∅ : Vars) ∪ ((flag .left).nullTest []).nonNullWhenTrue).contains "p"
      = false := by
    rw [nullTest]
    show ((∅ : Vars) ∪ (match (flag .left).plainVariable? [] with
      | some var => (NullTest.isNull var).negate
      | none => .none).nonNullWhenTrue).contains "p" = false
    rw [plainVariable?_identifier rfl rfl]
    decide
  have hleaf : ∀ n : Node, n.kind.directsControl = false → n.children = [] →
      n.hasControl = false := by
    intro n hkind hchildren
    rw [hasControl_eq_false_iff, hchildren]
    exact ⟨hkind, fun c hc => absurd hc List.not_mem_nil⟩
  have hpointee : (pointee .right).hasControl = false := by
    refine hasControl_eq_false_iff.mpr ⟨rfl, ?_⟩
    exact List.forall_mem_cons.mpr
      ⟨hleaf _ rfl rfl, List.forall_mem_singleton.mpr (hleaf _ rfl rfl)⟩
  refine ⟨?_, ⟨Or.inr rfl, ?_⟩, ?_⟩
  · rw [facts, factsUnder_and rfl rfl rfl rfl, factsUnder_identifier rfl rfl,
      factsUnder_pointee hguard, List.nil_append]
    exact mem_afterAll_pointee
  · exact List.forall_mem_cons.mpr ⟨hleaf _ rfl rfl, List.forall_mem_cons.mpr
      ⟨hleaf _ rfl rfl, List.forall_mem_singleton.mpr hpointee⟩⟩
  · rw [effect_and rfl rfl rfl rfl, effect_identifier rfl rfl]
    exact .seq .nothing .skip

end NullFlow.C.Node
