import NullFlow.Proofs.Comments.Insertion

/-!
# Comments in expressions

What is read off an expression does not change when it becomes another one: the name it declares,
the variable it names, whether it is a null constant, what its outcome says about pointers, what it
stores and what it does. The nodes correspond to each other (`Node.Becomes.corresponds`), so all of
that stays the same by recursion.
-/

namespace NullFlow.C.Node

variable {nulls : List String} {n m : Node}

/-! ## Declarators -/

theorem Becomes.declaredName?_eq {n m : Node} (h : n.Becomes m) :
    n.declaredName? = m.declaredName? :=
  declaredName?_congr h.kind_eq (fun hname => h.agrees.reads.name (Or.inl hname))
    (h.child? .declarator) (fun hkind hnone => h.firstNamed? (looksAtFirst_wrapper hkind hnone))
    fun _ _ _ hcd => hcd.declaredName?_eq
termination_by sizeOf n

theorem declaresPointer_eq_elim (hkind : n.kind = .initDeclarator ∨
      n.kind = .parenthesizedDeclarator ∨ n.kind = .attributedDeclarator) :
    n.declaresPointer = ((n.child? .declarator).or n.firstNamed?).elim false declaresPointer := by
  have hinner : n.innerDeclarator? = (n.child? .declarator).or n.firstNamed? := rfl
  rw [declaresPointer, ← hinner]
  rcases hkind with hkind | hkind | hkind <;>
  · simp only [hkind]
    cases n.innerDeclarator? <;> rfl

theorem Becomes.declaresPointer_eq {n m : Node} (h : n.Becomes m) :
    n.declaresPointer = m.declaresPointer := by
  by_cases hkind : n.kind = .initDeclarator ∨ n.kind = .parenthesizedDeclarator ∨
    n.kind = .attributedDeclarator
  · have hwrapper : n.kind ∈ wrappers := by
      rcases hkind with hkind | hkind | hkind <;> rw [hkind] <;> decide
    rw [declaresPointer_eq_elim hkind, declaresPointer_eq_elim (h.kind_eq ▸ hkind)]
    exact elim_or_firstNamed? (h.child? .declarator)
      (fun hnone => h.firstNamed? (looksAtFirst_wrapper hwrapper hnone))
      (fun c hc => by rw [declaresPointer, hc]) fun c d _ hcd => declaresPointer_eq hcd
  · rw [declaresPointer, declaresPointer, ← h.kind_eq]
    split
    all_goals first
      | rfl
      | exact absurd (by simp [*]) hkind
termination_by sizeOf n

/-! ## Expressions -/

namespace Becomes

/-- **A node corresponds to what it becomes.** -/
theorem corresponds (h : n.Becomes m) : n.Corresponds Becomes m where
  kind := h.kind_eq
  line := h.line_eq
  text hkind := h.agrees.reads.name (hkind.imp_right Or.inl)
  operator := h.hasOperator_eq
  child := h.child?
  first := h.firstNamed?
  callArguments := h.callArguments
  parts := h.namedChildren.forall₂_filter (fun n m hnm => by rw [hnm.kind])
    fun c hc => by rw [hc.kind]; rfl
  declarators := (h.childrenIn .declarator).imp fun c d hcd =>
    ⟨hcd, hcd.kind_eq, hcd.declaredName?_eq⟩

theorem readsAlike {n m : Node} (h : n.Becomes m) (nulls : List String) : n.ReadsAlike nulls m :=
  h.corresponds.readsAlike fun _ _ _ hcd => hcd.readsAlike nulls
termination_by sizeOf n

/-- **What a condition says about pointers** stays the same. -/
theorem nullTest_eq (h : n.Becomes m) : n.nullTest nulls = m.nullTest nulls :=
  (h.readsAlike nulls).nullTest_eq

/-- **What an expression or a statement does** stays the same. -/
theorem factsUnder_eq {n m : Node} (h : n.Becomes m) (guarded : Vars) :
    n.factsUnder nulls guarded = m.factsUnder nulls guarded :=
  h.corresponds.factsUnder additive_eq (fun _ _ _ hcd => hcd.readsAlike nulls)
    (fun _ _ _ hcd guarded => hcd.factsUnder_eq guarded) guarded fun _ _ hc _ hcd guarded _ _ =>
      have := sizeOf_child? hc
      additive_eq.calleeFacts hcd.kind_eq (fun hname => hcd.agrees.reads.name (Or.inl hname))
        (hcd.factsUnder_eq guarded)
termination_by sizeOf n

theorem facts_eq (h : n.Becomes m) : n.facts nulls = m.facts nulls := h.factsUnder_eq ∅

end Becomes

end NullFlow.C.Node
