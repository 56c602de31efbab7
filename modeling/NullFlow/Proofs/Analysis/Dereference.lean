import NullFlow.Analysis.Dereference

/-!
# Facts and variables

What a fact is to one variable: it **dereferences** it, directly or by passing it to a function that
does, or it **assigns** to it, or it does not concern it. The analyses work on lists of
dereferences; `Fact.mem_dereferences` ties the two together.
-/

namespace NullFlow

namespace Fact

variable {known : Summaries} {v : String} {f : Fact}

/-- **A fact dereferences a variable**: it is a dereference of it, or a call that passes it in a
position that the function is known to dereference. -/
inductive Dereferences (known : Summaries) (v : String) : Fact → Prop
  | deref (kind : DerefKind) (line : Nat) : Dereferences known v (.deref v kind line)
  | call {function : String} {args : List (Option String)} {line i : Nat}
      (ha : args[i]? = some (some v)) (hk : known.derefsParameter function i = true) :
      Dereferences known v (.call function args line)

/-- **A fact assigns to a variable.** -/
inductive Assigns (v : String) : Fact → Prop
  | assign (value : AssignedValue) (line : Nat) : Assigns v (.assign v value line)

/-- **A fact concerns a variable**: it dereferences it or assigns to it. -/
def Concerns (known : Summaries) (v : String) (f : Fact) : Prop :=
  f.Dereferences known v ∨ f.Assigns v

/-- The function that a call calls. -/
def callee? : Fact → Option String
  | .call function _ _ => some function
  | _ => none

end Fact

/-- The variables that a call dereferences are those passed in dereferenced positions. -/
theorem Summaries.mem_dereferencedFrom {known : Summaries} {function v : String} {index : Nat}
    {args : List (Option String)} : v ∈ known.dereferencedFrom function index args ↔
      ∃ i, args[i]? = some (some v) ∧ known.derefsParameter function (index + i) = true := by
  induction args generalizing index with
  | nil => simp [dereferencedFrom]
  | cons arg args ih =>
    -- the first argument stands in position `index`, and the rest counts from the next one on
    have hrest : (∃ i, (arg :: args)[i]? = some (some v)
          ∧ known.derefsParameter function (index + i) = true) ↔
        (arg = some v ∧ known.derefsParameter function index = true) ∨
          v ∈ known.dereferencedFrom function (index + 1) args := by
      rw [ih]
      constructor
      · rintro ⟨_ | i, ha, hk⟩
        · exact Or.inl ⟨Option.some.inj ha, hk⟩
        · exact Or.inr ⟨i, ha, by rwa [Nat.add_assoc, Nat.add_comm 1 i]⟩
      · rintro (⟨rfl, hk⟩ | ⟨i, ha, hk⟩)
        · exact ⟨0, rfl, hk⟩
        · exact ⟨i + 1, ha, by rwa [Nat.add_assoc, Nat.add_comm 1 i] at hk⟩
    rw [hrest]
    cases arg with
    | none => simp [dereferencedFrom]
    | some w =>
      rw [dereferencedFrom]
      split
      · next hk => simp [hk, eq_comm]
      · next hk => simp [hk]

namespace Fact

variable {known : Summaries} {v : String} {f : Fact}

/-- **The dereferences of a fact** are those of the variables it dereferences, on its line and
through the function it calls, if it is a call. -/
theorem mem_dereferences {d : Dereference} : d ∈ f.dereferences known ↔
    f.Dereferences known d.var ∧ d.line = f.line ∧ d.callee = f.callee? := by
  obtain ⟨w, line, callee⟩ := d
  cases f with
  | deref u kind l =>
    simp only [dereferences, List.mem_singleton, Dereference.mk.injEq, Fact.line, callee?]
    constructor
    · rintro ⟨rfl, rfl, rfl⟩
      exact ⟨.deref kind line, rfl, rfl⟩
    · rintro ⟨⟨⟩, rfl, rfl⟩
      exact ⟨rfl, rfl, rfl⟩
  | assign u value l =>
    simp only [dereferences, List.not_mem_nil, false_iff]
    rintro ⟨⟨⟩, -⟩
  | call function args l =>
    simp only [dereferences, List.mem_map, Summaries.dereferenced, Summaries.mem_dereferencedFrom,
      Dereference.mk.injEq, Fact.line, callee?, Nat.zero_add]
    constructor
    · rintro ⟨u, ⟨i, ha, hk⟩, rfl, rfl, rfl⟩
      exact ⟨.call ha hk, rfl, rfl⟩
    · rintro ⟨⟨⟩ | ⟨ha, hk⟩, rfl, rfl⟩
      exact ⟨w, ⟨_, ha, hk⟩, rfl, rfl, rfl⟩

theorem dereferences_iff_exists :
    f.Dereferences known v ↔ ∃ d ∈ f.dereferences known, d.var = v := by
  constructor
  · intro h
    exact ⟨⟨v, f.line, f.callee?⟩, mem_dereferences.mpr ⟨h, rfl, rfl⟩, rfl⟩
  · rintro ⟨d, hd, rfl⟩
    exact (mem_dereferences.mp hd).1

/-- What a fact dereferences, it mentions. -/
theorem Dereferences.mem_vars (h : f.Dereferences known v) : v ∈ f.vars := by
  cases h with
  | deref kind line => exact List.mem_singleton_self v
  | call ha _ => exact List.mem_filterMap.mpr ⟨some v, List.mem_of_getElem? ha, rfl⟩

theorem Assigns.mem_vars (h : f.Assigns v) : v ∈ f.vars := by
  cases h
  exact List.mem_singleton_self v

end Fact

end NullFlow
