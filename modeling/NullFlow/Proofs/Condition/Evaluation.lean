import Mathlib.Logic.Function.Basic
import NullFlow.Proofs.Analysis.Nullness

/-!
# Conditions and their evaluation

A condition over pointer variables is **evaluated** from left to right: `&&` and `||` leave out
their right operand if the left one decides, and of the last two operands of `?:` one is left out.
All that counts of a value is whether it is null, so a valuation says for each variable whether it
is not.

The analysis reduces a condition to two things, and both forget what was left out. Its **facts** are
the assignments in it, in one list; its **test** is what its outcome says about variables, after all
of the assignments. Each is right about a variable under a condition of its own:

* the facts, if no operand that may be left out assigns null to it (`Condition.Keeps`);
* the test, if what the left operand of `&&` or `||` says of it still holds after the right one
  (`Condition.Carries`).

Then the state after the facts agrees with the valuation after the evaluation
(`Condition.Yields.agreesAt_afterAll`), and so does what the test says (`Condition.Yields.test`).
-/

namespace NullFlow

/-! ## What tests say -/

namespace NullTest

variable {s t : NullTest} {v w : String} {b x : Bool}

/-- **A test says of a variable that it is not null**, or that it is, if the condition has the given
outcome. -/
def Says (t : NullTest) (outcome : Bool) (v : String) (notNull : Bool) : Prop :=
  v ∈ if notNull then t.nonNullWhen outcome else t.nullWhen outcome

theorem not_says_none : ¬none.Says b v x := by
  cases b <;> cases x <;> exact Std.ExtTreeSet.not_mem_empty

theorem says_isNull_iff : (isNull w).Says b v x ↔ w = v ∧ x = !b := by
  cases b <;> cases x <;> simp [Says, isNull, nullWhen, nonNullWhen]

theorem says_negate_iff : t.negate.Says b v x ↔ t.Says (!b) v x := by
  cases b <;> cases x <;> rfl

/-- A decisive outcome may come from either side, so both have to say it; of the other outcome both
sides are the reason. -/
theorem says_junction_iff {decisive : Bool} :
    (if decisive then s.or t else s.and t).Says b v x ↔
      if b = decisive then s.Says b v x ∧ t.Says b v x else s.Says b v x ∨ t.Says b v x := by
  cases decisive <;> cases b <;> cases x <;>
    simp [Says, NullTest.or, NullTest.and, negate, nullWhen, nonNullWhen]

end NullTest

namespace C

/-- **A condition over pointer variables.** -/
inductive Condition where
  | name (v : String)
  /-- A null constant. -/
  | null
  | not (c : Condition)
  /-- `l && r` if a left operand that is false decides, `l || r` if one that is true does. -/
  | junction (decisive : Bool) (l r : Condition)
  /-- `l == r` or `l != r`. -/
  | comparison (equal : Bool) (l r : Condition)
  /-- `c ? y : n`. -/
  | choice (c y n : Condition)
  /-- `v = c`, or `v += c` and the like. -/
  | assignment (v : String) (plain : Bool) (line : Nat) (c : Condition)
  /-- A condition in a form that tests do not look into. -/
  | veiled (c : Condition)

/-- **Which variables are not null.** -/
abbrev Valuation := String → Bool

namespace Condition

/-- **The evaluations of a condition**: from a valuation to a value and the valuation afterwards.
Two values that are not null may or may not be equal, and what an arithmetic assignment stores is
unknown. -/
inductive Yields : Condition → Valuation → Bool → Valuation → Prop
  | name {v : String} {ρ : Valuation} : Yields (.name v) ρ (ρ v) ρ
  | null {ρ : Valuation} : Yields .null ρ false ρ
  | not {c : Condition} {ρ ρ' : Valuation} {b : Bool} (h : Yields c ρ b ρ') :
      Yields (.not c) ρ (!b) ρ'
  /-- The left operand decides. -/
  | decided {decisive : Bool} {l r : Condition} {ρ ρ' : Valuation} (h : Yields l ρ decisive ρ') :
      Yields (.junction decisive l r) ρ decisive ρ'
  /-- The left operand leaves it to the right one. -/
  | undecided {decisive : Bool} {l r : Condition} {ρ ρ₁ ρ' : Valuation} {b : Bool}
      (hl : Yields l ρ (!decisive) ρ₁) (hr : Yields r ρ₁ b ρ') :
      Yields (.junction decisive l r) ρ b ρ'
  | comparison {equal same : Bool} {l r : Condition} {ρ ρ₁ ρ' : Valuation} {x y : Bool}
      (hl : Yields l ρ x ρ₁) (hr : Yields r ρ₁ y ρ') (hsame : same = true → x = y)
      (hnull : x = false → y = false → same = true) :
      Yields (.comparison equal l r) ρ (same == equal) ρ'
  | consequence {c y n : Condition} {ρ ρ₁ ρ' : Valuation} {b : Bool} (hc : Yields c ρ true ρ₁)
      (hy : Yields y ρ₁ b ρ') : Yields (.choice c y n) ρ b ρ'
  | alternative {c y n : Condition} {ρ ρ₁ ρ' : Valuation} {b : Bool} (hc : Yields c ρ false ρ₁)
      (hn : Yields n ρ₁ b ρ') : Yields (.choice c y n) ρ b ρ'
  | assigned {v : String} {line : Nat} {c : Condition} {ρ ρ' : Valuation} {b : Bool}
      (h : Yields c ρ b ρ') :
      Yields (.assignment v true line c) ρ b (Function.update ρ' v b)
  | computed {v : String} {line : Nat} {c : Condition} {ρ ρ' : Valuation} {b x : Bool}
      (h : Yields c ρ b ρ') :
      Yields (.assignment v false line c) ρ x (Function.update ρ' v x)
  | veiled {c : Condition} {ρ ρ' : Valuation} {b : Bool} (h : Yields c ρ b ρ') :
      Yields (.veiled c) ρ b ρ'

/-! ## What the analysis makes of a condition -/

/-- Whether the condition is a null constant. -/
def isNull : Condition → Bool
  | .null => true
  | _ => false

/-- The variable whose value the condition has, if it names or assigns to one. -/
def named? : Condition → Option String
  | .name v | .assignment v _ _ _ => some v
  | _ => none

/-- **The facts of a condition**: its assignments, in order. -/
def facts : Condition → List Fact
  | .name _ | .null => []
  | .not c | .veiled c => c.facts
  | .junction _ l r | .comparison _ l r => l.facts ++ r.facts
  | .choice c y n => c.facts ++ y.facts ++ n.facts
  | .assignment v plain line c =>
    c.facts ++ [.assign v (if plain && c.isNull then .null else .unknown) line]

/-- The variable that a comparison with null compares. -/
def compared? (l r : Condition) : Option String :=
  if r.isNull then l.named? else if l.isNull then r.named? else none

/-- **What the outcome of a condition says about variables.** -/
def test : Condition → NullTest
  | .name v | .assignment v _ _ _ => (NullTest.isNull v).negate
  | .not c => c.test.negate
  | .junction decisive l r => if decisive then l.test.or r.test else l.test.and r.test
  | .comparison equal l r =>
    let t := (compared? l r).elim .none NullTest.isNull
    if equal then t else t.negate
  | .null | .choice _ _ _ | .veiled _ => .none

/-- Some fact of a kind is among those of the condition. -/
def Mentions (P : Fact → Prop) (c : Condition) : Prop := ∃ f ∈ c.facts, P f

/-- Somewhere in the condition the variable is assigned to. -/
abbrev Assigns (v : String) (c : Condition) : Prop := c.Mentions (·.Assigns v)

/-- Somewhere in the condition the variable is assigned null. -/
abbrev AssignsNull (v : String) (c : Condition) : Prop :=
  c.Mentions fun f => ∃ line, f = .assign v .null line

/-- **The facts are right about a variable**: no operand that may be left out assigns null to it. -/
def Keeps (v : String) : Condition → Prop
  | .name _ | .null => True
  | .not c | .veiled c | .assignment _ _ _ c => c.Keeps v
  | .junction _ l r => l.Keeps v ∧ ¬r.AssignsNull v
  | .comparison _ l r => l.Keeps v ∧ r.Keeps v
  | .choice c y n => c.Keeps v ∧ ¬y.AssignsNull v ∧ ¬n.AssignsNull v

/-- **The test is right about a variable**: if the right operand of `&&` or `||` assigns to it, then
what the left one says of it when it does not decide, the right one says as well. -/
def Carries (v : String) : Condition → Prop
  | .not c => c.Carries v
  | .junction decisive l r => l.Carries v ∧ r.Carries v ∧
      (r.Assigns v → ∀ x, l.test.Says (!decisive) v x → r.test.Says (!decisive) v x)
  | _ => True

variable {v : String} {c l r y n : Condition} {ρ ρ' : Valuation} {b : Bool} {f : Fact}
  {P : Fact → Prop}

/-! ## Assignments -/

@[simp] theorem mentions_junction {decisive : Bool} :
    (junction decisive l r).Mentions P ↔ l.Mentions P ∨ r.Mentions P := by
  simp only [Mentions, facts, List.mem_append, or_and_right, exists_or]

@[simp] theorem mentions_comparison {equal : Bool} :
    (comparison equal l r).Mentions P ↔ l.Mentions P ∨ r.Mentions P := by
  simp only [Mentions, facts, List.mem_append, or_and_right, exists_or]

@[simp] theorem mentions_choice :
    (choice c y n).Mentions P ↔ (c.Mentions P ∨ y.Mentions P) ∨ n.Mentions P := by
  simp only [Mentions, facts, List.mem_append, or_and_right, exists_or]

@[simp] theorem mentions_assignment {w : String} {plain : Bool} {line : Nat} :
    (assignment w plain line c).Mentions P ↔
      c.Mentions P ∨ P (.assign w (if plain && c.isNull then .null else .unknown) line) := by
  simp only [Mentions, facts, List.mem_append, List.mem_singleton, or_and_right, exists_or,
    exists_eq_left]

/-- **An evaluation changes no variable that is not assigned to.** -/
theorem Yields.eq_of_not_assigns (h : c.Yields ρ b ρ') (hv : ¬c.Assigns v) : ρ' v = ρ v := by
  induction h with
  | name | null => rfl
  | not _ ih | veiled _ ih => exact ih hv
  | decided _ ih =>
    simp only [mentions_junction, not_or] at hv
    exact ih hv.1
  | undecided _ _ ihl ihr =>
    simp only [mentions_junction, not_or] at hv
    exact (ihr hv.2).trans (ihl hv.1)
  | comparison _ _ _ _ ihl ihr =>
    simp only [mentions_comparison, not_or] at hv
    exact (ihr hv.2).trans (ihl hv.1)
  | consequence _ _ ihc ihy =>
    simp only [mentions_choice, not_or] at hv
    exact (ihy hv.1.2).trans (ihc hv.1.1)
  | alternative _ _ ihc ihn =>
    simp only [mentions_choice, not_or] at hv
    exact (ihn hv.2).trans (ihc hv.1.1)
  | assigned _ ih | computed _ ih =>
    simp only [mentions_assignment, not_or] at hv
    rw [Function.update_of_ne, ih hv.1]
    rintro rfl
    exact hv.2 (.assign _ _)

/-- A fact of a condition assigns null or something unknown. -/
theorem exists_of_mem_facts (hf : f ∈ c.facts) :
    ∃ w value line, f = .assign w value line ∧ (value = .null ∨ value = .unknown) := by
  induction c with
  | name | null => cases hf
  | not c ih | veiled c ih => exact ih hf
  | junction _ l r ihl ihr | comparison _ l r ihl ihr =>
    exact (List.mem_append.mp hf).elim ihl ihr
  | choice c y n ihc ihy ihn =>
    rcases List.mem_append.mp hf with hf | hf
    · exact (List.mem_append.mp hf).elim ihc ihy
    · exact ihn hf
  | assignment v plain line c ih =>
    rcases List.mem_append.mp hf with hf | hf
    · exact ih hf
    · refine ⟨v, _, line, List.mem_singleton.mp hf, ?_⟩
      split
      · exact Or.inl rfl
      · exact Or.inr rfl

/-- Where null is never assigned to a variable, the facts are right about it. -/
theorem Keeps.of_not_assignsNull (h : ¬c.AssignsNull v) : c.Keeps v := by
  induction c with
  | name | null => trivial
  | not c ih | veiled c ih => exact ih h
  | junction _ l r ihl ihr =>
    simp only [mentions_junction, not_or] at h
    exact ⟨ihl h.1, h.2⟩
  | comparison _ l r ihl ihr =>
    simp only [mentions_comparison, not_or] at h
    exact ⟨ihl h.1, ihr h.2⟩
  | choice c y n ihc ihy ihn =>
    simp only [mentions_choice, not_or] at h
    exact ⟨ihc h.1.1, h.1.2, h.2⟩
  | assignment w plain line c ih =>
    simp only [mentions_assignment, not_or] at h
    exact ih h.1

end Condition

end C

/-! ## The state after the facts -/

/-- **A state agrees with a valuation** at a variable: if it says that the variable is null or that
it is not, so it is. -/
structure NullState.AgreesAt (s : NullState) (ρ : C.Valuation) (v : String) : Prop where
  nonNull (h : s[v]? = some .nonNull) : ρ v = true
  null {o : Origin} (h : s[v]? = some (.null o)) : ρ v = false

namespace NullState

variable {known : Summaries} {s t : NullState} {ρ ρ' : C.Valuation} {v : String}

theorem AgreesAt.congr (h : s.AgreesAt ρ v) (hs : t[v]? = s[v]?) (hρ : ρ' v = ρ v) :
    t.AgreesAt ρ' v where
  nonNull ht := hρ ▸ h.nonNull (hs ▸ ht)
  null ht := hρ ▸ h.null (hs ▸ ht)

/-- A state that says nothing about a variable agrees with every valuation. -/
theorem AgreesAt.of_none (h : s[v]? = none) : s.AgreesAt ρ v where
  nonNull hs := nomatch h.symm.trans hs
  null hs := nomatch h.symm.trans hs

theorem afterAll_append (s : NullState) (fs gs : List Fact) :
    s.afterAll known (fs ++ gs) = (s.afterAll known fs).afterAll known gs := List.foldl_append

/-- What an assignment leaves a variable with, and leaves other variables with. -/
theorem getElem?_after_assign (known : Summaries) (s : NullState) (w : String)
    (value : AssignedValue) (line : Nat) (v : String) : (s.after known (.assign w value line))[v]? =
      if w = v then value.nullness line else s[v]? := getElem?_after s _ v

/-- **Facts that were left out** do no harm, if none of them assigns null to the variable. -/
theorem AgreesAt.afterAll_leftOut {c : C.Condition} (h : s.AgreesAt ρ v)
    (hc : ¬c.AssignsNull v) : (s.afterAll known c.facts).AgreesAt ρ v := by
  have hfacts : ∀ f ∈ c.facts, ∃ w value line, f = .assign w value line ∧
      (w = v → value = .unknown) := by
    intro f hf
    obtain ⟨w, value, line, rfl, rfl | rfl⟩ := C.Condition.exists_of_mem_facts hf
    · exact ⟨w, _, line, rfl, fun hw => (hc ⟨_, hf, line, hw ▸ rfl⟩).elim⟩
    · exact ⟨w, _, line, rfl, fun _ => rfl⟩
  generalize c.facts = fs at hfacts
  clear hc
  induction fs generalizing s with
  | nil => exact h
  | cons f fs ih =>
    obtain ⟨w, value, line, rfl, hvalue⟩ := hfacts f List.mem_cons_self
    refine ih ?_ fun f hf => hfacts f (List.mem_cons_of_mem _ hf)
    have hafter := getElem?_after_assign known s w value line v
    by_cases hw : w = v
    · obtain rfl := hvalue hw
      rw [if_pos hw] at hafter
      exact .of_none hafter
    · rw [if_neg hw] at hafter
      exact h.congr hafter rfl

end NullState

namespace C.Condition.Yields

variable {c : Condition} {ρ ρ' : Valuation} {b : Bool} {s : NullState} {v : String}

theorem eq_false_of_isNull (h : c.Yields ρ b ρ') (hc : c.isNull = true) : b = false ∧ ρ' = ρ := by
  cases c with
  | null =>
    cases h
    exact ⟨rfl, rfl⟩
  | _ => cases hc

/-- **The state after the facts agrees with the valuation after the evaluation**, at a variable that
the facts are right about. -/
theorem agreesAt_afterAll (known : Summaries) (h : c.Yields ρ b ρ') (hc : c.Keeps v)
    (hs : s.AgreesAt ρ v) : (s.afterAll known c.facts).AgreesAt ρ' v := by
  induction h generalizing s with
  | name | null => exact hs
  | not _ ih | veiled _ ih => exact ih hc hs
  | decided _ ih =>
    rw [facts, NullState.afterAll_append]
    exact (ih hc.1 hs).afterAll_leftOut hc.2
  | undecided _ _ ihl ihr =>
    rw [facts, NullState.afterAll_append]
    exact ihr (.of_not_assignsNull hc.2) (ihl hc.1 hs)
  | comparison _ _ _ _ ihl ihr =>
    rw [facts, NullState.afterAll_append]
    exact ihr hc.2 (ihl hc.1 hs)
  | consequence _ _ ihc ihy =>
    rw [facts, NullState.afterAll_append, NullState.afterAll_append]
    exact (ihy (.of_not_assignsNull hc.2.1) (ihc hc.1 hs)).afterAll_leftOut hc.2.2
  | alternative _ _ ihc ihn =>
    rw [facts, NullState.afterAll_append, NullState.afterAll_append]
    exact ihn (.of_not_assignsNull hc.2.2) ((ihc hc.1 hs).afterAll_leftOut hc.2.1)
  | @assigned w line c ρ ρ' b h ih =>
    rw [facts, NullState.afterAll_append]
    have hafter := NullState.getElem?_after_assign known (s.afterAll known c.facts) w
      (if true && c.isNull then .null else .unknown) line v
    by_cases hw : w = v
    · subst hw
      rw [if_pos rfl] at hafter
      cases hnull : c.isNull with
      | false =>
        rw [hnull] at hafter
        exact .of_none hafter
      | true =>
        -- what is stored is null, and so is the variable then
        rw [hnull] at hafter
        obtain ⟨rfl, -⟩ := h.eq_false_of_isNull hnull
        exact ⟨fun hs => (nomatch hafter.symm.trans hs), fun _ => Function.update_self ..⟩
    · rw [if_neg hw] at hafter
      exact (ih hc hs).congr hafter (Function.update_of_ne (Ne.symm hw) ..)
  | @computed w line c ρ ρ' b x h ih =>
    rw [facts, NullState.afterAll_append]
    have hafter := NullState.getElem?_after_assign known (s.afterAll known c.facts) w
      .unknown line v
    by_cases hw : w = v
    · rw [if_pos hw] at hafter
      exact .of_none hafter
    · rw [if_neg hw] at hafter
      exact (ih hc hs).congr hafter (Function.update_of_ne (Ne.symm hw) ..)

/-- The value of a condition that names or assigns to a variable is left in the variable. -/
theorem eq_of_named? (h : c.Yields ρ b ρ') (hc : c.named? = some v) : ρ' v = b := by
  cases h with
  | name =>
    cases hc
    rfl
  | assigned _ | computed _ =>
    cases hc
    exact Function.update_self ..
  | _ => cases hc

/-- A comparison with null that finds both sides equal finds the compared variable null. -/
theorem eq_of_compared? {l r : Condition} {ρ₁ : Valuation} {x y same : Bool}
    (hl : l.Yields ρ x ρ₁) (hr : r.Yields ρ₁ y ρ') (hsame : same = true → x = y)
    (hnull : x = false → y = false → same = true) (hv : compared? l r = some v) :
    ρ' v = !same := by
  unfold compared? at hv
  split at hv
  · next hnil =>
    obtain ⟨rfl, rfl⟩ := hr.eq_false_of_isNull hnil
    rw [hl.eq_of_named? hv]
    cases same <;> cases x <;> simp_all
  · split at hv
    · next hnil =>
      obtain ⟨rfl, rfl⟩ := hl.eq_false_of_isNull hnil
      rw [hr.eq_of_named? hv]
      cases same <;> cases y <;> simp_all
    · cases hv

/-- **What the test says is so after the evaluation**, of a variable that the test is right about.
-/
theorem test (h : c.Yields ρ b ρ') (hc : c.Carries v) {x : Bool} (hx : c.test.Says b v x) :
    ρ' v = x := by
  induction h with
  | null => exact (NullTest.not_says_none hx).elim
  | consequence | alternative | veiled => exact (NullTest.not_says_none hx).elim
  | name | assigned _ _ | computed _ _ =>
    -- a test that the variable is not null
    obtain ⟨rfl, rfl⟩ := NullTest.says_isNull_iff.mp (NullTest.says_negate_iff.mp hx)
    simp
  | @not _ _ _ b _ ih =>
    refine ih hc ?_
    have hx := NullTest.says_negate_iff.mp hx
    rwa [Bool.not_not] at hx
  | decided _ ih =>
    have hx := NullTest.says_junction_iff.mp hx
    rw [if_pos rfl] at hx
    exact ih hc.1 hx.1
  | @undecided decisive l r ρ ρ₁ ρ' b hl hr ihl ihr =>
    have hx := NullTest.says_junction_iff.mp hx
    split at hx
    · exact ihr hc.2.1 hx.2
    · next hb =>
      obtain rfl : b = !decisive := Bool.eq_not_of_ne hb
      rcases hx with hx | hx
      · -- what the left operand says: the right one leaves the variable alone or says it as well
        by_cases hassign : r.Assigns v
        · exact ihr hc.2.1 (hc.2.2 hassign x hx)
        · rw [hr.eq_of_not_assigns hassign]
          exact ihl hc.1 hx
      · exact ihr hc.2.1 hx
  | @comparison equal same l r ρ ρ₁ ρ' _ _ hl hr hsame hnull =>
    rw [Condition.test] at hx
    cases hv : compared? l r with
    | none =>
      simp only [hv, Option.elim_none] at hx
      cases equal <;> exact (NullTest.not_says_none hx).elim
    | some w =>
      simp only [hv, Option.elim_some] at hx
      have heq := hl.eq_of_compared? hr hsame hnull hv
      cases equal with
      | true =>
        obtain ⟨rfl, rfl⟩ := NullTest.says_isNull_iff.mp hx
        simpa using heq
      | false =>
        obtain ⟨rfl, rfl⟩ := NullTest.says_isNull_iff.mp (NullTest.says_negate_iff.mp hx)
        simpa using heq

end C.Condition.Yields

end NullFlow
