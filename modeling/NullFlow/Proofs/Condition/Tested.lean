import NullFlow.Proofs.Condition.OfNode

/-!
# Which variables a condition tests

A condition compares a variable with null wherever the variable stands for a truth value, as an
operand of `!`, `&&` or `||`, or stands next to a null constant in `==` or `!=`
(`Condition.Compares`). The tested variables are not read off the condition but put together again
from its null test, and a test forgets: of a decisive outcome of `&&` or `||` only what both
operands say is kept, and what is inside of a comparison is not looked into.

What survives is told by the **reasons** for an outcome (`Condition.Because`): the tests whose
results bring it about, whatever the other operands are. A variable that is compared is tested
exactly if for one of the outcomes it is part of every reason, each time with the same result
(`Node.mem_testedVars_iff`). In `(p || q) && r` the variables `p` and `q` are lost: either makes the
left side true, and neither alone makes the whole false (`Node.not_mem_testedVars_disjunction`).
-/

namespace NullFlow

namespace NullTest

variable {t : NullTest} {v : String}

/-- **The tested variables** are those of which the test says something. -/
theorem mem_testedVars_iff_exists :
    v ∈ t.testedVars ↔ ∃ outcome notNull, t.Says outcome v notNull := by
  constructor
  · intro h
    simp only [testedVars, Std.ExtTreeSet.mem_union_iff] at h
    rcases h with ((h | h) | h) | h
    · exact ⟨true, false, h⟩
    · exact ⟨true, true, h⟩
    · exact ⟨false, false, h⟩
    · exact ⟨false, true, h⟩
  · rintro ⟨outcome, notNull, h⟩
    cases notNull with
    | false => exact mem_testedVars_of_nullWhen h
    | true => exact mem_testedVars_of_nonNullWhen h

end NullTest

namespace C

namespace Condition

/-- **A condition compares a variable with null** somewhere. A bare name does so where it stands for
a truth value. -/
def Compares (v : String) : (truth : Bool) → Condition → Prop
  | truth, .name w => truth = true ∧ w = v
  | _, .null => False
  | _, .not c => c.Compares v true
  | _, .junction _ l r => l.Compares v true ∨ r.Compares v true
  | _, .comparison _ l r => compared? l r = some v ∨ l.Compares v false ∨ r.Compares v false
  | truth, .choice c y n => c.Compares v true ∨ y.Compares v truth ∨ n.Compares v truth
  | truth, .assignment w _ _ c => truth = true ∧ w = v ∨ c.Compares v false
  | truth, .veiled c => c.Compares v truth

/-- **The reasons for an outcome**: the variables that are tested, each with whether it has to be
found not null, so that the condition comes out this way. Either operand that decides `&&` or `||`
is a reason for itself; if neither is to decide, both have to come out the other way. What the tests
of a condition do not look into has either outcome for no reason. -/
inductive Because : Condition → Bool → List (String × Bool) → Prop
  | name {v : String} {b : Bool} : Because (.name v) b [(v, b)]
  | assignment {v : String} {plain : Bool} {line : Nat} {c : Condition} {b : Bool} :
      Because (.assignment v plain line c) b [(v, b)]
  | not {c : Condition} {b : Bool} {tests : List (String × Bool)} (h : Because c (!b) tests) :
      Because (.not c) b tests
  | left {decisive : Bool} {l r : Condition} {tests : List (String × Bool)}
      (h : Because l decisive tests) : Because (.junction decisive l r) decisive tests
  | right {decisive : Bool} {l r : Condition} {tests : List (String × Bool)}
      (h : Because r decisive tests) : Because (.junction decisive l r) decisive tests
  | both {decisive : Bool} {l r : Condition} {tests tests' : List (String × Bool)}
      (hl : Because l (!decisive) tests) (hr : Because r (!decisive) tests') :
      Because (.junction decisive l r) (!decisive) (tests ++ tests')
  | compared {equal b : Bool} {l r : Condition} {v : String} (hv : compared? l r = some v) :
      Because (.comparison equal l r) b [(v, b != equal)]
  | uncompared {equal b : Bool} {l r : Condition} (hv : compared? l r = none) :
      Because (.comparison equal l r) b []
  | null {b : Bool} : Because .null b []
  | choice {c y n : Condition} {b : Bool} : Because (.choice c y n) b []
  | veiled {c : Condition} {b : Bool} : Because (.veiled c) b []

variable {c l r : Condition} {v : String} {b x : Bool} {tests : List (String × Bool)}

/-! ## Tests and reasons -/

theorem says_name_iff {w : String} : (NullTest.isNull w).negate.Says b v x ↔ w = v ∧ x = b := by
  rw [NullTest.says_negate_iff, NullTest.says_isNull_iff, Bool.not_not]

/-- What a comparison says of the variable that it compares, if there is one. -/
theorem says_comparison_iff {equal : Bool} : (comparison equal l r).test.Says b v x ↔
    compared? l r = some v ∧ x = (b != equal) := by
  rw [test]
  cases compared? l r with
  | none => cases equal <;> simp [NullTest.not_says_none, NullTest.says_negate_iff]
  | some w =>
    cases equal <;> cases b <;> simp [NullTest.says_negate_iff, NullTest.says_isNull_iff]

/-- **What the test says is part of every reason.** -/
theorem Because.mem_of_test (h : c.Because b tests) (hx : c.test.Says b v x) : (v, x) ∈ tests := by
  induction h with
  | name | assignment =>
    obtain ⟨rfl, rfl⟩ := says_name_iff.mp hx
    exact List.mem_singleton_self _
  | not _ ih => exact ih (NullTest.says_negate_iff.mp hx)
  | left _ ih =>
    have hx := NullTest.says_junction_iff.mp hx
    rw [if_pos rfl] at hx
    exact ih hx.1
  | right _ ih =>
    have hx := NullTest.says_junction_iff.mp hx
    rw [if_pos rfl] at hx
    exact ih hx.2
  | @both decisive _ _ _ _ _ _ ihl ihr =>
    have hx := NullTest.says_junction_iff.mp hx
    rw [if_neg (by cases decisive <;> decide)] at hx
    exact hx.elim (fun h => List.mem_append_left _ (ihl h)) fun h => List.mem_append_right _ (ihr h)
  | compared hv =>
    obtain ⟨hv', rfl⟩ := says_comparison_iff.mp hx
    cases hv.symm.trans hv'
    exact List.mem_singleton_self _
  | uncompared hv => cases hv.symm.trans (says_comparison_iff.mp hx).1
  | null | choice | veiled => exact (NullTest.not_says_none hx).elim

/-- **What the test does not say is missing from some reason.** -/
theorem exists_because_of_not_test (hx : ¬c.test.Says b v x) :
    ∃ tests, c.Because b tests ∧ (v, x) ∉ tests := by
  induction c generalizing b with
  | name w | assignment w _ _ c =>
    refine ⟨[(w, b)], by constructor, fun hmem => hx ?_⟩
    cases List.mem_singleton.mp hmem
    exact says_name_iff.mpr ⟨rfl, rfl⟩
  | null => exact ⟨[], .null, List.not_mem_nil⟩
  | choice c y n => exact ⟨[], .choice, List.not_mem_nil⟩
  | veiled c => exact ⟨[], .veiled, List.not_mem_nil⟩
  | not c ih =>
    obtain ⟨tests, htests, hmem⟩ := ih fun h => hx (NullTest.says_negate_iff.mpr h)
    exact ⟨tests, .not htests, hmem⟩
  | junction decisive l r ihl ihr =>
    have htest : ¬(if b = decisive then l.test.Says b v x ∧ r.test.Says b v x
        else l.test.Says b v x ∨ r.test.Says b v x) :=
      fun h => hx (NullTest.says_junction_iff.mpr h)
    split at htest
    · next hb =>
      -- an operand that does not say it decides alone
      subst hb
      rcases not_and_or.mp htest with hl | hr
      · obtain ⟨tests, htests, hmem⟩ := ihl hl
        exact ⟨tests, .left htests, hmem⟩
      · obtain ⟨tests, htests, hmem⟩ := ihr hr
        exact ⟨tests, .right htests, hmem⟩
    · next hb =>
      obtain rfl : b = !decisive := Bool.eq_not_of_ne hb
      obtain ⟨hl, hr⟩ := not_or.mp htest
      obtain ⟨tests, htests, hmem⟩ := ihl hl
      obtain ⟨tests', htests', hmem'⟩ := ihr hr
      exact ⟨tests ++ tests', .both htests htests',
        fun h => (List.mem_append.mp h).elim hmem hmem'⟩
  | comparison equal l r =>
    cases hv : compared? l r with
    | none => exact ⟨[], .uncompared hv, List.not_mem_nil⟩
    | some w =>
      refine ⟨[(w, b != equal)], .compared hv, fun hmem => hx ?_⟩
      cases List.mem_singleton.mp hmem
      exact says_comparison_iff.mpr ⟨hv, rfl⟩

/-- **A test says what is part of every reason**, and nothing else. -/
theorem says_iff : c.test.Says b v x ↔ ∀ tests, c.Because b tests → (v, x) ∈ tests := by
  constructor
  · exact fun hx tests htests => htests.mem_of_test hx
  · intro hall
    refine Classical.byContradiction fun hx => ?_
    obtain ⟨tests, htests, hmem⟩ := exists_because_of_not_test hx
    exact hmem (hall tests htests)

/-- A test speaks of variables that are compared. -/
theorem compares_of_test (hx : c.test.Says b v x) : c.Compares v true := by
  induction c generalizing b with
  | name | assignment =>
    have hname := (says_name_iff.mp hx).1
    simp [Compares, hname]
  | null | choice | veiled => exact (NullTest.not_says_none hx).elim
  | not c ih => exact ih (NullTest.says_negate_iff.mp hx)
  | junction decisive l r ihl ihr =>
    have hx := NullTest.says_junction_iff.mp hx
    split at hx
    · exact Or.inl (ihl hx.1)
    · exact hx.imp ihl ihr
  | comparison equal l r => exact Or.inl (says_comparison_iff.mp hx).1

end Condition

namespace Node

variable {nulls : List String} {n : Node} {c : Condition}

/-- **The tested variables of a condition**: those that it compares with null, and that for one of
the outcomes are part of every reason, each time with the same result. -/
theorem mem_testedVars_iff (h : n.Reads nulls c) (v : String) :
    v ∈ (n.nullTest nulls).testedVars ↔ c.Compares v true ∧
      ∃ outcome notNull, ∀ tests, c.Because outcome tests → (v, notNull) ∈ tests := by
  rw [h.nullTest_eq, NullTest.mem_testedVars_iff_exists]
  constructor
  · rintro ⟨outcome, notNull, htest⟩
    exact ⟨Condition.compares_of_test htest, outcome, notNull, Condition.says_iff.mp htest⟩
  · rintro ⟨-, outcome, notNull, hall⟩
    exact ⟨outcome, notNull, Condition.says_iff.mpr hall⟩

/-! ### A disjunction inside of a conjunction -/

/-- `(p || q)` as a left operand. -/
def eitherOne : Node :=
  ⟨.parenthesizedExpression, some .left, "(p || q)", 1, 1,
    [mark none "(",
      ⟨.binaryExpression, none, "p || q", 1, 2,
        [operand .left "p", mark (some .operator) "||", operand .right "q"]⟩,
      mark none ")"]⟩

/-- `(p || q) && r`. -/
def eitherOneAndR : Node :=
  ⟨.binaryExpression, none, "(p || q) && r", 1, 1,
    [eitherOne, mark (some .operator) "&&", operand .right "r"]⟩

theorem reads_eitherOneAndR : eitherOneAndR.Reads []
    (.junction false (.junction true (.name "p") (.name "q")) (.name "r")) := by
  refine .junction rfl rfl rfl rfl (.parentheses rfl rfl rfl rfl ?_)
    (reads_operand .right (by decide))
  exact .junction rfl rfl rfl rfl (reads_operand .left (by decide))
    (reads_operand .right (by decide))

/-- `r` is not null for whatever reason the condition is true. -/
theorem mem_testedVars_iff_eitherOneAndR :
    eitherOneAndR.Reads [] (.junction false (.junction true (.name "p") (.name "q")) (.name "r")) ∧
      "r" ∈ (eitherOneAndR.nullTest []).testedVars := by
  refine ⟨reads_eitherOneAndR, (mem_testedVars_iff reads_eitherOneAndR "r").mpr ⟨?_, ?_⟩⟩
  · exact Or.inr ⟨rfl, rfl⟩
  · refine ⟨true, true, fun tests htests => ?_⟩
    cases htests with
    | both hl hr =>
      cases hr
      exact List.mem_append_right _ (List.mem_singleton_self _)

/-- **A variable that is compared may not be tested**: `(p || q) && r` compares `p` with null, and
its test does not know of it. -/
theorem not_mem_testedVars_disjunction :
    eitherOneAndR.Reads [] (.junction false (.junction true (.name "p") (.name "q")) (.name "r")) ∧
      (Condition.junction false (.junction true (.name "p") (.name "q")) (.name "r")).Compares "p"
        true ∧ "p" ∉ (eitherOneAndR.nullTest []).testedVars := by
  refine ⟨reads_eitherOneAndR, Or.inl (Or.inl ⟨rfl, rfl⟩), ?_⟩
  rw [reads_eitherOneAndR.nullTest_eq, NullTest.mem_testedVars_iff_exists]
  rintro ⟨outcome, notNull, htest⟩
  -- `q` and `r` are a reason to be true, and `r` is one to be false
  cases outcome with
  | true =>
    have hmem := (Condition.Because.both (.right .name) .name).mem_of_test htest
    simp at hmem
  | false =>
    have hmem := (Condition.Because.right .name).mem_of_test htest
    simp at hmem

end Node

end C

end NullFlow
