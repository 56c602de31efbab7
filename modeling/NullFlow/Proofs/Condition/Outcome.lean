import NullFlow.Proofs.Condition.OfNode

/-!
# What the outcome of a condition tells

A condition without assignments is made of names, null constants and other operands, joined by `!`,
`&&`, `||`, `==`, `!=` and parentheses. Given which variables are null, `Node.ComesOut` says how it
may come out: an operand of any other form may come out either way, and two values that are not null
may or may not be equal.

The test that is read off the condition is **sound**: a variable that it calls null, or not null,
for an outcome is so whenever the condition comes out that way (`Node.ComesOut.nullTest_sound`). The
four sets of a test have to be shown sound together, as a negation swaps them.
-/

namespace NullFlow.C.Node

/-- **An operand of another form**: no name, no null constant and no assignment, and nothing that
conditions are joined with. -/
structure IsOther (nulls : List String) (n : Node) : Prop where
  kind : n.kind ∉ [.identifier, .parenthesizedExpression, .assignmentExpression]
  operator : ∀ op ∈ ["!", "&&", "||", "==", "!="], n.hasOperator op = false
  notNull : n.isNullConstant nulls = false

/-- **The outcomes of a condition without assignments**, where it is given which variables are not
null. As nothing is assigned, all of its operands see the same variables. -/
inductive ComesOut (nulls : List String) (ρ : Valuation) : Node → Bool → Prop
  | name {n : Node} (hkind : n.kind = .identifier) (hname : isNullName nulls n.text = false) :
      ComesOut nulls ρ n (ρ n.text)
  | null {n : Node} (hnull : n.isNullConstant nulls = true)
      (hkind : n.kind ≠ .parenthesizedExpression) : ComesOut nulls ρ n false
  | other {n : Node} {b : Bool} (hother : n.IsOther nulls) : ComesOut nulls ρ n b
  /-- Parentheses, with comments inside of them or without. -/
  | parentheses {n inner : Node} {b : Bool} (hkind : n.kind = .parenthesizedExpression)
      (hparts : n.parts = [inner]) (h : ComesOut nulls ρ inner b) : ComesOut nulls ρ n b
  | not {n argument : Node} {b : Bool} (hkind : n.kind = .unaryExpression)
      (hoperator : n.hasOperator "!" = true) (hargument : n.child? .argument = some argument)
      (h : ComesOut nulls ρ argument b) : ComesOut nulls ρ n (!b)
  /-- `&&` with a left operand that is false, `||` with one that is true. -/
  | decided {n left right : Node} {decisive : Bool} (hkind : n.kind = .binaryExpression)
      (hoperator : n.hasOperator (if decisive then "||" else "&&") = true)
      (hleft : n.child? .left = some left) (hright : n.child? .right = some right)
      (h : ComesOut nulls ρ left decisive) : ComesOut nulls ρ n decisive
  | undecided {n left right : Node} {decisive b : Bool} (hkind : n.kind = .binaryExpression)
      (hoperator : n.hasOperator (if decisive then "||" else "&&") = true)
      (hleft : n.child? .left = some left) (hright : n.child? .right = some right)
      (hl : ComesOut nulls ρ left (!decisive)) (hr : ComesOut nulls ρ right b) :
      ComesOut nulls ρ n b
  /-- `==` or `!=`, between operands that are the same or not. -/
  | comparison {n left right : Node} {equal same x y : Bool} (hkind : n.kind = .binaryExpression)
      (hoperator : n.hasOperator (if equal then "==" else "!=") = true)
      (hleft : n.child? .left = some left) (hright : n.child? .right = some right)
      (hl : ComesOut nulls ρ left x) (hr : ComesOut nulls ρ right y) (hsame : same = true → x = y)
      (hnull : x = false → y = false → same = true) : ComesOut nulls ρ n (same == equal)

variable {nulls : List String} {ρ : Valuation} {n inner left right : Node} {b : Bool} {v : String}

/-! ## Operands -/

/-- What stands first in parentheses is what they contain, or a comment hides it. -/
theorem firstNamed?_of_parts (h : n.parts = [inner]) :
    n.firstNamed? = some inner ∨ ∀ c, n.firstNamed? = some c → c.kind = .comment := by
  have hfirst : n.firstNamed? = n.namedChildren.head? := List.head?_filter.symm
  rw [parts] at h
  rw [hfirst]
  cases hnamed : n.namedChildren with
  | nil =>
    rw [hnamed] at h
    cases h
  | cons c l =>
    by_cases hc : c.kind = .comment
    · refine Or.inr fun d hd => ?_
      cases hd
      exact hc
    · rw [hnamed, List.filter_cons_of_pos (by simpa using hc)] at h
      exact Or.inl (congrArg some (List.cons.inj h).1)

namespace IsOther

theorem plainVariable?_eq (h : n.IsOther nulls) : n.plainVariable? nulls = none := by
  have hkind := h.kind
  simp only [List.mem_cons, List.not_mem_nil, or_false, not_or] at hkind
  exact plainVariable?_eq_none hkind.1 hkind.2.1

theorem comparedVariable?_eq (h : n.IsOther nulls) : n.comparedVariable? nulls = none := by
  have hkind := h.kind
  simp only [List.mem_cons, List.not_mem_nil, or_false, not_or] at hkind
  rw [Node.comparedVariable?_eq hkind.2.2 hkind.2.1]
  exact h.plainVariable?_eq

/-- Other operands make no test. -/
theorem nullTest_eq (h : n.IsOther nulls) : n.nullTest nulls = .none := by
  have hkind := h.kind
  have hoperator := h.operator
  simp only [List.mem_cons, List.not_mem_nil, or_false, not_or] at hkind
  simp only [List.forall_mem_cons] at hoperator
  obtain ⟨hnot, hand, hor, heq, hne, -⟩ := hoperator
  unfold nullTest
  split
  · exact absurd ‹_› hkind.2.1
  · exact absurd ‹_› hkind.1
  · exact absurd ‹_› hkind.2.2
  · rw [hnot]
    split <;> rfl
  · rw [hand, hor, heq, hne]
    split <;> rfl
  · rfl

end IsOther

namespace ComesOut

/-- A null constant is null. -/
theorem eq_false (h : n.ComesOut nulls ρ b) (hnull : n.isNullConstant nulls = true) :
    b = false := by
  induction h with
  | name hkind hname =>
    rw [isNullConstant, hkind] at hnull
    exact absurd (hname.symm.trans hnull) Bool.false_ne_true
  | null => rfl
  | other hother => exact absurd (hother.notNull.symm.trans hnull) Bool.false_ne_true
  | parentheses hkind hparts _ ih =>
    rcases firstNamed?_of_parts hparts with hfirst | hcomment
    · exact ih ((isNullConstant_parenthesized hkind hfirst).symm.trans hnull)
    · rw [isNullConstant_hidden hkind hcomment] at hnull
      cases hnull
  | not hkind | decided hkind | undecided hkind | comparison hkind =>
    rw [isNullConstant, hkind] at hnull
    cases hnull

/-- An operand that names a variable has its value. -/
theorem eq_of_comparedVariable? (h : n.ComesOut nulls ρ b)
    (hv : n.comparedVariable? nulls = some v) : ρ v = b := by
  induction h with
  | name hkind hname =>
    rw [comparedVariable?_eq (by simp [hkind]) (by simp [hkind]),
      plainVariable?_identifier hkind hname] at hv
    cases hv
    rfl
  | @null n hnull hkind =>
    have hassign : n.kind ≠ .assignmentExpression := fun hassign => by
      rw [isNullConstant, hassign] at hnull
      cases hnull
    rw [comparedVariable?_eq hassign hkind, plainVariable?_of_isNullConstant hnull hkind] at hv
    cases hv
  | other hother =>
    rw [hother.comparedVariable?_eq] at hv
    cases hv
  | parentheses hkind hparts _ ih =>
    rcases firstNamed?_of_parts hparts with hfirst | hcomment
    · exact ih ((comparedVariable?_parenthesized hkind hfirst).symm.trans hv)
    · rw [comparedVariable?_hidden hkind hcomment] at hv
      cases hv
  | not hkind | decided hkind | undecided hkind | comparison hkind =>
    rw [comparedVariable?_eq (by simp [hkind]) (by simp [hkind]),
      plainVariable?_eq_none (by simp [hkind]) (by simp [hkind])] at hv
    cases hv

/-- **A comparison with null** finds a variable equal to null exactly if it is null. -/
theorem eq_of_says_comparisonTest {same x y z : Bool} (hl : left.ComesOut nulls ρ x)
    (hr : right.ComesOut nulls ρ y) (hsame : same = true → x = y)
    (hnull : x = false → y = false → same = true)
    (hz : (comparisonTest nulls left right).Says same v z) : ρ v = z := by
  have hcompared {w : String} (hw : ρ w = !same) (hz : (NullTest.isNull w).Says same v z) :
      ρ v = z := by
    obtain ⟨rfl, rfl⟩ := NullTest.says_isNull_iff.mp hz
    exact hw
  unfold comparisonTest at hz
  simp only at hz
  split at hz
  · next w hw =>
    refine hcompared ?_ hz
    split at hw
    · next hright =>
      -- the left side is compared with null
      obtain rfl := hr.eq_false hright
      rw [hl.eq_of_comparedVariable? hw]
      cases same <;> cases x <;> simp_all
    · split at hw
      · next hleft =>
        obtain rfl := hl.eq_false hleft
        rw [hr.eq_of_comparedVariable? hw]
        cases same <;> cases y <;> simp_all
      · cases hw
  · exact (NullTest.not_says_none hz).elim

/-! ## Soundness -/

/-- **What the test says of the outcome is so.** -/
theorem eq_of_nullTest {x : Bool} (h : n.ComesOut nulls ρ b)
    (hx : (n.nullTest nulls).Says b v x) : ρ v = x := by
  induction h generalizing x with
  | name hkind hname =>
    rw [nullTest_identifier hkind hname] at hx
    obtain ⟨rfl, rfl⟩ := NullTest.says_isNull_iff.mp (NullTest.says_negate_iff.mp hx)
    simp
  | null hnull hkind =>
    rw [nullTest_of_isNullConstant hnull hkind] at hx
    exact (NullTest.not_says_none hx).elim
  | other hother =>
    rw [hother.nullTest_eq] at hx
    exact (NullTest.not_says_none hx).elim
  | parentheses hkind hparts _ ih =>
    rcases firstNamed?_of_parts hparts with hfirst | hcomment
    · rw [nullTest_parenthesized hkind hfirst] at hx
      exact ih hx
    · rw [nullTest_hidden hkind hcomment] at hx
      exact (NullTest.not_says_none hx).elim
  | not hkind hoperator hargument _ ih =>
    rw [nullTest_not hkind hoperator hargument, NullTest.says_negate_iff, Bool.not_not] at hx
    exact ih hx
  | decided hkind hoperator hleft hright _ ih =>
    rw [nullTest_junction hkind hleft hright hoperator, NullTest.says_junction_iff,
      if_pos rfl] at hx
    exact ih hx.1
  | @undecided n left right decisive b hkind hoperator hleft hright _ _ ihl ihr =>
    rw [nullTest_junction hkind hleft hright hoperator, NullTest.says_junction_iff] at hx
    split at hx
    · exact ihr hx.2
    · next hb =>
      -- both operands came out so that neither decides, and either may say it
      obtain rfl : b = !decisive := Bool.eq_not_of_ne hb
      exact hx.elim ihl ihr
  | @comparison n left right equal same _ _ hkind hoperator hleft hright hl hr hsame hnull _ _ =>
    rw [nullTest_comparison hkind hleft hright hoperator] at hx
    cases equal with
    | true => exact eq_of_says_comparisonTest hl hr hsame hnull (by simpa using hx)
    | false =>
      refine eq_of_says_comparisonTest hl hr hsame hnull ?_
      simpa using NullTest.says_negate_iff.mp hx

/-- **The test of a condition without assignments is sound**: whichever way the condition comes out,
the variables that its test calls null for this outcome are null, and those that it calls not null
are not. -/
theorem nullTest_sound (h : n.ComesOut nulls ρ b) :
    (∀ v ∈ (n.nullTest nulls).nullWhen b, ρ v = false) ∧
      ∀ v ∈ (n.nullTest nulls).nonNullWhen b, ρ v = true :=
  ⟨fun _ hv => h.eq_of_nullTest (x := false) hv, fun _ hv => h.eq_of_nullTest (x := true) hv⟩

end ComesOut

/-! ### A comparison with a name for null -/

/-- `p == NIL`. -/
def isNil : Node :=
  ⟨.binaryExpression, none, "p == NIL", 1, 3,
    [operand .left "p", mark (some .operator) "==", operand .right "NIL"]⟩

/-- `!(p == NIL)` as a left operand. -/
def notNil : Node :=
  ⟨.unaryExpression, some .left, "!(p == NIL)", 1, 1,
    [mark (some .operator) "!",
      ⟨.parenthesizedExpression, some .argument, "(p == NIL)", 1, 2,
        [mark none "(", isNil, mark none ")"]⟩]⟩

/-- `ready()` as a right operand. -/
def readyCall : Node :=
  ⟨.callExpression, some .right, "ready()", 1, 16,
    [operand .function "ready",
      ⟨.argumentList, some .arguments, "()", 1, 21, [mark none "(", mark none ")"]⟩]⟩

/-- `!(p == NIL) && ready()`. -/
def notNilAndReady : Node :=
  ⟨.binaryExpression, none, "!(p == NIL) && ready()", 1, 1,
    [notNil, mark (some .operator) "&&", readyCall]⟩

theorem isNullConstant_nil : (operand .right "NIL").isNullConstant ["NIL"] = true := by
  rw [isNullConstant]
  rfl

theorem isOther_readyCall : readyCall.IsOther ["NIL"] where
  kind := by decide
  operator := by decide
  notNull := by
    rw [isNullConstant]
    rfl

/-- If `p` is not null, the condition may come out true, and the test says that `p` is not null. -/
theorem nullTest_sound_notNilAndReady :
    let ρ : Valuation := fun v => v == "p"
    notNilAndReady.ComesOut ["NIL"] ρ true ∧
      "p" ∈ (notNilAndReady.nullTest ["NIL"]).nonNullWhen true ∧
      (∀ v ∈ (notNilAndReady.nullTest ["NIL"]).nullWhen true, ρ v = false) ∧
      ∀ v ∈ (notNilAndReady.nullTest ["NIL"]).nonNullWhen true, ρ v = true := by
  intro ρ
  have hname : isNullName ["NIL"] "p" = false := by decide
  have hequals : isNil.hasOperator (if true then "==" else "!=") = true := rfl
  have hand : notNilAndReady.hasOperator (if false then "||" else "&&") = true := rfl
  have hnil : isNil.ComesOut ["NIL"] ρ (false == true) :=
    .comparison rfl hequals rfl rfl (.name rfl hname) (.null isNullConstant_nil nofun)
      (fun hsame => absurd hsame Bool.false_ne_true) fun hp => absurd hp (by simp [ρ, operand])
  have hout : notNilAndReady.ComesOut ["NIL"] ρ true :=
    .undecided rfl hand rfl rfl (.not rfl rfl rfl (.parentheses rfl rfl hnil))
      (.other isOther_readyCall)
  have hp : (notNilAndReady.nullTest ["NIL"]).Says true "p" true := by
    have htest : isNil.nullTest ["NIL"] = .isNull "p" := by
      rw [nullTest_comparison rfl rfl rfl hequals, if_pos rfl, comparisonTest,
        isNullConstant_nil, if_pos rfl, comparedVariable?_eq, plainVariable?_identifier rfl hname]
      · rfl
      · nofun
      · nofun
    rw [nullTest_junction rfl rfl rfl hand, NullTest.says_junction_iff,
      nullTest_not rfl rfl rfl, nullTest_parenthesized rfl rfl, htest]
    exact Or.inl (NullTest.says_negate_iff.mpr (NullTest.says_isNull_iff.mpr ⟨rfl, rfl⟩))
  exact ⟨hout, hp, hout.nullTest_sound⟩

end NullFlow.C.Node
