import Mathlib.Data.List.Perm.Subperm
import NullFlow.Proofs.Suite.Diff

/-!
# The comparison as a matching

To hold findings against those that are expected is to pair them, one to one, an expected finding
with one that meets it (`Matches`). `diff` takes the first finding that will do and never looks
back. That costs nothing, for two findings that meet an expected one meet the same ones besides: of
each expected finding as many are matched as stand on both sides, and no other way to pair the two
lists makes more pairs (`diff_optimal`).
-/

namespace NullFlow

/-- **A one-to-one matching**: pairs of an expected finding and a finding that meets it, in which
neither occurs more often than in its list. -/
structure Matches (es : List Expected) (fs : List Finding) (pairs : List (Expected × Finding)) :
    Prop where
  met ⦃p : Expected × Finding⦄ (h : p ∈ pairs) : p.1.isMetBy p.2 = true
  expected : (pairs.map Prod.fst).Subperm es
  findings : (pairs.map Prod.snd).Subperm fs

/-- **A list is dealt out to two**: each element goes to one of them, in its turn. -/
inductive Dealt {α : Type} : List α → List α → List α → Prop
  | nil : Dealt [] [] []
  | left {as bs cs : List α} (a : α) (h : Dealt as bs cs) : Dealt (a :: as) (a :: bs) cs
  | right {as bs cs : List α} (a : α) (h : Dealt as bs cs) : Dealt (a :: as) bs (a :: cs)

namespace Dealt

variable {α : Type} {as bs cs : List α}

theorem left_sublist (h : Dealt as bs cs) : bs.Sublist as := by
  induction h with
  | nil => exact .slnil
  | left a _ ih => exact ih.cons_cons a
  | right a _ ih => exact ih.cons a

theorem right_sublist (h : Dealt as bs cs) : cs.Sublist as := by
  induction h with
  | nil => exact .slnil
  | left a _ ih => exact ih.cons a
  | right a _ ih => exact ih.cons_cons a

end Dealt

/-- **What a comparison makes of two lists**: a largest matching, and what takes no part in it. -/
structure Diff.Optimal (d : Diff) (es : List Expected) (fs : List Finding) : Prop where
  /-- What is matched takes part in a matching; the findings that do not are unexpected. -/
  matching : ∃ pairs, Matches es fs pairs ∧ pairs.map Prod.fst = d.matched ∧
    (pairs.map Prod.snd ++ d.unexpected).Perm fs
  /-- No matching has more pairs. -/
  length_le (pairs : List (Expected × Finding)) (h : Matches es fs pairs) :
    pairs.length ≤ d.matched.length
  /-- As many are matched as are on both sides. -/
  count_matched (e : Expected) : d.matched.count e = min (es.count e) (fs.countP e.isMetBy)
  /-- The others that are expected are missing. -/
  count_missing (e : Expected) : d.matched.count e + d.missing.count e = es.count e
  /-- The others that are found are unexpected. -/
  count_unexpected (e : Expected) :
    d.matched.count e + d.unexpected.countP e.isMetBy = fs.countP e.isMetBy
  dealt : Dealt es d.matched d.missing
  matched_sublist : d.matched.Sublist es
  missing_sublist : d.missing.Sublist es
  unexpected_sublist : d.unexpected.Sublist fs
  not_met ⦃e : Expected⦄ (he : e ∈ d.missing) ⦃f : Finding⦄ (hf : f ∈ d.unexpected) :
    e.isMetBy f = false

section

variable {es : List Expected} {fs : List Finding} {pairs : List (Expected × Finding)}

/-- The findings that meet an expected one are those that show it. -/
theorem countP_isMetBy (e : Expected) (fs : List Finding) :
    fs.countP e.isMetBy = (fs.map Finding.shown).count e := by
  rw [List.count_eq_countP, List.countP_map]
  refine List.countP_congr fun f _ => ?_
  rw [Expected.isMetBy_iff, Function.comp_apply, beq_iff_eq]

/-- The findings of a matching show what is expected of them. -/
theorem Matches.shown (h : Matches es fs pairs) :
    (pairs.map Prod.snd).map Finding.shown = pairs.map Prod.fst := by
  rw [List.map_map]
  exact List.map_congr_left fun p hp => Expected.isMetBy_iff.mp (h.met hp)

/-- **A matching has no more of an expected finding** than there are on both sides. -/
theorem Matches.count_le (h : Matches es fs pairs) (e : Expected) :
    (pairs.map Prod.fst).count e ≤ min (es.count e) (fs.countP e.isMetBy) := by
  refine Nat.le_min.mpr ⟨h.expected.count_le e, ?_⟩
  rw [← h.shown, ← countP_isMetBy]
  exact h.findings.countP_le _

/-- **The first finding that meets an expected one** is paired with it. -/
theorem exists_pairs_diff (es : List Expected) (fs : List Finding) :
    ∃ pairs : List (Expected × Finding), (∀ p ∈ pairs, p.1.isMetBy p.2 = true) ∧
      pairs.map Prod.fst = (diff es fs).matched ∧
      (pairs.map Prod.snd ++ (diff es fs).unexpected).Perm fs := by
  fun_induction diff es fs with
  | case1 fs => exact ⟨[], fun _ h => (List.not_mem_nil h).elim, rfl, .refl _⟩
  | case2 e es fs hmet rest ih =>
    obtain ⟨pairs, hpairs, hmatched, hperm⟩ := ih
    obtain ⟨f, hf, hef⟩ := List.any_eq_true.mp hmet
    obtain ⟨taken, before, after, -, htaken, hfs, hrest⟩ := List.exists_of_eraseP hf hef
    refine ⟨(e, taken) :: pairs, ?_, congrArg (e :: ·) hmatched, ?_⟩
    · intro p hp
      rcases List.mem_cons.mp hp with rfl | hp
      · exact htaken
      · exact hpairs p hp
    · refine (hperm.cons taken).trans ?_
      rw [hrest, hfs]
      exact List.perm_middle.symm
  | case3 e es fs hmet rest ih => exact ih

theorem dealt_diff (es : List Expected) (fs : List Finding) :
    Dealt es (diff es fs).matched (diff es fs).missing := by
  fun_induction diff es fs with
  | case1 fs => exact .nil
  | case2 e es fs hmet rest ih => exact ih.left e
  | case3 e es fs hmet rest ih => exact ih.right e

theorem unexpected_sublist_diff (es : List Expected) (fs : List Finding) :
    (diff es fs).unexpected.Sublist fs := by
  fun_induction diff es fs with
  | case1 fs => exact .refl fs
  | case2 e es fs hmet rest ih => exact ih.trans List.eraseP_sublist
  | case3 e es fs hmet rest ih => exact ih

theorem count_missing_diff (es : List Expected) (fs : List Finding) (e : Expected) :
    (diff es fs).matched.count e + (diff es fs).missing.count e = es.count e := by
  rw [← List.count_append]
  exact (diff_expected_perm es fs).count_eq e

theorem count_unexpected_diff (es : List Expected) (fs : List Finding) (e : Expected) :
    (diff es fs).matched.count e + (diff es fs).unexpected.countP e.isMetBy =
      fs.countP e.isMetBy := by
  rw [countP_isMetBy, countP_isMetBy, ← List.count_append]
  exact (diff_shown_perm es fs).count_eq e

theorem not_met_diff {e : Expected} (he : e ∈ (diff es fs).missing) {f : Finding}
    (hf : f ∈ (diff es fs).unexpected) : e.isMetBy f = false :=
  Bool.eq_false_iff.mpr fun h => shown_ne_of_mem_missing he hf (Expected.isMetBy_iff.mp h)

/-- **As many are matched as are on both sides**: if one is missing, no finding that meets it is
left over. -/
theorem count_matched_diff (es : List Expected) (fs : List Finding) (e : Expected) :
    (diff es fs).matched.count e = min (es.count e) (fs.countP e.isMetBy) := by
  have hmissing := count_missing_diff es fs e
  have hunexpected := count_unexpected_diff es fs e
  have hnone : (diff es fs).missing.count e = 0 ∨
      (diff es fs).unexpected.countP e.isMetBy = 0 := by
    by_cases he : e ∈ (diff es fs).missing
    · refine Or.inr (List.countP_eq_zero.mpr fun f hf => ?_)
      rw [not_met_diff he hf]
      exact Bool.false_ne_true
    · exact Or.inl (List.count_eq_zero.mpr he)
  omega

end

/-- **The comparison makes a largest matching** of the two lists, whatever their order, and leaves
over what takes no part in it. -/
theorem diff_optimal (es : List Expected) (fs : List Finding) : (diff es fs).Optimal es fs where
  matching := by
    obtain ⟨pairs, hpairs, hmatched, hperm⟩ := exists_pairs_diff es fs
    refine ⟨pairs, ⟨hpairs, ?_, ?_⟩, hmatched, hperm⟩
    · rw [hmatched]
      exact (dealt_diff es fs).left_sublist.subperm
    · exact (List.sublist_append_left _ _).subperm.trans hperm.subperm
  length_le pairs h := by
    have hsubperm : (pairs.map Prod.fst).Subperm (diff es fs).matched := by
      refine List.subperm_iff_count.mpr fun e => ?_
      rw [count_matched_diff]
      exact h.count_le e
    simpa only [List.length_map] using hsubperm.length_le
  count_matched := count_matched_diff es fs
  count_missing := count_missing_diff es fs
  count_unexpected := count_unexpected_diff es fs
  dealt := dealt_diff es fs
  matched_sublist := (dealt_diff es fs).left_sublist
  missing_sublist := (dealt_diff es fs).right_sublist
  unexpected_sublist := unexpected_sublist_diff es fs
  not_met _ he _ hf := not_met_diff he hf

end NullFlow
