import NullFlow.Suite.Diff

/-!
# The comparison with the manifest

`diff` takes the expected findings in their order and gives each of them the first finding that is
left and meets it. Which finding that is makes no difference to what is expected: what a finding
shows (`Finding.shown`) is all that counts. So an expected finding is never kept from its finding by
one that came before it: nothing is missing and nothing is unexpected if and only if the findings
show what is expected, each as often as it is expected (`diff_agrees_iff`).
-/

namespace NullFlow

/-- **What a finding shows** to someone who expects it. -/
def Finding.shown (f : Finding) : Expected := ⟨f.file, f.function, f.line, f.category⟩

theorem Expected.isMetBy_iff {e : Expected} {f : Finding} :
    e.isMetBy f = true ↔ f.shown = e := by
  obtain ⟨file, function, line, category⟩ := e
  simp only [isMetBy, Finding.shown, Bool.and_eq_true, beq_iff_eq, mk.injEq, and_assoc,
    @eq_comm _ file, @eq_comm _ function, @eq_comm _ line, @eq_comm _ category]

variable {e : Expected} {es : List Expected} {f : Finding} {fs : List Finding}

/-- An expected finding that is met takes a finding that shows it, and leaves the others. -/
theorem shown_eraseP_perm (h : fs.any e.isMetBy = true) :
    (e :: (fs.eraseP e.isMetBy).map Finding.shown).Perm (fs.map Finding.shown) := by
  obtain ⟨f, hf, hmet⟩ := List.any_eq_true.mp h
  obtain ⟨taken, before, after, -, htaken, hfs, hrest⟩ := List.exists_of_eraseP hf hmet
  rw [hrest, hfs, List.map_append, List.map_append, List.map_cons,
    Expected.isMetBy_iff.mp htaken]
  exact List.perm_middle.symm

/-- **Every expected finding is either met or missing**, as often as it is expected. -/
theorem diff_expected_perm (es : List Expected) (fs : List Finding) :
    ((diff es fs).matched ++ (diff es fs).missing).Perm es := by
  fun_induction diff es fs with
  | case1 fs => exact .refl []
  | case2 e es fs hmet rest ih => exact ih.cons e
  | case3 e es fs hmet rest ih => exact List.perm_middle.trans (ih.cons e)

/-- **Every finding has either met an expected one or is unexpected.** -/
theorem diff_shown_perm (es : List Expected) (fs : List Finding) :
    ((diff es fs).matched ++ (diff es fs).unexpected.map Finding.shown).Perm
      (fs.map Finding.shown) := by
  fun_induction diff es fs with
  | case1 fs => exact .refl _
  | case2 e es fs hmet rest ih => exact (ih.cons e).trans (shown_eraseP_perm hmet)
  | case3 e es fs hmet rest ih => exact ih

/-- Nothing is unexpected that was not found. -/
theorem mem_of_mem_unexpected (h : f ∈ (diff es fs).unexpected) : f ∈ fs := by
  fun_induction diff es fs with
  | case1 fs => exact h
  | case2 e es fs hmet rest ih => exact List.mem_of_mem_eraseP (ih h)
  | case3 e es fs hmet rest ih => exact ih h

/-- **What is missing is not among the unexpected findings.** -/
theorem shown_ne_of_mem_missing (he : e ∈ (diff es fs).missing)
    (hf : f ∈ (diff es fs).unexpected) : f.shown ≠ e := by
  fun_induction diff es fs with
  | case1 fs => cases he
  | case2 fs e' es hmet rest ih => exact ih he hf
  | case3 e' es fs hmet rest ih =>
    rcases List.mem_cons.mp he with rfl | he
    · intro hshown
      exact hmet (List.any_eq_true.mpr
        ⟨f, mem_of_mem_unexpected hf, Expected.isMetBy_iff.mpr hshown⟩)
    · exact ih he hf

/-- **Nothing is missing and nothing is unexpected** if and only if the findings show what is
expected, each as often as it is expected. -/
theorem diff_agrees_iff (es : List Expected) (fs : List Finding) :
    (diff es fs).missing = [] ∧ (diff es fs).unexpected = [] ↔
      es.Perm (fs.map Finding.shown) := by
  have hexpected := diff_expected_perm es fs
  have hshown := diff_shown_perm es fs
  constructor
  · rintro ⟨hmissing, hunexpected⟩
    rw [hmissing] at hexpected
    rw [hunexpected] at hshown
    exact hexpected.symm.trans hshown
  · intro h
    -- what is missing would have to be among what is unexpected
    have hperm : ((diff es fs).missing).Perm ((diff es fs).unexpected.map Finding.shown) :=
      (List.perm_append_left_iff _).mp (hexpected.trans (h.trans hshown.symm))
    have hmissing : (diff es fs).missing = [] := by
      refine List.eq_nil_iff_forall_not_mem.mpr fun e he => ?_
      obtain ⟨f, hf, hfe⟩ := List.mem_map.mp (hperm.mem_iff.mp he)
      exact shown_ne_of_mem_missing he hf hfe
    rw [hmissing] at hperm
    exact ⟨hmissing, List.map_eq_nil_iff.mp hperm.nil_eq.symm⟩

end NullFlow
