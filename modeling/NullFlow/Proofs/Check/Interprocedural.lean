import Mathlib.Data.List.Induction
import NullFlow.Proofs.Check.ReverseNull
import NullFlow.Proofs.Summary.Rounds

/-!
# Looking into calls

To know more about the called functions is to see more dereferences, and nothing else: what assigns
to a variable is the same. A variable that was dereferenced last on a walk therefore stays so if
more is known (`Fact.LastDereferences.mono`), and since the walks decide what a condition reports,
no reverse-null defect is lost (`MustDeref.exists_mem_collect_of_within`). Which sites explain a
defect may change, for a call that is looked into can come first.

The same holds of the rounds in which the summaries are computed, each of which knows more than the
one before. So looking into calls only adds defects.
-/

namespace NullFlow

namespace Fact

variable {known known' : Summaries} {v : String} {f : Fact}

theorem Dereferences.mono (hk : known.Holds.Within known'.Holds) (h : f.Dereferences known v) :
    f.Dereferences known' v :=
  dereferencesBy_holds_iff.mp ((dereferencesBy_holds_iff.mpr h).mono hk)

/-- **What was dereferenced last stays so** if more is known: another fact may come to dereference
the variable, but none comes to assign to it. -/
theorem LastDereferences.mono (hk : known.Holds.Within known'.Holds) {fs : List Fact}
    (h : LastDereferences known v fs) : LastDereferences known' v fs := by
  induction fs using List.reverseRecOn with
  | nil => exact (not_lastDereferences_nil h).elim
  | append_singleton fs f ih =>
    rw [lastDereferences_snoc] at h ⊢
    exact h.imp (Dereferences.mono hk) fun ⟨hassign, hlast⟩ => ⟨hassign, ih hlast⟩

end Fact

/-- **Who knows more finds every defect** that is found in a graph by who knows less. -/
theorem MustDeref.exists_mem_collect_of_within {known known' : Summaries} {g : Graph} {x : Finding}
    (hk : known.Holds.Within known'.Holds) (hx : x ∈ (analysis known g).collect g) :
    ∃ y ∈ (analysis known' g).collect g, y.defect = x.defect := by
  obtain ⟨b, block, s, hb, hs, hx⟩ := Analysis.mem_collect.mp hx
  obtain ⟨text, line, test, v, site, hterm, hv, hsite, rfl⟩ := mem_conditionFindings.mp hx
  have hmem : v ∈ s.afterAll known block.facts := by
    rw [Std.ExtTreeMap.mem_iff_isSome_getElem?, hsite]
    rfl
  -- on every walk to the test the variable was dereferenced, and so it is if more is known
  obtain ⟨hreach, hall⟩ := (mem_solve_iff hb).mp ⟨s, hs, hmem⟩
  have hall' (es : List Edge) (w : g.Walk g.entry es b) :
      Fact.LastDereferences known' v (g.factsAlong es ++ block.facts) := (hall es w).mono hk
  obtain ⟨t, ht, hmem'⟩ := (mem_solve_iff hb).mpr ⟨hreach, hall'⟩
  obtain ⟨site', hsite'⟩ := Option.isSome_iff_exists.mp
    (Std.ExtTreeMap.mem_iff_isSome_getElem?.mp hmem')
  exact ⟨finding g line v site', Analysis.mem_collect.mpr ⟨b, block, t, hb, ht,
    mem_conditionFindings.mpr ⟨text, line, test, v, site', hterm, hv, hsite', rfl⟩⟩, rfl⟩

namespace CheckOptions

/-- **Looking into calls only adds reverse-null defects.** A round that starts from more finds more,
so each round finds what the one before it found; and what is reported without looking into calls
is reported with it, in the same file and function, on the same line and with the same message. -/
theorem reverseNull_grows (o : CheckOptions) (graphs : List Graph) :
    (∀ known known' : Summaries,
      (∀ function i, known.derefsParameter function i = true →
        known'.derefsParameter function i = true) →
      ∀ function i, (Summaries.round graphs known).derefsParameter function i = true →
        (Summaries.round graphs known').derefsParameter function i = true) ∧
    (∀ n function i, (Summaries.rounds graphs n .none).derefsParameter function i = true →
      (Summaries.rounds graphs (n + 1) .none).derefsParameter function i = true) ∧
    ∀ x ∈ ({ o with interprocedural := false } : CheckOptions).check graphs,
      x.category = .reverseNull →
      ∃ y ∈ ({ o with interprocedural := true } : CheckOptions).check graphs,
        y.defect = x.defect := by
  refine ⟨fun known known' hk => Summaries.round_mono hk,
    fun n => Summaries.rounds_within_succ graphs n, fun x hx hcategory => ?_⟩
  obtain ⟨g, hg, hfound⟩ := mem_check hx
  rcases mem_findingsIn.mp hfound with ⟨-, h⟩ | ⟨hen, h⟩
  · rw [ForwardNull.category_of_mem_collect h] at hcategory
    cases hcategory
  · have hmore : Summaries.none.Holds.Within (Summaries.compute graphs).Holds :=
      fun _ _ h => (Summaries.not_holds_none h).elim
    obtain ⟨y, hy, hdefect⟩ := MustDeref.exists_mem_collect_of_within hmore h
    obtain ⟨z, hz, hdefect'⟩ := exists_mem_check (o := { o with interprocedural := true }) hg
      (mem_findingsIn.mpr (Or.inr ⟨hen, hy⟩))
    exact ⟨z, hz, hdefect'.trans hdefect⟩

theorem reverseNull_grows_readThenTested :
    (∀ function i,
      (Summaries.round [Graph.readThenTested] .none).derefsParameter function i = true →
      (Summaries.round [Graph.readThenTested] (.compute [Graph.readThenTested])).derefsParameter
        function i = true) ∧
    ∃ x ∈ ({ interprocedural := false } : CheckOptions).check [Graph.readThenTested],
      x.category = .reverseNull ∧
      ∃ y ∈ ({ interprocedural := true } : CheckOptions).check [Graph.readThenTested],
        y.defect = x.defect := by
  obtain ⟨hround, -, hfindings⟩ := reverseNull_grows {} [Graph.readThenTested]
  refine ⟨hround .none _ fun _ _ h => (Summaries.not_holds_none h).elim, ?_⟩
  obtain ⟨site, hsite⟩ := MustDeref.exists_finding_readThenTested .none
  obtain ⟨x, hx, hdefect⟩ := exists_mem_check (o := { interprocedural := false })
    List.mem_cons_self (mem_findingsIn.mpr (Or.inr ⟨rfl, hsite⟩))
  have hcategory : x.category = .reverseNull := congrArg Defect.category hdefect
  exact ⟨x, hx, hcategory, hfindings x hx hcategory⟩

end CheckOptions

end NullFlow
