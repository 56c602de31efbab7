import NullFlow.Check
import NullFlow.Proofs.Analysis.Nullness

/-!
# The defects that are reported

What the analyses find in the graphs of a file is sorted, and of neighbours that report the same
**defect** only the first is kept. Which events explain a defect may depend on which finding comes
first; which defects are reported does not: they are those of the findings before
(`CheckOptions.exists_mem_check`), and no finding is reported that no analysis has made
(`CheckOptions.mem_check`).
-/

namespace NullFlow

/-- **What a finding reports**, apart from the events that explain it. -/
structure Defect where
  file : String
  function : String
  line : Nat
  category : Category
  message : String
  deriving DecidableEq

namespace Finding

/-- The defect that a finding reports. -/
def defect (f : Finding) : Defect := ⟨f.file, f.function, f.line, f.category, f.message⟩

theorem sameDefect_iff {f g : Finding} : f.sameDefect g = true ↔ f.defect = g.defect := by
  simp only [sameDefect, defect, Bool.and_eq_true, beq_iff_eq, Defect.mk.injEq, and_assoc]

/-- Dropping repetitions makes no finding. -/
theorem mem_of_mem_dropRepeats {last f : Finding} {fs : List Finding}
    (h : f ∈ dropRepeats last fs) : f ∈ fs := by
  induction fs generalizing last with
  | nil => exact h
  | cons g fs ih =>
    rw [dropRepeats] at h
    split at h
    · exact List.mem_cons_of_mem g (ih h)
    · rcases List.mem_cons.mp h with rfl | h
      · exact List.mem_cons_self
      · exact List.mem_cons_of_mem g (ih h)

/-- Dropping repetitions loses no defect, besides that of the finding before. -/
theorem defect_of_mem (last : Finding) {f : Finding} {fs : List Finding} (h : f ∈ fs) :
    f.defect = last.defect ∨ ∃ g ∈ dropRepeats last fs, g.defect = f.defect := by
  induction fs generalizing last with
  | nil => cases h
  | cons g fs ih =>
    rw [dropRepeats]
    split
    · next hsame =>
      rcases List.mem_cons.mp h with rfl | h
      · exact Or.inl (sameDefect_iff.mp hsame).symm
      · exact ih last h
    · refine Or.inr ?_
      rcases List.mem_cons.mp h with rfl | h
      · exact ⟨f, List.mem_cons_self, rfl⟩
      · rcases ih g h with heq | ⟨g', hg', heq⟩
        · exact ⟨g, List.mem_cons_self, heq.symm⟩
        · exact ⟨g', List.mem_cons_of_mem g hg', heq⟩

/-- Every finding that is kept was there before. -/
theorem mem_of_mem_distinct {f : Finding} {fs : List Finding} (h : f ∈ distinct fs) : f ∈ fs := by
  cases fs with
  | nil => exact h
  | cons g fs =>
    rcases List.mem_cons.mp h with rfl | h
    · exact List.mem_cons_self
    · exact List.mem_cons_of_mem g (mem_of_mem_dropRepeats h)

/-- Every defect is kept. -/
theorem exists_mem_distinct {f : Finding} {fs : List Finding} (h : f ∈ fs) :
    ∃ g ∈ distinct fs, g.defect = f.defect := by
  cases fs with
  | nil => cases h
  | cons g fs =>
    rcases List.mem_cons.mp h with rfl | h
    · exact ⟨f, List.mem_cons_self, rfl⟩
    · rcases defect_of_mem g h with heq | ⟨g', hg', heq⟩
      · exact ⟨g, List.mem_cons_self, heq.symm⟩
      · exact ⟨g', List.mem_cons_of_mem g hg', heq⟩

theorem mem_sort {f : Finding} {fs : List Finding} : f ∈ sort fs ↔ f ∈ fs := List.mem_mergeSort

end Finding

namespace CheckOptions

variable {o : CheckOptions} {graphs : List Graph}

/-- **Every reported finding was made** by an analysis in one of the graphs. -/
theorem mem_check {f : Finding} (h : f ∈ o.check graphs) :
    ∃ g ∈ graphs, f ∈ o.findingsIn (o.summaries graphs) g := by
  have hmem := Finding.mem_sort.mp (Finding.mem_of_mem_distinct h)
  exact List.mem_flatMap.mp hmem

/-- **Every defect that was found is reported.** -/
theorem exists_mem_check {f : Finding} {g : Graph} (hg : g ∈ graphs)
    (h : f ∈ o.findingsIn (o.summaries graphs) g) :
    ∃ f' ∈ o.check graphs, f'.defect = f.defect :=
  Finding.exists_mem_distinct (Finding.mem_sort.mpr (List.mem_flatMap.mpr ⟨g, hg, h⟩))

end CheckOptions

namespace Analysis

variable {σ ρ : Type} {a : Analysis σ ρ} {g : Graph} {r : ρ}

/-- **A report is made** in a block that exists and has a state. -/
theorem mem_collect : r ∈ a.collect g ↔ ∃ (b : BlockId) (block : Block) (s : σ),
    g.blocks[b]? = some block ∧ (a.solve g)[b]? = some s ∧ r ∈ a.reports block s := by
  unfold collect
  rw [List.mem_flatMap]
  constructor
  · rintro ⟨⟨b, block⟩, hmem, hr⟩
    rw [Std.ExtTreeMap.mem_toList_iff_getElem?_eq_some] at hmem
    simp only at hr
    split at hr
    · next s hs => exact ⟨b, block, s, hmem, hs, hr⟩
    · cases hr
  · rintro ⟨b, block, s, hb, hs, hr⟩
    refine ⟨(b, block), Std.ExtTreeMap.mem_toList_iff_getElem?_eq_some.mpr hb, ?_⟩
    simp only [hs]
    exact hr

end Analysis

theorem ForwardNull.category_of_mem_collect {known : Summaries} {g : Graph} {f : Finding}
    (h : f ∈ (ForwardNull.analysis known g).collect g) : f.category = .forwardNull := by
  obtain ⟨b, block, s, -, -, hf⟩ := Analysis.mem_collect.mp h
  obtain ⟨before, c, after, -, hf⟩ := mem_factFindings.mp hf
  obtain ⟨d, -, o, -, rfl⟩ := exists_of_mem_dereferenceFindings hf
  rfl

/-- **A finding at the end of a block** is for a variable that the condition tests and that has been
dereferenced. -/
theorem MustDeref.mem_conditionFindings {g : Graph} {block : Block} {s : DerefState} {f : Finding} :
    f ∈ conditionFindings g block s ↔ ∃ text line test v site,
      block.terminator = .branch text line test ∧ v ∈ test.testedVars ∧ s[v]? = some site ∧
      f = finding g line v site := by
  unfold conditionFindings
  split
  · next text line test hterm =>
    rw [List.mem_filterMap]
    constructor
    · rintro ⟨v, hv, hf⟩
      obtain ⟨site, hsite, rfl⟩ := Option.map_eq_some_iff.mp hf
      exact ⟨text, line, test, v, site, hterm, Std.ExtTreeSet.mem_toList.mp hv, hsite, rfl⟩
    · rintro ⟨text', line', test', v, site, hterm', hv, hsite, rfl⟩
      rw [hterm] at hterm'
      cases hterm'
      refine ⟨v, Std.ExtTreeSet.mem_toList.mpr hv, ?_⟩
      rw [hsite]
      rfl
  · next hterm =>
    refine ⟨fun h => (List.not_mem_nil h).elim, ?_⟩
    rintro ⟨text, line, test, v, site, hterm', -⟩
    exact absurd hterm' (hterm text line test)

theorem MustDeref.category_of_mem_collect {known : Summaries} {g : Graph} {f : Finding}
    (h : f ∈ (MustDeref.analysis known g).collect g) : f.category = .reverseNull := by
  obtain ⟨b, block, s, -, -, hf⟩ := Analysis.mem_collect.mp h
  obtain ⟨text, line, test, v, site, -, -, -, rfl⟩ := mem_conditionFindings.mp hf
  rfl

namespace CheckOptions

/-- The findings in a graph are those of the analyses whose category is enabled. -/
theorem mem_findingsIn {o : CheckOptions} {known : Summaries} {g : Graph} {f : Finding} :
    f ∈ o.findingsIn known g ↔
      o.enables .forwardNull = true ∧ f ∈ (ForwardNull.analysis known g).collect g ∨
      o.enables .reverseNull = true ∧ f ∈ (MustDeref.analysis known g).collect g := by
  unfold findingsIn
  rw [List.mem_append]
  constructor
  · rintro (h | h)
    · split at h
      · next he => exact Or.inl ⟨he, h⟩
      · cases h
    · split at h
      · next he => exact Or.inr ⟨he, h⟩
      · cases h
  · rintro (⟨he, h⟩ | ⟨he, h⟩)
    · exact Or.inl (by rwa [if_pos he])
    · exact Or.inr (by rwa [if_pos he])

/-- A finding is in the file and the function of the graph. -/
theorem file_function_of_mem_findingsIn {o : CheckOptions} {known : Summaries} {g : Graph}
    {f : Finding} (h : f ∈ o.findingsIn known g) : f.file = g.file ∧ f.function = g.function := by
  rcases mem_findingsIn.mp h with ⟨-, h⟩ | ⟨-, h⟩
  · obtain ⟨b, block, s, -, -, hf⟩ := Analysis.mem_collect.mp h
    obtain ⟨before, c, after, -, hf⟩ := ForwardNull.mem_factFindings.mp hf
    obtain ⟨d, -, o, -, rfl⟩ := ForwardNull.exists_of_mem_dereferenceFindings hf
    exact ⟨rfl, rfl⟩
  · obtain ⟨b, block, s, -, -, hf⟩ := Analysis.mem_collect.mp h
    obtain ⟨text, line, test, v, site, -, -, -, rfl⟩ := MustDeref.mem_conditionFindings.mp hf
    exact ⟨rfl, rfl⟩

/-- **Nothing is found** in a graph in which nothing is dereferenced and no block branches. -/
theorem findingsIn_eq_nil {o : CheckOptions} {known : Summaries} {g : Graph}
    (hfacts : ∀ (b : BlockId) (block : Block), g.blocks[b]? = some block →
      ∀ f ∈ block.facts, ∀ v, ¬f.Dereferences known v)
    (hterminator : ∀ (b : BlockId) (block : Block), g.blocks[b]? = some block →
      ∀ text line test, block.terminator ≠ .branch text line test) :
    o.findingsIn known g = [] := by
  refine List.eq_nil_iff_forall_not_mem.mpr fun x hx => ?_
  rcases mem_findingsIn.mp hx with ⟨-, hx⟩ | ⟨-, hx⟩
  · obtain ⟨b, block, s, hb, -, hx⟩ := Analysis.mem_collect.mp hx
    obtain ⟨before, f, after, hsplit, hx⟩ := ForwardNull.mem_factFindings.mp hx
    obtain ⟨d, hd, -⟩ := ForwardNull.exists_of_mem_dereferenceFindings hx
    have hf : f ∈ block.facts := hsplit ▸ List.mem_append_right _ List.mem_cons_self
    exact hfacts b block hb f hf d.var (Fact.mem_dereferences.mp hd).1
  · obtain ⟨b, block, s, hb, -, hx⟩ := Analysis.mem_collect.mp hx
    obtain ⟨text, line, test, v, site, hbranch, -⟩ := MustDeref.mem_conditionFindings.mp hx
    exact hterminator b block hb text line test hbranch

end CheckOptions

end NullFlow
