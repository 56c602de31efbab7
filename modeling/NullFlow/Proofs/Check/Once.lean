import Mathlib.Data.List.Nodup
import NullFlow.Proofs.Check.ForwardNull

/-!
# How often a defect is reported

Findings are sorted by their **place** (file, line, function, category) and then each is dropped
that reports the defect of the one before it. The sort is stable and its key leaves the message out,
so the findings of one place keep the order in which they were made, and two that report one defect
stay apart if one of another message was made between them. This is the only way in which a defect
comes to be reported twice (`CheckOptions.check_exact`), and it happens: two branches on one line
that both dereference the same two pointers are enough
(`CheckOptions.not_nodup_check_readOnBothSides`).
-/

namespace NullFlow

namespace Finding

variable {d : Defect} {f g last : Finding} {fs : List Finding}

/-! ## Dropping neighbours -/

/-- A defect other than that of the finding before is kept exactly if it is there. -/
theorem defect_mem_dropRepeats (hlast : last.defect ≠ d) :
    d ∈ (dropRepeats last fs).map defect ↔ d ∈ fs.map defect := by
  simp only [List.mem_map]
  constructor
  · rintro ⟨f, hf, rfl⟩
    exact ⟨f, mem_of_mem_dropRepeats hf, rfl⟩
  · rintro ⟨f, hf, rfl⟩
    exact (defect_of_mem last hf).resolve_left hlast.symm

/-- **The defect of the finding before comes again** exactly if another stands in front of it. -/
theorem defect_mem_dropRepeats_self (hlast : last.defect = d) :
    d ∈ (dropRepeats last fs).map defect ↔ ∃ e, e ≠ d ∧ [e, d].Sublist (fs.map defect) := by
  induction fs with
  | nil => simp [dropRepeats]
  | cons f fs ih =>
    by_cases hf : f.defect = d
    · -- one more repetition, which is dropped
      rw [dropRepeats, if_pos (sameDefect_iff.mpr (hlast.trans hf.symm)), ih, List.map_cons, hf]
      exact exists_congr fun e => and_congr_right fun he => ⟨.cons _, (·.of_cons_of_ne he)⟩
    · -- another defect: from here on the one before is kept whenever it is there
      have hdiff : ¬last.sameDefect f = true := fun h =>
        hf ((sameDefect_iff.mp h).symm.trans hlast)
      rw [dropRepeats, if_neg hdiff, List.map_cons, List.mem_cons, defect_mem_dropRepeats hf,
        List.map_cons]
      constructor
      · rintro (h | h)
        · exact absurd h.symm hf
        · exact ⟨f.defect, hf, (List.singleton_sublist.mpr h).cons_cons _⟩
      · rintro ⟨e, -, h⟩
        exact Or.inr (List.singleton_sublist.mp h.of_cons_cons)

/-- A defect other than that of the finding before is kept more than once exactly if another stands
between two of it. -/
theorem one_lt_count_dropRepeats (hlast : last.defect ≠ d) :
    1 < ((dropRepeats last fs).map defect).count d ↔
      ∃ e, e ≠ d ∧ [d, e, d].Sublist (fs.map defect) := by
  induction fs generalizing last with
  | nil => simp [dropRepeats]
  | cons f fs ih =>
    rw [dropRepeats, List.map_cons]
    by_cases hf : f.defect = d
    · -- the first of the defect: it is kept, and the rest decides whether it comes again
      have hdiff : ¬last.sameDefect f = true := fun h => hlast ((sameDefect_iff.mp h).trans hf)
      rw [if_neg hdiff, List.map_cons, hf, List.count_cons_self, Nat.lt_add_left_iff_pos,
        List.count_pos_iff, defect_mem_dropRepeats_self hf]
      simp only [List.cons_sublist_cons]
    · have hskip : (∃ e, e ≠ d ∧ [d, e, d].Sublist (fs.map defect)) ↔
          ∃ e, e ≠ d ∧ [d, e, d].Sublist (f.defect :: fs.map defect) :=
        exists_congr fun e => and_congr_right fun _ => ⟨.cons _, (·.of_cons_of_ne (Ne.symm hf))⟩
      rw [← hskip]
      split
      · exact ih hlast
      · rw [List.map_cons, List.count_cons_of_ne hf]
        exact ih hf

/-- **A defect is kept more than once** exactly if another stands between two of it. -/
theorem one_lt_count_distinct :
    1 < ((distinct fs).map defect).count d ↔ ∃ e, e ≠ d ∧ [d, e, d].Sublist (fs.map defect) := by
  cases fs with
  | nil => simp [distinct]
  | cons f fs =>
    rw [distinct, List.map_cons, List.map_cons]
    by_cases hf : f.defect = d
    · rw [hf, List.count_cons_self, Nat.lt_add_left_iff_pos, List.count_pos_iff,
        defect_mem_dropRepeats_self hf]
      simp only [List.cons_sublist_cons]
    · rw [List.count_cons_of_ne hf, one_lt_count_dropRepeats hf]
      exact exists_congr fun e => and_congr_right fun _ => ⟨.cons _, (·.of_cons_of_ne (Ne.symm hf))⟩

/-- Every finding that is kept stands where it stood. -/
theorem dropRepeats_sublist (last : Finding) (fs : List Finding) :
    (dropRepeats last fs).Sublist fs := by
  induction fs generalizing last with
  | nil => exact .slnil
  | cons f fs ih =>
    rw [dropRepeats]
    split
    · exact (ih last).cons f
    · exact (ih f).cons_cons f

theorem distinct_sublist (fs : List Finding) : (distinct fs).Sublist fs := by
  cases fs with
  | nil => exact .slnil
  | cons f fs => exact (dropRepeats_sublist f fs).cons_cons f

/-! ## Sorting -/

instance : Std.TransCmp order :=
  inferInstanceAs <| Std.TransCmp <| compareLex (compareOn file) <| compareLex (compareOn line) <|
    compareLex (compareOn function) (compareOn (·.category.rank))

/-- **The place of a finding** is what its defect tells besides the message. -/
theorem order_eq_eq_iff : order f g = .eq ↔ ∃ m, g.defect = { f.defect with message := m } := by
  have hcategory : f.category.rank = g.category.rank ↔ f.category = g.category := by
    cases f.category <;> cases g.category <;> decide
  simp only [order, Ordering.then_eq_eq, Std.compare_eq_iff_eq, hcategory, defect, Defect.mk.injEq,
    eq_comm (a := f.file), eq_comm (a := f.line), eq_comm (a := f.function),
    eq_comm (a := f.category)]
  constructor
  · rintro ⟨hfile, hline, hfunction, hcat⟩
    exact ⟨g.message, hfile, hfunction, hline, hcat, rfl⟩
  · rintro ⟨_, hfile, hfunction, hline, hcat, -⟩
    exact ⟨hfile, hline, hfunction, hcat⟩

/-- Any two findings are in order one way or the other. -/
theorem order_total (f g : Finding) : ((order f g).isLE || (order g f).isLE) = true := by
  have hswap : order g f = (order f g).swap := Std.OrientedCmp.eq_swap
  rw [hswap]
  cases order f g <;> rfl

theorem pairwise_sort (fs : List Finding) :
    (sort fs).Pairwise fun f g => (order f g).isLE = true :=
  List.pairwise_mergeSort (fun _ _ _ => Std.TransCmp.isLE_trans) order_total fs

/-- **The sort is stable**: the findings of one place keep the order in which they were made. -/
theorem filter_sort (f : Finding) (fs : List Finding) :
    (sort fs).filter (order f · == .eq) = fs.filter (order f · == .eq) := by
  have hpairwise : (fs.filter (order f · == .eq)).Pairwise fun g h => (order g h).isLE = true := by
    refine List.Pairwise.imp_of_mem (R := fun _ _ => True) (fun {g h} hg hh _ => ?_)
      (List.pairwise_of_forall fun _ _ => trivial)
    have hfg := beq_iff_eq.mp (List.mem_filter.mp hg).2
    have hfh := beq_iff_eq.mp (List.mem_filter.mp hh).2
    rw [← Std.TransCmp.congr_left hfg, hfh]
    rfl
  -- so they are a part of the sorted list, and one of the same length as theirs there
  have hsort : (fs.filter (order f · == .eq)).Sublist (sort fs) :=
    List.sublist_mergeSort (fun _ _ _ => Std.TransCmp.isLE_trans) order_total hpairwise
      List.filter_sublist
  have hsub := hsort.filter (order f · == .eq)
  rw [List.filter_filter] at hsub
  simp only [Bool.and_self] at hsub
  exact (hsub.eq_of_length ((List.mergeSort_perm fs _).filter _).length_eq.symm).symm

theorem sublist_map_defect {e : Defect} : [d, e, d].Sublist (fs.map defect) ↔
    ∃ f g h, [f, g, h].Sublist fs ∧ f.defect = d ∧ g.defect = e ∧ h.defect = d := by
  rw [List.sublist_map_iff]
  constructor
  · rintro ⟨l, hl, heq⟩
    obtain ⟨f, l, rfl, hf, heq⟩ := List.map_eq_cons_iff.mp heq.symm
    obtain ⟨g, l, rfl, hg, heq⟩ := List.map_eq_cons_iff.mp heq
    obtain ⟨h, l, rfl, hh, heq⟩ := List.map_eq_cons_iff.mp heq
    obtain rfl := List.map_eq_nil_iff.mp heq
    exact ⟨f, g, h, hl, hf, hg, hh⟩
  · rintro ⟨f, g, h, hl, rfl, rfl, hh⟩
    exact ⟨[f, g, h], hl, by rw [List.map_cons, List.map_cons, List.map_singleton, hh]⟩

/-- **Two findings of one defect stay apart in the sorted list** exactly if one of another message,
at the same place, was made between them. -/
theorem exists_between_sort :
    (∃ e, e ≠ d ∧ [d, e, d].Sublist ((sort fs).map defect)) ↔
      ∃ m, m ≠ d.message ∧ [d, { d with message := m }, d].Sublist (fs.map defect) := by
  constructor
  · rintro ⟨e, he, hsub⟩
    obtain ⟨f, g, h, hl, rfl, rfl, hh⟩ := sublist_map_defect.mp hsub
    -- all three are at one place, for the first and the last are
    have hsorted := (pairwise_sort fs).sublist hl
    simp only [List.pairwise_cons, List.mem_cons, List.not_mem_nil, or_false, forall_eq_or_imp,
      forall_eq] at hsorted
    have hfh : order f h = .eq := order_eq_eq_iff.mpr ⟨f.message, hh⟩
    have hfg : order f g = .eq := Std.OrientedCmp.isLE_antisymm hsorted.1.1
      (by rw [Std.TransCmp.congr_right hfh]; exact hsorted.2.1)
    obtain ⟨m, hm⟩ := order_eq_eq_iff.mp hfg
    refine ⟨m, fun h => he (hm.trans (by rw [h])), ?_⟩
    -- so they stood in this order before the list was sorted
    have hkept := hl.filter (order f · == .eq)
    rw [filter_sort, List.filter_eq_self.mpr] at hkept
    · exact sublist_map_defect.mpr
        ⟨f, g, h, hkept.trans List.filter_sublist, rfl, hm, hh⟩
    · simp [hfg, hfh, Std.ReflCmp.compare_self]
  · rintro ⟨m, hm, hsub⟩
    refine ⟨{ d with message := m }, fun h => hm (congrArg Defect.message h),
      sublist_map_defect.mpr ?_⟩
    obtain ⟨f, g, h, hl, rfl, hg, hh⟩ := sublist_map_defect.mp hsub
    refine ⟨f, g, h,
      List.sublist_mergeSort (fun _ _ _ => Std.TransCmp.isLE_trans) order_total ?_ hl, rfl, hg, hh⟩
    have hfg : order f g = .eq := order_eq_eq_iff.mpr ⟨m, hg⟩
    have hfh : order f h = .eq := order_eq_eq_iff.mpr ⟨f.message, hh⟩
    have hgh : order g h = .eq := by rw [← Std.TransCmp.congr_left hfg, hfh]
    simp [hfg, hfh, hgh]

end Finding

namespace CheckOptions

/-- **All findings that the enabled analyses make** in some graphs, in the order in which they are
made. -/
def made (o : CheckOptions) (graphs : List Graph) : List Finding :=
  graphs.flatMap (o.findingsIn (o.summaries graphs))

/-- **What is reported, and how often.** The findings are sorted, each of them was made by an
enabled analysis in one of the graphs, and the defect of each that was made is reported. It is
reported more than once exactly if between two findings of it one of another message was made at the
same place. -/
theorem check_exact (o : CheckOptions) (graphs : List Graph) :
    (o.check graphs).Pairwise (fun f g => (Finding.order f g).isLE = true) ∧
    (∀ f ∈ o.check graphs, f ∈ o.made graphs) ∧
    (∀ f ∈ o.made graphs, ∃ f' ∈ o.check graphs, f'.defect = f.defect) ∧
    ∀ d, 1 < ((o.check graphs).map Finding.defect).count d ↔ ∃ m, m ≠ d.message ∧
      [d, { d with message := m }, d].Sublist ((o.made graphs).map Finding.defect) :=
  ⟨(Finding.pairwise_sort _).sublist (Finding.distinct_sublist _),
    fun _ h => Finding.mem_sort.mp (Finding.mem_of_mem_distinct h),
    fun _ h => Finding.exists_mem_distinct (Finding.mem_sort.mpr h),
    fun _ => Finding.one_lt_count_distinct.trans Finding.exists_between_sort⟩

end CheckOptions

/-! ## A line on which findings alternate -/

/-- One side of the branch: a statement that reads through one pointer and writes through the
other. -/
def Block.readingBoth (b : BlockId) : Block where
  id := b
  label := "side"
  statements := [⟨2, .assignment "*p", "*p = *q;", [.deref "q" .star 2, .deref "p" .star 2]⟩]

/-- A function that sets two pointers to null and then, on both sides of a branch that stands on one
line, reads through the one and writes through the other. -/
def Graph.readOnBothSides : Graph :=
  ((((({ function := "f", file := "a.c" } : Graph).addBlock
      { id := 0, label := "entry",
        statements := [⟨1, .declaration ["p", "q"], "int *p = 0, *q = 0;",
          [.assign "p" .null 1, .assign "q" .null 1]⟩] }).addBlock
      (.readingBoth 1)).addBlock (.readingBoth 2)).addEdge 0 1 .trueBranch).addEdge 0 2 .falseBranch

theorem Nullness.exists_origin_of_below {o : Origin} {x : Option Nullness}
    (h : Below (some (.null o)) x) : ∃ o', x.bind (·.origin?) = some o' := by
  rcases x with _ | _ | o' | o'
  · exact h.elim
  · exact h.elim
  · exact ⟨o', rfl⟩
  · exact ⟨o', rfl⟩

namespace ForwardNull

/-- The defect of a dereference that both sides make on line 2. -/
def readDefect (v : String) : Defect :=
  ⟨"a.c", "f", 2, .forwardNull, derefText ⟨v, 2, none⟩⟩

/-- **Either side makes a finding for each of the pointers**, whatever else may flow to it. -/
theorem defects_readOnBothSides (known : Summaries) {b : BlockId} {k : EdgeKind}
    (w : Graph.readOnBothSides.Walk 0 [⟨0, b, k⟩] b) :
    ∃ s, ((analysis known Graph.readOnBothSides).solve Graph.readOnBothSides)[b]? = some s ∧
      ((analysis known Graph.readOnBothSides).reports (.readingBoth b) s).map Finding.defect
        = [readDefect "q", readDefect "p"] := by
  have halong : (analysis known Graph.readOnBothSides).along Graph.readOnBothSides [⟨0, b, k⟩]
      = some (((∅ : NullState).insert "p" (.null ⟨1, .assignZero⟩)).insert "q"
          (.null ⟨1, .assignZero⟩)) := rfl
  obtain ⟨s, hs, hbelow⟩ := (order known Graph.readOnBothSides).solve_along w halong
  obtain ⟨p, hp⟩ := Nullness.exists_origin_of_below (hbelow "p")
  obtain ⟨q, hq⟩ := Nullness.exists_origin_of_below (hbelow "q")
  refine ⟨s, hs, ?_⟩
  have hp' : ((s.insert "q" .nonNull)["p"]?).bind (·.origin?) = some p := by
    rw [Std.ExtTreeMap.getElem?_insert, if_neg (by decide), hp]
  show (dereferenceFindings Graph.readOnBothSides s [⟨"q", 2, none⟩]
    ++ (dereferenceFindings Graph.readOnBothSides (s.insert "q" .nonNull) [⟨"p", 2, none⟩]
      ++ [])).map Finding.defect = _
  simp only [dereferenceFindings, hq, hp']
  rfl

end ForwardNull

/-- **Findings are reported twice**: the first side makes one for each of the pointers and the
second makes them again, in the same order, so no two neighbours report the same. -/
theorem CheckOptions.not_nodup_check_readOnBothSides :
    ¬((({} : CheckOptions).check [Graph.readOnBothSides]).map Finding.defect).Nodup := by
  let known := ({} : CheckOptions).summaries [Graph.readOnBothSides]
  obtain ⟨s, hs, hfirst⟩ := ForwardNull.defects_readOnBothSides known (b := 1) (k := .trueBranch)
    ((Graph.Walk.nil (by decide)).snoc (by decide) (by decide))
  obtain ⟨t, ht, hsecond⟩ := ForwardNull.defects_readOnBothSides known (b := 2) (k := .falseBranch)
    ((Graph.Walk.nil (by decide)).snoc (by decide) (by decide))
  have hblocks : Graph.readOnBothSides.blocks.toList
      = [(0, _), (1, .readingBoth 1), (2, .readingBoth 2)] := rfl
  have hmade : [ForwardNull.readDefect "q", ForwardNull.readDefect "p",
      ForwardNull.readDefect "q"].Sublist
        ((({} : CheckOptions).made [Graph.readOnBothSides]).map Finding.defect) := by
    rw [made, List.flatMap_singleton, findingsIn, List.map_append]
    refine List.Sublist.trans ?_ (List.sublist_append_left _ _)
    show List.Sublist _ (((ForwardNull.analysis known Graph.readOnBothSides).collect
      Graph.readOnBothSides).map Finding.defect)
    rw [Analysis.collect, hblocks]
    simp only [List.flatMap_cons, List.flatMap_nil, hs, ht, List.map_append, hfirst, hsecond]
    refine List.sublist_append_of_sublist_right ?_
    decide
  rw [List.nodup_iff_count_le_one]
  intro hnodup
  have hbetween := Finding.exists_between_sort.mpr ⟨_, by decide, hmade⟩
  exact absurd (hnodup _) (Nat.not_le_of_lt (Finding.one_lt_count_distinct.mpr hbetween))

end NullFlow
