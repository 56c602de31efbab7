import NullFlow.Proofs.Check.Once
import NullFlow.Proofs.Summary.Grounded

/-!
# The order of what is reported

Findings are made graph by graph and reported in the order of their **places** (file, line,
function, category). The sort is stable, so what is reported is decided by the findings of each
place, in the order in which they were made, and by nothing else
(`Finding.sort_eq_of_filter_eq`).

Two things follow. The findings of a place are all in one function, so if no two graphs are of one
function, the order of the graphs makes no difference to them, nor to the summaries, which are kept
by name (`CheckOptions.check_reordered`). And they are all of one category, so to report some
categories only is to leave the others out of the full report: a finding between two of one place is
of that place too, so dropping it with its category makes no others neighbours
(`CheckOptions.check_selected`).
-/

namespace NullFlow

namespace Finding

variable {f g last : Finding} {fs gs : List Finding} {p : Finding → Bool}

/-! ## Lists in order -/

/-- **Findings in the order of their places.** -/
abbrev Sorted (fs : List Finding) : Prop := fs.Pairwise fun f g => (order f g).isLE = true

theorem order_self (f : Finding) : order f f = .eq := order_eq_eq_iff.mpr ⟨f.message, rfl⟩

theorem isLE_of_mem_cons (h : Sorted (f :: fs)) (hg : g ∈ f :: fs) : (order f g).isLE = true := by
  rcases List.mem_cons.mp hg with rfl | hg
  · rw [order_self]
    rfl
  · exact List.rel_of_pairwise_cons h hg

/-- A finding stands where its place is looked up. -/
theorem mem_iff_of_filter_eq
    (h : ∀ x, fs.filter (order x · == .eq) = gs.filter (order x · == .eq)) :
    f ∈ fs ↔ f ∈ gs := by
  have hf := congrArg (f ∈ ·) (h f)
  simpa only [List.mem_filter, order_self, beq_self_eq_true, and_true, eq_iff_iff] using hf

/-- **The findings of each place determine a list in order.** -/
theorem eq_of_filter_eq (hf : Sorted fs) (hg : Sorted gs)
    (h : ∀ x, fs.filter (order x · == .eq) = gs.filter (order x · == .eq)) : fs = gs := by
  induction fs generalizing gs with
  | nil =>
    refine (List.eq_nil_iff_forall_not_mem.mpr fun x hx => ?_).symm
    exact List.not_mem_nil ((mem_iff_of_filter_eq h).mpr hx)
  | cons f fs ih =>
    cases gs with
    | nil => exact (List.not_mem_nil ((mem_iff_of_filter_eq h).mp List.mem_cons_self)).elim
    | cons g gs =>
      -- each head is in the other list, so they are of one place, and the first ones there
      have hplace : order f g = .eq := Std.OrientedCmp.isLE_antisymm
        (isLE_of_mem_cons hf ((mem_iff_of_filter_eq h).mpr List.mem_cons_self))
        (isLE_of_mem_cons hg ((mem_iff_of_filter_eq h).mp List.mem_cons_self))
      have hheads := h f
      simp only [List.filter_cons, order_self, hplace, beq_self_eq_true, if_true] at hheads
      obtain ⟨rfl, -⟩ := List.cons.inj hheads
      refine congrArg (f :: ·) (ih hf.of_cons hg.of_cons fun x => ?_)
      have hx := h x
      rw [List.filter_cons, List.filter_cons] at hx
      split at hx
      · exact (List.cons.inj hx).2
      · exact hx

/-- **Only the order within each place matters** to the sort. -/
theorem sort_eq_of_filter_eq
    (h : ∀ x, fs.filter (order x · == .eq) = gs.filter (order x · == .eq)) : sort fs = sort gs :=
  eq_of_filter_eq (pairwise_sort fs) (pairwise_sort gs) fun x => by
    rw [filter_sort, filter_sort, h]

/-- **Leaving findings out before the sort or after it** comes to the same. -/
theorem sort_filter (p : Finding → Bool) (fs : List Finding) :
    sort (fs.filter p) = (sort fs).filter p :=
  eq_of_filter_eq (pairwise_sort _) ((pairwise_sort fs).filter p) fun x => by
    rw [filter_sort, List.filter_comm, List.filter_comm (l := sort fs), filter_sort]

/-! ## Neighbours -/

/-- A finding before the list matters only if its defect comes again. -/
theorem dropRepeats_eq_distinct (h : ∀ f ∈ fs, f.defect ≠ last.defect) :
    dropRepeats last fs = distinct fs := by
  cases fs with
  | nil => rfl
  | cons f fs =>
    rw [dropRepeats, distinct, if_neg]
    exact fun hsame => h f List.mem_cons_self (sameDefect_iff.mp hsame).symm

theorem order_eq_of_defect_eq (h : f.defect = g.defect) : order f g = .eq :=
  order_eq_eq_iff.mpr ⟨g.message, by rw [h]; rfl⟩

section Places

/- Findings are left out by their place. -/
variable (hp : ∀ f g, order f g = .eq → p f = p g)

include hp

/-- **Leaving places out makes no new neighbours** of one defect. -/
theorem filter_dropRepeats (h : Sorted (last :: fs)) :
    (dropRepeats last fs).filter p = dropRepeats last (fs.filter p) := by
  induction fs generalizing last with
  | nil => rfl
  | cons f fs ih =>
    rw [dropRepeats]
    by_cases hsame : last.sameDefect f = true
    · have hrest := ih (h.sublist (.cons_cons last (.cons f (.refl fs))))
      rw [if_pos hsame, hrest, List.filter_cons]
      split
      · rw [dropRepeats, if_pos hsame]
      · rfl
    · have hrest := ih h.of_cons
      rw [if_neg hsame, List.filter_cons, List.filter_cons]
      split
      · rw [dropRepeats, if_neg hsame, hrest]
      · next hf =>
        -- a finding that is left out: neither its defect nor the one before comes again
        rw [hrest, dropRepeats_eq_distinct, dropRepeats_eq_distinct]
        · intro g hg hdefect
          obtain ⟨hmem, hpg⟩ := List.mem_filter.mp hg
          have hplace := order_eq_of_defect_eq hdefect.symm
          have hbetween : order last f = .eq := Std.OrientedCmp.isLE_antisymm
            (isLE_of_mem_cons h (List.mem_cons_of_mem last List.mem_cons_self)) (by
              rw [Std.TransCmp.congr_right hplace]
              exact isLE_of_mem_cons h.of_cons (List.mem_cons_of_mem f hmem))
          exact hf ((hp _ _ hbetween).symm.trans ((hp _ _ hplace).trans hpg))
        · intro g hg hdefect
          exact hf ((hp _ _ (order_eq_of_defect_eq hdefect.symm)).trans (List.mem_filter.mp hg).2)

theorem filter_distinct (h : Sorted fs) : (distinct fs).filter p = distinct (fs.filter p) := by
  cases fs with
  | nil => rfl
  | cons f fs =>
    rw [distinct, List.filter_cons, List.filter_cons, filter_dropRepeats hp h]
    split
    · rfl
    · next hf =>
      refine dropRepeats_eq_distinct fun g hg hdefect => ?_
      exact hf ((hp _ _ (order_eq_of_defect_eq hdefect.symm)).trans (List.mem_filter.mp hg).2)

end Places

theorem category_eq_of_order_eq (h : order f g = .eq) : f.category = g.category := by
  obtain ⟨m, hm⟩ := order_eq_eq_iff.mp h
  exact (congrArg Defect.category hm).symm

theorem function_eq_of_order_eq (h : order f g = .eq) : f.function = g.function := by
  obtain ⟨m, hm⟩ := order_eq_eq_iff.mp h
  exact (congrArg Defect.function hm).symm

end Finding

/-! ## Graphs of different functions -/

/-- Lists that are empty but for one may be strung together in any order. -/
theorem flatMap_eq_of_perm {α β : Type} {as bs : List α} {f : α → List β} (h : as.Perm bs)
    (hf : as.Pairwise fun a b => f a = [] ∨ f b = []) : as.flatMap f = bs.flatMap f := by
  induction h with
  | nil => rfl
  | cons a h ih => rw [List.flatMap_cons, List.flatMap_cons, ih hf.of_cons]
  | swap a b as =>
    simp only [List.flatMap_cons]
    rcases List.rel_of_pairwise_cons hf List.mem_cons_self with h | h <;> simp only [h,
      List.nil_append]
  | trans h _ ih ih' => exact (ih hf).trans (ih' ((h.pairwise_iff Or.symm).mp hf))

section Names

variable {graphs graphs' : List Graph} (h : graphs.Perm graphs')
  (hnames : (graphs.map (·.function)).Nodup)

/-- If no two graphs are of one function, the last of a function is the only one. -/
theorem Graph.lastNamed?_eq_some_iff {graphs : List Graph}
    (hnames : (graphs.map (·.function)).Nodup) {function : String} {g : Graph} :
    lastNamed? graphs function = some g ↔ g ∈ graphs ∧ g.function = function := by
  constructor
  · exact fun hg => ⟨mem_of_lastNamed? hg, function_of_lastNamed? hg⟩
  · rintro ⟨hg, rfl⟩
    obtain ⟨g', hg'⟩ : ∃ g', lastNamed? graphs g.function = some g' := by
      unfold lastNamed?
      rw [← Option.isSome_iff_exists, List.find?_isSome]
      exact ⟨g, List.mem_reverse.mpr hg, beq_self_eq_true _⟩
    rw [hg', List.inj_on_of_nodup_map hnames (mem_of_lastNamed? hg') hg
      (function_of_lastNamed? hg')]

include h hnames

theorem Graph.lastNamed?_perm (function : String) :
    lastNamed? graphs function = lastNamed? graphs' function := by
  have hnames' : (graphs'.map (·.function)).Nodup := (h.map _).nodup_iff.mp hnames
  refine Option.ext fun g => ?_
  rw [lastNamed?_eq_some_iff hnames, lastNamed?_eq_some_iff hnames', h.mem_iff]

namespace Summaries

theorem round_perm (known : Summaries) : round graphs known = round graphs' known := by
  have hfunctions : (round graphs known).functions = (round graphs' known).functions := by
    refine Std.ExtTreeMap.ext_getElem? fun function => ?_
    rw [getElem?_round, getElem?_round, Graph.lastNamed?_perm h hnames]
  exact congrArg Summaries.mk hfunctions

/-- **The summaries do not depend on the order of the graphs.** -/
theorem compute_perm : compute graphs = compute graphs' := by
  have hrounds (n : Nat) : rounds graphs n none = rounds graphs' n none := by
    induction n with
    | zero => rfl
    | succ n ih => rw [rounds_succ, rounds_succ, ih, round_perm h hnames]
  unfold compute
  rw [hrounds, h.length_eq]

end Summaries

end Names

namespace CheckOptions

/-- The findings of one place are made in the graph of one function. -/
theorem filter_findingsIn_eq_nil {o : CheckOptions} {known : Summaries} {g : Graph} {x : Finding}
    (h : x.function ≠ g.function) :
    (o.findingsIn known g).filter (Finding.order x · == .eq) = [] := by
  refine List.filter_eq_nil_iff.mpr fun f hf hplace => h ?_
  exact (Finding.function_eq_of_order_eq (beq_iff_eq.mp hplace)).trans
    (file_function_of_mem_findingsIn hf).2

/-- **The order of the functions makes no difference** to what is reported, nor to its order and its
events. -/
theorem check_reordered (o : CheckOptions) {graphs graphs' : List Graph} (h : graphs.Perm graphs')
    (hnames : (graphs.map (·.function)).Nodup) : o.check graphs = o.check graphs' := by
  have hknown : o.summaries graphs = o.summaries graphs' := by
    unfold summaries
    rw [Summaries.compute_perm h hnames]
  unfold check
  rw [hknown]
  refine congrArg Finding.distinct (Finding.sort_eq_of_filter_eq fun x => ?_)
  rw [List.filter_flatMap, List.filter_flatMap]
  -- at most one of the graphs is of the function of the place
  refine flatMap_eq_of_perm h ((List.pairwise_map.mp hnames).imp fun {a b} hab => ?_)
  by_cases ha : x.function = a.function
  · exact Or.inr (filter_findingsIn_eq_nil fun hb => hab (ha.symm.trans hb))
  · exact Or.inl (filter_findingsIn_eq_nil ha)

/-- The read of a pointer that was set to null is reported, whatever else there is. -/
theorem exists_mem_check_assignedThenRead {o : CheckOptions} {graphs : List Graph}
    (hen : o.enables .forwardNull = true) (hg : Graph.assignedThenRead ∈ graphs) :
    ∃ x ∈ o.check graphs, x.category = .forwardNull := by
  obtain ⟨origin, hfound⟩ := ForwardNull.exists_finding_of_along Graph.walk_assignedThenRead
    (ForwardNull.along_assignedThenRead (o.summaries graphs)) rfl rfl (.deref .star 2)
    (ForwardNull.getElem?_assignedThenRead _)
  obtain ⟨x, hx, hdefect⟩ := exists_mem_check hg (mem_findingsIn.mpr (Or.inl ⟨hen, hfound⟩))
  exact ⟨x, hx, congrArg Defect.category hdefect⟩

theorem check_reordered_calling :
    let graphs := Graph.assignedThenRead :: Summaries.calling
    graphs.Perm graphs.reverse ∧ (graphs.map (·.function)).Nodup ∧
      (∃ x ∈ ({} : CheckOptions).check graphs, x.category = .forwardNull) ∧
      ({} : CheckOptions).check graphs = ({} : CheckOptions).check graphs.reverse := by
  intro graphs
  have hperm : graphs.Perm graphs.reverse := (List.reverse_perm graphs).symm
  have hnames : (graphs.map (·.function)).Nodup := by decide
  exact ⟨hperm, hnames, exists_mem_check_assignedThenRead rfl List.mem_cons_self,
    check_reordered {} hperm hnames⟩

/-! ## Some categories only -/

/-- **The findings of the enabled categories** are those among all findings in a graph. -/
theorem findingsIn_eq_filter (o : CheckOptions) (known : Summaries) (g : Graph) :
    o.findingsIn known g =
      (({ o with categories := [] } : CheckOptions).findingsIn known g).filter
        (o.enables ·.category) := by
  have hone {c : Category} {fs : List Finding} (hfs : ∀ f ∈ fs, f.category = c) :
      (if o.enables c then fs else []) = fs.filter (o.enables ·.category) := by
    split
    · next hc => exact (List.filter_eq_self.mpr fun f hf => by rw [hfs f hf, hc]).symm
    · next hc => exact (List.filter_eq_nil_iff.mpr fun f hf => by rwa [hfs f hf]).symm
  unfold findingsIn
  rw [hone fun f => ForwardNull.category_of_mem_collect,
    hone fun f => MustDeref.category_of_mem_collect, ← List.filter_append]
  rfl

/-- **To enable some categories is to leave the others out** of the full report. -/
theorem check_eq_filter (o : CheckOptions) (graphs : List Graph) :
    o.check graphs =
      (({ o with categories := [] } : CheckOptions).check graphs).filter
        (o.enables ·.category) := by
  have hplace (f g : Finding) (h : Finding.order f g = .eq) :
      o.enables f.category = o.enables g.category := by
    rw [Finding.category_eq_of_order_eq h]
  have hmade : graphs.flatMap (o.findingsIn (o.summaries graphs)) =
      (graphs.flatMap (({ o with categories := [] } : CheckOptions).findingsIn
        (o.summaries graphs))).filter (o.enables ·.category) := by
    rw [List.filter_flatMap]
    exact List.flatMap_congr fun g _ => o.findingsIn_eq_filter _ g
  have hsorted := Finding.pairwise_sort (graphs.flatMap
    (({ o with categories := [] } : CheckOptions).findingsIn (o.summaries graphs)))
  show Finding.distinct (Finding.sort (graphs.flatMap (o.findingsIn (o.summaries graphs)))) = _
  rw [hmade, Finding.sort_filter, ← Finding.filter_distinct hplace hsorted]
  rfl

/-- **The categories select from the full report**, in its order and with its events. The full
report is that without a selection, or with one of all categories. -/
theorem check_selected (o : CheckOptions) (graphs : List Graph) {cs : List Category}
    (hcs : cs ≠ []) :
    ({ o with categories := cs } : CheckOptions).check graphs =
        (({ o with categories := [] } : CheckOptions).check graphs).filter (·.category ∈ cs) ∧
      ({ o with categories := [] } : CheckOptions).check graphs =
        ({ o with categories := Category.all } : CheckOptions).check graphs := by
  constructor
  · rw [check_eq_filter]
    refine List.filter_congr fun f _ => ?_
    unfold enables
    rw [List.isEmpty_eq_false_iff.mpr hcs, Bool.false_or, List.contains_eq_mem]
  · rw [check_eq_filter { o with categories := Category.all }]
    refine (List.filter_eq_self.mpr fun f _ => ?_).symm
    cases f.category <;> rfl

/-- The full report holds findings of both categories here, and the selection those of one. -/
theorem check_selected_reverseNull :
    let graphs := [Graph.assignedThenRead, Graph.readThenTested]
    [Category.reverseNull] ≠ [] ∧
      (∃ x ∈ ({} : CheckOptions).check graphs, x.category = .forwardNull) ∧
      (∃ x ∈ ({} : CheckOptions).check graphs, x.category = .reverseNull) ∧
      ({ categories := [.reverseNull] } : CheckOptions).check graphs =
        (({} : CheckOptions).check graphs).filter (·.category ∈ [Category.reverseNull]) ∧
      ({} : CheckOptions).check graphs =
        ({ categories := Category.all } : CheckOptions).check graphs := by
  intro graphs
  obtain ⟨site, hsite⟩ := MustDeref.exists_finding_readThenTested
    (({} : CheckOptions).summaries graphs)
  have hmem : Graph.readThenTested ∈ graphs := List.mem_cons_of_mem _ List.mem_cons_self
  obtain ⟨x, hx, hdefect⟩ := exists_mem_check (o := {}) hmem
    (mem_findingsIn.mpr (Or.inr ⟨rfl, hsite⟩))
  have hcs : [Category.reverseNull] ≠ [] := List.cons_ne_nil _ _
  exact ⟨hcs, exists_mem_check_assignedThenRead rfl List.mem_cons_self,
    ⟨x, hx, congrArg Defect.category hdefect⟩, check_selected {} graphs hcs⟩

end CheckOptions

end NullFlow
