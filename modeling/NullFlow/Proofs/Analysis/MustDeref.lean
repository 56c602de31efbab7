import NullFlow.Analysis.MustDeref
import NullFlow.Proofs.Analysis.Dereference
import NullFlow.Proofs.Analysis.FixedPoint

/-!
# Certain dereferences, variable by variable

Which variables a state holds is decided for each variable on its own: a dereference puts it in, an
assignment takes it out, and a join keeps it if both sides have it (`DerefState.mem_after`,
`DerefState.mem_join`). After some facts a variable is therefore in the state exactly if the last
fact that concerns it dereferences it (`Fact.LastDereferences`). The sites that a state keeps are of
no account here; in `MustDeref.order` a state with more variables is below one with fewer.
-/

namespace NullFlow

/-! ## The last fact that concerns a variable -/

namespace Fact

variable {known : Summaries} {v : String}

/-- **The last fact that concerns a variable dereferences it**, and there is such a fact. -/
def LastDereferences (known : Summaries) (v : String) (fs : List Fact) : Prop :=
  ∃ before f after, fs = before ++ f :: after ∧ f.Dereferences known v ∧
    ∀ c ∈ after, ¬c.Concerns known v

theorem not_lastDereferences_nil : ¬LastDereferences known v [] := by
  rintro ⟨before, f, after, h, -⟩
  cases before <;> cases h

/-- One fact more decides, or it does not assign to the variable and leaves the decision to the
facts before. -/
theorem lastDereferences_snoc {fs : List Fact} {f : Fact} :
    LastDereferences known v (fs ++ [f]) ↔
      f.Dereferences known v ∨ ¬f.Assigns v ∧ LastDereferences known v fs := by
  constructor
  · rintro ⟨before, c, after, heq, hc, hafter⟩
    -- the dereference is the last fact, or it is one of those before
    rcases List.eq_nil_or_concat after with rfl | ⟨after, d, rfl⟩
    · obtain ⟨-, hd⟩ := List.append_inj' heq rfl
      cases hd
      exact Or.inl hc
    · have heq' : fs ++ [f] = (before ++ c :: after) ++ [d] := by simpa using heq
      obtain ⟨rfl, hd⟩ := List.append_inj' heq' rfl
      cases hd
      have hf : ¬f.Concerns known v := hafter f (by simp)
      exact Or.inr ⟨fun h => hf (Or.inr h), before, c, after, rfl, hc,
        fun e he => hafter e (by simp [he])⟩
  · intro h
    by_cases hf : f.Dereferences known v
    · exact ⟨fs, f, [], rfl, hf, fun _ h => (List.not_mem_nil h).elim⟩
    · obtain ⟨hassign, before, c, after, rfl, hc, hafter⟩ := h.resolve_left hf
      refine ⟨before, c, after ++ [f], by simp, hc, fun e he => ?_⟩
      rcases List.mem_append.mp he with he | he
      · exact hafter e he
      · rw [List.mem_singleton.mp he]
        exact fun h => h.elim hf hassign

end Fact

namespace DerefState

variable {known : Summaries} {s t : DerefState} {v : String}

theorem getElem?_join (s t : DerefState) (v : String) :
    (s.join t)[v]? = (s[v]?).bind fun a => (t[v]?).map a.earliest := by
  rw [join, Std.ExtTreeMap.getElem?_filterMap']

theorem mem_join : v ∈ s.join t ↔ v ∈ s ∧ v ∈ t := by
  simp only [Std.ExtTreeMap.mem_iff_isSome_getElem?, getElem?_join]
  cases s[v]? <;> cases t[v]? <;> simp

theorem mem_foldl_record {ds : List Dereference} :
    v ∈ ds.foldl record s ↔ (∃ d ∈ ds, d.var = v) ∨ v ∈ s := by
  induction ds generalizing s with
  | nil => simp
  | cons d ds ih =>
    rw [List.foldl_cons, ih, record, Std.ExtTreeMap.mem_insertIfNew,
      Std.LawfulEqCmp.compare_eq_iff_eq]
    simp only [List.mem_cons, exists_eq_or_imp, or_assoc, or_left_comm]

/-- **A fact, variable by variable**: a dereference puts a variable in, an assignment takes it
out. -/
theorem mem_after {f : Fact} :
    v ∈ s.after known f ↔ f.Dereferences known v ∨ ¬f.Assigns v ∧ v ∈ s := by
  cases f with
  | assign w value line =>
    have hw : (Fact.assign w value line).Assigns v ↔ w = v :=
      ⟨fun | .assign _ _ => rfl, fun h => h ▸ .assign value line⟩
    have hd : ¬(Fact.assign w value line).Dereferences known v := by rintro ⟨⟩
    rw [after, Std.ExtTreeMap.mem_erase]
    simp only [ne_eq, Std.LawfulEqCmp.compare_eq_iff_eq, hw, hd, false_or]
  | deref w kind line =>
    have hw : ¬(Fact.deref w kind line).Assigns v := by rintro ⟨⟩
    show v ∈ ((Fact.deref w kind line).dereferences known).foldl record s ↔ _
    rw [mem_foldl_record, ← Fact.dereferences_iff_exists]
    simp only [hw, not_false_eq_true, true_and]
  | call function args line =>
    have hw : ¬(Fact.call function args line).Assigns v := by rintro ⟨⟩
    show v ∈ ((Fact.call function args line).dereferences known).foldl record s ↔ _
    rw [mem_foldl_record, ← Fact.dereferences_iff_exists]
    simp only [hw, not_false_eq_true, true_and]

/-- What is in a state after several facts was left dereferenced by them and the facts before, if
this was so before them. -/
theorem lastDereferences_of_mem_afterAll {before fs : List Fact}
    (h : v ∈ s → Fact.LastDereferences known v before) (hv : v ∈ s.afterAll known fs) :
    Fact.LastDereferences known v (before ++ fs) := by
  induction fs generalizing s before with
  | nil =>
    rw [List.append_nil]
    exact h hv
  | cons f fs ih =>
    rw [List.append_cons]
    refine ih (fun hf => ?_) hv
    rw [Fact.lastDereferences_snoc]
    exact (mem_after.mp hf).imp_right fun ⟨hassign, hs⟩ => ⟨hassign, h hs⟩

/-- What several facts leave dereferenced is in the state after them, if this was so before them. -/
theorem mem_afterAll_of_imp {before fs : List Fact}
    (h : Fact.LastDereferences known v before → v ∈ s)
    (hv : Fact.LastDereferences known v (before ++ fs)) : v ∈ s.afterAll known fs := by
  induction fs generalizing s before with
  | nil =>
    rw [List.append_nil] at hv
    exact h hv
  | cons f fs ih =>
    rw [List.append_cons] at hv
    refine ih (fun hf => ?_) hv
    rw [Fact.lastDereferences_snoc] at hf
    exact mem_after.mpr (hf.imp_right fun ⟨hassign, hlast⟩ => ⟨hassign, h hlast⟩)

/-- **A state after several facts** holds what they and the facts before leave dereferenced. -/
theorem mem_afterAll {before fs : List Fact}
    (h : v ∈ s ↔ Fact.LastDereferences known v before) :
    v ∈ s.afterAll known fs ↔ Fact.LastDereferences known v (before ++ fs) :=
  ⟨lastDereferences_of_mem_afterAll h.mp, mem_afterAll_of_imp h.mpr⟩

/-! ## The order of the analysis -/

/-- The rank of what is kept of a state, as a sum over the sites of the whole state. -/
theorem rank_filterMap (s : DerefState) (F : String → DerefSite → Option DerefSite) :
    rank (s.filterMap F) = total (s.toList.map fun p => (F p.1 p.2).elim 0 (·.line + 1)) := by
  have htotal : ∀ l : List (String × DerefSite),
      total ((l.filterMap fun p => (F p.1 p.2).map (p.1, ·)).map fun p => p.2.line + 1)
        = total (l.map fun p => (F p.1 p.2).elim 0 (·.line + 1)) := by
    intro l
    induction l with
    | nil => rfl
    | cons p l ih => cases hp : F p.1 p.2 <;> simp [hp, ih]
  unfold rank
  rw [Std.ExtTreeMap.toList_filterMap, htotal]

/-- The rank of a join, as a sum over the sites of its left side. -/
theorem rank_join (s t : DerefState) : (s.join t).rank =
    total (s.toList.map fun p => ((t[p.1]?).map p.2.earliest).elim 0 (·.line + 1)) :=
  rank_filterMap s fun v a => (t[v]?).map a.earliest

/-- **A join that drops a variable or moves its site lowers the rank.** -/
theorem rank_join_lt_of_ne {a : DerefSite} (hs : s[v]? = some a)
    (h : (t[v]?).map a.earliest ≠ some a) : (s.join t).rank < s.rank := by
  rw [rank_join]
  unfold rank
  refine total_map_lt (fun p _ => ?_) (Std.ExtTreeMap.mem_toList_iff_getElem?_eq_some.mpr hs) ?_
  · cases t[p.1]? with
    | none => exact Nat.zero_le _
    | some b =>
      simp only [Option.map_some, Option.elim_some, DerefSite.earliest]
      split <;> omega
  · cases hb : t[v]? with
    | none => exact Nat.zero_lt_succ a.line
    | some b =>
      simp only [hb, Option.map_some, DerefSite.earliest, ne_eq, Option.some.injEq,
        ite_eq_left_iff, Classical.not_imp] at h
      simp only [Option.map_some, Option.elim_some, DerefSite.earliest, if_neg h.1]
      omega

/-- A join that drops a variable lowers the rank. -/
theorem rank_join_lt (hs : v ∈ s) (ht : v ∉ t) : (s.join t).rank < s.rank := by
  obtain ⟨a, ha⟩ := Option.isSome_iff_exists.mp (Std.ExtTreeMap.mem_iff_isSome_getElem?.mp hs)
  refine rank_join_lt_of_ne ha ?_
  rw [Std.ExtTreeMap.getElem?_eq_none ht]
  exact nofun

end DerefState

/-- **The order of the analysis of certain dereferences** in a graph: a state with more variables is
below one with fewer. -/
def MustDeref.order (known : Summaries) (g : Graph) : (MustDeref.analysis known g).Order g where
  Fits _ := True
  Below s t := ∀ v : String, v ∈ t → v ∈ s
  refl _ _ h := h
  trans h₁ h₂ v h := h₁ v (h₂ v h)
  below_join_left s t v h := (DerefState.mem_join.mp h).1
  below_join_right s t v h := (DerefState.mem_join.mp h).2
  below_of_rank_le {s t} _ _ hle v hs := by
    refine Classical.byContradiction fun ht => ?_
    have hlt : (s.join t).rank < s.rank := DerefState.rank_join_lt hs ht
    exact Nat.lt_irrefl _ (Nat.lt_of_lt_of_le hlt hle)
  fits_entry := trivial
  fits_join _ _ := trivial
  fits_flow _ _ _ := trivial
  flow_mono {block e s s' t} h hr := by
    cases hr
    refine ⟨_, rfl, ?_⟩
    show ∀ v : String, v ∈ t.afterAll known block.facts → v ∈ s.afterAll known block.facts
    generalize block.facts = fs
    induction fs generalizing s t with
    | nil => exact h
    | cons f fs ih =>
      refine ih fun v hv => ?_
      rw [DerefState.mem_after] at hv ⊢
      exact hv.imp_right fun ⟨hf, hv⟩ => ⟨hf, h v hv⟩

end NullFlow
