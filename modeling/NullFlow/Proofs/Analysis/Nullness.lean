import NullFlow.Analysis.Nullness
import NullFlow.Proofs.Analysis.Dereference
import NullFlow.Proofs.Analysis.FixedPoint
import NullFlow.Proofs.Values

/-!
# The forward analysis, variable by variable

What a fact, a condition and a join do to the state is said for one variable at a time
(`NullState.getElem?_after`, `NullState.assume_eq_some_iff`, `NullState.getElem?_join`): a fact sets
a variable it concerns to a value that does not depend on the old one and leaves all others alone,
and so does a condition. That is why the analysis is monotone in the order of `Nullness.Below`, in
which joins go up, and why `ForwardNull.order` is an order of the analysis in any graph.
-/

namespace NullFlow

/-! ## Sets of variables -/

namespace Vars

/-- Whether any variable of a set passes a test. -/
theorem any_eq_true {vs : Vars} {p : String → Bool} :
    vs.any p = true ↔ ∃ v ∈ vs, p v = true := by
  -- the loop that looks through a set, on the list of its elements
  have hloop : ∀ l : List String, (Id.run do
      for a in l do
        if p a then return true
      return false) = l.any p := by
    intro l
    induction l with
    | nil => rfl
    | cons a l ih =>
      simp only [List.forIn_cons, List.any_cons]
      by_cases h : p a = true
      · simp [h]
      · simpa [h] using ih
  have hany : vs.any p = vs.toList.any p := by
    rw [← hloop, ← Std.ExtTreeSet.forIn_eq_forIn_toList]
    rcases vs with ⟨⟨⟨m⟩⟩⟩
    exact Quotient.inductionOn m fun _ => rfl
  rw [hany, List.any_eq_true]
  simp only [Std.ExtTreeSet.mem_toList]

/-- Giving all variables of a set one value. -/
theorem getElem?_foldl_insert {β : Type} (vs : Vars) (x : β) (m : Std.ExtTreeMap String β)
    (v : String) :
    (vs.foldl (fun m w => m.insert w x) m)[v]? = if v ∈ vs then some x else m[v]? := by
  have hlist : ∀ (l : List String) (m : Std.ExtTreeMap String β),
      (l.foldl (fun m w => m.insert w x) m)[v]? = if v ∈ l then some x else m[v]? := by
    intro l
    induction l with
    | nil => intro m; simp
    | cons w l ih =>
      intro m
      rw [List.foldl_cons, ih, Std.ExtTreeMap.getElem?_insert]
      by_cases hl : v ∈ l
      · simp [hl]
      · by_cases hw : w = v
        · simp [hw]
        · simp [hl, hw, Ne.symm hw]
  rw [Std.ExtTreeSet.foldl_eq_foldl_toList, hlist]
  simp only [Std.ExtTreeSet.mem_toList]

end Vars

/-! ## The order of values -/

namespace Nullness

/-- **One value says at least as much as another**: the order is `nonNull`, nothing known,
`maybeNull` and, beside the first two, `null`, `maybeNull`; of two origins the one on the earlier
line says less. -/
def Below : Option Nullness → Option Nullness → Prop
  | some .nonNull, some .nonNull => True
  | some .nonNull, none => True
  | some .nonNull, some (.maybeNull _) => True
  | none, none => True
  | none, some (.maybeNull _) => True
  | some (.null a), some (.null b) => b.line ≤ a.line
  | some (.null a), some (.maybeNull b) => b.line ≤ a.line
  | some (.maybeNull a), some (.maybeNull b) => b.line ≤ a.line
  | _, _ => False

theorem Below.refl (x : Option Nullness) : Below x x := by
  rcases x with _ | _ | a | a
  · trivial
  · trivial
  · exact Nat.le_refl _
  · exact Nat.le_refl _

theorem Below.trans {x y z : Option Nullness} (hxy : Below x y) (hyz : Below y z) :
    Below x z := by
  rcases x with _ | _ | a | a <;> rcases y with _ | _ | b | b <;> rcases z with _ | _ | c | c <;>
    simp only [Below] at hxy hyz ⊢ <;> omega

theorem line_earliest (a b : Origin) : (a.earliest b).line = min a.line b.line := by
  unfold Origin.earliest
  split <;> omega

theorem below_join_left (x y : Option Nullness) : Below x (join x y) := by
  have hleft (a b : Origin) : (a.earliest b).line ≤ a.line :=
    line_earliest a b ▸ Nat.min_le_left ..
  rcases x with _ | _ | a | a <;> rcases y with _ | _ | b | b <;>
    simp [join, Below, origin?, hleft]

theorem below_join_right (x y : Option Nullness) : Below y (join x y) := by
  have hright (a b : Origin) : (a.earliest b).line ≤ b.line :=
    line_earliest a b ▸ Nat.min_le_right ..
  rcases x with _ | _ | a | a <;> rcases y with _ | _ | b | b <;>
    simp [join, Below, origin?, hright]

/-- A join has the origin of one of its sides. -/
theorem origin?_join {x y : Option Nullness} {o : Origin}
    (h : (join x y).bind (·.origin?) = some o) :
    x.bind (·.origin?) = some o ∨ y.bind (·.origin?) = some o := by
  rcases x with _ | _ | a | a <;> rcases y with _ | _ | b | b <;>
    simp only [join, origin?, Origin.earliest, Option.bind_some, Option.bind_none, Option.map_none,
      Option.map_some, reduceCtorEq, false_or, or_false] at h ⊢ <;>
    first
    | exact h
    | (split at h <;> simp_all)

/-- The line of the origin, if there is one, is at most the last. -/
def Fits (last : Nat) (x : Option Nullness) : Prop :=
  ∀ o, x.bind (·.origin?) = some o → o.line ≤ last

theorem Fits.join {last : Nat} {x y : Option Nullness} (hx : Fits last x) (hy : Fits last y) :
    Fits last (join x y) :=
  fun o h => (origin?_join h).elim (hx o) (hy o)

/-- Joining never raises the rank. -/
theorem rank_join_le {last : Nat} {x y : Option Nullness} (hy : Fits last y) :
    rank last (join x y) ≤ rank last x := by
  rcases x with _ | _ | a | a <;> rcases y with _ | _ | b | b <;>
    simp only [Fits, origin?, Option.bind_some, Option.some.injEq, forall_eq'] at hy <;>
    simp only [join, rank, origin?, line_earliest, Option.map_some, Option.map_none] <;>
    omega

/-- **A join that tells something new lowers the rank.** -/
theorem rank_join_lt {last : Nat} {x y : Option Nullness} (hy : Fits last y) (h : ¬Below y x) :
    rank last (join x y) < rank last x := by
  rcases x with _ | _ | a | a <;> rcases y with _ | _ | b | b <;>
    simp only [Fits, origin?, Option.bind_some, Option.some.injEq, forall_eq'] at hy <;>
    simp only [Below, not_true_eq_false] at h <;>
    simp only [join, rank, origin?, line_earliest, Option.map_some, Option.map_none] <;>
    omega

end Nullness

/-! ## What a graph mentions -/

namespace Graph

variable {g : Graph} {b : BlockId} {block : Block}

theorem mem_blockList (hb : g.blocks[b]? = some block) : block ∈ g.blockList :=
  mem_values.mpr ⟨b, hb⟩

theorem exists_of_mem_blockList (h : block ∈ g.blockList) :
    ∃ b : BlockId, g.blocks[b]? = some block := mem_values.mp h

/-- The variables of a block are variables of the graph. -/
theorem mem_vars (hb : g.blocks[b]? = some block) {v : String} (hv : v ∈ blockVars block) :
    v ∈ g.vars := by
  unfold vars
  rw [Std.ExtTreeSet.mem_ofList, List.contains_iff_mem]
  exact List.mem_flatMap.mpr ⟨block, mem_blockList hb, hv⟩

/-- No line of a block comes after the last line of the graph. -/
theorem le_lastLine (hb : g.blocks[b]? = some block) {n : Nat} (hn : n ∈ blockLines block) :
    n ≤ g.lastLine := by
  have hmax : ∀ (l : List Nat) (m : Nat), m ≤ l.foldl max m ∧ ∀ k ∈ l, k ≤ l.foldl max m := by
    intro l
    induction l with
    | nil => simp
    | cons a l ih =>
      intro m
      obtain ⟨h₁, h₂⟩ := ih (max m a)
      refine ⟨Nat.le_trans (Nat.le_max_left m a) h₁, fun k hk => ?_⟩
      rcases List.mem_cons.mp hk with rfl | hk
      · exact Nat.le_trans (Nat.le_max_right m k) h₁
      · exact h₂ k hk
  exact (hmax _ 0).2 n (List.mem_flatMap.mpr ⟨block, mem_blockList hb, hn⟩)

end Graph

/-! ## What happens to one variable -/

/-- **What an assignment tells** about the variable assigned to. -/
def AssignedValue.nullness (line : Nat) : AssignedValue → Option Nullness
  | .null => some (.null ⟨line, .assignZero⟩)
  | .nonNull => some .nonNull
  | .unknown => none

/-- **What a fact makes of the value of a variable.** -/
def Fact.effect (known : Summaries) (v : String) (f : Fact) (old : Option Nullness) :
    Option Nullness :=
  match f with
  | .assign w value line => if w = v then value.nullness line else old
  | f => if (f.dereferences known).any (·.var == v) then some .nonNull else old

namespace Fact

variable {known : Summaries} {v : String} {f : Fact} {old : Option Nullness}

theorem effect_of_dereferences (h : f.Dereferences known v) :
    f.effect known v old = some .nonNull := by
  obtain ⟨d, hd, rfl⟩ := dereferences_iff_exists.mp h
  have hany : (f.dereferences known).any (·.var == d.var) = true :=
    List.any_eq_true.mpr ⟨d, hd, beq_self_eq_true d.var⟩
  cases h with
  | deref kind line => exact if_pos hany
  | call ha hk => exact if_pos hany

theorem effect_of_not_concerns (h : ¬f.Concerns known v) : f.effect known v old = old := by
  have hany : ¬(f.dereferences known).any (·.var == v) = true := by
    intro hany
    obtain ⟨d, hd, hv⟩ := List.any_eq_true.mp hany
    exact h (Or.inl (dereferences_iff_exists.mpr ⟨d, hd, beq_iff_eq.mp hv⟩))
  cases f with
  | assign w value line =>
    refine if_neg fun hw => h (Or.inr ?_)
    rw [hw]
    exact .assign value line
  | deref w kind line => exact if_neg hany
  | call function args line => exact if_neg hany

/-- A fact makes the same of two values, or it leaves both as they are. -/
theorem effect_mono {x y : Option Nullness} (h : Nullness.Below x y) :
    Nullness.Below (f.effect known v x) (f.effect known v y) := by
  unfold effect
  split
  · split
    · exact Nullness.Below.refl _
    · exact h
  · split
    · exact Nullness.Below.refl _
    · exact h

/-- **Where an origin comes from**: it was there before the fact, which does not concern the
variable, or the fact assigns null to the variable. -/
theorem origin?_effect {o : Origin} (h : (f.effect known v old).bind (·.origin?) = some o) :
    (∃ line, f = .assign v .null line ∧ o = ⟨line, .assignZero⟩) ∨
      ¬f.Concerns known v ∧ old.bind (·.origin?) = some o := by
  by_cases hc : f.Concerns known v
  · refine Or.inl ?_
    rcases hc with hd | ⟨value, line⟩
    · rw [effect_of_dereferences hd] at h
      cases h
    · simp only [effect, if_true] at h
      cases value with
      | null =>
        cases h
        exact ⟨line, rfl, rfl⟩
      | nonNull => cases h
      | unknown => cases h
  · rw [effect_of_not_concerns hc] at h
    exact Or.inr ⟨hc, h⟩

end Fact

namespace NullState

variable {known : Summaries} {s t : NullState} {v : String}

theorem getElem?_join (s t : NullState) (v : String) :
    (s.join t)[v]? = Nullness.join s[v]? t[v]? := by
  unfold join
  rw [Std.ExtTreeMap.getElem?_union, Std.ExtTreeMap.getElem?_filterMap',
    Std.ExtTreeMap.getElem?_filterMap']
  cases hs : s[v]? with
  | none =>
    have hv : v ∉ s := fun h => by
      rw [Std.ExtTreeMap.mem_iff_isSome_getElem?, hs] at h
      cases h
    cases ht : t[v]? with
    | none => rfl
    | some y => simp [hv]
  | some x =>
    have hv : v ∈ s := by
      rw [Std.ExtTreeMap.mem_iff_isSome_getElem?, hs]
      rfl
    cases ht : t[v]? with
    | none => simp
    | some y => simp [hv]

theorem getElem?_foldl_dereference (ds : List Dereference) (s : NullState) (v : String) :
    (ds.foldl (fun s d => s.insert d.var .nonNull) s)[v]?
      = if ds.any (·.var == v) then some .nonNull else s[v]? := by
  induction ds generalizing s with
  | nil => rfl
  | cons d ds ih =>
    rw [List.foldl_cons, ih, Std.ExtTreeMap.getElem?_insert, List.any_cons]
    by_cases hds : ds.any (·.var == v) = true
    · simp [hds]
    · by_cases hd : d.var = v
      · simp [hd]
      · simp [hds, hd]

/-- **A fact, variable by variable.** -/
theorem getElem?_after (s : NullState) (f : Fact) (v : String) :
    (s.after known f)[v]? = f.effect known v s[v]? := by
  cases f with
  | assign w value line =>
    by_cases hw : w = v
    · cases value <;> simp [after, Fact.effect, AssignedValue.nullness, hw]
    · cases value <;>
        simp [after, Fact.effect, hw, Std.ExtTreeMap.getElem?_insert, Std.ExtTreeMap.getElem?_erase]
  | deref w kind line => exact getElem?_foldl_dereference _ s v
  | call function args line => exact getElem?_foldl_dereference _ s v

/-- **An outcome of a condition, variable by variable.** It is impossible if it makes a variable
null that is known not to be, or one not null that is known or made to be. -/
theorem assume_eq_some_iff {line : Nat} {nulls nonNulls : Vars} :
    s.assume line nulls nonNulls = some t ↔
      (∀ v ∈ nulls, s[v]? ≠ some .nonNull) ∧
      (∀ v ∈ nonNulls, v ∉ nulls ∧ ∀ o, s[v]? ≠ some (.null o)) ∧
      ∀ v, t[v]? = if v ∈ nonNulls then some .nonNull
        else if v ∈ nulls then some (.null ⟨line, .nullCheck⟩) else s[v]? := by
  have hnulls : (nulls.any fun v => s[v]? == some .nonNull) = true
      ↔ ¬∀ v ∈ nulls, s[v]? ≠ some .nonNull := by
    rw [Vars.any_eq_true]
    simp only [beq_iff_eq, ne_eq, Classical.not_forall, Classical.not_not, exists_prop]
  -- the outcome is applied in two steps: first what it makes null, then what it makes non-null
  let u : NullState := nulls.foldl (fun s v => s.insert v (.null ⟨line, .nullCheck⟩)) s
  have hu : ∀ v, u[v]? = if v ∈ nulls then some (.null ⟨line, .nullCheck⟩) else s[v]? :=
    Vars.getElem?_foldl_insert nulls _ s
  have hnonNulls : (nonNulls.any fun v => u[v]?.any (·.isNull)) = true
      ↔ ¬∀ v ∈ nonNulls, v ∉ nulls ∧ ∀ o, s[v]? ≠ some (.null o) := by
    have hone : ∀ v, u[v]?.any (·.isNull) = true ↔
        ¬(v ∉ nulls ∧ ∀ o, s[v]? ≠ some (.null o)) := by
      intro v
      rw [hu]
      by_cases hv : v ∈ nulls
      · simp [hv, Nullness.isNull]
      · rcases s[v]? with _ | _ | _ | _ <;> simp [hv, Nullness.isNull]
    rw [Vars.any_eq_true]
    simp only [hone, Classical.not_forall, exists_prop]
  have hlast : ∀ v, (nonNulls.foldl (fun s v => s.insert v .nonNull) u)[v]?
      = if v ∈ nonNulls then some .nonNull
        else if v ∈ nulls then some (.null ⟨line, .nullCheck⟩) else s[v]? := by
    intro v
    rw [Vars.getElem?_foldl_insert, hu]
  unfold assume
  by_cases h₁ : ∀ v ∈ nulls, s[v]? ≠ some .nonNull
  · rw [if_neg (fun h => hnulls.mp h h₁)]
    show (if (nonNulls.any fun v => u[v]?.any (·.isNull)) = true
      then none else some (nonNulls.foldl (fun s v => s.insert v .nonNull) u)) = some t ↔ _
    by_cases h₂ : ∀ v ∈ nonNulls, v ∉ nulls ∧ ∀ o, s[v]? ≠ some (.null o)
    · rw [if_neg (fun h => hnonNulls.mp h h₂), Option.some.injEq]
      constructor
      · rintro rfl
        exact ⟨h₁, h₂, hlast⟩
      · rintro ⟨-, -, h⟩
        exact Std.ExtTreeMap.ext_getElem? fun v => (hlast v).trans (h v).symm
    · rw [if_pos (hnonNulls.mpr h₂)]
      exact ⟨fun h => (nomatch h), fun h => absurd h.2.1 h₂⟩
  · rw [if_pos (hnulls.mpr h₁)]
    exact ⟨fun h => (nomatch h), fun h => absurd h.1 h₁⟩

/-- An outcome that makes no variable what it is known not to be is possible. -/
theorem exists_assume (line : Nat) {nulls nonNulls : Vars}
    (hnulls : ∀ v ∈ nulls, s[v]? ≠ some .nonNull)
    (hnonNulls : ∀ v ∈ nonNulls, v ∉ nulls ∧ ∀ o, s[v]? ≠ some (.null o)) :
    ∃ t, s.assume line nulls nonNulls = some t := by
  refine ⟨nonNulls.foldl (fun s v => s.insert v .nonNull)
    (nulls.foldl (fun s v => s.insert v (.null ⟨line, .nullCheck⟩)) s),
    assume_eq_some_iff.mpr ⟨hnulls, hnonNulls, fun v => ?_⟩⟩
  rw [Vars.getElem?_foldl_insert, Vars.getElem?_foldl_insert]

/-! ## The order of states -/

/-- **The order of states**, variable by variable. -/
def Below (s t : NullState) : Prop := ∀ v : String, Nullness.Below s[v]? t[v]?

/-- **The states that can arise in a graph**: only its variables have values, and no origin is on a
line after the last. -/
def Fits (g : Graph) (s : NullState) : Prop :=
  ∀ v : String, Nullness.Fits g.lastLine s[v]? ∧ (v ∉ g.vars → s[v]? = none)

theorem Below.after {f : Fact} (h : s.Below t) : (s.after known f).Below (t.after known f) := by
  intro v
  rw [getElem?_after, getElem?_after]
  exact Fact.effect_mono (h v)

theorem Below.afterAll {fs : List Fact} (h : s.Below t) :
    (s.afterAll known fs).Below (t.afterAll known fs) := by
  induction fs generalizing s t with
  | nil => exact h
  | cons f fs ih => exact ih h.after

/-- **What is impossible when little is known is impossible when more is.** -/
theorem Below.assume {line : Nat} {nulls nonNulls : Vars} {s' : NullState} (h : s.Below t)
    (hs : s.assume line nulls nonNulls = some s') :
    ∃ t', t.assume line nulls nonNulls = some t' ∧ s'.Below t' := by
  obtain ⟨h₁, h₂, hs'⟩ := assume_eq_some_iff.mp hs
  obtain ⟨t', ht⟩ : ∃ t', t.assume line nulls nonNulls = some t' := by
    refine exists_assume line (fun v hv ht => ?_) fun v hv => ⟨(h₂ v hv).1, fun o ht => ?_⟩
    · -- a value above which `nonNull` stands is `nonNull` itself
      have hv' := h v
      rw [ht] at hv'
      rcases hx : s[v]? with _ | _ | a | a <;> rw [hx] at hv'
      · exact hv'
      · exact h₁ v hv hx
      · exact hv'
      · exact hv'
    · -- and one above which `null` stands is `null`
      have hv' := h v
      rw [ht] at hv'
      rcases hx : s[v]? with _ | _ | a | a <;> rw [hx] at hv'
      · exact hv'
      · exact hv'
      · exact (h₂ v hv).2 a hx
      · exact hv'
  obtain ⟨-, -, ht'⟩ := assume_eq_some_iff.mp ht
  refine ⟨t', ht, fun v => ?_⟩
  rw [hs', ht']
  split
  · trivial
  · split
    · exact Nat.le_refl _
    · exact h v

/-- **A join that tells something new lowers the rank** of the state. -/
theorem below_of_rank_le {g : Graph} (hs : s.Fits g) (ht : t.Fits g)
    (h : s.rank g.vars.toList g.lastLine ≤ (s.join t).rank g.vars.toList g.lastLine) :
    t.Below s := by
  intro v
  refine Classical.byContradiction fun hnot => ?_
  -- both states know nothing about a variable that the graph does not mention
  have hv : v ∈ g.vars := Classical.byContradiction fun hv => hnot <| by
    rw [(hs v).2 hv, (ht v).2 hv]
    trivial
  have hlt : (s.join t).rank g.vars.toList g.lastLine < s.rank g.vars.toList g.lastLine := by
    refine total_map_lt (fun w _ => ?_) (Std.ExtTreeSet.mem_toList.mpr hv) ?_
    · rw [getElem?_join]
      exact Nullness.rank_join_le (ht w).1
    · rw [getElem?_join]
      exact Nullness.rank_join_lt (ht v).1 hnot
  omega

theorem Fits.join {g : Graph} (hs : s.Fits g) (ht : t.Fits g) : (s.join t).Fits g := by
  intro v
  rw [getElem?_join]
  refine ⟨(hs v).1.join (ht v).1, fun hv => ?_⟩
  rw [(hs v).2 hv, (ht v).2 hv]
  rfl

/-- A fact of the graph leads from a state that fits to one that does. -/
theorem Fits.after {g : Graph} {b : BlockId} {block : Block} (hb : g.blocks[b]? = some block)
    {f : Fact} (hf : f ∈ block.facts) (hs : s.Fits g) : (s.after known f).Fits g := by
  intro v
  rw [getElem?_after]
  constructor
  · intro o ho
    rcases Fact.origin?_effect ho with ⟨line, rfl, rfl⟩ | ⟨_, hold⟩
    · exact Graph.le_lastLine hb
        (List.mem_append_left _ (List.mem_map.mpr ⟨.assign v .null line, hf, rfl⟩))
    · exact (hs v).1 o hold
  · intro hv
    have hvar : v ∉ f.vars := fun h =>
      hv (Graph.mem_vars hb (List.mem_append_left _ (List.mem_flatMap.mpr ⟨f, hf, h⟩)))
    rw [Fact.effect_of_not_concerns fun h => hvar (h.elim (·.mem_vars) (·.mem_vars))]
    exact (hs v).2 hv

theorem Fits.afterAll {g : Graph} {b : BlockId} {block : Block} (hb : g.blocks[b]? = some block)
    {fs : List Fact} (hfs : ∀ f ∈ fs, f ∈ block.facts) (hs : s.Fits g) :
    (s.afterAll known fs).Fits g := by
  induction fs generalizing s with
  | nil => exact hs
  | cons f fs ih =>
    exact ih (fun d hd => hfs d (List.mem_cons_of_mem f hd))
      (hs.after hb (hfs f List.mem_cons_self))

end NullState

/-! ## The order of the analysis -/

theorem NullTest.mem_testedVars_of_nullWhen {t : NullTest} {outcome : Bool} {v : String}
    (h : v ∈ t.nullWhen outcome) : v ∈ t.testedVars := by
  unfold testedVars
  simp only [Std.ExtTreeSet.mem_union_iff]
  cases outcome with
  | true => exact Or.inl (Or.inl (Or.inl h))
  | false => exact Or.inl (Or.inr h)

theorem NullTest.mem_testedVars_of_nonNullWhen {t : NullTest} {outcome : Bool} {v : String}
    (h : v ∈ t.nonNullWhen outcome) : v ∈ t.testedVars := by
  unfold testedVars
  simp only [Std.ExtTreeSet.mem_union_iff]
  cases outcome with
  | true => exact Or.inl (Or.inl (Or.inr h))
  | false => exact Or.inr h

namespace ForwardNull

variable {known : Summaries} {g : Graph} {block : Block} {e : Edge} {s t : NullState}

/-- **An edge out of a block** tells nothing, or it tells the outcome of the condition at the end of
the block. -/
theorem refine_cases (block : Block) (e : Edge) :
    ((∀ text line test, block.terminator = .branch text line test → e.kind.outcome? = none) ∧
      ∀ s, refine block e s = some s) ∨
    ∃ text line test outcome, block.terminator = .branch text line test ∧
      e.kind.outcome? = some outcome ∧
      ∀ s, refine block e s = s.assume line (test.nullWhen outcome) (test.nonNullWhen outcome) := by
  unfold refine
  split
  · next text line test outcome hterm hkind =>
    exact Or.inr ⟨text, line, test, outcome, hterm, hkind, fun _ => rfl⟩
  · next hnone =>
    refine Or.inl ⟨fun text line test hterm => ?_, fun _ => rfl⟩
    exact Option.eq_none_iff_forall_ne_some.mpr fun outcome hkind =>
      hnone text line test outcome hterm hkind

/-- A variable that the condition of a block tests is a variable of the graph. -/
theorem mem_vars_of_tested {b : BlockId} {text : String} {line : Nat} {test : NullTest}
    {v : String} (hb : g.blocks[b]? = some block)
    (hterm : block.terminator = .branch text line test) (hv : v ∈ test.testedVars) :
    v ∈ g.vars := by
  refine Graph.mem_vars hb (List.mem_append_right _ ?_)
  rw [hterm]
  exact Std.ExtTreeSet.mem_toList.mpr hv

/-- An edge leads from a state that fits to one that does. -/
theorem fits_refine {b : BlockId} (hb : g.blocks[b]? = some block) (hs : s.Fits g)
    (hr : refine block e s = some t) : t.Fits g := by
  rcases refine_cases block e with ⟨-, hid⟩ | ⟨text, line, test, outcome, hterm, _, hassume⟩
  · rw [hid] at hr
    cases hr
    exact hs
  · rw [hassume, NullState.assume_eq_some_iff] at hr
    obtain ⟨-, -, ht⟩ := hr
    intro v
    rw [ht]
    split
    · next hv =>
      exact ⟨fun o ho => (nomatch ho), fun hn => absurd
        (mem_vars_of_tested hb hterm (NullTest.mem_testedVars_of_nonNullWhen hv)) hn⟩
    · split
      · next hv =>
        refine ⟨fun o ho => ?_, fun hn => absurd
          (mem_vars_of_tested hb hterm (NullTest.mem_testedVars_of_nullWhen hv)) hn⟩
        cases ho
        refine Graph.le_lastLine hb (List.mem_append_right _ ?_)
        rw [hterm]
        exact List.mem_singleton_self line
      · exact hs v

/-- **The order of the forward analysis** in a graph. -/
def order (known : Summaries) (g : Graph) : (analysis known g).Order g where
  Fits := NullState.Fits g
  Below := NullState.Below
  refl s v := Nullness.Below.refl s[v]?
  trans h₁ h₂ v := (h₁ v).trans (h₂ v)
  below_join_left s t v := by
    show Nullness.Below s[v]? (s.join t)[v]?
    rw [NullState.getElem?_join]
    exact Nullness.below_join_left _ _
  below_join_right s t v := by
    show Nullness.Below t[v]? (s.join t)[v]?
    rw [NullState.getElem?_join]
    exact Nullness.below_join_right _ _
  below_of_rank_le hs ht h := NullState.below_of_rank_le hs ht h
  fits_entry v := by
    show Nullness.Fits _ (∅ : NullState)[v]? ∧ (_ → (∅ : NullState)[v]? = none)
    rw [Std.ExtTreeMap.getElem?_empty]
    exact ⟨fun o ho => (nomatch ho), fun _ => rfl⟩
  fits_join hs ht := hs.join ht
  fits_flow hb hs hr := fits_refine hb (hs.afterAll hb fun _ h => h) hr
  flow_mono {block e s s' t} h hr := by
    have hout : (s.afterAll known block.facts).Below (t.afterAll known block.facts) := h.afterAll
    have hr' : refine block e (s.afterAll known block.facts) = some s' := hr
    rcases refine_cases block e with ⟨-, hid⟩ | ⟨text, line, test, outcome, _, _, hassume⟩
    · rw [hid] at hr'
      cases hr'
      exact ⟨_, hid _, hout⟩
    · rw [hassume] at hr'
      obtain ⟨t', ht', hle⟩ := hout.assume hr'
      exact ⟨t', (hassume _).trans ht', hle⟩

/-! ## The findings of facts -/

/-- A finding of several dereferences is for one whose variable has an origin before them all. -/
theorem exists_of_mem_dereferenceFindings {ds : List Dereference} {x : Finding}
    (h : x ∈ dereferenceFindings g s ds) :
    ∃ d ∈ ds, ∃ o, (s[d.var]?).bind (·.origin?) = some o ∧ x = finding g o d := by
  induction ds generalizing s with
  | nil => cases h
  | cons d ds ih =>
    rw [dereferenceFindings, List.mem_append] at h
    rcases h with h | h
    · rw [Option.mem_toList, Option.map_eq_some_iff] at h
      obtain ⟨o, ho, rfl⟩ := h
      exact ⟨d, List.mem_cons_self, o, ho, rfl⟩
    · obtain ⟨d', hd', o, ho, rfl⟩ := ih h
      refine ⟨d', List.mem_cons_of_mem d hd', o, ?_, rfl⟩
      rw [Std.ExtTreeMap.getElem?_insert] at ho
      split at ho
      · cases ho
      · exact ho

/-- A variable that has an origin before several dereferences is reported at the first of them that
is one of it. -/
theorem exists_mem_dereferenceFindings {ds : List Dereference} {d : Dereference} (hd : d ∈ ds)
    {o : Origin} (ho : (s[d.var]?).bind (·.origin?) = some o) :
    ∃ d' ∈ ds, d'.var = d.var ∧ finding g o d' ∈ dereferenceFindings g s ds := by
  induction ds generalizing s with
  | nil => cases hd
  | cons c ds ih =>
    by_cases hv : c.var = d.var
    · refine ⟨c, List.mem_cons_self, hv, ?_⟩
      rw [dereferenceFindings, List.mem_append, Option.mem_toList, hv, ho]
      exact Or.inl rfl
    · have hd' : d ∈ ds := (List.mem_cons.mp hd).resolve_left fun h => hv (h ▸ rfl)
      have ho' : ((s.insert c.var .nonNull)[d.var]?).bind (·.origin?) = some o := by
        rw [Std.ExtTreeMap.getElem?_insert, if_neg, ho]
        rwa [Std.LawfulEqCmp.compare_eq_iff_eq]
      obtain ⟨d', hmem, hvar, hx⟩ := ih hd' ho'
      refine ⟨d', List.mem_cons_of_mem c hmem, hvar, ?_⟩
      rw [dereferenceFindings]
      exact List.mem_append_right _ hx

/-- **A finding is made at a fact**, in the state that the facts before it leave. -/
theorem mem_factFindings {fs : List Fact} {x : Finding} :
    x ∈ factFindings known g s fs ↔ ∃ before f after, fs = before ++ f :: after ∧
      x ∈ dereferenceFindings g (s.afterAll known before) (f.dereferences known) := by
  induction fs generalizing s with
  | nil => simp [factFindings]
  | cons f fs ih =>
    rw [factFindings, List.mem_append, ih]
    constructor
    · rintro (h | ⟨before, f', after, rfl, h⟩)
      · exact ⟨[], f, fs, rfl, h⟩
      · exact ⟨f :: before, f', after, rfl, h⟩
    · rintro ⟨_ | ⟨c, before⟩, f', after, heq, h⟩
      · cases heq
        exact Or.inl h
      · cases heq
        exact Or.inr ⟨before, f', after, rfl, h⟩

end ForwardNull

end NullFlow
