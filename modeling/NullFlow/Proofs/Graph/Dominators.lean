import Mathlib.Data.Finset.Card
import Mathlib.Logic.Function.Iterate
import Mathlib.Tactic.ByContra
import NullFlow.Graph.Dominators
import NullFlow.Proofs.Graph.Reachable

/-!
# The dominators are exact

`Graph.Dominates` says what it means that a block dominates another, by the routes through a graph.
That it is a partial order whose dominators of one block lie on a chain is shown by taking routes
apart and putting them together.

The sets of the search only lose blocks that are not dominators (`DominatorSets.Sound.narrow`), and
when they have settled nothing but dominators is left (`DominatorSets.Settled.mem_iff`), because a
set then says of each route what the set of the block before says of the route without its last
step. The block with the largest of those sets is then the last dominator on the chain
(`Graph.IsImmediate`), so going up from block to block meets all of them.
-/

namespace NullFlow

namespace Graph

variable {g : Graph} {a b c : BlockId}

/-- **A block dominates another** if the other can be reached and every route to it meets the
block. -/
def Dominates (g : Graph) (a b : BlockId) : Prop :=
  (∃ bs, g.Route bs b) ∧ ∀ bs, g.Route bs b → a ∈ bs

/-- **The immediate dominator of a block**: the one besides it that all the others dominate. -/
structure IsImmediate (g : Graph) (d b : BlockId) : Prop where
  ne : d ≠ b
  dominates : g.Dominates d b
  closest {a : BlockId} : a ≠ b → g.Dominates a b → g.Dominates a d

/-! ## The order of the dominators -/

theorem Dominates.refl {bs : List BlockId} (r : g.Route bs b) : g.Dominates b b :=
  ⟨⟨bs, r⟩, fun _ r' => r'.mem_end⟩

theorem entry_dominates {bs : List BlockId} (r : g.Route bs b) : g.Dominates g.entry b :=
  ⟨⟨bs, r⟩, fun _ r' => r'.entry_mem⟩

/-- Only the entry dominates the entry. -/
theorem Dominates.eq_entry (h : g.Dominates a g.entry) : a = g.entry :=
  List.mem_singleton.mp (h.2 [g.entry] .entry)

/-- A dominator is reachable itself. -/
theorem Dominates.exists_route (h : g.Dominates a b) : ∃ as, g.Route as a := by
  obtain ⟨⟨bs, r⟩, hall⟩ := h
  obtain ⟨as, ras, -⟩ := r.exists_suffix (hall bs r)
  exact ⟨as, ras⟩

theorem Dominates.trans (h₁ : g.Dominates a b) (h₂ : g.Dominates b c) : g.Dominates a c := by
  refine ⟨h₂.1, fun cs r => ?_⟩
  obtain ⟨bs, rbs, hsuf⟩ := r.exists_suffix (h₂.2 cs r)
  exact hsuf.subset (h₁.2 bs rbs)

/-- **Two blocks do not dominate each other.** No route meets either of them: where it met the first
of the two it would have met the other before. -/
theorem Dominates.antisymm (h₁ : g.Dominates a b) (h₂ : g.Dominates b a) : a = b := by
  by_contra hne
  have hnone : ∀ {bs c}, g.Route bs c → a ∉ bs ∧ b ∉ bs := by
    intro bs c r
    induction r with
    | entry =>
      refine ⟨fun ha => ?_, fun hb => ?_⟩
      · obtain rfl := List.mem_singleton.mp ha
        exact hne h₂.eq_entry.symm
      · obtain rfl := List.mem_singleton.mp hb
        exact hne h₁.eq_entry
    | @step bs b' c r hc ih =>
      refine ⟨fun ha => ?_, fun hb => ?_⟩
      · obtain rfl := (List.mem_cons.mp ha).resolve_right ih.1
        rcases List.mem_cons.mp (h₂.2 _ (r.step hc)) with h | h
        · exact hne h.symm
        · exact ih.2 h
      · obtain rfl := (List.mem_cons.mp hb).resolve_right ih.2
        rcases List.mem_cons.mp (h₁.2 _ (r.step hc)) with h | h
        · exact hne h
        · exact ih.1 h
  obtain ⟨bs, r⟩ := h₁.1
  exact (hnone r).2 r.mem_end

/-- Where a route to each of two blocks avoids the other one, there is a route to any reachable
block that avoids one of them. -/
theorem Route.exists_avoiding {as bs cs : List BlockId} (ra : g.Route as a) (hc : c ∉ as)
    (rc : g.Route cs c) (ha : a ∉ cs) (r : g.Route bs b) :
    ∃ bs', g.Route bs' b ∧ (a ∉ bs' ∨ c ∉ bs') := by
  induction r with
  | entry =>
    -- one of the two is not the entry
    by_cases h : a = g.entry
    · refine ⟨[g.entry], .entry, Or.inr fun hin => hc ?_⟩
      rw [List.mem_singleton.mp hin, ← h]
      exact ra.mem_end
    · exact ⟨[g.entry], .entry, Or.inl fun hin => h (List.mem_singleton.mp hin)⟩
  | @step bs b d r hd ih =>
    by_cases h₁ : d = a
    · exact ⟨as, h₁ ▸ ra, Or.inr hc⟩
    · by_cases h₂ : d = c
      · exact ⟨cs, h₂ ▸ rc, Or.inl ha⟩
      · obtain ⟨bs', r', hno⟩ := ih
        refine ⟨d :: bs', r'.step hd, hno.imp (fun h hin => ?_) (fun h hin => ?_)⟩
        · exact (List.mem_cons.mp hin).elim (fun h' => h₁ h'.symm) h
        · exact (List.mem_cons.mp hin).elim (fun h' => h₂ h'.symm) h

/-- **The dominators of a block lie on a chain.** -/
theorem Dominates.total (h₁ : g.Dominates a b) (h₂ : g.Dominates c b) :
    g.Dominates a c ∨ g.Dominates c a := by
  by_contra hno
  rw [not_or] at hno
  have havoid : ∀ {x y}, (∃ ys, g.Route ys y) → ¬ g.Dominates x y →
      ∃ ys, g.Route ys y ∧ x ∉ ys := by
    intro x y hy hn
    by_contra hall
    exact hn ⟨hy, fun ys r => by_contra fun hx => hall ⟨ys, r, hx⟩⟩
  obtain ⟨cs, rc, ha⟩ := havoid h₂.exists_route hno.1
  obtain ⟨as, ra, hc⟩ := havoid h₁.exists_route hno.2
  obtain ⟨bs, r⟩ := h₁.1
  obtain ⟨bs', r', h⟩ := ra.exists_avoiding hc rc ha r
  exact h.elim (fun h => h (h₁.2 bs' r')) (fun h => h (h₂.2 bs' r'))

theorem mem_predecessors : a ∈ g.predecessors b ↔ b ∈ g.successors a := by
  simp only [mem_successors, predecessors, List.mem_map, List.mem_filter, beq_iff_eq]
  exact ⟨fun ⟨e, ⟨he, hb⟩, ha⟩ => ⟨e, he, ha, hb⟩, fun ⟨e, he, ha, hb⟩ => ⟨e, ⟨he, hb⟩, ha⟩⟩

end Graph

/-! ## The search -/

namespace DominatorSets

variable {g : Graph} {a b : BlockId}

/-- **What the sets are at any time of the search**: there is one for each reachable block, and no
dominator is missing from it. -/
structure Sound (d : DominatorSets g) : Prop where
  covers : ∀ b, b ∈ d.sets ↔ b ∈ g.reachable
  entry : d.sets[g.entry]? = some {g.entry}
  complete {a b s} : d.sets[b]? = some s → g.Dominates a b → a ∈ s

theorem Sound.exists_getElem? {d : DominatorSets g} (sound : d.Sound)
    (hb : ∃ bs, g.Route bs b) : ∃ s, d.sets[b]? = some s := by
  have hin := (sound.covers b).mpr (Graph.mem_reachable_iff.mpr hb)
  exact ⟨_, Std.ExtTreeMap.getElem?_eq_some_getElem hin⟩

/-- **At the beginning no dominator is missing**, because all dominators are reachable. -/
theorem sound_start (g : Graph) : (start g).Sound where
  covers b := mem_initialSets
  entry := by
    show (initialSets g)[g.entry]? = _
    rw [getElem?_initialSets, if_pos g.entry_mem_reachable, initial, if_pos rfl]
  complete {a b s} hs h := by
    have hs : (initialSets g)[b]? = some s := hs
    rw [getElem?_initialSets, if_pos (Graph.mem_reachable_iff.mpr h.1)] at hs
    obtain rfl := Option.some.inj hs
    unfold initial
    split
    · next hb => exact Graph.mem_singleton.mpr (hb ▸ (hb ▸ h).eq_entry)
    · exact Graph.mem_reachable_iff.mpr h.exists_route

/-- **A dominator of a block survives narrowing**: it is the block, or it dominates all of the
reachable predecessors. -/
theorem Sound.mem_dominatorsBy {d : DominatorSets g} (sound : d.Sound) (hb : b ≠ g.entry)
    (h : g.Dominates a b) : a ∈ g.dominatorsBy d.sets b := by
  rw [Graph.mem_dominatorsBy]
  by_cases hab : a = b
  · exact Or.inl hab
  · refine Or.inr ⟨?_, fun p hp s hs => ?_⟩
    · obtain ⟨bs, r⟩ := h.1
      cases r with
      | entry => exact absurd rfl hb
      | @step bs p _ r hc =>
        exact ⟨p, Graph.mem_predecessors.mpr hc,
          (sound.covers p).mpr (Graph.mem_reachable_iff.mpr ⟨bs, r⟩)⟩
    · obtain ⟨hin, -⟩ := Std.ExtTreeMap.getElem?_eq_some_iff.mp hs
      have hreach := Graph.mem_reachable_iff.mp ((sound.covers p).mp hin)
      refine sound.complete hs ⟨hreach, fun ps r => ?_⟩
      have hin := h.2 _ (r.step (Graph.mem_predecessors.mp hp))
      exact (List.mem_cons.mp hin).resolve_left hab

/-- What narrowing the set of a block makes of the sets. -/
theorem getElem?_narrow (d : DominatorSets g) (b c : BlockId) : (d.narrow b).sets[c]? =
    if b = c ∧ b ≠ g.entry ∧ b ∈ d.sets then some (g.dominatorsBy d.sets b)
    else d.sets[c]? := by
  unfold narrow
  split
  · next h => rw [if_neg fun h' => h'.2.1 h]
  · next h =>
    split
    · next hs =>
      rw [if_neg fun h' => ?_]
      rw [Std.ExtTreeMap.mem_iff_isSome_getElem?, hs] at h'
      cases h'.2.2
    · next s hs =>
      obtain ⟨hb, -⟩ := Std.ExtTreeMap.getElem?_eq_some_iff.mp hs
      split
      · next heq =>
        split
        · next h' => rw [← h'.1, hs, heq]
        · rfl
      · rw [Std.ExtTreeMap.getElem?_insert]
        simp only [Std.LawfulEqCmp.compare_eq_iff_eq, h, hb, ne_eq, not_false_eq_true, and_true]

theorem Sound.narrow {d : DominatorSets g} (sound : d.Sound) (b : BlockId) :
    (d.narrow b).Sound where
  covers c := by
    rw [← sound.covers c, Std.ExtTreeMap.mem_iff_isSome_getElem?, getElem?_narrow]
    split
    · next h => simpa using h.1 ▸ h.2.2
    · exact Std.ExtTreeMap.mem_iff_isSome_getElem?.symm
  entry := by
    rw [getElem?_narrow, if_neg fun h => h.2.1 h.1]
    exact sound.entry
  complete {a c s} hs h := by
    rw [getElem?_narrow] at hs
    split at hs
    · next hb =>
      obtain rfl := Option.some.inj hs
      exact sound.mem_dominatorsBy hb.2.1 (hb.1 ▸ h)
    · exact sound.complete hs h

theorem Sound.round {d : DominatorSets g} (sound : d.Sound) : d.round.Sound := by
  unfold DominatorSets.round
  generalize g.reachable.toList = bs
  induction bs generalizing d with
  | nil => exact sound
  | cons b bs ih => exact ih (sound.narrow b)

theorem ext {d e : DominatorSets g} (h : d.sets = e.sets) : d = e := by
  cases d
  cases e
  cases h
  rfl

/-- **The search ends after some number of rounds**, with sets that a round does not change. -/
theorem exists_settle_eq (d : DominatorSets g) :
    ∃ n, d.settle = DominatorSets.round^[n] d ∧ d.settle.round = d.settle := by
  fun_induction settle d with
  | case1 d h => exact ⟨0, rfl, ext h⟩
  | case2 d h ih =>
    obtain ⟨n, heq, hround⟩ := ih
    exact ⟨n + 1, heq, hround⟩

theorem Sound.settle {d : DominatorSets g} (sound : d.Sound) : d.settle.Sound := by
  fun_induction DominatorSets.settle d with
  | case1 d h => exact sound
  | case2 d h ih => exact ih sound.round

/-- If a round changes nothing, narrowing changes no set: once a set has lost a member the weight
stays smaller. -/
theorem narrow_eq_of_foldl_eq {d : DominatorSets g} {bs : List BlockId}
    (hbs : ∀ b ∈ bs, b ∈ g.reachable) (h : bs.foldl narrow d = d) : ∀ b ∈ bs, d.narrow b = d := by
  induction bs with
  | nil => exact fun b hb => absurd hb List.not_mem_nil
  | cons c bs ih =>
    have htail := fun b hb => hbs b (List.mem_cons_of_mem c hb)
    rw [List.foldl_cons] at h
    have hc : d.narrow c = d := by
      refine (d.narrow_eq_or_lighter (hbs c List.mem_cons_self)).resolve_right fun hlt => ?_
      rcases (d.narrow c).foldl_narrow_eq_or_lighter htail with h' | h'
      · rw [← h', h] at hlt
        exact Nat.lt_irrefl _ hlt
      · rw [h] at h'
        exact Nat.lt_asymm hlt h'
    rw [hc] at h
    exact List.forall_mem_cons.mpr ⟨hc, ih htail h⟩

/-- **What the sets are when the search has ended**: a round does not change them any more. -/
structure Settled (d : DominatorSets g) : Prop extends Sound d where
  round_eq : d.round = d

theorem settled_settle (g : Graph) : (start g).settle.Settled := by
  obtain ⟨-, -, hround⟩ := (start g).exists_settle_eq
  exact ⟨(sound_start g).settle, hround⟩

namespace Settled

variable {d : DominatorSets g} (settled : d.Settled) {s : Std.ExtTreeSet BlockId}

include settled

/-- **The set of a block is what its predecessors leave of it.** -/
theorem eq_dominatorsBy (hb : b ≠ g.entry) (hs : d.sets[b]? = some s) :
    s = g.dominatorsBy d.sets b := by
  obtain ⟨hin, -⟩ := Std.ExtTreeMap.getElem?_eq_some_iff.mp hs
  have hr : b ∈ g.reachable.toList := Std.ExtTreeSet.mem_toList.mpr ((settled.covers b).mp hin)
  have hn := narrow_eq_of_foldl_eq (fun c hc => Std.ExtTreeSet.mem_toList.mp hc)
    settled.round_eq b hr
  have hget := d.getElem?_narrow b b
  rw [hn, hs, if_pos ⟨rfl, hb, hin⟩] at hget
  exact Option.some.inj hget

/-- **Every route to a block meets all members of its set.** -/
theorem mem_route {bs : List BlockId} (r : g.Route bs b) (hs : d.sets[b]? = some s) (ha : a ∈ s) :
    a ∈ bs := by
  induction r generalizing s with
  | entry =>
    rw [settled.entry] at hs
    obtain rfl := Option.some.inj hs
    exact List.mem_singleton.mpr (Graph.mem_singleton.mp ha)
  | @step bs p b r hc ih =>
    by_cases hb : b = g.entry
    · rw [hb, settled.entry] at hs
      obtain rfl := Option.some.inj hs
      rw [hb, Graph.mem_singleton.mp ha]
      exact List.mem_cons_self
    · -- a member is the block, or it is in the set of the block before
      rw [settled.eq_dominatorsBy hb hs, Graph.mem_dominatorsBy] at ha
      rcases ha with rfl | ⟨-, hall⟩
      · exact List.mem_cons_self
      · obtain ⟨t, ht⟩ := settled.exists_getElem? ⟨bs, r⟩
        exact List.mem_cons_of_mem b (ih ht (hall p (Graph.mem_predecessors.mpr hc) t ht))

/-- **The sets hold exactly the dominators.** -/
theorem mem_iff (hs : d.sets[b]? = some s) : a ∈ s ↔ g.Dominates a b := by
  obtain ⟨hb, -⟩ := Std.ExtTreeMap.getElem?_eq_some_iff.mp hs
  have hr := Graph.mem_reachable_iff.mp ((settled.covers b).mp hb)
  exact ⟨fun ha => ⟨hr, fun bs r => settled.mem_route r hs ha⟩, settled.complete hs⟩

/-- **A dominator has fewer dominators than what it dominates.** -/
theorem size_lt (hab : g.Dominates a b) (hne : a ≠ b) : d.size a < d.size b := by
  obtain ⟨s, hs⟩ := settled.exists_getElem? hab.exists_route
  obtain ⟨t, ht⟩ := settled.exists_getElem? hab.1
  have hlt : s.size < t.size := by
    refine Graph.size_lt_of_subset (c := b) (fun c hc => ?_) ?_ fun hin => hne ?_
    · exact (settled.mem_iff ht).mpr (((settled.mem_iff hs).mp hc).trans hab)
    · obtain ⟨bs, r⟩ := hab.1
      exact (settled.mem_iff ht).mpr (.refl r)
    · exact hab.antisymm ((settled.mem_iff hs).mp hin)
  unfold size
  rw [hs, ht]
  exact hlt

/-- **The dominator with the largest set is the immediate one.** -/
theorem isImmediate (hs : d.sets[b]? = some s) (hc : d.closest b s = some a) :
    g.IsImmediate a b := by
  have hmem : ∀ c, c ∈ (s.toList.filter (· != b)).reverse ↔ c ≠ b ∧ g.Dominates c b := by
    intro c
    rw [List.mem_reverse, List.mem_filter, Std.ExtTreeSet.mem_toList, bne_iff_ne,
      settled.mem_iff hs, and_comm]
  have ha := (hmem a).mp (List.maxOn?_mem hc)
  refine ⟨ha.1, ha.2, fun {c} hne hdom => ?_⟩
  -- on the chain of dominators the other one cannot be the closer one, for lack of size
  rcases hdom.total ha.2 with hca | hac
  · exact hca
  · have hle : d.size c ≤ d.size a := by
      have hmax := List.le_apply_get_maxOn?_of_mem (f := d.size) ((hmem c).mpr ⟨hne, hdom⟩)
      unfold closest at hc
      rwa [Option.get_of_eq_some _ hc] at hmax
    by_cases heq : a = c
    · exact heq ▸ hac
    · exact absurd hle (Nat.not_le_of_lt (settled.size_lt hac heq))

/-- Every reachable block but the entry has a closest dominator. -/
theorem exists_closest (hb : b ≠ g.entry) (hs : d.sets[b]? = some s) : ∃ a,
    d.closest b s = some a := by
  obtain ⟨hin, -⟩ := Std.ExtTreeMap.getElem?_eq_some_iff.mp hs
  obtain ⟨bs, r⟩ := Graph.mem_reachable_iff.mp ((settled.covers b).mp hin)
  rw [← Option.isSome_iff_exists]
  refine List.isSome_maxOn?_of_mem (x := g.entry) ?_
  rw [List.mem_reverse, List.mem_filter, Std.ExtTreeSet.mem_toList, bne_iff_ne]
  exact ⟨settled.complete hs (Graph.entry_dominates r), hb.symm⟩

end Settled

end DominatorSets

namespace Graph

variable {g h : Graph} {a b : BlockId}

/-- **What is kept of the search**: for each reachable block its immediate dominator, and for the
entry the entry. -/
structure Immediates (g : Graph) (up : Std.ExtTreeMap BlockId BlockId) : Prop where
  covers : ∀ b, b ∈ up ↔ ∃ bs, g.Route bs b
  entry : up[g.entry]? = some g.entry
  isImmediate {d b : BlockId} : b ≠ g.entry → up[b]? = some d → g.IsImmediate d b

theorem immediates_settle (g : Graph) : g.Immediates (DominatorSets.start g).settle.immediate := by
  have settled := DominatorSets.settled_settle g
  generalize (DominatorSets.start g).settle = d at settled
  have hget : ∀ b, d.immediate[b]?
      = (d.sets[b]?).bind fun s => if b = g.entry then some b else d.closest b s := by
    intro b
    exact Std.ExtTreeMap.getElem?_filterMap'
  refine ⟨fun b => ?_, ?_, fun {e b} hb he => ?_⟩
  · rw [Std.ExtTreeMap.mem_iff_isSome_getElem?, hget, ← mem_reachable_iff, ← settled.covers b,
      Std.ExtTreeMap.mem_iff_isSome_getElem?]
    cases hs : d.sets[b]? with
    | none => rfl
    | some s =>
      by_cases hb : b = g.entry
      · simp [hb]
      · obtain ⟨a, ha⟩ := settled.exists_closest hb hs
        simp [hb, ha]
  · rw [hget, settled.entry, Option.bind_some, if_pos rfl]
  · rw [hget] at he
    obtain ⟨s, hs, he⟩ := Option.bind_eq_some_iff.mp he
    rw [if_neg hb] at he
    exact settled.isImmediate hs he

/-! ## Going up from block to block -/

/-- **The loop that looks for a block on the way up from another**, with its answer. -/
inductive Climb (h : Graph) (a : BlockId) : BlockId → Bool → Prop
  /-- A block without an immediate dominator is not reachable. -/
  | unreachable {b : BlockId} (hup : h.dominators[b]? = none) : Climb h a b false
  | found {b : BlockId} (hup : h.dominators[b]? = some a) : Climb h a b true
  /-- At the entry the loop ends. -/
  | entry {b : BlockId} (hup : h.dominators[b]? = some b) (hne : b ≠ a) : Climb h a b false
  | up {b d : BlockId} {r : Bool} (hup : h.dominators[b]? = some d) (hne : d ≠ a) (hup' : d ≠ b)
      (c : Climb h a d r) : Climb h a b r

open Classical in
/-- The dominators of a block among the blocks that have an immediate dominator. -/
noncomputable def above (g : Graph) (up : Std.ExtTreeMap BlockId BlockId) (b : BlockId) :
    Finset BlockId :=
  up.keys.toFinset.filter fun a => g.Dominates a b

theorem mem_above {up : Std.ExtTreeMap BlockId BlockId} :
    a ∈ g.above up b ↔ a ∈ up ∧ g.Dominates a b := by
  simp only [above, Finset.mem_filter, List.mem_toFinset, Std.ExtTreeMap.mem_keys]

open Classical in
theorem card_above_le (g : Graph) (up : Std.ExtTreeMap BlockId BlockId) (b : BlockId) :
    (g.above up b).card ≤ up.size :=
  calc (g.above up b).card ≤ up.keys.toFinset.card := Finset.card_filter_le _ _
    _ ≤ up.keys.length := up.keys.toFinset_card_le
    _ = up.size := Std.ExtTreeMap.length_keys

namespace Immediates

variable (imm : g.Immediates h.dominators)

include imm

/-- A reachable block has at least itself as a dominator. -/
theorem card_above_pos (hb : ∃ bs, g.Route bs b) : 0 < (g.above h.dominators b).card := by
  obtain ⟨bs, r⟩ := hb
  exact Finset.card_pos.mpr ⟨b, mem_above.mpr ⟨(imm.covers b).mpr ⟨bs, r⟩, .refl r⟩⟩

/-- **Each step up leaves fewer dominators.** -/
theorem card_above_lt (hab : g.Dominates a b) (hne : a ≠ b) :
    (g.above h.dominators a).card < (g.above h.dominators b).card := by
  have hsub : g.above h.dominators a ⊆ g.above h.dominators b := by
    intro c hc
    rw [mem_above] at hc ⊢
    exact ⟨hc.1, hc.2.trans hab⟩
  refine Finset.card_lt_card ((Finset.ssubset_iff_of_subset hsub).mpr ⟨b, ?_, fun hb => hne ?_⟩)
  · obtain ⟨bs, r⟩ := hab.1
    exact mem_above.mpr ⟨(imm.covers b).mpr hab.1, .refl r⟩
  · exact hab.antisymm (mem_above.mp hb).2

/-- Where the way up goes on to another block that is the immediate dominator. -/
theorem isImmediate_of_ne {d : BlockId} (hup : h.dominators[b]? = some d) (hne : d ≠ b) :
    g.IsImmediate d b := by
  refine imm.isImmediate (fun hb => hne ?_) hup
  rw [hb, imm.entry] at hup
  rw [hb, Option.some.inj hup]

theorem up_eq_none_iff : h.dominators[b]? = none ↔ ¬ ∃ bs, g.Route bs b := by
  rw [← imm.covers b, Std.ExtTreeMap.mem_iff_isSome_getElem?, Option.isSome_iff_ne_none, not_not]

/-- **The loop gives the right answer.** It goes on from a block to its immediate dominator, which
the same other blocks dominate. -/
theorem climb_iff {r : Bool} (c : h.Climb a b r) (hab : a ≠ b) : r = true ↔ g.Dominates a b := by
  induction c with
  | unreachable hup =>
    exact iff_of_false Bool.false_ne_true fun hdom => imm.up_eq_none_iff.mp hup hdom.1
  | found hup => exact iff_of_true rfl (imm.isImmediate_of_ne hup hab).dominates
  | @entry b hup hne =>
    have hb : b = g.entry := by
      by_contra hb
      exact (imm.isImmediate hb hup).ne rfl
    subst hb
    exact iff_of_false Bool.false_ne_true fun hdom => hab hdom.eq_entry
  | up hup hne hup' c ih =>
    have himm := imm.isImmediate_of_ne hup hup'
    rw [ih hne.symm]
    exact ⟨fun hdom => hdom.trans himm.dominates, fun hdom => himm.closest hab hdom⟩

/-- **The loop ends by itself**, with the answer that the way up gives. -/
theorem climb {n : Nat} (hn : (g.above h.dominators b).card ≤ n) :
    h.Climb a b ((h.ascend n b).contains a) := by
  induction n generalizing b with
  | zero =>
    have hb : ¬ ∃ bs, g.Route bs b :=
      fun hb => absurd (imm.card_above_pos hb) (Nat.not_lt.mpr hn)
    exact .unreachable (imm.up_eq_none_iff.mpr hb)
  | succ n ih =>
    cases hup : h.dominators[b]? with
    | none =>
      simp only [ascend, hup]
      exact .unreachable hup
    | some d =>
      by_cases hda : d = a
      · subst hda
        simp only [ascend, hup]
        split <;> simpa using .found hup
      · by_cases hdb : d = b
        · subst hdb
          simp only [ascend, hup, if_true]
          simpa [Ne.symm hda] using Climb.entry hup hda
        · have hlt := imm.card_above_lt (imm.isImmediate_of_ne hup hdb).dominates hdb
          have hrest := ih (b := d) (by omega)
          have hstep : (h.ascend (n + 1) b).contains a = (h.ascend n d).contains a := by
            simp only [ascend, hup, if_neg hdb, List.contains_cons,
              beq_eq_false_iff_ne.mpr (Ne.symm hda), Bool.false_or]
          rw [hstep]
          exact .up hup hda hdb hrest

theorem climb_dominates (hab : a ≠ b) : h.Climb a b (h.dominates a b) := by
  rw [dominates, beq_eq_false_iff_ne.mpr hab, Bool.false_or]
  exact imm.climb (g.card_above_le _ b)

/-- **What the immediate dominators say is right.** -/
theorem dominates_iff : h.dominates a b = true ↔ a = b ∨ g.Dominates a b := by
  by_cases hab : a = b
  · exact iff_of_true (by rw [dominates, beq_iff_eq.mpr hab, Bool.true_or]) (Or.inl hab)
  · rw [or_iff_right hab]
    exact imm.climb_iff (imm.climb_dominates hab) hab

end Immediates

theorem dominators_computeDominators (hg : g.blocks.isEmpty = false) :
    g.computeDominators.dominators = (DominatorSets.start g).settle.immediate := by
  unfold computeDominators
  rw [hg]
  rfl

theorem edges_computeDominators : g.computeDominators.edges = g.edges := by
  unfold computeDominators
  split <;> rfl

open Classical in
/-- **The dominators are exact.** In every graph with a block, whatever its edges: the search for
them ends after some number of rounds, with sets that a round does not change. Then the loop that
answers whether a block dominates another one ends, and the answer is that it does if it is the
other one, or if the other one is reachable and every route to it meets the block. The edges that
close a loop are those whose source is reachable by routes that all meet their target, in their
order. -/
theorem dominators_exact (g : Graph) (hg : g.blocks.isEmpty = false) :
    (∃ n, (DominatorSets.round^[n] (.start g)).round = DominatorSets.round^[n] (.start g)
      ∧ g.computeDominators.dominators = (DominatorSets.round^[n] (.start g)).immediate)
    ∧ (∀ a b, (a ≠ b → g.computeDominators.Climb a b (g.computeDominators.dominates a b))
      ∧ (g.computeDominators.dominates a b = true ↔ a = b ∨ g.Dominates a b))
    ∧ g.computeDominators.loops
      = (g.edges.filter fun e => g.Dominates e.target e.source).map
          fun e => (e.source, e.target) := by
  have hup := dominators_computeDominators hg
  have imm : g.Immediates g.computeDominators.dominators := hup ▸ g.immediates_settle
  refine ⟨?_, fun a b => ⟨imm.climb_dominates, imm.dominates_iff⟩, ?_⟩
  · obtain ⟨n, heq, hround⟩ := (DominatorSets.start g).exists_settle_eq
    rw [heq] at hround hup
    exact ⟨n, hround, hup⟩
  · rw [loops, edges_computeDominators]
    refine congrArg (List.map _) (List.filter_congr fun e he => ?_)
    rw [Bool.eq_iff_iff, Bool.and_eq_true, decide_eq_true_iff, imm.dominates_iff,
      Std.ExtTreeMap.contains_iff_mem, imm.covers]
    constructor
    · rintro ⟨⟨bs, r⟩, heq | h⟩
      · rw [heq]
        exact .refl r
      · exact h
    · exact fun h => ⟨h.1, Or.inr h⟩

/-- Two blocks that lead to each other, both entered from outside, next to an edge to a block that
does not exist and a loop that is not reachable. -/
def irreducible : Graph :=
  ({ function := "f", file := "f.c" } : Graph)
    |>.addBlock { id := 0, label := "entry", isEntry := true }
    |>.addBlock { id := 1, label := "left" }
    |>.addBlock { id := 2, label := "right" }
    |>.addEdge 0 1 .trueBranch
    |>.addEdge 0 2 .falseBranch
    |>.addEdge 1 2 .jump
    |>.addEdge 2 1 .jump
    |>.addEdge 1 7 .fallThrough
    |>.addEdge 5 6 .jump
    |>.addEdge 6 5 .loopBack

/-- Neither of the two blocks dominates the other, but the first one dominates the missing block. -/
theorem dominators_exact_irreducible : irreducible.blocks.isEmpty = false
    ∧ irreducible.computeDominators.dominates 1 2 = false
    ∧ irreducible.computeDominators.dominates 1 7 = true := by
  have hg : irreducible.blocks.isEmpty = false := by simp [irreducible, addBlock, addEdge]
  have hiff := fun a b => ((dominators_exact irreducible hg).2.1 a b).2
  have hentry : irreducible.Route [0] 0 := .entry
  refine ⟨hg, ?_, (hiff 1 7).mpr (Or.inr ⟨⟨[7, 1, 0], ?_⟩, fun bs r => ?_⟩)⟩
  · rw [Bool.eq_false_iff, ne_eq, hiff]
    rintro (h | h)
    · cases h
    · have hmeets := h.2 [2, 0] (hentry.step (by decide))
      revert hmeets
      decide
  · exact (hentry.step (c := 1) (by decide)).step (by decide)
  · cases r with
    | @step bs b _ r hc =>
      have hb : b = 1 := by
        have hp := mem_predecessors.mpr hc
        have hpred : irreducible.predecessors 7 = [1] := rfl
        rw [hpred] at hp
        exact List.mem_singleton.mp hp
      exact List.mem_cons_of_mem 7 (hb ▸ r.mem_end)

end Graph

end NullFlow
