import NullFlow.Proofs.Analysis.Reached

/-!
# Why the loop ends

The loop of `Analysis.solve` replaces a state by a join only if that has a smaller rank. What this
amounts to is seen here by the states alone: a loop that replaces a state whenever a join makes
**another** one of it (`Analysis.turn`) goes through the same states, and it ends
(`Analysis.Ends`). Nothing has to be known about what flows along an edge for that, for it is the
joins that move a state **further** along a well-founded order (`NullState.Further`,
`DerefState.Further`): a variable that is known to be null or not null becomes less certain or its
origin moves to an earlier line, a variable that was dereferenced is dropped or its site moves to an
earlier line. A block joins the queue only when its state is its first one or has moved.
-/

namespace NullFlow

namespace Analysis

variable {σ ρ : Type}

/-! ## The loop, by the states alone -/

section Loop

variable [DecidableEq σ]

/-- **What flows along one edge** is joined with the state at its end. If that makes another state,
or if there was none, the block at the end gets this state and joins the queue. -/
def flow (a : Analysis σ ρ) (block : Block) (out : σ) (e : Edge)
    (now : States σ × List BlockId) : States σ × List BlockId :=
  match a.refine block e out with
  | none => now
  | some flowing =>
    let merged := (now.1[e.target]?).elim flowing (a.join · flowing)
    if now.1[e.target]? = some merged then now
    else (now.1.insert e.target merged, enqueue now.2 e.target)

/-- What flows along several edges out of a block. -/
def flowAll (a : Analysis σ ρ) (block : Block) (out : σ) (edges : List Edge)
    (now : States σ × List BlockId) : States σ × List BlockId :=
  edges.foldl (fun now e => a.flow block out e now) now

/-- **One turn of the loop**: takes a block off the queue and lets its state flow along the edges
out of it. There is nothing to do for a block that does not exist. -/
def turn (a : Analysis σ ρ) (g : Graph) : States σ × List BlockId → States σ × List BlockId
  | (states, []) => (states, [])
  | (states, b :: rest) =>
    match g.blocks[b]?, states[b]? with
    | some block, some state =>
      a.flowAll block (a.transfer block state) (g.outEdges b) (states, rest)
    | _, _ => (states, rest)

/-- Where the loop begins. -/
def start (a : Analysis σ ρ) (g : Graph) : States σ × List BlockId :=
  if g.entry ∈ g.blocks then ((∅ : States σ).insert g.entry a.entry, [g.entry]) else (∅, [])

/-- **What the loop arrives at** after some turns. -/
inductive Arrives (a : Analysis σ ρ) (g : Graph) : States σ × List BlockId → Prop
  | start : Arrives a g (a.start g)
  | turn {now : States σ × List BlockId} (h : Arrives a g now) : Arrives a g (a.turn g now)

/-- **An edge is followed** in some turn of the loop, once the edges before it have been. -/
inductive Follows (a : Analysis σ ρ) (g : Graph) :
    Block → σ → Edge → States σ × List BlockId → Prop
  | intro {states : States σ} {b : BlockId} {rest : List BlockId} {block : Block} {state : σ}
      {before after : List Edge} {e : Edge} (h : Arrives a g (states, b :: rest))
      (hb : g.blocks[b]? = some block) (hs : states[b]? = some state)
      (he : g.outEdges b = before ++ e :: after) :
      Follows a g block (a.transfer block state) e
        (a.flowAll block (a.transfer block state) before (states, rest))

/-- **An edge moves the loop on, or it changes nothing.** A block joins the queue only with its
first state or with a state that is further than the one it had. -/
inductive Advances (Further : σ → σ → Prop) (e : Edge) (now : States σ × List BlockId) :
    States σ × List BlockId → Prop
  | same : Advances Further e now now
  | first {s : σ} (ho : now.1[e.target]? = none) :
      Advances Further e now (now.1.insert e.target s, enqueue now.2 e.target)
  | further {old s : σ} (ho : now.1[e.target]? = some old) (hs : Further s old) :
      Advances Further e now (now.1.insert e.target s, enqueue now.2 e.target)

/-- **The loop ends**, with an empty queue and the states that the analysis computes, and every
state that it replaces on the way is replaced by one that is further along a well-founded order. -/
structure Ends (a : Analysis σ ρ) (g : Graph) (Further : σ → σ → Prop) : Prop where
  wellFounded : WellFounded Further
  advances ⦃block : Block⦄ ⦃out : σ⦄ ⦃e : Edge⦄ ⦃now : States σ × List BlockId⦄
    (h : a.Follows g block out e now) : Advances Further e now (a.flow block out e now)
  arrives : a.Arrives g (a.solve g, [])

end Loop

/-! ## It is the same loop -/

namespace Order

variable {a : Analysis σ ρ} {g : Graph} {o : a.Order g}

/-- What flows along several edges fits. -/
theorem AllFit.pushAll {block : Block} {out : σ} {es : List Edge}
    {now : States σ × List BlockId} (h : o.AllFit now.1)
    (hout : ∀ e t, a.refine block e out = some t → o.Fits t) :
    o.AllFit (a.pushAll block out es now).1 :=
  pushAll_invariant (I := fun now => o.AllFit now.1) a block out
    (fun e _ _ hnow => hnow.push (hout e)) h

variable [DecidableEq σ]

/-- Whether a join has made another state can be told by the rank. -/
theorem Exact.flow_eq_push (ho : o.Exact) {block : Block} {out : σ} {e : Edge}
    {now : States σ × List BlockId} (hfit : o.AllFit now.1)
    (hout : ∀ t, a.refine block e out = some t → o.Fits t) :
    a.flow block out e now = a.push block out e now := by
  unfold flow push
  cases hr : a.refine block e out with
  | none => rfl
  | some t =>
    cases hold : now.1[e.target]? with
    | none => rfl
    | some old =>
      have hiff := ho.rank_lt_iff (hfit _ old hold) (hout t hr)
      simp only [Option.elim_some, Option.some.injEq]
      by_cases hsame : a.join old t = old
      · rw [if_pos hsame.symm, if_neg fun hlt => hiff.mp hlt hsame]
      · rw [if_neg fun h => hsame h.symm, if_pos (hiff.mpr hsame)]
        rfl

theorem Exact.flowAll_eq_pushAll (ho : o.Exact) {block : Block} {out : σ} {es : List Edge}
    {now : States σ × List BlockId} (hfit : o.AllFit now.1)
    (hout : ∀ e t, a.refine block e out = some t → o.Fits t) :
    a.flowAll block out es now = a.pushAll block out es now := by
  induction es generalizing now with
  | nil => rfl
  | cons e es ih =>
    show a.flowAll block out es (a.flow block out e now)
      = a.pushAll block out es (a.push block out e now)
    rw [ho.flow_eq_push hfit (hout e)]
    exact ih (hfit.push (hout e))

/-- A turn with a block that has a state is a step of the loop. -/
theorem Exact.turn_eq (ho : o.Exact) {states : States σ} {b : BlockId} {rest : List BlockId}
    {block : Block} {state : σ} (hfit : o.AllFit states) (hb : g.blocks[b]? = some block)
    (hs : states[b]? = some state) :
    a.turn g (states, b :: rest)
      = a.pushAll block (a.transfer block state) (g.outEdges b) (states, rest) := by
  simp only [turn, hb, hs]
  exact ho.flowAll_eq_pushAll hfit fun e t hr => o.fits_flow hb (hfit b state hs) hr

omit o in
/-- A turn with a block that has no state, or that does not exist, leaves the states alone. -/
theorem turn_eq_of_forall_ne {states : States σ} {b : BlockId} {rest : List BlockId}
    (hnone : ∀ block state, g.blocks[b]? = some block → states[b]? ≠ some state) :
    a.turn g (states, b :: rest) = (states, rest) := by
  cases hb : g.blocks[b]? with
  | none => simp only [turn, hb]
  | some block =>
    cases hs : states[b]? with
    | none => simp only [turn, hb, hs]
    | some state => exact absurd hs (hnone block state hb)

/-- The states fit wherever the loop arrives. -/
theorem Exact.allFit_of_arrives (ho : o.Exact) {now : States σ × List BlockId}
    (h : a.Arrives g now) : o.AllFit now.1 := by
  induction h with
  | start =>
    unfold start
    split
    · exact o.invariant_start.fits
    · intro b s hs
      rw [Std.ExtTreeMap.getElem?_empty] at hs
      cases hs
  | @turn now h ih =>
    rcases now with ⟨states, _ | ⟨b, rest⟩⟩
    · exact ih
    · by_cases hsome : ∃ block state, g.blocks[b]? = some block ∧ states[b]? = some state
      · obtain ⟨block, state, hb, hs⟩ := hsome
        rw [ho.turn_eq ih hb hs]
        exact AllFit.pushAll ih fun e t hr => o.fits_flow hb (ih b state hs) hr
      · rw [turn_eq_of_forall_ne fun block state hb hs => hsome ⟨block, state, hb, hs⟩]
        exact ih

/-- From wherever the loop arrives it goes on to where it ends. -/
theorem Exact.arrives_iterate (ho : o.Exact) {states : States σ} {queue : List BlockId}
    (h : a.Arrives g (states, queue)) : a.Arrives g (a.iterate g states queue, []) := by
  induction states, queue using iterate.induct a g with
  | case1 states =>
    rw [iterate]
    exact h
  | case2 states b rest state block hs hb now ih =>
    have hnext := h.turn
    rw [ho.turn_eq (ho.allFit_of_arrives h) hb hs] at hnext
    rw [iterate, hb, hs]
    exact ih hnext
  | case3 states b rest hnone ih =>
    have hnot : ∀ block state, g.blocks[b]? = some block → states[b]? ≠ some state :=
      fun block state hb hs => hnone block state hb hs
    have hnext := h.turn
    rw [turn_eq_of_forall_ne hnot] at hnext
    rw [iterate]
    split
    · next block state hb hs => exact absurd hs (hnot block state hb)
    · exact ih hnext

/-- **An edge replaces a state by one that is further**, if joins do. -/
theorem flow_advances {Further : σ → σ → Prop}
    (hjoin : ∀ ⦃s t⦄, o.Fits s → o.Fits t → a.join s t ≠ s → Further (a.join s t) s)
    {block : Block} {out : σ} {e : Edge} {now : States σ × List BlockId} (hfit : o.AllFit now.1)
    (hout : ∀ t, a.refine block e out = some t → o.Fits t) :
    Advances Further e now (a.flow block out e now) := by
  unfold flow
  cases hr : a.refine block e out with
  | none => exact .same
  | some t =>
    cases hold : now.1[e.target]? with
    | none => exact .first hold
    | some old =>
      simp only [Option.elim_some, Option.some.injEq]
      split
      · exact .same
      · next hne =>
        exact .further hold (hjoin (hfit _ old hold) (hout t hr) fun heq => hne heq.symm)

/-- **The loop ends** if every join that makes another state makes one that is further along a
well-founded order. -/
theorem Exact.ends (ho : o.Exact) {Further : σ → σ → Prop} (hwf : WellFounded Further)
    (hjoin : ∀ ⦃s t⦄, o.Fits s → o.Fits t → a.join s t ≠ s → Further (a.join s t) s) :
    a.Ends g Further where
  wellFounded := hwf
  advances := by
    intro block out e now h
    obtain @⟨states, b, rest, _, state, before, after, _, h, hb, hs, he⟩ := h
    have hfit : o.AllFit states := ho.allFit_of_arrives h
    have hout : ∀ e t, a.refine block e (a.transfer block state) = some t → o.Fits t :=
      fun e t hr => o.fits_flow hb (hfit b state hs) hr
    -- the states still fit after the edges before
    have hnow : o.AllFit (a.flowAll block (a.transfer block state) before (states, rest)).1 := by
      rw [ho.flowAll_eq_pushAll hfit hout]
      exact AllFit.pushAll hfit hout
    exact flow_advances hjoin hnow (hout e)
  arrives := by
    have hstart : a.Arrives g (a.start g) := .start
    unfold start at hstart
    unfold solve
    split
    · next hin =>
      rw [if_pos hin] at hstart
      exact ho.arrives_iterate hstart
    · next hin =>
      rw [if_neg hin] at hstart
      exact hstart

end Order

end Analysis

/-! ## Forward nullness -/

namespace Nullness

variable {last : Nat} {x y : Option Nullness}

/-- A value above another has at most its rank. -/
theorem Below.rank_le (h : Below x y) (hy : Fits last y) : rank last y ≤ rank last x := by
  rcases x with _ | _ | a | a <;> rcases y with _ | _ | b | b <;>
    simp only [Fits, origin?, Option.bind_some, Option.some.injEq, forall_eq'] at hy <;>
    simp only [Below] at h <;> simp only [rank] <;> omega

/-- A value that is truly above another has a smaller rank. -/
theorem Below.rank_lt (h : Below x y) (hy : Fits last y) (hne : ¬Below y x) :
    rank last y < rank last x := by
  rcases x with _ | _ | a | a <;> rcases y with _ | _ | b | b <;>
    simp only [Fits, origin?, Option.bind_some, Option.some.injEq, forall_eq'] at hy <;>
    simp only [Below, not_true_eq_false] at h hne <;> simp only [rank] <;> omega

end Nullness

namespace NullState

/-- **A state of a graph is further than another one**: it says less, and it does say less. -/
def Further (g : Graph) (s t : NullState) : Prop :=
  s.Fits g ∧ t.Fits g ∧ t.Below s ∧ ¬s.Below t

theorem Further.rank_lt {g : Graph} {s t : NullState} (h : Further g s t) :
    s.rank g.vars.toList g.lastLine < t.rank g.vars.toList g.lastLine := by
  obtain ⟨hs, ht, hle, hnot⟩ := h
  obtain ⟨v, hv⟩ := Classical.not_forall.mp hnot
  -- both states know nothing about a variable that the graph does not mention
  have hmem : v ∈ g.vars := Classical.byContradiction fun hmem => hv <| by
    rw [(hs v).2 hmem, (ht v).2 hmem]
    trivial
  exact total_map_lt (fun w _ => (hle w).rank_le (hs w).1) (Std.ExtTreeSet.mem_toList.mpr hmem)
    ((hle v).rank_lt (hs v).1 hv)

/-- **No state moves further forever.** -/
theorem wellFounded_further (g : Graph) : WellFounded (Further g) :=
  Subrelation.wf (fun h => h.rank_lt)
    (InvImage.wf (rank g.vars.toList g.lastLine) Nat.lt_wfRel.wf)

end NullState

/-! ## Certain dereferences -/

namespace DerefState

/-- **A state says at most what another one says**: its variables are among those of the other, each
with a site that is not on a later line. -/
def Within (s t : DerefState) : Prop :=
  ∀ (v : String) (a : DerefSite), s[v]? = some a → ∃ b, t[v]? = some b ∧ a.line ≤ b.line

/-- **A state is further than another one**: it says at most what that says, and not as much. -/
def Further (s t : DerefState) : Prop := s.Within t ∧ ¬t.Within s

variable {s t : DerefState}

/-- What is within a state is what is kept of it. -/
theorem Within.eq_filterMap (h : s.Within t) : s = t.filterMap fun v _ => s[v]? := by
  refine Std.ExtTreeMap.ext_getElem? fun v => ?_
  rw [Std.ExtTreeMap.getElem?_filterMap']
  cases hs : s[v]? with
  | none => cases t[v]? <;> rfl
  | some a =>
    obtain ⟨b, hb, -⟩ := h v a hs
    rw [hb]
    rfl

theorem Further.rank_lt (h : s.Further t) : s.rank < t.rank := by
  obtain ⟨hle, hnot⟩ := h
  -- a site of the second state for which the first one has none, or one on an earlier line
  simp only [Within, Classical.not_forall, not_exists, not_and] at hnot
  obtain ⟨v, b, hb, hv⟩ := hnot
  rw [hle.eq_filterMap, rank_filterMap]
  refine total_map_lt (fun p hp => ?_) (Std.ExtTreeMap.mem_toList_iff_getElem?_eq_some.mpr hb) ?_
  · cases hs : s[p.1]? with
    | none => exact Nat.zero_le _
    | some a =>
      obtain ⟨b, hb, hab⟩ := hle p.1 a hs
      rw [Std.ExtTreeMap.mem_toList_iff_getElem?_eq_some.mp hp] at hb
      cases hb
      exact Nat.succ_le_succ hab
  · cases hs : s[v]? with
    | none => exact Nat.zero_lt_succ _
    | some a => exact Nat.succ_lt_succ (Nat.lt_of_not_le (hv a hs))

/-- **No state moves further forever.** -/
theorem wellFounded_further : WellFounded Further :=
  Subrelation.wf (fun h => h.rank_lt) (InvImage.wf rank Nat.lt_wfRel.wf)

/-- A join that makes another state moves it further. -/
theorem further_join (hne : s.join t ≠ s) : (s.join t).Further s := by
  have hline (a b : DerefSite) : (a.earliest b).line ≤ a.line := by
    unfold DerefSite.earliest
    split <;> omega
  refine ⟨fun v c hc => ?_, fun hback => hne (Std.ExtTreeMap.ext_getElem? fun v => ?_)⟩
  · rw [getElem?_join, Option.bind_eq_some_iff] at hc
    obtain ⟨a, ha, hc⟩ := hc
    obtain ⟨b, hb, rfl⟩ := Option.map_eq_some_iff.mp hc
    exact ⟨a, ha, hline a b⟩
  · -- a site that is not on an earlier line is the one that was there
    rw [getElem?_join]
    cases hs : s[v]? with
    | none => rfl
    | some a =>
      obtain ⟨c, hc, hac⟩ := hback v a hs
      rw [getElem?_join, hs, Option.bind_some, Option.map_eq_some_iff] at hc
      obtain ⟨b, hb, rfl⟩ := hc
      have hearliest : a.earliest b = a := by
        unfold DerefSite.earliest at hac ⊢
        split
        · rfl
        · next hlt =>
          rw [if_neg hlt] at hac
          exact absurd hac hlt
      rw [hb, Option.bind_some, Option.map_some, hearliest]

end DerefState

/-! ## Both analyses -/

/-- A join that makes another state moves it further. -/
theorem NullState.further_join {g : Graph} {s t : NullState} (hs : s.Fits g) (ht : t.Fits g)
    (hne : s.join t ≠ s) : Further g (s.join t) s := by
  refine ⟨hs.join ht, hs, fun v => ?_, fun hback => hne (Std.ExtTreeMap.ext_getElem? fun v => ?_)⟩
  · rw [getElem?_join]
    exact Nullness.below_join_left _ _
  · have hv := hback v
    rw [getElem?_join] at hv ⊢
    exact Nullness.join_eq_left_of_below ((Nullness.below_join_right _ _).trans hv)

/-- **The loop ends for both analyses**, on every graph and whatever is known about functions. -/
theorem Analysis.solve_ends (known : Summaries) (g : Graph) :
    (ForwardNull.analysis known g).Ends g (NullState.Further g) ∧
      (MustDeref.analysis known g).Ends g DerefState.Further :=
  ⟨(ForwardNull.exact_order known g).ends (NullState.wellFounded_further g)
      fun _ _ hs ht hne => NullState.further_join hs ht hne,
    (MustDeref.exact_order known g).ends DerefState.wellFounded_further
      fun _ _ _ _ hne => DerefState.further_join hne⟩

end NullFlow
