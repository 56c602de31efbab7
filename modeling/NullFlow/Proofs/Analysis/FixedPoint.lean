import NullFlow.Analysis.Solver
import NullFlow.Proofs.Graph.Walk

/-!
# What the loop computes

The loop of `Analysis.solve` stops when its queue is empty. What it has reached by then is a **fixed
point**: along every edge out of a block with a state flows a state that is below the one at the end
of the edge. Two facts follow that need no more of the loop.

* `Analysis.Order.solve_along`: the state carried along a single walk is below the one the loop
  keeps for the block at its end. Nothing that can happen on a walk is missed.
* `Analysis.solve_induction`: a property that the entry has, that flows along edges and that
  survives joins holds of every state the loop keeps. Nothing is made up.

An `Analysis.Order` is what the first of these asks of an analysis: an order in which joins go up
and in which flowing is monotone, and for which the rank tells when a join has changed nothing. The
rank is only meaningful for states that **fit** the graph, that is, for those that can arise in it.
-/

namespace NullFlow

namespace Analysis

variable {σ ρ : Type}

/-- **The order of an analysis** on a graph. -/
structure Order (a : Analysis σ ρ) (g : Graph) where
  /-- The states that can arise in the graph. -/
  Fits : σ → Prop
  /-- The first state says at least as much as the second. -/
  Below : σ → σ → Prop
  refl (s : σ) : Below s s
  trans {s t u : σ} : Below s t → Below t u → Below s u
  below_join_left (s t : σ) : Below s (a.join s t)
  below_join_right (s t : σ) : Below t (a.join s t)
  /-- A join that does not move the rank changes nothing. -/
  below_of_rank_le {s t : σ} : Fits s → Fits t → a.rank s ≤ a.rank (a.join s t) → Below t s
  fits_entry : Fits a.entry
  fits_join {s t : σ} : Fits s → Fits t → Fits (a.join s t)
  fits_flow {b : BlockId} {block : Block} {e : Edge} {s t : σ} : g.blocks[b]? = some block →
    Fits s → a.refine block e (a.transfer block s) = some t → Fits t
  /-- Less is known after a block and an edge if less is known before. -/
  flow_mono {block : Block} {e : Edge} {s s' t : σ} : Below s t →
    a.refine block e (a.transfer block s) = some s' →
    ∃ t', a.refine block e (a.transfer block t) = some t' ∧ Below s' t'

/-! ## One edge -/

section Push

variable {a : Analysis σ ρ} {block : Block} {out : σ} {e : Edge} {now : States σ × List BlockId}

/-- The queue with one more block, unless it is there already. -/
def enqueue (queue : List BlockId) (b : BlockId) : List BlockId :=
  if queue.contains b then queue else queue ++ [b]

theorem mem_enqueue {queue : List BlockId} {b c : BlockId} :
    c ∈ enqueue queue b ↔ c ∈ queue ∨ c = b := by
  unfold enqueue
  split
  · next h =>
    refine ⟨Or.inl, fun hc => hc.elim id ?_⟩
    rintro rfl
    exact List.contains_iff_mem.mp h
  · rw [List.mem_append, List.mem_singleton]

/-- **All that an edge can do** to the states and the queue. -/
inductive Pushed (a : Analysis σ ρ) (block : Block) (out : σ) (e : Edge)
    (now : States σ × List BlockId) : States σ × List BlockId → Prop
  /-- The edge cannot be taken. -/
  | blocked (hr : a.refine block e out = none) : Pushed a block out e now now
  /-- What flows along the edge is known at its end. -/
  | settled {t old : σ} (hr : a.refine block e out = some t) (ho : now.1[e.target]? = some old)
      (hle : a.rank old ≤ a.rank (a.join old t)) : Pushed a block out e now now
  /-- The block at the end had no state. -/
  | fresh {t : σ} (hr : a.refine block e out = some t) (ho : now.1[e.target]? = none) :
      Pushed a block out e now (now.1.insert e.target t, enqueue now.2 e.target)
  /-- The block at the end had another state. -/
  | joined {t old : σ} (hr : a.refine block e out = some t) (ho : now.1[e.target]? = some old) :
      Pushed a block out e now
        (now.1.insert e.target (a.join old t), enqueue now.2 e.target)

theorem push_pushed (a : Analysis σ ρ) (block : Block) (out : σ) (e : Edge)
    (now : States σ × List BlockId) : Pushed a block out e now (a.push block out e now) := by
  unfold push
  split
  · next hr => exact .blocked hr
  · next t hr =>
    simp only
    split
    · next ho => exact .fresh hr ho
    · next old ho =>
      split
      · exact .joined hr ho
      · next hlt => exact .settled hr ho (Nat.le_of_not_lt hlt)

end Push

/-! ## Invariants of the loop -/

/-- **A step and a run.** What taking a block off the queue preserves holds when the loop ends, and
then the queue is empty. -/
theorem iterate_invariant (a : Analysis σ ρ) (g : Graph) {I : States σ → List BlockId → Prop}
    (hstep : ∀ {b rest states block state}, I states (b :: rest) → g.blocks[b]? = some block →
      states[b]? = some state →
      I (a.pushAll block (a.transfer block state) (g.outEdges b) (states, rest)).1
        (a.pushAll block (a.transfer block state) (g.outEdges b) (states, rest)).2)
    (hskip : ∀ {b rest states}, I states (b :: rest) →
      (∀ block state, g.blocks[b]? = some block → states[b]? ≠ some state) → I states rest)
    {states : States σ} {queue : List BlockId} (h : I states queue) :
    I (a.iterate g states queue) [] := by
  induction states, queue using iterate.induct a g with
  | case1 states =>
    rw [iterate]
    exact h
  | case2 states b rest state block hs hb now ih =>
    rw [iterate, hb, hs]
    exact ih (hstep h hb hs)
  | case3 states b rest hnone ih =>
    have hnot : ∀ block state, g.blocks[b]? = some block → states[b]? ≠ some state :=
      fun block state hb hs => hnone block state hb hs
    rw [iterate]
    split
    · next block state hb hs => exact absurd hs (hnot block state hb)
    · exact ih (hskip h hnot)

/-- What every edge preserves is preserved by several. -/
theorem pushAll_invariant (a : Analysis σ ρ) (block : Block) (out : σ)
    {I : States σ × List BlockId → Prop} {es : List Edge}
    (hpush : ∀ e ∈ es, ∀ now, I now → I (a.push block out e now))
    {now : States σ × List BlockId} (h : I now) : I (a.pushAll block out es now) := by
  induction es generalizing now with
  | nil => exact h
  | cons e es ih =>
    exact ih (fun d hd => hpush d (List.mem_cons_of_mem e hd)) (hpush e List.mem_cons_self now h)

/-- A state after an edge was there before, or it flows along the edge, joined with what was there
before if there was something. -/
theorem getElem?_push {a : Analysis σ ρ} {block : Block} {out : σ} {e : Edge}
    {now : States σ × List BlockId} {b : BlockId} {s : σ}
    (h : (a.push block out e now).1[b]? = some s) :
    now.1[b]? = some s ∨ b = e.target ∧ ∃ t, a.refine block e out = some t ∧
      (s = t ∨ ∃ old, now.1[b]? = some old ∧ s = a.join old t) := by
  have hins : ∀ {x : σ}, (now.1.insert e.target x)[b]? = some s →
      now.1[b]? = some s ∨ b = e.target ∧ s = x := by
    intro x hx
    rw [Std.ExtTreeMap.getElem?_insert] at hx
    split at hx
    · next heq =>
      rw [Std.LawfulEqCmp.compare_eq_iff_eq] at heq
      exact Or.inr ⟨heq.symm, (Option.some.inj hx).symm⟩
    · exact Or.inl hx
  have hp := a.push_pushed block out e now
  generalize a.push block out e now = next at h hp
  cases hp with
  | blocked _ => exact Or.inl h
  | settled _ _ _ => exact Or.inl h
  | fresh hr _ =>
    exact (hins h).imp_right fun ⟨hb, hs⟩ => ⟨hb, _, hr, Or.inl hs⟩
  | joined hr ho =>
    exact (hins h).imp_right fun ⟨hb, hs⟩ => ⟨hb, _, hr, Or.inr ⟨_, hb ▸ ho, hs⟩⟩

/-- **Every state comes from somewhere.** A property that the entry has, that flows along edges and
that survives joins holds of every state the loop keeps. -/
theorem solve_induction (a : Analysis σ ρ) (g : Graph) {P : BlockId → σ → Prop}
    (hentry : g.entry ∈ g.blocks → P g.entry a.entry)
    (hflow : ∀ {b block s e t}, P b s → g.blocks[b]? = some block → e ∈ g.outEdges b →
      a.refine block e (a.transfer block s) = some t → P e.target t)
    (hjoin : ∀ {b s t}, P b s → P b t → P b (a.join s t))
    {b : BlockId} {s : σ} (h : (a.solve g)[b]? = some s) : P b s := by
  unfold solve at h
  split at h
  · next hin =>
    refine iterate_invariant (I := fun states _ => ∀ b s, states[b]? = some s → P b s) a g
      (fun {c rest states block state} hI hb hs => ?_) (fun hI _ => hI) (fun b s hbs => ?_) b s h
    · refine pushAll_invariant (I := fun now => ∀ b s, now.1[b]? = some s → P b s) a block _
        (fun e he now hnow b s hbs => ?_) hI
      rcases getElem?_push hbs with hold | ⟨rfl, t, hr, rfl | ⟨old, ho, rfl⟩⟩
      · exact hnow b s hold
      · exact hflow (hI c state hs) hb he hr
      · exact hjoin (hnow _ old ho) (hflow (hI c state hs) hb he hr)
    · rw [Std.ExtTreeMap.getElem?_insert] at hbs
      split at hbs
      · next heq =>
        rw [Std.LawfulEqCmp.compare_eq_iff_eq] at heq
        cases hbs
        exact heq ▸ hentry hin
      · simp at hbs
  · simp at h

/-! ## The fixed point -/

namespace Order

variable {a : Analysis σ ρ} {g : Graph} (o : a.Order g)

/-- **The states move up.** Every state is still there or was replaced by one above it, the queue
only grows, and a block whose state has changed is in it. -/
structure Grows (now next : States σ × List BlockId) : Prop where
  above {b : BlockId} {s : σ} (h : now.1[b]? = some s) : ∃ t, next.1[b]? = some t ∧ o.Below s t
  kept {b : BlockId} (h : b ∈ now.2) : b ∈ next.2
  queued {b : BlockId} (h : next.1[b]? ≠ now.1[b]?) : b ∈ next.2

variable {o}

theorem Grows.rfl {now : States σ × List BlockId} : o.Grows now now where
  above h := ⟨_, h, o.refl _⟩
  kept h := h
  queued h := absurd (Eq.refl _) h

theorem Grows.trans {now next last : States σ × List BlockId} (h₁ : o.Grows now next)
    (h₂ : o.Grows next last) : o.Grows now last where
  above h := by
    obtain ⟨t, ht, hst⟩ := h₁.above h
    obtain ⟨u, hu, htu⟩ := h₂.above ht
    exact ⟨u, hu, o.trans hst htu⟩
  kept h := h₂.kept (h₁.kept h)
  queued {b} h := by
    by_cases hb : next.1[b]? = now.1[b]?
    · exact h₂.queued (hb ▸ h)
    · exact h₂.kept (h₁.queued hb)

/-- Setting the state of a block to one above the old one, and queueing the block, moves up. -/
theorem grows_insert {now : States σ × List BlockId} {b : BlockId} {s : σ}
    (h : ∀ old, now.1[b]? = some old → o.Below old s) :
    o.Grows now (now.1.insert b s, enqueue now.2 b) where
  above {c old} hc := by
    rw [Std.ExtTreeMap.getElem?_insert]
    split
    · next heq =>
      rw [Std.LawfulEqCmp.compare_eq_iff_eq] at heq
      exact ⟨s, rfl, h old (heq ▸ hc)⟩
    · exact ⟨old, hc, o.refl old⟩
  kept h := mem_enqueue.mpr (Or.inl h)
  queued {c} hc := by
    rw [Std.ExtTreeMap.getElem?_insert] at hc
    split at hc
    · next heq =>
      rw [Std.LawfulEqCmp.compare_eq_iff_eq] at heq
      exact mem_enqueue.mpr (Or.inr heq.symm)
    · exact absurd rfl hc

theorem grows_push (block : Block) (out : σ) (e : Edge) (now : States σ × List BlockId) :
    o.Grows now (a.push block out e now) := by
  have hp := a.push_pushed block out e now
  generalize a.push block out e now = next at hp
  cases hp with
  | blocked _ => exact Grows.rfl
  | settled _ _ _ => exact Grows.rfl
  | fresh _ ho => exact grows_insert fun old h => by rw [ho] at h; cases h
  | joined _ ho =>
    refine grows_insert fun old h => ?_
    rw [ho] at h
    cases h
    exact o.below_join_left _ _

theorem grows_pushAll (block : Block) (out : σ) (es : List Edge) (now : States σ × List BlockId) :
    o.Grows now (a.pushAll block out es now) :=
  pushAll_invariant (I := fun next => o.Grows now next) a block out
    (fun e _ _ h => h.trans (grows_push block out e _)) Grows.rfl

/-- **What flows along an edge arrives**: the state at its end is above it. -/
theorem push_arrives {block : Block} {out t : σ} {e : Edge} {now : States σ × List BlockId}
    (hr : a.refine block e out = some t) (ht : o.Fits t)
    (hfit : ∀ s, now.1[e.target]? = some s → o.Fits s) :
    ∃ u, (a.push block out e now).1[e.target]? = some u ∧ o.Below t u := by
  have hp := a.push_pushed block out e now
  generalize a.push block out e now = next at hp
  cases hp with
  | blocked hr' =>
    rw [hr] at hr'
    cases hr'
  | @settled t' old hr' ho hle =>
    rw [hr] at hr'
    cases hr'
    exact ⟨old, ho, o.below_of_rank_le (hfit old ho) ht hle⟩
  | fresh hr' _ =>
    rw [hr] at hr'
    cases hr'
    exact ⟨t, Std.ExtTreeMap.getElem?_insert_self, o.refl t⟩
  | joined hr' _ =>
    rw [hr] at hr'
    cases hr'
    exact ⟨_, Std.ExtTreeMap.getElem?_insert_self, o.below_join_right _ _⟩

variable (o) in
/-- All states fit the graph. -/
def AllFit (states : States σ) : Prop := ∀ (b : BlockId) (s : σ), states[b]? = some s → o.Fits s

theorem AllFit.push {block : Block} {out : σ} {e : Edge} {now : States σ × List BlockId}
    (h : o.AllFit now.1) (hout : ∀ t, a.refine block e out = some t → o.Fits t) :
    o.AllFit (a.push block out e now).1 := by
  intro b s hs
  rcases getElem?_push hs with hold | ⟨_, t, hr, rfl | ⟨old, ho, rfl⟩⟩
  · exact h b s hold
  · exact hout _ hr
  · exact o.fits_join (h _ old ho) (hout t hr)

/-- What flows along each of several edges arrives, for what the later ones do only moves up. -/
theorem pushAll_arrives {block : Block} {out t : σ} {e : Edge} {es : List Edge}
    (hout : ∀ e t, a.refine block e out = some t → o.Fits t) (he : e ∈ es)
    (hr : a.refine block e out = some t) {now : States σ × List BlockId}
    (hfit : o.AllFit now.1) :
    ∃ u, (a.pushAll block out es now).1[e.target]? = some u ∧ o.Below t u := by
  induction es generalizing now with
  | nil => cases he
  | cons d es ih =>
    have hstep : a.pushAll block out (d :: es) now
        = a.pushAll block out es (a.push block out d now) := rfl
    rw [hstep]
    rcases List.mem_cons.mp he with rfl | he
    · -- it arrives now, and the later edges only move it up
      obtain ⟨u, hu, htu⟩ := push_arrives hr (hout e t hr) (hfit e.target)
      obtain ⟨w, hw, huw⟩ := (grows_pushAll block out es _).above hu
      exact ⟨w, hw, o.trans htu huw⟩
    · exact ih he (hfit.push (hout d))

variable (o) in
/-- **What flows out of a block has arrived** at the end of every edge. -/
def Settled (states : States σ) (b : BlockId) : Prop :=
  ∀ block s e t, g.blocks[b]? = some block → states[b]? = some s → e ∈ g.outEdges b →
    a.refine block e (a.transfer block s) = some t →
    ∃ u, states[e.target]? = some u ∧ o.Below t u

/-- A settled block stays settled while states move up and its own stays. -/
theorem Settled.mono {now next : States σ × List BlockId} {b : BlockId}
    (h : o.Settled now.1 b) (hg : o.Grows now next) (hb : next.1[b]? = now.1[b]?) :
    o.Settled next.1 b := by
  intro block s e t hblock hs he hr
  obtain ⟨u, hu, htu⟩ := h block s e t hblock (hb ▸ hs) he hr
  obtain ⟨w, hw, huw⟩ := hg.above hu
  exact ⟨w, hw, o.trans htu huw⟩

variable (o) in
/-- **The invariant of the loop**: states fit, and blocks that are not in the queue are settled. -/
structure Invariant (states : States σ) (queue : List BlockId) : Prop where
  fits : o.AllFit states
  settled {b : BlockId} (h : b ∉ queue) : o.Settled states b

/-- **Taking a block off the queue keeps the invariant.** The block itself is settled afterwards
unless one of its own edges has changed its state, and then it is in the queue again. -/
theorem Invariant.step {b : BlockId} {rest : List BlockId} {states : States σ} {block : Block}
    {state : σ} (h : o.Invariant states (b :: rest)) (hb : g.blocks[b]? = some block)
    (hs : states[b]? = some state) :
    o.Invariant (a.pushAll block (a.transfer block state) (g.outEdges b) (states, rest)).1
      (a.pushAll block (a.transfer block state) (g.outEdges b) (states, rest)).2 := by
  have hout : ∀ e t, a.refine block e (a.transfer block state) = some t → o.Fits t :=
    fun e t hr => o.fits_flow hb (h.fits b state hs) hr
  have hg : o.Grows (states, rest)
      (a.pushAll block (a.transfer block state) (g.outEdges b) (states, rest)) :=
    grows_pushAll block _ _ _
  constructor
  · exact pushAll_invariant (I := fun now => o.AllFit now.1) a block _
      (fun e _ now hnow => hnow.push (hout e)) h.fits
  · intro c hc
    -- a block outside of the queue has the state it had
    have hsame := Classical.not_not.mp fun hne => hc (hg.queued (b := c) hne)
    by_cases hcb : c = b
    · -- the block taken off: its edges have just been followed
      subst hcb
      intro block' s e t hblock' hs' he hr
      rw [hb] at hblock'
      rw [hsame, hs] at hs'
      cases hblock'
      cases hs'
      exact pushAll_arrives hout he hr h.fits
    · refine (h.settled ?_).mono hg hsame
      intro hmem
      rcases List.mem_cons.mp hmem with rfl | hrest
      · exact hcb rfl
      · exact hc (hg.kept hrest)

/-- Taking a block off the queue that has no state, or that does not exist, keeps the invariant. -/
theorem Invariant.skip {b : BlockId} {rest : List BlockId} {states : States σ}
    (h : o.Invariant states (b :: rest))
    (hb : ∀ block state, g.blocks[b]? = some block → states[b]? ≠ some state) :
    o.Invariant states rest where
  fits := h.fits
  settled {c} hc := by
    by_cases hcb : c = b
    · subst hcb
      exact fun block s e t hblock hs => absurd hs (hb block s hblock)
    · exact h.settled fun hmem => (List.mem_cons.mp hmem).elim hcb hc

variable (o) in
/-- At the beginning only the entry has a state, and it is in the queue. -/
theorem invariant_start : o.Invariant ((∅ : States σ).insert g.entry a.entry) [g.entry] where
  fits b s h := by
    rw [Std.ExtTreeMap.getElem?_insert] at h
    split at h
    · cases h
      exact o.fits_entry
    · simp at h
  settled {b} hb block s e t _ hs := by
    rw [Std.ExtTreeMap.getElem?_insert] at hs
    split at hs
    · next heq =>
      rw [Std.LawfulEqCmp.compare_eq_iff_eq] at heq
      exact absurd (List.mem_singleton.mpr heq.symm) hb
    · simp at hs

variable (o) in
/-- **A fixed point**: what flows along an edge out of a block with a state is below the state at
the end of the edge. -/
theorem solve_flow {b : BlockId} {block : Block} {e : Edge} {s t : σ}
    (hb : g.blocks[b]? = some block) (hs : (a.solve g)[b]? = some s) (he : e ∈ g.outEdges b)
    (hr : a.refine block e (a.transfer block s) = some t) :
    ∃ u, (a.solve g)[e.target]? = some u ∧ o.Below t u := by
  unfold solve at hs ⊢
  split at hs
  · next hin =>
    have hend : o.Invariant (a.iterate g ((∅ : States σ).insert g.entry a.entry) [g.entry]) [] :=
      a.iterate_invariant g (fun h hb hs => h.step hb hs) (fun h hb => h.skip hb) o.invariant_start
    rw [if_pos hin]
    exact hend.settled List.not_mem_nil block s e t hb hs he hr
  · simp at hs

variable (o) in
/-- The entry keeps a state above the one it began with. -/
theorem solve_entry (hin : g.entry ∈ g.blocks) :
    ∃ s, (a.solve g)[g.entry]? = some s ∧ o.Below a.entry s := by
  unfold solve
  rw [if_pos hin]
  refine a.iterate_invariant g
    (I := fun states _ => ∃ s, states[g.entry]? = some s ∧ o.Below a.entry s)
    (fun {b rest states block state} hI _ _ => ?_) (fun hI _ => hI)
    ⟨a.entry, Std.ExtTreeMap.getElem?_insert_self, o.refl _⟩
  obtain ⟨s, hs, hle⟩ := hI
  obtain ⟨t, ht, hst⟩ := (grows_pushAll (o := o) block (a.transfer block state) (g.outEdges b)
    (states, rest)).above hs
  exact ⟨t, ht, o.trans hle hst⟩

end Order

/-! ## Along a walk -/

/-- The state after a block and an edge out of it, none if the block does not exist or the edge
cannot be taken. -/
def stepAlong (a : Analysis σ ρ) (g : Graph) (s : σ) (e : Edge) : Option σ :=
  (g.blocks[e.source]?).bind fun block => a.refine block e (a.transfer block s)

/-- **The state carried along a walk** from the entry, to the start of the block at its end: none
if one of its edges cannot be taken. -/
def along (a : Analysis σ ρ) (g : Graph) (es : List Edge) : Option σ :=
  es.foldlM (a.stepAlong g) a.entry

@[simp] theorem along_snoc (a : Analysis σ ρ) (g : Graph) (es : List Edge) (e : Edge) :
    a.along g (es ++ [e]) = (a.along g es).bind (a.stepAlong g · e) := by
  simp only [along, List.foldlM_append, List.foldlM_cons, List.foldlM_nil]
  cases es.foldlM (a.stepAlong g) a.entry with
  | none => rfl
  | some s =>
    simp only [Option.bind_eq_bind, Option.bind_some]
    cases a.stepAlong g s e <;> rfl

/-- **Nothing on a walk is missed**: the loop keeps for the block at its end a state above the one
that is carried along the walk. -/
theorem Order.solve_along {a : Analysis σ ρ} {g : Graph} (o : a.Order g) {es : List Edge}
    {b : BlockId} (w : g.Walk g.entry es b) {s : σ} (hs : a.along g es = some s) :
    ∃ t, (a.solve g)[b]? = some t ∧ o.Below s t := by
  induction w generalizing s with
  | nil hb =>
    cases hs
    exact o.solve_entry hb
  | @snoc es c e w he _ ih =>
    rw [along_snoc, Option.bind_eq_some_iff] at hs
    obtain ⟨r, hr, hstep⟩ := hs
    obtain ⟨t, ht, hrt⟩ := ih hr
    rw [stepAlong, Graph.source_of_mem_outEdges he] at hstep
    obtain ⟨block, hblock, hflow⟩ := Option.bind_eq_some_iff.mp hstep
    obtain ⟨t', ht', hst'⟩ := o.flow_mono hrt hflow
    obtain ⟨u, hu, htu⟩ := o.solve_flow hblock ht he ht'
    exact ⟨u, hu, o.trans hst' htu⟩

end Analysis

end NullFlow
