import NullFlow.Graph.Reach

/-!
# Routes through a graph

The search for reachable blocks and all that builds on it follow edges and never ask whether the
block at the end of an edge exists, as a walk does. What they follow is a **route**: the blocks met
on the way from the entry along edges, whether they exist or not. A route is given by its blocks,
so parallel edges make one route, and the last block stands first.

`Graph.mem_reachable_iff`: the blocks that the search finds are those that some route leads to.
-/

namespace NullFlow

namespace Graph

/-- **A route** from the entry to a block, by the blocks it meets, the last one first. -/
inductive Route (g : Graph) : List BlockId → BlockId → Prop
  /-- Staying at the entry. -/
  | entry : Route g [g.entry] g.entry
  /-- Taking one more edge. -/
  | step {bs : List BlockId} {b c : BlockId} (r : Route g bs b) (hc : c ∈ g.successors b) :
      Route g (c :: bs) c

variable {g : Graph}

/-- A route meets the block it leads to. -/
theorem Route.mem_end {bs : List BlockId} {b : BlockId} (r : g.Route bs b) : b ∈ bs := by
  cases r with
  | entry => exact List.mem_cons_self
  | step r hc => exact List.mem_cons_self

/-- A route meets the entry. -/
theorem Route.entry_mem {bs : List BlockId} {b : BlockId} (r : g.Route bs b) : g.entry ∈ bs := by
  induction r with
  | entry => exact List.mem_cons_self
  | step r hc ih => exact List.mem_cons_of_mem _ ih

/-- **To a block that a route meets, the beginning of the route leads.** -/
theorem Route.exists_suffix {bs : List BlockId} {a b : BlockId} (r : g.Route bs b) (ha : a ∈ bs) :
    ∃ as, g.Route as a ∧ as <:+ bs := by
  induction r with
  | entry =>
    obtain rfl := List.mem_singleton.mp ha
    exact ⟨_, .entry, List.suffix_rfl⟩
  | @step bs b c r hc ih =>
    rcases List.mem_cons.mp ha with rfl | ha
    · exact ⟨a :: bs, r.step hc, List.suffix_rfl⟩
    · obtain ⟨as, ras, hsuf⟩ := ih ha
      exact ⟨as, ras, hsuf.trans (List.suffix_cons c bs)⟩

/-! ## The search -/

/-- **What the search knows at any time**: routes lead to the blocks that it has seen, and those
whose successors it has not all seen are in the queue. -/
structure Explored (g : Graph) (queue : List BlockId) (seen : Std.ExtTreeSet BlockId) : Prop where
  routes {b : BlockId} : b ∈ seen → ∃ bs, g.Route bs b
  queued {b : BlockId} : b ∈ queue → b ∈ seen
  waiting {b : BlockId} : b ∈ seen → b ∈ queue ∨ ∀ c ∈ g.successors b, c ∈ seen

namespace Explored

variable {b : BlockId} {rest : List BlockId} {seen : Std.ExtTreeSet BlockId}

theorem start (g : Graph) : g.Explored [g.entry] {g.entry} where
  routes {b} hb := by
    obtain rfl := mem_singleton.mp hb
    exact ⟨_, .entry⟩
  queued hb := mem_singleton.mpr (List.mem_singleton.mp hb)
  waiting hb := Or.inl (List.mem_singleton.mpr (mem_singleton.mp hb))

/-- A block without new successors need not wait any more. -/
theorem drop (h : g.Explored (b :: rest) seen) (hnone : newOnes seen (g.successors b) = []) :
    g.Explored rest seen where
  routes := h.routes
  queued hc := h.queued (List.mem_cons_of_mem b hc)
  waiting {c} hc := by
    rcases h.waiting hc with hc' | hc'
    · rcases List.mem_cons.mp hc' with rfl | hc'
      · refine Or.inr fun d hd => ?_
        by_cases hd' : d ∈ seen
        · exact hd'
        · have hnew : d ∈ newOnes seen (g.successors c) := mem_newOnes.mpr ⟨hd, hd'⟩
          rw [hnone] at hnew
          exact absurd hnew List.not_mem_nil
      · exact Or.inl hc'
    · exact Or.inr hc'

/-- The new successors of a block are seen and wait in its place. -/
theorem add (h : g.Explored (b :: rest) seen) : g.Explored
    (rest ++ newOnes seen (g.successors b)) (seen.insertMany (newOnes seen (g.successors b))) := by
  have hin : ∀ c, c ∈ seen.insertMany (newOnes seen (g.successors b)) ↔
      c ∈ seen ∨ c ∈ newOnes seen (g.successors b) := by
    intro c
    rw [Std.ExtTreeSet.mem_insertMany_list, List.contains_iff_mem]
  refine ⟨fun {c} hc => ?_, fun {c} hc => (hin c).mpr ?_, fun {c} hc => ?_⟩
  · rcases (hin c).mp hc with hc | hc
    · exact h.routes hc
    · obtain ⟨bs, r⟩ := h.routes (h.queued List.mem_cons_self)
      exact ⟨c :: bs, r.step (mem_newOnes.mp hc).1⟩
  · exact (List.mem_append.mp hc).imp_left fun hc => h.queued (List.mem_cons_of_mem b hc)
  · rcases (hin c).mp hc with hc | hc
    · rcases h.waiting hc with hc' | hc'
      · rcases List.mem_cons.mp hc' with rfl | hc'
        · -- the successors of the block itself have all been seen by now
          refine Or.inr fun d hd => (hin d).mpr ?_
          by_cases hd' : d ∈ seen
          · exact Or.inl hd'
          · exact Or.inr (mem_newOnes.mpr ⟨hd, hd'⟩)
        · exact Or.inl (List.mem_append_left _ hc')
      · exact Or.inr fun d hd => (hin d).mpr (Or.inl (hc' d hd))
    · exact Or.inl (List.mem_append_right rest hc)

/-- **In the end nothing waits any more.** -/
theorem explore {queue : List BlockId} (h : g.Explored queue seen) :
    g.Explored [] (g.explore queue seen) := by
  fun_induction Graph.explore g queue seen with
  | case1 seen => exact h
  | case2 seen c rest more hmore ih => exact ih (h.drop (List.isEmpty_iff.mp hmore))
  | case3 seen c rest more hmore ih => exact ih h.add

end Explored

/-- **The reachable blocks are those that routes lead to.** -/
theorem mem_reachable_iff {b : BlockId} : b ∈ g.reachable ↔ ∃ bs, g.Route bs b := by
  have h : g.Explored [] g.reachable := (Explored.start g).explore
  constructor
  · exact h.routes
  · rintro ⟨bs, r⟩
    induction r with
    | entry => exact g.entry_mem_reachable
    | step r hc ih => exact (h.waiting ih).resolve_left List.not_mem_nil _ hc

end Graph

end NullFlow
