import Mathlib.Logic.Function.Iterate
import NullFlow.Proofs.Analysis.Reached
import NullFlow.Proofs.Check.ReverseNull
import NullFlow.Proofs.Graph.Reachable

/-!
# Two searches that reach the same blocks

Two loops go from block to block with a queue: the search for reachable blocks, in which a block
joins the queue when it is seen for the first time, and the loop of an analysis, in which it joins
whenever its state changes. In a graph without loose ends (`Graph.Closed`) both come to the blocks
at the end of walks from the entry: the search because it follows routes and every route is then a
walk, the analysis of certain dereferences because it takes every edge.

The search is seen here as it goes on, block by block and successor by successor
(`Graph.searchTurn`). With every new block the queue and the set of blocks seen both grow by one, so
the search ends after as many turns as there are reachable blocks.
-/

namespace NullFlow

namespace Graph

variable {g : Graph}

/-- **A graph without loose ends**: the entry exists, and edges join blocks that do. -/
structure Closed (g : Graph) : Prop where
  entry_mem : g.entry ∈ g.blocks
  edges_mem : ∀ e ∈ g.edges, e.source ∈ g.blocks ∧ e.target ∈ g.blocks

/-! ## The turns of the search -/

/-- Looks at a successor. It joins the queue when it is seen for the first time. -/
def visit (now : List BlockId × Std.ExtTreeSet BlockId) (b : BlockId) :
    List BlockId × Std.ExtTreeSet BlockId :=
  if b ∈ now.2 then now else (now.1 ++ [b], now.2.insert b)

/-- **A turn of the search**: takes a block off the queue and looks at its successors. -/
def searchTurn (g : Graph) :
    List BlockId × Std.ExtTreeSet BlockId → List BlockId × Std.ExtTreeSet BlockId
  | ([], seen) => ([], seen)
  | (b :: rest, seen) => (g.successors b).foldl visit (rest, seen)

theorem newOnes_cons_of_mem {seen : Std.ExtTreeSet BlockId} {b : BlockId} (hb : b ∈ seen)
    (bs : List BlockId) : newOnes seen (b :: bs) = newOnes seen bs := by
  simp only [newOnes, List.filter_cons, hb, not_true_eq_false, decide_false, Bool.false_eq_true,
    if_false]

theorem newOnes_cons_of_not_mem {seen : Std.ExtTreeSet BlockId} {b : BlockId} (hb : b ∉ seen)
    (bs : List BlockId) : newOnes seen (b :: bs) = b :: newOnes (seen.insert b) bs := by
  have hfilter : (bs.filter (· ∉ seen)).filter (fun c => !c == b) =
      bs.filter (· ∉ seen.insert b) := by
    rw [List.filter_filter]
    refine List.filter_congr fun c _ => ?_
    rw [Bool.eq_iff_iff]
    simp only [Bool.and_eq_true, Bool.not_eq_true', beq_eq_false_iff_ne, decide_eq_true_eq,
      Std.ExtTreeSet.mem_insert, Std.LawfulEqCmp.compare_eq_iff_eq, not_or, ne_comm (a := c),
      ne_eq]
  simp only [newOnes, List.filter_cons, hb, not_false_eq_true, decide_true, if_true,
    List.eraseDups_cons, hfilter]

/-- **One after the other, the successors add the new ones among them**, each once. -/
theorem foldl_visit (bs queue : List BlockId) (seen : Std.ExtTreeSet BlockId) :
    bs.foldl visit (queue, seen) =
      (queue ++ newOnes seen bs, seen.insertMany (newOnes seen bs)) := by
  induction bs generalizing queue seen with
  | nil =>
    have hnone : newOnes seen [] = [] := rfl
    rw [hnone, List.append_nil, Std.ExtTreeSet.insertMany_nil]
    rfl
  | cons b bs ih =>
    rw [List.foldl_cons, visit]
    by_cases hb : b ∈ seen
    · rw [if_pos hb, ih, newOnes_cons_of_mem hb]
    · rw [if_neg hb, ih, newOnes_cons_of_not_mem hb, List.append_assoc,
        Std.ExtTreeSet.insertMany_cons]
      rfl

/-- **Queue and set grow together.** -/
theorem length_foldl_visit (bs : List BlockId) (now : List BlockId × Std.ExtTreeSet BlockId) :
    (bs.foldl visit now).1.length + now.2.size = now.1.length + (bs.foldl visit now).2.size := by
  induction bs generalizing now with
  | nil => rfl
  | cons b bs ih =>
    have hvisit : (visit now b).1.length + now.2.size = now.1.length + (visit now b).2.size := by
      unfold visit
      split
      · rfl
      · next hb =>
        have hcontains : ¬ now.2.contains b = true := by
          rwa [Std.ExtTreeSet.contains_iff_mem]
        rw [Std.ExtTreeSet.size_insert, if_neg hcontains, List.length_append,
          List.length_singleton]
        omega
    have htail := ih (visit now b)
    rw [List.foldl_cons]
    omega

/-- A turn does what a step of the search does. -/
theorem searchTurn_cons (b : BlockId) (rest : List BlockId) (seen : Std.ExtTreeSet BlockId) :
    g.searchTurn (b :: rest, seen) = (rest ++ newOnes seen (g.successors b),
      seen.insertMany (newOnes seen (g.successors b))) := foldl_visit ..

/-- **The search ends**, and it has as many turns as there are blocks in the queue and blocks it has
yet to see. -/
theorem exists_searchTurns (queue : List BlockId) (seen : Std.ExtTreeSet BlockId) :
    ∃ n, n + seen.size = queue.length + (g.explore queue seen).size ∧
      g.searchTurn^[n] (queue, seen) = ([], g.explore queue seen) := by
  induction queue, seen using explore.induct g with
  | case1 seen =>
    refine ⟨0, ?_, ?_⟩ <;> rw [explore]
    · rfl
    · rfl
  | case2 seen b rest more hmore ih =>
    have hnone : newOnes seen (g.successors b) = [] := List.isEmpty_iff.mp hmore
    obtain ⟨n, hn, hturns⟩ := ih
    have hexplore : g.explore (b :: rest) seen = g.explore rest seen := by
      rw [explore]
      exact if_pos hmore
    refine ⟨n + 1, ?_, ?_⟩
    · rw [hexplore, List.length_cons]
      omega
    · rw [Function.iterate_succ_apply, searchTurn_cons, hnone, List.append_nil,
        Std.ExtTreeSet.insertMany_nil, hturns, hexplore]
  | case3 seen b rest more hmore ih =>
    obtain ⟨n, hn, hturns⟩ := ih
    have hexplore : g.explore (b :: rest) seen =
        g.explore (rest ++ more) (seen.insertMany more) := by
      rw [explore]
      exact if_neg hmore
    have hgrow : (rest ++ more).length + seen.size = rest.length + (seen.insertMany more).size := by
      have hvisit := length_foldl_visit (g.successors b) (rest, seen)
      rwa [foldl_visit] at hvisit
    refine ⟨n + 1, ?_, ?_⟩
    · rw [hexplore, List.length_cons]
      omega
    · rw [Function.iterate_succ_apply, searchTurn_cons, hturns, hexplore]

/-- **Each reachable block is taken off the queue once**, then the search is over. -/
theorem searchTurn_iterate (g : Graph) :
    g.searchTurn^[g.reachable.size] ([g.entry], {g.entry}) = ([], g.reachable) := by
  obtain ⟨n, hn, hturns⟩ := g.exists_searchTurns [g.entry] {g.entry}
  have hsize : ({g.entry} : Std.ExtTreeSet BlockId).size = 1 := rfl
  have hall : n = g.reachable.size := by
    rw [hsize, List.length_singleton, Nat.add_comm] at hn
    exact Nat.add_left_cancel hn
  rw [← hall]
  exact hturns

/-! ## What both come to -/

/-- In a graph without loose ends the routes are the walks. -/
theorem Closed.exists_route_iff (h : g.Closed) {b : BlockId} :
    (∃ bs, g.Route bs b) ↔ g.Reaches b := by
  constructor
  · rintro ⟨bs, r⟩
    induction r with
    | entry => exact ⟨[], .nil h.entry_mem⟩
    | step r hc ih =>
      obtain ⟨e, he, hsource, rfl⟩ := mem_successors.mp hc
      exact ih.snoc (mem_outEdges.mpr ⟨he, hsource⟩) (h.edges_mem e he).2
  · rintro ⟨es, w⟩
    induction w with
    | nil _ => exact ⟨_, .entry⟩
    | snoc w he _ ih =>
      obtain ⟨bs, r⟩ := ih
      obtain ⟨he, hsource⟩ := mem_outEdges.mp he
      exact ⟨_, r.step (mem_successors.mpr ⟨_, he, hsource, rfl⟩)⟩

/-- **The search finds the blocks at the end of walks.** -/
theorem Closed.mem_reachable_iff (h : g.Closed) {b : BlockId} : b ∈ g.reachable ↔ g.Reaches b :=
  Graph.mem_reachable_iff.trans h.exists_route_iff

/-- The numbers of the blocks are listed in ascending order. -/
theorem pairwise_blockIds (g : Graph) : g.blockIds.Pairwise (· < ·) :=
  Std.ExtTreeMap.ordered_keys.imp Nat.compare_eq_lt.mp

/-- The unreachable blocks are those that exist and that the search does not find. -/
theorem mem_unreachable_iff {b : BlockId} :
    b ∈ g.findUnreachable.unreachable ↔ b ∈ g.blocks ∧ b ∉ g.reachable := by
  simp only [findUnreachable, List.mem_filter, blockIds, Std.ExtTreeMap.mem_keys,
    decide_eq_true_eq]

end Graph

namespace Graph.Closed

variable {g : Graph} (h : g.Closed)

include h

/-- In a graph without loose ends only blocks that control reaches have a state. -/
theorem reaches_of_solve {σ ρ : Type} (a : Analysis σ ρ) {b : BlockId} {s : σ}
    (hs : (a.solve g)[b]? = some s) : g.Reaches b := by
  refine a.reaches_of_solve hs (a.solve_induction g (P := fun b _ => b ∈ g.blocks) id
    (fun _ _ he _ => ?_) (fun hb _ => hb) hs)
  exact (h.edges_mem _ (mem_outEdges.mp he).1).2

/-- The blocks with a state are those at the end of walks. -/
theorem mem_solve_iff (known : Summaries) {b : BlockId} :
    b ∈ (MustDeref.analysis known g).solve g ↔ g.Reaches b := by
  rw [Std.ExtTreeMap.mem_iff_isSome_getElem?, Option.isSome_iff_exists]
  constructor
  · rintro ⟨s, hs⟩
    exact h.reaches_of_solve _ hs
  · rintro ⟨es, w⟩
    obtain ⟨s, hs, -⟩ := MustDeref.exists_solve_of_walk known w
    exact ⟨s, hs⟩

/-- **The search and the analysis of certain dereferences come to the same blocks** in a graph
without loose ends, whatever is known of the called functions: to those at the end of walks from the
entry. The search is over after as many turns as there are such blocks, and the unreachable blocks
are the others, in ascending order. -/
theorem searches_agree (known : Summaries) :
    g.searchTurn^[g.reachable.size] ([g.entry], {g.entry}) = ([], g.reachable) ∧
      (∀ b, b ∈ g.reachable ↔ g.Reaches b) ∧
      g.findUnreachable.unreachable.Pairwise (· < ·) ∧
      (∀ b, b ∈ g.findUnreachable.unreachable ↔ b ∈ g.blocks ∧ ¬g.Reaches b) ∧
      ∀ b, b ∈ (MustDeref.analysis known g).solve g ↔ g.Reaches b := by
  refine ⟨g.searchTurn_iterate, fun b => h.mem_reachable_iff, g.pairwise_blockIds.filter _,
    fun b => ?_, fun b => h.mem_solve_iff known⟩
  rw [mem_unreachable_iff, h.mem_reachable_iff]

end Graph.Closed

namespace Graph

/-- A loop with two edges into its body, and a loop that nothing leads to, with an edge into the
first one and one to a block of its own. -/
def twoLoops : Graph :=
  ({ function := "f", file := "f.c" } : Graph)
    |>.addBlock { id := 0, label := "entry", isEntry := true }
    |>.addBlock { id := 1, label := "body" }
    |>.addBlock { id := 2, label := "after" }
    |>.addBlock { id := 3, label := "again" }
    |>.addBlock { id := 4, label := "left" }
    |>.addEdge 0 1 .trueBranch
    |>.addEdge 0 1 .falseBranch
    |>.addEdge 1 0 .loopBack
    |>.addEdge 2 3 .jump
    |>.addEdge 3 2 .loopBack
    |>.addEdge 3 1 .jump
    |>.addEdge 3 4 .loopExit

theorem closed_twoLoops : twoLoops.Closed where
  entry_mem := by decide
  edges_mem := by decide

/-- The loop that nothing leads to is not reached, though edges lead from there into the other
one. -/
theorem searches_agree_twoLoops : twoLoops.Closed ∧
    1 ∈ (MustDeref.analysis {} twoLoops).solve twoLoops ∧
    3 ∉ (MustDeref.analysis {} twoLoops).solve twoLoops ∧
    3 ∈ twoLoops.findUnreachable.unreachable := by
  obtain ⟨-, -, -, hunreachable, hsolve⟩ := closed_twoLoops.searches_agree {}
  -- no edge leads out of the first loop
  have hloop : ∀ e ∈ twoLoops.edges, e.source < 2 → e.target < 2 := by decide
  have hlt {es : List Edge} {b : BlockId} (w : twoLoops.Walk 0 es b) : b < 2 := by
    induction w with
    | nil _ => exact Nat.two_pos
    | snoc _ he _ ih =>
      obtain ⟨hmem, rfl⟩ := mem_outEdges.mp he
      exact hloop _ hmem ih
  have hnot : ¬twoLoops.Reaches 3 := fun ⟨_, w⟩ => absurd (hlt w) (by decide)
  have hbody : twoLoops.Reaches 1 :=
    ⟨_, (Walk.nil (g := twoLoops) (b := 0) (by decide)).snoc (e := ⟨0, 1, .trueBranch⟩)
      (by decide) (by decide)⟩
  exact ⟨closed_twoLoops, (hsolve 1).mpr hbody, fun h => hnot ((hsolve 3).mp h),
    (hunreachable 3).mpr ⟨by decide, hnot⟩⟩

end Graph

end NullFlow
