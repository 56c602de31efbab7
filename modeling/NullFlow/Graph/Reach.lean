import NullFlow.Graph.Basic
import Std.Data.ExtTreeSet

/-!
# Reachable blocks

Which blocks can be reached from a block along edges. The search keeps the blocks it has seen and a
queue of those whose successors it has yet to look at, and ends because each step either sees a
new block, of which there are no more than edges, or shortens the queue.

`Graph.reachable` starts at the entry.
-/

namespace NullFlow

namespace Graph

/-- The members of a list that a set lacks, each once. -/
def newOnes (seen : Std.ExtTreeSet BlockId) (bs : List BlockId) : List BlockId :=
  (bs.filter (· ∉ seen)).eraseDups

theorem mem_newOnes {seen : Std.ExtTreeSet BlockId} {bs : List BlockId} {b : BlockId} :
    b ∈ newOnes seen bs ↔ b ∈ bs ∧ b ∉ seen := by
  simp only [newOnes, List.mem_eraseDups, List.mem_filter, decide_eq_true_eq]

theorem mem_singleton {a b : BlockId} : a ∈ ({b} : Std.ExtTreeSet BlockId) ↔ a = b := by
  rw [Std.ExtTreeSet.singleton_eq_insert, Std.ExtTreeSet.mem_insert,
    Std.LawfulEqCmp.compare_eq_iff_eq, eq_comm]
  exact or_iff_left Std.ExtTreeSet.not_mem_empty

/-- How many edges lead to blocks outside of a set. -/
def edgesOutside (g : Graph) (seen : Std.ExtTreeSet BlockId) : Nat :=
  g.edges.countP (fun e => e.target ∉ seen)

theorem edgesOutside_lt (g : Graph) {seen : Std.ExtTreeSet BlockId} {b c : BlockId}
    {more : List BlockId} (hc : c ∈ more) (hg : c ∈ g.successors b) (hn : c ∉ seen) :
    g.edgesOutside (seen.insertMany more) < g.edgesOutside seen := by
  obtain ⟨e, he, _, rfl⟩ := mem_successors.mp hg
  unfold edgesOutside
  have hle : ∀ l : List Edge, l.countP (fun e => e.target ∉ seen.insertMany more)
      ≤ l.countP (fun e => e.target ∉ seen) := by
    intro l
    refine List.countP_mono_left (fun x _ h => ?_)
    simp only [decide_eq_true_eq] at h ⊢
    exact fun hx => h (Std.ExtTreeSet.mem_insertMany_list.mpr (Or.inl hx))
  obtain ⟨l₁, l₂, hl⟩ := List.append_of_mem he
  rw [hl]
  simp only [List.countP_append, List.countP_cons]
  have h₁ := hle l₁
  have h₂ := hle l₂
  have hin : e.target ∈ seen.insertMany more :=
    Std.ExtTreeSet.mem_insertMany_list.mpr (Or.inr (by simpa using hc))
  simp only [hin, hn, not_true_eq_false, not_false_eq_true, decide_false, decide_true,
    Bool.false_eq_true, ite_true, ite_false]
  omega

/-- **The search**: the blocks seen, once the queue is empty. -/
def explore (g : Graph) (queue : List BlockId) (seen : Std.ExtTreeSet BlockId) :
    Std.ExtTreeSet BlockId :=
  match queue with
  | [] => seen
  | b :: rest =>
    let more := newOnes seen (g.successors b)
    if more.isEmpty then g.explore rest seen
    else g.explore (rest ++ more) (seen.insertMany more)
termination_by (g.edgesOutside seen, queue.length)
decreasing_by
  · exact Prod.Lex.right _ (by simp)
  · next hne =>
    refine Prod.Lex.left _ _ ?_
    obtain ⟨c, hc⟩ := List.exists_mem_of_ne_nil _
      (show newOnes seen (g.successors b) ≠ [] by simpa using hne)
    exact edgesOutside_lt g hc (mem_newOnes.mp hc).1 (mem_newOnes.mp hc).2

/-- **The blocks that can be reached from the entry**, the entry included. -/
def reachable (g : Graph) : Std.ExtTreeSet BlockId := g.explore [g.entry] {g.entry}

/-- The search forgets no block. -/
theorem mem_explore {g : Graph} {queue : List BlockId} {seen : Std.ExtTreeSet BlockId} {b : BlockId}
    (h : b ∈ seen) : b ∈ g.explore queue seen := by
  fun_induction explore g queue seen with
  | case1 seen => exact h
  | case2 seen c rest more hmore ih => exact ih h
  | case3 seen c rest more hmore ih =>
    exact ih (Std.ExtTreeSet.mem_insertMany_list.mpr (Or.inl h))

theorem entry_mem_reachable (g : Graph) : g.entry ∈ g.reachable :=
  mem_explore (mem_singleton.mpr rfl)

/-- **Brings the list of unreachable blocks up to date.** -/
def findUnreachable (g : Graph) : Graph :=
  { g with unreachable := g.blockIds.filter (· ∉ g.reachable) }

end Graph

end NullFlow
