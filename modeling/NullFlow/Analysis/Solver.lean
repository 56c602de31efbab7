import NullFlow.Graph.Basic
import NullFlow.Total

/-!
# Data flow over a graph

A **forward analysis** keeps a state for every block that control can reach and pushes states along
edges until none changes. What a block does to a state is its `transfer`; what taking an edge tells
is its `refine`, which may also show that the edge cannot be taken. Where two edges meet their
states are joined. A block that nothing flows to has no state, so a join only ever sees states that
came along some walk.

`Analysis.solve` keeps a queue of blocks whose state has changed. A state is replaced only by one of
smaller **rank**, and a block joins the queue only when its state is new or replaced; this is why
the loop ends (`Analysis.push_eq_or_better`).
-/

namespace NullFlow

/-- **A forward analysis** with states `σ` and reports `ρ`. -/
structure Analysis (σ ρ : Type) where
  /-- The state at the entry. -/
  entry : σ
  /-- The state where two states meet, the older one first. -/
  join : σ → σ → σ
  /-- The state after a block. -/
  transfer : Block → σ → σ
  /-- The reports made in a block that is entered with a state. -/
  reports : Block → σ → List ρ
  /-- The state after an edge out of a block, none if the edge cannot be taken. -/
  refine : Block → Edge → σ → Option σ
  /-- How far a state may still move when it is joined with others. -/
  rank : σ → Nat

/-- **The states of the blocks**, at their start. -/
abbrev States (σ : Type) := Std.ExtTreeMap BlockId σ

namespace States

variable {σ : Type}

/-- How many edges lead to blocks without a state. -/
def missing (edges : List Edge) (s : States σ) : Nat :=
  total (edges.map fun e => if (s[e.target]?).isSome then 0 else 1)

/-- The ranks of the states at the ends of the edges. -/
def ranks (rank : σ → Nat) (edges : List Edge) (s : States σ) : Nat :=
  total (edges.map fun e => (s[e.target]?).elim 0 rank)

/-- **A state changed for the better**: fewer blocks lack one, or the same and the ranks are
smaller. -/
def Better (rank : σ → Nat) (edges : List Edge) (t s : States σ) : Prop :=
  Prod.Lex (· < ·) (· < ·) (missing edges t, ranks rank edges t)
    (missing edges s, ranks rank edges s)

theorem Better.trans {rank : σ → Nat} {edges : List Edge} {r s t : States σ}
    (h₁ : Better rank edges r s) (h₂ : Better rank edges s t) : Better rank edges r t := by
  unfold Better at *
  rw [Prod.lex_def] at *
  omega

/-- A first state at the end of an edge is better than none. -/
theorem better_of_new (rank : σ → Nat) {edges : List Edge} {e : Edge} (he : e ∈ edges)
    {s : States σ} (hs : s[e.target]? = none) (x : σ) :
    Better rank edges (s.insert e.target x) s := by
  refine Prod.Lex.left _ _ (total_map_lt (fun a _ => ?_) he ?_)
  · rw [Std.ExtTreeMap.getElem?_insert]
    by_cases h : compare e.target a.target = .eq <;> simp [h]
  · rw [Std.ExtTreeMap.getElem?_insert]
    simp [hs]

/-- A state of smaller rank at the end of an edge is better. -/
theorem better_of_rank_lt (rank : σ → Nat) {edges : List Edge} {e : Edge} (he : e ∈ edges)
    {s : States σ} {x y : σ} (hs : s[e.target]? = some y) (hlt : rank x < rank y) :
    Better rank edges (s.insert e.target x) s := by
  have hmiss : missing edges (s.insert e.target x) = missing edges s := by
    unfold missing
    congr 1
    refine List.map_congr_left (fun a _ => ?_)
    rw [Std.ExtTreeMap.getElem?_insert]
    by_cases h : compare e.target a.target = .eq
    · rw [Std.LawfulEqCmp.compare_eq_iff_eq] at h
      simp [← h, hs]
    · simp [h]
  unfold Better
  rw [hmiss]
  refine Prod.Lex.right _ (total_map_lt (fun a _ => ?_) he ?_)
  · rw [Std.ExtTreeMap.getElem?_insert]
    by_cases h : compare e.target a.target = .eq
    · rw [Std.LawfulEqCmp.compare_eq_iff_eq] at h
      simp [← h, hs]
      omega
    · simp [h]
  · rw [Std.ExtTreeMap.getElem?_insert]
    simp [hs, hlt]

end States

namespace Analysis

variable {σ ρ : Type}

/-- **What flows along one edge.** The state at its end is set if there was none, or replaced by
the join if that has a smaller rank; then the block joins the queue, unless it is there already. -/
def push (a : Analysis σ ρ) (block : Block) (out : σ) (e : Edge)
    (now : States σ × List BlockId) : States σ × List BlockId :=
  match a.refine block e out with
  | none => now
  | some flowing =>
    let enqueued := if now.2.contains e.target then now.2 else now.2 ++ [e.target]
    match now.1[e.target]? with
    | none => (now.1.insert e.target flowing, enqueued)
    | some old =>
      if a.rank (a.join old flowing) < a.rank old then
        (now.1.insert e.target (a.join old flowing), enqueued)
      else now

/-- What flows along the edges out of a block. -/
def pushAll (a : Analysis σ ρ) (block : Block) (out : σ) (edges : List Edge)
    (now : States σ × List BlockId) : States σ × List BlockId :=
  edges.foldl (fun now e => a.push block out e now) now

/-- **An edge changes nothing, or it makes the states better.** -/
theorem push_eq_or_better (a : Analysis σ ρ) (block : Block) (out : σ) {edges : List Edge}
    {e : Edge} (he : e ∈ edges) (now : States σ × List BlockId) :
    a.push block out e now = now
      ∨ States.Better a.rank edges (a.push block out e now).1 now.1 := by
  unfold push
  split
  · exact Or.inl rfl
  · simp only
    split
    · next h => exact Or.inr (States.better_of_new a.rank he h _)
    · next old h =>
      split
      · next hlt => exact Or.inr (States.better_of_rank_lt a.rank he h hlt)
      · exact Or.inl rfl

/-- Several edges change nothing, or they make the states better. -/
theorem pushAll_eq_or_better (a : Analysis σ ρ) (block : Block) (out : σ) (edges : List Edge)
    (es : List Edge) (hes : ∀ e ∈ es, e ∈ edges) (now : States σ × List BlockId) :
    a.pushAll block out es now = now
      ∨ States.Better a.rank edges (a.pushAll block out es now).1 now.1 := by
  induction es generalizing now with
  | nil => exact Or.inl rfl
  | cons e es ih =>
    have htail := ih (fun d hd => hes d (List.mem_cons_of_mem e hd)) (a.push block out e now)
    have hstep : a.pushAll block out (e :: es) now
        = a.pushAll block out es (a.push block out e now) := rfl
    rw [hstep]
    rcases a.push_eq_or_better block out (hes e List.mem_cons_self) now with h | h
    · rwa [h] at htail ⊢
    · rcases htail with h' | h'
      · exact Or.inr (by rw [h']; exact h)
      · exact Or.inr (h'.trans h)

/-- **The loop**: takes a block off the queue and pushes its state along its edges, until the queue
is empty. -/
def iterate (a : Analysis σ ρ) (g : Graph) (states : States σ) (queue : List BlockId) :
    States σ :=
  match queue with
  | [] => states
  | b :: rest =>
    match g.blocks[b]?, states[b]? with
    | some block, some state =>
      let now := a.pushAll block (a.transfer block state) (g.outEdges b) (states, rest)
      a.iterate g now.1 now.2
    | _, _ => a.iterate g states rest
termination_by (States.missing g.edges states, States.ranks a.rank g.edges states, queue.length)
decreasing_by
  · rcases a.pushAll_eq_or_better block (a.transfer block state) g.edges
      (g.outEdges b) (fun e he => (Graph.mem_outEdges.mp he).1) (states, rest) with h | h
    · rw [h]
      exact Prod.Lex.right _ (Prod.Lex.right _ (by simp))
    · have h' : States.Better a.rank g.edges now.1 states := h
      unfold States.Better at h'
      rw [Prod.lex_def] at h'
      rcases h' with h' | ⟨h₁, h₂⟩
      · exact Prod.Lex.left _ _ h'
      · simp only at h₁ h₂
        rw [h₁]
        exact Prod.Lex.right _ (Prod.Lex.left _ _ h₂)
  · exact Prod.Lex.right _ (Prod.Lex.right _ (by simp))

/-- **The states at the start of all blocks that control reaches.** A graph whose entry does not
exist has none. -/
def solve (a : Analysis σ ρ) (g : Graph) : States σ :=
  if g.entry ∈ g.blocks then
    a.iterate g ((∅ : States σ).insert g.entry a.entry) [g.entry]
  else ∅

/-- **The reports of all blocks that control reaches**, in the order of the blocks. -/
def collect (a : Analysis σ ρ) (g : Graph) : List ρ :=
  let states := a.solve g
  g.blocks.toList.flatMap fun (b, block) =>
    match states[b]? with
    | some state => a.reports block state
    | none => []

/-- **The states at the end of the exits** that control reaches. -/
def exitStates (a : Analysis σ ρ) (g : Graph) : List σ :=
  let states := a.solve g
  g.exits.filterMap fun b =>
    match g.blocks[b]?, states[b]? with
    | some block, some state => some (a.transfer block state)
    | _, _ => none

end Analysis

end NullFlow
