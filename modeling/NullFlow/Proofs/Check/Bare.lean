import Mathlib.Data.List.Basic
import NullFlow.Check
import NullFlow.Proofs.Values

/-!
# What the checks see of a graph

A graph says of each statement what it is, where it begins and how it reads, and of each condition
how it reads. All of that is for reports about the graph. The analyses look at the facts of a block,
at what its condition says about pointers and at the line of the condition. `Graph.bare` leaves
nothing else, nor what was computed of the graph when it was finished, and the checks find the same
in what is left (`CheckOptions.check_map_bare`).
-/

namespace NullFlow

/-- How a block ends, without texts other than the names of labels. -/
def Terminator.bare : Terminator → Terminator
  | .branch _ line test => .branch "" line test
  | .switch _ => .switch ""
  | .noReturn _ => .noReturn ""
  | t => t

/-- A block with all of its facts in one statement. -/
def Block.bare (b : Block) : Block :=
  { b with
    startLine := 0
    endLine := 0
    terminator := b.terminator.bare
    statements := [⟨0, .other, "", b.facts⟩] }

/-- **What the checks see of a graph.** -/
def Graph.bare (g : Graph) : Graph :=
  { g with
    blocks := g.blocks.map fun _ b => b.bare
    dominators := ∅
    unreachable := [] }

theorem Block.facts_bare (b : Block) : b.bare.facts = b.facts := List.append_nil _

namespace Graph

theorem getElem?_bare (g : Graph) (b : BlockId) :
    g.bare.blocks[b]? = (g.blocks[b]?).map Block.bare := Std.ExtTreeMap.getElem?_map

theorem blockList_bare (g : Graph) : g.bare.blockList = g.blockList.map Block.bare := by
  unfold blockList bare
  rw [values_eq_map, values_eq_map, Std.ExtTreeMap.toList_map, List.map_map, List.map_map]
  rfl

theorem flatMap_blockList_bare {α : Type} (g : Graph) {f : Block → List α}
    (hf : ∀ b, f b.bare = f b) : g.bare.blockList.flatMap f = g.blockList.flatMap f := by
  rw [blockList_bare, List.flatMap_map]
  exact congrArg g.blockList.flatMap (funext hf)

theorem facts_bare (g : Graph) : g.bare.facts = g.facts :=
  g.flatMap_blockList_bare Block.facts_bare

theorem vars_bare (g : Graph) : g.bare.vars = g.vars := by
  unfold vars
  rw [g.flatMap_blockList_bare fun b => ?_]
  unfold blockVars
  rw [b.facts_bare]
  cases hterm : b.terminator <;> simp only [Block.bare, hterm, Terminator.bare]

theorem lastLine_bare (g : Graph) : g.bare.lastLine = g.lastLine := by
  unfold lastLine
  rw [g.flatMap_blockList_bare fun b => ?_]
  unfold blockLines
  rw [b.facts_bare]
  cases hterm : b.terminator <;> simp only [Block.bare, hterm, Terminator.bare]

end Graph

/-! ## Analyses -/

namespace Analysis

variable {σ ρ : Type} {a : Analysis σ ρ}

/-- **An analysis sees no more of a block** than the checks do. -/
structure SeesBare (a : Analysis σ ρ) : Prop where
  transfer (b : Block) : a.transfer b.bare = a.transfer b
  reports (b : Block) : a.reports b.bare = a.reports b
  refine (b : Block) : a.refine b.bare = a.refine b

namespace SeesBare

variable (sees : a.SeesBare) (g : Graph)

include sees

theorem pushAll_bare (block : Block) (out : σ) (es : List Edge) (now : States σ × List BlockId) :
    a.pushAll block.bare out es now = a.pushAll block out es now := by
  unfold pushAll
  refine congrArg (List.foldl · now es) (funext fun now => funext fun e => ?_)
  unfold push
  rw [sees.refine]

theorem iterate_bare (states : States σ) (queue : List BlockId) :
    a.iterate g.bare states queue = a.iterate g states queue := by
  induction states, queue using iterate.induct a g with
  | case1 states => rw [iterate, iterate]
  | case2 states c rest block state hs hblock now ih =>
    rw [iterate, iterate, g.getElem?_bare, hblock, hs]
    simp only [Option.map_some, sees.pushAll_bare, sees.transfer]
    exact ih
  | case3 states c rest hnone ih =>
    rw [iterate, iterate, g.getElem?_bare]
    cases hblock : g.blocks[c]? with
    | none => exact ih
    | some block =>
      cases hs : states[c]? with
      | none => exact ih
      | some state => exact (hnone block state hblock hs).elim

theorem solve_bare : a.solve g.bare = a.solve g := by
  have hentry : g.bare.entry ∈ g.bare.blocks ↔ g.entry ∈ g.blocks := Std.ExtTreeMap.mem_map
  unfold solve
  simp only [hentry, sees.iterate_bare]
  rfl

theorem collect_bare : a.collect g.bare = a.collect g := by
  unfold collect
  rw [sees.solve_bare]
  unfold Graph.bare
  rw [Std.ExtTreeMap.toList_map, List.flatMap_map]
  refine congrArg g.blocks.toList.flatMap (funext fun p => ?_)
  simp only [sees.reports]

theorem exitStates_bare : a.exitStates g.bare = a.exitStates g := by
  unfold exitStates
  refine List.filterMap_congr fun c _ => ?_
  rw [sees.solve_bare, g.getElem?_bare]
  cases g.blocks[c]? <;> cases (a.solve g)[c]? <;> simp only [Option.map, sees.transfer]

end SeesBare

end Analysis

namespace ForwardNull

variable (known : Summaries) (g : Graph)

theorem dereferenceFindings_bare (s : NullState) (ds : List Dereference) :
    dereferenceFindings g.bare s ds = dereferenceFindings g s ds := by
  induction ds generalizing s with
  | nil => rfl
  | cons d ds ih =>
    rw [dereferenceFindings, dereferenceFindings, ih]
    rfl

theorem factFindings_bare (s : NullState) (fs : List Fact) :
    factFindings known g.bare s fs = factFindings known g s fs := by
  induction fs generalizing s with
  | nil => rfl
  | cons f fs ih => rw [factFindings, factFindings, ih, dereferenceFindings_bare]

theorem refine_bare (b : Block) : refine b.bare = refine b := by
  funext e s
  unfold refine
  cases hterm : b.terminator <;> cases e.kind.outcome? <;>
    simp only [Block.bare, hterm, Terminator.bare]

theorem seesBare : (analysis known g).SeesBare where
  transfer b := funext fun s => congrArg (s.afterAll known) b.facts_bare
  reports b := funext fun s => congrArg (factFindings known g s) b.facts_bare
  refine := refine_bare

theorem analysis_bare : analysis known g.bare = analysis known g := by
  unfold analysis
  rw [g.vars_bare, g.lastLine_bare]
  simp only [factFindings_bare]

end ForwardNull

namespace MustDeref

variable (known : Summaries) (g : Graph)

theorem conditionFindings_bare (b : Block) (s : DerefState) :
    conditionFindings g b.bare s = conditionFindings g b s := by
  unfold conditionFindings
  cases hterm : b.terminator <;> simp only [Block.bare, hterm, Terminator.bare]

theorem seesBare : (analysis known g).SeesBare where
  transfer b := funext fun s => congrArg (s.afterAll known) b.facts_bare
  reports b := funext fun s => by
    show conditionFindings g b.bare (s.afterAll known b.bare.facts) = _
    rw [conditionFindings_bare, b.facts_bare]
    rfl
  refine _ := rfl

theorem analysis_bare : analysis known g.bare = analysis known g := rfl

end MustDeref

/-! ## Checks -/

namespace Summaries

theorem ofGraph_bare (known : Summaries) (g : Graph) : known.ofGraph g.bare = known.ofGraph g := by
  unfold ofGraph Graph.assignedVars
  rw [MustDeref.analysis_bare, (MustDeref.seesBare known g).exitStates_bare, g.facts_bare]
  rfl

theorem compute_map_bare (gs : List Graph) : compute (gs.map Graph.bare) = compute gs := by
  have hround (known : Summaries) : round (gs.map Graph.bare) known = round gs known := by
    unfold round
    rw [List.foldl_map]
    simp only [ofGraph_bare]
    rfl
  have hrounds (n : Nat) (known : Summaries) :
      rounds (gs.map Graph.bare) n known = rounds gs n known := by
    induction n generalizing known with
    | zero => rfl
    | succ n ih =>
      rw [rounds, rounds, hround, ih]
  unfold compute
  rw [hrounds, List.length_map]

end Summaries

namespace CheckOptions

theorem findingsIn_bare (o : CheckOptions) (known : Summaries) (g : Graph) :
    o.findingsIn known g.bare = o.findingsIn known g := by
  unfold findingsIn
  rw [ForwardNull.analysis_bare, MustDeref.analysis_bare,
    (ForwardNull.seesBare known g).collect_bare, (MustDeref.seesBare known g).collect_bare]

/-- **The checks see no more of the graphs** than what is left of them. -/
theorem check_map_bare (o : CheckOptions) (gs : List Graph) :
    o.check (gs.map Graph.bare) = o.check gs := by
  have hknown : o.summaries (gs.map Graph.bare) = o.summaries gs := by
    unfold summaries
    rw [Summaries.compute_map_bare]
  unfold check
  simp only [hknown, List.flatMap_map, findingsIn_bare]

end CheckOptions

end NullFlow
