import NullFlow.Proofs.Graph.Walk

/-!
# Graphs that agree where control goes

Two graphs **agree where control reaches** if they differ at most in blocks that no walk from the
entry leads to and in edges out of such blocks. What such blocks look like in one graph need not
even show in the other: they may be missing there, be more or be others under the same numbers. The
two graphs then have the same walks from the entry (`Graph.AgreesWhereReached.walk_iff`), and a
block that an edge leads to from a reached one is the same in both, or missing in both.
-/

namespace NullFlow

namespace Graph

/-- **Two graphs agree where control reaches**: they are graphs of the same function with the same
entry and exits, and a block that either of them reaches is the same in both, with the same edges
out of it in the same order. -/
structure AgreesWhereReached (g h : Graph) : Prop where
  function : g.function = h.function
  file : g.file = h.file
  parameters : g.parameters = h.parameters
  entry : g.entry = h.entry
  exits : g.exits = h.exits
  blocks {b : BlockId} (hb : g.Reaches b ∨ h.Reaches b) : g.blocks[b]? = h.blocks[b]?
  outEdges {b : BlockId} (hb : g.Reaches b ∨ h.Reaches b) : g.outEdges b = h.outEdges b

namespace AgreesWhereReached

variable {g h : Graph} (agree : g.AgreesWhereReached h)

include agree

theorem symm : h.AgreesWhereReached g where
  function := agree.function.symm
  file := agree.file.symm
  parameters := agree.parameters.symm
  entry := agree.entry.symm
  exits := agree.exits.symm
  blocks hb := (agree.blocks hb.symm).symm
  outEdges hb := (agree.outEdges hb.symm).symm

theorem mem_blocks {b : BlockId} (hb : g.Reaches b) : b ∈ h.blocks := by
  obtain ⟨es, w⟩ := hb
  have hin := w.mem_blocks
  rw [Std.ExtTreeMap.mem_iff_isSome_getElem?] at hin ⊢
  rwa [← agree.blocks (Or.inl ⟨es, w⟩)]

/-- A walk through one of the graphs is one through the other. -/
theorem walk {es : List Edge} {b : BlockId} (w : g.Walk g.entry es b) : h.Walk h.entry es b := by
  induction w with
  | nil hb =>
    rw [agree.entry]
    exact .nil (agree.entry ▸ agree.mem_blocks ⟨[], .nil hb⟩)
  | snoc w he ht ih =>
    refine ih.snoc ?_ (agree.mem_blocks ⟨_, w.snoc he ht⟩)
    rwa [← agree.outEdges (Or.inl ⟨_, w⟩)]

/-- **The graphs have the same walks from the entry.** -/
theorem walk_iff {es : List Edge} {b : BlockId} :
    g.Walk g.entry es b ↔ h.Walk h.entry es b := ⟨agree.walk, agree.symm.walk⟩

theorem reaches_iff {b : BlockId} : g.Reaches b ↔ h.Reaches b :=
  exists_congr fun _ => agree.walk_iff

/-- A block that is reached if it exists is the same in both graphs. -/
theorem blocks_of_imp {b : BlockId} (hg : b ∈ g.blocks → g.Reaches b)
    (hh : b ∈ h.blocks → h.Reaches b) : g.blocks[b]? = h.blocks[b]? := by
  by_cases hb : b ∈ g.blocks ∨ b ∈ h.blocks
  · exact agree.blocks (hb.imp hg hh)
  · rw [not_or] at hb
    rw [Std.ExtTreeMap.getElem?_eq_none hb.1, Std.ExtTreeMap.getElem?_eq_none hb.2]

end AgreesWhereReached

/-- A block at the end of an edge out of a reached one is reached, if it exists. -/
theorem Reaches.snoc {g : Graph} {b : BlockId} {e : Edge} (hb : g.Reaches b)
    (he : e ∈ g.outEdges b) (ht : e.target ∈ g.blocks) : g.Reaches e.target := by
  obtain ⟨es, w⟩ := hb
  exact ⟨es ++ [e], w.snoc he ht⟩

end Graph

end NullFlow
