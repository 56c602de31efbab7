import NullFlow.Proofs.Graph.Building
import NullFlow.Proofs.Graph.Invariant

/-!
# The numbers of the blocks

Whatever is done to a builder, its blocks have the numbers from zero on without a gap, the first one
is the entry and no other, and the exits are the blocks that are marked as exits, each of them once.
-/

namespace NullFlow

/-- What a block says of its place in the graph: its number and whether it is the entry or an
exit. -/
def Block.marks (block : Block) : BlockId × Bool × Bool := (block.id, block.isEntry, block.isExit)

namespace Builder

variable {s : Builder} {b c x : BlockId}

/-! ## What the operations do to one block -/

theorem getElem?_modifyBlock (f : Block → Block) : (s.modifyBlock c f).graph.blocks[x]? =
    if x = c then (s.graph.blocks[x]?).map f else s.graph.blocks[x]? := by
  have h := congrArg Site.block? (site_modifyBlock (s := s) (c := c) (x := x) f)
  split at h
  · next hx => rw [if_pos hx]; exact h
  · next hx => rw [if_neg hx]; exact h

/-- What a change of a block leaves alone is as it was in every block. -/
theorem map_getElem?_modifyBlock {α : Type} {f : Block → Block} {p : Block → α}
    (h : ∀ block, p (f block) = p block) :
    ((s.modifyBlock c f).graph.blocks[x]?).map p = (s.graph.blocks[x]?).map p := by
  rw [getElem?_modifyBlock]
  split
  · rw [Option.map_map]
    exact congrArg (Option.map · _) (funext h)
  · rfl

/-- Marking a block as an exit changes the block and the list of exits only. -/
theorem blocks_setExit : (s.setExit c).graph.blocks =
    (s.modifyBlock c fun block => { block with isExit := true }).graph.blocks := by
  unfold setExit
  split
  · rfl
  · next h =>
    unfold modifyBlock
    rw [Std.ExtTreeMap.getElem?_eq_none h]

theorem edges_modifyBlock (f : Block → Block) :
    (s.modifyBlock c f).graph.edges = s.graph.edges := by
  unfold modifyBlock
  split <;> rfl

theorem labels_modifyBlock (f : Block → Block) : (s.modifyBlock c f).labels = s.labels := by
  unfold modifyBlock
  split <;> rfl

theorem exits_modifyBlock (f : Block → Block) :
    (s.modifyBlock c f).graph.exits = s.graph.exits := by
  unfold modifyBlock
  split <;> rfl

theorem edges_setExit : (s.setExit c).graph.edges = s.graph.edges := by
  unfold setExit
  split
  · exact edges_modifyBlock _
  · rfl

theorem labels_setExit : (s.setExit c).labels = s.labels := by
  unfold setExit
  split
  · exact labels_modifyBlock _
  · rfl

theorem getElem?_createBlock (label : String) : (s.createBlock label).2.graph.blocks[x]? =
    if x = s.count then some { id := s.count, label } else s.graph.blocks[x]? := by
  have h := congrArg Site.block? (site_createBlock (s := s) (x := x) label)
  split at h
  · next hx => rw [if_pos hx]; exact h
  · next hx => rw [if_neg hx]; exact h

/-- The block of a label is the one it has, or a new one. -/
theorem labelBlock_cases (s : Builder) (l : String) :
    (∃ b, s.labels[l]? = some b ∧ s.labelBlock l = (b, s)) ∨
      s.labels[l]? = none ∧ s.labelBlock l = (s.count,
        { (s.createBlock ("label_" ++ l)).2 with labels := s.labels.insert l s.count }) := by
  unfold labelBlock
  cases h : s.labels[l]? with
  | some b => exact Or.inl ⟨b, rfl, rfl⟩
  | none => exact Or.inr ⟨rfl, rfl⟩

theorem exits_setExit (h : c ∈ s.graph.blocks) : (s.setExit c).graph.exits =
    if s.graph.exits.contains c then s.graph.exits else s.graph.exits ++ [c] := by
  unfold setExit
  rw [if_pos h, ← exits_modifyBlock (s := s) (c := c) fun block => { block with isExit := true }]

theorem nodup_exits_setExit (h : s.graph.exits.Nodup) : (s.setExit c).graph.exits.Nodup := by
  by_cases hc : c ∈ s.graph.blocks
  · rw [exits_setExit hc]
    split
    · exact h
    · next hnew =>
      refine List.nodup_append.mpr ⟨h, by simp, fun x hx y hy => ?_⟩
      rw [List.mem_singleton.mp hy]
      exact fun hxc => hnew (List.contains_iff_mem.mpr (hxc ▸ hx))
  · unfold setExit
    rwa [if_neg hc]

/-- The builder at the start of a function, which has one block. -/
def begun (function file : String) : Builder :=
  ((start function file).createBlock "entry").2.setEntry 0

theorem getElem?_begun (function file : String) : (begun function file).graph.blocks[x]? =
    if x = 0 then some { id := 0, label := "entry", isEntry := true } else none := by
  have hblocks : (begun function file).graph.blocks =
      Std.ExtTreeMap.insert ∅ 0 { id := 0, label := "entry", isEntry := true } := rfl
  rw [hblocks, Std.ExtTreeMap.getElem?_insert, Std.ExtTreeMap.getElem?_empty]
  by_cases hx : x = 0
  · rw [if_pos hx, if_pos (Std.LawfulEqCmp.compare_eq_iff_eq.mpr hx.symm)]
  · rw [if_neg hx, if_neg fun h => hx (Std.LawfulEqCmp.compare_eq_iff_eq.mp h).symm]

/-! ## Numbers, entry and exits -/

/-- **The blocks are numbered** in the order of their creation, the first one is the entry, the
exits are listed once each, and the block of a label exists. -/
structure Numbered (s : Builder) : Prop where
  marks_eq : ∀ b : BlockId, (s.graph.blocks[b]?).map Block.marks =
    if b < s.count then some (b, b == 0, s.graph.exits.contains b) else none
  exits_lt : ∀ b ∈ s.graph.exits, b < s.count
  nodup_exits : s.graph.exits.Nodup
  entry_eq : s.graph.entry = 0
  count_pos : 0 < s.count
  labels_lt : ∀ (l : String) (b : Nat), s.labels[l]? = some b → b < s.count

namespace Numbered

/-- Every number that has been given away is that of a block. -/
theorem exists_block (h : s.Numbered) (hb : b < s.count) :
    ∃ block, s.graph.blocks[b]? = some block := by
  have hmarks := h.marks_eq b
  rw [if_pos hb] at hmarks
  obtain ⟨block, hblock, -⟩ := Option.map_eq_some_iff.mp hmarks
  exact ⟨block, hblock⟩

theorem lt_of_getElem? (h : s.Numbered) {block : Block} (hb : s.graph.blocks[b]? = some block) :
    b < s.count := by
  have hmarks := h.marks_eq b
  rw [hb, Option.map_some] at hmarks
  split at hmarks
  · assumption
  · cases hmarks

theorem mem_blocks (h : s.Numbered) : b ∈ s.graph.blocks ↔ b < s.count := by
  constructor
  · exact fun hb => h.lt_of_getElem? (Std.ExtTreeMap.getElem?_eq_some_getElem hb)
  · intro hb
    obtain ⟨block, hblock⟩ := h.exists_block hb
    exact Graph.mem_blocks_of_getElem? hblock

theorem marks_of_getElem? (h : s.Numbered) {block : Block} (hb : s.graph.blocks[b]? = some block) :
    block.marks = (b, b == 0, s.graph.exits.contains b) := by
  have hmarks := h.marks_eq b
  rw [hb, Option.map_some, if_pos (h.lt_of_getElem? hb)] at hmarks
  exact Option.some.inj hmarks

theorem createBlock (h : s.Numbered) (label : String) : (s.createBlock label).2.Numbered where
  marks_eq b := by
    rw [getElem?_createBlock, count_createBlock]
    by_cases hb : b = s.count
    · subst hb
      have hentry : (s.count == 0) = false := beq_eq_false_iff_ne.mpr (Nat.ne_of_gt h.count_pos)
      have hexit : s.graph.exits.contains s.count = false :=
        Bool.eq_false_iff.mpr fun hmem =>
          Nat.lt_irrefl _ (h.exits_lt _ (List.contains_iff_mem.mp hmem))
      rw [if_pos rfl, if_pos (Nat.lt_succ_self _)]
      exact congrArg some (Prod.ext rfl (Prod.ext hentry.symm hexit.symm))
    · rw [if_neg hb, h.marks_eq b]
      have hlt : b < s.count ↔ b < s.count + 1 :=
        (Nat.lt_succ_iff_lt_or_eq.trans (or_iff_left hb)).symm
      exact ite_congr (propext hlt) (fun _ => rfl) fun _ => rfl
  exits_lt b hb := Nat.lt_succ_of_lt (h.exits_lt b hb)
  nodup_exits := h.nodup_exits
  entry_eq := h.entry_eq
  count_pos := Nat.succ_pos _
  labels_lt l b hb := Nat.lt_succ_of_lt (h.labels_lt l b hb)

/-- A change of a block that keeps its number and its marks. -/
theorem modifyBlock (h : s.Numbered) {f : Block → Block}
    (hf : ∀ block, (f block).marks = block.marks) : (s.modifyBlock c f).Numbered where
  marks_eq b := by
    rw [map_getElem?_modifyBlock hf, count_modifyBlock, exits_modifyBlock]
    exact h.marks_eq b
  exits_lt := by
    rw [count_modifyBlock, exits_modifyBlock]
    exact h.exits_lt
  nodup_exits := by
    rw [exits_modifyBlock]
    exact h.nodup_exits
  entry_eq := (congrArg (·.2.2) (frame_modifyBlock f)).trans h.entry_eq
  count_pos := by
    rw [count_modifyBlock]
    exact h.count_pos
  labels_lt := by
    rw [labels_modifyBlock, count_modifyBlock]
    exact h.labels_lt

theorem labelBlock (h : s.Numbered) (l : String) : (s.labelBlock l).2.Numbered := by
  rcases s.labelBlock_cases l with ⟨b, -, heq⟩ | ⟨-, heq⟩
  · rw [heq]
    exact h
  · rw [heq]
    have hcreated := h.createBlock ("label_" ++ l)
    refine ⟨hcreated.marks_eq, hcreated.exits_lt, hcreated.nodup_exits, hcreated.entry_eq,
      hcreated.count_pos, fun l' b hb => ?_⟩
    rw [Std.ExtTreeMap.getElem?_insert] at hb
    split at hb
    · exact Option.some.inj hb ▸ Nat.lt_succ_self _
    · exact hcreated.labels_lt l' b hb

/-- The block of a label exists once it has been asked for. -/
theorem labelBlock_lt (h : s.Numbered) (l : String) :
    (s.labelBlock l).1 < (s.labelBlock l).2.count ∧ s.count ≤ (s.labelBlock l).2.count := by
  rcases s.labelBlock_cases l with ⟨b, hb, heq⟩ | ⟨-, heq⟩
  · rw [heq]
    exact ⟨h.labels_lt l b hb, Nat.le_refl _⟩
  · rw [heq]
    exact ⟨Nat.lt_succ_self _, Nat.le_succ _⟩

theorem setExit (h : s.Numbered) (c : BlockId) : (s.setExit c).Numbered := by
  by_cases hb : c ∈ s.graph.blocks
  case neg =>
    unfold Builder.setExit
    rwa [if_neg hb]
  have hlt : c < s.count :=
    h.lt_of_getElem? (Std.ExtTreeMap.getElem?_eq_some_getElem hb)
  have hexits := exits_setExit hb
  constructor
  · intro x
    have hx := h.marks_eq x
    rw [blocks_setExit, getElem?_modifyBlock, count_setExit, hexits, contains_exits]
    by_cases hxb : x = c
    · rw [if_pos hxb]
      rw [if_pos (hxb ▸ hlt)] at hx ⊢
      obtain ⟨block, hblock, hmarks⟩ := Option.map_eq_some_iff.mp hx
      simp only [Block.marks, Prod.mk.injEq] at hmarks
      rw [hblock, beq_iff_eq.mpr hxb]
      exact congrArg some (Prod.ext hmarks.1 (Prod.ext hmarks.2.1 rfl))
    · rw [if_neg hxb, hx, beq_eq_false_iff_ne.mpr hxb, Bool.false_or]
  · intro x hx
    rw [hexits, ← List.contains_iff_mem, contains_exits, Bool.or_eq_true, beq_iff_eq,
      List.contains_iff_mem] at hx
    rw [count_setExit]
    exact hx.elim (· ▸ hlt) (h.exits_lt x)
  · exact nodup_exits_setExit h.nodup_exits
  · exact (entry_eq_of_frame_eq frame_setExit).trans h.entry_eq
  · rw [count_setExit]
    exact h.count_pos
  · rw [labels_setExit, count_setExit]
    exact h.labels_lt

theorem begun (function file : String) : (Builder.begun function file).Numbered where
  marks_eq b := by
    rw [getElem?_begun]
    by_cases hb : b = 0
    · subst hb
      rfl
    · rw [if_neg hb]
      exact (if_neg fun hlt : b < 1 => hb (Nat.lt_one_iff.mp hlt)).symm
  exits_lt _ hb := absurd hb List.not_mem_nil
  nodup_exits := List.nodup_nil
  entry_eq := rfl
  count_pos := Nat.one_pos
  labels_lt l b hb := by
    have hnone : (Builder.begun function file).labels[l]? = none := Std.ExtTreeMap.getElem?_empty
    rw [hnone] at hb
    cases hb

end Numbered

/-- **The numbering stays in order.** -/
theorem invariant_numbered : Invariant Numbered where
  createBlock label h := h.createBlock label
  labelBlock label h := h.labelBlock label
  addEdge _ _ _ h := ⟨h.marks_eq, h.exits_lt, h.nodup_exits, h.entry_eq, h.count_pos, h.labels_lt⟩
  addStatement _ _ h := h.modifyBlock fun _ => rfl
  setTerminator _ _ h := h.modifyBlock fun _ => rfl
  setExit b h := h.setExit b
  enter _ _ h := ⟨h.marks_eq, h.exits_lt, h.nodup_exits, h.entry_eq, h.count_pos, h.labels_lt⟩
  leave _ h := ⟨h.marks_eq, h.exits_lt, h.nodup_exits, h.entry_eq, h.count_pos, h.labels_lt⟩

end Builder

end NullFlow
