import NullFlow.Proofs.Graph.WellFormed

/-!
# What blocks say of themselves

A graph under construction keeps some things twice: which blocks are exits stands in a list and at
the blocks, which block is the entry stands in the graph and at the block, and the lines of a block
are those of its statements. Whatever operations are put one after the other, in whatever order and
on whatever blocks, exits and lines agree (`Graph.Marked`).

The entry does not. Making a block the entry leaves the mark of the one before it, so the marked
blocks are all those that were ever made the entry (`Builder.entries`), and the entry of the graph
is the last of them. A second entry is therefore marked exactly if two different blocks were made
the entry.
-/

namespace NullFlow

/-- **The lines of a block reach from the first to the last line of its statements**, or are both
zero if it has none. -/
structure Block.SpansStatements (block : Block) : Prop where
  startLine_eq : block.startLine = ((block.statements.map (·.line)).min?).getD 0
  endLine_eq : block.endLine = ((block.statements.map (·.line)).max?).getD 0

/-- One more statement moves the lines as far as needed. -/
theorem Block.SpansStatements.withStatement {block : Block} (h : block.SpansStatements)
    (st : Statement) : (Builder.withStatement block st).SpansStatements := by
  obtain ⟨hstart, hend⟩ := h
  cases hstatements : block.statements with
  | nil => constructor <;> simp [Builder.withStatement, hstatements]
  | cons first rest =>
    rw [hstatements] at hstart hend
    constructor <;> simp [Builder.withStatement, hstatements, hstart, hend, List.min?, List.max?]

namespace Graph

/-- A block exists and has a mark. -/
def HasMark (g : Graph) (mark : Block → Bool) (b : BlockId) : Prop :=
  ∃ block, g.blocks[b]? = some block ∧ mark block = true

/-- **The blocks of a graph are marked** as what they are, given the blocks that were made the entry
one after the other. -/
structure Marked (g : Graph) (entries : List BlockId) : Prop where
  id_eq : ∀ (b : BlockId) (block : Block), g.blocks[b]? = some block → block.id = b
  spans : ∀ (b : BlockId) (block : Block), g.blocks[b]? = some block → block.SpansStatements
  nodup_exits : g.exits.Nodup
  mem_exits_iff : ∀ b, b ∈ g.exits ↔ g.HasMark (·.isExit) b
  mem_entries_iff : ∀ b, b ∈ entries ↔ g.HasMark (·.isEntry) b
  entry_eq : g.entry = entries.getLast?.getD 0

theorem hasMark_iff {g : Graph} {mark : Block → Bool} {b : BlockId} :
    g.HasMark mark b ↔ (g.blocks[b]?).map mark = some true := Option.map_eq_some_iff.symm

theorem HasMark.mem_blocks {g : Graph} {mark : Block → Bool} {b : BlockId} (h : g.HasMark mark b) :
    b ∈ g.blocks := by
  obtain ⟨block, hblock, -⟩ := h
  exact mem_blocks_of_getElem? hblock

/-- **The entry is the only block that is marked as entry** exactly if no two different blocks were
made the entry. -/
theorem Marked.only_entry_iff {g : Graph} {entries : List BlockId} (h : g.Marked entries) :
    (∀ b, g.HasMark (·.isEntry) b → b = g.entry) ↔ ∀ b ∈ entries, ∀ c ∈ entries, b = c := by
  constructor
  · intro honly b hb c hc
    rw [honly b ((h.mem_entries_iff b).mp hb), honly c ((h.mem_entries_iff c).mp hc)]
  · intro hsame b hb
    have hmem := (h.mem_entries_iff b).mpr hb
    rw [h.entry_eq, List.getLast?_eq_some_getLast (List.ne_nil_of_mem hmem)]
    exact hsame b hmem _ (List.getLast_mem _)

end Graph

namespace Builder

variable {s : Builder} {c x : BlockId} {f : Block → Block} {mark : Block → Bool}

/-! ## Marks and changes of a block -/

theorem hasMark_modifyBlock (h : ∀ block, mark (f block) = mark block) :
    (s.modifyBlock c f).graph.HasMark mark x ↔ s.graph.HasMark mark x := by
  rw [Graph.hasMark_iff, Graph.hasMark_iff, map_getElem?_modifyBlock h]

/-- A change that gives a mark gives it to one block. -/
theorem hasMark_modifyBlock_of_true (h : ∀ block, mark (f block) = true)
    (hc : c ∈ s.graph.blocks) :
    (s.modifyBlock c f).graph.HasMark mark x ↔ x = c ∨ s.graph.HasMark mark x := by
  rw [Graph.hasMark_iff, Graph.hasMark_iff, getElem?_modifyBlock]
  by_cases hx : x = c
  · obtain ⟨block, hblock⟩ := Graph.exists_getElem?_of_mem_blocks hc
    rw [if_pos hx, hx, hblock, Option.map_some, Option.map_some, h]
    exact iff_of_true rfl (Or.inl rfl)
  · rw [if_neg hx, or_iff_right hx]

theorem hasMark_createBlock {label : String} (hmark : mark { id := s.count, label } = false)
    (hfresh : s.count ∉ s.graph.blocks) :
    (s.createBlock label).2.graph.HasMark mark x ↔ s.graph.HasMark mark x := by
  rw [Graph.hasMark_iff, Graph.hasMark_iff, getElem?_createBlock]
  by_cases hx : x = s.count
  · rw [if_pos hx, hx, Std.ExtTreeMap.getElem?_eq_none hfresh, Option.map_some, hmark]
    exact iff_of_false (by simp) (by simp)
  · rw [if_neg hx]

theorem mem_blocks_modifyBlock : x ∈ (s.modifyBlock c f).graph.blocks ↔ x ∈ s.graph.blocks := by
  simp only [Std.ExtTreeMap.mem_iff_isSome_getElem?, getElem?_modifyBlock]
  split
  · rw [Option.isSome_map]
  · rfl

/-- What holds of all blocks and survives a change of a block holds afterwards. -/
theorem forall_modifyBlock {P : BlockId → Block → Prop}
    (h : ∀ b block, s.graph.blocks[b]? = some block → P b block)
    (hf : ∀ b block, P b block → P b (f block)) (b : BlockId) (block : Block)
    (hb : (s.modifyBlock c f).graph.blocks[b]? = some block) : P b block := by
  rw [getElem?_modifyBlock] at hb
  split at hb
  · obtain ⟨old, hold, rfl⟩ := Option.map_eq_some_iff.mp hb
    exact hf b old (h b old hold)
  · exact h b block hb

/-- Making a block the entry changes the block and the entry of the graph only. -/
theorem setEntry_eq (h : c ∈ s.graph.blocks) : s.setEntry c =
    { s.modifyBlock c fun block => { block with isEntry := true } with
      graph := { (s.modifyBlock c fun block => { block with isEntry := true }).graph with
        entry := c } } := if_pos h

/-! ## Sequences of operations -/

/-- **An operation** on a graph under construction. -/
inductive Operation where
  | createBlock (label : String)
  | setEntry (b : BlockId)
  | setExit (b : BlockId)
  | addStatement (b : BlockId) (st : Statement)
  | setTerminator (b : BlockId) (terminator : Terminator)
  | addEdge (source target : BlockId) (kind : EdgeKind)

namespace Operation

/-- What an operation does. -/
def apply (s : Builder) : Operation → Builder
  | .createBlock label => (s.createBlock label).2
  | .setEntry b => s.setEntry b
  | .setExit b => s.setExit b
  | .addStatement b st => s.addStatement b st
  | .setTerminator b terminator => s.setTerminator b terminator
  | .addEdge source target kind => s.addEdge source target kind

/-- The block that an operation makes the entry, which has to exist. -/
def entered? (s : Builder) : Operation → Option BlockId
  | .setEntry b => if b ∈ s.graph.blocks then some b else none
  | _ => none

end Operation

/-- **The builder after some operations.** -/
def run (s : Builder) (ops : List Operation) : Builder := ops.foldl Operation.apply s

/-- **The blocks that are made the entry** by some operations, in order. -/
def entries (s : Builder) : List Operation → List BlockId
  | [] => []
  | op :: ops => (op.entered? s).toList ++ entries (op.apply s) ops

/-! ## What operations keep -/

/-- **The invariant of the operations**: the blocks are marked, and the numbers of blocks still to
come are free. -/
structure InOrder (s : Builder) (entries : List BlockId) : Prop where
  marked : s.graph.Marked entries
  lt_count : ∀ b ∈ s.graph.blocks, b < s.count

namespace InOrder

variable {entries : List BlockId} (h : s.InOrder entries)

theorem start (function file : String) : (Builder.start function file).InOrder [] := by
  have hnone (b : BlockId) : (Builder.start function file).graph.blocks[b]? = none :=
    Std.ExtTreeMap.getElem?_empty
  have hmark (mark : Block → Bool) (b : BlockId) :
      ¬(Builder.start function file).graph.HasMark mark b := by
    rintro ⟨block, hblock, -⟩
    rw [hnone] at hblock
    cases hblock
  refine ⟨⟨fun b block hb => ?_, fun b block hb => ?_, List.nodup_nil, fun b => ?_, fun b => ?_,
    rfl⟩, fun b hb => ?_⟩
  · rw [hnone] at hb
    cases hb
  · rw [hnone] at hb
    cases hb
  · exact iff_of_false List.not_mem_nil (hmark _ b)
  · exact iff_of_false List.not_mem_nil (hmark _ b)
  · exact absurd hb Std.ExtTreeMap.not_mem_empty

include h

theorem createBlock (label : String) : (s.createBlock label).2.InOrder entries := by
  have hfresh : s.count ∉ s.graph.blocks := fun hmem => Nat.lt_irrefl _ (h.lt_count _ hmem)
  have hnew {P : BlockId → Block → Prop} (hP : P s.count { id := s.count, label })
      (hold : ∀ b block, s.graph.blocks[b]? = some block → P b block) (b : BlockId) (block : Block)
      (hb : (s.createBlock label).2.graph.blocks[b]? = some block) : P b block := by
    rw [getElem?_createBlock] at hb
    split at hb
    · next heq =>
      obtain rfl := Option.some.inj hb
      exact heq ▸ hP
    · exact hold b block hb
  refine ⟨⟨hnew rfl h.marked.id_eq, hnew ⟨rfl, rfl⟩ h.marked.spans, h.marked.nodup_exits,
    fun b => ?_, fun b => ?_, h.marked.entry_eq⟩, fun b hb => ?_⟩
  · exact (h.marked.mem_exits_iff b).trans (hasMark_createBlock rfl hfresh).symm
  · exact (h.marked.mem_entries_iff b).trans (hasMark_createBlock rfl hfresh).symm
  · rw [count_createBlock]
    rcases Std.ExtTreeMap.mem_insert.mp hb with heq | hold
    · rw [← Std.LawfulEqCmp.compare_eq_iff_eq.mp heq]
      exact Nat.lt_succ_self _
    · exact Nat.lt_succ_of_lt (h.lt_count b hold)

/-- **A change of a block** that keeps its number, and its lines in line with its statements, keeps
the order if exits and entry are made to agree with the marks. -/
theorem change {t : Builder} {entries' : List BlockId}
    (hblocks : t.graph.blocks = (s.modifyBlock c f).graph.blocks) (hcount : t.count = s.count)
    (hid : ∀ block, (f block).id = block.id)
    (hspans : ∀ block, block.SpansStatements → (f block).SpansStatements)
    (hnodup : t.graph.exits.Nodup)
    (hexits : ∀ b, b ∈ t.graph.exits ↔ (s.modifyBlock c f).graph.HasMark (·.isExit) b)
    (hentries : ∀ b, b ∈ entries' ↔ (s.modifyBlock c f).graph.HasMark (·.isEntry) b)
    (hentry : t.graph.entry = entries'.getLast?.getD 0) : t.InOrder entries' := by
  have hmark {mark : Block → Bool} {b : BlockId} :
      t.graph.HasMark mark b ↔ (s.modifyBlock c f).graph.HasMark mark b := by
    rw [Graph.hasMark_iff, Graph.hasMark_iff, hblocks]
  refine ⟨⟨?_, ?_, hnodup, fun b => (hexits b).trans hmark.symm,
    fun b => (hentries b).trans hmark.symm, hentry⟩, fun b hb => ?_⟩
  · rw [hblocks]
    exact forall_modifyBlock h.marked.id_eq fun _ block heq => (hid block).trans heq
  · rw [hblocks]
    exact forall_modifyBlock (P := fun _ block => block.SpansStatements) h.marked.spans
      fun _ block => hspans block
  · rw [hblocks] at hb
    rw [hcount]
    exact h.lt_count b (mem_blocks_modifyBlock.mp hb)

/-- A change of a block that keeps its number and its marks as well. -/
theorem modifyBlock (hid : ∀ block, (f block).marks = block.marks)
    (hspans : ∀ block, block.SpansStatements → (f block).SpansStatements) :
    (s.modifyBlock c f).InOrder entries := by
  have hmarks (block : Block) := Prod.mk.inj (hid block)
  refine h.change rfl (count_modifyBlock f) (fun block => (hmarks block).1) hspans ?_
    (fun b => ?_) (fun b => ?_) ?_
  · rw [exits_modifyBlock]
    exact h.marked.nodup_exits
  · rw [exits_modifyBlock, hasMark_modifyBlock fun block => (Prod.mk.inj (hmarks block).2).2]
    exact h.marked.mem_exits_iff b
  · rw [hasMark_modifyBlock fun block => (Prod.mk.inj (hmarks block).2).1]
    exact h.marked.mem_entries_iff b
  · exact (entry_eq_of_frame_eq (frame_modifyBlock f)).trans h.marked.entry_eq

theorem setEntry (c : BlockId) :
    (s.setEntry c).InOrder (entries ++ ((Operation.setEntry c).entered? s).toList) := by
  by_cases hc : c ∈ s.graph.blocks
  case neg =>
    have hnone : (Operation.setEntry c).entered? s = none := if_neg hc
    rw [hnone, Option.toList_none, List.append_nil]
    unfold Builder.setEntry
    rwa [if_neg hc]
  have hsome : (Operation.setEntry c).entered? s = some c := if_pos hc
  rw [setEntry_eq hc, hsome, Option.toList_some]
  refine h.change (c := c) (f := fun block => { block with isEntry := true }) rfl
    (count_modifyBlock _) (fun _ => rfl) (fun _ hspans => ⟨hspans.1, hspans.2⟩) ?_ (fun b => ?_)
    (fun b => ?_) ?_
  · rw [exits_modifyBlock]
    exact h.marked.nodup_exits
  · rw [exits_modifyBlock]
    refine (h.marked.mem_exits_iff b).trans (Iff.symm ?_)
    exact hasMark_modifyBlock fun _ => rfl
  · rw [hasMark_modifyBlock_of_true (fun _ => rfl) hc, List.mem_append, List.mem_singleton,
      h.marked.mem_entries_iff, or_comm]
  · rw [List.getLast?_concat]
    rfl

theorem setExit (c : BlockId) : (s.setExit c).InOrder entries := by
  by_cases hc : c ∈ s.graph.blocks
  case neg =>
    unfold Builder.setExit
    rwa [if_neg hc]
  have hexits := exits_setExit hc
  refine h.change blocks_setExit count_setExit (fun _ => rfl)
    (fun _ hspans => ⟨hspans.1, hspans.2⟩) (nodup_exits_setExit h.marked.nodup_exits)
    (fun b => ?_) (fun b => ?_) ((entry_eq_of_frame_eq frame_setExit).trans h.marked.entry_eq)
  · rw [hexits, ← List.contains_iff_mem, contains_exits, Bool.or_eq_true, beq_iff_eq,
      List.contains_iff_mem, h.marked.mem_exits_iff, hasMark_modifyBlock_of_true (fun _ => rfl) hc]
  · refine (h.marked.mem_entries_iff b).trans (Iff.symm ?_)
    exact hasMark_modifyBlock fun _ => rfl

theorem addEdge (source target : BlockId) (kind : EdgeKind) :
    (s.addEdge source target kind).InOrder entries :=
  ⟨⟨h.marked.id_eq, h.marked.spans, h.marked.nodup_exits, h.marked.mem_exits_iff,
    h.marked.mem_entries_iff, h.marked.entry_eq⟩, h.lt_count⟩

/-- **An operation keeps the blocks in order.** -/
theorem apply (op : Operation) : (op.apply s).InOrder (entries ++ (op.entered? s).toList) := by
  cases op with
  | setEntry b => exact h.setEntry b
  | createBlock label => exact (List.append_nil entries).symm ▸ h.createBlock label
  | setExit b => exact (List.append_nil entries).symm ▸ h.setExit b
  | addStatement b st =>
    exact (List.append_nil entries).symm ▸
      h.modifyBlock (fun _ => rfl) fun _ hspans => hspans.withStatement st
  | setTerminator b terminator =>
    exact (List.append_nil entries).symm ▸
      h.modifyBlock (fun _ => rfl) fun _ hspans => ⟨hspans.1, hspans.2⟩
  | addEdge source target kind =>
    exact (List.append_nil entries).symm ▸ h.addEdge source target kind

/-- **Operations keep the blocks in order.** -/
theorem run (ops : List Operation) : (s.run ops).InOrder (entries ++ s.entries ops) := by
  induction ops generalizing s entries with
  | nil => exact (List.append_nil entries).symm ▸ h
  | cons op ops ih =>
    have htail := ih (h.apply op)
    rwa [List.append_assoc] at htail

end InOrder

/-- The finished graph has the blocks, the exits and the entry of the graph so far. -/
theorem marked_build {entries : List BlockId} (h : s.graph.Marked entries) :
    s.build.Marked entries := by
  obtain ⟨hid, hspans, hnodup, hexits, hentries, hentry⟩ := h
  rw [build_eq]
  exact ⟨hid, hspans, hnodup, hexits, hentries, hentry⟩

/-- **After every sequence of operations the blocks are marked**, in the graph so far and in the
finished one: the exits are the blocks marked as exits, each of them once, the lines of a block are
those of its statements, and the blocks marked as entry are those that were made the entry, of which
the entry is the last one. So the entry alone is marked as entry exactly if no two different blocks
were made the entry. -/
theorem run_marked (function file : String) (ops : List Operation) :
    ((start function file).run ops).graph.Marked ((start function file).entries ops) ∧
      ((start function file).run ops).build.Marked ((start function file).entries ops) ∧
      ((∀ b, ((start function file).run ops).build.HasMark (·.isEntry) b →
          b = ((start function file).run ops).build.entry) ↔
        ∀ b ∈ (start function file).entries ops, ∀ c ∈ (start function file).entries ops,
          b = c) := by
  have hmarked := ((InOrder.start function file).run ops).marked
  exact ⟨hmarked, marked_build hmarked, (marked_build hmarked).only_entry_iff⟩

/-- Two blocks, made the entry one after the other. -/
def enteredTwice : List Operation :=
  [.createBlock "first", .createBlock "second", .setEntry 0, .setEntry 1]

/-- **A block stays marked as entry when another one is made the entry.** -/
theorem hasMark_enteredTwice :
    ((start "f" "test.c").run enteredTwice).build.entry = 1 ∧
      ((start "f" "test.c").run enteredTwice).build.HasMark (·.isEntry) 0 ∧
      ((start "f" "test.c").run enteredTwice).build.HasMark (·.isEntry) 1 := by
  rw [build_eq]
  exact ⟨rfl, ⟨_, rfl, rfl⟩, ⟨_, rfl, rfl⟩⟩

end Builder

end NullFlow
