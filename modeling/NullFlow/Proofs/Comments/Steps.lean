import NullFlow.Proofs.Check.Bare
import NullFlow.Proofs.Comments.Expression

/-!
# Building graphs that look the same

Two builders **look the same** if the checks see the same of the graphs that they have come to and
if everything else in them is equal. Operations that differ only in what the checks do not see keep
that up: the texts of statements and conditions, and statements that do nothing. `Build.Alike` says
of two steps of the construction that they succeed together and come to builders that look the same.
-/

namespace NullFlow

/-- Blocks look the same if they agree in all but lines and texts. -/
theorem Block.bare_eq_iff {x y : Block} : x.bare = y.bare ↔ x.id = y.id ∧ x.label = y.label ∧
    x.terminator.bare = y.terminator.bare ∧ x.facts = y.facts ∧ x.isEntry = y.isEntry ∧
      x.isExit = y.isExit := by
  simp [bare]

namespace Graph

variable {g h : Graph} {x y : Block}

theorem bare_insert (g : Graph) (b : BlockId) (x : Block) :
    { g with blocks := g.blocks.insert b x }.bare =
      { g.bare with blocks := g.bare.blocks.insert b x.bare } := by
  have hblocks : (g.blocks.insert b x).map (fun _ b => b.bare) =
      (g.blocks.map fun _ b => b.bare).insert b x.bare := by
    refine Std.ExtTreeMap.ext_getElem? fun c => ?_
    rw [Std.ExtTreeMap.getElem?_map, Std.ExtTreeMap.getElem?_insert,
      Std.ExtTreeMap.getElem?_insert, Std.ExtTreeMap.getElem?_map]
    split <;> rfl
  simp only [bare, hblocks]

theorem bare_insert_self {b : BlockId} (hb : g.blocks[b]? = some y) (hxy : x.bare = y.bare) :
    { g with blocks := g.blocks.insert b x }.bare = g.bare := by
  have hsame : g.bare.blocks.insert b x.bare = g.bare.blocks := by
    refine Std.ExtTreeMap.ext_getElem? fun c => ?_
    rw [Std.ExtTreeMap.getElem?_insert]
    split
    · next heq =>
      rw [← Std.LawfulEqCmp.compare_eq_iff_eq.mp heq, getElem?_bare, hb, hxy]
      rfl
    · rfl
  rw [bare_insert, hsame]

theorem mem_blocks_iff_of_bare_eq (heq : g.bare = h.bare) (b : BlockId) :
    b ∈ g.blocks ↔ b ∈ h.blocks := by
  have hmem {g : Graph} : b ∈ g.bare.blocks ↔ b ∈ g.blocks := Std.ExtTreeMap.mem_map
  rw [← hmem, heq, hmem]

end Graph

namespace Builder

/-- **Builders look the same.** -/
structure LooksLike (s t : Builder) : Prop where
  graph : s.graph.bare = t.graph.bare
  next : s.next = t.next
  breaks : s.breaks = t.breaks
  continues : s.continues = t.continues
  labels : s.labels = t.labels

theorem facts_withStatement (block : Block) (x : Statement) :
    (withStatement block x).facts = block.facts ++ x.facts := by
  simp [withStatement, Block.facts]

namespace LooksLike

variable {s t outer outer' : Builder} (h : s.LooksLike t) (b : BlockId)

include h

/-- **Changes to blocks that look the same** come to builders that look the same. -/
theorem modifyBlock {f g : Block → Block}
    (hfg : ∀ x y : Block, x.bare = y.bare → (f x).bare = (g y).bare) :
    (s.modifyBlock b f).LooksLike (t.modifyBlock b g) := by
  have hblocks : (s.graph.blocks[b]?).map Block.bare = (t.graph.blocks[b]?).map Block.bare := by
    rw [← Graph.getElem?_bare, ← Graph.getElem?_bare, h.graph]
  unfold Builder.modifyBlock
  cases hs : s.graph.blocks[b]? <;> cases ht : t.graph.blocks[b]? <;> rw [hs, ht] at hblocks
  · exact h
  · cases hblocks
  · cases hblocks
  · refine ⟨?_, h.next, h.breaks, h.continues, h.labels⟩
    rw [Graph.bare_insert, Graph.bare_insert, hfg _ _ (Option.some.inj hblocks), h.graph]

theorem addStatement {x y : Statement} (hfacts : x.facts = y.facts) :
    (s.addStatement b x).LooksLike (t.addStatement b y) := by
  refine h.modifyBlock b fun _ _ hblock => ?_
  obtain ⟨hid, hlabel, hterminator, hf, hentry, hexit⟩ := Block.bare_eq_iff.mp hblock
  exact Block.bare_eq_iff.mpr ⟨hid, hlabel, hterminator,
    by rw [facts_withStatement, facts_withStatement, hf, hfacts], hentry, hexit⟩

/-- A statement that does nothing is not seen. -/
theorem addStatement_right {x : Statement} (hx : x.facts = []) :
    s.LooksLike (t.addStatement b x) := by
  unfold Builder.addStatement Builder.modifyBlock
  cases ht : t.graph.blocks[b]? with
  | none => exact h
  | some block =>
    have hblock : (withStatement block x).bare = block.bare :=
      Block.bare_eq_iff.mpr ⟨rfl, rfl, rfl, by rw [facts_withStatement, hx, List.append_nil], rfl,
        rfl⟩
    exact ⟨h.graph.trans (Graph.bare_insert_self ht hblock).symm, h.next, h.breaks, h.continues,
      h.labels⟩

theorem setTerminator {x y : Terminator} (hterm : x.bare = y.bare) :
    (s.setTerminator b x).LooksLike (t.setTerminator b y) := by
  refine h.modifyBlock b fun _ _ hblock => ?_
  obtain ⟨hid, hlabel, -, hfacts, hentry, hexit⟩ := Block.bare_eq_iff.mp hblock
  exact Block.bare_eq_iff.mpr ⟨hid, hlabel, hterm, hfacts, hentry, hexit⟩

theorem addEdge (c : BlockId) (kind : EdgeKind) :
    (s.addEdge b c kind).LooksLike (t.addEdge b c kind) :=
  ⟨congrArg (Graph.addEdge · b c kind) h.graph, h.next, h.breaks, h.continues, h.labels⟩

theorem setExit : (s.setExit b).LooksLike (t.setExit b) := by
  have hblock := h.modifyBlock b (f := fun block => { block with isExit := true })
    (g := fun block => { block with isExit := true }) fun _ _ hblock => by
      obtain ⟨hid, hlabel, hterminator, hfacts, hentry, -⟩ := Block.bare_eq_iff.mp hblock
      exact Block.bare_eq_iff.mpr ⟨hid, hlabel, hterminator, hfacts, hentry, rfl⟩
  unfold Builder.setExit
  simp only [Graph.mem_blocks_iff_of_bare_eq h.graph b]
  split
  · exact ⟨congrArg (fun g : Graph =>
        { g with exits := if g.exits.contains b then g.exits else g.exits ++ [b] }) hblock.graph,
      hblock.next, hblock.breaks, hblock.continues, hblock.labels⟩
  · exact h

theorem createBlock (label : String) : (s.createBlock label).1 = (t.createBlock label).1 ∧
    (s.createBlock label).2.LooksLike (t.createBlock label).2 := by
  have hgraph (g : Graph) : (g.addBlock { id := s.next, label }).bare =
      { g.bare with blocks := g.bare.blocks.insert s.next { id := s.next, label : Block }.bare } :=
    g.bare_insert s.next { id := s.next, label }
  refine ⟨h.next, ?_, congrArg (· + 1) h.next, h.breaks, h.continues, h.labels⟩
  unfold Builder.createBlock
  rw [← h.next, hgraph, hgraph, h.graph]

theorem labelBlock (label : String) : (s.labelBlock label).1 = (t.labelBlock label).1 ∧
    (s.labelBlock label).2.LooksLike (t.labelBlock label).2 := by
  unfold Builder.labelBlock
  rw [h.labels]
  cases t.labels[label]? with
  | some b => exact ⟨rfl, h⟩
  | none =>
    obtain ⟨hb, hcreated⟩ := h.createBlock ("label_" ++ label)
    exact ⟨hb, hcreated.graph, hcreated.next, hcreated.breaks, hcreated.continues,
      congrArg₂ (fun m b => m.insert label b) hcreated.labels hb⟩

theorem enter (c : Option BlockId) : (s.enter b c).LooksLike (t.enter b c) :=
  ⟨h.graph, h.next, congrArg (b :: ·) h.breaks, congrArg (c.toList ++ ·) h.continues, h.labels⟩

omit b in
theorem leave (houter : outer.LooksLike outer') : (s.leave outer).LooksLike (t.leave outer') :=
  ⟨h.graph, h.next, houter.breaks, houter.continues, h.labels⟩

end LooksLike

end Builder

/-! ## Steps -/

namespace Build

open C (Node)

variable {α β : Type} {nulls : List String} {n m : Node} {b c : BlockId} {k : EdgeKind}

/-- **Steps do alike**: from builders that look the same, they succeed together, with the same
result and with builders that look the same. -/
def Alike (x y : Build α) : Prop :=
  ∀ ⦃s t : Builder⦄, s.LooksLike t →
    Option.Rel (fun p q => p.1 = q.1 ∧ p.2.LooksLike q.2) (x.run s) (y.run t)

theorem alike_pure (a : α) : Alike (pure a) (pure a) := fun _ _ h => .some ⟨rfl, h⟩

theorem Alike.bind {x y : Build α} {f g : α → Build β} (hxy : Alike x y)
    (hfg : ∀ a, Alike (f a) (g a)) : Alike (x >>= f) (y >>= g) := by
  intro s t h
  rw [StateT.run_bind, StateT.run_bind]
  rcases C.exists_of_rel (hxy h) with ⟨hx, hy⟩ | ⟨⟨a, s'⟩, ⟨_, t'⟩, hx, hy, rfl, h'⟩
  · rw [hx, hy]
    exact .none
  · rw [hx, hy]
    exact hfg a h'

theorem Alike.get {f g : Builder → Build α}
    (hfg : ∀ s t : Builder, s.LooksLike t → Alike (f s) (g t)) :
    Alike (get >>= f) (get >>= g) := fun s t h => hfg s t h h

theorem alike_modify {f g : Builder → Builder}
    (hfg : ∀ s t : Builder, s.LooksLike t → (f s).LooksLike (g t)) :
    Alike (modify f) (modify g) := fun s t h => .some ⟨rfl, hfg s t h⟩

/-- A step that needs a child, which either has. -/
theorem Alike.child {f g : Node → Build α} (h : n.Becomes m) (r : C.Role)
    (hfg : ∀ c d, c.Becomes d → Alike (f c) (g d)) :
    Alike ((n.child? r : Option Node) >>= f) ((m.child? r : Option Node) >>= g) := by
  rcases h.child? r with ⟨hn, hm⟩ | ⟨c, d, hc, hd, hcd⟩
  · rw [hn, hm]
    exact fun _ _ _ => .none
  · rw [hc, hd]
    exact fun s t hst => hfg c d hcd hst

theorem alike_create (label : String) : Alike (create label) (create label) :=
  fun _ _ h => .some (h.createBlock label)

theorem alike_labelled (label : String) : Alike (labelled label) (labelled label) :=
  fun _ _ h => .some (h.labelBlock label)

theorem alike_edge (b c : BlockId) (k : EdgeKind) : Alike (edge b c k) (edge b c k) :=
  alike_modify fun _ _ h => h.addEdge b c k

theorem alike_terminate {x y : Terminator} (b : BlockId) (hxy : x.bare = y.bare) :
    Alike (terminate b x) (terminate b y) := alike_modify fun _ _ h => h.setTerminator b hxy

theorem alike_append {k k' : StatementKind} {fs fs' : List Fact} (b : BlockId) (hfacts : fs = fs') :
    Alike (append b n k fs) (append b m k' fs') := alike_modify fun _ _ h => h.addStatement b hfacts

theorem alike_branchOn (b : BlockId) (h : n.Becomes m) :
    Alike (branchOn nulls b n) (branchOn nulls b m) :=
  (alike_append b h.facts_eq).bind fun _ => alike_terminate b (by
    rw [Terminator.bare, Terminator.bare, h.line_eq, h.nullTest_eq])

theorem alike_jumpOut (b : BlockId) (targets : List BlockId) (k : EdgeKind) :
    Alike (jumpOut b targets k) (jumpOut b targets k) := by
  cases targets with
  | nil => exact alike_pure _
  | cons target _ => exact alike_edge b target k

theorem alike_fallFrom (source? : Option BlockId) (target : BlockId) :
    Alike (fallFrom source? target) (fallFrom source? target) := by
  cases source? with
  | none => exact alike_pure _
  | some source => exact alike_edge source target .fallThrough

theorem Alike.inside {x y : Build BlockId} (hxy : Alike x y) (b : BlockId) (c : Option BlockId) :
    Alike (inside b c x) (inside b c y) :=
  .get fun _ _ houter => .bind (fun _ _ _ => .some ⟨rfl, houter.enter b c⟩) fun _ =>
    hxy.bind fun last => (alike_modify fun _ _ h => h.leave houter).bind fun _ => alike_pure last

end Build

end NullFlow
