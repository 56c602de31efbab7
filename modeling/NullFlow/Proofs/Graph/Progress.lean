import NullFlow.Proofs.Graph.Orderly
import NullFlow.Proofs.Graph.Parts

/-!
# What the construction has behind it

A statement that the construction has passed stays as it is. Statements and edges are only ever
added, so what is built is part of all that comes later (`Graph.IsPartOf`). And nothing is added to
a block any more once it does not wait, unless it was made for a label that is yet to be defined
(`Builder.Onward`). So a jump to a label keeps the one edge that it was given, and the block of a
label stays empty until the statement with that label is built from it.

`Builder.Progress` says of a builder which statements it has behind it, besides being in order. What
an operation does to it is what it does to the order, and the rest follows by `Progress.onward`.
-/

namespace NullFlow

namespace Graph

variable {g h k : Graph}

/-- **One graph is part of another one**: its blocks are blocks of the other, with perhaps more
statements at the end, and the edges of the other begin with its own. -/
structure IsPartOf (g h : Graph) : Prop where
  blocks : ∀ (b : BlockId) (block : Block), g.blocks[b]? = some block →
    ∃ block', h.blocks[b]? = some block' ∧ block'.label = block.label ∧
      block.statements <+: block'.statements
  edges : g.edges <+: h.edges

theorem IsPartOf.refl (g : Graph) : g.IsPartOf g :=
  ⟨fun _ block hb => ⟨block, hb, rfl, List.prefix_refl _⟩, List.prefix_refl _⟩

theorem IsPartOf.trans (hgh : g.IsPartOf h) (hhk : h.IsPartOf k) : g.IsPartOf k := by
  refine ⟨fun b block hb => ?_, hgh.edges.trans hhk.edges⟩
  obtain ⟨block', hb', hlabel, hprefix⟩ := hgh.blocks b block hb
  obtain ⟨block'', hb'', hlabel', hprefix'⟩ := hhk.blocks b block' hb'
  exact ⟨block'', hb'', hlabel'.trans hlabel, hprefix.trans hprefix'⟩

/-- **Two graphs agree about a number**: on the block that has it and on the edges out of it. -/
def SameAt (g h : Graph) (b : BlockId) : Prop :=
  h.blocks[b]? = g.blocks[b]? ∧ h.outEdges b = g.outEdges b

end Graph

/-- Appends some statements one after the other. -/
def Build.appendEach (nulls : List String) (statements : List C.Node) (current : BlockId) :
    Build BlockId := statements.foldlM (fun active c => c.appendTo nulls active) current

namespace C.Node

/-- **A jump stands at the end of a block**, which leads to the target and nowhere else. -/
def JumpsFrom (m : Node) (b target : BlockId) (g : Graph) : Prop :=
  ∃ block, g.blocks[b]? = some block ∧ block.statements.getLast? = some m.jump ∧
    block.terminator = .goto m.labelName ∧ g.outEdges b = [⟨b, target, .jump⟩]

/-- **A labelled statement is built from a block**: the construction came to the block when it had
been made for the label and nothing else had been done to it, and appended to it what stands behind
the label. What was there before and all that came of this are part of the graph. -/
def BuiltFrom (nulls : List String) (d : Node) (b : BlockId) (g : Graph) : Prop :=
  ∃ (s t : Builder) (last : BlockId),
    s.graph.blocks[b]? = some { id := b, label := "label_" ++ d.labelName } ∧
    s.graph.outEdges b = [] ∧ s.graph.IsPartOf t.graph ∧
    (Build.appendEach nulls d.substatements b).run s = some (last, t) ∧ t.graph.IsPartOf g

/-- The block that a labelled statement is built from is named after the label. -/
theorem BuiltFrom.label {nulls : List String} {d : Node} {b : BlockId} {g : Graph}
    (h : d.BuiltFrom nulls b g) :
    (g.blocks[b]?).map (·.label) = some ("label_" ++ d.labelName) := by
  obtain ⟨s, t, last, hblank, -, hst, -, htg⟩ := h
  obtain ⟨block, hblock, hlabel, -⟩ := (hst.trans htg).blocks b _ hblank
  rw [hblock, Option.map_some, hlabel]

end C.Node

namespace Builder

variable {nulls : List String} {s t : Builder} {b c : Nat} {passed passed' : List C.Node}
  {defined defined' : List String} {before waiting waiting' : List (BlockId × Ending)}
  {e : Ending} {l : String}

/-! ## Nothing is taken away -/

theorem isPartOf_addEdge (k : EdgeKind) : s.graph.IsPartOf (s.addEdge b c k).graph :=
  ⟨fun _ block hblock => ⟨block, hblock, rfl, List.prefix_refl _⟩, List.prefix_append ..⟩

theorem isPartOf_createBlock (h : s.Numbered) (label : String) :
    s.graph.IsPartOf (s.createBlock label).2.graph := by
  refine ⟨fun b block hb => ⟨block, ?_, rfl, List.prefix_refl _⟩, List.prefix_refl _⟩
  rw [getElem?_createBlock, if_neg (Nat.ne_of_lt (h.lt_of_getElem? hb)), hb]

theorem isPartOf_labelBlock (h : s.Numbered) (l : String) :
    s.graph.IsPartOf (s.labelBlock l).2.graph := by
  rcases s.labelBlock_cases l with ⟨b, -, heq⟩ | ⟨-, heq⟩
  · rw [heq]
    exact .refl _
  · rw [heq]
    exact isPartOf_createBlock h _

theorem isPartOf_modifyBlock {f : Block → Block} (hlabel : ∀ block, (f block).label = block.label)
    (hstatements : ∀ block, block.statements <+: (f block).statements) :
    s.graph.IsPartOf (s.modifyBlock c f).graph := by
  refine ⟨fun b block hb => ?_, (edges_modifyBlock f).symm ▸ List.prefix_refl _⟩
  rw [getElem?_modifyBlock, hb]
  split
  · exact ⟨_, rfl, hlabel block, hstatements block⟩
  · exact ⟨_, rfl, rfl, List.prefix_refl _⟩

theorem isPartOf_addStatement (st : Statement) : s.graph.IsPartOf (s.addStatement c st).graph :=
  isPartOf_modifyBlock (fun _ => rfl) fun _ => List.prefix_append ..

theorem isPartOf_setTerminator (terminator : Terminator) :
    s.graph.IsPartOf (s.setTerminator c terminator).graph :=
  isPartOf_modifyBlock (fun _ => rfl) fun _ => List.prefix_refl _

theorem isPartOf_setExit : s.graph.IsPartOf (s.setExit c).graph := by
  obtain ⟨hblocks, -⟩ := isPartOf_modifyBlock (s := s) (c := c)
    (f := fun block => { block with isExit := true }) (fun _ => rfl) fun _ => List.prefix_refl _
  exact ⟨blocks_setExit (s := s) (c := c) ▸ hblocks, edges_setExit.symm ▸ List.prefix_refl _⟩

/-- **What is built stays part of what is built from it.** -/
theorem invariant_isPartOf (g : Graph) : Invariant fun s => s.Numbered ∧ g.IsPartOf s.graph where
  createBlock label h := ⟨invariant_numbered.createBlock label h.1,
    h.2.trans (isPartOf_createBlock h.1 label)⟩
  labelBlock label h := ⟨invariant_numbered.labelBlock label h.1,
    h.2.trans (isPartOf_labelBlock h.1 label)⟩
  addEdge b c k h := ⟨invariant_numbered.addEdge b c k h.1, h.2.trans (isPartOf_addEdge k)⟩
  addStatement b st h := ⟨invariant_numbered.addStatement b st h.1,
    h.2.trans (isPartOf_addStatement st)⟩
  setTerminator b t h := ⟨invariant_numbered.setTerminator b t h.1,
    h.2.trans (isPartOf_setTerminator t)⟩
  setExit b h := ⟨invariant_numbered.setExit b h.1, h.2.trans isPartOf_setExit⟩
  enter b c h := ⟨invariant_numbered.enter b c h.1, h.2⟩
  leave houter h := ⟨invariant_numbered.leave houter.1 h.1, h.2⟩

/-! ## What a step leaves alone -/

/-- **What a step of the construction does to what is there.** The graph before is part of the graph
after, labels keep their blocks, and a new label has a new block to which nothing has been done. A
block that did not wait stays as it is and does not wait afterwards, unless its label is defined by
the step. -/
structure Onward (s : Builder) (defined : List String) (waiting : List (BlockId × Ending))
    (t : Builder) (defined' : List String) (waiting' : List (BlockId × Ending)) : Prop where
  part : s.graph.IsPartOf t.graph
  labels : ∀ (l : String) (b : BlockId), s.labels[l]? = some b → t.labels[l]? = some b
  fresh : ∀ (l : String) (b : BlockId), t.labels[l]? = some b → s.labels[l]? = some b ∨
    s.count ≤ b ∧ t.graph.blocks[b]? = some { id := b, label := "label_" ++ l } ∧
      t.graph.outEdges b = []
  defined_mem : ∀ l ∈ defined, l ∈ defined'
  same : ∀ b < s.count, b ∉ waiting.map (·.1) →
    (∀ l, s.labels[l]? = some b → l ∈ defined ∨ l ∉ defined') →
    b ∉ waiting'.map (·.1) ∧ s.graph.SameAt t.graph b

/-- A step that changes neither the graph nor the labels, and lets no other block wait. -/
theorem Onward.of_graph_eq (hgraph : t.graph = s.graph) (hlabels : t.labels = s.labels)
    (hwaiting : ∀ b ∈ waiting'.map (·.1), b ∈ waiting.map (·.1))
    (hdefined : ∀ l, l ∈ defined ↔ l ∈ defined') :
    Onward s defined waiting t defined' waiting' where
  part := hgraph ▸ .refl _
  labels _ _ hl := hlabels ▸ hl
  fresh _ _ hl := Or.inl (hlabels ▸ hl)
  defined_mem l hl := (hdefined l).mp hl
  same b _ hb _ := ⟨mt (hwaiting b) hb, by rw [hgraph]; exact ⟨rfl, rfl⟩⟩

/-- A step that does something to one waiting block. -/
theorem Onward.of_change {e' : Ending} (hpart : s.graph.IsPartOf t.graph)
    (hlabels : t.labels = s.labels) (hother : ∀ x ≠ c, s.graph.SameAt t.graph x) :
    Onward s defined (before ++ (c, e) :: waiting) t defined (before ++ (c, e') :: waiting) where
  part := hpart
  labels _ _ hl := hlabels ▸ hl
  fresh _ _ hl := Or.inl (hlabels ▸ hl)
  defined_mem _ hl := hl
  same b _ hb _ := ⟨by simpa using hb, hother b fun hbc => hb (by simp [hbc])⟩

/-- A label keeps its block. -/
theorem invariant_label (l : String) (b : BlockId) : Invariant (·.labels[l]? = some b) where
  createBlock _ h := h
  labelBlock {s} label h := by
    rcases s.labelBlock_cases label with ⟨c, -, heq⟩ | ⟨hnone, heq⟩
    · rwa [heq]
    · rw [heq, Std.ExtTreeMap.getElem?_insert]
      split
      · next heq' =>
        rw [Std.LawfulEqCmp.compare_eq_iff_eq.mp heq', h] at hnone
        cases hnone
      · exact h
  addEdge _ _ _ h := h
  addStatement _ _ h := by rwa [addStatement, labels_modifyBlock]
  setTerminator _ _ h := by rwa [setTerminator, labels_modifyBlock]
  setExit _ h := by rwa [labels_setExit]
  enter _ _ h := h
  leave _ h := h

/-- **A jump is done**: it stands at the end of a block that leads to the block of its label. The
block does not wait, nor is it that of a label to be defined. -/
def HasJump (s : Builder) (defined : List String) (waiting : List (BlockId × Ending))
    (m : C.Node) : Prop :=
  ∃ b target, s.labels[m.labelName]? = some target ∧ m.JumpsFrom b target s.graph ∧
    b ∉ waiting.map (·.1) ∧ ∀ l, s.labels[l]? = some b → l ∈ defined

/-- **A labelled statement is done**: it is built from the block of its label. -/
def HasBuilt (nulls : List String) (s : Builder) (d : C.Node) : Prop :=
  ∃ b, s.labels[d.labelName]? = some b ∧ d.BuiltFrom nulls b s.graph

/-- **What the construction has behind it.** The builder is in order, nothing has been done to the
blocks of labels that are yet to be defined, and the jumps to labels and the labelled statements
that are passed are done. -/
structure Progress (nulls : List String) (s : Builder) (passed : List C.Node)
    (defined : List String) (waiting : List (BlockId × Ending)) : Prop where
  orderly : s.Orderly defined waiting
  blank : ∀ (l : String) (b : BlockId), s.labels[l]? = some b → l ∉ defined →
    s.graph.blocks[b]? = some { id := b, label := "label_" ++ l } ∧ s.graph.outEdges b = []
  jumps : ∀ m ∈ passed, m.kind = .gotoStatement → s.HasJump defined waiting m
  built : ∀ d ∈ passed, d.kind = .labeledStatement → s.HasBuilt nulls d

namespace Progress

/-- A waiting block exists. -/
theorem lt_count (h : s.Progress nulls passed defined waiting) (hb : b ∈ waiting.map (·.1)) :
    b < s.count := h.orderly.lt_count hb

/-- One statement more is passed. -/
theorem pass {m : C.Node} (h : s.Progress nulls passed defined waiting)
    (hjump : m.kind = .gotoStatement → s.HasJump defined waiting m)
    (hbuilt : m.kind = .labeledStatement → s.HasBuilt nulls m) :
    s.Progress nulls (m :: passed) defined waiting :=
  { h with
    jumps := List.forall_mem_cons.mpr ⟨hjump, h.jumps⟩
    built := List.forall_mem_cons.mpr ⟨hbuilt, h.built⟩ }

/-- **What is behind stays behind.** -/
theorem onward (h : s.Progress nulls passed defined waiting) (ht : t.Orderly defined' waiting')
    (o : Onward s defined waiting t defined' waiting') :
    t.Progress nulls passed defined' waiting' where
  orderly := ht
  blank l b hl hnot := by
    rcases o.fresh l b hl with hold | ⟨-, hblank⟩
    · have hundefined := mt (o.defined_mem l) hnot
      obtain ⟨hblock, hout⟩ := h.blank l b hold hundefined
      obtain ⟨-, hsame⟩ := o.same b (h.orderly.numbered.labels_lt l b hold)
        (h.orderly.undefined l b hold hundefined).1 fun l' hl' =>
          Or.inr (h.orderly.label_inj hold hl' ▸ hnot)
      exact ⟨hsame.1.trans hblock, hsame.2.trans hout⟩
    · exact hblank
  jumps m hm hkind := by
    obtain ⟨b, target, htarget, ⟨block, hblock, hlast, hterm, hout⟩, hwaits, hlabels⟩ :=
      h.jumps m hm hkind
    have hb := h.orderly.numbered.lt_of_getElem? hblock
    obtain ⟨hwaits', hsame⟩ := o.same b hb hwaits fun l hl => Or.inl (hlabels l hl)
    refine ⟨b, target, o.labels _ _ htarget,
      ⟨block, hsame.1.trans hblock, hlast, hterm, hsame.2.trans hout⟩, hwaits', fun l hl => ?_⟩
    rcases o.fresh l b hl with hold | ⟨hge, -⟩
    · exact o.defined_mem l (hlabels l hold)
    · exact absurd hb (Nat.not_lt.mpr hge)
  built d hd hkind := by
    obtain ⟨b, hb, s₁, t₁, last, hblank, hout, hpart, hrun, hpart'⟩ := h.built d hd hkind
    exact ⟨b, o.labels _ _ hb, s₁, t₁, last, hblank, hout, hpart, hrun, hpart'.trans o.part⟩

/-! ### What the operations do -/

theorem perm (h : s.Progress nulls passed defined waiting) (hwaiting : waiting.Perm waiting') :
    s.Progress nulls passed defined waiting' :=
  h.onward (h.orderly.perm hwaiting)
    (.of_graph_eq rfl rfl (fun _ => (hwaiting.map _).mem_iff.mpr) fun _ => Iff.rfl)

theorem congr (h : s.Progress nulls passed defined waiting)
    (hdefined : ∀ l, l ∈ defined ↔ l ∈ defined') (hpassed : ∀ m ∈ passed', m ∈ passed) :
    s.Progress nulls passed' defined' waiting :=
  have h' := h.onward (h.orderly.congr hdefined) (.of_graph_eq rfl rfl (fun _ => id) hdefined)
  { h' with
    jumps := fun m hm => h'.jumps m (hpassed m hm)
    built := fun d hd => h'.built d (hpassed d hd) }

theorem release (before) (h : s.Progress nulls passed defined (before ++ (c, e) :: waiting))
    (he : e.IsFinal) : s.Progress nulls passed defined (before ++ waiting) :=
  h.onward (h.orderly.release before he) (.of_graph_eq rfl rfl (fun b hb => by
    simp only [List.map_append, List.map_cons, List.mem_append, List.mem_cons] at hb ⊢
    exact hb.imp_right Or.inr) fun _ => Iff.rfl)

section Waiting

variable (before) (h : s.Progress nulls passed defined (before ++ (c, e) :: waiting))

include h

theorem addEdge (hb : b < s.count) (k : EdgeKind) : (s.addEdge c b k).Progress nulls passed defined
    (before ++ (c, { e with kinds := e.kinds ++ [k] }) :: waiting) :=
  h.onward (h.orderly.addEdge before hb k) (.of_change (isPartOf_addEdge k) rfl
    fun x hx => ⟨rfl, by
      have hsite := site_addEdge (s := s) (b := c) (c := b) (x := x) k
      rw [if_neg hx] at hsite
      exact congrArg Site.out hsite⟩)

theorem modifyBlock (f : Block → Block) {e' : Ending}
    (ht : t.Orderly defined (before ++ (c, e') :: waiting)) (hpart : s.graph.IsPartOf t.graph)
    (hblocks : t.graph.blocks = (s.modifyBlock c f).graph.blocks)
    (hedges : t.graph.edges = s.graph.edges) (hlabels : t.labels = s.labels) :
    t.Progress nulls passed defined (before ++ (c, e') :: waiting) := by
  refine h.onward ht (.of_change hpart hlabels fun x hx => ⟨?_, ?_⟩)
  · rw [hblocks, getElem?_modifyBlock, if_neg hx]
  · unfold Graph.outEdges
    rw [hedges]

theorem addStatement (st : Statement) :
    (s.addStatement c st).Progress nulls passed defined (before ++ (c, e) :: waiting) :=
  h.modifyBlock before (withStatement · st) (h.orderly.addStatement before st)
    (isPartOf_addStatement st) rfl (edges_modifyBlock _) (labels_modifyBlock _)

theorem setTerminator (terminator : Terminator) :
    (s.setTerminator c terminator).Progress nulls passed defined
      (before ++ (c, { e with terminator }) :: waiting) :=
  h.modifyBlock before (fun block => { block with terminator })
    (h.orderly.setTerminator before terminator) (isPartOf_setTerminator terminator) rfl
    (edges_modifyBlock _) (labels_modifyBlock _)

theorem setExit : (s.setExit c).Progress nulls passed defined (before ++ (c, e) :: waiting) :=
  h.modifyBlock before (fun block => { block with isExit := true }) (h.orderly.setExit before)
    isPartOf_setExit blocks_setExit edges_setExit labels_setExit

end Waiting

theorem enter (h : s.Progress nulls passed defined waiting) (hb : b < s.count) (c? : Option Nat)
    (hc : ∀ c ∈ c?, c < s.count) : (s.enter b c?).Progress nulls passed defined waiting :=
  h.onward (h.orderly.enter hb c? hc) (.of_graph_eq rfl rfl (fun _ => id) fun _ => Iff.rfl)

theorem leave (h : t.Progress nulls passed defined waiting)
    (hs : s.Progress nulls passed' defined' waiting') (hcount : s.count ≤ t.count) :
    (t.leave s).Progress nulls passed defined waiting :=
  h.onward (h.orderly.leave hs.orderly hcount)
    (.of_graph_eq rfl rfl (fun _ => id) fun _ => Iff.rfl)

theorem createBlock (h : s.Progress nulls passed defined waiting) (label : String)
    (hlabel : label.toList.head? ≠ some 'l') :
    (s.createBlock label).2.Progress nulls passed defined ((s.count, .opened) :: waiting) := by
  refine h.onward (h.orderly.createBlock label hlabel) ⟨isPartOf_createBlock h.orderly.numbered _,
    fun _ _ => id, fun _ _ => Or.inl, fun _ => id, fun b hb hwaits _ => ⟨?_, ?_, rfl⟩⟩
  · exact fun hmem => (List.mem_cons.mp hmem).elim (Nat.ne_of_lt hb) hwaits
  · rw [getElem?_createBlock, if_neg (Nat.ne_of_lt hb)]

/-- **Defining a label** lets its block wait. -/
theorem define (h : s.Progress nulls passed defined waiting) (hb : s.labels[l]? = some b)
    (hl : l ∉ defined) : s.Progress nulls passed (l :: defined) ((b, .opened) :: waiting) := by
  refine h.onward (h.orderly.define hb hl) ⟨.refl _, fun _ _ => id, fun _ _ => Or.inl,
    fun _ => List.mem_cons_of_mem l, fun x _ hwaits hlabels => ⟨fun hmem => ?_, rfl, rfl⟩⟩
  rcases List.mem_cons.mp hmem with rfl | hmem
  · exact (hlabels l hb).elim hl fun hnot => hnot List.mem_cons_self
  · exact hwaits hmem

theorem labelBlock (h : s.Progress nulls passed defined waiting) (l : String) :
    (s.labelBlock l).2.Progress nulls passed defined waiting := by
  refine h.onward (h.orderly.labelBlock l).1 ?_
  have hpart := isPartOf_labelBlock h.orderly.numbered l
  rcases s.labelBlock_cases l with ⟨b, -, heq⟩ | ⟨hnone, heq⟩
  · rw [heq]
    exact .of_graph_eq rfl rfl (fun _ => id) fun _ => Iff.rfl
  · rw [heq] at hpart ⊢
    refine ⟨hpart, fun l' b hl' => heq ▸ (invariant_label l' b).labelBlock l hl',
      fun l' b hl' => ?_, fun _ => id, fun b hb hwaits _ => ⟨hwaits, ?_, rfl⟩⟩
    · rw [Std.ExtTreeMap.getElem?_insert] at hl'
      split at hl'
      · next heq' =>
        cases Std.LawfulEqCmp.compare_eq_iff_eq.mp heq'
        cases hl'
        exact Or.inr ⟨Nat.le_refl _, (getElem?_createBlock _).trans (if_pos rfl),
          h.orderly.outEdges_count⟩
      · exact Or.inl hl'
    · exact (getElem?_createBlock _).trans (if_neg (Nat.ne_of_lt hb))

/-! ### Jumps -/

/-- A statement that is added to a block is its last one. -/
theorem getLast?_addStatement (h : s.Progress nulls passed defined ((c, e) :: waiting))
    (st : Statement) : ∃ block, (s.addStatement c st).graph.blocks[c]? = some block ∧
      block.statements.getLast? = some st := by
  obtain ⟨block, hblock⟩ := h.orderly.numbered.exists_block (h.lt_count (b := c) (by simp))
  refine ⟨withStatement block st, ?_, List.getLast?_concat⟩
  rw [Builder.addStatement, getElem?_modifyBlock, if_pos rfl, hblock, Option.map_some]

/-- Asking for the block of a label changes no other block. -/
theorem getLast?_labelBlock {st : Statement} (h : s.Progress nulls passed defined waiting)
    (l : String) (hlast : ∃ block, s.graph.blocks[c]? = some block ∧
      block.statements.getLast? = some st) :
    ∃ block, (s.labelBlock l).2.graph.blocks[c]? = some block ∧
      block.statements.getLast? = some st := by
  obtain ⟨block, hblock, hst⟩ := hlast
  refine ⟨block, ?_, hst⟩
  rcases s.labelBlock_cases l with ⟨b, -, heq⟩ | ⟨-, heq⟩
  · rwa [heq]
  · rw [heq]
    refine (getElem?_createBlock _).trans ?_
    rwa [if_neg (Nat.ne_of_lt (h.orderly.numbered.lt_of_getElem? hblock))]

/-- **The last operations of a jump**: an open block that ends with the jump is given the terminator
and the edge. -/
theorem hasJump {m : C.Node} (h : s.Progress nulls passed defined ((c, .opened) :: waiting))
    (hlast : ∃ block, s.graph.blocks[c]? = some block ∧
      block.statements.getLast? = some m.jump)
    (htarget : s.labels[m.labelName]? = some b) :
    ((s.setTerminator c (.goto m.labelName)).addEdge c b .jump).HasJump defined waiting m := by
  obtain ⟨block, hblock, hst⟩ := hlast
  have hlabels : (s.setTerminator c (.goto m.labelName)).labels = s.labels := labels_modifyBlock _
  have hopened : s.graph.outEdges c = [] := by
    have hending := h.orderly.waits _ List.mem_cons_self
    rw [Site.ending?, show (s.site c).block? = some block from hblock] at hending
    exact List.map_eq_nil_iff.mp (congrArg Ending.kinds (Option.some.inj hending))
  refine ⟨c, b, hlabels.symm ▸ htarget, ⟨{ block with terminator := .goto m.labelName }, ?_, hst,
    rfl, ?_⟩, (List.nodup_cons.mp h.orderly.nodup).1, fun l hl => ?_⟩
  · refine (getElem?_modifyBlock _).trans ?_
    rw [if_pos rfl, hblock, Option.map_some]
  · have hsite := site_addEdge (s := s.setTerminator c (.goto m.labelName)) (b := c) (c := b)
      (x := c) .jump
    rw [if_pos rfl, site_setTerminator, if_pos rfl] at hsite
    exact (congrArg Site.out hsite).trans (congrArg (· ++ [_]) hopened)
  · exact Decidable.byContradiction fun hnot =>
      (h.orderly.undefined l c (hlabels ▸ hl) hnot).1 List.mem_cons_self

/-- At the start of a function nothing is passed. -/
theorem begun (nulls : List String) (function file : String) :
    (Builder.begun function file).Progress nulls [] [] [(0, .opened)] where
  orderly := .begun function file
  blank l b hl := by
    have hnone : (Builder.begun function file).labels[l]? = none := Std.ExtTreeMap.getElem?_empty
    rw [hnone] at hl
    cases hl
  jumps _ hm := absurd hm List.not_mem_nil
  built _ hd := absurd hd List.not_mem_nil

end Progress

end Builder

end NullFlow
