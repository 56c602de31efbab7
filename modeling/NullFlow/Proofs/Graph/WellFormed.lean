import NullFlow.Proofs.Graph.Walks

/-!
# Every graph is well formed

When the walk through the body of a function is over, no block waits any longer. So the blocks are
numbered without a gap, every edge joins two of them, and each block ends as its terminator says,
but for the blocks of labels that no statement defines.
-/

namespace NullFlow

/-- **A well-formed graph.** The blocks are numbered from zero on without a gap, the edges join
blocks, the first block and no other is the entry, and the exits are the blocks that are marked so,
each of them once. -/
structure Graph.WellFormed (g : Graph) : Prop where
  mem_blocks_iff : ∃ count : Nat, ∀ b, b ∈ g.blocks ↔ b < count
  id_eq : ∀ (b : BlockId) (block : Block), g.blocks[b]? = some block → block.id = b
  mem_blocks : ∀ e ∈ g.edges, e.source ∈ g.blocks ∧ e.target ∈ g.blocks
  entry_eq : g.entry = 0
  isEntry_iff : ∀ (b : BlockId) (block : Block), g.blocks[b]? = some block →
    (block.isEntry = true ↔ b = 0)
  nodup_exits : g.exits.Nodup
  mem_exits_iff : ∀ b, b ∈ g.exits ↔ ∃ block, g.blocks[b]? = some block ∧ block.isExit = true

namespace Builder

theorem build_eq (s : Builder) : s.build =
    { s.graph with dominators := s.build.dominators, unreachable := s.build.unreachable } := by
  unfold build Graph.finish Graph.computeDominators
  split <;> rfl

/-- The graph of a builder in order is well formed. -/
theorem Orderly.wellFormed {s : Builder} {defined : List String}
    {waiting : List (BlockId × Ending)} (h : s.Orderly defined waiting) : s.graph.WellFormed := by
  refine ⟨⟨s.count, fun _ => h.numbered.mem_blocks⟩, fun b block hb => ?_, fun e he => ?_,
    h.numbered.entry_eq, fun b block hb => ?_, h.numbered.nodup_exits, fun b => ⟨fun hb => ?_, ?_⟩⟩
  · exact congrArg (·.1) (h.numbered.marks_of_getElem? hb)
  · exact (h.edges_lt e he).imp h.numbered.mem_blocks.mpr h.numbered.mem_blocks.mpr
  · have hentry : block.isEntry = (b == 0) :=
      congrArg (·.2.1) (h.numbered.marks_of_getElem? hb)
    rw [hentry, beq_iff_eq]
  · obtain ⟨block, hblock⟩ := h.numbered.exists_block (h.numbered.exits_lt b hb)
    have hexit : block.isExit = s.graph.exits.contains b :=
      congrArg (·.2.2) (h.numbered.marks_of_getElem? hblock)
    exact ⟨block, hblock, hexit.trans (List.contains_iff_mem.mpr hb)⟩
  · rintro ⟨block, hblock, hexit⟩
    have heq : block.isExit = s.graph.exits.contains b :=
      congrArg (·.2.2) (h.numbered.marks_of_getElem? hblock)
    exact List.contains_iff_mem.mp (heq.symm.trans hexit)

/-- When nothing waits, a block ends as its terminator says, unless it was made for a label that no
statement defines. Then nothing has been done to it. -/
theorem Orderly.ending_of_getElem? {s : Builder} {defined : List String} {b : BlockId}
    {block : Block} (h : s.Orderly defined []) (hb : s.graph.blocks[b]? = some block) :
    ((∀ l, block.label = "label_" ++ l → l ∈ defined) →
      Ending.IsFinal ⟨block.terminator, (s.graph.outEdges b).map (·.kind)⟩) ∧
    ∀ l, block.label = "label_" ++ l → l ∉ defined →
      block.terminator = .fallThrough ∧ s.graph.outEdges b = [] := by
  have hending : (s.site b).ending? = some ⟨block.terminator, (s.graph.outEdges b).map (·.kind)⟩ :=
    congrArg (Option.map _) hb
  have hlabel (l : String) : s.labels[l]? = some b ↔ block.label = "label_" ++ l := by
    rw [h.labels_iff, hb, Option.map_some, Option.some_inj]
  constructor
  · intro hdefined
    rcases h.settled b _ hending List.not_mem_nil with hfinal | ⟨l, hl, hlb⟩
    · exact hfinal
    · exact absurd (hdefined l ((hlabel l).mp hlb)) hl
  · intro l hl hnot
    have hopened := (h.undefined l b ((hlabel l).mpr hl) hnot).2
    have heq := Option.some.inj (hending.symm.trans hopened)
    exact ⟨congrArg Ending.terminator heq, List.map_eq_nil_iff.mp (congrArg Ending.kinds heq)⟩

end Builder

namespace C.Node

open Build

variable {nulls : List String} {file function : String} {n body : C.Node}

/-- The graph of a definition is what the walk through its body has built, with the last block made
an exit. -/
theorem graphOf?_of_run (hbody : n.child? .body = some body) {last : BlockId} {s : Builder}
    (hrun : (body.appendTo nulls 0).run (.begun function file) = some (last, s)) :
    n.graphOf? nulls file function = some { ((s.setExit last).setTerminator last .returning).build
      with startLine := n.line, parameters := n.functionParameters } := by
  simp only [graphOf?, hbody, Option.bind_eq_bind, Option.bind_some]
  exact congrArg (Option.bind · _) hrun

theorem exists_progress (hbody : n.child? .body = some body) (hconditions : body.HasConditions)
    (hlabels : body.definedLabels.Nodup) : ∃ s : Builder,
      s.Progress nulls body.reached body.definedLabels [] ∧ n.graphOf? nulls file function =
        some { s.build with startLine := n.line, parameters := n.functionParameters } := by
  have hwalk : Walks nulls body.reached (body.appendTo nulls) := walks_appendTo hconditions
  obtain ⟨last, t, hrun, ht, -⟩ :=
    hwalk (.begun nulls function file) ((List.append_nil _).symm ▸ hlabels)
  rw [List.append_nil, List.append_nil] at ht
  have hend := ((ht.setExit []).setTerminator [] .returning).release [] rfl
  exact ⟨_, hend, graphOf?_of_run hbody hrun⟩

/-- **The graph of a definition is well formed, and each of its blocks ends as its terminator
says**, if no label is defined twice. Only the blocks of labels that no statement defines have
nothing done to them. Nothing is said about a label that is defined in the body of a switch outside
of the cases. -/
theorem exists_graph_wellFormed (nulls : List String) (file function : String)
    (hbody : n.child? .body = some body) (hconditions : body.HasConditions)
    (hlabels : body.definedLabels.Nodup) : ∃ g, n.graphOf? nulls file function = some g ∧
      g.WellFormed ∧ ∀ (b : BlockId) (block : Block), g.blocks[b]? = some block →
        ((∀ l, block.label = "label_" ++ l → l ∈ body.definedLabels) →
          Ending.IsFinal ⟨block.terminator, (g.outEdges b).map (·.kind)⟩) ∧
        ∀ l, block.label = "label_" ++ l → l ∉ body.definedLabels →
          l ∉ body.strays.flatMap definedLabels →
          block.terminator = .fallThrough ∧ g.outEdges b = [] := by
  obtain ⟨s, ⟨hs, -⟩, hg⟩ := exists_progress hbody hconditions hlabels
  rw [s.build_eq] at hg
  refine ⟨_, hg, ?_, fun b block hb => ?_⟩
  · obtain ⟨hcount, hid, hmem, hentry, hmark, hnodup, hexits⟩ := hs.wellFormed
    exact ⟨hcount, hid, hmem, hentry, hmark, hnodup, hexits⟩
  · obtain ⟨hfinal, hopened⟩ := hs.ending_of_getElem? hb
    exact ⟨hfinal, fun l hl hnot _ => hopened l hl hnot⟩

/-- The statement `again: if (p) goto again;` from its parts up, punctuation left out. -/
def goingBack : Node :=
  ⟨.gotoStatement, some .consequence, "goto again;", 1, 30,
    [⟨.statementIdentifier, some .label, "again", 1, 35, []⟩]⟩

def repeating : Node :=
  ⟨.ifStatement, none, "if (p) goto again;", 1, 23,
    [⟨.parenthesizedExpression, some .condition, "(p)", 1, 26,
      [⟨.identifier, none, "p", 1, 27, []⟩]⟩, goingBack]⟩

def labelledAgain : Node :=
  ⟨.labeledStatement, none, "again: if (p) goto again;", 1, 16,
    [⟨.statementIdentifier, some .label, "again", 1, 16, []⟩, repeating]⟩

def repeatingBody : Node :=
  ⟨.compoundStatement, some .body, "\x7b again: if (p) goto again; \x7d", 1, 14, [labelledAgain]⟩

def repeatingFunction : Node :=
  ⟨.functionDefinition, none, "void f(int *p) \x7b again: if (p) goto again; \x7d", 1, 1,
    [repeatingBody]⟩

theorem reached_repeatingBody :
    repeatingBody.reached = [repeatingBody, labelledAgain, repeating, goingBack] := by
  have hbody : repeatingBody.substatements = [labelledAgain] := rfl
  have hlabelled : labelledAgain.substatements = [repeating] := rfl
  have hif : repeating.substatements = [goingBack] := rfl
  have hgoto : goingBack.substatements = [] := rfl
  rw [reached_eq, hbody, List.flatMap_singleton, reached_eq, hlabelled, List.flatMap_singleton,
    reached_eq, hif, List.flatMap_singleton, reached_eq, hgoto, List.flatMap_nil]

theorem hasConditions_repeatingBody : repeatingBody.HasConditions := by
  intro m hm hkind
  rw [reached_repeatingBody] at hm
  simp only [List.mem_cons, List.not_mem_nil, or_false] at hm
  rcases hm with rfl | rfl | rfl | rfl <;> revert hkind <;> decide

/-- A function in which a label is defined once and jumped to, with a condition. -/
theorem exists_graph_wellFormed_repeating :
    (repeatingBody.HasConditions ∧ repeatingBody.definedLabels.Nodup) ∧
      ∃ g, repeatingFunction.graphOf? [] "test.c" "f" = some g ∧ g.WellFormed ∧
        ∀ (b : BlockId) (block : Block), g.blocks[b]? = some block →
          ((∀ l, block.label = "label_" ++ l → l ∈ repeatingBody.definedLabels) →
            Ending.IsFinal ⟨block.terminator, (g.outEdges b).map (·.kind)⟩) ∧
          ∀ l, block.label = "label_" ++ l → l ∉ repeatingBody.definedLabels →
            l ∉ repeatingBody.strays.flatMap definedLabels →
            block.terminator = .fallThrough ∧ g.outEdges b = [] := by
  have hlabels : repeatingBody.definedLabels.Nodup := by
    rw [definedLabels, reached_repeatingBody]
    decide
  exact ⟨⟨hasConditions_repeatingBody, hlabels⟩,
    exists_graph_wellFormed [] "test.c" "f" rfl hasConditions_repeatingBody hlabels⟩

/-! ### A label between the lines of a conditional -/

/-- The statements of `void f(void) { goto out; #if 1 out: ; #endif }`, each on a line of its own,
punctuation left out. The conditional of the preprocessor is kept as one statement. -/
def gotoOut : Node :=
  ⟨.gotoStatement, none, "goto out;", 2, 5, [⟨.statementIdentifier, some .label, "out", 2, 10, []⟩]⟩

def definedOut : Node :=
  ⟨.labeledStatement, none, "out:\n    ;", 4, 1,
    [⟨.statementIdentifier, some .label, "out", 4, 1, []⟩,
      ⟨.expressionStatement, none, ";", 5, 5, []⟩]⟩

def conditionalOut : Node :=
  ⟨.preprocIf, none, "#if 1\nout:\n    ;\n#endif", 3, 1,
    [⟨.numberLiteral, some .condition, "1", 3, 5, []⟩, definedOut]⟩

def leavingBody : Node :=
  ⟨.compoundStatement, some .body, "\x7b\n    goto out;\n#if 1\nout:\n    ;\n#endif\n\x7d", 1, 14,
    [gotoOut, conditionalOut]⟩

def leaving : Node :=
  ⟨.functionDefinition, none,
    "void f(void) \x7b\n    goto out;\n#if 1\nout:\n    ;\n#endif\n\x7d", 1, 1,
    [leavingBody]⟩

/-- What has been built of it when the walk through its body is over. -/
theorem does_leaving : (leavingBody.appendTo [] 0).Does (.begun "f" "test.c") fun last s =>
    last = 2 ∧ s.site 1 = .created 1 "label_out" ∧ (s.site 2).IsOpen := by
  have hbody : leavingBody.appendTo [] 0 =
      gotoOut.appendTo [] 0 >>= fun b => conditionalOut.appendTo [] b >>= pure := by
    rw [appendTo]
    rfl
  have hgoto : gotoOut.appendTo [] 0 = appendGoto gotoOut 0 := by
    rw [appendTo]
    rfl
  have hother (b : BlockId) : conditionalOut.appendTo [] b = (do
      append b conditionalOut .other (conditionalOut.facts [])
      return b) := by
    rw [appendTo]
    rfl
  have hname : (gotoOut.child? .label).elim "" (·.excerpt) = "out" := rfl
  rw [hbody, hgoto]
  simp only [appendGoto, hother, hname, does_bind, does_append, does_labelled, does_terminate,
    does_edge, does_create, does_pure]
  generalize hs : Builder.addStatement _ 0 _ = s
  have hcount : s.count = 1 := by
    rw [← hs, Builder.count_addStatement]
    rfl
  have hone : s.site 1 = .absent ∧ s.site 2 = .absent := by
    rw [← hs, Builder.site_addStatement, if_neg (by decide), Builder.site_addStatement,
      if_neg (by decide)]
    exact ⟨rfl, rfl⟩
  have hnone : s.labels["out"]? = none := by
    rw [← hs]
    exact (congrArg (·["out"]?) (Builder.labels_modifyBlock _)).trans
      Std.ExtTreeMap.getElem?_empty
  have hnot : ¬ ∃ b, s.labels["out"]? = some b ∧ s.labelBlock "out" = (b, s) := by
    simp [hnone]
  obtain ⟨-, hlabel⟩ := (s.labelBlock_cases "out").resolve_left hnot
  rw [hlabel]
  clear hs hlabel
  generalize ht : Builder.mk _ _ _ _ (s.labels.insert "out" s.count) = t
  have hcount' : t.count = 2 := by
    rw [← ht]
    exact congrArg (· + 1) hcount
  have hsite : t.site 1 = .created 1 "label_out" ∧ t.site 2 = .absent := by
    rw [← ht]
    refine ⟨(Builder.site_createBlock _).trans ?_, (Builder.site_createBlock _).trans ?_⟩
    · rw [hcount, if_pos rfl, hone.1]
      rfl
    · rw [hcount, if_neg (by decide), hone.2]
  refine ⟨by simp [hcount'], ?_, ?_⟩
  · simp [hcount, hcount', hsite]
  · simpa [hcount, hcount', hsite] using (Site.isOpen_created 2 "after_goto").addStatement _

/-- **A label that is defined where the construction does not come to.** Its block falls through
without an edge, though a labelled statement of the function has that name. -/
theorem exists_defined_label_without_edge :
    (leaving.child? .body = some leavingBody ∧ conditionalOut ∈ leavingBody.children ∧
      definedOut ∈ conditionalOut.children ∧ definedOut.kind = .labeledStatement ∧
      definedOut.labelName = "out") ∧
    ∃ g block, leaving.graphOf? [] "test.c" "f" = some g ∧ g.blocks[1]? = some block ∧
      block.label = "label_" ++ definedOut.labelName ∧ block.terminator = .fallThrough ∧
      g.outEdges 1 = [] := by
  refine ⟨⟨rfl, by simp [leavingBody], by simp [conditionalOut], rfl, rfl⟩, ?_⟩
  obtain ⟨last, s, hrun, rfl, hsite, hopen⟩ := does_leaving
  let t := (s.setExit 2).setTerminator 2 .returning
  have hgraph : leaving.graphOf? [] "test.c" "f" = some { t.build with
      startLine := leaving.line, parameters := leaving.functionParameters } :=
    graphOf?_of_run rfl hrun
  have hsite' : t.site 1 = .created 1 "label_out" := by
    rw [Builder.site_setTerminator, if_neg (by decide), Builder.site_setExit hopen,
      if_neg (by decide), hsite]
  rw [t.build_eq] at hgraph
  exact ⟨_, _, hgraph, congrArg Site.block? hsite', rfl, rfl, congrArg Site.out hsite'⟩

end C.Node

end NullFlow
