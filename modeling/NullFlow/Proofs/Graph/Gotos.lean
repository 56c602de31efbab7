import NullFlow.Proofs.Graph.WellFormed

/-!
# Where jumps to labels lead

A label has a block from the first time on that the construction comes to it, whether at a jump or
at the labelled statement. The blocks are found by the name of the label, of which the construction
reads no more than it keeps of any text. So if the names differ within that length, each jump leads
to the block that the labelled statement is built from, and labels do not share blocks
(`C.Node.exists_graph_labelsPlaced`). Labels with the same beginning share a block.
-/

namespace NullFlow

namespace C.Node

open Build

variable {nulls : List String} {file function : String} {n body : C.Node}

/-- The name of the label that stands at a statement or that it jumps to, in its full length. -/
def labelText (n : Node) : String := (n.child? .label).elim "" (·.text)

/-- The jumps to labels and the labelled statements. -/
def NamesLabel (n : Node) : Prop := n.kind = .gotoStatement ∨ n.kind = .labeledStatement

theorem labelName_eq (n : Node) :
    n.labelName = String.ofList (n.labelText.toList.take excerptLength) := by
  unfold labelName labelText
  cases n.child? .label <;> rfl

/-- **The labels of a body are placed**: every jump to a label stands at the end of a block that
leads to the place of the label and nowhere else, every labelled statement is built from the place
of its label, and different labels have different places. -/
structure LabelsPlaced (nulls : List String) (body : Node) (place : String → BlockId) (g : Graph) :
    Prop where
  jumps : ∀ m ∈ body.reached, m.kind = .gotoStatement → ∃ b, m.JumpsFrom b (place m.labelText) g
  built : ∀ d ∈ body.reached, d.kind = .labeledStatement → d.BuiltFrom nulls (place d.labelText) g
  place_ne : ∀ m ∈ body.reached, ∀ d ∈ body.reached, m.NamesLabel → d.NamesLabel →
    m.labelText ≠ d.labelText → place m.labelText ≠ place d.labelText

/-- The label of a statement that is passed has a block. -/
theorem exists_label {s : Builder} {passed : List Node} {defined : List String}
    {waiting : List (BlockId × Ending)} {m : Node} (h : s.Progress nulls passed defined waiting)
    (hm : m ∈ passed) (hm' : m.NamesLabel) : ∃ b, s.labels[m.labelName]? = some b := by
  rcases hm' with hkind | hkind
  · obtain ⟨-, target, htarget, -⟩ := h.jumps m hm hkind
    exact ⟨target, htarget⟩
  · obtain ⟨b, hb, -⟩ := h.built m hm hkind
    exact ⟨b, hb⟩

/-- Labels that are defined once and do not agree in their beginnings have beginnings that are
defined once. -/
theorem nodup_definedLabels
    (hdefined : ((body.reached.filter (·.kind == .labeledStatement)).map labelText).Nodup)
    (hbeginnings : ∀ m ∈ body.reached, ∀ d ∈ body.reached, m.NamesLabel → d.NamesLabel →
      m.labelName = d.labelName → m.labelText = d.labelText) : body.definedLabels.Nodup := by
  have hmem {m : Node} (hm : m ∈ body.reached.filter (·.kind == .labeledStatement)) :
      m ∈ body.reached ∧ m.NamesLabel :=
    (List.mem_filter.mp hm).imp_right fun hkind => Or.inr (beq_iff_eq.mp hkind)
  refine List.pairwise_map.mpr ((List.pairwise_map.mp hdefined).imp_of_mem fun ha hb hne heq => ?_)
  exact hne (hbeginnings _ (hmem ha).1 _ (hmem hb).1 (hmem ha).2 (hmem hb).2 heq)

/-- **Jumps lead to their labels.** If no label is defined twice, and the names of labels that
differ do so in their beginnings, then every label has a place in the graph of the definition: the
jumps to it lead there, and the statement with the label is built there. Nothing is said about the
statements that the construction does not come to. -/
theorem exists_graph_labelsPlaced (nulls : List String) (file function : String)
    (hbody : n.child? .body = some body) (hconditions : body.HasConditions)
    (hdefined : ((body.reached.filter (·.kind == .labeledStatement)).map labelText).Nodup)
    (hbeginnings : ∀ m ∈ body.reached, ∀ d ∈ body.reached, m.NamesLabel → d.NamesLabel →
      m.labelName = d.labelName → m.labelText = d.labelText) :
    ∃ g place, n.graphOf? nulls file function = some g ∧ LabelsPlaced nulls body place g := by
  obtain ⟨s, hs, hg⟩ :=
    exists_progress hbody hconditions (nodup_definedLabels hdefined hbeginnings)
  rw [s.build_eq] at hg
  let place (text : String) : BlockId :=
    (s.labels[String.ofList (text.toList.take excerptLength)]?).getD 0
  have hplace {m : Node} {b : BlockId} (hb : s.labels[m.labelName]? = some b) :
      place m.labelText = b := by
    show (s.labels[_]?).getD 0 = b
    rw [← labelName_eq, hb, Option.getD_some]
  refine ⟨_, place, hg, fun m hm hkind => ?_, fun d hd hkind => ?_,
    fun m hm d hd hm' hd' hne heq => ?_⟩
  · obtain ⟨b, target, htarget, hjump, -⟩ := hs.jumps m hm hkind
    exact ⟨b, hplace htarget ▸ hjump⟩
  · obtain ⟨b, hb, s₁, t, last, hblank, hout, hpart, hrun, hpart'⟩ := hs.built d hd hkind
    exact hplace hb ▸ ⟨s₁, t, last, hblank, hout, hpart, hrun, hpart'.blocks, hpart'.edges⟩
  · obtain ⟨b, hb⟩ := exists_label hs hm hm'
    obtain ⟨b', hb'⟩ := exists_label hs hd hd'
    rw [hplace hb, hplace hb'] at heq
    subst heq
    exact hne (hbeginnings m hm d hd hm' hd' (hs.orderly.label_inj hb hb'))

/-- A function with a jump back to a label, which has a place. -/
theorem exists_graph_labelsPlaced_repeating :
    (repeatingBody.HasConditions ∧
      ((repeatingBody.reached.filter (·.kind == .labeledStatement)).map labelText).Nodup ∧
      ∀ m ∈ repeatingBody.reached, ∀ d ∈ repeatingBody.reached, m.NamesLabel → d.NamesLabel →
        m.labelName = d.labelName → m.labelText = d.labelText) ∧
      ∃ g place, repeatingFunction.graphOf? [] "test.c" "f" = some g ∧
        LabelsPlaced [] repeatingBody place g := by
  have hdefined :
      ((repeatingBody.reached.filter (·.kind == .labeledStatement)).map labelText).Nodup := by
    rw [reached_repeatingBody]
    decide
  have hbeginnings : ∀ m ∈ repeatingBody.reached, ∀ d ∈ repeatingBody.reached, m.NamesLabel →
      d.NamesLabel → m.labelName = d.labelName → m.labelText = d.labelText := by
    rw [reached_repeatingBody]
    unfold NamesLabel
    decide
  exact ⟨⟨hasConditions_repeatingBody, hdefined, hbeginnings⟩, exists_graph_labelsPlaced [] "test.c"
    "f" rfl hasConditions_repeatingBody hdefined hbeginnings⟩

end C.Node

/-! ### Labels with the same beginning -/

/-- **The names of the blocks** of a builder, in the order of their numbers. -/
structure Builder.Named (s : Builder) (names : List String) : Prop where
  count : s.count = names.length
  label : ∀ b : BlockId, (s.graph.blocks[b]?).map (·.label) = names[b]?

namespace Builder.Named

variable {s : Builder} {names : List String}

theorem begun (function file : String) : (Builder.begun function file).Named ["entry"] where
  count := rfl
  label b := by
    rw [getElem?_begun]
    match b with
    | 0 => rfl
    | b + 1 => rfl

theorem addEdge (h : s.Named names) (b c : BlockId) (k : EdgeKind) :
    (s.addEdge b c k).Named names :=
  ⟨h.count, h.label⟩

/-- A block keeps its name. -/
theorem of_modifyBlock {t : Builder} {b : BlockId} {f : Block → Block} (h : s.Named names)
    (hf : ∀ block, (f block).label = block.label) (hcount : t.count = s.count)
    (hblocks : t.graph.blocks = (s.modifyBlock b f).graph.blocks) : t.Named names := by
  refine ⟨hcount.trans h.count, fun x => ?_⟩
  rw [hblocks, map_getElem?_modifyBlock hf, h.label]

theorem addStatement (h : s.Named names) (b : BlockId) (st : Statement) :
    (s.addStatement b st).Named names :=
  h.of_modifyBlock (f := (withStatement · st)) (fun _ => rfl) (count_addStatement st) rfl

theorem setTerminator (h : s.Named names) (b : BlockId) (terminator : Terminator) :
    (s.setTerminator b terminator).Named names :=
  h.of_modifyBlock (f := ({ · with terminator })) (fun _ => rfl) (count_setTerminator terminator)
    rfl

theorem setExit (h : s.Named names) (b : BlockId) : (s.setExit b).Named names :=
  h.of_modifyBlock (f := ({ · with isExit := true })) (fun _ => rfl) count_setExit blocks_setExit

theorem createBlock (h : s.Named names) (label : String) :
    (s.createBlock label).2.Named (names ++ [label]) := by
  refine ⟨?_, fun (b : Nat) => ?_⟩
  · rw [count_createBlock, h.count, List.length_append]
    rfl
  · rw [getElem?_createBlock, h.count]
    split
    · next hb => rw [hb, List.getElem?_concat_length, Option.map_some]
    · next hb =>
      rw [h.label, List.getElem?_append]
      split
      · rfl
      · next hlt =>
        have hlt' : names.length < b := Nat.lt_of_le_of_ne (Nat.le_of_not_lt hlt) (Ne.symm hb)
        have hlength : [label].length ≤ b - names.length := Nat.sub_pos_of_lt hlt'
        rw [List.getElem?_eq_none (Nat.le_of_lt hlt'), List.getElem?_eq_none hlength]

/-- A label that has no block so far gets the next one. -/
theorem labelBlock (h : s.Named names) {l : String} (hnew : s.labels[l]? = none) :
    (s.labelBlock l).2.labels[l]? = some names.length ∧
      (s.labelBlock l).2.Named (names ++ ["label_" ++ l]) := by
  obtain ⟨b, hold, -⟩ | ⟨-, heq⟩ := s.labelBlock_cases l
  · rw [hnew] at hold
    cases hold
  · rw [heq]
    have hcreated := h.createBlock ("label_" ++ l)
    exact ⟨h.count ▸ Std.ExtTreeMap.getElem?_insert_self, hcreated.count, hcreated.label⟩

end Builder.Named

namespace C.Node

open Build

variable {nulls : List String} {n : C.Node}

/-- As many letters as the construction reads of a name. -/
def beginning : String := String.ofList (List.replicate excerptLength 'a')

def gotoLabel (text : String) : Node :=
  ⟨.gotoStatement, none, "goto " ++ text ++ ";", 2, 5,
    [⟨.statementIdentifier, some .label, text, 2, 10, []⟩]⟩

def returnAt (line : Nat) : Node := ⟨.returnStatement, none, "return;", line + 1, 5, []⟩

def labelledReturn (text : String) (line : Nat) : Node :=
  ⟨.labeledStatement, none, text ++ ":\n    return;", line, 1,
    [⟨.statementIdentifier, some .label, text, line, 1, []⟩, returnAt line]⟩

/-- The statements of a function with two labels, each on a line of its own, punctuation left out.
The labels differ behind the beginning only. -/
def sharingBody : Node :=
  ⟨.compoundStatement, some .body,
    "\x7b\n    goto " ++ beginning ++ "y;\n" ++ beginning ++ "x:\n    return;\n" ++ beginning ++
      "y:\n    return;\n\x7d", 1, 14,
    [gotoLabel (beginning ++ "y"), labelledReturn (beginning ++ "x") 3,
      labelledReturn (beginning ++ "y") 5]⟩

def sharing : Node :=
  ⟨.functionDefinition, none, "void f(void) " ++ sharingBody.text, 1, 1, [sharingBody]⟩

/-- A jump to a label that the construction has not come to so far. -/
theorem does_gotoLabel {s : Builder} {names : List String} {b : BlockId} (h : s.Named names)
    (hnew : s.labels[n.labelName]? = none) : Does (appendGoto n b) s fun _ t =>
      t.labels[n.labelName]? = some names.length ∧
      t.Named (names ++ ["label_" ++ n.labelName] ++ ["after_goto"]) := by
  refine does_bind.mpr (does_append.mpr (does_bind.mpr (does_labelled.mpr ?_)))
  have h := h.addStatement b n.jump
  have hnew : (s.addStatement b n.jump).labels[n.labelName]? = none :=
    (congrArg (·[n.labelName]?) (Builder.labels_modifyBlock _)).trans hnew
  obtain ⟨htarget, hnamed⟩ := h.labelBlock hnew
  refine does_bind.mpr (does_terminate.mpr (does_bind.mpr (does_edge.mpr (does_create.mpr ?_))))
  refine ⟨?_, ?_⟩
  · exact (congrArg (·[n.labelName]?) (Builder.labels_modifyBlock _)).trans htarget
  · exact ((hnamed.setTerminator b (.goto n.labelName)).addEdge b _ .jump).createBlock "after_goto"

theorem appendTo_labelledReturn (text : String) (line : Nat) (b : BlockId) :
    (labelledReturn text line).appendTo nulls b =
      labelled (labelledReturn text line).labelName >>= fun target =>
        edge b target .fallThrough >>= fun _ =>
          appendReturn nulls (returnAt line) target >>= pure := by
  have hreturn : appendReturn nulls (returnAt line) = (returnAt line).appendTo nulls := by
    funext c
    rw [appendTo]
    rfl
  rw [hreturn, appendTo]
  rfl

/-- A labelled statement that returns, when its label has a block. -/
theorem does_labelledReturn {s : Builder} {names : List String} {text : String} {line : Nat}
    {b target : BlockId} (h : s.Named names)
    (hlabel : s.labels[(labelledReturn text line).labelName]? = some target) :
    Does ((labelledReturn text line).appendTo nulls b) s fun _ t =>
      t.labels = s.labels ∧ t.Named (names ++ ["after_return"]) := by
  have hblock : s.labelBlock (labelledReturn text line).labelName = (target, s) := by
    unfold Builder.labelBlock
    rw [hlabel]
  rw [appendTo_labelledReturn]
  refine does_bind.mpr (does_labelled.mpr ?_)
  rw [hblock]
  simp only [appendReturn, does_bind, does_edge, does_append, does_terminate, does_modify,
    does_create, does_pure]
  refine ⟨?_, ?_⟩
  · refine Builder.labels_setExit.trans ((Builder.labels_modifyBlock _).trans ?_)
    exact Builder.labels_modifyBlock _
  · exact ((((h.addEdge b target _).addStatement target _).setTerminator target _).setExit
      target).createBlock "after_return"

theorem take_beginning (text : String) :
    String.ofList ((beginning ++ text).toList.take excerptLength) = beginning := by
  have hlength : (List.replicate excerptLength 'a').length = excerptLength := List.length_replicate
  rw [String.toList_append, beginning, String.toList_ofList, List.take_left' hlength]

theorem labelName_labelledReturn (text : String) (line : Nat) :
    (labelledReturn (beginning ++ text) line).labelName = beginning :=
  (labelName_eq _).trans (take_beginning text)

theorem reached_sharingBody : sharingBody.reached = [sharingBody, gotoLabel (beginning ++ "y"),
    labelledReturn (beginning ++ "x") 3, returnAt 3, labelledReturn (beginning ++ "y") 5,
    returnAt 5] := by
  have hreturn (line : Nat) : (returnAt line).reached = [returnAt line] := by
    rw [reached_eq]
    rfl
  have hlabelled (text : String) (line : Nat) :
      (labelledReturn text line).reached = [labelledReturn text line, returnAt line] := by
    have hparts : (labelledReturn text line).substatements = [returnAt line] := rfl
    rw [reached_eq, hparts, List.flatMap_singleton, hreturn]
  have hgoto : (gotoLabel (beginning ++ "y")).reached = [gotoLabel (beginning ++ "y")] := by
    rw [reached_eq]
    rfl
  have hbody : sharingBody.substatements = [gotoLabel (beginning ++ "y"),
    labelledReturn (beginning ++ "x") 3, labelledReturn (beginning ++ "y") 5] := rfl
  rw [reached_eq, hbody, List.flatMap_cons, List.flatMap_cons, List.flatMap_singleton, hgoto,
    hlabelled, hlabelled]
  rfl

/-- What has been built of the body when the walk through it is over: one block for both labels. -/
theorem does_sharing : (sharingBody.appendTo [] 0).Does (.begun "f" "test.c") fun _ s =>
    s.Named ["entry", "label_" ++ beginning, "after_goto", "after_return", "after_return"] := by
  have hbody : sharingBody.appendTo [] 0 = (gotoLabel (beginning ++ "y")).appendTo [] 0 >>= fun b =>
      (labelledReturn (beginning ++ "x") 3).appendTo [] b >>= fun b =>
        (labelledReturn (beginning ++ "y") 5).appendTo [] b >>= pure := by
    rw [appendTo]
    rfl
  have hgoto : (gotoLabel (beginning ++ "y")).appendTo [] 0 =
      appendGoto (gotoLabel (beginning ++ "y")) 0 := by
    rw [appendTo]
    rfl
  have hname : (gotoLabel (beginning ++ "y")).labelName = beginning :=
    (labelName_eq _).trans (take_beginning "y")
  rw [hbody, hgoto]
  have hx := labelName_labelledReturn "x" 3
  have hy := labelName_labelledReturn "y" 5
  refine (does_gotoLabel (.begun "f" "test.c") Std.ExtTreeMap.getElem?_empty).bind
    fun _ s hgoto => ?_
  rw [hname] at hgoto
  obtain ⟨hlabel, hs⟩ := hgoto
  refine (does_labelledReturn hs (hx.symm ▸ hlabel)).bind fun _ t hfirst => ?_
  obtain ⟨hlabels, ht⟩ := hfirst
  refine (does_labelledReturn ht (hy.symm ▸ hlabels.symm ▸ hlabel)).bind fun _ u hsecond => ?_
  exact does_pure.mpr hsecond.2

/-- Only the second block is named after a label. -/
theorem eq_one_of_names {b : Nat} {l : String} (h : ["entry", "label_" ++ l, "after_goto",
    "after_return", "after_return"][b]? = some ("label_" ++ l)) : b = 1 := by
  match b with
  | 0 => exact absurd (Option.some.inj h) (Builder.ne_label (by decide) l)
  | 1 => rfl
  | 2 => exact absurd (Option.some.inj h) (Builder.ne_label (by decide) l)
  | 3 | 4 => exact absurd (Option.some.inj h) (Builder.ne_label (by decide) l)
  | b + 5 => cases h

/-- **Labels with the same beginning share a block.** No label of the function is defined twice, but
there are no places for the labels in its graph. -/
theorem not_labelsPlaced_sharing :
    (sharing.child? .body = some sharingBody ∧ sharingBody.HasConditions ∧
      ((sharingBody.reached.filter (·.kind == .labeledStatement)).map labelText).Nodup) ∧
      ∃ g, sharing.graphOf? [] "test.c" "f" = some g ∧
        ∀ place, ¬ LabelsPlaced [] sharingBody place g := by
  refine ⟨⟨rfl, fun m hm hkind => ?_, ?_⟩, ?_⟩
  · rw [reached_sharingBody] at hm
    simp only [List.mem_cons, List.not_mem_nil, or_false] at hm
    rcases hm with rfl | rfl | rfl | rfl | rfl | rfl <;>
      simp [sharingBody, gotoLabel, labelledReturn, returnAt] at hkind
  · have htexts : (sharingBody.reached.filter (·.kind == .labeledStatement)).map labelText =
        [beginning ++ "x", beginning ++ "y"] := by
      rw [reached_sharingBody]
      rfl
    rw [htexts]
    simp
  · obtain ⟨last, s, hrun, hs⟩ := does_sharing
    have hend := (hs.setExit last).setTerminator last .returning
    have hgraph := graphOf?_of_run (n := sharing) rfl hrun
    rw [Builder.build_eq] at hgraph
    refine ⟨_, hgraph, fun place h => ?_⟩
    have hx : labelledReturn (beginning ++ "x") 3 ∈ sharingBody.reached := by
      simp [reached_sharingBody]
    have hy : labelledReturn (beginning ++ "y") 5 ∈ sharingBody.reached := by
      simp [reached_sharingBody]
    -- the statements with the two labels are built from blocks of one name, and there is only one
    have hlabel := (h.built _ hx rfl).label
    have hlabel' := (h.built _ hy rfl).label
    rw [labelName_labelledReturn] at hlabel hlabel'
    have hplace := eq_one_of_names ((hend.label _).symm.trans hlabel)
    have hplace' := eq_one_of_names ((hend.label _).symm.trans hlabel')
    refine h.place_ne _ hx _ hy (Or.inr rfl) (Or.inr rfl) ?_ (hplace.trans hplace'.symm)
    show beginning ++ "x" ≠ beginning ++ "y"
    simp

end C.Node

end NullFlow
