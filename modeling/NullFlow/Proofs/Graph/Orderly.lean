import NullFlow.Proofs.Graph.Numbered

/-!
# Blocks that wait to be ended

While a graph is built, some of its blocks **wait**: it is not settled yet how they end. The block
that is open is one of them, and so is a block that a construct has made for later, or one that
branches and lacks the edge for one of its outcomes. A block that does not wait is either **final**,
so that its terminator and the edges out of it agree (`Ending.IsFinal`), or it was made for a label
that no statement has defined so far. `Builder.Orderly` says all this of a builder and names the
waiting blocks with their endings so far; each operation of the builder does something to one of
them and nothing to the others.
-/

namespace NullFlow

/-- **How a block ends so far**: its terminator and the kinds of the edges out of it, in order. -/
structure Ending where
  terminator : Terminator
  kinds : List EdgeKind

namespace Ending

/-- A block to whose ending nothing has been done. -/
def opened : Ending := ⟨.fallThrough, []⟩

/-- **The terminator and the edges of a block agree.** -/
def IsFinal (e : Ending) : Prop :=
  match e.terminator with
  | .returning | .noReturn _ => e.kinds = []
  | .breaking => e.kinds = [] ∨ e.kinds = [.loopExit]
  | .continuing => e.kinds = [] ∨ e.kinds = [.loopBack]
  | .goto _ => e.kinds = [.jump]
  | .branch .. => e.kinds = [.trueBranch, .falseBranch]
  | .switch _ => ∃ n, e.kinds = List.replicate (n + 1) .jump
  | .loop => e.kinds = [.fallThrough]
  | .fallThrough => e.kinds = [.fallThrough] ∨ e.kinds = [.loopBack]
  | .jump => False

end Ending

namespace Site

/-- How the block of a site ends, if there is one. -/
def ending? (t : Site) : Option Ending :=
  t.block?.map fun block => ⟨block.terminator, t.out.map (·.kind)⟩

theorem ending?_eq (t : Site) : t.ending? =
    (t.block?.map (·.terminator)).map fun terminator => ⟨terminator, t.out.map (·.kind)⟩ := by
  rw [Option.map_map]
  rfl

theorem ending?_addStatement (t : Site) (st : Statement) :
    (t.addStatement st).ending? = t.ending? := by
  obtain ⟨_ | block, out, isExit⟩ := t <;> rfl

theorem ending?_setTerminator (t : Site) (terminator : Terminator) :
    (t.setTerminator terminator).ending? = t.ending?.map ({ · with terminator }) := by
  obtain ⟨_ | block, out, isExit⟩ := t <;> rfl

theorem ending?_addEdge (t : Site) (e : Edge) :
    (t.addEdge e).ending? = t.ending?.map fun f => { f with kinds := f.kinds ++ [e.kind] } := by
  obtain ⟨_ | block, out, isExit⟩ := t
  · rfl
  · exact congrArg (fun kinds => some (Ending.mk block.terminator kinds)) List.map_append

end Site

namespace Builder

variable {s : Builder} {b c x : Nat}

/-- A block whose label begins with another letter is not made for a label of the program. -/
theorem ne_label {label : String} (h : label.toList.head? ≠ some 'l') (l : String) :
    label ≠ "label_" ++ l := by
  rintro rfl
  exact h (by rw [String.toList_append]; rfl)

/-- **A builder in order.** The statements read so far define the labels of `defined`, and the
blocks of `waiting` are the ones whose ending is not settled. -/
structure Orderly (s : Builder) (defined : List String) (waiting : List (BlockId × Ending)) :
    Prop where
  numbered : s.Numbered
  edges_lt : ∀ e ∈ s.graph.edges, e.source < s.count ∧ e.target < s.count
  targets_lt : ∀ b, b ∈ s.breaks ∨ b ∈ s.continues → b < s.count
  labels_iff : ∀ (l : String) (b : BlockId), s.labels[l]? = some b ↔
    (s.graph.blocks[b]?).map (·.label) = some ("label_" ++ l)
  defined_mem : ∀ l ∈ defined, (s.labels[l]?).isSome
  nodup : (waiting.map (·.1)).Nodup
  waits : ∀ w ∈ waiting, (s.site w.1).ending? = some w.2
  /-- Nothing has been done to the block of a label that no statement has defined. -/
  undefined : ∀ (l : String) (b : BlockId), s.labels[l]? = some b → l ∉ defined →
    b ∉ waiting.map (·.1) ∧ (s.site b).ending? = some .opened
  /-- All other blocks are as they will be. -/
  settled : ∀ (b : BlockId) (e : Ending), (s.site b).ending? = some e → b ∉ waiting.map (·.1) →
    e.IsFinal ∨ ∃ l, l ∉ defined ∧ s.labels[l]? = some b

namespace Orderly

variable {t : Builder} {defined defined' : List String}
  {before waiting waiting' : List (BlockId × Ending)} {e e' : Ending} {l label : String}

/-- A waiting block exists. -/
theorem lt_count (h : s.Orderly defined waiting) (hb : b ∈ waiting.map (·.1)) : b < s.count := by
  obtain ⟨w, hw, rfl⟩ := List.mem_map.mp hb
  obtain ⟨block, hblock, -⟩ := Option.map_eq_some_iff.mp (h.waits w hw)
  exact h.numbered.lt_of_getElem? hblock

/-- Two labels do not share a block. -/
theorem label_inj (h : s.Orderly defined waiting) {l' : String} (hl : s.labels[l]? = some b)
    (hl' : s.labels[l']? = some b) : l = l' := by
  have heq := ((h.labels_iff l b).mp hl).symm.trans ((h.labels_iff l' b).mp hl')
  exact String.append_right_inj _ |>.mp (Option.some.inj heq)

/-- Nothing leads out of a block that is still to come. -/
theorem outEdges_count (h : s.Orderly defined waiting) : s.graph.outEdges s.count = [] := by
  refine List.filter_eq_nil_iff.mpr fun e he heq => ?_
  exact Nat.lt_irrefl _ (beq_iff_eq.mp heq ▸ (h.edges_lt e he).1)

/-- The order in which the blocks are named does not matter, nor does that of the labels. -/
theorem perm (h : s.Orderly defined waiting) (hwaiting : waiting.Perm waiting') :
    s.Orderly defined waiting' := by
  have hmem (b : BlockId) := (hwaiting.map (·.1)).mem_iff (a := b)
  exact { h with
    nodup := (hwaiting.map _).nodup_iff.mp h.nodup
    waits := fun w hw => h.waits w (hwaiting.mem_iff.mpr hw)
    undefined := fun l b hb hl => (h.undefined l b hb hl).imp_left (mt (hmem b).mpr)
    settled := fun b e he hb => h.settled b e he (mt (hmem b).mp hb) }

theorem congr (h : s.Orderly defined waiting) (hdefined : ∀ l, l ∈ defined ↔ l ∈ defined') :
    s.Orderly defined' waiting :=
  { h with
    defined_mem := fun l hl => h.defined_mem l ((hdefined l).mpr hl)
    undefined := fun l b hb hl => h.undefined l b hb (mt (hdefined l).mp hl)
    settled := fun b e he hb => (h.settled b e he hb).imp_right fun ⟨l, hl, hlb⟩ =>
      ⟨l, mt (hdefined l).mpr hl, hlb⟩ }

/-- **A block whose ending is final need not wait any longer.** -/
theorem release (before) (h : s.Orderly defined (before ++ (c, e) :: waiting)) (he : e.IsFinal) :
    s.Orderly defined (before ++ waiting) := by
  have hsub : (before ++ waiting).Sublist (before ++ (c, e) :: waiting) :=
    List.Sublist.append_left (List.sublist_cons_self ..) before
  exact { h with
    nodup := (hsub.map _).nodup h.nodup
    waits := fun w hw => h.waits w (hsub.mem hw)
    undefined := fun l b hb hl => (h.undefined l b hb hl).imp_left
      (mt (hsub.map _).mem)
    settled := fun b e' he' hb => by
      by_cases hbc : b = c
      · have hwaits := h.waits (c, e) (by simp)
        rw [hbc, hwaits] at he'
        exact Or.inl (Option.some.inj he' ▸ he)
      · refine h.settled b e' he' ?_
        simp only [List.map_append, List.map_cons, List.mem_append, List.mem_cons, not_or] at hb ⊢
        exact ⟨hb.1, hbc, hb.2⟩ }

/-- **What is done to a waiting block** changes its ending and that of no other block. -/
theorem change (h : s.Orderly defined (before ++ (c, e) :: waiting)) (hnumbered : t.Numbered)
    (hcount : t.count = s.count)
    (hedges : ∀ x ∈ t.graph.edges, x.source < s.count ∧ x.target < s.count)
    (hframe : t.frame = s.frame) (hlabels : t.labels = s.labels)
    (hlabel : ∀ x : BlockId, (t.graph.blocks[x]?).map (·.label) =
      (s.graph.blocks[x]?).map (·.label))
    (hother : ∀ x ≠ c, (t.site x).ending? = (s.site x).ending?)
    (hc : (t.site c).ending? = some e') : t.Orderly defined (before ++ (c, e') :: waiting) := by
  have hids : (before ++ (c, e') :: waiting).map (·.1) =
      (before ++ (c, e) :: waiting).map (·.1) := by
    simp only [List.map_append, List.map_cons]
  have hc_mem : c ∈ (before ++ (c, e) :: waiting).map (·.1) := by simp
  constructor
  case numbered => exact hnumbered
  case edges_lt =>
    rw [hcount]
    exact hedges
  case targets_lt =>
    rw [hcount, breaks_eq_of_frame_eq hframe, continues_eq_of_frame_eq hframe]
    exact h.targets_lt
  case labels_iff =>
    intro l b
    rw [hlabels, hlabel, h.labels_iff]
  case defined_mem =>
    rw [hlabels]
    exact h.defined_mem
  case nodup =>
    rw [hids]
    exact h.nodup
  case waits =>
    intro w hw
    rcases List.mem_cons.mp (List.perm_middle.mem_iff.mp hw) with rfl | hw
    · exact hc
    · -- the numbers differ, so it is another block
      have hnodup : ((c, e) :: (before ++ waiting)).map (·.1) |>.Nodup :=
        (List.perm_middle.map _).nodup_iff.mp h.nodup
      have hne : w.1 ≠ c := fun heq =>
        (List.nodup_cons.mp hnodup).1 (List.mem_map.mpr ⟨w, hw, heq⟩)
      rw [hother w.1 hne]
      exact h.waits w (List.perm_middle.mem_iff.mpr (List.mem_cons_of_mem _ hw))
  case undefined =>
    intro l b hb hl
    rw [hlabels] at hb
    obtain ⟨hnot, hopened⟩ := h.undefined l b hb hl
    rw [hids, hother b fun hbc => hnot (hbc ▸ hc_mem)]
    exact ⟨hnot, hopened⟩
  case settled =>
    intro b e he hb
    rw [hids] at hb
    rw [hother b fun hbc => hb (hbc ▸ hc_mem)] at he
    rw [hlabels]
    exact h.settled b e he hb

/-! ### What the operations do -/

section Waiting

variable (before) (h : s.Orderly defined (before ++ (c, e) :: waiting))

include h

theorem ending?_eq : (s.site c).ending? = some e := h.waits (c, e) (by simp)

theorem addEdge (hb : b < s.count) (k : EdgeKind) : (s.addEdge c b k).Orderly defined
    (before ++ (c, { e with kinds := e.kinds ++ [k] }) :: waiting) := by
  refine h.change (invariant_numbered.addEdge _ _ _ h.numbered) rfl (fun x hx => ?_) rfl rfl
    (fun _ => rfl) (fun x hx => ?_) ?_
  · rcases List.mem_append.mp hx with hx | hx
    · exact h.edges_lt x hx
    · rw [List.mem_singleton.mp hx]
      exact ⟨h.lt_count (by simp), hb⟩
  · rw [site_addEdge, if_neg hx]
  · rw [site_addEdge, if_pos rfl, Site.ending?_addEdge, h.ending?_eq, Option.map_some]

theorem modifyBlock {f : Block → Block} (hmarks : ∀ block, (f block).marks = block.marks)
    (hlabel : ∀ block, (f block).label = block.label)
    (hending : ((s.site c).modify f).ending? = some e') :
    (s.modifyBlock c f).Orderly defined (before ++ (c, e') :: waiting) := by
  refine h.change (h.numbered.modifyBlock hmarks) (count_modifyBlock f) ?_ (frame_modifyBlock f)
    (labels_modifyBlock f) (fun _ => map_getElem?_modifyBlock hlabel) (fun x hx => ?_) ?_
  · rw [edges_modifyBlock]
    exact h.edges_lt
  · rw [site_modifyBlock, if_neg hx]
  · rw [site_modifyBlock, if_pos rfl]
    exact hending

theorem addStatement (st : Statement) :
    (s.addStatement c st).Orderly defined (before ++ (c, e) :: waiting) :=
  h.modifyBlock before (fun _ => rfl) (fun _ => rfl)
    ((Site.ending?_addStatement _ st).trans h.ending?_eq)

theorem setTerminator (terminator : Terminator) : (s.setTerminator c terminator).Orderly defined
    (before ++ (c, { e with terminator }) :: waiting) :=
  h.modifyBlock before (fun _ => rfl) (fun _ => rfl)
    ((Site.ending?_setTerminator _ terminator).trans (by rw [h.ending?_eq, Option.map_some]))

theorem setExit : (s.setExit c).Orderly defined (before ++ (c, e) :: waiting) := by
  have hending (x : BlockId) : ((s.setExit c).site x).ending? = (s.site x).ending? := by
    have hblock : ((s.setExit c).graph.blocks[x]?).map (·.terminator) =
        (s.graph.blocks[x]?).map (·.terminator) := by
      rw [blocks_setExit]
      exact map_getElem?_modifyBlock fun _ => rfl
    have hout : (s.setExit c).graph.outEdges x = s.graph.outEdges x := by
      unfold Graph.outEdges
      rw [edges_setExit]
    rw [Site.ending?_eq, Site.ending?_eq]
    show (((s.setExit c).graph.blocks[x]?).map _).map _ = ((s.graph.blocks[x]?).map _).map _
    rw [hblock]
    show _ = Option.map (Ending.mk · ((s.graph.outEdges x).map _)) _
    rw [← hout]
    rfl
  refine h.change (h.numbered.setExit c) count_setExit ?_ frame_setExit labels_setExit
    (fun x => ?_) (fun x _ => hending x) ((hending c).trans h.ending?_eq)
  · rw [edges_setExit]
    exact h.edges_lt
  · rw [blocks_setExit]
    exact map_getElem?_modifyBlock fun _ => rfl

end Waiting

theorem enter (h : s.Orderly defined waiting) (hb : b < s.count) (c? : Option Nat)
    (hc : ∀ c ∈ c?, c < s.count) : (s.enter b c?).Orderly defined waiting :=
  { h with
    numbered := invariant_numbered.enter b c? h.numbered
    targets_lt := by
      rintro x (hx | hx)
      · rcases List.mem_cons.mp hx with rfl | hx
        · exact hb
        · exact h.targets_lt x (Or.inl hx)
      · rcases List.mem_append.mp hx with hx | hx
        · exact hc x (Option.mem_toList.mp hx)
        · exact h.targets_lt x (Or.inr hx) }

theorem leave (h : t.Orderly defined waiting) (hs : s.Orderly defined' waiting')
    (hcount : s.count ≤ t.count) : (t.leave s).Orderly defined waiting :=
  { h with
    numbered := invariant_numbered.leave hs.numbered h.numbered
    targets_lt := fun x hx => Nat.lt_of_lt_of_le (hs.targets_lt x hx) hcount }

/-- The site of a new block, and of the others. -/
theorem site_create (h : s.Orderly defined waiting) (label : String) (x : BlockId) :
    (s.createBlock label).2.site x = if x = s.count then .created s.count label else s.site x := by
  rw [site_createBlock]
  split
  · next hx =>
    subst hx
    have hexit : s.graph.exits.contains s.count = false :=
      Bool.eq_false_iff.mpr fun hmem =>
        Nat.lt_irrefl _ (h.numbered.exits_lt _ (List.contains_iff_mem.mp hmem))
    exact Site.ext rfl h.outEdges_count hexit
  · rfl

/-- A new block waits. If it is made for a label, that label counts as defined. -/
theorem grow (h : s.Orderly defined waiting) {labels : Std.ExtTreeMap String BlockId}
    (hlabels : ∀ l b, labels[l]? = some b ↔
      if b = s.count then label = "label_" ++ l else s.labels[l]? = some b)
    (hdefined : ∀ l, l ∈ defined' ↔ label = "label_" ++ l ∨ l ∈ defined) :
    { (s.createBlock label).2 with labels }.Orderly defined' ((s.count, .opened) :: waiting) := by
  have hne {x : BlockId} (hx : x < s.count) : x ≠ s.count := Nat.ne_of_lt hx
  have hold {x : BlockId} (hx : x ≠ s.count) : (s.createBlock label).2.site x = s.site x := by
    rw [h.site_create, if_neg hx]
  have hnew : ((s.createBlock label).2.site s.count).ending? = some .opened := by
    rw [h.site_create, if_pos rfl]
    rfl
  have hcreated := h.numbered.createBlock label
  constructor
  case numbered =>
    refine ⟨hcreated.marks_eq, hcreated.exits_lt, hcreated.nodup_exits, hcreated.entry_eq,
      hcreated.count_pos, fun l b hb => ?_⟩
    have hb := (hlabels l b).mp hb
    split at hb
    · next hbc => exact hbc ▸ Nat.lt_succ_self _
    · exact Nat.lt_succ_of_lt (h.numbered.labels_lt l b hb)
  case edges_lt =>
    exact fun e he => (h.edges_lt e he).imp Nat.lt_succ_of_lt Nat.lt_succ_of_lt
  case targets_lt => exact fun x hx => Nat.lt_succ_of_lt (h.targets_lt x hx)
  case labels_iff =>
    intro l b
    refine (hlabels l b).trans ?_
    show _ ↔ ((s.createBlock label).2.graph.blocks[b]?).map _ = _
    rw [getElem?_createBlock]
    split
    · exact (Option.some_inj (a := label)).symm
    · exact h.labels_iff l b
  case defined_mem =>
    intro l hl
    rcases (hdefined l).mp hl with heq | hl
    · exact Option.isSome_of_eq_some ((hlabels l s.count).mpr (by rw [if_pos rfl]; exact heq))
    · obtain ⟨b, hb⟩ := Option.isSome_iff_exists.mp (h.defined_mem l hl)
      refine Option.isSome_of_eq_some ((hlabels l b).mpr ?_)
      rwa [if_neg (hne (h.numbered.labels_lt _ _ hb))]
  case nodup =>
    exact List.nodup_cons.mpr ⟨fun hmem => hne (h.lt_count hmem) rfl, h.nodup⟩
  case waits =>
    intro w hw
    rcases List.mem_cons.mp hw with rfl | hw
    · exact hnew
    · exact (congrArg Site.ending? (hold (hne (h.lt_count (List.mem_map_of_mem hw))))).trans
        (h.waits w hw)
  case undefined =>
    intro l b hb hl
    obtain ⟨hlabel, hl⟩ := not_or.mp (mt (hdefined l).mpr hl)
    have hb := (hlabels l b).mp hb
    split at hb
    · exact absurd hb hlabel
    · next hbc =>
      obtain ⟨hnot, hopened⟩ := h.undefined l b hb hl
      exact ⟨fun hmem => (List.mem_cons.mp hmem).elim hbc hnot,
        (congrArg Site.ending? (hold hbc)).trans hopened⟩
  case settled =>
    intro b e he hb
    obtain ⟨hbc, hnot⟩ := not_or.mp (mt List.mem_cons.mpr hb)
    have he : (s.site b).ending? = some e := (congrArg Site.ending? (hold hbc)).symm.trans he
    refine (h.settled b e he hnot).imp_right fun ⟨l, hl, hlb⟩ => ?_
    have hlb : labels[l]? = some b := (hlabels l b).mpr (by rwa [if_neg hbc])
    refine ⟨l, fun hmem => ((hdefined l).mp hmem).elim (fun heq => hbc ?_) hl, hlb⟩
    have hnew : labels[l]? = some s.count := (hlabels l s.count).mpr (by rwa [if_pos rfl])
    exact Option.some.inj (hlb.symm.trans hnew)

/-- **A new block waits**, if it is not made for a label. -/
theorem createBlock (h : s.Orderly defined waiting) (label : String)
    (hlabel : label.toList.head? ≠ some 'l') :
    (s.createBlock label).2.Orderly defined ((s.count, .opened) :: waiting) := by
  have hlabel := ne_label hlabel
  refine h.grow (fun l b => ?_) fun l => (or_iff_right (hlabel l)).symm
  split
  · next hb =>
    exact iff_of_false (fun hl => Nat.ne_of_lt (h.numbered.labels_lt _ _ hl) hb) (hlabel l)
  · rfl

/-- **Defining a label** lets its block wait, to which nothing has been done. -/
theorem define (h : s.Orderly defined waiting) (hb : s.labels[l]? = some b) (hl : l ∉ defined) :
    s.Orderly (l :: defined) ((b, .opened) :: waiting) := by
  obtain ⟨hnot, hopened⟩ := h.undefined l b hb hl
  exact { h with
    defined_mem := fun l' hl' => by
      rcases List.mem_cons.mp hl' with rfl | hl'
      · exact Option.isSome_of_eq_some hb
      · exact h.defined_mem l' hl'
    nodup := List.nodup_cons.mpr ⟨hnot, h.nodup⟩
    waits := List.forall_mem_cons.mpr ⟨hopened, h.waits⟩
    undefined := fun l' b' hb' hl' => by
      obtain ⟨hne, hl'⟩ := not_or.mp (mt List.mem_cons.mpr hl')
      obtain ⟨hnot', hopened'⟩ := h.undefined l' b' hb' hl'
      refine ⟨fun hmem => (List.mem_cons.mp hmem).elim (fun heq => ?_) hnot', hopened'⟩
      subst heq
      exact hne (h.label_inj hb' hb)
    settled := fun b' e he hb' => by
      obtain ⟨hne, hnot'⟩ := not_or.mp (mt List.mem_cons.mpr hb')
      refine (h.settled b' e he hnot').imp_right fun ⟨l', hl', hlb⟩ => ⟨l', fun hmem => ?_, hlb⟩
      rcases List.mem_cons.mp hmem with rfl | hmem
      · exact hne (Option.some.inj (hlb.symm.trans hb))
      · exact hl' hmem }

/-- A label whose block waits, and to which nothing has been done, may as well be undefined. -/
theorem undefine (h : s.Orderly (l :: defined) ((b, .opened) :: waiting))
    (hb : s.labels[l]? = some b) (hl : l ∉ defined) : s.Orderly defined waiting := by
  obtain ⟨hnot, hnodup⟩ := List.nodup_cons.mp h.nodup
  obtain ⟨hopened, hwaits⟩ := List.forall_mem_cons.mp h.waits
  exact { h with
    defined_mem := fun l' hl' => h.defined_mem l' (List.mem_cons_of_mem l hl')
    nodup := hnodup
    waits := hwaits
    undefined := fun l' b' hb' hl' => by
      by_cases hne : l' = l
      · subst hne
        rw [hb] at hb'
        exact Option.some.inj hb' ▸ ⟨hnot, hopened⟩
      · obtain ⟨hnot', hopened'⟩ := h.undefined l' b' hb'
          fun hmem => (List.mem_cons.mp hmem).elim hne hl'
        exact ⟨fun hmem => hnot' (List.mem_cons_of_mem b hmem), hopened'⟩
    settled := fun b' e he hb' => by
      by_cases hne : b' = b
      · exact Or.inr ⟨l, hl, hne ▸ hb⟩
      · exact (h.settled b' e he fun hmem => (List.mem_cons.mp hmem).elim hne hb').imp_right
          fun ⟨l', hl', hlb⟩ => ⟨l', fun hmem => hl' (List.mem_cons_of_mem l hmem), hlb⟩ }

/-- **The block of a label that is mentioned** exists afterwards. -/
theorem labelBlock (h : s.Orderly defined waiting) (l : String) :
    (s.labelBlock l).2.Orderly defined waiting ∧
      (s.labelBlock l).2.labels[l]? = some (s.labelBlock l).1 ∧
      s.count ≤ (s.labelBlock l).2.count := by
  rcases s.labelBlock_cases l with ⟨b, hb, heq⟩ | ⟨hnone, heq⟩
  · rw [heq]
    exact ⟨h, hb, Nat.le_refl _⟩
  rw [heq]
  have hl : l ∉ defined := fun hmem => by
    have hsome := h.defined_mem l hmem
    rw [hnone] at hsome
    cases hsome
  have hnew : (s.labels.insert l s.count)[l]? = some s.count := by simp
  refine ⟨undefine (h.grow (fun l' b => ?_) fun l' => ?_) hnew hl, hnew, Nat.le_succ _⟩
  · rw [Std.ExtTreeMap.getElem?_insert, String.append_right_inj]
    by_cases hll : l = l'
    · subst hll
      simp [hnone, eq_comm]
    · rw [if_neg (mt Std.LawfulEqCmp.compare_eq_iff_eq.mp hll)]
      split
      · next hb =>
        exact iff_of_false (fun hlb => Nat.ne_of_lt (h.numbered.labels_lt _ _ hlb) hb) hll
      · rfl
  · rw [List.mem_cons, String.append_right_inj, eq_comm]

/-- At the start of a function the entry waits. -/
theorem begun (function file : String) :
    (Builder.begun function file).Orderly [] [(0, .opened)] := by
  have hzero : ((Builder.begun function file).site 0).ending? = some .opened := by
    unfold Site.ending? site Graph.site
    rw [getElem?_begun, if_pos rfl]
    rfl
  have hlabels (l : String) : (Builder.begun function file).labels[l]? = none :=
    Std.ExtTreeMap.getElem?_empty
  constructor
  case numbered => exact .begun function file
  case edges_lt => exact fun e he => absurd he List.not_mem_nil
  case targets_lt =>
    exact fun b hb => hb.elim (absurd · List.not_mem_nil) (absurd · List.not_mem_nil)
  case labels_iff =>
    intro l b
    rw [hlabels, getElem?_begun]
    refine iff_of_false nofun fun h => ?_
    split at h
    · exact ne_label (by decide) l (Option.some.inj h)
    · cases h
  case defined_mem => exact fun l hl => absurd hl List.not_mem_nil
  case nodup => exact List.nodup_cons.mpr ⟨List.not_mem_nil, List.nodup_nil⟩
  case waits => exact List.forall_mem_cons.mpr ⟨hzero, fun w hw => absurd hw List.not_mem_nil⟩
  case undefined =>
    intro l b hb
    rw [hlabels] at hb
    cases hb
  case settled =>
    intro b e he hb
    obtain ⟨block, hblock, -⟩ := Option.map_eq_some_iff.mp he
    have hblock := (getElem?_begun function file).symm.trans hblock
    split at hblock
    · next h => exact absurd (List.mem_singleton.mpr h) hb
    · cases hblock

end Orderly

end Builder

end NullFlow
