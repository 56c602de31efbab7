import NullFlow.Graph.OfFunction
import NullFlow.Proofs.Graph.Reading

/-!
# The construction of a graph, step by step

What a step of the construction does to a graph is said block by block. `Graph.site` is what a graph
says about one number: the block that has it, the edges out of it and whether it is an exit. Each
operation of the builder changes the site of one number and leaves all others as they are.

A step may fail, so what it achieves is a claim that it succeeds and that its result and the builder
after it are as they should be: `Build.Does`. The steps that the constructs are made of are followed
one by one with the lemmas below.
-/

namespace NullFlow

/-- **What a graph says about the number of a block.** -/
@[ext]
structure Site where
  block? : Option Block
  out : List Edge
  isExit : Bool

namespace Site

/-- The site of a number that is not in use. -/
def absent : Site := ⟨none, [], false⟩

/-- The site of a block to which nothing has been added. -/
def created (b : BlockId) (label : String) : Site := ⟨some { id := b, label }, [], false⟩

/-- The statements of the block, none if there is no block. -/
def statements (t : Site) : List Statement := t.block?.elim [] (·.statements)

/-- The site with a new block. -/
def create (t : Site) (block : Block) : Site := { t with block? := some block }

@[simp] theorem create_absent (b : BlockId) (label : String) :
    absent.create { id := b, label } = created b label := rfl

/-- The site with its block changed, if there is one. -/
def modify (t : Site) (f : Block → Block) : Site := { t with block? := t.block?.map f }

/-- The site with one more statement in its block. -/
def addStatement (t : Site) (st : Statement) : Site := t.modify (Builder.withStatement · st)

/-- The site with another terminator of its block. -/
def setTerminator (t : Site) (terminator : Terminator) : Site :=
  t.modify fun block => { block with terminator }

/-- The site with its block made an exit. -/
def setExit (t : Site) : Site :=
  { t.modify fun block => { block with isExit := true } with isExit := true }

/-- The site with one more edge. -/
def addEdge (t : Site) (e : Edge) : Site := { t with out := t.out ++ [e] }

/-- **The site of a block made to end in a condition**, with an edge for each outcome. -/
def test (t : Site) (b : BlockId) (condition : Statement) (terminator : Terminator)
    (yes no : BlockId) : Site :=
  (((t.addStatement condition).setTerminator terminator).addEdge ⟨b, yes, .trueBranch⟩).addEdge
    ⟨b, no, .falseBranch⟩

/-- The site with some more edges. -/
def addEdges (t : Site) (es : List Edge) : Site := { t with out := t.out ++ es }

theorem addEdges_nil (t : Site) : t.addEdges [] = t := by
  rw [addEdges, List.append_nil]

theorem addEdges_append (t : Site) (es es' : List Edge) :
    t.addEdges (es ++ es') = (t.addEdges es).addEdges es' := by
  rw [addEdges, addEdges, addEdges, List.append_assoc]

theorem addEdges_cons (t : Site) (e : Edge) (es : List Edge) :
    t.addEdges (e :: es) = (t.addEdge e).addEdges es := addEdges_append t [e] es

@[simp] theorem statements_addEdge (t : Site) (e : Edge) :
    (t.addEdge e).statements = t.statements := rfl

@[simp] theorem statements_addEdges (t : Site) (es : List Edge) :
    (t.addEdges es).statements = t.statements := rfl

@[simp] theorem statements_setTerminator (t : Site) (terminator : Terminator) :
    (t.setTerminator terminator).statements = t.statements := by
  obtain ⟨_ | block, out, isExit⟩ := t <;> rfl

@[simp] theorem statements_setExit (t : Site) : t.setExit.statements = t.statements := by
  obtain ⟨_ | block, out, isExit⟩ := t <;> rfl

theorem setTerminator_setExit (t : Site) (terminator : Terminator) :
    t.setExit.setTerminator terminator = (t.setTerminator terminator).setExit := by
  obtain ⟨_ | block, out, isExit⟩ := t <;> rfl

/-- **The site of an open block**: the block exists, nothing leads out of it yet, and nothing ends
there. -/
def IsOpen (t : Site) : Prop := ∃ block, t = ⟨some block, [], false⟩ ∧ ¬block.Halts

theorem isOpen_created (b : BlockId) (label : String) : (created b label).IsOpen :=
  ⟨_, rfl, fun ⟨_, h⟩ => by cases h⟩

theorem IsOpen.addStatement {t : Site} (h : t.IsOpen) (st : Statement) :
    (t.addStatement st).IsOpen := by
  obtain ⟨block, rfl, hblock⟩ := h
  exact ⟨_, rfl, hblock⟩

theorem IsOpen.setTerminator {t : Site} (h : t.IsOpen) {terminator : Terminator}
    (hterm : ∀ f, terminator ≠ .noReturn f) : (t.setTerminator terminator).IsOpen := by
  obtain ⟨block, rfl, -⟩ := h
  exact ⟨_, rfl, fun ⟨f, hf⟩ => hterm f hf⟩

theorem IsOpen.statements_addStatement {t : Site} (h : t.IsOpen) (st : Statement) :
    (t.addStatement st).statements = t.statements ++ [st] := by
  obtain ⟨block, rfl, -⟩ := h
  rfl

end Site

/-- The site of a number in a graph. -/
def Graph.site (g : Graph) (b : BlockId) : Site := ⟨g.blocks[b]?, g.outEdges b, g.exits.contains b⟩

namespace Builder

variable {s : Builder} {b c x : Nat}

/-- The site of a number in the graph so far. -/
def site (s : Builder) (b : BlockId) : Site := s.graph.site b

/-- How many blocks have been created; the next one gets this number. -/
def count (s : Builder) : Nat := s.next

/-- **Unused numbers**: nothing is known about the numbers of blocks still to come. -/
def Fresh (s : Builder) : Prop := ∀ x : Nat, x ≥ s.count → s.site x = .absent

theorem Fresh.site_eq (h : s.Fresh) (hx : x ≥ s.count) : s.site x = .absent := h x hx

/-! ## What the operations change -/

theorem site_modifyBlock (f : Block → Block) :
    (s.modifyBlock c f).site x = if x = c then (s.site x).modify f else s.site x := by
  unfold modifyBlock site Graph.site Site.modify
  split
  · next block hblock =>
    by_cases hx : x = c
    · subst hx
      simp only [Std.ExtTreeMap.getElem?_insert_self, hblock, Option.map_some, if_true]
      rfl
    · have hne : ¬compare c x = .eq := fun h => hx (Std.LawfulEqCmp.compare_eq_iff_eq.mp h).symm
      simp only [Std.ExtTreeMap.getElem?_insert, hne, if_false, hx]
      rfl
  · next hnone =>
    split
    · next hx => simp only [hx, hnone, Option.map_none]
    · rfl

@[simp] theorem site_addStatement (st : Statement) : (s.addStatement c st).site x =
    if x = c then (s.site x).addStatement st else s.site x := site_modifyBlock _

@[simp] theorem site_setTerminator (t : Terminator) : (s.setTerminator c t).site x =
    if x = c then (s.site x).setTerminator t else s.site x := site_modifyBlock _

@[simp] theorem site_createBlock (label : String) : (s.createBlock label).2.site x =
    if x = s.count then (s.site x).create { id := s.count, label } else s.site x := by
  have hsite : (s.createBlock label).2.site x =
      ⟨if compare s.count x = .eq then some { id := s.count, label } else s.graph.blocks[x]?,
        s.graph.outEdges x, s.graph.exits.contains x⟩ := by
    unfold createBlock site Graph.site Graph.addBlock count
    simp only [Std.ExtTreeMap.getElem?_insert]
    rfl
  rw [hsite]
  by_cases hx : x = s.count
  · rw [if_pos hx, if_pos (Std.LawfulEqCmp.compare_eq_iff_eq.mpr hx.symm)]
    rfl
  · rw [if_neg hx, if_neg fun h => hx (Std.LawfulEqCmp.compare_eq_iff_eq.mp h).symm]
    rfl

@[simp] theorem site_addEdge (k : EdgeKind) : (s.addEdge b c k).site x =
    if x = b then (s.site x).addEdge ⟨b, c, k⟩ else s.site x := by
  have hout : (s.addEdge b c k).graph.outEdges x = s.graph.outEdges x ++
      if x = b then [⟨b, c, k⟩] else [] := by
    simp only [addEdge, Graph.addEdge, Graph.outEdges, List.filter_append, List.filter_cons,
      List.filter_nil, beq_iff_eq, @eq_comm _ x b]
  unfold site Graph.site
  rw [hout]
  split
  · rfl
  · rw [List.append_nil]
    rfl

/-- Edges from the block that there may be. -/
theorem site_addEdge? {b? : Option Nat} (k : EdgeKind) :
    (b?.elim s (s.addEdge · c k)).site x =
      if x ∈ b? then (s.site x).addEdge ⟨x, c, k⟩ else s.site x := by
  cases b? with
  | none => rfl
  | some b =>
    simp only [Option.elim_some, site_addEdge, Option.mem_some_iff, @eq_comm _ x b]
    split
    · next h => rw [h]
    · rfl

theorem contains_exits (exits : List BlockId) :
    (if exits.contains b then exits else exits ++ [b]).contains x
      = (x == b || exits.contains x) := by
  by_cases hx : x = b
  · subst hx
    split <;> simp_all
  · split <;> simp [hx]

theorem site_setExit (h : (s.site b).IsOpen) : (s.setExit b).site x =
    if x = b then (s.site x).setExit else s.site x := by
  have hb : b ∈ s.graph.blocks := by
    obtain ⟨block, hsite, -⟩ := h
    exact Graph.mem_blocks_of_getElem? (congrArg Site.block? hsite)
  let t := s.modifyBlock b fun block => { block with isExit := true }
  have hsite : (s.setExit b).site x = ⟨t.graph.blocks[x]?, t.graph.outEdges x,
      x == b || t.graph.exits.contains x⟩ := by
    rw [← contains_exits]
    unfold setExit
    rw [if_pos hb]
    rfl
  have hmodify : t.site x = _ := site_modifyBlock _
  -- the flag of the block and the list of exits change together
  rw [hsite]
  by_cases hx : x = b
  · rw [if_pos hx] at hmodify ⊢
    have hblock := congrArg Site.block? hmodify
    have hout := congrArg Site.out hmodify
    refine Site.ext hblock hout ?_
    rw [beq_iff_eq.mpr hx, Bool.true_or]
    rfl
  · rw [if_neg hx] at hmodify ⊢
    rw [beq_eq_false_iff_ne.mpr hx, Bool.false_or]
    exact hmodify

/-! ### Numbers and the frame -/

/-- **What stays the same** while a statement is appended: where `break` and `continue` lead, and
the entry. -/
def frame (s : Builder) : List BlockId × List BlockId × BlockId :=
  (s.breaks, s.continues, s.graph.entry)

theorem breaks_eq_of_frame_eq {t : Builder} (h : t.frame = s.frame) : t.breaks = s.breaks :=
  congrArg (·.1) h

theorem continues_eq_of_frame_eq {t : Builder} (h : t.frame = s.frame) :
    t.continues = s.continues := congrArg (·.2.1) h

theorem entry_eq_of_frame_eq {t : Builder} (h : t.frame = s.frame) :
    t.graph.entry = s.graph.entry := congrArg (·.2.2) h

theorem count_modifyBlock (f : Block → Block) : (s.modifyBlock c f).count = s.count := by
  unfold modifyBlock
  split <;> rfl

theorem frame_modifyBlock (f : Block → Block) : (s.modifyBlock c f).frame = s.frame := by
  unfold modifyBlock
  split <;> rfl

@[simp] theorem count_addStatement (st : Statement) : (s.addStatement c st).count = s.count :=
  count_modifyBlock _

@[simp] theorem frame_addStatement (st : Statement) : (s.addStatement c st).frame = s.frame :=
  frame_modifyBlock _

@[simp] theorem count_setTerminator (t : Terminator) : (s.setTerminator c t).count = s.count :=
  count_modifyBlock _

@[simp] theorem frame_setTerminator (t : Terminator) :
    (s.setTerminator c t).frame = s.frame := frame_modifyBlock _

@[simp] theorem count_setExit : (s.setExit c).count = s.count := by
  unfold setExit
  split
  · exact count_modifyBlock _
  · rfl

@[simp] theorem frame_setExit : (s.setExit c).frame = s.frame := by
  unfold setExit
  split
  · exact frame_modifyBlock _
  · rfl

@[simp] theorem count_addEdge (k : EdgeKind) : (s.addEdge b c k).count = s.count := rfl

@[simp] theorem frame_addEdge (k : EdgeKind) : (s.addEdge b c k).frame = s.frame := rfl

theorem count_addEdge? {b? : Option Nat} (k : EdgeKind) :
    (b?.elim s (s.addEdge · c k)).count = s.count := by
  cases b? <;> rfl

theorem frame_addEdge? {b? : Option Nat} (k : EdgeKind) :
    (b?.elim s (s.addEdge · c k)).frame = s.frame := by
  cases b? <;> rfl

@[simp] theorem count_createBlock (label : String) :
    (s.createBlock label).2.count = s.count + 1 := rfl

@[simp] theorem frame_createBlock (label : String) :
    (s.createBlock label).2.frame = s.frame := rfl

@[simp] theorem count_enter (c : Option BlockId) : (s.enter b c).count = s.count := rfl

@[simp] theorem site_enter (c : Option BlockId) : (s.enter b c).site x = s.site x := rfl

@[simp] theorem count_leave (t : Builder) : (s.leave t).count = s.count := rfl

@[simp] theorem site_leave (t : Builder) : (s.leave t).site x = s.site x := rfl

/-- Inside of a construct the entry stays the same; outside again the targets are the old ones. -/
theorem frame_leave {t : Builder} {c : Option BlockId} (h : t.frame = (s.enter b c).frame) :
    (t.leave s).frame = s.frame := by
  have hentry : t.graph.entry = (s.enter b c).graph.entry := entry_eq_of_frame_eq h
  exact congrArg (fun entry => (s.breaks, s.continues, entry)) hentry

end Builder

/-! ## Steps of the construction -/

namespace Build

open C (Node)

variable {α β : Type} {s : Builder} {P : α → Builder → Prop}

/-- **A step succeeds**, and its result and the builder after it are as they should be. -/
def Does (m : Build α) (s : Builder) (P : α → Builder → Prop) : Prop :=
  ∃ a t, m.run s = some (a, t) ∧ P a t

theorem Does.imp {m : Build α} {Q : α → Builder → Prop} (h : Does m s P)
    (himp : ∀ a t, P a t → Q a t) : Does m s Q := by
  obtain ⟨a, t, hrun, hp⟩ := h
  exact ⟨a, t, hrun, himp a t hp⟩

theorem does_iff_of_run {m : Build α} {a : α} {t : Builder} (h : m.run s = some (a, t)) :
    Does m s P ↔ P a t := by
  constructor
  · rintro ⟨a', t', hrun, hp⟩
    rw [h] at hrun
    cases hrun
    exact hp
  · exact fun hp => ⟨a, t, h, hp⟩

@[simp] theorem does_pure {a : α} : Does (pure a) s P ↔ P a s := does_iff_of_run rfl

@[simp] theorem does_bind {m : Build α} {f : α → Build β} {Q : β → Builder → Prop} :
    Does (m >>= f) s Q ↔ Does m s fun a t => Does (f a) t Q := by
  constructor
  · rintro ⟨b, t, hrun, hq⟩
    rw [StateT.run_bind] at hrun
    obtain ⟨⟨a, u⟩, hm, hf⟩ := Option.bind_eq_some_iff.mp hrun
    exact ⟨a, u, hm, b, t, hf, hq⟩
  · rintro ⟨a, u, hm, b, t, hf, hq⟩
    refine ⟨b, t, ?_, hq⟩
    rw [StateT.run_bind, hm]
    exact hf

@[simp] theorem does_some {a : α} :
    Does (liftM (some a : Option α) : Build α) s P ↔ P a s := does_iff_of_run rfl

@[simp] theorem does_create {label : String} {P : BlockId → Builder → Prop} :
    Does (create label) s P ↔ P s.count (s.createBlock label).2 := does_iff_of_run rfl

@[simp] theorem does_edge {b c : BlockId} {k : EdgeKind} {P : Unit → Builder → Prop} :
    Does (edge b c k) s P ↔ P () (s.addEdge b c k) := does_iff_of_run rfl

@[simp] theorem does_terminate {b : BlockId} {t : Terminator} {P : Unit → Builder → Prop} :
    Does (terminate b t) s P ↔ P () (s.setTerminator b t) := does_iff_of_run rfl

@[simp] theorem does_modify {f : Builder → Builder} {P : PUnit → Builder → Prop} :
    Does (modify f) s P ↔ P ⟨⟩ (f s) := does_iff_of_run rfl

@[simp] theorem does_get {P : Builder → Builder → Prop} :
    Does get s P ↔ P s s := does_iff_of_run rfl

@[simp] theorem does_append {b : BlockId} {n : Node} {kind : StatementKind} {facts : List Fact}
    {P : Unit → Builder → Prop} : Does (append b n kind facts) s P ↔
      P () (s.addStatement b ⟨n.line, kind, n.excerpt, facts⟩) := does_iff_of_run rfl

@[simp] theorem does_jumpOut {b : BlockId} {targets : List BlockId} {k : EdgeKind}
    {P : Unit → Builder → Prop} : Does (jumpOut b targets k) s P ↔
      P () (targets.head?.elim s (s.addEdge b · k)) := by
  cases targets <;> exact does_iff_of_run rfl

@[simp] theorem does_fallFrom {source? : Option BlockId} {c : BlockId}
    {P : Unit → Builder → Prop} : Does (fallFrom source? c) s P ↔
      P () (source?.elim s (s.addEdge · c .fallThrough)) := by
  cases source? <;> exact does_iff_of_run rfl

@[simp] theorem does_branchOn {nulls : List String} {b : BlockId} {n : Node}
    {P : Unit → Builder → Prop} : Does (branchOn nulls b n) s P ↔
      P () ((s.addStatement b ⟨n.line, .condition, n.excerpt, n.facts nulls⟩).setTerminator b
        (.branch n.excerpt n.line (n.nullTest nulls))) := does_iff_of_run rfl

@[simp] theorem does_inside {a : BlockId} {c : Option BlockId} {step : Build BlockId}
    {P : BlockId → Builder → Prop} : Does (inside a c step) s P ↔
      Does step (s.enter a c) fun b t => P b (t.leave s) := by
  simp only [inside, does_bind, does_get, does_modify, does_pure]
  exact does_iff_of_run rfl

/-- The first part is appended before the others. -/
theorem appendAll_cons {n c : Node} {visit : Visit n} {rest : List Node}
    (h : ∀ d ∈ c :: rest, sizeOf d < sizeOf n) :
    appendAll visit (c :: rest) h = fun cur => visit c (h c List.mem_cons_self) cur >>=
      appendAll visit rest fun d hd => h d (List.mem_cons_of_mem c hd) := by
  funext cur
  unfold appendAll
  rw [List.attach_cons, List.foldlM_cons]
  simp only [List.foldlM_map]

end Build

end NullFlow
