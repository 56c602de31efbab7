import NullFlow.Graph.OfFunction

/-!
# What the construction of a graph keeps

However a definition is written, its graph is built by the same few operations on the builder. A
property that each of them keeps (`Builder.Invariant`) is therefore kept by every step of the
construction, for every construct of the language, jumps and labels included
(`C.Node.keeps_appendTo`), and the finished graph has it as far as it speaks of the graph.
-/

namespace NullFlow

/-- **A property that no operation of the construction breaks.** -/
structure Builder.Invariant (I : Builder → Prop) : Prop where
  createBlock {s : Builder} (label : String) (h : I s) : I (s.createBlock label).2
  labelBlock {s : Builder} (label : String) (h : I s) : I (s.labelBlock label).2
  addEdge {s : Builder} (b c : BlockId) (kind : EdgeKind) (h : I s) : I (s.addEdge b c kind)
  addStatement {s : Builder} (b : BlockId) (st : Statement) (h : I s) : I (s.addStatement b st)
  setTerminator {s : Builder} (b : BlockId) (t : Terminator) (h : I s) : I (s.setTerminator b t)
  setExit {s : Builder} (b : BlockId) (h : I s) : I (s.setExit b)
  enter {s : Builder} (b : BlockId) (c : Option BlockId) (h : I s) : I (s.enter b c)
  leave {s outer : Builder} (houter : I outer) (h : I s) : I (s.leave outer)

namespace Build

open C (Node Role)

variable {I : Builder → Prop} {α β : Type}

/-- **A step keeps a property** if it succeeds. -/
def Keeps (I : Builder → Prop) (m : Build α) : Prop :=
  ∀ ⦃s a t⦄, I s → m.run s = some (a, t) → I t

theorem Keeps.pure (a : α) : Keeps I (pure a : Build α) := by
  intro s b t h hrun
  cases hrun
  exact h

theorem Keeps.bind {m : Build α} {f : α → Build β} (hm : Keeps I m) (hf : ∀ a, Keeps I (f a)) :
    Keeps I (m >>= f) := by
  intro s b t h hrun
  rw [StateT.run_bind] at hrun
  obtain ⟨⟨a, u⟩, hu, hrun⟩ := Option.bind_eq_some_iff.mp hrun
  exact hf a (hm h hu) hrun

theorem Keeps.get : Keeps I get := by
  intro s a t h hrun
  cases hrun
  exact h

theorem Keeps.modify {f : Builder → Builder} (hf : ∀ s, I s → I (f s)) : Keeps I (modify f) := by
  intro s a t h hrun
  cases hrun
  exact hf s h

theorem Keeps.modifyGet {f : Builder → α × Builder} (hf : ∀ s, I s → I (f s).2) :
    Keeps I (modifyGet f) := by
  intro s a t h hrun
  have ht : (f s).2 = t := congrArg Prod.snd (Option.some.inj hrun)
  exact ht ▸ hf s h

theorem Keeps.some (a : Option α) : Keeps I (liftM a : Build α) := by
  intro s b t h hrun
  cases a with
  | none => cases hrun
  | some a =>
    cases hrun
    exact h

section

variable (inv : Builder.Invariant I)

include inv

theorem keeps_create (label : String) : Keeps I (create label) :=
  .modifyGet fun _ => inv.createBlock label

theorem keeps_labelled (label : String) : Keeps I (labelled label) :=
  .modifyGet fun _ => inv.labelBlock label

theorem keeps_edge (b c : BlockId) (kind : EdgeKind) : Keeps I (edge b c kind) :=
  .modify fun _ => inv.addEdge b c kind

theorem keeps_terminate (b : BlockId) (t : Terminator) : Keeps I (terminate b t) :=
  .modify fun _ => inv.setTerminator b t

theorem keeps_append (b : BlockId) (n : Node) (kind : StatementKind) (facts : List Fact) :
    Keeps I (append b n kind facts) := .modify fun _ => inv.addStatement b _

theorem keeps_branchOn (nulls : List String) (b : BlockId) (condition : Node) :
    Keeps I (branchOn nulls b condition) :=
  .bind (keeps_append inv ..) fun _ => keeps_terminate inv ..

theorem keeps_jumpOut (b : BlockId) (targets : List BlockId) (kind : EdgeKind) :
    Keeps I (jumpOut b targets kind) := by
  cases targets with
  | nil => exact .pure _
  | cons target _ => exact keeps_edge inv ..

theorem keeps_fallFrom (source? : Option BlockId) (target : BlockId) :
    Keeps I (fallFrom source? target) := by
  cases source? with
  | none => exact .pure _
  | some source => exact keeps_edge inv ..

theorem keeps_inside (b : BlockId) (c : Option BlockId) {step : Build BlockId}
    (hstep : Keeps I step) : Keeps I (inside b c step) := by
  intro s a t h hrun
  have hinside : (inside b c step).run s
      = (step.run (s.enter b c)).bind fun p => some (p.1, p.2.leave s) := rfl
  rw [hinside] at hrun
  obtain ⟨⟨last, u⟩, hu, hrun⟩ := Option.bind_eq_some_iff.mp hrun
  cases hrun
  exact inv.leave h (hstep (inv.enter b c h) hu)

/-! ## Constructs -/

section Visit

variable {n : Node} {visit : Visit n} (hvisit : ∀ c h b, Keeps I (visit c h b))

include hvisit

omit inv in
theorem keeps_appendAll (parts : List Node) (h : ∀ c ∈ parts, sizeOf c < sizeOf n)
    (current : BlockId) : Keeps I (appendAll visit parts h current) := by
  unfold appendAll
  induction parts.attach generalizing current with
  | nil => exact .pure _
  | cons p parts ih =>
    rw [List.foldlM_cons]
    exact .bind (hvisit ..) fun b => ih b

omit inv in
theorem keeps_appendChild (r : Role) (current : BlockId) :
    Keeps I (appendChild n visit r current) := by
  unfold appendChild
  split
  · exact hvisit ..
  · exact .pure _

omit inv in
theorem keeps_appendElse (current : BlockId) : Keeps I (appendElse n visit current) := by
  unfold appendElse
  split
  · split
    · exact keeps_appendAll hvisit ..
    · exact hvisit ..
  · exact .pure _

theorem keeps_appendIf (nulls : List String) (current : BlockId) :
    Keeps I (appendIf nulls n visit current) := by
  refine .bind (.some _) fun condition => .bind (keeps_branchOn inv ..) fun _ =>
    .bind (keeps_create inv _) fun thenBlock => .bind (keeps_create inv _) fun after =>
    .bind (keeps_edge inv ..) fun _ => .bind (keeps_appendChild hvisit ..) fun thenEnd =>
    .bind (keeps_edge inv ..) fun _ => ?_
  split
  · exact .bind (keeps_create inv _) fun elseBlock => .bind (keeps_edge inv ..) fun _ =>
      .bind (keeps_appendElse hvisit ..) fun elseEnd => .bind (keeps_edge inv ..) fun _ => .pure _
  · exact .bind (keeps_edge inv ..) fun _ => .pure _

omit inv in
theorem keeps_appendChildren (current : BlockId) : Keeps I (appendChildren n visit current) :=
  keeps_appendAll hvisit ..

theorem keeps_appendWhile (nulls : List String) (current : BlockId) :
    Keeps I (appendWhile nulls n visit current) := by
  refine .bind (keeps_create inv _) fun head => .bind (keeps_edge inv ..) fun _ => ?_
  -- what comes after the condition, whether there is one or not
  extract_lets more
  have hmore (u : PUnit) : Keeps I (more u) :=
    .bind (keeps_create inv _) fun body => .bind (keeps_create inv _) fun after =>
    .bind (keeps_edge inv ..) fun _ => .bind (keeps_edge inv ..) fun _ =>
    .bind (keeps_inside inv _ _ (keeps_appendChild hvisit ..)) fun bodyEnd =>
    .bind (keeps_edge inv ..) fun _ => .pure _
  split
  · exact .bind (keeps_branchOn inv ..) hmore
  · exact hmore ⟨⟩

theorem keeps_appendDo (nulls : List String) (current : BlockId) :
    Keeps I (appendDo nulls n visit current) := by
  refine .bind (keeps_create inv _) fun body => .bind (keeps_create inv _) fun test =>
    .bind (keeps_create inv _) fun after => .bind (keeps_edge inv ..) fun _ =>
    .bind (keeps_inside inv _ _ (keeps_appendChild hvisit ..)) fun bodyEnd =>
    .bind (keeps_edge inv ..) fun _ => ?_
  extract_lets more
  have hmore (u : PUnit) : Keeps I (more u) :=
    .bind (keeps_edge inv ..) fun _ => .bind (keeps_edge inv ..) fun _ => .pure _
  split
  · exact .bind (keeps_branchOn inv ..) hmore
  · exact hmore ⟨⟩

omit hvisit in
theorem keeps_appendClause (nulls : List String) (b : BlockId) (clause : Option Node) :
    Keeps I (appendClause nulls b clause) := by
  cases clause with
  | none => exact .pure _
  | some clause => exact keeps_append inv ..

omit hvisit in
theorem keeps_endForHead (nulls : List String) (head body after : BlockId)
    (condition : Option Node) : Keeps I (endForHead nulls head body after condition) := by
  cases condition with
  | none => exact .bind (keeps_terminate inv ..) fun _ => keeps_edge inv ..
  | some condition =>
    exact .bind (keeps_branchOn inv ..) fun _ => .bind (keeps_edge inv ..) fun _ =>
      keeps_edge inv ..

theorem keeps_appendFor (nulls : List String) (current : BlockId) :
    Keeps I (appendFor nulls n visit current) :=
  .bind (keeps_appendClause inv ..) fun _ => .bind (keeps_create inv _) fun _ =>
    .bind (keeps_edge inv ..) fun _ => .bind (keeps_create inv _) fun _ =>
    .bind (keeps_create inv _) fun _ => .bind (keeps_create inv _) fun _ =>
    .bind (keeps_endForHead inv ..) fun _ =>
    .bind (keeps_inside inv _ _ (keeps_appendChild hvisit ..)) fun _ =>
    .bind (keeps_edge inv ..) fun _ => .bind (keeps_appendClause inv ..) fun _ =>
    .bind (keeps_edge inv ..) fun _ => .pure _

theorem keeps_appendCases (dispatch : BlockId) (count : Nat) (previous : Option BlockId)
    (cases : List Node) (h : ∀ c ∈ cases, sizeOf c < sizeOf n) :
    Keeps I (appendCases visit dispatch count previous cases h) := by
  induction cases generalizing count previous with
  | nil => exact .pure _
  | cons c rest ih =>
    exact .bind (keeps_create inv _) fun _ => .bind (keeps_edge inv ..) fun _ =>
      .bind (keeps_fallFrom inv ..) fun _ => .bind (keeps_appendAll hvisit ..) fun last => ih ..

theorem keeps_appendSwitch (nulls : List String) (current : BlockId) :
    Keeps I (appendSwitch nulls n visit current) := by
  unfold appendSwitch
  extract_lets cases more
  have hmore (u : PUnit) : Keeps I (more u) := by
    refine .bind (keeps_terminate inv ..) fun _ => .bind (keeps_create inv _) fun _ =>
      keeps_inside inv _ _ ?_
    refine .bind (keeps_appendCases inv hvisit ..) fun last =>
      .bind (keeps_fallFrom inv ..) fun _ => ?_
    split
    · exact .bind (keeps_edge inv ..) fun _ => .pure _
    · exact .pure _
  split
  · exact .bind (keeps_append inv ..) hmore
  · exact hmore ⟨⟩

theorem keeps_appendLabelled (current : BlockId) : Keeps I (appendLabelled n visit current) :=
  .bind (keeps_labelled inv _) fun _ => .bind (keeps_edge inv ..) fun _ =>
    keeps_appendAll hvisit ..

end Visit

theorem keeps_appendReturn (nulls : List String) (n : Node) (current : BlockId) :
    Keeps I (appendReturn nulls n current) :=
  .bind (keeps_append inv ..) fun _ => .bind (keeps_terminate inv ..) fun _ =>
    .bind (.modify fun _ => inv.setExit current) fun _ => keeps_create inv _

theorem keeps_appendBreak (n : Node) (current : BlockId) : Keeps I (appendBreak n current) :=
  .bind (keeps_append inv ..) fun _ => .bind (keeps_terminate inv ..) fun _ =>
    .bind .get fun _ => .bind (keeps_jumpOut inv ..) fun _ => keeps_create inv _

theorem keeps_appendContinue (n : Node) (current : BlockId) :
    Keeps I (appendContinue n current) :=
  .bind (keeps_append inv ..) fun _ => .bind (keeps_terminate inv ..) fun _ =>
    .bind .get fun _ => .bind (keeps_jumpOut inv ..) fun _ => keeps_create inv _

theorem keeps_appendGoto (n : Node) (current : BlockId) : Keeps I (appendGoto n current) :=
  .bind (keeps_append inv ..) fun _ => .bind (keeps_labelled inv _) fun _ =>
    .bind (keeps_terminate inv ..) fun _ => .bind (keeps_edge inv ..) fun _ => keeps_create inv _

theorem keeps_appendExpression (nulls : List String) (n : Node) (current : BlockId) :
    Keeps I (appendExpression nulls n current) := by
  unfold appendExpression
  split
  · exact .pure _
  · refine .bind (keeps_append inv ..) fun _ => ?_
    split
    · split
      · exact .bind (keeps_terminate inv ..) fun _ => keeps_create inv _
      · exact .pure _
    · exact .pure _

theorem keeps_appendOther (nulls : List String) (n : Node) (current : BlockId) :
    Keeps I (appendOther nulls n current) := by
  unfold appendOther
  split
  · exact .bind (keeps_append inv ..) fun _ => .pure _
  · exact .pure _

end

end Build

namespace C.Node

open Build

variable {I : Builder → Prop}

/-- **The walk through a definition keeps what every operation keeps.** -/
theorem keeps_appendTo (inv : Builder.Invariant I) (nulls : List String) (n : Node)
    (current : BlockId) : Keeps I (n.appendTo nulls current) := by
  -- the walk goes on in smaller nodes only
  have hvisit (c : Node) (_ : sizeOf c < sizeOf n) (b : BlockId) : Keeps I (c.appendTo nulls b) :=
    keeps_appendTo inv nulls c b
  unfold appendTo
  split
  case h_1 => exact keeps_appendChildren hvisit _
  case h_2 => exact keeps_appendIf inv hvisit ..
  case h_3 => exact keeps_appendWhile inv hvisit ..
  case h_4 => exact keeps_appendDo inv hvisit ..
  case h_5 => exact keeps_appendFor inv hvisit ..
  case h_6 => exact keeps_appendSwitch inv hvisit ..
  case h_7 => exact keeps_appendLabelled inv hvisit _
  case h_9 => exact keeps_appendReturn inv ..
  case h_10 => exact keeps_appendBreak inv ..
  case h_11 => exact keeps_appendContinue inv ..
  case h_12 => exact keeps_appendGoto inv ..
  case h_13 => exact .bind (keeps_append inv ..) fun _ => .pure _
  case h_14 => exact keeps_appendExpression inv ..
  case h_19 => exact keeps_appendOther inv ..
  -- comments and declarations of types
  all_goals exact .pure _
termination_by sizeOf n

end C.Node

/-! ## The names of a graph -/

/-- **What a graph is the graph of**: its file and its function. -/
def Graph.names (g : Graph) : String × String := (g.file, g.function)

theorem Graph.names_finish (g : Graph) : g.finish.names = g.names := by
  unfold finish computeDominators findUnreachable
  split <;> rfl

namespace Builder

theorem names_modifyBlock (s : Builder) (b : BlockId) (f : Block → Block) :
    (s.modifyBlock b f).graph.names = s.graph.names := by
  unfold modifyBlock
  split <;> rfl

theorem names_setEntry (s : Builder) (b : BlockId) :
    (s.setEntry b).graph.names = s.graph.names := by
  unfold setEntry
  split
  · exact names_modifyBlock ..
  · rfl

theorem names_setExit (s : Builder) (b : BlockId) :
    (s.setExit b).graph.names = s.graph.names := by
  unfold setExit
  split
  · exact names_modifyBlock ..
  · rfl

theorem names_labelBlock (s : Builder) (label : String) :
    (s.labelBlock label).2.graph.names = s.graph.names := by
  unfold labelBlock
  split <;> rfl

/-- **The names are settled when the construction starts.** -/
theorem invariant_names (names : String × String) : Invariant (·.graph.names = names) where
  createBlock _ h := h
  labelBlock _ h := (names_labelBlock ..).trans h
  addEdge _ _ _ h := h
  addStatement _ _ h := (names_modifyBlock ..).trans h
  setTerminator _ _ h := (names_modifyBlock ..).trans h
  setExit _ h := (names_setExit ..).trans h
  enter _ _ h := h
  leave _ h := h

end Builder

/-- **The graph of a definition has the names it is built with.** -/
theorem C.Node.names_of_graphOf? {nulls : List String} {file function : String} {n : Node}
    {g : Graph} (h : n.graphOf? nulls file function = some g) : g.names = (file, function) := by
  obtain ⟨body, -, h⟩ := Option.bind_eq_some_iff.mp h
  obtain ⟨⟨last, s⟩, hbody, h⟩ := Option.bind_eq_some_iff.mp h
  have hs : s.graph.names = (file, function) :=
    keeps_appendTo (Builder.invariant_names _) nulls body _ (Builder.names_setEntry ..) hbody
  cases h
  calc ((s.setExit last).setTerminator last .returning).build.names
      = ((s.setExit last).setTerminator last .returning).graph.names := Graph.names_finish _
    _ = (s.setExit last).graph.names := Builder.names_modifyBlock ..
    _ = s.graph.names := Builder.names_setExit ..
    _ = (file, function) := hs

/-- **All graphs of a source belong to its file.** -/
theorem C.Source.file_of_mem_graphs {s : C.Source} {file : String} {nulls : List String}
    {g : Graph} (h : g ∈ s.graphs file nulls) : g.file = file := by
  obtain ⟨n, -, h⟩ := List.mem_filterMap.mp h
  obtain ⟨function, -, h⟩ := Option.bind_eq_some_iff.mp h
  exact congrArg Prod.fst (C.Node.names_of_graphOf? h)

end NullFlow
