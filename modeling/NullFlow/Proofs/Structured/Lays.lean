import NullFlow.Proofs.Graph.Building
import NullFlow.Proofs.Structured.Laid
import NullFlow.Proofs.Structured.OfNode

/-!
# The construction lays statements out

The construction appends a statement to the open block of a builder and leaves another block open.
What it touches on the way is known beforehand: the block that was open, and blocks that are new
(`Builder.Extends`). So everything that is closed when a statement is over stays as it is while the
rest of the function is read, and whether the statement is laid out can be seen in the builder
already (`Builder.LaysOut`).

`Build.Lays` puts the two together. Here it is shown for the statements that have no parts. The
parts of most constructs are **branches**, which begin in a block made for them and are closed with
an edge at their end; what a construct has to know about a branch is in `Builder.Branch`.
-/

namespace NullFlow

namespace Graph

variable {g : Graph} {b c d : BlockId} {t : Site} {k l : EdgeKind}

theorem statementsOf_eq (g : Graph) (b : BlockId) : g.statementsOf b = (g.site b).statements := rfl

/-- How a block ends can be seen at its site. -/
theorem closes_of_site {block : Block} {isExit : Bool} {outs : List (EdgeKind × BlockId)}
    {stop? : Option Stop}
    (h : g.site b = ⟨some block, outs.map fun p => ⟨b, p.2, p.1⟩, isExit⟩)
    (hexit : isExit = true ↔ stop? = some .left) (hhalts : block.Halts ↔ stop? = some .halted) :
    g.Closes b stop? outs := by
  simp only [site, Site.mk.injEq] at h
  obtain ⟨hblock, hout, hcontains⟩ := h
  refine ⟨mem_blocks_of_getElem? hblock, fun stop => ?_, hout⟩
  cases stop with
  | left =>
    rw [← hexit, ← hcontains, List.contains_iff_mem]
    exact ⟨fun | .left _ he => he, fun he => .left (mem_blocks_of_getElem? hblock) he⟩
  | halted =>
    rw [← hhalts]
    constructor
    · rintro (_ | ⟨hblock', hh⟩)
      rw [hblock] at hblock'
      cases hblock'
      exact hh
    · exact fun hh => .halted hblock hh

/-- A block that was open and is closed with some edges leads along them. -/
theorem leads_of_site (h : t.IsOpen) {outs : List (EdgeKind × BlockId)}
    (hg : g.site b = t.addEdges (outs.map fun p => ⟨b, p.2, p.1⟩)) : g.Leads b outs := by
  obtain ⟨block, rfl, hblock⟩ := h
  exact closes_of_site hg (by simp) (by simp [hblock])

theorem leads_one_of_site (h : t.IsOpen) (hg : g.site b = t.addEdge ⟨b, c, k⟩) :
    g.Leads b [(k, c)] := leads_of_site h hg

theorem leads_two_of_site (h : t.IsOpen)
    (hg : g.site b = (t.addEdge ⟨b, c, k⟩).addEdge ⟨b, d, l⟩) : g.Leads b [(k, c), (l, d)] :=
  leads_of_site h (hg.trans (t.addEdges_append [⟨b, c, k⟩] [⟨b, d, l⟩]).symm)

/-- A block that is only left has the statements it had. -/
theorem leaves_of_site (h : t.IsOpen) (hg : g.site b = t.addEdge ⟨b, c, k⟩) :
    g.statementsOf b = t.statements ++ [] ∧ g.Leads b [(k, c)] := by
  refine ⟨?_, leads_one_of_site h hg⟩
  rw [statementsOf_eq, hg, Site.statements_addEdge, List.append_nil]

/-- A block made to end in a condition has the condition as its last statement. -/
theorem tests_of_site {condition : Statement} {terminator : Terminator} (h : t.IsOpen)
    (hterm : ∀ f, terminator ≠ .noReturn f) (hg : g.site b = t.test b condition terminator c d) :
    g.statementsOf b = t.statements ++ [condition] ∧
      g.Leads b [(.trueBranch, c), (.falseBranch, d)] := by
  refine ⟨?_, leads_two_of_site ((h.addStatement condition).setTerminator hterm) hg⟩
  rw [statementsOf_eq, hg, Site.test, Site.statements_addEdge, Site.statements_addEdge,
    Site.statements_setTerminator, h.statements_addStatement]

theorem closes_of_setExit (h : t.IsOpen) (hg : g.site b = t.setExit) :
    g.Closes b (some .left) [] := by
  obtain ⟨block, rfl, hblock⟩ := h
  exact closes_of_site hg (by simp) ⟨fun hh => (hblock hh).elim, fun hh => by cases hh⟩

theorem closes_of_noReturn (h : t.IsOpen) {f : String}
    (hg : g.site b = t.setTerminator (.noReturn f)) : g.Closes b (some .halted) [] := by
  obtain ⟨block, rfl, -⟩ := h
  exact closes_of_site hg (by simp) ⟨fun _ => rfl, fun _ => ⟨f, rfl⟩⟩

end Graph

namespace Builder

variable {s t u : Builder} {b cur next : Nat} {st : Stmt} {brk cont : Option BlockId}
  {label : String}

theorem Fresh.lt_of_isOpen (hs : s.Fresh) (h : (s.site b).IsOpen) : b < s.count := by
  obtain ⟨block, hsite, -⟩ := h
  refine Nat.lt_of_not_le fun hle => ?_
  rw [hs.site_eq hle] at hsite
  cases hsite

theorem Fresh.lt_of_created (hs : s.Fresh) (h : s.site b = .created b label) : b < s.count :=
  hs.lt_of_isOpen (h ▸ Site.isOpen_created b label)

/-- **What the construction may change** while one block is open: that block, and new ones. -/
structure Grows (s : Builder) (cur : Nat) (t : Builder) : Prop where
  count_le : s.count ≤ t.count
  fresh : t.Fresh
  site_eq : ∀ x < s.count, x ≠ cur → t.site x = s.site x
  frame_eq : t.frame = s.frame

/-- If the later changes are those of the open block or of a new one, the earlier ones and they
are. -/
theorem Grows.trans (h : s.Grows cur t) (h' : t.Grows b u) (hb : b = cur ∨ s.count ≤ b) :
    s.Grows cur u where
  count_le := Nat.le_trans h.count_le h'.count_le
  fresh := h'.fresh
  site_eq x hx hne := by
    have hle := h.count_le
    rw [h'.site_eq x (by omega) (by omega), h.site_eq x hx hne]
  frame_eq := h'.frame_eq.trans h.frame_eq

/-- Changes to a block that exists already. -/
theorem Fresh.grows (hs : s.Fresh) (hb : b < s.count) (hcount : t.count = s.count)
    (hsite : ∀ x : Nat, x ≠ b → t.site x = s.site x) (hframe : t.frame = s.frame) :
    s.Grows b t where
  count_le := Nat.le_of_eq hcount.symm
  fresh x hx := by
    rw [hsite x (by omega), hs.site_eq (by omega)]
  site_eq x _ hne := hsite x hne
  frame_eq := hframe

theorem Fresh.grows_addEdge (hs : s.Fresh) (hb : b < s.count) (c : BlockId) (k : EdgeKind) :
    s.Grows b (s.addEdge b c k) :=
  hs.grows hb rfl (fun x hne => by rw [site_addEdge, if_neg hne]) rfl

theorem Fresh.grows_addStatement (hs : s.Fresh) (hb : b < s.count) (statement : Statement) :
    s.Grows b (s.addStatement b statement) :=
  hs.grows hb (count_addStatement _) (fun x hne => by rw [site_addStatement, if_neg hne])
    (frame_addStatement _)

/-- **What appending a statement does to a builder**: besides, a block is open afterwards, the one
that was or a new one. -/
structure Extends (s : Builder) (cur : Nat) (t : Builder) (next : Nat) : Prop
    extends s.Grows cur t where
  isOpen : (t.site next).IsOpen
  eq_or_le : next = cur ∨ s.count ≤ next

theorem Grows.extends_created (h : s.Grows cur t) (hle : s.count ≤ next)
    (hnext : t.site next = .created next label) : s.Extends cur t next :=
  ⟨h, hnext ▸ Site.isOpen_created next label, Or.inr hle⟩

/-- **A statement is laid out for good** from the open block to the block open after it: in every
graph that keeps what was closed meanwhile, and may add statements to the open block. -/
def LaysOut (st : Stmt) (brk cont : Option BlockId) (s : Builder) (cur : Nat) (t : Builder)
    (next : Nat) : Prop :=
  ∀ (g : Graph) (rest : List Statement),
    (∀ x : Nat, x = cur ∨ s.count ≤ x → x < t.count → x ≠ next → g.site x = t.site x) →
    g.statementsOf next = (t.site next).statements ++ rest →
    ∃ rest', g.statementsOf cur = (s.site cur).statements ++ rest' ∧
      st.Laid g brk cont ⟨cur, rest'⟩ ⟨next, rest⟩

/-- At the start of a new block everything of it is still to come. -/
theorem start_eq_of_created {g : Graph} {rest : List Statement} (hb : t.site b = .created b label)
    (hrest : g.statementsOf b = (t.site b).statements ++ rest) : ⟨b, rest⟩ = g.start b := by
  rw [hb] at hrest
  rw [Graph.start, hrest]
  rfl

/-- **A branch is laid out for good**: a statement that begins in a new block, and whose end is
closed with an edge. -/
structure Branch (st : Stmt) (brk cont : Option BlockId) (s : Builder) (b : Nat) (k : EdgeKind)
    (c : BlockId) (t : Builder) : Prop extends s.Grows b t where
  laid : ∀ g : Graph, (∀ x : Nat, x = b ∨ s.count ≤ x → x < t.count → g.site x = t.site x) →
    ∃ e, st.Laid g brk cont (g.start b) ⟨e, []⟩ ∧ g.Leads e [(k, c)]

/-- Closing the end of a statement that began in a new block makes a branch. -/
theorem Extends.branch (h : s.Extends b t next) (hl : LaysOut st brk cont s b t next)
    (hs : s.Fresh) (hb : s.site b = .created b label) (k : EdgeKind) (c : BlockId) :
    Branch st brk cont s b k c (t.addEdge next c k) := by
  have hlt := h.fresh.lt_of_isOpen h.isOpen
  have hblt := hs.lt_of_created hb
  -- the edge at the end changes the site of the open block and no other
  have hnext := h.eq_or_le
  have hne : ∀ x : Nat, x ≠ next → (t.addEdge next c k).site x = t.site x := by
    intro x hx
    rw [site_addEdge, if_neg hx]
  refine ⟨⟨h.count_le, fun x hx => ?_, fun x hx hxb => ?_, h.frame_eq⟩, fun g hg => ?_⟩
  · rw [count_addEdge] at hx
    rw [hne x (by omega), h.fresh.site_eq hx]
  · rw [hne x (by omega), h.site_eq x hx hxb]
  · have hend : g.site next = (t.site next).addEdge ⟨next, c, k⟩ := by
      rw [hg next hnext hlt, site_addEdge, if_pos rfl]
    have hrest : g.statementsOf next = (t.site next).statements ++ [] := by
      rw [Graph.statementsOf_eq, hend, List.append_nil, Site.statements_addEdge]
    obtain ⟨rest, hrest', hlaid⟩ :=
      hl g [] (fun x hx hlt hxn => (hg x hx hlt).trans (hne x hxn)) hrest
    rw [start_eq_of_created hb hrest'] at hlaid
    exact ⟨next, hlaid, Graph.leads_one_of_site h.isOpen hend⟩

end Builder

namespace Build

open C (Node)
open Builder

variable {st st' : Stmt} {step step' : BlockId → Build BlockId} {s A : Builder} {cur b : Nat}
  {label : String}

/-- **A part of the construction lays a statement out**, wherever it starts: it succeeds, changes
only what it may, and what it leaves is the statement. -/
def Lays (st : Stmt) (step : BlockId → Build BlockId) : Prop :=
  ∀ (s : Builder) (cur : Nat), s.Fresh → (s.site cur).IsOpen →
    Does (step cur) s fun next t => s.Extends cur t next ∧
      LaysOut st s.breaks.head? s.continues.head? s cur t next

/-- A part makes a branch, if it starts in a new block and its end is closed. -/
theorem Lays.branch (h : Lays st step) (hA : s.Grows cur A) (hb : A.site b = .created b label)
    (k : EdgeKind) (c : BlockId) : Does (step b) A fun e t =>
      Branch st s.breaks.head? s.continues.head? A b k c (t.addEdge e c k) := by
  have hbreaks : A.breaks = s.breaks := breaks_eq_of_frame_eq hA.frame_eq
  have hcontinues : A.continues = s.continues := continues_eq_of_frame_eq hA.frame_eq
  refine (h A b hA.fresh (hb ▸ Site.isOpen_created b label)).imp fun e t ⟨hext, hlays⟩ => ?_
  rw [hbreaks, hcontinues] at hlays
  exact hext.branch hlays hA.fresh hb k c

/-- So it does inside of a construct, where `break` and `continue` lead where the construct
says. -/
theorem Lays.branch_inside (h : Lays st step) (hA : A.Fresh) (hb : A.site b = .created b label)
    (brk cont : BlockId) (k : EdgeKind) (c : BlockId) :
    Does (Build.inside brk (some cont) (step b)) A fun e t =>
      Branch st (some brk) (some cont) A b k c (t.addEdge e c k) := by
  rw [does_inside]
  refine (h (A.enter brk (some cont)) b hA (hb ▸ Site.isOpen_created b label)).imp
    fun e t ⟨hext, hlays⟩ => ?_
  have hgrows : A.Grows b (t.leave A) :=
    ⟨hext.count_le, hext.fresh, hext.site_eq, frame_leave hext.frame_eq⟩
  have hext' : A.Extends b (t.leave A) e := ⟨hgrows, hext.isOpen, hext.eq_or_le⟩
  exact hext'.branch hlays hA hb k c

/-! ## Statements that are no constructs -/

theorem lays_pure : Lays .skip pure := by
  intro s cur hs hcur
  rw [does_pure]
  refine ⟨⟨⟨Nat.le_refl _, hs, fun _ _ _ => rfl, rfl⟩, hcur, Or.inl rfl⟩, fun g rest _ hrest => ?_⟩
  exact ⟨rest, hrest, rfl⟩

/-- One part after another lays out a sequence. -/
theorem Lays.seq (h : Lays st step) (h' : Lays st' step') :
    Lays (.seq st st') fun cur => step cur >>= step' := by
  intro s cur hs hcur
  rw [does_bind]
  refine (h s cur hs hcur).imp fun m t ⟨hext, hlays⟩ => ?_
  refine (h' t m hext.fresh hext.isOpen).imp fun next u ⟨hext', hlays'⟩ => ?_
  -- what the second part changes the first part had left open, or it is new
  have hlt := hs.lt_of_isOpen hcur
  have hm := hext.fresh.lt_of_isOpen hext.isOpen
  have hle := hext.count_le
  have hle' := hext'.count_le
  have hor := hext.eq_or_le
  have hor' := hext'.eq_or_le
  refine ⟨⟨hext.toGrows.trans hext'.toGrows hor, hext'.isOpen, by omega⟩,
    fun g rest hg hrest => ?_⟩
  obtain ⟨rest', hrest', hlaid'⟩ :=
    hlays' g rest (fun x hx hlt hne => hg x (by omega) hlt hne) hrest
  obtain ⟨rest₀, hrest₀, hlaid⟩ := hlays g rest'
    (fun x hx hlt hne => by rw [hg x hx (by omega) (by omega), hext'.site_eq x hlt hne]) hrest'
  have hbreaks : t.breaks = s.breaks := breaks_eq_of_frame_eq hext.frame_eq
  have hcontinues : t.continues = s.continues := continues_eq_of_frame_eq hext.frame_eq
  rw [hbreaks, hcontinues] at hlaid'
  exact ⟨rest₀, hrest₀, _, _, hlaid, .here _, hlaid'⟩

theorem lays_append {n : Node} {kind : StatementKind} {facts : List Fact} :
    Lays (.plain ⟨n.line, kind, n.excerpt, facts⟩) fun cur => do
      append cur n kind facts
      return cur := by
  intro s cur hs hcur
  have hlt := hs.lt_of_isOpen hcur
  simp only [does_bind, does_append, does_pure]
  have hsite : (s.addStatement cur ⟨n.line, kind, n.excerpt, facts⟩).site cur
      = (s.site cur).addStatement ⟨n.line, kind, n.excerpt, facts⟩ := by
    rw [site_addStatement, if_pos rfl]
  refine ⟨⟨hs.grows_addStatement hlt _, ?_, Or.inl rfl⟩, fun g rest _ hrest => ?_⟩
  · rw [hsite]
    exact hcur.addStatement _
  · rw [hsite, hcur.statements_addStatement, List.append_assoc] at hrest
    exact ⟨_, hrest, rfl⟩

/-- A block with one more statement and another terminator. -/
theorem site_ended {statement : Statement} {t : Terminator} (hcur : (s.site cur).IsOpen)
    (hA : (s.addStatement cur statement).setTerminator cur t = A) :
    A.count = s.count ∧ A.frame = s.frame ∧ (∀ x : Nat, x ≠ cur → A.site x = s.site x) ∧
      A.site cur = ((s.site cur).addStatement statement).setTerminator t ∧
      (A.site cur).statements = (s.site cur).statements ++ [statement] := by
  subst hA
  refine ⟨by simp, by simp, fun x hx => by simp [hx], by simp, ?_⟩
  simp [hcur.statements_addStatement]

/-- **A statement that ends its block**: it is the last one there, and what comes after it goes to a
new block that nothing leads to. -/
theorem lays_of_ends {statement : Statement} (hs : s.Fresh)
    (hcur : (s.site cur).IsOpen) (hcount : A.count = s.count) (hframe : A.frame = s.frame)
    (hsite : ∀ x : Nat, x ≠ cur → A.site x = s.site x)
    (hlast : (A.site cur).statements = (s.site cur).statements ++ [statement])
    (hlaid : ∀ (g : Graph) (q : Graph.Place), g.site cur = A.site cur →
      st.Laid g s.breaks.head? s.continues.head? ⟨cur, [statement]⟩ q) :
    Does (create label) A fun next t => s.Extends cur t next ∧
      LaysOut st s.breaks.head? s.continues.head? s cur t next := by
  rw [does_create]
  have hlt := hs.lt_of_isOpen hcur
  have hnew : (A.createBlock label).2.site A.count = .created A.count label := by
    rw [site_createBlock, if_pos rfl, hsite A.count (by omega), hs.site_eq (by omega)]
    rfl
  refine ⟨Grows.extends_created ⟨?_, fun x hx => ?_, fun x hx hne => ?_, ?_⟩ (by omega) hnew,
    fun g rest hg _ => ?_⟩
  · rw [count_createBlock, hcount]
    exact Nat.le_succ _
  · rw [count_createBlock] at hx
    rw [site_createBlock, if_neg (by omega), hsite x (by omega), hs.site_eq (by omega)]
  · rw [site_createBlock, if_neg (by omega), hsite x hne]
  · rw [frame_createBlock, hframe]
  · have hgcur := hg cur (Or.inl rfl) (by rw [count_createBlock]; omega) (by omega)
    rw [site_createBlock, if_neg (by omega)] at hgcur
    refine ⟨[statement], ?_, hlaid g _ hgcur⟩
    rw [Graph.statementsOf_eq, hgcur, hlast]

theorem lays_appendReturn {nulls : List String} {n : Node} :
    Lays (.ret (n.statement nulls .returning)) (appendReturn nulls n) := by
  intro s cur hs hcur
  simp only [appendReturn, does_bind, does_append, does_terminate, does_modify]
  generalize hA : Builder.setTerminator _ _ _ = A
  obtain ⟨hcount, hframe, hsite, hlast, hstatements⟩ := site_ended hcur hA
  have hopen : (A.site cur).IsOpen := hlast ▸ (hcur.addStatement _).setTerminator (by simp)
  have hexit : (A.setExit cur).site cur = (A.site cur).setExit := by
    rw [site_setExit hopen, if_pos rfl]
  refine lays_of_ends hs hcur (by rw [count_setExit, hcount]) (by rw [frame_setExit, hframe])
    (fun x hx => ?_) ?_ fun g q hg => ⟨rfl, Graph.closes_of_setExit hopen (hg.trans hexit)⟩
  · rw [site_setExit hopen, if_neg hx, hsite x hx]
  · rw [hexit, Site.statements_setExit, hstatements]
    rfl

theorem lays_expressionStmt {nulls : List String} {n : Node} :
    Lays (n.expressionStmt nulls) (appendExpression nulls n) := by
  unfold appendExpression Node.expressionStmt
  cases hkind : expressionKind? n with
  | none => exact lays_pure
  | some kind =>
    cases kind with
    | call f =>
      by_cases hf : Node.noReturnFunctions.contains f
      · intro s cur hs hcur
        simp only [hf, if_true, does_bind, does_append, does_terminate]
        generalize hA : Builder.setTerminator _ _ _ = A
        obtain ⟨hcount, hframe, hsite, hlast, hstatements⟩ := site_ended hcur hA
        exact lays_of_ends hs hcur hcount hframe hsite hstatements
          fun g q hg => ⟨rfl, Graph.closes_of_noReturn (hcur.addStatement _) (hg.trans hlast)⟩
      · simp only [hf, Bool.false_eq_true, if_false]
        exact lays_append
    | declaration _ | assignment _ | expression | returning | condition | controlFlow | other =>
      exact lays_append

/-- A jump leads to the innermost target, if there is one. -/
theorem lays_of_jump {n : Node} {terminator : Terminator} {targets : List BlockId} {k : EdgeKind}
    (hs : s.Fresh) (hcur : (s.site cur).IsOpen) (hterm : ∀ f, terminator ≠ .noReturn f)
    (hA : (s.addStatement cur n.jump).setTerminator cur terminator = A)
    (hlaid : ∀ (g : Graph) (q : Graph.Place), g.Leads cur (targets.head?.toList.map (k, ·)) →
      st.Laid g s.breaks.head? s.continues.head? ⟨cur, [n.jump]⟩ q) :
    Does (create label) (targets.head?.elim A (A.addEdge cur · k)) fun next t =>
      s.Extends cur t next ∧ LaysOut st s.breaks.head? s.continues.head? s cur t next := by
  obtain ⟨hcount, hframe, hsite, hlast, hstatements⟩ := site_ended hcur hA
  have hopen : (A.site cur).IsOpen := hlast ▸ (hcur.addStatement _).setTerminator hterm
  cases targets with
  | nil =>
    refine lays_of_ends hs hcur hcount hframe hsite hstatements fun g q hg => hlaid g q ?_
    exact Graph.leads_of_site hopen (hg.trans (Site.addEdges_nil _).symm)
  | cons c _ =>
    have hedge : (A.addEdge cur c k).site cur = (A.site cur).addEdge ⟨cur, c, k⟩ := by
      rw [site_addEdge, if_pos rfl]
    refine lays_of_ends hs hcur hcount hframe (fun x hx => ?_) ?_ fun g q hg =>
      hlaid g q (Graph.leads_one_of_site hopen (hg.trans hedge))
    · exact (if_neg hx ▸ site_addEdge k).trans (hsite x hx)
    · exact (congrArg Site.statements hedge).trans hstatements

theorem lays_appendBreak {n : Node} : Lays (.brk n.jump) (appendBreak n) := by
  intro s cur hs hcur
  simp only [appendBreak, does_bind, does_append, does_terminate, does_get, does_jumpOut]
  generalize hA : Builder.setTerminator _ _ _ = A
  rw [breaks_eq_of_frame_eq (site_ended hcur hA).2.1]
  exact lays_of_jump hs hcur (by simp) hA fun g q hl => ⟨rfl, hl⟩

theorem lays_appendContinue {n : Node} : Lays (.cont n.jump) (appendContinue n) := by
  intro s cur hs hcur
  simp only [appendContinue, does_bind, does_append, does_terminate, does_get, does_jumpOut]
  generalize hA : Builder.setTerminator _ _ _ = A
  rw [continues_eq_of_frame_eq (site_ended hcur hA).2.1]
  exact lays_of_jump hs hcur (by simp) hA fun g q hl => ⟨rfl, hl⟩

end Build
end NullFlow
