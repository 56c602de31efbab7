import NullFlow.Proofs.Structured.Branches
import NullFlow.Proofs.Structured.Switches

/-!
# The graph of a structured function

The body of a function without labels is laid out in the graph that is built for it, from the entry
to the block in which control falls off the end. So executing the body and walking through the graph
are the same.
-/

namespace NullFlow

namespace C.Node

open Build

variable {nulls : List String}

/-- **The construction lays out what a syntax tree says**, if it is a structured statement. -/
theorem lays_appendTo {n : C.Node} {st : Stmt} (hst : n.stmt? nulls = some st) :
    Lays st (n.appendTo nulls) := by
  have h : Follows (n := n) (fun c _ b => c.appendTo nulls b) fun c _ => c.stmt? nulls :=
    fun c _ _ hst => lays_appendTo hst
  intro s cur hs hcur
  rw [stmt?] at hst
  rw [appendTo]
  -- the cases stand in the order of `stmt?`; the last one is for everything else
  split at hst
  case h_17 => cases hst
  all_goals
    rename_i hkind
    simp only [hkind]
  case h_1 => exact h.lays_appendAll hst s cur hs hcur
  case h_7 =>
    obtain ⟨c, hc, hst⟩ := Option.bind_eq_some_iff.mp hst
    obtain ⟨yes, hyes, hst⟩ := Option.bind_eq_some_iff.mp hst
    split at hst
    · next halternative =>
      obtain ⟨no, hno, hst⟩ := Option.bind_eq_some_iff.mp hst
      cases hst
      exact lays_appendIf_ifElse hc halternative (h.lays_appendChild hyes) (h.lays_appendElse hno)
        s cur hs hcur
    · next halternative =>
      cases hst
      exact lays_appendIf_ifThen hc (Option.not_isSome_iff_eq_none.mp halternative)
        (h.lays_appendChild hyes) s cur hs hcur
  case h_8 =>
    obtain ⟨c, hc, hst⟩ := Option.bind_eq_some_iff.mp hst
    obtain ⟨body, hbody, hst⟩ := Option.bind_eq_some_iff.mp hst
    cases hst
    exact lays_appendWhile hc (h.lays_appendChild hbody) s cur hs hcur
  case h_9 =>
    obtain ⟨body, hbody, hst⟩ := Option.bind_eq_some_iff.mp hst
    obtain ⟨c, hc, hst⟩ := Option.bind_eq_some_iff.mp hst
    cases hst
    exact lays_appendDo hc (h.lays_appendChild hbody) s cur hs hcur
  case h_10 =>
    obtain ⟨body, hbody, hst⟩ := Option.bind_eq_some_iff.mp hst
    cases hst
    exact lays_appendFor (h.lays_appendChild hbody) s cur hs hcur
  case h_11 =>
    obtain ⟨c, hc, hst⟩ := Option.bind_eq_some_iff.mp hst
    obtain ⟨body, -, hst⟩ := Option.bind_eq_some_iff.mp hst
    obtain ⟨groups, hgroups, hst⟩ := Option.bind_eq_some_iff.mp hst
    split at hst
    · cases hst
      exact h.lays_appendSwitch hc hgroups s cur hs hcur
    · cases hst
  all_goals cases hst
  case h_2 => exact lays_expressionStmt s cur hs hcur
  case h_3 => exact lays_append s cur hs hcur
  case h_4 => exact lays_appendReturn s cur hs hcur
  case h_5 => exact lays_appendBreak s cur hs hcur
  case h_6 => exact lays_appendContinue s cur hs hcur
  all_goals exact lays_pure s cur hs hcur
termination_by sizeOf n

end C.Node

namespace Builder

variable {s : Builder} {b x : Nat}

theorem site_build : s.build.site x = s.site x := by
  unfold build Graph.finish Graph.computeDominators
  split <;> rfl

theorem entry_build : s.build.entry = s.graph.entry := by
  unfold build Graph.finish Graph.computeDominators
  split <;> rfl

theorem site_setEntry (h : (s.site b).IsOpen) : (s.setEntry b).site x =
    if x = b then (s.site x).modify fun block => { block with isEntry := true } else s.site x := by
  have hb : b ∈ s.graph.blocks := by
    obtain ⟨block, hsite, -⟩ := h
    exact Graph.mem_blocks_of_getElem? (congrArg Site.block? hsite)
  unfold setEntry
  rw [if_pos hb]
  exact site_modifyBlock _

theorem count_setEntry : (s.setEntry b).count = s.count := by
  unfold setEntry
  split
  · exact count_modifyBlock _
  · rfl

/-- The entry made the entry. -/
theorem frame_setEntry (h : s.graph.entry = b) : (s.setEntry b).frame = s.frame := by
  have hframe := frame_modifyBlock (s := s) (c := b) fun block => { block with isEntry := true }
  unfold setEntry
  split
  · exact Prod.ext (breaks_eq_of_frame_eq hframe)
      (Prod.ext (continues_eq_of_frame_eq hframe) h.symm)
  · rfl

/-- **The builder at the start of a function** has one block, which is open and the entry. -/
structure Started (s : Builder) : Prop where
  fresh : s.Fresh
  isOpen : (s.site 0).IsOpen
  statements_eq : (s.site 0).statements = []
  breaks_eq : s.breaks = []
  continues_eq : s.continues = []
  entry_eq : s.graph.entry = 0

theorem started (function file : String) :
    Started (((start function file).createBlock "entry").2.setEntry 0) := by
  have hstart : ∀ x : Nat, (start function file).site x = .absent := fun x => by
    unfold site Graph.site Site.absent start
    simp
    rfl
  generalize hA : ((start function file).createBlock "entry").2 = A
  have hsite : ∀ x : Nat, A.site x = if x = 0 then .created 0 "entry" else .absent := by
    intro x
    subst hA
    rw [site_createBlock, hstart]
    rfl
  have hcount : A.count = 1 := by subst hA; rfl
  have hbreaks : A.breaks = [] := by subst hA; rfl
  have hcontinues : A.continues = [] := by subst hA; rfl
  have hentry : A.graph.entry = 0 := by subst hA; rfl
  clear hA
  have hopen : (A.site 0).IsOpen := by
    rw [hsite, if_pos rfl]
    exact Site.isOpen_created 0 "entry"
  have hframe : (A.setEntry 0).frame = A.frame := frame_setEntry hentry
  have hzero : (A.setEntry 0).site 0 =
      (Site.created 0 "entry").modify fun block => { block with isEntry := true } := by
    rw [site_setEntry hopen, if_pos rfl, hsite, if_pos rfl]
  refine ⟨fun x hx => ?_, ?_, ?_, (breaks_eq_of_frame_eq hframe).trans hbreaks,
    (continues_eq_of_frame_eq hframe).trans hcontinues,
    (entry_eq_of_frame_eq hframe).trans hentry⟩
  · rw [count_setEntry, hcount] at hx
    rw [site_setEntry hopen, if_neg (by omega), hsite, if_neg (by omega)]
  · rw [hzero]
    exact ⟨_, rfl, fun ⟨_, h⟩ => by cases h⟩
  · rw [hzero]
    rfl

end Builder

namespace C.Node

open Builder

variable {nulls : List String} {file function : String} {n body : C.Node} {st : Stmt}

/-- The graph of a definition with a structured body: the body is laid out from the entry to the
block in which control falls off the end. -/
theorem exists_graph_laid (file function : String) (hbody : n.child? .body = some body)
    (hst : body.stmt? nulls = some st) : ∃ g e, n.graphOf? nulls file function = some g ∧
      st.Laid g none none (g.start g.entry) ⟨e, []⟩ ∧ g.Closes e (some .left) [] := by
  have hs := started function file
  obtain ⟨last, t, hrun, hext, hlays⟩ := lays_appendTo hst _ 0 hs.fresh hs.isOpen
  -- control falls off the end of the block that is open at last
  let u := (t.setExit last).setTerminator last .returning
  let g : Graph := { u.build with startLine := n.line, parameters := n.functionParameters }
  have hg : n.graphOf? nulls file function = some g := by
    simp only [graphOf?, hbody, Option.bind_eq_bind, Option.bind_some]
    exact congrArg (Option.bind · _) hrun
  have hsite : ∀ x : Nat, g.site x =
      if x = last then ((t.site x).setTerminator .returning).setExit else t.site x := by
    intro x
    refine site_build.trans ((site_setTerminator _).trans ?_)
    rw [site_setExit hext.isOpen]
    split
    · exact Site.setTerminator_setExit _ _
    · rfl
  have hlast := (hsite last).trans (if_pos rfl)
  have hentry : g.entry = 0 := by
    have hframe : u.frame = _ := ((frame_setTerminator _).trans frame_setExit).trans hext.frame_eq
    exact entry_build.trans ((entry_eq_of_frame_eq hframe).trans hs.entry_eq)
  obtain ⟨rest, hrest, hlaid⟩ := hlays g [] (fun x _ _ hne => (hsite x).trans (if_neg hne)) (by
    rw [Graph.statementsOf_eq, hlast, List.append_nil, Site.statements_setExit,
      Site.statements_setTerminator])
  rw [hs.statements_eq, List.nil_append] at hrest
  rw [hs.breaks_eq, hs.continues_eq, ← hrest, ← hentry] at hlaid
  exact ⟨g, last, hg, hlaid, Graph.closes_of_setExit (hext.isOpen.setTerminator (by simp)) hlast⟩

/-- **The graph of a function simulates its execution, and the other way round.** If the body of a
definition is structured, there is a graph, and in it the walks from the entry to an exit execute
what the body may do until it returns or falls off its end. The walks to a block that ends in a call
that never returns execute what the body may do up to such a call. -/
theorem exists_graph_runs_iff_walks (hbody : n.child? .body = some body)
    (hst : body.stmt? nulls = some st) : ∃ g, n.graphOf? nulls file function = some g ∧
      (∀ as, st.Runs as .normal ∨ st.Runs as .returned ↔
        ∃ es b, g.Walk g.entry es b ∧ b ∈ g.exits ∧ g.reading es b = as) ∧
      ∀ as, st.Runs as .halted ↔ ∃ es b, g.Walk g.entry es b ∧
        (∃ block, g.blocks[b]? = some block ∧ block.Halts) ∧ g.reading es b = as := by
  obtain ⟨g, e, hg, hlaid, he⟩ := exists_graph_laid file function hbody hst
  refine ⟨g, hg, fun as => ?_, fun as => ?_⟩
  · calc st.Runs as .normal ∨ st.Runs as .returned
        ↔ ∃ o, st.Runs as o ∧ o.stop? = some .left := Stmt.exists_stop?_left.symm
      _ ↔ ∃ n, g.Goes n (g.start g.entry) as .left := (hlaid.exists_goes_iff he).symm
      _ ↔ ∃ es b, g.Walk g.entry es b ∧ g.StopsAt b .left ∧ g.reading es b = as :=
        Graph.exists_goes_iff_walk
      _ ↔ ∃ es b, g.Walk g.entry es b ∧ b ∈ g.exits ∧ g.reading es b = as :=
        exists₂_congr fun _ _ => and_congr_right fun w => and_congr_left' w.stopsAt_left_iff
  · calc st.Runs as .halted
        ↔ ∃ o, st.Runs as o ∧ o.stop? = some .halted := Stmt.exists_stop?_halted.symm
      _ ↔ ∃ n, g.Goes n (g.start g.entry) as .halted := (hlaid.exists_goes_iff he).symm
      _ ↔ ∃ es b, g.Walk g.entry es b ∧ g.StopsAt b .halted ∧ g.reading es b = as :=
        Graph.exists_goes_iff_walk
      _ ↔ ∃ es b, g.Walk g.entry es b ∧ (∃ block, g.blocks[b]? = some block ∧ block.Halts) ∧
            g.reading es b = as :=
        exists₂_congr fun _ _ => and_congr_right fun _ => and_congr_left' Graph.stopsAt_halted_iff

/-- The condition of the loop in `void f(int *p) { while (p) break; }`; the parts around it follow,
up to the definition. -/
def leftLoopTest : C.Node :=
  ⟨.parenthesizedExpression, some .condition, "(p)", 1, 24,
    [⟨.token "(", none, "(", 1, 24, []⟩, ⟨.identifier, none, "p", 1, 25, []⟩,
      ⟨.token ")", none, ")", 1, 26, []⟩]⟩

def leftLoopBreak : C.Node :=
  ⟨.breakStatement, some .body, "break;", 1, 28,
    [⟨.token "break", none, "break", 1, 28, []⟩, ⟨.token ";", none, ";", 1, 33, []⟩]⟩

def leftLoopStatement : C.Node :=
  ⟨.whileStatement, none, "while (p) break;", 1, 18,
    [⟨.token "while", none, "while", 1, 18, []⟩, leftLoopTest, leftLoopBreak]⟩

def leftLoopBody : C.Node :=
  ⟨.compoundStatement, some .body, "{ while (p) break; }", 1, 16,
    [⟨.token "\x7b", none, "\x7b", 1, 16, []⟩, leftLoopStatement,
      ⟨.token "\x7d", none, "\x7d", 1, 35, []⟩]⟩

def leftLoopDeclarator : C.Node :=
  ⟨.functionDeclarator, some .declarator, "f(int *p)", 1, 6,
    [⟨.identifier, some .declarator, "f", 1, 6, []⟩,
      ⟨.parameterList, some .parameters, "(int *p)", 1, 7,
        [⟨.token "(", none, "(", 1, 7, []⟩,
          ⟨.parameterDeclaration, none, "int *p", 1, 8,
            [⟨.primitiveType, some .type, "int", 1, 8, []⟩,
              ⟨.pointerDeclarator, some .declarator, "*p", 1, 12,
                [⟨.token "*", none, "*", 1, 12, []⟩,
                  ⟨.identifier, some .declarator, "p", 1, 13, []⟩]⟩]⟩,
          ⟨.token ")", none, ")", 1, 14, []⟩]⟩]⟩

def leftLoop : C.Node :=
  ⟨.functionDefinition, none, "void f(int *p) { while (p) break; }", 1, 1,
    [⟨.primitiveType, some .type, "void", 1, 1, []⟩, leftLoopDeclarator, leftLoopBody]⟩

theorem stmt?_leftLoopBody : leftLoopBody.stmt? [] = some
    (.seq (.whileLoop (leftLoopTest.statement [] .condition) (.brk leftLoopBreak.jump)) .skip) := by
  have hbreak : leftLoopBreak.stmt? [] = some (.brk leftLoopBreak.jump) := by
    rw [stmt?]
    rfl
  have hloop : leftLoopStatement.stmt? [] =
      some (.whileLoop (leftLoopTest.statement [] .condition) (.brk leftLoopBreak.jump)) := by
    rw [stmt?]
    exact Option.bind_eq_some_iff.mpr ⟨_, rfl, Option.bind_eq_some_iff.mpr ⟨_, hbreak, rfl⟩⟩
  rw [stmt?]
  exact Option.bind_eq_some_iff.mpr ⟨_, hloop, Option.bind_eq_some_iff.mpr ⟨_, rfl, rfl⟩⟩

theorem exists_graph_walk_leftLoop : ∃ g, leftLoop.graphOf? [] "a.c" "f" = some g ∧
    ∃ es b, g.Walk g.entry es b ∧ b ∈ g.exits ∧ g.reading es b =
      [.ran (leftLoopTest.statement [] .condition), .decided true, .ran leftLoopBreak.jump] := by
  obtain ⟨g, hg, hleft, -⟩ := exists_graph_runs_iff_walks (n := leftLoop) rfl stmt?_leftLoopBody
  exact ⟨g, hg, (hleft _).mp (Or.inl (.seq (.whileLeave .brk rfl) .skip))⟩

end C.Node

end NullFlow
