import NullFlow.Proofs.Comments.Steps
import NullFlow.Proofs.Graph.WellFormed

/-!
# Comments in statements

The construction does the same with a statement and with what it becomes by comments, and it passes
over the comments themselves. So the graphs of the definitions in a source file look the same as
before (`C.Source.map_bare_graphs`).
-/

namespace NullFlow

namespace Build

open C (Node Role Commented)

variable {nulls : List String} {n m : Node}

/-- **Two walks inside of nodes do alike**, and the second one passes over comments. -/
structure VisitsAlike (visit : Visit n) (visit' : Visit m) : Prop where
  node {c d : Node} (hc : sizeOf c < sizeOf n) (hd : sizeOf d < sizeOf m) (b : BlockId)
    (h : c.Becomes d) : Alike (visit c hc b) (visit' d hd b)
  comment {c : Node} (hc : sizeOf c < sizeOf m) (h : c.IsComment) : visit' c hc = pure

/-! ## Statements without parts -/

theorem alike_appendBreak (b : BlockId) : Alike (appendBreak n b) (appendBreak m b) := by
  unfold appendBreak
  refine (alike_append b rfl).bind fun _ => ?_
  refine (alike_terminate b rfl).bind fun _ => ?_
  refine .get fun s t hst => ?_
  rw [hst.breaks]
  exact (alike_jumpOut ..).bind fun _ => alike_create _

theorem alike_appendContinue (b : BlockId) : Alike (appendContinue n b) (appendContinue m b) := by
  unfold appendContinue
  refine (alike_append b rfl).bind fun _ => ?_
  refine (alike_terminate b rfl).bind fun _ => ?_
  refine .get fun s t hst => ?_
  rw [hst.continues]
  exact (alike_jumpOut ..).bind fun _ => alike_create _

section Plain

variable (h : n.Becomes m) (b : BlockId)

include h

theorem alike_appendReturn : Alike (appendReturn nulls n b) (appendReturn nulls m b) := by
  unfold appendReturn
  refine (alike_append b h.facts_eq).bind fun _ => ?_
  refine (alike_terminate b rfl).bind fun _ => ?_
  refine (alike_modify fun _ _ hst => hst.setExit b).bind fun _ => ?_
  exact alike_create _

theorem alike_appendGoto : Alike (appendGoto n b) (appendGoto m b) := by
  unfold appendGoto
  simp only [h.label_eq]
  refine (alike_append b rfl).bind fun _ => ?_
  refine (alike_labelled _).bind fun target => ?_
  refine (alike_terminate b rfl).bind fun _ => ?_
  exact (alike_edge ..).bind fun _ => alike_create _

theorem alike_appendOther : Alike (appendOther nulls n b) (appendOther nulls m b) := by
  unfold appendOther
  simp only [h.agrees.reads.long]
  split
  · exact (alike_append b h.facts_eq).bind fun _ => alike_pure b
  · exact alike_pure b

/-- A statement of an expression that comes to nothing but a comment does nothing. -/
theorem facts_eq_nil_of_firstNamed? (hkind : n.kind = .expressionStatement)
    (hnone : n.firstNamed? = none) : m.facts nulls = [] := by
  have hnamed : n.namedChildren = [] :=
    List.filter_eq_nil_iff.mpr (List.find?_eq_none.mp hnone)
  rw [← h.facts_eq, Node.facts_eq_flatMap (by rw [hkind]; decide), hnamed]
  rfl

theorem alike_appendExpression (hkind : n.kind = .expressionStatement) :
    Alike (appendExpression nulls n b) (appendExpression nulls m b) := by
  have hlooks : n.looksAtFirst = true := by rw [Node.looksAtFirst, hkind]
  unfold appendExpression expressionKind?
  rcases h.children.find?_isNamed with hrel | ⟨d, hd, hcomment⟩
  · rcases C.exists_of_rel hrel with ⟨hn, hm⟩ | ⟨c, d, hc, hd, hcd⟩
    · rw [show n.firstNamed? = none from hn, show m.firstNamed? = none from hm]
      exact alike_pure b
    · rw [show n.firstNamed? = some c from hc, show m.firstNamed? = some d from hd]
      simp only [Option.map_some, hcd.kind_eq]
      cases d.kind == .assignmentExpression with
      | true => exact (alike_append b h.facts_eq).bind fun _ => alike_pure b
      | false =>
        cases d.kind == .callExpression with
        | false => exact (alike_append b h.facts_eq).bind fun _ => alike_pure b
        | true =>
          refine (alike_append b h.facts_eq).bind fun _ => ?_
          simp only [Bool.false_eq_true, if_false, if_true, hcd.noReturn_eq]
          split
          · refine .bind (alike_terminate b ?_) fun _ => alike_create _
            rfl
          · exact alike_pure b
  -- a comment stands first now
  · rw [show m.firstNamed? = some d from hd]
    cases hc : n.firstNamed? with
    | none =>
      simp only [Option.map_none, Option.map_some, hcomment]
      exact fun s t hst =>
        .some ⟨rfl, hst.addStatement_right b (facts_eq_nil_of_firstNamed? h hkind hc)⟩
    | some c =>
      simp only [Option.map_some, h.shown hlooks c d hc hd hcomment, hcomment]
      exact (alike_append b h.facts_eq).bind fun _ => alike_pure b

/-- A step for the child in a role, if there is one. -/
theorem alike_if_child {f g : Node → Build Unit} {x y : Build BlockId} (r : Role)
    (hfg : ∀ c d, c.Becomes d → Alike (f c) (g d)) (hxy : Alike x y) :
    Alike (do
        if let some c := n.child? r then
          f c
        x)
      (do
        if let some d := m.child? r then
          g d
        y) := by
  rcases h.child? r with ⟨hn, hm⟩ | ⟨c, d, hc, hd, hcd⟩
  · rw [hn, hm]
    exact hxy
  · rw [hc, hd]
    exact (hfg c d hcd).bind fun _ => hxy

/-- A clause of a `for` statement, if it has it. -/
theorem alike_appendClause (r : Role) :
    Alike (appendClause nulls b (n.child? r)) (appendClause nulls b (m.child? r)) := by
  rcases h.child? r with ⟨hn, hm⟩ | ⟨c, d, hc, hd, hcd⟩
  · rw [hn, hm]
    exact alike_pure ()
  · rw [hc, hd]
    exact alike_append b hcd.facts_eq

theorem alike_endForHead (body after : BlockId) :
    Alike (endForHead nulls b body after (n.child? .condition))
      (endForHead nulls b body after (m.child? .condition)) := by
  rcases h.child? .condition with ⟨hn, hm⟩ | ⟨c, d, hc, hd, hcd⟩
  · rw [hn, hm]
    exact (alike_terminate b rfl).bind fun _ => alike_edge ..
  · rw [hc, hd]
    refine (alike_branchOn b hcd).bind fun _ => ?_
    exact (alike_edge ..).bind fun _ => alike_edge ..

end Plain

/-! ## Constructs -/

section Visit

variable {visit : Visit n} {visit' : Visit m} (hvisit : VisitsAlike visit visit')

include hvisit

theorem alike_appendAll {ns ms : List Node} (h : Commented Node.ShownIn ns ms)
    (hns : ∀ c ∈ ns, sizeOf c < sizeOf n) (hms : ∀ c ∈ ms, sizeOf c < sizeOf m) (b : BlockId) :
    Alike (appendAll visit ns hns b) (appendAll visit' ms hms b) := by
  induction h generalizing b with
  | nil => exact alike_pure b
  | insert hc h ih =>
    rw [appendAll_cons, hvisit.comment _ hc]
    exact ih hns (fun d hd => hms d (List.mem_cons_of_mem _ hd)) b
  | keep hagrees hshown hchildren h _ ih =>
    rw [appendAll_cons, appendAll_cons]
    exact .bind (hvisit.node _ _ b ⟨hagrees, hshown, hchildren⟩) fun b =>
      ih (fun c hc => hns c (List.mem_cons_of_mem _ hc))
        (fun d hd => hms d (List.mem_cons_of_mem _ hd)) b

variable (h : n.Becomes m) (b : BlockId)

include h

theorem alike_appendChild (r : Role) :
    Alike (appendChild n visit r b) (appendChild m visit' r b) := by
  have hlist : Commented Node.ShownIn (n.child? r).toList (m.child? r).toList := by
    rcases h.child? r with ⟨hn, hm⟩ | ⟨c, d, hc, hd, hcd⟩
    · rw [hn, hm]
      exact .nil
    · rw [hc, hd]
      exact .keep hcd.agrees hcd.shown hcd.children .nil
  rw [appendChild_eq, appendChild_eq]
  exact alike_appendAll hvisit hlist _ _ b

theorem alike_appendElse : Alike (appendElse n visit b) (appendElse m visit' b) := by
  have hlist : Commented Node.ShownIn n.elseStatements m.elseStatements := by
    unfold Node.elseStatements
    rcases h.child? .alternative with ⟨hn, hm⟩ | ⟨c, d, hc, hd, hcd⟩
    · rw [hn, hm]
      exact .nil
    · simp only [hc, hd, hcd.kind_eq]
      split
      · exact hcd.namedChildren
      · exact .keep hcd.agrees hcd.shown hcd.children .nil
  rw [appendElse_eq, appendElse_eq]
  exact alike_appendAll hvisit hlist _ _ b

theorem alike_appendIf : Alike (appendIf nulls n visit b) (appendIf nulls m visit' b) := by
  unfold appendIf
  refine .child h .condition fun c d hcd => ?_
  refine (alike_branchOn b hcd).bind fun _ => ?_
  refine (alike_create _).bind fun thenBlock => ?_
  refine (alike_create _).bind fun after => ?_
  refine (alike_edge ..).bind fun _ => ?_
  refine (alike_appendChild hvisit h thenBlock .consequence).bind fun thenEnd => ?_
  refine (alike_edge ..).bind fun _ => ?_
  rw [h.isSome_child? .alternative]
  split
  · refine (alike_create _).bind fun elseBlock => ?_
    refine (alike_edge ..).bind fun _ => ?_
    refine (alike_appendElse hvisit h elseBlock).bind fun elseEnd => ?_
    exact (alike_edge ..).bind fun _ => alike_pure after
  · exact (alike_edge ..).bind fun _ => alike_pure after

theorem alike_appendWhile : Alike (appendWhile nulls n visit b) (appendWhile nulls m visit' b) := by
  unfold appendWhile
  refine (alike_create _).bind fun head => ?_
  refine (alike_edge ..).bind fun _ => ?_
  refine alike_if_child h .condition (fun _ _ hcd => alike_branchOn head hcd) ?_
  refine (alike_create _).bind fun body => ?_
  refine (alike_create _).bind fun after => ?_
  refine (alike_edge ..).bind fun _ => ?_
  refine (alike_edge ..).bind fun _ => ?_
  refine ((alike_appendChild hvisit h body .body).inside after (some head)).bind fun bodyEnd => ?_
  exact (alike_edge ..).bind fun _ => alike_pure after

theorem alike_appendDo : Alike (appendDo nulls n visit b) (appendDo nulls m visit' b) := by
  unfold appendDo
  refine (alike_create _).bind fun body => ?_
  refine (alike_create _).bind fun test => ?_
  refine (alike_create _).bind fun after => ?_
  refine (alike_edge ..).bind fun _ => ?_
  refine ((alike_appendChild hvisit h body .body).inside after (some test)).bind fun bodyEnd => ?_
  refine (alike_edge ..).bind fun _ => ?_
  refine alike_if_child h .condition (fun _ _ hcd => alike_branchOn test hcd) ?_
  refine (alike_edge ..).bind fun _ => ?_
  exact (alike_edge ..).bind fun _ => alike_pure after

theorem alike_appendFor : Alike (appendFor nulls n visit b) (appendFor nulls m visit' b) := by
  unfold appendFor appendForLoop
  refine (alike_appendClause h b .initializer).bind fun _ => ?_
  refine (alike_create _).bind fun head => ?_
  refine (alike_edge ..).bind fun _ => ?_
  refine (alike_create _).bind fun body => ?_
  refine (alike_create _).bind fun latch => ?_
  refine (alike_create _).bind fun after => ?_
  refine (alike_endForHead h head body after).bind fun _ => ?_
  refine ((alike_appendChild hvisit h body .body).inside after (some latch)).bind fun bodyEnd => ?_
  refine (alike_edge ..).bind fun _ => ?_
  refine (alike_appendClause h latch .update).bind fun _ => ?_
  exact (alike_edge ..).bind fun _ => alike_pure after

omit h in
theorem alike_appendCases {ns ms : List Node} (h : List.Forall₂ Node.Becomes ns ms)
    (hns : ∀ c ∈ ns, sizeOf c < sizeOf n) (hms : ∀ c ∈ ms, sizeOf c < sizeOf m)
    (dispatch : BlockId) (count : Nat) (previous : Option BlockId) :
    Alike (appendCases visit dispatch count previous ns hns)
      (appendCases visit' dispatch count previous ms hms) := by
  induction h generalizing count previous with
  | nil => exact alike_pure previous
  | @cons c d _ _ hcd _ ih =>
    have hlist : Commented Node.ShownIn (caseStatements c) (caseStatements d) :=
      hcd.namedChildren.filter fun n m hnm => by rw [hnm.role]
    unfold appendCases
    refine (alike_create _).bind fun block => ?_
    refine (alike_edge ..).bind fun _ => ?_
    refine (alike_fallFrom ..).bind fun _ => ?_
    exact (alike_appendAll hvisit hlist _ _ block).bind fun last => ih ..

theorem alike_appendSwitch :
    Alike (appendSwitch nulls n visit b) (appendSwitch nulls m visit' b) := by
  have hcases : List.Forall₂ Node.Becomes (casesOf n) (casesOf m) := by
    unfold casesOf
    rcases h.child? .body with ⟨hn, hm⟩ | ⟨c, d, hc, hd, hcd⟩
    · rw [hn, hm]
      exact .nil
    · rw [hc, hd]
      exact hcd.namedChildren.forall₂_filter (fun n m hnm => by rw [hnm.kind])
        fun c hc => by rw [hc.kind]; rfl
  have hall : (casesOf n).all (fun c => (c.child? .value).isSome) =
      (casesOf m).all fun c => (c.child? .value).isSome := by
    have hmap := C.map_congr hcases (f := fun c => (c.child? .value).isSome)
      fun _ _ _ hcd => hcd.isSome_child? .value
    have hlist (l : List Node) : l.all (fun c => (c.child? .value).isSome) =
        (l.map fun c => (c.child? .value).isSome).all id := by
      rw [List.all_map]
      rfl
    rw [hlist, hlist, hmap]
  unfold appendSwitch
  refine alike_if_child h .condition (fun _ _ hcd => alike_append b hcd.facts_eq) ?_
  refine .bind (alike_terminate b ?_) fun _ => ?_
  · rfl
  refine (alike_create _).bind fun after => Alike.inside ?_ after none
  refine (alike_appendCases hvisit hcases _ _ b 0 none).bind fun last => ?_
  refine (alike_fallFrom ..).bind fun _ => ?_
  rw [hall]
  split
  · exact (alike_edge ..).bind fun _ => alike_pure after
  · exact alike_pure after

theorem alike_appendLabelled : Alike (appendLabelled n visit b) (appendLabelled m visit' b) := by
  have hlist : Commented Node.ShownIn (n.namedChildren.filter (·.kind != .statementIdentifier))
      (m.namedChildren.filter (·.kind != .statementIdentifier)) :=
    h.namedChildren.filter fun n m hnm => by rw [hnm.kind]
  unfold appendLabelled
  rw [h.label_eq]
  refine (alike_labelled _).bind fun target => ?_
  refine (alike_edge ..).bind fun _ => ?_
  exact alike_appendAll hvisit hlist _ _ target

end Visit

end Build

/-- Finishing a graph adds nothing that the checks see. -/
theorem Builder.bare_build (s : Builder) (startLine : Nat) (parameters : List Parameter) :
    { s.build with startLine, parameters }.bare =
      { s.graph.bare with startLine, parameters } := by
  rw [Builder.build_eq]
  rfl

namespace C.Node

open Build

variable {nulls : List String} {n m : C.Node} {file function : String}

/-- **The walk through a statement** does alike with what the statement becomes. -/
theorem Becomes.alike_appendTo {n m : C.Node} (h : n.Becomes m) (b : BlockId) :
    Alike (n.appendTo nulls b) (m.appendTo nulls b) := by
  have hvisit : VisitsAlike (n := n) (m := m) (fun c _ b => c.appendTo nulls b)
      (fun d _ b => d.appendTo nulls b) :=
    ⟨fun hc _ b hcd => hcd.alike_appendTo b, fun {c} _ hc => funext fun b => by
      rw [appendTo, hc.kind]⟩
  rw [appendTo, appendTo, ← h.kind_eq]
  split
  case h_1 => exact alike_appendAll hvisit h.namedChildren _ _ b
  case h_2 => exact alike_appendIf hvisit h b
  case h_3 => exact alike_appendWhile hvisit h b
  case h_4 => exact alike_appendDo hvisit h b
  case h_5 => exact alike_appendFor hvisit h b
  case h_6 => exact alike_appendSwitch hvisit h b
  case h_7 => exact alike_appendLabelled hvisit h b
  case h_9 => exact alike_appendReturn h b
  case h_10 => exact alike_appendBreak b
  case h_11 => exact alike_appendContinue b
  case h_12 => exact alike_appendGoto h b
  case h_13 => exact (alike_append b h.facts_eq).bind fun _ => alike_pure b
  case h_14 hkind => exact alike_appendExpression h b hkind
  case h_19 => exact alike_appendOther h b
  all_goals exact alike_pure b
termination_by sizeOf n

/-! ## Functions -/

/-- The graph of a definition comes out of the walk through its body. -/
theorem graphOf?_eq (nulls : List String) (file function : String) (n : C.Node) :
    n.graphOf? nulls file function = (n.child? .body).bind fun body =>
      ((body.appendTo nulls 0).run (.begun function file)).map fun r =>
        { ((r.2.setExit r.1).setTerminator r.1 .returning).build with
          startLine := n.line, parameters := n.functionParameters } := by
  unfold C.Node.graphOf?
  cases n.child? .body with
  | none => rfl
  | some body =>
    rw [Option.bind_some, Option.map_eq_bind]
    rfl

namespace Becomes

theorem functionDeclarator? {n m : C.Node} (h : n.Becomes m) :
    Option.Rel Becomes n.functionDeclarator? m.functionDeclarator? := by
  rw [C.Node.functionDeclarator?, C.Node.functionDeclarator?, ← h.kind_eq]
  split
  · exact .some h
  · rcases h.child? .declarator with ⟨hn, hm⟩ | ⟨c, d, hc, hd, hcd⟩
    · rw [hn, hm]
      exact .none
    · rw [hc, hd]
      exact functionDeclarator? hcd
termination_by sizeOf n
decreasing_by exact sizeOf_child? hc

theorem definedDeclarator? (h : n.Becomes m) :
    n.definedDeclarator? = none ∧ m.definedDeclarator? = none ∨
      ∃ c d, n.definedDeclarator? = some c ∧ m.definedDeclarator? = some d ∧ c.Becomes d := by
  unfold C.Node.definedDeclarator?
  rcases h.child? .declarator with ⟨hn, hm⟩ | ⟨c, d, hc, hd, hcd⟩
  · rw [hn, hm]
    exact Or.inl ⟨rfl, rfl⟩
  · rw [hc, hd]
    exact exists_of_rel hcd.functionDeclarator?

theorem functionName?_eq (h : n.Becomes m) : n.functionName? = m.functionName? := by
  unfold functionName?
  rcases h.definedDeclarator? with ⟨hn, hm⟩ | ⟨c, d, hc, hd, hcd⟩
  · rw [hn, hm]
  · rw [hc, hd]
    exact hcd.bind_child? .declarator fun _ _ h => h.declaredName?_eq

theorem parameter?_eq (h : n.Becomes m) : n.parameter? = m.parameter? := by
  unfold parameter?
  rw [h.kind_eq, h.bind_child? .declarator fun c d hcd => by
    rw [hcd.declaredName?_eq, hcd.declaresPointer_eq]]

theorem functionParameters_eq (h : n.Becomes m) :
    n.functionParameters = m.functionParameters := by
  unfold functionParameters
  rcases h.definedDeclarator? with ⟨hn, hm⟩ | ⟨c, d, hc, hd, hcd⟩
  · rw [hn, hm]
  · rw [hc, hd, Option.bind_some, Option.bind_some]
    rcases hcd.child? .parameters with ⟨hn, hm⟩ | ⟨c, d, hc, hd, hcd⟩
    · rw [hn, hm]
    · rw [hc, hd]
      simp only [List.filterMap_eq_flatMap_toList]
      refine hcd.namedChildren.flatMap_congr (fun c hc => ?_) fun _ _ _ h => by rw [h.parameter?_eq]
      rw [parameter?, hc.kind]
      rfl

/-- The definitions in a node become the definitions. -/
theorem functionDefinitions {n m : C.Node} (h : n.Becomes m) :
    List.Forall₂ Becomes n.functionDefinitions m.functionDefinitions := by
  rw [functionDefinitions_eq, functionDefinitions_eq, ← h.kind_eq]
  split
  · exact .cons h .nil
  · refine h.namedChildren.forall₂_flatMap (fun c hc => ?_) fun c hc d hcd =>
      functionDefinitions hcd
    have hnone : c.namedChildren = [] := congrArg (List.filter isNamed) hc.children
    rw [functionDefinitions_eq, hc.kind, hnone]
    rfl
termination_by sizeOf n
decreasing_by exact sizeOf_namedChildren hc

/-- **The graph of a definition** looks the same. -/
theorem graphOf? (h : n.Becomes m) : Option.Rel (fun g g' => g.bare = g'.bare)
    (n.graphOf? nulls file function) (m.graphOf? nulls file function) := by
  have hstart : (Builder.begun function file).LooksLike (.begun function file) :=
    ⟨rfl, rfl, rfl, rfl, rfl⟩
  rw [graphOf?_eq, graphOf?_eq, h.line_eq, h.functionParameters_eq]
  rcases h.child? .body with ⟨hn, hm⟩ | ⟨c, d, hc, hd, hcd⟩
  · rw [hn, hm]
    exact .none
  · rw [hc, hd, Option.bind_some, Option.bind_some]
    rcases exists_of_rel (hcd.alike_appendTo 0 hstart) with
      ⟨hc, hd⟩ | ⟨⟨last, s⟩, ⟨_, t⟩, hc, hd, rfl, hst⟩
    · rw [hc, hd]
      exact .none
    · rw [hc, hd]
      refine .some ?_
      have hend : ((s.setExit last).setTerminator last .returning).graph.bare =
          ((t.setExit last).setTerminator last .returning).graph.bare :=
        ((hst.setExit last).setTerminator last rfl).graph
      exact (Builder.bare_build ..).trans ((congrArg (fun g : Graph =>
        { g with startLine := m.line, parameters := m.functionParameters }) hend).trans
          (Builder.bare_build ..).symm)

end Becomes

end C.Node

/-- **The graphs of a source file** look the same. -/
theorem C.Source.map_bare_graphs {s t : C.Source} (h : s.root.Becomes t.root) (file : String)
    (nulls : List String) :
    (s.graphs file nulls).map Graph.bare = (t.graphs file nulls).map Graph.bare := by
  have hgraph (c d : C.Node) (hcd : c.Becomes d) :
      (c.functionName?.bind fun name => c.graphOf? nulls file name).map Graph.bare =
        (d.functionName?.bind fun name => d.graphOf? nulls file name).map Graph.bare := by
    rw [hcd.functionName?_eq]
    cases d.functionName? with
    | none => rfl
    | some name =>
      rw [Option.bind_some, Option.bind_some]
      have hrel : Option.Rel (fun g g' => g.bare = g'.bare) (c.graphOf? nulls file name)
          (d.graphOf? nulls file name) := hcd.graphOf?
      rcases C.exists_of_rel hrel with ⟨hn, hm⟩ | ⟨g, g', hg, hg', heq⟩
      · rw [hn, hm]
      · rw [hg, hg', Option.map_some, Option.map_some, heq]
  unfold C.Source.graphs
  rw [List.map_filterMap, List.map_filterMap, List.filterMap_eq_flatMap_toList,
    List.filterMap_eq_flatMap_toList, List.flatMap_def, List.flatMap_def,
    C.map_congr h.functionDefinitions fun c _ d hcd => by rw [hgraph c d hcd]]

end NullFlow
