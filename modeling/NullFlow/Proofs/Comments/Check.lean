import NullFlow.Proofs.Comments.Walk
import NullFlow.Proofs.Check.ForwardNull
import NullFlow.Proofs.Check.Straight
import NullFlow.Proofs.Summary.Positions

/-!
# Comments and checks

Comments that hide nothing change no finding (`CheckOptions.checkSource_commented`). A comment that
stands first in parentheses hides what they contain, and with it a defect:
in `*(/* c */ p) = 1` nothing is dereferenced as far as the checks can tell
(`CheckOptions.checkSource_hidden`).
-/

namespace NullFlow

/-- **Comments that hide nothing change no finding**, wherever they are inserted in the tree. -/
theorem CheckOptions.checkSource_commented (o : CheckOptions) {s t : C.Source} (file : String)
    (h : C.Commented C.Node.ShownIn [s.root] [t.root]) :
    o.checkSource s file = o.checkSource t file := by
  have hroot : s.root.Becomes t.root := by
    cases h with
    | insert hc h => cases h
    | keep hagrees hshown hchildren _ => exact ⟨hagrees, hshown, hchildren⟩
  unfold checkSource
  rw [← o.check_map_bare, C.Source.map_bare_graphs hroot, o.check_map_bare]

namespace C

/-! ## Trees without new comments -/

theorem Node.Agrees.refl (n : Node) : n.Agrees n := ⟨rfl, rfl, rfl, .of_text_eq rfl⟩

/-- It is allowed to insert nothing. -/
theorem Commented.refl {allowed : Node → Node → Prop} (hallowed : ∀ n, allowed n n) :
    (ns : List Node) → Commented allowed ns ns
  | [] => .nil
  | n :: ns => .keep (.refl n) (hallowed n) (refl hallowed n.children) (refl hallowed ns)
termination_by ns => sizeOf ns
decreasing_by
  · cases n
    simp only [List.cons.sizeOf_spec, Node.mk.sizeOf_spec]
    omega
  · simp only [List.cons.sizeOf_spec]
    omega

theorem Commented.append {allowed : Node → Node → Prop} {ns ms ns' ms' : List Node}
    (h : Commented allowed ns ms) (h' : Commented allowed ns' ms') :
    Commented allowed (ns ++ ns') (ms ++ ms') := by
  induction h with
  | nil => exact h'
  | insert hc _ ih => exact .insert hc ih
  | keep hagrees hallowed hchildren _ _ ih => exact .keep hagrees hallowed hchildren ih

theorem Node.ShownIn.refl (n : Node) : n.ShownIn n := fun _ _ _ hc hd hcomment =>
  Option.some.inj (hd.symm.trans hc) ▸ hcomment

namespace Node

/-! ## A store through parentheses -/

/-- Where a comment stands in a pair of parentheses. -/
inductive Spot where
  | nowhere
  | behind
  | before
  deriving DecidableEq

def storedTo : Node := ⟨.identifier, none, "p", 3, 7, []⟩

def remark : Node := ⟨.comment, none, "/* c */", 3, 7, []⟩

def Spot.text : Spot → String
  | .nowhere => "(p)"
  | .behind => "(p /* c */)"
  | .before => "(/* c */ p)"

def Spot.children : Spot → List Node
  | .nowhere => [storedTo]
  | .behind => [storedTo, remark]
  | .before => [remark, storedTo]

/-- The parentheses `(p)`, `(p /* c */)` or `(/* c */ p)`, their tokens left out. -/
def parens (spot : Spot) : Node :=
  ⟨.parenthesizedExpression, some .argument, spot.text, 3, 6, spot.children⟩

/-- The definition `void f(…) { p = 0; *(p) = 1; }` on four lines from its parts up. -/
def pointedTo (spot : Spot) : Node :=
  ⟨.pointerExpression, some .left, "*" ++ spot.text, 3, 5,
    [⟨.token "*", some .operator, "*", 3, 5, []⟩, parens spot]⟩

def store (spot : Spot) : Node :=
  ⟨.assignmentExpression, none, "*" ++ spot.text ++ " = 1", 3, 5,
    [pointedTo spot, ⟨.token "=", some .operator, "=", 3, 10, []⟩,
      ⟨.numberLiteral, some .right, "1", 3, 12, []⟩]⟩

def storeStatement (spot : Spot) : Node :=
  ⟨.expressionStatement, none, "*" ++ spot.text ++ " = 1;", 3, 5, [store spot]⟩

def nulling : Node :=
  ⟨.assignmentExpression, none, "p = 0", 2, 5,
    [⟨.identifier, some .left, "p", 2, 5, []⟩, ⟨.token "=", some .operator, "=", 2, 7, []⟩,
      ⟨.numberLiteral, some .right, "0", 2, 9, []⟩]⟩

def nullingStatement : Node := ⟨.expressionStatement, none, "p = 0;", 2, 5, [nulling]⟩

def storeBody (spot : Spot) : Node :=
  ⟨.compoundStatement, some .body,
    "\x7b\n    p = 0;\n    *" ++ spot.text ++ " = 1;\n\x7d", 1, 11,
    [nullingStatement, storeStatement spot]⟩

def storing (spot : Spot) : Node :=
  ⟨.functionDefinition, none,
    "void f(…) \x7b\n    p = 0;\n    *" ++ spot.text ++ " = 1;\n\x7d", 1, 1,
    [writingDeclarator [pointerDeclaration], storeBody spot]⟩

def storingUnit (spot : Spot) : Node :=
  ⟨.translationUnit, none,
    "void f(…) \x7b\n    p = 0;\n    *" ++ spot.text ++ " = 1;\n\x7d\n", 1, 1,
    [storing spot]⟩

/-- The constructs around the place of the comment, from the inside out. -/
def around : List (Spot → Node) :=
  [pointedTo, store, storeStatement, storeBody, storing, storingUnit]

theorem agrees_spot (spot : Spot) {f : Spot → Node} (hf : f ∈ parens :: around) :
    (f .nowhere).Agrees (f spot) := by
  simp only [around, List.mem_cons, List.not_mem_nil, or_false] at hf
  cases spot with
  | nowhere => exact .refl _
  | behind | before =>
    rcases hf with rfl | rfl | rfl | rfl | rfl | rfl | rfl <;>
      exact ⟨rfl, rfl, rfl, by decide, by decide, by decide⟩

theorem isComment_remark : remark.IsComment := ⟨rfl, rfl, rfl⟩

/-- The tree with the comment is the tree without it with the comment inserted. -/
theorem commented_storingUnit {allowed : Node → Node → Prop} (hrefl : ∀ n, allowed n n)
    (spot : Spot) (hallowed : ∀ f ∈ parens :: around, allowed (f .nowhere) (f spot)) :
    Commented allowed [storingUnit .nowhere] [storingUnit spot] := by
  have hkeep {f : Spot → Node} (hf : f ∈ parens :: around)
      (h : Commented allowed (f .nowhere).children (f spot).children) :
      Commented allowed [f .nowhere] [f spot] :=
    .keep (agrees_spot spot hf) (hallowed f hf) h .nil
  have hstep {f g : Spot → Node} (hf : f ∈ around) (before after : List Node)
      (hchildren : ∀ s, (f s).children = before ++ [g s] ++ after)
      (h : Commented allowed [g .nowhere] [g spot]) : Commented allowed [f .nowhere] [f spot] :=
    hkeep (List.mem_cons_of_mem _ hf) (by
      rw [hchildren, hchildren]
      exact ((Commented.refl hrefl before).append h).append (.refl hrefl after))
  have hparens : Commented allowed [parens .nowhere] [parens spot] := by
    refine hkeep List.mem_cons_self ?_
    cases spot with
    | nowhere => exact .refl hrefl _
    | behind => exact .keep (.refl _) (hrefl _) .nil (.insert isComment_remark .nil)
    | before => exact .insert isComment_remark (.refl hrefl _)
  have hstore := hstep (f := store) (by simp [around]) [] _ (fun _ => rfl)
    (hstep (f := pointedTo) (by simp [around]) [_] [] (fun _ => rfl) hparens)
  have hbody := hstep (f := storeBody) (by simp [around]) [nullingStatement] [] (fun _ => rfl)
    (hstep (f := storeStatement) (by simp [around]) [] [] (fun _ => rfl) hstore)
  exact hstep (by simp [around]) [] [] (fun _ => rfl)
    (hstep (f := storing) (by simp [around]) [_] [] (fun _ => rfl) hbody)

/-! ### Behind the variable -/

theorem shownIn_behind {f : Spot → Node} (hf : f ∈ parens :: around) :
    (f .nowhere).ShownIn (f .behind) := by
  intro _ c d _ hd hcomment
  simp only [around, List.mem_cons, List.not_mem_nil, or_false] at hf
  rcases hf with rfl | rfl | rfl | rfl | rfl | rfl | rfl <;> cases hd <;> cases hcomment

end Node

end C

/-- The source that holds the definition and nothing else. -/
def C.Source.storing (spot : C.Node.Spot) : C.Source :=
  ⟨(C.Node.storingUnit spot).text, C.Node.storingUnit spot⟩

/-- **A comment behind the variable** changes nothing. -/
theorem CheckOptions.checkSource_commented_behind :
    C.Commented C.Node.ShownIn [C.Node.storingUnit .nowhere] [C.Node.storingUnit .behind] ∧
      ({} : CheckOptions).checkSource (C.Source.storing .nowhere) "a.c" =
        ({} : CheckOptions).checkSource (C.Source.storing .behind) "a.c" :=
  have hcommented := C.Node.commented_storingUnit C.Node.ShownIn.refl .behind
    fun _ hf => C.Node.shownIn_behind hf
  ⟨hcommented, checkSource_commented {} "a.c" hcommented⟩

/-! ### In front of the variable -/

namespace C.Node

theorem plainVariable?_parens : (parens .nowhere).plainVariable? [] = some "p" := by
  rw [plainVariable?_parenthesized rfl rfl]
  exact plainVariable?_identifier rfl rfl

theorem plainVariable?_parens_before : (parens .before).plainVariable? [] = none :=
  plainVariable?_hidden rfl fun c hc => by cases hc; rfl

theorem facts_nullingStatement : nullingStatement.facts [] = [.assign "p" .null 2] := by
  have hzero : isNullConstant [] ⟨.numberLiteral, some .right, "0", 2, 9, []⟩ = true := by
    rw [isNullConstant]
    decide
  rw [facts_eq_flatMap (by decide)]
  show nulling.factsUnder [] ∅ ++ [] = _
  rw [List.append_nil, factsUnder_assigned rfl rfl rfl (plainVariable?_identifier rfl rfl),
    storedValue, if_pos hzero]
  show facts [] _ ++ _ = _
  rw [facts_of_children_eq_nil rfl]
  rfl

theorem facts_parens (spot : Spot) : (parens spot).facts [] = [] := by
  rw [facts_eq_flatMap (by cases spot <;> decide), List.flatMap_eq_nil_iff]
  intro c hc
  refine facts_of_children_eq_nil ?_
  cases spot <;> revert c <;> decide

theorem facts_storeStatement (spot : Spot) :
    (storeStatement spot).facts [] = derefFact [] ∅ (parens spot) .star 3 := by
  have hpointed : (pointedTo spot).factsUnder [] ∅ = derefFact [] ∅ (parens spot) .star 3 := by
    have hargument : (pointedTo spot).child? .argument = some (parens spot) := rfl
    rw [factsUnder_star rfl rfl hargument]
    show (parens spot).facts [] ++ _ = _
    rw [facts_parens, List.nil_append]
    rfl
  have hplain : (pointedTo spot).plainVariable? [] = none := plainVariable?_eq_none nofun nofun
  rw [facts_eq_flatMap (show Kind.expressionStatement ∉ special by decide)]
  show (store spot).factsUnder [] ∅ ++ [] = _
  rw [List.append_nil, factsUnder_assignment rfl rfl rfl hplain, hpointed]
  show facts [] _ ++ _ = _
  rw [facts_of_children_eq_nil rfl, List.nil_append]

/-- The graph of the definition has one block, which does what the two statements do. -/
theorem graphOf?_storing (spot : Spot) : ∃ g, (storing spot).graphOf? [] "a.c" "f" = some g ∧
    g.IsStraight (.assign "p" .null 2 :: derefFact [] ∅ (parens spot) .star 3) ∧
    ∀ (b : BlockId) (block : Block), g.blocks[b]? = some block → block.terminator = .returning := by
  have hsimple : ∀ c ∈ [nullingStatement, storeStatement spot], c.IsSimple := by
    rintro _ (_ | ⟨_, _ | ⟨_, ⟨⟩⟩⟩)
    · exact .expression rfl fun e he => by cases he; decide
    · exact .expression rfl fun e he => by cases he; nofun
  have hfacts : [nullingStatement, storeStatement spot].flatMap (facts []) =
      .assign "p" .null 2 :: derefFact [] ∅ (parens spot) .star 3 := by
    rw [List.flatMap_cons, List.flatMap_singleton, facts_nullingStatement, facts_storeStatement]
    rfl
  obtain ⟨g, hg, -, -, hstraight, hreturns⟩ :=
    exists_graphOf?_simple (n := storing spot) [] "a.c" "f"
      (show _ = some (storeBody spot) from rfl) rfl hsimple
  exact ⟨g, hg, hfacts ▸ hstraight, hreturns⟩

theorem functionName?_storing (spot : Spot) : (storing spot).functionName? = some "f" := by
  have hdeclarator : (writingDeclarator [pointerDeclaration]).functionDeclarator? =
      some (writingDeclarator [pointerDeclaration]) := by
    rw [functionDeclarator?]
    rfl
  unfold functionName? definedDeclarator?
  show ((functionDeclarator? (writingDeclarator [pointerDeclaration])).bind _) = _
  rw [hdeclarator]
  show declaredName? _ = _
  rw [declaredName?]

/-- The source has the graph of its definition and no other. -/
theorem graphs_storing (spot : Spot) : ∃ g, (C.Source.storing spot).graphs "a.c" [] = [g] ∧
    g.IsStraight (.assign "p" .null 2 :: derefFact [] ∅ (parens spot) .star 3) ∧
    ∀ (b : BlockId) (block : Block), g.blocks[b]? = some block → block.terminator = .returning := by
  obtain ⟨g, hg, hstraight, hterminator⟩ := graphOf?_storing spot
  have hdefinition : (storing spot).functionDefinitions = [storing spot] := by
    rw [functionDefinitions_eq]
    rfl
  have hdefinitions : (storingUnit spot).functionDefinitions = [storing spot] := by
    rw [functionDefinitions_eq]
    show (storing spot).functionDefinitions ++ [] = _
    rw [hdefinition, List.append_nil]
  refine ⟨g, ?_, hstraight, hterminator⟩
  show (storingUnit spot).functionDefinitions.filterMap _ = _
  rw [hdefinitions, List.filterMap_cons, functionName?_storing, Option.bind_some, hg]
  rfl

end C.Node

namespace CheckOptions

/-- Without a comment the store is found to dereference null. -/
theorem checkSource_storing_nowhere :
    ({} : CheckOptions).checkSource (C.Source.storing .nowhere) "a.c" ≠ [] := by
  obtain ⟨g, hgraphs, hstraight, -⟩ := C.Node.graphs_storing .nowhere
  obtain ⟨block, hblock⟩ := Graph.exists_getElem?_of_mem_blocks hstraight.entry_mem
  have hfacts : block.facts = [.assign "p" .null 2] ++ .deref "p" .star 3 :: [] := by
    rw [hstraight.facts_eq hblock,
      C.Node.derefFact_of_plainVariable? C.Node.plainVariable?_parens]
    rfl
  have hnull (known : Summaries) : (NullState.afterAll known ∅ [.assign "p" .null 2])["p"]? =
      some (.null ⟨2, .assignZero⟩) := Std.ExtTreeMap.getElem?_insert_self
  obtain ⟨o, hfinding⟩ := ForwardNull.exists_finding_of_along (.nil hstraight.entry_mem) rfl hblock
    hfacts (.deref .star 3) (hnull (({} : CheckOptions).summaries [g]))
  obtain ⟨x, hx, -⟩ := exists_mem_check (o := {}) (List.mem_singleton_self g)
    (mem_findingsIn.mpr (Or.inl ⟨rfl, hfinding⟩))
  unfold checkSource
  rw [hgraphs]
  exact List.ne_nil_of_mem hx

/-- With a comment in front of the variable nothing is found. -/
theorem checkSource_storing_before :
    ({} : CheckOptions).checkSource (C.Source.storing .before) "a.c" = [] := by
  obtain ⟨g, hgraphs, hstraight, hterminator⟩ := C.Node.graphs_storing .before
  have hnone (known : Summaries) : ({} : CheckOptions).findingsIn known g = [] := by
    refine findingsIn_eq_nil (fun b block hb f hf v hderef => ?_) fun b block hb _ _ _ => ?_
    · rw [hstraight.facts_eq hb, C.Node.derefFact_eq_nil C.Node.plainVariable?_parens_before,
        List.mem_singleton] at hf
      rw [hf] at hderef
      cases hderef
    · rw [hterminator b block hb]
      exact nofun
  refine List.eq_nil_iff_forall_not_mem.mpr fun x hx => ?_
  unfold checkSource at hx
  rw [hgraphs] at hx
  obtain ⟨h, hh, hx⟩ := mem_check hx
  rw [List.mem_singleton.mp hh, hnone] at hx
  exact List.not_mem_nil hx

/-- **A comment in front of the variable hides it**, and with it the defect. -/
theorem checkSource_hidden :
    C.Commented (fun _ _ => True) [C.Node.storingUnit .nowhere] [C.Node.storingUnit .before] ∧
      ({} : CheckOptions).checkSource (C.Source.storing .nowhere) "a.c" ≠
        ({} : CheckOptions).checkSource (C.Source.storing .before) "a.c" := by
  refine ⟨C.Node.commented_storingUnit (fun _ => trivial) .before fun _ _ => trivial, ?_⟩
  rw [checkSource_storing_before]
  exact checkSource_storing_nowhere

end CheckOptions

end NullFlow
