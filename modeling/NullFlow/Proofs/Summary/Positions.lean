import NullFlow.Graph.OfFunction
import NullFlow.Proofs.Expression.Mandatory
import NullFlow.Proofs.Summary.Grounded

/-!
# Positions of parameters and of arguments

A call binds its arguments to the declared parameters, position by position. A summary counts
positions in the list of *named* parameters, and a declaration that names no variable, such as that
of a pointer to a function, is left out there. So the parameters behind it move forward.

For a parameter that its function surely dereferences, a call is therefore taken to dereference the
argument whose position is the number of named parameters in front of the parameter
(`Node.namedBefore`). This is the argument that is bound to the parameter if all of these have
names (`Node.namedBefore_eq_iff`), and the argument of another parameter if not.
-/

namespace NullFlow

/-- Where the values of a list go when the entries without a value are left out: each to the number
of values in front of it. -/
theorem getElem?_filterMap_iff {α β : Type} {f : α → Option β} {l : List α} {k : Nat} {b : β} :
    (l.filterMap f)[k]? = some b ↔
      ∃ i, l[i]?.bind f = some b ∧ (l.take i).countP (fun a => (f a).isSome) = k := by
  induction l generalizing k with
  | nil => simp
  | cons a l ih =>
    -- the position in the list is the first one or lies behind it
    have hcases : (∃ i, (a :: l)[i]?.bind f = some b ∧
          ((a :: l).take i).countP (fun a => (f a).isSome) = k) ↔
        (f a = some b ∧ 0 = k) ∨ ∃ i, l[i]?.bind f = some b ∧
          (l.take i).countP (fun a => (f a).isSome) + (if (f a).isSome then 1 else 0) = k := by
      simp only [← List.countP_cons]
      constructor
      · rintro ⟨_ | i, hb, hk⟩
        · exact Or.inl ⟨hb, hk⟩
        · exact Or.inr ⟨i, hb, hk⟩
      · rintro (⟨hb, hk⟩ | ⟨i, hb, hk⟩)
        · exact ⟨0, hb, hk⟩
        · exact ⟨i + 1, hb, hk⟩
    rw [hcases, List.filterMap_cons]
    cases ha : f a with
    | none => simp [ih]
    | some c =>
      cases k with
      | zero => simp
      | succ k => simp [ih]

namespace C.Node

/-! ## Declared parameters -/

/-- The declarations in the parameter list of a definition. The `...` at its end is none. -/
def parameterDeclarations (n : Node) : List Node :=
  match n.definedDeclarator?.bind (·.child? .parameters) with
  | some list => list.namedChildren.filter (·.kind == .parameterDeclaration)
  | none => []

/-- The declaration that says that there are no parameters. -/
def isVoid (d : Node) : Bool := (d.child? .declarator).isNone && d.text == "void"

/-- **The declared parameters** of a definition, one for each position. A lone `void` is none. -/
def declaredParameters (n : Node) : List Node :=
  match n.parameterDeclarations with
  | [d] => if d.isVoid then [] else [d]
  | declarations => declarations

/-- The variable declared for a position, if the declaration names one. -/
def parameterAt? (n : Node) (i : Nat) : Option Parameter := n.declaredParameters[i]?.bind parameter?

/-- How many of the parameters in front of a position have names. -/
def namedBefore (n : Node) (i : Nat) : Nat :=
  (n.declaredParameters.take i).countP (·.parameter?.isSome)

theorem parameter?_of_isVoid {d : Node} (h : d.isVoid = true) : d.parameter? = none := by
  unfold isVoid at h
  rw [Bool.and_eq_true, Option.isNone_iff_eq_none] at h
  unfold parameter?
  rw [h.1]
  split <;> rfl

/-- Only declarations declare parameters. -/
theorem functionParameters_eq_filterMap (n : Node) :
    n.functionParameters = n.parameterDeclarations.filterMap parameter? := by
  unfold functionParameters parameterDeclarations
  cases n.definedDeclarator?.bind (·.child? .parameters) with
  | none => rfl
  | some list =>
    show list.namedChildren.filterMap parameter?
      = (list.namedChildren.filter (·.kind == .parameterDeclaration)).filterMap parameter?
    rw [List.filterMap_filter]
    congr 1
    funext d
    unfold parameter?
    by_cases hd : d.kind == .parameterDeclaration
    · rw [if_pos hd, if_pos hd]
    · rw [if_neg hd, if_neg hd]

/-- **The named parameters are the declared ones that have a name.** -/
theorem functionParameters_eq (n : Node) :
    n.functionParameters = n.declaredParameters.filterMap parameter? := by
  rw [functionParameters_eq_filterMap]
  unfold declaredParameters
  split
  · next d hd =>
    rw [hd]
    split
    · next hvoid => rw [List.filterMap_cons, parameter?_of_isVoid hvoid, List.filterMap_nil]
    · rfl
  · rfl

/-- A named parameter stands in the list of them behind those in front of it. -/
theorem getElem?_functionParameters_iff {n : Node} {k : Nat} {p : Parameter} :
    n.functionParameters[k]? = some p ↔ ∃ i, n.parameterAt? i = some p ∧ n.namedBefore i = k := by
  rw [functionParameters_eq]
  exact getElem?_filterMap_iff

/-- **A parameter keeps its position** exactly if all in front of it have names. -/
theorem namedBefore_eq_iff {n : Node} {i : Nat} (h : i ≤ n.declaredParameters.length) :
    n.namedBefore i = i ↔ ∀ j < i, (n.parameterAt? j).isSome := by
  have hlength : (n.declaredParameters.take i).length = i := List.length_take_of_le h
  calc n.namedBefore i = i
      ↔ (n.declaredParameters.take i).countP (·.parameter?.isSome)
          = (n.declaredParameters.take i).length := by rw [hlength]; rfl
    _ ↔ ∀ d ∈ n.declaredParameters.take i, d.parameter?.isSome := List.countP_eq_length
    _ ↔ ∀ j < i, (n.parameterAt? j).isSome := by
      unfold parameterAt?
      constructor
      · intro hall j hj
        rw [List.getElem?_eq_getElem (Nat.lt_of_lt_of_le hj h)]
        exact hall _ (List.mem_take_iff_getElem.mpr ⟨j, by omega, rfl⟩)
      · intro hall d hd
        obtain ⟨j, hj, rfl⟩ := List.mem_take_iff_getElem.mp hd
        have hnamed := hall j (by omega)
        rwa [List.getElem?_eq_getElem (by omega)] at hnamed

end C.Node

/-! ## Arguments -/

/-- **What a call is taken to dereference**: the variables passed in the positions that the
parameters surely dereferenced have among the named ones. -/
theorem Summaries.mem_dereferenced_compute_iff {graphs : List Graph} {function v : String}
    {g : Graph} {args : List (Option String)} (hg : Graph.lastNamed? graphs function = some g) :
    v ∈ (compute graphs).dereferenced function args ↔
      ∃ (k : Nat) (p : Parameter), g.parameters[k]? = some p ∧
      g.SurelyDereferences (rounds graphs graphs.length none).Holds p ∧
      args[k]? = some (some v) := by
  unfold dereferenced
  rw [mem_dereferencedFrom]
  simp only [Nat.zero_add]
  have hknown : ∀ k, (compute graphs).derefsParameter function k = true ↔
      Shows graphs (rounds graphs graphs.length none).Holds function k := by
    intro k
    rw [compute_eq_round]
    exact holds_round_iff
  simp only [hknown]
  constructor
  · rintro ⟨k, ha, g', p, hg', hp, hsure⟩
    rw [hg] at hg'
    cases hg'
    exact ⟨k, p, hp, hsure, ha⟩
  · rintro ⟨k, p, hp, hsure, ha⟩
    exact ⟨k, ha, g, p, hg, hp, hsure⟩

namespace C.Node

variable {nulls : List String} {file function : String} {n : Node} {graphs : List Graph} {g : Graph}

theorem parameters_of_graphOf? (h : n.graphOf? nulls file function = some g) :
    g.parameters = n.functionParameters := by
  unfold graphOf? at h
  simp only [Option.bind_eq_bind, Option.bind_eq_some_iff] at h
  obtain ⟨body, -, ⟨last, s⟩, -, h⟩ := h
  cases h
  rfl

/-- **Whose argument a call is taken to dereference.** A graph lists the parameters that have
names. For a parameter that its function surely dereferences a call is taken to dereference the
argument in the position that the parameter has among the listed ones, and this is its own position
exactly if all parameters in front of it have names. -/
theorem mem_dereferenced_iff (hg : n.graphOf? nulls file function = some g)
    (hlast : Graph.lastNamed? graphs function = some g) :
    g.parameters = n.declaredParameters.filterMap parameter? ∧
      (∀ call : Node, ∀ v, v ∈ (Summaries.compute graphs).dereferenced function
          (call.callArguments.map (·.plainVariable? nulls)) ↔
        ∃ i p a, n.parameterAt? i = some p ∧
          g.SurelyDereferences (Summaries.rounds graphs graphs.length .none).Holds p ∧
          call.callArguments[n.namedBefore i]? = some a ∧ a.plainVariable? nulls = some v) ∧
      ∀ i ≤ n.declaredParameters.length,
        (n.namedBefore i = i ↔ ∀ j < i, (n.parameterAt? j).isSome) := by
  have hparameters : g.parameters = n.functionParameters := parameters_of_graphOf? hg
  refine ⟨hparameters.trans n.functionParameters_eq, fun call v => ?_, fun i => namedBefore_eq_iff⟩
  rw [Summaries.mem_dereferenced_compute_iff hlast, hparameters]
  simp only [getElem?_functionParameters_iff, List.getElem?_map, Option.map_eq_some_iff]
  constructor
  · rintro ⟨k, p, ⟨i, hp, rfl⟩, hsure, a, ha, hv⟩
    exact ⟨i, p, a, hp, hsure, ha, hv⟩
  · rintro ⟨i, p, a, hp, hsure, ha, hv⟩
    exact ⟨_, p, ⟨i, hp, rfl⟩, hsure, a, ha, hv⟩

/-- The statement `*p = 0;` from its parts up, punctuation left out. -/
def writtenValue : Node := ⟨.numberLiteral, some .right, "0", 1, 18, []⟩

def writtenAssignment : Node :=
  ⟨.assignmentExpression, none, "*p = 0", 1, 13,
    [pointee .left, ⟨.token "=", some .operator, "=", 1, 16, []⟩, writtenValue]⟩

def writtenStatement : Node :=
  ⟨.expressionStatement, none, "*p = 0;", 1, 13, [writtenAssignment]⟩

def writtenBody : Node :=
  ⟨.compoundStatement, some .body, "{ *p = 0; }", 1, 11, [writtenStatement]⟩

/-- The definition `void f(…) { *p = 0; }` with the given declarations of parameters. -/
def writingDeclarator (declarations : List Node) : Node :=
  ⟨.functionDeclarator, some .declarator, "f(…)", 1, 6,
    [⟨.identifier, some .declarator, "f", 1, 6, []⟩,
      ⟨.parameterList, some .parameters, "(…)", 1, 7, declarations⟩]⟩

def writing (declarations : List Node) : Node :=
  ⟨.functionDefinition, none, "void f(…) { *p = 0; }", 1, 1,
    [writingDeclarator declarations, writtenBody]⟩

theorem facts_writtenStatement : writtenStatement.facts [] = [.deref "p" .star 1] := by
  have hvalue : writtenValue.factsUnder [] ∅ = [] := by
    rw [factsUnder]
    rfl
  have hplain : (pointee .left).plainVariable? [] = none := by
    rw [plainVariable?]
    rfl
  rw [facts, factsUnder]
  show writtenAssignment.factsUnder [] ∅ ++ [] = _
  rw [List.append_nil, factsUnder_assignment rfl rfl rfl hplain, hvalue, factsUnder_pointee rfl]
  rfl

/-- The graph of such a definition. -/
def written (parameters : List Parameter) : Graph :=
  let s := ((Builder.start "f" "a.c").createBlock "entry").2.setEntry 0
  let t := s.addStatement 0 ⟨1, .assignment "*p", "*p = 0;", [.deref "p" .star 1]⟩
  { ((t.setExit 0).setTerminator 0 .returning).build with startLine := 1, parameters }

theorem graphOf?_writing (declarations : List Node) :
    (writing declarations).graphOf? [] "a.c" "f" =
      some (written (writing declarations).functionParameters) := by
  have hstatement : ∀ s, writtenStatement.appendTo [] 0 s =
      some (0, s.addStatement 0 ⟨1, .assignment "*p", "*p = 0;", [.deref "p" .star 1]⟩) := by
    intro s
    rw [appendTo]
    show Build.appendExpression [] writtenStatement 0 s = _
    unfold Build.appendExpression
    rw [facts_writtenStatement]
    rfl
  have hbody : ∀ s, writtenBody.appendTo [] 0 s = writtenStatement.appendTo [] 0 s := by
    intro s
    rw [appendTo]
    exact bind_pure (writtenStatement.appendTo [] 0 s)
  unfold graphOf?
  show (writtenBody.appendTo [] 0 _).bind _ = _
  rw [hbody, hstatement]
  rfl

/-- It surely dereferences `p` and no other parameter. -/
theorem surelyDereferences_written {parameters : List Parameter} {R : Parameters} {p : Parameter} :
    (written parameters).SurelyDereferences R p ↔ p = ⟨"p", true⟩ := by
  have hstraight : (written parameters).IsStraight [.deref "p" .star 1] :=
    ⟨rfl, rfl, rfl, _, rfl, rfl⟩
  obtain ⟨name, isPointer⟩ := p
  rw [hstraight.surelyDereferences_iff, Parameter.mk.injEq]
  simp only [List.mem_singleton, forall_eq, exists_eq_left, Fact.dereferencesBy_deref_iff]
  constructor
  · rintro ⟨hpointer, -, hname⟩
    exact ⟨hname.symm, hpointer⟩
  · rintro ⟨rfl, rfl⟩
    exact ⟨rfl, by rintro ⟨⟩, rfl⟩

/-- The call `f(a, b)`, punctuation left out. -/
def firstArgument : Node := ⟨.identifier, none, "a", 1, 3, []⟩

def secondArgument : Node := ⟨.identifier, none, "b", 1, 6, []⟩

def calledWithTwo : Node :=
  ⟨.callExpression, none, "f(a, b)", 1, 1, [⟨.identifier, some .function, "f", 1, 1, []⟩,
    ⟨.argumentList, some .arguments, "(a, b)", 1, 2, [firstArgument, secondArgument]⟩]⟩

/-- The declaration `int *p`, punctuation left out. -/
def pointerDeclaration : Node :=
  ⟨.parameterDeclaration, none, "int *p", 1, 15, [⟨.primitiveType, some .type, "int", 1, 15, []⟩,
    ⟨.pointerDeclarator, some .declarator, "*p", 1, 19,
      [⟨.identifier, some .declarator, "p", 1, 20, []⟩]⟩]⟩

theorem parameter?_pointerDeclaration : pointerDeclaration.parameter? = some ⟨"p", true⟩ := by
  unfold parameter?
  show (declaredName? _).map (Parameter.mk · (declaresPointer _)) = _
  rw [declaredName?, declaresPointer]
  show (declaredName? _).map (Parameter.mk · true) = _
  rw [declaredName?]
  rfl

/-- The declaration `int n`, punctuation left out. -/
def countDeclaration : Node :=
  ⟨.parameterDeclaration, none, "int n", 1, 8, [⟨.primitiveType, some .type, "int", 1, 8, []⟩,
    ⟨.identifier, some .declarator, "n", 1, 12, []⟩]⟩

/-- The declaration `void (*done)(void)` of a pointer to a function, punctuation left out. -/
def callbackDeclaration : Node :=
  ⟨.parameterDeclaration, none, "void (*done)(void)", 1, 8,
    [⟨.primitiveType, some .type, "void", 1, 8, []⟩,
      ⟨.functionDeclarator, some .declarator, "(*done)(void)", 1, 13,
        [⟨.parenthesizedDeclarator, some .declarator, "(*done)", 1, 13,
          [⟨.pointerDeclarator, none, "*done", 1, 14,
            [⟨.identifier, some .declarator, "done", 1, 15, []⟩]⟩]⟩,
          ⟨.parameterList, some .parameters, "(void)", 1, 20,
            [⟨.parameterDeclaration, none, "void", 1, 21,
              [⟨.primitiveType, some .type, "void", 1, 21, []⟩]⟩]⟩]⟩]⟩

theorem parameter?_countDeclaration : countDeclaration.parameter? = some ⟨"n", false⟩ := by
  unfold parameter?
  show (declaredName? _).map (Parameter.mk · (declaresPointer _)) = _
  rw [declaredName?, declaresPointer]
  rfl

theorem parameter?_callbackDeclaration : callbackDeclaration.parameter? = none := by
  unfold parameter?
  show (declaredName? _).map (Parameter.mk · (declaresPointer _)) = _
  rw [declaredName?]
  rfl

theorem parameterDeclarations_writing (declarations : List Node) :
    (writing declarations).parameterDeclarations =
      (declarations.filter isNamed).filter (·.kind == .parameterDeclaration) := by
  have hdefined : (writing declarations).definedDeclarator?
      = some (writingDeclarator declarations) := by
    unfold definedDeclarator?
    show (writingDeclarator declarations).functionDeclarator? = _
    rw [functionDeclarator?]
    rfl
  unfold parameterDeclarations
  rw [hdefined]
  rfl

theorem declaredParameters_writing {first second : Node}
    (hfirst : first.kind = .parameterDeclaration) (hsecond : second.kind = .parameterDeclaration) :
    (writing [first, second]).declaredParameters = [first, second] := by
  unfold declaredParameters
  rw [parameterDeclarations_writing]
  simp [isNamed, hfirst, hsecond]

theorem lastNamed?_written (parameters : List Parameter) :
    Graph.lastNamed? [written parameters] "f" = some (written parameters) :=
  Graph.lastNamed?_singleton (written parameters)

theorem mem_dereferenced_named :
    (writing [countDeclaration, pointerDeclaration]).graphOf? [] "a.c" "f"
        = some (written [⟨"n", false⟩, ⟨"p", true⟩]) ∧
      "b" ∈ (Summaries.compute [written [⟨"n", false⟩, ⟨"p", true⟩]]).dereferenced "f"
        (calledWithTwo.callArguments.map (·.plainVariable? [])) := by
  have hdeclared : (writing [countDeclaration, pointerDeclaration]).declaredParameters
      = [countDeclaration, pointerDeclaration] := declaredParameters_writing rfl rfl
  have hgraph := graphOf?_writing [countDeclaration, pointerDeclaration]
  simp only [functionParameters_eq, hdeclared, List.filterMap_cons, List.filterMap_nil,
    parameter?_countDeclaration, parameter?_pointerDeclaration] at hgraph
  obtain ⟨-, hblame, hposition⟩ := mem_dereferenced_iff hgraph (lastNamed?_written _)
  have hcount : (writing [countDeclaration, pointerDeclaration]).namedBefore 1 = 1 := by
    refine (hposition 1 (by rw [hdeclared]; decide)).mpr fun j hj => ?_
    cases Nat.lt_one_iff.mp hj
    unfold parameterAt?
    rw [hdeclared]
    exact Option.isSome_of_eq_some parameter?_countDeclaration
  refine ⟨hgraph, (hblame calledWithTwo "b").mpr ⟨1, ⟨"p", true⟩, secondArgument, ?_,
    surelyDereferences_written.mpr rfl, ?_, plainVariable?_identifier rfl rfl⟩⟩
  · unfold parameterAt?
    rw [hdeclared]
    exact parameter?_pointerDeclaration
  · rw [hcount]
    rfl

/-- **A pointer to a function in front of the parameter** moves the blame: of the parameters
`(void (*done)(void), int *p)` the second one is surely dereferenced, and `f(a, b)` is taken to
dereference `a`. -/
theorem dereferenced_callback :
    ∃ g, (writing [callbackDeclaration, pointerDeclaration]).graphOf? [] "a.c" "f" = some g ∧
      (writing [callbackDeclaration, pointerDeclaration]).parameterAt? 1 = some ⟨"p", true⟩ ∧
      g.SurelyDereferences (Summaries.rounds [g] 1 .none).Holds ⟨"p", true⟩ ∧
      ∀ v, v ∈ (Summaries.compute [g]).dereferenced "f"
        (calledWithTwo.callArguments.map (·.plainVariable? [])) ↔ v = "a" := by
  have hdeclared : (writing [callbackDeclaration, pointerDeclaration]).declaredParameters
      = [callbackDeclaration, pointerDeclaration] := declaredParameters_writing rfl rfl
  have hgraph := graphOf?_writing [callbackDeclaration, pointerDeclaration]
  simp only [functionParameters_eq, hdeclared, List.filterMap_cons, List.filterMap_nil,
    parameter?_callbackDeclaration, parameter?_pointerDeclaration] at hgraph
  have hfirst : (calledWithTwo.callArguments.map (·.plainVariable? []))[0]? = some (some "a") :=
    congrArg some (plainVariable?_identifier rfl rfl)
  refine ⟨_, hgraph, ?_, surelyDereferences_written.mpr rfl, fun v => ?_⟩
  · unfold parameterAt?
    rw [hdeclared]
    exact parameter?_pointerDeclaration
  · rw [Summaries.mem_dereferenced_compute_iff (lastNamed?_written _)]
    constructor
    · rintro ⟨k, p, hp, -, ha⟩
      -- the only named parameter is the first one
      obtain ⟨rfl, rfl⟩ : k = 0 ∧ p = ⟨"p", true⟩ := by
        cases k with
        | zero => exact ⟨rfl, (Option.some.inj hp).symm⟩
        | succ k => cases hp
      rw [hfirst] at ha
      cases ha
      rfl
    · rintro rfl
      exact ⟨0, ⟨"p", true⟩, rfl, surelyDereferences_written.mpr rfl, hfirst⟩

end C.Node

end NullFlow
