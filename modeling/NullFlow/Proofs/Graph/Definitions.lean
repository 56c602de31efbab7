import NullFlow.Proofs.Graph.Gains

/-!
# Which definitions have a graph

The name of a function stands at the end of a chain of declarators (`Node.declarators`): of the
pointers of its result, of the function itself, of the parentheses around its name. The search for
the name goes in two legs, to the declarator of a function by roles alone, and from there on through
all declarators but those of functions. It finds the name that is declared, or none: the name has to
be **in plain sight** (`Node.isPlainlyNamed`). It is not if the function returns a pointer to a
function or to an array, for its own declarator stands in parentheses then, in which the first leg
finds no role to follow.

A definition without a name is passed over. The others have one graph each, in the order of the
source (`Source.graphs_exact`), because the construction fails on none of them.
-/

namespace NullFlow

namespace C.Node

variable {n d : Node}

/-! ## The definitions in the order of the source -/

/-- **The nodes of a tree in the order of the source**, each with the kinds of the nodes around it,
the innermost first. Bare tokens have no parts and are left out. -/
def occurrences (above : List Kind) (n : Node) : List (Node × List Kind) :=
  (n, above) :: n.namedChildren.attach.flatMap fun ⟨c, _⟩ => c.occurrences (n.kind :: above)
termination_by sizeOf n
decreasing_by exact sizeOf_namedChildren ‹_›

theorem occurrences_eq (above : List Kind) (n : Node) : n.occurrences above =
    (n, above) :: n.namedChildren.flatMap (occurrences (n.kind :: above)) := by
  rw [occurrences, List.flatMap_subtype (fun _ _ => rfl), List.unattach_attach]

/-- Whether a node with these kinds around it is a definition that stands in no other one. -/
def isOutermost (o : Node × List Kind) : Bool :=
  o.1.kind == .functionDefinition && !o.2.contains .functionDefinition

/-- **The definitions of functions that stand in no other one**, in the order of the source. -/
def outermostDefinitions (n : Node) : List Node :=
  ((n.occurrences []).filter isOutermost).map (·.1)

/-- Inside of a definition there is no outermost one. -/
theorem filter_isOutermost_eq_nil {above : List Kind} (h : .functionDefinition ∈ above) (n : Node) :
    (n.occurrences above).filter isOutermost = [] := by
  have hself : isOutermost (n, above) = false := by simp [isOutermost, h]
  rw [occurrences_eq, List.filter_cons, hself, if_neg Bool.false_ne_true, List.filter_flatMap,
    List.flatMap_eq_nil_iff]
  exact fun c hc => filter_isOutermost_eq_nil (List.mem_cons_of_mem _ h) c
termination_by sizeOf n
decreasing_by exact sizeOf_namedChildren hc

theorem map_filter_isOutermost {above : List Kind} (h : .functionDefinition ∉ above) (n : Node) :
    ((n.occurrences above).filter isOutermost).map (·.1) = n.functionDefinitions := by
  rw [occurrences_eq, functionDefinitions_eq, List.filter_cons, List.filter_flatMap]
  by_cases hkind : n.kind = .functionDefinition
  · have hself : isOutermost (n, above) = true := by simp [isOutermost, h, hkind]
    have hinside : n.namedChildren.flatMap (fun c =>
        (c.occurrences (n.kind :: above)).filter isOutermost) = [] :=
      List.flatMap_eq_nil_iff.mpr fun c _ =>
        filter_isOutermost_eq_nil (hkind ▸ List.mem_cons_self) c
    rw [if_pos hself, if_pos (beq_iff_eq.mpr hkind), hinside]
    rfl
  · have hself : isOutermost (n, above) = false := by simp [isOutermost, hkind]
    rw [hself, if_neg Bool.false_ne_true, if_neg (mt beq_iff_eq.mp hkind), List.map_flatMap]
    refine List.flatMap_congr fun c hc => map_filter_isOutermost ?_ c
    rw [List.mem_cons]
    exact fun hmem => hmem.elim (fun heq => hkind heq.symm) h
termination_by sizeOf n
decreasing_by exact sizeOf_namedChildren hc

/-- **The walk over a tree comes to the outermost definitions**, in order. -/
theorem functionDefinitions_eq_outermost (n : Node) :
    n.functionDefinitions = n.outermostDefinitions :=
  (map_filter_isOutermost List.not_mem_nil n).symm

/-! ## The name that is declared -/

/-- The declarators that stand around another one, those of functions left out. -/
def wrappingDeclarators : List Kind :=
  [.pointerDeclarator, .arrayDeclarator, .initDeclarator, .parenthesizedDeclarator,
   .attributedDeclarator]

/-- Whether a node is a declarator with a name in it. -/
def isDeclarator (n : Node) : Bool :=
  n.kind == .identifier || n.kind == .functionDeclarator || wrappingDeclarators.contains n.kind

/-- **The declarator inside of a node**: the child in that role, or else the first child that is a
declarator, whatever stands before it. -/
def nestedDeclarator? (n : Node) : Option Node :=
  (n.child? .declarator).or (n.children.find? isDeclarator)

theorem sizeOf_nestedDeclarator? (h : n.nestedDeclarator? = some d) : sizeOf d < sizeOf n := by
  unfold nestedDeclarator? at h
  rcases Option.or_eq_some_iff.mp h with h | ⟨-, h⟩
  · exact sizeOf_child? h
  · exact sizeOf_lt_of_mem (List.mem_of_find?_eq_some h)

/-- **The chain of declarators** from a node inwards, the node itself first, to the name. -/
def declarators (n : Node) : List Node :=
  n :: if n.kind == .identifier then [] else
    match _h : n.nestedDeclarator? with
    | some d => d.declarators
    | none => []
termination_by sizeOf n
decreasing_by exact sizeOf_nestedDeclarator? ‹_›

/-- **The identifier that a node declares**: what its chain of declarators ends in. -/
def declaredIdentifier? (n : Node) : Option String :=
  n.declarators.getLast?.bind fun d => if d.kind == .identifier then some d.text else none

theorem declarators_identifier (h : n.kind = .identifier) : n.declarators = [n] := by
  rw [declarators, if_pos (beq_iff_eq.mpr h)]

theorem declarators_nested (h : n.kind ≠ .identifier) (hd : n.nestedDeclarator? = some d) :
    n.declarators = n :: d.declarators := by
  rw [declarators, if_neg (mt beq_iff_eq.mp h)]
  split
  · next d' hd' => rw [Option.some.inj (hd'.symm.trans hd)]
  · next hnone => cases hnone.symm.trans hd

theorem self_mem_declarators (n : Node) : n ∈ n.declarators := by
  rw [declarators]
  exact List.mem_cons_self

/-- A node declares what the declarator inside of it declares. -/
theorem declaredIdentifier?_nested (h : n.kind ≠ .identifier)
    (hd : n.nestedDeclarator? = some d) : n.declaredIdentifier? = d.declaredIdentifier? := by
  unfold declaredIdentifier?
  rw [declarators_nested h hd,
    List.getLast?_cons_of_ne_nil (List.ne_nil_of_mem d.self_mem_declarators)]

theorem nestedDeclarator?_of_child? (h : n.child? .declarator = some d) :
    n.nestedDeclarator? = some d := by
  unfold nestedDeclarator?
  rw [h, Option.some_or]

/-- A declarator is a named node. -/
theorem isNamed_of_isDeclarator (h : n.isDeclarator = true) : n.isNamed = true := by
  unfold isNamed
  split
  · next text hkind => simp [isDeclarator, wrappingDeclarators, hkind] at h
  · rfl

/-- Without a child in the role, a declarator in front of all other named children is the one
inside. -/
theorem nestedDeclarator?_of_firstNamed? (hnone : n.child? .declarator = none)
    (h : n.firstNamed? = some d) (hd : d.isDeclarator = true) : n.nestedDeclarator? = some d := by
  unfold nestedDeclarator?
  rw [hnone, Option.none_or]
  obtain ⟨-, before, after, hsplit, hbefore⟩ := List.find?_eq_some_iff_append.mp h
  refine List.find?_eq_some_iff_append.mpr ⟨hd, before, after, hsplit, fun c hc => ?_⟩
  have hnot := hbefore c hc
  rw [Bool.not_eq_true'] at hnot ⊢
  exact Bool.eq_false_iff.mpr fun hc => Bool.eq_false_iff.mp hnot (isNamed_of_isDeclarator hc)

/-! ## Names in plain sight -/

/-- Whether the declarator inside of a node stands there in that role. -/
def hasDeclarator (n : Node) : Bool := (n.child? .declarator).isSome

/-- Whether a declarator lets the search for the name through: it is the name, or it is none of a
function and the declarator inside of it stands there in that role or in front of all else. -/
def letsThrough (n : Node) : Bool :=
  n.kind == .identifier ||
    wrappingDeclarators.contains n.kind && (n.hasDeclarator || n.firstNamed?.any isDeclarator)

/-- Whether the name at the end of a chain of declarators is in plain sight. Up to the first
declarator of a function each node has the declarator inside of it in that role, and so has this
one; from there on everything lets through. -/
def inPlainSight (chain : List Node) : Bool :=
  match chain.dropWhile (·.kind != .functionDeclarator) with
  | f :: inside => (chain.takeWhile (·.kind != .functionDeclarator)).all hasDeclarator &&
      f.hasDeclarator && inside.all letsThrough
  | [] => false

/-- **Whether the name that a definition declares is in plain sight.** -/
def isPlainlyNamed (n : Node) : Bool := inPlainSight n.declarators

theorem inPlainSight_cons_function (h : n.kind = .functionDeclarator) (chain : List Node) :
    inPlainSight (n :: chain) = (n.hasDeclarator && chain.all letsThrough) := by
  simp [inPlainSight, h]

theorem inPlainSight_cons (h : n.kind ≠ .functionDeclarator) (chain : List Node) :
    inPlainSight (n :: chain) = (n.hasDeclarator && inPlainSight chain) := by
  have hkind : (n.kind != .functionDeclarator) = true := bne_iff_ne.mpr h
  unfold inPlainSight
  rw [List.takeWhile_cons, if_pos hkind, List.dropWhile_cons, if_pos hkind]
  cases chain.dropWhile (·.kind != .functionDeclarator) with
  | nil => rw [Bool.and_false]
  | cons f inside => simp only [List.all_cons, Bool.and_assoc]

theorem declaredName?_of_identifier (h : n.kind = .identifier) : n.declaredName? = some n.text := by
  rw [declaredName?]
  simp only [h]

theorem declaredName?_of_wrapping (h : n.kind ∈ wrappingDeclarators) :
    n.declaredName? = n.innerDeclarator?.bind declaredName? := by
  simp only [wrappingDeclarators, List.mem_cons, List.not_mem_nil, or_false] at h
  rw [declaredName?]
  rcases h with h | h | h | h | h
  all_goals
    simp only [h]
    split
    · next d hd => rw [hd, Option.bind_some]
    · next hnone => rw [hnone, Option.bind_none]

theorem declaredName?_eq_none (h : n.kind ≠ .identifier) (hw : n.kind ∉ wrappingDeclarators) :
    n.declaredName? = none := by
  rw [declaredName?]
  split
  all_goals simp_all [wrappingDeclarators]

/-- The second leg follows what lets through to the declarator inside. -/
theorem exists_innerDeclarator? (h : n.letsThrough = true) (hname : n.kind ≠ .identifier) :
    n.kind ∈ wrappingDeclarators ∧
      ∃ d, n.innerDeclarator? = some d ∧ n.nestedDeclarator? = some d := by
  rw [letsThrough, Bool.or_eq_true, beq_iff_eq, Bool.and_eq_true, Bool.or_eq_true] at h
  obtain ⟨hw, h⟩ := h.resolve_left hname
  refine ⟨List.contains_iff_mem.mp hw, ?_⟩
  unfold innerDeclarator?
  cases hchild : n.child? .declarator with
  | some d => exact ⟨d, Option.some_or, nestedDeclarator?_of_child? hchild⟩
  | none =>
    rw [hasDeclarator, hchild, Option.any_eq_true] at h
    obtain ⟨d, hfirst, hd⟩ := h.resolve_left Bool.false_ne_true
    exact ⟨d, Option.none_or.trans hfirst, nestedDeclarator?_of_firstNamed? hchild hfirst hd⟩

/-- What does not let through hides the name. -/
theorem declaredName?_of_hidden (h : n.letsThrough = false) : n.declaredName? = none := by
  rw [letsThrough, Bool.or_eq_false_iff, beq_eq_false_iff_ne] at h
  obtain ⟨hname, h⟩ := h
  by_cases hw : n.kind ∈ wrappingDeclarators
  · rw [List.contains_iff_mem.mpr hw, Bool.true_and, Bool.or_eq_false_iff] at h
    have hchild : n.child? .declarator = none :=
      Option.isNone_iff_eq_none.mp (Option.isSome_eq_false_iff.mp h.1)
    rw [declaredName?_of_wrapping hw, innerDeclarator?, hchild, Option.none_or]
    cases hfirst : n.firstNamed? with
    | none => rfl
    | some c =>
      have hc : c.isDeclarator = false := by
        rw [hfirst] at h
        exact h.2
      simp only [isDeclarator, Bool.or_eq_false_iff, beq_eq_false_iff_ne] at hc
      exact declaredName?_eq_none hc.1.1 fun hmem =>
        Bool.eq_false_iff.mp hc.2 (List.contains_iff_mem.mpr hmem)
  · exact declaredName?_eq_none hname hw

/-- **What the second leg finds** is the identifier that is declared, if all declarators on the way
let through, and otherwise nothing. -/
theorem declaredName?_eq (n : Node) : n.declaredName? =
    if n.declarators.all letsThrough then n.declaredIdentifier? else none := by
  cases hlets : n.letsThrough with
  | false =>
    have hall : n.declarators.all letsThrough = false :=
      List.all_eq_false.mpr ⟨n, n.self_mem_declarators, by rw [hlets]; exact Bool.false_ne_true⟩
    rw [declaredName?_of_hidden hlets, hall, if_neg Bool.false_ne_true]
  | true =>
    by_cases hname : n.kind = .identifier
    · simp [declaredIdentifier?, declarators_identifier hname, declaredName?_of_identifier hname,
        hlets, hname]
    · obtain ⟨hw, d, hinner, hd⟩ := exists_innerDeclarator? hlets hname
      rw [declaredName?_of_wrapping hw, hinner, Option.bind_some, declaredName?_eq d,
        declarators_nested hname hd, declaredIdentifier?_nested hname hd, List.all_cons, hlets,
        Bool.true_and]
termination_by sizeOf n
decreasing_by exact sizeOf_nestedDeclarator? hd

/-- Where everything lets through, a name is declared. -/
theorem exists_declaredIdentifier?_of_all (n : Node) (h : n.declarators.all letsThrough = true) :
    ∃ name, n.declaredIdentifier? = some name := by
  by_cases hname : n.kind = .identifier
  · exact ⟨n.text, by simp [declaredIdentifier?, declarators_identifier hname, hname]⟩
  · obtain ⟨-, d, -, hd⟩ := exists_innerDeclarator?
      (List.all_eq_true.mp h n n.self_mem_declarators) hname
    rw [declarators_nested hname hd, List.all_cons, Bool.and_eq_true] at h
    rw [declaredIdentifier?_nested hname hd]
    exact exists_declaredIdentifier?_of_all d h.2
termination_by sizeOf n
decreasing_by exact sizeOf_nestedDeclarator? hd

/-- The search goes on from a node in any case by the role. -/
theorem hasDeclarator_of_isPlainlyNamed (h : n.isPlainlyNamed = true) : n.hasDeclarator = true := by
  obtain ⟨chain, hchain⟩ : ∃ chain, n.declarators = n :: chain := ⟨_, by rw [declarators]⟩
  rw [isPlainlyNamed, hchain] at h
  by_cases hf : n.kind = .functionDeclarator
  · rw [inPlainSight_cons_function hf, Bool.and_eq_true] at h
    exact h.1
  · rw [inPlainSight_cons hf, Bool.and_eq_true] at h
    exact h.1

/-- **A name in plain sight is declared.** -/
theorem exists_declaredIdentifier? (n : Node) (h : n.isPlainlyNamed = true) :
    ∃ name, n.declaredIdentifier? = some name := by
  obtain ⟨d, hd⟩ := Option.isSome_iff_exists.mp (hasDeclarator_of_isPlainlyNamed h)
  unfold isPlainlyNamed at h
  by_cases hname : n.kind = .identifier
  · rw [declarators_identifier hname, inPlainSight_cons (by rw [hname]; decide),
      Bool.and_eq_true] at h
    cases h.2
  have hnested := nestedDeclarator?_of_child? hd
  rw [declarators_nested hname hnested] at h
  rw [declaredIdentifier?_nested hname hnested]
  by_cases hf : n.kind = .functionDeclarator
  · rw [inPlainSight_cons_function hf, Bool.and_eq_true] at h
    exact exists_declaredIdentifier?_of_all d h.2
  · rw [inPlainSight_cons hf, Bool.and_eq_true] at h
    exact exists_declaredIdentifier? d h.2
termination_by sizeOf n
decreasing_by exact sizeOf_child? hd

/-- The first leg goes from role to role. -/
theorem functionDeclarator?_of_ne (h : n.kind ≠ .functionDeclarator) :
    n.functionDeclarator? = (n.child? .declarator).bind functionDeclarator? := by
  rw [functionDeclarator?, if_neg (mt beq_iff_eq.mp h)]
  split
  · next d hd => rw [hd, Option.bind_some]
  · next hnone => rw [hnone, Option.bind_none]

/-- The name that the search finds from a node on. -/
def foundName? (n : Node) : Option String :=
  n.functionDeclarator?.bind fun f => (f.child? .declarator).bind declaredName?

/-- **What the search finds** is the identifier that is declared, if it is in plain sight, and
otherwise nothing. -/
theorem foundName?_eq (n : Node) (h : ∃ f ∈ n.declarators, f.kind = .functionDeclarator) :
    n.foundName? = if n.isPlainlyNamed then n.declaredIdentifier? else none := by
  have hname : n.kind ≠ .identifier := by
    rintro hname
    obtain ⟨f, hf, hkind⟩ := h
    rw [declarators_identifier hname, List.mem_singleton] at hf
    cases hname.symm.trans (hf ▸ hkind)
  cases hchild : n.child? .declarator with
  | none =>
    have hhidden : n.isPlainlyNamed ≠ true := fun hplain => by
      have hhas := hasDeclarator_of_isPlainlyNamed hplain
      rw [hasDeclarator, hchild] at hhas
      cases hhas
    rw [if_neg hhidden, foundName?]
    by_cases hf : n.kind = .functionDeclarator
    · rw [functionDeclarator?, if_pos (beq_iff_eq.mpr hf), Option.bind_some, hchild]
      rfl
    · rw [functionDeclarator?_of_ne hf, hchild]
      rfl
  | some d =>
    have hhas : n.hasDeclarator = true := by rw [hasDeclarator, hchild]; rfl
    have hnested := nestedDeclarator?_of_child? hchild
    rw [isPlainlyNamed, declarators_nested hname hnested,
      declaredIdentifier?_nested hname hnested, foundName?]
    by_cases hf : n.kind = .functionDeclarator
    · rw [functionDeclarator?, if_pos (beq_iff_eq.mpr hf), Option.bind_some, hchild,
        Option.bind_some, declaredName?_eq, inPlainSight_cons_function hf, hhas, Bool.true_and]
    · obtain ⟨f, hmem, hkind⟩ := h
      rw [declarators_nested hname hnested] at hmem
      have hd : f ∈ d.declarators := (List.mem_cons.mp hmem).resolve_left fun heq =>
        hf (heq ▸ hkind)
      rw [functionDeclarator?_of_ne hf, hchild, Option.bind_some, inPlainSight_cons hf, hhas,
        Bool.true_and]
      exact foundName?_eq d ⟨f, hd, hkind⟩
termination_by sizeOf n
decreasing_by exact sizeOf_child? hchild

/-! ## The graphs of a source -/

/-- **A definition of a function**: it declares a function, and it has a body in which no condition
is missing. -/
structure DefinesFunction (n : Node) : Prop where
  kind_eq : n.kind = .functionDefinition
  exists_declarator : ∃ f ∈ n.declarators, f.kind = .functionDeclarator
  exists_body : ∃ body, n.child? .body = some body ∧ body.HasConditions

theorem DefinesFunction.functionName?_eq (h : n.DefinesFunction) :
    n.functionName? = if n.isPlainlyNamed then n.declaredIdentifier? else none := by
  rw [← foundName?_eq n h.exists_declarator]
  unfold functionName? definedDeclarator? foundName?
  rw [functionDeclarator?_of_ne (by rw [h.kind_eq]; decide)]

/-- The construction fails on no definition. -/
theorem DefinesFunction.exists_graphOf? (h : n.DefinesFunction) (nulls : List String)
    (file function : String) : ∃ g, n.graphOf? nulls file function = some g := by
  obtain ⟨body, hbody, hconditions⟩ := h.exists_body
  have hbrings : Build.Brings (body.keptFacts nulls) (body.appendTo nulls) :=
    brings_appendTo hconditions
  obtain ⟨last, t, hrun, -⟩ := hbrings (.refl (.begun function file)) Nat.one_pos
  exact ⟨_, graphOf?_of_run hbody hrun⟩

end C.Node

/-- **No definition whose name is in plain sight is lost.** The graphs of a source are those of the
outermost definitions whose names are in plain sight: one for each, in the order of the source,
under the identifier that the definition declares. The other definitions have none. -/
theorem C.Source.graphs_exact {s : C.Source}
    (h : ∀ n ∈ s.root.outermostDefinitions, n.DefinesFunction) (file : String)
    (nulls : List String) :
    List.Forall₂ (fun n g => ∃ name, n.declaredIdentifier? = some name ∧ g.function = name ∧
        n.graphOf? nulls file name = some g)
      (s.root.outermostDefinitions.filter (·.isPlainlyNamed)) (s.graphs file nulls) := by
  unfold Source.graphs
  rw [s.root.functionDefinitions_eq_outermost]
  generalize s.root.outermostDefinitions = definitions at h ⊢
  induction definitions with
  | nil => exact .nil
  | cons n rest ih =>
    have hn := h n List.mem_cons_self
    have hrest := ih fun m hm => h m (List.mem_cons_of_mem n hm)
    have hfound := hn.functionName?_eq
    cases hplain : n.isPlainlyNamed with
    | true =>
      obtain ⟨name, hname⟩ := n.exists_declaredIdentifier? hplain
      obtain ⟨g, hg⟩ := hn.exists_graphOf? nulls file name
      rw [hplain, if_pos rfl, hname] at hfound
      rw [List.filter_cons, if_pos hplain,
        List.filterMap_cons_some (by rw [hfound, Option.bind_some, hg])]
      exact .cons ⟨name, hname, congrArg Prod.snd (Node.names_of_graphOf? hg), hg⟩ hrest
    | false =>
      rw [hplain, if_neg Bool.false_ne_true] at hfound
      rw [List.filter_cons, hplain, if_neg Bool.false_ne_true,
        List.filterMap_cons_none (by rw [hfound, Option.bind_none])]
      exact hrest

namespace C.Node

/-- The definition `int *(f)(void) { return 0; }`, punctuation left out. -/
def parenthesizedName : Node :=
  ⟨.parenthesizedDeclarator, some .declarator, "(f)", 1, 6, [⟨.identifier, none, "f", 1, 7, []⟩]⟩

def namedFunction : Node :=
  ⟨.functionDeclarator, some .declarator, "(f)(void)", 1, 6,
    [parenthesizedName, ⟨.parameterList, some .parameters, "(void)", 1, 9, []⟩]⟩

def pointingDeclarator : Node :=
  ⟨.pointerDeclarator, some .declarator, "*(f)(void)", 1, 5, [namedFunction]⟩

def returningZero : Node :=
  ⟨.compoundStatement, some .body, "\x7b return 0; \x7d", 1, 16,
    [⟨.returnStatement, none, "return 0;", 1, 18, [⟨.numberLiteral, none, "0", 1, 25, []⟩]⟩]⟩

def pointing : Node :=
  ⟨.functionDefinition, none, "int *(f)(void) \x7b return 0; \x7d", 1, 1,
    [⟨.primitiveType, some .type, "int", 1, 1, []⟩, pointingDeclarator, returningZero]⟩

/-- The definition in a block of the language C. -/
def linked : Node :=
  ⟨.translationUnit, none, "extern \"C\" \x7b int *(f)(void) \x7b return 0; \x7d \x7d", 1, 1,
    [⟨.linkageSpecification, none, "extern \"C\" \x7b int *(f)(void) \x7b return 0; \x7d \x7d",
      1, 1,
      [⟨.stringLiteral, some .value, "\"C\"", 1, 8, []⟩,
        ⟨.declarationList, some .body, "\x7b int *(f)(void) \x7b return 0; \x7d \x7d", 1, 12,
          [pointing]⟩]⟩]⟩

theorem hasConditions_returningZero : returningZero.HasConditions := by
  intro m hm hkind
  rw [reached_eq, List.mem_cons] at hm
  rcases hm with rfl | hm
  · revert hkind
    decide
  · obtain ⟨c, hc, hm⟩ := List.mem_flatMap.mp hm
    rw [List.mem_singleton.mp hc, reached_eq] at hm
    rw [List.mem_singleton.mp hm] at hkind ⊢
    revert hkind
    decide

theorem declarators_pointing : pointing.declarators =
    [pointing, pointingDeclarator, namedFunction, parenthesizedName,
      ⟨.identifier, none, "f", 1, 7, []⟩] := by
  rw [declarators_nested (by decide) rfl, declarators_nested (by decide) rfl,
    declarators_nested (by decide) rfl, declarators_nested (by decide) rfl,
    declarators_identifier rfl]

theorem outermostDefinitions_linked : linked.outermostDefinitions = [pointing] := by
  rw [← functionDefinitions_eq_outermost, functionDefinitions_eq]
  show functionDefinitions _ ++ [] = _
  rw [List.append_nil, functionDefinitions_eq]
  show functionDefinitions _ ++ (functionDefinitions _ ++ []) = _
  rw [functionDefinitions_eq, List.append_nil, functionDefinitions_eq]
  show [] ++ (functionDefinitions _ ++ []) = _
  rw [functionDefinitions_eq]
  rfl

theorem definesFunction_pointing : pointing.DefinesFunction where
  kind_eq := rfl
  exists_declarator := ⟨namedFunction, by simp [declarators_pointing], rfl⟩
  exists_body := ⟨returningZero, rfl, hasConditions_returningZero⟩

end C.Node

theorem C.Source.graphs_exact_linked :
    (∀ n ∈ C.Node.linked.outermostDefinitions, n.DefinesFunction) ∧
      C.Node.linked.outermostDefinitions.filter (·.isPlainlyNamed) = [C.Node.pointing] ∧
      List.Forall₂ (fun n g => ∃ name, n.declaredIdentifier? = some name ∧ g.function = name ∧
          n.graphOf? [] "a.c" name = some g)
        (C.Node.linked.outermostDefinitions.filter (·.isPlainlyNamed))
        ((⟨C.Node.linked.text, C.Node.linked⟩ : C.Source).graphs "a.c" []) := by
  have hdefines : ∀ n ∈ C.Node.linked.outermostDefinitions, n.DefinesFunction := by
    rw [C.Node.outermostDefinitions_linked]
    exact fun n hn => List.mem_singleton.mp hn ▸ C.Node.definesFunction_pointing
  have hplain : C.Node.pointing.isPlainlyNamed = true := by
    rw [C.Node.isPlainlyNamed, C.Node.declarators_pointing]
    rfl
  refine ⟨hdefines, ?_, graphs_exact (s := ⟨C.Node.linked.text, C.Node.linked⟩) hdefines "a.c" []⟩
  rw [C.Node.outermostDefinitions_linked, List.filter_cons, if_pos hplain]
  rfl

namespace C.Node

/-! ### A function that returns a function -/

/-- The definition `int (*f(void))(void) { return 0; }`, punctuation left out. -/
def innerFunction : Node :=
  ⟨.functionDeclarator, some .declarator, "f(void)", 1, 7,
    [⟨.identifier, some .declarator, "f", 1, 7, []⟩,
      ⟨.parameterList, some .parameters, "(void)", 1, 8, []⟩]⟩

def innerPointer : Node :=
  ⟨.pointerDeclarator, none, "*f(void)", 1, 6, [innerFunction]⟩

def groupedPointer : Node :=
  ⟨.parenthesizedDeclarator, some .declarator, "(*f(void))", 1, 5, [innerPointer]⟩

def returnedFunction : Node :=
  ⟨.functionDeclarator, some .declarator, "(*f(void))(void)", 1, 5,
    [groupedPointer, ⟨.parameterList, some .parameters, "(void)", 1, 15, []⟩]⟩

def returningFunction : Node :=
  ⟨.functionDefinition, none, "int (*f(void))(void) \x7b return 0; \x7d", 1, 1,
    [⟨.primitiveType, some .type, "int", 1, 1, []⟩, returnedFunction, returningZero]⟩

def returningUnit : Node :=
  ⟨.translationUnit, none, "int (*f(void))(void) \x7b return 0; \x7d", 1, 1, [returningFunction]⟩

theorem declarators_returningFunction : returningFunction.declarators =
    [returningFunction, returnedFunction, groupedPointer, innerPointer, innerFunction,
      ⟨.identifier, some .declarator, "f", 1, 7, []⟩] := by
  rw [declarators_nested (by decide) rfl, declarators_nested (by decide) rfl,
    declarators_nested (by decide) rfl, declarators_nested (by decide) rfl,
    declarators_nested (by decide) rfl, declarators_identifier rfl]

theorem definesFunction_returningFunction : returningFunction.DefinesFunction where
  kind_eq := rfl
  exists_declarator := ⟨innerFunction, by simp [declarators_returningFunction], rfl⟩
  exists_body := ⟨returningZero, rfl, hasConditions_returningZero⟩

end C.Node

/-- **A definition that is lost**: a function that returns a pointer to a function has no graph,
though it declares its name like any other. -/
theorem C.Source.graphs_returningFunction :
    C.Node.returningUnit.outermostDefinitions = [C.Node.returningFunction] ∧
      C.Node.returningFunction.DefinesFunction ∧
      C.Node.returningFunction.declaredIdentifier? = some "f" ∧
      (⟨C.Node.returningUnit.text, C.Node.returningUnit⟩ : C.Source).graphs "a.c" [] = [] := by
  have hdefinitions : C.Node.returningUnit.functionDefinitions = [C.Node.returningFunction] := by
    rw [C.Node.functionDefinitions_eq]
    show C.Node.functionDefinitions _ ++ [] = _
    rw [C.Node.functionDefinitions_eq]
    rfl
  have hhidden : C.Node.returningFunction.isPlainlyNamed = false := by
    rw [C.Node.isPlainlyNamed, C.Node.declarators_returningFunction]
    rfl
  have hname : C.Node.returningFunction.functionName? = none := by
    rw [C.Node.definesFunction_returningFunction.functionName?_eq, hhidden]
    rfl
  refine ⟨(C.Node.functionDefinitions_eq_outermost _).symm.trans hdefinitions,
    C.Node.definesFunction_returningFunction, ?_, ?_⟩
  · rw [C.Node.declaredIdentifier?, C.Node.declarators_returningFunction]
    rfl
  · show C.Node.returningUnit.functionDefinitions.filterMap _ = _
    rw [hdefinitions, List.filterMap_cons, hname]
    rfl

end NullFlow
