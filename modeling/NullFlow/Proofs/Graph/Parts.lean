import NullFlow.Graph.OfFunction

/-!
# The statements that a graph is made of

The construction takes a statement apart and goes on with its **parts** (`Node.substatements`). The
statements it comes to in this way, from a whole body on, are what the graph is made of
(`Node.reached`). It does not come to what stands inside of an expression or between the lines of a
conditional of the preprocessor, which are kept as one statement each, nor to what stands in the
body of a switch outside of its cases.
-/

namespace NullFlow.C.Node

variable {n c m : Node}

/-- The branch after `else`, without the clause it is wrapped in. -/
def elseStatements (n : Node) : List Node :=
  match n.child? .alternative with
  | some c => if c.kind == .elseClause then c.namedChildren else [c]
  | none => []

/-- **The parts of a statement**: the statements in it that the construction goes on with, in the
order in which it does. -/
def substatements (n : Node) : List Node :=
  match n.kind with
  | .compoundStatement => n.namedChildren
  | .ifStatement => (n.child? .consequence).toList ++ n.elseStatements
  | .whileStatement | .doStatement | .forStatement => (n.child? .body).toList
  | .switchStatement => (Build.casesOf n).flatMap Build.caseStatements
  | .labeledStatement => n.namedChildren.filter (·.kind != .statementIdentifier)
  | _ => []

/-- The statements with parts. -/
def constructs : List Kind :=
  [.compoundStatement, .ifStatement, .whileStatement, .doStatement, .forStatement,
   .switchStatement, .labeledStatement]

theorem substatements_eq_nil (h : n.kind ∉ constructs) : n.substatements = [] := by
  unfold substatements
  split
  case h_8 => rfl
  all_goals
    next hkind =>
      rw [hkind] at h
      exact absurd (by decide) h

theorem sizeOf_of_mem_elseStatements (h : c ∈ n.elseStatements) : sizeOf c < sizeOf n := by
  unfold elseStatements at h
  split at h
  · next d hd =>
    split at h
    · exact Nat.lt_trans (sizeOf_namedChildren h) (sizeOf_child? hd)
    · rw [List.mem_singleton.mp h]
      exact sizeOf_child? hd
  · exact absurd h List.not_mem_nil

/-- A part is smaller than the statement. -/
theorem sizeOf_substatements (h : c ∈ n.substatements) : sizeOf c < sizeOf n := by
  unfold substatements at h
  split at h
  · exact sizeOf_namedChildren h
  · rcases List.mem_append.mp h with h | h
    · exact sizeOf_child? (Option.mem_toList.mp h)
    · exact sizeOf_of_mem_elseStatements h
  · exact sizeOf_child? (Option.mem_toList.mp h)
  · exact sizeOf_child? (Option.mem_toList.mp h)
  · exact sizeOf_child? (Option.mem_toList.mp h)
  · obtain ⟨d, hd, hc⟩ := List.mem_flatMap.mp h
    exact Nat.lt_trans (Build.sizeOf_caseStatements hc) (Build.sizeOf_casesOf hd)
  · exact sizeOf_namedChildren (List.mem_filter.mp h).1
  · exact absurd h List.not_mem_nil

/-- **The statements that the construction comes to**, the whole one first. -/
def reached (n : Node) : List Node := n :: n.substatements.attach.flatMap fun ⟨c, _⟩ => c.reached
termination_by sizeOf n
decreasing_by exact sizeOf_substatements ‹_›

theorem reached_eq (n : Node) : n.reached = n :: n.substatements.flatMap reached := by
  rw [reached, List.flatMap_subtype (fun _ _ => rfl), List.unattach_attach]

theorem self_mem_reached (n : Node) : n ∈ n.reached := by
  rw [reached_eq]
  exact List.mem_cons_self

theorem mem_reached_of_substatements (hc : c ∈ n.substatements) (hm : m ∈ c.reached) :
    m ∈ n.reached := by
  rw [reached_eq]
  exact List.mem_cons_of_mem n (List.mem_flatMap.mpr ⟨c, hc, hm⟩)

/-! ## Jumps and labels -/

/-- A jump as a statement of a graph. It has no facts. -/
def jump (n : Node) : Statement := ⟨n.line, .controlFlow, n.excerpt, []⟩

/-- The name of the label that stands at a statement or that it jumps to. -/
def labelName (n : Node) : String := (n.child? .label).elim "" (·.excerpt)

/-- **The labels that a statement defines**, as far as the construction comes to them. -/
def definedLabels (n : Node) : List String :=
  (n.reached.filter (·.kind == .labeledStatement)).map labelName

/-- The labels that these statements define themselves. -/
def labelsAmong (ms : List Node) : List String :=
  (ms.filter (·.kind == .labeledStatement)).map labelName

theorem labelsAmong_append (ms ms' : List Node) :
    labelsAmong (ms ++ ms') = labelsAmong ms ++ labelsAmong ms' := by
  simp only [labelsAmong, List.filter_append, List.map_append]

theorem labelsAmong_cons (h : n.kind = .labeledStatement) (ms : List Node) :
    labelsAmong (n :: ms) = n.labelName :: labelsAmong ms := by
  simp only [labelsAmong, List.filter_cons, h, BEq.rfl, if_true, List.map_cons]

theorem labelsAmong_cons_of_ne (h : n.kind ≠ .labeledStatement) (ms : List Node) :
    labelsAmong (n :: ms) = labelsAmong ms := by
  rw [labelsAmong, List.filter_cons, if_neg (mt beq_iff_eq.mp h)]
  rfl

/-- The statements in the body of a switch that stand outside of its cases. -/
def looseStatements (n : Node) : List Node :=
  match n.kind with
  | .switchStatement =>
    (n.child? .body).elim [] fun body => body.namedChildren.filter (·.kind != .caseStatement)
  | _ => []

/-- **The statements that the construction passes over**: those in the bodies of switches outside of
their cases. -/
def strays (n : Node) : List Node := n.reached.flatMap looseStatements

/-! ## Conditions -/

/-- **Every statement that needs a condition has one.** -/
def HasConditions (n : Node) : Prop :=
  ∀ m ∈ n.reached, m.kind = .ifStatement ∨ m.kind = .whileStatement ∨ m.kind = .doStatement →
    (m.child? .condition).isSome

theorem HasConditions.of_substatements (h : n.HasConditions) (hc : c ∈ n.substatements) :
    c.HasConditions :=
  fun m hm => h m (mem_reached_of_substatements hc hm)

theorem HasConditions.exists_condition (h : n.HasConditions)
    (hn : n.kind = .ifStatement ∨ n.kind = .whileStatement ∨ n.kind = .doStatement) :
    ∃ c, n.child? .condition = some c :=
  Option.isSome_iff_exists.mp (h n n.self_mem_reached hn)

/-! ## Definitions -/

theorem functionDefinitions_eq (n : Node) : n.functionDefinitions =
    if n.kind == .functionDefinition then [n]
    else n.namedChildren.flatMap functionDefinitions := by
  rw [functionDefinitions, List.flatMap_subtype (fun _ _ => rfl), List.unattach_attach]

end NullFlow.C.Node
