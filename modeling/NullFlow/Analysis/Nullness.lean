import NullFlow.Analysis.Dereference
import NullFlow.Analysis.Solver
import NullFlow.Finding

/-!
# Forward nullness

Follows which variables are null: a variable is null after it was assigned a null constant and on
the side of a condition that says so; it is not null after it was assigned something else, on the
other side of such a condition, and after it was dereferenced, for then the program would have
stopped. A dereference where a variable is null on at least one way is a defect.

The values of a variable, from the most to the least that is known:

* `nonNull` on every way;
* no value: nothing is known;
* `null` on every way, `maybeNull` on at least one, each with the **origin** it came from.

Joining a value with others moves it down: from `nonNull` to no value to `maybeNull`, from `null`
to `maybeNull`, and from an origin to one on an earlier line. `NullState.rank` counts how far.
-/

namespace NullFlow

/-- **Where a variable became null**: an assignment or a condition. -/
structure Origin where
  line : Nat
  tag : EventTag
  deriving DecidableEq, Repr

/-- The origin on the earlier line, the first of two on the same line. -/
def Origin.earliest (a b : Origin) : Origin := if a.line ≤ b.line then a else b

/-- **What is known about a variable.** -/
inductive Nullness where
  | nonNull
  /-- Null on every way to this point. -/
  | null (origin : Origin)
  /-- Null on at least one way to this point. -/
  | maybeNull (origin : Origin)
  deriving DecidableEq, Repr

namespace Nullness

/-- Where the variable became null, if it may be null. -/
def origin? : Nullness → Option Origin
  | .nonNull => none
  | .null o => some o
  | .maybeNull o => some o

/-- Whether the variable is null on every way. -/
def isNull : Nullness → Bool
  | .null _ => true
  | _ => false

/-- **What is known where two ways meet**; no value stands for nothing known. -/
def join : Option Nullness → Option Nullness → Option Nullness
  | none, none => none
  | some x, none => x.origin?.map .maybeNull
  | none, some y => y.origin?.map .maybeNull
  | some .nonNull, some .nonNull => some .nonNull
  | some (.null a), some (.null b) => some (.null (a.earliest b))
  | some x, some y =>
    match x.origin?, y.origin? with
    | some a, some b => some (.maybeNull (a.earliest b))
    | some o, none => some (.maybeNull o)
    | none, some o => some (.maybeNull o)
    | none, none => some .nonNull

/-- How far a value may still move, if no line comes after `last`. -/
def rank (last : Nat) : Option Nullness → Nat
  | some (.maybeNull o) => o.line
  | some (.null o) => last + 1 + o.line
  | none => 2 * last + 2
  | some .nonNull => 2 * last + 3

end Nullness

/-- **What is known about all variables**; a variable without a value is one nothing is known
about. -/
abbrev NullState := Std.ExtTreeMap String Nullness

namespace NullState

/-- **What is known where two ways meet**, variable by variable. -/
def join (s t : NullState) : NullState :=
  s.filterMap (fun v x => Nullness.join (some x) t[v]?)
    ∪ t.filterMap fun v y => if v ∈ s then none else Nullness.join none (some y)

/-- How far a state may still move in a graph: the sum over its variables. -/
def rank (vars : List String) (last : Nat) (s : NullState) : Nat :=
  total (vars.map fun v => Nullness.rank last s[v]?)

/-- **What is known after a fact.** -/
def after (known : Summaries) (s : NullState) (f : Fact) : NullState :=
  match f with
  | .assign var .null line => s.insert var (.null ⟨line, .assignZero⟩)
  | .assign var .nonNull _ => s.insert var .nonNull
  | .assign var .unknown _ => s.erase var
  | f => (f.dereferences known).foldl (fun s d => s.insert d.var .nonNull) s

/-- What is known after several facts. -/
def afterAll (known : Summaries) (s : NullState) (fs : List Fact) : NullState :=
  fs.foldl (after known) s

/-- **What is known once a condition had an outcome**, none if it cannot have had it: a variable it
makes null is known not to be, or one it makes non-null is known to be null. -/
def assume (s : NullState) (line : Nat) (nulls nonNulls : Vars) : Option NullState :=
  if nulls.any fun v => s[v]? == some .nonNull then none
  else
    let t := nulls.foldl (fun s v => s.insert v (.null ⟨line, .nullCheck⟩)) s
    if nonNulls.any fun v => t[v]?.any (·.isNull) then none
    else some (nonNulls.foldl (fun s v => s.insert v .nonNull) t)

end NullState

/-- The outcome of the condition for which an edge is taken. -/
def EdgeKind.outcome? : EdgeKind → Option Bool
  | .trueBranch => some true
  | .falseBranch => some false
  | _ => none

namespace ForwardNull

/-- How the origin of a null is described. -/
def originText (var : String) (o : Origin) : String :=
  match o.tag with
  | .assignZero => "Assigning: \"" ++ var ++ "\" = NULL."
  | _ => "Comparing \"" ++ var ++ "\" to null implies that \"" ++ var ++ "\" might be null."

/-- How the dereference is described. -/
def derefText (d : Dereference) : String :=
  match d.callee with
  | some callee =>
    "Passing null pointer \"" ++ d.var ++ "\" to \"" ++ callee ++ "\", which dereferences it."
  | none => "Dereferencing null pointer \"" ++ d.var ++ "\"."

/-- **The finding** for a dereference of a variable that may be null. -/
def finding (g : Graph) (o : Origin) (d : Dereference) : Finding where
  file := g.file
  function := g.function
  line := d.line
  category := .forwardNull
  message := derefText d
  events :=
    [⟨o.tag, o.line, originText d.var o, false⟩,
     ⟨if d.callee.isSome then .varDerefModel else .varDerefOp, d.line, derefText d, true⟩]

/-- The findings of several dereferences in a row; after a dereference its variable is not null. -/
def dereferenceFindings (g : Graph) (s : NullState) : List Dereference → List Finding
  | [] => []
  | d :: r =>
    (((s[d.var]?).bind (·.origin?)).map (finding g · d)).toList
      ++ dereferenceFindings g (s.insert d.var .nonNull) r

/-- **The findings of several facts in a row.** -/
def factFindings (known : Summaries) (g : Graph) (s : NullState) : List Fact → List Finding
  | [] => []
  | f :: r =>
    dereferenceFindings g s (f.dereferences known) ++ factFindings known g (s.after known f) r

/-- What is known after an edge is taken out of a block. -/
def refine (b : Block) (e : Edge) (s : NullState) : Option NullState :=
  match b.terminator, e.kind.outcome? with
  | .branch _ line test, some outcome =>
    s.assume line (test.nullWhen outcome) (test.nonNullWhen outcome)
  | _, _ => some s

/-- **The forward analysis of a graph.** -/
def analysis (known : Summaries) (g : Graph) : Analysis NullState Finding where
  entry := ∅
  join := NullState.join
  transfer b s := s.afterAll known b.facts
  reports b s := factFindings known g s b.facts
  refine := refine
  rank := NullState.rank g.vars.toList g.lastLine

end ForwardNull

end NullFlow
