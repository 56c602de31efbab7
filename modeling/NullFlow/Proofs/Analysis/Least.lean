import NullFlow.Proofs.Analysis.Nullness

/-!
# The least solution

What the loop computes is a **solution** (`Analysis.Order.Solution`): the entry has a state above
the one that the analysis begins with, and what flows along an edge is below the state at the end of
the edge. If joins are least upper bounds it is the least of all solutions
(`Analysis.Order.Solution.solve_below`), for everything that flows in the loop flows in any solution
too, and a join says no more than has to be said.

A least solution depends on the edges only as a set. In which order the loop follows them can be
seen in one place: of two origins on the same line the one that arrives first is kept
(`NullState.Alike`).
-/

namespace NullFlow

/-! ## Solutions of an analysis -/

namespace Analysis.Order

variable {σ ρ : Type} {a : Analysis σ ρ} {g : Graph}

/-- **A solution of an analysis** on a graph, which may say less than it could, and may have states
for blocks that nothing flows to. -/
structure Solution (o : a.Order g) (states : States σ) : Prop where
  entry : ∃ s, states[g.entry]? = some s ∧ o.Below a.entry s
  flow {b : BlockId} {block : Block} {e : Edge} {s t : σ} (hb : g.blocks[b]? = some block)
    (hs : states[b]? = some s) (he : e ∈ g.outEdges b)
    (hr : a.refine block e (a.transfer block s) = some t) :
    ∃ u, states[e.target]? = some u ∧ o.Below t u

/-- **Some states are below others**: a block that has one of them has one of the others above
it. -/
def StatesBelow (o : a.Order g) (states others : States σ) : Prop :=
  ∀ (b : BlockId) (s : σ), states[b]? = some s → ∃ t, others[b]? = some t ∧ o.Below s t

/-- **Joins are least**: what is above both sides is above the join. -/
def JoinsLeast (o : a.Order g) : Prop :=
  ∀ ⦃s t u : σ⦄, o.Below s u → o.Below t u → o.Below (a.join s t) u

variable {o : a.Order g} {states : States σ}

/-- The loop computes a solution. -/
theorem solution_solve (o : a.Order g) (hin : g.entry ∈ g.blocks) : o.Solution (a.solve g) where
  entry := o.solve_entry hin
  flow hb hs he hr := o.solve_flow hb hs he hr

/-- **No solution says more than the loop.** -/
theorem Solution.solve_below (h : o.Solution states) (hjoin : o.JoinsLeast) :
    o.StatesBelow (a.solve g) states := by
  intro b s hs
  refine a.solve_induction g (P := fun b s => ∃ t, states[b]? = some t ∧ o.Below s t)
    (fun _ => h.entry) (fun {b block s e t} hP hb he hr => ?_) (fun {b s t} hs ht => ?_) hs
  · -- the solution says less before the edge, so something flows along the edge there too
    obtain ⟨s', hs', hle⟩ := hP
    obtain ⟨t', ht', htle⟩ := o.flow_mono hle hr
    obtain ⟨u, hu, hule⟩ := h.flow hb hs' he ht'
    exact ⟨u, hu, o.trans htle hule⟩
  · obtain ⟨u, hu, hsu⟩ := hs
    obtain ⟨u', hu', htu⟩ := ht
    have heq : u = u' := Option.some.inj (hu.symm.trans hu')
    exact ⟨u, hu, hjoin hsu (heq ▸ htu)⟩

end Analysis.Order

/-! ## Values and states that differ in the tags of origins only -/

namespace Nullness

variable {x y z : Option Nullness}

/-- A join is below everything that is above both sides. -/
theorem join_below (hx : Below x z) (hy : Below y z) : Below (join x y) z := by
  rcases x with _ | _ | a | a <;> rcases y with _ | _ | b | b <;> rcases z with _ | _ | c | c <;>
    simp only [Below, join, origin?, line_earliest, Option.map_some, Option.map_none]
      at hx hy ⊢ <;>
    omega

/-- **The same value** up to the tag of its origin. -/
def Alike : Option Nullness → Option Nullness → Prop
  | none, none => True
  | some .nonNull, some .nonNull => True
  | some (.null a), some (.null b) => a.line = b.line
  | some (.maybeNull a), some (.maybeNull b) => a.line = b.line
  | _, _ => False

/-- Two values that are below each other are the same up to the tag. -/
theorem Below.alike (hxy : Below x y) (hyx : Below y x) : Alike x y := by
  rcases x with _ | _ | a | a <;> rcases y with _ | _ | b | b <;>
    simp only [Below, Alike] at hxy hyx ⊢ <;> omega

end Nullness

/-- **The same state** up to the tags of origins. -/
def NullState.Alike (s t : NullState) : Prop := ∀ v : String, Nullness.Alike s[v]? t[v]?

namespace ForwardNull

variable {known : Summaries} {g : Graph}

theorem joinsLeast_order (known : Summaries) (g : Graph) : (order known g).JoinsLeast := by
  intro s t u hs ht v
  show Nullness.Below (s.join t)[v]? u[v]?
  rw [NullState.getElem?_join]
  exact Nullness.join_below (hs v) (ht v)

/-- **The order of the edges makes no difference** to what a solution is. -/
theorem solution_of_perm {edges : List Edge} (hperm : edges.Perm g.edges)
    {states : States NullState} (h : (order known { g with edges }).Solution states) :
    (order known g).Solution states where
  entry := h.entry
  flow {b block e s t} hb hs he hr := by
    have he' : e ∈ ({ g with edges } : Graph).outEdges b := by
      obtain ⟨hmem, hsource⟩ := Graph.mem_outEdges.mp he
      exact Graph.mem_outEdges.mpr ⟨hperm.mem_iff.mpr hmem, hsource⟩
    exact h.flow hb hs he' hr

/-- States that are below each other are had by the same blocks, and are the same up to the tags of
origins. -/
theorem alike_of_statesBelow {states others : States NullState}
    (h : (order known g).StatesBelow states others)
    (h' : (order known g).StatesBelow others states) (b : BlockId) :
    Option.Rel NullState.Alike states[b]? others[b]? := by
  cases hs : states[b]? with
  | none =>
    cases ht : others[b]? with
    | none => exact .none
    | some t =>
      obtain ⟨s, hs', -⟩ := h' b t ht
      rw [hs] at hs'
      cases hs'
  | some s =>
    obtain ⟨t, ht, hst⟩ := h b s hs
    obtain ⟨s', hs', hts⟩ := h' b t ht
    have heq : s' = s := Option.some.inj (hs'.symm.trans hs)
    rw [ht]
    exact .some fun v => (hst v).alike ((heq ▸ hts) v)

/-- **The forward analysis computes its least solution**, and in which order the edges are listed
makes no difference to which blocks have a state, nor to the value of any variable up to the tag of
its origin. -/
theorem solve_least (known : Summaries) {g : Graph} (hin : g.entry ∈ g.blocks) :
    (order known g).Solution ((analysis known g).solve g) ∧
    (∀ states, (order known g).Solution states →
      (order known g).StatesBelow ((analysis known g).solve g) states) ∧
    ∀ edges : List Edge, edges.Perm g.edges → ∀ b : BlockId,
      Option.Rel NullState.Alike ((analysis known g).solve g)[b]?
        ((analysis known { g with edges }).solve { g with edges })[b]? := by
  have hsolve : (order known g).Solution ((analysis known g).solve g) :=
    (order known g).solution_solve hin
  refine ⟨hsolve, fun states h => h.solve_below (joinsLeast_order known g),
    fun edges hperm b => ?_⟩
  -- either is a solution on both graphs, so each is below the other
  have hother : (order known g).Solution
      ((analysis known { g with edges }).solve { g with edges }) :=
    solution_of_perm hperm ((order known { g with edges }).solution_solve hin)
  have hback : (order known { g with edges }).Solution ((analysis known g).solve g) :=
    solution_of_perm (g := { g with edges }) hperm.symm hsolve
  exact alike_of_statesBelow (hother.solve_below (joinsLeast_order known g))
    (hback.solve_below (joinsLeast_order known { g with edges })) b

end ForwardNull

/-- A function that sets a pointer to null before a loop and again in the loop, which can be left
and gone round by two edges each. -/
def Graph.nullInLoop : Graph where
  function := "f"
  file := "a.c"
  blocks := ((∅ : Std.ExtTreeMap BlockId Block).insert 0
    { id := 0, label := "entry",
      statements := [⟨1, .assignment "p", "p = 0;", [.assign "p" .null 1]⟩] }).insert 1
    { id := 1, label := "loop",
      statements := [⟨3, .assignment "p", "p = 0;", [.assign "p" .null 3]⟩] }
  edges := [⟨0, 1, .fallThrough⟩, ⟨1, 1, .loopBack⟩, ⟨1, 1, .jump⟩, ⟨1, 2, .loopExit⟩]

theorem ForwardNull.solve_least_nullInLoop :
    let g := Graph.nullInLoop
    g.entry ∈ g.blocks ∧ (order .none g).Solution ((analysis .none g).solve g) ∧
    (∀ states, (order .none g).Solution states →
      (order .none g).StatesBelow ((analysis .none g).solve g) states) ∧
    ∀ edges : List Edge, edges.Perm g.edges → ∀ b : BlockId,
      Option.Rel NullState.Alike ((analysis .none g).solve g)[b]?
        ((analysis .none { g with edges }).solve { g with edges })[b]? :=
  ⟨by decide, solve_least .none (by decide)⟩

end NullFlow
