import NullFlow.Proofs.Graph.Reading

/-!
# Statements laid out in a graph

`Stmt.Laid` says where the parts of a statement stand in a graph: from which place on, with which
edges between their blocks, and at which place control is when the statement is over. It says
nothing about blocks that belong to other statements, and nothing about how the graph was made.

Where a statement is laid out, executions of the graph are executions of the statement. From the
statement to the graph (`Stmt.Runs.does`) the induction is on the execution; from the graph to the
statement (`Stmt.Laid.splits`) it is on the statement, and for a loop on the number of steps
besides.
-/

namespace NullFlow

namespace Graph

variable {g : Graph}

/-- **How a block ends**: whether executions may stop there, and the edges that lead out of it. -/
structure Closes (g : Graph) (b : BlockId) (stop? : Option Stop)
    (outs : List (EdgeKind × BlockId)) : Prop where
  mem_blocks : b ∈ g.blocks
  stopsAt_iff : ∀ stop, g.StopsAt b stop ↔ stop? = some stop
  outEdges_eq : g.outEdges b = outs.map fun p => ⟨b, p.2, p.1⟩

/-- **A block that only leads on**, along the given edges. -/
abbrev Leads (g : Graph) (b : BlockId) (outs : List (EdgeKind × BlockId)) : Prop :=
  g.Closes b none outs

/-- An execution from the end of a block stops there, or it takes one of the edges. -/
theorem Closes.goes_iff {b : BlockId} {stop? : Option Stop} {outs : List (EdgeKind × BlockId)}
    (h : g.Closes b stop? outs) {n : Nat} {as : List Action} {stop : Stop} :
    g.Goes n ⟨b, []⟩ as stop ↔ (n = 0 ∧ as = [] ∧ stop? = some stop) ∨
      ∃ p ∈ outs, ∃ m bs, n = m + 1 ∧ as = p.1.decided ++ bs ∧ g.Goes m (g.start p.2) bs stop := by
  constructor
  · intro hgoes
    cases hgoes with
    | stop hs => exact Or.inl ⟨rfl, rfl, (h.stopsAt_iff _).mp hs⟩
    | along _ he hgoes =>
      rw [h.outEdges_eq] at he
      obtain ⟨p, hp, rfl⟩ := List.mem_map.mp he
      exact Or.inr ⟨p, hp, _, _, rfl, rfl, hgoes⟩
  · rintro (⟨rfl, rfl, hs⟩ | ⟨p, hp, m, bs, rfl, rfl, hgoes⟩)
    · exact .stop ((h.stopsAt_iff _).mpr hs)
    · have he : (⟨b, p.2, p.1⟩ : Edge) ∈ g.outEdges b := by
        rw [h.outEdges_eq]
        exact List.mem_map_of_mem hp
      exact .along h.mem_blocks he hgoes

/-- An execution from the end of a block with one edge, which decides nothing, takes it. -/
theorem Closes.goes_on_iff {b c : BlockId} {k : EdgeKind} (h : g.Leads b [(k, c)])
    (hk : k.decided = []) {n : Nat} {as : List Action} {stop : Stop} :
    g.Goes n ⟨b, []⟩ as stop ↔ ∃ m, n = m + 1 ∧ g.Goes m (g.start c) as stop := by
  rw [h.goes_iff]
  simp only [reduceCtorEq, and_false, false_or, List.mem_singleton, exists_eq_left, hk,
    List.nil_append, exists_and_left, exists_eq_left']

/-- An execution at a condition evaluates it and goes on by its outcome. -/
theorem Closes.goes_test_iff {b c d : BlockId} {s : Statement}
    (h : g.Leads b [(.trueBranch, c), (.falseBranch, d)]) {n : Nat} {as : List Action}
    {stop : Stop} : g.Goes n ⟨b, [s]⟩ as stop ↔
      ∃ m bs, n = m + 2 ∧ (as = .ran s :: .decided true :: bs ∧ g.Goes m (g.start c) bs stop ∨
        as = .ran s :: .decided false :: bs ∧ g.Goes m (g.start d) bs stop) := by
  rw [goes_cons_iff]
  simp only [h.goes_iff, reduceCtorEq, and_false, false_or, List.mem_cons, List.not_mem_nil,
    or_false, exists_eq_or_imp, exists_eq_left]
  constructor
  · rintro ⟨_, _, rfl, rfl, ⟨m, bs, rfl, rfl, hgoes⟩ | ⟨m, bs, rfl, rfl, hgoes⟩⟩
    · exact ⟨m, bs, rfl, Or.inl ⟨rfl, hgoes⟩⟩
    · exact ⟨m, bs, rfl, Or.inr ⟨rfl, hgoes⟩⟩
  · rintro ⟨m, bs, rfl, ⟨rfl, hgoes⟩ | ⟨rfl, hgoes⟩⟩
    · exact ⟨_, _, rfl, rfl, Or.inl ⟨m, bs, rfl, rfl, hgoes⟩⟩
    · exact ⟨_, _, rfl, rfl, Or.inr ⟨m, bs, rfl, rfl, hgoes⟩⟩

theorem Closes.goes_head_iff {b c d : BlockId} {s : Statement}
    (h : g.Leads b [(.trueBranch, c), (.falseBranch, d)]) (hs : g.statementsOf b = [s]) {n : Nat}
    {as : List Action} {stop : Stop} : g.Goes n (g.start b) as stop ↔
      ∃ m bs, n = m + 2 ∧ (as = .ran s :: .decided true :: bs ∧ g.Goes m (g.start c) bs stop ∨
        as = .ran s :: .decided false :: bs ∧ g.Goes m (g.start d) bs stop) := by
  rw [start, hs, h.goes_test_iff]

/-- **Control gets silently** from one place to another: they are the same, or one is at the end of
a block that falls through to the other. -/
inductive Falls (g : Graph) : Place → Place → Prop
  | here (p : Place) : Falls g p p
  | through {b c : BlockId} (h : g.Leads b [(.fallThrough, c)]) : Falls g ⟨b, []⟩ (g.start c)

theorem Falls.goes {p q : Place} (h : g.Falls p q) {n : Nat} {as : List Action} {stop : Stop}
    (hq : g.Goes n q as stop) : ∃ m, g.Goes m p as stop := by
  cases h with
  | here => exact ⟨n, hq⟩
  | through h => exact ⟨n + 1, (h.goes_on_iff rfl).mpr ⟨n, rfl, hq⟩⟩

theorem Falls.exists_goes {p q : Place} (h : g.Falls p q) {n : Nat} {as : List Action} {stop : Stop}
    (hp : g.Goes n p as stop) : ∃ m ≤ n, g.Goes m q as stop := by
  cases h with
  | here => exact ⟨n, Nat.le_refl n, hp⟩
  | through h =>
    obtain ⟨m, rfl, hm⟩ := (h.goes_on_iff rfl).mp hp
    exact ⟨m, Nat.le_succ m, hm⟩

/-- **What follows a statement** that ended in the given way: from the place after it, from the
target of a jump, or nothing. -/
def After (g : Graph) (brk cont : Option BlockId) (q : Place) (n : Nat) (as : List Action)
    (stop : Stop) : Completion → Prop
  | .normal => g.Goes n q as stop
  | .broke => ∃ b ∈ brk, g.Goes n (g.start b) as stop
  | .continued => ∃ b ∈ cont, g.Goes n (g.start b) as stop
  | .returned => as = [] ∧ stop = .left
  | .halted => as = [] ∧ stop = .halted

end Graph

open NullFlow.Graph (Place Stop)

mutual

/-- **A statement is laid out** in a graph between two places. `brk` and `cont` are the blocks that
`break` and `continue` lead to. -/
def Stmt.Laid (g : Graph) : Stmt → (brk cont : Option BlockId) → Place → Place → Prop
  | .skip, _, _, p, q => p = q
  | .plain s, _, _, p, q => p = ⟨q.block, s :: q.rest⟩
  | .ret s, _, _, p, _ => p.rest = [s] ∧ g.Closes p.block (some .left) []
  | .halt s, _, _, p, _ => p.rest = [s] ∧ g.Closes p.block (some .halted) []
  | .brk s, brk, _, p, _ => p.rest = [s] ∧ g.Leads p.block (brk.toList.map (.loopExit, ·))
  | .cont s, _, cont, p, _ => p.rest = [s] ∧ g.Leads p.block (cont.toList.map (.loopBack, ·))
  | .seq s t, brk, cont, p, q => ∃ m m', s.Laid g brk cont p m ∧ g.Falls m m' ∧
      t.Laid g brk cont m' q
  | .ifThen c s, brk, cont, p, q => ∃ yes yesEnd after,
      p.rest = [c] ∧ g.Leads p.block [(.trueBranch, yes), (.falseBranch, after)] ∧
      s.Laid g brk cont (g.start yes) ⟨yesEnd, []⟩ ∧ g.Leads yesEnd [(.fallThrough, after)] ∧
      q = g.start after
  | .ifElse c s t, brk, cont, p, q => ∃ yes yesEnd no noEnd after,
      p.rest = [c] ∧ g.Leads p.block [(.trueBranch, yes), (.falseBranch, no)] ∧
      s.Laid g brk cont (g.start yes) ⟨yesEnd, []⟩ ∧ g.Leads yesEnd [(.fallThrough, after)] ∧
      t.Laid g brk cont (g.start no) ⟨noEnd, []⟩ ∧ g.Leads noEnd [(.fallThrough, after)] ∧
      q = g.start after
  | .whileLoop c s, _, _, p, q => ∃ head body bodyEnd after,
      p.rest = [] ∧ g.Leads p.block [(.fallThrough, head)] ∧
      g.statementsOf head = [c] ∧ g.Leads head [(.trueBranch, body), (.falseBranch, after)] ∧
      s.Laid g (some after) (some head) (g.start body) ⟨bodyEnd, []⟩ ∧
      g.Leads bodyEnd [(.loopBack, head)] ∧ q = g.start after
  | .doLoop s c, _, _, p, q => ∃ body bodyEnd test after,
      p.rest = [] ∧ g.Leads p.block [(.fallThrough, body)] ∧
      s.Laid g (some after) (some test) (g.start body) ⟨bodyEnd, []⟩ ∧
      g.Leads bodyEnd [(.fallThrough, test)] ∧
      g.statementsOf test = [c] ∧ g.Leads test [(.trueBranch, body), (.falseBranch, after)] ∧
      q = g.start after
  | .forLoop c u s, _, _, p, q => ∃ head body bodyEnd latch after,
      p.rest = [] ∧ g.Leads p.block [(.fallThrough, head)] ∧ g.statementsOf head = c.toList ∧
      g.Leads head (if c.isSome then [(.trueBranch, body), (.falseBranch, after)]
        else [(.fallThrough, body)]) ∧
      s.Laid g (some after) (some latch) (g.start body) ⟨bodyEnd, []⟩ ∧
      g.Leads bodyEnd [(.fallThrough, latch)] ∧
      g.statementsOf latch = u.toList ∧ g.Leads latch [(.loopBack, head)] ∧ q = g.start after
  | .switch c groups, _, cont, p, q => ∃ heads after,
      p.rest = [c] ∧ g.Leads p.block (heads.map (.jump, ·)
        ++ if groups.hasDefault then [] else [(.jump, after)]) ∧
      groups.Laid g (some after) cont heads after ∧ q = g.start after

/-- **The groups of a `switch` are laid out** one after the other, each in a block of `heads` and
those after it; control falls from the end of one to the start of the next, and in the end to the
block after the `switch`. -/
def Groups.Laid (g : Graph) : Groups → (brk cont : Option BlockId) → (heads : List BlockId) →
    (after : BlockId) → Prop
  | .none, _, _, heads, _ => heads = []
  | .group _ s rest, brk, cont, heads, after => ∃ head bodyEnd tail, heads = head :: tail ∧
      s.Laid g brk cont (g.start head) ⟨bodyEnd, []⟩ ∧
      g.Leads bodyEnd [(.fallThrough, tail.headD after)] ∧ rest.Laid g brk cont tail after

end

/-! ## What follows -/

namespace Graph.After

variable {g : Graph} {brk cont : Option BlockId} {p q : Place} {n : Nat} {as : List Action}
  {stop : Stop} {o : Completion}

/-- Only a statement that came to its end is followed by what stands after it. -/
theorem of_ne_normal (ho : o ≠ .normal) (h : g.After brk cont p n as stop o) :
    g.After brk cont q n as stop o := by
  cases o with
  | normal => exact absurd rfl ho
  | broke | continued | returned | halted => exact h

/-- What follows the end of a block that falls through. -/
theorem fallThrough {b c : BlockId} (h : g.After brk cont (g.start c) n as stop o)
    (hl : g.Leads b [(.fallThrough, c)]) : ∃ m, g.After brk cont ⟨b, []⟩ m as stop o := by
  cases o with
  | normal => exact ⟨n + 1, (hl.goes_on_iff rfl).mpr ⟨n, rfl, h⟩⟩
  | broke | continued | returned | halted => exact ⟨n, h⟩

/-- What follows a loop body that lets the loop go on, if the end of the body leads where
`continue` leads. -/
theorem of_goesOn {b c : BlockId} {k : EdgeKind} (ho : o.goesOn = true) (hl : g.Leads b [(k, c)])
    (hk : k.decided = []) (h : g.Goes n (g.start c) as stop) :
    ∃ m, g.After brk (some c) ⟨b, []⟩ m as stop o := by
  cases o with
  | normal => exact ⟨n + 1, (hl.goes_on_iff hk).mpr ⟨n, rfl, h⟩⟩
  | continued => exact ⟨n, c, rfl, h⟩
  | broke | returned | halted => cases ho

theorem exists_goes {b c : BlockId} {k : EdgeKind} (ho : o.goesOn = true) (hl : g.Leads b [(k, c)])
    (hk : k.decided = []) (h : g.After brk (some c) ⟨b, []⟩ n as stop o) :
    ∃ m ≤ n, g.Goes m (g.start c) as stop := by
  cases o with
  | normal =>
    obtain ⟨m, rfl, hm⟩ := (hl.goes_on_iff hk).mp h
    exact ⟨m, Nat.le_succ m, hm⟩
  | continued =>
    obtain ⟨_, ⟨⟩, h⟩ := h
    exact ⟨n, Nat.le_refl n, h⟩
  | broke | returned | halted => cases ho

/-- What follows a loop body that ends the loop follows the loop. -/
theorem outside_iff_of_not_goesOn {cont' : Option BlockId} {a : BlockId} (ho : o.goesOn = false) :
    g.After (some a) cont' p n as stop o ↔ g.After brk cont (g.start a) n as stop o.outside := by
  cases o with
  | normal | continued => cases ho
  | broke => exact ⟨fun ⟨_, hb, h⟩ => Option.some.inj hb ▸ h, fun h => ⟨a, rfl, h⟩⟩
  | returned | halted => exact Iff.rfl

/-- What follows a group of a `switch` that ends it follows the `switch`. -/
theorem outside_iff {a : BlockId} : g.After (some a) cont (g.start a) n as stop o ↔
    g.After brk cont (g.start a) n as stop o.outside := by
  cases o with
  | broke => exact ⟨fun ⟨_, hb, h⟩ => Option.some.inj hb ▸ h, fun h => ⟨a, rfl, h⟩⟩
  | normal | continued | returned | halted => exact Iff.rfl

end Graph.After

/-! ## From the statement to the graph -/

/-- The groups of a `switch` are laid out as the sequence of their statements. -/
theorem Groups.Laid.body {g : Graph} {brk cont : Option BlockId} {after : BlockId} :
    ∀ {groups : Groups} {heads : List BlockId}, groups.Laid g brk cont heads after →
      groups.body.Laid g brk cont (g.start (heads.headD after)) (g.start after)
  | .none, _, h => by
    rw [Groups.Laid] at h
    subst h
    rfl
  | .group _ s rest, _, h => by
    rw [Groups.Laid] at h
    obtain ⟨head, bodyEnd, tail, rfl, hs, hl, hrest⟩ := h
    exact ⟨_, _, hs, .through hl, hrest.body⟩

/-- Wherever a `switch` starts, the statements from there on are laid out at the block of a
group. -/
theorem Groups.Laid.exists_head {g : Graph} {brk cont : Option BlockId} {after : BlockId}
    {t : Stmt} : ∀ {groups : Groups} {heads : List BlockId}, groups.Laid g brk cont heads after →
      t ∈ groups.entries → ∃ head ∈ heads, t.Laid g brk cont (g.start head) (g.start after)
  | .none, _, _, ht => (List.not_mem_nil ht).elim
  | .group isDefault s rest, _, h, ht => by
    have hbody := h.body
    rw [Groups.Laid] at h
    obtain ⟨head, bodyEnd, tail, rfl, hs, hl, hrest⟩ := h
    rcases List.mem_cons.mp ht with rfl | ht
    · exact ⟨head, List.mem_cons_self, hbody⟩
    · obtain ⟨head', hmem, hlaid⟩ := hrest.exists_head ht
      exact ⟨head', List.mem_cons_of_mem head hmem, hlaid⟩

namespace Graph

variable {g : Graph} {s t : Stmt} {brk cont : Option BlockId} {p q : Place} {n : Nat}
  {as bs : List Action} {o o' : Completion} {stop : Stop}

/-- The head of a `for` loop goes on to the body. -/
theorem Goes.forTest {c : Option Statement} {head body after : BlockId}
    (hc : g.statementsOf head = c.toList)
    (hl : g.Leads head (if c.isSome then [(.trueBranch, body), (.falseBranch, after)]
      else [(.fallThrough, body)])) (h : g.Goes n (g.start body) as stop) :
    ∃ m, g.Goes m (g.start head) (Stmt.forTest c ++ as) stop := by
  unfold start
  rw [hc]
  cases c with
  | none => exact ⟨n + 1, (hl.goes_on_iff rfl).mpr ⟨n, rfl, h⟩⟩
  | some c => exact ⟨n + 2, hl.goes_test_iff.mpr ⟨n, as, rfl, Or.inl ⟨rfl, h⟩⟩⟩

/-- **The graph does an execution** of a statement: wherever the statement is laid out, the
execution and what follows it make an execution of the graph. -/
def Does (g : Graph) (s : Stmt) (as : List Action) (o : Completion) (stop : Stop) : Prop :=
  ∀ ⦃brk cont : Option BlockId⦄ ⦃p q : Place⦄ ⦃n : Nat⦄ ⦃bs : List Action⦄,
    s.Laid g brk cont p q → g.After brk cont q n bs stop o → ∃ m, g.Goes m p (as ++ bs) stop

namespace Does

/-- What a branch does, if its end falls through to what follows. -/
theorem fallThrough {b c : BlockId} (h : g.Does s as o stop) (hlaid : s.Laid g brk cont p ⟨b, []⟩)
    (hl : g.Leads b [(.fallThrough, c)]) (hafter : g.After brk cont (g.start c) n bs stop o) :
    ∃ m, g.Goes m p (as ++ bs) stop := by
  obtain ⟨m, hm⟩ := hafter.fallThrough hl
  exact h hlaid hm

/-- What the body of a loop does, if it lets the loop go on. -/
theorem goesOn {b c : BlockId} {k : EdgeKind} (h : g.Does s as o stop)
    (hlaid : s.Laid g brk (some c) p ⟨b, []⟩) (ho : o.goesOn = true) (hl : g.Leads b [(k, c)])
    (hk : k.decided = []) (hnext : g.Goes n (g.start c) bs stop) :
    ∃ m, g.Goes m p (as ++ bs) stop := by
  obtain ⟨m, hm⟩ := After.of_goesOn ho hl hk hnext
  exact h hlaid hm

/-- What the body of a loop does, if it ends the loop. -/
theorem leave {a : BlockId} {cont' : Option BlockId} (h : g.Does s as o stop)
    (hlaid : s.Laid g (some a) cont' p q) (ho : o.goesOn = false)
    (hafter : g.After brk cont (g.start a) n bs stop o.outside) :
    ∃ m, g.Goes m p (as ++ bs) stop :=
  h hlaid ((After.outside_iff_of_not_goesOn ho).mpr hafter)

/-! ### Sequences and branches -/

theorem seq (hs : g.Does s as .normal stop) (ht : g.Does t bs o stop) :
    g.Does (.seq s t) (as ++ bs) o stop := by
  intro brk cont p q n cs hlaid hafter
  obtain ⟨m, m', hlaid, hfalls, hlaid'⟩ := hlaid
  obtain ⟨k, hk⟩ := ht hlaid' hafter
  obtain ⟨k', hk'⟩ := hfalls.goes hk
  rw [List.append_assoc]
  exact hs hlaid hk'

theorem ifThen {c : Statement} (hs : g.Does s as o stop) :
    g.Does (.ifThen c s) (.ran c :: .decided true :: as) o stop := by
  rintro brk cont ⟨b, rest⟩ q n bs ⟨yes, yesEnd, after, rfl, hlead, hlaid, hend, rfl⟩ hafter
  obtain ⟨m, hm⟩ := hs.fallThrough hlaid hend hafter
  exact ⟨m + 2, hlead.goes_test_iff.mpr ⟨m, _, rfl, Or.inl ⟨rfl, hm⟩⟩⟩

theorem ifThenSkip {c : Statement} :
    g.Does (.ifThen c s) [.ran c, .decided false] .normal stop := by
  rintro brk cont ⟨b, rest⟩ q n bs ⟨yes, yesEnd, after, rfl, hlead, -, -, rfl⟩ hafter
  exact ⟨n + 2, hlead.goes_test_iff.mpr ⟨n, _, rfl, Or.inr ⟨rfl, hafter⟩⟩⟩

theorem ifElse {c : Statement} (outcome : Bool)
    (h : g.Does (if outcome then s else t) as o stop) :
    g.Does (.ifElse c s t) (.ran c :: .decided outcome :: as) o stop := by
  rintro brk cont ⟨b, rest⟩ q n bs
    ⟨yes, yesEnd, no, noEnd, after, rfl, hlead, hs, hend, ht, hend', rfl⟩ hafter
  cases outcome with
  | true =>
    obtain ⟨m, hm⟩ := Does.fallThrough h hs hend hafter
    exact ⟨m + 2, hlead.goes_test_iff.mpr ⟨m, _, rfl, Or.inl ⟨rfl, hm⟩⟩⟩
  | false =>
    obtain ⟨m, hm⟩ := Does.fallThrough h ht hend' hafter
    exact ⟨m + 2, hlead.goes_test_iff.mpr ⟨m, _, rfl, Or.inr ⟨rfl, hm⟩⟩⟩

theorem switchSkip {c : Statement} {groups : Groups} (hdefault : groups.hasDefault = false) :
    g.Does (.switch c groups) [.ran c] .normal stop := by
  rintro brk cont ⟨b, rest⟩ q n bs ⟨heads, after, rfl, hlead, -, rfl⟩ hafter
  rw [hdefault] at hlead
  have hmem : (EdgeKind.jump, after) ∈ heads.map (EdgeKind.jump, ·) ++ [(.jump, after)] :=
    List.mem_append_right _ List.mem_cons_self
  exact ⟨n + 2, .past (hlead.goes_iff.mpr (Or.inr ⟨_, hmem, n, _, rfl, rfl, hafter⟩))⟩

theorem switchEnter {c : Statement} {groups : Groups} (hmem : t ∈ groups.entries)
    (ht : g.Does t as o stop) : g.Does (.switch c groups) (.ran c :: as) o.outside stop := by
  rintro brk cont ⟨b, rest⟩ q n bs ⟨heads, after, rfl, hlead, hgroups, rfl⟩ hafter
  obtain ⟨head, hhead, hlaid⟩ := hgroups.exists_head hmem
  obtain ⟨m, hm⟩ := ht hlaid (After.outside_iff.mpr hafter)
  have hedge : (EdgeKind.jump, head) ∈ heads.map (EdgeKind.jump, ·) := List.mem_map_of_mem hhead
  exact ⟨m + 2, .past (hlead.goes_iff.mpr
    (Or.inr ⟨_, List.mem_append_left _ hedge, m, _, rfl, rfl, hm⟩))⟩

/-! ### Loops -/

section

variable {c : Statement}

theorem whileEnd : g.Does (.whileLoop c s) [.ran c, .decided false] .normal stop := by
  rintro brk cont ⟨b, rest⟩ q n bs
    ⟨head, body, bodyEnd, after, rfl, hp, hc, hlead, -, -, rfl⟩ hafter
  have hhead := (hlead.goes_head_iff hc).mpr ⟨n, _, rfl, Or.inr ⟨rfl, hafter⟩⟩
  exact ⟨_, (hp.goes_on_iff rfl).mpr ⟨_, rfl, hhead⟩⟩

theorem whileAgain (hs : g.Does s as o stop) (ho : o.goesOn = true)
    (hagain : g.Does (.whileLoop c s) bs o' stop) :
    g.Does (.whileLoop c s) (.ran c :: .decided true :: (as ++ bs)) o' stop := by
  intro brk cont p q n cs hlaid hafter
  -- the rest of the loop starts before its head, so the first step of it is taken back
  obtain ⟨_, hrest⟩ := hagain hlaid hafter
  obtain ⟨b, rest⟩ := p
  obtain ⟨head, body, bodyEnd, after, rfl, hp, hc, hlead, hbody, hback, rfl⟩ := hlaid
  obtain ⟨m, rfl, hm⟩ := (hp.goes_on_iff rfl).mp hrest
  obtain ⟨k, hk⟩ := hs.goesOn hbody ho hback rfl hm
  have hhead := (hlead.goes_head_iff hc).mpr ⟨k, _, rfl, Or.inl ⟨rfl, hk⟩⟩
  rw [← List.append_assoc] at hhead
  exact ⟨_, (hp.goes_on_iff rfl).mpr ⟨_, rfl, hhead⟩⟩

theorem whileLeave (hs : g.Does s as o stop) (ho : o.goesOn = false) :
    g.Does (.whileLoop c s) (.ran c :: .decided true :: as) o.outside stop := by
  rintro brk cont ⟨b, rest⟩ q n bs
    ⟨head, body, bodyEnd, after, rfl, hp, hc, hlead, hbody, -, rfl⟩ hafter
  obtain ⟨k, hk⟩ := hs.leave hbody ho hafter
  have hhead := (hlead.goes_head_iff hc).mpr ⟨k, _, rfl, Or.inl ⟨rfl, hk⟩⟩
  exact ⟨_, (hp.goes_on_iff rfl).mpr ⟨_, rfl, hhead⟩⟩

theorem doEnd (hs : g.Does s as o stop) (ho : o.goesOn = true) :
    g.Does (.doLoop s c) (as ++ [.ran c, .decided false]) .normal stop := by
  rintro brk cont ⟨b, rest⟩ q n bs
    ⟨body, bodyEnd, test, after, rfl, hp, hbody, hend, hc, hlead, rfl⟩ hafter
  have htest := (hlead.goes_head_iff hc).mpr ⟨n, _, rfl, Or.inr ⟨rfl, hafter⟩⟩
  obtain ⟨k, hk⟩ := hs.goesOn hbody ho hend rfl htest
  rw [List.append_assoc]
  exact ⟨_, (hp.goes_on_iff rfl).mpr ⟨k, rfl, hk⟩⟩

theorem doAgain (hs : g.Does s as o stop) (ho : o.goesOn = true)
    (hagain : g.Does (.doLoop s c) bs o' stop) :
    g.Does (.doLoop s c) (as ++ .ran c :: .decided true :: bs) o' stop := by
  intro brk cont p q n cs hlaid hafter
  obtain ⟨_, hrest⟩ := hagain hlaid hafter
  obtain ⟨b, rest⟩ := p
  obtain ⟨body, bodyEnd, test, after, rfl, hp, hbody, hend, hc, hlead, rfl⟩ := hlaid
  obtain ⟨m, rfl, hm⟩ := (hp.goes_on_iff rfl).mp hrest
  have htest := (hlead.goes_head_iff hc).mpr ⟨m, _, rfl, Or.inl ⟨rfl, hm⟩⟩
  obtain ⟨k, hk⟩ := hs.goesOn hbody ho hend rfl htest
  rw [List.append_assoc]
  exact ⟨_, (hp.goes_on_iff rfl).mpr ⟨k, rfl, hk⟩⟩

theorem doLeave (hs : g.Does s as o stop) (ho : o.goesOn = false) :
    g.Does (.doLoop s c) as o.outside stop := by
  rintro brk cont ⟨b, rest⟩ q n bs
    ⟨body, bodyEnd, test, after, rfl, hp, hbody, -, -, -, rfl⟩ hafter
  obtain ⟨k, hk⟩ := hs.leave hbody ho hafter
  exact ⟨_, (hp.goes_on_iff rfl).mpr ⟨k, rfl, hk⟩⟩

end

section

variable {c u : Option Statement}

theorem forEnd {c : Statement} :
    g.Does (.forLoop (some c) u s) [.ran c, .decided false] .normal stop := by
  rintro brk cont ⟨b, rest⟩ q n bs
    ⟨head, body, bodyEnd, latch, after, rfl, hp, hc, hlead, -, -, -, -, rfl⟩ hafter
  have hhead := (hlead.goes_head_iff hc).mpr ⟨n, _, rfl, Or.inr ⟨rfl, hafter⟩⟩
  exact ⟨_, (hp.goes_on_iff rfl).mpr ⟨_, rfl, hhead⟩⟩

theorem forAgain (hs : g.Does s as o stop) (ho : o.goesOn = true)
    (hagain : g.Does (.forLoop c u s) bs o' stop) :
    g.Does (.forLoop c u s) (Stmt.forTest c ++ as ++ u.toList.map .ran ++ bs) o' stop := by
  intro brk cont p q n cs hlaid hafter
  -- from the back: the rest of the loop, the update, the body, the head
  obtain ⟨_, hrest⟩ := hagain hlaid hafter
  obtain ⟨b, rest⟩ := p
  obtain ⟨head, body, bodyEnd, latch, after, rfl, hp, hc, hlead, hbody, hend, hu, hback, rfl⟩ :=
    hlaid
  obtain ⟨m, rfl, hm⟩ := (hp.goes_on_iff rfl).mp hrest
  have hlatch := goes_start_iff.mpr ⟨_, _, rfl, rfl, (hback.goes_on_iff rfl).mpr ⟨m, rfl, hm⟩⟩
  rw [hu] at hlatch
  obtain ⟨k, hk⟩ := hs.goesOn hbody ho hend rfl hlatch
  obtain ⟨k, hk⟩ := hk.forTest hc hlead
  simp only [List.append_assoc]
  exact ⟨_, (hp.goes_on_iff rfl).mpr ⟨k, rfl, hk⟩⟩

theorem forLeave (hs : g.Does s as o stop) (ho : o.goesOn = false) :
    g.Does (.forLoop c u s) (Stmt.forTest c ++ as) o.outside stop := by
  rintro brk cont ⟨b, rest⟩ q n bs
    ⟨head, body, bodyEnd, latch, after, rfl, hp, hc, hlead, hbody, -, -, -, rfl⟩ hafter
  obtain ⟨k, hk⟩ := hs.leave hbody ho hafter
  obtain ⟨k, hk⟩ := hk.forTest hc hlead
  rw [List.append_assoc]
  exact ⟨_, (hp.goes_on_iff rfl).mpr ⟨k, rfl, hk⟩⟩

end

end Does

end Graph

/-- **What a statement does, the graph does.** The statements that are no more than one step are
here; the others are made of parts. -/
theorem Stmt.Runs.does {g : Graph} {s : Stmt} {as : List Action} {o : Completion} (h : s.Runs as o)
    (stop : Stop) : g.Does s as o stop := by
  induction h with
  | skip =>
    intro brk cont p q n bs hlaid hafter
    rw [Stmt.Laid] at hlaid
    subst hlaid
    exact ⟨n, hafter⟩
  | plain =>
    intro brk cont p q n bs hlaid hafter
    rw [Stmt.Laid] at hlaid
    subst hlaid
    exact ⟨n + 1, .past hafter⟩
  | ret | halt =>
    rintro brk cont ⟨b, rest⟩ q n bs ⟨rfl, hclose⟩ ⟨rfl, rfl⟩
    exact ⟨1, .past (.stop ((hclose.stopsAt_iff _).mpr rfl))⟩
  | brk | cont =>
    rintro brk cont ⟨b, rest⟩ q n bs ⟨rfl, hlead⟩ ⟨c, rfl, hgoes⟩
    exact ⟨n + 2, .past ((hlead.goes_on_iff rfl).mpr ⟨n, rfl, hgoes⟩)⟩
  | seq _ _ ih₁ ih₂ => exact .seq ih₁ ih₂
  | seqStop _ ho ih =>
    rintro brk cont p q n bs ⟨m, m', hs, -, -⟩ hafter
    exact ih hs (hafter.of_ne_normal ho)
  | ifThen _ ih => exact .ifThen ih
  | ifThenSkip => exact .ifThenSkip
  | ifElse outcome _ ih => exact .ifElse outcome ih
  | whileEnd => exact .whileEnd
  | whileAgain _ ho _ ih₁ ih₂ => exact .whileAgain ih₁ ho ih₂
  | whileLeave _ ho ih => exact .whileLeave ih ho
  | doEnd _ ho ih => exact .doEnd ih ho
  | doAgain _ ho _ ih₁ ih₂ => exact .doAgain ih₁ ho ih₂
  | doLeave _ ho ih => exact .doLeave ih ho
  | forEnd => exact .forEnd
  | forAgain _ ho _ ih₁ ih₂ => exact .forAgain ih₁ ho ih₂
  | forLeave _ ho ih => exact .forLeave ih ho
  | switchSkip hdefault => exact .switchSkip hdefault
  | switchEnter ht _ ih => exact .switchEnter ht ih

/-! ## From the graph to the statement -/

namespace Graph

variable {g : Graph} {s t : Stmt} {brk cont : Option BlockId} {p q : Place} {n : Nat}
  {as : List Action} {stop : Stop}

/-- **An execution splits**: it begins with one of a statement, and what is left of it follows the
statement. -/
def Splits (g : Graph) (s : Stmt) (brk cont : Option BlockId) (q : Place) (n : Nat)
    (as : List Action) (stop : Stop) : Prop :=
  ∃ as₁ as₂ o m, as = as₁ ++ as₂ ∧ s.Runs as₁ o ∧ m ≤ n ∧ g.After brk cont q m as₂ stop o

/-- The first execution of a statement that ends the sequence it begins. -/
theorem Splits.of_runs {m : Nat} {o : Completion} {as₁ as₂ : List Action} (hs : s.Runs as₁ o)
    (hm : m ≤ n) (h : g.After brk cont q m as₂ stop o) :
    g.Splits s brk cont q n (as₁ ++ as₂) stop :=
  ⟨as₁, as₂, o, m, rfl, hs, hm, h⟩

/-- A split of fewer steps after some actions. -/
theorem Splits.imp {m : Nat} (h : g.Splits s brk cont p m as stop) (before : List Action)
    (hm : m ≤ n) (himp : ∀ as₁ o, s.Runs as₁ o → t.Runs (before ++ as₁) o) :
    g.Splits t brk cont p n (before ++ as) stop := by
  obtain ⟨as₁, as₂, o, k, rfl, hs, hk, hafter⟩ := h
  exact ⟨before ++ as₁, as₂, o, k, (List.append_assoc _ _ _).symm, himp as₁ o hs,
    Nat.le_trans hk hm, hafter⟩

/-- A sequence splits if its first statement does, and the second wherever the first has come to
its end. -/
theorem Splits.seq {m : Place} (h : g.Splits s brk cont m n as stop)
    (ht : ∀ k bs, g.Goes k m bs stop → g.Splits t brk cont q k bs stop) :
    g.Splits (.seq s t) brk cont q n as stop := by
  obtain ⟨as₁, as₂, o, k, rfl, hs, hk, hafter⟩ := h
  by_cases ho : o = .normal
  · subst ho
    exact (ht k as₂ hafter).imp as₁ hk fun _ _ ht => .seq hs ht
  · exact .of_runs (.seqStop hs ho) hk (hafter.of_ne_normal ho)

/-- What a branch does, and what follows it, if its end falls through. -/
theorem Splits.fallThrough {b c : BlockId} (h : g.Splits s brk cont ⟨b, []⟩ n as stop)
    (hl : g.Leads b [(.fallThrough, c)]) : g.Splits s brk cont (g.start c) n as stop := by
  obtain ⟨as₁, as₂, o, k, rfl, hs, hk, hafter⟩ := h
  cases o with
  | normal =>
    obtain ⟨m, rfl, hm⟩ := (hl.goes_on_iff rfl).mp hafter
    exact .of_runs hs (Nat.le_of_succ_le hk) hm
  | broke | continued | returned | halted => exact .of_runs hs hk hafter

/-- What the body of a loop does: it lets the loop go on, or it ends it. -/
theorem Splits.loop {b c a : BlockId} {k : EdgeKind}
    (h : g.Splits s (some a) (some c) ⟨b, []⟩ n as stop) (hl : g.Leads b [(k, c)])
    (hk : k.decided = []) : ∃ as₁ as₂ o m, as = as₁ ++ as₂ ∧ s.Runs as₁ o ∧ m ≤ n ∧
      (o.goesOn = true ∧ g.Goes m (g.start c) as₂ stop ∨
        o.goesOn = false ∧ g.After brk cont (g.start a) m as₂ stop o.outside) := by
  obtain ⟨as₁, as₂, o, m, rfl, hs, hm, hafter⟩ := h
  cases ho : o.goesOn with
  | true =>
    obtain ⟨m', hm', hgoes⟩ := hafter.exists_goes ho hl hk
    exact ⟨as₁, as₂, o, m', rfl, hs, Nat.le_trans hm' hm, Or.inl ⟨ho, hgoes⟩⟩
  | false =>
    exact ⟨as₁, as₂, o, m, rfl, hs, hm,
      Or.inr ⟨ho, (After.outside_iff_of_not_goesOn ho).mp hafter⟩⟩

/-! ### Loops -/

theorem splits_whileLoop {c : Statement} {head body bodyEnd after : BlockId}
    (hc : g.statementsOf head = [c])
    (hlead : g.Leads head [(.trueBranch, body), (.falseBranch, after)])
    (hback : g.Leads bodyEnd [(.loopBack, head)])
    (hs : ∀ n as, g.Goes n (g.start body) as stop →
      g.Splits s (some after) (some head) ⟨bodyEnd, []⟩ n as stop)
    (h : g.Goes n (g.start head) as stop) :
    g.Splits (.whileLoop c s) brk cont (g.start after) n as stop := by
  -- every round through the head takes steps
  induction n using Nat.strongRecOn generalizing as with
  | ind n ih =>
    obtain ⟨m, bs, rfl, ⟨rfl, hgoes⟩ | ⟨rfl, hgoes⟩⟩ := (hlead.goes_head_iff hc).mp h
    · obtain ⟨as₁, as₂, o, k, rfl, hruns, hk, ⟨ho, hgoes⟩ | ⟨ho, hafter⟩⟩ :=
        (hs m bs hgoes).loop hback rfl
      · exact (ih k (by omega) hgoes).imp (.ran c :: .decided true :: as₁) (by omega)
          fun _ _ hagain => .whileAgain hruns ho hagain
      · exact .of_runs (.whileLeave hruns ho) (by omega) hafter
    · exact .of_runs .whileEnd (Nat.le_add_right m 2) hgoes

theorem splits_doLoop {c : Statement} {body bodyEnd test after : BlockId}
    (hend : g.Leads bodyEnd [(.fallThrough, test)]) (hc : g.statementsOf test = [c])
    (hlead : g.Leads test [(.trueBranch, body), (.falseBranch, after)])
    (hs : ∀ n as, g.Goes n (g.start body) as stop →
      g.Splits s (some after) (some test) ⟨bodyEnd, []⟩ n as stop)
    (h : g.Goes n (g.start body) as stop) :
    g.Splits (.doLoop s c) brk cont (g.start after) n as stop := by
  induction n using Nat.strongRecOn generalizing as with
  | ind n ih =>
    obtain ⟨as₁, as₂, o, k, rfl, hruns, hk, ⟨ho, hgoes⟩ | ⟨ho, hafter⟩⟩ := (hs n as h).loop hend rfl
    · obtain ⟨m, bs, rfl, ⟨rfl, hnext⟩ | ⟨rfl, hnext⟩⟩ := (hlead.goes_head_iff hc).mp hgoes
      · have hagain : g.Splits (.doLoop s c) brk cont (g.start after) n
            ((as₁ ++ [.ran c, .decided true]) ++ bs) stop :=
          (ih m (by omega) hnext).imp _ (by omega) fun bs o hagain => by
            rw [List.append_assoc]
            exact .doAgain hruns ho hagain
        rwa [List.append_assoc] at hagain
      · have hdone : g.Splits (.doLoop s c) brk cont (g.start after) n
            ((as₁ ++ [.ran c, .decided false]) ++ bs) stop :=
          ⟨_, bs, .normal, m, rfl, .doEnd hruns ho, by omega, hnext⟩
        rwa [List.append_assoc] at hdone
    · exact .of_runs (.doLeave hruns ho) hk hafter

/-- An execution from the head of a `for` loop goes on to the body, or the condition comes out
false. -/
theorem Goes.of_forTest {c : Option Statement} {head body after : BlockId}
    (hc : g.statementsOf head = c.toList)
    (hlead : g.Leads head (if c.isSome then [(.trueBranch, body), (.falseBranch, after)]
      else [(.fallThrough, body)])) (h : g.Goes n (g.start head) as stop) :
    (∃ m bs, m < n ∧ as = Stmt.forTest c ++ bs ∧ g.Goes m (g.start body) bs stop) ∨
      ∃ c' m bs, c = some c' ∧ m < n ∧ as = .ran c' :: .decided false :: bs ∧
        g.Goes m (g.start after) bs stop := by
  cases c with
  | none =>
    rw [start, hc] at h
    obtain ⟨m, rfl, hm⟩ := (hlead.goes_on_iff rfl).mp h
    exact Or.inl ⟨m, as, Nat.lt_succ_self m, rfl, hm⟩
  | some c =>
    obtain ⟨m, bs, rfl, ⟨rfl, hgoes⟩ | ⟨rfl, hgoes⟩⟩ := (hlead.goes_head_iff hc).mp h
    · exact Or.inl ⟨m, bs, by omega, rfl, hgoes⟩
    · exact Or.inr ⟨c, m, bs, rfl, by omega, rfl, hgoes⟩

theorem splits_forLoop {c u : Option Statement} {head body bodyEnd latch after : BlockId}
    (hc : g.statementsOf head = c.toList)
    (hlead : g.Leads head (if c.isSome then [(.trueBranch, body), (.falseBranch, after)]
      else [(.fallThrough, body)]))
    (hend : g.Leads bodyEnd [(.fallThrough, latch)]) (hu : g.statementsOf latch = u.toList)
    (hback : g.Leads latch [(.loopBack, head)])
    (hs : ∀ n as, g.Goes n (g.start body) as stop →
      g.Splits s (some after) (some latch) ⟨bodyEnd, []⟩ n as stop)
    (h : g.Goes n (g.start head) as stop) :
    g.Splits (.forLoop c u s) brk cont (g.start after) n as stop := by
  induction n using Nat.strongRecOn generalizing as with
  | ind n ih =>
    rcases h.of_forTest hc hlead with ⟨m, bs, hm, rfl, hgoes⟩ | ⟨c, m, bs, rfl, hm, rfl, hgoes⟩
    · obtain ⟨as₁, as₂, o, k, rfl, hruns, hk, ⟨ho, hgoes⟩ | ⟨ho, hafter⟩⟩ :=
        (hs m bs hgoes).loop hend rfl
      · obtain ⟨_, bs, rfl, rfl, hlatch⟩ := goes_start_iff.mp hgoes
        obtain ⟨m', rfl, hnext⟩ := (hback.goes_on_iff rfl).mp hlatch
        have hagain : g.Splits (.forLoop c u s) brk cont (g.start after) n
            ((Stmt.forTest c ++ as₁ ++ u.toList.map .ran) ++ bs) stop :=
          (ih m' (by omega) hnext).imp _ (by omega) fun _ _ hagain => .forAgain hruns ho hagain
        rwa [List.append_assoc, List.append_assoc, ← hu] at hagain
      · rw [← List.append_assoc]
        exact .of_runs (.forLeave hruns ho) (by omega) hafter
    · exact .of_runs .forEnd (Nat.le_of_lt hm) hgoes

end Graph

mutual

/-- **What the graph does, the statement does**: an execution from the place where a statement is
laid out begins with one of the statement, and what is left of it follows the statement. -/
theorem Stmt.Laid.splits {g : Graph} {stop : Stop} : ∀ {s : Stmt} {brk cont : Option BlockId}
    {p q : Place} {n : Nat} {as : List Action}, s.Laid g brk cont p q → g.Goes n p as stop →
      g.Splits s brk cont q n as stop
  | .skip, _, _, _, _, n, _, hlaid, h => by
    rw [Stmt.Laid] at hlaid
    subst hlaid
    exact .of_runs .skip (Nat.le_refl n) h
  | .plain s, _, _, _, _, _, _, hlaid, h => by
    rw [Stmt.Laid] at hlaid
    subst hlaid
    obtain ⟨m, bs, rfl, rfl, hnext⟩ := Graph.goes_cons_iff.mp h
    exact .of_runs .plain (Nat.le_succ m) hnext
  | .ret s, _, _, ⟨b, _⟩, _, _, _, ⟨rfl, hclose⟩, h => by
    obtain ⟨m, bs, rfl, rfl, hnext⟩ := Graph.goes_cons_iff.mp h
    obtain ⟨rfl, rfl, hstop⟩ | ⟨_, hmem, -⟩ := hclose.goes_iff.mp hnext
    · exact .of_runs .ret (Nat.zero_le _) ⟨rfl, (Option.some.inj hstop).symm⟩
    · cases hmem
  | .halt s, _, _, ⟨b, _⟩, _, _, _, ⟨rfl, hclose⟩, h => by
    obtain ⟨m, bs, rfl, rfl, hnext⟩ := Graph.goes_cons_iff.mp h
    obtain ⟨rfl, rfl, hstop⟩ | ⟨_, hmem, -⟩ := hclose.goes_iff.mp hnext
    · exact .of_runs .halt (Nat.zero_le _) ⟨rfl, (Option.some.inj hstop).symm⟩
    · cases hmem
  | .brk s, brk, _, ⟨b, _⟩, _, _, _, ⟨rfl, hlead⟩, h => by
    obtain ⟨m, bs, rfl, rfl, hnext⟩ := Graph.goes_cons_iff.mp h
    obtain ⟨-, -, hstop⟩ | ⟨_, hmem, m, bs, rfl, rfl, htarget⟩ := hlead.goes_iff.mp hnext
    · cases hstop
    · obtain ⟨c, hc, rfl⟩ := List.mem_map.mp hmem
      exact ⟨_, bs, .broke, m, rfl, .brk, by omega, c, Option.mem_toList.mp hc, htarget⟩
  | .cont s, _, cont, ⟨b, _⟩, _, _, _, ⟨rfl, hlead⟩, h => by
    obtain ⟨m, bs, rfl, rfl, hnext⟩ := Graph.goes_cons_iff.mp h
    obtain ⟨-, -, hstop⟩ | ⟨_, hmem, m, bs, rfl, rfl, htarget⟩ := hlead.goes_iff.mp hnext
    · cases hstop
    · obtain ⟨c, hc, rfl⟩ := List.mem_map.mp hmem
      exact ⟨_, bs, .continued, m, rfl, .cont, by omega, c, Option.mem_toList.mp hc, htarget⟩
  | .seq s t, _, _, _, _, _, _, ⟨m, m', hs, hfalls, ht⟩, h =>
    (hs.splits h).seq fun k bs hk => by
      obtain ⟨k', hk', hgoes⟩ := hfalls.exists_goes hk
      exact (ht.splits hgoes).imp [] hk' fun _ _ hruns => hruns
  | .ifThen c s, _, _, ⟨b, _⟩, _, _, _, ⟨yes, yesEnd, after, rfl, hlead, hs, hend, rfl⟩, h => by
    obtain ⟨m, bs, rfl, ⟨rfl, hnext⟩ | ⟨rfl, hnext⟩⟩ := hlead.goes_test_iff.mp h
    · exact ((hs.splits hnext).fallThrough hend).imp [.ran c, .decided true] (by omega)
        fun _ _ hruns => .ifThen hruns
    · exact .of_runs .ifThenSkip (by omega) hnext
  | .ifElse c s t, _, _, ⟨b, _⟩, _, _, _,
    ⟨yes, yesEnd, no, noEnd, after, rfl, hlead, hs, hend, ht, hend', rfl⟩, h => by
    obtain ⟨m, bs, rfl, ⟨rfl, hnext⟩ | ⟨rfl, hnext⟩⟩ := hlead.goes_test_iff.mp h
    · exact ((hs.splits hnext).fallThrough hend).imp [.ran c, .decided true] (by omega)
        fun _ _ hruns => .ifElse true hruns
    · exact ((ht.splits hnext).fallThrough hend').imp [.ran c, .decided false] (by omega)
        fun _ _ hruns => .ifElse false hruns
  | .whileLoop c s, _, _, ⟨b, _⟩, _, _, _,
    ⟨head, body, bodyEnd, after, rfl, hp, hc, hlead, hs, hback, rfl⟩, h => by
    obtain ⟨m, rfl, hnext⟩ := (hp.goes_on_iff rfl).mp h
    exact (Graph.splits_whileLoop hc hlead hback (fun _ _ h => hs.splits h) hnext).imp []
      (Nat.le_succ m) fun _ _ hruns => hruns
  | .doLoop s c, _, _, ⟨b, _⟩, _, _, _,
    ⟨body, bodyEnd, test, after, rfl, hp, hs, hend, hc, hlead, rfl⟩, h => by
    obtain ⟨m, rfl, hnext⟩ := (hp.goes_on_iff rfl).mp h
    exact (Graph.splits_doLoop hend hc hlead (fun _ _ h => hs.splits h) hnext).imp []
      (Nat.le_succ m) fun _ _ hruns => hruns
  | .forLoop c u s, _, _, ⟨b, _⟩, _, _, _,
    ⟨head, body, bodyEnd, latch, after, rfl, hp, hc, hlead, hs, hend, hu, hback, rfl⟩, h => by
    obtain ⟨m, rfl, hnext⟩ := (hp.goes_on_iff rfl).mp h
    exact (Graph.splits_forLoop hc hlead hend hu hback (fun _ _ h => hs.splits h) hnext).imp []
      (Nat.le_succ m) fun _ _ hruns => hruns
  | .switch c groups, _, _, ⟨b, _⟩, _, _, _, ⟨heads, after, rfl, hlead, hgroups, rfl⟩, h => by
    obtain ⟨m, bs, rfl, rfl, hnext⟩ := Graph.goes_cons_iff.mp h
    obtain ⟨-, -, hstop⟩ | ⟨_, hmem, m, bs, rfl, rfl, htarget⟩ := hlead.goes_iff.mp hnext
    · cases hstop
    · rcases List.mem_append.mp hmem with hmem | hmem
      · obtain ⟨head, hhead, rfl⟩ := List.mem_map.mp hmem
        obtain ⟨t, ht, as₁, as₂, o, k, rfl, hruns, hk, hafter⟩ := hgroups.exists_entry hhead htarget
        exact ⟨.ran c :: as₁, as₂, _, k, rfl, .switchEnter ht hruns, by omega,
          Graph.After.outside_iff.mp hafter⟩
      · split at hmem
        · cases hmem
        · next hdefault =>
          rw [List.mem_singleton] at hmem
          subst hmem
          exact ⟨[.ran c], bs, .normal, m, rfl, .switchSkip (Bool.not_eq_true _ ▸ hdefault),
            by omega, htarget⟩

theorem Groups.Laid.splits {g : Graph} {stop : Stop} : ∀ {groups : Groups}
    {brk cont : Option BlockId} {heads : List BlockId} {after : BlockId} {n : Nat}
    {as : List Action}, groups.Laid g brk cont heads after →
      g.Goes n (g.start (heads.headD after)) as stop →
      g.Splits groups.body brk cont (g.start after) n as stop
  | .none, _, _, _, _, n, _, hlaid, h => by
    rw [Groups.Laid] at hlaid
    subst hlaid
    exact .of_runs .skip (Nat.le_refl n) h
  | .group _ s rest, _, _, _, _, _, _, ⟨head, bodyEnd, tail, rfl, hs, hl, hrest⟩, h =>
    (hs.splits h).seq fun k bs hk => by
      obtain ⟨m, rfl, hnext⟩ := (hl.goes_on_iff rfl).mp hk
      exact (hrest.splits hnext).imp [] (Nat.le_succ m) fun _ _ hruns => hruns

/-- An execution from the start of a group splits by what a `switch` may do. -/
theorem Groups.Laid.exists_entry {g : Graph} {stop : Stop} : ∀ {groups : Groups}
    {brk cont : Option BlockId} {heads : List BlockId} {after head : BlockId} {n : Nat}
    {as : List Action}, groups.Laid g brk cont heads after → head ∈ heads →
      g.Goes n (g.start head) as stop →
      ∃ t ∈ groups.entries, g.Splits t brk cont (g.start after) n as stop
  | .none, _, _, _, _, _, _, _, hlaid, hhead, _ => by
    rw [Groups.Laid] at hlaid
    subst hlaid
    cases hhead
  | .group isDefault s rest, _, _, _, _, _, _, _, ⟨head, bodyEnd, tail, rfl, hs, hl, hrest⟩, hhead,
    h => by
    rcases List.mem_cons.mp hhead with rfl | hhead
    · refine ⟨_, List.mem_cons_self, (hs.splits h).seq fun k bs hk => ?_⟩
      obtain ⟨m, rfl, hnext⟩ := (hl.goes_on_iff rfl).mp hk
      exact (hrest.splits hnext).imp [] (Nat.le_succ m) fun _ _ hruns => hruns
    · obtain ⟨t, ht, hsplits⟩ := hrest.exists_entry hhead h
      exact ⟨t, List.mem_cons_of_mem _ ht, hsplits⟩

end

/-! ## A whole body -/

/-- How the function ends when its body has ended. A `break` or `continue` that leaves nothing does
not end it. -/
def Completion.stop? : Completion → Option Stop
  | .normal | .returned => some .left
  | .halted => some .halted
  | .broke | .continued => none

/-- The function is left by a `return`, or by falling off its end. -/
theorem Stmt.exists_stop?_left {s : Stmt} {as : List Action} :
    (∃ o, s.Runs as o ∧ o.stop? = some .left) ↔ s.Runs as .normal ∨ s.Runs as .returned := by
  constructor
  · rintro ⟨o, h, ho⟩
    cases o with
    | normal => exact Or.inl h
    | returned => exact Or.inr h
    | broke | continued | halted => cases ho
  · rintro (h | h) <;> exact ⟨_, h, rfl⟩

theorem Stmt.exists_stop?_halted {s : Stmt} {as : List Action} :
    (∃ o, s.Runs as o ∧ o.stop? = some .halted) ↔ s.Runs as .halted := by
  constructor
  · rintro ⟨o, h, ho⟩
    cases o with
    | halted => exact h
    | normal | broke | continued | returned => cases ho
  · exact fun h => ⟨_, h, rfl⟩

theorem Graph.After.of_stop? {g : Graph} {e : BlockId} {stop : Stop} {o : Completion}
    (he : g.Closes e (some .left) []) (ho : o.stop? = some stop) :
    g.After none none ⟨e, []⟩ 0 [] stop o := by
  cases o with
  | normal => exact he.goes_iff.mpr (Or.inl ⟨rfl, rfl, ho⟩)
  | returned | halted => exact ⟨rfl, (Option.some.inj ho).symm⟩
  | broke | continued => cases ho

theorem Graph.After.stop?_eq {g : Graph} {e : BlockId} {n : Nat} {as : List Action} {stop : Stop}
    {o : Completion} (he : g.Closes e (some .left) []) (h : g.After none none ⟨e, []⟩ n as stop o) :
    as = [] ∧ o.stop? = some stop := by
  cases o with
  | normal =>
    obtain ⟨-, rfl, hstop⟩ | ⟨_, hmem, -⟩ := he.goes_iff.mp h
    · exact ⟨rfl, hstop⟩
    · cases hmem
  | returned | halted =>
    obtain ⟨rfl, rfl⟩ := h
    exact ⟨rfl, rfl⟩
  | broke | continued =>
    obtain ⟨_, hb, -⟩ := h
    cases hb

/-- **The body of a function and its graph do the same**, if the body is laid out up to the block in
which the function is left. -/
theorem Stmt.Laid.exists_goes_iff {g : Graph} {s : Stmt} {b e : BlockId} {as : List Action}
    {stop : Stop} (h : s.Laid g none none (g.start b) ⟨e, []⟩) (he : g.Closes e (some .left) []) :
    (∃ n, g.Goes n (g.start b) as stop) ↔ ∃ o, s.Runs as o ∧ o.stop? = some stop := by
  constructor
  · rintro ⟨n, hgoes⟩
    obtain ⟨as₁, as₂, o, m, rfl, hruns, -, hafter⟩ := h.splits hgoes
    obtain ⟨rfl, ho⟩ := hafter.stop?_eq he
    rw [List.append_nil]
    exact ⟨o, hruns, ho⟩
  · rintro ⟨o, hruns, ho⟩
    obtain ⟨m, hm⟩ := hruns.does stop h (.of_stop? he ho)
    rw [List.append_nil] at hm
    exact ⟨m, hm⟩

end NullFlow
