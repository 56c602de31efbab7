import NullFlow.Graph.Reach
import NullFlow.Total

/-!
# Dominators and loops

A block **dominates** another if every walk from the entry to the other passes through it. The
search keeps a set of blocks for each reachable block, at first all reachable ones, but for the
entry only itself. In each round the set of every block but the entry is narrowed to the block and
what the sets of its predecessors have in common, until a round changes nothing. By then the sets
hold the dominators. That the search ends is because a set only ever loses members
(`DominatorSets.wide`).

The dominators of a block lie on one chain, so it is enough to keep, for each reachable block, the
closest of them, its **immediate dominator**; the entry is its own. It is the one that has the most
dominators itself.

A **loop** is closed by an edge that leads back to a dominator of its source.
-/

namespace NullFlow

namespace Graph

/-- The blocks that several sets have in common; none if there is no set. -/
def common : List (Std.ExtTreeSet BlockId) → Std.ExtTreeSet BlockId
  | [] => ∅
  | s :: ss => ss.foldl (· ∩ ·) s

theorem mem_foldl_inter {ss : List (Std.ExtTreeSet BlockId)} {s : Std.ExtTreeSet BlockId}
    {b : BlockId} : b ∈ ss.foldl (· ∩ ·) s ↔ b ∈ s ∧ ∀ t ∈ ss, b ∈ t := by
  induction ss generalizing s with
  | nil => simp
  | cons t ss ih =>
    rw [List.foldl_cons, ih, Std.ExtTreeSet.mem_inter_iff, List.forall_mem_cons, and_assoc]

theorem mem_common {ss : List (Std.ExtTreeSet BlockId)} {b : BlockId} :
    b ∈ common ss ↔ (∃ s, s ∈ ss) ∧ ∀ s ∈ ss, b ∈ s := by
  cases ss with
  | nil => simp [common]
  | cons s ss =>
    rw [common, mem_foldl_inter, List.forall_mem_cons]
    exact ⟨fun h => ⟨⟨s, List.mem_cons_self⟩, h⟩, fun h => h.2⟩

/-- A set that lacks a member of a greater one is smaller. -/
theorem size_lt_of_subset {s t : Std.ExtTreeSet BlockId} (h : ∀ b ∈ s, b ∈ t) {c : BlockId}
    (hc : c ∈ t) (hn : c ∉ s) : s.size < t.size := by
  have hsub : ∀ b ∈ s.insert c, b ∈ t := by
    intro b hb
    rcases Std.ExtTreeSet.mem_insert.mp hb with hb | hb
    · rw [Std.LawfulEqCmp.compare_eq_iff_eq] at hb
      exact hb ▸ hc
    · exact h b hb
  have hle : (s.insert c).size ≤ t.size := by
    rw [← Std.ExtTreeSet.size_inter_eq_size_left hsub]
    exact Std.ExtTreeSet.size_inter_le_size_right
  rw [Std.ExtTreeSet.size_insert, if_neg (by simpa using hn)] at hle
  exact hle

/-- **The dominators of a block by the sets of its predecessors**: the block, and what the sets
have in common. A predecessor without a set, which is an unreachable one, has no say. -/
def dominatorsBy (g : Graph) (sets : Std.ExtTreeMap BlockId (Std.ExtTreeSet BlockId))
    (b : BlockId) : Std.ExtTreeSet BlockId :=
  (common ((g.predecessors b).filterMap (sets[·]?))).insert b

theorem mem_dominatorsBy {g : Graph} {sets : Std.ExtTreeMap BlockId (Std.ExtTreeSet BlockId)}
    {a b : BlockId} : a ∈ g.dominatorsBy sets b ↔
      a = b ∨ (∃ p ∈ g.predecessors b, p ∈ sets)
        ∧ ∀ p ∈ g.predecessors b, ∀ s, sets[p]? = some s → a ∈ s := by
  have hex : (∃ s, s ∈ (g.predecessors b).filterMap (sets[·]?))
      ↔ ∃ p ∈ g.predecessors b, p ∈ sets := by
    simp only [List.mem_filterMap, Std.ExtTreeMap.mem_iff_isSome_getElem?, Option.isSome_iff_exists]
    exact ⟨fun ⟨s, p, hp, hs⟩ => ⟨p, hp, s, hs⟩, fun ⟨p, hp, s, hs⟩ => ⟨s, p, hp, hs⟩⟩
  unfold dominatorsBy
  rw [Std.ExtTreeSet.mem_insert, Std.LawfulEqCmp.compare_eq_iff_eq, mem_common, hex, eq_comm]
  simp only [List.mem_filterMap]
  refine or_congr_right (and_congr_right fun _ => ?_)
  exact ⟨fun h p hp s hs => h s ⟨p, hp, hs⟩, fun h s ⟨p, hp, hs⟩ => h p hp s hs⟩

/-- **Smaller sets for the same blocks leave fewer dominators.** -/
theorem mem_dominatorsBy_of_insert {g : Graph}
    {sets : Std.ExtTreeMap BlockId (Std.ExtTreeSet BlockId)} {c : BlockId}
    {s t : Std.ExtTreeSet BlockId} (hs : sets[c]? = some s) (hle : ∀ d ∈ t, d ∈ s) {a b : BlockId}
    (h : a ∈ g.dominatorsBy (sets.insert c t) b) : a ∈ g.dominatorsBy sets b := by
  obtain ⟨hc, -⟩ := Std.ExtTreeMap.getElem?_eq_some_iff.mp hs
  rw [mem_dominatorsBy] at h ⊢
  refine h.imp_right fun ⟨⟨p, hp, hin⟩, hall⟩ => ⟨⟨p, hp, ?_⟩, fun q hq u hu => ?_⟩
  · rcases Std.ExtTreeMap.mem_insert.mp hin with h | h
    · rw [Std.LawfulEqCmp.compare_eq_iff_eq] at h
      exact h ▸ hc
    · exact h
  · have hq' := hall q hq
    by_cases h : c = q
    · subst h
      rw [hs] at hu
      rw [← Option.some.inj hu]
      exact hle a (hq' t (by simp))
    · refine hq' u ?_
      rwa [Std.ExtTreeMap.getElem?_insert,
        if_neg fun h' => h (Std.LawfulEqCmp.compare_eq_iff_eq.mp h')]

end Graph

/-- **The sets of the search**, for each reachable block one. -/
structure DominatorSets (g : Graph) where
  sets : Std.ExtTreeMap BlockId (Std.ExtTreeSet BlockId)
  /-- No set has to grow: what the predecessors of a block leave of it is in it. -/
  wide : ∀ {b s}, b ≠ g.entry → sets[b]? = some s → ∀ a ∈ g.dominatorsBy sets b, a ∈ s

namespace DominatorSets

variable {g : Graph}

/-- The set of a block at first. -/
def initial (g : Graph) (b : BlockId) : Std.ExtTreeSet BlockId :=
  if b = g.entry then {b} else g.reachable

/-- The sets at first, of all reachable blocks. -/
def initialSets (g : Graph) : Std.ExtTreeMap BlockId (Std.ExtTreeSet BlockId) :=
  Std.ExtTreeMap.ofList (g.reachable.toList.map fun b => (b, initial g b))

theorem getElem?_initialSets (b : BlockId) :
    (initialSets g)[b]? = if b ∈ g.reachable then some (initial g b) else none := by
  unfold initialSets
  split
  · next hb =>
    have hone : (g.reachable.toList.map fun b => (b, initial g b)).Pairwise
        fun x y => ¬ compare x.1 y.1 = .eq :=
      List.pairwise_map.mpr (Std.ExtTreeSet.distinct_toList (t := g.reachable))
    have hmem : (b, initial g b) ∈ g.reachable.toList.map fun b => (b, initial g b) :=
      List.mem_map.mpr ⟨b, Std.ExtTreeSet.mem_toList.mpr hb, rfl⟩
    exact Std.ExtTreeMap.getElem?_ofList_of_mem Std.ReflCmp.compare_self hone hmem
  · next hb =>
    refine Std.ExtTreeMap.getElem?_ofList_of_contains_eq_false ?_
    simpa using hb

theorem mem_initialSets {b : BlockId} : b ∈ initialSets g ↔ b ∈ g.reachable := by
  rw [Std.ExtTreeMap.mem_iff_isSome_getElem?, getElem?_initialSets]
  split <;> simp [*]

/-- What a set holds at first is reachable. -/
theorem mem_reachable_of_mem_initial {a b : BlockId} (h : a ∈ initial g b) : a ∈ g.reachable := by
  unfold initial at h
  split at h
  · next hb =>
    rw [Graph.mem_singleton.mp h, hb]
    exact g.entry_mem_reachable
  · exact h

/-- What the predecessors of a block leave of it at first is reachable. -/
theorem wide_initialSets {a b : BlockId} {s : Std.ExtTreeSet BlockId} (hb : b ≠ g.entry)
    (hs : (initialSets g)[b]? = some s) (ha : a ∈ g.dominatorsBy (initialSets g) b) : a ∈ s := by
  obtain ⟨hin, -⟩ := Std.ExtTreeMap.getElem?_eq_some_iff.mp hs
  have hr := mem_initialSets.mp hin
  rw [getElem?_initialSets, if_pos hr] at hs
  obtain rfl := Option.some.inj hs
  rw [show initial g b = g.reachable from if_neg hb]
  rcases Graph.mem_dominatorsBy.mp ha with rfl | ⟨⟨p, hp, hin⟩, hall⟩
  · exact hr
  · refine mem_reachable_of_mem_initial (hall p hp (initial g p) ?_)
    rw [getElem?_initialSets, if_pos (mem_initialSets.mp hin)]

/-- **The search at its beginning.** -/
def start (g : Graph) : DominatorSets g where
  sets := initialSets g
  wide hb hs _ ha := wide_initialSets hb hs ha

/-- After the set of one block is narrowed still no set has to grow. -/
theorem wide_insert (d : DominatorSets g) {c : BlockId} {u : Std.ExtTreeSet BlockId}
    (hc : c ≠ g.entry) (hu : d.sets[c]? = some u) {a b : BlockId} {s : Std.ExtTreeSet BlockId}
    (hb : b ≠ g.entry) (hs : (d.sets.insert c (g.dominatorsBy d.sets c))[b]? = some s)
    (ha : a ∈ g.dominatorsBy (d.sets.insert c (g.dominatorsBy d.sets c)) b) : a ∈ s := by
  -- the sets of the predecessors have only shrunk
  have hold := Graph.mem_dominatorsBy_of_insert hu (d.wide hc hu) ha
  rw [Std.ExtTreeMap.getElem?_insert] at hs
  split at hs
  · next h =>
    rw [Std.LawfulEqCmp.compare_eq_iff_eq] at h
    obtain rfl := Option.some.inj hs
    exact h ▸ hold
  · exact d.wide hb hs a hold

/-- **Narrows the set of a block** to what the sets of its predecessors leave of it. The entry keeps
its set. -/
def narrow (d : DominatorSets g) (b : BlockId) : DominatorSets g :=
  if hb : b = g.entry then d
  else
    match hs : d.sets[b]? with
    | none => d
    | some s =>
      if g.dominatorsBy d.sets b = s then d
      else
        { sets := d.sets.insert b (g.dominatorsBy d.sets b)
          wide := fun hc ht _ ha => d.wide_insert hb hs hc ht ha }

/-- **A round**: narrows the sets of all reachable blocks in ascending order. -/
def round (d : DominatorSets g) : DominatorSets g := g.reachable.toList.foldl narrow d

/-- How many members the set of a block has. -/
def size (d : DominatorSets g) (b : BlockId) : Nat := (d.sets[b]?).elim 0 (·.size)

/-- How many members all sets have. -/
def weight (d : DominatorSets g) : Nat := total (g.reachable.toList.map d.size)

/-- **Narrowing changes nothing, or some set loses members.** -/
theorem narrow_eq_or_lighter (d : DominatorSets g) {b : BlockId} (hb : b ∈ g.reachable) :
    d.narrow b = d ∨ (d.narrow b).weight < d.weight := by
  unfold narrow
  split
  · exact Or.inl rfl
  · next hne =>
    split
    · exact Or.inl rfl
    · next s hs =>
      split
      · exact Or.inl rfl
      · next h =>
        -- what is left differs from the set and is part of it, so a member is lost
        have hlt : (g.dominatorsBy d.sets b).size < s.size := by
          have hsub := d.wide hne hs
          by_cases hall : ∀ c ∈ s, c ∈ g.dominatorsBy d.sets b
          · exact absurd (Std.ExtTreeSet.ext_mem fun c => ⟨hsub c, hall c⟩) h
          · simp only [Classical.not_forall] at hall
            obtain ⟨c, hc, hn⟩ := hall
            exact Graph.size_lt_of_subset hsub hc hn
        refine Or.inr (total_map_lt (fun c _ => ?_) (Std.ExtTreeSet.mem_toList.mpr hb) ?_)
        all_goals unfold size
        · rw [Std.ExtTreeMap.getElem?_insert]
          split
          · next hc =>
            rw [Std.LawfulEqCmp.compare_eq_iff_eq] at hc
            rw [← hc, hs]
            exact Nat.le_of_lt hlt
          · exact Nat.le_refl _
        · rw [Std.ExtTreeMap.getElem?_insert_self, hs]
          exact hlt

/-- Narrowing several sets changes nothing, or some set loses members. -/
theorem foldl_narrow_eq_or_lighter (d : DominatorSets g) {bs : List BlockId}
    (hbs : ∀ b ∈ bs, b ∈ g.reachable) :
    bs.foldl narrow d = d ∨ (bs.foldl narrow d).weight < d.weight := by
  induction bs generalizing d with
  | nil => exact Or.inl rfl
  | cons b bs ih =>
    have htail := ih (d.narrow b) fun c hc => hbs c (List.mem_cons_of_mem b hc)
    rw [List.foldl_cons]
    rcases d.narrow_eq_or_lighter (hbs b List.mem_cons_self) with h | h
    · rwa [h] at htail ⊢
    · rcases htail with h' | h'
      · exact Or.inr (by rw [h']; exact h)
      · exact Or.inr (Nat.lt_trans h' h)

/-- **A round changes nothing, or some set loses members.** -/
theorem round_eq_or_lighter (d : DominatorSets g) : d.round = d ∨ d.round.weight < d.weight :=
  d.foldl_narrow_eq_or_lighter fun _ hb => Std.ExtTreeSet.mem_toList.mp hb

/-- **The search**: rounds until one changes nothing. -/
def settle (d : DominatorSets g) : DominatorSets g :=
  if d.round.sets = d.sets then d else d.round.settle
termination_by d.weight
decreasing_by
  next h => exact d.round_eq_or_lighter.resolve_left fun h' => h (congrArg sets h')

/-- **The closest dominator** of a block, out of the set of its dominators: the one with the largest
set besides the block itself, of equal ones the last. -/
def closest (d : DominatorSets g) (b : BlockId) (s : Std.ExtTreeSet BlockId) : Option BlockId :=
  (s.toList.filter (· != b)).reverse.maxOn? d.size

/-- **The immediate dominators** according to the sets. -/
def immediate (d : DominatorSets g) : Std.ExtTreeMap BlockId BlockId :=
  d.sets.filterMap fun b s => if b = g.entry then some b else d.closest b s

end DominatorSets

namespace Graph

/-- **Brings the immediate dominators up to date.** A graph without blocks has none. -/
def computeDominators (g : Graph) : Graph :=
  if g.blocks.isEmpty then { g with dominators := ∅ }
  else { g with dominators := (DominatorSets.start g).settle.immediate }

/-- The blocks met on the way up from a block, closest first, at most `steps` of them. -/
def ascend (g : Graph) : (steps : Nat) → BlockId → List BlockId
  | 0, _ => []
  | steps + 1, b =>
    match g.dominators[b]? with
    | none => []
    | some d => if d = b then [d] else d :: g.ascend steps d

/-- **Whether one block dominates another**, by the immediate dominators last computed. -/
def dominates (g : Graph) (a b : BlockId) : Bool :=
  a == b || (g.ascend g.dominators.size b).contains a

/-- **The edges that close a loop**, as pairs of their source and the head of the loop, in the
order of the edges. -/
def loops (g : Graph) : List (BlockId × BlockId) :=
  (g.edges.filter fun e => g.dominators.contains e.source && g.dominates e.target e.source).map
    fun e => (e.source, e.target)

/-- Brings everything that is derived from blocks and edges up to date. -/
def finish (g : Graph) : Graph := g.computeDominators.findUnreachable

end Graph

end NullFlow
