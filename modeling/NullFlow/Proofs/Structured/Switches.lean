import NullFlow.Proofs.Structured.Lays

/-!
# Parts of a node and switches

Where the walk inside a node follows the reading inside it, what is made of several parts follows
too. The cases of a `switch` are such a list of parts, but each of them is entered from two places:
from the block that dispatches, and from the end of the case before it. So the end of a case stays
open until the next one begins (`Builder.Cased`).
-/

namespace NullFlow

namespace Build

open C (Node)
open Builder

variable {nulls : List String} {n c : Node} {visit : Visit n} {read : Node.Reading n} {r : C.Role}
  {st : Stmt} {s A : Builder} {label : String}

/-! ## Parts of a node -/

/-- **A walk follows a reading**: it lays out what the reading says, wherever that says
something. -/
def Follows (visit : Visit n) (read : Node.Reading n) : Prop :=
  ∀ c (hc : sizeOf c < sizeOf n) st, read c hc = some st → Lays st (visit c hc)

theorem Follows.lays_appendAll (h : Follows visit read) : ∀ {parts : List Node}
    {hparts : ∀ d ∈ parts, sizeOf d < sizeOf n} {st : Stmt},
    Node.sequence? read parts hparts = some st → Lays st (appendAll visit parts hparts)
  | [], _, _, hst => by
    cases hst
    exact lays_pure
  | c :: rest, hparts, _, hst => by
    simp only [Node.sequence?, Option.bind_eq_bind, Option.bind_eq_some_iff] at hst
    obtain ⟨first, hfirst, second, hsecond, hst⟩ := hst
    cases hst
    rw [appendAll_cons]
    exact (h c _ first hfirst).seq (h.lays_appendAll hsecond)

theorem appendChild_of_child? (hc : n.child? r = some c) :
    appendChild n visit r = visit c (Node.sizeOf_child? hc) := by
  funext cur
  unfold appendChild
  split
  · next d hd =>
    cases hc.symm.trans hd
    rfl
  · next hnone => cases hc.symm.trans hnone

theorem appendElse_of_child? (hc : n.child? .alternative = some c) :
    appendElse n visit = if c.kind == .elseClause then
      appendAll visit c.namedChildren
        fun _ hd => Nat.lt_trans (Node.sizeOf_namedChildren hd) (Node.sizeOf_child? hc)
    else visit c (Node.sizeOf_child? hc) := by
  funext cur
  unfold appendElse
  split
  · next d hd =>
    cases hc.symm.trans hd
    split <;> rfl
  · next hnone => cases hc.symm.trans hnone

theorem Follows.lays_appendChild (h : Follows visit read) (hst : n.childStmt? read r = some st) :
    Lays st (appendChild n visit r) := by
  unfold Node.childStmt? at hst
  split at hst
  · next c hc =>
    rw [appendChild_of_child? hc]
    exact h c _ st hst
  · cases hst

theorem Follows.lays_appendElse (h : Follows visit read) (hst : n.elseStmt? read = some st) :
    Lays st (appendElse n visit) := by
  unfold Node.elseStmt? at hst
  split at hst
  · next c hc =>
    rw [appendElse_of_child? hc]
    split at hst
    · next hkind =>
      rw [if_pos hkind]
      exact h.lays_appendAll hst
    · next hkind =>
      rw [if_neg hkind]
      exact h c _ st hst
  · cases hst

/-! ## Switches -/

/-- **What the cases of a `switch` leave behind**, each in a block of `heads`. The end of the last
one is still open. -/
structure Cased (groups : Groups) (s : Builder) (dispatch : Nat) (previous last : Option Nat)
    (heads : List Nat) (t : Builder) : Prop where
  count_le : s.count ≤ t.count
  fresh : t.Fresh
  frame_eq : t.frame = s.frame
  site_eq : ∀ x < s.count, x ≠ dispatch → x ∉ previous → t.site x = s.site x
  site_dispatch : t.site dispatch = (s.site dispatch).addEdges (heads.map (⟨dispatch, ·, .jump⟩))
  isOpen : ∀ l ∈ last, (t.site l).IsOpen ∧ l ≠ dispatch ∧ (l ∈ previous ∨ s.count ≤ l)
  laid : ∀ (g : Graph) (after : BlockId),
    (∀ x : Nat, x ∈ previous ∨ s.count ≤ x → x < t.count → x ∉ last → g.site x = t.site x) →
    (∀ l ∈ last, g.site l = (t.site l).addEdge ⟨l, after, .fallThrough⟩) →
    groups.Laid g s.breaks.head? s.continues.head? heads after ∧
      ∀ p ∈ previous, g.site p = (s.site p).addEdge ⟨p, heads.headD after, .fallThrough⟩

/-- **The start of a case**: its block is new, the dispatching block leads there, and the end of the
case before it too. -/
structure Opened (s : Builder) (dispatch : Nat) (previous : Option Nat) (label : String)
    (t : Builder) : Prop where
  count_eq : t.count = s.count + 1
  fresh : t.Fresh
  frame_eq : t.frame = s.frame
  site_eq : ∀ x < s.count, x ≠ dispatch → x ∉ previous → t.site x = s.site x
  site_dispatch : t.site dispatch = (s.site dispatch).addEdge ⟨dispatch, s.count, .jump⟩
  site_previous : ∀ p ∈ previous, t.site p = (s.site p).addEdge ⟨p, s.count, .fallThrough⟩
  site_created : t.site s.count = .created s.count label

theorem opened_of_created (label : String) {dispatch : Nat} {previous : Option Nat} (hs : s.Fresh)
    (hlt : dispatch < s.count) (hprevious : ∀ p ∈ previous, p < s.count ∧ p ≠ dispatch)
    (hA : (s.createBlock label).2.addEdge dispatch s.count .jump = A) :
    Opened s dispatch previous label (previous.elim A (A.addEdge · s.count .fallThrough)) := by
  have hcount : A.count = s.count + 1 := by subst hA; simp
  have hdispatch : dispatch ∉ previous := fun h => (hprevious dispatch h).2 rfl
  have hnew : ∀ x ≥ s.count, x ∉ previous := fun x hx h => by
    have hlt := (hprevious x h).1
    omega
  refine ⟨?_, fun x hx => ?_, ?_, fun x hx hne hxp => ?_, ?_, fun p hp => ?_, ?_⟩
  · rw [count_addEdge?, hcount]
  · rw [count_addEdge?, hcount] at hx
    rw [site_addEdge?, if_neg (hnew x (by omega))]
    subst hA
    simp (disch := omega) [if_neg, hs.site_eq]
  · rw [frame_addEdge?]
    subst hA
    simp
  · rw [site_addEdge?, if_neg hxp]
    subst hA
    simp (disch := omega) [if_neg]
  · rw [site_addEdge?, if_neg hdispatch]
    subst hA
    simp (disch := omega) [if_neg]
  · obtain ⟨hlt, hne⟩ := hprevious p hp
    rw [site_addEdge?, if_pos hp]
    subst hA
    simp (disch := omega) [if_neg]
  · rw [site_addEdge?, if_neg (hnew _ (Nat.le_refl _))]
    subst hA
    simp (disch := omega) [if_neg, hs.site_eq]

/-- One more case before the others. -/
theorem Cased.cons {t u : Builder} {body : Stmt} {groups : Groups} {dispatch m : Nat}
    {previous last : Option Nat} {heads : List Nat} (isDefault : Bool)
    (hlt : dispatch < s.count)
    (hprevious : ∀ p ∈ previous, p < s.count ∧ p ≠ dispatch)
    (ho : Opened s dispatch previous label A) (hext : A.Extends s.count t m)
    (hlays : LaysOut body s.breaks.head? s.continues.head? A s.count t m)
    (h : Cased groups t dispatch (some m) last heads u) :
    Cased (.group isDefault body groups) s dispatch previous last (s.count :: heads) u := by
  have hcountA := ho.count_eq
  have hle := hext.count_le
  have hle' := h.count_le
  have hor := hext.eq_or_le
  have hm := hext.fresh.lt_of_isOpen hext.isOpen
  have hkeep : ∀ x < A.count, x ≠ s.count → x ≠ dispatch → u.site x = A.site x := by
    intro x hx hne hxd
    rw [h.site_eq x (by omega) hxd (by rintro ⟨⟩; omega), hext.site_eq x hx hne]
  have hdispatch : t.site dispatch = A.site dispatch := hext.site_eq dispatch (by omega) (by omega)
  refine ⟨by omega, h.fresh, (h.frame_eq.trans hext.frame_eq).trans ho.frame_eq,
    fun x hx hxd hxp => ?_, ?_, fun l hl => ?_, fun g after hg hend => ?_⟩
  · rw [hkeep x (by omega) (by omega) hxd, ho.site_eq x hx hxd hxp]
  · rw [h.site_dispatch, hdispatch, ho.site_dispatch, List.map_cons, Site.addEdges_cons]
  · obtain ⟨hopen, hne, hmem | hge⟩ := h.isOpen l hl
    · cases hmem
      exact ⟨hopen, hne, by omega⟩
    · exact ⟨hopen, hne, by omega⟩
  · have hlast : ∀ x < t.count, x ≠ m → x ∉ last := by
      intro x hx hne hmem
      obtain ⟨-, -, hxm | hge⟩ := h.isOpen x hmem
      · cases hxm
        exact hne rfl
      · omega
    -- the cases that follow come first: they close the end of this one
    obtain ⟨hrest, hstart⟩ := h.laid g after
      (fun x hx hlt hxl => hg x (Or.inr (by rcases hx with ⟨⟨⟩⟩ | hx <;> omega)) hlt hxl) hend
    have hstartm := hstart m rfl
    obtain ⟨rest, hbegin, hlaid⟩ := hlays g []
      (fun x hx hxt hne => by
        rw [hg x (by omega) (by omega) (hlast x hxt hne), h.site_eq x hxt (by omega)]
        rintro ⟨⟩
        exact hne rfl)
      (by rw [Graph.statementsOf_eq, hstartm, List.append_nil, Site.statements_addEdge])
    rw [start_eq_of_created ho.site_created hbegin] at hlaid
    have hframe := hext.frame_eq.trans ho.frame_eq
    have hbreaks : t.breaks = s.breaks := breaks_eq_of_frame_eq hframe
    have hcontinues : t.continues = s.continues := continues_eq_of_frame_eq hframe
    rw [hbreaks, hcontinues] at hrest
    refine ⟨⟨s.count, m, heads, rfl, hlaid, Graph.leads_one_of_site hext.isOpen hstartm, hrest⟩,
      fun p hp => ?_⟩
    obtain ⟨hps, hpd⟩ := hprevious p hp
    rw [hg p (Or.inl hp) (by omega) (hlast p (by omega) (by omega)),
      hkeep p (by omega) (by omega) hpd, ho.site_previous p hp]
    rfl

theorem Follows.does_appendCases (h : Follows visit read) : ∀ {cases : List Node}
    {hcases : ∀ d ∈ cases, sizeOf d < sizeOf n} {groups : Groups} {s : Builder} {dispatch : Nat}
    {previous : Option Nat} (count : Nat), Node.groups? read cases hcases = some groups →
    s.Fresh → dispatch < s.count → (∀ p ∈ previous, (s.site p).IsOpen ∧ p ≠ dispatch) →
    Does (appendCases visit dispatch count previous cases hcases) s fun last t =>
      ∃ heads, Cased groups s dispatch previous last heads t
  | [], _, _, s, dispatch, previous, count, hgroups, hs, hlt, hprevious => by
    cases hgroups
    rw [appendCases, does_pure]
    refine ⟨[], Nat.le_refl _, hs, rfl, fun _ _ _ _ => rfl, ?_, fun l hl => ?_,
      fun g after _ hl => ⟨rfl, hl⟩⟩
    · rw [List.map_nil, Site.addEdges_nil]
    · exact ⟨(hprevious l hl).1, (hprevious l hl).2, Or.inl hl⟩
  | c :: rest, hcases, _, s, dispatch, previous, count, hgroups, hs, hlt, hprevious => by
    simp only [Node.groups?, Option.bind_eq_bind, Option.bind_eq_some_iff] at hgroups
    obtain ⟨body, hbody, groups, hrest, hgroups⟩ := hgroups
    cases hgroups
    have hprevious' : ∀ p ∈ previous, p < s.count ∧ p ≠ dispatch := fun p hp =>
      ⟨hs.lt_of_isOpen (hprevious p hp).1, (hprevious p hp).2⟩
    simp only [appendCases, does_bind, does_create, does_edge, does_fallFrom]
    have ho := opened_of_created ("case_" ++ toString (count + 1)) hs hlt hprevious' rfl
    generalize Option.elim _ _ _ = A at ho ⊢
    have hcount := ho.count_eq
    have hbreaks : A.breaks = s.breaks := breaks_eq_of_frame_eq ho.frame_eq
    have hcontinues : A.continues = s.continues := continues_eq_of_frame_eq ho.frame_eq
    refine (h.lays_appendAll hbody A s.count ho.fresh
      (ho.site_created ▸ Site.isOpen_created _ _)).imp fun (m : Nat) t ht => ?_
    obtain ⟨hext, hlays⟩ := ht
    rw [hbreaks, hcontinues] at hlays
    have hle := hext.count_le
    have hor := hext.eq_or_le
    have hm : m ≠ dispatch := by omega
    refine (h.does_appendCases (count + 1) hrest hext.fresh (by omega)
      fun p hp => by cases hp; exact ⟨hext.isOpen, hm⟩).imp fun last u hu => ?_
    obtain ⟨heads, hcased⟩ := hu
    exact ⟨_, .cons _ hlt hprevious' ho hext hlays hcased⟩

theorem hasDefault_of_groups? : ∀ {cases : List Node} {hcases : ∀ d ∈ cases, sizeOf d < sizeOf n}
    {groups : Groups}, Node.groups? read cases hcases = some groups →
    groups.hasDefault = !cases.all fun d => (d.child? .value).isSome
  | [], _, _, h => by
    cases h
    rfl
  | c :: rest, _, _, h => by
    simp only [Node.groups?, Option.bind_eq_bind, Option.bind_eq_some_iff] at h
    obtain ⟨body, -, groups, hrest, h⟩ := h
    cases h
    rw [Groups.hasDefault, hasDefault_of_groups? hrest, List.all_cons, Bool.not_and,
      Option.not_isSome]

/-- **All cases and the edges after them**: the end of the last case falls through to the block
after the `switch`, and without a `default` the dispatching block leads there too. -/
theorem Cased.closed {t F : Builder} {groups : Groups} {dispatch after : Nat} {last : Option Nat}
    {heads : List Nat} (h : Cased groups s dispatch none last heads t) (hlt : dispatch < s.count)
    (hF : (if groups.hasDefault = true then last.elim t (t.addEdge · after .fallThrough)
      else (last.elim t (t.addEdge · after .fallThrough)).addEdge dispatch after .jump) = F) :
    F.count = t.count ∧ s.Grows dispatch F ∧
      F.site dispatch = (s.site dispatch).addEdges (heads.map (⟨dispatch, ·, .jump⟩) ++
        if groups.hasDefault then [] else [⟨dispatch, after, .jump⟩]) ∧
      ∀ g : Graph, (∀ x ≥ s.count, x < F.count → g.site x = F.site x) →
        groups.Laid g s.breaks.head? s.continues.head? heads after := by
  have hout : ∀ l : Nat, l ∈ last → l ≠ dispatch ∧ s.count ≤ l ∧ l < t.count := fun l hl => by
    obtain ⟨hopen, hne, hmem | hge⟩ := h.isOpen l hl
    · cases hmem
    · exact ⟨hne, hge, h.fresh.lt_of_isOpen hopen⟩
  have hle := h.count_le
  have hcount : F.count = t.count := by
    subst hF
    split <;> simp [count_addEdge?]
  have hframe : F.frame = s.frame := by
    rw [← h.frame_eq]
    subst hF
    split
    · exact frame_addEdge? _
    · exact frame_addEdge? _
  have hdispatch : F.site dispatch = (t.site dispatch).addEdges
      (if groups.hasDefault then [] else [⟨dispatch, after, .jump⟩]) := by
    have hnot : dispatch ∉ last := fun hmem => (hout dispatch hmem).1 rfl
    subst hF
    split
    · rw [site_addEdge?, if_neg hnot, Site.addEdges_nil]
    · rw [site_addEdge, if_pos rfl, site_addEdge?, if_neg hnot]
      rfl
  have hrest : ∀ x : Nat, x ≠ dispatch → F.site x = if x ∈ last
      then (t.site x).addEdge ⟨x, after, .fallThrough⟩ else t.site x := by
    intro x hx
    subst hF
    split
    · exact site_addEdge? _
    · rw [site_addEdge, if_neg hx]
      exact site_addEdge? _
  clear hF
  -- the end of the last case is a new block, so nothing older has changed
  refine ⟨hcount, ⟨by omega, fun x hx => ?_, fun x hx hne => ?_, hframe⟩, ?_, fun g hg => ?_⟩
  · have hnot : x ∉ last := fun hmem => by
      have hlt := (hout x hmem).2.2
      omega
    rw [hrest x (by omega), if_neg hnot, h.fresh.site_eq (by omega)]
  · have hnot : x ∉ last := fun hmem => by
      have hge := (hout x hmem).2.1
      omega
    rw [hrest x hne, if_neg hnot, h.site_eq x hx hne (by simp)]
  · rw [hdispatch, h.site_dispatch, Site.addEdges_append]
  · have hcases : ∀ x : Nat, x ∈ none ∨ s.count ≤ x → x < t.count → x ∉ last →
        g.site x = t.site x := by
      rintro x (⟨⟨⟩⟩ | hx) hlt hnot
      rw [hg x hx (by omega), hrest x (by omega), if_neg hnot]
    have hlast : ∀ l ∈ last, g.site l = (t.site l).addEdge ⟨l, after, .fallThrough⟩ := by
      intro l hl
      obtain ⟨hne, hge, hlt⟩ := hout l hl
      rw [hg l hge (hcount ▸ hlt), hrest l hne, if_pos hl]
    exact (h.laid g after hcases hlast).1

theorem does_edge_if {b c d : BlockId} {k : EdgeKind} {p q : Bool} (hp : q = !p)
    {P : BlockId → Builder → Prop} :
    Does (if p = true then edge b c k >>= fun _ => pure d else pure d) s P ↔
      P d (if q = true then s else s.addEdge b c k) := by
  subst hp
  cases p <;> exact does_iff_of_run rfl

/-- What `switch` has built when it comes to its cases. -/
theorem site_switchHead {condition : Statement} {t : Terminator} {cur : Nat} (hs : s.Fresh)
    (hlt : cur < s.count) (hA : (((s.addStatement cur condition).setTerminator cur t).createBlock
      "switch_exit").2 = A) :
    A.count = s.count + 1 ∧ s.Grows cur A ∧
      A.site cur = ((s.site cur).addStatement condition).setTerminator t ∧
      A.site s.count = .created s.count "switch_exit" := by
  have hcount : A.count = s.count + 1 := by subst hA; simp
  subst hA
  refine ⟨hcount, ⟨by omega, fun x hx => ?_, fun x hx hne => ?_, by simp⟩, ?_, ?_⟩
  · simp (disch := omega) [if_neg, hs.site_eq]
  · simp (disch := omega) [if_neg]
  · simp (disch := omega) [if_neg]
  · simp (disch := omega) [if_neg, hs.site_eq]

theorem Follows.lays_appendSwitch (h : Follows visit read) {groups : Groups}
    (hc : n.child? .condition = some c)
    (hgroups : Node.groups? read (casesOf n) (fun _ => sizeOf_casesOf) = some groups) :
    Lays (.switch (c.statement nulls .condition) groups) (appendSwitch nulls n visit) := by
  intro s cur hs hcur
  have hlt := hs.lt_of_isOpen hcur
  simp only [appendSwitch, hc, does_bind, does_append, does_terminate, does_create, does_inside,
    does_fallFrom]
  generalize hA : Prod.snd (createBlock _ "switch_exit") = A
  simp only [count_setTerminator, count_addStatement] at hA ⊢
  obtain ⟨hcount, hgrows, hhead, hafter⟩ := site_switchHead hs hlt hA
  clear hA
  have hfresh : (A.enter s.count none).Fresh := hgrows.fresh
  have hltA : cur < (A.enter s.count none).count := by
    rw [count_enter]
    omega
  refine (h.does_appendCases 0 hgroups hfresh hltA (by simp)).imp fun last t ht => ?_
  obtain ⟨heads, hcased⟩ := ht
  rw [does_edge_if (hasDefault_of_groups? hgroups)]
  generalize hF : (if groups.hasDefault = true then _ else Builder.addEdge _ _ _ _) = F
  obtain ⟨-, hgrowsF, hheadF, hlaid⟩ := hcased.closed hltA hF
  clear hF
  have hle := hgrowsF.count_le
  rw [count_enter, hcount] at hle
  rw [site_enter, hhead] at hheadF
  -- outside again, `break` and `continue` lead where they led before
  have hgrows' : A.Grows cur (F.leave A) :=
    ⟨hgrowsF.count_le, hgrowsF.fresh, hgrowsF.site_eq, frame_leave hgrowsF.frame_eq⟩
  have hafter' : (F.leave A).site s.count = .created s.count "switch_exit" :=
    (hgrows'.site_eq s.count (by omega) (by omega)).trans hafter
  refine ⟨(hgrows.trans hgrows' (Or.inl rfl)).extends_created (Nat.le_refl _) hafter',
    fun g rest hg hend => ?_⟩
  have hghead := (hg cur (Or.inl rfl) (by rw [count_leave]; omega) (by omega)).trans hheadF
  have hgroups := hlaid g fun x hx hlt => by
    rw [count_enter] at hx
    exact hg x (by omega) (by rw [count_leave]; omega) (by omega)
  have hcontinues : A.continues = s.continues := continues_eq_of_frame_eq hgrows.frame_eq
  refine ⟨[c.statement nulls .condition], ?_, heads, s.count, rfl, ?_, hcontinues ▸ hgroups,
    start_eq_of_created hafter' hend⟩
  · rw [Graph.statementsOf_eq, hghead, Site.statements_addEdges, Site.statements_setTerminator,
      hcur.statements_addStatement]
    rfl
  · have hterm : ∀ f, Terminator.switch c.excerpt ≠ .noReturn f := by simp
    have hopen := (hcur.addStatement (c.statement nulls .condition)).setTerminator hterm
    refine Graph.leads_of_site hopen (hghead.trans ?_)
    rw [List.map_append, List.map_map]
    split <;> rfl

end Build

end NullFlow
