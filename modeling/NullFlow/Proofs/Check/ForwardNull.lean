import NullFlow.Proofs.Check.Defects

/-!
# What forward-null findings mean

A dereference is reported where the loop keeps an origin for the variable. The order of the analysis
makes this complete (`ForwardNull.exists_finding_of_along`): whatever makes a variable null on one
walk on its own is still there, null on every way or on some, in the states that the loop has joined
from all walks. And because a join keeps one of two origins and everything else that happens to a
variable takes its origin away, each origin is still that of one walk
(`ForwardNull.justified_solve`): on it the variable becomes null, and nothing concerns it from there
to the dereference.
-/

namespace NullFlow

namespace ForwardNull

variable {known : Summaries} {g : Graph} {s : NullState}

/-- **A finding reports a variable** as dereferenced where it may be null. -/
def Reports (x : Finding) (v : String) : Prop :=
  x.category = .forwardNull ∧ ∃ callee, x.message = derefText ⟨v, x.line, callee⟩

/-- **A finding explains where a variable became null**: it reports the variable, and its first
event is at the origin. -/
def Explains (x : Finding) (v : String) (o : Origin) : Prop :=
  Reports x v ∧ x.events.head? = some ⟨o.tag, o.line, originText v o, false⟩

theorem explains_finding (g : Graph) (o : Origin) (d : Dereference) :
    Explains (finding g o d) d.var o :=
  ⟨⟨rfl, d.callee, rfl⟩, rfl⟩

/-- The description of an origin tells which variable it is the origin of. -/
theorem originText_injective {v w : String} {o : Origin} (h : originText v o = originText w o) :
    v = w := by
  have hlist := congrArg String.toList h
  unfold originText at hlist
  split at hlist
  · simp only [String.toList_append] at hlist
    exact String.toList_injective (List.append_cancel_left (List.append_cancel_right hlist))
  · simp only [String.toList_append, List.append_assoc] at hlist
    have htail := List.append_cancel_left hlist
    -- the name stands twice, so both names are half as long as what is left
    have hlen : v.toList.length = w.toList.length := by
      have := congrArg List.length htail
      simp only [List.length_append] at this
      omega
    exact String.toList_injective (List.append_inj_left htail hlen)

/-! ## Completeness -/

/-- **A variable that has an origin when it is dereferenced is reported.** -/
theorem exists_mem_collect {b : BlockId} {block : Block} {before after : List Fact} {f : Fact}
    {v : String} {o : Origin} (hb : g.blocks[b]? = some block)
    (hs : ((analysis known g).solve g)[b]? = some s) (hfacts : block.facts = before ++ f :: after)
    (hf : f.Dereferences known v)
    (ho : ((s.afterAll known before)[v]?).bind (·.origin?) = some o) :
    finding g o ⟨v, f.line, f.callee?⟩ ∈ (analysis known g).collect g := by
  have hd : (⟨v, f.line, f.callee?⟩ : Dereference) ∈ f.dereferences known :=
    Fact.mem_dereferences.mpr ⟨hf, rfl, rfl⟩
  obtain ⟨⟨w, line, callee⟩, hd', hvar, hx⟩ := exists_mem_dereferenceFindings hd ho
  obtain ⟨-, hline, hcallee⟩ := Fact.mem_dereferences.mp hd'
  simp only at hvar hline hcallee
  subst hvar hline hcallee
  refine Analysis.mem_collect.mpr ⟨b, block, s, hb, hs, ?_⟩
  exact mem_factFindings.mpr ⟨before, f, after, hfacts, hx⟩

/-- **Null on one walk is reported**: if the state carried along a walk has a variable as null where
it is dereferenced, the analysis reports the dereference, from this or another origin. -/
theorem exists_finding_of_along {es : List Edge} {b : BlockId} {block : Block}
    {before after : List Fact} {f : Fact} {v : String} {o : Origin} (w : g.Walk g.entry es b)
    (hs : (analysis known g).along g es = some s) (hb : g.blocks[b]? = some block)
    (hfacts : block.facts = before ++ f :: after) (hf : f.Dereferences known v)
    (hnull : (s.afterAll known before)[v]? = some (.null o)) :
    ∃ o', finding g o' ⟨v, f.line, f.callee?⟩ ∈ (analysis known g).collect g := by
  obtain ⟨t, ht, hst⟩ := (order known g).solve_along w hs
  have hbelow : Nullness.Below (s.afterAll known before)[v]? (t.afterAll known before)[v]? :=
    NullState.Below.afterAll hst v
  rw [hnull] at hbelow
  have horigin : ∃ o', ((t.afterAll known before)[v]?).bind (·.origin?) = some o' := by
    rcases hx : (t.afterAll known before)[v]? with _ | _ | o' | o' <;> rw [hx] at hbelow
    · exact hbelow.elim
    · exact hbelow.elim
    · exact ⟨o', rfl⟩
    · exact ⟨o', rfl⟩
  obtain ⟨o', ho'⟩ := horigin
  exact ⟨o', exists_mem_collect hb ht hfacts hf ho'⟩

end ForwardNull

/-- **Nothing that is null on a walk is missed.** If no condition on a walk from the entry rules the
walk out, and the state carried along it has a variable as null where the last block dereferences
it, then the dereference is reported: joining with other walks, going around loops and dropping
repetitions do not hide it. -/
theorem CheckOptions.exists_forwardNull_of_walk {o : CheckOptions} {graphs : List Graph}
    (hen : o.enables .forwardNull = true) {g : Graph} (hg : g ∈ graphs) {es : List Edge}
    {b : BlockId} (w : g.Walk g.entry es b) {s : NullState}
    (hs : (ForwardNull.analysis (o.summaries graphs) g).along g es = some s) {block : Block}
    (hb : g.blocks[b]? = some block) {before after : List Fact} {f : Fact}
    (hfacts : block.facts = before ++ f :: after) {v : String}
    (hf : f.Dereferences (o.summaries graphs) v) {origin : Origin}
    (hnull : (s.afterAll (o.summaries graphs) before)[v]? = some (.null origin)) :
    ∃ x ∈ o.check graphs, ForwardNull.Reports x v ∧ x.file = g.file ∧ x.function = g.function ∧
      x.line = f.line := by
  obtain ⟨o', hx⟩ := ForwardNull.exists_finding_of_along w hs hb hfacts hf hnull
  obtain ⟨x, hmem, hdefect⟩ := exists_mem_check hg (mem_findingsIn.mpr (Or.inl ⟨hen, hx⟩))
  simp only [Finding.defect, ForwardNull.finding, Defect.mk.injEq] at hdefect
  obtain ⟨hfile, hfunction, hline, hcategory, hmessage⟩ := hdefect
  refine ⟨x, hmem, ⟨hcategory, f.callee?, ?_⟩, hfile, hfunction, hline⟩
  rw [hmessage, hline]

/-- A function that sets a pointer to null on line 1 and reads through it on line 2, in a block of
its own. -/
def Graph.assignedThenRead : Graph :=
  ((({ function := "f", file := "a.c" } : Graph).addBlock
      { id := 0, label := "entry",
        statements := [⟨1, .assignment "p", "p = NULL;", [.assign "p" .null 1]⟩] }).addBlock
      { id := 1, label := "next",
        statements := [⟨2, .expression, "*p;", [.deref "p" .star 2]⟩] }).addEdge 0 1 .fallThrough

theorem Graph.walk_assignedThenRead :
    Graph.assignedThenRead.Walk 0 [⟨0, 1, .fallThrough⟩] 1 :=
  (Walk.nil (by decide)).snoc (by decide) (by decide)

theorem ForwardNull.along_assignedThenRead (known : Summaries) :
    (analysis known Graph.assignedThenRead).along Graph.assignedThenRead [⟨0, 1, .fallThrough⟩]
      = some ((∅ : NullState).insert "p" (.null ⟨1, .assignZero⟩)) := rfl

theorem ForwardNull.getElem?_assignedThenRead (known : Summaries) :
    (NullState.afterAll known ((∅ : NullState).insert "p" (.null ⟨1, .assignZero⟩)) [])["p"]?
      = some (.null ⟨1, .assignZero⟩) := Std.ExtTreeMap.getElem?_insert_self

theorem CheckOptions.exists_forwardNull_assignedThenRead :
    ∃ x ∈ ({} : CheckOptions).check [Graph.assignedThenRead], ForwardNull.Reports x "p" ∧
      x.file = "a.c" ∧ x.function = "f" ∧ x.line = 2 :=
  exists_forwardNull_of_walk rfl List.mem_cons_self Graph.walk_assignedThenRead
    (ForwardNull.along_assignedThenRead _) rfl rfl (.deref .star 2)
    (ForwardNull.getElem?_assignedThenRead _)

/-! ## Soundness -/

namespace Graph.Step

variable {known : Summaries} {v : String} {o : Origin}

/-- **A step makes a variable null**: it assigns a null constant to it, or it is taken on an outcome
of a condition for which the variable is null. -/
inductive IsOrigin (v : String) : Step → Origin → Prop
  | assigned (line : Nat) : IsOrigin v (.fact (.assign v .null line)) ⟨line, .assignZero⟩
  | compared {block : Block} {e : Edge} {text : String} {line : Nat} {test : NullTest}
      {outcome : Bool} (hterm : block.terminator = .branch text line test)
      (hkind : e.kind.outcome? = some outcome) (hv : v ∈ test.nullWhen outcome) :
      IsOrigin v (.edge block e) ⟨line, .nullCheck⟩

/-- **A step concerns a variable**: it is past a fact that does, or it is taken on an outcome of a
condition that says whether the variable is null. -/
inductive Concerns (known : Summaries) (v : String) : Step → Prop
  | fact {f : Fact} (h : f.Concerns known v) : Concerns known v (.fact f)
  | condition {block : Block} {e : Edge} {text : String} {line : Nat} {test : NullTest}
      {outcome : Bool} (hterm : block.terminator = .branch text line test)
      (hkind : e.kind.outcome? = some outcome)
      (hv : v ∈ test.nullWhen outcome ∨ v ∈ test.nonNullWhen outcome) :
      Concerns known v (.edge block e)

/-- **Some steps trace an origin**: one of them makes the variable null there, and no later one
concerns the variable. -/
def Traces (known : Summaries) (v : String) (o : Origin) (steps : List Step) : Prop :=
  ∃ before x after, steps = before ++ x :: after ∧ IsOrigin v x o ∧
    ∀ y ∈ after, ¬Concerns known v y

theorem Traces.of_isOrigin {x : Step} (h : IsOrigin v x o) (steps : List Step) :
    Traces known v o (steps ++ [x]) :=
  ⟨steps, x, [], rfl, h, fun _ hy => (List.not_mem_nil hy).elim⟩

theorem Traces.snoc {x : Step} {steps : List Step} (h : Traces known v o steps)
    (hx : ¬Concerns known v x) : Traces known v o (steps ++ [x]) := by
  obtain ⟨before, y, after, rfl, hy, hafter⟩ := h
  refine ⟨before, y, after ++ [x], by simp, hy, fun z hz => ?_⟩
  rcases List.mem_append.mp hz with hz | hz
  · exact hafter z hz
  · exact List.mem_singleton.mp hz ▸ hx

end Graph.Step

namespace ForwardNull

variable {known : Summaries} {g : Graph} {s t : NullState} {v : String}

/-- **The origin of a variable is justified** by some ways here: one of them traces it. -/
def Justified (known : Summaries) (Ways : List Graph.Step → Prop) (s : NullState) (v : String) :
    Prop :=
  ∀ o, (s[v]?).bind (·.origin?) = some o → ∃ steps, Ways steps ∧ Graph.Step.Traces known v o steps

/-- The ways here with one more step. -/
def Then (Ways : List Graph.Step → Prop) (x : Graph.Step) (steps : List Graph.Step) : Prop :=
  ∃ before, Ways before ∧ steps = before ++ [x]

/-- **Past a fact** an origin stays justified: the fact is the origin, or it does not concern the
variable. -/
theorem Justified.after {Ways : List Graph.Step → Prop} (hway : ∃ steps, Ways steps)
    (h : Justified known Ways s v) (f : Fact) :
    Justified known (Then Ways (.fact f)) (s.after known f) v := by
  intro o ho
  rw [NullState.getElem?_after] at ho
  rcases Fact.origin?_effect ho with ⟨line, rfl, rfl⟩ | ⟨hc, hold⟩
  · obtain ⟨steps, hsteps⟩ := hway
    exact ⟨_, ⟨steps, hsteps, rfl⟩, Graph.Step.Traces.of_isOrigin (.assigned line) steps⟩
  · obtain ⟨steps, hsteps, htrace⟩ := h o hold
    exact ⟨_, ⟨steps, hsteps, rfl⟩, htrace.snoc fun | .fact h => hc h⟩

/-- Past several facts an origin stays justified. -/
theorem Justified.afterAll {Ways : List Graph.Step → Prop} (hway : ∃ steps, Ways steps)
    (h : Justified known Ways s v) (fs : List Fact) :
    Justified known (fun steps => ∃ before, Ways before ∧ steps = before ++ fs.map Graph.Step.fact)
      (s.afterAll known fs) v := by
  induction fs generalizing s Ways with
  | nil =>
    intro o ho
    obtain ⟨steps, hsteps, htrace⟩ := h o ho
    exact ⟨steps, ⟨steps, hsteps, (List.append_nil steps).symm⟩, htrace⟩
  | cons f fs ih =>
    intro o ho
    have hway' : ∃ steps, Then Ways (.fact f) steps :=
      hway.imp' (· ++ [.fact f]) fun steps hsteps => ⟨steps, hsteps, rfl⟩
    obtain ⟨_, ⟨_, ⟨steps, hsteps, rfl⟩, rfl⟩, htrace⟩ := ih hway' (h.after hway f) o ho
    exact ⟨_, ⟨steps, hsteps, List.append_assoc _ _ _⟩, htrace⟩

/-- **Along an edge** an origin stays justified: the edge is the origin, or it says nothing about
the variable. -/
theorem Justified.refine {Ways : List Graph.Step → Prop} (hway : ∃ steps, Ways steps)
    (h : Justified known Ways s v) {block : Block} {e : Edge}
    (hr : ForwardNull.refine block e s = some t) :
    Justified known (Then Ways (.edge block e)) t v := by
  intro o ho
  -- an edge that says nothing about the variable keeps what traced the origin
  have hstays (hc : ¬Graph.Step.Concerns known v (.edge block e))
      (hold : (s[v]?).bind (·.origin?) = some o) :
      ∃ steps, Then Ways (.edge block e) steps ∧ Graph.Step.Traces known v o steps := by
    obtain ⟨steps, hsteps, htrace⟩ := h o hold
    exact ⟨_, ⟨steps, hsteps, rfl⟩, htrace.snoc hc⟩
  rcases refine_cases block e with ⟨hnone, hid⟩ | ⟨text, line, test, outcome, hterm, hkind, hassume⟩
  · rw [hid] at hr
    cases hr
    refine hstays ?_ ho
    rintro (_ | ⟨hterm, hkind, -⟩)
    rw [hnone _ _ _ hterm] at hkind
    cases hkind
  · rw [hassume, NullState.assume_eq_some_iff] at hr
    obtain ⟨-, -, ht⟩ := hr
    rw [ht] at ho
    split at ho
    · cases ho
    · next hnonNull =>
      split at ho
      · next hnull =>
        cases ho
        obtain ⟨steps, hsteps⟩ := hway
        exact ⟨_, ⟨steps, hsteps, rfl⟩,
          Graph.Step.Traces.of_isOrigin (.compared hterm hkind hnull) steps⟩
      · next hnull =>
        refine hstays ?_ ho
        rintro (_ | ⟨hterm', hkind', hv⟩)
        rw [hterm] at hterm'
        rw [hkind] at hkind'
        cases hterm'
        cases hkind'
        exact hv.elim hnull hnonNull

/-- The steps of the walks from the entry to the start of a block. -/
def WaysTo (g : Graph) (b : BlockId) (steps : List Graph.Step) : Prop :=
  ∃ es, g.Walk g.entry es b ∧ steps = g.stepsAlong es

/-- **Every origin that the loop keeps is that of a walk.** Joins keep one of two origins, so the
walk of that one is still a walk to the block. -/
theorem justified_solve {b : BlockId} (hin : b ∈ g.blocks)
    (hs : ((analysis known g).solve g)[b]? = some s) (v : String) :
    (∃ steps, WaysTo g b steps) ∧ Justified known (WaysTo g b) s v := by
  refine Analysis.solve_induction (analysis known g) g
    (P := fun b s => b ∈ g.blocks →
      (∃ steps, WaysTo g b steps) ∧ Justified known (WaysTo g b) s v)
    (fun _ hin => ⟨⟨_, [], .nil hin, rfl⟩, fun o ho => ?_⟩)
    (fun {b block s e t} hP hb he hr hin => ?_) (fun {b s t} hs ht hin => ?_) hs hin
  · change ((∅ : NullState)[v]?).bind (·.origin?) = some o at ho
    rw [Std.ExtTreeMap.getElem?_empty] at ho
    cases ho
  · obtain ⟨hway, hjust⟩ := hP (Graph.mem_blocks_of_getElem? hb)
    have hsource := Graph.source_of_mem_outEdges he
    have hsnoc : ∀ {es}, g.Walk g.entry es b → WaysTo g e.target
        (g.stepsAlong es ++ block.facts.map Graph.Step.fact ++ [Graph.Step.edge block e]) :=
      fun {es} w => ⟨es ++ [e], w.snoc he hin, (Graph.stepsAlong_snoc (hsource ▸ hb) es).symm⟩
    refine ⟨hway.elim fun _ ⟨es, w, _⟩ => ⟨_, hsnoc w⟩, fun o ho => ?_⟩
    have hfacts := hjust.afterAll hway block.facts
    have hway' : ∃ steps before, WaysTo g b before ∧
        steps = before ++ block.facts.map Graph.Step.fact :=
      hway.elim fun steps hsteps => ⟨_, steps, hsteps, rfl⟩
    obtain ⟨_, ⟨_, ⟨_, ⟨es, w, rfl⟩, rfl⟩, rfl⟩, htrace⟩ := hfacts.refine hway' hr o ho
    exact ⟨_, hsnoc w, htrace⟩
  · obtain ⟨hway, hjust⟩ := hs hin
    refine ⟨hway, fun o ho => ?_⟩
    change ((s.join t)[v]?).bind (·.origin?) = some o at ho
    rw [NullState.getElem?_join] at ho
    -- the walk of the side that the origin came from
    exact (Nullness.origin?_join ho).elim (hjust o) ((ht hin).2 o)

/-- **A finding has a walk that explains it**: from the entry to a block with a dereference of the
variable on the line of the finding, such that the steps up to the dereference trace the origin. -/
def Witnessed (known : Summaries) (g : Graph) (v : String) (line : Nat) (o : Origin) : Prop :=
  ∃ es b block before f after, g.Walk g.entry es b ∧ g.blocks[b]? = some block ∧
    block.facts = before ++ f :: after ∧ f.Dereferences known v ∧ f.line = line ∧
    Graph.Step.Traces known v o (g.stepsAlong es ++ before.map Graph.Step.fact)

/-- Every finding of the analysis is made of an origin and a dereference that a walk connects. -/
theorem witnessed_of_mem_collect {x : Finding} (h : x ∈ (analysis known g).collect g) :
    ∃ o d, x = finding g o d ∧ Witnessed known g d.var d.line o := by
  obtain ⟨b, block, s, hb, hs, hx⟩ := Analysis.mem_collect.mp h
  obtain ⟨before, f, after, hfacts, hx⟩ := mem_factFindings.mp hx
  obtain ⟨d, hd, o, ho, rfl⟩ := exists_of_mem_dereferenceFindings hx
  obtain ⟨hf, hline, -⟩ := Fact.mem_dereferences.mp hd
  obtain ⟨hway, hjust⟩ := justified_solve (Graph.mem_blocks_of_getElem? hb) hs d.var
  obtain ⟨_, ⟨_, ⟨es, w, rfl⟩, rfl⟩, htrace⟩ := hjust.afterAll hway before o ho
  exact ⟨o, d, rfl, es, b, block, before, f, after, w, hb, hfacts, hf, hline.symm, htrace⟩

end ForwardNull

/-- **Every forward-null finding is true of a walk.** It explains how some variable became null;
and whatever variable and origin it explains, a walk from the entry makes the variable null there
and goes on, without anything that concerns the variable, to a dereference of it on the line of the
finding. -/
theorem CheckOptions.forwardNull_traced {o : CheckOptions} {graphs : List Graph} {x : Finding}
    (hx : x ∈ o.check graphs) (hcategory : x.category = .forwardNull) :
    (∃ v origin, ForwardNull.Explains x v origin) ∧
    ∀ v origin, ForwardNull.Explains x v origin →
      ∃ g ∈ graphs, g.file = x.file ∧ g.function = x.function ∧
        ForwardNull.Witnessed (o.summaries graphs) g v x.line origin := by
  obtain ⟨g, hg, hfound⟩ := mem_check hx
  rcases mem_findingsIn.mp hfound with ⟨-, h⟩ | ⟨-, h⟩
  · obtain ⟨origin, d, rfl, hw⟩ := ForwardNull.witnessed_of_mem_collect h
    refine ⟨⟨d.var, origin, ForwardNull.explains_finding g origin d⟩, fun v origin' hex => ?_⟩
    have hevent := hex.2
    simp only [ForwardNull.finding, List.head?_cons, Option.some.injEq, Event.mk.injEq] at hevent
    obtain ⟨htag, hline, htext, -⟩ := hevent
    have horigin : origin = origin' := by
      obtain ⟨line, tag⟩ := origin
      obtain ⟨line', tag'⟩ := origin'
      cases htag
      cases hline
      rfl
    subst horigin
    have hvar := ForwardNull.originText_injective htext
    subst hvar
    exact ⟨g, hg, rfl, rfl, hw⟩
  · rw [MustDeref.category_of_mem_collect h] at hcategory
    cases hcategory

theorem CheckOptions.forwardNull_traced_assignedThenRead :
    ∃ x ∈ ({} : CheckOptions).check [Graph.assignedThenRead], x.category = .forwardNull ∧
      (∃ v origin, ForwardNull.Explains x v origin) ∧
      ∀ v origin, ForwardNull.Explains x v origin →
        ∃ g ∈ [Graph.assignedThenRead], g.file = x.file ∧ g.function = x.function ∧
          ForwardNull.Witnessed (({} : CheckOptions).summaries [Graph.assignedThenRead]) g v x.line
            origin := by
  obtain ⟨o, hfound⟩ := ForwardNull.exists_finding_of_along Graph.walk_assignedThenRead
    (ForwardNull.along_assignedThenRead (({} : CheckOptions).summaries [Graph.assignedThenRead]))
    rfl rfl (.deref .star 2) (ForwardNull.getElem?_assignedThenRead _)
  obtain ⟨x, hx, hdefect⟩ := exists_mem_check List.mem_cons_self
    (mem_findingsIn.mpr (Or.inl ⟨rfl, hfound⟩))
  have hcategory : x.category = .forwardNull := congrArg Defect.category hdefect
  exact ⟨x, hx, hcategory, forwardNull_traced hx hcategory⟩

end NullFlow
