import NullFlow.Proofs.Check.ReverseNull

/-!
# The dereference that a reverse-null finding names

A finding explains a check that comes too late by one dereference, and which one that is depends on
how the loop went: a fact records its site only if none is known, and a join keeps the site on the
earlier line of the two. Neither makes up a site. So every site that a state has for a variable, in
the end or on the way there, stands in a block that control reaches, and from there a walk leads on
without an assignment to the variable (`MustDeref.Genuine`). A site may well outlive the state that
it came from, which is why nothing is said about the states along that walk.
-/

namespace NullFlow

namespace DerefState

variable {known : Summaries} {s t : DerefState} {v : String} {site : DerefSite}

/-- A site that a join keeps is one of the two. -/
theorem eq_or_eq_of_getElem?_join (h : (s.join t)[v]? = some site) :
    s[v]? = some site ∨ t[v]? = some site := by
  rw [getElem?_join] at h
  obtain ⟨a, ha, h⟩ := Option.bind_eq_some_iff.mp h
  obtain ⟨b, hb, rfl⟩ := Option.map_eq_some_iff.mp h
  rw [ha, hb, DerefSite.earliest]
  split
  · exact Or.inl rfl
  · exact Or.inr rfl

/-- A site after some dereferences is that of one of them, or it was there before. -/
theorem of_getElem?_foldl_record {ds : List Dereference}
    (h : (ds.foldl record s)[v]? = some site) :
    (∃ d ∈ ds, d.var = v ∧ site = ⟨d.line, d.callee⟩) ∨ s[v]? = some site := by
  induction ds generalizing s with
  | nil => exact Or.inr h
  | cons d ds ih =>
    rcases ih h with ⟨d', hd', hsite⟩ | h
    · exact Or.inl ⟨d', List.mem_cons_of_mem d hd', hsite⟩
    · rw [record, Std.ExtTreeMap.getElem?_insertIfNew] at h
      split at h
      · next hnew =>
        exact Or.inl ⟨d, List.mem_cons_self, Std.LawfulEqCmp.compare_eq_iff_eq.mp hnew.1,
          (Option.some.inj h).symm⟩
      · exact Or.inr h

/-- **A site after a fact** is that of the fact, or it was there before and the fact does not assign
to the variable. -/
theorem of_getElem?_after {f : Fact} (h : (s.after known f)[v]? = some site) :
    f.Dereferences known v ∧ site = ⟨f.line, f.callee?⟩ ∨ ¬f.Assigns v ∧ s[v]? = some site := by
  by_cases hassign : f.Assigns v
  · -- an assignment leaves no site
    obtain ⟨value, line⟩ := hassign
    rw [after, Std.ExtTreeMap.getElem?_erase, if_pos Std.ReflCmp.compare_self] at h
    cases h
  · cases f with
    | assign w value line =>
      rw [after, Std.ExtTreeMap.getElem?_erase] at h
      split at h
      · cases h
      · exact Or.inr ⟨hassign, h⟩
    | deref _ _ _ | call _ _ _ =>
      rcases of_getElem?_foldl_record h with ⟨d, hd, rfl, rfl⟩ | h
      · obtain ⟨hf, hline, hcallee⟩ := Fact.mem_dereferences.mp hd
        exact Or.inl ⟨hf, by rw [hline, hcallee]⟩
      · exact Or.inr ⟨hassign, h⟩

end DerefState

namespace MustDeref

variable {known : Summaries} {g : Graph} {s t : DerefState} {b : BlockId} {v : String}
  {site : DerefSite}

/-- **A site is genuine** for a variable at a point of a block, of which the given facts are past:
in a block that control reaches stands a fact that dereferences the variable, on the line of the
site and through the function that the site names, and after it a walk leads to the point without
an assignment to the variable. -/
def Genuine (known : Summaries) (g : Graph) (v : String) (site : DerefSite) (b : BlockId)
    (past : List Fact) : Prop :=
  ∃ c block es before f rest after, g.Reaches c ∧ g.blocks[c]? = some block ∧
    block.facts = before ++ f :: rest ∧ f.Dereferences known v ∧ f.line = site.line ∧
    f.callee? = site.callee ∧ g.Walk c es b ∧ g.factsAlong es ++ past = before ++ f :: after ∧
    ∀ x ∈ after, ¬x.Assigns v

/-- All sites of a state are genuine at a point. -/
def AllGenuine (known : Summaries) (g : Graph) (s : DerefState) (b : BlockId) (past : List Fact) :
    Prop :=
  ∀ v site, s[v]? = some site → Genuine known g v site b past

/-- A genuine site stays so past a fact that does not assign to the variable. -/
theorem Genuine.snoc {past : List Fact} {f : Fact} (h : Genuine known g v site b past)
    (hf : ¬f.Assigns v) : Genuine known g v site b (past ++ [f]) := by
  obtain ⟨c, block, es, before, d, rest, after, hreach, hc, hfacts, hd, hline, hcallee, w, heq,
    hafter⟩ := h
  refine ⟨c, block, es, before, d, rest, after ++ [f], hreach, hc, hfacts, hd, hline, hcallee, w,
    by rw [← List.append_assoc, heq]; simp, fun x hx => ?_⟩
  rcases List.mem_append.mp hx with hx | hx
  · exact hafter x hx
  · exact List.mem_singleton.mp hx ▸ hf

/-- A genuine site stays so along an edge. -/
theorem Genuine.along {block : Block} {e : Edge} (hb : g.blocks[b]? = some block)
    (he : e ∈ g.outEdges b) (ht : e.target ∈ g.blocks)
    (h : Genuine known g v site b block.facts) : Genuine known g v site e.target [] := by
  obtain ⟨c, dblock, es, before, f, rest, after, hreach, hc, hfacts, hd, hline, hcallee, w, heq,
    hafter⟩ := h
  refine ⟨c, dblock, es ++ [e], before, f, rest, after, hreach, hc, hfacts, hd, hline, hcallee,
    w.snoc he ht, ?_, hafter⟩
  rw [List.append_nil, Graph.factsAlong_snoc, Graph.source_of_mem_outEdges he, Graph.factsOf_eq hb,
    heq]

/-- **Past a fact** of a block that control reaches, the sites stay genuine: a new one is that of
the fact. -/
theorem AllGenuine.after {block : Block} {past rest : List Fact} {f : Fact} (hreach : g.Reaches b)
    (hb : g.blocks[b]? = some block) (hfacts : block.facts = past ++ f :: rest)
    (h : AllGenuine known g s b past) :
    AllGenuine known g (s.after known f) b (past ++ [f]) := by
  intro v site hsite
  rcases DerefState.of_getElem?_after hsite with ⟨hf, rfl⟩ | ⟨hf, hsite⟩
  · exact ⟨b, block, [], past, f, rest, [], hreach, hb, hfacts, hf, rfl, rfl,
      .nil (Graph.mem_blocks_of_getElem? hb), rfl, fun _ hx => (List.not_mem_nil hx).elim⟩
  · exact (h v site hsite).snoc hf

theorem AllGenuine.afterAll {block : Block} {past fs : List Fact} (hreach : g.Reaches b)
    (hb : g.blocks[b]? = some block) (hfacts : block.facts = past ++ fs)
    (h : AllGenuine known g s b past) :
    AllGenuine known g (s.afterAll known fs) b block.facts := by
  induction fs generalizing s past with
  | nil =>
    rw [hfacts, List.append_nil]
    exact h
  | cons f fs ih => exact ih (by rw [hfacts, List.append_cons]) (h.after hreach hb hfacts)

/-- **Every site that the loop keeps is genuine**, and so was every one that it kept on the way. -/
theorem allGenuine_solve (hin : b ∈ g.blocks)
    (hs : ((analysis known g).solve g)[b]? = some s) :
    g.Reaches b ∧ AllGenuine known g s b [] := by
  refine Analysis.solve_induction (analysis known g) g
    (P := fun b s => b ∈ g.blocks → g.Reaches b ∧ AllGenuine known g s b [])
    (fun _ hin => ⟨⟨[], .nil hin⟩, fun v site hsite => ?_⟩)
    (fun {b block s e t} hP hb he hr hin => ?_) (fun {b s t} hs ht hin => ?_) hs hin
  · change (∅ : DerefState)[v]? = some site at hsite
    rw [Std.ExtTreeMap.getElem?_empty] at hsite
    cases hsite
  · obtain ⟨hreach, hgenuine⟩ := hP (Graph.mem_blocks_of_getElem? hb)
    cases hr
    exact ⟨hreach.elim fun es w => ⟨es ++ [e], w.snoc he hin⟩, fun v site hsite =>
      (hgenuine.afterAll hreach hb rfl v site hsite).along hb he hin⟩
  · obtain ⟨hreach, hgenuine⟩ := hs hin
    exact ⟨hreach, fun v site hsite => (DerefState.eq_or_eq_of_getElem?_join hsite).elim
      (hgenuine v site) ((ht hin).2 v site)⟩

end MustDeref

/-- **The dereference that a finding names is genuine.** A reverse-null finding is for a variable
that a condition on its line tests, and its first event names a dereference of the variable, direct
or through a function that is known to dereference what it is passed, from which a walk leads to the
end of the block with the condition without an assignment to the variable. -/
theorem CheckOptions.reverseNull_explained {o : CheckOptions} {graphs : List Graph} {x : Finding}
    (hx : x ∈ o.check graphs) (hcategory : x.category = .reverseNull) :
    ∃ g ∈ graphs, ∃ (b : BlockId) (block : Block) (text : String) (test : NullTest) (v : String)
        (site : DerefSite),
      x.file = g.file ∧ x.function = g.function ∧ x.message = MustDeref.checkText v ∧
      g.blocks[b]? = some block ∧ block.terminator = .branch text x.line test ∧
      v ∈ test.testedVars ∧
      x.events.head? = some ⟨.derefBeforeCheck, site.line, MustDeref.siteText v site, false⟩ ∧
      MustDeref.Genuine (o.summaries graphs) g v site b block.facts := by
  obtain ⟨g, hg, hfound⟩ := mem_check hx
  rcases mem_findingsIn.mp hfound with ⟨-, h⟩ | ⟨-, h⟩
  · rw [ForwardNull.category_of_mem_collect h] at hcategory
    cases hcategory
  · obtain ⟨b, block, s, hb, hs, hx⟩ := Analysis.mem_collect.mp h
    obtain ⟨text, line, test, v, site, hterm, hv, hsite, rfl⟩ :=
      MustDeref.mem_conditionFindings.mp hx
    obtain ⟨hreach, hgenuine⟩ :=
      MustDeref.allGenuine_solve (Graph.mem_blocks_of_getElem? hb) hs
    exact ⟨g, hg, b, block, text, test, v, site, rfl, rfl, rfl, hb, hterm, hv, rfl,
      hgenuine.afterAll hreach hb rfl v site hsite⟩

theorem CheckOptions.reverseNull_explained_readThenTested :
    ∃ x ∈ ({} : CheckOptions).check [Graph.readThenTested], x.category = .reverseNull ∧
      ∃ g ∈ [Graph.readThenTested], ∃ (b : BlockId) (block : Block) (text : String)
          (test : NullTest) (v : String) (site : DerefSite),
        x.file = g.file ∧ x.function = g.function ∧ x.message = MustDeref.checkText v ∧
        g.blocks[b]? = some block ∧ block.terminator = .branch text x.line test ∧
        v ∈ test.testedVars ∧
        x.events.head? = some ⟨.derefBeforeCheck, site.line, MustDeref.siteText v site, false⟩ ∧
        MustDeref.Genuine (({} : CheckOptions).summaries [Graph.readThenTested]) g v site b
          block.facts := by
  obtain ⟨site, hsite⟩ := MustDeref.exists_finding_readThenTested
    (({} : CheckOptions).summaries [Graph.readThenTested])
  obtain ⟨x, hx, hdefect⟩ := exists_mem_check List.mem_cons_self
    (mem_findingsIn.mpr (Or.inr ⟨rfl, hsite⟩))
  have hcategory : x.category = .reverseNull := congrArg Defect.category hdefect
  exact ⟨x, hx, hcategory, reverseNull_explained hx hcategory⟩

end NullFlow
