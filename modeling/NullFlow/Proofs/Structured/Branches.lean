import NullFlow.Proofs.Structured.Lays

/-!
# Branches and loops are laid out

Each of these constructs makes its blocks, has the walk append its parts, and closes the ends of the
parts. The proofs follow it step by step: what the builder looks like when the walk goes inside,
what the part may have changed when the walk comes back, and where everything stands in the end.
-/

namespace NullFlow

namespace Build

open C (Node)
open Builder

variable {nulls : List String} {n c : Node} {visit : Visit n} {st st' : Stmt} {s A : Builder}
  {cur b : Nat} {label : String}

/-! ## Branches -/

/-- What `if` has built when it comes to its first branch. -/
theorem site_ifHead {condition : Statement} {t : Terminator} (hs : s.Fresh) (hlt : cur < s.count)
    (hA : ((((s.addStatement cur condition).setTerminator cur t).createBlock "then").2.createBlock
      "endif").2.addEdge cur s.count .trueBranch = A) :
    A.count = s.count + 2 ∧ s.Grows cur A ∧
      A.site cur = (((s.site cur).addStatement condition).setTerminator t).addEdge
        ⟨cur, s.count, .trueBranch⟩ ∧
      A.site s.count = .created s.count "then" ∧
      A.site (s.count + 1) = .created (s.count + 1) "endif" := by
  have hcount : A.count = s.count + 2 := by subst hA; simp
  subst hA
  refine ⟨hcount, ⟨by omega, fun x hx => ?_, fun x hx hne => ?_, by simp⟩, ?_, ?_, ?_⟩
  · simp (disch := omega) [if_neg, hs.site_eq]
  · simp (disch := omega) [if_neg]
  · simp (disch := omega) [if_neg]
  · simp (disch := omega) [if_neg, hs.site_eq]
  · simp (disch := omega) [if_neg, hs.site_eq]

theorem lays_appendIf_ifThen (hc : n.child? .condition = some c)
    (ha : n.child? .alternative = none) (hyes : Lays st (appendChild n visit .consequence)) :
    Lays (.ifThen (c.statement nulls .condition) st) (appendIf nulls n visit) := by
  intro s cur hs hcur
  have hlt := hs.lt_of_isOpen hcur
  simp only [appendIf, hc, ha, does_bind, does_some, does_create, does_edge, does_branchOn,
    does_pure, Option.isSome_none, Bool.false_eq_true, if_false]
  generalize hA : Builder.addEdge _ _ _ .trueBranch = A
  simp only [count_setTerminator, count_addStatement, count_createBlock] at hA ⊢
  obtain ⟨hcount, hgrows, hhead, hthen, hafter⟩ := site_ifHead hs hlt hA
  clear hA
  refine (hyes.branch hgrows hthen .fallThrough (s.count + 1)).imp fun e t h => ?_
  generalize t.addEdge e (s.count + 1) .fallThrough = F at h ⊢
  have hle := h.count_le
  have hkeep := h.site_eq
  rw [hcount] at hle hkeep
  -- the branch is over; the edge past it is still missing
  generalize hZ : Builder.addEdge _ _ _ .falseBranch = Z
  have hcountZ : Z.count = F.count := by subst hZ; simp
  have hgrowsZ : F.Grows cur Z := hZ ▸ h.fresh.grows_addEdge (by omega) _ _
  have hheadZ : Z.site cur = .test (s.site cur) cur (c.statement nulls .condition)
      (.branch c.excerpt c.line (c.nullTest nulls)) s.count (s.count + 1) := by
    rw [← hZ, site_addEdge, if_pos rfl, hkeep cur (by omega) (by omega), hhead]
    rfl
  have hold : ∀ x : Nat, x ≠ cur → Z.site x = F.site x := by
    intro x hx
    rw [← hZ, site_addEdge, if_neg hx]
  clear hZ
  have hafter' := (hold (s.count + 1) (by omega)).trans
    ((hkeep (s.count + 1) (by omega) (by omega)).trans hafter)
  refine ⟨((hgrows.trans h.toGrows (by omega)).trans hgrowsZ (Or.inl rfl)).extends_created
    (by omega) hafter', fun g rest hg hend => ?_⟩
  obtain ⟨hstatements, hlead⟩ := Graph.tests_of_site hcur (by simp)
    ((hg cur (Or.inl rfl) (by omega) (by omega)).trans hheadZ)
  obtain ⟨e, hl, hlead'⟩ := h.laid g fun x hx hlt => by
    rw [hg x (by omega) (by omega) (by omega), hold x (by omega)]
  exact ⟨_, hstatements, s.count, e, s.count + 1, rfl, hlead, hl, hlead',
    start_eq_of_created hafter' hend⟩

/-- What `if` has built when it comes to its second branch. -/
theorem site_ifElse {F : Builder} (hF : F.Fresh) (hlt : cur < F.count)
    (hB : (F.createBlock "else").2.addEdge cur F.count .falseBranch = A) :
    A.count = F.count + 1 ∧ F.Grows cur A ∧
      A.site cur = (F.site cur).addEdge ⟨cur, F.count, .falseBranch⟩ ∧
      A.site F.count = .created F.count "else" := by
  have hcount : A.count = F.count + 1 := by subst hB; simp
  subst hB
  refine ⟨hcount, ⟨by omega, fun x hx => ?_, fun x hx hne => ?_, by simp⟩, ?_, ?_⟩
  · simp (disch := omega) [if_neg, hF.site_eq]
  · simp (disch := omega) [if_neg]
  · simp (disch := omega) [if_neg]
  · simp (disch := omega) [if_neg, hF.site_eq]

theorem lays_appendIf_ifElse (hc : n.child? .condition = some c)
    (ha : (n.child? .alternative).isSome = true)
    (hyes : Lays st (appendChild n visit .consequence)) (hno : Lays st' (appendElse n visit)) :
    Lays (.ifElse (c.statement nulls .condition) st st') (appendIf nulls n visit) := by
  intro s cur hs hcur
  have hlt := hs.lt_of_isOpen hcur
  simp only [appendIf, hc, ha, does_bind, does_some, does_create, does_edge, does_branchOn,
    does_pure, if_true]
  generalize hA : Builder.addEdge _ _ _ .trueBranch = A
  simp only [count_setTerminator, count_addStatement, count_createBlock] at hA ⊢
  obtain ⟨hcount, hgrows, hhead, hthen, hafter⟩ := site_ifHead hs hlt hA
  clear hA
  refine (hyes.branch hgrows hthen .fallThrough (s.count + 1)).imp fun e t h => ?_
  generalize t.addEdge e (s.count + 1) .fallThrough = F at h ⊢
  have hle := h.count_le
  have hkeep := h.site_eq
  rw [hcount] at hle hkeep
  -- the first branch is over, the second one begins
  generalize hB : Builder.addEdge _ _ _ .falseBranch = B
  obtain ⟨hcountB, hgrowsB, hheadB, helse⟩ := site_ifElse h.fresh (by omega) hB
  clear hB
  have hgrows' : s.Grows cur B := (hgrows.trans h.toGrows (by omega)).trans hgrowsB (Or.inl rfl)
  refine (hno.branch hgrows' helse .fallThrough (s.count + 1)).imp fun e' t' h' => ?_
  generalize t'.addEdge e' (s.count + 1) .fallThrough = Z at h' ⊢
  have hle' := h'.count_le
  have hkeep' := h'.site_eq
  rw [hcountB] at hle' hkeep'
  have hold : ∀ x < F.count, x ≠ cur → Z.site x = F.site x := by
    intro x hx hne
    rw [hkeep' x (by omega) (by omega), hgrowsB.site_eq x hx hne]
  have hheadZ : Z.site cur = .test (s.site cur) cur (c.statement nulls .condition)
      (.branch c.excerpt c.line (c.nullTest nulls)) s.count F.count := by
    rw [hkeep' cur (by omega) (by omega), hheadB, hkeep cur (by omega) (by omega), hhead]
    rfl
  have hafter' := (hold (s.count + 1) (by omega) (by omega)).trans
    ((hkeep (s.count + 1) (by omega) (by omega)).trans hafter)
  refine ⟨(hgrows'.trans h'.toGrows (by omega)).extends_created (by omega) hafter',
    fun g rest hg hend => ?_⟩
  obtain ⟨hstatements, hlead⟩ := Graph.tests_of_site hcur (by simp)
    ((hg cur (Or.inl rfl) (by omega) (by omega)).trans hheadZ)
  obtain ⟨e, hl, hyesEnd⟩ := h.laid g fun x hx hlt => by
    rw [hg x (by omega) (by omega) (by omega), hold x hlt (by omega)]
  obtain ⟨e', hl', hnoEnd⟩ := h'.laid g fun x hx hlt => hg x (by omega) hlt (by omega)
  exact ⟨_, hstatements, s.count, e, F.count, e', s.count + 1, rfl, hlead, hl, hyesEnd, hl',
    hnoEnd, start_eq_of_created hafter' hend⟩

/-! ## Loops -/

/-- What `while` has built when it comes to its body. -/
theorem site_whileHead {condition : Statement} {t : Terminator} (hs : s.Fresh)
    (hlt : cur < s.count)
    (hA : (((((((s.createBlock "while_header").2.addEdge cur s.count .fallThrough).addStatement
      s.count condition).setTerminator s.count t).createBlock "while_body").2.createBlock
      "while_exit").2.addEdge s.count (s.count + 1) .trueBranch).addEdge s.count (s.count + 1 + 1)
      .falseBranch = A) :
    A.count = s.count + 3 ∧ s.Grows cur A ∧
      A.site cur = (s.site cur).addEdge ⟨cur, s.count, .fallThrough⟩ ∧
      A.site s.count = .test (.created s.count "while_header") s.count condition t (s.count + 1)
        (s.count + 1 + 1) ∧
      A.site (s.count + 1) = .created (s.count + 1) "while_body" ∧
      A.site (s.count + 1 + 1) = .created (s.count + 1 + 1) "while_exit" := by
  have hcount : A.count = s.count + 3 := by subst hA; simp
  subst hA
  refine ⟨hcount, ⟨by omega, fun x hx => ?_, fun x hx hne => ?_, by simp⟩, ?_, ?_, ?_, ?_⟩
  · simp (disch := omega) [if_neg, hs.site_eq]
  · simp (disch := omega) [if_neg]
  · simp (disch := omega) [if_neg]
  · simp (disch := omega) [if_neg, hs.site_eq, Site.test]
  · simp (disch := omega) [if_neg, hs.site_eq]
  · simp (disch := omega) [if_neg, hs.site_eq]

theorem lays_appendWhile (hc : n.child? .condition = some c)
    (hbody : Lays st (appendChild n visit .body)) :
    Lays (.whileLoop (c.statement nulls .condition) st) (appendWhile nulls n visit) := by
  intro s cur hs hcur
  have hlt := hs.lt_of_isOpen hcur
  simp only [appendWhile, hc, does_bind, does_create, does_edge, does_branchOn, does_pure]
  generalize hA : Builder.addEdge _ _ _ .falseBranch = A
  simp only [count_setTerminator, count_addStatement, count_addEdge, count_createBlock] at hA ⊢
  obtain ⟨hcount, hgrows, hstart, hhead, hbegin, hafter⟩ := site_whileHead hs hlt hA
  clear hA
  -- the head is complete before the body is appended
  refine (hbody.branch_inside hgrows.fresh hbegin _ _ .loopBack s.count).imp fun e t h => ?_
  generalize t.addEdge e s.count .loopBack = F at h ⊢
  have hle := h.count_le
  have hkeep := h.site_eq
  rw [hcount] at hle hkeep
  rw [← hkeep _ (by omega) (by omega)] at hstart hhead hafter
  refine ⟨(hgrows.trans h.toGrows (by omega)).extends_created (by omega) hafter,
    fun g rest hg hend => ?_⟩
  obtain ⟨hstatements, hlead⟩ := Graph.leaves_of_site hcur
    ((hg cur (Or.inl rfl) (by omega) (by omega)).trans hstart)
  obtain ⟨hcondition, hout⟩ := Graph.tests_of_site (Site.isOpen_created _ _) (by simp)
    ((hg s.count (by omega) (by omega) (by omega)).trans hhead)
  obtain ⟨e, hl, hback⟩ := h.laid g fun x hx hlt => hg x (by omega) hlt (by omega)
  exact ⟨[], hstatements, s.count, s.count + 1, e, s.count + 1 + 1, rfl, hlead, hcondition, hout,
    hl, hback, start_eq_of_created hafter hend⟩

/-- What `do` has built when it comes to its body. -/
theorem site_doHead (hs : s.Fresh) (hlt : cur < s.count)
    (hA : (((s.createBlock "do_body").2.createBlock "do_condition").2.createBlock
      "do_exit").2.addEdge cur s.count .fallThrough = A) :
    A.count = s.count + 3 ∧ s.Grows cur A ∧
      A.site cur = (s.site cur).addEdge ⟨cur, s.count, .fallThrough⟩ ∧
      A.site s.count = .created s.count "do_body" ∧
      A.site (s.count + 1) = .created (s.count + 1) "do_condition" ∧
      A.site (s.count + 1 + 1) = .created (s.count + 1 + 1) "do_exit" := by
  have hcount : A.count = s.count + 3 := by subst hA; simp
  subst hA
  refine ⟨hcount, ⟨by omega, fun x hx => ?_, fun x hx hne => ?_, by simp⟩, ?_, ?_, ?_, ?_⟩
  · simp (disch := omega) [if_neg, hs.site_eq]
  · simp (disch := omega) [if_neg]
  · simp (disch := omega) [if_neg]
  · simp (disch := omega) [if_neg, hs.site_eq]
  · simp (disch := omega) [if_neg, hs.site_eq]
  · simp (disch := omega) [if_neg, hs.site_eq]

/-- A new block that is made to end in a condition. -/
theorem site_test {condition : Statement} {t : Terminator} {yes no : BlockId} (hs : s.Fresh)
    (hb : s.site b = .created b label)
    (hA : (((s.addStatement b condition).setTerminator b t).addEdge b yes .trueBranch).addEdge b no
      .falseBranch = A) :
    A.count = s.count ∧ s.Grows b A ∧ A.site b = .test (.created b label) b condition t yes no := by
  have hlt := hs.lt_of_created hb
  subst hA
  refine ⟨by simp, hs.grows hlt (by simp) (fun x hne => ?_) (by simp), ?_⟩
  · simp (disch := omega) [if_neg]
  · simp [hb, Site.test]

theorem lays_appendDo (hc : n.child? .condition = some c)
    (hbody : Lays st (appendChild n visit .body)) :
    Lays (.doLoop st (c.statement nulls .condition)) (appendDo nulls n visit) := by
  intro s cur hs hcur
  have hlt := hs.lt_of_isOpen hcur
  simp only [appendDo, hc, does_bind, does_create, does_edge, does_branchOn, does_pure]
  generalize hA : Builder.addEdge _ cur _ .fallThrough = A
  simp only [count_createBlock] at hA ⊢
  obtain ⟨hcount, hgrows, hstart, hbegin, htest, hafter⟩ := site_doHead hs hlt hA
  clear hA
  refine (hbody.branch_inside hgrows.fresh hbegin _ _ .fallThrough (s.count + 1)).imp
    fun e t h => ?_
  generalize t.addEdge e (s.count + 1) .fallThrough = F at h ⊢
  have hle := h.count_le
  have hkeep := h.site_eq
  rw [hcount] at hle hkeep
  rw [← hkeep _ (by omega) (by omega)] at hstart htest hafter
  -- only now the condition is added to its block
  generalize hZ : Builder.addEdge _ _ _ .falseBranch = Z
  obtain ⟨hcountZ, hgrowsZ, htestZ⟩ := site_test h.fresh htest hZ
  clear hZ
  have hold : ∀ x < F.count, x ≠ s.count + 1 → Z.site x = F.site x := hgrowsZ.site_eq
  rw [← hold _ (by omega) (by omega)] at hstart hafter
  refine ⟨((hgrows.trans h.toGrows (by omega)).trans hgrowsZ (by omega)).extends_created (by omega)
    hafter, fun g rest hg hend => ?_⟩
  obtain ⟨hstatements, hlead⟩ := Graph.leaves_of_site hcur
    ((hg cur (Or.inl rfl) (by omega) (by omega)).trans hstart)
  obtain ⟨hcondition, hout⟩ := Graph.tests_of_site (Site.isOpen_created _ _) (by simp)
    ((hg (s.count + 1) (by omega) (by omega) (by omega)).trans htestZ)
  obtain ⟨e, hl, hfall⟩ := h.laid g fun x hx hlt => by
    rw [hg x (by omega) (by omega) (by omega), hold x hlt (by omega)]
  exact ⟨[], hstatements, s.count, e, s.count + 1, s.count + 1 + 1, rfl, hlead, hl, hfall,
    hcondition, hout, start_eq_of_created hafter hend⟩

/-! ## `for` -/

/-- A clause of a `for` statement becomes a statement of an open block, if there is one. -/
theorem does_appendClause (clause : Option Node) (hs : s.Fresh) (hb : (s.site b).IsOpen) :
    Does (appendClause nulls b clause) s fun _ t => t.count = s.count ∧ s.Grows b t ∧
      (t.site b).IsOpen ∧ (t.site b).statements
        = (s.site b).statements ++ (clause.map (·.statement nulls .expression)).toList := by
  cases clause with
  | none =>
    rw [appendClause, does_pure]
    exact ⟨rfl, ⟨Nat.le_refl _, hs, fun _ _ _ => rfl, rfl⟩, hb, (List.append_nil _).symm⟩
  | some i =>
    have hlt := hs.lt_of_isOpen hb
    simp only [appendClause, does_append]
    refine ⟨by simp, hs.grows_addStatement hlt _, ?_, ?_⟩
    · rw [site_addStatement, if_pos rfl]
      exact hb.addStatement _
    · rw [site_addStatement, if_pos rfl, hb.statements_addStatement]
      rfl

/-- The head of a `for` loop holds its condition, if it has one, and leads where it should. -/
theorem does_endForHead {head body after : Nat} (condition : Option Node) (hs : s.Fresh)
    (hhead : s.site head = .created head label) :
    Does (endForHead nulls head body after condition) s fun _ t => t.count = s.count ∧
      s.Grows head t ∧ ∀ g : Graph, g.site head = t.site head →
        g.statementsOf head = (condition.map (·.statement nulls .condition)).toList ∧
        g.Leads head (if (condition.map (·.statement nulls .condition)).isSome
          then [(.trueBranch, body), (.falseBranch, after)] else [(.fallThrough, body)]) := by
  have hlt := hs.lt_of_created hhead
  have hopen := Site.isOpen_created head label
  cases condition with
  | none =>
    have hterm : ∀ f, Terminator.loop ≠ .noReturn f := by simp
    simp only [endForHead, does_bind, does_terminate, does_edge]
    refine ⟨by simp, hs.grows hlt (by simp) (fun x hne => ?_) (by simp), fun g hg => ?_⟩
    · simp (disch := omega) [if_neg]
    · rw [site_addEdge, if_pos rfl, site_setTerminator, if_pos rfl, hhead] at hg
      exact Graph.leaves_of_site (hopen.setTerminator hterm) hg
  | some c =>
    simp only [endForHead, does_bind, does_branchOn, does_edge]
    generalize hA : Builder.addEdge _ _ _ .falseBranch = A
    obtain ⟨hcount, hgrows, hsite⟩ := site_test hs hhead hA
    exact ⟨hcount, hgrows, fun g hg => Graph.tests_of_site hopen (by simp) (hg.trans hsite)⟩

/-- What `for` has built when it comes to its head. -/
theorem site_forHead (hs : s.Fresh) (hlt : cur < s.count)
    (hA : (((((s.createBlock "for_header").2.addEdge cur s.count .fallThrough).createBlock
      "for_body").2.createBlock "for_update").2.createBlock "for_exit").2 = A) :
    A.count = s.count + 4 ∧ s.Grows cur A ∧
      A.site cur = (s.site cur).addEdge ⟨cur, s.count, .fallThrough⟩ ∧
      A.site s.count = .created s.count "for_header" ∧
      A.site (s.count + 1) = .created (s.count + 1) "for_body" ∧
      A.site (s.count + 1 + 1) = .created (s.count + 1 + 1) "for_update" ∧
      A.site (s.count + 1 + 1 + 1) = .created (s.count + 1 + 1 + 1) "for_exit" := by
  have hcount : A.count = s.count + 4 := by subst hA; simp
  subst hA
  refine ⟨hcount, ⟨by omega, fun x hx => ?_, fun x hx hne => ?_, by simp⟩, ?_, ?_, ?_, ?_, ?_⟩
  · simp (disch := omega) [if_neg, hs.site_eq]
  · simp (disch := omega) [if_neg]
  · simp (disch := omega) [if_neg]
  · simp (disch := omega) [if_neg, hs.site_eq]
  · simp (disch := omega) [if_neg, hs.site_eq]
  · simp (disch := omega) [if_neg, hs.site_eq]
  · simp (disch := omega) [if_neg, hs.site_eq]

theorem lays_appendForLoop (hbody : Lays st (appendChild n visit .body)) :
    Lays (.forLoop ((n.child? .condition).map (·.statement nulls .condition))
      ((n.child? .update).map (·.statement nulls .expression)) st)
      (appendForLoop nulls n visit) := by
  intro s cur hs hcur
  have hlt := hs.lt_of_isOpen hcur
  simp only [appendForLoop, does_bind, does_create, does_edge, does_pure]
  generalize hA : Prod.snd (createBlock _ "for_exit") = A
  simp only [count_createBlock, count_addEdge] at hA ⊢
  obtain ⟨hcount, hgrows, hstart, hhead, hbegin, hlatch, hafter⟩ := site_forHead hs hlt hA
  clear hA
  refine (does_endForHead _ hgrows.fresh hhead).imp fun _ B hB => ?_
  obtain ⟨hcountB, hgrowsB, hheadB⟩ := hB
  have hkeepB := hgrowsB.site_eq
  rw [hcount] at hkeepB hcountB
  rw [← hkeepB _ (by omega) (by omega)] at hstart hbegin hlatch hafter
  refine (hbody.branch_inside hgrowsB.fresh hbegin _ _ .fallThrough (s.count + 1 + 1)).imp
    fun e t h => ?_
  generalize t.addEdge e (s.count + 1 + 1) .fallThrough = F at h ⊢
  have hle := h.count_le
  have hkeep := h.site_eq
  rw [hcountB] at hle hkeep
  rw [← hkeep _ (by omega) (by omega)] at hstart hlatch hafter
  -- the body is over; the update goes to a block that was made before it
  refine (does_appendClause _ h.fresh (hlatch ▸ Site.isOpen_created _ _)).imp fun _ C hC => ?_
  obtain ⟨hcountC, hgrowsC, hlatchC, hupdate⟩ := hC
  generalize hZ : Builder.addEdge _ _ _ .loopBack = Z
  have hltC : s.count + 1 + 1 < C.count := by omega
  have hgrowsZ : F.Grows (s.count + 1 + 1) Z :=
    hgrowsC.trans (hZ ▸ hgrowsC.fresh.grows_addEdge hltC _ _) (Or.inl rfl)
  have hcountZ : Z.count = F.count := by
    rw [← hZ, count_addEdge, hcountC]
  have hlatchZ : Z.site (s.count + 1 + 1)
      = (C.site (s.count + 1 + 1)).addEdge ⟨s.count + 1 + 1, s.count, .loopBack⟩ := by
    rw [← hZ, site_addEdge, if_pos rfl]
  clear hZ
  have hold : ∀ x < F.count, x ≠ s.count + 1 + 1 → Z.site x = F.site x := hgrowsZ.site_eq
  have hheadZ : Z.site s.count = B.site s.count := by
    rw [hold _ (by omega) (by omega), hkeep _ (by omega) (by omega)]
  rw [← hold _ (by omega) (by omega)] at hstart hafter
  refine ⟨(((hgrows.trans hgrowsB (by omega)).trans h.toGrows (by omega)).trans hgrowsZ
    (by omega)).extends_created (by omega) hafter, fun g rest hg hend => ?_⟩
  obtain ⟨hstatements, hlead⟩ := Graph.leaves_of_site hcur
    ((hg cur (Or.inl rfl) (by omega) (by omega)).trans hstart)
  obtain ⟨hcondition, hout⟩ := hheadB g
    ((hg s.count (by omega) (by omega) (by omega)).trans hheadZ)
  obtain ⟨hlatch', hback⟩ := Graph.leaves_of_site hlatchC
    ((hg (s.count + 1 + 1) (by omega) (by omega) (by omega)).trans hlatchZ)
  rw [hupdate, hlatch, List.append_nil] at hlatch'
  obtain ⟨e, hl, hfall⟩ := h.laid g fun x hx hlt => by
    rw [hg x (by omega) (by omega) (by omega), hold x hlt (by omega)]
  exact ⟨[], hstatements, s.count, s.count + 1, e, s.count + 1 + 1, s.count + 1 + 1 + 1, rfl, hlead,
    hcondition, hout, hl, hfall, hlatch', hback, start_eq_of_created hafter hend⟩

theorem lays_appendFor (hbody : Lays st (appendChild n visit .body)) :
    Lays (n.forStmt nulls st) (appendFor nulls n visit) := by
  intro s cur hs hcur
  have hloop : Lays _ (appendForLoop nulls n visit) := lays_appendForLoop hbody
  unfold Node.forStmt
  cases hi : n.child? .initializer with
  | none =>
    simp only [appendFor, hi, appendClause, does_bind, does_pure]
    exact hloop s cur hs hcur
  | some i =>
    have hfirst : Lays (.plain (i.statement nulls .expression)) _ := lays_append
    have hseq := hfirst.seq hloop s cur hs hcur
    simp only [does_bind, does_append, does_pure] at hseq
    simp only [appendFor, hi, appendClause, does_bind, does_append]
    exact hseq

end Build

end NullFlow
