import NullFlow.Proofs.Graph.Progress

/-!
# The walk keeps a builder in order

The construction hands an open block to each statement and gets back the block that is open after
it. In between the statement may do what it likes to new blocks and to the blocks of labels, but
when it is done, all of its own blocks are as they will be, and the blocks that others wait to end
are untouched. `Build.Walks` says so of a step and names the statements that the step passes; every
construct has the property if its parts have it. So in the graph of a function each block ends as
its terminator says, but for the blocks of labels that no statement defines, and what is known of
the statements behind (`Builder.Progress`) is known of all statements in the end.
-/

namespace NullFlow

namespace Build

open C (Node Role)
open C.Node (labelsAmong labelsAmong_append labelsAmong_cons labelsAmong_cons_of_ne)
open Builder

variable {α β : Type} {nulls : List String} {n c : Node} {visit : Visit n} {s : Builder}
  {cur b d : Nat} {ms ms' passed : List Node} {defined : List String}
  {before waiting : List (BlockId × Ending)} {e : Ending} {step step' : BlockId → Build BlockId}

/-! ## The walk through the parts -/

theorem appendAll_nil (h : ∀ c ∈ [], sizeOf c < sizeOf n) : appendAll visit [] h = pure := rfl

theorem appendAll_singleton {p : Node} (h : ∀ c ∈ [p], sizeOf c < sizeOf n) :
    appendAll visit [p] h = visit p (h p List.mem_cons_self) := by
  rw [appendAll_cons]
  funext cur
  exact bind_pure _

theorem appendAll_congr {parts parts' : List Node} (heq : parts = parts')
    (h : ∀ c ∈ parts, sizeOf c < sizeOf n) :
    appendAll visit parts h = appendAll visit parts' fun c hc => h c (heq ▸ hc) := by
  subst heq
  rfl

theorem appendChild_eq (r : Role) : appendChild n visit r = appendAll visit (n.child? r).toList
    fun _ hc => Node.sizeOf_child? (Option.mem_toList.mp hc) := by
  unfold appendChild
  split
  · next c hc =>
    have hlist : (n.child? r).toList = [c] := by rw [hc, Option.toList_some]
    rw [appendAll_congr hlist, appendAll_singleton]
  · next hnone =>
    have hlist : (n.child? r).toList = [] := by rw [hnone, Option.toList_none]
    rw [appendAll_congr hlist, appendAll_nil]

theorem appendElse_eq : appendElse n visit =
    appendAll visit n.elseStatements fun _ hc => Node.sizeOf_of_mem_elseStatements hc := by
  unfold appendElse
  split
  · next c hc =>
    split
    · next hkind =>
      have hlist : n.elseStatements = c.namedChildren := by
        simp only [Node.elseStatements, hc, hkind, if_true]
      rw [appendAll_congr hlist]
    · next hkind =>
      have hlist : n.elseStatements = [c] := by
        simp only [Node.elseStatements, hc, hkind, Bool.false_eq_true, if_false]
      rw [appendAll_congr hlist, appendAll_singleton]
  · next hnone =>
    have hlist : n.elseStatements = [] := by simp only [Node.elseStatements, hnone]
    rw [appendAll_congr hlist, appendAll_nil]

/-! ## Steps that keep a builder in order -/

theorem Does.bind {m : Build α} {f : α → Build β} {P : α → Builder → Prop}
    {Q : β → Builder → Prop} (h : Does m s P) (hf : ∀ a t, P a t → Does (f a) t Q) :
    Does (m >>= f) s Q := does_bind.mpr (h.imp hf)

theorem does_labelled {label : String} {P : BlockId → Builder → Prop} :
    Does (labelled label) s P ↔ P (s.labelBlock label).1 (s.labelBlock label).2 :=
  does_iff_of_run rfl

/-- **A step comes out in order**, with the given statements behind it: the blocks that wait then
are the given ones. -/
def Orders (nulls : List String) (m : Build α) (s : Builder) (passed : List Node)
    (defined : List String) (waiting : α → List (BlockId × Ending)) : Prop :=
  Does m s fun a t => t.Progress nulls passed defined (waiting a) ∧ s.count ≤ t.count

theorem orders_create (h : s.Progress nulls passed defined waiting) (label : String)
    (hlabel : label.toList.head? ≠ some 'l') :
    Orders nulls (create label) s passed defined fun b => (b, .opened) :: waiting :=
  does_create.mpr ⟨h.createBlock label hlabel, Nat.le_succ _⟩

theorem orders_labelled (h : s.Progress nulls passed defined waiting) (label : String) :
    Does (labelled label) s fun b t =>
      t.Progress nulls passed defined waiting ∧ t.labels[label]? = some b ∧ s.count ≤ t.count :=
  does_labelled.mpr ⟨h.labelBlock label, (h.orderly.labelBlock label).2⟩

section Waiting

variable (before) (h : s.Progress nulls passed defined (before ++ (b, e) :: waiting))

include h

theorem orders_edge (hd : d < s.count) (k : EdgeKind) :
    Orders nulls (edge b d k) s passed defined fun _ =>
      before ++ (b, { e with kinds := e.kinds ++ [k] }) :: waiting :=
  does_edge.mpr ⟨h.addEdge before hd k, Nat.le_refl _⟩

theorem orders_append (n : Node) (kind : StatementKind) (facts : List Fact) :
    Orders nulls (append b n kind facts) s passed defined fun _ => before ++ (b, e) :: waiting :=
  does_append.mpr ⟨h.addStatement before _, Nat.le_of_eq (count_addStatement _).symm⟩

theorem orders_terminate (terminator : Terminator) :
    Orders nulls (terminate b terminator) s passed defined fun _ =>
      before ++ (b, { e with terminator }) :: waiting :=
  does_terminate.mpr ⟨h.setTerminator before terminator, Nat.le_of_eq (count_setTerminator _).symm⟩

theorem orders_branchOn (n : Node) :
    Orders nulls (branchOn nulls b n) s passed defined fun _ => before ++
      (b, { e with terminator := .branch n.excerpt n.line (n.nullTest nulls) }) :: waiting :=
  (orders_append before h n _ _).bind fun _ _ ⟨ht, hle⟩ =>
    (orders_terminate before ht _).imp fun _ _ ⟨hu, hle'⟩ => ⟨hu, Nat.le_trans hle hle'⟩

end Waiting

/-- An open block that falls somewhere is final. -/
theorem orders_fall (before)
    (h : s.Progress nulls passed defined (before ++ (b, .opened) :: waiting))
    (hd : d < s.count) {k : EdgeKind} (hk : k = .fallThrough ∨ k = .loopBack) :
    Orders nulls (edge b d k) s passed defined fun _ => before ++ waiting :=
  (orders_edge before h hd k).imp fun _ _ ⟨ht, hle⟩ =>
    ⟨ht.release before (hk.imp (congrArg ([·])) (congrArg ([·]))), hle⟩

/-- **A step that passes some statements** ends the open block or leaves it open, and leaves one
block open in turn. Nothing else waits because of it. -/
def Walks (nulls : List String) (ms : List Node) (step : BlockId → Build BlockId) : Prop :=
  ∀ ⦃s cur passed defined waiting⦄, s.Progress nulls passed defined ((cur, .opened) :: waiting) →
    (labelsAmong ms ++ defined).Nodup →
    Orders nulls (step cur) s (ms ++ passed) (labelsAmong ms ++ defined) fun next =>
      (next, .opened) :: waiting

theorem walks_pure : Walks nulls [] pure :=
  fun _ _ _ _ _ h _ => does_pure.mpr ⟨h, Nat.le_refl _⟩

theorem nodup_append_left (h : (labelsAmong (ms ++ ms') ++ defined).Nodup) :
    (labelsAmong ms ++ defined).Nodup := by
  rw [labelsAmong_append] at h
  exact h.sublist (List.Sublist.append_right (List.sublist_append_left ..) defined)

theorem nodup_append_right (h : (labelsAmong (ms ++ ms') ++ defined).Nodup) :
    (labelsAmong ms' ++ (labelsAmong ms ++ defined)).Nodup := by
  rw [labelsAmong_append] at h
  exact List.append_assoc (labelsAmong ms') _ defined ▸
    (List.perm_append_comm.append_right defined).nodup_iff.mp h

/-- The statements and the labels of one step after another. -/
theorem progress_append
    (h : s.Progress nulls (ms' ++ (ms ++ passed)) (labelsAmong ms' ++ (labelsAmong ms ++ defined))
      waiting) :
    s.Progress nulls (ms ++ ms' ++ passed) (labelsAmong (ms ++ ms') ++ defined) waiting := by
  refine h.congr (fun l => ?_) fun m hm => ?_
  · simp only [labelsAmong_append, List.mem_append, or_assoc, or_left_comm]
  · simpa only [List.mem_append, or_assoc, or_left_comm] using hm

/-- One step after another. -/
theorem Walks.seq (h : Walks nulls ms step) (h' : Walks nulls ms' step') :
    Walks nulls (ms ++ ms') fun cur => step cur >>= step' := by
  intro s cur passed defined waiting hs hnodup
  refine (h hs (nodup_append_left hnodup)).bind fun m t ⟨ht, hle⟩ => ?_
  refine (h' ht (nodup_append_right hnodup)).imp fun next u ⟨hu, hle'⟩ => ?_
  exact ⟨progress_append hu, Nat.le_trans hle hle'⟩

/-- A step inside of a construct. -/
theorem Walks.inside (h : Walks nulls ms step)
    (hs : s.Progress nulls passed defined ((cur, .opened) :: waiting))
    (hnodup : (labelsAmong ms ++ defined).Nodup) {a : Nat} (ha : a < s.count) (c? : Option Nat)
    (hc : ∀ c ∈ c?, c < s.count) :
    Orders nulls (inside a c? (step cur)) s (ms ++ passed) (labelsAmong ms ++ defined) fun next =>
      (next, .opened) :: waiting :=
  does_inside.mpr ((h (hs.enter ha c? hc) hnodup).imp fun _ _ ⟨ht, hle⟩ => ⟨ht.leave hs hle, hle⟩)

/-- A step that passes the parts of a statement passes the statement as well, if it is no jump to a
label and has no label itself. -/
theorem Walks.pass (h : Walks nulls ms step) (hlabel : n.kind ≠ .labeledStatement)
    (hjump : n.kind ≠ .gotoStatement) : Walks nulls (n :: ms) step := by
  intro s cur passed defined waiting hs hnodup
  rw [labelsAmong_cons_of_ne hlabel] at hnodup ⊢
  exact (h hs hnodup).imp fun _ _ ⟨ht, hle⟩ =>
    ⟨ht.pass (absurd · hjump) (absurd · hlabel), hle⟩

/-! ## Branches and loops -/

/-- **The walk inside of a statement** does what it should with each of its parts. -/
def Visits (nulls : List String) (visit : Visit n) (parts : List Node) : Prop :=
  ∀ c ∈ parts, ∀ h, Walks nulls c.reached (visit c h)

theorem walks_appendAll {parts : List Node} (hvisit : Visits nulls visit parts)
    (h : ∀ c ∈ parts, sizeOf c < sizeOf n) :
    Walks nulls (parts.flatMap Node.reached) (appendAll visit parts h) := by
  induction parts with
  | nil => exact walks_pure
  | cons p parts ih =>
    have hrest := ih (fun c hc => hvisit c (List.mem_cons_of_mem p hc)) fun c hc =>
      h c (List.mem_cons_of_mem p hc)
    have hseq := (hvisit p List.mem_cons_self (h p List.mem_cons_self)).seq hrest
    rw [appendAll_cons, List.flatMap_cons]
    exact hseq

theorem walks_appendChild {r : Role} (hvisit : Visits nulls visit (n.child? r).toList) :
    Walks nulls ((n.child? r).toList.flatMap Node.reached) (appendChild n visit r) := by
  rw [appendChild_eq]
  exact walks_appendAll hvisit _

theorem walks_appendElse (hvisit : Visits nulls visit n.elseStatements) :
    Walks nulls (n.elseStatements.flatMap Node.reached) (appendElse n visit) := by
  rw [appendElse_eq]
  exact walks_appendAll hvisit _

theorem walks_appendIf (hc : n.child? .condition = some c)
    (hyes : Walks nulls ms (appendChild n visit .consequence))
    (hno : Walks nulls ms' (appendElse n visit))
    (hnone : n.child? .alternative = none → ms' = []) :
    Walks nulls (ms ++ ms') (appendIf nulls n visit) := by
  intro s cur passed defined waiting h hnodup
  have hleft := nodup_append_left hnodup
  have hright := nodup_append_right hnodup
  simp only [appendIf, hc]
  refine does_bind.mpr (does_some.mpr ?_)
  refine (orders_branchOn [] h c).bind fun _ s₁ ⟨h, hle₁⟩ => ?_
  refine (orders_create h "then" (by decide)).bind fun thenBlock s₂ ⟨h, hle₂⟩ => ?_
  refine (orders_create h "endif" (by decide)).bind fun after s₃ ⟨h, hle₃⟩ => ?_
  refine (orders_edge [_, _] h (h.lt_count (by simp)) .trueBranch).bind fun _ s₄ ⟨h, hle₄⟩ => ?_
  refine (hyes (h.perm (.swap ..)) hleft).bind fun thenEnd s₅ ⟨h, hle₅⟩ => ?_
  refine (orders_fall [] h (h.lt_count (by simp)) (Or.inl rfl)).bind fun _ s₆ ⟨h, hle₆⟩ => ?_
  split
  · refine (orders_create h "else" (by decide)).bind fun elseBlock s₇ ⟨h, hle₇⟩ => ?_
    refine (orders_edge [_, _] h (h.lt_count (by simp)) .falseBranch).bind fun _ s₈ ⟨h, hle₈⟩ => ?_
    refine (hno (h.release [_, _] rfl) hright).bind fun elseEnd s₉ ⟨h, hle₉⟩ => ?_
    refine (orders_fall [] h (h.lt_count (by simp)) (Or.inl rfl)).bind fun _ s₁₀ ⟨h, hle₁₀⟩ => ?_
    exact does_pure.mpr ⟨progress_append h, by omega⟩
  · next hnot =>
    rw [hnone (Option.not_isSome_iff_eq_none.mp hnot), List.append_nil]
    refine (orders_edge [_] h (h.lt_count (by simp)) .falseBranch).bind fun _ s₇ ⟨h, hle₇⟩ => ?_
    exact does_pure.mpr ⟨h.release [_] rfl, by omega⟩

/-- The edges out of a block that branches. -/
theorem orders_outcomes (before) {condition : String} {line : Nat} {test : NullTest}
    (h : s.Progress nulls passed defined
      (before ++ (b, ⟨.branch condition line test, []⟩) :: waiting))
    {yes no : Nat} (hyes : yes < s.count) (hno : no < s.count) {f : Build α}
    {P : α → Builder → Prop}
    (hf : ∀ t, t.Progress nulls passed defined (before ++ waiting) → s.count ≤ t.count →
      Does f t P) :
    Does (do edge b yes .trueBranch; edge b no .falseBranch; f) s P := by
  refine (orders_edge before h hyes .trueBranch).bind fun _ s₁ ⟨h, hle₁⟩ => ?_
  refine (orders_edge before h (by omega) .falseBranch).bind fun _ s₂ ⟨h, hle₂⟩ => ?_
  exact hf s₂ (h.release before rfl) (by omega)

theorem walks_appendWhile (hc : n.child? .condition = some c)
    (hbody : Walks nulls ms (appendChild n visit .body)) :
    Walks nulls ms (appendWhile nulls n visit) := by
  intro s cur passed defined waiting h hnodup
  simp only [appendWhile, hc]
  refine (orders_create h "while_header" (by decide)).bind fun head s₁ ⟨h, hle₁⟩ => ?_
  have hhead := h.lt_count (b := head) (by simp)
  refine (orders_fall [_] h hhead (Or.inl rfl)).bind fun _ s₂ ⟨h, hle₂⟩ => ?_
  refine (orders_branchOn [] h c).bind fun _ s₃ ⟨h, hle₃⟩ => ?_
  refine (orders_create h "while_body" (by decide)).bind fun body s₄ ⟨h, hle₄⟩ => ?_
  refine (orders_create h "while_exit" (by decide)).bind fun after s₅ ⟨h, hle₅⟩ => ?_
  refine orders_outcomes [_, _] h (h.lt_count (by simp)) (h.lt_count (by simp)) fun s₆ h hle₆ => ?_
  have hafter := h.lt_count (b := after) (by simp)
  refine (hbody.inside (h.perm (.swap ..)) hnodup hafter
    (some head) (by simp; omega)).bind fun bodyEnd s₇ ⟨h, hle₇⟩ => ?_
  refine (orders_fall [] h (by omega) (Or.inr rfl)).bind fun _ s₈ ⟨h, hle₈⟩ => ?_
  exact does_pure.mpr ⟨h, by omega⟩

theorem walks_appendDo (hc : n.child? .condition = some c)
    (hbody : Walks nulls ms (appendChild n visit .body)) :
    Walks nulls ms (appendDo nulls n visit) := by
  intro s cur passed defined waiting h hnodup
  simp only [appendDo, hc]
  refine (orders_create h "do_body" (by decide)).bind fun body s₁ ⟨h, hle₁⟩ => ?_
  have hbody' := h.lt_count (b := body) (by simp)
  refine (orders_create h "do_condition" (by decide)).bind fun test s₂ ⟨h, hle₂⟩ => ?_
  refine (orders_create h "do_exit" (by decide)).bind fun after s₃ ⟨h, hle₃⟩ => ?_
  refine (orders_fall [_, _, _] h (by omega) (Or.inl rfl)).bind fun _ s₄ ⟨h, hle₄⟩ => ?_
  have htest := h.lt_count (b := test) (by simp)
  have hafter := h.lt_count (b := after) (by simp)
  refine (hbody.inside (h.perm (List.reverse_perm [_, _, _] |>.append_right waiting)) hnodup hafter
    (some test) (by simp; omega)).bind fun bodyEnd s₅ ⟨h, hle₅⟩ => ?_
  refine (orders_fall [] h (by omega) (Or.inl rfl)).bind fun _ s₆ ⟨h, hle₆⟩ => ?_
  refine (orders_branchOn [] h c).bind fun _ s₇ ⟨h, hle₇⟩ => ?_
  refine orders_outcomes [] h (by omega) (by omega) fun s₈ h hle₈ => ?_
  exact does_pure.mpr ⟨h, by omega⟩

theorem orders_appendClause (before)
    (h : s.Progress nulls passed defined (before ++ (b, e) :: waiting)) (clause : Option Node) :
    Orders nulls (appendClause nulls b clause) s passed defined fun _ =>
      before ++ (b, e) :: waiting := by
  cases clause with
  | none => exact does_pure.mpr ⟨h, Nat.le_refl _⟩
  | some clause => exact orders_append before h clause _ _

theorem orders_endForHead (before)
    (h : s.Progress nulls passed defined (before ++ (b, .opened) :: waiting))
    {body after : Nat} (hbody : body < s.count) (hafter : after < s.count)
    (condition : Option Node) :
    Orders nulls (endForHead nulls b body after condition) s passed defined fun _ =>
      before ++ waiting := by
  cases condition with
  | none =>
    refine (orders_terminate before h .loop).bind fun _ s₁ ⟨h, hle₁⟩ => ?_
    refine (orders_edge before h (by omega) .fallThrough).imp fun _ s₂ ⟨h, hle₂⟩ => ?_
    exact ⟨h.release before rfl, by omega⟩
  | some condition =>
    refine (orders_branchOn before h condition).bind fun _ s₁ ⟨h, hle₁⟩ => ?_
    refine (orders_edge before h (by omega) .trueBranch).bind fun _ s₂ ⟨h, hle₂⟩ => ?_
    refine (orders_edge before h (by omega) .falseBranch).imp fun _ s₃ ⟨h, hle₃⟩ => ?_
    exact ⟨h.release before rfl, by omega⟩

theorem walks_appendFor (hbody : Walks nulls ms (appendChild n visit .body)) :
    Walks nulls ms (appendFor nulls n visit) := by
  intro s cur passed defined waiting h hnodup
  refine (orders_appendClause [] h _).bind fun _ s₀ ⟨h, hle₀⟩ => ?_
  refine (orders_create h "for_header" (by decide)).bind fun head s₁ ⟨h, hle₁⟩ => ?_
  have hhead := h.lt_count (b := head) (by simp)
  refine (orders_fall [_] h hhead (Or.inl rfl)).bind fun _ s₂ ⟨h, hle₂⟩ => ?_
  refine (orders_create h "for_body" (by decide)).bind fun body s₃ ⟨h, hle₃⟩ => ?_
  refine (orders_create h "for_update" (by decide)).bind fun latch s₄ ⟨h, hle₄⟩ => ?_
  refine (orders_create h "for_exit" (by decide)).bind fun after s₅ ⟨h, hle₅⟩ => ?_
  have hlatch := h.lt_count (b := latch) (by simp)
  have hafter := h.lt_count (b := after) (by simp)
  refine (orders_endForHead [_, _, _] h (h.lt_count (by simp)) hafter _).bind
    fun _ s₆ ⟨h, hle₆⟩ => ?_
  refine (hbody.inside (h.perm (List.reverse_perm [_, _, _] |>.append_right waiting)) hnodup
    (by omega) (some latch) (by simp; omega)).bind fun bodyEnd s₇ ⟨h, hle₇⟩ => ?_
  refine (orders_fall [] h (by omega) (Or.inl rfl)).bind fun _ s₈ ⟨h, hle₈⟩ => ?_
  refine (orders_appendClause [] h _).bind fun _ s₉ ⟨h, hle₉⟩ => ?_
  refine (orders_fall [] h (by omega) (Or.inr rfl)).bind fun _ s₁₀ ⟨h, hle₁₀⟩ => ?_
  exact does_pure.mpr ⟨h, by omega⟩

/-! ## Switches -/

/-- The end of the case that came before, which is still open. -/
def openEnd (previous : Option BlockId) : List (BlockId × Ending) :=
  previous.toList.map (·, .opened)

theorem orders_fallFrom (before) {previous : Option BlockId}
    (h : s.Progress nulls passed defined (before ++ (openEnd previous ++ waiting)))
    (hb : b < s.count) :
    Orders nulls (fallFrom previous b) s passed defined fun _ => before ++ waiting := by
  cases previous with
  | none => exact does_pure.mpr ⟨h, Nat.le_refl _⟩
  | some p => exact orders_fall before h hb (Or.inl rfl)

theorem head?_case (count : Nat) : ("case_" ++ toString count).toList.head? ≠ some 'l' := by
  rw [String.toList_append]
  exact (by decide : some 'c' ≠ some 'l')

/-- **The cases**: each of them has an edge from the block that the switch is in, which goes on
waiting. -/
theorem orders_appendCases {terminator : Terminator} {count k : Nat} (previous : Option BlockId)
    {cases : List Node} (hvisit : Visits nulls visit (cases.flatMap caseStatements))
    (h : ∀ c ∈ cases, sizeOf c < sizeOf n)
    (hs : s.Progress nulls passed defined
      (openEnd previous ++ (b, ⟨terminator, List.replicate k .jump⟩) :: waiting))
    (hnodup : (labelsAmong ((cases.flatMap caseStatements).flatMap Node.reached) ++
      defined).Nodup) :
    Orders nulls (appendCases visit b count previous cases h) s
      ((cases.flatMap caseStatements).flatMap Node.reached ++ passed)
      (labelsAmong ((cases.flatMap caseStatements).flatMap Node.reached) ++ defined) fun last =>
      openEnd last ++ (b, ⟨terminator, List.replicate (k + cases.length) .jump⟩) :: waiting := by
  induction cases generalizing s count k previous passed defined with
  | nil => exact does_pure.mpr ⟨hs, Nat.le_refl _⟩
  | cons c rest ih =>
    rw [List.flatMap_cons] at hvisit
    rw [List.flatMap_cons, List.flatMap_append] at hnodup ⊢
    have hfirst : Visits nulls visit (caseStatements c) := fun d hd =>
      hvisit d (List.mem_append_left _ hd)
    have hrest : Visits nulls visit (rest.flatMap caseStatements) := fun d hd =>
      hvisit d (List.mem_append_right _ hd)
    refine (orders_create hs _ (head?_case _)).bind fun block s₁ ⟨hs, hle₁⟩ => ?_
    refine (orders_edge (_ :: openEnd previous) hs (hs.lt_count (by simp)) .jump).bind
      fun _ s₂ ⟨hs, hle₂⟩ => ?_
    refine (orders_fallFrom [_] hs (hs.lt_count (by simp))).bind fun _ s₃ ⟨hs, hle₃⟩ => ?_
    refine (walks_appendAll hfirst _ hs (nodup_append_left hnodup)).bind
      fun last s₄ ⟨hs, hle₄⟩ => ?_
    rw [← List.replicate_succ'] at hs
    refine (ih (some last) hrest _ hs (nodup_append_right hnodup)).imp
      fun last' s₅ ⟨hs, hle₅⟩ => ?_
    rw [List.length_cons, ← Nat.add_assoc, Nat.add_right_comm]
    exact ⟨progress_append hs, by omega⟩

theorem walks_appendSwitch (hvisit : Visits nulls visit ((casesOf n).flatMap caseStatements)) :
    Walks nulls (((casesOf n).flatMap caseStatements).flatMap Node.reached)
      (appendSwitch nulls n visit) := by
  intro s cur passed defined waiting h hnodup
  unfold appendSwitch
  extract_lets cases more
  have hmore {s : Builder} (h : s.Progress nulls passed defined ((cur, .opened) :: waiting)) :
      Orders nulls (more ⟨⟩) s (((casesOf n).flatMap caseStatements).flatMap Node.reached ++ passed)
        (labelsAmong (((casesOf n).flatMap caseStatements).flatMap Node.reached) ++ defined)
        fun next => (next, .opened) :: waiting := by
    refine (orders_terminate [] h _).bind fun _ s₁ ⟨h, hle₁⟩ => ?_
    refine (orders_create h "switch_exit" (by decide)).bind fun after s₂ ⟨h, hle₂⟩ => ?_
    have hafter := h.lt_count (b := after) (by simp)
    refine does_inside.mpr ?_
    have hinside := (h.perm (.swap ..)).enter hafter none (by simp)
    refine (orders_appendCases (k := 0) none hvisit _ hinside hnodup).bind
      fun last s₃ ⟨h', hle₃⟩ => ?_
    rw [count_enter] at hle₃
    refine (orders_fallFrom [] h' (by omega)).bind fun _ s₄ ⟨h', hle₄⟩ => ?_
    split
    · refine (orders_edge [] h' (by omega) .jump).bind fun _ s₅ ⟨h', hle₅⟩ => ?_
      have hfinal := h'.release [] ⟨_, List.replicate_succ'.symm⟩
      exact does_pure.mpr ⟨hfinal.leave h (by omega), by rw [count_leave]; omega⟩
    · next hall =>
      -- a switch without a case counts as one in which all cases have a value
      have hlength : 0 + cases.length = cases.length - 1 + 1 := by
        rcases hcases : cases with _ | ⟨c, rest⟩
        · exact absurd (by rw [hcases]; rfl) hall
        · exact Nat.zero_add _
      have hfinal := h'.release [] ⟨_, congrArg (List.replicate · _) hlength⟩
      exact does_pure.mpr ⟨hfinal.leave h (by omega), by rw [count_leave]; omega⟩
  split
  · next c hc =>
    refine (orders_append [] h c _ _).bind fun _ s₁ ⟨h, hle₁⟩ => ?_
    exact (hmore h).imp fun _ _ ⟨h, hle₂⟩ => ⟨h, Nat.le_trans hle₁ hle₂⟩
  · exact hmore h

/-! ## Jumps, labels and plain statements -/

theorem appendAll_eq_appendEach (hvisit : ∀ c h b, visit c h b = c.appendTo nulls b)
    {parts : List Node} (h : ∀ c ∈ parts, sizeOf c < sizeOf n) :
    appendAll visit parts h = appendEach nulls parts := by
  induction parts with
  | nil => rfl
  | cons c parts ih =>
    rw [appendAll_cons, ih]
    funext b
    show visit c _ b >>= _ = _
    rw [hvisit]
    rfl

/-- Appending several statements keeps what every operation keeps. -/
theorem keeps_appendEach {I : Builder → Prop} (inv : Builder.Invariant I) (nulls : List String)
    (statements : List Node) (b : BlockId) : Keeps I (appendEach nulls statements b) := by
  induction statements generalizing b with
  | nil => exact .pure _
  | cons c statements ih => exact .bind (Node.keeps_appendTo inv nulls c b) ih

theorem walks_appendLabelled (hkind : n.kind = .labeledStatement)
    (happend : ∀ c h b, visit c h b = c.appendTo nulls b)
    (hvisit : Visits nulls visit n.substatements) :
    Walks nulls (n :: n.substatements.flatMap Node.reached) (appendLabelled n visit) := by
  have hparts : n.substatements = n.namedChildren.filter (·.kind != .statementIdentifier) := by
    simp only [Node.substatements, hkind]
  intro s cur passed defined waiting h hnodup
  rw [labelsAmong_cons hkind] at hnodup ⊢
  refine (orders_labelled h _).bind fun target s₁ ⟨h, htarget, hle₁⟩ => ?_
  have hfinal :=
    (h.addEdge [] (h.orderly.numbered.labels_lt _ _ htarget) .fallThrough).release [] (Or.inl rfl)
  refine does_bind.mpr (does_edge.mpr ?_)
  have hnew : n.labelName ∉ defined := fun hmem =>
    (List.nodup_cons.mp hnodup).1 (List.mem_append_right _ hmem)
  have hblank := hfinal.blank n.labelName target htarget hnew
  obtain ⟨next, s₂, hrun, h, hle₂⟩ := walks_appendAll hvisit
    (fun c => Node.sizeOf_substatements) (hfinal.define htarget hnew)
    (List.perm_middle.nodup_iff.mpr hnodup)
  rw [count_addEdge] at hle₂
  rw [appendAll_eq_appendEach happend] at hrun
  -- what stands behind the label takes neither its block away nor anything else
  have hlabel : s₂.labels[n.labelName]? = some target :=
    keeps_appendEach (s := s₁.addEdge cur target .fallThrough)
      (invariant_label n.labelName target) nulls _ _ htarget hrun
  have hpart := keeps_appendEach (invariant_isPartOf (s₁.addEdge cur target .fallThrough).graph)
    nulls _ _ ⟨hfinal.orderly.numbered, .refl _⟩ hrun
  have hbuilt : s₂.HasBuilt nulls n :=
    ⟨target, hlabel, _, s₂, next, hblank.1, hblank.2, hpart.2, hrun, .refl _⟩
  refine ⟨next, s₂, ?_, (h.congr (fun l => List.perm_middle.mem_iff) fun _ => id).pass
    (fun hjump => ?_) fun _ => hbuilt, by omega⟩
  · rw [appendAll_eq_appendEach happend, ← hparts]
    exact hrun
  · rw [hkind] at hjump
    cases hjump

theorem walks_appendReturn : Walks nulls [] (appendReturn nulls n) := by
  intro s cur passed defined waiting h hnodup
  refine (orders_append [] h n _ _).bind fun _ s₁ ⟨h, hle₁⟩ => ?_
  refine (orders_terminate [] h _).bind fun _ s₂ ⟨h, hle₂⟩ => ?_
  refine does_bind.mpr (does_modify.mpr ?_)
  have hfinal := (h.setExit []).release [] rfl
  refine (orders_create hfinal "after_return" (by decide)).imp fun next s₃ ⟨h, hle₃⟩ => ⟨h, ?_⟩
  rw [count_setExit] at hle₃
  omega

/-- A jump leads to the innermost target, if there is one. -/
theorem orders_jumpOut (before) {terminator : Terminator}
    (h : s.Progress nulls passed defined (before ++ (b, ⟨terminator, []⟩) :: waiting))
    {targets : List BlockId} (htargets : ∀ d ∈ targets, d < s.count) {k : EdgeKind}
    (hk : ∀ kinds, kinds = [] ∨ kinds = [k] → Ending.IsFinal ⟨terminator, kinds⟩) :
    Orders nulls (jumpOut b targets k) s passed defined fun _ => before ++ waiting := by
  cases targets with
  | nil => exact does_pure.mpr ⟨h.release before (hk _ (Or.inl rfl)), Nat.le_refl _⟩
  | cons d _ =>
    exact (orders_edge before h (htargets d List.mem_cons_self) k).imp fun _ _ ⟨h, hle⟩ =>
      ⟨h.release before (hk _ (Or.inr rfl)), hle⟩

theorem walks_appendBreak : Walks nulls [] (appendBreak n) := by
  intro s cur passed defined waiting h hnodup
  refine (orders_append [] h n _ _).bind fun _ s₁ ⟨h, hle₁⟩ => ?_
  refine (orders_terminate [] h _).bind fun _ s₂ ⟨h, hle₂⟩ => ?_
  refine does_bind.mpr (does_get.mpr ?_)
  refine (orders_jumpOut [] h (fun d hd => h.orderly.targets_lt d (Or.inl hd)) fun _ => id).bind
    fun _ s₃ ⟨h, hle₃⟩ => ?_
  exact (orders_create h "after_break" (by decide)).imp fun next s₄ ⟨h, hle₄⟩ => ⟨h, by omega⟩

theorem walks_appendContinue : Walks nulls [] (appendContinue n) := by
  intro s cur passed defined waiting h hnodup
  refine (orders_append [] h n _ _).bind fun _ s₁ ⟨h, hle₁⟩ => ?_
  refine (orders_terminate [] h _).bind fun _ s₂ ⟨h, hle₂⟩ => ?_
  refine does_bind.mpr (does_get.mpr ?_)
  refine (orders_jumpOut [] h (fun d hd => h.orderly.targets_lt d (Or.inr hd)) fun _ => id).bind
    fun _ s₃ ⟨h, hle₃⟩ => ?_
  exact (orders_create h "after_continue" (by decide)).imp fun next s₄ ⟨h, hle₄⟩ => ⟨h, by omega⟩

theorem walks_appendGoto (hkind : n.kind = .gotoStatement) : Walks nulls [n] (appendGoto n) := by
  intro s cur passed defined waiting h hnodup
  rw [labelsAmong_cons_of_ne (by simp [hkind])] at hnodup ⊢
  have hlast := h.getLast?_addStatement n.jump
  have h := h.addStatement [] n.jump
  refine does_bind.mpr (does_append.mpr (does_bind.mpr (does_labelled.mpr ?_)))
  have hlast := h.getLast?_labelBlock n.labelName hlast
  obtain ⟨htarget, hle₁⟩ := (h.orderly.labelBlock n.labelName).2
  have h := h.labelBlock n.labelName
  refine does_bind.mpr (does_terminate.mpr (does_bind.mpr (does_edge.mpr ?_)))
  have hjump := h.hasJump hlast htarget
  have h := (h.setTerminator [] (.goto n.labelName)).addEdge []
    ((count_setTerminator _).symm ▸ h.orderly.numbered.labels_lt _ _ htarget) .jump
  have h := (h.release [] rfl).pass (fun _ => hjump) fun hlabel => by simp [hkind] at hlabel
  refine (orders_create h "after_goto" (by decide)).imp fun next s₅ ⟨h, hle₅⟩ => ⟨h, ?_⟩
  rw [count_addEdge, count_setTerminator] at hle₅
  rw [count_addStatement] at hle₁
  exact Nat.le_trans hle₁ hle₅

theorem walks_append (kind : StatementKind) (facts : List Fact) : Walks nulls [] fun cur => do
    append cur n kind facts
    return cur := by
  intro s cur passed defined waiting h hnodup
  exact (orders_append [] h n kind facts).bind fun _ _ h => does_pure.mpr h

theorem walks_appendExpression : Walks nulls [] (appendExpression nulls n) := by
  unfold appendExpression
  cases expressionKind? n with
  | none => exact walks_pure
  | some kind =>
    cases kind with
    | call f =>
      by_cases hf : Node.noReturnFunctions.contains f
      · intro s cur passed defined waiting h hnodup
        simp only [hf, if_true]
        refine (orders_append [] h n _ _).bind fun _ s₁ ⟨h, hle₁⟩ => ?_
        refine (orders_terminate [] h _).bind fun _ s₂ ⟨h, hle₂⟩ => ?_
        exact (orders_create (h.release [] rfl) "after_noreturn" (by decide)).imp
          fun next s₃ ⟨h, hle₃⟩ => ⟨h, by omega⟩
      · simp only [hf, Bool.false_eq_true, if_false]
        exact walks_append ..
    | declaration _ | assignment _ | expression | returning | condition | controlFlow | other =>
      exact walks_append ..

theorem walks_appendOther : Walks nulls [] (appendOther nulls n) := by
  unfold appendOther
  split
  · exact walks_append ..
  · exact walks_pure

end Build

namespace C.Node

open Build

variable {nulls : List String} {n body : C.Node}

/-- **The walk through a statement** passes the statements in it and leaves everything in order. -/
theorem walks_appendTo {n : C.Node} (hn : n.HasConditions) :
    Walks nulls n.reached (n.appendTo nulls) := by
  intro s cur passed defined waiting hs hnodup
  -- the walk goes on in the parts of the statement
  have hvisit {parts : List C.Node} (hparts : n.substatements = parts) :
      Visits (n := n) nulls (fun c _ b => c.appendTo nulls b) parts :=
    fun c hc _ => walks_appendTo (hn.of_substatements (hparts ▸ hc))
  have hcondition := hn.exists_condition
  rw [reached_eq] at hnodup ⊢
  rw [appendTo]
  split
  case h_1 hkind =>
    have hparts : n.substatements = n.namedChildren := by simp only [substatements, hkind]
    rw [hparts] at hnodup ⊢
    exact (walks_appendAll (hvisit hparts) _).pass (by simp [hkind]) (by simp [hkind]) hs hnodup
  case h_2 hkind =>
    have hparts : n.substatements = (n.child? .consequence).toList ++ n.elseStatements := by
      simp only [substatements, hkind]
    obtain ⟨c, hc⟩ := hcondition (by simp [hkind])
    rw [hparts, List.flatMap_append] at hnodup ⊢
    have hall := hvisit hparts
    refine (walks_appendIf hc (walks_appendChild fun d hd => hall d (List.mem_append_left _ hd))
      (walks_appendElse fun d hd => hall d (List.mem_append_right _ hd)) fun hnone => ?_).pass
        (by simp [hkind]) (by simp [hkind]) hs hnodup
    simp only [elseStatements, hnone, List.flatMap_nil]
  case h_3 hkind =>
    have hparts : n.substatements = (n.child? .body).toList := by simp only [substatements, hkind]
    obtain ⟨c, hc⟩ := hcondition (by simp [hkind])
    rw [hparts] at hnodup ⊢
    exact (walks_appendWhile hc (walks_appendChild (hvisit hparts))).pass (by simp [hkind])
      (by simp [hkind]) hs hnodup
  case h_4 hkind =>
    have hparts : n.substatements = (n.child? .body).toList := by simp only [substatements, hkind]
    obtain ⟨c, hc⟩ := hcondition (by simp [hkind])
    rw [hparts] at hnodup ⊢
    exact (walks_appendDo hc (walks_appendChild (hvisit hparts))).pass (by simp [hkind])
      (by simp [hkind]) hs hnodup
  case h_5 hkind =>
    have hparts : n.substatements = (n.child? .body).toList := by simp only [substatements, hkind]
    rw [hparts] at hnodup ⊢
    exact (walks_appendFor (walks_appendChild (hvisit hparts))).pass (by simp [hkind])
      (by simp [hkind]) hs hnodup
  case h_6 hkind =>
    have hparts : n.substatements = (casesOf n).flatMap caseStatements := by
      simp only [substatements, hkind]
    rw [hparts] at hnodup ⊢
    exact (walks_appendSwitch (hvisit hparts)).pass (by simp [hkind]) (by simp [hkind]) hs hnodup
  case h_7 hkind =>
    exact walks_appendLabelled hkind (fun _ _ _ => rfl) (hvisit rfl) hs hnodup
  all_goals rw [substatements_eq_nil (by simp_all [constructs]), List.flatMap_nil] at hnodup ⊢
  case h_12 hkind => exact walks_appendGoto hkind hs hnodup
  case h_9 => exact walks_appendReturn.pass (by simp_all) (by simp_all) hs hnodup
  case h_10 => exact walks_appendBreak.pass (by simp_all) (by simp_all) hs hnodup
  case h_11 => exact walks_appendContinue.pass (by simp_all) (by simp_all) hs hnodup
  case h_13 => exact (walks_append _ _).pass (by simp_all) (by simp_all) hs hnodup
  case h_14 => exact walks_appendExpression.pass (by simp_all) (by simp_all) hs hnodup
  case h_19 => exact walks_appendOther.pass (by simp_all) (by simp_all) hs hnodup
  -- comments and declarations of types
  all_goals exact walks_pure.pass (by simp_all) (by simp_all) hs hnodup
termination_by sizeOf n
decreasing_by exact sizeOf_substatements (hparts ▸ hc)

end C.Node

end NullFlow
