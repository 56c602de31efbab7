import NullFlow.Proofs.Expression.Mandatory
import NullFlow.Proofs.Graph.Kept
import NullFlow.Proofs.Graph.WellFormed
import NullFlow.Proofs.Values

/-!
# No fact is lost or kept twice

Of the operations of the builder only one adds facts, that of a statement to a block that exists. So
while a statement is appended, the facts in the graph grow by exactly those that the statement and
its parts keep, in whatever blocks they end up.
-/

namespace NullFlow

namespace Builder

variable {s t u : Builder} {b c x : Nat} {F F' : List Fact}

/-- The facts in the graph so far, block by block. -/
def facts (s : Builder) : List Fact :=
  (List.range s.count).flatMap fun b => (s.site b).statements.flatMap (·.facts)

theorem facts_congr (hcount : t.count = s.count)
    (h : ∀ x : Nat, (t.site x).statements = (s.site x).statements) : t.facts = s.facts := by
  unfold facts
  rw [hcount]
  exact List.flatMap_congr fun x _ => by rw [h x]

theorem facts_addEdge (k : EdgeKind) : (s.addEdge b c k).facts = s.facts := by
  refine facts_congr rfl fun x => ?_
  rw [site_addEdge]
  split
  · rfl
  · rfl

theorem facts_setTerminator (terminator : Terminator) :
    (s.setTerminator b terminator).facts = s.facts := by
  refine facts_congr (count_setTerminator _) fun x => ?_
  rw [site_setTerminator]
  split
  · rw [Site.statements_setTerminator]
  · rfl

theorem facts_setExit : (s.setExit b).facts = s.facts := by
  refine facts_congr count_setExit fun x => ?_
  have hmap : ((s.setExit b).graph.blocks[x]?).map (·.statements) =
      (s.graph.blocks[x]?).map (·.statements) := by
    rw [blocks_setExit]
    exact map_getElem?_modifyBlock fun _ => rfl
  have hstatements (s : Builder) : (s.site x).statements =
      ((s.graph.blocks[x]?).map (·.statements)).getD [] := by
    unfold site Graph.site Site.statements
    cases s.graph.blocks[x]? <;> rfl
  rw [hstatements, hstatements, hmap]

theorem facts_createBlock (label : String) : (s.createBlock label).2.facts = s.facts := by
  unfold facts
  rw [count_createBlock, List.range_succ, List.flatMap_append, List.flatMap_singleton,
    site_createBlock, if_pos rfl]
  refine (List.append_nil _).trans (List.flatMap_congr fun x hx => ?_)
  rw [site_createBlock, if_neg (Nat.ne_of_lt (List.mem_range.mp hx))]

theorem facts_labelBlock (label : String) : (s.labelBlock label).2.facts = s.facts := by
  rcases s.labelBlock_cases label with ⟨b, -, heq⟩ | ⟨-, heq⟩
  · rw [heq]
  · rw [heq]
    exact facts_createBlock _

/-- What is added in one place of a list is added to the whole. -/
theorem perm_flatMap_add {f g : Nat → List Fact} {l : List Nat} (hl : l.Nodup) (hc : c ∈ l)
    (hadd : g c = f c ++ F) (hother : ∀ x ∈ l, x ≠ c → g x = f x) :
    (l.flatMap g).Perm (l.flatMap f ++ F) := by
  induction l with
  | nil => cases hc
  | cons a l ih =>
    obtain ⟨ha, hl⟩ := List.nodup_cons.mp hl
    rw [List.flatMap_cons, List.flatMap_cons]
    rcases List.mem_cons.mp hc with rfl | hc
    · have hrest : l.flatMap g = l.flatMap f := List.flatMap_congr fun x hx =>
        hother x (List.mem_cons_of_mem c hx) fun hxc => ha (hxc ▸ hx)
      rw [hadd, hrest, List.append_assoc, List.append_assoc]
      exact List.perm_append_comm.append_left _
    · rw [hother a List.mem_cons_self fun hac => ha (hac ▸ hc), List.append_assoc]
      exact (ih hl hc fun x hx => hother x (List.mem_cons_of_mem a hx)).append_left _

/-- **A statement that is added to a block** adds its facts. -/
theorem perm_facts_addStatement (h : s.Numbered) (hb : b < s.count) (st : Statement) :
    (s.addStatement b st).facts.Perm (s.facts ++ st.facts) := by
  obtain ⟨block, hblock⟩ := h.exists_block hb
  have hstatements : ((s.site b).addStatement st).statements = (s.site b).statements ++ [st] := by
    have hsite : s.site b = ⟨some block, s.graph.outEdges b, s.graph.exits.contains b⟩ :=
      Site.ext hblock rfl rfl
    rw [hsite]
    rfl
  unfold facts
  rw [count_addStatement]
  refine perm_flatMap_add List.nodup_range (List.mem_range.mpr hb) ?_ fun x _ hx => ?_
  · rw [site_addStatement, if_pos rfl, hstatements, List.flatMap_append, List.flatMap_singleton]
  · rw [site_addStatement, if_neg hx]

/-- **What a builder gains**: some facts and perhaps some blocks. -/
structure Gains (s t : Builder) (F : List Fact) : Prop where
  numbered : t.Numbered
  perm : t.facts.Perm (s.facts ++ F)

theorem Gains.refl (h : s.Numbered) : s.Gains s [] := ⟨h, by rw [List.append_nil]⟩

theorem Gains.trans (h : s.Gains t F) (h' : t.Gains u F') : s.Gains u (F ++ F') :=
  ⟨h'.numbered, h'.perm.trans (List.append_assoc .. ▸ h.perm.append_right F')⟩

/-- What adds no facts. -/
theorem Gains.of_facts_eq (h : s.Gains t F) (hu : u.Numbered) (hfacts : u.facts = t.facts) :
    s.Gains u F := ⟨hu, hfacts ▸ h.perm⟩

end Builder

namespace Build

open C (Node Role)
open Builder

variable {nulls : List String} {n c : Node} {visit : Visit n} {s₀ s : Builder}
  {cur b d : Nat} {F F' : List Fact} {step : BlockId → Build BlockId}

/-! ## Steps -/

section Steps

variable (h : s₀.Gains s F)

include h

theorem gains_create (label : String) : Does (create label) s fun (b : Nat) t =>
    s₀.Gains t F ∧ b < t.count ∧ s.count ≤ t.count :=
  does_create.mpr ⟨h.of_facts_eq (h.numbered.createBlock label) (facts_createBlock label),
    Nat.lt_succ_self _, Nat.le_succ _⟩

theorem gains_edge (k : EdgeKind) : Does (edge b d k) s fun _ t =>
    s₀.Gains t F ∧ s.count ≤ t.count :=
  does_edge.mpr ⟨h.of_facts_eq (invariant_numbered.addEdge b d k h.numbered) (facts_addEdge k),
    Nat.le_refl _⟩

theorem gains_terminate (terminator : Terminator) : Does (terminate b terminator) s fun _ t =>
    s₀.Gains t F ∧ s.count ≤ t.count :=
  does_terminate.mpr ⟨h.of_facts_eq (invariant_numbered.setTerminator b _ h.numbered)
    (facts_setTerminator terminator), Nat.le_of_eq (count_setTerminator _).symm⟩

theorem gains_append (hb : b < s.count) (n : Node) (kind : StatementKind) (facts : List Fact) :
    Does (append b n kind facts) s fun _ t => s₀.Gains t (F ++ facts) ∧ s.count ≤ t.count :=
  does_append.mpr ⟨h.trans ⟨invariant_numbered.addStatement b _ h.numbered,
    perm_facts_addStatement h.numbered hb _⟩, Nat.le_of_eq (count_addStatement _).symm⟩

theorem gains_branchOn (hb : b < s.count) (n : Node) : Does (branchOn nulls b n) s fun _ t =>
    s₀.Gains t (F ++ n.facts nulls) ∧ s.count ≤ t.count :=
  (gains_append h hb n _ _).bind fun _ _ ⟨h, hle⟩ =>
    (gains_terminate h _).imp fun _ _ ⟨h, hle'⟩ => ⟨h, Nat.le_trans hle hle'⟩

theorem gains_fallFrom (previous : Option BlockId) : Does (fallFrom previous b) s fun _ t =>
    s₀.Gains t F ∧ s.count ≤ t.count := by
  cases previous with
  | none => exact does_pure.mpr ⟨h, Nat.le_refl _⟩
  | some p => exact gains_edge h .fallThrough

theorem gains_jumpOut (targets : List BlockId) (k : EdgeKind) :
    Does (jumpOut b targets k) s fun _ t => s₀.Gains t F ∧ s.count ≤ t.count := by
  cases targets with
  | nil => exact does_pure.mpr ⟨h, Nat.le_refl _⟩
  | cons d _ => exact gains_edge h k

theorem gains_labelled (label : String) : Does (labelled label) s fun (b : Nat) t =>
    s₀.Gains t F ∧ b < t.count ∧ s.count ≤ t.count :=
  does_labelled.mpr ⟨h.of_facts_eq (h.numbered.labelBlock label) (facts_labelBlock label),
    h.numbered.labelBlock_lt label⟩

end Steps

/-- **A step that brings some facts** into the graph. -/
def Brings (F : List Fact) (step : BlockId → Build BlockId) : Prop :=
  ∀ ⦃s₀ s : Builder⦄ ⦃cur : Nat⦄ ⦃F₀ : List Fact⦄, s₀.Gains s F₀ → cur < s.count →
    Does (step cur) s fun (next : Nat) t =>
      s₀.Gains t (F₀ ++ F) ∧ next < t.count ∧ s.count ≤ t.count

theorem brings_pure : Brings [] pure := fun _ _ _ F₀ h hcur =>
  does_pure.mpr ⟨(List.append_nil F₀).symm ▸ h, hcur, Nat.le_refl _⟩

/-- One step after another. -/
theorem Brings.seq {step' : BlockId → Build BlockId} (h : Brings F step) (h' : Brings F' step') :
    Brings (F ++ F') fun cur => step cur >>= step' := by
  intro s₀ s cur F₀ g hcur
  refine (h g hcur).bind fun m t ⟨g, hm, hle⟩ => ?_
  refine (h' g hm).imp fun next u ⟨g, hnext, hle'⟩ => ?_
  exact ⟨List.append_assoc .. ▸ g, hnext, Nat.le_trans hle hle'⟩

/-- A step inside of a construct. -/
theorem Brings.inside (h : Brings F' step) (g : s₀.Gains s F) (hcur : cur < s.count) (a : BlockId)
    (c? : Option BlockId) : Does (inside a c? (step cur)) s fun (next : Nat) t =>
      s₀.Gains t (F ++ F') ∧ next < t.count ∧ s.count ≤ t.count := by
  have henter : s₀.Gains (s.enter a c?) F :=
    g.of_facts_eq (invariant_numbered.enter _ _ g.numbered) rfl
  refine does_inside.mpr ((h henter hcur).imp fun next t ⟨g', hnext, hle⟩ => ?_)
  exact ⟨g'.of_facts_eq (invariant_numbered.leave g.numbered g'.numbered) rfl, hnext, hle⟩

/-! ## Constructs -/

/-- **The walk inside of a statement** keeps the facts of each of its parts. -/
def BringsAll (nulls : List String) (visit : Visit n) (parts : List Node) : Prop :=
  ∀ c ∈ parts, ∀ h, Brings (c.keptFacts nulls) (visit c h)

theorem brings_appendAll {parts : List Node} (hvisit : BringsAll nulls visit parts)
    (h : ∀ c ∈ parts, sizeOf c < sizeOf n) :
    Brings (parts.flatMap (Node.keptFacts nulls)) (appendAll visit parts h) := by
  induction parts with
  | nil => exact brings_pure
  | cons p parts ih =>
    rw [appendAll_cons, List.flatMap_cons]
    exact (hvisit p List.mem_cons_self _).seq
      (ih (fun c hc => hvisit c (List.mem_cons_of_mem p hc)) _)

theorem brings_appendChild {r : Role} (hvisit : BringsAll nulls visit (n.child? r).toList) :
    Brings ((n.child? r).toList.flatMap (Node.keptFacts nulls)) (appendChild n visit r) := by
  rw [appendChild_eq]
  exact brings_appendAll hvisit _

theorem brings_appendElse (hvisit : BringsAll nulls visit n.elseStatements) :
    Brings (n.elseStatements.flatMap (Node.keptFacts nulls)) (appendElse n visit) := by
  rw [appendElse_eq]
  exact brings_appendAll hvisit _

theorem brings_appendIf (hc : n.child? .condition = some c)
    (hyes : Brings F (appendChild n visit .consequence)) (hno : Brings F' (appendElse n visit))
    (hnone : n.child? .alternative = none → F' = []) :
    Brings (c.facts nulls ++ (F ++ F')) (appendIf nulls n visit) := by
  intro s₀ s cur F₀ g hcur
  unfold appendIf
  rw [hc]
  refine does_bind.mpr (does_some.mpr ?_)
  refine (gains_branchOn g hcur c).bind fun _ s₁ ⟨g, hle₁⟩ => ?_
  refine (gains_create g "then").bind fun thenBlock s₂ ⟨g, hthen, hle₂⟩ => ?_
  refine (gains_create g "endif").bind fun after s₃ ⟨g, hafter, hle₃⟩ => ?_
  refine (gains_edge g .trueBranch).bind fun _ s₄ ⟨g, hle₄⟩ => ?_
  refine (hyes g (by omega)).bind fun thenEnd s₅ ⟨g, _, hle₅⟩ => ?_
  refine (gains_edge g .fallThrough).bind fun _ s₆ ⟨g, hle₆⟩ => ?_
  rw [List.append_assoc] at g
  split
  · refine (gains_create g "else").bind fun elseBlock s₇ ⟨g, helse, hle₇⟩ => ?_
    refine (gains_edge g .falseBranch).bind fun _ s₈ ⟨g, hle₈⟩ => ?_
    refine (hno g (by omega)).bind fun elseEnd s₉ ⟨g, _, hle₉⟩ => ?_
    refine (gains_edge g .fallThrough).bind fun _ s₁₀ ⟨g, hle₁₀⟩ => ?_
    rw [List.append_assoc, List.append_assoc] at g
    exact does_pure.mpr ⟨g, by omega, by omega⟩
  · next hnot =>
    rw [hnone (Option.not_isSome_iff_eq_none.mp hnot), List.append_nil]
    refine (gains_edge g .falseBranch).bind fun _ s₇ ⟨g, hle₇⟩ => ?_
    exact does_pure.mpr ⟨g, by omega, by omega⟩

theorem brings_appendWhile (hc : n.child? .condition = some c)
    (hbody : Brings F (appendChild n visit .body)) :
    Brings (c.facts nulls ++ F) (appendWhile nulls n visit) := by
  intro s₀ s cur F₀ g hcur
  unfold appendWhile
  rw [hc]
  refine (gains_create g "while_header").bind fun head s₁ ⟨g, hhead, hle₁⟩ => ?_
  refine (gains_edge g .fallThrough).bind fun _ s₂ ⟨g, hle₂⟩ => ?_
  refine (gains_branchOn g (by omega) c).bind fun _ s₃ ⟨g, hle₃⟩ => ?_
  refine (gains_create g "while_body").bind fun body s₄ ⟨g, hbody', hle₄⟩ => ?_
  refine (gains_create g "while_exit").bind fun after s₅ ⟨g, hafter, hle₅⟩ => ?_
  refine (gains_edge g .trueBranch).bind fun _ s₆ ⟨g, hle₆⟩ => ?_
  refine (gains_edge g .falseBranch).bind fun _ s₇ ⟨g, hle₇⟩ => ?_
  refine (hbody.inside g (by omega) after (some head)).bind fun bodyEnd s₈ ⟨g, _, hle₈⟩ => ?_
  refine (gains_edge g .loopBack).bind fun _ s₉ ⟨g, hle₉⟩ => ?_
  rw [List.append_assoc] at g
  exact does_pure.mpr ⟨g, by omega, by omega⟩

theorem brings_appendDo (hc : n.child? .condition = some c)
    (hbody : Brings F (appendChild n visit .body)) :
    Brings (F ++ c.facts nulls) (appendDo nulls n visit) := by
  intro s₀ s cur F₀ g hcur
  unfold appendDo
  rw [hc]
  refine (gains_create g "do_body").bind fun body s₁ ⟨g, hbody', hle₁⟩ => ?_
  refine (gains_create g "do_condition").bind fun test s₂ ⟨g, htest, hle₂⟩ => ?_
  refine (gains_create g "do_exit").bind fun after s₃ ⟨g, hafter, hle₃⟩ => ?_
  refine (gains_edge g .fallThrough).bind fun _ s₄ ⟨g, hle₄⟩ => ?_
  refine (hbody.inside g (by omega) after (some test)).bind fun bodyEnd s₅ ⟨g, _, hle₅⟩ => ?_
  refine (gains_edge g .fallThrough).bind fun _ s₆ ⟨g, hle₆⟩ => ?_
  refine (gains_branchOn g (by omega) c).bind fun _ s₇ ⟨g, hle₇⟩ => ?_
  refine (gains_edge g .trueBranch).bind fun _ s₈ ⟨g, hle₈⟩ => ?_
  refine (gains_edge g .falseBranch).bind fun _ s₉ ⟨g, hle₉⟩ => ?_
  rw [List.append_assoc] at g
  exact does_pure.mpr ⟨g, by omega, by omega⟩

theorem gains_appendClause (g : s₀.Gains s F) (hb : b < s.count) (clause : Option Node) :
    Does (appendClause nulls b clause) s fun _ t =>
      s₀.Gains t (F ++ clause.toList.flatMap (Node.facts nulls)) ∧ s.count ≤ t.count := by
  cases clause with
  | none => exact does_pure.mpr ⟨(List.append_nil F).symm ▸ g, Nat.le_refl _⟩
  | some clause =>
    rw [Option.toList_some, List.flatMap_singleton]
    exact gains_append g hb clause _ _

theorem gains_endForHead (g : s₀.Gains s F) (hb : b < s.count) (body after : BlockId)
    (condition : Option Node) : Does (endForHead nulls b body after condition) s fun _ t =>
      s₀.Gains t (F ++ condition.toList.flatMap (Node.facts nulls)) ∧ s.count ≤ t.count := by
  cases condition with
  | none =>
    rw [Option.toList_none, List.flatMap_nil, List.append_nil]
    refine (gains_terminate g .loop).bind fun _ s₁ ⟨g, hle₁⟩ => ?_
    exact (gains_edge g .fallThrough).imp fun _ s₂ ⟨g, hle₂⟩ => ⟨g, by omega⟩
  | some condition =>
    rw [Option.toList_some, List.flatMap_singleton]
    refine (gains_branchOn g hb condition).bind fun _ s₁ ⟨g, hle₁⟩ => ?_
    refine (gains_edge g .trueBranch).bind fun _ s₂ ⟨g, hle₂⟩ => ?_
    exact (gains_edge g .falseBranch).imp fun _ s₃ ⟨g, hle₃⟩ => ⟨g, by omega⟩

theorem Brings.congr (h : Brings F step) (hperm : F.Perm F') : Brings F' step :=
  fun _ _ _ _ g hcur => (h g hcur).imp fun _ _ ⟨g, hbounds⟩ =>
    ⟨⟨g.numbered, g.perm.trans ((hperm.append_left _).append_left _)⟩, hbounds⟩

theorem brings_appendFor (hbody : Brings F (appendChild n visit .body)) :
    Brings ((n.childrenFor [.initializer, .condition, .update]).flatMap (Node.facts nulls) ++ F)
      (appendFor nulls n visit) := by
  have hbrings : Brings ((n.child? .initializer).toList.flatMap (Node.facts nulls) ++
      ((n.child? .condition).toList.flatMap (Node.facts nulls) ++
        (F ++ (n.child? .update).toList.flatMap (Node.facts nulls))))
      (appendFor nulls n visit) := by
    intro s₀ s cur F₀ g hcur
    refine (gains_appendClause g hcur _).bind fun _ s₀ ⟨g, hle₀⟩ => ?_
    refine (gains_create g "for_header").bind fun head s₁ ⟨g, hhead, hle₁⟩ => ?_
    refine (gains_edge g .fallThrough).bind fun _ s₂ ⟨g, hle₂⟩ => ?_
    refine (gains_create g "for_body").bind fun body s₃ ⟨g, hbody', hle₃⟩ => ?_
    refine (gains_create g "for_update").bind fun latch s₄ ⟨g, hlatch, hle₄⟩ => ?_
    refine (gains_create g "for_exit").bind fun after s₅ ⟨g, hafter, hle₅⟩ => ?_
    refine (gains_endForHead g (by omega) body after _).bind fun _ s₆ ⟨g, hle₆⟩ => ?_
    refine (hbody.inside g (by omega) after (some latch)).bind fun bodyEnd s₇ ⟨g, _, hle₇⟩ => ?_
    refine (gains_edge g .fallThrough).bind fun _ s₈ ⟨g, hle₈⟩ => ?_
    refine (gains_appendClause g (by omega) _).bind fun _ s₉ ⟨g, hle₉⟩ => ?_
    refine (gains_edge g .loopBack).bind fun _ s₁₀ ⟨g, hle₁₀⟩ => ?_
    rw [List.append_assoc, List.append_assoc, List.append_assoc] at g
    exact does_pure.mpr ⟨g, by omega, by omega⟩
  refine hbrings.congr ?_
  simp only [Node.childrenFor_cons, Node.childrenFor_nil, List.append_nil, List.flatMap_append,
    List.append_assoc]
  exact (List.perm_append_comm.append_left _).append_left _

/-! ## Switches -/

theorem brings_appendCases {visit : Visit n} {dispatch : BlockId} {count : Nat}
    {previous : Option BlockId} {cases : List Node}
    (hvisit : BringsAll nulls visit (cases.flatMap caseStatements))
    (h : ∀ c ∈ cases, sizeOf c < sizeOf n) (g : s₀.Gains s F) :
    Does (appendCases visit dispatch count previous cases h) s fun _ t =>
      s₀.Gains t (F ++ (cases.flatMap caseStatements).flatMap (Node.keptFacts nulls)) ∧
        s.count ≤ t.count := by
  induction cases generalizing s count previous F with
  | nil => exact does_pure.mpr ⟨(List.append_nil F).symm ▸ g, Nat.le_refl _⟩
  | cons c rest ih =>
    rw [List.flatMap_cons] at hvisit
    rw [List.flatMap_cons, List.flatMap_append]
    have hfirst : BringsAll nulls visit (caseStatements c) := fun d hd =>
      hvisit d (List.mem_append_left _ hd)
    have hrest : BringsAll nulls visit (rest.flatMap caseStatements) := fun d hd =>
      hvisit d (List.mem_append_right _ hd)
    refine (gains_create g _).bind fun block s₁ ⟨g, hblock, hle₁⟩ => ?_
    refine (gains_edge g .jump).bind fun _ s₂ ⟨g, hle₂⟩ => ?_
    refine (gains_fallFrom g _).bind fun _ s₃ ⟨g, hle₃⟩ => ?_
    refine (brings_appendAll hfirst _ g (by omega)).bind fun last s₄ ⟨g, _, hle₄⟩ => ?_
    refine (ih hrest _ g).imp fun last' s₅ ⟨g, hle₅⟩ => ?_
    rw [List.append_assoc] at g
    exact ⟨g, by omega⟩

theorem brings_appendSwitch
    (hvisit : BringsAll nulls visit ((casesOf n).flatMap caseStatements)) :
    Brings ((n.child? .condition).toList.flatMap (Node.facts nulls) ++
      ((casesOf n).flatMap caseStatements).flatMap (Node.keptFacts nulls))
      (appendSwitch nulls n visit) := by
  intro s₀ s cur F₀ g hcur
  unfold appendSwitch
  extract_lets cases more
  have hmore {s : Builder} {F : List Fact} (g : s₀.Gains s F) :
      Does (more ⟨⟩) s fun (next : Nat) t =>
        s₀.Gains t (F ++ (cases.flatMap caseStatements).flatMap (Node.keptFacts nulls)) ∧
          next < t.count ∧ s.count ≤ t.count := by
    refine (gains_terminate g _).bind fun _ s₁ ⟨g, hle₁⟩ => ?_
    refine (gains_create g "switch_exit").bind fun after s₂ ⟨g, hafter, hle₂⟩ => ?_
    refine does_inside.mpr ?_
    have genter : s₀.Gains (s₂.enter after none) F :=
      g.of_facts_eq (invariant_numbered.enter _ _ g.numbered) rfl
    refine (brings_appendCases hvisit _ genter).bind fun last s₃ ⟨g₃, hle₃⟩ => ?_
    refine (gains_fallFrom g₃ _).bind fun _ s₄ ⟨g₄, hle₄⟩ => ?_
    rw [count_enter] at hle₃
    split
    · refine (gains_edge g₄ .jump).bind fun _ s₅ ⟨g₅, hle₅⟩ => ?_
      exact does_pure.mpr ⟨g₅.of_facts_eq (invariant_numbered.leave g.numbered g₅.numbered) rfl,
        by rw [count_leave]; omega, by rw [count_leave]; omega⟩
    · exact does_pure.mpr ⟨g₄.of_facts_eq (invariant_numbered.leave g.numbered g₄.numbered) rfl,
        by rw [count_leave]; omega, by rw [count_leave]; omega⟩
  split
  · next c hc =>
    rw [hc, Option.toList_some, List.flatMap_singleton]
    refine (gains_append g hcur c _ _).bind fun _ s₁ ⟨g, hle₁⟩ => ?_
    refine (hmore g).imp fun next t ⟨g, hnext, hle₂⟩ => ?_
    rw [List.append_assoc] at g
    exact ⟨g, hnext, Nat.le_trans hle₁ hle₂⟩
  · next hnone =>
    rw [Option.eq_none_iff_forall_ne_some.mpr hnone]
    exact hmore g

/-! ## Jumps, labels and plain statements -/

theorem brings_appendLabelled
    (hvisit : BringsAll nulls visit (n.namedChildren.filter (·.kind != .statementIdentifier))) :
    Brings ((n.namedChildren.filter (·.kind != .statementIdentifier)).flatMap
      (Node.keptFacts nulls)) (appendLabelled n visit) := by
  intro s₀ s cur F₀ g hcur
  refine (gains_labelled g _).bind fun target s₁ ⟨g, htarget, hle₁⟩ => ?_
  refine (gains_edge g .fallThrough).bind fun _ s₂ ⟨g, hle₂⟩ => ?_
  refine (brings_appendAll hvisit _ g (by omega)).imp fun next s₃ ⟨g, hnext, hle₃⟩ => ?_
  exact ⟨g, hnext, by omega⟩

theorem brings_appendReturn : Brings (n.facts nulls) (appendReturn nulls n) := by
  intro s₀ s cur F₀ g hcur
  refine (gains_append g hcur n _ _).bind fun _ s₁ ⟨g, hle₁⟩ => ?_
  refine (gains_terminate g _).bind fun _ s₂ ⟨g, hle₂⟩ => ?_
  refine does_bind.mpr (does_modify.mpr ?_)
  have gexit := g.of_facts_eq (invariant_numbered.setExit cur g.numbered) facts_setExit
  refine (gains_create gexit "after_return").imp fun next s₃ ⟨g, hnext, hle₃⟩ => ?_
  rw [count_setExit] at hle₃
  exact ⟨g, hnext, by omega⟩

theorem brings_appendBreak : Brings [] (appendBreak n) := by
  intro s₀ s cur F₀ g hcur
  refine (gains_append g hcur n _ _).bind fun _ s₁ ⟨g, hle₁⟩ => ?_
  refine (gains_terminate g _).bind fun _ s₂ ⟨g, hle₂⟩ => ?_
  refine does_bind.mpr (does_get.mpr ?_)
  refine (gains_jumpOut g _ _).bind fun _ s₃ ⟨g, hle₃⟩ => ?_
  exact (gains_create g "after_break").imp fun next s₄ ⟨g, hnext, hle₄⟩ => ⟨g, hnext, by omega⟩

theorem brings_appendContinue : Brings [] (appendContinue n) := by
  intro s₀ s cur F₀ g hcur
  refine (gains_append g hcur n _ _).bind fun _ s₁ ⟨g, hle₁⟩ => ?_
  refine (gains_terminate g _).bind fun _ s₂ ⟨g, hle₂⟩ => ?_
  refine does_bind.mpr (does_get.mpr ?_)
  refine (gains_jumpOut g _ _).bind fun _ s₃ ⟨g, hle₃⟩ => ?_
  exact (gains_create g "after_continue").imp fun next s₄ ⟨g, hnext, hle₄⟩ =>
    ⟨g, hnext, by omega⟩

theorem brings_appendGoto : Brings [] (appendGoto n) := by
  intro s₀ s cur F₀ g hcur
  refine (gains_append g hcur n _ _).bind fun _ s₁ ⟨g, hle₁⟩ => ?_
  refine (gains_labelled g _).bind fun target s₂ ⟨g, _, hle₂⟩ => ?_
  refine (gains_terminate g _).bind fun _ s₃ ⟨g, hle₃⟩ => ?_
  refine (gains_edge g .jump).bind fun _ s₄ ⟨g, hle₄⟩ => ?_
  exact (gains_create g "after_goto").imp fun next s₅ ⟨g, hnext, hle₅⟩ => ⟨g, hnext, by omega⟩

theorem brings_append (kind : StatementKind) (facts : List Fact) : Brings facts fun cur => do
    append cur n kind facts
    return cur := by
  intro s₀ s cur F₀ g hcur
  refine (gains_append g hcur n kind facts).bind fun _ s₁ ⟨g, hle⟩ => ?_
  exact does_pure.mpr ⟨g, by omega, hle⟩

theorem brings_appendExpression :
    Brings (if n.firstNamed?.isSome then n.facts nulls else []) (appendExpression nulls n) := by
  have hsome : (expressionKind? n).isSome = n.firstNamed?.isSome := Option.isSome_map
  unfold appendExpression
  rw [← hsome]
  cases expressionKind? n with
  | none => exact brings_pure
  | some kind =>
    cases kind with
    | call f =>
      by_cases hf : Node.noReturnFunctions.contains f
      · intro s₀ s cur F₀ g hcur
        simp only [hf, if_true]
        refine (gains_append g hcur n _ _).bind fun _ s₁ ⟨g, hle₁⟩ => ?_
        refine (gains_terminate g _).bind fun _ s₂ ⟨g, hle₂⟩ => ?_
        exact (gains_create g "after_noreturn").imp fun next s₃ ⟨g, hnext, hle₃⟩ =>
          ⟨g, hnext, by omega⟩
      · simp only [hf, Bool.false_eq_true, if_false]
        exact brings_append ..
    | declaration _ | assignment _ | expression | returning | condition | controlFlow | other =>
      exact brings_append ..

theorem brings_appendOther :
    Brings (if 1 < n.excerpt.utf8ByteSize then n.facts nulls else []) (appendOther nulls n) := by
  unfold appendOther
  split
  · exact brings_append ..
  · exact brings_pure

end Build

namespace C.Node

open Build

variable {nulls : List String} {file function : String} {n body : C.Node}

/-- **The walk through a statement** brings the facts that the statement and its parts keep. -/
theorem brings_appendTo {n : C.Node} (hn : n.HasConditions) :
    Brings (n.keptFacts nulls) (n.appendTo nulls) := by
  intro s₀ s cur F₀ g hcur
  -- the walk goes on in the parts of the statement
  have hvisit {parts : List C.Node} (hparts : n.substatements = parts) :
      BringsAll (n := n) nulls (fun c _ b => c.appendTo nulls b) parts :=
    fun c hc _ => brings_appendTo (hn.of_substatements (hparts ▸ hc))
  have hcondition := hn.exists_condition
  rw [keptFacts_eq, appendTo]
  split
  case h_1 hkind =>
    have hparts : n.substatements = n.namedChildren := by simp only [substatements, hkind]
    simp only [ownFacts, hkind, List.nil_append, hparts]
    exact brings_appendAll (hvisit hparts) _ g hcur
  case h_2 hkind =>
    have hparts : n.substatements = (n.child? .consequence).toList ++ n.elseStatements := by
      simp only [substatements, hkind]
    obtain ⟨c, hc⟩ := hcondition (by simp [hkind])
    have hall := hvisit hparts
    simp only [ownFacts, hkind, hparts, List.flatMap_append, childrenFor_cons, childrenFor_nil, hc,
      Option.toList_some, List.append_nil, List.flatMap_singleton]
    refine brings_appendIf hc (brings_appendChild fun d hd => hall d (List.mem_append_left _ hd))
      (brings_appendElse fun d hd => hall d (List.mem_append_right _ hd)) (fun hnone => ?_) g hcur
    simp only [elseStatements, hnone, List.flatMap_nil]
  case h_3 hkind =>
    have hparts : n.substatements = (n.child? .body).toList := by simp only [substatements, hkind]
    obtain ⟨c, hc⟩ := hcondition (by simp [hkind])
    simp only [ownFacts, hkind, hparts, childrenFor_cons, childrenFor_nil, hc,
      Option.toList_some, List.append_nil, List.flatMap_singleton]
    exact brings_appendWhile hc (brings_appendChild (hvisit hparts)) g hcur
  case h_4 hkind =>
    have hparts : n.substatements = (n.child? .body).toList := by simp only [substatements, hkind]
    obtain ⟨c, hc⟩ := hcondition (by simp [hkind])
    simp only [ownFacts, hkind, hparts, childrenFor_cons, childrenFor_nil, hc,
      Option.toList_some, List.append_nil, List.flatMap_singleton]
    exact (brings_appendDo hc (brings_appendChild (hvisit hparts))).congr List.perm_append_comm
      g hcur
  case h_5 hkind =>
    have hparts : n.substatements = (n.child? .body).toList := by simp only [substatements, hkind]
    simp only [ownFacts, hkind, hparts]
    exact brings_appendFor (brings_appendChild (hvisit hparts)) g hcur
  case h_6 hkind =>
    have hparts : n.substatements = (casesOf n).flatMap caseStatements := by
      simp only [substatements, hkind]
    simp only [ownFacts, hkind, hparts, childrenFor_cons, childrenFor_nil, List.append_nil]
    exact brings_appendSwitch (hvisit hparts) g hcur
  case h_7 hkind =>
    have hparts : n.substatements = n.namedChildren.filter (·.kind != .statementIdentifier) := by
      simp only [substatements, hkind]
    simp only [ownFacts, hkind, List.nil_append, hparts]
    exact brings_appendLabelled (hvisit hparts) g hcur
  all_goals rw [substatements_eq_nil (by simp_all [constructs]), List.flatMap_nil, List.append_nil]
  case h_19 =>
    have hown : n.ownFacts nulls = if 1 < n.excerpt.utf8ByteSize then n.facts nulls else [] := by
      unfold ownFacts
      split
      case h_19 => rfl
      all_goals exact absurd ‹n.kind = _› ‹_›
    rw [hown]
    exact brings_appendOther g hcur
  all_goals
    rename_i hkind
    simp only [ownFacts, hkind]
  case h_9 => exact brings_appendReturn g hcur
  case h_10 => exact brings_appendBreak g hcur
  case h_11 => exact brings_appendContinue g hcur
  case h_12 => exact brings_appendGoto g hcur
  case h_13 => exact brings_append _ _ g hcur
  case h_14 => exact brings_appendExpression g hcur
  -- comments and declarations of types
  all_goals exact brings_pure g hcur
termination_by sizeOf n
decreasing_by exact sizeOf_substatements (hparts ▸ hc)

end C.Node

namespace Builder

/-- The numbers of the blocks, in some order. -/
theorem Numbered.perm_keys {s : Builder} (h : s.Numbered) :
    s.graph.blocks.keys.Perm (List.range s.count) := by
  refine (List.perm_ext_iff_of_nodup Std.ExtTreeMap.nodup_keys List.nodup_range).mpr fun b => ?_
  rw [Std.ExtTreeMap.mem_keys, List.mem_range]
  exact h.mem_blocks

/-- The facts of a graph are those of its blocks, number by number. -/
theorem Numbered.perm_facts {s : Builder} (h : s.Numbered) : s.graph.facts.Perm s.facts := by
  have hpairs : s.graph.facts = s.graph.blocks.toList.flatMap fun p =>
      (s.site p.1).statements.flatMap (·.facts) := by
    unfold Graph.facts Graph.blockList
    rw [values_eq_map, List.flatMap_map]
    refine List.flatMap_congr fun ⟨b, block⟩ hp => ?_
    have hblock := Std.ExtTreeMap.mem_toList_iff_getElem?_eq_some.mp hp
    unfold site Graph.site Site.statements
    rw [hblock]
    rfl
  have hkeys : s.graph.facts = s.graph.blocks.keys.flatMap fun b =>
      (s.site b).statements.flatMap (·.facts) := by
    rw [hpairs, ← Std.ExtTreeMap.map_fst_toList_eq_keys, List.flatMap_map]
  rw [hkeys]
  exact h.perm_keys.flatMap_right _

/-- The finished graph has the facts that were in it when the walk was over. -/
theorem Numbered.perm_facts_build {s : Builder} (h : s.Numbered) (last : BlockId) :
    ((s.setExit last).setTerminator last .returning).build.facts.Perm s.facts := by
  let t := (s.setExit last).setTerminator last .returning
  have ht : t.Numbered := invariant_numbered.setTerminator last .returning (h.setExit last)
  have hbuild : t.build.facts = t.graph.facts := by
    rw [t.build_eq]
    rfl
  rw [hbuild]
  refine ht.perm_facts.trans ?_
  rw [facts_setTerminator, facts_setExit]

end Builder

namespace C.Node

open Build

variable {nulls : List String} {file function : String} {n body : C.Node}

/-- **No fact of a body is lost or kept twice.** The facts in the graph of a definition are those of
its body, but for those of declarations of types and of the values of cases, which are left out on
purpose. Nothing is said about the statements in the body of a switch outside of the cases. -/
theorem exists_graph_perm_facts (nulls : List String) (file function : String)
    (hbody : n.child? .body = some body) (h : ∀ m ∈ body.reached, m.IsStatement) :
    ∃ g lost, n.graphOf? nulls file function = some g ∧
      lost.Subperm (body.strays.flatMap (facts nulls)) ∧
      (g.facts ++ body.omissions nulls ++ lost).Perm (body.facts nulls) := by
  have hbrings : Brings (body.keptFacts nulls) (body.appendTo nulls) :=
    brings_appendTo fun m hm => (h m hm).condition
  obtain ⟨last, t, hrun, g, -, -⟩ := hbrings (.refl (.begun function file)) Nat.one_pos
  have hkept : t.facts.Perm (body.keptFacts nulls) := g.perm
  refine ⟨_, body.strays.flatMap (facts nulls), graphOf?_of_run hbody hrun, List.Subperm.refl _, ?_⟩
  exact ((((g.numbered.perm_facts_build last).trans hkept).append_right _).append_right _).trans
    (perm_facts h)

/-- The definition `void f(int *p) { if (p) return *p; }`, as far as the construction looks at
it. -/
def returnPointee : Node :=
  ⟨.returnStatement, some .consequence, "return *p;", 1, 25, [pointee .value]⟩

def guardedReturn : Node :=
  ⟨.ifStatement, none, "if (p) return *p;", 1, 18,
    [⟨.parenthesizedExpression, some .condition, "(p)", 1, 21,
      [⟨.identifier, none, "p", 1, 22, []⟩]⟩, returnPointee]⟩

def guardedBody : Node :=
  ⟨.compoundStatement, some .body, "\x7b if (p) return *p; \x7d", 1, 16, [guardedReturn]⟩

def guardedFunction : Node :=
  ⟨.functionDefinition, none, "void f(int *p) \x7b if (p) return *p; \x7d", 1, 1, [guardedBody]⟩

theorem reached_guardedBody :
    guardedBody.reached = [guardedBody, guardedReturn, returnPointee] := by
  have hbody : guardedBody.substatements = [guardedReturn] := rfl
  have hif : guardedReturn.substatements = [returnPointee] := rfl
  have hreturn : returnPointee.substatements = [] := rfl
  rw [reached_eq, hbody, List.flatMap_singleton, reached_eq, hif, List.flatMap_singleton,
    reached_eq, hreturn, List.flatMap_nil]

theorem isStatement_guardedBody : ∀ m ∈ guardedBody.reached, m.IsStatement := by
  intro m hm
  rw [reached_guardedBody] at hm
  simp only [List.mem_cons, List.not_mem_nil, or_false] at hm
  rcases hm with rfl | rfl | rfl
  · exact ⟨nofun, by decide, nofun, by decide, by decide, by decide⟩
  · exact ⟨fun roles hform => by cases hform; rfl, by decide, nofun, by decide, by decide,
      by decide⟩
  · exact ⟨nofun, by decide, nofun, by decide, by decide, by decide⟩

/-- A function whose graph keeps the facts of a branch. -/
theorem exists_graph_perm_facts_guarded :
    (∀ m ∈ guardedBody.reached, m.IsStatement) ∧
      ∃ g lost, guardedFunction.graphOf? [] "test.c" "f" = some g ∧
        lost.Subperm (guardedBody.strays.flatMap (facts [])) ∧
        (g.facts ++ guardedBody.omissions [] ++ lost).Perm (guardedBody.facts []) :=
  ⟨isStatement_guardedBody,
    exists_graph_perm_facts [] "test.c" "f" rfl isStatement_guardedBody⟩

/-! ### A declaration of a type -/

/-- The definition `void f(int *p) { typedef char row[*p]; }`, punctuation left out. -/
def sizedType : Node :=
  ⟨.typeDefinition, none, "typedef char row[*p];", 1, 18,
    [⟨.primitiveType, some .type, "char", 1, 26, []⟩,
      ⟨.arrayDeclarator, some .declarator, "row[*p]", 1, 31,
        [⟨.typeIdentifier, some .declarator, "row", 1, 31, []⟩, pointee .size]⟩]⟩

def sizedBody : Node :=
  ⟨.compoundStatement, some .body, "\x7b typedef char row[*p]; \x7d", 1, 16, [sizedType]⟩

def sized : Node :=
  ⟨.functionDefinition, none, "void f(int *p) \x7b typedef char row[*p]; \x7d", 1, 1, [sizedBody]⟩

/-- **A fact of the body that is not in the graph**: the size of a type is evaluated where the type
is declared, but the graph has nothing of the declaration. -/
theorem exists_graph_without_fact : ∃ g, sized.graphOf? [] "test.c" "f" = some g ∧
    g.facts = [] ∧ sizedBody.facts [] = [.deref "p" .star 1] := by
  have htype : sizedType.appendTo [] = pure := by
    funext b
    rw [appendTo]
    rfl
  have hbody : sizedBody.appendTo [] 0 = (sizedType.appendTo [] 0 >>= pure) := by
    rw [appendTo]
    rfl
  have hrun : (sizedBody.appendTo [] 0).run (.begun "f" "test.c") =
      some (0, .begun "f" "test.c") := by
    rw [hbody, htype]
    rfl
  have hnone : (Builder.begun "f" "test.c").facts = [] := rfl
  have hfacts := (Builder.Numbered.begun "f" "test.c").perm_facts_build 0
  rw [hnone, List.perm_nil] at hfacts
  refine ⟨_, graphOf?_of_run rfl hrun, hfacts, ?_⟩
  -- the walk over the tree comes to the size
  have hpointee : (pointee .size).facts [] = [.deref "p" .star 1] := factsUnder_pointee rfl
  rw [facts_eq_flatMap (by decide)]
  show sizedType.facts [] ++ [] = _
  rw [List.append_nil, facts_eq_flatMap (by decide)]
  show facts [] _ ++ (facts [] _ ++ []) = _
  rw [facts_of_children_eq_nil rfl, List.nil_append, List.append_nil, facts_eq_flatMap (by decide)]
  show facts [] _ ++ (facts [] (pointee .size) ++ []) = _
  rw [facts_of_children_eq_nil rfl, hpointee]
  rfl

end C.Node

end NullFlow
