import NullFlow.Proofs.Check.Defects
import NullFlow.Proofs.Expression.Kinds
import NullFlow.Proofs.Graph.WellFormed
import NullFlow.Proofs.Summary.Grounded

/-!
# Functions without branches

The body of a function may hold nothing but **simple** statements (`C.Node.IsSimple`): control runs
through them and nothing else. The graph of such a function has one block, which does what the
statements do (`C.Node.exists_graphOf?_simple`). There is nowhere for a state to flow, so an
analysis reports what it reports about this block at the entry (`Graph.IsStraight.collect_eq`), and
what is found in the function can be read off the facts of its statements
(`CheckOptions.findingsIn_straight`).
-/

namespace NullFlow

/-! ## Growing one block -/

namespace Builder

variable {function file : String} {facts : List Fact} {s : Builder}

/-- **Nothing was done but to append statements to the first block**, which has the given facts. -/
def InOneBlock (function file : String) (facts : List Fact) (s : Builder) : Prop :=
  ∃ block : Block, block.facts = facts ∧ s = { begun function file with
    graph := { (begun function file).graph with
      blocks := (∅ : Std.ExtTreeMap BlockId Block).insert 0 block } }

theorem inOneBlock_begun (function file : String) :
    InOneBlock function file [] (begun function file) :=
  ⟨_, rfl, rfl⟩

theorem InOneBlock.addStatement (h : InOneBlock function file facts s) (t : Statement) :
    InOneBlock function file (facts ++ t.facts) (s.addStatement 0 t) := by
  obtain ⟨block, rfl, rfl⟩ := h
  refine ⟨withStatement block t, ?_, rfl⟩
  simp only [Block.facts, withStatement, List.flatMap_append, List.flatMap_cons, List.flatMap_nil,
    List.append_nil]

end Builder

namespace C.Node

open Build
open Builder (InOneBlock)

variable {nulls : List String} {function file : String} {facts : List Fact} {s : Builder}
  {n body : Node}

/-- **A simple statement** does something and goes on to the next one: a comment, a declaration, or
an expression that calls no function. -/
inductive IsSimple (n : Node) : Prop
  | comment (hkind : n.kind = .comment)
  | declaration (hkind : n.kind = .declaration)
  | expression (hkind : n.kind = .expressionStatement)
    (hcalls : ∀ e ∈ n.firstNamed?, e.kind ≠ .callExpression)

/-- An expression statement without an expression does nothing. -/
theorem facts_emptyStatement (hkind : n.kind = .expressionStatement)
    (hnone : n.firstNamed? = none) : n.facts nulls = [] := by
  have hnil : n.namedChildren = [] :=
    List.head?_eq_none_iff.mp (List.head?_filter.trans hnone)
  rw [facts_eq_flatMap (hkind ▸ by decide), hnil, List.flatMap_nil]

/-- **A simple statement is appended to the block**, which stays open. -/
theorem IsSimple.run_appendTo (h : n.IsSimple) (nulls : List String)
    (hs : InOneBlock function file facts s) :
    ∃ t, (n.appendTo nulls 0).run s = some (0, t) ∧
      InOneBlock function file (facts ++ n.facts nulls) t := by
  cases h with
  | comment hkind =>
    refine ⟨s, ?_, ?_⟩
    · rw [appendTo, hkind]
      rfl
    · rwa [facts_comment hkind, List.append_nil]
  | declaration hkind =>
    refine ⟨_, ?_, hs.addStatement ⟨n.line, .declaration
      ((n.childrenIn .declarator).filterMap declaredName?), n.excerpt, n.facts nulls⟩⟩
    rw [appendTo, hkind]
    rfl
  | expression hkind hcalls =>
    rw [appendTo, hkind]
    cases hfirst : n.firstNamed? with
    | none =>
      refine ⟨s, ?_, ?_⟩
      · simp only [appendExpression, expressionKind?, hfirst, Option.map_none]
        rfl
      · rwa [facts_emptyStatement hkind hfirst, List.append_nil]
    | some e =>
      have hcall : (e.kind == .callExpression) = false :=
        beq_eq_false_iff_ne.mpr (hcalls e hfirst)
      simp only [appendExpression, expressionKind?, hfirst, Option.map_some, hcall]
      split
      · exact ⟨_, rfl, hs.addStatement ⟨n.line, _, n.excerpt, n.facts nulls⟩⟩
      · exact ⟨_, rfl, hs.addStatement ⟨n.line, _, n.excerpt, n.facts nulls⟩⟩

/-- Simple statements are appended to the block one after the other. -/
theorem run_appendAll_simple (nulls : List String) {parts : List Node}
    (hsimple : ∀ c ∈ parts, c.IsSimple)
    (hsize : ∀ c ∈ parts, sizeOf c < sizeOf n) (hs : InOneBlock function file facts s) :
    ∃ t, (appendAll (fun c _ b => c.appendTo nulls b) parts hsize 0).run s = some (0, t) ∧
      InOneBlock function file (facts ++ parts.flatMap (Node.facts nulls)) t := by
  induction parts generalizing s facts with
  | nil => exact ⟨s, rfl, by rwa [List.flatMap_nil, List.append_nil]⟩
  | cons c rest ih =>
    obtain ⟨t, hrun, ht⟩ := (hsimple c List.mem_cons_self).run_appendTo nulls hs
    obtain ⟨u, hrest, hu⟩ := ih (fun d hd => hsimple d (List.mem_cons_of_mem c hd))
      (fun d hd => hsize d (List.mem_cons_of_mem c hd)) ht
    refine ⟨u, ?_, ?_⟩
    · rw [appendAll_cons, StateT.run_bind, hrun]
      exact hrest
    · rwa [List.flatMap_cons, ← List.append_assoc]

/-- **The graph of a function of simple statements** has one block, which does what they do and
returns. -/
theorem exists_graphOf?_simple (nulls : List String) (file function : String)
    (hbody : n.child? .body = some body)
    (hkind : body.kind = .compoundStatement) (hsimple : ∀ c ∈ body.namedChildren, c.IsSimple) :
    ∃ g, n.graphOf? nulls file function = some g ∧ g.function = function ∧ g.file = file ∧
      g.IsStraight (body.namedChildren.flatMap (Node.facts nulls)) ∧
      ∀ (b : BlockId) (block : Block), g.blocks[b]? = some block →
        block.terminator = .returning := by
  obtain ⟨s, hrun, block, hfacts, hs⟩ := run_appendAll_simple nulls hsimple
    (fun _ => sizeOf_namedChildren) (Builder.inOneBlock_begun function file)
  have hwalk : (body.appendTo nulls 0).run (.begun function file) = some (0, s) := by
    rw [appendTo, hkind]
    exact hrun
  refine ⟨_, graphOf?_of_run hbody hwalk, ?_⟩
  subst hs
  refine ⟨rfl, rfl, ⟨rfl, rfl, rfl, _, rfl, ?_⟩, fun b last hb => ?_⟩
  · exact hfacts
  · change ((∅ : Std.ExtTreeMap BlockId Block).insert 0 _)[b]? = some last at hb
    rw [Std.ExtTreeMap.getElem?_insert] at hb
    split at hb
    · cases hb
      rfl
    · simp at hb

end C.Node

/-! ## What is found in one block -/

namespace Graph.IsStraight

variable {σ ρ : Type} {g : Graph} {facts : List Fact}

/-- Nothing flows out of the only block. -/
theorem solve_eq (h : g.IsStraight facts) (a : Analysis σ ρ) :
    a.solve g = (∅ : States σ).insert 0 a.entry := by
  obtain ⟨block, hblocks, -⟩ := h.blocks_eq
  have hblock : g.blocks[(0 : BlockId)]? = some block := by
    rw [hblocks]
    exact Std.ExtTreeMap.getElem?_insert_self
  have hstate : ((∅ : States σ).insert 0 a.entry)[(0 : BlockId)]? = some a.entry :=
    Std.ExtTreeMap.getElem?_insert_self
  have hout : g.outEdges 0 = [] := by rw [outEdges, h.edges_eq, List.filter_nil]
  rw [Analysis.solve, if_pos h.entry_mem, h.entry_eq, Analysis.iterate, hblock, hstate]
  simp only [hout, Analysis.pushAll, List.foldl_nil]
  rw [Analysis.iterate]

/-- **What is reported about a graph of one block** is what is reported about the block at the
entry. -/
theorem collect_eq (h : g.IsStraight facts) (a : Analysis σ ρ) :
    ∃ block, g.blocks[(0 : BlockId)]? = some block ∧ a.collect g = a.reports block a.entry := by
  obtain ⟨block, hblocks, -⟩ := h.blocks_eq
  refine ⟨block, ?_, ?_⟩
  · rw [hblocks]
    exact Std.ExtTreeMap.getElem?_insert_self
  · unfold Analysis.collect
    rw [h.solve_eq a, hblocks]
    exact List.append_nil _

end Graph.IsStraight

namespace CheckOptions

variable {o : CheckOptions} {known : Summaries} {g : Graph} {facts : List Fact}

/-- **What is found in a function that runs straight to its end** are the dereferences of null among
its facts. -/
theorem findingsIn_straight (h : g.IsStraight facts)
    (hreturns : ∀ (b : BlockId) (block : Block), g.blocks[b]? = some block →
      block.terminator = .returning) :
    o.findingsIn known g =
      if o.enables .forwardNull then ForwardNull.factFindings known g ∅ facts else [] := by
  obtain ⟨block, hblock, hforward⟩ := h.collect_eq (ForwardNull.analysis known g)
  obtain ⟨block', hblock', hreverse⟩ := h.collect_eq (MustDeref.analysis known g)
  have hnull : ForwardNull.factFindings known g ∅ block.facts =
      ForwardNull.factFindings known g ∅ facts := by rw [h.facts_eq hblock]
  have hnone : (MustDeref.analysis known g).collect g = [] := by
    rw [hreverse]
    show MustDeref.conditionFindings g block' _ = []
    unfold MustDeref.conditionFindings
    rw [hreturns 0 block' hblock']
  unfold findingsIn
  rw [hnone, hforward, ite_self, List.append_nil]
  exact congrArg (if o.enables .forwardNull then · else []) hnull

/-- **What is found in a source with one such function**, whatever is known about others. -/
theorem checkSource_straight {s : C.Source} {n body : C.Node} {function : String} (file : String)
    (hdefinition : s.root.functionDefinitions = [n]) (hname : n.functionName? = some function)
    (hbody : n.child? .body = some body) (hkind : body.kind = .compoundStatement)
    (hsimple : ∀ c ∈ body.namedChildren, c.IsSimple) :
    ∃ g : Graph, g.function = function ∧ g.file = file ∧ ∃ known, o.checkSource s file =
      Finding.distinct (Finding.sort (if o.enables .forwardNull then
        ForwardNull.factFindings known g ∅ (body.namedChildren.flatMap (C.Node.facts o.nullNames))
        else [])) := by
  obtain ⟨g, hg, hfunction, hfile, hstraight, hreturns⟩ := 
    C.Node.exists_graphOf?_simple o.nullNames file function hbody hkind hsimple
  have hgraphs : s.graphs file o.nullNames = [g] := by
    unfold C.Source.graphs
    rw [hdefinition, List.filterMap_cons, hname, Option.bind_some, hg, List.filterMap_nil]
  refine ⟨g, hfunction, hfile, o.summaries [g], ?_⟩
  have hfindings : [g].flatMap (o.findingsIn (o.summaries [g])) = _ :=
    (List.append_nil _).trans (findingsIn_straight hstraight hreturns)
  unfold checkSource
  rw [hgraphs]
  exact congrArg (Finding.distinct <| Finding.sort ·) hfindings

end CheckOptions

end NullFlow
