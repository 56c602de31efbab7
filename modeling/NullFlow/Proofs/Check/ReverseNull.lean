import NullFlow.Proofs.Analysis.MustDeref
import NullFlow.Proofs.Check.Defects

/-!
# What reverse-null findings mean

A check is reported where the loop keeps the tested variable. Which variables it keeps at a block is
decided by the walks to it alone (`MustDeref.mem_solve_iff`): a variable is kept exactly if on every
walk the last fact that concerns it dereferences it. From left to right this is the fixed point;
from right to left, a variable that is not kept was dropped by a join or by a fact, and there is a
walk on which that happened. So the walks decide about the findings too.
-/

namespace NullFlow

namespace MustDeref

variable {known : Summaries} {g : Graph} {v : String}

/-- No edge is ruled out, and the state carried along a walk holds the variables that its facts
leave dereferenced. -/
theorem exists_along (known : Summaries) {es : List Edge} {b : BlockId}
    (w : g.Walk g.entry es b) :
    ∃ s, (analysis known g).along g es = some s ∧
      ∀ v, v ∈ s ↔ Fact.LastDereferences known v (g.factsAlong es) := by
  induction w with
  | nil _ =>
    refine ⟨∅, rfl, fun v => ?_⟩
    rw [Graph.factsAlong_nil]
    exact iff_of_false Std.ExtTreeMap.not_mem_empty Fact.not_lastDereferences_nil
  | @snoc es c e w he _ ih =>
    obtain ⟨s, hs, hmem⟩ := ih
    have hsource := Graph.source_of_mem_outEdges he
    obtain ⟨block, hblock⟩ := Graph.exists_getElem?_of_mem_blocks w.mem_blocks
    refine ⟨s.afterAll known block.facts, ?_, fun v => ?_⟩
    · rw [Analysis.along_snoc, hs, Option.bind_some, Analysis.stepAlong, hsource, hblock]
      rfl
    · rw [Graph.factsAlong_snoc, hsource, Graph.factsOf_eq hblock]
      exact DerefState.mem_afterAll (hmem v)

/-- A block that a walk reaches has a state, and what the state holds is dereferenced on the
walk. -/
theorem exists_solve_of_walk (known : Summaries) {es : List Edge} {b : BlockId}
    (w : g.Walk g.entry es b) :
    ∃ s, ((analysis known g).solve g)[b]? = some s ∧
      ∀ v ∈ s, Fact.LastDereferences known v (g.factsAlong es) := by
  obtain ⟨r, hr, hmem⟩ := exists_along known w
  obtain ⟨s, hs, hbelow⟩ := (order known g).solve_along w hr
  exact ⟨s, hs, fun v hv => (hmem v).mp (hbelow v hv)⟩

/-- **A variable that a state lacks was lost on some walk**: there is a walk to the block, and if
its facts leave the variable dereferenced, the state holds it. -/
theorem exists_walk_of_solve {b : BlockId} {s : DerefState} (hin : b ∈ g.blocks)
    (hs : ((analysis known g).solve g)[b]? = some s) (v : String) :
    ∃ es, g.Walk g.entry es b ∧ (Fact.LastDereferences known v (g.factsAlong es) → v ∈ s) := by
  refine Analysis.solve_induction (analysis known g) g
    (P := fun b s => b ∈ g.blocks → ∃ es, g.Walk g.entry es b ∧
      (Fact.LastDereferences known v (g.factsAlong es) → v ∈ s))
    (fun _ hin => ⟨[], .nil hin, fun h => (Fact.not_lastDereferences_nil h).elim⟩)
    (fun {b block s e t} hP hb he hr hin => ?_) (fun {b s t} hs ht hin => ?_) hs hin
  · obtain ⟨es, w, hkept⟩ := hP (Graph.mem_blocks_of_getElem? hb)
    cases hr
    refine ⟨es ++ [e], w.snoc he hin, fun hlast => ?_⟩
    rw [Graph.factsAlong_snoc, Graph.source_of_mem_outEdges he, Graph.factsOf_eq hb] at hlast
    exact DerefState.mem_afterAll_of_imp hkept hlast
  · obtain ⟨es, w, hs⟩ := hs hin
    obtain ⟨es', w', ht⟩ := ht hin
    -- the walk of the side that lacks the variable, if one does
    by_cases hv : v ∈ s
    · exact ⟨es', w', fun h => DerefState.mem_join.mpr ⟨hv, ht h⟩⟩
    · exact ⟨es, w, fun h => absurd (hs h) hv⟩

/-- **The walks decide.** At the end of a block that exists the analysis keeps a variable exactly if
some walk leads to the block and on every walk to its end the last fact that concerns the variable
dereferences it. -/
theorem mem_solve_iff {b : BlockId} {block : Block} (hb : g.blocks[b]? = some block) :
    (∃ s, ((analysis known g).solve g)[b]? = some s ∧ v ∈ s.afterAll known block.facts) ↔
      g.Reaches b ∧ ∀ es, g.Walk g.entry es b →
        Fact.LastDereferences known v (g.factsAlong es ++ block.facts) := by
  constructor
  · rintro ⟨s, hs, hv⟩
    obtain ⟨es, w, -⟩ := exists_walk_of_solve (Graph.mem_blocks_of_getElem? hb) hs v
    refine ⟨⟨es, w⟩, fun es w => ?_⟩
    obtain ⟨s', hs', hmem⟩ := exists_solve_of_walk known w
    rw [hs] at hs'
    cases hs'
    exact DerefState.lastDereferences_of_mem_afterAll (hmem v) hv
  · rintro ⟨⟨es, w⟩, hall⟩
    obtain ⟨s, hs, -⟩ := exists_solve_of_walk known w
    -- on the walk that explains what the state lacks, the variable was dereferenced as well
    obtain ⟨es', w', hkept⟩ := exists_walk_of_solve (Graph.mem_blocks_of_getElem? hb) hs v
    exact ⟨s, hs, DerefState.mem_afterAll_of_imp hkept (hall es' w')⟩

/-- **A finding reports a variable** as checked after it was dereferenced. -/
def Reports (x : Finding) (v : String) : Prop :=
  x.category = .reverseNull ∧ x.message = checkText v

/-- The message of a finding tells which variable is checked. -/
theorem checkText_injective {v w : String} (h : checkText v = checkText w) : v = w := by
  have hcancel : ∀ a b c : String, a ++ v ++ b ++ c = a ++ w ++ b ++ c → v = w := by
    intro a b c habc
    have hlist := congrArg String.toList habc
    simp only [String.toList_append] at hlist
    exact String.toList_injective
      (List.append_cancel_left (List.append_cancel_right (List.append_cancel_right hlist)))
  exact hcancel _ _ _ h

end MustDeref

/-- **Reverse-null is exact on the graph.** A check of a variable is reported for a line and a
function exactly if in a graph of the function a reachable block ends in a condition on that line
that tests the variable, and on every walk to the end of the block the last fact that concerns the
variable dereferences it. -/
theorem CheckOptions.reverseNull_iff_walks {o : CheckOptions} {graphs : List Graph}
    (hen : o.enables .reverseNull = true) (v function : String) (line : Nat) :
    (∃ x ∈ o.check graphs, MustDeref.Reports x v ∧ x.function = function ∧ x.line = line) ↔
      ∃ g ∈ graphs, g.function = function ∧
        ∃ (b : BlockId) (block : Block) (text : String) (test : NullTest),
          g.blocks[b]? = some block ∧ block.terminator = .branch text line test ∧
          v ∈ test.testedVars ∧ g.Reaches b ∧
          ∀ es, g.Walk g.entry es b →
            Fact.LastDereferences (o.summaries graphs) v (g.factsAlong es ++ block.facts) := by
  constructor
  · rintro ⟨x, hx, ⟨hcategory, hmessage⟩, rfl, rfl⟩
    obtain ⟨g, hg, hfound⟩ := mem_check hx
    rcases mem_findingsIn.mp hfound with ⟨-, h⟩ | ⟨-, h⟩
    · rw [ForwardNull.category_of_mem_collect h] at hcategory
      cases hcategory
    · obtain ⟨b, block, s, hb, hs, hx⟩ := Analysis.mem_collect.mp h
      obtain ⟨text, line, test, w, site, hterm, hw, hsite, rfl⟩ :=
        MustDeref.mem_conditionFindings.mp hx
      have hvw : v = w := MustDeref.checkText_injective hmessage.symm
      subst hvw
      have hmem : v ∈ s.afterAll (o.summaries graphs) block.facts := by
        rw [Std.ExtTreeMap.mem_iff_isSome_getElem?, hsite]
        rfl
      obtain ⟨hreach, hall⟩ := (MustDeref.mem_solve_iff hb).mp ⟨s, hs, hmem⟩
      exact ⟨g, hg, rfl, b, block, text, test, hb, hterm, hw, hreach, hall⟩
  · rintro ⟨g, hg, rfl, b, block, text, test, hb, hterm, hv, hreach, hall⟩
    obtain ⟨s, hs, hmem⟩ := (MustDeref.mem_solve_iff hb).mpr ⟨hreach, hall⟩
    obtain ⟨site, hsite⟩ := Option.isSome_iff_exists.mp
      (Std.ExtTreeMap.mem_iff_isSome_getElem?.mp hmem)
    have hfound : MustDeref.finding g line v site
        ∈ (MustDeref.analysis (o.summaries graphs) g).collect g :=
      Analysis.mem_collect.mpr ⟨b, block, s, hb, hs,
        MustDeref.mem_conditionFindings.mpr ⟨text, line, test, v, site, hterm, hv, hsite, rfl⟩⟩
    obtain ⟨x, hx, hdefect⟩ := exists_mem_check hg (mem_findingsIn.mpr (Or.inr ⟨hen, hfound⟩))
    simp only [Finding.defect, MustDeref.finding, Defect.mk.injEq] at hdefect
    obtain ⟨-, hfunction, hline, hcategory, hmessage⟩ := hdefect
    exact ⟨x, hx, ⟨hcategory, hmessage⟩, hfunction, hline⟩

/-- A function that reads through a pointer on line 1 and tests it on line 2, in one block. -/
def Graph.readThenTested : Graph :=
  ({ function := "f", file := "a.c" } : Graph).addBlock
    { id := 0, label := "entry", terminator := .branch "(p)" 2 (NullTest.isNull "p").negate,
      statements := [⟨1, .expression, "*p;", [.deref "p" .star 1]⟩, ⟨2, .condition, "(p)", []⟩] }

/-- The test is reported, whatever is known about other functions. -/
theorem MustDeref.exists_finding_readThenTested (known : Summaries) :
    ∃ site, finding Graph.readThenTested 2 "p" site
      ∈ (analysis known Graph.readThenTested).collect Graph.readThenTested := by
  obtain ⟨block, hblock⟩ : ∃ block, Graph.readThenTested.blocks[0]? = some block := ⟨_, rfl⟩
  have hfacts : block.facts = [.deref "p" .star 1] := by cases hblock; rfl
  have hterm : block.terminator = .branch "(p)" 2 (NullTest.isNull "p").negate := by
    cases hblock; rfl
  have hall (es : List Edge) : Fact.LastDereferences known "p"
      (Graph.readThenTested.factsAlong es ++ block.facts) := by
    rw [hfacts]
    exact Fact.lastDereferences_snoc.mpr (Or.inl (.deref .star 1))
  obtain ⟨s, hs, hmem⟩ := (mem_solve_iff hblock).mpr ⟨⟨[], .nil (by decide)⟩, fun es _ => hall es⟩
  obtain ⟨site, hsite⟩ := Option.isSome_iff_exists.mp
    (Std.ExtTreeMap.mem_iff_isSome_getElem?.mp hmem)
  exact ⟨site, Analysis.mem_collect.mpr ⟨0, block, s, hblock, hs,
    mem_conditionFindings.mpr ⟨_, _, _, "p", site, hterm, by decide, hsite, rfl⟩⟩⟩

theorem CheckOptions.exists_reverseNull_readThenTested :
    ∃ x ∈ ({} : CheckOptions).check [Graph.readThenTested], MustDeref.Reports x "p" ∧
      x.function = "f" ∧ x.line = 2 := by
  refine (reverseNull_iff_walks rfl "p" "f" 2).mpr ⟨_, List.mem_cons_self, rfl, 0, _, _, _, rfl,
    rfl, by decide, ⟨[], .nil (by decide)⟩, fun es _ => ?_⟩
  exact Fact.lastDereferences_snoc.mpr (Or.inl (.deref .star 1))

end NullFlow
