import Mathlib.Data.List.Flatten
import NullFlow.Proofs.Check.Once
import NullFlow.Proofs.Json.Finding
import NullFlow.Proofs.Suite.Passing

/-!
# Findings that are fed back

All findings of a run can be written to a file, and another run can take them from there. The list
does not tell which fixture a finding was reported for; the second run tells it by the end of the
path, so the findings in `sub/a.c` count for a fixture `a.c` as well: they **stray**
(`FixtureResult.StraysTo`). This is the only thing that can go wrong: the second run reports the
same as the first one if and only if nothing strays (`SuiteOptions.run_importing_iff`). A suite that
passes may fail with its own findings fed back (`SuiteOptions.passed_importing_sameName`).
-/

namespace NullFlow

open InTree (Steady result)

/-! ## Names of fixtures -/

theorem Path.withSlashes_relativeName (root path : String) :
    withSlashes (relativeName root path) = relativeName root path := by
  unfold relativeName withSlashes
  rw [String.toList_ofList, List.map_map]
  refine congrArg String.ofList (List.map_congr_left fun c _ => ?_)
  -- a slash is left as it is
  show (if (if c == '\\' then '/' else c) == '\\' then '/'
    else if c == '\\' then '/' else c) = if c == '\\' then '/' else c
  by_cases h : (c == '\\') = true
  · rw [if_pos h]
    rfl
  · rw [if_neg h, if_neg h]

/-- The name of a fixture is the name of a finding in it. -/
theorem sameFile_nameOf (o : SuiteOptions) (path : String) :
    sameFile (o.nameOf path) (o.nameOf path) = true := by
  have hname : Path.withSlashes (o.nameOf path) = o.nameOf path :=
    Path.withSlashes_relativeName o.directory path
  simp only [sameFile, hname, beq_self_eq_true, Bool.true_or]

/-- **Without a slash in the path** no other name will do. -/
theorem sameFile_iff_of_flat {path file : String} (h : ∀ c ∈ path.toList, c ≠ '/' ∧ c ≠ '\\') :
    sameFile path file = true ↔ path = file := by
  have hpath : (Path.withSlashes path).toList = path.toList := by
    unfold Path.withSlashes
    rw [String.toList_ofList]
    refine (List.map_congr_left fun c hc => ?_).trans (List.map_id _)
    exact if_neg fun hc' => (h c hc).2 (beq_iff_eq.mp hc')
  have hsuffix : ('/' :: file.toList).isSuffixOf path.toList = false := by
    rw [Bool.eq_false_iff, ne_eq, List.isSuffixOf_iff_suffix]
    exact fun hsuf => (h '/' (hsuf.subset (List.mem_cons_self ..))).1 rfl
  simp only [sameFile, hpath, hsuffix, Bool.or_false, beq_iff_eq, String.toList_inj]

/-! ## Where findings go -/

theorem attributed_flatMap {α : Type} (l : List α) (f : α → List Finding) (file : String) :
    attributed (l.flatMap f) file = l.flatMap fun a => attributed (f a) file := by
  unfold attributed
  rw [List.filter_flatMap, List.map_flatMap]

/-- **The findings in one file go to another one as a whole**, or not at all. -/
theorem attributed_eq {fs : List Finding} {file name : String} (h : ∀ f ∈ fs, f.file = file) :
    attributed fs name
      = if sameFile file name = true then fs.map fun f => { f with file := name } else [] := by
  unfold attributed
  split
  · next hsame =>
    rw [List.filter_eq_self.mpr fun f hf => by rw [h f hf, hsame]]
  · next hsame =>
    rw [List.filter_eq_nil_iff.mpr fun f hf => by rwa [h f hf], List.map_nil]

/-- To their own file findings go unchanged. -/
theorem attributed_self {fs : List Finding} {file : String} (hself : sameFile file file = true)
    (h : ∀ f ∈ fs, f.file = file) : attributed fs file = fs := by
  rw [attributed_eq h, if_pos hself]
  refine (List.map_congr_left fun f hf => ?_).trans (List.map_id fs)
  rw [← h f hf]
  rfl

theorem Finding.sort_sort (fs : List Finding) : sort (sort fs) = sort fs :=
  List.mergeSort_of_pairwise (pairwise_sort fs)

namespace FixtureResult

/-- **What a run with the own checkers reports about a fixture**: findings in it, in order, under a
name that leads back to it. -/
structure Own (x : FixtureResult) : Prop where
  named : sameFile x.file x.file = true
  file_eq ⦃f : Finding⦄ (h : f ∈ x.findings) : f.file = x.file
  sorted : Finding.sort x.findings = x.findings

/-- **Findings of one fixture stray to another one** that could be loaded if their path ends in its
name. -/
def StraysTo (x y : FixtureResult) : Prop :=
  x.findings ≠ [] ∧ y.error = none ∧ sameFile x.file y.file = true

/-- **In a flat suite nothing strays**: no path of a finding ends in the name of another fixture. -/
theorem pairwise_of_flat {xs : List FixtureResult} (hnames : (xs.map (·.file)).Nodup)
    (hflat : ∀ x ∈ xs, ∀ c ∈ x.file.toList, c ≠ '/' ∧ c ≠ '\\') :
    xs.Pairwise fun x y => ¬ x.StraysTo y ∧ ¬ y.StraysTo x := by
  refine (List.pairwise_map.mp hnames).imp_of_mem fun {x y} hx hy hne => ⟨fun h => ?_, fun h => ?_⟩
  · exact hne ((sameFile_iff_of_flat (hflat x hx)).mp h.2.2)
  · exact hne ((sameFile_iff_of_flat (hflat y hy)).mp h.2.2).symm

/-- Findings that do not stray to a fixture do not count for it. -/
theorem attributed_eq_nil {x y : FixtureResult} (own : x.Own) (hy : y.error = none)
    (h : ¬ x.StraysTo y) : attributed x.findings y.file = [] := by
  rw [attributed_eq own.file_eq]
  split
  · next hsame =>
    have hnil : x.findings = [] := by
      by_contra hne
      exact h ⟨hne, hy, hsame⟩
    rw [hnil, List.map_nil]
  · rfl

/-- Findings that stray to a fixture all count for it. -/
theorem length_attributed {x y : FixtureResult} (own : x.Own) (h : x.StraysTo y) :
    (attributed x.findings y.file).length = x.findings.length := by
  rw [attributed_eq own.file_eq, if_pos h.2.2, List.length_map]

end FixtureResult

namespace SuiteReport

variable {r : SuiteReport}

theorem attributed_allFindings (r : SuiteReport) (file : String) :
    attributed r.allFindings file = r.fixtures.flatMap fun x => attributed x.findings file :=
  attributed_flatMap r.fixtures (·.findings) file

/-- **Every fixture gets back its own findings and no others** if and only if nothing strays. -/
theorem attributed_allFindings_iff (own : ∀ x ∈ r.fixtures, x.Own) :
    (∀ y ∈ r.fixtures, y.error = none → Finding.sort (attributed r.allFindings y.file) = y.findings)
      ↔ r.fixtures.Pairwise fun x y => ¬ x.StraysTo y ∧ ¬ y.StraysTo x := by
  constructor
  · intro hback
    -- two fixtures of which one gets the findings of the other as well get too many
    have hshort : ∀ {x y z}, [x, y].Sublist r.fixtures → z ∈ [x, y] → z.error = none →
        (attributed x.findings z.file).length + (attributed y.findings z.file).length
          ≤ z.findings.length := by
      intro x y z hsub hz herror
      have hin := hsub.flatMap fun x => attributed x.findings z.file
      have hlen := hin.length_le
      have hall := congrArg List.length (hback z (hsub.subset hz) herror)
      rw [Finding.sort, List.length_mergeSort, attributed_allFindings] at hall
      simpa [hall] using hlen
    refine List.pairwise_iff_forall_sublist.mpr fun {x y} hsub => ?_
    have ownx := own x (hsub.subset (List.mem_cons_self ..))
    have owny := own y (hsub.subset (List.mem_cons_of_mem _ (List.mem_cons_self ..)))
    refine ⟨fun h => h.1 ?_, fun h => h.1 ?_⟩
    · have hle := hshort hsub (List.mem_cons_of_mem _ (List.mem_cons_self ..)) h.2.1
      rw [attributed_self owny.named owny.file_eq, x.length_attributed ownx h] at hle
      exact List.eq_nil_of_length_eq_zero (by omega)
    · have hle := hshort hsub (List.mem_cons_self ..) h.2.1
      rw [attributed_self ownx.named ownx.file_eq, y.length_attributed owny h] at hle
      exact List.eq_nil_of_length_eq_zero (by omega)
  · intro hstay y hy herror
    obtain ⟨before, after, hsplit⟩ := List.append_of_mem hy
    rw [hsplit] at own hstay
    obtain ⟨-, hafter, hbefore⟩ := List.pairwise_append.mp hstay
    have hbefore' : before.flatMap (fun x => attributed x.findings y.file) = [] := by
      refine List.flatMap_eq_nil_iff.mpr fun x hx => ?_
      exact x.attributed_eq_nil (own x (List.mem_append_left _ hx)) herror
        (hbefore x hx y (List.mem_cons_self ..)).1
    have hafter' : after.flatMap (fun x => attributed x.findings y.file) = [] := by
      refine List.flatMap_eq_nil_iff.mpr fun x hx => ?_
      exact x.attributed_eq_nil (own x (List.mem_append_right _ (List.mem_cons_of_mem y hx))) herror
        ((List.pairwise_cons.mp hafter).1 x hx).2
    have owny := own y (List.mem_append_right _ (List.mem_cons_self ..))
    rw [attributed_allFindings, hsplit, List.flatMap_append, List.flatMap_cons, hbefore', hafter',
      List.nil_append, List.append_nil, attributed_self owny.named owny.file_eq, owny.sorted]

end SuiteReport

/-! ## Reports on imported findings -/

namespace Attempt

variable {m : Manifest}

/-- **A file is reported on in the same way** if it cannot be loaded or gets back its findings. -/
theorem report_imported_iff (a : Attempt) (all : List Finding) :
    a.report m (some all) = a.report m none ↔
      ((a.report m none).error = none →
        Finding.sort (attributed all (a.report m none).file) = (a.report m none).findings) := by
  rw [file_report]
  obtain ⟨file, e | x⟩ := a
  · refine iff_of_true rfl fun h => ?_
    cases h
  · constructor
    · exact fun h _ => congrArg FixtureResult.findings h
    · intro h
      have hsame : Finding.sort (attributed all file) = Finding.sort x.findings := h rfl
      unfold report
      simp only [hsame]

/-- **What was found in a fixture makes no difference** if the findings come from elsewhere. -/
theorem report_map_imported (file : String) (r : Except Failure Fixture) (all : List Finding)
    {x y : Fixture → Examination} (h : ∀ f, (x f).fixture = (y f).fixture) :
    (Attempt.mk file (r.map x)).report m (some all)
      = (Attempt.mk file (r.map y)).report m (some all) := by
  cases r with
  | error e => rfl
  | ok f =>
    unfold report
    simp only [Except.map, h f]

end Attempt

namespace SuiteOptions

variable {o : SuiteOptions} {s t : Session} {m : Manifest} {r : SuiteReport}

/-- The run that takes its findings from a file. -/
def importing (o : SuiteOptions) (path : String) : SuiteOptions := { o with findings := some path }

/-- **What a run with the own checkers reports about a file is its own.** -/
theorem own_report_attempt (ho : o.findings = none) (path : String) :
    ((result s (o.attempt m path)).report m none).Own := by
  rw [result_attempt]
  cases hload : result s (o.loadFixture m path).run with
  | error e =>
    exact ⟨sameFile_nameOf o path, fun _ h => absurd h List.not_mem_nil, List.mergeSort_nil⟩
  | ok f =>
    refine ⟨sameFile_nameOf o path, fun d hd => ?_, Finding.sort_sort _⟩
    have hmem : d ∈ (result s (o.examine f)).findings := List.mem_mergeSort.mp hd
    rw [o.findings_examine ho] at hmem
    exact (CheckOptions.file_of_mem_checkSource hmem).trans (Fixture.file_of_load hload)

/-- **The suite is the same in two sessions**: the manifest, the files and what they hold. -/
structure SameSuite (o : SuiteOptions) (s t : Session) : Prop where
  manifest : result t o.loadManifest.run = result s o.loadManifest.run
  paths : result t (discover o.directory).run = result s (discover o.directory).run
  fixtures ⦃m : Manifest⦄ ⦃paths : List String⦄ (hm : result s o.loadManifest.run = .ok m)
    (hpaths : result s (discover o.directory).run = .ok paths) ⦃path : String⦄
    (h : path ∈ paths) : result t (o.loadFixture m path).run = result s (o.loadFixture m path).run

/-- Findings that can be read are imported. -/
theorem result_importFindings {path text : String} {all : List Finding}
    (htext : result t (World.readText path) = .ok text)
    (hall : Finding.listOfJson? text = some all) :
    result t (o.importing path).importFindings.run = .ok (some all) := by
  have hload : result t (Finding.load path).run = .ok all := by
    unfold Finding.load
    rw [InTree.result_bindExcept, InTree.result_lift, htext]
    simp only [ExceptT.bindCont, hall]
    rfl
  show result t (some <$> Finding.load path).run = _
  rw [InTree.result_mapExcept, hload]
  rfl

/-- Imported findings are held against the fixtures that were loaded for the own ones. -/
theorem fixtures_report_importing {paths : List String}
    (same : ∀ p ∈ paths, result t (o.loadFixture m p).run = result s (o.loadFixture m p).run)
    (path : String) (all : List Finding) :
    ((o.importing path).report m (some all)
        (paths.map fun p => result t ((o.importing path).attempt m p))).fixtures
      = paths.map fun p => (result s (o.attempt m p)).report m (some all) := by
  show List.map _ (List.map _ paths) = _
  rw [List.map_map]
  refine List.map_congr_left fun p hp => ?_
  show Attempt.report m (some all) (result t ((o.importing path).attempt m p)) = _
  rw [result_attempt, result_attempt]
  show Attempt.report m (some all) ⟨o.nameOf p, (result t (o.loadFixture m p).run).map _⟩ = _
  rw [same p hp]
  exact Attempt.report_map_imported _ _ _ fun f =>
    (fixture_examine _ f).trans (fixture_examine _ f).symm

/-- **With its findings fed back a suite gets the same report** if and only if no finding strays.
The second run takes all findings of the first one from a file. It ends in a report, which lists the
same orphaned files in any case; its fixtures are the same, and so is whether it passed, exactly if
no fixture with findings is named by a path that ends in the name of another fixture that could be
loaded. -/
theorem run_importing_iff (ho : o.findings = none) (same : o.SameSuite s t)
    (hr : result s o.run.run = .ok r) {path text : String}
    (htext : result t (World.readText path) = .ok text)
    (hall : Finding.listOfJson? text = some r.allFindings) :
    ∃ r', result t (o.importing path).run.run = .ok r' ∧ r'.orphaned = r.orphaned ∧
      ((r'.fixtures = r.fixtures ∧ r'.passed = r.passed) ↔
        r.fixtures.Pairwise fun x y => ¬ x.StraysTo y ∧ ¬ y.StraysTo x) := by
  obtain ⟨m, paths, imported, hm, hpaths, himported, hreport⟩ := o.exists_of_result_run hr
  obtain rfl := (o.findings_eq_none_iff himported).mp ho
  have hfixtures : r.fixtures = paths.map fun p => (result s (o.attempt m p)).report m none := by
    rw [hreport]
    exact List.map_map
  have own : ∀ x ∈ r.fixtures, x.Own := by
    rw [hfixtures, List.forall_mem_map]
    exact fun p _ => own_report_attempt ho p
  have horphaned : m.absentFrom (paths.map fun p => result t ((o.importing path).attempt m p))
      = r.orphaned := by
    rw [hreport]
    show _ = m.absentFrom (paths.map fun p => result s (o.attempt m p))
    rw [Manifest.absentFrom_eq, Manifest.absentFrom_eq, map_file_attempts, map_file_attempts]
    rfl
  refine ⟨_, (o.importing path).result_run (same.manifest.trans hm) (same.paths.trans hpaths)
    (result_importFindings htext hall), horphaned, ?_⟩
  have hpassed {r' : SuiteReport} (h : r'.orphaned = r.orphaned) :
      (r'.fixtures = r.fixtures ∧ r'.passed = r.passed) ↔ r'.fixtures = r.fixtures := by
    refine and_iff_left_of_imp fun h' => ?_
    unfold SuiteReport.passed
    rw [h, h']
  rw [hpassed horphaned, fixtures_report_importing fun p hp => same.fixtures hm hpaths hp,
    ← SuiteReport.attributed_allFindings_iff own, hfixtures, List.map_inj_left,
    List.forall_mem_map]
  exact forall₂_congr fun p _ => Attempt.report_imported_iff _ _

end SuiteOptions

/-! ## Two fixtures in nested directories -/

/-- What is reported about the suite with the defect in a directory below. -/
def SuiteReport.nested (same : Bool) : SuiteReport :=
  ⟨"suite", "golden.toml", .checkers, [.upper same, .lower], []⟩

/-- The findings in the report, as they are written to a file. -/
def FileTree.foundText : String := Finding.listToJson [.inFile "sub/forward_null.c"]

theorem listOfJson?_foundText :
    Finding.listOfJson? FileTree.foundText = some [.inFile "sub/forward_null.c"] := by
  refine Finding.listOfJson?_listToJson fun f hf => ?_
  obtain rfl := List.mem_singleton.mp hf
  refine ⟨by decide, fun e he => ?_⟩
  rcases List.mem_cons.mp he with rfl | he
  · decide
  · obtain rfl := List.mem_singleton.mp he
    decide

namespace SuiteOptions

section

variable {same : Bool} {text? : Option String}

theorem result_loadManifest_ofNested :
    result (.nested FileTree.belowText same text?) nested.loadManifest.run = .ok .ofNested :=
  result_loadManifest_nested Manifest.tablesOf?_belowText Manifest.ofTables_nested

theorem get?_upper : Manifest.ofNested.get? (FileTree.upperName same) = none := by
  cases same <;> rfl

theorem get?_lower : Manifest.ofNested.get? "sub/forward_null.c" = some .below := rfl

/-- The findings beside the suite do not change it. -/
theorem sameSuite_nested : nested.SameSuite (.nested FileTree.belowText same none)
    (.nested FileTree.belowText same text?) := by
  refine ⟨result_loadManifest_ofNested.trans result_loadManifest_ofNested.symm,
    result_discover_nested.trans result_discover_nested.symm, fun m paths hm hpaths path h => ?_⟩
  obtain rfl := Except.ok.inj (result_loadManifest_ofNested.symm.trans hm)
  obtain rfl := Except.ok.inj (result_discover_nested.symm.trans hpaths)
  rcases List.mem_cons.mp h with rfl | h
  · rw [result_loadFixture_upper get?_upper, result_loadFixture_upper get?_upper]
  · obtain rfl := List.mem_singleton.mp h
    rw [result_loadFixture_lower get?_lower, result_loadFixture_lower get?_lower]

theorem result_run_nested : result (.nested FileTree.belowText same none) nested.run.run =
    .ok (.nested same) := by
  have horphaned : (nested.report .ofNested none ((FileTree.nestedPaths same).map fun path =>
      result (.nested FileTree.belowText same none) (nested.attempt .ofNested path))).orphaned =
        [] := by
    rw [orphaned_report, Manifest.absentFrom_eq, map_file_attempts]
    cases same <;> decide +kernel
  have hreport (xs : List Attempt) : nested.report .ofNested none xs =
      ⟨"suite", "golden.toml", .checkers, (nested.report .ofNested none xs).fixtures,
        (nested.report .ofNested none xs).orphaned⟩ := rfl
  rw [nested.result_run result_loadManifest_ofNested result_discover_nested rfl, hreport,
    fixtures_report_nested get?_upper get?_lower, horphaned]
  rfl

theorem result_readText_found (same : Bool) :
    result (.nested FileTree.belowText same (some FileTree.foundText))
      (World.readText "findings.json") = .ok FileTree.foundText :=
  InTree.result_readText (by cases same <;> rfl)

end

theorem run_importing_iff_nested :
    let o := nested
    let s : Session := .nested FileTree.belowText false none
    let t : Session := .nested FileTree.belowText false (some FileTree.foundText)
    let r := SuiteReport.nested false
    o.findings = none ∧ o.SameSuite s t ∧ result s o.run.run = .ok r ∧
      result t (World.readText "findings.json") = .ok (Finding.listToJson r.allFindings) ∧
      Finding.listOfJson? (Finding.listToJson r.allFindings) = some r.allFindings ∧
      r.allFindings = [.inFile "sub/forward_null.c"] ∧ r.passed = true ∧
      ∃ r', result t (o.importing "findings.json").run.run = .ok r' ∧
        r'.orphaned = r.orphaned ∧ ((r'.fixtures = r.fixtures ∧ r'.passed = r.passed) ↔
          r.fixtures.Pairwise fun x y => ¬ x.StraysTo y ∧ ¬ y.StraysTo x) ∧
        r'.fixtures = r.fixtures ∧ r'.passed = true := by
  intro o s t r
  have same : o.SameSuite s t := sameSuite_nested
  have hr : result s o.run.run = .ok r := result_run_nested
  have htext : result t (World.readText "findings.json") = .ok (Finding.listToJson r.allFindings) :=
    result_readText_found false
  have hall : Finding.listOfJson? (Finding.listToJson r.allFindings) = some r.allFindings :=
    listOfJson?_foundText
  have hpassed : r.passed = true := by decide
  have hstay : r.fixtures.Pairwise fun x y => ¬ x.StraysTo y ∧ ¬ y.StraysTo x := by
    unfold FixtureResult.StraysTo
    decide
  obtain ⟨r', hr', horphaned, hiff⟩ := run_importing_iff rfl same hr htext hall
  obtain ⟨hfixtures, hsame⟩ := hiff.mpr hstay
  exact ⟨rfl, same, hr, htext, hall, rfl, hpassed, r', hr', horphaned, hiff, hfixtures,
    hsame.trans hpassed⟩

/-- The defect below counts for the fixture of the same name above. -/
theorem passed_report_strayed :
    ((result (.nested FileTree.belowText true none) (nested.attempt .ofNested
      ("suite/" ++ FileTree.upperName true))).report .ofNested
        (some [.inFile "sub/forward_null.c"])).passed = false := by
  have hexpected : Manifest.ofNested.expectedIn (FileTree.upperName true) = [] := by
    unfold Manifest.expectedIn
    rw [get?_upper]
    rfl
  have hcounted (x : Examination) : x.counted (some [.inFile "sub/forward_null.c"])
      (FileTree.upperName true) = [.inFile (FileTree.upperName true)] := by
    show attributed _ _ = _
    decide
  have hsort : Finding.sort [.inFile (FileTree.upperName true)] =
      [.inFile (FileTree.upperName true)] := List.mergeSort_singleton _
  rw [report_of_load (result_loadFixture_upper get?_upper), nameOf_upper, hexpected, hcounted,
    hsort]
  rfl

/-- **A suite that passes fails with its own findings fed back**, because the defect below counts
for the fixture of the same name above. -/
theorem passed_importing_sameName :
    let o := nested
    let s : Session := .nested FileTree.belowText true none
    let t : Session := .nested FileTree.belowText true (some FileTree.foundText)
    let r := SuiteReport.nested true
    o.SameSuite s t ∧ result s o.run.run = .ok r ∧ r.passed = true ∧
      result t (World.readText "findings.json") = .ok (Finding.listToJson r.allFindings) ∧
      ∃ r', result t (o.importing "findings.json").run.run = .ok r' ∧ r'.passed = false := by
  intro o s t r
  have same : o.SameSuite s t := sameSuite_nested
  have himported : result t (o.importing "findings.json").importFindings.run =
      .ok (some [.inFile "sub/forward_null.c"]) :=
    result_importFindings (result_readText_found true) listOfJson?_foundText
  refine ⟨same, result_run_nested, by decide, result_readText_found true, _,
    (o.importing "findings.json").result_run result_loadManifest_ofNested result_discover_nested
      himported, ?_⟩
  unfold SuiteReport.passed
  rw [fixtures_report_importing fun p hp =>
    same.fixtures result_loadManifest_ofNested result_discover_nested hp]
  show (_ && ((Attempt.report _ _ _).passed && _)) = false
  rw [passed_report_strayed, Bool.false_and, Bool.and_false]

end SuiteOptions

end NullFlow
