import Mathlib.Data.List.GetD
import NullFlow.Proofs.Suite.Passing
import NullFlow.Proofs.Suite.Tables

/-!
# What a validation finds

A suite has no problem if and only if it is **sound** (`SuiteOptions.Sound`): every file is a
fixture that can be loaded, that shows what it is meant to show and that the manifest lists, by its
digest if it gives one, and every table of the manifest is that of a file.

A validation and a run attempt the same files. They load them in the same way and differ in what
they do with a fixture that is loaded, so the files that cannot be loaded and the files that are not
there are the same in both reports, with the same messages and in the same order
(`SuiteOptions.validate_isClean_iff`).
-/

namespace NullFlow

open InTree (Steady result)

/-! ## Digests -/

namespace Digest

/-- **The same digest**, but for the case of letters. -/
def Alike (d d' : String) : Prop := d.toList.map Char.toLower = d'.toList.map Char.toLower

theorem toLower_hexDigit (n : Nat) : (Text.hexDigit n).toLower = Text.hexDigit n := by
  have hdigits : "0123456789abcdef".toList.all (fun c => c.toLower == c) = true := by decide
  unfold Text.hexDigit
  by_cases hn : n < "0123456789abcdef".toList.length
  · rw [List.getD_eq_getElem _ _ hn]
    exact beq_iff_eq.mp (List.all_eq_true.mp hdigits _ (List.getElem_mem hn))
  · rw [List.getD_eq_default _ _ (Nat.le_of_not_lt hn)]
    rfl

/-- A digest that is computed has small letters. -/
theorem toLower_ofBytes (bytes : List UInt8) :
    (ofBytes bytes).toList.map Char.toLower = (ofBytes bytes).toList := by
  refine (List.map_congr_left fun c hc => ?_).trans (List.map_id _)
  unfold ofBytes at hc
  rw [String.toList_ofList] at hc
  obtain ⟨w, -, hc⟩ := List.mem_flatMap.mp hc
  obtain ⟨b, -, hc⟩ := List.mem_flatMap.mp hc
  rcases List.mem_pair.mp hc with rfl | rfl
  · exact toLower_hexDigit _
  · exact toLower_hexDigit _

/-- A digest in small letters is the one of some bytes if and only if it is alike. -/
theorem ofList_toLower_eq_iff {d : String} {bytes : List UInt8} :
    String.ofList (d.toList.map Char.toLower) = ofBytes bytes ↔ Alike d (ofBytes bytes) := by
  unfold Alike
  rw [toLower_ofBytes, ← String.toList_inj, String.toList_ofList]

end Digest

/-! ## Fixtures -/

namespace Fixture

variable {s : Session} {path file : String} {category : Option Category} {limit : Nat} {f : Fixture}

/-- What is read within a limit is what the file holds. -/
theorem read_of_readLimited {bytes : List UInt8}
    (h : result s (readLimited path limit).run = .ok bytes) : s.files.read path = .ok bytes := by
  unfold readLimited at h
  rw [InTree.result_bindExcept, InTree.result_lift] at h
  cases hstatus : result s (World.status path) with
  | error fault =>
    rw [hstatus] at h
    cases h
  | ok status =>
    rw [hstatus] at h
    dsimp only [ExceptT.bindCont] at h
    by_cases hsize : limit < status.size
    · rw [if_pos hsize] at h
      cases h
    · rw [if_neg hsize] at h
      obtain ⟨r, t, hr, h⟩ := InTree.exists_of_result_bindExcept h
      have hread : s.files.read path = r := Except.ok.inj hr
      cases r with
      | error fault => cases h
      | ok bytes' =>
        cases h
        exact hread

/-- **A fixture that is loaded is made of the bytes of its file.** -/
theorem exists_read_of_load (h : result s (load path file category limit).run = .ok f) :
    ∃ bytes, s.files.read path = .ok bytes ∧ f.digest = Digest.ofBytes bytes := by
  obtain ⟨bytes, hbytes, _, -, rfl⟩ := result_load_iff.mp h
  exact ⟨bytes, read_of_readLimited hbytes, rfl⟩

/-- **A fixture shows what it is meant to show**: it is valid C, a defect of its category is found
in it, and something is found on every line that its author marked. -/
structure IsShown (f : Fixture) (found : List Finding) : Prop where
  valid : f.source.issues = []
  defect : ∃ x ∈ found, x.category = f.category
  marked : ∀ a ∈ f.annotations, ∃ x ∈ found, x.line = a.line

end Fixture

/-! ## Files that are not loaded or not there -/

/-- The message of a file that cannot be loaded. -/
def ProblemKind.failure? : ProblemKind → Option String
  | .loadFailed message => some message
  | _ => none

namespace Problem

/-- **The file that cannot be loaded**, and why. -/
def failure? (p : Problem) : Option (String × String) := p.kind.failure?.map (p.file, ·)

/-- **The file that is not there.** -/
def missing? (p : Problem) : Option String := if p.kind = .missingFile then some p.file else none

end Problem

/-- **The fixture that could not be loaded**, and why. -/
def FixtureResult.failure? (r : FixtureResult) : Option (String × String) :=
  r.error.map (r.file, ·)

/-! ## The problems of one file -/

namespace Examination

variable {x : Examination} {listed : Option ManifestEntry}

theorem isShown_iff : x.fixture.IsShown x.findings ↔
    x.syntaxProblems = [] ∧ x.defectProblems = [] ∧ x.annotationProblems = [] := by
  have hdefect : x.defectProblems = [] ↔ ∃ f ∈ x.findings, f.category = x.fixture.category := by
    unfold defectProblems
    simp
  have hmarked : x.annotationProblems = [] ↔
      ∀ a ∈ x.fixture.annotations, ∃ f ∈ x.findings, f.line = a.line := by
    unfold annotationProblems
    rw [List.map_eq_nil_iff, List.filter_eq_nil_iff]
    refine forall₂_congr fun a _ => ?_
    simp
  rw [hdefect, hmarked, syntaxProblems, List.map_eq_nil_iff]
  exact ⟨fun h => ⟨h.valid, h.defect, h.marked⟩, fun ⟨h, hd, hm⟩ => ⟨h, hd, hm⟩⟩

theorem manifestProblems_eq_nil_iff : x.manifestProblems listed = [] ↔
    ∃ e, listed = some e ∧ ∀ d ∈ e.digest, d = x.fixture.digest := by
  unfold manifestProblems
  cases listed with
  | none => simp
  | some e =>
    cases hd : e.digest with
    | none => simp [hd]
    | some d => simp [hd]

/-- The problems of a fixture that is loaded. -/
def problems (x : Examination) (listed : Option ManifestEntry) : List ProblemKind :=
  x.syntaxProblems ++ x.defectProblems ++ x.annotationProblems ++ x.manifestProblems listed

theorem mem_problems {k : ProblemKind} (h : k ∈ x.problems listed) :
    k.failure? = none ∧ k ≠ .missingFile := by
  unfold problems at h
  simp only [List.mem_append] at h
  rcases h with ((h | h) | h) | h
  · obtain ⟨i, -, rfl⟩ := List.mem_map.mp h
    exact ⟨rfl, nofun⟩
  · unfold defectProblems at h
    split at h
    · cases h
    · obtain rfl := List.mem_singleton.mp h
      exact ⟨rfl, nofun⟩
  · obtain ⟨a, -, rfl⟩ := List.mem_map.mp h
    exact ⟨rfl, nofun⟩
  · unfold manifestProblems at h
    split at h
    · obtain rfl := List.mem_singleton.mp h
      exact ⟨rfl, nofun⟩
    · split at h
      · cases h
      · split at h
        · cases h
        · obtain rfl := List.mem_singleton.mp h
          exact ⟨rfl, nofun⟩

end Examination

namespace Attempt

/-- The file that could not be loaded, and why. -/
def failure? (a : Attempt) : Option (String × String) :=
  match a.result with
  | .error e => some (a.file, e.message)
  | .ok _ => none

variable {m : Manifest} {a : Attempt} {x : Examination} {e : Failure}

theorem problems_of_error (h : a.result = .error e) :
    a.problems m = [⟨a.file, .loadFailed e.message⟩] := by
  unfold problems
  rw [h]
  rfl

theorem problems_of_ok (h : a.result = .ok x) :
    a.problems m = (x.problems (m.get? a.file)).map (⟨a.file, ·⟩) := by
  unfold problems
  rw [h]
  rfl

theorem problems_eq_nil_iff : a.problems m = [] ↔ ∃ x, a.result = .ok x ∧
    x.fixture.IsShown x.findings ∧ x.manifestProblems (m.get? a.file) = [] := by
  cases h : a.result with
  | error e =>
    rw [problems_of_error h]
    exact iff_of_false (by simp) fun ⟨_, h, _⟩ => by cases h
  | ok x =>
    rw [problems_of_ok h, List.map_eq_nil_iff, Examination.problems]
    simp only [List.append_eq_nil_iff, Except.ok.injEq, exists_eq_left', Examination.isShown_iff,
      and_assoc]

/-- **Of a file the load failures are its own.** -/
theorem filterMap_failure?_problems :
    (a.problems m).filterMap Problem.failure? = a.failure?.toList := by
  unfold failure?
  cases h : a.result with
  | error e =>
    rw [problems_of_error h]
    rfl
  | ok x =>
    rw [problems_of_ok h, List.filterMap_map]
    refine List.filterMap_eq_nil_iff.mpr fun k hk => ?_
    show k.failure?.map _ = none
    rw [(Examination.mem_problems hk).1, Option.map_none]

theorem filterMap_missing?_problems : (a.problems m).filterMap Problem.missing? = [] := by
  cases h : a.result with
  | error e =>
    rw [problems_of_error h]
    rfl
  | ok x =>
    rw [problems_of_ok h, List.filterMap_map]
    exact List.filterMap_eq_nil_iff.mpr fun k hk => if_neg (Examination.mem_problems hk).2

theorem failure?_report (imported : Option (List Finding)) :
    (a.report m imported).failure? = a.failure? := by
  unfold report failure? FixtureResult.failure?
  cases a.result <;> rfl

end Attempt

/-! ## The problems of a suite -/

namespace Manifest

variable {m : Manifest} {attempts : List Attempt}

theorem isClean_validate_iff : (m.validate attempts).isClean = true ↔
    (∀ a ∈ attempts, a.problems m = []) ∧ m.absentFrom attempts = [] := by
  unfold ValidationReport.isClean validate
  rw [List.isEmpty_iff, List.append_eq_nil_iff, List.flatMap_eq_nil_iff, List.map_eq_nil_iff]

theorem filterMap_failure?_validate :
    (m.validate attempts).problems.filterMap Problem.failure? =
      attempts.filterMap Attempt.failure? := by
  have habsent : ((m.absentFrom attempts).map fun file => ⟨file, .missingFile⟩ :
      List Problem).filterMap Problem.failure? = [] := by
    rw [List.filterMap_map]
    exact List.filterMap_eq_nil_iff.mpr fun _ _ => rfl
  unfold validate
  rw [List.filterMap_append, habsent, List.append_nil, List.filterMap_flatMap,
    List.filterMap_eq_flatMap_toList]
  exact List.flatMap_congr fun _ _ => Attempt.filterMap_failure?_problems

theorem filterMap_missing?_validate :
    (m.validate attempts).problems.filterMap Problem.missing? = m.absentFrom attempts := by
  have hattempts : (attempts.flatMap (·.problems m)).filterMap Problem.missing? = [] := by
    rw [List.filterMap_flatMap]
    exact List.flatMap_eq_nil_iff.mpr fun _ _ => Attempt.filterMap_missing?_problems
  unfold validate
  rw [List.filterMap_append, hattempts, List.nil_append, List.filterMap_map]
  exact List.filterMap_some ..

end Manifest

/-- **A table lists a file with these bytes**: the file is that of the table, and if the table gives
a digest, it is the one of the bytes, whatever the case of its letters. -/
structure FixtureTable.Lists (t : FixtureTable) (file : String) (bytes : List UInt8) : Prop where
  file : t.file = file
  digest : ∀ d ∈ t.digest, Digest.Alike d (Digest.ofBytes bytes)

namespace Manifest.Holds

variable {tables : List FixtureTable} {m : Manifest} {file : String} {e : ManifestEntry}

/-- The entry of a file is the one that its table describes. -/
theorem get?_eq_some_iff (h : Holds {} tables m) :
    m.get? file = some e ↔ ∃ t ∈ tables, t.file = file ∧ t.Describes e := by
  rw [h.get?_iff, get?_empty]
  exact or_iff_right fun h => by cases h

/-- **The entry of a file has its digest or none** if and only if a table lists the file. -/
theorem exists_lists_iff (h : Holds {} tables m) {bytes : List UInt8} :
    (∃ t ∈ tables, t.Lists file bytes) ↔
      ∃ e, m.get? file = some e ∧ ∀ d ∈ e.digest, d = Digest.ofBytes bytes := by
  -- what a table says of the digest its entry says in small letters
  have hdigest {t : FixtureTable} {e : ManifestEntry} (hd : t.Describes e) :
      (∀ d ∈ e.digest, d = Digest.ofBytes bytes) ↔
        ∀ d ∈ t.digest, Digest.Alike d (Digest.ofBytes bytes) := by
    rw [hd.digest]
    cases t.digest with
    | none => exact iff_of_true (fun _ h => by cases h) fun _ h => by cases h
    | some d => simpa using Digest.ofList_toLower_eq_iff
  constructor
  · rintro ⟨t, ht, hfile, hlisted⟩
    obtain ⟨e, he⟩ := (h.sound t ht).exists_describes
    exact ⟨e, h.get?_eq_some_iff.mpr ⟨t, ht, hfile, he⟩, (hdigest he).mpr hlisted⟩
  · rintro ⟨e, he, hlisted⟩
    obtain ⟨t, ht, hfile, hd⟩ := h.get?_eq_some_iff.mp he
    exact ⟨t, ht, hfile, (hdigest hd).mp hlisted⟩

/-- The files of the entries are those of the tables. -/
theorem forall_file_iff (h : Holds {} tables m) {P : String → Prop} :
    (∀ e ∈ m.toList, P e.file) ↔ ∀ t ∈ tables, P t.file := by
  constructor
  · intro hall t ht
    obtain ⟨e, he⟩ := (h.sound t ht).exists_describes
    have hget : m.get? t.file = some e := h.get?_eq_some_iff.mpr ⟨t, ht, rfl, he⟩
    exact he.file ▸ hall e (mem_toList.mpr ⟨t.file, hget⟩)
  · intro hall e he
    obtain ⟨file, hget⟩ := mem_toList.mp he
    obtain ⟨t, ht, -, hd⟩ := h.get?_eq_some_iff.mp hget
    exact hd.file ▸ hall t ht

end Manifest.Holds

namespace SuiteOptions

variable {o : SuiteOptions} {s : Session} {m : Manifest} {tables : List FixtureTable}
  {paths : List String}

/-- **A file is sound**: it can be loaded, it shows what it is meant to show by what the checkers
find in it, and a table lists it. -/
def SoundFile (o : SuiteOptions) (s : Session) (m : Manifest) (tables : List FixtureTable)
    (path : String) : Prop :=
  ∃ bytes f, s.files.read path = .ok bytes ∧ result s (o.loadFixture m path).run = .ok f ∧
    f.IsShown (o.checks.checkSource f.source f.file) ∧ ∃ t ∈ tables, t.Lists (o.nameOf path) bytes

/-- **A suite is sound**: every file is, and every table is that of a file. -/
structure Sound (o : SuiteOptions) (s : Session) (m : Manifest) (tables : List FixtureTable)
    (paths : List String) : Prop where
  file ⦃path : String⦄ (h : path ∈ paths) : o.SoundFile s m tables path
  present ⦃t : FixtureTable⦄ (h : t ∈ tables) : ∃ path ∈ paths, o.nameOf path = t.file

/-- The same options with the own findings. -/
def own (o : SuiteOptions) : SuiteOptions := { o with findings := none }

/-- **A file has no problem** if and only if it is sound. -/
theorem problems_attempt_eq_nil_iff (hm : Manifest.Holds {} tables m) (path : String) :
    (result s (o.own.attempt m path)).problems m = [] ↔ o.SoundFile s m tables path := by
  unfold SoundFile
  rw [Attempt.problems_eq_nil_iff, result_attempt]
  show (∃ x, (result s (o.loadFixture m path).run).map _ = .ok x ∧ _) ↔ _
  cases hload : result s (o.loadFixture m path).run with
  | error e => exact iff_of_false (fun ⟨_, h, _⟩ => by cases h) fun ⟨_, _, _, h, _⟩ => by cases h
  | ok f =>
    obtain ⟨bytes, hread, hdigest⟩ := Fixture.exists_read_of_load hload
    have hfound : (result s (o.own.examine f)).findings = o.checks.checkSource f.source f.file :=
      o.own.findings_examine rfl f
    have hfixture : (result s (o.own.examine f)).fixture = f := rfl
    simp only [Except.map, Except.ok.injEq, exists_eq_left']
    rw [Examination.manifestProblems_eq_nil_iff, hfixture, hfound, hdigest, ← hm.exists_lists_iff]
    constructor
    · rintro ⟨hshown, hlisted⟩
      exact ⟨bytes, f, hread, rfl, hshown, hlisted⟩
    · rintro ⟨bytes', _, hread', rfl, hshown, hlisted⟩
      cases hread.symm.trans hread'
      exact ⟨hshown, hlisted⟩

/-- Attempts all files and lists their problems. -/
def validateOn (o : SuiteOptions) (m : Manifest) (paths : List String) :
    ExceptT Failure InTree ValidationReport := do
  return m.validate (← (o.own.attempts m paths : InTree (List Attempt)))

theorem validate_eq (o : SuiteOptions) : o.validate = (do
    let m ← o.loadManifest
    let paths ← discover o.directory
    o.validateOn m paths) := rfl

theorem steady_validateOn (o : SuiteOptions) (m : Manifest) (paths : List String) :
    Steady (o.validateOn m paths).run :=
  (Steady.lift (o.own.steady_attempts m paths)).bindExcept fun _ => .ok _

theorem result_validateOn (o : SuiteOptions) (m : Manifest) (paths : List String) :
    result s (o.validateOn m paths).run =
      .ok (m.validate (paths.map fun path => result s (o.own.attempt m path))) := by
  unfold validateOn
  rw [Steady.result_bindExcept (Steady.lift (o.own.steady_attempts m paths)) (fun _ => .ok _)
    InTree.result_lift, result_attempts]
  rfl

/-- **A validation whose parts can be read ends in the report on them.** -/
theorem result_validate (hm : result s o.loadManifest.run = .ok m)
    (hpaths : result s (discover o.directory).run = .ok paths) :
    result s o.validate.run =
      .ok (m.validate (paths.map fun path => result s (o.own.attempt m path))) := by
  have hrest (m : Manifest) : Steady (discover o.directory >>= o.validateOn m).run :=
    (steady_discover o.directory).bindExcept (o.steady_validateOn m)
  rw [validate_eq, o.steady_loadManifest.result_bindExcept hrest hm,
    (steady_discover o.directory).result_bindExcept (o.steady_validateOn m) hpaths,
    result_validateOn]

/-- **Whose findings are looked for makes no difference** to what can be loaded. -/
theorem failure?_attempt (path : String) :
    (result s (o.own.attempt m path)).failure? = (result s (o.attempt m path)).failure? := by
  rw [result_attempt, result_attempt]
  show Attempt.failure? ⟨o.nameOf path, (result s (o.loadFixture m path).run).map _⟩ = _
  cases result s (o.loadFixture m path).run <;> rfl

/-- **A validation lists the files that a run cannot load** and those that are not there. -/
theorem failures_validate_eq (imported : Option (List Finding)) :
    let v := m.validate (paths.map fun path => result s (o.own.attempt m path))
    let r := o.report m imported (paths.map fun path => result s (o.attempt m path))
    v.problems.filterMap Problem.failure? = r.fixtures.filterMap FixtureResult.failure? ∧
      v.problems.filterMap Problem.missing? = r.orphaned := by
  intro v r
  constructor
  · rw [Manifest.filterMap_failure?_validate]
    show _ = List.filterMap _ (List.map _ (List.map _ paths))
    simp only [List.filterMap_map]
    exact List.filterMap_congr fun path _ =>
      (failure?_attempt path).trans (Attempt.failure?_report imported).symm
  · rw [Manifest.filterMap_missing?_validate, Manifest.absentFrom_eq, map_file_attempts]
    show _ = m.absentFrom _
    rw [Manifest.absentFrom_eq, map_file_attempts]
    rfl

/-- **There is no problem** if and only if the suite is sound. -/
theorem isClean_validate_iff (hm : Manifest.Holds {} tables m) :
    (m.validate (paths.map fun path => result s (o.own.attempt m path))).isClean = true ↔
      o.Sound s m tables paths := by
  have hpresent : m.absentFrom (paths.map fun path => result s (o.own.attempt m path)) = [] ↔
      ∀ t ∈ tables, ∃ path ∈ paths, o.nameOf path = t.file := by
    rw [Manifest.absentFrom_eq_nil_iff, map_file_attempts,
      hm.forall_file_iff (P := (· ∈ paths.map o.own.nameOf))]
    exact forall₂_congr fun _ _ => List.mem_map
  rw [Manifest.isClean_validate_iff, hpresent, List.forall_mem_map]
  simp only [problems_attempt_eq_nil_iff hm]
  exact ⟨fun ⟨hfile, hpresent⟩ => ⟨hfile, hpresent⟩, fun h => ⟨h.file, h.present⟩⟩

/-- **A suite is validated without a problem if and only if it is sound.** The manifest is made of
the tables that are read, and the files are those that are found. The files that a validation cannot
load are those that a run reports with an error, with the same messages, and the files that it
misses are those that a run reports as orphaned, both in the same order, whether the run looks for
defects itself or takes the findings of another analyser. -/
theorem validate_isClean_iff {text : String}
    (htext : result s (World.readText o.manifest) = .ok text)
    (htables : Manifest.tablesOf? text = some tables) (hm : Manifest.ofTables tables = .ok m)
    (hpaths : result s (discover o.directory).run = .ok paths) :
    ∃ v, result s o.validate.run = .ok v ∧ (v.isClean = true ↔ o.Sound s m tables paths) ∧
      ∀ imported, result s o.importFindings.run = .ok imported →
        ∃ r, result s o.run.run = .ok r ∧
          v.problems.filterMap Problem.failure? = r.fixtures.filterMap FixtureResult.failure? ∧
          v.problems.filterMap Problem.missing? = r.orphaned := by
  have hmanifest : result s o.loadManifest.run = .ok m :=
    o.result_loadManifest text htext ((Manifest.parse_eq htables).trans hm)
  refine ⟨_, result_validate hmanifest hpaths,
    isClean_validate_iff (Manifest.ofTables_eq_ok_iff.mp hm), fun imported himported => ?_⟩
  exact ⟨_, o.result_run hmanifest hpaths himported, failures_validate_eq imported⟩

theorem validate_isClean_iff_withGoneFixture :
    let o := nested
    let golden := FileTree.belowText ++ FileTree.goneText
    let s : Session := .nested golden false none
    let paths := FileTree.nestedPaths false
    result s (World.readText o.manifest) = .ok golden ∧
      Manifest.tablesOf? golden = some [.below, .gone] ∧
      Manifest.ofTables [.below, .gone] = .ok .withGoneFixture ∧
      result s (discover o.directory).run = .ok paths ∧
      result s o.importFindings.run = .ok none ∧
      ∃ v, result s o.validate.run = .ok v ∧
        (v.isClean = true ↔ o.Sound s .withGoneFixture [.below, .gone] paths) ∧
        ∃ r, result s o.run.run = .ok r ∧
          v.problems.filterMap Problem.failure? = r.fixtures.filterMap FixtureResult.failure? ∧
          v.problems.filterMap Problem.missing? = r.orphaned ∧
          r.fixtures = [.upper false, .lower] := by
  intro o golden s paths
  have htext : result s (World.readText o.manifest) = .ok golden := result_readText_golden
  have hpaths : result s (discover o.directory).run = .ok paths := result_discover_nested
  have hm : result s o.loadManifest.run = .ok .withGoneFixture :=
    result_loadManifest_nested Manifest.tablesOf?_withGoneText Manifest.ofTables_withGoneFixture
  have hupper : Manifest.withGoneFixture.get? (FileTree.upperName false) = none := rfl
  have hlower : Manifest.withGoneFixture.get? "sub/forward_null.c" = some .below := rfl
  obtain ⟨v, hv, hclean, hrun⟩ := validate_isClean_iff htext Manifest.tablesOf?_withGoneText
    Manifest.ofTables_withGoneFixture hpaths
  obtain ⟨r, hr, hfailures, hmissing⟩ := hrun none rfl
  refine ⟨htext, Manifest.tablesOf?_withGoneText, Manifest.ofTables_withGoneFixture, hpaths, rfl,
    v, hv, hclean, r, hr, hfailures, hmissing, ?_⟩
  obtain rfl := Except.ok.inj (hr.symm.trans (o.result_run hm hpaths rfl))
  exact fixtures_report_nested hupper hlower

end SuiteOptions

end NullFlow
