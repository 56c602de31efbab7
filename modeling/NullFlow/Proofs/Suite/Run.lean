import NullFlow.Proofs.World.Steady
import NullFlow.Suite.Run

/-!
# What a run of a suite gives

All steps of a run are steady: they change no file, and what was measured before makes no
difference. So the attempts at the files of a suite give what each of them gives alone
(`SuiteOptions.result_attempts`), and once the manifest, the files and the findings of another
analyser are there, a run always ends in a report, which is a function of them
(`SuiteOptions.result_run`).
-/

namespace NullFlow

open InTree (Steady result)

variable {s : Session}

/-! ## Reading -/

theorem Fixture.steady_readLimited (path : String) (limit : Nat) :
    Steady (Fixture.readLimited path limit).run := by
  refine (Steady.lift (.status path)).bindExcept fun r => ?_
  split
  · exact .throw _
  -- what is done with a file that is not too large
  extract_lets more
  have hmore (u : PUnit) : Steady (more u).run := by
    refine (Steady.lift (.read path)).bindExcept fun r => ?_
    split
    · exact .throw _
    · exact .ok _
  split
  · exact (Steady.throw _).bindExcept hmore
  · exact hmore ⟨⟩

/-- **What is made of the bytes of a file** once its category is known. -/
def Fixture.parsed (path file : String) (bytes : List UInt8) (category : Category) :
    ExceptT Failure InTree Fixture := do
  let source ← (World.parseBytes bytes : InTree C.Source)
  return { name := nameAt path file, path, file, category, source, digest := Digest.ofBytes bytes }

theorem Fixture.steady_parsed (path file : String) (bytes : List UInt8) (category : Category) :
    Steady (Fixture.parsed path file bytes category).run :=
  (Steady.lift (.parseBytes bytes)).bindExcept fun _ => .pure _

/-- What is made of bytes, if the name of the file tells the category or if that is given. -/
def Fixture.made (path file : String) (category : Option Category) (bytes : List UInt8) :
    ExceptT Failure InTree Fixture :=
  ExceptT.mk (pure (chosenCategory (nameAt path file) file category)) >>= parsed path file bytes

theorem Fixture.steady_made (path file : String) (category : Option Category)
    (bytes : List UInt8) : Steady (Fixture.made path file category bytes).run :=
  Steady.bindExcept (.pure _) (steady_parsed path file bytes)

theorem Fixture.load_eq (path file : String) (category : Option Category) (limit : Nat) :
    Fixture.load path file category limit = readLimited path limit >>= made path file category :=
  rfl

theorem Fixture.steady_load (path file : String) (category : Option Category) (limit : Nat) :
    Steady (Fixture.load path file category limit).run :=
  (steady_readLimited path limit).bindExcept (steady_made path file category)

/-- **What a fixture is loaded as**: its bytes are read, there is a category, and the parser makes
the source of the bytes. -/
theorem Fixture.result_load_iff {path file : String} {category : Option Category} {limit : Nat}
    {f : Fixture} : result s (Fixture.load path file category limit).run = .ok f ↔
      ∃ bytes, result s (readLimited path limit).run = .ok bytes ∧
        ∃ k, chosenCategory (nameAt path file) file category = .ok k ∧
          ⟨nameAt path file, path, file, k, result s (World.parseBytes bytes),
            Digest.ofBytes bytes⟩ = f := by
  rw [load_eq, (steady_readLimited path limit).result_bindExcept_iff
    (steady_made path file category)]
  refine exists_congr fun bytes => and_congr_right fun _ => ?_
  exact (Steady.result_bindExcept_iff (.pure _) (steady_parsed path file bytes)).trans
    (exists_congr fun k => and_congr_right fun _ => ⟨Except.ok.inj, congrArg Except.ok⟩)

/-- A fixture has the name under which it is loaded. -/
theorem Fixture.file_of_load {path file : String} {category : Option Category} {limit : Nat}
    {f : Fixture} (h : result s (Fixture.load path file category limit).run = .ok f) :
    f.file = file := by
  obtain ⟨_, -, _, -, rfl⟩ := result_load_iff.mp h
  rfl

theorem Manifest.steady_load (path : String) : Steady (Manifest.load path).run := by
  refine (Steady.lift (.readText path)).bindExcept fun r => ?_
  split
  · exact .throw _
  · split
    · exact .throw _
    · exact .ok _

/-- A manifest that is loaded has been read from a text. -/
theorem Manifest.exists_parse_of_load {path : String} {m : Manifest}
    (h : result s (Manifest.load path).run = .ok m) : ∃ text, Manifest.parse text = .ok m := by
  obtain ⟨r, t, -, h⟩ := InTree.exists_of_result_bindExcept h
  split at h
  · cases h
  · next text =>
    split at h
    · cases h
    · next found hfound =>
      cases h
      exact ⟨text, hfound⟩

theorem Finding.steady_load (path : String) : Steady (Finding.load path).run := by
  refine (Steady.lift (.readText path)).bindExcept fun r => ?_
  split
  · exact .throw _
  · split
    · exact .throw _
    · exact .ok _

theorem steady_discover (directory : String) : Steady (discover directory).run := by
  refine (Steady.lift (.isDirectory directory)).bindExcept fun there => ?_
  extract_lets more
  have hmore (u : PUnit) : Steady (more u).run :=
    Steady.bindExcept (.bind (.filesBelow directory) fun _ => .pure _) fun _ => .ok _
  split
  · exact (Steady.throw _).bindExcept hmore
  · exact hmore ⟨⟩

namespace SuiteOptions

variable (o : SuiteOptions) (m : Manifest)

theorem steady_loadManifest : Steady o.loadManifest.run :=
  (Manifest.steady_load o.manifest).bind fun _ => .pure _

/-- The manifest of a suite has been read from a text. -/
theorem exists_parse_of_loadManifest {m : Manifest} (h : result s o.loadManifest.run = .ok m) :
    ∃ text, Manifest.parse text = .ok m := by
  unfold loadManifest at h
  rw [InTree.result_adapt] at h
  cases hload : result s (Manifest.load o.manifest).run with
  | error e =>
    rw [hload] at h
    cases h
  | ok n =>
    rw [hload] at h
    cases h
    exact Manifest.exists_parse_of_load hload

/-- A manifest that can be read is loaded. -/
theorem result_loadManifest {m : Manifest} (text : String)
    (htext : result s (World.readText o.manifest) = .ok text)
    (hparse : Manifest.parse text = .ok m) : result s o.loadManifest.run = .ok m := by
  have hload : result s (Manifest.load o.manifest).run = .ok m := by
    unfold Manifest.load
    rw [InTree.result_bindExcept, InTree.result_lift, htext]
    simp only [ExceptT.bindCont, hparse]
    rfl
  unfold loadManifest
  rw [InTree.result_adapt, hload]
  rfl

/-! ## Attempts -/

theorem steady_examine (f : Fixture) : Steady (o.examine f) := by
  unfold examine
  split
  · exact .pure _
  · refine (Steady.during ((Steady.pure _).bind fun _ => .pure _) _).bind fun graphs => ?_
    refine (Steady.during ((Steady.pure _).bind fun _ => .pure _) _).bind fun findings => ?_
    exact .pure _

theorem fixture_examine (f : Fixture) : (result s (o.examine f)).fixture = f := by
  unfold examine
  split <;> rfl

/-- The own findings are those of the checkers. -/
theorem findings_examine (h : o.findings = none) (f : Fixture) :
    (result s (o.examine f)).findings = o.checks.checkSource f.source f.file := by
  unfold examine
  rw [h]
  rfl

/-- **The name of a file of the suite.** -/
def nameOf (path : String) : String := Path.relativeName o.directory path

/-- **Loads a file of the suite** under its name, with the category that the manifest gives it. -/
def loadFixture (path : String) : ExceptT Failure InTree Fixture :=
  Fixture.load path (o.nameOf path) ((m.get? (o.nameOf path)).map (·.category)) o.maxFileSize

/-- Looks for defects in a fixture that could be loaded. -/
def examineLoaded : Except Failure Fixture → InTree (Except Failure Examination)
  | .error e => return .error e
  | .ok f => return .ok (← o.examine f)

/-- Records an attempt that took so many nanoseconds. -/
def recordAttempt (file : String) : Except Failure Examination × Nat → InTree Attempt
  | (r, ns) => do
    if let .ok a := r then
      World.changeMetrics (·.recordFixture ⟨file, ns / 1000, a.functions, a.findings.length⟩)
    return ⟨file, r⟩

theorem attempt_eq (path : String) : o.attempt m path =
    World.timed (World.during "load" (o.loadFixture m path).run >>= o.examineLoaded)
      >>= recordAttempt (o.nameOf path) := rfl

theorem steady_examineLoaded (r : Except Failure Fixture) : Steady (o.examineLoaded r) := by
  cases r with
  | error e => exact .pure _
  | ok f => exact (o.steady_examine f).bind fun _ => .pure _

theorem result_examineLoaded (r : Except Failure Fixture) :
    result s (o.examineLoaded r) = r.map fun f => result s (o.examine f) := by
  cases r with
  | error e => rfl
  | ok f => exact (o.steady_examine f).result_bind fun _ => .pure _

theorem steady_recordAttempt (file : String) (p : Except Failure Examination × Nat) :
    Steady (recordAttempt file p) := by
  obtain ⟨_ | a, ns⟩ := p
  · exact .pure _
  · exact (Steady.changeMetrics _).bind fun _ => .pure _

theorem result_recordAttempt (file : String) (p : Except Failure Examination × Nat) :
    result s (recordAttempt file p) = ⟨file, p.1⟩ := by
  obtain ⟨_ | a, ns⟩ := p <;> rfl

theorem steady_examination (path : String) :
    Steady (World.during "load" (o.loadFixture m path).run >>= o.examineLoaded) :=
  (Steady.during (Fixture.steady_load ..) _).bind o.steady_examineLoaded

theorem steady_attempt (path : String) : Steady (o.attempt m path) := by
  rw [attempt_eq]
  exact (Steady.timed (o.steady_examination m path)).bind (steady_recordAttempt _)

/-- **What comes of a file** is what is found in it if it can be loaded, and otherwise the reason
why it cannot. -/
theorem result_attempt (path : String) : result s (o.attempt m path) =
    ⟨o.nameOf path, (result s (o.loadFixture m path).run).map fun f => result s (o.examine f)⟩ := by
  have hload : Steady (World.during "load" (o.loadFixture m path).run) :=
    Steady.during (Fixture.steady_load ..) _
  rw [attempt_eq, (o.steady_examination m path).timed.result_bind (steady_recordAttempt _),
    result_recordAttempt, InTree.result_timed, hload.result_bind o.steady_examineLoaded,
    result_examineLoaded, InTree.result_during]

theorem steady_attempts (paths : List String) : Steady (o.attempts m paths) :=
  .mapM (o.steady_attempt m) paths

theorem result_attempts (paths : List String) : result s (o.attempts m paths) =
    paths.map fun path => result s (o.attempt m path) :=
  Steady.result_mapM (o.steady_attempt m) paths

/-! ## Running -/

/-- **Loads the findings of another analyser** if they take the place of the own ones. -/
def importFindings : ExceptT Failure InTree (Option (List Finding)) :=
  match o.findings with
  | some path => some <$> Finding.load path
  | none => pure none

theorem steady_importFindings : Steady o.importFindings.run := by
  unfold importFindings
  split
  · exact (Finding.steady_load _).mapExcept _
  · exact .pure _

/-- A list of findings is imported if and only if they take the place of the own ones. -/
theorem findings_eq_none_iff {imported : Option (List Finding)}
    (h : result s o.importFindings.run = .ok imported) : o.findings = none ↔ imported = none := by
  unfold importFindings at h
  cases hf : o.findings with
  | none =>
    rw [hf] at h
    cases h
    exact iff_of_true rfl rfl
  | some path =>
    rw [hf] at h
    refine iff_of_false (fun h => by cases h) ?_
    rintro rfl
    have hmap := (InTree.result_mapExcept some).symm.trans h
    cases hall : result s (Finding.load path).run with
    | error e =>
      rw [hall] at hmap
      cases hmap
    | ok all =>
      rw [hall] at hmap
      cases hmap

/-- Attempts all files and reports on them. -/
def reportOn (m : Manifest) (paths : List String) (imported : Option (List Finding)) :
    ExceptT Failure InTree SuiteReport := do
  return o.report m imported (← (o.attempts m paths : InTree (List Attempt)))

theorem run_eq : o.run = (do
    let m ← o.loadManifest
    let paths ← discover o.directory
    let imported ← o.importFindings
    o.reportOn m paths imported) := by
  unfold run importFindings
  cases o.findings <;> rfl

theorem steady_reportOn (m : Manifest) (paths : List String) (imported : Option (List Finding)) :
    Steady (o.reportOn m paths imported).run :=
  (Steady.lift (o.steady_attempts m paths)).bindExcept fun _ => .ok _

theorem result_reportOn (m : Manifest) (paths : List String) (imported : Option (List Finding)) :
    result s (o.reportOn m paths imported).run =
      .ok (o.report m imported (paths.map fun path => result s (o.attempt m path))) := by
  unfold reportOn
  rw [Steady.result_bindExcept (Steady.lift (o.steady_attempts m paths)) (fun _ => .ok _)
    InTree.result_lift, result_attempts]
  rfl

theorem steady_importAndReport (m : Manifest) (paths : List String) :
    Steady (o.importFindings >>= o.reportOn m paths).run :=
  o.steady_importFindings.bindExcept (o.steady_reportOn m paths)

theorem steady_discoverAndReport (m : Manifest) :
    Steady (discover o.directory >>= fun paths => o.importFindings >>= o.reportOn m paths).run :=
  (steady_discover o.directory).bindExcept (o.steady_importAndReport m)

/-- **A run whose parts can be read ends in the report on them.** -/
theorem result_run {m : Manifest} {paths : List String} {imported : Option (List Finding)}
    (hm : result s o.loadManifest.run = .ok m)
    (hpaths : result s (discover o.directory).run = .ok paths)
    (himported : result s o.importFindings.run = .ok imported) :
    result s o.run.run = .ok (o.report m imported (paths.map fun path =>
      result s (o.attempt m path))) := by
  rw [run_eq, o.steady_loadManifest.result_bindExcept o.steady_discoverAndReport hm,
    (steady_discover o.directory).result_bindExcept (o.steady_importAndReport m) hpaths,
    o.steady_importFindings.result_bindExcept (o.steady_reportOn m paths) himported,
    result_reportOn]

/-- **A run that ends in a report has read all its parts**, and the report is the one on them. -/
theorem exists_of_result_run {r : SuiteReport} (h : result s o.run.run = .ok r) :
    ∃ m paths imported, result s o.loadManifest.run = .ok m ∧
      result s (discover o.directory).run = .ok paths ∧
      result s o.importFindings.run = .ok imported ∧
      r = o.report m imported (paths.map fun path => result s (o.attempt m path)) := by
  rw [run_eq] at h
  obtain ⟨m, hm, h⟩ := o.steady_loadManifest.exists_of_result_bindExcept
    o.steady_discoverAndReport h
  obtain ⟨paths, hpaths, h⟩ := (steady_discover o.directory).exists_of_result_bindExcept
    (o.steady_importAndReport m) h
  obtain ⟨imported, himported, h⟩ := o.steady_importFindings.exists_of_result_bindExcept
    (o.steady_reportOn m paths) h
  rw [result_reportOn] at h
  exact ⟨m, paths, imported, hm, hpaths, himported, (Except.ok.inj h).symm⟩

end SuiteOptions

end NullFlow
