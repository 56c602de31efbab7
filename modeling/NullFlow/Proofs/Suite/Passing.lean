import Mathlib.Data.List.Nodup
import Mathlib.Data.List.Perm.Basic
import NullFlow.Proofs.Check.Straight
import NullFlow.Proofs.Graph.Invariant
import NullFlow.Proofs.Suite.Diff
import NullFlow.Proofs.Suite.Manifest
import NullFlow.Proofs.Suite.Run

/-!
# When a suite passes

A suite passes if and only if it **agrees with its manifest** (`SuiteOptions.Agrees`): every file
can be loaded, what is found in it is what its entry expects, each finding as often as it is
expected, and every entry is that of a file. It makes no difference in which order anything is found
or expected, nor whether the findings are those of the checkers or of another analyser.

Nothing that is expected is lost or counted twice on the way (`SuiteReport.Accounts`), not even in a
file that cannot be loaded or is not there.
-/

namespace NullFlow

open InTree (Steady result)

/-! ## Findings of one file -/

/-- **What a finding says of its file**: the function, the line and the category. -/
def Finding.place (f : Finding) : String × Nat × Category := (f.function, f.line, f.category)

/-- What an expected finding says of its file. -/
def Expected.place (e : Expected) : String × Nat × Category := (e.function, e.line, e.category)

/-- The expected finding in a file. -/
def Expected.ofPlace (file : String) (p : String × Nat × Category) : Expected :=
  ⟨file, p.1, p.2.1, p.2.2⟩

section

variable {file : String} {es : List Expected} {fs : List Finding}

/-- In one file, what findings show is the same as what they say of it. -/
theorem perm_shown_iff (hes : ∀ e ∈ es, e.file = file) (hfs : ∀ f ∈ fs, f.file = file) :
    es.Perm (fs.map Finding.shown) ↔ (fs.map Finding.place).Perm (es.map Expected.place) := by
  have hplace : (fs.map Finding.shown).map Expected.place = fs.map Finding.place := by
    rw [List.map_map]
    rfl
  have hback : (es.map Expected.place).map (.ofPlace file) = es := by
    rw [List.map_map]
    refine (List.map_congr_left fun e he => ?_).trans (List.map_id es)
    rw [← hes e he]
    rfl
  have hshown : (fs.map Finding.place).map (.ofPlace file) = fs.map Finding.shown := by
    rw [List.map_map]
    refine List.map_congr_left fun f hf => ?_
    rw [← hfs f hf]
    rfl
  constructor
  · intro h
    exact hplace ▸ (h.map Expected.place).symm
  · intro h
    rw [← hback, ← hshown]
    exact (h.map (Expected.ofPlace file)).symm

end

theorem file_of_mem_attributed {all : List Finding} {file : String} {f : Finding}
    (h : f ∈ attributed all file) : f.file = file := by
  obtain ⟨g, -, rfl⟩ := List.mem_map.mp h
  rfl

/-- The checkers find defects in the file of the source only. -/
theorem CheckOptions.file_of_mem_checkSource {o : CheckOptions} {source : C.Source} {file : String}
    {f : Finding} (h : f ∈ o.checkSource source file) : f.file = file := by
  obtain ⟨g, hg, hf⟩ := mem_check h
  exact (file_function_of_mem_findingsIn hf).1.trans (C.Source.file_of_mem_graphs hg)

/-! ## One file -/

/-- **What counts as found** in an examined file. -/
def Examination.counted (x : Examination) (imported : Option (List Finding)) (file : String) :
    List Finding :=
  match imported with
  | some all => attributed all file
  | none => x.findings

namespace Attempt

variable (m : Manifest) (imported : Option (List Finding)) (a : Attempt)

theorem file_report : (a.report m imported).file = a.file := by
  unfold report
  split <;> rfl

/-- **What is expected in a file is met or missing there**, also if it cannot be loaded. -/
theorem report_perm : ((a.report m imported).matched ++ (a.report m imported).missing).Perm
    (m.expectedIn a.file) := by
  unfold report
  split
  · exact .refl _
  · exact diff_expected_perm ..

/-- **A file passes** if it can be loaded and what is found shows what is expected. -/
theorem passed_report_iff : (a.report m imported).passed = true ↔
    ∃ x, a.result = .ok x ∧
      (m.expectedIn a.file).Perm ((x.counted imported a.file).map Finding.shown) := by
  cases hr : a.result with
  | error e =>
    have hpassed : (a.report m imported).passed = false := by
      unfold report
      rw [hr]
      rfl
    rw [hpassed]
    exact iff_of_false (by decide) fun ⟨_, h, _⟩ => by cases h
  | ok x =>
    have hreport : (a.report m imported).passed =
        ((diff (m.expectedIn a.file) (Finding.sort (x.counted imported a.file))).missing.isEmpty &&
          (diff (m.expectedIn a.file)
            (Finding.sort (x.counted imported a.file))).unexpected.isEmpty) := by
      unfold report
      rw [hr]
      rfl
    have hsort : ((Finding.sort (x.counted imported a.file)).map Finding.shown).Perm
        ((x.counted imported a.file).map Finding.shown) := (List.mergeSort_perm ..).map _
    rw [hreport, Bool.and_eq_true, List.isEmpty_iff, List.isEmpty_iff, diff_agrees_iff]
    constructor
    · exact fun h => ⟨x, rfl, h.trans hsort⟩
    · rintro ⟨y, hy, h⟩
      cases hy
      exact h.trans hsort.symm

end Attempt

namespace SuiteOptions

variable {o : SuiteOptions} {s : Session} {m : Manifest} {imported : Option (List Finding)}

/-- **The findings in a fixture**: those of the other analyser that are attributed to its file, or
else those of the checkers. -/
def foundIn (o : SuiteOptions) (imported : Option (List Finding)) (f : Fixture) : List Finding :=
  match imported with
  | some all => all.filter fun x => sameFile x.file f.file
  | none => o.checks.checkSource f.source f.file

/-- What counts as found in a fixture is said of its file. -/
theorem file_of_mem_counted (ho : o.findings = none ↔ imported = none) {f : Fixture} {x : Finding}
    (hx : x ∈ (result s (o.examine f)).counted imported f.file) : x.file = f.file := by
  cases imported with
  | some all => exact file_of_mem_attributed hx
  | none =>
    have hmem : x ∈ (result s (o.examine f)).findings := hx
    rw [o.findings_examine (ho.mpr rfl)] at hmem
    exact CheckOptions.file_of_mem_checkSource hmem

/-- What counts as found in a fixture are the findings in it. -/
theorem map_place_counted (ho : o.findings = none ↔ imported = none) (f : Fixture) :
    ((result s (o.examine f)).counted imported f.file).map Finding.place
      = (o.foundIn imported f).map Finding.place := by
  cases imported with
  | some all => exact List.map_map
  | none => exact congrArg (List.map Finding.place) (o.findings_examine (ho.mpr rfl) f)

/-- What counts as found shows what is expected if the findings in the fixture do. -/
theorem perm_counted_iff (hm : m.Filed) (ho : o.findings = none ↔ imported = none) (f : Fixture) :
    (m.expectedIn f.file).Perm
        (((result s (o.examine f)).counted imported f.file).map Finding.shown) ↔
      ((o.foundIn imported f).map Finding.place).Perm
        ((m.expectedIn f.file).map Expected.place) := by
  rw [perm_shown_iff (fun _ => hm.file_of_mem_expectedIn) fun _ => file_of_mem_counted ho,
    map_place_counted ho]

/-- **A file passes** if it can be loaded and the findings in it are those that are expected. -/
theorem passed_attempt_iff (hm : m.Filed) (ho : o.findings = none ↔ imported = none)
    (path : String) : ((result s (o.attempt m path)).report m imported).passed = true ↔
      ∃ f, result s (o.loadFixture m path).run = .ok f ∧
        ((o.foundIn imported f).map Finding.place).Perm
          ((m.expectedIn (o.nameOf path)).map Expected.place) := by
  rw [Attempt.passed_report_iff, result_attempt]
  cases hload : result s (o.loadFixture m path).run with
  | error e => exact iff_of_false (fun ⟨_, h, _⟩ => by cases h) fun ⟨_, h, _⟩ => by cases h
  | ok f =>
    rw [← Fixture.file_of_load hload]
    constructor
    · rintro ⟨_, hx, h⟩
      cases hx
      exact ⟨f, rfl, (perm_counted_iff hm ho f).mp h⟩
    · rintro ⟨_, hf, h⟩
      cases hf
      exact ⟨_, rfl, (perm_counted_iff hm ho f).mpr h⟩

/-- What is reported about a file that can be loaded. -/
theorem report_of_load {path : String} {f : Fixture}
    (hload : result s (o.loadFixture m path).run = .ok f) :
    (result s (o.attempt m path)).report m imported =
      let found := Finding.sort ((result s (o.examine f)).counted imported (o.nameOf path))
      let compared := diff (m.expectedIn (o.nameOf path)) found
      ⟨o.nameOf path, some f.category, found, compared.matched, compared.missing,
        compared.unexpected, none⟩ := by
  rw [result_attempt, hload]
  show FixtureResult.mk _ (some (result s (o.examine f)).fixture.category) _ _ _ _ _ = _
  rw [o.fixture_examine]
  rfl

/-- **The suite agrees with its manifest**: every file can be loaded, the findings in it are those
that are expected there, and every entry is that of a file. -/
structure Agrees (o : SuiteOptions) (s : Session) (m : Manifest)
    (imported : Option (List Finding)) (paths : List String) : Prop where
  found ⦃path : String⦄ (h : path ∈ paths) : ∃ f, result s (o.loadFixture m path).run = .ok f ∧
    ((o.foundIn imported f).map Finding.place).Perm
      ((m.expectedIn (o.nameOf path)).map Expected.place)
  present ⦃e : ManifestEntry⦄ (h : e ∈ m.toList) : ∃ path ∈ paths, o.nameOf path = e.file

end SuiteOptions

/-- **Every expected finding is accounted for once.** -/
structure SuiteReport.Accounts (r : SuiteReport) (m : Manifest) : Prop where
  /-- The file of an entry is either that of one fixture or orphaned. -/
  count_file ⦃e : ManifestEntry⦄ (h : e ∈ m.toList) :
    (r.fixtures.map (·.file) ++ r.orphaned).count e.file = 1
  /-- What is expected in a fixture is met or missing there. -/
  fixture ⦃x : FixtureResult⦄ (h : x ∈ r.fixtures) :
    (x.matched ++ x.missing).Perm (m.expectedIn x.file)
  /-- What is met, missing or expected in an orphaned file is everything that is expected. -/
  total : (r.fixtures.flatMap (fun x => x.matched ++ x.missing) ++
    r.orphaned.flatMap m.expectedIn).Perm (m.toList.flatMap (·.expected))

section

variable {m : Manifest} {attempts : List Attempt}

theorem Manifest.absentFrom_eq (m : Manifest) (attempts : List Attempt) : m.absentFrom attempts =
    (m.toList.map (·.file)).filter fun file => !decide (file ∈ attempts.map (·.file)) := by
  refine List.filter_congr fun file _ => congrArg (!·) ?_
  rw [Bool.eq_iff_iff, List.any_eq_true, decide_eq_true_iff, List.mem_map]
  exact exists_congr fun a => and_congr_right fun _ => beq_iff_eq

/-- No file is absent if and only if every entry is that of a file. -/
theorem Manifest.absentFrom_eq_nil_iff : m.absentFrom attempts = [] ↔
    ∀ e ∈ m.toList, e.file ∈ attempts.map (·.file) := by
  rw [absentFrom_eq, List.filter_eq_nil_iff]
  constructor
  · intro h e he
    simpa using h e.file (List.mem_map_of_mem he)
  · intro h file hfile
    obtain ⟨e, he, rfl⟩ := List.mem_map.mp hfile
    simpa using h e he

/-- What stands at some names and at the keys besides them is what stands at the keys, if nothing
stands elsewhere. -/
theorem flatMap_perm {α β : Type} [DecidableEq α] {names keys : List α} (f : α → List β)
    (hnames : names.Nodup) (hkeys : keys.Nodup) (hf : ∀ a ∈ names, a ∉ keys → f a = []) :
    (names.flatMap f ++ (keys.filter fun a => !decide (a ∈ names)).flatMap f).Perm
      (keys.flatMap f) := by
  have hother : (names.filter fun a => !decide (a ∈ keys)).flatMap f = [] := by
    refine List.flatMap_eq_nil_iff.mpr fun a ha => ?_
    obtain ⟨hmem, hnot⟩ := List.mem_filter.mp ha
    exact hf a hmem (by simpa using hnot)
  have hcommon : (names.filter (decide <| · ∈ keys)).Perm (keys.filter (decide <| · ∈ names)) := by
    refine (List.perm_ext_iff_of_nodup (hnames.filter _) (hkeys.filter _)).mpr fun a => ?_
    simp only [List.mem_filter, decide_eq_true_eq, and_comm]
  have hnamesSplit := (List.filter_append_perm (decide <| · ∈ keys) names).flatMap_right f
  rw [List.flatMap_append, hother, List.append_nil] at hnamesSplit
  have hkeysSplit := (List.filter_append_perm (decide <| · ∈ names) keys).flatMap_right f
  rw [List.flatMap_append] at hkeysSplit
  exact ((hnamesSplit.symm.trans (hcommon.flatMap_right f)).append_right _).trans hkeysSplit

end

/-- What is expected in a file without an entry is nothing. -/
theorem Manifest.expectedIn_eq_nil {m : Manifest} (hm : m.Filed) {file : String}
    (h : file ∉ m.toList.map (·.file)) : m.expectedIn file = [] := by
  refine expectedIn_of_get?_eq_none (Option.eq_none_iff_forall_ne_some.mpr fun e he => ?_)
  exact h (List.mem_map.mpr ⟨e, mem_toList.mpr ⟨file, he⟩, (hm he).1⟩)

namespace SuiteOptions

variable {o : SuiteOptions} {s : Session} {m : Manifest} {imported : Option (List Finding)}
  {attempts : List Attempt} {paths : List String}

theorem map_file_report : (o.report m imported attempts).fixtures.map (·.file) =
    attempts.map (·.file) :=
  List.map_map.trans (List.map_congr_left fun a _ => a.file_report m imported)

theorem orphaned_report : (o.report m imported attempts).orphaned = m.absentFrom attempts := rfl

theorem report_perm_of_mem {x : FixtureResult} (hx : x ∈ (o.report m imported attempts).fixtures) :
    (x.matched ++ x.missing).Perm (m.expectedIn x.file) := by
  obtain ⟨a, -, rfl⟩ := List.mem_map.mp hx
  rw [a.file_report]
  exact a.report_perm m imported

/-- **A report on files of different names accounts for everything.** -/
theorem accounts_report (hm : m.Filed) (hnames : (attempts.map (·.file)).Nodup) :
    (o.report m imported attempts).Accounts m where
  count_file e he := by
    have hnodup : (attempts.map (·.file) ++ m.absentFrom attempts).Nodup := by
      rw [Manifest.absentFrom_eq]
      refine List.nodup_append.mpr ⟨hnames, hm.nodup_files.filter _, ?_⟩
      rintro file hfile _ habsent rfl
      simpa [hfile] using (List.mem_filter.mp habsent).2
    have hmem : e.file ∈ attempts.map (·.file) ++ m.absentFrom attempts := by
      rw [Manifest.absentFrom_eq, List.mem_append, List.mem_filter]
      by_cases h : e.file ∈ attempts.map (·.file)
      · exact Or.inl h
      · exact Or.inr ⟨List.mem_map_of_mem he, by simpa using h⟩
    rw [map_file_report]
    exact hnodup.count.trans (if_pos hmem)
  fixture _ := report_perm_of_mem
  total := by
    have hfixtures : ((o.report m imported attempts).fixtures.flatMap
        fun x => x.matched ++ x.missing).Perm ((attempts.map (·.file)).flatMap m.expectedIn) := by
      have hfiles : (o.report m imported attempts).fixtures.map (·.file) =
          attempts.map (·.file) := map_file_report
      rw [← hfiles, List.flatMap_map]
      exact .flatMap_left _ fun x => report_perm_of_mem
    have hentries : (m.toList.map (·.file)).flatMap m.expectedIn =
        m.toList.flatMap (·.expected) := by
      rw [List.flatMap_map]
      exact List.flatMap_congr fun e => hm.expectedIn_file
    have hsplit := flatMap_perm m.expectedIn hnames hm.nodup_files
      fun _ _ => Manifest.expectedIn_eq_nil hm
    rw [hentries, ← Manifest.absentFrom_eq] at hsplit
    exact (hfixtures.append_right _).trans hsplit

theorem map_file_attempts (o : SuiteOptions) (s : Session) (m : Manifest) (paths : List String) :
    (paths.map fun path => result s (o.attempt m path)).map (·.file) = paths.map o.nameOf := by
  rw [List.map_map]
  exact List.map_congr_left fun path _ => congrArg Attempt.file (o.result_attempt m path)

/-- **A report shows that everything passed** if and only if the suite agrees with its manifest. -/
theorem passed_report_iff (hm : m.Filed) (ho : o.findings = none ↔ imported = none) :
    (o.report m imported (paths.map fun path => result s (o.attempt m path))).passed = true ↔
      o.Agrees s m imported paths := by
  have hpresent : m.absentFrom (paths.map fun path => result s (o.attempt m path)) = [] ↔
      ∀ e ∈ m.toList, ∃ path ∈ paths, o.nameOf path = e.file := by
    rw [Manifest.absentFrom_eq_nil_iff, map_file_attempts]
    exact forall₂_congr fun _ _ => List.mem_map
  unfold SuiteReport.passed report
  rw [Bool.and_eq_true, List.isEmpty_iff, hpresent, List.map_map, List.all_map, List.all_eq_true]
  constructor
  · rintro ⟨hentries, hfound⟩
    exact ⟨fun path h => (passed_attempt_iff hm ho path).mp (hfound path h), hentries⟩
  · rintro ⟨hfound, hentries⟩
    exact ⟨hentries, fun path h => (passed_attempt_iff hm ho path).mpr (hfound h)⟩

/-- **A run passes if and only if the suite agrees with its manifest**, and its report accounts for
everything that is expected. The manifest and the findings of another analyser, if there are any,
are those that are read, and the files are those that are found; they have different names. -/
theorem run_passed_iff (hm : result s o.loadManifest.run = .ok m)
    (hpaths : result s (discover o.directory).run = .ok paths)
    (himported : result s o.importFindings.run = .ok imported)
    (hnames : (paths.map o.nameOf).Nodup) :
    ∃ r, result s o.run.run = .ok r ∧ (r.passed = true ↔ o.Agrees s m imported paths) ∧
      r.Accounts m := by
  obtain ⟨text, htext⟩ := o.exists_parse_of_loadManifest hm
  have hfiled : m.Filed := Manifest.filed_of_parse htext
  refine ⟨_, o.result_run hm hpaths himported,
    passed_report_iff hfiled (o.findings_eq_none_iff himported), accounts_report hfiled ?_⟩
  rwa [map_file_attempts]

end SuiteOptions

/-! ## A defect in a directory below -/

namespace C.Node

/-- The body of a function, from its parts up. -/
def bodyOf (text : String) (last : Nat) (statements : List Node) : Node :=
  ⟨.compoundStatement, some .body, text, 1, 16,
    [⟨.token "\x7b", none, "\x7b", 1, 16, []⟩] ++ statements ++
      [⟨.token "\x7d", none, "\x7d", last, 1, []⟩]⟩

/-- The definition of `void f(int *p)` with a body of this text. -/
def definingF (text : String) (last : Nat) (statements : List Node) : Node :=
  ⟨.functionDefinition, none, "void f(int *p) " ++ text, 1, 1,
    [⟨.primitiveType, some .type, "void", 1, 1, []⟩,
      ⟨.functionDeclarator, some .declarator, "f(int *p)", 1, 6,
        [⟨.identifier, some .declarator, "f", 1, 6, []⟩,
          ⟨.parameterList, some .parameters, "(int *p)", 1, 7,
            [⟨.token "(", none, "(", 1, 7, []⟩,
              ⟨.parameterDeclaration, none, "int *p", 1, 8,
                [⟨.primitiveType, some .type, "int", 1, 8, []⟩,
                  ⟨.pointerDeclarator, some .declarator, "*p", 1, 12,
                    [⟨.token "*", none, "*", 1, 12, []⟩,
                      ⟨.identifier, some .declarator, "p", 1, 13, []⟩]⟩]⟩,
              ⟨.token ")", none, ")", 1, 14, []⟩]⟩]⟩,
      bodyOf text last statements]⟩

/-- The statement `p = 0;` on a line. -/
def nullingAt (line : Nat) : Node :=
  ⟨.expressionStatement, none, "p = 0;", line, 5,
    [⟨.assignmentExpression, none, "p = 0", line, 5,
      [⟨.identifier, some .left, "p", line, 5, []⟩,
        ⟨.token "=", some .operator, "=", line, 7, []⟩,
        ⟨.numberLiteral, some .right, "0", line, 9, []⟩]⟩,
      ⟨.token ";", none, ";", line, 10, []⟩]⟩

/-- What the statement `*p = 1;` on a line stores to. -/
def pointedToAt (line : Nat) : Node :=
  ⟨.pointerExpression, some .left, "*p", line, 5,
    [⟨.token "*", some .operator, "*", line, 5, []⟩,
      ⟨.identifier, some .argument, "p", line, 6, []⟩]⟩

/-- The statement `*p = 1;` on a line. -/
def storingAt (line : Nat) : Node :=
  ⟨.expressionStatement, none, "*p = 1;", line, 5,
    [⟨.assignmentExpression, none, "*p = 1", line, 5,
      [pointedToAt line, ⟨.token "=", some .operator, "=", line, 8, []⟩,
        ⟨.numberLiteral, some .right, "1", line, 10, []⟩]⟩,
      ⟨.token ";", none, ";", line, 11, []⟩]⟩

theorem facts_nullingAt (line : Nat) : (nullingAt line).facts [] = [.assign "p" .null line] := by
  have hzero : isNullConstant [] ⟨.numberLiteral, some .right, "0", line, 9, []⟩ = true := by
    rw [isNullConstant]
    show isZeroText "0" = true
    decide
  rw [facts_eq_flatMap (show Kind.expressionStatement ∉ special by decide)]
  show factsUnder [] ∅ _ ++ [] = _
  rw [List.append_nil, factsUnder_assigned rfl rfl rfl (plainVariable?_identifier rfl rfl),
    storedValue, if_pos hzero]
  show facts [] _ ++ _ = _
  rw [facts_of_children_eq_nil rfl]
  rfl

theorem facts_storingAt (line : Nat) : (storingAt line).facts [] = [.deref "p" .star line] := by
  have hplain : (pointedToAt line).plainVariable? [] = none := plainVariable?_eq_none nofun nofun
  have hpointed : (pointedToAt line).factsUnder [] ∅ = [.deref "p" .star line] := by
    rw [factsUnder_star rfl rfl rfl,
      derefFact_of_plainVariable? (plainVariable?_identifier rfl rfl)]
    show facts [] _ ++ _ = _
    rw [facts_of_children_eq_nil rfl]
    rfl
  rw [facts_eq_flatMap (show Kind.expressionStatement ∉ special by decide)]
  show factsUnder [] ∅ _ ++ [] = _
  rw [List.append_nil, factsUnder_assignment rfl rfl rfl hplain, hpointed]
  show facts [] _ ++ _ = _
  rw [facts_of_children_eq_nil rfl]
  rfl

theorem functionName?_definingF (text : String) (last : Nat) (statements : List Node) :
    (definingF text last statements).functionName? = some "f" := by
  unfold functionName? definedDeclarator?
  show ((functionDeclarator? _).bind _) = _
  rw [functionDeclarator?]
  show declaredName? _ = _
  rw [declaredName?]

end C.Node

namespace C.Source

open C.Node

/-- The source that is a definition and nothing else. -/
def ofDefinition (n : Node) : Source :=
  ⟨n.text ++ "\n", ⟨.translationUnit, none, n.text ++ "\n", 1, 1, [n]⟩⟩

/-- A source that stores through a pointer which is null. -/
def withDefect : Source := ofDefinition <|
  definingF "\x7b\n    p = 0;\n    *p = 1;\n\x7d" 4 [nullingAt 2, storingAt 3]

/-- A source that stores through a pointer. -/
def withoutDefect : Source := ofDefinition <|
  definingF "\x7b\n    *p = 1;\n\x7d" 3 [storingAt 2]

/-- A parser that has the trees of the two sources at hand. -/
def lookUp (text : String) : Source :=
  if text = withDefect.text then withDefect
  else if text = withoutDefect.text then withoutDefect
  else parse text

theorem functionDefinitions_ofDefinition {n : Node} (hkind : n.kind = .functionDefinition) :
    (ofDefinition n).root.functionDefinitions = [n] := by
  have hdefinition : n.functionDefinitions = [n] := by
    rw [functionDefinitions_eq, hkind]
    rfl
  have hnamed : (ofDefinition n).root.namedChildren = [n] :=
    List.filter_eq_self.mpr fun c hc => by
      rw [List.mem_singleton.mp hc, isNamed, hkind]
  rw [functionDefinitions_eq, hnamed]
  show [n].flatMap functionDefinitions = [n]
  rw [List.flatMap_singleton, hdefinition]

end C.Source

/-- The defect in a file that holds the source with a defect. -/
def Finding.inFile (file : String) : Finding where
  file := file
  function := "f"
  line := 3
  category := .forwardNull
  message := "Dereferencing null pointer \"p\"."
  events := [⟨.assignZero, 2, "Assigning: \"p\" = NULL.", false⟩,
    ⟨.varDerefOp, 3, "Dereferencing null pointer \"p\".", true⟩]

theorem CheckOptions.checkSource_withDefect (file : String) :
    ({} : CheckOptions).checkSource .withDefect file = [.inFile file] := by
  have hsimple : ∀ c ∈ [C.Node.nullingAt 2, C.Node.storingAt 3], c.IsSimple := by
    rintro _ (_ | ⟨_, _ | ⟨_, ⟨⟩⟩⟩) <;> exact .expression rfl fun e he => by cases he; decide
  obtain ⟨g, hfunction, hfile, known, hcheck⟩ := checkSource_straight (o := {}) file
    (C.Source.functionDefinitions_ofDefinition rfl) (C.Node.functionName?_definingF ..)
    (show _ = some (C.Node.bodyOf _ 4 [.nullingAt 2, .storingAt 3]) from rfl) rfl hsimple
  have hfacts : [C.Node.nullingAt 2, C.Node.storingAt 3].flatMap (C.Node.facts []) =
      [.assign "p" .null 2, .deref "p" .star 3] := by
    rw [List.flatMap_cons, List.flatMap_singleton, C.Node.facts_nullingAt, C.Node.facts_storingAt]
    rfl
  have hfound : ForwardNull.factFindings known g ∅ [.assign "p" .null 2, .deref "p" .star 3] =
      [.inFile file] := by
    unfold Finding.inFile
    rw [← hfunction, ← hfile]
    rfl
  have hsort : Finding.sort [.inFile file] = [.inFile file] := List.mergeSort_singleton _
  refine hcheck.trans ?_
  show Finding.distinct (Finding.sort (ForwardNull.factFindings known g ∅
    ([C.Node.nullingAt 2, C.Node.storingAt 3].flatMap (C.Node.facts [])))) = _
  rw [hfacts, hfound, hsort]
  rfl

theorem CheckOptions.checkSource_withoutDefect (file : String) :
    ({} : CheckOptions).checkSource .withoutDefect file = [] := by
  have hsimple : ∀ c ∈ [C.Node.storingAt 2], c.IsSimple := by
    rintro _ (_ | ⟨_, ⟨⟩⟩)
    exact .expression rfl fun e he => by cases he; decide
  obtain ⟨g, -, -, known, hcheck⟩ := checkSource_straight (o := {}) file
    (C.Source.functionDefinitions_ofDefinition rfl) (C.Node.functionName?_definingF ..)
    (show _ = some (C.Node.bodyOf _ 3 [.storingAt 2]) from rfl) rfl hsimple
  have hsort : Finding.sort [] = [] := List.mergeSort_nil
  refine hcheck.trans ?_
  show Finding.distinct (Finding.sort (ForwardNull.factFindings known g ∅
    ([C.Node.storingAt 2].flatMap (C.Node.facts [])))) = _
  rw [List.flatMap_singleton, C.Node.facts_storingAt]
  exact congrArg Finding.distinct hsort

namespace FileTree

/-- The table of the fixture with the defect. -/
def belowText : String :=
  "[[fixture]]\nfile = \"sub/forward_null.c\"\ncategory = \"forward-null\"\n" ++
    "[[fixture.expect]]\nfunction = \"f\"\nline = 3\n"

/-- The table of a fixture that is not there. -/
def goneText : String :=
  "[[fixture]]\nfile = \"gone.c\"\ncategory = \"reverse-null\"\n" ++
    "[[fixture.expect]]\nfunction = \"g\"\nline = 5\n"

/-- The name of the fixture without a defect, which may be that of the other one. -/
def upperName (same : Bool) : String := if same then "forward_null.c" else "forward_null_2.c"

/-- **A suite of two fixtures** with a manifest. The one with a defect is in a directory below. -/
def nested (golden : String) (same : Bool) : FileTree where
  entries := .ofList [
    (["golden.toml"], Entry.file golden.toUTF8.data.toList),
    (["suite"], Entry.directory),
    (["suite", upperName same], Entry.file C.Source.withoutDefect.text.toUTF8.data.toList),
    (["suite", "sub"], Entry.directory),
    (["suite", "sub", "forward_null.c"], Entry.file C.Source.withDefect.text.toUTF8.data.toList)]

/-- The same with a file for findings beside the suite. -/
def withFindings (t : FileTree) : Option String → FileTree
  | none => t
  | some text =>
    { t with entries := t.entries.insert ["findings.json"] (.file text.toUTF8.data.toList) }

/-- The files of the suite, in order. -/
def nestedPaths (same : Bool) : List String :=
  ["suite/" ++ upperName same, "suite/sub/forward_null.c"]

end FileTree

/-- The session with the suite, and with findings if there are any. -/
def Session.nested (golden : String) (same : Bool) (text? : Option String) : Session :=
  { files := (FileTree.nested golden same).withFindings text?, parser := .lookUp }

/-- The tables in the texts. -/
def FixtureTable.below : FixtureTable :=
  ⟨"sub/forward_null.c", "forward-null", none, [⟨"f", 3, none⟩]⟩

def FixtureTable.gone : FixtureTable := ⟨"gone.c", "reverse-null", none, [⟨"g", 5, none⟩]⟩

/-- The entries of the tables. -/
def ManifestEntry.below : ManifestEntry :=
  ⟨"sub/forward_null.c", .forwardNull, none, [⟨"sub/forward_null.c", "f", 3, .forwardNull⟩]⟩

def ManifestEntry.gone : ManifestEntry :=
  ⟨"gone.c", .reverseNull, none, [⟨"gone.c", "g", 5, .reverseNull⟩]⟩

namespace Manifest

/-- The manifest with the fixture that is there, and the one with both. -/
def ofNested : Manifest where
  entries := (∅ : Std.ExtTreeMap String ManifestEntry).insert "sub/forward_null.c" .below

def withGoneFixture : Manifest where
  entries := ofNested.entries.insert "gone.c" .gone

theorem entry_below : entry .below = .ok .below := by
  have hsort : Expected.sort [⟨"sub/forward_null.c", "f", 3, .forwardNull⟩] =
      [⟨"sub/forward_null.c", "f", 3, .forwardNull⟩] := List.mergeSort_singleton _
  unfold ManifestEntry.below
  rw [← hsort]
  rfl

theorem entry_gone : entry .gone = .ok .gone := by
  have hsort : Expected.sort [⟨"gone.c", "g", 5, .reverseNull⟩] =
      [⟨"gone.c", "g", 5, .reverseNull⟩] := List.mergeSort_singleton _
  unfold ManifestEntry.gone
  rw [← hsort]
  rfl

theorem ofTables_nested : ofTables [.below] = .ok ofNested := by
  unfold ofTables
  simp only [List.foldlM_cons, add, entry_below]
  rfl

theorem ofTables_withGoneFixture : ofTables [.below, .gone] = .ok withGoneFixture := by
  unfold ofTables
  simp only [List.foldlM_cons, add, entry_below, entry_gone]
  rfl

theorem tablesOf?_belowText : tablesOf? FileTree.belowText = some [.below] := by
  decide +kernel

theorem tablesOf?_withGoneText :
    tablesOf? (FileTree.belowText ++ FileTree.goneText) = some [.below, .gone] := by
  decide +kernel

end Manifest

section

variable {golden : String} {same : Bool} {text? : Option String}

theorem result_discover_nested : result (.nested golden same text?) (discover "suite").run =
    .ok (FileTree.nestedPaths same) := by
  have hsources : result (.nested golden same text?) (discover "suite").run =
      .ok ((([[FileTree.upperName same], ["sub", "forward_null.c"]] :
        List (List String)).mergeSort fun a b => (compare a b).isLE).map
        fun names => Path.join "suite" (Path.ofParts names)) := by
    cases same <;> cases text? <;> rfl
  rw [hsources, List.mergeSort_of_pairwise (by cases same <;> decide)]
  cases same <;> decide +kernel

/-- Bytes below 128 are parsed as the text that they spell. -/
theorem InTree.result_parseBytes {s : Session} {text : String}
    (hascii : ∀ b ∈ text.toUTF8.data.toList, b < 0x80)
    (htext : String.ofList (text.toUTF8.data.toList.map fun b => Char.ofNat b.toNat) = text) :
    result s (World.parseBytes text.toUTF8.data.toList) = s.parser text := by
  show s.parser (String.ofList (Text.ofBytes _)) = _
  rw [Text.ofBytes_of_lt hascii, htext]

/-- The fixtures of the suite. -/
def Fixture.upper (same : Bool) : Fixture where
  name := nameAt ("suite/" ++ FileTree.upperName same) (FileTree.upperName same)
  path := "suite/" ++ FileTree.upperName same
  file := FileTree.upperName same
  category := .forwardNull
  source := .withoutDefect
  digest := Digest.ofBytes C.Source.withoutDefect.text.toUTF8.data.toList

def Fixture.lower : Fixture where
  name := nameAt "suite/sub/forward_null.c" "sub/forward_null.c"
  path := "suite/sub/forward_null.c"
  file := "sub/forward_null.c"
  category := .forwardNull
  source := .withDefect
  digest := Digest.ofBytes C.Source.withDefect.text.toUTF8.data.toList

namespace SuiteOptions

/-- The suite with its own findings. -/
def nested : SuiteOptions where
  directory := "suite"
  manifest := "golden.toml"
  maxFileSize := 1000

theorem result_readText_golden :
    result (.nested golden same text?) (World.readText "golden.toml") = .ok golden :=
  InTree.result_readText (by cases same <;> cases text? <;> rfl)

theorem result_loadManifest_nested {tables : List FixtureTable} {m : Manifest}
    (htables : Manifest.tablesOf? golden = some tables) (hm : Manifest.ofTables tables = .ok m) :
    result (.nested golden same text?) nested.loadManifest.run = .ok m :=
  nested.result_loadManifest _ result_readText_golden ((Manifest.parse_eq htables).trans hm)

theorem nameOf_upper (same : Bool) :
    nested.nameOf ("suite/" ++ FileTree.upperName same) = FileTree.upperName same := by
  cases same <;> decide +kernel

theorem nameOf_lower : nested.nameOf "suite/sub/forward_null.c" = "sub/forward_null.c" := by
  decide +kernel

/-- The fixture without an entry has the category that its name begins with. -/
theorem result_loadFixture_upper {m : Manifest} (hm : m.get? (FileTree.upperName same) = none) :
    result (.nested golden same text?)
      (nested.loadFixture m ("suite/" ++ FileTree.upperName same)).run = .ok (.upper same) := by
  have hbytes : result (.nested golden same text?)
      (Fixture.readLimited ("suite/" ++ FileTree.upperName same) 1000).run =
        .ok C.Source.withoutDefect.text.toUTF8.data.toList := by
    cases same <;> cases text? <;> rfl
  have hne : C.Source.withoutDefect.text ≠ C.Source.withDefect.text := by decide
  have hparse : C.Source.lookUp C.Source.withoutDefect.text = .withoutDefect :=
    (if_neg hne).trans (if_pos rfl)
  unfold loadFixture
  rw [nameOf_upper, hm]
  refine Fixture.result_load_iff.mpr ⟨_, hbytes, .forwardNull, by cases same <;> rfl, ?_⟩
  rw [InTree.result_parseBytes (by decide +kernel) (by decide +kernel)]
  exact congrArg (Fixture.mk _ _ _ _ · _) hparse

/-- The fixture with an entry has the category that the entry says. -/
theorem result_loadFixture_lower {m : Manifest}
    (hm : m.get? "sub/forward_null.c" = some .below) :
    result (.nested golden same text?)
      (nested.loadFixture m "suite/sub/forward_null.c").run = .ok .lower := by
  have hbytes : result (.nested golden same text?)
      (Fixture.readLimited "suite/sub/forward_null.c" 1000).run =
        .ok C.Source.withDefect.text.toUTF8.data.toList := by
    cases same <;> cases text? <;> rfl
  have hparse : C.Source.lookUp C.Source.withDefect.text = .withDefect := if_pos rfl
  unfold loadFixture
  rw [nameOf_lower, hm]
  refine Fixture.result_load_iff.mpr ⟨_, hbytes, .forwardNull, rfl, ?_⟩
  rw [InTree.result_parseBytes (by decide +kernel) (by decide +kernel)]
  exact congrArg (Fixture.mk _ _ _ _ · _) hparse

end SuiteOptions

/-- What is reported about the fixtures: nothing in one, and the defect that is expected in the
other. -/
def FixtureResult.upper (same : Bool) : FixtureResult :=
  ⟨FileTree.upperName same, some .forwardNull, [], [], [], [], none⟩

def FixtureResult.lower : FixtureResult :=
  ⟨"sub/forward_null.c", some .forwardNull, [.inFile "sub/forward_null.c"],
    [⟨"sub/forward_null.c", "f", 3, .forwardNull⟩], [], [], none⟩

namespace SuiteOptions

variable {m : Manifest}

theorem report_upper (hm : m.get? (FileTree.upperName same) = none) :
    (result (.nested golden same text?)
      (nested.attempt m ("suite/" ++ FileTree.upperName same))).report m none = .upper same := by
  have hexpected : m.expectedIn (FileTree.upperName same) = [] := by
    unfold Manifest.expectedIn
    rw [hm]
    rfl
  have hcounted : (result (.nested golden same text?) (nested.examine (.upper same))).counted none
      (FileTree.upperName same) = [] :=
    (nested.findings_examine rfl _).trans (CheckOptions.checkSource_withoutDefect _)
  have hsort : Finding.sort [] = [] := List.mergeSort_nil
  rw [report_of_load (result_loadFixture_upper hm), nameOf_upper, hexpected, hcounted, hsort]
  rfl

theorem report_lower (hm : m.get? "sub/forward_null.c" = some .below) :
    (result (.nested golden same text?)
      (nested.attempt m "suite/sub/forward_null.c")).report m none = .lower := by
  have hexpected : m.expectedIn "sub/forward_null.c" = ManifestEntry.below.expected := by
    unfold Manifest.expectedIn
    rw [hm]
    rfl
  have hcounted : (result (.nested golden same text?) (nested.examine .lower)).counted none
      "sub/forward_null.c" = [.inFile "sub/forward_null.c"] :=
    (nested.findings_examine rfl _).trans (CheckOptions.checkSource_withDefect _)
  have hsort : Finding.sort [.inFile "sub/forward_null.c"] = [.inFile "sub/forward_null.c"] :=
    List.mergeSort_singleton _
  rw [report_of_load (result_loadFixture_lower hm), nameOf_lower, hexpected, hcounted, hsort]
  rfl

theorem fixtures_report_nested (hupper : m.get? (FileTree.upperName same) = none)
    (hlower : m.get? "sub/forward_null.c" = some .below) :
    (nested.report m none ((FileTree.nestedPaths same).map fun path =>
        result (.nested golden same text?) (nested.attempt m path))).fixtures =
      [.upper same, .lower] :=
  congrArg₂ (fun x y => [x, y]) (report_upper hupper) (report_lower hlower)

theorem run_passed_iff_withGoneFixture :
    let o := nested
    let s : Session := .nested (FileTree.belowText ++ FileTree.goneText) false none
    let paths := FileTree.nestedPaths false
    result s o.loadManifest.run = .ok .withGoneFixture ∧
      result s (discover o.directory).run = .ok paths ∧
      result s o.importFindings.run = .ok none ∧ (paths.map o.nameOf).Nodup ∧
      ∃ r, result s o.run.run = .ok r ∧
        (r.passed = true ↔ o.Agrees s .withGoneFixture none paths) ∧
        r.Accounts .withGoneFixture ∧
        r.fixtures = [.upper false, .lower] ∧ r.orphaned = ["gone.c"] := by
  intro o s paths
  have hm : result s o.loadManifest.run = .ok .withGoneFixture :=
    result_loadManifest_nested Manifest.tablesOf?_withGoneText Manifest.ofTables_withGoneFixture
  have hpaths : result s (discover o.directory).run = .ok paths := result_discover_nested
  have hnames : (paths.map o.nameOf).Nodup := by decide +kernel
  have hupper : Manifest.withGoneFixture.get? (FileTree.upperName false) = none := rfl
  have hlower : Manifest.withGoneFixture.get? "sub/forward_null.c" = some .below := rfl
  obtain ⟨r, hr, hpassed, haccounts⟩ := run_passed_iff hm hpaths rfl hnames
  refine ⟨hm, hpaths, rfl, hnames, r, hr, hpassed, haccounts, ?_⟩
  obtain rfl := Except.ok.inj (hr.symm.trans (o.result_run hm hpaths rfl))
  refine ⟨?_, ?_⟩
  · exact fixtures_report_nested hupper hlower
  · rw [orphaned_report, Manifest.absentFrom_eq, map_file_attempts]
    decide +kernel

end SuiteOptions

end

end NullFlow
