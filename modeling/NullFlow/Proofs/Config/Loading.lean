import NullFlow.Config.Load
import NullFlow.Proofs.World.Steady

/-!
# Which configuration is loaded

The file that decides is the first regular file among those that are considered
(`Config.ChosenFrom`); without any the defaults do. On top of it comes what the environment says,
and the outcome has to be accepted (`Config.TakesEffect`). Loading succeeds with a configuration if
and only if it takes effect on what is chosen so, and if there is anything at the path that the user
names, if the user names one (`ConfigSources.load_ok_iff`).

This does not make sure that the named file is what is loaded. There has to be something at its
path, but it need not be a regular file: a directory is passed over, and so are devices, pipes and
sockets, and the defaults take effect as if the user had named nothing
(`ConfigSources.load_explicit_iff`).
-/

namespace NullFlow

open InTree (Steady result)

variable {s : Session} {path : String} {lookup : String → Option String} {base c : Config}

/-! ## What stands at a path -/

namespace FileTree

/-- **A regular file with these bytes** is at a path. -/
def HasFile (t : FileTree) (path : String) (bytes : List UInt8) : Prop :=
  t.locate path = .ok (.file bytes)

/-- Something is at a path. -/
def HasEntry (t : FileTree) (path : String) : Prop := ∃ e, t.locate path = .ok e

/-- Nothing but the bytes of a file is read from it. -/
theorem HasFile.bytes_eq {t : FileTree} {bytes bytes' : List UInt8} (h : t.HasFile path bytes)
    (hread : t.read path = .ok bytes') : bytes = bytes' := by
  unfold FileTree.read at hread
  rw [show t.locate path = .ok (.file bytes) from h] at hread
  cases hplace : t.place path with
  | error fault =>
    rw [hplace] at hread
    cases hread
  | ok place =>
    rw [hplace] at hread
    by_cases hlocked : place ∈ t.locked
    · cases (if_pos hlocked).symm.trans hread
    · exact Except.ok.inj ((if_neg hlocked).symm.trans hread)

end FileTree

theorem InTree.result_exists?_iff :
    result s (World.exists? path) = true ↔ s.files.HasEntry path := by
  show (s.files.status path).toOption.isSome = true ↔ ∃ e, s.files.locate path = .ok e
  unfold FileTree.status
  cases s.files.locate path with
  | error fault => exact iff_of_false Bool.false_ne_true fun ⟨_, h⟩ => by cases h
  | ok e => exact iff_of_true rfl ⟨e, rfl⟩

/-- What answers as a regular file is one. -/
theorem FileTree.exists_status_eq_file_iff {t : FileTree} :
    (∃ size, t.status path = .ok (.file size)) ↔ ∃ bytes, t.HasFile path bytes := by
  unfold FileTree.status FileTree.HasFile
  rcases t.locate path with fault | bytes | _ | _
  case ok.file => exact iff_of_true ⟨_, rfl⟩ ⟨bytes, rfl⟩
  all_goals exact iff_of_false nofun nofun

theorem InTree.result_isFile_iff :
    result s (World.isFile path) = true ↔ ∃ bytes, s.files.HasFile path bytes := by
  rw [← FileTree.exists_status_eq_file_iff]
  show _ ↔ ∃ size, result s (World.status path) = .ok (.file size)
  unfold World.isFile
  rw [InTree.result_bind]
  rcases result s (World.status path) with fault | size | _ | _
  case ok.file => exact iff_of_true rfl ⟨size, rfl⟩
  all_goals exact iff_of_false Bool.false_ne_true nofun

namespace Config

/-! ## What a file says -/

/-- **A file says a configuration**: its bytes are a text, and the configuration is read from it. -/
def WrittenIn (base : Config) (bytes : List UInt8) : Prop :=
  ∃ text, String.fromUTF8? ⟨bytes.toArray⟩ = some text ∧ parse? text = some base

/-- **The first regular file says the configuration**, and it can be read; or there is none and it
is the default. -/
inductive ChosenFrom (t : FileTree) : List String → Config → Prop
  | file {path : String} {more : List String} {bytes : List UInt8} {base : Config}
    (hfile : t.HasFile path bytes) (hread : t.read path = .ok bytes)
    (hwritten : base.WrittenIn bytes) : ChosenFrom t (path :: more) base
  | next {path : String} {more : List String} {base : Config}
    (hnone : ∀ bytes, ¬ t.HasFile path bytes) (hmore : ChosenFrom t more base) :
    ChosenFrom t (path :: more) base
  | default : ChosenFrom t [] {}

theorem chosenFrom_singleton {t : FileTree} : base.ChosenFrom t [path] ↔
    (∃ bytes, t.HasFile path bytes ∧ t.read path = .ok bytes ∧ base.WrittenIn bytes) ∨
      (∀ bytes, ¬ t.HasFile path bytes) ∧ base = {} := by
  constructor
  · rintro (⟨hfile, hread, hwritten⟩ | ⟨hnone, ⟨⟩⟩)
    · exact Or.inl ⟨_, hfile, hread, hwritten⟩
    · exact Or.inr ⟨hnone, rfl⟩
  · rintro (⟨bytes, hfile, hread, hwritten⟩ | ⟨hnone, rfl⟩)
    · exact .file hfile hread hwritten
    · exact .next hnone .default

/-- **A configuration takes effect**: it is what the environment makes of another one, and it is
accepted. -/
structure TakesEffect (base : Config) (lookup : String → Option String) (c : Config) : Prop where
  override : base.override lookup = .ok c
  check : c.check = .ok ()

end Config

namespace ConfigSources

/-! ## Reading a file -/

/-- What is done with a text, or with the reason why there is none. -/
def ofReading (path : String) : Except ReadFault String → ExceptT Failure InTree Config
  | .error fault => throw (.unreadableConfig path fault)
  | .ok text => match Config.parse? text with
    | some c => return c
    | none => throw (.malformedConfig path)

theorem steady_ofReading (path : String) (r : Except ReadFault String) :
    Steady (ofReading path r).run := by
  unfold ofReading
  split
  · exact .throw _
  · split
    · exact .ok _
    · exact .throw _

theorem result_ofReading_iff {r : Except ReadFault String} :
    result s (ofReading path r).run = .ok base ↔
      ∃ text, r = .ok text ∧ Config.parse? text = some base := by
  unfold ofReading
  cases r with
  | error fault => exact iff_of_false (fun h => by cases h) fun ⟨_, h, _⟩ => by cases h
  | ok text =>
    simp only [Except.ok.injEq, exists_eq_left']
    cases Config.parse? text with
    | none => exact iff_of_false (fun h => by cases h) fun h => by cases h
    | some found => exact ⟨fun h => by cases h; rfl, fun h => by cases h; rfl⟩

theorem readConfig_eq (path : String) :
    readConfig path = liftM (World.readText (m := InTree) path) >>= ofReading path := rfl

theorem steady_readConfig (path : String) : Steady (readConfig path).run :=
  (Steady.lift (.readText path)).bindExcept (steady_ofReading path)

/-- **A configuration is read** if the bytes can be read and it is what they say. -/
theorem result_readConfig_iff : result s (readConfig path).run = .ok base ↔
    ∃ bytes, s.files.read path = .ok bytes ∧ base.WrittenIn bytes := by
  rw [readConfig_eq, (Steady.lift (.readText path)).result_bindExcept (steady_ofReading path)
    InTree.result_lift, result_ofReading_iff]
  cases hread : s.files.read path with
  | error fault =>
    rw [InTree.result_readText_of_error hread]
    exact iff_of_false (fun ⟨_, h, _⟩ => by cases h) fun ⟨_, h, _⟩ => by cases h
  | ok bytes =>
    rw [InTree.result_readText_of_read hread]
    simp only [Except.ok.injEq, exists_eq_left']
    refine exists_congr fun text => and_congr_left fun _ => ?_
    split
    · next text' htext => rw [htext, Except.ok.injEq, Option.some.injEq]
    · next hnone => exact iff_of_false (fun h => by cases h) fun h => by cases hnone.symm.trans h

theorem steady_firstFile? (paths : List String) :
    Steady (firstFile? paths : InTree (Option String)) := by
  induction paths with
  | nil => exact .pure _
  | cons path more ih =>
    refine (Steady.isFile path).bind fun isFile => ?_
    split
    · exact .pure _
    · exact ih

theorem result_firstFile?_cons {more : List String} :
    result s (firstFile? (path :: more)) =
      if result s (World.isFile path) = true then some path else result s (firstFile? more) := by
  have hmore (isFile : Bool) : Steady (if isFile = true then pure (some path)
      else firstFile? more : InTree (Option String)) := by
    split
    · exact .pure _
    · exact steady_firstFile? more
  rw [firstFile?, (Steady.isFile path).result_bind hmore]
  split <;> rfl

/-- The configuration in the file that was found, or the default one. -/
def readFound : Option String → ExceptT Failure InTree Config
  | some path => readConfig path
  | none => return {}

theorem steady_readFound (path? : Option String) : Steady (readFound path?).run := by
  cases path? with
  | none => exact .ok _
  | some path => exact steady_readConfig path

/-- The configuration in the first regular file, or the default one. -/
def readFirst (paths : List String) : ExceptT Failure InTree Config :=
  liftM (firstFile? (m := InTree) paths) >>= readFound

theorem steady_readFirst (paths : List String) : Steady (readFirst paths).run :=
  (Steady.lift (steady_firstFile? paths)).bindExcept steady_readFound

theorem result_readFirst {paths : List String} : result s (readFirst paths).run =
    result s (readFound (result s (firstFile? paths))).run :=
  (Steady.lift (steady_firstFile? paths)).result_bindExcept steady_readFound InTree.result_lift

/-- **The first regular file is what is read.** -/
theorem result_readFirst_iff {paths : List String} :
    result s (readFirst paths).run = .ok base ↔ base.ChosenFrom s.files paths := by
  induction paths with
  | nil => exact ⟨fun h => by cases h; exact .default, fun h => by cases h; rfl⟩
  | cons path more ih =>
    rw [result_readFirst, result_firstFile?_cons]
    by_cases hfile : ∃ bytes, s.files.HasFile path bytes
    · rw [if_pos (InTree.result_isFile_iff.mpr hfile)]
      obtain ⟨bytes, hfile⟩ := hfile
      refine result_readConfig_iff.trans ⟨fun ⟨bytes', hread, hwritten⟩ => ?_, fun h => ?_⟩
      · cases hfile.bytes_eq hread
        exact .file hfile hread hwritten
      · cases h with
        | file _ hread hwritten => exact ⟨_, hread, hwritten⟩
        | next hnone _ => exact absurd hfile (hnone bytes)
    · rw [if_neg fun h => hfile (InTree.result_isFile_iff.mp h), ← result_readFirst, ih]
      refine ⟨.next fun bytes h => hfile ⟨bytes, h⟩, fun h => ?_⟩
      cases h with
      | file hfile' _ _ => exact absurd ⟨_, hfile'⟩ hfile
      | next _ hmore => exact hmore

/-! ## What the environment says -/

theorem steady_liftExcept {α : Type} (r : Except Failure α) :
    Steady (load.liftExcept r : ExceptT Failure InTree α).run := .pure r

/-- Another error makes no difference to what succeeds. -/
theorem result_liftExcept_iff {α ε : Type} {r : Except ε α} {f : ε → Failure} {a : α} :
    result s (load.liftExcept (r.mapError f) : ExceptT Failure InTree α).run = .ok a ↔
      r = .ok a := by
  show r.mapError f = .ok a ↔ _
  cases r with
  | error e => exact iff_of_false (fun h => by cases h) fun h => by cases h
  | ok b => exact ⟨fun h => by cases h; rfl, fun h => by cases h; rfl⟩

/-- A configuration, if it is accepted. -/
def accept (c : Config) : ExceptT Failure InTree Config := do
  load.liftExcept (c.check.mapError .badConfig)
  return c

theorem steady_accept (c : Config) : Steady (accept c).run :=
  (steady_liftExcept _).bindExcept fun _ => .ok c

theorem result_accept_iff {c' : Config} :
    result s (accept c').run = .ok c ↔ c'.check = .ok () ∧ c' = c := by
  unfold accept
  rw [(steady_liftExcept _).result_bindExcept_iff fun _ => .ok c']
  simp only [result_liftExcept_iff]
  constructor
  · rintro ⟨_, hcheck, ⟨⟩⟩
    exact ⟨hcheck, rfl⟩
  · rintro ⟨hcheck, rfl⟩
    exact ⟨(), hcheck, rfl⟩

/-- What a configuration becomes in an environment, if that is accepted. -/
def settle (lookup : String → Option String) (base : Config) : ExceptT Failure InTree Config :=
  load.liftExcept ((base.override lookup).mapError .badEnvironment) >>= accept

theorem steady_settle (lookup : String → Option String) (base : Config) :
    Steady (settle lookup base).run := (steady_liftExcept _).bindExcept steady_accept

theorem result_settle_iff :
    result s (settle lookup base).run = .ok c ↔ base.TakesEffect lookup c := by
  unfold settle
  rw [(steady_liftExcept _).result_bindExcept_iff steady_accept]
  simp only [result_liftExcept_iff, result_accept_iff]
  constructor
  · rintro ⟨_, hover, hcheck, rfl⟩
    exact ⟨hover, hcheck⟩
  · rintro ⟨hover, hcheck⟩
    exact ⟨c, hover, hcheck, rfl⟩

/-! ## Loading -/

/-- Refuses a path with nothing there. -/
def demand (path : String) : ExceptT Failure InTree Unit := do
  if ← World.exists? (m := InTree) path then return () else throw (.noConfig path)

theorem result_demand : result s (demand path).run =
    if result s (World.exists? path) = true then .ok () else .error (.noConfig path) := by
  unfold demand
  rw [InTree.result_bindExcept, InTree.result_lift]
  show result s (if result s (World.exists? path) = true then pure () else
    throw (.noConfig path) : ExceptT Failure InTree Unit).run = _
  split <;> rfl

theorem steady_demand (path : String) : Steady (demand path).run := by
  refine (Steady.lift (.exists? path)).bindExcept fun found => ?_
  split
  · exact .ok _
  · exact .throw _

theorem result_demand_iff : result s (demand path).run = .ok () ↔ s.files.HasEntry path := by
  rw [← InTree.result_exists?_iff, result_demand]
  split
  · next h => exact iff_of_true rfl h
  · next h => exact iff_of_false (fun h => by cases h) h

/-- **Loading in three steps**: what is named has to be there, the first file is read, and the
environment is heard. -/
theorem load_eq (src : ConfigSources) (lookup : String → Option String) :
    src.load lookup = src.explicit.forM demand >>= fun _ =>
      readFirst src.candidates >>= settle lookup := by
  have hrest : readFirst src.candidates >>= settle lookup =
      liftM (firstFile? (m := InTree) src.candidates) >>= fun
        | some path => readConfig path >>= settle lookup
        | none => pure {} >>= settle lookup := by
    unfold readFirst
    rw [bind_assoc]
    refine bind_congr fun path? => ?_
    cases path? with
    | none => rfl
    | some path => rfl
  rw [hrest]
  unfold load
  cases src.explicit with
  | none => rfl
  | some path =>
    show _ = demand path >>= _
    unfold demand
    rw [bind_assoc]
    refine bind_congr fun found => ?_
    cases found with
    | false => rfl
    | true => rfl

/-- **What is loaded** takes effect on what the first regular file says, or on the defaults, and
there is something at the path that the user names. -/
theorem load_ok_iff {src : ConfigSources} : result s (src.load lookup).run = .ok c ↔
    (∀ path ∈ src.explicit, s.files.HasEntry path) ∧
      ∃ base : Config, base.ChosenFrom s.files src.candidates ∧ base.TakesEffect lookup c := by
  have hrest : Steady (readFirst src.candidates >>= settle lookup).run :=
    (steady_readFirst _).bindExcept (steady_settle lookup)
  have hnamed : Steady (src.explicit.forM demand).run := by
    cases src.explicit with
    | none => exact .ok _
    | some path => exact steady_demand path
  have hthere : result s (src.explicit.forM demand).run = .ok () ↔
      ∀ path ∈ src.explicit, s.files.HasEntry path := by
    cases src.explicit with
    | none => exact iff_of_true rfl fun _ h => by cases h
    | some path =>
      refine result_demand_iff.trans ⟨fun h _ hpath => ?_, fun h => h path rfl⟩
      exact Option.some.inj hpath ▸ h
  rw [load_eq, hnamed.result_bindExcept_iff fun _ => hrest, ← hthere]
  simp only [(steady_readFirst _).result_bindExcept_iff (steady_settle lookup),
    result_readFirst_iff, result_settle_iff]
  exact ⟨fun ⟨_, h, hc⟩ => ⟨h, hc⟩, fun ⟨h, hc⟩ => ⟨(), h, hc⟩⟩

/-- **With a file that the user names**, what is loaded depends on what stands at its path. A
regular file decides alone: it can be read, it says a configuration, and what is loaded takes effect
on this. A directory, a device, a pipe and a socket are passed over, whether they can be read or
not: what is loaded takes effect on the defaults. Where there is nothing, nothing is loaded, and the
same holds for a regular file that cannot be read or says no configuration. The directory of the
project and the user's own file make no difference. -/
theorem load_explicit_iff {projectDir : String} {userConfig : Option String} :
    result s (load ⟨some path, projectDir, userConfig⟩ lookup).run = .ok c ↔
      (∃ (bytes : List UInt8) (base : Config), s.files.locate path = .ok (.file bytes) ∧
        s.files.read path = .ok bytes ∧ base.WrittenIn bytes ∧ base.TakesEffect lookup c) ∨
      (s.files.locate path = .ok .directory ∨
        ∃ bytes, s.files.locate path = .ok (.special bytes)) ∧
        Config.TakesEffect {} lookup c := by
  rw [load_ok_iff]
  constructor
  · rintro ⟨hentry, base, hchosen, hc⟩
    rcases Config.chosenFrom_singleton.mp hchosen with
      ⟨bytes, hfile, hread, hwritten⟩ | ⟨hnone, rfl⟩
    · exact Or.inl ⟨bytes, base, hfile, hread, hwritten, hc⟩
    · obtain ⟨e, he⟩ := hentry path rfl
      cases e with
      | file bytes => exact absurd he (hnone bytes)
      | directory => exact Or.inr ⟨Or.inl he, hc⟩
      | special bytes => exact Or.inr ⟨Or.inr ⟨bytes, he⟩, hc⟩
  · have hpassed {e : Entry} (he : s.files.locate path = .ok e) (hno : ∀ bytes, e ≠ .file bytes)
        (hc : Config.TakesEffect {} lookup c) :
        (∀ p ∈ some path, s.files.HasEntry p) ∧
          ∃ base : Config, base.ChosenFrom s.files [path] ∧ base.TakesEffect lookup c :=
      ⟨fun _ h => Option.some.inj h ▸ ⟨e, he⟩, {},
        .next (fun bytes h => hno bytes (Except.ok.inj (he.symm.trans h))) .default, hc⟩
    rintro (⟨bytes, base, hfile, hread, hwritten, hc⟩ | ⟨hdirectory | ⟨bytes, hspecial⟩, hc⟩)
    · exact ⟨fun _ h => Option.some.inj h ▸ ⟨_, hfile⟩, base, .file hfile hread hwritten, hc⟩
    · exact hpassed hdirectory (fun _ h => by cases h) hc
    · exact hpassed hspecial (fun _ h => by cases h) hc

/-- A tree with a directory where a configuration is expected. -/
def treeWithDirectory : FileTree where
  entries := .ofList [(["conf"], Entry.directory)]

/-- The directory is named as the file with the configuration: no file is read, and the defaults are
loaded. -/
theorem load_explicit_directory :
    result { files := treeWithDirectory } (load ⟨some "conf", ".", none⟩ fun _ => none).run =
        .ok {} ∧
      ∀ bytes, treeWithDirectory.locate "conf" ≠ .ok (.file bytes) := by
  have hdirectory : treeWithDirectory.locate "conf" = .ok .directory := rfl
  refine ⟨?_, fun bytes h => by cases hdirectory.symm.trans h⟩
  rfl

end ConfigSources

end NullFlow
