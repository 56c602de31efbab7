import NullFlow.World.FileTree

/-!
# Actions that change no file

What an action in a file tree gives (`InTree.result`) depends on the session it runs in, and it may
leave another session behind. An action is **steady** if it leaves the surroundings alone and if its
result depends on nothing else: what was measured before makes no difference. Reading, parsing,
measuring and everything that is made of steady actions is steady, and steady actions that run one
after the other give what each of them gives alone (`InTree.Steady.result_bind`,
`InTree.Steady.result_mapM`).
-/

namespace NullFlow.InTree

variable {α β ε : Type} {x : InTree α} {f : α → InTree β} {s : Session}

/-- **What an action gives** in a session. -/
def result (s : Session) (x : InTree α) : α := (x.run s).1

/-- **An action that leaves the surroundings alone**, and whose result depends on nothing else. -/
structure Steady (x : InTree α) : Prop where
  surroundings (s : Session) : (x.run s).2.toSurroundings = s.toSurroundings
  result_eq ⦃s t : Session⦄ (h : s.toSurroundings = t.toSurroundings) : result s x = result t x

/-- What follows on an action runs where that action leads. -/
theorem result_bind : result s (x >>= f) = result (x.run s).2 (f (result s x)) := rfl

namespace Steady

theorem pure (a : α) : Steady (pure a) := ⟨fun _ => rfl, fun _ _ _ => rfl⟩

/-- **Of steady actions the second one gives what it gives alone.** -/
theorem result_bind (hx : Steady x) (hf : ∀ a, Steady (f a)) :
    result s (x >>= f) = result s (f (result s x)) := (hf _).result_eq (hx.surroundings s)

theorem bind (hx : Steady x) (hf : ∀ a, Steady (f a)) : Steady (x >>= f) where
  surroundings s := ((hf _).surroundings _).trans (hx.surroundings s)
  result_eq s t h := by
    rw [hx.result_bind hf, hx.result_bind hf, hx.result_eq h]
    exact (hf _).result_eq h

/-- Steady actions, one for each element of a list. -/
theorem mapM {g : β → InTree α} (hg : ∀ b, Steady (g b)) (bs : List β) : Steady (bs.mapM g) := by
  induction bs with
  | nil => exact .pure _
  | cons b bs ih =>
    rw [List.mapM_cons]
    exact (hg b).bind fun a => ih.bind fun as => .pure _

/-- **Steady actions for the elements of a list give what each of them gives alone.** -/
theorem result_mapM {g : β → InTree α} (hg : ∀ b, Steady (g b)) (bs : List β) :
    result s (bs.mapM g) = bs.map fun b => result s (g b) := by
  induction bs with
  | nil => rfl
  | cons b bs ih =>
    have hrest (a : α) : Steady (bs.mapM g >>= fun as => Pure.pure (a :: as)) :=
      (mapM hg bs).bind fun _ => .pure _
    rw [List.mapM_cons, (hg b).result_bind hrest, (mapM hg bs).result_bind fun _ => .pure _, ih]
    rfl

/-! ## What the world offers -/

theorem status (path : String) : Steady (World.status path) :=
  ⟨fun _ => rfl, fun _ _ h => congrArg (·.files.status path) h⟩

theorem read (path : String) : Steady (World.read path) :=
  ⟨fun _ => rfl, fun _ _ h => congrArg (·.files.read path) h⟩

theorem filesBelow (path : String) : Steady (World.filesBelow path) :=
  ⟨fun _ => rfl, fun _ _ h => congrArg (·.files.filesBelow path) h⟩

theorem parse (text : String) : Steady (World.parse text) :=
  ⟨fun _ => rfl, fun _ _ h => congrArg (·.parser text) h⟩

theorem parseBytes (bytes : List UInt8) : Steady (World.parseBytes bytes) := parse _

theorem changeMetrics (change : Metrics → Metrics) : Steady (World.changeMetrics change) :=
  ⟨fun _ => rfl, fun _ _ _ => rfl⟩

theorem timed (hx : Steady x) : Steady (World.timed x) := hx.bind fun _ => .pure _

theorem during (hx : Steady x) (phase : String) : Steady (World.during phase x) :=
  hx.timed.bind fun _ => (changeMetrics _).bind fun _ => .pure _

theorem isDirectory (path : String) : Steady (World.isDirectory path) :=
  (status path).bind fun _ => .pure _

theorem exists? (path : String) : Steady (World.exists? path) :=
  (status path).bind fun _ => .pure _

theorem isFile (path : String) : Steady (World.isFile path) := by
  refine (status path).bind fun r => ?_
  split <;> exact .pure _

theorem readText (path : String) : Steady (World.readText path) := by
  refine (read path).bind fun r => ?_
  split
  · exact .pure _
  · split <;> exact .pure _

end Steady

@[simp] theorem result_timed : result s (World.timed x) = (result s x, 0) := rfl

@[simp] theorem result_during (phase : String) : result s (World.during phase x) = result s x := rfl

/-- **Bytes are read as the text that they are**, if they are any. -/
theorem result_readText_of_read {path : String} {bytes : List UInt8}
    (h : s.files.read path = .ok bytes) :
    result s (World.readText path) = match String.fromUTF8? ⟨bytes.toArray⟩ with
      | some text => .ok text
      | none => .error .notText := by
  have hread : result s (World.read path) = .ok bytes := h
  unfold World.readText
  rw [result_bind, hread]
  dsimp only
  cases String.fromUTF8? ⟨bytes.toArray⟩ <;> rfl

/-- What cannot be read is no text. -/
theorem result_readText_of_error {path : String} {fault : ReadFault}
    (h : s.files.read path = .error fault) :
    result s (World.readText path) = .error fault := by
  have hread : result s (World.read path) = .error fault := h
  unfold World.readText
  rw [result_bind, hread]
  rfl

/-- **A file that holds a text is read as this text.** -/
theorem result_readText {path text : String}
    (h : s.files.read path = .ok text.toUTF8.data.toList) :
    result s (World.readText path) = .ok text := by
  have htext : String.fromUTF8? ⟨text.toUTF8.data.toList.toArray⟩ = some text :=
    dif_pos text.isValidUTF8
  rw [result_readText_of_read h, htext]

/-! ## Actions that may fail -/

section Fallible

variable {y : ExceptT ε InTree α} {g : α → ExceptT ε InTree β}

theorem Steady.ok (a : α) : Steady (ExceptT.run (Pure.pure a : ExceptT ε InTree α)) := .pure _

theorem Steady.throw (e : ε) : Steady (ExceptT.run (throw e : ExceptT ε InTree α)) := .pure _

theorem Steady.lift (hx : Steady x) : Steady (ExceptT.run (liftM x : ExceptT ε InTree α)) :=
  hx.bind fun _ => .pure _

@[simp] theorem result_lift :
    result s (ExceptT.run (liftM x : ExceptT ε InTree α)) = .ok (result s x) := rfl

theorem Steady.bindExcept (hy : Steady y.run) (hg : ∀ a, Steady (g a).run) :
    Steady (y >>= g).run := by
  have hcont (r : Except ε α) : Steady (ExceptT.bindCont g r : InTree (Except ε β)) := by
    cases r with
    | error e => exact .pure _
    | ok a => exact hg a
  exact Steady.bind hy hcont

@[simp] theorem result_mapExcept (h : α → β) :
    result s (h <$> y).run = (result s y.run).map h := by
  rw [ExceptT.run_map]
  rfl

theorem Steady.mapExcept (hy : Steady y.run) (h : α → β) : Steady (h <$> y).run := by
  rw [ExceptT.run_map, map_eq_pure_bind]
  exact hy.bind fun _ => .pure _

@[simp] theorem result_adapt {ε' : Type} (h : ε → ε') :
    result s (ExceptT.adapt h y).run = (result s y.run).mapError h := rfl

/-- What follows on an action that may fail runs where that action leads. -/
theorem result_bindExcept : result s (y >>= g).run =
    result (y.run.run s).2 (ExceptT.bindCont g (result s y.run)) := rfl

/-- **After a success the action that follows decides.** -/
theorem Steady.result_bindExcept {a : α} (hy : Steady y.run) (hg : ∀ a, Steady (g a).run)
    (h : result s y.run = .ok a) : result s (y >>= g).run = result s (g a).run := by
  rw [InTree.result_bindExcept, h]
  exact (hg a).result_eq (hy.surroundings s)

/-- **What succeeds in the end has succeeded in its first step**, and in the next one where that
led. -/
theorem exists_of_result_bindExcept {b : β} (h : result s (y >>= g).run = .ok b) :
    ∃ a t, result s y.run = .ok a ∧ result t (g a).run = .ok b := by
  rw [result_bindExcept] at h
  cases hr : result s y.run with
  | error e =>
    rw [hr] at h
    cases h
  | ok a =>
    rw [hr] at h
    exact ⟨a, _, rfl, h⟩

/-- What succeeds in the end has succeeded in both of its steps, if these are steady. -/
theorem Steady.exists_of_result_bindExcept {b : β} (hy : Steady y.run)
    (hg : ∀ a, Steady (g a).run) (h : result s (y >>= g).run = .ok b) :
    ∃ a, result s y.run = .ok a ∧ result s (g a).run = .ok b := by
  obtain ⟨a, -, ha, -⟩ := InTree.exists_of_result_bindExcept h
  exact ⟨a, ha, (hy.result_bindExcept hg ha).symm.trans h⟩

/-- **Steady actions succeed one after the other** if and only if each of them does. -/
theorem Steady.result_bindExcept_iff {b : β} (hy : Steady y.run) (hg : ∀ a, Steady (g a).run) :
    result s (y >>= g).run = .ok b ↔ ∃ a, result s y.run = .ok a ∧ result s (g a).run = .ok b :=
  ⟨hy.exists_of_result_bindExcept hg, fun ⟨_, ha, hb⟩ => (hy.result_bindExcept hg ha).trans hb⟩

end Fallible

end NullFlow.InTree
