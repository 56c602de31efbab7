import NullFlow.Proofs.Values
import NullFlow.Suite.Run

/-!
# What an accepted manifest is like

The entry of a file is found under its name, and it expects findings in that file only
(`Manifest.Filed`). The empty manifest is like that, and it stays so with every table that is added,
so every manifest that is read from a text is (`Manifest.filed_of_parse`). The entries are listed in
the order of their files, each of them once.
-/

namespace NullFlow

section

variable {ε α β : Type}

/-- What succeeds in two steps succeeds in each of them. -/
theorem exists_of_bind_eq_ok {x : Except ε α} {f : α → Except ε β} {b : β}
    (h : x >>= f = .ok b) : ∃ a, x = .ok a ∧ f a = .ok b := by
  cases x with
  | error e => cases h
  | ok a => exact ⟨a, rfl, h⟩

/-- What is made of the elements of a list is made of one of them each. -/
theorem exists_of_mem_mapM {f : α → Except ε β} {as : List α} {bs : List β} {b : β}
    (h : as.mapM f = .ok bs) (hb : b ∈ bs) : ∃ a ∈ as, f a = .ok b := by
  induction as generalizing bs with
  | nil =>
    cases h
    cases hb
  | cons a as ih =>
    rw [List.mapM_cons] at h
    obtain ⟨c, hc, h⟩ := exists_of_bind_eq_ok h
    obtain ⟨cs, hcs, h⟩ := exists_of_bind_eq_ok h
    cases h
    rcases List.mem_cons.mp hb with rfl | hb
    · exact ⟨a, List.mem_cons_self, hc⟩
    · obtain ⟨a', ha', hf⟩ := ih hcs hb
      exact ⟨a', List.mem_cons_of_mem a ha', hf⟩

/-- What every step keeps is kept by all steps. -/
theorem foldlM_induction {P : β → Prop} {f : β → α → Except ε β}
    (hstep : ∀ ⦃b c a⦄, P b → f b a = .ok c → P c) {as : List α} {b c : β} (hb : P b)
    (h : as.foldlM f b = .ok c) : P c := by
  induction as generalizing b with
  | nil =>
    cases h
    exact hb
  | cons a as ih =>
    rw [List.foldlM_cons] at h
    obtain ⟨d, hd, h⟩ := exists_of_bind_eq_ok h
    exact ih (hstep hb hd) h

end

/-- **Every entry stands under the name of its file**, and what it expects is in that file. -/
def Manifest.Filed (m : Manifest) : Prop :=
  ∀ ⦃file : String⦄ ⦃e : ManifestEntry⦄, m.get? file = some e →
    e.file = file ∧ ∀ x ∈ e.expected, x.file = file

namespace Manifest

variable {m n : Manifest} {file : String} {e : ManifestEntry} {t : FixtureTable}

/-! ## Reading -/

theorem file_of_expected {c : Category} {table : ExpectedTable} {x : Expected}
    (h : expected file c table = .ok x) : x.file = file := by
  unfold expected at h
  extract_lets found at h
  have hfound (c : Category) (h : found c = .ok x) : x.file = file := by
    unfold found at h
    split at h
    · cases h
    · cases h
      rfl
  split at h
  all_goals
    obtain ⟨c', -, h⟩ := exists_of_bind_eq_ok h
    exact hfound c' h

theorem file_of_entry (h : entry t = .ok e) :
    e.file = t.file ∧ ∀ x ∈ e.expected, x.file = t.file := by
  obtain ⟨c, -, h⟩ := exists_of_bind_eq_ok h
  obtain ⟨es, hes, h⟩ := exists_of_bind_eq_ok h
  cases h
  refine ⟨rfl, fun x hx => ?_⟩
  obtain ⟨table, -, htable⟩ := exists_of_mem_mapM hes (List.mem_mergeSort.mp hx)
  exact file_of_expected htable

theorem filed_empty : Filed {} := by
  intro file e h
  cases Std.ExtTreeMap.getElem?_empty.symm.trans h

/-- **A table that is added keeps everything in its place.** -/
theorem Filed.add (hm : m.Filed) (h : m.add t = .ok n) : n.Filed := by
  unfold Manifest.add at h
  split at h
  · cases h
  obtain ⟨new, hnew, h⟩ := exists_of_bind_eq_ok h
  cases h
  intro file e he
  have hget : (m.entries.insert t.file new)[file]? = some e := he
  rw [Std.ExtTreeMap.getElem?_insert] at hget
  split at hget
  · next heq =>
    cases hget
    rw [← Std.LawfulEqCmp.compare_eq_iff_eq.mp heq]
    exact file_of_entry hnew
  · exact hm hget

/-- A text with tables is read as the manifest made of them. -/
theorem parse_eq {text : String} {tables : List FixtureTable} (h : tablesOf? text = some tables) :
    parse text = ofTables tables := by
  unfold parse
  rw [h]

/-- **A manifest that is read has everything in its place.** -/
theorem filed_of_parse {text : String} (h : parse text = .ok m) : m.Filed := by
  unfold parse at h
  split at h
  · exact foldlM_induction (fun _ _ _ hb => hb.add) filed_empty h
  · cases h

/-! ## Listing -/

theorem mem_toList : e ∈ m.toList ↔ ∃ file, m.get? file = some e := mem_values

/-- The entries that are listed are those of the files. -/
theorem Filed.mem_toList_iff (hm : m.Filed) : e ∈ m.toList ↔ m.get? e.file = some e := by
  constructor
  · intro h
    obtain ⟨file, hfile⟩ := mem_toList.mp h
    rwa [(hm hfile).1]
  · exact fun h => mem_toList.mpr ⟨_, h⟩

/-- **The files of the entries are the keys.** -/
theorem Filed.map_file_toList (hm : m.Filed) : m.toList.map (·.file) = m.entries.keys := by
  unfold toList
  rw [values_eq_map, List.map_map, ← Std.ExtTreeMap.map_fst_toList_eq_keys]
  refine List.map_congr_left fun p hp => (hm ?_).1
  exact Std.ExtTreeMap.mem_toList_iff_getElem?_eq_some.mp hp

theorem Filed.nodup_files (hm : m.Filed) : (m.toList.map (·.file)).Nodup := by
  rw [hm.map_file_toList]
  exact Std.ExtTreeMap.nodup_keys

theorem Filed.expectedIn_file (hm : m.Filed) (he : e ∈ m.toList) :
    m.expectedIn e.file = e.expected := by
  unfold expectedIn
  rw [hm.mem_toList_iff.mp he]
  rfl

theorem Filed.file_of_mem_expectedIn (hm : m.Filed) {x : Expected} (hx : x ∈ m.expectedIn file) :
    x.file = file := by
  unfold expectedIn at hx
  cases he : m.get? file with
  | none =>
    rw [he] at hx
    cases hx
  | some e =>
    rw [he] at hx
    exact (hm he).2 x hx

theorem expectedIn_of_get?_eq_none (h : m.get? file = none) : m.expectedIn file = [] := by
  unfold expectedIn
  rw [h]
  rfl

end Manifest

end NullFlow
