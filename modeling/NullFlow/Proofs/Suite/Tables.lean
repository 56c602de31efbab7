import Mathlib.Data.List.Perm.Basic
import NullFlow.Proofs.Suite.Manifest

/-!
# Tables in any order

A manifest is made table by table, and the first fault ends the reading; so which fault is reported
depends on the order of the tables. Whether there is a fault does not, nor what the manifest holds
if there is none. Tables are accepted if and only if no two of them are of one file and each is in
order by itself (`FixtureTable.IsSound`), and then the entry of each is told by its table alone
(`FixtureTable.Describes`): the expected findings are sorted, and since their order tells any two
apart there is one way to sort them.
-/

namespace NullFlow

/-! ## The order of expected findings -/

namespace Expected

variable {e f : Expected}

instance : Std.TransCmp order :=
  inferInstanceAs <| Std.TransCmp <| compareLex (compareOn file) <|
    compareLex (compareOn function) <| compareLex (compareOn line) (compareOn (·.category.rank))

/-- **The order tells expected findings apart.** -/
theorem eq_of_order_eq (h : order e f = .eq) : e = f := by
  have hrank : e.category.rank = f.category.rank → e.category = f.category := by
    cases e.category <;> cases f.category <;> decide
  simp only [order, Ordering.then_eq_eq, Std.compare_eq_iff_eq] at h
  obtain ⟨hfile, hfunction, hline, hcategory⟩ := h
  cases e
  cases f
  simp_all

theorem order_total (e f : Expected) : ((order e f).isLE || (order f e).isLE) = true := by
  have hswap : order f e = (order e f).swap := Std.OrientedCmp.eq_swap
  rw [hswap]
  cases order e f <;> rfl

theorem pairwise_sort (es : List Expected) :
    (sort es).Pairwise fun e f => (order e f).isLE = true :=
  List.pairwise_mergeSort (fun _ _ _ => Std.TransCmp.isLE_trans) order_total es

/-- **There is one way to sort.** -/
theorem eq_of_perm_of_sorted {es fs : List Expected} (h : es.Perm fs)
    (hes : es.Pairwise fun e f => (order e f).isLE = true)
    (hfs : fs.Pairwise fun e f => (order e f).isLE = true) : es = fs :=
  h.eq_of_pairwise (fun _ _ _ _ hle hge => eq_of_order_eq (Std.OrientedCmp.isLE_antisymm hle hge))
    hes hfs

end Expected

/-! ## What a table says -/

namespace ExpectedTable

/-- **A table of an expected finding is in order**: its category can be read, if it has one, and its
finding is on a line. -/
structure IsSound (x : ExpectedTable) : Prop where
  category : ∀ text ∈ x.category, (Category.parse? text).isSome
  line : 1 ≤ x.line

/-- **The finding that the table expects**, with the file and the default category filled in. -/
def filled (file : String) (default : Category) (x : ExpectedTable) : Expected :=
  ⟨file, x.function, x.line, (x.category.bind Category.parse?).getD default⟩

end ExpectedTable

namespace FixtureTable

/-- **A table of a fixture is in order**: its category can be read, and so are the tables in it. -/
structure IsSound (t : FixtureTable) : Prop where
  category : (Category.parse? t.category).isSome
  expected : ∀ x ∈ t.expected, x.IsSound

/-- **A table describes an entry**: the entry has the file, the category and the digest of the
table, and the expected findings of the table in order. -/
structure Describes (t : FixtureTable) (e : ManifestEntry) : Prop where
  file : e.file = t.file
  category : Category.parse? t.category = some e.category
  digest : e.digest = t.digest.map fun d => String.ofList (d.toList.map Char.toLower)
  perm : e.expected.Perm (t.expected.map (·.filled t.file e.category))
  sorted : e.expected.Pairwise fun x y => (Expected.order x y).isLE = true

/-- **Tables that differ in the order of the tables inside.** -/
structure Reordered (t u : FixtureTable) : Prop where
  file : t.file = u.file
  category : t.category = u.category
  digest : t.digest = u.digest
  expected : t.expected.Perm u.expected

variable {t u : FixtureTable} {e e' : ManifestEntry}

/-- A table describes one entry only. -/
theorem Describes.unique (h : t.Describes e) (h' : t.Describes e') : e = e' := by
  have hcategory : e.category = e'.category := Option.some.inj (h.category.symm.trans h'.category)
  have hexpected : e.expected = e'.expected := by
    refine Expected.eq_of_perm_of_sorted ?_ h.sorted h'.sorted
    exact h.perm.trans (hcategory ▸ h'.perm.symm)
  have hfile := h.file.trans h'.file.symm
  have hdigest := h.digest.trans h'.digest.symm
  cases e
  cases e'
  simp_all

/-- The entry that a table describes if it has the given category. -/
theorem describes_filled (t : FixtureTable) {c : Category}
    (hc : Category.parse? t.category = some c) :
    t.Describes ⟨t.file, c, t.digest.map fun d => String.ofList (d.toList.map Char.toLower),
      Expected.sort (t.expected.map (·.filled t.file c))⟩ where
  file := rfl
  category := hc
  digest := rfl
  perm := List.mergeSort_perm _ _
  sorted := Expected.pairwise_sort _

/-- A table that is in order describes one. -/
theorem IsSound.exists_describes (h : t.IsSound) : ∃ e, t.Describes e := by
  obtain ⟨c, hc⟩ := Option.isSome_iff_exists.mp h.category
  exact ⟨_, t.describes_filled hc⟩

theorem Reordered.symm (h : t.Reordered u) : u.Reordered t :=
  ⟨h.file.symm, h.category.symm, h.digest.symm, h.expected.symm⟩

theorem Reordered.isSound (h : t.Reordered u) (hs : t.IsSound) : u.IsSound where
  category := h.category ▸ hs.category
  expected x hx := hs.expected x (h.expected.mem_iff.mpr hx)

theorem Reordered.describes (h : t.Reordered u) (hd : t.Describes e) : u.Describes e where
  file := hd.file.trans h.file
  category := h.category ▸ hd.category
  digest := h.digest ▸ hd.digest
  perm := h.file ▸ hd.perm.trans (h.expected.map _)
  sorted := hd.sorted

/-- **The same tables in another order**, with the tables inside of each in another order too. -/
def AllReordered (tables tables' : List FixtureTable) : Prop :=
  ∃ between, List.Forall₂ Reordered tables between ∧ between.Perm tables'

namespace AllReordered

variable {tables tables' : List FixtureTable}

theorem symm (h : AllReordered tables tables') : AllReordered tables' tables := by
  obtain ⟨between, hbetween, hperm⟩ := h
  refine List.perm_comp_forall₂ hperm.symm ?_
  exact List.Forall₂.flip (hbetween.imp fun _ _ => Reordered.symm)

/-- The files are the same in another order. -/
theorem perm_files (h : AllReordered tables tables') :
    (tables.map (·.file)).Perm (tables'.map (·.file)) := by
  obtain ⟨between, hbetween, hperm⟩ := h
  have hfiles : tables.map (·.file) = between.map (·.file) := by
    clear hperm
    induction hbetween with
    | nil => rfl
    | cons htu _ ih => rw [List.map_cons, List.map_cons, htu.file, ih]
  exact hfiles ▸ hperm.map _

/-- Every table is there in both orders. -/
theorem exists_mem (h : AllReordered tables tables') (hu : u ∈ tables') :
    ∃ t ∈ tables, t.Reordered u := by
  obtain ⟨between, hbetween, hperm⟩ := h
  have hmem := hperm.mem_iff.mpr hu
  clear hperm
  induction hbetween with
  | nil => cases hmem
  | cons htu _ ih =>
    rcases List.mem_cons.mp hmem with rfl | hmem
    · exact ⟨_, List.mem_cons_self, htu⟩
    · obtain ⟨t, ht, htu⟩ := ih hmem
      exact ⟨t, List.mem_cons_of_mem _ ht, htu⟩

end AllReordered

end FixtureTable

namespace Manifest

variable {m n k : Manifest} {t : FixtureTable} {e : ManifestEntry}
  {tables tables' : List FixtureTable} {file file' : String}

theorem category_eq_ok_iff {text : String} {c : Category} :
    category text = .ok c ↔ Category.parse? text = some c := by
  unfold category
  split
  · next c' h => rw [h, Except.ok.injEq, Option.some.injEq]
  · next h => simp [h]

/-- **A table of an expected finding is accepted exactly if it is in order.** -/
theorem expected_eq_ok_iff {default : Category} {x : ExpectedTable} {y : Expected} :
    expected file default x = .ok y ↔ x.IsSound ∧ x.filled file default = y := by
  obtain ⟨function, line, text?⟩ := x
  -- the outcome, once the category is found
  have hline (c : Category) : (if line = 0 then .error (.lineZero file function)
      else .ok ⟨file, function, line, c⟩ : Except ManifestFault Expected) = .ok y
        ↔ 1 ≤ line ∧ (⟨file, function, line, c⟩ : Expected) = y := by
    split
    · next h => simp [h]
    · next h => simp [Nat.one_le_iff_ne_zero, h]
  cases text? with
  | none =>
    refine (hline default).trans ⟨fun h => ⟨⟨by simp, h.1⟩, h.2⟩, fun h => ⟨h.1.line, h.2⟩⟩
  | some text =>
    cases hc : Category.parse? text with
    | none =>
      have hcategory : category text = .error (.unknownCategory text) := by
        unfold category
        rw [hc]
      simp only [expected, hcategory]
      constructor
      · intro h
        cases h
      · intro h
        simpa [hc] using h.1.category text rfl
    | some c =>
      simp only [expected, category_eq_ok_iff.mpr hc]
      refine (hline c).trans ⟨fun h => ⟨⟨?_, h.1⟩, ?_⟩, fun h => ⟨h.1.line, ?_⟩⟩
      · rintro _ ⟨⟩
        rw [hc]
        rfl
      · rw [← h.2]
        simp [ExpectedTable.filled, hc]
      · rw [← h.2]
        simp [ExpectedTable.filled, hc]

/-- Several are accepted if all of them are in order. -/
theorem mapM_expected_eq_ok_iff {default : Category} {xs : List ExpectedTable}
    {ys : List Expected} : xs.mapM (expected file default) = .ok ys ↔
      (∀ x ∈ xs, x.IsSound) ∧ xs.map (·.filled file default) = ys := by
  induction xs generalizing ys with
  | nil =>
    refine ⟨fun h => ?_, fun h => ?_⟩
    · cases h
      exact ⟨by simp, rfl⟩
    · rw [← h.2]
      rfl
  | cons x xs ih =>
    rw [List.mapM_cons, List.forall_mem_cons, List.map_cons]
    constructor
    · intro h
      obtain ⟨y, hy, h⟩ := exists_of_bind_eq_ok h
      obtain ⟨zs, hzs, h⟩ := exists_of_bind_eq_ok h
      cases h
      obtain ⟨hx, rfl⟩ := expected_eq_ok_iff.mp hy
      obtain ⟨hxs, rfl⟩ := ih.mp hzs
      exact ⟨⟨hx, hxs⟩, rfl⟩
    · rintro ⟨⟨hx, hxs⟩, rfl⟩
      rw [expected_eq_ok_iff.mpr ⟨hx, rfl⟩, ih.mpr ⟨hxs, rfl⟩]
      rfl

/-- **The table of a fixture is accepted exactly if it is in order**, and makes the entry it
describes. -/
theorem entry_eq_ok_iff : entry t = .ok e ↔ t.IsSound ∧ t.Describes e := by
  constructor
  · intro h
    obtain ⟨c, hc, h⟩ := exists_of_bind_eq_ok h
    obtain ⟨es, hes, h⟩ := exists_of_bind_eq_ok h
    cases h
    rw [category_eq_ok_iff] at hc
    obtain ⟨hsound, rfl⟩ := mapM_expected_eq_ok_iff.mp hes
    exact ⟨⟨hc ▸ rfl, hsound⟩, t.describes_filled hc⟩
  · rintro ⟨hs, hd⟩
    rw [hd.unique (t.describes_filled hd.category)]
    unfold entry
    rw [category_eq_ok_iff.mpr hd.category]
    show t.expected.mapM (expected t.file e.category) >>= _ = _
    rw [mapM_expected_eq_ok_iff.mpr ⟨hs.expected, rfl⟩]
    rfl

/-! ## What the tables make -/

theorem ext_get? (h : ∀ file e, m.get? file = some e ↔ n.get? file = some e) : m = n := by
  have hentries : m.entries = n.entries :=
    Std.ExtTreeMap.ext_getElem? fun file => Option.ext fun e => h file e
  cases m
  cases n
  exact congrArg _ hentries

theorem get?_insert (new : ManifestEntry) : (Manifest.mk (m.entries.insert file new)).get? file' =
    if file = file' then some new else m.get? file' := by
  unfold get?
  rw [Std.ExtTreeMap.getElem?_insert]
  simp only [Std.compare_eq_iff_eq]

/-- **A table is added exactly if its file is new and it is in order.** -/
theorem exists_add_iff : (∃ n, m.add t = .ok n) ↔ m.get? t.file = none ∧ t.IsSound := by
  unfold add
  by_cases hmem : t.file ∈ m.entries
  · rw [if_pos hmem]
    constructor
    · rintro ⟨n, h⟩
      cases h
    · rintro ⟨hnone, -⟩
      rw [Std.ExtTreeMap.mem_iff_isSome_getElem?] at hmem
      rw [get?] at hnone
      simp [hnone] at hmem
  · rw [if_neg hmem]
    have hnone : m.get? t.file = none := Std.ExtTreeMap.getElem?_eq_none hmem
    constructor
    · rintro ⟨n, h⟩
      obtain ⟨new, hnew, -⟩ := exists_of_bind_eq_ok h
      exact ⟨hnone, (entry_eq_ok_iff.mp hnew).1⟩
    · rintro ⟨-, hsound⟩
      obtain ⟨new, hnew⟩ := hsound.exists_describes
      rw [entry_eq_ok_iff.mpr ⟨hsound, hnew⟩]
      exact ⟨_, rfl⟩

/-- **A table that is added** makes the entry it describes, and the others stay. -/
theorem get?_of_add (h : m.add t = .ok n) : n.get? file = some e ↔
    m.get? file = some e ∨ t.file = file ∧ t.Describes e := by
  have hnone := (exists_add_iff.mp ⟨n, h⟩).1
  unfold add at h
  split at h
  · cases h
  obtain ⟨new, hnew, h⟩ := exists_of_bind_eq_ok h
  cases h
  have hdescribes := (entry_eq_ok_iff.mp hnew).2
  rw [get?_insert]
  split
  · next heq =>
    subst heq
    simp only [hnone, Option.some.injEq, true_and, reduceCtorEq, false_or]
    exact ⟨fun h => h ▸ hdescribes, hdescribes.unique⟩
  · next heq => simp [heq]

/-- **A manifest holds tables on top of another one**: they are in order and of different files, new
ones, and the entries are those there were and those that the tables describe. -/
structure Holds (m : Manifest) (tables : List FixtureTable) (n : Manifest) : Prop where
  distinct : (tables.map (·.file)).Nodup
  new : ∀ t ∈ tables, m.get? t.file = none
  sound : ∀ t ∈ tables, t.IsSound
  get?_iff : ∀ file e, n.get? file = some e ↔
    m.get? file = some e ∨ ∃ t ∈ tables, t.file = file ∧ t.Describes e

/-- The first of several tables may be added before the others. -/
theorem holds_cons_iff (h : m.add t = .ok k) : m.Holds (t :: tables) n ↔ k.Holds tables n := by
  obtain ⟨hnone, hsound⟩ := exists_add_iff.mp ⟨k, h⟩
  obtain ⟨new, hnew⟩ := hsound.exists_describes
  -- the file of the table is taken from now on, and every other one that was
  have htaken (u : FixtureTable) :
      k.get? u.file = none ↔ m.get? u.file = none ∧ t.file ≠ u.file := by
    simp only [Option.eq_none_iff_forall_ne_some, ne_eq, get?_of_add h, not_or, not_and,
      forall_and, and_congr_right_iff]
    exact fun _ => ⟨fun hd heq => hd new heq hnew, fun hne _ heq => (hne heq).elim⟩
  have hget file e : (k.get? file = some e ∨ ∃ u ∈ tables, u.file = file ∧ u.Describes e) ↔
      m.get? file = some e ∨ ∃ u ∈ t :: tables, u.file = file ∧ u.Describes e := by
    simp only [get?_of_add h, or_assoc, List.mem_cons, or_and_right, exists_or, exists_eq_left]
  constructor
  · rintro ⟨hdistinct, hfresh, hsounds, hentries⟩
    rw [List.map_cons, List.nodup_cons, List.mem_map] at hdistinct
    refine ⟨hdistinct.2, fun u hu => ?_, fun u hu => hsounds u (List.mem_cons_of_mem t hu),
      fun file e => (hentries file e).trans (hget file e).symm⟩
    exact (htaken u).mpr ⟨hfresh u (List.mem_cons_of_mem t hu),
      fun heq => hdistinct.1 ⟨u, hu, heq.symm⟩⟩
  · rintro ⟨hdistinct, hfresh, hsounds, hentries⟩
    refine ⟨?_, List.forall_mem_cons.mpr ⟨hnone, fun u hu => ((htaken u).mp (hfresh u hu)).1⟩,
      List.forall_mem_cons.mpr ⟨hsound, hsounds⟩,
      fun file e => (hentries file e).trans (hget file e)⟩
    rw [List.map_cons, List.nodup_cons, List.mem_map]
    exact ⟨fun ⟨u, hu, heq⟩ => ((htaken u).mp (hfresh u hu)).2 heq.symm, hdistinct⟩

/-- **What tables make one after the other.** -/
theorem foldlM_add_eq_ok_iff : tables.foldlM add m = .ok n ↔ m.Holds tables n := by
  induction tables generalizing m with
  | nil =>
    constructor
    · intro h
      cases h
      exact ⟨.nil, by simp, by simp, by simp⟩
    · intro h
      have heq : n = m := ext_get? fun file e => by simpa using h.get?_iff file e
      rw [heq]
      rfl
  | cons t tables ih =>
    rw [List.foldlM_cons]
    constructor
    · intro h
      obtain ⟨k, hk, h⟩ := exists_of_bind_eq_ok h
      exact (holds_cons_iff hk).mpr (ih.mp h)
    · intro h
      obtain ⟨k, hk⟩ := exists_add_iff.mpr
        ⟨h.new t List.mem_cons_self, h.sound t List.mem_cons_self⟩
      rw [hk]
      exact ih.mpr ((holds_cons_iff hk).mp h)

/-- **New tables of different files that are in order** are all accepted. -/
theorem exists_holds (hdistinct : (tables.map (·.file)).Nodup)
    (hnew : ∀ t ∈ tables, m.get? t.file = none) (hsound : ∀ t ∈ tables, t.IsSound) :
    ∃ n, m.Holds tables n := by
  induction tables generalizing m with
  | nil => exact ⟨m, .nil, by simp, by simp, by simp⟩
  | cons t tables ih =>
    obtain ⟨k, hk⟩ := exists_add_iff.mpr ⟨hnew t List.mem_cons_self, hsound t List.mem_cons_self⟩
    obtain ⟨new, hnew'⟩ := (hsound t List.mem_cons_self).exists_describes
    rw [List.map_cons, List.nodup_cons, List.mem_map] at hdistinct
    have hfresh (u : FixtureTable) (hu : u ∈ tables) : k.get? u.file = none := by
      refine Option.eq_none_iff_forall_ne_some.mpr fun e he => ?_
      rcases (get?_of_add hk).mp he with he | ⟨heq, -⟩
      · rw [hnew u (List.mem_cons_of_mem t hu)] at he
        cases he
      · exact hdistinct.1 ⟨u, hu, heq.symm⟩
    obtain ⟨n, hn⟩ := ih hdistinct.2 hfresh fun u hu => hsound u (List.mem_cons_of_mem t hu)
    exact ⟨n, (holds_cons_iff hk).mpr hn⟩

theorem ofTables_eq_ok_iff : ofTables tables = .ok m ↔ Holds {} tables m := foldlM_add_eq_ok_iff

theorem get?_empty : ({} : Manifest).get? file = none := Std.ExtTreeMap.getElem?_empty

/-- **A manifest holds tables in any order.** -/
theorem Holds.reordered (h : FixtureTable.AllReordered tables tables')
    (hm : Holds {} tables m) : Holds {} tables' m where
  distinct := h.perm_files.nodup_iff.mp hm.distinct
  new _ _ := get?_empty
  sound u hu := by
    obtain ⟨t, ht, htu⟩ := h.exists_mem hu
    exact htu.isSound (hm.sound t ht)
  get?_iff file e := by
    refine (hm.get?_iff file e).trans (or_congr_right ⟨?_, ?_⟩)
    · rintro ⟨t, ht, rfl, hd⟩
      obtain ⟨u, hu, hut⟩ := h.symm.exists_mem ht
      exact ⟨u, hu, hut.file, hut.symm.describes hd⟩
    · rintro ⟨u, hu, rfl, hd⟩
      obtain ⟨t, ht, htu⟩ := h.exists_mem hu
      exact ⟨t, ht, htu.file, htu.symm.describes hd⟩

/-- **The order of the tables does not matter**: tables in another order make the same manifest or
are refused as well. They are accepted exactly if they are in order and of different files. The
manifest then has an entry for the file of each table, the one that the table describes, and no
others. A text is read as its tables are. -/
theorem ofTables_reordered (h : FixtureTable.AllReordered tables tables') :
    (∀ m, ofTables tables = .ok m ↔ ofTables tables' = .ok m) ∧
      ((∃ m, ofTables tables = .ok m) ↔
        (tables.map (·.file)).Nodup ∧ ∀ t ∈ tables, t.IsSound) ∧
      (∀ m, ofTables tables = .ok m →
        (∀ t ∈ tables, ∃ e, m.get? t.file = some e ∧ t.Describes e) ∧
        ∀ file e, m.get? file = some e → ∃ t ∈ tables, t.file = file) ∧
      ∀ text, tablesOf? text = some tables → parse text = ofTables tables := by
  simp only [ofTables_eq_ok_iff]
  refine ⟨fun m => ⟨Holds.reordered h, Holds.reordered h.symm⟩, ⟨?_, ?_⟩, fun m hm => ⟨?_, ?_⟩,
    fun text => parse_eq⟩
  · rintro ⟨m, hm⟩
    exact ⟨hm.distinct, hm.sound⟩
  · rintro ⟨hdistinct, hsound⟩
    exact exists_holds hdistinct (fun _ _ => get?_empty) hsound
  · intro t ht
    obtain ⟨e, he⟩ := (hm.sound t ht).exists_describes
    exact ⟨e, (hm.get?_iff t.file e).mpr (Or.inr ⟨t, ht, rfl, he⟩), he⟩
  · intro file e he
    rcases (hm.get?_iff file e).mp he with hnone | ⟨t, ht, hfile, -⟩
    · rw [get?_empty] at hnone
      cases hnone
    · exact ⟨t, ht, hfile⟩

end Manifest

/-! ## Two tables in two orders -/

namespace FixtureTable

/-- A fixture with the given expected findings. -/
def forward (expected : List ExpectedTable) : FixtureTable :=
  ⟨"forward-null.c", "forward null", some "ABCDEF", expected⟩

/-- A fixture with none. -/
def reverse : FixtureTable := ⟨"reverse-null.c", "REVERSE_INULL", none, []⟩

end FixtureTable

theorem Manifest.ofTables_reordered_forward :
    let x : ExpectedTable := ⟨"b", 32, none⟩
    let y : ExpectedTable := ⟨"a", 13, some "reverse-null"⟩
    FixtureTable.AllReordered [.forward [x, y], .reverse] [.reverse, .forward [y, x]] ∧
      ∃ m, ofTables [.forward [x, y], .reverse] = .ok m ∧
        ofTables [.reverse, .forward [y, x]] = .ok m := by
  intro x y
  have h : FixtureTable.AllReordered [.forward [x, y], .reverse] [.reverse, .forward [y, x]] :=
    ⟨[.forward [y, x], .reverse],
      .cons ⟨rfl, rfl, rfl, .swap y x []⟩ (.cons ⟨rfl, rfl, rfl, .refl _⟩ .nil), .swap _ _ []⟩
  obtain ⟨hsame, haccepted, -⟩ := ofTables_reordered h
  have hforward : (FixtureTable.forward [x, y]).IsSound := by
    refine ⟨by decide +kernel, List.forall_mem_cons.mpr ⟨⟨by simp [x], by decide⟩, ?_⟩⟩
    refine List.forall_mem_singleton.mpr ⟨?_, by decide⟩
    rintro _ ⟨⟩
    decide +kernel
  have hreverse : FixtureTable.reverse.IsSound :=
    ⟨by decide +kernel, fun _ hx => (List.not_mem_nil hx).elim⟩
  obtain ⟨m, hm⟩ := haccepted.mpr ⟨by decide,
    List.forall_mem_cons.mpr ⟨hforward, List.forall_mem_singleton.mpr hreverse⟩⟩
  exact ⟨h, m, hm, (hsame m).mp hm⟩

end NullFlow
