import NullFlow.Proofs.Json.RoundTrip
import NullFlow.Proofs.World.Steady
import NullFlow.Report.Findings
import NullFlow.Suite.Run

/-!
# Findings that are written and loaded

The fields of a finding and of an event are looked up by their names, which are all different, so
each is read back from what was written for it (`JsonValue.record?_ofFields`). The only thing that
can go wrong is a number that does not fit into 64 bits. A file that holds the report of some
findings in JSON is therefore loaded as these findings (`Finding.load_report`).
-/

namespace NullFlow

open InTree (result)

/-- What is read one by one of the elements of a list is read of the list. -/
theorem mapM_map_eq_some {α β γ : Type} {f : α → β} {g : β → Option γ} {k : α → γ} {as : List α}
    (h : ∀ a ∈ as, g (f a) = some (k a)) : (as.map f).mapM g = some (as.map k) := by
  induction as with
  | nil => rfl
  | cons a as ih =>
    rw [List.map_cons, List.mapM_cons, h a List.mem_cons_self,
      ih fun b hb => h b (List.mem_cons_of_mem a hb)]
    rfl

namespace JsonValue

variable {name : String} {v : JsonValue} {fields : List (String × JsonValue)}

/-! ## Fields -/

theorem valuesOf_cons (n name : String) (v : JsonValue) (fields : List (String × JsonValue)) :
    valuesOf name.toList (spelledFields ((n, v) :: fields)) =
      if n = name then v :: valuesOf name.toList (spelledFields fields)
      else valuesOf name.toList (spelledFields fields) := by
  show (if unspell? (spell n) = some name.toList then _ else _) = _
  rw [unspell?_spell]
  simp only [Option.some.injEq, String.toList_inj]

theorem valuesOf_of_not_mem (h : name ∉ fields.map Prod.fst) :
    valuesOf name.toList (spelledFields fields) = [] := by
  induction fields with
  | nil => rfl
  | cons f fields ih =>
    rw [List.map_cons, List.mem_cons, not_or] at h
    rw [valuesOf_cons, if_neg (Ne.symm h.1), ih h.2]

/-- **A field is found under its name** if no other one has that name. -/
theorem valuesOf_of_mem (hnames : (fields.map Prod.fst).Nodup) (h : (name, v) ∈ fields) :
    valuesOf name.toList (spelledFields fields) = [v] := by
  induction fields with
  | nil => cases h
  | cons f fields ih =>
    obtain ⟨hnot, hnames⟩ := List.nodup_cons.mp hnames
    rw [valuesOf_cons]
    rcases List.mem_cons.mp h with rfl | h
    · rw [if_pos rfl, valuesOf_of_not_mem hnot]
    · rw [if_neg, ih hnames h]
      rintro rfl
      exact hnot (List.mem_map.mpr ⟨_, h, rfl⟩)

/-- **The fields of a record are read back.** -/
theorem record?_ofFields {names : List String} (hfields : fields.map Prod.fst = names)
    (hnames : names.Nodup) : (ofFields fields).record? names = some (fields.map (some ·.2)) := by
  subst hfields
  have hspelled : (spelledFields fields).all (fun f => (unspell? f.1).isSome) = true := by
    rw [List.all_map, List.all_eq_true]
    intro f _
    rw [Function.comp_apply, unspell?_spell]
    rfl
  show (if (spelledFields fields).all (fun f => (unspell? f.1).isSome) then _ else _) = _
  rw [if_pos hspelled]
  refine mapM_map_eq_some fun f hf => ?_
  rw [valuesOf_of_mem hnames hf]

/-! ## Texts, words and numbers -/

@[simp] theorem text?_ofText (s : String) : (ofText s).text? = some s := by
  rw [ofText, text?, unspell?_spell, Option.map_some, String.ofList_toList]

@[simp] theorem word?_ofText (s : String) : (ofText s).word? = some s := by
  rw [ofText, word?, unspell?_spell, Option.map_some, String.ofList_toList]

/-- **A number that fits into 64 bits is read back.** -/
theorem nat?_ofNat {n : Nat} (h : n < UInt64.size) : (ofNat n).nat? = some n := by
  have hlimit : n < numberLimit := h
  rw [ofNat, nat?, Nat.toString_eq_repr, Nat.toList_repr, digits?_toDigits,
    Option.filter_some, if_pos (decide_eq_true hlimit)]

end JsonValue

open JsonValue

/-! ## Events and findings -/

theorem EventTag.ofName?_name (t : EventTag) : EventTag.ofName? t.name = some t := by
  cases t <;> decide

theorem Category.ofLabel?_label (c : Category) : Category.ofLabel? c.label = some c := by
  cases c <;> decide

theorem Event.legible_toJson (e : Event) : Legible e.toJson := by
  refine legible_ofFields fun f hf => ?_
  simp only [List.mem_cons, List.not_mem_nil, or_false] at hf
  rcases hf with rfl | rfl | rfl | rfl
  · exact legible_ofText _
  · exact legible_ofNat _
  · exact legible_ofText _
  · exact legible_bool _

theorem Event.ofJson?_toJson {e : Event} (h : e.line < UInt64.size) :
    Event.ofJson? e.toJson = some e := by
  unfold Event.ofJson? Event.toJson
  rw [record?_ofFields (by rfl) (by decide)]
  simp only [List.map_cons, List.map_nil, Option.bind_eq_bind, Option.bind_some, word?_ofText,
    EventTag.ofName?_name, nat?_ofNat h, text?_ofText, bool?, Option.pure_def]

namespace Finding

/-- **A finding fits** if its lines and those of its events are numbers of 64 bits. -/
structure Fits (f : Finding) : Prop where
  line : f.line < UInt64.size
  events ⦃e : Event⦄ (h : e ∈ f.events) : e.line < UInt64.size

theorem legible_toJson (f : Finding) : Legible f.toJson := by
  refine legible_ofFields fun p hp => ?_
  simp only [List.mem_cons, List.not_mem_nil, or_false] at hp
  rcases hp with rfl | rfl | rfl | rfl | rfl | rfl
  · exact legible_ofText _
  · exact legible_ofText _
  · exact legible_ofNat _
  · exact legible_ofText _
  · exact legible_ofText _
  · exact legible_ofList fun e _ => e.legible_toJson

theorem ofJson?_toJson {f : Finding} (h : f.Fits) : ofJson? f.toJson = some f := by
  have hevents : (f.events.map Event.toJson).mapM Event.ofJson? = some f.events := by
    have hmap := mapM_map_eq_some (k := id) fun e he => Event.ofJson?_toJson (h.events he)
    rwa [List.map_id] at hmap
  unfold ofJson? toJson
  rw [record?_ofFields (by rfl) (by decide)]
  simp only [List.map_cons, List.map_nil, Option.bind_eq_bind, Option.bind_some, word?_ofText,
    Category.ofLabel?_label, nat?_ofNat h.line, text?_ofText, ofList, list?, hevents,
    Option.pure_def]

/-- **The findings that are read are those that were written.** -/
theorem listOfJson?_listToJson {fs : List Finding} (h : ∀ f ∈ fs, f.Fits) :
    listOfJson? (listToJson fs) = some fs := by
  have hfindings : (fs.map toJson).mapM ofJson? = some fs := by
    have hmap := mapM_map_eq_some (k := id) fun f hf => ofJson?_toJson (h f hf)
    rwa [List.map_id] at hmap
  have hlegible : Legible (ofList toJson fs) := legible_ofList fun f _ => f.legible_toJson
  unfold listOfJson? listToJson
  rw [hlegible.read?_print]
  exact hfindings

/-- **A report in JSON is loaded as the findings that it reports**, whatever their texts are. -/
theorem load_report {fs : List Finding} (h : ∀ f ∈ fs, f.Fits) {s : Session} {path : String}
    (hfile : s.files.read path = .ok (report .json fs).toUTF8.data.toList) :
    result s (load path).run = .ok fs := by
  have htext : result s (World.readText path) = .ok (report .json fs) :=
    InTree.result_readText hfile
  have hread : listOfJson? (report .json fs) = some fs := listOfJson?_listToJson h
  unfold load
  rw [InTree.result_bindExcept, InTree.result_lift, htext]
  simp only [ExceptT.bindCont, hread]
  rfl

/-! ## Findings with marks and control characters -/

/-- A finding in a file whose name holds a quote, a backslash and control characters, with no
function, on the last line of all, and with an event. -/
def marked : Finding where
  file := "a\"b\\c\n\t\x01\x1f.c"
  function := ""
  line := UInt64.size - 1
  category := .reverseNull
  message := "é \u2028 😀 \"\""
  events := [⟨.derefBeforeCheck, 0, "\r/\x7f", true⟩]

theorem fits_marked : marked.Fits where
  line := by decide
  events e he := by
    cases List.mem_singleton.mp he
    decide

end Finding

/-- A tree with a report of the finding, which is made twice. -/
def FileTree.withReport : FileTree where
  entries := .ofList [(["found.json"],
    Entry.file (Finding.report .json [.marked, .marked]).toUTF8.data.toList)]

namespace Finding

theorem load_report_marked :
    (∀ f ∈ [marked, marked], f.Fits) ∧
      FileTree.withReport.read "found.json" =
        .ok (report .json [marked, marked]).toUTF8.data.toList ∧
      result { files := .withReport } (load "found.json").run = .ok [marked, marked] := by
  have hfits : ∀ f ∈ [marked, marked], f.Fits := by
    intro f hf
    rcases List.mem_cons.mp hf with rfl | hf
    · exact fits_marked
    · exact List.mem_singleton.mp hf ▸ fits_marked
  have hfile : FileTree.withReport.read "found.json" =
      .ok (report .json [marked, marked]).toUTF8.data.toList := rfl
  exact ⟨hfits, hfile, load_report hfits hfile⟩

end Finding

end NullFlow
