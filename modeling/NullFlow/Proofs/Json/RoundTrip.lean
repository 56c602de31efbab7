import NullFlow.Json.Print
import NullFlow.Proofs.Json.Spelling

/-!
# Reading what was printed

A value is **legible** if it is read back wherever it is printed: at any depth, and whatever follows
it there. Texts, whole numbers and truth values are legible, and lists and objects are as soon as
what they hold is, for white space is skipped and each item ends where the next begins. A legible
value is read back from its text (`JsonValue.Legible.read?_print`).

The reading is given a number of steps. Every step takes a character or is followed by one that
does, so twice as many steps as the value has characters are enough; this is the bound that each of
the lemmas carries along.
-/

namespace NullFlow.JsonValue

variable {c : Char} {s t rest : List Char} {v item : JsonValue} {items : List JsonValue}
  {depth fuel : Nat}

/-! ## White space -/

theorem skipSpace_lineBreak (depth : Nat) (s : List Char) :
    skipSpace (lineBreak depth ++ s) = skipSpace s := by
  unfold skipSpace lineBreak
  refine List.dropWhile_append_of_pos fun c hc => ?_
  rcases List.mem_cons.mp hc with rfl | hc
  · decide
  · rw [List.eq_of_mem_replicate hc]
    decide

theorem skipSpace_cons (h : isSpace c = false) : skipSpace (c :: s) = c :: s :=
  List.dropWhile_cons_of_neg (by rw [h]; exact Bool.false_ne_true)

/-- White space before a value makes no difference. -/
theorem readValue?_congr (h : skipSpace s = skipSpace t) :
    readValue? fuel s = readValue? fuel t := by
  cases fuel with
  | zero => rfl
  | succ fuel => rw [readValue?, readValue?, h]

/-- No value begins with a closing bracket. -/
theorem readValue?_bracket (h : skipSpace s = ']' :: t) : readValue? fuel s = none := by
  cases fuel with
  | zero => rfl
  | succ fuel =>
    rw [readValue?, h]
    rfl

/-! ## Legible values -/

/-- **A value is read back wherever it is printed**, in one step more than twice its length. -/
def Legible (v : JsonValue) : Prop := ∀ (depth fuel : Nat) (rest : List Char), Follows rest →
  2 * (printAt depth v).length ≤ fuel →
    readValue? (fuel + 1) (printAt depth v ++ rest) = some (v, rest)

theorem legible_bool (b : Bool) : Legible (.bool b) := fun _ _ _ _ _ => by
  cases b <;> rfl

theorem legible_ofText (s : String) : Legible (ofText s) := by
  intro depth fuel rest _ _
  have hprint : printAt depth (ofText s) ++ rest = '"' :: (spell s ++ '"' :: rest) := by
    simp only [ofText, printAt, quoted, List.cons_append, List.append_assoc, List.nil_append]
  rw [hprint, readValue?, skipSpace_cons (by decide)]
  simp only [readText?_spell, Option.map_some]
  rfl

/-- What begins with a digit is a number. -/
theorem readValue?_digit (h : isDigit c = true) :
    readValue? (fuel + 1) (c :: s) =
      (readNumber? (c :: s)).map fun (spelled, rest) => (.number spelled, rest) := by
  have hspace : isSpace c = false := by
    by_contra hc
    simp only [isSpace, Bool.not_eq_false, Bool.or_eq_true, beq_iff_eq] at hc
    rcases hc with ((rfl | rfl) | rfl) | rfl <;> exact absurd h (by decide)
  rw [readValue?, skipSpace_cons hspace]
  -- the marks and letters that begin other values are no digits
  split
  all_goals
    next heq => cases heq <;> first | exact absurd h (by decide) | rfl

theorem legible_ofNat (n : Nat) : Legible (ofNat n) := by
  intro depth fuel rest hrest _
  have hdigits : (toString n).toList = Nat.toDigits 10 n := by
    rw [Nat.toString_eq_repr, Nat.toList_repr]
  obtain ⟨d, ds, hds⟩ := List.exists_cons_of_ne_nil (Nat.toDigits_ne_nil (n := n) (b := 10))
  have hd : isDigit d = true := isDigit_of_mem_toDigits (n := n) (hds ▸ List.mem_cons_self)
  have hread := readNumber?_digits n hrest
  rw [ofNat, printAt, hdigits]
  rw [hds, List.cons_append] at hread ⊢
  rw [readValue?_digit hd, hread, Option.map_some]

/-- A legible value is read behind white space. -/
theorem Legible.read_behind (h : Legible v) (hs : skipSpace s = skipSpace (printAt depth v ++ rest))
    (hrest : Follows rest) (hfuel : 2 * (printAt depth v).length + 1 ≤ fuel) :
    readValue? fuel s = some (v, rest) := by
  obtain ⟨k, rfl⟩ := Nat.exists_eq_add_of_le' (Nat.le_of_add_left_le hfuel)
  rw [readValue?_congr hs]
  exact h depth k rest hrest (Nat.le_of_succ_le_succ hfuel)

theorem follows_lineBreak (depth : Nat) (s : List Char) : Follows (lineBreak depth ++ s) :=
  fun c hc => Or.inr (by cases hc; rfl)

theorem follows_comma (s : List Char) : Follows (',' :: s) := fun c hc => Or.inl (by cases hc; rfl)

/-! ## Lists -/

theorem printItems_cons_append (depth : Nat) (item : JsonValue) (items : List JsonValue)
    (s : List Char) : printItems depth (item :: items) ++ s =
      ',' :: (lineBreak depth ++ (printAt depth item ++ (printItems depth items ++ s))) := by
  simp only [printItems, List.cons_append, List.append_assoc]

theorem length_printItems_cons (depth : Nat) (item : JsonValue) (items : List JsonValue) :
    (printAt depth item ++ printItems depth items).length <
      (printItems depth (item :: items)).length := by
  simp only [printItems, List.length_cons, List.length_append]
  omega

/-- **Items are read up to the bracket that closes their list.** -/
theorem readItems?_print (depth depth' fuel : Nat) (rest : List Char)
    (h : ∀ v ∈ item :: items, Legible v)
    (hfuel : 2 * (printAt depth item ++ printItems depth items).length + 1 ≤ fuel) :
    readItems? (fuel + 1) (lineBreak depth ++ (printAt depth item ++ (printItems depth items
      ++ (lineBreak depth' ++ ']' :: rest)))) = some (item :: items, rest) := by
  rw [List.length_append] at hfuel
  induction items generalizing item fuel with
  | nil =>
    rw [printItems, List.nil_append, readItems?,
      (h item List.mem_cons_self).read_behind (skipSpace_lineBreak depth _)
        (follows_lineBreak depth' _) (by omega)]
    simp only [Option.bind_eq_bind, Option.bind_some, skipSpace_lineBreak,
      skipSpace_cons (show isSpace ']' = false by decide)]
  | cons next items ih =>
    -- the comma pays for the two steps from one item to the next
    have hlength := length_printItems_cons depth next items
    rw [List.length_append] at hlength
    obtain ⟨k, rfl⟩ := Nat.exists_eq_add_of_le' (Nat.le_of_add_left_le hfuel)
    have hrest := ih k (fun v hv => h v (List.mem_cons_of_mem item hv)) (by omega)
    rw [printItems_cons_append, readItems?, (h item List.mem_cons_self).read_behind
      (skipSpace_lineBreak depth _) (follows_comma _) (by omega)]
    simp only [Option.bind_eq_bind, Option.bind_some, hrest, Option.map_some,
      skipSpace_cons (show isSpace ',' = false by decide)]

/-- No items begin with a closing bracket. -/
theorem readItems?_bracket (h : skipSpace s = ']' :: t) : readItems? fuel s = none := by
  cases fuel with
  | zero => rfl
  | succ fuel =>
    rw [readItems?, readValue?_bracket h]
    rfl

/-- **A list is legible if its items are.** -/
theorem legible_list (h : ∀ v ∈ items, Legible v) : Legible (.list items) := by
  intro depth fuel rest _ hfuel
  cases items with
  | nil => rfl
  | cons item items =>
    have hprint : printAt depth (.list (item :: items)) ++ rest =
        '[' :: (lineBreak (depth + 1) ++ (printAt (depth + 1) item ++ (printItems (depth + 1) items
          ++ (lineBreak depth ++ ']' :: rest)))) := by
      simp only [printAt, List.cons_append, List.append_assoc, List.nil_append]
    have hlength : (printAt depth (.list (item :: items))).length ≥
        2 + (printAt (depth + 1) item ++ printItems (depth + 1) items).length := by
      simp only [printAt, List.length_cons, List.length_append, List.length_nil]
      omega
    obtain ⟨k, rfl⟩ := Nat.exists_eq_add_of_le' (show 1 ≤ fuel by omega)
    have hitems := readItems?_print (depth + 1) depth k rest h (by omega)
    rw [hprint, readValue?, skipSpace_cons (by decide)]
    simp only
    split
    · next hbracket =>
      rw [readItems?_bracket hbracket] at hitems
      cases hitems
    · rw [hitems, Option.map_some]

theorem legible_ofList {α : Type} {f : α → JsonValue} {as : List α}
    (h : ∀ a ∈ as, Legible (f a)) : Legible (ofList f as) :=
  legible_list fun _ hv => by
    obtain ⟨a, ha, rfl⟩ := List.mem_map.mp hv
    exact h a ha

/-! ## Objects -/

section Objects

variable {name : String} {fields : List (String × JsonValue)}

/-- The fields of an object, with their names as they are spelled. -/
abbrev spelledFields (fields : List (String × JsonValue)) : List (List Char × JsonValue) :=
  fields.map fun (name, value) => (spell name, value)

theorem quoted_append (s t : List Char) : quoted s ++ t = '"' :: (s ++ '"' :: t) := by
  simp only [quoted, List.cons_append, List.append_assoc, List.nil_append]

/-- A field is read up to the comma or the line break after it. -/
theorem readFields?_field (h : Legible v) (hrest : Follows rest)
    (hfuel : 2 * (printAt depth v).length + 1 ≤ fuel) :
    readFields? (fuel + 1)
        (lineBreak depth ++ (quoted (spell name) ++ (": ".toList ++ (printAt depth v ++ rest)))) =
      match skipSpace rest with
      | ',' :: r => (readFields? fuel r).map fun (fields, rest) => ((spell name, v) :: fields, rest)
      | '\x7d' :: r => some ([(spell name, v)], r)
      | _ => none := by
  have hcolon : ": ".toList ++ (printAt depth v ++ rest) =
      ':' :: ' ' :: (printAt depth v ++ rest) := by rfl
  have hvalue : readValue? fuel (' ' :: (printAt depth v ++ rest)) = some (v, rest) :=
    h.read_behind rfl hrest hfuel
  rw [readFields?, skipSpace_lineBreak, quoted_append, skipSpace_cons (by decide), hcolon]
  simp only [readText?_spell, Option.bind_eq_bind, Option.bind_some,
    skipSpace_cons (show isSpace ':' = false by decide)]
  rw [hvalue]
  rfl

theorem printFields_cons_append (depth : Nat) (name : String) (v : JsonValue)
    (fields : List (String × JsonValue)) (s : List Char) :
    printFields depth (spelledFields ((name, v) :: fields)) ++ s =
      ',' :: (lineBreak depth ++ (quoted (spell name) ++ (": ".toList ++ (printAt depth v ++
        (printFields depth (spelledFields fields) ++ s))))) := by
  simp only [spelledFields, List.map_cons, printFields, List.cons_append, List.append_assoc]

theorem length_printFields_cons (depth : Nat) (name : String) (v : JsonValue)
    (fields : List (String × JsonValue)) :
    (printAt depth v ++ printFields depth (spelledFields fields)).length <
      (printFields depth (spelledFields ((name, v) :: fields))).length := by
  simp only [spelledFields, List.map_cons, printFields, List.length_cons, List.length_append]
  omega

/-- **Fields are read up to the brace that closes their object.** -/
theorem readFields?_print (depth depth' fuel : Nat) (rest : List Char)
    (h : ∀ f ∈ (name, v) :: fields, Legible f.2)
    (hfuel : 2 * (printAt depth v ++ printFields depth (spelledFields fields)).length + 1 ≤ fuel) :
    readFields? (fuel + 1) (lineBreak depth ++ (quoted (spell name) ++ (": ".toList ++
      (printAt depth v ++ (printFields depth (spelledFields fields)
        ++ (lineBreak depth' ++ '\x7d' :: rest)))))) =
      some (spelledFields ((name, v) :: fields), rest) := by
  have hv : Legible v := h (name, v) List.mem_cons_self
  rw [List.length_append] at hfuel
  induction fields generalizing name v fuel with
  | nil =>
    rw [spelledFields, List.map_nil, printFields, List.nil_append,
      readFields?_field hv (follows_lineBreak depth' _) (by omega), skipSpace_lineBreak,
      skipSpace_cons (by decide)]
    rfl
  | cons next fields ih =>
    obtain ⟨name', v'⟩ := next
    have hlength := length_printFields_cons depth name' v' fields
    rw [List.length_append] at hlength
    obtain ⟨k, rfl⟩ := Nat.exists_eq_add_of_le' (Nat.le_of_add_left_le hfuel)
    have hmore : ∀ f ∈ (name', v') :: fields, Legible f.2 :=
      fun f hf => h f (List.mem_cons_of_mem _ hf)
    have hrest := ih k hmore (by omega) (hmore (name', v') List.mem_cons_self)
    rw [printFields_cons_append, readFields?_field hv (follows_comma _) (by omega),
      skipSpace_cons (by decide)]
    simp only [hrest, Option.map_some]
    rfl

/-- **An object is legible if its values are.** -/
theorem legible_ofFields (h : ∀ f ∈ fields, Legible f.2) : Legible (ofFields fields) := by
  intro depth fuel rest _ hfuel
  cases fields with
  | nil => rfl
  | cons field fields =>
    obtain ⟨name, v⟩ := field
    have hprint : printAt depth (ofFields ((name, v) :: fields)) ++ rest =
        '\x7b' :: (lineBreak (depth + 1) ++ (quoted (spell name) ++ (": ".toList ++
          (printAt (depth + 1) v ++ (printFields (depth + 1) (spelledFields fields) ++
            (lineBreak depth ++ '\x7d' :: rest)))))) := by
      simp only [ofFields, spelledFields, List.map_cons, printAt, List.cons_append,
        List.append_assoc, List.nil_append]
    have hlength : (printAt depth (ofFields ((name, v) :: fields))).length ≥
        2 + (printAt (depth + 1) v ++ printFields (depth + 1) (spelledFields fields)).length := by
      simp only [ofFields, spelledFields, List.map_cons, printAt, List.length_cons,
        List.length_append, List.length_nil]
      omega
    obtain ⟨k, rfl⟩ := Nat.exists_eq_add_of_le' (show 1 ≤ fuel by omega)
    have hfields := readFields?_print (depth + 1) depth k rest h (by omega)
    rw [hprint, readValue?, skipSpace_cons (by decide)]
    simp only
    split
    · next hbrace =>
      rw [skipSpace_lineBreak, quoted_append, skipSpace_cons (by decide)] at hbrace
      cases hbrace
    · rw [hfields, Option.map_some]
      rfl

end Objects

/-- **A legible value is read back from its text**, which ends in a line break. -/
theorem Legible.read?_print (h : Legible v) : read? (v.print ++ "\n") = some v := by
  have htext : (v.print ++ "\n").toList = printAt 0 v ++ ['\n'] := by
    rw [String.toList_append, print, String.toList_ofList]
    rfl
  have hlength : (v.print ++ "\n").length = (printAt 0 v).length + 1 := by
    rw [← String.length_toList, htext, List.length_append, List.length_singleton]
  unfold read?
  rw [htext, hlength, h 0 _ ['\n'] (follows_lineBreak 0 []) (by omega)]
  rfl

end NullFlow.JsonValue
