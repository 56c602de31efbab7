import NullFlow.Proofs.Json.Spelling
import NullFlow.Report.Findings
import NullFlow.Total

/-!
# Findings as a table

In a table every row is a line, and the bars on it stand around its cells. A bar behind a backslash
is escaped, it is text. About two backslashes in front of a bar readers disagree: for some of them
the first one escapes the second one and the bar ends a cell, for others every bar right behind a
backslash is text. Here `doubled` says whether backslashes are read in pairs.

Rows and cells are found again by dividing the text at line breaks (`Table.HasLines`) and a line at
its bars (`Table.HasCells`). Texts in cells have blanks around them, and a blank escapes nothing, so
the cells of a row are as many as were put into it if and only if none of their texts has a bar that
is not escaped.

In the table of findings only the bars of messages are escaped. Which findings fit into it
(`Finding.FitsTable`) therefore depends on what the other texts say, and for messages on the bars
that were escaped before, because a further backslash in front of such a bar frees it for those who
read backslashes in pairs (`Finding.isTable_report_iff`).
-/

namespace NullFlow

namespace Table

/-- Whether a character escapes the next one, where `now` says whether it is escaped itself. -/
def escapes (doubled now : Bool) (c : Char) : Bool := c == '\\' && !(doubled && now)

/-- The number of bars in a text that are escaped, or of those that are not. Whether its first
character is escaped is known. -/
def bars (doubled escaped : Bool) : Bool → List Char → Nat
  | _, [] => 0
  | now, c :: cs =>
    (if c = '|' ∧ now = escaped then 1 else 0) + bars doubled escaped (escapes doubled now c) cs

/-- The bars in a text that end a cell. -/
def freeBars (doubled : Bool) (s : String) : Nat := bars doubled false false s.toList

/-- The bars in a text that are text. -/
def escapedBars (doubled : Bool) (s : String) : Nat := bars doubled true false s.toList

/-- **Divides a line at its bars** where they are not escaped. -/
def divide (doubled : Bool) : Bool → List Char → List (List Char)
  | _, [] => [[]]
  | now, c :: cs =>
    if c = '|' ∧ now = false then [] :: divide doubled (escapes doubled now c) cs
    else (divide doubled (escapes doubled now c) cs).modifyHead (c :: ·)

/-- **The lines of a text**, all of them with a line break at the end. -/
def HasLines (text : String) (lines : List String) : Prop :=
  text.toList.splitOn '\n' = lines.map String.toList ++ [[]]

/-- **The cells of a line**, with a bar in front of all of them and one behind each. -/
def HasCells (doubled : Bool) (line : String) (cells : List String) : Prop :=
  divide doubled false line.toList = [] :: (cells.map String.toList ++ [[]])

/-- The line of some cells. -/
def row (cells : List String) : String := "| " ++ " | ".intercalate cells ++ " |"

/-- A text in its cell. -/
def padded (cell : String) : String := " " ++ cell ++ " "

/-- A text in its cell with the bar behind it. -/
def cellChars (cell : String) : List Char := (' ' :: cell.toList) ++ ' ' :: '|' :: []

theorem tableRow_eq (cells : List String) : tableRow cells = asLine (row cells) := rfl

theorem flatMap_cellChars_cons (cell : String) (cells : List String) :
    (cell :: cells).flatMap cellChars =
      (' ' :: cell.toList) ++ ' ' :: '|' :: cells.flatMap cellChars := by
  simp [cellChars]

theorem toList_row {cells : List String} (hne : cells ≠ []) :
    (row cells).toList = '|' :: cells.flatMap cellChars := by
  have hbody : ' ' :: (" | ".intercalate cells).toList ++ [' ', '|'] = cells.flatMap cellChars := by
    induction cells with
    | nil => exact absurd rfl hne
    | cons cell cells ih =>
      cases cells with
      | nil => simp [cellChars]
      | cons next cells =>
        rw [String.intercalate_cons_cons, List.flatMap_cons, ← ih (List.cons_ne_nil _ _)]
        simp [cellChars, String.toList_append]
  rw [← hbody]
  simp [row, String.toList_append]

/-! ## Dividing a line -/

variable {doubled escaped now : Bool}

theorem bars_cons_of_ne {c : Char} (h : c ≠ '|') (cs : List Char) :
    bars doubled escaped now (c :: cs) = bars doubled escaped (escapes doubled now c) cs := by
  rw [bars, if_neg fun hc => h hc.1, Nat.zero_add]

/-- The bars behind a blank do not depend on what is in front of it. -/
theorem bars_append_blank (s r : List Char) :
    bars doubled escaped now (s ++ ' ' :: r) =
      bars doubled escaped now s + bars doubled escaped false r := by
  induction s generalizing now with
  | nil => exact (bars_cons_of_ne (by decide) r).trans (Nat.zero_add _).symm
  | cons c s ih => rw [List.cons_append, bars, bars, ih, Nat.add_assoc]

theorem bars_eq_zero {cs : List Char} (h : '|' ∉ cs) : bars doubled escaped now cs = 0 := by
  induction cs generalizing now with
  | nil => rfl
  | cons c cs ih =>
    rw [List.mem_cons, not_or] at h
    rw [bars_cons_of_ne (Ne.symm h.1), ih h.2]

theorem length_divide (cs : List Char) :
    (divide doubled now cs).length = bars doubled false now cs + 1 := by
  induction cs generalizing now with
  | nil => rfl
  | cons c cs ih =>
    rw [divide, bars]
    split
    · rw [List.length_cons, ih, Nat.add_comm 1]
    · rw [List.length_modifyHead, ih, Nat.zero_add]

theorem divide_append_blank {s : List Char} (h : bars doubled false now s = 0) (r : List Char) :
    divide doubled now (s ++ ' ' :: '|' :: r) = (s ++ [' ']) :: divide doubled false r := by
  induction s generalizing now with
  | nil => rfl
  | cons c s ih =>
    rw [bars, Nat.add_eq_zero_iff] at h
    have hc : ¬(c = '|' ∧ now = false) := fun hbar => by
      rw [if_pos hbar] at h
      exact absurd h.1 Nat.one_ne_zero
    rw [List.cons_append, divide, if_neg hc, ih h.2]
    rfl

/-- The bars in some cells with the bars behind them. -/
theorem bars_flatMap_cellChars (cells : List String) :
    bars doubled false false (cells.flatMap cellChars) =
      total (cells.map (freeBars doubled)) + cells.length := by
  induction cells with
  | nil => rfl
  | cons cell cells ih =>
    have hbar (r : List Char) : bars doubled false false ('|' :: r) =
        1 + bars doubled false false r := rfl
    have hblank : bars doubled false false (' ' :: cell.toList) = freeBars doubled cell :=
      Nat.zero_add _
    rw [flatMap_cellChars_cons, bars_append_blank, hblank, hbar, ih, List.map_cons, total_cons,
      List.length_cons]
    omega

theorem divide_flatMap_cellChars {cells : List String} (h : ∀ c ∈ cells, freeBars doubled c = 0) :
    divide doubled false (cells.flatMap cellChars) =
      (cells.map padded).map String.toList ++ [[]] := by
  induction cells with
  | nil => rfl
  | cons cell cells ih =>
    have hblank : bars doubled false false (' ' :: cell.toList) = 0 :=
      (Nat.zero_add _).trans (h cell List.mem_cons_self)
    rw [flatMap_cellChars_cons, divide_append_blank hblank,
      ih fun c hc => h c (List.mem_cons_of_mem _ hc)]
    simp [padded, String.toList_append]

/-- **The cells of a row** are those that were put into it if their texts have no free bars. -/
theorem hasCells_row {cells : List String} (hne : cells ≠ [])
    (h : ∀ c ∈ cells, freeBars doubled c = 0) :
    HasCells doubled (row cells) (cells.map padded) := by
  rw [HasCells, toList_row hne]
  exact congrArg _ (divide_flatMap_cellChars h)

/-- A row has as many cells as were put into it exactly if their texts have no free bars. -/
theorem exists_hasCells_row_iff {cells : List String} (hne : cells ≠ []) :
    (∃ found, HasCells doubled (row cells) found ∧ found.length = cells.length) ↔
      ∀ c ∈ cells, freeBars doubled c = 0 := by
  refine ⟨fun ⟨found, hfound, hlength⟩ => ?_, fun h =>
    ⟨_, hasCells_row hne h, List.length_map padded⟩⟩
  rw [HasCells, toList_row hne] at hfound
  have hbody : divide doubled false (cells.flatMap cellChars) =
      found.map String.toList ++ [[]] := (List.cons.inj hfound).2
  have hcount := congrArg List.length hbody
  rw [length_divide, bars_flatMap_cellChars, List.length_append, List.length_map, hlength,
    List.length_singleton] at hcount
  have hnone : total (cells.map (freeBars doubled)) = 0 := by omega
  exact total_map_eq_zero_iff.mp hnone

theorem lineBreak_mem_row_iff {cells : List String} (hne : cells ≠ []) :
    '\n' ∈ (row cells).toList ↔ ∃ c ∈ cells, '\n' ∈ c.toList := by
  rw [toList_row hne]
  simp [cellChars]

/-! ## Dividing a text -/

theorem length_splitOn (cs : List Char) : (cs.splitOn '\n').length = cs.count '\n' + 1 := by
  induction cs with
  | nil => rfl
  | cons c cs ih =>
    rw [List.splitOn_cons_eq_if_modifyHead, List.count_cons]
    split
    · rw [List.length_cons, ih]
    · rw [List.length_modifyHead, ih, Nat.add_zero]

theorem splitOn_join_asLine (texts : List String) :
    (String.join (texts.map asLine)).toList.splitOn '\n' =
      texts.flatMap (fun t => t.toList.splitOn '\n') ++ [[]] := by
  induction texts with
  | nil => rfl
  | cons t texts ih =>
    have hlist : (String.join ((t :: texts).map asLine)).toList =
        t.toList ++ '\n' :: (String.join (texts.map asLine)).toList := by
      rw [List.map_cons, String.join_cons, asLine, String.toList_append, String.toList_append]
      simp
    rw [hlist, List.splitOn_append_cons_self, ih, List.flatMap_cons, List.append_assoc]

theorem flatMap_splitOn {texts : List String} (h : ∀ t ∈ texts, '\n' ∉ t.toList) :
    texts.flatMap (fun t => t.toList.splitOn '\n') = texts.map String.toList := by
  induction texts with
  | nil => rfl
  | cons t texts ih =>
    rw [List.flatMap_cons, List.splitOn_eq_singleton (h t List.mem_cons_self),
      ih fun u hu => h u (List.mem_cons_of_mem t hu)]
    rfl

/-- Texts without line breaks are the lines when line breaks are put behind them. -/
theorem hasLines_join {texts : List String} (h : ∀ t ∈ texts, '\n' ∉ t.toList) :
    HasLines (String.join (texts.map asLine)) texts := by
  rw [HasLines, splitOn_join_asLine, flatMap_splitOn h]

/-- Texts give as many lines as they are only if they have no line breaks. -/
theorem lineBreak_not_mem {texts : List String}
    (h : (texts.flatMap fun t => t.toList.splitOn '\n').length = texts.length) :
    ∀ t ∈ texts, '\n' ∉ t.toList := by
  have hcount : (texts.flatMap fun t => t.toList.splitOn '\n').length =
      total (texts.map fun t => t.toList.count '\n') + texts.length := by
    clear h
    induction texts with
    | nil => rfl
    | cons t texts ih =>
      rw [List.flatMap_cons, List.length_append, length_splitOn, ih, List.map_cons, total_cons,
        List.length_cons]
      omega
  have hnone : total (texts.map fun t => t.toList.count '\n') = 0 := by omega
  exact fun t ht => List.count_eq_zero.mp (total_map_eq_zero_iff.mp hnone t ht)

/-- **Lines behind a head.** Texts that have line breaks put behind them give as many lines as they
are exactly if they have no line breaks in them, and then they are the lines. -/
theorem hasLines_append_iff {head texts lines : List String} (hhead : ∀ t ∈ head, '\n' ∉ t.toList)
    (hlength : lines.length = texts.length) :
    HasLines (String.join ((head ++ texts).map asLine)) (head ++ lines) ↔
      lines = texts ∧ ∀ t ∈ texts, '\n' ∉ t.toList := by
  constructor
  · intro h
    rw [HasLines, splitOn_join_asLine, List.append_cancel_right_eq, List.flatMap_append,
      flatMap_splitOn hhead, List.map_append, List.append_cancel_left_eq] at h
    have htexts := lineBreak_not_mem (by rw [h, List.length_map, hlength])
    rw [flatMap_splitOn htexts] at h
    have hinj : Function.Injective String.toList := fun _ _ => String.toList_injective
    exact ⟨(List.map_injective_iff.mpr hinj h).symm, htexts⟩
  · rintro ⟨rfl, htexts⟩
    refine hasLines_join fun t ht => ?_
    exact (List.mem_append.mp ht).elim (hhead t) (htexts t)

end Table

namespace Finding

open Table

/-! ## What fits into the table -/

/-- The lines above the rows. -/
def tableHead : List String :=
  ["# Findings", "", "| File | Line | Checker | Function | Message |",
    "|------|------|---------|----------|---------|"]

/-- The texts in the row of a finding. -/
def rowCells (f : Finding) : List String :=
  [f.file, toString f.line, f.category.checker, f.function, cellText f.message]

/-- **A table of findings**: behind its head there is a line with five cells for each of them. -/
def IsTable (doubled : Bool) (text : String) (number : Nat) : Prop :=
  ∃ rows, HasLines text (tableHead ++ rows) ∧ rows.length = number ∧
    ∀ r ∈ rows, ∃ cells, HasCells doubled r cells ∧ cells.length = 5

/-- **A finding that fits into a row.** Its texts are on one line, the bars of its file and its
function are escaped. Those of its message are not, for readers that take two backslashes for
one. -/
structure FitsTable (doubled : Bool) (f : Finding) : Prop where
  file_line : '\n' ∉ f.file.toList
  function_line : '\n' ∉ f.function.toList
  message_line : '\n' ∉ f.message.toList
  file_bars : freeBars doubled f.file = 0
  function_bars : freeBars doubled f.function = 0
  message_bars : doubled = true → escapedBars doubled f.message = 0

variable {doubled : Bool}

theorem report_eq_join {fs : List Finding} (hne : fs ≠ []) :
    report .markdown fs =
      String.join ((tableHead ++ fs.map fun f => row f.rowCells).map asLine) := by
  have hfull : ¬fs.isEmpty = true := fun h => hne (List.isEmpty_iff.mp h)
  have hrows : (fs.map fun f => row f.rowCells).map asLine = fs.map markdownRow := by
    rw [List.map_map]
    exact List.map_congr_left fun f _ => (tableRow_eq f.rowCells).symm
  have htitle : String.join (tableHead.map asLine) =
      "# Findings\n\n" ++ (tableRow ["File", "Line", "Checker", "Function", "Message"] ++
        "|------|------|---------|----------|---------|\n") := by decide +kernel
  rw [report, listMarkdown, if_neg hfull, List.map_append, String.join_append, htitle, hrows]
  simp only [String.append_assoc]

theorem bars_flatMap_cellText (now : Bool) (cs : List Char) :
    bars doubled false now (cs.flatMap fun c => if c == '|' then ['\\', '|'] else [c]) =
      if doubled then bars doubled true now cs else 0 := by
  induction cs generalizing now with
  | nil => cases doubled <;> rfl
  | cons c cs ih =>
    rw [List.flatMap_cons]
    split
    · next hbar =>
      -- behind the bar nothing is escaped, in the cell as in the text
      obtain rfl := beq_iff_eq.mp hbar
      have hcell : bars doubled false now ('\\' :: '|' :: cs.flatMap fun c =>
          if c == '|' then ['\\', '|'] else [c]) =
            (if escapes doubled now '\\' = false then 1 else 0) +
              if doubled then bars doubled true false cs else 0 := by
        rw [← ih false, bars_cons_of_ne (by decide), bars]
        simp only [true_and]
        rfl
      have htext : bars doubled true now ('|' :: cs) =
          (if now = true then 1 else 0) + bars doubled true false cs := by
        rw [bars]
        simp only [true_and]
        rfl
      refine hcell.trans ?_
      rw [htext]
      cases doubled <;> cases now <;> rfl
    · next hbar =>
      have hc : c ≠ '|' := fun h => hbar (beq_iff_eq.mpr h)
      rw [bars_cons_of_ne hc, List.singleton_append, bars_cons_of_ne hc, ih]

/-- The bars of a text in a cell. Every one gets a backslash, so none is free for those who look for
a backslash only. For those who read backslashes in pairs the ones are free that were escaped. -/
theorem freeBars_cellText (s : String) :
    freeBars doubled (cellText s) = if doubled then escapedBars doubled s else 0 := by
  rw [freeBars, cellText, String.toList_ofList]
  exact bars_flatMap_cellText false s.toList

/-- A bar that has a backslash already. -/
example : freeBars true (cellText "\\|") = 1 ∧ freeBars false (cellText "\\|") = 0 := by
  decide +kernel

theorem lineBreak_mem_cellText_iff (s : String) : '\n' ∈ (cellText s).toList ↔ '\n' ∈ s.toList := by
  rw [cellText, String.toList_ofList, List.mem_flatMap]
  constructor
  · rintro ⟨c, hc, hmem⟩
    split at hmem
    · exact absurd hmem (by decide)
    · exact List.mem_singleton.mp hmem ▸ hc
  · exact fun h => ⟨'\n', h, List.mem_singleton.mpr rfl⟩

theorem fitsTable_iff {f : Finding} : FitsTable doubled f ↔
    (∀ c ∈ f.rowCells, '\n' ∉ c.toList) ∧ ∀ c ∈ f.rowCells, freeBars doubled c = 0 := by
  have hline {c : Char} (hc : JsonValue.isDigit c = false) : c ∉ (toString f.line).toList :=
    JsonValue.not_mem_toString hc
  have hchecker : '\n' ∉ f.category.checker.toList ∧ '|' ∉ f.category.checker.toList := by
    cases f.category <;> decide +kernel
  simp only [rowCells, List.forall_mem_cons, List.not_mem_nil, false_implies, implies_true,
    and_true, lineBreak_mem_cellText_iff, freeBars_cellText]
  constructor
  · intro h
    refine ⟨⟨h.file_line, hline (by decide), hchecker.1, h.function_line, h.message_line⟩,
      h.file_bars, bars_eq_zero (hline (by decide)), bars_eq_zero hchecker.2, h.function_bars, ?_⟩
    split
    · exact h.message_bars ‹_›
    · rfl
  · rintro ⟨⟨hfile, -, -, hfunction, hmessage⟩, hfile', -, -, hfunction', hmessage'⟩
    refine ⟨hfile, hfunction, hmessage, hfile', hfunction', fun hd => ?_⟩
    rwa [if_pos hd] at hmessage'

/-- Behind the head the report has a line for each finding exactly if no text has a line break, and
it is the row of the finding. -/
theorem hasLines_report_iff {fs : List Finding} (hne : fs ≠ []) {rows : List String}
    (hlength : rows.length = fs.length) :
    HasLines (report .markdown fs) (tableHead ++ rows) ↔
      rows = fs.map (fun f => row f.rowCells) ∧ ∀ f ∈ fs, ∀ c ∈ f.rowCells, '\n' ∉ c.toList := by
  have hhead : ∀ t ∈ tableHead, '\n' ∉ t.toList := by decide +kernel
  have hcells (f : Finding) : f.rowCells ≠ [] := List.cons_ne_nil _ _
  rw [report_eq_join hne, hasLines_append_iff hhead (hlength.trans (List.length_map _).symm),
    List.forall_mem_map]
  simp only [lineBreak_mem_row_iff (hcells _), not_exists, not_and]

/-- The report is a table exactly if all findings fit into it. -/
theorem isTable_iff_fitsTable {fs : List Finding} (hne : fs ≠ []) :
    IsTable doubled (report .markdown fs) fs.length ↔ ∀ f ∈ fs, FitsTable doubled f := by
  have hcells (f : Finding) : f.rowCells ≠ [] := List.cons_ne_nil _ _
  constructor
  · rintro ⟨rows, hlines, hlength, hfive⟩ f hf
    obtain ⟨rfl, hbreak⟩ := (hasLines_report_iff hne hlength).mp hlines
    exact fitsTable_iff.mpr ⟨hbreak f hf, (exists_hasCells_row_iff (hcells f)).mp
      (hfive _ (List.mem_map_of_mem hf))⟩
  · intro h
    refine ⟨fs.map fun f => row f.rowCells, ?_, List.length_map _, fun r hr => ?_⟩
    · exact (hasLines_report_iff hne (List.length_map _)).mpr
        ⟨rfl, fun f hf => (fitsTable_iff.mp (h f hf)).1⟩
    · obtain ⟨f, hf, rfl⟩ := List.mem_map.mp hr
      exact (exists_hasCells_row_iff (hcells f)).mpr (fitsTable_iff.mp (h f hf)).2

/-- **The report of findings is a table if and only if they all fit into it.** Then the findings are
the rows, in order, and the texts of each of them are the cells of its row. -/
theorem isTable_report_iff (doubled : Bool) {fs : List Finding} (hne : fs ≠ []) :
    (IsTable doubled (report .markdown fs) fs.length ↔ ∀ f ∈ fs, FitsTable doubled f) ∧
      ((∀ f ∈ fs, FitsTable doubled f) →
        HasLines (report .markdown fs) (tableHead ++ fs.map fun f => row f.rowCells) ∧
          ∀ f ∈ fs, HasCells doubled (row f.rowCells) (f.rowCells.map padded)) := by
  refine ⟨isTable_iff_fitsTable hne, fun h => ⟨?_, fun f hf => ?_⟩⟩
  · exact (hasLines_report_iff hne (List.length_map _)).mpr
      ⟨rfl, fun f hf => (fitsTable_iff.mp (h f hf)).1⟩
  · exact hasCells_row (List.cons_ne_nil _ _) (fitsTable_iff.mp (h f hf)).2

/-- A bar in a message fits for every reader. -/
theorem isTable_report_barInMessage :
    [(⟨"a.c", "f", 3, .forwardNull, "p | q", []⟩ : Finding)] ≠ [] ∧
      IsTable true (report .markdown [⟨"a.c", "f", 3, .forwardNull, "p | q", []⟩]) 1 ∧
      IsTable false (report .markdown [⟨"a.c", "f", 3, .forwardNull, "p | q", []⟩]) 1 := by
  refine ⟨List.cons_ne_nil _ _,
    (isTable_report_iff true (List.cons_ne_nil _ _)).1.mpr fun f hf => ?_,
    (isTable_report_iff false (List.cons_ne_nil _ _)).1.mpr fun f hf => ?_⟩
  all_goals
    obtain rfl := List.mem_singleton.mp hf
    constructor <;> decide +kernel

/-- A bar in the name of a file ends a cell for every reader. -/
theorem not_isTable_report_barInFile :
    ¬IsTable true (report .markdown [⟨"a|b.c", "f", 3, .forwardNull, "m", []⟩]) 1 ∧
      ¬IsTable false (report .markdown [⟨"a|b.c", "f", 3, .forwardNull, "m", []⟩]) 1 := by
  constructor
  all_goals
    intro h
    have hfits := (isTable_iff_fitsTable (List.cons_ne_nil _ _)).mp h _ List.mem_cons_self
    exact absurd hfits.file_bars (by decide +kernel)

end Finding

end NullFlow
