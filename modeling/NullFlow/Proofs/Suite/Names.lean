import Mathlib.Data.List.DropRight
import NullFlow.Path

/-!
# The names of the files of a suite

A file of a suite is named by the way from the directory of the suite to it. The way is found by
joining the two paths and taking the steps of the directory off again, and the steps do not show how
the directory is spelled. So the name depends on the path of the file alone: it is what that path
says up to its last step (`Path.relativeName_join_eq`).

In the middle of the path its spelling is kept, repeated slashes and dots included. The name is
therefore the names on the way with single slashes between them exactly if the path is spelled so,
but files that lie in different places have different names in any case
(`Path.LeadsDown.relativeName_join`).
-/

namespace NullFlow.Path

/-! ## Parts and steps -/

/-- A part of a path that is no step. -/
def isIdle (part : String) : Bool := (laterStep? part).isNone

/-- The steps that the parts of a path stand for. -/
def stepsOf : List String → List Step
  | [] => []
  | first :: rest => firstStep first :: rest.filterMap laterStep?

/-- The pieces of a text between slashes. -/
def pieces (text : String) : List String := (text.toList.splitOn '/').map String.ofList

variable {part n : String} {path : String} {names : List String}

theorem steps_eq_stepsOf (path : String) : steps path = stepsOf (parts path) := rfl

theorem parts_eq_pieces (h : path ≠ "") : parts path = pieces path :=
  if_neg fun hempty => h (String.isEmpty_iff.mp hempty)

theorem pieces_ne_nil (text : String) : pieces text ≠ [] :=
  fun h => List.splitOn_ne_nil _ _ (List.map_eq_nil_iff.mp h)

theorem pieces_append (s t : String) : pieces (s ++ "/" ++ t) = pieces s ++ pieces t := by
  have hlist : (s ++ "/" ++ t).toList = s.toList ++ '/' :: t.toList := by
    simp only [String.toList_append]
    simp
  rw [pieces, hlist, List.splitOn_append_cons_self, List.map_append]
  rfl

theorem slash_not_mem_of_mem_splitOn {cs part : List Char} (h : part ∈ cs.splitOn '/') :
    '/' ∉ part := by
  induction cs generalizing part with
  | nil =>
    rw [List.splitOn_nil, List.mem_singleton] at h
    exact h ▸ List.not_mem_nil
  | cons c cs ih =>
    rw [List.splitOn_cons_eq_if_modifyHead] at h
    split at h
    · rcases List.mem_cons.mp h with rfl | h
      · exact List.not_mem_nil
      · exact ih h
    · next hc =>
      obtain ⟨first, rest, heq⟩ := List.exists_cons_of_ne_nil (List.splitOn_ne_nil '/' cs)
      rw [heq] at h ih
      rcases List.mem_cons.mp h with rfl | h
      · rw [List.mem_cons, not_or]
        exact ⟨fun hslash => hc (beq_iff_eq.mpr hslash.symm), ih List.mem_cons_self⟩
      · exact ih (List.mem_cons_of_mem first h)

theorem slash_not_mem_of_mem_pieces {text : String} (h : part ∈ pieces text) :
    '/' ∉ part.toList := by
  obtain ⟨cs, hcs, rfl⟩ := List.mem_map.mp h
  rw [String.toList_ofList]
  exact slash_not_mem_of_mem_splitOn hcs

/-- Parts with slashes between them are told apart again. -/
theorem pieces_ofParts {ps : List String} (hne : ps ≠ []) (h : ∀ p ∈ ps, '/' ∉ p.toList) :
    pieces (ofParts ps) = ps := by
  have hsplit : (['/'].intercalate (ps.map String.toList)).splitOn '/' = ps.map String.toList :=
    List.splitOn_intercalate '/' (fun cs hcs => by
      obtain ⟨p, hp, rfl⟩ := List.mem_map.mp hcs
      exact h p hp) fun hnil => hne (List.map_eq_nil_iff.mp hnil)
  have hlist : (ofParts ps).toList = ['/'].intercalate (ps.map String.toList) :=
    String.toList_intercalate
  rw [pieces, hlist, hsplit, List.map_map]
  exact (List.map_congr_left fun p _ => String.ofList_toList).trans (List.map_id ps)

/-- The part of a name is the name. -/
theorem eq_of_firstStep (h : firstStep part = .name n) :
    part = n ∧ laterStep? part = some (.name n) := by
  unfold firstStep at h
  split at h
  case h_4 part hempty hdot hparent =>
    cases h
    refine ⟨rfl, ?_⟩
    unfold laterStep?
    split
    · exact absurd rfl hempty
    · exact absurd rfl hdot
    · exact absurd rfl hparent
    · rfl
  all_goals cases h

theorem eq_of_laterStep? (h : laterStep? part = some (.name n)) : part = n := by
  unfold laterStep? at h
  split at h
  case h_4 => exact Step.name.inj (Option.some.inj h)
  all_goals cases h

theorem eq_of_isIdle (h : isIdle part = true) : part = "" ∨ part = "." := by
  unfold isIdle laterStep? at h
  split at h
  · exact Or.inl rfl
  · exact Or.inr rfl
  · cases h
  · cases h

/-! ## Joining and taking off -/

/-- **The parts of a joined path** are those of the path inside of the directory, behind parts that
stand for the steps of the directory. -/
theorem exists_parts_join (root : String) (hne : path ≠ "") (hrel : isAbsolute path = false) :
    ∃ front, parts (join root path) = front ++ parts path ∧ stepsOf front = steps root := by
  have hjoin : join root path = if root.isEmpty || root.endsWith '/' then root ++ path
      else root ++ "/" ++ path := by
    rw [join, hrel]
    rfl
  rw [hjoin, parts_eq_pieces hne]
  by_cases hroot : root = ""
  · subst hroot
    refine ⟨[], ?_, rfl⟩
    have hempty : "".isEmpty = true := rfl
    rw [hempty, Bool.true_or, if_pos rfl, String.empty_append, parts_eq_pieces hne]
    rfl
  have hempty : root.isEmpty = false :=
    Bool.eq_false_iff.mpr fun h => hroot (String.isEmpty_iff.mp h)
  have hlong (s : String) : s ++ "/" ++ path ≠ "" := fun h => by
    have hlist := congrArg String.toList h
    simp [String.toList_append] at hlist
  rw [hempty, Bool.false_or]
  cases hslash : root.endsWith '/' with
  | true =>
    -- the slash at the end of the directory is the one that divides the two
    obtain ⟨s, rfl⟩ := String.endsWith_char_iff_exists_append.mp hslash
    have hsingle : String.singleton '/' = "/" := rfl
    rw [hsingle] at hroot ⊢
    refine ⟨pieces s, ?_, ?_⟩
    · rw [if_pos rfl, parts_eq_pieces (hlong s), pieces_append]
    · have hparts : parts (s ++ "/") = pieces s ++ [""] := by
        have hlast : pieces "" = [""] := rfl
        rw [parts_eq_pieces hroot, ← hlast, ← pieces_append, String.append_empty]
      obtain ⟨first, rest, heq⟩ := List.exists_cons_of_ne_nil (pieces_ne_nil s)
      rw [steps_eq_stepsOf, hparts, heq, List.cons_append, stepsOf, stepsOf, List.filterMap_append]
      exact (congrArg _ (List.append_nil _)).symm
  | false =>
    refine ⟨pieces root, ?_, ?_⟩
    · rw [if_neg Bool.false_ne_true, parts_eq_pieces (hlong root), pieces_append]
    · rw [steps_eq_stepsOf, parts_eq_pieces hroot]

/-- **The steps of some parts are taken off again**, and parts behind them that are no steps. -/
theorem dropLater_append (front rest : List String) :
    dropLater (front.filterMap laterStep?) (front ++ rest) = some (rest.dropWhile isIdle) := by
  have hidle (steps : List Step) (p : String) (ps : List String) (hp : laterStep? p = none) :
      dropLater steps (p :: ps) = dropLater steps ps := by
    cases steps with
    | nil =>
      rw [dropLater, dropLater, List.dropWhile_cons_of_pos (by rw [hp]; rfl)]
    | cons step more =>
      rw [dropLater, hp]
  induction front with
  | nil =>
    rw [List.filterMap_nil, List.nil_append, dropLater]
    rfl
  | cons p front ih =>
    cases hp : laterStep? p with
    | none =>
      rw [List.filterMap_cons_none hp, List.cons_append, hidle _ _ _ hp, ih]
    | some step =>
      rw [List.filterMap_cons_some hp, List.cons_append, dropLater, hp]
      exact (if_pos rfl).trans ih

/-- A first part that is a step is not dropped from the end. -/
theorem dropEnd_cons {first : String} (h : isIdle first = false) (rest : List String) :
    dropEnd (first :: rest) = first :: dropEnd rest := by
  unfold dropEnd
  rw [List.reverse_cons, List.dropWhile_append]
  split
  · next hnil =>
    have hkeep : List.dropWhile (fun part => (laterStep? part).isNone) [first] = [first] :=
      List.dropWhile_cons_of_neg (by rw [← isIdle, h]; exact Bool.false_ne_true)
    rw [hkeep, List.isEmpty_iff.mp hnil]
    rfl
  · rw [List.reverse_append]
    rfl

/-- What follows the steps of a directory in a path joined to it. -/
theorem below?_join (root : String) {first : String} {rest : List String}
    (hparts : parts path = first :: rest) (hfirst : isIdle first = false)
    (hrel : isAbsolute path = false) :
    below? root (join root path) = some (ofParts (dropEnd (parts path))) := by
  have hne : path ≠ "" := fun h => by
    subst h
    cases hparts
  obtain ⟨front, hjoin, hsteps⟩ := exists_parts_join root hne hrel
  have hwhile : (first :: rest).dropWhile isIdle = first :: rest :=
    List.dropWhile_cons_of_neg (by rw [hfirst]; exact Bool.false_ne_true)
  unfold below?
  rw [← hsteps, hjoin, hparts]
  cases front with
  | nil =>
    have hfirst' : first ≠ "" := fun h => by
      subst h
      cases hfirst
    rw [dropEnd_cons hfirst]
    simp [stepsOf, hfirst']
  | cons f front =>
    simp only [stepsOf, List.cons_append, if_true, dropLater_append, hwhile, Option.map_some]

/-- Text without backslashes stays as it is. -/
theorem withSlashes_ofParts {ps : List String} (h : ∀ p ∈ ps, '\\' ∉ p.toList) :
    withSlashes (ofParts ps) = ofParts ps := by
  have hmem : '\\' ∉ (ofParts ps).toList := by
    induction ps with
    | nil => decide +kernel
    | cons p ps ih =>
      cases ps with
      | nil => exact h p List.mem_cons_self
      | cons q ps =>
        have hrest := ih fun r hr => h r (List.mem_cons_of_mem p hr)
        rw [ofParts, String.intercalate_cons_cons, String.toList_append, String.toList_append,
          List.mem_append, List.mem_append, not_or, not_or]
        exact ⟨⟨h p List.mem_cons_self, by decide +kernel⟩, hrest⟩
  have hmap : (ofParts ps).toList.map (fun c => if c == '\\' then '/' else c) =
      (ofParts ps).toList := by
    refine (List.map_congr_left fun c hc => if_neg fun hb => hmem ?_).trans (List.map_id _)
    exact beq_iff_eq.mp hb ▸ hc
  rw [withSlashes, hmap, String.ofList_toList]

/-! ## Paths that lead down -/

/-- **A path that leads down** by names, one or more of them, and nothing else. -/
structure LeadsDown (path : String) (names : List String) : Prop where
  names_ne_nil : names ≠ []
  steps_eq : steps path = names.map .name
  no_backslash : ∀ n ∈ names, '\\' ∉ n.toList

/-- The names are the parts that are steps. -/
theorem filter_eq_of_filterMap {ps : List String} (h : ps.filterMap laterStep? = names.map .name) :
    ps.filter (fun p => !isIdle p) = names := by
  induction ps generalizing names with
  | nil =>
    exact (List.map_eq_nil_iff.mp h.symm).symm
  | cons p ps ih =>
    cases hp : laterStep? p with
    | none =>
      have hidle : isIdle p = true := by rw [isIdle, hp]; rfl
      rw [List.filterMap_cons_none hp] at h
      rw [List.filter_cons_of_neg (by rw [hidle]; exact Bool.false_ne_true), ih h]
    | some step =>
      have hidle : isIdle p = false := by rw [isIdle, hp]; rfl
      rw [List.filterMap_cons_some hp] at h
      obtain ⟨n, names', rfl, hn, hrest⟩ := List.map_eq_cons_iff.mp h.symm
      rw [List.filter_cons_of_pos (by rw [hidle]; rfl), ih hrest.symm,
        eq_of_laterStep? (hp.trans (congrArg some hn.symm))]

/-- What is left of a path ends in its last step. -/
theorem getLast?_dropEnd (ps : List String) :
    (dropEnd ps).getLast? = (ps.filter fun p => !isIdle p).getLast? := by
  rw [dropEnd, List.getLast?_reverse, ← List.find?_not_eq_head?_dropWhile, List.getLast?_filter]
  rfl

theorem exists_dropEnd_append (ps : List String) :
    ∃ idle, ps = dropEnd ps ++ idle ∧ ∀ p ∈ idle, isIdle p = true :=
  ⟨ps.rtakeWhile isIdle, List.rdropWhile_append_rtakeWhile.symm,
    fun _ => List.mem_rtakeWhile_imp⟩

theorem filter_append_of_isIdle {ps idle : List String} (h : ∀ p ∈ idle, isIdle p = true) :
    (ps ++ idle).filter (fun p => !isIdle p) = ps.filter fun p => !isIdle p := by
  have hnil : idle.filter (fun p => !isIdle p) = [] :=
    List.filter_eq_nil_iff.mpr fun p hp => by rw [h p hp]; exact Bool.false_ne_true
  rw [List.filter_append, hnil, List.append_nil]

namespace LeadsDown

theorem exists_parts (h : LeadsDown path names) :
    ∃ first rest, parts path = first :: rest ∧ isIdle first = false ∧
      (first :: rest).filterMap laterStep? = names.map .name := by
  have hsteps := h.steps_eq
  obtain ⟨n, names', rfl⟩ := List.exists_cons_of_ne_nil h.names_ne_nil
  rw [steps_eq_stepsOf] at hsteps
  cases hparts : parts path with
  | nil =>
    rw [hparts] at hsteps
    cases hsteps
  | cons first rest =>
    rw [hparts, stepsOf, List.map_cons, List.cons.injEq] at hsteps
    obtain ⟨rfl, hlater⟩ := eq_of_firstStep hsteps.1
    refine ⟨first, rest, rfl, by rw [isIdle, hlater]; rfl, ?_⟩
    rw [List.filterMap_cons_some hlater, hsteps.2, List.map_cons]

theorem isAbsolute_eq_false (h : LeadsDown path names) : isAbsolute path = false := by
  obtain ⟨n, names', rfl⟩ := List.exists_cons_of_ne_nil h.names_ne_nil
  rw [isAbsolute, h.steps_eq]
  rfl

theorem filter_parts (h : LeadsDown path names) :
    (parts path).filter (fun p => !isIdle p) = names := by
  obtain ⟨first, rest, hparts, -, hlater⟩ := h.exists_parts
  exact filter_eq_of_filterMap (hparts ▸ hlater)

theorem filter_dropEnd (h : LeadsDown path names) :
    (dropEnd (parts path)).filter (fun p => !isIdle p) = names := by
  obtain ⟨idle, hparts, hidle⟩ := exists_dropEnd_append (parts path)
  rw [← h.filter_parts]
  conv_rhs => rw [hparts]
  exact (filter_append_of_isIdle hidle).symm

theorem slash_not_mem (h : LeadsDown path names) (hn : n ∈ parts path) : '/' ∉ n.toList := by
  have hne : path ≠ "" := fun hnil => by
    obtain ⟨first, rest, hparts, -⟩ := h.exists_parts
    rw [hnil] at hparts
    cases hparts
  exact slash_not_mem_of_mem_pieces (parts_eq_pieces hne ▸ hn)

theorem backslash_not_mem (h : LeadsDown path names) (hn : n ∈ parts path) : '\\' ∉ n.toList := by
  cases hidle : isIdle n with
  | true =>
    rcases eq_of_isIdle hidle with rfl | rfl <;> decide +kernel
  | false =>
    refine h.no_backslash n ?_
    rw [← h.filter_parts, List.mem_filter, hidle]
    exact ⟨hn, rfl⟩

/-- What is left of the path, divided at its slashes. -/
theorem pieces_dropEnd (h : LeadsDown path names) :
    pieces (ofParts (dropEnd (parts path))) = dropEnd (parts path) := by
  refine pieces_ofParts (fun hnil => h.names_ne_nil ?_) fun p hp => h.slash_not_mem ?_
  · rw [← h.filter_dropEnd, hnil, List.filter_nil]
  · exact (List.rdropWhile_prefix isIdle (parts path)).subset hp

/-- **The name of a path in a suite** is the path up to its last step. -/
theorem relativeName_eq (h : LeadsDown path names) (root : String) :
    relativeName root (join root path) = ofParts (dropEnd (parts path)) := by
  obtain ⟨first, rest, hparts, hfirst, -⟩ := h.exists_parts
  rw [relativeName, below?_join root hparts hfirst h.isAbsolute_eq_false, Option.getD_some]
  exact withSlashes_ofParts fun p hp =>
    h.backslash_not_mem ((List.rdropWhile_prefix isIdle (parts path)).subset hp)

/-- Nothing stands between the names if and only if nothing but names is left of the path. -/
theorem dropEnd_eq_iff (h : LeadsDown path names) :
    dropEnd (parts path) = names ↔ ∃ idle, parts path = names ++ idle := by
  constructor
  · intro heq
    obtain ⟨idle, hparts, -⟩ := exists_dropEnd_append (parts path)
    exact ⟨idle, heq ▸ hparts⟩
  · rintro ⟨idle, hparts⟩
    have hfilter := h.filter_parts
    have hnames : ∀ p ∈ names, ¬isIdle p = true := fun p hp => by
      rw [← hfilter, List.mem_filter] at hp
      exact Bool.eq_false_iff.mp ((Bool.not_eq_true' _).mp hp.2)
    -- the names are all the steps there are, so nothing behind them is one
    have hidle : ∀ p ∈ idle.reverse, isIdle p = true := by
      rw [hparts, List.filter_append, List.filter_eq_self.mpr fun p hp => by simp [hnames p hp]]
        at hfilter
      have hnil := List.filter_eq_nil_iff.mp (List.append_right_eq_self.mp hfilter)
      exact fun p hp => by simpa using hnil p (List.mem_reverse.mp hp)
    have hkeep : names.rdropWhile isIdle = names :=
      List.rdropWhile_eq_self_iff.mpr fun hne => hnames _ (List.getLast_mem hne)
    rw [hparts, dropEnd, List.reverse_append]
    exact (congrArg List.reverse (List.dropWhile_append_of_pos hidle)).trans hkeep

/-- **A file has one name however its suite is spelled, and different files have different names.**
The name of a path that leads down from the directory of a suite is the path up to its last name,
so it is the names with single slashes between them exactly if the path is spelled so up to there;
and the names on the way can be told from it. -/
theorem relativeName_join (h : LeadsDown path names) :
    (∃ kept idle, parts path = kept ++ idle ∧ (∀ part ∈ idle, part = "" ∨ part = ".") ∧
      kept.getLast? = names.getLast? ∧
      ∀ root, relativeName root (join root path) = "/".intercalate kept) ∧
    (∀ root, relativeName root (join root path) = "/".intercalate names ↔
      ∃ idle, parts path = names ++ idle) ∧
    ∀ root root' other others, LeadsDown other others →
      relativeName root' (join root' other) = relativeName root (join root path) →
      others = names := by
  refine ⟨?_, fun root => ?_, fun root root' other others hother heq => ?_⟩
  · obtain ⟨idle, hparts, hidle⟩ := exists_dropEnd_append (parts path)
    refine ⟨dropEnd (parts path), idle, hparts, fun p hp => eq_of_isIdle (hidle p hp), ?_,
      h.relativeName_eq⟩
    rw [getLast?_dropEnd, h.filter_parts]
  · rw [h.relativeName_eq, ← h.dropEnd_eq_iff]
    refine ⟨fun heq => ?_, congrArg ofParts⟩
    have hslash : ∀ n ∈ names, '/' ∉ n.toList := fun n hn =>
      h.slash_not_mem (List.mem_of_mem_filter (h.filter_parts ▸ hn))
    rw [← h.pieces_dropEnd, heq]
    exact pieces_ofParts h.names_ne_nil hslash
  · rw [h.relativeName_eq, hother.relativeName_eq] at heq
    rw [← hother.filter_dropEnd, ← hother.pieces_dropEnd, heq, h.pieces_dropEnd, h.filter_dropEnd]

/-- A directory with a dot and with slashes in excess, and a file two levels down. -/
theorem relativeName_join_down :
    LeadsDown "sub/x.c" ["sub", "x.c"] ∧
      relativeName "./suite//" (join "./suite//" "sub/x.c") = "/".intercalate ["sub", "x.c"] := by
  have h : LeadsDown "sub/x.c" ["sub", "x.c"] :=
    ⟨by decide, by decide +kernel, by decide +kernel⟩
  exact ⟨h, (h.relativeName_join.2.1 "./suite//").mpr ⟨[], by decide +kernel⟩⟩

/-- A slash in excess inside of the path stays. -/
theorem relativeName_slashes_kept :
    LeadsDown "a//b.c" ["a", "b.c"] ∧ relativeName "suite" (join "suite" "a//b.c") = "a//b.c" ∧
      relativeName "suite" (join "suite" "a//b.c") ≠ "/".intercalate ["a", "b.c"] :=
  ⟨⟨by decide, by decide +kernel, by decide +kernel⟩, by decide +kernel, by decide +kernel⟩

end LeadsDown

end NullFlow.Path
