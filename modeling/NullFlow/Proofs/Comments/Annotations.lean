import Mathlib.Data.List.Basic
import Mathlib.Data.List.TakeWhile
import NullFlow.Annotation

/-!
# Which comments are annotations

A comment shows an annotation by a marker: its text is taken apart into what stands before the
marker, the marker, where a word begins, and what stands behind it (`Annotation.MarkerAt`). The
message is what is behind the marker, without the white space around it and without the mark that
closes the comment (`Annotation.IsMessage`).

The annotations of a source are, in the order of its comments, one for each comment with a marker
whose message is on one line; it is the first of these markers that counts
(`C.Source.annotations_exact`). A message on several lines is passed over: a comment whose first
marker has one shows no annotation at all, or another one further down
(`C.Source.not_listed_overTwoLines`).
-/

namespace NullFlow

open Text

/-! ## White space at the ends of a text -/

namespace Text

variable {s t : List Char}

/-- **White space only.** -/
def Blank (s : List Char) : Prop := ∀ c ∈ s, isBlank c = true

/-- **No white space at either end.** -/
structure Bare (s : List Char) : Prop where
  head : ∀ c ∈ s.head?, isBlank c = false
  last : ∀ c ∈ s.getLast?, isBlank c = false

theorem trimStart_append (h : Blank s) : trimStart (s ++ t) = trimStart t :=
  List.dropWhile_append_of_pos h

theorem trimStart_eq_self (h : ∀ c ∈ s.head?, isBlank c = false) : trimStart s = s := by
  cases s with
  | nil => rfl
  | cons c s => exact List.dropWhile_cons_of_neg (by rw [h c rfl]; exact Bool.false_ne_true)

theorem head?_trimStart (s : List Char) : ∀ c ∈ (trimStart s).head?, isBlank c = false := by
  intro c hc
  have hnot := List.head?_dropWhile_not isBlank s
  rwa [show (s.dropWhile isBlank).head? = some c from hc] at hnot

theorem exists_trimStart (s : List Char) : ∃ blank, Blank blank ∧ s = blank ++ trimStart s :=
  ⟨s.takeWhile isBlank, fun _ => List.mem_takeWhile_imp, List.takeWhile_append_dropWhile.symm⟩

theorem trimEnd_eq (s : List Char) : trimEnd s = (trimStart s.reverse).reverse := rfl

theorem trimEnd_append (h : Blank t) : trimEnd (s ++ t) = trimEnd s := by
  rw [trimEnd_eq, List.reverse_append, trimStart_append fun c hc => h c (List.mem_reverse.mp hc)]
  rfl

theorem trimEnd_eq_self (h : ∀ c ∈ s.getLast?, isBlank c = false) : trimEnd s = s := by
  rw [trimEnd_eq, trimStart_eq_self, List.reverse_reverse]
  rwa [List.head?_reverse]

theorem getLast?_trimEnd (s : List Char) : ∀ c ∈ (trimEnd s).getLast?, isBlank c = false := by
  rw [trimEnd_eq, List.getLast?_reverse]
  exact head?_trimStart s.reverse

theorem exists_trimEnd (s : List Char) : ∃ blank, Blank blank ∧ s = trimEnd s ++ blank := by
  obtain ⟨blank, hblank, hs⟩ := exists_trimStart s.reverse
  refine ⟨blank.reverse, fun c hc => hblank c (List.mem_reverse.mp hc), ?_⟩
  rw [trimEnd_eq, ← List.reverse_append, ← hs, List.reverse_reverse]

end Text

namespace Annotation

/-! ## Messages -/

/-- The mark that closes a block comment. -/
def closingMark : List Char := ['*', '/']

/-- **The message in the text behind a marker**: the text without the white space around it and
without the mark that closes the comment, if it ends in one. -/
def IsMessage (rest message : List Char) : Prop :=
  ∃ start gap mark stop, rest = start ++ (message ++ (gap ++ (mark ++ stop))) ∧
    Blank start ∧ Blank gap ∧ Blank stop ∧ Bare message ∧
    (mark = closingMark ∨ mark = [] ∧ ¬ closingMark <:+ message)

theorem dropClosing_append (s : List Char) : dropClosing (s ++ closingMark) = s := by
  have hsuffix : ['*', '/'].isSuffixOf (s ++ closingMark) = true :=
    List.isSuffixOf_iff_suffix.mpr (List.suffix_append ..)
  unfold dropClosing
  rw [if_pos hsuffix, List.length_append]
  exact List.take_left

theorem dropClosing_eq_self {s : List Char} (h : ¬ closingMark <:+ s) : dropClosing s = s :=
  if_neg fun hsuffix => h (List.isSuffixOf_iff_suffix.mp hsuffix)

/-- **What is around a message is dropped**, and nothing of the message. -/
theorem messageOf_of_isMessage {rest message : List Char} (h : IsMessage rest message) :
    messageOf rest = message := by
  obtain ⟨start, gap, mark, stop, rfl, hstart, hgap, hstop, hbare, hmark⟩ := h
  have hstar : ∀ c ∈ (closingMark ++ stop).head?, isBlank c = false := by
    rintro _ ⟨⟩
    decide
  have hslash (s : List Char) : ∀ c ∈ (s ++ closingMark).getLast?, isBlank c = false := by
    rw [List.getLast?_append]
    rintro _ ⟨⟩
    decide
  unfold messageOf
  rw [trimStart_append hstart]
  by_cases hnil : message = []
  · subst hnil
    rw [List.nil_append, trimStart_append hgap]
    rcases hmark with rfl | ⟨rfl, -⟩
    · rw [trimStart_eq_self hstar, trimEnd_append hstop,
        trimEnd_eq_self (s := closingMark) (hslash [])]
      rfl
    · have hnone : trimStart stop = [] := List.dropWhile_eq_nil_iff.mpr hstop
      rw [List.nil_append, hnone]
      rfl
  · have hhead : ∀ c ∈ (message ++ (gap ++ (mark ++ stop))).head?, isBlank c = false := by
      rw [List.head?_append_of_ne_nil _ hnil]
      exact hbare.head
    rw [trimStart_eq_self hhead]
    rcases hmark with rfl | ⟨rfl, hmark⟩
    · rw [← List.append_assoc, ← List.append_assoc, trimEnd_append hstop,
        trimEnd_eq_self (hslash _), dropClosing_append, trimEnd_append hgap,
        trimEnd_eq_self hbare.last]
    · rw [List.nil_append, ← List.append_assoc, trimEnd_append hstop, trimEnd_append hgap,
        trimEnd_eq_self hbare.last, dropClosing_eq_self hmark, trimEnd_eq_self hbare.last]

theorem isMessage_messageOf (rest : List Char) : IsMessage rest (messageOf rest) := by
  obtain ⟨start, hstart, hrest⟩ := exists_trimStart rest
  obtain ⟨stop, hstop, htrimmed⟩ := exists_trimEnd (trimStart rest)
  -- what the message begins with is what the text begins with once it is trimmed
  have hhead {message after : List Char} (h : trimStart rest = message ++ after) :
      ∀ c ∈ message.head?, isBlank c = false := by
    intro c hc
    refine head?_trimStart rest c ?_
    rw [h, List.head?_append, hc]
    rfl
  unfold messageOf
  by_cases hmark : closingMark <:+ trimEnd (trimStart rest)
  · obtain ⟨body, hbody⟩ := hmark
    obtain ⟨gap, hgap, hmessage⟩ := exists_trimEnd body
    have hall : trimStart rest = trimEnd body ++ (gap ++ (closingMark ++ stop)) := by
      rw [htrimmed, ← hbody, ← List.append_assoc (trimEnd body), ← hmessage, List.append_assoc]
    rw [← hbody, dropClosing_append]
    exact ⟨start, gap, closingMark, stop, hall ▸ hrest, hstart, hgap, hstop,
      ⟨hhead hall, getLast?_trimEnd body⟩, Or.inl rfl⟩
  · rw [dropClosing_eq_self hmark, trimEnd_eq_self (getLast?_trimEnd _)]
    exact ⟨start, [], [], stop, htrimmed ▸ hrest, hstart, fun _ h => absurd h List.not_mem_nil,
      hstop, ⟨hhead htrimmed, getLast?_trimEnd _⟩, Or.inr ⟨rfl, hmark⟩⟩

/-- **There is one message behind a marker**, the one that is read. -/
theorem isMessage_iff {rest message : List Char} :
    IsMessage rest message ↔ messageOf rest = message :=
  ⟨messageOf_of_isMessage, fun h => h ▸ isMessage_messageOf rest⟩

/-! ## Markers -/

/-- **A marker in a text**, where a word begins, with what stands before and behind it. The text
itself may stand behind a character. -/
structure MarkerAt (preceding : Option Char) (text before rest : List Char) : Prop where
  text_eq : text = before ++ (marker ++ rest)
  boundary : ∀ c ∈ before.getLast?.or preceding, isWord c = false

/-- **The message of the first marker** among those whose messages are as required. -/
def FirstMessage (P : List Char → Prop) (preceding : Option Char) (text message : List Char) :
    Prop :=
  ∃ before rest, MarkerAt preceding text before rest ∧ IsMessage rest message ∧ P message ∧
    ∀ ⦃b r m⦄, MarkerAt preceding text b r → IsMessage r m → P m → before.length ≤ b.length

section

variable {P : List Char → Prop} {preceding : Option Char} {c : Char}
  {text before rest message message' : List Char}

/-- A marker at the beginning of a text is there if it is looked for. -/
theorem markerAt_nil : MarkerAt preceding text [] rest ↔
    (marker.isPrefixOf text && !preceding.any isWord) = true ∧ text.drop marker.length = rest := by
  have hboundary : (!preceding.any isWord) = true ↔ ∀ c ∈ preceding, isWord c = false := by
    cases preceding <;> simp
  rw [Bool.and_eq_true, List.isPrefixOf_iff_prefix, hboundary]
  constructor
  · rintro ⟨rfl, hword⟩
    exact ⟨⟨List.prefix_append marker rest, hword⟩, List.drop_left⟩
  · rintro ⟨⟨⟨r, rfl⟩, hword⟩, rfl⟩
    exact ⟨by rw [List.drop_left]; rfl, hword⟩

/-- A marker further down stands in the text behind the first character. -/
theorem markerAt_cons : MarkerAt preceding (c :: text) (c :: before) rest ↔
    MarkerAt (some c) text before rest := by
  have hlast : (c :: before).getLast?.or preceding = before.getLast?.or (some c) := by
    rw [List.getLast?_cons]
    cases before.getLast? <;> rfl
  constructor
  · rintro ⟨htext, hboundary⟩
    exact ⟨(List.cons.inj htext).2, hlast ▸ hboundary⟩
  · rintro ⟨htext, hboundary⟩
    exact ⟨congrArg (c :: ·) htext, hlast ▸ hboundary⟩

theorem not_firstMessage_nil : ¬ FirstMessage P preceding [] message := by
  rintro ⟨before, rest, ⟨htext, -⟩, -⟩
  have hmarker : marker ≠ [] := by decide
  exact hmarker (List.append_eq_nil_iff.mp (List.append_eq_nil_iff.mp htext.symm).2).1

/-- **The first marker is at the beginning of a text**, or it is the first one behind the first
character. -/
theorem firstMessage_cons : FirstMessage P preceding (c :: text) message ↔
    (∃ rest, MarkerAt preceding (c :: text) [] rest ∧ IsMessage rest message ∧ P message) ∨
    (∀ rest m, MarkerAt preceding (c :: text) [] rest → IsMessage rest m → ¬ P m) ∧
      FirstMessage P (some c) text message := by
  constructor
  · rintro ⟨before, rest, hat, hmessage, hP, hfirst⟩
    cases before with
    | nil => exact Or.inl ⟨rest, hat, hmessage, hP⟩
    | cons d before =>
      obtain rfl : c = d := (List.cons.inj hat.text_eq).1
      refine Or.inr ⟨fun r m hr hm hPm => ?_, before, rest, markerAt_cons.mp hat, hmessage, hP,
        fun b r m hr hm hPm => ?_⟩
      · exact absurd (hfirst hr hm hPm) (by simp)
      · exact Nat.le_of_succ_le_succ (hfirst (markerAt_cons.mpr hr) hm hPm)
  · rintro (⟨rest, hat, hmessage, hP⟩ | ⟨hnone, before, rest, hat, hmessage, hP, hfirst⟩)
    · exact ⟨[], rest, hat, hmessage, hP, fun b _ _ _ _ _ => Nat.zero_le b.length⟩
    · refine ⟨c :: before, rest, markerAt_cons.mpr hat, hmessage, hP, fun b r m hr hm hPm => ?_⟩
      cases b with
      | nil => exact absurd hPm (hnone r m hr hm)
      | cons d b =>
        obtain rfl : c = d := (List.cons.inj hr.text_eq).1
        exact Nat.succ_le_succ (hfirst (markerAt_cons.mp hr) hm hPm)

/-- **There is at most one first message.** -/
theorem FirstMessage.unique (h : FirstMessage P preceding text message)
    (h' : FirstMessage P preceding text message') : message = message' := by
  induction text generalizing preceding with
  | nil => exact absurd h not_firstMessage_nil
  | cons c text ih =>
    rcases firstMessage_cons.mp h with ⟨rest, hat, hm, hP⟩ | ⟨hnone, h⟩ <;>
      rcases firstMessage_cons.mp h' with ⟨rest', hat', hm', hP'⟩ | ⟨hnone', h'⟩
    · have hrest : rest = rest' := List.append_cancel_left (hat.text_eq.symm.trans hat'.text_eq)
      rw [← isMessage_iff.mp hm, ← isMessage_iff.mp hm', hrest]
    · exact absurd hP (hnone' rest message hat hm)
    · exact absurd hP' (hnone rest' message' hat' hm')
    · exact ih h h'

/-- **Of the markers whose messages are as required one is the first**, if there are any. -/
theorem exists_firstMessage (hat : MarkerAt preceding text before rest)
    (hmessage : IsMessage rest message) (hP : P message) :
    ∃ m, FirstMessage P preceding text m := by
  induction before generalizing preceding text with
  | nil =>
    obtain ⟨c, text', rfl⟩ : ∃ c text', text = c :: text' := ⟨_, _, hat.text_eq⟩
    exact ⟨message, firstMessage_cons.mpr (Or.inl ⟨rest, hat, hmessage, hP⟩)⟩
  | cons c before ih =>
    obtain ⟨text', rfl⟩ : ∃ text', text = c :: text' := ⟨_, hat.text_eq⟩
    by_cases hhere : ∃ r m, MarkerAt preceding (c :: text') [] r ∧ IsMessage r m ∧ P m
    · obtain ⟨r, m, hr, hm, hPm⟩ := hhere
      exact ⟨m, firstMessage_cons.mpr (Or.inl ⟨r, hr, hm, hPm⟩)⟩
    · obtain ⟨m, hfirst⟩ := ih (markerAt_cons.mp hat)
      exact ⟨m, firstMessage_cons.mpr
        (Or.inr ⟨fun r m hr hm hPm => hhere ⟨r, m, hr, hm, hPm⟩, hfirst⟩)⟩

/-- **The message that is read is the first one on one line.** -/
theorem messageFrom?_eq_some_iff : messageFrom? preceding text = some message ↔
    FirstMessage ('\n' ∉ ·) preceding text message := by
  induction text generalizing preceding with
  | nil => exact iff_of_false (fun h => by cases h) not_firstMessage_nil
  | cons c text ih =>
    rw [firstMessage_cons, ← ih]
    simp only [markerAt_nil, isMessage_iff]
    rw [messageFrom?]
    extract_lets behind
    by_cases hmarker : (marker.isPrefixOf (c :: text) && !preceding.any isWord) = true
    · rw [if_pos hmarker]
      by_cases hline : '\n' ∈ behind
      · rw [if_pos (List.contains_iff_mem.mpr hline)]
        constructor
        · intro h
          refine Or.inr ⟨?_, h⟩
          rintro _ _ ⟨-, rfl⟩ rfl
          exact not_not_intro hline
        · rintro (⟨_, ⟨-, rfl⟩, rfl, hnot⟩ | ⟨-, h⟩)
          · exact absurd hline hnot
          · exact h
      · rw [if_neg fun h => hline (List.contains_iff_mem.mp h), Option.some.injEq]
        constructor
        · rintro rfl
          exact Or.inl ⟨_, ⟨hmarker, rfl⟩, rfl, hline⟩
        · rintro (⟨_, ⟨-, rfl⟩, rfl, -⟩ | ⟨hnone, -⟩)
          · rfl
          · exact absurd hline (hnone _ _ ⟨hmarker, rfl⟩ rfl)
    · rw [if_neg hmarker]
      constructor
      · exact fun h => Or.inr ⟨fun _ _ hat => absurd hat.1 hmarker, h⟩
      · rintro (⟨_, hat, -⟩ | ⟨-, h⟩)
        · exact absurd hat.1 hmarker
        · exact h

end

/-! ## Annotations -/

/-- **An annotation that a comment shows** by the first of its markers whose messages are as
required. -/
structure Shows (P : List Char → Prop) (c : C.Comment) (a : Annotation) : Prop where
  line : a.line = c.line
  message : FirstMessage P none c.text.toList a.message.toList

theorem ofComment?_eq_some_iff {c : C.Comment} {a : Annotation} :
    ofComment? c = some a ↔ Shows ('\n' ∉ ·) c a := by
  unfold ofComment?
  rw [Option.map_eq_some_iff]
  constructor
  · rintro ⟨m, hm, rfl⟩
    refine ⟨rfl, ?_⟩
    rw [String.toList_ofList]
    exact messageFrom?_eq_some_iff.mp hm
  · rintro ⟨hline, hmessage⟩
    refine ⟨a.message.toList, messageFrom?_eq_some_iff.mpr hmessage, ?_⟩
    rw [← hline, String.ofList_toList]

section

variable {P Q : List Char → Prop} {c : C.Comment} {a a' : Annotation}

/-- A comment shows one annotation at most. -/
theorem Shows.unique (h : Shows P c a) (h' : Shows P c a') : a = a' := by
  have hline := h.line.trans h'.line.symm
  have hmessage := String.toList_inj.mp (h.message.unique h'.message)
  cases a
  cases a'
  simp_all

/-- A comment that shows an annotation by a marker of one kind shows one by a marker of any. -/
theorem Shows.exists_of_imp (hPQ : ∀ m, P m → Q m) (h : Shows P c a) : ∃ a, Shows Q c a := by
  obtain ⟨hline, before, rest, hat, hmessage, hP, -⟩ := h
  obtain ⟨m, hm⟩ := exists_firstMessage hat hmessage (hPQ _ hP)
  exact ⟨⟨c.line, String.ofList m⟩, rfl, by rwa [String.toList_ofList]⟩

/-- The first marker of all is the first one of a kind if it is of that kind. -/
theorem Shows.of_imp (hPQ : ∀ m, P m → Q m) (h : Shows Q c a) (hP : P a.message.toList) :
    Shows P c a := by
  obtain ⟨hline, before, rest, hat, hmessage, -, hfirst⟩ := h
  exact ⟨hline, before, rest, hat, hmessage, hP, fun _ _ _ hr hm hPm => hfirst hr hm (hPQ _ hPm)⟩

end

end Annotation

/-! ## Lists of what is shown -/

/-- **What some of several things show**, in their order: one thing for each that shows any. -/
inductive Listed {α β : Type} (R : α → β → Prop) : List α → List β → Prop
  | nil : Listed R [] []
  | shown {a : α} {b : β} {as : List α} {bs : List β} (h : R a b) (more : Listed R as bs) :
    Listed R (a :: as) (b :: bs)
  | plain {a : α} {as : List α} {bs : List β} (h : ∀ b, ¬ R a b) (more : Listed R as bs) :
    Listed R (a :: as) bs

namespace Listed

variable {α β : Type} {R S : α → β → Prop} {as : List α} {bs cs : List β}

theorem filterMap {f : α → Option β} (h : ∀ a b, f a = some b ↔ R a b) (as : List α) :
    Listed R as (as.filterMap f) := by
  induction as with
  | nil => exact .nil
  | cons a as ih =>
    rw [List.filterMap_cons]
    split
    · next hnone => exact .plain (fun b hb => by cases hnone.symm.trans ((h a b).mpr hb)) ih
    · next b hb => exact .shown ((h a b).mp hb) ih

theorem congr (h : Listed R as bs) (hRS : ∀ a ∈ as, ∀ b, R a b ↔ S a b) : Listed S as bs := by
  induction h with
  | nil => exact .nil
  | shown hab _ ih =>
    obtain ⟨ha, has⟩ := List.forall_mem_cons.mp hRS
    exact .shown ((ha _).mp hab) (ih has)
  | plain hnone _ ih =>
    obtain ⟨ha, has⟩ := List.forall_mem_cons.mp hRS
    exact .plain (fun b hb => hnone b ((ha b).mpr hb)) (ih has)

/-- The more things show something, the longer the list. -/
theorem length_le (h : Listed R as bs) (h' : Listed S as cs)
    (hRS : ∀ a ∈ as, (∃ b, R a b) → ∃ b, S a b) : bs.length ≤ cs.length := by
  induction h generalizing cs with
  | nil => exact Nat.zero_le _
  | shown hab _ ih =>
    obtain ⟨ha, has⟩ := List.forall_mem_cons.mp hRS
    cases h' with
    | shown _ more => exact Nat.succ_le_succ (ih more has)
    | plain hnone _ =>
      obtain ⟨b, hb⟩ := ha ⟨_, hab⟩
      exact absurd hb (hnone b)
  | plain hnone _ ih =>
    obtain ⟨-, has⟩ := List.forall_mem_cons.mp hRS
    cases h' with
    | shown _ more => exact Nat.le_succ_of_le (ih more has)
    | plain _ more => exact ih more has

/-- **If the lists of two kinds of showing are the same**, what is shown is. -/
theorem shows_of_same (h : Listed R as bs) (h' : Listed S as bs)
    (hRS : ∀ a ∈ as, (∃ b, R a b) → ∃ b, S a b)
    (hS : ∀ a b b', S a b → S a b' → b = b') : ∀ a ∈ as, ∀ b, S a b → R a b := by
  induction h with
  | nil => exact fun a ha => absurd ha List.not_mem_nil
  | shown hab more ih =>
    obtain ⟨ha, has⟩ := List.forall_mem_cons.mp hRS
    cases h' with
    | shown hab' more' =>
      exact List.forall_mem_cons.mpr ⟨fun b hb => hS _ _ _ hab' hb ▸ hab, ih more' has⟩
    | plain hnone _ =>
      obtain ⟨b, hb⟩ := ha ⟨_, hab⟩
      exact absurd hb (hnone b)
  | plain hnone more ih =>
    obtain ⟨-, has⟩ := List.forall_mem_cons.mp hRS
    cases h' with
    | shown _ more' => exact absurd (more.length_le more' has) (by simp)
    | plain hnone' more' =>
      exact List.forall_mem_cons.mpr ⟨fun b hb => absurd hb (hnone' b), ih more' has⟩

end Listed

namespace C.Source

open Annotation

/-- **The annotations of a source are those that its comments show** by the first marker whose
message is on one line, in the order of the comments, one for each comment with such a marker. They
are those that the comments show by their very first marker if and only if the messages of all these
are on one line. -/
theorem annotations_exact (s : Source) :
    Listed (Shows ('\n' ∉ ·)) s.comments s.annotations ∧
      (Listed (Shows fun _ => True) s.comments s.annotations ↔
        ∀ c ∈ s.comments, ∀ a, Shows (fun _ => True) c a → '\n' ∉ a.message.toList) := by
  have hlisted : Listed (Shows ('\n' ∉ ·)) s.comments s.annotations :=
    .filterMap (fun _ _ => ofComment?_eq_some_iff) s.comments
  refine ⟨hlisted, fun h c hc a ha => ?_, fun h => hlisted.congr fun c hc a => ⟨?_, ?_⟩⟩
  · have hshown := hlisted.shows_of_same h
      (fun _ _ ⟨_, ha⟩ => ha.exists_of_imp fun _ _ => trivial) (fun _ _ _ => Shows.unique) c hc a ha
    obtain ⟨-, _, _, -, -, hline, -⟩ := hshown
    exact hline
  · intro ha
    obtain ⟨a', ha'⟩ := ha.exists_of_imp (Q := fun _ => True) fun _ _ => trivial
    rwa [ha.unique (ha'.of_imp (fun _ _ => trivial) (h c hc a' ha'))]
  · exact fun ha => ha.of_imp (fun _ _ => trivial) (h c hc a ha)

/-- A source that is a comment with a message on two lines. -/
def overTwoLines : Source where
  text := "/* ERROR: p may be\n   null */\n"
  root := ⟨.translationUnit, none, "/* ERROR: p may be\n   null */\n", 1, 1,
    [⟨.comment, none, "/* ERROR: p may be\n   null */", 1, 1, []⟩]⟩

/-- The comment has a marker, but its message is on two lines: it is not among the annotations. -/
theorem not_listed_overTwoLines :
    ¬ Listed (Shows fun _ => True) overTwoLines.comments overTwoLines.annotations := by
  have hcomments : overTwoLines.comments = [⟨1, "/* ERROR: p may be\n   null */"⟩] := by
    have hinside : overTwoLines.root.comments = [⟨1, "/* ERROR: p may be\n   null */"⟩] := by
      rw [overTwoLines, Node.comments]
      simp only [List.attach_cons, List.attach_nil, List.map_nil, List.flatMap_cons,
        List.flatMap_nil]
      rw [Node.comments]
      rfl
    rw [comments, hinside, List.mergeSort_singleton]
  have hannotations : overTwoLines.annotations = [] := by
    rw [annotations, hcomments]
    decide +kernel
  have hmarker : MarkerAt none "/* ERROR: p may be\n   null */".toList "/* ".toList
      " p may be\n   null */".toList := by
    refine ⟨by decide, ?_⟩
    rintro _ ⟨⟩
    decide +kernel
  obtain ⟨m, hm⟩ := exists_firstMessage (P := fun _ => True) hmarker
    (isMessage_messageOf " p may be\n   null */".toList) trivial
  rw [hcomments, hannotations]
  rintro (- | - | ⟨hnone, -⟩)
  refine hnone ⟨1, String.ofList m⟩ ⟨rfl, ?_⟩
  rw [String.toList_ofList (l := m)]
  exact hm

end C.Source

end NullFlow
