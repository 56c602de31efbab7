import NullFlow.Proofs.Comments.Annotations

/-!
# Annotations by a pattern

What an annotation is can be said by a pattern, `\bERROR:\s*(.*?)\s*(?:\*/)?\s*$`. A **pattern** is
matched with backtracking: from a place in a text there is a list of ways to go on, the preferred
one first (`Text.Pattern.ways`). Greedy repetitions prefer more characters to fewer ones, lazy
repetitions prefer fewer, and of two patterns the first one is preferred. What is found in a text is
the preferred way from the leftmost place from which there is any (`Text.Pattern.find?`).

`Annotation.messageFrom?` reads messages without backtracking. It gives what the group of the
pattern captures, for every text (`Annotation.messageFrom?_eq_find?`).
-/

namespace NullFlow

namespace Text

/-! ## Patterns -/

/-- **A place in a text** that is being matched: the character before it, the text behind it, and
what the group has captured on the way. -/
structure Place where
  before : Option Char
  rest : List Char
  captured : List Char := []

/-- The place so many characters further on. -/
def Place.skip (c : Place) (count : Nat) : Place :=
  { c with before := (c.rest.take count).getLast?.or c.before, rest := c.rest.drop count }

theorem Place.skip_skip (c : Place) (m n : Nat) : (c.skip m).skip n = c.skip (m + n) := by
  unfold skip
  rw [List.take_add, List.getLast?_append, List.drop_drop, Option.or_assoc]

/-- **A pattern** with one group. -/
inductive Pattern where
  /-- Nothing at all. -/
  | nothing
  /-- One character of a class. -/
  | one (isIn : Char → Bool)
  /-- Characters of a class, as many as possible if the repetition is greedy, or as few. -/
  | many (isIn : Char → Bool) (greedy : Bool)
  /-- One pattern behind the other. -/
  | seq (p q : Pattern)
  /-- One of two patterns. -/
  | either (p q : Pattern)
  /-- A pattern whose text is captured. -/
  | group (p : Pattern)
  /-- A place between a character of a word and one that is none. -/
  | wordBoundary
  /-- The end of the text. -/
  | atEnd

namespace Pattern

/-- The pattern of a text. -/
def word : List Char → Pattern
  | [] => .nothing
  | c :: w => .seq (.one (· == c)) (word w)

/-- **The ways to match a pattern** from a place: the places where they end, the preferred one
first. -/
def ways : Pattern → Place → List Place
  | .nothing, c => [c]
  | .one isIn, c => if c.rest.head?.any isIn then [c.skip 1] else []
  | .many isIn greedy, c =>
    let counts := List.range ((c.rest.takeWhile isIn).length + 1)
    (if greedy then counts.reverse else counts).map c.skip
  | .seq p q, c => (p.ways c).flatMap q.ways
  | .either p q, c => p.ways c ++ q.ways c
  | .group p, c => (p.ways c).map fun d =>
    { d with captured := c.rest.take (c.rest.length - d.rest.length) }
  | .wordBoundary, c => if c.before.any isWord != c.rest.head?.any isWord then [c] else []
  | .atEnd, c => if c.rest.isEmpty then [c] else []

/-- **What a pattern finds in a text** behind a character: the preferred way from the leftmost place
from which there is any. -/
def find? (p : Pattern) (before : Option Char) : List Char → Option Place
  | [] => (p.ways ⟨before, [], []⟩).head?
  | c :: r => (p.ways ⟨before, c :: r, []⟩).head?.or (p.find? (some c) r)

/-! ## Where ways end -/

section

variable {isIn : Char → Bool} {greedy : Bool} {c d : Place} {s t w : List Char}

/-- So many characters of a text are of a class if and only if they are where it begins. -/
theorem le_length_takeWhile_iff {k : Nat} : k ≤ (s.takeWhile isIn).length ↔
    k ≤ s.length ∧ ∀ x ∈ s.take k, isIn x = true := by
  constructor
  · intro hk
    have htaken : s.take k <+: s.takeWhile isIn :=
      List.prefix_of_prefix_length_le (List.take_prefix ..) (List.takeWhile_prefix _)
        ((List.length_take_le ..).trans hk)
    exact ⟨hk.trans (List.takeWhile_prefix _).length_le,
      fun x hx => List.mem_takeWhile_imp (htaken.subset hx)⟩
  · rintro ⟨hk, hall⟩
    rw [← List.take_append_drop k s, List.takeWhile_append_of_pos hall, List.length_append,
      List.length_take_of_le hk]
    exact Nat.le_add_right ..

theorem rest_skip (h : c.rest = s ++ t) : (c.skip s.length).rest = t := by
  unfold Place.skip
  rw [h, List.drop_left]

theorem mem_ways_many : d ∈ (many isIn greedy).ways c ↔
    ∃ s t, c.rest = s ++ t ∧ (∀ x ∈ s, isIn x = true) ∧ c.skip s.length = d := by
  have hcount : d ∈ (many isIn greedy).ways c ↔
      ∃ count ≤ (c.rest.takeWhile isIn).length, c.skip count = d := by
    unfold ways
    cases greedy <;> simp only [List.mem_map, List.mem_reverse, List.mem_range, Nat.lt_succ_iff,
      if_true, Bool.false_eq_true, if_false]
  rw [hcount]
  constructor
  · rintro ⟨count, hle, rfl⟩
    obtain ⟨hlength, hall⟩ := le_length_takeWhile_iff.mp hle
    exact ⟨c.rest.take count, c.rest.drop count, (List.take_append_drop count c.rest).symm, hall,
      congrArg c.skip (List.length_take_of_le hlength)⟩
  · rintro ⟨s, t, hrest, hs, rfl⟩
    refine ⟨s.length, le_length_takeWhile_iff.mpr ?_, rfl⟩
    rw [hrest, List.take_left, List.length_append]
    exact ⟨Nat.le_add_right .., hs⟩

theorem ways_word (w : List Char) (c : Place) :
    (word w).ways c = if w.isPrefixOf c.rest then [c.skip w.length] else [] := by
  induction w generalizing c with
  | nil => rfl
  | cons x w ih =>
    show (if c.rest.head?.any (· == x) then [c.skip 1] else []).flatMap (word w).ways = _
    cases hrest : c.rest with
    | nil => rfl
    | cons y rest =>
      have hskip : (c.skip 1).rest = rest := rest_skip (s := [y]) hrest
      have hcons : (x :: w).isPrefixOf (y :: rest) = (y == x && w.isPrefixOf rest) := by
        rw [List.isPrefixOf_cons_cons, BEq.comm]
      rw [hcons, List.length_cons, Nat.add_comm, ← Place.skip_skip]
      show (if (y == x) = true then [c.skip 1] else []).flatMap (word w).ways = _
      cases y == x with
      | false => rfl
      | true =>
        rw [if_pos rfl, List.flatMap_singleton, ih, hskip, Bool.true_and]

theorem mem_ways_word : d ∈ (word w).ways c ↔ ∃ t, c.rest = w ++ t ∧ c.skip w.length = d := by
  rw [ways_word]
  split
  · next h =>
    obtain ⟨t, ht⟩ := List.isPrefixOf_iff_prefix.mp h
    rw [List.mem_singleton]
    exact ⟨fun h => ⟨t, ht.symm, h.symm⟩, fun ⟨_, _, h⟩ => h.symm⟩
  · next h =>
    refine iff_of_false List.not_mem_nil ?_
    rintro ⟨t, ht, -⟩
    exact h (List.isPrefixOf_iff_prefix.mpr ⟨t, ht.symm⟩)

theorem mem_ways_atEnd : d ∈ atEnd.ways c ↔ c.rest = [] ∧ c = d := by
  unfold ways
  cases hrest : c.rest with
  | nil => exact ⟨fun h => ⟨rfl, (List.mem_singleton.mp h).symm⟩, fun h => h.2 ▸ .head _⟩
  | cons x r => exact iff_of_false List.not_mem_nil fun h => by cases h.1

end

/-- **The first of several ways** is the first one from the first place from which there are any. -/
theorem head?_flatMap_range {β : Type} {n : Nat} {f : Nat → List β} {b : β} :
    ((List.range n).flatMap f).head? = some b ↔
      ∃ k < n, (f k).head? = some b ∧ ∀ j < k, f j = [] := by
  induction n with
  | zero => simp
  | succ n ih =>
    have hnone : ((List.range n).flatMap f).head? = none ↔ ∀ k < n, f k = [] := by
      simp only [List.head?_eq_none_iff, List.flatMap_eq_nil_iff, List.mem_range]
    rw [List.range_succ, List.flatMap_append, List.flatMap_singleton, List.head?_append,
      Option.or_eq_some_iff, ih, hnone]
    constructor
    · rintro (⟨k, hk, hfound, hbefore⟩ | ⟨hbefore, hfound⟩)
      · exact ⟨k, Nat.lt_succ_of_lt hk, hfound, hbefore⟩
      · exact ⟨n, Nat.lt_succ_self n, hfound, hbefore⟩
    · rintro ⟨k, hk, hfound, hbefore⟩
      rcases Nat.lt_succ_iff_lt_or_eq.mp hk with hk | rfl
      · exact Or.inl ⟨k, hk, hfound, hbefore⟩
      · exact Or.inr ⟨hbefore, hfound⟩

end Pattern

end Text

namespace Annotation

open Text

/-! ## The pattern of annotations -/

/-- White space, and the mark that closes a comment if there is one, up to the end of a text. -/
def ending : Pattern :=
  .seq (.many isBlank true) <| .seq (.either (.word closingMark) .nothing) <|
    .seq (.many isBlank true) .atEnd

/-- A message on one line, as short as possible. -/
def shortLine : Pattern := .group (.many (· != '\n') false)

/-- **The pattern of annotations.** -/
def pattern : Pattern :=
  .seq .wordBoundary <| .seq (.word marker) <| .seq (.many isBlank true) <| .seq shortLine ending

/-- A text that may stand behind a message. -/
def Closes (t : List Char) : Prop :=
  ∃ gap mark stop, t = gap ++ (mark ++ stop) ∧ Blank gap ∧ Blank stop ∧
    (mark = closingMark ∨ mark = [])

theorem captured_of_mem_ways_ending {c d : Place} (h : d ∈ ending.ways c) :
    d.captured = c.captured := by
  obtain ⟨c₁, h₁, h⟩ := List.mem_flatMap.mp h
  obtain ⟨c₂, h₂, h⟩ := List.mem_flatMap.mp h
  obtain ⟨c₃, h₃, h⟩ := List.mem_flatMap.mp h
  obtain ⟨_, _, -, -, rfl⟩ := Pattern.mem_ways_many.mp h₁
  obtain ⟨_, _, -, -, rfl⟩ := Pattern.mem_ways_many.mp h₃
  obtain ⟨-, rfl⟩ := Pattern.mem_ways_atEnd.mp h
  rcases List.mem_append.mp h₂ with h₂ | h₂
  · obtain ⟨_, -, rfl⟩ := Pattern.mem_ways_word.mp h₂
    rfl
  · cases List.mem_singleton.mp h₂
    rfl

theorem ways_ending_ne_nil_iff {c : Place} : ending.ways c ≠ [] ↔ Closes c.rest := by
  constructor
  · intro h
    obtain ⟨d, h⟩ := List.exists_mem_of_ne_nil _ h
    obtain ⟨c₁, h₁, h⟩ := List.mem_flatMap.mp h
    obtain ⟨c₂, h₂, h⟩ := List.mem_flatMap.mp h
    obtain ⟨c₃, h₃, h⟩ := List.mem_flatMap.mp h
    obtain ⟨gap, t, ht, hgap, rfl⟩ := Pattern.mem_ways_many.mp h₁
    obtain ⟨stop, u, hu, hstop, rfl⟩ := Pattern.mem_ways_many.mp h₃
    have hend : u = [] := (Pattern.rest_skip hu).symm.trans (Pattern.mem_ways_atEnd.mp h).1
    rw [hend, List.append_nil] at hu
    rcases List.mem_append.mp h₂ with h₂ | h₂
    · obtain ⟨v, hv, rfl⟩ := Pattern.mem_ways_word.mp h₂
      rw [Pattern.rest_skip ht] at hv
      rw [Pattern.rest_skip (hv ▸ Pattern.rest_skip ht)] at hu
      exact ⟨gap, closingMark, stop, by rw [ht, hv, hu], hgap, hstop, Or.inl rfl⟩
    · cases List.mem_singleton.mp h₂
      rw [Pattern.rest_skip ht] at hu
      exact ⟨gap, [], stop, by rw [ht, hu, List.nil_append], hgap, hstop, Or.inr rfl⟩
  · rintro ⟨gap, mark, stop, hrest, hgap, hstop, hmark⟩
    have h₁ : (c.skip gap.length).rest = mark ++ stop := Pattern.rest_skip hrest
    have h₂ : ((c.skip gap.length).skip mark.length).rest = stop ++ [] :=
      (Pattern.rest_skip h₁).trans (List.append_nil stop).symm
    refine List.ne_nil_of_mem (a := ((c.skip gap.length).skip mark.length).skip stop.length)
      (List.mem_flatMap.mpr ⟨_, Pattern.mem_ways_many.mpr ⟨gap, _, hrest, hgap, rfl⟩,
        List.mem_flatMap.mpr ⟨(c.skip gap.length).skip mark.length, ?_, List.mem_flatMap.mpr
          ⟨_, Pattern.mem_ways_many.mpr ⟨stop, _, h₂, hstop, rfl⟩,
            Pattern.mem_ways_atEnd.mpr ⟨Pattern.rest_skip h₂, rfl⟩⟩⟩⟩)
    rcases hmark with rfl | rfl
    · exact List.mem_append_left _ (Pattern.mem_ways_word.mpr ⟨stop, h₁, rfl⟩)
    · exact List.mem_append_right _ (List.mem_singleton.mpr rfl)

/-! ## Messages -/

/-- **The shortest text before an ending** is the message. -/
theorem isMessage_of_shortest {s message t : List Char} (hs : s = message ++ t)
    (hhead : ∀ x ∈ s.head?, isBlank x = false) (ht : Closes t)
    (hshort : ∀ m u, s = m ++ u → Closes u → message.length ≤ m.length) :
    IsMessage s message := by
  obtain ⟨gap, mark, stop, rfl, hgap, hstop, hmark⟩ := ht
  refine ⟨[], gap, mark, stop, hs, fun _ h => absurd h List.not_mem_nil, hgap, hstop,
    ⟨fun x hx => hhead x ?_, fun x hx => ?_⟩, hmark.imp_right fun h => ⟨h, ?_⟩⟩
  · rw [hs, List.head?_append, hx]
    rfl
  · obtain ⟨m, rfl⟩ := List.getLast?_eq_some_iff.mp hx
    by_contra hblank
    have hcloses : Closes (x :: gap ++ (mark ++ stop)) :=
      ⟨x :: gap, mark, stop, rfl, List.forall_mem_cons.mpr ⟨by simpa using hblank, hgap⟩, hstop,
        hmark⟩
    have hlength := hshort m _ (by rw [hs, List.append_assoc]; rfl) hcloses
    rw [List.length_append, List.length_singleton] at hlength
    omega
  · rintro ⟨m, rfl⟩
    have hcloses : Closes (closingMark ++ (gap ++ (mark ++ stop))) :=
      ⟨[], closingMark, gap ++ (mark ++ stop), rfl, fun _ h => absurd h List.not_mem_nil,
        by rw [h]; exact List.forall_mem_append.mpr ⟨hgap, hstop⟩, Or.inl rfl⟩
    have hlength := hshort m _ (by rw [hs, List.append_assoc]) hcloses
    rw [List.length_append, show closingMark.length = 2 from rfl] at hlength
    omega

/-- What a message begins with is what the text begins with, if that is no white space. -/
theorem exists_closes {s : List Char} (hhead : ∀ x ∈ s.head?, isBlank x = false) :
    ∃ t, s = messageOf s ++ t ∧ Closes t := by
  obtain ⟨start, gap, mark, stop, hs, hstart, hgap, hstop, -, hmark⟩ := isMessage_messageOf s
  have hnil : start = [] := by
    cases start with
    | nil => rfl
    | cons x start =>
      have hx : isBlank x = false := hhead x (hs ▸ rfl)
      exact absurd (hstart x List.mem_cons_self) (by rw [hx]; exact Bool.false_ne_true)
  rw [hnil, List.nil_append] at hs
  exact ⟨_, hs, gap, mark, stop, rfl, hgap, hstop, hmark.imp_right And.left⟩

/-- The ways to match a message on one line and what ends it, the shortest message first. -/
theorem ways_message (c : Place) : (Pattern.seq shortLine ending).ways c =
    (List.range ((c.rest.takeWhile (· != '\n')).length + 1)).flatMap fun k =>
      ending.ways { c.skip k with captured := c.rest.take k } := by
  show (List.map _ (List.map _ _)).flatMap _ = _
  rw [List.map_map, List.flatMap_map]
  refine List.flatMap_congr fun k hk => ?_
  have hle : k ≤ c.rest.length :=
    (Pattern.le_length_takeWhile_iff.mp (Nat.le_of_lt_succ (List.mem_range.mp hk))).1
  have hlength : c.rest.length - (c.skip k).rest.length = k := by
    show _ - (c.rest.drop k).length = k
    rw [List.length_drop, Nat.sub_sub_self hle]
  show ending.ways { c.skip k with captured := c.rest.take (_ - (c.skip k).rest.length) } = _
  rw [hlength]

/-- A message on one line is at most as long as the line. -/
theorem lt_lineLength_iff {s : List Char} {k : Nat} :
    k < (s.takeWhile (· != '\n')).length + 1 ↔ k ≤ s.length ∧ '\n' ∉ s.take k := by
  rw [Nat.lt_succ_iff, Pattern.le_length_takeWhile_iff]
  refine and_congr_right fun _ => ⟨fun h hmem => ?_, fun h x hx => ?_⟩
  · exact absurd (h _ hmem) (by decide)
  · exact bne_iff_ne.mpr fun heq => h (heq ▸ hx)

theorem ways_message_ne_nil_iff {c : Place} : (Pattern.seq shortLine ending).ways c ≠ [] ↔
    ∃ m t, c.rest = m ++ t ∧ '\n' ∉ m ∧ Closes t := by
  rw [ways_message, ne_eq, List.flatMap_eq_nil_iff]
  simp only [List.mem_range, lt_lineLength_iff]
  constructor
  · intro h
    obtain ⟨k, hk⟩ := not_forall.mp h
    obtain ⟨⟨-, hline⟩, hne⟩ := Classical.not_imp.mp hk
    exact ⟨_, _, (List.take_append_drop k c.rest).symm, hline, ways_ending_ne_nil_iff.mp hne⟩
  · rintro ⟨m, t, hrest, hline, ht⟩ h
    have hle : m.length ≤ c.rest.length :=
      hrest ▸ List.length_append ▸ Nat.le_add_right m.length t.length
    have hline' : '\n' ∉ c.rest.take m.length := by rwa [hrest, List.take_left]
    refine ways_ending_ne_nil_iff.mpr ?_ (h m.length ⟨hle, hline'⟩)
    exact (Pattern.rest_skip hrest) ▸ ht

/-- **A text that begins with no white space** is matched by its message if this is on one line. -/
theorem captured_ways_message {c : Place} (hhead : ∀ x ∈ c.rest.head?, isBlank x = false) :
    ((Pattern.seq shortLine ending).ways c).head?.map (·.captured) =
      if '\n' ∈ messageOf c.rest then none else some (messageOf c.rest) := by
  obtain ⟨t, hrest, ht⟩ := exists_closes hhead
  cases hfound : ((Pattern.seq shortLine ending).ways c).head? with
  | none =>
    have hline : '\n' ∈ messageOf c.rest := by
      by_contra hline
      exact ways_message_ne_nil_iff.mpr ⟨_, t, hrest, hline, ht⟩ (List.head?_eq_none_iff.mp hfound)
    rw [if_pos hline]
    rfl
  | some d =>
    rw [ways_message, Pattern.head?_flatMap_range] at hfound
    obtain ⟨k, hk, hfound, hbefore⟩ := hfound
    obtain ⟨hle, hline⟩ := lt_lineLength_iff.mp hk
    have hmem : d ∈ ending.ways { c.skip k with captured := c.rest.take k } :=
      List.mem_of_mem_head? hfound
    have hmessage : messageOf c.rest = c.rest.take k := by
      refine messageOf_of_isMessage (isMessage_of_shortest (List.take_append_drop k c.rest).symm
        hhead (ways_ending_ne_nil_iff.mp (List.ne_nil_of_mem hmem)) fun m u hm hu => ?_)
      rw [List.length_take_of_le hle]
      by_contra hlt
      refine ways_ending_ne_nil_iff.mpr ?_ (hbefore m.length (Nat.lt_of_not_le hlt))
      exact (Pattern.rest_skip hm) ▸ hu
    rw [Option.map_some, captured_of_mem_ways_ending hmem, hmessage, if_neg hline]

/-! ## Markers -/

/-- White space in front of what may stand behind a message makes no difference. -/
theorem closes_of_append {b s : List Char} (hb : Blank b) (h : Closes (b ++ s)) : Closes s := by
  obtain ⟨gap, mark, stop, hall, hgap, hstop, hmark⟩ := h
  rcases List.append_eq_append_iff.mp hall with ⟨gap', rfl, hs⟩ | ⟨b', rfl, hs⟩
  · exact ⟨gap', mark, stop, hs, (List.forall_mem_append.mp hgap).2, hstop, hmark⟩
  · cases b' with
    | nil => exact ⟨[], mark, stop, hs.symm, fun _ h => absurd h List.not_mem_nil, hstop, hmark⟩
    | cons x b' =>
      have hx : isBlank x = true := hb x (List.mem_append_right _ List.mem_cons_self)
      rcases hmark with rfl | rfl
      · obtain rfl : '*' = x := (List.cons.inj hs).1
        exact absurd hx (by decide)
      · rw [List.nil_append] at hs
        subst hs
        exact ⟨s, [], [], by simp, (List.forall_mem_append.mp hstop).2,
          fun _ h => absurd h List.not_mem_nil, Or.inr rfl⟩

/-- **White space in front of a message** is not part of it. -/
theorem ways_message_eq_nil {c d : Place} {b : List Char} (hb : Blank b)
    (hrest : c.rest = b ++ d.rest) (h : (Pattern.seq shortLine ending).ways d = []) :
    (Pattern.seq shortLine ending).ways c = [] := by
  by_contra hne
  obtain ⟨m, t, hc, hline, ht⟩ := ways_message_ne_nil_iff.mp hne
  refine ways_message_ne_nil_iff.mpr ?_ h
  rcases List.append_eq_append_iff.mp (hrest.symm.trans hc) with ⟨m', rfl, hd⟩ | ⟨b', rfl, rfl⟩
  · exact ⟨m', t, hd, fun hmem => hline (List.mem_append_right _ hmem), ht⟩
  · exact ⟨[], d.rest, rfl, List.not_mem_nil,
      closes_of_append (List.forall_mem_append.mp hb).2 ht⟩

/-- **The group captures the message behind a marker**, if it is on one line. -/
theorem captured_ways_behind (c : Place) :
    ((Pattern.seq (.many isBlank true) (.seq shortLine ending)).ways c).head?.map (·.captured) =
      if '\n' ∈ messageOf c.rest then none else some (messageOf c.rest) := by
  let count := (c.rest.takeWhile isBlank).length
  have hrest : (c.skip count).rest = trimStart c.rest :=
    Pattern.rest_skip List.takeWhile_append_dropWhile.symm
  have hmessage : messageOf c.rest = messageOf (c.skip count).rest := by
    unfold messageOf
    rw [hrest, trimStart_eq_self (head?_trimStart c.rest)]
  have hways : (Pattern.seq (.many isBlank true) (.seq shortLine ending)).ways c =
      (Pattern.seq shortLine ending).ways (c.skip count) ++
        ((List.range count).reverse.map c.skip).flatMap (Pattern.seq shortLine ending).ways := by
    show ((List.range (count + 1)).reverse.map c.skip).flatMap _ = _
    rw [List.range_succ, List.reverse_append, List.map_append, List.flatMap_append]
    exact congrArg (· ++ _) (List.append_nil _)
  -- from a place further back there is only white space to the place in question
  have hfewer (h : (Pattern.seq shortLine ending).ways (c.skip count) = []) :
      ((List.range count).reverse.map c.skip).flatMap (Pattern.seq shortLine ending).ways = [] := by
    refine List.flatMap_eq_nil_iff.mpr fun d hd => ?_
    obtain ⟨k, hk, rfl⟩ := List.mem_map.mp hd
    have hle : k ≤ count := Nat.le_of_lt (List.mem_range.mp (List.mem_reverse.mp hk))
    have hblank : Blank (c.rest.take count) :=
      (Pattern.le_length_takeWhile_iff.mp (Nat.le_refl _)).2
    refine ways_message_eq_nil (b := (c.rest.take count).drop k)
      (fun x hx => hblank x (List.mem_of_mem_drop hx)) ?_ h
    have hsplit := List.take_append_drop (count - k) (c.rest.drop k)
    rw [List.drop_drop, Nat.add_sub_cancel' hle, ← List.drop_take] at hsplit
    exact hsplit.symm
  have hhead : ((Pattern.seq (.many isBlank true) (.seq shortLine ending)).ways c).head? =
      ((Pattern.seq shortLine ending).ways (c.skip count)).head? := by
    rw [hways]
    cases h : (Pattern.seq shortLine ending).ways (c.skip count) with
    | nil => rw [hfewer h, List.append_nil]
    | cons d ds => rfl
  rw [hhead, hmessage]
  exact captured_ways_message (hrest ▸ head?_trimStart c.rest)

/-- **The marker begins a word**, so in front of it no word may end. -/
theorem ways_pattern (before : Option Char) (text : List Char) :
    pattern.ways ⟨before, text, []⟩ =
      if (marker.isPrefixOf text && !before.any isWord) = true then
        (Pattern.seq (.many isBlank true) (.seq shortLine ending)).ways
          ((Place.mk before text []).skip marker.length)
      else [] := by
  have hmarker : (Pattern.word marker).ways ⟨before, text, []⟩ =
      if marker.isPrefixOf text then [(Place.mk before text []).skip marker.length] else [] :=
    Pattern.ways_word marker _
  show (if before.any isWord != text.head?.any isWord then [Place.mk before text []]
    else []).flatMap (fun c => ((Pattern.word marker).ways c).flatMap _) = _
  by_cases hstarts : marker.isPrefixOf text = true
  · have hword : text.head?.any isWord = true := by
      obtain ⟨rest, rfl⟩ := List.isPrefixOf_iff_prefix.mp hstarts
      show isWord 'E' = true
      decide +kernel
    rw [if_pos hstarts] at hmarker
    rw [hword, hstarts, Bool.true_and]
    cases before.any isWord with
    | true => rfl
    | false =>
      show [Place.mk before text []].flatMap _ = _
      rw [List.flatMap_singleton, hmarker, List.flatMap_singleton]
      rfl
  · rw [if_neg hstarts] at hmarker
    rw [Bool.eq_false_iff.mpr hstarts, Bool.false_and, if_neg Bool.false_ne_true]
    split
    · rw [List.flatMap_singleton, hmarker, List.flatMap_nil]
    · rfl

/-- **The message that is read is what the pattern captures**, for every text. -/
theorem messageFrom?_eq_find? (before : Option Char) (text : List Char) :
    messageFrom? before text = (pattern.find? before text).map (·.captured) := by
  induction text generalizing before with
  | nil =>
    have hways : pattern.ways ⟨before, [], []⟩ = [] := ways_pattern before []
    rw [messageFrom?, Pattern.find?, hways]
    rfl
  | cons c text ih =>
    rw [messageFrom?, Pattern.find?, ways_pattern, Option.map_or, ← ih]
    split
    · rw [captured_ways_behind]
      show (if (messageOf ((c :: text).drop marker.length)).contains '\n' = true then _ else _) =
        Option.or (if '\n' ∈ messageOf ((c :: text).drop marker.length) then _ else _) _
      by_cases hline : '\n' ∈ messageOf ((c :: text).drop marker.length)
      · rw [if_pos (List.contains_iff_mem.mpr hline), if_pos hline]
        rfl
      · rw [if_neg fun h => hline (List.contains_iff_mem.mp h), if_neg hline]
        rfl
    · rfl

end Annotation

end NullFlow
