import Mathlib.Data.List.Basic
import Mathlib.Data.List.TakeDrop
import NullFlow.Json.Read

/-!
# Texts and numbers in JSON

Every character has a spelling, and no spelling begins with another one's, so a text is read off its
spelling character by character (`JsonValue.unspell?_spell`). A spelling holds no quote that is not
escaped, so the quote after it is where the text ends (`JsonValue.readText?_spell`).

A whole number is spelled by its decimal digits, of which the first is a zero only if it is the only
one; anything that is no part of a number may follow (`JsonValue.readNumber?_digits`).
-/

namespace NullFlow

open Text (hexDigit hexValue?)

theorem Text.hexValue?_hexDigit : ∀ n < 16, hexValue? (hexDigit n) = some n := by decide

namespace JsonValue

/-! ## Texts -/

section Texts

variable {c e : Char} {r : List Char}

/-- **The three kinds of spellings**: a backslash before a letter or a mark, four hexadecimal
digits, or the character itself. -/
theorem spellChar_cases (c : Char) :
    (∃ e, e ≠ 'u' ∧ shortEscape? e = some c ∧ spellChar c = ['\\', e]) ∨
    (c.toNat < 0x20 ∧ spellChar c =
      ['\\', 'u', '0', '0', hexDigit (c.toNat / 16), hexDigit (c.toNat % 16)]) ∨
    (c ≠ '"' ∧ c ≠ '\\' ∧ ¬c.toNat < 0x20 ∧ spellChar c = [c]) := by
  unfold spellChar
  -- one case for each of the seven characters with an escape of their own
  iterate 7
    split
    · next h => exact Or.inl ⟨_, by decide, by rw [h]; rfl, rfl⟩
  next hquote hbackslash _ _ _ _ _ =>
    split
    · next h => exact Or.inr (Or.inl ⟨h, rfl⟩)
    · next h => exact Or.inr (Or.inr ⟨hquote, hbackslash, h, rfl⟩)

/-- The escape of a small number stands for it. -/
theorem hex4?_of_lt {n : Nat} (h : n < 256) :
    hex4? '0' '0' (hexDigit (n / 16)) (hexDigit (n % 16)) = some n := by
  have hzero : hexValue? '0' = some 0 := by decide
  have hhigh := Text.hexValue?_hexDigit (n / 16) (by omega)
  have hlow := Text.hexValue?_hexDigit (n % 16) (by omega)
  unfold hex4?
  simp only [hzero, hhigh, hlow, Option.bind_eq_bind, Option.bind_some, Option.pure_def,
    Option.some.injEq]
  omega

/-! ### Reading characters off their spelling -/

theorem unspell?_cons (h : c ≠ '\\') : unspell? (c :: r) = (unspell? r).map (c :: ·) := by
  rw [unspell?]
  · rw [if_neg h]
  · rintro a b d e s rfl
    exact absurd rfl h
  · rintro e s rfl
    exact absurd rfl h

theorem unspell?_escape (hu : e ≠ 'u') (he : shortEscape? e = some c) :
    unspell? ('\\' :: e :: r) = (unspell? r).map (c :: ·) := by
  rw [unspell?]
  · rw [he]
    rfl
  · rintro a b d e s rfl
    exact absurd rfl hu

theorem unspell?_control (h : c.toNat < 0x20) :
    unspell? ('\\' :: 'u' :: '0' :: '0' :: hexDigit (c.toNat / 16) :: hexDigit (c.toNat % 16) :: r)
      = (unspell? r).map (c :: ·) := by
  rw [unspell?, hex4?_of_lt (by omega)]
  simp only [Option.bind_eq_bind, Option.bind_some]
  rw [if_neg (by omega), if_neg (by omega), Char.ofNat_toNat]

theorem unspell?_spellChar_append (c : Char) (r : List Char) :
    unspell? (spellChar c ++ r) = (unspell? r).map (c :: ·) := by
  obtain ⟨e, hu, he, hspell⟩ | ⟨h, hspell⟩ | ⟨-, h, -, hspell⟩ := spellChar_cases c <;> rw [hspell]
  · exact unspell?_escape hu he
  · exact unspell?_control h
  · exact unspell?_cons h

/-- **A text is read off its spelling.** -/
theorem unspell?_spell (s : String) : unspell? (spell s) = some s.toList := by
  unfold spell
  induction s.toList with
  | nil => rfl
  | cons c cs ih => rw [List.flatMap_cons, unspell?_spellChar_append, ih, Option.map_some]

/-! ### Finding the end of a text -/

theorem readText?_cons (hquote : c ≠ '"') (hbackslash : c ≠ '\\') (h : ¬c.toNat < 0x20) :
    readText? (c :: r) = (readText? r).map fun (s, rest) => (c :: s, rest) := by
  rw [readText?]
  · rw [if_neg (not_or.mpr ⟨hbackslash, h⟩)]
  · exact hquote
  · rintro a b d e s rfl
    exact absurd rfl hbackslash
  · rintro e s rfl
    exact absurd rfl hbackslash

theorem readText?_escape (hu : e ≠ 'u') (he : shortEscape? e = some c) :
    readText? ('\\' :: e :: r) = (readText? r).map fun (s, rest) => ('\\' :: e :: s, rest) := by
  rw [readText?]
  · rw [he]
    rfl
  · rintro a b d e s rfl
    exact absurd rfl hu

theorem readText?_control (h : c.toNat < 0x20) :
    readText?
        ('\\' :: 'u' :: '0' :: '0' :: hexDigit (c.toNat / 16) :: hexDigit (c.toNat % 16) :: r) =
      (readText? r).map fun (s, rest) =>
        ('\\' :: 'u' :: '0' :: '0' :: hexDigit (c.toNat / 16) :: hexDigit (c.toNat % 16) :: s,
          rest) := by
  rw [readText?, hex4?_of_lt (by omega)]
  rfl

theorem readText?_spellChar_append (c : Char) (r : List Char) :
    readText? (spellChar c ++ r) =
      (readText? r).map fun (s, rest) => (spellChar c ++ s, rest) := by
  obtain ⟨e, hu, he, hspell⟩ | ⟨h, hspell⟩ | ⟨hquote, hbackslash, h, hspell⟩ :=
    spellChar_cases c <;> rw [hspell]
  · exact readText?_escape hu he
  · exact readText?_control h
  · exact readText?_cons hquote hbackslash h

/-- **A text ends at the quote after its spelling.** -/
theorem readText?_spell (s : String) (rest : List Char) :
    readText? (spell s ++ '"' :: rest) = some (spell s, rest) := by
  unfold spell
  induction s.toList with
  | nil => rfl
  | cons c cs ih =>
    rw [List.flatMap_cons, List.append_assoc, readText?_spellChar_append, ih, Option.map_some]

end Texts

/-! ## Numbers -/

section Numbers

variable {n : Nat} {rest : List Char}

/-- **What may follow a value** in a list or an object: a comma, a line break, or nothing. -/
def Follows (rest : List Char) : Prop := ∀ c ∈ rest.head?, c = ',' ∨ c = '\n'

theorem isDigit_of_mem_toDigits {c : Char} (h : c ∈ Nat.toDigits 10 n) : isDigit c = true := by
  have hc := Nat.isDigit_of_mem_toDigits (by decide) (by decide) h
  simpa [isDigit, Char.isDigit, Char.le_def, UInt32.le_iff_toNat_le] using hc

theorem not_mem_toString {c : Char} (h : isDigit c = false) : c ∉ (toString n).toList := by
  rw [Nat.toString_eq_repr, Nat.toList_repr]
  intro hmem
  rw [isDigit_of_mem_toDigits hmem] at h
  cases h

theorem digits?_eq_some (ds : List Char) (h : ∀ c ∈ ds, isDigit c = true) (before : Nat) :
    digits? before ds = some (Nat.ofDigitChars 10 ds before) := by
  induction ds generalizing before with
  | nil => rfl
  | cons c ds ih =>
    have hc := h c List.mem_cons_self
    simp only [isDigit, Bool.and_eq_true, decide_eq_true_eq] at hc
    rw [digits?, if_pos hc, ih fun d hd => h d (List.mem_cons_of_mem c hd), Nat.ofDigitChars_cons]

/-- **A number is read off its digits.** -/
theorem digits?_toDigits (n : Nat) : digits? 0 (Nat.toDigits 10 n) = some n := by
  rw [digits?_eq_some _ fun _ => isDigit_of_mem_toDigits,
    Nat.ofDigitChars_toDigits (by decide) (by decide)]

/-- Only zero begins with a zero. -/
theorem head?_toDigits_ne (h : n ≠ 0) : (Nat.toDigits 10 n).head? ≠ some '0' := by
  induction n using Nat.strongRecOn with
  | _ n ih =>
    by_cases hn : n < 10
    · rw [Nat.toDigits_of_lt_base hn, List.head?_cons, ne_eq, Option.some.injEq]
      intro hzero
      have hdigit := Nat.toNat_digitChar_of_lt_ten hn
      rw [hzero] at hdigit
      exact h (Nat.add_left_cancel hdigit.symm)
    · rw [Nat.toDigits_of_base_le (by decide) (by omega),
        List.head?_append_of_ne_nil _ Nat.toDigits_ne_nil]
      exact ih (n / 10) (by omega) (by omega)

/-- No digit follows. -/
theorem Follows.takeWhile_dropWhile (h : Follows rest) :
    rest.takeWhile isDigit = [] ∧ rest.dropWhile isDigit = rest := by
  cases rest with
  | nil => exact ⟨rfl, rfl⟩
  | cons c rest =>
    have hc : isDigit c = false := by
      rcases h c rfl with rfl | rfl <;> decide
    rw [List.takeWhile_cons_of_neg (by rw [hc]; exact Bool.false_ne_true),
      List.dropWhile_cons_of_neg (by rw [hc]; exact Bool.false_ne_true)]
    exact ⟨rfl, rfl⟩

theorem readDigits?_digits {ds : List Char} (hne : ds ≠ []) (hds : ∀ c ∈ ds, isDigit c = true)
    (h : Follows rest) : readDigits? (ds ++ rest) = some (ds, rest) := by
  obtain ⟨htake, hdrop⟩ := h.takeWhile_dropWhile
  unfold readDigits?
  rw [List.span_eq_takeWhile_dropWhile, List.takeWhile_append_of_pos hds,
    List.dropWhile_append_of_pos hds, htake, hdrop, List.append_nil]
  split
  · next heq => exact absurd (congrArg Prod.fst heq) hne
  · next heq => rw [heq]

theorem readWhole?_digits (n : Nat) (h : Follows rest) :
    readWhole? (Nat.toDigits 10 n ++ rest) = some (Nat.toDigits 10 n, rest) := by
  have hdigits := readDigits?_digits Nat.toDigits_ne_nil
    (fun c hc => isDigit_of_mem_toDigits (n := n) hc) h
  by_cases hn : n = 0
  · -- a single zero, after which no digit may come
    subst hn
    have hzero : Nat.toDigits 10 0 = ['0'] := by decide
    rw [hzero] at hdigits ⊢
    cases rest with
    | nil => exact hdigits
    | cons c rest =>
      have hc : isDigit c = false := by
        rcases h c rfl with rfl | rfl <;> decide
      rw [List.singleton_append, readWhole?, hc]
      rfl
  · unfold readWhole?
    split
    · next c r heq =>
      have hhead := head?_toDigits_ne hn
      rw [← List.head?_append_of_ne_nil _ Nat.toDigits_ne_nil, heq] at hhead
      exact absurd rfl hhead
    · exact hdigits

theorem readFraction?_eq (h : Follows rest) : readFraction? rest = some ([], rest) := by
  cases rest with
  | nil => rfl
  | cons c rest => rcases h c rfl with rfl | rfl <;> rfl

theorem readExponent?_eq (h : Follows rest) : readExponent? rest = some ([], rest) := by
  match rest, h with
  | [], _ => rfl
  | [c], h => rcases h c rfl with rfl | rfl <;> rfl
  | c :: d :: rest, h => rcases h c rfl with rfl | rfl <;> rfl

/-- **A number ends where its digits end.** -/
theorem readNumber?_digits (n : Nat) (h : Follows rest) :
    readNumber? (Nat.toDigits 10 n ++ rest) = some (Nat.toDigits 10 n, rest) := by
  have hsign : ∀ r, Nat.toDigits 10 n ++ rest ≠ '-' :: r := by
    intro r heq
    have hmem : '-' ∈ Nat.toDigits 10 n := by
      refine List.mem_of_mem_head? ?_
      rw [← List.head?_append_of_ne_nil _ Nat.toDigits_ne_nil, heq]
      rfl
    exact absurd (isDigit_of_mem_toDigits hmem) (by decide)
  unfold readNumber?
  split
  next sign s heq =>
    split at heq
    · next r hr => exact absurd hr (hsign r)
    · cases heq
      simp only [readWhole?_digits n h, readFraction?_eq h, readExponent?_eq h,
        Option.bind_eq_bind, Option.bind_some, List.nil_append, List.append_nil, Option.pure_def]

end Numbers

end JsonValue

end NullFlow
