import NullFlow.Proofs.Summary.Round

/-!
# Rounds of summaries

Rounds start from nothing known, and each goes on from what the one before it found. Stopping early
when a round finds nothing new makes no difference (`Summaries.rounds_succ`), so what is known after
some rounds is known after more.

A round that finds something new finds at least one more **pointer parameter**, and there are only
so many of these. That bounds the number of rounds that can find something new by the number of
pointer parameters (`Summaries.round_rounds`); the number of functions is no such bound, for a
function that passes its parameters on to itself needs a round for each of them.
-/

namespace NullFlow

namespace Summaries

variable {graphs : List Graph} {known : Summaries} {function : String} {n i : Nat}

/-- **Stopping early makes no difference**: one round more is one round more. -/
theorem rounds_succ (graphs : List Graph) (n : Nat) (known : Summaries) :
    rounds graphs (n + 1) known = round graphs (rounds graphs n known) := by
  induction n generalizing known with
  | zero =>
    show (if round graphs known = known then known else round graphs known) = round graphs known
    split
    · next h => exact h.symm
    · rfl
  | succ n ih =>
    show (if round graphs known = known then known else rounds graphs (n + 1) (round graphs known))
      = round graphs (if round graphs known = known then known
          else rounds graphs n (round graphs known))
    split
    · next h => exact h.symm
    · exact ih (round graphs known)

/-- **The summaries are what a round finds**, from what the rounds before it have found. -/
theorem compute_eq_round (graphs : List Graph) :
    compute graphs = round graphs (rounds graphs graphs.length none) :=
  rounds_succ graphs graphs.length none

theorem not_holds_none : ¬none.Holds function i := by
  unfold Holds derefsParameter none
  simp

/-- **What is known stays known** in the next round. -/
theorem rounds_within_succ (graphs : List Graph) (n : Nat) :
    (rounds graphs n none).Holds.Within (rounds graphs (n + 1) none).Holds := by
  induction n with
  | zero => exact fun function i h => (not_holds_none h).elim
  | succ n ih =>
    rw [rounds_succ, rounds_succ graphs (n + 1)]
    exact round_mono ih

/-- What one of the rounds finds is known in the end. -/
theorem rounds_within_compute (h : n ≤ graphs.length + 1) :
    (rounds graphs n none).Holds.Within (compute graphs).Holds := by
  unfold compute
  obtain ⟨k, hk⟩ := Nat.exists_eq_add_of_le h
  rw [hk]
  clear h hk
  induction k with
  | zero => exact fun _ _ h => h
  | succ k ih =>
    intro function i h
    exact rounds_within_succ graphs (n + k) function i (ih function i h)

/-! ## Counting parameters -/

/-- The positions of the pointers among some parameters. -/
def pointerPositions (parameters : List Parameter) : List Nat :=
  (List.range parameters.length).filter fun i => (parameters[i]?).any (·.isPointer)

/-- **The pointer parameters of all functions**, each function by its last listed graph. -/
def pointerParameters (graphs : List Graph) : List (String × Nat) :=
  (graphs.map (·.function)).eraseDups.flatMap fun function =>
    ((Graph.lastNamed? graphs function).elim [] (pointerPositions ·.parameters)).map (function, ·)

theorem mem_pointerPositions {parameters : List Parameter} {p : Parameter}
    (hp : parameters[i]? = some p) (hpointer : p.isPointer = true) :
    i ∈ pointerPositions parameters := by
  unfold pointerPositions
  rw [List.mem_filter, List.mem_range]
  obtain ⟨hi, -⟩ := List.getElem?_eq_some_iff.mp hp
  refine ⟨hi, ?_⟩
  rw [hp]
  exact hpointer

theorem mem_pointerParameters {g : Graph} {p : Parameter}
    (hg : Graph.lastNamed? graphs function = some g) (hp : g.parameters[i]? = some p)
    (hpointer : p.isPointer = true) : (function, i) ∈ pointerParameters graphs := by
  unfold pointerParameters
  refine List.mem_flatMap.mpr ⟨function, ?_, ?_⟩
  · rw [List.mem_eraseDups]
    exact List.mem_map.mpr ⟨g, Graph.mem_of_lastNamed? hg, Graph.function_of_lastNamed? hg⟩
  · rw [hg]
    exact List.mem_map.mpr ⟨i, mem_pointerPositions hp hpointer, rfl⟩

/-- What a round finds is a pointer parameter. -/
theorem mem_pointerParameters_of_holds (h : (round graphs known).Holds function i) :
    (function, i) ∈ pointerParameters graphs := by
  obtain ⟨g, p, hg, hp, hd⟩ := holds_round_iff.mp h
  exact mem_pointerParameters hg hp hd.isPointer

/-- How many of the pointer parameters are known to be dereferenced. -/
def count (graphs : List Graph) (known : Summaries) : Nat :=
  total ((pointerParameters graphs).map fun q => if known.derefsParameter q.1 q.2 then 1 else 0)

theorem count_le_length (graphs : List Graph) (known : Summaries) :
    count graphs known ≤ (pointerParameters graphs).length := by
  unfold count
  induction pointerParameters graphs with
  | nil => exact Nat.le_refl _
  | cons q qs ih =>
    rw [List.map_cons, total_cons, List.length_cons]
    split <;> omega

/-- **A round that finds something new finds more.** -/
theorem count_lt_count_round (hgrow : known.Holds.Within (round graphs known).Holds)
    (hnew : (round graphs known).Holds ≠ known.Holds) :
    count graphs known < count graphs (round graphs known) := by
  -- some parameter is found that was not known before
  obtain ⟨function, i, hfound, hunknown⟩ :
      ∃ function i, (round graphs known).Holds function i ∧ ¬known.Holds function i := by
    refine Classical.byContradiction fun hnone => hnew ?_
    funext function i
    exact propext ⟨fun h => Classical.byContradiction fun hn => hnone ⟨function, i, h, hn⟩,
      hgrow function i⟩
  refine total_map_lt (fun q _ => ?_) (mem_pointerParameters_of_holds hfound) ?_
  · by_cases hq : known.derefsParameter q.1 q.2 = true
    · have hq' : (round graphs known).derefsParameter q.1 q.2 = true := hgrow q.1 q.2 hq
      refine Nat.le_of_eq ?_
      rw [if_pos hq, if_pos hq']
    · rw [if_neg hq]
      exact Nat.zero_le _
  · unfold Holds at hfound hunknown
    rw [if_neg hunknown, if_pos hfound]
    exact Nat.zero_lt_one

/-- After rounds that have all found something new, at least one parameter is known for each. -/
theorem lt_count_rounds
    (hnew : (rounds graphs (n + 1) none).Holds ≠ (rounds graphs n none).Holds) :
    n < count graphs (rounds graphs (n + 1) none) := by
  have hgrow := rounds_within_succ graphs n
  induction n with
  | zero =>
    rw [rounds_succ] at hnew hgrow ⊢
    exact Nat.zero_lt_of_lt (count_lt_count_round hgrow hnew)
  | succ n ih =>
    -- the round before has found something new as well, or this one would have found the same
    have hbefore : (rounds graphs (n + 1) none).Holds ≠ (rounds graphs n none).Holds := by
      intro hsame
      refine hnew ?_
      rw [rounds_succ graphs (n + 1), round_congr hsame, ← rounds_succ]
    have hcount := ih hbefore (rounds_within_succ graphs n)
    rw [rounds_succ graphs (n + 1)] at hnew hgrow ⊢
    exact Nat.lt_of_le_of_lt hcount (count_lt_count_round hgrow hnew)

/-- **As many rounds as there are pointer parameters find them all**: one round more finds nothing
new. -/
theorem round_rounds (h : (pointerParameters graphs).length ≤ n + 1) :
    round graphs (rounds graphs (n + 1) none) = rounds graphs (n + 1) none := by
  refine Classical.byContradiction fun hne => ?_
  have hnew : (rounds graphs (n + 2) none).Holds ≠ (rounds graphs (n + 1) none).Holds := by
    intro hsame
    rw [rounds_succ graphs (n + 1)] at hsame
    refine hne ?_
    rw [rounds_succ graphs n] at hsame ⊢
    exact round_eq_of_holds_eq hsame
  have hcount : n + 1 < count graphs (rounds graphs (n + 2) none) := lt_count_rounds hnew
  have hlength := count_le_length graphs (rounds graphs (n + 2) none)
  omega

end Summaries

end NullFlow
