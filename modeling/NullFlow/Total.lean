/-!
# Totals

The total of some numbers. Measures by which a search ends and the counts of a report are totals.
Two totals over the same things compare like their parts: `total_map_le` if no part is greater, and
`total_map_lt` if besides one is smaller. A total is zero only if all its parts are.
-/

namespace NullFlow

/-- **The total of some numbers.** -/
def total : List Nat → Nat
  | [] => 0
  | n :: ns => n + total ns

@[simp] theorem total_nil : total [] = 0 := rfl

@[simp] theorem total_cons (n : Nat) (ns : List Nat) : total (n :: ns) = n + total ns := rfl

theorem total_map_le {α : Type} {f g : α → Nat} {l : List α} (h : ∀ a ∈ l, f a ≤ g a) :
    total (l.map f) ≤ total (l.map g) := by
  induction l with
  | nil => exact Nat.le_refl _
  | cons a l ih =>
    have h₁ := h a List.mem_cons_self
    have h₂ := ih fun b hb => h b (List.mem_cons_of_mem a hb)
    simp only [List.map_cons, total_cons]
    omega

theorem total_map_lt {α : Type} {f g : α → Nat} {l : List α} (h : ∀ a ∈ l, f a ≤ g a) {b : α}
    (hb : b ∈ l) (hlt : f b < g b) : total (l.map f) < total (l.map g) := by
  induction l with
  | nil => cases hb
  | cons a l ih =>
    have h₁ := h a List.mem_cons_self
    have h₂ := total_map_le fun c hc => h c (List.mem_cons_of_mem a hc)
    simp only [List.map_cons, total_cons]
    rcases List.mem_cons.mp hb with rfl | hb
    · omega
    · have h₃ := ih (fun c hc => h c (List.mem_cons_of_mem a hc)) hb
      omega

theorem total_map_eq_zero_iff {α : Type} {f : α → Nat} {l : List α} :
    total (l.map f) = 0 ↔ ∀ a ∈ l, f a = 0 := by
  induction l with
  | nil => exact iff_of_true rfl fun _ ha => nomatch ha
  | cons a l ih =>
    rw [List.map_cons, total_cons, Nat.add_eq_zero_iff, ih, List.forall_mem_cons]

end NullFlow
