import Std.Data.ExtTreeMap

/-!
# The values of a map

The values of a map in the order of their keys, as they stand in its pairs.
-/

namespace NullFlow

variable {α β : Type} {cmp : α → α → Ordering} [Std.TransCmp cmp] {m : Std.ExtTreeMap α β cmp}

theorem values_eq_map (m : Std.ExtTreeMap α β cmp) : m.values = m.toList.map (·.2) := by
  have hfold : m.values = m.foldr (fun _ b l => b :: l) [] := rfl
  rw [hfold, Std.ExtTreeMap.foldr_eq_foldr_toList]
  induction m.toList with
  | nil => rfl
  | cons a l ih => rw [List.foldr_cons, ih, List.map_cons]

variable [Std.LawfulEqCmp cmp]

/-- **The values are what the keys lead to.** -/
theorem mem_values {b : β} : b ∈ m.values ↔ ∃ a : α, m[a]? = some b := by
  rw [values_eq_map, List.mem_map]
  constructor
  · rintro ⟨⟨a, b⟩, h, rfl⟩
    exact ⟨a, Std.ExtTreeMap.mem_toList_iff_getElem?_eq_some.mp h⟩
  · rintro ⟨a, h⟩
    exact ⟨(a, b), Std.ExtTreeMap.mem_toList_iff_getElem?_eq_some.mpr h, rfl⟩

end NullFlow
