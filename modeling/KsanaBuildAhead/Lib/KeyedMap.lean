import Mathlib.Data.List.AList

/-!
# Loops over a map

A loop that inserts or erases one key for each element of a list, seen from a
single key: nothing happens to it unless the list names it.
-/
namespace KsanaBuildAhead.Lib.KeyedMap

variable {ι κ β : Type*} [DecidableEq κ] (key : ι → κ) (val : ι → β)

theorem lookup_foldl_erase_of_ne (xs : List ι) (map : AList fun _ : κ => β) {k : κ}
    (h : ∀ x ∈ xs, key x ≠ k) :
    (xs.foldl (fun map x => map.erase (key x)) map).lookup k = map.lookup k := by
  induction xs generalizing map with
  | nil => rfl
  | cons x xs ih =>
    have hne : k ≠ key x := (h x (List.mem_cons_self ..)).symm
    rw [List.foldl_cons, ih _ fun y hy => h y (List.mem_cons_of_mem _ hy), AList.lookup_erase_ne hne]

/-- A key the list names, or that was absent, is absent afterwards. -/
theorem lookup_foldl_erase_eq_none (xs : List ι) (map : AList fun _ : κ => β) {k : κ}
    (h : (∃ x ∈ xs, key x = k) ∨ map.lookup k = none) :
    (xs.foldl (fun map x => map.erase (key x)) map).lookup k = none := by
  induction xs generalizing map with
  | nil => exact h.resolve_left (by simp)
  | cons x xs ih =>
    refine ih (map.erase (key x)) ?_
    by_cases hx : key x = k
    · right
      rw [hx, AList.lookup_erase]
    · rcases h with ⟨y, hy, hk⟩ | hnone
      · obtain rfl | hmem := List.mem_cons.mp hy
        · exact absurd hk hx
        · exact Or.inl ⟨y, hmem, hk⟩
      · right
        rw [AList.lookup_erase_ne (fun hne => hx hne.symm), hnone]

theorem lookup_foldl_insert_of_ne (xs : List ι) (map : AList fun _ : κ => β) {k : κ}
    (h : ∀ x ∈ xs, key x ≠ k) :
    (xs.foldl (fun map x => map.insert (key x) (val x)) map).lookup k = map.lookup k := by
  induction xs generalizing map with
  | nil => rfl
  | cons x xs ih =>
    have hne : k ≠ key x := (h x (List.mem_cons_self ..)).symm
    rw [List.foldl_cons, ih _ fun y hy => h y (List.mem_cons_of_mem _ hy),
      AList.lookup_insert_ne hne]

/-- The last element with a key decides its value. -/
theorem lookup_foldl_insert_last (before after : List ι) (x : ι) (map : AList fun _ : κ => β)
    (h : ∀ y ∈ after, key y ≠ key x) :
    ((before ++ x :: after).foldl (fun map y => map.insert (key y) (val y)) map).lookup (key x) =
      some (val x) := by
  rw [List.foldl_append, List.foldl_cons, lookup_foldl_insert_of_ne key val after _ h,
    AList.lookup_insert]

end KsanaBuildAhead.Lib.KeyedMap
