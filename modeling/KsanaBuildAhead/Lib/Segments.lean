import Mathlib.Data.List.Basic

/-!
# A list of segments laid out flat

Every element of a list contributes a segment, one behind the other. A position of the flat
list lies in the segment of one element, at an offset from where that segment starts.
-/
namespace KsanaBuildAhead.Lib.Segments

variable {α β : Type*} (f : α → List β)

/-- Where the segment of element `n` starts. -/
def segmentStart (xs : List α) (n : Nat) : Nat := ((xs.take n).flatMap f).length

@[simp] theorem segmentStart_zero (xs : List α) : segmentStart f xs 0 = 0 := by
  simp [segmentStart]

theorem segmentStart_succ {xs : List α} {n : Nat} {x : α} (hx : xs[n]? = some x) :
    segmentStart f xs (n + 1) = segmentStart f xs n + (f x).length := by
  rw [segmentStart, List.take_add_one, hx, List.flatMap_append, List.length_append]
  simp [segmentStart]

theorem segmentStart_mono (xs : List α) {m n : Nat} (h : m ≤ n) :
    segmentStart f xs m ≤ segmentStart f xs n := by
  obtain ⟨k, rfl⟩ := Nat.exists_eq_add_of_le h
  rw [segmentStart, segmentStart, List.take_add, List.flatMap_append, List.length_append]
  exact Nat.le_add_right _ _

theorem segmentStart_cons_succ (x : α) (xs : List α) (n : Nat) :
    segmentStart f (x :: xs) (n + 1) = (f x).length + segmentStart f xs n := by
  simp [segmentStart]

theorem segmentStart_append {xs : List α} (ys : List α) {n : Nat} (h : n ≤ xs.length) :
    segmentStart f (xs ++ ys) n = segmentStart f xs n := by
  rw [segmentStart, segmentStart, List.take_append_of_le_length h]

/-- Only the lengths of the segments count. -/
theorem segmentStart_congr {γ : Type*} {g : α → List γ} (h : ∀ x, (f x).length = (g x).length)
    (xs : List α) (n : Nat) : segmentStart f xs n = segmentStart g xs n := by
  simp only [segmentStart, List.length_flatMap, h]

theorem segmentStart_length (xs : List α) :
    segmentStart f xs xs.length = (xs.flatMap f).length := by
  rw [segmentStart, List.take_length]

/-- Inside its segment an element reads its own values. -/
theorem getElem?_flatMap {xs : List α} {n : Nat} {x : α} (hx : xs[n]? = some x) {j : Nat}
    (hj : j < (f x).length) : (xs.flatMap f)[segmentStart f xs n + j]? = (f x)[j]? := by
  obtain ⟨hn, rfl⟩ := List.getElem?_eq_some_iff.mp hx
  have hsplit : xs.flatMap f =
      (xs.take n).flatMap f ++ (f xs[n] ++ (xs.drop (n + 1)).flatMap f) := by
    rw [← List.flatMap_cons, ← List.drop_eq_getElem_cons hn, ← List.flatMap_append,
      List.take_append_drop]
  rw [hsplit, segmentStart, List.getElem?_append_right (Nat.le_add_right _ _),
    Nat.add_sub_cancel_left, List.getElem?_append_left hj]

/-- Every value of the flat list is read from the segment of one element. -/
theorem exists_segment {xs : List α} {i : Nat} {value : β} (h : (xs.flatMap f)[i]? = some value) :
    ∃ n x j, xs[n]? = some x ∧ (f x)[j]? = some value ∧ i = segmentStart f xs n + j := by
  induction xs generalizing i with
  | nil => simp at h
  | cons x xs ih =>
    rw [List.flatMap_cons] at h
    by_cases hi : i < (f x).length
    · rw [List.getElem?_append_left hi] at h
      exact ⟨0, x, i, rfl, h, by rw [segmentStart_zero, Nat.zero_add]⟩
    · rw [List.getElem?_append_right (by omega)] at h
      obtain ⟨n, y, j, hy, hvalue, hstart⟩ := ih h
      refine ⟨n + 1, y, j, hy, hvalue, ?_⟩
      rw [segmentStart_cons_succ]
      omega

/-- A piece of a list and the one behind it are one piece. -/
theorem drop_take_append {xs : List β} {start middle num : Nat} (hbehind : start ≤ middle)
    (hinside : middle ≤ xs.length) :
    (xs.take middle).drop start ++ (xs.take (middle + num)).drop middle =
      (xs.take (middle + num)).drop start := by
  have hlength : (xs.take middle).length = middle := by
    rw [List.length_take]
    omega
  rw [List.take_add, List.drop_left' hlength, List.drop_append_of_le_length (by omega)]

end KsanaBuildAhead.Lib.Segments
