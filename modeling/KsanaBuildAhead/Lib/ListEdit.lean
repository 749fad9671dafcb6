import Mathlib.Data.List.Basic

/-!
# In-place edits of a vector

Consecutive assignments, range erasure and resizing of a list, each with the
equation it satisfies on a list already split at the edited positions.
-/
namespace KsanaBuildAhead.Lib.ListEdit

variable {α : Type*}

/-- The assignments `xs[start] = v₀`, `xs[start+1] = v₁`, and so on. -/
def overwrite (xs : List α) (start : Nat) : List α → List α
  | [] => xs
  | v :: vs => overwrite (xs.set start v) (start + 1) vs

/-- Remove the elements at the positions from `first` up to, not including, `last`. -/
def eraseRange (xs : List α) (first last : Nat) : List α :=
  xs.take first ++ xs.drop last

/-- Exactly `n` elements: `xs` cut at `n`, or padded with `fill`. -/
def resize (xs : List α) (n : Nat) (fill : α) : List α :=
  xs.take n ++ List.replicate (n - xs.length) fill

/-- An element of a list with `x` behind it is one of the list, or `x` itself at the end. -/
theorem getElem?_concat_eq_some {xs : List α} {x y : α} {i : Nat} (h : (xs ++ [x])[i]? = some y) :
    xs[i]? = some y ∨ (i = xs.length ∧ y = x) := by
  by_cases hi : i < xs.length
  · rw [List.getElem?_append_left hi] at h
    exact Or.inl h
  · have hbound := (List.getElem?_eq_some_iff.mp h).1
    rw [List.length_append, List.length_singleton] at hbound
    obtain rfl : i = xs.length := by omega
    rw [List.getElem?_concat_length] at h
    exact Or.inr ⟨rfl, (Option.some.inj h).symm⟩

@[simp] theorem overwrite_nil (xs : List α) (start : Nat) : overwrite xs start [] = xs := rfl

@[simp] theorem overwrite_length (xs : List α) (start : Nat) (vals : List α) :
    (overwrite xs start vals).length = xs.length := by
  induction vals generalizing xs start with
  | nil => rfl
  | cons v vs ih => simp [overwrite, ih]

/-- Assignments from `start` on leave what stands before it. -/
theorem overwrite_getElem?_of_lt (xs vals : List α) {start i : Nat} (h : i < start) :
    (overwrite xs start vals)[i]? = xs[i]? := by
  induction vals generalizing xs start with
  | nil => rfl
  | cons v vs ih =>
    rw [overwrite, ih (xs.set start v) (by omega), List.getElem?_set_ne (by omega)]

theorem overwrite_getElem?_start (xs vals : List α) {start : Nat} (v : α)
    (h : start < xs.length) : (overwrite xs start (v :: vals))[start]? = some v := by
  rw [overwrite, overwrite_getElem?_of_lt _ _ (Nat.lt_succ_self start), List.getElem?_set_self h]

theorem take_overwrite (xs vals : List α) (start : Nat) :
    (overwrite xs start vals).take start = xs.take start := by
  apply List.ext_getElem?
  intro i
  by_cases hi : i < start
  · rw [List.getElem?_take_of_lt hi, List.getElem?_take_of_lt hi, overwrite_getElem?_of_lt _ _ hi]
  · rw [List.getElem?_eq_none (by rw [List.length_take]; omega),
      List.getElem?_eq_none (by rw [List.length_take]; omega)]

/-- Overwriting with what already stands there changes nothing. -/
theorem overwrite_of_standing {xs vals : List α} {start : Nat} (h : vals <+: xs.drop start) :
    overwrite xs start vals = xs := by
  induction vals generalizing start with
  | nil => rfl
  | cons v vs ih =>
    obtain ⟨rest, hrest⟩ := h
    have hread : xs[start]? = some v := by
      rw [← List.head?_drop, ← hrest]
      rfl
    have hbound := (List.getElem?_eq_some_iff.mp hread).1
    have hset : xs.set start v = xs := by
      rw [← (List.getElem?_eq_some_iff.mp hread).2, List.set_getElem_self]
    rw [overwrite, hset]
    refine ih ⟨rest, ?_⟩
    rw [← List.tail_drop, ← hrest]
    rfl

/-- Overwriting from the end of a known prefix replaces what stood there. -/
theorem overwrite_append (pre old vals : List α) (hfit : vals.length ≤ old.length) :
    overwrite (pre ++ old) pre.length vals = pre ++ vals ++ old.drop vals.length := by
  induction vals generalizing pre old with
  | nil => simp
  | cons v vs ih =>
    obtain _ | ⟨o, old⟩ := old
    · simp at hfit
    · have hset : (pre ++ o :: old).set pre.length v = (pre ++ [v]) ++ old := by
        rw [List.set_append_right _ _ (Nat.le_refl _), Nat.sub_self]
        simp
      have hrest := ih (pre ++ [v]) old (by simpa using hfit)
      rw [overwrite, hset]
      simpa using hrest

/-- Up to the end of the assignments stand the old elements before them and the new values. -/
theorem take_overwrite_end (xs vals : List α) {start : Nat}
    (hroom : start + vals.length ≤ xs.length) :
    (overwrite xs start vals).take (start + vals.length) = xs.take start ++ vals := by
  have hpre : (xs.take start).length = start := List.length_take_of_le (by omega)
  have hwritten := overwrite_append (xs.take start) (xs.drop start) vals (by
    rw [List.length_drop]
    omega)
  rw [List.take_append_drop, hpre] at hwritten
  rw [hwritten, List.take_left' (by rw [List.length_append, hpre])]

/-- Filling a block of equal placeholders writes the values that fit and leaves the rest. -/
theorem overwrite_replicate (pre suf vals : List α) (n : Nat) (fill : α) :
    overwrite (pre ++ (List.replicate n fill ++ suf)) pre.length (vals.take n) =
      pre ++ (resize vals n fill ++ suf) := by
  have hfit : (vals.take n).length ≤ (List.replicate n fill ++ suf).length := by
    simp only [List.length_take, List.length_append, List.length_replicate]
    omega
  have hdrop : (List.replicate n fill ++ suf).drop (vals.take n).length =
      List.replicate (n - vals.length) fill ++ suf := by
    have hle : (vals.take n).length ≤ (List.replicate n fill).length := by
      simp only [List.length_take, List.length_replicate]
      omega
    rw [List.drop_append_of_le_length hle, List.drop_replicate, List.length_take]
    congr 2
    omega
  rw [overwrite_append pre _ _ hfit, hdrop]
  simp [resize]

@[simp] theorem resize_length (xs : List α) (n : Nat) (fill : α) :
    (resize xs n fill).length = n := by
  simp only [resize, List.length_append, List.length_take, List.length_replicate]
  omega

theorem eraseRange_length (xs : List α) {first last : Nat} (hle : first ≤ last)
    (hroom : last ≤ xs.length) : (eraseRange xs first last).length = xs.length - (last - first) := by
  simp only [eraseRange, List.length_append, List.length_take, List.length_drop]
  omega

/-- Nothing is padded when at least `n` elements are there. -/
theorem resize_eq_take (xs : List α) {n : Nat} (fill : α) (h : n ≤ xs.length) :
    resize xs n fill = xs.take n := by
  simp [resize, Nat.sub_eq_zero_of_le h]

/-- Erasing the middle of a list split in three. -/
theorem eraseRange_append (pre mid suf : List α) :
    eraseRange (pre ++ (mid ++ suf)) pre.length (pre.length + mid.length) = pre ++ suf := by
  have hdrop : (pre ++ (mid ++ suf)).drop (pre.length + mid.length) = suf := by
    rw [← List.append_assoc, ← List.length_append, List.drop_left]
  rw [eraseRange, List.take_left, hdrop]

/-- Overwriting the head of a block and erasing the rest of it replaces the block. -/
theorem eraseRange_overwrite (pre old vals suf : List α) (hfit : vals.length ≤ old.length) :
    eraseRange (overwrite (pre ++ (old ++ suf)) pre.length vals)
      (pre.length + vals.length) (pre.length + old.length) = pre ++ (vals ++ suf) := by
  have hwrite : overwrite (pre ++ (old ++ suf)) pre.length vals =
      (pre ++ vals) ++ (old.drop vals.length ++ suf) := by
    rw [overwrite_append pre (old ++ suf) vals (by simp only [List.length_append]; omega),
      List.drop_append_of_le_length hfit]
  have herase := eraseRange_append (pre ++ vals) (old.drop vals.length) suf
  have hlast : (pre ++ vals).length + (old.drop vals.length).length = pre.length + old.length := by
    simp only [List.length_append, List.length_drop]
    omega
  rw [hlast, List.length_append] at herase
  rw [hwrite, herase, List.append_assoc]

end KsanaBuildAhead.Lib.ListEdit
