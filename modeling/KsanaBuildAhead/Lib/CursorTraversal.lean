import Mathlib.Data.List.Basic

/-!
# Walking a list behind a cursor

Every element is processed at the place of a cursor, which every element moves on. The whole
walk succeeds when each element does where the cursor stands behind the elements before it.
-/
namespace KsanaBuildAhead.Lib.CursorTraversal

variable {κ α β : Type*} (advance : κ → α → κ) (f : κ → α → Option β)

def traverse (cursor : κ) : List α → Option (List β)
  | [] => some []
  | x :: xs => do
    let y ← f cursor x
    let ys ← traverse (advance cursor x) xs
    some (y :: ys)

variable {advance f} {cursor : κ} {xs : List α}

theorem exists_traverse
    (h : ∀ before x after, xs = before ++ x :: after →
      ∃ y, f (before.foldl advance cursor) x = some y) :
    ∃ ys, traverse advance f cursor xs = some ys := by
  induction xs generalizing cursor with
  | nil => exact ⟨[], rfl⟩
  | cons x xs ih =>
    obtain ⟨y, hy⟩ := h [] x xs rfl
    have hrest : ∀ before other after, xs = before ++ other :: after →
        ∃ y, f (before.foldl advance (advance cursor x)) other = some y :=
      fun before other after hsplit => h (x :: before) other after (by rw [hsplit, List.cons_append])
    obtain ⟨ys, hys⟩ := ih hrest
    refine ⟨y :: ys, ?_⟩
    rw [List.foldl_nil] at hy
    rw [traverse, hy, Option.bind_eq_bind, Option.bind_some, hys]
    rfl

/-- What a successful walk leaves of an element, at the element's place. -/
theorem traverse_at {ys : List β} (h : traverse advance f cursor xs = some ys) {before after : List α}
    {x : α} (hxs : xs = before ++ x :: after) :
    ∃ y, ys[before.length]? = some y ∧ f (before.foldl advance cursor) x = some y := by
  subst hxs
  induction before generalizing cursor ys with
  | nil =>
    obtain ⟨y, hy, h⟩ := Option.bind_eq_some_iff.mp h
    obtain ⟨rest, -, h⟩ := Option.bind_eq_some_iff.mp h
    exact ⟨y, by rw [← Option.some.inj h]; rfl, hy⟩
  | cons first before ih =>
    obtain ⟨y, -, h⟩ := Option.bind_eq_some_iff.mp h
    obtain ⟨rest, hrest, h⟩ := Option.bind_eq_some_iff.mp h
    obtain ⟨found, hfound, hf⟩ := ih hrest
    exact ⟨found, by rw [← Option.some.inj h]; exact hfound, hf⟩

end KsanaBuildAhead.Lib.CursorTraversal
