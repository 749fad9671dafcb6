import Mathlib.Data.List.Sort
import Mathlib.Order.Defs.LinearOrder

/-!
# Sorting by a comparator

A sort returns some permutation in which no element belongs before an earlier one. Where the
comparator compares keys of a linear order, and no two elements have the same key, there is only
one such permutation, whatever the input looked like.
-/
namespace KsanaBuildAhead.Lib.KeySort

variable {α κ : Type*} {before : α → α → Bool}

structure StdSort (before : α → α → Bool) where
  sort : List α → List α
  perm : ∀ xs, (sort xs).Perm xs
  sorted : ∀ xs, (sort xs).Pairwise fun a b => before b a = false

/-- What a sort asks of its comparator. -/
structure StrictWeakOrder (before : α → α → Bool) : Prop where
  irrefl : ∀ a, before a a = false
  trans : ∀ a b c, before a b = true → before b c = true → before a c = true
  incomparable : ∀ a b c, before a b = false → before b a = false → before b c = false →
    before c b = false → before a c = false ∧ before c a = false

variable [LinearOrder κ] {key : α → κ} (hkey : ∀ a b, before a b = true ↔ key a < key b)
include hkey

theorem before_eq_false (a b : α) : before b a = false ↔ key a ≤ key b := by
  rw [← Bool.not_eq_true, hkey, not_lt]

theorem strictWeakOrder : StrictWeakOrder before where
  irrefl a := (before_eq_false hkey a a).mpr le_rfl
  trans a b c hab hbc := (hkey a c).mpr (((hkey a b).mp hab).trans ((hkey b c).mp hbc))
  incomparable a b c hab hba hbc hcb := by
    have hfirst : key a = key b :=
      le_antisymm ((before_eq_false hkey a b).mp hba) ((before_eq_false hkey b a).mp hab)
    have hsecond : key b = key c :=
      le_antisymm ((before_eq_false hkey b c).mp hcb) ((before_eq_false hkey c b).mp hbc)
    rw [before_eq_false hkey, before_eq_false hkey]
    exact ⟨(hfirst.trans hsecond).ge, (hfirst.trans hsecond).le⟩

theorem StdSort.pairwise (order : StdSort before) (xs : List α) :
    (order.sort xs).Pairwise fun a b => key a ≤ key b :=
  (order.sorted xs).imp fun h => (before_eq_false hkey _ _).mp h

theorem eq_of_sorted {xs ys : List α} (hperm : xs.Perm ys)
    (hdistinct : ∀ a ∈ xs, ∀ b ∈ xs, key a = key b → a = b)
    (hxs : xs.Pairwise fun a b => before b a = false)
    (hys : ys.Pairwise fun a b => before b a = false) : xs = ys := by
  refine List.Perm.eq_of_pairwise ?_ hxs hys hperm
  intro a b ha hb hab hba
  refine hdistinct a ha b (hperm.mem_iff.mpr hb) (le_antisymm ?_ ?_)
  · exact (before_eq_false hkey a b).mp hab
  · exact (before_eq_false hkey b a).mp hba

/-- Two sorts of two orders of the same elements agree. -/
theorem StdSort.unique (order other : StdSort before) {xs ys : List α} (hperm : xs.Perm ys)
    (hdistinct : ∀ a ∈ xs, ∀ b ∈ xs, key a = key b → a = b) : order.sort xs = other.sort ys := by
  have hsorts : (order.sort xs).Perm (other.sort ys) :=
    ((order.perm xs).trans hperm).trans (other.perm ys).symm
  refine eq_of_sorted hkey hsorts (fun a ha b hb => ?_) (order.sorted xs) (other.sorted ys)
  exact hdistinct a ((order.perm xs).mem_iff.mp ha) b ((order.perm xs).mem_iff.mp hb)

/-- A sort that keeps the order of equal elements. -/
def insertion : StdSort before where
  sort xs := xs.insertionSort fun a b => before b a = false
  perm xs := List.perm_insertionSort _ xs
  sorted xs := by
    have : Std.Total fun a b : α => before b a = false := ⟨fun a b => by
      rw [before_eq_false hkey, before_eq_false hkey]
      exact le_total _ _⟩
    have : IsTrans α fun a b : α => before b a = false := ⟨fun a b c hab hbc => by
      rw [before_eq_false hkey] at *
      exact hab.trans hbc⟩
    exact List.pairwise_insertionSort _ xs

end KsanaBuildAhead.Lib.KeySort
