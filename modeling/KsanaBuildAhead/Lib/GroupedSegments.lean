import Mathlib.Algebra.GroupWithZero.Nat
import Mathlib.Data.List.Infix
import Mathlib.Data.List.Range
import Mathlib.Order.Lattice

/-!
# Groups of a sorted list, and where they start

The elements with one key of a sorted list stand together, behind those with a smaller one. A
table of sums says where each value of a list begins when they are laid out one behind the
other.
-/
namespace KsanaBuildAhead.Lib.GroupedSegments

/-- The sums of the first values: of none, of one, and so on. -/
def sumsUpTo (values : List Nat) : List Nat :=
  (List.range (values.length + 1)).map fun n => (values.take n).sum

@[simp] theorem sumsUpTo_length (values : List Nat) :
    (sumsUpTo values).length = values.length + 1 := by
  rw [sumsUpTo, List.length_map, List.length_range]

theorem getElem?_sumsUpTo {values : List Nat} {n : Nat} (h : n ≤ values.length) :
    (sumsUpTo values)[n]? = some (values.take n).sum := by
  rw [sumsUpTo, List.getElem?_map, List.getElem?_range (Nat.lt_succ_of_le h)]
  rfl

theorem sumsUpTo_concat (values : List Nat) (value : Nat) :
    sumsUpTo (values ++ [value]) = sumsUpTo values ++ [values.sum + value] := by
  have hall : (values ++ [value]).take (values.length + 1) = values ++ [value] :=
    List.take_of_length_le (by rw [List.length_append, List.length_singleton])
  have hfront : (List.range (values.length + 1)).map (fun n => ((values ++ [value]).take n).sum) =
      sumsUpTo values := by
    refine List.map_congr_left fun n hn => ?_
    rw [List.take_append_of_le_length (Nat.le_of_lt_succ (List.mem_range.mp hn))]
  rw [sumsUpTo, List.length_append, List.length_singleton, List.range_succ, List.map_append, hfront,
    List.map_singleton, hall, List.sum_append, List.sum_singleton]

theorem sumsUpTo_getLastD (values : List Nat) : (sumsUpTo values).getLastD 0 = values.sum := by
  rw [sumsUpTo, List.range_succ, List.map_append, List.map_singleton, List.getLastD_concat,
    List.take_length]

variable {α κ : Type*} [LinearOrder κ] {key : α → κ}

/-- In a sorted list the elements up to a key are those below it and then those with it. -/
theorem filter_le_of_sorted {xs : List α} (h : xs.Pairwise fun a b => key a ≤ key b) (k : κ) :
    xs.filter (fun x => key x ≤ k) =
      xs.filter (fun x => key x < k) ++ xs.filter (fun x => key x = k) := by
  induction xs with
  | nil => rfl
  | cons x xs ih =>
    obtain ⟨hfirst, hrest⟩ := List.pairwise_cons.mp h
    rcases lt_trichotomy (key x) k with hlt | heq | hgt
    · simp [hlt.le, hlt, hlt.ne, ih hrest]
    · have hnone : xs.filter (fun y => decide (key y < k)) = [] :=
        List.filter_eq_nil_iff.mpr fun y hy hbelow =>
          absurd (of_decide_eq_true hbelow) (not_lt.mpr (heq ▸ hfirst y hy))
      simp [heq, ih hrest, hnone]
    · simp [not_le.mpr hgt, hgt.not_gt, hgt.ne', ih hrest]

/-- The elements below a key stand at the front of a sorted list. -/
theorem filter_lt_prefix {xs : List α} (h : xs.Pairwise fun a b => key a ≤ key b) (k : κ) :
    xs.filter (fun x => key x < k) <+: xs := by
  induction xs with
  | nil => exact List.prefix_refl _
  | cons x xs ih =>
    obtain ⟨hfirst, hrest⟩ := List.pairwise_cons.mp h
    by_cases hlt : key x < k
    · rw [List.filter_cons_of_pos (by simpa using hlt)]
      exact List.cons_prefix_cons.mpr ⟨rfl, ih hrest⟩
    · have hnone : (x :: xs).filter (fun y => decide (key y < k)) = [] := by
        refine List.filter_eq_nil_iff.mpr fun y hy hbelow => ?_
        rcases List.mem_cons.mp hy with rfl | hmem
        · exact hlt (of_decide_eq_true hbelow)
        · exact hlt ((hfirst y hmem).trans_lt (of_decide_eq_true hbelow))
      rw [hnone]
      exact List.nil_prefix

/-- With the groups `0`, `1`, and so on, those below `n` stand one behind the other. -/
theorem flatMap_groups {xs : List α} {group : α → Nat}
    (h : xs.Pairwise fun a b => group a ≤ group b) (n : Nat) :
    ((List.range n).flatMap fun g => xs.filter fun x => group x = g) =
      xs.filter fun x => group x < n := by
  induction n with
  | zero => simp
  | succ n ih =>
    have hle : (xs.filter fun x => decide (group x < n + 1)) =
        xs.filter fun x => decide (group x ≤ n) := by
      refine List.filter_congr fun x _ => ?_
      rw [decide_eq_decide, Nat.lt_succ_iff]
    rw [List.range_succ, List.flatMap_append, List.flatMap_singleton, ih, hle,
      filter_le_of_sorted h]

end KsanaBuildAhead.Lib.GroupedSegments
