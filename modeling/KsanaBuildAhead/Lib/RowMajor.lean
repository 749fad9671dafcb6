import Mathlib.Algebra.Order.Ring.Int
import Mathlib.Data.List.Nodup

/-!
# Tables laid out row by row

The cell of a row and a column is `row * width + column`. Numbers with a quotient and a remainder
are read the same way.
-/
namespace KsanaBuildAhead.Lib.RowMajor

variable {α : Type*}

/-- A number written in a mixed base has one pair of digits. -/
theorem eq_of_mul_add_eq {base a b : Int} {r s : Nat} (hr : (r : Int) < base)
    (hs : (s : Int) < base) (h : a * base + r = b * base + s) : a = b ∧ r = s := by
  have hpos : 0 < base := by omega
  have hrest : (r : Int) = s := by
    have hmod := congrArg (· % base) h
    simpa [Int.add_emod, Int.emod_eq_of_lt, hr, hs] using hmod
  have hlead : a * base = b * base := by omega
  exact ⟨Int.eq_of_mul_eq_mul_right hpos.ne' hlead, by omega⟩

/-- The column of a table cell. -/
theorem cell_mod {width column : Nat} (row : Nat) (hcolumn : column < width) :
    (row * width + column) % width = column := by
  rw [Nat.mul_comm, Nat.mul_add_mod, Nat.mod_eq_of_lt hcolumn]

theorem cell_injective {width row column otherRow otherColumn : Nat} (hcolumn : column < width)
    (hother : otherColumn < width) (h : row * width + column = otherRow * width + otherColumn) :
    row = otherRow ∧ column = otherColumn := by
  have hsame : column = otherColumn := by
    rw [← cell_mod row hcolumn, h, cell_mod otherRow hother]
  have hpos : 0 < width := by omega
  exact ⟨Nat.eq_of_mul_eq_mul_right hpos (by omega), hsame⟩

theorem cell_lt {width height row column : Nat} (hcolumn : column < width) (hrow : row < height) :
    row * width + column < height * width := by
  calc row * width + column < (row + 1) * width := by rw [Nat.succ_mul]; omega
    _ ≤ height * width := Nat.mul_le_mul_right _ hrow

/-- Entries for cells of their own, inside the table and in the columns from `start` to `stop`. -/
structure CellsIn (column : Nat → Nat) (size start stop : Nat) (writes : List (Nat × α)) :
    Prop where
  nodup : (writes.map Prod.fst).Nodup
  lt : ∀ write ∈ writes, write.1 < size
  columns : ∀ write ∈ writes, start ≤ column write.1 ∧ column write.1 < stop

namespace CellsIn

variable {column : Nat → Nat} {size start mid stop : Nat} {first rest : List (Nat × α)}

theorem nil : CellsIn column size start stop ([] : List (Nat × α)) :=
  ⟨List.nodup_nil, fun _ h => absurd h List.not_mem_nil, fun _ h => absurd h List.not_mem_nil⟩

/-- Entries of neighbouring ranges share no cell. -/
theorem append (hfirst : CellsIn column size start mid first)
    (hrest : CellsIn column size mid stop rest) (hstart : start ≤ mid) (hstop : mid ≤ stop) :
    CellsIn column size start stop (first ++ rest) := by
  constructor
  · rw [List.map_append, List.nodup_append]
    refine ⟨hfirst.nodup, hrest.nodup, ?_⟩
    intro cell hcell other hother heq
    obtain ⟨write, hwrite, rfl⟩ := List.mem_map.mp hcell
    obtain ⟨behind, hbehind, rfl⟩ := List.mem_map.mp hother
    have hleft := (hfirst.columns write hwrite).2
    have hright := (hrest.columns behind hbehind).1
    rw [heq] at hleft
    omega
  · exact List.forall_mem_append.mpr ⟨hfirst.lt, hrest.lt⟩
  · refine List.forall_mem_append.mpr ⟨fun write hwrite => ?_, fun write hwrite => ?_⟩
    · obtain ⟨hfrom, hbefore⟩ := hfirst.columns write hwrite
      exact ⟨hfrom, by omega⟩
    · obtain ⟨hfrom, hbefore⟩ := hrest.columns write hwrite
      exact ⟨by omega, hbefore⟩

/-- Each element of a list fills one column. -/
theorem zipIdx {β : Type*} (entries : β → Nat → List (Nat × α)) {xs : List β}
    (h : ∀ x ∈ xs, ∀ n < start + xs.length, CellsIn column size n (n + 1) (entries x n)) :
    CellsIn column size start (start + xs.length)
      ((xs.zipIdx start).flatMap fun entry => entries entry.1 entry.2) := by
  induction xs generalizing start with
  | nil => exact nil
  | cons x xs ih =>
    rw [List.length_cons] at h ⊢
    rw [List.forall_mem_cons] at h
    have hshift : start + 1 + xs.length = start + (xs.length + 1) := by omega
    have hrest := ih fun y hy n hn => h.2 y hy n (hshift ▸ hn)
    rw [hshift] at hrest
    rw [List.zipIdx_cons, List.flatMap_cons]
    exact (h.1 start (by omega)).append hrest (Nat.le_succ start) (by omega)

end CellsIn

end KsanaBuildAhead.Lib.RowMajor
