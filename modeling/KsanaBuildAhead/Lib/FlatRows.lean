import Mathlib.Data.List.Basic
import Mathlib.Order.Basic

/-!
# Rows of a flat buffer

A buffer that holds rows of one width one after the other, read and rewritten row by row. A row
that is rewritten by one of equal width leaves the other rows alone.
-/
namespace KsanaBuildAhead.Lib.FlatRows

variable {α : Type*}

def row (width i : Nat) (buffer : List α) : List α := (buffer.drop (i * width)).take width

def setRow (width i : Nat) (values buffer : List α) : List α :=
  buffer.take (i * width) ++ values ++ buffer.drop ((i + 1) * width)

/-- The row lies inside the buffer. -/
abbrev HasRow (width i : Nat) (buffer : List α) : Prop := (i + 1) * width ≤ buffer.length

variable {width i j : Nat} {values buffer : List α}

theorem HasRow.begin_le (h : HasRow width i buffer) : i * width + width ≤ buffer.length := by
  rwa [HasRow, Nat.succ_mul] at h

theorem row_length (h : HasRow width i buffer) : (row width i buffer).length = width := by
  have := h.begin_le
  rw [row, List.length_take, List.length_drop]
  omega

theorem setRow_length (h : HasRow width i buffer) (hvalues : values.length = width) :
    (setRow width i values buffer).length = buffer.length := by
  have := h.begin_le
  simp only [setRow, List.length_append, List.length_take, List.length_drop, hvalues,
    Nat.succ_mul]
  omega

theorem hasRow_setRow (h : HasRow width i buffer) (hvalues : values.length = width) :
    HasRow width j (setRow width i values buffer) ↔ HasRow width j buffer := by
  rw [HasRow, HasRow, setRow_length h hvalues]

/-- A cell of a row, by its place in the buffer. -/
theorem row_getElem? {k : Nat} (hk : k < width) :
    (row width i buffer)[k]? = buffer[i * width + k]? := by
  rw [row, List.getElem?_take_of_lt hk, List.getElem?_drop]

/-- A cell of the buffer after a row is rewritten. -/
theorem setRow_getElem? {place : Nat} (h : HasRow width i buffer)
    (hvalues : values.length = width) : (setRow width i values buffer)[place]? =
      if i * width ≤ place ∧ place < i * width + width then values[place - i * width]?
      else buffer[place]? := by
  have hle := h.begin_le
  have htake : (buffer.take (i * width)).length = i * width := by
    rw [List.length_take]
    omega
  rw [setRow, List.append_assoc]
  by_cases hbefore : place < i * width
  · rw [if_neg (by omega), List.getElem?_append_left (by omega), List.getElem?_take_of_lt hbefore]
  · rw [List.getElem?_append_right (by omega), htake]
    by_cases hinside : place < i * width + width
    · rw [if_pos (by omega), List.getElem?_append_left (by omega)]
    · rw [if_neg (by omega), List.getElem?_append_right (by omega), List.getElem?_drop,
        Nat.succ_mul]
      congr 1
      omega

/-- A part of the buffer that holds the row holds it in the same place. -/
theorem row_take {size : Nat} (h : (i + 1) * width ≤ size) :
    row width i (buffer.take size) = row width i buffer := by
  rw [Nat.succ_mul] at h
  rw [row, row, List.drop_take, List.take_take, Nat.min_eq_left (by omega)]

theorem row_setRow_self (h : HasRow width i buffer) (hvalues : values.length = width) :
    row width i (setRow width i values buffer) = values := by
  refine List.ext_getElem? fun k => ?_
  by_cases hk : k < width
  · rw [row_getElem? hk, setRow_getElem? h hvalues, if_pos (by omega)]
    congr 1
    omega
  · have hsame : HasRow width i (setRow width i values buffer) := (hasRow_setRow h hvalues).mpr h
    rw [List.getElem?_eq_none (by rw [row_length hsame]; omega),
      List.getElem?_eq_none (by omega)]

theorem row_setRow_ne (h : HasRow width i buffer) (hvalues : values.length = width)
    (hj : HasRow width j buffer) (hij : i ≠ j) :
    row width j (setRow width i values buffer) = row width j buffer := by
  refine List.ext_getElem? fun k => ?_
  by_cases hk : k < width
  · rw [row_getElem? hk, row_getElem? hk, setRow_getElem? h hvalues, if_neg]
    intro hinside
    rcases Nat.lt_or_gt_of_ne hij with hless | hless
    · have := Nat.mul_le_mul_right width (Nat.succ_le_of_lt hless)
      rw [Nat.succ_mul] at this
      omega
    · have := Nat.mul_le_mul_right width (Nat.succ_le_of_lt hless)
      rw [Nat.succ_mul] at this
      omega
  · have hsame : HasRow width j (setRow width i values buffer) := (hasRow_setRow h hvalues).mpr hj
    rw [List.getElem?_eq_none (by rw [row_length hsame]; omega),
      List.getElem?_eq_none (by rw [row_length hj]; omega)]

/-- Rows written one after the other are found again. -/
theorem row_flatten {rows : List (List α)} (hrows : ∀ r ∈ rows, r.length = width)
    (hi : i < rows.length) : row width i rows.flatten = rows[i] := by
  induction rows generalizing i with
  | nil => exact absurd hi (Nat.not_lt_zero i)
  | cons first rows ih =>
    obtain ⟨hfirst, hrest⟩ := List.forall_mem_cons.mp hrows
    cases i with
    | zero =>
      rw [row, Nat.zero_mul, List.drop_zero, List.flatten_cons, List.take_left' hfirst]
      rfl
    | succ i =>
      have hshift : (first :: rows).flatten.drop ((i + 1) * width) =
          rows.flatten.drop (i * width) := by
        rw [List.flatten_cons, Nat.succ_mul, Nat.add_comm, ← List.drop_drop,
          List.drop_left' hfirst]
      rw [row, hshift]
      exact ih hrest (Nat.lt_of_succ_lt_succ hi)

theorem row_flatten_append {rows : List (List α)} (hrows : ∀ r ∈ rows, r.length = width)
    (hi : i < rows.length) (rest : List α) : row width i (rows.flatten ++ rest) = rows[i] := by
  have hlength : rows.flatten.length = rows.length * width := by
    rw [List.length_flatten, List.map_congr_left hrows, List.map_const', List.sum_replicate_nat]
  have hinside : (i + 1) * width ≤ rows.flatten.length := by
    rw [hlength]
    exact Nat.mul_le_mul_right width hi
  rw [← row_take hinside, List.take_left, row_flatten hrows hi]

/-- Rows of one element, filled in one go. -/
theorem row_replicate {count : Nat} {value : α} (hi : i < count) {rest : List α} :
    row width i (List.replicate (count * width) value ++ rest) = List.replicate width value := by
  have hle : i * width + width ≤ count * width := by
    rw [← Nat.succ_mul]
    exact Nat.mul_le_mul_right width hi
  refine List.ext_getElem? fun k => ?_
  by_cases hk : k < width
  · rw [row_getElem? hk, List.getElem?_append_left (by rw [List.length_replicate]; omega),
      List.getElem?_replicate_of_lt (by omega), List.getElem?_replicate_of_lt hk]
  · have hbuffer : HasRow width i (List.replicate (count * width) value ++ rest) := by
      rw [HasRow, List.length_append, List.length_replicate, Nat.succ_mul]
      omega
    rw [List.getElem?_eq_none (by rw [row_length hbuffer]; omega),
      List.getElem?_eq_none (by rw [List.length_replicate]; omega)]

/-- The rows of the list, each put through `f`; a row outside the buffer is `none`. -/
def mapRows (width : Nat) (f : Nat → List α → List α) : List Nat → List α → Option (List α)
  | [], buffer => some buffer
  | i :: is, buffer =>
    if HasRow width i buffer then
      mapRows width f is (setRow width i (f i (row width i buffer)) buffer)
    else none

/-- Rows inside are rewritten once each, the others stay. -/
theorem mapRows_spec {f : Nat → List α → List α} {is : List Nat}
    (hf : ∀ i values, (f i values).length = values.length) (hdistinct : is.Nodup)
    (hrows : ∀ i ∈ is, HasRow width i buffer) :
    ∃ mapped, mapRows width f is buffer = some mapped ∧ mapped.length = buffer.length ∧
      (∀ i ∈ is, row width i mapped = f i (row width i buffer)) ∧
      ∀ j, HasRow width j buffer → j ∉ is → row width j mapped = row width j buffer := by
  induction is generalizing buffer with
  | nil => exact ⟨buffer, rfl, rfl, fun _ hmem => absurd hmem List.not_mem_nil, fun _ _ _ => rfl⟩
  | cons i is ih =>
    obtain ⟨hfirst, hrest⟩ := List.forall_mem_cons.mp hrows
    obtain ⟨hnew, hdistinct⟩ := List.nodup_cons.mp hdistinct
    have hvalues : (f i (row width i buffer)).length = width := by
      rw [hf, row_length hfirst]
    have hset : ∀ {j}, HasRow width j (setRow width i (f i (row width i buffer)) buffer) ↔
        HasRow width j buffer := hasRow_setRow hfirst hvalues
    obtain ⟨mapped, hmapped, hlength, hown, hothers⟩ :=
      ih hdistinct fun j hmem => hset.mpr (hrest j hmem)
    refine ⟨mapped, by rw [mapRows, if_pos hfirst, hmapped],
      hlength.trans (setRow_length hfirst hvalues), ?_, ?_⟩
    · refine List.forall_mem_cons.mpr ⟨?_, fun j hmem => ?_⟩
      · rw [hothers i (hset.mpr hfirst) hnew, row_setRow_self hfirst hvalues]
      · have hne : i ≠ j := fun heq => hnew (heq ▸ hmem)
        rw [hown j hmem, row_setRow_ne hfirst hvalues (hrest j hmem) hne]
    · intro j hj hnot
      obtain ⟨hne, hnot⟩ := not_or.mp (List.mem_cons.not.mp hnot)
      rw [hothers j (hset.mpr hj) hnot, row_setRow_ne hfirst hvalues hj (Ne.symm hne)]

end KsanaBuildAhead.Lib.FlatRows
