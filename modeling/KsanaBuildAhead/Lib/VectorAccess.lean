import KsanaBuildAhead.Lib.ListEdit
import Mathlib.Algebra.Order.Ring.Int

/-!
# Checked accesses to a vector

Sizes and positions are 64-bit and wrap. An access outside the vector, or a range that is not
one of the vector, is `none`; each lemma says when an access is inside and what it leaves.
-/
namespace KsanaBuildAhead.Lib.VectorAccess

open KsanaBuildAhead.Lib.ListEdit

variable {α : Type*}

def addSize (a b : Nat) : Nat := (a + b) % 2 ^ 64

def subSize (a b : Nat) : Nat := (a + (2 ^ 64 - b % 2 ^ 64)) % 2 ^ 64

/-- `xs[index] = value`. -/
def writeIndex (xs : List α) (index : Nat) (value : α) : Option (List α) :=
  if index < xs.length then some (xs.set index value) else none

/-- The assignments `xs[start] = v₀`, `xs[start + 1] = v₁`, and so on. -/
def writeRun (xs : List α) (start : Nat) : List α → Option (List α)
  | [] => some xs
  | v :: vs => (writeIndex xs start v).bind fun written => writeRun written (addSize start 1) vs

/-- Values written one behind the other into the range they need. -/
def writeSpan (xs : List α) (start : Nat) (values : List α) : Option (List α) :=
  if start + values.length ≤ xs.length then some (overwrite xs start values) else none

def eraseSpan (xs : List α) (first last : Nat) : Option (List α) :=
  if first ≤ last ∧ last ≤ xs.length then some (eraseRange xs first last) else none

def insertSpan (xs : List α) (index : Nat) (values : List α) : Option (List α) :=
  if index ≤ xs.length then some (xs.take index ++ values ++ xs.drop index) else none

/-- The assignments `xs[index] = value` of a loop, in its order. -/
def writeAll (xs : List α) (writes : List (Nat × α)) : Option (List α) :=
  writes.foldlM (fun xs (write : Nat × α) => writeIndex xs write.1 write.2) xs

theorem addSize_of_lt {a b : Nat} (h : a + b < 2 ^ 64) : addSize a b = a + b := Nat.mod_eq_of_lt h

theorem addSize_wraps {a b : Nat} (ha : a < 2 ^ 64) (hb : b < 2 ^ 64) (h : 2 ^ 64 ≤ a + b) :
    addSize a b + 2 ^ 64 = a + b := by
  rw [addSize]
  omega

theorem subSize_of_le {a b : Nat} (ha : a < 2 ^ 64) (hle : b ≤ a) : subSize a b = a - b := by
  rw [subSize]
  omega

theorem addSize_lt (a b : Nat) : addSize a b < 2 ^ 64 := Nat.mod_lt _ (by decide)

theorem writeIndex_eq_some {xs out : List α} {index : Nat} {value : α} :
    writeIndex xs index value = some out ↔ index < xs.length ∧ out = xs.set index value := by
  rw [writeIndex, Option.ite_none_right_eq_some, Option.some_inj, eq_comm (b := out)]

/-- Assignments inside the vector are carried out. A cell no other one goes to keeps its value,
and the cells none goes to are as they were. -/
theorem writeAll_of_lt (xs : List α) {writes : List (Nat × α)}
    (hin : ∀ write ∈ writes, write.1 < xs.length) (hcells : (writes.map Prod.fst).Nodup) :
    ∃ out, writeAll xs writes = some out ∧ out.length = xs.length ∧
      (∀ write ∈ writes, out[write.1]? = some write.2) ∧
      ∀ index, index ∉ writes.map Prod.fst → out[index]? = xs[index]? := by
  induction writes generalizing xs with
  | nil => exact ⟨xs, rfl, rfl, fun _ hmem => absurd hmem List.not_mem_nil, fun _ _ => rfl⟩
  | cons write writes ih =>
    rw [List.forall_mem_cons] at hin
    rw [List.map_cons, List.nodup_cons] at hcells
    have hset : (xs.set write.1 write.2).length = xs.length := List.length_set
    have hwrite : writeIndex xs write.1 write.2 = some (xs.set write.1 write.2) := if_pos hin.1
    obtain ⟨out, hout, hlength, hwritten, hkept⟩ :=
      ih (xs.set write.1 write.2) (by rw [hset]; exact hin.2) hcells.2
    refine ⟨out, ?_, hlength.trans hset, ?_, fun index hindex => ?_⟩
    · rw [writeAll, List.foldlM_cons, hwrite]
      exact hout
    · rw [List.forall_mem_cons, hkept _ hcells.1, List.getElem?_set_self hin.1]
      exact ⟨rfl, hwritten⟩
    · rw [List.map_cons, List.mem_cons, not_or] at hindex
      rw [hkept _ hindex.2, List.getElem?_set_ne (Ne.symm hindex.1)]

theorem writeSpan_append (pre old : List α) {values : List α} (h : values.length ≤ old.length) :
    writeSpan (pre ++ old) pre.length values = some (pre ++ values ++ old.drop values.length) := by
  have hin : pre.length + values.length ≤ (pre ++ old).length := by
    rw [List.length_append]
    omega
  rw [writeSpan, if_pos hin, overwrite_append pre old values h]

theorem eraseSpan_eq_some {xs out : List α} {first last : Nat} :
    eraseSpan xs first last = some out ↔
      (first ≤ last ∧ last ≤ xs.length) ∧ out = eraseRange xs first last := by
  rw [eraseSpan, Option.ite_none_right_eq_some, Option.some_inj, eq_comm (b := out)]

theorem insertSpan_eq_some {xs out values : List α} {index : Nat} :
    insertSpan xs index values = some out ↔
      index ≤ xs.length ∧ out = xs.take index ++ values ++ xs.drop index := by
  rw [insertSpan, Option.ite_none_right_eq_some, Option.some_inj, eq_comm (b := out)]

/-- A run of assignments is inside a vector when its last one is: no vector is long enough for
the positions to wrap. -/
theorem writeRun_eq_some {xs out values : List α} {start : Nat} (hsize : xs.length < 2 ^ 63) :
    writeRun xs start values = some out ↔
      (values = [] ∨ start + values.length ≤ xs.length) ∧ out = overwrite xs start values := by
  induction values generalizing xs start with
  | nil => exact ⟨fun h => ⟨Or.inl rfl, (Option.some.inj h).symm⟩, fun h => by rw [h.2]; rfl⟩
  | cons v vs ih =>
    have hset : (xs.set start v).length < 2 ^ 63 := by rw [List.length_set]; exact hsize
    rw [writeRun, writeIndex, overwrite]
    by_cases hin : start < xs.length
    · have hnext : addSize start 1 = start + 1 := addSize_of_lt (by omega)
      rw [if_pos hin, Option.bind_some, ih hset, hnext, List.length_set, List.length_cons]
      constructor
      · rintro ⟨hrest, hout⟩
        refine ⟨Or.inr ?_, hout⟩
        rcases hrest with hnil | hrest
        · rw [hnil, List.length_nil]
          omega
        · omega
      · rintro ⟨hrest, hout⟩
        refine ⟨Or.inr ?_, hout⟩
        rcases hrest with hnil | hrest
        · cases hnil
        · omega
    · rw [if_neg hin, Option.bind_none]
      constructor
      · intro h
        cases h
      · rintro ⟨hrest, -⟩
        rcases hrest with hnil | hrest
        · cases hnil
        · rw [List.length_cons] at hrest
          omega

end KsanaBuildAhead.Lib.VectorAccess
