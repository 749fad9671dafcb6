import Mathlib.Data.List.Range

/-!
# A memory written behind a cut

What is computed of a sequence is kept by position, and a step computes the positions behind a
cut. Nothing is erased: what a step had written and the next one does not want stays where it
is, until a step computes that position again.
-/
namespace KsanaBuildAhead.Lib.CacheMemory

variable {τ : Type*}

/-- The positions of a sequence from the cut on are written, the others stay. -/
def writeBehind (memory : Nat → τ) (cut : Nat) (tokens : List τ) : Nat → τ := fun i =>
  if cut ≤ i then (tokens[i]?).getD (memory i) else memory i

/-- The memory as far as position `n`. -/
def readUpTo (memory : Nat → τ) (n : Nat) : List τ := (List.range n).map memory

/-- The memory begins with the sequence. -/
def Holds (memory : Nat → τ) (tokens : List τ) : Prop := readUpTo memory tokens.length = tokens

variable {memory : Nat → τ} {before tokens : List τ}

theorem holds_iff : Holds memory tokens ↔ ∀ i, (hi : i < tokens.length) → memory i = tokens[i] := by
  rw [Holds, readUpTo]
  constructor
  · intro h i hi
    have hat : ((List.range tokens.length).map memory)[i]? = tokens[i]? := by rw [h]
    rw [List.getElem?_map, List.getElem?_range hi, List.getElem?_eq_getElem hi] at hat
    exact Option.some.inj hat
  · intro h
    refine List.ext_getElem (by simp) fun i hleft hright => ?_
    rw [List.getElem_map, List.getElem_range]
    exact h i hright

/-- What begins with a sequence begins with all that the sequence begins with. -/
theorem Holds.of_prefix (h : Holds memory tokens) (hbegins : before <+: tokens) :
    Holds memory before := by
  rw [holds_iff] at h ⊢
  intro i hi
  rw [h i (hi.trans_le hbegins.length_le)]
  exact (hbegins.getElem hi).symm

/-- Behind what the memory holds of a sequence only the rest has to be computed. -/
theorem Holds.writeBehind (h : Holds memory before) (hbegins : before <+: tokens) :
    Holds (writeBehind memory before.length tokens) tokens := by
  rw [holds_iff] at h ⊢
  intro i hi
  rw [CacheMemory.writeBehind]
  split
  · rw [List.getElem?_eq_getElem hi]
    rfl
  · rename_i hbehind
    have hkept : i < before.length := Nat.lt_of_not_le hbehind
    rw [h i hkept]
    exact hbegins.getElem hkept

end KsanaBuildAhead.Lib.CacheMemory
