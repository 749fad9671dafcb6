import Mathlib.Data.List.Pairwise
import Mathlib.Order.Lattice

/-!
# Ranges that do not touch

A set given by half-open ranges, one behind the other and none adjacent to the next. There is
only one way to give a set so.
-/
namespace KsanaBuildAhead.Lib.SeparatedRanges

variable {α : Type*} [LinearOrder α]

def Covers (ranges : List (α × α)) (x : α) : Prop := ∃ range ∈ ranges, range.1 ≤ x ∧ x < range.2

structure Separated (ranges : List (α × α)) : Prop where
  nonempty : ∀ range ∈ ranges, range.1 < range.2
  apart : ranges.Pairwise fun a b => a.2 < b.1

variable {first other : α × α} {ranges others : List (α × α)}

theorem covers_cons {x : α} :
    Covers (first :: ranges) x ↔ (first.1 ≤ x ∧ x < first.2) ∨ Covers ranges x := by
  simp only [Covers, List.mem_cons, or_and_right, exists_or, exists_eq_left]

theorem separated_nil : Separated ([] : List (α × α)) where
  nonempty := fun _ hmem => absurd hmem List.not_mem_nil
  apart := List.Pairwise.nil

theorem separated_cons : Separated (first :: ranges) ↔
    first.1 < first.2 ∧ (∀ range ∈ ranges, first.2 < range.1) ∧ Separated ranges := by
  constructor
  · intro h
    obtain ⟨hfirst, hrest⟩ := List.forall_mem_cons.mp h.nonempty
    obtain ⟨hapart, hpairs⟩ := List.pairwise_cons.mp h.apart
    exact ⟨hfirst, hapart, hrest, hpairs⟩
  · rintro ⟨hfirst, hapart, hrest⟩
    exact ⟨List.forall_mem_cons.mpr ⟨hfirst, hrest.nonempty⟩,
      List.pairwise_cons.mpr ⟨hapart, hrest.apart⟩⟩

/-- What a separated list covers behind its first range lies behind the end of that range. -/
theorem Separated.end_lt (h : Separated (first :: ranges)) {x : α} (hx : Covers ranges x) :
    first.2 < x := by
  obtain ⟨range, hmem, hbegin, -⟩ := hx
  exact ((separated_cons.mp h).2.1 range hmem).trans_le hbegin

/-- The first range begins where the set does. -/
theorem Separated.begin_le (h : Separated (first :: ranges)) {x : α}
    (hx : Covers (first :: ranges) x) : first.1 ≤ x := by
  rcases covers_cons.mp hx with ⟨hbegin, -⟩ | hrest
  · exact hbegin
  · exact ((separated_cons.mp h).1.trans (h.end_lt hrest)).le

theorem Separated.begin_covered (h : Separated (first :: ranges)) :
    Covers (first :: ranges) first.1 :=
  covers_cons.mpr (Or.inl ⟨le_rfl, (separated_cons.mp h).1⟩)

/-- Where the first range ends nothing is covered. -/
theorem Separated.end_not_covered (h : Separated (first :: ranges)) :
    ¬ Covers (first :: ranges) first.2 := by
  intro hend
  rcases covers_cons.mp hend with ⟨-, hinside⟩ | hrest
  · exact lt_irrefl _ hinside
  · exact lt_irrefl _ (h.end_lt hrest)

/-- With the same set the first of the two ranges does not end later. -/
theorem Separated.end_le (hother : Separated (other :: others))
    (hsame : ∀ x, Covers (first :: ranges) x ↔ Covers (other :: others) x)
    (hbegin : first.1 = other.1) : first.2 ≤ other.2 := by
  by_contra hless
  rw [not_le] at hless
  have hinside : Covers (first :: ranges) other.2 := covers_cons.mpr
    (Or.inl ⟨hbegin.le.trans (separated_cons.mp hother).1.le, hless⟩)
  exact hother.end_not_covered ((hsame _).mp hinside)

theorem Separated.unique (h : Separated ranges) (hother : Separated others)
    (hsame : ∀ x, Covers ranges x ↔ Covers others x) : ranges = others := by
  induction ranges generalizing others with
  | nil =>
    cases others with
    | nil => rfl
    | cons other others =>
      obtain ⟨range, hmem, -⟩ := (hsame other.1).mpr hother.begin_covered
      exact absurd hmem List.not_mem_nil
  | cons first ranges ih =>
    cases others with
    | nil =>
      obtain ⟨range, hmem, -⟩ := (hsame first.1).mp h.begin_covered
      exact absurd hmem List.not_mem_nil
    | cons other others =>
      have hbegin : first.1 = other.1 := le_antisymm
        (h.begin_le ((hsame _).mpr hother.begin_covered))
        (hother.begin_le ((hsame _).mp h.begin_covered))
      have hend : first.2 = other.2 := le_antisymm (hother.end_le hsame hbegin)
        (h.end_le (fun x => (hsame x).symm) hbegin.symm)
      obtain rfl : first = other := Prod.ext hbegin hend
      refine congrArg (first :: ·) (ih (separated_cons.mp h).2.2 (separated_cons.mp hother).2.2 ?_)
      intro x
      constructor
      · intro hx
        refine (covers_cons.mp ((hsame x).mp (covers_cons.mpr (Or.inr hx)))).resolve_left ?_
        exact fun hinside => absurd hinside.2 (h.end_lt hx).not_gt
      · intro hx
        refine (covers_cons.mp ((hsame x).mpr (covers_cons.mpr (Or.inr hx)))).resolve_left ?_
        exact fun hinside => absurd hinside.2 (hother.end_lt hx).not_gt

end KsanaBuildAhead.Lib.SeparatedRanges
