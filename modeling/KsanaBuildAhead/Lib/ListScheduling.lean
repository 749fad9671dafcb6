import Mathlib.Algebra.Order.BigOperators.Group.List
import Mathlib.Algebra.Order.Monoid.Canonical.Defs
import Mathlib.Data.List.Flatten

/-!
# Jobs placed one by one on machines that already carry a load

A schedule is the list of jobs of each machine. Where the last job of every machine found that
machine among the least loaded ones, no load exceeds twice what any other schedule reaches.
-/
namespace KsanaBuildAhead.Lib.ListScheduling

variable {α M : Type*}

section Loads

variable [AddMonoid M] (weight : α → M)

/-- What each machine carries in the end. -/
def loads (start : List M) (jobs : List (List α)) : List M :=
  List.zipWith (fun load placed => load + (placed.map weight).sum) start jobs

variable {weight} {start : List M} {jobs : List (List α)}

theorem length_loads (h : jobs.length = start.length) :
    (loads weight start jobs).length = start.length := by
  rw [loads, List.length_zipWith, h, Nat.min_self]

theorem getElem?_loads (i : Nat) : (loads weight start jobs)[i]? =
    start[i]?.bind fun load => jobs[i]?.map fun placed => load + (placed.map weight).sum := by
  rw [loads, List.getElem?_zipWith]
  cases start[i]? <;> cases jobs[i]? <;> rfl

/-- One more job is its weight more. -/
theorem loads_modify (job : α) (best : Nat) :
    loads weight start (jobs.modify best (· ++ [job])) =
      (loads weight start jobs).modify best (· + weight job) := by
  refine List.ext_getElem? fun i => ?_
  rw [getElem?_loads, List.getElem?_modify, List.getElem?_modify, getElem?_loads]
  cases start[i]? with
  | none => rfl
  | some load =>
    cases jobs[i]? with
    | none => rfl
    | some placed =>
      by_cases hbest : best = i
      · simp [hbest, add_assoc]
      · simp [hbest]

end Loads

section Bound

variable [AddCommMonoid M] [LinearOrder M] [IsOrderedCancelAddMonoid M] [CanonicallyOrderedAdd M]
  {weight : α → M} {start : List M} {jobs : List (List α)}

/-- No machine would have been left lighter by the last job of another one. -/
def LastFits (weight : α → M) (start : List M) (jobs : List (List α)) : Prop :=
  ∀ (i : Nat) (load : M) (placed : List α) (last : α), (loads weight start jobs)[i]? = some load →
    jobs[i]? = some placed → placed.getLast? = some last →
    ∀ other ∈ loads weight start jobs, load ≤ other + weight last

omit [IsOrderedCancelAddMonoid M] [CanonicallyOrderedAdd M] in
theorem lastFits_replicate (count : Nat) :
    LastFits weight start (List.replicate count []) := by
  intro i load placed last _ hplaced hlast
  obtain rfl := List.eq_of_mem_replicate (List.mem_of_getElem? hplaced)
  exact absurd hlast (by simp)

/-- A machine that is not heavier than any other takes the next job. -/
theorem LastFits.place (h : LastFits weight start jobs) {best : Nat} {least : M}
    (hbest : (loads weight start jobs)[best]? = some least)
    (hleast : ∀ other ∈ loads weight start jobs, least ≤ other) (job : α) :
    LastFits weight start (jobs.modify best (· ++ [job])) := by
  intro i load placed last hload hplaced hlast other hother
  rw [loads_modify] at hload hother
  rw [List.getElem?_modify] at hload hplaced
  obtain ⟨earlier, hearlier, hgrown⟩ : ∃ earlier ∈ loads weight start jobs, earlier ≤ other := by
    obtain ⟨j, hj⟩ := List.mem_iff_getElem?.mp hother
    rw [List.getElem?_modify] at hj
    obtain ⟨earlier, hearlier, rfl⟩ := Option.map_eq_some_iff.mp hj
    refine ⟨earlier, List.mem_of_getElem? hearlier, ?_⟩
    split
    · exact le_self_add
    · exact le_rfl
  obtain ⟨oldLoad, holdLoad, rfl⟩ := Option.map_eq_some_iff.mp hload
  obtain ⟨oldPlaced, holdPlaced, rfl⟩ := Option.map_eq_some_iff.mp hplaced
  by_cases hhere : best = i
  · subst hhere
    rw [if_pos rfl] at hlast ⊢
    rw [List.getLast?_append] at hlast
    obtain rfl : job = last := by simpa using hlast
    obtain rfl : least = oldLoad := Option.some.inj (hbest.symm.trans holdLoad)
    exact add_le_add_left ((hleast earlier hearlier).trans hgrown) _
  · rw [if_neg hhere] at hlast ⊢
    exact (h i oldLoad oldPlaced last holdLoad holdPlaced hlast earlier hearlier).trans
      (add_le_add_left hgrown _)

omit [LinearOrder M] [IsOrderedCancelAddMonoid M] [CanonicallyOrderedAdd M] in
/-- Whoever does which job, all machines together carry the same. -/
theorem sum_loads (h : jobs.length = start.length) :
    (loads weight start jobs).sum = start.sum + (jobs.flatten.map weight).sum := by
  induction jobs generalizing start with
  | nil =>
    obtain rfl := List.length_eq_zero_iff.mp h.symm
    simp [loads]
  | cons placed jobs ih =>
    cases start with
    | nil => simp at h
    | cons load start =>
      have hrest := ih (Nat.succ.inj h)
      rw [loads] at hrest
      rw [loads, List.zipWith_cons_cons, List.sum_cons, hrest, List.sum_cons, List.flatten_cons,
        List.map_append, List.sum_append]
      exact add_add_add_comm ..

/-- Some machine carries every job. -/
theorem weight_le_bound (h : jobs.length = start.length) {bound : M}
    (hbound : ∀ load ∈ loads weight start jobs, load ≤ bound) {job : α}
    (hjob : job ∈ jobs.flatten) :
    weight job ≤ bound := by
  obtain ⟨placed, hplaced, hmem⟩ := List.mem_flatten.mp hjob
  obtain ⟨i, hi⟩ := List.mem_iff_getElem?.mp hplaced
  have hlength : i < start.length := h ▸ (List.getElem?_eq_some_iff.mp hi).1
  have hload : (loads weight start jobs)[i]? = some (start[i] + (placed.map weight).sum) := by
    rw [getElem?_loads, List.getElem?_eq_getElem hlength, hi]
    rfl
  calc weight job
      ≤ (placed.map weight).sum :=
        List.single_le_sum (fun _ _ => zero_le) _ (List.mem_map_of_mem hmem)
    _ ≤ start[i] + (placed.map weight).sum := le_add_self
    _ ≤ bound := hbound _ (List.mem_of_getElem? hload)

omit [CanonicallyOrderedAdd M] in
/-- Two schedules of the same jobs: some machine carries no more in the first. -/
theorem exists_le_of_perm {others : List (List α)} (hsome : start ≠ [])
    (hjobs : jobs.length = start.length) (hothers : others.length = start.length)
    (hperm : jobs.flatten.Perm others.flatten) :
    ∃ load ∈ loads weight start jobs, ∃ other ∈ loads weight start others, load ≤ other := by
  have hlengths : (loads weight start jobs).length = (loads weight start others).length := by
    rw [length_loads hjobs, length_loads hothers]
  have hnonempty : (loads weight start jobs).zip (loads weight start others) ≠ [] := by
    refine List.ne_nil_of_length_pos ?_
    rw [List.length_zip, ← hlengths, Nat.min_self, length_loads hjobs]
    exact List.length_pos_iff.mpr hsome
  have hsums : (((loads weight start jobs).zip (loads weight start others)).map Prod.fst).sum ≤
      (((loads weight start jobs).zip (loads weight start others)).map Prod.snd).sum := by
    rw [List.map_fst_zip hlengths.le, List.map_snd_zip hlengths.ge, sum_loads hjobs,
      sum_loads hothers, (hperm.map weight).sum_eq]
  obtain ⟨⟨load, other⟩, hpair, hle⟩ := List.exists_le_of_sum_le hnonempty Prod.fst Prod.snd hsums
  exact ⟨load, (List.of_mem_zip hpair).1, other, (List.of_mem_zip hpair).2, hle⟩

/-- The bound of list scheduling: the load before the last job is at most some load of the other
schedule, and so is the last job itself. -/
theorem LastFits.loads_le_add (h : LastFits weight start jobs) {others : List (List α)}
    (hjobs : jobs.length = start.length) (hothers : others.length = start.length)
    (hperm : jobs.flatten.Perm others.flatten) {bound : M}
    (hbound : ∀ other ∈ loads weight start others, other ≤ bound) :
    ∀ load ∈ loads weight start jobs, load ≤ bound + bound := by
  intro load hload
  obtain ⟨i, hi⟩ := List.mem_iff_getElem?.mp hload
  have hstart : i < start.length := by
    rw [← length_loads hjobs]
    exact (List.getElem?_eq_some_iff.mp hi).1
  obtain ⟨placed, hplaced⟩ : ∃ placed, jobs[i]? = some placed :=
    ⟨_, List.getElem?_eq_getElem (hjobs ▸ hstart)⟩
  cases hlast : placed.getLast? with
  | none =>
    obtain rfl := List.getLast?_eq_none_iff.mp hlast
    obtain ⟨otherPlaced, hotherPlaced⟩ : ∃ otherPlaced, others[i]? = some otherPlaced :=
      ⟨_, List.getElem?_eq_getElem (hothers ▸ hstart)⟩
    have hother : (loads weight start others)[i]? =
        some (start[i] + (otherPlaced.map weight).sum) := by
      rw [getElem?_loads, List.getElem?_eq_getElem hstart, hotherPlaced]
      rfl
    obtain rfl : start[i] = load := by
      rw [getElem?_loads, List.getElem?_eq_getElem hstart, hplaced] at hi
      simpa using hi
    calc start[i]
        ≤ start[i] + (otherPlaced.map weight).sum := le_self_add
      _ ≤ bound := hbound _ (List.mem_of_getElem? hother)
      _ ≤ bound + bound := le_self_add
  | some last =>
    have hsome : start ≠ [] := List.ne_nil_of_length_pos (by omega)
    obtain ⟨lighter, hlighter, other, hother, hle⟩ :
        ∃ lighter ∈ loads weight start jobs, ∃ other ∈ loads weight start others,
          lighter ≤ other := exists_le_of_perm hsome hjobs hothers hperm
    have hjob : last ∈ others.flatten := by
      refine hperm.mem_iff.mp (List.mem_flatten.mpr ⟨placed, List.mem_of_getElem? hplaced, ?_⟩)
      exact List.mem_of_getLast? hlast
    calc load
        ≤ lighter + weight last := h i load placed last hi hplaced hlast lighter hlighter
      _ ≤ bound + bound :=
        add_le_add (hle.trans (hbound other hother)) (weight_le_bound hothers hbound hjob)

end Bound

end KsanaBuildAhead.Lib.ListScheduling
