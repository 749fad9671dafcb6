import KsanaBuildAhead.Lib.SeparatedRanges
import KsanaBuildAhead.Runtime.ScheduleOutputWire
import Mathlib.Data.List.Sort

/-!
# What a request reports of its cache hits

The shared prefix, then the tokens copied from flexible caches as ranges. The ranges are read
off the ordered set of copied positions, a new one wherever a position is skipped.
-/
namespace KsanaBuildAhead.Runtime

open Lib.SeparatedRanges

/-- The fields `SetCacheHitStatus` reads and writes. A copy task is the index of the token it
fills. -/
structure CacheHitRequest where
  returnCacheStat : Bool
  inferStage : InferStage
  flexibleCachedCopyTasks : List Int
  cacheStat : List (Nat × Nat)
deriving Repr, DecidableEq

/-- The `std::set` of the copied positions, in order. -/
def flexibleCachedTokenIdx (tasks : List Int) : List Int := tasks.dedup.insertionSort (· ≤ ·)

/-- The loop over the positions behind the first, with the range it is in. -/
def flexibleRanges (start prev : Int) : List Int → List (Int × Int)
  | [] => [(start, prev + 1)]
  | curr :: rest =>
    if curr ≠ prev + 1 then (start, prev + 1) :: flexibleRanges curr curr rest
    else flexibleRanges start curr rest

def sizePair (range : Int × Int) : Nat × Nat := (sizeOfInt range.1, sizeOfInt range.2)

def setCacheHitStatus (req : CacheHitRequest) (sharedTokenNum : Nat)
    (isFirstPrefillStep : Bool) : CacheHitRequest :=
  if !req.returnCacheStat || req.inferStage ≠ .context || !isFirstPrefillStep then req
  else
    match flexibleCachedTokenIdx req.flexibleCachedCopyTasks with
    | [] => { req with cacheStat := [(sharedTokenNum, sharedTokenNum)] }
    | start :: rest =>
      { req with
        cacheStat := (sharedTokenNum, sharedTokenNum) ::
          (flexibleRanges start start rest).map sizePair }

theorem mem_flexibleCachedTokenIdx {tasks : List Int} {idx : Int} :
    idx ∈ flexibleCachedTokenIdx tasks ↔ idx ∈ tasks := by
  simp only [flexibleCachedTokenIdx, List.mem_insertionSort, List.mem_dedup]

theorem flexibleCachedTokenIdx_sorted (tasks : List Int) :
    (flexibleCachedTokenIdx tasks).Pairwise (· < ·) := by
  have hle : (flexibleCachedTokenIdx tasks).Pairwise (· ≤ ·) :=
    List.pairwise_insertionSort (· ≤ ·) tasks.dedup
  have hne : (flexibleCachedTokenIdx tasks).Nodup :=
    (List.perm_insertionSort (· ≤ ·) tasks.dedup).nodup_iff.mpr tasks.nodup_dedup
  exact (hle.and hne).imp fun h => lt_of_le_of_ne h.1 h.2

/-- What the loop leaves covers the open range and the positions still to come, and nothing of
it lies before the open range. -/
theorem flexibleRanges_spec {start prev : Int} {rest : List Int} (hopen : start ≤ prev)
    (hbehind : ∀ idx ∈ rest, prev < idx) (hsorted : rest.Pairwise (· < ·)) :
    Separated (flexibleRanges start prev rest) ∧
      (∀ range ∈ flexibleRanges start prev rest, start ≤ range.1) ∧
      ∀ idx, Covers (flexibleRanges start prev rest) idx ↔
        (start ≤ idx ∧ idx ≤ prev) ∨ idx ∈ rest := by
  induction rest generalizing start prev with
  | nil =>
    refine ⟨separated_cons.mpr ⟨by dsimp only; omega, by simp, separated_nil⟩,
      by simp [flexibleRanges], fun idx => ?_⟩
    simp only [flexibleRanges, covers_cons, Int.lt_add_one_iff]
    simp [Covers]
  | cons curr rest ih =>
    obtain ⟨hlater, hrest⟩ := List.pairwise_cons.mp hsorted
    have hcurr : prev < curr := hbehind curr List.mem_cons_self
    by_cases hgap : curr ≠ prev + 1
    · obtain ⟨hapart, hfrom, hcovers⟩ := ih (le_refl curr) hlater hrest
      rw [flexibleRanges, if_pos hgap]
      refine ⟨separated_cons.mpr ⟨by dsimp only; omega, fun range hmem => ?_, hapart⟩, ?_, ?_⟩
      · have := hfrom range hmem
        dsimp only
        omega
      · refine List.forall_mem_cons.mpr ⟨le_refl start, fun range hmem => ?_⟩
        have := hfrom range hmem
        omega
      · intro idx
        rw [covers_cons, hcovers, List.mem_cons]
        grind
    · obtain rfl : curr = prev + 1 := not_not.mp hgap
      obtain ⟨hapart, hfrom, hcovers⟩ := ih (show start ≤ prev + 1 by omega) hlater hrest
      rw [flexibleRanges, if_neg hgap]
      refine ⟨hapart, hfrom, fun idx => ?_⟩
      rw [hcovers, List.mem_cons]
      grind

/-- The positions a request can hold: its tokens are counted in an `int`. -/
abbrev TokenIndices (tasks : List Int) : Prop := ∀ idx ∈ tasks, 0 ≤ idx ∧ idx + 1 < 2 ^ 31

/-- The report names exactly the copied positions, by ranges that are as long as they can be. -/
structure ReportsCopies (tasks : List Int) (ranges : List (Nat × Nat)) : Prop where
  separated : Separated ranges
  covers : ∀ idx, Covers ranges idx ↔ (idx : Int) ∈ tasks

theorem ReportsCopies.unique {tasks : List Int} {ranges others : List (Nat × Nat)}
    (h : ReportsCopies tasks ranges) (hother : ReportsCopies tasks others) : ranges = others :=
  h.separated.unique hother.separated fun idx => (h.covers idx).trans (hother.covers idx).symm

theorem sizeOfInt_of_range {value : Int} (h0 : 0 ≤ value) (h : value < 2 ^ 31) :
    (sizeOfInt value : Int) = value := by
  unfold sizeOfInt
  omega

/-- A separated list of `int` ranges is the same list as `size_t` ranges. -/
theorem map_sizePair {ranges : List (Int × Int)} (hseparated : Separated ranges)
    (hbegin : ∀ range ∈ ranges, 0 ≤ range.1) (hend : ∀ range ∈ ranges, range.2 < 2 ^ 31) :
    Separated (ranges.map sizePair) ∧
      ∀ idx : Nat, Covers (ranges.map sizePair) idx ↔ Covers ranges (idx : Int) := by
  induction ranges with
  | nil => exact ⟨separated_nil, fun idx => by simp [Covers]⟩
  | cons first ranges ih =>
    obtain ⟨hfirst, hapart, hrest⟩ := separated_cons.mp hseparated
    obtain ⟨hbegin0, hbegins⟩ := List.forall_mem_cons.mp hbegin
    obtain ⟨hend0, hends⟩ := List.forall_mem_cons.mp hend
    obtain ⟨hseparated', hcovers⟩ := ih hrest hbegins hends
    have h1 : (sizeOfInt first.1 : Int) = first.1 := sizeOfInt_of_range hbegin0 (by omega)
    have h2 : (sizeOfInt first.2 : Int) = first.2 := sizeOfInt_of_range (by omega) hend0
    constructor
    · refine separated_cons.mpr ⟨?_, List.forall_mem_map.mpr ?_, hseparated'⟩
      · dsimp only [sizePair]
        omega
      · intro range hmem
        have hlater := hapart range hmem
        have hnonempty := hrest.nonempty range hmem
        have h3 : (sizeOfInt range.1 : Int) = range.1 :=
          sizeOfInt_of_range (hbegins range hmem) (by have := hends range hmem; omega)
        dsimp only [sizePair]
        omega
    · intro idx
      rw [List.map_cons, covers_cons, covers_cons, hcovers]
      refine or_congr_left ?_
      dsimp only [sizePair]
      omega

/-- A range ends behind a position it covers, so no end is above the last position. -/
theorem end_lt_of_covers {ranges : List (Int × Int)} {tasks : List Int}
    (htasks : TokenIndices tasks) (hseparated : Separated ranges) (hcovers : ∀ idx, Covers ranges idx ↔ idx ∈ tasks) :
    (∀ range ∈ ranges, 0 ≤ range.1) ∧ ∀ range ∈ ranges, range.2 < 2 ^ 31 := by
  constructor
  · intro range hmem
    have hbegin : Covers ranges range.1 :=
      ⟨range, hmem, le_refl _, hseparated.nonempty range hmem⟩
    exact (htasks _ ((hcovers _).mp hbegin)).1
  · intro range hmem
    have hnonempty := hseparated.nonempty range hmem
    have hlast : Covers ranges (range.2 - 1) := ⟨range, hmem, by omega, by omega⟩
    have := (htasks _ ((hcovers _).mp hlast)).2
    omega

theorem reportsCopies_flexibleRanges {tasks rest : List Int} {start : Int}
    (htasks : TokenIndices tasks) (hidx : flexibleCachedTokenIdx tasks = start :: rest) :
    ReportsCopies tasks ((flexibleRanges start start rest).map sizePair) := by
  have hsorted := flexibleCachedTokenIdx_sorted tasks
  rw [hidx] at hsorted
  obtain ⟨hlater, hrest⟩ := List.pairwise_cons.mp hsorted
  obtain ⟨hseparated, -, hcovers⟩ := flexibleRanges_spec (le_refl start) hlater hrest
  have hmem : ∀ idx, Covers (flexibleRanges start start rest) idx ↔ idx ∈ tasks := by
    intro idx
    rw [hcovers, ← @mem_flexibleCachedTokenIdx tasks, hidx, List.mem_cons]
    refine or_congr_left ?_
    omega
  obtain ⟨hbegin, hend⟩ := end_lt_of_covers htasks hseparated hmem
  obtain ⟨hpairs, hsame⟩ := map_sizePair hseparated hbegin hend
  exact ⟨hpairs, fun idx => (hsame idx).trans (hmem _)⟩

/-- On the first prefill step of a request that asks for it the report is the shared prefix and
the one list of separated ranges that holds exactly the copied positions. On every other call
nothing changes. -/
theorem setCacheHitStatus_reports (req : CacheHitRequest) (sharedTokenNum : Nat)
    (isFirstPrefillStep : Bool) (htasks : TokenIndices req.flexibleCachedCopyTasks) :
    (req.returnCacheStat = true ∧ req.inferStage = .context ∧ isFirstPrefillStep = true →
      ∃ ranges, setCacheHitStatus req sharedTokenNum isFirstPrefillStep =
          { req with cacheStat := (sharedTokenNum, sharedTokenNum) :: ranges } ∧
        ReportsCopies req.flexibleCachedCopyTasks ranges ∧
        ∀ others, ReportsCopies req.flexibleCachedCopyTasks others → others = ranges) ∧
    (¬ (req.returnCacheStat = true ∧ req.inferStage = .context ∧ isFirstPrefillStep = true) →
      setCacheHitStatus req sharedTokenNum isFirstPrefillStep = req) := by
  constructor
  · rintro ⟨hreturn, hstage, hfirst⟩
    have hreported : ∃ ranges, setCacheHitStatus req sharedTokenNum isFirstPrefillStep =
          { req with cacheStat := (sharedTokenNum, sharedTokenNum) :: ranges } ∧
        ReportsCopies req.flexibleCachedCopyTasks ranges := by
      rw [setCacheHitStatus, if_neg (by simp [hreturn, hstage, hfirst])]
      split
      · next hnone =>
        refine ⟨[], rfl, separated_nil, fun idx => ?_⟩
        rw [← mem_flexibleCachedTokenIdx, hnone]
        simp [Covers]
      · next start rest hsome =>
        exact ⟨_, rfl, reportsCopies_flexibleRanges htasks hsome⟩
    obtain ⟨ranges, hstat, hranges⟩ := hreported
    exact ⟨ranges, hstat, hranges, fun others hothers => hothers.unique hranges⟩
  · intro hskip
    rw [setCacheHitStatus, if_pos]
    by_contra hcall
    refine hskip ?_
    simpa [and_assoc] using hcall

theorem setCacheHitStatus_reports_sample :
    setCacheHitStatus ⟨true, .context, [9, 4, 5, 8, 4], []⟩ 3 true =
        ⟨true, .context, [9, 4, 5, 8, 4], [(3, 3), (4, 6), (8, 10)]⟩ ∧
      ∃ ranges, setCacheHitStatus ⟨true, .context, [9, 4, 5, 8, 4], []⟩ 3 true =
          ⟨true, .context, [9, 4, 5, 8, 4], (3, 3) :: ranges⟩ ∧
        ReportsCopies [9, 4, 5, 8, 4] ranges := by
  have htasks : TokenIndices [9, 4, 5, 8, 4] := by decide
  obtain ⟨ranges, hstat, hranges, -⟩ := (setCacheHitStatus_reports
    ⟨true, .context, [9, 4, 5, 8, 4], []⟩ 3 true htasks).1 ⟨rfl, rfl, rfl⟩
  exact ⟨by decide, ranges, hstat, hranges⟩

end KsanaBuildAhead.Runtime
