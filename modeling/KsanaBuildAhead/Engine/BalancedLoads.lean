import KsanaBuildAhead.Engine.AdpBalance
import KsanaBuildAhead.Lib.ListScheduling
import Mathlib.Algebra.Order.Group.Nat
import Mathlib.Data.List.MinMax
import Mathlib.Data.Nat.Cast.Basic
import Mathlib.Order.Nat

/-!
# How even the balanced loads are

With exact loads a rank is only given a request while no other rank carries less. So whatever the
loads at the start, no rank ends with more than twice what the heaviest rank carries after any
other way of handing out the same requests.
-/
namespace KsanaBuildAhead.Engine

open KsanaBuildAhead.Runtime
open KsanaBuildAhead.Lib

/-- The requests each rank is given, in the order they are pushed. -/
def givenRequests : List (Nat × InferRequest) → List Nat → List (List (Nat × InferRequest)) →
    List (List (Nat × InferRequest))
  | [], _, given => given
  | (tokensNum, req) :: requests, workload, given =>
    let best := bestRank tokensNum workload
    givenRequests requests (workload.modify best (· + tokensNum))
      (given.modify best (· ++ [(tokensNum, req)]))

/-- What a rank computes in the end. -/
def finalLoads (workload : List Nat) (given : List (List (Nat × InferRequest))) : List Nat :=
  ListScheduling.loads Prod.fst workload given

def receive (rank : DpRank) (given : List (Nat × InferRequest)) : DpRank :=
  { rank with dpWaitingReqs := rank.dpWaitingReqs ++ given.map Prod.snd }

def maxLoad (loads : List Nat) : Nat := loads.foldr max 0

theorem le_maxLoad {loads : List Nat} {load : Nat} (h : load ∈ loads) : load ≤ maxLoad loads :=
  List.le_max_of_le h le_rfl

theorem maxLoad_le {loads : List Nat} {bound : Nat} (h : ∀ load ∈ loads, load ≤ bound) :
    maxLoad loads ≤ bound :=
  List.max_le_of_forall_le loads bound h

/-- `best` is the rank of the least load of those `seen`, and stays so to the end. -/
theorem findBestRank_least {tokensNum : Nat} {rest : List Nat} {seen : List Nat} {best least : Nat}
    (hbest : seen[best]? = some least) (hleast : ∀ other ∈ seen, least ≤ other) :
    ∃ final, (seen ++ rest)[findBestRank tokensNum seen.length (best, least + tokensNum) rest]? =
      some final ∧ ∀ other ∈ seen ++ rest, final ≤ other := by
  induction rest generalizing seen best least with
  | nil => exact ⟨least, by rwa [List.append_nil, findBestRank], by rwa [List.append_nil]⟩
  | cons workload rest ih =>
    have hsplit : seen ++ workload :: rest = (seen ++ [workload]) ++ rest := by
      rw [List.append_assoc, List.singleton_append]
    have hlength : (seen ++ [workload]).length = seen.length + 1 := by
      rw [List.length_append, List.length_singleton]
    rw [findBestRank, hsplit, ← hlength]
    by_cases hless : workload + tokensNum < least + tokensNum
    · rw [if_pos hless]
      refine ih ?_ fun other hother => ?_
      · rw [List.getElem?_append_right le_rfl, Nat.sub_self]
        rfl
      · rcases List.mem_append.mp hother with hseen | hnew
        · have := hleast other hseen
          omega
        · exact (List.mem_singleton.mp hnew).ge
    · rw [if_neg hless]
      refine ih ?_ fun other hother => ?_
      · rw [List.getElem?_append_left (List.getElem?_eq_some_iff.mp hbest).1, hbest]
      · rcases List.mem_append.mp hother with hseen | hnew
        · exact hleast other hseen
        · rw [List.mem_singleton.mp hnew]
          omega

theorem bestRank_least (tokensNum : Nat) {workload : List Nat} (hsome : workload ≠ []) :
    ∃ least, workload[bestRank tokensNum workload]? = some least ∧
      ∀ other ∈ workload, least ≤ other := by
  cases workload with
  | nil => exact absurd rfl hsome
  | cons load workload =>
    have hone : ∀ other ∈ [load], load ≤ other := fun other h => (List.mem_singleton.mp h).ge
    have hfirst : [load][0]? = some load := rfl
    exact findBestRank_least hfirst hone

theorem assignRequests_eq (requests : List (Nat × InferRequest)) {workload : List Nat}
    {ranks : List DpRank} {given : List (List (Nat × InferRequest))}
    (hgiven : given.length = ranks.length) :
    assignRequests requests workload (List.zipWith receive ranks given) =
      List.zipWith receive ranks (givenRequests requests workload given) := by
  induction requests generalizing workload given with
  | nil => rfl
  | cons request requests ih =>
    obtain ⟨tokensNum, req⟩ := request
    rw [assignRequests, givenRequests, Nat.cast_id]
    have hpushed : (List.zipWith receive ranks given).modify (bestRank tokensNum workload)
        (pushRequest req) = List.zipWith receive ranks
          (given.modify (bestRank tokensNum workload) (· ++ [(tokensNum, req)])) := by
      refine List.ext_getElem? fun i => ?_
      rw [List.getElem?_modify, List.getElem?_zipWith, List.getElem?_zipWith, List.getElem?_modify]
      cases ranks[i]? with
      | none => rfl
      | some rank =>
        cases given[i]? with
        | none => rfl
        | some placed =>
          by_cases hbest : bestRank tokensNum workload = i
          · simp [hbest, receive, pushRequest]
          · simp [hbest]
    rw [hpushed]
    exact ih (by rw [List.length_modify, hgiven])

theorem zipWith_receive_nil (ranks : List DpRank) :
    List.zipWith receive ranks (List.replicate ranks.length []) = ranks := by
  induction ranks with
  | nil => rfl
  | cons rank ranks ih =>
    rw [List.length_cons, List.replicate_succ, List.zipWith_cons_cons, ih, receive, List.map_nil,
      List.append_nil]

/-- The loop keeps the schedule of the requests handed out so far, and who was given the last one
carried the least. -/
theorem givenRequests_spec (requests : List (Nat × InferRequest)) {start : List Nat}
    {given : List (List (Nat × InferRequest))} (hsome : start ≠ [])
    (hgiven : given.length = start.length)
    (hfits : ListScheduling.LastFits Prod.fst start given) :
    (givenRequests requests (finalLoads start given) given).length = start.length ∧
      (givenRequests requests (finalLoads start given) given).flatten.Perm
        (given.flatten ++ requests) ∧
      ListScheduling.LastFits Prod.fst start
        (givenRequests requests (finalLoads start given) given) := by
  induction requests generalizing given with
  | nil => exact ⟨hgiven, by rw [List.append_nil]; rfl, hfits⟩
  | cons request requests ih =>
    obtain ⟨tokensNum, req⟩ := request
    have hlength : (finalLoads start given).length = start.length :=
      ListScheduling.length_loads hgiven
    have hloads : finalLoads start given ≠ [] :=
      List.ne_nil_of_length_pos (hlength ▸ List.length_pos_iff.mpr hsome)
    obtain ⟨least, hbest, hleast⟩ := bestRank_least tokensNum hloads
    have hstep := hfits.place hbest hleast (tokensNum, req)
    obtain ⟨hlen, hperm, hlast⟩ := ih (by rw [List.length_modify, hgiven]) hstep
    have hgrown : ListScheduling.loads Prod.fst start (given.modify
        (bestRank tokensNum (finalLoads start given)) (· ++ [(tokensNum, req)])) =
        (ListScheduling.loads Prod.fst start given).modify
          (bestRank tokensNum (finalLoads start given)) (· + tokensNum) :=
      ListScheduling.loads_modify (tokensNum, req) _
    rw [givenRequests]
    rw [finalLoads, hgrown] at hlen hperm hlast
    refine ⟨hlen, hperm.trans ?_, hlast⟩
    have hbound : bestRank tokensNum (finalLoads start given) < given.length := by
      rw [hgiven, ← hlength]
      exact (List.getElem?_eq_some_iff.mp hbest).1
    have hpush := modify_flatMap_perm (f := id)
      (g := (· ++ [((tokensNum, req) : Nat × InferRequest)])) (fun _ => rfl) hbound
    rw [List.flatMap_id, List.flatMap_id] at hpush
    refine (hpush.append_right _).trans (List.Perm.of_eq ?_)
    rw [List.append_assoc, List.singleton_append]

/-- Every request is handed to one rank, whatever else the ranks hold. -/
structure HandsOut (requests : List (Nat × InferRequest)) (workload : List Nat)
    (given : List (List (Nat × InferRequest))) : Prop where
  perRank : given.length = workload.length
  perm : given.flatten.Perm requests

/-- How `after` follows from `ranks`, each rank with `given` more. -/
structure BalancesLoads (requests : List (Nat × InferRequest)) (workload : List Nat)
    (ranks after : List DpRank) (given : List (List (Nat × InferRequest))) : Prop where
  handsOut : HandsOut requests workload given
  appended : after = List.zipWith receive ranks given
  lastFits : ∀ (i : Nat) (load : Nat) (received : List (Nat × InferRequest))
    (last : Nat × InferRequest), (finalLoads workload given)[i]? = some load →
      given[i]? = some received → received.getLast? = some last →
      ∀ other ∈ finalLoads workload given, load - last.1 ≤ other
  withinTwo : ∀ others, HandsOut requests workload others →
    maxLoad (finalLoads workload given) ≤ 2 * maxLoad (finalLoads workload others)

theorem assignRequests_balances (order : DescendingSort) (requests : List (Nat × InferRequest))
    {workload : List Nat} {ranks : List DpRank} (hdp : ranks ≠ [])
    (hworkload : workload.length = ranks.length) :
    BalancesLoads requests workload ranks (assignRequests (order.sort requests) workload ranks)
      (givenRequests (order.sort requests) workload (List.replicate ranks.length [])) := by
  have hsome : workload ≠ [] :=
    List.ne_nil_of_length_pos (hworkload ▸ List.length_pos_iff.mpr hdp)
  have hempty : (List.replicate ranks.length ([] : List (Nat × InferRequest))).length =
      workload.length := by
    rw [List.length_replicate, hworkload]
  have hidle : finalLoads workload (List.replicate ranks.length []) = workload := by
    refine List.ext_getElem? fun i => ?_
    rw [finalLoads, ListScheduling.getElem?_loads, List.getElem?_replicate, ← hworkload]
    by_cases hi : i < workload.length
    · rw [if_pos hi, List.getElem?_eq_getElem hi]
      rfl
    · rw [if_neg hi, List.getElem?_eq_none (Nat.le_of_not_lt hi)]
      rfl
  obtain ⟨hlength, hperm, hlast⟩ := givenRequests_spec (order.sort requests) hsome hempty
    (ListScheduling.lastFits_replicate ranks.length)
  rw [hidle] at hlength hperm hlast
  have hgiven : HandsOut requests workload
      (givenRequests (order.sort requests) workload (List.replicate ranks.length [])) := by
    refine ⟨hlength, (hperm.trans (List.Perm.of_eq ?_)).trans (order.perm requests)⟩
    rw [List.flatten_replicate_nil, List.nil_append]
  refine ⟨hgiven, ?_, fun i load received last hload hreceived hreq other hother => ?_,
    fun others hothers => ?_⟩
  · have hrun : assignRequests (order.sort requests) workload
        (List.zipWith receive ranks (List.replicate ranks.length [])) =
        List.zipWith receive ranks (givenRequests (order.sort requests) workload
          (List.replicate ranks.length [])) := assignRequests_eq _ List.length_replicate
    rwa [zipWith_receive_nil] at hrun
  · exact Nat.sub_le_iff_le_add.mpr (hlast i load received last hload hreceived hreq other hother)
  · refine maxLoad_le fun load hload => ?_
    rw [Nat.two_mul]
    exact hlast.loads_le_add hlength hothers.perRank (hgiven.perm.trans hothers.perm.symm)
      (fun _ => le_maxLoad) load hload

/-- From any loads at the start, and so from the loads of the running requests, the distribution
appends every request to one rank, leaves no rank lighter by its last request than another one,
and stays within twice the heaviest load of every other way to hand out the requests. -/
theorem distribution_within_two (order : DescendingSort) (requests : List (Nat × InferRequest))
    (ranks : List DpRank) (hdp : ranks ≠ []) :
    (∀ workload : List Nat, workload.length = ranks.length →
      ∃ given, BalancesLoads requests workload ranks
        (assignRequests (order.sort requests) workload ranks) given) ∧
    ∃ given, BalancesLoads requests (calculatePrefillWorkload Nat ranks) ranks
      (distributeRequestsByToken Nat order requests ranks) given :=
  ⟨fun _ hworkload => ⟨_, assignRequests_balances order requests hdp hworkload⟩,
    _, assignRequests_balances order requests hdp (List.length_map ..)⟩

/-- Two requests for two ranks that already run one. -/
theorem distribution_within_two_sample :
    (∀ workload : List Nat, workload.length = [sampleDpRank, sampleDpRank].length →
      ∃ given, BalancesLoads [(2, { reqId := 8 }), (5, { reqId := 9 })] workload
        [sampleDpRank, sampleDpRank]
        (assignRequests (insertionOrder.sort [(2, { reqId := 8 }), (5, { reqId := 9 })]) workload
          [sampleDpRank, sampleDpRank]) given) ∧
    ∃ given, BalancesLoads [(2, { reqId := 8 }), (5, { reqId := 9 })]
      (calculatePrefillWorkload Nat [sampleDpRank, sampleDpRank]) [sampleDpRank, sampleDpRank]
      (distributeRequestsByToken Nat insertionOrder [(2, { reqId := 8 }), (5, { reqId := 9 })]
        [sampleDpRank, sampleDpRank]) given :=
  distribution_within_two insertionOrder _ _ (List.cons_ne_nil _ _)

end KsanaBuildAhead.Engine
