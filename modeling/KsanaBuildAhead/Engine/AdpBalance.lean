import KsanaBuildAhead.Engine.LiveReqIds
import Mathlib.Data.List.Flatten
import Mathlib.Data.List.Perm.Basic
import Mathlib.Data.List.Sort

/-!
# Balancing waiting requests over the attention-DP ranks

A call collects every waiting request and either hands all of them to ranks or puts all of them
back. It puts them back only while every rank has something to generate and the requests are
fewer than the ranks, and not more often than the configured number of steps.
-/
namespace KsanaBuildAhead.Engine

open KsanaBuildAhead.Runtime

/-- One attention-DP rank: what was handed to it, and its batches by `multi_batch_id`. -/
structure DpRank where
  dpWaitingReqs : List InferRequest := []
  batchStates : List BatchState := []

structure AdpBalanceState where
  waitingReqs : List InferRequest := []
  ranks : List DpRank
  adpBalanceWaitingIters : Nat := 0
  adpBalanceStartTime : Int := 0

/-- What is left to compute, at least one token. -/
def tokensLeft (tokenNum kvCachedTokenNum : Nat) : Nat :=
  if kvCachedTokenNum < tokenNum then tokenNum - kvCachedTokenNum else 1

def prefillTokensNum (req : InferRequest) : Nat :=
  if 0 < req.forwardingTokens.length then
    tokensLeft req.forwardingTokens.length req.kvCachedTokenNum
  else tokensLeft req.inputTokens.length req.kvCachedTokenNum

/-- In a waiting queue only the input counts. -/
def queuedTokensNum (req : InferRequest) : Nat :=
  tokensLeft req.inputTokens.length req.kvCachedTokenNum

section Workload

-- The numbers the workload is computed with, floats in the source.
variable (W : Type) [NatCast W] [Add W] [LT W] [DecidableLT W]

def calculatePrefillWorkload (ranks : List DpRank) : List W :=
  ranks.map fun rank =>
    (rank.batchStates.flatMap fun state => state.scheduleOutput.runningReqs).foldl
      (fun workload req => workload + (prefillTokensNum req : W)) ((0 : Nat) : W)

variable {W}

/-- The first rank of those with the least workload, `best` so far. -/
def findBestRank (tokensNum : W) (i : Nat) (best : Nat × W) : List W → Nat
  | [] => best.1
  | workload :: workloads =>
    findBestRank tokensNum (i + 1)
      (if workload + tokensNum < best.2 then (i, workload + tokensNum) else best) workloads

def bestRank (tokensNum : W) : List W → Nat
  | [] => 0
  | workload :: workloads => findBestRank tokensNum 1 (0, workload + tokensNum) workloads

def pushRequest (req : InferRequest) (rank : DpRank) : DpRank :=
  { rank with dpWaitingReqs := rank.dpWaitingReqs ++ [req] }

def assignRequests : List (Nat × InferRequest) → List W → List DpRank → List DpRank
  | [], _, ranks => ranks
  | (tokensNum, req) :: requests, workload, ranks =>
    let best := bestRank (tokensNum : W) workload
    assignRequests requests (workload.modify best (· + (tokensNum : W)))
      (ranks.modify best (pushRequest req))

variable (W)

/-- The heaviest request first. `std::sort` leaves open how it orders equal ones. -/
structure DescendingSort where
  sort : List (Nat × InferRequest) → List (Nat × InferRequest)
  perm : ∀ requests, (sort requests).Perm requests
  sorted : ∀ requests, (sort requests).Pairwise fun a b => b.1 ≤ a.1

def distributeRequestsByToken (order : DescendingSort) (requests : List (Nat × InferRequest))
    (ranks : List DpRank) : List DpRank :=
  assignRequests (order.sort requests) (calculatePrefillWorkload W ranks) ranks

end Workload

/-- A call, what it finds and what happens next to it. `arrivals` came since the last call, and
`arrivalsMeanwhile` come while the call does not hold the lock of the waiting requests. -/
structure BalanceCall where
  multiBatchId : Nat
  arrivals : List InferRequest := []
  ranks : List DpRank
  arrivalsMeanwhile : List InferRequest := []
  currentTime : Int := 0
  startTime : Int := 0
  maxTimeMs : Int := 0

def BalanceCall.found (call : BalanceCall) (s : AdpBalanceState) : AdpBalanceState :=
  { s with waitingReqs := s.waitingReqs ++ call.arrivals, ranks := call.ranks }

namespace DpRank

def waitingQueue (rank : DpRank) (multiBatchId : Nat) : List InferRequest :=
  match rank.batchStates[multiBatchId]? with
  | some state => state.waitingQueue
  | none => []

def collect (multiBatchId : Nat) (rank : DpRank) : List (Nat × InferRequest) :=
  rank.dpWaitingReqs.map (fun req => (prefillTokensNum req, req)) ++
    (rank.waitingQueue multiBatchId).map fun req => (queuedTokensNum req, req)

def cleared (multiBatchId : Nat) (rank : DpRank) : DpRank where
  dpWaitingReqs := []
  batchStates := rank.batchStates.modify multiBatchId fun state => { state with waitingQueue := [] }

def hasGenRequests (multiBatchId : Nat) (rank : DpRank) : Bool :=
  match rank.batchStates[multiBatchId]? with
  | some state => state.scheduleOutput.runningReqs ≠ []
  | none => false

end DpRank

def isADPBalanceTimeout (maxSteps : Nat) (call : BalanceCall) (s : AdpBalanceState) : Bool :=
  (0 < s.adpBalanceWaitingIters && call.maxTimeMs ≤ call.currentTime - s.adpBalanceStartTime) ||
    maxSteps ≤ s.adpBalanceWaitingIters

/-- All waiting requests, each with its tokens. -/
def waitingReqsWithIndex (multiBatchId : Nat) (s : AdpBalanceState) : List (Nat × InferRequest) :=
  s.waitingReqs.map (fun req => (prefillTokensNum req, req)) ++
    s.ranks.flatMap (DpRank.collect multiBatchId)

def shouldProceedPrefill (maxSteps : Nat) (call : BalanceCall) (s : AdpBalanceState) : Bool :=
  let allRanksHaveCtxRequests := s.ranks.length ≤ (waitingReqsWithIndex call.multiBatchId s).length
  let allRanksHaveGenRequests := s.ranks.all (DpRank.hasGenRequests call.multiBatchId)
  allRanksHaveCtxRequests || !allRanksHaveGenRequests || isADPBalanceTimeout maxSteps call s

section Balance

variable (W : Type) [NatCast W] [Add W] [LT W] [DecidableLT W]

def balanceADPRequests (order : DescendingSort) (maxSteps : Nat) (s : AdpBalanceState)
    (call : BalanceCall) : AdpBalanceState :=
  let s := call.found s
  let requests := waitingReqsWithIndex call.multiBatchId s
  let ranks := s.ranks.map (DpRank.cleared call.multiBatchId)
  if shouldProceedPrefill maxSteps call s then
    { waitingReqs := call.arrivalsMeanwhile
      ranks := distributeRequestsByToken W order requests ranks
      adpBalanceWaitingIters := 0
      adpBalanceStartTime := s.adpBalanceStartTime }
  else
    { waitingReqs := call.arrivalsMeanwhile ++ requests.map Prod.snd
      ranks := ranks
      adpBalanceWaitingIters := s.adpBalanceWaitingIters + 1
      adpBalanceStartTime :=
        if s.adpBalanceWaitingIters = 0 then call.startTime else s.adpBalanceStartTime }

end Balance

/-- An element pushed into one of the buckets is one more of all elements. -/
theorem modify_flatMap_perm {α β : Type*} {f : α → List β} {g : α → α} {value : β}
    (hpush : ∀ x, f (g x) = f x ++ [value]) {xs : List α} {i : Nat} (hi : i < xs.length) :
    ((xs.modify i g).flatMap f).Perm (xs.flatMap f ++ [value]) := by
  induction xs generalizing i with
  | nil => exact absurd hi (Nat.not_lt_zero i)
  | cons x xs ih =>
    cases i with
    | zero =>
      rw [List.modify_zero_cons, List.flatMap_cons, List.flatMap_cons, hpush, List.append_assoc,
        List.append_assoc]
      exact List.Perm.append_left _ List.perm_append_comm
    | succ i =>
      rw [List.modify_succ_cons, List.flatMap_cons, List.flatMap_cons, List.append_assoc]
      exact (ih (Nat.lt_of_succ_lt_succ hi)).append_left _

/-- Every request the call can see, in one list. -/
def AdpBalanceState.requests (multiBatchId : Nat) (s : AdpBalanceState) : List InferRequest :=
  s.waitingReqs ++ s.ranks.flatMap fun rank => rank.dpWaitingReqs ++ rank.waitingQueue multiBatchId

section Conserved

variable {W : Type} [NatCast W] [Add W] [LT W] [DecidableLT W]

omit [NatCast W] in
theorem findBestRank_lt {tokensNum : W} {i : Nat} {best : Nat × W} {workloads : List W}
    (hbest : best.1 < i + workloads.length) :
    findBestRank tokensNum i best workloads < i + workloads.length := by
  induction workloads generalizing i best with
  | nil => exact hbest
  | cons workload workloads ih =>
    rw [List.length_cons] at hbest ⊢
    rw [findBestRank]
    have hstep : (if workload + tokensNum < best.2 then (i, workload + tokensNum) else best).1 <
        i + 1 + workloads.length := by
      split
      · simp only
        omega
      · omega
    have hrest := ih hstep
    omega

omit [NatCast W] in
theorem bestRank_lt {tokensNum : W} {workloads : List W} (hsome : workloads ≠ []) :
    bestRank tokensNum workloads < workloads.length := by
  cases workloads with
  | nil => exact absurd rfl hsome
  | cons workload workloads =>
    rw [bestRank, List.length_cons, Nat.add_comm]
    exact findBestRank_lt (by simp only; omega)

theorem assignRequests_spec (requests : List (Nat × InferRequest)) {workload : List W}
    {ranks : List DpRank} (hsome : ranks ≠ []) (hlength : workload.length = ranks.length) :
    (((assignRequests requests workload ranks).flatMap DpRank.dpWaitingReqs).Perm
        (ranks.flatMap DpRank.dpWaitingReqs ++ requests.map Prod.snd)) ∧
      (assignRequests requests workload ranks).map DpRank.batchStates =
        ranks.map DpRank.batchStates := by
  induction requests generalizing workload ranks with
  | nil => exact ⟨by rw [List.map_nil, List.append_nil]; rfl, rfl⟩
  | cons request requests ih =>
    obtain ⟨tokensNum, req⟩ := request
    have hpositive : 0 < ranks.length := List.length_pos_iff.mpr hsome
    have hworkload : workload ≠ [] := List.ne_nil_of_length_pos (hlength ▸ hpositive)
    have hbest : bestRank (tokensNum : W) workload < ranks.length :=
      hlength ▸ bestRank_lt hworkload
    have hpushed : ranks.modify (bestRank (tokensNum : W) workload) (pushRequest req) ≠ [] := by
      refine List.ne_nil_of_length_pos ?_
      rw [List.length_modify]
      exact hpositive
    have hgrown : (workload.modify (bestRank (tokensNum : W) workload)
        (· + (tokensNum : W))).length =
        (ranks.modify (bestRank (tokensNum : W) workload) (pushRequest req)).length := by
      rw [List.length_modify, List.length_modify, hlength]
    obtain ⟨hrest, hstates⟩ := ih hpushed hgrown
    have hone : ((ranks.modify (bestRank (tokensNum : W) workload) (pushRequest req)).flatMap
        DpRank.dpWaitingReqs).Perm (ranks.flatMap DpRank.dpWaitingReqs ++ [req]) :=
      modify_flatMap_perm (fun _ => rfl) hbest
    refine ⟨?_, ?_⟩
    · rw [assignRequests, List.map_cons]
      refine hrest.trans ((hone.append_right _).trans ?_)
      rw [List.append_assoc, List.singleton_append]
    · rw [assignRequests, hstates]
      refine List.ext_getElem? fun i => ?_
      rw [List.getElem?_map, List.getElem?_map, List.getElem?_modify]
      cases ranks[i]? with
      | none => rfl
      | some rank =>
        simp only [Option.map_eq_map, Option.map_some]
        split <;> rfl

end Conserved

theorem cleared_waitingQueue (rank : DpRank) (multiBatchId : Nat) :
    (rank.cleared multiBatchId).waitingQueue multiBatchId = [] := by
  rw [DpRank.waitingQueue, DpRank.cleared, List.getElem?_modify_eq]
  cases rank.batchStates[multiBatchId]? <;> rfl

theorem cleared_waitingQueue_of_ne (rank : DpRank) {multiBatchId other : Nat}
    (hother : other ≠ multiBatchId) :
    (rank.cleared multiBatchId).waitingQueue other = rank.waitingQueue other := by
  rw [DpRank.waitingQueue, DpRank.cleared, List.getElem?_modify_ne _ _ hother.symm]
  rfl

theorem waitingQueue_congr {rank other : DpRank} (h : rank.batchStates = other.batchStates)
    (multiBatchId : Nat) : rank.waitingQueue multiBatchId = other.waitingQueue multiBatchId := by
  rw [DpRank.waitingQueue, DpRank.waitingQueue, h]

theorem waitingReqsWithIndex_reqs (multiBatchId : Nat) (s : AdpBalanceState) :
    (waitingReqsWithIndex multiBatchId s).map Prod.snd = s.requests multiBatchId := by
  rw [waitingReqsWithIndex, AdpBalanceState.requests, List.map_append, List.map_map,
    List.map_flatMap]
  refine congrArg₂ (· ++ ·) (List.map_id _) (congrArg (fun f => s.ranks.flatMap f) ?_)
  funext rank
  rw [DpRank.collect, List.map_append, List.map_map, List.map_map]
  exact congrArg₂ (· ++ ·) (List.map_id _) (List.map_id _)

section Balance

variable {W : Type} [NatCast W] [Add W] [LT W] [DecidableLT W] {order : DescendingSort}
  {maxSteps : Nat} {s : AdpBalanceState} {call : BalanceCall}

/-- The ranks a call starts to fill. -/
def BalanceCall.clearedRanks (call : BalanceCall) : List DpRank :=
  call.ranks.map (DpRank.cleared call.multiBatchId)

theorem distribute_spec (order : DescendingSort) (hsome : call.ranks ≠ [])
    (requests : List (Nat × InferRequest)) :
    ((distributeRequestsByToken W order requests call.clearedRanks).flatMap
        DpRank.dpWaitingReqs).Perm (requests.map Prod.snd) ∧
      ∀ rank ∈ distributeRequestsByToken W order requests call.clearedRanks,
        rank.waitingQueue call.multiBatchId = [] := by
  have hcleared : call.clearedRanks ≠ [] := List.map_eq_nil_iff.not.mpr hsome
  have hlength : (calculatePrefillWorkload W call.clearedRanks).length = call.clearedRanks.length :=
    List.length_map ..
  obtain ⟨hassigned, hstates⟩ := assignRequests_spec (order.sort requests) hcleared hlength
  have hempty : call.clearedRanks.flatMap DpRank.dpWaitingReqs = [] := by
    rw [BalanceCall.clearedRanks, List.flatMap_map]
    exact List.flatMap_eq_nil_iff.mpr fun _ _ => rfl
  rw [hempty, List.nil_append] at hassigned
  refine ⟨hassigned.trans ((order.perm requests).map Prod.snd), fun rank hrank => ?_⟩
  have hmem := List.mem_map_of_mem (f := DpRank.batchStates) hrank
  rw [distributeRequestsByToken, hstates] at hmem
  obtain ⟨old, hold, heq⟩ := List.mem_map.mp hmem
  obtain ⟨first, -, rfl⟩ := List.mem_map.mp hold
  rw [waitingQueue_congr heq.symm, cleared_waitingQueue]

/-- What one call does with everything that waits. -/
structure BalancesCall (order : DescendingSort) (maxSteps : Nat) (s : AdpBalanceState)
    (call : BalanceCall) (after : AdpBalanceState) : Prop where
  conserved : (after.requests call.multiBatchId).Perm
    (call.arrivalsMeanwhile ++ (call.found s).requests call.multiBatchId)
  rankNum : after.ranks.length = call.ranks.length
  queuesEmpty : ∀ (i : Nat) (rank : DpRank), call.ranks[i]? = some rank →
    ∃ handed, after.ranks[i]? = some handed ∧ handed.waitingQueue call.multiBatchId = [] ∧
      ∀ other, other ≠ call.multiBatchId → handed.waitingQueue other = rank.waitingQueue other
  oncePlaced : (call.arrivalsMeanwhile ++ (call.found s).requests call.multiBatchId).Nodup →
    (after.requests call.multiBatchId).Nodup
  distributed : shouldProceedPrefill maxSteps call (call.found s) = true →
    after.waitingReqs = call.arrivalsMeanwhile

theorem balanceADPRequests_batchStates (hsome : call.ranks ≠ []) :
    (balanceADPRequests W order maxSteps s call).ranks.map DpRank.batchStates =
      call.clearedRanks.map DpRank.batchStates := by
  rw [balanceADPRequests]
  split
  · refine (assignRequests_spec _ ?_ (List.length_map ..)).2
    exact List.map_eq_nil_iff.not.mpr hsome
  · rfl

theorem balanceADPRequests_balances (hsome : call.ranks ≠ []) :
    BalancesCall order maxSteps s call (balanceADPRequests W order maxSteps s call) := by
  have hcollected := waitingReqsWithIndex_reqs call.multiBatchId (call.found s)
  have hconserved : ((balanceADPRequests W order maxSteps s call).requests
      call.multiBatchId).Perm
        (call.arrivalsMeanwhile ++ (call.found s).requests call.multiBatchId) := by
    rw [balanceADPRequests]
    split
    case isTrue =>
      obtain ⟨hhanded, hempty⟩ := distribute_spec (W := W) order hsome
        (waitingReqsWithIndex call.multiBatchId (call.found s))
      refine List.Perm.append_left _ ?_
      rw [hcollected] at hhanded
      refine List.Perm.trans (List.Perm.of_eq ?_) hhanded
      refine List.flatMap_congr fun rank hrank => ?_
      rw [hempty rank hrank, List.append_nil]
    case isFalse =>
      refine List.Perm.of_eq ?_
      have hnone : call.clearedRanks.flatMap
          (fun rank => rank.dpWaitingReqs ++ rank.waitingQueue call.multiBatchId) = [] := by
        refine List.flatMap_eq_nil_iff.mpr fun rank hrank => ?_
        obtain ⟨old, -, rfl⟩ := List.mem_map.mp hrank
        rw [cleared_waitingQueue old call.multiBatchId]
        rfl
      rw [AdpBalanceState.requests, hcollected]
      exact (congrArg _ hnone).trans (List.append_nil _)
  have hstates : (balanceADPRequests W order maxSteps s call).ranks.map DpRank.batchStates =
      call.clearedRanks.map DpRank.batchStates := balanceADPRequests_batchStates hsome
  have hlength := congrArg List.length hstates
  rw [List.length_map, List.length_map, BalanceCall.clearedRanks, List.length_map] at hlength
  refine {
    conserved := hconserved
    rankNum := hlength
    queuesEmpty := fun i rank hrank => ?_
    oncePlaced := fun hnodup => hconserved.nodup_iff.mpr hnodup
    distributed := fun hproceed => by
      rw [balanceADPRequests, if_pos hproceed] }
  have hown := congrArg (fun states => states[i]?) hstates
  rw [List.getElem?_map, List.getElem?_map, BalanceCall.clearedRanks, List.getElem?_map,
    hrank] at hown
  obtain ⟨handed, hhanded, hsame⟩ := Option.map_eq_some_iff.mp hown
  refine ⟨handed, hhanded, ?_, fun other hother => ?_⟩
  · rw [waitingQueue_congr hsame, cleared_waitingQueue]
  · rw [waitingQueue_congr hsame, cleared_waitingQueue_of_ne rank hother]

variable (W order maxSteps) in
def balanceRun (start : AdpBalanceState) (calls : List BalanceCall) : AdpBalanceState :=
  calls.foldl (balanceADPRequests W order maxSteps) start

variable (W order maxSteps) in
/-- Every call puts the requests back. -/
def HeldThroughout : AdpBalanceState → List BalanceCall → Prop
  | _, [] => True
  | s, call :: calls => shouldProceedPrefill maxSteps call (call.found s) = false ∧
      HeldThroughout (balanceADPRequests W order maxSteps s call) calls

theorem held_lt_maxSteps (hheld : shouldProceedPrefill maxSteps call (call.found s) = false) :
    s.adpBalanceWaitingIters < maxSteps := by
  rw [shouldProceedPrefill, Bool.or_eq_false_iff, isADPBalanceTimeout] at hheld
  have hlimit := (Bool.or_eq_false_iff.mp hheld.2).2
  exact Nat.lt_of_not_le (of_decide_eq_false hlimit)

theorem held_iters (hheld : shouldProceedPrefill maxSteps call (call.found s) = false) :
    (balanceADPRequests W order maxSteps s call).adpBalanceWaitingIters =
      s.adpBalanceWaitingIters + 1 := by
  rw [balanceADPRequests, if_neg (by rw [hheld]; exact Bool.false_ne_true)]
  rfl

theorem HeldThroughout.length_le {calls : List BalanceCall}
    (h : HeldThroughout W order maxSteps s calls) : calls.length ≤ maxSteps := by
  have hcount : ∀ (calls : List BalanceCall) (s : AdpBalanceState),
      HeldThroughout W order maxSteps s calls →
        calls = [] ∨ s.adpBalanceWaitingIters + calls.length ≤ maxSteps := by
    intro calls
    induction calls with
    | nil => exact fun _ _ => Or.inl rfl
    | cons call calls ih =>
      rintro s ⟨hheld, hrest⟩
      have hlt := held_lt_maxSteps hheld
      right
      rw [List.length_cons]
      rcases ih _ hrest with hnil | hle
      · rw [hnil, List.length_nil]
        omega
      · rw [held_iters hheld] at hle
        omega
  rcases hcount calls s h with hnil | hle
  · rw [hnil]
    exact Nat.zero_le _
  · omega

variable (W order maxSteps) in
/-- Either all calls hold the requests, or one of them is the first to hand them out. -/
theorem held_or_distributes (s : AdpBalanceState) (calls : List BalanceCall) :
    HeldThroughout W order maxSteps s calls ∨
      ∃ before call after, calls = before ++ call :: after ∧
        HeldThroughout W order maxSteps s before ∧
        shouldProceedPrefill maxSteps call
          (call.found (balanceRun W order maxSteps s before)) = true := by
  induction calls generalizing s with
  | nil => exact Or.inl trivial
  | cons call calls ih =>
    cases hproceed : shouldProceedPrefill maxSteps call (call.found s) with
    | true => exact Or.inr ⟨[], call, calls, rfl, trivial, hproceed⟩
    | false =>
      rcases ih (balanceADPRequests W order maxSteps s call) with
        hheld | ⟨before, first, after, rfl, hheld, hfirst⟩
      · exact Or.inl ⟨hproceed, hheld⟩
      · exact Or.inr ⟨call :: before, first, after, rfl, ⟨hproceed, hheld⟩, hfirst⟩

/-- Over any sequence of calls with anything happening in between, each call conserves the
requests, empties the queues and places each request once, and among any `maxSteps + 1` calls in
a row one hands out all it has collected. -/
theorem adp_balance_conserves (W : Type) [NatCast W] [Add W] [LT W] [DecidableLT W]
    (order : DescendingSort) (maxSteps : Nat) (start : AdpBalanceState) (calls : List BalanceCall)
    (hdp : ∀ call ∈ calls, call.ranks ≠ []) :
    (∀ earlier call later, calls = earlier ++ call :: later →
      BalancesCall order maxSteps (balanceRun W order maxSteps start earlier) call
        (balanceRun W order maxSteps start (earlier ++ [call]))) ∧
    ∀ earlier window later, calls = earlier ++ (window ++ later) → maxSteps < window.length →
      ∃ before call after, window = before ++ call :: after ∧ before.length ≤ maxSteps ∧
        shouldProceedPrefill maxSteps call
          (call.found (balanceRun W order maxSteps start (earlier ++ before))) = true := by
  constructor
  · rintro earlier call later rfl
    have hsome := hdp call (List.mem_append_right _ List.mem_cons_self)
    rw [balanceRun, balanceRun, List.foldl_append]
    exact balanceADPRequests_balances hsome
  · intro earlier window later _ hlong
    rcases held_or_distributes W order maxSteps
      (balanceRun W order maxSteps start earlier) window with
      hheld | ⟨before, call, after, hwindow, hheld, hproceed⟩
    · exact absurd hheld.length_le (Nat.not_le.mpr hlong)
    · refine ⟨before, call, after, hwindow, hheld.length_le, ?_⟩
      rw [balanceRun, List.foldl_append]
      exact hproceed

end Balance

def heavierFirst (a b : Nat × InferRequest) : Prop := b.1 ≤ a.1

instance : DecidableRel heavierFirst := fun a b => Nat.decLe b.1 a.1

instance : Std.Total heavierFirst := ⟨fun a b => Nat.le_total b.1 a.1⟩

instance : IsTrans (Nat × InferRequest) heavierFirst := ⟨fun _ _ _ hab hbc => Nat.le_trans hbc hab⟩

/-- A stable order. -/
def insertionOrder : DescendingSort where
  sort := List.insertionSort heavierFirst
  perm := List.perm_insertionSort heavierFirst
  sorted := List.pairwise_insertionSort heavierFirst

def sampleDpRank : DpRank where
  batchStates := [{
    scheduleOutput := {
      scheduleId := 0
      runningReqs := [{ reqId := 7, inputTokens := [11, 12] }] } }]

def sampleBalanceCall : BalanceCall where
  multiBatchId := 0
  arrivals := [{ reqId := 8, inputTokens := [21, 22, 23] }]
  ranks := [sampleDpRank, sampleDpRank]

/-- The next call finds the request it was given before. -/
def sampleBalanceCalls : List BalanceCall :=
  [sampleBalanceCall, { sampleBalanceCall with arrivals := [] }]

def sampleBalanceState : AdpBalanceState where
  ranks := [sampleDpRank, sampleDpRank]

/-- One request waits in front of two generating ranks: it is put back once, then handed out. -/
theorem adp_balance_conserves_sample :
    (∀ earlier call later, sampleBalanceCalls = earlier ++ call :: later →
      BalancesCall insertionOrder 1 (balanceRun Nat insertionOrder 1 sampleBalanceState earlier)
        call (balanceRun Nat insertionOrder 1 sampleBalanceState (earlier ++ [call]))) ∧
    ∀ earlier window later, sampleBalanceCalls = earlier ++ (window ++ later) → 1 < window.length →
      ∃ before call after, window = before ++ call :: after ∧ before.length ≤ 1 ∧
        shouldProceedPrefill 1 call (call.found
          (balanceRun Nat insertionOrder 1 sampleBalanceState (earlier ++ before))) = true := by
  refine adp_balance_conserves Nat insertionOrder 1 sampleBalanceState _ fun call hcall => ?_
  rcases List.mem_cons.mp hcall with rfl | hrest
  · exact List.cons_ne_nil _ _
  · rw [List.mem_singleton.mp hrest]
    exact List.cons_ne_nil _ _

end KsanaBuildAhead.Engine
