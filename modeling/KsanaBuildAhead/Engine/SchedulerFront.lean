import KsanaBuildAhead.Engine.AdpBalance
import KsanaBuildAhead.Runtime.ReqGroup

/-!
# From the client to the ranks

Requests are refused or wait in one queue, and each call of the scheduler moves the waiting ones
to the attention-DP ranks, where the strategies take them. Between the two locks of a balancing
call the queue is empty for those who add. Nothing is lost or doubled on the way, and the queue
outgrows its limit by less than the number of ranks.
-/
namespace KsanaBuildAhead.Engine

open KsanaBuildAhead.Runtime
open KsanaBuildAhead.Runtime.ReqGroup (higherScore notify groupsAfter)
open KsanaBuildAhead.Lib.Execution
open KsanaBuildAhead.Lib.KeySort (StdSort)

structure SchedulerLimits where
  maxWaitingQueueLen : Nat
  maxTokenLen : Nat
  maxBatchSize : Nat
  enableBalance : Bool := false
  alwaysReturnLaunchableReq : Bool := false

inductive RetCode where
  | success
  | inputLengthExceeded
  | exceedCapacity
deriving Repr, DecidableEq

section AddInferRequest

variable {F : Type} [LinearOrder F]

/-- The client's request as far as it is answered here. -/
structure ClientRequest (F : Type) where
  group : ReqGroup.Group F
  finishStatus : RetCode := .success

/-- The requests made for one request of a client. They share its input, and their constructor
copies its custom length. -/
structure InferRequestGroup where
  first : InferRequest
  others : List InferRequest := []
  sameInput : ∀ req ∈ others, req.inputTokens = first.inputTokens
  sameCustomLength : ∀ req ∈ others, req.logitsCustomLength = first.logitsCustomLength

def InferRequestGroup.reqs (group : InferRequestGroup) : List InferRequest :=
  group.first :: group.others

def checkRequestExceedLength (config : SchedulerLimits) (req : InferRequest) : Bool :=
  config.maxTokenLen < req.inputTokens.length ||
    min req.inputTokens.length config.maxBatchSize < req.logitsCustomLength

/-- Every member is finished at once, the first one notifies. -/
def refuse (order : StdSort (higherScore (F := F))) (status : RetCode) (client : ClientRequest F) :
    ClientRequest F where
  group := notify order 0
    { client.group with finisheds := client.group.finisheds.map fun _ => true }
  finishStatus := status

def queueRequest [DraftTokensApi] (req : InferRequest) : InferRequest :=
  { req with outputTokens := req.inputTokens }.resetPrefillingTokens

def enqueueWaitingBufferQueue [DraftTokensApi] (order : StdSort (higherScore (F := F)))
    (config : SchedulerLimits) (waitingReqs : List InferRequest)
    (group : InferRequestGroup) (client : ClientRequest F) :
    RetCode × List InferRequest × ClientRequest F :=
  if config.maxWaitingQueueLen < waitingReqs.length + group.reqs.length then
    (.exceedCapacity, waitingReqs, refuse order .exceedCapacity client)
  else (.success, waitingReqs ++ group.reqs.map queueRequest, client)

def addInferRequest [DraftTokensApi] (order : StdSort (higherScore (F := F)))
    (config : SchedulerLimits) (waitingReqs : List InferRequest)
    (group : InferRequestGroup) (client : ClientRequest F) :
    RetCode × List InferRequest × ClientRequest F :=
  if checkRequestExceedLength config group.first then
    (.inputLengthExceeded, waitingReqs, refuse order .inputLengthExceeded client)
  else enqueueWaitingBufferQueue order config waitingReqs group client

/-- A request the scheduler takes. -/
def WithinLimits (config : SchedulerLimits) (payload : RequestPayload) : Prop :=
  payload.inputTokens.length ≤ config.maxTokenLen ∧
    payload.logitsCustomLength ≤ min payload.inputTokens.length config.maxBatchSize

/-- The two ways a request is answered: all members are queued and nobody is told, or none is and
the client is woken once, with every member finished and the reason given. -/
inductive Answered (config : SchedulerLimits) (waitingReqs : List InferRequest)
    (group : InferRequestGroup) (client : ClientRequest F) :
    RetCode × List InferRequest × ClientRequest F → Prop
  | queued (queue : List InferRequest)
    (payloads : queue.map InferRequest.toRequestPayload =
      group.reqs.map InferRequest.toRequestPayload)
    (within : ∀ payload ∈ queue.map InferRequest.toRequestPayload, WithinLimits config payload)
    (room : (waitingReqs ++ queue).length ≤ config.maxWaitingQueueLen) :
    Answered config waitingReqs group client (.success, waitingReqs ++ queue, client)
  | refused (status : RetCode) (after : ClientRequest F) (failed : status ≠ .success)
    (told : after.finishStatus = status)
    (finished : after.group.allFinished = true)
    (woken : after.group.wakes = client.group.wakes ++
      (client.group.endWaiter.map ReqGroup.Wake.ended).toList)
    (groups : after.group.reqGroups = groupsAfter 1 client.group.memberNum)
    (reason : (status = .inputLengthExceeded ∧
        ¬ WithinLimits config group.first.toRequestPayload) ∨
      (status = .exceedCapacity ∧
        config.maxWaitingQueueLen < waitingReqs.length + group.reqs.length)) :
    Answered config waitingReqs group client (status, waitingReqs, after)

end AddInferRequest

section Answer

variable {F : Type} [LinearOrder F] {order : StdSort (higherScore (F := F))}
  {client : ClientRequest F}

/-- A refusal wakes the client once, and the members behind the first keep their groups. -/
theorem refuse_tells (order : StdSort (higherScore (F := F))) (status : RetCode)
    (hstart : ReqGroup.Start client.group) :
    (refuse order status client).group.allFinished = true ∧
      (refuse order status client).group.wakes = client.group.wakes ++
        (client.group.endWaiter.map ReqGroup.Wake.ended).toList ∧
      (refuse order status client).group.reqGroups = groupsAfter 1 client.group.memberNum := by
  have hall : ({ client.group with
      finisheds := client.group.finisheds.map fun _ => true } : ReqGroup.Group F).allFinished =
      true := by
    simp [ReqGroup.Group.allFinished]
  have hsound : ReqGroup.Sound { client.group with
      finisheds := client.group.finisheds.map fun _ => true } :=
    ⟨(List.length_map _).trans hstart.sound.finisheds, ⟨0, Nat.zero_le _, hstart.whole⟩,
      fun hrunning => absurd (hrunning.symm.trans hall) Bool.false_ne_true⟩
  have hnotified : ReqGroup.Notified 0 _ (refuse order status client).group :=
    ReqGroup.notify_finished hsound hstart.someMember hall
  refine ⟨?_, hnotified.wakes, ?_⟩
  · rw [ReqGroup.Group.allFinished, hnotified.finisheds]
    exact hall
  · rw [hnotified.groups 0 (Nat.zero_le _) hstart.whole]
    rfl

theorem not_withinLimits_iff {config : SchedulerLimits} {req : InferRequest} :
    checkRequestExceedLength config req = true ↔ ¬ WithinLimits config req.toRequestPayload := by
  simp only [checkRequestExceedLength, WithinLimits, Bool.or_eq_true, decide_eq_true_eq, not_and_or,
    not_le]

theorem addInferRequest_cases [DraftTokensApi] (order : StdSort (higherScore (F := F)))
    (config : SchedulerLimits) (waitingReqs : List InferRequest)
    (group : InferRequestGroup) (client : ClientRequest F) :
    (∃ status, status ≠ .success ∧
      ((status = .inputLengthExceeded ∧ ¬ WithinLimits config group.first.toRequestPayload) ∨
        (status = .exceedCapacity ∧
          config.maxWaitingQueueLen < waitingReqs.length + group.reqs.length)) ∧
      addInferRequest order config waitingReqs group client =
        (status, waitingReqs, refuse order status client)) ∨
    (WithinLimits config group.first.toRequestPayload ∧
      waitingReqs.length + group.reqs.length ≤ config.maxWaitingQueueLen ∧
      addInferRequest order config waitingReqs group client =
        (.success, waitingReqs ++ group.reqs.map queueRequest, client)) := by
  by_cases hlong : checkRequestExceedLength config group.first = true
  · refine Or.inl ⟨.inputLengthExceeded, nofun, Or.inl ⟨rfl, not_withinLimits_iff.mp hlong⟩, ?_⟩
    rw [addInferRequest, if_pos hlong]
  · have hwithin : WithinLimits config group.first.toRequestPayload := by
      rwa [not_withinLimits_iff, not_not] at hlong
    by_cases hfull : config.maxWaitingQueueLen < waitingReqs.length + group.reqs.length
    · refine Or.inl ⟨.exceedCapacity, nofun, Or.inr ⟨rfl, hfull⟩, ?_⟩
      rw [addInferRequest, if_neg hlong, enqueueWaitingBufferQueue, if_pos hfull]
    · refine Or.inr ⟨hwithin, Nat.le_of_not_lt hfull, ?_⟩
      rw [addInferRequest, if_neg hlong, enqueueWaitingBufferQueue, if_neg hfull]

/-- What is queued are the group's requests, and all are within the limits when the first is. -/
theorem queued_payloads [DraftTokensApi] (group : InferRequestGroup) :
    (group.reqs.map queueRequest).map InferRequest.toRequestPayload =
      group.reqs.map InferRequest.toRequestPayload := by
  rw [List.map_map]
  rfl

theorem group_withinLimits {config : SchedulerLimits} {group : InferRequestGroup}
    (hfirst : WithinLimits config group.first.toRequestPayload) :
    ∀ payload ∈ group.reqs.map InferRequest.toRequestPayload, WithinLimits config payload := by
  refine List.forall_mem_map.mpr (List.forall_mem_cons.mpr ⟨hfirst, fun req hreq => ?_⟩)
  rw [WithinLimits, group.sameInput req hreq, group.sameCustomLength req hreq]
  exact hfirst

theorem addInferRequest_answers [DraftTokensApi] (config : SchedulerLimits)
    (waitingReqs : List InferRequest) (group : InferRequestGroup)
    (hstart : ReqGroup.Start client.group) :
    Answered config waitingReqs group client
      (addInferRequest order config waitingReqs group client) := by
  rcases addInferRequest_cases order config waitingReqs group client with
    ⟨status, hfailed, hreason, hadd⟩ | ⟨hfirst, hroom, hadd⟩
  · rw [hadd]
    obtain ⟨hfinished, hwoken, hgroups⟩ := refuse_tells order status hstart
    exact .refused status _ hfailed rfl hfinished hwoken hgroups hreason
  · rw [hadd]
    refine .queued _ (queued_payloads group) ?_ ?_
    · rw [queued_payloads]
      exact group_withinLimits hfirst
    · rwa [List.length_append, List.length_map]

end Answer

/-- The scheduler between two steps, with two records the program does not keep: what was accepted
so far, and what the strategies took out of the queues. -/
structure FrontState extends AdpBalanceState where
  mockQueues : List (List (List InferRequest)) := []
  accepted : List RequestPayload := []
  taken : List RequestPayload := []

def DpRank.queued (rank : DpRank) : List InferRequest :=
  rank.dpWaitingReqs ++ rank.batchStates.flatMap BatchState.waitingQueue

def AdpBalanceState.queued (s : AdpBalanceState) : List InferRequest :=
  s.waitingReqs ++ s.ranks.flatMap DpRank.queued

/-- Every request that is somewhere. -/
def FrontState.placed (s : FrontState) : List RequestPayload :=
  (s.queued ++ s.mockQueues.flatten.flatten).map InferRequest.toRequestPayload ++ s.taken

def DpRank.isIdle (multiBatchId : Nat) (rank : DpRank) : Bool :=
  !rank.hasGenRequests multiBatchId && (rank.waitingQueue multiBatchId).isEmpty

/-- The first mock request of the batch goes to its waiting queue. -/
def addMockReq (multiBatchId : Nat) (rank : DpRank) (mockQueues : List (List InferRequest)) :
    DpRank × List (List InferRequest) :=
  match mockQueues[multiBatchId]? with
  | some (mockReq :: rest) =>
    ({ rank with
        batchStates := rank.batchStates.modify multiBatchId fun state =>
          { state with waitingQueue := state.waitingQueue ++ [mockReq] } },
      mockQueues.set multiBatchId rest)
  | _ => (rank, mockQueues)

def addMockReqs (multiBatchId : Nat) (s : FrontState) : FrontState :=
  if s.ranks.all (DpRank.isIdle multiBatchId) then
    let added := List.zipWith (addMockReq multiBatchId) s.ranks s.mockQueues
    { s with ranks := added.map Prod.fst, mockQueues := added.map Prod.snd }
  else s

section Balance

variable (W : Type)

/-- The algorithm that spreads requests over ranks of given loads. Which rank gets which is open. -/
structure BalanceReqsAlgo where
  balanceReqs : List W → List (Nat × InferRequest) → List (List InferRequest)
  length_eq : ∀ workload reqs, (balanceReqs workload reqs).length = workload.length
  perm : ∀ workload reqs, workload ≠ [] →
    (balanceReqs workload reqs).flatten.Perm (reqs.map Prod.snd)

variable {W}

/-- The load of a rank from its requests that run and those that wait, in all its batches. -/
def rankWorkload (weigh : Nat → Nat → W) (rank : DpRank) : W :=
  weigh
    (rank.batchStates.map fun state =>
      state.scheduleOutput.runningReqs.length + state.decodingQueue.length).sum
    (rank.batchStates.map fun state => state.waitingQueue.length).sum

def setDpWaitingReqs (rank : DpRank) (reqs : List InferRequest) : DpRank :=
  { rank with dpWaitingReqs := reqs }

def balanceWaitingReqs (algo : BalanceReqsAlgo W) (weigh : Nat → Nat → W) (s : AdpBalanceState) :
    AdpBalanceState :=
  match s.waitingReqs, s.ranks with
  | [], _ => s
  | [req], [rank] =>
    { s with
      waitingReqs := []
      ranks := [setDpWaitingReqs rank (rank.dpWaitingReqs ++ [req])] }
  | waitingReqs, ranks =>
    let requests := (waitingReqs ++ ranks.flatMap DpRank.dpWaitingReqs).map fun req =>
      (prefillTokensNum req, req)
    let workload := ranks.map (rankWorkload weigh)
    { s with
      waitingReqs := []
      ranks := List.zipWith setDpWaitingReqs ranks (algo.balanceReqs workload requests) }

end Balance

/-- What waits in the other batches of a rank. -/
def otherQueues (multiBatchId : Nat) (batchStates : List BatchState) : List InferRequest :=
  (batchStates.eraseIdx multiBatchId).flatMap BatchState.waitingQueue

theorem queued_split (multiBatchId : Nat) (rank : DpRank) :
    rank.queued.Perm ((rank.dpWaitingReqs ++ rank.waitingQueue multiBatchId) ++
      otherQueues multiBatchId rank.batchStates) := by
  rw [DpRank.queued, List.append_assoc]
  refine List.Perm.append_left _ ?_
  rw [otherQueues]
  by_cases hlt : multiBatchId < rank.batchStates.length
  · have hqueue : rank.waitingQueue multiBatchId = rank.batchStates[multiBatchId].waitingQueue := by
      rw [DpRank.waitingQueue, List.getElem?_eq_getElem hlt]
    rw [hqueue, ← List.flatMap_cons]
    exact (List.getElem_cons_eraseIdx_perm hlt).symm.flatMap_right _
  · have hqueue : rank.waitingQueue multiBatchId = [] := by
      rw [DpRank.waitingQueue, List.getElem?_eq_none (Nat.not_lt.mp hlt)]
    rw [hqueue, List.nil_append, List.eraseIdx_of_length_le (Nat.not_lt.mp hlt)]

theorem ranks_split (multiBatchId : Nat) (ranks : List DpRank) :
    (ranks.flatMap DpRank.queued).Perm
      (ranks.flatMap (fun rank => rank.dpWaitingReqs ++ rank.waitingQueue multiBatchId) ++
        (ranks.map DpRank.batchStates).flatMap (otherQueues multiBatchId)) := by
  rw [List.flatMap_map]
  refine (List.Perm.flatMap_left ranks fun rank _ => queued_split multiBatchId rank).trans ?_
  exact (List.flatMap_append_perm ranks _ _).symm

theorem queued_perm (multiBatchId : Nat) (s : AdpBalanceState) :
    s.queued.Perm (s.requests multiBatchId ++
      (s.ranks.map DpRank.batchStates).flatMap (otherQueues multiBatchId)) := by
  rw [AdpBalanceState.queued, AdpBalanceState.requests, List.append_assoc]
  exact (ranks_split multiBatchId s.ranks).append_left _

theorem cleared_others (multiBatchId : Nat) (rank : DpRank) :
    otherQueues multiBatchId (rank.cleared multiBatchId).batchStates =
      otherQueues multiBatchId rank.batchStates := by
  dsimp only [otherQueues, DpRank.cleared]
  rw [List.eraseIdx_modify_of_eq]

section Balanced

variable {W : Type} [NatCast W] [Add W] [LT W] [DecidableLT W] {sort : DescendingSort}
  {maxSteps : Nat} {s : AdpBalanceState} {call : BalanceCall}

theorem balanceADPRequests_others (hsome : call.ranks ≠ []) :
    ((balanceADPRequests W sort maxSteps s call).ranks.map DpRank.batchStates).flatMap
        (otherQueues call.multiBatchId) =
      (call.ranks.map DpRank.batchStates).flatMap (otherQueues call.multiBatchId) := by
  rw [balanceADPRequests_batchStates hsome, BalanceCall.clearedRanks, List.map_map,
    List.flatMap_map, List.flatMap_map]
  exact List.flatMap_congr fun rank _ => cleared_others call.multiBatchId rank

theorem balanceADPRequests_queued (hsome : call.ranks ≠ []) (hranks : call.ranks = s.ranks)
    (harrivals : call.arrivals = []) :
    (balanceADPRequests W sort maxSteps s call).queued.Perm
      (call.arrivalsMeanwhile ++ s.queued) := by
  have hcall : BalancesCall sort maxSteps s call (balanceADPRequests W sort maxSteps s call) :=
    balanceADPRequests_balances hsome
  have hbatch := hcall.conserved
  have hfound : call.found s = s := by
    rw [BalanceCall.found, harrivals, List.append_nil, hranks]
  rw [hfound] at hbatch
  refine (queued_perm call.multiBatchId _).trans ?_
  rw [balanceADPRequests_others hsome, hranks]
  refine (hbatch.append_right _).trans ?_
  rw [List.append_assoc]
  exact (queued_perm call.multiBatchId s).symm.append_left _

theorem balanceADPRequests_waiting (hranks : call.ranks = s.ranks)
    (harrivals : call.arrivals = []) :
    (balanceADPRequests W sort maxSteps s call).waitingReqs.length ≤
      call.arrivalsMeanwhile.length + (s.ranks.length - 1) := by
  have hfound : call.found s = s := by
    rw [BalanceCall.found, harrivals, List.append_nil, hranks]
  rw [balanceADPRequests, hfound]
  split
  · exact Nat.le_add_right _ _
  · next hheld =>
    rw [Bool.not_eq_true, shouldProceedPrefill, Bool.or_eq_false_iff, Bool.or_eq_false_iff] at hheld
    have hfew := of_decide_eq_false hheld.1.1
    simp only [List.length_append, List.length_map]
    omega

end Balanced

theorem set_flatten_perm {α : Type*} {queues : List (List α)} {i : Nat} {value : α}
    {rest : List α} (h : queues[i]? = some (value :: rest)) :
    queues.flatten.Perm (value :: (queues.set i rest).flatten) := by
  induction queues generalizing i with
  | nil => cases h
  | cons queue queues ih =>
    cases i with
    | zero =>
      obtain rfl := Option.some.inj h
      exact List.Perm.refl _
    | succ i =>
      rw [List.set_cons_succ, List.flatten_cons, List.flatten_cons]
      exact ((ih h).append_left queue).trans List.perm_middle

theorem addMockReq_perm {multiBatchId : Nat} {rank : DpRank} (mockQueues : List (List InferRequest))
    (hbatch : multiBatchId < rank.batchStates.length) :
    ((addMockReq multiBatchId rank mockQueues).1.queued ++
        (addMockReq multiBatchId rank mockQueues).2.flatten).Perm
      (rank.queued ++ mockQueues.flatten) := by
  rw [addMockReq]
  split
  · next mockReq rest hqueue =>
    have hpushed : ((rank.batchStates.modify multiBatchId fun state =>
          { state with waitingQueue := state.waitingQueue ++ [mockReq] }).flatMap
        BatchState.waitingQueue).Perm (rank.batchStates.flatMap BatchState.waitingQueue ++
          [mockReq]) := modify_flatMap_perm (fun _ => rfl) hbatch
    rw [DpRank.queued, DpRank.queued, List.append_assoc, List.append_assoc]
    refine List.Perm.append_left _ ((hpushed.append_right _).trans ?_)
    rw [List.append_assoc]
    exact (set_flatten_perm hqueue).symm.append_left _
  · exact List.Perm.refl _

theorem addMockReqs_perm {multiBatchId : Nat} {ranks : List DpRank}
    {mockQueues : List (List (List InferRequest))} (hlength : ranks.length = mockQueues.length)
    (hbatch : ∀ rank ∈ ranks, multiBatchId < rank.batchStates.length) :
    (((List.zipWith (addMockReq multiBatchId) ranks mockQueues).map Prod.fst).flatMap
          DpRank.queued ++
        ((List.zipWith (addMockReq multiBatchId) ranks mockQueues).map
          Prod.snd).flatten.flatten).Perm
      (ranks.flatMap DpRank.queued ++ mockQueues.flatten.flatten) := by
  induction ranks generalizing mockQueues with
  | nil =>
    cases mockQueues with
    | nil => exact List.Perm.refl _
    | cons => cases hlength
  | cons rank ranks ih =>
    cases mockQueues with
    | nil => cases hlength
    | cons queues mockQueues =>
      obtain ⟨hfirst, hrest⟩ := List.forall_mem_cons.mp hbatch
      have hone := addMockReq_perm queues hfirst
      have hothers := ih (Nat.succ.inj hlength) hrest
      have hswap : ∀ a b c d : List InferRequest,
          ((a ++ b) ++ (c ++ d)).Perm ((a ++ c) ++ (b ++ d)) := by
        intro a b c d
        rw [List.append_assoc, List.append_assoc, ← List.append_assoc b, ← List.append_assoc c]
        exact (List.perm_append_comm.append_right d).append_left a
      simp only [List.zipWith_cons_cons, List.map_cons, List.flatMap_cons, List.flatten_cons,
        List.flatten_append]
      exact (hswap _ _ _ _).trans ((hone.append hothers).trans (hswap _ _ _ _))

section Spread

variable {W : Type} (algo : BalanceReqsAlgo W) (weigh : Nat → Nat → W)

theorem setDpWaitingReqs_perm {ranks : List DpRank} {handed : List (List InferRequest)}
    (hlength : ranks.length = handed.length) :
    ((List.zipWith setDpWaitingReqs ranks handed).flatMap DpRank.queued).Perm
      (handed.flatten ++
        ranks.flatMap fun rank => rank.batchStates.flatMap BatchState.waitingQueue) := by
  induction ranks generalizing handed with
  | nil =>
    cases handed with
    | nil => exact List.Perm.refl _
    | cons => cases hlength
  | cons rank ranks ih =>
    cases handed with
    | nil => cases hlength
    | cons reqs handed =>
      rw [List.zipWith_cons_cons, List.flatMap_cons, List.flatten_cons, List.flatMap_cons,
        DpRank.queued, setDpWaitingReqs, List.append_assoc, List.append_assoc]
      refine List.Perm.append_left _ (((ih (Nat.succ.inj hlength)).append_left _).trans ?_)
      rw [← List.append_assoc, ← List.append_assoc]
      exact List.perm_append_comm.append_right _

theorem balanceWaitingReqs_queued (s : AdpBalanceState) (hsome : s.ranks ≠ []) :
    (balanceWaitingReqs algo weigh s).queued.Perm s.queued ∧
      (balanceWaitingReqs algo weigh s).ranks.length = s.ranks.length ∧
      (balanceWaitingReqs algo weigh s).waitingReqs = [] := by
  rw [balanceWaitingReqs]
  split
  · next hwaiting => exact ⟨List.Perm.refl _, rfl, hwaiting⟩
  · next req rank hwaiting hranks =>
    refine ⟨?_, by rw [hranks]; rfl, rfl⟩
    simp only [AdpBalanceState.queued, hwaiting, hranks, DpRank.queued, setDpWaitingReqs,
      List.flatMap_cons, List.flatMap_nil, List.append_nil, List.nil_append]
    rw [← List.append_assoc]
    exact List.perm_append_comm.append_right _
  · have hworkload : s.ranks.map (rankWorkload weigh) ≠ [] := List.map_eq_nil_iff.not.mpr hsome
    dsimp only
    generalize hrequests : ((s.waitingReqs ++ s.ranks.flatMap DpRank.dpWaitingReqs).map fun req =>
      (prefillTokensNum req, req)) = requests
    have hlength : s.ranks.length =
        (algo.balanceReqs (s.ranks.map (rankWorkload weigh)) requests).length := by
      rw [algo.length_eq, List.length_map]
    have hhanded : (algo.balanceReqs (s.ranks.map (rankWorkload weigh)) requests).flatten.Perm
        (s.waitingReqs ++ s.ranks.flatMap DpRank.dpWaitingReqs) := by
      refine (algo.perm _ requests hworkload).trans (List.Perm.of_eq ?_)
      rw [← hrequests, List.map_map]
      exact List.map_id _
    refine ⟨?_, by rw [List.length_zipWith, ← hlength, Nat.min_self], rfl⟩
    refine (setDpWaitingReqs_perm hlength).trans ((hhanded.append_right _).trans ?_)
    rw [List.append_assoc]
    exact (List.flatMap_append_perm s.ranks _ _).append_left _

end Spread

/-- What happens to the scheduler: a client adds a group, a call of `Schedule` moves the waiting
requests while further clients add theirs, or the strategies take requests and put some back. -/
inductive FrontOp (F : Type) where
  | add (group : InferRequestGroup) (client : ClientRequest F)
  | schedule (multiBatchId maxSteps : Nat)
      (meanwhile : List (InferRequestGroup × ClientRequest F))
      (currentTime startTime maxTimeMs : Int)
  | strategies (ranks : List DpRank) (mockQueues : List (List (List InferRequest)))
      (taken : List RequestPayload)

section Runs

variable {F : Type} [LinearOrder F] [DraftTokensApi] (order : StdSort (higherScore (F := F)))
  (config : SchedulerLimits)

/-- Clients add their groups one after the other. What is accepted is recorded. -/
def addRequests : List (InferRequestGroup × ClientRequest F) →
    List InferRequest × List RequestPayload → List InferRequest × List RequestPayload
  | [], queue => queue
  | (group, client) :: adds, (waitingReqs, accepted) =>
    addRequests adds
      (match addInferRequest order config waitingReqs group client with
      | (.success, waitingReqs, _) =>
        (waitingReqs, accepted ++ group.reqs.map InferRequest.toRequestPayload)
      | (_, waitingReqs, _) => (waitingReqs, accepted))

variable {W : Type} [NatCast W] [Add W] [LT W] [DecidableLT W] (sort : DescendingSort)
  (algo : BalanceReqsAlgo W) (weigh : Nat → Nat → W)

def schedule (multiBatchId maxSteps : Nat) (meanwhile : List (InferRequestGroup × ClientRequest F))
    (currentTime startTime maxTimeMs : Int) (s : FrontState) : FrontState :=
  let s := if config.alwaysReturnLaunchableReq then addMockReqs multiBatchId s else s
  if config.enableBalance && 1 < s.ranks.length then
    -- the queue was emptied under the lock, what is put back comes behind those added since
    let (arrivalsMeanwhile, accepted) := addRequests order config meanwhile ([], s.accepted)
    let call : BalanceCall :=
      { multiBatchId, ranks := s.ranks, arrivalsMeanwhile, currentTime, startTime, maxTimeMs }
    { s with
      toAdpBalanceState := balanceADPRequests W sort maxSteps s.toAdpBalanceState call
      accepted := accepted }
  else
    let balanced := balanceWaitingReqs algo weigh s.toAdpBalanceState
    let (waitingReqs, accepted) :=
      addRequests order config meanwhile (balanced.waitingReqs, s.accepted)
    { s with
      toAdpBalanceState := { balanced with waitingReqs := waitingReqs }
      accepted := accepted }

def frontStep (s : FrontState) : FrontOp F → Except String FrontState
  | .add group client =>
    let (waitingReqs, accepted) :=
      addRequests order config [(group, client)] (s.waitingReqs, s.accepted)
    .ok { s with waitingReqs := waitingReqs, accepted := accepted }
  | .schedule multiBatchId maxSteps meanwhile currentTime startTime maxTimeMs =>
    if s.ranks.all fun rank => multiBatchId < rank.batchStates.length then
      .ok (schedule order config sort algo weigh multiBatchId maxSteps meanwhile currentTime
        startTime maxTimeMs s)
    else .error "no such batch"
  | .strategies ranks mockQueues taken =>
    if ranks.length = s.ranks.length ∧ mockQueues.length = s.mockQueues.length then
      .ok { s with ranks := ranks, mockQueues := mockQueues, taken := taken }
    else .error "ranks come and go"

/-- The strategies neither lose a request nor make one up. -/
def FrontOp.Conserves (s : FrontState) : FrontOp F → Prop
  | .strategies ranks mockQueues taken =>
    ({ s with ranks := ranks, mockQueues := mockQueues, taken := taken } : FrontState).placed.Perm
      s.placed
  | _ => True

instance (s : FrontState) (op : FrontOp F) : Decidable (FrontOp.Conserves s op) :=
  match op with
  | .add _ _ | .schedule _ _ _ _ _ _ => isTrue trivial
  | .strategies ranks mockQueues taken => inferInstanceAs (Decidable
      (({ s with ranks := ranks, mockQueues := mockQueues, taken := taken } :
        FrontState).placed.Perm s.placed))

/-- The start, before any client. -/
structure FrontStart (s : FrontState) : Prop where
  someRank : s.ranks ≠ []
  mocks : s.mockQueues.length = s.ranks.length
  noneWaits : s.waitingReqs = []
  noneAccepted : s.accepted = []

/-- How far the waiting queue may grow: a balancing call puts back less than one request for every
rank. -/
def waitingLimit (config : SchedulerLimits) (dpNum : Nat) : Nat :=
  config.maxWaitingQueueLen + if config.enableBalance then dpNum - 1 else 0

/-- Every accepted request is in one place, the waiting queue is bounded, and only requests within
the limits were accepted. -/
structure FrontInv (config : SchedulerLimits) (start s : FrontState) : Prop where
  ranks : s.ranks.length = start.ranks.length
  mocks : s.mockQueues.length = s.ranks.length
  conserved : s.placed.Perm (start.placed ++ s.accepted)
  bounded : s.waitingReqs.length ≤ waitingLimit config start.ranks.length
  within : ∀ payload ∈ s.accepted, WithinLimits config payload

theorem addRequests_spec (adds : List (InferRequestGroup × ClientRequest F))
    (waitingReqs : List InferRequest) (accepted : List RequestPayload) :
    ∃ queue : List InferRequest,
      addRequests order config adds (waitingReqs, accepted) =
        (waitingReqs ++ queue, accepted ++ queue.map InferRequest.toRequestPayload) ∧
      (∀ payload ∈ queue.map InferRequest.toRequestPayload, WithinLimits config payload) ∧
      (waitingReqs ++ queue).length ≤ max waitingReqs.length config.maxWaitingQueueLen := by
  induction adds generalizing waitingReqs accepted with
  | nil =>
    refine ⟨[], ?_, by simp, by rw [List.append_nil]; exact Nat.le_max_left ..⟩
    rw [addRequests, List.append_nil, List.map_nil, List.append_nil]
  | cons add adds ih =>
    obtain ⟨group, client⟩ := add
    rcases addInferRequest_cases order config waitingReqs group client with
      ⟨status, hfailed, -, hadd⟩ | ⟨hfirst, hroom, hadd⟩
    · obtain ⟨queue, hqueue, hwithin, hlength⟩ := ih waitingReqs accepted
      refine ⟨queue, ?_, hwithin, hlength⟩
      rw [addRequests, hadd, ← hqueue]
      cases status with
      | success => exact absurd rfl hfailed
      | inputLengthExceeded => rfl
      | exceedCapacity => rfl
    · obtain ⟨queue, hqueue, hwithin, hlength⟩ := ih (waitingReqs ++ group.reqs.map queueRequest)
        (accepted ++ group.reqs.map InferRequest.toRequestPayload)
      refine ⟨group.reqs.map queueRequest ++ queue, ?_, ?_, ?_⟩
      · rw [addRequests, hadd, List.map_append, queued_payloads, ← List.append_assoc,
          ← List.append_assoc]
        exact hqueue
      · rw [List.map_append, queued_payloads]
        exact List.forall_mem_append.mpr ⟨group_withinLimits hfirst, hwithin⟩
      · rw [← List.append_assoc]
        refine hlength.trans ?_
        rw [List.length_append, List.length_map]
        omega

variable {order config sort algo weigh}

omit [LinearOrder F] [DraftTokensApi] in
/-- Requests that join the queues and the record together keep the balance. -/
theorem FrontInv.of_joined {start s t : FrontState} (h : FrontInv config start s)
    (queue : List InferRequest) (hranks : t.ranks.length = s.ranks.length)
    (hmocks : t.mockQueues.length = s.mockQueues.length)
    (hplaced : (t.queued ++ t.mockQueues.flatten.flatten).Perm
      (queue ++ (s.queued ++ s.mockQueues.flatten.flatten)))
    (htaken : t.taken = s.taken)
    (haccepted : t.accepted = s.accepted ++ queue.map InferRequest.toRequestPayload)
    (hwithin : ∀ payload ∈ queue.map InferRequest.toRequestPayload, WithinLimits config payload)
    (hbounded : t.waitingReqs.length ≤ waitingLimit config start.ranks.length) :
    FrontInv config start t where
  ranks := hranks.trans h.ranks
  mocks := by rw [hmocks, h.mocks, hranks]
  conserved := by
    have hjoined : t.placed.Perm (queue.map InferRequest.toRequestPayload ++ s.placed) := by
      rw [FrontState.placed, FrontState.placed, htaken, ← List.append_assoc, ← List.map_append]
      exact (hplaced.map _).append_right _
    refine hjoined.trans ?_
    rw [haccepted, ← List.append_assoc]
    exact (h.conserved.append_left _).trans List.perm_append_comm
  bounded := hbounded
  within := by
    rw [haccepted]
    exact List.forall_mem_append.mpr ⟨h.within, hwithin⟩

omit [DraftTokensApi] in
theorem addMockReqs_inv {start s : FrontState} {multiBatchId : Nat} (h : FrontInv config start s)
    (hbatch : ∀ rank ∈ s.ranks, multiBatchId < rank.batchStates.length) :
    FrontInv config start (addMockReqs multiBatchId s) := by
  rw [addMockReqs]
  split
  · refine h.of_joined [] ?_ ?_ ?_ rfl (by simp) (by simp) h.bounded
    · simp [h.mocks]
    · simp [h.mocks]
    · rw [List.nil_append, AdpBalanceState.queued, AdpBalanceState.queued, List.append_assoc,
        List.append_assoc]
      exact (addMockReqs_perm h.mocks.symm hbatch).append_left _
  · exact h

theorem schedule_inv {start s : FrontState} {multiBatchId maxSteps : Nat}
    {meanwhile : List (InferRequestGroup × ClientRequest F)} {currentTime startTime maxTimeMs : Int}
    (h : FrontInv config start s) (hsome : start.ranks ≠ [])
    (hbatch : ∀ rank ∈ s.ranks, multiBatchId < rank.batchStates.length) :
    FrontInv config start (schedule order config sort algo weigh multiBatchId maxSteps meanwhile
      currentTime startTime maxTimeMs s) := by
  rw [schedule]
  have hmocks : FrontInv config start
      (if config.alwaysReturnLaunchableReq then addMockReqs multiBatchId s else s) := by
    split
    · exact addMockReqs_inv h hbatch
    · exact h
  generalize (if config.alwaysReturnLaunchableReq then addMockReqs multiBatchId s else s) = found
    at hmocks
  have hranks : found.ranks ≠ [] := by
    rw [← List.length_pos_iff, hmocks.ranks]
    exact List.length_pos_iff.mpr hsome
  have hassoc : ∀ {queued queue : List InferRequest}, queued.Perm (queue ++ found.queued) →
      (queued ++ found.mockQueues.flatten.flatten).Perm
        (queue ++ (found.queued ++ found.mockQueues.flatten.flatten)) := by
    intro queued queue hperm
    rw [← List.append_assoc]
    exact hperm.append_right _
  dsimp only
  split
  · next hbalance =>
    obtain ⟨queue, hqueue, hwithin, hlength⟩ :=
      addRequests_spec order config meanwhile [] found.accepted
    rw [hqueue]
    dsimp only
    rw [List.nil_append]
    refine hmocks.of_joined queue (balanceADPRequests_balances hranks).rankNum rfl
      (hassoc (balanceADPRequests_queued hranks rfl rfl)) rfl rfl hwithin ?_
    refine (balanceADPRequests_waiting rfl rfl).trans ?_
    have henabled : config.enableBalance = true := (Bool.and_eq_true_iff.mp hbalance).1
    rw [waitingLimit, if_pos henabled, ← hmocks.ranks]
    rw [List.nil_append, List.length_nil] at hlength
    dsimp only
    omega
  · obtain ⟨hqueued, hcount, hempty⟩ :=
      balanceWaitingReqs_queued algo weigh found.toAdpBalanceState hranks
    obtain ⟨queue, hqueue, hwithin, hlength⟩ := addRequests_spec order config
      meanwhile (balanceWaitingReqs algo weigh found.toAdpBalanceState).waitingReqs found.accepted
    rw [hqueue]
    dsimp only
    rw [hempty, List.nil_append] at hlength ⊢
    refine hmocks.of_joined queue hcount rfl (hassoc ?_) rfl rfl hwithin ?_
    · rw [AdpBalanceState.queued, hempty, List.nil_append] at hqueued
      rw [AdpBalanceState.queued]
      exact hqueued.append_left _
    · rw [List.length_nil] at hlength
      have : config.maxWaitingQueueLen ≤ waitingLimit config start.ranks.length :=
        Nat.le_add_right _ _
      dsimp only
      omega

theorem frontStep_inv {start s t : FrontState} {op : FrontOp F} (hsome : start.ranks ≠ [])
    (h : FrontInv config start s) (hconserves : op.Conserves s)
    (hstep : frontStep order config sort algo weigh s op = .ok t) : FrontInv config start t := by
  cases op with
  | add group client =>
    obtain ⟨queue, hqueue, hwithin, hlength⟩ :=
      addRequests_spec order config [(group, client)] s.waitingReqs s.accepted
    rw [frontStep, hqueue] at hstep
    obtain rfl := Except.ok.inj hstep
    refine h.of_joined queue rfl rfl ?_ rfl rfl hwithin ?_
    · simp only [AdpBalanceState.queued, List.append_assoc]
      exact List.perm_append_comm_assoc ..
    · exact hlength.trans (Nat.max_le.mpr ⟨h.bounded, Nat.le_add_right _ _⟩)
  | schedule multiBatchId maxSteps meanwhile currentTime startTime maxTimeMs =>
    simp only [frontStep] at hstep
    split at hstep
    · next hbatch =>
      obtain rfl := Except.ok.inj hstep
      refine schedule_inv h hsome fun rank hrank => ?_
      exact of_decide_eq_true (List.all_eq_true.mp hbatch rank hrank)
    · cases hstep
  | strategies ranks mockQueues taken =>
    simp only [frontStep] at hstep
    split at hstep
    · next hsame =>
      obtain rfl := Except.ok.inj hstep
      exact ⟨hsame.1.trans h.ranks, by rw [hsame.2, h.mocks, hsame.1], hconserves.trans h.conserved,
        h.bounded, h.within⟩
    · cases hstep

/-- What holds after a run of the scheduler from its start. -/
structure FrontRun (config : SchedulerLimits) (start s : FrontState) : Prop
    extends FrontInv config start s where
  oncePlaced : ((start.placed ++ s.accepted).map RequestPayload.reqId).Nodup →
    (s.placed.map RequestPayload.reqId).Nodup

/-- Over any run, with clients at any moment and strategies that lose nothing: every accepted
request is in exactly one place, those accepted are within the limits, and the waiting queue stays
within its limit but for less than one request for every rank. -/
theorem front_conserves {start s : FrontState} {ops : List (FrontOp F)} (hstart : FrontStart start)
    (hconserves : EachStep (frontStep order config sort algo weigh)
      (fun s op => FrontOp.Conserves s op) start ops)
    (hrun : exec (frontStep order config sort algo weigh) start ops = .ok s) :
    FrontRun config start s := by
  have hinv : FrontInv config start start := by
    refine ⟨rfl, hstart.mocks, ?_, ?_, ?_⟩
    · rw [hstart.noneAccepted, List.append_nil]
    · rw [hstart.noneWaits]
      exact Nat.zero_le _
    · rw [hstart.noneAccepted]
      exact fun payload hmem => absurd hmem List.not_mem_nil
  have hend : FrontInv config start s := exec_invariant_of
    (fun _ _ _ h hC hstep => frontStep_inv hstart.someRank h hC hstep) hinv hconserves hrun
  exact ⟨hend, fun hnodup => (hend.conserved.map _).nodup_iff.mpr hnodup⟩

end Runs

/-- Everything to the first rank. -/
def firstRankAlgo : BalanceReqsAlgo Nat where
  balanceReqs workload reqs :=
    match workload with
    | [] => []
    | _ :: rest => reqs.map Prod.snd :: rest.map fun _ => []
  length_eq workload reqs := by cases workload <;> simp
  perm workload reqs hsome := by
    cases workload with
    | nil => exact absurd rfl hsome
    | cons load rest => simp

def frontStartSample : FrontState where
  ranks := [sampleDpRank, sampleDpRank, sampleDpRank]
  mockQueues := [[[]], [[]], [[]]]

def frontConfigSample : SchedulerLimits where
  maxWaitingQueueLen := 2
  maxTokenLen := 8
  maxBatchSize := 4
  enableBalance := true

/-- Two outputs of one request. -/
def groupOfSample (reqId : Int) : InferRequestGroup where
  first := { reqId, inputTokens := [21, 22] }
  others := [{ reqId := reqId + 1, inputTokens := [21, 22] }]
  sameInput _ hmem := by rw [List.mem_singleton.mp hmem]
  sameCustomLength _ hmem := by rw [List.mem_singleton.mp hmem]

def clientSample : ClientRequest Int where
  group := {
    finisheds := [false, false]
    outputGroup := [{ score := 0 }, { score := 0 }]
    reqGroups := [[0, 1], [0, 1]] }

section Sample

variable [DraftTokensApi]

def queuedSample (reqId : Int) : InferRequest := queueRequest { reqId, inputTokens := [21, 22] }

/-- One client adds two requests, and while a call holds them back a second client adds two more.
The next call hands all of them out, and the strategies take what the last rank got. -/
def frontOpsSample : List (FrontOp Int) :=
  [.add (groupOfSample 1) clientSample,
    .schedule 0 5 [(groupOfSample 3, clientSample)] 0 0 0,
    .schedule 0 5 [] 0 0 0,
    .strategies
      [{ sampleDpRank with dpWaitingReqs := [queuedSample 3, queuedSample 2] },
        { sampleDpRank with dpWaitingReqs := [queuedSample 4] }, sampleDpRank]
      [[[]], [[]], [[]]] [(queuedSample 1).toRequestPayload]]

end Sample

theorem front_conserves_sample :
    letI := concatDraftTokens
    ((exec (frontStep ReqGroup.sortBeams frontConfigSample insertionOrder firstRankAlgo
        fun running waiting => running + waiting) frontStartSample
          (frontOpsSample.take 2)).toOption.map fun s => s.waitingReqs.length) = some 4 ∧
    ∃ s, exec (frontStep ReqGroup.sortBeams frontConfigSample insertionOrder firstRankAlgo
        fun running waiting => running + waiting) frontStartSample frontOpsSample = .ok s ∧
      FrontRun frontConfigSample frontStartSample s ∧ s.taken.length = 1 := by
  let _ := concatDraftTokens
  refine ⟨by decide +kernel, ?_⟩
  have htaken : ((exec (frontStep ReqGroup.sortBeams frontConfigSample insertionOrder firstRankAlgo
      fun running waiting => running + waiting) frontStartSample frontOpsSample).toOption.map
        fun s => s.taken.length) = some 1 := by decide +kernel
  cases hrun : exec (frontStep ReqGroup.sortBeams frontConfigSample insertionOrder firstRankAlgo
      fun running waiting => running + waiting) frontStartSample frontOpsSample with
  | error message =>
    rw [hrun] at htaken
    cases htaken
  | ok s =>
    rw [hrun] at htaken
    exact ⟨s, rfl, front_conserves ⟨by decide, rfl, rfl, rfl⟩
      (eachStep_of_check (by decide +kernel)) hrun, Option.some.inj htaken⟩

end KsanaBuildAhead.Engine
