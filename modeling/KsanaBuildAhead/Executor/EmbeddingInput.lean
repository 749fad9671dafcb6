import KsanaBuildAhead.Engine.ForwardedTokens
import KsanaBuildAhead.Executor.MtpAgreement
import KsanaBuildAhead.Executor.ReplaceLastToken
import KsanaBuildAhead.Runtime.FastPathController
import KsanaBuildAhead.Runtime.WireRoundTrip

/-!
# Placeholders at the embedding

On the device ring path the kernel replaces one position of a request, its last. A block is
as long as its plan says, and only the start-up gate stands between a planned draft and the
embedding.
-/
namespace KsanaBuildAhead.Executor

open KsanaBuildAhead.Runtime KsanaBuildAhead.Engine KsanaBuildAhead.Lib.Execution
open KsanaBuildAhead.Lib.Segments

/-- The requests `Forward` works on, in their order. -/
def forwardRequests (reqs : List ExecutorInferRequest) : List ForwardRequest :=
  (buildForwardRequests (reorderInferRequests reqs)).2

/-- The flat input of a step as the embedding reads it. Behind the pairs of the step the buffer
still holds `older` ones. -/
def embeddingInputIds {sampler : Sampler} (controller : FastPathController) (mtpStepNum : Nat)
    (prevRing : DeviceRing sampler) (older : List (Int × Nat)) (reqs : List ExecutorInferRequest) :
    List Int :=
  let prepared := prepareInputIds (forwardRequests reqs)
  if controller.enabledAtStartup && !controller.isMtpSerialFastPath mtpStepNum then
    replaceLastTokenKernel prepared.inputIds (prepared.curBatchPairs ++ older) prevRing
      (forwardRequests reqs).length
  else prepared.inputIds

/-- What of a launch decides the flat input, as the Executor has received it. Flexible cache
tasks are not transmitted. -/
structure Forwards (launched : InferRequest) (req : ExecutorInferRequest) : Prop where
  reqId : req.reqId = launched.reqId
  forwarding : req.forwardingTokens = launched.forwardingTokens
  kvCached : req.kvCachedTokenNum = launched.kvCachedTokenNum
  prefixLen : req.prefixCacheLen = launched.prefixCacheLen
  noFlexible : req.flexibleCachedCopyTaskNum = 0

theorem forwards_patch {launched live : InferRequest} {cached : ExecutorInferRequest}
    (snap : InferRequestSerializationSnapshot) (usePlaceholder : Bool)
    (hid : cached.reqId = launched.reqId) (hflexible : cached.flexibleCachedCopyTaskNum = 0) :
    Forwards launched
      (overwriteByPatch (buildPatch (some (snap.capture launched usePlaceholder)) live) cached) where
  reqId := hid
  forwarding := rfl
  kvCached := rfl
  prefixLen := rfl
  noFlexible := hflexible

theorem forwards_full {launched live : InferRequest} (api : SerializationApi)
    (snap : InferRequestSerializationSnapshot) (usePlaceholder : Bool)
    (hid : live.reqId = launched.reqId) :
    Forwards launched
      (transmittedRequest api (some (snap.capture launched usePlaceholder)) live) where
  reqId := hid
  forwarding := rfl
  kvCached := rfl
  prefixLen := rfl
  noFlexible := rfl

/-- A request of the step: the run that brought it to its launch, and what was received. KV
comes from a remote peer only where prefill and decode are separated. -/
structure StepMember [DraftTokensApi] (fastPath : Bool) (runtimeCfg : RuntimeConfig) where
  start : InferRequest
  cached : Nat
  ops : List PipelineOp
  before : PipelineState
  launched : InferRequest
  received : ExecutorInferRequest
  prompt : ∀ token ∈ start.outputTokens, 0 ≤ token
  remote : start.pdV2.kvFromRemote = true → runtimeCfg.separatePrefillDecode = true
  returned : EachStep (pipelineStep fastPath (maxInflightDepth fastPath)) VocabReturned
    { req := admitted start cached } ops
  run : exec (pipelineStep fastPath (maxInflightDepth fastPath)) { req := admitted start cached }
    ops = .ok before
  launch : Engine.launch fastPath (maxInflightDepth fastPath) before.req = .ok launched
  forwards : Forwards launched received

/-- The request was sampled in the step before: the ring holds a token of the vocabulary for it. -/
def InRing {sampler : Sampler} (prevRing : DeviceRing sampler) (reqId : Int) : Prop :=
  ∃ token, prevRing.tokenOf reqId = some token ∧ 0 ≤ token ∧ token < 2 ^ 31

namespace StepMember

variable [DraftTokensApi] {fastPath : Bool} {runtimeCfg : RuntimeConfig}

/-- The request is launched with a block of placeholders. -/
def LaunchedAhead (member : StepMember fastPath runtimeCfg) : Prop :=
  LaunchesBlock fastPath member.before.req

def plannedDraftNum (member : StepMember fastPath runtimeCfg) : Nat :=
  member.before.req.planningTask.workload.draftTokenNum

theorem forwarded (member : StepMember fastPath runtimeCfg)
    (hlocal : runtimeCfg.separatePrefillDecode = false) :
    (member.LaunchedAhead → forwardedTokens member.launched =
      List.replicate (member.plannedDraftNum + 1) kFastPathPlaceholderTokenId) ∧
    (¬ member.LaunchedAhead → ∀ token ∈ forwardedTokens member.launched, 0 ≤ token) := by
  obtain ⟨hvocab, hpayload⟩ := HoldsVocab.run member.prompt member.returned member.run
  refine forwardedTokens_launch hvocab ?_ (launch_ok member.launch).2.2
  have hpd : member.before.req.pdV2 = member.start.pdV2 := congrArg RequestPayload.pdV2 hpayload
  rw [hpd]
  refine eq_false_of_ne_true fun hremote => ?_
  have hseparate := member.remote hremote
  rw [hlocal] at hseparate
  cases hseparate

end StepMember

section Layout

theorem forwardRequests_perm (reqs : List ExecutorInferRequest) :
    ((forwardRequests reqs).map fun req => (req.reqId, req.inputIds)).Perm
      ((reqs.map buildForwardRequestFromInferRequest).map fun req => (req.reqId, req.inputIds)) := by
  have hforward : ((forwardRequests reqs).map fun req => (req.reqId, req.inputIds)) =
      (reorderInferRequests reqs).map fun req =>
        ((buildForwardRequestFromInferRequest req).reqId,
          (buildForwardRequestFromInferRequest req).inputIds) := by
    simp only [forwardRequests, buildForwardRequests, List.map_map]
    rfl
  rw [hforward, List.map_map, reorderInferRequests, resetLogitsOffsets_map
    (fun req => ((buildForwardRequestFromInferRequest req).reqId,
      (buildForwardRequestFromInferRequest req).inputIds)) fun _ _ => rfl]
  exact (List.perm_insertionSort _ reqs).map _

theorem Forwards.forwarded {launched : InferRequest} {req : ExecutorInferRequest}
    (h : Forwards launched req) :
    (buildForwardRequestFromInferRequest req).reqId = launched.reqId ∧
      (buildForwardRequestFromInferRequest req).inputIds = forwardedTokens launched := by
  refine ⟨h.reqId, ?_⟩
  rw [ForwardRequest.inputIds, forwardedTokens, ← h.forwarding, ← h.kvCached, ← h.prefixLen]
  show req.forwardingTokens.drop (max req.kvCachedTokenNum
    (req.prefixCacheLen.toNat + req.flexibleCachedCopyTaskNum)) = _
  rw [h.noFlexible, Nat.add_zero]

variable [DraftTokensApi] {fastPath : Bool} {runtimeCfg : RuntimeConfig}
  {members : List (StepMember fastPath runtimeCfg)}

/-- The members and the requests of the step are the same, up to order. -/
theorem members_perm (members : List (StepMember fastPath runtimeCfg)) :
    ((forwardRequests (members.map StepMember.received)).map
      fun req => (req.reqId, req.inputIds)).Perm
      (members.map fun member => (member.launched.reqId, forwardedTokens member.launched)) := by
  refine (forwardRequests_perm _).trans (List.Perm.of_eq ?_)
  rw [List.map_map, List.map_map]
  refine List.map_congr_left fun member _ => ?_
  obtain ⟨hid, htokens⟩ := member.forwards.forwarded
  exact Prod.ext hid htokens

theorem member_of_request {req : ForwardRequest}
    (hreq : req ∈ forwardRequests (members.map StepMember.received)) :
    ∃ member ∈ members, req.reqId = member.launched.reqId ∧
      req.inputIds = forwardedTokens member.launched := by
  have hpair := (members_perm members).mem_iff.mp (List.mem_map_of_mem hreq)
  obtain ⟨member, hmember, heq⟩ := List.mem_map.mp hpair
  obtain ⟨hid, htokens⟩ := Prod.mk.inj heq
  exact ⟨member, hmember, hid.symm, htokens.symm⟩

theorem request_of_member {member : StepMember fastPath runtimeCfg} (hmember : member ∈ members) :
    ∃ (n : Nat) (req : ForwardRequest),
      (forwardRequests (members.map StepMember.received))[n]? = some req ∧
      req.inputIds = forwardedTokens member.launched := by
  have hpair := (members_perm members).mem_iff.mpr (List.mem_map_of_mem hmember)
  obtain ⟨req, hreq, heq⟩ := List.mem_map.mp hpair
  obtain ⟨n, hn⟩ := List.mem_iff_getElem?.mp hreq
  exact ⟨n, req, hn, (Prod.mk.inj heq).2⟩

end Layout

section Kernel

variable {sampler : Sampler} {prevRing : DeviceRing sampler} {reqs : List ExecutorInferRequest}
  {older : List (Int × Nat)}

theorem embeddingInputIds_device {controller : FastPathController} {mtpStepNum : Nat}
    (henabled : controller.enabledAtStartup = true) (hmtp : mtpStepNum = 0)
    (prevRing : DeviceRing sampler) (older : List (Int × Nat)) (reqs : List ExecutorInferRequest) :
    embeddingInputIds controller mtpStepNum prevRing older reqs =
      replaceLastTokenKernel (prepareInputIds (forwardRequests reqs)).inputIds
        ((prepareInputIds (forwardRequests reqs)).curBatchPairs ++ older) prevRing
        (forwardRequests reqs).length := by
  rw [embeddingInputIds, FastPathController.isMtpSerialFastPath, henabled, hmtp]
  rfl

/-- A block of one placeholder is replaced by the token of its request. -/
theorem kernel_replaces_single {n i j : Nat} {req : ForwardRequest}
    (hreq : (forwardRequests reqs)[n]? = some req)
    (hsingle : req.inputIds = [kFastPathPlaceholderTokenId])
    (hplace : i = segmentStart ForwardRequest.inputIds (forwardRequests reqs) n + j)
    (hj : req.inputIds[j]? = some kFastPathPlaceholderTokenId) (hring : InRing prevRing req.reqId) :
    (replaceLastTokenKernel (prepareInputIds (forwardRequests reqs)).inputIds
      ((prepareInputIds (forwardRequests reqs)).curBatchPairs ++ older) prevRing
      (forwardRequests reqs).length)[i]? ≠ some kFastPathPlaceholderTokenId := by
  intro hleft
  obtain ⟨-, hthreads⟩ := replaceLastTokenKernel_placeholder hleft
  obtain ⟨token, htoken, hnonneg, hlt⟩ := hring
  obtain ⟨hfits, -⟩ := List.getElem?_eq_some_iff.mp hj
  have hlength : req.inputIds.length = 1 := by rw [hsingle]; rfl
  have hlast : i = segmentStart ForwardRequest.inputIds (forwardRequests reqs) (n + 1) - 1 := by
    rw [segmentStart_succ _ hreq]
    omega
  have hpair : (req.reqId, i) ∈ (prepareInputIds (forwardRequests reqs)).curBatchPairs :=
    ((prepareInputIds_layout _).2 _).mpr ⟨n, req, hreq, by omega, by rw [hlast]⟩
  have hthread : (req.reqId, i) ∈ ((prepareInputIds (forwardRequests reqs)).curBatchPairs ++
      older).take (forwardRequests reqs).length := by
    rw [List.take_append, List.take_of_length_le (curBatchPairs_length_le _)]
    exact List.mem_append_left _ hpair
  have hcast := hthreads req.reqId hthread token htoken
  rw [castInt32_eq hnonneg hlt] at hcast
  exact VocabId.ne_placeholder ⟨token, hnonneg⟩ hcast

theorem kernel_leaves_block (prevRing : DeviceRing sampler) {n draftNum : Nat} {req : ForwardRequest}
    (hreq : (forwardRequests reqs)[n]? = some req) (hdrafts : draftNum ≠ 0)
    (hblock : req.inputIds = List.replicate (draftNum + 1) kFastPathPlaceholderTokenId) :
    kFastPathPlaceholderTokenId ∈ replaceLastTokenKernel
      (prepareInputIds (forwardRequests reqs)).inputIds
      (prepareInputIds (forwardRequests reqs)).curBatchPairs prevRing
      (forwardRequests reqs).length := by
  have hlength : req.inputIds.length = draftNum + 1 := by rw [hblock, List.length_replicate]
  have hnext := segmentStart_succ ForwardRequest.inputIds hreq
  refine List.mem_of_getElem? (i := segmentStart ForwardRequest.inputIds (forwardRequests reqs) n) ?_
  rw [replaceLastTokenKernel_frame, (prepareInputIds_layout _).1]
  · have hfirst := getElem?_flatMap ForwardRequest.inputIds hreq (j := 0) (by omega)
    rw [Nat.add_zero] at hfirst
    rw [hfirst, hblock]
    rfl
  · intro pair hpair
    obtain ⟨k, owner, howner, hinput, rfl⟩ :=
      ((prepareInputIds_layout _).2 pair).mp (List.mem_of_mem_take hpair)
    have hown := segmentStart_succ ForwardRequest.inputIds howner
    simp only
    rcases Nat.lt_trichotomy k n with hbefore | rfl | hbehind
    · have hmono := segmentStart_mono ForwardRequest.inputIds (forwardRequests reqs)
        (Nat.succ_le_of_lt hbefore)
      rw [Nat.succ_eq_add_one] at hmono
      omega
    · omega
    · have hmono := segmentStart_mono ForwardRequest.inputIds (forwardRequests reqs)
        (Nat.succ_le_of_lt hbehind)
      rw [Nat.succ_eq_add_one] at hmono
      omega

end Kernel

/-- On the device ring path no placeholder reaches the embedding, whatever pairs are left in the
buffer, exactly when every block of the step was planned without draft slots. -/
theorem placeholder_free_embedding [DraftTokensApi] {sampler : Sampler}
    (schedCfg : BatchSchedulerConfig) (runtimeCfg : RuntimeConfig)
    (haccepted :
      (FastPathController.initializeAtStartup schedCfg runtimeCfg).enabledAtStartup = true)
    (hmtp : schedCfg.mtpStepNum = 0)
    (members : List (StepMember
      (FastPathController.initializeAtStartup schedCfg runtimeCfg).enabledAtStartup runtimeCfg))
    (prevRing : DeviceRing sampler)
    (hring : ∀ member ∈ members, member.LaunchedAhead → InRing prevRing member.launched.reqId) :
    (∀ older, kFastPathPlaceholderTokenId ∉ embeddingInputIds
      (FastPathController.initializeAtStartup schedCfg runtimeCfg) schedCfg.mtpStepNum prevRing older
      (members.map StepMember.received)) ↔
    ∀ member ∈ members, member.LaunchedAhead → member.plannedDraftNum = 0 := by
  have hlocal :=
    ((FastPathController.initializeAtStartup_enabled_iff schedCfg runtimeCfg).mp haccepted).noSeparation
  have hdevice := fun older => embeddingInputIds_device haccepted hmtp prevRing older
    (members.map StepMember.received)
  constructor
  · intro hclean member hmember hahead
    by_contra hdrafts
    obtain ⟨n, req, hreq, htokens⟩ := request_of_member hmember
    have hleft := kernel_leaves_block prevRing hreq hdrafts
      (htokens.trans ((member.forwarded hlocal).1 hahead))
    have hnone := hclean []
    rw [hdevice, List.append_nil] at hnone
    exact hnone hleft
  · intro hplanned older hleft
    rw [hdevice] at hleft
    obtain ⟨i, hi⟩ := List.mem_iff_getElem?.mp hleft
    obtain ⟨hbefore, -⟩ := replaceLastTokenKernel_placeholder hi
    rw [(prepareInputIds_layout _).1] at hbefore
    obtain ⟨n, req, j, hreq, hj, hplace⟩ := exists_segment ForwardRequest.inputIds hbefore
    obtain ⟨member, hmember, hid, htokens⟩ := member_of_request (List.mem_of_getElem? hreq)
    obtain ⟨hblock, hreal⟩ := member.forwarded hlocal
    by_cases hahead : member.LaunchedAhead
    · have hsingle : req.inputIds = [kFastPathPlaceholderTokenId] := by
        rw [htokens, hblock hahead, hplanned member hmember hahead]
        rfl
      exact kernel_replaces_single hreq hsingle hplace hj (hid ▸ hring member hmember hahead) hi
    · have hmem := List.mem_of_getElem? hj
      rw [htokens] at hmem
      exact absurd (hreal hahead _ hmem) (by decide)

/-! A model with one PTP step. -/

def ptpConfig : BatchSchedulerConfig :=
  { enableAsync := true, enableExecutorBuildAhead := true : BatchSchedulerConfig }.parseDraftStepNums
    0 1 0

def ptpStart : InferRequest where
  reqId := 7
  outputTokens := [11, 12]

/-- The prompt is in flight, and a decode step with one draft is planned behind it. -/
def ptpRun : List PipelineOp :=
  [.plan { prefillTokenNum := 2 }, .launch, .plan { generatedTokenNum := 1, draftTokenNum := 1 }]

def ptpBefore : InferRequest where
  reqId := 7
  outputTokens := [11, 12]
  forwardingTokens := [11, 12]
  prefillingTokens := [11, 12]
  inflightTasks := [⟨{ prefillTokenNum := 2, samplingTokenNum := 1 }⟩]
  planningTask := ⟨{ generatedTokenNum := 1, draftTokenNum := 1 }⟩
  remainingWorkload := { prefillStartOffset := 2 }

def ptpLaunched : InferRequest where
  reqId := 7
  samplingTokenNum := 2
  outputTokens := [11, 12]
  forwardingTokensDraftNum := 1
  forwardingTokens := [11, 12, -1, -1]
  forwardStepKind := .decode
  kvCachedTokenNum := 2
  prefixCacheLen := 2
  prefillingTokens := [11, 12]
  inflightTasks := [⟨{ prefillTokenNum := 2, samplingTokenNum := 1 }⟩,
    ⟨{ generatedTokenNum := 1, draftTokenNum := 1, samplingTokenNum := 2 }⟩]
  pendingPlaceholderPositions := [2]
  pendingPlaceholderDraftNums := [1]
  remainingWorkload := { prefillStartOffset := 2 }

/-- The patch of the launch, over a request that was received before. -/
def ptpReceived : ExecutorInferRequest :=
  overwriteByPatch
    (buildPatch (some (InferRequestSerializationSnapshot.capture {} ptpLaunched true)) ptpLaunched)
    { reqId := 7, forwardingTokens := [11, 12] }

theorem ptpReceived_forwards : Forwards ptpLaunched ptpReceived := forwards_patch _ _ rfl rfl

@[reducible] def ptpMember :
    letI := concatDraftTokens
    StepMember (FastPathController.initializeAtStartup ptpConfig {}).enabledAtStartup {} :=
  letI := concatDraftTokens
  { start := ptpStart
    cached := 0
    ops := ptpRun
    before := { req := ptpBefore, draftStarts := [2] }
    launched := ptpLaunched
    received := ptpReceived
    prompt := by decide
    remote := by decide
    returned := eachStep_of_check (by decide +kernel)
    run := by decide +kernel
    launch := by decide +kernel
    forwards := ptpReceived_forwards }

def ptpSampler : Sampler where
  maxBatchSize := 1
  maxDecodeTokensPerReq := 3
  verifyArgs _ := true

def ptpRing : DeviceRing ptpSampler where
  count := 1
  slots := [(7, 20)]
  room := rfl

theorem placeholder_free_embedding_sample :
    letI := concatDraftTokens
    (∀ older, kFastPathPlaceholderTokenId ∉ embeddingInputIds
      (FastPathController.initializeAtStartup ptpConfig {}) ptpConfig.mtpStepNum ptpRing older
      [ptpReceived]) ↔
    ∀ member ∈ [ptpMember], member.LaunchedAhead → member.plannedDraftNum = 0 := by
  let _ := concatDraftTokens
  refine placeholder_free_embedding ptpConfig {} (by decide) (by decide) [ptpMember] ptpRing ?_
  intro member hmember _
  obtain rfl := List.mem_singleton.mp hmember
  exact ⟨20, by decide, by decide, by decide⟩

/-- The gate accepts the configuration. The block has a draft slot, and the kernel fills that one
and leaves the main token a placeholder. -/
theorem placeholder_embedded_with_draft :
    letI := concatDraftTokens
    (FastPathController.initializeAtStartup ptpConfig {}).enabledAtStartup = true ∧
      ptpConfig.mtpStepNum = 0 ∧ ptpConfig.ptpStepNum = 1 ∧ ptpMember.LaunchedAhead ∧
      InRing ptpRing ptpMember.launched.reqId ∧
      embeddingInputIds (FastPathController.initializeAtStartup ptpConfig {}) ptpConfig.mtpStepNum
        ptpRing [] [ptpMember.received] = [-1, 20] := by
  let _ := concatDraftTokens
  have hahead : LaunchesBlock (FastPathController.initializeAtStartup ptpConfig {}).enabledAtStartup
      ptpBefore := by decide
  exact ⟨by decide, by decide, by decide, hahead, ⟨20, by decide, by decide, by decide⟩,
    by decide +kernel⟩

end KsanaBuildAhead.Executor
