import Mathlib
import KsanaBuildAhead.Runtime.ScheduleOutputWire

/-!
# The schedule output on the wire

What a worker reads is what the Engine wrote: the full requests with the values
of their snapshots, the patches as they were built, and the ids of the step. The
range records say that every value is one of its C++ type.
-/
namespace KsanaBuildAhead.Runtime

open Lib.Execution Lib.TypedWire

theorem sizeOfInt_int32OfSize {n : Nat} (h : n < 2 ^ 31) : sizeOfInt (int32OfSize n) = n := by
  unfold sizeOfInt int32OfSize
  rw [Int.bmod_def]
  push_cast
  split <;> omega

theorem sizeOfInt_int64OfSize {n : Nat} (h : IsSize n) : sizeOfInt (int64OfSize n) = n := by
  unfold sizeOfInt int64OfSize
  rw [Int.bmod_def]
  push_cast
  split <;> omega

theorem isInt32_int32OfSize (n : Nat) : IsInt32 (int32OfSize n) := by
  unfold int32OfSize
  rw [Int.bmod_def]
  push_cast
  constructor <;> split <;> omega

theorem isInt64_int64OfSize (n : Nat) : IsInt64 (int64OfSize n) := by
  unfold int64OfSize
  rw [Int.bmod_def]
  push_cast
  constructor <;> split <;> omega

/-- An offset is an index, never `SIZE_MAX` itself. -/
abbrev IsOffset (offset : Option Nat) : Prop := ∀ n ∈ offset, n < kSizeMax

theorem isSize_sizeOfOffset {offset : Option Nat} (h : IsOffset offset) :
    IsSize (sizeOfOffset offset) := by
  cases offset with
  | none => exact (by decide : kSizeMax < 2 ^ 64)
  | some n => exact (h n rfl).trans (by decide)

theorem offsetOfSize_sizeOfOffset {offset : Option Nat} (h : IsOffset offset) :
    offsetOfSize (sizeOfOffset offset) = offset := by
  unfold offsetOfSize
  cases offset with
  | none => exact if_pos rfl
  | some n => exact if_neg (Nat.ne_of_lt (h n rfl))

theorem emplaceTarget_of_new {targets : List (List UInt8 × TargetDescribe)}
    {entry : List UInt8 × TargetDescribe} (h : entry.1 ∉ targets.map Prod.fst) :
    emplaceTarget targets entry = targets ++ [entry] := if_neg h

theorem foldl_emplaceTarget (targets entries : List (List UInt8 × TargetDescribe))
    (h : ((targets ++ entries).map Prod.fst).Nodup) :
    entries.foldl emplaceTarget targets = targets ++ entries := by
  induction entries generalizing targets with
  | nil => rw [List.foldl_nil, List.append_nil]
  | cons entry entries ih =>
    have hnew : entry.1 ∉ targets.map Prod.fst := by
      rw [List.map_append, List.map_cons, List.nodup_append] at h
      intro hmem
      exact h.2.2 _ hmem _ List.mem_cons_self rfl
    have hassoc : targets ++ entry :: entries = (targets ++ [entry]) ++ entries := by
      rw [List.append_assoc, List.singleton_append]
    rw [hassoc] at h ⊢
    rw [List.foldl_cons, emplaceTarget_of_new hnew]
    exact ih _ h

@[mk_iff]
structure Tensor.InRange (tensor : Tensor) : Prop where
  shape : IsVector IsSize tensor.shape
  dtype : IsInt32 tensor.dtype.code
  totalBytes : IsSize tensor.bytes.length

instance : DecidablePred Tensor.InRange := fun tensor =>
  decidable_of_iff _ (Tensor.inRange_iff tensor).symm

@[mk_iff]
structure EmbeddingSlice.InRange (slice : EmbeddingSlice) : Prop where
  pos : IsVector IsInt32 slice.pos
  embeddings : IsVector (IsVector fun _ => True) slice.embeddings
  embeddingTensors : IsVector Tensor.InRange slice.embeddingTensors
  additionalTensors : IsVector Tensor.InRange slice.additionalTensors

instance : DecidablePred EmbeddingSlice.InRange := fun slice =>
  decidable_of_iff _ (EmbeddingSlice.inRange_iff slice).symm

@[mk_iff]
structure SamplingConfig.InRange (config : SamplingConfig) : Prop where
  int32s : ∀ v ∈ [config.topk, config.numBeams, config.numReturnSequences, config.maxNewTokens,
    config.logprobsNum, config.noRepeatNgramSize, config.encoderNoRepeatNgramSize,
    config.decoderNoRepeatNgramSize, config.ptpTokenNum], IsInt32 v
  stopTokenIds : IsVector IsInt32 config.stopTokenIds
  stopStrings : IsVector IsString config.stopStrings
  jsonSchema : IsString config.jsonSchema

instance : DecidablePred SamplingConfig.InRange := fun config =>
  decidable_of_iff _ (SamplingConfig.inRange_iff config).symm

@[mk_iff]
structure StructuredGeneratorConfig.InRange (config : StructuredGeneratorConfig) : Prop where
  constraintType : IsInt32 config.constraintType.code
  constraintSpec : IsString config.constraintSpec

instance : DecidablePred StructuredGeneratorConfig.InRange := fun config =>
  decidable_of_iff _ (StructuredGeneratorConfig.inRange_iff config).symm

@[mk_iff]
structure TargetDescribe.InRange (describe : TargetDescribe) : Prop where
  cutoffLayer : IsVector IsInt32 describe.cutoffLayer
  tokenId : IsVector IsInt32 describe.tokenId
  slicePos : IsVector (fun slice => IsInt32 slice.1 ∧ IsInt32 slice.2) describe.slicePos
  tokenReduceMode : IsInt32 describe.tokenReduceMode.code
  inputTopLogprobsNum : IsInt32 describe.inputTopLogprobsNum

instance : DecidablePred TargetDescribe.InRange := fun describe =>
  decidable_of_iff _ (TargetDescribe.inRange_iff describe).symm

@[mk_iff]
structure DecodeTargetLite.InRange (target : DecodeTargetLite) : Prop where
  decodeAttnTpRankInGroup : IsUInt32 target.decodeAttnTpRankInGroup
  kvPoolBaseVa : IsSize target.kvPoolBaseVa
  kvBlockIds : IsVector IsInt32 target.kvBlockIds

instance : DecidablePred DecodeTargetLite.InRange := fun target =>
  decidable_of_iff _ (DecodeTargetLite.inRange_iff target).symm

/-- The keys of `request_target` are those of a map. -/
@[mk_iff]
structure InferRequest.InRange (req : InferRequest) : Prop where
  int64s : ∀ v ∈ [req.reqId, req.mrotaryEmbeddingPosOffset, req.xdrotaryEmbeddingPosOffset],
    IsInt64 v
  int32s : ∀ v ∈ [req.step, req.prefixCacheLen], IsInt32 v
  sizes : ∀ n ∈ [req.logitsCustomLength, req.samplingTokenNum, req.lastStepTokenNum,
    req.forwardingTokensDraftNum, req.kvCachedTokenNum, req.blockTokenNum, req.logitsOffset],
    IsSize n
  vectors : ∀ xs ∈ [req.inputTokens, req.outputTokens, req.draftTokens.mtp, req.draftTokens.spec,
    req.draftTokens.ptp, req.acceptedTokens, req.generatedTokens, req.forwardingTokens,
    req.samplingResultTokens, req.kvCacheBlocks, req.swaKvCacheBlocks], IsVector IsInt32 xs
  swaKvCacheBlockIdxOffsets : IsVector IsSize req.swaKvCacheBlockIdxOffsets
  requestTarget : IsVector (fun entry => IsString entry.1 ∧ entry.2.InRange) req.requestTarget
  targetNames : (req.requestTarget.map Prod.fst).Nodup
  samplingConfig : req.samplingConfig.InRange
  groupIds : ∀ n ∈ [req.attnDpGroupId, req.pdV2.decodeAttnDpGroupId], IsUInt32 n
  strings : ∀ s ∈ [req.kvCommGroupKey, req.incrementalDecodedStr,
    req.pdV2.decodeEngineInferenceAddr], IsString s
  inputRefitEmbedding : req.inputRefitEmbedding.InRange
  structuredGeneratorConfig : req.structuredGeneratorConfig.InRange
  decodeTargets : IsVector DecodeTargetLite.InRange req.pdV2.decodeTargets

instance : DecidablePred InferRequest.InRange := fun req =>
  decidable_of_iff _ (InferRequest.inRange_iff req).symm

@[mk_iff]
structure InferRequestSerializationSnapshot.InRange (snap : InferRequestSerializationSnapshot) :
    Prop where
  int32s : ∀ v ∈ [snap.step, snap.prefixCacheLen], IsInt32 v
  sizes : ∀ n ∈ [snap.samplingTokenNum, snap.forwardingTokensDraftNum, snap.kvCachedTokenNum],
    IsSize n
  vectors : ∀ xs ∈ [snap.forwardingTokens, snap.kvCacheBlocks, snap.swaKvCacheBlocks],
    IsVector IsInt32 xs
  swaKvCacheBlockIdxOffsets : IsVector IsSize snap.swaKvCacheBlockIdxOffsets
  placeholderOffset : IsOffset snap.placeholderOffsetInSnapshot

instance : DecidablePred InferRequestSerializationSnapshot.InRange := fun snap =>
  decidable_of_iff _ (InferRequestSerializationSnapshot.inRange_iff snap).symm

structure InferRequestPatch.InRange (patch : InferRequestPatch) : Prop where
  reqId : IsInt64 patch.reqId
  int32s : ∀ v ∈ [patch.step, patch.prefixCacheLen], IsInt32 v
  sizes : ∀ n ∈ [patch.forwardingTokensOffset, patch.forwardingTokensDraftNum,
    patch.kvCachedTokenNum, patch.kvCacheBlocksOffset, patch.samplingTokenNum], IsSize n
  vectors : ∀ xs ∈ [patch.deltaForwardingTokens, patch.deltaKvCacheBlocks,
    patch.swaKvCacheBlocks], IsVector IsInt32 xs
  swaKvCacheBlockIdxOffsets : IsVector IsSize patch.swaKvCacheBlockIdxOffsets
  launchPlaceholderOffset : IsOffset patch.launchPlaceholderOffset

@[mk_iff]
structure ScheduleOutput.InRange (output : ScheduleOutput) : Prop where
  scheduleId : IsSize output.scheduleId
  scheduleDispatchTimeNs : IsInt64 output.scheduleDispatchTimeNs
  finishReqIds : IsVector (IsVector IsInt64) output.finishReqIds
  recomputeReqIds : IsVector (IsVector IsInt64) output.recomputeReqIds
  liveReqIds : IsVector IsInt64 output.liveReqIds
  runningReqs : IsVector InferRequest.InRange output.runningReqs
  snapshots : ∀ req ∈ output.runningReqs, ∀ snap ∈ output.snapshotOf req, snap.InRange

instance : DecidablePred ScheduleOutput.InRange := fun output =>
  decidable_of_iff _ (ScheduleOutput.inRange_iff output).symm

/-- The values sent for a request are in range whether or not it has a snapshot. -/
theorem sentSnapshot_inRange {snapshot : Option InferRequestSerializationSnapshot}
    {req : InferRequest} (hreq : req.InRange) (hsnap : ∀ snap ∈ snapshot, snap.InRange) :
    (sentSnapshot snapshot req).InRange := by
  cases snapshot with
  | some snap => exact hsnap snap rfl
  | none =>
    constructor
    · exact hreq.int32s
    · intro n hn
      refine hreq.sizes n ?_
      simp only [sentSnapshot, InferRequestSerializationSnapshot.capture, Option.getD_none] at hn
      simp only [List.mem_cons] at hn ⊢
      tauto
    · intro xs hxs
      refine hreq.vectors xs ?_
      simp only [sentSnapshot, InferRequestSerializationSnapshot.capture, Option.getD_none] at hxs
      simp only [List.mem_cons] at hxs ⊢
      tauto
    · exact hreq.swaKvCacheBlockIdxOffsets
    · intro n hn
      cases hn

/-- A patch is the values sent for the request, its placeholder offset included. -/
theorem buildPatch_eq (snapshot : Option InferRequestSerializationSnapshot) (req : InferRequest) :
    let sent := sentSnapshot snapshot req
    buildPatch snapshot req =
      { reqId := req.reqId
        deltaForwardingTokens := sent.forwardingTokens
        forwardingTokensDraftNum := sent.forwardingTokensDraftNum
        kvCachedTokenNum := sent.kvCachedTokenNum
        kvFromRemote := req.pdV2.kvFromRemote
        prefixCacheLen := sent.prefixCacheLen
        deltaKvCacheBlocks := sent.kvCacheBlocks
        swaKvCacheBlocks := sent.swaKvCacheBlocks
        swaKvCacheBlockIdxOffsets := sent.swaKvCacheBlockIdxOffsets
        inferStage := req.inferStage
        forwardStepKind := sent.forwardStepKind
        step := sent.step
        samplingTokenNum := sent.samplingTokenNum
        launchPlaceholderOffset := sent.placeholderOffsetInSnapshot } := by
  cases snapshot <;> rfl

theorem buildPatch_inRange {snapshot : Option InferRequestSerializationSnapshot}
    {req : InferRequest} (hreq : req.InRange) (hsnap : ∀ snap ∈ snapshot, snap.InRange) :
    (buildPatch snapshot req).InRange := by
  have hsent := sentSnapshot_inRange hreq hsnap
  rw [buildPatch_eq]
  constructor
  · exact hreq.int64s _ List.mem_cons_self
  · exact hsent.int32s
  · intro n hn
    have hcases : n = 0 ∨ n ∈ [(sentSnapshot snapshot req).samplingTokenNum,
        (sentSnapshot snapshot req).forwardingTokensDraftNum,
        (sentSnapshot snapshot req).kvCachedTokenNum] := by
      simp only [List.mem_cons] at hn ⊢
      tauto
    rcases hcases with rfl | hmem
    · exact (by decide : IsSize 0)
    · exact hsent.sizes n hmem
  · exact hsent.vectors
  · exact hsent.swaKvCacheBlockIdxOffsets
  · exact hsent.placeholderOffset

/-- The request a worker ends up with: every transmitted field has the value of the snapshot
where there is one, and of the live request otherwise. -/
def transmittedRequest (api : SerializationApi)
    (snapshot : Option InferRequestSerializationSnapshot) (req : InferRequest) :
    ExecutorInferRequest :=
  let sent := sentSnapshot snapshot req
  { reqId := req.reqId
    logitsCustomLength := req.logitsCustomLength
    samplingTokenNum := sent.samplingTokenNum
    lastStepTokenNum := req.lastStepTokenNum
    inputTokens := req.inputTokens
    inputRefitEmbedding := if req.inferStage = .context then req.inputRefitEmbedding else {}
    mrotaryEmbeddingPosOffset := req.mrotaryEmbeddingPosOffset
    xdrotaryEmbeddingPosOffset := req.xdrotaryEmbeddingPosOffset
    outputTokens := req.outputTokens
    draftTokens := req.draftTokens
    acceptedTokens := req.acceptedTokens
    forwardingTokensDraftNum := sent.forwardingTokensDraftNum
    generatedTokens := req.generatedTokens
    requestTarget := req.requestTarget
    samplingConfig := req.samplingConfig
    structuredGeneratorConfig :=
      if req.needRecreateGenerator = true then req.structuredGeneratorConfig
      else api.defaultGeneratorConfig
    needCreateGenerator := req.needRecreateGenerator
    attnDpGroupId := req.attnDpGroupId
    kvCommGroupKey := req.kvCommGroupKey
    pdV2DecodeTargets := req.pdV2.decodeTargets
    pdV2DecodeEngineInferenceAddr := req.pdV2.decodeEngineInferenceAddr
    pdV2DecodeAttnDpGroupId := req.pdV2.decodeAttnDpGroupId
    forwardingTokens := sent.forwardingTokens
    samplingResultTokens := req.samplingResultTokens
    inferStage := req.inferStage
    kvFromRemote := req.pdV2.kvFromRemote
    forwardStepKind := sent.forwardStepKind
    step := sent.step
    kvCachedTokenNum := sent.kvCachedTokenNum
    kvCacheBlocks := sent.kvCacheBlocks
    swaKvCacheBlocks := sent.swaKvCacheBlocks
    swaKvCacheBlockIdxOffsets := sent.swaKvCacheBlockIdxOffsets
    blockTokenNum := req.blockTokenNum
    logitsOffset := req.logitsOffset
    prefixCacheLen := sent.prefixCacheLen
    incrementalDecodedStr := req.incrementalDecodedStr }

/-- The fields of a request a worker received: those the launch captures come from the snapshot
where there is one, all others from the live request. -/
structure ReceivedRequest (snapshot : Option InferRequestSerializationSnapshot)
    (req : InferRequest) (received : ExecutorInferRequest) : Prop where
  forwardingTokens :
    received.forwardingTokens = snapshot.elim req.forwardingTokens (·.forwardingTokens)
  forwardingTokensDraftNum : received.forwardingTokensDraftNum =
    snapshot.elim req.forwardingTokensDraftNum (·.forwardingTokensDraftNum)
  samplingTokenNum :
    received.samplingTokenNum = snapshot.elim req.samplingTokenNum (·.samplingTokenNum)
  kvCachedTokenNum :
    received.kvCachedTokenNum = snapshot.elim req.kvCachedTokenNum (·.kvCachedTokenNum)
  kvCacheBlocks : received.kvCacheBlocks = snapshot.elim req.kvCacheBlocks (·.kvCacheBlocks)
  swaKvCacheBlocks :
    received.swaKvCacheBlocks = snapshot.elim req.swaKvCacheBlocks (·.swaKvCacheBlocks)
  swaKvCacheBlockIdxOffsets : received.swaKvCacheBlockIdxOffsets =
    snapshot.elim req.swaKvCacheBlockIdxOffsets (·.swaKvCacheBlockIdxOffsets)
  prefixCacheLen : received.prefixCacheLen = snapshot.elim req.prefixCacheLen (·.prefixCacheLen)
  step : received.step = snapshot.elim req.step (·.step)
  forwardStepKind :
    received.forwardStepKind = snapshot.elim req.forwardStepKind (·.forwardStepKind)
  ids : received.reqId = req.reqId ∧ received.attnDpGroupId = req.attnDpGroupId ∧
    received.kvCommGroupKey = req.kvCommGroupKey
  tokens : received.inputTokens = req.inputTokens ∧ received.outputTokens = req.outputTokens ∧
    received.draftTokens = req.draftTokens ∧ received.acceptedTokens = req.acceptedTokens ∧
    received.generatedTokens = req.generatedTokens ∧
    received.samplingResultTokens = req.samplingResultTokens
  sizes : received.logitsCustomLength = req.logitsCustomLength ∧
    received.lastStepTokenNum = req.lastStepTokenNum ∧
    received.blockTokenNum = req.blockTokenNum ∧ received.logitsOffset = req.logitsOffset
  rotary : received.mrotaryEmbeddingPosOffset = req.mrotaryEmbeddingPosOffset ∧
    received.xdrotaryEmbeddingPosOffset = req.xdrotaryEmbeddingPosOffset
  inferStage : received.inferStage = req.inferStage
  samplingConfig : received.samplingConfig = req.samplingConfig
  requestTarget : received.requestTarget = req.requestTarget
  incrementalDecodedStr : received.incrementalDecodedStr = req.incrementalDecodedStr
  embedding : req.inferStage = .context →
    received.inputRefitEmbedding = req.inputRefitEmbedding
  needCreateGenerator : received.needCreateGenerator = req.needRecreateGenerator
  generatorConfig : req.needRecreateGenerator = true →
    received.structuredGeneratorConfig = req.structuredGeneratorConfig
  pdV2 : received.kvFromRemote = req.pdV2.kvFromRemote ∧
    received.pdV2DecodeTargets = req.pdV2.decodeTargets ∧
    received.pdV2DecodeEngineInferenceAddr = req.pdV2.decodeEngineInferenceAddr ∧
    received.pdV2DecodeAttnDpGroupId = req.pdV2.decodeAttnDpGroupId

theorem transmittedRequest_received (api : SerializationApi)
    (snapshot : Option InferRequestSerializationSnapshot) (req : InferRequest) :
    ReceivedRequest snapshot req (transmittedRequest api snapshot req) := by
  have hembedding (h : req.inferStage = .context) :
      (transmittedRequest api snapshot req).inputRefitEmbedding = req.inputRefitEmbedding :=
    if_pos h
  have hconfig (h : req.needRecreateGenerator = true) :
      (transmittedRequest api snapshot req).structuredGeneratorConfig =
        req.structuredGeneratorConfig := if_pos h
  -- the captured fields are read off by the case of the snapshot, all others are the live ones
  cases snapshot <;> constructor <;>
    first
      | rfl
      | exact hembedding
      | exact hconfig
      | exact ⟨rfl, rfl, rfl, rfl, rfl, rfl⟩
      | exact ⟨rfl, rfl, rfl, rfl⟩
      | exact ⟨rfl, rfl, rfl⟩
      | exact ⟨rfl, rfl⟩

/-- The fields of a patch a worker received. -/
structure ReceivedPatch (snapshot : Option InferRequestSerializationSnapshot)
    (req : InferRequest) (received : InferRequestPatch) : Prop where
  deltaForwardingTokens :
    received.deltaForwardingTokens = snapshot.elim req.forwardingTokens (·.forwardingTokens)
  forwardingTokensDraftNum : received.forwardingTokensDraftNum =
    snapshot.elim req.forwardingTokensDraftNum (·.forwardingTokensDraftNum)
  samplingTokenNum :
    received.samplingTokenNum = snapshot.elim req.samplingTokenNum (·.samplingTokenNum)
  kvCachedTokenNum :
    received.kvCachedTokenNum = snapshot.elim req.kvCachedTokenNum (·.kvCachedTokenNum)
  deltaKvCacheBlocks :
    received.deltaKvCacheBlocks = snapshot.elim req.kvCacheBlocks (·.kvCacheBlocks)
  swaKvCacheBlocks :
    received.swaKvCacheBlocks = snapshot.elim req.swaKvCacheBlocks (·.swaKvCacheBlocks)
  swaKvCacheBlockIdxOffsets : received.swaKvCacheBlockIdxOffsets =
    snapshot.elim req.swaKvCacheBlockIdxOffsets (·.swaKvCacheBlockIdxOffsets)
  prefixCacheLen : received.prefixCacheLen = snapshot.elim req.prefixCacheLen (·.prefixCacheLen)
  step : received.step = snapshot.elim req.step (·.step)
  forwardStepKind :
    received.forwardStepKind = snapshot.elim req.forwardStepKind (·.forwardStepKind)
  launchPlaceholderOffset :
    received.launchPlaceholderOffset = snapshot.elim none (·.placeholderOffsetInSnapshot)
  reqId : received.reqId = req.reqId
  inferStage : received.inferStage = req.inferStage
  kvFromRemote : received.kvFromRemote = req.pdV2.kvFromRemote
  offsets : received.forwardingTokensOffset = 0 ∧ received.kvCacheBlocksOffset = 0

theorem buildPatch_received (snapshot : Option InferRequestSerializationSnapshot)
    (req : InferRequest) : ReceivedPatch snapshot req (buildPatch snapshot req) := by
  cases snapshot <;> constructor <;> first | rfl | exact ⟨rfl, rfl⟩

section Written

variable (api : SerializationApi)

def EmbeddingSlice.OnHost (slice : EmbeddingSlice) : Prop :=
  ∀ tensor ∈ slice.embeddingTensors ++ slice.additionalTensors, tensor.location = .host

theorem serializeTensor_ok_iff (tensor : Tensor) :
    (∃ bytes, serializeTensor api tensor = .ok bytes) ↔ tensor.location = .host := by
  constructor
  · rintro ⟨bytes, h⟩
    exact (check_bind_ok h).1
  · intro h
    exact ⟨_, check_bind_of_true _ _ h⟩

theorem serializeVectorOfTensor_ok_iff (tensors : List Tensor) :
    (∃ bytes, serializeVectorOfTensor api tensors = .ok bytes) ↔
      ∀ tensor ∈ tensors, tensor.location = .host := by
  simp only [serializeVectorOfTensor, bind_ok_iff, mapM_ok_iff, serializeTensor_ok_iff]

theorem serializeEmbeddingSlice_ok_iff (slice : EmbeddingSlice) :
    (∃ bytes, serializeEmbeddingSlice api slice = .ok bytes) ↔ slice.OnHost := by
  have hvectors := serializeVectorOfTensor_ok_iff api
  unfold EmbeddingSlice.OnHost
  rw [List.forall_mem_append, ← hvectors, ← hvectors]
  constructor
  · rintro ⟨bytes, h⟩
    obtain ⟨first, hfirst, h⟩ := bind_ok h
    obtain ⟨second, hsecond, -⟩ := bind_ok h
    exact ⟨⟨first, hfirst⟩, ⟨second, hsecond⟩⟩
  · rintro ⟨⟨first, hfirst⟩, ⟨second, hsecond⟩⟩
    unfold serializeEmbeddingSlice
    rw [hfirst, hsecond]
    exact ⟨_, rfl⟩

theorem serializeInferRequest_ok_iff (snapshot : Option InferRequestSerializationSnapshot)
    (req : InferRequest) :
    (∃ bytes, serializeInferRequest api snapshot req = .ok bytes) ↔
      (req.inferStage = .context → req.inputRefitEmbedding.OnHost) := by
  rw [← serializeEmbeddingSlice_ok_iff api]
  unfold serializeInferRequest writeIf
  constructor
  · rintro ⟨bytes, h⟩ hstage
    obtain ⟨embedding, hembedding, -⟩ := bind_ok h
    rw [if_pos hstage] at hembedding
    exact ⟨embedding, hembedding⟩
  · intro h
    have hembedding : ∃ embedding, (if req.inferStage = .context then
        serializeEmbeddingSlice api req.inputRefitEmbedding else .ok []) = .ok embedding := by
      by_cases hstage : req.inferStage = .context
      · rw [if_pos hstage]
        exact h hstage
      · exact ⟨[], if_neg hstage⟩
    obtain ⟨embedding, hembedding⟩ := hembedding
    dsimp only
    rw [hembedding]
    cases req.needRecreateGenerator with
    | true => exact ⟨_, rfl⟩
    | false => exact ⟨_, rfl⟩

/-- A schedule output is written unless a full request in its context stage refits an
embedding tensor that is not on the host. -/
theorem serializeScheduleOutput_ok_iff (output : ScheduleOutput) :
    (∃ bytes, serializeScheduleOutput api true output = .ok bytes) ↔
      ∀ req ∈ output.fullRunningReqs,
        req.inferStage = .context → req.inputRefitEmbedding.OnHost := by
  unfold serializeScheduleOutput
  rw [check_bind_of_true _ _ rfl, bind_ok_iff]
  unfold serializeInferRequests
  rw [bind_ok_iff, mapM_ok_iff]
  simp only [serializeInferRequest_ok_iff]

end Written

/-- What a buffer carries, before it is stored into a schedule output. -/
structure BufferContents where
  scheduleId : Nat
  enableProfileMetrics : Bool
  scheduleDispatchTimeNs : Int
  finishReqIds : List (List Int)
  recomputeReqIds : List (List Int)
  liveReqIds : List Int
  executorRunningReqs : List ExecutorInferRequest
  runningReqPatches : List InferRequestPatch

def readContents (api : SerializationApi) : Reader BufferContents := do
  let scheduleId ← api.size.decode
  let enableProfileMetrics ← api.bool.decode
  let scheduleDispatchTimeNs ← api.int64.decode
  let finishReqIds ← api.int64Matrix.decode
  let recomputeReqIds ← api.int64Matrix.decode
  let liveReqIds ← api.int64Vector.decode
  let executorRunningReqs ← deserializeInferRequests api []
  let runningReqPatches ← deserializeInferRequestPatches api []
  pure {
    scheduleId := scheduleId
    enableProfileMetrics := enableProfileMetrics
    scheduleDispatchTimeNs := scheduleDispatchTimeNs
    finishReqIds := finishReqIds
    recomputeReqIds := recomputeReqIds
    liveReqIds := liveReqIds
    executorRunningReqs := executorRunningReqs
    runningReqPatches := runningReqPatches }

namespace ScheduleOutput

/-- What the Engine sends of a schedule output. -/
def contents (api : SerializationApi) (output : ScheduleOutput) : BufferContents where
  scheduleId := output.scheduleId
  enableProfileMetrics := output.enableProfileMetrics
  scheduleDispatchTimeNs := output.scheduleDispatchTimeNs
  finishReqIds := output.finishReqIds
  recomputeReqIds := output.recomputeReqIds
  liveReqIds := output.liveReqIds
  executorRunningReqs := output.fullRunningReqs.map fun req =>
    transmittedRequest api (output.snapshotOf req) req
  runningReqPatches := output.patchRunningReqs

/-- The target with the contents of a buffer: ids are replaced, requests and patches added. -/
def store (api : SerializationApi) (target : ScheduleOutput) (contents : BufferContents) :
    ScheduleOutput :=
  let reqs := target.executorRunningReqs ++ contents.executorRunningReqs
  { target with
    scheduleId := contents.scheduleId
    enableProfileMetrics := contents.enableProfileMetrics
    scheduleDispatchTimeNs := contents.scheduleDispatchTimeNs
    finishReqIds := contents.finishReqIds
    recomputeReqIds := contents.recomputeReqIds
    liveReqIds := contents.liveReqIds
    executorRunningReqs := reqs
    runningReqPatches := target.runningReqPatches ++ contents.runningReqPatches
    structuredGeneratorConfigs := (collectGenerators api reqs).1
    needCreateGeneratorReqIds := (collectGenerators api reqs).2 }

/-- The id lists are empty, as they are in a new and in a cleared schedule output. -/
structure HasNoIds (target : ScheduleOutput) : Prop where
  finishReqIds : target.finishReqIds = []
  recomputeReqIds : target.recomputeReqIds = []
  liveReqIds : target.liveReqIds = []

end ScheduleOutput

theorem deserializeInferRequests_eq (api : SerializationApi)
    (target : List ExecutorInferRequest) :
    deserializeInferRequests api target =
      deserializeInferRequests api [] >>= fun reqs => pure (target ++ reqs) := by
  simp only [deserializeInferRequests, bind_assoc, pure_bind, List.nil_append]

theorem deserializeInferRequestPatches_eq (api : SerializationApi)
    (target : List InferRequestPatch) :
    deserializeInferRequestPatches api target =
      deserializeInferRequestPatches api [] >>= fun patches => pure (target ++ patches) := by
  simp only [deserializeInferRequestPatches, bind_assoc, pure_bind, List.nil_append]

/-- Deserializing is reading the contents of the buffer and storing them. -/
theorem deserialize_eq (api : SerializationApi) {target : ScheduleOutput}
    (h : target.HasNoIds) :
    deserializeScheduleOutput api target =
      readContents api >>= fun contents => pure (target.store api contents) := by
  unfold deserializeScheduleOutput readContents
  rw [h.finishReqIds, h.recomputeReqIds, h.liveReqIds, api.int64MatrixInto_nil,
    api.int64VectorInto_nil, deserializeInferRequests_eq, deserializeInferRequestPatches_eq]
  simp only [bind_assoc, pure_bind]
  rfl

section RoundTrip

variable (api : SerializationApi)

theorem tensor_roundTrip {tensor : Tensor} {bytes : List UInt8} (h : tensor.InRange)
    (hwrite : serializeTensor api tensor = .ok bytes) :
    Reads (deserializeTensor api) bytes tensor := by
  obtain ⟨hhost, hwrite⟩ := check_bind_ok hwrite
  obtain rfl := Except.ok.inj hwrite
  apply Reads.next (api.sizeVector.reads _ h.shape)
  apply Reads.next (api.int32.reads _ h.dtype)
  apply Reads.next (api.size.reads _ h.totalBytes)
  apply Reads.next (reads_takeBytes _)
  apply Reads.done
  rw [← hhost]

theorem vectorOfTensor_roundTrip {tensors : List Tensor} {bytes : List UInt8}
    (h : IsVector Tensor.InRange tensors)
    (hwrite : serializeVectorOfTensor api tensors = .ok bytes) :
    Reads (deserializeVectorOfTensor api) bytes tensors := by
  obtain ⟨written, hwritten, hwrite⟩ := bind_ok hwrite
  obtain rfl := Except.ok.inj hwrite
  apply Reads.next (api.size.reads _ h.1)
  have hloop : Reads (readMany (deserializeTensor api) tensors.length) written.flatten
      (tensors.map id) :=
    reads_mapM hwritten h.2 fun tensor bytes => tensor_roundTrip api
  rw [List.map_id] at hloop
  exact hloop.congr (List.append_nil _).symm rfl

theorem embeddingSlice_roundTrip {slice : EmbeddingSlice} {bytes : List UInt8}
    (h : slice.InRange) (hwrite : serializeEmbeddingSlice api slice = .ok bytes) :
    Reads (deserializeEmbeddingSlice api) bytes slice := by
  obtain ⟨embeddingTensors, hembedding, hwrite⟩ := bind_ok hwrite
  obtain ⟨additionalTensors, hadditional, hwrite⟩ := bind_ok hwrite
  obtain rfl := Except.ok.inj hwrite
  apply Reads.next (api.int32Vector.reads _ h.pos)
  apply Reads.next (api.floatMatrix.reads _ h.embeddings)
  apply Reads.next (vectorOfTensor_roundTrip api h.embeddingTensors hembedding)
  apply Reads.next (vectorOfTensor_roundTrip api h.additionalTensors hadditional)
  exact Reads.done rfl

theorem samplingConfig_roundTrip {config : SamplingConfig} (h : config.InRange) :
    Reads (deserializeSamplingConfig api) (serializeSamplingConfig api config) config := by
  have hint : ∀ v ∈ [config.topk, config.numBeams, config.numReturnSequences, config.maxNewTokens,
      config.logprobsNum, config.noRepeatNgramSize, config.encoderNoRepeatNgramSize,
      config.decoderNoRepeatNgramSize, config.ptpTokenNum],
      Reads api.int32.decode (api.int32.encode v) v := fun v hv => api.int32.reads v (h.int32s v hv)
  apply Reads.next (hint config.topk (by simp))
  apply Reads.next (hint config.numBeams (by simp))
  apply Reads.next (hint config.numReturnSequences (by simp))
  apply Reads.next (api.float.reads config.topp trivial)
  apply Reads.next (api.float.reads config.temperature trivial)
  apply Reads.next (api.float.reads config.repetitionPenalty trivial)
  apply Reads.next (api.float.reads config.lengthPenalty trivial)
  apply Reads.next (api.int32Vector.reads _ h.stopTokenIds)
  apply Reads.next (api.bool.reads config.ignoreEos trivial)
  apply Reads.next (hint config.maxNewTokens (by simp))
  apply Reads.next (hint config.logprobsNum (by simp))
  apply Reads.next (hint config.noRepeatNgramSize (by simp))
  apply Reads.next (hint config.encoderNoRepeatNgramSize (by simp))
  apply Reads.next (hint config.decoderNoRepeatNgramSize (by simp))
  apply Reads.next (api.stringVector.reads _ h.stopStrings)
  apply Reads.next (api.string.reads _ h.jsonSchema)
  apply Reads.next (api.bool.reads config.enableStructuredOutput trivial)
  apply Reads.next (api.bool.reads config.enableThinking trivial)
  apply Reads.next (hint config.ptpTokenNum (by simp))
  exact Reads.done rfl

theorem structuredGeneratorConfig_roundTrip {config : StructuredGeneratorConfig}
    (h : config.InRange) :
    Reads (deserializeStructuredGeneratorConfig api)
      (serializeStructuredGeneratorConfig api config) config := by
  apply Reads.next (api.structuredConstraintType.reads _ h.constraintType)
  apply Reads.next (api.string.reads _ h.constraintSpec)
  exact Reads.done rfl

theorem requestTarget_roundTrip {entry : List UInt8 × TargetDescribe}
    (h : IsString entry.1 ∧ entry.2.InRange) :
    Reads (deserializeRequestTarget api) (serializeRequestTarget api entry) entry := by
  apply Reads.next (api.string.reads _ h.1)
  apply Reads.next (api.int32Vector.reads _ h.2.cutoffLayer)
  apply Reads.next (api.int32Vector.reads _ h.2.tokenId)
  apply Reads.next (api.slicePosVector.reads _ h.2.slicePos)
  apply Reads.next (api.tokenReduceMode.reads _ h.2.tokenReduceMode)
  apply Reads.next (api.int32.reads _ h.2.inputTopLogprobsNum)
  exact Reads.done rfl

theorem decodeTarget_roundTrip {target : DecodeTargetLite} (h : target.InRange) :
    Reads (deserializeDecodeTarget api) (serializeDecodeTarget api target) target := by
  apply Reads.next (api.uint32.reads _ h.decodeAttnTpRankInGroup)
  apply Reads.next (api.uint64.reads _ h.kvPoolBaseVa)
  apply Reads.next (api.int32Vector.reads _ h.kvBlockIds)
  exact Reads.done rfl

theorem patch_roundTrip {patch : InferRequestPatch} (h : patch.InRange) :
    Reads (deserializeInferRequestPatch api) (serializeInferRequestPatch api patch) patch := by
  apply Reads.next (api.int64.reads _ h.reqId)
  apply Reads.next (api.int32Vector.reads _ (h.vectors patch.deltaForwardingTokens (by simp)))
  apply Reads.next (api.size.reads _ (h.sizes patch.forwardingTokensOffset (by simp)))
  apply Reads.next (api.size.reads _ (h.sizes patch.forwardingTokensDraftNum (by simp)))
  apply Reads.next (api.size.reads _ (h.sizes patch.kvCachedTokenNum (by simp)))
  apply Reads.next (api.bool.reads patch.kvFromRemote trivial)
  apply Reads.next (api.int32.reads _ (h.int32s patch.prefixCacheLen (by simp)))
  apply Reads.next (api.int32Vector.reads _ (h.vectors patch.deltaKvCacheBlocks (by simp)))
  apply Reads.next (api.size.reads _ (h.sizes patch.kvCacheBlocksOffset (by simp)))
  apply Reads.next (api.int32Vector.reads _ (h.vectors patch.swaKvCacheBlocks (by simp)))
  apply Reads.next (api.sizeVector.reads _ h.swaKvCacheBlockIdxOffsets)
  apply Reads.next (api.inferStage.reads patch.inferStage trivial)
  apply Reads.next (api.forwardStepKind.reads patch.forwardStepKind trivial)
  apply Reads.next (api.int32.reads _ (h.int32s patch.step (by simp)))
  apply Reads.next (api.size.reads _ (h.sizes patch.samplingTokenNum (by simp)))
  apply Reads.next (api.size.reads _ (isSize_sizeOfOffset h.launchPlaceholderOffset))
  apply Reads.done
  rw [offsetOfSize_sizeOfOffset h.launchPlaceholderOffset]

/-- One full request. The embedding slice and the generator configuration are read under the
condition they were written under, since both conditions are transmitted before them. -/
theorem inferRequest_roundTrip {snapshot : Option InferRequestSerializationSnapshot}
    {req : InferRequest} {bytes : List UInt8} (h : req.InRange)
    (hsnap : ∀ snap ∈ snapshot, snap.InRange)
    (hkv : (sentSnapshot snapshot req).kvCachedTokenNum < 2 ^ 31)
    (hwrite : serializeInferRequest api snapshot req = .ok bytes) :
    Reads (deserializeInferRequest api) bytes (transmittedRequest api snapshot req) := by
  have hsent := sentSnapshot_inRange h hsnap
  unfold serializeInferRequest at hwrite
  dsimp only at hwrite
  obtain ⟨embedding, hembedding, hwrite⟩ := bind_ok hwrite
  obtain ⟨generatorConfig, hconfig, hwrite⟩ := bind_ok hwrite
  obtain rfl := Except.ok.inj hwrite
  have hdraft := hsent.sizes (sentSnapshot snapshot req).forwardingTokensDraftNum (by simp)
  apply Reads.next (api.int64.reads _ (h.int64s req.reqId (by simp)))
  apply Reads.next (api.size.reads _ (h.sizes req.logitsCustomLength (by simp)))
  apply Reads.next (api.size.reads _ (hsent.sizes _ List.mem_cons_self))
  apply Reads.next (api.size.reads _ (h.sizes req.lastStepTokenNum (by simp)))
  apply Reads.next (api.int32Vector.reads _ (h.vectors req.inputTokens (by simp)))
  apply Reads.next (api.int64.reads _ (h.int64s req.mrotaryEmbeddingPosOffset (by simp)))
  apply Reads.next (api.int64.reads _ (h.int64s req.xdrotaryEmbeddingPosOffset (by simp)))
  apply Reads.next (api.int32Vector.reads _ (h.vectors req.outputTokens (by simp)))
  apply Reads.next (api.int32Vector.reads _ (h.vectors req.draftTokens.mtp (by simp)))
  apply Reads.next (api.int32Vector.reads _ (h.vectors req.draftTokens.spec (by simp)))
  apply Reads.next (api.int32Vector.reads _ (h.vectors req.draftTokens.ptp (by simp)))
  apply Reads.next (api.int32Vector.reads _ (h.vectors req.acceptedTokens (by simp)))
  apply Reads.next (api.int64.reads _ (isInt64_int64OfSize _))
  apply Reads.next (api.int32Vector.reads _ (h.vectors req.generatedTokens (by simp)))
  apply Reads.next (api.size.reads _ h.requestTarget.1)
  have htargets : Reads (readMany (deserializeRequestTarget api) req.requestTarget.length)
      (req.requestTarget.flatMap (serializeRequestTarget api)) (req.requestTarget.map id) :=
    reads_flatMap fun entry hentry => requestTarget_roundTrip api (h.requestTarget.2 entry hentry)
  rw [List.map_id] at htargets
  apply Reads.next htargets
  apply Reads.next (samplingConfig_roundTrip api h.samplingConfig)
  apply Reads.next (api.uint32.reads _ (h.groupIds req.attnDpGroupId (by simp)))
  apply Reads.next (api.string.reads _ (h.strings req.kvCommGroupKey (by simp)))
  apply Reads.next (api.int32Vector.reads _
    (hsent.vectors (sentSnapshot snapshot req).forwardingTokens (by simp)))
  apply Reads.next (api.int32Vector.reads _ (h.vectors req.samplingResultTokens (by simp)))
  apply Reads.next (api.inferStage.reads req.inferStage trivial)
  apply Reads.next (api.forwardStepKind.reads _ trivial)
  apply Reads.next (api.int32.reads _ (hsent.int32s (sentSnapshot snapshot req).step (by simp)))
  apply Reads.next (api.int32.reads _ (isInt32_int32OfSize _))
  apply Reads.next (api.bool.reads req.pdV2.kvFromRemote trivial)
  apply Reads.next (api.int32Vector.reads _
    (hsent.vectors (sentSnapshot snapshot req).kvCacheBlocks (by simp)))
  apply Reads.next (api.int32Vector.reads _
    (hsent.vectors (sentSnapshot snapshot req).swaKvCacheBlocks (by simp)))
  apply Reads.next (api.sizeVector.reads _ hsent.swaKvCacheBlockIdxOffsets)
  apply Reads.next (api.size.reads _ (h.sizes req.blockTokenNum (by simp)))
  apply Reads.next (api.size.reads _ (h.sizes req.logitsOffset (by simp)))
  apply Reads.next (api.int32.reads _
    (hsent.int32s (sentSnapshot snapshot req).prefixCacheLen (by simp)))
  apply Reads.next (api.string.reads _ (h.strings req.incrementalDecodedStr (by simp)))
  apply Reads.next (Reads.optional {} hembedding fun _ hslice =>
    embeddingSlice_roundTrip api h.inputRefitEmbedding hslice)
  apply Reads.next (api.bool.reads req.needRecreateGenerator trivial)
  have hgenerator := Reads.optional api.defaultGeneratorConfig hconfig fun _ hwritten =>
    (structuredGeneratorConfig_roundTrip api h.structuredGeneratorConfig).congr
      (Except.ok.inj hwritten) rfl
  apply Reads.next hgenerator
  apply Reads.next (api.size.reads _ h.decodeTargets.1)
  have hdecode : Reads (readMany (deserializeDecodeTarget api) req.pdV2.decodeTargets.length)
      (req.pdV2.decodeTargets.flatMap (serializeDecodeTarget api))
      (req.pdV2.decodeTargets.map id) :=
    reads_flatMap fun target htarget =>
      decodeTarget_roundTrip api (h.decodeTargets.2 target htarget)
  rw [List.map_id] at hdecode
  apply Reads.next hdecode
  apply Reads.next (api.string.reads _ (h.strings req.pdV2.decodeEngineInferenceAddr (by simp)))
  apply Reads.next (api.uint32.reads _ (h.groupIds req.pdV2.decodeAttnDpGroupId (by simp)))
  apply Reads.done
  rw [sizeOfInt_int64OfSize hdraft, sizeOfInt_int32OfSize hkv,
    foldl_emplaceTarget [] _ h.targetNames, List.nil_append, transmittedRequest]

theorem inferRequests_roundTrip (target : List ExecutorInferRequest)
    {snapshots : SerializationSnapshots} {reqs : List InferRequest} {bytes : List UInt8}
    (hsize : IsSize reqs.length)
    (h : ∀ req ∈ reqs, req.InRange ∧ (∀ snap ∈ snapshots.lookup req.reqId, snap.InRange) ∧
      (sentSnapshot (snapshots.lookup req.reqId) req).kvCachedTokenNum < 2 ^ 31)
    (hwrite : serializeInferRequests api snapshots reqs = .ok bytes) :
    Reads (deserializeInferRequests api target) bytes
      (target ++ reqs.map fun req => transmittedRequest api (snapshots.lookup req.reqId) req) := by
  obtain ⟨written, hwritten, hwrite⟩ := bind_ok hwrite
  obtain rfl := Except.ok.inj hwrite
  apply Reads.next (api.size.reads _ hsize)
  apply Reads.next (reads_mapM hwritten h fun req bytes hreq hone =>
    inferRequest_roundTrip api hreq.1 hreq.2.1 hreq.2.2 hone)
  exact Reads.done rfl

theorem patches_roundTrip (target : List InferRequestPatch) {patches : List InferRequestPatch}
    (h : IsVector InferRequestPatch.InRange patches) :
    Reads (deserializeInferRequestPatches api target) (serializeInferRequestPatches api patches)
      (target ++ patches) := by
  apply Reads.next (api.size.reads _ h.1)
  have hloop : Reads (readMany (deserializeInferRequestPatch api) patches.length)
      (patches.flatMap (serializeInferRequestPatch api)) (patches.map id) :=
    reads_flatMap fun patch hpatch => patch_roundTrip api (h.2 patch hpatch)
  rw [List.map_id] at hloop
  apply Reads.next hloop
  exact Reads.done rfl

theorem patchRunningReqs_inRange {output : ScheduleOutput} (h : output.InRange) :
    IsVector InferRequestPatch.InRange output.patchRunningReqs := by
  unfold ScheduleOutput.patchRunningReqs
  constructor
  · rw [List.length_map]
    exact (List.length_filter_le _ _).trans_lt h.runningReqs.1
  · intro patch hpatch
    obtain ⟨req, hreq, rfl⟩ := List.mem_map.mp hpatch
    have hmem := List.mem_of_mem_filter hreq
    exact buildPatch_inRange (h.runningReqs.2 req hmem) (h.snapshots req hmem)

variable {output : ScheduleOutput} {hasScheduleProcessor : Bool} {bytes : List UInt8}

/-- A written schedule output carries its full requests and its patches. -/
theorem contents_roundTrip (hrange : output.InRange)
    (hkv : ∀ req ∈ output.runningReqs,
      (sentSnapshot (output.snapshotOf req) req).kvCachedTokenNum < 2 ^ 31)
    (hwrite : serializeScheduleOutput api hasScheduleProcessor output = .ok bytes) :
    Reads (readContents api) bytes (output.contents api) := by
  obtain ⟨-, hwrite⟩ := check_bind_ok hwrite
  obtain ⟨fullReqs, hfull, hwrite⟩ := bind_ok hwrite
  obtain rfl := Except.ok.inj hwrite
  have hsize : IsSize output.fullRunningReqs.length :=
    (List.length_filter_le _ _).trans_lt hrange.runningReqs.1
  have hreqs := inferRequests_roundTrip api [] hsize
    (fun req hreq => by
      have hmem := List.mem_of_mem_filter hreq
      exact ⟨hrange.runningReqs.2 req hmem, hrange.snapshots req hmem, hkv req hmem⟩) hfull
  have hpatches := patches_roundTrip api [] (patchRunningReqs_inRange hrange)
  apply Reads.next (api.size.reads _ hrange.scheduleId)
  apply Reads.next (api.bool.reads output.enableProfileMetrics trivial)
  apply Reads.next (api.int64.reads _ hrange.scheduleDispatchTimeNs)
  apply Reads.next (api.int64Matrix.reads _ hrange.finishReqIds)
  apply Reads.next (api.int64Matrix.reads _ hrange.recomputeReqIds)
  apply Reads.next (api.int64Vector.reads _ hrange.liveReqIds)
  apply Reads.next hreqs
  apply Reads.next hpatches
  exact Reads.done rfl

theorem freshScheduleOutput_hasNoIds : (freshScheduleOutput api).HasNoIds := ⟨rfl, rfl, rfl⟩

/-- A worker that deserializes a written schedule output consumes exactly its bytes and gets
every full request with its transmitted values, every patch as it was built, and the ids. -/
theorem scheduleOutput_roundTrip (hrange : output.InRange)
    (hkv : ∀ req ∈ output.runningReqs,
      (sentSnapshot (output.snapshotOf req) req).kvCachedTokenNum < 2 ^ 31)
    (hwrite : serializeScheduleOutput api hasScheduleProcessor output = .ok bytes) :
    ∃ received, Reads (deserializeScheduleOutput api (freshScheduleOutput api)) bytes received ∧
      received.executorRunningReqs = output.fullRunningReqs.map (fun req =>
        transmittedRequest api (output.snapshotOf req) req) ∧
      received.runningReqPatches = output.patchRunningReqs ∧
      received.scheduleId = output.scheduleId ∧
      received.finishReqIds = output.finishReqIds ∧
      received.recomputeReqIds = output.recomputeReqIds ∧
      received.liveReqIds = output.liveReqIds ∧
      List.Forall₂ (fun req => ReceivedRequest (output.snapshotOf req) req)
        (output.runningReqs.filter fun req => !output.transfersPatch req)
        received.executorRunningReqs ∧
      List.Forall₂ (fun req => ReceivedPatch (output.snapshotOf req) req)
        (output.runningReqs.filter fun req => output.transfersPatch req)
        received.runningReqPatches := by
  have hcontents := contents_roundTrip api hrange hkv hwrite
  refine ⟨(freshScheduleOutput api).store api (output.contents api), ?_, ?_⟩
  · rw [deserialize_eq api (freshScheduleOutput_hasNoIds api)]
    exact hcontents.map ((freshScheduleOutput api).store api)
  · refine ⟨rfl, rfl, rfl, rfl, rfl, rfl, ?_, ?_⟩
    · apply List.forall₂_map_right_iff.mpr
      apply List.forall₂_same.mpr
      intro req _
      exact transmittedRequest_received api _ req
    · apply List.forall₂_map_right_iff.mpr
      apply List.forall₂_same.mpr
      intro req _
      exact buildPatch_received _ req

end RoundTrip

/-- A prefill with a snapshot and every optional part, a decode without one, and a patch. -/
def mixedOutput : ScheduleOutput where
  scheduleId := 7
  finishReqIds := [[4, 5], []]
  recomputeReqIds := [[2]]
  liveReqIds := [1, 2, 3]
  runningReqs :=
    [ { reqId := 1
        inputTokens := [11, 12]
        forwardingTokens := [11, 12, kFastPathPlaceholderTokenId]
        requestTarget := [([108], ⟨[], [11], [(0, -1)], ⟨1⟩, 5⟩)]
        inputRefitEmbedding :=
          { pos := [0], embeddingTensors := [⟨.host, ⟨3⟩, [2], [170, 187]⟩] }
        needRecreateGenerator := true
        structuredGeneratorConfig := { constraintType := ⟨1⟩, constraintSpec := [123, 125] }
        pdV2 := { decodeTargets := [⟨1, 4096, [8, 9]⟩], decodeEngineInferenceAddr := [58] } },
      { reqId := 2, inferStage := .decode, forwardingTokens := [21, 22], kvCachedTokenNum := 1 },
      { reqId := 3, inferStage := .decode, forwardingTokens := [31], patchTransfer := true } ]
  reqSerializationSnapshots :=
    ((∅ : SerializationSnapshots).insert 1
      { forwardingTokens := [11, 12], samplingTokenNum := 1, step := 1 }).insert 3
      { forwardingTokens := [31, kFastPathPlaceholderTokenId]
        placeholderOffsetInSnapshot := some 1
        kvCachedTokenNum := 1
        samplingTokenNum := 1
        forwardStepKind := .decode
        patchTransfer := true
        patchTransferPopulated := true }

theorem mixedOutput_inRange : mixedOutput.InRange := by decide

/-- The three requests as a worker has them: the first without the placeholder that the live
request got later, the third with the offset its snapshot recorded. -/
theorem scheduleOutput_roundTrip_sample :
    ∃ bytes, serializeScheduleOutput littleEndian true mixedOutput = .ok bytes ∧
    ∃ received,
      Reads (deserializeScheduleOutput littleEndian (freshScheduleOutput littleEndian)) bytes
        received ∧
      received.executorRunningReqs =
        [ { reqId := 1
            samplingTokenNum := 1
            inputTokens := [11, 12]
            forwardingTokens := [11, 12]
            requestTarget := [([108], ⟨[], [11], [(0, -1)], ⟨1⟩, 5⟩)]
            inputRefitEmbedding :=
              { pos := [0], embeddingTensors := [⟨.host, ⟨3⟩, [2], [170, 187]⟩] }
            needCreateGenerator := true
            structuredGeneratorConfig := { constraintType := ⟨1⟩, constraintSpec := [123, 125] }
            pdV2DecodeTargets := [⟨1, 4096, [8, 9]⟩]
            pdV2DecodeEngineInferenceAddr := [58]
            step := 1 },
          { reqId := 2
            inferStage := .decode
            forwardingTokens := [21, 22]
            structuredGeneratorConfig := littleEndian.defaultGeneratorConfig
            kvCachedTokenNum := 1 } ] ∧
      received.runningReqPatches =
        [ { reqId := 3
            inferStage := .decode
            deltaForwardingTokens := [31, kFastPathPlaceholderTokenId]
            launchPlaceholderOffset := some 1
            kvCachedTokenNum := 1
            samplingTokenNum := 1
            forwardStepKind := .decode } ] ∧
      received.scheduleId = 7 ∧ received.finishReqIds = [[4, 5], []] ∧
      received.recomputeReqIds = [[2]] ∧ received.liveReqIds = [1, 2, 3] := by
  have hok : ∃ bytes, serializeScheduleOutput littleEndian true mixedOutput = .ok bytes := ⟨_, rfl⟩
  obtain ⟨bytes, hwrite⟩ := hok
  obtain ⟨received, hreads, hfull, hpatches, hid, hfinish, hrecompute, hlive, -⟩ :=
    scheduleOutput_roundTrip littleEndian mixedOutput_inRange (by decide) hwrite
  refine ⟨bytes, hwrite, received, hreads, ?_, ?_, hid, hfinish, hrecompute, hlive⟩
  · rw [hfull]
    rfl
  · rw [hpatches]
    rfl

end KsanaBuildAhead.Runtime
