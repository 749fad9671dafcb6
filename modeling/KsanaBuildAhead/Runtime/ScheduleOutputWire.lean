import KsanaBuildAhead.Lib.TypedWire
import KsanaBuildAhead.Runtime.ScheduleOutput

/-!
# The bytes of a schedule output

How the Engine writes a schedule output and how a worker reads it back, field
by field in the order of the sources. The primitives that write one pod, enum,
string or vector are declared elsewhere and enter as wires.
-/
namespace KsanaBuildAhead.Runtime

open Lib.TypedWire

abbrev IsInt32 (v : Int) : Prop := -2 ^ 31 ≤ v ∧ v < 2 ^ 31

abbrev IsInt64 (v : Int) : Prop := -2 ^ 63 ≤ v ∧ v < 2 ^ 63

abbrev IsUInt32 (n : Nat) : Prop := n < 2 ^ 32

abbrev IsSize (n : Nat) : Prop := n < 2 ^ 64

abbrev IsVector {α : Type} (IsElement : α → Prop) (xs : List α) : Prop :=
  IsSize xs.length ∧ ∀ x ∈ xs, IsElement x

abbrev IsString (s : List UInt8) : Prop := IsSize s.length

/-- A `size_t` stored into an `int`. -/
def int32OfSize (n : Nat) : Int := (n : Int).bmod (2 ^ 32)

/-- A `size_t` stored into an `int64_t`. -/
def int64OfSize (n : Nat) : Int := (n : Int).bmod (2 ^ 64)

/-- A signed integer stored into a `size_t`. -/
def sizeOfInt (v : Int) : Nat := (v % 2 ^ 64).toNat

/-- `SIZE_MAX`, the offset of a step without a placeholder. -/
def kSizeMax : Nat := 2 ^ 64 - 1

def sizeOfOffset (offset : Option Nat) : Nat := offset.getD kSizeMax

def offsetOfSize (n : Nat) : Option Nat := if n = kSizeMax then none else some n

/-- The serialization primitives and the declarations they come with. A vector primitive is
only known to read back what was written when it stores into an empty vector. -/
structure SerializationApi where
  int32 : Wire Int IsInt32
  int64 : Wire Int IsInt64
  uint32 : Wire Nat IsUInt32
  uint64 : Wire Nat IsSize
  size : Wire Nat IsSize
  bool : Wire Bool fun _ => True
  float : Wire UInt32 fun _ => True
  inferStage : Wire InferStage fun _ => True
  forwardStepKind : Wire ForwardStepKind fun _ => True
  tokenReduceMode : Wire TokenReduceMode fun mode => IsInt32 mode.code
  structuredConstraintType : Wire StructuredConstraintType fun type => IsInt32 type.code
  string : Wire (List UInt8) IsString
  int32Vector : Wire (List Int) (IsVector IsInt32)
  sizeVector : Wire (List Nat) (IsVector IsSize)
  stringVector : Wire (List (List UInt8)) (IsVector IsString)
  slicePosVector : Wire (List (Int × Int)) (IsVector fun slice => IsInt32 slice.1 ∧ IsInt32 slice.2)
  floatMatrix : Wire (List (List UInt32)) (IsVector (IsVector fun _ => True))
  int64Vector : Wire (List Int) (IsVector IsInt64)
  int64Matrix : Wire (List (List Int)) (IsVector (IsVector IsInt64))
  int64VectorInto : List Int → Reader (List Int)
  int64MatrixInto : List (List Int) → Reader (List (List Int))
  int64VectorInto_nil : int64VectorInto [] = int64Vector.decode
  int64MatrixInto_nil : int64MatrixInto [] = int64Matrix.decode
  hasConstraint : StructuredGeneratorConfig → Bool
  defaultGeneratorConfig : StructuredGeneratorConfig
  defaultScheduleId : Nat

variable (api : SerializationApi)

def serializeTensor (tensor : Tensor) : Except String (List UInt8) := do
  check (tensor.location = .host) "Only supports serializing host tensor."
  .ok [ api.sizeVector.encode tensor.shape,
        api.int32.encode tensor.dtype.code,
        api.size.encode tensor.bytes.length,
        tensor.bytes ].flatten

def deserializeTensor : Reader Tensor := do
  let shape ← api.sizeVector.decode
  let dtypeValue ← api.int32.decode
  let dataSize ← api.size.decode
  let bytes ← takeBytes dataSize
  pure { location := .host, dtype := ⟨dtypeValue⟩, shape := shape, bytes := bytes }

def serializeVectorOfTensor (tensors : List Tensor) : Except String (List UInt8) := do
  let written ← tensors.mapM (serializeTensor api)
  .ok [api.size.encode tensors.length, written.flatten].flatten

def deserializeVectorOfTensor : Reader (List Tensor) := do
  let nums ← api.size.decode
  readMany (deserializeTensor api) nums

def serializeEmbeddingSlice (slice : EmbeddingSlice) : Except String (List UInt8) := do
  let embeddingTensors ← serializeVectorOfTensor api slice.embeddingTensors
  let additionalTensors ← serializeVectorOfTensor api slice.additionalTensors
  .ok [ api.int32Vector.encode slice.pos,
        api.floatMatrix.encode slice.embeddings,
        embeddingTensors,
        additionalTensors ].flatten

def deserializeEmbeddingSlice : Reader EmbeddingSlice := do
  let pos ← api.int32Vector.decode
  let embeddings ← api.floatMatrix.decode
  let embeddingTensors ← deserializeVectorOfTensor api
  let additionalTensors ← deserializeVectorOfTensor api
  pure {
    pos := pos
    embeddings := embeddings
    embeddingTensors := embeddingTensors
    additionalTensors := additionalTensors }

def serializeSamplingConfig (config : SamplingConfig) : List UInt8 :=
  [ api.int32.encode config.topk,
    api.int32.encode config.numBeams,
    api.int32.encode config.numReturnSequences,
    api.float.encode config.topp,
    api.float.encode config.temperature,
    api.float.encode config.repetitionPenalty,
    api.float.encode config.lengthPenalty,
    api.int32Vector.encode config.stopTokenIds,
    api.bool.encode config.ignoreEos,
    api.int32.encode config.maxNewTokens,
    api.int32.encode config.logprobsNum,
    api.int32.encode config.noRepeatNgramSize,
    api.int32.encode config.encoderNoRepeatNgramSize,
    api.int32.encode config.decoderNoRepeatNgramSize,
    api.stringVector.encode config.stopStrings,
    api.string.encode config.jsonSchema,
    api.bool.encode config.enableStructuredOutput,
    api.bool.encode config.enableThinking,
    api.int32.encode config.ptpTokenNum ].flatten

def deserializeSamplingConfig : Reader SamplingConfig := do
  let topk ← api.int32.decode
  let numBeams ← api.int32.decode
  let numReturnSequences ← api.int32.decode
  let topp ← api.float.decode
  let temperature ← api.float.decode
  let repetitionPenalty ← api.float.decode
  let lengthPenalty ← api.float.decode
  let stopTokenIds ← api.int32Vector.decode
  let ignoreEos ← api.bool.decode
  let maxNewTokens ← api.int32.decode
  let logprobsNum ← api.int32.decode
  let noRepeatNgramSize ← api.int32.decode
  let encoderNoRepeatNgramSize ← api.int32.decode
  let decoderNoRepeatNgramSize ← api.int32.decode
  let stopStrings ← api.stringVector.decode
  let jsonSchema ← api.string.decode
  let enableStructuredOutput ← api.bool.decode
  let enableThinking ← api.bool.decode
  let ptpTokenNum ← api.int32.decode
  pure {
    topk := topk
    numBeams := numBeams
    numReturnSequences := numReturnSequences
    topp := topp
    temperature := temperature
    repetitionPenalty := repetitionPenalty
    lengthPenalty := lengthPenalty
    stopTokenIds := stopTokenIds
    ignoreEos := ignoreEos
    maxNewTokens := maxNewTokens
    logprobsNum := logprobsNum
    noRepeatNgramSize := noRepeatNgramSize
    encoderNoRepeatNgramSize := encoderNoRepeatNgramSize
    decoderNoRepeatNgramSize := decoderNoRepeatNgramSize
    stopStrings := stopStrings
    jsonSchema := jsonSchema
    enableStructuredOutput := enableStructuredOutput
    enableThinking := enableThinking
    ptpTokenNum := ptpTokenNum }

def serializeStructuredGeneratorConfig (config : StructuredGeneratorConfig) : List UInt8 :=
  [ api.structuredConstraintType.encode config.constraintType,
    api.string.encode config.constraintSpec ].flatten

def deserializeStructuredGeneratorConfig : Reader StructuredGeneratorConfig := do
  let constraintType ← api.structuredConstraintType.decode
  let constraintSpec ← api.string.decode
  pure { constraintType := constraintType, constraintSpec := constraintSpec }

def serializeRequestTarget (entry : List UInt8 × TargetDescribe) : List UInt8 :=
  [ api.string.encode entry.1,
    api.int32Vector.encode entry.2.cutoffLayer,
    api.int32Vector.encode entry.2.tokenId,
    api.slicePosVector.encode entry.2.slicePos,
    api.tokenReduceMode.encode entry.2.tokenReduceMode,
    api.int32.encode entry.2.inputTopLogprobsNum ].flatten

def deserializeRequestTarget : Reader (List UInt8 × TargetDescribe) := do
  let target ← api.string.decode
  let cutoffLayer ← api.int32Vector.decode
  let tokenId ← api.int32Vector.decode
  let slicePos ← api.slicePosVector.decode
  let tokenReduceMode ← api.tokenReduceMode.decode
  let inputTopLogprobsNum ← api.int32.decode
  pure (target, {
    cutoffLayer := cutoffLayer
    tokenId := tokenId
    slicePos := slicePos
    tokenReduceMode := tokenReduceMode
    inputTopLogprobsNum := inputTopLogprobsNum })

/-- Enter a target unless its name is there already. -/
def emplaceTarget (targets : List (List UInt8 × TargetDescribe))
    (entry : List UInt8 × TargetDescribe) : List (List UInt8 × TargetDescribe) :=
  if entry.1 ∈ targets.map Prod.fst then targets else targets ++ [entry]

def serializeDecodeTarget (target : DecodeTargetLite) : List UInt8 :=
  [ api.uint32.encode target.decodeAttnTpRankInGroup,
    api.uint64.encode target.kvPoolBaseVa,
    api.int32Vector.encode target.kvBlockIds ].flatten

def deserializeDecodeTarget : Reader DecodeTargetLite := do
  let decodeAttnTpRankInGroup ← api.uint32.decode
  let kvPoolBaseVa ← api.uint64.decode
  let kvBlockIds ← api.int32Vector.decode
  pure {
    decodeAttnTpRankInGroup := decodeAttnTpRankInGroup
    kvPoolBaseVa := kvPoolBaseVa
    kvBlockIds := kvBlockIds }

/-- One request in full: the fields a later launch may change from the snapshot if there is
one, the others from the live request. -/
def serializeInferRequest (snapshot : Option InferRequestSerializationSnapshot)
    (req : InferRequest) : Except String (List UInt8) := do
  let sent := sentSnapshot snapshot req
  let embedding ←
    writeIf (req.inferStage = .context) (serializeEmbeddingSlice api req.inputRefitEmbedding)
  let generatorConfig ←
    writeIf (req.needRecreateGenerator = true)
      (.ok (serializeStructuredGeneratorConfig api req.structuredGeneratorConfig))
  .ok [ api.int64.encode req.reqId,
        api.size.encode req.logitsCustomLength,
        api.size.encode sent.samplingTokenNum,
        api.size.encode req.lastStepTokenNum,
        api.int32Vector.encode req.inputTokens,
        api.int64.encode req.mrotaryEmbeddingPosOffset,
        api.int64.encode req.xdrotaryEmbeddingPosOffset,
        api.int32Vector.encode req.outputTokens,
        api.int32Vector.encode req.draftTokens.mtp,
        api.int32Vector.encode req.draftTokens.spec,
        api.int32Vector.encode req.draftTokens.ptp,
        api.int32Vector.encode req.acceptedTokens,
        api.int64.encode (int64OfSize sent.forwardingTokensDraftNum),
        api.int32Vector.encode req.generatedTokens,
        api.size.encode req.requestTarget.length,
        req.requestTarget.flatMap (serializeRequestTarget api),
        serializeSamplingConfig api req.samplingConfig,
        api.uint32.encode req.attnDpGroupId,
        api.string.encode req.kvCommGroupKey,
        api.int32Vector.encode sent.forwardingTokens,
        api.int32Vector.encode req.samplingResultTokens,
        api.inferStage.encode req.inferStage,
        api.forwardStepKind.encode sent.forwardStepKind,
        api.int32.encode sent.step,
        api.int32.encode (int32OfSize sent.kvCachedTokenNum),
        api.bool.encode req.pdV2.kvFromRemote,
        api.int32Vector.encode sent.kvCacheBlocks,
        api.int32Vector.encode sent.swaKvCacheBlocks,
        api.sizeVector.encode sent.swaKvCacheBlockIdxOffsets,
        api.size.encode req.blockTokenNum,
        api.size.encode req.logitsOffset,
        api.int32.encode sent.prefixCacheLen,
        api.string.encode req.incrementalDecodedStr,
        embedding,
        api.bool.encode req.needRecreateGenerator,
        generatorConfig,
        api.size.encode req.pdV2.decodeTargets.length,
        req.pdV2.decodeTargets.flatMap (serializeDecodeTarget api),
        api.string.encode req.pdV2.decodeEngineInferenceAddr,
        api.uint32.encode req.pdV2.decodeAttnDpGroupId ].flatten

def deserializeInferRequest : Reader ExecutorInferRequest := do
  let reqId ← api.int64.decode
  let logitsCustomLength ← api.size.decode
  let samplingTokenNum ← api.size.decode
  let lastStepTokenNum ← api.size.decode
  let inputTokens ← api.int32Vector.decode
  let mrotaryEmbeddingPosOffset ← api.int64.decode
  let xdrotaryEmbeddingPosOffset ← api.int64.decode
  let outputTokens ← api.int32Vector.decode
  let mtp ← api.int32Vector.decode
  let spec ← api.int32Vector.decode
  let ptp ← api.int32Vector.decode
  let acceptedTokens ← api.int32Vector.decode
  let forwardingTokensDraftNum ← api.int64.decode
  let generatedTokens ← api.int32Vector.decode
  let requestTargetSize ← api.size.decode
  let requestTargets ← readMany (deserializeRequestTarget api) requestTargetSize
  let samplingConfig ← deserializeSamplingConfig api
  let attnDpGroupId ← api.uint32.decode
  let kvCommGroupKey ← api.string.decode
  let forwardingTokens ← api.int32Vector.decode
  let samplingResultTokens ← api.int32Vector.decode
  let inferStage ← api.inferStage.decode
  let forwardStepKind ← api.forwardStepKind.decode
  let step ← api.int32.decode
  let kvCachedTokenNum ← api.int32.decode
  let kvFromRemote ← api.bool.decode
  let kvCacheBlocks ← api.int32Vector.decode
  let swaKvCacheBlocks ← api.int32Vector.decode
  let swaKvCacheBlockIdxOffsets ← api.sizeVector.decode
  let blockTokenNum ← api.size.decode
  let logitsOffset ← api.size.decode
  let prefixCacheLen ← api.int32.decode
  let incrementalDecodedStr ← api.string.decode
  let inputRefitEmbedding ←
    readIf (inferStage = .context) (deserializeEmbeddingSlice api) {}
  let needCreateGenerator ← api.bool.decode
  let structuredGeneratorConfig ←
    readIf (needCreateGenerator = true) (deserializeStructuredGeneratorConfig api)
      api.defaultGeneratorConfig
  let targetCount ← api.size.decode
  let decodeTargets ← readMany (deserializeDecodeTarget api) targetCount
  let decodeEngineInferenceAddr ← api.string.decode
  let decodeAttnDpGroupId ← api.uint32.decode
  pure {
    reqId := reqId
    logitsCustomLength := logitsCustomLength
    samplingTokenNum := samplingTokenNum
    lastStepTokenNum := lastStepTokenNum
    inputTokens := inputTokens
    mrotaryEmbeddingPosOffset := mrotaryEmbeddingPosOffset
    xdrotaryEmbeddingPosOffset := xdrotaryEmbeddingPosOffset
    outputTokens := outputTokens
    draftTokens := { mtp := mtp, spec := spec, ptp := ptp }
    acceptedTokens := acceptedTokens
    forwardingTokensDraftNum := sizeOfInt forwardingTokensDraftNum
    generatedTokens := generatedTokens
    requestTarget := requestTargets.foldl emplaceTarget []
    samplingConfig := samplingConfig
    attnDpGroupId := attnDpGroupId
    kvCommGroupKey := kvCommGroupKey
    forwardingTokens := forwardingTokens
    samplingResultTokens := samplingResultTokens
    inferStage := inferStage
    forwardStepKind := forwardStepKind
    step := step
    kvCachedTokenNum := sizeOfInt kvCachedTokenNum
    kvFromRemote := kvFromRemote
    kvCacheBlocks := kvCacheBlocks
    swaKvCacheBlocks := swaKvCacheBlocks
    swaKvCacheBlockIdxOffsets := swaKvCacheBlockIdxOffsets
    blockTokenNum := blockTokenNum
    logitsOffset := logitsOffset
    prefixCacheLen := prefixCacheLen
    incrementalDecodedStr := incrementalDecodedStr
    inputRefitEmbedding := inputRefitEmbedding
    needCreateGenerator := needCreateGenerator
    structuredGeneratorConfig := structuredGeneratorConfig
    pdV2DecodeTargets := decodeTargets
    pdV2DecodeEngineInferenceAddr := decodeEngineInferenceAddr
    pdV2DecodeAttnDpGroupId := decodeAttnDpGroupId }

def serializeInferRequests (snapshots : SerializationSnapshots) (reqs : List InferRequest) :
    Except String (List UInt8) := do
  let written ← reqs.mapM fun req => serializeInferRequest api (snapshots.lookup req.reqId) req
  .ok [api.size.encode reqs.length, written.flatten].flatten

/-- The requests read are put behind those already there. -/
def deserializeInferRequests (target : List ExecutorInferRequest) :
    Reader (List ExecutorInferRequest) := do
  let vecSize ← api.size.decode
  let reqs ← readMany (deserializeInferRequest api) vecSize
  pure (target ++ reqs)

def serializeInferRequestPatch (patch : InferRequestPatch) : List UInt8 :=
  [ api.int64.encode patch.reqId,
    api.int32Vector.encode patch.deltaForwardingTokens,
    api.size.encode patch.forwardingTokensOffset,
    api.size.encode patch.forwardingTokensDraftNum,
    api.size.encode patch.kvCachedTokenNum,
    api.bool.encode patch.kvFromRemote,
    api.int32.encode patch.prefixCacheLen,
    api.int32Vector.encode patch.deltaKvCacheBlocks,
    api.size.encode patch.kvCacheBlocksOffset,
    api.int32Vector.encode patch.swaKvCacheBlocks,
    api.sizeVector.encode patch.swaKvCacheBlockIdxOffsets,
    api.inferStage.encode patch.inferStage,
    api.forwardStepKind.encode patch.forwardStepKind,
    api.int32.encode patch.step,
    api.size.encode patch.samplingTokenNum,
    api.size.encode (sizeOfOffset patch.launchPlaceholderOffset) ].flatten

def deserializeInferRequestPatch : Reader InferRequestPatch := do
  let reqId ← api.int64.decode
  let deltaForwardingTokens ← api.int32Vector.decode
  let forwardingTokensOffset ← api.size.decode
  let forwardingTokensDraftNum ← api.size.decode
  let kvCachedTokenNum ← api.size.decode
  let kvFromRemote ← api.bool.decode
  let prefixCacheLen ← api.int32.decode
  let deltaKvCacheBlocks ← api.int32Vector.decode
  let kvCacheBlocksOffset ← api.size.decode
  let swaKvCacheBlocks ← api.int32Vector.decode
  let swaKvCacheBlockIdxOffsets ← api.sizeVector.decode
  let inferStage ← api.inferStage.decode
  let forwardStepKind ← api.forwardStepKind.decode
  let step ← api.int32.decode
  let samplingTokenNum ← api.size.decode
  let launchPlaceholderOffset ← api.size.decode
  pure {
    reqId := reqId
    deltaForwardingTokens := deltaForwardingTokens
    forwardingTokensOffset := forwardingTokensOffset
    forwardingTokensDraftNum := forwardingTokensDraftNum
    kvCachedTokenNum := kvCachedTokenNum
    kvFromRemote := kvFromRemote
    prefixCacheLen := prefixCacheLen
    deltaKvCacheBlocks := deltaKvCacheBlocks
    kvCacheBlocksOffset := kvCacheBlocksOffset
    swaKvCacheBlocks := swaKvCacheBlocks
    swaKvCacheBlockIdxOffsets := swaKvCacheBlockIdxOffsets
    inferStage := inferStage
    forwardStepKind := forwardStepKind
    step := step
    samplingTokenNum := samplingTokenNum
    launchPlaceholderOffset := offsetOfSize launchPlaceholderOffset }

def serializeInferRequestPatches (patches : List InferRequestPatch) : List UInt8 :=
  [ api.size.encode patches.length,
    patches.flatMap (serializeInferRequestPatch api) ].flatten

/-- The patches read are put behind those already there. -/
def deserializeInferRequestPatches (target : List InferRequestPatch) :
    Reader (List InferRequestPatch) := do
  let vecSize ← api.size.decode
  let patches ← readMany (deserializeInferRequestPatch api) vecSize
  pure (target ++ patches)

/-- Write a schedule output; the flag tells whether the schedule processor was set. -/
def serializeScheduleOutput (hasScheduleProcessor : Bool) (output : ScheduleOutput) :
    Except String (List UInt8) := do
  check (hasScheduleProcessor = true)
    "ScheduleOutputParser::schedule_processor_ is nullptr when serializing. Please call ScheduleOutputParser::SetScheduleProcessor(...) before SerializeScheduleOutput."
  let fullReqs ←
    serializeInferRequests api output.reqSerializationSnapshots output.fullRunningReqs
  .ok [ api.size.encode output.scheduleId,
        api.bool.encode output.enableProfileMetrics,
        api.int64.encode output.scheduleDispatchTimeNs,
        api.int64Matrix.encode output.finishReqIds,
        api.int64Matrix.encode output.recomputeReqIds,
        api.int64Vector.encode output.liveReqIds,
        fullReqs,
        serializeInferRequestPatches api output.patchRunningReqs ].flatten

/-- The generator configurations of the requests that are constrained, and the ids of those
that need a new generator. -/
def collectGenerators (reqs : List ExecutorInferRequest) :
    (AList fun _ : Int => StructuredGeneratorConfig) × Finset Int :=
  reqs.foldl
    (fun (configs, needCreate) req =>
      if api.hasConstraint req.structuredGeneratorConfig then
        (configs.insert req.reqId req.structuredGeneratorConfig,
          if req.needCreateGenerator then insert req.reqId needCreate else needCreate)
      else (configs, needCreate))
    (∅, ∅)

/-- Read a buffer into a schedule output that may hold data already. -/
def deserializeScheduleOutput (target : ScheduleOutput) : Reader ScheduleOutput := do
  let scheduleId ← api.size.decode
  let enableProfileMetrics ← api.bool.decode
  let scheduleDispatchTimeNs ← api.int64.decode
  let finishReqIds ← api.int64MatrixInto target.finishReqIds
  let recomputeReqIds ← api.int64MatrixInto target.recomputeReqIds
  let liveReqIds ← api.int64VectorInto target.liveReqIds
  let executorRunningReqs ← deserializeInferRequests api target.executorRunningReqs
  let runningReqPatches ← deserializeInferRequestPatches api target.runningReqPatches
  let (configs, needCreate) := collectGenerators api executorRunningReqs
  pure { target with
    scheduleId := scheduleId
    enableProfileMetrics := enableProfileMetrics
    scheduleDispatchTimeNs := scheduleDispatchTimeNs
    finishReqIds := finishReqIds
    recomputeReqIds := recomputeReqIds
    liveReqIds := liveReqIds
    executorRunningReqs := executorRunningReqs
    runningReqPatches := runningReqPatches
    structuredGeneratorConfigs := configs
    needCreateGeneratorReqIds := needCreate }

/-- A newly constructed schedule output. -/
def freshScheduleOutput : ScheduleOutput := { scheduleId := api.defaultScheduleId }

/-- A signed integer in two's complement. -/
def int32Wire : Wire Int IsInt32 :=
  (Wire.unsigned 4).via (fun v => (v % 2 ^ 32).toNat) (fun n => (n : Int).bmod (2 ^ 32)) (by
    intro v hv
    constructor
    · omega
    · rw [Int.bmod_def]
      push_cast
      split <;> omega)

def int64Wire : Wire Int IsInt64 :=
  (Wire.unsigned 8).via (fun v => (v % 2 ^ 64).toNat) (fun n => (n : Int).bmod (2 ^ 64)) (by
    intro v hv
    constructor
    · omega
    · rw [Int.bmod_def]
      push_cast
      split <;> omega)

def uint32Wire : Wire Nat IsUInt32 :=
  (Wire.unsigned 4).via id id fun _ h => ⟨h, rfl⟩

def sizeWire : Wire Nat IsSize :=
  (Wire.unsigned 8).via id id fun _ h => ⟨h, rfl⟩

def byteWire : Wire UInt8 fun _ => True :=
  (Wire.unsigned 1).via UInt8.toNat UInt8.ofNat fun byte _ =>
    ⟨byte.toNat_lt, UInt8.ofNat_toNat⟩

def stringWire : Wire (List UInt8) IsString :=
  (Wire.list sizeWire byteWire).via id id fun _ h => ⟨⟨h, fun _ _ => trivial⟩, rfl⟩

def floatWire : Wire UInt32 fun _ => True :=
  (Wire.unsigned 4).via UInt32.toNat UInt32.ofNat fun bits _ =>
    ⟨bits.toNat_lt, UInt32.ofNat_toNat⟩

/-- Little-endian pods, and vectors and strings behind their length. -/
def littleEndian : SerializationApi where
  int32 := int32Wire
  int64 := int64Wire
  uint32 := uint32Wire
  uint64 := sizeWire
  size := sizeWire
  bool := (Wire.unsigned 1).via Bool.toNat (· != 0) (by decide)
  float := floatWire
  inferStage :=
    (Wire.unsigned 1).via (fun stage => if stage = .context then 0 else 1)
      (fun n => if n = 0 then .context else .decode) (by rintro (_ | _) _ <;> decide)
  forwardStepKind :=
    (Wire.unsigned 1).via (fun kind => match kind with
      | .decode => 0
      | .prefill => 1
      | .prefillChunkMid => 2)
      (fun n => match n with
      | 0 => .decode
      | 1 => .prefill
      | _ => .prefillChunkMid) (by rintro (_ | _) _ <;> decide)
  tokenReduceMode := int32Wire.via TokenReduceMode.code TokenReduceMode.mk fun _ h => ⟨h, rfl⟩
  structuredConstraintType :=
    int32Wire.via StructuredConstraintType.code StructuredConstraintType.mk fun _ h => ⟨h, rfl⟩
  string := stringWire
  int32Vector := Wire.list sizeWire int32Wire
  sizeVector := Wire.list sizeWire sizeWire
  stringVector := Wire.list sizeWire stringWire
  slicePosVector := Wire.list sizeWire (Wire.pair int32Wire int32Wire)
  floatMatrix := Wire.list sizeWire (Wire.list sizeWire floatWire)
  int64Vector := Wire.list sizeWire int64Wire
  int64Matrix := Wire.list sizeWire (Wire.list sizeWire int64Wire)
  int64VectorInto _ := (Wire.list sizeWire int64Wire).decode
  int64MatrixInto _ := (Wire.list sizeWire (Wire.list sizeWire int64Wire)).decode
  int64VectorInto_nil := rfl
  int64MatrixInto_nil := rfl
  hasConstraint config := config.constraintType.code != 0
  defaultGeneratorConfig := {}
  defaultScheduleId := 0

end KsanaBuildAhead.Runtime
