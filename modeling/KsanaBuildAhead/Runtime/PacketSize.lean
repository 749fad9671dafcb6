import KsanaBuildAhead.Lib.WriteLog
import KsanaBuildAhead.Runtime.WireRoundTrip

/-!
# The packet of a schedule output

The Engine takes a packet of a fixed size and serializes into it without looking at the room that
is left. How many bytes that are is a sum over the lengths of the fields, up to the first tensor
that is not on the host, where the serialization stops.
-/
namespace KsanaBuildAhead.Runtime

open Lib.TypedWire Lib.WriteLog

variable (api : SerializationApi)

def vectorOfTensorPieces (tensors : List Tensor) : List (Except String (List UInt8)) :=
  .ok (api.size.encode tensors.length) :: tensors.map (serializeTensor api)

def embeddingSlicePieces (slice : EmbeddingSlice) : List (Except String (List UInt8)) :=
  .ok [api.int32Vector.encode slice.pos, api.floatMatrix.encode slice.embeddings].flatten ::
    (vectorOfTensorPieces api slice.embeddingTensors ++
      vectorOfTensorPieces api slice.additionalTensors)

/-- The fields in front of the embedding. -/
def inferRequestHead (snapshot : Option InferRequestSerializationSnapshot) (req : InferRequest) :
    List UInt8 :=
  let sent := sentSnapshot snapshot req
  [ api.int64.encode req.reqId,
    api.size.encode req.logitsCustomLength,
    api.size.encode sent.samplingTokenNum,
    api.size.encode req.lastStepTokenNum,
    api.int32Vector.encode req.inputTokens,
    api.int64.encode req.mrotaryEmbeddingPosOffset,
    api.int64.encode req.xdrotaryEmbeddingPosOffset,
    api.int32Vector.encode req.outputTokens,
    api.int32Vector.encode req.draftTokens.mtp,
    api.int32Vector.encode req.draftTokens.spec,
    api.int32Vector.encode req.draftTokens.ptp,
    api.int32Vector.encode req.acceptedTokens,
    api.int64.encode (int64OfSize sent.forwardingTokensDraftNum),
    api.int32Vector.encode req.generatedTokens,
    api.size.encode req.requestTarget.length,
    req.requestTarget.flatMap (serializeRequestTarget api),
    serializeSamplingConfig api req.samplingConfig,
    api.uint32.encode req.attnDpGroupId,
    api.string.encode req.kvCommGroupKey,
    api.int32Vector.encode sent.forwardingTokens,
    api.int32Vector.encode req.samplingResultTokens,
    api.inferStage.encode req.inferStage,
    api.forwardStepKind.encode sent.forwardStepKind,
    api.int32.encode sent.step,
    api.int32.encode (int32OfSize sent.kvCachedTokenNum),
    api.bool.encode req.pdV2.kvFromRemote,
    api.int32Vector.encode sent.kvCacheBlocks,
    api.int32Vector.encode sent.swaKvCacheBlocks,
    api.sizeVector.encode sent.swaKvCacheBlockIdxOffsets,
    api.size.encode req.blockTokenNum,
    api.size.encode req.logitsOffset,
    api.int32.encode sent.prefixCacheLen,
    api.string.encode req.incrementalDecodedStr ].flatten

/-- The fields behind it. -/
def inferRequestTail (req : InferRequest) : List UInt8 :=
  [ api.bool.encode req.needRecreateGenerator,
    if req.needRecreateGenerator = true then
      serializeStructuredGeneratorConfig api req.structuredGeneratorConfig
    else [],
    api.size.encode req.pdV2.decodeTargets.length,
    req.pdV2.decodeTargets.flatMap (serializeDecodeTarget api),
    api.string.encode req.pdV2.decodeEngineInferenceAddr,
    api.uint32.encode req.pdV2.decodeAttnDpGroupId ].flatten

def inferRequestPieces (snapshot : Option InferRequestSerializationSnapshot)
    (req : InferRequest) : List (Except String (List UInt8)) :=
  .ok (inferRequestHead api snapshot req) ::
    ((if req.inferStage = .context then embeddingSlicePieces api req.inputRefitEmbedding else []) ++
      [.ok (inferRequestTail api req)])

def scheduleOutputPieces (output : ScheduleOutput) : List (Except String (List UInt8)) :=
  .ok [ api.size.encode output.scheduleId,
        api.bool.encode output.enableProfileMetrics,
        api.int64.encode output.scheduleDispatchTimeNs,
        api.int64Matrix.encode output.finishReqIds,
        api.int64Matrix.encode output.recomputeReqIds,
        api.int64Vector.encode output.liveReqIds,
        api.size.encode output.fullRunningReqs.length ].flatten ::
    (output.fullRunningReqs.flatMap (fun req =>
      inferRequestPieces api (output.reqSerializationSnapshots.lookup req.reqId) req) ++
      [.ok (serializeInferRequestPatches api output.patchRunningReqs)])

/-- Large enough, as the source has it, whatever is in the output. -/
def getSerializedSize (_ : ScheduleOutput) : Nat := 64 * 1024 * 1024

/-- What a call has done: the room of the packet's body, what was copied to its start and
behind, and the size of the packet that is put into the queue. -/
structure PutSend where
  capacity : Nat
  copied : List UInt8 := []
  sent : Except String Nat
deriving DecidableEq

/-- `allocates` says whether `GetRawPacket` finds the memory. -/
def putSendScheduleOutput (allocates hasScheduleProcessor : Bool) (output : ScheduleOutput) :
    PutSend :=
  let capacity := getSerializedSize output
  if allocates = false then
    { capacity, sent := .error "ScheduleOutputPool::PutToSendQueue allocate memory error." }
  else if hasScheduleProcessor = false then
    { capacity, sent := .error
        "ScheduleOutputParser::schedule_processor_ is nullptr when serializing. Please call ScheduleOutputParser::SetScheduleProcessor(...) before SerializeScheduleOutput." }
  else
    { capacity
      copied := written (scheduleOutputPieces api output)
      sent := (result (scheduleOutputPieces api output)).map List.length }

theorem result_vectorOfTensorPieces (tensors : List Tensor) :
    result (vectorOfTensorPieces api tensors) = serializeVectorOfTensor api tensors := by
  unfold vectorOfTensorPieces serializeVectorOfTensor
  rw [result, result_map]
  cases tensors.mapM (serializeTensor api) with
  | error e => rfl
  | ok written => simp [Except.map, bind, Except.bind]

theorem result_embeddingSlicePieces (slice : EmbeddingSlice) :
    result (embeddingSlicePieces api slice) = serializeEmbeddingSlice api slice := by
  unfold embeddingSlicePieces serializeEmbeddingSlice
  rw [result, result_append, result_vectorOfTensorPieces, result_vectorOfTensorPieces]
  cases serializeVectorOfTensor api slice.embeddingTensors with
  | error e => rfl
  | ok embeddings =>
    cases serializeVectorOfTensor api slice.additionalTensors with
    | error e => rfl
    | ok additional => simp [Except.map, bind, Except.bind]

theorem result_inferRequestPieces (snapshot : Option InferRequestSerializationSnapshot)
    (req : InferRequest) :
    result (inferRequestPieces api snapshot req) = serializeInferRequest api snapshot req := by
  have hembedding : result
      (if req.inferStage = .context then embeddingSlicePieces api req.inputRefitEmbedding else []) =
        writeIf (req.inferStage = .context)
          (serializeEmbeddingSlice api req.inputRefitEmbedding) := by
    unfold writeIf
    split
    · exact result_embeddingSlicePieces api req.inputRefitEmbedding
    · rfl
  have hgenerator : writeIf (req.needRecreateGenerator = true)
      (.ok (serializeStructuredGeneratorConfig api req.structuredGeneratorConfig)) =
        (.ok (if req.needRecreateGenerator = true then
          serializeStructuredGeneratorConfig api req.structuredGeneratorConfig else []) :
            Except String (List UInt8)) := by
    unfold writeIf
    split <;> rfl
  unfold inferRequestPieces serializeInferRequest
  rw [result, result_append, hembedding, result_singleton]
  cases writeIf (req.inferStage = .context)
      (serializeEmbeddingSlice api req.inputRefitEmbedding) with
  | error e => rfl
  | ok embedding =>
    rw [hgenerator]
    simp [Except.map, bind, Except.bind, inferRequestHead, inferRequestTail]

/-- Without an error the pieces are the bytes of the serialization; otherwise the errors agree. -/
theorem result_scheduleOutputPieces (output : ScheduleOutput) :
    result (scheduleOutputPieces api output) = serializeScheduleOutput api true output := by
  unfold scheduleOutputPieces serializeScheduleOutput serializeInferRequests
  rw [result, result_append, result_flatMap, result_singleton, check_bind_of_true _ _ rfl]
  simp only [result_inferRequestPieces]
  cases output.fullRunningReqs.mapM fun req =>
      serializeInferRequest api (output.reqSerializationSnapshots.lookup req.reqId) req with
  | error e => rfl
  | ok reqs => simp [Except.map, bind, Except.bind]

theorem putSendScheduleOutput_sent (hasScheduleProcessor : Bool) (output : ScheduleOutput) :
    (putSendScheduleOutput api true hasScheduleProcessor output).sent =
      (serializeScheduleOutput api hasScheduleProcessor output).map List.length := by
  cases hasScheduleProcessor with
  | false => rfl
  | true => exact congrArg (Except.map List.length) (result_scheduleOutputPieces api output)

/-- What an output without an error leaves in the packet is its serialization. -/
theorem putSendScheduleOutput_copied {output : ScheduleOutput} {bytes : List UInt8}
    (h : serializeScheduleOutput api true output = .ok bytes) :
    (putSendScheduleOutput api true true output).copied = bytes := by
  rw [← result_scheduleOutputPieces] at h
  exact written_of_result h

/-- The widths of the enumerations on the wire. -/
structure EnumSizes where
  inferStage : Nat
  forwardStepKind : Nat
  tokenReduceMode : Nat
  structuredConstraintType : Nat
deriving Repr, DecidableEq

def vectorSize {α : Type} (width : Nat) (xs : List α) : Nat := 8 + width * xs.length

def matrixSize {α : Type} (width : Nat) (rows : List (List α)) : Nat :=
  8 + (rows.map (vectorSize width)).sum

/-- A pod is written as the bytes of its type, and a string or a vector behind its length. -/
structure HasSizes (sizes : EnumSizes) : Prop where
  int32 : ∀ value, (api.int32.encode value).length = 4
  int64 : ∀ value, (api.int64.encode value).length = 8
  uint32 : ∀ value, (api.uint32.encode value).length = 4
  uint64 : ∀ value, (api.uint64.encode value).length = 8
  size : ∀ value, (api.size.encode value).length = 8
  bool : ∀ value, (api.bool.encode value).length = 1
  float : ∀ value, (api.float.encode value).length = 4
  inferStage : ∀ value, (api.inferStage.encode value).length = sizes.inferStage
  forwardStepKind : ∀ value, (api.forwardStepKind.encode value).length = sizes.forwardStepKind
  tokenReduceMode : ∀ value, (api.tokenReduceMode.encode value).length = sizes.tokenReduceMode
  structuredConstraintType : ∀ value,
    (api.structuredConstraintType.encode value).length = sizes.structuredConstraintType
  string : ∀ value, (api.string.encode value).length = vectorSize 1 value
  int32Vector : ∀ value, (api.int32Vector.encode value).length = vectorSize 4 value
  sizeVector : ∀ value, (api.sizeVector.encode value).length = vectorSize 8 value
  stringVector : ∀ value, (api.stringVector.encode value).length = matrixSize 1 value
  slicePosVector : ∀ value, (api.slicePosVector.encode value).length = vectorSize 8 value
  floatMatrix : ∀ value, (api.floatMatrix.encode value).length = matrixSize 4 value
  int64Vector : ∀ value, (api.int64Vector.encode value).length = vectorSize 8 value
  int64Matrix : ∀ value, (api.int64Matrix.encode value).length = matrixSize 8 value

/-- A tensor that is not on the host ends the serialization. -/
def tensorSize (tensor : Tensor) : Option Nat :=
  if tensor.location = .host then some (vectorSize 8 tensor.shape + 12 + tensor.bytes.length)
  else none

def embeddingSliceSizes (slice : EmbeddingSlice) : List (Option Nat) :=
  some (vectorSize 4 slice.pos + matrixSize 4 slice.embeddings) ::
    (some 8 :: slice.embeddingTensors.map tensorSize ++
      some 8 :: slice.additionalTensors.map tensorSize)

def samplingConfigSize (config : SamplingConfig) : Nat :=
  55 + vectorSize 4 config.stopTokenIds + matrixSize 1 config.stopStrings +
    vectorSize 1 config.jsonSchema

def requestTargetSize (sizes : EnumSizes) (entry : List UInt8 × TargetDescribe) : Nat :=
  vectorSize 1 entry.1 + vectorSize 4 entry.2.cutoffLayer + vectorSize 4 entry.2.tokenId +
    vectorSize 8 entry.2.slicePos + sizes.tokenReduceMode + 4

def decodeTargetSize (target : DecodeTargetLite) : Nat := 12 + vectorSize 4 target.kvBlockIds

def inferRequestHeadSize (sizes : EnumSizes) (snapshot : Option InferRequestSerializationSnapshot)
    (req : InferRequest) : Nat :=
  let sent := sentSnapshot snapshot req
  97 + sizes.inferStage + sizes.forwardStepKind +
    vectorSize 4 req.inputTokens + vectorSize 4 req.outputTokens +
    vectorSize 4 req.draftTokens.mtp + vectorSize 4 req.draftTokens.spec +
    vectorSize 4 req.draftTokens.ptp + vectorSize 4 req.acceptedTokens +
    vectorSize 4 req.generatedTokens + (req.requestTarget.map (requestTargetSize sizes)).sum +
    samplingConfigSize req.samplingConfig + vectorSize 1 req.kvCommGroupKey +
    vectorSize 4 sent.forwardingTokens + vectorSize 4 req.samplingResultTokens +
    vectorSize 4 sent.kvCacheBlocks + vectorSize 4 sent.swaKvCacheBlocks +
    vectorSize 8 sent.swaKvCacheBlockIdxOffsets + vectorSize 1 req.incrementalDecodedStr

def inferRequestTailSize (sizes : EnumSizes) (req : InferRequest) : Nat :=
  13 + (if req.needRecreateGenerator = true then sizes.structuredConstraintType +
      vectorSize 1 req.structuredGeneratorConfig.constraintSpec else 0) +
    (req.pdV2.decodeTargets.map decodeTargetSize).sum +
    vectorSize 1 req.pdV2.decodeEngineInferenceAddr

def inferRequestSizes (sizes : EnumSizes) (snapshot : Option InferRequestSerializationSnapshot)
    (req : InferRequest) : List (Option Nat) :=
  some (inferRequestHeadSize sizes snapshot req) ::
    ((if req.inferStage = .context then embeddingSliceSizes req.inputRefitEmbedding else []) ++
      [some (inferRequestTailSize sizes req)])

def patchSize (sizes : EnumSizes) (patch : InferRequestPatch) : Nat :=
  65 + sizes.inferStage + sizes.forwardStepKind + vectorSize 4 patch.deltaForwardingTokens +
    vectorSize 4 patch.deltaKvCacheBlocks + vectorSize 4 patch.swaKvCacheBlocks +
    vectorSize 8 patch.swaKvCacheBlockIdxOffsets

/-- How many bytes an output needs: up to its first tensor that is not on the host, or all. -/
def scheduleOutputSize (sizes : EnumSizes) (output : ScheduleOutput) : Nat :=
  sizeWritten <|
    some (25 + matrixSize 8 output.finishReqIds + matrixSize 8 output.recomputeReqIds +
      vectorSize 8 output.liveReqIds) ::
    (output.fullRunningReqs.flatMap (fun req =>
      inferRequestSizes sizes (output.reqSerializationSnapshots.lookup req.reqId) req) ++
      [some (8 + (output.patchRunningReqs.map (patchSize sizes)).sum)])

section Sizes

variable {api} {sizes : EnumSizes}

theorem length_flatMap_of {α : Type} {write : α → List UInt8} {size : α → Nat}
    (h : ∀ x, (write x).length = size x) (xs : List α) :
    (xs.flatMap write).length = (xs.map size).sum := by
  rw [List.length_flatMap]
  simp only [h]

theorem serializeSamplingConfig_length (hsizes : HasSizes api sizes) (config : SamplingConfig) :
    (serializeSamplingConfig api config).length = samplingConfigSize config := by
  unfold serializeSamplingConfig samplingConfigSize
  simp only [List.length_flatten, List.map_cons, List.map_nil, List.sum_cons, List.sum_nil,
    hsizes.int32, hsizes.float, hsizes.bool, hsizes.int32Vector, hsizes.stringVector,
    hsizes.string]
  omega

theorem serializeRequestTarget_length (hsizes : HasSizes api sizes)
    (entry : List UInt8 × TargetDescribe) :
    (serializeRequestTarget api entry).length = requestTargetSize sizes entry := by
  unfold serializeRequestTarget requestTargetSize
  simp only [List.length_flatten, List.map_cons, List.map_nil, List.sum_cons, List.sum_nil,
    hsizes.string, hsizes.int32Vector, hsizes.slicePosVector, hsizes.tokenReduceMode, hsizes.int32]
  omega

theorem serializeDecodeTarget_length (hsizes : HasSizes api sizes) (target : DecodeTargetLite) :
    (serializeDecodeTarget api target).length = decodeTargetSize target := by
  unfold serializeDecodeTarget decodeTargetSize
  simp only [List.length_flatten, List.map_cons, List.map_nil, List.sum_cons, List.sum_nil,
    hsizes.uint32, hsizes.uint64, hsizes.int32Vector]
  omega

theorem inferRequestHead_length (hsizes : HasSizes api sizes)
    (snapshot : Option InferRequestSerializationSnapshot) (req : InferRequest) :
    (inferRequestHead api snapshot req).length = inferRequestHeadSize sizes snapshot req := by
  unfold inferRequestHead inferRequestHeadSize
  simp only [List.length_flatten, List.map_cons, List.map_nil, List.sum_cons, List.sum_nil,
    hsizes.int64, hsizes.size, hsizes.int32Vector, hsizes.uint32, hsizes.string, hsizes.inferStage,
    hsizes.forwardStepKind, hsizes.int32, hsizes.bool, hsizes.sizeVector,
    serializeSamplingConfig_length hsizes,
    length_flatMap_of (serializeRequestTarget_length hsizes)]
  omega

theorem inferRequestTail_length (hsizes : HasSizes api sizes) (req : InferRequest) :
    (inferRequestTail api req).length = inferRequestTailSize sizes req := by
  have hgenerator : (if req.needRecreateGenerator = true then
      serializeStructuredGeneratorConfig api req.structuredGeneratorConfig else []).length =
        if req.needRecreateGenerator = true then sizes.structuredConstraintType +
          vectorSize 1 req.structuredGeneratorConfig.constraintSpec else 0 := by
    split
    · simp [serializeStructuredGeneratorConfig, hsizes.structuredConstraintType, hsizes.string]
    · rfl
  unfold inferRequestTail inferRequestTailSize
  simp only [List.length_flatten, List.map_cons, List.map_nil, List.sum_cons, List.sum_nil,
    hsizes.bool, hsizes.size, hsizes.string, hsizes.uint32, hgenerator,
    length_flatMap_of (serializeDecodeTarget_length hsizes)]
  omega

theorem serializeInferRequestPatch_length (hsizes : HasSizes api sizes)
    (patch : InferRequestPatch) :
    (serializeInferRequestPatch api patch).length = patchSize sizes patch := by
  unfold serializeInferRequestPatch patchSize
  simp only [List.length_flatten, List.map_cons, List.map_nil, List.sum_cons, List.sum_nil,
    hsizes.int64, hsizes.size, hsizes.int32Vector, hsizes.inferStage, hsizes.forwardStepKind,
    hsizes.int32, hsizes.bool, hsizes.sizeVector]
  omega

theorem serializeTensor_size (hsizes : HasSizes api sizes) (tensor : Tensor) :
    pieceSize (serializeTensor api tensor) = tensorSize tensor := by
  unfold serializeTensor tensorSize
  by_cases hhost : tensor.location = .host
  · rw [check_bind_of_true _ _ hhost, if_pos hhost]
    refine congrArg some ?_
    simp only [List.length_flatten, List.map_cons, List.map_nil, List.sum_cons, List.sum_nil,
      hsizes.sizeVector, hsizes.int32, hsizes.size]
    omega
  · rw [check_of_false _ hhost, if_neg hhost]
    rfl

theorem embeddingSlicePieces_sizes (hsizes : HasSizes api sizes) (slice : EmbeddingSlice) :
    (embeddingSlicePieces api slice).map pieceSize = embeddingSliceSizes slice := by
  have htensors (tensors : List Tensor) : (vectorOfTensorPieces api tensors).map pieceSize =
      some 8 :: tensors.map tensorSize := by
    unfold vectorOfTensorPieces
    rw [List.map_cons, List.map_map]
    refine congrArg₂ List.cons (congrArg some (hsizes.size _)) ?_
    exact List.map_congr_left fun tensor _ => serializeTensor_size hsizes tensor
  unfold embeddingSlicePieces embeddingSliceSizes
  rw [List.map_cons, List.map_append, htensors, htensors]
  refine congrArg₂ List.cons (congrArg some ?_) rfl
  simp only [List.length_flatten, List.map_cons, List.map_nil, List.sum_cons, List.sum_nil,
    hsizes.int32Vector, hsizes.floatMatrix, Nat.add_zero]

theorem inferRequestPieces_sizes (hsizes : HasSizes api sizes)
    (snapshot : Option InferRequestSerializationSnapshot) (req : InferRequest) :
    (inferRequestPieces api snapshot req).map pieceSize = inferRequestSizes sizes snapshot req := by
  have hembedding :
      (if req.inferStage = .context then embeddingSlicePieces api req.inputRefitEmbedding
        else []).map pieceSize =
      if req.inferStage = .context then embeddingSliceSizes req.inputRefitEmbedding else [] := by
    split
    · exact embeddingSlicePieces_sizes hsizes req.inputRefitEmbedding
    · rfl
  unfold inferRequestPieces inferRequestSizes
  rw [List.map_cons, List.map_append, hembedding, List.map_singleton]
  refine congrArg₂ List.cons (congrArg some (inferRequestHead_length hsizes snapshot req)) ?_
  exact congrArg (_ ++ [some ·]) (inferRequestTail_length hsizes req)

theorem written_length (hsizes : HasSizes api sizes) (output : ScheduleOutput) :
    (written (scheduleOutputPieces api output)).length = scheduleOutputSize sizes output := by
  have hpatches : (serializeInferRequestPatches api output.patchRunningReqs).length =
      8 + (output.patchRunningReqs.map (patchSize sizes)).sum := by
    unfold serializeInferRequestPatches
    simp only [List.length_flatten, List.map_cons, List.map_nil, List.sum_cons, List.sum_nil,
      hsizes.size, length_flatMap_of (serializeInferRequestPatch_length hsizes), Nat.add_zero]
  rw [length_written]
  unfold scheduleOutputPieces scheduleOutputSize
  rw [List.map_cons, List.map_append, List.map_flatMap, List.map_singleton]
  simp only [inferRequestPieces_sizes hsizes]
  refine congrArg sizeWritten (congrArg₂ List.cons (congrArg some ?_)
    (congrArg (_ ++ [some ·]) hpatches))
  simp only [List.length_flatten, List.map_cons, List.map_nil, List.sum_cons, List.sum_nil,
    hsizes.size, hsizes.bool, hsizes.int64, hsizes.int64Matrix, hsizes.int64Vector]
  omega

theorem list_encode_length {α : Type} {Count : Nat → Prop} {Fits : α → Prop}
    {count : Wire Nat Count} {wire : Wire α Fits} {size : α → Nat}
    (hcount : ∀ n, (count.encode n).length = 8) (hwire : ∀ x, (wire.encode x).length = size x)
    (xs : List α) :
    ((Wire.list count wire).encode xs).length = 8 + (xs.map size).sum := by
  unfold Wire.list
  rw [List.length_append, hcount, length_flatMap_of hwire]

theorem list_encode_length_const {α : Type} {Count : Nat → Prop} {Fits : α → Prop}
    {count : Wire Nat Count} {wire : Wire α Fits} {width : Nat}
    (hcount : ∀ n, (count.encode n).length = 8) (hwire : ∀ x, (wire.encode x).length = width)
    (xs : List α) : ((Wire.list count wire).encode xs).length = vectorSize width xs := by
  rw [list_encode_length hcount hwire, List.map_const', List.sum_replicate, smul_eq_mul, vectorSize,
    Nat.mul_comm]

theorem littleEndian_sizes : HasSizes littleEndian ⟨1, 1, 4, 4⟩ := by
  have hsize (n : Nat) : (sizeWire.encode n).length = 8 := Wire.digits_length 8 _
  have hint32 (v : Int) : (int32Wire.encode v).length = 4 := Wire.digits_length 4 _
  have hint64 (v : Int) : (int64Wire.encode v).length = 8 := Wire.digits_length 8 _
  have hfloat (bits : UInt32) : (floatWire.encode bits).length = 4 := Wire.digits_length 4 _
  have hbyte (byte : UInt8) : (byteWire.encode byte).length = 1 := Wire.digits_length 1 _
  have hstring (s : List UInt8) : (stringWire.encode s).length = vectorSize 1 s :=
    list_encode_length_const hsize hbyte s
  exact {
    int32 := hint32
    int64 := hint64
    uint32 := fun _ => Wire.digits_length 4 _
    uint64 := hsize
    size := hsize
    bool := fun _ => Wire.digits_length 1 _
    float := hfloat
    inferStage := fun _ => Wire.digits_length 1 _
    forwardStepKind := fun _ => Wire.digits_length 1 _
    tokenReduceMode := fun mode => hint32 mode.code
    structuredConstraintType := fun type => hint32 type.code
    string := hstring
    int32Vector := list_encode_length_const hsize hint32
    sizeVector := list_encode_length_const hsize hsize
    stringVector := list_encode_length hsize hstring
    slicePosVector := list_encode_length_const hsize fun slice => by
      show (int32Wire.encode slice.1 ++ int32Wire.encode slice.2).length = 8
      rw [List.length_append, hint32, hint32]
    floatMatrix := list_encode_length hsize (list_encode_length_const hsize hfloat)
    int64Vector := list_encode_length_const hsize hint64
    int64Matrix := list_encode_length hsize (list_encode_length_const hsize hint64) }

end Sizes

/-- A call stays inside its packet, whether it ends or throws, exactly if it does not get as far
as serializing or the output needs no more bytes than the fixed size. -/
theorem packet_holds_iff (api : SerializationApi) (sizes : EnumSizes) (hsizes : HasSizes api sizes)
    (allocates hasScheduleProcessor : Bool) (output : ScheduleOutput) :
    (putSendScheduleOutput api allocates hasScheduleProcessor output).copied.length ≤
        (putSendScheduleOutput api allocates hasScheduleProcessor output).capacity ↔
      (allocates = true → hasScheduleProcessor = true →
        scheduleOutputSize sizes output ≤ 64 * 1024 * 1024) := by
  unfold putSendScheduleOutput
  cases allocates with
  | false => exact iff_of_true (Nat.zero_le _) fun h => nomatch h
  | true =>
    cases hasScheduleProcessor with
    | false => exact iff_of_true (Nat.zero_le _) fun _ h => nomatch h
    | true =>
      rw [← written_length hsizes]
      exact ⟨fun h _ _ => h, fun h => h rfl rfl⟩

theorem packet_holds_iff_sample :
    (putSendScheduleOutput littleEndian true true mixedOutput).copied.length ≤ 64 * 1024 * 1024 :=
  (packet_holds_iff littleEndian ⟨1, 1, 4, 4⟩ littleEndian_sizes true true mixedOutput).mpr
    fun _ _ => by decide

/-- A prompt of 8192 tokens whose embedding, 4096 half floats for each, comes with the request. -/
def promptEmbedding (tokens : List Int) (bytes : List UInt8) : ScheduleOutput where
  scheduleId := 1
  runningReqs :=
    [ { reqId := 1
        inputTokens := tokens
        forwardingTokens := tokens
        inputRefitEmbedding :=
          { pos := [0], embeddingTensors := [⟨.host, ⟨3⟩, [8192, 4096], bytes⟩] } } ]

theorem promptEmbedding_inRange {tokens : List Int} {bytes : List UInt8}
    (htokens : IsVector IsInt32 tokens) (hbytes : IsSize bytes.length) :
    (promptEmbedding tokens bytes).InRange := by
  have hbase : (promptEmbedding [] []).InRange := by decide
  have hreqBase := hbase.runningReqs.2 _ List.mem_cons_self
  have hempty : IsVector IsInt32 [] := by decide
  refine { hbase with runningReqs := ⟨hbase.runningReqs.1, ?_⟩, snapshots := ?_ }
  · intro req hreq
    obtain rfl := List.mem_singleton.mp hreq
    refine { hreqBase with
      vectors := ?_
      inputRefitEmbedding := { hreqBase.inputRefitEmbedding with
        embeddingTensors := ⟨hreqBase.inputRefitEmbedding.embeddingTensors.1, ?_⟩ } }
    · intro xs hxs
      simp only [List.mem_cons, List.not_mem_nil, or_false] at hxs
      rcases hxs with rfl | rfl | rfl | rfl | rfl | rfl | rfl | rfl | rfl | rfl | rfl
      all_goals first
        | exact htokens
        | exact hempty
    · intro tensor htensor
      obtain rfl := List.mem_singleton.mp htensor
      have hshape : IsVector IsSize [8192, 4096] := by decide
      exact ⟨hshape, (by decide : IsInt32 3), hbytes⟩
  · intro req _ snap hsnap
    cases hsnap

theorem promptEmbedding_size (tokens : List Int) {bytes : List UInt8}
    (hbytes : 64 * 1024 * 1024 ≤ bytes.length) (sizes : EnumSizes) :
    64 * 1024 * 1024 < scheduleOutputSize sizes (promptEmbedding tokens bytes) := by
  have hreqs : (promptEmbedding tokens bytes).fullRunningReqs =
      (promptEmbedding tokens bytes).runningReqs := rfl
  unfold scheduleOutputSize
  rw [hreqs]
  simp only [promptEmbedding, List.flatMap_cons, List.flatMap_nil, inferRequestSizes,
    embeddingSliceSizes, tensorSize, if_true, List.map_cons, List.map_nil, List.cons_append,
    List.nil_append, List.append_nil, sizeWritten]
  omega

theorem prompt_embedding_overruns :
    let output := promptEmbedding (List.replicate 8192 0) (List.replicate (8192 * 4096 * 2) 0)
    output.InRange ∧
      ¬(putSendScheduleOutput littleEndian true true output).copied.length ≤
        (putSendScheduleOutput littleEndian true true output).capacity := by
  have htokens : IsVector IsInt32 (List.replicate 8192 (0 : Int)) := by
    refine ⟨by rw [List.length_replicate]; decide, ?_⟩
    intro token htoken
    rw [List.eq_of_mem_replicate htoken]
    decide
  have hbytes : (List.replicate (8192 * 4096 * 2) (0 : UInt8)).length = 64 * 1024 * 1024 :=
    List.length_replicate
  generalize List.replicate 8192 (0 : Int) = tokens at htokens ⊢
  generalize List.replicate (8192 * 4096 * 2) (0 : UInt8) = bytes at hbytes ⊢
  refine ⟨promptEmbedding_inRange htokens (by rw [hbytes]; decide), Nat.not_le.mpr ?_⟩
  show 64 * 1024 * 1024 < (written (scheduleOutputPieces littleEndian _)).length
  rw [written_length littleEndian_sizes]
  exact promptEmbedding_size tokens hbytes.ge _

end KsanaBuildAhead.Runtime
