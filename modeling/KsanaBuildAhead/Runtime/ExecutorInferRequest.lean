import KsanaBuildAhead.Runtime.RequestData

/-!
# The Executor's request

What the Executor keeps of a request between steps, and the patch the Engine
sends for each further step of it. An offset `none` stands for `SIZE_MAX`: the
step has no placeholder block.
-/
namespace KsanaBuildAhead.Runtime

structure ExecutorInferRequest where
  reqId : Int
  logitsCustomLength : Nat := 0
  samplingTokenNum : Nat := kStepGenerateTokenNum
  launchPlaceholderOffset : Option Nat := none
  lastStepTokenNum : Nat := kStepGenerateTokenNum
  inputTokens : List Int := []
  inputRefitEmbedding : EmbeddingSlice := {}
  mrotaryEmbeddingPosOffset : Int := 0
  xdrotaryEmbeddingPosOffset : Int := 0
  outputTokens : List Int := []
  draftTokens : DraftTokens := {}
  acceptedTokens : List Int := []
  forwardingTokensDraftNum : Nat := 0
  generatedTokens : List Int := []
  requestTarget : List (List UInt8 × TargetDescribe) := []
  samplingConfig : SamplingConfig := {}
  structuredGeneratorConfig : StructuredGeneratorConfig := {}
  needCreateGenerator : Bool := false
  attnDpGroupId : Nat := 0
  kvCommGroupKey : List UInt8 := []
  pdV2DecodeTargets : List DecodeTargetLite := []
  pdV2DecodeEngineInferenceAddr : List UInt8 := []
  pdV2DecodeAttnDpGroupId : Nat := 0
  forwardingTokens : List Int := []
  samplingResultTokens : List Int := []
  inferStage : InferStage := .context
  kvFromRemote : Bool := false
  forwardStepKind : ForwardStepKind := .prefill
  step : Int := 0
  kvCachedTokenNum : Nat := 0
  kvCacheBlocks : List Int := []
  swaKvCacheBlocks : List Int := []
  swaKvCacheBlockIdxOffsets : List Nat := []
  blockTokenNum : Nat := 0
  logitsOffset : Nat := 0
  prefixCacheLen : Int := 0
  flexibleCachedCopyTaskNum : Nat := 0
  incrementalDecodedStr : List UInt8 := []
deriving Repr, DecidableEq

/-- The fields of one request that change from step to step. -/
structure InferRequestPatch where
  reqId : Int
  deltaForwardingTokens : List Int := []
  forwardingTokensOffset : Nat := 0
  forwardingTokensDraftNum : Nat := 0
  kvCachedTokenNum : Nat := 0
  kvFromRemote : Bool := false
  prefixCacheLen : Int := 0
  deltaKvCacheBlocks : List Int := []
  kvCacheBlocksOffset : Nat := 0
  swaKvCacheBlocks : List Int := []
  swaKvCacheBlockIdxOffsets : List Nat := []
  inferStage : InferStage := .context
  forwardStepKind : ForwardStepKind := .prefill
  step : Int := 0
  samplingTokenNum : Nat := kStepGenerateTokenNum
  launchPlaceholderOffset : Option Nat := none
deriving Repr, DecidableEq

end KsanaBuildAhead.Runtime
