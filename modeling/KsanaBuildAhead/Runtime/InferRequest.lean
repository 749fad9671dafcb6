import KsanaBuildAhead.Lib.ListEdit
import KsanaBuildAhead.Runtime.RequestData

/-!
# The Engine's request

The scheduling state of one request and the operations that plan, launch and
retire its steps. A failed check is an error; the state string a check appends
to its text is left out.
-/
namespace KsanaBuildAhead.Runtime

open Lib.ListEdit

/-- The transmitted fields no scheduling operation changes. -/
structure RequestPayload where
  reqId : Int
  logitsCustomLength : Nat := 0
  lastStepTokenNum : Nat := kStepGenerateTokenNum
  inputTokens : List Int := []
  mrotaryEmbeddingPosOffset : Int := 0
  xdrotaryEmbeddingPosOffset : Int := 0
  requestTarget : List (List UInt8 × TargetDescribe) := []
  samplingConfig : SamplingConfig := {}
  attnDpGroupId : Nat := 0
  kvCommGroupKey : List UInt8 := []
  samplingResultTokens : List Int := []
  blockTokenNum : Nat := 0
  logitsOffset : Nat := 0
  incrementalDecodedStr : List UInt8 := []
  inputRefitEmbedding : EmbeddingSlice := {}
  needRecreateGenerator : Bool := false
  structuredGeneratorConfig : StructuredGeneratorConfig := {}
  pdV2 : PdV2RequestContext := {}
deriving Repr, DecidableEq

/-- The Engine-side request. The in-flight queue is a list, oldest step first. -/
structure InferRequest extends RequestPayload where
  samplingTokenNum : Nat := kStepGenerateTokenNum
  outputTokens : List Int := []
  draftTokens : DraftTokens := {}
  suggestedDraftNum : Nat := 0
  acceptedTokens : List Int := []
  forwardingTokensDraftNum : Nat := 0
  generatedTokens : List Int := []
  forwardingTokens : List Int := []
  inferStage : InferStage := .context
  forwardStepKind : ForwardStepKind := .prefill
  step : Int := 0
  kvCachedTokenNum : Nat := 0
  kvCacheBlocks : List Int := []
  swaKvCacheBlocks : List Int := []
  swaKvCacheBlockIdxOffsets : List Nat := []
  prefixCacheLen : Int := 0
  patchTransfer : Bool := false
  isStopped : Bool := false
  prefillingTokens : List Int := []
  inflightTasks : List ScheduleTask := []
  pendingPlaceholderPositions : List Nat := []
  pendingPlaceholderDraftNums : List Nat := []
  planningTask : ScheduleTask := {}
  planningWorkload : ScheduleTaskWorkload := {}
  remainingWorkload : ScheduleTaskWorkload := {}
  isEosGenerated : Bool := false
deriving Repr, DecidableEq

namespace InferRequest

def getInflightCount (req : InferRequest) : Nat := req.inflightTasks.length

def hasInflightTask (req : InferRequest) : Bool := 0 < req.getInflightCount

def hasInflightCapacity (req : InferRequest) (maxDepth : Nat) : Bool :=
  req.getInflightCount < maxDepth

def hasPlanningTask (req : InferRequest) : Bool := !req.planningTask.isEmpty

/-- The oldest step in flight is a prefill chunk with more chunks to come. -/
def isSplitPrefillStep (req : InferRequest) : Bool :=
  match req.inflightTasks with
  | [] => false
  | oldest :: _ =>
    0 < oldest.workload.prefillTokenNum &&
      oldest.workload.prefillTokenNum + oldest.workload.prefillStartOffset <
        req.prefillingTokens.length

/-- Where the latest placeholder block starts; none stands for `SIZE_MAX`. -/
def getLatestPendingPlaceholderOffset (req : InferRequest) : Option Nat :=
  req.pendingPlaceholderPositions.getLast?

/-- How long the sequence is counted to be once the planned step is launched. A placeholder
block at the end of it is taken for the block of that step. -/
def getPlanningSequenceLen (req : InferRequest) : Nat :=
  let workload := req.planningWorkload
  if 0 < workload.prefillTokenNum then workload.prefillStartOffset + workload.getTokenNum
  else
    let fwdLen := req.forwardingTokens.length
    let planningLen := workload.getTokenNum
    if planningLen = 0 then fwdLen
    else match req.pendingPlaceholderPositions.getLast? with
      | none => fwdLen + planningLen
      | some blkStart =>
        let blkDraft := req.pendingPlaceholderDraftNums.getLastD 0
        if blkStart + 1 + blkDraft = fwdLen ∧ planningLen ≤ 1 + blkDraft then fwdLen
        else fwdLen + planningLen

/-- The last output token is one of the request's stop tokens. -/
def endsWithStopToken (req : InferRequest) (output : List Int) : Bool :=
  output.getLast?.any fun token => req.samplingConfig.stopTokenIds.contains token

def setKvCachedTokenNum (req : InferRequest) (num : Nat) : InferRequest :=
  { req with kvCachedTokenNum := num, prefixCacheLen := num }

def setInflightTaskGenResultEstimation (req : InferRequest) (generatedTokenNum draftTokenNum : Nat) :
    Except String InferRequest := do
  check (0 < req.getInflightCount) "inflight_count_ > 0"
  .ok { req with
    planningWorkload := { req.planningWorkload with
      generatedTokenNum := generatedTokenNum, draftTokenNum := draftTokenNum }
    remainingWorkload := { req.remainingWorkload with
      generatedTokenNum := generatedTokenNum, draftTokenNum := draftTokenNum } }

def setRemainingWorkload (req : InferRequest) (workload : ScheduleTaskWorkload) : InferRequest :=
  { req with remainingWorkload := workload }

def setPlanningWorkload (req : InferRequest) (workload : ScheduleTaskWorkload) : InferRequest :=
  { req with planningWorkload := workload }

/-- Turn the planning workload into the planning task and take its prefill part
off the remaining workload. -/
def setPlanningTask (req : InferRequest) : Except String InferRequest := do
  check (req.planningTask.isEmpty = true) "planning_task_.IsEmpty()"
  check (req.planningWorkload.prefillTokenNum ≤ req.remainingWorkload.prefillTokenNum)
    "remaining_workload_.prefill_token_num >= planning_workload_.prefill_token_num"
  check (req.remainingWorkload.prefillTokenNum - req.planningWorkload.prefillTokenNum +
      (req.remainingWorkload.prefillStartOffset + req.planningWorkload.prefillTokenNum) =
        req.prefillingTokens.length)
    "(remaining_workload_.prefill_token_num + remaining_workload_.prefill_start_offset) == prefilling_tokens_.size()"
  .ok { req with
    planningTask := { workload := req.planningWorkload }
    remainingWorkload := { req.remainingWorkload with
      prefillTokenNum :=
        req.remainingWorkload.prefillTokenNum - req.planningWorkload.prefillTokenNum
      prefillStartOffset :=
        req.remainingWorkload.prefillStartOffset + req.planningWorkload.prefillTokenNum
      generatedTokenNum := 0
      draftTokenNum := 0 }
    planningWorkload := {} }

/-- Start of a request, or of its recomputation: everything in flight is dropped. -/
def resetPrefillingTokens [DraftTokensApi] (req : InferRequest) : InferRequest :=
  let drafts := DraftTokensApi.clear req.draftTokens
  let workload : ScheduleTaskWorkload :=
    { prefillTokenNum := req.outputTokens.length
      samplingTokenNum :=
        max (kStepGenerateTokenNum + DraftTokensApi.size drafts) req.logitsCustomLength }
  { req with
    forwardingTokens := [], generatedTokens := [], acceptedTokens := [], draftTokens := drafts
    pendingPlaceholderPositions := [], pendingPlaceholderDraftNums := []
    forwardStepKind := .prefill, planningTask := {}, inflightTasks := []
    isEosGenerated := false, forwardingTokensDraftNum := 0, inferStage := .context
    prefillingTokens := req.outputTokens, kvCachedTokenNum := 0, step := 0
    suggestedDraftNum := 0, prefixCacheLen := 0
    remainingWorkload := workload, planningWorkload := workload
    samplingTokenNum := workload.samplingTokenNum }

/-- Reserve `[main | draft × M]` at the end of the sequence, all placeholders. -/
def reserveBuildAheadPlaceholderBlock (req : InferRequest) (newInflight : ScheduleTaskWorkload) :
    InferRequest × ScheduleTaskWorkload :=
  let reserveDraft := newInflight.draftTokenNum
  ({ req with
      forwardingTokens := req.forwardingTokens ++
        kFastPathPlaceholderTokenId :: List.replicate reserveDraft kFastPathPlaceholderTokenId
      pendingPlaceholderPositions :=
        req.pendingPlaceholderPositions ++ [req.forwardingTokens.length]
      pendingPlaceholderDraftNums := req.pendingPlaceholderDraftNums ++ [reserveDraft] },
    { newInflight with
      generatedTokenNum := 1
      draftTokenNum := reserveDraft
      samplingTokenNum := kStepGenerateTokenNum + reserveDraft })

/-- Append the real generated tokens and as many drafts as the resources allow. -/
def appendDecodeTokensWithoutPlaceholder [DraftTokensApi] (req : InferRequest)
    (newInflight : ScheduleTaskWorkload) (resourceReadyTokenNum : Nat)
    (mergedDraftTokens : List Int) : InferRequest × ScheduleTaskWorkload :=
  let effectiveGeneratedNum := req.generatedTokens.length
  let draftTokenNum := min (resourceReadyTokenNum - effectiveGeneratedNum) mergedDraftTokens.length
  ({ req with
      forwardingTokens := req.forwardingTokens ++ req.generatedTokens ++
        mergedDraftTokens.take draftTokenNum
      draftTokens :=
        if draftTokenNum < mergedDraftTokens.length then
          DraftTokensApi.truncDraft req.draftTokens draftTokenNum
        else req.draftTokens },
    { newInflight with
      generatedTokenNum := effectiveGeneratedNum
      draftTokenNum := draftTokenNum
      samplingTokenNum := kStepGenerateTokenNum + draftTokenNum })

/-- The prefill branch of a launch: extend the sequence by the planned chunk, or
jump over a prefix found in the cache, and append drafts after the last chunk. -/
def launchPrefill [DraftTokensApi] (req : InferRequest) (newInflight : ScheduleTaskWorkload) :
    InferRequest × ScheduleTaskWorkload :=
  let extended :=
    if req.forwardingTokens.length = newInflight.prefillStartOffset then
      { req with
        forwardingTokens := req.forwardingTokens ++
          (req.prefillingTokens.drop req.forwardingTokens.length).take
            newInflight.prefillTokenNum }
    else
      { req with
        forwardingTokens := req.prefillingTokens.take
          (newInflight.prefillStartOffset + newInflight.prefillTokenNum)
        }.setKvCachedTokenNum newInflight.prefillStartOffset
  -- At depth 2 the oldest step may be an earlier chunk, so the launched workload decides.
  if req.prefillingTokens.length ≤
      newInflight.prefillTokenNum + newInflight.prefillStartOffset then
    let allDraftTokens := DraftTokensApi.getDraftTokens req.draftTokens
    ({ extended with
        forwardStepKind := .prefill
        forwardingTokens := extended.forwardingTokens ++ allDraftTokens },
      { newInflight with
        draftTokenNum := allDraftTokens.length
        samplingTokenNum := kStepGenerateTokenNum + allDraftTokens.length })
  else
    ({ extended with forwardStepKind := .prefillChunkMid },
      { newInflight with samplingTokenNum := 0 })

/-- The decode branch of a launch. A block is reserved only on the fast path,
behind a step in flight, and when no generated token is waiting. -/
def launchDecode [DraftTokensApi] (fastPath : Bool) (req : InferRequest)
    (newInflight : ScheduleTaskWorkload) (usePlaceholderForLastToken : Bool) :
    Except String (InferRequest × ScheduleTaskWorkload) := do
  let mergedDraftTokens := DraftTokensApi.getDraftTokens req.draftTokens
  let resourceReadyTokenNum := newInflight.generatedTokenNum + newInflight.draftTokenNum
  check (req.generatedTokens.length ≤ resourceReadyTokenNum)
    "generated_tokens.size() <= resource_ready_token_num"
  if usePlaceholderForLastToken = true ∧ fastPath = true ∧ req.generatedTokens = [] then
    let (reserved, workload) := req.reserveBuildAheadPlaceholderBlock newInflight
    .ok ({ reserved with forwardStepKind := .decode }, workload)
  else
    check (usePlaceholderForLastToken = true → req.generatedTokens.length ≤ 1)
      "Fast path placeholder currently only supports kStepGenerateTokenNum=1, generated_tokens>1"
    let (appended, workload) := req.appendDecodeTokensWithoutPlaceholder newInflight
      resourceReadyTokenNum mergedDraftTokens
    .ok ({ appended with forwardStepKind := .decode }, workload)

/-- A launch consumes the planning task; the whole sequence counts as cached, unless
its KV came from a remote peer. -/
def startLaunch (req : InferRequest) : InferRequest :=
  let consumed : InferRequest := { req with planningTask := {} }
  if req.pdV2.kvFromRemote then consumed
  else consumed.setKvCachedTokenNum req.forwardingTokens.length

def launchWorkload [DraftTokensApi] (fastPath : Bool) (req : InferRequest)
    (newInflight : ScheduleTaskWorkload) (usePlaceholderForLastToken : Bool) :
    Except String (InferRequest × ScheduleTaskWorkload) :=
  if 0 < newInflight.prefillTokenNum then .ok (req.launchPrefill newInflight)
  else req.launchDecode fastPath newInflight usePlaceholderForLastToken

/-- Push the planning task into the in-flight queue and build the sequence it forwards. -/
def launchPlanningTask [DraftTokensApi] (fastPath : Bool) (req : InferRequest)
    (usePlaceholderForLastToken : Bool) : Except String InferRequest := do
  check (req.planningTask.isEmpty = false) "No planning_task"
  check (req.getInflightCount < kMaxInflightDepth) "Inflight full"
  check (usePlaceholderForLastToken = true → 0 < req.getInflightCount)
    "Placeholder launch requires existing inflight"
  let (launched, workload) ← req.startLaunch.launchWorkload fastPath req.planningTask.workload
    usePlaceholderForLastToken
  .ok { launched with
    samplingTokenNum := workload.samplingTokenNum
    forwardingTokensDraftNum := workload.draftTokenNum
    inflightTasks := launched.inflightTasks ++ [{ workload := workload }] }

/-- Write the main token and the drafts that fit into the block at `start`. -/
def fillPlaceholderBlock (forwardingTokens : List Int) (start draftNum : Nat) (main : Int)
    (drafts : List Int) : List Int :=
  overwrite forwardingTokens start (main :: drafts.take draftNum)

/-- Both workloads take the sizes of the tokens that came back. -/
def planGeneratedTokens [DraftTokensApi] (req : InferRequest) : InferRequest :=
  let generatedTokenNum := req.generatedTokens.length
  let draftTokenNum := DraftTokensApi.size req.draftTokens
  { req with
    remainingWorkload := { req.remainingWorkload with
      generatedTokenNum := generatedTokenNum, draftTokenNum := draftTokenNum }
    planningWorkload := { generatedTokenNum := generatedTokenNum, draftTokenNum := draftTokenNum } }

/-- A step launched ahead of a stop token: its tokens are dropped, and its block with them. -/
def discardStepAfterEos [DraftTokensApi] (req : InferRequest) : InferRequest :=
  { req with
    generatedTokens := [], acceptedTokens := []
    draftTokens := DraftTokensApi.clear req.draftTokens
    pendingPlaceholderPositions := req.pendingPlaceholderPositions.tail
    pendingPlaceholderDraftNums :=
      if req.pendingPlaceholderPositions = [] then req.pendingPlaceholderDraftNums
      else req.pendingPlaceholderDraftNums.tail }

/-- The oldest block still holds a placeholder and another step follows: the block
belongs to that step, and the retiring one only fills it. -/
def tryRetireBackfillNextPlaceholderBlock [DraftTokensApi] (req : InferRequest) :
    Except String (Bool × InferRequest) :=
  let blkStart := req.pendingPlaceholderPositions.headD 0
  let blkDraft := req.pendingPlaceholderDraftNums.headD 0
  if 1 < req.getInflightCount ∧
      req.forwardingTokens[blkStart]? = some kFastPathPlaceholderTokenId then do
    check (blkStart + 1 + blkDraft ≤ req.forwardingTokens.length)
      "placeholder block out of forwarding range (inflight>1 backfill)"
    let forwardingTokens := match req.generatedTokens with
      | [] => req.forwardingTokens
      | main :: _ => fillPlaceholderBlock req.forwardingTokens blkStart blkDraft main
          (DraftTokensApi.getDraftTokens req.draftTokens)
    let outputTokens := req.outputTokens ++ req.generatedTokens
    let filled : InferRequest := { req with
      inferStage := .decode
      forwardingTokens := forwardingTokens
      outputTokens := outputTokens
      isEosGenerated := req.isEosGenerated || req.endsWithStopToken outputTokens }
    .ok (true, { filled.planGeneratedTokens with generatedTokens := [] })
  else .ok (false, req)

/-- Trim the rejected drafts of the retiring step's own block, move the blocks behind
it, and fill the next one with this step's bonus token and drafts. -/
def retireOwnPlaceholderBlockAndShift [DraftTokensApi] (req : InferRequest) :
    Except String InferRequest := do
  let blkStart := req.pendingPlaceholderPositions.headD 0
  let blkDraft := req.pendingPlaceholderDraftNums.headD 0
  let acceptedNum := req.acceptedTokens.length
  check (acceptedNum ≤ blkDraft) "accepted_tokens > reserved draft slots"
  check (blkStart + 1 + blkDraft ≤ req.forwardingTokens.length)
    "placeholder block out of forwarding range"
  let verified := overwrite req.forwardingTokens (blkStart + 1) req.acceptedTokens
  let trimmed := blkDraft - acceptedNum
  let kept :=
    if 0 < trimmed then eraseRange verified (blkStart + 1 + acceptedNum) (blkStart + 1 + blkDraft)
    else verified
  let positions :=
    if 0 < trimmed then
      req.pendingPlaceholderPositions.tail.map fun p => if blkStart < p then p - trimmed else p
    else req.pendingPlaceholderPositions.tail
  let draftNums := req.pendingPlaceholderDraftNums.tail
  let outputTokens := req.outputTokens ++ req.acceptedTokens ++ req.generatedTokens
  let forwardingTokens ← match positions, req.generatedTokens with
    | nxtStart :: _, main :: _ => do
      check (nxtStart < kept.length) "next placeholder block out of range"
      .ok (fillPlaceholderBlock kept nxtStart (draftNums.headD 0) main
        (DraftTokensApi.getDraftTokens req.draftTokens))
    | _, _ => .ok kept
  let kvCachedTokenNum := blkStart + 1 + acceptedNum
  let uncachedTail := forwardingTokens.length - kvCachedTokenNum
  let shifted : InferRequest := { req with
    inferStage := .decode
    pendingPlaceholderPositions := positions
    pendingPlaceholderDraftNums := draftNums
    forwardingTokens := forwardingTokens
    outputTokens := outputTokens
    acceptedTokens := []
    isEosGenerated := req.isEosGenerated || req.endsWithStopToken outputTokens
    kvCachedTokenNum := kvCachedTokenNum
    forwardingTokensDraftNum := if 1 < uncachedTail then uncachedTail - 1 else 0 }
  .ok { shifted.planGeneratedTokens with generatedTokens := [] }

/-- The branch without placeholder blocks: accepted tokens replace the drafts of the
step, and the generated tokens stay for the next launch to append. -/
def retireWithoutPlaceholder (req : InferRequest) (oldest : ScheduleTaskWorkload) : InferRequest :=
  let verified : InferRequest :=
    if 0 < oldest.draftTokenNum then
      { req with
        forwardingTokens := resize req.forwardingTokens
          (req.forwardingTokens.length + req.acceptedTokens.length - req.forwardingTokensDraftNum) 0
        outputTokens := req.outputTokens ++ req.acceptedTokens
        acceptedTokens := [] }
    else req
  let outputTokens := verified.outputTokens ++ req.generatedTokens
  { verified with
    inferStage := .decode
    outputTokens := outputTokens
    isEosGenerated := req.isEosGenerated || req.endsWithStopToken outputTokens }

/-- What a prefill chunk and a step without placeholder share at the end of their
retirement: the sequence is cached, and the workloads follow from what came back. -/
def refreshWorkloads [DraftTokensApi] (req : InferRequest) : InferRequest :=
  let cached : InferRequest := { req with kvCachedTokenNum := req.forwardingTokens.length }
  let planned := cached.planGeneratedTokens
  if 0 < req.remainingWorkload.prefillTokenNum then
    { planned with planningWorkload := { prefillTokenNum := req.remainingWorkload.prefillTokenNum } }
  else planned

/-- Fold the result of the oldest step in flight into the request. -/
def updateAfterInflightTaskFinished [DraftTokensApi] (req : InferRequest) :
    Except String InferRequest :=
  match req.inflightTasks with
  | [] => .error "inflight_count_ > 0"
  | oldest :: _ =>
    if req.isEosGenerated then .ok req.discardStepAfterEos
    else if req.isSplitPrefillStep then
      .ok { req with
        generatedTokens := []
        draftTokens := DraftTokensApi.clear req.draftTokens }.refreshWorkloads
    else if req.pendingPlaceholderPositions = [] then
      .ok (req.retireWithoutPlaceholder oldest.workload).refreshWorkloads
    else do
      let (done, filled) ← req.tryRetireBackfillNextPlaceholderBlock
      if done then .ok filled else req.retireOwnPlaceholderBlockAndShift

/-- Drop the oldest step and slide the queue. -/
def resetInflightTask (req : InferRequest) : InferRequest :=
  { req with inflightTasks := req.inflightTasks.tail }

end InferRequest

end KsanaBuildAhead.Runtime
