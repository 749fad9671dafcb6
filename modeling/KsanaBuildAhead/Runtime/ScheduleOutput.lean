import Mathlib.Data.Finset.Basic
import Mathlib.Data.List.AList
import KsanaBuildAhead.Runtime.ExecutorInferRequest
import KsanaBuildAhead.Runtime.InferRequest

/-!
# The schedule output

One planned step of a batch: the running requests, the snapshots taken of them
at launch, and how each is routed to the wire, as a full request or as a patch.
-/
namespace KsanaBuildAhead.Runtime

/-- The fields of a request a later launch may change, copied at launch. -/
structure InferRequestSerializationSnapshot where
  forwardingTokens : List Int := []
  placeholderOffsetInSnapshot : Option Nat := none
  kvCachedTokenNum : Nat := 0
  forwardingTokensDraftNum : Nat := 0
  samplingTokenNum : Nat := 0
  kvCacheBlocks : List Int := []
  swaKvCacheBlocks : List Int := []
  swaKvCacheBlockIdxOffsets : List Nat := []
  prefixCacheLen : Int := 0
  step : Int := 0
  forwardStepKind : ForwardStepKind := .prefill
  patchTransfer : Bool := false
  patchTransferPopulated : Bool := false
deriving Repr, DecidableEq

/-- The snapshots by request id. -/
abbrev SerializationSnapshots := AList fun _ : Int => InferRequestSerializationSnapshot

structure ScheduleOutput where
  scheduleId : Nat
  enableProfileMetrics : Bool := false
  scheduleDispatchTimeNs : Int := 0
  finishReqIds : List (List Int) := []
  recomputeReqIds : List (List Int) := []
  runningReqs : List InferRequest := []
  executorRunningReqs : List ExecutorInferRequest := []
  runningReqPatches : List InferRequestPatch := []
  liveReqIds : List Int := []
  structuredGeneratorConfigs : AList fun _ : Int => StructuredGeneratorConfig := ∅
  needCreateGeneratorReqIds : Finset Int := ∅
  reqSerializationSnapshots : SerializationSnapshots := ∅
deriving DecidableEq

/-- The request takes part in this launch. -/
def InferRequest.awaitsLaunch (req : InferRequest) : Bool := !req.isStopped && req.hasPlanningTask

/-- What the launch copies of a request; the transfer mode was decided before. -/
def InferRequestSerializationSnapshot.capture (snap : InferRequestSerializationSnapshot)
    (req : InferRequest) (usePlaceholderForLastToken : Bool) :
    InferRequestSerializationSnapshot :=
  { snap with
    forwardingTokens := req.forwardingTokens
    placeholderOffsetInSnapshot :=
      if usePlaceholderForLastToken then req.getLatestPendingPlaceholderOffset else none
    kvCachedTokenNum := req.kvCachedTokenNum
    forwardingTokensDraftNum := req.forwardingTokensDraftNum
    samplingTokenNum := req.samplingTokenNum
    kvCacheBlocks := req.kvCacheBlocks
    swaKvCacheBlocks := req.swaKvCacheBlocks
    swaKvCacheBlockIdxOffsets := req.swaKvCacheBlockIdxOffsets
    prefixCacheLen := req.prefixCacheLen
    step := req.step
    forwardStepKind := req.forwardStepKind }

/-- The values a full request is written with: the snapshot, else the live request. -/
def sentSnapshot (snapshot : Option InferRequestSerializationSnapshot) (req : InferRequest) :
    InferRequestSerializationSnapshot :=
  snapshot.getD (InferRequestSerializationSnapshot.capture {} req false)

/-- The patch of a request. Without a snapshot it has no placeholder offset. -/
def buildPatch (snapshot : Option InferRequestSerializationSnapshot) (req : InferRequest) :
    InferRequestPatch :=
  let patch : InferRequestPatch :=
    { reqId := req.reqId
      step := req.step
      inferStage := req.inferStage
      prefixCacheLen := req.prefixCacheLen
      kvFromRemote := req.pdV2.kvFromRemote
      forwardingTokensOffset := 0
      kvCacheBlocksOffset := 0 }
  match snapshot with
  | some snap =>
    { patch with
      kvCachedTokenNum := snap.kvCachedTokenNum
      forwardingTokensDraftNum := snap.forwardingTokensDraftNum
      samplingTokenNum := snap.samplingTokenNum
      deltaForwardingTokens := snap.forwardingTokens
      deltaKvCacheBlocks := snap.kvCacheBlocks
      swaKvCacheBlocks := snap.swaKvCacheBlocks
      swaKvCacheBlockIdxOffsets := snap.swaKvCacheBlockIdxOffsets
      prefixCacheLen := snap.prefixCacheLen
      step := snap.step
      launchPlaceholderOffset := snap.placeholderOffsetInSnapshot
      forwardStepKind := snap.forwardStepKind }
  | none =>
    { patch with
      kvCachedTokenNum := req.kvCachedTokenNum
      forwardingTokensDraftNum := req.forwardingTokensDraftNum
      samplingTokenNum := req.samplingTokenNum
      deltaForwardingTokens := req.forwardingTokens
      deltaKvCacheBlocks := req.kvCacheBlocks
      swaKvCacheBlocks := req.swaKvCacheBlocks
      swaKvCacheBlockIdxOffsets := req.swaKvCacheBlockIdxOffsets
      forwardStepKind := req.forwardStepKind }

/-- The launch loop: the requests launched, in order, the running requests after it, and
the snapshots. -/
def launchRunningReqs [DraftTokensApi] (fastPath : Bool) :
    List InferRequest → SerializationSnapshots →
      Except String (Bool × List InferRequest × SerializationSnapshots)
  | [], snapshots => .ok (false, [], snapshots)
  | req :: reqs, snapshots =>
    if req.awaitsLaunch then do
      let usePlaceholderForLastToken := req.hasInflightTask
      let launched ← req.launchPlanningTask fastPath usePlaceholderForLastToken
      let snap := ((snapshots.lookup req.reqId).getD {}).capture launched usePlaceholderForLastToken
      let (_, rest, snapshots) ← launchRunningReqs fastPath reqs (snapshots.insert req.reqId snap)
      .ok (true, launched :: rest, snapshots)
    else do
      let (launchedAny, rest, snapshots) ← launchRunningReqs fastPath reqs snapshots
      .ok (launchedAny, req :: rest, snapshots)

namespace ScheduleOutput

def isLaunchable (output : ScheduleOutput) (maxDepth : Nat) : Bool :=
  output.runningReqs.all (fun req => !req.awaitsLaunch || req.hasInflightCapacity maxDepth) &&
    output.runningReqs.any InferRequest.awaitsLaunch

def hasAnyPlanningTask (output : ScheduleOutput) : Bool :=
  output.runningReqs.any InferRequest.awaitsLaunch

/-- Launch every request that has a planning task. The flag tells whether there was one. -/
def launchScheduleOutput [DraftTokensApi] (fastPath : Bool) (output : ScheduleOutput)
    (maxDepth : Nat) : Except String (Bool × ScheduleOutput) :=
  if output.isLaunchable maxDepth then do
    let (launchedAny, reqs, snapshots) ←
      launchRunningReqs fastPath output.runningReqs output.reqSerializationSnapshots
    .ok (launchedAny, { output with runningReqs := reqs, reqSerializationSnapshots := snapshots })
  else .ok (false, output)

def snapshotOf (output : ScheduleOutput) (req : InferRequest) :
    Option InferRequestSerializationSnapshot :=
  output.reqSerializationSnapshots.lookup req.reqId

/-- How a request is transferred: what its snapshot decided, else the live flag. -/
def transfersPatch (output : ScheduleOutput) (req : InferRequest) : Bool :=
  match output.snapshotOf req with
  | some snap => if snap.patchTransferPopulated then snap.patchTransfer else req.patchTransfer
  | none => req.patchTransfer

/-- The requests that travel in full. -/
def fullRunningReqs (output : ScheduleOutput) : List InferRequest :=
  output.runningReqs.filter fun req => !output.transfersPatch req

/-- The patches of the others, in the order of the running requests. -/
def patchRunningReqs (output : ScheduleOutput) : List InferRequestPatch :=
  (output.runningReqs.filter output.transfersPatch).map fun req =>
    buildPatch (output.snapshotOf req) req

/-- The requests on the wire, full ones first, each with the tokens it is sent with. -/
def transmitted (output : ScheduleOutput) : List (Int × List Int) :=
  output.fullRunningReqs.map (fun req =>
    (req.reqId, (sentSnapshot (output.snapshotOf req) req).forwardingTokens)) ++
  output.patchRunningReqs.map fun patch => (patch.reqId, patch.deltaForwardingTokens)

/-- Make it empty again, but keep the running requests. -/
def resetDataForWorkers (output : ScheduleOutput) : ScheduleOutput :=
  { output with
    finishReqIds := []
    recomputeReqIds := []
    structuredGeneratorConfigs := ∅
    needCreateGeneratorReqIds := ∅
    reqSerializationSnapshots := ∅
    liveReqIds := [] }

/-- Make it empty again, on a worker. -/
def clear (output : ScheduleOutput) : ScheduleOutput :=
  { output.resetDataForWorkers with runningReqs := [], executorRunningReqs := [] }

end ScheduleOutput

end KsanaBuildAhead.Runtime
