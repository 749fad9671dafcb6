import KsanaBuildAhead.Lib.Execution
import KsanaBuildAhead.Runtime.InferRequestSteps

/-!
# Runs of one request

What the scheduler does to a request between its first prefill chunk and its
last result: plan a step, launch it, retire the oldest one with what it
returned. A placeholder stands for the last token whenever a step is in flight.
-/
namespace KsanaBuildAhead.Engine

open KsanaBuildAhead.Runtime KsanaBuildAhead.Lib.ListEdit

/-- What a finished step returns for one request. -/
structure StepResult where
  generatedTokens : List Int := []
  acceptedTokens : List Int := []
  draftTokens : DraftTokens := {}
deriving Repr, DecidableEq

inductive RequestAction where
  | plan (workload : ScheduleTaskWorkload)
  | launch
  | retire (result : StepResult)
deriving Repr, DecidableEq

/-- The result of the oldest step reaches the request. -/
def deliver (req : InferRequest) (result : StepResult) : InferRequest :=
  { req with
    generatedTokens := result.generatedTokens
    acceptedTokens := result.acceptedTokens
    draftTokens := result.draftTokens }

variable [DraftTokensApi]

/-- Retirement of the oldest step with its result. -/
def retire (req : InferRequest) (result : StepResult) : Except String InferRequest := do
  let updated ← (deliver req result).updateAfterInflightTaskFinished
  .ok updated.resetInflightTask

/-- What launching a schedule output does to one of its requests. -/
def launch (fastPath : Bool) (maxDepth : Nat) (req : InferRequest) : Except String InferRequest := do
  check (req.isStopped = false ∧ req.hasPlanningTask = true ∧ req.hasInflightCapacity maxDepth = true)
    "not launchable"
  req.launchPlanningTask fastPath req.hasInflightTask

/-- One action of the scheduler on one request at pipeline depth `maxDepth`. -/
def requestStep (fastPath : Bool) (maxDepth : Nat) (req : InferRequest) :
    RequestAction → Except String InferRequest
  | .plan workload => (req.setPlanningWorkload workload).setPlanningTask
  | .launch => launch fastPath maxDepth req
  | .retire result => retire req result

/-- Plan the next decode step while one is in flight, then launch it ahead of its result. -/
def launchAhead (req : InferRequest) (draftTokenNum : Nat) : Except String InferRequest := do
  let estimated ← req.setInflightTaskGenResultEstimation kStepGenerateTokenNum draftTokenNum
  let planned ← estimated.setPlanningTask
  planned.launchPlanningTask true true

/-- Plan a decode step for a request with nothing in flight, and launch it. -/
def launchSlow (fastPath : Bool) (req : InferRequest) (draftTokenNum : Nat) :
    Except String InferRequest := do
  let planned ← (req.setPlanningWorkload
    { generatedTokenNum := kStepGenerateTokenNum, draftTokenNum := draftTokenNum }).setPlanningTask
  planned.launchPlanningTask fastPath false

theorem retire_of_update {req updated : InferRequest} {result : StepResult}
    (h : (deliver req result).updateAfterInflightTaskFinished = .ok updated) :
    retire req result = .ok updated.resetInflightTask := by
  rw [retire, h]
  rfl

/-- A middle chunk retires: only its KV counts, and whatever came back is dropped. -/
theorem retire_split (req : InferRequest) (result : StepResult) (inflight : ScheduleTask)
    (queue : List ScheduleTask) (heos : req.isEosGenerated = false)
    (hsplit : req.isSplitPrefillStep = true) (hinflight : req.inflightTasks = inflight :: queue) :
    retire req result = .ok { req with
      generatedTokens := []
      acceptedTokens := result.acceptedTokens
      draftTokens := DraftTokensApi.clear result.draftTokens
      kvCachedTokenNum := req.forwardingTokens.length
      remainingWorkload := { req.remainingWorkload with generatedTokenNum := 0, draftTokenNum := 0 }
      planningWorkload := if 0 < req.remainingWorkload.prefillTokenNum then
        { prefillTokenNum := req.remainingWorkload.prefillTokenNum } else {}
      inflightTasks := queue } := by
  have hupdate := InferRequest.updateAfterInflightTaskFinished_split (deliver req result)
    hinflight heos hsplit
  rw [retire_of_update hupdate]
  by_cases hremaining : 0 < req.remainingWorkload.prefillTokenNum <;>
    simp [deliver, InferRequest.planGeneratedTokens, InferRequest.resetInflightTask, hinflight,
      InferRequest.refreshWorkloads, hremaining]

/-- A step launched ahead of a stop token retires: its tokens and its block are dropped. -/
theorem retire_eos (req : InferRequest) (result : StepResult) (inflight : ScheduleTask)
    (queue : List ScheduleTask) (heos : req.isEosGenerated = true)
    (hinflight : req.inflightTasks = inflight :: queue) :
    retire req result = .ok { (deliver req result).discardStepAfterEos with
      inflightTasks := queue } := by
  have hupdate := InferRequest.updateAfterInflightTaskFinished_eos (deliver req result)
    hinflight heos
  rw [retire_of_update hupdate]
  simp [deliver, InferRequest.discardStepAfterEos, InferRequest.resetInflightTask, hinflight]

section Retire

variable (req : InferRequest) (result : StepResult) (inflight next : ScheduleTask)
  (pre drafts : List Int) (main bonus : Int) (draftNum nextDraftNum : Nat)
  (heos : req.isEosGenerated = false) (hsplit : req.isSplitPrefillStep = false)
include heos hsplit

/-- The step before a reserved block retires: the block takes its token and drafts. -/
theorem retire_backfill (hinflight : req.inflightTasks = [inflight, next])
    (hpositions : req.pendingPlaceholderPositions = [pre.length])
    (hdraftNums : req.pendingPlaceholderDraftNums = [draftNum])
    (hforwarding : req.forwardingTokens =
      pre ++ List.replicate (1 + draftNum) kFastPathPlaceholderTokenId)
    (hresult : result.generatedTokens = [main]) :
    retire req result = .ok { req with
      generatedTokens := []
      acceptedTokens := result.acceptedTokens
      draftTokens := result.draftTokens
      inferStage := .decode
      forwardingTokens := pre ++ main ::
        resize (DraftTokensApi.getDraftTokens result.draftTokens) draftNum
          kFastPathPlaceholderTokenId
      outputTokens := req.outputTokens ++ [main]
      isEosGenerated := req.samplingConfig.stopTokenIds.contains main
      remainingWorkload := { req.remainingWorkload with
        generatedTokenNum := 1, draftTokenNum := DraftTokensApi.size result.draftTokens }
      planningWorkload :=
        { generatedTokenNum := 1, draftTokenNum := DraftTokensApi.size result.draftTokens }
      inflightTasks := [next] } := by
  have hcount : 1 < (deliver req result).getInflightCount := by
    simp [InferRequest.getInflightCount, deliver, hinflight]
  have hfill := InferRequest.tryRetireBackfillNextPlaceholderBlock_fills (deliver req result)
    hcount hpositions hdraftNums hforwarding hresult
  have hupdate := InferRequest.updateAfterInflightTaskFinished_backfill (deliver req result)
    hinflight heos hsplit (by simp [deliver, hpositions]) hfill
  rw [retire_of_update hupdate]
  simp [deliver, InferRequest.planGeneratedTokens, InferRequest.resetInflightTask, hinflight, heos,
    hresult]

theorem retire_ownNext (hinflight : req.inflightTasks = [inflight, next])
    (hpositions : req.pendingPlaceholderPositions =
      [pre.length, pre.length + 1 + drafts.length])
    (hdraftNums : req.pendingPlaceholderDraftNums = [drafts.length, nextDraftNum])
    (hforwarding : req.forwardingTokens = pre ++ main :: (drafts ++
      List.replicate (1 + nextDraftNum) kFastPathPlaceholderTokenId))
    (hreal : main ≠ kFastPathPlaceholderTokenId)
    (haccepted : result.acceptedTokens.length ≤ drafts.length)
    (hresult : result.generatedTokens = [bonus]) :
    retire req result = .ok { req with
      generatedTokens := []
      acceptedTokens := []
      draftTokens := result.draftTokens
      inferStage := .decode
      pendingPlaceholderPositions := [pre.length + 1 + result.acceptedTokens.length]
      pendingPlaceholderDraftNums := [nextDraftNum]
      forwardingTokens := pre ++ main :: (result.acceptedTokens ++ bonus ::
        resize (DraftTokensApi.getDraftTokens result.draftTokens) nextDraftNum
          kFastPathPlaceholderTokenId)
      outputTokens := req.outputTokens ++ result.acceptedTokens ++ [bonus]
      isEosGenerated := req.samplingConfig.stopTokenIds.contains bonus
      kvCachedTokenNum := pre.length + 1 + result.acceptedTokens.length
      forwardingTokensDraftNum := nextDraftNum
      remainingWorkload := { req.remainingWorkload with
        generatedTokenNum := 1, draftTokenNum := DraftTokensApi.size result.draftTokens }
      planningWorkload :=
        { generatedTokenNum := 1, draftTokenNum := DraftTokensApi.size result.draftTokens }
      inflightTasks := [next] } := by
  have hmain : (deliver req result).forwardingTokens[
      (deliver req result).pendingPlaceholderPositions.headD 0]? ≠
        some kFastPathPlaceholderTokenId := by
    simp [deliver, hpositions, hforwarding, hreal]
  have hupdate := InferRequest.updateAfterInflightTaskFinished_own (deliver req result)
    hinflight heos hsplit (by simp [deliver, hpositions]) (Or.inr hmain)
  rw [InferRequest.retireOwnPlaceholderBlockAndShift_next (deliver req result) hpositions
    hdraftNums hforwarding haccepted hresult] at hupdate
  rw [retire_of_update hupdate]
  simp [deliver, InferRequest.planGeneratedTokens, InferRequest.resetInflightTask, hinflight, heos,
    hresult]

theorem retire_ownLast (queue : List ScheduleTask)
    (hinflight : req.inflightTasks = inflight :: queue)
    (hpositions : req.pendingPlaceholderPositions = [pre.length])
    (hdraftNums : req.pendingPlaceholderDraftNums = [drafts.length])
    (hforwarding : req.forwardingTokens = pre ++ main :: drafts)
    (hown : queue = [] ∨ main ≠ kFastPathPlaceholderTokenId)
    (haccepted : result.acceptedTokens.length ≤ drafts.length) :
    retire req result = .ok { req with
      generatedTokens := []
      acceptedTokens := []
      draftTokens := result.draftTokens
      inferStage := .decode
      pendingPlaceholderPositions := []
      pendingPlaceholderDraftNums := []
      forwardingTokens := pre ++ main :: result.acceptedTokens
      outputTokens := req.outputTokens ++ result.acceptedTokens ++ result.generatedTokens
      isEosGenerated := req.endsWithStopToken
        (req.outputTokens ++ result.acceptedTokens ++ result.generatedTokens)
      kvCachedTokenNum := pre.length + 1 + result.acceptedTokens.length
      forwardingTokensDraftNum := 0
      remainingWorkload := { req.remainingWorkload with
        generatedTokenNum := result.generatedTokens.length
        draftTokenNum := DraftTokensApi.size result.draftTokens }
      planningWorkload :=
        { generatedTokenNum := result.generatedTokens.length
          draftTokenNum := DraftTokensApi.size result.draftTokens }
      inflightTasks := queue } := by
  have hmain : (deliver req result).getInflightCount ≤ 1 ∨
      (deliver req result).forwardingTokens[
        (deliver req result).pendingPlaceholderPositions.headD 0]? ≠
          some kFastPathPlaceholderTokenId := by
    rcases hown with hsingle | hreal
    · left
      simp [InferRequest.getInflightCount, deliver, hinflight, hsingle]
    · right
      simp [deliver, hpositions, hforwarding, hreal]
  have hupdate := InferRequest.updateAfterInflightTaskFinished_own (deliver req result)
    hinflight heos hsplit (by simp [deliver, hpositions]) hmain
  rw [InferRequest.retireOwnPlaceholderBlockAndShift_last (deliver req result) hpositions
    hdraftNums hforwarding haccepted] at hupdate
  rw [retire_of_update hupdate]
  simp [deliver, InferRequest.planGeneratedTokens, InferRequest.resetInflightTask, hinflight, heos,
    InferRequest.endsWithStopToken]

/-- The only step in flight retires without a placeholder block: the accepted drafts
stay in the sequence and the generated tokens wait for the next launch. -/
theorem retire_plain (hinflight : req.inflightTasks = [inflight])
    (hpositions : req.pendingPlaceholderPositions = [])
    (hforwarding : req.forwardingTokens = pre ++ drafts)
    (hdraftNum : req.forwardingTokensDraftNum = drafts.length)
    (hworkload : inflight.workload.draftTokenNum = drafts.length)
    (haccepted : result.acceptedTokens <+: drafts)
    (hprefill : req.remainingWorkload.prefillTokenNum = 0) :
    retire req result = .ok { req with
      generatedTokens := result.generatedTokens
      acceptedTokens := []
      draftTokens := result.draftTokens
      inferStage := .decode
      forwardingTokens := pre ++ result.acceptedTokens
      outputTokens := req.outputTokens ++ result.acceptedTokens ++ result.generatedTokens
      isEosGenerated := req.endsWithStopToken
        (req.outputTokens ++ result.acceptedTokens ++ result.generatedTokens)
      kvCachedTokenNum := (pre ++ result.acceptedTokens).length
      remainingWorkload := { req.remainingWorkload with
        generatedTokenNum := result.generatedTokens.length
        draftTokenNum := DraftTokensApi.size result.draftTokens }
      planningWorkload :=
        { generatedTokenNum := result.generatedTokens.length
          draftTokenNum := DraftTokensApi.size result.draftTokens }
      inflightTasks := [] } := by
  have hupdate := InferRequest.updateAfterInflightTaskFinished_plain (deliver req result)
    hinflight heos hsplit hpositions
  rw [InferRequest.retireWithoutPlaceholder_prefix (deliver req result) inflight.workload
    hforwarding hdraftNum hworkload haccepted] at hupdate
  rw [retire_of_update hupdate]
  simp [deliver, InferRequest.planGeneratedTokens, InferRequest.resetInflightTask, hinflight, heos,
    InferRequest.endsWithStopToken, InferRequest.refreshWorkloads, hprefill]

end Retire

end KsanaBuildAhead.Engine
