import KsanaBuildAhead.Engine.PlaceholderQueue

/-!
# The log of the launches

What each launch of a run sent, and where in it the query of the step before starts. The
log only grows; while the request runs, its newest record and the pending blocks tell the
same story, so that a block stands right behind the drafts of the step before.
-/
namespace KsanaBuildAhead.Engine

open KsanaBuildAhead.Runtime KsanaBuildAhead.Lib.ListEdit KsanaBuildAhead.Lib.Execution

/-- One launch: the request as it was sent, where its block and its query start, and, by
then, where the query of the step before starts and how many drafts that step carries. -/
structure LaunchRecord where
  launched : InferRequest
  blockStart : Option Nat
  queryStart : Nat
  prevStart : Nat
  prevDraftNum : Nat
deriving DecidableEq

namespace LaunchRecord

def draftNum (record : LaunchRecord) : Nat := record.launched.forwardingTokensDraftNum

/-- The Executor samples in this step. -/
def samples (record : LaunchRecord) : Bool :=
  !isPrefillChunkMidStep record.launched.forwardStepKind

end LaunchRecord

/-- The record of a launch. The step before it is the newest one in flight: behind its own
block, or where its launch put it. -/
def launchRecord (log : List LaunchRecord) (req launched : InferRequest) : LaunchRecord where
  launched := launched
  blockStart := (InferRequestSerializationSnapshot.capture {} launched
    req.hasInflightTask).placeholderOffsetInSnapshot
  queryStart :=
    if 0 < req.planningTask.workload.prefillTokenNum then
      req.planningTask.workload.prefillStartOffset
    else req.forwardingTokens.length
  prevStart := req.pendingPlaceholderPositions.getLast?.getD
    ((log.getLast?.map LaunchRecord.queryStart).getD 0)
  prevDraftNum :=
    (req.inflightTasks.getLast?.map fun task => task.workload.draftTokenNum).getD 0

/-- The draft slots of the latest block in the log. -/
def latestBlockDraftNum (log : List LaunchRecord) : Nat :=
  log.foldl (fun slots record => if record.blockStart.isSome then record.draftNum else slots) 0

theorem latestBlockDraftNum_concat (log : List LaunchRecord) (record : LaunchRecord) :
    latestBlockDraftNum (log ++ [record]) =
      if record.blockStart.isSome then record.draftNum else latestBlockDraftNum log := by
  rw [latestBlockDraftNum, List.foldl_append]
  rfl

/-- A run with the log of its launches and the number of its retired steps. -/
structure LoggedRun where
  engine : PipelineState
  retired : Nat := 0
  log : List LaunchRecord := []
deriving DecidableEq

def loggedStep [DraftTokensApi] (s : LoggedRun) (op : PipelineOp) : Except String LoggedRun := do
  let engine ← pipelineStep true kMaxInflightDepth s.engine op
  .ok {
    engine := engine
    retired := if op = .finish then s.retired + 1 else s.retired
    log := if op = .launch then s.log ++ [launchRecord s.log s.engine.req engine.req] else s.log }

/-- What a step returns are vocabulary tokens: drafts from every step, and from one that samples
one token and at most the drafts it carried. -/
def StepReturnsTokens [DraftTokensApi] (req : InferRequest) (step : ScheduleTask)
    (result : StepResult) : Prop :=
  (∀ token ∈ DraftTokensApi.getDraftTokens result.draftTokens, 0 ≤ token) ∧
    (¬ IsMiddleChunk req step →
      SampledResult step result ∧ ∀ token ∈ result.acceptedTokens, 0 ≤ token)

/-- Without finish or recompute: nothing restarts the request, nothing is launched behind its
stop token, and the `k`-th launch returns `results k`. Every launch has tokens to forward. -/
def LogPermitted [DraftTokensApi] (results : Nat → StepResult) (s : LoggedRun) : PipelineOp → Prop
  | .restart _ => False
  | .generateDrafts drafts => ∀ token ∈ DraftTokensApi.getDraftTokens drafts, 0 ≤ token
  | .plan workload => PlanFollows s.engine.req workload
  | .launch => s.engine.req.isEosGenerated = false ∧
    match pipelineStep true kMaxInflightDepth s.engine .launch with
    | .ok t =>
      (launchRecord s.log s.engine.req t.req).queryStart < t.req.forwardingTokens.length ∧
        ∀ step ∈ t.req.inflightTasks.getLast?,
          StepReturnsTokens t.req step (results s.log.length)
    | .error _ => True
  | .deliver result => result = results s.retired
  | .finish => True

/-- A launch that reserves a block finds in front of it the block of the step before, or a
step without drafts and no draft slots in the latest block; and that step returns a draft for
every slot. No decode step is launched on a token that waits for its retirement. -/
def LaunchesRepairable [DraftTokensApi] (results : Nat → StepResult) (s : LoggedRun) :
    PipelineOp → Prop
  | .launch => ¬ LaunchesOnDeliveredToken s.engine.req ∧
    match pipelineStep true kMaxInflightDepth s.engine .launch with
    | .ok t =>
      let record := launchRecord s.log s.engine.req t.req
      record.blockStart.isSome = true →
        (s.engine.req.pendingPlaceholderPositions ≠ [] ∨
          record.prevDraftNum = 0 ∧ latestBlockDraftNum s.log = 0) ∧
        record.draftNum ≤ (results (s.log.length - 1)).draftTokens.mtp.length
    | .error _ => True
  | _ => True

instance [DraftTokensApi] (req : InferRequest) (step : ScheduleTask) (result : StepResult) :
    Decidable (StepReturnsTokens req step result) :=
  inferInstanceAs (Decidable (_ ∧ (¬ (_ ∧ _) → _ ∧ _)))

instance [DraftTokensApi] (results : Nat → StepResult) (s : LoggedRun) :
    (op : PipelineOp) → Decidable (LogPermitted results s op)
  | .restart _ => .isFalse id
  | .generateDrafts _ => by unfold LogPermitted; infer_instance
  | .plan _ => by unfold LogPermitted; infer_instance
  | .launch => by
    unfold LogPermitted
    cases pipelineStep true kMaxInflightDepth s.engine .launch <;> infer_instance
  | .deliver _ => by unfold LogPermitted; infer_instance
  | .finish => .isTrue trivial

instance [DraftTokensApi] (results : Nat → StepResult) (s : LoggedRun) :
    (op : PipelineOp) → Decidable (LaunchesRepairable results s op)
  | .launch => by
    unfold LaunchesRepairable
    cases pipelineStep true kMaxInflightDepth s.engine .launch <;> infer_instance
  | .restart _ | .generateDrafts _ | .plan _ | .deliver _ | .finish => .isTrue trivial

/-- How many drafts of the step before the `k`-th were rejected. -/
def rejectedBefore (results : Nat → StepResult) (k : Nat) (record : LaunchRecord) : Nat :=
  record.prevDraftNum - (results (k - 1)).acceptedTokens.length

/-- The block of step `j + 1` stands at the end, behind the drafts of step `j`: where the
retirement of the step before that has moved the block of step `j`, or behind the real tokens
of a step without drafts. -/
structure BlockInOrder (results : Nat → StepResult) (log : List LaunchRecord) (j : Nat)
    (prev record : LaunchRecord) (start : Nat) : Prop where
  decodes : record.launched.forwardStepKind = .decode
  block : record.launched.forwardingTokens.drop start =
    List.replicate (1 + record.draftNum) kFastPathPlaceholderTokenId
  enough : record.draftNum ≤ (results j).draftTokens.mtp.length
  samples : prev.samples = true
  prevDraftNum : record.prevDraftNum = prev.draftNum
  behindReal : prev.blockStart = none → record.prevDraftNum = 0 ∧ record.prevStart < start ∧
    latestBlockDraftNum (log.take (j + 1)) = 0
  behindBlock : ∀ prevBlock, prev.blockStart = some prevBlock →
    record.prevStart + rejectedBefore results j prev = prevBlock ∧
      start = record.prevStart + 1 + record.prevDraftNum

/-- The `k`-th step returns a token if it samples; without a block it forwards real tokens only,
and its block is in order otherwise. -/
structure RecordInOrder (results : Nat → StepResult) (log : List LaunchRecord) (k : Nat)
    (record : LaunchRecord) : Prop where
  returns : record.samples = true → ∃ token, (results k).generatedTokens = [token] ∧ 0 ≤ token ∧
    (results k).acceptedTokens.length ≤ record.draftNum
  unplaced : record.blockStart = none → kFastPathPlaceholderTokenId ∉ record.launched.forwardingTokens
  placed : ∀ start, record.blockStart = some start →
    ∃ j prev, k = j + 1 ∧ log[j]? = some prev ∧ BlockInOrder results log j prev record start

def LogInOrder (results : Nat → StepResult) (log : List LaunchRecord) : Prop :=
  ∀ k record, log[k]? = some record → RecordInOrder results log k record

theorem RecordInOrder.concat {results : Nat → StepResult} {log : List LaunchRecord} {k : Nat}
    {record : LaunchRecord} (hrecord : RecordInOrder results log k record) (hk : k ≤ log.length)
    (next : LaunchRecord) : RecordInOrder results (log ++ [next]) k record where
  returns := hrecord.returns
  unplaced := hrecord.unplaced
  placed := by
    intro start hstart
    obtain ⟨j, prev, rfl, hprev, hblock⟩ := hrecord.placed start hstart
    refine ⟨j, prev, rfl, ?_, { hblock with behindReal := ?_ }⟩
    · rw [List.getElem?_append_left (by omega)]
      exact hprev
    · rw [List.take_append_of_le_length hk]
      exact hblock.behindReal

theorem LogInOrder.concat {results : Nat → StepResult} {log : List LaunchRecord}
    {record : LaunchRecord} (hlog : LogInOrder results log)
    (hrecord : RecordInOrder results log log.length record) :
    LogInOrder results (log ++ [record]) := by
  intro k found hfound
  rcases getElem?_concat_eq_some hfound with hold | ⟨rfl, rfl⟩
  · exact (hlog k found hold).concat (Nat.le_of_lt (List.getElem?_eq_some_iff.mp hold).1) record
  · exact hrecord.concat (Nat.le_refl _) found

/-- Where the pending blocks and the newest record stand. A request whose token waits for its
next launch has no block and gets none; otherwise the newest step in flight is the one of the
newest record. -/
inductive BlockPhase (results : Nat → StepResult) (s : LoggedRun) : Prop
  | settled (hpositions : s.engine.req.pendingPlaceholderPositions = [])
      (hgenerated : s.engine.req.generatedTokens ≠ [])
      (hvocab : ∀ token ∈ s.engine.req.generatedTokens, 0 ≤ token)
      (hsampled : ∀ task ∈ s.engine.req.inflightTasks, ¬ IsMiddleChunk s.engine.req task)
      (hleft : s.engine.req.remainingWorkload.prefillTokenNum = 0)
      (htask : s.engine.req.planningTask.workload.prefillTokenNum = 0)
  | unblocked (hpositions : s.engine.req.pendingPlaceholderPositions = [])
      (hmiddle : ∀ older newer, s.engine.req.inflightTasks = [older, newer] →
        IsMiddleChunk s.engine.req older)
      (hgenerated : s.engine.delivered = none → s.engine.req.generatedTokens = [])
      (hdelivered : s.engine.delivered ≠ none → ∀ oldest ∈ s.engine.req.inflightTasks.head?,
        IsMiddleChunk s.engine.req oldest)
      (hnewest : ∀ newest ∈ s.engine.req.inflightTasks.getLast?, ∃ record,
        s.log.getLast? = some record ∧ record.blockStart = none ∧
        record.queryStart < s.engine.req.forwardingTokens.length ∧
        (¬ IsMiddleChunk s.engine.req newest →
          record.samples = true ∧ record.draftNum = newest.workload.draftTokenNum))
  | realThenBlock (older newer : ScheduleTask) (pos : Nat) (record : LaunchRecord)
      (hinflight : s.engine.req.inflightTasks = [older, newer])
      (hpositions : s.engine.req.pendingPlaceholderPositions = [pos])
      (hdraftNums : s.engine.req.pendingPlaceholderDraftNums = [newer.workload.draftTokenNum])
      (hend : pos + 1 + newer.workload.draftTokenNum = s.engine.req.forwardingTokens.length)
      (hmain : s.engine.req.forwardingTokens[pos]? = some kFastPathPlaceholderTokenId)
      (hlast : s.log.getLast? = some record) (hsamples : record.samples = true)
      (hdraftNum : record.draftNum = newer.workload.draftTokenNum)
      (hblock : record.blockStart = some pos) (hprev : record.prevDraftNum = 0)
  | ownBlock (step : ScheduleTask) (pos : Nat) (record : LaunchRecord)
      (hinflight : s.engine.req.inflightTasks = [step])
      (hpositions : s.engine.req.pendingPlaceholderPositions = [pos])
      (hdraftNums : s.engine.req.pendingPlaceholderDraftNums = [step.workload.draftTokenNum])
      (hend : pos + 1 + step.workload.draftTokenNum = s.engine.req.forwardingTokens.length)
      (hlast : s.log.getLast? = some record) (hsamples : record.samples = true)
      (hdraftNum : record.draftNum = step.workload.draftTokenNum)
      (hblock : record.blockStart = some (pos + rejectedBefore results s.retired record))
  | twoBlocks (older newer : ScheduleTask) (pos : Nat) (record : LaunchRecord)
      (hinflight : s.engine.req.inflightTasks = [older, newer])
      (hpositions : s.engine.req.pendingPlaceholderPositions =
        [pos, pos + 1 + older.workload.draftTokenNum])
      (hdraftNums : s.engine.req.pendingPlaceholderDraftNums =
        [older.workload.draftTokenNum, newer.workload.draftTokenNum])
      (hend : pos + 1 + older.workload.draftTokenNum + 1 + newer.workload.draftTokenNum =
        s.engine.req.forwardingTokens.length)
      (hlast : s.log.getLast? = some record) (hsamples : record.samples = true)
      (hdraftNum : record.draftNum = newer.workload.draftTokenNum)
      (hblock : record.blockStart = some (pos + 1 + older.workload.draftTokenNum))
      (hprev : record.prevDraftNum = older.workload.draftTokenNum)

/-- In front of the first pending block the request holds vocabulary tokens only. -/
structure VocabTokens [DraftTokensApi] (req : InferRequest) : Prop where
  prefilling : ∀ token ∈ req.prefillingTokens, 0 ≤ token
  drafts : ∀ token ∈ DraftTokensApi.getDraftTokens req.draftTokens, 0 ≤ token
  forwarding : ∀ token ∈ req.forwardingTokens.take
    (req.pendingPlaceholderPositions.headD req.forwardingTokens.length), 0 ≤ token

/-- What every operation of a running request keeps. -/
structure LiveLog [DraftTokensApi] (results : Nat → StepResult) (s : LoggedRun) : Prop where
  queue : QueueInvariant SampledResult s.engine
  count : s.log.length = s.retired + s.engine.req.inflightTasks.length
  arrives : ∀ result, s.engine.delivered = some result → result = results s.retired
  chunksFirst : 0 < s.engine.req.remainingWorkload.prefillTokenNum ∨
    0 < s.engine.req.planningTask.workload.prefillTokenNum →
      ∀ task ∈ s.engine.req.inflightTasks, IsMiddleChunk s.engine.req task
  returns : ∀ i step, s.engine.req.inflightTasks[i]? = some step →
    StepReturnsTokens s.engine.req step (results (s.retired + i))
  vocab : VocabTokens s.engine.req
  phase : BlockPhase results s

section Live

variable [DraftTokensApi] {results : Nat → StepResult} {s t : LoggedRun} {op : PipelineOp}

theorem loggedStep_ok (h : loggedStep s op = .ok t) :
    pipelineStep true kMaxInflightDepth s.engine op = .ok t.engine ∧
      t.retired = (if op = .finish then s.retired + 1 else s.retired) ∧
      t.log = if op = .launch then s.log ++ [launchRecord s.log s.engine.req t.engine.req]
        else s.log := by
  obtain ⟨engine, hstep, h⟩ := bind_ok h
  obtain rfl := Except.ok.inj h
  exact ⟨hstep, rfl, rfl⟩

theorem LiveLog.oldest (hs : LiveLog results s) (step : ScheduleTask)
    (hstep : step ∈ s.engine.req.inflightTasks.head?) :
    StepReturnsTokens s.engine.req step (results s.retired) := by
  refine hs.returns 0 step ?_
  rw [← List.head?_eq_getElem?]
  exact hstep

theorem LiveLog.permitted (hs : LiveLog results s) (hop : LogPermitted results s op) :
    OpPermitted SampledResult s.engine op := by
  cases op with
  | restart cached => exact hop.elim
  | plan workload => exact hop
  | deliver result =>
    obtain rfl : result = results s.retired := hop
    intro hsplit oldest holdest
    have hwhole : ¬ IsMiddleChunk s.engine.req oldest := fun hmiddle => by
      obtain ⟨queue, hinflight⟩ := List.head?_eq_some_iff.mp holdest
      rw [(isSplitPrefillStep_iff hinflight).mpr hmiddle] at hsplit
      cases hsplit
    exact ((hs.oldest oldest holdest).2 hwhole).1
  | generateDrafts drafts => trivial
  | launch => trivial
  | finish => trivial

theorem VocabTokens.all {req : InferRequest} (hs : VocabTokens req)
    (hnone : req.pendingPlaceholderPositions = []) : ∀ token ∈ req.forwardingTokens, 0 ≤ token := by
  have hforwarding := hs.forwarding
  rwa [hnone, List.headD_nil, List.take_length] at hforwarding

theorem VocabTokens.of_all {req : InferRequest}
    (hprefilling : ∀ token ∈ req.prefillingTokens, 0 ≤ token)
    (hdrafts : ∀ token ∈ DraftTokensApi.getDraftTokens req.draftTokens, 0 ≤ token)
    (hall : ∀ token ∈ req.forwardingTokens, 0 ≤ token) : VocabTokens req :=
  ⟨hprefilling, hdrafts, fun token hmem => hall token (List.mem_of_mem_take hmem)⟩

omit [DraftTokensApi] in
/-- The phase depends on the queues, the sequence, the log and what has arrived. -/
theorem BlockPhase.congr (hs : BlockPhase results s) (hlog : t.log = s.log)
    (hretired : t.retired = s.retired)
    (hinflight' : t.engine.req.inflightTasks = s.engine.req.inflightTasks)
    (hpositions' : t.engine.req.pendingPlaceholderPositions =
      s.engine.req.pendingPlaceholderPositions)
    (hdraftNums' : t.engine.req.pendingPlaceholderDraftNums =
      s.engine.req.pendingPlaceholderDraftNums)
    (hforwarding : t.engine.req.forwardingTokens = s.engine.req.forwardingTokens)
    (hprefilling : t.engine.req.prefillingTokens = s.engine.req.prefillingTokens)
    (harrived' : s.engine.req.pendingPlaceholderPositions = [] →
      t.engine.req.generatedTokens = s.engine.req.generatedTokens ∧
        t.engine.delivered = s.engine.delivered)
    (hleft' : s.engine.req.remainingWorkload.prefillTokenNum = 0 →
      s.engine.req.planningTask.workload.prefillTokenNum = 0 →
      t.engine.req.remainingWorkload.prefillTokenNum = 0 ∧
        t.engine.req.planningTask.workload.prefillTokenNum = 0) : BlockPhase results t := by
  have hmiddle' : ∀ task, IsMiddleChunk t.engine.req task ↔ IsMiddleChunk s.engine.req task := by
    intro task
    rw [IsMiddleChunk, IsMiddleChunk, hprefilling]
  cases hs with
  | settled hpositions hgenerated hvocab hsampled hleft htask =>
    obtain ⟨hleft, htask⟩ := hleft' hleft htask
    obtain ⟨hgenerated', -⟩ := harrived' hpositions
    refine .settled (hpositions'.trans hpositions) ?_ ?_ ?_ hleft htask
    · rw [hgenerated']
      exact hgenerated
    · rw [hgenerated']
      exact hvocab
    · intro task hmem
      rw [hinflight'] at hmem
      rw [hmiddle']
      exact hsampled task hmem
  | unblocked hpositions hmiddle hgenerated hdelivered hnewest =>
    obtain ⟨hgenerated', hdelivered'⟩ := harrived' hpositions
    refine .unblocked (hpositions'.trans hpositions) ?_ ?_ ?_ ?_
    · intro older newer hpair
      rw [hmiddle']
      exact hmiddle older newer (hinflight'.symm.trans hpair)
    · rw [hdelivered', hgenerated']
      exact hgenerated
    · rw [hdelivered', hinflight']
      intro harrived oldest hmem
      rw [hmiddle']
      exact hdelivered harrived oldest hmem
    · rw [hinflight', hlog, hforwarding]
      intro newest hmem
      obtain ⟨record, hlast, hblock, hstart, hsamples⟩ := hnewest newest hmem
      exact ⟨record, hlast, hblock, hstart, fun hwhole => hsamples fun hmid =>
        hwhole ((hmiddle' newest).mpr hmid)⟩
  | realThenBlock older newer pos record hinflight hpositions hdraftNums hend hmain hlast hsamples
      hdraftNum hblock hprev =>
    exact .realThenBlock older newer pos record (hinflight'.trans hinflight)
      (hpositions'.trans hpositions) (hdraftNums'.trans hdraftNums) (by rw [hforwarding]; exact hend)
      (by rw [hforwarding]; exact hmain) (by rw [hlog]; exact hlast) hsamples hdraftNum hblock hprev
  | ownBlock step pos record hinflight hpositions hdraftNums hend hlast hsamples hdraftNum hblock =>
    exact .ownBlock step pos record (hinflight'.trans hinflight) (hpositions'.trans hpositions)
      (hdraftNums'.trans hdraftNums) (by rw [hforwarding]; exact hend) (by rw [hlog]; exact hlast)
      hsamples hdraftNum (by rw [hretired]; exact hblock)
  | twoBlocks older newer pos record hinflight hpositions hdraftNums hend hlast hsamples hdraftNum
      hblock hprev =>
    exact .twoBlocks older newer pos record (hinflight'.trans hinflight)
      (hpositions'.trans hpositions) (hdraftNums'.trans hdraftNums) (by rw [hforwarding]; exact hend)
      (by rw [hlog]; exact hlast) hsamples hdraftNum hblock hprev

theorem LiveLog.plan {workload : ScheduleTaskWorkload} (hs : LiveLog results s)
    (hfollows : PlanFollows s.engine.req workload) (h : loggedStep s (.plan workload) = .ok t)
    (hqueue : QueueInvariant SampledResult t.engine) : LiveLog results t := by
  obtain ⟨hstep, hretired, hlog⟩ := loggedStep_ok h
  rw [if_neg (by simp)] at hretired hlog
  obtain ⟨planned, hplan, hstep⟩ := bind_ok hstep
  obtain ⟨hempty, hfit, rfl⟩ := plan_ok hplan
  have hengine := Except.ok.inj hstep
  have hnoTask := ScheduleTask.prefillTokenNum_of_isEmpty hempty
  have hleft : s.engine.req.remainingWorkload.prefillTokenNum = 0 →
      workload.prefillTokenNum = 0 := by
    intro hdone
    rwa [PlanFollows, if_neg (by omega)] at hfollows
  refine ⟨hqueue, ?_, ?_, ?_, ?_, ?_, ?_⟩
  · rw [hlog, hretired, ← hengine]
    exact hs.count
  · rw [hretired, ← hengine]
    exact hs.arrives
  · rw [← hengine]
    intro hprompt
    refine hs.chunksFirst ?_
    by_contra hdone
    have hzero := hleft (by omega)
    simp only at hprompt
    omega
  · rw [hretired, ← hengine]
    exact hs.returns
  · rw [← hengine]
    exact ⟨hs.vocab.prefilling, hs.vocab.drafts, hs.vocab.forwarding⟩
  · refine hs.phase.congr hlog hretired ?_ ?_ ?_ ?_ ?_ ?_ ?_ <;> rw [← hengine]
    · exact fun _ => ⟨rfl, rfl⟩
    · intro hdone _
      have hzero := hleft hdone
      simp only
      omega

theorem LiveLog.generateDrafts {drafts : DraftTokens} (hs : LiveLog results s)
    (hvocab : ∀ token ∈ DraftTokensApi.getDraftTokens drafts, 0 ≤ token)
    (h : loggedStep s (.generateDrafts drafts) = .ok t)
    (hqueue : QueueInvariant SampledResult t.engine) : LiveLog results t := by
  obtain ⟨hstep, hretired, hlog⟩ := loggedStep_ok h
  rw [if_neg (by simp)] at hretired hlog
  have hengine := Except.ok.inj hstep
  refine ⟨hqueue, ?_, ?_, ?_, ?_, ?_, ?_⟩
  · rw [hlog, hretired, ← hengine]
    exact hs.count
  · rw [hretired, ← hengine]
    exact hs.arrives
  · rw [← hengine]
    exact hs.chunksFirst
  · rw [hretired, ← hengine]
    exact hs.returns
  · rw [← hengine]
    exact ⟨hs.vocab.prefilling, hvocab, hs.vocab.forwarding⟩
  · refine hs.phase.congr hlog hretired ?_ ?_ ?_ ?_ ?_ ?_ ?_ <;> rw [← hengine]
    · exact fun _ => ⟨rfl, rfl⟩
    · exact fun hleft htask => ⟨hleft, htask⟩

omit [DraftTokensApi] in
/-- Without a block, a step that samples is the only one in flight or has only such behind it. -/
theorem BlockPhase.sampled_of_oldest (hs : BlockPhase results s)
    (hdepth : s.engine.req.inflightTasks.length ≤ kMaxInflightDepth)
    (hnone : s.engine.req.pendingPlaceholderPositions = []) {oldest : ScheduleTask}
    {queue : List ScheduleTask} (hinflight : s.engine.req.inflightTasks = oldest :: queue)
    (hwhole : ¬ IsMiddleChunk s.engine.req oldest) :
    ∀ task ∈ s.engine.req.inflightTasks, ¬ IsMiddleChunk s.engine.req task := by
  cases hs with
  | settled _ _ _ hsampled => exact hsampled
  | unblocked _ hmiddle =>
    rw [hinflight, kMaxInflightDepth, List.length_cons] at hdepth
    cases queue with
    | nil =>
      rw [hinflight]
      intro task hmem
      obtain rfl := List.mem_singleton.mp hmem
      exact hwhole
    | cons newer rest =>
      obtain rfl : rest = [] := List.eq_nil_of_length_eq_zero (by
        rw [List.length_cons] at hdepth
        omega)
      exact absurd (hmiddle oldest newer hinflight) hwhole
  | realThenBlock _ _ _ _ _ hpositions => simp [hnone] at hpositions
  | ownBlock _ _ _ _ hpositions => simp [hnone] at hpositions
  | twoBlocks _ _ _ _ _ hpositions => simp [hnone] at hpositions

omit [DraftTokensApi] in
theorem BlockPhase.deliver_middle {result : StepResult} (hs : BlockPhase results s)
    (hlog : t.log = s.log)
    (hengine : { s.engine with
      req := Engine.deliver s.engine.req result, delivered := some result } = t.engine)
    (hnone : s.engine.req.pendingPlaceholderPositions = []) {oldest : ScheduleTask}
    {queue : List ScheduleTask} (hinflight : s.engine.req.inflightTasks = oldest :: queue)
    (hmid : IsMiddleChunk s.engine.req oldest) : BlockPhase results t := by
  cases hs with
  | settled _ _ _ hsampled =>
    exact absurd hmid (hsampled oldest (by rw [hinflight]; exact List.mem_cons_self))
  | unblocked hpositions hmiddle hgenerated hdelivered hnewest =>
    have hhead : ∀ task ∈ s.engine.req.inflightTasks.head?, IsMiddleChunk s.engine.req task := by
      rw [hinflight]
      rintro task ⟨⟩
      exact hmid
    refine .unblocked ?_ ?_ ?_ ?_ ?_ <;> rw [← hengine]
    · exact hpositions
    · exact hmiddle
    · exact fun hnone => by cases hnone
    · exact fun _ => hhead
    · rw [hlog]
      exact hnewest
  | realThenBlock _ _ _ _ _ hpositions => simp [hnone] at hpositions
  | ownBlock _ _ _ _ hpositions => simp [hnone] at hpositions
  | twoBlocks _ _ _ _ _ hpositions => simp [hnone] at hpositions

/-- A result arrives: without a block the request has settled, unless a middle chunk is oldest. -/
theorem LiveLog.deliver {result : StepResult} (hs : LiveLog results s)
    (hresult : result = results s.retired) (h : loggedStep s (.deliver result) = .ok t)
    (hqueue : QueueInvariant SampledResult t.engine) : LiveLog results t := by
  obtain ⟨hstep, hretired, hlog⟩ := loggedStep_ok h
  rw [if_neg (by simp)] at hretired hlog
  obtain ⟨⟨hnone, hsome⟩, hstep⟩ := check_bind_ok hstep
  have hengine := Except.ok.inj hstep
  obtain ⟨oldest, queue, hinflight⟩ := List.exists_cons_of_ne_nil hsome
  obtain ⟨hdrafts, hsampled⟩ := hs.oldest oldest (by rw [hinflight]; rfl)
  rw [← hresult] at hdrafts hsampled
  refine ⟨hqueue, ?_, ?_, ?_, ?_, ?_, ?_⟩
  · rw [hlog, hretired, ← hengine]
    exact hs.count
  · rw [hretired, ← hengine]
    intro arrived harrived
    obtain rfl := Option.some.inj harrived
    exact hresult
  · rw [← hengine]
    exact hs.chunksFirst
  · rw [hretired, ← hengine]
    exact hs.returns
  · rw [← hengine]
    exact ⟨hs.vocab.prefilling, hdrafts, hs.vocab.forwarding⟩
  · by_cases hpending : s.engine.req.pendingPlaceholderPositions = []
    · by_cases hmid : IsMiddleChunk s.engine.req oldest
      · exact hs.phase.deliver_middle hlog hengine hpending hinflight hmid
      · obtain ⟨⟨hone, hvocab, -⟩, -⟩ := hsampled hmid
        have hdone : s.engine.req.remainingWorkload.prefillTokenNum = 0 ∧
            s.engine.req.planningTask.workload.prefillTokenNum = 0 := by
          by_contra hprompt
          exact hmid (hs.chunksFirst (by omega) oldest (by rw [hinflight]; exact List.mem_cons_self))
        refine .settled ?_ ?_ ?_ ?_ ?_ ?_ <;> rw [← hengine]
        · exact hpending
        · exact List.ne_nil_of_length_pos (Nat.lt_of_lt_of_eq Nat.zero_lt_one hone.symm)
        · exact hvocab
        · exact hs.phase.sampled_of_oldest hs.queue.blocks.depth hpending hinflight hmid
        · exact hdone.1
        · exact hdone.2
    · have hreq : t.engine.req = Engine.deliver s.engine.req result := by rw [← hengine]
      refine hs.phase.congr hlog hretired (by rw [hreq]; rfl) (by rw [hreq]; rfl)
        (by rw [hreq]; rfl) (by rw [hreq]; rfl) (by rw [hreq]; rfl)
        (fun hnone => absurd hnone hpending) ?_
      rw [← hengine]
      exact fun hleft htask => ⟨hleft, htask⟩

end Live

end KsanaBuildAhead.Engine
