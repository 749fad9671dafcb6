import KsanaBuildAhead.Engine.RequestRun

/-!
# The phases of a request in the pipeline

From the launch of its last prefill chunk on, a request without a stop token is in
one of six shapes: the chunk in flight, a decode step launched behind it, a decode
step with its block filled, a second one launched behind that, or, without
launching ahead, nothing in flight or one step with real tokens. The lemmas give
the successor of each shape under a launch and a retirement.
-/
namespace KsanaBuildAhead.Engine

open KsanaBuildAhead.Runtime KsanaBuildAhead.Lib.ListEdit

/-- No prefill is left to plan, and a planned task is one decode step. -/
structure DecodeReady (req : InferRequest) : Prop where
  remaining : req.remainingWorkload.prefillTokenNum = 0
  offset : req.remainingWorkload.prefillStartOffset = req.prefillingTokens.length
  planning : req.planningWorkload.prefillTokenNum = 0
  taskPrefill : req.planningTask.workload.prefillTokenNum = 0
  taskGenerated : req.planningTask.isEmpty = false →
    req.planningTask.workload.generatedTokenNum = kStepGenerateTokenNum

/-- The request with one decode step planned. -/
def planDecode (req : InferRequest) (workload : ScheduleTaskWorkload) : InferRequest :=
  { req with
    planningTask := ⟨workload⟩
    planningWorkload := {}
    remainingWorkload := { req.remainingWorkload with generatedTokenNum := 0, draftTokenNum := 0 } }

/-- The workload a launch ahead of the result plans. -/
def aheadWorkload (req : InferRequest) (draftTokenNum : Nat) : ScheduleTaskWorkload :=
  { req.planningWorkload with
    generatedTokenNum := kStepGenerateTokenNum
    draftTokenNum := draftTokenNum }

theorem aheadWorkload_nonempty (req : InferRequest) (draftTokenNum : Nat) :
    (planDecode req (aheadWorkload req draftTokenNum)).planningTask.isEmpty = false := by
  simp [planDecode, aheadWorkload, ScheduleTask.isEmpty, ScheduleTaskWorkload.isEmpty,
    kStepGenerateTokenNum]

/-- The last prefill chunk, without drafts, is the newest step in flight; `chunks` are
the middle chunks still ahead of it. -/
structure LastChunkInFlight (prompt : List Int) (chunks : List ScheduleTask)
    (req : InferRequest) : Prop extends DecodeReady req where
  prefilling : req.prefillingTokens = prompt
  output : req.outputTokens = prompt
  forwarding : req.forwardingTokens = prompt
  middle : ∀ task ∈ chunks, 0 < task.workload.prefillTokenNum ∧
    task.workload.prefillTokenNum + task.workload.prefillStartOffset < prompt.length
  inflight : ∃ task : ScheduleTask, req.inflightTasks = chunks ++ [task] ∧
    task.workload.draftTokenNum = 0 ∧
    prompt.length ≤ task.workload.prefillTokenNum + task.workload.prefillStartOffset
  positions : req.pendingPlaceholderPositions = []
  draftNums : req.pendingPlaceholderDraftNums = []
  generated : req.generatedTokens = []
  draftNum : req.forwardingTokensDraftNum = 0
  running : req.isEosGenerated = false

/-- A decode step is launched behind the last prefill chunk; its block holds nothing yet. -/
structure FirstStepReserved (prompt : List Int) (draftNum : Nat) (req : InferRequest) : Prop
    extends DecodeReady req where
  output : req.outputTokens = prompt
  forwarding : req.forwardingTokens =
    prompt ++ List.replicate (1 + draftNum) kFastPathPlaceholderTokenId
  inflight : ∃ chunk step : ScheduleTask, req.inflightTasks = [chunk, step] ∧
    req.prefillingTokens.length ≤
      chunk.workload.prefillTokenNum + chunk.workload.prefillStartOffset ∧
    step.workload.prefillTokenNum = 0 ∧ step.workload.draftTokenNum = draftNum
  positions : req.pendingPlaceholderPositions = [prompt.length]
  draftNums : req.pendingPlaceholderDraftNums = [draftNum]
  draftNum : req.forwardingTokensDraftNum = draftNum
  kind : req.forwardStepKind = .decode
  kvCached : req.pdV2.kvFromRemote = false → req.kvCachedTokenNum = prompt.length
  generated : req.generatedTokens = []
  running : req.isEosGenerated = false

/-- One decode step is in flight, launched ahead of its tokens; its block now holds the
token `main` and `drafts`. -/
structure BlockFilled (tokens : List Int) (main : VocabId) (drafts : List Int)
    (req : InferRequest) : Prop extends DecodeReady req where
  output : req.outputTokens = tokens ++ [main.val]
  forwarding : req.forwardingTokens = tokens ++ main.val :: drafts
  inflight : ∃ step : ScheduleTask, req.inflightTasks = [step] ∧
    step.workload.prefillTokenNum = 0 ∧ step.workload.draftTokenNum = drafts.length
  positions : req.pendingPlaceholderPositions = [tokens.length]
  draftNums : req.pendingPlaceholderDraftNums = [drafts.length]
  kvCached : req.pdV2.kvFromRemote = false → req.kvCachedTokenNum = tokens.length
  generated : req.generatedTokens = []

/-- The same, and the token is not a stop token. -/
structure StepFilled (tokens : List Int) (main : VocabId) (drafts : List Int)
    (req : InferRequest) : Prop extends BlockFilled tokens main drafts req where
  running : req.isEosGenerated = false

/-- Behind such a step another one is launched; its block holds nothing yet. -/
structure NextStepReserved (tokens : List Int) (main : VocabId) (drafts : List Int)
    (nextDraftNum : Nat) (req : InferRequest) : Prop extends DecodeReady req where
  output : req.outputTokens = tokens ++ [main.val]
  forwarding : req.forwardingTokens = tokens ++ main.val :: (drafts ++
    List.replicate (1 + nextDraftNum) kFastPathPlaceholderTokenId)
  inflight : ∃ step next : ScheduleTask, req.inflightTasks = [step, next] ∧
    step.workload.prefillTokenNum = 0 ∧ step.workload.draftTokenNum = drafts.length ∧
    next.workload.prefillTokenNum = 0 ∧ next.workload.draftTokenNum = nextDraftNum
  positions : req.pendingPlaceholderPositions = [tokens.length, tokens.length + 1 + drafts.length]
  draftNums : req.pendingPlaceholderDraftNums = [drafts.length, nextDraftNum]
  draftNum : req.forwardingTokensDraftNum = nextDraftNum
  kind : req.forwardStepKind = .decode
  generated : req.generatedTokens = []
  running : req.isEosGenerated = false

/-- Nothing is in flight, and the token of the last step waits to be launched. -/
structure Drained (tokens : List Int) (token : VocabId) (drafts : DraftTokens)
    (req : InferRequest) : Prop extends DecodeReady req where
  output : req.outputTokens = tokens ++ [token.val]
  forwarding : req.forwardingTokens = tokens
  inflight : req.inflightTasks = []
  positions : req.pendingPlaceholderPositions = []
  draftNums : req.pendingPlaceholderDraftNums = []
  kvCached : req.kvCachedTokenNum = tokens.length
  generated : req.generatedTokens = [token.val]
  draftTokens : req.draftTokens = drafts
  running : req.isEosGenerated = false

/-- One decode step is in flight with its real tokens. -/
structure RealStepInFlight (tokens : List Int) (token : VocabId) (drafts : List Int)
    (req : InferRequest) : Prop extends DecodeReady req where
  output : req.outputTokens = tokens ++ [token.val]
  forwarding : req.forwardingTokens = tokens ++ [token.val] ++ drafts
  inflight : ∃ step : ScheduleTask, req.inflightTasks = [step] ∧
    step.workload.prefillTokenNum = 0 ∧ step.workload.draftTokenNum = drafts.length
  draftNum : req.forwardingTokensDraftNum = drafts.length
  positions : req.pendingPlaceholderPositions = []
  draftNums : req.pendingPlaceholderDraftNums = []
  kvCached : req.kvCachedTokenNum = tokens.length
  generated : req.generatedTokens = [token.val]
  running : req.isEosGenerated = false

theorem split_of_decode {req : InferRequest} {task : ScheduleTask} {queue : List ScheduleTask}
    (hinflight : req.inflightTasks = task :: queue) (hdecode : task.workload.prefillTokenNum = 0) :
    req.isSplitPrefillStep = false := by
  simp [InferRequest.isSplitPrefillStep, hinflight, hdecode]

theorem split_of_last {req : InferRequest} {task : ScheduleTask} {queue : List ScheduleTask}
    (hinflight : req.inflightTasks = task :: queue)
    (hlast : req.prefillingTokens.length ≤
      task.workload.prefillTokenNum + task.workload.prefillStartOffset) :
    req.isSplitPrefillStep = false := by
  simp only [InferRequest.isSplitPrefillStep, hinflight, Bool.and_eq_false_iff,
    decide_eq_false_iff_not]
  right
  omega

theorem split_of_middle {req : InferRequest} {task : ScheduleTask} {queue : List ScheduleTask}
    (hinflight : req.inflightTasks = task :: queue)
    (hpositive : 0 < task.workload.prefillTokenNum)
    (hmiddle : task.workload.prefillTokenNum + task.workload.prefillStartOffset <
      req.prefillingTokens.length) :
    req.isSplitPrefillStep = true := by
  simp [InferRequest.isSplitPrefillStep, hinflight, hpositive, hmiddle]

section Planning

variable {req : InferRequest} (workload : ScheduleTaskWorkload)
  {prompt tokens drafts : List Int} {main : VocabId}

theorem DecodeReady.plan (hreq : DecodeReady req) (hprefill : workload.prefillTokenNum = 0)
    (hgenerated : workload.generatedTokenNum = kStepGenerateTokenNum) :
    DecodeReady (planDecode req workload) where
  remaining := hreq.remaining
  offset := hreq.offset
  planning := rfl
  taskPrefill := hprefill
  taskGenerated := fun _ => hgenerated

theorem setPlanningTask_decode (hreq : DecodeReady req) (hempty : req.planningTask.isEmpty = true)
    (hprefill : workload.prefillTokenNum = 0) :
    (req.setPlanningWorkload workload).setPlanningTask = .ok (planDecode req workload) := by
  rw [InferRequest.setPlanningTask_of_empty (req.setPlanningWorkload workload) hempty
    (by simp [InferRequest.setPlanningWorkload, hprefill])
    (by simp [InferRequest.setPlanningWorkload, hreq.remaining, hreq.offset])]
  simp [InferRequest.setPlanningWorkload, hprefill, planDecode]

theorem launchAhead_eq [DraftTokensApi] (hreq : DecodeReady req) (hempty : req.planningTask = {})
    (hinflight : req.inflightTasks ≠ []) (draftTokenNum : Nat) :
    launchAhead req draftTokenNum =
      (planDecode req (aheadWorkload req draftTokenNum)).launchPlanningTask true true := by
  have hcount : 0 < req.getInflightCount := List.length_pos_of_ne_nil hinflight
  rw [launchAhead, InferRequest.setInflightTaskGenResultEstimation, check_bind_of_true _ _ hcount]
  simp only [bind, Except.bind]
  rw [InferRequest.setPlanningTask_of_empty _ (by simp [hempty]; rfl)
    (by simp [hreq.planning]) (by simp [hreq.remaining, hreq.offset])]
  simp [planDecode, aheadWorkload, hreq.planning]

theorem launchSlow_eq [DraftTokensApi] (fastPath : Bool) (hreq : DecodeReady req)
    (hempty : req.planningTask = {}) (draftTokenNum : Nat) :
    launchSlow fastPath req draftTokenNum = (planDecode req
      { generatedTokenNum := kStepGenerateTokenNum
        draftTokenNum := draftTokenNum }).launchPlanningTask fastPath false := by
  rw [launchSlow, setPlanningTask_decode _ hreq (by rw [hempty]; rfl) rfl]
  rfl

/-! Planning a decode step keeps every phase. -/

variable (hprefill : workload.prefillTokenNum = 0)
  (hgenerated : workload.generatedTokenNum = kStepGenerateTokenNum)
include hprefill hgenerated

theorem LastChunkInFlight.plan {chunks : List ScheduleTask}
    (hreq : LastChunkInFlight prompt chunks req) :
    LastChunkInFlight prompt chunks (planDecode req workload) :=
  { hreq with toDecodeReady := hreq.toDecodeReady.plan workload hprefill hgenerated }

theorem FirstStepReserved.plan {draftNum : Nat} (hreq : FirstStepReserved prompt draftNum req) :
    FirstStepReserved prompt draftNum (planDecode req workload) :=
  { hreq with toDecodeReady := hreq.toDecodeReady.plan workload hprefill hgenerated }

theorem StepFilled.plan (hreq : StepFilled tokens main drafts req) :
    StepFilled tokens main drafts (planDecode req workload) :=
  { hreq with toDecodeReady := hreq.toDecodeReady.plan workload hprefill hgenerated }

theorem NextStepReserved.plan {nextDraftNum : Nat}
    (hreq : NextStepReserved tokens main drafts nextDraftNum req) :
    NextStepReserved tokens main drafts nextDraftNum (planDecode req workload) :=
  { hreq with toDecodeReady := hreq.toDecodeReady.plan workload hprefill hgenerated }

theorem Drained.plan {draftTokens : DraftTokens} (hreq : Drained tokens main draftTokens req) :
    Drained tokens main draftTokens (planDecode req workload) :=
  { hreq with toDecodeReady := hreq.toDecodeReady.plan workload hprefill hgenerated }

theorem RealStepInFlight.plan (hreq : RealStepInFlight tokens main drafts req) :
    RealStepInFlight tokens main drafts (planDecode req workload) :=
  { hreq with toDecodeReady := hreq.toDecodeReady.plan workload hprefill hgenerated }

end Planning

section Transitions

variable [DraftTokensApi] {req : InferRequest} {prompt tokens drafts : List Int} {main : VocabId}

/-- A launch leaves the payload alone and uses the planning task up. -/
structure Launched (req launched : InferRequest) : Prop where
  payload : launched.toRequestPayload = req.toRequestPayload
  noTask : launched.planningTask = {}

/-- A retirement leaves the payload and the planning task alone. -/
structure Retired (req retired : InferRequest) : Prop where
  payload : retired.toRequestPayload = req.toRequestPayload
  task : retired.planningTask = req.planningTask

omit [DraftTokensApi] in
theorem DecodeReady.of_launch {launched : InferRequest} (hreq : DecodeReady req)
    (hremaining : launched.remainingWorkload = req.remainingWorkload)
    (hplanning : launched.planningWorkload = req.planningWorkload)
    (hprefilling : launched.prefillingTokens = req.prefillingTokens)
    (htask : launched.planningTask = {}) : DecodeReady launched := by
  constructor
  · rw [hremaining, hreq.remaining]
  · rw [hremaining, hprefilling, hreq.offset]
  · rw [hplanning, hreq.planning]
  · rw [htask]
  · intro hnonempty
    rw [htask] at hnonempty
    exact absurd hnonempty (by decide)

omit [DraftTokensApi] in
theorem DecodeReady.of_retire {retired : InferRequest} (hreq : DecodeReady req)
    (hremaining : retired.remainingWorkload.prefillTokenNum =
      req.remainingWorkload.prefillTokenNum)
    (hoffset : retired.remainingWorkload.prefillStartOffset =
      req.remainingWorkload.prefillStartOffset)
    (hplanning : retired.planningWorkload.prefillTokenNum = 0)
    (hprefilling : retired.prefillingTokens = req.prefillingTokens)
    (htask : retired.planningTask = req.planningTask) : DecodeReady retired := by
  constructor
  · rw [hremaining, hreq.remaining]
  · rw [hoffset, hprefilling, hreq.offset]
  · exact hplanning
  · rw [htask, hreq.taskPrefill]
  · rw [htask]
    exact hreq.taskGenerated

theorem LastChunkInFlight.launch (hreq : LastChunkInFlight prompt [] req)
    (htask : req.planningTask.isEmpty = false) :
    ∃ launched, req.launchPlanningTask true true = .ok launched ∧ Launched req launched ∧
      FirstStepReserved prompt req.planningTask.workload.draftTokenNum launched := by
  obtain ⟨chunk, hinflight, -, hlast⟩ := hreq.inflight
  refine ⟨_, InferRequest.launchPlanningTask_reserve req chunk htask hreq.taskPrefill hinflight
    hreq.generated, ⟨rfl, rfl⟩, ?_⟩
  exact {
    toDecodeReady := hreq.toDecodeReady.of_launch rfl rfl rfl rfl
    output := hreq.output
    forwarding := by simp [hreq.forwarding]
    inflight := ⟨_, _, rfl, by rw [hreq.prefilling]; exact hlast, hreq.taskPrefill, rfl⟩
    positions := by simp [hreq.positions, hreq.forwarding]
    draftNums := by simp [hreq.draftNums]
    draftNum := rfl
    kind := rfl
    kvCached := fun h => by simp_all [hreq.forwarding]
    generated := hreq.generated
    running := hreq.running }

theorem StepFilled.launch (hreq : StepFilled tokens main drafts req)
    (htask : req.planningTask.isEmpty = false) :
    ∃ launched, req.launchPlanningTask true true = .ok launched ∧ Launched req launched ∧
      NextStepReserved tokens main drafts req.planningTask.workload.draftTokenNum launched := by
  obtain ⟨step, hinflight, hdecode, hdraft⟩ := hreq.inflight
  refine ⟨_, InferRequest.launchPlanningTask_reserve req step htask hreq.taskPrefill hinflight
    hreq.generated, ⟨rfl, rfl⟩, ?_⟩
  exact {
    toDecodeReady := hreq.toDecodeReady.of_launch rfl rfl rfl rfl
    output := hreq.output
    forwarding := by simp [hreq.forwarding]
    inflight := ⟨_, _, rfl, hdecode, hdraft, hreq.taskPrefill, rfl⟩
    positions := by simp [hreq.positions, hreq.forwarding, Nat.add_assoc, Nat.add_comm 1]
    draftNums := by simp [hreq.draftNums]
    draftNum := rfl
    kind := rfl
    generated := hreq.generated
    running := hreq.running }

theorem Drained.launch {draftTokens : DraftTokens} (fastPath : Bool)
    (hreq : Drained tokens main draftTokens req) (htask : req.planningTask.isEmpty = false) :
    ∃ launched, req.launchPlanningTask fastPath false = .ok launched ∧ Launched req launched ∧
      RealStepInFlight tokens main ((DraftTokensApi.getDraftTokens draftTokens).take
        req.planningTask.workload.draftTokenNum) launched := by
  have hgenerated : req.planningTask.workload.generatedTokenNum = 1 := hreq.taskGenerated htask
  have htake : (DraftTokensApi.getDraftTokens draftTokens).take
      (min req.planningTask.workload.draftTokenNum
        (DraftTokensApi.getDraftTokens draftTokens).length) =
      (DraftTokensApi.getDraftTokens draftTokens).take req.planningTask.workload.draftTokenNum := by
    rw [List.take_eq_take_iff]
    omega
  refine ⟨_, InferRequest.launchPlanningTask_append fastPath req htask hreq.taskPrefill
    hreq.inflight (by simp [hreq.generated, hgenerated]), ⟨rfl, rfl⟩, ?_⟩
  simp only [hgenerated, hreq.generated, hreq.draftTokens, List.length_singleton,
    Nat.add_sub_cancel_left, htake]
  exact {
    toDecodeReady := hreq.toDecodeReady.of_launch rfl rfl rfl rfl
    output := hreq.output
    forwarding := by simp [hreq.forwarding]
    inflight := ⟨_, rfl, hreq.taskPrefill, by simp⟩
    draftNum := by simp
    positions := hreq.positions
    draftNums := hreq.draftNums
    kvCached := by simp [hreq.kvCached, hreq.forwarding]
    generated := rfl
    running := hreq.running }

variable (token : VocabId) (result : StepResult)

theorem LastChunkInFlight.retire_middle {chunk : ScheduleTask} {chunks : List ScheduleTask}
    (hreq : LastChunkInFlight prompt (chunk :: chunks) req) :
    ∃ retired, Engine.retire req result = .ok retired ∧ Retired req retired ∧
      LastChunkInFlight prompt chunks retired := by
  obtain ⟨last, hinflight, hdraft, hlast⟩ := hreq.inflight
  obtain ⟨hpositive, hbefore⟩ := hreq.middle chunk (List.mem_cons_self ..)
  have hsplit : req.isSplitPrefillStep = true :=
    split_of_middle hinflight hpositive (by rw [hreq.prefilling]; exact hbefore)
  refine ⟨_, retire_split req result chunk (chunks ++ [last]) hreq.running hsplit hinflight,
    ⟨rfl, rfl⟩, ?_⟩
  exact {
    toDecodeReady := hreq.toDecodeReady.of_retire rfl rfl (by simp [hreq.remaining]) rfl rfl
    prefilling := hreq.prefilling
    output := hreq.output
    forwarding := hreq.forwarding
    middle := fun task hmem => hreq.middle task (List.mem_cons_of_mem _ hmem)
    inflight := ⟨last, rfl, hdraft, hlast⟩
    positions := hreq.positions
    draftNums := hreq.draftNums
    generated := rfl
    draftNum := hreq.draftNum
    running := hreq.running }

theorem LastChunkInFlight.retire (hreq : LastChunkInFlight prompt [] req)
    (hresult : result.generatedTokens = [token.val]) (haccepted : result.acceptedTokens = []) :
    ∃ retired, Engine.retire req result = .ok retired ∧ Retired req retired ∧
      retired.isEosGenerated = req.samplingConfig.stopTokenIds.contains token.val ∧
      (retired.isEosGenerated = false → Drained prompt token result.draftTokens retired) := by
  obtain ⟨chunk, hinflight, hdraft, hlast⟩ := hreq.inflight
  refine ⟨_, retire_plain req result chunk prompt [] hreq.running
    (split_of_last hinflight (by rw [hreq.prefilling]; exact hlast)) hinflight hreq.positions
    (by simp [hreq.forwarding]) hreq.draftNum hdraft (by simp [haccepted])
    hreq.remaining, ⟨rfl, rfl⟩, ?_, fun hrunning => ?_⟩
  · simp [haccepted, hresult, InferRequest.endsWithStopToken]
  · exact {
      toDecodeReady := hreq.toDecodeReady.of_retire rfl rfl rfl rfl rfl
      output := by simp [hreq.output, haccepted, hresult]
      forwarding := by simp [haccepted]
      inflight := rfl
      positions := hreq.positions
      draftNums := hreq.draftNums
      kvCached := by simp [haccepted]
      generated := hresult
      draftTokens := rfl
      running := hrunning }

theorem FirstStepReserved.retire {draftNum : Nat} (hreq : FirstStepReserved prompt draftNum req)
    (hresult : result.generatedTokens = [token.val]) :
    ∃ retired, Engine.retire req result = .ok retired ∧ Retired req retired ∧
      retired.isEosGenerated = req.samplingConfig.stopTokenIds.contains token.val ∧
      BlockFilled prompt token (resize (DraftTokensApi.getDraftTokens result.draftTokens) draftNum
        kFastPathPlaceholderTokenId) retired := by
  obtain ⟨chunk, step, hinflight, hlast, hdecode, hdraft⟩ := hreq.inflight
  refine ⟨_, retire_backfill req result chunk step prompt token.val draftNum hreq.running
    (split_of_last hinflight hlast) hinflight hreq.positions hreq.draftNums hreq.forwarding hresult,
    ⟨rfl, rfl⟩, rfl, ?_⟩
  exact {
    toDecodeReady := hreq.toDecodeReady.of_retire rfl rfl rfl rfl rfl
    output := by simp [hreq.output]
    forwarding := rfl
    inflight := ⟨step, rfl, hdecode, by simpa using hdraft⟩
    positions := hreq.positions
    draftNums := by simp [hreq.draftNums]
    kvCached := hreq.kvCached
    generated := rfl }

theorem NextStepReserved.retire {nextDraftNum : Nat}
    (hreq : NextStepReserved tokens main drafts nextDraftNum req)
    (hresult : result.generatedTokens = [token.val])
    (haccepted : result.acceptedTokens.length ≤ drafts.length) :
    ∃ retired, Engine.retire req result = .ok retired ∧ Retired req retired ∧
      retired.isEosGenerated = req.samplingConfig.stopTokenIds.contains token.val ∧
      BlockFilled (tokens ++ main.val :: result.acceptedTokens) token
        (resize (DraftTokensApi.getDraftTokens result.draftTokens) nextDraftNum
          kFastPathPlaceholderTokenId) retired := by
  obtain ⟨step, next, hinflight, hdecode, -, hnextDecode, hnextDraft⟩ := hreq.inflight
  refine ⟨_, retire_ownNext req result step next tokens drafts main.val token.val nextDraftNum
    hreq.running (split_of_decode hinflight hdecode) hinflight hreq.positions hreq.draftNums
    hreq.forwarding main.ne_placeholder haccepted hresult, ⟨rfl, rfl⟩, rfl, ?_⟩
  have hlength : (tokens ++ main.val :: result.acceptedTokens).length =
      tokens.length + 1 + result.acceptedTokens.length := by
    simp only [List.length_append, List.length_cons]
    omega
  exact {
    toDecodeReady := hreq.toDecodeReady.of_retire rfl rfl rfl rfl rfl
    output := by simp [hreq.output]
    forwarding := by simp
    inflight := ⟨next, rfl, hnextDecode, by simpa using hnextDraft⟩
    positions := by rw [hlength]
    draftNums := by simp
    kvCached := fun _ => by rw [hlength]
    generated := rfl }

/-- A step alone in flight retires with its own block: whatever it generated is kept in
the output only. -/
theorem StepFilled.retire (hreq : StepFilled tokens main drafts req)
    (haccepted : result.acceptedTokens.length ≤ drafts.length) :
    ∃ retired, Engine.retire req result = .ok retired ∧ Retired req retired ∧
      retired.isEosGenerated = req.endsWithStopToken
        (req.outputTokens ++ result.acceptedTokens ++ result.generatedTokens) := by
  obtain ⟨step, hinflight, hdecode, -⟩ := hreq.inflight
  exact ⟨_, retire_ownLast req result step tokens drafts main.val hreq.running
    (split_of_decode hinflight hdecode) [] hinflight hreq.positions hreq.draftNums hreq.forwarding
    (Or.inl rfl) haccepted, ⟨rfl, rfl⟩, rfl⟩

theorem RealStepInFlight.retire (hreq : RealStepInFlight tokens main drafts req)
    (hresult : result.generatedTokens = [token.val]) (haccepted : result.acceptedTokens <+: drafts) :
    ∃ retired, Engine.retire req result = .ok retired ∧ Retired req retired ∧
      retired.isEosGenerated = req.samplingConfig.stopTokenIds.contains token.val ∧
      (retired.isEosGenerated = false → Drained (tokens ++ main.val :: result.acceptedTokens) token
        result.draftTokens retired) := by
  obtain ⟨step, hinflight, hdecode, hdraft⟩ := hreq.inflight
  refine ⟨_, retire_plain req result step (tokens ++ [main.val]) drafts hreq.running
    (split_of_decode hinflight hdecode) hinflight hreq.positions hreq.forwarding hreq.draftNum
    hdraft haccepted hreq.remaining, ⟨rfl, rfl⟩, ?_, fun hrunning => ?_⟩
  · simp [hresult, InferRequest.endsWithStopToken]
  · exact {
      toDecodeReady := hreq.toDecodeReady.of_retire rfl rfl rfl rfl rfl
      output := by simp [hreq.output, hresult]
      forwarding := by simp
      inflight := rfl
      positions := hreq.positions
      draftNums := hreq.draftNums
      kvCached := by simp
      generated := hresult
      draftTokens := rfl
      running := hrunning }

end Transitions

end KsanaBuildAhead.Engine
