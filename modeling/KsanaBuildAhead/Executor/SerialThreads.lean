import KsanaBuildAhead.Executor.DoubleBuffer
import KsanaBuildAhead.Executor.OverlappedSteps
import KsanaBuildAhead.Lib.SerialWork

/-!
# The threads of the MTP-serial path

With MTP the Preprocess thread only passes the schedule on, and the Execute thread does the
rest of a step by itself: update, repair, forward, postprocess. The results are handed to a
thread that reports them. Whatever the threads do in whatever order, a schedule is executed and
reported as a single thread would do it.
-/
namespace KsanaBuildAhead.Executor

open KsanaBuildAhead.Runtime KsanaBuildAhead.Engine KsanaBuildAhead.Lib.Execution
  KsanaBuildAhead.Lib.SerialWork

/-- How many schedules Preprocess may put in front of Execute. -/
def kMtpSerialModelInputQueueMaxDepth : Nat := 2

/-- A step changes the cached requests themselves. -/
def CachedRequests.store (cached : CachedRequests) (reqs : List ExecutorInferRequest) :
    CachedRequests :=
  reqs.foldl (fun cached req => Function.update cached req.reqId req) cached

/-- The parts of the runtime declared outside the sources: how a schedule updates the cached
requests and finds its own among them, and what the forward pass, the verification and the
draft model return for the requests of a batch. -/
structure SerialRuntime where
  updateCachedRequests : CachedRequests → ScheduleOutput → CachedRequests
  rebuildScheduleOutput : CachedRequests → ScheduleOutput → List ExecutorInferRequest
  generate : List ExecutorInferRequest → Int → StepResult

/-- What only the Execute thread touches. -/
structure ExecuteMemory where
  cached : CachedRequests
  mtp : MtpSerialState

/-- What a step reports: its schedule, and a result for each of the requests. -/
structure SamplingOutput where
  scheduleId : Nat
  results : List (Int × StepResult)

section Parts

variable [DraftTokensApi] (runtime : SerialRuntime)

def updateStep (memory : ExecuteMemory) (schedule : ScheduleOutput) :
    ExecuteMemory × List ExecutorInferRequest :=
  let cached := runtime.updateCachedRequests memory.cached schedule
  ({ memory with cached := cached }, runtime.rebuildScheduleOutput cached schedule)

omit runtime in
def repairStep (memory : ExecuteMemory) (schedule : ScheduleOutput)
    (reqs : List ExecutorInferRequest) : ExecuteMemory × List ExecutorInferRequest :=
  let (mtp, repaired) := repairBatch memory.mtp
    { finishReqIds := schedule.finishReqIds, recomputeReqIds := schedule.recomputeReqIds,
      reqs := reqs }
  ({ cached := memory.cached.store repaired, mtp := mtp }, repaired)

omit runtime in
/-- A middle chunk is not sampled, but its request is in the results as the others are. -/
def postprocessStep (memory : ExecuteMemory) (schedule : ScheduleOutput)
    (repaired : List ExecutorInferRequest) (results : Int → StepResult) :
    ExecuteMemory × SamplingOutput :=
  let finished := repaired.map (postprocessRequest results)
  ({ cached := memory.cached.store finished, mtp := finishBatch memory.mtp repaired results },
    { scheduleId := schedule.scheduleId
      results := finished.map fun req => (req.reqId,
        { generatedTokens := req.generatedTokens, acceptedTokens := req.acceptedTokens
          draftTokens := req.draftTokens }) })

/-- The requests of a step as they are forwarded. -/
def forwardedBy (memory : ExecuteMemory) (schedule : ScheduleOutput) :
    ExecuteMemory × List ExecutorInferRequest :=
  let (updated, reqs) := updateStep runtime memory schedule
  repairStep updated schedule reqs

/-- A whole step on one thread. -/
def serialStep (memory : ExecuteMemory) (schedule : LaunchedSchedule) :
    ExecuteMemory × SamplingOutput :=
  let (forwarded, repaired) := forwardedBy runtime memory schedule.scheduleOutput
  postprocessStep forwarded schedule.scheduleOutput repaired (runtime.generate repaired)

end Parts

/-- How far the Execute thread is with a step. -/
inductive ExecutePhase where
  | started
  | updated (reqs : List ExecutorInferRequest)
  | repaired (reqs : List ExecutorInferRequest)
  | forwarded (reqs : List ExecutorInferRequest) (results : Int → StepResult)
  | inline (reqs : List ExecutorInferRequest) (results : Int → StepResult)
  | postprocessed (output : SamplingOutput)

/-- What has happened so far; no step depends on it. -/
structure SerialHistory where
  launched : List LaunchedSchedule := []
  executed : List LaunchedSchedule := []
  processed : List SamplingOutput := []

/-- What the Execute thread holds while a step is under way, and the flags by which the inline
postprocess is told from the one with a thread of its own. -/
structure ExecuteHandles where
  hiddenUnits : Nat := 0
  openEpochs : Nat := 0
  postprocessOneShot : Bool := false
  postprocessEnqueueReport : Bool := false

structure SerialState where
  executorPipelineDepth : Nat := 0
  scheduleOutputQueue : List LaunchedSchedule := []
  preprocessing : Option LaunchedSchedule := none
  modelInputQueue : List LaunchedSchedule := []
  executing : Option (LaunchedSchedule × ExecutePhase) := none
  memory : ExecuteMemory
  handles : ExecuteHandles := {}
  samplingOutputQueue : List SamplingOutput := []
  reported : List SamplingOutput := []
  history : SerialHistory := {}

/-- What the threads and the Engine do, one action at a time. -/
inductive SerialOp where
  | tryToLaunch (planned : ScheduleOutput)
  | getSchedule
  | putModelInput
  | getModelInput
  | updateCachedRequests
  | applyRepair
  | forward
  | handlePostprocessInline
  | handlePostprocess
  | putSamplingOutput
  | reportSamplingOutput
  | updateWithGenerationResult

section Step

variable [DraftTokensApi] (runtime : SerialRuntime) (merge : ScheduleOutput → ScheduleOutput)

/-- One action of one thread; a thread that would wait cannot be chosen. -/
def serialOp (s : SerialState) : SerialOp → Except String SerialState
  | .tryToLaunch planned => do
    let attempt ← tryToLaunchPlannedScheduleOutput true merge s.executorPipelineDepth planned
    if attempt.launched then
      let schedule : LaunchedSchedule := ⟨s.history.launched.length, attempt.planned⟩
      .ok { s with
        executorPipelineDepth := attempt.executorPipelineDepth
        scheduleOutputQueue := s.scheduleOutputQueue ++ [schedule]
        history := { s.history with launched := s.history.launched ++ [schedule] } }
    else .ok { s with executorPipelineDepth := attempt.executorPipelineDepth }
  | .getSchedule => match s.preprocessing, s.scheduleOutputQueue with
    | none, schedule :: rest =>
      .ok { s with scheduleOutputQueue := rest, preprocessing := some schedule }
    | _, _ => .error "Preprocess waits"
  | .putModelInput => match s.preprocessing with
    | some schedule => do
      check (s.modelInputQueue.length < kMtpSerialModelInputQueueMaxDepth) "the queue is full"
      .ok { s with preprocessing := none, modelInputQueue := s.modelInputQueue ++ [schedule] }
    | none => .error "Preprocess waits"
  | .getModelInput => match s.executing, s.modelInputQueue with
    | none, schedule :: rest =>
      .ok { s with modelInputQueue := rest, executing := some (schedule, .started) }
    | _, _ => .error "Execute waits"
  | .updateCachedRequests => match s.executing with
    | some (schedule, .started) =>
      let (memory, reqs) := updateStep runtime s.memory schedule.scheduleOutput
      .ok { s with memory := memory, executing := some (schedule, .updated reqs) }
    | _ => .error "not to be updated now"
  | .applyRepair => match s.executing with
    | some (schedule, .updated reqs) =>
      let (memory, repaired) := repairStep s.memory schedule.scheduleOutput reqs
      .ok { s with memory := memory, executing := some (schedule, .repaired repaired) }
    | _ => .error "not to be repaired now"
  | .forward => match s.executing with
    | some (schedule, .repaired reqs) =>
      .ok { s with
        handles := { s.handles with
          hiddenUnits := s.handles.hiddenUnits + 1, openEpochs := s.handles.openEpochs + 1 }
        executing := some (schedule, .forwarded reqs (runtime.generate reqs)) }
    | _ => .error "not to be forwarded now"
  | .handlePostprocessInline => match s.executing with
    | some (schedule, .forwarded reqs results) =>
      .ok { s with
        handles := { s.handles with postprocessOneShot := true, postprocessEnqueueReport := true }
        executing := some (schedule, .inline reqs results) }
    | _ => .error "not to be postprocessed now"
  | .handlePostprocess => match s.handles.postprocessOneShot, s.executing with
    | true, some (schedule, .inline reqs results) =>
      let (memory, output) := postprocessStep s.memory schedule.scheduleOutput reqs results
      .ok { s with
        memory := memory
        handles := { s.handles with
          hiddenUnits := s.handles.hiddenUnits - 1
          openEpochs := s.handles.openEpochs - 1
          postprocessOneShot := false }
        executing := some (schedule, .postprocessed output) }
    | _, _ => .error "the postprocess waits"
  | .putSamplingOutput => match s.executing with
    | some (schedule, .postprocessed output) =>
      let s := { s with
        executing := none
        history := { s.history with executed := s.history.executed ++ [schedule] } }
      if s.handles.postprocessEnqueueReport then
        .ok { s with
          samplingOutputQueue := s.samplingOutputQueue ++ [output]
          handles := { s.handles with postprocessEnqueueReport := false } }
      else .ok { s with reported := s.reported ++ [output] }
    | _ => .error "not sampled"
  | .reportSamplingOutput => match s.samplingOutputQueue with
    | output :: rest =>
      .ok { s with samplingOutputQueue := rest, reported := s.reported ++ [output] }
    | [] => .error "the report waits"
  | .updateWithGenerationResult => match s.reported with
    | output :: rest =>
      .ok { s with
        executorPipelineDepth := updateWithGenerationResult true s.executorPipelineDepth
        reported := rest
        history := { s.history with processed := s.history.processed ++ [output] } }
    | [] => .error "no result"

end Step

/-- The results in the order they have left the Execute thread. -/
def SerialState.outputs (s : SerialState) : List SamplingOutput :=
  s.history.processed ++ s.reported ++ s.samplingOutputQueue

/-- The launched schedules that have not been executed, the oldest first. -/
def SerialState.unexecuted (s : SerialState) : List LaunchedSchedule :=
  (s.executing.toList.map Prod.fst) ++ s.modelInputQueue ++ s.preprocessing.toList ++
    s.scheduleOutputQueue

/-- The hidden unit and the epoch are out from the forward pass to the end of the postprocess,
and the result of a step in postprocess is meant for the report thread. -/
def handlesOf : Option (LaunchedSchedule × ExecutePhase) → ExecuteHandles
  | some (_, .forwarded _ _) => { hiddenUnits := 1, openEpochs := 1 }
  | some (_, .inline _ _) =>
    { hiddenUnits := 1, openEpochs := 1, postprocessOneShot := true
      postprocessEnqueueReport := true }
  | some (_, .postprocessed _) => { postprocessEnqueueReport := true }
  | _ => {}

section Invariant

variable [DraftTokensApi] (runtime : SerialRuntime)

/-- The Execute thread is where the single thread is that starts this step from `before`. -/
def PhaseHolds (before memory : ExecuteMemory) (schedule : LaunchedSchedule) :
    ExecutePhase → Prop
  | .started => memory = before
  | .updated reqs => (memory, reqs) = updateStep runtime before schedule.scheduleOutput
  | .repaired reqs => (memory, reqs) = forwardedBy runtime before schedule.scheduleOutput
  | .forwarded reqs results => (memory, reqs) = forwardedBy runtime before schedule.scheduleOutput ∧
      results = runtime.generate reqs
  | .inline reqs results => (memory, reqs) = forwardedBy runtime before schedule.scheduleOutput ∧
      results = runtime.generate reqs
  | .postprocessed output => (memory, output) = serialStep runtime before schedule

/-- The Execute thread is idle behind the executed schedules, or inside the next one. -/
def ExecutingHolds (before memory : ExecuteMemory) :
    Option (LaunchedSchedule × ExecutePhase) → Prop
  | none => memory = before
  | some (schedule, phase) => PhaseHolds runtime before memory schedule phase

structure SerialInvariant (start : ExecuteMemory) (s : SerialState) : Prop where
  depth : s.history.launched.length = s.history.processed.length + s.executorPipelineDepth
  bounded : s.executorPipelineDepth ≤ kExecutorPipelineMaxDepth
  order : s.history.launched = s.history.executed ++ s.unexecuted
  outputs : s.outputs = (runAll (serialStep runtime) start s.history.executed).2
  executing : ExecutingHolds runtime
    (runAll (serialStep runtime) start s.history.executed).1 s.memory s.executing
  handles : s.handles = handlesOf s.executing

end Invariant

section Actions

variable [DraftTokensApi] {runtime : SerialRuntime} {merge : ScheduleOutput → ScheduleOutput}
  {start : ExecuteMemory} {s t : SerialState}

/-- What is in flight is under way on one of the threads or on its way back. -/
theorem SerialInvariant.inFlight (hs : SerialInvariant runtime start s) :
    s.executorPipelineDepth =
      s.unexecuted.length + s.samplingOutputQueue.length + s.reported.length := by
  have hdepth := hs.depth
  have horder := congrArg List.length hs.order
  have houtputs := congrArg List.length hs.outputs
  rw [runAll_length] at houtputs
  simp only [SerialState.outputs, List.length_append] at horder houtputs
  omega

/-- The Engine may see two steps in flight, so Preprocess never finds the queue full. -/
theorem SerialInvariant.roomForPut (hs : SerialInvariant runtime start s)
    {schedule : LaunchedSchedule} (hput : s.preprocessing = some schedule) :
    s.modelInputQueue.length < kMtpSerialModelInputQueueMaxDepth := by
  have hinFlight := hs.inFlight
  have hbounded := hs.bounded
  simp only [SerialState.unexecuted, hput, List.length_append, Option.toList_some,
    List.length_singleton] at hinFlight
  rw [kExecutorPipelineMaxDepth] at hbounded
  rw [kMtpSerialModelInputQueueMaxDepth]
  omega

theorem SerialInvariant.tryToLaunch {planned : ScheduleOutput}
    (hs : SerialInvariant runtime start s)
    (h : serialOp runtime merge s (.tryToLaunch planned) = .ok t) :
    SerialInvariant runtime start t := by
  obtain ⟨attempt, hattempt, h⟩ := bind_ok h
  rcases tryToLaunch_depth hattempt with ⟨hlaunched, hroom, hdepth⟩ | ⟨hrefused, hdepth⟩
  · rw [if_pos hlaunched, hdepth] at h
    obtain rfl := Except.ok.inj h
    refine { hs with depth := ?_, bounded := hroom, order := ?_ }
    · have hbefore := hs.depth
      simp only [List.length_append, List.length_singleton]
      omega
    · simp only [SerialState.unexecuted]
      rw [hs.order, SerialState.unexecuted]
      simp only [List.append_assoc]
  · rw [if_neg (by rw [hrefused]; exact Bool.false_ne_true), hdepth] at h
    obtain rfl := Except.ok.inj h
    exact { hs with }

theorem SerialInvariant.getSchedule (hs : SerialInvariant runtime start s)
    (h : serialOp runtime merge s .getSchedule = .ok t) : SerialInvariant runtime start t := by
  rw [serialOp] at h
  split at h
  · rename_i schedule rest hidle hqueue
    obtain rfl := Except.ok.inj h
    refine { hs with order := ?_ }
    rw [hs.order, SerialState.unexecuted, SerialState.unexecuted, hidle, hqueue]
    simp
  · cases h

theorem SerialInvariant.putModelInput (hs : SerialInvariant runtime start s)
    (h : serialOp runtime merge s .putModelInput = .ok t) : SerialInvariant runtime start t := by
  rw [serialOp] at h
  split at h
  · rename_i schedule hput
    obtain ⟨-, h⟩ := check_bind_ok h
    obtain rfl := Except.ok.inj h
    refine { hs with order := ?_ }
    rw [hs.order, SerialState.unexecuted, SerialState.unexecuted, hput]
    simp
  · cases h

theorem SerialInvariant.getModelInput (hs : SerialInvariant runtime start s)
    (h : serialOp runtime merge s .getModelInput = .ok t) : SerialInvariant runtime start t := by
  rw [serialOp] at h
  split at h
  · rename_i schedule rest hidle hqueue
    obtain rfl := Except.ok.inj h
    have hmemory := hs.executing
    have hhandles := hs.handles
    rw [hidle] at hmemory hhandles
    refine { hs with order := ?_, executing := hmemory, handles := hhandles }
    rw [hs.order, SerialState.unexecuted, SerialState.unexecuted, hidle, hqueue]
    simp
  · cases h

theorem SerialInvariant.advance {schedule : LaunchedSchedule} {phase : ExecutePhase}
    {memory : ExecuteMemory} {handles : ExecuteHandles} (hs : SerialInvariant runtime start s)
    (hat : s.executing = some (schedule, phase)) (next : ExecutePhase)
    (hphase : PhaseHolds runtime (runAll (serialStep runtime) start s.history.executed).1 memory
      schedule next)
    (hhandles : handles = handlesOf (some (schedule, next))) :
    SerialInvariant runtime start { s with
      memory := memory, handles := handles, executing := some (schedule, next) } := by
  refine { hs with order := ?_, executing := hphase, handles := hhandles }
  rw [hs.order, SerialState.unexecuted, SerialState.unexecuted, hat]
  rfl

theorem SerialInvariant.updateCachedRequests (hs : SerialInvariant runtime start s)
    (h : serialOp runtime merge s .updateCachedRequests = .ok t) :
    SerialInvariant runtime start t := by
  rw [serialOp] at h
  split at h
  · rename_i schedule hat
    have hmemory := hs.executing
    rw [hat] at hmemory
    generalize hupdate : updateStep runtime s.memory schedule.scheduleOutput = updated at h
    obtain rfl := Except.ok.inj h
    refine hs.advance hat (.updated updated.2) ?_ (hs.handles.trans (by rw [hat]; rfl))
    rw [← show s.memory = _ from hmemory]
    exact hupdate.symm
  · cases h

theorem SerialInvariant.applyRepair (hs : SerialInvariant runtime start s)
    (h : serialOp runtime merge s .applyRepair = .ok t) : SerialInvariant runtime start t := by
  rw [serialOp] at h
  split at h
  · rename_i schedule reqs hat
    have hmemory := hs.executing
    rw [hat] at hmemory
    generalize hrepair : repairStep s.memory schedule.scheduleOutput reqs = repaired at h
    obtain rfl := Except.ok.inj h
    refine hs.advance hat (.repaired repaired.2) ?_ (hs.handles.trans (by rw [hat]; rfl))
    show _ = forwardedBy runtime _ _
    rw [forwardedBy, ← show (s.memory, reqs) = _ from hmemory]
    exact hrepair.symm
  · cases h

theorem SerialInvariant.forward (hs : SerialInvariant runtime start s)
    (h : serialOp runtime merge s .forward = .ok t) : SerialInvariant runtime start t := by
  rw [serialOp] at h
  split at h
  · rename_i schedule reqs hat
    have hmemory := hs.executing
    rw [hat] at hmemory
    obtain rfl := Except.ok.inj h
    exact hs.advance hat (.forwarded reqs (runtime.generate reqs)) ⟨hmemory, rfl⟩
      (by rw [hs.handles, hat]; rfl)
  · cases h

theorem SerialInvariant.handlePostprocessInline (hs : SerialInvariant runtime start s)
    (h : serialOp runtime merge s .handlePostprocessInline = .ok t) :
    SerialInvariant runtime start t := by
  rw [serialOp] at h
  split at h
  · rename_i schedule reqs results hat
    have hmemory := hs.executing
    rw [hat] at hmemory
    obtain rfl := Except.ok.inj h
    exact hs.advance hat (.inline reqs results) hmemory (by rw [hs.handles, hat]; rfl)
  · cases h

theorem SerialInvariant.handlePostprocess (hs : SerialInvariant runtime start s)
    (h : serialOp runtime merge s .handlePostprocess = .ok t) :
    SerialInvariant runtime start t := by
  rw [serialOp] at h
  split at h
  · rename_i schedule reqs results _ hat
    have hmemory := hs.executing
    rw [hat] at hmemory
    obtain ⟨hforwarded, rfl⟩ := hmemory
    generalize hpost : postprocessStep s.memory schedule.scheduleOutput reqs
      (runtime.generate reqs) = finished at h
    obtain rfl := Except.ok.inj h
    refine hs.advance hat (.postprocessed finished.2) ?_ (by rw [hs.handles, hat]; rfl)
    show _ = serialStep runtime _ _
    rw [serialStep, ← hforwarded]
    exact hpost.symm
  · cases h

/-- A step leaves the Execute thread for the report thread, and it was the oldest. -/
theorem SerialInvariant.putSamplingOutput (hs : SerialInvariant runtime start s)
    (h : serialOp runtime merge s .putSamplingOutput = .ok t) :
    SerialInvariant runtime start t := by
  rw [serialOp] at h
  split at h
  · rename_i schedule output hat
    have hmemory := hs.executing
    have hhandles := hs.handles
    rw [hat] at hmemory hhandles
    have hreports : s.handles.postprocessEnqueueReport = true := by
      rw [hhandles]
      rfl
    dsimp only at h
    rw [if_pos hreports] at h
    obtain rfl := Except.ok.inj h
    have hstep : (s.memory, output) = serialStep runtime _ schedule := hmemory
    refine { hs with
      order := ?_, outputs := ?_, executing := ?_, handles := by rw [hhandles]; rfl }
    · rw [hs.order, SerialState.unexecuted, SerialState.unexecuted, hat]
      simp
    · rw [runAll_concat, ← hstep, ← hs.outputs, SerialState.outputs, SerialState.outputs]
      exact (List.append_assoc _ _ _).symm
    · show s.memory = _
      rw [runAll_concat, ← hstep]
  · cases h

theorem SerialInvariant.reportSamplingOutput (hs : SerialInvariant runtime start s)
    (h : serialOp runtime merge s .reportSamplingOutput = .ok t) :
    SerialInvariant runtime start t := by
  rw [serialOp] at h
  split at h
  · rename_i output rest hqueue
    obtain rfl := Except.ok.inj h
    refine { hs with outputs := ?_ }
    rw [← hs.outputs, SerialState.outputs, SerialState.outputs, hqueue]
    simp
  · cases h

theorem SerialInvariant.updateWithGenerationResult (hs : SerialInvariant runtime start s)
    (h : serialOp runtime merge s .updateWithGenerationResult = .ok t) :
    SerialInvariant runtime start t := by
  have hinFlight := hs.inFlight
  have hdepth := hs.depth
  have hbounded := hs.bounded
  rw [serialOp] at h
  split at h
  · rename_i output rest hreported
    obtain rfl := Except.ok.inj h
    rw [hreported, List.length_cons] at hinFlight
    have hless : Executor.updateWithGenerationResult true s.executorPipelineDepth =
        s.executorPipelineDepth - 1 := by
      rw [Executor.updateWithGenerationResult, if_pos ⟨rfl, by omega⟩]
    refine { hs with depth := ?_, bounded := ?_, outputs := ?_ }
    · simp only [List.length_append, List.length_singleton]
      omega
    · show Executor.updateWithGenerationResult true s.executorPipelineDepth ≤ _
      omega
    · rw [← hs.outputs, SerialState.outputs, SerialState.outputs, hreported]
      simp
  · cases h

theorem SerialInvariant.step {op : SerialOp} (hs : SerialInvariant runtime start s)
    (h : serialOp runtime merge s op = .ok t) : SerialInvariant runtime start t := by
  cases op with
  | tryToLaunch planned => exact hs.tryToLaunch h
  | getSchedule => exact hs.getSchedule h
  | putModelInput => exact hs.putModelInput h
  | getModelInput => exact hs.getModelInput h
  | updateCachedRequests => exact hs.updateCachedRequests h
  | applyRepair => exact hs.applyRepair h
  | forward => exact hs.forward h
  | handlePostprocessInline => exact hs.handlePostprocessInline h
  | handlePostprocess => exact hs.handlePostprocess h
  | putSamplingOutput => exact hs.putSamplingOutput h
  | reportSamplingOutput => exact hs.reportSamplingOutput h
  | updateWithGenerationResult => exact hs.updateWithGenerationResult h

/-- Some thread can always move: nothing that was launched stays where it is. -/
theorem SerialInvariant.moves (merge : ScheduleOutput → ScheduleOutput)
    (hs : SerialInvariant runtime start s) (hsome : 0 < s.executorPipelineDepth) :
    ∃ op t, (∀ planned, op ≠ .tryToLaunch planned) ∧ serialOp runtime merge s op = .ok t := by
  have hinFlight := hs.inFlight
  cases hreported : s.reported with
  | cons output rest =>
    exact ⟨.updateWithGenerationResult, _, fun _ => nofun, by rw [serialOp, hreported]⟩
  | nil =>
    cases hqueue : s.samplingOutputQueue with
    | cons output rest =>
      exact ⟨.reportSamplingOutput, _, fun _ => nofun, by rw [serialOp, hqueue]⟩
    | nil =>
      rw [hreported, hqueue, List.length_nil, SerialState.unexecuted] at hinFlight
      cases hexecuting : s.executing with
      | some running =>
        obtain ⟨schedule, phase⟩ := running
        have hhandles := hs.handles
        rw [hexecuting] at hhandles
        cases phase with
        | started => exact ⟨.updateCachedRequests, _, fun _ => nofun, by rw [serialOp, hexecuting]⟩
        | updated reqs => exact ⟨.applyRepair, _, fun _ => nofun, by rw [serialOp, hexecuting]⟩
        | repaired reqs => exact ⟨.forward, _, fun _ => nofun, by rw [serialOp, hexecuting]⟩
        | forwarded reqs results =>
          exact ⟨.handlePostprocessInline, _, fun _ => nofun, by rw [serialOp, hexecuting]⟩
        | inline reqs results =>
          have honeShot : s.handles.postprocessOneShot = true := by
            rw [hhandles]
            rfl
          exact ⟨.handlePostprocess, _, fun _ => nofun, by rw [serialOp, honeShot, hexecuting]⟩
        | postprocessed output =>
          have hreports : s.handles.postprocessEnqueueReport = true := by
            rw [hhandles]
            rfl
          exact ⟨.putSamplingOutput, _, fun _ => nofun, by
            rw [serialOp, hexecuting]
            exact if_pos hreports⟩
      | none =>
        cases hinputs : s.modelInputQueue with
        | cons schedule rest =>
          exact ⟨.getModelInput, _, fun _ => nofun, by rw [serialOp, hexecuting, hinputs]⟩
        | nil =>
          cases hput : s.preprocessing with
          | some schedule =>
            exact ⟨.putModelInput, _, fun _ => nofun, by
              rw [serialOp, hput]
              exact check_bind_of_true _ _ (hs.roomForPut hput)⟩
          | none =>
            cases hschedules : s.scheduleOutputQueue with
            | cons schedule rest =>
              exact ⟨.getSchedule, _, fun _ => nofun, by rw [serialOp, hput, hschedules]⟩
            | nil =>
              rw [hexecuting, hinputs, hput, hschedules] at hinFlight
              exact absurd hinFlight (Nat.ne_of_gt hsome)

/-- The results leave in the order of the launches, each under the id of its schedule, and are
what one thread makes of the same schedules; so is what a step forwards, and what the Execute
thread remembers between steps. Nothing is held between steps, Preprocess never waits for room,
and what is in flight can always move on. -/
structure SerialThreadsSafe (runtime : SerialRuntime) (merge : ScheduleOutput → ScheduleOutput)
    (start : ExecuteMemory) (s : SerialState) : Prop where
  outputs : s.outputs <+: (runAll (serialStep runtime) start s.history.launched).2
  ids : ∀ (n : Nat) (output : SamplingOutput), s.outputs[n]? = some output →
    ∃ schedule : LaunchedSchedule, s.history.launched[n]? = some schedule ∧
      output.scheduleId = schedule.scheduleOutput.scheduleId
  forwards : ∀ (schedule : LaunchedSchedule) (reqs : List ExecutorInferRequest)
    (results : Int → StepResult), s.executing = some (schedule, .forwarded reqs results) →
    s.history.launched[s.outputs.length]? = some schedule ∧
      reqs = (forwardedBy runtime (runAll (serialStep runtime) start
        (s.history.launched.take s.outputs.length)).1 schedule.scheduleOutput).2
  between : s.executing = none → s.handles = {} ∧
    s.memory = (runAll (serialStep runtime) start
      (s.history.launched.take s.outputs.length)).1
  room : s.preprocessing ≠ none → s.modelInputQueue.length < kMtpSerialModelInputQueueMaxDepth
  moves : 0 < s.executorPipelineDepth →
    ∃ op t, (∀ planned, op ≠ .tryToLaunch planned) ∧ serialOp runtime merge s op = .ok t

theorem SerialInvariant.safe (merge : ScheduleOutput → ScheduleOutput)
    (hs : SerialInvariant runtime start s) : SerialThreadsSafe runtime merge start s := by
  have hlength : s.outputs.length = s.history.executed.length := by
    rw [hs.outputs, runAll_length]
  have htake : s.history.launched.take s.outputs.length = s.history.executed := by
    rw [hs.order, hlength, List.take_left]
  have hbegin : s.outputs <+: (runAll (serialStep runtime) start s.history.launched).2 := by
    rw [hs.outputs, hs.order]
    exact runAll_results_begin _ _ _ _
  refine ⟨hbegin, ?_, ?_, ?_, ?_, hs.moves merge⟩
  · intro n output houtput
    obtain ⟨hlt, -⟩ := List.getElem?_eq_some_iff.mp houtput
    obtain ⟨schedule, hschedule⟩ : ∃ schedule, s.history.executed[n]? = some schedule :=
      ⟨_, List.getElem?_eq_getElem (by omega)⟩
    refine ⟨schedule, ?_, ?_⟩
    · rw [hs.order, List.getElem?_append_left (by omega)]
      exact hschedule
    · rw [hs.outputs, runAll_getElem? _ _ hschedule] at houtput
      rw [← Option.some.inj houtput]
      rfl
  · intro schedule reqs results hat
    have hmemory := hs.executing
    rw [hat] at hmemory
    refine ⟨?_, ?_⟩
    · rw [hs.order, hlength, List.getElem?_append_right (Nat.le_refl _), Nat.sub_self,
        SerialState.unexecuted, hat]
      rfl
    · rw [htake, ← hmemory.1]
  · intro hidle
    have hmemory := hs.executing
    rw [hidle] at hmemory
    refine ⟨hs.handles.trans (by rw [hidle]; rfl), ?_⟩
    rw [htake]
    exact hmemory
  · intro hput
    obtain ⟨schedule, hsome⟩ := Option.ne_none_iff_exists'.mp hput
    exact hs.roomForPut hsome

theorem SerialInvariant.of_start (runtime : SerialRuntime)
    (start : ExecuteMemory) : SerialInvariant runtime start { memory := start } where
  depth := rfl
  bounded := Nat.zero_le _
  order := rfl
  outputs := rfl
  executing := rfl
  handles := rfl

/-- Whatever the threads do in whatever order, they do what one thread would. -/
theorem serial_threads_safe (runtime : SerialRuntime) (merge : ScheduleOutput → ScheduleOutput)
    (start : ExecuteMemory) (ops : List SerialOp)
    (hrun : exec (serialOp runtime merge) { memory := start } ops = .ok s) :
    SerialThreadsSafe runtime merge start s :=
  (exec_invariant (I := SerialInvariant runtime start) (fun _ _ _ hs h => hs.step h)
    (.of_start runtime start) hrun).safe merge

end Actions

/-- Every request is sampled the token 9, and the cache keeps what the step before has left. -/
def serialRuntimeSample : SerialRuntime where
  updateCachedRequests := fun cached _ => cached
  rebuildScheduleOutput := fun cached schedule =>
    schedule.runningReqs.map fun req => cached req.reqId
  generate := fun _ _ => { generatedTokens := [9] }

def serialStartSample : ExecuteMemory where
  cached := fun reqId => { reqId }
  mtp := {}

/-- The second schedule is put in front of Execute while the first one is forwarded. -/
def serialOps : List SerialOp :=
  [.tryToLaunch freshOutputSample, .getSchedule, .tryToLaunch freshOutputSample, .putModelInput,
    .getModelInput, .getSchedule, .updateCachedRequests, .applyRepair, .forward, .putModelInput,
    .handlePostprocessInline, .handlePostprocess, .putSamplingOutput, .getModelInput,
    .updateCachedRequests, .reportSamplingOutput, .applyRepair, .updateWithGenerationResult,
    .forward]

theorem serial_threads_safe_sample :
    letI := concatDraftTokens
    ∃ s, exec (serialOp serialRuntimeSample id) { memory := serialStartSample } serialOps = .ok s ∧
      s.history.launched.length = 2 ∧ s.outputs.length = 1 ∧
      SerialThreadsSafe serialRuntimeSample id serialStartSample s := by
  let _ := concatDraftTokens
  have hvalues : (exec (serialOp serialRuntimeSample id) { memory := serialStartSample }
      serialOps).map (fun s => (s.history.launched.length, s.outputs.length)) = .ok (2, 1) := by
    decide +kernel
  cases hrun : exec (serialOp serialRuntimeSample id) { memory := serialStartSample } serialOps with
  | error message =>
    rw [hrun] at hvalues
    cases hvalues
  | ok s =>
    rw [hrun] at hvalues
    obtain ⟨hlaunched, houtputs⟩ := Prod.mk.inj (Except.ok.inj hvalues)
    exact ⟨s, rfl, hlaunched, houtputs, serial_threads_safe _ id _ serialOps hrun⟩

end KsanaBuildAhead.Executor
