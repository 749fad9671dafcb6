import KsanaBuildAhead.Engine.SteadyPipeline

/-!
# Draining the pipeline

Any interleaving of plans, launches and retirements from the admission of a
request on. A run keeps to the phases of the pipeline unless it launches behind a
step whose token still waits to be launched, or retires the last placeholder
block of the queue; in the phases a drained request launches with every token it
has produced.
-/
namespace KsanaBuildAhead.Engine

open KsanaBuildAhead.Runtime KsanaBuildAhead.Lib.ListEdit KsanaBuildAhead.Lib.Execution

/-- The drafts the oldest step in flight was launched with. -/
def oldestDraftNum (req : InferRequest) : Nat :=
  match req.inflightTasks with
  | [] => 0
  | oldest :: _ => oldest.workload.draftTokenNum

theorem oldestDraftNum_cons {req : InferRequest} {oldest : ScheduleTask} {queue : List ScheduleTask}
    (hinflight : req.inflightTasks = oldest :: queue) :
    oldestDraftNum req = oldest.workload.draftTokenNum := by
  rw [oldestDraftNum, hinflight]

/-- A step that is not a middle chunk returns one vocabulary token and accepts a prefix
of its drafts; the drafts of a step without a block end the sequence. -/
def ReturnedBy (req : InferRequest) (result : StepResult) : Prop :=
  result.generatedTokens.length = 1 ∧ (∀ token ∈ result.generatedTokens, 0 ≤ token) ∧
    result.acceptedTokens.length ≤ oldestDraftNum req ∧
    (req.pendingPlaceholderPositions = [] → result.acceptedTokens <+: req.forwardingTokens.drop
      (req.forwardingTokens.length - req.forwardingTokensDraftNum))

/-- The plans and results the scheduler and the Executor produce: prefill chunks in
order while some of the prompt is left, then decode steps of one token and any
number of drafts. -/
def StepPermitted (req : InferRequest) : RequestAction → Prop
  | .plan workload =>
    if 0 < req.remainingWorkload.prefillTokenNum then
      workload.prefillStartOffset = req.remainingWorkload.prefillStartOffset ∧
        0 < workload.prefillTokenNum ∧
        workload.generatedTokenNum = 0 ∧ workload.draftTokenNum = 0
    else workload.prefillTokenNum = 0 ∧ workload.generatedTokenNum = kStepGenerateTokenNum
  | .launch => True
  | .retire result => req.isSplitPrefillStep = false → ReturnedBy req result

/-- A decode step is launched behind a step whose generated token is still waiting, so
that token would be appended a second time. -/
def RepeatsToken (req : InferRequest) : RequestAction → Prop
  | .launch => req.inflightTasks ≠ [] ∧ req.planningTask.workload.prefillTokenNum = 0 ∧
      req.generatedTokens ≠ []
  | _ => False

/-- A step retires with the only block of the queue, its own, and no stop token: the
token it generated has no block to go to. -/
def DrainsLastBlock (req : InferRequest) : RequestAction → Prop
  | .retire result => req.isEosGenerated = false ∧ req.isSplitPrefillStep = false ∧
      req.pendingPlaceholderPositions.length = 1 ∧
      ¬ (1 < req.getInflightCount ∧ req.forwardingTokens[
        req.pendingPlaceholderPositions.headD 0]? = some kFastPathPlaceholderTokenId) ∧
      req.endsWithStopToken result.generatedTokens = false
  | _ => False

def HandsTokenOn (req : InferRequest) (action : RequestAction) : Prop :=
  ¬ RepeatsToken req action ∧ ¬ DrainsLastBlock req action

instance (req : InferRequest) (result : StepResult) : Decidable (ReturnedBy req result) := by
  unfold ReturnedBy
  infer_instance

instance (req : InferRequest) : (action : RequestAction) → Decidable (StepPermitted req action)
  | .plan _ => by unfold StepPermitted; infer_instance
  | .launch => .isTrue trivial
  | .retire _ => by unfold StepPermitted; infer_instance

instance (req : InferRequest) : (action : RequestAction) → Decidable (HandsTokenOn req action)
  | .plan _ => .isTrue ⟨id, id⟩
  | .launch => by unfold HandsTokenOn RepeatsToken DrainsLastBlock; infer_instance
  | .retire _ => by unfold HandsTokenOn RepeatsToken DrainsLastBlock; infer_instance

/-- A request admitted with the KV of its first `cached` tokens already there. -/
def admitted [DraftTokensApi] (req : InferRequest) (cached : Nat) : InferRequest :=
  req.resetPrefillingTokens.setRemainingWorkload
    { prefillTokenNum := req.outputTokens.length - cached, prefillStartOffset := cached }

/-- The launch of a planned decode step forwards everything the request has produced, its
last token included, and all of it but that token is cached. -/
def LaunchForwardsOutput [DraftTokensApi] (req : InferRequest) : Prop :=
  ∃ launched, req.launchPlanningTask true false = .ok launched ∧
    launched.outputTokens <+: launched.forwardingTokens ∧
    launched.kvCachedTokenNum = launched.outputTokens.length - 1 ∧
    launched.kvCachedTokenNum < launched.forwardingTokens.length

/-- Some of the prompt is still to be launched: its first `launched` tokens are in the
sequence or cached, and only middle chunks are in flight. -/
structure Prefilling (prompt : List Int) (launched : Nat) [DraftTokensApi] (req : InferRequest) :
    Prop where
  prefilling : req.prefillingTokens = prompt
  output : req.outputTokens = prompt
  before : launched < prompt.length
  forwarding : req.forwardingTokens = [] ∨ req.forwardingTokens = prompt.take launched
  remaining : req.remainingWorkload.prefillStartOffset +
    req.remainingWorkload.prefillTokenNum = prompt.length
  offset : req.remainingWorkload.prefillStartOffset =
    launched + req.planningTask.workload.prefillTokenNum
  planning : req.remainingWorkload.prefillTokenNum = 0 → req.planningWorkload.prefillTokenNum = 0
  task : req.planningTask.isEmpty = true ∨ (0 < req.planningTask.workload.prefillTokenNum ∧
    req.planningTask.workload.prefillStartOffset = launched ∧
    req.planningTask.workload.generatedTokenNum = 0 ∧ req.planningTask.workload.draftTokenNum = 0)
  chunks : ∀ chunk ∈ req.inflightTasks, 0 < chunk.workload.prefillTokenNum ∧
    chunk.workload.prefillTokenNum + chunk.workload.prefillStartOffset < prompt.length
  generated : req.generatedTokens = []
  drafts : DraftTokensApi.getDraftTokens req.draftTokens = []
  positions : req.pendingPlaceholderPositions = []
  draftNums : req.pendingPlaceholderDraftNums = []
  stage : req.inferStage = .context
  running : req.isEosGenerated = false

/-- Where a request can be while every step hands its token on. -/
inductive Phase [DraftTokensApi] (prompt : List Int) (req : InferRequest) : Prop
  | prefilling (launched : Nat) (h : Prefilling prompt launched req)
  | lastChunk (chunks : List ScheduleTask) (h : LastChunkInFlight prompt chunks req)
  | firstReserved (draftNum : Nat) (h : FirstStepReserved prompt draftNum req)
  | filled (tokens : List Int) (main : VocabId) (drafts : List Int)
      (h : StepFilled tokens main drafts req)
  | nextReserved (tokens : List Int) (main : VocabId) (drafts : List Int) (nextDraftNum : Nat)
      (h : NextStepReserved tokens main drafts nextDraftNum req)
  | drained (tokens : List Int) (token : VocabId) (drafts : DraftTokens)
      (h : Drained tokens token drafts req)
  | realStep (tokens : List Int) (token : VocabId) (drafts : List Int)
      (h : RealStepInFlight tokens token drafts req)
  | finished (h : req.isEosGenerated = true)

/-- Where a launch takes a running request that hands its tokens on. -/
inductive LaunchedPhase [DraftTokensApi] (prompt : List Int) (req next : InferRequest) : Prop
  | middleChunk (launched further : Nat) (h : Prefilling prompt launched req)
      (hnext : Prefilling prompt further next) (hsampling : next.samplingTokenNum = 0)
  | lastChunk (launched : Nat) (h : Prefilling prompt launched req)
      (hnext : LastChunkInFlight prompt req.inflightTasks next)
      (hprefill : 0 < req.planningTask.workload.prefillTokenNum)
      (hsampling : next.samplingTokenNum = kStepGenerateTokenNum)
  | firstReserved (h : LastChunkInFlight prompt [] req)
      (hnext : FirstStepReserved prompt req.planningTask.workload.draftTokenNum next)
  | nextReserved (tokens : List Int) (main : VocabId) (drafts : List Int)
      (h : StepFilled tokens main drafts req)
      (hnext : NextStepReserved tokens main drafts req.planningTask.workload.draftTokenNum next)
  | realStep (tokens : List Int) (token : VocabId) (drafts : DraftTokens)
      (h : Drained tokens token drafts req)
      (hnext : RealStepInFlight tokens token ((DraftTokensApi.getDraftTokens drafts).take
        req.planningTask.workload.draftTokenNum) next)

/-- Where the retirement of a step that returned `result` takes such a request, unless a stop
token ends it. -/
inductive RetiredPhase [DraftTokensApi] (prompt : List Int) (req : InferRequest)
    (result : StepResult) (next : InferRequest) : Prop
  | middleChunk (launched : Nat) (h : Prefilling prompt launched req)
      (hnext : Prefilling prompt launched next) (hsplit : req.isSplitPrefillStep = true)
  | laterChunk (chunk : ScheduleTask) (chunks : List ScheduleTask)
      (h : LastChunkInFlight prompt (chunk :: chunks) req)
      (hnext : LastChunkInFlight prompt chunks next) (hsplit : req.isSplitPrefillStep = true)
  | lastChunk (token : VocabId) (h : LastChunkInFlight prompt [] req)
      (htoken : result.generatedTokens = [token.val])
      (hnext : Drained prompt token result.draftTokens next)
  | firstReserved (draftNum : Nat) (token : VocabId) (h : FirstStepReserved prompt draftNum req)
      (htoken : result.generatedTokens = [token.val])
      (hnext : StepFilled prompt token (resize (DraftTokensApi.getDraftTokens result.draftTokens)
        draftNum kFastPathPlaceholderTokenId) next)
  | nextReserved (tokens : List Int) (main : VocabId) (drafts : List Int) (nextDraftNum : Nat)
      (token : VocabId) (h : NextStepReserved tokens main drafts nextDraftNum req)
      (htoken : result.generatedTokens = [token.val])
      (haccepted : result.acceptedTokens.length ≤ drafts.length)
      (hnext : StepFilled (tokens ++ main.val :: result.acceptedTokens) token
        (resize (DraftTokensApi.getDraftTokens result.draftTokens) nextDraftNum
          kFastPathPlaceholderTokenId) next)
  | realStep (tokens : List Int) (main : VocabId) (drafts : List Int) (token : VocabId)
      (h : RealStepInFlight tokens main drafts req)
      (htoken : result.generatedTokens = [token.val])
      (haccepted : result.acceptedTokens <+: drafts)
      (hnext : Drained (tokens ++ main.val :: result.acceptedTokens) token result.draftTokens next)

section Phases

variable [DraftTokensApi] {prompt : List Int} {req next : InferRequest}

theorem admitted_prefilling (req : InferRequest) {cached : Nat}
    (hcached : cached < req.outputTokens.length) :
    Prefilling req.outputTokens cached (admitted req cached) where
  prefilling := rfl
  output := rfl
  before := hcached
  forwarding := Or.inl rfl
  remaining := Nat.add_sub_cancel' (Nat.le_of_lt hcached)
  offset := rfl
  planning := fun h => absurd h (Nat.sub_ne_zero_of_lt hcached)
  task := Or.inl rfl
  chunks := fun _ h => absurd h List.not_mem_nil
  generated := rfl
  drafts := DraftTokensApi.get_clear _
  positions := rfl
  draftNums := rfl
  stage := rfl
  running := rfl

omit [DraftTokensApi] in
theorem plan_ok {workload : ScheduleTaskWorkload}
    (h : (req.setPlanningWorkload workload).setPlanningTask = .ok next) :
    req.planningTask.isEmpty = true ∧
      workload.prefillTokenNum ≤ req.remainingWorkload.prefillTokenNum ∧
      next = { req with
        planningTask := ⟨workload⟩
        remainingWorkload := { req.remainingWorkload with
          prefillTokenNum := req.remainingWorkload.prefillTokenNum - workload.prefillTokenNum
          prefillStartOffset := req.remainingWorkload.prefillStartOffset + workload.prefillTokenNum
          generatedTokenNum := 0
          draftTokenNum := 0 }
        planningWorkload := {} } := by
  obtain ⟨hempty, h⟩ := check_bind_ok h
  obtain ⟨hfit, h⟩ := check_bind_ok h
  obtain ⟨-, h⟩ := check_bind_ok h
  exact ⟨hempty, hfit, (Except.ok.inj h).symm⟩

theorem Prefilling.plan {launched : Nat} {workload : ScheduleTaskWorkload}
    (hreq : Prefilling prompt launched req)
    (hpermitted : StepPermitted req (.plan workload))
    (h : (req.setPlanningWorkload workload).setPlanningTask = .ok next) :
    Prefilling prompt launched next := by
  obtain ⟨hempty, hfit, rfl⟩ := plan_ok h
  have hno := ScheduleTask.prefillTokenNum_of_isEmpty hempty
  have hoffset := hreq.offset
  have hremaining := hreq.remaining
  have hbefore := hreq.before
  have hleft : 0 < req.remainingWorkload.prefillTokenNum := by omega
  simp only [StepPermitted, if_pos hleft] at hpermitted
  obtain ⟨hstart, hpositive, hgenerated, hdraft⟩ := hpermitted
  exact { hreq with
    remaining := by simp only; omega
    offset := by simp only; omega
    planning := fun _ => rfl
    task := Or.inr ⟨hpositive, by simp only; omega, hgenerated, hdraft⟩ }

omit [DraftTokensApi] in
theorem plan_decode {workload : ScheduleTaskWorkload} (hreq : DecodeReady req)
    (hpermitted : StepPermitted req (.plan workload))
    (h : (req.setPlanningWorkload workload).setPlanningTask = .ok next) :
    workload.prefillTokenNum = 0 ∧ workload.generatedTokenNum = kStepGenerateTokenNum ∧
      next = planDecode req workload := by
  have hdone : ¬ 0 < req.remainingWorkload.prefillTokenNum := by rw [hreq.remaining]; decide
  simp only [StepPermitted, if_neg hdone] at hpermitted
  obtain ⟨hprefill, hgenerated⟩ := hpermitted
  have hplan := setPlanningTask_decode workload hreq (plan_ok h).1 hprefill
  rw [h] at hplan
  exact ⟨hprefill, hgenerated, Except.ok.inj hplan⟩

theorem Phase.plan {workload : ScheduleTaskWorkload} (hreq : Phase prompt req)
    (hpermitted : StepPermitted req (.plan workload))
    (h : (req.setPlanningWorkload workload).setPlanningTask = .ok next) : Phase prompt next := by
  cases hreq with
  | prefilling launched hphase => exact .prefilling launched (hphase.plan hpermitted h)
  | lastChunk chunks hphase =>
    obtain ⟨hprefill, hgenerated, rfl⟩ := plan_decode hphase.toDecodeReady hpermitted h
    exact .lastChunk chunks (hphase.plan workload hprefill hgenerated)
  | firstReserved draftNum hphase =>
    obtain ⟨hprefill, hgenerated, rfl⟩ := plan_decode hphase.toDecodeReady hpermitted h
    exact .firstReserved draftNum (hphase.plan workload hprefill hgenerated)
  | filled tokens main drafts hphase =>
    obtain ⟨hprefill, hgenerated, rfl⟩ := plan_decode hphase.toDecodeReady hpermitted h
    exact .filled tokens main drafts (hphase.plan workload hprefill hgenerated)
  | nextReserved tokens main drafts nextDraftNum hphase =>
    obtain ⟨hprefill, hgenerated, rfl⟩ := plan_decode hphase.toDecodeReady hpermitted h
    exact .nextReserved tokens main drafts nextDraftNum (hphase.plan workload hprefill hgenerated)
  | drained tokens token drafts hphase =>
    obtain ⟨hprefill, hgenerated, rfl⟩ := plan_decode hphase.toDecodeReady hpermitted h
    exact .drained tokens token drafts (hphase.plan workload hprefill hgenerated)
  | realStep tokens token drafts hphase =>
    obtain ⟨hprefill, hgenerated, rfl⟩ := plan_decode hphase.toDecodeReady hpermitted h
    exact .realStep tokens token drafts (hphase.plan workload hprefill hgenerated)
  | finished heos =>
    obtain ⟨-, -, rfl⟩ := plan_ok h
    exact .finished heos

theorem launch_ok {maxDepth : Nat} {fastPath : Bool}
    (h : launch fastPath maxDepth req = .ok next) :
    req.planningTask.isEmpty = false ∧ req.inflightTasks.length < maxDepth ∧
      req.launchPlanningTask fastPath req.hasInflightTask = .ok next := by
  obtain ⟨⟨-, hplanned, hcapacity⟩, h⟩ := check_bind_ok h
  refine ⟨?_, ?_, h⟩
  · simpa [InferRequest.hasPlanningTask] using hplanned
  · exact of_decide_eq_true hcapacity

theorem Prefilling.launch {launched : Nat} (hreq : Prefilling prompt launched req)
    (h : Engine.launch true 2 req = .ok next) : LaunchedPhase prompt req next := by
  obtain ⟨htask, hcapacity, h⟩ := launch_ok h
  obtain ⟨hpositive, hstart, hgenerated, hdraft⟩ : 0 < req.planningTask.workload.prefillTokenNum ∧
      req.planningTask.workload.prefillStartOffset = launched ∧
      req.planningTask.workload.generatedTokenNum = 0 ∧
      req.planningTask.workload.draftTokenNum = 0 := by
    rcases hreq.task with hempty | hplanned
    · rw [hempty] at htask
      cases htask
    · exact hplanned
  have hchain : req.forwardingTokens.length = req.planningTask.workload.prefillStartOffset →
      req.forwardingTokens =
        req.prefillingTokens.take req.planningTask.workload.prefillStartOffset := by
    intro hlen
    rcases hreq.forwarding with hnil | hprompt
    · rw [hnil] at hlen
      rw [hnil, ← hlen]
      rfl
    · rw [hstart, hreq.prefilling, hprompt]
  obtain ⟨kv, cacheLen, hlaunch, -⟩ := InferRequest.launchPlanningTask_prefill true
    req.hasInflightTask req hcapacity (by simp [InferRequest.hasInflightTask]) hpositive hchain
  rw [h] at hlaunch
  have hoffset := hreq.offset
  have hremaining := hreq.remaining
  by_cases hlast : req.prefillingTokens.length ≤ req.planningTask.workload.prefillTokenNum +
      req.planningTask.workload.prefillStartOffset
  · simp only [if_pos hlast, hreq.drafts, List.append_nil, List.length_nil] at hlaunch
    obtain rfl := Except.ok.inj hlaunch
    have hdone : req.remainingWorkload.prefillTokenNum = 0 := by
      rw [hreq.prefilling] at hlast
      omega
    have hend : prompt.length ≤
        req.planningTask.workload.prefillStartOffset + req.planningTask.workload.prefillTokenNum := by
      rw [← hreq.prefilling]
      omega
    refine .lastChunk launched hreq ?_ hpositive rfl
    exact {
      remaining := hdone
      offset := by simp only [hreq.prefilling]; omega
      planning := hreq.planning hdone
      taskPrefill := rfl
      taskGenerated := fun h => absurd h (by simp [ScheduleTask.isEmpty,
        ScheduleTaskWorkload.isEmpty])
      prefilling := hreq.prefilling
      output := hreq.output
      forwarding := by
        simp only [hreq.prefilling]
        exact List.take_of_length_le hend
      middle := hreq.chunks
      inflight := ⟨_, rfl, rfl, by simp only; omega⟩
      positions := hreq.positions
      draftNums := hreq.draftNums
      generated := hreq.generated
      draftNum := rfl
      running := hreq.running }
  · simp only [if_neg hlast, List.append_nil] at hlaunch
    obtain rfl := Except.ok.inj hlaunch
    have hmore : req.planningTask.workload.prefillTokenNum +
        req.planningTask.workload.prefillStartOffset < prompt.length := by
      rw [← hreq.prefilling]
      omega
    refine .middleChunk launched (launched + req.planningTask.workload.prefillTokenNum) hreq ?_ rfl
    exact { hreq with
      before := by omega
      forwarding := Or.inr (by simp only [hreq.prefilling, hstart])
      offset := hoffset
      task := Or.inl rfl
      chunks := by
        intro chunk hmem
        rcases List.mem_append.mp hmem with hold | hnew
        · exact hreq.chunks chunk hold
        · obtain rfl := List.mem_singleton.mp hnew
          exact ⟨hpositive, hmore⟩ }

omit [DraftTokensApi] in
theorem hasInflightTask_of_cons {task : ScheduleTask} {queue : List ScheduleTask}
    (hinflight : req.inflightTasks = task :: queue) : req.hasInflightTask = true := by
  simp [InferRequest.hasInflightTask, InferRequest.getInflightCount, hinflight]

theorem Phase.launched (hreq : Phase prompt req) (hhands : HandsTokenOn req .launch)
    (hrunning : req.isEosGenerated = false) (h : Engine.launch true 2 req = .ok next) :
    LaunchedPhase prompt req next := by
  obtain ⟨htask, hcapacity, hlaunch⟩ := launch_ok h
  cases hreq with
  | prefilling launched hphase => exact hphase.launch h
  | lastChunk chunks hphase =>
    obtain ⟨task, hinflight, -⟩ := hphase.inflight
    obtain _ | ⟨chunk, chunks⟩ := chunks
    · rw [hasInflightTask_of_cons hinflight] at hlaunch
      obtain ⟨launched, hok, -, hreserved⟩ := hphase.launch htask
      rw [hlaunch] at hok
      obtain rfl := Except.ok.inj hok
      exact .firstReserved hphase hreserved
    · rw [hinflight, List.length_append, List.length_cons, List.length_singleton] at hcapacity
      omega
  | firstReserved draftNum hphase =>
    obtain ⟨chunk, step, hinflight, -⟩ := hphase.inflight
    rw [hinflight] at hcapacity
    exact absurd hcapacity (Nat.lt_irrefl 2)
  | filled tokens main drafts hphase =>
    obtain ⟨step, hinflight, -⟩ := hphase.inflight
    rw [hasInflightTask_of_cons hinflight] at hlaunch
    obtain ⟨launched, hok, -, hreserved⟩ := hphase.launch htask
    rw [hlaunch] at hok
    obtain rfl := Except.ok.inj hok
    exact .nextReserved tokens main drafts hphase hreserved
  | nextReserved tokens main drafts nextDraftNum hphase =>
    obtain ⟨step, next, hinflight, -⟩ := hphase.inflight
    rw [hinflight] at hcapacity
    exact absurd hcapacity (Nat.lt_irrefl 2)
  | drained tokens token drafts hphase =>
    have hidle : req.hasInflightTask = false := by
      simp [InferRequest.hasInflightTask, InferRequest.getInflightCount, hphase.inflight]
    rw [hidle] at hlaunch
    obtain ⟨launched, hok, -, halone⟩ := hphase.launch true htask
    rw [hlaunch] at hok
    obtain rfl := Except.ok.inj hok
    exact .realStep tokens token drafts hphase halone
  | realStep tokens token drafts hphase =>
    obtain ⟨step, hinflight, -⟩ := hphase.inflight
    refine absurd ⟨?_, hphase.taskPrefill, ?_⟩ hhands.1
    · rw [hinflight]
      exact List.cons_ne_nil _ _
    · rw [hphase.generated]
      exact List.cons_ne_nil _ _
  | finished heos =>
    rw [heos] at hrunning
    cases hrunning

theorem LaunchedPhase.phase (h : LaunchedPhase prompt req next) : Phase prompt next := by
  cases h with
  | middleChunk launched further _ hnext => exact .prefilling further hnext
  | lastChunk launched _ hnext => exact .lastChunk _ hnext
  | firstReserved _ hnext => exact .firstReserved _ hnext
  | nextReserved tokens main drafts _ hnext => exact .nextReserved tokens main drafts _ hnext
  | realStep tokens token drafts _ hnext => exact .realStep tokens token _ hnext

theorem Phase.launch (hreq : Phase prompt req) (hhands : HandsTokenOn req .launch)
    (h : Engine.launch true 2 req = .ok next) : Phase prompt next := by
  cases heos : req.isEosGenerated with
  | false => exact (hreq.launched hhands heos h).phase
  | true =>
    have hkept := (InferRequest.launchPlanningTask_keeps (launch_ok h).2.2).1
    exact .finished (hkept.eos.trans heos)

omit [DraftTokensApi] in
theorem ReturnedBy.token {result : StepResult} (h : ReturnedBy req result) :
    ∃ token : VocabId, result.generatedTokens = [token.val] := by
  obtain ⟨value, hvalue⟩ := List.length_eq_one_iff.mp h.1
  exact ⟨⟨value, h.2.1 value (by simp [hvalue])⟩, hvalue⟩

omit [DraftTokensApi] in
theorem ReturnedBy.accepted_le {result : StepResult} (h : ReturnedBy req result)
    {step : ScheduleTask} {queue : List ScheduleTask} (hinflight : req.inflightTasks = step :: queue)
    {draftNum : Nat} (hdraft : step.workload.draftTokenNum = draftNum) :
    result.acceptedTokens.length ≤ draftNum := by
  have hle := h.2.2.1
  rw [oldestDraftNum_cons hinflight] at hle
  rw [← hdraft]
  exact hle

theorem retire_idle (result : StepResult) (hidle : req.inflightTasks = []) :
    retire req result ≠ .ok next := by
  intro h
  have hidle' : (deliver req result).inflightTasks = [] := hidle
  simp [retire, InferRequest.updateAfterInflightTaskFinished, hidle', bind, Except.bind] at h

theorem Prefilling.retire {launched : Nat} {result : StepResult}
    (hreq : Prefilling prompt launched req) (h : Engine.retire req result = .ok next) :
    req.isSplitPrefillStep = true ∧ Prefilling prompt launched next := by
  cases hinflight : req.inflightTasks with
  | nil => exact absurd h (retire_idle result hinflight)
  | cons chunk chunks =>
    obtain ⟨hpositive, hmiddle⟩ := hreq.chunks chunk (by simp [hinflight])
    have hsplit := split_of_middle hinflight hpositive (by rw [hreq.prefilling]; exact hmiddle)
    rw [retire_split req result chunk chunks hreq.running hsplit hinflight] at h
    obtain rfl := Except.ok.inj h
    refine ⟨hsplit, ?_⟩
    exact { hreq with
      planning := fun hdone => by simp only at hdone; simp [hdone]
      chunks := fun task hmem => hreq.chunks task (by rw [hinflight]; exact List.mem_cons_of_mem _ hmem)
      generated := rfl
      drafts := DraftTokensApi.get_clear _ }

theorem retire_finished {result : StepResult} (heos : req.isEosGenerated = true)
    (h : Engine.retire req result = .ok next) : next.isEosGenerated = true := by
  cases hinflight : req.inflightTasks with
  | nil => exact absurd h (retire_idle result hinflight)
  | cons step queue =>
    rw [retire_eos req result step queue heos hinflight] at h
    obtain rfl := Except.ok.inj h
    exact heos

/-- The retirement of a step of a running request whose tokens are handed on. -/
theorem Phase.retired {result : StepResult} (hreq : Phase prompt req)
    (hpermitted : StepPermitted req (.retire result))
    (hhands : HandsTokenOn req (.retire result)) (hrunning : next.isEosGenerated = false)
    (h : Engine.retire req result = .ok next) : RetiredPhase prompt req result next := by
  cases hreq with
  | prefilling launched hphase =>
    obtain ⟨hsplit, hnext⟩ := hphase.retire h
    exact .middleChunk launched hphase hnext hsplit
  | lastChunk chunks hphase =>
    obtain ⟨last, hinflight, hdraft, hlast⟩ := hphase.inflight
    obtain _ | ⟨chunk, chunks⟩ := chunks
    · have hreturned := hpermitted
        (split_of_last hinflight (by rw [hphase.prefilling]; exact hlast))
      obtain ⟨token, htoken⟩ := hreturned.token
      have haccepted : result.acceptedTokens = [] := by
        have hle := hreturned.accepted_le hinflight hdraft
        exact List.eq_nil_of_length_eq_zero (by omega)
      obtain ⟨retired, hok, -, -, hdrained⟩ := hphase.retire token result htoken haccepted
      rw [h] at hok
      obtain rfl := Except.ok.inj hok
      exact .lastChunk token hphase htoken (hdrained hrunning)
    · obtain ⟨hpositive, hmiddle⟩ := hphase.middle chunk List.mem_cons_self
      have hsplit := split_of_middle hinflight hpositive (by rw [hphase.prefilling]; exact hmiddle)
      obtain ⟨retired, hok, -, hlater⟩ := hphase.retire_middle result
      rw [h] at hok
      obtain rfl := Except.ok.inj hok
      exact .laterChunk chunk chunks hphase hlater hsplit
  | firstReserved draftNum hphase =>
    obtain ⟨chunk, step, hinflight, hlast, -⟩ := hphase.inflight
    obtain ⟨token, htoken⟩ := (hpermitted (split_of_last hinflight hlast)).token
    obtain ⟨retired, hok, -, -, hfilled⟩ := hphase.retire token result htoken
    rw [h] at hok
    obtain rfl := Except.ok.inj hok
    exact .firstReserved draftNum token hphase htoken ⟨hfilled, hrunning⟩
  | filled tokens main drafts hphase =>
    obtain ⟨step, hinflight, hdecode, hdraft⟩ := hphase.inflight
    have hsplit := split_of_decode hinflight hdecode
    have hreturned := hpermitted hsplit
    obtain ⟨token, htoken⟩ := hreturned.token
    have haccepted := hreturned.accepted_le hinflight hdraft
    obtain ⟨retired, hok, -, hstop⟩ := hphase.retire result haccepted
    rw [h] at hok
    obtain rfl := Except.ok.inj hok
    have hends : req.endsWithStopToken result.generatedTokens = true := by
      by_contra hrunning
      refine hhands.2 ⟨hphase.running, hsplit, by rw [hphase.positions]; rfl, ?_,
        by simpa using hrunning⟩
      rintro ⟨hcount, -⟩
      rw [InferRequest.getInflightCount, hinflight] at hcount
      exact absurd hcount (Nat.lt_irrefl 1)
    rw [hrunning, htoken, InferRequest.endsWithStopToken_concat] at hstop
    have hnone : req.endsWithStopToken result.generatedTokens = false := by
      rw [htoken, ← List.nil_append [token.val], InferRequest.endsWithStopToken_concat]
      exact hstop.symm
    rw [hnone] at hends
    cases hends
  | nextReserved tokens main drafts nextDraftNum hphase =>
    obtain ⟨step, following, hinflight, hdecode, hdraft, -⟩ := hphase.inflight
    have hreturned := hpermitted (split_of_decode hinflight hdecode)
    obtain ⟨token, htoken⟩ := hreturned.token
    have haccepted := hreturned.accepted_le hinflight hdraft
    obtain ⟨retired, hok, -, -, hfilled⟩ := hphase.retire token result htoken haccepted
    rw [h] at hok
    obtain rfl := Except.ok.inj hok
    exact .nextReserved tokens main drafts nextDraftNum token hphase htoken haccepted
      ⟨hfilled, hrunning⟩
  | drained tokens token drafts hphase => exact absurd h (retire_idle result hphase.inflight)
  | realStep tokens main drafts hphase =>
    obtain ⟨step, hinflight, hdecode, hdraft⟩ := hphase.inflight
    have hreturned := hpermitted (split_of_decode hinflight hdecode)
    obtain ⟨token, htoken⟩ := hreturned.token
    have haccepted : result.acceptedTokens <+: drafts := by
      have hpre := hreturned.2.2.2 hphase.positions
      rwa [hphase.forwarding, hphase.draftNum, List.length_append, Nat.add_sub_cancel,
        List.drop_left] at hpre
    obtain ⟨retired, hok, -, -, hdrained⟩ := hphase.retire token result htoken haccepted
    rw [h] at hok
    obtain rfl := Except.ok.inj hok
    exact .realStep tokens main drafts token hphase htoken haccepted (hdrained hrunning)
  | finished heos =>
    rw [retire_finished heos h] at hrunning
    cases hrunning

theorem RetiredPhase.phase {result : StepResult} (h : RetiredPhase prompt req result next) :
    Phase prompt next := by
  cases h with
  | middleChunk launched _ hnext => exact .prefilling launched hnext
  | laterChunk chunk chunks _ hnext => exact .lastChunk chunks hnext
  | lastChunk token _ _ hnext => exact .drained prompt token _ hnext
  | firstReserved draftNum token _ _ hnext => exact .filled prompt token _ hnext
  | nextReserved tokens main drafts nextDraftNum token _ _ _ hnext => exact .filled _ token _ hnext
  | realStep tokens main drafts token _ _ _ hnext => exact .drained _ token _ hnext

theorem Phase.retire {result : StepResult} (hreq : Phase prompt req)
    (hpermitted : StepPermitted req (.retire result))
    (hhands : HandsTokenOn req (.retire result))
    (h : Engine.retire req result = .ok next) : Phase prompt next := by
  cases heos : next.isEosGenerated with
  | false => exact (hreq.retired hpermitted hhands heos h).phase
  | true => exact .finished heos

theorem Phase.step {action : RequestAction} (hreq : Phase prompt req)
    (hpermitted : StepPermitted req action) (hhands : HandsTokenOn req action)
    (h : requestStep true 2 req action = .ok next) : Phase prompt next := by
  cases action with
  | plan workload => exact hreq.plan hpermitted h
  | launch => exact hreq.launch hhands h
  | retire result => exact hreq.retire hpermitted hhands h

theorem phase_of_run (start : InferRequest) {cached : Nat} {actions : List RequestAction}
    (hcached : cached < start.outputTokens.length)
    (hrun : exec (requestStep true 2) (admitted start cached) actions = .ok req)
    (hsteps : EachStep (requestStep true 2)
      (fun s action => StepPermitted s action ∧ HandsTokenOn s action)
      (admitted start cached) actions) :
    Phase start.outputTokens req :=
  exec_invariant_of (fun _ _ _ hphase hstep hok => hphase.step hstep.1 hstep.2 hok)
    (.prefilling cached (admitted_prefilling start hcached)) hsteps hrun

/-- In every run whose steps hand their tokens on, a drained decoding request launches
with everything it has produced: its last token is part of the query. -/
theorem drained_launch_forwards_output (start : InferRequest) (cached : Nat)
    (actions : List RequestAction) (hcached : cached < start.outputTokens.length)
    (hrun : exec (requestStep true 2) (admitted start cached) actions = .ok req)
    (hsteps : EachStep (requestStep true 2)
      (fun s action => StepPermitted s action ∧ HandsTokenOn s action)
      (admitted start cached) actions)
    (hidle : req.inflightTasks = []) (hstage : req.inferStage = .decode)
    (hrunning : req.isEosGenerated = false) (htask : req.planningTask.isEmpty = false) :
    LaunchForwardsOutput req := by
  have hphase := phase_of_run start hcached hrun hsteps
  cases hphase with
  | prefilling launched hphase => simp [hphase.stage] at hstage
  | lastChunk chunks hphase =>
    obtain ⟨task, hinflight, -⟩ := hphase.inflight
    simp [hinflight] at hidle
  | firstReserved draftNum hphase =>
    obtain ⟨chunk, step, hinflight, -⟩ := hphase.inflight
    simp [hinflight] at hidle
  | filled tokens main drafts hphase =>
    obtain ⟨step, hinflight, -⟩ := hphase.inflight
    simp [hinflight] at hidle
  | nextReserved tokens main drafts nextDraftNum hphase =>
    obtain ⟨step, following, hinflight, -⟩ := hphase.inflight
    simp [hinflight] at hidle
  | drained tokens token drafts hphase =>
    obtain ⟨launched, hlaunch, -, halone⟩ := hphase.launch true htask
    refine ⟨launched, hlaunch, ?_, ?_, ?_⟩
    · rw [halone.output, halone.forwarding]
      exact List.prefix_append _ _
    · simp [halone.kvCached, halone.output]
    · simp [halone.kvCached, halone.forwarding]
  | realStep tokens token drafts hphase =>
    obtain ⟨step, hinflight, -⟩ := hphase.inflight
    simp [hinflight] at hidle
  | finished heos => simp [heos] at hrunning

end Phases

/-- A two-token prompt. -/
def drainSample : InferRequest where
  reqId := 7
  outputTokens := [11, 12]

/-- Two prefill chunks in flight together, then decode steps one at a time. -/
def oneAtATimeRun : List RequestAction :=
  [.plan { prefillTokenNum := 1 }, .launch,
    .plan { prefillTokenNum := 1, prefillStartOffset := 1 }, .launch, .retire {},
    .retire { generatedTokens := [20], draftTokens := { mtp := [40] } },
    .plan { generatedTokenNum := 1, draftTokenNum := 1 }, .launch,
    .retire { generatedTokens := [21], acceptedTokens := [40], draftTokens := { mtp := [41] } },
    .plan { generatedTokenNum := 1, draftTokenNum := 1 }]

/-- Where that run ends: drained, with the next decode step planned. -/
def oneAtATimeEnd : InferRequest where
  reqId := 7
  samplingTokenNum := 2
  outputTokens := [11, 12, 20, 40, 21]
  draftTokens := { mtp := [41] }
  forwardingTokensDraftNum := 1
  generatedTokens := [21]
  forwardingTokens := [11, 12, 20, 40]
  inferStage := .decode
  forwardStepKind := .decode
  kvCachedTokenNum := 4
  prefixCacheLen := 2
  prefillingTokens := [11, 12]
  planningTask := ⟨{ generatedTokenNum := 1, draftTokenNum := 1 }⟩
  remainingWorkload := { prefillStartOffset := 2 }

theorem drained_launch_forwards_output_sample :
    letI := concatDraftTokens
    LaunchForwardsOutput oneAtATimeEnd := by
  let _ := concatDraftTokens
  have hrun : exec (requestStep true 2) (admitted drainSample 0) oneAtATimeRun =
      .ok oneAtATimeEnd := by decide +kernel
  have hsteps : EachStep (requestStep true 2)
      (fun s action => StepPermitted s action ∧ HandsTokenOn s action)
      (admitted drainSample 0) oneAtATimeRun := eachStep_of_check (by decide +kernel)
  exact drained_launch_forwards_output drainSample 0 oneAtATimeRun (by decide) hrun hsteps
    rfl rfl rfl rfl

/-- The prefill, one decode step launched behind it, both retired, and the next one planned. -/
def drainSampleRun : List RequestAction :=
  [.plan { prefillTokenNum := 2 }, .launch,
    .plan { generatedTokenNum := 1, draftTokenNum := 1 }, .launch,
    .retire { generatedTokens := [20], draftTokens := { mtp := [40] } },
    .retire { generatedTokens := [21], acceptedTokens := [40], draftTokens := { mtp := [41] } },
    .plan { generatedTokenNum := 1, draftTokenNum := 1 }]

theorem drained_launch_loses_token :
    letI := concatDraftTokens
    ∃ req, exec (requestStep true 2) (admitted drainSample 0) drainSampleRun = .ok req ∧
      EachStep (requestStep true 2) StepPermitted (admitted drainSample 0) drainSampleRun ∧
      req.inflightTasks = [] ∧ req.inferStage = .decode ∧ req.isEosGenerated = false ∧
      req.planningTask.isEmpty = false ∧ ¬ LaunchForwardsOutput req := by
  let _ := concatDraftTokens
  refine ⟨_, rfl, eachStep_of_check (by decide), rfl, rfl, rfl, rfl, ?_⟩
  rintro ⟨launched, hlaunch, houtput, -⟩
  obtain rfl := Except.ok.inj hlaunch
  exact absurd houtput (by decide)

end KsanaBuildAhead.Engine
