import KsanaBuildAhead.Engine.ForwardedTokens

/-!
# What the sampled steps are launched with

A run of one request with a record of every launch that samples. Without draft slots the
`k`-th of them forwards everything produced so far; launched ahead, it has a placeholder for the
token that has not come back yet. The slow path never launches ahead.
-/
namespace KsanaBuildAhead.Engine

open KsanaBuildAhead.Runtime KsanaBuildAhead.Lib.ListEdit KsanaBuildAhead.Lib.Execution

/-- A step that samples, as it was launched. -/
structure SampledStep where
  launched : InferRequest
  launchedAhead : Bool
deriving DecidableEq

/-- A request, the sampled steps launched for it and how many of them have retired. -/
structure SampledRun where
  req : InferRequest
  retired : Nat := 0
  steps : List SampledStep := []
deriving DecidableEq

/-- A middle chunk is not sampled. -/
def sampledLaunch (fastPath : Bool) (req launched : InferRequest) : List SampledStep :=
  if 0 < launched.samplingTokenNum then
    [{ launched := launched, launchedAhead := decide (LaunchesBlock fastPath req) }]
  else []

def sampledStep [DraftTokensApi] (fastPath : Bool) (s : SampledRun) (action : RequestAction) :
    Except String SampledRun := do
  let next ← requestStep fastPath (maxInflightDepth fastPath) s.req action
  .ok (match action with
    | .plan _ => { s with req := next }
    | .launch => { s with req := next, steps := s.steps ++ sampledLaunch fastPath s.req next }
    | .retire _ => { s with
        req := next
        retired := if s.req.isSplitPrefillStep then s.retired else s.retired + 1 })

/-- Everything there is once `k` sampled steps have returned their token. -/
def producedTokens (prompt : List Int) (tokens : Nat → Int) (k : Nat) : List Int :=
  prompt ++ (List.range k).map tokens

/-- Steps in order and without draft slots, none launched behind a stop token. The `k`-th
sampled step returns `tokens k`. -/
def SamplesTokens (tokens : Nat → Int) (s : SampledRun) : RequestAction → Prop
  | .plan workload => StepPermitted s.req (.plan workload)
  | .launch => s.req.isEosGenerated = false ∧ s.req.planningTask.workload.draftTokenNum = 0
  | .retire result => StepPermitted s.req (.retire result) ∧
      (s.req.isSplitPrefillStep = false → result.generatedTokens = [tokens s.retired])

instance (tokens : Nat → Int) (s : SampledRun) :
    (action : RequestAction) → Decidable (SamplesTokens tokens s action)
  | .plan _ => by unfold SamplesTokens; infer_instance
  | .launch => by unfold SamplesTokens; infer_instance
  | .retire _ => by unfold SamplesTokens; infer_instance

theorem producedTokens_succ (prompt : List Int) (tokens : Nat → Int) (k : Nat) :
    producedTokens prompt tokens (k + 1) = producedTokens prompt tokens k ++ [tokens k] := by
  rw [producedTokens, producedTokens, List.range_succ, List.map_append, List.append_assoc]
  rfl

theorem producedTokens_length (prompt : List Int) (tokens : Nat → Int) (k : Nat) :
    (producedTokens prompt tokens k).length = prompt.length + k := by
  rw [producedTokens, List.length_append, List.length_map, List.length_range]

/-- How the `k`-th sampled step was launched. -/
structure SampledAs (start : InferRequest) (tokens : Nat → Int) (k : Nat) (step : SampledStep) :
    Prop where
  payload : step.launched.toRequestPayload = start.toRequestPayload
  sampling : step.launched.samplingTokenNum = kStepGenerateTokenNum
  real : step.launchedAhead = false →
    step.launched.forwardingTokens = producedTokens start.outputTokens tokens k
  ahead : step.launchedAhead = true → 0 < k ∧ step.launched.forwardingTokens =
    producedTokens start.outputTokens tokens (k - 1) ++ [kFastPathPlaceholderTokenId]

/-- The sampled steps in flight. -/
def sampledInFlight (req : InferRequest) : Nat :=
  (req.inflightTasks.filter fun task => ¬ IsMiddleChunk req task).length

/-- No sampled step in flight carries drafts. -/
def NoDraftsInFlight (req : InferRequest) : Prop :=
  ∀ task ∈ req.inflightTasks, ¬ IsMiddleChunk req task → task.workload.draftTokenNum = 0

/-- The phases without draft slots: what the request has put out is what its retired steps
returned, and every sampled step has retired or is in flight. -/
structure SampledInvariant [DraftTokensApi] (start : InferRequest) (tokens : Nat → Int)
    (s : SampledRun) : Prop where
  payload : s.req.toRequestPayload = start.toRequestPayload
  phase : Phase start.outputTokens s.req
  noDrafts : NoDraftsInFlight s.req
  produced : s.req.isEosGenerated = false →
    s.req.outputTokens = producedTokens start.outputTokens tokens s.retired
  counted : s.steps.length = s.retired + sampledInFlight s.req
  steps : ∀ k step, s.steps[k]? = some step → SampledAs start tokens k step

section Steps

variable [DraftTokensApi] {start req next : InferRequest} {prompt : List Int} {tokens : Nat → Int}
  {s t : SampledRun} {result : StepResult}

theorem launch_samplingTokenNum {fastPath usePlaceholder : Bool}
    (hdecode : req.planningTask.workload.prefillTokenNum = 0)
    (h : req.launchPlanningTask fastPath usePlaceholder = .ok next) :
    next.samplingTokenNum = kStepGenerateTokenNum + next.forwardingTokensDraftNum := by
  obtain ⟨-, -, -, hcase⟩ := InferRequest.launchPlanningTask_cases h
  cases hcase with
  | chunk kv cacheLen hprefill => exact absurd hdecode (Nat.ne_of_gt hprefill)
  | block kv cacheLen => rfl
  | real kv cacheLen => rfl

/-- The launch of a step that samples: with the tokens there are, and a placeholder behind them
if the sampled step before is still in flight. -/
structure LaunchesSampled (req next : InferRequest) : Prop where
  sampling : next.samplingTokenNum = kStepGenerateTokenNum
  pushed : ∃ task, next.inflightTasks = req.inflightTasks ++ [task] ∧ ¬ IsMiddleChunk next task ∧
    task.workload.draftTokenNum = 0
  inFlight : sampledInFlight req = if LaunchesBlock true req then 1 else 0
  forwarding : next.forwardingTokens = req.outputTokens ++
    if LaunchesBlock true req then [kFastPathPlaceholderTokenId] else []

omit [DraftTokensApi] in
theorem notMiddle_of_decode {step : ScheduleTask} (hdecode : step.workload.prefillTokenNum = 0) :
    ¬ IsMiddleChunk req step := fun hmiddle => absurd hdecode (Nat.ne_of_gt hmiddle.1)

omit [DraftTokensApi] in
theorem notMiddle_of_last {step : ScheduleTask} (hlast : req.prefillingTokens.length ≤
    step.workload.prefillTokenNum + step.workload.prefillStartOffset) : ¬ IsMiddleChunk req step :=
  fun hmiddle => absurd hmiddle.2 (Nat.not_lt_of_le hlast)

omit [DraftTokensApi] in
theorem sampledInFlight_single {step : ScheduleTask} (hinflight : req.inflightTasks = [step])
    (hsampled : ¬ IsMiddleChunk req step) : sampledInFlight req = 1 := by
  simp [sampledInFlight, hinflight, hsampled]

theorem LaunchedPhase.sampled (hlaunched : LaunchedPhase prompt req next)
    (hnone : NoDraftsInFlight req) (hplanned : req.planningTask.workload.draftTokenNum = 0)
    (h : launch true 2 req = .ok next) :
    (next.samplingTokenNum = 0 ∧ ∃ task, next.inflightTasks = req.inflightTasks ++ [task] ∧
      IsMiddleChunk next task) ∨ LaunchesSampled req next := by
  obtain ⟨-, -, hlaunch⟩ := launch_ok h
  cases hlaunched with
  | middleChunk launched further hreq hnext hsampling =>
    obtain ⟨-, -, task, hpushed⟩ := InferRequest.launchPlanningTask_keeps hlaunch
    refine Or.inl ⟨hsampling, task, hpushed, ?_⟩
    rw [IsMiddleChunk, hnext.prefilling]
    exact hnext.chunks task (by simp [hpushed])
  | lastChunk launched hreq hnext hprefill hsampling =>
    obtain ⟨task, hpushed, hdraft, hlast⟩ := hnext.inflight
    have hreal : ¬ LaunchesBlock true req := fun hblock => absurd hblock.1 (Nat.ne_of_gt hprefill)
    refine Or.inr ⟨hsampling, ⟨task, hpushed, notMiddle_of_last ?_, hdraft⟩, ?_, ?_⟩
    · rw [hnext.prefilling]
      exact hlast
    · rw [if_neg hreal, sampledInFlight, List.length_eq_zero_iff, List.filter_eq_nil_iff]
      intro chunk hmem
      have hmiddle : IsMiddleChunk req chunk := by
        rw [IsMiddleChunk, hreq.prefilling]
        exact hreq.chunks chunk hmem
      simp [hmiddle]
    · rw [if_neg hreal, List.append_nil, hnext.forwarding, hreq.output]
  | firstReserved hreq hnext =>
    obtain ⟨chunk, hinflight, -, hlast⟩ := hreq.inflight
    obtain ⟨before, step, hpushed, -, hdecode, hdraft⟩ := hnext.inflight
    obtain ⟨-, -, task, htask⟩ := InferRequest.launchPlanningTask_keeps hlaunch
    have hsame : req.inflightTasks ++ [task] = [before] ++ [step] := htask.symm.trans hpushed
    obtain rfl := List.singleton_inj.mp (List.append_inj_right' hsame rfl)
    have hblock : LaunchesBlock true req :=
      ⟨hreq.taskPrefill, hasInflightTask_of_cons hinflight, rfl, hreq.generated⟩
    refine Or.inr ⟨?_, ⟨task, htask, notMiddle_of_decode hdecode, hdraft.trans hplanned⟩, ?_, ?_⟩
    · rw [launch_samplingTokenNum hreq.taskPrefill hlaunch, hnext.draftNum, hplanned, Nat.add_zero]
    · rw [if_pos hblock]
      exact sampledInFlight_single hinflight (notMiddle_of_last (by rw [hreq.prefilling]; exact hlast))
    · rw [if_pos hblock, hnext.forwarding, hplanned, hreq.output]
      rfl
  | nextReserved settled main drafts hreq hnext =>
    obtain ⟨step, hinflight, hdecode, hdraft⟩ := hreq.inflight
    obtain ⟨before, following, hpushed, -, -, hnextDecode, hnextDraft⟩ := hnext.inflight
    obtain ⟨-, -, task, htask⟩ := InferRequest.launchPlanningTask_keeps hlaunch
    have hsame : req.inflightTasks ++ [task] = [before] ++ [following] := htask.symm.trans hpushed
    obtain rfl := List.singleton_inj.mp (List.append_inj_right' hsame rfl)
    have hblock : LaunchesBlock true req :=
      ⟨hreq.taskPrefill, hasInflightTask_of_cons hinflight, rfl, hreq.generated⟩
    have hdrafts : drafts = [] := by
      have hzero := hnone step (by rw [hinflight]; exact List.mem_singleton_self step)
        (notMiddle_of_decode hdecode)
      exact List.eq_nil_of_length_eq_zero (hdraft.symm.trans hzero)
    refine Or.inr ⟨?_, ⟨task, htask, notMiddle_of_decode hnextDecode, hnextDraft.trans hplanned⟩,
      ?_, ?_⟩
    · rw [launch_samplingTokenNum hreq.taskPrefill hlaunch, hnext.draftNum, hplanned, Nat.add_zero]
    · rw [if_pos hblock]
      exact sampledInFlight_single hinflight (notMiddle_of_decode hdecode)
    · rw [if_pos hblock, hnext.forwarding, hplanned, hreq.output, hdrafts]
      simp
  | realStep settled token drafts hreq hnext =>
    obtain ⟨step, hpushed, hdecode, hdraft⟩ := hnext.inflight
    have hreal : ¬ LaunchesBlock true req := by
      intro hblock
      have hbusy := hblock.2.1
      simp [InferRequest.hasInflightTask, InferRequest.getInflightCount, hreq.inflight] at hbusy
    rw [hplanned, List.take_zero] at hdraft
    refine Or.inr ⟨?_, ⟨step, ?_, notMiddle_of_decode hdecode, hdraft⟩, ?_, ?_⟩
    · rw [launch_samplingTokenNum hreq.taskPrefill hlaunch, hnext.draftNum, hplanned, List.take_zero]
      rfl
    · rw [hpushed, hreq.inflight]
      rfl
    · rw [if_neg hreal, sampledInFlight, hreq.inflight]
      rfl
    · rw [if_neg hreal, hnext.forwarding, hplanned, hreq.output]
      simp

/-- Without drafts a retirement puts out the token of the step, or nothing for a middle chunk. -/
theorem RetiredPhase.produced (hretired : RetiredPhase prompt req result next)
    (hnone : NoDraftsInFlight req) :
    next.outputTokens = req.outputTokens ++
      if req.isSplitPrefillStep then [] else result.generatedTokens := by
  cases hretired with
  | middleChunk launched hreq hnext hsplit =>
    rw [if_pos hsplit, List.append_nil, hnext.output, hreq.output]
  | laterChunk chunk chunks hreq hnext hsplit =>
    rw [if_pos hsplit, List.append_nil, hnext.output, hreq.output]
  | lastChunk token hreq htoken hnext =>
    obtain ⟨chunk, hinflight, -, hlast⟩ := hreq.inflight
    rw [split_of_last hinflight (by rw [hreq.prefilling]; exact hlast), hnext.output, hreq.output,
      htoken]
    rfl
  | firstReserved draftNum token hreq htoken hnext =>
    obtain ⟨chunk, step, hinflight, hlast, -⟩ := hreq.inflight
    rw [split_of_last hinflight hlast, hnext.output, hreq.output, htoken]
    rfl
  | nextReserved settled main drafts nextDraftNum token hreq htoken haccepted hnext =>
    obtain ⟨step, following, hinflight, hdecode, hdraft, -⟩ := hreq.inflight
    have hzero := hnone step (by rw [hinflight]; exact List.mem_cons_self)
      (notMiddle_of_decode hdecode)
    have hrejected : result.acceptedTokens = [] := List.eq_nil_of_length_eq_zero (by omega)
    rw [split_of_decode hinflight hdecode, hnext.output, hreq.output, htoken, hrejected]
    rfl
  | realStep settled main drafts token hreq htoken haccepted hnext =>
    obtain ⟨step, hinflight, hdecode, hdraft⟩ := hreq.inflight
    have hzero := hnone step (by rw [hinflight]; exact List.mem_cons_self)
      (notMiddle_of_decode hdecode)
    have hle := haccepted.length_le
    have hrejected : result.acceptedTokens = [] := List.eq_nil_of_length_eq_zero (by omega)
    rw [split_of_decode hinflight hdecode, hnext.output, hreq.output, htoken, hrejected]
    rfl

omit [DraftTokensApi] in
theorem isMiddleChunk_congr (hprefilling : next.prefillingTokens = req.prefillingTokens)
    (task : ScheduleTask) : IsMiddleChunk next task ↔ IsMiddleChunk req task := by
  rw [IsMiddleChunk, IsMiddleChunk, hprefilling]

omit [DraftTokensApi] in
theorem sampledInFlight_push {task : ScheduleTask}
    (hprefilling : next.prefillingTokens = req.prefillingTokens)
    (hpushed : next.inflightTasks = req.inflightTasks ++ [task]) :
    sampledInFlight next = sampledInFlight req + if IsMiddleChunk next task then 0 else 1 := by
  simp only [sampledInFlight, hpushed, isMiddleChunk_congr hprefilling, List.filter_append,
    List.length_append]
  by_cases hmiddle : IsMiddleChunk req task <;> simp [hmiddle]

omit [DraftTokensApi] in
theorem sampledInFlight_pop {task : ScheduleTask} {queue : List ScheduleTask}
    (hprefilling : next.prefillingTokens = req.prefillingTokens)
    (hinflight : req.inflightTasks = task :: queue) (hpopped : next.inflightTasks = queue) :
    sampledInFlight req = sampledInFlight next + if req.isSplitPrefillStep then 0 else 1 := by
  simp only [sampledInFlight, hpopped, hinflight, isMiddleChunk_congr hprefilling,
    isSplitPrefillStep_iff hinflight, List.filter_cons]
  by_cases hmiddle : IsMiddleChunk req task <;> simp [hmiddle]

theorem SampledInvariant.admitted {cached : Nat} (hcached : cached < start.outputTokens.length) :
    SampledInvariant start tokens { req := Engine.admitted start cached } where
  payload := rfl
  phase := .prefilling cached (admitted_prefilling start hcached)
  noDrafts := fun _ h => absurd h List.not_mem_nil
  produced := fun _ => (List.append_nil _).symm
  counted := rfl
  steps := fun k step h => by simp at h

theorem SampledInvariant.plan {workload : ScheduleTaskWorkload} (hs : SampledInvariant start tokens s)
    (hpermitted : StepPermitted s.req (.plan workload))
    (h : (s.req.setPlanningWorkload workload).setPlanningTask = .ok next) :
    SampledInvariant start tokens { s with req := next } := by
  have hphase := hs.phase.plan hpermitted h
  obtain ⟨-, -, rfl⟩ := plan_ok h
  exact ⟨hs.payload, hphase, hs.noDrafts, hs.produced, hs.counted, hs.steps⟩

omit [DraftTokensApi] in
theorem LaunchesSampled.record (hlaunched : LaunchesSampled req next)
    (hpayload : next.toRequestPayload = start.toRequestPayload) {retired : Nat}
    (hproduced : req.outputTokens = producedTokens start.outputTokens tokens retired) :
    SampledAs start tokens (retired + sampledInFlight req)
      { launched := next, launchedAhead := decide (LaunchesBlock true req) } where
  payload := hpayload
  sampling := hlaunched.sampling
  real := by
    intro hreal
    have hnone := of_decide_eq_false hreal
    show next.forwardingTokens = _
    rw [hlaunched.forwarding, hlaunched.inFlight, if_neg hnone, if_neg hnone, List.append_nil,
      Nat.add_zero, hproduced]
  ahead := by
    intro hahead
    have hblock := of_decide_eq_true hahead
    show _ ∧ next.forwardingTokens = _
    rw [hlaunched.forwarding, hlaunched.inFlight, if_pos hblock, if_pos hblock,
      Nat.add_sub_cancel, hproduced]
    exact ⟨Nat.succ_pos _, rfl⟩

theorem SampledInvariant.launch (hs : SampledInvariant start tokens s)
    (hrunning : s.req.isEosGenerated = false)
    (hplanned : s.req.planningTask.workload.draftTokenNum = 0) (hhands : HandsTokenOn s.req .launch)
    (h : Engine.launch true 2 s.req = .ok next) :
    SampledInvariant start tokens
      { s with req := next, steps := s.steps ++ sampledLaunch true s.req next } := by
  have hlaunched := hs.phase.launched hhands hrunning h
  have hkept := (InferRequest.launchPlanningTask_keeps (launch_ok h).2.2).1
  have hpayload : next.toRequestPayload = start.toRequestPayload := hkept.payload.trans hs.payload
  have hproduced : next.isEosGenerated = false →
      next.outputTokens = producedTokens start.outputTokens tokens s.retired := fun _ =>
    hkept.output.trans (hs.produced hrunning)
  have hnone : ∀ task, next.inflightTasks = s.req.inflightTasks ++ [task] →
      (¬ IsMiddleChunk next task → task.workload.draftTokenNum = 0) → NoDraftsInFlight next := by
    intro task hpushed hdraft step hmem hsampled
    rw [hpushed] at hmem
    rcases List.mem_append.mp hmem with hold | hnew
    · exact hs.noDrafts step hold fun hmiddle =>
        hsampled ((isMiddleChunk_congr hkept.prefilling step).mpr hmiddle)
    · obtain rfl := List.mem_singleton.mp hnew
      exact hdraft hsampled
  rcases hlaunched.sampled hs.noDrafts hplanned h with ⟨hsampling, task, hpushed, hmiddle⟩ | hsampled
  · rw [sampledLaunch, if_neg (by omega), List.append_nil]
    refine ⟨hpayload, hlaunched.phase, hnone task hpushed fun hsampled => absurd hmiddle hsampled,
      hproduced, ?_, hs.steps⟩
    rw [sampledInFlight_push hkept.prefilling hpushed, if_pos hmiddle]
    exact hs.counted
  · obtain ⟨task, hpushed, hdecode, hdraft⟩ := hsampled.pushed
    have hpositive : 0 < next.samplingTokenNum := by
      rw [hsampled.sampling]
      decide
    rw [sampledLaunch, if_pos hpositive]
    refine ⟨hpayload, hlaunched.phase, hnone task hpushed fun _ => hdraft, hproduced, ?_, ?_⟩
    · rw [sampledInFlight_push hkept.prefilling hpushed, if_neg hdecode, List.length_append,
        List.length_singleton, hs.counted]
      rfl
    · intro k step hk
      rcases getElem?_concat_eq_some hk with hold | ⟨rfl, rfl⟩
      · exact hs.steps k step hold
      · rw [hs.counted]
        exact hsampled.record hpayload (hs.produced hrunning)

theorem retire_keeps (h : Engine.retire req result = .ok next) :
    next.toRequestPayload = req.toRequestPayload ∧ next.prefillingTokens = req.prefillingTokens ∧
      (∃ task, req.inflightTasks = task :: next.inflightTasks) ∧
      (req.pendingPlaceholderPositions = [] → next.pendingPlaceholderPositions = []) := by
  cases hinflight : req.inflightTasks with
  | nil => exact absurd h (retire_idle result hinflight)
  | cons task queue =>
    obtain ⟨updated, hupdate, h⟩ := bind_ok h
    obtain rfl := Except.ok.inj h
    have hsame := updateAfterInflightTaskFinished_sameOrder hupdate
    refine ⟨(updateAfterInflightTaskFinished_stage hupdate).1, hsame.prefilling, ⟨task, ?_⟩,
      hsame.blocks⟩
    rw [InferRequest.resetInflightTask, hsame.inflight]
    simp [deliver, hinflight]

theorem SampledInvariant.retire (hs : SampledInvariant start tokens s)
    (hpermitted : StepPermitted s.req (.retire result))
    (hresult : s.req.isSplitPrefillStep = false → result.generatedTokens = [tokens s.retired])
    (hhands : HandsTokenOn s.req (.retire result)) (h : Engine.retire s.req result = .ok next) :
    SampledInvariant start tokens { s with
      req := next
      retired := if s.req.isSplitPrefillStep then s.retired else s.retired + 1 } := by
  obtain ⟨hpayload, hprefilling, ⟨task, hinflight⟩, -⟩ := retire_keeps h
  refine ⟨hpayload.trans hs.payload, hs.phase.retire hpermitted hhands h, ?_, ?_, ?_, hs.steps⟩
  · intro step hmem hsampled
    exact hs.noDrafts step (by rw [hinflight]; exact List.mem_cons_of_mem _ hmem) fun hmiddle =>
      hsampled ((isMiddleChunk_congr hprefilling step).mpr hmiddle)
  · intro hrunning
    have hbefore : s.req.isEosGenerated = false := by
      refine eq_false_of_ne_true fun heos => ?_
      rw [retire_finished heos h] at hrunning
      cases hrunning
    have hproduced := (hs.phase.retired hpermitted hhands hrunning h).produced hs.noDrafts
    show next.outputTokens = _
    rw [hproduced, hs.produced hbefore]
    cases hsplit : s.req.isSplitPrefillStep with
    | true => exact List.append_nil _
    | false =>
      rw [if_neg Bool.false_ne_true, if_neg Bool.false_ne_true, hresult hsplit,
        producedTokens_succ]
  · have hcounted := hs.counted
    rw [sampledInFlight_pop hprefilling hinflight rfl] at hcounted
    show s.steps.length = (if s.req.isSplitPrefillStep then s.retired else s.retired + 1) +
      sampledInFlight next
    split at hcounted
    · rename_i hsplit
      rw [if_pos hsplit, hcounted]
      rfl
    · rename_i hsplit
      rw [if_neg hsplit, hcounted]
      omega

theorem SampledInvariant.step {action : RequestAction} (hs : SampledInvariant start tokens s)
    (hpermitted : SamplesTokens tokens s action) (hhands : HandsTokenOn s.req action)
    (h : sampledStep true s action = .ok t) : SampledInvariant start tokens t := by
  obtain ⟨next, hstep, h⟩ := bind_ok h
  obtain rfl := Except.ok.inj h
  cases action with
  | plan workload => exact hs.plan hpermitted hstep
  | launch => exact hs.launch hpermitted.1 hpermitted.2 hhands hstep
  | retire result => exact hs.retire hpermitted.1 hpermitted.2 hhands hstep

theorem sampledRun_invariant {cached : Nat} {actions : List RequestAction}
    (hcached : cached < start.outputTokens.length)
    (hsteps : EachStep (sampledStep true)
      (fun s action => SamplesTokens tokens s action ∧ HandsTokenOn s.req action)
      { req := Engine.admitted start cached } actions)
    (hrun : exec (sampledStep true) { req := Engine.admitted start cached } actions = .ok s) :
    SampledInvariant start tokens s :=
  exec_invariant_of (fun _ _ _ hs hstep h => hs.step hstep.1 hstep.2 h) (.admitted hcached) hsteps
    hrun

theorem launch_slow (h : Engine.launch false 1 req = .ok next) :
    Engine.launch true 2 req = .ok next ∧ req.inflightTasks = [] := by
  obtain ⟨⟨hstopped, hplanned, hcapacity⟩, hlaunch⟩ := check_bind_ok h
  have hidle : req.inflightTasks = [] := by
    refine List.eq_nil_of_length_eq_zero (Nat.lt_one_iff.mp ?_)
    simpa [InferRequest.hasInflightCapacity, InferRequest.getInflightCount] using hcapacity
  have hnone : req.hasInflightTask = false := by
    simp [InferRequest.hasInflightTask, InferRequest.getInflightCount, hidle]
  have hroom : req.hasInflightCapacity 2 = true := by
    simp [InferRequest.hasInflightCapacity, InferRequest.getInflightCount, hidle]
  refine ⟨?_, hidle⟩
  rw [Engine.launch, check_bind_of_true _ _ ⟨hstopped, hplanned, hroom⟩, hnone]
  rw [hnone] at hlaunch
  exact hlaunch

/-- A step of the slow path is one of the fast path that launches with nothing in flight. -/
theorem sampledStep_slow {action : RequestAction} (h : sampledStep false s action = .ok t) :
    sampledStep true s action = .ok t ∧ (action = .launch → s.req.inflightTasks = []) := by
  cases action with
  | plan workload => exact ⟨h, nofun⟩
  | retire result => exact ⟨h, nofun⟩
  | launch =>
    obtain ⟨next, hstep, h⟩ := bind_ok h
    obtain ⟨hfast, hidle⟩ := launch_slow hstep
    have hreal : ∀ fastPath, ¬ LaunchesBlock fastPath s.req := by
      intro fastPath hblock
      have hbusy := hblock.2.1
      simp [InferRequest.hasInflightTask, InferRequest.getInflightCount, hidle] at hbusy
    have hsame : sampledLaunch true s.req next = sampledLaunch false s.req next := by
      rw [sampledLaunch, sampledLaunch, decide_eq_false (hreal true), decide_eq_false (hreal false)]
    refine ⟨?_, fun _ => hidle⟩
    rw [sampledStep]
    show (Engine.launch true 2 s.req >>= _) = _
    rw [hfast, ← h]
    show Except.ok _ = Except.ok _
    rw [hsame]

/-- No block is ever pending on the slow path. -/
structure SlowSampledInvariant (start : InferRequest) (tokens : Nat → Int) (s : SampledRun) : Prop
    extends SampledInvariant start tokens s where
  noBlocks : s.req.pendingPlaceholderPositions = []
  real : ∀ step ∈ s.steps, step.launchedAhead = false

omit [DraftTokensApi] in
theorem handsTokenOn_slow {action : RequestAction} (hnone : req.pendingPlaceholderPositions = [])
    (hidle : action = .launch → req.inflightTasks = []) : HandsTokenOn req action := by
  cases action with
  | plan workload => exact ⟨id, id⟩
  | launch => exact ⟨fun hrepeats => hrepeats.1 (hidle rfl), id⟩
  | retire result =>
    refine ⟨id, fun hdrains => ?_⟩
    have hone := hdrains.2.2.1
    rw [hnone] at hone
    cases hone

theorem LaunchedPhase.noBlocks (hlaunched : LaunchedPhase prompt req next)
    (hidle : req.inflightTasks = []) : next.pendingPlaceholderPositions = [] := by
  cases hlaunched with
  | middleChunk launched further hreq hnext => exact hnext.positions
  | lastChunk launched hreq hnext => exact hnext.positions
  | firstReserved hreq hnext =>
    obtain ⟨chunk, hinflight, -⟩ := hreq.inflight
    rw [hidle] at hinflight
    cases hinflight
  | nextReserved settled main drafts hreq hnext =>
    obtain ⟨step, hinflight, -⟩ := hreq.inflight
    rw [hidle] at hinflight
    cases hinflight
  | realStep settled token drafts hreq hnext => exact hnext.positions

theorem SlowSampledInvariant.step {action : RequestAction} (hs : SlowSampledInvariant start tokens s)
    (hpermitted : SamplesTokens tokens s action) (h : sampledStep false s action = .ok t) :
    SlowSampledInvariant start tokens t := by
  obtain ⟨hfast, hidle⟩ := sampledStep_slow h
  have hhands := handsTokenOn_slow hs.noBlocks hidle
  refine ⟨hs.toSampledInvariant.step hpermitted hhands hfast, ?_, ?_⟩
  · obtain ⟨next, hstep, h⟩ := bind_ok h
    obtain rfl := Except.ok.inj h
    cases action with
    | plan workload =>
      obtain ⟨-, -, rfl⟩ := plan_ok hstep
      exact hs.noBlocks
    | launch =>
      exact (hs.phase.launched hhands hpermitted.1 (launch_slow hstep).1).noBlocks (hidle rfl)
    | retire result => exact (retire_keeps hstep).2.2.2 hs.noBlocks
  · obtain ⟨next, -, h⟩ := bind_ok h
    obtain rfl := Except.ok.inj h
    cases action with
    | plan workload => exact hs.real
    | retire result => exact hs.real
    | launch =>
      intro step hmem
      rcases List.mem_append.mp hmem with hold | hnew
      · exact hs.real step hold
      · rw [sampledLaunch] at hnew
        split at hnew
        · obtain rfl := List.mem_singleton.mp hnew
          exact decide_eq_false fun hblock => absurd hblock.2.2.1 Bool.false_ne_true
        · cases hnew

theorem slowRun_invariant {cached : Nat} {actions : List RequestAction}
    (hcached : cached < start.outputTokens.length)
    (hsteps : EachStep (sampledStep false) (SamplesTokens tokens)
      { req := Engine.admitted start cached } actions)
    (hrun : exec (sampledStep false) { req := Engine.admitted start cached } actions = .ok s) :
    SlowSampledInvariant start tokens s :=
  exec_invariant_of (fun _ _ _ hs hstep h => hs.step hstep h)
    ⟨.admitted hcached, rfl, fun _ h => absurd h List.not_mem_nil⟩ hsteps hrun

end Steps

end KsanaBuildAhead.Engine
