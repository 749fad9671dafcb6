import KsanaBuildAhead.Engine.PipelineDrain
import KsanaBuildAhead.Runtime.InferRequestInversion
import KsanaBuildAhead.Runtime.ScheduleOutput

/-!
# Any interleaving of one request

The operations on one request in any order: a restart of the prefill, plans,
launches, results that arrive at any time before their retirement, retirements.
The history says what was retired; the launches leave where their drafts start.
-/
namespace KsanaBuildAhead.Engine

open KsanaBuildAhead.Runtime KsanaBuildAhead.Lib.ListEdit KsanaBuildAhead.Lib.Execution

inductive PipelineEvent where
  | restarted
  | sampled (result : StepResult)
deriving Repr, DecidableEq

/-- A request, the result of its oldest step once that has arrived, where the drafts of each
step in flight start in the sequence, and what has happened so far. -/
structure PipelineState where
  req : InferRequest
  delivered : Option StepResult := none
  draftStarts : List Nat := []
  history : List PipelineEvent := []
deriving Repr, DecidableEq

inductive PipelineOp where
  | restart (cached : Nat)
  | generateDrafts (drafts : DraftTokens)
  | plan (workload : ScheduleTaskWorkload)
  | launch
  | deliver (result : StepResult)
  | finish
deriving Repr, DecidableEq

/-- The oldest step retires; the steps behind it move up by the drafts it had rejected. -/
def finishOldest [DraftTokensApi] (s : PipelineState) (result : StepResult) :
    Except String PipelineState := do
  let updated ← s.req.updateAfterInflightTaskFinished
  let rejected := if s.req.isSplitPrefillStep then 0
    else oldestDraftNum s.req - result.acceptedTokens.length
  .ok {
    req := updated.resetInflightTask
    delivered := none
    draftStarts := s.draftStarts.tail.map fun start => start - rejected
    history := if s.req.isSplitPrefillStep then s.history else s.history ++ [.sampled result] }

/-- One operation. Drafts may be replaced at any time; a result belongs to the oldest step. -/
def pipelineStep [DraftTokensApi] (fastPath : Bool) (maxDepth : Nat) (s : PipelineState) :
    PipelineOp → Except String PipelineState
  | .restart cached => do
    check (cached ≤ s.req.outputTokens.length) "more cached than there is"
    .ok { req := admitted s.req cached, history := s.history ++ [.restarted] }
  | .generateDrafts drafts => .ok { s with req := { s.req with draftTokens := drafts } }
  | .plan workload => do
    let req ← (s.req.setPlanningWorkload workload).setPlanningTask
    .ok { s with req := req }
  | .launch => do
    let req ← launch fastPath maxDepth s.req
    .ok { s with
      req := req
      draftStarts := s.draftStarts ++ [req.forwardingTokens.length - req.forwardingTokensDraftNum] }
  | .deliver result => do
    check (s.delivered = none ∧ s.req.inflightTasks ≠ []) "no step to deliver to"
    .ok { s with req := deliver s.req result, delivered := some result }
  | .finish =>
    match s.delivered with
    | none => .error "no result"
    | some result => finishOldest s result

/-- Chunks are planned in order while some of the prompt is left, then decode steps of any
size. -/
def PlanFollows (req : InferRequest) (workload : ScheduleTaskWorkload) : Prop :=
  if 0 < req.remainingWorkload.prefillTokenNum then
    workload.prefillStartOffset = req.remainingWorkload.prefillStartOffset ∧
      0 < workload.prefillTokenNum
  else workload.prefillTokenNum = 0

/-- A sampled step returns one vocabulary token and accepts no more drafts than it carried. -/
def SampledResult (step : ScheduleTask) (result : StepResult) : Prop :=
  result.generatedTokens.length = 1 ∧ (∀ token ∈ result.generatedTokens, 0 ≤ token) ∧
    result.acceptedTokens.length ≤ step.workload.draftTokenNum

/-- The plans follow the prompt, and what a sampled step returns `Fits` the step. -/
def OpPermitted (Fits : ScheduleTask → StepResult → Prop) (s : PipelineState) : PipelineOp → Prop
  | .plan workload => PlanFollows s.req workload
  | .deliver result => s.req.isSplitPrefillStep = false →
    ∀ oldest ∈ s.req.inflightTasks.head?, Fits oldest result
  | _ => True

instance (req : InferRequest) (workload : ScheduleTaskWorkload) :
    Decidable (PlanFollows req workload) := by
  unfold PlanFollows
  infer_instance

instance (step : ScheduleTask) (result : StepResult) : Decidable (SampledResult step result) := by
  unfold SampledResult
  infer_instance

instance (Fits : ScheduleTask → StepResult → Prop) [∀ step result, Decidable (Fits step result)]
    (s : PipelineState) : (op : PipelineOp) → Decidable (OpPermitted Fits s op)
  | .plan _ => by unfold OpPermitted; infer_instance
  | .deliver _ => by unfold OpPermitted; infer_instance
  | .restart _ | .generateDrafts _ | .launch | .finish => .isTrue trivial

/-- The task is a prefill chunk with more of the prompt behind it. -/
def IsMiddleChunk (req : InferRequest) (task : ScheduleTask) : Prop :=
  0 < task.workload.prefillTokenNum ∧
    task.workload.prefillTokenNum + task.workload.prefillStartOffset < req.prefillingTokens.length

theorem isSplitPrefillStep_iff {req : InferRequest} {oldest : ScheduleTask}
    {queue : List ScheduleTask} (hinflight : req.inflightTasks = oldest :: queue) :
    req.isSplitPrefillStep = true ↔ IsMiddleChunk req oldest := by
  simp [InferRequest.isSplitPrefillStep, hinflight, IsMiddleChunk]

theorem exists_inflight_of_room {req : InferRequest} (hsome : req.inflightTasks ≠ [])
    (hroom : req.inflightTasks.length < kMaxInflightDepth) :
    ∃ inflight, req.inflightTasks = [inflight] := by
  have hpositive := List.length_pos_of_ne_nil hsome
  rw [kMaxInflightDepth] at hroom
  exact List.length_eq_one_iff.mp (by omega)

/-- No decode step is planned or launched before the last chunk of the prompt. -/
structure PlanOrder (req : InferRequest) : Prop where
  total : req.remainingWorkload.prefillTokenNum + req.remainingWorkload.prefillStartOffset =
    req.prefillingTokens.length
  chunk : 0 < req.planningTask.workload.prefillTokenNum →
    req.planningTask.workload.prefillTokenNum + req.planningTask.workload.prefillStartOffset =
      req.remainingWorkload.prefillStartOffset
  decode : req.planningTask.isEmpty = false → req.planningTask.workload.prefillTokenNum = 0 →
    req.remainingWorkload.prefillTokenNum = 0
  newest : req.remainingWorkload.prefillTokenNum = 0 →
    req.planningTask.workload.prefillTokenNum = 0 →
    ∀ task ∈ req.inflightTasks.getLast?, ¬ IsMiddleChunk req task
  noBlock : 0 < req.remainingWorkload.prefillTokenNum ∨
    0 < req.planningTask.workload.prefillTokenNum → req.pendingPlaceholderPositions = []
  sampled : req.pendingPlaceholderPositions ≠ [] →
    ∀ task ∈ req.inflightTasks, ¬ IsMiddleChunk req task

/-- The fields the order of the chunks depends on. -/
structure SameOrder (req after : InferRequest) : Prop where
  task : after.planningTask = req.planningTask
  left : after.remainingWorkload.prefillTokenNum = req.remainingWorkload.prefillTokenNum
  offset : after.remainingWorkload.prefillStartOffset = req.remainingWorkload.prefillStartOffset
  prefilling : after.prefillingTokens = req.prefillingTokens
  inflight : after.inflightTasks = req.inflightTasks
  blocks : req.pendingPlaceholderPositions = [] → after.pendingPlaceholderPositions = []
  draftNums : req.pendingPlaceholderPositions = [] →
    after.pendingPlaceholderDraftNums = req.pendingPlaceholderDraftNums

theorem PlanOrder.congr {req after : InferRequest} (hreq : PlanOrder req)
    (hsame : SameOrder req after) : PlanOrder after where
  total := by
    rw [hsame.left, hsame.offset, hsame.prefilling]
    exact hreq.total
  chunk := by
    rw [hsame.task, hsame.offset]
    exact hreq.chunk
  decode := by
    rw [hsame.task, hsame.left]
    exact hreq.decode
  newest := by
    intro hleft htask task hnewest
    rw [hsame.left] at hleft
    rw [hsame.task] at htask
    rw [hsame.inflight] at hnewest
    rw [IsMiddleChunk, hsame.prefilling]
    exact hreq.newest hleft htask task hnewest
  noBlock := by
    rw [hsame.left, hsame.task]
    exact fun hprefill => hsame.blocks (hreq.noBlock hprefill)
  sampled := by
    intro hpending task hmem
    rw [hsame.inflight] at hmem
    rw [IsMiddleChunk, hsame.prefilling]
    exact hreq.sampled (fun hnone => hpending (hsame.blocks hnone)) task hmem

section Order

variable [DraftTokensApi] {req after : InferRequest}

theorem PlanOrder.admitted {cached : Nat} (hcached : cached ≤ req.outputTokens.length) :
    PlanOrder (admitted req cached) where
  total := Nat.sub_add_cancel hcached
  chunk := fun hpositive => absurd hpositive (Nat.lt_irrefl 0)
  decode := fun (hplanned : true = false) => nomatch hplanned
  newest := fun _ _ task hnewest => absurd hnewest (by simp [Engine.admitted,
    InferRequest.resetPrefillingTokens, InferRequest.setRemainingWorkload])
  noBlock := fun _ => rfl
  sampled := fun hpending => absurd rfl hpending

omit [DraftTokensApi] in
theorem PlanOrder.plan {workload : ScheduleTaskWorkload} (hreq : PlanOrder req)
    (hfollows : PlanFollows req workload)
    (h : (req.setPlanningWorkload workload).setPlanningTask = .ok after) : PlanOrder after := by
  obtain ⟨hempty, hfit, rfl⟩ := plan_ok h
  have hnoTask := ScheduleTask.prefillTokenNum_of_isEmpty hempty
  have htotal := hreq.total
  by_cases hleft : 0 < req.remainingWorkload.prefillTokenNum
  · rw [PlanFollows, if_pos hleft] at hfollows
    obtain ⟨hstart, hpositive⟩ := hfollows
    exact {
      total := by simp only; omega
      chunk := fun _ => by simp only; omega
      decode := fun _ hnone => by simp only at hnone; omega
      newest := fun _ hnone => by simp only at hnone; omega
      noBlock := fun _ => hreq.noBlock (Or.inl hleft)
      sampled := fun hpending => absurd (hreq.noBlock (Or.inl hleft)) hpending }
  · rw [PlanFollows, if_neg hleft] at hfollows
    exact {
      total := by simp only; omega
      chunk := fun hpositive => by simp only at hpositive; omega
      decode := fun _ _ => by simp only; omega
      newest := fun _ _ => hreq.newest (by omega) hnoTask
      noBlock := fun hprefill => by simp only at hprefill; omega
      sampled := hreq.sampled }

theorem PlanOrder.launch {fastPath usePlaceholder : Bool} (hreq : PlanOrder req)
    (h : req.launchPlanningTask fastPath usePlaceholder = .ok after) : PlanOrder after := by
  obtain ⟨hplanned, hroom, huse, hcase⟩ := InferRequest.launchPlanningTask_cases h
  have htotal := hreq.total
  cases hcase with
  | chunk kv cacheLen hprefill hcached =>
    have hnone := hreq.noBlock (Or.inr hprefill)
    have hchunk := hreq.chunk hprefill
    refine { hreq with chunk := ?_, decode := ?_, newest := ?_, noBlock := ?_, sampled := ?_ }
    · exact fun hpositive => absurd hpositive (Nat.lt_irrefl 0)
    · exact fun (hplanned : true = false) => nomatch hplanned
    · intro hleft _ task hnewest
      simp only [InferRequest.launchedChunk, List.getLast?_append, List.getLast?_singleton,
        Option.some_or, Option.mem_def, Option.some.injEq] at hnewest hleft
      subst hnewest
      rintro ⟨-, hmiddle⟩
      simp only [InferRequest.launchedChunk] at hmiddle
      omega
    · exact fun _ => hnone
    · exact fun hpending => absurd hnone hpending
  | block kv cacheLen hdecode hplaceholder hcached =>
    have hleft := hreq.decode hplanned hdecode
    have hold := hreq.newest hleft hdecode
    obtain ⟨inflight, hinflight⟩ := exists_inflight_of_room (huse hplaceholder.1) hroom
    rw [hinflight] at hold
    have hdone : ¬ IsMiddleChunk req inflight := hold inflight rfl
    refine { hreq with chunk := ?_, decode := ?_, newest := ?_, noBlock := ?_, sampled := ?_ }
    · exact fun hpositive => absurd hpositive (Nat.lt_irrefl 0)
    · exact fun (hplanned : true = false) => nomatch hplanned
    · intro _ _ task hnewest
      simp only [InferRequest.launchedBlock, List.getLast?_append, List.getLast?_singleton,
        Option.some_or, Option.mem_def, Option.some.injEq] at hnewest
      subst hnewest
      rintro ⟨hpositive, -⟩
      simp only at hpositive
      omega
    · rintro (hprefill | hprefill)
      · simp only [InferRequest.launchedBlock] at hprefill
        omega
      · exact absurd hprefill (Nat.lt_irrefl 0)
    · intro _ task hmem
      simp only [InferRequest.launchedBlock, hinflight, List.cons_append, List.nil_append,
        List.mem_cons, List.not_mem_nil, or_false] at hmem
      rcases hmem with rfl | rfl
      · exact hdone
      · rintro ⟨hpositive, -⟩
        simp only at hpositive
        omega
  | real kv cacheLen hdecode hreal hfits hcached =>
    have hleft := hreq.decode hplanned hdecode
    refine { hreq with chunk := ?_, decode := ?_, newest := ?_, noBlock := ?_, sampled := ?_ }
    · exact fun hpositive => absurd hpositive (Nat.lt_irrefl 0)
    · exact fun (hplanned : true = false) => nomatch hplanned
    · intro _ _ task hnewest
      simp only [InferRequest.launchedReal, List.getLast?_append, List.getLast?_singleton,
        Option.some_or, Option.mem_def, Option.some.injEq] at hnewest
      subst hnewest
      rintro ⟨hpositive, -⟩
      simp only at hpositive
      omega
    · rintro (hprefill | hprefill)
      · simp only [InferRequest.launchedReal] at hprefill
        omega
      · exact absurd hprefill (Nat.lt_irrefl 0)
    · intro hpending task hmem
      rcases List.mem_append.mp hmem with hold | hnew
      · exact hreq.sampled hpending task hold
      · obtain rfl := List.mem_singleton.mp hnew
        rintro ⟨hpositive, -⟩
        simp only at hpositive
        omega

theorem refreshWorkloads_sameOrder (req : InferRequest) : SameOrder req req.refreshWorkloads := by
  unfold InferRequest.refreshWorkloads
  dsimp only
  split <;> exact ⟨rfl, rfl, rfl, rfl, rfl, id, fun _ => rfl⟩

omit [DraftTokensApi] in
theorem SameOrder.trans {a b c : InferRequest} (h : SameOrder a b) (h' : SameOrder b c) :
    SameOrder a c where
  task := h'.task.trans h.task
  left := h'.left.trans h.left
  offset := h'.offset.trans h.offset
  prefilling := h'.prefilling.trans h.prefilling
  inflight := h'.inflight.trans h.inflight
  blocks := h'.blocks ∘ h.blocks
  draftNums := fun hnone => (h'.draftNums (h.blocks hnone)).trans (h.draftNums hnone)

theorem updateAfterInflightTaskFinished_sameOrder
    (h : req.updateAfterInflightTaskFinished = .ok after) : SameOrder req after := by
  obtain ⟨-, hcase⟩ := InferRequest.updateAfterInflightTaskFinished_cases h
  cases hcase with
  | afterEos heos =>
    refine ⟨rfl, rfl, rfl, rfl, rfl, fun hnone => ?_, fun hnone => if_pos hnone⟩
    rw [InferRequest.discardStepAfterEos, hnone]
    rfl
  | middleChunk heos hsplit =>
    refine .trans ?_ (refreshWorkloads_sameOrder _)
    exact ⟨rfl, rfl, rfl, rfl, rfl, id, fun _ => rfl⟩
  | plain oldest queue hinflight heos hsplit hpending =>
    refine .trans ?_ (refreshWorkloads_sameOrder _)
    unfold InferRequest.retireWithoutPlaceholder
    dsimp only
    split <;> exact ⟨rfl, rfl, rfl, rfl, rfl, id, fun _ => rfl⟩
  | backfill heos hsplit hpending hfills hroom => exact ⟨rfl, rfl, rfl, rfl, rfl, id, fun _ => rfl⟩
  | own heos hsplit hpending howns haccepted hroom =>
    exact ⟨rfl, rfl, rfl, rfl, rfl, fun hnone => absurd hnone hpending,
      fun hnone => absurd hnone hpending⟩

omit [DraftTokensApi] in
theorem PlanOrder.resetInflightTask (hreq : PlanOrder req) : PlanOrder req.resetInflightTask where
  total := hreq.total
  chunk := hreq.chunk
  decode := hreq.decode
  newest := by
    intro hleft htask task hnewest
    refine hreq.newest hleft htask task ?_
    cases hinflight : req.inflightTasks with
    | nil =>
      rw [InferRequest.resetInflightTask, hinflight] at hnewest
      cases hnewest
    | cons oldest queue =>
      rw [InferRequest.resetInflightTask, hinflight] at hnewest
      cases queue with
      | nil => cases hnewest
      | cons next rest => rwa [List.getLast?_cons_cons]
  noBlock := hreq.noBlock
  sampled := fun hpending task hmem => hreq.sampled hpending task (List.mem_of_mem_tail hmem)

end Order

theorem pipelineStep_order [DraftTokensApi] {fastPath : Bool} {maxDepth : Nat}
    {Fits : ScheduleTask → StepResult → Prop} {s t : PipelineState} {op : PipelineOp}
    (hs : PlanOrder s.req) (hop : OpPermitted Fits s op)
    (h : pipelineStep fastPath maxDepth s op = .ok t) : PlanOrder t.req := by
  cases op with
  | restart cached =>
    obtain ⟨hcached, h⟩ := check_bind_ok h
    obtain rfl := Except.ok.inj h
    exact .admitted hcached
  | generateDrafts drafts =>
    obtain rfl := Except.ok.inj h
    exact hs.congr ⟨rfl, rfl, rfl, rfl, rfl, id, fun _ => rfl⟩
  | plan workload =>
    obtain ⟨planned, hplan, h⟩ := bind_ok h
    obtain rfl := Except.ok.inj h
    exact hs.plan hop hplan
  | launch =>
    obtain ⟨launched, hlaunch, h⟩ := bind_ok h
    obtain rfl := Except.ok.inj h
    exact hs.launch (launch_ok hlaunch).2.2
  | deliver result =>
    obtain ⟨-, h⟩ := check_bind_ok h
    obtain rfl := Except.ok.inj h
    exact hs.congr ⟨rfl, rfl, rfl, rfl, rfl, id, fun _ => rfl⟩
  | finish =>
    rw [pipelineStep] at h
    split at h
    · cases h
    · obtain ⟨updated, hupdate, h⟩ := bind_ok h
      obtain rfl := Except.ok.inj h
      exact (hs.congr (updateAfterInflightTaskFinished_sameOrder hupdate)).resetInflightTask

/-- A result that has arrived is in the request, and it is one of the oldest step's. -/
def ResultArrived (Fits : ScheduleTask → StepResult → Prop) (s : PipelineState) : Prop :=
  ∀ result, s.delivered = some result →
    s.req.inflightTasks ≠ [] ∧ s.req.generatedTokens = result.generatedTokens ∧
      s.req.acceptedTokens = result.acceptedTokens ∧
      (s.req.isSplitPrefillStep = false →
        ∀ oldest ∈ s.req.inflightTasks.head?, Fits oldest result)

theorem isSplitPrefillStep_congr {req after : InferRequest}
    (hprefilling : after.prefillingTokens = req.prefillingTokens)
    (holdest : after.inflightTasks.head? = req.inflightTasks.head?) :
    after.isSplitPrefillStep = req.isSplitPrefillStep := by
  cases hinflight : req.inflightTasks with
  | nil =>
    rw [hinflight, List.head?_nil, List.head?_eq_none_iff] at holdest
    rw [InferRequest.isSplitPrefillStep, InferRequest.isSplitPrefillStep, holdest, hinflight]
  | cons oldest queue =>
    rw [hinflight, List.head?_cons] at holdest
    obtain ⟨rest, hafter⟩ := List.head?_eq_some_iff.mp holdest
    rw [InferRequest.isSplitPrefillStep, InferRequest.isSplitPrefillStep, hinflight, hafter,
      hprefilling]

theorem pipelineStep_arrived [DraftTokensApi] {fastPath : Bool} {maxDepth : Nat}
    {Fits : ScheduleTask → StepResult → Prop} {s t : PipelineState} {op : PipelineOp}
    (hs : ResultArrived Fits s) (hop : OpPermitted Fits s op)
    (h : pipelineStep fastPath maxDepth s op = .ok t) : ResultArrived Fits t := by
  cases op with
  | restart cached =>
    obtain ⟨-, h⟩ := check_bind_ok h
    obtain rfl := Except.ok.inj h
    exact fun result hnone => by cases hnone
  | generateDrafts drafts =>
    obtain rfl := Except.ok.inj h
    exact hs
  | plan workload =>
    obtain ⟨planned, hplan, h⟩ := bind_ok h
    obtain rfl := Except.ok.inj h
    obtain ⟨-, -, rfl⟩ := plan_ok hplan
    exact hs
  | launch =>
    obtain ⟨launched, hlaunch, h⟩ := bind_ok h
    obtain rfl := Except.ok.inj h
    obtain ⟨hkeeps, -, task, hinflight⟩ :=
      InferRequest.launchPlanningTask_keeps (launch_ok hlaunch).2.2
    intro result hdelivered
    obtain ⟨hsome, hgenerated, haccepted, hfits⟩ := hs result hdelivered
    have holdest : launched.inflightTasks.head? = s.req.inflightTasks.head? := by
      rw [hinflight, List.head?_append_of_ne_nil _ hsome]
    refine ⟨?_, hkeeps.generated.trans hgenerated, hkeeps.accepted.trans haccepted, ?_⟩
    · show launched.inflightTasks ≠ []
      rw [hinflight]
      exact List.append_ne_nil_of_left_ne_nil hsome _
    · show launched.isSplitPrefillStep = false → ∀ oldest ∈ launched.inflightTasks.head?, _
      rw [isSplitPrefillStep_congr hkeeps.prefilling holdest, holdest]
      exact hfits
  | deliver result =>
    obtain ⟨⟨-, hsome⟩, h⟩ := check_bind_ok h
    obtain rfl := Except.ok.inj h
    intro arrived hdelivered
    obtain rfl := Option.some.inj hdelivered
    exact ⟨hsome, rfl, rfl, hop⟩
  | finish =>
    rw [pipelineStep] at h
    split at h
    · cases h
    · obtain ⟨updated, -, h⟩ := bind_ok h
      obtain rfl := Except.ok.inj h
      exact fun result hnone => by cases hnone

end KsanaBuildAhead.Engine
