import KsanaBuildAhead.Engine.PipelineDrain

/-!
# Launching behind a step with real tokens

A decode step is launched with nothing in flight, and the next one before its
result is back. The second launch reserves a block of placeholders exactly when
the first found no generated token to append.
-/
namespace KsanaBuildAhead.Engine

open KsanaBuildAhead.Runtime KsanaBuildAhead.Lib.Execution

/-- The launch appends the placeholders of one block to the sequence and nothing else,
and registers that block where the sequence ended. -/
def ReservesOneBlock [DraftTokensApi] (req : InferRequest) (draftTokenNum : Nat) : Prop :=
  ∃ launched, req.launchPlanningTask true true = .ok launched ∧
    launched.forwardingTokens = req.forwardingTokens ++
      List.replicate (1 + draftTokenNum) kFastPathPlaceholderTokenId ∧
    launched.pendingPlaceholderPositions =
      req.pendingPlaceholderPositions ++ [req.forwardingTokens.length] ∧
    launched.pendingPlaceholderDraftNums = req.pendingPlaceholderDraftNums ++ [draftTokenNum]

section Ahead

variable [DraftTokensApi] {before req : InferRequest} {workload : ScheduleTaskWorkload}

/-- After a launch with nothing in flight and the next plan, one step is in flight, the
plan is the planning task, and the generated tokens are those the launch found. -/
theorem launched_then_planned (hidle : before.inflightTasks = [])
    (hafter : exec (requestStep true 2) before [.launch, .plan workload] = .ok req) :
    (∃ task, req.inflightTasks = [task]) ∧ req.planningTask = ⟨workload⟩ ∧
      req.generatedTokens = before.generatedTokens := by
  obtain ⟨launched, hlaunch, hrest⟩ := exec_cons_ok hafter
  obtain ⟨planned, hplan, hdone⟩ := exec_cons_ok hrest
  obtain rfl := Except.ok.inj hdone
  obtain ⟨hkeeps, -, task, hqueue⟩ :=
    InferRequest.launchPlanningTask_keeps (launch_ok hlaunch).2.2
  obtain ⟨-, -, rfl⟩ := plan_ok hplan
  refine ⟨⟨task, ?_⟩, rfl, hkeeps.generated⟩
  rw [hqueue, hidle, List.nil_append]

/-- In every run, a decode launch behind a step launched with nothing in flight reserves
one block of placeholders and appends no other token exactly when no generated token
was waiting at the first of the two launches. -/
theorem launch_behind_real_step_iff (start : InferRequest) (cached : Nat)
    (actions : List RequestAction)
    (hbefore : exec (requestStep true 2) (admitted start cached) actions = .ok before)
    (hidle : before.inflightTasks = [])
    (hprefill : workload.prefillTokenNum = 0)
    (hgenerated : workload.generatedTokenNum = kStepGenerateTokenNum)
    (hrun : exec (requestStep true 2) (admitted start cached)
      (actions ++ [.launch, .plan workload]) = .ok req) :
    ReservesOneBlock req workload.draftTokenNum ↔ before.generatedTokens = [] := by
  have hafter : exec (requestStep true 2) before [.launch, .plan workload] = .ok req := by
    rw [← exec_append_of_ok _ hbefore]
    exact hrun
  obtain ⟨⟨task, hinflight⟩, hplanned, hkept⟩ := launched_then_planned hidle hafter
  have hdecode : req.planningTask.workload.prefillTokenNum = 0 := by rw [hplanned]; exact hprefill
  have hnonempty : req.planningTask.isEmpty = false := by
    simp [hplanned, ScheduleTask.isEmpty, ScheduleTaskWorkload.isEmpty, hgenerated,
      kStepGenerateTokenNum]
  rw [← hkept]
  constructor
  · rintro ⟨launched, hlaunch, -, hpositions, -⟩
    by_contra hwaiting
    obtain ⟨hsame, -⟩ := InferRequest.launchPlanningTask_real true true hdecode hwaiting hlaunch
    rw [hsame] at hpositions
    have hlength := congrArg List.length hpositions
    simp only [List.length_append, List.length_singleton] at hlength
    omega
  · intro hnone
    refine ⟨_, InferRequest.launchPlanningTask_reserve req task hnonempty hdecode hinflight hnone,
      ?_, rfl, ?_⟩
    · rw [hplanned]
    · rw [hplanned]

end Ahead

/-- The prefill alone, then the first decode step planned. -/
def realStepRun : List RequestAction :=
  [.plan { prefillTokenNum := 2 }, .launch,
    .retire { generatedTokens := [20], draftTokens := { mtp := [40] } },
    .plan { generatedTokenNum := 1, draftTokenNum := 1 }]

/-- The prefill and one step behind it, both retired, then the next step planned: its
token is gone, and only a draft is launched. -/
def lostTokenRun : List RequestAction :=
  [.plan { prefillTokenNum := 2 }, .launch,
    .plan { generatedTokenNum := 1, draftTokenNum := 1 }, .launch,
    .retire { generatedTokens := [20], draftTokens := { mtp := [40] } },
    .retire { generatedTokens := [21], acceptedTokens := [40], draftTokens := { mtp := [41] } },
    .plan { generatedTokenNum := 1, draftTokenNum := 1 }]

/-- Where that run ends. -/
def lostTokenEnd : InferRequest where
  reqId := 7
  samplingTokenNum := 2
  outputTokens := [11, 12, 20, 40, 21]
  draftTokens := { mtp := [41] }
  generatedTokens := []
  forwardingTokens := [11, 12, 20, 40]
  inferStage := .decode
  forwardStepKind := .decode
  kvCachedTokenNum := 4
  prefixCacheLen := 2
  prefillingTokens := [11, 12]
  planningTask := ⟨{ generatedTokenNum := 1, draftTokenNum := 1 }⟩
  remainingWorkload := { prefillStartOffset := 2 }

/-- That state once the step is launched and the next one planned. -/
def lostTokenAhead : InferRequest where
  reqId := 7
  samplingTokenNum := 2
  outputTokens := [11, 12, 20, 40, 21]
  draftTokens := { mtp := [41] }
  forwardingTokensDraftNum := 1
  forwardingTokens := [11, 12, 20, 40, 41]
  inferStage := .decode
  forwardStepKind := .decode
  kvCachedTokenNum := 4
  prefixCacheLen := 4
  prefillingTokens := [11, 12]
  inflightTasks := [⟨{ draftTokenNum := 1, samplingTokenNum := 2 }⟩]
  planningTask := ⟨{ generatedTokenNum := 1, draftTokenNum := 2 }⟩
  remainingWorkload := { prefillStartOffset := 2 }

theorem launch_behind_real_step_iff_sample :
    letI := concatDraftTokens
    ReservesOneBlock lostTokenAhead 2 := by
  let _ := concatDraftTokens
  have hbefore : exec (requestStep true 2) (admitted drainSample 0) lostTokenRun =
      .ok lostTokenEnd := by decide +kernel
  have hrun : exec (requestStep true 2) (admitted drainSample 0)
      (lostTokenRun ++ [.launch, .plan { generatedTokenNum := 1, draftTokenNum := 2 }]) =
      .ok lostTokenAhead := by decide +kernel
  exact (launch_behind_real_step_iff drainSample 0 lostTokenRun hbefore rfl rfl rfl hrun).mpr rfl

/-- The state of the failing run: one decode step in flight with its real token `20`, and
the next one planned. -/
def realStepAhead : InferRequest where
  reqId := 7
  samplingTokenNum := 2
  outputTokens := [11, 12, 20]
  draftTokens := { mtp := [40] }
  forwardingTokensDraftNum := 1
  generatedTokens := [20]
  forwardingTokens := [11, 12, 20, 40]
  inferStage := .decode
  forwardStepKind := .decode
  kvCachedTokenNum := 2
  prefixCacheLen := 2
  prefillingTokens := [11, 12]
  inflightTasks := [⟨{ generatedTokenNum := 1, draftTokenNum := 1, samplingTokenNum := 2 }⟩]
  planningTask := ⟨{ generatedTokenNum := 1, draftTokenNum := 1 }⟩
  remainingWorkload := { prefillStartOffset := 2 }

/-- The second launch appends the token `20` and its draft once more. -/
theorem launch_behind_real_step_repeats :
    letI := concatDraftTokens
    exec (requestStep true 2) (admitted drainSample 0)
        (realStepRun ++ [.launch, .plan { generatedTokenNum := 1, draftTokenNum := 1 }]) =
      .ok realStepAhead ∧
    (∃ launched, realStepAhead.launchPlanningTask true true = .ok launched ∧
      launched.forwardingTokens = [11, 12, 20, 40, 20, 40] ∧
      launched.pendingPlaceholderPositions = []) ∧
    ¬ ReservesOneBlock realStepAhead 1 := by
  let _ := concatDraftTokens
  refine ⟨by decide +kernel, ⟨_, rfl, rfl, rfl⟩, ?_⟩
  rintro ⟨launched, hlaunch, -, hpositions, -⟩
  obtain rfl := Except.ok.inj hlaunch
  exact absurd hpositions (by decide)

end KsanaBuildAhead.Engine
