import KsanaBuildAhead.Engine.PipelinePhases

/-!
# The steady pipeline of one request

Step 0 is the last prefill chunk. Every later step is launched while its
predecessor is in flight, into a block of placeholders, and the predecessor
retires next. The invariant below holds right after each retirement; with it the
pipeline is compared to the run that launches each step with its real tokens.
-/
namespace KsanaBuildAhead.Engine

open KsanaBuildAhead.Runtime KsanaBuildAhead.Lib.ListEdit

/-- What the model returns for one step. -/
structure StepOutcome where
  bonus : VocabId
  accepted : List Int := []
  drafts : DraftTokens := {}

def StepOutcome.result (outcome : StepOutcome) : StepResult where
  generatedTokens := [outcome.bonus.val]
  acceptedTokens := outcome.accepted
  draftTokens := outcome.drafts

/-- The tokens settled before the bonus token of step `k`. -/
def settled (prompt : List Int) (outcome : Nat → StepOutcome) : Nat → List Int
  | 0 => prompt
  | k + 1 => settled prompt outcome k ++ (outcome k).bonus.val :: (outcome (k + 1)).accepted

/-- The tokens settled once step `k` has retired. -/
def committed (prompt : List Int) (outcome : Nat → StepOutcome) (k : Nat) : List Int :=
  settled prompt outcome k ++ [(outcome k).bonus.val]

section Pipeline

variable [DraftTokensApi]

/-- Launch step `k+1` ahead, then retire step `k`, for every step up to the last. -/
def steadyPipeline (req : InferRequest) (outcome : Nat → StepOutcome) (reserved : Nat → Nat) :
    Nat → Except String InferRequest
  | 0 => do
    let launched ← launchAhead req (reserved 1)
    retire launched (outcome 0).result
  | k + 1 => do
    let retired ← steadyPipeline req outcome reserved k
    let launched ← launchAhead retired (reserved (k + 2))
    retire launched (outcome (k + 1)).result

/-- Retire step `k` before step `k+1` is launched, for every step up to the last. -/
def slowPipeline (fastPath : Bool) (req : InferRequest) (outcome : Nat → StepOutcome)
    (reserved : Nat → Nat) : Nat → Except String InferRequest
  | 0 => retire req (outcome 0).result
  | k + 1 => do
    let retired ← slowPipeline fastPath req outcome reserved k
    let launched ← launchSlow fastPath retired (reserved (k + 1))
    retire launched (outcome (k + 1)).result

/-- The last prefill chunk is the only step in flight and nothing is planned behind it.
A request whose KV comes from a remote peer never runs a prefill chunk here. -/
structure PipelineStart (prompt : List Int) (req : InferRequest) : Prop extends
    LastChunkInFlight prompt [] req where
  noTask : req.planningTask = {}
  localKv : req.pdV2.kvFromRemote = false

omit [DraftTokensApi] in
theorem inflight_ne_nil {req : InferRequest} {p : ScheduleTask → Prop}
    (hinflight : ∃ task, req.inflightTasks = [task] ∧ p task) : req.inflightTasks ≠ [] := by
  obtain ⟨task, htask, -⟩ := hinflight
  rw [htask]
  exact List.cons_ne_nil _ _

theorem PipelineStart.launchAhead {prompt : List Int} {req : InferRequest}
    (hreq : PipelineStart prompt req) (draftNum : Nat) :
    ∃ launched, Engine.launchAhead req draftNum = .ok launched ∧ Launched req launched ∧
      FirstStepReserved prompt draftNum launched := by
  have hplanned := hreq.toLastChunkInFlight.plan (aheadWorkload req draftNum) hreq.planning rfl
  obtain ⟨launched, hlaunch, hlaunched, hreserved⟩ := hplanned.launch (aheadWorkload_nonempty _ _)
  refine ⟨launched, ?_, ⟨hlaunched.payload, hlaunched.noTask⟩, hreserved⟩
  rw [launchAhead_eq hreq.toDecodeReady hreq.noTask (inflight_ne_nil hreq.inflight), hlaunch]

theorem StepFilled.launchAhead {tokens drafts : List Int} {main : VocabId} {req : InferRequest}
    (hreq : StepFilled tokens main drafts req) (hnoTask : req.planningTask = {})
    (nextDraftNum : Nat) :
    ∃ launched, Engine.launchAhead req nextDraftNum = .ok launched ∧ Launched req launched ∧
      NextStepReserved tokens main drafts nextDraftNum launched := by
  have hplanned := hreq.plan (aheadWorkload req nextDraftNum) hreq.planning rfl
  obtain ⟨launched, hlaunch, hlaunched, hreserved⟩ := hplanned.launch (aheadWorkload_nonempty _ _)
  refine ⟨launched, ?_, ⟨hlaunched.payload, hlaunched.noTask⟩, hreserved⟩
  rw [launchAhead_eq hreq.toDecodeReady hnoTask (inflight_ne_nil hreq.inflight), hlaunch]

theorem first_round {prompt : List Int} {req : InferRequest} (hreq : PipelineStart prompt req)
    (outcome : StepOutcome) (draftNum : Nat) :
    ∃ retired, (Engine.launchAhead req draftNum >>= (retire · outcome.result)) = .ok retired ∧
      BlockFilled prompt outcome.bonus (resize (DraftTokensApi.getDraftTokens outcome.drafts)
        draftNum kFastPathPlaceholderTokenId) retired ∧
      retired.isEosGenerated = req.samplingConfig.stopTokenIds.contains outcome.bonus.val ∧
      retired.toRequestPayload = req.toRequestPayload ∧ retired.planningTask = {} := by
  obtain ⟨launched, hlaunch, hlaunched, hreserved⟩ := hreq.launchAhead draftNum
  obtain ⟨retired, hretire, hretired, heos, hfilled⟩ :=
    hreserved.retire outcome.bonus outcome.result rfl
  refine ⟨retired, ?_, hfilled, ?_, hretired.payload.trans hlaunched.payload,
    hretired.task.trans hlaunched.noTask⟩
  · rw [hlaunch]
    exact hretire
  · rw [heos, hlaunched.payload]

theorem next_round {tokens drafts : List Int} {main : VocabId} {req : InferRequest}
    (hreq : StepFilled tokens main drafts req) (hnoTask : req.planningTask = {})
    (outcome : StepOutcome) (nextDraftNum : Nat)
    (haccepted : outcome.accepted.length ≤ drafts.length) :
    ∃ retired, (Engine.launchAhead req nextDraftNum >>= (retire · outcome.result)) = .ok retired ∧
      BlockFilled (tokens ++ main.val :: outcome.accepted) outcome.bonus
        (resize (DraftTokensApi.getDraftTokens outcome.drafts) nextDraftNum
          kFastPathPlaceholderTokenId) retired ∧
      retired.isEosGenerated = req.samplingConfig.stopTokenIds.contains outcome.bonus.val ∧
      retired.toRequestPayload = req.toRequestPayload ∧ retired.planningTask = {} := by
  obtain ⟨launched, hlaunch, hlaunched, hreserved⟩ := hreq.launchAhead hnoTask nextDraftNum
  obtain ⟨retired, hretire, hretired, heos, hfilled⟩ :=
    hreserved.retire outcome.bonus outcome.result rfl haccepted
  refine ⟨retired, ?_, hfilled, ?_, hretired.payload.trans hlaunched.payload,
    hretired.task.trans hlaunched.noTask⟩
  · rw [hlaunch]
    exact hretire
  · rw [heos, hlaunched.payload]

/-- The pipeline keeps its invariant while no stop token comes back: after the
retirement of step `k` the block of step `k+1` sits right behind the settled tokens. -/
theorem steadyPipeline_filled {prompt : List Int} {req : InferRequest}
    (hreq : PipelineStart prompt req) (outcome : Nat → StepOutcome) (reserved : Nat → Nat)
    (haccepted : ∀ k, (outcome (k + 1)).accepted.length ≤ reserved (k + 1)) (k : Nat)
    (hstop : ∀ j < k, (outcome j).bonus.val ∉ req.samplingConfig.stopTokenIds) :
    ∃ retired, steadyPipeline req outcome reserved k = .ok retired ∧
      BlockFilled (settled prompt outcome k) (outcome k).bonus
        (resize (DraftTokensApi.getDraftTokens (outcome k).drafts) (reserved (k + 1))
          kFastPathPlaceholderTokenId) retired ∧
      retired.isEosGenerated = req.samplingConfig.stopTokenIds.contains (outcome k).bonus.val ∧
      retired.toRequestPayload = req.toRequestPayload ∧ retired.planningTask = {} := by
  induction k with
  | zero => exact first_round hreq (outcome 0) (reserved 1)
  | succ k ih =>
    obtain ⟨retired, hrun, hfilled, heos, hpayload, hnoTask⟩ := ih fun j hj => hstop j (by omega)
    have hrunning : retired.isEosGenerated = false := by
      rw [heos]
      simpa using hstop k (Nat.lt_succ_self k)
    obtain ⟨next, hround, hnext, hnextEos, hnextPayload, hnextTask⟩ := next_round
      ⟨hfilled, hrunning⟩ hnoTask (outcome (k + 1)) (reserved (k + 2)) (by simpa using haccepted k)
    refine ⟨next, ?_, hnext, ?_, hnextPayload.trans hpayload, hnextTask⟩
    · rw [steadyPipeline, hrun]
      exact hround
    · rw [hnextEos, hpayload]

/-- A decode step is launched with its real tokens and retires before the next one. -/
theorem slow_next (fastPath : Bool) {tokens : List Int} {main : VocabId} {drafts : DraftTokens}
    {req : InferRequest} (hreq : Drained tokens main drafts req) (hnoTask : req.planningTask = {})
    (outcome : StepOutcome) (draftNum : Nat)
    (haccepted : outcome.accepted <+: (DraftTokensApi.getDraftTokens drafts).take draftNum)
    (hstop : outcome.bonus.val ∉ req.samplingConfig.stopTokenIds) :
    ∃ retired, (launchSlow fastPath req draftNum >>= (retire · outcome.result)) = .ok retired ∧
      Drained (tokens ++ main.val :: outcome.accepted) outcome.bonus outcome.drafts retired ∧
      retired.toRequestPayload = req.toRequestPayload ∧ retired.planningTask = {} := by
  have hplanned := hreq.plan { generatedTokenNum := kStepGenerateTokenNum
                               draftTokenNum := draftNum } rfl rfl
  obtain ⟨launched, hlaunch, hlaunched, halone⟩ := hplanned.launch fastPath rfl
  obtain ⟨retired, hretire, hretired, heos, hdrained⟩ :=
    halone.retire outcome.bonus outcome.result rfl haccepted
  have hpayload : retired.toRequestPayload = req.toRequestPayload :=
    hretired.payload.trans hlaunched.payload
  refine ⟨retired, ?_, hdrained ?_, hpayload, hretired.task.trans hlaunched.noTask⟩
  · rw [launchSlow_eq fastPath hreq.toDecodeReady hnoTask, hlaunch]
    exact hretire
  · rw [heos, hlaunched.payload]
    show req.samplingConfig.stopTokenIds.contains outcome.bonus.val = false
    simpa using hstop

theorem slowPipeline_drained (fastPath : Bool) {prompt : List Int} {req : InferRequest}
    (hreq : PipelineStart prompt req) (outcome : Nat → StepOutcome) (reserved : Nat → Nat)
    (hfirst : (outcome 0).accepted = []) (k : Nat)
    (hstop : ∀ j ≤ k, (outcome j).bonus.val ∉ req.samplingConfig.stopTokenIds)
    (haccepted : ∀ j < k, (outcome (j + 1)).accepted <+:
      (DraftTokensApi.getDraftTokens (outcome j).drafts).take (reserved (j + 1))) :
    ∃ retired, slowPipeline fastPath req outcome reserved k = .ok retired ∧
      Drained (settled prompt outcome k) (outcome k).bonus (outcome k).drafts retired ∧
      retired.toRequestPayload = req.toRequestPayload ∧ retired.planningTask = {} := by
  induction k with
  | zero =>
    obtain ⟨retired, hretire, hretired, heos, hdrained⟩ :=
      hreq.toLastChunkInFlight.retire (outcome 0).bonus (outcome 0).result rfl hfirst
    refine ⟨retired, hretire, hdrained ?_, hretired.payload, hretired.task.trans hreq.noTask⟩
    rw [heos]
    simpa using hstop 0 (Nat.le_refl 0)
  | succ k ih =>
    obtain ⟨retired, hrun, hdrained, hpayload, hnoTask⟩ := ih (fun j hj => hstop j (by omega))
      fun j hj => haccepted j (by omega)
    obtain ⟨next, hround, hnext, hnextPayload, hnextTask⟩ := slow_next fastPath hdrained hnoTask
      (outcome (k + 1)) (reserved (k + 1)) (haccepted k (by omega))
      (by rw [hpayload]; exact hstop (k + 1) (Nat.le_refl _))
    refine ⟨next, ?_, hnext, hnextPayload.trans hpayload, hnextTask⟩
    rw [slowPipeline, hrun]
    exact hround

/-- After the retirement of step `k`, with step `k+1` in flight, the pipeline holds the
committed tokens, the drafts of step `k` that fit, and placeholders in the slots left
over. Up to those placeholders it is the state the slow path reaches by launching
step `k+1` with its real tokens. -/
theorem steadyPipeline_refines_slowPipeline (fastPath : Bool) {prompt : List Int}
    {req : InferRequest} (hreq : PipelineStart prompt req) (outcome : Nat → StepOutcome)
    (reserved : Nat → Nat) (hfirst : (outcome 0).accepted = [])
    (haccepted : ∀ k, (outcome (k + 1)).accepted.length ≤ reserved (k + 1))
    (hstop : ∀ k, (outcome k).bonus.val ∉ req.samplingConfig.stopTokenIds) (k : Nat) :
    ∃ fast, steadyPipeline req outcome reserved k = .ok fast ∧
      fast.outputTokens = committed prompt outcome k ∧
      fast.kvCachedTokenNum = fast.outputTokens.length - 1 ∧
      fast.pendingPlaceholderPositions = [fast.outputTokens.length - 1] ∧
      fast.forwardingTokens = fast.outputTokens ++
        (DraftTokensApi.getDraftTokens (outcome k).drafts).take (reserved (k + 1)) ++
        List.replicate (reserved (k + 1) -
          (DraftTokensApi.getDraftTokens (outcome k).drafts).length) kFastPathPlaceholderTokenId ∧
      ((∀ j < k, (outcome (j + 1)).accepted <+:
          (DraftTokensApi.getDraftTokens (outcome j).drafts).take (reserved (j + 1))) →
        ∃ slow, (slowPipeline fastPath req outcome reserved k >>=
            (launchSlow fastPath · (reserved (k + 1)))) = .ok slow ∧
          slow.outputTokens = fast.outputTokens ∧
          slow.kvCachedTokenNum = fast.kvCachedTokenNum ∧
          fast.forwardingTokens = slow.forwardingTokens ++
            List.replicate (reserved (k + 1) -
              (DraftTokensApi.getDraftTokens (outcome k).drafts).length)
              kFastPathPlaceholderTokenId) := by
  obtain ⟨fast, hrun, hfilled, -, hpayload, -⟩ :=
    steadyPipeline_filled hreq outcome reserved haccepted k fun j _ => hstop j
  have hlocal : fast.pdV2.kvFromRemote = false := by rw [hpayload]; exact hreq.localKv
  have hlen : fast.outputTokens.length - 1 = (settled prompt outcome k).length := by
    simp [hfilled.output]
  refine ⟨fast, hrun, hfilled.output, by rw [hlen, hfilled.kvCached hlocal],
    by rw [hlen, hfilled.positions], ?_, ?_⟩
  · rw [hfilled.forwarding, hfilled.output]
    simp [resize]
  · intro hverified
    obtain ⟨retired, hslow, hdrained, -, hnoTask⟩ :=
      slowPipeline_drained fastPath hreq outcome reserved hfirst k (fun j _ => hstop j) hverified
    have hplanned := hdrained.plan { generatedTokenNum := kStepGenerateTokenNum
                                     draftTokenNum := reserved (k + 1) } rfl rfl
    obtain ⟨slow, hlaunch, -, halone⟩ := hplanned.launch fastPath rfl
    refine ⟨slow, ?_, halone.output.trans hfilled.output.symm, ?_, ?_⟩
    · rw [hslow]
      exact (launchSlow_eq fastPath hdrained.toDecodeReady hnoTask _).trans hlaunch
    · rw [halone.kvCached, hfilled.kvCached hlocal]
    · rw [hfilled.forwarding, halone.forwarding]
      simp [resize, planDecode]

end Pipeline

/-- A two-token prompt whose prefill is in flight. -/
def lastChunkSample : InferRequest where
  reqId := 7
  outputTokens := [11, 12]
  prefillingTokens := [11, 12]
  forwardingTokens := [11, 12]
  inflightTasks := [⟨{ prefillTokenNum := 2, samplingTokenNum := 1 }⟩]
  remainingWorkload := { prefillStartOffset := 2, samplingTokenNum := 1 }

theorem lastChunkSample_start : PipelineStart [11, 12] lastChunkSample where
  remaining := rfl
  offset := rfl
  planning := rfl
  taskPrefill := rfl
  taskGenerated := fun h => absurd h (by decide)
  prefilling := rfl
  output := rfl
  forwarding := rfl
  middle := fun _ h => absurd h List.not_mem_nil
  inflight := ⟨_, rfl, rfl, by decide⟩
  positions := rfl
  draftNums := rfl
  generated := rfl
  draftNum := rfl
  running := rfl
  noTask := rfl
  localKv := rfl

/-- Step `k` returns the bonus token `20 + k`, accepts the first draft of its predecessor,
and offers the drafts `40 + k` and `60 + k`. -/
def outcomeSample (k : Nat) : StepOutcome where
  bonus := ⟨20 + k, by omega⟩
  accepted := match k with
    | 0 => []
    | j + 1 => [40 + j]
  drafts := { mtp := [40 + k, 60 + k] }

/-- Four rounds of the sample with three draft slots for each step. -/
theorem steadyPipeline_refines_slowPipeline_sample :
    letI := concatDraftTokens
    ∃ fast, steadyPipeline lastChunkSample outcomeSample (fun _ => 3) 3 = .ok fast ∧
      fast.outputTokens = [11, 12, 20, 40, 21, 41, 22, 42, 23] ∧
      fast.forwardingTokens = [11, 12, 20, 40, 21, 41, 22, 42, 23, 43, 63, -1] := by
  let _ := concatDraftTokens
  obtain ⟨fast, hrun, houtput, -, -, hforwarding, -⟩ :=
    steadyPipeline_refines_slowPipeline true lastChunkSample_start outcomeSample (fun _ => 3)
      rfl (fun k => by simp [outcomeSample]) (fun k => by simp [lastChunkSample]) 3
  refine ⟨fast, hrun, houtput.trans rfl, ?_⟩
  rw [hforwarding, houtput]
  rfl

end KsanaBuildAhead.Engine
