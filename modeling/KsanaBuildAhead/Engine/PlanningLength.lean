import KsanaBuildAhead.Engine.StopToken

/-!
# The planned length and the launched length

KV blocks are allocated for the length counted when a step is planned. The launch
keeps within it except where a block is taken for the planned step's own while it
is the one of the step in flight, where a reserved main slot was not planned, and
where a last chunk carries more drafts than were planned.
-/
namespace KsanaBuildAhead.Engine

open KsanaBuildAhead.Runtime KsanaBuildAhead.Lib.ListEdit KsanaBuildAhead.Lib.Execution

/-- A decode step launched from here reserves a block. -/
def ReservesBlock (fastPath : Bool) (req : InferRequest) : Prop :=
  req.hasInflightTask = true ∧ fastPath = true ∧ req.generatedTokens = []

/-- The sequence ends with a block at least as long as the planned step. -/
def EndsWithLongBlock (req : InferRequest) (workload : ScheduleTaskWorkload) : Prop :=
  ∃ blkStart ∈ req.pendingPlaceholderPositions.getLast?,
    blkStart + 1 + req.pendingPlaceholderDraftNums.getLastD 0 = req.forwardingTokens.length ∧
      workload.getTokenNum ≤ 1 + req.pendingPlaceholderDraftNums.getLastD 0

/-- Where the planned length is enough. -/
def CoversLaunch [DraftTokensApi] (fastPath : Bool) (req : InferRequest)
    (workload : ScheduleTaskWorkload) : Prop :=
  if 0 < workload.prefillTokenNum then
    req.prefillingTokens.length ≤ workload.prefillTokenNum + workload.prefillStartOffset →
      (DraftTokensApi.getDraftTokens req.draftTokens).length ≤
        workload.generatedTokenNum + workload.draftTokenNum
  else ¬ EndsWithLongBlock req workload ∧
    (ReservesBlock fastPath req → 1 ≤ workload.generatedTokenNum)

section Length

variable [DraftTokensApi] {fastPath : Bool} {req planned launched : InferRequest}
  {workload : ScheduleTaskWorkload}

omit [DraftTokensApi] in
theorem getPlanningSequenceLen_chunk (hprefill : 0 < workload.prefillTokenNum) :
    (req.setPlanningWorkload workload).getPlanningSequenceLen =
      workload.prefillStartOffset + workload.getTokenNum :=
  if_pos hprefill

omit [DraftTokensApi] in
/-- The length counted for a decode step behind a block that is long enough. -/
theorem getPlanningSequenceLen_of_block (hdecode : workload.prefillTokenNum = 0)
    (hblock : EndsWithLongBlock req workload) :
    (req.setPlanningWorkload workload).getPlanningSequenceLen = req.forwardingTokens.length := by
  obtain ⟨blkStart, hlast, hends, hlong⟩ := hblock
  have hpositions : (req.setPlanningWorkload workload).pendingPlaceholderPositions.getLast? =
      some blkStart := hlast
  show (if 0 < workload.prefillTokenNum then _ else if workload.getTokenNum = 0 then _ else _) = _
  rw [if_neg (by omega)]
  by_cases hnone : workload.getTokenNum = 0
  · rw [if_pos hnone]
    rfl
  · rw [if_neg hnone, hpositions]
    exact if_pos ⟨hends, hlong⟩

omit [DraftTokensApi] in
theorem getPlanningSequenceLen_decode (hdecode : workload.prefillTokenNum = 0)
    (hblock : ¬ EndsWithLongBlock req workload) :
    (req.setPlanningWorkload workload).getPlanningSequenceLen =
      req.forwardingTokens.length + workload.getTokenNum := by
  show (if 0 < workload.prefillTokenNum then _ else if workload.getTokenNum = 0 then _ else _) = _
  rw [if_neg (by omega)]
  by_cases hnone : workload.getTokenNum = 0
  · rw [if_pos hnone, hnone]
    rfl
  · rw [if_neg hnone]
    cases hlast : (req.setPlanningWorkload workload).pendingPlaceholderPositions.getLast? with
    | none => rfl
    | some blkStart => exact if_neg fun hlong => hblock ⟨blkStart, hlast, hlong⟩

omit [DraftTokensApi] in
theorem chunkTokens_length (hinside : workload.prefillStartOffset + workload.prefillTokenNum ≤
    req.prefillingTokens.length) :
    (req.chunkTokens workload).length = workload.prefillStartOffset + workload.prefillTokenNum := by
  rw [InferRequest.chunkTokens]
  split
  · rename_i hnext
    rw [List.length_append, List.length_take, List.length_drop]
    omega
  · rw [List.length_take]
    omega

theorem launched_length {usePlaceholder : Bool}
    (h : planned.launchPlanningTask fastPath usePlaceholder = .ok launched) :
    (0 < planned.planningTask.workload.prefillTokenNum ∧ launched.forwardingTokens.length =
      (planned.chunkTokens planned.planningTask.workload).length + planned.chunkDrafts.length) ∨
    (planned.planningTask.workload.prefillTokenNum = 0 ∧
      (usePlaceholder = true ∧ fastPath = true ∧ planned.generatedTokens = []) ∧
      launched.forwardingTokens.length =
        planned.forwardingTokens.length + (planned.planningTask.workload.draftTokenNum + 1)) ∨
    (planned.planningTask.workload.prefillTokenNum = 0 ∧
      ¬ (usePlaceholder = true ∧ fastPath = true ∧ planned.generatedTokens = []) ∧
      planned.generatedTokens.length ≤ planned.planningTask.workload.getTokenNum ∧
      launched.forwardingTokens.length = planned.forwardingTokens.length +
        planned.generatedTokens.length + planned.roomDrafts.length) := by
  obtain ⟨-, -, -, hcase⟩ := InferRequest.launchPlanningTask_cases h
  cases hcase with
  | chunk kv cacheLen hprefill =>
    refine Or.inl ⟨hprefill, ?_⟩
    simp only [InferRequest.launchedChunk, List.length_append]
  | block kv cacheLen hdecode hplaceholder =>
    refine Or.inr (Or.inl ⟨hdecode, hplaceholder, ?_⟩)
    simp only [InferRequest.launchedBlock, List.length_append, List.length_replicate]
  | real kv cacheLen hdecode hreal hroom =>
    refine Or.inr (Or.inr ⟨hdecode, hreal, ?_, ?_⟩)
    · rw [ScheduleTaskWorkload.getTokenNum]
      omega
    · simp only [InferRequest.launchedReal, List.length_append]

/-- From any state a plan and its launch stay within the counted length exactly where the
condition holds, provided a pending block has a step in flight and the fast path on. -/
theorem launch_within_planned_length {maxDepth : Nat}
    (hpending : req.pendingPlaceholderPositions ≠ [] →
      fastPath = true ∧ req.hasInflightTask = true)
    (hinside : 0 < workload.prefillTokenNum →
      workload.prefillStartOffset + workload.prefillTokenNum ≤ req.prefillingTokens.length)
    (hplan : (req.setPlanningWorkload workload).setPlanningTask = .ok planned)
    (hlaunch : launch fastPath maxDepth planned = .ok launched) :
    launched.forwardingTokens.length ≤
        (req.setPlanningWorkload workload).getPlanningSequenceLen ↔
      CoversLaunch fastPath req workload := by
  obtain ⟨-, -, hplanned⟩ := plan_ok hplan
  obtain ⟨hnonempty, -, hpushed⟩ := launch_ok hlaunch
  have hlength := launched_length hpushed
  have htask : planned.planningTask.workload = workload := by rw [hplanned]
  have hforwarding : planned.forwardingTokens = req.forwardingTokens := by rw [hplanned]
  have hgenerated : planned.generatedTokens = req.generatedTokens := by rw [hplanned]
  have hinflight : planned.hasInflightTask = req.hasInflightTask := by
    rw [hplanned]
    rfl
  have hchunk : planned.chunkTokens workload = req.chunkTokens workload := by
    rw [hplanned]
    rfl
  rw [htask, hforwarding, hgenerated, hinflight, hchunk] at hlength
  rw [ScheduleTask.isEmpty, htask] at hnonempty
  rw [CoversLaunch]
  rcases hlength with ⟨hprefill, hlength⟩ | ⟨hdecode, hreserves, hlength⟩ |
    ⟨hdecode, hreal, hroom, hlength⟩
  · rw [if_pos hprefill, getPlanningSequenceLen_chunk hprefill, ScheduleTaskWorkload.getTokenNum,
      hlength, chunkTokens_length (hinside hprefill)]
    have hdrafts : planned.chunkDrafts =
        if req.prefillingTokens.length ≤ workload.prefillTokenNum + workload.prefillStartOffset then
          DraftTokensApi.getDraftTokens req.draftTokens else [] := by
      rw [InferRequest.chunkDrafts, hplanned]
      rfl
    rw [hdrafts]
    by_cases hlast : req.prefillingTokens.length ≤
        workload.prefillTokenNum + workload.prefillStartOffset
    · rw [if_pos hlast]
      constructor
      · intro hcovers _
        omega
      · intro hfits
        have hdraftNum := hfits hlast
        omega
    · rw [if_neg hlast, List.length_nil]
      exact ⟨fun _ hends => absurd hends hlast, fun _ => by omega⟩
  · rw [if_neg (by omega), hlength]
    by_cases hblock : EndsWithLongBlock req workload
    · rw [getPlanningSequenceLen_of_block hdecode hblock]
      exact ⟨fun hcovers => by omega, fun hcovers => absurd hblock hcovers.1⟩
    · rw [getPlanningSequenceLen_decode hdecode hblock, ScheduleTaskWorkload.getTokenNum, hdecode]
      constructor
      · intro hcovers
        exact ⟨hblock, fun _ => by omega⟩
      · intro hcovers
        have hmain := hcovers.2 hreserves
        omega
  · rw [if_neg (by omega), hlength]
    have hdraftNum : planned.roomDrafts.length ≤
        workload.getTokenNum - req.generatedTokens.length := by
      rw [InferRequest.roomDrafts_length, htask, hgenerated, ScheduleTaskWorkload.getTokenNum]
      omega
    by_cases hblock : EndsWithLongBlock req workload
    · rw [getPlanningSequenceLen_of_block hdecode hblock]
      refine ⟨fun hcovers => ?_, fun hcovers => absurd hblock hcovers.1⟩
      obtain ⟨blkStart, hlast, -⟩ := hblock
      obtain ⟨hfast, hsome⟩ := hpending fun hnone => by
        rw [hnone] at hlast
        cases hlast
      have htokens := List.length_pos_of_ne_nil fun hnone => hreal ⟨hsome, hfast, hnone⟩
      omega
    · rw [getPlanningSequenceLen_decode hdecode hblock]
      refine ⟨fun _ => ⟨hblock, fun hreserves => absurd hreserves hreal⟩, fun _ => ?_⟩
      omega

/-- In every state of a run, on either path, a planned step that is launched at once stays within
the length counted for it exactly where the condition holds. -/
theorem planned_length_covers_launch {s : PipelineState} (start : InferRequest) (cached : Nat)
    (ops : List PipelineOp) (hcached : cached ≤ start.outputTokens.length)
    (hrun : exec (pipelineStep fastPath (maxInflightDepth fastPath))
      { req := admitted start cached } ops = .ok s)
    (hpermitted : EachStep (pipelineStep fastPath (maxInflightDepth fastPath))
      (OpPermitted SampledResult) { req := admitted start cached } ops)
    (hinside : 0 < workload.prefillTokenNum →
      workload.prefillStartOffset + workload.prefillTokenNum ≤ s.req.prefillingTokens.length)
    (hplan : (s.req.setPlanningWorkload workload).setPlanningTask = .ok planned)
    (hlaunch : launch fastPath (maxInflightDepth fastPath) planned = .ok launched) :
    launched.forwardingTokens.length ≤
        (s.req.setPlanningWorkload workload).getPlanningSequenceLen ↔
      CoversLaunch fastPath s.req workload := by
  refine launch_within_planned_length (fun hpending => ?_) hinside hplan hlaunch
  cases fastPath with
  | false =>
    have hone : OneAtATime s.req :=
      exec_invariant (I := fun s : PipelineState => OneAtATime s.req) (fun _ _ _ hs h => hs.step h)
        (.of_fresh start cached) hrun
    exact absurd hone.positions hpending
  | true =>
    have hinv : QueueInvariant SampledResult s :=
      exec_invariant_of (fun _ _ _ hs hop h => hs.step hop (hs.findsToken h) h)
        (QueueInvariant.of_fresh SampledResult start hcached) hpermitted hrun
    refine ⟨rfl, ?_⟩
    have hsome := List.length_pos_of_ne_nil hpending
    have hatMost := hinv.blocks.atMost
    exact decide_eq_true (show 0 < s.req.inflightTasks.length by omega)

end Length

/-- One decode step with one draft slot. -/
def decodeWithDraft : ScheduleTaskWorkload where
  generatedTokenNum := 1
  draftTokenNum := 1

/-- The first decode step, launched behind the prefill. -/
theorem planned_length_covers_launch_sample :
    letI := concatDraftTokens
    ∃ s planned launched, exec (pipelineStep true 2) { req := admitted drainSample 0 }
        [.plan { prefillTokenNum := 2 }, .launch] = .ok s ∧
      (s.req.setPlanningWorkload decodeWithDraft).setPlanningTask = .ok planned ∧
      launch true 2 planned = .ok launched ∧
      launched.forwardingTokens.length ≤
        (s.req.setPlanningWorkload decodeWithDraft).getPlanningSequenceLen := by
  let _ := concatDraftTokens
  have hpermitted : EachStep (pipelineStep true (maxInflightDepth true))
      (OpPermitted SampledResult) { req := admitted drainSample 0 }
      [.plan { prefillTokenNum := 2 }, .launch] := eachStep_of_check (by decide)
  refine ⟨_, _, _, rfl, rfl, rfl, ?_⟩
  refine (planned_length_covers_launch drainSample 0 _ (by decide) rfl hpermitted
    (fun hprefill => absurd hprefill (by decide)) rfl rfl).mpr ?_
  refine ⟨?_, fun _ => by decide⟩
  rintro ⟨blkStart, hnone, -⟩
  cases hnone

/-- The next one, launched behind the first: the block of the first is taken for its own. -/
theorem launch_exceeds_planned_length :
    letI := concatDraftTokens
    ∃ s planned launched, exec (pipelineStep true 2) { req := admitted drainSample 0 }
        queueSampleRun = .ok s ∧
      EachStep (pipelineStep true 2) (OpPermitted SampledResult) { req := admitted drainSample 0 }
        queueSampleRun ∧
      (s.req.setPlanningWorkload decodeWithDraft).setPlanningTask = .ok planned ∧
      launch true 2 planned = .ok launched ∧
      (s.req.setPlanningWorkload decodeWithDraft).getPlanningSequenceLen = 4 ∧
      launched.forwardingTokens.length = 6 := by
  let _ := concatDraftTokens
  exact ⟨_, _, _, rfl, eachStep_of_check (by decide), rfl, rfl, rfl, rfl⟩

end KsanaBuildAhead.Engine
