import KsanaBuildAhead.Engine.PlaceholderQueue

/-!
# The checks of a run

What the scheduler looks at before it plans, launches or retires is enough: whatever
the interleaving, none of the checks inside these operations stops one of them. The
invariant behind it says whose block the front block of the queue is.
-/
namespace KsanaBuildAhead.Engine

open KsanaBuildAhead.Runtime KsanaBuildAhead.Lib.ListEdit KsanaBuildAhead.Lib.Execution

/-- What the scheduler has made sure of when it issues an operation. -/
def OpEnabled (maxDepth : Nat) (s : PipelineState) : PipelineOp → Prop
  | .restart cached => cached ≤ s.req.outputTokens.length
  | .generateDrafts _ => True
  | .plan workload => s.req.planningTask.isEmpty = true ∧
      workload.prefillTokenNum ≤ s.req.remainingWorkload.prefillTokenNum
  | .launch => s.req.isStopped = false ∧ s.req.hasPlanningTask = true ∧
      s.req.hasInflightCapacity maxDepth = true
  | .deliver _ => s.delivered = none ∧ s.req.inflightTasks ≠ []
  | .finish => s.delivered.isSome = true

instance (maxDepth : Nat) (s : PipelineState) :
    (op : PipelineOp) → Decidable (OpEnabled maxDepth s op)
  | .restart _ => inferInstanceAs (Decidable (_ ≤ _))
  | .generateDrafts _ => .isTrue trivial
  | .plan _ => inferInstanceAs (Decidable (_ ∧ _))
  | .launch => inferInstanceAs (Decidable (_ ∧ _))
  | .deliver _ => inferInstanceAs (Decidable (_ ∧ _))
  | .finish => inferInstanceAs (Decidable (_ = _))

/-- An operation the scheduler issues, with plans that follow the prompt and results that fit. -/
def OpScheduled (maxDepth : Nat) (s : PipelineState) (op : PipelineOp) : Prop :=
  OpEnabled maxDepth s op ∧ OpPermitted SampledResult s op

instance (maxDepth : Nat) (s : PipelineState) (op : PipelineOp) :
    Decidable (OpScheduled maxDepth s op) :=
  inferInstanceAs (Decidable (_ ∧ _))

/-- Whose the blocks are: with a block for every step each step has its own, and the one block
of two steps is the newer one's while it holds the placeholder, then the older one's. -/
structure BlocksOwned (req : InferRequest) : Prop where
  each : req.isEosGenerated = false →
    req.pendingPlaceholderPositions.length = req.inflightTasks.length →
      req.pendingPlaceholderDraftNums = req.inflightTasks.map (·.workload.draftTokenNum)
  single : req.isEosGenerated = false → ∀ older newer pos,
    req.inflightTasks = [older, newer] → req.pendingPlaceholderPositions = [pos] →
      req.pendingPlaceholderDraftNums =
        [if req.forwardingTokens[pos]? = some kFastPathPlaceholderTokenId
          then newer.workload.draftTokenNum else older.workload.draftTokenNum]

/-- At most one token waits for the next launch, unless the oldest step is a middle chunk. -/
def OneTokenWaits (req : InferRequest) : Prop :=
  req.isSplitPrefillStep = false → req.generatedTokens.length ≤ 1

section Owners

variable [DraftTokensApi] {req after : InferRequest}

omit [DraftTokensApi] in
theorem BlocksOwned.congr (hreq : BlocksOwned req)
    (heos : after.isEosGenerated = req.isEosGenerated)
    (hpositions : after.pendingPlaceholderPositions = req.pendingPlaceholderPositions)
    (hdraftNums : after.pendingPlaceholderDraftNums = req.pendingPlaceholderDraftNums)
    (hinflight : after.inflightTasks = req.inflightTasks)
    (hforwarding : after.forwardingTokens = req.forwardingTokens) : BlocksOwned after where
  each := by
    rw [heos, hpositions, hdraftNums, hinflight]
    exact hreq.each
  single := by
    rw [heos, hpositions, hdraftNums, hinflight, hforwarding]
    exact hreq.single

omit [DraftTokensApi] in
theorem BlocksOwned.of_none (hpositions : req.pendingPlaceholderPositions = [])
    (hdraftNums : req.pendingPlaceholderDraftNums = []) : BlocksOwned req where
  each := by
    intro _ hlength
    rw [hpositions, List.length_nil] at hlength
    rw [hdraftNums, List.eq_nil_of_length_eq_zero hlength.symm, List.map_nil]
  single := by
    intro _ older newer pos _ hsingle
    rw [hpositions] at hsingle
    cases hsingle

omit [DraftTokensApi] in
theorem BlocksOwned.of_eos (heos : req.isEosGenerated = true) : BlocksOwned req where
  each := fun hrunning => by rw [heos] at hrunning; cases hrunning
  single := fun hrunning => by rw [heos] at hrunning; cases hrunning

theorem BlocksOwned.launch {fastPath usePlaceholder : Bool} (hreq : BlocksOwned req)
    (hblocks : BlocksFilled req) (horder : PlanOrder req)
    (h : req.launchPlanningTask fastPath usePlaceholder = .ok after) : BlocksOwned after := by
  obtain ⟨hplanned, hroom, huse, hcase⟩ := InferRequest.launchPlanningTask_cases h
  have hatMost := hblocks.atMost
  cases hcase with
  | chunk kv cacheLen hprefill hcached =>
    have hnone := horder.noBlock (Or.inr hprefill)
    exact .of_none hnone (hblocks.draftNums_nil hnone)
  | block kv cacheLen hdecode hplaceholder hcached =>
    obtain ⟨inflight, hinflight⟩ := exists_inflight_of_room (huse hplaceholder.1) hroom
    rw [hinflight, List.length_singleton] at hatMost
    refine ⟨fun heos hfull => ?_, fun heos older newer pos hsteps hsingle => ?_⟩
    · simp only [InferRequest.launchedBlock, hinflight, List.length_append, List.length_cons,
        List.length_nil] at heos hfull
      have howned := hreq.each heos (by rw [hinflight, List.length_singleton]; omega)
      simp only [InferRequest.launchedBlock, howned, hinflight, List.map_append, List.map_cons,
        List.map_nil]
    · have hnone : req.pendingPlaceholderPositions = [] := by
        have hlength := congrArg List.length hsingle
        simp only [InferRequest.launchedBlock, List.length_append, List.length_singleton] at hlength
        exact List.eq_nil_of_length_eq_zero (by omega)
      simp only [InferRequest.launchedBlock, hinflight, hnone, List.nil_append, List.cons_append,
        List.cons.injEq, and_true] at hsteps hsingle
      obtain ⟨rfl, rfl⟩ := hsteps
      subst hsingle
      have hmain : (req.launchedBlock kv cacheLen).forwardingTokens[req.forwardingTokens.length]? =
          some kFastPathPlaceholderTokenId := by
        simp only [InferRequest.launchedBlock]
        rw [List.getElem?_append_right (Nat.le_refl _), Nat.sub_self]
        rfl
      rw [if_pos hmain]
      simp only [InferRequest.launchedBlock, hblocks.draftNums_nil hnone, List.nil_append]
  | real kv cacheLen hdecode hreal hfits hcached =>
    refine ⟨fun heos hfull => ?_, fun heos older newer pos hsteps hsingle => ?_⟩
    · simp only [InferRequest.launchedReal, List.length_append, List.length_singleton] at hfull
      omega
    · -- The block is that of the step in flight before, whose token is there.
      simp only [InferRequest.launchedReal] at heos hsteps hsingle
      obtain ⟨inflight, hinflight⟩ : ∃ inflight, req.inflightTasks = [inflight] := by
        have hlength := congrArg List.length hsteps
        simp only [List.length_append, List.length_cons, List.length_nil] at hlength
        exact List.length_eq_one_iff.mp (by omega)
      rw [hinflight, List.singleton_append, List.cons.injEq] at hsteps
      obtain ⟨rfl, -⟩ := hsteps
      have hfull : req.pendingPlaceholderPositions.length = req.inflightTasks.length := by
        rw [hsingle, hinflight]
        rfl
      have howned := hreq.each heos hfull
      obtain ⟨token, hread, htoken⟩ :=
        hblocks.filled heos (by rw [hsingle]; exact List.cons_ne_nil _ _) hfull
      rw [hsingle, List.headD_cons] at hread
      have hbound : pos < req.forwardingTokens.length := (List.getElem?_eq_some_iff.mp hread).1
      have hmain : (req.launchedReal kv cacheLen).forwardingTokens[pos]? = some token := by
        simp only [InferRequest.launchedReal, List.append_assoc]
        rw [List.getElem?_append_left hbound]
        exact hread
      rw [hmain, if_neg (by rw [Option.some.injEq]; exact VocabId.ne_placeholder ⟨token, htoken⟩)]
      simp only [InferRequest.launchedReal, howned, hinflight, List.map_cons, List.map_nil]

omit [DraftTokensApi] in
/-- The front block of a retirement that does not fill the next one is the oldest step's. -/
theorem BlocksOwned.front {oldest : ScheduleTask} {queue : List ScheduleTask}
    (hreq : BlocksOwned req) (hblocks : BlocksFilled req) (heos : req.isEosGenerated = false)
    (hinflight : req.inflightTasks = oldest :: queue)
    (hpending : req.pendingPlaceholderPositions ≠ []) (howns : ¬ req.FillsNextBlock) :
    req.pendingPlaceholderDraftNums.headD 0 = oldest.workload.draftTokenNum := by
  have hdepth := hblocks.depth
  have hatMost := hblocks.atMost
  by_cases hfull : req.pendingPlaceholderPositions.length = req.inflightTasks.length
  · rw [hreq.each heos hfull, hinflight]
    rfl
  · rw [kMaxInflightDepth] at hdepth
    have hsome := List.length_pos_of_ne_nil hpending
    obtain ⟨pos, hpositions⟩ : ∃ pos, req.pendingPlaceholderPositions = [pos] :=
      List.length_eq_one_iff.mp (by omega)
    obtain ⟨older, newer, hsteps⟩ : ∃ older newer, req.inflightTasks = [older, newer] :=
      List.length_eq_two.mp (by omega)
    obtain ⟨rfl, -⟩ := List.cons.inj (hsteps.symm.trans hinflight)
    have hmain : ¬ req.forwardingTokens[pos]? = some kFastPathPlaceholderTokenId := by
      intro hplaceholder
      refine howns ⟨?_, ?_⟩
      · rw [InferRequest.getInflightCount, hsteps]
        exact Nat.lt_succ_self 1
      · rw [hpositions]
        exact hplaceholder
    rw [hreq.single heos older newer pos hsteps hpositions, if_neg hmain]
    rfl

omit [DraftTokensApi] in
/-- The blocks behind the front one are those of the steps behind the oldest one. -/
theorem BlocksOwned.behind (hreq : BlocksOwned req) (hblocks : BlocksFilled req)
    (heos : req.isEosGenerated = false) (hpending : req.pendingPlaceholderPositions ≠ [])
    (hlength : req.pendingPlaceholderPositions.tail.length = req.inflightTasks.tail.length) :
    req.pendingPlaceholderDraftNums.tail =
      req.inflightTasks.tail.map (·.workload.draftTokenNum) := by
  have hatMost := hblocks.atMost
  have hsome := List.length_pos_of_ne_nil hpending
  rw [List.length_tail, List.length_tail] at hlength
  rw [hreq.each heos (by omega), List.map_tail]

theorem BlocksOwned.finish (hreq : BlocksOwned req) (hblocks : BlocksFilled req)
    (horder : PlanOrder req) (h : req.updateAfterInflightTaskFinished = .ok after) :
    BlocksOwned after.resetInflightTask := by
  obtain ⟨hsome, hcase⟩ := InferRequest.updateAfterInflightTaskFinished_cases h
  obtain ⟨oldest, queue, hinflight⟩ := List.exists_cons_of_ne_nil hsome
  by_cases hnone : req.pendingPlaceholderPositions = []
  · have hsame := updateAfterInflightTaskFinished_sameOrder h
    exact .of_none (hsame.blocks hnone) ((hsame.draftNums hnone).trans (hblocks.draftNums_nil hnone))
  have hatMost := hblocks.atMost
  have hdepth := hblocks.depth
  rw [kMaxInflightDepth] at hdepth
  cases hcase with
  | afterEos heos => exact .of_eos heos
  | middleChunk heos hsplit =>
    exact absurd ((isSplitPrefillStep_iff hinflight).mp hsplit)
      (horder.sampled hnone oldest (by rw [hinflight]; exact List.mem_cons_self))
  | plain oldest queue hinflight heos hsplit hpending => exact absurd hpending hnone
  | backfill heos hsplit hpending hfills hroom =>
    obtain ⟨hmany, hplaceholder⟩ := hfills
    rw [InferRequest.getInflightCount] at hmany
    have hone : req.pendingPlaceholderPositions.length = 1 := by
      have hpositive := List.length_pos_of_ne_nil hpending
      by_contra hnot
      obtain ⟨real, hread, hreal⟩ := hblocks.filled heos hpending (by omega)
      rw [hplaceholder, Option.some.injEq] at hread
      exact VocabId.ne_placeholder ⟨real, hreal⟩ hread.symm
    obtain ⟨pos, hpositions⟩ := List.length_eq_one_iff.mp hone
    obtain ⟨older, newer, hsteps⟩ : ∃ older newer, req.inflightTasks = [older, newer] :=
      List.length_eq_two.mp (by omega)
    rw [hpositions, List.headD_cons] at hplaceholder
    have howned := hreq.single heos older newer pos hsteps hpositions
    rw [if_pos hplaceholder] at howned
    refine ⟨fun _ _ => ?_, fun _ older' newer' pos' hsteps' => ?_⟩
    · simp only [InferRequest.resetInflightTask, InferRequest.backfilled,
        InferRequest.planGeneratedTokens, howned, hsteps, List.tail_cons, List.map_cons,
        List.map_nil]
    · simp only [InferRequest.resetInflightTask, InferRequest.backfilled,
        InferRequest.planGeneratedTokens, hsteps, List.tail_cons] at hsteps'
      cases hsteps'
  | own heos hsplit hpending howns haccepted hroom =>
    have hpositionsLength : req.shiftedPositions.length =
        req.pendingPlaceholderPositions.tail.length := by
      rw [InferRequest.shiftedPositions, List.length_map]
    refine ⟨fun _ hfull => ?_, fun _ older newer pos hsteps => ?_⟩
    · exact hreq.behind hblocks heos hpending (hpositionsLength.symm.trans hfull)
    · have hlength := congrArg List.length hsteps
      simp only [InferRequest.resetInflightTask, InferRequest.retiredOwn,
        InferRequest.planGeneratedTokens, List.length_tail, List.length_cons,
        List.length_nil] at hlength
      omega

end Owners

section Progress

variable [DraftTokensApi] {req : InferRequest}

theorem launchWorkload_of_fits (fastPath usePlaceholder : Bool)
    (hplanned : req.planningTask.isEmpty = false)
    (hone : req.planningTask.workload.prefillTokenNum = 0 → req.generatedTokens.length ≤ 1) :
    ∃ pushed, req.startLaunch.launchWorkload fastPath req.planningTask.workload usePlaceholder =
      .ok pushed := by
  obtain ⟨kv, cacheLen, hstart, -⟩ := req.startLaunch_eq
  rw [InferRequest.launchWorkload]
  split
  · exact ⟨_, rfl⟩
  · have hgenerated := hone (by omega)
    have hsteps : req.generatedTokens.length ≤
        req.planningTask.workload.generatedTokenNum +
          req.planningTask.workload.draftTokenNum := by
      simp only [ScheduleTask.isEmpty, ScheduleTaskWorkload.isEmpty, Bool.and_eq_false_iff,
        beq_eq_false_iff_ne] at hplanned
      omega
    rw [InferRequest.launchDecode, hstart]
    dsimp only
    rw [check_bind_of_true _ _ hsteps]
    split
    · exact ⟨_, rfl⟩
    · rw [check_bind_of_true _ _ fun _ => hgenerated]
      exact ⟨_, rfl⟩

theorem launchPlanningTask_of_fits (fastPath : Bool) {usePlaceholder : Bool}
    (hplanned : req.planningTask.isEmpty = false) (hroom : req.getInflightCount < kMaxInflightDepth)
    (huse : usePlaceholder = true → 0 < req.getInflightCount)
    (hone : req.planningTask.workload.prefillTokenNum = 0 → req.generatedTokens.length ≤ 1) :
    ∃ launched, req.launchPlanningTask fastPath usePlaceholder = .ok launched := by
  obtain ⟨pushed, hpushed⟩ := launchWorkload_of_fits fastPath usePlaceholder hplanned hone
  rw [InferRequest.launchPlanningTask, check_bind_of_true _ _ hplanned,
    check_bind_of_true _ _ hroom, check_bind_of_true _ _ huse, hpushed]
  exact ⟨_, rfl⟩

theorem updateAfterInflightTaskFinished_of_fits (hsome : req.inflightTasks ≠ [])
    (hblock : req.isEosGenerated = false → req.isSplitPrefillStep = false →
      req.pendingPlaceholderPositions ≠ [] →
        req.pendingPlaceholderPositions.headD 0 + 1 + req.pendingPlaceholderDraftNums.headD 0 ≤
            req.forwardingTokens.length ∧
          (¬ req.FillsNextBlock →
            req.acceptedTokens.length ≤ req.pendingPlaceholderDraftNums.headD 0 ∧
              ∀ next ∈ req.shiftedPositions.head?, next < req.trimmedTokens.length)) :
    ∃ after, req.updateAfterInflightTaskFinished = .ok after := by
  obtain ⟨oldest, queue, hinflight⟩ := List.exists_cons_of_ne_nil hsome
  cases heos : req.isEosGenerated with
  | true => exact ⟨_, InferRequest.updateAfterInflightTaskFinished_eos req hinflight heos⟩
  | false =>
    cases hsplit : req.isSplitPrefillStep with
    | true => exact ⟨_, InferRequest.updateAfterInflightTaskFinished_split req hinflight heos hsplit⟩
    | false =>
      by_cases hpending : req.pendingPlaceholderPositions = []
      · exact ⟨_, InferRequest.updateAfterInflightTaskFinished_plain req hinflight heos hsplit
          hpending⟩
      · obtain ⟨hroom, hown⟩ := hblock heos hsplit hpending
        by_cases hfills : req.FillsNextBlock
        · exact ⟨_, InferRequest.updateAfterInflightTaskFinished_backfill req hinflight heos hsplit
            hpending (InferRequest.tryRetireBackfillNextPlaceholderBlock_of_fills hfills hroom)⟩
        · obtain ⟨haccepted, hnext⟩ := hown hfills
          refine ⟨req.retiredOwn, ?_⟩
          rw [InferRequest.updateAfterInflightTaskFinished_own req hinflight heos hsplit hpending]
          · exact InferRequest.retireOwnPlaceholderBlockAndShift_of_fit haccepted hroom hnext
          · by_cases hcount : req.getInflightCount ≤ 1
            · exact Or.inl hcount
            · exact Or.inr fun hplaceholder => hfills ⟨by omega, hplaceholder⟩

omit [DraftTokensApi] in
theorem QueueOfBlocks.front_inside (hreq : QueueOfBlocks req)
    (hpending : req.pendingPlaceholderPositions ≠ []) :
    req.pendingPlaceholderPositions.headD 0 + 1 + req.pendingPlaceholderDraftNums.headD 0 ≤
      req.forwardingTokens.length := by
  obtain ⟨pos, positions, hpositions⟩ := List.exists_cons_of_ne_nil hpending
  have hsame := hreq.sameLength
  rw [hpositions, List.length_cons] at hsame
  obtain ⟨num, nums, hnums⟩ := List.exists_cons_of_length_eq_add_one hsame.symm
  rw [hpositions, hnums]
  exact hreq.inside (pos, num) (by
    rw [pendingBlocks, hpositions, hnums]
    exact List.mem_cons_self)

omit [DraftTokensApi] in
theorem QueueOfBlocks.next_inside (hreq : QueueOfBlocks req)
    (hpending : req.pendingPlaceholderPositions ≠ [])
    (haccepted : req.acceptedTokens.length ≤ req.pendingPlaceholderDraftNums.headD 0) :
    ∀ next ∈ req.shiftedPositions.head?, next < req.trimmedTokens.length := by
  intro shifted hshifted
  have hroom := hreq.front_inside hpending
  have htrim := trimmedTokens_length haccepted hroom
  obtain ⟨pos, positions, hpositions⟩ := List.exists_cons_of_ne_nil hpending
  have hsame := hreq.sameLength
  rw [hpositions, List.length_cons] at hsame
  obtain ⟨num, nums, hnums⟩ := List.exists_cons_of_length_eq_add_one hsame.symm
  cases positions with
  | nil =>
    rw [InferRequest.shiftedPositions, hpositions] at hshifted
    cases hshifted
  | cons next positions =>
    rw [hnums, List.length_cons, List.length_cons] at hsame
    obtain ⟨nextNum, nextNums, rfl⟩ :=
      List.exists_cons_of_length_eq_add_one (show nums.length = positions.length + 1 by omega)
    have hordered := hreq.ordered
    have hinside := hreq.inside (next, nextNum) (by
      rw [pendingBlocks, hpositions, hnums]
      exact List.mem_cons_of_mem _ List.mem_cons_self)
    rw [pendingBlocks, hpositions, hnums] at hordered
    have hbehind : pos + 1 + num ≤ next :=
      (List.pairwise_cons.mp hordered).1 (next, nextNum) List.mem_cons_self
    have hlater : (pos :: next :: positions).headD 0 < next := by
      rw [List.headD_cons]
      omega
    rw [InferRequest.shiftedPositions, hpositions, List.tail_cons, List.map_cons, List.head?_cons,
      if_pos hlater, Option.mem_def, Option.some.injEq] at hshifted
    have hrejected : req.rejectedNum = num - req.acceptedTokens.length := by
      rw [InferRequest.rejectedNum, hnums]
      rfl
    simp only at hinside
    omega

end Progress

section Run

variable [DraftTokensApi] {fastPath : Bool} {maxDepth : Nat} {s t : PipelineState}
  {op : PipelineOp}

/-- What every operation keeps, and what lets every operation through. -/
structure CheckInvariant (s : PipelineState) : Prop extends QueueInvariant SampledResult s where
  owned : BlocksOwned s.req
  waits : OneTokenWaits s.req

omit [DraftTokensApi] in
/-- Behind a step in flight with room for one more, the prompt is launched and its last chunk
returns a token. -/
theorem isSplitPrefillStep_of_decode {req : InferRequest} (horder : PlanOrder req)
    (hplanned : req.planningTask.isEmpty = false)
    (hroom : req.inflightTasks.length < kMaxInflightDepth)
    (hdecode : req.planningTask.workload.prefillTokenNum = 0) :
    req.isSplitPrefillStep = false := by
  by_cases hidle : req.inflightTasks = []
  · rw [InferRequest.isSplitPrefillStep, hidle]
  · obtain ⟨inflight, hinflight⟩ := exists_inflight_of_room hidle hroom
    have hnewest := horder.newest (horder.decode hplanned hdecode) hdecode inflight (by
      rw [hinflight]
      rfl)
    exact Bool.eq_false_iff.mpr fun hsplit =>
      hnewest ((isSplitPrefillStep_iff hinflight).mp hsplit)

theorem OneTokenWaits.launch {req after : InferRequest} {usePlaceholder : Bool}
    (hreq : OneTokenWaits req)
    (h : req.launchPlanningTask fastPath usePlaceholder = .ok after) : OneTokenWaits after := by
  obtain ⟨hkeeps, -, task, hinflight⟩ := InferRequest.launchPlanningTask_keeps h
  intro hwhole
  rw [hkeeps.generated]
  refine hreq ?_
  cases hidle : req.inflightTasks with
  | nil => rw [InferRequest.isSplitPrefillStep, hidle]
  | cons oldest queue =>
    rw [← hwhole]
    refine (isSplitPrefillStep_congr hkeeps.prefilling ?_).symm
    rw [hinflight, hidle]
    rfl

theorem OneTokenWaits.finish {req after : InferRequest} (hreq : OneTokenWaits req)
    (h : req.updateAfterInflightTaskFinished = .ok after) : after.generatedTokens.length ≤ 1 := by
  obtain ⟨-, hcase⟩ := InferRequest.updateAfterInflightTaskFinished_cases h
  cases hcase with
  | afterEos heos => exact Nat.zero_le 1
  | middleChunk heos hsplit =>
    rw [(InferRequest.refreshWorkloads_tokens _).2.2.1]
    exact Nat.zero_le 1
  | plain oldest queue hinflight heos hsplit hpending =>
    rw [(InferRequest.refreshWorkloads_tokens _).2.2.1, InferRequest.retireWithoutPlaceholder]
    dsimp only
    split <;> exact hreq hsplit
  | backfill heos hsplit hpending hfills hroom => exact Nat.zero_le 1
  | own heos hsplit hpending howns haccepted hroom => exact Nat.zero_le 1

theorem CheckInvariant.progress (fastPath : Bool) (hdepth : maxDepth ≤ kMaxInflightDepth)
    (hs : CheckInvariant s) (hop : OpScheduled maxDepth s op) :
    ∃ t, pipelineStep fastPath maxDepth s op = .ok t := by
  obtain ⟨henabled, hpermitted⟩ := hop
  cases op with
  | restart cached =>
    have hcached : cached ≤ s.req.outputTokens.length := henabled
    rw [pipelineStep, check_bind_of_true _ _ hcached]
    exact ⟨_, rfl⟩
  | generateDrafts drafts => exact ⟨_, rfl⟩
  | plan workload =>
    have hplan := InferRequest.setPlanningTask_of_empty (s.req.setPlanningWorkload workload)
      henabled.1 henabled.2 hs.order.total
    rw [pipelineStep, hplan]
    exact ⟨_, rfl⟩
  | launch =>
    obtain ⟨hrunning, hplanned, hcapacity⟩ := henabled
    have htask : s.req.planningTask.isEmpty = false := by
      simpa [InferRequest.hasPlanningTask] using hplanned
    have hroom : s.req.getInflightCount < kMaxInflightDepth :=
      Nat.lt_of_lt_of_le (of_decide_eq_true hcapacity) hdepth
    have hbehind : s.req.hasInflightTask = true → 0 < s.req.getInflightCount := of_decide_eq_true
    obtain ⟨launched, hlaunched⟩ := launchPlanningTask_of_fits fastPath htask hroom hbehind
      fun hdecode => hs.waits (isSplitPrefillStep_of_decode hs.order htask hroom hdecode)
    rw [pipelineStep, launch, check_bind_of_true _ _ ⟨hrunning, hplanned, hcapacity⟩, hlaunched]
    exact ⟨_, rfl⟩
  | deliver result =>
    have holdest : s.delivered = none ∧ s.req.inflightTasks ≠ [] := henabled
    rw [pipelineStep, check_bind_of_true _ _ holdest]
    exact ⟨_, rfl⟩
  | finish =>
    obtain ⟨result, hdelivered⟩ := Option.isSome_iff_exists.mp henabled
    obtain ⟨hsome, -, haccepted, hfits⟩ := hs.arrived result hdelivered
    obtain ⟨oldest, queue, hinflight⟩ := List.exists_cons_of_ne_nil hsome
    obtain ⟨updated, hupdated⟩ := updateAfterInflightTaskFinished_of_fits hsome
      fun heos hsplit hpending => by
        refine ⟨hs.blocks.front_inside hpending, fun howns => ?_⟩
        have hnum := hs.owned.front hs.blocks heos hinflight hpending howns
        obtain ⟨-, -, haccepts⟩ := hfits hsplit oldest (by rw [hinflight]; rfl)
        have hfit : s.req.acceptedTokens.length ≤ s.req.pendingPlaceholderDraftNums.headD 0 := by
          rw [hnum, haccepted]
          exact haccepts
        exact ⟨hfit, hs.blocks.next_inside hpending hfit⟩
    rw [pipelineStep, hdelivered]
    dsimp only
    rw [finishOldest, hupdated]
    exact ⟨_, rfl⟩

theorem CheckInvariant.step (hs : CheckInvariant s) (hop : OpPermitted SampledResult s op)
    (h : pipelineStep fastPath maxDepth s op = .ok t) : CheckInvariant t := by
  refine ⟨hs.toQueueInvariant.step hop (hs.findsToken h) h, ?_, ?_⟩
  · cases op with
    | restart cached =>
      obtain ⟨-, h⟩ := check_bind_ok h
      obtain rfl := Except.ok.inj h
      exact .of_none rfl rfl
    | generateDrafts drafts =>
      obtain rfl := Except.ok.inj h
      exact hs.owned.congr rfl rfl rfl rfl rfl
    | plan workload =>
      obtain ⟨planned, hplan, h⟩ := bind_ok h
      obtain rfl := Except.ok.inj h
      obtain ⟨-, -, rfl⟩ := plan_ok hplan
      exact hs.owned.congr rfl rfl rfl rfl rfl
    | launch =>
      obtain ⟨launched, hlaunch, h⟩ := bind_ok h
      obtain rfl := Except.ok.inj h
      exact hs.owned.launch hs.blocks hs.order (launch_ok hlaunch).2.2
    | deliver result =>
      obtain ⟨-, h⟩ := check_bind_ok h
      obtain rfl := Except.ok.inj h
      exact hs.owned.congr rfl rfl rfl rfl rfl
    | finish =>
      rw [pipelineStep] at h
      split at h
      · cases h
      · obtain ⟨updated, hupdate, h⟩ := bind_ok h
        obtain rfl := Except.ok.inj h
        exact hs.owned.finish hs.blocks hs.order hupdate
  · cases op with
    | restart cached =>
      obtain ⟨-, h⟩ := check_bind_ok h
      obtain rfl := Except.ok.inj h
      exact fun _ => Nat.zero_le 1
    | generateDrafts drafts =>
      obtain rfl := Except.ok.inj h
      exact hs.waits
    | plan workload =>
      obtain ⟨planned, hplan, h⟩ := bind_ok h
      obtain rfl := Except.ok.inj h
      obtain ⟨-, -, rfl⟩ := plan_ok hplan
      exact hs.waits
    | launch =>
      obtain ⟨launched, hlaunch, h⟩ := bind_ok h
      obtain rfl := Except.ok.inj h
      exact hs.waits.launch (launch_ok hlaunch).2.2
    | deliver result =>
      obtain ⟨⟨-, hsome⟩, h⟩ := check_bind_ok h
      obtain rfl := Except.ok.inj h
      intro hwhole
      obtain ⟨oldest, queue, hinflight⟩ := List.exists_cons_of_ne_nil hsome
      obtain ⟨hone, -⟩ := hop hwhole oldest (by rw [hinflight]; rfl)
      exact Nat.le_of_eq hone
    | finish =>
      rw [pipelineStep] at h
      split at h
      · cases h
      · obtain ⟨updated, hupdate, h⟩ := bind_ok h
        obtain rfl := Except.ok.inj h
        have hone : updated.generatedTokens.length ≤ 1 := hs.waits.finish hupdate
        exact fun _ => hone

theorem CheckInvariant.of_fresh (req : InferRequest) {cached : Nat}
    (hcached : cached ≤ req.outputTokens.length) :
    CheckInvariant { req := admitted req cached } where
  toQueueInvariant := .of_fresh SampledResult req hcached
  owned := .of_none rfl rfl
  waits := fun _ => Nat.zero_le 1

end Run

/-- The token of a block arrives before its retirement, so the next step is launched with it. -/
def checkedSampleRun : List PipelineOp :=
  queueSampleRun ++ [.deliver { generatedTokens := [21], acceptedTokens := [40] },
    .plan { generatedTokenNum := 1, draftTokenNum := 1 }, .launch, .finish,
    .deliver { generatedTokens := [22] }, .finish]

end KsanaBuildAhead.Engine
