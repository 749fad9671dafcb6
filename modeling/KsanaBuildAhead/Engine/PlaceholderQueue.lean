import KsanaBuildAhead.Engine.Interleaving

/-!
# The queue of placeholder blocks

Whatever the order of the operations, the blocks lie in the sequence one behind the
other and are no more than the steps in flight. The offset a launch puts into its
snapshot is the latest block of the queue, which is not always the launch's own.
-/
namespace KsanaBuildAhead.Engine

open KsanaBuildAhead.Runtime KsanaBuildAhead.Lib.ListEdit KsanaBuildAhead.Lib.Execution

/-- The positions of the pending blocks and their numbers of draft slots. -/
def pendingBlocks (req : InferRequest) : List (Nat × Nat) :=
  req.pendingPlaceholderPositions.zip req.pendingPlaceholderDraftNums

/-- The two queues and the sequence agree, and no block is without a step in flight. -/
structure QueueOfBlocks (req : InferRequest) : Prop where
  sameLength : req.pendingPlaceholderPositions.length = req.pendingPlaceholderDraftNums.length
  atMost : req.pendingPlaceholderPositions.length ≤ req.inflightTasks.length
  depth : req.inflightTasks.length ≤ kMaxInflightDepth
  idle : req.inflightTasks = [] → req.pendingPlaceholderPositions = []
  ordered : (pendingBlocks req).Pairwise fun block next => block.1 + 1 + block.2 ≤ next.1
  inside : ∀ block ∈ pendingBlocks req, block.1 + 1 + block.2 ≤ req.forwardingTokens.length

/-- The snapshot of a launch has an offset only when the launch reserved a block, and then
the block ends the tokens of the snapshot. -/
def OffsetNamesOwnBlock (req launched : InferRequest) : Prop :=
  let snap := InferRequestSerializationSnapshot.capture {} launched req.hasInflightTask
  if launched.pendingPlaceholderPositions.length = req.pendingPlaceholderPositions.length then
    snap.placeholderOffsetInSnapshot = none
  else ∃ offset, snap.placeholderOffsetInSnapshot = some offset ∧
    snap.forwardingTokens.drop offset =
      List.replicate (1 + snap.forwardingTokensDraftNum) kFastPathPlaceholderTokenId

/-- A decode step is launched while a block is pending and a generated token has arrived
that waits for its retirement. -/
def LaunchesOnDeliveredToken (req : InferRequest) : Prop :=
  req.planningTask.workload.prefillTokenNum = 0 ∧ req.generatedTokens ≠ [] ∧
    req.pendingPlaceholderPositions ≠ []

instance (req : InferRequest) : Decidable (LaunchesOnDeliveredToken req) :=
  inferInstanceAs (Decidable (_ ∧ _ ∧ _))

/-- A launch from here names its own block exactly when it is not one on a delivered token. -/
def LaunchOffsets [DraftTokensApi] (s : PipelineState) : Prop :=
  ∀ t, pipelineStep true kMaxInflightDepth s .launch = .ok t →
    (OffsetNamesOwnBlock s.req t.req ↔ ¬ LaunchesOnDeliveredToken s.req)

/-- The front block of a full queue is filled, so that the retirement of its step does not
take it for the block of the next one. -/
structure BlocksFilled (req : InferRequest) : Prop extends QueueOfBlocks req where
  filled : req.isEosGenerated = false → req.pendingPlaceholderPositions ≠ [] →
    req.pendingPlaceholderPositions.length = req.inflightTasks.length →
      ∃ token, req.forwardingTokens[req.pendingPlaceholderPositions.headD 0]? = some token ∧
        0 ≤ token

section Queue

variable [DraftTokensApi] {req after : InferRequest}

omit [DraftTokensApi] in
theorem QueueOfBlocks.congr (hreq : QueueOfBlocks req)
    (hpositions : after.pendingPlaceholderPositions = req.pendingPlaceholderPositions)
    (hdraftNums : after.pendingPlaceholderDraftNums = req.pendingPlaceholderDraftNums)
    (hinflight : after.inflightTasks = req.inflightTasks)
    (hlength : after.forwardingTokens.length = req.forwardingTokens.length) :
    QueueOfBlocks after where
  sameLength := by
    rw [hpositions, hdraftNums]
    exact hreq.sameLength
  atMost := by
    rw [hpositions, hinflight]
    exact hreq.atMost
  depth := by
    rw [hinflight]
    exact hreq.depth
  idle := by
    rw [hpositions, hinflight]
    exact hreq.idle
  ordered := by
    rw [pendingBlocks, hpositions, hdraftNums]
    exact hreq.ordered
  inside := by
    rw [pendingBlocks, hpositions, hdraftNums, hlength]
    exact hreq.inside

omit [DraftTokensApi] in
theorem BlocksFilled.of_none (hpositions : req.pendingPlaceholderPositions = [])
    (hdraftNums : req.pendingPlaceholderDraftNums = [])
    (hdepth : req.inflightTasks.length ≤ kMaxInflightDepth) : BlocksFilled req where
  sameLength := by rw [hpositions, hdraftNums]
  atMost := by
    rw [hpositions]
    exact Nat.zero_le _
  depth := hdepth
  idle := fun _ => hpositions
  ordered := by
    rw [pendingBlocks, hpositions]
    exact List.Pairwise.nil
  inside := by
    rw [pendingBlocks, hpositions]
    exact fun block hmem => absurd hmem List.not_mem_nil
  filled := fun _ hpending => absurd hpositions hpending

omit [DraftTokensApi] in
theorem QueueOfBlocks.draftNums_nil (hreq : QueueOfBlocks req)
    (hpositions : req.pendingPlaceholderPositions = []) : req.pendingPlaceholderDraftNums = [] := by
  have hlength := hreq.sameLength
  rw [hpositions] at hlength
  exact List.eq_nil_of_length_eq_zero hlength.symm

theorem BlocksFilled.launch {fastPath usePlaceholder : Bool} (hreq : BlocksFilled req)
    (horder : PlanOrder req)
    (h : req.launchPlanningTask fastPath usePlaceholder = .ok after) : BlocksFilled after := by
  obtain ⟨hplanned, hroom, huse, hcase⟩ := InferRequest.launchPlanningTask_cases h
  cases hcase with
  | chunk kv cacheLen hprefill hcached =>
    have hnone := horder.noBlock (Or.inr hprefill)
    refine .of_none hnone (hreq.draftNums_nil hnone) ?_
    simp only [InferRequest.launchedChunk, List.length_append, List.length_singleton]
    exact hroom
  | block kv cacheLen hdecode hplaceholder hcached =>
    obtain ⟨inflight, hinflight⟩ := exists_inflight_of_room (huse hplaceholder.1) hroom
    have hatMost := hreq.atMost
    rw [hinflight, List.length_singleton] at hatMost
    have hzip : pendingBlocks (req.launchedBlock kv cacheLen) = pendingBlocks req ++
        [(req.forwardingTokens.length, req.planningTask.workload.draftTokenNum)] := by
      simp only [pendingBlocks, InferRequest.launchedBlock]
      rw [List.zip_append hreq.sameLength]
      rfl
    have hlength : (req.launchedBlock kv cacheLen).forwardingTokens.length =
        req.forwardingTokens.length + (req.planningTask.workload.draftTokenNum + 1) := by
      simp [InferRequest.launchedBlock]
    exact {
      sameLength := by
        have hsame := hreq.sameLength
        simp only [InferRequest.launchedBlock, List.length_append, List.length_singleton]
        omega
      atMost := by
        simp only [InferRequest.launchedBlock, hinflight, List.length_append,
          List.length_singleton]
        omega
      depth := by
        simp only [InferRequest.launchedBlock, hinflight]
        exact Nat.le_refl 2
      idle := fun hidle => by
        simp only [InferRequest.launchedBlock, hinflight] at hidle
        cases hidle
      ordered := by
        rw [hzip, List.pairwise_append]
        refine ⟨hreq.ordered, List.pairwise_singleton _ _, ?_⟩
        intro block hold next hnext
        obtain rfl := List.mem_singleton.mp hnext
        exact hreq.inside block hold
      inside := by
        rw [hzip, hlength]
        intro block hmem
        rcases List.mem_append.mp hmem with hold | hnew
        · have hinside := hreq.inside block hold
          omega
        · obtain rfl := List.mem_singleton.mp hnew
          show req.forwardingTokens.length + 1 + req.planningTask.workload.draftTokenNum ≤ _
          omega
      filled := by
        intro heos _ hfull
        simp only [InferRequest.launchedBlock, hinflight, List.length_append, List.length_cons,
          List.length_nil] at hfull
        obtain ⟨front, hfront⟩ := List.length_eq_one_iff.mp (show
          req.pendingPlaceholderPositions.length = 1 by omega)
        obtain ⟨token, hread, htoken⟩ := hreq.filled heos (by rw [hfront]; exact List.cons_ne_nil _ _)
          (by rw [hfront, hinflight]; rfl)
        rw [hfront, List.headD_cons] at hread
        refine ⟨token, ?_, htoken⟩
        have hbound : front < req.forwardingTokens.length :=
          (List.getElem?_eq_some_iff.mp hread).1
        simp only [InferRequest.launchedBlock, hfront, List.cons_append, List.headD_cons]
        rw [List.getElem?_append_left hbound]
        exact hread }
  | real kv cacheLen hdecode hreal hfits hcached =>
    have hatMost := hreq.atMost
    exact {
      sameLength := hreq.sameLength
      atMost := by
        simp only [InferRequest.launchedReal, List.length_append, List.length_singleton]
        omega
      depth := by
        simp only [InferRequest.launchedReal, List.length_append, List.length_singleton]
        exact hroom
      idle := fun hidle => by
        simp [InferRequest.launchedReal] at hidle
      ordered := hreq.ordered
      inside := by
        intro block hmem
        have hinside := hreq.inside block hmem
        simp only [InferRequest.launchedReal, List.length_append]
        omega
      filled := by
        intro _ _ hfull
        simp only [InferRequest.launchedReal, List.length_append, List.length_singleton] at hfull
        omega }

omit [DraftTokensApi] in
theorem trimmedTokens_length
    (haccepted : req.acceptedTokens.length ≤ req.pendingPlaceholderDraftNums.headD 0)
    (hroom : req.pendingPlaceholderPositions.headD 0 + 1 + req.pendingPlaceholderDraftNums.headD 0 ≤
      req.forwardingTokens.length) :
    req.trimmedTokens.length = req.forwardingTokens.length - req.rejectedNum := by
  rw [InferRequest.trimmedTokens, InferRequest.rejectedNum]
  rw [eraseRange_length _ (by omega) (by rw [overwrite_length]; exact hroom), overwrite_length]
  omega

omit [DraftTokensApi] in
theorem shiftedPositions_behind {pos : Nat} {nexts : List Nat}
    (hpositions : req.pendingPlaceholderPositions = pos :: nexts)
    (hbehind : ∀ next ∈ nexts, pos < next) :
    req.shiftedPositions = nexts.map fun next => next - req.rejectedNum := by
  rw [InferRequest.shiftedPositions, hpositions]
  refine List.map_congr_left fun next hmem => ?_
  rw [List.headD_cons, if_pos (hbehind next hmem)]

theorem refilledTokens_length : req.refilledTokens.length = req.trimmedTokens.length := by
  rw [InferRequest.refilledTokens]
  split
  · rw [InferRequest.fillPlaceholderBlock, overwrite_length]
  · rfl

theorem backfilled_length (req : InferRequest) :
    req.backfilled.forwardingTokens.length = req.forwardingTokens.length := by
  simp only [InferRequest.backfilled, InferRequest.planGeneratedTokens]
  split
  · rfl
  · rw [InferRequest.fillPlaceholderBlock, overwrite_length]

/-- The oldest step gives up its block: the one behind it moves up and is filled. -/
theorem BlocksFilled.retiredOwn (hreq : BlocksFilled req)
    (htoken : req.retiredOwn.isEosGenerated = false →
      ∃ token, req.generatedTokens = [token] ∧ 0 ≤ token)
    (hpending : req.pendingPlaceholderPositions ≠ [])
    (haccepted : req.acceptedTokens.length ≤ req.pendingPlaceholderDraftNums.headD 0)
    (hroom : req.pendingPlaceholderPositions.headD 0 + 1 + req.pendingPlaceholderDraftNums.headD 0 ≤
      req.forwardingTokens.length) : BlocksFilled req.retiredOwn.resetInflightTask := by
  have hsame := hreq.sameLength
  have hatMost := hreq.atMost
  have hdepth := hreq.depth
  rw [kMaxInflightDepth] at hdepth
  have htrim := trimmedTokens_length haccepted hroom
  obtain ⟨front, rest, hpositions⟩ := List.exists_cons_of_ne_nil hpending
  cases rest with
  | nil =>
    -- The only block of the queue is the retiring step's own.
    obtain ⟨draftNum, hdraftNums⟩ : ∃ draftNum, req.pendingPlaceholderDraftNums = [draftNum] :=
      List.length_eq_one_iff.mp (by rw [← hsame, hpositions]; rfl)
    refine .of_none ?_ ?_ ?_
    · simp [InferRequest.resetInflightTask, InferRequest.retiredOwn, InferRequest.shiftedPositions,
        InferRequest.planGeneratedTokens, hpositions]
    · simp [InferRequest.resetInflightTask, InferRequest.retiredOwn,
        InferRequest.planGeneratedTokens, hdraftNums]
    · simp only [InferRequest.resetInflightTask, InferRequest.retiredOwn,
        InferRequest.planGeneratedTokens, List.length_tail]
      exact Nat.le_trans (Nat.sub_le _ 1) hreq.depth
  | cons next rest =>
    rw [hpositions, List.length_cons, List.length_cons] at hsame hatMost
    obtain rfl : rest = [] := List.eq_nil_of_length_eq_zero (by omega)
    obtain ⟨draftNum, nextDraftNum, hdraftNums⟩ :
        ∃ draftNum nextDraftNum, req.pendingPlaceholderDraftNums = [draftNum, nextDraftNum] :=
      List.length_eq_two.mp hsame.symm
    obtain ⟨oldest, newest, hinflight⟩ :
        ∃ oldest newest, req.inflightTasks = [oldest, newest] :=
      List.length_eq_two.mp (by rw [List.length_nil] at hatMost; omega)
    have hordered := hreq.ordered
    have hinside := hreq.inside (next, nextDraftNum)
      (by rw [pendingBlocks, hpositions, hdraftNums]; exact List.mem_cons_of_mem _ List.mem_cons_self)
    rw [pendingBlocks, hpositions, hdraftNums] at hordered
    have hbehind : front + 1 + draftNum ≤ next :=
      (List.pairwise_cons.mp hordered).1 (next, nextDraftNum) List.mem_cons_self
    rw [hpositions, hdraftNums] at hroom
    rw [hdraftNums] at haccepted
    simp only [List.headD_cons] at hroom haccepted
    have hrejected : req.rejectedNum = draftNum - req.acceptedTokens.length := by
      rw [InferRequest.rejectedNum, hdraftNums]
      rfl
    have hshifted : req.shiftedPositions = [next - req.rejectedNum] :=
      shiftedPositions_behind hpositions fun later hmem => by
        obtain rfl := List.mem_singleton.mp hmem
        omega
    have hfilled : ∀ token, req.generatedTokens = [token] → req.refilledTokens =
        InferRequest.fillPlaceholderBlock req.trimmedTokens (next - req.rejectedNum) nextDraftNum
          token (DraftTokensApi.getDraftTokens req.draftTokens) := by
      intro token hgenerated
      rw [InferRequest.refilledTokens, hshifted, hgenerated, hdraftNums]
      rfl
    have hlength : req.refilledTokens.length = req.forwardingTokens.length - req.rejectedNum := by
      rw [refilledTokens_length, htrim]
    refine ⟨⟨?_, ?_, ?_, ?_, ?_, ?_⟩, ?_⟩ <;>
      simp only [InferRequest.resetInflightTask, InferRequest.retiredOwn,
        InferRequest.planGeneratedTokens, pendingBlocks, hshifted, hdraftNums, hinflight,
        List.tail_cons, List.length_cons, List.length_nil, List.zip_cons_cons, List.zip_nil_right]
    · exact Nat.le_refl _
    · decide
    · intro hidle
      cases hidle
    · exact List.pairwise_singleton _ _
    · intro block hmem
      obtain rfl := List.mem_singleton.mp hmem
      show next - req.rejectedNum + 1 + nextDraftNum ≤ _
      rw [hlength]
      simp only at hinside
      omega
    · intro hrunning _ _
      obtain ⟨token, hgenerated, hnonneg⟩ := htoken hrunning
      refine ⟨token, ?_, hnonneg⟩
      simp only at hinside
      rw [hfilled token hgenerated, List.headD_cons, InferRequest.fillPlaceholderBlock]
      exact overwrite_getElem?_start _ _ _ (by rw [htrim]; omega)

theorem BlocksFilled.backfilled (hreq : BlocksFilled req)
    (htoken : req.backfilled.isEosGenerated = false →
      ∃ token, req.generatedTokens = [token] ∧ 0 ≤ token)
    (heos : req.isEosGenerated = false)
    (hpending : req.pendingPlaceholderPositions ≠ []) (hfills : req.FillsNextBlock)
    (hroom : req.pendingPlaceholderPositions.headD 0 + 1 + req.pendingPlaceholderDraftNums.headD 0 ≤
      req.forwardingTokens.length) : BlocksFilled req.backfilled.resetInflightTask := by
  obtain ⟨hmany, hplaceholder⟩ := hfills
  have hdepth := hreq.depth
  have hatMost := hreq.atMost
  rw [kMaxInflightDepth] at hdepth
  rw [InferRequest.getInflightCount] at hmany
  have hone : req.pendingPlaceholderPositions.length = 1 := by
    have hsome := List.length_pos_of_ne_nil hpending
    by_contra hnot
    obtain ⟨real, hread, hreal⟩ := hreq.filled heos hpending (by omega)
    rw [hplaceholder, Option.some.injEq] at hread
    rw [← hread] at hreal
    exact absurd hreal (by decide)
  have hfilled : ∀ token, req.generatedTokens = [token] → req.backfilled.forwardingTokens =
      InferRequest.fillPlaceholderBlock req.forwardingTokens
        (req.pendingPlaceholderPositions.headD 0) (req.pendingPlaceholderDraftNums.headD 0) token
        (DraftTokensApi.getDraftTokens req.draftTokens) := by
    intro token hgenerated
    simp only [InferRequest.backfilled, InferRequest.planGeneratedTokens, hgenerated]
  have hlength := backfilled_length req
  exact {
    sameLength := hreq.sameLength
    atMost := by
      show req.pendingPlaceholderPositions.length ≤ req.inflightTasks.tail.length
      rw [List.length_tail]
      omega
    depth := by
      show req.inflightTasks.tail.length ≤ 2
      rw [List.length_tail]
      omega
    idle := by
      intro hidle
      have htail : req.inflightTasks.tail.length = 0 := List.length_eq_zero_iff.mpr hidle
      rw [List.length_tail] at htail
      omega
    ordered := hreq.ordered
    inside := by
      intro block hmem
      show _ ≤ req.backfilled.forwardingTokens.length
      rw [hlength]
      exact hreq.inside block hmem
    filled := by
      intro hrunning _ _
      obtain ⟨token, hgenerated, hnonneg⟩ := htoken hrunning
      refine ⟨token, ?_, hnonneg⟩
      show req.backfilled.forwardingTokens[req.pendingPlaceholderPositions.headD 0]? = _
      rw [hfilled token hgenerated, InferRequest.fillPlaceholderBlock]
      exact overwrite_getElem?_start _ _ _ (by omega) }

theorem BlocksFilled.finish (hreq : BlocksFilled req) (horder : PlanOrder req)
    (htoken : req.isSplitPrefillStep = false → after.isEosGenerated = false →
      ∃ token, req.generatedTokens = [token] ∧ 0 ≤ token)
    (h : req.updateAfterInflightTaskFinished = .ok after) :
    BlocksFilled after.resetInflightTask := by
  obtain ⟨hsome, hcase⟩ := InferRequest.updateAfterInflightTaskFinished_cases h
  have hdepth : req.inflightTasks.tail.length ≤ kMaxInflightDepth := by
    rw [List.length_tail]
    exact Nat.le_trans (Nat.sub_le _ 1) hreq.depth
  by_cases hnone : req.pendingPlaceholderPositions = []
  · have hsame := updateAfterInflightTaskFinished_sameOrder h
    refine .of_none (hsame.blocks hnone) ?_ ?_
    · exact (hsame.draftNums hnone).trans (hreq.draftNums_nil hnone)
    · rw [InferRequest.resetInflightTask, hsame.inflight]
      exact hdepth
  cases hcase with
  | afterEos heos =>
    have hzip : (pendingBlocks req).tail =
        pendingBlocks req.discardStepAfterEos.resetInflightTask := by
      simp only [pendingBlocks, InferRequest.resetInflightTask, InferRequest.discardStepAfterEos,
        if_neg hnone]
      rw [List.zip, List.tail_zipWith]
    have hlength := hreq.sameLength
    have hatMost := hreq.atMost
    exact {
      sameLength := by
        simp only [InferRequest.resetInflightTask, InferRequest.discardStepAfterEos,
          if_neg hnone, List.length_tail]
        omega
      atMost := by
        simp only [InferRequest.resetInflightTask, InferRequest.discardStepAfterEos,
          List.length_tail]
        omega
      depth := hdepth
      idle := by
        intro hidle
        have htail : req.inflightTasks.tail.length = 0 := List.length_eq_zero_iff.mpr hidle
        rw [List.length_tail] at htail
        refine List.eq_nil_of_length_eq_zero ?_
        simp only [InferRequest.resetInflightTask, InferRequest.discardStepAfterEos,
          List.length_tail]
        omega
      ordered := by
        rw [← hzip]
        exact hreq.ordered.sublist (List.tail_sublist _)
      inside := by
        rw [← hzip]
        exact fun block hmem => hreq.inside block (List.mem_of_mem_tail hmem)
      filled := fun hrunning => by
        rw [InferRequest.resetInflightTask, InferRequest.discardStepAfterEos, heos] at hrunning
        cases hrunning }
  | middleChunk heos hsplit =>
    obtain ⟨oldest, queue, hinflight⟩ := List.exists_cons_of_ne_nil hsome
    exact absurd ((isSplitPrefillStep_iff hinflight).mp hsplit)
      (horder.sampled hnone oldest (by rw [hinflight]; exact List.mem_cons_self))
  | plain oldest queue hinflight heos hsplit hpending => exact absurd hpending hnone
  | backfill heos hsplit hpending hfills hroom =>
    exact hreq.backfilled (htoken hsplit) heos hpending hfills hroom
  | own heos hsplit hpending howns haccepted hroom =>
    exact hreq.retiredOwn (htoken hsplit) hpending haccepted hroom

end Queue

section Run

variable [DraftTokensApi] {s t : PipelineState} {op : PipelineOp} {ops : List PipelineOp}

/-- What every operation keeps. -/
structure QueueInvariant (Fits : ScheduleTask → StepResult → Prop) (s : PipelineState) : Prop where
  blocks : BlocksFilled s.req
  order : PlanOrder s.req
  arrived : ResultArrived Fits s

/-- A retirement that leaves the request running finds the token for the next block. -/
def FindsToken (s t : PipelineState) (op : PipelineOp) : Prop :=
  op = .finish → s.req.isSplitPrefillStep = false → t.req.isEosGenerated = false →
    ∃ token, s.req.generatedTokens = [token] ∧ 0 ≤ token

theorem QueueInvariant.step {Fits : ScheduleTask → StepResult → Prop} {fastPath : Bool}
    {maxDepth : Nat} (hs : QueueInvariant Fits s) (hop : OpPermitted Fits s op)
    (htoken : FindsToken s t op) (h : pipelineStep fastPath maxDepth s op = .ok t) :
    QueueInvariant Fits t := by
  refine ⟨?_, pipelineStep_order hs.order hop h, pipelineStep_arrived hs.arrived hop h⟩
  cases op with
  | restart cached =>
    obtain ⟨-, h⟩ := check_bind_ok h
    obtain rfl := Except.ok.inj h
    exact .of_none rfl rfl (Nat.zero_le _)
  | generateDrafts drafts =>
    obtain rfl := Except.ok.inj h
    exact { toQueueOfBlocks := hs.blocks.congr rfl rfl rfl rfl, filled := hs.blocks.filled }
  | plan workload =>
    obtain ⟨planned, hplan, h⟩ := bind_ok h
    obtain rfl := Except.ok.inj h
    obtain ⟨-, -, rfl⟩ := plan_ok hplan
    exact { toQueueOfBlocks := hs.blocks.congr rfl rfl rfl rfl, filled := hs.blocks.filled }
  | launch =>
    obtain ⟨launched, hlaunch, h⟩ := bind_ok h
    obtain rfl := Except.ok.inj h
    exact hs.blocks.launch hs.order (launch_ok hlaunch).2.2
  | deliver result =>
    obtain ⟨-, h⟩ := check_bind_ok h
    obtain rfl := Except.ok.inj h
    exact { toQueueOfBlocks := hs.blocks.congr rfl rfl rfl rfl, filled := hs.blocks.filled }
  | finish =>
    rw [pipelineStep] at h
    split at h
    · cases h
    · obtain ⟨updated, hupdate, h⟩ := bind_ok h
      obtain rfl := Except.ok.inj h
      exact hs.blocks.finish hs.order (htoken rfl) hupdate

/-- A step that has returned its one token leaves it for the retirement. -/
theorem QueueInvariant.findsToken {fastPath : Bool} {maxDepth : Nat}
    (hs : QueueInvariant SampledResult s)
    (h : pipelineStep fastPath maxDepth s op = .ok t) : FindsToken s t op := by
  rintro rfl hsplit -
  rw [pipelineStep] at h
  split at h
  · cases h
  · rename_i result hdelivered
    obtain ⟨hsome, hgenerated, -, hfits⟩ := hs.arrived result hdelivered
    obtain ⟨oldest, queue, hinflight⟩ := List.exists_cons_of_ne_nil hsome
    obtain ⟨hone, hvocab, -⟩ := hfits hsplit oldest (by rw [hinflight]; rfl)
    obtain ⟨token, htoken⟩ := List.length_eq_one_iff.mp hone
    exact ⟨token, hgenerated.trans htoken, hvocab token (by rw [htoken]; exact List.mem_cons_self)⟩

/-- A launch names its own block unless it is one on a delivered token. -/
theorem QueueInvariant.launchOffsets (hs : QueueInvariant SampledResult s) : LaunchOffsets s := by
  intro t h
  obtain ⟨launched, hlaunch, h⟩ := bind_ok h
  obtain rfl := Except.ok.inj h
  obtain ⟨hplanned, hroom, huse, hcase⟩ :=
    InferRequest.launchPlanningTask_cases (launch_ok hlaunch).2.2
  rw [OffsetNamesOwnBlock, LaunchesOnDeliveredToken]
  simp only [InferRequestSerializationSnapshot.capture]
  cases hcase with
  | chunk kv cacheLen hprefill hcached =>
    have hnone := hs.order.noBlock (Or.inr hprefill)
    simp only [InferRequest.launchedChunk, InferRequest.getLatestPendingPlaceholderOffset, hnone,
      List.getLast?_nil, ite_self, if_true]
    exact ⟨fun _ hdelivered => absurd rfl hdelivered.2.2, fun _ => trivial⟩
  | block kv cacheLen hdecode hplaceholder hcached =>
    rw [if_neg (by simp [InferRequest.launchedBlock])]
    refine ⟨fun _ hdelivered => hdelivered.2.1 hplaceholder.2.2, fun _ => ?_⟩
    refine ⟨s.req.forwardingTokens.length, ?_, ?_⟩
    · rw [if_pos hplaceholder.1]
      simp [InferRequest.getLatestPendingPlaceholderOffset, InferRequest.launchedBlock]
    · simp only [InferRequest.launchedBlock]
      rw [List.drop_left, Nat.add_comm]
  | real kv cacheLen hdecode hreal hfits hcached =>
    simp only [InferRequest.getLatestPendingPlaceholderOffset, InferRequest.launchedReal, if_true]
    by_cases hpending : s.req.pendingPlaceholderPositions = []
    · rw [hpending, List.getLast?_nil, ite_self]
      exact ⟨fun _ hdelivered => absurd rfl hdelivered.2.2, fun _ => rfl⟩
    · have hinflight : s.req.hasInflightTask = true := by
        have hsome := List.length_pos_of_ne_nil hpending
        have hatMost := hs.blocks.atMost
        exact decide_eq_true (show 0 < s.req.inflightTasks.length by omega)
      have hgenerated : s.req.generatedTokens ≠ [] := fun hnone => hreal ⟨hinflight, rfl, hnone⟩
      rw [if_pos hinflight, List.getLast?_eq_none_iff]
      exact ⟨fun hnone => absurd hnone hpending,
        fun hdelivered => absurd ⟨hdecode, hgenerated, hpending⟩ hdelivered⟩

theorem QueueInvariant.of_fresh (Fits : ScheduleTask → StepResult → Prop) (req : InferRequest)
    {cached : Nat} (hcached : cached ≤ req.outputTokens.length) :
    QueueInvariant Fits { req := admitted req cached } where
  blocks := .of_none rfl rfl (Nat.zero_le _)
  order := .admitted hcached
  arrived := fun _ hnone => by cases hnone

/-- In every state of a run the queues and the sequence agree, and a launch names its own
block exactly when no delivered token takes the block's place. -/
theorem queue_of_run (start : InferRequest) (cached : Nat) (ops : List PipelineOp)
    (hcached : cached ≤ start.outputTokens.length)
    (hrun : exec (pipelineStep true kMaxInflightDepth) { req := admitted start cached } ops = .ok s)
    (hpermitted : EachStep (pipelineStep true kMaxInflightDepth) (OpPermitted SampledResult)
      { req := admitted start cached } ops) :
    QueueOfBlocks s.req ∧ LaunchOffsets s := by
  have hinv : QueueInvariant SampledResult s :=
    exec_invariant_of (fun _ _ _ hs hop h => hs.step hop (hs.findsToken h) h)
      (QueueInvariant.of_fresh SampledResult start hcached) hpermitted hrun
  exact ⟨hinv.blocks.toQueueOfBlocks, hinv.launchOffsets⟩

end Run

/-- The prompt, a decode step launched ahead of its token, and the token. -/
def queueSampleRun : List PipelineOp :=
  [.plan { prefillTokenNum := 2 }, .launch,
    .plan { generatedTokenNum := 1, draftTokenNum := 1 }, .launch,
    .deliver { generatedTokens := [20], draftTokens := { mtp := [40] } }, .finish]

theorem queue_of_run_sample :
    letI := concatDraftTokens
    ∃ s, exec (pipelineStep true kMaxInflightDepth) { req := admitted drainSample 0 }
        queueSampleRun = .ok s ∧ s.req.pendingPlaceholderPositions = [2] ∧
      QueueOfBlocks s.req ∧ LaunchOffsets s := by
  let _ := concatDraftTokens
  refine ⟨_, rfl, rfl, ?_⟩
  exact queue_of_run drainSample 0 queueSampleRun (by decide) rfl (eachStep_of_check (by decide))

/-- The result of the decode step arrives, and another one is launched before the first
retires: its snapshot names the block of the first. -/
theorem launch_names_older_block :
    letI := concatDraftTokens
    ∃ s t, exec (pipelineStep true kMaxInflightDepth) { req := admitted drainSample 0 }
        (queueSampleRun ++ [.deliver { generatedTokens := [21], acceptedTokens := [40] },
          .plan { generatedTokenNum := 1, draftTokenNum := 1 }]) = .ok s ∧
      EachStep (pipelineStep true kMaxInflightDepth) (OpPermitted SampledResult)
        { req := admitted drainSample 0 }
        (queueSampleRun ++ [.deliver { generatedTokens := [21], acceptedTokens := [40] },
          .plan { generatedTokenNum := 1, draftTokenNum := 1 }]) ∧
      pipelineStep true kMaxInflightDepth s .launch = .ok t ∧
      t.req.pendingPlaceholderPositions = s.req.pendingPlaceholderPositions ∧
      ¬ OffsetNamesOwnBlock s.req t.req := by
  let _ := concatDraftTokens
  refine ⟨_, _, rfl, eachStep_of_check (by decide), rfl, rfl, ?_⟩
  intro hnames
  exact absurd (show some 2 = none from hnames) (by decide)

end KsanaBuildAhead.Engine
