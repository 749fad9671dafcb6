import KsanaBuildAhead.Engine.PlaceholderQueue

/-!
# The steps in flight

How the steps in flight lie in the sequence: each behind the one before, the drafts
of the newest at the end, a block in front of the drafts of the steps that were
launched with placeholders. Seven shapes; each operation leads from one to another.
-/
namespace KsanaBuildAhead.Engine

open KsanaBuildAhead.Runtime KsanaBuildAhead.Lib.ListEdit KsanaBuildAhead.Lib.Execution

/-- The shape of the steps in flight before a stop token; `starts` are their drafts' starts,
and `Real` holds of the sampled steps that were launched with real tokens. -/
inductive StepShape (Real : ScheduleTask → Prop) (req : InferRequest) (starts : List Nat) : Prop
  | idle (hinflight : req.inflightTasks = []) (hstarts : starts = [])
      (hpositions : req.pendingPlaceholderPositions = [])
      (hdraftNums : req.pendingPlaceholderDraftNums = [])
  | alone (step : ScheduleTask) (start : Nat)
      (hinflight : req.inflightTasks = [step]) (hstarts : starts = [start])
      (hpositions : req.pendingPlaceholderPositions = [])
      (hdraftNums : req.pendingPlaceholderDraftNums = [])
      (hend : ¬ IsMiddleChunk req step →
        start + step.workload.draftTokenNum = req.forwardingTokens.length ∧
          req.forwardingTokensDraftNum = step.workload.draftTokenNum ∧ Real step)
  | pair (older newer : ScheduleTask) (start next : Nat)
      (hinflight : req.inflightTasks = [older, newer]) (hstarts : starts = [start, next])
      (hpositions : req.pendingPlaceholderPositions = [])
      (hdraftNums : req.pendingPlaceholderDraftNums = [])
      (hend : ¬ IsMiddleChunk req newer →
        next + newer.workload.draftTokenNum = req.forwardingTokens.length ∧
          req.forwardingTokensDraftNum = newer.workload.draftTokenNum ∧ Real newer)
      (holder : ¬ IsMiddleChunk req older → Real older)
  | ownBlock (step : ScheduleTask) (pos : Nat)
      (hinflight : req.inflightTasks = [step]) (hstarts : starts = [pos + 1])
      (hpositions : req.pendingPlaceholderPositions = [pos])
      (hdraftNums : req.pendingPlaceholderDraftNums = [step.workload.draftTokenNum])
      (hend : pos + 1 + step.workload.draftTokenNum = req.forwardingTokens.length)
      (hmain : req.forwardingTokens[pos]? ≠ some kFastPathPlaceholderTokenId)
      (hgenerated : req.generatedTokens.length ≤ 1)
  | blockThenReal (older newer : ScheduleTask) (pos : Nat)
      (hinflight : req.inflightTasks = [older, newer])
      (hstarts : starts = [pos + 1, pos + 1 + older.workload.draftTokenNum + 1])
      (hpositions : req.pendingPlaceholderPositions = [pos])
      (hdraftNums : req.pendingPlaceholderDraftNums = [older.workload.draftTokenNum])
      (hend : pos + 1 + older.workload.draftTokenNum + 1 + newer.workload.draftTokenNum =
        req.forwardingTokens.length)
      (hmain : req.forwardingTokens[pos]? ≠ some kFastPathPlaceholderTokenId)
      (hreal : Real newer)
  | realThenBlock (older newer : ScheduleTask) (start : Nat)
      (hinflight : req.inflightTasks = [older, newer])
      (hstarts : starts = [start, start + older.workload.draftTokenNum + 1])
      (hpositions : req.pendingPlaceholderPositions = [start + older.workload.draftTokenNum])
      (hdraftNums : req.pendingPlaceholderDraftNums = [newer.workload.draftTokenNum])
      (hend : start + older.workload.draftTokenNum + 1 + newer.workload.draftTokenNum =
        req.forwardingTokens.length)
      (hmain : req.forwardingTokens[start + older.workload.draftTokenNum]? =
        some kFastPathPlaceholderTokenId)
      (hreal : Real older)
  | twoBlocks (older newer : ScheduleTask) (pos : Nat)
      (hinflight : req.inflightTasks = [older, newer])
      (hstarts : starts = [pos + 1, pos + 1 + older.workload.draftTokenNum + 1])
      (hpositions : req.pendingPlaceholderPositions =
        [pos, pos + 1 + older.workload.draftTokenNum])
      (hdraftNums : req.pendingPlaceholderDraftNums =
        [older.workload.draftTokenNum, newer.workload.draftTokenNum])
      (hend : pos + 1 + older.workload.draftTokenNum + 1 + newer.workload.draftTokenNum =
        req.forwardingTokens.length)
      (hmain : req.forwardingTokens[pos]? ≠ some kFastPathPlaceholderTokenId)

section Shapes

variable {Real : ScheduleTask → Prop} {req after : InferRequest} {starts : List Nat}

theorem StepShape.congr (hreq : StepShape Real req starts)
    (hinflight' : after.inflightTasks = req.inflightTasks)
    (hpositions' : after.pendingPlaceholderPositions = req.pendingPlaceholderPositions)
    (hdraftNums' : after.pendingPlaceholderDraftNums = req.pendingPlaceholderDraftNums)
    (hforwarding' : after.forwardingTokens = req.forwardingTokens)
    (hdraftNum' : after.forwardingTokensDraftNum = req.forwardingTokensDraftNum)
    (hprefilling' : after.prefillingTokens = req.prefillingTokens)
    (hgenerated' : req.pendingPlaceholderPositions ≠ [] → req.generatedTokens.length ≤ 1 →
      after.generatedTokens.length ≤ 1) :
    StepShape Real after starts := by
  cases hreq with
  | idle hinflight hstarts hpositions hdraftNums =>
    exact .idle (hinflight'.trans hinflight) hstarts (hpositions'.trans hpositions)
      (hdraftNums'.trans hdraftNums)
  | alone step start hinflight hstarts hpositions hdraftNums hend =>
    refine .alone step start (hinflight'.trans hinflight) hstarts (hpositions'.trans hpositions)
      (hdraftNums'.trans hdraftNums) ?_
    rw [IsMiddleChunk, hprefilling', hforwarding', hdraftNum']
    exact hend
  | pair older newer start next hinflight hstarts hpositions hdraftNums hend holder =>
    refine .pair older newer start next (hinflight'.trans hinflight) hstarts
      (hpositions'.trans hpositions) (hdraftNums'.trans hdraftNums) ?_ ?_
    · rw [IsMiddleChunk, hprefilling', hforwarding', hdraftNum']
      exact hend
    · rw [IsMiddleChunk, hprefilling']
      exact holder
  | ownBlock step pos hinflight hstarts hpositions hdraftNums hend hmain hgenerated =>
    refine .ownBlock step pos (hinflight'.trans hinflight) hstarts (hpositions'.trans hpositions)
      (hdraftNums'.trans hdraftNums) ?_ ?_ (hgenerated' ?_ hgenerated)
    · rw [hforwarding']
      exact hend
    · rw [hforwarding']
      exact hmain
    · rw [hpositions]
      exact List.cons_ne_nil _ _
  | blockThenReal older newer pos hinflight hstarts hpositions hdraftNums hend hmain hreal =>
    refine .blockThenReal older newer pos (hinflight'.trans hinflight) hstarts
      (hpositions'.trans hpositions) (hdraftNums'.trans hdraftNums) ?_ ?_ hreal
    · rw [hforwarding']
      exact hend
    · rw [hforwarding']
      exact hmain
  | realThenBlock older newer start hinflight hstarts hpositions hdraftNums hend hmain hreal =>
    refine .realThenBlock older newer start (hinflight'.trans hinflight) hstarts
      (hpositions'.trans hpositions) (hdraftNums'.trans hdraftNums) ?_ ?_ hreal
    · rw [hforwarding']
      exact hend
    · rw [hforwarding']
      exact hmain
  | twoBlocks older newer pos hinflight hstarts hpositions hdraftNums hend hmain =>
    refine .twoBlocks older newer pos (hinflight'.trans hinflight) hstarts
      (hpositions'.trans hpositions) (hdraftNums'.trans hdraftNums) ?_ ?_
    · rw [hforwarding']
      exact hend
    · rw [hforwarding']
      exact hmain

end Shapes

section Launch

variable [DraftTokensApi] {Real : ScheduleTask → Prop} {req after : InferRequest}
  {starts : List Nat}

/-- The launch put a step in flight that has no block; unless it is a middle chunk, it is
`Real`. -/
def LaunchesReal (Real : ScheduleTask → Prop) (req after : InferRequest) : Prop :=
  after.pendingPlaceholderPositions = req.pendingPlaceholderPositions →
    ∀ task ∈ after.inflightTasks.getLast?, ¬ IsMiddleChunk after task → Real task

omit [DraftTokensApi] in
theorem LaunchesReal.newest {task : ScheduleTask} (hlaunched : LaunchesReal Real req after)
    (hpositions : after.pendingPlaceholderPositions = req.pendingPlaceholderPositions)
    (hinflight : after.inflightTasks = req.inflightTasks ++ [task])
    (hwhole : ¬ IsMiddleChunk after task) : Real task :=
  hlaunched hpositions task (by rw [hinflight, List.getLast?_concat]; rfl) hwhole

omit [DraftTokensApi] in
/-- A launch with nothing but chunks and real steps in flight, none of them a block. -/
theorem StepShape.of_unblocked {start : Nat} {task : ScheduleTask}
    (hreq : StepShape Real req starts) (hroom : req.inflightTasks.length < kMaxInflightDepth)
    (hnone : req.pendingPlaceholderPositions = [])
    (hinflight' : after.inflightTasks = req.inflightTasks ++ [task])
    (hpositions' : after.pendingPlaceholderPositions = [])
    (hdraftNums' : after.pendingPlaceholderDraftNums = req.pendingPlaceholderDraftNums)
    (hprefilling' : after.prefillingTokens = req.prefillingTokens)
    (hend : ¬ IsMiddleChunk after task →
      start + task.workload.draftTokenNum = after.forwardingTokens.length ∧
        after.forwardingTokensDraftNum = task.workload.draftTokenNum ∧ Real task) :
    StepShape Real after (starts ++ [start]) := by
  cases hreq with
  | idle hinflight hstarts hpositions hdraftNums =>
    rw [hinflight] at hinflight'
    exact .alone task start hinflight' (by rw [hstarts]; rfl) hpositions'
      (hdraftNums'.trans hdraftNums) hend
  | alone step first hinflight hstarts hpositions hdraftNums hfirst =>
    rw [hinflight] at hinflight'
    refine .pair step task first start hinflight' (by rw [hstarts]; rfl) hpositions'
      (hdraftNums'.trans hdraftNums) hend ?_
    rw [IsMiddleChunk, hprefilling']
    exact fun hwhole => (hfirst hwhole).2.2
  | pair older newer first next hinflight => simp [hinflight, kMaxInflightDepth] at hroom
  | ownBlock step pos hinflight hstarts hpositions => simp [hnone] at hpositions
  | blockThenReal older newer pos hinflight => simp [hinflight, kMaxInflightDepth] at hroom
  | realThenBlock older newer first hinflight => simp [hinflight, kMaxInflightDepth] at hroom
  | twoBlocks older newer pos hinflight => simp [hinflight, kMaxInflightDepth] at hroom

theorem StepShape.launch {fastPath : Bool} (hreq : StepShape Real req starts)
    (horder : PlanOrder req)
    (h : req.launchPlanningTask fastPath req.hasInflightTask = .ok after)
    (hfast : fastPath = true ∨ req.pendingPlaceholderPositions = [])
    (hlaunched : LaunchesReal Real req after) :
    StepShape Real after
      (starts ++ [after.forwardingTokens.length - after.forwardingTokensDraftNum]) := by
  obtain ⟨hplanned, hroom, huse, hcase⟩ := InferRequest.launchPlanningTask_cases h
  cases hcase with
  | chunk kv cacheLen hprefill hcached =>
    have hnone := horder.noBlock (Or.inr hprefill)
    refine hreq.of_unblocked hroom hnone rfl hnone rfl rfl ?_
    intro hlast
    have hnewest := hlaunched.newest rfl rfl hlast
    simp only [IsMiddleChunk, InferRequest.launchedChunk] at hlast hnewest ⊢
    have hends : req.plansLastChunk := by
      by_contra hshort
      exact hlast ⟨hprefill, Nat.lt_of_not_le hshort⟩
    simp only [if_pos hends, List.length_append] at hnewest ⊢
    exact ⟨Nat.sub_add_cancel (Nat.le_add_left _ _), trivial, hnewest⟩
  | block kv cacheLen hdecode hplaceholder hcached =>
    obtain ⟨inflight, hinflight⟩ := exists_inflight_of_room (huse hplaceholder.1) hroom
    have hnewest := horder.newest (horder.decode hplanned hdecode) hdecode inflight
      (by rw [hinflight]; rfl)
    have hlength : (req.launchedBlock kv cacheLen).forwardingTokens.length -
        (req.launchedBlock kv cacheLen).forwardingTokensDraftNum =
          req.forwardingTokens.length + 1 := by
      simp only [InferRequest.launchedBlock, List.length_append, List.length_replicate]
      omega
    have hmain : (req.launchedBlock kv cacheLen).forwardingTokens[req.forwardingTokens.length]? =
        some kFastPathPlaceholderTokenId := by
      simp only [InferRequest.launchedBlock]
      rw [List.getElem?_append_right (Nat.le_refl _), Nat.sub_self]
      rfl
    rw [hlength]
    cases hreq with
    | idle hidle => simp [hidle] at hinflight
    | alone step start halone hstarts hpositions hdraftNums hend =>
      rw [halone, List.cons.injEq] at hinflight
      obtain ⟨rfl, -⟩ := hinflight
      obtain ⟨hend, -, hstep⟩ := hend hnewest
      refine .realThenBlock step _ start (by simp only [InferRequest.launchedBlock, halone]; rfl)
        ?_ ?_ ?_ ?_ ?_ hstep
      · rw [hstarts, ← hend]
        rfl
      · simp only [InferRequest.launchedBlock, hpositions, ← hend]
        rfl
      · simp only [InferRequest.launchedBlock, hdraftNums]
        rfl
      · simp only [InferRequest.launchedBlock, List.length_append, List.length_replicate]
        omega
      · rw [hend]
        exact hmain
    | pair older newer first next hpair => simp [hpair] at hinflight
    | ownBlock step pos halone hstarts hpositions hdraftNums hend hown hgenerated =>
      rw [halone, List.cons.injEq] at hinflight
      obtain ⟨rfl, -⟩ := hinflight
      refine .twoBlocks step _ pos (by simp only [InferRequest.launchedBlock, halone]; rfl)
        ?_ ?_ ?_ ?_ ?_
      · rw [hstarts, ← hend]
        rfl
      · simp only [InferRequest.launchedBlock, hpositions, ← hend]
        rfl
      · simp only [InferRequest.launchedBlock, hdraftNums]
        rfl
      · simp only [InferRequest.launchedBlock, List.length_append, List.length_replicate]
        omega
      · simp only [InferRequest.launchedBlock]
        rw [List.getElem?_append_left (by omega)]
        exact hown
    | blockThenReal older newer pos hpair => simp [hpair] at hinflight
    | realThenBlock older newer start hpair => simp [hpair] at hinflight
    | twoBlocks older newer pos hpair => simp [hpair] at hinflight
  | real kv cacheLen hdecode hreal hfits hcached =>
    have hend : (req.launchedReal kv cacheLen).forwardingTokens.length -
        (req.launchedReal kv cacheLen).forwardingTokensDraftNum + req.roomDrafts.length =
          (req.launchedReal kv cacheLen).forwardingTokens.length := by
      simp only [InferRequest.launchedReal, List.length_append]
      omega
    have hnewest := hlaunched.newest rfl rfl fun hmiddle => by
      have hpositive := hmiddle.1
      simp only at hpositive
      omega
    by_cases hnone : req.pendingPlaceholderPositions = []
    · exact hreq.of_unblocked hroom hnone rfl hnone rfl rfl fun _ => ⟨hend, rfl, hnewest⟩
    · cases hreq with
      | idle hidle hstarts hpositions => exact absurd hpositions hnone
      | alone step start halone hstarts hpositions => exact absurd hpositions hnone
      | pair older newer first next hpair => simp [hpair, kMaxInflightDepth] at hroom
      | ownBlock step pos halone hstarts hpositions hdraftNums hown hmain hgenerated =>
        have hinflight : req.hasInflightTask = true := by
          rw [InferRequest.hasInflightTask, InferRequest.getInflightCount, halone]
          rfl
        have hone : req.generatedTokens.length = 1 := by
          have hsome : req.generatedTokens ≠ [] := fun hgone =>
            hreal ⟨hinflight, hfast.resolve_right hnone, hgone⟩
          have hpositive := List.length_pos_of_ne_nil hsome
          omega
        have hlength : (req.launchedReal kv cacheLen).forwardingTokens.length =
            req.forwardingTokens.length + 1 + req.roomDrafts.length := by
          simp only [InferRequest.launchedReal, List.length_append]
          omega
        refine .blockThenReal step _ pos (by simp only [InferRequest.launchedReal, halone]; rfl)
          ?_ hpositions hdraftNums ?_ ?_ hnewest
        · rw [hstarts, hlength, hown]
          simp only [InferRequest.launchedReal, List.singleton_append, Nat.add_sub_cancel]
        · rw [hlength, hown]
        · simp only [InferRequest.launchedReal, List.append_assoc]
          rw [List.getElem?_append_left (by omega)]
          exact hmain
      | blockThenReal older newer pos hpair => simp [hpair, kMaxInflightDepth] at hroom
      | realThenBlock older newer start hpair => simp [hpair, kMaxInflightDepth] at hroom
      | twoBlocks older newer pos hpair => simp [hpair, kMaxInflightDepth] at hroom

end Launch

end KsanaBuildAhead.Engine
