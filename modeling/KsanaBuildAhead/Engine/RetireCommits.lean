import KsanaBuildAhead.Engine.StepsInFlight

/-!
# What a retirement commits

A step that retires should leave its accepted drafts and its token in the output,
and only the rejected drafts should go from the sequence. It does so when it finds
its own block at the head of the queue, when it carried no drafts, and when it is
alone; real drafts in front of another step's block are where the branches miss.
-/
namespace KsanaBuildAhead.Engine

open KsanaBuildAhead.Runtime KsanaBuildAhead.Lib.ListEdit KsanaBuildAhead.Lib.Execution

/-- The drafts of the oldest step, where the sequence holds them. -/
def oldestDrafts (s : PipelineState) : List Int :=
  (s.req.forwardingTokens.drop (s.draftStarts.headD 0)).take (oldestDraftNum s.req)

/-- The sequence without the drafts of the oldest step that `result` rejects. -/
def keptTokens (s : PipelineState) (result : StepResult) : List Int :=
  eraseRange s.req.forwardingTokens
    (s.draftStarts.headD 0 + result.acceptedTokens.length)
    (s.draftStarts.headD 0 + oldestDraftNum s.req)

/-- The retirement commits what the step returned: the output grows by the accepted drafts
and the token, the rejected drafts leave the sequence, and a block behind them moves up;
only the slots of that block are written. -/
structure CommitsResult (s t : PipelineState) (result : StepResult) : Prop where
  output : t.req.outputTokens =
    s.req.outputTokens ++ result.acceptedTokens ++ result.generatedTokens
  accepted : t.req.acceptedTokens = []
  positions : t.req.pendingPlaceholderPositions =
    (s.req.pendingPlaceholderPositions.filter fun p => s.draftStarts.headD 0 ≤ p).map fun p =>
      p - (oldestDraftNum s.req - result.acceptedTokens.length)
  length : t.req.forwardingTokens.length = (keptTokens s result).length
  kept : t.req.forwardingTokens.take
      (t.req.pendingPlaceholderPositions.headD (keptTokens s result).length) =
    (keptTokens s result).take
      (t.req.pendingPlaceholderPositions.headD (keptTokens s result).length)

/-- The oldest step carried no drafts, or owns the front block, or is alone, or the step
behind it carries as many drafts and all are accepted. -/
def SettlesOldest (req : InferRequest) : Prop :=
  oldestDraftNum req = 0 ∨
    (req.pendingPlaceholderPositions ≠ [] ∧ ¬ req.FillsNextBlock) ∨
    (req.pendingPlaceholderPositions = [] ∧ req.inflightTasks.length = 1) ∨
    (req.pendingPlaceholderPositions = [] ∧
      req.forwardingTokensDraftNum = oldestDraftNum req ∧
      req.acceptedTokens.length = oldestDraftNum req)

instance (req : InferRequest) : Decidable (SettlesOldest req) :=
  inferInstanceAs (Decidable (_ ∨ _ ∨ _ ∨ _))

/-- Every retirement before a stop token settles. -/
def SettlesOnFinish (s : PipelineState) (op : PipelineOp) : Prop :=
  op = .finish → s.req.isEosGenerated = false → s.req.isSplitPrefillStep = false →
    SettlesOldest s.req

instance (s : PipelineState) (op : PipelineOp) : Decidable (SettlesOnFinish s op) := by
  unfold SettlesOnFinish
  infer_instance

section Finish

variable [DraftTokensApi] {Real : ScheduleTask → Prop} {s : PipelineState} {result : StepResult}
  {updated : InferRequest}

/-- The state after the oldest step has retired with `updated`. -/
def finished (s : PipelineState) (result : StepResult) (updated : InferRequest) : PipelineState where
  req := updated.resetInflightTask
  draftStarts := s.draftStarts.tail.map fun start =>
    start - (oldestDraftNum s.req - result.acceptedTokens.length)
  history := s.history ++ [.sampled result]

theorem finishOldest_of_update (hsplit : s.req.isSplitPrefillStep = false)
    (h : s.req.updateAfterInflightTaskFinished = .ok updated) :
    finishOldest s result = .ok (finished s result updated) := by
  rw [finishOldest, h, hsplit]
  rfl

theorem retiredPlain_fields (req : InferRequest) (workload : ScheduleTaskWorkload)
    (haccepted : req.acceptedTokens.length ≤ workload.draftTokenNum) :
    let after := (req.retireWithoutPlaceholder workload).refreshWorkloads
    after.outputTokens = req.outputTokens ++ req.acceptedTokens ++ req.generatedTokens ∧
      after.acceptedTokens = [] ∧
      after.forwardingTokens = (if 0 < workload.draftTokenNum then
        resize req.forwardingTokens (req.forwardingTokens.length + req.acceptedTokens.length -
          req.forwardingTokensDraftNum) 0 else req.forwardingTokens) ∧
      after.forwardingTokensDraftNum = req.forwardingTokensDraftNum ∧
      after.isEosGenerated = (req.isEosGenerated || req.endsWithStopToken
        (req.outputTokens ++ req.acceptedTokens ++ req.generatedTokens)) := by
  by_cases hdrafts : 0 < workload.draftTokenNum
  · simp only [InferRequest.retireWithoutPlaceholder, if_pos hdrafts, InferRequest.refreshWorkloads]
    split <;> exact ⟨rfl, rfl, rfl, rfl, rfl⟩
  · have hnone : req.acceptedTokens = [] := List.eq_nil_of_length_eq_zero (by omega)
    simp only [InferRequest.retireWithoutPlaceholder, if_neg hdrafts, InferRequest.refreshWorkloads,
      hnone, List.append_nil]
    split <;> exact ⟨rfl, rfl, rfl, rfl, rfl⟩

omit [DraftTokensApi] in
/-- Without a pending block the retirement cuts the end of the sequence: right for a step
without drafts, for the last step in flight, and when nothing is rejected. -/
theorem plainTokens_eq {req : InferRequest} {oldest : ScheduleTask} {queue : List ScheduleTask}
    {start : Nat} (hinflight : req.inflightTasks = oldest :: queue)
    (hfit : req.acceptedTokens.length ≤ oldest.workload.draftTokenNum)
    (hend : queue = [] → start + oldest.workload.draftTokenNum = req.forwardingTokens.length ∧
      req.forwardingTokensDraftNum = oldest.workload.draftTokenNum)
    (hnone : req.pendingPlaceholderPositions = []) (hsettles : SettlesOldest req) :
    (if 0 < oldest.workload.draftTokenNum then
      resize req.forwardingTokens (req.forwardingTokens.length + req.acceptedTokens.length -
        req.forwardingTokensDraftNum) 0 else req.forwardingTokens) =
      eraseRange req.forwardingTokens (start + req.acceptedTokens.length)
        (start + oldest.workload.draftTokenNum) := by
  have hdraftNum := oldestDraftNum_cons hinflight
  rw [SettlesOldest, hdraftNum, hinflight] at hsettles
  have hwhole : ∀ n, eraseRange req.forwardingTokens n n = req.forwardingTokens :=
    fun n => List.take_append_drop n req.forwardingTokens
  rcases hsettles with hnoDrafts | ⟨hpending, -⟩ | ⟨-, halone⟩ | ⟨-, hsame, hall⟩
  · rw [if_neg (by omega), hnoDrafts, show req.acceptedTokens.length = 0 by omega, hwhole]
  · exact absurd hnone hpending
  · obtain ⟨hend, hlast⟩ := hend (List.eq_nil_of_length_eq_zero (by
      rw [List.length_cons] at halone
      omega))
    by_cases hdrafts : 0 < oldest.workload.draftTokenNum
    · rw [if_pos hdrafts, resize_eq_take _ _ (by omega), eraseRange, hend, List.drop_length,
        List.append_nil]
      congr 1
      omega
    · rw [if_neg hdrafts, show oldest.workload.draftTokenNum = 0 by omega,
        show req.acceptedTokens.length = 0 by omega, hwhole]
  · rw [hall, hwhole, hsame, Nat.add_sub_cancel, resize_eq_take _ _ (Nat.le_refl _),
      List.take_length, ite_self]

theorem finish_plain {oldest : ScheduleTask} {queue : List ScheduleTask} {start : Nat}
    {starts : List Nat} (hinflight : s.req.inflightTasks = oldest :: queue)
    (hstarts : s.draftStarts = start :: starts)
    (hnone : s.req.pendingPlaceholderPositions = [])
    (hend : queue = [] → start + oldest.workload.draftTokenNum = s.req.forwardingTokens.length ∧
      s.req.forwardingTokensDraftNum = oldest.workload.draftTokenNum)
    (heos : s.req.isEosGenerated = false) (hsplit : s.req.isSplitPrefillStep = false)
    (hgenerated : s.req.generatedTokens = result.generatedTokens)
    (haccepted : s.req.acceptedTokens = result.acceptedTokens)
    (hfit : result.acceptedTokens.length ≤ oldest.workload.draftTokenNum)
    (hsettles : SettlesOldest s.req) :
    ∃ t, finishOldest s result = .ok t ∧ CommitsResult s t result ∧
      t.req.forwardingTokens = keptTokens s result ∧
      t.req.forwardingTokensDraftNum = s.req.forwardingTokensDraftNum ∧
      t.req.inflightTasks = queue ∧ SameOrder s.req { t.req with
        inflightTasks := s.req.inflightTasks } ∧
      t.draftStarts = starts.map fun start =>
        start - (oldest.workload.draftTokenNum - result.acceptedTokens.length) := by
  have hupdate := InferRequest.updateAfterInflightTaskFinished_plain s.req hinflight heos hsplit hnone
  have hsame := updateAfterInflightTaskFinished_sameOrder hupdate
  obtain ⟨houtput, hcleared, htokens, hdraftNum, -⟩ :=
    retiredPlain_fields s.req oldest.workload (by rw [haccepted]; exact hfit)
  rw [plainTokens_eq hinflight (by rw [haccepted]; exact hfit) hend hnone hsettles] at htokens
  have holdest := oldestDraftNum_cons hinflight
  have hkept : keptTokens s result = eraseRange s.req.forwardingTokens
      (start + s.req.acceptedTokens.length) (start + oldest.workload.draftTokenNum) := by
    rw [keptTokens, hstarts, List.headD_cons, holdest, haccepted]
  refine ⟨_, finishOldest_of_update hsplit hupdate, ?_, ?_, hdraftNum, ?_, ?_, ?_⟩
  · have hpositions := hsame.blocks hnone
    exact {
      output := by
        rw [← hgenerated, ← haccepted]
        exact houtput
      accepted := hcleared
      positions := by
        rw [hnone]
        exact hpositions
      length := by
        rw [hkept, ← htokens]
        rfl
      kept := by
        rw [hkept, ← htokens]
        rfl }
  · rw [hkept, ← htokens]
    rfl
  · show (InferRequest.resetInflightTask _).inflightTasks = queue
    rw [InferRequest.resetInflightTask, hsame.inflight, hinflight]
    rfl
  · exact ⟨hsame.task, hsame.left, hsame.offset, hsame.prefilling, rfl, hsame.blocks,
      hsame.draftNums⟩
  · rw [finished, hstarts, holdest]
    rfl

omit [DraftTokensApi] in
/-- Accepted drafts that stand in the block already are written over themselves. -/
theorem trimmedTokens_of_accepted {req : InferRequest}
    (haccepted : req.acceptedTokens <+: req.forwardingTokens.drop
      (req.pendingPlaceholderPositions.headD 0 + 1)) :
    req.trimmedTokens = eraseRange req.forwardingTokens
      (req.pendingPlaceholderPositions.headD 0 + 1 + req.acceptedTokens.length)
      (req.pendingPlaceholderPositions.headD 0 + 1 + req.pendingPlaceholderDraftNums.headD 0) := by
  rw [InferRequest.trimmedTokens, overwrite_of_standing haccepted]

theorem take_refilledTokens (req : InferRequest) (n : Nat)
    (hnext : ∀ nxtStart ∈ req.shiftedPositions.head?, n ≤ nxtStart) :
    req.refilledTokens.take n = req.trimmedTokens.take n := by
  rw [InferRequest.refilledTokens]
  split
  · rename_i nxtStart _ main _ hpositions _
    have hle := hnext nxtStart (by rw [hpositions]; rfl)
    rw [InferRequest.fillPlaceholderBlock, ← Nat.min_eq_left hle, ← List.take_take, take_overwrite,
      List.take_take]
  · rfl

theorem finish_own {oldest : ScheduleTask} {queue : List ScheduleTask} {pos : Nat}
    {nexts nextDraftNums starts : List Nat} (hinflight : s.req.inflightTasks = oldest :: queue)
    (hstarts : s.draftStarts = (pos + 1) :: starts)
    (hpositions : s.req.pendingPlaceholderPositions = pos :: nexts)
    (hdraftNums : s.req.pendingPlaceholderDraftNums =
      oldest.workload.draftTokenNum :: nextDraftNums)
    (hroom : pos + 1 + oldest.workload.draftTokenNum ≤ s.req.forwardingTokens.length)
    (hnexts : ∀ next ∈ nexts, pos + 1 + oldest.workload.draftTokenNum ≤ next ∧
      next < s.req.forwardingTokens.length)
    (howns : ¬ s.req.FillsNextBlock)
    (heos : s.req.isEosGenerated = false) (hsplit : s.req.isSplitPrefillStep = false)
    (hgenerated : s.req.generatedTokens = result.generatedTokens)
    (haccepted : s.req.acceptedTokens = result.acceptedTokens)
    (hfit : result.acceptedTokens.length ≤ oldest.workload.draftTokenNum) :
    let rejected := oldest.workload.draftTokenNum - result.acceptedTokens.length
    finishOldest s result = .ok (finished s result s.req.retiredOwn) ∧
      s.req.shiftedPositions = nexts.map (fun next => next - rejected) ∧
      s.req.refilledTokens.length = s.req.forwardingTokens.length - rejected ∧
      (result.acceptedTokens <+: oldestDrafts s →
        CommitsResult s (finished s result s.req.retiredOwn) result) := by
  intro rejected
  have hrejected : s.req.rejectedNum = rejected := by
    rw [InferRequest.rejectedNum, hdraftNums, haccepted]
    rfl
  have holdest := oldestDraftNum_cons hinflight
  have hshifted : s.req.shiftedPositions = nexts.map (fun next => next - rejected) := by
    rw [shiftedPositions_behind hpositions, hrejected]
    intro next hmem
    have hbehind := (hnexts next hmem).1
    omega
  have hfitFront : s.req.acceptedTokens.length ≤ s.req.pendingPlaceholderDraftNums.headD 0 := by
    rw [haccepted, hdraftNums]
    exact hfit
  have hroomFront : s.req.pendingPlaceholderPositions.headD 0 + 1 +
      s.req.pendingPlaceholderDraftNums.headD 0 ≤ s.req.forwardingTokens.length := by
    rw [hpositions, hdraftNums]
    exact hroom
  have htrimmed := trimmedTokens_length hfitFront hroomFront
  rw [hrejected] at htrimmed
  have hpending : s.req.pendingPlaceholderPositions ≠ [] := by
    rw [hpositions]
    exact List.cons_ne_nil _ _
  have hupdate : s.req.updateAfterInflightTaskFinished = .ok s.req.retiredOwn := by
    rw [InferRequest.updateAfterInflightTaskFinished_own s.req hinflight heos hsplit hpending]
    · refine InferRequest.retireOwnPlaceholderBlockAndShift_of_fit hfitFront hroomFront ?_
      intro nxtStart hnext
      rw [hshifted, List.head?_map, Option.mem_def, Option.map_eq_some_iff] at hnext
      obtain ⟨next, hhead, rfl⟩ := hnext
      obtain ⟨hbehind, hinside⟩ := hnexts next (List.mem_of_mem_head? hhead)
      rw [htrimmed]
      omega
    · by_cases hcount : s.req.getInflightCount ≤ 1
      · exact Or.inl hcount
      · exact Or.inr fun hplaceholder => howns ⟨by omega, hplaceholder⟩
  refine ⟨finishOldest_of_update hsplit hupdate, hshifted,
    (refilledTokens_length).trans htrimmed, fun hprefix => ?_⟩
  have hkept : s.req.trimmedTokens = keptTokens s result := by
    have hblock : s.req.acceptedTokens <+: s.req.forwardingTokens.drop
        (s.req.pendingPlaceholderPositions.headD 0 + 1) := by
      rw [oldestDrafts, hstarts, List.headD_cons] at hprefix
      rw [haccepted, hpositions]
      exact hprefix.trans (List.take_prefix _ _)
    rw [trimmedTokens_of_accepted hblock, keptTokens, hstarts, hpositions, hdraftNums, holdest,
      haccepted]
    rfl
  have hbehind : nexts.filter (fun p => pos + 1 ≤ p) = nexts := by
    rw [List.filter_eq_self]
    intro next hmem
    have hbehind := (hnexts next hmem).1
    exact decide_eq_true (by omega)
  exact {
    output := by
      rw [← hgenerated, ← haccepted]
      rfl
    accepted := rfl
    positions := by
      rw [hpositions, hstarts, holdest, List.headD_cons,
        List.filter_cons_of_neg (by simp), hbehind]
      exact hshifted
    length := by
      rw [← hkept]
      exact refilledTokens_length
    kept := by
      rw [← hkept]
      refine take_refilledTokens s.req _ ?_
      intro nxtStart hnext
      show (s.req.shiftedPositions.headD _) ≤ nxtStart
      obtain ⟨rest, hrest⟩ := List.head?_eq_some_iff.mp hnext
      rw [hrest, List.headD_cons] }

/-- A step without drafts fills the block of the next one and retires as it should. -/
theorem finish_backfill {oldest newer : ScheduleTask} {start : Nat}
    (hinflight : s.req.inflightTasks = [oldest, newer])
    (hstarts : s.draftStarts = [start, start + 1])
    (hpositions : s.req.pendingPlaceholderPositions = [start])
    (hdraftNums : s.req.pendingPlaceholderDraftNums = [newer.workload.draftTokenNum])
    (hend : start + 1 + newer.workload.draftTokenNum = s.req.forwardingTokens.length)
    (hmain : s.req.forwardingTokens[start]? = some kFastPathPlaceholderTokenId)
    (hnoDrafts : oldest.workload.draftTokenNum = 0)
    (heos : s.req.isEosGenerated = false) (hsplit : s.req.isSplitPrefillStep = false)
    (hgenerated : s.req.generatedTokens = result.generatedTokens)
    (haccepted : s.req.acceptedTokens = result.acceptedTokens)
    (hfit : result.acceptedTokens.length ≤ oldest.workload.draftTokenNum) :
    finishOldest s result = .ok (finished s result s.req.backfilled) ∧
      CommitsResult s (finished s result s.req.backfilled) result := by
  have holdest : oldestDraftNum s.req = 0 := by
    rw [oldestDraftNum_cons hinflight]
    exact hnoDrafts
  have hnone : result.acceptedTokens = [] := List.eq_nil_of_length_eq_zero (by omega)
  have hfills : s.req.FillsNextBlock := by
    rw [InferRequest.FillsNextBlock, InferRequest.getInflightCount, hinflight, hpositions]
    exact ⟨Nat.lt_succ_self 1, hmain⟩
  have hroom : s.req.pendingPlaceholderPositions.headD 0 + 1 +
      s.req.pendingPlaceholderDraftNums.headD 0 ≤ s.req.forwardingTokens.length := by
    rw [hpositions, hdraftNums]
    exact Nat.le_of_eq hend
  have hupdate := InferRequest.updateAfterInflightTaskFinished_backfill s.req hinflight heos hsplit
    (by rw [hpositions]; exact List.cons_ne_nil _ _)
    (InferRequest.tryRetireBackfillNextPlaceholderBlock_of_fills hfills hroom)
  have hkept : keptTokens s result = s.req.forwardingTokens := by
    rw [keptTokens, hnone, holdest]
    exact List.take_append_drop _ _
  refine ⟨finishOldest_of_update hsplit hupdate, ?_⟩
  exact {
    output := by
      rw [hnone, List.append_nil, ← hgenerated]
      rfl
    accepted := by
      rw [← hnone, ← haccepted]
      rfl
    positions := by
      rw [hpositions, hstarts, holdest, List.headD_cons, List.filter_cons_of_pos (by simp),
        Nat.zero_sub]
      exact hpositions
    length := by
      rw [hkept]
      exact backfilled_length s.req
    kept := by
      have hhead : (finished s result s.req.backfilled).req.pendingPlaceholderPositions =
          [start] := hpositions
      rw [hkept, hhead, List.headD_cons]
      simp only [finished, InferRequest.resetInflightTask, InferRequest.backfilled,
        InferRequest.planGeneratedTokens, hpositions, List.headD_cons]
      split
      · rfl
      · rw [InferRequest.fillPlaceholderBlock, take_overwrite] }

/-- Behind a step with no draft rejected the filled block belongs to the only step left. -/
theorem StepShape.backfilled {older newer : ScheduleTask} {start pos : Nat}
    (hinflight : s.req.inflightTasks = [older, newer])
    (hstarts : s.draftStarts = [start, pos + 1])
    (hpositions : s.req.pendingPlaceholderPositions = [pos])
    (hdraftNums : s.req.pendingPlaceholderDraftNums = [newer.workload.draftTokenNum])
    (hend : pos + 1 + newer.workload.draftTokenNum = s.req.forwardingTokens.length)
    (hall : older.workload.draftTokenNum = result.acceptedTokens.length)
    (heosAfter : (finished s result s.req.backfilled).req.isEosGenerated = false)
    (hfilled : BlocksFilled (finished s result s.req.backfilled).req) :
    StepShape Real (finished s result s.req.backfilled).req
      (finished s result s.req.backfilled).draftStarts := by
  have hqueue : (finished s result s.req.backfilled).req.inflightTasks = [newer] := by
    show s.req.inflightTasks.tail = [newer]
    rw [hinflight]
    rfl
  have hblock : (finished s result s.req.backfilled).req.pendingPlaceholderPositions = [pos] :=
    hpositions
  obtain ⟨token, hread, htoken⟩ := hfilled.filled heosAfter
    (by rw [hblock]; exact List.cons_ne_nil _ _) (by rw [hblock, hqueue]; rfl)
  rw [hblock, List.headD_cons] at hread
  refine .ownBlock newer pos hqueue ?_ hblock hdraftNums ?_ ?_ (Nat.zero_le 1)
  · rw [finished, hstarts, oldestDraftNum_cons hinflight]
    simp only [hall, Nat.sub_self]
    rfl
  · show _ = s.req.backfilled.forwardingTokens.length
    rw [backfilled_length]
    exact hend
  · rw [hread]
    intro hplaceholder
    rw [Option.some.inj hplaceholder] at htoken
    exact absurd htoken (by decide)

/-- In every shape that settles, the oldest step retires as it should and the steps behind
it are in a shape again. -/
theorem StepShape.finish (hshape : StepShape Real s.req s.draftStarts)
    (hsome : s.req.inflightTasks ≠ [])
    (heos : s.req.isEosGenerated = false) (hsplit : s.req.isSplitPrefillStep = false)
    (hgenerated : s.req.generatedTokens = result.generatedTokens)
    (haccepted : s.req.acceptedTokens = result.acceptedTokens)
    (hfit : ∀ oldest ∈ s.req.inflightTasks.head?,
      result.acceptedTokens.length ≤ oldest.workload.draftTokenNum)
    (hsettles : SettlesOldest s.req) :
    ∃ t, finishOldest s result = .ok t ∧
      (result.acceptedTokens <+: oldestDrafts s → CommitsResult s t result) ∧
      (t.req.isEosGenerated = false → BlocksFilled t.req → StepShape Real t.req t.draftStarts) := by
  cases hshape with
  | idle hinflight => exact absurd hinflight hsome
  | alone step start hinflight hstarts hpositions hdraftNums hend =>
    have hwhole : ¬ IsMiddleChunk s.req step := fun hmiddle => by
      rw [(isSplitPrefillStep_iff hinflight).mpr hmiddle] at hsplit
      cases hsplit
    obtain ⟨hstep, hdraftNum, -⟩ := hend hwhole
    obtain ⟨t, hfinish, hcommits, -, -, hqueue, hsame, hafter⟩ := finish_plain hinflight hstarts
      hpositions (fun _ => ⟨hstep, hdraftNum⟩) heos hsplit hgenerated haccepted
      (hfit step (by rw [hinflight]; rfl)) hsettles
    exact ⟨t, hfinish, fun _ => hcommits, fun _ _ =>
      .idle hqueue hafter (hsame.blocks hpositions) ((hsame.draftNums hpositions).trans hdraftNums)⟩
  | pair older newer start next hinflight hstarts hpositions hdraftNums hend holder =>
    have hfitOlder := hfit older (by rw [hinflight]; rfl)
    obtain ⟨t, hfinish, hcommits, htokens, hdraftNum, hqueue, hsame, hafter⟩ := finish_plain
      hinflight hstarts hpositions (fun hnone => absurd hnone (List.cons_ne_nil _ _)) heos hsplit
      hgenerated haccepted hfitOlder hsettles
    have hnoneRejected : older.workload.draftTokenNum - result.acceptedTokens.length = 0 := by
      rw [SettlesOldest, oldestDraftNum, hinflight, haccepted, hpositions] at hsettles
      rcases hsettles with hnoDrafts | ⟨hpending, -⟩ | ⟨-, halone⟩ | ⟨-, -, hall⟩
      · simp only at hnoDrafts
        omega
      · exact absurd rfl hpending
      · simp at halone
      · simp only at hall
        omega
    have hkept : keptTokens s result = s.req.forwardingTokens := by
      have hsameNum : result.acceptedTokens.length = older.workload.draftTokenNum := by omega
      rw [keptTokens, oldestDraftNum, hinflight, hsameNum]
      exact List.take_append_drop _ _
    refine ⟨t, hfinish, fun _ => hcommits, fun _ _ => .alone newer next hqueue ?_
      (hsame.blocks hpositions) ((hsame.draftNums hpositions).trans hdraftNums) ?_⟩
    · rw [hafter, hnoneRejected]
      rfl
    · intro hwhole
      rw [htokens, hkept, hdraftNum]
      refine hend fun hmiddle => hwhole ?_
      rw [IsMiddleChunk] at hmiddle ⊢
      rw [hsame.prefilling]
      exact hmiddle
  | ownBlock step pos hinflight hstarts hpositions hdraftNums hend hmain hone =>
    have howns : ¬ s.req.FillsNextBlock := fun hfills => by
      rw [InferRequest.FillsNextBlock, InferRequest.getInflightCount, hinflight] at hfills
      exact absurd hfills.1 (Nat.lt_irrefl 1)
    obtain ⟨hfinish, hshifted, -, hcommits⟩ := finish_own hinflight hstarts hpositions hdraftNums
      (Nat.le_of_eq hend) (fun next hmem => absurd hmem List.not_mem_nil) howns heos hsplit
      hgenerated haccepted (hfit step (by rw [hinflight]; rfl))
    refine ⟨_, hfinish, hcommits, fun _ _ => .idle ?_ ?_ hshifted ?_⟩
    · show s.req.inflightTasks.tail = []
      rw [hinflight]
      rfl
    · rw [finished, hstarts]
      rfl
    · show s.req.pendingPlaceholderDraftNums.tail = []
      rw [hdraftNums]
      rfl
  | blockThenReal older newer pos hinflight hstarts hpositions hdraftNums hend hmain hreal =>
    have hfitOlder := hfit older (by rw [hinflight]; rfl)
    have howns : ¬ s.req.FillsNextBlock := fun hfills => by
      rw [InferRequest.FillsNextBlock, hpositions] at hfills
      exact hmain hfills.2
    obtain ⟨hfinish, hshifted, hlength, hcommits⟩ := finish_own hinflight hstarts hpositions
      hdraftNums (by omega) (fun next hmem => absurd hmem List.not_mem_nil) howns heos hsplit
      hgenerated haccepted hfitOlder
    have holdest := oldestDraftNum_cons hinflight
    refine ⟨_, hfinish, hcommits, fun _ _ => .alone newer
      (pos + 1 + result.acceptedTokens.length + 1) ?_ ?_ hshifted ?_ fun _ => ⟨?_, ?_, hreal⟩⟩
    · show s.req.inflightTasks.tail = [newer]
      rw [hinflight]
      rfl
    · rw [finished, hstarts, holdest]
      simp only [List.tail_cons, List.map_cons, List.map_nil]
      congr 1
      omega
    · show s.req.pendingPlaceholderDraftNums.tail = []
      rw [hdraftNums]
      rfl
    · show _ = s.req.refilledTokens.length
      rw [hlength]
      omega
    · show (if 1 < s.req.refilledTokens.length - _ then s.req.refilledTokens.length - _ - 1 else 0) =
        newer.workload.draftTokenNum
      rw [hlength, hpositions, List.headD_cons, haccepted]
      split <;> omega
  | realThenBlock older newer start hinflight hstarts hpositions hdraftNums hend hmain hreal =>
    have hfills : s.req.FillsNextBlock := by
      rw [InferRequest.FillsNextBlock, InferRequest.getInflightCount, hinflight, hpositions]
      exact ⟨Nat.lt_succ_self 1, hmain⟩
    have hnoDrafts : older.workload.draftTokenNum = 0 := by
      rw [SettlesOldest, oldestDraftNum_cons hinflight] at hsettles
      rcases hsettles with hnoDrafts | ⟨-, howns⟩ | ⟨hnone, -⟩ | ⟨hnone, -⟩
      · exact hnoDrafts
      · exact absurd hfills howns
      · simp [hpositions] at hnone
      · simp [hpositions] at hnone
    rw [hnoDrafts, Nat.add_zero] at hstarts hpositions hend hmain
    obtain ⟨hfinish, hcommits⟩ := finish_backfill hinflight hstarts hpositions hdraftNums hend hmain
      hnoDrafts heos hsplit hgenerated haccepted (hfit older (by rw [hinflight]; rfl))
    have hfitOlder := hfit older (by rw [hinflight]; rfl)
    exact ⟨_, hfinish, fun _ => hcommits,
      .backfilled hinflight hstarts hpositions hdraftNums hend (by omega)⟩
  | twoBlocks older newer pos hinflight hstarts hpositions hdraftNums hend hmain =>
    have hfitOlder := hfit older (by rw [hinflight]; rfl)
    have howns : ¬ s.req.FillsNextBlock := fun hfills => by
      rw [InferRequest.FillsNextBlock, hpositions] at hfills
      exact hmain hfills.2
    obtain ⟨hfinish, hshifted, hlength, hcommits⟩ := finish_own hinflight hstarts hpositions
      hdraftNums (by omega) (fun next hmem => by
        obtain rfl := List.mem_singleton.mp hmem
        omega) howns heos hsplit hgenerated haccepted hfitOlder
    have holdest := oldestDraftNum_cons hinflight
    refine ⟨_, hfinish, hcommits, fun heosAfter hfilled => ?_⟩
    have hqueue : (finished s result s.req.retiredOwn).req.inflightTasks = [newer] := by
      show s.req.inflightTasks.tail = [newer]
      rw [hinflight]
      rfl
    have hblock : (finished s result s.req.retiredOwn).req.pendingPlaceholderPositions =
        [pos + 1 + result.acceptedTokens.length] := by
      refine hshifted.trans ?_
      simp only [List.map_cons, List.map_nil]
      congr 1
      omega
    obtain ⟨token, hread, htoken⟩ := hfilled.filled heosAfter
      (by rw [hblock]; exact List.cons_ne_nil _ _) (by rw [hblock, hqueue]; rfl)
    rw [hblock, List.headD_cons] at hread
    refine .ownBlock newer (pos + 1 + result.acceptedTokens.length) hqueue ?_ hblock ?_ ?_ ?_
      (Nat.zero_le 1)
    · rw [finished, hstarts, holdest]
      simp only [List.tail_cons, List.map_cons, List.map_nil]
      congr 1
      omega
    · show s.req.pendingPlaceholderDraftNums.tail = [newer.workload.draftTokenNum]
      rw [hdraftNums]
      rfl
    · show _ = s.req.refilledTokens.length
      rw [hlength]
      omega
    · rw [hread]
      intro hplaceholder
      rw [Option.some.inj hplaceholder] at htoken
      exact absurd htoken (by decide)

theorem StepShape.finish_split {t : PipelineState} (hshape : StepShape Real s.req s.draftStarts)
    (horder : PlanOrder s.req) (heos : s.req.isEosGenerated = false)
    (hsplit : s.req.isSplitPrefillStep = true) (h : finishOldest s result = .ok t) :
    StepShape Real t.req t.draftStarts := by
  obtain ⟨updated, hupdate, h⟩ := bind_ok h
  obtain rfl := Except.ok.inj h
  have hsame := updateAfterInflightTaskFinished_sameOrder hupdate
  have hkeeps : updated.forwardingTokens = s.req.forwardingTokens ∧
      updated.forwardingTokensDraftNum = s.req.forwardingTokensDraftNum := by
    cases hinflight : s.req.inflightTasks with
    | nil =>
      rw [InferRequest.isSplitPrefillStep, hinflight] at hsplit
      cases hsplit
    | cons oldest queue =>
      rw [InferRequest.updateAfterInflightTaskFinished_split s.req hinflight heos hsplit] at hupdate
      obtain rfl := Except.ok.inj hupdate
      simp only [InferRequest.refreshWorkloads]
      split <;> exact ⟨rfl, rfl⟩
  have hnoBlock : s.req.pendingPlaceholderPositions = [] := by
    by_contra hpending
    cases hinflight : s.req.inflightTasks with
    | nil =>
      rw [InferRequest.isSplitPrefillStep, hinflight] at hsplit
      cases hsplit
    | cons oldest queue =>
      exact horder.sampled hpending oldest (by rw [hinflight]; exact List.mem_cons_self)
        ((isSplitPrefillStep_iff hinflight).mp hsplit)
  have hpositions' := hsame.blocks hnoBlock
  have hdraftNums' := hsame.draftNums hnoBlock
  cases hshape with
  | idle hinflight =>
    rw [InferRequest.isSplitPrefillStep, hinflight] at hsplit
    cases hsplit
  | alone step start hinflight hstarts hpositions hdraftNums hend =>
    refine .idle ?_ ?_ hpositions' (hdraftNums'.trans hdraftNums)
    · show updated.inflightTasks.tail = []
      rw [hsame.inflight, hinflight]
      rfl
    · rw [hstarts]
      rfl
  | pair older newer start next hinflight hstarts hpositions hdraftNums hend holder =>
    refine .alone newer next ?_ ?_ hpositions' (hdraftNums'.trans hdraftNums) ?_
    · show updated.inflightTasks.tail = [newer]
      rw [hsame.inflight, hinflight]
      rfl
    · simp only [hstarts, hsplit, if_true, List.tail_cons, List.map_cons, List.map_nil, Nat.sub_zero]
    · intro hwhole
      show next + newer.workload.draftTokenNum = updated.forwardingTokens.length ∧
        updated.forwardingTokensDraftNum = newer.workload.draftTokenNum ∧ Real newer
      rw [hkeeps.1, hkeeps.2]
      refine hend fun hmiddle => hwhole ?_
      show 0 < newer.workload.prefillTokenNum ∧ newer.workload.prefillTokenNum +
        newer.workload.prefillStartOffset < updated.prefillingTokens.length
      rw [hsame.prefilling]
      exact hmiddle
  | ownBlock step pos hinflight hstarts hpositions => simp [hnoBlock] at hpositions
  | blockThenReal older newer pos hinflight hstarts hpositions => simp [hnoBlock] at hpositions
  | realThenBlock older newer start hinflight hstarts hpositions => simp [hnoBlock] at hpositions
  | twoBlocks older newer pos hinflight hstarts hpositions => simp [hnoBlock] at hpositions

omit [DraftTokensApi] in
theorem StepShape.deliver {req : InferRequest} {starts : List Nat}
    (hshape : StepShape Real req starts) (horder : PlanOrder req)
    (hsome : req.inflightTasks ≠ [])
    (hone : req.isSplitPrefillStep = false →
      ∀ oldest ∈ req.inflightTasks.head?, result.generatedTokens.length ≤ 1) :
    StepShape Real (Engine.deliver req result) starts := by
  refine hshape.congr rfl rfl rfl rfl rfl rfl fun hpending _ => ?_
  obtain ⟨oldest, queue, hinflight⟩ := List.exists_cons_of_ne_nil hsome
  have hwhole := horder.sampled hpending oldest (by rw [hinflight]; exact List.mem_cons_self)
  have hsplit : req.isSplitPrefillStep = false := by
    rw [Bool.eq_false_iff]
    exact fun hsplit => hwhole ((isSplitPrefillStep_iff hinflight).mp hsplit)
  exact hone hsplit oldest (by rw [hinflight]; rfl)

end Finish

section Run

variable [DraftTokensApi] {Fits : ScheduleTask → StepResult → Prop} {Real : ScheduleTask → Prop}
  {s t : PipelineState} {op : PipelineOp} {ops : List PipelineOp}

/-- The queue is in order and, before a stop token, the steps in flight have a shape. -/
structure Tracked (Fits : ScheduleTask → StepResult → Prop) (Real : ScheduleTask → Prop)
    (s : PipelineState) : Prop extends QueueInvariant Fits s where
  shape : s.req.isEosGenerated = false → StepShape Real s.req s.draftStarts

/-- What a step returns is at most one token and at most the drafts it carried. -/
def FitsStep (Fits : ScheduleTask → StepResult → Prop) : Prop :=
  ∀ step result, Fits step result → result.generatedTokens.length ≤ 1 ∧
    result.acceptedTokens.length ≤ step.workload.draftTokenNum

theorem updateAfterInflightTaskFinished_keeps_eos {req after : InferRequest}
    (heos : req.isEosGenerated = true) (h : req.updateAfterInflightTaskFinished = .ok after) :
    after = req.discardStepAfterEos := by
  obtain ⟨-, hcase⟩ := InferRequest.updateAfterInflightTaskFinished_cases h
  cases hcase with
  | afterEos => rfl
  | middleChunk hrunning => simp [heos] at hrunning
  | plain oldest queue hinflight hrunning => simp [heos] at hrunning
  | backfill hrunning => simp [heos] at hrunning
  | own hrunning => simp [heos] at hrunning

theorem Tracked.step (hFits : FitsStep Fits) (hs : Tracked Fits Real s)
    (hop : OpPermitted Fits s op) (htoken : FindsToken s t op) (hsettles : SettlesOnFinish s op)
    (hreal : op = .launch → LaunchesReal Real s.req t.req)
    (h : pipelineStep true kMaxInflightDepth s op = .ok t) : Tracked Fits Real t := by
  have hqueue := hs.toQueueInvariant.step hop htoken h
  refine ⟨hqueue, fun hrunning => ?_⟩
  cases op with
  | restart cached =>
    obtain ⟨-, h⟩ := check_bind_ok h
    obtain rfl := Except.ok.inj h
    exact .idle rfl rfl rfl rfl
  | generateDrafts drafts =>
    obtain rfl := Except.ok.inj h
    exact (hs.shape hrunning).congr rfl rfl rfl rfl rfl rfl fun _ hone => hone
  | plan workload =>
    obtain ⟨planned, hplan, h⟩ := bind_ok h
    obtain rfl := Except.ok.inj h
    obtain ⟨-, -, rfl⟩ := plan_ok hplan
    exact (hs.shape hrunning).congr rfl rfl rfl rfl rfl rfl fun _ hone => hone
  | launch =>
    obtain ⟨launched, hlaunch, h⟩ := bind_ok h
    obtain rfl := Except.ok.inj h
    have hpushed := (launch_ok hlaunch).2.2
    have heos := (InferRequest.launchPlanningTask_keeps hpushed).1.eos
    exact (hs.shape (heos.symm.trans hrunning)).launch hs.order hpushed (Or.inl rfl)
      (hreal rfl)
  | deliver result =>
    obtain ⟨⟨-, hsome⟩, h⟩ := check_bind_ok h
    obtain rfl := Except.ok.inj h
    exact (hs.shape hrunning).deliver hs.order hsome fun hsplit oldest holdest =>
      (hFits oldest result (hop hsplit oldest holdest)).1
  | finish =>
    rw [pipelineStep] at h
    split at h
    · cases h
    · rename_i result hdelivered
      obtain ⟨hsome, hgenerated, haccepted, hfits⟩ := hs.arrived result hdelivered
      cases heos : s.req.isEosGenerated with
      | true =>
        obtain ⟨updated, hupdate, h⟩ := bind_ok h
        obtain rfl := Except.ok.inj h
        obtain rfl := updateAfterInflightTaskFinished_keeps_eos heos hupdate
        rw [InferRequest.resetInflightTask, InferRequest.discardStepAfterEos, heos] at hrunning
        cases hrunning
      | false =>
        cases hsplit : s.req.isSplitPrefillStep with
        | true => exact (hs.shape heos).finish_split hs.order heos hsplit h
        | false =>
          obtain ⟨t', hfinish, -, hshape⟩ := (hs.shape heos).finish hsome heos hsplit hgenerated
            haccepted (fun oldest holdest => (hFits oldest result (hfits hsplit oldest holdest)).2)
            (hsettles rfl heos hsplit)
          obtain rfl := Except.ok.inj (hfinish.symm.trans h)
          exact hshape hrunning hqueue.blocks

theorem Tracked.of_fresh (Fits : ScheduleTask → StepResult → Prop) (Real : ScheduleTask → Prop)
    (start : InferRequest) {cached : Nat} (hcached : cached ≤ start.outputTokens.length) :
    Tracked Fits Real { req := admitted start cached } where
  toQueueInvariant := .of_fresh Fits start hcached
  shape := fun _ => .idle rfl rfl rfl rfl

omit [DraftTokensApi] in
theorem sampledResult_fitsStep : FitsStep SampledResult :=
  fun _ _ hfits => ⟨Nat.le_of_eq hfits.1, hfits.2.2⟩

/-- In every run whose retirements settle, the next one that settles commits what its step
returned, whatever was launched and delivered before. -/
theorem retirement_commits_result (start : InferRequest) (cached : Nat) (ops : List PipelineOp)
    (result : StepResult) (hcached : cached ≤ start.outputTokens.length)
    (hrun : exec (pipelineStep true kMaxInflightDepth) { req := admitted start cached } ops = .ok s)
    (hsteps : EachStep (pipelineStep true kMaxInflightDepth)
      (fun s op => OpPermitted SampledResult s op ∧ SettlesOnFinish s op)
      { req := admitted start cached } ops)
    (hdelivered : s.delivered = some result) (hrunning : s.req.isEosGenerated = false)
    (hsplit : s.req.isSplitPrefillStep = false) (haccepted : result.acceptedTokens <+: oldestDrafts s)
    (hsettles : SettlesOldest s.req) :
    ∃ t, pipelineStep true kMaxInflightDepth s .finish = .ok t ∧ CommitsResult s t result := by
  have hinv : Tracked SampledResult (fun _ => True) s :=
    exec_invariant_of (fun _ _ _ hs hop h => hs.step sampledResult_fitsStep hop.1
      (hs.toQueueInvariant.findsToken h) hop.2 (fun _ _ _ _ _ => trivial) h)
      (Tracked.of_fresh SampledResult (fun _ => True) start hcached) hsteps hrun
  obtain ⟨hsome, hgenerated, haccepted', hfits⟩ := hinv.arrived result hdelivered
  obtain ⟨t, hfinish, hcommits, -⟩ := (hinv.shape hrunning).finish hsome hrunning hsplit hgenerated
    haccepted' (fun oldest holdest => (hfits hsplit oldest holdest).2.2) hsettles
  refine ⟨t, ?_, hcommits haccepted⟩
  rw [pipelineStep, hdelivered]
  exact hfinish

end Run

/-- One of two drafts accepted. -/
def commitSampleResult : StepResult where
  generatedTokens := [21]
  acceptedTokens := [40]
  draftTokens := { mtp := [42] }

/-- A decode step with two drafts, another one launched behind it, and its result. -/
def commitSampleRun : List PipelineOp :=
  [.plan { prefillTokenNum := 2 }, .launch,
    .plan { generatedTokenNum := 1, draftTokenNum := 2 }, .launch,
    .deliver { generatedTokens := [20], draftTokens := { mtp := [40, 41] } }, .finish,
    .plan { generatedTokenNum := 1, draftTokenNum := 1 }, .launch,
    .deliver commitSampleResult]

theorem retirement_commits_result_sample :
    letI := concatDraftTokens
    ∃ s t, exec (pipelineStep true kMaxInflightDepth) { req := admitted drainSample 0 }
        commitSampleRun = .ok s ∧
      s.req.forwardingTokens = [11, 12, 20, 40, 41, -1, -1] ∧
      pipelineStep true kMaxInflightDepth s .finish = .ok t ∧
      CommitsResult s t commitSampleResult := by
  let _ := concatDraftTokens
  have hsteps : EachStep (pipelineStep true kMaxInflightDepth)
      (fun s op => OpPermitted SampledResult s op ∧ SettlesOnFinish s op)
      { req := admitted drainSample 0 } commitSampleRun := eachStep_of_check (by decide +kernel)
  obtain ⟨t, hfinish, hcommits⟩ := retirement_commits_result drainSample 0 commitSampleRun
    commitSampleResult (by decide) rfl hsteps rfl rfl rfl ⟨[41], rfl⟩ (by decide)
  exact ⟨_, t, rfl, rfl, hfinish, hcommits⟩

/-- A request drained without its token launches its drafts, and a decode step behind them. -/
def uncommittedRun : List PipelineOp :=
  queueSampleRun ++
    [.deliver { generatedTokens := [21], acceptedTokens := [40], draftTokens := { mtp := [41] } },
    .finish, .plan { generatedTokenNum := 1, draftTokenNum := 1 }, .launch,
    .plan { generatedTokenNum := 1 }, .launch,
    .deliver { generatedTokens := [22], acceptedTokens := [41] }]

theorem retirement_drops_accepted_draft :
    letI := concatDraftTokens
    ∃ s t, exec (pipelineStep true kMaxInflightDepth) { req := admitted drainSample 0 }
        uncommittedRun = .ok s ∧
      EachStep (pipelineStep true kMaxInflightDepth) (OpPermitted SampledResult)
        { req := admitted drainSample 0 } uncommittedRun ∧
      s.delivered = some { generatedTokens := [22], acceptedTokens := [41] } ∧
      s.req.isEosGenerated = false ∧ s.req.isSplitPrefillStep = false ∧
      [41] <+: oldestDrafts s ∧
      pipelineStep true kMaxInflightDepth s .finish = .ok t ∧
      s.req.outputTokens = [11, 12, 20, 40, 21] ∧ t.req.outputTokens = [11, 12, 20, 40, 21, 22] ∧
      ¬ CommitsResult s t { generatedTokens := [22], acceptedTokens := [41] } := by
  let _ := concatDraftTokens
  have hpermitted : EachStep (pipelineStep true kMaxInflightDepth) (OpPermitted SampledResult)
      { req := admitted drainSample 0 } uncommittedRun := eachStep_of_check (by decide +kernel)
  refine ⟨_, _, rfl, hpermitted, rfl, rfl, rfl, ⟨[], rfl⟩, rfl, rfl, rfl, ?_⟩
  intro hcommits
  have houtput : ([11, 12, 20, 40, 21, 22] : List Int) = [11, 12, 20, 40, 21, 41, 22] :=
    hcommits.output
  exact absurd houtput (by decide)

end KsanaBuildAhead.Engine
