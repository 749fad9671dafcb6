import KsanaBuildAhead.Engine.LoggedLaunches
import KsanaBuildAhead.Engine.RetireCommits

/-!
# Retirements in the log

A retirement moves the block behind it up by the rejected drafts, which is where the newest
record expects it. With the launches this makes the log of every run orderly.
-/
namespace KsanaBuildAhead.Engine

open KsanaBuildAhead.Runtime KsanaBuildAhead.Lib.ListEdit KsanaBuildAhead.Lib.Execution

variable [DraftTokensApi] {results : Nat → StepResult} {s t : LoggedRun} {op : PipelineOp}

theorem finish_logged (h : loggedStep s .finish = .ok t) :
    ∃ result updated, s.engine.delivered = some result ∧
      s.engine.req.updateAfterInflightTaskFinished = .ok updated ∧
      t.engine.req = updated.resetInflightTask ∧ t.engine.delivered = none ∧
      t.retired = s.retired + 1 ∧ t.log = s.log := by
  obtain ⟨hstep, hretired, hlog⟩ := loggedStep_ok h
  rw [if_pos rfl] at hretired
  rw [if_neg (by simp)] at hlog
  rw [pipelineStep] at hstep
  split at hstep
  · cases hstep
  · rename_i result hdelivered
    obtain ⟨updated, hupdate, hstep⟩ := bind_ok hstep
    have hengine := Except.ok.inj hstep
    rw [← hengine]
    exact ⟨result, updated, hdelivered, hupdate, rfl, rfl, hretired, hlog⟩

omit [DraftTokensApi] in
theorem BlockPhase.finish_middle (hs : BlockPhase results s)
    (hdepth : s.engine.req.inflightTasks.length ≤ kMaxInflightDepth)
    {oldest : ScheduleTask} {queue : List ScheduleTask}
    (hnone : s.engine.req.pendingPlaceholderPositions = [])
    (hinflight : s.engine.req.inflightTasks = oldest :: queue)
    (hmid : IsMiddleChunk s.engine.req oldest) (hlog : t.log = s.log)
    (hnone' : t.engine.req.pendingPlaceholderPositions = [])
    (hinflight' : t.engine.req.inflightTasks = queue)
    (hforwarding : t.engine.req.forwardingTokens = s.engine.req.forwardingTokens)
    (hprefilling : t.engine.req.prefillingTokens = s.engine.req.prefillingTokens)
    (hgenerated' : t.engine.req.generatedTokens = []) (hdelivered' : t.engine.delivered = none) :
    BlockPhase results t := by
  cases hs with
  | settled _ _ _ hsampled =>
    exact absurd hmid (hsampled oldest (by rw [hinflight]; exact List.mem_cons_self))
  | unblocked _ _ _ _ hnewest =>
    rw [hinflight, kMaxInflightDepth, List.length_cons] at hdepth
    refine .unblocked hnone' ?_ (fun _ => hgenerated') (fun hsome => absurd hdelivered' hsome) ?_
    · intro older newer hpair
      rw [hinflight'] at hpair
      rw [hpair, List.length_cons, List.length_singleton] at hdepth
      omega
    · rw [hinflight']
      intro newest hmem
      have hlast : newest ∈ s.engine.req.inflightTasks.getLast? := by
        rw [hinflight, List.getLast?_cons_of_ne_nil]
        · exact hmem
        · rintro rfl
          cases hmem
      rw [hlog, hforwarding, IsMiddleChunk, hprefilling]
      exact hnewest newest hlast
  | realThenBlock _ _ _ _ _ hpositions => simp [hnone] at hpositions
  | ownBlock _ _ _ _ hpositions => simp [hnone] at hpositions
  | twoBlocks _ _ _ _ _ hpositions => simp [hnone] at hpositions

/-- A step without a block retires: the cut at the end of the sequence leaves vocabulary tokens. -/
theorem VocabTokens.retirePlain {req : InferRequest} (hs : VocabTokens req)
    (hnone : req.pendingPlaceholderPositions = []) (workload : ScheduleTaskWorkload) :
    VocabTokens (req.retireWithoutPlaceholder workload).refreshWorkloads := by
  obtain ⟨-, hforwarding, -, -, -⟩ :=
    InferRequest.refreshWorkloads_tokens (req.retireWithoutPlaceholder workload)
  have hkept : ((req.retireWithoutPlaceholder workload).refreshWorkloads).prefillingTokens =
        req.prefillingTokens ∧
      ((req.retireWithoutPlaceholder workload).refreshWorkloads).draftTokens = req.draftTokens := by
    simp only [InferRequest.retireWithoutPlaceholder, InferRequest.refreshWorkloads]
    split <;> split <;> exact ⟨rfl, rfl⟩
  refine .of_all ?_ ?_ ?_
  · rw [hkept.1]
    exact hs.prefilling
  · rw [hkept.2]
    exact hs.drafts
  · rw [hforwarding]
    intro token hmem
    simp only [InferRequest.retireWithoutPlaceholder] at hmem
    split at hmem
    · rcases List.mem_append.mp hmem with hold | hpadded
      · exact hs.all hnone token (List.mem_of_mem_take hold)
      · rw [List.eq_of_mem_replicate hpadded]
    · exact hs.all hnone token hmem

omit [DraftTokensApi] in
theorem BlockPhase.finish_settled (hs : BlockPhase results s)
    {oldest : ScheduleTask} {queue : List ScheduleTask}
    (hnone : s.engine.req.pendingPlaceholderPositions = [])
    (hinflight : s.engine.req.inflightTasks = oldest :: queue)
    (hwhole : ¬ IsMiddleChunk s.engine.req oldest) (hdelivered : s.engine.delivered ≠ none)
    (hnone' : t.engine.req.pendingPlaceholderPositions = [])
    (hinflight' : t.engine.req.inflightTasks = queue)
    (hprefilling : t.engine.req.prefillingTokens = s.engine.req.prefillingTokens)
    (hgenerated' : t.engine.req.generatedTokens = s.engine.req.generatedTokens)
    (hleft' : t.engine.req.remainingWorkload.prefillTokenNum =
      s.engine.req.remainingWorkload.prefillTokenNum)
    (htask' : t.engine.req.planningTask = s.engine.req.planningTask) : BlockPhase results t := by
  cases hs with
  | settled _ hgenerated hvocab hsampled hleft htask =>
    refine .settled hnone' ?_ ?_ ?_ (hleft'.trans hleft) (by rw [htask']; exact htask)
    · rw [hgenerated']
      exact hgenerated
    · rw [hgenerated']
      exact hvocab
    · rw [hinflight']
      intro step hmem
      rw [IsMiddleChunk, hprefilling]
      exact hsampled step (by rw [hinflight]; exact List.mem_cons_of_mem _ hmem)
  | unblocked _ _ _ harrived =>
    exact absurd (harrived hdelivered oldest (by rw [hinflight]; rfl)) hwhole
  | realThenBlock _ _ _ _ _ hpositions => simp [hnone] at hpositions
  | ownBlock _ _ _ _ hpositions => simp [hnone] at hpositions
  | twoBlocks _ _ _ _ _ hpositions => simp [hnone] at hpositions

/-- A step without drafts fills the block behind it, which becomes the only one. -/
theorem LiveLog.finish_backfill (hs : LiveLog results s)
    (hpending : s.engine.req.pendingPlaceholderPositions ≠ []) (hfills : s.engine.req.FillsNextBlock)
    (hrunning : s.engine.req.isEosGenerated = false)
    (hreq : t.engine.req = s.engine.req.backfilled.resetInflightTask)
    (hlog : t.log = s.log) :
    VocabTokens t.engine.req ∧ BlockPhase results t := by
  cases hs.phase with
  | settled hnone => exact absurd hnone hpending
  | unblocked hnone => exact absurd hnone hpending
  | realThenBlock older newer pos record hinflight hpositions hdraftNums hend hmain hlast hsamples
      hdraftNum hblock hprev =>
    have hpositions' : t.engine.req.pendingPlaceholderPositions = [pos] := by
      rw [hreq]
      exact hpositions
    have htokens : t.engine.req.forwardingTokens.take pos =
        s.engine.req.forwardingTokens.take pos := by
      rw [hreq]
      simp only [InferRequest.resetInflightTask, InferRequest.backfilled,
        InferRequest.planGeneratedTokens, hpositions, List.headD_cons]
      split
      · rfl
      · rw [InferRequest.fillPlaceholderBlock, take_overwrite]
    refine ⟨⟨?_, ?_, ?_⟩, .ownBlock newer pos record ?_ hpositions' ?_ ?_ (by rw [hlog]; exact hlast)
      hsamples hdraftNum ?_⟩
    · rw [hreq]
      exact hs.vocab.prefilling
    · rw [hreq]
      exact hs.vocab.drafts
    · have hbefore := hs.vocab.forwarding
      rw [hpositions, List.headD_cons] at hbefore
      rw [hpositions', List.headD_cons, htokens]
      exact hbefore
    · rw [hreq]
      show s.engine.req.inflightTasks.tail = [newer]
      rw [hinflight]
      rfl
    · rw [hreq]
      exact hdraftNums
    · rw [hreq]
      exact hend.trans (backfilled_length s.engine.req).symm
    · rw [hblock, rejectedBefore, hprev, Nat.zero_sub, Nat.add_zero]
  | ownBlock step pos record hinflight =>
    have hmany := hfills.1
    rw [InferRequest.getInflightCount, hinflight] at hmany
    exact absurd hmany (Nat.lt_irrefl 1)
  | twoBlocks older newer pos record hinflight hpositions =>
    obtain ⟨token, hread, htoken⟩ := hs.queue.blocks.filled hrunning hpending
      (by rw [hpositions, hinflight]; rfl)
    rw [hfills.2, Option.some.injEq] at hread
    rw [← hread] at htoken
    exact absurd htoken (by decide)

/-- The tokens a block leaves when it retires, up to its last accepted draft. -/
theorem LiveLog.trimmedTokens_vocab {result : StepResult} (hs : LiveLog results s)
    (hpending : s.engine.req.pendingPlaceholderPositions ≠ [])
    (hrunning : s.engine.req.isEosGenerated = false)
    (hroom : s.engine.req.pendingPlaceholderPositions.headD 0 + 1 +
      s.engine.req.pendingPlaceholderDraftNums.headD 0 ≤ s.engine.req.forwardingTokens.length)
    (hfit : s.engine.req.acceptedTokens.length ≤ s.engine.req.pendingPlaceholderDraftNums.headD 0)
    (hdelivered : s.engine.delivered = some result)
    (hfull : s.engine.req.pendingPlaceholderPositions.length =
      s.engine.req.inflightTasks.length) :
    ∀ token ∈ s.engine.req.trimmedTokens.take
      (s.engine.req.pendingPlaceholderPositions.headD 0 + 1 + s.engine.req.acceptedTokens.length),
      0 ≤ token := by
  obtain ⟨hsome, -, haccepted, -⟩ := hs.queue.arrived result hdelivered
  obtain ⟨oldest, queue, hinflight⟩ := List.exists_cons_of_ne_nil hsome
  have hwhole := hs.queue.order.sampled hpending oldest (by rw [hinflight]; exact List.mem_cons_self)
  have hvocab := ((hs.oldest oldest (by rw [hinflight]; rfl)).2 hwhole).2
  rw [← hs.arrives result hdelivered, ← haccepted] at hvocab
  obtain ⟨token, hread, htoken⟩ := hs.queue.blocks.filled hrunning hpending hfull
  have hbefore := hs.vocab.forwarding
  obtain ⟨pos, rest, hpositions⟩ := List.exists_cons_of_ne_nil hpending
  rw [hpositions, List.headD_cons] at hread hroom hbefore ⊢
  have hwritten : s.engine.req.trimmedTokens.take (pos + 1 + s.engine.req.acceptedTokens.length) =
      s.engine.req.forwardingTokens.take (pos + 1) ++ s.engine.req.acceptedTokens := by
    rw [InferRequest.trimmedTokens, hpositions, List.headD_cons, eraseRange,
      List.take_left' (by rw [List.length_take, overwrite_length]; omega),
      take_overwrite_end _ _ (by omega)]
  rw [hwritten, List.take_add_one, hread]
  intro kept hmem
  rcases List.mem_append.mp hmem with hfront | hnew
  · rcases List.mem_append.mp hfront with hold | hmain
    · exact hbefore kept hold
    · obtain rfl := List.mem_singleton.mp hmain
      exact htoken
  · exact hvocab kept hnew

/-- A block retires: the tokens up to the last accepted draft stay, and the block behind it, if
there is one, moves up to them. -/
theorem LiveLog.finish_own {result : StepResult} (hs : LiveLog results s)
    (hpending : s.engine.req.pendingPlaceholderPositions ≠ [])
    (howns : ¬ s.engine.req.FillsNextBlock) (hrunning : s.engine.req.isEosGenerated = false)
    (hfit : s.engine.req.acceptedTokens.length ≤ s.engine.req.pendingPlaceholderDraftNums.headD 0)
    (hroom : s.engine.req.pendingPlaceholderPositions.headD 0 + 1 +
      s.engine.req.pendingPlaceholderDraftNums.headD 0 ≤ s.engine.req.forwardingTokens.length)
    (hdelivered : s.engine.delivered = some result)
    (hreq : t.engine.req = s.engine.req.retiredOwn.resetInflightTask)
    (hdelivered' : t.engine.delivered = none) (hretired : t.retired = s.retired + 1)
    (hlog : t.log = s.log) :
    VocabTokens t.engine.req ∧ BlockPhase results t := by
  obtain ⟨-, -, haccepted, -⟩ := hs.queue.arrived result hdelivered
  have hresult := hs.arrives result hdelivered
  have hshown : ∀ record : LaunchRecord, rejectedBefore results t.retired record =
      record.prevDraftNum - s.engine.req.acceptedTokens.length := by
    intro record
    rw [rejectedBefore, hretired, Nat.add_sub_cancel, ← hresult, haccepted]
  have htrimmed := trimmedTokens_length hfit hroom
  have hlength : s.engine.req.refilledTokens.length =
      s.engine.req.forwardingTokens.length - s.engine.req.rejectedNum :=
    refilledTokens_length.trans htrimmed
  have hkept := hs.trimmedTokens_vocab hpending hrunning hroom hfit hdelivered
  cases hs.phase with
  | settled hnone => exact absurd hnone hpending
  | unblocked hnone => exact absurd hnone hpending
  | realThenBlock older newer pos record hinflight hpositions hdraftNums hend hmain =>
    refine absurd ⟨?_, ?_⟩ howns
    · rw [InferRequest.getInflightCount, hinflight]
      exact Nat.lt_succ_self 1
    · rw [hpositions]
      exact hmain
  | ownBlock step pos record hinflight hpositions hdraftNums hend hlast hsamples hdraftNum hblock =>
    have hshifted : s.engine.req.shiftedPositions = [] :=
      shiftedPositions_behind hpositions fun next hmem => absurd hmem List.not_mem_nil
    have hnone' : t.engine.req.pendingPlaceholderPositions = [] := by
      rw [hreq]
      exact hshifted
    have hidle : t.engine.req.inflightTasks = [] := by
      rw [hreq]
      show s.engine.req.inflightTasks.tail = []
      rw [hinflight]
      rfl
    rw [hpositions, List.headD_cons] at hkept
    have hkept := hkept (by rw [hinflight]; rfl)
    rw [InferRequest.rejectedNum, hdraftNums, List.headD_cons] at htrimmed
    rw [hdraftNums, List.headD_cons] at hfit
    rw [List.take_of_length_le (by omega)] at hkept
    refine ⟨.of_all ?_ ?_ ?_, .unblocked hnone' ?_ ?_ ?_ ?_⟩
    · rw [hreq]
      exact hs.vocab.prefilling
    · rw [hreq]
      exact hs.vocab.drafts
    · rw [hreq]
      show ∀ token ∈ s.engine.req.refilledTokens, 0 ≤ token
      rw [InferRequest.refilledTokens, hshifted]
      exact hkept
    · rw [hidle]
      exact fun older newer hpair => by cases hpair
    · rw [hreq]
      exact fun _ => rfl
    · exact fun hsome => absurd hdelivered' hsome
    · rw [hidle]
      exact fun newest hmem => by cases hmem
  | twoBlocks older newer pos record hinflight hpositions hdraftNums hend hlast hsamples hdraftNum
      hblock hprev =>
    rw [InferRequest.rejectedNum, hdraftNums, List.headD_cons] at hlength
    rw [hdraftNums, List.headD_cons] at hfit
    have hshifted : s.engine.req.shiftedPositions =
        [pos + 1 + s.engine.req.acceptedTokens.length] := by
      rw [shiftedPositions_behind hpositions, InferRequest.rejectedNum, hdraftNums, List.headD_cons]
      · simp only [List.map_cons, List.map_nil, List.cons.injEq, and_true]
        omega
      · intro next hmem
        obtain rfl := List.mem_singleton.mp hmem
        omega
    have hpositions' : t.engine.req.pendingPlaceholderPositions =
        [pos + 1 + s.engine.req.acceptedTokens.length] := by
      rw [hreq]
      exact hshifted
    rw [hpositions, List.headD_cons] at hkept
    have hkept := hkept (by rw [hinflight]; rfl)
    refine ⟨⟨?_, ?_, ?_⟩, .ownBlock newer (pos + 1 + s.engine.req.acceptedTokens.length) record ?_
      hpositions' ?_ ?_ (by rw [hlog]; exact hlast) hsamples hdraftNum ?_⟩
    · rw [hreq]
      exact hs.vocab.prefilling
    · rw [hreq]
      exact hs.vocab.drafts
    · rw [hpositions', List.headD_cons, hreq]
      show ∀ token ∈ s.engine.req.refilledTokens.take _, 0 ≤ token
      rw [take_refilledTokens]
      · exact hkept
      · rw [hshifted]
        rintro next ⟨⟩
        exact Nat.le_refl _
    · rw [hreq]
      show s.engine.req.inflightTasks.tail = [newer]
      rw [hinflight]
      rfl
    · rw [hreq]
      show s.engine.req.pendingPlaceholderDraftNums.tail = [newer.workload.draftTokenNum]
      rw [hdraftNums]
      rfl
    · rw [hreq]
      show _ = s.engine.req.refilledTokens.length
      omega
    · rw [hblock, hshown, hprev]
      congr 1
      omega

theorem LiveLog.finish (hs : LiveLog results s) (hrunning : s.engine.req.isEosGenerated = false)
    (h : loggedStep s .finish = .ok t) (hqueue : QueueInvariant SampledResult t.engine) :
    LiveLog results t := by
  obtain ⟨result, updated, hdelivered, hupdate, hreq, hdelivered', hretired, hlog⟩ := finish_logged h
  have hsame := updateAfterInflightTaskFinished_sameOrder hupdate
  obtain ⟨hsome, hcase⟩ := InferRequest.updateAfterInflightTaskFinished_cases hupdate
  obtain ⟨oldest, queue, hinflight⟩ := List.exists_cons_of_ne_nil hsome
  have hinflight' : t.engine.req.inflightTasks = queue := by
    rw [hreq, InferRequest.resetInflightTask, hsame.inflight, hinflight]
    rfl
  have hprefilling : t.engine.req.prefillingTokens = s.engine.req.prefillingTokens := by
    rw [hreq]
    exact hsame.prefilling
  have hleft : t.engine.req.remainingWorkload.prefillTokenNum =
      s.engine.req.remainingWorkload.prefillTokenNum := by
    rw [hreq]
    exact hsame.left
  have htask : t.engine.req.planningTask = s.engine.req.planningTask := by
    rw [hreq]
    exact hsame.task
  have hmiddle : ∀ step, IsMiddleChunk t.engine.req step ↔ IsMiddleChunk s.engine.req step := by
    intro step
    rw [IsMiddleChunk, IsMiddleChunk, hprefilling]
  have hphase : VocabTokens t.engine.req ∧ BlockPhase results t := by
    cases hcase with
    | afterEos heos => simp [heos] at hrunning
    | middleChunk heos hsplit =>
      have hmid := (isSplitPrefillStep_iff hinflight).mp hsplit
      have hnone : s.engine.req.pendingPlaceholderPositions = [] := by
        by_contra hpending
        exact hs.queue.order.sampled hpending oldest (by rw [hinflight]; exact List.mem_cons_self) hmid
      obtain ⟨-, hforwarding, hgenerated, -, -⟩ :=
        InferRequest.refreshWorkloads_tokens { s.engine.req with
          generatedTokens := []
          draftTokens := DraftTokensApi.clear s.engine.req.draftTokens }
      have hdrafts : t.engine.req.draftTokens = DraftTokensApi.clear s.engine.req.draftTokens := by
        rw [hreq]
        simp only [InferRequest.resetInflightTask, InferRequest.refreshWorkloads]
        split <;> rfl
      have hforwarding' : t.engine.req.forwardingTokens = s.engine.req.forwardingTokens := by
        rw [hreq]
        exact hforwarding
      refine ⟨.of_all ?_ ?_ ?_, hs.phase.finish_middle hs.queue.blocks.depth hnone hinflight hmid hlog
        ?_ hinflight' hforwarding' hprefilling ?_ hdelivered'⟩
      · rw [hprefilling]
        exact hs.vocab.prefilling
      · rw [hdrafts, DraftTokensApi.get_clear]
        exact fun token hmem => absurd hmem List.not_mem_nil
      · rw [hforwarding']
        exact hs.vocab.all hnone
      · rw [hreq]
        exact hsame.blocks hnone
      · rw [hreq]
        exact hgenerated
    | plain step rest hqueued heos hsplit hnone =>
      have hwhole : ¬ IsMiddleChunk s.engine.req oldest := fun hmid => by
        rw [(isSplitPrefillStep_iff hinflight).mpr hmid] at hsplit
        cases hsplit
      obtain ⟨-, -, hgenerated, -, -⟩ :=
        InferRequest.refreshWorkloads_tokens (s.engine.req.retireWithoutPlaceholder step.workload)
      have hvocab := hs.vocab.retirePlain hnone step.workload
      refine ⟨?_, hs.phase.finish_settled hnone hinflight hwhole (by rw [hdelivered]; exact Option.some_ne_none _)
        ?_ hinflight' hprefilling ?_ hleft htask⟩
      · rw [hreq]
        exact ⟨hvocab.prefilling, hvocab.drafts, hvocab.forwarding⟩
      · rw [hreq]
        exact hsame.blocks hnone
      · rw [hreq]
        refine hgenerated.trans ?_
        simp only [InferRequest.retireWithoutPlaceholder]
        split <;> rfl
    | backfill heos hsplit hpending hfills =>
      exact hs.finish_backfill hpending hfills hrunning hreq hlog
    | own heos hsplit hpending howns hfit hroom =>
      exact hs.finish_own hpending howns hrunning hfit hroom hdelivered hreq hdelivered' hretired hlog
  refine ⟨hqueue, ?_, ?_, ?_, ?_, hphase.1, hphase.2⟩
  · have hcount := hs.count
    rw [hinflight, List.length_cons] at hcount
    rw [hlog, hretired, hinflight']
    omega
  · rw [hdelivered']
    exact fun later hlater => by cases hlater
  · rw [hleft, htask, hinflight']
    intro hprompt step hmem
    rw [hmiddle]
    exact hs.chunksFirst hprompt step (by rw [hinflight]; exact List.mem_cons_of_mem _ hmem)
  · intro i step hat
    rw [hinflight'] at hat
    rw [StepReturnsTokens, hmiddle, hretired, Nat.add_assoc, Nat.add_comm 1]
    exact hs.returns (i + 1) step (by rw [hinflight]; exact hat)

/-- The log is in order, and while the request runs it tells the same story as the queues. -/
structure LogInvariant (results : Nat → StepResult) (s : LoggedRun) : Prop where
  log : LogInOrder results s.log
  live : s.engine.req.isEosGenerated = false → LiveLog results s

theorem running_before (hop : LogPermitted results s op) (h : loggedStep s op = .ok t)
    (hrunning : t.engine.req.isEosGenerated = false) : s.engine.req.isEosGenerated = false := by
  obtain ⟨hstep, -, -⟩ := loggedStep_ok h
  cases op with
  | restart cached => exact hop.elim
  | generateDrafts drafts =>
    rw [← Except.ok.inj hstep] at hrunning
    exact hrunning
  | plan workload =>
    obtain ⟨planned, hplan, hstep⟩ := bind_ok hstep
    obtain ⟨-, -, rfl⟩ := plan_ok hplan
    rw [← Except.ok.inj hstep] at hrunning
    exact hrunning
  | launch => exact hop.1
  | deliver result =>
    obtain ⟨-, hstep⟩ := check_bind_ok hstep
    rw [← Except.ok.inj hstep] at hrunning
    exact hrunning
  | finish =>
    obtain ⟨result, updated, -, hupdate, hreq, -, -, -⟩ := finish_logged h
    rw [Bool.eq_false_iff]
    intro heos
    obtain rfl := updateAfterInflightTaskFinished_keeps_eos heos hupdate
    rw [hreq, InferRequest.resetInflightTask, InferRequest.discardStepAfterEos, heos] at hrunning
    cases hrunning

theorem LogInvariant.step (hs : LogInvariant results s) (hop : LogPermitted results s op)
    (hrepairs : LaunchesRepairable results s op) (h : loggedStep s op = .ok t) :
    LogInvariant results t := by
  obtain ⟨hstep, -, hlog⟩ := loggedStep_ok h
  have hqueue : s.engine.req.isEosGenerated = false → QueueInvariant SampledResult t.engine :=
    fun hrunning =>
      have hlive := hs.live hrunning
      hlive.queue.step (hlive.permitted hop) (hlive.queue.findsToken hstep) hstep
  by_cases hlaunches : op = .launch
  · subst hlaunches
    obtain ⟨hlive, hrecord⟩ := (hs.live hop.1).launch hop hrepairs h (hqueue hop.1)
    rw [if_pos rfl] at hlog
    refine ⟨?_, fun _ => hlive⟩
    rw [hlog]
    exact hs.log.concat hrecord
  · rw [if_neg hlaunches] at hlog
    refine ⟨by rw [hlog]; exact hs.log, fun hrunning => ?_⟩
    have hbefore := running_before hop h hrunning
    have hlive := hs.live hbefore
    have hqueue := hqueue hbefore
    cases op with
    | restart cached => exact hop.elim
    | generateDrafts drafts => exact hlive.generateDrafts hop h hqueue
    | plan workload => exact hlive.plan hop h hqueue
    | launch => exact absurd rfl hlaunches
    | deliver result => exact hlive.deliver hop h hqueue
    | finish => exact hlive.finish hbefore h hqueue

/-- A run from the start of a request. -/
def loggedStart (start : InferRequest) (cached : Nat) : LoggedRun where
  engine := { req := admitted start cached }

theorem LogInvariant.of_fresh (results : Nat → StepResult) (start : InferRequest) {cached : Nat}
    (hcached : cached ≤ start.outputTokens.length)
    (hvocab : ∀ token ∈ start.outputTokens, 0 ≤ token) :
    LogInvariant results (loggedStart start cached) where
  log := fun k record hrecord => by cases hrecord
  live := fun _ => {
    queue := .of_fresh SampledResult start hcached
    count := rfl
    arrives := fun result harrived => by cases harrived
    chunksFirst := fun _ task hmem => absurd hmem List.not_mem_nil
    returns := fun i step hat => by cases hat
    vocab := {
      prefilling := hvocab
      drafts := by
        show ∀ token ∈ DraftTokensApi.getDraftTokens (DraftTokensApi.clear start.draftTokens), 0 ≤ token
        rw [DraftTokensApi.get_clear]
        exact fun token hmem => absurd hmem List.not_mem_nil
      forwarding := fun token hmem => absurd (List.mem_of_mem_take hmem) List.not_mem_nil }
    phase := .unblocked rfl (fun older newer hpair => by cases hpair) (fun _ => rfl)
      (fun hsome => absurd rfl hsome) (fun newest hmem => by cases hmem) }

theorem log_in_order {start : InferRequest} {cached : Nat} {ops : List PipelineOp}
    (hcached : cached ≤ start.outputTokens.length)
    (hvocab : ∀ token ∈ start.outputTokens, 0 ≤ token)
    (hrun : exec loggedStep (loggedStart start cached) ops = .ok s)
    (hsteps : EachStep loggedStep
      (fun s op => LogPermitted results s op ∧ LaunchesRepairable results s op)
      (loggedStart start cached) ops) : LogInOrder results s.log :=
  (exec_invariant_of (I := LogInvariant results)
    (fun _ _ _ hs hop h => hs.step hop.1 hop.2 h) (.of_fresh results start hcached hvocab) hsteps
    hrun).log

end KsanaBuildAhead.Engine
