import KsanaBuildAhead.Engine.LaunchLog

/-!
# Launches in the log

A launch finds the request settled, without a block, or with the block of the only step in
flight at the end of the sequence; its record says where the new block stands.
-/
namespace KsanaBuildAhead.Engine

open KsanaBuildAhead.Runtime KsanaBuildAhead.Lib.ListEdit KsanaBuildAhead.Lib.Execution

variable [DraftTokensApi] {results : Nat → StepResult} {s t : LoggedRun} {op : PipelineOp}

theorem launch_logged (h : loggedStep s .launch = .ok t) :
    s.engine.req.launchPlanningTask true s.engine.req.hasInflightTask = .ok t.engine.req ∧
      t.engine.delivered = s.engine.delivered ∧ t.retired = s.retired ∧
      t.log = s.log ++ [launchRecord s.log s.engine.req t.engine.req] := by
  obtain ⟨hstep, hretired, hlog⟩ := loggedStep_ok h
  rw [if_neg (by simp)] at hretired
  rw [if_pos rfl] at hlog
  obtain ⟨launched, hlaunch, hstep⟩ := bind_ok hstep
  have hengine := Except.ok.inj hstep
  rw [← hengine] at hlog ⊢
  exact ⟨(launch_ok hlaunch).2.2, rfl, hretired, hlog⟩

theorem launch_pushes {fastPath usePlaceholder : Bool} {req launched : InferRequest}
    (h : req.launchPlanningTask fastPath usePlaceholder = .ok launched) :
    ∃ task, launched.inflightTasks = req.inflightTasks ++ [task] ∧
      task.workload.draftTokenNum = launched.forwardingTokensDraftNum ∧
      task.workload.prefillTokenNum = req.planningTask.workload.prefillTokenNum ∧
      task.workload.prefillStartOffset = req.planningTask.workload.prefillStartOffset ∧
      (isPrefillChunkMidStep launched.forwardStepKind = true ↔ IsMiddleChunk launched task) ∧
      launched.prefillingTokens = req.prefillingTokens ∧
      launched.planningTask = {} ∧ launched.remainingWorkload = req.remainingWorkload := by
  obtain ⟨-, -, -, hcase⟩ := InferRequest.launchPlanningTask_cases h
  cases hcase with
  | chunk kv cacheLen hprefill hcached =>
    refine ⟨_, rfl, rfl, rfl, rfl, ?_, rfl, rfl, rfl⟩
    simp only [InferRequest.launchedChunk, IsMiddleChunk]
    by_cases hlast : req.plansLastChunk
    · rw [if_pos hlast]
      exact ⟨fun hkind => (by cases hkind), fun hmiddle =>
        absurd hmiddle.2 (Nat.not_lt_of_le hlast)⟩
    · rw [if_neg hlast]
      exact ⟨fun _ => ⟨hprefill, Nat.lt_of_not_le hlast⟩, fun _ => rfl⟩
  | block kv cacheLen hdecode =>
    refine ⟨_, rfl, rfl, rfl, rfl, ⟨fun hkind => (by cases hkind), fun hmiddle => ?_⟩, rfl, rfl,
      rfl⟩
    exact absurd hmiddle.1 (Nat.not_lt_of_le (Nat.le_of_eq hdecode))
  | real kv cacheLen hdecode =>
    refine ⟨_, rfl, rfl, rfl, rfl, ⟨fun hkind => (by cases hkind), fun hmiddle => ?_⟩, rfl, rfl,
      rfl⟩
    exact absurd hmiddle.1 (Nat.not_lt_of_le (Nat.le_of_eq hdecode))

omit [DraftTokensApi] in
theorem launchRecord_unplaced {log : List LaunchRecord} {req launched : InferRequest}
    (hnone : launched.pendingPlaceholderPositions = []) :
    (launchRecord log req launched).blockStart = none := by
  simp only [launchRecord, InferRequestSerializationSnapshot.capture,
    InferRequest.getLatestPendingPlaceholderOffset, hnone, List.getLast?_nil, ite_self]

omit [DraftTokensApi] in
/-- The newest record names the step a launch without a block has pushed. -/
theorem BlockPhase.push_unblocked {task : ScheduleTask} {record : LaunchRecord}
    (hnone : t.engine.req.pendingPlaceholderPositions = [])
    (hinflight : t.engine.req.inflightTasks = s.engine.req.inflightTasks ++ [task])
    (hlog : t.log = s.log ++ [record]) (hblock : record.blockStart = none)
    (hstart : record.queryStart < t.engine.req.forwardingTokens.length)
    (hlaunched : record.launched = t.engine.req)
    (hdraftNum : task.workload.draftTokenNum = t.engine.req.forwardingTokensDraftNum)
    (hkind : isPrefillChunkMidStep t.engine.req.forwardStepKind = true ↔
      IsMiddleChunk t.engine.req task)
    (hdelivered : t.engine.delivered = s.engine.delivered)
    (hgenerated : s.engine.delivered = none → t.engine.req.generatedTokens = [])
    (harrived : s.engine.delivered ≠ none → s.engine.req.inflightTasks ≠ [])
    (hmiddle : ∀ older ∈ s.engine.req.inflightTasks, IsMiddleChunk t.engine.req older) :
    BlockPhase results t := by
  refine .unblocked hnone ?_ ?_ ?_ ?_
  · intro older newer hpair
    rw [hinflight] at hpair
    cases hqueue : s.engine.req.inflightTasks with
    | nil =>
      rw [hqueue] at hpair
      cases hpair
    | cons first rest =>
      rw [hqueue, List.cons_append, List.cons.injEq] at hpair
      obtain ⟨rfl, -⟩ := hpair
      exact hmiddle first (by rw [hqueue]; exact List.mem_cons_self)
  · rw [hdelivered]
    exact hgenerated
  · rw [hdelivered, hinflight]
    intro hsome oldest hmem
    rw [List.head?_append_of_ne_nil _ (harrived hsome)] at hmem
    exact hmiddle oldest (List.mem_of_mem_head? hmem)
  · intro newest hmem
    rw [hinflight, List.getLast?_concat] at hmem
    obtain rfl := Option.some.inj hmem
    refine ⟨record, by rw [hlog, List.getLast?_concat], hblock, hstart, fun hwhole => ⟨?_, ?_⟩⟩
    · rw [LaunchRecord.samples, hlaunched, Bool.not_eq_true']
      exact Bool.eq_false_iff.mpr fun hmid => hwhole (hkind.mp hmid)
    · rw [LaunchRecord.draftNum, hlaunched, hdraftNum]

theorem LiveLog.launch_chunk {kv : Nat} {cacheLen : Int} (hs : LiveLog results s)
    (h : loggedStep s .launch = .ok t) (hreq : t.engine.req = s.engine.req.launchedChunk kv cacheLen)
    (hprefill : 0 < s.engine.req.planningTask.workload.prefillTokenNum)
    (hstart : (launchRecord s.log s.engine.req t.engine.req).queryStart <
      t.engine.req.forwardingTokens.length) :
    VocabTokens t.engine.req ∧ BlockPhase results t ∧
      t.engine.req.pendingPlaceholderPositions = [] := by
  obtain ⟨hlaunch, hdelivered', -, hlog⟩ := launch_logged h
  obtain ⟨task, hinflight, hdraftNum, -, -, hkind, hprefilling, -, -⟩ := launch_pushes hlaunch
  have hnone := hs.queue.order.noBlock (Or.inr hprefill)
  have hnone' : t.engine.req.pendingPlaceholderPositions = [] := by
    rw [hreq]
    exact hnone
  refine ⟨.of_all ?_ ?_ ?_, ?_, hnone'⟩
  · rw [hreq]
    exact hs.vocab.prefilling
  · rw [hreq]
    exact hs.vocab.drafts
  · rw [hreq]
    intro token hmem
    rcases List.mem_append.mp hmem with hchunk | hdraft
    · rw [InferRequest.chunkTokens] at hchunk
      split at hchunk
      · rcases List.mem_append.mp hchunk with hold | hnew
        · exact hs.vocab.all hnone token hold
        · exact hs.vocab.prefilling token (List.mem_of_mem_drop (List.mem_of_mem_take hnew))
      · exact hs.vocab.prefilling token (List.mem_of_mem_take hchunk)
    · rw [InferRequest.chunkDrafts] at hdraft
      split at hdraft
      · exact hs.vocab.drafts token hdraft
      · exact absurd hdraft List.not_mem_nil
  · have hmiddle := hs.chunksFirst (Or.inr hprefill)
    cases hs.phase with
    | settled _ _ _ _ _ htask => omega
    | unblocked hpositions _ hgenerated hdelivered hnewest =>
      refine BlockPhase.push_unblocked hnone' hinflight hlog (launchRecord_unplaced hnone') hstart rfl
        hdraftNum hkind hdelivered' ?_ ?_ ?_
      · rw [hreq]
        exact hgenerated
      · intro hsome
        obtain ⟨result, harrived⟩ := Option.ne_none_iff_exists'.mp hsome
        exact (hs.queue.arrived result harrived).1
      · intro older hmem
        rw [IsMiddleChunk, hprefilling]
        exact hmiddle older hmem
    | realThenBlock _ _ _ _ _ hpositions => simp [hnone] at hpositions
    | ownBlock _ _ _ _ hpositions => simp [hnone] at hpositions
    | twoBlocks _ _ _ _ _ hpositions => simp [hnone] at hpositions

/-- A decode step is launched with real tokens when nothing is in flight, or when the request has
settled. -/
theorem LiveLog.launch_real {kv : Nat} {cacheLen : Int} (hs : LiveLog results s)
    (hundelivered : ¬ LaunchesOnDeliveredToken s.engine.req)
    (h : loggedStep s .launch = .ok t) (hreq : t.engine.req = s.engine.req.launchedReal kv cacheLen)
    (hroom : s.engine.req.inflightTasks.length < kMaxInflightDepth)
    (hplanned : s.engine.req.planningTask.isEmpty = false)
    (hdecode : s.engine.req.planningTask.workload.prefillTokenNum = 0)
    (hreal : ¬ (s.engine.req.hasInflightTask = true ∧ true = true ∧
      s.engine.req.generatedTokens = []))
    (hstart : (launchRecord s.log s.engine.req t.engine.req).queryStart <
      t.engine.req.forwardingTokens.length) :
    VocabTokens t.engine.req ∧ BlockPhase results t ∧
      t.engine.req.pendingPlaceholderPositions = [] := by
  obtain ⟨hlaunch, hdelivered', -, hlog⟩ := launch_logged h
  obtain ⟨task, hinflight, hdraftNum, -, -, hkind, hprefilling, hnoTask, hleft'⟩ :=
    launch_pushes hlaunch
  have hwaits : s.engine.req.inflightTasks ≠ [] → s.engine.req.generatedTokens ≠ [] := by
    intro hsome hgone
    exact hreal ⟨decide_eq_true (List.length_pos_of_ne_nil hsome), rfl, hgone⟩
  have hnone : s.engine.req.pendingPlaceholderPositions = [] := by
    by_contra hpending
    refine hundelivered ⟨hdecode, hwaits ?_, hpending⟩
    exact fun hidle => hpending (hs.queue.blocks.idle hidle)
  have hnone' : t.engine.req.pendingPlaceholderPositions = [] := by
    rw [hreq]
    exact hnone
  have hwhole : ¬ IsMiddleChunk t.engine.req task := by
    rw [← hkind, hreq]
    exact Bool.false_ne_true
  have hgenerated' : t.engine.req.generatedTokens = s.engine.req.generatedTokens := by rw [hreq]; rfl
  have hphase : (∀ token ∈ s.engine.req.generatedTokens, 0 ≤ token) ∧ BlockPhase results t := by
    cases hs.phase with
    | settled _ hgenerated hvocab hsampled hleft _ =>
      refine ⟨hvocab, .settled hnone' ?_ ?_ ?_ ?_ ?_⟩
      · rw [hgenerated']
        exact hgenerated
      · rw [hgenerated']
        exact hvocab
      · rw [hinflight]
        intro step hmem
        rcases List.mem_append.mp hmem with hold | hnew
        · rw [IsMiddleChunk, hprefilling]
          exact hsampled step hold
        · obtain rfl := List.mem_singleton.mp hnew
          exact hwhole
      · rw [hleft']
        exact hleft
      · rw [hnoTask]
    | unblocked hpositions hmiddle hgenerated hdelivered hnewest =>
      have hidle : s.engine.req.inflightTasks = [] := by
        by_contra hsome
        obtain ⟨older, halone⟩ := exists_inflight_of_room hsome hroom
        have holder := hs.queue.order.newest (hs.queue.order.decode hplanned hdecode) hdecode older
          (by rw [halone]; rfl)
        refine hwaits hsome (hgenerated ?_)
        by_contra harrived
        exact holder (hdelivered harrived older (by rw [halone]; rfl))
      have hundelivered : s.engine.delivered = none := by
        by_contra hsome
        obtain ⟨result, harrived⟩ := Option.ne_none_iff_exists'.mp hsome
        exact (hs.queue.arrived result harrived).1 hidle
      have hgone := hgenerated hundelivered
      refine ⟨?_, BlockPhase.push_unblocked hnone' hinflight hlog (launchRecord_unplaced hnone')
        hstart rfl hdraftNum hkind hdelivered' ?_ ?_ ?_⟩
      · rw [hgone]
        exact fun token hmem => absurd hmem List.not_mem_nil
      · rw [hgenerated']
        exact hgenerated
      · exact fun hsome => absurd hundelivered hsome
      · rw [hidle]
        exact fun older hmem => absurd hmem List.not_mem_nil
    | realThenBlock _ _ _ _ _ hpositions => simp [hnone] at hpositions
    | ownBlock _ _ _ _ hpositions => simp [hnone] at hpositions
    | twoBlocks _ _ _ _ _ hpositions => simp [hnone] at hpositions
  obtain ⟨hvocab, hphase⟩ := hphase
  refine ⟨.of_all ?_ ?_ ?_, hphase, hnone'⟩
  · rw [hreq]
    exact hs.vocab.prefilling
  · rw [hreq]
    intro token hmem
    refine hs.vocab.drafts token ?_
    simp only [InferRequest.launchedReal] at hmem
    split at hmem
    · rw [DraftTokensApi.get_trunc] at hmem
      exact List.mem_of_mem_take hmem
    · exact hmem
  · rw [hreq]
    intro token hmem
    simp only [InferRequest.launchedReal, List.mem_append] at hmem
    rcases hmem with (hold | hnew) | hdraft
    · exact hs.vocab.all hnone token hold
    · exact hvocab token hnew
    · exact hs.vocab.drafts token (List.mem_of_mem_take hdraft)

theorem LiveLog.vocab_launchedBlock (hs : LiveLog results s) {older : ScheduleTask}
    (halone : s.engine.req.inflightTasks = [older]) (kv : Nat) (cacheLen : Int) :
    VocabTokens (s.engine.req.launchedBlock kv cacheLen) := by
  refine ⟨hs.vocab.prefilling, hs.vocab.drafts, ?_⟩
  intro token hmem
  refine hs.vocab.forwarding token ?_
  simp only [InferRequest.launchedBlock] at hmem
  cases hpositions : s.engine.req.pendingPlaceholderPositions with
  | nil =>
    simp only [hpositions, List.nil_append, List.headD_cons, List.take_left] at hmem
    rw [List.headD_nil, List.take_length]
    exact hmem
  | cons pos rest =>
    have hinside : pos ≤ s.engine.req.forwardingTokens.length := by
      cases hs.phase with
      | settled hnone => simp [hpositions] at hnone
      | unblocked hnone => simp [hpositions] at hnone
      | realThenBlock _ _ _ _ hpair => simp [halone] at hpair
      | ownBlock step own _ _ hown _ hend =>
        rw [hpositions, List.cons.injEq] at hown
        omega
      | twoBlocks _ _ _ _ hpair => simp [halone] at hpair
    simp only [hpositions, List.cons_append, List.headD_cons] at hmem
    rw [List.take_append_of_le_length hinside] at hmem
    exact hmem

/-- A launch with placeholders puts its block behind the only step in flight: behind the tokens of
a step without drafts, or right behind the block of that step. -/
theorem LiveLog.launch_block {kv : Nat} {cacheLen : Int} (hs : LiveLog results s)
    (h : loggedStep s .launch = .ok t)
    (hreq : t.engine.req = s.engine.req.launchedBlock kv cacheLen)
    (hroom : s.engine.req.inflightTasks.length < kMaxInflightDepth)
    (hsome : s.engine.req.inflightTasks ≠ [])
    (hplanned : s.engine.req.planningTask.isEmpty = false)
    (hdecode : s.engine.req.planningTask.workload.prefillTokenNum = 0)
    (hgenerated : s.engine.req.generatedTokens = [])
    (hbehind : s.engine.req.pendingPlaceholderPositions ≠ [] ∨
      (launchRecord s.log s.engine.req t.engine.req).prevDraftNum = 0 ∧
        latestBlockDraftNum s.log = 0)
    (henough : (launchRecord s.log s.engine.req t.engine.req).draftNum ≤
      (results (s.log.length - 1)).draftTokens.mtp.length) :
    VocabTokens t.engine.req ∧ BlockPhase results t ∧
      (launchRecord s.log s.engine.req t.engine.req).blockStart =
        some s.engine.req.forwardingTokens.length ∧
      ∃ j prev, s.log.length = j + 1 ∧ s.log[j]? = some prev ∧
        BlockInOrder results s.log j prev (launchRecord s.log s.engine.req t.engine.req)
          s.engine.req.forwardingTokens.length := by
  obtain ⟨hlaunch, hdelivered', hretired, hlog⟩ := launch_logged h
  obtain ⟨older, halone⟩ := exists_inflight_of_room hsome hroom
  obtain ⟨task, hinflight', htask, -⟩ := launch_pushes hlaunch
  rw [halone] at hinflight'
  have hwhole := hs.queue.order.newest (hs.queue.order.decode hplanned hdecode) hdecode older
    (by rw [halone]; rfl)
  have hcount := hs.count
  rw [halone, List.length_singleton] at hcount
  have htake : s.log.take (s.retired + 1) = s.log := by rw [← hcount, List.take_length]
  have hat : ∀ prev, s.log.getLast? = some prev → s.log[s.retired]? = some prev := by
    intro prev hlast
    rw [List.getLast?_eq_getElem?, hcount, Nat.add_sub_cancel] at hlast
    exact hlast
  rw [hcount, Nat.add_sub_cancel] at henough
  have hblockStart : (launchRecord s.log s.engine.req t.engine.req).blockStart =
      some s.engine.req.forwardingTokens.length := by
    have huse : s.engine.req.hasInflightTask = true := decide_eq_true (List.length_pos_of_ne_nil hsome)
    simp only [launchRecord, InferRequestSerializationSnapshot.capture, huse, if_true,
      InferRequest.getLatestPendingPlaceholderOffset, hreq, InferRequest.launchedBlock,
      List.getLast?_concat]
  have hprevDraftNum : (launchRecord s.log s.engine.req t.engine.req).prevDraftNum =
      older.workload.draftTokenNum := by
    simp only [launchRecord, halone, List.getLast?_singleton, Option.map_some, Option.getD_some]
  have hslots : t.engine.req.forwardingTokensDraftNum =
      s.engine.req.planningTask.workload.draftTokenNum := by rw [hreq]; rfl
  have hdraftNum : (launchRecord s.log s.engine.req t.engine.req).draftNum =
      task.workload.draftTokenNum := htask.symm
  have hsamples : (launchRecord s.log s.engine.req t.engine.req).samples = true := by
    simp only [LaunchRecord.samples, launchRecord, hreq, InferRequest.launchedBlock]
    rfl
  have hkind : t.engine.req.forwardStepKind = .decode := by rw [hreq]; rfl
  have hblock : t.engine.req.forwardingTokens.drop s.engine.req.forwardingTokens.length =
      List.replicate (1 + (launchRecord s.log s.engine.req t.engine.req).draftNum)
        kFastPathPlaceholderTokenId := by
    rw [hdraftNum, htask, hslots, hreq, Nat.add_comm]
    exact List.drop_left
  have hlast : t.log.getLast? = some (launchRecord s.log s.engine.req t.engine.req) := by
    rw [hlog, List.getLast?_concat]
  have hend : s.engine.req.forwardingTokens.length + 1 + task.workload.draftTokenNum =
      t.engine.req.forwardingTokens.length := by
    rw [htask, hslots]
    simp only [hreq, InferRequest.launchedBlock, List.length_append, List.length_replicate]
    omega
  refine ⟨?_, ?_, hblockStart, s.retired, ?_⟩
  · rw [hreq]
    exact hs.vocab_launchedBlock halone kv cacheLen
  · cases hs.phase with
    | settled _ hwaiting => exact absurd hgenerated hwaiting
    | unblocked hpositions hmiddle _ _ hnewest =>
      refine .realThenBlock older task s.engine.req.forwardingTokens.length _ hinflight' ?_ ?_ hend ?_
        hlast hsamples hdraftNum hblockStart ((hbehind.resolve_left (absurd hpositions ·)).1)
      · rw [hreq]
        simp only [InferRequest.launchedBlock, hpositions, List.nil_append]
      · rw [htask, hslots, hreq]
        simp only [InferRequest.launchedBlock, hs.queue.blocks.draftNums_nil hpositions,
          List.nil_append]
      · rw [hreq]
        simp only [InferRequest.launchedBlock]
        rw [List.getElem?_append_right (Nat.le_refl _), Nat.sub_self]
        rfl
    | realThenBlock _ _ _ _ hpair => simp [halone] at hpair
    | ownBlock step pos record hinflight hpositions hdraftNums hown =>
      rw [halone, List.cons.injEq] at hinflight
      obtain ⟨rfl, -⟩ := hinflight
      refine .twoBlocks older task pos _ hinflight' ?_ ?_ ?_ hlast hsamples hdraftNum
        (by rw [hblockStart, hown]) hprevDraftNum
      · rw [hreq]
        simp only [InferRequest.launchedBlock, hpositions, ← hown]
        rfl
      · rw [htask, hslots, hreq]
        simp only [InferRequest.launchedBlock, hdraftNums]
        rfl
      · rw [hown]
        exact hend
    | twoBlocks _ _ _ _ hpair => simp [halone] at hpair
  · cases hs.phase with
    | settled _ hwaiting => exact absurd hgenerated hwaiting
    | unblocked hpositions hmiddle _ _ hnewest =>
      obtain ⟨prev, hprev, hunblocked, hstart, hsampled⟩ := hnewest older (by rw [halone]; rfl)
      obtain ⟨hnoDrafts, hnoSlots⟩ := hbehind.resolve_left (absurd hpositions ·)
      refine ⟨prev, hcount, hat prev hprev, hkind, hblock, henough, (hsampled hwhole).1,
        hprevDraftNum.trans (hsampled hwhole).2.symm, fun _ => ?_, fun prevBlock hprevBlock => ?_⟩
      · rw [htake]
        refine ⟨hnoDrafts, ?_, hnoSlots⟩
        simp only [launchRecord, hpositions, hprev, List.getLast?_nil, Option.getD_none,
          Option.map_some, Option.getD_some]
        exact hstart
      · rw [hunblocked] at hprevBlock
        cases hprevBlock
    | realThenBlock _ _ _ _ hpair => simp [halone] at hpair
    | ownBlock step pos record hinflight hpositions hdraftNums hown hprev hsampled hprevDrafts
        hprevBlock =>
      rw [halone, List.cons.injEq] at hinflight
      obtain ⟨rfl, -⟩ := hinflight
      have hprevStart : (launchRecord s.log s.engine.req t.engine.req).prevStart = pos := by
        simp only [launchRecord, hpositions, List.getLast?_singleton, Option.getD_some]
      refine ⟨record, hcount, hat record hprev, hkind, hblock, henough, hsampled,
        hprevDraftNum.trans hprevDrafts.symm, fun hnone => ?_, fun prevBlock hfound => ?_⟩
      · rw [hprevBlock] at hnone
        cases hnone
      · rw [hprevBlock] at hfound
        rw [hprevStart, hprevDraftNum]
        exact ⟨Option.some.inj hfound, hown.symm⟩
    | twoBlocks _ _ _ _ hpair => simp [halone] at hpair

/-- A launch keeps the request and its log together, and its record is in order. -/
theorem LiveLog.launch (hs : LiveLog results s) (hop : LogPermitted results s .launch)
    (hrepairs : LaunchesRepairable results s .launch) (h : loggedStep s .launch = .ok t)
    (hqueue : QueueInvariant SampledResult t.engine) :
    LiveLog results t ∧ RecordInOrder results s.log s.log.length
      (launchRecord s.log s.engine.req t.engine.req) := by
  obtain ⟨hstep, -, -⟩ := loggedStep_ok h
  obtain ⟨hlaunch, hdelivered, hretired, hlog⟩ := launch_logged h
  obtain ⟨-, hstart⟩ := hop
  obtain ⟨hundelivered, hbehind⟩ := hrepairs
  rw [hstep] at hstart hbehind
  obtain ⟨hstart, hreturns⟩ := hstart
  obtain ⟨task, hinflight, hdraftNum, hnum, hoffset, hkind, hprefilling, hnoTask, hleft⟩ :=
    launch_pushes hlaunch
  have hnewest := hreturns task (by rw [hinflight, List.getLast?_concat]; rfl)
  have hmiddle : ∀ step, IsMiddleChunk t.engine.req step ↔ IsMiddleChunk s.engine.req step := by
    intro step
    rw [IsMiddleChunk, IsMiddleChunk, hprefilling]
  have hcases : VocabTokens t.engine.req ∧ BlockPhase results t ∧
      (t.engine.req.pendingPlaceholderPositions = [] ∨
        (launchRecord s.log s.engine.req t.engine.req).blockStart =
          some s.engine.req.forwardingTokens.length ∧
        ∃ j prev, s.log.length = j + 1 ∧ s.log[j]? = some prev ∧
          BlockInOrder results s.log j prev (launchRecord s.log s.engine.req t.engine.req)
            s.engine.req.forwardingTokens.length) := by
    obtain ⟨hplanned, hroom, huse, hcase⟩ := InferRequest.launchPlanningTask_cases hlaunch
    generalize hreq : t.engine.req = launched at hcase
    cases hcase with
    | chunk kv cacheLen hprefill =>
      obtain ⟨hvocab, hphase, hnone⟩ := hs.launch_chunk h hreq hprefill hstart
      rw [← hreq]
      exact ⟨hvocab, hphase, Or.inl hnone⟩
    | block kv cacheLen hdecode hplaceholder =>
      have hblock : (launchRecord s.log s.engine.req t.engine.req).blockStart.isSome = true := by
        simp only [launchRecord, InferRequestSerializationSnapshot.capture, hplaceholder.1, if_true,
          InferRequest.getLatestPendingPlaceholderOffset, hreq, InferRequest.launchedBlock,
          List.getLast?_concat, Option.isSome_some]
      obtain ⟨hbehind, henough⟩ := hbehind hblock
      obtain ⟨hvocab, hphase, hinOrder⟩ := hs.launch_block h hreq hroom (huse hplaceholder.1) hplanned
        hdecode hplaceholder.2.2 hbehind henough
      rw [← hreq]
      exact ⟨hvocab, hphase, Or.inr hinOrder⟩
    | real kv cacheLen hdecode hreal =>
      obtain ⟨hvocab, hphase, hnone⟩ := hs.launch_real hundelivered h hreq hroom hplanned hdecode hreal
        hstart
      rw [← hreq]
      exact ⟨hvocab, hphase, Or.inl hnone⟩
  obtain ⟨hvocab, hphase, hplaced⟩ := hcases
  refine ⟨⟨hqueue, ?_, ?_, ?_, ?_, hvocab, hphase⟩, ?_, ?_, ?_⟩
  · rw [hlog, hretired, hinflight, List.length_append, List.length_append, hs.count]
    rfl
  · rw [hdelivered, hretired]
    exact hs.arrives
  · intro hprompt step hmem
    rw [hleft, hnoTask] at hprompt
    have hprompt : 0 < s.engine.req.remainingWorkload.prefillTokenNum :=
      hprompt.resolve_right (Nat.lt_irrefl 0)
    rw [hinflight] at hmem
    rcases List.mem_append.mp hmem with hold | hnew
    · rw [hmiddle]
      exact hs.chunksFirst (Or.inl hprompt) step hold
    · obtain rfl := List.mem_singleton.mp hnew
      have hchunk : 0 < s.engine.req.planningTask.workload.prefillTokenNum := by
        by_contra hdecode
        have hdone := hs.queue.order.decode
          (InferRequest.launchPlanningTask_cases hlaunch).1 (by omega)
        omega
      have hnext := hs.queue.order.chunk hchunk
      have htotal := hs.queue.order.total
      rw [hmiddle, IsMiddleChunk, hnum, hoffset]
      omega
  · intro i step hat
    rw [hretired]
    rw [StepReturnsTokens, hmiddle]
    by_cases hi : i < s.engine.req.inflightTasks.length
    · rw [hinflight, List.getElem?_append_left hi] at hat
      exact hs.returns i step hat
    · have hlast : i = s.engine.req.inflightTasks.length := by
        have hbound := (List.getElem?_eq_some_iff.mp hat).1
        rw [hinflight, List.length_append, List.length_singleton] at hbound
        omega
      subst hlast
      rw [hinflight, List.getElem?_append_right (Nat.le_refl _), Nat.sub_self] at hat
      obtain rfl : task = step := Option.some.inj hat
      rw [← hs.count]
      rw [StepReturnsTokens, hmiddle] at hnewest
      exact hnewest
  · intro hsamples
    have hwhole : ¬ IsMiddleChunk t.engine.req task := by
      rw [← hkind]
      rw [LaunchRecord.samples, Bool.not_eq_true'] at hsamples
      exact Bool.eq_false_iff.mp hsamples
    obtain ⟨⟨hone, hnonneg, hfit⟩, -⟩ := hnewest.2 hwhole
    obtain ⟨token, htoken⟩ := List.length_eq_one_iff.mp hone
    refine ⟨token, htoken, hnonneg token (by rw [htoken]; exact List.mem_cons_self), ?_⟩
    rw [hdraftNum] at hfit
    exact hfit
  · intro hunplaced hplaceholder
    rcases hplaced with hnone | ⟨hblock, -⟩
    · exact absurd (hvocab.all hnone _ hplaceholder) (by decide)
    · rw [hblock] at hunplaced
      cases hunplaced
  · intro start hblock
    rcases hplaced with hnone | ⟨hstart, hinOrder⟩
    · rw [launchRecord_unplaced hnone] at hblock
      cases hblock
    · rw [hstart] at hblock
      obtain rfl := Option.some.inj hblock
      exact hinOrder

end KsanaBuildAhead.Engine
