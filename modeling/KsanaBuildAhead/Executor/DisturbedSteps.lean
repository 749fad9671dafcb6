import KsanaBuildAhead.Executor.IsolatedSteps

/-!
# Schedules that disturb a step

A schedule that does not spare the step before it has an interleaving in which the step shows it:
Preprocess stops where the schedules first differ, and Execute runs the step there.
-/
namespace KsanaBuildAhead.Executor

open KsanaBuildAhead.Runtime KsanaBuildAhead.Engine KsanaBuildAhead.Lib.Execution

section Runs

variable [DraftTokensApi]

def Reaches (state next : OverlapState) : Prop := ∃ threads, exec overlapStep state threads = .ok next

theorem Reaches.trans {state middle next : OverlapState} (h : Reaches state middle)
    (hnext : Reaches middle next) : Reaches state next := by
  obtain ⟨threads, hrun⟩ := h
  obtain ⟨more, hmore⟩ := hnext
  exact ⟨threads ++ more, (exec_append_of_ok more hrun).trans hmore⟩

theorem Reaches.single {state next : OverlapState} {thread : Thread}
    (h : overlapStep state thread = .ok next) : Reaches state next :=
  ⟨[thread], exec_cons_of_ok [] h⟩

theorem reaches_transfers {transfers : List RequestTransfer} {rest : List PreprocessOp}
    {state : OverlapState} (hroom : state.inFlight.length < kExecutorPipelineMaxDepth)
    (hops : state.preprocessing = transfers.map .update ++ rest) :
    Reaches state { state with
      requests := transferAll state.requests transfers
      preprocessing := rest } := by
  induction transfers generalizing state with
  | nil =>
    refine ⟨[], ?_⟩
    rw [List.map_nil, List.nil_append] at hops
    rw [← hops]
    rfl
  | cons transfer transfers ih =>
    have hstep : overlapStep state .preprocess = .ok { state with
        requests := transfer.apply state.requests
        preprocessing := transfers.map .update ++ rest } := by
      rw [overlapStep, if_pos hroom, hops]
      rfl
    exact (Reaches.single hstep).trans (ih hroom rfl)

theorem reaches_build {schedule : ExecutorSchedule} {rest : List PreprocessOp}
    {state : OverlapState} (hroom : state.inFlight.length < kExecutorPipelineMaxDepth)
    (hops : state.preprocessing = .build schedule :: rest) :
    Reaches state { state with
      requests := (buildModelInput state.requests schedule).held
      preprocessing := rest
      built := state.built ++ [buildModelInput state.requests schedule] } := by
  have hstep : overlapStep state .preprocess = .ok { state with
      requests := (buildModelInput state.requests schedule).held
      preprocessing := rest
      built := state.built ++ [buildModelInput state.requests schedule] } := by
    rw [overlapStep, if_pos hroom, hops]
  exact Reaches.single hstep

/-- The accesses of a step while Preprocess does nothing. -/
def BuiltStep.run (step : BuiltStep) : List StepOp → CachedRequests → StepUses →
    CachedRequests × StepUses
  | [], requests, uses => (requests, uses)
  | op :: ops, requests, uses =>
    step.run ops (op.write (step.results uses.toSampledUses) requests) (op.use requests uses)

/-- What a step leaves in the requests. -/
def BuiltStep.leaves (step : BuiltStep) (requests : CachedRequests) : CachedRequests :=
  (step.run step.ops requests {}).1

theorem reaches_run {step : BuiltStep} {ops : List StepOp} {uses : StepUses}
    {state : OverlapState} (hexecuting : state.executing = some ⟨step, uses, ops⟩) :
    Reaches state { state with
      requests := (step.run ops state.requests uses).1
      executing := none
      finished := state.finished ++ [(step, (step.run ops state.requests uses).2)] } := by
  induction ops generalizing state uses with
  | nil =>
    have hstep : overlapStep state .execute = .ok { state with
        executing := none
        finished := state.finished ++ [(step, uses)] } := by
      simp only [overlapStep, hexecuting]
    exact Reaches.single hstep
  | cons op ops ih =>
    have hstep : overlapStep state .execute = .ok { state with
        requests := op.write (step.results uses.toSampledUses) state.requests
        executing := some ⟨step, op.use state.requests uses, ops⟩ } := by
      simp only [overlapStep, hexecuting]
    exact (Reaches.single hstep).trans (ih rfl)

/-- What a step reads while Preprocess does nothing is what the requests hold when it begins. -/
theorem BuiltStep.run_uses (step : BuiltStep) {ops : List StepOp}
    (hkeeps : ops.Pairwise fun op later => ∀ results requests,
      later.read (op.write results requests) = later.read requests)
    (requests : CachedRequests) (uses : StepUses) :
    (step.run ops requests uses).2 = ops.foldl (fun uses op => op.use requests uses) uses := by
  induction ops generalizing requests uses with
  | nil => rfl
  | cons op ops ih =>
    obtain ⟨hop, hrest⟩ := List.pairwise_cons.mp hkeeps
    rw [run, ih hrest, List.foldl_cons]
    generalize op.use requests uses = uses
    clear ih hrest hkeeps
    induction ops generalizing uses with
    | nil => rfl
    | cons later ops ih =>
      obtain ⟨hlater, hrest⟩ := List.forall_mem_cons.mp hop
      rw [List.foldl_cons, List.foldl_cons,
        StepOp.use_congr uses (hlater (step.results _) requests)]
      exact ih hrest _

theorem reaches_step {step : BuiltStep} {rest : List BuiltStep} {state : OverlapState}
    (hidle : state.executing = none) (hbuilt : state.built = step :: rest) :
    Reaches state { state with
      requests := step.leaves state.requests
      built := rest
      executing := none
      finished := state.finished ++ [(step, step.usesOf state.requests)] } := by
  have hbegin : overlapStep state .execute = .ok { state with
      built := rest
      executing := some ⟨step, {}, step.ops⟩ } := by
    simp only [overlapStep, hidle, hbuilt]
  refine (Reaches.single hbegin).trans ?_
  rw [← step.use_ops, ← step.run_uses step.ops_pairwise]
  exact reaches_run rfl

theorem sameTransfers_run (step : BuiltStep) (ops : List StepOp) (requests : CachedRequests)
    (uses : StepUses) : SameTransfers (step.run ops requests uses).1 requests := by
  induction ops generalizing requests uses with
  | nil => exact fun _ => rfl
  | cons op ops ih =>
    exact fun reqId => (ih _ _ reqId).trans (sameTransfers_write op _ requests reqId)

theorem BuiltStep.run_append (step : BuiltStep) (ops later : List StepOp)
    (requests : CachedRequests) (uses : StepUses) : step.run (ops ++ later) requests uses =
      step.run later (step.run ops requests uses).1 (step.run ops requests uses).2 := by
  induction ops generalizing requests uses with
  | nil => rfl
  | cons op ops ih => exact ih _ _

theorem BuiltStep.run_drafts (step : BuiltStep) {reqIds : List Int} {requests : CachedRequests}
    {uses : StepUses} {reqId : Int} {num : Nat}
    (hkind : isPrefillChunkMidStep (requests reqId).forwardStepKind = false)
    (hnum : num = kStepGenerateTokenNum +
      DraftTokensApi.size (step.results uses.toSampledUses reqId).draftTokens)
    (hmem : reqId ∈ reqIds ∨ (requests reqId).samplingTokenNum = num) :
    ((step.run (reqIds.map .generateDraft) requests uses).1 reqId).samplingTokenNum = num := by
  induction reqIds generalizing requests uses with
  | nil => exact hmem.resolve_left List.not_mem_nil
  | cons first reqIds ih =>
    have hsame := (sameTransfers_write (.generateDraft first) (step.results uses.toSampledUses)
      requests).field (fun req => req.forwardStepKind) (fun _ => rfl) reqId
    refine ih (by rw [hsame, hkind]) (by rw [StepOp.use_generateDraft_sampled, hnum]) ?_
    by_cases hlater : reqId ∈ reqIds
    · exact Or.inl hlater
    refine Or.inr ?_
    rcases hmem with hmem | hcounted
    · obtain rfl : reqId = first := (List.mem_cons.mp hmem).resolve_right hlater
      rw [StepOp.write, if_neg (by rw [hkind]; exact Bool.false_ne_true), Function.update_self,
        hnum]
    · rcases write_samplingTokenNum (.generateDraft first) (step.results uses.toSampledUses)
        requests reqId with hkept | ⟨-, -, hwritten⟩
      · rw [hkept, hcounted]
      · rw [hwritten, hnum]

theorem BuiltStep.leaves_samplingTokenNum (step : BuiltStep) {requests : CachedRequests}
    {reqId : Int} (hsampled : reqId ∈ sampledAmong requests step.reqIds) :
    (step.leaves requests reqId).samplingTokenNum = kStepGenerateTokenNum +
      DraftTokensApi.size
        (step.results (step.usesOf requests).toSampledUses reqId).draftTokens := by
  obtain ⟨hmem, hkind⟩ := List.mem_filter.mp hsampled
  have hpairwise := step.ops_pairwise
  obtain ⟨done, hops⟩ : ∃ done, step.ops = done ++ step.reqIds.map .generateDraft := ⟨_, rfl⟩
  rw [hops, List.pairwise_append] at hpairwise
  rw [leaves, hops, run_append]
  refine step.run_drafts ?_ ?_ (Or.inl hmem)
  · rw [(sameTransfers_run step done requests {}).field (fun req => req.forwardStepKind)
      fun _ => rfl]
    exact Bool.eq_false_of_not_eq_true (by simpa using hkind)
  · rw [step.run_uses hpairwise.1, use_sampled hops]
    intro op hop
    obtain ⟨other, -, rfl⟩ := List.mem_map.mp hop
    exact ⟨other, rfl⟩

/-- A schedule that is transferred and built while no step is in flight. -/
theorem reaches_schedule {schedule : ExecutorSchedule} {later : List ExecutorSchedule}
    {state : OverlapState} (hidle : state.executing = none) (hbuilt : state.built = [])
    (hops : state.preprocessing = (schedule :: later).flatMap ExecutorSchedule.preprocess) :
    Reaches state { state with
      requests := (buildModelInput (transferAll state.requests schedule.transfers) schedule).held
      preprocessing := later.flatMap ExecutorSchedule.preprocess
      built := [buildModelInput (transferAll state.requests schedule.transfers) schedule] } := by
  obtain ⟨requests, preprocessing, built, executing, finished⟩ := state
  obtain rfl : executing = none := hidle
  obtain rfl : built = [] := hbuilt
  rw [List.flatMap_cons, ExecutorSchedule.preprocess, List.append_assoc] at hops
  refine (reaches_transfers ?_ hops).trans (reaches_build ?_ rfl)
  · exact Nat.zero_lt_two
  · exact Nat.zero_lt_two

end Runs

theorem sum_map_inj {α : Type} {xs : List α} {f g : α → Nat} {x : α} (hmem : x ∈ xs)
    (hothers : ∀ y ∈ xs, y ≠ x → f y = g y) (hsum : (xs.map f).sum = (xs.map g).sum) :
    f x = g x := by
  have hstrict : ∀ {f g : α → Nat}, (∀ y ∈ xs, y ≠ x → f y = g y) → f x < g x →
      (xs.map f).sum < (xs.map g).sum := by
    intro f g hothers hless
    refine List.sum_lt_sum f g (fun y hy => ?_) ⟨x, hmem, hless⟩
    by_cases hyx : y = x
    · rw [hyx]
      exact hless.le
    · exact (hothers y hy hyx).le
  rcases lt_trichotomy (f x) (g x) with hless | heq | hgreater
  · exact absurd hsum (hstrict hothers hless).ne
  · exact heq
  · exact absurd hsum (hstrict (fun y hy hyx => (hothers y hy hyx).symm) hgreater).ne'

theorem BuiltStep.usesOf_congr {step : BuiltStep} {requests others : CachedRequests}
    (hhidden : ∀ reqId, hiddenTokenNum (requests reqId) = hiddenTokenNum (others reqId))
    (hkind : ∀ reqId, (requests reqId).forwardStepKind = (others reqId).forwardStepKind)
    (htokens : ∀ reqId, (requests reqId).forwardingTokens = (others reqId).forwardingTokens)
    (hnum : ∀ reqId, (requests reqId).samplingTokenNum = (others reqId).samplingTokenNum) :
    step.usesOf requests = step.usesOf others := by
  rw [usesOf, usesOf, sampledAmong_congr fun reqId _ => hkind reqId]
  simp only [hhidden, hkind, htokens, hnum]

section Disturbed

variable {step alone : BuiltStep} {requests others : CachedRequests}

/-- A step that samples and used what it was built with found the numbers of its requests. -/
theorem sampled_of_uses (hrows : step.frozenLogitsOffsets.length = step.reqIds.length)
    (hsampled : BuiltStep.sampledAmong requests step.reqIds = step.sampledReqIds)
    (huses : step.usesOf requests = step.heldUses) (hsamples : step.sampledReqIds ≠ [])
    (reqId : Int) (hmem : reqId ∈ step.reqIds) :
    (requests reqId).samplingTokenNum = (step.held reqId).samplingTokenNum := by
  have hheld : BuiltStep.sampledAmong step.held step.reqIds ≠ [] := hsamples
  have hreqs := congrArg (fun uses : StepUses => uses.samplingReqs) huses
  simp only [BuiltStep.heldUses, BuiltStep.usesOf] at hreqs
  rw [if_neg (by rw [hsampled]; exact hsamples), if_neg hheld] at hreqs
  obtain ⟨n, hn, hget⟩ := List.mem_iff_getElem.mp hmem
  have hin : n < (step.reqIds.zip step.frozenLogitsOffsets).length := by
    rw [List.length_zip]
    omega
  have hrow := List.map_inj_left.mp hreqs _ (List.getElem_mem hin)
  rw [List.getElem_zip, hget] at hrow
  exact congrArg SamplingRequest.samplingTokenNum hrow

/-- A step that used what it was built with found it in each of its requests, if all but one of
them are known to have it. -/
theorem readsHeld_of_uses (hrows : step.frozenLogitsOffsets.length = step.reqIds.length)
    {transfer : RequestTransfer} (hbefore : step.ReadsHeld requests)
    (huses : step.usesOf (transfer.apply requests) = step.heldUses) :
    step.ReadsHeld (transfer.apply requests) := by
  have hkinds := congrArg (fun uses : StepUses => uses.kinds) huses
  have hkind := List.map_inj_left.mp hkinds
  have hsampled : BuiltStep.sampledAmong (transfer.apply requests) step.reqIds =
      step.sampledReqIds := sampledAmong_congr hkind
  intro reqId hmem
  refine ⟨?_, hkind reqId hmem, fun (hsamples : BuiltStep.sampledAmong step.held step.reqIds ≠ []) =>
    ⟨?_, ?_⟩⟩
  · by_cases hreq : reqId = transfer.reqId
    · have hsum := congrArg (fun uses : StepUses => uses.hiddenTokens) huses
      refine sum_map_inj hmem (fun other hother hne => ?_) hsum
      rw [apply_of_ne requests (hreq ▸ hne)]
      exact (hbefore other hother).1
    · rw [apply_of_ne requests hreq]
      exact (hbefore reqId hmem).1
  · have htokens := congrArg (fun uses : StepUses => uses.samplerTokens) huses
    simp only [BuiltStep.heldUses, BuiltStep.usesOf] at htokens
    rw [if_neg (by rw [hsampled]; exact hsamples), if_neg hsamples] at htokens
    exact List.map_inj_left.mp htokens reqId hmem
  · exact sampled_of_uses hrows hsampled huses hsamples reqId hmem

theorem buildModelInput_rows (requests : CachedRequests) (schedule : ExecutorSchedule) :
    (buildModelInput requests schedule).frozenLogitsOffsets.length =
      (buildModelInput requests schedule).reqIds.length := by
  rw [buildModelInput, List.length_map, List.length_map]

/-- A step and its counterpart have the same requests, so that they are left alone alike. -/
theorem BuiltAlike.readsHeld (h : BuiltAlike step alone)
    (hrows : ∀ reqId ∈ alone.reqIds,
      (step.held reqId).samplingTokenNum = (alone.held reqId).samplingTokenNum)
    (applied : List RequestTransfer)
    (hreads : step.ReadsHeld (transferAll step.held applied)) :
    alone.ReadsHeld (transferAll alone.held applied) := by
  have hsame := h.held.transferAll applied
  intro reqId hmem
  obtain ⟨hhidden, hkind, hsampled⟩ := hreads reqId (h.reqIds ▸ hmem)
  refine ⟨?_, ?_, fun hsamples => ⟨?_, ?_⟩⟩
  · exact (hsame.field _ (fun _ => rfl) _).symm.trans
      (hhidden.trans (h.held.field _ (fun _ => rfl) _))
  · exact (hsame.field (fun req => req.forwardStepKind) (fun _ => rfl) _).symm.trans
      (hkind.trans (h.held.field (fun req => req.forwardStepKind) (fun _ => rfl) _))
  · exact (hsame.field (fun req => req.forwardingTokens) (fun _ => rfl) _).symm.trans
      ((hsampled (h.sampledReqIds ▸ hsamples)).1.trans
        (h.held.field (fun req => req.forwardingTokens) (fun _ => rfl) _))
  · by_cases hreq : reqId ∈ applied.map RequestTransfer.reqId
    · rw [transferAll_samplingTokenNum alone.held step.held hreq,
        (hsampled (h.sampledReqIds ▸ hsamples)).2, hrows reqId hmem]
    · rw [transferAll_of_notMem _ hreq]

/-- The step of a schedule whose requests steps before it have written differently. -/
theorem builtAlike_stepAlone (hsame : SameTransfers requests others) (hkeyed : Keyed others)
    (schedule : ExecutorSchedule) :
    BuiltAlike (buildModelInput (transferAll requests schedule.transfers) schedule)
        (stepAlone others schedule) ∧
      ∀ reqId ∈ (stepAlone others schedule).reqIds,
        ((buildModelInput (transferAll requests schedule.transfers) schedule).held
            reqId).samplingTokenNum =
          ((stepAlone others schedule).held reqId).samplingTokenNum := by
  have hnum : ∀ reqId ∈ (stepAlone others schedule).reqIds,
      (transferAll requests schedule.transfers reqId).samplingTokenNum =
        (transferAll others schedule.transfers reqId).samplingTokenNum := fun reqId hreq =>
    transferAll_samplingTokenNum _ _ (hkeyed.mem_stepAlone.mp hreq)
  refine ⟨.build (hsame.transferAll _) (hkeyed.transferAll _) schedule fun _ => hnum,
    fun reqId hreq => ?_⟩
  rw [stepAlone_samplingTokenNum, ← hnum reqId hreq]
  exact held_field _ _ (fun req => req.samplingTokenNum) (fun _ _ _ => rfl) reqId

/-- A state in which one step is built and waits. -/
structure Waits (step : BuiltStep) (schedules : List ExecutorSchedule) (state : OverlapState) :
    Prop where
  idle : state.executing = none
  built : state.built = [step]
  ops : state.preprocessing = schedules.flatMap ExecutorSchedule.preprocess
  requests : state.requests = step.held

variable {schedule : ExecutorSchedule} {later : List ExecutorSchedule} {state : OverlapState}

theorem Waits.room (h : Waits step (schedule :: later) state) :
    state.inFlight.length < kExecutorPipelineMaxDepth := by
  rw [OverlapState.inFlight, h.idle, h.built]
  exact Nat.one_lt_two

variable [DraftTokensApi]

/-- Preprocess stops behind any part of the transfers, and the step runs. -/
theorem Waits.uses (h : Waits step (schedule :: later) state)
    (hall : ∀ next, Reaches state next → Isolated next) {applied waiting : List RequestTransfer}
    (htransfers : schedule.transfers = applied ++ waiting) :
    step.usesOf (transferAll step.held applied) = step.heldUses := by
  have hops : state.preprocessing = applied.map .update ++
      (waiting.map .update ++ .build schedule :: later.flatMap ExecutorSchedule.preprocess) := by
    rw [h.ops, List.flatMap_cons, ExecutorSchedule.preprocess, htransfers, List.map_append,
      List.append_assoc, List.append_assoc]
    rfl
  have hreaches := (reaches_transfers h.room hops).trans (reaches_step h.idle h.built)
  have hisolated := (hall _ hreaches).1 step (step.usesOf (transferAll state.requests applied))
    (List.mem_append_right _ (List.mem_singleton_self _))
  rw [← h.requests]
  exact hisolated.1

theorem Waits.readsHeld (h : Waits step (schedule :: later) state)
    (hrows : step.frozenLogitsOffsets.length = step.reqIds.length)
    (hall : ∀ next, Reaches state next → Isolated next) {applied waiting : List RequestTransfer}
    (htransfers : schedule.transfers = applied ++ waiting) :
    step.ReadsHeld (transferAll step.held applied) := by
  induction applied using List.reverseRecOn generalizing waiting with
  | nil => exact fun reqId _ => ⟨rfl, rfl, fun _ => ⟨rfl, rfl⟩⟩
  | append_singleton applied transfer ih =>
    have hsplit : schedule.transfers = applied ++ transfer :: waiting := by
      rw [htransfers, List.append_assoc]
      rfl
    have huses := h.uses hall htransfers
    rw [transferAll_concat] at huses ⊢
    exact readsHeld_of_uses hrows (ih hsplit) huses

theorem Waits.draftsExpected (h : Waits step (schedule :: later) state)
    (hrows : step.frozenLogitsOffsets.length = step.reqIds.length)
    (hall : ∀ next, Reaches state next → Isolated next) :
    step.DraftsExpected
      (buildModelInput (transferAll step.held schedule.transfers) schedule) := by
  have hwhole : schedule.transfers = schedule.transfers ++ [] := (List.append_nil _).symm
  have hreads := h.readsHeld hrows hall hwhole
  have huses := h.uses hall hwhole
  generalize hcached : transferAll step.held schedule.transfers = cached at hreads huses
  generalize hnext : buildModelInput cached schedule = next
  have hkind : ∀ reqId, (next.held reqId).forwardStepKind = (cached reqId).forwardStepKind :=
    hnext ▸ held_field cached schedule (fun req => req.forwardStepKind) fun _ _ _ => rfl
  have hheld : step.usesOf next.held = step.heldUses := by
    rw [← huses]
    exact BuiltStep.usesOf_congr
      (hnext ▸ held_field cached schedule hiddenTokenNum fun _ _ _ => rfl) hkind
      (hnext ▸ held_field cached schedule (fun req => req.forwardingTokens) fun _ _ _ => rfl)
      (hnext ▸ held_field cached schedule (fun req => req.samplingTokenNum) fun _ _ _ => rfl)
  have hops : state.preprocessing = schedule.transfers.map .update ++
      .build schedule :: later.flatMap ExecutorSchedule.preprocess := by
    rw [h.ops, List.flatMap_cons, ExecutorSchedule.preprocess, List.append_assoc]
    rfl
  obtain ⟨requests, preprocessing, built, executing, finished⟩ := state
  obtain rfl : executing = none := h.idle
  obtain rfl : built = [step] := h.built
  obtain rfl : requests = step.held := h.requests
  have hbuild := (reaches_transfers h.room hops).trans (reaches_build h.room rfl)
  rw [hcached, hnext] at hbuild
  have hrun := (hbuild.trans (reaches_step rfl rfl)).trans (reaches_step rfl rfl)
  have hisolated := ((hall _ hrun).1 next (next.usesOf (step.leaves next.held))
    (List.mem_append_right _ (List.mem_singleton_self _))).1
  intro hsampled reqId hreq hmem
  have hkinds : BuiltStep.sampledAmong (step.leaves next.held) next.reqIds =
      next.sampledReqIds := sampledAmong_congr fun other _ =>
    (sameTransfers_run step step.ops next.held {}).field (fun req => req.forwardStepKind)
      (fun _ => rfl) other
  have hnextRows : next.frozenLogitsOffsets.length = next.reqIds.length :=
    hnext ▸ buildModelInput_rows cached schedule
  have hread := sampled_of_uses hnextRows hkinds hisolated hsampled reqId hreq
  have hown : reqId ∈ BuiltStep.sampledAmong next.held step.reqIds := by
    obtain ⟨hstep, hmid⟩ := List.mem_filter.mp hmem
    refine List.mem_filter.mpr ⟨hstep, ?_⟩
    rw [hkind, (hreads reqId hstep).2.1]
    exact hmid
  rw [← hread, step.leaves_samplingTokenNum hown, hheld]
  rfl

/-- The schedules behind a step that waits spare the steps before them: each is reached with the
step before it waiting. -/
theorem Waits.spare {schedules : List ExecutorSchedule} (h : Waits step schedules state)
    (halike : BuiltAlike step alone) (hkeyed : Keyed alone.held)
    (hnum : ∀ reqId ∈ alone.reqIds,
      (step.held reqId).samplingTokenNum = (alone.held reqId).samplingTokenNum)
    (hrows : step.frozenLogitsOffsets.length = step.reqIds.length)
    (hall : ∀ next, Reaches state next → Isolated next) :
    SchedulesSpare (some alone) alone.held schedules := by
  induction schedules generalizing step alone state with
  | nil => trivial
  | cons schedule later ih =>
    obtain ⟨hnext, -⟩ := builtAlike_stepAlone halike.held hkeyed schedule
    refine ⟨fun other hother => ?_, ?_⟩
    · obtain rfl := Option.some.inj hother
      refine ⟨fun applied happlied => ?_, ?_⟩
      · obtain ⟨waiting, htransfers⟩ := (List.mem_inits _ _).mp happlied
        exact halike.readsHeld hnum applied (h.readsHeld hrows hall htransfers.symm)
      · exact (halike.draftsExpected hnext).mp (h.draftsExpected hrows hall)
    · have hrun := reaches_step h.idle h.built
      have hreaches := hrun.trans (reaches_schedule rfl rfl h.ops)
      rw [h.requests] at hreaches
      have hsame : SameTransfers (step.leaves step.held) alone.held := fun reqId =>
        (sameTransfers_run step step.ops step.held {} reqId).trans (halike.held reqId)
      obtain ⟨halike', hnum'⟩ := builtAlike_stepAlone hsame hkeyed schedule
      exact ih ⟨rfl, rfl, rfl, rfl⟩ halike' ((hkeyed.transferAll _).held schedule) hnum'
        (buildModelInput_rows _ _) fun next hnext => hall next (hreaches.trans hnext)

theorem spare_of_isolated {requests : CachedRequests} {schedules : List ExecutorSchedule}
    (hkeyed : Keyed requests)
    (hall : ∀ state, Reaches (OverlapState.start requests schedules) state → Isolated state) :
    SchedulesSpare none requests schedules := by
  cases schedules with
  | nil => trivial
  | cons schedule later =>
    refine ⟨fun other hother => absurd hother (Option.not_mem_none other), ?_⟩
    have hreaches : Reaches (OverlapState.start requests (schedule :: later)) _ :=
      reaches_schedule rfl rfl rfl
    obtain ⟨halike, hnum⟩ := builtAlike_stepAlone (fun _ => rfl) hkeyed schedule
    exact Waits.spare ⟨rfl, rfl, rfl, rfl⟩ halike ((hkeyed.transferAll _).held schedule) hnum
      (buildModelInput_rows _ _) fun next hnext => hall next (hreaches.trans hnext)

end Disturbed

/-- Every interleaving leaves each step what it was built with exactly if the schedules spare
each other's steps. -/
theorem overlapped_steps_isolated_iff [DraftTokensApi] {requests : CachedRequests}
    (schedules : List ExecutorSchedule) (hkeyed : Keyed requests) :
    (∀ threads state,
      exec overlapStep (OverlapState.start requests schedules) threads = .ok state →
        Isolated state) ↔ SchedulesSpare none requests schedules := by
  constructor
  · intro hall
    exact spare_of_isolated hkeyed fun state ⟨threads, hrun⟩ => hall threads state hrun
  · intro hspare threads state hrun
    exact isolated_of_spare hkeyed hspare hrun

/-- Nothing is cached yet. -/
def emptyCacheSample : CachedRequests := fun reqId => { reqId }

/-- The middle chunk of a split prefill, then its last chunk. -/
def chunkSchedulesSample : List ExecutorSchedule :=
  [{ transfers := [.full
       { reqId := 7, forwardingTokens := [1, 2, 3], samplingTokenNum := 0,
         forwardStepKind := .prefillChunkMid }] },
   { transfers := [.patch
       { reqId := 7, deltaForwardingTokens := [1, 2, 3, 4], kvCachedTokenNum := 3,
         prefixCacheLen := 3, forwardStepKind := .prefill }] }]

/-- The second schedule overwrites the request before the first step runs: the step sizes
its hidden units for one row, while its forward requests hold three. -/
theorem overlapped_steps_interfere :
    letI := concatDraftTokens
    ¬ ∀ (requests : CachedRequests) (schedules : List ExecutorSchedule) (threads : List Thread)
      (state : OverlapState),
      exec overlapStep (OverlapState.start requests schedules) threads = .ok state →
        Isolated state := by
  let _ := concatDraftTokens
  intro hisolated
  let threads := List.replicate 3 Thread.preprocess ++ List.replicate 8 Thread.execute
  have hused : (exec overlapStep (OverlapState.start emptyCacheSample chunkSchedulesSample)
      threads).map (fun state => state.finished.map fun step =>
        (step.2.hiddenTokens, step.1.heldUses.hiddenTokens)) = .ok [(1, 3)] := rfl
  cases hrun : exec overlapStep (OverlapState.start emptyCacheSample chunkSchedulesSample)
      threads with
  | error message =>
    rw [hrun] at hused
    cases hused
  | ok state =>
    rw [hrun] at hused
    have hfinished : (state.finished.map fun step =>
        (step.2.hiddenTokens, step.1.heldUses.hiddenTokens)) = [(1, 3)] := Except.ok.inj hused
    have hmem : (1, 3) ∈ state.finished.map fun step =>
        (step.2.hiddenTokens, step.1.heldUses.hiddenTokens) := by
      rw [hfinished]
      exact List.mem_singleton_self _
    obtain ⟨step, hstep, hvalues⟩ := List.mem_map.mp hmem
    obtain ⟨hone, hthree⟩ := Prod.mk.inj hvalues
    have huses := ((hisolated _ _ _ state hrun).1 step.1 step.2 hstep).1
    rw [huses, hthree] at hone
    exact absurd hone (by decide)

/-- Two middle chunks of the same length, then a decode step of another request. -/
def equalChunksSample : List ExecutorSchedule :=
  [{ transfers := [.full
       { reqId := 7, forwardingTokens := [1, 2, 3], samplingTokenNum := 0,
         forwardStepKind := .prefillChunkMid }] },
   { transfers := [.patch
       { reqId := 7, deltaForwardingTokens := [1, 2, 3, 4, 5, 6], kvCachedTokenNum := 3,
         prefixCacheLen := 3, samplingTokenNum := 0, forwardStepKind := .prefillChunkMid }] },
   { transfers := [.full
       { reqId := 8, forwardingTokens := [4, 5], kvCachedTokenNum := 1,
         forwardStepKind := .decode }] }]

theorem overlapped_steps_isolated_iff_sample :
    letI := concatDraftTokens
    (∀ threads state,
      exec overlapStep (OverlapState.start emptyCacheSample equalChunksSample) threads = .ok state →
        Isolated state) ∧
    ¬ ∀ threads state,
      exec overlapStep (OverlapState.start emptyCacheSample chunkSchedulesSample) threads =
          .ok state → Isolated state := by
  let _ := concatDraftTokens
  refine ⟨(overlapped_steps_isolated_iff equalChunksSample fun _ => rfl).mpr (by decide),
    fun hisolated => ?_⟩
  exact absurd ((overlapped_steps_isolated_iff chunkSchedulesSample fun _ => rfl).mp hisolated)
    (by decide)

end KsanaBuildAhead.Executor
