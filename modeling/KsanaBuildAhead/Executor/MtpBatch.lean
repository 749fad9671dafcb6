import KsanaBuildAhead.Engine.RequestRun
import KsanaBuildAhead.Executor.MtpRepair
import KsanaBuildAhead.Lib.KeyedMap

/-!
# One step of the Executor

A batch is repaired, run, and leaves its results for the next one. Seen from one
request, the rest of the batch does not matter.
-/
namespace KsanaBuildAhead.Executor

open KsanaBuildAhead.Runtime KsanaBuildAhead.Engine KsanaBuildAhead.Lib.KeyedMap

/-- A schedule output on the Executor, its requests already updated. -/
structure ExecutorBatch where
  finishReqIds : List (List Int) := []
  recomputeReqIds : List (List Int) := []
  reqs : List ExecutorInferRequest

def ExecutorBatch.dropIds (batch : ExecutorBatch) : List Int :=
  batch.finishReqIds.flatten ++ batch.recomputeReqIds.flatten

section Batch

variable [DraftTokensApi]

/-- The tokens a step leaves in a request; a middle chunk leaves none. The estimate of
`sampling_token_num` behind `GenerateDraft` is left out: every patch overwrites it. -/
def postprocessRequest (results : Int → StepResult) (req : ExecutorInferRequest) :
    ExecutorInferRequest :=
  if isPrefillChunkMidStep req.forwardStepKind then
    { req with
      generatedTokens := []
      acceptedTokens := []
      draftTokens := DraftTokensApi.clear req.draftTokens
      samplingResultTokens := [] }
  else
    { req with
      generatedTokens := (results req.reqId).generatedTokens
      acceptedTokens := (results req.reqId).acceptedTokens
      draftTokens := (results req.reqId).draftTokens }

/-- The batch as the repair leaves it, and the state at that moment. -/
def repairBatch (state : MtpSerialState) (batch : ExecutorBatch) :
    MtpSerialState × List ExecutorInferRequest :=
  let cleared := clearMtpSerialStateForLifecycle batch.finishReqIds batch.recomputeReqIds state
  applyCpuBuildAheadRepairFromRing ∅ cleared.hostRing cleared batch.reqs

/-- What the results of the batch leave in the state. -/
def finishBatch (state : MtpSerialState) (repaired : List ExecutorInferRequest)
    (results : Int → StepResult) : MtpSerialState :=
  let finished := repaired.map (postprocessRequest results)
  freezeMtpDrafts (writeMtpSerialHostRingAfterGenerationState state finished) finished

/-- One step of the Executor with the results the model returns. -/
def executeBatch (state : MtpSerialState) (batch : ExecutorBatch) (results : Int → StepResult) :
    MtpSerialState × List ExecutorInferRequest :=
  let (next, repaired) := repairBatch state batch
  (finishBatch next repaired results, repaired)

/-- Several batches one after the other. -/
def executeBatches (state : MtpSerialState) (batches : List (ExecutorBatch × (Int → StepResult))) :
    MtpSerialState :=
  batches.foldl (fun state batch => (executeBatch state batch.1 batch.2).1) state

end Batch

section Clear

variable (finishReqIds recomputeReqIds : List (List Int)) (state : MtpSerialState)

/-- Clearing keeps exactly the ring entries of the requests that are not dropped. -/
theorem hostRingEntries_clear :
    hostRingEntries
      (clearMtpSerialStateForLifecycle finishReqIds recomputeReqIds state).hostRing =
      (hostRingEntries state.hostRing).filter fun entry =>
        !(finishReqIds.flatten ++ recomputeReqIds.flatten).contains entry.reqId := by
  simp only [clearMtpSerialStateForLifecycle]
  split
  · split
    · rename_i hempty
      rw [hempty]
      rfl
    · rw [hostRingEntries_written]
  · rename_i hkept
    by_cases hdrop : finishReqIds.flatten ++ recomputeReqIds.flatten = []
    · rw [hdrop]
      simp
    · have hempty : state.hostRing = [] := by
        by_contra hring
        exact hkept ⟨hdrop, hring⟩
      rw [hempty]
      rfl

variable {reqId : Int}

theorem view_clear (hkeep : reqId ∉ finishReqIds.flatten ++ recomputeReqIds.flatten) :
    (clearMtpSerialStateForLifecycle finishReqIds recomputeReqIds state).view reqId =
      state.view reqId := by
  have hne : ∀ dropped ∈ finishReqIds.flatten ++ recomputeReqIds.flatten, id dropped ≠ reqId :=
    fun dropped hmem heq => hkeep (heq ▸ hmem)
  have hring : lookupBuildAheadHostRingEntry
      (clearMtpSerialStateForLifecycle finishReqIds recomputeReqIds state).hostRing reqId =
        lookupBuildAheadHostRingEntry state.hostRing reqId := by
    rw [lookupBuildAheadHostRingEntry, hostRingEntries_clear, List.find?_filter]
    refine congrArg (fun p => (hostRingEntries state.hostRing).find? p) (funext fun entry => ?_)
    cases hid : entry.reqId == reqId
    · simp
    · rw [beq_iff_eq.mp hid]
      simpa using hkeep
  rw [MtpSerialState.view, MtpSerialState.view, RequestView.mk.injEq]
  exact ⟨hring, lookup_foldl_erase_of_ne id _ _ hne, lookup_foldl_erase_of_ne id _ _ hne,
    lookup_foldl_erase_of_ne id _ _ hne⟩

theorem view_clear_of_dropped (hdrop : reqId ∈ finishReqIds.flatten ++ recomputeReqIds.flatten) :
    (clearMtpSerialStateForLifecycle finishReqIds recomputeReqIds state).view reqId = {} := by
  have hring : lookupBuildAheadHostRingEntry
      (clearMtpSerialStateForLifecycle finishReqIds recomputeReqIds state).hostRing reqId = none := by
    rw [lookupBuildAheadHostRingEntry, hostRingEntries_clear, List.find?_eq_none]
    intro entry hmem hid
    have hkept := (List.mem_filter.mp hmem).2
    rw [beq_iff_eq.mp hid] at hkept
    simp only [Bool.not_eq_true', List.contains_eq_mem, decide_eq_false_iff_not] at hkept
    exact hkept hdrop
  have hmem : ∃ dropped ∈ finishReqIds.flatten ++ recomputeReqIds.flatten, id dropped = reqId :=
    ⟨reqId, hdrop, rfl⟩
  rw [MtpSerialState.view, RequestView.mk.injEq]
  exact ⟨hring, lookup_foldl_erase_eq_none id _ _ (Or.inl hmem),
    lookup_foldl_erase_eq_none id _ _ (Or.inl hmem), lookup_foldl_erase_eq_none id _ _ (Or.inl hmem)⟩

end Clear

/-- What a batch writes: the entries of the requests it generates nothing for stay in front. -/
theorem hostRing_write (state : MtpSerialState) (reqs : List ExecutorInferRequest)
    (hsome : reqs.filter (fun req => req.generatedTokens ≠ []) ≠ []) :
    (writeMtpSerialHostRingAfterGenerationState state reqs).hostRing =
      ringOf ((hostRingEntries state.hostRing).filter (fun entry =>
          !((reqs.filter fun req => req.generatedTokens ≠ []).map
            ExecutorInferRequest.reqId).contains entry.reqId) ++
        (reqs.filter fun req => req.generatedTokens ≠ []).map ringEntryOf) := by
  rw [writeMtpSerialHostRingAfterGenerationState]
  dsimp only
  generalize reqs.filter (fun req => decide (req.generatedTokens ≠ [])) = ringReqs at hsome ⊢
  rw [if_neg hsome]
  dsimp only
  generalize (hostRingEntries state.hostRing).filter (fun entry =>
    !(ringReqs.map ExecutorInferRequest.reqId).contains entry.reqId) = kept
  have hwritten := writeEntries_init (kept ++ ringReqs.map ringEntryOf)
  rwa [writeEntries_append, List.length_append, List.length_map, Nat.zero_add] at hwritten

section Split

variable (state : MtpSerialState) {before after : List ExecutorInferRequest}
  {req : ExecutorInferRequest} (hothers : ∀ other ∈ before ++ after, other.reqId ≠ req.reqId)
include hothers

/-- After the ring is written it holds the tokens of a request that generated some. -/
theorem view_write (hgenerated : req.generatedTokens ≠ []) :
    (writeMtpSerialHostRingAfterGenerationState state (before ++ req :: after)).view req.reqId =
      { state.view req.reqId with
        ring := some (ringEntryOf req), accepted := some req.acceptedTokens } := by
  have hringReqs : (before ++ req :: after).filter (fun r => decide (r.generatedTokens ≠ [])) =
      before.filter (fun r => decide (r.generatedTokens ≠ [])) ++ req ::
        after.filter fun r => decide (r.generatedTokens ≠ []) := by
    rw [List.filter_append, List.filter_cons_of_pos (by simpa using hgenerated)]
  have hring := hostRing_write state (before ++ req :: after) (by
    rw [hringReqs]
    exact List.append_ne_nil_of_right_ne_nil _ (List.cons_ne_nil _ _))
  rw [hringReqs] at hring
  rw [List.map_append (f := ringEntryOf)] at hring
  have hpreIds : ∀ other ∈ before.filter (fun r => decide (r.generatedTokens ≠ [])),
      other.reqId ≠ req.reqId := fun other hmem =>
    hothers other (List.mem_append_left _ (List.mem_of_mem_filter hmem))
  have hsufIds : ∀ other ∈ after.filter (fun r => decide (r.generatedTokens ≠ [])),
      other.reqId ≠ req.reqId := fun other hmem =>
    hothers other (List.mem_append_right _ (List.mem_of_mem_filter hmem))
  have hfound : lookupBuildAheadHostRingEntry (writeMtpSerialHostRingAfterGenerationState state
      (before ++ req :: after)).hostRing req.reqId = some (ringEntryOf req) := by
    rw [lookupBuildAheadHostRingEntry, hring, hostRingEntries_ringOf, List.find?_append,
      List.find?_eq_none.mpr, Option.none_or, List.find?_append,
      List.find?_eq_none.mpr, Option.none_or, List.map_cons,
      List.find?_cons_of_pos (by simp [ringEntryOf])]
    · intro entry hmem
      obtain ⟨other, hother, rfl⟩ := List.mem_map.mp hmem
      simpa [ringEntryOf] using hpreIds other hother
    · intro entry hmem hid
      have hother := (List.mem_filter.mp hmem).2
      rw [beq_iff_eq.mp hid] at hother
      simp at hother
  have haccepted := lookup_foldl_insert_last ExecutorInferRequest.reqId
    ExecutorInferRequest.acceptedTokens (before.filter fun r => decide (r.generatedTokens ≠ []))
    (after.filter fun r => decide (r.generatedTokens ≠ [])) req
    (((hostRingEntries state.hostRing).filter fun entry =>
      ((before.filter (fun r => decide (r.generatedTokens ≠ [])) ++ req ::
        after.filter (fun r => decide (r.generatedTokens ≠ []))).map
          ExecutorInferRequest.reqId).contains entry.reqId).foldl
        (fun map entry => map.erase entry.reqId) state.acceptedTokens) hsufIds
  rw [MtpSerialState.view, hfound, writeMtpSerialHostRingAfterGenerationState]
  simp only [hringReqs]
  rw [if_neg (by simp)]
  simp only [MtpSerialState.view, haccepted]

/-- After the drafts are frozen they are those the step left in the request. -/
theorem view_freeze (hkind : isPrefillChunkMidStep req.forwardStepKind = false) :
    (freezeMtpDrafts state (before ++ req :: after)).view req.reqId =
      { state.view req.reqId with drafts := some req.draftTokens.mtp } := by
  have hfrozen : (before ++ req :: after).filter
      (fun r => !isPrefillChunkMidStep r.forwardStepKind) =
      before.filter (fun r => !isPrefillChunkMidStep r.forwardStepKind) ++ req ::
        after.filter fun r => !isPrefillChunkMidStep r.forwardStepKind := by
    rw [List.filter_append, List.filter_cons_of_pos (by rw [hkind]; rfl)]
  have hafter : ∀ other ∈ after.filter fun r => !isPrefillChunkMidStep r.forwardStepKind,
      other.reqId ≠ req.reqId := fun other hmem =>
    hothers other (List.mem_append_right _ (List.mem_of_mem_filter hmem))
  simp only [MtpSerialState.view, freezeMtpDrafts, hfrozen, RequestView.mk.injEq, true_and]
  exact lookup_foldl_insert_last ExecutorInferRequest.reqId (fun r => r.draftTokens.mtp) _ _ req _
    hafter

end Split

section Other

variable (state : MtpSerialState) {reqs : List ExecutorInferRequest} {reqId : Int}

/-- A request for which the batch generates nothing keeps its ring entry. -/
theorem view_write_of_unwritten
    (hunwritten : ∀ other ∈ reqs, other.generatedTokens ≠ [] → other.reqId ≠ reqId) :
    (writeMtpSerialHostRingAfterGenerationState state reqs).view reqId = state.view reqId := by
  have hids : ∀ other ∈ reqs.filter (fun r => decide (r.generatedTokens ≠ [])),
      other.reqId ≠ reqId := fun other hmem =>
    hunwritten other (List.mem_of_mem_filter hmem)
      (of_decide_eq_true (List.mem_filter.mp hmem).2)
  by_cases hnone : reqs.filter (fun r => decide (r.generatedTokens ≠ [])) = []
  · rw [writeMtpSerialHostRingAfterGenerationState]
    exact congrArg (MtpSerialState.view · reqId) (if_pos hnone)
  have hring := hostRing_write state reqs hnone
  have haccepted : (writeMtpSerialHostRingAfterGenerationState state reqs).acceptedTokens =
      (reqs.filter (fun r => decide (r.generatedTokens ≠ []))).foldl
        (fun map req => map.insert req.reqId req.acceptedTokens)
        (((hostRingEntries state.hostRing).filter fun entry =>
          ((reqs.filter (fun r => decide (r.generatedTokens ≠ []))).map
            ExecutorInferRequest.reqId).contains entry.reqId).foldl
          (fun map entry => map.erase entry.reqId) state.acceptedTokens) := by
    rw [writeMtpSerialHostRingAfterGenerationState]
    exact congrArg MtpSerialState.acceptedTokens (if_neg hnone)
  have hsame : (writeMtpSerialHostRingAfterGenerationState state reqs).lastBlock =
        state.lastBlock ∧
      (writeMtpSerialHostRingAfterGenerationState state reqs).nextMtpDrafts =
        state.nextMtpDrafts := by
    rw [writeMtpSerialHostRingAfterGenerationState]
    dsimp only
    rw [if_neg hnone]
    exact ⟨rfl, rfl⟩
  generalize reqs.filter (fun r => decide (r.generatedTokens ≠ [])) = ringReqs
    at hids hring haccepted
  have hcur : (ringReqs.map ExecutorInferRequest.reqId).contains reqId = false := by
    rw [Bool.eq_false_iff, Ne, List.contains_iff_mem]
    intro hmem
    obtain ⟨other, hother, hid⟩ := List.mem_map.mp hmem
    exact hids other hother hid
  have hnew : (ringReqs.map ringEntryOf).find? (fun entry => entry.reqId == reqId) = none := by
    rw [List.find?_eq_none]
    intro entry hmem
    obtain ⟨other, hother, rfl⟩ := List.mem_map.mp hmem
    simpa [ringEntryOf] using hids other hother
  have hold : ((hostRingEntries state.hostRing).filter fun entry =>
      !(ringReqs.map ExecutorInferRequest.reqId).contains entry.reqId).find?
        (fun entry => entry.reqId == reqId) =
      (hostRingEntries state.hostRing).find? fun entry => entry.reqId == reqId := by
    rw [List.find?_filter]
    refine congrArg (fun p => (hostRingEntries state.hostRing).find? p) (funext fun entry => ?_)
    cases hid : entry.reqId == reqId
    · simp
    · rw [beq_iff_eq.mp hid, hcur]
      rfl
  have herased : ∀ entry ∈ (hostRingEntries state.hostRing).filter (fun entry =>
      (ringReqs.map ExecutorInferRequest.reqId).contains entry.reqId), entry.reqId ≠ reqId := by
    intro entry hmem hid
    have hcontains := (List.mem_filter.mp hmem).2
    rw [hid, hcur] at hcontains
    cases hcontains
  rw [MtpSerialState.view, MtpSerialState.view, RequestView.mk.injEq, lookupBuildAheadHostRingEntry,
    hring, haccepted, hsame.1, hsame.2, hostRingEntries_ringOf, List.find?_append, hold, hnew,
    Option.or_none, lookup_foldl_insert_of_ne ExecutorInferRequest.reqId
      ExecutorInferRequest.acceptedTokens _ _ hids,
    lookup_foldl_erase_of_ne HostRingEntry.reqId _ _ herased]
  exact ⟨rfl, rfl, rfl, rfl⟩

theorem view_freeze_of_unfrozen (hunfrozen : ∀ other ∈ reqs,
      isPrefillChunkMidStep other.forwardStepKind = false → other.reqId ≠ reqId) :
    (freezeMtpDrafts state reqs).view reqId = state.view reqId := by
  simp only [MtpSerialState.view, freezeMtpDrafts, RequestView.mk.injEq, true_and]
  refine lookup_foldl_insert_of_ne ExecutorInferRequest.reqId (fun r => r.draftTokens.mtp) _ _ ?_
  intro other hmem
  obtain ⟨hmem, hkind⟩ := List.mem_filter.mp hmem
  exact hunfrozen other hmem (by rwa [Bool.not_eq_true'] at hkind)

variable (hothers : ∀ other ∈ reqs, other.reqId ≠ reqId)
include hothers

theorem view_write_other :
    (writeMtpSerialHostRingAfterGenerationState state reqs).view reqId = state.view reqId :=
  view_write_of_unwritten state fun other hmem _ => hothers other hmem

theorem view_freeze_other : (freezeMtpDrafts state reqs).view reqId = state.view reqId :=
  view_freeze_of_unfrozen state fun other hmem _ => hothers other hmem

end Other

theorem repairRequests_at (prevRing : List Int) (state : MtpSerialState)
    (before after : List ExecutorInferRequest) (req : ExecutorInferRequest)
    (hothers : ∀ other ∈ before ++ after, other.reqId ≠ req.reqId) :
    ∃ mid before' after', mid.hostRing = state.hostRing ∧
      mid.view req.reqId = state.view req.reqId ∧
      before'.map ExecutorInferRequest.reqId = before.map ExecutorInferRequest.reqId ∧
      after'.map ExecutorInferRequest.reqId = after.map ExecutorInferRequest.reqId ∧
      (repairRequests ∅ prevRing state (before ++ req :: after)).2 =
        before' ++ (repairRequest ∅ prevRing mid req).2 :: after' ∧
      (repairRequests ∅ prevRing state (before ++ req :: after)).1.view req.reqId =
        (repairRequest ∅ prevRing mid req).1.view req.reqId := by
  induction before generalizing state with
  | nil =>
    obtain ⟨hids, hviews⟩ :=
      repairRequests_frame ∅ prevRing (repairRequest ∅ prevRing state req).1 after
    exact ⟨state, [], _, rfl, rfl, rfl, hids, rfl, hviews _ (by simpa using hothers)⟩
  | cons head before ih =>
    obtain ⟨hid, hring, hview⟩ := repairRequest_frame ∅ prevRing state head
    obtain ⟨mid, before', after', hmidRing, hmidView, hbefore, hafter, hreqs, hfinal⟩ :=
      ih (repairRequest ∅ prevRing state head).1
        fun other hmem => hothers other (List.mem_cons_of_mem _ hmem)
    have hne : req.reqId ≠ head.reqId := (hothers head (List.mem_cons_self ..)).symm
    refine ⟨mid, (repairRequest ∅ prevRing state head).2 :: before', after',
      hmidRing.trans hring, hmidView.trans (hview _ hne), ?_, hafter, ?_, hfinal⟩
    · rw [List.map_cons, List.map_cons, hid, hbefore]
    · rw [List.cons_append, repairRequests, List.cons_append]
      exact congrArg _ hreqs

theorem repairRequest_unknown {state : MtpSerialState} {cached : ExecutorInferRequest}
    (hunknown : (state.view cached.reqId).ring = none) :
    repairRequest ∅ state.hostRing state cached = (state, cached) := by
  have hlookup : lookupBuildAheadHostRingEntry state.hostRing cached.reqId = none := hunknown
  rw [repairRequest]
  simp only [AList.lookup_empty, restoreFromSnapshot, hlookup, if_true]
  split <;> rfl

/-- In a repaired batch each request is what its own repair makes of it. -/
theorem applyCpuBuildAheadRepairFromRing_at (state : MtpSerialState)
    (before after : List ExecutorInferRequest) (req : ExecutorInferRequest)
    (hothers : ∀ other ∈ before ++ after, other.reqId ≠ req.reqId) :
    ∃ mid final before' after', mid.hostRing = state.hostRing ∧
      mid.view req.reqId = state.view req.reqId ∧
      before'.map ExecutorInferRequest.reqId = before.map ExecutorInferRequest.reqId ∧
      after'.map ExecutorInferRequest.reqId = after.map ExecutorInferRequest.reqId ∧
      applyCpuBuildAheadRepairFromRing ∅ state.hostRing state (before ++ req :: after) =
        (final, before' ++ (repairRequest ∅ mid.hostRing mid req).2 :: after') ∧
      final.view req.reqId = (repairRequest ∅ mid.hostRing mid req).1.view req.reqId := by
  rw [applyCpuBuildAheadRepairFromRing]
  split
  · rename_i hempty
    have hunknown : (state.view req.reqId).ring = none := by
      cases hring : (state.view req.reqId).ring with
      | none => rfl
      | some entry => exact absurd hempty (headD_ne_zero_of_lookup hring)
    exact ⟨state, state, before, after, rfl, rfl, rfl, rfl, by rw [repairRequest_unknown hunknown],
      by rw [repairRequest_unknown hunknown]⟩
  · obtain ⟨mid, before', after', hring, hview, hbefore, hafter, hreqs, hfinal⟩ :=
      repairRequests_at state.hostRing state before after req hothers
    refine ⟨mid, _, before', after', hring, hview, hbefore, hafter, Prod.ext rfl ?_, ?_⟩
    · rw [hring]
      exact hreqs
    · rw [hring]
      exact hfinal

theorem others_of_ids {before after before' after' : List ExecutorInferRequest} {reqId : Int}
    (hothers : ∀ other ∈ before ++ after, other.reqId ≠ reqId)
    (hbefore : before'.map ExecutorInferRequest.reqId = before.map ExecutorInferRequest.reqId)
    (hafter : after'.map ExecutorInferRequest.reqId = after.map ExecutorInferRequest.reqId) :
    ∀ other ∈ before' ++ after', other.reqId ≠ reqId := by
  have hids : (before' ++ after').map ExecutorInferRequest.reqId =
      (before ++ after).map ExecutorInferRequest.reqId := by
    rw [List.map_append, List.map_append, hbefore, hafter]
  intro other hmem
  have hid := List.mem_map_of_mem (f := ExecutorInferRequest.reqId) hmem
  rw [hids] at hid
  obtain ⟨origin, horigin, heq⟩ := List.mem_map.mp hid
  rw [← heq]
  exact hothers origin horigin

section Step

variable [DraftTokensApi]

theorem postprocessRequest_reqId (results : Int → StepResult) (req : ExecutorInferRequest) :
    (postprocessRequest results req).reqId = req.reqId := by
  rw [postprocessRequest]
  split <;> rfl

theorem executeBatch_other (state : MtpSerialState) (batch : ExecutorBatch)
    (results : Int → StepResult) {reqId : Int} (hkept : reqId ∉ batch.dropIds)
    (hothers : ∀ other ∈ batch.reqs, other.reqId ≠ reqId) :
    (executeBatch state batch results).1.view reqId = state.view reqId := by
  have hcleared := view_clear batch.finishReqIds batch.recomputeReqIds state hkept
  have hrepaired : (repairBatch state batch).2.map ExecutorInferRequest.reqId =
      batch.reqs.map ExecutorInferRequest.reqId ∧
      (repairBatch state batch).1.view reqId = state.view reqId := by
    rw [repairBatch, applyCpuBuildAheadRepairFromRing]
    split
    · exact ⟨rfl, hcleared⟩
    · obtain ⟨hids, hviews⟩ := repairRequests_frame ∅
        (clearMtpSerialStateForLifecycle batch.finishReqIds batch.recomputeReqIds state).hostRing
        (clearMtpSerialStateForLifecycle batch.finishReqIds batch.recomputeReqIds state) batch.reqs
      exact ⟨hids, (hviews reqId hothers).trans hcleared⟩
  have hfinished : ∀ other ∈ (repairBatch state batch).2.map (postprocessRequest results),
      other.reqId ≠ reqId := by
    intro other hmem
    obtain ⟨origin, horigin, rfl⟩ := List.mem_map.mp hmem
    have hid := List.mem_map_of_mem (f := ExecutorInferRequest.reqId) horigin
    rw [hrepaired.1] at hid
    obtain ⟨source, hsource, heq⟩ := List.mem_map.mp hid
    rw [postprocessRequest_reqId, ← heq]
    exact hothers source hsource
  show (finishBatch (repairBatch state batch).1 (repairBatch state batch).2 results).view reqId = _
  rw [finishBatch, view_freeze_other _ hfinished, view_write_other _ hfinished, hrepaired.2]

theorem executeBatches_other (state : MtpSerialState)
    (batches : List (ExecutorBatch × (Int → StepResult))) {reqId : Int}
    (hkept : ∀ batch ∈ batches, reqId ∉ batch.1.dropIds)
    (hothers : ∀ batch ∈ batches, ∀ other ∈ batch.1.reqs, other.reqId ≠ reqId) :
    (executeBatches state batches).view reqId = state.view reqId := by
  induction batches generalizing state with
  | nil => rfl
  | cons batch batches ih =>
    have hhead := executeBatch_other state batch.1 batch.2 (hkept batch (List.mem_cons_self ..))
      (hothers batch (List.mem_cons_self ..))
    have htail := ih (executeBatch state batch.1 batch.2).1
      (fun other hmem => hkept other (List.mem_cons_of_mem _ hmem))
      (fun other hmem => hothers other (List.mem_cons_of_mem _ hmem))
    exact htail.trans hhead

theorem finishBatch_holds (state : MtpSerialState) {before after : List ExecutorInferRequest}
    {req : ExecutorInferRequest} (results : Int → StepResult) {token : Int}
    {accepted : List Int} {drafts : DraftTokens}
    (hothers : ∀ other ∈ before ++ after, other.reqId ≠ req.reqId)
    (hkind : isPrefillChunkMidStep req.forwardStepKind = false)
    (hresult : results req.reqId = ⟨[token], accepted, drafts⟩) :
    ((finishBatch state (before ++ req :: after) results).view req.reqId).Holds token accepted
      drafts.mtp (state.view req.reqId).lastBlock := by
  have hfinished : postprocessRequest results req = { req with
      generatedTokens := [token], acceptedTokens := accepted, draftTokens := drafts } := by
    simp [postprocessRequest, hkind, hresult]
  have hothers' : ∀ other ∈ before.map (postprocessRequest results) ++
      after.map (postprocessRequest results),
      other.reqId ≠ (postprocessRequest results req).reqId := by
    intro other hmem
    rw [← List.map_append] at hmem
    obtain ⟨origin, horigin, rfl⟩ := List.mem_map.mp hmem
    rw [postprocessRequest_reqId, postprocessRequest_reqId]
    exact hothers origin horigin
  have hkind' : isPrefillChunkMidStep (postprocessRequest results req).forwardStepKind = false := by
    rw [hfinished]
    exact hkind
  have hwrite := view_write state hothers' (by rw [hfinished]; simp)
  have hfreeze := view_freeze (writeMtpSerialHostRingAfterGenerationState state
    ((before ++ req :: after).map (postprocessRequest results))) hothers' hkind'
  rw [finishBatch]
  rw [List.map_append, List.map_cons] at hfreeze ⊢
  rw [hwrite] at hfreeze
  rw [postprocessRequest_reqId] at hfreeze
  rw [hfreeze]
  constructor
  · exact ⟨_, rfl, by rw [hfinished]; rfl, by rw [hfinished]; rfl⟩
  · rw [hfinished]
  · rfl
  · rw [hfinished]

/-- One step of the Executor, seen from one of its requests: the request is repaired to
`repaired` and generates one token. -/
theorem executeBatch_at (state : MtpSerialState) {cleared : MtpSerialState} (batch : ExecutorBatch)
    {before after : List ExecutorInferRequest} {cached repaired : ExecutorInferRequest}
    (results : Int → StepResult) {token : Int} {accepted : List Int} {drafts : DraftTokens}
    {lastBlock : Option (Nat × Nat)}
    (hcleared : clearMtpSerialStateForLifecycle batch.finishReqIds batch.recomputeReqIds state =
      cleared)
    (hreqs : batch.reqs = before ++ cached :: after)
    (hothers : ∀ other ∈ before ++ after, other.reqId ≠ cached.reqId)
    (hrepair : ∀ mid : MtpSerialState, mid.view cached.reqId = cleared.view cached.reqId →
      ∃ next, repairRequest ∅ mid.hostRing mid cached = (next, repaired) ∧
        (next.view cached.reqId).lastBlock = lastBlock)
    (hid : repaired.reqId = cached.reqId)
    (hkind : isPrefillChunkMidStep repaired.forwardStepKind = false)
    (hresult : results cached.reqId = ⟨[token], accepted, drafts⟩) :
    ∃ next reqs, executeBatch state batch results = (next, reqs) ∧
      reqs[before.length]? = some repaired ∧
      (next.view cached.reqId).Holds token accepted drafts.mtp lastBlock := by
  obtain ⟨mid, final, before', after', -, hview, hbefore, hafter, happly, hfinal⟩ :=
    applyCpuBuildAheadRepairFromRing_at cleared before after cached hothers
  obtain ⟨next, hnext, hblock⟩ := hrepair mid hview
  rw [hnext] at happly hfinal
  have hlength : before'.length = before.length := by
    have hlengths := congrArg List.length hbefore
    simpa using hlengths
  have hothers' : ∀ other ∈ before' ++ after', other.reqId ≠ repaired.reqId := by
    rw [hid]
    exact others_of_ids hothers hbefore hafter
  have hfinish := finishBatch_holds final results hothers' hkind (by rw [hid]; exact hresult)
  rw [hid, hfinal, hblock] at hfinish
  refine ⟨_, before' ++ repaired :: after', ?_, ?_, hfinish⟩
  · rw [executeBatch, repairBatch, hcleared, hreqs, happly]
  · rw [← hlength, List.getElem?_append_right (Nat.le_refl _), Nat.sub_self]
    rfl

end Step

end KsanaBuildAhead.Executor
