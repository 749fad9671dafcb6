import KsanaBuildAhead.Executor.MtpBatch

/-!
# The host ring is a finite map

Rewritten entry by entry after each step and filtered when requests go, the ring
keeps one entry for each request. The map of accepted tokens stays in step with it.
-/
namespace KsanaBuildAhead.Executor

open KsanaBuildAhead.Runtime KsanaBuildAhead.Lib.KeyedMap

inductive HostRingOp where
  | write (reqs : List ExecutorInferRequest)
  | clear (finishReqIds recomputeReqIds : List (List Int))

def hostRingStep (state : MtpSerialState) : HostRingOp → MtpSerialState
  | .write reqs => writeMtpSerialHostRingAfterGenerationState state reqs
  | .clear finishReqIds recomputeReqIds =>
    clearMtpSerialStateForLifecycle finishReqIds recomputeReqIds state

/-- No two requests of a batch share their id. -/
def DistinctIds (reqs : List ExecutorInferRequest) : Prop :=
  (reqs.map ExecutorInferRequest.reqId).Nodup

def HostRingOp.Distinct : HostRingOp → Prop
  | .write reqs => DistinctIds reqs
  | .clear _ _ => True

/-- The ring is empty or has four fields for each request it counts, with different ids, and
the accepted tokens of each are known. -/
structure RingWellFormed (state : MtpSerialState) : Prop where
  shape : state.hostRing = [] ∨
    (state.hostRing.length : Int) = 1 + kBuildAheadRingFieldsPerReq * state.hostRing.headD 0
  distinct : ((hostRingEntries state.hostRing).map HostRingEntry.reqId).Nodup
  accepted : ∀ entry ∈ hostRingEntries state.hostRing,
    ∃ tokens, state.acceptedTokens.lookup entry.reqId = some tokens ∧
      (tokens.length : Int) = entry.accepted

/-- A write sets the entries of the requests that generated a token, and no others. -/
structure WritesEntries (before after : MtpSerialState) (reqs : List ExecutorInferRequest) :
    Prop where
  written : ∀ req ∈ reqs, ∀ token tokens, req.generatedTokens = token :: tokens →
    lookupBuildAheadHostRingEntry after.hostRing req.reqId =
      some ⟨req.reqId, token, req.acceptedTokens.length, req.forwardingTokensDraftNum⟩
  others : ∀ reqId, (∀ req ∈ reqs, req.generatedTokens ≠ [] → req.reqId ≠ reqId) →
    lookupBuildAheadHostRingEntry after.hostRing reqId =
      lookupBuildAheadHostRingEntry before.hostRing reqId

/-- A clear removes the entries of the dropped requests, and no others. -/
structure ClearsEntries (before after : MtpSerialState) (dropIds : List Int) : Prop where
  dropped : ∀ reqId ∈ dropIds, lookupBuildAheadHostRingEntry after.hostRing reqId = none
  others : ∀ reqId, reqId ∉ dropIds → lookupBuildAheadHostRingEntry after.hostRing reqId =
    lookupBuildAheadHostRingEntry before.hostRing reqId

theorem ringOf_shape (entries : List HostRingEntry) :
    ((ringOf entries).length : Int) =
      1 + kBuildAheadRingFieldsPerReq * (ringOf entries).headD 0 := by
  rw [ringOf_length]
  rfl

section Step

variable {state : MtpSerialState} {reqs : List ExecutorInferRequest}
  {finishReqIds recomputeReqIds : List (List Int)}

theorem split_of_mem {req : ExecutorInferRequest} (hdistinct : DistinctIds reqs)
    (hmem : req ∈ reqs) :
    ∃ before after, reqs = before ++ req :: after ∧
      ∀ other ∈ before ++ after, other.reqId ≠ req.reqId := by
  obtain ⟨before, after, rfl⟩ := List.append_of_mem hmem
  refine ⟨before, after, rfl, fun other hother hid => ?_⟩
  rw [DistinctIds, List.map_append, List.map_cons, List.nodup_middle, ← List.map_append,
    List.nodup_cons] at hdistinct
  exact hdistinct.1 (hid ▸ List.mem_map_of_mem hother)

theorem writes_entries (state : MtpSerialState) (hdistinct : DistinctIds reqs) :
    WritesEntries state (writeMtpSerialHostRingAfterGenerationState state reqs) reqs where
  written := by
    intro req hmem token tokens hgenerated
    obtain ⟨before, after, rfl, hothers⟩ := split_of_mem hdistinct hmem
    have hview := view_write state hothers (by rw [hgenerated]; exact List.cons_ne_nil _ _)
    have hring := congrArg RequestView.ring hview
    rw [ringEntryOf, hgenerated] at hring
    exact hring
  others := by
    intro reqId hunwritten
    exact congrArg RequestView.ring (view_write_of_unwritten state hunwritten)

theorem clears_entries (state : MtpSerialState) :
    ClearsEntries state (clearMtpSerialStateForLifecycle finishReqIds recomputeReqIds state)
      (finishReqIds.flatten ++ recomputeReqIds.flatten) where
  dropped := fun _ hdrop =>
    congrArg RequestView.ring (view_clear_of_dropped finishReqIds recomputeReqIds state hdrop)
  others := fun _ hkeep =>
    congrArg RequestView.ring (view_clear finishReqIds recomputeReqIds state hkeep)

theorem RingWellFormed.write (hstate : RingWellFormed state) (hdistinct : DistinctIds reqs) :
    RingWellFormed (writeMtpSerialHostRingAfterGenerationState state reqs) := by
  by_cases hnone : reqs.filter (fun req => decide (req.generatedTokens ≠ [])) = []
  · have hsame : writeMtpSerialHostRingAfterGenerationState state reqs = state := by
      rw [writeMtpSerialHostRingAfterGenerationState]
      exact if_pos hnone
    rw [hsame]
    exact hstate
  have hring := hostRing_write state reqs hnone
  have hwrittenIds : ((reqs.filter fun req => decide (req.generatedTokens ≠ [])).map
      ExecutorInferRequest.reqId).Nodup :=
    List.Nodup.sublist (List.Sublist.map _ List.filter_sublist) hdistinct
  refine ⟨Or.inr ?_, ?_, ?_⟩
  · rw [hring]
    exact ringOf_shape _
  · rw [hring, hostRingEntries_ringOf, List.map_append, List.map_map]
    refine List.Nodup.append ?_ hwrittenIds ?_
    · exact List.Nodup.sublist (List.Sublist.map _ List.filter_sublist) hstate.distinct
    · intro reqId hkept hwritten
      obtain ⟨entry, hentry, rfl⟩ := List.mem_map.mp hkept
      have hother := (List.mem_filter.mp hentry).2
      rw [Bool.not_eq_true', List.contains_eq_mem, decide_eq_false_iff_not] at hother
      exact hother hwritten
  · intro entry hmem
    rw [hring, hostRingEntries_ringOf] at hmem
    rcases List.mem_append.mp hmem with hkept | hwritten
    · have hother := (List.mem_filter.mp hkept).2
      rw [Bool.not_eq_true', List.contains_eq_mem, decide_eq_false_iff_not] at hother
      have hview : (writeMtpSerialHostRingAfterGenerationState state reqs).view entry.reqId =
          state.view entry.reqId := view_write_of_unwritten state
        fun req hreq hgenerated hid => hother (hid ▸ List.mem_map_of_mem
          (List.mem_filter.mpr ⟨hreq, decide_eq_true hgenerated⟩))
      obtain ⟨tokens, hlookup, hlength⟩ := hstate.accepted entry (List.mem_of_mem_filter hkept)
      exact ⟨tokens, (congrArg RequestView.accepted hview).trans hlookup, hlength⟩
    · obtain ⟨req, hreq, rfl⟩ := List.mem_map.mp hwritten
      obtain ⟨hmem, hgenerated⟩ := List.mem_filter.mp hreq
      obtain ⟨before, after, rfl, hothers⟩ := split_of_mem hdistinct hmem
      have hview := view_write state hothers (of_decide_eq_true hgenerated)
      exact ⟨req.acceptedTokens, congrArg RequestView.accepted hview, rfl⟩

theorem RingWellFormed.clear (hstate : RingWellFormed state) :
    RingWellFormed (clearMtpSerialStateForLifecycle finishReqIds recomputeReqIds state) := by
  have hentries := hostRingEntries_clear finishReqIds recomputeReqIds state
  refine ⟨?_, ?_, ?_⟩
  · simp only [clearMtpSerialStateForLifecycle]
    split
    · split
      · exact Or.inl rfl
      · rw [writeEntries_init]
        exact Or.inr (ringOf_shape _)
    · exact hstate.shape
  · rw [hentries]
    exact List.Nodup.sublist (List.Sublist.map _ List.filter_sublist) hstate.distinct
  · intro entry hmem
    rw [hentries] at hmem
    obtain ⟨hold, hkept⟩ := List.mem_filter.mp hmem
    rw [Bool.not_eq_true', List.contains_eq_mem, decide_eq_false_iff_not] at hkept
    obtain ⟨tokens, hlookup, hlength⟩ := hstate.accepted entry hold
    have hview := view_clear finishReqIds recomputeReqIds state hkept
    exact ⟨tokens, (congrArg RequestView.accepted hview).trans hlookup, hlength⟩

theorem RingWellFormed.step {op : HostRingOp} (hstate : RingWellFormed state)
    (hdistinct : op.Distinct) : RingWellFormed (hostRingStep state op) := by
  cases op with
  | write reqs => exact hstate.write hdistinct
  | clear finishReqIds recomputeReqIds => exact hstate.clear

end Step

theorem RingWellFormed.run {state : MtpSerialState} {ops : List HostRingOp}
    (hstate : RingWellFormed state) (hdistinct : ∀ op ∈ ops, op.Distinct) :
    RingWellFormed (ops.foldl hostRingStep state) := by
  induction ops generalizing state with
  | nil => exact hstate
  | cons op ops ih =>
    exact ih (hstate.step (hdistinct op List.mem_cons_self))
      fun other hmem => hdistinct other (List.mem_cons_of_mem _ hmem)

theorem RingWellFormed.of_empty {state : MtpSerialState} (hempty : state.hostRing = []) :
    RingWellFormed state where
  shape := Or.inl hempty
  distinct := by
    rw [hempty]
    exact List.nodup_nil
  accepted := by
    rw [hempty]
    exact fun entry hmem => absurd hmem List.not_mem_nil

/-- Whatever was written and cleared before, the ring is well formed, and the next call changes
exactly the entries it names. -/
theorem host_ring_is_map (start : MtpSerialState) (ops : List HostRingOp)
    (hempty : start.hostRing = []) (hdistinct : ∀ op ∈ ops, op.Distinct) :
    RingWellFormed (ops.foldl hostRingStep start) ∧
      (∀ reqs, DistinctIds reqs → WritesEntries (ops.foldl hostRingStep start)
        (hostRingStep (ops.foldl hostRingStep start) (.write reqs)) reqs) ∧
      ∀ finishReqIds recomputeReqIds, ClearsEntries (ops.foldl hostRingStep start)
        (hostRingStep (ops.foldl hostRingStep start) (.clear finishReqIds recomputeReqIds))
        (finishReqIds.flatten ++ recomputeReqIds.flatten) := by
  refine ⟨(RingWellFormed.of_empty hempty).run hdistinct, ?_, ?_⟩
  · intro reqs hreqs
    exact writes_entries _ hreqs
  · intro finishReqIds recomputeReqIds
    exact clears_entries _

def ringSampleReq : ExecutorInferRequest where
  reqId := 3
  generatedTokens := [20]
  acceptedTokens := [40]
  forwardingTokensDraftNum := 1

/-- Two requests write, one goes, and the other writes again. -/
def ringSampleOps : List HostRingOp :=
  [.write [ringSampleReq, { reqId := 4, generatedTokens := [21] }], .clear [[4]] [],
    .write [{ reqId := 3, generatedTokens := [22] }, { reqId := 5 }]]

theorem host_ring_is_map_sample :
    (ringSampleOps.foldl hostRingStep {}).hostRing = [1, 3, 22, 0, 0] ∧
      RingWellFormed (ringSampleOps.foldl hostRingStep {}) := by
  have hdistinct : ∀ op ∈ ringSampleOps, op.Distinct := by
    intro op hmem
    simp only [ringSampleOps, List.mem_cons, List.not_mem_nil, or_false] at hmem
    rcases hmem with rfl | rfl | rfl
    · show List.Nodup _
      decide
    · trivial
    · show List.Nodup _
      decide
  exact ⟨by decide, (host_ring_is_map {} ringSampleOps rfl hdistinct).1⟩

end KsanaBuildAhead.Executor
