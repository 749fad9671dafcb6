import KsanaBuildAhead.Runtime.ScheduleOutput

/-!
# Requests that are alive

A request lives from its arrival until it is stopped, also while it waits, is transferred or has
been recomputed, and not only while it runs.
-/
namespace KsanaBuildAhead.Engine

open KsanaBuildAhead.Runtime

/-- The requests of one DP batch. -/
structure BatchState where
  scheduleOutput : ScheduleOutput
  decodingQueue : List InferRequest := []
  waitingQueue : List InferRequest := []
  transferQueue : List InferRequest := []
  asyncRecomputedReqs : List (Int × InferRequest) := []

def appendLiveReqId (liveReqIds : List Int) (req : InferRequest) : List Int :=
  if req.isStopped then liveReqIds else liveReqIds ++ [req.reqId]

namespace BatchState

/-- Every request that `FillLiveReqIds` looks at. -/
def lifecycleReqs (state : BatchState) : List InferRequest :=
  state.scheduleOutput.runningReqs ++ state.decodingQueue ++ state.waitingQueue ++
    state.transferQueue ++ state.asyncRecomputedReqs.map Prod.snd

def fillLiveReqIds (state : BatchState) : List Int :=
  state.lifecycleReqs.foldl appendLiveReqId []

end BatchState

theorem mem_appendLiveReqIds {reqs : List InferRequest} {liveReqIds : List Int} {reqId : Int} :
    reqId ∈ reqs.foldl appendLiveReqId liveReqIds ↔
      reqId ∈ liveReqIds ∨ ∃ req ∈ reqs, req.isStopped = false ∧ req.reqId = reqId := by
  induction reqs generalizing liveReqIds with
  | nil => exact ⟨Or.inl, fun h => h.elim id fun ⟨_, hmem, _⟩ => absurd hmem List.not_mem_nil⟩
  | cons req reqs ih =>
    rw [List.foldl_cons, ih, appendLiveReqId, List.exists_mem_cons_iff]
    cases hstopped : req.isStopped with
    | true => rw [if_pos rfl, or_iff_right (fun h : _ ∧ _ => by cases h.1)]
    | false =>
      rw [if_neg Bool.false_ne_true, List.mem_append, List.mem_singleton, or_assoc,
        eq_comm (a := reqId), and_iff_right rfl]

/-- The live ids are those of the requests that are not stopped, wherever they are. -/
theorem BatchState.mem_fillLiveReqIds {state : BatchState} {reqId : Int} :
    reqId ∈ state.fillLiveReqIds ↔
      ∃ req ∈ state.lifecycleReqs, req.isStopped = false ∧ req.reqId = reqId := by
  rw [fillLiveReqIds, mem_appendLiveReqIds]
  exact ⟨fun h => h.resolve_left List.not_mem_nil, Or.inr⟩

end KsanaBuildAhead.Engine
