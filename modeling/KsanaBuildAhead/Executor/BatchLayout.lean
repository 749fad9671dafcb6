import Mathlib
import KsanaBuildAhead.Lib.Segments
import KsanaBuildAhead.Runtime.ExecutorInferRequest

/-!
# How a batch is laid out

The order of the requests on the build-ahead path, the logits row each of them
starts at, the copies `Forward` works on, and the flat input of the step with one
`(req_id, last_offset)` pair for every request that has input tokens.
-/
namespace KsanaBuildAhead.Executor

open KsanaBuildAhead.Runtime KsanaBuildAhead.Lib.Segments

/-- The tokens of a request the step computes. -/
def getInputIdsLen (req : ExecutorInferRequest) : Nat :=
  let effectivePrefix := req.prefixCacheLen.toNat + req.flexibleCachedCopyTaskNum
  req.forwardingTokens.length - max req.kvCachedTokenNum effectivePrefix

def isPaged (req : ExecutorInferRequest) : Bool :=
  getInputIdsLen req == 1 && decide (0 < req.kvCachedTokenNum)

/-- `a` is placed before `b`: by group, multi-token before single-token, longer first. -/
def placedBefore (a b : ExecutorInferRequest) : Bool :=
  if a.attnDpGroupId ≠ b.attnDpGroupId then
    a.attnDpGroupId < b.attnDpGroupId
  else if isPaged a ≠ isPaged b then
    !isPaged a
  else if getInputIdsLen a ≠ getInputIdsLen b then
    getInputIdsLen b < getInputIdsLen a
  else if a.kvCachedTokenNum ≠ b.kvCachedTokenNum then
    a.kvCachedTokenNum < b.kvCachedTokenNum
  else
    a.reqId < b.reqId

def reorderInferRequestsBuildAhead (reqs : List ExecutorInferRequest) : List ExecutorInferRequest :=
  reqs.insertionSort fun a b => placedBefore b a = false

/-- Every request starts at the row where the one before it ends. -/
def resetLogitsOffsetsAfterReorder (logitsOffset : Nat) :
    List ExecutorInferRequest → List ExecutorInferRequest
  | [] => []
  | req :: reqs =>
    { req with logitsOffset } ::
      resetLogitsOffsetsAfterReorder (logitsOffset + req.samplingTokenNum) reqs

def reorderInferRequests (reqs : List ExecutorInferRequest) : List ExecutorInferRequest :=
  resetLogitsOffsetsAfterReorder 0 (reorderInferRequestsBuildAhead reqs)

/-- The rows the requests sample together. -/
def samplingRows (reqs : List ExecutorInferRequest) : Nat :=
  (reqs.map fun req => req.samplingTokenNum).sum

theorem resetLogitsOffsets_map {α : Type} (f : ExecutorInferRequest → α)
    (hf : ∀ req offset, f { req with logitsOffset := offset } = f req) (logitsOffset : Nat)
    (reqs : List ExecutorInferRequest) :
    (resetLogitsOffsetsAfterReorder logitsOffset reqs).map f = reqs.map f := by
  induction reqs generalizing logitsOffset with
  | nil => rfl
  | cons req reqs ih => simp [resetLogitsOffsetsAfterReorder, hf, ih]

theorem resetLogitsOffsets_split {logitsOffset : Nat} {reqs before after : List ExecutorInferRequest}
    {req : ExecutorInferRequest}
    (h : resetLogitsOffsetsAfterReorder logitsOffset reqs = before ++ req :: after) :
    req.logitsOffset = logitsOffset + samplingRows before := by
  induction reqs generalizing logitsOffset before with
  | nil => simp [resetLogitsOffsetsAfterReorder] at h
  | cons first reqs ih =>
    rw [resetLogitsOffsetsAfterReorder] at h
    cases before with
    | nil =>
      rw [List.nil_append, List.cons.injEq] at h
      rw [← h.1]
      rfl
    | cons head before =>
      rw [List.cons_append, List.cons.injEq] at h
      have hrest := ih h.2
      rw [hrest, ← h.1]
      simp only [samplingRows, List.map_cons, List.sum_cons]
      omega

theorem reorderInferRequests_ids (reqs : List ExecutorInferRequest) :
    ((reorderInferRequests reqs).map fun req => req.reqId).Perm
      (reqs.map fun req => req.reqId) := by
  rw [reorderInferRequests, resetLogitsOffsets_map (fun req => req.reqId) fun _ _ => rfl]
  exact (List.perm_insertionSort _ reqs).map _

/-- The copy of a request one `Forward` works on. -/
structure ForwardRequest where
  reqId : Int
  inferStage : InferStage
  step : Int
  kvCachedTokenNum : Nat
  kvFromRemote : Bool
  kvToRemote : Bool
  logitsCustomLength : Nat
  samplingTokenNum : Nat
  lastStepTokenNum : Nat
  logitsOffset : Nat
  requestTarget : List (List UInt8 × TargetDescribe)
  forwardingTokens : List Int
  flexibleCacheLen : Nat
  prefixCacheLen : Nat
  attnDpGroupId : Nat
  swaKvCacheBlockIdxOffsets : List Nat
deriving Repr, DecidableEq

def buildForwardRequestFromInferRequest (req : ExecutorInferRequest) : ForwardRequest where
  reqId := req.reqId
  inferStage := req.inferStage
  step := req.step
  kvCachedTokenNum := req.kvCachedTokenNum
  kvFromRemote := req.kvFromRemote
  kvToRemote := !req.pdV2DecodeTargets.isEmpty
  logitsCustomLength := req.logitsCustomLength
  samplingTokenNum := req.samplingTokenNum
  lastStepTokenNum := req.lastStepTokenNum
  logitsOffset := req.logitsOffset
  requestTarget := req.requestTarget
  -- the fast path copies the tokens, so that a later schedule cannot overwrite them
  forwardingTokens := req.forwardingTokens
  flexibleCacheLen := req.flexibleCachedCopyTaskNum
  prefixCacheLen := req.prefixCacheLen.toNat + req.flexibleCachedCopyTaskNum
  attnDpGroupId := req.attnDpGroupId
  swaKvCacheBlockIdxOffsets := req.swaKvCacheBlockIdxOffsets

/-- The requests, one step further, and the copies of them. -/
def buildForwardRequests (reqs : List ExecutorInferRequest) :
    List ExecutorInferRequest × List ForwardRequest :=
  let advanced := reqs.map fun req => { req with step := req.step + 1 }
  (advanced, advanced.map buildForwardRequestFromInferRequest)

structure PreparedInputIds where
  inputIds : List Int := []
  curBatchPairs : List (Int × Nat) := []
deriving Repr, DecidableEq

def prepareRequestInputIds (prepared : PreparedInputIds) (req : ForwardRequest) :
    PreparedInputIds :=
  let skipTokenNum := max req.kvCachedTokenNum req.prefixCacheLen
  let inputIdsLen := req.forwardingTokens.length - skipTokenNum
  let inputIds := prepared.inputIds ++ req.forwardingTokens.drop skipTokenNum
  { inputIds
    curBatchPairs :=
      if 0 < inputIdsLen then prepared.curBatchPairs ++ [(req.reqId, inputIds.length - 1)]
      else prepared.curBatchPairs }

def prepareInputIds (reqs : List ForwardRequest) : PreparedInputIds :=
  reqs.foldl prepareRequestInputIds {}

/-- The requests that have a pair. -/
def withInputIds (reqs : List ExecutorInferRequest) : List ExecutorInferRequest :=
  reqs.filter fun req => decide (0 < getInputIdsLen req)

theorem prepareRequestInputIds_pairs (prepared : PreparedInputIds) (req : ExecutorInferRequest) :
    (prepareRequestInputIds prepared
        (buildForwardRequestFromInferRequest req)).curBatchPairs.map Prod.fst =
      prepared.curBatchPairs.map Prod.fst ++ (withInputIds [req]).map fun req => req.reqId := by
  by_cases hinput : 0 < getInputIdsLen req
  · have hlen : 0 < (buildForwardRequestFromInferRequest req).forwardingTokens.length -
        max (buildForwardRequestFromInferRequest req).kvCachedTokenNum
          (buildForwardRequestFromInferRequest req).prefixCacheLen := hinput
    simp only [prepareRequestInputIds, if_pos hlen, List.map_append, withInputIds,
      List.filter_cons, decide_eq_true hinput, if_true, List.filter_nil, List.map_cons,
      List.map_nil]
    rfl
  · have hlen : ¬ 0 < (buildForwardRequestFromInferRequest req).forwardingTokens.length -
        max (buildForwardRequestFromInferRequest req).kvCachedTokenNum
          (buildForwardRequestFromInferRequest req).prefixCacheLen := hinput
    simp only [prepareRequestInputIds, if_neg hlen, withInputIds, List.filter_cons,
      decide_eq_false hinput, Bool.false_eq_true, if_false, List.filter_nil, List.map_nil,
      List.append_nil]

/-- The pairs name, in the order of the batch, the requests that have input tokens. -/
theorem prepareInputIds_pairs (batch : List ExecutorInferRequest) :
    (prepareInputIds (batch.map buildForwardRequestFromInferRequest)).curBatchPairs.map Prod.fst =
      (withInputIds batch).map fun req => req.reqId := by
  have hloop : ∀ (batch : List ExecutorInferRequest) (prepared : PreparedInputIds),
      ((batch.map buildForwardRequestFromInferRequest).foldl prepareRequestInputIds
          prepared).curBatchPairs.map Prod.fst =
        prepared.curBatchPairs.map Prod.fst ++ (withInputIds batch).map fun req => req.reqId := by
    intro batch
    induction batch with
    | nil => intro prepared; simp [withInputIds]
    | cons req batch ih =>
      intro prepared
      have hsplit : withInputIds (req :: batch) = withInputIds [req] ++ withInputIds batch := by
        rw [withInputIds, ← List.singleton_append, List.filter_append]
        rfl
      rw [List.map_cons, List.foldl_cons, ih, prepareRequestInputIds_pairs, hsplit,
        List.map_append, List.append_assoc]
  exact hloop batch {}

/-- The tokens a request contributes to the flat input. -/
def ForwardRequest.inputIds (req : ForwardRequest) : List Int :=
  req.forwardingTokens.drop (max req.kvCachedTokenNum req.prefixCacheLen)

/-- The flat input is made of the tokens of the requests, and the pair of a request points to
its last token. -/
theorem prepareInputIds_layout (reqs : List ForwardRequest) :
    (prepareInputIds reqs).inputIds = reqs.flatMap ForwardRequest.inputIds ∧
      ∀ pair, pair ∈ (prepareInputIds reqs).curBatchPairs ↔
        ∃ n req, reqs[n]? = some req ∧ 0 < req.inputIds.length ∧
          pair = (req.reqId, segmentStart ForwardRequest.inputIds reqs (n + 1) - 1) := by
  induction reqs using List.reverseRecOn with
  | nil =>
    refine ⟨rfl, fun pair => ⟨fun hmem => absurd hmem List.not_mem_nil, ?_⟩⟩
    rintro ⟨n, req, hreq, -⟩
    simp at hreq
  | append_singleton reqs req ih =>
    obtain ⟨hflat, hpairs⟩ := ih
    have hstep : prepareInputIds (reqs ++ [req]) =
        prepareRequestInputIds (prepareInputIds reqs) req := by
      rw [prepareInputIds, List.foldl_append]
      rfl
    have hlast : (reqs ++ [req])[reqs.length]? = some req := by
      rw [List.getElem?_append_right (Nat.le_refl _), Nat.sub_self]
      rfl
    have hstart : segmentStart ForwardRequest.inputIds (reqs ++ [req]) (reqs.length + 1) =
        ((prepareInputIds reqs).inputIds ++ req.inputIds).length := by
      rw [segmentStart_succ _ hlast, segmentStart_append _ _ (Nat.le_refl _), segmentStart_length,
        hflat, List.length_append]
    have hfront : ∀ n, n < reqs.length →
        segmentStart ForwardRequest.inputIds (reqs ++ [req]) (n + 1) =
          segmentStart ForwardRequest.inputIds reqs (n + 1) :=
      fun n hn => segmentStart_append _ _ hn
    have hnew : ∀ pair, pair ∈ (prepareInputIds (reqs ++ [req])).curBatchPairs ↔
        pair ∈ (prepareInputIds reqs).curBatchPairs ∨ 0 < req.inputIds.length ∧
          pair = (req.reqId, ((prepareInputIds reqs).inputIds ++ req.inputIds).length - 1) := by
      intro pair
      have hlength : req.forwardingTokens.length - max req.kvCachedTokenNum req.prefixCacheLen =
          req.inputIds.length := List.length_drop.symm
      rw [hstep, prepareRequestInputIds]
      dsimp only
      rw [hlength]
      split
      · rename_i hinput
        rw [List.mem_append, List.mem_singleton]
        exact ⟨Or.imp_right fun heq => ⟨hinput, heq⟩, Or.imp_right fun hpair => hpair.2⟩
      · rename_i hnone
        exact ⟨Or.inl, fun hor => hor.elim id fun hpair => absurd hpair.1 hnone⟩
    refine ⟨?_, fun pair => ?_⟩
    · rw [hstep, List.flatMap_append, List.flatMap_singleton, ← hflat]
      rfl
    · rw [hnew, hpairs]
      constructor
      · rintro (⟨n, owner, howner, hinput, rfl⟩ | ⟨hinput, rfl⟩)
        · obtain ⟨hn, -⟩ := List.getElem?_eq_some_iff.mp howner
          exact ⟨n, owner, by rw [List.getElem?_append_left hn, howner], hinput, by rw [hfront n hn]⟩
        · exact ⟨reqs.length, req, hlast, hinput, by rw [hstart]⟩
      · rintro ⟨n, owner, howner, hinput, rfl⟩
        by_cases hn : n < reqs.length
        · rw [List.getElem?_append_left hn] at howner
          exact Or.inl ⟨n, owner, howner, hinput, by rw [hfront n hn]⟩
        · obtain ⟨hlt, -⟩ := List.getElem?_eq_some_iff.mp howner
          rw [List.length_append, List.length_singleton] at hlt
          obtain rfl : n = reqs.length := by omega
          obtain rfl := Option.some.inj (hlast.symm.trans howner)
          exact Or.inr ⟨hinput, by rw [hstart]⟩

theorem curBatchPairs_length_le (reqs : List ForwardRequest) :
    (prepareInputIds reqs).curBatchPairs.length ≤ reqs.length := by
  induction reqs using List.reverseRecOn with
  | nil => exact Nat.le_refl 0
  | append_singleton reqs req ih =>
    have hstep : prepareInputIds (reqs ++ [req]) =
        prepareRequestInputIds (prepareInputIds reqs) req := by
      rw [prepareInputIds, List.foldl_append]
      rfl
    have hlength : (reqs ++ [req]).length = reqs.length + 1 := List.length_append
    rw [hstep, hlength, prepareRequestInputIds]
    dsimp only
    split
    · rw [List.length_append, List.length_singleton]
      exact Nat.succ_le_succ ih
    · exact Nat.le_succ_of_le ih

/-- A batch as the step runs it: reordered, its rows assigned, its requests advanced. -/
def executedBatch (reqs : List ExecutorInferRequest) : List ExecutorInferRequest :=
  (buildForwardRequests (reorderInferRequests reqs)).1

theorem executedBatch_ids (reqs : List ExecutorInferRequest) :
    ((executedBatch reqs).map fun req => req.reqId).Perm (reqs.map fun req => req.reqId) := by
  have hadvance : (executedBatch reqs).map (fun req => req.reqId) =
      (reorderInferRequests reqs).map fun req => req.reqId := by
    simp [executedBatch, buildForwardRequests, Function.comp_def]
  rw [hadvance]
  exact reorderInferRequests_ids reqs

theorem executedBatch_length (reqs : List ExecutorInferRequest) :
    (executedBatch reqs).length = reqs.length := by
  simpa using (executedBatch_ids reqs).length_eq

/-- The rows of a request start where those of the requests before it end. -/
theorem executedBatch_offset {reqs before after : List ExecutorInferRequest}
    {req : ExecutorInferRequest} (h : executedBatch reqs = before ++ req :: after) :
    req.logitsOffset = samplingRows before := by
  obtain ⟨start, rest, hreordered, rfl, hrest⟩ := List.map_eq_append_iff.mp h
  obtain ⟨live, tail, rfl, rfl, -⟩ := List.map_eq_cons_iff.mp hrest
  have hoffset := resetLogitsOffsets_split hreordered
  have hrows : samplingRows (start.map fun req => { req with step := req.step + 1 }) =
      samplingRows start := by
    simp [samplingRows, Function.comp_def]
  rw [hrows]
  exact hoffset.trans (Nat.zero_add _)

end KsanaBuildAhead.Executor
