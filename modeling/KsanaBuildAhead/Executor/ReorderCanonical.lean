import KsanaBuildAhead.Executor.BatchLayout
import KsanaBuildAhead.Lib.KeySort
import KsanaBuildAhead.Lib.VectorAccess
import Mathlib.Data.Prod.Lex

/-!
# The order of a batch does not depend on where it came from

Both comparators compare by group, by class, by the tokens to compute, by the cached tokens and
by id, the differences of lengths as `size_t`. With ids that differ the order is total, so every
rank lays out the same requests in the same way.
-/
namespace KsanaBuildAhead.Executor.Reorder

open KsanaBuildAhead.Runtime KsanaBuildAhead.Lib.KeySort KsanaBuildAhead.Lib.VectorAccess

/-- `a` is placed before `b`: by group, those of the late class after the others, more tokens
first. -/
def placedBefore (isLate : ExecutorInferRequest → Bool) (tokenNum : ExecutorInferRequest → Nat)
    (a b : ExecutorInferRequest) : Bool :=
  if a.attnDpGroupId ≠ b.attnDpGroupId then
    a.attnDpGroupId < b.attnDpGroupId
  else if isLate a ≠ isLate b then
    !isLate a
  else if tokenNum a ≠ tokenNum b then
    tokenNum b < tokenNum a
  else if a.kvCachedTokenNum ≠ b.kvCachedTokenNum then
    a.kvCachedTokenNum < b.kvCachedTokenNum
  else
    a.reqId < b.reqId

/-- The tokens a step computes, on the slow path. -/
def slowTokenNum (req : ExecutorInferRequest) : Nat :=
  subSize req.forwardingTokens.length req.kvCachedTokenNum

-- `GetDecodeTokenNumThreshold()`, whose source is elsewhere.
def isDecode (decodeTokenNumThreshold : Nat) (req : ExecutorInferRequest) : Bool :=
  decide (slowTokenNum req ≤ decodeTokenNumThreshold) && decide (0 < req.kvCachedTokenNum)

/-- `static_cast<size_t>(prefix_cache_len) + flexible_cache_len`. -/
def effectivePrefix (req : ExecutorInferRequest) : Nat :=
  addSize (req.prefixCacheLen % 2 ^ 64).toNat req.flexibleCachedCopyTaskNum

def getInputIdsLen (req : ExecutorInferRequest) : Nat :=
  subSize req.forwardingTokens.length (max req.kvCachedTokenNum (effectivePrefix req))

def isPaged (req : ExecutorInferRequest) : Bool :=
  getInputIdsLen req == 1 && decide (0 < req.kvCachedTokenNum)

/-- The comparator of `ReorderInferRequestsBuildAhead` on the fast path, and of
`ReorderInferRequestsSlowPath` elsewhere. -/
def comparator (fastPath : Bool) (decodeTokenNumThreshold : Nat) :
    ExecutorInferRequest → ExecutorInferRequest → Bool :=
  if fastPath then placedBefore isPaged getInputIdsLen
  else placedBefore (isDecode decodeTokenNumThreshold) slowTokenNum

def reorderInferRequests {fastPath : Bool} {decodeTokenNumThreshold : Nat}
    (order : StdSort (comparator fastPath decodeTokenNumThreshold))
    (reqs : List ExecutorInferRequest) : List ExecutorInferRequest :=
  resetLogitsOffsetsAfterReorder 0 (order.sort reqs)

def orderKey (isLate : ExecutorInferRequest → Bool) (tokenNum : ExecutorInferRequest → Nat)
    (req : ExecutorInferRequest) : ℕ ×ₗ Bool ×ₗ ℕᵒᵈ ×ₗ ℕ ×ₗ ℤ :=
  toLex (req.attnDpGroupId, toLex (isLate req, toLex (OrderDual.toDual (tokenNum req),
    toLex (req.kvCachedTokenNum, req.reqId))))

theorem placedBefore_iff (isLate : ExecutorInferRequest → Bool)
    (tokenNum : ExecutorInferRequest → Nat) (a b : ExecutorInferRequest) :
    placedBefore isLate tokenNum a b = true ↔
      orderKey isLate tokenNum a < orderKey isLate tokenNum b := by
  simp only [orderKey, Prod.Lex.toLex_lt_toLex, OrderDual.toDual_lt_toDual]
  rw [placedBefore]
  by_cases hgroup : a.attnDpGroupId = b.attnDpGroupId
  case neg => simp [hgroup]
  by_cases hclass : isLate a = isLate b
  case neg =>
    simp only [hgroup, ne_eq, not_true_eq_false, if_false, hclass, not_false_eq_true, if_true,
      lt_irrefl, false_or, true_and, false_and, or_false]
    revert hclass
    cases isLate a <;> cases isLate b <;> decide
  by_cases htokens : tokenNum a = tokenNum b
  case neg => simp [hgroup, hclass, htokens]
  by_cases hcached : a.kvCachedTokenNum = b.kvCachedTokenNum
  · simp [hgroup, hclass, htokens, hcached]
  · simp [hgroup, hclass, htokens, hcached]

def batchKey (fastPath : Bool) (decodeTokenNumThreshold : Nat) (req : ExecutorInferRequest) :
    ℕ ×ₗ Bool ×ₗ ℕᵒᵈ ×ₗ ℕ ×ₗ ℤ :=
  if fastPath then orderKey isPaged getInputIdsLen req
  else orderKey (isDecode decodeTokenNumThreshold) slowTokenNum req

theorem comparator_iff (fastPath : Bool) (decodeTokenNumThreshold : Nat)
    (a b : ExecutorInferRequest) :
    comparator fastPath decodeTokenNumThreshold a b = true ↔
      batchKey fastPath decodeTokenNumThreshold a <
        batchKey fastPath decodeTokenNumThreshold b := by
  cases fastPath
  · exact placedBefore_iff _ _ a b
  · exact placedBefore_iff _ _ a b

section Key

variable {isLate : ExecutorInferRequest → Bool} {tokenNum : ExecutorInferRequest → Nat}
  {a b : ExecutorInferRequest}

theorem group_le (h : orderKey isLate tokenNum a ≤ orderKey isLate tokenNum b) :
    a.attnDpGroupId ≤ b.attnDpGroupId := by
  rcases Prod.Lex.toLex_le_toLex.mp h with hlt | ⟨heq, -⟩
  · exact hlt.le
  · exact heq.le

theorem isLate_le (h : orderKey isLate tokenNum a ≤ orderKey isLate tokenNum b)
    (hgroup : a.attnDpGroupId = b.attnDpGroupId) : isLate a ≤ isLate b := by
  rcases Prod.Lex.toLex_le_toLex.mp h with hlt | ⟨-, hrest⟩
  · exact absurd hgroup hlt.ne
  · rcases Prod.Lex.toLex_le_toLex.mp hrest with hlt | ⟨heq, -⟩
    · exact hlt.le
    · exact heq.le

theorem reqId_eq (h : orderKey isLate tokenNum a = orderKey isLate tokenNum b) :
    a.reqId = b.reqId := by
  simp only [orderKey, toLex_inj, Prod.mk.injEq] at h
  exact h.2.2.2.2

end Key

section BatchKey

variable {fastPath : Bool} {decodeTokenNumThreshold : Nat}

theorem batchKey_distinct {reqs : List ExecutorInferRequest}
    (hids : (reqs.map fun req => req.reqId).Nodup) :
    ∀ a ∈ reqs, ∀ b ∈ reqs, batchKey fastPath decodeTokenNumThreshold a =
      batchKey fastPath decodeTokenNumThreshold b → a = b := by
  intro a ha b hb hkeys
  refine List.inj_on_of_nodup_map hids ha hb ?_
  cases fastPath
  · exact reqId_eq hkeys
  · exact reqId_eq hkeys

theorem batchKey_group_le {a b : ExecutorInferRequest}
    (h : batchKey fastPath decodeTokenNumThreshold a ≤
      batchKey fastPath decodeTokenNumThreshold b) : a.attnDpGroupId ≤ b.attnDpGroupId := by
  cases fastPath
  · exact group_le h
  · exact group_le h

/-- The laid out batch is in the order of the keys, which the rows of logits are no part of. -/
theorem batchKey_sorted (order : StdSort (comparator fastPath decodeTokenNumThreshold))
    (reqs : List ExecutorInferRequest) :
    (reorderInferRequests order reqs).Pairwise fun a b =>
      batchKey fastPath decodeTokenNumThreshold a ≤
        batchKey fastPath decodeTokenNumThreshold b := by
  have hkeys := resetLogitsOffsets_map (batchKey fastPath decodeTokenNumThreshold)
    (fun req offset => by cases fastPath <;> rfl) 0 (order.sort reqs)
  rw [← List.pairwise_map (f := batchKey fastPath decodeTokenNumThreshold) (R := (· ≤ ·)),
    reorderInferRequests, hkeys, List.pairwise_map]
  exact order.pairwise (comparator_iff fastPath decodeTokenNumThreshold) reqs

end BatchKey

/-- The copy of a request `PrepareInputIds` works on, its prefix added up as `size_t`. -/
def forwardRequest (req : ExecutorInferRequest) : ForwardRequest :=
  { buildForwardRequestFromInferRequest req with
    prefixCacheLen := addSize (req.prefixCacheLen % 2 ^ 64).toNat req.flexibleCachedCopyTaskNum }

/-- The `input_ids_len` of `PrepareInputIds`. -/
def preparedInputIdsLen (req : ForwardRequest) : Nat :=
  subSize req.forwardingTokens.length (max req.kvCachedTokenNum req.prefixCacheLen)

/-- One token to compute, behind cached ones. -/
def SinglePaged (req : ForwardRequest) : Prop :=
  preparedInputIdsLen req = 1 ∧ 0 < req.kvCachedTokenNum

theorem isPaged_iff (req : ExecutorInferRequest) :
    isPaged req = true ↔ SinglePaged (forwardRequest req) := by
  rw [isPaged, Bool.and_eq_true, beq_iff_eq, decide_eq_true_iff]
  rfl

theorem resetLogitsOffsets_tiles (logitsOffset : Nat) (reqs : List ExecutorInferRequest) :
    ((resetLogitsOffsetsAfterReorder logitsOffset reqs).flatMap fun req =>
      List.range' req.logitsOffset req.samplingTokenNum) =
      List.range' logitsOffset (samplingRows reqs) := by
  induction reqs generalizing logitsOffset with
  | nil => rfl
  | cons req reqs ih =>
    rw [resetLogitsOffsetsAfterReorder, List.flatMap_cons, ih, samplingRows, samplingRows,
      List.map_cons, List.sum_cons, List.range'_append_1]

/-- What is said of the batch once it is laid out. -/
structure CanonicalLayout (fastPath : Bool) (reqs laidOut : List ExecutorInferRequest) :
    Prop where
  requests : (laidOut.map fun req => { req with logitsOffset := 0 }).Perm
    (reqs.map fun req => { req with logitsOffset := 0 })
  tiles : (laidOut.flatMap fun req => List.range' req.logitsOffset req.samplingTokenNum) =
    List.range (samplingRows reqs)
  contiguous : ∀ (i j k : Nat) (a b c : ExecutorInferRequest), i < j → j < k →
    laidOut[i]? = some a → laidOut[j]? = some b → laidOut[k]? = some c →
    a.attnDpGroupId = c.attnDpGroupId → b.attnDpGroupId = a.attnDpGroupId
  pagedLast : fastPath = true → ∀ (i j : Nat) (a b : ExecutorInferRequest),
    laidOut[i]? = some a → laidOut[j]? = some b → a.attnDpGroupId = b.attnDpGroupId →
    SinglePaged (forwardRequest a) → ¬ SinglePaged (forwardRequest b) → j < i

theorem getElem?_pairwise {α : Type*} {R : α → α → Prop} {xs : List α} (h : xs.Pairwise R)
    {i j : Nat} {a b : α} (hij : i < j) (ha : xs[i]? = some a) (hb : xs[j]? = some b) : R a b := by
  obtain ⟨hi, rfl⟩ := List.getElem?_eq_some_iff.mp ha
  obtain ⟨hj, rfl⟩ := List.getElem?_eq_some_iff.mp hb
  exact List.pairwise_iff_getElem.mp h i j hi hj hij

theorem canonicalLayout {fastPath : Bool} {decodeTokenNumThreshold : Nat}
    (order : StdSort (comparator fastPath decodeTokenNumThreshold))
    (reqs : List ExecutorInferRequest) :
    CanonicalLayout fastPath reqs (reorderInferRequests order reqs) where
  requests := by
    rw [reorderInferRequests, resetLogitsOffsets_map _ fun _ _ => rfl]
    exact (order.perm reqs).map _
  tiles := by
    have hrows : samplingRows (order.sort reqs) = samplingRows reqs :=
      ((order.perm reqs).map _).sum_eq
    rw [reorderInferRequests, resetLogitsOffsets_tiles, hrows, List.range_eq_range']
  contiguous := by
    intro i j k a b c hij hjk ha hb hc hgroups
    have hsorted := batchKey_sorted order reqs
    have hab := batchKey_group_le (getElem?_pairwise hsorted hij ha hb)
    have hbc := batchKey_group_le (getElem?_pairwise hsorted hjk hb hc)
    omega
  pagedLast := by
    rintro rfl i j a b ha hb hgroup hsingle hother
    rw [← isPaged_iff] at hsingle hother
    by_contra hbehind
    rcases Nat.lt_or_eq_of_le (Nat.le_of_not_lt hbehind) with hij | rfl
    · have hclass := isLate_le (getElem?_pairwise (batchKey_sorted order reqs) hij ha hb) hgroup
      rw [hsingle] at hclass
      exact hother (Bool.eq_true_of_true_le hclass)
    · obtain rfl := Option.some.inj (ha.symm.trans hb)
      exact hother hsingle

/-- On either path the comparator is one a sort can use, any two orders of a batch with distinct
ids are laid out alike, and the layout tiles the rows, keeps the groups together and on the
fast path puts the single tokens last. -/
theorem reorder_canonical (fastPath : Bool) (decodeTokenNumThreshold : Nat)
    (order other : StdSort (comparator fastPath decodeTokenNumThreshold))
    (reqs others : List ExecutorInferRequest) (hperm : reqs.Perm others)
    (hids : (reqs.map fun req => req.reqId).Nodup) :
    StrictWeakOrder (comparator fastPath decodeTokenNumThreshold) ∧
      reorderInferRequests order reqs = reorderInferRequests other others ∧
      CanonicalLayout fastPath reqs (reorderInferRequests order reqs) := by
  have hkey := comparator_iff fastPath decodeTokenNumThreshold
  refine ⟨strictWeakOrder hkey, ?_, canonicalLayout order reqs⟩
  rw [reorderInferRequests, reorderInferRequests,
    order.unique hkey other hperm (batchKey_distinct hids)]

def insertionOrder (fastPath : Bool) (decodeTokenNumThreshold : Nat) :
    StdSort (comparator fastPath decodeTokenNumThreshold) :=
  insertion (comparator_iff fastPath decodeTokenNumThreshold)

/-- A prompt and a request that computes one token, in both orders. -/
def sampleBatch : List ExecutorInferRequest :=
  [{ reqId := 1, forwardingTokens := [11, 12], kvCachedTokenNum := 1 },
    { reqId := 2, forwardingTokens := [21, 22] }]

theorem reorder_canonical_sample :
    StrictWeakOrder (comparator true 1) ∧
      reorderInferRequests (insertionOrder true 1) sampleBatch =
        reorderInferRequests (insertionOrder true 1) sampleBatch.reverse ∧
      CanonicalLayout true sampleBatch
        (reorderInferRequests (insertionOrder true 1) sampleBatch) :=
  reorder_canonical true 1 _ _ sampleBatch sampleBatch.reverse (List.reverse_perm _).symm
    (by decide)

/-- The cached tokens are tokens of the request. -/
structure CachedWithin (req : ExecutorInferRequest) : Prop where
  size : req.forwardingTokens.length < 2 ^ 64
  cached : req.kvCachedTokenNum ≤ req.forwardingTokens.length
  prefixNonneg : 0 ≤ req.prefixCacheLen
  effective : req.prefixCacheLen.toNat + req.flexibleCachedCopyTaskNum ≤
    req.forwardingTokens.length

theorem CachedWithin.getInputIdsLen_eq {req : ExecutorInferRequest} (h : CachedWithin req) :
    getInputIdsLen req = Executor.getInputIdsLen req := by
  have hsize := h.size
  have hcached := h.cached
  have heffective := h.effective
  have hprefix : (req.prefixCacheLen % 2 ^ 64).toNat = req.prefixCacheLen.toNat := by
    have hnonneg := h.prefixNonneg
    omega
  rw [getInputIdsLen, effectivePrefix, hprefix, addSize_of_lt (by omega),
    subSize_of_le hsize (by omega)]
  rfl

theorem CachedWithin.isPaged_eq {req : ExecutorInferRequest} (h : CachedWithin req) :
    isPaged req = Executor.isPaged req := by
  rw [isPaged, h.getInputIdsLen_eq]
  rfl

theorem reorderInferRequests_eq {decodeTokenNumThreshold : Nat}
    (order : StdSort (comparator true decodeTokenNumThreshold)) {reqs : List ExecutorInferRequest}
    (hids : (reqs.map fun req => req.reqId).Nodup) (hwithin : ∀ req ∈ reqs, CachedWithin req) :
    reorderInferRequests order reqs = Executor.reorderInferRequests reqs := by
  have hperm := List.perm_insertionSort
    (fun a b : ExecutorInferRequest => Executor.placedBefore b a = false) reqs
  have hplain := (insertion (placedBefore_iff Executor.isPaged Executor.getInputIdsLen)).sorted reqs
  refine congrArg (resetLogitsOffsetsAfterReorder 0) ?_
  refine eq_of_sorted (comparator_iff true decodeTokenNumThreshold)
    ((order.perm reqs).trans hperm.symm) (fun a ha b hb => ?_) (order.sorted reqs) ?_
  · exact batchKey_distinct hids a ((order.perm reqs).mem_iff.mp ha) b
      ((order.perm reqs).mem_iff.mp hb)
  · refine List.Pairwise.imp_of_mem (fun {a b} ha hb hbefore => ?_) hplain
    have hwithinA := hwithin a (hperm.mem_iff.mp ha)
    have hwithinB := hwithin b (hperm.mem_iff.mp hb)
    have hsame : comparator true decodeTokenNumThreshold b a = Executor.placedBefore b a := by
      rw [comparator, if_pos rfl, placedBefore, hwithinA.isPaged_eq, hwithinB.isPaged_eq,
        hwithinA.getInputIdsLen_eq, hwithinB.getInputIdsLen_eq]
      rfl
    rw [hsame]
    exact hbefore

end KsanaBuildAhead.Executor.Reorder
