import KsanaBuildAhead.Executor.EmbeddingInput
import KsanaBuildAhead.Executor.SurplusThreads

/-!
# One step of a tensor parallel group

Without MTP the token of a step reaches the next one on the devices: rank 0 samples it and
writes it to the ring of the slot, the broadcast brings the ring to the other ranks, and every
rank puts it in the place of the placeholder the Engine has launched.
-/
namespace KsanaBuildAhead.Executor

open KsanaBuildAhead.Runtime KsanaBuildAhead.Engine KsanaBuildAhead.Lib.Segments

/-- The token behind a context, an id of the vocabulary. -/
structure TokenModel where
  next : List Int → UInt32
  vocab : ∀ context, (next context).toNat < 2 ^ 31

def TokenModel.token (model : TokenModel) (context : List Int) : Int :=
  ringToken (model.next context)

/-- One rank: the two slots of its sampler, and the tokens whose keys and values are in the
cache blocks of the request. -/
structure DeviceRank (sampler : Sampler) where
  slots : Nat → SamplerSlot sampler
  kvCache : List Int

/-- What goes on around the request in one step: the others of the batch, the order in which the
batch has reached each rank, the rows of the others, the pairs each rank still has in its buffer,
the request as the Executor has it before the patch, the Engine's request when the patch is
built, and the snapshot the launch writes over. -/
structure RingSurroundings where
  others : List ExecutorInferRequest
  arrival : Nat → List ExecutorInferRequest → List ExecutorInferRequest := fun _ reqs => reqs
  arrives : ∀ rank reqs, (arrival rank reqs).Perm reqs := by exact fun _ _ => List.Perm.refl _
  sampledAt : Nat → UInt32
  previousPairs : Nat → List (Int × Nat) := fun _ => []
  cached : ExecutorInferRequest
  live : InferRequest
  snapshot : InferRequestSerializationSnapshot := {}

def RingSurroundings.patched (around : RingSurroundings) (launched : InferRequest) :
    ExecutorInferRequest :=
  overwriteByPatch (buildPatch (some (around.snapshot.capture launched true)) around.live)
    around.cached

/-- The tokens of a request that are not computed again. -/
def skipTokenNum (req : ExecutorInferRequest) : Nat :=
  max req.kvCachedTokenNum (req.prefixCacheLen.toNat + req.flexibleCachedCopyTaskNum)

/-- The part of a flat input between the offsets of a request. -/
def queryOf (reqs : List ForwardRequest) (inputIds : List Int) (reqId : Int) : List Int :=
  let n := reqs.findIdx fun req => req.reqId == reqId
  (inputIds.take (segmentStart ForwardRequest.inputIds reqs (n + 1))).drop
    (segmentStart ForwardRequest.inputIds reqs n)

/-- The logits row of a request. -/
def rowOf (batch : List ExecutorInferRequest) (reqId : Int) : Nat :=
  ((batch.find? fun req => req.reqId == reqId).map fun req => req.logitsOffset).getD 0

/-- The flat input of a rank once its placeholders are replaced from the ring. -/
def replacedInputIds {sampler : Sampler} (prevRing : DeviceRing sampler)
    (previous : List (Int × Nat)) (reqs : List ExecutorInferRequest) : List Int :=
  replaceLastTokenKernel (prepareInputIds (forwardRequests reqs)).inputIds
    (pairBuffer (forwardRequests reqs) previous) prevRing (forwardRequests reqs).length

/-- The ring of rank 0 is copied over those of the whole group. -/
def broadcastRingSlot {sampler : Sampler} (tpSize slot : Nat)
    (device : Nat → DeviceRank sampler) : Nat → DeviceRank sampler :=
  if tpSize ≤ 1 then device
  else fun rank =>
    if rank < tpSize then
      { device rank with
        slots := Function.update (device rank).slots slot
          { (device rank).slots slot with ring := ((device 0).slots slot).ring } }
    else device rank

section Step

variable {sampler : Sampler} (model : TokenModel) (tpSize slotIndex : Nat)

def RingSurroundings.batchOn (around : RingSurroundings) (received : ExecutorInferRequest)
    (rank : Nat) : List ExecutorInferRequest :=
  around.arrival rank (received :: around.others)

/-- Every rank reads the ring of the other slot and computes the query into its cache. -/
def forwardRanks (device : Nat → DeviceRank sampler) (around : RingSurroundings)
    (received : ExecutorInferRequest) (rank : Nat) : DeviceRank sampler :=
  let reqs := around.batchOn received rank
  { device rank with
    kvCache := (device rank).kvCache.take (skipTokenNum received) ++
      queryOf (forwardRequests reqs)
        (replacedInputIds ((device rank).slots (slotIndex ^^^ 1)).ring
          (around.previousPairs rank) reqs) received.reqId }

/-- Rank 0 samples and writes the ring; the token in the row of the request is returned. -/
def sampleOnRoot (root : DeviceRank sampler) (around : RingSurroundings)
    (received : ExecutorInferRequest) : Except String (DeviceRank sampler × UInt32) := do
  let batch := executedBatch (around.batchOn received 0)
  let row := rowOf batch received.reqId
  let sampledAt := Function.update around.sampledAt row (model.next root.kvCache)
  let slot := root.slots slotIndex
  let ring ← sampleBatch slot sampledAt (around.batchOn received 0)
  let outputTokens :=
    if needSampling batch then sampler.sampling sampledAt batch slot.outputTokens
    else slot.outputTokens
  .ok ({ root with
    slots := Function.update root.slots slotIndex { outputTokens := outputTokens, ring := ring } },
    outputTokens row)

/-- One step of the group in the given slot. The other ranks do not write the ring, but they
check their pairs as rank 0 does. -/
def deviceStep (device : Nat → DeviceRank sampler) (around : RingSurroundings)
    (received : ExecutorInferRequest) : Except String ((Nat → DeviceRank sampler) × UInt32) := do
  let forwarded := forwardRanks slotIndex device around received
  check (∀ rank < tpSize, needSampling (executedBatch (around.batchOn received rank)) = true →
      (prepareInputIds (forwardRequests (around.batchOn received rank))).curBatchPairs ≠ [])
    "build-ahead enabled but model_output->cur_pairs_dev is null in HandlePostprocess."
  let (root, token) ← sampleOnRoot model slotIndex (forwarded 0) around received
  .ok (broadcastRingSlot tpSize slotIndex (Function.update forwarded 0 root), token)

end Step

/-- Every request computes something and samples one token, and one of them is neither a middle
chunk nor asks for rows of its own. -/
structure SamplesOneEach (sampler : Sampler) (reqs : List ExecutorInferRequest) : Prop where
  ids : (reqs.map fun req => req.reqId).Nodup
  room : reqs.length ≤ sampler.maxBatchSize
  input : ∀ req ∈ reqs, 0 < getInputIdsLen req
  one : ∀ req ∈ reqs, req.samplingTokenNum = 1
  args : ∀ req ∈ reqs, sampler.verifyArgs req.samplingConfig = true
  sampled : ∃ req ∈ reqs, isPrefillChunkMidStep req.forwardStepKind = false
  plain : ∃ req ∈ reqs, req.logitsCustomLength = 0

section Batch

variable {sampler : Sampler} {reqs : List ExecutorInferRequest}

theorem SamplesOneEach.perm {others : List ExecutorInferRequest} (h : SamplesOneEach sampler reqs)
    (hperm : others.Perm reqs) : SamplesOneEach sampler others where
  ids := (hperm.map _).nodup_iff.mpr h.ids
  room := hperm.length_eq ▸ h.room
  input := fun req hmem => h.input req (hperm.mem_iff.mp hmem)
  one := fun req hmem => h.one req (hperm.mem_iff.mp hmem)
  args := fun req hmem => h.args req (hperm.mem_iff.mp hmem)
  sampled := h.sampled.imp fun _ hreq => ⟨hperm.mem_iff.mpr hreq.1, hreq.2⟩
  plain := h.plain.imp fun _ hreq => ⟨hperm.mem_iff.mpr hreq.1, hreq.2⟩

/-- The executed batch holds the requests of the step, with their rows and one step further. -/
theorem executedBatch_perm {α : Type} (f : ExecutorInferRequest → α)
    (hf : ∀ req offset step, f { req with logitsOffset := offset, step := step } = f req)
    (reqs : List ExecutorInferRequest) : ((executedBatch reqs).map f).Perm (reqs.map f) := by
  have hstep : (executedBatch reqs).map f = (reorderInferRequests reqs).map f := by
    rw [executedBatch, buildForwardRequests, List.map_map]
    exact List.map_congr_left fun req _ => hf req req.logitsOffset (req.step + 1)
  rw [hstep, reorderInferRequests, resetLogitsOffsets_map f fun req offset => hf req offset req.step]
  exact (List.perm_insertionSort _ reqs).map f

/-- What holds of every request of the step holds of the executed ones. -/
theorem forall_executedBatch {p : ExecutorInferRequest → Bool}
    (hp : ∀ req offset step, p { req with logitsOffset := offset, step := step } = p req)
    (h : ∀ req ∈ reqs, p req = true) : ∀ req ∈ executedBatch reqs, p req = true := by
  intro req hmem
  obtain ⟨origin, horigin, heq⟩ := List.mem_map.mp
    ((executedBatch_perm p hp reqs).mem_iff.mp (List.mem_map_of_mem hmem))
  rw [← heq]
  exact h origin horigin

theorem exists_executedBatch {p : ExecutorInferRequest → Bool}
    (hp : ∀ req offset step, p { req with logitsOffset := offset, step := step } = p req)
    (h : ∃ req ∈ reqs, p req = true) : ∃ req ∈ executedBatch reqs, p req = true := by
  obtain ⟨origin, horigin, htrue⟩ := h
  obtain ⟨req, hmem, heq⟩ := List.mem_map.mp
    ((executedBatch_perm p hp reqs).mem_iff.mpr (List.mem_map_of_mem horigin))
  exact ⟨req, hmem, heq.trans htrue⟩

theorem samplingRows_of_one {batch : List ExecutorInferRequest}
    (hone : ∀ req ∈ batch, req.samplingTokenNum = 1) : samplingRows batch = batch.length := by
  rw [samplingRows, List.map_congr_left hone, List.map_const', List.sum_replicate, smul_eq_mul,
    Nat.mul_one]

section OneEach

variable (h : SamplesOneEach sampler reqs)
include h

theorem SamplesOneEach.executed_input : ∀ req ∈ executedBatch reqs, 0 < getInputIdsLen req :=
  fun req hmem => of_decide_eq_true
    (forall_executedBatch (p := fun req => decide (0 < getInputIdsLen req)) (fun _ _ _ => rfl)
      (fun req hreq => decide_eq_true (h.input req hreq)) req hmem)

theorem SamplesOneEach.executed_one : ∀ req ∈ executedBatch reqs, req.samplingTokenNum = 1 :=
  fun req hmem => of_decide_eq_true
    (forall_executedBatch (p := fun req => decide (req.samplingTokenNum = 1)) (fun _ _ _ => rfl)
      (fun req hreq => decide_eq_true (h.one req hreq)) req hmem)

theorem SamplesOneEach.executed_ids : ((executedBatch reqs).map fun req => req.reqId).Nodup :=
  (executedBatch_ids reqs).nodup_iff.mpr h.ids

theorem SamplesOneEach.needSampling : needSampling (executedBatch reqs) = true := by
  obtain ⟨req, hmem, hkind⟩ := exists_executedBatch
    (p := fun req => !isPrefillChunkMidStep req.forwardStepKind) (fun _ _ _ => rfl)
    (h.sampled.imp fun req hreq => ⟨hreq.1, by rw [hreq.2]; rfl⟩)
  exact List.any_eq_true.mpr ⟨req, hmem, hkind⟩

theorem SamplesOneEach.selects (hrows : 0 < sampler.maxDecodeTokensPerReq) :
    samplesRows sampler (executedBatch reqs) = true := by
  refine Bool.and_eq_true_iff.mpr ⟨h.needSampling, Bool.and_eq_true_iff.mpr ⟨?_, ?_⟩⟩
  · refine List.all_eq_true.mpr fun req hmem => Bool.and_eq_true_iff.mpr ⟨?_, decide_eq_true ?_⟩
    · exact forall_executedBatch (p := fun req => sampler.verifyArgs req.samplingConfig)
        (fun _ _ _ => rfl) h.args req hmem
    · obtain ⟨before, after, hsplit⟩ := List.append_of_mem hmem
      have hbefore : samplingRows before = before.length := samplingRows_of_one fun other hother =>
        h.executed_one other (by rw [hsplit]; exact List.mem_append_left _ hother)
      have hlength := congrArg List.length hsplit
      rw [executedBatch_length, List.length_append, List.length_cons] at hlength
      have hroom := h.room
      have hlogits : sampler.maxBatchSize ≤ sampler.maxLogitsNum :=
        Nat.le_mul_of_pos_right _ hrows
      rw [executedBatch_offset hsplit, hbefore]
      omega
  · obtain ⟨req, hmem, hcustom⟩ := exists_executedBatch
      (p := fun req => req.logitsCustomLength == 0) (fun _ _ _ => rfl)
      (h.plain.imp fun req hreq => ⟨hreq.1, by rw [hreq.2]; rfl⟩)
    exact List.any_eq_true.mpr ⟨req, hmem, hcustom⟩

/-- In front of a request there are as many rows as requests, and all of them have input. -/
theorem SamplesOneEach.rows_before {before after : List ExecutorInferRequest}
    {req : ExecutorInferRequest} (hsplit : executedBatch reqs = before ++ req :: after) :
    (withInputIds before).length = req.logitsOffset ∧
      req.logitsOffset < samplingRows (executedBatch reqs) := by
  have hmem : ∀ other ∈ before, other ∈ executedBatch reqs := fun other hother => by
    rw [hsplit]
    exact List.mem_append_left _ hother
  have hbefore : samplingRows before = before.length :=
    samplingRows_of_one fun other hother => h.executed_one other (hmem other hother)
  have hinput : withInputIds before = before := List.filter_eq_self.mpr fun other hother =>
    decide_eq_true (h.executed_input other (hmem other hother))
  have hall := samplingRows_of_one h.executed_one
  have hlength := congrArg List.length hsplit
  rw [List.length_append, List.length_cons] at hlength
  rw [hinput, executedBatch_offset hsplit, hbefore]
  exact ⟨rfl, by omega⟩

theorem SamplesOneEach.ring_token (hrows : 0 < sampler.maxDecodeTokensPerReq)
    {req : ExecutorInferRequest} (hmem : req ∈ executedBatch reqs) (slot : SamplerSlot sampler)
    (sampledAt : Nat → UInt32) :
    ∃ ring, sampleBatch slot sampledAt reqs = .ok ring ∧
      ring.tokenOf req.reqId = some (ringToken (sampledAt req.logitsOffset)) := by
  obtain ⟨before, after, hsplit⟩ := List.append_of_mem hmem
  obtain ⟨hbefore, hrow⟩ := h.rows_before hsplit
  obtain ⟨ring, hring, hentries⟩ := sampleBatch_entry h.ids h.room (h.selects hrows) hsplit slot
    sampledAt (h.executed_input req hmem)
  rw [hbefore, if_pos hrow] at hentries
  have hentry := (hentries _).mpr rfl
  refine ⟨ring, hring, ?_⟩
  obtain ⟨entry, hfound⟩ : ∃ entry, ring.entries.find? (fun entry => entry.1 == req.reqId) =
      some entry :=
    Option.isSome_iff_exists.mp (List.find?_isSome.mpr ⟨_, hentry, beq_self_eq_true _⟩)
  have hid : entry.1 = req.reqId := eq_of_beq
    (List.find?_some (p := fun entry : Int × Int => entry.1 == req.reqId) hfound)
  have htoken := (hentries entry.2).mp (by rw [← hid]; exact List.mem_of_find?_eq_some hfound)
  rw [DeviceRing.tokenOf, hfound, ← htoken]
  rfl

theorem SamplesOneEach.pairs_length :
    (prepareInputIds (forwardRequests reqs)).curBatchPairs.length =
      (forwardRequests reqs).length := by
  have hids := congrArg List.length (prepareInputIds_pairs (executedBatch reqs))
  rw [List.length_map, List.length_map, withInputIds, List.filter_eq_self.mpr fun req hmem =>
    decide_eq_true (h.executed_input req hmem)] at hids
  exact hids.trans (List.length_map _).symm

theorem SamplesOneEach.replaces (prevRing : DeviceRing sampler) (previous : List (Int × Nat)) :
    ReplacesExactly prevRing (forwardRequests reqs) (replacedInputIds prevRing previous reqs) := by
  have hpairs := h.pairs_length
  have hown : kernelPairs (forwardRequests reqs) previous =
      (prepareInputIds (forwardRequests reqs)).curBatchPairs := by
    rw [kernelPairs, pairBuffer, ← hpairs, List.take_left]
  rw [replacedInputIds, replaceLastTokenKernel_threads, hown]
  exact runThreads_exact (fun _ hpair => hpair) fun _ hpair => harmless_own hpair

end OneEach

theorem forwardRequests_at {req : ExecutorInferRequest} (hmem : req ∈ reqs) :
    ∃ (n : Nat) (forwarded : ForwardRequest), (forwardRequests reqs)[n]? = some forwarded ∧
      forwarded.reqId = req.reqId ∧
      forwarded.inputIds = req.forwardingTokens.drop (skipTokenNum req) := by
  have hpair := (forwardRequests_perm reqs).mem_iff.mpr
    (List.mem_map_of_mem (List.mem_map_of_mem hmem))
  obtain ⟨forwarded, hforwarded, heq⟩ := List.mem_map.mp hpair
  obtain ⟨n, hn⟩ := List.mem_iff_getElem?.mp hforwarded
  obtain ⟨hid, htokens⟩ := Prod.mk.inj heq
  exact ⟨n, forwarded, hn, hid, htokens⟩

theorem forwardRequests_ids (hids : (reqs.map fun req => req.reqId).Nodup) :
    ((forwardRequests reqs).map fun req => req.reqId).Nodup := by
  have hperm := (forwardRequests_perm reqs).map Prod.fst
  simp only [List.map_map] at hperm
  exact hperm.nodup_iff.mpr hids

theorem queryOf_eq {forwards : List ForwardRequest} {n : Nat} {forwarded : ForwardRequest}
    {inputIds query : List Int} (hids : (forwards.map fun req => req.reqId).Nodup)
    (hat : forwards[n]? = some forwarded) (hlength : query.length = forwarded.inputIds.length)
    (hquery : ∀ j < query.length,
      inputIds[segmentStart ForwardRequest.inputIds forwards n + j]? = query[j]?) :
    queryOf forwards inputIds forwarded.reqId = query := by
  obtain ⟨hn, hget⟩ := List.getElem?_eq_some_iff.mp hat
  have hindex : (forwards.findIdx fun req => req.reqId == forwarded.reqId) = n := by
    refine (List.findIdx_eq hn).mpr ⟨by rw [hget]; exact beq_self_eq_true _, fun j hj => ?_⟩
    refine beq_eq_false_iff_ne.mpr fun hsame => ?_
    have hjn : j = n := (List.getElem?_inj (by rw [List.length_map]; omega) hids).mp (by
      rw [List.getElem?_map, List.getElem?_map, hat, List.getElem?_eq_getElem (by omega)]
      exact congrArg some hsame)
    omega
  rw [queryOf, hindex]
  rw [segmentStart_succ _ hat, ← hlength]
  refine List.ext_getElem? fun j => ?_
  rw [List.getElem?_drop]
  by_cases hj : j < query.length
  · rw [List.getElem?_take_of_lt (by omega), hquery j hj]
  · rw [List.getElem?_take_eq_none (by omega), List.getElem?_eq_none (by omega)]

theorem SamplesOneEach.query_tokens (h : SamplesOneEach sampler reqs) {req : ExecutorInferRequest}
    (hmem : req ∈ reqs) (prevRing : DeviceRing sampler) (previous : List (Int × Nat))
    (htokens : ∀ token ∈ req.forwardingTokens.drop (skipTokenNum req), 0 ≤ token) :
    queryOf (forwardRequests reqs) (replacedInputIds prevRing previous reqs) req.reqId =
      req.forwardingTokens.drop (skipTokenNum req) := by
  obtain ⟨n, forwarded, hat, hid, hinput⟩ := forwardRequests_at hmem
  rw [← hid, ← hinput]
  rw [← hinput] at htokens
  refine queryOf_eq (forwardRequests_ids h.ids) hat rfl fun j hj => ?_
  have hflat : (prepareInputIds (forwardRequests reqs)).inputIds[
      segmentStart ForwardRequest.inputIds (forwardRequests reqs) n + j]? =
      forwarded.inputIds[j]? := by
    rw [(prepareInputIds_layout _).1, getElem?_flatMap _ hat hj]
  rw [(h.replaces prevRing previous).kept _ ?_, hflat]
  rintro token ⟨hplaceholder, -⟩
  rw [hflat] at hplaceholder
  exact VocabId.ne_placeholder ⟨_, htokens _ (List.mem_of_getElem? hplaceholder)⟩ rfl

/-- A placeholder is forwarded as the token of the request in the ring. -/
theorem SamplesOneEach.query_placeholder (h : SamplesOneEach sampler reqs)
    {req : ExecutorInferRequest} (hmem : req ∈ reqs) {prevRing : DeviceRing sampler}
    (previous : List (Int × Nat))
    (hblock : req.forwardingTokens.drop (skipTokenNum req) = [kFastPathPlaceholderTokenId])
    {token : Int} (htoken : prevRing.tokenOf req.reqId = some token) :
    queryOf (forwardRequests reqs) (replacedInputIds prevRing previous reqs) req.reqId =
      [castInt32 token] := by
  obtain ⟨n, forwarded, hat, hid, hinput⟩ := forwardRequests_at hmem
  rw [hblock] at hinput
  rw [← hid] at htoken ⊢
  refine queryOf_eq (forwardRequests_ids h.ids) hat (by rw [hinput]; rfl) fun j hj => ?_
  obtain rfl : j = 0 := Nat.lt_one_iff.mp hj
  refine (h.replaces prevRing previous).replaced _ token ⟨?_, forwarded, ⟨n, hat, ?_, ?_⟩, htoken⟩
  · rw [(prepareInputIds_layout _).1, getElem?_flatMap _ hat (by rw [hinput]; exact Nat.one_pos),
      hinput]
    rfl
  · rw [hinput]
    exact Nat.one_pos
  · rw [segmentStart_succ _ hat, hinput]
    rfl

theorem rowOf_eq {batch : List ExecutorInferRequest} {req : ExecutorInferRequest}
    (hids : (batch.map fun req => req.reqId).Nodup) (hmem : req ∈ batch) :
    rowOf batch req.reqId = req.logitsOffset := by
  obtain ⟨found, hfound⟩ : ∃ found, batch.find? (fun other => other.reqId == req.reqId) =
      some found :=
    Option.isSome_iff_exists.mp (List.find?_isSome.mpr ⟨req, hmem, beq_self_eq_true _⟩)
  have hsame : found.reqId = req.reqId := eq_of_beq
    (List.find?_some (p := fun other : ExecutorInferRequest => other.reqId == req.reqId) hfound)
  obtain rfl := List.inj_on_of_nodup_map hids (List.mem_of_find?_eq_some hfound) hmem hsame
  rw [rowOf, hfound]
  rfl

end Batch

section Group

variable {sampler : Sampler} {tpSize : Nat}

/-- The broadcast leaves the caches alone, and behind it every rank of the group has the ring of
rank 0. -/
theorem broadcastRingSlot_rank (slotIndex : Nat) (device : Nat → DeviceRank sampler) {rank : Nat}
    (hrank : rank < tpSize) :
    (broadcastRingSlot tpSize slotIndex device rank).kvCache = (device rank).kvCache ∧
      ((broadcastRingSlot tpSize slotIndex device rank).slots slotIndex).ring =
        ((device 0).slots slotIndex).ring := by
  rw [broadcastRingSlot]
  split
  · obtain rfl : rank = 0 := by omega
    exact ⟨rfl, rfl⟩
  · simp only [if_pos hrank, Function.update_self, and_self]

variable (model : TokenModel) {around : RingSurroundings} {received : ExecutorInferRequest}
  (hrows : 0 < sampler.maxDecodeTokensPerReq)
  (hbatch : SamplesOneEach sampler (received :: around.others))
include hrows hbatch

omit hrows in
theorem RingSurroundings.batchOn_oneEach (rank : Nat) :
    SamplesOneEach sampler (around.batchOn received rank) :=
  hbatch.perm (around.arrives rank _)

omit hrows hbatch in
theorem RingSurroundings.mem_batchOn (around : RingSurroundings) (received : ExecutorInferRequest)
    (rank : Nat) : received ∈ around.batchOn received rank :=
  (around.arrives rank _).mem_iff.mpr List.mem_cons_self

omit hrows in
theorem RingSurroundings.pairs_ne_nil (rank : Nat) :
    (prepareInputIds (forwardRequests (around.batchOn received rank))).curBatchPairs ≠ [] := by
  intro hnone
  have hlength := (RingSurroundings.batchOn_oneEach hbatch rank).pairs_length
  obtain ⟨n, forwarded, hat, -⟩ := forwardRequests_at (around.mem_batchOn received rank)
  obtain ⟨hn, -⟩ := List.getElem?_eq_some_iff.mp hat
  rw [hnone] at hlength
  exact absurd hlength (Nat.ne_of_lt (Nat.lt_of_le_of_lt (Nat.zero_le n) hn))

/-- Rank 0 returns the token behind its cache, and writes it to the ring. -/
theorem sampleOnRoot_ok (slotIndex : Nat) (root : DeviceRank sampler) :
    ∃ sampled, sampleOnRoot model slotIndex root around received =
        .ok (sampled, model.next root.kvCache) ∧ sampled.kvCache = root.kvCache ∧
      (sampled.slots slotIndex).ring.tokenOf received.reqId = some (model.token root.kvCache) := by
  have hone := RingSurroundings.batchOn_oneEach hbatch 0
  obtain ⟨own, hown, hid⟩ := List.mem_map.mp ((executedBatch_ids _).mem_iff.mpr
    (List.mem_map_of_mem (around.mem_batchOn received 0)))
  have hrow : rowOf (executedBatch (around.batchOn received 0)) received.reqId =
      own.logitsOffset := hid ▸ rowOf_eq hone.executed_ids hown
  obtain ⟨before, after, hsplit⟩ := List.append_of_mem hown
  obtain ⟨-, hinside⟩ := hone.rows_before hsplit
  generalize hsampledAt : Function.update around.sampledAt own.logitsOffset
    (model.next root.kvCache) = sampledAt
  have hsampled : sampledAt own.logitsOffset = model.next root.kvCache := by
    rw [← hsampledAt, Function.update_self]
  obtain ⟨ring, hring, htoken⟩ := hone.ring_token hrows hown (root.slots slotIndex) sampledAt
  rw [hid, hsampled] at htoken
  have hreturned : sampler.sampling sampledAt (executedBatch (around.batchOn received 0))
      (root.slots slotIndex).outputTokens own.logitsOffset = model.next root.kvCache := by
    rw [Sampler.sampling, if_pos (Bool.and_eq_true_iff.mp (hone.selects hrows)).2,
      if_pos hinside, hsampled]
  let slot : SamplerSlot sampler :=
    ⟨sampler.sampling sampledAt (executedBatch (around.batchOn received 0))
      (root.slots slotIndex).outputTokens, ring⟩
  refine ⟨{ root with slots := Function.update root.slots slotIndex slot }, ?_, rfl, ?_⟩
  · rw [sampleOnRoot, hrow, hsampledAt, hring]
    simp only [bind, Except.bind, if_pos hone.needSampling, hreturned]
    rfl
  · simp only [Function.update_self]
    exact htoken

/-- When every rank comes to the same context, the token behind it is returned and is in the
ring of every rank. -/
theorem deviceStep_ok (htp : 0 < tpSize) (slotIndex : Nat) (device : Nat → DeviceRank sampler)
    (context : List Int)
    (hcontext : ∀ rank < tpSize,
      (forwardRanks slotIndex device around received rank).kvCache = context) :
    ∃ next, deviceStep model tpSize slotIndex device around received =
        .ok (next, model.next context) ∧
      ∀ rank < tpSize, (next rank).kvCache = context ∧
        ((next rank).slots slotIndex).ring.tokenOf received.reqId = some (model.token context) := by
  obtain ⟨root, hroot, hcache, htoken⟩ := sampleOnRoot_ok model hrows hbatch slotIndex
    (forwardRanks slotIndex device around received 0)
  rw [hcontext 0 htp] at hroot hcache htoken
  refine ⟨broadcastRingSlot tpSize slotIndex
    (Function.update (forwardRanks slotIndex device around received) 0 root), ?_, fun rank hlt => ?_⟩
  · rw [deviceStep, check_bind_of_true _ _ fun rank _ _ => RingSurroundings.pairs_ne_nil hbatch rank,
      hroot]
    rfl
  · obtain ⟨hkept, hring⟩ := broadcastRingSlot_rank slotIndex
      (Function.update (forwardRanks slotIndex device around received) 0 root) hlt
    rw [hring, hkept, Function.update_self]
    refine ⟨?_, htoken⟩
    rcases Nat.eq_zero_or_pos rank with rfl | hpos
    · rw [Function.update_self, hcache]
    · rw [Function.update_of_ne (Nat.ne_of_gt hpos), hcontext rank hlt]

end Group

end KsanaBuildAhead.Executor
