import KsanaBuildAhead.Executor.BatchLayout
import KsanaBuildAhead.Lib.ListEdit

/-!
# The device ring

After sampling, the requests of a step are paired with the sampled tokens. The
pairs are counted by requests with input tokens and the tokens by logits rows,
and one thread index runs over both.
-/
namespace KsanaBuildAhead.Executor

open KsanaBuildAhead.Runtime KsanaBuildAhead.Lib.ListEdit

/-- The configuration of the sampler; `verifyArgs` is declared outside the sources. -/
structure Sampler where
  maxBatchSize : Nat
  maxDecodeTokensPerReq : Nat
  verifyArgs : SamplingConfig → Bool

def Sampler.maxLogitsNum (sampler : Sampler) : Nat :=
  sampler.maxBatchSize * sampler.maxDecodeTokensPerReq

def Sampler.deviceRingCapacity (sampler : Sampler) : Nat := 1 + 2 * sampler.maxBatchSize

/-- `[count, (req_id, token)*]`, with room for a full batch. -/
structure DeviceRing (sampler : Sampler) where
  count : Int
  slots : List (Int × Int)
  room : slots.length = sampler.maxBatchSize

/-- One of the two slots of the sampler: its output tokens and its ring. -/
structure SamplerSlot (sampler : Sampler) where
  outputTokens : Nat → UInt32
  ring : DeviceRing sampler

/-- A token as it stands in the ring. -/
def ringToken (token : UInt32) : Int := token.toNat

namespace DeviceRing

variable {sampler : Sampler}

/-- The entries a scan of the ring visits. -/
def entries (ring : DeviceRing sampler) : List (Int × Int) := ring.slots.take ring.count.toNat

/-- What the threads of the kernel write, thread `idx` its pair's id and token `idx`. -/
def written (curPairs : List (Int × Nat)) (sampledTokens : Nat → UInt32) : List (Int × Int) :=
  (curPairs.map Prod.fst).zipIdx.map fun thread => (thread.1, ringToken (sampledTokens thread.2))

def writeRingKernel (ring : DeviceRing sampler) (curPairs : List (Int × Nat))
    (sampledTokens : Nat → UInt32) (batchSize : Nat) : DeviceRing sampler :=
  if batchSize = 0 then ring
  else
    { count := batchSize
      slots := overwrite ring.slots 0 (written (curPairs.take batchSize) sampledTokens)
      room := by rw [overwrite_length, ring.room] }

end DeviceRing

/-- Some request of the batch is not a middle chunk. -/
def needSampling (reqs : List ExecutorInferRequest) : Bool :=
  reqs.any fun req => !isPrefillChunkMidStep req.forwardStepKind

/-- The checks under which the sampler goes on to select tokens. -/
def Sampler.selectsTokens (sampler : Sampler) (reqs : List ExecutorInferRequest) : Bool :=
  reqs.all (fun req => sampler.verifyArgs req.samplingConfig &&
    decide (req.logitsOffset < sampler.maxLogitsNum)) &&
    reqs.any fun req => req.logitsCustomLength == 0

/-- The output tokens after sampling: one new token for each of the rows of the batch. -/
def Sampler.sampling (sampler : Sampler) (sampledAt : Nat → UInt32)
    (reqs : List ExecutorInferRequest) (outputTokens : Nat → UInt32) : Nat → UInt32 :=
  if sampler.selectsTokens reqs then
    fun row => if row < samplingRows reqs then sampledAt row else outputTokens row
  else outputTokens

def writeRing {sampler : Sampler} (slot : SamplerSlot sampler) (curPairs : List (Int × Nat)) :
    Except String (DeviceRing sampler) := do
  check (1 + 2 * curPairs.length ≤ sampler.deviceRingCapacity)
    s!"Sampler::WriteRing batch_size={curPairs.length} exceeds ring capacity={sampler.deviceRingCapacity} (max_batch_size)."
  .ok (slot.ring.writeRingKernel curPairs slot.outputTokens curPairs.length)

/-- Without pairs there is no pointer to them. -/
def writeBuildAheadRingAfterSampling {sampler : Sampler} (slot : SamplerSlot sampler)
    (curPairs : List (Int × Nat)) : Except String (DeviceRing sampler) := do
  check (curPairs ≠ [])
    "build-ahead enabled but model_output->cur_pairs_dev is null in HandlePostprocess."
  writeRing slot curPairs

/-- The part of the postprocess that samples and writes the ring of the step's slot. -/
def handlePostprocess {sampler : Sampler} (slot : SamplerSlot sampler) (sampledAt : Nat → UInt32)
    (reqs : List ExecutorInferRequest) (curPairs : List (Int × Nat)) :
    Except String (DeviceRing sampler) :=
  if needSampling reqs then
    writeBuildAheadRingAfterSampling
      { slot with outputTokens := sampler.sampling sampledAt reqs slot.outputTokens } curPairs
  else .ok slot.ring

/-- One step of a batch, from the reordering to the ring. -/
def sampleBatch {sampler : Sampler} (slot : SamplerSlot sampler) (sampledAt : Nat → UInt32)
    (reqs : List ExecutorInferRequest) : Except String (DeviceRing sampler) :=
  let (batch, forwardReqs) := buildForwardRequests (reorderInferRequests reqs)
  handlePostprocess slot sampledAt batch (prepareInputIds forwardReqs).curBatchPairs

section Written

variable {sampler : Sampler} {slot : SamplerSlot sampler} {curPairs : List (Int × Nat)}

theorem written_length (sampledTokens : Nat → UInt32) :
    (DeviceRing.written curPairs sampledTokens).length = curPairs.length := by
  simp [DeviceRing.written]

/-- With at least one pair, and room for all of them, the entries are exactly those written. -/
theorem writeBuildAheadRing_entries (slot : SamplerSlot sampler) (hsome : curPairs ≠ [])
    (hroom : curPairs.length ≤ sampler.maxBatchSize) :
    ∃ ring, writeBuildAheadRingAfterSampling slot curPairs = .ok ring ∧
      ring.entries = DeviceRing.written curPairs slot.outputTokens := by
  have hcapacity : 1 + 2 * curPairs.length ≤ sampler.deviceRingCapacity := by
    rw [Sampler.deviceRingCapacity]
    omega
  have hcount : curPairs.length ≠ 0 := fun h => hsome (List.length_eq_zero_iff.mp h)
  refine ⟨slot.ring.writeRingKernel curPairs slot.outputTokens curPairs.length, ?_, ?_⟩
  · rw [writeBuildAheadRingAfterSampling, check_bind_of_true _ _ hsome, writeRing,
      check_bind_of_true _ _ hcapacity]
  · have hwrite := overwrite_append [] slot.ring.slots
      (DeviceRing.written curPairs slot.outputTokens)
      (by rw [written_length, slot.ring.room]; exact hroom)
    rw [List.nil_append, List.length_nil, List.nil_append] at hwrite
    rw [DeviceRing.entries, DeviceRing.writeRingKernel, if_neg hcount]
    simp only [List.take_length, hwrite, Int.toNat_natCast]
    rw [← written_length slot.outputTokens, List.take_left]

/-- Of pairs with distinct ids, the entry of the request at position `k` holds token `k`. -/
theorem mem_written_iff {ids before after : List Int} {reqId : Int}
    (hids : curPairs.map Prod.fst = ids) (hdistinct : ids.Nodup)
    (hsplit : ids = before ++ reqId :: after) (sampledTokens : Nat → UInt32) (token : Int) :
    (reqId, token) ∈ DeviceRing.written curPairs sampledTokens ↔
      token = ringToken (sampledTokens before.length) := by
  have hat : ids[before.length]? = some reqId := by
    rw [hsplit, List.getElem?_append_right (Nat.le_refl _), Nat.sub_self]
    rfl
  rw [DeviceRing.written, hids, List.mem_map]
  constructor
  · rintro ⟨⟨id, idx⟩, hmem, hentry⟩
    have hfound := List.mem_zipIdx_iff_getElem?.mp hmem
    obtain ⟨rfl, rfl⟩ := Prod.mk.inj hentry
    obtain ⟨hlt, hidx⟩ := List.getElem?_eq_some_iff.mp hfound
    obtain ⟨hlt', hk⟩ := List.getElem?_eq_some_iff.mp hat
    have hsame : idx = before.length :=
      (List.Nodup.getElem_inj_iff hdistinct).mp (hidx.trans hk.symm)
    rw [hsame]
  · rintro rfl
    exact ⟨(reqId, before.length), List.mem_zipIdx_iff_getElem?.mpr hat, rfl⟩

end Written

/-- A token is selected for every row of the batch. -/
def samplesRows (sampler : Sampler) (reqs : List ExecutorInferRequest) : Bool :=
  needSampling reqs && sampler.selectsTokens reqs

/-- The rows of the logits that belong to a request. -/
def OwnsRow (req : ExecutorInferRequest) (row : Nat) : Prop :=
  req.logitsOffset ≤ row ∧ row < req.logitsOffset + req.samplingTokenNum

/-- Whatever is sampled, a request that samples one token finds it in the ring, and
no sampled request finds anything there but a token of one of its own rows. -/
def RingPairsOwnTokens (sampler : Sampler) (reqs : List ExecutorInferRequest) : Prop :=
  samplesRows sampler (executedBatch reqs) = true →
  ∀ (slot : SamplerSlot sampler) (sampledAt : Nat → UInt32), ∀ req ∈ executedBatch reqs,
    (req.samplingTokenNum = 1 → ∃ ring, sampleBatch slot sampledAt reqs = .ok ring ∧
      (req.reqId, ringToken (sampledAt req.logitsOffset)) ∈ ring.entries) ∧
    (0 < req.samplingTokenNum → ∀ ring, sampleBatch slot sampledAt reqs = .ok ring →
      ∀ token, (req.reqId, token) ∈ ring.entries →
        ∃ row, OwnsRow req row ∧ token = ringToken (sampledAt row))

/-- In front of every sampled request, as many requests have input tokens as there are
rows, up to the rows of the request itself. A request that samples one token has input. -/
def PairsFollowRows (sampler : Sampler) (reqs : List ExecutorInferRequest) : Prop :=
  samplesRows sampler (executedBatch reqs) = true →
  ∀ before req after, executedBatch reqs = before ++ req :: after → 0 < req.samplingTokenNum →
    (req.samplingTokenNum = 1 → 0 < getInputIdsLen req) ∧
    (0 < getInputIdsLen req →
      samplingRows before ≤ (withInputIds before).length ∧
      (withInputIds before).length < samplingRows before + req.samplingTokenNum)

section Sampled

variable {sampler : Sampler} {reqs before after : List ExecutorInferRequest}
  {req : ExecutorInferRequest}

theorem withInputIds_split (hinput : 0 < getInputIdsLen req) :
    withInputIds (before ++ req :: after) = withInputIds before ++ req :: withInputIds after := by
  simp [withInputIds, hinput]

theorem sampleBatch_of_sampled (hsampled : samplesRows sampler (executedBatch reqs) = true)
    (slot : SamplerSlot sampler) (sampledAt : Nat → UInt32) :
    ∃ curPairs : List (Int × Nat),
      curPairs.map Prod.fst = (withInputIds (executedBatch reqs)).map (fun req => req.reqId) ∧
      sampleBatch slot sampledAt reqs = writeBuildAheadRingAfterSampling
        { slot with
          outputTokens := fun row =>
            if row < samplingRows (executedBatch reqs) then sampledAt row
            else slot.outputTokens row } curPairs := by
  obtain ⟨hneed, hselects⟩ := Bool.and_eq_true_iff.mp hsampled
  refine ⟨(prepareInputIds
    ((executedBatch reqs).map buildForwardRequestFromInferRequest)).curBatchPairs,
    prepareInputIds_pairs _, ?_⟩
  show handlePostprocess slot sampledAt (executedBatch reqs) _ = _
  rw [handlePostprocess, if_pos hneed, Sampler.sampling, if_pos hselects]
  rfl

variable (hids : (reqs.map fun req => req.reqId).Nodup)
  (hbatch : reqs.length ≤ sampler.maxBatchSize)
  (hsampled : samplesRows sampler (executedBatch reqs) = true)
  (hsplit : executedBatch reqs = before ++ req :: after)

include hids in
theorem pairIds_nodup : ((withInputIds (executedBatch reqs)).map fun req => req.reqId).Nodup := by
  have hall : ((executedBatch reqs).map fun req => req.reqId).Nodup :=
    (executedBatch_ids reqs).nodup_iff.mpr hids
  exact hall.sublist (List.filter_sublist.map _)

include hids hbatch hsampled hsplit in
/-- A request with input tokens has one entry: the token at the index of its pair. -/
theorem sampleBatch_entry (slot : SamplerSlot sampler) (sampledAt : Nat → UInt32)
    (hinput : 0 < getInputIdsLen req) :
    ∃ ring, sampleBatch slot sampledAt reqs = .ok ring ∧ ∀ token,
      (req.reqId, token) ∈ ring.entries ↔ token = ringToken
        (if (withInputIds before).length < samplingRows (executedBatch reqs) then
          sampledAt (withInputIds before).length
        else slot.outputTokens (withInputIds before).length) := by
  obtain ⟨curPairs, hpairs, hrun⟩ := sampleBatch_of_sampled hsampled slot sampledAt
  have hpairsSplit : (withInputIds (executedBatch reqs)).map (fun req => req.reqId) =
      (withInputIds before).map (fun req => req.reqId) ++
        req.reqId :: (withInputIds after).map fun req => req.reqId := by
    rw [hsplit, withInputIds_split hinput, List.map_append, List.map_cons]
  have hsome : curPairs ≠ [] := by
    rintro rfl
    rw [hpairsSplit] at hpairs
    simp at hpairs
  have hroom : curPairs.length ≤ sampler.maxBatchSize := by
    have hlength := congrArg List.length hpairs
    have hfilter := List.length_filter_le (fun req => decide (0 < getInputIdsLen req))
      (executedBatch reqs)
    have hexecuted := executedBatch_length reqs
    simp only [List.length_map] at hlength
    rw [← withInputIds] at hfilter
    omega
  obtain ⟨ring, hring, hentries⟩ := writeBuildAheadRing_entries
    { slot with
      outputTokens := fun row =>
        if row < samplingRows (executedBatch reqs) then sampledAt row
        else slot.outputTokens row } hsome hroom
  refine ⟨ring, hrun.trans hring, fun token => ?_⟩
  rw [hentries, mem_written_iff hpairs (pairIds_nodup hids) hpairsSplit, List.length_map]

include hsplit in
theorem rows_fit : samplingRows before + req.samplingTokenNum ≤
    samplingRows (executedBatch reqs) := by
  rw [hsplit]
  simp only [samplingRows, List.map_append, List.map_cons, List.sum_append, List.sum_cons]
  omega

include hids hsampled in
theorem input_of_entry (hmem : req ∈ executedBatch reqs) {slot : SamplerSlot sampler}
    {sampledAt : Nat → UInt32} {ring : DeviceRing sampler}
    (hrun : sampleBatch slot sampledAt reqs = .ok ring) {token : Int}
    (hentry : (req.reqId, token) ∈ ring.entries) : 0 < getInputIdsLen req := by
  obtain ⟨curPairs, hpairs, hwrite⟩ := sampleBatch_of_sampled hsampled slot sampledAt
  rw [hrun] at hwrite
  obtain ⟨hsome, hring⟩ := check_bind_ok hwrite.symm
  obtain ⟨hcapacity, -⟩ := check_bind_ok hring
  have hroom : curPairs.length ≤ sampler.maxBatchSize := by
    rw [Sampler.deviceRingCapacity] at hcapacity
    omega
  obtain ⟨ring', hring', hentries⟩ := writeBuildAheadRing_entries
    { slot with
      outputTokens := fun row =>
        if row < samplingRows (executedBatch reqs) then sampledAt row
        else slot.outputTokens row } hsome hroom
  obtain rfl := Except.ok.inj (hwrite.trans hring')
  rw [hentries, DeviceRing.written, List.mem_map] at hentry
  obtain ⟨⟨id, idx⟩, hthread, hpair⟩ := hentry
  obtain ⟨rfl, -⟩ := Prod.mk.inj hpair
  have hid := List.mem_of_getElem? (List.mem_zipIdx_iff_getElem?.mp hthread)
  rw [hpairs, List.mem_map] at hid
  obtain ⟨owner, howner, hsame⟩ := hid
  obtain ⟨hownerMem, hownerInput⟩ := List.mem_filter.mp howner
  have hall : ((executedBatch reqs).map fun req => req.reqId).Nodup :=
    (executedBatch_ids reqs).nodup_iff.mpr hids
  obtain rfl := List.inj_on_of_nodup_map hall hownerMem hmem hsame
  exact of_decide_eq_true hownerInput

end Sampled

/-- When every request has input tokens and samples one token, pairs and rows are the same. -/
theorem pairsFollowRows_of_one_each (sampler : Sampler) {reqs : List ExecutorInferRequest}
    (hone : ∀ req ∈ executedBatch reqs, 0 < getInputIdsLen req ∧ req.samplingTokenNum = 1) :
    PairsFollowRows sampler reqs := by
  have hcount : ∀ batch : List ExecutorInferRequest,
      (∀ req ∈ batch, 0 < getInputIdsLen req ∧ req.samplingTokenNum = 1) →
        (withInputIds batch).length = samplingRows batch := by
    intro batch hbatch
    induction batch with
    | nil => rfl
    | cons req batch ih =>
      obtain ⟨hinput, hrow⟩ := hbatch req List.mem_cons_self
      have hrest := ih fun other hmem => hbatch other (List.mem_cons_of_mem req hmem)
      have hfirst : withInputIds (req :: batch) = req :: withInputIds batch := by
        simp [withInputIds, hinput]
      rw [hfirst, List.length_cons, hrest]
      simp only [samplingRows, List.map_cons, List.sum_cons, hrow]
      exact Nat.add_comm _ _
  intro _ before req after hsplit hrows
  rw [hsplit] at hone
  have hbefore := hcount before fun other hmem => hone other (List.mem_append_left _ hmem)
  obtain ⟨hinput, -⟩ := hone req List.mem_append_cons_self
  exact ⟨fun _ => hinput, fun _ => ⟨by omega, by omega⟩⟩

/-- A slot in which every token is stale. -/
def staleSlot (sampler : Sampler) : SamplerSlot sampler where
  outputTokens := fun _ => 1
  ring :=
    { count := 0
      slots := List.replicate sampler.maxBatchSize (0, 0)
      room := List.length_replicate }

/-- A batch whose requests are distinct and fit the sampler gets its own tokens back
through the ring exactly when its pairs follow its rows. -/
theorem ring_pairs_own_tokens_iff (sampler : Sampler) (reqs : List ExecutorInferRequest)
    (hids : (reqs.map fun req => req.reqId).Nodup) (hbatch : reqs.length ≤ sampler.maxBatchSize) :
    RingPairsOwnTokens sampler reqs ↔ PairsFollowRows sampler reqs := by
  constructor
  · intro howned hsampled before req after hsplit hrows
    have hmem : req ∈ executedBatch reqs := by
      rw [hsplit]
      exact List.mem_append_cons_self
    refine ⟨fun hone => ?_, fun hinput => ?_⟩
    · obtain ⟨ring, hrun, hentry⟩ :=
        (howned hsampled (staleSlot sampler) (fun _ => 0) req hmem).1 hone
      exact input_of_entry hids hsampled hmem hrun hentry
    · let marked : Nat → UInt32 := fun row => if row = (withInputIds before).length then 1 else 0
      obtain ⟨ring, hrun, hentry⟩ :=
        sampleBatch_entry hids hbatch hsampled hsplit (staleSlot sampler) marked hinput
      have hfound : (req.reqId, ringToken 1) ∈ ring.entries := by
        rw [hentry]
        simp [marked, staleSlot]
      obtain ⟨row, ⟨hfrom, hto⟩, hrow⟩ :=
        (howned hsampled (staleSlot sampler) marked req hmem).2 hrows ring hrun _ hfound
      have hoffset := executedBatch_offset hsplit
      have hindex : row = (withInputIds before).length := by
        by_contra hother
        have hzero : marked row = 0 := if_neg hother
        rw [hzero] at hrow
        exact absurd hrow (by decide)
      rw [hindex, hoffset] at hfrom hto
      exact ⟨hfrom, hto⟩
  · intro hfollows hsampled slot sampledAt req hmem
    obtain ⟨before, after, hsplit⟩ := List.append_of_mem hmem
    have hoffset := executedBatch_offset hsplit
    have hfit := rows_fit hsplit
    refine ⟨fun hone => ?_, fun hrows ring hrun token htoken => ?_⟩
    · obtain ⟨hinput, hindex⟩ := hfollows hsampled before req after hsplit (by omega)
      have hsame : (withInputIds before).length = req.logitsOffset := by
        have hbounds := hindex (hinput hone)
        omega
      obtain ⟨ring, hrun, hentry⟩ :=
        sampleBatch_entry hids hbatch hsampled hsplit slot sampledAt (hinput hone)
      refine ⟨ring, hrun, ?_⟩
      rw [hentry, hsame, if_pos (by omega)]
    · have hinput := input_of_entry hids hsampled hmem hrun htoken
      obtain ⟨hfrom, hto⟩ := (hfollows hsampled before req after hsplit hrows).2 hinput
      obtain ⟨ring', hrun', hentry⟩ :=
        sampleBatch_entry hids hbatch hsampled hsplit slot sampledAt hinput
      obtain rfl := Except.ok.inj (hrun.symm.trans hrun')
      rw [hentry, if_pos (by omega)] at htoken
      exact ⟨(withInputIds before).length, ⟨by omega, by omega⟩, htoken⟩

/-- Room for four requests of one row each. -/
def samplerSample : Sampler where
  maxBatchSize := 4
  maxDecodeTokensPerReq := 1
  verifyArgs := fun _ => true

/-- Two decode steps, the second with its token still a placeholder. -/
def decodeBatchSample : List ExecutorInferRequest :=
  [{ reqId := 8, forwardingTokens := [11, 12, -1], kvCachedTokenNum := 2, inferStage := .decode,
     forwardStepKind := .decode },
   { reqId := 7, forwardingTokens := [21, 22, 23], kvCachedTokenNum := 2, inferStage := .decode,
     forwardStepKind := .decode }]

/-- A middle chunk, which samples nothing, and one of those decode steps. -/
def chunkAndDecodeSample : List ExecutorInferRequest :=
  [{ reqId := 7, forwardingTokens := [21, 22, 23], kvCachedTokenNum := 2, inferStage := .decode,
     forwardStepKind := .decode },
   { reqId := 5, forwardingTokens := [1, 2, 3, 4], samplingTokenNum := 0,
     forwardStepKind := .prefillChunkMid }]

/-- Two decode steps: each finds its own token. -/
theorem ring_pairs_own_tokens_iff_sample :
    RingPairsOwnTokens samplerSample decodeBatchSample :=
  (ring_pairs_own_tokens_iff samplerSample decodeBatchSample (by decide) (by decide)).mpr
    (pairsFollowRows_of_one_each samplerSample (by decide))

/-- The middle chunk takes the token of the decode step, which is left with a stale one. -/
theorem ring_crosses_tokens : ¬ ∀ (sampler : Sampler) (reqs : List ExecutorInferRequest),
    (reqs.map fun req => req.reqId).Nodup → reqs.length ≤ sampler.maxBatchSize →
      RingPairsOwnTokens sampler reqs := by
  intro howned
  have hring : (sampleBatch (staleSlot samplerSample) (fun _ => 9) chunkAndDecodeSample).map
      DeviceRing.entries = .ok [(5, 9), (7, 1)] := rfl
  obtain ⟨hfound, -⟩ := howned samplerSample chunkAndDecodeSample (by decide) (by decide)
    (by decide) (staleSlot samplerSample) (fun _ => 9)
    { reqId := 7, forwardingTokens := [21, 22, 23], kvCachedTokenNum := 2, step := 1,
      inferStage := .decode, forwardStepKind := .decode } (by decide)
  obtain ⟨ring, hrun, hentry⟩ := hfound rfl
  rw [hrun] at hring
  have hentries : ring.entries = [(5, 9), (7, 1)] := Except.ok.inj hring
  rw [hentries] at hentry
  exact absurd hentry (by decide)

end KsanaBuildAhead.Executor
