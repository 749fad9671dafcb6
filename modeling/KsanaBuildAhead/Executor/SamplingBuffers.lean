import KsanaBuildAhead.Executor.SamplerInputs
import KsanaBuildAhead.Lib.VectorAccess
import Mathlib.Data.List.Chain
import Mathlib.Data.List.Flatten

/-!
# The rows the Sampler prepares its parameters for

The host buffers have a cell for every row of logits. The check of a request compares the row it
starts at with their size, and the loop behind it writes as many rows as the request samples.
-/
namespace KsanaBuildAhead.Executor.SamplingBuffers

open KsanaBuildAhead.Runtime KsanaBuildAhead.Lib.VectorAccess

/-- The part of a sampling request that decides which rows are written. -/
structure SamplingRequest where
  samplingConfig : SamplingConfig := {}
  -- an address, 0 is the null pointer
  logitsBuf : Nat
  logitsCustomLength : Nat := 0
  samplingTokenNum : Nat
  logitsOffset : Nat
deriving Repr, DecidableEq

/-- One cell each of `host_topKs_`, `host_topPs_` and `host_temperatures_`. -/
structure HostWrite where
  index : Nat
  topk : Int
  topp : UInt32
  temperature : UInt32
deriving Repr, DecidableEq

/-- The state of the loop over the requests, with the writes it has made. -/
structure BufferLoop where
  bs : Nat := 0
  doSampling : Bool := false
  useTopK : Bool := false
  useTopP : Bool := false
  useTemperature : Bool := false
  deviceLogits : Nat := 0
  hostWrites : List HostWrite := []

/-- The size of the buffers, a product of two `size_t`. -/
def maxLogitsNum (maxBatchSize maxDecodeTokensPerReq : Nat) : Nat :=
  maxBatchSize * maxDecodeTokensPerReq % 2 ^ 64

section Prepare

-- `SamplingConfig::VerifyArgs`, whose source is elsewhere: its status and what it leaves.
variable (verifyArgs : SamplingConfig → Except String SamplingConfig) (maxLogitsNum : Nat)

def prepareRequest (loop : BufferLoop) (req : SamplingRequest) : Except String BufferLoop := do
  let config ← verifyArgs req.samplingConfig
  check (loop.deviceLogits = req.logitsBuf ∨ loop.deviceLogits = 0)
    "sampling for different logits not implemented"
  check (req.logitsOffset < maxLogitsNum)
    "sampling check sampling_req.logits_offset >= max_logits_num"
  .ok
    { bs := loop.bs + req.samplingTokenNum
      doSampling := loop.doSampling || req.logitsCustomLength == 0
      useTopK := loop.useTopK || decide (1 < config.topk)
      useTopP := loop.useTopP || config.topp != kFloatOne
      useTemperature := loop.useTemperature || config.temperature != kFloatOne
      deviceLogits := req.logitsBuf
      hostWrites := loop.hostWrites ++ (List.range req.samplingTokenNum).map fun samplingIndex =>
        { index := addSize req.logitsOffset samplingIndex
          topk := config.topk
          topp := config.topp
          temperature := config.temperature } }

def prepareDeviceLogitsAndParameter (loop : BufferLoop) (reqs : List SamplingRequest) :
    Except String BufferLoop :=
  reqs.foldlM (prepareRequest verifyArgs maxLogitsNum) loop

end Prepare

/-- The elements each copy moves, of `SamplingParameterToDevice` and then of `SelectTopkTokens`. -/
def copiedElements (loop : BufferLoop) : List Nat :=
  (if loop.useTopK then [loop.bs] else []) ++ (if loop.useTopP then [loop.bs] else []) ++
    (if loop.useTemperature then [loop.bs] else []) ++ (if loop.doSampling then [loop.bs] else [])

/-- Every access stays inside buffers of `maxLogitsNum` cells. -/
structure InsideBuffers (maxLogitsNum : Nat) (loop : BufferLoop) : Prop where
  writes : ∀ write ∈ loop.hostWrites, write.index < maxLogitsNum
  bs : loop.bs ≤ maxLogitsNum
  copies : ∀ elements ∈ copiedElements loop, elements ≤ maxLogitsNum

/-- No request names other logits than the one before it, unless that one named none. -/
def SameLogits (deviceLogits : Nat) (reqs : List SamplingRequest) : Prop :=
  List.IsChain (fun before logits => before = logits ∨ before = 0)
    (deviceLogits :: reqs.map SamplingRequest.logitsBuf)

/-- The requests some check refuses. -/
def Refused (verifyArgs : SamplingConfig → Except String SamplingConfig) (maxLogitsNum : Nat)
    (reqs : List SamplingRequest) : Prop :=
  (∃ req ∈ reqs, (∃ message, verifyArgs req.samplingConfig = .error message) ∨
    maxLogitsNum ≤ req.logitsOffset) ∨ ¬ SameLogits 0 reqs

/-- The rows of each request end inside the buffers, and so does their number altogether. -/
def RowsFit (maxLogitsNum : Nat) (reqs : List SamplingRequest) : Prop :=
  (∀ req ∈ reqs, req.logitsOffset + req.samplingTokenNum ≤ maxLogitsNum) ∧
    (reqs.map SamplingRequest.samplingTokenNum).sum ≤ maxLogitsNum

section Fit

variable {verifyArgs : SamplingConfig → Except String SamplingConfig} {maxLogitsNum : Nat}
  {loop after : BufferLoop} {req : SamplingRequest} {reqs : List SamplingRequest}

theorem copiedElements_eq {elements : Nat} (h : elements ∈ copiedElements loop) :
    elements = loop.bs := by
  have hpart : ∀ use : Bool, elements ∈ (if use then [loop.bs] else []) → elements = loop.bs := by
    intro use hmem
    cases use with
    | true => exact List.mem_singleton.mp hmem
    | false => exact absurd hmem List.not_mem_nil
  rw [copiedElements, List.mem_append, List.mem_append, List.mem_append] at h
  rcases h with ((h | h) | h) | h <;> exact hpart _ h

/-- The rows of a request that starts inside are inside exactly if the last one is: in front of a
row that wraps around lies the first one past the end. -/
theorem rows_inside_iff {logitsOffset samplingTokenNum : Nat} (hsize : maxLogitsNum < 2 ^ 64)
    (hoffset : logitsOffset < maxLogitsNum) :
    (∀ samplingIndex < samplingTokenNum, addSize logitsOffset samplingIndex < maxLogitsNum) ↔
      logitsOffset + samplingTokenNum ≤ maxLogitsNum := by
  constructor
  · intro hinside
    by_contra hpast
    have hfirst := hinside (maxLogitsNum - logitsOffset) (by omega)
    rw [addSize_of_lt (by omega)] at hfirst
    omega
  · intro hfits samplingIndex hindex
    rw [addSize_of_lt (by omega)]
    omega

theorem prepareRequest_ok (h : prepareRequest verifyArgs maxLogitsNum loop req = .ok after) :
    (∃ config, verifyArgs req.samplingConfig = .ok config) ∧
      (loop.deviceLogits = req.logitsBuf ∨ loop.deviceLogits = 0) ∧
      req.logitsOffset < maxLogitsNum ∧ after.bs = loop.bs + req.samplingTokenNum ∧
      after.deviceLogits = req.logitsBuf ∧
      after.hostWrites.map HostWrite.index = loop.hostWrites.map HostWrite.index ++
        (List.range req.samplingTokenNum).map (addSize req.logitsOffset) := by
  obtain ⟨config, hconfig, h⟩ := bind_ok h
  obtain ⟨hlogits, h⟩ := check_bind_ok h
  obtain ⟨hoffset, h⟩ := check_bind_ok h
  obtain rfl := Except.ok.inj h
  refine ⟨⟨config, hconfig⟩, hlogits, hoffset, rfl, rfl, ?_⟩
  rw [List.map_append, List.map_map]
  rfl

theorem prepareRequest_accepts {config : SamplingConfig}
    (hconfig : verifyArgs req.samplingConfig = .ok config)
    (hlogits : loop.deviceLogits = req.logitsBuf ∨ loop.deviceLogits = 0)
    (hoffset : req.logitsOffset < maxLogitsNum) :
    ∃ after, prepareRequest verifyArgs maxLogitsNum loop req = .ok after := by
  rw [prepareRequest, hconfig]
  change ∃ after, (check _ _ >>= fun _ => check _ _ >>= fun _ => _) = _
  rw [check_bind_of_true _ _ hlogits, check_bind_of_true _ _ hoffset]
  exact ⟨_, rfl⟩

/-- A call that returns without an error has written every row of every request. -/
theorem prepare_ok
    (h : prepareDeviceLogitsAndParameter verifyArgs maxLogitsNum loop reqs = .ok after) :
    (∀ req ∈ reqs, (∃ config, verifyArgs req.samplingConfig = .ok config) ∧
        req.logitsOffset < maxLogitsNum) ∧
      SameLogits loop.deviceLogits reqs ∧
      after.bs = loop.bs + (reqs.map SamplingRequest.samplingTokenNum).sum ∧
      after.hostWrites.map HostWrite.index = loop.hostWrites.map HostWrite.index ++
        reqs.flatMap fun req =>
          (List.range req.samplingTokenNum).map (addSize req.logitsOffset) := by
  induction reqs generalizing loop with
  | nil =>
    obtain rfl := Except.ok.inj h
    exact ⟨fun _ hmem => absurd hmem List.not_mem_nil, List.isChain_singleton _, rfl,
      (List.append_nil _).symm⟩
  | cons req reqs ih =>
    rw [prepareDeviceLogitsAndParameter, List.foldlM_cons] at h
    obtain ⟨next, hfirst, hrest⟩ := bind_ok h
    obtain ⟨hconfig, hlogits, hoffset, hbs, hdevice, hwrites⟩ := prepareRequest_ok hfirst
    obtain ⟨haccepted, hsame, hsum, hindices⟩ := ih hrest
    refine ⟨?_, ?_, ?_, ?_⟩
    · intro other hother
      rcases List.mem_cons.mp hother with rfl | hother
      · exact ⟨hconfig, hoffset⟩
      · exact haccepted other hother
    · rw [SameLogits, hdevice] at hsame
      exact List.isChain_cons_cons.mpr ⟨hlogits, hsame⟩
    · rw [hsum, hbs, List.map_cons, List.sum_cons, Nat.add_assoc]
    · rw [hindices, hwrites, List.flatMap_cons, List.append_assoc]

theorem prepare_accepts
    (haccepted : ∀ req ∈ reqs, (∃ config, verifyArgs req.samplingConfig = .ok config) ∧
      req.logitsOffset < maxLogitsNum)
    (hsame : SameLogits loop.deviceLogits reqs) :
    ∃ after, prepareDeviceLogitsAndParameter verifyArgs maxLogitsNum loop reqs = .ok after := by
  induction reqs generalizing loop with
  | nil => exact ⟨loop, rfl⟩
  | cons req reqs ih =>
    obtain ⟨⟨config, hconfig⟩, hoffset⟩ := haccepted req List.mem_cons_self
    obtain ⟨hlogits, hrest⟩ := List.isChain_cons_cons.mp hsame
    obtain ⟨next, hnext⟩ := prepareRequest_accepts hconfig hlogits hoffset
    obtain ⟨-, -, -, -, hdevice, -⟩ := prepareRequest_ok hnext
    have hnextSame : SameLogits next.deviceLogits reqs := hdevice ▸ hrest
    obtain ⟨after, hafter⟩ :=
      ih (fun other hother => haccepted other (List.mem_cons_of_mem _ hother)) hnextSame
    refine ⟨after, ?_⟩
    rw [prepareDeviceLogitsAndParameter, List.foldlM_cons, hnext]
    exact hafter

theorem prepare_iff :
    (∃ after, prepareDeviceLogitsAndParameter verifyArgs maxLogitsNum {} reqs = .ok after) ↔
      ¬ Refused verifyArgs maxLogitsNum reqs := by
  constructor
  · rintro ⟨after, h⟩ (⟨req, hreq, hrefused⟩ | hlogits)
    · obtain ⟨haccepted, -⟩ := prepare_ok h
      obtain ⟨⟨config, hconfig⟩, hoffset⟩ := haccepted req hreq
      rcases hrefused with ⟨message, herror⟩ | hpast
      · rw [hconfig] at herror
        cases herror
      · omega
    · exact hlogits (prepare_ok h).2.1
  · intro haccepted
    rw [Refused, not_or, not_not] at haccepted
    refine prepare_accepts (fun req hreq => ?_) haccepted.2
    have hchecks := fun hrefused => haccepted.1 ⟨req, hreq, hrefused⟩
    refine ⟨?_, Nat.lt_of_not_le fun hpast => hchecks (Or.inr hpast)⟩
    cases hconfig : verifyArgs req.samplingConfig with
    | ok config => exact ⟨config, rfl⟩
    | error message => exact absurd (Or.inl ⟨message, hconfig⟩) hchecks

theorem insideBuffers_iff (hsize : maxLogitsNum < 2 ^ 64)
    (h : prepareDeviceLogitsAndParameter verifyArgs maxLogitsNum {} reqs = .ok after) :
    InsideBuffers maxLogitsNum after ↔ RowsFit maxLogitsNum reqs := by
  obtain ⟨haccepted, -, hbs, hindices⟩ := prepare_ok h
  rw [Nat.zero_add] at hbs
  have hwrites : (∀ write ∈ after.hostWrites, write.index < maxLogitsNum) ↔
      ∀ req ∈ reqs, ∀ samplingIndex < req.samplingTokenNum,
        addSize req.logitsOffset samplingIndex < maxLogitsNum := by
    rw [← List.forall_mem_map (f := HostWrite.index) (P := (· < maxLogitsNum)), hindices,
      List.map_nil, List.nil_append, List.forall_mem_flatMap]
    simp only [List.forall_mem_map, List.mem_range]
  constructor
  · intro hinside
    refine ⟨fun req hreq => ?_, hbs ▸ hinside.bs⟩
    exact (rows_inside_iff hsize (haccepted req hreq).2).mp (hwrites.mp hinside.writes req hreq)
  · rintro ⟨hrows, hsum⟩
    have hfits : after.bs ≤ maxLogitsNum := hbs ▸ hsum
    refine ⟨hwrites.mpr fun req hreq => ?_, hfits, fun elements hmem => ?_⟩
    · exact (rows_inside_iff hsize (haccepted req hreq).2).mpr (hrows req hreq)
    · exact (copiedElements_eq hmem).le.trans hfits

end Fit

/-- What the check is there for: an error, or accesses inside the buffers alone. -/
def StaysInside (verifyArgs : SamplingConfig → Except String SamplingConfig) (maxLogitsNum : Nat)
    (reqs : List SamplingRequest) : Prop :=
  ∀ after, prepareDeviceLogitsAndParameter verifyArgs maxLogitsNum {} reqs = .ok after →
    InsideBuffers maxLogitsNum after

/-- A call returns an error or stays inside its buffers if and only if a check refuses a request
or the rows of every request, and all rows counted together, fit. -/
theorem sampling_buffers_iff (verifyArgs : SamplingConfig → Except String SamplingConfig)
    (maxBatchSize maxDecodeTokensPerReq : Nat) (reqs : List SamplingRequest) :
    StaysInside verifyArgs (maxLogitsNum maxBatchSize maxDecodeTokensPerReq) reqs ↔
      Refused verifyArgs (maxLogitsNum maxBatchSize maxDecodeTokensPerReq) reqs ∨
        RowsFit (maxLogitsNum maxBatchSize maxDecodeTokensPerReq) reqs := by
  have hsize : maxLogitsNum maxBatchSize maxDecodeTokensPerReq < 2 ^ 64 :=
    Nat.mod_lt _ (by decide)
  constructor
  · intro hinside
    by_cases hrefused : Refused verifyArgs (maxLogitsNum maxBatchSize maxDecodeTokensPerReq) reqs
    · exact Or.inl hrefused
    · obtain ⟨after, hafter⟩ := prepare_iff.mpr hrefused
      exact Or.inr ((insideBuffers_iff hsize hafter).mp (hinside after hafter))
  · rintro (hrefused | hfits) after hafter
    · exact absurd hrefused (prepare_iff.mp ⟨after, hafter⟩)
    · exact (insideBuffers_iff hsize hafter).mpr hfits

/-- An ordinary request with row 0. -/
def firstRowRequest : SamplingRequest where
  logitsBuf := 1
  samplingTokenNum := 1
  logitsOffset := 0

/-- Three rows from row 1 on, in buffers of two rows. -/
def longCustomRequest : SamplingRequest where
  logitsBuf := 1
  logitsCustomLength := 3
  samplingTokenNum := 3
  logitsOffset := 1

theorem custom_rows_overrun :
    ¬ StaysInside .ok (maxLogitsNum 2 1) [firstRowRequest, longCustomRequest] := by
  intro hinside
  have hcall : ∃ after, prepareDeviceLogitsAndParameter .ok (maxLogitsNum 2 1) {}
      [firstRowRequest, longCustomRequest] = .ok after ∧ after.bs = 4 := ⟨_, rfl, rfl⟩
  obtain ⟨after, hafter, hbs⟩ := hcall
  have hfits := (hinside after hafter).bs
  rw [hbs] at hfits
  exact absurd hfits (by decide)

end KsanaBuildAhead.Executor.SamplingBuffers
