import KsanaBuildAhead.Executor.BatchLayout
import KsanaBuildAhead.Executor.SamplerInputs
import KsanaBuildAhead.Lib.CursorTraversal

/-!
# Log-probabilities of the input

A request with a custom range of logits is given the most likely tokens of each of its rows. The
results of all rows stand in one list, and a cursor goes through it from request to request. An
access outside a list is `none`.
-/
namespace KsanaBuildAhead.Executor

open KsanaBuildAhead.Runtime KsanaBuildAhead.Lib.CursorTraversal

/-- The key `"logits"` of the request targets. -/
def kLogitsTarget : List UInt8 := [108, 111, 103, 105, 116, 115]

/-- The tokens of a row with their log-probabilities, the most likely first. -/
abbrev TopLogprobs := List (Int × UInt32)

/-- The part of the sampling request the input log-probabilities need. -/
structure LogprobsRequest where
  reqId : Int
  logitsCustomLength : Nat
  samplingTokenNum : Nat
  logitsOffset : Nat
  requestTarget : List (List UInt8 × TargetDescribe) := []
  samplingConfig : SamplingConfig := {}
  enableMtpSampler : Bool := false
  inputTopLogprobsNum : Int := 0
  logprobs : List TopLogprobs := []
deriving Repr, DecidableEq

def buildLogprobsRequest (enableMainLayersSampler : Bool) (req : ExecutorInferRequest) :
    LogprobsRequest where
  reqId := req.reqId
  logitsCustomLength := req.logitsCustomLength
  samplingTokenNum := req.samplingTokenNum
  logitsOffset := req.logitsOffset
  requestTarget := req.requestTarget
  samplingConfig := (buildSamplingRequest req enableMainLayersSampler).samplingConfig
  enableMtpSampler := !enableMainLayersSampler

structure SamplingDeviceParameter where
  bs : Nat := 0
  maxInputTopLogprobsNum : Int := 0
deriving Repr, DecidableEq

section Prepare

-- `SamplingConfig::VerifyArgs`, whose source is elsewhere, and the rows the buffers have.
variable (verifyArgs : SamplingConfig → Except String Unit) (maxLogitsNum : Nat)

def prepareRequest (param : SamplingDeviceParameter) (req : LogprobsRequest) :
    Except String (SamplingDeviceParameter × LogprobsRequest) := do
  verifyArgs req.samplingConfig
  check (req.logitsOffset < maxLogitsNum)
    "sampling check sampling_req.logits_offset >= max_logits_num"
  let bs := param.bs + req.samplingTokenNum
  match req.requestTarget.lookup kLogitsTarget with
  | some target =>
    let num := target.inputTopLogprobsNum
    .ok ({ bs, maxInputTopLogprobsNum := max param.maxInputTopLogprobsNum num },
      { req with inputTopLogprobsNum := num })
  | none => .ok ({ param with bs }, req)

def prepareDeviceLogitsAndParameter (param : SamplingDeviceParameter) :
    List LogprobsRequest → Except String (SamplingDeviceParameter × List LogprobsRequest)
  | [] => .ok (param, [])
  | req :: reqs => do
    let (param, req) ← prepareRequest verifyArgs maxLogitsNum param req
    let (param, reqs) ← prepareDeviceLogitsAndParameter param reqs
    .ok (param, req :: reqs)

end Prepare

/-- The first `num` results of a row. -/
def cutRow (inputTopLogprobsRes : List TopLogprobs) (row : Nat) (num : Int) : Option TopLogprobs :=
  inputTopLogprobsRes[row]?.bind fun results =>
    if 0 ≤ num ∧ num ≤ results.length then some (results.take num.toNat) else none

/-- `length` rows, each cut. -/
def cutRows (inputTopLogprobsRes : List TopLogprobs) (start : Nat) (num : Int) :
    Nat → Option (List TopLogprobs)
  | 0 => some []
  | length + 1 => do
    let row ← cutRow inputTopLogprobsRes start num
    let rows ← cutRows inputTopLogprobsRes (start + 1) num length
    some (row :: rows)

def storeRequest (inputTopLogprobsRes : List TopLogprobs) (prunedLen : Nat)
    (req : LogprobsRequest) : Option LogprobsRequest :=
  if req.enableMtpSampler then some req
  else if req.logitsCustomLength = 0 then some { req with logprobs := [[]] }
  else
    (cutRows inputTopLogprobsRes prunedLen req.inputTopLogprobsNum req.logitsCustomLength).map
      fun rows => { req with logprobs := rows }

def advancePruned (prunedLen : Nat) (req : LogprobsRequest) : Nat :=
  if req.enableMtpSampler then prunedLen else prunedLen + req.logitsCustomLength

def storeInputLogprobs (inputTopLogprobsRes : List TopLogprobs) (prunedLen : Nat)
    (reqs : List LogprobsRequest) : Option (List LogprobsRequest) :=
  traverse advancePruned (storeRequest inputTopLogprobsRes) prunedLen reqs

/-- The log-probabilities of the input, once `Sampling` has the results of all rows. -/
def samplingInputLogprobs (param : SamplingDeviceParameter)
    (inputTopLogprobsRes : List TopLogprobs) (reqs : List LogprobsRequest) :
    Option (List LogprobsRequest) :=
  if 0 < param.maxInputTopLogprobsNum then storeInputLogprobs inputTopLogprobsRes 0 reqs
  else some reqs

/-- The number of results a request asks for of each row. -/
def topLogprobsNum (req : ExecutorInferRequest) : Int :=
  match req.requestTarget.lookup kLogitsTarget with
  | some target => target.inputTopLogprobsNum
  | none => 0

/-- A request as the preparation leaves it. -/
def preparedRequest (req : ExecutorInferRequest) : LogprobsRequest :=
  { buildLogprobsRequest true req with inputTopLogprobsNum := topLogprobsNum req }

/-- What `CalcInputLogprobs` fills in: results for every row, as many as the largest request. -/
structure FillsRows (param : SamplingDeviceParameter) (inputTopLogprobsRes : List TopLogprobs) :
    Prop where
  rows : inputTopLogprobsRes.length = param.bs
  results : ∀ row ∈ inputTopLogprobsRes, (row.length : Int) = param.maxInputTopLogprobsNum

/-- Every request with a custom range holds the results of its own rows, cut to its own number. -/
def AttributesRows (param : SamplingDeviceParameter) (reqs : List LogprobsRequest)
    (inputTopLogprobsRes : List TopLogprobs) : Prop :=
  ∃ out, samplingInputLogprobs param inputTopLogprobsRes reqs = some out ∧
    ∀ before req after, reqs = before ++ req :: after → 0 < req.logitsCustomLength →
      ∃ stored, out[before.length]? = some stored ∧
        cutRows inputTopLogprobsRes req.logitsOffset req.inputTopLogprobsNum
          req.logitsCustomLength = some stored.logprobs

section Prepare

variable {verifyArgs : SamplingConfig → Except String Unit} {maxLogitsNum : Nat}

theorem prepareRequest_ok {param after : SamplingDeviceParameter} {req : ExecutorInferRequest}
    {prepared : LogprobsRequest}
    (h : prepareRequest verifyArgs maxLogitsNum param (buildLogprobsRequest true req) =
      .ok (after, prepared)) :
    prepared = preparedRequest req ∧ after.bs = param.bs + req.samplingTokenNum ∧
      param.maxInputTopLogprobsNum ≤ after.maxInputTopLogprobsNum ∧
      (0 ≤ param.maxInputTopLogprobsNum → topLogprobsNum req ≤ after.maxInputTopLogprobsNum) := by
  obtain ⟨-, -, h⟩ := bind_ok h
  obtain ⟨-, h⟩ := check_bind_ok h
  have htarget : (buildLogprobsRequest true req).requestTarget = req.requestTarget := rfl
  rw [htarget] at h
  rw [preparedRequest, topLogprobsNum]
  cases hlookup : req.requestTarget.lookup kLogitsTarget with
  | some target =>
    rw [hlookup] at h
    obtain ⟨hparam, hreq⟩ := Prod.mk.inj (Except.ok.inj h)
    rw [← hparam, ← hreq]
    exact ⟨rfl, rfl, Int.le_max_left .., fun _ => Int.le_max_right ..⟩
  | none =>
    rw [hlookup] at h
    obtain ⟨hparam, hreq⟩ := Prod.mk.inj (Except.ok.inj h)
    rw [← hparam, ← hreq]
    exact ⟨rfl, rfl, Int.le_refl _, fun hpositive => hpositive⟩

theorem prepare_ok {param after : SamplingDeviceParameter} {reqs : List ExecutorInferRequest}
    {prepared : List LogprobsRequest}
    (h : prepareDeviceLogitsAndParameter verifyArgs maxLogitsNum param
      (reqs.map (buildLogprobsRequest true)) = .ok (after, prepared)) :
    prepared = reqs.map preparedRequest ∧ after.bs = param.bs + samplingRows reqs ∧
      param.maxInputTopLogprobsNum ≤ after.maxInputTopLogprobsNum ∧
      (0 ≤ param.maxInputTopLogprobsNum →
        ∀ req ∈ reqs, topLogprobsNum req ≤ after.maxInputTopLogprobsNum) := by
  induction reqs generalizing param prepared with
  | nil =>
    obtain ⟨hparam, hreqs⟩ := Prod.mk.inj (Except.ok.inj h)
    rw [← hparam, ← hreqs]
    exact ⟨rfl, rfl, Int.le_refl _, fun _ _ hmem => absurd hmem List.not_mem_nil⟩
  | cons req reqs ih =>
    obtain ⟨⟨param₁, first⟩, hfirst, h⟩ := bind_ok h
    obtain ⟨⟨param₂, rest⟩, hrest, h⟩ := bind_ok h
    obtain ⟨rfl, rfl⟩ := Prod.mk.inj (Except.ok.inj h)
    obtain ⟨rfl, hbs, hgrown, hbound⟩ := prepareRequest_ok hfirst
    obtain ⟨rfl, hrows, hlarger, hbounds⟩ := ih hrest
    refine ⟨rfl, ?_, Int.le_trans hgrown hlarger, fun hpositive other hmem => ?_⟩
    · rw [hrows, hbs, samplingRows, samplingRows, List.map_cons, List.sum_cons, Nat.add_assoc]
    · rcases List.mem_cons.mp hmem with rfl | hmem
      · exact Int.le_trans (hbound hpositive) hlarger
      · exact hbounds (Int.le_trans hpositive hgrown) other hmem

end Prepare

theorem cutRows_some {res : List TopLogprobs} {size start length : Nat} {num : Int}
    (hsize : ∀ row ∈ res, row.length = size) (hnum : 0 ≤ num ∧ num ≤ size)
    (hin : start + length ≤ res.length) : ∃ rows, cutRows res start num length = some rows := by
  induction length generalizing start with
  | zero => exact ⟨[], rfl⟩
  | succ length ih =>
    have hstart : start < res.length := by omega
    have hrow : (res[start]).length = size := hsize _ (List.getElem_mem hstart)
    have hrest : start + 1 + length ≤ res.length := by omega
    obtain ⟨rows, hrows⟩ := ih hrest
    refine ⟨(res[start]).take num.toNat :: rows, ?_⟩
    rw [cutRows, cutRow, List.getElem?_eq_getElem hstart, Option.bind_some, hrow, if_pos hnum, hrows]
    rfl

theorem cutRows_zero {res : List TopLogprobs} {start length : Nat}
    (hin : start + length ≤ res.length) :
    cutRows res start 0 length = some (List.replicate length []) := by
  induction length generalizing start with
  | zero => rfl
  | succ length ih =>
    have hstart : start < res.length := by omega
    rw [cutRows, cutRow, List.getElem?_eq_getElem hstart, Option.bind_some,
      if_pos ⟨Int.le_refl 0, Int.natCast_nonneg _⟩, ih (by omega), List.replicate_succ]
    rfl

theorem cutRows_head {res rows : List TopLogprobs} {start length : Nat} {num : Int}
    (hlength : 0 < length) (h : cutRows res start num length = some rows) :
    0 ≤ num ∧ ∃ row, res[start]? = some row ∧ rows.head? = some (row.take num.toNat) := by
  obtain ⟨length, rfl⟩ := Nat.exists_eq_add_one_of_ne_zero (Nat.ne_of_gt hlength)
  obtain ⟨first, hfirst, h⟩ := Option.bind_eq_some_iff.mp h
  obtain ⟨rest, -, h⟩ := Option.bind_eq_some_iff.mp h
  obtain ⟨row, hrow, hcut⟩ := Option.bind_eq_some_iff.mp hfirst
  obtain ⟨hnum, hfirst⟩ := Option.ite_none_right_eq_some.mp hcut
  refine ⟨hnum.1, row, hrow, ?_⟩
  rw [← Option.some.inj h, ← Option.some.inj hfirst]
  rfl

/-- Where the cursor stands behind these requests. -/
def customRows (reqs : List LogprobsRequest) : Nat :=
  (reqs.map fun req => req.logitsCustomLength).sum

section Cursor

variable {res : List TopLogprobs}

theorem advancePruned_main {prunedLen : Nat} {req : LogprobsRequest}
    (hmain : req.enableMtpSampler = false) :
    advancePruned prunedLen req = prunedLen + req.logitsCustomLength := by
  rw [advancePruned, hmain]
  exact if_neg Bool.false_ne_true

/-- Among requests of the main layers the cursor counts the custom rows. -/
theorem foldl_advancePruned {prunedLen : Nat} {reqs : List LogprobsRequest}
    (hmain : ∀ req ∈ reqs, req.enableMtpSampler = false) :
    reqs.foldl advancePruned prunedLen = prunedLen + customRows reqs := by
  induction reqs generalizing prunedLen with
  | nil => rfl
  | cons req reqs ih =>
    rw [List.foldl_cons, ih fun other hmem => hmain other (List.mem_cons_of_mem req hmem),
      advancePruned_main (hmain req List.mem_cons_self), customRows, customRows, List.map_cons,
      List.sum_cons, Nat.add_assoc]

theorem storeRequest_custom {prunedLen : Nat} {req stored : LogprobsRequest}
    (hmain : req.enableMtpSampler = false) (hcustom : 0 < req.logitsCustomLength)
    (h : storeRequest res prunedLen req = some stored) :
    cutRows res prunedLen req.inputTopLogprobsNum req.logitsCustomLength =
      some stored.logprobs := by
  rw [storeRequest, hmain, if_neg Bool.false_ne_true, if_neg (Nat.ne_of_gt hcustom)] at h
  obtain ⟨rows, hrows, rfl⟩ := Option.map_eq_some_iff.mp h
  exact hrows

theorem storeInputLogprobs_some {prunedLen : Nat} {reqs : List LogprobsRequest}
    (hmain : ∀ req ∈ reqs, req.enableMtpSampler = false)
    (hcut : ∀ before req after, reqs = before ++ req :: after → 0 < req.logitsCustomLength →
      ∃ rows, cutRows res (prunedLen + customRows before) req.inputTopLogprobsNum
        req.logitsCustomLength = some rows) :
    ∃ out, storeInputLogprobs res prunedLen reqs = some out := by
  refine exists_traverse fun before req after hsplit => ?_
  have hbefore : ∀ other ∈ before, other.enableMtpSampler = false := fun other hmem =>
    hmain other (by rw [hsplit]; exact List.mem_append_left _ hmem)
  have hreq : req.enableMtpSampler = false :=
    hmain req (by rw [hsplit]; exact List.mem_append_right _ List.mem_cons_self)
  rw [foldl_advancePruned hbefore, storeRequest, hreq, if_neg Bool.false_ne_true]
  split
  case isTrue => exact ⟨_, rfl⟩
  case isFalse hcustom =>
    obtain ⟨rows, hrows⟩ := hcut before req after hsplit (Nat.pos_of_ne_zero hcustom)
    exact ⟨_, by rw [hrows]; rfl⟩

/-- What is stored for a request with a custom range is read from where the cursor stands. -/
theorem storeInputLogprobs_at {prunedLen : Nat} {reqs out before after : List LogprobsRequest}
    {req : LogprobsRequest} (hmain : ∀ req ∈ reqs, req.enableMtpSampler = false)
    (h : storeInputLogprobs res prunedLen reqs = some out) (hreqs : reqs = before ++ req :: after)
    (hcustom : 0 < req.logitsCustomLength) :
    ∃ stored, out[before.length]? = some stored ∧
      cutRows res (prunedLen + customRows before) req.inputTopLogprobsNum req.logitsCustomLength =
        some stored.logprobs := by
  obtain ⟨stored, hstored, hat⟩ := traverse_at h hreqs
  have hbefore : ∀ other ∈ before, other.enableMtpSampler = false := fun other hmem =>
    hmain other (by rw [hreqs]; exact List.mem_append_left _ hmem)
  rw [foldl_advancePruned hbefore] at hat
  exact ⟨stored, hstored, storeRequest_custom
    (hmain req (by rw [hreqs]; exact List.mem_append_right _ List.mem_cons_self)) hcustom hat⟩

end Cursor

section Attribution

variable {batch before after : List ExecutorInferRequest} {req : ExecutorInferRequest}

/-- The cursor counts only the rows of the requests with a custom range. -/
theorem customRows_prepared
    (hkinds : ∀ other ∈ before,
      other.logitsCustomLength = 0 ∨ other.logitsCustomLength = other.samplingTokenNum) :
    customRows (before.map preparedRequest) ≤ samplingRows before ∧
      (customRows (before.map preparedRequest) = samplingRows before ↔
        ∀ other ∈ before, other.logitsCustomLength = 0 → other.samplingTokenNum = 0) := by
  induction before with
  | nil => exact ⟨Nat.le_refl 0, fun _ _ hmem => absurd hmem List.not_mem_nil, fun _ => rfl⟩
  | cons first before ih =>
    obtain ⟨hle, heq⟩ := ih fun other hmem => hkinds other (List.mem_cons_of_mem first hmem)
    have hcustom : customRows ((first :: before).map preparedRequest) =
        first.logitsCustomLength + customRows (before.map preparedRequest) := rfl
    have hrows : samplingRows (first :: before) = first.samplingTokenNum + samplingRows before := rfl
    rw [hcustom, hrows, List.forall_mem_cons, ← heq]
    rcases hkinds first List.mem_cons_self with hnone | hsame
    · rw [hnone]
      refine ⟨by omega, fun h => ⟨fun _ => by omega, by omega⟩, ?_⟩
      rintro ⟨hzero, hrest⟩
      rw [hzero rfl, hrest]
    · rw [hsame]
      refine ⟨by omega, fun h => ⟨fun hzero => hzero, by omega⟩, ?_⟩
      rintro ⟨-, hrest⟩
      rw [hrest]

theorem samplingRows_split (hbatch : batch = before ++ req :: after) :
    samplingRows before + req.samplingTokenNum ≤ samplingRows batch := by
  subst hbatch
  rw [samplingRows, samplingRows, List.map_append, List.sum_append, List.map_cons, List.sum_cons]
  omega

/-- Results that tell the rows before `offset` from those behind it. -/
def markedRows (bs size offset : Nat) : List TopLogprobs :=
  (List.range bs).map fun row => List.replicate size (if row < offset then 0 else 1, 0)

theorem markedRows_fills {param : SamplingDeviceParameter}
    (hrequested : 0 < param.maxInputTopLogprobsNum) (offset : Nat) :
    FillsRows param (markedRows param.bs param.maxInputTopLogprobsNum.toNat offset) where
  rows := by rw [markedRows, List.length_map, List.length_range]
  results row hmem := by
    obtain ⟨-, -, rfl⟩ := List.mem_map.mp hmem
    rw [List.length_replicate, Int.toNat_of_nonneg (Int.le_of_lt hrequested)]

theorem markedRows_at {bs size offset row num : Nat} {results : TopLogprobs}
    (h : (markedRows bs size offset)[row]? = some results) (hsize : 0 < size) (hnum : 0 < num) :
    (results.take num).head? = some (if row < offset then 0 else 1, 0) := by
  rw [markedRows, List.getElem?_map] at h
  obtain ⟨found, hfound, rfl⟩ := Option.map_eq_some_iff.mp h
  obtain ⟨hlt, heq⟩ := List.getElem?_eq_some_iff.mp hfound
  rw [List.getElem_range] at heq
  subst heq
  rw [List.take_replicate, List.head?_replicate, if_neg (by omega)]

/-- In a request that can be attributed the cursor stands at its first row, or nothing is asked
for of its rows. -/
theorem cutRows_own {param : SamplingDeviceParameter} {res : List TopLogprobs}
    (hfills : FillsRows param res) (hrows : param.bs = samplingRows batch)
    (hkinds : ∀ other ∈ batch,
      other.logitsCustomLength = 0 ∨ other.logitsCustomLength = other.samplingTokenNum)
    (hbatch : batch = before ++ req :: after) (hoffset : req.logitsOffset = samplingRows before)
    (hcustom : 0 < req.logitsCustomLength)
    (hnum : 0 ≤ topLogprobsNum req ∧ topLogprobsNum req ≤ param.maxInputTopLogprobsNum)
    (hfront : topLogprobsNum req = 0 ∨
      ∀ other ∈ before, other.logitsCustomLength = 0 → other.samplingTokenNum = 0) :
    ∃ rows, cutRows res (customRows (before.map preparedRequest)) (topLogprobsNum req)
        req.logitsCustomLength = some rows ∧
      cutRows res req.logitsOffset (topLogprobsNum req) req.logitsCustomLength = some rows := by
  have hmem : req ∈ batch := by rw [hbatch]; exact List.mem_append_right _ List.mem_cons_self
  have hbefore : ∀ other ∈ before, other ∈ batch := fun other hother => by
    rw [hbatch]
    exact List.mem_append_left _ hother
  obtain ⟨hle, heq⟩ := customRows_prepared fun other hother => hkinds other (hbefore other hother)
  have hlength : req.logitsCustomLength = req.samplingTokenNum := by
    rcases hkinds req hmem with hzero | hsame
    · omega
    · exact hsame
  have hsplit := samplingRows_split hbatch
  have hin : req.logitsOffset + req.logitsCustomLength ≤ res.length := by
    rw [hfills.rows, hrows, hoffset, hlength]
    exact hsplit
  rcases hfront with hzero | hfront
  · rw [hzero]
    exact ⟨_, cutRows_zero (by omega), cutRows_zero hin⟩
  · have hsize : ∀ row ∈ res, row.length = param.maxInputTopLogprobsNum.toNat := by
      intro row hrow
      have hresults := hfills.results row hrow
      omega
    have hbounds : 0 ≤ topLogprobsNum req ∧
        topLogprobsNum req ≤ param.maxInputTopLogprobsNum.toNat := by omega
    obtain ⟨rows, hown⟩ := cutRows_some hsize hbounds hin
    exact ⟨rows, by rw [heq.mpr hfront, ← hoffset]; exact hown, hown⟩

theorem prepared_main : ∀ req ∈ batch.map preparedRequest, req.enableMtpSampler = false := by
  intro req hreq
  obtain ⟨original, -, rfl⟩ := List.mem_map.mp hreq
  rfl

theorem prepared_split {front rest : List LogprobsRequest} {own : LogprobsRequest}
    (h : batch.map preparedRequest = front ++ own :: rest) :
    ∃ before req after, batch = before ++ req :: after ∧ front = before.map preparedRequest ∧
      own = preparedRequest req := by
  obtain ⟨before, tail, hbatch, rfl, htail⟩ := List.map_eq_append_iff.mp h
  obtain ⟨req, after, rfl, rfl, -⟩ := List.map_eq_cons_iff.mp htail
  exact ⟨before, req, after, hbatch, rfl, rfl⟩

/-- Attributed whatever the logits are, a request has no ordinary rows in front of it. -/
theorem front_of_attributes {param : SamplingDeviceParameter}
    (hattributes : ∀ res, FillsRows param res →
      AttributesRows param (batch.map preparedRequest) res)
    (hrequested : 0 < param.maxInputTopLogprobsNum)
    (hkinds : ∀ other ∈ before,
      other.logitsCustomLength = 0 ∨ other.logitsCustomLength = other.samplingTokenNum)
    (hbatch : batch = before ++ req :: after) (hoffset : req.logitsOffset = samplingRows before)
    (hcustom : 0 < req.logitsCustomLength) :
    0 ≤ topLogprobsNum req ∧ (topLogprobsNum req = 0 ∨
      ∀ other ∈ before, other.logitsCustomLength = 0 → other.samplingTokenNum = 0) := by
  have hsize : 0 < param.maxInputTopLogprobsNum.toNat := by omega
  obtain ⟨out, hout, hall⟩ := hattributes _ (markedRows_fills hrequested (samplingRows before))
  rw [samplingInputLogprobs, if_pos hrequested] at hout
  have hprepared : batch.map preparedRequest =
      before.map preparedRequest ++ preparedRequest req :: after.map preparedRequest := by
    rw [hbatch, List.map_append, List.map_cons]
  obtain ⟨stored, hstored, hown⟩ := hall _ _ _ hprepared hcustom
  obtain ⟨found, hfound, hread⟩ :=
    storeInputLogprobs_at prepared_main hout hprepared hcustom
  obtain rfl := Option.some.inj (hstored.symm.trans hfound)
  obtain ⟨hnum, ownRow, hownRow, hownHead⟩ := cutRows_head hcustom hown
  obtain ⟨-, readRow, hreadRow, hreadHead⟩ := cutRows_head hcustom hread
  refine ⟨hnum, ?_⟩
  by_cases hzero : topLogprobsNum req = 0
  · exact Or.inl hzero
  · right
    have hasked : (preparedRequest req).inputTopLogprobsNum = topLogprobsNum req := rfl
    rw [hasked] at hnum hownHead hreadHead
    have htake : 0 < (topLogprobsNum req).toNat := by omega
    have hmarks := congrArg List.head? (Option.some.inj (hownHead.symm.trans hreadHead))
    have hat : (preparedRequest req).logitsOffset = samplingRows before := hoffset
    rw [markedRows_at hownRow hsize htake, markedRows_at hreadRow hsize htake, hat,
      if_neg (Nat.lt_irrefl _), Nat.zero_add] at hmarks
    obtain ⟨hle, heq⟩ := customRows_prepared hkinds
    refine heq.mp (Nat.le_antisymm hle (Nat.not_lt.mp fun hlt => ?_))
    rw [if_pos hlt] at hmarks
    exact absurd hmarks (by decide)

/-- In any batch of ordinary requests and requests with a custom range of logits, laid out in any
order, the log-probabilities of the input are attributed to the right requests, whatever the
logits are, if and only if no request whose rows are asked for stands behind rows of an ordinary
request. -/
theorem input_logprobs_attributed (verifyArgs : SamplingConfig → Except String Unit)
    (maxLogitsNum : Nat) (ordered batch : List ExecutorInferRequest)
    (param : SamplingDeviceParameter) (reqs : List LogprobsRequest)
    (hbatch : batch = resetLogitsOffsetsAfterReorder 0 ordered)
    (hkinds : ∀ req ∈ batch,
      req.logitsCustomLength = 0 ∨ req.logitsCustomLength = req.samplingTokenNum)
    (hprepare : prepareDeviceLogitsAndParameter verifyArgs maxLogitsNum {}
      (batch.map (buildLogprobsRequest true)) = .ok (param, reqs))
    (hrequested : 0 < param.maxInputTopLogprobsNum) :
    (∀ res, FillsRows param res → AttributesRows param reqs res) ↔
      ∀ before req after, batch = before ++ req :: after → 0 < req.logitsCustomLength →
        0 ≤ topLogprobsNum req ∧ (topLogprobsNum req = 0 ∨
          ∀ other ∈ before, other.logitsCustomLength = 0 → other.samplingTokenNum = 0) := by
  obtain ⟨rfl, hbs, -, hbounds⟩ := prepare_ok hprepare
  have hrows : param.bs = samplingRows batch := hbs.trans (Nat.zero_add _)
  have hoffset : ∀ {before req after}, batch = before ++ req :: after →
      req.logitsOffset = samplingRows before := fun hsplit => by
    rw [hbatch] at hsplit
    exact (resetLogitsOffsets_split hsplit).trans (Nat.zero_add _)
  constructor
  · intro hattributes before req after hsplit hcustom
    refine front_of_attributes hattributes hrequested (fun other hother => ?_) hsplit
      (hoffset hsplit) hcustom
    exact hkinds other (by rw [hsplit]; exact List.mem_append_left _ hother)
  · intro hfront res hfills
    have hcut : ∀ before req after, batch.map preparedRequest = before ++ req :: after →
        0 < req.logitsCustomLength →
        ∃ rows, cutRows res (0 + customRows before) req.inputTopLogprobsNum
            req.logitsCustomLength = some rows ∧
          cutRows res req.logitsOffset req.inputTopLogprobsNum req.logitsCustomLength =
            some rows := by
      intro before req after hsplit hcustom
      obtain ⟨front, own, rest, hown, rfl, rfl⟩ := prepared_split hsplit
      obtain ⟨hnum, hfree⟩ := hfront front own rest hown hcustom
      have hbound := hbounds (Int.le_refl 0) own
        (by rw [hown]; exact List.mem_append_right _ List.mem_cons_self)
      rw [Nat.zero_add]
      exact cutRows_own hfills hrows hkinds hown (hoffset hown) hcustom ⟨hnum, hbound⟩ hfree
    obtain ⟨out, hout⟩ := storeInputLogprobs_some prepared_main
      fun before req after hsplit hcustom =>
        (hcut before req after hsplit hcustom).imp fun _ h => h.1
    refine ⟨out, (if_pos hrequested).trans hout, fun before req after hsplit hcustom => ?_⟩
    obtain ⟨rows, hread, hown⟩ := hcut before req after hsplit hcustom
    obtain ⟨stored, hstored, hat⟩ := storeInputLogprobs_at prepared_main hout hsplit hcustom
    rw [hread] at hat
    exact ⟨stored, hstored, by rw [hown, ← hat]⟩

end Attribution

/-- A prompt of five tokens. -/
def promptRequest : ExecutorInferRequest where
  reqId := 8
  forwardingTokens := [21, 22, 23, 24, 25]

/-- The most likely token is asked for at the last two of three positions. -/
def rangeRequest : ExecutorInferRequest where
  reqId := 7
  logitsCustomLength := 2
  samplingTokenNum := 2
  forwardingTokens := [11, 12, 13]
  requestTarget := [(kLogitsTarget,
    { cutoffLayer := [], tokenId := [], slicePos := [(1, 2)],
      tokenReduceMode := ⟨1⟩, inputTopLogprobsNum := 1 })]

def logprobsBatch : List ExecutorInferRequest := reorderInferRequests [rangeRequest, promptRequest]

def sampleLogprobsRequests : List LogprobsRequest := logprobsBatch.map preparedRequest

def logprobsRows : List TopLogprobs := [[(100, 0)], [(101, 0)], [(102, 0)]]

/-- A decode step, which stands behind the prompts. -/
def decodeRequest : ExecutorInferRequest where
  reqId := 9
  inferStage := .decode
  forwardingTokens := [31, 32]
  forwardStepKind := .decode
  kvCachedTokenNum := 1

def rangeFirstBatch : List ExecutorInferRequest :=
  reorderInferRequests [decodeRequest, rangeRequest]

theorem input_logprobs_attributed_sample :
    ((∀ res, FillsRows { bs := 3, maxInputTopLogprobsNum := 1 } res →
      AttributesRows { bs := 3, maxInputTopLogprobsNum := 1 } sampleLogprobsRequests res) ↔
    ∀ before req after, logprobsBatch = before ++ req :: after → 0 < req.logitsCustomLength →
      0 ≤ topLogprobsNum req ∧ (topLogprobsNum req = 0 ∨
        ∀ other ∈ before, other.logitsCustomLength = 0 → other.samplingTokenNum = 0)) ∧
    ∀ res, FillsRows { bs := 3, maxInputTopLogprobsNum := 1 } res →
      AttributesRows { bs := 3, maxInputTopLogprobsNum := 1 }
        (rangeFirstBatch.map preparedRequest) res := by
  refine ⟨input_logprobs_attributed (fun _ => .ok ()) 8
    (reorderInferRequestsBuildAhead [rangeRequest, promptRequest]) logprobsBatch
    { bs := 3, maxInputTopLogprobsNum := 1 } sampleLogprobsRequests rfl (by decide +kernel)
    (by decide +kernel) (by decide), ?_⟩
  refine (input_logprobs_attributed (fun _ => .ok ()) 8
    (reorderInferRequestsBuildAhead [decodeRequest, rangeRequest]) rangeFirstBatch
    { bs := 3, maxInputTopLogprobsNum := 1 } (rangeFirstBatch.map preparedRequest) rfl
    (by decide +kernel) (by decide +kernel) (by decide)).mpr ?_
  have hbatch : rangeFirstBatch = [{ rangeRequest with logitsOffset := 0 },
      { decodeRequest with logitsOffset := 2 }] := by decide +kernel
  intro before req after hsplit hcustom
  rw [hbatch] at hsplit
  match before with
  | [] =>
    obtain ⟨rfl, -⟩ := List.cons.inj hsplit
    exact ⟨by decide, Or.inr fun _ hother => absurd hother List.not_mem_nil⟩
  | [first] =>
    obtain ⟨-, hrest⟩ := List.cons.inj hsplit
    obtain ⟨rfl, -⟩ := List.cons.inj hrest
    exact absurd hcustom (by decide)
  | first :: second :: before =>
    have hlength := congrArg List.length hsplit
    simp at hlength

/-- With the range in front its request is given the results of its own two rows. -/
example : (samplingInputLogprobs { bs := 3, maxInputTopLogprobsNum := 1 } logprobsRows
    (rangeFirstBatch.map preparedRequest)).map (fun out => out.map fun req => req.logprobs) =
      some [[[(100, 0)], [(101, 0)]], [[]]] := by decide +kernel

/-- The longer prompt stands first and has row 0; the request with the range is given the results
of rows 0 and 1 for its rows 1 and 2. -/
theorem logprobs_of_other_request :
    logprobsBatch.map (fun req => (req.reqId, req.logitsOffset)) = [(8, 0), (7, 1)] ∧
    prepareDeviceLogitsAndParameter (fun _ => .ok ()) 8 {}
      (logprobsBatch.map (buildLogprobsRequest true)) =
        .ok ({ bs := 3, maxInputTopLogprobsNum := 1 }, sampleLogprobsRequests) ∧
    FillsRows { bs := 3, maxInputTopLogprobsNum := 1 } logprobsRows ∧
    (samplingInputLogprobs { bs := 3, maxInputTopLogprobsNum := 1 } logprobsRows
      sampleLogprobsRequests).map (fun out => out.map fun req => req.logprobs) =
        some [[[]], [[(100, 0)], [(101, 0)]]] ∧
    ¬ AttributesRows { bs := 3, maxInputTopLogprobsNum := 1 } sampleLogprobsRequests logprobsRows := by
  refine ⟨by decide +kernel, by decide +kernel, ⟨rfl, by decide⟩, by decide +kernel, ?_⟩
  rintro ⟨out, hout, hall⟩
  have hsplit : sampleLogprobsRequests =
      sampleLogprobsRequests.take 1 ++ preparedRequest { rangeRequest with logitsOffset := 1 } :: [] :=
    by decide +kernel
  obtain ⟨stored, hstored, hown⟩ := hall _ _ _ hsplit (by decide)
  have hfound : (samplingInputLogprobs { bs := 3, maxInputTopLogprobsNum := 1 } logprobsRows
      sampleLogprobsRequests).bind (fun out => out[1]?.map fun req => req.logprobs) =
        some [[(100, 0)], [(101, 0)]] := by decide +kernel
  have hat : out[1]? = some stored := hstored
  rw [hout, Option.bind_some, hat, Option.map_some] at hfound
  rw [Option.some.inj hfound] at hown
  exact absurd hown (by decide)

end KsanaBuildAhead.Executor
