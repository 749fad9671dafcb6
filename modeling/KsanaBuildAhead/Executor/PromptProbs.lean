import KsanaBuildAhead.Executor.LogitsRows
import KsanaBuildAhead.Lib.FlatRows
import KsanaBuildAhead.Runtime.ScheduleOutputWire

/-!
# How likely a prompt is

A request may ask how likely the tokens of its own prompt are. The Sampler picks one number from
each row of the request out of the logits of the whole batch, by an address made of the row and of
the token behind the position the row was computed for. An access outside a buffer is `none`, a status
that is returned an error.
-/
namespace KsanaBuildAhead.Executor.PromptProbs

open KsanaBuildAhead.Runtime KsanaBuildAhead.Lib.FlatRows KsanaBuildAhead.Lib.VectorAccess

variable {F : Type}

/-- The part of the sampling request the probabilities need. -/
structure ProbsRequest where
  reqId : Int
  logitsCustomLength : Nat
  samplingTokenNum : Nat
  logitsOffset : Nat
  requestTarget : List (List UInt8 × TargetDescribe)
  samplingConfig : SamplingConfig
  inputTokens : List Int
  forwardingTokens : List Int

def buildProbsRequest (req : ExecutorInferRequest) : ProbsRequest where
  reqId := req.reqId
  logitsCustomLength := req.logitsCustomLength
  samplingTokenNum := req.samplingTokenNum
  logitsOffset := req.logitsOffset
  requestTarget := req.requestTarget
  samplingConfig := req.samplingConfig
  inputTokens := req.inputTokens
  forwardingTokens := req.forwardingTokens

/-- The model's logits behind a sequence, what penalties, banned n-grams and masks make of a row
of a request, and the soft-max of a row, with a temperature if it gets one. -/
structure Kernels (F : Type) where
  forward : List Int → List F
  process : ProbsRequest → Nat → List F → List F
  softmax : Option UInt32 → List F → List F

structure Kernels.KeepRows (kernels : Kernels F) (vocabSize : Nat) : Prop where
  forward : ∀ tokens, (kernels.forward tokens).length = vocabSize
  process : ∀ req i values, (kernels.process req i values).length = values.length
  softmax : ∀ temperature values, (kernels.softmax temperature values).length = values.length

/-- The sequence that ends at each token of the flat input. -/
def inputSequences (reqs : List ForwardRequest) : List (List Int) :=
  reqs.flatMap fun req => (List.range req.inputIds.length).map fun i =>
    req.forwardingTokens.take (req.skipTokenNum + i + 1)

/-- One row for each entry of the index list. -/
def logitsRows (kernels : Kernels F) (reqs : List ForwardRequest)
    (logitsIdxList : List (Option Nat)) : Option (List (List F)) :=
  (logitsIdxList.mapM fun (idx : Option Nat) => idx.bind fun i => (inputSequences reqs)[i]?).map
    (List.map kernels.forward)

def useTopP (reqs : List ProbsRequest) : Bool :=
  reqs.any fun req => req.samplingConfig.topp != kFloatOne

def useTemperature (reqs : List ProbsRequest) : Bool :=
  reqs.any fun req => req.samplingConfig.temperature != kFloatOne

def maxInputTopLogprobsNum (reqs : List ProbsRequest) : Int :=
  reqs.foldl (fun num req => match req.requestTarget.lookup kLogitsTarget with
    | some target => max num target.inputTopLogprobsNum
    | none => num) 0

def logitsSoftmax (reqs : List ProbsRequest) : Bool :=
  (reqs.any (fun req => 0 < req.logitsCustomLength) || useTopP reqs || useTemperature reqs) &&
    maxInputTopLogprobsNum reqs == 0

section Sampling

-- `TokenReduceMode::GATHER_ALL`, whose enumeration is declared outside the sources.
variable (gatherAll : TokenReduceMode) (kernels : Kernels F) (maxLogitsNum vocabSize : Nat)
-- `SamplingConfig::VerifyArgs`, whose source is elsewhere: its status and what it leaves.
variable (verifyArgs : SamplingConfig → Except String SamplingConfig)

/-- The loop over the requests: their configurations as `VerifyArgs` leaves them, and
`host_temperatures_`. The logits are those of one buffer. -/
def prepareDeviceLogitsAndParameter : List ProbsRequest → List UInt32 →
    Option (Except String (List ProbsRequest × List UInt32))
  | [], host => some (.ok ([], host))
  | req :: reqs, host =>
    match verifyArgs req.samplingConfig with
    | .error message => some (.error message)
    | .ok config =>
      if req.logitsOffset < maxLogitsNum then do
        let host ← writeSpan host req.logitsOffset
          (List.replicate req.samplingTokenNum config.temperature)
        let prepared ← prepareDeviceLogitsAndParameter reqs host
        some (prepared.map fun rest => ({ req with samplingConfig := config } :: rest.1, rest.2))
      else some (.error "sampling check sampling_req.logits_offset >= max_logits_num")

def ownRows (req : ProbsRequest) : List Nat :=
  (List.range req.samplingTokenNum).map fun i => req.logitsOffset + i

def processLogits : List ProbsRequest → List F → Option (List F)
  | [], logits => some logits
  | req :: reqs, logits => do
    let logits ← mapRows vocabSize (fun i => kernels.process req (i - req.logitsOffset))
      (ownRows req) logits
    processLogits reqs logits

def batchSize (reqs : List ProbsRequest) : Nat := (reqs.map ProbsRequest.samplingTokenNum).sum

/-- Without a temperature in the batch the kernel gets a null pointer. -/
def softmaxLogits (reqs : List ProbsRequest) (host : List UInt32) (logits : List F) :
    Option (List F) :=
  if logitsSoftmax reqs then
    mapRows vocabSize (fun i => kernels.softmax (if useTemperature reqs then host[i]? else none))
      (List.range (batchSize reqs)) logits
  else some logits

/-- The token behind a position of the input, the zeroth one where there is none. -/
def tokenIdxOffset (inputTokens : List Int) (index : Int) : Nat :=
  match inputTokens[sizeOfInt (index + 1)]? with
  | some token => sizeOfInt token
  | none => 0

def promptPositions (req : ProbsRequest) : List Int :=
  match req.requestTarget.lookup kLogitsTarget with
  | some target => target.slicePos.flatMap slicePositions
  | none => []

def gathersAll (req : ProbsRequest) : Bool :=
  match req.requestTarget.lookup kLogitsTarget with
  | some target => target.tokenReduceMode = gatherAll
  | none => false

/-- The cells of `probs_output[i]`, each with the cell of the logits it is copied from. -/
def pushCopies (req : ProbsRequest) : Nat → List Int → List (Nat × Nat)
  | _, [] => []
  | probsIndex, index :: rest =>
    (probsIndex, (req.logitsOffset + probsIndex) * vocabSize +
        tokenIdxOffset req.inputTokens index) ::
      pushCopies req (probsIndex + 1) rest

/-- The size of `probs_output[i]` and its copies; a request without the target throws. -/
def requestCopies (req : ProbsRequest) : Option (Nat × List (Nat × Nat)) :=
  if req.logitsCustomLength = 0 ∨ gathersAll gatherAll req = true then some (0, [])
  else if (req.requestTarget.lookup kLogitsTarget).isSome then
    some (req.logitsCustomLength, pushCopies vocabSize req 0 (promptPositions req))
  else none

/-- The sizes and copies of the requests from number `i` on. -/
def collectCopies : Nat → List ProbsRequest → Option (List Nat × List ((Nat × Nat) × Nat))
  | _, [] => some ([], [])
  | i, req :: reqs => do
    let (size, copies) ← requestCopies gatherAll vocabSize req
    let (sizes, rest) ← collectCopies (i + 1) reqs
    some (size :: sizes, (copies.map fun copy => ((i, copy.1), copy.2)) ++ rest)

/-- The assignments `*dst_ptr_vector[i] = dst_vector[i]`. -/
def storeProbs : List (List F) → List ((Nat × Nat) × F) → Option (List (List F))
  | probsOutput, [] => some probsOutput
  | probsOutput, ((i, probsIndex), value) :: rest => do
    let own ← probsOutput[i]?
    let own ← writeIndex own probsIndex value
    storeProbs (probsOutput.set i own) rest

/-- The device buffer of the copies has a cell for every row. -/
def copyProbsOutput (zero : F) (reqs : List ProbsRequest) (logits : List F) :
    Option (List (List F)) := do
  let (sizes, copies) ← collectCopies gatherAll vocabSize 0 reqs
  if copies.length ≤ maxLogitsNum then do
    let values ← copies.mapM fun copy => logits[copy.2]?
    storeProbs (sizes.map fun size => List.replicate size zero)
      ((copies.map Prod.fst).zip values)
  else none

/-- What `response["logits"]` is set to. -/
def copyProbsOutputToRequests (reqs : List ProbsRequest) (probsOutput : List (List F)) :
    List (Option (List F)) :=
  List.zipWith (fun req probs =>
    if gathersAll gatherAll req || probs.isEmpty then none else some probs) reqs probsOutput

/-- The part of `Sampling` that reports probabilities. -/
def sampling (zero : F) (reqs : List ProbsRequest) (host : List UInt32) (logits : List F) :
    Option (Except String (List (Option (List F)))) := do
  match ← prepareDeviceLogitsAndParameter maxLogitsNum verifyArgs reqs host with
  | .error message => some (.error message)
  | .ok (reqs, host) =>
    let logits ← processLogits kernels vocabSize reqs logits
    let logits ← softmaxLogits kernels vocabSize reqs host logits
    let probsOutput ← copyProbsOutput gatherAll maxLogitsNum vocabSize zero reqs logits
    some (.ok (copyProbsOutputToRequests gatherAll reqs probsOutput))

-- `ForwardRequest::GetType`, whose header is not part of the sources, is `kFlash`.
variable (isFlash : ForwardRequest → Bool)

/-- The requests of a batch as the Sampler gets them. -/
def samplingBatch (ordered : List ExecutorInferRequest) : List ProbsRequest :=
  (resetLogitsOffsetsAfterReorder 0 ordered).map buildProbsRequest

/-- A batch from its index list to its responses. Behind the rows it computes the buffer of the
logits holds what it held before, and so do the host buffers. -/
def promptProbs (zero : F) (ordered : List ExecutorInferRequest) (host : List UInt32)
    (stale : List F) : Option (Except String (List (Option (List F)))) := do
  let prepared ← prepareLogits isFlash (forwardBatch ordered)
  let rows ← logitsRows kernels (forwardBatch ordered) prepared.logitsIdxList
  sampling gatherAll kernels maxLogitsNum vocabSize verifyArgs zero (samplingBatch ordered) host
    (rows.flatten ++ stale)

end Sampling

/-- The requests have their rows one behind the other. -/
def RowsFrom : Nat → List ExecutorInferRequest → Prop
  | _, [] => True
  | start, req :: reqs => req.logitsOffset = start ∧ RowsFrom (start + req.samplingTokenNum) reqs

theorem rowsFrom_reset (start : Nat) (ordered : List ExecutorInferRequest) :
    RowsFrom start (resetLogitsOffsetsAfterReorder start ordered) := by
  induction ordered generalizing start with
  | nil => trivial
  | cons req ordered ih => exact ⟨rfl, ih (start + req.samplingTokenNum)⟩

@[simp] theorem samplingRows_nil : samplingRows [] = 0 := rfl

@[simp] theorem samplingRows_cons (req : ExecutorInferRequest) (reqs : List ExecutorInferRequest) :
    samplingRows (req :: reqs) = req.samplingTokenNum + samplingRows reqs := rfl

section Rows

variable {kernels : Kernels F} {vocabSize maxLogitsNum start : Nat}
  {reqs : List ExecutorInferRequest} {req : ExecutorInferRequest}

theorem RowsFrom.inside (h : RowsFrom start reqs) (hmem : req ∈ reqs) :
    start ≤ req.logitsOffset ∧
      req.logitsOffset + req.samplingTokenNum ≤ start + samplingRows reqs := by
  induction reqs generalizing start with
  | nil => exact absurd hmem List.not_mem_nil
  | cons first reqs ih =>
    obtain ⟨hfirst, hrest⟩ := h
    rw [samplingRows_cons]
    rcases List.mem_cons.mp hmem with rfl | hmem
    · omega
    · have := ih hrest hmem
      omega

theorem RowsFrom.getElem? {α : Type} {f : ExecutorInferRequest → List α} (h : RowsFrom start reqs)
    (hlength : ∀ req ∈ reqs, (f req).length = req.samplingTokenNum) (hmem : req ∈ reqs) {k : Nat}
    (hk : k < req.samplingTokenNum) :
    (reqs.flatMap f)[req.logitsOffset - start + k]? = (f req)[k]? := by
  induction reqs generalizing start with
  | nil => exact absurd hmem List.not_mem_nil
  | cons first reqs ih =>
    obtain ⟨hfirst, hrest⟩ := h
    obtain ⟨hfirstLength, hlength⟩ := List.forall_mem_cons.mp hlength
    rw [List.flatMap_cons]
    rcases List.mem_cons.mp hmem with rfl | hmem
    · rw [hfirst, Nat.sub_self, Nat.zero_add, List.getElem?_append_left (by omega)]
    · have hbehind := (hrest.inside hmem).1
      rw [List.getElem?_append_right (by omega), hfirstLength, ← ih hrest hlength hmem]
      congr 1
      omega

/-- A request with what `VerifyArgs` leaves of its configuration. -/
def verified (settled : SamplingConfig → SamplingConfig) (req : ExecutorInferRequest) :
    ExecutorInferRequest :=
  { req with samplingConfig := settled req.samplingConfig }

theorem prepareDeviceLogitsAndParameter_rows
    {verifyArgs : SamplingConfig → Except String SamplingConfig}
    {settled : SamplingConfig → SamplingConfig} (h : RowsFrom start reqs) {host : List UInt32}
    (haccepts : ∀ req ∈ reqs,
      verifyArgs req.samplingConfig = .ok (settled req.samplingConfig))
    (hoffsets : ∀ req ∈ reqs, req.logitsOffset < maxLogitsNum)
    (hroom : start + samplingRows reqs ≤ host.length) :
    ∃ filled, prepareDeviceLogitsAndParameter maxLogitsNum verifyArgs
        (reqs.map buildProbsRequest) host =
          some (.ok ((reqs.map (verified settled)).map buildProbsRequest, filled)) ∧
      (∀ req ∈ reqs, ∀ k < req.samplingTokenNum,
        filled[req.logitsOffset + k]? = some (settled req.samplingConfig).temperature) ∧
      ∀ j < start, filled[j]? = host[j]? := by
  induction reqs generalizing start host with
  | nil => exact ⟨host, rfl, fun _ hmem => absurd hmem List.not_mem_nil, fun _ _ => rfl⟩
  | cons first reqs ih =>
    obtain ⟨hfirst, hrest⟩ := h
    obtain ⟨haccept, haccepts⟩ := List.forall_mem_cons.mp haccepts
    obtain ⟨hoffset, hoffsets⟩ := List.forall_mem_cons.mp hoffsets
    rw [samplingRows_cons] at hroom
    have hpre : (host.take start).length = start := by
      rw [List.length_take]
      omega
    generalize hvalues : List.replicate first.samplingTokenNum
      (settled first.samplingConfig).temperature = values
    have hlength : values.length = first.samplingTokenNum := by
      rw [← hvalues, List.length_replicate]
    have hold : values.length ≤ (host.drop start).length := by
      rw [List.length_drop]
      omega
    have hwrite := writeSpan_append (host.take start) (host.drop start) hold
    rw [hpre, List.take_append_drop, List.append_assoc] at hwrite
    generalize hwritten : host.take start ++ (values ++ (host.drop start).drop values.length) =
      written at hwrite
    have hsame : written.length = host.length := by
      rw [← hwritten, List.length_append, List.length_append, hpre, List.length_drop,
        List.length_drop]
      omega
    have hbefore : ∀ j < start, written[j]? = host[j]? := by
      intro j hj
      rw [← hwritten, List.getElem?_append_left (by omega), List.getElem?_take_of_lt hj]
    have hown : ∀ k < first.samplingTokenNum,
        written[start + k]? = some (settled first.samplingConfig).temperature := by
      intro k hk
      rw [← hwritten, List.getElem?_append_right (by omega), hpre, Nat.add_sub_cancel_left,
        List.getElem?_append_left (by omega), ← hvalues, List.getElem?_replicate_of_lt hk]
    obtain ⟨filled, hfilled, hrows, hkept⟩ := ih hrest haccepts hoffsets (by rw [hsame]; omega)
    refine ⟨filled, ?_, List.forall_mem_cons.mpr ⟨fun k hk => ?_, hrows⟩,
      fun j hj => (hkept j (by omega)).trans (hbefore j hj)⟩
    · have hcheck : (buildProbsRequest first).logitsOffset < maxLogitsNum := hoffset
      have hconfig : verifyArgs (buildProbsRequest first).samplingConfig =
          .ok (settled first.samplingConfig) := haccept
      rw [List.map_cons, prepareDeviceLogitsAndParameter, hconfig]
      dsimp only
      rw [if_pos hcheck]
      dsimp only [buildProbsRequest]
      rw [hvalues, hfirst, hwrite, Option.bind_eq_bind, Option.bind_some]
      change (prepareDeviceLogitsAndParameter maxLogitsNum verifyArgs
        (reqs.map buildProbsRequest) written).bind _ = _
      rw [hfilled, ← hfirst]
      rfl
    · rw [hfirst]
      exact (hkept _ (Nat.add_lt_add_left hk _)).trans (hown k hk)

theorem processLogits_rows (hkernels : kernels.KeepRows vocabSize) (h : RowsFrom start reqs)
    {logits : List F} (hroom : (start + samplingRows reqs) * vocabSize ≤ logits.length) :
    ∃ processed, processLogits kernels vocabSize (reqs.map buildProbsRequest) logits =
        some processed ∧ processed.length = logits.length ∧
      (∀ req ∈ reqs, ∀ k < req.samplingTokenNum, row vocabSize (req.logitsOffset + k) processed =
        kernels.process (buildProbsRequest req) k
          (row vocabSize (req.logitsOffset + k) logits)) ∧
      ∀ j < start, row vocabSize j processed = row vocabSize j logits := by
  induction reqs generalizing start logits with
  | nil => exact ⟨logits, rfl, rfl, fun _ hmem => absurd hmem List.not_mem_nil, fun _ _ => rfl⟩
  | cons first reqs ih =>
    obtain ⟨hfirst, hrest⟩ := h
    rw [samplingRows_cons] at hroom
    have hinside : ∀ j < start + (first.samplingTokenNum + samplingRows reqs),
        HasRow vocabSize j logits := fun j hj => (Nat.mul_le_mul_right vocabSize hj).trans hroom
    have hmemRows : ∀ {j}, j ∈ ownRows (buildProbsRequest first) ↔
        ∃ k < first.samplingTokenNum, start + k = j := by
      intro j
      simp only [ownRows, buildProbsRequest, List.mem_map, List.mem_range, hfirst]
    have hdistinct : (ownRows (buildProbsRequest first)).Nodup :=
      List.nodup_range.map fun a b h => Nat.add_left_cancel h
    have hown : ∀ j ∈ ownRows (buildProbsRequest first), HasRow vocabSize j logits := by
      intro j hmem
      obtain ⟨k, hk, rfl⟩ := hmemRows.mp hmem
      exact hinside _ (by omega)
    obtain ⟨mapped, hmapped, hlength, hown, hothers⟩ := mapRows_spec
      (fun i values => hkernels.process (buildProbsRequest first)
        (i - (buildProbsRequest first).logitsOffset) values) hdistinct hown
    have hkeeps : ∀ j, HasRow vocabSize j logits →
        (j < start ∨ start + first.samplingTokenNum ≤ j) →
          row vocabSize j mapped = row vocabSize j logits := by
      intro j hj hout
      refine hothers j hj fun hmem => ?_
      obtain ⟨k, hk, rfl⟩ := hmemRows.mp hmem
      omega
    obtain ⟨processed, hprocessed, hsame, hrows, hkept⟩ := ih hrest
      (by rw [hlength, Nat.add_assoc]; exact hroom)
    refine ⟨processed, ?_, hsame.trans hlength,
      List.forall_mem_cons.mpr ⟨fun k hk => ?_, fun req hmem k hk => ?_⟩, fun j hj => ?_⟩
    · rw [List.map_cons, processLogits, hmapped]
      exact hprocessed
    · have hplace : start + k - (buildProbsRequest first).logitsOffset = k := by
        rw [buildProbsRequest, hfirst, Nat.add_sub_cancel_left]
      rw [hfirst, hkept _ (by omega), hown _ (hmemRows.mpr ⟨k, hk, rfl⟩), hplace]
    · have hplace := hrest.inside hmem
      rw [hrows req hmem k hk, hkeeps _ (hinside _ (by omega)) (Or.inr (by omega))]
    · rw [hkept j (by omega), hkeeps j (hinside j (by omega)) (Or.inl hj)]

/-- Every row of the batch goes through the soft-max kernel, or none does. -/
theorem softmaxLogits_rows (hkernels : kernels.KeepRows vocabSize) (reqs : List ProbsRequest)
    (host : List UInt32) {logits : List F}
    (hroom : batchSize reqs * vocabSize ≤ logits.length) :
    ∃ scored, softmaxLogits kernels vocabSize reqs host logits = some scored ∧
      scored.length = logits.length ∧ ∀ j < batchSize reqs, row vocabSize j scored =
        if logitsSoftmax reqs then
          kernels.softmax (if useTemperature reqs then host[j]? else none) (row vocabSize j logits)
        else row vocabSize j logits := by
  rw [softmaxLogits]
  by_cases hsoftmax : logitsSoftmax reqs = true
  · have hinside : ∀ j ∈ List.range (batchSize reqs), HasRow vocabSize j logits := fun j hmem =>
      (Nat.mul_le_mul_right vocabSize (List.mem_range.mp hmem)).trans hroom
    obtain ⟨scored, hscored, hlength, hown, -⟩ := mapRows_spec
      (fun i values => hkernels.softmax (if useTemperature reqs then host[i]? else none) values)
      List.nodup_range hinside
    refine ⟨scored, by rw [if_pos hsoftmax, hscored], hlength, fun j hj => ?_⟩
    rw [if_pos hsoftmax, hown j (List.mem_range.mpr hj)]
  · exact ⟨logits, if_neg hsoftmax, rfl, fun j _ => (if_neg hsoftmax).symm⟩

end Rows

section Copies

variable {gatherAll : TokenReduceMode} {vocabSize : Nat} {req : ProbsRequest}

@[simp] theorem pushCopies_length (probsIndex : Nat) (positions : List Int) :
    (pushCopies vocabSize req probsIndex positions).length = positions.length := by
  induction positions generalizing probsIndex with
  | nil => rfl
  | cons position positions ih => rw [pushCopies, List.length_cons, ih, List.length_cons]

theorem pushCopies_getElem? {probsIndex k : Nat} {positions : List Int} :
    (pushCopies vocabSize req probsIndex positions)[k]? = positions[k]?.map fun position =>
      (probsIndex + k, (req.logitsOffset + (probsIndex + k)) * vocabSize +
        tokenIdxOffset req.inputTokens position) := by
  induction positions generalizing probsIndex k with
  | nil => rfl
  | cons position positions ih =>
    cases k with
    | zero => rfl
    | succ k =>
      rw [pushCopies, List.getElem?_cons_succ, List.getElem?_cons_succ, ih, Nat.add_assoc,
        Nat.add_comm 1 k]

/-- The copies a request makes. -/
def ownCopies (gatherAll : TokenReduceMode) (vocabSize : Nat) (req : ProbsRequest) :
    List (Nat × Nat) :=
  if req.logitsCustomLength = 0 ∨ gathersAll gatherAll req = true then []
  else pushCopies vocabSize req 0 (promptPositions req)

theorem ownCopies_pushed (gatherAll : TokenReduceMode) (vocabSize : Nat) (req : ProbsRequest) :
    ∃ positions, ownCopies gatherAll vocabSize req = pushCopies vocabSize req 0 positions := by
  rw [ownCopies]
  split
  · exact ⟨[], rfl⟩
  · exact ⟨promptPositions req, rfl⟩

/-- A request that is told probabilities has the target, and as many positions as announced. -/
def Announced (gatherAll : TokenReduceMode) (req : ProbsRequest) : Prop :=
  req.logitsCustomLength = 0 ∨ gathersAll gatherAll req = true ∨
    ((req.requestTarget.lookup kLogitsTarget).isSome = true ∧
      (promptPositions req).length = req.logitsCustomLength)

theorem requestCopies_eq (h : Announced gatherAll req) : requestCopies gatherAll vocabSize req =
    some ((ownCopies gatherAll vocabSize req).length, ownCopies gatherAll vocabSize req) := by
  rw [requestCopies, ownCopies]
  split
  · rfl
  · next hreports =>
    obtain ⟨hcustom, hgather⟩ := not_or.mp hreports
    obtain ⟨hfound, hlength⟩ := (h.resolve_left hcustom).resolve_left hgather
    rw [if_pos hfound, pushCopies_length, hlength]

theorem storeProbs_own (vocabSize : Nat) (req : ProbsRequest) (value : Nat → F)
    (before after : List (List F)) (rest : List ((Nat × Nat) × F)) (front : List F)
    {old : List F} {positions : List Int} (hroom : positions.length = old.length) :
    storeProbs (before ++ (front ++ old) :: after)
        ((pushCopies vocabSize req front.length positions).map (fun copy =>
          ((before.length, copy.1), value copy.2)) ++ rest) =
      storeProbs (before ++ (front ++ (pushCopies vocabSize req front.length positions).map
        fun copy => value copy.2) :: after) rest := by
  induction positions generalizing front old with
  | nil =>
    obtain rfl : old = [] := List.eq_nil_of_length_eq_zero hroom.symm
    rfl
  | cons position positions ih =>
    cases old with
    | nil => cases hroom
    | cons cell old =>
      have hset : (front ++ cell :: old).set front.length
          (value ((req.logitsOffset + front.length) * vocabSize +
            tokenIdxOffset req.inputTokens position)) =
          (front ++ [value ((req.logitsOffset + front.length) * vocabSize +
            tokenIdxOffset req.inputTokens position)]) ++ old := by
        rw [List.set_append_right _ _ (Nat.le_refl _), Nat.sub_self, List.set_cons_zero,
          List.append_assoc]
        rfl
      have hin : front.length < (front ++ cell :: old).length := by
        rw [List.length_append, List.length_cons]
        omega
      have hnext := ih (front ++ [value ((req.logitsOffset + front.length) * vocabSize +
        tokenIdxOffset req.inputTokens position)]) (Nat.succ.inj hroom)
      rw [List.length_append, List.length_singleton] at hnext
      rw [pushCopies, List.map_cons, List.map_cons, List.cons_append, storeProbs]
      dsimp only
      rw [List.getElem?_append_right (Nat.le_refl _), Nat.sub_self, List.getElem?_cons_zero,
        Option.bind_eq_bind, Option.bind_some, writeIndex, if_pos hin,
        Option.bind_some, List.set_append_right _ _ (Nat.le_refl _), Nat.sub_self,
        List.set_cons_zero, hset, hnext, List.append_assoc]
      rfl

theorem storeProbs_all (vocabSize : Nat) (value : Nat → F) (zero : F) {reqs : List ProbsRequest}
    (h : ∀ req ∈ reqs, Announced gatherAll req) (before : List (List F)) :
    ∃ sizes copies, collectCopies gatherAll vocabSize before.length reqs = some (sizes, copies) ∧
      copies.map Prod.snd =
        (reqs.flatMap (ownCopies gatherAll vocabSize)).map Prod.snd ∧
      storeProbs (before ++ sizes.map fun size => List.replicate size zero)
          (copies.map fun copy => (copy.1, value copy.2)) =
        some (before ++ reqs.map fun req =>
          (ownCopies gatherAll vocabSize req).map fun copy => value copy.2) := by
  induction reqs generalizing before with
  | nil => exact ⟨[], [], rfl, rfl, rfl⟩
  | cons req reqs ih =>
    obtain ⟨hfirst, hrest⟩ := List.forall_mem_cons.mp h
    obtain ⟨sizes, copies, hcollect, hsources, hstore⟩ := ih hrest
      (before ++ [(ownCopies gatherAll vocabSize req).map fun copy => value copy.2])
    rw [List.length_append, List.length_singleton] at hcollect
    refine ⟨(ownCopies gatherAll vocabSize req).length :: sizes,
      ((ownCopies gatherAll vocabSize req).map fun copy => ((before.length, copy.1), copy.2)) ++
        copies, ?_, ?_, ?_⟩
    · rw [collectCopies, requestCopies_eq hfirst, Option.bind_eq_bind, Option.bind_some]
      dsimp only
      rw [hcollect]
      rfl
    · rw [List.map_append, hsources, List.flatMap_cons, List.map_append, List.map_map]
      rfl
    · obtain ⟨positions, hown⟩ := ownCopies_pushed gatherAll vocabSize req
      have hcells : positions.length = (List.replicate positions.length zero).length :=
        List.length_replicate.symm
      have hfill := storeProbs_own vocabSize req value before
        (sizes.map fun size => List.replicate size zero)
        (copies.map fun copy => (copy.1, value copy.2)) [] hcells
      rw [List.length_nil, List.nil_append, List.nil_append, ← hown] at hfill
      rw [List.append_assoc, List.append_assoc] at hstore
      rw [List.map_append, List.map_map, List.map_cons, List.map_cons, hown, pushCopies_length,
        ← hown]
      exact hfill.trans hstore

end Copies

section Forward

variable {isFlash : ForwardRequest → Bool}

/-- The sequences the rows of a request end. -/
def rowSequences (isFlash : ForwardRequest → Bool) (req : ForwardRequest) : List (List Int) :=
  (rowPositions isFlash req).map fun position => req.forwardingTokens.take (position + 1).toNat

theorem inputSequences_own {req : ForwardRequest} {reqs : List ForwardRequest} {position : Int}
    (hbegin : req.skipTokenNum ≤ position) (hend : position < req.forwardingTokens.length) :
    (inputSequences (req :: reqs))[(position - req.skipTokenNum).toNat]? =
      some (req.forwardingTokens.take (position + 1).toNat) := by
  have hlength := inputIds_length req
  have hinside : (position - req.skipTokenNum).toNat < req.inputIds.length := by omega
  rw [inputSequences, List.flatMap_cons, List.getElem?_append_left (by simpa using hinside),
    List.getElem?_map, List.getElem?_range hinside, Option.map_some]
  congr 2
  omega

theorem inputSequences_behind {req : ForwardRequest} {reqs : List ForwardRequest} {i : Nat} :
    (inputSequences (req :: reqs))[req.inputIds.length + i]? = (inputSequences reqs)[i]? := by
  rw [inputSequences, List.flatMap_cons, List.getElem?_append_right (by simp), List.length_map,
    List.length_range, Nat.add_sub_cancel_left]
  rfl

/-- The entries of the index list name the sequences of their positions. -/
theorem batchRows_sequences {sequences : List (List Int)} {start : Nat}
    {reqs : List ForwardRequest} (hfit : ∀ req ∈ reqs, RowsFit isFlash req)
    (hsequences : ∀ i < (inputSequences reqs).length,
      sequences[start + i]? = (inputSequences reqs)[i]?) :
    (batchRows isFlash start reqs).mapM (fun i => sequences[i]?) =
      some (reqs.flatMap (rowSequences isFlash)) := by
  induction reqs generalizing start with
  | nil => rfl
  | cons req reqs ih =>
    obtain ⟨hfirst, hrest⟩ := List.forall_mem_cons.mp hfit
    have hlength : (inputSequences (req :: reqs)).length =
        req.inputIds.length + (inputSequences reqs).length := by
      rw [inputSequences, List.flatMap_cons, List.length_append, List.length_map,
        List.length_range]
      rfl
    have hown : (requestRows isFlash start req).mapM (fun i => sequences[i]?) =
        some (rowSequences isFlash req) := by
      rw [requestRows, List.mapM_map]
      refine Lib.Execution.mapM_eq_some_map fun position hposition => ?_
      obtain ⟨hbegin, hend⟩ := hfirst.inside position hposition
      have hids := inputIds_length req
      have hplace : (position - req.skipTokenNum).toNat <
          (inputSequences (req :: reqs)).length := by omega
      exact (hsequences _ hplace).trans (inputSequences_own hbegin hend)
    have hbehind : (batchRows isFlash (start + req.inputIds.length) reqs).mapM
        (fun i => sequences[i]?) = some (reqs.flatMap (rowSequences isFlash)) := by
      refine ih hrest fun i hi => ?_
      rw [Nat.add_assoc, hsequences _ (by omega), inputSequences_behind]
    rw [batchRows, List.mapM_append, hown, hbehind]
    rfl

/-- The rows that are computed are those of the requests, one behind the other. -/
theorem logitsRows_of_fit (kernels : Kernels F) {reqs : List ForwardRequest}
    (hfit : ∀ req ∈ reqs, RowsFit isFlash req)
    (hsize : (reqs.flatMap ForwardRequest.inputIds).length < 2 ^ 64) :
    ∃ prepared, prepareLogits isFlash reqs = some prepared ∧
      logitsRows kernels reqs prepared.logitsIdxList =
        some ((reqs.flatMap (rowSequences isFlash)).map kernels.forward) := by
  have hempty : Written { logitsIdxList := List.replicate (totalSamplingTokenNum reqs) none } []
      (totalSamplingTokenNum reqs + 0) := ⟨rfl, rfl⟩
  obtain ⟨prepared, hprepared, hwritten, -⟩ :=
    hempty.batch hfit (by rw [List.length_nil, Nat.zero_add]; exact hsize)
  have hlist : prepared.logitsIdxList = (batchRows isFlash 0 reqs).map some := by
    rw [hwritten.list, List.replicate_zero, List.append_nil]
    rfl
  refine ⟨prepared, hprepared, ?_⟩
  have hshift : ∀ i < (inputSequences reqs).length,
      (inputSequences reqs)[0 + i]? = (inputSequences reqs)[i]? := fun i _ => by rw [Nat.zero_add]
  have hrows := batchRows_sequences hfit hshift
  rw [logitsRows, hlist, List.mapM_map]
  exact congrArg (Option.map (List.map kernels.forward)) hrows

end Forward

/-- The number a row is reported from: of the logits behind the sequence, processed for the
request, and as probabilities unless some request of the batch asks for top log-probabilities. -/
def scoredRow (kernels : Kernels F) (reqs : List ProbsRequest) (req : ProbsRequest) (k : Nat)
    (logits : List F) : List F :=
  if logitsSoftmax reqs then
    kernels.softmax (if useTemperature reqs then some req.samplingConfig.temperature else none)
      (kernels.process req k logits)
  else kernels.process req k logits

/-- The token behind a position of the prompt, or token zero at its end. -/
def tokenBehind (inputTokens : List Int) (position : Int) : Nat :=
  (inputTokens.getD (position + 1).toNat 0).toNat

/-- A request with a range of its own is told, position by position, the number of the token that
comes next in its prompt; the response of any other is left alone. -/
structure Reports (gatherAll : TokenReduceMode) (kernels : Kernels F) (reqs : List ProbsRequest)
    (req : ProbsRequest) (response : Option (List F)) : Prop where
  untouched : req.logitsCustomLength = 0 ∨ gathersAll gatherAll req = true → response = none
  probs : req.logitsCustomLength ≠ 0 → gathersAll gatherAll req = false →
    ∃ probs, response = some probs ∧ probs.length = (promptPositions req).length ∧
      ∀ (k : Nat) (position : Int), (promptPositions req)[k]? = some position →
        probs[k]? = (scoredRow kernels reqs req k (kernels.forward
          (req.forwardingTokens.take (position + 1).toNat)))[tokenBehind req.inputTokens position]?

/-- What a batch needs: the rows of its requests fit, a range of their own is computed as
announced, its tokens are of the vocabulary, and the buffers of the Sampler are large enough. -/
structure PromptBatch (isFlash : ForwardRequest → Bool) (maxLogitsNum vocabSize : Nat)
    (ordered : List ExecutorInferRequest) : Prop where
  fit : ∀ req ∈ forwardBatch ordered, RowsFit isFlash req
  custom : ∀ req ∈ forwardBatch ordered, 0 < req.logitsCustomLength →
    isFlash req = true ∧ req.samplingTokenNum = req.logitsCustomLength
  tokens : ∀ req ∈ ordered, ∀ token ∈ req.inputTokens, 0 ≤ token ∧ token < vocabSize
  vocab : 0 < vocabSize ∧ vocabSize < 2 ^ 31
  lengths : ∀ req ∈ ordered, req.forwardingTokens.length < 2 ^ 31
  size : ((forwardBatch ordered).flatMap ForwardRequest.inputIds).length < 2 ^ 64
  offsets : ∀ req ∈ resetLogitsOffsetsAfterReorder 0 ordered, req.logitsOffset < maxLogitsNum
  room : samplingRows ordered ≤ maxLogitsNum

section Report

variable {gatherAll : TokenReduceMode} {kernels : Kernels F} {maxLogitsNum vocabSize : Nat}
  {isFlash : ForwardRequest → Bool} {ordered : List ExecutorInferRequest}
  {live : ExecutorInferRequest}

theorem tokenIdxOffset_eq {inputTokens : List Int} {position : Int}
    (htokens : ∀ token ∈ inputTokens, 0 ≤ token ∧ token < vocabSize)
    (hvocab : 0 < vocabSize ∧ vocabSize < 2 ^ 31) (hbegin : 0 ≤ position)
    (hend : position < 2 ^ 31) :
    tokenIdxOffset inputTokens position = tokenBehind inputTokens position ∧
      tokenBehind inputTokens position < vocabSize := by
  have hplace : sizeOfInt (position + 1) = (position + 1).toNat := by
    rw [sizeOfInt]
    omega
  rw [tokenIdxOffset, tokenBehind, hplace, List.getD_eq_getElem?_getD]
  cases htoken : inputTokens[(position + 1).toNat]? with
  | none => exact ⟨rfl, hvocab.1⟩
  | some token =>
    have hrange := htokens token (List.mem_of_getElem? htoken)
    rw [Option.getD_some]
    refine ⟨?_, by omega⟩
    dsimp only
    rw [sizeOfInt]
    omega

/-- The copy of a request `Forward` works on. -/
def forwarded (live : ExecutorInferRequest) : ForwardRequest :=
  buildForwardRequestFromInferRequest { live with step := live.step + 1 }

theorem forwardBatch_eq (ordered : List ExecutorInferRequest) :
    forwardBatch ordered = (resetLogitsOffsetsAfterReorder 0 ordered).map forwarded := by
  rw [forwardBatch, buildForwardRequests, List.map_map]
  rfl

theorem samplingRows_reset (ordered : List ExecutorInferRequest) :
    samplingRows (resetLogitsOffsetsAfterReorder 0 ordered) = samplingRows ordered := by
  rw [samplingRows, resetLogitsOffsets_map (fun req => req.samplingTokenNum) fun _ _ => rfl]
  rfl

theorem exists_ordered {start : Nat}
    (hmem : live ∈ resetLogitsOffsetsAfterReorder start ordered) :
    ∃ req ∈ ordered, live = { req with logitsOffset := live.logitsOffset } := by
  obtain ⟨n, hn⟩ := List.mem_iff_getElem?.mp hmem
  obtain ⟨own, offset, hown, rfl⟩ := resetLogitsOffsets_getElem? hn
  exact ⟨own, List.mem_of_getElem? hown, rfl⟩

/-- The rows of a request with a range of its own are the positions of the range. -/
theorem rowPositions_custom (hflash : isFlash (forwarded live) = true)
    (hcustom : 0 < live.logitsCustomLength) :
    rowPositions isFlash (forwarded live) = promptPositions (buildProbsRequest live) := by
  rw [rowPositions, if_pos ⟨hflash, hcustom⟩, promptPositions, ForwardRequest.logitsSlices]
  change (match live.requestTarget.lookup kLogitsTarget with
    | some target => target.slicePos
    | none => []).flatMap slicePositions = match live.requestTarget.lookup kLogitsTarget with
    | some target => target.slicePos.flatMap slicePositions
    | none => []
  cases live.requestTarget.lookup kLogitsTarget <;> rfl

theorem PromptBatch.count (h : PromptBatch isFlash maxLogitsNum vocabSize ordered)
    (hmem : live ∈ resetLogitsOffsetsAfterReorder 0 ordered) :
    (rowPositions isFlash (forwarded live)).length = live.samplingTokenNum :=
  (h.fit _ (by rw [forwardBatch_eq]; exact List.mem_map_of_mem hmem)).count

theorem PromptBatch.rows (h : PromptBatch isFlash maxLogitsNum vocabSize ordered)
    (hkernels : kernels.KeepRows vocabSize) (stale : List F) :
    ∃ prepared rows, prepareLogits isFlash (forwardBatch ordered) = some prepared ∧
      logitsRows kernels (forwardBatch ordered) prepared.logitsIdxList = some rows ∧
      samplingRows ordered * vocabSize ≤ (rows.flatten ++ stale).length ∧
      ∀ live ∈ resetLogitsOffsetsAfterReorder 0 ordered, ∀ (k : Nat) (position : Int),
        (rowPositions isFlash (forwarded live))[k]? = some position →
          row vocabSize (live.logitsOffset + k) (rows.flatten ++ stale) =
            kernels.forward (live.forwardingTokens.take (position + 1).toNat) := by
  obtain ⟨prepared, hprepared, hrows⟩ := logitsRows_of_fit kernels h.fit h.size
  rw [forwardBatch_eq, List.flatMap_map, List.map_flatMap] at hrows
  generalize hlist : ((resetLogitsOffsetsAfterReorder 0 ordered).flatMap fun live =>
    (rowSequences isFlash (forwarded live)).map kernels.forward) = rows at hrows
  have hreset := rowsFrom_reset 0 ordered
  have hlengths : ∀ live ∈ resetLogitsOffsetsAfterReorder 0 ordered,
      ((rowSequences isFlash (forwarded live)).map kernels.forward).length =
        live.samplingTokenNum := by
    intro live hmem
    rw [List.length_map, rowSequences, List.length_map, h.count hmem]
  have hwidth : ∀ r ∈ rows, r.length = vocabSize := by
    intro r hr
    rw [← hlist] at hr
    obtain ⟨live, -, hr⟩ := List.mem_flatMap.mp hr
    obtain ⟨sequence, -, rfl⟩ := List.mem_map.mp hr
    exact hkernels.forward sequence
  have hcount : rows.length = samplingRows ordered := by
    rw [← hlist, List.length_flatMap, ← samplingRows_reset]
    exact congrArg List.sum (List.map_congr_left hlengths)
  refine ⟨prepared, rows, hprepared, by rw [forwardBatch_eq, hrows], ?_, ?_⟩
  · rw [List.length_append, List.length_flatten, List.map_congr_left hwidth, List.map_const',
      List.sum_replicate_nat, hcount]
    exact Nat.le_add_right _ _
  · intro live hmem k position hposition
    obtain ⟨hk, -⟩ := List.getElem?_eq_some_iff.mp hposition
    rw [h.count hmem] at hk
    have hinside := (hreset.inside hmem).2
    rw [samplingRows_reset, Nat.zero_add] at hinside
    have hj : live.logitsOffset + k < rows.length := by omega
    have hrow := hreset.getElem? hlengths hmem hk
    rw [Nat.sub_zero, hlist, List.getElem?_eq_getElem hj, List.getElem?_map, rowSequences,
      List.getElem?_map, hposition] at hrow
    rw [row_flatten_append hwidth hj]
    exact Option.some.inj hrow

theorem reset_verified (settled : SamplingConfig → SamplingConfig) (start : Nat)
    (ordered : List ExecutorInferRequest) :
    resetLogitsOffsetsAfterReorder start (ordered.map (verified settled)) =
      (resetLogitsOffsetsAfterReorder start ordered).map (verified settled) := by
  induction ordered generalizing start with
  | nil => rfl
  | cons req ordered ih =>
    have hrest := ih (start + req.samplingTokenNum)
    rw [List.map_cons, resetLogitsOffsetsAfterReorder, resetLogitsOffsetsAfterReorder,
      List.map_cons, ← hrest]
    rfl

theorem forwardBatch_verified (settled : SamplingConfig → SamplingConfig)
    (ordered : List ExecutorInferRequest) :
    forwardBatch (ordered.map (verified settled)) = forwardBatch ordered := by
  rw [forwardBatch_eq, forwardBatch_eq, reset_verified, List.map_map]
  rfl

theorem samplingRows_verified (settled : SamplingConfig → SamplingConfig)
    (ordered : List ExecutorInferRequest) :
    samplingRows (ordered.map (verified settled)) = samplingRows ordered := by
  rw [samplingRows, List.map_map]
  rfl

theorem PromptBatch.verified (h : PromptBatch isFlash maxLogitsNum vocabSize ordered)
    (settled : SamplingConfig → SamplingConfig) :
    PromptBatch isFlash maxLogitsNum vocabSize (ordered.map (verified settled)) where
  fit := by rw [forwardBatch_verified]; exact h.fit
  custom := by rw [forwardBatch_verified]; exact h.custom
  tokens := List.forall_mem_map.mpr h.tokens
  vocab := h.vocab
  lengths := List.forall_mem_map.mpr h.lengths
  size := by rw [forwardBatch_verified]; exact h.size
  offsets := by rw [reset_verified]; exact List.forall_mem_map.mpr h.offsets
  room := by rw [samplingRows_verified]; exact h.room

/-- The rows the Sampler leaves of a batch whose configurations are accepted. -/
theorem PromptBatch.scored (h : PromptBatch isFlash maxLogitsNum vocabSize ordered)
    (hkernels : kernels.KeepRows vocabSize)
    {verifyArgs : SamplingConfig → Except String SamplingConfig}
    {settled : SamplingConfig → SamplingConfig}
    (haccepts : ∀ req ∈ ordered, verifyArgs req.samplingConfig = .ok (settled req.samplingConfig))
    {batch : List ExecutorInferRequest} (hbatch : batch = ordered.map (PromptProbs.verified settled))
    {host : List UInt32} (hhost : host.length = maxLogitsNum) {logits : List F}
    (hroom : samplingRows batch * vocabSize ≤ logits.length) :
    ∃ filled processed scored,
      prepareDeviceLogitsAndParameter maxLogitsNum verifyArgs (samplingBatch ordered) host =
        some (.ok (samplingBatch batch, filled)) ∧
      processLogits kernels vocabSize (samplingBatch batch) logits = some processed ∧
      softmaxLogits kernels vocabSize (samplingBatch batch) filled processed = some scored ∧
      scored.length = logits.length ∧
      ∀ live ∈ resetLogitsOffsetsAfterReorder 0 batch, ∀ k < live.samplingTokenNum,
        row vocabSize (live.logitsOffset + k) scored = scoredRow kernels (samplingBatch batch)
          (buildProbsRequest live) k (row vocabSize (live.logitsOffset + k) logits) := by
  have hrows : samplingRows batch = samplingRows ordered := by rw [hbatch, samplingRows_verified]
  have hlives : resetLogitsOffsetsAfterReorder 0 batch =
      (resetLogitsOffsetsAfterReorder 0 ordered).map (PromptProbs.verified settled) := by
    rw [hbatch, reset_verified]
  have hreset := rowsFrom_reset 0 batch
  have htotal : 0 + samplingRows (resetLogitsOffsetsAfterReorder 0 batch) =
      samplingRows batch := by rw [Nat.zero_add, samplingRows_reset]
  have hsize : batchSize (samplingBatch batch) = samplingRows batch := by
    rw [batchSize, samplingBatch, List.map_map, ← samplingRows_reset]
    rfl
  have haccepts : ∀ live ∈ resetLogitsOffsetsAfterReorder 0 ordered,
      verifyArgs live.samplingConfig = .ok (settled live.samplingConfig) := by
    intro live hmem
    obtain ⟨own, hown, hlive⟩ := exists_ordered hmem
    rw [hlive]
    exact haccepts own hown
  obtain ⟨filled, hfilled, htemperature, -⟩ :=
    prepareDeviceLogitsAndParameter_rows (rowsFrom_reset 0 ordered) haccepts h.offsets
      (by rw [Nat.zero_add, samplingRows_reset, hhost]; exact h.room)
  rw [← hlives] at hfilled
  obtain ⟨processed, hprocessed, hlength, hown, -⟩ :=
    processLogits_rows hkernels hreset (by rw [htotal]; exact hroom)
  have hrowsRoom : batchSize (samplingBatch batch) * vocabSize ≤ processed.length := by
    rw [hsize, hlength]
    exact hroom
  obtain ⟨scored, hscored, hsame, hscoredRows⟩ :=
    softmaxLogits_rows hkernels (samplingBatch batch) filled hrowsRoom
  refine ⟨filled, processed, scored, hfilled, hprocessed, hscored, hsame.trans hlength, ?_⟩
  intro live hmem k hk
  have hinside := (hreset.inside hmem).2
  rw [htotal] at hinside
  have hfound : filled[live.logitsOffset + k]? = some live.samplingConfig.temperature := by
    rw [hlives] at hmem
    obtain ⟨before, hbefore, rfl⟩ := List.mem_map.mp hmem
    exact htemperature before hbefore k hk
  rw [hscoredRows _ (by omega), hown live hmem k hk, hfound]
  rfl

/-- A request that is told probabilities gets them of the rows it samples. -/
theorem PromptBatch.custom_rows (h : PromptBatch isFlash maxLogitsNum vocabSize ordered)
    (hmem : live ∈ resetLogitsOffsetsAfterReorder 0 ordered)
    (hcustom : live.logitsCustomLength ≠ 0) :
    rowPositions isFlash (forwarded live) = promptPositions (buildProbsRequest live) ∧
      live.samplingTokenNum = live.logitsCustomLength := by
  have hforwarded : forwarded live ∈ forwardBatch ordered := by
    rw [forwardBatch_eq]
    exact List.mem_map_of_mem hmem
  have hpos : 0 < live.logitsCustomLength := Nat.pos_of_ne_zero hcustom
  obtain ⟨hflash, hcount⟩ := h.custom _ hforwarded hpos
  exact ⟨rowPositions_custom hflash hpos, hcount⟩

theorem PromptBatch.announced (h : PromptBatch isFlash maxLogitsNum vocabSize ordered)
    (gatherAll : TokenReduceMode) : ∀ req ∈ samplingBatch ordered, Announced gatherAll req := by
  refine List.forall_mem_map.mpr fun live hmem => ?_
  by_cases hcustom : live.logitsCustomLength = 0
  · exact Or.inl hcustom
  have hforwarded : forwarded live ∈ forwardBatch ordered := by
    rw [forwardBatch_eq]
    exact List.mem_map_of_mem hmem
  have hpos : 0 < live.logitsCustomLength := Nat.pos_of_ne_zero hcustom
  obtain ⟨hflash, -⟩ := h.custom _ hforwarded hpos
  obtain ⟨hpositions, hcount⟩ := h.custom_rows hmem hcustom
  refine Or.inr (Or.inr ⟨((h.fit _ hforwarded).slices ⟨hflash, hpos⟩).1, ?_⟩)
  rw [← hpositions, h.count hmem]
  exact hcount

theorem ownCopies_length_le (h : PromptBatch isFlash maxLogitsNum vocabSize ordered)
    (hmem : live ∈ resetLogitsOffsetsAfterReorder 0 ordered) :
    (ownCopies gatherAll vocabSize (buildProbsRequest live)).length ≤ live.samplingTokenNum := by
  rw [ownCopies]
  split
  · exact Nat.zero_le _
  · next hreports =>
    obtain ⟨hpositions, -⟩ := h.custom_rows hmem (not_or.mp hreports).1
    rw [pushCopies_length, ← hpositions, h.count hmem]

/-- The cell a position is copied from is the number of the token that comes next. -/
theorem PromptBatch.cell (h : PromptBatch isFlash maxLogitsNum vocabSize ordered)
    {scored : List F} (hroom : samplingRows ordered * vocabSize ≤ scored.length)
    (hmem : live ∈ resetLogitsOffsetsAfterReorder 0 ordered)
    (hcustom : live.logitsCustomLength ≠ 0) {k : Nat} {position : Int}
    (hposition : (promptPositions (buildProbsRequest live))[k]? = some position) :
    k < live.samplingTokenNum ∧
      (live.logitsOffset + k) * vocabSize + tokenIdxOffset live.inputTokens position <
        scored.length ∧
      scored[(live.logitsOffset + k) * vocabSize + tokenIdxOffset live.inputTokens position]? =
        (row vocabSize (live.logitsOffset + k) scored)[tokenBehind live.inputTokens position]? := by
  obtain ⟨hpositions, -⟩ := h.custom_rows hmem hcustom
  have hcount := h.count hmem
  rw [hpositions] at hcount
  obtain ⟨hk, -⟩ := List.getElem?_eq_some_iff.mp hposition
  rw [hcount] at hk
  obtain ⟨own, hown, hlive⟩ := exists_ordered hmem
  have htokens : ∀ token ∈ live.inputTokens, 0 ≤ token ∧ token < vocabSize := by
    rw [hlive]
    exact h.tokens own hown
  have hlength : live.forwardingTokens.length < 2 ^ 31 := by
    rw [hlive]
    exact h.lengths own hown
  have hforwarded : forwarded live ∈ forwardBatch ordered := by
    rw [forwardBatch_eq]
    exact List.mem_map_of_mem hmem
  obtain ⟨hbegin, hend⟩ := (h.fit _ hforwarded).inside position
    (hpositions ▸ List.mem_of_getElem? hposition)
  have hfirst : 0 ≤ position := by omega
  have hlast : position < 2 ^ 31 := by
    have hend : position < live.forwardingTokens.length := hend
    omega
  obtain ⟨htoken, hinside⟩ := tokenIdxOffset_eq htokens h.vocab hfirst hlast
  have hrow := (rowsFrom_reset 0 ordered).inside hmem
  rw [samplingRows_reset] at hrow
  have hplace : (live.logitsOffset + k + 1) * vocabSize ≤ samplingRows ordered * vocabSize :=
    Nat.mul_le_mul_right _ (by omega)
  rw [Nat.succ_mul] at hplace
  refine ⟨hk, by omega, ?_⟩
  rw [htoken, row_getElem? hinside]

theorem PromptBatch.copies_inside (h : PromptBatch isFlash maxLogitsNum vocabSize ordered)
    {scored : List F} (hroom : samplingRows ordered * vocabSize ≤ scored.length)
    (hmem : live ∈ resetLogitsOffsetsAfterReorder 0 ordered) :
    ∀ copy ∈ ownCopies gatherAll vocabSize (buildProbsRequest live), copy.2 < scored.length := by
  intro copy hcopy
  rw [ownCopies] at hcopy
  split at hcopy
  · exact absurd hcopy List.not_mem_nil
  · next hreports =>
    obtain ⟨k, hk⟩ := List.mem_iff_getElem?.mp hcopy
    rw [pushCopies_getElem?, Nat.zero_add] at hk
    obtain ⟨position, hposition, rfl⟩ := Option.map_eq_some_iff.mp hk
    exact (h.cell hroom hmem (not_or.mp hreports).1 hposition).2.1

/-- The copies of a batch fit the device buffer, and fill the cells of each request. -/
theorem PromptBatch.copied (h : PromptBatch isFlash maxLogitsNum vocabSize ordered)
    (gatherAll : TokenReduceMode) (zero : F) {scored : List F}
    (hroom : samplingRows ordered * vocabSize ≤ scored.length) :
    copyProbsOutput gatherAll maxLogitsNum vocabSize zero (samplingBatch ordered) scored =
      some ((samplingBatch ordered).map fun req =>
        (ownCopies gatherAll vocabSize req).map fun copy => (scored[copy.2]?).getD zero) := by
  obtain ⟨sizes, copies, hcollect, hsources, hstore⟩ := storeProbs_all vocabSize
    (fun source => (scored[source]?).getD zero) zero (h.announced gatherAll) []
  rw [List.length_nil] at hcollect
  rw [List.nil_append, List.nil_append] at hstore
  have hinside : ∀ copy ∈ copies, scored[copy.2]? = some ((scored[copy.2]?).getD zero) := by
    intro copy hcopy
    have hsource : copy.2 ∈ ((samplingBatch ordered).flatMap
        (ownCopies gatherAll vocabSize)).map Prod.snd :=
      hsources ▸ List.mem_map_of_mem hcopy
    obtain ⟨own, hown, hsource⟩ := List.mem_map.mp hsource
    obtain ⟨req, hreq, hown⟩ := List.mem_flatMap.mp hown
    obtain ⟨live, hmem, rfl⟩ := List.mem_map.mp hreq
    rw [← hsource, List.getElem?_eq_getElem (h.copies_inside hroom hmem own hown),
      Option.getD_some]
  have hvalues : copies.mapM (fun copy => scored[copy.2]?) =
      some (copies.map fun copy => (scored[copy.2]?).getD zero) :=
    Lib.Execution.mapM_eq_some_map hinside
  have hcount : copies.length ≤ maxLogitsNum := by
    have hall : copies.length =
        ((samplingBatch ordered).flatMap (ownCopies gatherAll vocabSize)).length := by
      have := congrArg List.length hsources
      rwa [List.length_map, List.length_map] at this
    rw [hall, samplingBatch, List.flatMap_map, List.length_flatMap]
    refine (List.sum_le_sum fun live hmem => ownCopies_length_le h hmem).trans ?_
    exact (samplingRows_reset ordered).trans_le h.room
  rw [copyProbsOutput, hcollect, Option.bind_eq_bind, Option.bind_some]
  dsimp only
  rw [if_pos hcount, hvalues, Option.bind_eq_bind, Option.bind_some, List.zip_map', hstore]

/-- Every prompt is reported position by position: whatever the other requests of the batch are,
whatever the buffers held before, and in any order of the batch, the response of a request with a
range of its own is the numbers of the tokens that follow each position of the range. -/
theorem prompt_probs_reported (hkernels : kernels.KeepRows vocabSize)
    (hprompts : PromptBatch isFlash maxLogitsNum vocabSize ordered)
    {verifyArgs : SamplingConfig → Except String SamplingConfig}
    {settled : SamplingConfig → SamplingConfig}
    (haccepts : ∀ req ∈ ordered, verifyArgs req.samplingConfig = .ok (settled req.samplingConfig))
    {host : List UInt32} (hhost : host.length = maxLogitsNum) (zero : F) (stale : List F) :
    ∃ responses, promptProbs gatherAll kernels maxLogitsNum vocabSize verifyArgs isFlash zero
        ordered host stale = some (.ok responses) ∧
      List.Forall₂ (Reports gatherAll kernels (samplingBatch (ordered.map (verified settled))))
        (samplingBatch (ordered.map (verified settled))) responses := by
  generalize hbatch : ordered.map (verified settled) = batch
  have h : PromptBatch isFlash maxLogitsNum vocabSize batch := hbatch ▸ hprompts.verified settled
  have hforwardBatch : forwardBatch batch = forwardBatch ordered := by
    rw [← hbatch, forwardBatch_verified]
  obtain ⟨prepared, rows, hprepared, hrows, hroom, hforward⟩ := h.rows hkernels stale
  obtain ⟨filled, processed, scored, hfilled, hprocessed, hscored, hlength, hscoredRows⟩ :=
    hprompts.scored hkernels haccepts hbatch.symm hhost hroom
  rw [hforwardBatch] at hprepared hrows
  rw [← hlength] at hroom
  have hcopied := h.copied gatherAll zero hroom
  refine ⟨copyProbsOutputToRequests gatherAll (samplingBatch batch)
    ((samplingBatch batch).map fun req =>
      (ownCopies gatherAll vocabSize req).map fun copy => (scored[copy.2]?).getD zero), ?_, ?_⟩
  · simp only [promptProbs, sampling, hprepared, hrows, hfilled, hprocessed, hscored, hcopied,
      Option.bind_eq_bind, Option.bind_some]
  · rw [copyProbsOutputToRequests, List.zipWith_map_right, List.zipWith_self,
      List.forall₂_map_right_iff, List.forall₂_same]
    refine List.forall_mem_map.mpr fun live hmem => ⟨fun hnone => ?_, fun hcustom hgather => ?_⟩
    · rw [ownCopies, if_pos hnone, List.map_nil, List.isEmpty_nil, Bool.or_true, if_pos rfl]
    · have hreports : ¬ (live.logitsCustomLength = 0 ∨
          gathersAll gatherAll (buildProbsRequest live) = true) := by
        rw [hgather]
        exact not_or.mpr ⟨hcustom, Bool.false_ne_true⟩
      obtain ⟨hpositions, hown⟩ := h.custom_rows hmem hcustom
      have hcopies : ownCopies gatherAll vocabSize (buildProbsRequest live) =
          pushCopies vocabSize (buildProbsRequest live) 0
            (promptPositions (buildProbsRequest live)) := if_neg hreports
      have hcount : (promptPositions (buildProbsRequest live)).length =
          live.logitsCustomLength := by
        rw [← hpositions, h.count hmem, hown]
      have hsome : ((ownCopies gatherAll vocabSize (buildProbsRequest live)).map fun copy =>
          (scored[copy.2]?).getD zero).isEmpty = false := by
        rw [List.isEmpty_eq_false_iff, ← List.length_pos_iff, List.length_map, hcopies,
          pushCopies_length, hcount]
        exact Nat.pos_of_ne_zero hcustom
      refine ⟨_, if_neg (by rw [hgather, hsome]; exact Bool.false_ne_true), ?_, ?_⟩
      · rw [List.length_map, hcopies, pushCopies_length]
      · intro k position hposition
        obtain ⟨hk, hcell, hvalue⟩ := h.cell hroom hmem hcustom hposition
        have hrow := hforward live hmem k position (hpositions ▸ hposition)
        rw [hcopies, List.getElem?_map, pushCopies_getElem?, hposition, Option.map_some,
          Option.map_some, Nat.zero_add]
        dsimp only [buildProbsRequest]
        rw [List.getElem?_eq_getElem hcell, Option.getD_some, ← List.getElem?_eq_getElem hcell,
          hvalue, hscoredRows live hmem k hk, hrow]
        rfl

end Report

/-- Logits that show the sequence they are behind, and the kernels that touched them. -/
def kernelsSample : Kernels Int where
  forward tokens := (List.range 5).map fun (i : Nat) => 10 * tokens.sum + i
  process _ k values := values.map fun value => value + 100 * k
  softmax temperature values := values.map fun value => if temperature.isSome then -value else value

theorem kernelsSample_keepRows : kernelsSample.KeepRows 5 where
  forward tokens := by rw [kernelsSample, List.length_map, List.length_range]
  process req i values := List.length_map ..
  softmax temperature values := List.length_map ..

/-- A prompt with logits for its last two tokens, at temperature two, behind one that samples. -/
def batchSample : List ExecutorInferRequest :=
  [{ reqId := 8, inputTokens := [4, 4], forwardingTokens := [4, 4], samplingTokenNum := 1
     samplingConfig := { topk := 1, topp := kFloatOne, temperature := kFloatOne } },
    { rangeRequest with inputTokens := [1, 2, 3], forwardingTokens := [1, 2, 3]
                        samplingConfig := { topk := 1, topp := kFloatOne
                                            temperature := 0x40000000 }
                        requestTarget := [(kLogitsTarget,
                          { cutoffLayer := [], tokenId := [], slicePos := [(1, 2)]
                            tokenReduceMode := ⟨1⟩, inputTopLogprobsNum := 0 })] }]

theorem batchSample_fits : PromptBatch (fun _ => true) 4 5 batchSample where
  fit := List.forall_mem_cons.mpr ⟨⟨by decide, by decide, by decide⟩,
    List.forall_mem_cons.mpr ⟨⟨by decide, by decide, by decide⟩, nofun⟩⟩
  custom := by decide
  tokens := by decide
  vocab := by decide
  lengths := by decide
  size := by decide
  offsets := by decide
  room := by decide

theorem prompt_probs_reported_sample :
    ∃ responses, promptProbs ⟨0⟩ kernelsSample 4 5 Except.ok (fun _ => true) 0 batchSample
        [9, 9, 9, 9] [7, 7, 7] = some (.ok responses) ∧
      List.Forall₂ (Reports ⟨0⟩ kernelsSample (samplingBatch (batchSample.map (verified id))))
        (samplingBatch (batchSample.map (verified id))) responses :=
  prompt_probs_reported kernelsSample_keepRows batchSample_fits (fun _ _ => rfl) rfl 0 [7, 7, 7]

/-- The token behind position one is three; behind position two there is none. -/
example : promptProbs ⟨0⟩ kernelsSample 4 5 Except.ok (fun _ => true) 0 batchSample
    [9, 9, 9, 9] [7, 7, 7] = some (.ok [none, some [-33, -160]]) := by decide +kernel

end KsanaBuildAhead.Executor.PromptProbs
