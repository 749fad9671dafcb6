import KsanaBuildAhead.Executor.RopePositions
import KsanaBuildAhead.Lib.VectorAccess

/-!
# The mask of the refitted positions

The writer of the position tensor stores one number for each embedding, where it starts. The
reader takes two for each, where it starts and how long it is, so that the second half of what it
reads was left there by an earlier batch.
-/
namespace KsanaBuildAhead.Executor

open KsanaBuildAhead.Runtime KsanaBuildAhead.Lib.VectorAccess

/-- An embedding tensor, of which the host looks at the number of rows. -/
structure EmbeddingTensor where
  rows : Nat
deriving Repr, DecidableEq

/-- A request with the embeddings that replace some of its tokens. -/
structure RefitRequest extends ForwardRequest where
  pos : List Int := []
  embeddingTensors : List EmbeddingTensor := []
deriving Repr, DecidableEq

/-- `cpu_input_refit_tensor`. The memory behind `pos_tensor` keeps what earlier batches wrote. -/
structure InputRefitTensor where
  posPair : Nat → Int
  posNum : Nat
  embTensors : List EmbeddingTensor

/-- The loop of `PrepareInputRefit`. -/
structure RefitLoop where
  posOffset : Nat := 0
  refit : InputRefitTensor

def writeRefitPos (posOffset : Nat) (refit : InputRefitTensor) (entry : Int × EmbeddingTensor) :
    InputRefitTensor where
  posPair := Function.update refit.posPair refit.posNum (entry.1 + posOffset)
  posNum := refit.posNum + 1
  embTensors := refit.embTensors ++ [entry.2]

section Prepare

-- `GetType` and `GetInputIdsLength` of the request, whose source is elsewhere.
variable (getType : RefitRequest → ForwardRequestType) (getInputIdsLength : RefitRequest → Nat)

def refitRequest (loop : RefitLoop) (req : RefitRequest) : Except String RefitLoop := do
  let refit ←
    if getType req = .kFlash then do
      check (req.pos.length = req.embeddingTensors.length)
        "`input_refit_pos.size()` should be equal to `input_refit_embedding_tensors.size()`."
      .ok ((req.pos.zip req.embeddingTensors).foldl (writeRefitPos loop.posOffset) loop.refit)
    else .ok loop.refit
  .ok { posOffset := loop.posOffset + getInputIdsLength req, refit }

def prepareInputRefit (refit : InputRefitTensor) (reqs : List RefitRequest) :
    Except String InputRefitTensor := do
  let loop ← reqs.foldlM (refitRequest getType getInputIdsLength)
    { refit := { refit with posNum := 0, embTensors := [] } }
  .ok loop.refit

end Prepare

/-- An `int64_t` divided by a `size_t`, as an `int64_t`. -/
def divSize (value : Int) (size : Nat) : Int :=
  let quotient := value % 2 ^ 64 / size
  if quotient < 2 ^ 63 then quotient else quotient - 2 ^ 64

/-- The assignments `mask[j] = 1` for the positions from `pos` up to `pos + len`. -/
def markRange (mask : List Bool) (pos len : Int) : Option (List Bool) :=
  if len ≤ 0 then some mask
  else if 0 ≤ pos then writeSpan mask pos.toNat (List.replicate len.toNat true)
  else none

/-- The cells a call has read, and its mask unless it returned before the mask was complete. -/
structure ImgMask where
  reads : List Nat
  mask : Option (List Bool)
deriving Repr, DecidableEq

def imgMaskLoop (posPair : Nat → Int) (hiddenSize inputIdsLen : Nat) (reads : List Nat)
    (mask : List Bool) : List Nat → Option ImgMask
  | [] => some { reads, mask := some mask }
  | i :: rest =>
    let reads := reads ++ [i * 2, i * 2 + 1]
    let pos := posPair (i * 2)
    let len := divSize (posPair (i * 2 + 1)) hiddenSize
    if (inputIdsLen : Int) < pos + len then some { reads, mask := none }
    else (markRange mask pos len).bind fun mask =>
      imgMaskLoop posPair hiddenSize inputIdsLen reads mask rest

def prepareImgMask (hiddenSize inputIdsLen : Nat) (refit : InputRefitTensor) (posNum : Nat) :
    Option ImgMask :=
  imgMaskLoop refit.posPair hiddenSize inputIdsLen [] (List.replicate inputIdsLen false)
    (List.range posNum)

/-- `PrepareVLRequest` of an image model takes the shape of the tensor for the number of pairs.
Without a call there is no mask. -/
def prepareVLRequest (hiddenSize inputIdsLen multiTokenRequestNum : Nat)
    (refit : InputRefitTensor) : Option ImgMask :=
  if 0 < multiTokenRequestNum ∧ 0 < refit.posNum then
    prepareImgMask hiddenSize inputIdsLen refit refit.posNum
  else some { reads := [], mask := none }

/-- Where the embeddings of the batch start in the flat input, and the embeddings. -/
def refitEntries (getType : RefitRequest → ForwardRequestType)
    (getInputIdsLength : RefitRequest → Nat) (posOffset : Nat) :
    List RefitRequest → List (Int × EmbeddingTensor)
  | [] => []
  | req :: reqs =>
    (if getType req = .kFlash then
      (req.pos.zip req.embeddingTensors).map fun (entry : Int × EmbeddingTensor) =>
        (entry.1 + posOffset, entry.2)
    else []) ++ refitEntries getType getInputIdsLength (posOffset + getInputIdsLength req) reqs

/-- The entries stand in the tensor one behind the other, a number each, and the memory around
them is as it was. -/
theorem foldl_writeRefitPos (entries : List (Int × EmbeddingTensor)) (refit : InputRefitTensor) :
    (entries.foldl (writeRefitPos 0) refit).posNum = refit.posNum + entries.length ∧
      (entries.foldl (writeRefitPos 0) refit).embTensors =
        refit.embTensors ++ entries.map Prod.snd ∧
      (∀ n entry, entries[n]? = some entry →
        (entries.foldl (writeRefitPos 0) refit).posPair (refit.posNum + n) = entry.1) ∧
      ∀ i, i < refit.posNum ∨ refit.posNum + entries.length ≤ i →
        (entries.foldl (writeRefitPos 0) refit).posPair i = refit.posPair i := by
  induction entries generalizing refit with
  | nil => exact ⟨rfl, (List.append_nil _).symm, by simp, fun _ _ => rfl⟩
  | cons first entries ih =>
    obtain ⟨hnum, htensors, hwritten, hkept⟩ := ih (writeRefitPos 0 refit first)
    have hnext : (writeRefitPos 0 refit first).posNum = refit.posNum + 1 := rfl
    have hother : ∀ i, i ≠ refit.posNum →
        (writeRefitPos 0 refit first).posPair i = refit.posPair i :=
      fun i hi => Function.update_of_ne hi ..
    rw [hnext] at hnum hwritten hkept
    simp only [List.foldl_cons, List.length_cons]
    refine ⟨by omega, ?_, fun n entry hentry => ?_, fun i hi => ?_⟩
    · rw [htensors, writeRefitPos, List.append_assoc, List.singleton_append, List.map_cons]
    · cases n with
      | zero =>
        obtain rfl : first = entry := by simpa using hentry
        rw [Nat.add_zero, hkept _ (Or.inl (Nat.lt_succ_self _)), writeRefitPos]
        simp
      | succ n =>
        rw [← hwritten n entry (by simpa using hentry)]
        congr 1
        omega
    · rw [hkept i (by omega), hother i (by omega)]

section Written

variable {getType : RefitRequest → ForwardRequestType} {getInputIdsLength : RefitRequest → Nat}

theorem prepareInputRefit_ok {refit after : InputRefitTensor} {reqs : List RefitRequest}
    (h : prepareInputRefit getType getInputIdsLength refit reqs = .ok after) :
    (∀ req ∈ reqs, getType req = .kFlash → req.pos.length = req.embeddingTensors.length) ∧
      after = (refitEntries getType getInputIdsLength 0 reqs).foldl (writeRefitPos 0)
        { refit with posNum := 0, embTensors := [] } := by
  have hshift : ∀ (entries : List (Int × EmbeddingTensor)) (posOffset : Nat)
      (refit : InputRefitTensor), entries.foldl (writeRefitPos posOffset) refit =
        (entries.map fun (entry : Int × EmbeddingTensor) =>
          (entry.1 + posOffset, entry.2)).foldl (writeRefitPos 0) refit := by
    intro entries posOffset
    induction entries with
    | nil => exact fun _ => rfl
    | cons entry entries ih =>
      intro refit
      rw [List.foldl_cons, ih, List.map_cons, List.foldl_cons]
      simp [writeRefitPos]
  have hloop : ∀ (reqs : List RefitRequest) (loop last : RefitLoop),
      reqs.foldlM (refitRequest getType getInputIdsLength) loop = .ok last →
      (∀ req ∈ reqs, getType req = .kFlash → req.pos.length = req.embeddingTensors.length) ∧
        last.refit = (refitEntries getType getInputIdsLength loop.posOffset reqs).foldl
          (writeRefitPos 0) loop.refit := by
    intro reqs
    induction reqs with
    | nil =>
      intro loop last h
      obtain rfl := Except.ok.inj h
      exact ⟨fun _ hmem => absurd hmem List.not_mem_nil, rfl⟩
    | cons req reqs ih =>
      intro loop last h
      rw [List.foldlM_cons] at h
      obtain ⟨next, hnext, hrest⟩ := bind_ok h
      obtain ⟨hlengths, hlast⟩ := ih next last hrest
      rw [List.forall_mem_cons, hlast, refitEntries, List.foldl_append]
      rw [refitRequest] at hnext
      by_cases hflash : getType req = .kFlash
      · rw [if_pos hflash] at hnext
        obtain ⟨hlength, hnext⟩ := check_bind_ok hnext
        obtain rfl := Except.ok.inj hnext
        rw [if_pos hflash, ← hshift _ loop.posOffset]
        exact ⟨⟨fun _ => hlength, hlengths⟩, rfl⟩
      · rw [if_neg hflash] at hnext
        obtain rfl := Except.ok.inj hnext
        rw [if_neg hflash]
        exact ⟨⟨fun h => absurd h hflash, hlengths⟩, rfl⟩
  obtain ⟨last, hlast, h⟩ := bind_ok h
  obtain rfl := Except.ok.inj h
  exact hloop reqs _ last hlast

/-- There is nothing to write exactly if no prefill request brings a position. -/
theorem refitEntries_eq_nil {reqs : List RefitRequest} (posOffset : Nat)
    (hlengths : ∀ req ∈ reqs, getType req = .kFlash →
      req.pos.length = req.embeddingTensors.length) :
    refitEntries getType getInputIdsLength posOffset reqs = [] ↔
      ∀ req ∈ reqs, getType req = .kFlash → req.pos = [] := by
  induction reqs generalizing posOffset with
  | nil => exact ⟨fun _ _ hmem => absurd hmem List.not_mem_nil, fun _ => rfl⟩
  | cons req reqs ih =>
    rw [List.forall_mem_cons] at hlengths ⊢
    rw [refitEntries, List.append_eq_nil_iff, ih _ hlengths.2]
    refine and_congr_left fun _ => ?_
    by_cases hflash : getType req = .kFlash
    · have hlength := hlengths.1 hflash
      rw [if_pos hflash, List.map_eq_nil_iff, List.zip_eq_nil_iff]
      constructor
      · rintro (hpos | htensors) _
        · exact hpos
        · rw [htensors] at hlength
          exact List.length_eq_zero_iff.mp hlength
      · exact fun h => Or.inl (h hflash)
    · rw [if_neg hflash]
      exact iff_of_true rfl fun h => absurd h hflash

end Written

/-- A call reads only cells written for this batch, and leaves a mask of exactly the positions
the embeddings of the batch are put at, if there are any. -/
structure MarksRefit (hiddenSize inputIdsLen multiTokenRequestNum : Nat) (refit : InputRefitTensor)
    (entries : List (Int × EmbeddingTensor)) (out : ImgMask) : Prop where
  called : prepareVLRequest hiddenSize inputIdsLen multiTokenRequestNum refit = some out
  written : ∀ cell ∈ out.reads, cell < refit.posNum
  marked : entries ≠ [] → ∃ mask, out.mask = some mask ∧ mask.length = inputIdsLen ∧
    ∀ j < inputIdsLen, mask[j]? = some true ↔
      ∃ entry ∈ entries, entry.1 ≤ j ∧ (j : Int) < entry.1 + entry.2.rows

/-- A loop that completes its mask has read two cells for each of its positions. -/
theorem imgMaskLoop_reads {posPair : Nat → Int} {hiddenSize inputIdsLen : Nat} {reads : List Nat}
    {mask last : List Bool} {positions : List Nat} {out : ImgMask}
    (h : imgMaskLoop posPair hiddenSize inputIdsLen reads mask positions = some out)
    (hmask : out.mask = some last) :
    out.reads = reads ++ positions.flatMap fun i => [i * 2, i * 2 + 1] := by
  induction positions generalizing reads mask with
  | nil =>
    obtain rfl := Option.some.inj h
    exact (List.append_nil _).symm
  | cons i positions ih =>
    rw [imgMaskLoop] at h
    split at h
    · obtain rfl := Option.some.inj h
      cases hmask
    · obtain ⟨marked, -, hrest⟩ := Option.bind_eq_some_iff.mp h
      rw [ih hrest, List.flatMap_cons, List.append_assoc]

/-- For any batch whose positions are written, the reader stays with them and marks them if and
only if there are none. -/
theorem image_mask_iff (getType : RefitRequest → ForwardRequestType)
    (getInputIdsLength : RefitRequest → Nat) (hiddenSize inputIdsLen multiTokenRequestNum : Nat)
    (before refit : InputRefitTensor) (reqs : List RefitRequest)
    (hwrites : prepareInputRefit getType getInputIdsLength before reqs = .ok refit) :
    (∃ out, MarksRefit hiddenSize inputIdsLen multiTokenRequestNum refit
        (refitEntries getType getInputIdsLength 0 reqs) out) ↔
      ∀ req ∈ reqs, getType req = .kFlash → req.pos = [] := by
  obtain ⟨hlengths, rfl⟩ := prepareInputRefit_ok hwrites
  rw [← refitEntries_eq_nil 0 hlengths]
  generalize refitEntries getType getInputIdsLength 0 reqs = entries
  obtain ⟨hnum, -⟩ := foldl_writeRefitPos entries { before with posNum := 0, embTensors := [] }
  rw [Nat.zero_add] at hnum
  constructor
  · rintro ⟨out, hout⟩
    by_contra hsome
    have hpositive : 0 < entries.length := List.length_pos_iff.mpr hsome
    obtain ⟨mask, hmask, -⟩ := hout.marked hsome
    have hcalled := hout.called
    rw [prepareVLRequest] at hcalled
    split at hcalled
    · have hreads := imgMaskLoop_reads hcalled hmask
      -- the second cell of the last position lies behind the written ones
      have hread : (entries.length - 1) * 2 + 1 ∈ out.reads := by
        rw [hreads, hnum, List.nil_append]
        refine List.mem_flatMap.mpr ⟨entries.length - 1, List.mem_range.mpr (by omega), ?_⟩
        exact List.mem_cons_of_mem _ List.mem_cons_self
      have hwritten := hout.written _ hread
      rw [hnum] at hwritten
      omega
    · obtain rfl := Option.some.inj hcalled
      cases hmask
  · rintro rfl
    refine ⟨{ reads := [], mask := none }, if_neg fun h => Nat.lt_irrefl 0 h.2,
      fun _ hmem => absurd hmem List.not_mem_nil, fun hsome => absurd rfl hsome⟩

/-- A prompt of two tokens whose first one is an image. -/
def imagePrompt : RefitRequest where
  toForwardRequest :=
    buildForwardRequestFromInferRequest { reqId := 1, forwardingTokens := [11, 12] }
  pos := [0]
  embeddingTensors := [{ rows := 1 }]

/-- The tensor as an earlier batch with the length 8 in its second cell leaves it. -/
def usedRefitTensor : InputRefitTensor where
  posPair i := if i = 1 then 8 else 0
  posNum := 2
  embTensors := []

def writtenRefitTensor : InputRefitTensor := writeRefitPos 0
  { usedRefitTensor with posNum := 0 } (0, { rows := 1 })

theorem imagePrompt_writes : prepareInputRefit (fun _ => .kFlash) (fun req => req.inputIds.length)
    usedRefitTensor [imagePrompt] = .ok writtenRefitTensor := rfl

/-- A prompt without an image. -/
def plainPrompt : RefitRequest where
  toForwardRequest :=
    buildForwardRequestFromInferRequest { reqId := 2, forwardingTokens := [21, 22, 23] }
  pos := []
  embeddingTensors := []

/-- A decode step of a request whose image was computed with its prompt. -/
def imageDecode : RefitRequest where
  toForwardRequest := buildForwardRequestFromInferRequest
    { reqId := 1, inferStage := .decode, forwardingTokens := [11, 12, 13], kvCachedTokenNum := 2 }
  pos := [0]
  embeddingTensors := [{ rows := 1 }]

def refitStage (req : RefitRequest) : ForwardRequestType :=
  if req.inferStage = .context then .kFlash else .kPage

theorem image_mask_iff_sample :
    ((∃ out, MarksRefit 4 2 1 writtenRefitTensor
        (refitEntries (fun _ => .kFlash) (fun req => req.inputIds.length) 0 [imagePrompt]) out) ↔
      ∀ req ∈ [imagePrompt], ForwardRequestType.kFlash = .kFlash → req.pos = []) ∧
    ∃ out, MarksRefit 4 4 1 { usedRefitTensor with posNum := 0 }
      (refitEntries refitStage (fun req => req.inputIds.length) 0 [plainPrompt, imageDecode])
      out := by
  constructor
  · exact image_mask_iff _ _ 4 2 1 usedRefitTensor writtenRefitTensor [imagePrompt]
      imagePrompt_writes
  · refine (image_mask_iff refitStage _ 4 4 1 usedRefitTensor
      { usedRefitTensor with posNum := 0 } [plainPrompt, imageDecode] rfl).mpr ?_
    intro req hreq hflash
    rcases List.mem_pair.mp hreq with rfl | rfl
    · rfl
    · exact absurd hflash (by decide)

/-- The length is taken from the earlier batch. -/
theorem image_mask_reads_stale : ¬ ∃ out, MarksRefit 4 2 1 writtenRefitTensor
    (refitEntries (fun _ => .kFlash) (fun req => req.inputIds.length) 0 [imagePrompt]) out := by
  rintro ⟨out, hout⟩
  have hcall : prepareVLRequest 4 2 1 writtenRefitTensor =
      some { reads := [0, 1], mask := some [true, true] } := rfl
  obtain rfl := Option.some.inj (hcall.symm.trans hout.called)
  exact absurd (hout.written 1 (by decide)) (by decide)

end KsanaBuildAhead.Executor
