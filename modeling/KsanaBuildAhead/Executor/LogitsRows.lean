import KsanaBuildAhead.Executor.EmbeddingInput
import KsanaBuildAhead.Executor.InputLogprobs
import KsanaBuildAhead.Lib.VectorAccess

/-!
# Which tokens get logits

The index list names, row by row, the positions of the flat input that logits are computed for.
It has as many rows as the requests sample together, and each request writes its rows behind
those of the requests before it.
-/
namespace KsanaBuildAhead.Executor

open KsanaBuildAhead.Runtime KsanaBuildAhead.Engine KsanaBuildAhead.Lib.VectorAccess
open KsanaBuildAhead.Lib.Execution

/-- What `PrepareInputIds` has built so far. A row is `none` until it is written. -/
structure PreparedLogits extends PreparedInputIds where
  logitsIdxList : List (Option Nat)
  logitsIdxListIdx : Nat := 0
deriving Repr, DecidableEq

/-- `std::iota` over the next `length` rows, from `value` on in 64 bits. -/
def iota (prepared : PreparedLogits) (length value : Int) : Option PreparedLogits :=
  if 0 ≤ length then
    (writeSpan prepared.logitsIdxList prepared.logitsIdxListIdx
      ((List.range length.toNat).map fun (i : Nat) => some ((value + i) % 2 ^ 64).toNat)).map
      fun logitsIdxList =>
        { prepared with
          logitsIdxList
          logitsIdxListIdx := prepared.logitsIdxListIdx + length.toNat }
  else none

def iotaSlice (inputLength : Nat) (prepared : PreparedLogits) (slice : Int × Int) :
    Option PreparedLogits :=
  iota prepared (slice.2 - slice.1 + 1) (prepared.inputIds.length - inputLength + slice.1)

section Prepare

-- `ForwardRequest::GetType`, whose header is not part of the sources, is `kFlash`.
variable (isFlash : ForwardRequest → Bool)

def prepareRequestLogits (prepared : PreparedLogits) (req : ForwardRequest) :
    Option PreparedLogits :=
  let inserted : PreparedLogits :=
    { prepared with
      toPreparedInputIds := prepareRequestInputIds prepared.toPreparedInputIds req }
  if isFlash req = true ∧ 0 < req.logitsCustomLength then
    (req.requestTarget.lookup kLogitsTarget).bind fun target =>
      target.slicePos.foldlM (iotaSlice req.forwardingTokens.length) inserted
  else iota inserted req.samplingTokenNum (inserted.inputIds.length - req.samplingTokenNum)

def totalSamplingTokenNum (reqs : List ForwardRequest) : Nat :=
  (reqs.map fun req => req.samplingTokenNum).sum

def prepareLogits (reqs : List ForwardRequest) : Option PreparedLogits :=
  reqs.foldlM (prepareRequestLogits isFlash)
    { logitsIdxList := List.replicate (totalSamplingTokenNum reqs) none }

end Prepare

namespace ForwardRequest

/-- The tokens of a request that are not computed in the step. -/
def skipTokenNum (req : ForwardRequest) : Nat := max req.kvCachedTokenNum req.prefixCacheLen

def logitsSlices (req : ForwardRequest) : List (Int × Int) :=
  match req.requestTarget.lookup kLogitsTarget with
  | some target => target.slicePos
  | none => []

end ForwardRequest

def slicePositions (slice : Int × Int) : List Int :=
  (List.range (slice.2 - slice.1 + 1).toNat).map fun (i : Nat) => slice.1 + i

/-- The positions a request wants logits of: those of its slices, or its last ones. -/
def rowPositions (isFlash : ForwardRequest → Bool) (req : ForwardRequest) : List Int :=
  if isFlash req = true ∧ 0 < req.logitsCustomLength then req.logitsSlices.flatMap slicePositions
  else (List.range req.samplingTokenNum).map fun (i : Nat) =>
    req.forwardingTokens.length - req.samplingTokenNum + i

/-- The index list is complete, and the rows of each request, from its `logits_offset` on, are
the tokens it wants logits of, in its own segment of the flat input. -/
structure LaysOutRows (isFlash : ForwardRequest → Bool) (reqs : List ForwardRequest)
    (logitsIdxList : List (Option Nat)) : Prop where
  length : logitsIdxList.length = totalSamplingTokenNum reqs
  count : ∀ req ∈ reqs, (rowPositions isFlash req).length = req.samplingTokenNum
  rows : ∀ before req after, reqs = before ++ req :: after →
    ∀ (k : Nat) (position : Int), (rowPositions isFlash req)[k]? = some position →
      req.skipTokenNum ≤ position ∧ position < req.forwardingTokens.length ∧
      logitsIdxList[req.logitsOffset + k]? = some (some
        ((before.flatMap ForwardRequest.inputIds).length + (position - req.skipTokenNum).toNat))

/-- The rows written so far, and room for more behind them. -/
structure Written (prepared : PreparedLogits) (rows : List Nat) (room : Nat) : Prop where
  list : prepared.logitsIdxList = rows.map some ++ List.replicate room none
  idx : prepared.logitsIdxListIdx = rows.length

def iotaRows (length : Nat) (value : Int) : List Nat :=
  (List.range length).map fun (i : Nat) => (value + i).toNat

section Write

variable {prepared : PreparedLogits} {rows : List Nat} {room : Nat}

theorem Written.iota {length : Nat} {value : Int} (h : Written prepared rows (length + room))
    (hin : ∀ i < length, 0 ≤ value + i ∧ value + i < 2 ^ 64) :
    ∃ after, iota prepared length value = some after ∧
      Written after (rows ++ iotaRows length value) room ∧
      after.toPreparedInputIds = prepared.toPreparedInputIds := by
  have hvalues : ((List.range length).map fun (i : Nat) => some ((value + i) % 2 ^ 64).toNat) =
      (iotaRows length value).map some := by
    rw [iotaRows, List.map_map]
    refine List.map_congr_left fun i hi => ?_
    obtain ⟨hnonneg, hlt⟩ := hin i (List.mem_range.mp hi)
    rw [Int.emod_eq_of_lt hnonneg hlt]
    rfl
  have hlength : ((iotaRows length value).map some).length = length := by
    rw [List.length_map, iotaRows, List.length_map, List.length_range]
  have hroom : ((iotaRows length value).map some).length ≤
      (List.replicate (length + room) (none : Option Nat)).length := by
    rw [hlength, List.length_replicate]
    exact Nat.le_add_right _ _
  have hwrite := writeSpan_append (rows.map some) _ hroom
  rw [hlength, List.drop_replicate, Nat.add_sub_cancel_left, List.length_map, ← List.map_append]
    at hwrite
  refine ⟨{ prepared with
    logitsIdxList := (rows ++ iotaRows length value).map some ++ List.replicate room none
    logitsIdxListIdx := rows.length + length }, ?_, ⟨rfl, ?_⟩, rfl⟩
  · rw [Executor.iota, if_pos (Int.natCast_nonneg _), Int.toNat_natCast, hvalues, h.list, h.idx,
      hwrite]
    rfl
  · rw [List.length_append, iotaRows, List.length_map, List.length_range]

theorem slicePositions_length (slice : Int × Int) :
    (slicePositions slice).length = (slice.2 - slice.1 + 1).toNat := by
  rw [slicePositions, List.length_map, List.length_range]

theorem mem_slicePositions {slice : Int × Int} {position : Int} :
    position ∈ slicePositions slice ↔ slice.1 ≤ position ∧ position ≤ slice.2 := by
  rw [slicePositions, List.mem_map]
  constructor
  · rintro ⟨i, hi, rfl⟩
    have hlt := List.mem_range.mp hi
    omega
  · rintro ⟨hleft, hright⟩
    exact ⟨(position - slice.1).toNat, List.mem_range.mpr (by omega), by omega⟩

/-- A slice writes its positions, counted from where position 0 of the request would stand. -/
theorem Written.slice {inputLength : Nat} {slice : Int × Int}
    (h : Written prepared rows ((slicePositions slice).length + room))
    (hslice : slice.1 ≤ slice.2)
    (hin : ∀ position ∈ slicePositions slice,
      0 ≤ prepared.inputIds.length - inputLength + position ∧
        prepared.inputIds.length - inputLength + position < 2 ^ 64) :
    ∃ after, iotaSlice inputLength prepared slice = some after ∧
      Written after (rows ++ (slicePositions slice).map fun (position : Int) =>
        (prepared.inputIds.length - inputLength + position).toNat) room ∧
      after.toPreparedInputIds = prepared.toPreparedInputIds := by
  have hlength : slice.2 - slice.1 + 1 = ((slice.2 - slice.1 + 1).toNat : Int) := by omega
  rw [slicePositions_length] at h
  have hvalues : ∀ i < (slice.2 - slice.1 + 1).toNat,
      0 ≤ (prepared.inputIds.length - inputLength + slice.1 : Int) + i ∧
        (prepared.inputIds.length - inputLength + slice.1 : Int) + i < 2 ^ 64 := by
    intro i hi
    have hmem : slice.1 + (i : Int) ∈ slicePositions slice := mem_slicePositions.mpr (by omega)
    have hposition := hin _ hmem
    omega
  obtain ⟨after, hafter, hwritten, hsame⟩ := h.iota hvalues
  have hrows : (slicePositions slice).map (fun (position : Int) =>
      (prepared.inputIds.length - inputLength + position).toNat) =
        iotaRows (slice.2 - slice.1 + 1).toNat
          (prepared.inputIds.length - inputLength + slice.1) := by
    rw [slicePositions, iotaRows, List.map_map]
    refine List.map_congr_left fun i _ => ?_
    rw [Function.comp_apply, Int.add_assoc]
  rw [hrows]
  exact ⟨after, by rw [iotaSlice, hlength]; exact hafter, hwritten, hsame⟩

theorem Written.slices {inputLength : Nat} {slices : List (Int × Int)}
    (h : Written prepared rows ((slices.flatMap slicePositions).length + room))
    (hslices : ∀ slice ∈ slices, slice.1 ≤ slice.2)
    (hin : ∀ position ∈ slices.flatMap slicePositions,
      0 ≤ prepared.inputIds.length - inputLength + position ∧
        prepared.inputIds.length - inputLength + position < 2 ^ 64) :
    ∃ after, slices.foldlM (iotaSlice inputLength) prepared = some after ∧
      Written after (rows ++ (slices.flatMap slicePositions).map fun (position : Int) =>
        (prepared.inputIds.length - inputLength + position).toNat) room ∧
      after.toPreparedInputIds = prepared.toPreparedInputIds := by
  induction slices generalizing prepared rows with
  | nil =>
    refine ⟨prepared, rfl, ?_, rfl⟩
    rw [List.flatMap_nil, List.length_nil, Nat.zero_add] at h
    rw [List.flatMap_nil, List.map_nil, List.append_nil]
    exact h
  | cons slice slices ih =>
    rw [List.flatMap_cons] at h hin
    rw [List.length_append, Nat.add_assoc] at h
    obtain ⟨first, hfirst, hwritten, hsame⟩ := h.slice (hslices slice List.mem_cons_self)
      fun position hmem => hin position (List.mem_append_left _ hmem)
    have hsize : first.inputIds.length = prepared.inputIds.length := by rw [hsame]
    obtain ⟨after, hafter, hall, hkept⟩ := ih hwritten
      (fun other hother => hslices other (List.mem_cons_of_mem slice hother))
      fun position hmem => by
        rw [hsize]
        exact hin position (List.mem_append_right _ hmem)
    refine ⟨after, ?_, ?_, hkept.trans hsame⟩
    · rw [List.foldlM_cons, hfirst]
      exact hafter
    · rw [hsize, List.append_assoc] at hall
      rw [List.flatMap_cons, List.map_append]
      exact hall

end Write

/-- The rows of a request whose tokens start at `start` of the flat input. -/
def requestRows (isFlash : ForwardRequest → Bool) (start : Nat) (req : ForwardRequest) : List Nat :=
  (rowPositions isFlash req).map fun (position : Int) => start + (position - req.skipTokenNum).toNat

/-- The rows a request asks for are as many as it samples, and among the tokens it computes. -/
structure RowsFit (isFlash : ForwardRequest → Bool) (req : ForwardRequest) : Prop where
  count : (rowPositions isFlash req).length = req.samplingTokenNum
  inside : ∀ position ∈ rowPositions isFlash req,
    req.skipTokenNum ≤ position ∧ position < req.forwardingTokens.length
  slices : isFlash req = true ∧ 0 < req.logitsCustomLength →
    (req.requestTarget.lookup kLogitsTarget).isSome = true ∧
      ∀ slice ∈ req.logitsSlices, slice.1 ≤ slice.2

section Request

variable {isFlash : ForwardRequest → Bool} {prepared : PreparedLogits} {rows : List Nat}
  {room : Nat} {req : ForwardRequest}

theorem inputIds_length (req : ForwardRequest) :
    req.inputIds.length = req.forwardingTokens.length - req.skipTokenNum := List.length_drop

theorem Written.request (h : Written prepared rows (req.samplingTokenNum + room))
    (hfit : RowsFit isFlash req)
    (hsize : prepared.inputIds.length + req.inputIds.length < 2 ^ 64) :
    ∃ after, prepareRequestLogits isFlash prepared req = some after ∧
      Written after (rows ++ requestRows isFlash prepared.inputIds.length req) room ∧
      after.toPreparedInputIds = prepareRequestInputIds prepared.toPreparedInputIds req := by
  obtain ⟨hcount, hinside, hslices⟩ := hfit
  let inserted : PreparedLogits :=
    { prepared with
      toPreparedInputIds := prepareRequestInputIds prepared.toPreparedInputIds req }
  have hlength : inserted.inputIds.length = prepared.inputIds.length + req.inputIds.length :=
    List.length_append
  have hinput := inputIds_length req
  have hplace : ∀ position ∈ rowPositions isFlash req,
      inserted.inputIds.length - req.forwardingTokens.length + position =
        ((prepared.inputIds.length + (position - req.skipTokenNum).toNat : Nat) : Int) := by
    intro position hmem
    have hposition := hinside position hmem
    omega
  have hrows : (rowPositions isFlash req).map (fun (position : Int) =>
      (inserted.inputIds.length - req.forwardingTokens.length + position).toNat) =
        requestRows isFlash prepared.inputIds.length req := by
    refine List.map_congr_left fun position hmem => ?_
    rw [hplace position hmem]
    rfl
  have hin : ∀ position ∈ rowPositions isFlash req,
      0 ≤ inserted.inputIds.length - req.forwardingTokens.length + position ∧
        inserted.inputIds.length - req.forwardingTokens.length + position < 2 ^ 64 := by
    intro position hmem
    have hposition := hinside position hmem
    omega
  have hstart : Written inserted rows ((rowPositions isFlash req).length + room) := by
    rw [hcount]
    exact ⟨h.list, h.idx⟩
  rw [prepareRequestLogits, ← hrows]
  by_cases hcustom : isFlash req = true ∧ 0 < req.logitsCustomLength
  · obtain ⟨hfound, hordered⟩ := hslices hcustom
    obtain ⟨target, htarget⟩ := Option.isSome_iff_exists.mp hfound
    have htargetSlices : req.logitsSlices = target.slicePos := by
      rw [ForwardRequest.logitsSlices, htarget]
    rw [rowPositions, if_pos hcustom, htargetSlices] at hstart hin ⊢
    rw [if_pos hcustom, htarget, Option.bind_some]
    rw [htargetSlices] at hordered
    exact hstart.slices hordered hin
  · rw [rowPositions, if_neg hcustom] at hstart hin ⊢
    rw [if_neg hcustom]
    rw [List.length_map, List.length_range] at hstart
    have hvalues : ∀ i < req.samplingTokenNum,
        0 ≤ (inserted.inputIds.length - req.samplingTokenNum : Int) + i ∧
          (inserted.inputIds.length - req.samplingTokenNum : Int) + i < 2 ^ 64 := by
      intro i hi
      have hmem := hin _ (List.mem_map_of_mem (List.mem_range.mpr hi))
      omega
    obtain ⟨after, hafter, hwritten, hsame⟩ := hstart.iota hvalues
    refine ⟨after, hafter, ?_, hsame⟩
    rw [List.map_map]
    rw [iotaRows] at hwritten
    have hsame : (List.range req.samplingTokenNum).map (fun (i : Nat) =>
        (inserted.inputIds.length - req.samplingTokenNum + (i : Int)).toNat) =
        (List.range req.samplingTokenNum).map ((fun (position : Int) =>
          (inserted.inputIds.length - req.forwardingTokens.length + position).toNat) ∘
            fun (i : Nat) => req.forwardingTokens.length - req.samplingTokenNum + (i : Int)) := by
      refine List.map_congr_left fun i _ => congrArg Int.toNat ?_
      simp only
      omega
    rw [← hsame]
    exact hwritten

end Request

section Batch

variable {isFlash : ForwardRequest → Bool}

/-- The rows of the requests one behind the other, the first request's tokens at `start`. -/
def batchRows (isFlash : ForwardRequest → Bool) (start : Nat) : List ForwardRequest → List Nat
  | [] => []
  | req :: reqs => requestRows isFlash start req ++
      batchRows isFlash (start + req.inputIds.length) reqs

theorem batchRows_append (start : Nat) (before after : List ForwardRequest) :
    batchRows isFlash start (before ++ after) = batchRows isFlash start before ++
      batchRows isFlash (start + (before.flatMap ForwardRequest.inputIds).length) after := by
  induction before generalizing start with
  | nil => rfl
  | cons req before ih =>
    rw [List.cons_append, batchRows, batchRows, ih, List.append_assoc, List.flatMap_cons,
      List.length_append, Nat.add_assoc]

theorem batchRows_length {start : Nat} {reqs : List ForwardRequest}
    (hcount : ∀ req ∈ reqs, (rowPositions isFlash req).length = req.samplingTokenNum) :
    (batchRows isFlash start reqs).length = totalSamplingTokenNum reqs := by
  induction reqs generalizing start with
  | nil => rfl
  | cons req reqs ih =>
    rw [batchRows, List.length_append, requestRows, List.length_map,
      hcount req List.mem_cons_self,
      ih fun other hmem => hcount other (List.mem_cons_of_mem req hmem)]
    rfl

theorem Written.batch {prepared : PreparedLogits} {rows : List Nat} {room : Nat}
    {reqs : List ForwardRequest} (h : Written prepared rows (totalSamplingTokenNum reqs + room))
    (hfit : ∀ req ∈ reqs, RowsFit isFlash req)
    (hsize : prepared.inputIds.length + (reqs.flatMap ForwardRequest.inputIds).length < 2 ^ 64) :
    ∃ after, reqs.foldlM (prepareRequestLogits isFlash) prepared = some after ∧
      Written after (rows ++ batchRows isFlash prepared.inputIds.length reqs) room ∧
      after.toPreparedInputIds = reqs.foldl prepareRequestInputIds prepared.toPreparedInputIds := by
  induction reqs generalizing prepared rows with
  | nil =>
    refine ⟨prepared, rfl, ?_, rfl⟩
    rw [batchRows, List.append_nil]
    rw [totalSamplingTokenNum, List.map_nil, List.sum_nil, Nat.zero_add] at h
    exact h
  | cons req reqs ih =>
    rw [List.flatMap_cons, List.length_append] at hsize
    rw [totalSamplingTokenNum, List.map_cons, List.sum_cons, Nat.add_assoc] at h
    obtain ⟨first, hfirst, hwritten, hinput⟩ :=
      h.request (hfit req List.mem_cons_self) (by omega)
    have hlength : first.inputIds.length = prepared.inputIds.length + req.inputIds.length := by
      rw [hinput]
      exact List.length_append
    obtain ⟨after, hafter, hall, hrest⟩ := ih hwritten
      (fun other hmem => hfit other (List.mem_cons_of_mem req hmem)) (by omega)
    refine ⟨after, ?_, ?_, ?_⟩
    · rw [List.foldlM_cons, hfirst]
      exact hafter
    · rw [batchRows, ← List.append_assoc, ← hlength]
      exact hall
    · rw [hrest, hinput]
      rfl

/-- The rows start where the rows of the requests before them end. -/
def OffsetsReset (reqs : List ForwardRequest) : Prop :=
  ∀ before req after, reqs = before ++ req :: after →
    req.logitsOffset = totalSamplingTokenNum before

/-- A batch in any order, with its rows assigned, as `Forward` copies it. -/
def forwardBatch (ordered : List ExecutorInferRequest) : List ForwardRequest :=
  (buildForwardRequests (resetLogitsOffsetsAfterReorder 0 ordered)).2

theorem forwardBatch_offsets (ordered : List ExecutorInferRequest) :
    OffsetsReset (forwardBatch ordered) := by
  intro before req after h
  rw [forwardBatch, buildForwardRequests, List.map_map] at h
  obtain ⟨start, rest, hreset, rfl, hrest⟩ := List.map_eq_append_iff.mp h
  obtain ⟨live, tail, rfl, rfl, -⟩ := List.map_eq_cons_iff.mp hrest
  have hoffset := resetLogitsOffsets_split hreset
  have hrows : totalSamplingTokenNum (start.map (buildForwardRequestFromInferRequest ∘
      fun req => { req with step := req.step + 1 })) = samplingRows start := by
    rw [totalSamplingTokenNum, List.map_map]
    rfl
  rw [hrows]
  exact hoffset.trans (Nat.zero_add _)

/-- Requests whose rows fit are laid out; the flat input is the one of the embedding. -/
theorem prepareLogits_of_fit {reqs : List ForwardRequest} (hfit : ∀ req ∈ reqs, RowsFit isFlash req)
    (hoffsets : OffsetsReset reqs)
    (hsize : (reqs.flatMap ForwardRequest.inputIds).length < 2 ^ 64) :
    ∃ prepared, prepareLogits isFlash reqs = some prepared ∧
      prepared.toPreparedInputIds = prepareInputIds reqs ∧
      LaysOutRows isFlash reqs prepared.logitsIdxList := by
  have hcount : ∀ req ∈ reqs, (rowPositions isFlash req).length = req.samplingTokenNum :=
    fun req hmem => (hfit req hmem).count
  have hempty : Written { logitsIdxList := List.replicate (totalSamplingTokenNum reqs) none } []
      (totalSamplingTokenNum reqs + 0) := ⟨rfl, rfl⟩
  obtain ⟨prepared, hprepared, hwritten, hinput⟩ :=
    hempty.batch hfit (by rw [List.length_nil, Nat.zero_add]; exact hsize)
  have hlist : prepared.logitsIdxList = (batchRows isFlash 0 reqs).map some := by
    rw [hwritten.list, List.replicate_zero, List.append_nil]
    rfl
  refine ⟨prepared, hprepared, hinput, ?_, hcount, ?_⟩
  · rw [hlist, List.length_map, batchRows_length hcount]
  · rintro before req after rfl k position hposition
    have hinside := (hfit req (List.mem_append_right _ List.mem_cons_self)).inside position
      (List.mem_of_getElem? hposition)
    refine ⟨hinside.1, hinside.2, ?_⟩
    obtain ⟨hk, -⟩ := List.getElem?_eq_some_iff.mp hposition
    have hbefore : (batchRows isFlash 0 before).length = req.logitsOffset := by
      rw [hoffsets before req after rfl]
      exact batchRows_length fun other hmem => hcount other (List.mem_append_left _ hmem)
    have hrow : (requestRows isFlash (0 + (before.flatMap ForwardRequest.inputIds).length)
        req)[k]? = some ((before.flatMap ForwardRequest.inputIds).length +
          (position - req.skipTokenNum).toNat) := by
      rw [requestRows, List.getElem?_map, hposition, Nat.zero_add]
      rfl
    rw [hlist, List.getElem?_map, batchRows_append, ← hbefore,
      List.getElem?_append_right (Nat.le_add_right _ _), Nat.add_sub_cancel_left, batchRows,
      List.getElem?_append_left (by rw [requestRows, List.length_map]; exact hk), hrow]
    rfl

end Batch

/-- The custom range of a request: disjoint slices of the prompt, together as long as announced. -/
structure CustomRange (slicePos : List (Int × Int)) (promptLen customLength : Nat) : Prop where
  inside : ∀ slice ∈ slicePos, 0 ≤ slice.1 ∧ slice.1 ≤ slice.2 ∧ slice.2 < promptLen
  disjoint : slicePos.Pairwise fun a b => a.2 < b.1 ∨ b.2 < a.1
  total : (slicePos.map fun slice => (slice.2 - slice.1 + 1).toNat).sum = customLength

def customSlices (launched : InferRequest) : List (Int × Int) :=
  match launched.requestTarget.lookup kLogitsTarget with
  | some target => target.slicePos
  | none => []

/-- The tokens of a launched sequence that its step does not compute. -/
def launchedSkip (launched : InferRequest) : Nat :=
  max launched.kvCachedTokenNum launched.prefixCacheLen.toNat

/-- A request of the batch: its launch, and what was received of it. -/
structure RowMember [DraftTokensApi] (fastPath : Bool) where
  before : InferRequest
  usePlaceholder : Bool
  launched : InferRequest
  received : ExecutorInferRequest
  launch : before.launchPlanningTask fastPath usePlaceholder = .ok launched
  forwards : Forwards launched received
  sampling : received.samplingTokenNum = launched.samplingTokenNum
  custom : received.logitsCustomLength = launched.logitsCustomLength
  target : received.requestTarget = launched.requestTarget
  found : 0 < launched.logitsCustomLength →
    (launched.requestTarget.lookup kLogitsTarget).isSome = true
  range : 0 < launched.logitsCustomLength → CustomRange (customSlices launched)
    launched.inputTokens.length launched.logitsCustomLength

/-- A launch fits its rows. With a custom range it samples as many rows as the range has, and
computes every token of it; otherwise it is a middle chunk, or computes a token in front of its
drafts. -/
def FitsRows (launched : InferRequest) (isFlash : Bool) : Prop :=
  if isFlash = true ∧ 0 < launched.logitsCustomLength then
    launched.samplingTokenNum = launched.logitsCustomLength ∧
      ∀ slice ∈ customSlices launched,
        launchedSkip launched ≤ slice.1 ∧ slice.2 < launched.forwardingTokens.length
  else
    launched.forwardStepKind = .prefillChunkMid ∨
      launchedSkip launched + launched.forwardingTokensDraftNum < launched.forwardingTokens.length

/-- What of a launch decides its rows, in the copy `Forward` works on. -/
structure Carries (launched : InferRequest) (req : ForwardRequest) : Prop where
  sampling : req.samplingTokenNum = launched.samplingTokenNum
  custom : req.logitsCustomLength = launched.logitsCustomLength
  slices : req.logitsSlices = customSlices launched
  found : req.requestTarget.lookup kLogitsTarget = launched.requestTarget.lookup kLogitsTarget
  forwarding : req.forwardingTokens = launched.forwardingTokens
  skip : req.skipTokenNum = launchedSkip launched

theorem rowPositions_custom_length {isFlash : ForwardRequest → Bool} {req : ForwardRequest}
    {promptLen : Nat} (hcustom : isFlash req = true ∧ 0 < req.logitsCustomLength)
    (hrange : CustomRange req.logitsSlices promptLen req.logitsCustomLength) :
    (rowPositions isFlash req).length = req.logitsCustomLength := by
  rw [rowPositions, if_pos hcustom, List.length_flatMap, ← hrange.total]
  exact congrArg List.sum (List.map_congr_left fun slice _ => slicePositions_length slice)

section Launched

variable [DraftTokensApi] {fastPath : Bool}

/-- The members as one batch. -/
def batchRequests (members : List (RowMember fastPath)) : List ForwardRequest :=
  forwardBatch (members.map RowMember.received)

/-- A middle chunk samples nothing, every other step one token and one for each draft. -/
theorem launch_samplingTokenNum {req launched : InferRequest} {usePlaceholder : Bool}
    (h : req.launchPlanningTask fastPath usePlaceholder = .ok launched) :
    (launched.forwardStepKind = .prefillChunkMid ∧ launched.samplingTokenNum = 0) ∨
      (launched.forwardStepKind ≠ .prefillChunkMid ∧
        launched.samplingTokenNum = 1 + launched.forwardingTokensDraftNum) := by
  obtain ⟨-, -, -, hcase⟩ := InferRequest.launchPlanningTask_cases h
  cases hcase with
  | chunk kv cacheLen hprefill =>
    rw [InferRequest.launchedChunk]
    by_cases hlast : req.plansLastChunk
    · right
      simp only [if_pos hlast]
      exact ⟨by decide, trivial⟩
    · left
      simp only [if_neg hlast]
      exact ⟨trivial, trivial⟩
  | block kv cacheLen => exact Or.inr ⟨by simp [InferRequest.launchedBlock], rfl⟩
  | real kv cacheLen => exact Or.inr ⟨by simp [InferRequest.launchedReal], rfl⟩

theorem RowMember.carries (member : RowMember fastPath) (logitsOffset : Nat) (step : Int) :
    Carries member.launched (buildForwardRequestFromInferRequest
      { member.received with logitsOffset := logitsOffset, step := step }) where
  sampling := member.sampling
  custom := member.custom
  slices := by
    rw [ForwardRequest.logitsSlices, customSlices, ← member.target]
    rfl
  found := by
    rw [← member.target]
    rfl
  forwarding := member.forwards.forwarding
  skip := by
    rw [launchedSkip, ← member.forwards.kvCached, ← member.forwards.prefixLen]
    show max member.received.kvCachedTokenNum (member.received.prefixCacheLen.toNat +
      member.received.flexibleCachedCopyTaskNum) = _
    rw [member.forwards.noFlexible, Nat.add_zero]

/-- The rows of a launched request fit exactly when its launch fits them. -/
theorem rowsFit_iff {isFlash : ForwardRequest → Bool} (member : RowMember fastPath)
    {req : ForwardRequest} (hcarries : Carries member.launched req) :
    RowsFit isFlash req ↔ FitsRows member.launched (isFlash req) := by
  have hsampling := launch_samplingTokenNum member.launch
  rw [← hcarries.sampling] at hsampling
  rw [FitsRows, ← hcarries.custom, ← hcarries.slices, ← hcarries.forwarding, ← hcarries.skip,
    ← hcarries.sampling]
  by_cases hcustom : isFlash req = true ∧ 0 < req.logitsCustomLength
  · rw [if_pos hcustom]
    have hlaunched : 0 < member.launched.logitsCustomLength := hcarries.custom ▸ hcustom.2
    have hrange := member.range hlaunched
    rw [← hcarries.slices, ← hcarries.custom] at hrange
    have hlength := rowPositions_custom_length hcustom hrange
    have hmem : ∀ position, position ∈ rowPositions isFlash req ↔
        ∃ slice ∈ req.logitsSlices, slice.1 ≤ position ∧ position ≤ slice.2 := by
      intro position
      rw [rowPositions, if_pos hcustom, List.mem_flatMap]
      exact exists_congr fun slice => and_congr_right fun _ => mem_slicePositions
    constructor
    · rintro ⟨hcount, hinside, hslices⟩
      refine ⟨hcount.symm.trans hlength, fun slice hslice => ?_⟩
      have hordered := (hslices hcustom).2 slice hslice
      have hleft := hinside _ ((hmem _).mpr ⟨slice, hslice, Int.le_refl _, hordered⟩)
      have hright := hinside _ ((hmem _).mpr ⟨slice, hslice, hordered, Int.le_refl _⟩)
      exact ⟨hleft.1, hright.2⟩
    · rintro ⟨hcount, hslices⟩
      refine ⟨hlength.trans hcount.symm, fun position hposition => ?_, fun _ => ⟨?_, ?_⟩⟩
      · obtain ⟨slice, hslice, hleft, hright⟩ := (hmem position).mp hposition
        have hbounds := hslices slice hslice
        omega
      · rw [hcarries.found]
        exact member.found hlaunched
      · exact fun slice hslice => (hrange.inside slice hslice).2.1
  · rw [if_neg hcustom]
    have hmem : ∀ position, position ∈ rowPositions isFlash req ↔ ∃ i < req.samplingTokenNum,
        (req.forwardingTokens.length : Int) - req.samplingTokenNum + i = position := by
      intro position
      rw [rowPositions, if_neg hcustom, List.mem_map]
      exact exists_congr fun i => and_congr_left fun _ => List.mem_range
    constructor
    · rintro ⟨-, hinside, -⟩
      rcases hsampling with ⟨hmid, -⟩ | ⟨-, hdrafts⟩
      · exact Or.inl hmid
      · right
        have hfirst := hinside _ ((hmem _).mpr ⟨0, by omega, rfl⟩)
        omega
    · intro hfits
      refine ⟨?_, fun position hposition => ?_, fun habsurd => absurd habsurd hcustom⟩
      · rw [rowPositions, if_neg hcustom, List.length_map, List.length_range]
      · obtain ⟨i, hi, rfl⟩ := (hmem position).mp hposition
        rcases hsampling with ⟨-, hnone⟩ | ⟨hkind, hdrafts⟩
        · omega
        · have hroom := hfits.resolve_left hkind
          omega

/-- With local KV and a chunk inside the prompt, a launch computes a token in front of its drafts
unless a decode step is launched with nothing that was generated and no placeholder for it. -/
theorem launch_computes_iff {req launched : InferRequest} {usePlaceholder : Bool}
    (h : req.launchPlanningTask fastPath usePlaceholder = .ok launched)
    (hlocal : req.pdV2.kvFromRemote = false)
    (hchunk : req.planningTask.workload.prefillStartOffset +
      req.planningTask.workload.prefillTokenNum ≤ req.prefillingTokens.length) :
    (launched.forwardStepKind = .prefillChunkMid ∨ launchedSkip launched +
      launched.forwardingTokensDraftNum < launched.forwardingTokens.length) ↔
    0 < req.planningTask.workload.prefillTokenNum ∨ (usePlaceholder = true ∧ fastPath = true) ∨
      req.generatedTokens ≠ [] := by
  have hprefix := launch_prefixCacheLen hlocal h
  rw [launchedSkip, hprefix, Int.toNat_natCast, max_self]
  obtain ⟨-, -, -, hcase⟩ := InferRequest.launchPlanningTask_cases h
  cases hcase with
  | chunk kv cacheLen hprefill hcached =>
    refine iff_of_true ?_ (Or.inl hprefill)
    by_cases hlast : req.plansLastChunk
    · right
      have hlength : (req.chunkTokens req.planningTask.workload).length =
          req.planningTask.workload.prefillStartOffset +
            req.planningTask.workload.prefillTokenNum := by
        rw [InferRequest.chunkTokens]
        split
        · rw [List.length_append, List.length_take, List.length_drop]
          omega
        · rw [List.length_take]
          omega
      simp only [InferRequest.launchedChunk, if_pos hlast, hcached (Or.inl hlocal),
        List.length_append, hlength]
      omega
    · left
      simp only [InferRequest.launchedChunk, if_neg hlast]
  | block kv cacheLen hdecode hplaceholder hcached =>
    refine iff_of_true (Or.inr ?_) (Or.inr (Or.inl ⟨hplaceholder.1, hplaceholder.2.1⟩))
    simp only [InferRequest.launchedBlock, hcached (Or.inl hlocal), List.length_append,
      List.length_replicate]
    omega
  | real kv cacheLen hdecode hreal hroom hcached =>
    have hkind : (req.launchedReal kv cacheLen).forwardStepKind ≠ .prefillChunkMid := by
      simp [InferRequest.launchedReal]
    rw [or_iff_right hkind, or_iff_right (by omega)]
    have hgenerated : (usePlaceholder = true ∧ fastPath = true) ∨ req.generatedTokens ≠ [] ↔
        req.generatedTokens ≠ [] := by
      refine or_iff_right_of_imp fun hplaceholder hnone => ?_
      exact hreal ⟨hplaceholder.1, hplaceholder.2, hnone⟩
    rw [hgenerated, ← List.length_pos_iff]
    simp only [InferRequest.launchedReal, hcached (Or.inl hlocal), List.length_append]
    omega

omit [DraftTokensApi] in
theorem resetLogitsOffsets_getElem? {logitsOffset n : Nat} {ordered : List ExecutorInferRequest}
    {live : ExecutorInferRequest}
    (h : (resetLogitsOffsetsAfterReorder logitsOffset ordered)[n]? = some live) :
    ∃ own offset, ordered[n]? = some own ∧ live = { own with logitsOffset := offset } := by
  induction ordered generalizing logitsOffset n with
  | nil => cases h
  | cons first ordered ih =>
    cases n with
    | zero => exact ⟨first, logitsOffset, rfl, (Option.some.inj h).symm⟩
    | succ n => exact ih h

/-- A request of the batch carries the launch of the member at its place. -/
theorem batchRequests_carries {members : List (RowMember fastPath)} {n : Nat} {req : ForwardRequest}
    (h : (batchRequests members)[n]? = some req) :
    ∃ member, members[n]? = some member ∧ Carries member.launched req := by
  rw [batchRequests, forwardBatch, buildForwardRequests, List.getElem?_map, List.getElem?_map] at h
  obtain ⟨advanced, hadvanced, rfl⟩ := Option.map_eq_some_iff.mp h
  obtain ⟨live, hlive, rfl⟩ := Option.map_eq_some_iff.mp hadvanced
  obtain ⟨own, offset, hown, rfl⟩ := resetLogitsOffsets_getElem? hlive
  rw [List.getElem?_map] at hown
  obtain ⟨member, hmember, rfl⟩ := Option.map_eq_some_iff.mp hown
  exact ⟨member, hmember, member.carries offset _⟩

/-- In every batch of launched requests, in any order, the index list is complete and names for
each request its own tokens, if and only if every launch fits its rows. -/
theorem logits_rows_laid_out (isFlash : ForwardRequest → Bool) (members : List (RowMember fastPath))
    (hsize : ((batchRequests members).flatMap ForwardRequest.inputIds).length < 2 ^ 64) :
    (∃ prepared, prepareLogits isFlash (batchRequests members) = some prepared ∧
      LaysOutRows isFlash (batchRequests members) prepared.logitsIdxList) ↔
    ∀ (n : Nat) member req, members[n]? = some member → (batchRequests members)[n]? = some req →
      FitsRows member.launched (isFlash req) := by
  constructor
  · rintro ⟨prepared, -, hlaid⟩ n member req hmember hreq
    obtain ⟨found, hfound, hcarries⟩ := batchRequests_carries hreq
    obtain rfl := Option.some.inj (hmember.symm.trans hfound)
    refine (rowsFit_iff member hcarries).mp ⟨?_, ?_, ?_⟩
    · exact hlaid.count req (List.mem_of_getElem? hreq)
    · intro position hposition
      obtain ⟨k, hk⟩ := List.mem_iff_getElem?.mp hposition
      obtain ⟨hn, rfl⟩ := List.getElem?_eq_some_iff.mp hreq
      have hsplit : batchRequests members = (batchRequests members).take n ++
          (batchRequests members)[n] :: (batchRequests members).drop (n + 1) := by
        rw [← List.drop_eq_getElem_cons hn, List.take_append_drop]
      have hrow := hlaid.rows _ _ _ hsplit k position hk
      exact ⟨hrow.1, hrow.2.1⟩
    · intro hcustom
      have hlaunched : 0 < member.launched.logitsCustomLength := hcarries.custom ▸ hcustom.2
      rw [hcarries.found, hcarries.slices]
      exact ⟨member.found hlaunched, fun slice hslice =>
        ((member.range hlaunched).inside slice hslice).2.1⟩
  · intro hfits
    have hfit : ∀ req ∈ batchRequests members, RowsFit isFlash req := by
      intro req hreq
      obtain ⟨n, hn⟩ := List.mem_iff_getElem?.mp hreq
      obtain ⟨member, hmember, hcarries⟩ := batchRequests_carries hn
      exact (rowsFit_iff member hcarries).mpr (hfits n member req hmember hn)
    obtain ⟨prepared, hprepared, -, hlaid⟩ :=
      prepareLogits_of_fit hfit (forwardBatch_offsets _) hsize
    exact ⟨prepared, hprepared, hlaid⟩

end Launched

/-! A prompt of three tokens with logits for its last two. -/

def rangeTarget : List (List UInt8 × TargetDescribe) := rangeRequest.requestTarget

def rangeStart : InferRequest where
  reqId := 7
  inputTokens := [11, 12, 13]
  outputTokens := [11, 12, 13]
  logitsCustomLength := 2
  requestTarget := rangeTarget

def rangePlanned : InferRequest where
  reqId := 7
  inputTokens := [11, 12, 13]
  outputTokens := [11, 12, 13]
  logitsCustomLength := 2
  requestTarget := rangeTarget
  samplingTokenNum := 2
  prefillingTokens := [11, 12, 13]
  planningTask := ⟨{ prefillTokenNum := 3 }⟩
  remainingWorkload := { prefillStartOffset := 3, samplingTokenNum := 2 }

def rangeLaunched : InferRequest where
  reqId := 7
  inputTokens := [11, 12, 13]
  outputTokens := [11, 12, 13]
  logitsCustomLength := 2
  requestTarget := rangeTarget
  samplingTokenNum := 1
  forwardingTokens := [11, 12, 13]
  prefillingTokens := [11, 12, 13]
  inflightTasks := [⟨{ prefillTokenNum := 3, samplingTokenNum := 1 }⟩]
  remainingWorkload := { prefillStartOffset := 3, samplingTokenNum := 2 }

def rangeReceived : ExecutorInferRequest where
  reqId := 7
  inputTokens := [11, 12, 13]
  logitsCustomLength := 2
  requestTarget := rangeTarget
  samplingTokenNum := 1
  forwardingTokens := [11, 12, 13]

@[reducible] def rangeMember : letI := concatDraftTokens; RowMember true :=
  letI := concatDraftTokens
  { before := rangePlanned
    usePlaceholder := false
    launched := rangeLaunched
    received := rangeReceived
    launch := by decide +kernel
    forwards := ⟨rfl, rfl, rfl, rfl, rfl⟩
    sampling := rfl
    custom := rfl
    target := rfl
    found := by decide
    range := fun _ => ⟨by decide, by decide, by decide⟩ }

/-! The same prompt with logits for its second token only, and a block behind another one. -/

def rowTarget : List (List UInt8 × TargetDescribe) := [(kLogitsTarget, ⟨[], [], [(1, 1)], ⟨1⟩, 1⟩)]

def rowPlanned : InferRequest where
  reqId := 5
  inputTokens := [11, 12, 13]
  outputTokens := [11, 12, 13]
  logitsCustomLength := 1
  requestTarget := rowTarget
  prefillingTokens := [11, 12, 13]
  planningTask := ⟨{ prefillTokenNum := 3 }⟩
  remainingWorkload := { prefillStartOffset := 3 }

def rowLaunched : InferRequest where
  reqId := 5
  inputTokens := [11, 12, 13]
  outputTokens := [11, 12, 13]
  logitsCustomLength := 1
  requestTarget := rowTarget
  samplingTokenNum := 1
  forwardingTokens := [11, 12, 13]
  prefillingTokens := [11, 12, 13]
  inflightTasks := [⟨{ prefillTokenNum := 3, samplingTokenNum := 1 }⟩]
  remainingWorkload := { prefillStartOffset := 3 }

@[reducible] def rowMember : letI := concatDraftTokens; RowMember true :=
  letI := concatDraftTokens
  { before := rowPlanned
    usePlaceholder := false
    launched := rowLaunched
    received := transmittedRequest littleEndian
      (some (InferRequestSerializationSnapshot.capture {} rowLaunched false)) rowLaunched
    launch := by decide +kernel
    forwards := forwards_full _ _ _ rfl
    sampling := rfl
    custom := rfl
    target := rfl
    found := by decide
    range := fun _ => ⟨by decide, by decide, by decide⟩ }

@[reducible] def blockMember : letI := concatDraftTokens; RowMember true :=
  letI := concatDraftTokens
  { before := ptpBefore
    usePlaceholder := true
    launched := ptpLaunched
    received := ptpReceived
    launch := by decide +kernel
    forwards := ptpReceived_forwards
    sampling := rfl
    custom := rfl
    target := rfl
    found := fun h => absurd h (Nat.lt_irrefl 0)
    range := fun h => absurd h (Nat.lt_irrefl 0) }

theorem logits_rows_laid_out_sample :
    letI := concatDraftTokens
    ((∃ prepared, prepareLogits (fun _ => true) (batchRequests [rangeMember]) = some prepared ∧
      LaysOutRows (fun _ => true) (batchRequests [rangeMember]) prepared.logitsIdxList) ↔
    ∀ (n : Nat) member req, [rangeMember][n]? = some member →
      (batchRequests [rangeMember])[n]? = some req → FitsRows member.launched true) ∧
    ∃ prepared, prepareLogits (fun req => decide (req.reqId = 5))
        (batchRequests [rowMember, blockMember]) = some prepared ∧
      LaysOutRows (fun req => decide (req.reqId = 5)) (batchRequests [rowMember, blockMember])
        prepared.logitsIdxList := by
  let _ := concatDraftTokens
  refine ⟨logits_rows_laid_out (fun _ => true) [rangeMember] (by decide), ?_⟩
  refine (logits_rows_laid_out (fun req => decide (req.reqId = 5)) [rowMember, blockMember]
    (by decide)).mpr ?_
  intro n member req hmember hreq
  match n with
  | 0 =>
    obtain rfl := Option.some.inj hmember
    obtain rfl := Option.some.inj hreq
    exact ⟨rfl, by decide⟩
  | 1 =>
    obtain rfl := Option.some.inj hmember
    obtain rfl := Option.some.inj hreq
    exact Or.inr (by decide)
  | n + 2 => cases hmember

/-- The second token of the first request, then the main token and the draft of the other. -/
example :
    letI := concatDraftTokens
    (prepareLogits (fun req => decide (req.reqId = 5)) (batchRequests [rowMember, blockMember])).map
      PreparedLogits.logitsIdxList = some [some 1, some 3, some 4] := by decide +kernel

/-- The launch of the whole prompt samples one row for the two of the range: the second one is
written behind the end of the index list. -/
theorem logits_rows_overrun :
    letI := concatDraftTokens
    exec (requestStep true kMaxInflightDepth) rangeStart.resetPrefillingTokens
        [.plan { prefillTokenNum := 3 }, .launch] = .ok rangeLaunched ∧
      rangeMember.launched = rangeLaunched ∧
      totalSamplingTokenNum (batchRequests [rangeMember]) = 1 ∧
      prepareLogits (fun _ => true) (batchRequests [rangeMember]) = none := by
  let _ := concatDraftTokens
  exact ⟨by decide +kernel, rfl, by decide +kernel, by decide +kernel⟩

end KsanaBuildAhead.Executor
