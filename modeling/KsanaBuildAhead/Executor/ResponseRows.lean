import KsanaBuildAhead.Executor.LogitsRows
import Mathlib.Data.List.AList

/-!
# The responses of a stage

A request may ask for rows of the output of a stage. `UpdateResponse` copies them request by
request behind a row offset. Rows are named by their index in the output; a copy that is not
inside the output is `none`.
-/
namespace KsanaBuildAhead.Executor

open KsanaBuildAhead.Runtime KsanaBuildAhead.Lib.CursorTraversal

/-- A request and what its response holds so far, by stage. -/
structure ResponseRequest where
  request : ForwardRequest
  response : AList fun _ : List UInt8 => List Nat

section Update

-- `TokenReduceMode::GATHER_ALL`, whose enumeration is declared outside the sources.
variable (gatherAll : TokenReduceMode) (stage : List UInt8)

def gatherTarget (req : ForwardRequest) : Option TargetDescribe :=
  (req.requestTarget.lookup stage).filter fun target => target.tokenReduceMode = gatherAll

/-- One slice for each position that holds one of the ids. -/
def tokenIdSlices (tokenId forwardingTokens : List Int) : List (Int × Int) :=
  ((List.range forwardingTokens.length).filter fun i =>
    tokenId.contains (forwardingTokens.getD i 0)).map fun (i : Nat) => ((i : Int), (i : Int))

def requestedSlices (target : TargetDescribe) (req : ForwardRequest) : List (Int × Int) :=
  target.slicePos ++ tokenIdSlices target.tokenId req.forwardingTokens

def outputLen (slicePos : List (Int × Int)) : Int :=
  (slicePos.map fun slice => slice.2 - slice.1 + 1).sum

/-- What the row offset counts for a request. -/
def outputTokenNum (target : TargetDescribe) (req : ForwardRequest) : Int :=
  if stage = kLogitsTarget then outputLen (requestedSlices target req)
  else req.forwardingTokens.length

/-- The logits are not cut again. -/
def copiedSlices (target : TargetDescribe) (req : ForwardRequest) : List (Int × Int) :=
  if stage = kLogitsTarget then [(0, outputLen (requestedSlices target req) - 1)]
  else requestedSlices target req

def copySlice (rowNum : Nat) (offset : Int) (slice : Int × Int) : Option (List Nat) :=
  if 0 ≤ slice.2 - slice.1 + 1 ∧
      ∀ position ∈ slicePositions slice, 0 ≤ offset + position ∧ offset + position < rowNum then
    some ((slicePositions slice).map fun (position : Int) => (offset + position).toNat)
  else none

def copySlices (rowNum : Nat) (offset : Int) : List (Int × Int) → Option (List Nat)
  | [] => some []
  | slice :: slices => do
    let rows ← copySlice rowNum offset slice
    let rest ← copySlices rowNum offset slices
    some (rows ++ rest)

/-- One request on rank 0: whether it may exit early, and its response. -/
def updateRequest (rowNum : Nat) (reqOffset : Int) (item : ResponseRequest) :
    Option (Bool × ResponseRequest) :=
  match gatherTarget gatherAll stage item.request with
  | none => some (false, item)
  | some target =>
    let outputTokenNum := outputTokenNum stage target item.request
    let reqOffset := reqOffset + outputTokenNum
    (copySlices rowNum (reqOffset - outputTokenNum) (copiedSlices stage target item.request)).map
      fun rows =>
        (item.request.requestTarget.length == item.response.keys.length,
          { item with response := item.response.insert stage rows })

def advanceOffset (reqOffset : Int) (item : ResponseRequest) : Int :=
  match gatherTarget gatherAll stage item.request with
  | none => reqOffset
  | some target => reqOffset + outputTokenNum stage target item.request

def updateResponse (rowNum : Nat) (items : List ResponseRequest) :
    Option (Bool × List ResponseRequest) :=
  (traverse (advanceOffset gatherAll stage) (updateRequest gatherAll stage rowNum) 0 items).map
    fun out => (out.all Prod.fst, out.map Prod.snd)

end Update

/-- The rows the output of a stage has: logits rows, or one for every token of the flat input. -/
def outputRows (stage : List UInt8) (reqs : List ForwardRequest) : Nat :=
  if stage = kLogitsTarget then totalSamplingTokenNum reqs
  else (reqs.flatMap ForwardRequest.inputIds).length

def requestedPositions (target : TargetDescribe) (req : ForwardRequest) : List Int :=
  (requestedSlices target req).flatMap slicePositions

/-- The rows are the request's own at the requested positions. The logits rows are in the order
of the positions; the tokens of a request stand from `start` on in the flat input. -/
def OwnRows (stage : List UInt8) (start : Nat) (req : ForwardRequest) (target : TargetDescribe)
    (rows : List Nat) : Prop :=
  rows.length = (requestedPositions target req).length ∧
    ∀ (k : Nat) (position : Int), (requestedPositions target req)[k]? = some position →
      if stage = kLogitsTarget then
        k < req.samplingTokenNum ∧ rows[k]? = some (req.logitsOffset + k)
      else
        req.skipTokenNum ≤ position ∧ position < req.forwardingTokens.length ∧
          rows[k]? = some (start + (position - req.skipTokenNum).toNat)

/-- What a request needs for its response. None of its slices is reversed, and if it asks for
anything, the row offset stands at its rows and it asks only for rows it has. -/
def GathersOwn (stage : List UInt8) (reqOffset : Int) (start : Nat) (req : ForwardRequest)
    (target : TargetDescribe) : Prop :=
  (∀ slice ∈ requestedSlices target req, 0 ≤ slice.2 - slice.1 + 1) ∧
    (requestedPositions target req ≠ [] →
      if stage = kLogitsTarget then
        reqOffset = req.logitsOffset ∧
          (requestedPositions target req).length ≤ req.samplingTokenNum
      else
        reqOffset + req.skipTokenNum = start ∧ ∀ position ∈ requestedPositions target req,
          req.skipTokenNum ≤ position ∧ position < req.forwardingTokens.length)

instance (stage : List UInt8) (reqOffset : Int) (start : Nat) (req : ForwardRequest)
    (target : TargetDescribe) : Decidable (GathersOwn stage reqOffset start req target) := by
  unfold GathersOwn
  infer_instance

theorem copySlice_eq_some {rowNum : Nat} {offset : Int} {slice : Int × Int} {rows : List Nat} :
    copySlice rowNum offset slice = some rows ↔
      (0 ≤ slice.2 - slice.1 + 1 ∧ ∀ position ∈ slicePositions slice,
        0 ≤ offset + position ∧ offset + position < rowNum) ∧
      (slicePositions slice).map (fun (position : Int) => (offset + position).toNat) = rows := by
  rw [copySlice, Option.ite_none_right_eq_some, Option.some_inj]

theorem copySlices_eq_some {rowNum : Nat} {offset : Int} {slices : List (Int × Int)}
    {rows : List Nat} :
    copySlices rowNum offset slices = some rows ↔
      (∀ slice ∈ slices, 0 ≤ slice.2 - slice.1 + 1) ∧
      (∀ position ∈ slices.flatMap slicePositions,
        0 ≤ offset + position ∧ offset + position < rowNum) ∧
      (slices.flatMap slicePositions).map (fun (position : Int) => (offset + position).toNat) =
        rows := by
  induction slices generalizing rows with
  | nil =>
    rw [copySlices, Option.some_inj, List.flatMap_nil, List.map_nil]
    exact ⟨fun h => ⟨fun _ hmem => absurd hmem List.not_mem_nil,
      fun _ hmem => absurd hmem List.not_mem_nil, h⟩, fun h => h.2.2⟩
  | cons slice slices ih =>
    rw [copySlices, Option.bind_eq_bind, Option.bind_eq_some_iff, List.flatMap_cons,
      List.map_append, List.forall_mem_cons, List.forall_mem_append]
    constructor
    · rintro ⟨first, hfirst, hrest⟩
      obtain ⟨rest, hcopied, hrows⟩ := Option.bind_eq_some_iff.mp hrest
      obtain ⟨⟨hslice, hin⟩, rfl⟩ := copySlice_eq_some.mp hfirst
      obtain ⟨hslices, hall, rfl⟩ := ih.mp hcopied
      exact ⟨⟨hslice, hslices⟩, ⟨hin, hall⟩, Option.some.inj hrows⟩
    · rintro ⟨⟨hslice, hslices⟩, ⟨hin, hall⟩, hrows⟩
      refine ⟨_, copySlice_eq_some.mpr ⟨⟨hslice, hin⟩, rfl⟩, ?_⟩
      rw [Option.bind_eq_some_iff]
      exact ⟨_, ih.mpr ⟨hslices, hall, rfl⟩, by rw [hrows]⟩

/-- Slices are as long together as their positions, or shorter if one is reversed. -/
theorem outputLen_le (slices : List (Int × Int)) :
    outputLen slices ≤ (slices.flatMap slicePositions).length ∧
      (outputLen slices = (slices.flatMap slicePositions).length ↔
        ∀ slice ∈ slices, 0 ≤ slice.2 - slice.1 + 1) := by
  induction slices with
  | nil => exact ⟨Int.le_refl _, fun _ _ hmem => absurd hmem List.not_mem_nil, fun _ => rfl⟩
  | cons slice slices ih =>
    obtain ⟨hle, heq⟩ := ih
    have hlen : outputLen (slice :: slices) = slice.2 - slice.1 + 1 + outputLen slices := rfl
    have hlength := slicePositions_length slice
    rw [List.forall_mem_cons, ← heq, hlen, List.flatMap_cons, List.length_append]
    exact ⟨by omega, fun h => ⟨by omega, by omega⟩, fun h => by omega⟩

section Copy

variable {stage : List UInt8} {rowNum start : Nat} {reqOffset : Int} {req : ForwardRequest}
  {target : TargetDescribe}

/-- A logits stage copies as many rows as the slices are long together. -/
theorem copiedLogits_eq_some {rows : List Nat} {length : Int} :
    copySlices rowNum reqOffset [(0, length - 1)] = some rows ↔
      0 ≤ length ∧ (∀ k : Nat, k < length → 0 ≤ reqOffset + k ∧ reqOffset + k < rowNum) ∧
      (List.range length.toNat).map (fun (k : Nat) => (reqOffset + k).toNat) = rows := by
  have hpositions : [((0 : Int), length - 1)].flatMap slicePositions =
      (List.range length.toNat).map fun (k : Nat) => (k : Int) := by
    rw [List.flatMap_singleton, slicePositions]
    simp only [Int.zero_add, Int.sub_zero, Int.sub_add_cancel]
  rw [copySlices_eq_some, hpositions, List.map_map, List.forall_mem_singleton]
  refine and_congr (by simp only; omega) (and_congr ?_ Iff.rfl)
  constructor
  · intro h k hk
    exact h k (List.mem_map_of_mem (List.mem_range.mpr (by omega)))
  · intro h position hmem
    obtain ⟨k, hk, rfl⟩ := List.mem_map.mp hmem
    exact h k (by have hlt := List.mem_range.mp hk; omega)

theorem copied_own_layer (hlayer : stage ≠ kLogitsTarget)
    (hsize : start + req.inputIds.length ≤ rowNum) :
    (∃ rows, copySlices rowNum reqOffset (copiedSlices stage target req) = some rows ∧
      OwnRows stage start req target rows) ↔ GathersOwn stage reqOffset start req target := by
  have hinput := inputIds_length req
  have hpositions : (requestedSlices target req).flatMap slicePositions =
      requestedPositions target req := rfl
  rw [GathersOwn, copiedSlices, if_neg hlayer, if_neg hlayer]
  constructor
  · rintro ⟨rows, hcopied, -, hown⟩
    obtain ⟨hslices, hin, hrows⟩ := copySlices_eq_some.mp hcopied
    rw [hpositions] at hin hrows
    have hat : ∀ position ∈ requestedPositions target req, req.skipTokenNum ≤ position ∧
        position < req.forwardingTokens.length ∧
        reqOffset + req.skipTokenNum = start := by
      intro position hmem
      obtain ⟨k, hk⟩ := List.mem_iff_getElem?.mp hmem
      have hrow := hown k position hk
      rw [if_neg hlayer] at hrow
      have hread : rows[k]? = some (reqOffset + position).toNat := by
        rw [← hrows, List.getElem?_map, hk]
        rfl
      have hsame := Option.some.inj (hread.symm.trans hrow.2.2)
      have hbound := hin position hmem
      omega
    refine ⟨hslices, fun hsome => ?_⟩
    obtain ⟨first, hfirst⟩ := List.exists_mem_of_ne_nil _ hsome
    exact ⟨(hat first hfirst).2.2, fun position hmem => ⟨(hat position hmem).1,
      (hat position hmem).2.1⟩⟩
  · rintro ⟨hslices, hgathers⟩
    have hat : ∀ position ∈ requestedPositions target req,
        reqOffset + req.skipTokenNum = start ∧ req.skipTokenNum ≤ position ∧
          position < req.forwardingTokens.length := by
      intro position hmem
      obtain ⟨hoffset, hinside⟩ := hgathers (List.ne_nil_of_mem hmem)
      exact ⟨hoffset, hinside position hmem⟩
    refine ⟨_, copySlices_eq_some.mpr ⟨hslices, fun position hmem => ?_, rfl⟩, ?_, ?_⟩
    · have hplace := hat position hmem
      omega
    · rw [hpositions, List.length_map]
    · intro k position hk
      have hplace := hat position (List.mem_of_getElem? hk)
      rw [if_neg hlayer, hpositions, List.getElem?_map, hk]
      refine ⟨hplace.2.1, hplace.2.2, congrArg some ?_⟩
      simp only
      omega

theorem copied_own_logits (hlogits : stage = kLogitsTarget)
    (hsize : req.logitsOffset + req.samplingTokenNum ≤ rowNum) :
    (∃ rows, copySlices rowNum reqOffset (copiedSlices stage target req) = some rows ∧
      OwnRows stage start req target rows) ↔ GathersOwn stage reqOffset start req target := by
  obtain ⟨hle, heq⟩ := outputLen_le (requestedSlices target req)
  have hpositions : (requestedSlices target req).flatMap slicePositions =
      requestedPositions target req := rfl
  rw [hpositions] at hle heq
  rw [GathersOwn, copiedSlices, if_pos hlogits, if_pos hlogits, ← heq, ← List.length_pos_iff]
  constructor
  · rintro ⟨rows, hcopied, hlength, hown⟩
    obtain ⟨hnonneg, hin, hrows⟩ := copiedLogits_eq_some.mp hcopied
    have hcount : rows.length = (outputLen (requestedSlices target req)).toNat := by
      rw [← hrows, List.length_map, List.length_range]
    refine ⟨by omega, fun hsome => ?_⟩
    have hat : ∀ k < (requestedPositions target req).length, k < req.samplingTokenNum ∧
        reqOffset + k = req.logitsOffset + k := by
      intro k hk
      have hrow := hown k _ (List.getElem?_eq_getElem hk)
      rw [if_pos hlogits] at hrow
      have hread : rows[k]? = some (reqOffset + k).toNat := by
        rw [← hrows, List.getElem?_map, List.getElem?_range (by omega)]
        rfl
      have hsame := Option.some.inj (hread.symm.trans hrow.2)
      have hbound := hin k (by omega)
      exact ⟨hrow.1, by omega⟩
    have hfirst := hat 0 hsome
    have hlast := hat ((requestedPositions target req).length - 1) (by omega)
    omega
  · rintro ⟨hlength, hgathers⟩
    have hat : ∀ k < (requestedPositions target req).length, reqOffset = req.logitsOffset ∧
        k < req.samplingTokenNum := by
      intro k hk
      obtain ⟨hoffset, hroom⟩ := hgathers (by omega)
      exact ⟨hoffset, by omega⟩
    refine ⟨_, copiedLogits_eq_some.mpr ⟨by omega, fun k hk => ?_, rfl⟩, ?_, ?_⟩
    · have hplace := hat k (by omega)
      omega
    · rw [List.length_map, List.length_range]
      omega
    · intro k position hk
      obtain ⟨hlt, -⟩ := List.getElem?_eq_some_iff.mp hk
      have hplace := hat k hlt
      rw [if_pos hlogits, List.getElem?_map, List.getElem?_range (by omega)]
      refine ⟨hplace.2, congrArg some ?_⟩
      simp only
      omega

/-- A request is given its own rows exactly when the row offset and what it asks for agree. -/
theorem copied_own_iff (hlayer : stage ≠ kLogitsTarget → start + req.inputIds.length ≤ rowNum)
    (hlogits : stage = kLogitsTarget → req.logitsOffset + req.samplingTokenNum ≤ rowNum) :
    (∃ rows, copySlices rowNum reqOffset (copiedSlices stage target req) = some rows ∧
      OwnRows stage start req target rows) ↔ GathersOwn stage reqOffset start req target := by
  by_cases hstage : stage = kLogitsTarget
  · exact copied_own_logits hstage (hlogits hstage)
  · exact copied_own_layer hstage (hlayer hstage)

end Copy

section Batch

variable {gatherAll : TokenReduceMode} {stage : List UInt8}

/-- What the row offset has counted behind these requests: the tokens, or the requested rows, of
those that gather all. -/
def gatheredTokenNum (gatherAll : TokenReduceMode) (stage : List UInt8)
    (before : List ResponseRequest) : Int :=
  (before.map fun item => match gatherTarget gatherAll stage item.request with
    | none => 0
    | some target => outputTokenNum stage target item.request).sum

theorem foldl_advanceOffset (reqOffset : Int) (before : List ResponseRequest) :
    before.foldl (advanceOffset gatherAll stage) reqOffset =
      reqOffset + gatheredTokenNum gatherAll stage before := by
  induction before generalizing reqOffset with
  | nil => exact (Int.add_zero _).symm
  | cons item before ih =>
    rw [List.foldl_cons, ih, gatheredTokenNum, gatheredTokenNum, List.map_cons, List.sum_cons,
      advanceOffset]
    cases gatherTarget gatherAll stage item.request with
    | none => rw [Int.zero_add]
    | some target => rw [Int.add_assoc]

theorem updateRequest_gather {rowNum : Nat} {reqOffset : Int} {item : ResponseRequest}
    {target : TargetDescribe} (htarget : gatherTarget gatherAll stage item.request = some target) :
    updateRequest gatherAll stage rowNum reqOffset item =
      (copySlices rowNum reqOffset (copiedSlices stage target item.request)).map fun rows =>
        (item.request.requestTarget.length == item.response.keys.length,
          { item with response := item.response.insert stage rows }) := by
  rw [updateRequest, htarget]
  simp only [Int.add_sub_cancel]

/-- Every request that gathers all is given its own rows of the output. -/
def FillsOwnRows (gatherAll : TokenReduceMode) (stage : List UInt8)
    (items : List ResponseRequest) : Prop :=
  ∃ ret out, updateResponse gatherAll stage
      (outputRows stage (items.map ResponseRequest.request)) items = some (ret, out) ∧
    ∀ before item after, items = before ++ item :: after →
      ∀ target, gatherTarget gatherAll stage item.request = some target →
        ∃ filled rows, out[before.length]? = some filled ∧
          filled.response.lookup stage = some rows ∧
          OwnRows stage ((before.map ResponseRequest.request).flatMap
            ForwardRequest.inputIds).length item.request target rows

theorem own_rows_inside (stage : List UInt8) {items before after : List ResponseRequest} {item : ResponseRequest}
    (hoffsets : OffsetsReset (items.map ResponseRequest.request))
    (hsplit : items = before ++ item :: after) :
    (stage ≠ kLogitsTarget → ((before.map ResponseRequest.request).flatMap
        ForwardRequest.inputIds).length + item.request.inputIds.length ≤
          outputRows stage (items.map ResponseRequest.request)) ∧
      (stage = kLogitsTarget → item.request.logitsOffset + item.request.samplingTokenNum ≤
        outputRows stage (items.map ResponseRequest.request)) := by
  have hreqs : items.map ResponseRequest.request = before.map ResponseRequest.request ++
      item.request :: after.map ResponseRequest.request := by
    rw [hsplit, List.map_append, List.map_cons]
  have hoffset := hoffsets _ _ _ hreqs
  rw [outputRows, hreqs]
  constructor
  · intro hlayer
    rw [if_neg hlayer, List.flatMap_append, List.flatMap_cons, List.length_append,
      List.length_append]
    omega
  · intro hlogits
    rw [if_pos hlogits, hoffset, totalSamplingTokenNum, totalSamplingTokenNum, List.map_append,
      List.sum_append, List.map_cons, List.sum_cons]
    omega

theorem updateRequest_own_iff {items before after : List ResponseRequest} {item : ResponseRequest}
    {target : TargetDescribe} (hoffsets : OffsetsReset (items.map ResponseRequest.request))
    (hsplit : items = before ++ item :: after)
    (htarget : gatherTarget gatherAll stage item.request = some target) :
    (∃ updated rows, updateRequest gatherAll stage
        (outputRows stage (items.map ResponseRequest.request))
        (before.foldl (advanceOffset gatherAll stage) 0) item = some updated ∧
      updated.2.response.lookup stage = some rows ∧
      OwnRows stage ((before.map ResponseRequest.request).flatMap ForwardRequest.inputIds).length
        item.request target rows) ↔
    GathersOwn stage (gatheredTokenNum gatherAll stage before)
      ((before.map ResponseRequest.request).flatMap ForwardRequest.inputIds).length item.request
      target := by
  obtain ⟨hlayer, hlogits⟩ := own_rows_inside stage hoffsets hsplit
  rw [← copied_own_iff hlayer hlogits, foldl_advanceOffset, Int.zero_add,
    updateRequest_gather htarget]
  constructor
  · rintro ⟨updated, rows, hupdated, hstored, hown⟩
    obtain ⟨copied, hcopied, rfl⟩ := Option.map_eq_some_iff.mp hupdated
    rw [AList.lookup_insert] at hstored
    exact ⟨rows, hcopied.trans (by rw [Option.some.inj hstored]), hown⟩
  · rintro ⟨rows, hcopied, hown⟩
    exact ⟨_, rows, Option.map_eq_some_iff.mpr ⟨rows, hcopied, rfl⟩, AList.lookup_insert _, hown⟩

/-- For every stage and every batch, each request that gathers all is given exactly its own rows,
if and only if each of them finds the row offset at its rows and asks only for rows it has. -/
theorem responses_hold_own_rows (gatherAll : TokenReduceMode) (stage : List UInt8)
    (ordered : List ExecutorInferRequest) (items : List ResponseRequest)
    (hitems : items.map ResponseRequest.request = forwardBatch ordered) :
    FillsOwnRows gatherAll stage items ↔
      ∀ before item after, items = before ++ item :: after →
        ∀ target, gatherTarget gatherAll stage item.request = some target →
          GathersOwn stage (gatheredTokenNum gatherAll stage before)
            ((before.map ResponseRequest.request).flatMap ForwardRequest.inputIds).length
            item.request target := by
  have hoffsets : OffsetsReset (items.map ResponseRequest.request) := by
    rw [hitems]
    exact forwardBatch_offsets ordered
  constructor
  · rintro ⟨ret, out, hupdate, hfilled⟩ before item after hsplit target htarget
    obtain ⟨walked, hwalked, hpair⟩ := Option.map_eq_some_iff.mp hupdate
    obtain ⟨-, rfl⟩ := Prod.mk.inj hpair
    obtain ⟨updated, hupdated, hat⟩ := traverse_at hwalked hsplit
    obtain ⟨filled, rows, hfound, hstored, hown⟩ := hfilled before item after hsplit target htarget
    rw [List.getElem?_map, hupdated, Option.map_some] at hfound
    obtain rfl := Option.some.inj hfound
    exact (updateRequest_own_iff hoffsets hsplit htarget).mp ⟨updated, rows, hat, hstored, hown⟩
  · intro hgathers
    have hwalk : ∃ walked, traverse (advanceOffset gatherAll stage) (updateRequest gatherAll stage
        (outputRows stage (items.map ResponseRequest.request))) 0 items = some walked := by
      refine exists_traverse fun before item after hsplit => ?_
      cases htarget : gatherTarget gatherAll stage item.request with
      | none => exact ⟨(false, item), by rw [updateRequest, htarget]⟩
      | some target =>
        obtain ⟨updated, -, hupdated, -⟩ := (updateRequest_own_iff hoffsets hsplit htarget).mpr
          (hgathers before item after hsplit target htarget)
        exact ⟨updated, hupdated⟩
    obtain ⟨walked, hwalked⟩ := hwalk
    refine ⟨_, _, Option.map_eq_some_iff.mpr ⟨walked, hwalked, rfl⟩, ?_⟩
    intro before item after hsplit target htarget
    obtain ⟨updated, hupdated, hat⟩ := traverse_at hwalked hsplit
    obtain ⟨found, rows, hfound, hstored, hown⟩ := (updateRequest_own_iff hoffsets hsplit
      htarget).mpr (hgathers before item after hsplit target htarget)
    obtain rfl := Option.some.inj (hat.symm.trans hfound)
    refine ⟨updated.2, rows, ?_, hstored, hown⟩
    rw [List.getElem?_map, hupdated]
    rfl

end Batch

/-! A request without a target in front of one that asks for its first token. -/

/-- The key `"transformer"`. -/
def kTransformerTarget : List UInt8 := [116, 114, 97, 110, 115, 102, 111, 114, 109, 101, 114]

def gatherRequest : ExecutorInferRequest where
  reqId := 7
  forwardingTokens := [11, 12, 13]
  requestTarget := [(kTransformerTarget,
    { cutoffLayer := [], tokenId := [], slicePos := [(0, 0)], tokenReduceMode := ⟨0⟩,
      inputTopLogprobsNum := 0 })]

def promptForward : ForwardRequest :=
  buildForwardRequestFromInferRequest { promptRequest with logitsOffset := 0, step := 1 }

def gatherForward : ForwardRequest :=
  buildForwardRequestFromInferRequest { gatherRequest with logitsOffset := 1, step := 1 }

def gatherItems : List ResponseRequest := [⟨promptForward, ∅⟩, ⟨gatherForward, ∅⟩]

/-! The same request first, one that asks for its last token, and the one without a target. -/

def lastRequest : ExecutorInferRequest where
  reqId := 9
  forwardingTokens := [31, 32]
  requestTarget := [(kTransformerTarget,
    { cutoffLayer := [], tokenId := [32], slicePos := [], tokenReduceMode := ⟨0⟩,
      inputTopLogprobsNum := 0 })]

def gatherFirst : ForwardRequest :=
  buildForwardRequestFromInferRequest { gatherRequest with logitsOffset := 0, step := 1 }

def lastForward : ForwardRequest :=
  buildForwardRequestFromInferRequest { lastRequest with logitsOffset := 1, step := 1 }

def promptBehind : ForwardRequest :=
  buildForwardRequestFromInferRequest { promptRequest with logitsOffset := 2, step := 1 }

def frontItems : List ResponseRequest :=
  [⟨gatherFirst, ∅⟩, ⟨lastForward, ∅⟩, ⟨promptBehind, ∅⟩]

theorem responses_hold_own_rows_sample :
    (FillsOwnRows ⟨0⟩ kTransformerTarget gatherItems ↔
      ∀ before item after, gatherItems = before ++ item :: after →
        ∀ target, gatherTarget ⟨0⟩ kTransformerTarget item.request = some target →
          GathersOwn kTransformerTarget (gatheredTokenNum ⟨0⟩ kTransformerTarget before)
            ((before.map ResponseRequest.request).flatMap ForwardRequest.inputIds).length
            item.request target) ∧
    FillsOwnRows ⟨0⟩ kTransformerTarget frontItems := by
  refine ⟨responses_hold_own_rows ⟨0⟩ kTransformerTarget [promptRequest, gatherRequest]
    gatherItems rfl, ?_⟩
  refine (responses_hold_own_rows ⟨0⟩ kTransformerTarget
    [gatherRequest, lastRequest, promptRequest] frontItems rfl).mpr ?_
  intro before item after hsplit target htarget
  match before with
  | [] =>
    obtain ⟨rfl, -⟩ := List.cons.inj hsplit
    obtain rfl := Option.some.inj htarget
    decide
  | [first] =>
    obtain ⟨rfl, hrest⟩ := List.cons.inj hsplit
    obtain ⟨rfl, -⟩ := List.cons.inj hrest
    obtain rfl := Option.some.inj htarget
    decide
  | [first, second] =>
    obtain ⟨-, hrest⟩ := List.cons.inj hsplit
    obtain ⟨-, hlast⟩ := List.cons.inj hrest
    obtain ⟨rfl, -⟩ := List.cons.inj hlast
    cases htarget
  | first :: second :: third :: before =>
    have hlength := congrArg List.length hsplit
    simp [frontItems] at hlength

/-- What the responses hold. -/
example : (updateResponse ⟨0⟩ kTransformerTarget
    (outputRows kTransformerTarget (frontItems.map ResponseRequest.request)) frontItems).map
      (fun updated => updated.2.map fun item => item.response.lookup kTransformerTarget) =
        some [some [0], some [4], none] := by decide +kernel

/-- What the responses of the two requests hold. -/
theorem gatherItems_rows :
    (updateResponse ⟨0⟩ kTransformerTarget
        (outputRows kTransformerTarget (gatherItems.map ResponseRequest.request)) gatherItems).map
      (fun updated => updated.2.map fun item => item.response.lookup kTransformerTarget) =
        some [none, some [0]] := by
  decide +kernel

/-- The five tokens of the first request are not counted: the second request's first token is
row 5, and its response holds row 0. -/
theorem response_of_other_request :
    reorderInferRequestsBuildAhead [gatherRequest, promptRequest] =
        [promptRequest, gatherRequest] ∧
      (updateResponse ⟨0⟩ kTransformerTarget 8 gatherItems).map
        (fun updated => updated.2.map fun item => item.response.lookup kTransformerTarget) =
          some [none, some [0]] ∧
      ¬ FillsOwnRows ⟨0⟩ kTransformerTarget gatherItems := by
  refine ⟨by decide +kernel, by decide +kernel, ?_⟩
  rintro ⟨ret, out, hupdate, hfilled⟩
  obtain ⟨filled, rows, hfound, hstored, -, hown⟩ :=
    hfilled [⟨promptForward, ∅⟩] ⟨gatherForward, ∅⟩ [] rfl _ rfl
  have hrows := gatherItems_rows
  rw [hupdate, Option.map_some] at hrows
  have hat : (out.map fun item => item.response.lookup kTransformerTarget)[1]? = some (some [0]) := by
    rw [Option.some.inj hrows]
    rfl
  have hfound : out[1]? = some filled := hfound
  rw [List.getElem?_map, hfound, Option.map_some, hstored] at hat
  obtain rfl := Option.some.inj (Option.some.inj hat)
  have hrow := hown 0 0 rfl
  rw [if_neg (by decide)] at hrow
  exact absurd hrow.2.2 (by decide)

end KsanaBuildAhead.Executor
