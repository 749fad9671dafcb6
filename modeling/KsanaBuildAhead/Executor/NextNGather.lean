import KsanaBuildAhead.Executor.BatchLayout
import KsanaBuildAhead.Lib.KeyedMap

/-!
# The hidden rows a pass of the MTP layers starts from

The main pass leaves for every request where its segment starts, a pass of the MTP layers where
its last row is. The next pass gathers from there, whatever order its requests are in.
-/
namespace KsanaBuildAhead.Executor

open KsanaBuildAhead.Runtime KsanaBuildAhead.Lib.Segments KsanaBuildAhead.Lib.KeyedMap

inductive RunMode where
  | kMain
  | kNextN
deriving Repr, DecidableEq

/-- What one pass leaves for the next one, and the rows it gathers itself. -/
structure NextNInput where
  mtpReqIdToPos : AList fun _ : Int => Nat := ∅
  nextnHiddenIdx : List Nat := []

/-- The loop of `PrepareNextNGatherIdx`. -/
structure GatherLoop where
  totalLen : Nat := 0
  updatedMtpReqIdToPos : AList fun _ : Int => Nat := ∅
  mtpHiddenGatherIdx : List Nat := []

/-- `size - 1` of a `size_t`. -/
def predSize (size : Nat) : Nat := if size = 0 then 2 ^ 64 - 1 else size - 1

section Gather

variable (getInputIdsLength : ForwardRequest → Nat)

def gatherHiddenIdx (runMode : RunMode) (mtpReqIdToPos : AList fun _ : Int => Nat)
    (loop : GatherLoop) (req : ForwardRequest) : GatherLoop :=
  let inputIdsLen := getInputIdsLength req
  let pos :=
    if runMode = .kMain then loop.totalLen else predSize (loop.totalLen + inputIdsLen)
  -- `operator[]` reads 0 for a request without an entry
  let beginIdx := (mtpReqIdToPos.lookup req.reqId).getD 0
  { totalLen := loop.totalLen + inputIdsLen
    updatedMtpReqIdToPos := loop.updatedMtpReqIdToPos.insert req.reqId pos
    mtpHiddenGatherIdx :=
      if runMode = .kNextN then loop.mtpHiddenGatherIdx ++ List.range' beginIdx inputIdsLen
      else loop.mtpHiddenGatherIdx }

def prepareNextNGatherIdx (runMode : RunMode) (input : NextNInput) (reqs : List ForwardRequest) :
    NextNInput :=
  let loop := reqs.foldl (gatherHiddenIdx getInputIdsLength runMode input.mtpReqIdToPos) {}
  { mtpReqIdToPos := loop.updatedMtpReqIdToPos
    nextnHiddenIdx :=
      if runMode = .kMain then input.nextnHiddenIdx else loop.mtpHiddenGatherIdx }

/-- The main pass of a step, then one pass for each MTP layer. -/
def preparePasses (input : NextNInput) (main : List ForwardRequest)
    (passes : List (List ForwardRequest)) : NextNInput :=
  passes.foldl (prepareNextNGatherIdx getInputIdsLength .kNextN)
    (prepareNextNGatherIdx getInputIdsLength .kMain input main)

end Gather

section Pass

variable {getInputIdsLength : ForwardRequest → Nat}
  (hlength : ∀ req, getInputIdsLength req = req.inputIds.length)
include hlength

theorem foldl_gatherHiddenIdx (runMode : RunMode) (mtpReqIdToPos : AList fun _ : Int => Nat)
    (reqs : List ForwardRequest) (loop : GatherLoop) :
    (reqs.foldl (gatherHiddenIdx getInputIdsLength runMode mtpReqIdToPos) loop).totalLen =
        loop.totalLen + (reqs.flatMap ForwardRequest.inputIds).length ∧
      (reqs.foldl (gatherHiddenIdx getInputIdsLength .kNextN mtpReqIdToPos)
          loop).mtpHiddenGatherIdx =
        loop.mtpHiddenGatherIdx ++ reqs.flatMap fun req =>
          List.range' ((mtpReqIdToPos.lookup req.reqId).getD 0) req.inputIds.length := by
  induction reqs generalizing loop with
  | nil => exact ⟨rfl, (List.append_nil _).symm⟩
  | cons req reqs ih =>
    constructor
    · rw [List.foldl_cons, (ih _).1, List.flatMap_cons, List.length_append, gatherHiddenIdx,
        hlength, Nat.add_assoc]
    · rw [List.foldl_cons, (ih _).2, List.flatMap_cons, gatherHiddenIdx, hlength, if_pos rfl,
        List.append_assoc]

/-- A pass leaves a position in its own segment for each of its requests. -/
theorem lookup_gathered (runMode : RunMode) (mtpReqIdToPos : AList fun _ : Int => Nat)
    {reqs : List ForwardRequest} (hdistinct : (reqs.map ForwardRequest.reqId).Nodup) {n : Nat}
    {req : ForwardRequest} (hreq : reqs[n]? = some req) :
    (reqs.foldl (gatherHiddenIdx getInputIdsLength runMode mtpReqIdToPos)
        {}).updatedMtpReqIdToPos.lookup req.reqId =
      some (if runMode = .kMain then segmentStart ForwardRequest.inputIds reqs n
        else predSize (segmentStart ForwardRequest.inputIds reqs (n + 1))) := by
  obtain ⟨hn, rfl⟩ := List.getElem?_eq_some_iff.mp hreq
  have hkeep : ∀ (later : List ForwardRequest) (loop : GatherLoop) (reqId : Int),
      (∀ other ∈ later, other.reqId ≠ reqId) →
      (later.foldl (gatherHiddenIdx getInputIdsLength runMode mtpReqIdToPos)
        loop).updatedMtpReqIdToPos.lookup reqId = loop.updatedMtpReqIdToPos.lookup reqId := by
    intro later
    induction later with
    | nil => exact fun _ _ _ => rfl
    | cons other later ih =>
      intro loop reqId hothers
      rw [List.foldl_cons, ih _ _ fun req hreq => hothers req (List.mem_cons_of_mem _ hreq),
        gatherHiddenIdx, AList.lookup_insert_ne (hothers other List.mem_cons_self).symm]
  have hsplit : reqs = reqs.take n ++ reqs[n] :: reqs.drop (n + 1) := by
    rw [← List.drop_eq_getElem_cons hn, List.take_append_drop]
  have hbehind : ∀ other ∈ reqs.drop (n + 1), other.reqId ≠ reqs[n].reqId := by
    intro other hother heq
    rw [hsplit, List.map_append, List.map_cons] at hdistinct
    have hcons := (List.nodup_append.mp hdistinct).2.1
    exact (List.nodup_cons.mp hcons).1 (heq ▸ List.mem_map_of_mem hother)
  have hfold : reqs.foldl (gatherHiddenIdx getInputIdsLength runMode mtpReqIdToPos) {} =
      (reqs.drop (n + 1)).foldl (gatherHiddenIdx getInputIdsLength runMode mtpReqIdToPos)
        (gatherHiddenIdx getInputIdsLength runMode mtpReqIdToPos
          ((reqs.take n).foldl (gatherHiddenIdx getInputIdsLength runMode mtpReqIdToPos) {})
          reqs[n]) := by
    rw [← List.foldl_cons, ← List.foldl_append, ← hsplit]
  have htotal := (foldl_gatherHiddenIdx hlength runMode mtpReqIdToPos (reqs.take n) {}).1
  rw [Nat.zero_add, ← segmentStart] at htotal
  rw [hfold, hkeep _ _ _ hbehind, gatherHiddenIdx, AList.lookup_insert, htotal, hlength,
    segmentStart_succ ForwardRequest.inputIds hreq]

theorem gathered_row (input : NextNInput) {pass : List ForwardRequest} {n start : Nat}
    {req : ForwardRequest} (hreq : pass[n]? = some req)
    (hstart : input.mtpReqIdToPos.lookup req.reqId = some start) {j : Nat}
    (hj : j < req.inputIds.length) :
    (prepareNextNGatherIdx getInputIdsLength .kNextN input pass).nextnHiddenIdx[
      segmentStart ForwardRequest.inputIds pass n + j]? = some (start + j) := by
  let gathered (req : ForwardRequest) : List Nat :=
    List.range' ((input.mtpReqIdToPos.lookup req.reqId).getD 0) req.inputIds.length
  have hsizes : ∀ req : ForwardRequest, req.inputIds.length = (gathered req).length :=
    fun _ => List.length_range'.symm
  have hpass : (prepareNextNGatherIdx getInputIdsLength .kNextN input pass).nextnHiddenIdx =
      pass.flatMap gathered :=
    (foldl_gatherHiddenIdx hlength .kNextN input.mtpReqIdToPos pass {}).2
  rw [hpass, segmentStart_congr ForwardRequest.inputIds hsizes,
    getElem?_flatMap gathered hreq (hsizes req ▸ hj), List.getElem?_range' hj, hstart]
  simp

theorem length_gathered (input : NextNInput) (pass : List ForwardRequest) :
    (prepareNextNGatherIdx getInputIdsLength .kNextN input pass).nextnHiddenIdx.length =
      (prepareInputIds pass).inputIds.length := by
  have hpass := (foldl_gatherHiddenIdx hlength .kNextN input.mtpReqIdToPos pass {}).2
  rw [List.nil_append] at hpass
  rw [(prepareInputIds_layout pass).1]
  refine (congrArg List.length hpass).trans ?_
  simp only [List.length_flatMap, List.length_range']

end Pass

/-- What the passes of one step are like. -/
structure FollowMain (main : List ForwardRequest) (passes : List (List ForwardRequest)) : Prop where
  mainDistinct : (main.map ForwardRequest.reqId).Nodup
  distinct : ∀ pass ∈ passes, (pass.map ForwardRequest.reqId).Nodup
  first : ∀ pass rest, passes = pass :: rest → ∀ req ∈ pass, ∃ owner ∈ main,
    owner.reqId = req.reqId ∧ 0 < req.inputIds.length ∧ req.inputIds.length ≤ owner.inputIds.length
  later : ∀ before previous pass rest, passes = before ++ previous :: pass :: rest → ∀ req ∈ pass,
    req.inputIds.length = 1 ∧ ∃ owner ∈ previous, owner.reqId = req.reqId

/-- One row for each token of the flat input, in the segment the same request had in the previous
pass: `rowOf m j` for token `j` of a request that was number `m` there. -/
structure GathersRows (previous pass : List ForwardRequest) (rowOf : Nat → Nat → Nat)
    (gatherIdx : List Nat) : Prop where
  perToken : gatherIdx.length = (prepareInputIds pass).inputIds.length
  rows : ∀ (n : Nat) (req : ForwardRequest), pass[n]? = some req →
    ∃ m owner, previous[m]? = some owner ∧ owner.reqId = req.reqId ∧
      ∀ j < req.inputIds.length,
        (prepareInputIds pass).inputIds[segmentStart ForwardRequest.inputIds pass n + j]? =
            req.inputIds[j]? ∧
          gatherIdx[segmentStart ForwardRequest.inputIds pass n + j]? = some (rowOf m j) ∧
          segmentStart ForwardRequest.inputIds previous m ≤ rowOf m j ∧
          rowOf m j < segmentStart ForwardRequest.inputIds previous (m + 1)

def segmentRow (previous : List ForwardRequest) (m j : Nat) : Nat :=
  segmentStart ForwardRequest.inputIds previous m + j

def lastRow (previous : List ForwardRequest) (m _j : Nat) : Nat :=
  segmentStart ForwardRequest.inputIds previous (m + 1) - 1

theorem inputIds_row {pass : List ForwardRequest} {n : Nat} {req : ForwardRequest}
    (hreq : pass[n]? = some req) {j : Nat} (hj : j < req.inputIds.length) :
    (prepareInputIds pass).inputIds[segmentStart ForwardRequest.inputIds pass n + j]? =
      req.inputIds[j]? := by
  rw [(prepareInputIds_layout pass).1, getElem?_flatMap _ hreq hj]

theorem FollowMain.positive {main : List ForwardRequest} {passes : List (List ForwardRequest)}
    (h : FollowMain main passes) {before rest : List (List ForwardRequest)}
    {pass : List ForwardRequest} (hpasses : passes = before ++ pass :: rest) :
    ∀ req ∈ pass, 0 < req.inputIds.length := by
  intro req hreq
  rcases List.eq_nil_or_concat before with rfl | ⟨earlier, previous, rfl⟩
  · obtain ⟨-, -, -, hsome, -⟩ := h.first pass rest hpasses req hreq
    exact hsome
  · rw [List.concat_eq_append, List.append_assoc, List.singleton_append] at hpasses
    rw [(h.later earlier previous pass rest hpasses req hreq).1]
    exact Nat.one_pos

section Step

variable {getInputIdsLength : ForwardRequest → Nat}
  (hlength : ∀ req, getInputIdsLength req = req.inputIds.length) {main : List ForwardRequest}
  {passes : List (List ForwardRequest)} (h : FollowMain main passes)
include hlength h

theorem FollowMain.gathers_first (input : NextNInput) {first : List ForwardRequest}
    {rest : List (List ForwardRequest)} (hpasses : passes = first :: rest) :
    GathersRows main first (segmentRow main)
      (preparePasses getInputIdsLength input main [first]).nextnHiddenIdx := by
  refine ⟨length_gathered hlength _ first, fun n req hreq => ?_⟩
  obtain ⟨owner, howner, hid, -, hle⟩ :=
    h.first first rest hpasses req (List.mem_of_getElem? hreq)
  obtain ⟨m, hm⟩ := List.mem_iff_getElem?.mp howner
  have hstart := lookup_gathered hlength .kMain input.mtpReqIdToPos h.mainDistinct hm
  rw [if_pos rfl, hid] at hstart
  refine ⟨m, owner, hm, hid, fun j hj => ⟨inputIds_row hreq hj, ?_, Nat.le_add_right _ _, ?_⟩⟩
  · exact gathered_row hlength (prepareNextNGatherIdx getInputIdsLength .kMain input main) hreq
      hstart hj
  · rw [segmentRow, segmentStart_succ _ hm]
    omega

theorem FollowMain.gathers_later (input : NextNInput) {before rest : List (List ForwardRequest)}
    {previous pass : List ForwardRequest} (hpasses : passes = before ++ previous :: pass :: rest) :
    GathersRows previous pass (lastRow previous)
      (preparePasses getInputIdsLength input main (before ++ [previous, pass])).nextnHiddenIdx := by
  have hrun : preparePasses getInputIdsLength input main (before ++ [previous, pass]) =
      prepareNextNGatherIdx getInputIdsLength .kNextN
        (prepareNextNGatherIdx getInputIdsLength .kNextN
          (preparePasses getInputIdsLength input main before) previous) pass := by
    rw [preparePasses, preparePasses, List.foldl_append]
    rfl
  rw [hrun]
  refine ⟨length_gathered hlength _ pass, fun n req hreq => ?_⟩
  obtain ⟨hone, owner, howner, hid⟩ :=
    h.later before previous pass rest hpasses req (List.mem_of_getElem? hreq)
  obtain ⟨m, hm⟩ := List.mem_iff_getElem?.mp howner
  have hdistinct := h.distinct previous (hpasses ▸ by simp)
  have hsome : 0 < owner.inputIds.length := h.positive hpasses owner howner
  have hend := segmentStart_succ ForwardRequest.inputIds hm
  have hstart := lookup_gathered hlength .kNextN
    (preparePasses getInputIdsLength input main before).mtpReqIdToPos hdistinct hm
  rw [if_neg (by decide), predSize, if_neg (by omega), hid] at hstart
  refine ⟨m, owner, hm, hid, fun j hj => ⟨inputIds_row hreq hj, ?_, ?_, ?_⟩⟩
  · obtain rfl : j = 0 := by omega
    exact gathered_row hlength (prepareNextNGatherIdx getInputIdsLength .kNextN
      (preparePasses getInputIdsLength input main before) previous) hreq hstart hj
  · rw [lastRow]
    omega
  · rw [lastRow]
    omega

end Step

/-- In every step the first pass of the MTP layers gathers each request's rows of the main pass
from its first one on, and every later pass the row its request ended with. -/
theorem gather_follows_requests (getInputIdsLength : ForwardRequest → Nat)
    (hlength : ∀ req, getInputIdsLength req = req.inputIds.length) (input : NextNInput)
    (main : List ForwardRequest) (passes : List (List ForwardRequest))
    (h : FollowMain main passes) :
    (∀ first rest, passes = first :: rest → GathersRows main first (segmentRow main)
      (preparePasses getInputIdsLength input main [first]).nextnHiddenIdx) ∧
    ∀ before previous pass rest, passes = before ++ previous :: pass :: rest →
      GathersRows previous pass (lastRow previous)
        (preparePasses getInputIdsLength input main (before ++ [previous, pass])).nextnHiddenIdx :=
  ⟨fun _ _ hpasses => h.gathers_first hlength input hpasses,
    fun _ _ _ _ hpasses => h.gathers_later hlength input hpasses⟩

def sampleForwardRequest (reqId : Int) (forwardingTokens : List Int) : ForwardRequest :=
  buildForwardRequestFromInferRequest { reqId, forwardingTokens }

/-- Two requests change places between the passes. -/
def sampleMain : List ForwardRequest :=
  [sampleForwardRequest 1 [11, 12, 13], sampleForwardRequest 2 [21, 22]]

def samplePasses : List (List ForwardRequest) :=
  [[sampleForwardRequest 2 [22, 23], sampleForwardRequest 1 [12, 13]],
    [sampleForwardRequest 1 [14]]]

example : (preparePasses (fun req => req.inputIds.length) {} sampleMain
    samplePasses).nextnHiddenIdx = [3] := by decide

theorem samplePasses_follow : FollowMain sampleMain samplePasses where
  mainDistinct := by decide
  distinct := by decide
  first pass rest hpasses := by
    obtain ⟨rfl, -⟩ := List.cons.inj hpasses
    decide
  later before previous pass rest hpasses := by
    cases before with
    | nil =>
      obtain ⟨rfl, htail⟩ := List.cons.inj hpasses
      obtain ⟨rfl, -⟩ := List.cons.inj htail
      decide
    | cons first before =>
      have hlengths := congrArg List.length hpasses
      simp [samplePasses] at hlengths
      omega

theorem gather_follows_requests_sample :
    (∀ first rest, samplePasses = first :: rest → GathersRows sampleMain first
      (segmentRow sampleMain) (preparePasses (fun req => req.inputIds.length) {} sampleMain
        [first]).nextnHiddenIdx) ∧
    ∀ before previous pass rest, samplePasses = before ++ previous :: pass :: rest →
      GathersRows previous pass (lastRow previous)
        (preparePasses (fun req => req.inputIds.length) {} sampleMain
          (before ++ [previous, pass])).nextnHiddenIdx :=
  gather_follows_requests _ (fun _ => rfl) {} sampleMain samplePasses samplePasses_follow

end KsanaBuildAhead.Executor
