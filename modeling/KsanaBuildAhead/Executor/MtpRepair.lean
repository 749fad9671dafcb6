import KsanaBuildAhead.Runtime.HostRing
import KsanaBuildAhead.Runtime.InferRequestSteps
import KsanaBuildAhead.Runtime.ScheduleOutput

/-!
# Repair of placeholder blocks on the Executor

With draft models the Executor runs its steps one after the other. Each leaves
its tokens in the host ring and in maps by request id, and before the next step
builds its input they replace the placeholders the Engine launched.
-/
namespace KsanaBuildAhead.Executor

open KsanaBuildAhead.Runtime KsanaBuildAhead.Lib.ListEdit

/-- What the model runner keeps between steps. `lastBlock` is where the block of the last
step starts and how many drafts it held. -/
structure MtpSerialState where
  hostRing : List Int := []
  acceptedTokens : AList fun _ : Int => List Int := ∅
  lastBlock : AList fun _ : Int => Nat × Nat := ∅
  nextMtpDrafts : AList fun _ : Int => List Int := ∅
deriving DecidableEq

/-- The launch offset of the placeholder block: from the snapshot, from the patch, or by
looking for the first placeholder. -/
def resolveLaunchPlaceholderOffset (req : ExecutorInferRequest)
    (snap : Option InferRequestSerializationSnapshot) : Option Nat :=
  match snap.bind InferRequestSerializationSnapshot.placeholderOffsetInSnapshot,
      req.launchPlaceholderOffset with
  | some offset, _ => some offset
  | none, some offset => some offset
  | none, none => req.forwardingTokens.findIdx? fun token => token == kFastPathPlaceholderTokenId

/-- Put the accepted drafts of the last step in their place, and find where the main token
of this step belongs. With an old block they overwrite its drafts and the rejected ones
are erased; without one they are inserted before the placeholders. -/
def settleAcceptedTokens (forwardingTokens accepted : List Int)
    (phOff oldMainPos oldDraftSlots : Nat) : List Int × Nat :=
  if 0 < oldDraftSlots then
    let written := overwrite forwardingTokens (oldMainPos + 1) accepted
    let newMainPos := oldMainPos + 1 + accepted.length
    (if newMainPos < phOff then eraseRange written newMainPos phOff else written, newMainPos)
  else
    (forwardingTokens.take phOff ++ accepted ++ forwardingTokens.drop phOff,
      phOff + accepted.length)

/-- Repair one block; none when the step before left nothing for this request. -/
def repairMtpSerialBlock (req : ExecutorInferRequest) (prevRing : List Int)
    (acceptedMap : AList fun _ : Int => List Int)
    (phOff draftSlots oldMainPos oldDraftSlots : Nat) (frozenMtpDrafts : Option (List Int)) :
    Option ExecutorInferRequest :=
  match lookupBuildAheadHostRingEntry prevRing req.reqId with
  | none => none
  | some entry =>
    if entry.token = kFastPathPlaceholderTokenId then none
    else if req.forwardingTokens.length ≤ phOff + draftSlots then none
    else
      let acceptedVals := (acceptedMap.lookup req.reqId).getD []
      let acceptedNum := min entry.accepted.toNat acceptedVals.length
      let (settled, mainPos) := settleAcceptedTokens req.forwardingTokens
        (acceptedVals.take acceptedNum) phOff oldMainPos oldDraftSlots
      let mtpDrafts := frozenMtpDrafts.getD req.draftTokens.mtp
      let draftFill := min mtpDrafts.length draftSlots
      let filled := overwrite (settled.set mainPos entry.token) (mainPos + 1)
        (mtpDrafts.take draftSlots)
      some { req with
        forwardingTokens :=
          if draftFill < draftSlots then
            eraseRange filled (mainPos + 1 + draftFill) (mainPos + 1 + draftSlots)
          else filled
        kvCachedTokenNum := mainPos
        prefixCacheLen := mainPos
        forwardingTokensDraftNum := draftFill
        samplingTokenNum := kStepGenerateTokenNum + draftFill }

/-- The fields a snapshot with a placeholder block restores. -/
def restoreFromSnapshot (req : ExecutorInferRequest)
    (snap : Option InferRequestSerializationSnapshot) : ExecutorInferRequest :=
  match snap with
  | some snap =>
    if snap.placeholderOffsetInSnapshot.isSome then
      { req with
        forwardingTokens := snap.forwardingTokens
        kvCachedTokenNum := snap.kvCachedTokenNum
        samplingTokenNum := snap.samplingTokenNum
        forwardingTokensDraftNum := snap.forwardingTokensDraftNum }
    else req
  | none => req

/-- Fit the recorded block to the launch offset when the two disagree. -/
def reconcileOldBlock (req : ExecutorInferRequest) (phOff oldMainPos oldDraftSlots : Nat) :
    Nat × Nat :=
  if 0 < oldDraftSlots ∧ phOff ≠ oldMainPos + 1 + oldDraftSlots then
    if oldMainPos + 1 < phOff then (oldMainPos, min oldDraftSlots (phOff - oldMainPos - 1))
    else (min oldMainPos req.kvCachedTokenNum, 0)
  else (oldMainPos, oldDraftSlots)

/-- The repair of one request of the batch. -/
def repairRequest (snapshots : SerializationSnapshots) (prevRing : List Int)
    (state : MtpSerialState) (cached : ExecutorInferRequest) :
    MtpSerialState × ExecutorInferRequest :=
  let snap := snapshots.lookup cached.reqId
  let req := restoreFromSnapshot cached snap
  match resolveLaunchPlaceholderOffset req snap with
  | none => (state, req)
  | some phOff =>
    if lookupBuildAheadHostRingEntry prevRing req.reqId = none then (state, req)
    else
      let (recordedMainPos, recordedDraftSlots) :=
        (state.lastBlock.lookup req.reqId).getD (req.kvCachedTokenNum, 0)
      let (oldMainPos, oldDraftSlots) :=
        reconcileOldBlock req phOff recordedMainPos recordedDraftSlots
      match repairMtpSerialBlock req prevRing state.acceptedTokens phOff
          req.forwardingTokensDraftNum oldMainPos oldDraftSlots
          (state.nextMtpDrafts.lookup req.reqId) with
      | none => (state, req)
      | some repaired =>
        ({ state with
            lastBlock := state.lastBlock.insert repaired.reqId
              (repaired.kvCachedTokenNum, repaired.forwardingTokensDraftNum)
            nextMtpDrafts := state.nextMtpDrafts.erase repaired.reqId },
          repaired)

def repairRequests (snapshots : SerializationSnapshots) (prevRing : List Int) :
    MtpSerialState → List ExecutorInferRequest → MtpSerialState × List ExecutorInferRequest
  | state, [] => (state, [])
  | state, req :: reqs =>
    let (next, repaired) := repairRequest snapshots prevRing state req
    let (final, rest) := repairRequests snapshots prevRing next reqs
    (final, repaired :: rest)

/-- Repair the whole batch from the ring of the step before. -/
def applyCpuBuildAheadRepairFromRing (snapshots : SerializationSnapshots) (prevRing : List Int)
    (state : MtpSerialState) (reqs : List ExecutorInferRequest) :
    MtpSerialState × List ExecutorInferRequest :=
  if prevRing.headD 0 = 0 then (state, reqs) else repairRequests snapshots prevRing state reqs

/-- Forget the requests that finished or are recomputed. -/
def clearMtpSerialStateForLifecycle (finishReqIds recomputeReqIds : List (List Int))
    (state : MtpSerialState) : MtpSerialState :=
  let dropIds := finishReqIds.flatten ++ recomputeReqIds.flatten
  let kept := (hostRingEntries state.hostRing).filter fun entry => !dropIds.contains entry.reqId
  { hostRing :=
      if dropIds ≠ [] ∧ state.hostRing ≠ [] then
        if kept = [] then [] else writeEntries (initBuildAheadHostRing kept.length) 0 kept
      else state.hostRing
    acceptedTokens := dropIds.foldl (fun map reqId => map.erase reqId) state.acceptedTokens
    lastBlock := dropIds.foldl (fun map reqId => map.erase reqId) state.lastBlock
    nextMtpDrafts := dropIds.foldl (fun map reqId => map.erase reqId) state.nextMtpDrafts }

/-- What a request leaves in the ring. -/
def ringEntryOf (req : ExecutorInferRequest) : HostRingEntry where
  reqId := req.reqId
  token := req.generatedTokens.headD 0
  accepted := req.acceptedTokens.length
  forwardDraft := req.forwardingTokensDraftNum

/-- Write the requests of this batch that generated a token; the entries of the requests
that are not among them stay. -/
def writeMtpSerialHostRingAfterGenerationState (state : MtpSerialState)
    (reqs : List ExecutorInferRequest) : MtpSerialState :=
  let ringReqs := reqs.filter fun req => req.generatedTokens ≠ []
  if ringReqs = [] then state
  else
    let curIds := ringReqs.map ExecutorInferRequest.reqId
    let old := hostRingEntries state.hostRing
    let kept := old.filter fun entry => !curIds.contains entry.reqId
    let overwritten := old.filter fun entry => curIds.contains entry.reqId
    let ring := writeEntries (initBuildAheadHostRing (kept.length + ringReqs.length)) 0 kept
    { state with
      hostRing := writeEntries ring kept.length (ringReqs.map ringEntryOf)
      acceptedTokens := ringReqs.foldl (fun map req => map.insert req.reqId req.acceptedTokens)
        (overwritten.foldl (fun map entry => map.erase entry.reqId) state.acceptedTokens) }

/-- Freeze the drafts of the requests the draft model ran for. -/
def freezeMtpDrafts (state : MtpSerialState) (reqs : List ExecutorInferRequest) : MtpSerialState :=
  { state with
    nextMtpDrafts := (reqs.filter fun req => !isPrefillChunkMidStep req.forwardStepKind).foldl
      (fun map req => map.insert req.reqId req.draftTokens.mtp) state.nextMtpDrafts }

/-- Behind a block with drafts, the accepted ones replace them all. The recorded width
only tells that there were drafts: the erasure ends where the new block starts. -/
theorem settleAcceptedTokens_behind (pre old accepted suf : List Int) (main : Int) {width : Nat}
    (hdrafts : 0 < width) (hfit : accepted.length ≤ old.length) :
    settleAcceptedTokens (pre ++ main :: (old ++ suf)) accepted
      (pre.length + 1 + old.length) pre.length width =
        (pre ++ main :: (accepted ++ suf), pre.length + 1 + accepted.length) := by
  have htrim := InferRequest.trim_rejected pre old accepted suf main hfit
  have hrejected : pre.length + 1 + accepted.length < pre.length + 1 + old.length ↔
      0 < old.length - accepted.length := by omega
  simp only [settleAcceptedTokens, hdrafts, if_true, hrejected, htrim]

theorem settleAcceptedTokens_none (forwardingTokens : List Int) (phOff oldMainPos : Nat) :
    settleAcceptedTokens forwardingTokens [] phOff oldMainPos 0 = (forwardingTokens, phOff) := by
  simp [settleAcceptedTokens]

/-- Once the accepted tokens are in place, the block takes the main token and the drafts
that fit, and the slots left over are erased. -/
theorem repairMtpSerialBlock_settled (req : ExecutorInferRequest) {prevRing : List Int}
    {acceptedMap : AList fun _ : Int => List Int} {entry : HostRingEntry}
    {phOff draftSlots oldMainPos oldDraftSlots : Nat} {tokens accepted : List Int}
    (drafts : List Int)
    (hring : lookupBuildAheadHostRingEntry prevRing req.reqId = some entry)
    (hreal : entry.token ≠ kFastPathPlaceholderTokenId)
    (hcount : entry.accepted = accepted.length)
    (haccepted : acceptedMap.lookup req.reqId = some accepted)
    (hroom : phOff + draftSlots < req.forwardingTokens.length)
    (hsettle : settleAcceptedTokens req.forwardingTokens accepted phOff oldMainPos oldDraftSlots =
      (tokens ++ List.replicate (1 + draftSlots) kFastPathPlaceholderTokenId, tokens.length)) :
    repairMtpSerialBlock req prevRing acceptedMap phOff draftSlots oldMainPos oldDraftSlots
      (some drafts) = some { req with
        forwardingTokens := tokens ++ entry.token :: drafts.take draftSlots
        kvCachedTokenNum := tokens.length
        prefixCacheLen := tokens.length
        forwardingTokensDraftNum := min drafts.length draftSlots
        samplingTokenNum := kStepGenerateTokenNum + min drafts.length draftSlots } := by
  have hall : accepted.take (min entry.accepted.toNat accepted.length) = accepted := by
    rw [hcount]
    simp
  have hfill := InferRequest.fillPlaceholderBlock_reserved tokens drafts draftSlots entry.token
  rw [InferRequest.fillPlaceholderBlock, overwrite] at hfill
  have hroom' : ¬ req.forwardingTokens.length ≤ phOff + draftSlots := by omega
  have herased : (if min drafts.length draftSlots < draftSlots then
      eraseRange (tokens ++ entry.token :: resize drafts draftSlots kFastPathPlaceholderTokenId)
        (tokens.length + 1 + min drafts.length draftSlots) (tokens.length + 1 + draftSlots)
      else tokens ++ entry.token :: resize drafts draftSlots kFastPathPlaceholderTokenId) =
      tokens ++ entry.token :: drafts.take draftSlots := by
    split
    · rename_i hpartial
      have herase := eraseRange_append (tokens ++ entry.token :: drafts.take draftSlots)
        (List.replicate (draftSlots - drafts.length) kFastPathPlaceholderTokenId) []
      have hfirst : (tokens ++ entry.token :: drafts.take draftSlots).length =
          tokens.length + 1 + min drafts.length draftSlots := by
        simp only [List.length_append, List.length_cons, List.length_take]
        omega
      have hlast : tokens.length + 1 + min drafts.length draftSlots +
          (draftSlots - drafts.length) = tokens.length + 1 + draftSlots := by omega
      rw [hfirst, List.length_replicate, hlast] at herase
      simpa [resize] using herase
    · rw [resize_eq_take _ _ (by omega)]
  simp only [repairMtpSerialBlock, hring, hreal, hroom', haccepted, Option.getD_some, hall, hsettle,
    hfill, herased, if_false]

/-- The part of the state that the repair of one request reads. -/
structure RequestView where
  ring : Option HostRingEntry := none
  accepted : Option (List Int) := none
  lastBlock : Option (Nat × Nat) := none
  drafts : Option (List Int) := none

def MtpSerialState.view (state : MtpSerialState) (reqId : Int) : RequestView where
  ring := lookupBuildAheadHostRingEntry state.hostRing reqId
  accepted := state.acceptedTokens.lookup reqId
  lastBlock := state.lastBlock.lookup reqId
  drafts := state.nextMtpDrafts.lookup reqId

theorem restoreFromSnapshot_reqId (req : ExecutorInferRequest)
    (snap : Option InferRequestSerializationSnapshot) :
    (restoreFromSnapshot req snap).reqId = req.reqId := by
  cases snap with
  | none => rfl
  | some snap =>
    simp only [restoreFromSnapshot]
    split <;> rfl

theorem repairMtpSerialBlock_reqId {req repaired : ExecutorInferRequest} {prevRing : List Int}
    {acceptedMap : AList fun _ : Int => List Int}
    {phOff draftSlots oldMainPos oldDraftSlots : Nat} {frozen : Option (List Int)}
    (h : repairMtpSerialBlock req prevRing acceptedMap phOff draftSlots oldMainPos oldDraftSlots
      frozen = some repaired) : repaired.reqId = req.reqId := by
  rw [repairMtpSerialBlock] at h
  split at h
  · cases h
  · split at h
    · cases h
    · split at h
      · cases h
      · cases h
        rfl

/-- The repair of a request leaves the others, the ring and the accepted tokens alone. -/
theorem repairRequest_frame (snapshots : SerializationSnapshots) (prevRing : List Int)
    (state : MtpSerialState) (cached : ExecutorInferRequest) :
    (repairRequest snapshots prevRing state cached).2.reqId = cached.reqId ∧
      (repairRequest snapshots prevRing state cached).1.hostRing = state.hostRing ∧
      ∀ reqId, reqId ≠ cached.reqId →
        (repairRequest snapshots prevRing state cached).1.view reqId = state.view reqId := by
  have hrestored := restoreFromSnapshot_reqId cached (snapshots.lookup cached.reqId)
  rw [repairRequest]
  dsimp only
  split
  · exact ⟨hrestored, rfl, fun _ _ => rfl⟩
  · split
    · exact ⟨hrestored, rfl, fun _ _ => rfl⟩
    · split
      · exact ⟨hrestored, rfl, fun _ _ => rfl⟩
      · rename_i repaired hrepaired
        have hid : repaired.reqId = cached.reqId :=
          (repairMtpSerialBlock_reqId hrepaired).trans hrestored
        refine ⟨hid, rfl, fun reqId hother => ?_⟩
        rw [← hid] at hother
        simp only [MtpSerialState.view, AList.lookup_insert_ne hother, AList.lookup_erase_ne hother]

theorem repairRequests_frame (snapshots : SerializationSnapshots) (prevRing : List Int)
    (state : MtpSerialState) (reqs : List ExecutorInferRequest) :
    (repairRequests snapshots prevRing state reqs).2.map ExecutorInferRequest.reqId =
        reqs.map ExecutorInferRequest.reqId ∧
      ∀ reqId, (∀ req ∈ reqs, req.reqId ≠ reqId) →
        (repairRequests snapshots prevRing state reqs).1.view reqId = state.view reqId := by
  induction reqs generalizing state with
  | nil => exact ⟨rfl, fun _ _ => rfl⟩
  | cons req reqs ih =>
    obtain ⟨hid, -, hview⟩ := repairRequest_frame snapshots prevRing state req
    obtain ⟨hids, hviews⟩ := ih (repairRequest snapshots prevRing state req).1
    refine ⟨?_, fun reqId hother => ?_⟩
    · simp only [repairRequests, List.map_cons, hid, hids]
    · have hhead : reqId ≠ req.reqId := (hother req (List.mem_cons_self ..)).symm
      have htail := hviews reqId fun r hr => hother r (List.mem_cons_of_mem _ hr)
      simp only [repairRequests]
      rw [htail, hview reqId hhead]

/-- What the last step left of a request: its token, how many drafts it accepted and
which, and the drafts frozen for the next step. -/
structure RequestView.Holds (view : RequestView) (token : Int) (accepted drafts : List Int)
    (lastBlock : Option (Nat × Nat)) : Prop where
  ring : ∃ entry, view.ring = some entry ∧ entry.token = token ∧ entry.accepted = accepted.length
  accepted : view.accepted = some accepted
  lastBlock : view.lastBlock = lastBlock
  drafts : view.drafts = some drafts

/-- The request with its block in place behind `tokens`, every draft slot taken. -/
def withBlock (req : ExecutorInferRequest) (tokens : List Int) (main : Int) (drafts : List Int) :
    ExecutorInferRequest :=
  { req with
    forwardingTokens := tokens ++ main :: drafts.take req.forwardingTokensDraftNum
    kvCachedTokenNum := tokens.length
    prefixCacheLen := tokens.length
    samplingTokenNum := kStepGenerateTokenNum + req.forwardingTokensDraftNum }

/-- The request with its block in place behind `tokens`, as many slots taken as there
are drafts. -/
def withDrafts (req : ExecutorInferRequest) (tokens : List Int) (main : Int) (drafts : List Int) :
    ExecutorInferRequest :=
  { req with
    forwardingTokens := tokens ++ main :: drafts.take req.forwardingTokensDraftNum
    kvCachedTokenNum := tokens.length
    prefixCacheLen := tokens.length
    forwardingTokensDraftNum := min drafts.length req.forwardingTokensDraftNum
    samplingTokenNum := kStepGenerateTokenNum + min drafts.length req.forwardingTokensDraftNum }

theorem withDrafts_eq_withBlock {req : ExecutorInferRequest} {drafts : List Int}
    (henough : req.forwardingTokensDraftNum ≤ drafts.length) (tokens : List Int) (main : Int) :
    withDrafts req tokens main drafts = withBlock req tokens main drafts := by
  rw [withDrafts, withBlock, Nat.min_eq_right henough]

section RepairRequest

variable {state : MtpSerialState} {cached : ExecutorInferRequest} {token : Int}
  {accepted drafts : List Int} {lastBlock : Option (Nat × Nat)} {phOff : Nat}
  (hview : (state.view cached.reqId).Holds token accepted drafts lastBlock)
  (hreal : token ≠ kFastPathPlaceholderTokenId)
  (hoffset : cached.launchPlaceholderOffset = some phOff)
  (hroom : phOff + cached.forwardingTokensDraftNum < cached.forwardingTokens.length)
include hview hreal hoffset hroom

theorem repairRequest_settled {tokens : List Int} (oldBlock : Nat × Nat)
    (hreconcile : reconcileOldBlock cached phOff (lastBlock.getD (cached.kvCachedTokenNum, 0)).1
      (lastBlock.getD (cached.kvCachedTokenNum, 0)).2 = oldBlock)
    (hsettle : settleAcceptedTokens cached.forwardingTokens accepted phOff oldBlock.1 oldBlock.2 =
      (tokens ++ List.replicate (1 + cached.forwardingTokensDraftNum) kFastPathPlaceholderTokenId,
        tokens.length)) :
    ∃ next, repairRequest ∅ state.hostRing state cached =
        (next, withDrafts cached tokens token drafts) ∧
      next.hostRing = state.hostRing ∧
      next.view cached.reqId = { state.view cached.reqId with
        lastBlock := some (tokens.length, min drafts.length cached.forwardingTokensDraftNum)
        drafts := none } := by
  obtain ⟨entry, hring, htoken, hcount⟩ := hview.ring
  have hfound : lookupBuildAheadHostRingEntry state.hostRing cached.reqId = some entry := hring
  have haccepted : state.acceptedTokens.lookup cached.reqId = some accepted := hview.accepted
  have hblock : state.lastBlock.lookup cached.reqId = lastBlock := hview.lastBlock
  have hdrafts : state.nextMtpDrafts.lookup cached.reqId = some drafts := hview.drafts
  have hrepaired := repairMtpSerialBlock_settled cached drafts hfound (by rw [htoken]; exact hreal)
    hcount haccepted hroom hsettle
  refine ⟨{ state with
    lastBlock := state.lastBlock.insert cached.reqId
      (tokens.length, min drafts.length cached.forwardingTokensDraftNum)
    nextMtpDrafts := state.nextMtpDrafts.erase cached.reqId }, ?_, rfl, ?_⟩
  · rw [repairRequest]
    simp only [AList.lookup_empty, restoreFromSnapshot, resolveLaunchPlaceholderOffset, hoffset,
      Option.bind_none, hfound, hblock, hreconcile, hdrafts, hrepaired, htoken, reduceCtorEq,
      if_false, withDrafts]
  · simp only [MtpSerialState.view, AList.lookup_insert, AList.lookup_erase]

/-- With no drafts on record and none accepted, the block stands where it was launched. -/
theorem repairRequest_standing {pre : List Int}
    (hfirst : (lastBlock.getD (cached.kvCachedTokenNum, 0)).2 = 0) (hnone : accepted = [])
    (hforwarding : cached.forwardingTokens =
      pre ++ List.replicate (1 + cached.forwardingTokensDraftNum) kFastPathPlaceholderTokenId)
    (hphOff : phOff = pre.length) :
    ∃ next, repairRequest ∅ state.hostRing state cached =
        (next, withDrafts cached pre token drafts) ∧
      next.hostRing = state.hostRing ∧
      next.view cached.reqId = { state.view cached.reqId with
        lastBlock := some (pre.length, min drafts.length cached.forwardingTokensDraftNum)
        drafts := none } := by
  subst hnone hphOff
  refine repairRequest_settled hview hreal hoffset hroom
    ((lastBlock.getD (cached.kvCachedTokenNum, 0)).1, 0) ?_ ?_
  · rw [hfirst]
    simp [reconcileOldBlock]
  · rw [settleAcceptedTokens_none, hforwarding]

/-- A later step: the patch still holds the whole block of the step before, of which
`width` slots took a draft. -/
theorem repairRequest_behind {pre old : List Int} {main : Int} {width : Nat}
    (hnext : lastBlock = some (pre.length, width)) (hwidth : width ≤ old.length)
    (hdrafts : old ≠ [] → 0 < width) (hfit : accepted.length ≤ old.length)
    (hforwarding : cached.forwardingTokens = pre ++ main :: (old ++
      List.replicate (1 + cached.forwardingTokensDraftNum) kFastPathPlaceholderTokenId))
    (hphOff : phOff = pre.length + 1 + old.length) :
    ∃ next, repairRequest ∅ state.hostRing state cached =
        (next, withDrafts cached (pre ++ main :: accepted) token drafts) ∧
      next.hostRing = state.hostRing ∧
      next.view cached.reqId = { state.view cached.reqId with
        lastBlock := some ((pre ++ main :: accepted).length,
          min drafts.length cached.forwardingTokensDraftNum)
        drafts := none } := by
  subst hnext hphOff
  have hlength : (pre ++ main :: accepted).length = pre.length + 1 + accepted.length := by
    simp only [List.length_append, List.length_cons]
    omega
  refine repairRequest_settled hview hreal hoffset hroom (pre.length, width) ?_ ?_
  · simp only [Option.getD_some, reconcileOldBlock]
    split
    · rename_i hshrunk
      rw [if_pos (by omega), Nat.min_eq_left (by omega)]
    · rfl
  · rw [hforwarding, hlength, List.append_assoc, List.cons_append]
    cases old with
    | nil =>
      have hnone : accepted = [] := List.length_eq_zero_iff.mp (by simpa using hfit)
      have hnoWidth : width = 0 := by simpa using hwidth
      subst hnone hnoWidth
      exact settleAcceptedTokens_none _ _ _
    | cons draft rest =>
      exact settleAcceptedTokens_behind pre (draft :: rest) accepted _ main
        (hdrafts (List.cons_ne_nil _ _)) hfit

variable (henough : cached.forwardingTokensDraftNum ≤ drafts.length)
include henough

theorem repairRequest_first {pre : List Int}
    (hfirst : (lastBlock.getD (cached.kvCachedTokenNum, 0)).2 = 0) (hnone : accepted = [])
    (hforwarding : cached.forwardingTokens =
      pre ++ List.replicate (1 + cached.forwardingTokensDraftNum) kFastPathPlaceholderTokenId)
    (hphOff : phOff = pre.length) :
    ∃ next, repairRequest ∅ state.hostRing state cached =
        (next, withBlock cached pre token drafts) ∧
      next.hostRing = state.hostRing ∧
      next.view cached.reqId = { state.view cached.reqId with
        lastBlock := some (pre.length, cached.forwardingTokensDraftNum), drafts := none } := by
  have hstanding := repairRequest_standing hview hreal hoffset hroom hfirst hnone hforwarding hphOff
  rwa [withDrafts_eq_withBlock henough, Nat.min_eq_right henough] at hstanding

/-- A later step: the patch still holds the whole block of the step before. -/
theorem repairRequest_next {pre old : List Int} {main : Int}
    (hnext : lastBlock = some (pre.length, old.length)) (hfit : accepted.length ≤ old.length)
    (hforwarding : cached.forwardingTokens = pre ++ main :: (old ++
      List.replicate (1 + cached.forwardingTokensDraftNum) kFastPathPlaceholderTokenId))
    (hphOff : phOff = pre.length + 1 + old.length) :
    ∃ next, repairRequest ∅ state.hostRing state cached =
        (next, withBlock cached (pre ++ main :: accepted) token drafts) ∧
      next.hostRing = state.hostRing ∧
      next.view cached.reqId = { state.view cached.reqId with
        lastBlock := some ((pre ++ main :: accepted).length, cached.forwardingTokensDraftNum)
        drafts := none } := by
  have hbehind := repairRequest_behind hview hreal hoffset hroom hnext (Nat.le_refl _)
    List.length_pos_iff.mpr hfit hforwarding hphOff
  rwa [withDrafts_eq_withBlock henough, Nat.min_eq_right henough] at hbehind

end RepairRequest

end KsanaBuildAhead.Executor
