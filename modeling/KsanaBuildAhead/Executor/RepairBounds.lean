import KsanaBuildAhead.Executor.MtpRepair
import KsanaBuildAhead.Lib.VectorAccess

/-!
# Accesses of the repair

The guards of the repair look at the launch offset and the draft slots. The accesses also use
where the recorded block starts and how many drafts were accepted, all of them 64-bit numbers
from different places.
-/
namespace KsanaBuildAhead.Executor

open KsanaBuildAhead.Runtime KsanaBuildAhead.Lib.ListEdit KsanaBuildAhead.Lib.VectorAccess

/-- The arguments of `RepairMtpSerialBlock` that come from its caller. -/
structure RepairCall where
  req : ExecutorInferRequest
  phOff : Nat
  draftSlots : Nat
  oldMainPos : Nat
  oldDraftSlots : Nat
  frozenMtpDrafts : Option (List Int)

/-- `reconcileOldBlock` on sizes that wrap. -/
def reconcileOldBlockSizes (kvCachedTokenNum phOff oldMainPos oldDraftSlots : Nat) : Nat × Nat :=
  if 0 < oldDraftSlots ∧ phOff ≠ addSize (addSize oldMainPos 1) oldDraftSlots then
    if addSize oldMainPos 1 < phOff then
      (oldMainPos, min oldDraftSlots ((phOff + 2 ^ 64 - (oldMainPos + 1)) % 2 ^ 64))
    else (min oldMainPos kvCachedTokenNum, 0)
  else (oldMainPos, oldDraftSlots)

/-- The call `ApplyCpuBuildAheadRepairFromRing` makes for a request, if its guards let it. -/
def repairCall (snapshots : SerializationSnapshots) (prevRing : List Int) (state : MtpSerialState)
    (cached : ExecutorInferRequest) : Option RepairCall :=
  let snap := snapshots.lookup cached.reqId
  let req := restoreFromSnapshot cached snap
  match resolveLaunchPlaceholderOffset req snap with
  | none => none
  | some phOff =>
    if lookupBuildAheadHostRingEntry prevRing req.reqId = none then none
    else
      let recorded := (state.lastBlock.lookup req.reqId).getD (req.kvCachedTokenNum, 0)
      let old := reconcileOldBlockSizes req.kvCachedTokenNum phOff recorded.1 recorded.2
      some {
        req := req
        phOff := phOff
        draftSlots := req.forwardingTokensDraftNum
        oldMainPos := old.1
        oldDraftSlots := old.2
        frozenMtpDrafts := state.nextMtpDrafts.lookup req.reqId }

namespace RepairCall

/-- The ring entry the block is repaired from, when the guards let the repair proceed. -/
def proceeds (call : RepairCall) (prevRing : List Int) : Option HostRingEntry :=
  match lookupBuildAheadHostRingEntry prevRing call.req.reqId with
  | none => none
  | some entry =>
    if entry.token = kFastPathPlaceholderTokenId then none
    else if call.req.forwardingTokens.length ≤ addSize call.phOff call.draftSlots then none
    else some entry

/-- The accepted drafts the repair puts in place. -/
def acceptedTokens (call : RepairCall) (acceptedMap : AList fun _ : Int => List Int)
    (entry : HostRingEntry) : List Int :=
  let acceptedVals := (acceptedMap.lookup call.req.reqId).getD []
  acceptedVals.take (min entry.accepted.toNat acceptedVals.length)

/-- Put the accepted drafts in place, every access checked. -/
def settleAccesses (call : RepairCall) (accepted : List Int) : Option (List Int × Nat) :=
  if 0 < call.oldDraftSlots then do
    let written ← writeRun call.req.forwardingTokens (addSize call.oldMainPos 1) accepted
    let newMainPos := addSize (addSize call.oldMainPos 1) accepted.length
    if newMainPos < call.phOff then do
      let erased ← eraseSpan written newMainPos call.phOff
      some (erased, newMainPos)
    else some (written, newMainPos)
  else if accepted = [] then some (call.req.forwardingTokens, addSize call.phOff 0)
  else do
    let inserted ← insertSpan call.req.forwardingTokens call.phOff accepted
    some (inserted, addSize call.phOff accepted.length)

/-- Write the main token and the drafts and trim the block, every access checked. -/
def blockAccesses (settled : List Int) (mainPos : Nat) (token : Int) (mtpDrafts : List Int)
    (draftSlots : Nat) : Option (List Int) := do
  let main ← writeIndex settled mainPos token
  let filled ← writeRun main (addSize mainPos 1) (mtpDrafts.take draftSlots)
  let draftFill := min mtpDrafts.length draftSlots
  if draftFill < draftSlots then
    eraseSpan filled (addSize (addSize mainPos 1) draftFill) (addSize (addSize mainPos 1) draftSlots)
  else some filled

/-- The accesses of a repair that proceeds, and the tokens they leave. -/
def accesses (call : RepairCall) (acceptedMap : AList fun _ : Int => List Int)
    (entry : HostRingEntry) : Option (List Int) := do
  let (settled, mainPos) ← call.settleAccesses (call.acceptedTokens acceptedMap entry)
  blockAccesses settled mainPos entry.token (call.frozenMtpDrafts.getD call.req.draftTokens.mtp)
    call.draftSlots

/-- What the types of the numbers and vectors promise. -/
structure FitsSizes (call : RepairCall) (acceptedMap : AList fun _ : Int => List Int) : Prop where
  phOff : call.phOff < 2 ^ 64
  draftSlots : call.draftSlots < 2 ^ 64
  forwarding : call.req.forwardingTokens.length < 2 ^ 62
  accepted : ((acceptedMap.lookup call.req.reqId).getD []).length < 2 ^ 62

/-- The settled tokens with the main token, the drafts that fit and no slot left over. -/
def fillBlock (settled : List Int) (mainPos : Nat) (token : Int) (mtpDrafts : List Int)
    (draftSlots : Nat) : List Int :=
  let draftFill := min mtpDrafts.length draftSlots
  let filled := overwrite (settled.set mainPos token) (mainPos + 1) (mtpDrafts.take draftSlots)
  if draftFill < draftSlots then
    eraseRange filled (mainPos + 1 + draftFill) (mainPos + 1 + draftSlots)
  else filled

section Block

variable {settled mtpDrafts : List Int} {mainPos draftSlots : Nat} {token : Int}

theorem blockAccesses_of_room (hsettled : settled.length < 2 ^ 63)
    (hroom : mainPos + draftSlots < settled.length) :
    blockAccesses settled mainPos token mtpDrafts draftSlots =
      some (fillBlock settled mainPos token mtpDrafts draftSlots) := by
  have hset : (settled.set mainPos token).length = settled.length := List.length_set
  have htake : (mtpDrafts.take draftSlots).length = min draftSlots mtpDrafts.length :=
    List.length_take
  have hwrite : writeIndex settled mainPos token = some (settled.set mainPos token) :=
    writeIndex_eq_some.mpr ⟨by omega, rfl⟩
  have hnext : addSize mainPos 1 = mainPos + 1 := addSize_of_lt (by omega)
  have hfill : writeRun (settled.set mainPos token) (mainPos + 1) (mtpDrafts.take draftSlots) =
      some (overwrite (settled.set mainPos token) (mainPos + 1) (mtpDrafts.take draftSlots)) :=
    (writeRun_eq_some (by omega)).mpr ⟨Or.inr (by omega), rfl⟩
  have hlast : addSize (mainPos + 1) draftSlots = mainPos + 1 + draftSlots :=
    addSize_of_lt (by omega)
  have hfirst : addSize (mainPos + 1) (min mtpDrafts.length draftSlots) =
      mainPos + 1 + min mtpDrafts.length draftSlots := addSize_of_lt (by omega)
  rw [blockAccesses, hwrite, hnext, Option.bind_eq_bind, Option.bind_some, hfill,
    Option.bind_some, fillBlock]
  dsimp only
  rw [hfirst, hlast]
  split
  · refine eraseSpan_eq_some.mpr ⟨⟨by omega, ?_⟩, rfl⟩
    rw [overwrite_length, hset]
    omega
  · rfl

theorem room_of_blockAccesses {out : List Int} (hslots : draftSlots < 2 ^ 64)
    (hsettled : settled.length < 2 ^ 63)
    (h : blockAccesses settled mainPos token mtpDrafts draftSlots = some out) :
    mainPos + draftSlots < settled.length := by
  have hset : (settled.set mainPos token).length = settled.length := List.length_set
  have htake : (mtpDrafts.take draftSlots).length = min draftSlots mtpDrafts.length :=
    List.length_take
  obtain ⟨main, hwrite, h⟩ := Option.bind_eq_some_iff.mp h
  obtain ⟨hin, rfl⟩ := writeIndex_eq_some.mp hwrite
  obtain ⟨filled, hfill, h⟩ := Option.bind_eq_some_iff.mp h
  have hnext : addSize mainPos 1 = mainPos + 1 := addSize_of_lt (by omega)
  rw [hnext] at hfill h
  obtain ⟨hfits, rfl⟩ := (writeRun_eq_some (by omega)).mp hfill
  have hwritten : min draftSlots mtpDrafts.length = 0 ∨
      mainPos + 1 + min draftSlots mtpDrafts.length ≤ settled.length := by
    rcases hfits with hnone | hfits
    · left
      rw [← htake, hnone]
      rfl
    · right
      omega
  dsimp only at h
  split at h
  case isTrue hshort =>
    obtain ⟨⟨hle, hlast⟩, -⟩ := eraseSpan_eq_some.mp h
    rw [overwrite_length, hset] at hlast
    have hfirst : addSize (mainPos + 1) (min mtpDrafts.length draftSlots) =
        mainPos + 1 + min mtpDrafts.length draftSlots := addSize_of_lt (by omega)
    rw [hfirst] at hle
    by_cases hwrap : mainPos + 1 + draftSlots < 2 ^ 64
    · rw [addSize_of_lt hwrap] at hlast
      omega
    · -- Wrapped, the end of the block would lie before its start.
      have hback := addSize_wraps (by omega) hslots (Nat.le_of_not_lt hwrap)
      omega
  case isFalse hfull => omega

end Block

section Settle

variable {call : RepairCall} {accepted settled : List Int} {mainPos : Nat}

/-- Where the main token goes behind the accepted drafts of a recorded block. -/
def settledPos (call : RepairCall) (acceptedNum : Nat) : Nat :=
  addSize call.oldMainPos 1 + acceptedNum

/-- The settled tokens hold the block when the launched sequence holds the placeholders, and the
recorded block leaves room for what is put behind it. -/
def LeavesRoom (call : RepairCall) (acceptedNum : Nat) : Prop :=
  call.phOff + call.draftSlots < call.req.forwardingTokens.length ∧
    (call.oldDraftSlots = 0 ∨
      call.settledPos acceptedNum + call.draftSlots < call.req.forwardingTokens.length)

theorem settleAccesses_length (hforwarding : call.req.forwardingTokens.length < 2 ^ 62)
    (h : call.settleAccesses accepted = some (settled, mainPos)) :
    settled.length ≤ call.req.forwardingTokens.length + accepted.length := by
  rw [settleAccesses] at h
  split at h
  case isTrue =>
    obtain ⟨written, hwritten, h⟩ := Option.bind_eq_some_iff.mp h
    obtain ⟨-, rfl⟩ := (writeRun_eq_some (by omega)).mp hwritten
    dsimp only at h
    split at h
    case isTrue =>
      obtain ⟨erased, herased, h⟩ := Option.bind_eq_some_iff.mp h
      obtain ⟨⟨hle, hlast⟩, rfl⟩ := eraseSpan_eq_some.mp herased
      obtain ⟨rfl, -⟩ := Prod.mk.inj (Option.some.inj h)
      rw [eraseRange_length _ hle hlast, overwrite_length]
      omega
    case isFalse =>
      obtain ⟨rfl, -⟩ := Prod.mk.inj (Option.some.inj h)
      rw [overwrite_length]
      omega
  case isFalse =>
    split at h
    case isTrue =>
      obtain ⟨rfl, -⟩ := Prod.mk.inj (Option.some.inj h)
      omega
    case isFalse =>
      obtain ⟨inserted, hinserted, h⟩ := Option.bind_eq_some_iff.mp h
      obtain ⟨hle, rfl⟩ := insertSpan_eq_some.mp hinserted
      obtain ⟨rfl, -⟩ := Prod.mk.inj (Option.some.inj h)
      simp only [List.length_append, List.length_take, List.length_drop]
      omega

/-- Behind a recorded block that leaves room the accepted drafts are inside, and so is the block. -/
theorem settleAccesses_of_room (hforwarding : call.req.forwardingTokens.length < 2 ^ 62)
    (haccepted : accepted.length < 2 ^ 62) (hroom : call.LeavesRoom accepted.length) :
    ∃ settled mainPos, call.settleAccesses accepted = some (settled, mainPos) ∧
      mainPos + call.draftSlots < settled.length ∧
      (call.oldMainPos + 1 < 2 ^ 64 → settleAcceptedTokens call.req.forwardingTokens accepted
        call.phOff call.oldMainPos call.oldDraftSlots = (settled, mainPos)) := by
  obtain ⟨hplaceholders, hold⟩ := hroom
  rw [settledPos] at hold
  rw [settleAccesses]
  by_cases hrecorded : 0 < call.oldDraftSlots
  · have hmain : addSize call.oldMainPos 1 + accepted.length + call.draftSlots <
        call.req.forwardingTokens.length := hold.resolve_left (by omega)
    have hpos : addSize (addSize call.oldMainPos 1) accepted.length =
        addSize call.oldMainPos 1 + accepted.length := addSize_of_lt (by omega)
    have hwritten : writeRun call.req.forwardingTokens (addSize call.oldMainPos 1) accepted =
        some (overwrite call.req.forwardingTokens (addSize call.oldMainPos 1) accepted) :=
      (writeRun_eq_some (by omega)).mpr ⟨Or.inr (by omega), rfl⟩
    rw [if_pos hrecorded, hwritten, Option.bind_eq_bind, Option.bind_some, hpos]
    dsimp only
    by_cases hbefore : addSize call.oldMainPos 1 + accepted.length < call.phOff
    · have hspan : addSize call.oldMainPos 1 + accepted.length ≤ call.phOff ∧ call.phOff ≤
          (overwrite call.req.forwardingTokens (addSize call.oldMainPos 1) accepted).length := by
        rw [overwrite_length]
        omega
      rw [if_pos hbefore, eraseSpan_eq_some.mpr ⟨hspan, rfl⟩]
      refine ⟨_, _, rfl, ?_, fun hnowrap => ?_⟩
      · rw [eraseRange_length _ hspan.1 hspan.2, overwrite_length]
        omega
      · rw [addSize_of_lt hnowrap] at hbefore ⊢
        rw [settleAcceptedTokens, if_pos hrecorded]
        dsimp only
        rw [if_pos hbefore]
    · rw [if_neg hbefore]
      refine ⟨_, _, rfl, ?_, fun hnowrap => ?_⟩
      · rw [overwrite_length]
        exact hmain
      · rw [addSize_of_lt hnowrap] at hbefore ⊢
        rw [settleAcceptedTokens, if_pos hrecorded]
        dsimp only
        rw [if_neg hbefore]
  · rw [if_neg hrecorded]
    by_cases hnone : accepted = []
    · subst hnone
      rw [if_pos rfl, addSize_of_lt (by omega)]
      refine ⟨_, _, rfl, hplaceholders, fun _ => ?_⟩
      rw [settleAcceptedTokens, if_neg hrecorded, List.append_nil, List.take_append_drop]
      rfl
    · rw [if_neg hnone, insertSpan_eq_some.mpr ⟨by omega, rfl⟩, addSize_of_lt (by omega)]
      refine ⟨_, _, rfl, ?_, fun _ => ?_⟩
      · simp only [List.length_append, List.length_take, List.length_drop]
        omega
      · rw [settleAcceptedTokens, if_neg hrecorded]

theorem room_of_settleAccesses (hphOff : call.phOff < 2 ^ 64)
    (hforwarding : call.req.forwardingTokens.length < 2 ^ 62) (haccepted : accepted.length < 2 ^ 62)
    (h : call.settleAccesses accepted = some (settled, mainPos))
    (hblock : mainPos + call.draftSlots < settled.length) : call.LeavesRoom accepted.length := by
  rw [LeavesRoom, settledPos]
  rw [settleAccesses] at h
  split at h
  case isTrue hrecorded =>
    obtain ⟨written, hwritten, h⟩ := Option.bind_eq_some_iff.mp h
    obtain ⟨hinside, rfl⟩ := (writeRun_eq_some (by omega)).mp hwritten
    have hpos : addSize (addSize call.oldMainPos 1) accepted.length =
        addSize call.oldMainPos 1 + accepted.length := by
      have hlt := addSize_lt call.oldMainPos 1
      rcases hinside with hnone | hinside
      · rw [hnone]
        exact addSize_of_lt (by rw [List.length_nil]; omega)
      · exact addSize_of_lt (by omega)
    rw [hpos] at h
    dsimp only at h
    split at h
    case isTrue hbefore =>
      obtain ⟨erased, herased, h⟩ := Option.bind_eq_some_iff.mp h
      obtain ⟨⟨hle, hlast⟩, rfl⟩ := eraseSpan_eq_some.mp herased
      obtain ⟨rfl, rfl⟩ := Prod.mk.inj (Option.some.inj h)
      rw [eraseRange_length _ hle hlast, overwrite_length] at hblock
      rw [overwrite_length] at hlast
      omega
    case isFalse hbehind =>
      obtain ⟨rfl, rfl⟩ := Prod.mk.inj (Option.some.inj h)
      rw [overwrite_length] at hblock
      omega
  case isFalse hnone =>
    refine ⟨?_, Or.inl (by omega)⟩
    split at h
    case isTrue =>
      obtain ⟨rfl, rfl⟩ := Prod.mk.inj (Option.some.inj h)
      rw [addSize_of_lt (by omega)] at hblock
      exact hblock
    case isFalse =>
      obtain ⟨inserted, hinserted, h⟩ := Option.bind_eq_some_iff.mp h
      obtain ⟨hle, rfl⟩ := insertSpan_eq_some.mp hinserted
      obtain ⟨rfl, rfl⟩ := Prod.mk.inj (Option.some.inj h)
      rw [addSize_of_lt (by omega)] at hblock
      simp only [List.length_append, List.length_take, List.length_drop] at hblock
      omega

end Settle

section Repair

variable {call : RepairCall} {acceptedMap : AList fun _ : Int => List Int} {entry : HostRingEntry}

/-- How many accepted drafts the repair puts in place. -/
def acceptedNum (call : RepairCall) (acceptedMap : AList fun _ : Int => List Int)
    (entry : HostRingEntry) : Nat :=
  min entry.accepted.toNat ((acceptedMap.lookup call.req.reqId).getD []).length

theorem acceptedTokens_length :
    (call.acceptedTokens acceptedMap entry).length = call.acceptedNum acceptedMap entry := by
  rw [acceptedTokens, acceptedNum, List.length_take]
  omega

theorem accesses_iff (hsizes : call.FitsSizes acceptedMap) :
    (∃ out, call.accesses acceptedMap entry = some out) ↔
      call.LeavesRoom (call.acceptedNum acceptedMap entry) := by
  have hforwarding := hsizes.forwarding
  have haccepted : (call.acceptedTokens acceptedMap entry).length < 2 ^ 62 := by
    have hmap := hsizes.accepted
    rw [acceptedTokens_length, acceptedNum]
    omega
  rw [← acceptedTokens_length]
  constructor
  · rintro ⟨out, h⟩
    obtain ⟨⟨settled, mainPos⟩, hsettle, hblock⟩ := Option.bind_eq_some_iff.mp h
    have hlength := settleAccesses_length hforwarding hsettle
    exact room_of_settleAccesses hsizes.phOff hforwarding haccepted hsettle
      (room_of_blockAccesses hsizes.draftSlots (by omega) hblock)
  · intro hroom
    obtain ⟨settled, mainPos, hsettle, hblock, -⟩ :=
      settleAccesses_of_room hforwarding haccepted hroom
    have hlength := settleAccesses_length hforwarding hsettle
    rw [accesses, hsettle]
    exact ⟨_, blockAccesses_of_room (by omega) hblock⟩

theorem proceeds_ok {prevRing : List Int} (h : call.proceeds prevRing = some entry) :
    lookupBuildAheadHostRingEntry prevRing call.req.reqId = some entry ∧
      entry.token ≠ kFastPathPlaceholderTokenId ∧
      addSize call.phOff call.draftSlots < call.req.forwardingTokens.length := by
  rw [proceeds] at h
  split at h
  case h_1 => cases h
  case h_2 found hfound =>
    split at h
    case isTrue => cases h
    case isFalse htoken =>
      split at h
      case isTrue => cases h
      case isFalse hroom =>
        obtain rfl := Option.some.inj h
        exact ⟨hfound, htoken, Nat.lt_of_not_le hroom⟩

/-- Accesses that are all inside leave what the repair on unbounded numbers leaves. -/
theorem accesses_repair {prevRing : List Int} (hsizes : call.FitsSizes acceptedMap)
    (hproceeds : call.proceeds prevRing = some entry) (hnowrap : call.oldMainPos + 1 < 2 ^ 64)
    (hroom : call.LeavesRoom (call.acceptedNum acceptedMap entry)) :
    ∃ repaired, repairMtpSerialBlock call.req prevRing acceptedMap call.phOff call.draftSlots
        call.oldMainPos call.oldDraftSlots call.frozenMtpDrafts = some repaired ∧
      call.accesses acceptedMap entry = some repaired.forwardingTokens := by
  obtain ⟨hfound, htoken, -⟩ := proceeds_ok hproceeds
  have hforwarding := hsizes.forwarding
  have haccepted : (call.acceptedTokens acceptedMap entry).length < 2 ^ 62 := by
    have hmap := hsizes.accepted
    rw [acceptedTokens_length, acceptedNum]
    omega
  have hplaceholders := hroom.1
  rw [← acceptedTokens_length] at hroom
  obtain ⟨settled, mainPos, hsettle, hblock, hsettled⟩ :=
    settleAccesses_of_room hforwarding haccepted hroom
  have hlength := settleAccesses_length hforwarding hsettle
  have hfilled : call.accesses acceptedMap entry = some (fillBlock settled mainPos entry.token
      (call.frozenMtpDrafts.getD call.req.draftTokens.mtp) call.draftSlots) := by
    rw [accesses, hsettle]
    exact blockAccesses_of_room (by omega) hblock
  have hguard : ¬ call.req.forwardingTokens.length ≤ call.phOff + call.draftSlots := by omega
  have hvalues := hsettled hnowrap
  rw [acceptedTokens] at hvalues
  have hrepaired : repairMtpSerialBlock call.req prevRing acceptedMap call.phOff call.draftSlots
      call.oldMainPos call.oldDraftSlots call.frozenMtpDrafts = some { call.req with
        forwardingTokens := fillBlock settled mainPos entry.token
          (call.frozenMtpDrafts.getD call.req.draftTokens.mtp) call.draftSlots
        kvCachedTokenNum := mainPos
        prefixCacheLen := mainPos
        forwardingTokensDraftNum :=
          min (call.frozenMtpDrafts.getD call.req.draftTokens.mtp).length call.draftSlots
        samplingTokenNum := kStepGenerateTokenNum +
          min (call.frozenMtpDrafts.getD call.req.draftTokens.mtp).length call.draftSlots } := by
    simp only [repairMtpSerialBlock, hfound, htoken, hguard, if_false, hvalues, fillBlock]
  exact ⟨_, hrepaired, hfilled⟩

end Repair

/-- A recorded block that is still used ends at the launch offset or before it. -/
theorem reconcileOldBlockSizes_before (kvCachedTokenNum : Nat) {phOff oldMainPos oldDraftSlots : Nat}
    (hphOff : phOff < 2 ^ 64) (hnowrap : oldMainPos + 1 + oldDraftSlots < 2 ^ 64)
    (hused : 0 < (reconcileOldBlockSizes kvCachedTokenNum phOff oldMainPos oldDraftSlots).2) :
    (reconcileOldBlockSizes kvCachedTokenNum phOff oldMainPos oldDraftSlots).1 + 1 +
      (reconcileOldBlockSizes kvCachedTokenNum phOff oldMainPos oldDraftSlots).2 ≤ phOff := by
  have hnext : addSize oldMainPos 1 = oldMainPos + 1 := addSize_of_lt (by omega)
  have hend : addSize (oldMainPos + 1) oldDraftSlots = oldMainPos + 1 + oldDraftSlots :=
    addSize_of_lt hnowrap
  rw [reconcileOldBlockSizes, hnext, hend] at hused ⊢
  split at hused
  case isTrue hdisagree =>
    rw [if_pos hdisagree]
    split at hused
    case isTrue hbehind =>
      rw [if_pos hbehind]
      simp only
      omega
    case isFalse => exact absurd hused (Nat.lt_irrefl 0)
  case isFalse hagree =>
    rw [if_neg hagree]
    by_contra hbeyond
    exact hagree ⟨hused, by simp only at hbeyond; omega⟩

end RepairCall

section Caller

variable {snapshots : SerializationSnapshots} {prevRing : List Int} {state : MtpSerialState}
  {cached : ExecutorInferRequest} {call : RepairCall} {entry : HostRingEntry}

/-- The recorded block the caller starts from. -/
def recordedBlock (state : MtpSerialState) (req : ExecutorInferRequest) : Nat × Nat :=
  (state.lastBlock.lookup req.reqId).getD (req.kvCachedTokenNum, 0)

theorem repairCall_old (h : repairCall snapshots prevRing state cached = some call) :
    (call.oldMainPos, call.oldDraftSlots) = reconcileOldBlockSizes call.req.kvCachedTokenNum
      call.phOff (recordedBlock state call.req).1 (recordedBlock state call.req).2 := by
  rw [repairCall] at h
  split at h
  case h_1 => cases h
  case h_2 =>
    split at h
    case isTrue => cases h
    case isFalse =>
      obtain rfl := Option.some.inj h
      rfl

/-- Not more accepted drafts than the recorded block still has slots leave room. -/
theorem leavesRoom_of_accepted_le (hcall : repairCall snapshots prevRing state cached = some call)
    (hproceeds : call.proceeds prevRing = some entry) (hphOff : call.phOff < 2 ^ 64)
    (hguard : call.phOff + call.draftSlots < 2 ^ 64)
    (hrecorded :
      (recordedBlock state call.req).1 + 1 + (recordedBlock state call.req).2 < 2 ^ 64)
    (hle : call.acceptedNum state.acceptedTokens entry ≤ call.oldDraftSlots) :
    call.LeavesRoom (call.acceptedNum state.acceptedTokens entry) := by
  obtain ⟨-, -, hroom⟩ := RepairCall.proceeds_ok hproceeds
  rw [addSize_of_lt hguard] at hroom
  refine ⟨hroom, ?_⟩
  by_cases hold : call.oldDraftSlots = 0
  · exact Or.inl hold
  · right
    have hbefore := RepairCall.reconcileOldBlockSizes_before call.req.kvCachedTokenNum hphOff
      hrecorded
    rw [← repairCall_old hcall] at hbefore
    have hend := hbefore (Nat.pos_of_ne_zero hold)
    simp only at hend
    rw [RepairCall.settledPos, addSize_of_lt (by omega)]
    omega

/-- Every access of a repair that proceeds is inside the sequence, exactly when the guard has not
wrapped and, behind a recorded block, the accepted drafts leave room for the block. -/
theorem repair_in_bounds (snapshots : SerializationSnapshots) (prevRing : List Int)
    (state : MtpSerialState) (cached : ExecutorInferRequest) :
    ∀ call, repairCall snapshots prevRing state cached = some call →
      ∀ entry, call.proceeds prevRing = some entry → call.FitsSizes state.acceptedTokens →
        ((∃ tokens, call.accesses state.acceptedTokens entry = some tokens) ↔
          call.LeavesRoom (call.acceptedNum state.acceptedTokens entry)) :=
  fun _ _ _ _ hsizes => RepairCall.accesses_iff hsizes

end Caller

/-! Behind a recorded block with two drafts, of which the launch offset leaves one, both drafts
were accepted. -/

def tightenedState : MtpSerialState where
  hostRing := [1, 7, 50, 2, 2]
  acceptedTokens := (∅ : AList fun _ : Int => List Int).insert 7 [30, 31]
  lastBlock := (∅ : AList fun _ : Int => Nat × Nat).insert 7 (0, 2)
  nextMtpDrafts := (∅ : AList fun _ : Int => List Int).insert 7 [40]

def tightenedRequest : ExecutorInferRequest where
  reqId := 7
  launchPlaceholderOffset := some 2
  forwardingTokensDraftNum := 1
  forwardingTokens := [11, 20, -1, -1]

def tightenedCall : RepairCall where
  req := tightenedRequest
  phOff := 2
  draftSlots := 1
  oldMainPos := 0
  oldDraftSlots := 1
  frozenMtpDrafts := some [40]

/-! Behind the same record one draft was accepted, and the launch offset leaves both. -/

def roomyState : MtpSerialState where
  hostRing := [1, 7, 50, 2, 1]
  acceptedTokens := (∅ : AList fun _ : Int => List Int).insert 7 [30]
  lastBlock := (∅ : AList fun _ : Int => Nat × Nat).insert 7 (1, 2)
  nextMtpDrafts := (∅ : AList fun _ : Int => List Int).insert 7 [40]

def roomyRequest : ExecutorInferRequest where
  reqId := 7
  launchPlaceholderOffset := some 4
  forwardingTokensDraftNum := 1
  forwardingTokens := [11, 20, 30, 31, -1, -1]

def roomyCall : RepairCall where
  req := roomyRequest
  phOff := 4
  draftSlots := 1
  oldMainPos := 1
  oldDraftSlots := 2
  frozenMtpDrafts := some [40]

theorem repair_in_bounds_tightened :
    ((∃ tokens, tightenedCall.accesses tightenedState.acceptedTokens ⟨7, 50, 2, 2⟩ =
        some tokens) ↔
      tightenedCall.LeavesRoom
        (tightenedCall.acceptedNum tightenedState.acceptedTokens ⟨7, 50, 2, 2⟩)) ∧
    ∃ tokens, roomyCall.accesses roomyState.acceptedTokens ⟨7, 50, 2, 1⟩ = some tokens := by
  constructor
  · exact repair_in_bounds ∅ tightenedState.hostRing tightenedState tightenedRequest
      tightenedCall rfl ⟨7, 50, 2, 2⟩ (by decide) ⟨by decide, by decide, by decide, by decide⟩
  · have hbounds := repair_in_bounds ∅ roomyState.hostRing roomyState roomyRequest roomyCall rfl
      ⟨7, 50, 2, 1⟩ (by decide) ⟨by decide, by decide, by decide, by decide⟩
    exact hbounds.mpr ⟨by decide, Or.inr (by decide)⟩

/-- The rejected draft is gone, and the block is filled behind the accepted one. -/
example : roomyCall.accesses roomyState.acceptedTokens ⟨7, 50, 2, 1⟩ =
    some [11, 20, 30, 50, 40] := by decide

/-- The guards let the repair proceed, and the draft slot behind the main token is outside. -/
theorem repair_writes_outside :
    repairCall ∅ tightenedState.hostRing tightenedState tightenedRequest = some tightenedCall ∧
      tightenedCall.proceeds tightenedState.hostRing = some ⟨7, 50, 2, 2⟩ ∧
      tightenedCall.accesses tightenedState.acceptedTokens ⟨7, 50, 2, 2⟩ = none :=
  ⟨rfl, by decide, by decide⟩

end KsanaBuildAhead.Executor
