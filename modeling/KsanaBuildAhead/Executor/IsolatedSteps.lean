import KsanaBuildAhead.Executor.OverlappedSteps
import Mathlib.Data.List.Sort

/-!
# Schedules that leave a step alone

Preprocess alone decides what the cache holds at each of its writes, but for the counts of drafts.
So whether a step can be disturbed is read off the schedules: the next one must leave what the
step still reads, and expect the drafts the step counts into the shared requests.
-/
namespace KsanaBuildAhead.Executor

open KsanaBuildAhead.Runtime KsanaBuildAhead.Engine KsanaBuildAhead.Lib.Execution

/-- The cache after these transfers, when no step runs. -/
def transferAll (requests : CachedRequests) (transfers : List RequestTransfer) : CachedRequests :=
  transfers.foldl (fun requests transfer => transfer.apply requests) requests

/-- The requests of a step have what it was built with. The tokens and the number of sampled
tokens are read only by a step that samples. -/
abbrev BuiltStep.ReadsHeld (step : BuiltStep) (requests : CachedRequests) : Prop :=
  ∀ reqId ∈ step.reqIds,
    hiddenTokenNum (requests reqId) = hiddenTokenNum (step.held reqId) ∧
    (requests reqId).forwardStepKind = (step.held reqId).forwardStepKind ∧
    (step.sampledReqIds ≠ [] →
      (requests reqId).forwardingTokens = (step.held reqId).forwardingTokens ∧
      (requests reqId).samplingTokenNum = (step.held reqId).samplingTokenNum)

instance (step : BuiltStep) (requests : CachedRequests) : Decidable (step.ReadsHeld requests) := by
  unfold BuiltStep.ReadsHeld
  infer_instance

section Condition

variable [DraftTokensApi]

/-- What a step leaves in `sampling_token_num` of a request it samples. -/
def BuiltStep.countedTokens (step : BuiltStep) (reqId : Int) : Nat :=
  kStepGenerateTokenNum + DraftTokensApi.size
    (step.results step.heldUses.toSampledUses reqId).draftTokens

/-- The next step, if it samples, was built with the number the step before counts. -/
abbrev BuiltStep.DraftsExpected (step next : BuiltStep) : Prop :=
  next.sampledReqIds ≠ [] → ∀ reqId ∈ next.reqIds, reqId ∈ step.sampledReqIds →
    step.countedTokens reqId = (next.held reqId).samplingTokenNum

instance (step next : BuiltStep) : Decidable (step.DraftsExpected next) := by
  unfold BuiltStep.DraftsExpected
  infer_instance

/-- The step of a schedule when no other step runs. -/
def stepAlone (requests : CachedRequests) (schedule : ExecutorSchedule) : BuiltStep :=
  buildModelInput (transferAll requests schedule.transfers) schedule

/-- A schedule after a step: no part of its transfers changes what the step reads, and it expects
the drafts the step counts. -/
abbrev StepSpared (step : BuiltStep) (requests : CachedRequests) (schedule : ExecutorSchedule) :
    Prop :=
  (∀ applied ∈ schedule.transfers.inits, step.ReadsHeld (transferAll requests applied)) ∧
    step.DraftsExpected (stepAlone requests schedule)

/-- Every schedule spares the step before it. -/
def SchedulesSpare : Option BuiltStep → CachedRequests → List ExecutorSchedule → Prop
  | _, _, [] => True
  | last, requests, schedule :: rest =>
    (∀ step ∈ last, StepSpared step requests schedule) ∧
      SchedulesSpare (some (stepAlone requests schedule)) (stepAlone requests schedule).held rest

instance decidableSchedulesSpare : ∀ last requests schedules,
    Decidable (SchedulesSpare last requests schedules)
  | _, _, [] => isTrue trivial
  | last, requests, schedule :: rest =>
    haveI := decidableSchedulesSpare (some (stepAlone requests schedule))
      (stepAlone requests schedule).held rest
    haveI : Decidable (∀ step ∈ last, StepSpared step requests schedule) :=
      match last with
      | none => isTrue nofun
      | some step => decidable_of_iff (StepSpared step requests schedule)
          ⟨fun h _ hother => Option.some.inj hother ▸ h, fun h => h step rfl⟩
    inferInstanceAs (Decidable (_ ∧ _))

end Condition

/-- Every request is cached under its own id. -/
def Keyed (requests : CachedRequests) : Prop := ∀ reqId, (requests reqId).reqId = reqId

/-- The fields of a request that a step on the Execute thread does not write. -/
def transferred (req : ExecutorInferRequest) : ExecutorInferRequest :=
  { req with
    samplingTokenNum := 0
    logitsOffset := 0
    generatedTokens := []
    acceptedTokens := []
    draftTokens := {}
    samplingResultTokens := [] }

/-- Two caches that only steps on the Execute thread have written differently. -/
def SameTransfers (requests others : CachedRequests) : Prop :=
  ∀ reqId, transferred (requests reqId) = transferred (others reqId)

section Transfers

variable {requests others : CachedRequests} {reqId : Int}

theorem SameTransfers.field {α : Type} (h : SameTransfers requests others)
    (f : ExecutorInferRequest → α) (hf : ∀ req, f (transferred req) = f req) (reqId : Int) :
    f (requests reqId) = f (others reqId) := by
  rw [← hf, h, hf]

theorem SameTransfers.keyed (h : SameTransfers requests others) (hkeyed : Keyed others) :
    Keyed requests := fun reqId =>
  (h.field (fun req => req.reqId) (fun _ => rfl) reqId).trans (hkeyed reqId)

def RequestTransfer.samplingTokenNum : RequestTransfer → Nat
  | .full req => req.samplingTokenNum
  | .patch changes => changes.samplingTokenNum

theorem apply_samplingTokenNum (transfer : RequestTransfer) (requests : CachedRequests) :
    (transfer.apply requests transfer.reqId).samplingTokenNum = transfer.samplingTokenNum := by
  unfold RequestTransfer.apply
  rw [Function.update_self]
  cases transfer <;> rfl

theorem apply_of_ne {transfer : RequestTransfer} (requests : CachedRequests)
    (h : reqId ≠ transfer.reqId) : transfer.apply requests reqId = requests reqId :=
  Function.update_of_ne h _ _

theorem SameTransfers.apply (h : SameTransfers requests others) (transfer : RequestTransfer) :
    SameTransfers (transfer.apply requests) (transfer.apply others) := by
  intro reqId
  by_cases hreq : reqId = transfer.reqId
  · subst hreq
    unfold RequestTransfer.apply
    rw [Function.update_self, Function.update_self]
    cases transfer with
    | full req => rfl
    | patch changes =>
      have hpatch : ∀ req, transferred (overwriteByPatch changes req) =
          transferred (overwriteByPatch changes (transferred req)) := fun _ => rfl
      dsimp only
      rw [hpatch, show transferred (requests changes.reqId) = _ from h changes.reqId, ← hpatch]
  · rw [apply_of_ne _ hreq, apply_of_ne _ hreq, h]

theorem Keyed.apply (h : Keyed requests) (transfer : RequestTransfer) :
    Keyed (transfer.apply requests) := by
  intro reqId
  by_cases hreq : reqId = transfer.reqId
  · subst hreq
    unfold RequestTransfer.apply
    rw [Function.update_self]
    cases transfer with
    | full req => rfl
    | patch changes => exact h changes.reqId
  · rw [apply_of_ne _ hreq, h]

variable {transfers : List RequestTransfer}

theorem transferAll_concat (requests : CachedRequests) (transfers : List RequestTransfer)
    (transfer : RequestTransfer) :
    transferAll requests (transfers ++ [transfer]) =
      transfer.apply (transferAll requests transfers) := by
  rw [transferAll, List.foldl_append]
  rfl

theorem SameTransfers.transferAll (h : SameTransfers requests others)
    (transfers : List RequestTransfer) :
    SameTransfers (transferAll requests transfers) (transferAll others transfers) := by
  induction transfers using List.reverseRecOn with
  | nil => exact h
  | append_singleton transfers transfer ih =>
    rw [transferAll_concat, transferAll_concat]
    exact ih.apply transfer

theorem Keyed.transferAll (h : Keyed requests) (transfers : List RequestTransfer) :
    Keyed (transferAll requests transfers) := by
  induction transfers using List.reverseRecOn with
  | nil => exact h
  | append_singleton transfers transfer ih =>
    rw [transferAll_concat]
    exact ih.apply transfer

theorem transferAll_of_notMem (requests : CachedRequests)
    (h : reqId ∉ transfers.map RequestTransfer.reqId) :
    transferAll requests transfers reqId = requests reqId := by
  induction transfers using List.reverseRecOn with
  | nil => rfl
  | append_singleton transfers transfer ih =>
    rw [List.map_append, List.mem_append, not_or, List.map_singleton, List.mem_singleton] at h
    rw [transferAll_concat, apply_of_ne _ h.2, ih h.1]

/-- A request some transfer is for has the number of the last one, whatever was cached. -/
theorem transferAll_samplingTokenNum (requests others : CachedRequests)
    (h : reqId ∈ transfers.map RequestTransfer.reqId) :
    (transferAll requests transfers reqId).samplingTokenNum =
      (transferAll others transfers reqId).samplingTokenNum := by
  induction transfers using List.reverseRecOn with
  | nil => exact absurd h List.not_mem_nil
  | append_singleton transfers transfer ih =>
    rw [transferAll_concat, transferAll_concat]
    by_cases hreq : reqId = transfer.reqId
    · rw [hreq, apply_samplingTokenNum, apply_samplingTokenNum]
    · rw [List.map_append, List.mem_append, List.map_singleton, List.mem_singleton] at h
      rw [apply_of_ne _ hreq, apply_of_ne _ hreq, ih (h.resolve_right hreq)]

end Transfers

section Build

variable {requests others : CachedRequests} {schedule : ExecutorSchedule} {reqId : Int}

/-- The requests of a schedule in the order of the step. -/
def orderedReqs (requests : CachedRequests) (schedule : ExecutorSchedule) :
    List ExecutorInferRequest :=
  reorderInferRequestsBuildAhead (schedule.transfers.map fun transfer => requests transfer.reqId)

theorem orderedReqs_mem (hkeyed : Keyed requests) {req : ExecutorInferRequest} :
    req ∈ orderedReqs requests schedule ↔
      req = requests req.reqId ∧ req.reqId ∈ schedule.transfers.map RequestTransfer.reqId := by
  rw [orderedReqs, reorderInferRequestsBuildAhead, List.mem_insertionSort, List.mem_map]
  constructor
  · rintro ⟨transfer, hmem, rfl⟩
    rw [hkeyed]
    exact ⟨rfl, List.mem_map_of_mem hmem⟩
  · rintro ⟨hreq, hmem⟩
    obtain ⟨transfer, htransfer, hid⟩ := List.mem_map.mp hmem
    exact ⟨transfer, htransfer, by rw [hid, ← hreq]⟩

theorem reqIds_eq (requests : CachedRequests) (schedule : ExecutorSchedule) :
    (buildModelInput requests schedule).reqIds =
      (orderedReqs requests schedule).map fun req => req.reqId := by
  simp only [buildModelInput, buildForwardRequests, List.map_map]
  exact resetLogitsOffsets_map (fun req => req.reqId) (fun _ _ => rfl) 0 _

theorem mem_reqIds (hkeyed : Keyed requests) :
    reqId ∈ (buildModelInput requests schedule).reqIds ↔
      reqId ∈ schedule.transfers.map RequestTransfer.reqId := by
  rw [reqIds_eq, List.mem_map]
  constructor
  · rintro ⟨req, hreq, rfl⟩
    exact ((orderedReqs_mem hkeyed).mp hreq).2
  · intro hmem
    refine ⟨requests reqId, (orderedReqs_mem hkeyed).mpr ?_, hkeyed reqId⟩
    rw [hkeyed]
    exact ⟨rfl, hmem⟩

theorem SameTransfers.orderedReqs (h : SameTransfers requests others)
    (schedule : ExecutorSchedule) :
    (orderedReqs requests schedule).map transferred =
      (Executor.orderedReqs others schedule).map transferred := by
  have hsorted : ∀ reqs : List ExecutorInferRequest,
      (reorderInferRequestsBuildAhead reqs).map transferred =
        reorderInferRequestsBuildAhead (reqs.map transferred) := fun reqs =>
    List.map_insertionSort _ _ _ _ fun a _ b _ => Iff.rfl
  rw [Executor.orderedReqs, Executor.orderedReqs, hsorted, hsorted, List.map_map, List.map_map]
  exact congrArg _ (List.map_congr_left fun transfer _ => h transfer.reqId)

theorem orderedReqs_eq (hkeyed : Keyed requests) (schedule : ExecutorSchedule) :
    orderedReqs requests schedule = (buildModelInput requests schedule).reqIds.map requests := by
  rw [reqIds_eq, List.map_map]
  refine (List.map_id _).symm.trans (List.map_congr_left fun req hreq => ?_)
  exact ((orderedReqs_mem hkeyed).mp hreq).1

theorem SameTransfers.reqIds (h : SameTransfers requests others) (schedule : ExecutorSchedule) :
    (buildModelInput requests schedule).reqIds = (buildModelInput others schedule).reqIds := by
  have hordered := congrArg (List.map fun req => req.reqId) (h.orderedReqs schedule)
  rw [List.map_map, List.map_map] at hordered
  rw [reqIds_eq, reqIds_eq]
  exact hordered

theorem resetLogitsOffsets_congr {reqs others : List ExecutorInferRequest} (offset : Nat)
    (h : reqs.map (fun req => req.samplingTokenNum) =
      others.map fun req => req.samplingTokenNum) :
    (resetLogitsOffsetsAfterReorder offset reqs).map (fun req => req.logitsOffset) =
      (resetLogitsOffsetsAfterReorder offset others).map fun req => req.logitsOffset := by
  induction reqs generalizing others offset with
  | nil =>
    obtain rfl := List.map_eq_nil_iff.mp h.symm
    rfl
  | cons req reqs ih =>
    obtain ⟨other, rest, rfl, hfirst, hrest⟩ := List.map_eq_cons_iff.mp h.symm
    rw [resetLogitsOffsetsAfterReorder, resetLogitsOffsetsAfterReorder, List.map_cons,
      List.map_cons, ih _ hrest.symm, hfirst]

/-- The rows of a step depend on the number of tokens each request samples. -/
theorem SameTransfers.frozenLogitsOffsets (h : SameTransfers requests others)
    (hkeyed : Keyed others)
    (hnum : ∀ reqId ∈ (buildModelInput others schedule).reqIds,
      (requests reqId).samplingTokenNum = (others reqId).samplingTokenNum) :
    (buildModelInput requests schedule).frozenLogitsOffsets =
      (buildModelInput others schedule).frozenLogitsOffsets := by
  have hoffsets : ∀ requests, (buildModelInput requests schedule).frozenLogitsOffsets =
      (resetLogitsOffsetsAfterReorder 0 (Executor.orderedReqs requests schedule)).map
        fun req => req.logitsOffset := by
    intro requests
    simp only [buildModelInput, buildForwardRequests, List.map_map]
    rfl
  rw [hoffsets, hoffsets]
  refine resetLogitsOffsets_congr 0 ?_
  rw [orderedReqs_eq (h.keyed hkeyed), orderedReqs_eq hkeyed, h.reqIds, List.map_map,
    List.map_map]
  exact List.map_congr_left hnum

theorem held_field {α : Type} (requests : CachedRequests) (schedule : ExecutorSchedule)
    (f : ExecutorInferRequest → α)
    (hf : ∀ req offset step, f { req with logitsOffset := offset, step := step } = f req)
    (reqId : Int) :
    f ((buildModelInput requests schedule).held reqId) = f (requests reqId) := by
  simp only [buildModelInput]
  split
  · exact hf _ _ _
  · rfl

theorem Keyed.held (h : Keyed requests) (schedule : ExecutorSchedule) :
    Keyed (buildModelInput requests schedule).held := fun reqId =>
  (held_field requests schedule (fun req => req.reqId) (fun _ _ _ => rfl) reqId).trans (h reqId)

/-- The step counter a build leaves in a request. -/
def builtStep (requests : CachedRequests) (schedule : ExecutorSchedule) (reqId : Int) : Int :=
  (((orderedReqs requests schedule).map fun req => (req.reqId, req.step + 1)).find?
    fun key => key.1 == reqId).elim (requests reqId).step Prod.snd

theorem held_transferred (requests : CachedRequests) (schedule : ExecutorSchedule) (reqId : Int) :
    transferred ((buildModelInput requests schedule).held reqId) =
      { transferred (requests reqId) with step := builtStep requests schedule reqId } := by
  have hkeys : (orderedReqs requests schedule).map (fun req => (req.reqId, req.step + 1)) =
      ((buildForwardRequests (reorderInferRequests
        (schedule.transfers.map fun transfer => requests transfer.reqId))).1).map
          fun req => (req.reqId, req.step) := by
    rw [buildForwardRequests, List.map_map]
    exact (resetLogitsOffsets_map (fun req => (req.reqId, req.step + 1)) (fun _ _ => rfl) 0 _).symm
  rw [builtStep, hkeys, List.find?_map]
  simp only [buildModelInput]
  cases hfind : (buildForwardRequests (reorderInferRequests
      (schedule.transfers.map fun transfer => requests transfer.reqId))).1.find?
        fun req => req.reqId == reqId with
  | none =>
    have hnone : List.find? ((fun key : Int × Int => key.1 == reqId) ∘
        fun req : ExecutorInferRequest => (req.reqId, req.step)) _ = none := hfind
    rw [hnone]
    rfl
  | some req =>
    have hsome : List.find? ((fun key : Int × Int => key.1 == reqId) ∘
        fun req : ExecutorInferRequest => (req.reqId, req.step)) _ = some req := hfind
    rw [hsome]
    rfl

theorem SameTransfers.held (h : SameTransfers requests others) (schedule : ExecutorSchedule) :
    SameTransfers (buildModelInput requests schedule).held
      (buildModelInput others schedule).held := by
  intro reqId
  have hkeys := congrArg (List.map fun req => (req.reqId, req.step + 1)) (h.orderedReqs schedule)
  rw [List.map_map, List.map_map] at hkeys
  have hstep : builtStep requests schedule reqId = builtStep others schedule reqId := by
    have hcached := h.field (fun req => req.step) (fun _ => rfl) reqId
    rw [builtStep, builtStep, hcached]
    exact congrArg (fun keys => (keys.find? fun key : Int × Int => key.1 == reqId).elim
      (others reqId).step Prod.snd) hkeys
  rw [held_transferred, held_transferred, h reqId, hstep]

end Build

/-- A step of a run and the one its schedule makes when no other step runs. -/
structure BuiltAlike (step alone : BuiltStep) : Prop where
  reqIds : step.reqIds = alone.reqIds
  results : step.results = alone.results
  held : SameTransfers step.held alone.held
  offsets : alone.sampledReqIds ≠ [] → step.frozenLogitsOffsets = alone.frozenLogitsOffsets
  rows : alone.sampledReqIds ≠ [] → ∀ reqId ∈ alone.reqIds,
    (step.held reqId).samplingTokenNum = (alone.held reqId).samplingTokenNum

section Alike

variable {step alone : BuiltStep}

theorem sampledAmong_congr {requests others : CachedRequests} {reqIds : List Int}
    (h : ∀ reqId ∈ reqIds, (requests reqId).forwardStepKind = (others reqId).forwardStepKind) :
    BuiltStep.sampledAmong requests reqIds = BuiltStep.sampledAmong others reqIds :=
  List.filter_congr fun reqId hmem => by rw [h reqId hmem]

theorem BuiltAlike.sampledReqIds (h : BuiltAlike step alone) :
    step.sampledReqIds = alone.sampledReqIds := by
  rw [BuiltStep.sampledReqIds, BuiltStep.sampledReqIds, h.reqIds]
  exact sampledAmong_congr fun reqId _ => h.held.field _ (fun _ => rfl) reqId

theorem BuiltAlike.heldUses (h : BuiltAlike step alone) : step.heldUses = alone.heldUses := by
  have hkind : ∀ reqId, (step.held reqId).forwardStepKind = (alone.held reqId).forwardStepKind :=
    h.held.field _ fun _ => rfl
  have htokens : ∀ reqId,
      (step.held reqId).forwardingTokens = (alone.held reqId).forwardingTokens :=
    h.held.field _ fun _ => rfl
  have hhidden : ∀ reqId, hiddenTokenNum (step.held reqId) = hiddenTokenNum (alone.held reqId) :=
    h.held.field _ fun _ => rfl
  have hsampled : BuiltStep.sampledAmong step.held alone.reqIds =
      BuiltStep.sampledAmong alone.held alone.reqIds := sampledAmong_congr fun reqId _ => hkind reqId
  rw [BuiltStep.heldUses, BuiltStep.heldUses, BuiltStep.usesOf, BuiltStep.usesOf, h.reqIds,
    hsampled]
  simp only [hkind, htokens, hhidden]
  by_cases hnone : BuiltStep.sampledAmong alone.held alone.reqIds = []
  · simp only [if_pos hnone]
  · simp only [if_neg hnone]
    rw [h.offsets hnone]
    congr 2
    refine List.map_congr_left fun row hrow => ?_
    rw [h.rows hnone row.1 (List.of_mem_zip hrow).1]

theorem BuiltAlike.countedTokens [DraftTokensApi] (h : BuiltAlike step alone) (reqId : Int) :
    step.countedTokens reqId = alone.countedTokens reqId := by
  rw [BuiltStep.countedTokens, BuiltStep.countedTokens, h.heldUses, h.results]

theorem BuiltAlike.draftsExpected [DraftTokensApi] {next nextAlone : BuiltStep}
    (h : BuiltAlike step alone) (hnext : BuiltAlike next nextAlone) :
    step.DraftsExpected next ↔ alone.DraftsExpected nextAlone := by
  rw [BuiltStep.DraftsExpected, BuiltStep.DraftsExpected, hnext.sampledReqIds, hnext.reqIds,
    h.sampledReqIds]
  refine imp_congr_right fun hsampled => forall₂_congr fun reqId hreq => ?_
  rw [h.countedTokens, hnext.rows hsampled reqId hreq]

theorem BuiltAlike.build {requests others : CachedRequests} (h : SameTransfers requests others)
    (hkeyed : Keyed others) (schedule : ExecutorSchedule)
    (hnum : (buildModelInput others schedule).sampledReqIds ≠ [] →
      ∀ reqId ∈ (buildModelInput others schedule).reqIds,
        (requests reqId).samplingTokenNum = (others reqId).samplingTokenNum) :
    BuiltAlike (buildModelInput requests schedule) (buildModelInput others schedule) where
  reqIds := h.reqIds schedule
  results := rfl
  held := h.held schedule
  offsets := fun hsampled => h.frozenLogitsOffsets hkeyed (hnum hsampled)
  rows := fun hsampled reqId hreq => by
    rw [held_field _ _ (fun req => req.samplingTokenNum) fun _ _ _ => rfl,
      held_field _ _ (fun req => req.samplingTokenNum) fun _ _ _ => rfl, hnum hsampled reqId hreq]

end Alike

/-- The accesses of a step that happen: one that samples nothing skips those of the sampler. -/
def BuiltStep.Takes (step : BuiltStep) : StepOp → Prop
  | .buildSamplingRequest _ _ => step.sampledReqIds ≠ []
  | .sample _ => step.sampledReqIds ≠ []
  | _ => True

def StepOp.reqId : StepOp → Int
  | getHiddenShape reqId => reqId
  | checkChunkMid reqId => reqId
  | buildSamplingRequest reqId _ => reqId
  | sample reqId => reqId
  | updateGenerationState reqId => reqId
  | generateDraft reqId => reqId

theorem BuiltStep.ops_reqId {step : BuiltStep} {op : StepOp} (hop : op ∈ step.ops) :
    op.reqId ∈ step.reqIds := by
  simp only [ops, List.append_assoc, List.mem_append, List.mem_map] at hop
  rcases hop with ⟨reqId, hreq, rfl⟩ | ⟨reqId, hreq, rfl⟩ | ⟨row, hrow, rfl⟩ | ⟨reqId, hreq, rfl⟩ |
    ⟨reqId, hreq, rfl⟩ | ⟨reqId, hreq, rfl⟩
  · exact hreq
  · exact hreq
  · exact (List.of_mem_zip hrow).1
  · exact hreq
  · exact hreq
  · exact hreq

theorem BuiltStep.usesAfter_needSampling {step : BuiltStep} (hnone : step.sampledReqIds = [])
    {done : List StepOp} (hdone : ∀ op ∈ done, op ∈ step.ops) :
    (step.usesAfter done).needSampling = false := by
  have hmid : ∀ reqId ∈ step.reqIds,
      isPrefillChunkMidStep (step.held reqId).forwardStepKind = true := by
    intro reqId hreq
    simpa using List.filter_eq_nil_iff.mp hnone reqId hreq
  induction done using List.reverseRecOn with
  | nil => rfl
  | append_singleton done op ih =>
    have hbefore := ih fun earlier hearlier => hdone earlier (List.mem_append_left _ hearlier)
    have hreq := ops_reqId (hdone op (List.mem_append_right _ (List.mem_singleton_self op)))
    rw [usesAfter, List.foldl_append, ← usesAfter, List.foldl_cons, List.foldl_nil]
    cases op with
    | getHiddenShape reqId => exact hbefore
    | checkChunkMid reqId =>
      rw [StepUses.needSampling] at hbefore
      rw [StepUses.needSampling, StepOp.use, List.any_append, hbefore, List.any_cons,
        hmid reqId hreq]
      rfl
    | buildSamplingRequest reqId frozenOffset =>
      rw [StepOp.use, if_neg (by rw [hbefore]; exact Bool.false_ne_true)]
      exact hbefore
    | sample reqId =>
      rw [StepOp.use, if_neg (by rw [hbefore]; exact Bool.false_ne_true)]
      exact hbefore
    | updateGenerationState reqId =>
      rw [StepOp.use, if_pos (hmid reqId hreq)]
      exact hbefore
    | generateDraft reqId =>
      rw [StepOp.use, if_pos (hmid reqId hreq)]
      exact hbefore

/-- An access that happens finds what it needs; one that does not has no use. -/
theorem BuiltStep.use_congr {step : BuiltStep} {done : List StepOp}
    (hdone : ∀ op ∈ done, op ∈ step.ops) {requests : CachedRequests} {op : StepOp}
    (hread : step.Takes op → op.read requests = op.read step.held) :
    op.use requests (step.usesAfter done) = op.use step.held (step.usesAfter done) := by
  by_cases htakes : step.Takes op
  · exact StepOp.use_congr _ (hread htakes)
  · cases op with
    | buildSamplingRequest reqId frozenOffset =>
      have hneed := usesAfter_needSampling (not_not.mp htakes) hdone
      simp only [StepOp.use, hneed, Bool.false_eq_true, if_false]
    | sample reqId =>
      have hneed := usesAfter_needSampling (not_not.mp htakes) hdone
      simp only [StepOp.use, hneed, Bool.false_eq_true, if_false]
    | getHiddenShape reqId => exact absurd trivial htakes
    | checkChunkMid reqId => exact absurd trivial htakes
    | updateGenerationState reqId => exact absurd trivial htakes
    | generateDraft reqId => exact absurd trivial htakes

theorem BuiltStep.ops_drafts (step : BuiltStep) : step.ops.Pairwise fun op later =>
    (∃ reqId, op = .generateDraft reqId) → ∃ reqId, later = .generateDraft reqId := by
  rw [ops, List.pairwise_append]
  refine ⟨List.pairwise_of_forall_mem_list fun op hop later _ hdraft => ?_,
    List.pairwise_of_forall_mem_list fun op _ later hlater _ => ?_, fun op _ later hlater _ => ?_⟩
  · obtain ⟨reqId, rfl⟩ := hdraft
    simp at hop
  · obtain ⟨reqId, -, rfl⟩ := List.mem_map.mp hlater
    exact ⟨reqId, rfl⟩
  · obtain ⟨reqId, -, rfl⟩ := List.mem_map.mp hlater
    exact ⟨reqId, rfl⟩

theorem StepOp.use_generateDraft_sampled (requests : CachedRequests) (uses : StepUses)
    (reqId : Int) :
    ((generateDraft reqId).use requests uses).toSampledUses = uses.toSampledUses := by
  rw [use]
  split <;> rfl

/-- When only drafts are left, everything the results depend on is known. -/
theorem BuiltStep.use_sampled {step : BuiltStep} {done later : List StepOp}
    (hops : step.ops = done ++ later) (hlater : ∀ op ∈ later, ∃ reqId, op = .generateDraft reqId)
    (requests : CachedRequests) :
    (done.foldl (fun uses (op : StepOp) => op.use requests uses) {}).toSampledUses =
      (step.usesOf requests).toSampledUses := by
  have hkept : ∀ uses : StepUses, (later.foldl (fun uses (op : StepOp) => op.use requests uses)
      uses).toSampledUses = uses.toSampledUses := by
    clear hops
    induction later with
    | nil => intro uses; rfl
    | cons op later ih =>
      intro uses
      obtain ⟨⟨other, rfl⟩, hrest⟩ := List.forall_mem_cons.mp hlater
      rw [List.foldl_cons, ih hrest, StepOp.use_generateDraft_sampled]
  rw [← step.use_ops, hops, List.foldl_append, hkept]

theorem BuiltStep.usesAfter_sampled {step : BuiltStep} {done todo : List StepOp} {reqId : Int}
    (hops : step.ops = done ++ .generateDraft reqId :: todo) :
    (step.usesAfter done).toSampledUses = step.heldUses.toSampledUses := by
  have hdrafts := step.ops_drafts
  rw [hops, List.pairwise_append, List.pairwise_cons] at hdrafts
  exact use_sampled hops (List.forall_mem_cons.mpr
    ⟨⟨reqId, rfl⟩, fun op hop => hdrafts.2.1.1 op hop ⟨reqId, rfl⟩⟩) step.held

/-- The accesses that are still to come, each with its step. -/
def OverlapState.pending (state : OverlapState) : List (BuiltStep × StepOp) :=
  (state.executing.elim [] fun executing => executing.todo.map (executing.step, ·)) ++
    state.built.flatMap fun step => step.ops.map (step, ·)

section Runs

variable [DraftTokensApi]

/-- The steps in flight while transfers are applied behind the last schedule that was built. -/
def InFlightBehind (last : Option BuiltStep) (applied : List RequestTransfer) :
    List BuiltStep → Prop
  | [] => True
  | [step] => ∃ alone ∈ last, BuiltAlike step alone
  | [first, step] => applied = [] ∧ (∃ alone ∈ last, BuiltAlike step alone) ∧
      first.DraftsExpected step
  | _ => False

/-- What Preprocess has still to do: the first schedule is transferred in part. -/
def Remaining (applied : List RequestTransfer) : List ExecutorSchedule → List PreprocessOp → Prop
  | [], ops => applied = [] ∧ ops = []
  | schedule :: rest, ops => ∃ waiting, schedule.transfers = applied ++ waiting ∧
      ops = waiting.map .update ++ .build schedule :: rest.flatMap ExecutorSchedule.preprocess

/-- A state of a run over schedules that spare each other's steps: `requests` is the cache behind
the last step that was built, had no step run, and `applied` what of the next is transferred. -/
structure Tracked (last : Option BuiltStep) (requests : CachedRequests)
    (applied : List RequestTransfer) (schedules : List ExecutorSchedule) (state : OverlapState) :
    Prop where
  keyed : Keyed requests
  spare : SchedulesSpare last requests schedules
  remaining : Remaining applied schedules state.preprocessing
  same : SameTransfers state.requests (transferAll requests applied)
  expected : ∀ schedule rest waiting, schedules = schedule :: rest →
    schedule.transfers = applied ++ waiting → (stepAlone requests schedule).sampledReqIds ≠ [] →
      ∀ reqId ∈ applied.map RequestTransfer.reqId, reqId ∉ waiting.map RequestTransfer.reqId →
        (state.requests reqId).samplingTokenNum =
          ((stepAlone requests schedule).held reqId).samplingTokenNum
  inFlight : InFlightBehind last applied state.inFlight
  reads : ∀ access ∈ state.pending, access.1.Takes access.2 →
    access.2.read state.requests = access.2.read access.1.held
  isolated : Isolated state

theorem sameTransfers_write (op : StepOp) (results : Int → StepResult)
    (requests : CachedRequests) : SameTransfers (op.write results requests) requests := by
  intro other
  cases op with
  | getHiddenShape reqId => rfl
  | buildSamplingRequest reqId frozenOffset => rfl
  | sample reqId => rfl
  | checkChunkMid reqId =>
    rw [StepOp.write]
    split
    · exact forall_update transferred (by rfl) other
    · rfl
  | updateGenerationState reqId =>
    rw [StepOp.write]
    split
    · rfl
    · exact forall_update transferred (by rfl) other
  | generateDraft reqId =>
    rw [StepOp.write]
    split
    · rfl
    · exact forall_update transferred (by rfl) other

theorem write_samplingTokenNum (op : StepOp) (results : Int → StepResult)
    (requests : CachedRequests) (reqId : Int) :
    (op.write results requests reqId).samplingTokenNum = (requests reqId).samplingTokenNum ∨
      (op = .generateDraft reqId ∧
        isPrefillChunkMidStep (requests reqId).forwardStepKind = false ∧
        (op.write results requests reqId).samplingTokenNum =
          kStepGenerateTokenNum + DraftTokensApi.size (results reqId).draftTokens) := by
  cases op with
  | getHiddenShape other => exact Or.inl rfl
  | buildSamplingRequest other frozenOffset => exact Or.inl rfl
  | sample other => exact Or.inl rfl
  | checkChunkMid other =>
    rw [StepOp.write]
    split
    · exact Or.inl (forall_update (fun req => req.samplingTokenNum) (by rfl) reqId)
    · exact Or.inl rfl
  | updateGenerationState other =>
    rw [StepOp.write]
    split
    · exact Or.inl rfl
    · exact Or.inl (forall_update (fun req => req.samplingTokenNum) (by rfl) reqId)
  | generateDraft other =>
    rw [StepOp.write]
    split
    · exact Or.inl rfl
    · next hkind =>
      by_cases hreq : reqId = other
      · subst hreq
        rw [Function.update_self]
        exact Or.inr ⟨rfl, Bool.eq_false_of_not_eq_true hkind, rfl⟩
      · rw [Function.update_of_ne hreq]
        exact Or.inl rfl

omit [DraftTokensApi] in
theorem remaining_start (schedules : List ExecutorSchedule) :
    Remaining [] schedules (schedules.flatMap ExecutorSchedule.preprocess) := by
  cases schedules with
  | nil => exact ⟨rfl, rfl⟩
  | cons schedule rest =>
    refine ⟨schedule.transfers, rfl, ?_⟩
    rw [List.flatMap_cons, ExecutorSchedule.preprocess, List.append_assoc]
    rfl

omit [DraftTokensApi] in
theorem BuiltAlike.read {step alone : BuiltStep} (h : BuiltAlike step alone)
    {requests others : CachedRequests} (hsame : SameTransfers requests others)
    (hreads : alone.ReadsHeld others) {op : StepOp} (hop : op ∈ step.ops)
    (htakes : step.Takes op)
    (hnum : ∀ reqId frozenOffset, op = .buildSamplingRequest reqId frozenOffset →
      (requests reqId).samplingTokenNum = (step.held reqId).samplingTokenNum) :
    op.read requests = op.read step.held := by
  have hreq : op.reqId ∈ alone.reqIds := h.reqIds ▸ BuiltStep.ops_reqId hop
  obtain ⟨hhidden, hkind, hsampled⟩ := hreads op.reqId hreq
  rw [← h.sampledReqIds] at hsampled
  have hhidden : hiddenTokenNum (requests op.reqId) = hiddenTokenNum (step.held op.reqId) :=
    (hsame.field _ (fun _ => rfl) _).trans (hhidden.trans (h.held.field _ (fun _ => rfl) _).symm)
  have hkind : (requests op.reqId).forwardStepKind = (step.held op.reqId).forwardStepKind :=
    (hsame.field (fun req => req.forwardStepKind) (fun _ => rfl) _).trans
      (hkind.trans (h.held.field (fun req => req.forwardStepKind) (fun _ => rfl) _).symm)
  cases op with
  | getHiddenShape reqId => exact congrArg StepValue.num hhidden
  | checkChunkMid reqId => exact congrArg StepValue.kind hkind
  | buildSamplingRequest reqId frozenOffset =>
    exact congrArg StepValue.num (hnum reqId frozenOffset rfl)
  | sample reqId =>
    refine congrArg StepValue.tokens ?_
    exact (hsame.field (fun req => req.forwardingTokens) (fun _ => rfl) _).trans
      ((hsampled htakes).1.trans
        (h.held.field (fun req => req.forwardingTokens) (fun _ => rfl) _).symm)
  | updateGenerationState reqId => exact congrArg StepValue.kind hkind
  | generateDraft reqId => exact congrArg StepValue.kind hkind

section Step

variable {last : Option BuiltStep} {requests : CachedRequests} {applied : List RequestTransfer}
  {schedules : List ExecutorSchedule} {state : OverlapState}

omit [DraftTokensApi] in
theorem pending_inFlight (hisolated : Isolated state) {access : BuiltStep × StepOp}
    (hmem : access ∈ state.pending) : access.1 ∈ state.inFlight ∧ access.2 ∈ access.1.ops := by
  rw [OverlapState.pending, List.mem_append] at hmem
  rw [OverlapState.inFlight, List.mem_append]
  rcases hmem with hmem | hmem
  · cases hexecuting : state.executing with
    | none =>
      rw [hexecuting] at hmem
      exact absurd hmem List.not_mem_nil
    | some executing =>
      rw [hexecuting] at hmem
      obtain ⟨op, hop, rfl⟩ := List.mem_map.mp hmem
      obtain ⟨done, hops, -⟩ := hisolated.2 executing hexecuting
      refine ⟨Or.inl (List.mem_singleton_self _), ?_⟩
      rw [hops]
      exact List.mem_append_right done hop
  · obtain ⟨step, hstep, hmem⟩ := List.mem_flatMap.mp hmem
    obtain ⟨op, hop, rfl⟩ := List.mem_map.mp hmem
    exact ⟨Or.inr hstep, hop⟩

omit [DraftTokensApi] in
theorem Keyed.mem_stepAlone (hkeyed : Keyed requests) {schedule : ExecutorSchedule} {reqId : Int} :
    reqId ∈ (stepAlone requests schedule).reqIds ↔
      reqId ∈ schedule.transfers.map RequestTransfer.reqId :=
  mem_reqIds (hkeyed.transferAll schedule.transfers)

omit [DraftTokensApi] in
theorem stepAlone_samplingTokenNum (requests : CachedRequests) (schedule : ExecutorSchedule)
    (reqId : Int) : ((stepAlone requests schedule).held reqId).samplingTokenNum =
      (transferAll requests schedule.transfers reqId).samplingTokenNum :=
  held_field _ _ (fun req => req.samplingTokenNum) (fun _ _ _ => rfl) reqId

theorem Tracked.update (h : Tracked last requests applied schedules state)
    (hroom : state.inFlight.length < kExecutorPipelineMaxDepth) {transfer : RequestTransfer}
    {rest : List PreprocessOp} (hops : state.preprocessing = .update transfer :: rest) :
    Tracked last requests (applied ++ [transfer]) schedules
      { state with requests := transfer.apply state.requests, preprocessing := rest } := by
  have hremaining := h.remaining
  rw [hops] at hremaining
  cases schedules with
  | nil => exact absurd hremaining.2 (List.cons_ne_nil _ _)
  | cons schedule later =>
    obtain ⟨waiting, htransfers, hcons⟩ := hremaining
    cases waiting with
    | nil => cases hcons
    | cons first waiting =>
      obtain ⟨hfirst, hrest⟩ := List.cons.inj hcons
      obtain rfl : transfer = first := PreprocessOp.update.inj hfirst
      have htransfers : schedule.transfers = applied ++ [transfer] ++ waiting := by
        rw [htransfers, List.append_assoc]
        rfl
      have hsame : SameTransfers (transfer.apply state.requests)
          (transferAll requests (applied ++ [transfer])) := by
        rw [transferAll_concat]
        exact h.same.apply transfer
      refine ⟨h.keyed, h.spare, ⟨waiting, htransfers, hrest⟩, hsame, ?_, ?_, ?_, h.isolated⟩
      · intro other later' waiting' hschedules htransfers' hsampled reqId hmem hnot
        obtain ⟨rfl, rfl⟩ := List.cons.inj hschedules
        obtain rfl : waiting = waiting' := List.append_cancel_left (htransfers.symm.trans htransfers')
        by_cases hreq : reqId = transfer.reqId
        · have hlast : (transferAll requests schedule.transfers reqId).samplingTokenNum =
              transfer.samplingTokenNum := by
            rw [htransfers, transferAll, List.foldl_append]
            refine (congrArg ExecutorInferRequest.samplingTokenNum
              (transferAll_of_notMem _ hnot)).trans ?_
            rw [← transferAll, transferAll_concat, hreq, apply_samplingTokenNum]
          rw [stepAlone_samplingTokenNum, hlast, hreq]
          exact apply_samplingTokenNum transfer state.requests
        · have hbefore : reqId ∈ applied.map RequestTransfer.reqId := by
            rw [List.map_append, List.mem_append, List.map_singleton, List.mem_singleton] at hmem
            exact hmem.resolve_right hreq
          have hwaiting : reqId ∉ (transfer :: waiting).map RequestTransfer.reqId := by
            rw [List.map_cons, List.mem_cons, not_or]
            exact ⟨hreq, hnot⟩
          have hold := h.expected schedule later (transfer :: waiting) rfl
            (by rw [htransfers, List.append_assoc]; rfl) hsampled reqId hbefore hwaiting
          exact (congrArg ExecutorInferRequest.samplingTokenNum
            (apply_of_ne state.requests hreq)).trans hold
      · have hinFlight := h.inFlight
        change InFlightBehind last (applied ++ [transfer]) state.inFlight
        match hsteps : state.inFlight with
        | [] => trivial
        | [step] =>
          rw [hsteps] at hinFlight
          exact hinFlight
        | _ :: _ :: _ =>
          rw [hsteps] at hroom
          exact absurd hroom (by simp [kExecutorPipelineMaxDepth])
      · intro access hmem htakes
        obtain ⟨hstep, hop⟩ := pending_inFlight h.isolated hmem
        have hold := h.reads access hmem htakes
        have hinFlight := h.inFlight
        match hsteps : state.inFlight with
        | [] =>
          rw [hsteps] at hstep
          exact absurd hstep List.not_mem_nil
        | _ :: _ :: _ =>
          rw [hsteps] at hroom
          exact absurd hroom (by simp [kExecutorPipelineMaxDepth])
        | [step] =>
          rw [hsteps] at hstep hinFlight
          obtain ⟨alone, hlast, halike⟩ := hinFlight
          obtain rfl := List.mem_singleton.mp hstep
          have hspared := (h.spare.1 alone hlast).1 (applied ++ [transfer])
            ((List.mem_inits _ _).mpr ⟨waiting, htransfers.symm⟩)
          refine halike.read hsame hspared hop htakes fun reqId frozenOffset hsampling => ?_
          rw [hsampling] at hop htakes hold
          by_cases hreq : reqId = transfer.reqId
          · have hsampled : alone.sampledReqIds ≠ [] := halike.sampledReqIds ▸ htakes
            have hmem : reqId ∈ alone.reqIds := halike.reqIds ▸ BuiltStep.ops_reqId hop
            rw [halike.rows hsampled reqId hmem, ← ((hspared reqId hmem).2.2 hsampled).2,
              transferAll_concat, hreq, apply_samplingTokenNum, apply_samplingTokenNum]
          · rw [apply_of_ne _ hreq]
            exact StepValue.num.inj hold

theorem Tracked.build (h : Tracked last requests applied schedules state)
    (hroom : state.inFlight.length < kExecutorPipelineMaxDepth) {schedule : ExecutorSchedule}
    {rest : List PreprocessOp} (hops : state.preprocessing = .build schedule :: rest) :
    ∃ later, schedules = schedule :: later ∧
      Tracked (some (stepAlone requests schedule)) (stepAlone requests schedule).held [] later
        { state with
          requests := (buildModelInput state.requests schedule).held
          preprocessing := rest
          built := state.built ++ [buildModelInput state.requests schedule] } := by
  have hremaining := h.remaining
  rw [hops] at hremaining
  cases schedules with
  | nil => exact absurd hremaining.2 (List.cons_ne_nil _ _)
  | cons first later =>
    obtain ⟨waiting, htransfers, hcons⟩ := hremaining
    cases waiting with
    | cons transfer waiting => cases hcons
    | nil =>
      obtain ⟨hfirst, rfl⟩ := List.cons.inj hcons
      obtain rfl : schedule = first := PreprocessOp.build.inj hfirst
      rw [List.append_nil] at htransfers
      have halike : BuiltAlike (buildModelInput state.requests schedule)
          (stepAlone requests schedule) := by
        have hsame := h.same
        rw [← htransfers] at hsame
        refine BuiltAlike.build hsame (h.keyed.transferAll _) schedule fun hsampled reqId hreq => ?_
        rw [h.expected schedule later [] rfl (by rw [List.append_nil, htransfers]) hsampled reqId
          (htransfers ▸ h.keyed.mem_stepAlone.mp hreq) List.not_mem_nil]
        exact stepAlone_samplingTokenNum requests schedule reqId
      refine ⟨later, rfl, (h.keyed.transferAll _).held schedule, h.spare.2, remaining_start later,
        halike.held, fun _ _ _ _ _ _ reqId hmem => absurd hmem List.not_mem_nil, ?_, ?_,
        h.isolated⟩
      · have hinFlight := h.inFlight
        rw [OverlapState.inFlight, ← List.append_assoc]
        change InFlightBehind _ [] (state.inFlight ++ [buildModelInput state.requests schedule])
        match hsteps : state.inFlight with
        | [] => exact ⟨_, rfl, halike⟩
        | [step] =>
          rw [hsteps] at hinFlight
          obtain ⟨alone, hlast, hstep⟩ := hinFlight
          exact ⟨rfl, ⟨_, rfl, halike⟩, (hstep.draftsExpected halike).mpr (h.spare.1 alone hlast).2⟩
        | _ :: _ :: _ =>
          rw [hsteps] at hroom
          exact absurd hroom (by simp [kExecutorPipelineMaxDepth])
      · intro access hmem htakes
        rw [OverlapState.pending, List.flatMap_append, ← List.append_assoc, List.mem_append] at hmem
        rw [buildModelInput_read]
        rcases hmem with hold | hnew
        · exact h.reads access hold htakes
        · rw [List.flatMap_singleton] at hnew
          obtain ⟨op, -, rfl⟩ := List.mem_map.mp hnew
          exact (buildModelInput_read state.requests schedule op).symm

theorem Tracked.begin (h : Tracked last requests applied schedules state) {step : BuiltStep}
    {rest : List BuiltStep} (hidle : state.executing = none) (hbuilt : state.built = step :: rest) :
    Tracked last requests applied schedules
      { state with built := rest, executing := some ⟨step, {}, step.ops⟩ } := by
  refine ⟨h.keyed, h.spare, h.remaining, h.same, h.expected, ?_, fun access hmem htakes => ?_, ?_⟩
  · have hinFlight := h.inFlight
    rw [OverlapState.inFlight, hidle, hbuilt] at hinFlight
    exact hinFlight
  · refine h.reads access ?_ htakes
    rw [OverlapState.pending, hidle, hbuilt]
    exact hmem
  · refine ⟨h.isolated.1, fun executing hexecuting => ?_⟩
    obtain rfl := Option.some.inj hexecuting
    exact ⟨[], rfl, rfl⟩

theorem Tracked.finish (h : Tracked last requests applied schedules state) {step : BuiltStep}
    {uses : StepUses} (hexecuting : state.executing = some ⟨step, uses, []⟩) :
    Tracked last requests applied schedules
      { state with executing := none, finished := state.finished ++ [(step, uses)] } := by
  refine ⟨h.keyed, h.spare, h.remaining, h.same, h.expected, ?_, fun access hmem htakes => ?_, ?_⟩
  · have hinFlight := h.inFlight
    rw [OverlapState.inFlight, hexecuting] at hinFlight
    change InFlightBehind last applied state.built
    match hbuilt : state.built with
    | [] => trivial
    | [next] =>
      rw [hbuilt] at hinFlight
      exact hinFlight.2.1
    | _ :: _ :: _ =>
      rw [hbuilt] at hinFlight
      exact hinFlight.elim
  · refine h.reads access ?_ htakes
    rw [OverlapState.pending, hexecuting]
    exact hmem
  · refine ⟨fun other used hmem => ?_, fun executing hnone => by cases hnone⟩
    rcases List.mem_append.mp hmem with hold | hnew
    · exact h.isolated.1 other used hold
    · obtain ⟨rfl, rfl⟩ := Prod.mk.inj (List.mem_singleton.mp hnew)
      obtain ⟨done, hops, huses⟩ := h.isolated.2 _ hexecuting
      rw [List.append_nil] at hops
      have hheld : used = other.heldUses := by
        rw [← other.usesAfter_ops, hops]
        exact huses
      exact ⟨hheld, congrArg other.reported hheld⟩

/-- The executing step goes on: what it reads of itself it does not write, and the drafts it
counts are those the next step expects. -/
theorem Tracked.advance (h : Tracked last requests applied schedules state) {step : BuiltStep}
    {uses : StepUses} {op : StepOp} {todo : List StepOp}
    (hexecuting : state.executing = some ⟨step, uses, op :: todo⟩) :
    Tracked last requests applied schedules
      { state with
        requests := op.write (step.results uses.toSampledUses) state.requests
        executing := some ⟨step, op.use state.requests uses, todo⟩ } := by
  obtain ⟨done, hsplit, hused⟩ := h.isolated.2 _ hexecuting
  have hops : step.ops = done ++ op :: todo := hsplit
  have huses : uses = step.usesAfter done := hused
  have hdone : ∀ earlier ∈ done, earlier ∈ step.ops := fun earlier hearlier => by
    rw [hops]
    exact List.mem_append_left _ hearlier
  have hop : op ∈ step.ops := by
    rw [hops]
    exact List.mem_append_right done List.mem_cons_self
  have hpending : state.pending = (step, op) :: (todo.map (step, ·) ++
      state.built.flatMap fun other => other.ops.map (other, ·)) := by
    rw [OverlapState.pending, hexecuting]
    rfl
  have hsteps : state.inFlight = step :: state.built := by
    rw [OverlapState.inFlight, hexecuting]
    rfl
  have hread : step.Takes op → op.read state.requests = op.read step.held :=
    h.reads (step, op) (hpending ▸ List.mem_cons_self)
  generalize hwritten : op.write (step.results uses.toSampledUses) state.requests = written
  have hsame : SameTransfers written state.requests := hwritten ▸ sameTransfers_write op _ _
  have hcounts : ∀ reqId, (written reqId).samplingTokenNum =
      (state.requests reqId).samplingTokenNum ∨ (reqId ∈ step.sampledReqIds ∧
        (written reqId).samplingTokenNum = step.countedTokens reqId) := by
    intro reqId
    rw [← hwritten]
    refine (write_samplingTokenNum op _ state.requests reqId).imp_right ?_
    rintro ⟨rfl, hkind, hnum⟩
    have hheld := StepValue.kind.inj (hread trivial)
    refine ⟨List.mem_filter.mpr ⟨BuiltStep.ops_reqId hop, ?_⟩, ?_⟩
    · rw [← hheld, hkind]
      rfl
    · rw [hnum, huses, BuiltStep.usesAfter_sampled hops]
      rfl
  refine ⟨h.keyed, h.spare, h.remaining, fun reqId => (hsame reqId).trans (h.same reqId), ?_, ?_,
    ?_, h.isolated.1, fun executing hnext => ?_⟩
  · intro schedule rest waiting hschedules htransfers hsampled reqId hmem hnot
    rcases hcounts reqId with hkept | ⟨hstep, hcounted⟩
    · exact hkept.trans
        (h.expected schedule rest waiting hschedules htransfers hsampled reqId hmem hnot)
    · have hinFlight := h.inFlight
      rw [hsteps] at hinFlight
      match hbuilt : state.built with
      | [] =>
        rw [hbuilt] at hinFlight
        obtain ⟨alone, hlast, halike⟩ := hinFlight
        have hspare := h.spare
        rw [hschedules] at hspare
        have hexpected := (hspare.1 alone hlast).2 hsampled reqId
          (h.keyed.mem_stepAlone.mpr (by
            rw [htransfers, List.map_append]
            exact List.mem_append_left _ hmem)) (halike.sampledReqIds ▸ hstep)
        exact hcounted.trans ((halike.countedTokens reqId).trans hexpected)
      | next :: later =>
        rw [hbuilt] at hinFlight
        cases later with
        | nil =>
          obtain ⟨rfl, -⟩ := hinFlight
          exact absurd hmem List.not_mem_nil
        | cons _ _ => exact hinFlight.elim
  · have hinFlight := h.inFlight
    rw [hsteps] at hinFlight
    exact hinFlight
  · intro access hmem htakes
    have hold := h.reads access (hpending ▸ List.mem_cons_of_mem _ hmem) htakes
    rcases List.mem_append.mp hmem with hown | hwaiting
    · obtain ⟨later, hlater, rfl⟩ := List.mem_map.mp hown
      have hpairwise := step.ops_pairwise
      rw [hops, List.pairwise_append] at hpairwise
      have hkept := (List.pairwise_cons.mp hpairwise.2.1).1 later hlater
        (step.results uses.toSampledUses) state.requests
      rw [hwritten] at hkept
      exact hkept.trans hold
    · obtain ⟨next, hnext, hmem⟩ := List.mem_flatMap.mp hwaiting
      obtain ⟨later, hlater, rfl⟩ := List.mem_map.mp hmem
      have hother : (∀ reqId frozenOffset, later = .buildSamplingRequest reqId frozenOffset →
          (written reqId).samplingTokenNum = (state.requests reqId).samplingTokenNum) →
            later.read written = later.read next.held := fun hnum =>
        (StepOp.read_congr (hsame.field _ fun _ => rfl) (hsame.field _ fun _ => rfl)
          (hsame.field _ fun _ => rfl) hnum).trans hold
      cases later with
      | buildSamplingRequest reqId frozenOffset =>
        rcases hcounts reqId with hkept | ⟨hstep, hcounted⟩
        · refine hother fun other _ heq => ?_
          obtain ⟨rfl, -⟩ := StepOp.buildSamplingRequest.inj heq
          exact hkept
        · have hinFlight := h.inFlight
          rw [hsteps] at hinFlight
          match hbuilt : state.built with
          | [] =>
            rw [hbuilt] at hnext
            exact absurd hnext List.not_mem_nil
          | [only] =>
            rw [hbuilt] at hnext hinFlight
            obtain rfl := List.mem_singleton.mp hnext
            have hexpected := hinFlight.2.2 htakes reqId (BuiltStep.ops_reqId hlater) hstep
            exact congrArg StepValue.num (hcounted.trans hexpected)
          | _ :: _ :: _ =>
            rw [hbuilt] at hinFlight
            exact hinFlight.elim
      | getHiddenShape reqId => exact hother nofun
      | checkChunkMid reqId => exact hother nofun
      | sample reqId => exact hother nofun
      | updateGenerationState reqId => exact hother nofun
      | generateDraft reqId => exact hother nofun
  · obtain rfl := Option.some.inj hnext
    refine ⟨done ++ [op], by rw [hops, List.append_assoc]; rfl, ?_⟩
    rw [BuiltStep.usesAfter, List.foldl_append, ← BuiltStep.usesAfter, List.foldl_cons,
      List.foldl_nil, ← BuiltStep.use_congr hdone hread, ← huses]

end Step

theorem overlapStep_tracked {state next : OverlapState} {thread : Thread}
    (h : ∃ last requests applied schedules, Tracked last requests applied schedules state)
    (hstep : overlapStep state thread = .ok next) :
    ∃ last requests applied schedules, Tracked last requests applied schedules next := by
  obtain ⟨last, requests, applied, schedules, h⟩ := h
  cases thread with
  | preprocess =>
    rw [overlapStep] at hstep
    split at hstep
    · next hroom =>
      cases hops : state.preprocessing with
      | nil => simp [hops] at hstep
      | cons op rest =>
        cases op with
        | update transfer =>
          simp only [hops, Except.ok.injEq] at hstep
          exact ⟨_, _, _, _, hstep ▸ h.update hroom hops⟩
        | build schedule =>
          simp only [hops, Except.ok.injEq] at hstep
          obtain ⟨later, -, hbuilt⟩ := h.build hroom hops
          exact ⟨_, _, _, _, hstep ▸ hbuilt⟩
    · cases hstep
  | execute =>
    cases hexecuting : state.executing with
    | none =>
      cases hbuilt : state.built with
      | nil => simp [overlapStep, hexecuting, hbuilt] at hstep
      | cons step rest =>
        simp only [overlapStep, hexecuting, hbuilt, Except.ok.injEq] at hstep
        exact ⟨_, _, _, _, hstep ▸ h.begin hexecuting hbuilt⟩
    | some executing =>
      obtain ⟨step, uses, todo⟩ := executing
      cases todo with
      | nil =>
        simp only [overlapStep, hexecuting, Except.ok.injEq] at hstep
        exact ⟨_, _, _, _, hstep ▸ h.finish hexecuting⟩
      | cons op todo =>
        simp only [overlapStep, hexecuting, Except.ok.injEq] at hstep
        exact ⟨_, _, _, _, hstep ▸ h.advance hexecuting⟩

/-- The run lemma: where schedules spare each other's steps, every step uses what it was built
with, however far the other thread has got. -/
theorem isolated_of_spare {requests : CachedRequests} {schedules : List ExecutorSchedule}
    (hkeyed : Keyed requests) (hspare : SchedulesSpare none requests schedules)
    {threads : List Thread} {state : OverlapState}
    (hrun : exec overlapStep (OverlapState.start requests schedules) threads = .ok state) :
    Isolated state := by
  have hstart : Tracked none requests [] schedules (OverlapState.start requests schedules) :=
    { keyed := hkeyed
      spare := hspare
      remaining := remaining_start schedules
      same := fun _ => rfl
      expected := fun _ _ _ _ _ _ reqId hmem => absurd hmem List.not_mem_nil
      inFlight := trivial
      reads := fun access hmem => absurd hmem List.not_mem_nil
      isolated := ⟨fun step uses hmem => absurd hmem List.not_mem_nil,
        fun executing hnone => by cases hnone⟩ }
  obtain ⟨_, _, _, _, h⟩ :=
    exec_invariant (fun _ _ _ => overlapStep_tracked) ⟨_, _, _, _, hstart⟩ hrun
  exact h.isolated

end Runs

end KsanaBuildAhead.Executor
