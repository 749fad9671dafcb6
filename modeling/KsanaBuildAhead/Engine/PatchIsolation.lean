import Mathlib.Data.List.Forall2
import KsanaBuildAhead.Engine.RequestRun
import KsanaBuildAhead.Runtime.ScheduleOutput

/-!
# Patches after the launch

Between the launch of a step and its serialization the scheduler goes on: the
step before retires, results arrive, the next step is launched. The snapshots
keep most of a patch out of reach; the stage is read from the live request.
-/
namespace KsanaBuildAhead.Engine

open KsanaBuildAhead.Runtime KsanaBuildAhead.Lib.Execution

/-- What may happen to a request between the launch and the serialization of a step. -/
inductive RequestOp where
  | deliver (result : StepResult)
  | updateAfterInflightTaskFinished
  | resetInflightTask
  | setPlanningTask (workload : ScheduleTaskWorkload)
  | launchPlanningTask
  | setTransferMode (patchTransfer : Bool)
deriving Repr, DecidableEq

section Ops

variable [DraftTokensApi] (fastPath : Bool) (maxDepth : Nat)

def applyOp (req : InferRequest) : RequestOp → Except String InferRequest
  | .deliver result => .ok (deliver req result)
  | .updateAfterInflightTaskFinished => req.updateAfterInflightTaskFinished
  | .resetInflightTask => .ok req.resetInflightTask
  | .setPlanningTask workload => (req.setPlanningWorkload workload).setPlanningTask
  | .launchPlanningTask => launch fastPath maxDepth req
  | .setTransferMode patchTransfer => .ok { req with patchTransfer }

/-- An operation on one request of a launched schedule output. -/
def outputStep (output : ScheduleOutput) (op : Int × RequestOp) : Except String ScheduleOutput := do
  let reqs ← output.runningReqs.mapM fun req =>
    if req.reqId = op.1 then applyOp fastPath maxDepth req op.2 else .ok req
  .ok { output with runningReqs := reqs }

/-- The operations on one request. -/
def opsOn (reqId : Int) (ops : List (Int × RequestOp)) : List RequestOp :=
  ops.filterMap fun op => if op.1 = reqId then some op.2 else none

/-- The operation retires a step that is neither a middle chunk nor behind a stop token. -/
def FinishesStep (req : InferRequest) (op : RequestOp) : Prop :=
  op = .updateAfterInflightTaskFinished ∧ req.isEosGenerated = false ∧
    req.isSplitPrefillStep = false

instance (req : InferRequest) (op : RequestOp) : Decidable (FinishesStep req op) :=
  inferInstanceAs (Decidable (_ ∧ _ ∧ _))

end Ops

section Stage

variable [DraftTokensApi] {fastPath : Bool} {maxDepth : Nat} {req after : InferRequest}

theorem refreshWorkloads_keeps (req : InferRequest) :
    req.refreshWorkloads.toRequestPayload = req.toRequestPayload ∧
      req.refreshWorkloads.inferStage = req.inferStage := by
  simp only [InferRequest.refreshWorkloads]
  split <;> exact ⟨rfl, rfl⟩

theorem tryRetireBackfill_stage {done : Bool}
    (h : req.tryRetireBackfillNextPlaceholderBlock = .ok (done, after)) :
    after.toRequestPayload = req.toRequestPayload ∧
      after.inferStage = if done then .decode else req.inferStage := by
  rw [InferRequest.tryRetireBackfillNextPlaceholderBlock] at h
  dsimp only at h
  split at h
  · obtain ⟨-, h⟩ := check_bind_ok h
    obtain ⟨rfl, rfl⟩ := Prod.mk.inj (Except.ok.inj h)
    exact ⟨rfl, rfl⟩
  · obtain ⟨rfl, rfl⟩ := Prod.mk.inj (Except.ok.inj h)
    exact ⟨rfl, rfl⟩

theorem retireOwn_stage (h : req.retireOwnPlaceholderBlockAndShift = .ok after) :
    after.toRequestPayload = req.toRequestPayload ∧ after.inferStage = .decode := by
  obtain ⟨-, h⟩ := check_bind_ok h
  obtain ⟨-, h⟩ := check_bind_ok h
  dsimp only at h
  split at h
  · obtain ⟨-, h⟩ := check_bind_ok h
    obtain rfl := Except.ok.inj h
    exact ⟨rfl, rfl⟩
  · obtain rfl := Except.ok.inj h
    exact ⟨rfl, rfl⟩

/-- A retirement sets the stage to decode, a middle chunk and a step after a stop token apart. -/
theorem updateAfterInflightTaskFinished_stage
    (h : req.updateAfterInflightTaskFinished = .ok after) :
    after.toRequestPayload = req.toRequestPayload ∧
      after.inferStage = if FinishesStep req .updateAfterInflightTaskFinished then .decode
        else req.inferStage := by
  rw [InferRequest.updateAfterInflightTaskFinished] at h
  cases hinflight : req.inflightTasks with
  | nil =>
    rw [hinflight] at h
    cases h
  | cons oldest queue =>
    rw [hinflight] at h
    dsimp only at h
    cases heos : req.isEosGenerated with
    | true =>
      rw [heos, if_pos rfl] at h
      obtain rfl := Except.ok.inj h
      rw [if_neg fun hfinishes => by simp [FinishesStep, heos] at hfinishes]
      exact ⟨rfl, rfl⟩
    | false =>
      rw [heos, if_neg Bool.false_ne_true] at h
      cases hsplit : req.isSplitPrefillStep with
      | true =>
        rw [hsplit, if_pos rfl] at h
        obtain rfl := Except.ok.inj h
        rw [if_neg fun hfinishes => by simp [FinishesStep, hsplit] at hfinishes]
        exact refreshWorkloads_keeps _
      | false =>
        rw [hsplit, if_neg Bool.false_ne_true] at h
        rw [if_pos ⟨rfl, heos, hsplit⟩]
        split at h
        · obtain rfl := Except.ok.inj h
          obtain ⟨hpayload, hstage⟩ :=
            refreshWorkloads_keeps (req.retireWithoutPlaceholder oldest.workload)
          rw [hpayload, hstage, InferRequest.retireWithoutPlaceholder]
          split <;> exact ⟨rfl, rfl⟩
        · obtain ⟨⟨done, filled⟩, hfill, h⟩ := bind_ok h
          cases done with
          | true =>
            rw [if_pos rfl] at h
            obtain rfl := Except.ok.inj h
            exact tryRetireBackfill_stage hfill
          | false =>
            rw [if_neg Bool.false_ne_true] at h
            exact retireOwn_stage h

/-- No operation changes what the request carries, and only one changes its stage. -/
theorem applyOp_stage {op : RequestOp} (h : applyOp fastPath maxDepth req op = .ok after) :
    after.toRequestPayload = req.toRequestPayload ∧
      after.inferStage = if FinishesStep req op then .decode else req.inferStage := by
  cases op with
  | updateAfterInflightTaskFinished => exact updateAfterInflightTaskFinished_stage h
  | deliver result =>
    obtain rfl := Except.ok.inj h
    rw [if_neg fun hfinishes => by cases hfinishes.1]
    exact ⟨rfl, rfl⟩
  | resetInflightTask =>
    obtain rfl := Except.ok.inj h
    rw [if_neg fun hfinishes => by cases hfinishes.1]
    exact ⟨rfl, rfl⟩
  | setPlanningTask workload =>
    rw [if_neg fun hfinishes => by cases hfinishes.1]
    obtain ⟨-, h⟩ := check_bind_ok h
    obtain ⟨-, h⟩ := check_bind_ok h
    obtain ⟨-, h⟩ := check_bind_ok h
    obtain rfl := Except.ok.inj h
    exact ⟨rfl, rfl⟩
  | launchPlanningTask =>
    rw [if_neg fun hfinishes => by cases hfinishes.1]
    obtain ⟨-, h⟩ := check_bind_ok h
    have hkeeps := (InferRequest.launchPlanningTask_keeps h).1
    exact ⟨hkeeps.payload, hkeeps.stage⟩
  | setTransferMode patchTransfer =>
    obtain rfl := Except.ok.inj h
    rw [if_neg fun hfinishes => by cases hfinishes.1]
    exact ⟨rfl, rfl⟩

/-- Over a run, the stage is the same in the end exactly when it was decode from the start
or no operation of the run finished a step. -/
theorem stage_fixed_iff {ops : List RequestOp}
    (h : exec (applyOp fastPath maxDepth) req ops = .ok after) :
    after.toRequestPayload = req.toRequestPayload ∧
      (after.inferStage = req.inferStage ↔ req.inferStage = .decode ∨
        EachStep (applyOp fastPath maxDepth) (fun req op => ¬ FinishesStep req op) req ops) := by
  induction ops generalizing req with
  | nil =>
    obtain rfl := Except.ok.inj h
    exact ⟨rfl, fun _ => Or.inr trivial, fun _ => rfl⟩
  | cons op ops ih =>
    obtain ⟨mid, hop, hrest⟩ := exec_cons_ok h
    obtain ⟨hpayload, hstage⟩ := applyOp_stage hop
    obtain ⟨hrestPayload, hrestStage⟩ := ih hrest
    have heach : EachStep (applyOp fastPath maxDepth) (fun req op => ¬ FinishesStep req op) req
        (op :: ops) ↔ ¬ FinishesStep req op ∧
          EachStep (applyOp fastPath maxDepth) (fun req op => ¬ FinishesStep req op) mid ops := by
      refine and_congr_right fun _ => ⟨fun hall => hall mid hop, fun hmid t ht => ?_⟩
      obtain rfl := Except.ok.inj (hop.symm.trans ht)
      exact hmid
    refine ⟨hrestPayload.trans hpayload, ?_⟩
    rw [heach]
    by_cases hfinishes : FinishesStep req op
    · rw [if_pos hfinishes] at hstage
      rw [hrestStage.mpr (Or.inl hstage), hstage]
      exact ⟨fun hdecode => Or.inl hdecode.symm,
        fun hor => (hor.resolve_right fun hboth => hboth.1 hfinishes).symm⟩
    · rw [if_neg hfinishes] at hstage
      rw [hstage] at hrestStage
      rw [hrestStage]
      exact or_congr_right ⟨fun hmid => ⟨hfinishes, hmid⟩, And.right⟩

end Stage

section Batch

variable [DraftTokensApi] {fastPath : Bool} {maxDepth : Nat}

theorem outputStep_ok {output next : ScheduleOutput} {op : Int × RequestOp}
    (h : outputStep fastPath maxDepth output op = .ok next) :
    next = { output with runningReqs := next.runningReqs } ∧
      List.Forall₂ (fun req mid => exec (applyOp fastPath maxDepth) req (opsOn req.reqId [op]) =
        .ok mid) output.runningReqs next.runningReqs := by
  obtain ⟨reqs, hreqs, h⟩ := bind_ok h
  obtain rfl := Except.ok.inj h
  refine ⟨rfl, (forall₂_of_mapM_ok hreqs).imp fun req mid hmid => ?_⟩
  by_cases hid : op.1 = req.reqId
  · rw [if_pos hid.symm] at hmid
    simp [opsOn, hid, exec, hmid]
  · rw [if_neg fun heq => hid heq.symm] at hmid
    simpa [opsOn, hid] using hmid

/-- Every request goes through the operations on it, and nothing else of the output changes. -/
theorem outputRun_ok {output final : ScheduleOutput} {ops : List (Int × RequestOp)}
    (h : exec (outputStep fastPath maxDepth) output ops = .ok final) :
    final = { output with runningReqs := final.runningReqs } ∧
      List.Forall₂ (fun req after => exec (applyOp fastPath maxDepth) req (opsOn req.reqId ops) =
        .ok after) output.runningReqs final.runningReqs := by
  induction ops generalizing output with
  | nil =>
    obtain rfl := Except.ok.inj h
    exact ⟨rfl, List.forall₂_same.mpr fun _ _ => rfl⟩
  | cons op ops ih =>
    obtain ⟨next, hstep, hrest⟩ := exec_cons_ok h
    obtain ⟨hnext, hfirst⟩ := outputStep_ok hstep
    obtain ⟨hfinal, hsecond⟩ := ih hrest
    refine ⟨hfinal.trans (by rw [hnext]), forall₂_comp (fun req mid after hmid hafter => ?_)
      hfirst hsecond⟩
    have hid : mid.reqId = req.reqId := congrArg RequestPayload.reqId (stage_fixed_iff hmid).1
    have hops : opsOn req.reqId (op :: ops) = opsOn req.reqId [op] ++ opsOn req.reqId ops := by
      rw [opsOn, ← List.singleton_append, List.filterMap_append]
      rfl
    rw [hops, exec_append_of_ok _ hmid, ← hid]
    exact hafter

end Batch

/-- The snapshots decide how every running request is transferred. -/
def TransferDecided (output : ScheduleOutput) : Prop :=
  ∀ req ∈ output.runningReqs, ∃ snap,
    output.snapshotOf req = some snap ∧ snap.patchTransferPopulated = true

/-- With a snapshot, the patch of a request depends on nothing live but its id, its
`kv_from_remote` and its stage. -/
theorem buildPatch_eq_iff {snap : InferRequestSerializationSnapshot} {req after : InferRequest}
    (hpayload : after.toRequestPayload = req.toRequestPayload) :
    buildPatch (some snap) after = buildPatch (some snap) req ↔
      after.inferStage = req.inferStage := by
  constructor
  · exact congrArg InferRequestPatch.inferStage
  · intro hstage
    simp only [buildPatch, hpayload, hstage]

theorem map_filter_eq_iff {α β : Type} {p : α → Bool} {f : α → β} {Q : α → Prop} {xs ys : List α}
    (h : List.Forall₂ (fun x y => p y = p x ∧ (p x = true → (f y = f x ↔ Q x))) xs ys) :
    (ys.filter p).map f = (xs.filter p).map f ↔ ∀ x ∈ xs, p x = true → Q x := by
  induction h with
  | nil => simp
  | @cons x y xs ys hhead _ ih =>
    obtain ⟨hselected, hvalue⟩ := hhead
    rw [List.forall_mem_cons, ← ih]
    cases hx : p x with
    | true => simp [hselected, hx, hvalue hx]
    | false => simp [hselected, hx]

/-- Whatever happens to the requests of a launched output before it is serialized, its
patches are those of the launch exactly when no patched request that was not decoding yet
has a step finished in between. -/
theorem patches_isolated_iff [DraftTokensApi] (fastPath : Bool) (maxDepth : Nat)
    {output final : ScheduleOutput} (ops : List (Int × RequestOp))
    (hdecided : TransferDecided output)
    (hrun : exec (outputStep fastPath maxDepth) output ops = .ok final) :
    final.patchRunningReqs = output.patchRunningReqs ↔
      ∀ req ∈ output.runningReqs, output.transfersPatch req = true →
        req.inferStage = .decode ∨ EachStep (applyOp fastPath maxDepth)
          (fun req op => ¬ FinishesStep req op) req (opsOn req.reqId ops) := by
  obtain ⟨hfinal, hreqs⟩ := outputRun_ok hrun
  have hpatches : final.patchRunningReqs = (final.runningReqs.filter output.transfersPatch).map
      fun req => buildPatch (output.snapshotOf req) req := by
    rw [hfinal]
    rfl
  have hpairs : List.Forall₂ (fun req after =>
      output.transfersPatch after = output.transfersPatch req ∧
        (output.transfersPatch req = true →
          (buildPatch (output.snapshotOf after) after = buildPatch (output.snapshotOf req) req ↔
            (req.inferStage = .decode ∨ EachStep (applyOp fastPath maxDepth)
              (fun req op => ¬ FinishesStep req op) req (opsOn req.reqId ops)))))
      output.runningReqs final.runningReqs := by
    refine List.forall₂_iff_zip.mpr ⟨hreqs.length_eq, fun {req after} hzip => ?_⟩
    obtain ⟨hpayload, hstage⟩ := stage_fixed_iff (List.forall₂_zip hreqs hzip)
    obtain ⟨snap, hsnap, hpopulated⟩ := hdecided req (List.of_mem_zip hzip).1
    have hid : after.reqId = req.reqId := congrArg RequestPayload.reqId hpayload
    have hsnapAfter : output.snapshotOf after = some snap := by
      rw [ScheduleOutput.snapshotOf, hid]
      exact hsnap
    refine ⟨?_, fun _ => ?_⟩
    · simp [ScheduleOutput.transfersPatch, hsnap, hsnapAfter, hpopulated]
    · rw [hsnap, hsnapAfter, buildPatch_eq_iff hpayload]
      exact hstage
  rw [hpatches]
  exact map_filter_eq_iff hpairs

/-- A decode step launched behind the prefill that is still in flight. -/
def launchedAheadSample : InferRequest where
  reqId := 7
  samplingTokenNum := 1
  outputTokens := [11, 12]
  forwardingTokens := [11, 12, -1]
  forwardStepKind := .decode
  kvCachedTokenNum := 2
  prefixCacheLen := 2
  prefillingTokens := [11, 12]
  inflightTasks := [⟨{ prefillTokenNum := 2, samplingTokenNum := 1 }⟩,
    ⟨{ generatedTokenNum := 1, samplingTokenNum := 1 }⟩]
  pendingPlaceholderPositions := [2]
  pendingPlaceholderDraftNums := [0]
  remainingWorkload := { prefillStartOffset := 2 }

/-- The output that step was launched from, its request sent as a patch. -/
def launchedOutputSample (stage : InferStage) : ScheduleOutput where
  scheduleId := 5
  runningReqs := [{ launchedAheadSample with inferStage := stage }]
  reqSerializationSnapshots := (∅ : SerializationSnapshots).insert 7
    { InferRequestSerializationSnapshot.capture {} launchedAheadSample true with
      patchTransfer := true
      patchTransferPopulated := true }

/-- The prefill returns token 20 and retires. -/
def prefillReturnsSample : List (Int × RequestOp) :=
  [(7, .deliver { generatedTokens := [20] }), (7, .updateAfterInflightTaskFinished),
    (7, .resetInflightTask)]

theorem launchedOutputSample_decided (stage : InferStage) :
    TransferDecided (launchedOutputSample stage) := by
  intro req hmem
  obtain rfl := List.mem_singleton.mp hmem
  exact ⟨_, AList.lookup_insert _, rfl⟩

/-- The request was decoding before: its patch stays the same. -/
theorem patches_isolated_iff_sample :
    letI := concatDraftTokens
    ∃ final, exec (outputStep true 2) (launchedOutputSample .decode) prefillReturnsSample =
        .ok final ∧ final.patchRunningReqs = (launchedOutputSample .decode).patchRunningReqs := by
  let _ := concatDraftTokens
  cases hrun : exec (outputStep true 2) (launchedOutputSample .decode) prefillReturnsSample with
  | error message =>
    have hok : (exec (outputStep true 2) (launchedOutputSample .decode)
      prefillReturnsSample).isOk = true := rfl
    rw [hrun] at hok
    cases hok
  | ok final =>
    refine ⟨final, rfl, (patches_isolated_iff true 2 prefillReturnsSample
      (launchedOutputSample_decided .decode) hrun).mpr fun req hmem _ => ?_⟩
    obtain rfl := List.mem_singleton.mp hmem
    exact Or.inl rfl

/-- The prefill retires before the patch of the next step is built: the patch says decode,
while at the launch it said context. -/
theorem patches_depend_on_retirement :
    letI := concatDraftTokens
    ¬ ∀ (output final : ScheduleOutput) (ops : List (Int × RequestOp)), TransferDecided output →
      exec (outputStep true 2) output ops = .ok final →
        final.patchRunningReqs = output.patchRunningReqs := by
  let _ := concatDraftTokens
  intro hisolated
  have hstages : (exec (outputStep true 2) (launchedOutputSample .context)
      prefillReturnsSample).map (fun final => final.patchRunningReqs.map
        fun patch => patch.inferStage) = .ok [.decode] := rfl
  cases hrun : exec (outputStep true 2) (launchedOutputSample .context) prefillReturnsSample with
  | error message =>
    rw [hrun] at hstages
    cases hstages
  | ok final =>
    rw [hrun] at hstages
    have hafter : (final.patchRunningReqs.map fun patch => patch.inferStage) = [.decode] :=
      Except.ok.inj hstages
    rw [hisolated _ final prefillReturnsSample (launchedOutputSample_decided .context) hrun]
      at hafter
    exact absurd hafter (by decide)

end KsanaBuildAhead.Engine
