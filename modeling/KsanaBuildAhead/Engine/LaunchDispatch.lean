import KsanaBuildAhead.Runtime.InferRequestSteps
import KsanaBuildAhead.Runtime.ScheduleOutput

/-!
# Dispatching a planned schedule output

A planned output may be replayed after a refusal, when some of its requests have
been launched elsewhere. The launch passes over those; the serialization does not.
-/
namespace KsanaBuildAhead.Engine

open KsanaBuildAhead.Runtime

def kExecutorPipelineMaxDepth : Nat := 2

/-- How many steps of one request may be in flight once it is launched. -/
def maxInflightDepth (fastPath : Bool) : Nat := if fastPath then 2 else 1

/-- What `TryToLaunchPlannedScheduleOutput` returns and leaves behind. -/
structure LaunchAttempt where
  launched : Bool
  executorPipelineDepth : Nat
  planned : ScheduleOutput
  stoppedReqs : List InferRequest

/-- `mergeScheduleInfoForWorkers` is declared outside the sources. -/
def tryToLaunchPlannedScheduleOutput [DraftTokensApi] (fastPath : Bool)
    (mergeScheduleInfoForWorkers : ScheduleOutput → ScheduleOutput) (executorPipelineDepth : Nat)
    (planned : ScheduleOutput) : Except String LaunchAttempt :=
  let maxDepth := maxInflightDepth fastPath
  if planned.isLaunchable maxDepth then
    let stoppedReqs := planned.runningReqs.filter fun req => req.isStopped
    let kept := { planned with runningReqs := planned.runningReqs.filter fun req => !req.isStopped }
    if kept.runningReqs = [] then
      .ok ⟨true, executorPipelineDepth, kept, stoppedReqs⟩
    else if fastPath = true ∧ kExecutorPipelineMaxDepth ≤ executorPipelineDepth then
      .ok ⟨false, executorPipelineDepth, kept, stoppedReqs⟩
    else do
      let merged := mergeScheduleInfoForWorkers kept
      check (merged.isLaunchable maxDepth = true) "planned_schedule_output.IsLaunchable(max_depth)"
      let (launchedAny, launched) ← merged.launchScheduleOutput fastPath maxDepth
      if launchedAny then
        .ok ⟨true, if fastPath then executorPipelineDepth + 1 else executorPipelineDepth, launched,
          stoppedReqs⟩
      else .ok ⟨false, executorPipelineDepth, launched, stoppedReqs⟩
  else .ok ⟨false, executorPipelineDepth, planned, []⟩

section Launch

variable [DraftTokensApi] (fastPath : Bool)

/-- What the launch loop makes of one request, and the snapshot it leaves of it. -/
def LaunchesTo (snapshots : SerializationSnapshots) (req after : InferRequest) : Prop :=
  if req.awaitsLaunch then
    req.launchPlanningTask fastPath req.hasInflightTask = .ok after ∧
      ∃ snap, snapshots.lookup req.reqId = some snap ∧
        snap.forwardingTokens = after.forwardingTokens
  else after = req

variable {fastPath}

theorem LaunchesTo.reqId {snapshots : SerializationSnapshots} {req after : InferRequest}
    (h : LaunchesTo fastPath snapshots req after) : after.reqId = req.reqId := by
  rw [LaunchesTo] at h
  split at h
  · have hpayload := (InferRequest.launchPlanningTask_keeps h.1).1.payload
    exact congrArg RequestPayload.reqId hpayload
  · rw [h]

/-- Every request goes through the loop once; ids that are not in it keep their snapshot. -/
theorem launchRunningReqs_spec {reqs after : List InferRequest}
    {before snapshots : SerializationSnapshots} {launchedAny : Bool}
    (hids : (reqs.map fun req => req.reqId).Nodup)
    (h : launchRunningReqs fastPath reqs before = .ok (launchedAny, after, snapshots)) :
    List.Forall₂ (LaunchesTo fastPath snapshots) reqs after ∧
      ∀ reqId, (∀ req ∈ reqs, req.reqId ≠ reqId) →
        snapshots.lookup reqId = before.lookup reqId := by
  induction reqs generalizing before after launchedAny with
  | nil =>
    obtain ⟨-, hrest⟩ := Prod.mk.inj (Except.ok.inj h)
    obtain ⟨rfl, rfl⟩ := Prod.mk.inj hrest
    exact ⟨.nil, fun _ _ => rfl⟩
  | cons req reqs ih =>
    obtain ⟨hfresh, hids⟩ := List.nodup_cons.mp hids
    have hothers : ∀ other ∈ reqs, other.reqId ≠ req.reqId := fun other hmem heq =>
      hfresh (List.mem_map.mpr ⟨other, hmem, heq⟩)
    rw [launchRunningReqs] at h
    split at h
    · rename_i hawaits
      obtain ⟨launched, hlaunch, h⟩ := bind_ok h
      obtain ⟨⟨any, rest, final⟩, hloop, h⟩ := bind_ok h
      obtain ⟨-, hpair⟩ := Prod.mk.inj (Except.ok.inj h)
      obtain ⟨rfl, rfl⟩ := Prod.mk.inj hpair
      obtain ⟨hrest, hframe⟩ := ih hids hloop
      have hown := hframe req.reqId hothers
      rw [AList.lookup_insert] at hown
      refine ⟨.cons ?_ hrest, fun reqId hne => ?_⟩
      · rw [LaunchesTo, if_pos hawaits]
        exact ⟨hlaunch, _, hown, rfl⟩
      · rw [hframe reqId fun other hmem => hne other (List.mem_cons_of_mem req hmem),
          AList.lookup_insert_ne (hne req List.mem_cons_self).symm]
    · rename_i hpassed
      obtain ⟨⟨any, rest, final⟩, hloop, h⟩ := bind_ok h
      obtain ⟨-, hpair⟩ := Prod.mk.inj (Except.ok.inj h)
      obtain ⟨rfl, rfl⟩ := Prod.mk.inj hpair
      obtain ⟨hrest, hframe⟩ := ih hids hloop
      refine ⟨.cons ?_ hrest, fun reqId hne => ?_⟩
      · rw [LaunchesTo, if_neg hpassed]
      · exact hframe reqId fun other hmem => hne other (List.mem_cons_of_mem req hmem)

/-- A successful attempt with running requests left has launched those not stopped. -/
theorem tryToLaunch_ok {merge : ScheduleOutput → ScheduleOutput} {depth : Nat}
    {planned : ScheduleOutput} {attempt : LaunchAttempt}
    (hmerge : ∀ output, (merge output).runningReqs = output.runningReqs)
    (h : tryToLaunchPlannedScheduleOutput fastPath merge depth planned = .ok attempt)
    (hlaunched : attempt.launched = true) (hsome : attempt.planned.runningReqs ≠ []) :
    ∃ snapshots, launchRunningReqs fastPath
        (planned.runningReqs.filter fun req => !req.isStopped) snapshots =
      .ok (true, attempt.planned.runningReqs, attempt.planned.reqSerializationSnapshots) := by
  simp only [tryToLaunchPlannedScheduleOutput] at h
  split at h
  · split at h
    · rename_i hempty
      obtain rfl := Except.ok.inj h
      exact absurd hempty hsome
    · split at h
      · obtain rfl := Except.ok.inj h
        cases hlaunched
      · obtain ⟨hlaunchable, h⟩ := check_bind_ok h
        obtain ⟨⟨launchedAny, launched⟩, hlaunch, h⟩ := bind_ok h
        cases launchedAny with
        | false =>
          obtain rfl := Except.ok.inj h
          cases hlaunched
        | true =>
          obtain rfl := Except.ok.inj h
          rw [ScheduleOutput.launchScheduleOutput, if_pos hlaunchable, hmerge] at hlaunch
          obtain ⟨⟨any, reqs, snapshots⟩, hloop, hdone⟩ := bind_ok hlaunch
          obtain ⟨rfl, rfl⟩ := Prod.mk.inj (Except.ok.inj hdone)
          exact ⟨_, hloop⟩
  · obtain rfl := Except.ok.inj h
    cases hlaunched

omit [DraftTokensApi] in
theorem kept_of_launchable {planned : ScheduleOutput} {maxDepth : Nat}
    (h : planned.isLaunchable maxDepth = true) :
    (planned.runningReqs.filter fun req => !req.isStopped) ≠ [] := by
  obtain ⟨-, hany⟩ := Bool.and_eq_true_iff.mp h
  obtain ⟨req, hmem, hawaits⟩ := List.any_eq_true.mp hany
  obtain ⟨hrunning, -⟩ := Bool.and_eq_true_iff.mp hawaits
  exact List.ne_nil_of_mem (List.mem_filter.mpr ⟨hmem, hrunning⟩)

/-- On the fast path a launch takes one of the two places of the pipeline, and a refusal none. -/
theorem tryToLaunch_depth {merge : ScheduleOutput → ScheduleOutput} {depth : Nat}
    {planned : ScheduleOutput} {attempt : LaunchAttempt}
    (h : tryToLaunchPlannedScheduleOutput true merge depth planned = .ok attempt) :
    (attempt.launched = true ∧ depth < kExecutorPipelineMaxDepth ∧
        attempt.executorPipelineDepth = depth + 1) ∨
      (attempt.launched = false ∧ attempt.executorPipelineDepth = depth) := by
  simp only [tryToLaunchPlannedScheduleOutput] at h
  split at h
  · rename_i hlaunchable
    rw [if_neg (kept_of_launchable hlaunchable)] at h
    split at h
    · obtain rfl := Except.ok.inj h
      exact Or.inr ⟨rfl, rfl⟩
    · rename_i hroom
      obtain ⟨-, h⟩ := check_bind_ok h
      obtain ⟨⟨launchedAny, launched⟩, -, h⟩ := bind_ok h
      cases launchedAny with
      | false =>
        obtain rfl := Except.ok.inj h
        exact Or.inr ⟨rfl, rfl⟩
      | true =>
        obtain rfl := Except.ok.inj h
        exact Or.inl ⟨rfl, Nat.lt_of_not_le (fun hfull => hroom ⟨trivial, hfull⟩), rfl⟩
  · obtain rfl := Except.ok.inj h
    exact Or.inr ⟨rfl, rfl⟩

end Launch

/-- Full requests and patches together are the running requests, in some order. -/
theorem transmitted_perm (output : ScheduleOutput) :
    output.transmitted.Perm (output.runningReqs.map fun req =>
      (req.reqId, (sentSnapshot (output.snapshotOf req) req).forwardingTokens)) := by
  have hpatch : ∀ req : InferRequest,
      ((buildPatch (output.snapshotOf req) req).reqId,
        (buildPatch (output.snapshotOf req) req).deltaForwardingTokens) =
      (req.reqId, (sentSnapshot (output.snapshotOf req) req).forwardingTokens) := by
    intro req
    cases hsnap : output.snapshotOf req with
    | none => rfl
    | some snap => rfl
  have hsplit : output.transmitted =
      ((output.runningReqs.filter fun req => !output.transfersPatch req) ++
        output.runningReqs.filter output.transfersPatch).map fun req =>
          (req.reqId, (sentSnapshot (output.snapshotOf req) req).forwardingTokens) := by
    rw [ScheduleOutput.transmitted, ScheduleOutput.patchRunningReqs, List.map_map, List.map_append]
    congr 1
    exact List.map_congr_left fun req _ => hpatch req
  rw [hsplit]
  refine List.Perm.map _ (List.Perm.trans List.perm_append_comm ?_)
  exact List.filter_append_perm _ _

/-- The wire carries exactly the requests this attempt launched, each once and with the
tokens of its launch. -/
def DispatchesLaunched [DraftTokensApi] (fastPath : Bool) (planned : ScheduleOutput)
    (attempt : LaunchAttempt) : Prop :=
  ∃ launched, List.Forall₂ (fun req after =>
      InferRequest.launchPlanningTask fastPath req req.hasInflightTask = .ok after)
      (planned.runningReqs.filter InferRequest.awaitsLaunch) launched ∧
    attempt.planned.transmitted.Perm
      (launched.map fun req => (req.reqId, req.forwardingTokens))

section Dispatch

variable [DraftTokensApi] {fastPath : Bool} {planned : ScheduleOutput}

omit [DraftTokensApi] in
/-- When every request not stopped still has its plan, all of them are launched. -/
theorem awaitsLaunch_of_planned
    (hplanned : ∀ req ∈ planned.runningReqs, req.isStopped = false → req.hasPlanningTask = true) :
    (planned.runningReqs.filter fun req => !req.isStopped) =
      planned.runningReqs.filter InferRequest.awaitsLaunch := by
  refine List.filter_congr fun req hmem => ?_
  cases hstopped : req.isStopped with
  | true => simp [InferRequest.awaitsLaunch, hstopped]
  | false => simp [InferRequest.awaitsLaunch, hstopped, hplanned req hmem hstopped]

theorem transmitted_of_launched {output : ScheduleOutput} {reqs : List InferRequest}
    (hlaunched : List.Forall₂ (LaunchesTo fastPath output.reqSerializationSnapshots) reqs
      output.runningReqs)
    (hawaits : ∀ req ∈ reqs, req.awaitsLaunch = true) :
    List.Forall₂ (fun req after =>
        InferRequest.launchPlanningTask fastPath req req.hasInflightTask = .ok after) reqs
      output.runningReqs ∧
    (output.runningReqs.map fun req =>
      (req.reqId, (sentSnapshot (output.snapshotOf req) req).forwardingTokens)) =
      output.runningReqs.map fun req => (req.reqId, req.forwardingTokens) := by
  simp only [ScheduleOutput.snapshotOf]
  generalize output.runningReqs = after at hlaunched
  induction hlaunched with
  | nil => exact ⟨.nil, rfl⟩
  | @cons req launched reqs rest hhead _ ih =>
    obtain ⟨hrest, htokens⟩ := ih fun other hmem => hawaits other (List.mem_cons_of_mem req hmem)
    have hid := hhead.reqId
    rw [LaunchesTo, if_pos (hawaits req List.mem_cons_self)] at hhead
    obtain ⟨hlaunch, snap, hsnap, hforwarding⟩ := hhead
    refine ⟨.cons hlaunch hrest, ?_⟩
    rw [List.map_cons, List.map_cons, htokens, hid, hsnap, sentSnapshot, Option.getD_some,
      hforwarding]

end Dispatch

/-- A successful dispatch of distinct requests transmits exactly what it launched if and only
if every request that was not stopped still had its planning task. -/
theorem dispatch_has_no_ghost_iff [DraftTokensApi] {fastPath : Bool}
    {merge : ScheduleOutput → ScheduleOutput} {depth : Nat} {planned : ScheduleOutput}
    {attempt : LaunchAttempt}
    (hmerge : ∀ output, (merge output).runningReqs = output.runningReqs)
    (hids : (planned.runningReqs.map fun req => req.reqId).Nodup)
    (hattempt : tryToLaunchPlannedScheduleOutput fastPath merge depth planned = .ok attempt)
    (hlaunched : attempt.launched = true) (hsome : attempt.planned.runningReqs ≠ []) :
    DispatchesLaunched fastPath planned attempt ↔
      ∀ req ∈ planned.runningReqs, req.isStopped = false → req.hasPlanningTask = true := by
  obtain ⟨before, hloop⟩ := tryToLaunch_ok hmerge hattempt hlaunched hsome
  have hactive : ((planned.runningReqs.filter fun req => !req.isStopped).map
      fun req => req.reqId).Nodup := hids.sublist (List.filter_sublist.map _)
  obtain ⟨hspec, -⟩ := launchRunningReqs_spec hactive hloop
  have htransmitted := transmitted_perm attempt.planned
  constructor
  · rintro ⟨launched, hlaunches, hwire⟩ req hmem hstopped
    have hlengths : (planned.runningReqs.filter InferRequest.awaitsLaunch).length =
        (planned.runningReqs.filter fun req => !req.isStopped).length := by
      have hsent := (htransmitted.symm.trans hwire).length_eq
      rw [List.length_map, List.length_map] at hsent
      rw [hlaunches.length_eq, hspec.length_eq, hsent]
    have hfilter : planned.runningReqs.filter InferRequest.awaitsLaunch =
        (planned.runningReqs.filter fun req => !req.isStopped).filter
          InferRequest.hasPlanningTask := by
      rw [List.filter_filter]
      exact List.filter_congr fun req _ => Bool.and_comm _ _
    rw [hfilter, List.length_filter_eq_length_iff] at hlengths
    exact hlengths req (List.mem_filter.mpr ⟨hmem, by rw [hstopped]; rfl⟩)
  · intro hplanned
    have hall := awaitsLaunch_of_planned hplanned
    rw [hall] at hspec
    obtain ⟨hlaunches, htokens⟩ := transmitted_of_launched hspec fun req hmem =>
      (List.mem_filter.mp hmem).2
    rw [htokens] at htransmitted
    exact ⟨attempt.planned.runningReqs, hlaunches, htransmitted⟩

/-- Ready for its first prefill step. -/
def plannedSample : InferRequest where
  reqId := 7
  outputTokens := [11, 12]
  prefillingTokens := [11, 12]
  planningTask := ⟨{ prefillTokenNum := 2 }⟩
  remainingWorkload := { prefillStartOffset := 2 }

/-- Its planning task was consumed: the step is in flight. -/
def consumedSample : InferRequest where
  reqId := 8
  outputTokens := [21]
  forwardingTokens := [21]
  prefillingTokens := [21]
  inflightTasks := [⟨{ prefillTokenNum := 1 }⟩]
  patchTransfer := true

/-- A stopped request and one that is ready. -/
def freshOutputSample : ScheduleOutput where
  scheduleId := 4
  runningReqs := [{ consumedSample with isStopped := true }, plannedSample]

/-- The same two, neither stopped. -/
def staleOutputSample : ScheduleOutput where
  scheduleId := 4
  runningReqs := [consumedSample, plannedSample]

/-- With the consumed request stopped, only the other one is dispatched. -/
theorem dispatch_has_no_ghost_iff_sample :
    letI := concatDraftTokens
    ∃ attempt, tryToLaunchPlannedScheduleOutput true id 1 freshOutputSample = .ok attempt ∧
      attempt.executorPipelineDepth = 2 ∧ DispatchesLaunched true freshOutputSample attempt := by
  let _ := concatDraftTokens
  have hvalues : (tryToLaunchPlannedScheduleOutput true id 1 freshOutputSample).map
      (fun attempt => (attempt.launched, attempt.executorPipelineDepth,
        attempt.planned.runningReqs.length)) = .ok (true, 2, 1) := rfl
  cases hattempt : tryToLaunchPlannedScheduleOutput true id 1 freshOutputSample with
  | error message =>
    rw [hattempt] at hvalues
    cases hvalues
  | ok attempt =>
    rw [hattempt] at hvalues
    have hparts : (attempt.launched, attempt.executorPipelineDepth,
        attempt.planned.runningReqs.length) = (true, 2, 1) := Except.ok.inj hvalues
    obtain ⟨hlaunched, hrest⟩ := Prod.mk.inj hparts
    obtain ⟨hdepth, hlength⟩ := Prod.mk.inj hrest
    have hsome : attempt.planned.runningReqs ≠ [] := by
      intro hempty
      rw [hempty] at hlength
      cases hlength
    exact ⟨attempt, rfl, hdepth, (dispatch_has_no_ghost_iff (fun _ => rfl) (by decide) hattempt
      hlaunched hsome).mpr (by decide)⟩

/-- A request whose step went out by another path is transmitted again as a patch. -/
theorem dispatch_has_ghost :
    letI := concatDraftTokens
    ¬ ∀ (planned : ScheduleOutput) (depth : Nat) (attempt : LaunchAttempt),
      (planned.runningReqs.map fun req => req.reqId).Nodup →
      tryToLaunchPlannedScheduleOutput true id depth planned = .ok attempt →
      attempt.launched = true → attempt.planned.runningReqs ≠ [] →
        DispatchesLaunched true planned attempt := by
  let _ := concatDraftTokens
  intro hdispatches
  have hvalues : (tryToLaunchPlannedScheduleOutput true id 1 staleOutputSample).map
      (fun attempt => (attempt.launched, attempt.planned.transmitted)) =
        .ok (true, [(7, [11, 12]), (8, [21])]) := rfl
  cases hattempt : tryToLaunchPlannedScheduleOutput true id 1 staleOutputSample with
  | error message =>
    rw [hattempt] at hvalues
    cases hvalues
  | ok attempt =>
    rw [hattempt] at hvalues
    have hparts : (attempt.launched, attempt.planned.transmitted) =
        (true, [(7, [11, 12]), (8, [21])]) := Except.ok.inj hvalues
    obtain ⟨hlaunched, hsent⟩ := Prod.mk.inj hparts
    have hsome : attempt.planned.runningReqs ≠ [] := by
      intro hempty
      have hnone : attempt.planned.transmitted = [] := by
        rw [ScheduleOutput.transmitted, ScheduleOutput.fullRunningReqs,
          ScheduleOutput.patchRunningReqs, hempty]
        rfl
      rw [hnone] at hsent
      cases hsent
    obtain ⟨launched, hlaunches, hwire⟩ :=
      hdispatches staleOutputSample 1 attempt (by decide) hattempt hlaunched hsome
    have hone : (staleOutputSample.runningReqs.filter InferRequest.awaitsLaunch).length = 1 := rfl
    have hlength := hwire.length_eq
    rw [hsent, List.length_map, ← hlaunches.length_eq, hone] at hlength
    cases hlength

end KsanaBuildAhead.Engine
