import KsanaBuildAhead.Engine.LaunchDispatch
import KsanaBuildAhead.Lib.Execution

/-!
# Retrying a refused launch

A planned output that is refused is kept and tried again. Requests may stop in between, and a
call takes the stopped ones out of the output before it looks at the depth of the pipeline.
-/
namespace KsanaBuildAhead.Engine

open KsanaBuildAhead.Runtime KsanaBuildAhead.Lib.Execution

/-- A call of `TryToLaunchPlannedScheduleOutput`, and what happens to the requests before it. -/
structure LaunchCall where
  executorPipelineDepth : Nat
  meanwhile : InferRequest → InferRequest
  mergeScheduleInfoForWorkers : ScheduleOutput → ScheduleOutput
  sameRequest : ∀ req, (meanwhile req).reqId = req.reqId
  mergeKeeps : ∀ output, (mergeScheduleInfoForWorkers output).runningReqs = output.runningReqs

/-- The planned output as the call finds it. -/
def LaunchCall.found (call : LaunchCall) (planned : ScheduleOutput) : ScheduleOutput :=
  { planned with runningReqs := planned.runningReqs.map call.meanwhile }

def LaunchCall.run [DraftTokensApi] (fastPath : Bool) (call : LaunchCall)
    (planned : ScheduleOutput) : Except String LaunchAttempt :=
  tryToLaunchPlannedScheduleOutput fastPath call.mergeScheduleInfoForWorkers
    call.executorPipelineDepth (call.found planned)

/-- A call that is refused, and the output it leaves to the next one. -/
def refusedCall [DraftTokensApi] (fastPath : Bool) (planned : ScheduleOutput) (call : LaunchCall) :
    Except String ScheduleOutput := do
  let attempt ← call.run fastPath planned
  check (attempt.launched = false) "launched"
  .ok attempt.planned

/-- A refusal leaves the output as the call found it. -/
def RefusedUnchanged [DraftTokensApi] (fastPath : Bool) (planned : ScheduleOutput)
    (call : LaunchCall) : Prop :=
  ∀ left, refusedCall fastPath planned call = .ok left → left = call.found planned

/-- The pipeline is full when a launchable output holds a stopped request. -/
def StoppedWhenFull (fastPath : Bool) (planned : ScheduleOutput) (call : LaunchCall) : Prop :=
  fastPath = true ∧ kExecutorPipelineMaxDepth ≤ call.executorPipelineDepth ∧
    (call.found planned).isLaunchable (maxInflightDepth fastPath) = true ∧
    ∃ req ∈ (call.found planned).runningReqs, req.isStopped = true

instance (fastPath : Bool) (planned : ScheduleOutput) (call : LaunchCall) :
    Decidable (StoppedWhenFull fastPath planned call) := by
  unfold StoppedWhenFull
  infer_instance

/-- Every request of the first output is among the running or the stopped ones in the end. -/
def NoneLost (planned : ScheduleOutput) (attempt : LaunchAttempt) : Prop :=
  ∀ req ∈ planned.runningReqs,
    req.reqId ∈ attempt.planned.runningReqs.map (fun req => req.reqId) ∨
      req.reqId ∈ attempt.stoppedReqs.map (fun req => req.reqId)

section Call

variable [DraftTokensApi] {fastPath : Bool} {planned left : ScheduleOutput} {call : LaunchCall}

omit [DraftTokensApi] in
theorem found_ids (call : LaunchCall) (planned : ScheduleOutput) :
    (call.found planned).runningReqs.map (fun req => req.reqId) =
      planned.runningReqs.map fun req => req.reqId := by
  rw [LaunchCall.found, List.map_map]
  exact List.map_congr_left fun req _ => call.sameRequest req

theorem launchRunningReqs_any {reqs after : List InferRequest}
    {before snapshots : SerializationSnapshots} {launchedAny : Bool}
    (h : launchRunningReqs fastPath reqs before = .ok (launchedAny, after, snapshots)) :
    launchedAny = reqs.any InferRequest.awaitsLaunch := by
  induction reqs generalizing before after snapshots launchedAny with
  | nil =>
    obtain ⟨rfl, -⟩ := Prod.mk.inj (Except.ok.inj h)
    rfl
  | cons req reqs ih =>
    rw [launchRunningReqs] at h
    rw [List.any_cons]
    split at h
    · rename_i hawaits
      obtain ⟨launched, -, h⟩ := bind_ok h
      obtain ⟨⟨any, rest, final⟩, -, h⟩ := bind_ok h
      obtain ⟨rfl, -⟩ := Prod.mk.inj (Except.ok.inj h)
      rw [hawaits, Bool.true_or]
    · rename_i hpassed
      obtain ⟨⟨any, rest, final⟩, hloop, h⟩ := bind_ok h
      obtain ⟨rfl, -⟩ := Prod.mk.inj (Except.ok.inj h)
      rw [eq_false_of_ne_true hpassed, Bool.false_or]
      exact ih hloop

theorem launchesTo_ids {snapshots : SerializationSnapshots} {reqs after : List InferRequest}
    (h : List.Forall₂ (LaunchesTo fastPath snapshots) reqs after) :
    (after.map fun req => req.reqId) = reqs.map fun req => req.reqId := by
  induction h with
  | nil => rfl
  | cons hhead _ ih => rw [List.map_cons, List.map_cons, hhead.reqId, ih]

/-- What a refused call leaves: the output as it was, unless the pipeline was full; then it has
taken the stopped requests out. -/
theorem refusedCall_ok (h : refusedCall fastPath planned call = .ok left) :
    left = call.found planned ∨
      (fastPath = true ∧ kExecutorPipelineMaxDepth ≤ call.executorPipelineDepth ∧
        (call.found planned).isLaunchable (maxInflightDepth fastPath) = true ∧
        left = { call.found planned with
          runningReqs := (call.found planned).runningReqs.filter fun req => !req.isStopped }) := by
  obtain ⟨attempt, hattempt, h⟩ := bind_ok h
  obtain ⟨hrefused, h⟩ := check_bind_ok h
  obtain rfl := Except.ok.inj h
  simp only [LaunchCall.run, tryToLaunchPlannedScheduleOutput] at hattempt
  split at hattempt
  case isFalse =>
    obtain rfl := Except.ok.inj hattempt
    exact Or.inl rfl
  case isTrue hlaunchable =>
    split at hattempt
    case isTrue =>
      obtain rfl := Except.ok.inj hattempt
      cases hrefused
    case isFalse =>
      split at hattempt
      case isTrue hfull =>
        obtain rfl := Except.ok.inj hattempt
        exact Or.inr ⟨hfull.1, hfull.2, hlaunchable, rfl⟩
      case isFalse =>
        obtain ⟨hmerged, hattempt⟩ := check_bind_ok hattempt
        obtain ⟨⟨launchedAny, launched⟩, hlaunch, hattempt⟩ := bind_ok hattempt
        rw [ScheduleOutput.launchScheduleOutput, if_pos hmerged] at hlaunch
        obtain ⟨⟨any, reqs, snapshots⟩, hloop, hdone⟩ := bind_ok hlaunch
        obtain ⟨rfl, -⟩ := Prod.mk.inj (Except.ok.inj hdone)
        have hany := launchRunningReqs_any hloop
        rw [(Bool.and_eq_true_iff.mp hmerged).2] at hany
        subst hany
        obtain rfl := Except.ok.inj hattempt
        cases hrefused

/-- With the pipeline full a launchable output loses its stopped requests. -/
theorem refusedCall_full (hfast : fastPath = true)
    (hfull : kExecutorPipelineMaxDepth ≤ call.executorPipelineDepth)
    (hlaunchable : (call.found planned).isLaunchable (maxInflightDepth fastPath) = true) :
    refusedCall fastPath planned call = .ok { call.found planned with
      runningReqs := (call.found planned).runningReqs.filter fun req => !req.isStopped } := by
  have hrun : call.run fastPath planned = .ok ⟨false, call.executorPipelineDepth,
      { call.found planned with
        runningReqs := (call.found planned).runningReqs.filter fun req => !req.isStopped },
      (call.found planned).runningReqs.filter fun req => req.isStopped⟩ := by
    simp only [LaunchCall.run, tryToLaunchPlannedScheduleOutput]
    rw [if_pos hlaunchable, if_neg (kept_of_launchable hlaunchable), if_pos ⟨hfast, hfull⟩]
  rw [refusedCall, hrun]
  rfl

theorem refusedUnchanged_iff (planned : ScheduleOutput) (call : LaunchCall) :
    RefusedUnchanged fastPath planned call ↔ ¬ StoppedWhenFull fastPath planned call := by
  constructor
  · rintro hunchanged ⟨hfast, hfull, hlaunchable, req, hmem, hstopped⟩
    have hleft := hunchanged _ (refusedCall_full hfast hfull hlaunchable)
    have hreqs := congrArg ScheduleOutput.runningReqs hleft
    rw [← hreqs] at hmem
    have hrunning := (List.mem_filter.mp hmem).2
    rw [hstopped] at hrunning
    cases hrunning
  · intro hnone left hleft
    rcases refusedCall_ok hleft with hsame | ⟨hfast, hfull, hlaunchable, rfl⟩
    · exact hsame
    · have hall : ((call.found planned).runningReqs.filter fun req => !req.isStopped) =
          (call.found planned).runningReqs := by
        refine List.filter_eq_self.mpr fun req hmem => ?_
        rw [Bool.not_eq_true']
        exact eq_false_of_ne_true fun hstopped =>
          hnone ⟨hfast, hfull, hlaunchable, req, hmem, hstopped⟩
      rw [hall]

/-- One refusal keeps the ids or, with a stopped request on a full pipeline, loses some. -/
theorem refusedCall_ids (h : refusedCall fastPath planned call = .ok left) :
    (left.runningReqs.map fun req => req.reqId).Sublist
        (planned.runningReqs.map fun req => req.reqId) ∧
      (left.runningReqs.length = planned.runningReqs.length ↔
        ¬ StoppedWhenFull fastPath planned call) := by
  have hids := found_ids call planned
  have hlength : (call.found planned).runningReqs.length = planned.runningReqs.length :=
    List.length_map ..
  rw [← hids, ← hlength]
  rcases refusedCall_ok h with rfl | ⟨hfast, hfull, hlaunchable, rfl⟩
  · refine ⟨List.Sublist.refl _, iff_of_true rfl ?_⟩
    rintro hlost
    have hleft := refusedCall_full hlost.1 hlost.2.1 hlost.2.2.1
    have hsame := (refusedUnchanged_iff planned call).mp
      (fun other hother => by rw [h] at hother; exact (Except.ok.inj hother).symm)
    exact hsame hlost
  · refine ⟨List.filter_sublist.map _, ?_⟩
    rw [List.length_filter_eq_length_iff]
    constructor
    · rintro hrunning ⟨-, -, -, req, hmem, hstopped⟩
      have hkept := hrunning req hmem
      rw [hstopped] at hkept
      cases hkept
    · intro hnone req hmem
      rw [Bool.not_eq_true']
      exact eq_false_of_ne_true fun hstopped =>
        hnone ⟨hfast, hfull, hlaunchable, req, hmem, hstopped⟩

end Call

section Calls

variable [DraftTokensApi] {fastPath : Bool} {start before : ScheduleOutput}
  {calls : List LaunchCall} {last : LaunchCall} {attempt : LaunchAttempt}

theorem refusedCalls_ids (h : exec (refusedCall fastPath) start calls = .ok before) :
    (before.runningReqs.map fun req => req.reqId).Sublist
        (start.runningReqs.map fun req => req.reqId) ∧
      (before.runningReqs.length = start.runningReqs.length ↔
        EachStep (refusedCall fastPath)
          (fun planned call => ¬ StoppedWhenFull fastPath planned call) start calls) := by
  induction calls generalizing start with
  | nil =>
    obtain rfl := Except.ok.inj h
    exact ⟨List.Sublist.refl _, iff_of_true rfl trivial⟩
  | cons call calls ih =>
    obtain ⟨left, hcall, hrest⟩ := exec_cons_ok h
    obtain ⟨hsub, hkept⟩ := refusedCall_ids hcall
    obtain ⟨hrestSub, hrestKept⟩ := ih hrest
    refine ⟨hrestSub.trans hsub, ?_⟩
    have hfewer := hsub.length_le
    have hrestFewer := hrestSub.length_le
    simp only [List.length_map] at hfewer hrestFewer
    constructor
    · intro hsame
      refine ⟨hkept.mp (by omega), fun t ht => ?_⟩
      rw [hcall] at ht
      obtain rfl := Except.ok.inj ht
      exact hrestKept.mp (by omega)
    · rintro ⟨hnone, hsteps⟩
      exact (hrestKept.mpr (hsteps left hcall)).trans (hkept.mpr hnone)

/-- The call that succeeds reports the stopped requests and launches the others. -/
theorem launchedCall_ids (hids : (before.runningReqs.map fun req => req.reqId).Nodup)
    (h : last.run fastPath before = .ok attempt) (hlaunched : attempt.launched = true) (reqId : Int) :
    (reqId ∈ attempt.planned.runningReqs.map (fun req => req.reqId) ∨
      reqId ∈ attempt.stoppedReqs.map (fun req => req.reqId)) ↔
      reqId ∈ before.runningReqs.map fun req => req.reqId := by
  rw [← found_ids last before] at hids ⊢
  generalize hfound : last.found before = found at hids ⊢
  have hsplit : ∀ kept : List InferRequest,
      (kept.map fun req => req.reqId) =
        (found.runningReqs.filter fun req => !req.isStopped).map (fun req => req.reqId) →
      ((reqId ∈ kept.map (fun req => req.reqId) ∨
        reqId ∈ (found.runningReqs.filter fun req => req.isStopped).map (fun req => req.reqId)) ↔
        reqId ∈ found.runningReqs.map fun req => req.reqId) := by
    intro kept hkept
    have hperm := (List.filter_append_perm (fun req : InferRequest => req.isStopped)
      found.runningReqs).map fun req => req.reqId
    rw [hkept, ← hperm.mem_iff, List.map_append, List.mem_append]
    exact or_comm
  rw [LaunchCall.run, hfound] at h
  simp only [tryToLaunchPlannedScheduleOutput] at h
  split at h
  case isFalse =>
    obtain rfl := Except.ok.inj h
    cases hlaunched
  case isTrue hlaunchable =>
    rw [if_neg (kept_of_launchable hlaunchable)] at h
    split at h
    case isTrue =>
      obtain rfl := Except.ok.inj h
      cases hlaunched
    case isFalse =>
      obtain ⟨hmerged, h⟩ := check_bind_ok h
      obtain ⟨⟨launchedAny, launched⟩, hlaunch, h⟩ := bind_ok h
      rw [ScheduleOutput.launchScheduleOutput, if_pos hmerged, last.mergeKeeps] at hlaunch
      obtain ⟨⟨any, reqs, snapshots⟩, hloop, hdone⟩ := bind_ok hlaunch
      obtain ⟨rfl, rfl⟩ := Prod.mk.inj (Except.ok.inj hdone)
      have hactive := hids.sublist
        (List.Sublist.map (fun req : InferRequest => req.reqId)
          (List.filter_sublist (p := fun req : InferRequest => !req.isStopped)))
      obtain ⟨hspec, -⟩ := launchRunningReqs_spec hactive hloop
      cases any with
      | false =>
        obtain rfl := Except.ok.inj h
        cases hlaunched
      | true =>
        obtain rfl := Except.ok.inj h
        exact hsplit reqs (launchesTo_ids hspec)

/-- Whatever the requests do between the calls, every refusal leaves the output alone, and every
request is launched or reported in the end, if and only if no refusal of a launchable output for
the depth of the pipeline finds a stopped request in it. -/
theorem launch_retries_lose_none_iff
    (hids : (start.runningReqs.map fun req => req.reqId).Nodup)
    (hrefused : exec (refusedCall fastPath) start calls = .ok before)
    (hlast : last.run fastPath before = .ok attempt) (hlaunched : attempt.launched = true) :
    (EachStep (refusedCall fastPath) (RefusedUnchanged fastPath) start calls ↔
        EachStep (refusedCall fastPath)
          (fun planned call => ¬ StoppedWhenFull fastPath planned call) start calls) ∧
      (NoneLost start attempt ↔ EachStep (refusedCall fastPath)
        (fun planned call => ¬ StoppedWhenFull fastPath planned call) start calls) := by
  obtain ⟨hsub, hkept⟩ := refusedCalls_ids hrefused
  have hleft : NoneLost start attempt ↔ ∀ reqId ∈ start.runningReqs.map (fun req => req.reqId),
      reqId ∈ before.runningReqs.map fun req => req.reqId := by
    rw [NoneLost, List.forall_mem_map]
    refine forall₂_congr fun req _ => ?_
    exact launchedCall_ids (hids.sublist hsub) hlast hlaunched req.reqId
  refine ⟨⟨EachStep.mono fun planned call => (refusedUnchanged_iff planned call).mp,
    EachStep.mono fun planned call => (refusedUnchanged_iff planned call).mpr⟩, ?_⟩
  rw [hleft, ← hkept]
  constructor
  · intro hall
    have hle := (List.subperm_of_subset hids hall).length_le
    have hge := hsub.length_le
    simp only [List.length_map] at hle hge
    omega
  · intro hlength reqId hmem
    rw [hsub.eq_of_length (by rw [List.length_map, List.length_map, hlength])]
    exact hmem

end Calls

/-- A call at this depth, before which the requests with the given ids stop. -/
def callAfterStop (executorPipelineDepth : Nat) (stopped : List Int) : LaunchCall where
  executorPipelineDepth := executorPipelineDepth
  meanwhile req := { req with isStopped := req.isStopped || stopped.contains req.reqId }
  mergeScheduleInfoForWorkers := id
  sameRequest _ := rfl
  mergeKeeps _ := rfl

/-- Refused once for the depth, then launched: request 8 stops in between and is reported. -/
theorem launch_retries_lose_none_sample :
    letI := concatDraftTokens
    ∃ attempt, (callAfterStop 1 [8]).run true staleOutputSample = .ok attempt ∧
      attempt.launched = true ∧ NoneLost staleOutputSample attempt := by
  let _ := concatDraftTokens
  have hvalues : ((callAfterStop 1 [8]).run true staleOutputSample).map
      (fun attempt => attempt.launched) = .ok true := rfl
  cases hattempt : (callAfterStop 1 [8]).run true staleOutputSample with
  | error message =>
    rw [hattempt] at hvalues
    cases hvalues
  | ok attempt =>
    rw [hattempt] at hvalues
    have hlaunched : attempt.launched = true := Except.ok.inj hvalues
    have hrefused : exec (refusedCall true) staleOutputSample [callAfterStop 2 []] =
        .ok staleOutputSample := rfl
    exact ⟨attempt, rfl, hlaunched, (launch_retries_lose_none_iff (by decide) hrefused hattempt
      hlaunched).2.mpr (eachStep_of_check (by decide))⟩

/-- Request 8 stops while the pipeline is full. The refused call takes it out, and the next one,
which succeeds, reports nothing. -/
theorem launch_retries_lose_stopped :
    letI := concatDraftTokens
    ∃ before attempt,
      exec (refusedCall true) staleOutputSample [callAfterStop 2 [8]] = .ok before ∧
      before.runningReqs.map (fun req => req.reqId) = [7] ∧
      (callAfterStop 1 []).run true before = .ok attempt ∧ attempt.launched = true ∧
      attempt.planned.runningReqs.map (fun req => req.reqId) = [7] ∧ attempt.stoppedReqs = [] ∧
      ¬ NoneLost staleOutputSample attempt := by
  let _ := concatDraftTokens
  have hvalues : ((callAfterStop 1 []).run true { staleOutputSample with
      runningReqs := [plannedSample] }).map (fun attempt => (attempt.launched,
        attempt.planned.runningReqs.map (fun req => req.reqId), attempt.stoppedReqs)) =
      .ok (true, [7], []) := rfl
  cases hattempt : (callAfterStop 1 []).run true { staleOutputSample with
      runningReqs := [plannedSample] } with
  | error message =>
    rw [hattempt] at hvalues
    cases hvalues
  | ok attempt =>
    rw [hattempt] at hvalues
    obtain ⟨hlaunched, hrest⟩ := Prod.mk.inj (Except.ok.inj hvalues)
    obtain ⟨hrunning, hstopped⟩ := Prod.mk.inj hrest
    refine ⟨_, attempt, rfl, rfl, hattempt, hlaunched, hrunning, hstopped, fun hnone => ?_⟩
    have hlost := hnone consumedSample List.mem_cons_self
    rw [hrunning, hstopped] at hlost
    exact absurd hlost (by decide)

end KsanaBuildAhead.Engine
