import KsanaBuildAhead.Engine.LaunchDispatch
import KsanaBuildAhead.Engine.PatchIsolation
import KsanaBuildAhead.Engine.RetireCommits

/-!
# The stop token

The output of a request as a transcript of what its steps returned: everything up
to a stop token, nothing after it until the request starts over. Both launch
depths follow the transcript, so they agree on every history they share.
-/
namespace KsanaBuildAhead.Engine

open KsanaBuildAhead.Runtime KsanaBuildAhead.Lib.Execution

/-- The output a history stands for, and whether it has come to a stop token. -/
structure Transcript where
  tokens : List Int
  stopped : Bool := false
deriving Repr, DecidableEq

def Transcript.commit (stops : List Int) (transcript : Transcript) : PipelineEvent → Transcript
  | .restarted => { transcript with stopped := false }
  | .sampled result =>
    if transcript.stopped then transcript
    else
      let tokens := transcript.tokens ++ result.acceptedTokens ++ result.generatedTokens
      { tokens := tokens, stopped := tokens.getLast?.any fun token => stops.contains token }

def transcriptOf (stops : List Int) (transcript : Transcript) (history : List PipelineEvent) :
    Transcript :=
  history.foldl (Transcript.commit stops) transcript

/-- The events that count: a result behind a stop token does not. -/
def countedEvents (stops : List Int) : Transcript → List PipelineEvent → List PipelineEvent
  | _, [] => []
  | transcript, .restarted :: history =>
    .restarted :: countedEvents stops (transcript.commit stops .restarted) history
  | transcript, .sampled result :: history =>
    if transcript.stopped then countedEvents stops transcript history
    else .sampled result ::
      countedEvents stops (transcript.commit stops (.sampled result)) history

theorem transcriptOf_concat (stops : List Int) (transcript : Transcript)
    (history : List PipelineEvent) (event : PipelineEvent) :
    transcriptOf stops transcript (history ++ [event]) =
      (transcriptOf stops transcript history).commit stops event := by
  rw [transcriptOf, List.foldl_append]
  rfl

theorem transcriptOf_countedEvents (stops : List Int) (transcript : Transcript)
    (history : List PipelineEvent) :
    transcriptOf stops transcript (countedEvents stops transcript history) =
      transcriptOf stops transcript history := by
  induction history generalizing transcript with
  | nil => rfl
  | cons event history ih =>
    cases event with
    | restarted => exact ih _
    | sampled result =>
      by_cases hstopped : transcript.stopped = true
      · have hdropped : transcript.commit stops (.sampled result) = transcript := by
          rw [Transcript.commit, if_pos hstopped]
        rw [countedEvents, if_pos hstopped, ih]
        show transcriptOf stops transcript history =
          transcriptOf stops (transcript.commit stops (.sampled result)) history
        rw [hdropped]
      · rw [countedEvents, if_neg hstopped]
        exact ih _

/-- A sampled step returns at most one token, from the vocabulary, accepts no more drafts than it
carried, and generates nothing only when an accepted draft is a stop token. -/
def StepReturns (stops : List Int) (step : ScheduleTask) (result : StepResult) : Prop :=
  result.generatedTokens.length ≤ 1 ∧ (∀ token ∈ result.generatedTokens, 0 ≤ token) ∧
    result.acceptedTokens.length ≤ step.workload.draftTokenNum ∧
    (result.generatedTokens = [] →
      (result.acceptedTokens.getLast?.any fun token => stops.contains token) = true)

instance (stops : List Int) (step : ScheduleTask) (result : StepResult) :
    Decidable (StepReturns stops step result) :=
  inferInstanceAs (Decidable (_ ∧ _ ∧ _ ∧ _))

section Retirement

variable [DraftTokensApi] {req after : InferRequest}

/-- Before a stop token a retirement that settles adds what its step returned, and looks for the
stop token at the end of it. -/
theorem update_output (hrunning : req.isEosGenerated = false)
    (hsplit : req.isSplitPrefillStep = false)
    (hfit : req.acceptedTokens.length ≤ oldestDraftNum req) (hsettles : SettlesOldest req)
    (h : req.updateAfterInflightTaskFinished = .ok after) :
    after.outputTokens = req.outputTokens ++ req.acceptedTokens ++ req.generatedTokens ∧
      after.isEosGenerated = req.endsWithStopToken
        (req.outputTokens ++ req.acceptedTokens ++ req.generatedTokens) := by
  obtain ⟨-, hcase⟩ := InferRequest.updateAfterInflightTaskFinished_cases h
  cases hcase with
  | afterEos heos => simp [heos] at hrunning
  | middleChunk heos hmiddle => simp [hmiddle] at hsplit
  | plain oldest queue hinflight =>
    rw [oldestDraftNum_cons hinflight] at hfit
    obtain ⟨houtput, -, -, -, heos⟩ := retiredPlain_fields req oldest.workload hfit
    refine ⟨houtput, heos.trans ?_⟩
    rw [hrunning, Bool.false_or]
  | backfill heos hwhole hpending hfills =>
    have hnoDrafts : oldestDraftNum req = 0 := by
      rcases hsettles with hnoDrafts | ⟨-, howns⟩ | ⟨hnone, -⟩ | ⟨hnone, -⟩
      · exact hnoDrafts
      · exact absurd hfills howns
      · exact absurd hnone hpending
      · exact absurd hnone hpending
    have hnone : req.acceptedTokens = [] := List.eq_nil_of_length_eq_zero (by omega)
    rw [hnone, List.append_nil]
    refine ⟨rfl, ?_⟩
    show (req.isEosGenerated || _) = _
    rw [hrunning, Bool.false_or]
  | own =>
    refine ⟨rfl, ?_⟩
    show (req.isEosGenerated || _) = _
    rw [hrunning, Bool.false_or]

theorem update_stops (hrunning : req.isEosGenerated = false)
    (h : req.updateAfterInflightTaskFinished = .ok after) (heos : after.isEosGenerated = true) :
    req.endsWithStopToken after.outputTokens = true := by
  obtain ⟨-, hcase⟩ := InferRequest.updateAfterInflightTaskFinished_cases h
  cases hcase with
  | afterEos hstopped => simp [hstopped] at hrunning
  | middleChunk =>
    obtain ⟨-, -, -, -, hkept⟩ := InferRequest.refreshWorkloads_tokens { req with
      generatedTokens := []
      draftTokens := DraftTokensApi.clear req.draftTokens }
    exact absurd (hkept.symm.trans heos) (by simp [hrunning])
  | plain oldest queue hinflight =>
    obtain ⟨houtput, -, -, -, hflag⟩ :=
      InferRequest.refreshWorkloads_tokens (req.retireWithoutPlaceholder oldest.workload)
    have hflags : (req.retireWithoutPlaceholder oldest.workload).isEosGenerated =
        (req.isEosGenerated || req.endsWithStopToken
          (req.retireWithoutPlaceholder oldest.workload).outputTokens) := by
      rw [InferRequest.retireWithoutPlaceholder]
    rw [houtput]
    rw [hflag, hflags, hrunning, Bool.false_or] at heos
    exact heos
  | backfill =>
    change (req.isEosGenerated || req.endsWithStopToken _) = true at heos
    rw [hrunning, Bool.false_or] at heos
    exact heos
  | own =>
    change (req.isEosGenerated || req.endsWithStopToken _) = true at heos
    rw [hrunning, Bool.false_or] at heos
    exact heos

theorem applyOp_frozen {fastPath : Bool} {maxDepth : Nat} {op : RequestOp}
    (hstopped : req.isEosGenerated = true) (h : applyOp fastPath maxDepth req op = .ok after) :
    after.isEosGenerated = true ∧ after.outputTokens = req.outputTokens := by
  cases op with
  | deliver result =>
    obtain rfl := Except.ok.inj h
    exact ⟨hstopped, rfl⟩
  | updateAfterInflightTaskFinished =>
    obtain rfl := updateAfterInflightTaskFinished_keeps_eos hstopped h
    exact ⟨hstopped, rfl⟩
  | resetInflightTask =>
    obtain rfl := Except.ok.inj h
    exact ⟨hstopped, rfl⟩
  | setPlanningTask workload =>
    obtain ⟨-, -, rfl⟩ := plan_ok h
    exact ⟨hstopped, rfl⟩
  | launchPlanningTask =>
    have hkeeps := (InferRequest.launchPlanningTask_keeps (launch_ok h).2.2).1
    exact ⟨hkeeps.eos.trans hstopped, hkeeps.output⟩
  | setTransferMode patchTransfer =>
    obtain rfl := Except.ok.inj h
    exact ⟨hstopped, rfl⟩

theorem run_frozen {fastPath : Bool} {maxDepth : Nat} {ops : List RequestOp}
    (hstopped : req.isEosGenerated = true) (h : exec (applyOp fastPath maxDepth) req ops = .ok after) :
    after.isEosGenerated = true ∧ after.outputTokens = req.outputTokens := by
  refine exec_invariant (I := fun later => later.isEosGenerated = true ∧
    later.outputTokens = req.outputTokens) ?_ ⟨hstopped, rfl⟩ h
  intro earlier op later ⟨hstill, hsame⟩ hop
  obtain ⟨hafter, houtput⟩ := applyOp_frozen hstill hop
  exact ⟨hafter, houtput.trans hsame⟩

end Retirement

section Run

variable [DraftTokensApi] {fastPath : Bool} {maxDepth : Nat}
  {Fits : ScheduleTask → StepResult → Prop} {stops prompt : List Int} {s t : PipelineState}
  {op : PipelineOp} {ops : List PipelineOp}

theorem pipelineStep_payload (h : pipelineStep fastPath maxDepth s op = .ok t) :
    t.req.toRequestPayload = s.req.toRequestPayload := by
  cases op with
  | restart cached =>
    obtain ⟨-, h⟩ := check_bind_ok h
    obtain rfl := Except.ok.inj h
    rfl
  | generateDrafts drafts =>
    obtain rfl := Except.ok.inj h
    rfl
  | plan workload =>
    obtain ⟨planned, hplan, h⟩ := bind_ok h
    obtain rfl := Except.ok.inj h
    obtain ⟨-, -, rfl⟩ := plan_ok hplan
    rfl
  | launch =>
    obtain ⟨launched, hlaunch, h⟩ := bind_ok h
    obtain rfl := Except.ok.inj h
    exact (InferRequest.launchPlanningTask_keeps (launch_ok hlaunch).2.2).1.payload
  | deliver result =>
    obtain ⟨-, h⟩ := check_bind_ok h
    obtain rfl := Except.ok.inj h
    rfl
  | finish =>
    rw [pipelineStep] at h
    split at h
    · cases h
    · obtain ⟨updated, hupdate, h⟩ := bind_ok h
      obtain rfl := Except.ok.inj h
      exact (updateAfterInflightTaskFinished_stage hupdate).1

/-- The request has put out what its history stands for. -/
structure FollowsTranscript (stops prompt : List Int) (s : PipelineState) : Prop where
  stopIds : s.req.samplingConfig.stopTokenIds = stops
  output : s.req.outputTokens = (transcriptOf stops { tokens := prompt } s.history).tokens
  stopped : s.req.isEosGenerated = (transcriptOf stops { tokens := prompt } s.history).stopped

theorem FollowsTranscript.finish {result : StepResult} (hFits : FitsStep Fits)
    (hs : FollowsTranscript stops prompt s) (harrived : ResultArrived Fits s)
    (hdelivered : s.delivered = some result) (hsettles : SettlesOnFinish s .finish)
    (h : finishOldest s result = .ok t) :
    FollowsTranscript stops prompt t := by
  obtain ⟨updated, hupdate, h⟩ := bind_ok h
  obtain rfl := Except.ok.inj h
  have hpayload := (updateAfterInflightTaskFinished_stage hupdate).1
  have hstopIds : updated.samplingConfig.stopTokenIds = stops := by
    rw [show updated.samplingConfig = s.req.samplingConfig from
      congrArg RequestPayload.samplingConfig hpayload]
    exact hs.stopIds
  cases heos : s.req.isEosGenerated with
  | true =>
    obtain rfl := updateAfterInflightTaskFinished_keeps_eos heos hupdate
    have hstopped := hs.stopped.symm.trans heos
    have hsame : transcriptOf stops { tokens := prompt }
        (if s.req.isSplitPrefillStep then s.history else s.history ++ [.sampled result]) =
          transcriptOf stops { tokens := prompt } s.history := by
      split
      · rfl
      · rw [transcriptOf_concat, Transcript.commit, if_pos hstopped]
    exact ⟨hstopIds, by rw [hsame]; exact hs.output, by rw [hsame]; exact hs.stopped⟩
  | false =>
    cases hsplit : s.req.isSplitPrefillStep with
    | true =>
      obtain ⟨oldest, queue, hinflight⟩ := List.exists_cons_of_ne_nil (harrived result hdelivered).1
      rw [InferRequest.updateAfterInflightTaskFinished_split s.req hinflight heos hsplit] at hupdate
      obtain rfl := Except.ok.inj hupdate
      obtain ⟨houtput, -, -, -, hflag⟩ := InferRequest.refreshWorkloads_tokens { s.req with
        generatedTokens := []
        draftTokens := DraftTokensApi.clear s.req.draftTokens }
      refine ⟨hstopIds, ?_, ?_⟩
      · simp only [if_true]
        rw [← hs.output]
        exact houtput
      · simp only [if_true]
        rw [← hs.stopped]
        exact hflag
    | false =>
      obtain ⟨hsome, hgenerated, haccepted, hfits⟩ := harrived result hdelivered
      obtain ⟨oldest, queue, hinflight⟩ := List.exists_cons_of_ne_nil hsome
      have hfitOldest : s.req.acceptedTokens.length ≤ oldestDraftNum s.req := by
        rw [haccepted, oldestDraftNum_cons hinflight]
        exact (hFits oldest result (hfits hsplit oldest (by rw [hinflight]; rfl))).2
      obtain ⟨houtput, hstops⟩ := update_output heos hsplit hfitOldest
        (hsettles rfl heos hsplit) hupdate
      have hopen := hs.stopped.symm.trans heos
      rw [hgenerated, haccepted, hs.output] at houtput hstops
      refine ⟨hstopIds, ?_, ?_⟩
      · simp only [Bool.false_eq_true, if_false]
        rw [transcriptOf_concat, Transcript.commit, if_neg (by rw [hopen]; decide)]
        exact houtput
      · simp only [Bool.false_eq_true, if_false]
        rw [transcriptOf_concat, Transcript.commit, if_neg (by rw [hopen]; decide)]
        refine hstops.trans ?_
        rw [InferRequest.endsWithStopToken, hs.stopIds]

/-- Every operation follows the transcript when the retirements settle. -/
theorem FollowsTranscript.step (hFits : FitsStep Fits) (hs : FollowsTranscript stops prompt s)
    (harrived : ResultArrived Fits s) (hsettles : SettlesOnFinish s op)
    (h : pipelineStep fastPath maxDepth s op = .ok t) : FollowsTranscript stops prompt t := by
  cases op with
  | restart cached =>
    obtain ⟨-, h⟩ := check_bind_ok h
    obtain rfl := Except.ok.inj h
    refine ⟨hs.stopIds, ?_, ?_⟩
    · rw [transcriptOf_concat]
      exact hs.output
    · rw [transcriptOf_concat]
      rfl
  | generateDrafts drafts =>
    obtain rfl := Except.ok.inj h
    exact ⟨hs.stopIds, hs.output, hs.stopped⟩
  | plan workload =>
    obtain ⟨planned, hplan, h⟩ := bind_ok h
    obtain rfl := Except.ok.inj h
    obtain ⟨-, -, rfl⟩ := plan_ok hplan
    exact ⟨hs.stopIds, hs.output, hs.stopped⟩
  | launch =>
    obtain ⟨launched, hlaunch, h⟩ := bind_ok h
    obtain rfl := Except.ok.inj h
    have hkeeps := (InferRequest.launchPlanningTask_keeps (launch_ok hlaunch).2.2).1
    refine ⟨?_, hkeeps.output.trans hs.output, hkeeps.eos.trans hs.stopped⟩
    rw [show launched.samplingConfig = s.req.samplingConfig from
      congrArg RequestPayload.samplingConfig hkeeps.payload]
    exact hs.stopIds
  | deliver result =>
    obtain ⟨-, h⟩ := check_bind_ok h
    obtain rfl := Except.ok.inj h
    exact ⟨hs.stopIds, hs.output, hs.stopped⟩
  | finish =>
    rw [pipelineStep] at h
    split at h
    · cases h
    · rename_i result hdelivered
      exact hs.finish hFits harrived hdelivered hsettles h

/-- A settled retirement that leaves the request running generated a token. -/
theorem findsToken_of_settles (hs : FollowsTranscript stops prompt s)
    (harrived : ResultArrived (StepReturns stops) s) (hsettles : SettlesOnFinish s op)
    (h : pipelineStep fastPath maxDepth s op = .ok t) : FindsToken s t op := by
  rintro rfl hsplit hrunning
  rw [pipelineStep] at h
  split at h
  · cases h
  · rename_i result hdelivered
    obtain ⟨updated, hupdate, h⟩ := bind_ok h
    obtain rfl := Except.ok.inj h
    have hrunning : updated.isEosGenerated = false := hrunning
    have heos : s.req.isEosGenerated = false := by
      rw [Bool.eq_false_iff]
      intro heos
      rw [updateAfterInflightTaskFinished_keeps_eos heos hupdate] at hrunning
      rw [InferRequest.discardStepAfterEos, heos] at hrunning
      cases hrunning
    obtain ⟨hsome, hgenerated, haccepted, hfits⟩ := harrived result hdelivered
    obtain ⟨oldest, queue, hinflight⟩ := List.exists_cons_of_ne_nil hsome
    obtain ⟨hone, hvocab, hfit, hlast⟩ := hfits hsplit oldest (by rw [hinflight]; rfl)
    have hfitOldest : s.req.acceptedTokens.length ≤ oldestDraftNum s.req := by
      rw [haccepted, oldestDraftNum_cons hinflight]
      exact hfit
    obtain ⟨-, hstops⟩ := update_output heos hsplit hfitOldest (hsettles rfl heos hsplit) hupdate
    cases htokens : result.generatedTokens with
    | nil =>
      -- Nothing was generated, so an accepted draft is the stop token.
      have hstop := hlast htokens
      have hsome : result.acceptedTokens ≠ [] := fun hnone => by
        rw [hnone] at hstop
        cases hstop
      rw [hgenerated, haccepted, htokens, List.append_nil, hrunning, InferRequest.endsWithStopToken,
        List.getLast?_append_of_ne_nil _ hsome, hs.stopIds, hstop] at hstops
      cases hstops
    | cons token rest =>
      rw [htokens, List.length_cons] at hone
      obtain rfl : rest = [] := List.eq_nil_of_length_eq_zero (by omega)
      exact ⟨token, hgenerated.trans htokens, hvocab token (by rw [htokens]; exact List.mem_cons_self)⟩

theorem FollowsTranscript.of_fresh (start : InferRequest) (cached : Nat) :
    FollowsTranscript start.samplingConfig.stopTokenIds start.outputTokens
      { req := admitted start cached } :=
  ⟨rfl, rfl, rfl⟩

omit [DraftTokensApi] in
theorem stepReturns_fitsStep (stops : List Int) : FitsStep (StepReturns stops) :=
  fun _ _ hfits => ⟨hfits.1, hfits.2.2.1⟩

/-- The step carried no drafts. -/
def CarriesNoDrafts (step : ScheduleTask) : Prop := step.workload.draftTokenNum = 0

instance (step : ScheduleTask) : Decidable (CarriesNoDrafts step) :=
  inferInstanceAs (Decidable (_ = 0))

instance (req : InferRequest) (task : ScheduleTask) : Decidable (IsMiddleChunk req task) :=
  inferInstanceAs (Decidable (_ ∧ _))

instance (Real : ScheduleTask → Prop) [DecidablePred Real] (req after : InferRequest) :
    Decidable (LaunchesReal Real req after) := by
  unfold LaunchesReal
  infer_instance

/-- A sampled step launched with real tokens carries no drafts. -/
def DraftsOnlyInBlocks (fastPath : Bool) (maxDepth : Nat) (s : PipelineState) (op : PipelineOp) :
    Prop :=
  op = .launch → match pipelineStep fastPath maxDepth s .launch with
    | .ok t => LaunchesReal CarriesNoDrafts s.req t.req
    | .error _ => True

instance (fastPath : Bool) (maxDepth : Nat) (s : PipelineState) (op : PipelineOp) :
    Decidable (DraftsOnlyInBlocks fastPath maxDepth s op) := by
  unfold DraftsOnlyInBlocks
  cases pipelineStep fastPath maxDepth s .launch <;> infer_instance

omit [DraftTokensApi] in
theorem StepShape.settles (hshape : StepShape CarriesNoDrafts s.req s.draftStarts)
    (hsplit : s.req.isSplitPrefillStep = false) (hsome : s.req.inflightTasks ≠ []) :
    SettlesOldest s.req := by
  cases hshape with
  | idle hinflight => exact absurd hinflight hsome
  | alone step start hinflight hstarts hpositions =>
    exact Or.inr (Or.inr (Or.inl ⟨hpositions, by rw [hinflight]; rfl⟩))
  | pair older newer start next hinflight hstarts hpositions hdraftNums hend holder =>
    refine Or.inl ?_
    rw [oldestDraftNum_cons hinflight]
    refine holder fun hmiddle => ?_
    rw [(isSplitPrefillStep_iff hinflight).mpr hmiddle] at hsplit
    cases hsplit
  | ownBlock step pos hinflight hstarts hpositions =>
    refine Or.inr (Or.inl ⟨by rw [hpositions]; exact List.cons_ne_nil _ _, fun hfills => ?_⟩)
    have hdepth := hfills.1
    rw [InferRequest.getInflightCount, hinflight] at hdepth
    exact absurd hdepth (Nat.lt_irrefl 1)
  | blockThenReal older newer pos hinflight hstarts hpositions hdraftNums hend hmain =>
    refine Or.inr (Or.inl ⟨by rw [hpositions]; exact List.cons_ne_nil _ _, fun hfills => ?_⟩)
    have hfront := hfills.2
    rw [hpositions] at hfront
    exact hmain hfront
  | realThenBlock older newer start hinflight hstarts hpositions hdraftNums hend hmain hreal =>
    refine Or.inl ?_
    rw [oldestDraftNum_cons hinflight]
    exact hreal
  | twoBlocks older newer pos hinflight hstarts hpositions hdraftNums hend hmain =>
    refine Or.inr (Or.inl ⟨by rw [hpositions]; exact List.cons_ne_nil _ _, fun hfills => ?_⟩)
    have hfront := hfills.2
    rw [hpositions] at hfront
    exact hmain hfront

/-- The steps in flight have a shape, and the output follows the transcript. -/
structure StopsInOrder (stops prompt : List Int) (s : PipelineState) : Prop
    extends Tracked (StepReturns stops) CarriesNoDrafts s, FollowsTranscript stops prompt s

theorem StopsInOrder.step (hs : StopsInOrder stops prompt s)
    (hop : OpPermitted (StepReturns stops) s op)
    (hdrafts : DraftsOnlyInBlocks true kMaxInflightDepth s op)
    (h : pipelineStep true kMaxInflightDepth s op = .ok t) : StopsInOrder stops prompt t := by
  have hsettles : SettlesOnFinish s op := by
    rintro rfl hrunning hsplit
    refine (hs.shape hrunning).settles hsplit ?_
    cases hdelivered : s.delivered with
    | none => simp [pipelineStep, hdelivered] at h
    | some result => exact (hs.arrived result hdelivered).1
  have hreal : op = .launch → LaunchesReal CarriesNoDrafts s.req t.req := by
    rintro rfl
    have hlaunches := hdrafts rfl
    rwa [h] at hlaunches
  have hfollows := hs.toFollowsTranscript
  exact {
    toTracked := hs.toTracked.step (stepReturns_fitsStep stops) hop
      (findsToken_of_settles hfollows hs.arrived hsettles h) hsettles hreal h
    toFollowsTranscript := hfollows.step (stepReturns_fitsStep stops) hs.arrived hsettles h }

/-- At depth one there are no blocks and at most one step is in flight. -/
structure OneAtATime (req : InferRequest) : Prop where
  positions : req.pendingPlaceholderPositions = []
  draftNums : req.pendingPlaceholderDraftNums = []
  depth : req.inflightTasks.length ≤ 1

theorem OneAtATime.of_fresh (req : InferRequest) (cached : Nat) :
    OneAtATime (admitted req cached) :=
  ⟨rfl, rfl, Nat.zero_le 1⟩

theorem OneAtATime.step (hs : OneAtATime s.req) (h : pipelineStep false 1 s op = .ok t) :
    OneAtATime t.req := by
  cases op with
  | restart cached =>
    obtain ⟨-, h⟩ := check_bind_ok h
    obtain rfl := Except.ok.inj h
    exact ⟨rfl, rfl, Nat.zero_le 1⟩
  | generateDrafts drafts =>
    obtain rfl := Except.ok.inj h
    exact ⟨hs.positions, hs.draftNums, hs.depth⟩
  | plan workload =>
    obtain ⟨planned, hplan, h⟩ := bind_ok h
    obtain rfl := Except.ok.inj h
    obtain ⟨-, -, rfl⟩ := plan_ok hplan
    exact ⟨hs.positions, hs.draftNums, hs.depth⟩
  | launch =>
    obtain ⟨launched, hlaunch, h⟩ := bind_ok h
    obtain rfl := Except.ok.inj h
    obtain ⟨-, hidle, hpushed⟩ := launch_ok hlaunch
    obtain ⟨-, -, -, hcase⟩ := InferRequest.launchPlanningTask_cases hpushed
    cases hcase with
    | chunk =>
      refine ⟨hs.positions, hs.draftNums, ?_⟩
      simp only [InferRequest.launchedChunk, List.length_append, List.length_singleton]
      omega
    | block kv cacheLen hdecode hplaceholder => exact absurd hplaceholder.2.1 (by decide)
    | real =>
      refine ⟨hs.positions, hs.draftNums, ?_⟩
      simp only [InferRequest.launchedReal, List.length_append, List.length_singleton]
      omega
  | deliver result =>
    obtain ⟨-, h⟩ := check_bind_ok h
    obtain rfl := Except.ok.inj h
    exact ⟨hs.positions, hs.draftNums, hs.depth⟩
  | finish =>
    rw [pipelineStep] at h
    split at h
    · cases h
    · obtain ⟨updated, hupdate, h⟩ := bind_ok h
      obtain rfl := Except.ok.inj h
      have hsame := updateAfterInflightTaskFinished_sameOrder hupdate
      refine ⟨hsame.blocks hs.positions, (hsame.draftNums hs.positions).trans hs.draftNums, ?_⟩
      show updated.inflightTasks.tail.length ≤ 1
      rw [hsame.inflight, List.length_tail]
      exact Nat.le_trans (Nat.sub_le _ 1) hs.depth

theorem OneAtATime.settles (hs : OneAtATime s.req) (harrived : ResultArrived Fits s)
    (h : pipelineStep fastPath maxDepth s op = .ok t) : SettlesOnFinish s op := by
  rintro rfl - -
  cases hdelivered : s.delivered with
  | none => simp [pipelineStep, hdelivered] at h
  | some result =>
    have hsome := List.length_pos_of_ne_nil (harrived result hdelivered).1
    have hdepth := hs.depth
    exact Or.inr (Or.inr (Or.inl ⟨hs.positions, by omega⟩))

/-- The depth-one run follows the transcript, whatever drafts its steps carry. -/
structure StopsAlone (Fits : ScheduleTask → StepResult → Prop) (stops prompt : List Int)
    (s : PipelineState) : Prop extends OneAtATime s.req, FollowsTranscript stops prompt s where
  arrived : ResultArrived Fits s

theorem StopsAlone.step (hFits : FitsStep Fits) (hs : StopsAlone Fits stops prompt s)
    (hop : OpPermitted Fits s op) (h : pipelineStep false 1 s op = .ok t) :
    StopsAlone Fits stops prompt t where
  toOneAtATime := hs.toOneAtATime.step h
  toFollowsTranscript :=
    hs.toFollowsTranscript.step hFits hs.arrived (hs.toOneAtATime.settles hs.arrived h) h
  arrived := pipelineStep_arrived hs.arrived hop h

theorem StopsAlone.of_fresh (Fits : ScheduleTask → StepResult → Prop) (start : InferRequest)
    (cached : Nat) : StopsAlone Fits start.samplingConfig.stopTokenIds start.outputTokens
      { req := admitted start cached } where
  toOneAtATime := .of_fresh start cached
  toFollowsTranscript := .of_fresh start cached
  arrived := fun _ hnone => by cases hnone

theorem pipelineStep_stops
    (hs : s.req.isEosGenerated = true → s.req.endsWithStopToken s.req.outputTokens = true)
    (h : pipelineStep fastPath maxDepth s op = .ok t) (hstopped : t.req.isEosGenerated = true) :
    t.req.endsWithStopToken t.req.outputTokens = true := by
  have hids : ∀ output, t.req.endsWithStopToken output = s.req.endsWithStopToken output := by
    intro output
    rw [InferRequest.endsWithStopToken, InferRequest.endsWithStopToken,
      show t.req.samplingConfig = s.req.samplingConfig from
        congrArg RequestPayload.samplingConfig (pipelineStep_payload h)]
  rw [hids]
  cases op with
  | restart cached =>
    obtain ⟨-, h⟩ := check_bind_ok h
    obtain rfl := Except.ok.inj h
    cases hstopped
  | generateDrafts drafts =>
    obtain rfl := Except.ok.inj h
    exact hs hstopped
  | plan workload =>
    obtain ⟨planned, hplan, h⟩ := bind_ok h
    obtain rfl := Except.ok.inj h
    obtain ⟨-, -, rfl⟩ := plan_ok hplan
    exact hs hstopped
  | launch =>
    obtain ⟨launched, hlaunch, h⟩ := bind_ok h
    obtain rfl := Except.ok.inj h
    have hkeeps := (InferRequest.launchPlanningTask_keeps (launch_ok hlaunch).2.2).1
    rw [show launched.outputTokens = s.req.outputTokens from hkeeps.output]
    exact hs (hkeeps.eos.symm.trans hstopped)
  | deliver result =>
    obtain ⟨-, h⟩ := check_bind_ok h
    obtain rfl := Except.ok.inj h
    exact hs hstopped
  | finish =>
    rw [pipelineStep] at h
    split at h
    · cases h
    · obtain ⟨updated, hupdate, h⟩ := bind_ok h
      obtain rfl := Except.ok.inj h
      cases heos : s.req.isEosGenerated with
      | true =>
        obtain rfl := updateAfterInflightTaskFinished_keeps_eos heos hupdate
        exact hs heos
      | false =>
        have hends := update_stops heos hupdate hstopped
        exact hends

/-- Whatever was launched ahead, a stop token ends the output and freezes it; and when only
blocks carry drafts the output is what the steps returned up to it, the same that a run one
step at a time produces from the same results. -/
theorem stop_token_freezes_output (start : InferRequest) (cached : Nat) (ops : List PipelineOp)
    (hcached : cached ≤ start.outputTokens.length)
    (hrun : exec (pipelineStep fastPath (maxInflightDepth fastPath))
      { req := admitted start cached } ops = .ok s)
    (hpermitted : EachStep (pipelineStep fastPath (maxInflightDepth fastPath))
      (OpPermitted (StepReturns start.samplingConfig.stopTokenIds))
      { req := admitted start cached } ops) :
    (∀ after, s.req.updateAfterInflightTaskFinished = .ok after → after.isEosGenerated = true →
      after.endsWithStopToken after.outputTokens = true ∧
        ∀ later requestOps,
          exec (applyOp fastPath (maxInflightDepth fastPath)) after requestOps = .ok later →
            later.outputTokens = after.outputTokens) ∧
    (EachStep (pipelineStep fastPath (maxInflightDepth fastPath))
        (DraftsOnlyInBlocks fastPath (maxInflightDepth fastPath))
        { req := admitted start cached } ops →
      s.req.outputTokens = (transcriptOf start.samplingConfig.stopTokenIds
        { tokens := start.outputTokens } s.history).tokens ∧
      ∀ slow slowCached slowOps,
        exec (pipelineStep false 1) { req := admitted start slowCached } slowOps = .ok slow →
        EachStep (pipelineStep false 1)
          (OpPermitted (StepReturns start.samplingConfig.stopTokenIds))
          { req := admitted start slowCached } slowOps →
        countedEvents start.samplingConfig.stopTokenIds { tokens := start.outputTokens }
            slow.history =
          countedEvents start.samplingConfig.stopTokenIds { tokens := start.outputTokens }
            s.history →
        slow.req.outputTokens = s.req.outputTokens) := by
  have hstops : s.req.isEosGenerated = true →
      s.req.endsWithStopToken s.req.outputTokens = true :=
    exec_invariant (I := fun s : PipelineState => s.req.isEosGenerated = true →
        s.req.endsWithStopToken s.req.outputTokens = true)
      (fun _ _ _ hs h => pipelineStep_stops hs h)
      (fun (hstopped : false = true) => nomatch hstopped) hrun
  have hfits := stepReturns_fitsStep start.samplingConfig.stopTokenIds
  refine ⟨fun after hupdate hstopped => ⟨?_, ?_⟩, fun hdrafts => ?_⟩
  · cases heos : s.req.isEosGenerated with
    | true =>
      obtain rfl := updateAfterInflightTaskFinished_keeps_eos heos hupdate
      exact hstops heos
    | false =>
      have hids : after.samplingConfig = s.req.samplingConfig :=
        congrArg RequestPayload.samplingConfig (updateAfterInflightTaskFinished_stage hupdate).1
      rw [InferRequest.endsWithStopToken, hids]
      exact update_stops heos hupdate hstopped
  · exact fun later requestOps hlater => (run_frozen hstopped hlater).2
  · have hfollows : FollowsTranscript start.samplingConfig.stopTokenIds start.outputTokens s := by
      cases fastPath with
      | true =>
        have hinv : StopsInOrder start.samplingConfig.stopTokenIds start.outputTokens s :=
          exec_invariant_of (fun _ _ _ hs hop h => hs.step hop.1 hop.2 h)
            ⟨.of_fresh _ _ start hcached, .of_fresh start cached⟩ (hpermitted.and hdrafts) hrun
        exact hinv.toFollowsTranscript
      | false =>
        have hinv : StopsAlone (StepReturns start.samplingConfig.stopTokenIds)
            start.samplingConfig.stopTokenIds start.outputTokens s :=
          exec_invariant_of (fun _ _ _ hs hop h => hs.step hfits hop h) (.of_fresh _ start cached)
            hpermitted hrun
        exact hinv.toFollowsTranscript
    refine ⟨hfollows.output, fun slow slowCached slowOps hslow hslowPermitted hsame => ?_⟩
    have hinv : StopsAlone (StepReturns start.samplingConfig.stopTokenIds)
        start.samplingConfig.stopTokenIds start.outputTokens slow :=
      exec_invariant_of (fun _ _ _ hs hop h => hs.step hfits hop h) (.of_fresh _ start slowCached)
        hslowPermitted hslow
    rw [hinv.output, hfollows.output, ← transcriptOf_countedEvents, hsame,
      transcriptOf_countedEvents]

end Run

/-- A stop token in the second decode step, with the third one launched ahead of it. -/
def stopSampleRun : List PipelineOp :=
  [.plan { prefillTokenNum := 2 }, .launch,
    .plan { generatedTokenNum := 1, draftTokenNum := 1 }, .launch,
    .deliver { generatedTokens := [20], draftTokens := { mtp := [40] } }, .finish,
    .plan { generatedTokenNum := 1, draftTokenNum := 1 }, .launch,
    .deliver { generatedTokens := [2], acceptedTokens := [40] }, .finish,
    .deliver { generatedTokens := [30] }]

/-- The same results one step at a time. -/
def stopSampleSlowRun : List PipelineOp :=
  [.plan { prefillTokenNum := 2 }, .launch,
    .deliver { generatedTokens := [20], draftTokens := { mtp := [40] } }, .finish,
    .plan { generatedTokenNum := 1, draftTokenNum := 1 }, .launch,
    .deliver { generatedTokens := [2], acceptedTokens := [40] }, .finish]

def stopSample : InferRequest where
  reqId := 7
  outputTokens := [11, 12]
  samplingConfig := { stopTokenIds := [2] }

/-- What both runs have retired. -/
def stopSampleHistory : List PipelineEvent :=
  [.sampled { generatedTokens := [20], draftTokens := { mtp := [40] } },
    .sampled { generatedTokens := [2], acceptedTokens := [40] }]

/-- Where the first one ends: stopped, with the result of the step ahead delivered. -/
def stopSampleStopped : InferRequest where
  reqId := 7
  samplingConfig := { stopTokenIds := [2] }
  samplingTokenNum := 2
  outputTokens := [11, 12, 20, 40, 2]
  forwardingTokensDraftNum := 1
  generatedTokens := [30]
  forwardingTokens := [11, 12, 20, 40, 2, -1]
  inferStage := .decode
  forwardStepKind := .decode
  kvCachedTokenNum := 4
  prefixCacheLen := 4
  prefillingTokens := [11, 12]
  inflightTasks := [⟨{ generatedTokenNum := 1, draftTokenNum := 1, samplingTokenNum := 2 }⟩]
  pendingPlaceholderPositions := [4]
  pendingPlaceholderDraftNums := [1]
  planningWorkload := { generatedTokenNum := 1 }
  remainingWorkload := { prefillStartOffset := 2, generatedTokenNum := 1 }
  isEosGenerated := true

def stopSampleEnd : PipelineState where
  req := stopSampleStopped
  delivered := some { generatedTokens := [30] }
  draftStarts := [5]
  history := stopSampleHistory

/-- Where the second one ends. -/
def stopSampleSlowEnd : PipelineState where
  req := {
    reqId := 7
    samplingConfig := { stopTokenIds := [2] }
    samplingTokenNum := 2
    outputTokens := [11, 12, 20, 40, 2]
    forwardingTokensDraftNum := 1
    generatedTokens := [2]
    forwardingTokens := [11, 12, 20, 40]
    inferStage := .decode
    forwardStepKind := .decode
    kvCachedTokenNum := 4
    prefixCacheLen := 2
    prefillingTokens := [11, 12]
    planningWorkload := { generatedTokenNum := 1 }
    remainingWorkload := { prefillStartOffset := 2, generatedTokenNum := 1 }
    isEosGenerated := true }
  history := stopSampleHistory

theorem stop_token_freezes_output_sample :
    letI := concatDraftTokens
    (∀ later requestOps,
      exec (applyOp true (maxInflightDepth true)) stopSampleStopped.discardStepAfterEos
          requestOps = .ok later →
        later.outputTokens = [11, 12, 20, 40, 2]) ∧
      stopSampleSlowEnd.req.outputTokens = stopSampleEnd.req.outputTokens := by
  let _ := concatDraftTokens
  have hpermitted : EachStep (pipelineStep true (maxInflightDepth true))
      (OpPermitted (StepReturns stopSample.samplingConfig.stopTokenIds))
      { req := admitted stopSample 0 } stopSampleRun := eachStep_of_check (by decide +kernel)
  have hdrafts : EachStep (pipelineStep true (maxInflightDepth true))
      (DraftsOnlyInBlocks true (maxInflightDepth true))
      { req := admitted stopSample 0 } stopSampleRun := eachStep_of_check (by decide +kernel)
  have hslowPermitted : EachStep (pipelineStep false 1)
      (OpPermitted (StepReturns stopSample.samplingConfig.stopTokenIds))
      { req := admitted stopSample 0 } stopSampleSlowRun := eachStep_of_check (by decide +kernel)
  have hrun : exec (pipelineStep true (maxInflightDepth true)) { req := admitted stopSample 0 }
      stopSampleRun = .ok stopSampleEnd := by decide +kernel
  have hslow : exec (pipelineStep false 1) { req := admitted stopSample 0 } stopSampleSlowRun =
      .ok stopSampleSlowEnd := by decide +kernel
  obtain ⟨hfrozen, hsame⟩ := stop_token_freezes_output stopSample 0 stopSampleRun (by decide) hrun
    hpermitted
  exact ⟨(hfrozen stopSampleStopped.discardStepAfterEos rfl rfl).2,
    (hsame hdrafts).2 stopSampleSlowEnd 0 stopSampleSlowRun hslow hslowPermitted rfl⟩

end KsanaBuildAhead.Engine
