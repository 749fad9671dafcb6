import KsanaBuildAhead.Executor.MtpAgreement
import KsanaBuildAhead.Lib.SpeculativeDecoding

/-!
# Closing the loop

The Engine, the Executor and the model together: what a step returns is what the model
makes of the tokens the Executor forwards, which the repair has put together from what the
step before returned. The output is what the model says one token at a time, and the slow
path produces the same.
-/
namespace KsanaBuildAhead.Executor

open KsanaBuildAhead.Runtime KsanaBuildAhead.Engine KsanaBuildAhead.Lib.ListEdit
  KsanaBuildAhead.Lib.SpeculativeDecoding

/-- What is computed for a request: the token behind a context, the drafts that are accepted
behind it, and the drafts offered behind the tokens so far. -/
structure Decoder where
  next : List Int → VocabId
  accept : List Int → List Int → List Int
  offer : List Int → List Int

namespace Decoder

variable (decoder : Decoder)

def token (context : List Int) : Int := (decoder.next context).val

/-- A step over a sequence whose last `draftNum` tokens are drafts to verify. -/
def run (forwardingTokens : List Int) (draftNum : Nat) : MtpOutcome :=
  let context := forwardingTokens.take (forwardingTokens.length - draftNum)
  let drafts := forwardingTokens.drop (forwardingTokens.length - draftNum)
  let accepted := decoder.accept context drafts
  { bonus := decoder.next (context ++ accepted)
    accepted := accepted
    drafts := decoder.offer (context ++ accepted ++ [decoder.token (context ++ accepted)]) }

/-- The steps with nothing between the model and its own tokens: what is settled before step
`k`, and what the step returns. -/
def modelRun (prompt : List Int) (reserved : Nat → Nat) : Nat → List Int × MtpOutcome
  | 0 => (prompt, decoder.run prompt 0)
  | k + 1 =>
    let (tokens, last) := modelRun prompt reserved k
    let drafts := last.drafts.take (reserved (k + 1))
    let outcome := decoder.run (tokens ++ last.bonus.val :: drafts) drafts.length
    (tokens ++ last.bonus.val :: outcome.accepted, outcome)

def outcomes (prompt : List Int) (reserved : Nat → Nat) (k : Nat) : MtpOutcome :=
  (decoder.modelRun prompt reserved k).2

theorem run_append (tokens drafts : List Int) (main : Int) :
    decoder.run (tokens ++ main :: drafts) drafts.length =
      let context := tokens ++ [main]
      let accepted := decoder.accept context drafts
      { bonus := decoder.next (context ++ accepted)
        accepted := accepted
        drafts := decoder.offer (context ++ accepted ++ [decoder.token (context ++ accepted)]) } := by
  have hsplit : tokens ++ main :: drafts = (tokens ++ [main]) ++ drafts := by simp
  have hlength : ((tokens ++ [main]) ++ drafts).length - drafts.length =
      (tokens ++ [main]).length := by
    rw [List.length_append, Nat.add_sub_cancel]
  rw [run, hsplit, hlength, List.take_left, List.drop_left]

theorem run_zero (tokens : List Int) :
    decoder.run tokens 0 =
      let accepted := decoder.accept tokens []
      { bonus := decoder.next (tokens ++ accepted)
        accepted := accepted
        drafts := decoder.offer (tokens ++ accepted ++ [decoder.token (tokens ++ accepted)]) } := by
  rw [run, Nat.sub_zero, List.take_length, List.drop_length]

/-- The model is asked for the outcome of each step behind what is settled before it. -/
theorem modelRun_settled (prompt : List Int) (reserved : Nat → Nat) (k : Nat) :
    (decoder.modelRun prompt reserved k).1 =
      settled prompt (stepOutcomes (decoder.outcomes prompt reserved)) k := by
  induction k with
  | zero => rfl
  | succ k ih =>
    rw [settled, ← ih]
    rfl

theorem outcomes_offers (prompt : List Int) (reserved : Nat → Nat) (k : Nat) :
    ∃ tokens, (decoder.outcomes prompt reserved k).drafts = decoder.offer tokens := by
  cases k <;> exact ⟨_, rfl⟩

section Sound

variable {decoder} {prompt : List Int} {reserved : Nat → Nat}
  (hsound : Sound decoder.token decoder.accept)
include hsound

theorem outcomes_accepts : AcceptsDrafts (decoder.outcomes prompt reserved) reserved where
  first := by
    rw [outcomes, modelRun, run_zero]
    exact hsound.accept_nil prompt
  accepted := by
    intro k
    show (decoder.run _ _).accepted <+: _
    rw [run_append]
    exact hsound.begins _ _

/-- What is committed after step `k` is the prompt and what the model says behind it, a token
for each step at least. -/
theorem committed_continuation (k : Nat) :
    ∃ n, k < n ∧ committed prompt (stepOutcomes (decoder.outcomes prompt reserved)) k =
      prompt ++ continuation decoder.token prompt n := by
  induction k with
  | zero =>
    refine ⟨1, Nat.zero_lt_one, ?_⟩
    show prompt ++ [(decoder.run prompt 0).bonus.val] = _
    rw [run_zero]
    dsimp only
    rw [hsound.accept_nil, List.append_nil]
    rfl
  | succ k ih =>
    obtain ⟨n, hn, hcommitted⟩ := ih
    have hrun := decoder.run_append (decoder.modelRun prompt reserved k).1
      ((decoder.outcomes prompt reserved k).drafts.take (reserved (k + 1)))
      (decoder.outcomes prompt reserved k).bonus.val
    rw [modelRun_settled] at hrun
    have hcontext : settled prompt (stepOutcomes (decoder.outcomes prompt reserved)) k ++
        [(decoder.outcomes prompt reserved k).bonus.val] =
          prompt ++ continuation decoder.token prompt n := hcommitted
    rw [hcontext] at hrun
    have houtcome : decoder.outcomes prompt reserved (k + 1) = _ :=
      (congrArg (fun tokens => decoder.run (tokens ++ _ :: _) _)
        (decoder.modelRun_settled prompt reserved k)).trans hrun
    have hstep := hsound.step (prompt ++ continuation decoder.token prompt n)
      ((decoder.outcomes prompt reserved k).drafts.take (reserved (k + 1)))
    generalize hcount : (decoder.accept (prompt ++ continuation decoder.token prompt n)
      ((decoder.outcomes prompt reserved k).drafts.take (reserved (k + 1)))).length = count at hstep
    refine ⟨n + (count + 1), by omega, ?_⟩
    rw [← continuation_behind, ← hcontext, committed, settled]
    show settled _ _ k ++ (decoder.outcomes prompt reserved k).bonus.val ::
      (decoder.outcomes prompt reserved (k + 1)).accepted ++
        [(decoder.outcomes prompt reserved (k + 1)).bonus.val] = _
    rw [houtcome, hcontext, ← hstep]
    simp [← hcontext, token]

end Sound

end Decoder

section Loop

variable [DraftTokensApi]

/-- One step of the Executor with the outcome the model computes from what is forwarded. -/
def executeClosed (decoder : Decoder) (state : MtpSerialState) (around : Surroundings)
    (cached : ExecutorInferRequest) : MtpSerialState × MtpOutcome :=
  let (mid, repaired) :=
    repairBatch (executeBatches state around.between) (around.batch cached)
  let req := repaired.getD around.before.length cached
  let outcome := decoder.run req.forwardingTokens req.forwardingTokensDraftNum
  (finishBatch mid repaired (around.resultsWith cached.reqId outcome), outcome)

/-- The Executor after a step, the Engine's request with that step in flight, and what the step
returned. -/
structure LoopState where
  executor : MtpSerialState
  engine : InferRequest
  outcome : MtpOutcome

/-- Step `k` on the Executor: the Engine launches it behind step `k-1`, the Executor runs it, and
the Engine retires step `k-1` with what that returned. -/
def closedLoop (decoder : Decoder) (req : InferRequest) (reserved : Nat → Nat)
    (start : MtpSerialState) (around : Nat → Surroundings) : Nat → Except String LoopState
  | 0 =>
    let (executor, outcome) := executeClosed decoder start (around 0) (around 0).cached
    .ok { executor := executor, engine := req, outcome := outcome }
  | k + 1 => do
    let s ← closedLoop decoder req reserved start around k
    let launched ← launchAhead s.engine (reserved (k + 1))
    let patched := overwriteByPatch ((around (k + 1)).patch launched) (around (k + 1)).cached
    let (executor, outcome) := executeClosed decoder s.executor (around (k + 1)) patched
    let retired ← retire launched s.outcome.toStepOutcome.result
    .ok { executor := executor, engine := retired, outcome := outcome }

/-- The slow path: every step is launched with its real tokens and forwards them as they are. -/
def slowLoop (fastPath : Bool) (decoder : Decoder) (req : InferRequest) (reserved : Nat → Nat) :
    Nat → Except String InferRequest
  | 0 => retire req
      (decoder.run req.forwardingTokens req.forwardingTokensDraftNum).toStepOutcome.result
  | k + 1 => do
    let retired ← slowLoop fastPath decoder req reserved k
    let launched ← launchSlow fastPath retired (reserved (k + 1))
    retire launched
      (decoder.run launched.forwardingTokens launched.forwardingTokensDraftNum).toStepOutcome.result

/-- The Executor starts as before, and it has received the last chunk as the Engine launched it. -/
structure LoopStart (req : InferRequest) (start : MtpSerialState) (around : Nat → Surroundings) :
    Prop extends ExecutorStart req.reqId start around where
  forwarding : (around 0).cached.forwardingTokens = req.forwardingTokens
  draftNum : (around 0).cached.forwardingTokensDraftNum = req.forwardingTokensDraftNum

/-- The draft model has something to offer whenever slots are reserved for it. -/
def OffersDrafts (decoder : Decoder) (reserved : Nat → Nat) : Prop :=
  ∀ k tokens, 0 < reserved (k + 1) → decoder.offer tokens ≠ []

theorem stepOutcomes_drafts (outcome : Nat → MtpOutcome) (k : Nat) :
    DraftTokensApi.getDraftTokens (stepOutcomes outcome k).drafts = (outcome k).drafts :=
  DraftTokensApi.get_mtp _

theorem AcceptsDrafts.verified {outcome : Nat → MtpOutcome} {reserved : Nat → Nat}
    (hoff : AcceptsDrafts outcome reserved) (k : Nat) :
    (stepOutcomes outcome (k + 1)).accepted <+:
      (DraftTokensApi.getDraftTokens (stepOutcomes outcome k).drafts).take (reserved (k + 1)) := by
  rw [stepOutcomes_drafts]
  exact hoff.accepted k

theorem executeClosed_of_repaired {decoder : Decoder} {state next : MtpSerialState}
    {around : Surroundings} {cached repaired : ExecutorInferRequest}
    {reqs : List ExecutorInferRequest} {outcome : MtpOutcome}
    (hrun : executeBatch (executeBatches state around.between) (around.batch cached)
      (around.resultsWith cached.reqId outcome) = (next, reqs))
    (hat : reqs[around.before.length]? = some repaired)
    (houtcome : decoder.run repaired.forwardingTokens repaired.forwardingTokensDraftNum = outcome) :
    executeClosed decoder state around cached = (next, outcome) := by
  rw [executeBatch] at hrun
  rw [executeClosed]
  generalize repairBatch (executeBatches state around.between) (around.batch cached) = mid
    at hrun ⊢
  obtain ⟨hnext, hreqs⟩ := Prod.mk.inj hrun
  have hread : mid.2.getD around.before.length cached = repaired := by
    rw [List.getD_eq_getElem?_getD, hreqs, hat]
    rfl
  dsimp only
  rw [hread, houtcome]
  exact Prod.ext hnext rfl

variable {decoder : Decoder} {prompt : List Int} {req : InferRequest} {reserved : Nat → Nat}
  {start : MtpSerialState} {around : Nat → Surroundings}

/-- The Engine's request with step `k` in flight and every step before retired. -/
def EngineAt (req : InferRequest) (outcome : Nat → StepOutcome) (reserved : Nat → Nat)
    (engine : InferRequest) : Nat → Prop
  | 0 => engine = req
  | k + 1 => steadyPipeline req outcome reserved k = .ok engine

theorem EngineAt.launchedStep {outcome : Nat → StepOutcome} {engine : InferRequest} {k : Nat}
    (hengine : EngineAt req outcome reserved engine k) :
    launchedStep req outcome reserved k = launchAhead engine (reserved (k + 1)) := by
  cases k with
  | zero => rw [Executor.launchedStep, show engine = req from hengine]
  | succ k =>
    rw [Executor.launchedStep, show steadyPipeline req outcome reserved k = _ from hengine]
    rfl

theorem steadyPipeline_of_launched {outcome : Nat → StepOutcome} {launched : InferRequest} {k : Nat}
    (h : launchedStep req outcome reserved k = .ok launched) :
    steadyPipeline req outcome reserved k = retire launched (outcome k).result := by
  cases k with
  | zero =>
    rw [steadyPipeline, show Engine.launchAhead req (reserved 1) = _ from h]
    rfl
  | succ k =>
    obtain ⟨retired, hretired, hlaunched⟩ := bind_ok h
    rw [steadyPipeline, hretired]
    show (Engine.launchAhead retired (reserved (k + 2)) >>= _) = _
    rw [hlaunched]
    rfl

/-- The loop is where the Executor's run and the Engine's pipeline are when the outcomes of the
model are given to them from outside. -/
structure Follows (decoder : Decoder) (prompt : List Int) (req : InferRequest)
    (reserved : Nat → Nat) (start : MtpSerialState) (around : Nat → Surroundings) (k : Nat)
    (s : LoopState) : Prop where
  executor : ∃ reqs, executorRun req (decoder.outcomes prompt reserved) reserved start around k =
    .ok (s.executor, reqs)
  engine : EngineAt req (stepOutcomes (decoder.outcomes prompt reserved)) reserved s.engine k
  outcome : s.outcome = decoder.outcomes prompt reserved k

section Run

variable (hreq : PipelineStart prompt req) (hstart : LoopStart req start around)
include hreq hstart

omit hreq in
theorem first_batch (outcome : MtpOutcome) :
    ∃ state reqs, executeBatch (executeBatches start (around 0).between)
        ((around 0).batch (around 0).cached)
        ((around 0).resultsWith (around 0).cached.reqId outcome) = (state, reqs) ∧
      reqs[(around 0).before.length]? = some (around 0).cached := by
  have hcached := (hstart.hosts 0).cached
  have hbetween := executeBatches_other start (around 0).between (hstart.hosts 0).betweenKept
    (hstart.hosts 0).betweenOthers
  have hcleared : (clearMtpSerialStateForLifecycle (around 0).finishReqIds
      (around 0).recomputeReqIds (executeBatches start (around 0).between)).view req.reqId = {} := by
    by_cases hdrop : req.reqId ∈
        (around 0).finishReqIds.flatten ++ (around 0).recomputeReqIds.flatten
    · exact view_clear_of_dropped _ _ _ hdrop
    · rw [view_clear _ _ _ hdrop, hbetween]
      exact hstart.unknown.resolve_left hdrop
  have hrepair : ∀ mid : MtpSerialState, mid.view (around 0).cached.reqId =
      (clearMtpSerialStateForLifecycle (around 0).finishReqIds (around 0).recomputeReqIds
        (executeBatches start (around 0).between)).view (around 0).cached.reqId →
      ∃ next, repairRequest ∅ mid.hostRing mid (around 0).cached = (next, (around 0).cached) ∧
        (next.view (around 0).cached.reqId).lastBlock = none := by
    intro mid hmid
    rw [hcached, hcleared] at hmid
    exact ⟨mid, repairRequest_unknown (by rw [hcached, hmid]), by rw [hcached, hmid]⟩
  obtain ⟨state, reqs, hrun, hat, -⟩ := executeBatch_at
    (executeBatches start (around 0).between) ((around 0).batch (around 0).cached)
    ((around 0).resultsWith (around 0).cached.reqId outcome) rfl rfl
    (by rw [hcached]; exact (hstart.hosts 0).others)
    hrepair rfl hstart.kind (by rw [Surroundings.resultsWith, if_pos rfl]; rfl)
  exact ⟨state, reqs, hrun, hat⟩

omit [DraftTokensApi] in
theorem first_outcome :
    decoder.run (around 0).cached.forwardingTokens (around 0).cached.forwardingTokensDraftNum =
      decoder.outcomes prompt reserved 0 := by
  rw [hstart.forwarding, hstart.draftNum, hreq.forwarding, hreq.draftNum]
  rfl

theorem closedLoop_zero :
    ∃ s, closedLoop decoder req reserved start around 0 = .ok s ∧
      Follows decoder prompt req reserved start around 0 s := by
  obtain ⟨state, reqs, hrun, hat⟩ := first_batch hstart (decoder.outcomes prompt reserved 0)
  have hclosed := executeClosed_of_repaired hrun hat (first_outcome hreq hstart)
  refine ⟨⟨state, req, decoder.outcomes prompt reserved 0⟩, ?_, ⟨reqs, ?_⟩, rfl, rfl⟩
  · rw [closedLoop, hclosed]
  · rw [executorRun, ← (hstart.hosts 0).cached, hrun]

/-- One round of the loop behind step `k`: what the Engine launches, what the repair makes of it,
and what the Engine retires. -/
structure Round (decoder : Decoder) (prompt : List Int) (req : InferRequest)
    (reserved : Nat → Nat) (start : MtpSerialState) (around : Nat → Surroundings) (k : Nat)
    (s : LoopState) (launched retired : InferRequest) (next : MtpSerialState)
    (nextReqs : List ExecutorInferRequest) (repaired : ExecutorInferRequest) : Prop where
  launch : launchAhead s.engine (reserved (k + 1)) = .ok launched
  batch : executeBatch (executeBatches s.executor (around (k + 1)).between)
    ((around (k + 1)).batch (overwriteByPatch ((around (k + 1)).patch launched)
      (around (k + 1)).cached))
    ((around (k + 1)).resultsWith req.reqId (decoder.outcomes prompt reserved (k + 1))) =
      (next, nextReqs)
  atIndex : nextReqs[(around (k + 1)).before.length]? = some repaired
  repaired : RepairedTo (settled prompt (stepOutcomes (decoder.outcomes prompt reserved)) k)
    (decoder.outcomes prompt reserved k).bonus.val
    ((decoder.outcomes prompt reserved k).drafts.take (reserved (k + 1))) repaired
  retire : retire launched s.outcome.toStepOutcome.result = .ok retired
  follows : Follows decoder prompt req reserved start around (k + 1)
    ⟨next, retired, decoder.outcomes prompt reserved (k + 1)⟩

theorem Follows.round (hsound : Sound decoder.token decoder.accept)
    (hoffers : OffersDrafts decoder reserved) {k : Nat} {s : LoopState}
    (hs : Follows decoder prompt req reserved start around k s)
    (hstop : ∀ j < k, (decoder.outcomes prompt reserved j).bonus.val ∉
      req.samplingConfig.stopTokenIds) :
    ∃ launched retired next nextReqs repaired, Round decoder prompt req reserved start around k s
      launched retired next nextReqs repaired := by
  have hoff : AcceptsDrafts (decoder.outcomes prompt reserved) reserved :=
    Decoder.outcomes_accepts hsound
  have htakes : ∀ j < k, TakesDraft (decoder.outcomes prompt reserved) reserved j := by
    intro j _ hslots
    obtain ⟨tokens, hdrafts⟩ := decoder.outcomes_offers prompt reserved j
    rw [hdrafts]
    exact hoffers j tokens hslots
  obtain ⟨reqs, hexecutor⟩ := hs.executor
  obtain ⟨next, nextReqs, repaired, hnext, hat, -, hrepaired⟩ :=
    executorRun_repairs hstart.toExecutorStart hreq hoff k htakes hstop
  rw [executorRun, hexecutor] at hnext
  obtain ⟨launched, hlaunch, hbatch⟩ := bind_ok (show (launchedStep req
    (stepOutcomes (decoder.outcomes prompt reserved)) reserved k >>= _) = _ from hnext)
  have hengine := hs.engine.launchedStep
  rw [hengine] at hlaunch
  obtain ⟨retired, hretired, -⟩ := steadyPipeline_filled hreq
    (stepOutcomes (decoder.outcomes prompt reserved)) reserved hoff.fits k hstop
  have hsteady := steadyPipeline_of_launched (hengine.trans hlaunch)
  rw [hretired] at hsteady
  refine ⟨launched, retired, next, nextReqs, repaired, hlaunch, Except.ok.inj hbatch, hat, hrepaired,
    ?_, ⟨nextReqs, ?_⟩, hretired, rfl⟩
  · rw [hs.outcome]
    exact hsteady.symm
  · rw [executorRun, hexecutor]
    simp only [bind, Except.bind, hengine, hlaunch]
    exact hbatch

omit hreq in
theorem closedLoop_succ {k : Nat} {s : LoopState} {launched retired : InferRequest}
    {next : MtpSerialState} {nextReqs : List ExecutorInferRequest} {repaired : ExecutorInferRequest}
    (hrun : closedLoop decoder req reserved start around k = .ok s)
    (hround : Round decoder prompt req reserved start around k s launched retired next nextReqs
      repaired) :
    closedLoop decoder req reserved start around (k + 1) =
      .ok ⟨next, retired, decoder.outcomes prompt reserved (k + 1)⟩ := by
  have houtcome : decoder.run repaired.forwardingTokens repaired.forwardingTokensDraftNum =
      decoder.outcomes prompt reserved (k + 1) := by
    rw [hround.repaired.forwarding, hround.repaired.draftNum, ← decoder.modelRun_settled]
    rfl
  have hcached : (overwriteByPatch ((around (k + 1)).patch launched)
      (around (k + 1)).cached).reqId = req.reqId := (hstart.hosts (k + 1)).cached
  have hclosed := executeClosed_of_repaired (by
    rw [hcached]
    exact hround.batch) hround.atIndex houtcome
  rw [closedLoop, hrun]
  simp only [bind, Except.bind, hround.launch, hclosed, hround.retire]

theorem closedLoop_follows (hsound : Sound decoder.token decoder.accept)
    (hoffers : OffersDrafts decoder reserved) (k : Nat)
    (hrunning : ∀ j < k, ∀ s, closedLoop decoder req reserved start around j = .ok s →
      s.outcome.bonus.val ∉ req.samplingConfig.stopTokenIds) :
    (∃ s, closedLoop decoder req reserved start around k = .ok s ∧
      Follows decoder prompt req reserved start around k s) ∧
      ∀ j < k, (decoder.outcomes prompt reserved j).bonus.val ∉
        req.samplingConfig.stopTokenIds := by
  induction k with
  | zero => exact ⟨closedLoop_zero hreq hstart, fun j hj => absurd hj (Nat.not_lt_zero j)⟩
  | succ k ih =>
    obtain ⟨⟨s, hrun, hs⟩, hstop⟩ := ih fun j hj => hrunning j (by omega)
    have hlast := hrunning k (Nat.lt_succ_self k) s hrun
    rw [hs.outcome] at hlast
    obtain ⟨launched, retired, next, nextReqs, repaired, hround⟩ :=
      hs.round hreq hstart hsound hoffers hstop
    refine ⟨⟨_, closedLoop_succ hstart hrun hround, hround.follows⟩, fun j hj => ?_⟩
    rcases Nat.lt_succ_iff_lt_or_eq.mp hj with hbefore | rfl
    · exact hstop j hbefore
    · exact hlast

omit hstart in
theorem slowLoop_follows (fastPath : Bool) (hsound : Sound decoder.token decoder.accept) (k : Nat)
    (hstop : ∀ j ≤ k, (decoder.outcomes prompt reserved j).bonus.val ∉
      req.samplingConfig.stopTokenIds) :
    slowLoop fastPath decoder req reserved k =
      slowPipeline fastPath req (stepOutcomes (decoder.outcomes prompt reserved)) reserved k := by
  have hoff : AcceptsDrafts (decoder.outcomes prompt reserved) reserved :=
    Decoder.outcomes_accepts hsound
  induction k with
  | zero =>
    rw [slowLoop, slowPipeline, hreq.forwarding, hreq.draftNum]
    rfl
  | succ k ih =>
    obtain ⟨retired, hslow, hdrained, -, hnoTask⟩ := slowPipeline_drained fastPath hreq
      (stepOutcomes (decoder.outcomes prompt reserved)) reserved hoff.first k
      (fun j hj => hstop j (by omega)) fun j _ => hoff.verified j
    have hplanned := hdrained.plan { generatedTokenNum := kStepGenerateTokenNum
                                     draftTokenNum := reserved (k + 1) } rfl rfl
    obtain ⟨launched, hlaunch, -, halone⟩ := hplanned.launch fastPath rfl
    have hlaunched : launchSlow fastPath retired (reserved (k + 1)) = .ok launched :=
      (launchSlow_eq fastPath hdrained.toDecodeReady hnoTask _).trans hlaunch
    have houtcome : decoder.run launched.forwardingTokens launched.forwardingTokensDraftNum =
        decoder.outcomes prompt reserved (k + 1) := by
      rw [halone.forwarding, halone.draftNum, stepOutcomes_drafts, List.append_assoc,
        ← decoder.modelRun_settled]
      rfl
    rw [slowLoop, slowPipeline, ih fun j hj => hstop j (by omega), hslow]
    simp only [bind, Except.bind, hlaunched, houtcome]
    rfl

end Run

end Loop

/-- Says how many tokens there are; of the two drafts it offers the first is right. -/
def decoderSample : Decoder where
  next := fun context => ⟨context.length, Int.natCast_nonneg _⟩
  accept := greedyAccept fun context => (context.length : Int)
  offer := fun tokens => [(tokens.length : Int), 0]

def closedLoopSample (_ : Nat) : Surroundings :=
  { surroundingsSample with cached := { reqId := 7, forwardingTokens := [11, 12] } }

theorem closedLoopSample_start : LoopStart lastChunkSample {} closedLoopSample where
  hosts := fun _ =>
    { betweenKept := fun _ h => absurd h List.not_mem_nil
      betweenOthers := fun _ h => absurd h List.not_mem_nil
      others := fun other hmem => by
        obtain rfl := List.mem_singleton.mp hmem
        decide
      cached := rfl
      live := rfl }
  kind := rfl
  unknown := Or.inr rfl
  kept := fun _ => List.not_mem_nil
  forwarding := rfl
  draftNum := rfl

end KsanaBuildAhead.Executor
