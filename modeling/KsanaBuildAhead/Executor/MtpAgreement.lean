import KsanaBuildAhead.Engine.SteadyPipeline
import KsanaBuildAhead.Executor.MtpBatch

/-!
# The Engine and the Executor agree

The Engine launches step `k+1` with a block of placeholders while step `k` is in
flight; the Executor receives the patch of that launch after its own step `k` and
repairs it from what that step left behind. Both end up with the same sequence:
the Engine when it retires step `k`, the Executor when it has repaired step `k+1`.
-/
namespace KsanaBuildAhead.Executor

open KsanaBuildAhead.Runtime KsanaBuildAhead.Engine KsanaBuildAhead.Lib.ListEdit

/-- What one step returns for the request: its token, the drafts it accepted, and the
drafts the draft model offers for the next step. -/
structure MtpOutcome where
  bonus : VocabId
  accepted : List Int := []
  drafts : List Int := []

def MtpOutcome.toStepOutcome (outcome : MtpOutcome) : StepOutcome where
  bonus := outcome.bonus
  accepted := outcome.accepted
  drafts := { mtp := outcome.drafts }

def stepOutcomes (outcome : Nat → MtpOutcome) (k : Nat) : StepOutcome := (outcome k).toStepOutcome

/-- What `UpdateCachedRequests` is taken to do with a patch: every field the patch carries
overwrites the cached one. Its body is not part of this source tree; the comments at its calls
say that the patch of a step overwrites what the Executor holds. -/
def overwriteByPatch (patch : InferRequestPatch) (cached : ExecutorInferRequest) :
    ExecutorInferRequest :=
  { cached with
    forwardingTokens :=
      cached.forwardingTokens.take patch.forwardingTokensOffset ++ patch.deltaForwardingTokens
    forwardingTokensDraftNum := patch.forwardingTokensDraftNum
    kvCachedTokenNum := patch.kvCachedTokenNum
    kvFromRemote := patch.kvFromRemote
    prefixCacheLen := patch.prefixCacheLen
    kvCacheBlocks := cached.kvCacheBlocks.take patch.kvCacheBlocksOffset ++ patch.deltaKvCacheBlocks
    swaKvCacheBlocks := patch.swaKvCacheBlocks
    swaKvCacheBlockIdxOffsets := patch.swaKvCacheBlockIdxOffsets
    inferStage := patch.inferStage
    forwardStepKind := patch.forwardStepKind
    step := patch.step
    samplingTokenNum := patch.samplingTokenNum
    launchPlaceholderOffset := patch.launchPlaceholderOffset }

/-- What goes on around the request at one step: the batches without it that run first,
the requests that leave, the others in its batch and their results, the request as the
Executor has it before the patch, the Engine's request when the patch is built, and the
snapshot the launch writes over. -/
structure Surroundings where
  between : List (ExecutorBatch × (Int → StepResult)) := []
  finishReqIds : List (List Int) := []
  recomputeReqIds : List (List Int) := []
  before : List ExecutorInferRequest := []
  after : List ExecutorInferRequest := []
  results : Int → StepResult := fun _ => {}
  cached : ExecutorInferRequest
  live : InferRequest
  snapshot : InferRequestSerializationSnapshot := {}

namespace Surroundings

def batch (around : Surroundings) (req : ExecutorInferRequest) : ExecutorBatch where
  finishReqIds := around.finishReqIds
  recomputeReqIds := around.recomputeReqIds
  reqs := around.before ++ req :: around.after

def resultsWith (around : Surroundings) (reqId : Int) (outcome : MtpOutcome) :
    Int → StepResult :=
  fun other => if other = reqId then outcome.toStepOutcome.result else around.results other

/-- The patch of the launched step, from the snapshot taken at launch. -/
def patch (around : Surroundings) (launched : InferRequest) : InferRequestPatch :=
  buildPatch (some (around.snapshot.capture launched true)) around.live

/-- The request is in its own batch once and in none before it, and the Engine and the
Executor mean the same one. -/
structure Hosts (around : Surroundings) (reqId : Int) : Prop where
  betweenKept : ∀ batch ∈ around.between, reqId ∉ batch.1.dropIds
  betweenOthers : ∀ batch ∈ around.between, ∀ other ∈ batch.1.reqs, other.reqId ≠ reqId
  others : ∀ other ∈ around.before ++ around.after, other.reqId ≠ reqId
  cached : around.cached.reqId = reqId
  live : around.live.reqId = reqId

end Surroundings

section Agreement

variable [DraftTokensApi]

/-- The request right after the launch of step `k+1`, with step `k` still in flight. -/
def launchedStep (req : InferRequest) (outcome : Nat → StepOutcome) (reserved : Nat → Nat) :
    Nat → Except String InferRequest
  | 0 => launchAhead req (reserved 1)
  | k + 1 => do
    let retired ← steadyPipeline req outcome reserved k
    launchAhead retired (reserved (k + 2))

/-- The Executor after step `k`, and the batch of that step as the repair left it. -/
def executorRun (req : InferRequest) (outcome : Nat → MtpOutcome) (reserved : Nat → Nat)
    (start : MtpSerialState) (around : Nat → Surroundings) :
    Nat → Except String (MtpSerialState × List ExecutorInferRequest)
  | 0 => .ok (executeBatch (executeBatches start (around 0).between)
      ((around 0).batch (around 0).cached)
      ((around 0).resultsWith req.reqId (outcome 0)))
  | k + 1 => do
    let (state, _) ← executorRun req outcome reserved start around k
    let launched ← launchedStep req (stepOutcomes outcome) reserved k
    let patched := overwriteByPatch ((around (k + 1)).patch launched) (around (k + 1)).cached
    .ok (executeBatch (executeBatches state (around (k + 1)).between)
      ((around (k + 1)).batch patched)
      ((around (k + 1)).resultsWith req.reqId (outcome (k + 1))))

variable {prompt : List Int} {req : InferRequest}

/-- The second launch and every later one find the block of the step in flight filled. -/
theorem launchedStep_next (hreq : PipelineStart prompt req) (outcome : Nat → StepOutcome)
    (reserved : Nat → Nat)
    (haccepted : ∀ k, (outcome (k + 1)).accepted.length ≤ reserved (k + 1)) (k : Nat)
    (hstop : ∀ j < k + 1, (outcome j).bonus.val ∉ req.samplingConfig.stopTokenIds) :
    ∃ launched, launchedStep req outcome reserved (k + 1) = .ok launched ∧
      NextStepReserved (settled prompt outcome k) (outcome k).bonus
        (resize (DraftTokensApi.getDraftTokens (outcome k).drafts) (reserved (k + 1))
          kFastPathPlaceholderTokenId) (reserved (k + 2)) launched := by
  obtain ⟨retired, hrun, hfilled, heos, -, hnoTask⟩ := steadyPipeline_filled hreq outcome reserved
    haccepted k fun j hj => hstop j (by omega)
  have hrunning : retired.isEosGenerated = false := by
    rw [heos]
    simpa using hstop k (Nat.lt_succ_self k)
  obtain ⟨launched, hlaunch, -, hreserved⟩ :=
    StepFilled.launchAhead ⟨hfilled, hrunning⟩ hnoTask (reserved (k + 2))
  refine ⟨launched, ?_, hreserved⟩
  rw [launchedStep, hrun]
  exact hlaunch

/-- Every step accepts a prefix of the drafts it verifies. -/
structure AcceptsDrafts (outcome : Nat → MtpOutcome) (reserved : Nat → Nat) : Prop where
  first : (outcome 0).accepted = []
  accepted : ∀ k, (outcome (k + 1)).accepted <+: (outcome k).drafts.take (reserved (k + 1))

omit [DraftTokensApi] in
theorem AcceptsDrafts.fits {outcome : Nat → MtpOutcome} {reserved : Nat → Nat}
    (hoff : AcceptsDrafts outcome reserved) (k : Nat) :
    (stepOutcomes outcome (k + 1)).accepted.length ≤ reserved (k + 1) := by
  have hlength := (hoff.accepted k).length_le
  rw [List.length_take] at hlength
  exact hlength.trans (Nat.min_le_left _ _)

/-- Every step accepts a prefix of the drafts it verifies, and offers at least as many
drafts as the next step has slots. -/
structure VerifiesDrafts (outcome : Nat → MtpOutcome) (reserved : Nat → Nat) : Prop where
  first : (outcome 0).accepted = []
  enough : ∀ k, reserved (k + 1) ≤ (outcome k).drafts.length
  accepted : ∀ k, (outcome (k + 1)).accepted <+: (outcome k).drafts.take (reserved (k + 1))

omit [DraftTokensApi] in
theorem VerifiesDrafts.acceptsDrafts {outcome : Nat → MtpOutcome} {reserved : Nat → Nat}
    (hoff : VerifiesDrafts outcome reserved) : AcceptsDrafts outcome reserved :=
  ⟨hoff.first, hoff.accepted⟩

theorem VerifiesDrafts.block {outcome : Nat → MtpOutcome} {reserved : Nat → Nat}
    (hoff : VerifiesDrafts outcome reserved) (k : Nat) :
    resize (DraftTokensApi.getDraftTokens (stepOutcomes outcome k).drafts) (reserved (k + 1))
      kFastPathPlaceholderTokenId = (outcome k).drafts.take (reserved (k + 1)) := by
  rw [stepOutcomes, MtpOutcome.toStepOutcome, DraftTokensApi.get_mtp,
    resize_eq_take _ _ (hoff.enough k)]

/-- Step `k+1` has a draft to verify when it reserved slots for drafts. -/
def TakesDraft (outcome : Nat → MtpOutcome) (reserved : Nat → Nat) (k : Nat) : Prop :=
  0 < reserved (k + 1) → (outcome k).drafts ≠ []

omit [DraftTokensApi] in
theorem VerifiesDrafts.takesDraft {outcome : Nat → MtpOutcome} {reserved : Nat → Nat}
    (hoff : VerifiesDrafts outcome reserved) (k : Nat) : TakesDraft outcome reserved k :=
  fun hslots => List.length_pos_iff.mp (hslots.trans_le (hoff.enough k))

/-- The request is in every batch. Step 0 samples it, the Executor knows nothing of it
before, and from then on it is neither finished nor recomputed. -/
structure ExecutorStart (reqId : Int) (start : MtpSerialState) (around : Nat → Surroundings) :
    Prop where
  hosts : ∀ k, (around k).Hosts reqId
  kind : isPrefillChunkMidStep (around 0).cached.forwardStepKind = false
  unknown : reqId ∈ (around 0).finishReqIds.flatten ++ (around 0).recomputeReqIds.flatten ∨
    start.view reqId = {}
  kept : ∀ k, reqId ∉
    (around (k + 1)).finishReqIds.flatten ++ (around (k + 1)).recomputeReqIds.flatten

/-- The block of step `k` as its repair left it: where it starts, and the slots that took
a draft. -/
def filledBlock (prompt : List Int) (outcome : Nat → MtpOutcome) (reserved : Nat → Nat) :
    Nat → Option (Nat × Nat)
  | 0 => none
  | k + 1 => some ((settled prompt (stepOutcomes outcome) k).length,
      min (outcome k).drafts.length (reserved (k + 1)))

/-- The repaired request holds `tokens`, then the main token and the drafts to verify. -/
structure RepairedTo (tokens : List Int) (main : Int) (drafts : List Int)
    (repaired : ExecutorInferRequest) : Prop where
  forwarding : repaired.forwardingTokens = tokens ++ main :: drafts
  kvCached : repaired.kvCachedTokenNum = tokens.length
  prefixCache : repaired.prefixCacheLen = tokens.length
  draftNum : repaired.forwardingTokensDraftNum = drafts.length
  sampling : repaired.samplingTokenNum = kStepGenerateTokenNum + drafts.length

/-- What the patch of a launch with a placeholder block makes of the cached request. -/
structure Patched (reqId : Int) (forwarding : List Int) (offset draftNum : Nat)
    (req : ExecutorInferRequest) : Prop where
  reqId : req.reqId = reqId
  forwarding : req.forwardingTokens = forwarding
  offset : req.launchPlaceholderOffset = some offset
  draftNum : req.forwardingTokensDraftNum = draftNum
  kind : req.forwardStepKind = .decode

section Patched

variable {surroundings : Surroundings} {launched : InferRequest} {tokens old : List Int}
  {main : VocabId} {draftNum : Nat} {reqId : Int} (hcached : surroundings.cached.reqId = reqId)
include hcached

omit [DraftTokensApi] in
theorem patched_of_reserved {forwarding : List Int} (positions : List Nat) {offset : Nat}
    (hforwarding : launched.forwardingTokens = forwarding)
    (hpositions : launched.pendingPlaceholderPositions = positions ++ [offset])
    (hdraftNum : launched.forwardingTokensDraftNum = draftNum)
    (hkind : launched.forwardStepKind = .decode) :
    Patched reqId forwarding offset draftNum
      (overwriteByPatch (surroundings.patch launched) surroundings.cached) where
  reqId := hcached
  forwarding := hforwarding
  offset := by
    show launched.getLatestPendingPlaceholderOffset = _
    rw [InferRequest.getLatestPendingPlaceholderOffset, hpositions, List.getLast?_concat]
  draftNum := hdraftNum
  kind := hkind

omit [DraftTokensApi] in
theorem patched_first (hlaunched : FirstStepReserved prompt draftNum launched) :
    Patched reqId (prompt ++ List.replicate (1 + draftNum) kFastPathPlaceholderTokenId)
      prompt.length draftNum
      (overwriteByPatch (surroundings.patch launched) surroundings.cached) :=
  patched_of_reserved hcached [] hlaunched.forwarding hlaunched.positions
    hlaunched.draftNum hlaunched.kind

omit [DraftTokensApi] in
theorem patched_next (hlaunched : NextStepReserved tokens main old draftNum launched) :
    Patched reqId (tokens ++ main.val :: (old ++
        List.replicate (1 + draftNum) kFastPathPlaceholderTokenId))
      (tokens.length + 1 + old.length) draftNum
      (overwriteByPatch (surroundings.patch launched) surroundings.cached) :=
  patched_of_reserved hcached [tokens.length] hlaunched.forwarding
    hlaunched.positions hlaunched.draftNum hlaunched.kind

end Patched

/-- From every state with this view of the request its repair gives the same result. -/
def RepairsTo (view : RequestView) (cached repaired : ExecutorInferRequest)
    (lastBlock : Nat × Nat) : Prop :=
  ∀ mid : MtpSerialState, mid.view cached.reqId = view →
    ∃ next, repairRequest ∅ mid.hostRing mid cached = (next, repaired) ∧
      (next.view cached.reqId).lastBlock = some lastBlock

section Repairs

variable {view : RequestView} {cached : ExecutorInferRequest} {tokens old accepted drafts : List Int}
  {draftNum : Nat} {reqId : Int} (token : VocabId)

omit [DraftTokensApi] in
theorem withDrafts_repairedTo (cached : ExecutorInferRequest) (tokens : List Int) (main : Int)
    (drafts : List Int) :
    RepairedTo tokens main (drafts.take cached.forwardingTokensDraftNum)
      (withDrafts cached tokens main drafts) where
  forwarding := rfl
  kvCached := rfl
  prefixCache := rfl
  draftNum := by
    rw [List.length_take, Nat.min_comm]
    rfl
  sampling := by
    rw [List.length_take, Nat.min_comm]
    rfl

omit [DraftTokensApi] in
/-- With no drafts on record a block is repaired right behind what stands before it. -/
theorem Patched.repairs_standing {lastBlock : Option (Nat × Nat)}
    (hcached : Patched reqId (tokens ++ List.replicate (1 + draftNum) kFastPathPlaceholderTokenId)
      tokens.length draftNum cached)
    (hview : view.Holds token.val [] drafts lastBlock)
    (hnone : ∀ start width, lastBlock = some (start, width) → width = 0) :
    ∃ repaired, RepairedTo tokens token.val (drafts.take draftNum) repaired ∧
      repaired.reqId = reqId ∧ repaired.forwardStepKind = .decode ∧
      RepairsTo view cached repaired (tokens.length, min drafts.length draftNum) := by
  obtain ⟨rfl, hforwarding, hoffset, rfl, hkind⟩ := hcached
  have hfirst : (lastBlock.getD (cached.kvCachedTokenNum, 0)).2 = 0 := by
    cases lastBlock with
    | none => rfl
    | some block => exact hnone block.1 block.2 rfl
  refine ⟨withDrafts cached tokens token.val drafts, withDrafts_repairedTo _ _ _ _, rfl, hkind,
    fun mid hmid => ?_⟩
  obtain ⟨next, hrepair, -, hnext⟩ := repairRequest_standing (by rw [hmid]; exact hview)
    token.ne_placeholder hoffset (by rw [hforwarding]; simp) hfirst rfl hforwarding rfl
  exact ⟨next, hrepair, by rw [hnext]⟩

omit [DraftTokensApi] in
/-- Behind a block that took a draft a step is repaired after the accepted ones. -/
theorem Patched.repairs_behind (main : Int) {width : Nat}
    (hcached : Patched reqId (tokens ++ main :: (old ++
        List.replicate (1 + draftNum) kFastPathPlaceholderTokenId))
      (tokens.length + 1 + old.length) draftNum cached)
    (hview : view.Holds token.val accepted drafts (some (tokens.length, width)))
    (hwidth : width ≤ old.length) (hdrafts : old ≠ [] → 0 < width)
    (hfit : accepted.length ≤ old.length) :
    ∃ repaired, RepairedTo (tokens ++ main :: accepted) token.val (drafts.take draftNum) repaired ∧
      repaired.reqId = reqId ∧ repaired.forwardStepKind = .decode ∧
      RepairsTo view cached repaired
        ((tokens ++ main :: accepted).length, min drafts.length draftNum) := by
  obtain ⟨rfl, hforwarding, hoffset, rfl, hkind⟩ := hcached
  refine ⟨withDrafts cached (tokens ++ main :: accepted) token.val drafts,
    withDrafts_repairedTo _ _ _ _, rfl, hkind, fun mid hmid => ?_⟩
  obtain ⟨next, hrepair, -, hnext⟩ := repairRequest_behind (by rw [hmid]; exact hview)
    token.ne_placeholder hoffset (by rw [hforwarding]; simp; omega) rfl hwidth hdrafts hfit
    hforwarding rfl
  exact ⟨next, hrepair, by rw [hnext]⟩

end Repairs

section Run

variable {outcome : Nat → MtpOutcome} {reserved : Nat → Nat} {start : MtpSerialState}
  {around : Nat → Surroundings}
  (hexec : ExecutorStart req.reqId start around)

include hexec in
theorem executorRun_zero :
    ∃ state reqs, executorRun req outcome reserved start around 0 = .ok (state, reqs) ∧
      (state.view req.reqId).Holds (outcome 0).bonus.val (outcome 0).accepted (outcome 0).drafts
        none := by
  have hcached := (hexec.hosts 0).cached
  have hbetween := executeBatches_other start (around 0).between (hexec.hosts 0).betweenKept
    (hexec.hosts 0).betweenOthers
  have hcleared : (clearMtpSerialStateForLifecycle (around 0).finishReqIds
      (around 0).recomputeReqIds (executeBatches start (around 0).between)).view req.reqId = {} := by
    by_cases hdrop : req.reqId ∈
        (around 0).finishReqIds.flatten ++ (around 0).recomputeReqIds.flatten
    · exact view_clear_of_dropped _ _ _ hdrop
    · rw [view_clear _ _ _ hdrop, hbetween]
      exact hexec.unknown.resolve_left hdrop
  have hrepair : ∀ mid : MtpSerialState, mid.view (around 0).cached.reqId =
      (clearMtpSerialStateForLifecycle (around 0).finishReqIds (around 0).recomputeReqIds
        (executeBatches start (around 0).between)).view (around 0).cached.reqId →
      ∃ next, repairRequest ∅ mid.hostRing mid (around 0).cached = (next, (around 0).cached) ∧
        (next.view (around 0).cached.reqId).lastBlock = none := by
    intro mid hmid
    rw [hcached, hcleared] at hmid
    exact ⟨mid, repairRequest_unknown (by rw [hcached, hmid]), by rw [hcached, hmid]⟩
  obtain ⟨state, reqs, hrun, -, hholds⟩ := executeBatch_at
    (executeBatches start (around 0).between) ((around 0).batch (around 0).cached)
    ((around 0).resultsWith req.reqId (outcome 0)) rfl rfl
    (by rw [hcached]; exact (hexec.hosts 0).others) hrepair rfl hexec.kind
    (by rw [hcached, Surroundings.resultsWith, if_pos rfl]; rfl)
  rw [hcached] at hholds
  exact ⟨state, reqs, congrArg Except.ok hrun, hholds⟩

include hexec in
theorem executorRun_succ {k : Nat} {state : MtpSerialState} {reqs : List ExecutorInferRequest}
    {launched : InferRequest} {repaired : ExecutorInferRequest} {lastBlock : Nat × Nat}
    (hrun : executorRun req outcome reserved start around k = .ok (state, reqs))
    (hlaunch : launchedStep req (stepOutcomes outcome) reserved k = .ok launched)
    (hrepair : RepairsTo (state.view req.reqId)
      (overwriteByPatch ((around (k + 1)).patch launched) (around (k + 1)).cached) repaired
      lastBlock)
    (hid : repaired.reqId = req.reqId) (hkind : repaired.forwardStepKind = .decode) :
    ∃ state reqs, executorRun req outcome reserved start around (k + 1) = .ok (state, reqs) ∧
      reqs[(around (k + 1)).before.length]? = some repaired ∧
      (state.view req.reqId).Holds (outcome (k + 1)).bonus.val (outcome (k + 1)).accepted
        (outcome (k + 1)).drafts (some lastBlock) := by
  have hcached : (overwriteByPatch ((around (k + 1)).patch launched)
      (around (k + 1)).cached).reqId = req.reqId := (hexec.hosts (k + 1)).cached
  have hcleared := view_clear (around (k + 1)).finishReqIds (around (k + 1)).recomputeReqIds
    (executeBatches state (around (k + 1)).between) (hexec.kept k)
  rw [executeBatches_other state (around (k + 1)).between (hexec.hosts (k + 1)).betweenKept
    (hexec.hosts (k + 1)).betweenOthers] at hcleared
  obtain ⟨next, nextReqs, hnext, hat, hholds⟩ := executeBatch_at
    (executeBatches state (around (k + 1)).between)
    ((around (k + 1)).batch (overwriteByPatch ((around (k + 1)).patch launched)
      (around (k + 1)).cached))
    ((around (k + 1)).resultsWith req.reqId (outcome (k + 1))) rfl rfl
    (by rw [hcached]; exact (hexec.hosts (k + 1)).others)
    (fun mid hmid => hrepair mid (hmid.trans (by rw [hcached]; exact hcleared)))
    (hid.trans hcached.symm) (by rw [hkind]; rfl)
    (by rw [hcached, Surroundings.resultsWith, if_pos rfl]; rfl)
  rw [hcached] at hholds
  refine ⟨next, nextReqs, ?_, hat, hholds⟩
  rw [executorRun, hrun]
  simp only [bind, Except.bind, hlaunch, hnext]

section AcceptsDrafts

variable (hreq : PipelineStart prompt req) (hoff : AcceptsDrafts outcome reserved)
include hreq hoff

/-- The launch of step `k+2` carries the block of step `k+1` as the Engine filled it: the
drafts that fit, and placeholders in the slots left over. -/
theorem patched_of_launch {surroundings : Surroundings}
    (hcached : surroundings.cached.reqId = req.reqId) (k : Nat)
    (hstop : ∀ j < k + 1, (outcome j).bonus.val ∉ req.samplingConfig.stopTokenIds) :
    ∃ launched, launchedStep req (stepOutcomes outcome) reserved (k + 1) = .ok launched ∧
      Patched req.reqId (settled prompt (stepOutcomes outcome) k ++ (outcome k).bonus.val ::
          (resize (outcome k).drafts (reserved (k + 1)) kFastPathPlaceholderTokenId ++
            List.replicate (1 + reserved (k + 2)) kFastPathPlaceholderTokenId))
        ((settled prompt (stepOutcomes outcome) k).length + 1 +
          (resize (outcome k).drafts (reserved (k + 1)) kFastPathPlaceholderTokenId).length)
        (reserved (k + 2))
        (overwriteByPatch (surroundings.patch launched) surroundings.cached) := by
  obtain ⟨launched, hlaunch, hreserved⟩ := launchedStep_next hreq
    (stepOutcomes outcome) reserved hoff.fits k hstop
  have hdrafts : DraftTokensApi.getDraftTokens (stepOutcomes outcome k).drafts =
      (outcome k).drafts := by
    rw [stepOutcomes, MtpOutcome.toStepOutcome, DraftTokensApi.get_mtp]
  rw [hdrafts] at hreserved
  exact ⟨launched, hlaunch, patched_next hcached hreserved⟩

include hexec in
/-- The launch of step `k+1` and its repair: the step before left its token, its drafts
and its block, and the patch still holds that block whole. -/
theorem repair_of_launch (k : Nat) (hdrafts : ∀ j < k, TakesDraft outcome reserved j)
    (hstop : ∀ j < k, (outcome j).bonus.val ∉ req.samplingConfig.stopTokenIds)
    {state : MtpSerialState}
    (hview : (state.view req.reqId).Holds (outcome k).bonus.val (outcome k).accepted
      (outcome k).drafts (filledBlock prompt outcome reserved k)) :
    ∃ launched repaired,
      launchedStep req (stepOutcomes outcome) reserved k = .ok launched ∧
      RepairsTo (state.view req.reqId)
        (overwriteByPatch ((around (k + 1)).patch launched) (around (k + 1)).cached) repaired
        ((settled prompt (stepOutcomes outcome) k).length,
          min (outcome k).drafts.length (reserved (k + 1))) ∧
      RepairedTo (settled prompt (stepOutcomes outcome) k) (outcome k).bonus.val
        ((outcome k).drafts.take (reserved (k + 1))) repaired ∧
      repaired.reqId = req.reqId ∧ repaired.forwardStepKind = .decode := by
  have hcached := (hexec.hosts (k + 1)).cached
  cases k with
  | zero =>
    obtain ⟨launched, hlaunch, -, hreserved⟩ := hreq.launchAhead (reserved 1)
    rw [hoff.first] at hview
    obtain ⟨repaired, hrepaired, hid, hkind, hrepairs⟩ :=
      (patched_first hcached hreserved).repairs_standing (outcome 0).bonus hview
        (fun _ _ hnone => by cases hnone)
    exact ⟨launched, repaired, hlaunch, hrepairs, hrepaired, hid, hkind⟩
  | succ k =>
    obtain ⟨launched, hlaunch, hpatched⟩ := patched_of_launch hreq hoff hcached k hstop
    have hlength := resize_length (outcome k).drafts (reserved (k + 1)) kFastPathPlaceholderTokenId
    obtain ⟨repaired, hrepaired, hid, hkind, hrepairs⟩ :=
      hpatched.repairs_behind (outcome (k + 1)).bonus _ hview (by omega)
        (fun hold => by
          have hslots := List.length_pos_iff.mpr hold
          have hsome := List.length_pos_iff.mpr (hdrafts k (Nat.lt_succ_self k) (by omega))
          omega)
        (by rw [hlength]; exact hoff.fits k)
    exact ⟨launched, repaired, hlaunch, hrepairs, hrepaired, hid, hkind⟩

include hexec in
/-- Every step leaves its token, its drafts and its block with the Executor. -/
theorem executorRun_holds (k : Nat) (hdrafts : ∀ j, j + 1 < k → TakesDraft outcome reserved j)
    (hstop : ∀ j, j + 1 < k → (outcome j).bonus.val ∉ req.samplingConfig.stopTokenIds) :
    ∃ state reqs, executorRun req outcome reserved start around k = .ok (state, reqs) ∧
      (state.view req.reqId).Holds (outcome k).bonus.val (outcome k).accepted (outcome k).drafts
        (filledBlock prompt outcome reserved k) := by
  induction k with
  | zero => exact executorRun_zero hexec
  | succ k ih =>
    obtain ⟨state, reqs, hrun, hview⟩ := ih (fun j hj => hdrafts j (by omega))
      fun j hj => hstop j (by omega)
    obtain ⟨launched, repaired, hlaunch, hrepair, -, hid, hkind⟩ :=
      repair_of_launch hexec hreq hoff k (fun j hj => hdrafts j (by omega))
        (fun j hj => hstop j (by omega)) hview
    obtain ⟨next, nextReqs, hnext, -, hholds⟩ :=
      executorRun_succ hexec hrun hlaunch hrepair hid hkind
    exact ⟨next, nextReqs, hnext, hholds⟩

include hexec in
/-- What the repair at step `k+1` makes of the request, when every block before took a
draft. -/
theorem executorRun_repairs (k : Nat) (hdrafts : ∀ j < k, TakesDraft outcome reserved j)
    (hstop : ∀ j < k, (outcome j).bonus.val ∉ req.samplingConfig.stopTokenIds) :
    ∃ state reqs repaired, executorRun req outcome reserved start around (k + 1) =
        .ok (state, reqs) ∧
      reqs[(around (k + 1)).before.length]? = some repaired ∧ repaired.reqId = req.reqId ∧
      RepairedTo (settled prompt (stepOutcomes outcome) k) (outcome k).bonus.val
        ((outcome k).drafts.take (reserved (k + 1))) repaired := by
  obtain ⟨state, reqs, hrun, hview⟩ := executorRun_holds hexec hreq hoff k
    (fun j hj => hdrafts j (by omega)) fun j hj => hstop j (by omega)
  obtain ⟨launched, repaired, hlaunch, hrepair, hrepaired, hid, hkind⟩ :=
    repair_of_launch hexec hreq hoff k hdrafts hstop hview
  obtain ⟨next, nextReqs, hnext, hat, -⟩ := executorRun_succ hexec hrun hlaunch hrepair hid hkind
  exact ⟨next, nextReqs, repaired, hnext, hat, hid, hrepaired⟩

end AcceptsDrafts

variable (hreq : PipelineStart prompt req) (hoff : VerifiesDrafts outcome reserved)
include hreq hoff hexec

/-- After the repair at step `k+1` the Executor holds the prompt, every token committed
up to step `k`, and the drafts to verify, with the KV start at the last committed
token. The Engine holds the same once it has retired step `k`. -/
theorem executor_agrees_with_engine (k : Nat)
    (hstop : ∀ j < k, (outcome j).bonus.val ∉ req.samplingConfig.stopTokenIds) :
    ∃ state reqs repaired engine,
      executorRun req outcome reserved start around (k + 1) = .ok (state, reqs) ∧
      reqs[(around (k + 1)).before.length]? = some repaired ∧ repaired.reqId = req.reqId ∧
      repaired.forwardingTokens = committed prompt (stepOutcomes outcome) k ++
        (outcome k).drafts.take (reserved (k + 1)) ∧
      repaired.kvCachedTokenNum =
        (committed prompt (stepOutcomes outcome) k).length - 1 ∧
      repaired.prefixCacheLen = repaired.kvCachedTokenNum ∧
      repaired.forwardingTokensDraftNum = reserved (k + 1) ∧
      repaired.samplingTokenNum = kStepGenerateTokenNum + reserved (k + 1) ∧
      steadyPipeline req (stepOutcomes outcome) reserved k = .ok engine ∧
      engine.forwardingTokens = repaired.forwardingTokens ∧
      engine.kvCachedTokenNum = repaired.kvCachedTokenNum := by
  obtain ⟨next, nextReqs, repaired, hnext, hat, hid, hrepaired⟩ :=
    executorRun_repairs hexec hreq hoff.acceptsDrafts k (fun j _ => hoff.takesDraft j) hstop
  obtain ⟨engine, hengine, hfilled, -, hpayload, -⟩ := steadyPipeline_filled hreq
    (stepOutcomes outcome) reserved hoff.acceptsDrafts.fits k hstop
  have hlocal : engine.pdV2.kvFromRemote = false := by
    rw [hpayload]
    exact hreq.localKv
  have hslots : ((outcome k).drafts.take (reserved (k + 1))).length = reserved (k + 1) :=
    List.length_take_of_le (hoff.enough k)
  have hlength : (committed prompt (stepOutcomes outcome) k).length - 1 =
      (settled prompt (stepOutcomes outcome) k).length := by
    simp [committed]
  have hcommitted : repaired.forwardingTokens =
      committed prompt (stepOutcomes outcome) k ++
        (outcome k).drafts.take (reserved (k + 1)) := by
    rw [hrepaired.forwarding, committed, List.append_assoc]
    rfl
  refine ⟨next, nextReqs, repaired, engine, hnext, hat, hid, hcommitted, ?_, ?_, ?_, ?_, hengine,
    ?_, ?_⟩
  · rw [hlength, hrepaired.kvCached]
  · rw [hrepaired.prefixCache, hrepaired.kvCached]
  · rw [hrepaired.draftNum, hslots]
  · rw [hrepaired.sampling, hslots]
  · rw [hfilled.forwarding, hrepaired.forwarding, hoff.block k]
    rfl
  · rw [hfilled.kvCached hlocal, hrepaired.kvCached]

end Run

end Agreement

/-- Step 2 gets no draft slot, every other step two; each step accepts its first draft. -/
def mtpReservedSample (k : Nat) : Nat := if k = 2 then 0 else 2

def mtpOutcomeSample (k : Nat) : MtpOutcome where
  bonus := ⟨k + 20, by omega⟩
  accepted := match k with
    | 0 => []
    | j + 1 => [(40 + j : Int), 60 + j].take (min 1 (mtpReservedSample (j + 1)))
  drafts := [40 + k, 60 + k]

/-- Another request decodes in the same batches. -/
def surroundingsSample : Surroundings where
  before := [{ reqId := 9, forwardingTokens := [1, -1], forwardStepKind := .decode }]
  results := fun _ => { generatedTokens := [5] }
  cached := { reqId := 7 }
  live := lastChunkSample

theorem surroundingsSample_hosts : surroundingsSample.Hosts 7 where
  betweenKept := fun _ h => absurd h List.not_mem_nil
  betweenOthers := fun _ h => absurd h List.not_mem_nil
  others := by decide
  cached := rfl
  live := rfl

theorem surroundingsSample_start :
    ExecutorStart lastChunkSample.reqId {} fun _ => surroundingsSample where
  hosts := fun _ => surroundingsSample_hosts
  kind := rfl
  unknown := Or.inr rfl
  kept := fun _ => by decide

theorem mtpOutcomeSample_verifies : VerifiesDrafts mtpOutcomeSample mtpReservedSample where
  first := rfl
  enough := fun k => by
    rw [mtpReservedSample]
    split <;> simp [mtpOutcomeSample]
  accepted := fun k => by
    show [(40 + k : Int), 60 + k].take (min 1 (mtpReservedSample (k + 1))) <+: _
    exact List.take_prefix_take_left (Nat.min_le_right _ _)

/-- The sequence the Executor verifies at step 4 of the sample. -/
theorem executor_agrees_with_engine_sample :
    letI := concatDraftTokens
    ∃ state reqs repaired, executorRun lastChunkSample mtpOutcomeSample mtpReservedSample {}
        (fun _ => surroundingsSample) 4 = .ok (state, reqs) ∧ reqs[1]? = some repaired ∧
      repaired.forwardingTokens = [11, 12, 20, 40, 21, 22, 42, 23, 43, 63] ∧
      repaired.kvCachedTokenNum = 7 := by
  let _ := concatDraftTokens
  obtain ⟨state, reqs, repaired, engine, hrun, hat, -, hforwarding, hkv, -⟩ :=
    executor_agrees_with_engine surroundingsSample_start lastChunkSample_start mtpOutcomeSample_verifies 3
      (fun j _ => by simp [lastChunkSample])
  exact ⟨state, reqs, repaired, hrun, hat, hforwarding.trans rfl, hkv.trans rfl⟩

end KsanaBuildAhead.Executor
