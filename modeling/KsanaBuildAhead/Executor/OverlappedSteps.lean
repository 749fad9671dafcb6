import KsanaBuildAhead.Engine.LaunchDispatch
import KsanaBuildAhead.Executor.BatchLayout
import KsanaBuildAhead.Executor.MtpAgreement
import KsanaBuildAhead.Lib.Execution

/-!
# Two steps over shared requests

Preprocess writes the requests of a schedule into the cache in place and builds
the step; Execute takes further values from the same requests, one at a time,
until the step is done. Only the copies made by the build are out of reach of the
next schedule.
-/
namespace KsanaBuildAhead.Executor

open KsanaBuildAhead.Runtime KsanaBuildAhead.Engine KsanaBuildAhead.Lib.Execution

/-- The cached requests, shared by all steps. -/
abbrev CachedRequests := Int → ExecutorInferRequest

/-- What a schedule carries for one request. -/
inductive RequestTransfer where
  | full (req : ExecutorInferRequest)
  | patch (changes : InferRequestPatch)

namespace RequestTransfer

def reqId : RequestTransfer → Int
  | .full req => req.reqId
  | .patch changes => changes.reqId

/-- The cached object is overwritten, not replaced by another one. -/
def apply (transfer : RequestTransfer) (requests : CachedRequests) : CachedRequests :=
  Function.update requests transfer.reqId <| match transfer with
    | .full req => req
    | .patch changes => overwriteByPatch changes (requests changes.reqId)

end RequestTransfer

/-- The rows a request adds to the hidden units. -/
def hiddenTokenNum (req : ExecutorInferRequest) : Nat :=
  req.forwardingTokens.length - max req.kvCachedTokenNum req.prefixCacheLen.toNat

/-- The accesses to a shared request, in the order of the step. -/
inductive StepOp where
  | getHiddenShape (reqId : Int)
  | checkChunkMid (reqId : Int)
  | buildSamplingRequest (reqId : Int) (frozenOffset : Nat)
  | sample (reqId : Int)
  | updateGenerationState (reqId : Int)
  | generateDraft (reqId : Int)
deriving Repr, DecidableEq

inductive StepValue where
  | num (value : Nat)
  | kind (value : ForwardStepKind)
  | tokens (value : List Int)
deriving Repr, DecidableEq

structure SamplingRequest where
  reqId : Int
  samplingTokenNum : Nat
  logitsOffset : Nat
deriving Repr, DecidableEq

/-- What a step has taken from its requests up to sampling, which its results depend on. -/
structure SampledUses where
  hiddenTokens : Nat := 0
  kinds : List ForwardStepKind := []
  samplingReqs : List SamplingRequest := []
  samplerTokens : List (List Int) := []
deriving Repr, DecidableEq

/-- What a step has taken from its requests so far. -/
structure StepUses extends SampledUses where
  genStateReqs : List Int := []
  draftReqs : List Int := []
deriving Repr, DecidableEq

def StepUses.needSampling (uses : StepUses) : Bool :=
  uses.kinds.any fun kind => !isPrefillChunkMidStep kind

/-- A schedule on the Executor, and what the model returns for its requests. -/
structure ExecutorSchedule where
  transfers : List RequestTransfer
  results : SampledUses → Int → StepResult := fun _ _ => {}

namespace StepOp

/-- The value an access finds. -/
def read (requests : CachedRequests) : StepOp → StepValue
  | getHiddenShape reqId => .num (hiddenTokenNum (requests reqId))
  | checkChunkMid reqId => .kind (requests reqId).forwardStepKind
  | buildSamplingRequest reqId _ => .num (requests reqId).samplingTokenNum
  | sample reqId => .tokens (requests reqId).forwardingTokens
  | updateGenerationState reqId => .kind (requests reqId).forwardStepKind
  | generateDraft reqId => .kind (requests reqId).forwardStepKind

/-- What the step makes of it. Sampling is skipped when all requests are middle chunks. -/
def use (requests : CachedRequests) (uses : StepUses) : StepOp → StepUses
  | getHiddenShape reqId =>
    { uses with hiddenTokens := uses.hiddenTokens + hiddenTokenNum (requests reqId) }
  | checkChunkMid reqId => { uses with kinds := uses.kinds ++ [(requests reqId).forwardStepKind] }
  | buildSamplingRequest reqId frozenOffset =>
    if uses.needSampling then
      { uses with
        samplingReqs := uses.samplingReqs ++
          [⟨reqId, (requests reqId).samplingTokenNum, frozenOffset⟩] }
    else uses
  | sample reqId =>
    if uses.needSampling then
      { uses with samplerTokens := uses.samplerTokens ++ [(requests reqId).forwardingTokens] }
    else uses
  | updateGenerationState reqId =>
    if isPrefillChunkMidStep (requests reqId).forwardStepKind then uses
    else { uses with genStateReqs := uses.genStateReqs ++ [reqId] }
  | generateDraft reqId =>
    if isPrefillChunkMidStep (requests reqId).forwardStepKind then uses
    else { uses with draftReqs := uses.draftReqs ++ [reqId] }

variable [DraftTokensApi]

/-- What the step leaves in the request. -/
def write (results : Int → StepResult) (requests : CachedRequests) : StepOp → CachedRequests
  | checkChunkMid reqId =>
    if isPrefillChunkMidStep (requests reqId).forwardStepKind then
      Function.update requests reqId
        { requests reqId with
          generatedTokens := []
          acceptedTokens := []
          draftTokens := DraftTokensApi.clear (requests reqId).draftTokens
          samplingResultTokens := [] }
    else requests
  | updateGenerationState reqId =>
    if isPrefillChunkMidStep (requests reqId).forwardStepKind then requests
    else
      Function.update requests reqId
        { requests reqId with
          generatedTokens := (results reqId).generatedTokens
          acceptedTokens := (results reqId).acceptedTokens }
  | generateDraft reqId =>
    if isPrefillChunkMidStep (requests reqId).forwardStepKind then requests
    else
      -- the drafts of this step are counted for the next one
      Function.update requests reqId
        { requests reqId with
          draftTokens := (results reqId).draftTokens
          samplingTokenNum := kStepGenerateTokenNum +
            DraftTokensApi.size (results reqId).draftTokens }
  | _ => requests

end StepOp

/-- A step after `BuildModelInput`: its copies, and the shared requests at that moment. -/
structure BuiltStep where
  reqIds : List Int
  frozenLogitsOffsets : List Nat
  forwardReqs : List ForwardRequest
  held : CachedRequests
  results : SampledUses → Int → StepResult

namespace BuiltStep

/-- The accesses of the step after it is built. -/
def ops (step : BuiltStep) : List StepOp :=
  step.reqIds.map .getHiddenShape ++ step.reqIds.map .checkChunkMid ++
    (step.reqIds.zip step.frozenLogitsOffsets).map (fun row => .buildSamplingRequest row.1 row.2) ++
    step.reqIds.map .sample ++ step.reqIds.map .updateGenerationState ++
    step.reqIds.map .generateDraft

/-- What accesses that find the requests as they were held make of them. -/
def usesAfter (step : BuiltStep) (ops : List StepOp) : StepUses :=
  ops.foldl (fun uses op => op.use step.held uses) {}

/-- Those of the requests that are not middle chunks. -/
def sampledAmong (requests : CachedRequests) (reqIds : List Int) : List Int :=
  reqIds.filter fun reqId => !isPrefillChunkMidStep (requests reqId).forwardStepKind

/-- What the step uses where every access finds these requests. -/
def usesOf (step : BuiltStep) (requests : CachedRequests) : StepUses where
  hiddenTokens := (step.reqIds.map fun reqId => hiddenTokenNum (requests reqId)).sum
  kinds := step.reqIds.map fun reqId => (requests reqId).forwardStepKind
  samplingReqs :=
    if sampledAmong requests step.reqIds = [] then []
    else (step.reqIds.zip step.frozenLogitsOffsets).map fun row =>
      ⟨row.1, (requests row.1).samplingTokenNum, row.2⟩
  samplerTokens :=
    if sampledAmong requests step.reqIds = [] then []
    else step.reqIds.map fun reqId => (requests reqId).forwardingTokens
  genStateReqs := sampledAmong requests step.reqIds
  draftReqs := sampledAmong requests step.reqIds

def sampledReqIds (step : BuiltStep) : List Int := sampledAmong step.held step.reqIds

/-- The values the step was built with. -/
def heldUses (step : BuiltStep) : StepUses := step.usesOf step.held

/-- The tokens reported for the requests of the step. -/
def reported (step : BuiltStep) (uses : StepUses) : List (Int × List Int) :=
  uses.genStateReqs.map fun reqId =>
    (reqId, (step.results uses.toSampledUses reqId).acceptedTokens ++
      (step.results uses.toSampledUses reqId).generatedTokens)

end BuiltStep

inductive PreprocessOp where
  | update (transfer : RequestTransfer)
  | build (schedule : ExecutorSchedule)

def ExecutorSchedule.preprocess (schedule : ExecutorSchedule) : List PreprocessOp :=
  schedule.transfers.map .update ++ [.build schedule]

/-- The rows are assigned and the steps advanced in place; the rest is copied. -/
def buildModelInput (requests : CachedRequests) (schedule : ExecutorSchedule) : BuiltStep :=
  let (batch, forwardReqs) := buildForwardRequests
    (reorderInferRequests (schedule.transfers.map fun transfer => requests transfer.reqId))
  { reqIds := batch.map fun req => req.reqId
    frozenLogitsOffsets := batch.map fun req => req.logitsOffset
    forwardReqs
    held := fun reqId => match batch.find? fun req => req.reqId == reqId with
      | some req => { requests reqId with logitsOffset := req.logitsOffset, step := req.step }
      | none => requests reqId
    results := schedule.results }

structure ExecutingStep where
  step : BuiltStep
  uses : StepUses
  todo : List StepOp

structure OverlapState where
  requests : CachedRequests
  preprocessing : List PreprocessOp
  built : List BuiltStep := []
  executing : Option ExecutingStep := none
  finished : List (BuiltStep × StepUses) := []

def OverlapState.start (requests : CachedRequests) (schedules : List ExecutorSchedule) :
    OverlapState where
  requests := requests
  preprocessing := schedules.flatMap ExecutorSchedule.preprocess

/-- The steps that are built and not finished, oldest first. -/
def OverlapState.inFlight (state : OverlapState) : List BuiltStep :=
  (state.executing.map ExecutingStep.step).toList ++ state.built

inductive Thread where
  | preprocess
  | execute
deriving Repr, DecidableEq

section Threads

variable [DraftTokensApi]

/-- The next action of a thread; one that has nothing to do cannot be chosen. A schedule is
launched only once the steps before it leave room. -/
def overlapStep (state : OverlapState) : Thread → Except String OverlapState
  | .preprocess =>
    if state.inFlight.length < kExecutorPipelineMaxDepth then
      match state.preprocessing with
      | [] => .error "no schedule"
      | .update transfer :: rest =>
        .ok { state with requests := transfer.apply state.requests, preprocessing := rest }
      | .build schedule :: rest =>
        let step := buildModelInput state.requests schedule
        .ok { state with
          requests := step.held
          preprocessing := rest
          built := state.built ++ [step] }
    else .error "no launch"
  | .execute => match state.executing with
    | none => match state.built with
      | [] => .error "no step"
      | step :: rest => .ok { state with built := rest, executing := some ⟨step, {}, step.ops⟩ }
    | some ⟨step, uses, []⟩ =>
      .ok { state with executing := none, finished := state.finished ++ [(step, uses)] }
    | some ⟨step, uses, op :: todo⟩ =>
      .ok { state with
        requests := op.write (step.results uses.toSampledUses) state.requests
        executing := some ⟨step, op.use state.requests uses, todo⟩ }

end Threads

/-- Every finished step has used the values it was built with, so that its report does not
depend on the other thread, and the executing one has used them so far. -/
def Isolated (state : OverlapState) : Prop :=
  (∀ step uses, (step, uses) ∈ state.finished →
    uses = step.heldUses ∧ step.reported uses = step.reported step.heldUses) ∧
  ∀ executing, state.executing = some executing →
    ∃ done, executing.step.ops = done ++ executing.todo ∧
      executing.uses = executing.step.usesAfter done

section Alone

variable (held : CachedRequests) (uses : StepUses) (reqIds : List Int)

theorem uses_getHiddenShape :
    (reqIds.map StepOp.getHiddenShape).foldl (fun uses op => op.use held uses) uses =
      { uses with
        hiddenTokens := uses.hiddenTokens +
          (reqIds.map fun reqId => hiddenTokenNum (held reqId)).sum } := by
  induction reqIds generalizing uses with
  | nil => rfl
  | cons reqId reqIds ih =>
    rw [List.map_cons, List.foldl_cons, ih, StepOp.use, List.map_cons, List.sum_cons,
      Nat.add_assoc]

theorem uses_checkChunkMid :
    (reqIds.map StepOp.checkChunkMid).foldl (fun uses op => op.use held uses) uses =
      { uses with
        kinds := uses.kinds ++ reqIds.map fun reqId => (held reqId).forwardStepKind } := by
  induction reqIds generalizing uses with
  | nil => simp
  | cons reqId reqIds ih =>
    rw [List.map_cons, List.foldl_cons, ih, StepOp.use]
    simp

theorem uses_buildSamplingRequest (rows : List (Int × Nat)) (hneed : uses.needSampling = true) :
    (rows.map fun row => StepOp.buildSamplingRequest row.1 row.2).foldl
        (fun uses op => op.use held uses) uses =
      { uses with
        samplingReqs := uses.samplingReqs ++ rows.map fun row =>
          ⟨row.1, (held row.1).samplingTokenNum, row.2⟩ } := by
  induction rows generalizing uses with
  | nil => simp
  | cons row rows ih =>
    rw [List.map_cons, List.foldl_cons, StepOp.use, if_pos hneed]
    refine Eq.trans (ih _ ?_) ?_
    · exact hneed
    · simp

theorem uses_sample (hneed : uses.needSampling = true) :
    (reqIds.map StepOp.sample).foldl (fun uses op => op.use held uses) uses =
      { uses with
        samplerTokens := uses.samplerTokens ++
          reqIds.map fun reqId => (held reqId).forwardingTokens } := by
  induction reqIds generalizing uses with
  | nil => simp
  | cons reqId reqIds ih =>
    rw [List.map_cons, List.foldl_cons, StepOp.use, if_pos hneed]
    refine Eq.trans (ih _ ?_) ?_
    · exact hneed
    · simp

/-- Without a request to sample, the accesses of the sampler do not happen. -/
theorem uses_of_no_sampling (ops : List StepOp) (hneed : uses.needSampling = false)
    (hops : ∀ op ∈ ops, (∃ reqId frozenOffset, op = .buildSamplingRequest reqId frozenOffset) ∨
      ∃ reqId, op = .sample reqId) :
    ops.foldl (fun uses op => op.use held uses) uses = uses := by
  induction ops with
  | nil => rfl
  | cons op ops ih =>
    have hskip : op.use held uses = uses := by
      rcases hops op List.mem_cons_self with ⟨reqId, frozenOffset, rfl⟩ | ⟨reqId, rfl⟩
      · simp [StepOp.use, hneed]
      · simp [StepOp.use, hneed]
    rw [List.foldl_cons, hskip]
    exact ih fun later hlater => hops later (List.mem_cons_of_mem op hlater)

theorem uses_sampling (rows : List (Int × Nat)) :
    (reqIds.map StepOp.sample).foldl (fun uses op => op.use held uses)
        ((rows.map fun row => StepOp.buildSamplingRequest row.1 row.2).foldl
          (fun uses op => op.use held uses) uses) =
      if uses.needSampling then
        { uses with
          samplingReqs := uses.samplingReqs ++ rows.map fun row =>
            ⟨row.1, (held row.1).samplingTokenNum, row.2⟩
          samplerTokens := uses.samplerTokens ++
            reqIds.map fun reqId => (held reqId).forwardingTokens }
      else uses := by
  cases hneed : uses.needSampling with
  | true =>
    rw [uses_buildSamplingRequest held uses rows hneed, if_pos rfl]
    exact uses_sample held _ reqIds hneed
  | false =>
    rw [uses_of_no_sampling held uses _ hneed, uses_of_no_sampling held uses _ hneed]
    · rfl
    · intro op hop
      obtain ⟨reqId, -, rfl⟩ := List.mem_map.mp hop
      exact Or.inr ⟨reqId, rfl⟩
    · intro op hop
      obtain ⟨row, -, rfl⟩ := List.mem_map.mp hop
      exact Or.inl ⟨row.1, row.2, rfl⟩

theorem uses_updateGenerationState :
    (reqIds.map StepOp.updateGenerationState).foldl (fun uses op => op.use held uses) uses =
      { uses with
        genStateReqs := uses.genStateReqs ++
          reqIds.filter fun reqId => !isPrefillChunkMidStep (held reqId).forwardStepKind } := by
  induction reqIds generalizing uses with
  | nil => simp
  | cons reqId reqIds ih =>
    rw [List.map_cons, List.foldl_cons, ih, StepOp.use]
    by_cases hmid : isPrefillChunkMidStep (held reqId).forwardStepKind = true
    · simp [hmid]
    · simp [hmid]

theorem uses_generateDraft :
    (reqIds.map StepOp.generateDraft).foldl (fun uses op => op.use held uses) uses =
      { uses with
        draftReqs := uses.draftReqs ++
          reqIds.filter fun reqId => !isPrefillChunkMidStep (held reqId).forwardStepKind } := by
  induction reqIds generalizing uses with
  | nil => simp
  | cons reqId reqIds ih =>
    rw [List.map_cons, List.foldl_cons, ih, StepOp.use]
    by_cases hmid : isPrefillChunkMidStep (held reqId).forwardStepKind = true
    · simp [hmid]
    · simp [hmid]

end Alone

theorem BuiltStep.use_ops (step : BuiltStep) (requests : CachedRequests) :
    step.ops.foldl (fun uses op => op.use requests uses) {} = step.usesOf requests := by
  have hneed : ∀ uses : StepUses,
      uses.kinds = (step.reqIds.map fun reqId => (requests reqId).forwardStepKind) →
      uses.needSampling = !decide (sampledAmong requests step.reqIds = []) := by
    intro uses hkinds
    rw [Bool.eq_iff_iff, StepUses.needSampling, hkinds, sampledAmong]
    simp
  rw [ops, List.foldl_append, List.foldl_append, List.foldl_append, List.foldl_append,
    List.foldl_append, uses_getHiddenShape, uses_checkChunkMid, uses_sampling, hneed _ (by simp),
    uses_updateGenerationState, uses_generateDraft]
  have hfilter : (step.reqIds.filter fun reqId =>
      !isPrefillChunkMidStep (requests reqId).forwardStepKind) =
        sampledAmong requests step.reqIds := rfl
  rw [hfilter]
  by_cases hnone : sampledAmong requests step.reqIds = []
  · simp [hnone, usesOf]
  · simp [hnone, usesOf]

/-- A step whose accesses all find the requests as they were held uses the held values. -/
theorem BuiltStep.usesAfter_ops (step : BuiltStep) :
    step.usesAfter step.ops = step.heldUses := step.use_ops step.held

/-- Requests that agree in what a step reads give the same values to every access. -/
theorem StepOp.read_congr {before after : CachedRequests} {op : StepOp}
    (hhidden : ∀ reqId, hiddenTokenNum (after reqId) = hiddenTokenNum (before reqId))
    (hkind : ∀ reqId, (after reqId).forwardStepKind = (before reqId).forwardStepKind)
    (htokens : ∀ reqId, (after reqId).forwardingTokens = (before reqId).forwardingTokens)
    (hsampling : ∀ reqId frozenOffset, op = .buildSamplingRequest reqId frozenOffset →
      (after reqId).samplingTokenNum = (before reqId).samplingTokenNum) :
    op.read after = op.read before := by
  cases op with
  | getHiddenShape reqId => rw [read, read, hhidden]
  | checkChunkMid reqId => rw [read, read, hkind]
  | buildSamplingRequest reqId frozenOffset => rw [read, read, hsampling reqId frozenOffset rfl]
  | sample reqId => rw [read, read, htokens]
  | updateGenerationState reqId => rw [read, read, hkind]
  | generateDraft reqId => rw [read, read, hkind]

theorem StepOp.use_congr {before after : CachedRequests} {op : StepOp} (uses : StepUses)
    (h : op.read after = op.read before) : op.use after uses = op.use before uses := by
  cases op with
  | getHiddenShape reqId => rw [use, use, StepValue.num.inj h]
  | checkChunkMid reqId => rw [use, use, StepValue.kind.inj h]
  | buildSamplingRequest reqId frozenOffset => rw [use, use, StepValue.num.inj h]
  | sample reqId => rw [use, use, StepValue.tokens.inj h]
  | updateGenerationState reqId => rw [use, use, StepValue.kind.inj h]
  | generateDraft reqId => rw [use, use, StepValue.kind.inj h]

/-- A property of one request carries over to all when only that one is written. -/
theorem forall_update {α : Type} {requests : CachedRequests} {reqId : Int}
    {req : ExecutorInferRequest} (f : ExecutorInferRequest → α) (h : f req = f (requests reqId))
    (other : Int) : f (Function.update requests reqId req other) = f (requests other) := by
  by_cases hother : other = reqId
  · rw [hother, Function.update_self, h]
  · rw [Function.update_of_ne hother]

theorem buildModelInput_read (requests : CachedRequests) (schedule : ExecutorSchedule)
    (op : StepOp) : op.read (buildModelInput requests schedule).held = op.read requests := by
  have hkept : ∀ {α : Type} (f : ExecutorInferRequest → α),
      (∀ req offset step, f { req with logitsOffset := offset, step := step } = f req) →
      ∀ reqId, f ((buildModelInput requests schedule).held reqId) = f (requests reqId) := by
    intro α f hf reqId
    simp only [buildModelInput]
    split
    · exact hf _ _ _
    · rfl
  exact StepOp.read_congr (hkept _ fun _ _ _ => rfl) (hkept _ fun _ _ _ => rfl)
    (hkept _ fun _ _ _ => rfl) fun reqId _ _ => hkept _ (fun _ _ _ => rfl) reqId

section Writes

variable [DraftTokensApi]

/-- Only the draft count is read again, and only where sampling requests are built. -/
theorem StepOp.write_read (op later : StepOp) (results : Int → StepResult)
    (requests : CachedRequests)
    (horder : (∃ reqId, op = .generateDraft reqId) →
      ∀ reqId frozenOffset, later ≠ .buildSamplingRequest reqId frozenOffset) :
    later.read (op.write results requests) = later.read requests := by
  cases op with
  | getHiddenShape reqId => rfl
  | buildSamplingRequest reqId frozenOffset => rfl
  | sample reqId => rfl
  | checkChunkMid reqId =>
    rw [write]
    split
    · exact read_congr (forall_update _ rfl) (forall_update _ rfl) (forall_update _ rfl)
        fun other _ _ => forall_update (fun req => req.samplingTokenNum) (by rfl) other
    · rfl
  | updateGenerationState reqId =>
    rw [write]
    split
    · rfl
    · exact read_congr (forall_update _ rfl) (forall_update _ rfl) (forall_update _ rfl)
        fun other _ _ => forall_update (fun req => req.samplingTokenNum) (by rfl) other
  | generateDraft reqId =>
    rw [write]
    split
    · rfl
    · exact read_congr (forall_update _ rfl) (forall_update _ rfl) (forall_update _ rfl)
        fun other frozenOffset hsampling =>
          absurd hsampling (horder ⟨reqId, rfl⟩ other frozenOffset)

theorem BuiltStep.ops_pairwise (step : BuiltStep) : step.ops.Pairwise fun op later =>
    ∀ results requests, later.read (op.write results requests) = later.read requests := by
  have hearly : ∀ op ∈ step.reqIds.map StepOp.getHiddenShape ++
      step.reqIds.map StepOp.checkChunkMid ++
      (step.reqIds.zip step.frozenLogitsOffsets).map
        (fun row => StepOp.buildSamplingRequest row.1 row.2) ++
      step.reqIds.map StepOp.sample ++ step.reqIds.map StepOp.updateGenerationState,
      ¬ ∃ reqId, op = .generateDraft reqId := by
    rintro op hop ⟨reqId, rfl⟩
    simp at hop
  rw [ops, List.pairwise_append]
  refine ⟨List.pairwise_of_forall_mem_list fun op hop later _ results requests =>
      StepOp.write_read op later results requests fun h => absurd h (hearly op hop),
    List.pairwise_of_forall_mem_list fun op _ later hlater results requests =>
      StepOp.write_read op later results requests fun _ reqId frozenOffset heq => ?_,
    fun op hop later _ results requests =>
      StepOp.write_read op later results requests fun h => absurd h (hearly op hop)⟩
  rw [heq] at hlater
  simp at hlater

end Writes

end KsanaBuildAhead.Executor
