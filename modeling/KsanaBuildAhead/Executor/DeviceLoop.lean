import KsanaBuildAhead.Executor.ClosedLoop
import KsanaBuildAhead.Executor.DoubleBuffer
import KsanaBuildAhead.Executor.RankGroup

/-!
# The loop over the device ring

The Engine launches every step with a placeholder behind the tokens it knows, the group fills it
from the ring of the step before, and what the step returns retires the placeholder. In batches
whose requests sample one token each, every rank has computed the prompt and what the model says
behind it, and the Engine holds the same.
-/
namespace KsanaBuildAhead.Executor

open KsanaBuildAhead.Runtime KsanaBuildAhead.Engine KsanaBuildAhead.Lib.ListEdit
  KsanaBuildAhead.Lib.SpeculativeDecoding

section Launch

variable [DraftTokensApi]

/-- The Engine's request with a step in flight and nothing planned behind it. -/
structure AheadReady (tokens : List Int) (req : InferRequest) : Prop extends DecodeReady req where
  forwarding : req.forwardingTokens = tokens
  generated : req.generatedTokens = []
  inflight : req.inflightTasks ≠ []
  noTask : req.planningTask = {}
  localKv : req.pdV2.kvFromRemote = false

/-- What is launched behind the tokens: one placeholder, and nothing else is computed. -/
structure LaunchedSingle (tokens : List Int) (launched : InferRequest) : Prop where
  forwarding : launched.forwardingTokens = tokens ++ [kFastPathPlaceholderTokenId]
  kvCached : launched.kvCachedTokenNum = tokens.length
  prefixCache : launched.prefixCacheLen = tokens.length
  sampling : launched.samplingTokenNum = 1
  kind : launched.forwardStepKind = .decode

theorem AheadReady.launched {tokens : List Int} {req launched : InferRequest}
    (hreq : AheadReady tokens req) (h : launchAhead req 0 = .ok launched) :
    LaunchedSingle tokens launched := by
  rw [launchAhead_eq hreq.toDecodeReady hreq.noTask hreq.inflight] at h
  have hlocal : (planDecode req (aheadWorkload req 0)).pdV2.kvFromRemote = false := hreq.localKv
  have hprefix := launch_prefixCacheLen hlocal h
  obtain ⟨-, -, -, hcase⟩ := InferRequest.launchPlanningTask_cases h
  cases hcase with
  | chunk kv cacheLen hprefill =>
    exact absurd (show 0 < req.planningWorkload.prefillTokenNum from hprefill)
      (by rw [hreq.planning]; exact Nat.lt_irrefl 0)
  | block kv cacheLen hdecode hplaceholder hcached =>
    have hkv : kv = tokens.length := by
      rw [← hreq.forwarding]
      exact hcached (Or.inl hreq.localKv)
    have hforwarding : req.forwardingTokens = tokens := hreq.forwarding
    refine ⟨?_, hkv, hprefix.trans (congrArg Nat.cast hkv), rfl, rfl⟩
    show req.forwardingTokens ++ _ = _
    rw [hforwarding]
    rfl
  | real kv cacheLen hdecode hreal => exact absurd ⟨rfl, rfl, hreq.generated⟩ hreal

end Launch

/-- The group after a step, the Engine's request with that step in flight, and what the step
returned. -/
structure DeviceLoopState (sampler : Sampler) where
  device : Nat → DeviceRank sampler
  engine : InferRequest
  token : UInt32

def generatedResult (token : UInt32) : StepResult where
  generatedTokens := [ringToken token]

section Loop

variable [DraftTokensApi] {sampler : Sampler} (model : TokenModel) (tpSize joined : Nat)

/-- The `k`-th step of the request, which joins the pipeline at step `joined`. -/
def deviceLoop (req : InferRequest) (start : Nat → DeviceRank sampler)
    (around : Nat → RingSurroundings) : Nat → Except String (DeviceLoopState sampler)
  | 0 => do
    let (device, token) ←
      deviceStep model tpSize (slotOf joined) start (around 0) (around 0).cached
    .ok { device := device, engine := req, token := token }
  | k + 1 => do
    let s ← deviceLoop req start around k
    let launched ← launchAhead s.engine 0
    let (device, token) ← deviceStep model tpSize (slotOf (joined + k + 1)) s.device
      (around (k + 1)) ((around (k + 1)).patched launched)
    let retired ← retire launched (generatedResult s.token)
    .ok { device := device, engine := retired, token := token }

/-- The slow path on one device: every step is launched with its real token and computes it
behind its cache. -/
def slowDeviceLoop (fastPath : Bool) (req : InferRequest) (kvCache : List Int) :
    Nat → Except String (List Int × InferRequest)
  | 0 => do
    let kvCache := kvCache ++ forwardedTokens req
    let retired ← retire req (generatedResult (model.next kvCache))
    .ok (kvCache, retired)
  | k + 1 => do
    let (kvCache, req) ← slowDeviceLoop fastPath req kvCache k
    let launched ← launchSlow fastPath req 0
    let kvCache := kvCache.take launched.kvCachedTokenNum ++ forwardedTokens launched
    let retired ← retire launched (generatedResult (model.next kvCache))
    .ok (kvCache, retired)

end Loop

/-- The others of the batch compute something and sample one token each, there is room for the
request beside them, and the Engine and the Executor mean the same one. -/
structure RingSurroundings.Hosts (around : RingSurroundings) (sampler : Sampler) (reqId : Int) :
    Prop where
  ids : (reqId :: around.others.map fun req => req.reqId).Nodup
  room : around.others.length < sampler.maxBatchSize
  input : ∀ req ∈ around.others, 0 < getInputIdsLen req
  one : ∀ req ∈ around.others, req.samplingTokenNum = 1
  args : ∀ req ∈ around.cached :: around.others, sampler.verifyArgs req.samplingConfig = true
  cached : around.cached.reqId = reqId
  plain : around.cached.logitsCustomLength = 0
  noFlexible : around.cached.flexibleCachedCopyTaskNum = 0

/-- At its first step the request computes what the caches do not hold of its prompt. -/
structure DeviceStart {sampler : Sampler} (tpSize : Nat) (prompt : List Int)
    (start : Nat → DeviceRank sampler) (cached : ExecutorInferRequest) : Prop where
  vocab : ∀ token ∈ prompt, 0 ≤ token
  forwarding : cached.forwardingTokens = prompt
  rest : skipTokenNum cached < prompt.length
  sampling : cached.samplingTokenNum = 1
  kind : isPrefillChunkMidStep cached.forwardStepKind = false
  caches : ∀ rank < tpSize,
    (start rank).kvCache.take (skipTokenNum cached) = prompt.take (skipTokenNum cached)

theorem RingSurroundings.Hosts.oneEach {sampler : Sampler} {around : RingSurroundings} {reqId : Int}
    (h : around.Hosts sampler reqId) {received : ExecutorInferRequest}
    (hid : received.reqId = reqId) (hinput : 0 < getInputIdsLen received)
    (hone : received.samplingTokenNum = 1)
    (hargs : received.samplingConfig = around.cached.samplingConfig)
    (hplain : received.logitsCustomLength = 0)
    (hkind : isPrefillChunkMidStep received.forwardStepKind = false) :
    SamplesOneEach sampler (received :: around.others) where
  ids := by
    rw [List.map_cons, hid]
    exact h.ids
  room := h.room
  input := List.forall_mem_cons.mpr ⟨hinput, h.input⟩
  one := List.forall_mem_cons.mpr ⟨hone, h.one⟩
  args := by
    obtain ⟨hown, hothers⟩ := List.forall_mem_cons.mp h.args
    exact List.forall_mem_cons.mpr ⟨by rw [hargs]; exact hown, hothers⟩
  sampled := ⟨received, List.mem_cons_self, hkind⟩
  plain := ⟨received, List.mem_cons_self, hplain⟩

/-- What the model returns for step `k`, one token and no drafts. -/
def tokenOutcomes (model : TokenModel) (prompt : List Int) (k : Nat) : StepOutcome where
  bonus := ⟨model.token (prompt ++ continuation model.token prompt k), Int.natCast_nonneg _⟩

section Run

variable [DraftTokensApi] {sampler : Sampler} {model : TokenModel} {tpSize joined : Nat}
  {prompt : List Int} {req : InferRequest} {start : Nat → DeviceRank sampler}
  {around : Nat → RingSurroundings}

omit [DraftTokensApi] in
theorem settled_tokenOutcomes (k : Nat) :
    settled prompt (tokenOutcomes model prompt) k =
      prompt ++ continuation model.token prompt k := by
  induction k with
  | zero => exact (List.append_nil prompt).symm
  | succ k ih =>
    rw [settled, ih, continuation_add, ← List.append_assoc]
    rfl

/-- The Engine's request with step `k` in flight holds the tokens of the steps before it. -/
theorem EngineAt.aheadReady {k : Nat} {engine : InferRequest} (hreq : PipelineStart prompt req)
    (hengine : EngineAt req (tokenOutcomes model prompt) (fun _ => 0) engine k)
    (hstop : ∀ j < k, (tokenOutcomes model prompt j).bonus.val ∉ req.samplingConfig.stopTokenIds) :
    AheadReady (prompt ++ continuation model.token prompt k) engine := by
  cases k with
  | zero =>
    obtain rfl : engine = req := hengine
    exact { hreq.toDecodeReady with
      forwarding := hreq.forwarding.trans (List.append_nil prompt).symm
      generated := hreq.generated
      inflight := inflight_ne_nil hreq.inflight
      noTask := hreq.noTask
      localKv := hreq.localKv }
  | succ k =>
    obtain ⟨retired, hretired, hfilled, -, hpayload, hnoTask⟩ := steadyPipeline_filled hreq
      (tokenOutcomes model prompt) (fun _ => 0) (fun _ => Nat.le_refl 0) k
      fun j hj => hstop j (by omega)
    obtain rfl : retired = engine := Except.ok.inj (hretired.symm.trans hengine)
    refine { hfilled.toDecodeReady with
      forwarding := ?_
      generated := hfilled.generated
      inflight := inflight_ne_nil hfilled.inflight
      noTask := hnoTask
      localKv := by rw [hpayload]; exact hreq.localKv }
    rw [hfilled.forwarding, settled_tokenOutcomes, continuation_add, ← List.append_assoc]
    simp [resize, tokenOutcomes, continuation]

/-- After step `k` every rank has computed the tokens before it, and holds the token behind
them in its ring; the Engine has step `k` in flight. -/
structure DeviceFollows (model : TokenModel) (tpSize joined : Nat) (prompt : List Int)
    (req : InferRequest) (k : Nat) (s : DeviceLoopState sampler) : Prop where
  caches : ∀ rank < tpSize,
    (s.device rank).kvCache = prompt ++ continuation model.token prompt k
  rings : ∀ rank < tpSize, ((s.device rank).slots (slotOf (joined + k))).ring.tokenOf req.reqId =
    some (model.token (prompt ++ continuation model.token prompt k))
  engine : EngineAt req (tokenOutcomes model prompt) (fun _ => 0) s.engine k
  token : s.token = model.next (prompt ++ continuation model.token prompt k)

variable (hreq : PipelineStart prompt req) (hrows : 0 < sampler.maxDecodeTokensPerReq)
  (htp : 0 < tpSize) (hstart : DeviceStart tpSize prompt start (around 0).cached)
  (hhosts : ∀ k, (around k).Hosts sampler req.reqId)
include hrows htp hhosts

include hstart in
theorem deviceLoop_zero :
    ∃ s, deviceLoop model tpSize joined req start around 0 = .ok s ∧
      DeviceFollows model tpSize joined prompt req 0 s := by
  have hid := (hhosts 0).cached
  have hdrop : (around 0).cached.forwardingTokens.drop (skipTokenNum (around 0).cached) =
      prompt.drop (skipTokenNum (around 0).cached) := by rw [hstart.forwarding]
  have hone := (hhosts 0).oneEach hid
    (by
      have hrest := hstart.rest
      rw [getInputIdsLen, hstart.forwarding]
      rw [skipTokenNum] at hrest
      exact Nat.sub_pos_of_lt hrest)
    hstart.sampling rfl (hhosts 0).plain hstart.kind
  obtain ⟨next, hstep, hranks⟩ := deviceStep_ok model hrows hone htp (slotOf joined) start prompt
    fun rank hrank => by
      rw [forwardRanks]
      dsimp only
      rw [(RingSurroundings.batchOn_oneEach hone rank).query_tokens
        ((around 0).mem_batchOn _ rank) _ _ fun token hmem =>
          hstart.vocab token (List.mem_of_mem_drop (hdrop ▸ hmem)),
        hstart.caches rank hrank, hdrop, List.take_append_drop]
  have hcontext : prompt ++ continuation model.token prompt 0 = prompt := List.append_nil prompt
  refine ⟨⟨next, req, model.next prompt⟩, ?_, ?_, ?_, rfl, ?_⟩
  · rw [deviceLoop, hstep]
    rfl
  · rw [hcontext]
    exact fun rank hrank => (hranks rank hrank).1
  · rw [hcontext, ← hid]
    exact fun rank hrank => (hranks rank hrank).2
  · rw [hcontext]

omit hrows htp hhosts in
theorem steadyPipeline_eq {outcome : Nat → StepOutcome} {reserved : Nat → Nat} (k : Nat) :
    steadyPipeline req outcome reserved k =
      launchedStep req outcome reserved k >>= (retire · (outcome k).result) := by
  cases k with
  | zero => rfl
  | succ k =>
    rw [steadyPipeline, launchedStep]
    cases steadyPipeline req outcome reserved k <;> rfl

omit [DraftTokensApi] hrows htp in
/-- The placeholder is the only token of the request that is not cached. -/
theorem patched_single {k : Nat} {tokens : List Int} {launched : InferRequest}
    (hlaunched : LaunchedSingle tokens launched) :
    skipTokenNum ((around k).patched launched) = tokens.length ∧
      ((around k).patched launched).forwardingTokens.drop tokens.length =
        [kFastPathPlaceholderTokenId] ∧
      SamplesOneEach sampler ((around k).patched launched :: (around k).others) := by
  have hskip : skipTokenNum ((around k).patched launched) = tokens.length := by
    show max launched.kvCachedTokenNum (launched.prefixCacheLen.toNat +
      (around k).cached.flexibleCachedCopyTaskNum) = _
    rw [hlaunched.kvCached, hlaunched.prefixCache, (hhosts k).noFlexible, Nat.add_zero,
      Int.toNat_natCast, max_self]
  have hforwarding : ((around k).patched launched).forwardingTokens =
      tokens ++ [kFastPathPlaceholderTokenId] := hlaunched.forwarding
  refine ⟨hskip, by rw [hforwarding, List.drop_left], ?_⟩
  refine (hhosts k).oneEach (hhosts k).cached ?_ hlaunched.sampling rfl (hhosts k).plain ?_
  · rw [getInputIdsLen, hforwarding, List.length_append, List.length_singleton]
    rw [skipTokenNum] at hskip
    omega
  · show isPrefillChunkMidStep launched.forwardStepKind = false
    rw [hlaunched.kind]
    rfl

include hreq in
/-- A later step fills its placeholder with the token of the step before. -/
theorem deviceLoop_succ {k : Nat} {s : DeviceLoopState sampler}
    (hrun : deviceLoop model tpSize joined req start around k = .ok s)
    (hs : DeviceFollows model tpSize joined prompt req k s)
    (hstop : ∀ j < k, (tokenOutcomes model prompt j).bonus.val ∉ req.samplingConfig.stopTokenIds) :
    ∃ t, deviceLoop model tpSize joined req start around (k + 1) = .ok t ∧
      DeviceFollows model tpSize joined prompt req (k + 1) t := by
  obtain ⟨retired, hretired, -⟩ := steadyPipeline_filled hreq (tokenOutcomes model prompt)
    (fun _ => 0) (fun _ => Nat.le_refl 0) k hstop
  obtain ⟨launched, hlaunch, hretire⟩ := bind_ok ((steadyPipeline_eq k).symm.trans hretired)
  rw [hs.engine.launchedStep] at hlaunch
  have hlaunched := (hs.engine.aheadReady hreq hstop).launched hlaunch
  obtain ⟨hskip, hblock, hone⟩ := patched_single hhosts (k := k + 1) hlaunched
  have hid : ((around (k + 1)).patched launched).reqId = req.reqId := (hhosts (k + 1)).cached
  have hcast : castInt32 (model.token (prompt ++ continuation model.token prompt k)) =
      model.token (prompt ++ continuation model.token prompt k) :=
    castInt32_eq (Int.natCast_nonneg _) (by
      have hvocab := model.vocab (prompt ++ continuation model.token prompt k)
      rw [TokenModel.token, ringToken]
      omega)
  have hnext : prompt ++ continuation model.token prompt (k + 1) =
      (prompt ++ continuation model.token prompt k) ++
        [model.token (prompt ++ continuation model.token prompt k)] := by
    rw [continuation_add, ← List.append_assoc]
    rfl
  obtain ⟨next, hstep, hranks⟩ := deviceStep_ok model hrows hone htp (slotOf (joined + k + 1))
    s.device (prompt ++ continuation model.token prompt (k + 1)) fun rank hrank => by
      have hring := hs.rings rank hrank
      rw [← slotOf_xor, ← hid] at hring
      rw [forwardRanks]
      dsimp only
      rw [(RingSurroundings.batchOn_oneEach hone rank).query_placeholder
          ((around (k + 1)).mem_batchOn _ rank) _ (by rw [hskip]; exact hblock) hring,
        hs.caches rank hrank, hskip, List.take_length, hcast, hnext]
  have hresult : generatedResult s.token = (tokenOutcomes model prompt k).result := by
    rw [hs.token]
    rfl
  refine ⟨⟨next, retired, _⟩, ?_, fun rank hrank => (hranks rank hrank).1, ?_, hretired, rfl⟩
  · rw [deviceLoop, hrun]
    simp only [bind, Except.bind, hlaunch, hstep, hresult, hretire]
  · rw [← hid]
    exact fun rank hrank => (hranks rank hrank).2

include hreq hstart in
theorem deviceLoop_follows (joined k : Nat)
    (hstop : ∀ j < k, (tokenOutcomes model prompt j).bonus.val ∉ req.samplingConfig.stopTokenIds) :
    ∃ s, deviceLoop model tpSize joined req start around k = .ok s ∧
      DeviceFollows model tpSize joined prompt req k s := by
  induction k with
  | zero => exact deviceLoop_zero hrows htp hstart hhosts
  | succ k ih =>
    obtain ⟨s, hrun, hs⟩ := ih fun j hj => hstop j (by omega)
    exact deviceLoop_succ hreq hrows htp hhosts hrun hs fun j hj => hstop j (by omega)

omit [DraftTokensApi] hrows htp hhosts in
theorem committed_tokenOutcomes (k : Nat) :
    settled prompt (tokenOutcomes model prompt) k ++ [(tokenOutcomes model prompt k).bonus.val] =
      prompt ++ continuation model.token prompt (k + 1) := by
  rw [settled_tokenOutcomes, continuation_add, ← List.append_assoc]
  rfl

omit hrows htp hhosts in
/-- A drained request is launched with its last token, which is all that is computed. -/
theorem Drained.launched_forwards {fastPath : Bool} {tokens : List Int} {token : VocabId}
    {drafts : DraftTokens} {drained launched : InferRequest}
    (hdrained : Drained tokens token drafts drained) (hnoTask : drained.planningTask = {})
    (hlocal : drained.pdV2.kvFromRemote = false)
    (h : launchSlow fastPath drained 0 = .ok launched) :
    launched.kvCachedTokenNum = tokens.length ∧ forwardedTokens launched = [token.val] := by
  rw [launchSlow_eq fastPath hdrained.toDecodeReady hnoTask] at h
  obtain ⟨other, hother, -, halone⟩ := (hdrained.plan { generatedTokenNum := kStepGenerateTokenNum
                                                        draftTokenNum := 0 } rfl rfl).launch
    fastPath rfl
  obtain rfl : other = launched := Except.ok.inj (hother.symm.trans h)
  have hplanned : (planDecode drained { generatedTokenNum := kStepGenerateTokenNum
                                        draftTokenNum := 0 }).pdV2.kvFromRemote = false := hlocal
  refine ⟨halone.kvCached, ?_⟩
  rw [forwardedTokens, launch_prefixCacheLen hplanned hother, halone.kvCached, Int.toNat_natCast,
    max_self, halone.forwarding, List.append_assoc, List.drop_left]
  simp [planDecode]

include hreq in
omit hrows htp hhosts in
theorem slowDeviceLoop_follows (fastPath : Bool) {kvCache : List Int}
    (hcache : kvCache ++ forwardedTokens req = prompt) (k : Nat)
    (hstop : ∀ j ≤ k, (tokenOutcomes model prompt j).bonus.val ∉ req.samplingConfig.stopTokenIds) :
    ∃ slow, slowDeviceLoop model fastPath req kvCache k =
        .ok (prompt ++ continuation model.token prompt k, slow) ∧
      slowPipeline fastPath req (tokenOutcomes model prompt) (fun _ => 0) k = .ok slow := by
  have hpipeline := fun n (hn : n ≤ k) => slowPipeline_drained fastPath hreq
    (tokenOutcomes model prompt) (fun _ => 0) rfl n (fun j hj => hstop j (by omega))
    fun _ _ => by rw [List.take_zero]; exact List.prefix_refl _
  induction k with
  | zero =>
    obtain ⟨slow, hslow, -⟩ := hpipeline 0 (Nat.le_refl 0)
    have hretire : retire req (generatedResult (model.next prompt)) = .ok slow := by
      rw [← hslow, slowPipeline]
      simp [generatedResult, StepOutcome.result, tokenOutcomes, continuation, TokenModel.token]
    refine ⟨slow, ?_, hslow⟩
    rw [slowDeviceLoop, hcache]
    simp only [bind, Except.bind, hretire, continuation, List.append_nil]
  | succ k ih =>
    obtain ⟨before, hbefore, hpipelineBefore⟩ := ih (fun j hj => hstop j (by omega))
      fun n hn => hpipeline n (by omega)
    obtain ⟨drained, hdrainedRun, hdrained, hpayload, hnoTask⟩ := hpipeline k (by omega)
    obtain rfl : drained = before := Except.ok.inj (hdrainedRun.symm.trans hpipelineBefore)
    obtain ⟨slow, hslow, -⟩ := hpipeline (k + 1) (Nat.le_refl _)
    have hround := hslow
    rw [slowPipeline, hpipelineBefore] at hround
    obtain ⟨launched, hlaunch, hretire⟩ := bind_ok (show (launchSlow fastPath drained 0 >>= _) = _
      from hround)
    obtain ⟨hkv, hforwarded⟩ := Drained.launched_forwards hdrained hnoTask
      (by rw [hpayload]; exact hreq.localKv) hlaunch
    have hnext : (prompt ++ continuation model.token prompt k).take launched.kvCachedTokenNum ++
        forwardedTokens launched = prompt ++ continuation model.token prompt (k + 1) := by
      rw [hkv, settled_tokenOutcomes, List.take_length, hforwarded, ← settled_tokenOutcomes,
        committed_tokenOutcomes]
    have hresult : generatedResult (model.next (prompt ++ continuation model.token prompt (k + 1))) =
        (tokenOutcomes model prompt (k + 1)).result := rfl
    refine ⟨slow, ?_, hslow⟩
    rw [slowDeviceLoop, hbefore]
    simp only [bind, Except.bind, hlaunch, hnext, hresult, hretire]

end Run

/-- The next token is the length of the context, within a small vocabulary. -/
def tokenModelSample : TokenModel where
  next := fun context => UInt32.ofNat (context.length % 100)
  vocab := fun context => by
    rw [UInt32.toNat_ofNat']
    omega

/-- Another decode step is in the batch, which reaches the second rank in the other order. -/
def ringSurroundingsSample : RingSurroundings where
  others := [{ reqId := 8, forwardingTokens := [1, 2, -1], kvCachedTokenNum := 2 }]
  arrival := fun rank reqs => if rank = 0 then reqs else reqs.reverse
  arrives := fun rank reqs => by
    split
    · exact List.Perm.refl _
    · exact List.reverse_perm _
  sampledAt := fun _ => 5
  cached := { reqId := 7, forwardingTokens := [11, 12] }
  live := lastChunkSample

def deviceStartSample (_ : Nat) : DeviceRank samplerSample where
  slots := fun _ => staleSlot samplerSample
  kvCache := []

end KsanaBuildAhead.Executor
