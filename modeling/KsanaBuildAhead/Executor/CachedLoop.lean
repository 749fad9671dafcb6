import KsanaBuildAhead.Executor.ClosedLoop
import KsanaBuildAhead.Executor.LogitsRows
import KsanaBuildAhead.Executor.RankGroup
import KsanaBuildAhead.Lib.CacheMemory

/-!
# The loop over the cache blocks

A step does not forward the whole sequence: the keys and values in front of its first token are
read from the cache blocks, where earlier steps have also left those of rejected drafts. What the
model sees is the repaired sequence all the same, in every step, and so the loop over the cache
is the loop in which each step is given the whole sequence.
-/
namespace KsanaBuildAhead.Executor

open KsanaBuildAhead.Runtime KsanaBuildAhead.Engine KsanaBuildAhead.Lib.SpeculativeDecoding
  KsanaBuildAhead.Lib.CacheMemory

section Cached

variable [DraftTokensApi]

/-- A step computes the tokens behind the cached ones, and the model sees the blocks as far as the
sequence goes. -/
def executeCached (decoder : Decoder) (blocks : Nat → Int) (state : MtpSerialState)
    (around : Surroundings) (cached : ExecutorInferRequest) :
    (Nat → Int) × MtpSerialState × MtpOutcome :=
  let (mid, repaired) :=
    repairBatch (executeBatches state around.between) (around.batch cached)
  let req := repaired.getD around.before.length cached
  let blocks := writeBehind blocks (skipTokenNum req) req.forwardingTokens
  let outcome := decoder.run (readUpTo blocks req.forwardingTokens.length)
    req.forwardingTokensDraftNum
  (blocks, finishBatch mid repaired (around.resultsWith cached.reqId outcome), outcome)

/-- What a step reads from the blocks once it has written its own tokens is the sequence it
forwards. -/
def ReadsBack (blocks : Nat → Int) (state : MtpSerialState) (around : Surroundings)
    (cached : ExecutorInferRequest) : Prop :=
  let req := (repairBatch (executeBatches state around.between)
    (around.batch cached)).2.getD around.before.length cached
  readUpTo (writeBehind blocks (skipTokenNum req) req.forwardingTokens)
    req.forwardingTokens.length = req.forwardingTokens

/-- The cache blocks of the request by position, beside what the loop keeps. -/
structure CachedState extends LoopState where
  blocks : Nat → Int

/-- The loop, each step over the blocks the steps before it have written. -/
def cachedLoop (decoder : Decoder) (req : InferRequest) (reserved : Nat → Nat)
    (start : MtpSerialState) (blocks : Nat → Int) (around : Nat → Surroundings) :
    Nat → Except String CachedState
  | 0 =>
    let (blocks, executor, outcome) :=
      executeCached decoder blocks start (around 0) (around 0).cached
    .ok { executor := executor, engine := req, outcome := outcome, blocks := blocks }
  | k + 1 => do
    let s ← cachedLoop decoder req reserved start blocks around k
    let launched ← launchAhead s.engine (reserved (k + 1))
    let patched := overwriteByPatch ((around (k + 1)).patch launched) (around (k + 1)).cached
    let (blocks, executor, outcome) :=
      executeCached decoder s.blocks s.executor (around (k + 1)) patched
    let retired ← retire launched s.outcome.toStepOutcome.result
    .ok { executor := executor, engine := retired, outcome := outcome, blocks := blocks }

/-- Every step up to step `k + 1` reads its sequence back. -/
structure StepsReadBack (decoder : Decoder) (req : InferRequest) (reserved : Nat → Nat)
    (start : MtpSerialState) (blocks : Nat → Int) (around : Nat → Surroundings) (k : Nat) :
    Prop where
  first : ReadsBack blocks start (around 0) (around 0).cached
  later : ∀ j ≤ k, ∀ s launched, cachedLoop decoder req reserved start blocks around j = .ok s →
    launchAhead s.engine (reserved (j + 1)) = .ok launched →
      ReadsBack s.blocks s.executor (around (j + 1))
        (overwriteByPatch ((around (j + 1)).patch launched) (around (j + 1)).cached)

/-- A launched sequence over the blocks, as it stands. -/
def runOverBlocks (decoder : Decoder) (blocks : Nat → Int) (launched : InferRequest) :
    (Nat → Int) × MtpOutcome :=
  let blocks := writeBehind blocks (launchedSkip launched) launched.forwardingTokens
  (blocks, decoder.run (readUpTo blocks launched.forwardingTokens.length)
    launched.forwardingTokensDraftNum)

/-- The slow path over the blocks. -/
def slowCachedLoop (fastPath : Bool) (decoder : Decoder) (req : InferRequest)
    (reserved : Nat → Nat) (blocks : Nat → Int) : Nat → Except String ((Nat → Int) × InferRequest)
  | 0 => do
    let (blocks, outcome) := runOverBlocks decoder blocks req
    let retired ← retire req outcome.toStepOutcome.result
    .ok (blocks, retired)
  | k + 1 => do
    let (blocks, retired) ← slowCachedLoop fastPath decoder req reserved blocks k
    let launched ← launchSlow fastPath retired (reserved (k + 1))
    let (blocks, outcome) := runOverBlocks decoder blocks launched
    let retired ← retire launched outcome.toStepOutcome.result
    .ok (blocks, retired)

omit [DraftTokensApi] in
theorem repairMtpSerialBlock_flexible {req repaired : ExecutorInferRequest} {prevRing : List Int}
    {acceptedMap : AList fun _ : Int => List Int}
    {phOff draftSlots oldMainPos oldDraftSlots : Nat} {drafts : Option (List Int)}
    (h : repairMtpSerialBlock req prevRing acceptedMap phOff draftSlots oldMainPos oldDraftSlots
      drafts = some repaired) :
    repaired.flexibleCachedCopyTaskNum = req.flexibleCachedCopyTaskNum := by
  rw [repairMtpSerialBlock] at h
  split at h
  · cases h
  · split at h
    · cases h
    · split at h
      · cases h
      · obtain rfl := Option.some.inj h
        rfl

omit [DraftTokensApi] in
theorem repairRequest_flexible (snapshots : SerializationSnapshots) (prevRing : List Int)
    (state : MtpSerialState) (cached : ExecutorInferRequest) :
    (repairRequest snapshots prevRing state cached).2.flexibleCachedCopyTaskNum =
      cached.flexibleCachedCopyTaskNum := by
  have hrestored : (restoreFromSnapshot cached
      (snapshots.lookup cached.reqId)).flexibleCachedCopyTaskNum =
        cached.flexibleCachedCopyTaskNum := by
    cases snapshots.lookup cached.reqId with
    | none => rfl
    | some snap =>
      rw [restoreFromSnapshot.eq_def]
      dsimp only
      split <;> rfl
  rw [repairRequest]
  dsimp only
  generalize restoreFromSnapshot cached (snapshots.lookup cached.reqId) = req at hrestored ⊢
  split
  · exact hrestored
  · split
    · exact hrestored
    · split
      · exact hrestored
      · rename_i repaired hrepaired
        exact (repairMtpSerialBlock_flexible hrepaired).trans hrestored

omit [DraftTokensApi] in
theorem repairBatch_flexible (state : MtpSerialState) (batch : ExecutorBatch) :
    (repairBatch state batch).2.map ExecutorInferRequest.flexibleCachedCopyTaskNum =
      batch.reqs.map ExecutorInferRequest.flexibleCachedCopyTaskNum := by
  simp only [repairBatch]
  generalize clearMtpSerialStateForLifecycle batch.finishReqIds batch.recomputeReqIds state = mid
  rw [applyCpuBuildAheadRepairFromRing]
  split
  · rfl
  · generalize mid.hostRing = ring
    clear * -
    induction batch.reqs generalizing mid with
    | nil => rfl
    | cons req reqs ih =>
      rw [repairRequests]
      dsimp only
      rw [List.map_cons, List.map_cons, repairRequest_flexible, ih]

omit [DraftTokensApi] in
/-- The model sees the sequence when the blocks hold what is not computed again. -/
theorem runOverBlocks_eq (decoder : Decoder) {blocks : Nat → Int} {launched : InferRequest}
    {before : List Int} (hbefore : Holds blocks before)
    (hbegins : before <+: launched.forwardingTokens)
    (hskip : launchedSkip launched = before.length) :
    ∃ written, runOverBlocks decoder blocks launched = (written,
        decoder.run launched.forwardingTokens launched.forwardingTokensDraftNum) ∧
      Holds written launched.forwardingTokens := by
  have hholds := hbefore.writeBehind hbegins
  refine ⟨_, ?_, hholds⟩
  rw [runOverBlocks, hskip, show readUpTo _ _ = _ from hholds]

theorem executeCached_of_repaired {decoder : Decoder} {blocks : Nat → Int}
    {state next : MtpSerialState} {around : Surroundings} {cached repaired : ExecutorInferRequest}
    {reqs : List ExecutorInferRequest} {outcome : MtpOutcome} {before : List Int}
    (hrun : executeBatch (executeBatches state around.between) (around.batch cached)
      (around.resultsWith cached.reqId outcome) = (next, reqs))
    (hat : reqs[around.before.length]? = some repaired)
    (houtcome : decoder.run repaired.forwardingTokens repaired.forwardingTokensDraftNum = outcome)
    (hbefore : Holds blocks before) (hbegins : before <+: repaired.forwardingTokens)
    (hskip : skipTokenNum repaired = before.length) :
    ∃ written, executeCached decoder blocks state around cached = (written, next, outcome) ∧
      Holds written repaired.forwardingTokens ∧ ReadsBack blocks state around cached := by
  have hholds := hbefore.writeBehind hbegins
  have hreqs : (repairBatch (executeBatches state around.between) (around.batch cached)).2 =
      reqs := (Prod.mk.inj hrun).2
  have hread : (repairBatch (executeBatches state around.between)
      (around.batch cached)).2.getD around.before.length cached = repaired := by
    rw [List.getD_eq_getElem?_getD, hreqs, hat]
    rfl
  refine ⟨_, ?_, hholds, ?_⟩
  · have hclosed := executeClosed_of_repaired hrun hat houtcome
    rw [executeClosed] at hclosed
    rw [executeCached]
    dsimp only at hclosed ⊢
    rw [hread] at hclosed ⊢
    rw [hskip, show readUpTo _ _ = _ from hholds]
    exact congrArg (Prod.mk _) hclosed
  · rw [ReadsBack, hread, hskip]
    exact hholds

/-- The repaired request of a batch has the copy tasks it was received with. -/
theorem repaired_flexible {state next : MtpSerialState} {around : Surroundings}
    {received repaired : ExecutorInferRequest} {reqs : List ExecutorInferRequest}
    {results : Int → StepResult}
    (hrun : executeBatch state (around.batch received) results = (next, reqs))
    (hat : reqs[around.before.length]? = some repaired) :
    repaired.flexibleCachedCopyTaskNum = received.flexibleCachedCopyTaskNum := by
  have hreqs : (repairBatch state (around.batch received)).2 = reqs := (Prod.mk.inj hrun).2
  have hflexible := repairBatch_flexible state (around.batch received)
  rw [hreqs] at hflexible
  have hboth := congrArg (fun counts => counts[around.before.length]?) hflexible
  have hreceived : (around.batch received).reqs[around.before.length]? = some received := by
    rw [Surroundings.batch, List.getElem?_append_right (Nat.le_refl _), Nat.sub_self]
    rfl
  rw [List.getElem?_map, List.getElem?_map, hat, hreceived] at hboth
  exact Option.some.inj hboth

/-- What step `k` forwards: the tokens settled before it, then its main token and the drafts it
verifies. -/
def forwardedAt (decoder : Decoder) (prompt : List Int) (reserved : Nat → Nat) : Nat → List Int
  | 0 => prompt
  | k + 1 => settled prompt (stepOutcomes (decoder.outcomes prompt reserved)) k ++
      (decoder.outcomes prompt reserved k).bonus.val ::
        (decoder.outcomes prompt reserved k).drafts.take (reserved (k + 1))

variable {decoder : Decoder} {prompt : List Int} {req : InferRequest} {reserved : Nat → Nat}
  {start : MtpSerialState} {blocks slowBlocks : Nat → Int} {around : Nat → Surroundings}

omit [DraftTokensApi] in
/-- What is settled by a step begins what the step has forwarded: only rejected drafts follow. -/
theorem settled_begins (hsound : Sound decoder.token decoder.accept) (k : Nat) :
    settled prompt (stepOutcomes (decoder.outcomes prompt reserved)) k <+:
      forwardedAt decoder prompt reserved k := by
  cases k with
  | zero => exact List.prefix_refl _
  | succ k =>
    rw [settled, forwardedAt, List.prefix_append_right_inj, List.cons_prefix_cons]
    exact ⟨rfl, (Decoder.outcomes_accepts hsound).accepted k⟩

/-- The blocks hold the front of the prompt that the first step does not compute, and no later
step copies cached tokens from elsewhere. -/
structure CachedStart (prompt : List Int) (req : InferRequest) (start : MtpSerialState)
    (blocks : Nat → Int) (around : Nat → Surroundings) : Prop
    extends LoopStart req start around where
  front : Holds blocks (prompt.take (skipTokenNum (around 0).cached))
  inside : skipTokenNum (around 0).cached ≤ prompt.length
  noFlexible : ∀ k, (around (k + 1)).cached.flexibleCachedCopyTaskNum = 0

/-- The loop over the blocks is where the loop over whole sequences is, and its blocks hold what
the step has forwarded. -/
structure FollowsCached (decoder : Decoder) (prompt : List Int) (req : InferRequest)
    (reserved : Nat → Nat) (start : MtpSerialState) (around : Nat → Surroundings) (k : Nat)
    (s : CachedState) : Prop where
  whole : closedLoop decoder req reserved start around k = .ok s.toLoopState
  follows : Follows decoder prompt req reserved start around k s.toLoopState
  blocks : Holds s.blocks (forwardedAt decoder prompt reserved k)

variable (hreq : PipelineStart prompt req) (hstart : CachedStart prompt req start blocks around)
include hreq

include hstart in
theorem cachedLoop_zero :
    (∃ s, cachedLoop decoder req reserved start blocks around 0 = .ok s ∧
      FollowsCached decoder prompt req reserved start around 0 s) ∧
    ReadsBack blocks start (around 0) (around 0).cached := by
  obtain ⟨state, reqs, hrun, hat⟩ := first_batch hstart.toLoopStart
    (decoder.outcomes prompt reserved 0)
  obtain ⟨loop, hloop, hfollows⟩ : ∃ loop, closedLoop decoder req reserved start around 0 =
      .ok loop ∧ Follows decoder prompt req reserved start around 0 loop :=
    closedLoop_zero hreq hstart.toLoopStart
  have houtcome : decoder.run (around 0).cached.forwardingTokens
      (around 0).cached.forwardingTokensDraftNum = decoder.outcomes prompt reserved 0 :=
    first_outcome hreq hstart.toLoopStart
  have hforwarding : (around 0).cached.forwardingTokens = prompt := by
    rw [hstart.forwarding, hreq.forwarding]
  obtain ⟨written, hcached, hholds, hreads⟩ := executeCached_of_repaired hrun hat houtcome
    hstart.front (by rw [hforwarding]; exact List.take_prefix _ _)
    (List.length_take_of_le hstart.inside).symm
  rw [closedLoop, executeClosed_of_repaired hrun hat houtcome] at hloop
  obtain rfl := Except.ok.inj hloop
  refine ⟨⟨⟨_, written⟩, ?_, ?_, hfollows, ?_⟩, hreads⟩
  · rw [cachedLoop, hcached]
  · rw [closedLoop, executeClosed_of_repaired hrun hat houtcome]
  · rw [hforwarding] at hholds
    exact hholds

include hstart in
/-- A later step computes the main token and the drafts behind the settled tokens, which the
blocks hold in front of what was rejected. -/
theorem cachedLoop_succ (hsound : Sound decoder.token decoder.accept)
    (hoffers : OffersDrafts decoder reserved) {k : Nat} {s : CachedState}
    (hrun : cachedLoop decoder req reserved start blocks around k = .ok s)
    (hs : FollowsCached decoder prompt req reserved start around k s)
    (hstop : ∀ j < k, (decoder.outcomes prompt reserved j).bonus.val ∉
      req.samplingConfig.stopTokenIds) :
    (∃ t, cachedLoop decoder req reserved start blocks around (k + 1) = .ok t ∧
      FollowsCached decoder prompt req reserved start around (k + 1) t) ∧
    ∀ launched, launchAhead s.engine (reserved (k + 1)) = .ok launched →
      ReadsBack s.blocks s.executor (around (k + 1))
        (overwriteByPatch ((around (k + 1)).patch launched) (around (k + 1)).cached) := by
  obtain ⟨launched, retired, next, nextReqs, repaired, hround⟩ :=
    hs.follows.round hreq hstart.toLoopStart hsound hoffers hstop
  have hforwarding : repaired.forwardingTokens = forwardedAt decoder prompt reserved (k + 1) :=
    hround.repaired.forwarding
  have hid : (overwriteByPatch ((around (k + 1)).patch launched)
      (around (k + 1)).cached).reqId = req.reqId := (hstart.hosts (k + 1)).cached
  have hskip : skipTokenNum repaired =
      (settled prompt (stepOutcomes (decoder.outcomes prompt reserved)) k).length := by
    have hflexible := repaired_flexible hround.batch hround.atIndex
    rw [skipTokenNum, hround.repaired.kvCached, hround.repaired.prefixCache,
      hflexible.trans (hstart.noFlexible k), Int.toNat_natCast, Nat.add_zero, max_self]
  obtain ⟨written, hcached, hholds, hreads⟩ := executeCached_of_repaired
    (by rw [hid]; exact hround.batch) hround.atIndex
    (by
      rw [hround.repaired.forwarding, hround.repaired.draftNum, ← decoder.modelRun_settled]
      rfl)
    (hs.blocks.of_prefix (settled_begins hsound k))
    (by rw [hforwarding, forwardedAt]; exact List.prefix_append _ _) hskip
  refine ⟨⟨⟨⟨next, retired, decoder.outcomes prompt reserved (k + 1)⟩, written⟩, ?_,
    closedLoop_succ hstart.toLoopStart hs.whole hround, hround.follows, ?_⟩,
    fun other hother => Except.ok.inj (hround.launch.symm.trans hother) ▸ hreads⟩
  · rw [cachedLoop, hrun]
    simp only [bind, Except.bind, hround.launch, hcached, hround.retire]
  · rw [← hforwarding]
    exact hholds

include hstart in
theorem cachedLoop_follows (hsound : Sound decoder.token decoder.accept)
    (hoffers : OffersDrafts decoder reserved) (k : Nat)
    (hstop : ∀ j < k, (decoder.outcomes prompt reserved j).bonus.val ∉
      req.samplingConfig.stopTokenIds) :
    ∃ s, cachedLoop decoder req reserved start blocks around k = .ok s ∧
      FollowsCached decoder prompt req reserved start around k s := by
  induction k with
  | zero => exact (cachedLoop_zero hreq hstart).1
  | succ k ih =>
    obtain ⟨s, hrun, hs⟩ := ih fun j hj => hstop j (by omega)
    exact (cachedLoop_succ hreq hstart hsound hoffers hrun hs fun j hj => hstop j (by omega)).1

include hstart in
theorem cachedLoop_readsBack (hsound : Sound decoder.token decoder.accept)
    (hoffers : OffersDrafts decoder reserved) (k : Nat)
    (hstop : ∀ j < k, (decoder.outcomes prompt reserved j).bonus.val ∉
      req.samplingConfig.stopTokenIds) :
    StepsReadBack decoder req reserved start blocks around k where
  first := by
    obtain ⟨-, hreads⟩ : (∃ s, cachedLoop decoder req reserved start blocks around 0 = .ok s ∧
      FollowsCached decoder prompt req reserved start around 0 s) ∧ _ := cachedLoop_zero hreq hstart
    exact hreads
  later := by
    intro j hj s launched hrun hlaunch
    obtain ⟨t, ht, hfollows⟩ := cachedLoop_follows hreq hstart hsound hoffers j
      fun i hi => hstop i (by omega)
    obtain rfl := Except.ok.inj (ht.symm.trans hrun)
    exact (cachedLoop_succ hreq hstart hsound hoffers hrun hfollows fun i hi =>
      hstop i (by omega)).2 launched hlaunch

include hstart in
/-- As long as the loop itself returns no stop token, the steps of the model do not either. -/
theorem outcomes_running (hsound : Sound decoder.token decoder.accept)
    (hoffers : OffersDrafts decoder reserved) (k : Nat)
    (hrunning : ∀ j < k, ∀ s, cachedLoop decoder req reserved start blocks around j = .ok s →
      s.outcome.bonus.val ∉ req.samplingConfig.stopTokenIds) :
    ∀ j < k, (decoder.outcomes prompt reserved j).bonus.val ∉
      req.samplingConfig.stopTokenIds := by
  induction k with
  | zero => exact fun j hj => absurd hj (Nat.not_lt_zero j)
  | succ k ih =>
    have hbefore := ih fun j hj => hrunning j (by omega)
    intro j hj
    rcases Nat.lt_succ_iff_lt_or_eq.mp hj with hlt | rfl
    · exact hbefore j hlt
    · obtain ⟨s, hrun, hs⟩ := cachedLoop_follows hreq hstart hsound hoffers j hbefore
      rw [← hs.follows.outcome]
      exact hrunning j hj s hrun

/-- The slow path over the blocks is the slow path over whole sequences. -/
theorem slowCachedLoop_follows (fastPath : Bool) (hsound : Sound decoder.token decoder.accept)
    (hfront : Holds slowBlocks (prompt.take (launchedSkip req)))
    (hinside : launchedSkip req ≤ prompt.length) (k : Nat)
    (hstop : ∀ j ≤ k, (decoder.outcomes prompt reserved j).bonus.val ∉
      req.samplingConfig.stopTokenIds) :
    ∃ slow, slowCachedLoop fastPath decoder req reserved slowBlocks k = .ok slow ∧
      slowLoop fastPath decoder req reserved k = .ok slow.2 ∧
      Holds slow.1 (forwardedAt decoder prompt reserved k) := by
  have hoff : AcceptsDrafts (decoder.outcomes prompt reserved) reserved :=
    Decoder.outcomes_accepts hsound
  have hpipeline := fun n (hn : n ≤ k) => slowPipeline_drained fastPath hreq
    (stepOutcomes (decoder.outcomes prompt reserved)) reserved hoff.first n
    (fun j hj => hstop j (by omega)) fun j _ => hoff.verified j
  have hfollows := fun n (hn : n ≤ k) => slowLoop_follows hreq fastPath hsound n
    fun j hj => hstop j (by omega)
  induction k with
  | zero =>
    obtain ⟨slow, hslow, -⟩ := hpipeline 0 (Nat.le_refl 0)
    rw [← hfollows 0 (Nat.le_refl 0), slowLoop] at hslow
    obtain ⟨written, hrun, hholds⟩ := runOverBlocks_eq decoder hfront
      (by rw [hreq.forwarding]; exact List.take_prefix _ _)
      (List.length_take_of_le hinside).symm
    refine ⟨(written, slow), ?_, hslow, ?_⟩
    · rw [slowCachedLoop, hrun]
      dsimp only
      rw [hslow]
      rfl
    · rw [hreq.forwarding] at hholds
      exact hholds
  | succ k ih =>
    obtain ⟨before, hbefore, hbeforeLoop, hholds⟩ := ih (fun j hj => hstop j (by omega))
      (fun n hn => hpipeline n (by omega)) fun n hn => hfollows n (by omega)
    obtain ⟨drained, hdrainedRun, hdrained, hpayload, hnoTask⟩ := hpipeline k (by omega)
    obtain rfl : drained = before.2 := Except.ok.inj
      (hdrainedRun.symm.trans ((hfollows k (by omega)).symm.trans hbeforeLoop))
    obtain ⟨slow, hslow, -⟩ := hpipeline (k + 1) (Nat.le_refl _)
    rw [← hfollows (k + 1) (Nat.le_refl _), slowLoop, hbeforeLoop] at hslow
    obtain ⟨launched, hlaunch, hretire⟩ := bind_ok (show (launchSlow fastPath before.2
      (reserved (k + 1)) >>= _) = _ from hslow)
    have hplanned := hdrained.plan { generatedTokenNum := kStepGenerateTokenNum
                                     draftTokenNum := reserved (k + 1) } rfl rfl
    obtain ⟨other, hother, -, halone⟩ := hplanned.launch fastPath rfl
    obtain rfl : other = launched := Except.ok.inj
      (hother.symm.trans ((launchSlow_eq fastPath hdrained.toDecodeReady hnoTask _).symm.trans
        hlaunch))
    have hlocal : (planDecode before.2 { generatedTokenNum := kStepGenerateTokenNum
                                         draftTokenNum := reserved (k + 1) }).pdV2.kvFromRemote =
        false := by
      show before.2.pdV2.kvFromRemote = false
      rw [hpayload]
      exact hreq.localKv
    have hforwarding : other.forwardingTokens = forwardedAt decoder prompt reserved (k + 1) := by
      rw [halone.forwarding, stepOutcomes_drafts, List.append_assoc]
      rfl
    have hskip : launchedSkip other =
        (settled prompt (stepOutcomes (decoder.outcomes prompt reserved)) k).length := by
      rw [launchedSkip, launch_prefixCacheLen hlocal hother, halone.kvCached, Int.toNat_natCast,
        max_self]
    obtain ⟨written, hrun, hnext⟩ := runOverBlocks_eq decoder
      (hholds.of_prefix (settled_begins hsound k))
      (by rw [hforwarding, forwardedAt]; exact List.prefix_append _ _) hskip
    refine ⟨(written, slow), ?_, ?_, ?_⟩
    · rw [slowCachedLoop, hbefore]
      simp only [bind, Except.bind, hlaunch, hrun, hretire]
    · rw [slowLoop, hbeforeLoop]
      simp only [bind, Except.bind, hlaunch, hretire]
    · rw [hforwarding] at hnext
      exact hnext

end Cached

/-- The first token of the prompt is in the blocks, and behind it there is nothing of use. -/
def blocksSample (position : Nat) : Int := if position = 0 then 11 else -7

def cachedLoopSample (_ : Nat) : Surroundings :=
  { surroundingsSample with
    cached := { reqId := 7, forwardingTokens := [11, 12], kvCachedTokenNum := 1
                prefixCacheLen := 1 } }

theorem cachedLoopSample_start :
    CachedStart [11, 12] lastChunkSample {} blocksSample cachedLoopSample where
  hosts := fun _ =>
    { betweenKept := fun _ h => absurd h List.not_mem_nil
      betweenOthers := fun _ h => absurd h List.not_mem_nil
      others := fun other hmem => by
        obtain rfl := List.mem_singleton.mp hmem
        decide
      cached := rfl
      live := rfl }
  kind := rfl
  unknown := Or.inr rfl
  kept := fun _ => List.not_mem_nil
  forwarding := rfl
  draftNum := rfl
  front := rfl
  inside := by decide
  noFlexible := fun _ => rfl

end KsanaBuildAhead.Executor
