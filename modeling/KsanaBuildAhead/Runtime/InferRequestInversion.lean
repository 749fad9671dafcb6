import KsanaBuildAhead.Runtime.InferRequestSteps

/-!
# What a successful operation has done

The inverse of the step lemmas: a launch that succeeded pushed a chunk, reserved a
block or appended real tokens, and a retirement that succeeded took one of five
branches. Nothing is assumed of the request.
-/
namespace KsanaBuildAhead.Runtime.InferRequest

open Lib.ListEdit

variable [DraftTokensApi]

omit [DraftTokensApi] in
/-- The sequence after a prefill launch, drafts apart. -/
def chunkTokens (req : InferRequest) (workload : ScheduleTaskWorkload) : List Int :=
  if req.forwardingTokens.length = workload.prefillStartOffset then
    req.forwardingTokens ++
      (req.prefillingTokens.drop req.forwardingTokens.length).take workload.prefillTokenNum
  else req.prefillingTokens.take (workload.prefillStartOffset + workload.prefillTokenNum)

/-- The planned chunk ends the prompt. -/
def plansLastChunk (req : InferRequest) : Prop :=
  req.prefillingTokens.length ≤ req.planningTask.workload.prefillTokenNum +
    req.planningTask.workload.prefillStartOffset

instance (req : InferRequest) : Decidable req.plansLastChunk :=
  inferInstanceAs (Decidable (_ ≤ _))

/-- The drafts a prefill launch puts behind the chunk. -/
def chunkDrafts (req : InferRequest) : List Int :=
  if req.plansLastChunk then DraftTokensApi.getDraftTokens req.draftTokens else []

/-- The request after the launch of a prefill chunk. -/
def launchedChunk (req : InferRequest) (kvCachedTokenNum : Nat) (prefixCacheLen : Int) :
    InferRequest :=
  let workload := req.planningTask.workload
  let draftNum := if req.plansLastChunk then req.chunkDrafts.length else workload.draftTokenNum
  let samplingNum := if req.plansLastChunk then 1 + req.chunkDrafts.length else 0
  { req with
    planningTask := {}
    kvCachedTokenNum := kvCachedTokenNum
    prefixCacheLen := prefixCacheLen
    forwardStepKind := if req.plansLastChunk then .prefill else .prefillChunkMid
    forwardingTokens := req.chunkTokens workload ++ req.chunkDrafts
    samplingTokenNum := samplingNum
    forwardingTokensDraftNum := draftNum
    inflightTasks := req.inflightTasks ++
      [⟨{ workload with draftTokenNum := draftNum, samplingTokenNum := samplingNum }⟩] }

/-- The request after the launch of a decode step with a block of placeholders. -/
def launchedBlock (req : InferRequest) (kvCachedTokenNum : Nat) (prefixCacheLen : Int) :
    InferRequest :=
  let workload := req.planningTask.workload
  { req with
    planningTask := {}
    kvCachedTokenNum := kvCachedTokenNum
    prefixCacheLen := prefixCacheLen
    forwardStepKind := .decode
    forwardingTokens := req.forwardingTokens ++
      List.replicate (workload.draftTokenNum + 1) kFastPathPlaceholderTokenId
    pendingPlaceholderPositions := req.pendingPlaceholderPositions ++ [req.forwardingTokens.length]
    pendingPlaceholderDraftNums := req.pendingPlaceholderDraftNums ++ [workload.draftTokenNum]
    samplingTokenNum := 1 + workload.draftTokenNum
    forwardingTokensDraftNum := workload.draftTokenNum
    inflightTasks := req.inflightTasks ++ [⟨{ workload with
      generatedTokenNum := 1, samplingTokenNum := 1 + workload.draftTokenNum }⟩] }

/-- The drafts a launch with real tokens has room for. -/
def roomDrafts (req : InferRequest) : List Int :=
  (DraftTokensApi.getDraftTokens req.draftTokens).take
    (req.planningTask.workload.generatedTokenNum + req.planningTask.workload.draftTokenNum -
      req.generatedTokens.length)

/-- The request after the launch of a decode step with real tokens. -/
def launchedReal (req : InferRequest) (kvCachedTokenNum : Nat) (prefixCacheLen : Int) :
    InferRequest :=
  let workload := req.planningTask.workload
  let drafts := DraftTokensApi.getDraftTokens req.draftTokens
  { req with
    planningTask := {}
    kvCachedTokenNum := kvCachedTokenNum
    prefixCacheLen := prefixCacheLen
    forwardStepKind := .decode
    forwardingTokens := req.forwardingTokens ++ req.generatedTokens ++ req.roomDrafts
    draftTokens := if req.roomDrafts.length < drafts.length then
      DraftTokensApi.truncDraft req.draftTokens req.roomDrafts.length else req.draftTokens
    samplingTokenNum := 1 + req.roomDrafts.length
    forwardingTokensDraftNum := req.roomDrafts.length
    inflightTasks := req.inflightTasks ++ [⟨{ workload with
      generatedTokenNum := req.generatedTokens.length
      draftTokenNum := req.roomDrafts.length
      samplingTokenNum := 1 + req.roomDrafts.length }⟩] }

/-- A launch counts the whole sequence as cached; with KV from a remote peer it keeps the count it
finds, which is then the same. -/
def CountsCached (req : InferRequest) : Prop :=
  req.pdV2.kvFromRemote = false ∨ req.kvCachedTokenNum = req.forwardingTokens.length

/-- The branch a successful launch took. -/
inductive LaunchCase (fastPath usePlaceholder : Bool) (req : InferRequest) : InferRequest → Prop
  | chunk (kvCachedTokenNum : Nat) (prefixCacheLen : Int)
      (hprefill : 0 < req.planningTask.workload.prefillTokenNum)
      (hcached : req.CountsCached →
        kvCachedTokenNum = req.planningTask.workload.prefillStartOffset) :
      LaunchCase fastPath usePlaceholder req (req.launchedChunk kvCachedTokenNum prefixCacheLen)
  | block (kvCachedTokenNum : Nat) (prefixCacheLen : Int)
      (hdecode : req.planningTask.workload.prefillTokenNum = 0)
      (hplaceholder : usePlaceholder = true ∧ fastPath = true ∧ req.generatedTokens = [])
      (hcached : req.CountsCached → kvCachedTokenNum = req.forwardingTokens.length) :
      LaunchCase fastPath usePlaceholder req (req.launchedBlock kvCachedTokenNum prefixCacheLen)
  | real (kvCachedTokenNum : Nat) (prefixCacheLen : Int)
      (hdecode : req.planningTask.workload.prefillTokenNum = 0)
      (hreal : ¬ (usePlaceholder = true ∧ fastPath = true ∧ req.generatedTokens = []))
      (hroom : req.generatedTokens.length ≤ req.planningTask.workload.generatedTokenNum +
        req.planningTask.workload.draftTokenNum)
      (hcached : req.CountsCached → kvCachedTokenNum = req.forwardingTokens.length) :
      LaunchCase fastPath usePlaceholder req (req.launchedReal kvCachedTokenNum prefixCacheLen)

omit [DraftTokensApi] in
theorem startLaunch_eq (req : InferRequest) : ∃ kvCachedTokenNum prefixCacheLen,
    req.startLaunch = { req with
      planningTask := {}
      kvCachedTokenNum := kvCachedTokenNum
      prefixCacheLen := prefixCacheLen } ∧
    (req.CountsCached → kvCachedTokenNum = req.forwardingTokens.length) := by
  cases hremote : req.pdV2.kvFromRemote with
  | false =>
    refine ⟨req.forwardingTokens.length, req.forwardingTokens.length, ?_, fun _ => rfl⟩
    rw [startLaunch, hremote]
    rfl
  | true =>
    refine ⟨req.kvCachedTokenNum, req.prefixCacheLen, ?_, ?_⟩
    · rw [startLaunch, hremote]
      rfl
    · rintro (hlocal | hcounted)
      · rw [hremote] at hlocal
        cases hlocal
      · exact hcounted

theorem launchPrefill_eq (req : InferRequest) (workload : ScheduleTaskWorkload) :
    ∃ kvCachedTokenNum prefixCacheLen,
      let isLast := req.prefillingTokens.length ≤
        workload.prefillTokenNum + workload.prefillStartOffset
      let drafts := if isLast then DraftTokensApi.getDraftTokens req.draftTokens else []
      req.launchPrefill workload =
        ({ req with
            kvCachedTokenNum := kvCachedTokenNum
            prefixCacheLen := prefixCacheLen
            forwardStepKind := if isLast then .prefill else .prefillChunkMid
            forwardingTokens := req.chunkTokens workload ++ drafts },
          { workload with
            draftTokenNum := if isLast then drafts.length else workload.draftTokenNum
            samplingTokenNum := if isLast then 1 + drafts.length else 0 }) ∧
      kvCachedTokenNum = (if req.forwardingTokens.length = workload.prefillStartOffset then
        req.kvCachedTokenNum else workload.prefillStartOffset) := by
  by_cases hoffset : req.forwardingTokens.length = workload.prefillStartOffset
  · refine ⟨req.kvCachedTokenNum, req.prefixCacheLen, ?_, (if_pos hoffset).symm⟩
    by_cases hlast : req.prefillingTokens.length ≤
        workload.prefillTokenNum + workload.prefillStartOffset <;>
      simp [launchPrefill, chunkTokens, hoffset, hlast, kStepGenerateTokenNum]
  · refine ⟨workload.prefillStartOffset, workload.prefillStartOffset, ?_, (if_neg hoffset).symm⟩
    by_cases hlast : req.prefillingTokens.length ≤
        workload.prefillTokenNum + workload.prefillStartOffset <;>
      simp [launchPrefill, chunkTokens, hoffset, hlast, kStepGenerateTokenNum, setKvCachedTokenNum]

theorem roomDrafts_length (req : InferRequest) : req.roomDrafts.length =
    min (req.planningTask.workload.generatedTokenNum + req.planningTask.workload.draftTokenNum -
      req.generatedTokens.length) (DraftTokensApi.getDraftTokens req.draftTokens).length :=
  List.length_take

/-- A launch that succeeds found a planned task and room, and took one of three branches. -/
theorem launchPlanningTask_cases {fastPath usePlaceholder : Bool} {req launched : InferRequest}
    (h : req.launchPlanningTask fastPath usePlaceholder = .ok launched) :
    req.planningTask.isEmpty = false ∧ req.inflightTasks.length < kMaxInflightDepth ∧
      (usePlaceholder = true → req.inflightTasks ≠ []) ∧
      LaunchCase fastPath usePlaceholder req launched := by
  obtain ⟨hplanned, h⟩ := check_bind_ok h
  obtain ⟨hroom, h⟩ := check_bind_ok h
  obtain ⟨huse, h⟩ := check_bind_ok h
  refine ⟨hplanned, hroom, fun hused => List.ne_nil_of_length_pos (huse hused), ?_⟩
  obtain ⟨⟨pushed, workload⟩, hbranch, h⟩ := bind_ok h
  cases h
  obtain ⟨kv, cacheLen, hstart, hkv⟩ := req.startLaunch_eq
  rw [launchWorkload] at hbranch
  split at hbranch
  case isTrue hprefill =>
    obtain ⟨kvChunk, cacheLenChunk, hchunk, hkvChunk⟩ :=
      launchPrefill_eq req.startLaunch req.planningTask.workload
    have hpair := (Except.ok.inj hbranch).symm.trans hchunk
    obtain ⟨rfl, rfl⟩ := Prod.mk.inj hpair
    have hcached : req.CountsCached →
        kvChunk = req.planningTask.workload.prefillStartOffset := by
      intro hlocal
      rw [hkvChunk, hstart]
      split
      · rename_i hoffset
        exact (hkv hlocal).trans hoffset
      · rfl
    have hcase : LaunchCase fastPath usePlaceholder req
        (req.launchedChunk kvChunk cacheLenChunk) := .chunk kvChunk cacheLenChunk hprefill hcached
    rw [hstart]
    exact hcase
  case isFalse hdecode =>
    have hdecode : req.planningTask.workload.prefillTokenNum = 0 := by omega
    obtain ⟨hgenerated, hbranch⟩ := check_bind_ok hbranch
    rw [hstart] at hbranch hgenerated
    split at hbranch
    case isTrue hplaceholder =>
      cases hbranch
      exact .block kv cacheLen hdecode hplaceholder hkv
    case isFalse hreal =>
      obtain ⟨-, hbranch⟩ := check_bind_ok hbranch
      cases hbranch
      have hcase : LaunchCase fastPath usePlaceholder req (req.launchedReal kv cacheLen) :=
        .real kv cacheLen hdecode hreal hgenerated hkv
      rw [launchedReal, roomDrafts_length] at hcase
      rw [roomDrafts, List.take_eq_take_min] at hcase
      exact hcase

/-- The request after its oldest step filled the block of the next one. -/
def backfilled (req : InferRequest) : InferRequest :=
  { planGeneratedTokens { req with
      inferStage := .decode
      forwardingTokens := match req.generatedTokens with
        | [] => req.forwardingTokens
        | main :: _ => fillPlaceholderBlock req.forwardingTokens
            (req.pendingPlaceholderPositions.headD 0) (req.pendingPlaceholderDraftNums.headD 0) main
            (DraftTokensApi.getDraftTokens req.draftTokens)
      outputTokens := req.outputTokens ++ req.generatedTokens
      isEosGenerated := req.isEosGenerated ||
        req.endsWithStopToken (req.outputTokens ++ req.generatedTokens) } with
    generatedTokens := [] }

omit [DraftTokensApi] in
/-- The drafts of the front block that the step rejected. -/
def rejectedNum (req : InferRequest) : Nat :=
  req.pendingPlaceholderDraftNums.headD 0 - req.acceptedTokens.length

omit [DraftTokensApi] in
/-- The sequence without the rejected drafts of the front block. -/
def trimmedTokens (req : InferRequest) : List Int :=
  let blkStart := req.pendingPlaceholderPositions.headD 0
  eraseRange (overwrite req.forwardingTokens (blkStart + 1) req.acceptedTokens)
    (blkStart + 1 + req.acceptedTokens.length)
    (blkStart + 1 + req.pendingPlaceholderDraftNums.headD 0)

omit [DraftTokensApi] in
/-- Where the blocks behind the front one start after the trim. -/
def shiftedPositions (req : InferRequest) : List Nat :=
  req.pendingPlaceholderPositions.tail.map fun p =>
    if req.pendingPlaceholderPositions.headD 0 < p then p - req.rejectedNum else p

/-- The trimmed sequence with the block of the next step filled, if there is one. -/
def refilledTokens (req : InferRequest) : List Int :=
  match req.shiftedPositions, req.generatedTokens with
  | nxtStart :: _, main :: _ => fillPlaceholderBlock req.trimmedTokens nxtStart
      (req.pendingPlaceholderDraftNums.tail.headD 0) main
      (DraftTokensApi.getDraftTokens req.draftTokens)
  | _, _ => req.trimmedTokens

/-- The request after its oldest step gave up its own block. -/
def retiredOwn (req : InferRequest) : InferRequest :=
  let kvCachedTokenNum :=
    req.pendingPlaceholderPositions.headD 0 + 1 + req.acceptedTokens.length
  let uncachedTail := req.refilledTokens.length - kvCachedTokenNum
  { planGeneratedTokens { req with
      inferStage := .decode
      pendingPlaceholderPositions := req.shiftedPositions
      pendingPlaceholderDraftNums := req.pendingPlaceholderDraftNums.tail
      forwardingTokens := req.refilledTokens
      outputTokens := req.outputTokens ++ req.acceptedTokens ++ req.generatedTokens
      acceptedTokens := []
      isEosGenerated := req.isEosGenerated || req.endsWithStopToken
        (req.outputTokens ++ req.acceptedTokens ++ req.generatedTokens)
      kvCachedTokenNum := kvCachedTokenNum
      forwardingTokensDraftNum := if 1 < uncachedTail then uncachedTail - 1 else 0 } with
    generatedTokens := [] }

omit [DraftTokensApi] in
/-- The front block still holds a placeholder, and another step is in flight. -/
def FillsNextBlock (req : InferRequest) : Prop :=
  1 < req.getInflightCount ∧
    req.forwardingTokens[req.pendingPlaceholderPositions.headD 0]? =
      some kFastPathPlaceholderTokenId

instance (req : InferRequest) : Decidable req.FillsNextBlock :=
  inferInstanceAs (Decidable (_ ∧ _))

/-- The branch a successful retirement took. -/
inductive RetireCase (req : InferRequest) : InferRequest → Prop
  | afterEos (heos : req.isEosGenerated = true) : RetireCase req req.discardStepAfterEos
  | middleChunk (heos : req.isEosGenerated = false) (hsplit : req.isSplitPrefillStep = true) :
      RetireCase req (refreshWorkloads { req with
        generatedTokens := []
        draftTokens := DraftTokensApi.clear req.draftTokens })
  | plain (oldest : ScheduleTask) (queue : List ScheduleTask)
      (hinflight : req.inflightTasks = oldest :: queue) (heos : req.isEosGenerated = false)
      (hsplit : req.isSplitPrefillStep = false) (hpending : req.pendingPlaceholderPositions = []) :
      RetireCase req (req.retireWithoutPlaceholder oldest.workload).refreshWorkloads
  | backfill (heos : req.isEosGenerated = false) (hsplit : req.isSplitPrefillStep = false)
      (hpending : req.pendingPlaceholderPositions ≠ []) (hfills : req.FillsNextBlock)
      (hroom : req.pendingPlaceholderPositions.headD 0 + 1 + req.pendingPlaceholderDraftNums.headD 0 ≤
        req.forwardingTokens.length) : RetireCase req req.backfilled
  | own (heos : req.isEosGenerated = false) (hsplit : req.isSplitPrefillStep = false)
      (hpending : req.pendingPlaceholderPositions ≠ []) (howns : ¬ req.FillsNextBlock)
      (haccepted : req.acceptedTokens.length ≤ req.pendingPlaceholderDraftNums.headD 0)
      (hroom : req.pendingPlaceholderPositions.headD 0 + 1 + req.pendingPlaceholderDraftNums.headD 0 ≤
        req.forwardingTokens.length) : RetireCase req req.retiredOwn

/-- The end of a retirement counts the sequence as cached and keeps the tokens. -/
theorem refreshWorkloads_tokens (req : InferRequest) :
    req.refreshWorkloads.outputTokens = req.outputTokens ∧
      req.refreshWorkloads.forwardingTokens = req.forwardingTokens ∧
      req.refreshWorkloads.generatedTokens = req.generatedTokens ∧
      req.refreshWorkloads.kvCachedTokenNum = req.forwardingTokens.length ∧
      req.refreshWorkloads.isEosGenerated = req.isEosGenerated := by
  unfold refreshWorkloads
  dsimp only
  split <;> exact ⟨rfl, rfl, rfl, rfl, rfl⟩

theorem tryRetireBackfillNextPlaceholderBlock_cases {req filled : InferRequest} {done : Bool}
    (h : req.tryRetireBackfillNextPlaceholderBlock = .ok (done, filled)) :
    (done = true ∧ req.FillsNextBlock ∧ filled = req.backfilled ∧
      req.pendingPlaceholderPositions.headD 0 + 1 + req.pendingPlaceholderDraftNums.headD 0 ≤
        req.forwardingTokens.length) ∨
    (done = false ∧ ¬ req.FillsNextBlock) := by
  rw [tryRetireBackfillNextPlaceholderBlock] at h
  dsimp only at h
  split at h
  case isTrue hfills =>
    obtain ⟨hroom, h⟩ := check_bind_ok h
    obtain ⟨rfl, rfl⟩ := Prod.mk.inj (Except.ok.inj h)
    exact Or.inl ⟨rfl, hfills, rfl, hroom⟩
  case isFalse howns =>
    obtain ⟨rfl, -⟩ := Prod.mk.inj (Except.ok.inj h)
    exact Or.inr ⟨rfl, howns⟩

theorem tryRetireBackfillNextPlaceholderBlock_of_fills {req : InferRequest}
    (hfills : req.FillsNextBlock)
    (hroom : req.pendingPlaceholderPositions.headD 0 + 1 + req.pendingPlaceholderDraftNums.headD 0 ≤
      req.forwardingTokens.length) :
    req.tryRetireBackfillNextPlaceholderBlock = .ok (true, req.backfilled) := by
  obtain ⟨hmany, hplaceholder⟩ := hfills
  rw [tryRetireBackfillNextPlaceholderBlock]
  dsimp only
  rw [if_pos ⟨hmany, hplaceholder⟩, check_bind_of_true _ _ hroom]
  rfl

section Own

variable {req after : InferRequest}

omit [DraftTokensApi] in
theorem trimmedTokens_eq
    (hfit : req.acceptedTokens.length ≤ req.pendingPlaceholderDraftNums.headD 0) :
    (if 0 < req.rejectedNum then req.trimmedTokens
      else overwrite req.forwardingTokens (req.pendingPlaceholderPositions.headD 0 + 1)
        req.acceptedTokens) = req.trimmedTokens := by
  by_cases hrejected : 0 < req.rejectedNum
  · rw [if_pos hrejected]
  · have hall : req.pendingPlaceholderDraftNums.headD 0 = req.acceptedTokens.length := by
      rw [rejectedNum] at hrejected
      omega
    rw [if_neg hrejected, trimmedTokens, hall, eraseRange, List.take_append_drop]

omit [DraftTokensApi] in
theorem shiftedPositions_eq (req : InferRequest) :
    (if 0 < req.rejectedNum then
      req.pendingPlaceholderPositions.tail.map fun p =>
        if req.pendingPlaceholderPositions.headD 0 < p then p - req.rejectedNum else p
      else req.pendingPlaceholderPositions.tail) = req.shiftedPositions := by
  by_cases hrejected : 0 < req.rejectedNum
  · rw [if_pos hrejected, shiftedPositions]
  · have hnone : req.rejectedNum = 0 := by omega
    rw [if_neg hrejected, shiftedPositions, hnone]
    simp

theorem retireOwnPlaceholderBlockAndShift_cases
    (h : req.retireOwnPlaceholderBlockAndShift = .ok after) :
    req.acceptedTokens.length ≤ req.pendingPlaceholderDraftNums.headD 0 ∧
      req.pendingPlaceholderPositions.headD 0 + 1 + req.pendingPlaceholderDraftNums.headD 0 ≤
        req.forwardingTokens.length ∧
      after = req.retiredOwn := by
  obtain ⟨hfit, h⟩ := check_bind_ok h
  obtain ⟨hroom, h⟩ := check_bind_ok h
  refine ⟨hfit, hroom, ?_⟩
  have htrim := trimmedTokens_eq hfit
  have hshift := req.shiftedPositions_eq
  rw [trimmedTokens, rejectedNum] at htrim
  rw [rejectedNum] at hshift
  dsimp only at h htrim
  rw [htrim, hshift] at h
  split at h
  · rename_i nxtStart _ main _ hpositions hgenerated
    obtain ⟨-, h⟩ := check_bind_ok h
    have htokens : req.refilledTokens = fillPlaceholderBlock req.trimmedTokens nxtStart
        (req.pendingPlaceholderDraftNums.tail.headD 0) main
        (DraftTokensApi.getDraftTokens req.draftTokens) := by
      rw [refilledTokens, hpositions, hgenerated]
    obtain rfl := Except.ok.inj h
    rw [retiredOwn, htokens]
    rfl
  · rename_i hnone
    have htokens : req.refilledTokens = req.trimmedTokens := by
      rw [refilledTokens]
      split
      · rename_i hpositions hgenerated
        exact absurd hgenerated (hnone _ _ _ _ hpositions)
      · rfl
    obtain rfl := Except.ok.inj h
    rw [retiredOwn, htokens]
    rfl

theorem retireOwnPlaceholderBlockAndShift_of_fit
    (hfit : req.acceptedTokens.length ≤ req.pendingPlaceholderDraftNums.headD 0)
    (hroom : req.pendingPlaceholderPositions.headD 0 + 1 + req.pendingPlaceholderDraftNums.headD 0 ≤
      req.forwardingTokens.length)
    (hnext : ∀ nxtStart ∈ req.shiftedPositions.head?, nxtStart < req.trimmedTokens.length) :
    req.retireOwnPlaceholderBlockAndShift = .ok req.retiredOwn := by
  have htrim := trimmedTokens_eq hfit
  have hshift := req.shiftedPositions_eq
  rw [trimmedTokens, rejectedNum] at htrim
  rw [rejectedNum] at hshift
  have hunfold : req.retireOwnPlaceholderBlockAndShift.toOption.isSome = true := by
    rw [retireOwnPlaceholderBlockAndShift, check_bind_of_true _ _ hfit, check_bind_of_true _ _ hroom]
    dsimp only at htrim ⊢
    rw [htrim, hshift]
    split
    · rename_i nxtStart _ main _ hpositions hgenerated
      have hbound := hnext nxtStart (by rw [hpositions]; rfl)
      rw [trimmedTokens] at hbound
      rw [check_bind_of_true _ _ hbound]
      rfl
    · rfl
  cases h : req.retireOwnPlaceholderBlockAndShift with
  | error message =>
    rw [h] at hunfold
    cases hunfold
  | ok after => rw [(retireOwnPlaceholderBlockAndShift_cases h).2.2]

/-- A retirement that succeeds found a step in flight, and took one of five branches. -/
theorem updateAfterInflightTaskFinished_cases
    (h : req.updateAfterInflightTaskFinished = .ok after) :
    req.inflightTasks ≠ [] ∧ RetireCase req after := by
  rw [updateAfterInflightTaskFinished] at h
  split at h
  · cases h
  · rename_i oldest queue hinflight
    refine ⟨by rw [hinflight]; exact List.cons_ne_nil _ _, ?_⟩
    split at h
    case isTrue heos =>
      obtain rfl := Except.ok.inj h
      exact .afterEos heos
    case isFalse hrunning =>
      have heos : req.isEosGenerated = false := by simpa using hrunning
      split at h
      case isTrue hsplit =>
        obtain rfl := Except.ok.inj h
        exact .middleChunk heos hsplit
      case isFalse hwhole =>
        have hsplit : req.isSplitPrefillStep = false := by simpa using hwhole
        split at h
        case isTrue hpending =>
          obtain rfl := Except.ok.inj h
          exact .plain oldest queue hinflight heos hsplit hpending
        case isFalse hpending =>
          obtain ⟨⟨done, filled⟩, hfill, h⟩ := bind_ok h
          rcases tryRetireBackfillNextPlaceholderBlock_cases hfill with
            ⟨rfl, hfills, rfl, hroom⟩ | ⟨rfl, howns⟩
          · obtain rfl := Except.ok.inj h
            exact .backfill heos hsplit hpending hfills hroom
          · have hkept : filled = req := by
              rw [tryRetireBackfillNextPlaceholderBlock_declines req] at hfill
              · exact (Prod.mk.inj (Except.ok.inj hfill)).2.symm
              · by_cases hcount : req.getInflightCount ≤ 1
                · exact Or.inl hcount
                · exact Or.inr fun hplaceholder => howns ⟨by omega, hplaceholder⟩
            subst hkept
            obtain ⟨haccepted, hroom, rfl⟩ := retireOwnPlaceholderBlockAndShift_cases h
            exact .own heos hsplit hpending howns haccepted hroom

end Own

end KsanaBuildAhead.Runtime.InferRequest
