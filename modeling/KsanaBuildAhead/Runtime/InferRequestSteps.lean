import KsanaBuildAhead.Runtime.InferRequest
import Mathlib.Tactic.Common

/-!
# What one operation does to a request

One lemma for each branch of a launch and of a retirement. Each gives the whole
state the branch leaves, so that later proofs never unfold the operation.
-/
namespace KsanaBuildAhead.Runtime.InferRequest

open Lib.ListEdit

theorem endsWithStopToken_concat (req : InferRequest) (output : List Int) (token : Int) :
    req.endsWithStopToken (output ++ [token]) =
      req.samplingConfig.stopTokenIds.contains token := by
  simp [endsWithStopToken]

theorem setPlanningTask_of_empty (req : InferRequest) (hempty : req.planningTask.isEmpty = true)
    (hfit : req.planningWorkload.prefillTokenNum ≤ req.remainingWorkload.prefillTokenNum)
    (hsum : req.remainingWorkload.prefillTokenNum + req.remainingWorkload.prefillStartOffset =
      req.prefillingTokens.length) :
    req.setPlanningTask = .ok { req with
      planningTask := ⟨req.planningWorkload⟩
      remainingWorkload := { req.remainingWorkload with
        prefillTokenNum :=
          req.remainingWorkload.prefillTokenNum - req.planningWorkload.prefillTokenNum
        prefillStartOffset :=
          req.remainingWorkload.prefillStartOffset + req.planningWorkload.prefillTokenNum
        generatedTokenNum := 0
        draftTokenNum := 0 }
      planningWorkload := {} } := by
  rw [setPlanningTask, check_bind_of_true _ _ hempty, check_bind_of_true _ _ hfit,
    check_bind_of_true _ _ (by omega)]

variable [DraftTokensApi]

/-- The sequence a prefill launch leaves: the prefilling tokens up to the end of the
chunk, whether the chunk continues the sequence or jumps over a cached prefix. -/
theorem launchPrefill_ok (req : InferRequest) (workload : ScheduleTaskWorkload)
    (hchain : req.forwardingTokens.length = workload.prefillStartOffset →
      req.forwardingTokens = req.prefillingTokens.take workload.prefillStartOffset) :
    let chunkEnd := workload.prefillStartOffset + workload.prefillTokenNum
    let drafts := DraftTokensApi.getDraftTokens req.draftTokens
    let isLast := req.prefillingTokens.length ≤
      workload.prefillTokenNum + workload.prefillStartOffset
    ∃ kvCachedTokenNum prefixCacheLen,
      req.launchPrefill workload =
        ({ req with
            kvCachedTokenNum := kvCachedTokenNum
            prefixCacheLen := prefixCacheLen
            forwardStepKind := if isLast then .prefill else .prefillChunkMid
            forwardingTokens :=
              req.prefillingTokens.take chunkEnd ++ if isLast then drafts else [] },
          { workload with
            draftTokenNum := if isLast then drafts.length else workload.draftTokenNum
            samplingTokenNum := if isLast then 1 + drafts.length else 0 }) ∧
      (req.forwardingTokens.length = workload.prefillStartOffset →
        kvCachedTokenNum = req.kvCachedTokenNum ∧ prefixCacheLen = req.prefixCacheLen) ∧
      (req.forwardingTokens.length ≠ workload.prefillStartOffset →
        kvCachedTokenNum = workload.prefillStartOffset ∧
          prefixCacheLen = workload.prefillStartOffset) := by
  by_cases hoffset : req.forwardingTokens.length = workload.prefillStartOffset
  · refine ⟨req.kvCachedTokenNum, req.prefixCacheLen, ?_, fun _ => ⟨rfl, rfl⟩,
      fun h => absurd hoffset h⟩
    have hextend : req.forwardingTokens ++
        (req.prefillingTokens.drop workload.prefillStartOffset).take workload.prefillTokenNum =
          req.prefillingTokens.take (workload.prefillStartOffset + workload.prefillTokenNum) := by
      rw [hchain hoffset, List.take_add]
    by_cases hlast : req.prefillingTokens.length ≤
        workload.prefillTokenNum + workload.prefillStartOffset <;>
      simp [launchPrefill, hoffset, hlast, hextend, kStepGenerateTokenNum]
  · refine ⟨workload.prefillStartOffset, workload.prefillStartOffset, ?_,
      fun h => absurd h hoffset, fun _ => ⟨rfl, rfl⟩⟩
    by_cases hlast : req.prefillingTokens.length ≤
        workload.prefillTokenNum + workload.prefillStartOffset <;>
      simp [launchPrefill, hoffset, hlast, kStepGenerateTokenNum, setKvCachedTokenNum]

/-- A prefill launch at any depth; the KV start is the chunk's own offset unless the
KV came from a remote peer. -/
theorem launchPlanningTask_prefill (fastPath usePlaceholder : Bool) (req : InferRequest)
    (hroom : req.getInflightCount < kMaxInflightDepth)
    (huse : usePlaceholder = true → 0 < req.getInflightCount)
    (hprefill : 0 < req.planningTask.workload.prefillTokenNum)
    (hchain : req.forwardingTokens.length = req.planningTask.workload.prefillStartOffset →
      req.forwardingTokens =
        req.prefillingTokens.take req.planningTask.workload.prefillStartOffset) :
    let workload := req.planningTask.workload
    let chunkEnd := workload.prefillStartOffset + workload.prefillTokenNum
    let drafts := DraftTokensApi.getDraftTokens req.draftTokens
    let isLast := req.prefillingTokens.length ≤
      workload.prefillTokenNum + workload.prefillStartOffset
    let draftNum := if isLast then drafts.length else workload.draftTokenNum
    let samplingNum := if isLast then 1 + drafts.length else 0
    ∃ kvCachedTokenNum prefixCacheLen,
      req.launchPlanningTask fastPath usePlaceholder = .ok { req with
        planningTask := {}
        kvCachedTokenNum := kvCachedTokenNum
        prefixCacheLen := prefixCacheLen
        forwardStepKind := if isLast then .prefill else .prefillChunkMid
        forwardingTokens := req.prefillingTokens.take chunkEnd ++ if isLast then drafts else []
        samplingTokenNum := samplingNum
        forwardingTokensDraftNum := draftNum
        inflightTasks := req.inflightTasks ++
          [⟨{ workload with draftTokenNum := draftNum, samplingTokenNum := samplingNum }⟩] } ∧
      (req.pdV2.kvFromRemote = false → kvCachedTokenNum = workload.prefillStartOffset) := by
  intro workload chunkEnd drafts isLast draftNum samplingNum
  have hnonempty : req.planningTask.isEmpty = false := by
    simp [ScheduleTask.isEmpty, ScheduleTaskWorkload.isEmpty]
    omega
  rw [launchPlanningTask, check_bind_of_true _ _ hnonempty, check_bind_of_true _ _ hroom,
    check_bind_of_true _ _ huse, launchWorkload, if_pos hprefill, startLaunch]
  cases hremote : req.pdV2.kvFromRemote with
  | false =>
    obtain ⟨kv, prefixLen, hlaunch, hcontinue, hjump⟩ := launchPrefill_ok
      (setKvCachedTokenNum { req with planningTask := {} } req.forwardingTokens.length)
      req.planningTask.workload hchain
    refine ⟨kv, prefixLen, ?_, fun _ => ?_⟩
    · simp only [Bool.false_eq_true, if_false]
      rw [hlaunch]
      rfl
    · by_cases hoffset : req.forwardingTokens.length = workload.prefillStartOffset
      · exact (hcontinue hoffset).1.trans hoffset
      · exact (hjump hoffset).1
  | true =>
    obtain ⟨kv, prefixLen, hlaunch, -, -⟩ := launchPrefill_ok { req with planningTask := {} }
      req.planningTask.workload hchain
    refine ⟨kv, prefixLen, ?_, fun h => absurd h (by simp)⟩
    simp only [if_true]
    rw [hlaunch]
    rfl

/-- Behind a step in flight, with no generated token waiting, a decode launch
reserves one block of placeholders at the end of the sequence. -/
theorem launchPlanningTask_reserve (req : InferRequest) (inflight : ScheduleTask)
    (hnonempty : req.planningTask.isEmpty = false)
    (hdecode : req.planningTask.workload.prefillTokenNum = 0)
    (hinflight : req.inflightTasks = [inflight]) (hgenerated : req.generatedTokens = []) :
    req.launchPlanningTask true true = .ok { req with
      planningTask := {}
      kvCachedTokenNum :=
        if req.pdV2.kvFromRemote then req.kvCachedTokenNum else req.forwardingTokens.length
      prefixCacheLen :=
        if req.pdV2.kvFromRemote then req.prefixCacheLen else req.forwardingTokens.length
      forwardingTokens := req.forwardingTokens ++
        List.replicate (1 + req.planningTask.workload.draftTokenNum) kFastPathPlaceholderTokenId
      pendingPlaceholderPositions :=
        req.pendingPlaceholderPositions ++ [req.forwardingTokens.length]
      pendingPlaceholderDraftNums :=
        req.pendingPlaceholderDraftNums ++ [req.planningTask.workload.draftTokenNum]
      forwardStepKind := .decode
      samplingTokenNum := 1 + req.planningTask.workload.draftTokenNum
      forwardingTokensDraftNum := req.planningTask.workload.draftTokenNum
      inflightTasks := [inflight, ⟨{ req.planningTask.workload with
        generatedTokenNum := 1
        samplingTokenNum := 1 + req.planningTask.workload.draftTokenNum }⟩] } := by
  have hcount : req.getInflightCount = 1 := by rw [getInflightCount, hinflight]; rfl
  rw [launchPlanningTask, check_bind_of_true _ _ hnonempty,
    check_bind_of_true _ _ (by rw [hcount]; decide),
    check_bind_of_true _ _ (by intro; rw [hcount]; decide)]
  cases hremote : req.pdV2.kvFromRemote <;>
    simp [startLaunch, launchWorkload, hdecode, hremote, launchDecode, setKvCachedTokenNum, hgenerated, hinflight, bind, Except.bind,
      reserveBuildAheadPlaceholderBlock, kStepGenerateTokenNum, List.replicate_add]

/-- With nothing in flight a decode launch appends the generated tokens and the
drafts the plan has room for. -/
theorem launchPlanningTask_append (fastPath : Bool) (req : InferRequest)
    (hnonempty : req.planningTask.isEmpty = false)
    (hdecode : req.planningTask.workload.prefillTokenNum = 0)
    (hinflight : req.inflightTasks = [])
    (hroom : req.generatedTokens.length ≤ req.planningTask.workload.generatedTokenNum +
      req.planningTask.workload.draftTokenNum) :
    req.launchPlanningTask fastPath false =
      let drafts := DraftTokensApi.getDraftTokens req.draftTokens
      let draftNum := min (req.planningTask.workload.generatedTokenNum +
        req.planningTask.workload.draftTokenNum - req.generatedTokens.length) drafts.length
      .ok { req with
        planningTask := {}
        kvCachedTokenNum :=
          if req.pdV2.kvFromRemote then req.kvCachedTokenNum else req.forwardingTokens.length
        prefixCacheLen :=
          if req.pdV2.kvFromRemote then req.prefixCacheLen else req.forwardingTokens.length
        forwardingTokens := req.forwardingTokens ++ req.generatedTokens ++ drafts.take draftNum
        draftTokens :=
          if draftNum < drafts.length then DraftTokensApi.truncDraft req.draftTokens draftNum
          else req.draftTokens
        forwardStepKind := .decode
        samplingTokenNum := 1 + draftNum
        forwardingTokensDraftNum := draftNum
        inflightTasks := [⟨{ req.planningTask.workload with
          generatedTokenNum := req.generatedTokens.length
          draftTokenNum := draftNum
          samplingTokenNum := 1 + draftNum }⟩] } := by
  have hcount : req.getInflightCount = 0 := by rw [getInflightCount, hinflight]; rfl
  rw [launchPlanningTask, check_bind_of_true _ _ hnonempty,
    check_bind_of_true _ _ (by rw [hcount]; decide), check_bind_of_true _ _ (by simp)]
  cases hremote : req.pdV2.kvFromRemote <;>
    simp [startLaunch, launchWorkload, hdecode, hremote, launchDecode, setKvCachedTokenNum, hroom, hinflight, bind, Except.bind,
      appendDecodeTokensWithoutPlaceholder, kStepGenerateTokenNum]

/-- What no launch touches: the results that came back, the stage, the KV blocks and
everything the request only carries. -/
structure LaunchKeeps (req launched : InferRequest) : Prop where
  payload : launched.toRequestPayload = req.toRequestPayload
  output : launched.outputTokens = req.outputTokens
  generated : launched.generatedTokens = req.generatedTokens
  accepted : launched.acceptedTokens = req.acceptedTokens
  stage : launched.inferStage = req.inferStage
  step : launched.step = req.step
  kvBlocks : launched.kvCacheBlocks = req.kvCacheBlocks
  swaKvBlocks : launched.swaKvCacheBlocks = req.swaKvCacheBlocks
  swaKvOffsets : launched.swaKvCacheBlockIdxOffsets = req.swaKvCacheBlockIdxOffsets
  patchTransfer : launched.patchTransfer = req.patchTransfer
  stopped : launched.isStopped = req.isStopped
  prefilling : launched.prefillingTokens = req.prefillingTokens
  eos : launched.isEosGenerated = req.isEosGenerated

omit [DraftTokensApi] in
theorem LaunchKeeps.trans {a b c : InferRequest} (h : LaunchKeeps a b) (h' : LaunchKeeps b c) :
    LaunchKeeps a c where
  payload := h'.payload.trans h.payload
  output := h'.output.trans h.output
  generated := h'.generated.trans h.generated
  accepted := h'.accepted.trans h.accepted
  stage := h'.stage.trans h.stage
  step := h'.step.trans h.step
  kvBlocks := h'.kvBlocks.trans h.kvBlocks
  swaKvBlocks := h'.swaKvBlocks.trans h.swaKvBlocks
  swaKvOffsets := h'.swaKvOffsets.trans h.swaKvOffsets
  patchTransfer := h'.patchTransfer.trans h.patchTransfer
  stopped := h'.stopped.trans h.stopped
  prefilling := h'.prefilling.trans h.prefilling
  eos := h'.eos.trans h.eos

theorem launchPrefill_keeps (req : InferRequest) (workload : ScheduleTaskWorkload) :
    LaunchKeeps req (req.launchPrefill workload).1 ∧
      (req.launchPrefill workload).1.planningTask = req.planningTask ∧
      (req.launchPrefill workload).1.inflightTasks = req.inflightTasks := by
  simp only [launchPrefill]
  split <;> split <;>
    exact ⟨⟨rfl, rfl, rfl, rfl, rfl, rfl, rfl, rfl, rfl, rfl, rfl, rfl, rfl⟩, rfl, rfl⟩

theorem launchDecode_keeps {fastPath usePlaceholder : Bool} {req : InferRequest}
    {workload : ScheduleTaskWorkload} {launched : InferRequest × ScheduleTaskWorkload}
    (h : req.launchDecode fastPath workload usePlaceholder = .ok launched) :
    LaunchKeeps req launched.1 ∧ launched.1.planningTask = req.planningTask ∧
      launched.1.inflightTasks = req.inflightTasks := by
  obtain ⟨-, h⟩ := check_bind_ok h
  split at h
  · cases h
    exact ⟨⟨rfl, rfl, rfl, rfl, rfl, rfl, rfl, rfl, rfl, rfl, rfl, rfl, rfl⟩, rfl, rfl⟩
  · obtain ⟨-, h⟩ := check_bind_ok h
    cases h
    exact ⟨⟨rfl, rfl, rfl, rfl, rfl, rfl, rfl, rfl, rfl, rfl, rfl, rfl, rfl⟩, rfl, rfl⟩

/-- A launch pushes one task, uses the planning task up, and keeps the rest. -/
theorem launchPlanningTask_keeps {fastPath usePlaceholder : Bool} {req launched : InferRequest}
    (h : req.launchPlanningTask fastPath usePlaceholder = .ok launched) :
    LaunchKeeps req launched ∧ launched.planningTask = {} ∧
      ∃ task, launched.inflightTasks = req.inflightTasks ++ [task] := by
  obtain ⟨-, h⟩ := check_bind_ok h
  obtain ⟨-, h⟩ := check_bind_ok h
  obtain ⟨-, h⟩ := check_bind_ok h
  obtain ⟨⟨pushed, workload⟩, hbranch, h⟩ := bind_ok h
  cases h
  have hstart : LaunchKeeps req req.startLaunch ∧ req.startLaunch.planningTask = {} ∧
      req.startLaunch.inflightTasks = req.inflightTasks := by
    rw [startLaunch]
    split <;> exact ⟨⟨rfl, rfl, rfl, rfl, rfl, rfl, rfl, rfl, rfl, rfl, rfl, rfl, rfl⟩, rfl, rfl⟩
  have hpushed : LaunchKeeps req.startLaunch pushed ∧
      pushed.planningTask = req.startLaunch.planningTask ∧
      pushed.inflightTasks = req.startLaunch.inflightTasks := by
    rw [launchWorkload] at hbranch
    split at hbranch
    · have hpair := Except.ok.inj hbranch
      have hkept := launchPrefill_keeps req.startLaunch req.planningTask.workload
      rw [hpair] at hkept
      exact hkept
    · exact launchDecode_keeps hbranch
  have hkeeps := hstart.1.trans hpushed.1
  have hqueue := hpushed.2.2.trans hstart.2.2
  exact ⟨{ hkeeps with }, hpushed.2.1.trans hstart.2.1, _, by rw [hqueue]⟩

/-- A decode launch that finds a generated token reserves no block: it fails, or it
appends that token. -/
theorem launchPlanningTask_real (fastPath usePlaceholder : Bool) {req launched : InferRequest}
    (hdecode : req.planningTask.workload.prefillTokenNum = 0) (hgenerated : req.generatedTokens ≠ [])
    (h : req.launchPlanningTask fastPath usePlaceholder = .ok launched) :
    launched.pendingPlaceholderPositions = req.pendingPlaceholderPositions ∧
      req.forwardingTokens ++ req.generatedTokens <+: launched.forwardingTokens := by
  obtain ⟨-, h⟩ := check_bind_ok h
  obtain ⟨-, h⟩ := check_bind_ok h
  obtain ⟨-, h⟩ := check_bind_ok h
  obtain ⟨⟨pushed, workload⟩, hbranch, h⟩ := bind_ok h
  cases h
  have hstart : req.startLaunch.forwardingTokens = req.forwardingTokens ∧
      req.startLaunch.generatedTokens = req.generatedTokens ∧
      req.startLaunch.pendingPlaceholderPositions = req.pendingPlaceholderPositions := by
    rw [startLaunch]
    split <;> exact ⟨rfl, rfl, rfl⟩
  rw [launchWorkload, if_neg (by rw [hdecode]; decide)] at hbranch
  obtain ⟨-, hbranch⟩ := check_bind_ok hbranch
  rw [if_neg (by rw [hstart.2.1]; exact fun hreserve => hgenerated hreserve.2.2)] at hbranch
  obtain ⟨-, hbranch⟩ := check_bind_ok hbranch
  cases hbranch
  refine ⟨hstart.2.2, ?_⟩
  simp only [hstart.1, hstart.2.1]
  exact List.prefix_append _ _

omit [DraftTokensApi] in
/-- Filling a reserved block writes its main token and the drafts that fit. -/
theorem fillPlaceholderBlock_reserved (pre drafts : List Int) (draftNum : Nat) (main : Int) :
    fillPlaceholderBlock (pre ++ List.replicate (1 + draftNum) kFastPathPlaceholderTokenId)
      pre.length draftNum main drafts =
        pre ++ main :: resize drafts draftNum kFastPathPlaceholderTokenId := by
  have hblock := overwrite_replicate (pre ++ [main]) [] drafts draftNum kFastPathPlaceholderTokenId
  rw [fillPlaceholderBlock, overwrite, List.replicate_add,
    List.set_append_right _ _ (Nat.le_refl _), Nat.sub_self]
  simpa using hblock

omit [DraftTokensApi] in
/-- Without placeholder blocks the accepted tokens, a prefix of the step's drafts, are
what stays of them. -/
theorem retireWithoutPlaceholder_prefix (req : InferRequest) (oldest : ScheduleTaskWorkload)
    {pre drafts : List Int} (hforwarding : req.forwardingTokens = pre ++ drafts)
    (hdraftNum : req.forwardingTokensDraftNum = drafts.length)
    (holdest : oldest.draftTokenNum = drafts.length) (haccepted : req.acceptedTokens <+: drafts) :
    req.retireWithoutPlaceholder oldest = { req with
      forwardingTokens := pre ++ req.acceptedTokens
      outputTokens := req.outputTokens ++ req.acceptedTokens ++ req.generatedTokens
      acceptedTokens := []
      inferStage := .decode
      isEosGenerated := req.isEosGenerated ||
        req.endsWithStopToken (req.outputTokens ++ req.acceptedTokens ++ req.generatedTokens) } := by
  obtain ⟨rejected, hdrafts⟩ := haccepted
  rw [retireWithoutPlaceholder, holdest]
  split
  · have hresize : resize req.forwardingTokens
        (req.forwardingTokens.length + req.acceptedTokens.length - req.forwardingTokensDraftNum) 0 =
        pre ++ req.acceptedTokens := by
      have hlen : req.forwardingTokens.length + req.acceptedTokens.length -
          req.forwardingTokensDraftNum = (pre ++ req.acceptedTokens).length := by
        rw [hforwarding, hdraftNum, List.length_append, List.length_append]
        omega
      rw [hlen, hforwarding, ← hdrafts, ← List.append_assoc, resize_eq_take _ _ (by simp),
        List.take_left]
    rw [hresize]
  · have hnone : drafts = [] := List.eq_nil_of_length_eq_zero (by omega)
    have haccepted : req.acceptedTokens = [] := by
      rw [hnone] at hdrafts
      exact (List.append_eq_nil_iff.mp hdrafts).1
    simp [haccepted, hforwarding, hnone]

/-- The step before a block of placeholders retires: the block takes its token and drafts. -/
theorem tryRetireBackfillNextPlaceholderBlock_fills (req : InferRequest) {pre : List Int}
    {draftNum : Nat} {main : Int}
    (hinflight : 1 < req.getInflightCount)
    (hpositions : req.pendingPlaceholderPositions = [pre.length])
    (hdraftNums : req.pendingPlaceholderDraftNums = [draftNum])
    (hforwarding : req.forwardingTokens =
      pre ++ List.replicate (1 + draftNum) kFastPathPlaceholderTokenId)
    (hgenerated : req.generatedTokens = [main]) :
    req.tryRetireBackfillNextPlaceholderBlock =
      .ok (true, { planGeneratedTokens { req with
        inferStage := .decode
        forwardingTokens := pre ++ main :: resize (DraftTokensApi.getDraftTokens req.draftTokens)
          draftNum kFastPathPlaceholderTokenId
        outputTokens := req.outputTokens ++ [main]
        isEosGenerated := req.isEosGenerated ||
          req.samplingConfig.stopTokenIds.contains main } with generatedTokens := [] }) := by
  have hhead : req.forwardingTokens[pre.length]? = some kFastPathPlaceholderTokenId := by
    rw [hforwarding, List.getElem?_append_right (Nat.le_refl _), Nat.sub_self,
      List.replicate_add]
    rfl
  have hroom : pre.length + 1 + draftNum ≤ req.forwardingTokens.length := by
    rw [hforwarding, List.length_append, List.length_replicate]
    omega
  have hfill : fillPlaceholderBlock req.forwardingTokens pre.length draftNum main
      (DraftTokensApi.getDraftTokens req.draftTokens) =
        pre ++ main :: resize (DraftTokensApi.getDraftTokens req.draftTokens) draftNum
          kFastPathPlaceholderTokenId := by
    rw [hforwarding, fillPlaceholderBlock_reserved]
  rw [tryRetireBackfillNextPlaceholderBlock]
  simp [hpositions, hdraftNums, hinflight, hhead, hroom, hgenerated, hfill,
    endsWithStopToken_concat, planGeneratedTokens, bind, Except.bind]

omit [DraftTokensApi] in
theorem trim_rejected (pre drafts accepted suf : List Int) (main : Int)
    (hfit : accepted.length ≤ drafts.length) :
    (if 0 < drafts.length - accepted.length then
      eraseRange (overwrite (pre ++ main :: (drafts ++ suf)) (pre.length + 1) accepted)
        (pre.length + 1 + accepted.length) (pre.length + 1 + drafts.length)
    else overwrite (pre ++ main :: (drafts ++ suf)) (pre.length + 1) accepted) =
      pre ++ main :: (accepted ++ suf) := by
  have hlen : (pre ++ [main]).length = pre.length + 1 := by simp
  rw [List.append_cons pre main (drafts ++ suf), List.append_cons pre main (accepted ++ suf),
    ← hlen]
  split
  · exact eraseRange_overwrite (pre ++ [main]) drafts accepted suf hfit
  · rw [overwrite_append (pre ++ [main]) (drafts ++ suf) accepted
      (by simp only [List.length_append]; omega), List.append_assoc,
      List.drop_left' (by omega)]

/-- A step retires with its own block last in the queue: the block is trimmed and
nothing receives the generated tokens. -/
theorem retireOwnPlaceholderBlockAndShift_last (req : InferRequest) {pre drafts : List Int}
    {main : Int}
    (hpositions : req.pendingPlaceholderPositions = [pre.length])
    (hdraftNums : req.pendingPlaceholderDraftNums = [drafts.length])
    (hforwarding : req.forwardingTokens = pre ++ main :: drafts)
    (haccepted : req.acceptedTokens.length ≤ drafts.length) :
    req.retireOwnPlaceholderBlockAndShift = .ok { planGeneratedTokens { req with
      inferStage := .decode
      pendingPlaceholderPositions := []
      pendingPlaceholderDraftNums := []
      forwardingTokens := pre ++ main :: req.acceptedTokens
      outputTokens := req.outputTokens ++ req.acceptedTokens ++ req.generatedTokens
      acceptedTokens := []
      isEosGenerated := req.isEosGenerated ||
        req.endsWithStopToken (req.outputTokens ++ req.acceptedTokens ++ req.generatedTokens)
      kvCachedTokenNum := pre.length + 1 + req.acceptedTokens.length
      forwardingTokensDraftNum := 0 } with generatedTokens := [] } := by
  have hroom : pre.length + 1 + drafts.length ≤ req.forwardingTokens.length := by
    rw [hforwarding, List.length_append, List.length_cons]
    omega
  have htrim := trim_rejected pre drafts req.acceptedTokens [] main haccepted
  simp only [List.append_nil] at htrim
  rw [← hforwarding] at htrim
  rw [retireOwnPlaceholderBlockAndShift]
  simp only [hpositions, hdraftNums, List.headD_cons, List.tail_cons, List.map_nil, ite_self,
    check_of_true _ haccepted, check_of_true _ hroom, htrim]
  simp [bind, Except.bind, planGeneratedTokens, Nat.add_assoc, Nat.add_comm 1]

/-- A step retires with the next step's block right behind its own: its block is
trimmed, the next one moves up and takes the generated token and the drafts. -/
theorem retireOwnPlaceholderBlockAndShift_next (req : InferRequest) {pre drafts : List Int}
    {main bonus : Int} {nextDraftNum : Nat}
    (hpositions : req.pendingPlaceholderPositions =
      [pre.length, pre.length + 1 + drafts.length])
    (hdraftNums : req.pendingPlaceholderDraftNums = [drafts.length, nextDraftNum])
    (hforwarding : req.forwardingTokens = pre ++ main :: (drafts ++
      List.replicate (1 + nextDraftNum) kFastPathPlaceholderTokenId))
    (haccepted : req.acceptedTokens.length ≤ drafts.length)
    (hgenerated : req.generatedTokens = [bonus]) :
    req.retireOwnPlaceholderBlockAndShift = .ok { planGeneratedTokens { req with
      inferStage := .decode
      pendingPlaceholderPositions := [pre.length + 1 + req.acceptedTokens.length]
      pendingPlaceholderDraftNums := [nextDraftNum]
      forwardingTokens := pre ++ main :: (req.acceptedTokens ++ bonus ::
        resize (DraftTokensApi.getDraftTokens req.draftTokens) nextDraftNum
          kFastPathPlaceholderTokenId)
      outputTokens := req.outputTokens ++ req.acceptedTokens ++ [bonus]
      acceptedTokens := []
      isEosGenerated := req.isEosGenerated || req.samplingConfig.stopTokenIds.contains bonus
      kvCachedTokenNum := pre.length + 1 + req.acceptedTokens.length
      forwardingTokensDraftNum := nextDraftNum } with generatedTokens := [] } := by
  have hroom : pre.length + 1 + drafts.length ≤ req.forwardingTokens.length := by
    simp only [hforwarding, List.length_append, List.length_cons]
    omega
  have htrim := trim_rejected pre drafts req.acceptedTokens
    (List.replicate (1 + nextDraftNum) kFastPathPlaceholderTokenId) main haccepted
  rw [← hforwarding] at htrim
  have hshift : (if 0 < drafts.length - req.acceptedTokens.length then
      [pre.length + 1 + drafts.length].map fun p =>
        if pre.length < p then p - (drafts.length - req.acceptedTokens.length) else p
      else [pre.length + 1 + drafts.length]) = [pre.length + 1 + req.acceptedTokens.length] := by
    split
    · rw [List.map_singleton, if_pos (by omega)]
      congr 1
      omega
    · congr 1
      omega
  have hfill : fillPlaceholderBlock (pre ++ main :: (req.acceptedTokens ++
      List.replicate (1 + nextDraftNum) kFastPathPlaceholderTokenId))
      (pre.length + 1 + req.acceptedTokens.length) nextDraftNum bonus
      (DraftTokensApi.getDraftTokens req.draftTokens) =
        pre ++ main :: (req.acceptedTokens ++ bonus ::
          resize (DraftTokensApi.getDraftTokens req.draftTokens) nextDraftNum
            kFastPathPlaceholderTokenId) := by
    have hblock := fillPlaceholderBlock_reserved (pre ++ main :: req.acceptedTokens)
      (DraftTokensApi.getDraftTokens req.draftTokens) nextDraftNum bonus
    have hstart : (pre ++ main :: req.acceptedTokens).length =
        pre.length + 1 + req.acceptedTokens.length := by
      simp only [List.length_append, List.length_cons]
      omega
    rw [hstart] at hblock
    simpa only [List.append_assoc, List.cons_append] using hblock
  have hnext : pre.length + 1 + req.acceptedTokens.length <
      (pre ++ main :: (req.acceptedTokens ++
        List.replicate (1 + nextDraftNum) kFastPathPlaceholderTokenId)).length := by
    simp only [List.length_append, List.length_cons, List.length_replicate]
    omega
  rw [retireOwnPlaceholderBlockAndShift]
  simp only [hpositions, hdraftNums, List.headD_cons, List.tail_cons, hshift,
    check_of_true _ haccepted, check_of_true _ hroom, htrim, hgenerated, bind, Except.bind,
    check_of_true _ hnext, hfill, endsWithStopToken_concat]
  have htail : (pre ++ main :: (req.acceptedTokens ++ bonus ::
      resize (DraftTokensApi.getDraftTokens req.draftTokens) nextDraftNum
        kFastPathPlaceholderTokenId)).length - (pre.length + 1 + req.acceptedTokens.length) =
      1 + nextDraftNum := by
    simp only [List.length_append, List.length_cons, resize_length]
    omega
  have hdraftNum : (if 1 < 1 + nextDraftNum then 1 + nextDraftNum - 1 else 0) = nextDraftNum := by
    split <;> omega
  rw [htail, hdraftNum]

/-- The block at the head of the queue is real, or no other step is in flight: the
retiring step owns it. -/
theorem tryRetireBackfillNextPlaceholderBlock_declines (req : InferRequest)
    (hown : req.getInflightCount ≤ 1 ∨
      req.forwardingTokens[req.pendingPlaceholderPositions.headD 0]? ≠
        some kFastPathPlaceholderTokenId) :
    req.tryRetireBackfillNextPlaceholderBlock = .ok (false, req) := by
  rw [tryRetireBackfillNextPlaceholderBlock, if_neg]
  rintro ⟨hcount, hplaceholder⟩
  rcases hown with hsingle | hreal
  · omega
  · exact hreal hplaceholder

/-! The branches of `updateAfterInflightTaskFinished`, in the order it takes them. -/

section Update

variable (req : InferRequest) {inflight : ScheduleTask} {queue : List ScheduleTask}
  (hinflight : req.inflightTasks = inflight :: queue)
include hinflight

theorem updateAfterInflightTaskFinished_eos (heos : req.isEosGenerated = true) :
    req.updateAfterInflightTaskFinished = .ok req.discardStepAfterEos := by
  simp [updateAfterInflightTaskFinished, hinflight, heos]

theorem updateAfterInflightTaskFinished_split (heos : req.isEosGenerated = false)
    (hsplit : req.isSplitPrefillStep = true) :
    req.updateAfterInflightTaskFinished = .ok (refreshWorkloads { req with
      generatedTokens := []
      draftTokens := DraftTokensApi.clear req.draftTokens }) := by
  simp [updateAfterInflightTaskFinished, hinflight, heos, hsplit]

theorem updateAfterInflightTaskFinished_plain (heos : req.isEosGenerated = false)
    (hsplit : req.isSplitPrefillStep = false) (hpending : req.pendingPlaceholderPositions = []) :
    req.updateAfterInflightTaskFinished =
      .ok (req.retireWithoutPlaceholder inflight.workload).refreshWorkloads := by
  simp [updateAfterInflightTaskFinished, hinflight, heos, hsplit, hpending]

theorem updateAfterInflightTaskFinished_backfill {filled : InferRequest}
    (heos : req.isEosGenerated = false) (hsplit : req.isSplitPrefillStep = false)
    (hpending : req.pendingPlaceholderPositions ≠ [])
    (hfill : req.tryRetireBackfillNextPlaceholderBlock = .ok (true, filled)) :
    req.updateAfterInflightTaskFinished = .ok filled := by
  simp [updateAfterInflightTaskFinished, hinflight, heos, hsplit, hpending, hfill, bind, Except.bind]

theorem updateAfterInflightTaskFinished_own (heos : req.isEosGenerated = false)
    (hsplit : req.isSplitPrefillStep = false) (hpending : req.pendingPlaceholderPositions ≠ [])
    (hown : req.getInflightCount ≤ 1 ∨
      req.forwardingTokens[req.pendingPlaceholderPositions.headD 0]? ≠
        some kFastPathPlaceholderTokenId) :
    req.updateAfterInflightTaskFinished = req.retireOwnPlaceholderBlockAndShift := by
  simp [updateAfterInflightTaskFinished, hinflight, heos, hsplit, hpending, bind, Except.bind,
    tryRetireBackfillNextPlaceholderBlock_declines req hown]

end Update

end KsanaBuildAhead.Runtime.InferRequest
