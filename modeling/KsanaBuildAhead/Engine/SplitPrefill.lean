import KsanaBuildAhead.Engine.SlowAccounting
import KsanaBuildAhead.Engine.StopToken
import KsanaBuildAhead.Lib.Segments
import KsanaBuildAhead.Runtime.FastPathController

/-!
# The prompt in chunks

A prompt is planned and launched chunk by chunk, and each launch copies what it sends. Whether a
chunk is the last one is asked of the planned chunk at its launch and of the oldest step at its
retirement. The copies hold every token behind the cached ones once, in order.
-/
namespace KsanaBuildAhead.Engine

open KsanaBuildAhead.Runtime KsanaBuildAhead.Lib.Execution KsanaBuildAhead.Lib.Segments

/-- What one launch sends, and the drafts the request had then. -/
structure ChunkLaunch where
  snapshot : InferRequestSerializationSnapshot
  drafts : List Int
deriving Repr, DecidableEq

namespace ChunkLaunch

/-- The tokens behind the cached ones. -/
def query (sent : ChunkLaunch) : List Int :=
  sent.snapshot.forwardingTokens.drop sent.snapshot.kvCachedTokenNum

/-- The executor writes the cache and samples nothing. -/
def IsMiddle (sent : ChunkLaunch) : Prop :=
  sent.snapshot.forwardStepKind = .prefillChunkMid ∧ sent.snapshot.samplingTokenNum = 0

def IsLast (sent : ChunkLaunch) : Prop :=
  sent.snapshot.forwardStepKind = .prefill ∧ 0 < sent.snapshot.samplingTokenNum

end ChunkLaunch

/-- A run with what its launches sent. -/
structure SplitRun where
  engine : PipelineState
  launches : List ChunkLaunch := []
deriving Repr, DecidableEq

/-- One operation; a launch copies the request it leaves. -/
def splitStep [DraftTokensApi] (fastPath : Bool) (s : SplitRun) (op : PipelineOp) :
    Except String SplitRun := do
  let engine ← pipelineStep fastPath (maxInflightDepth fastPath) s.engine op
  .ok {
    engine
    launches := match op with
      | .launch => s.launches ++ [{
          snapshot := .capture {} engine.req s.engine.req.hasInflightTask
          drafts := DraftTokensApi.getDraftTokens s.engine.req.draftTokens }]
      | _ => s.launches }

/-- The plans cut what is left of the prompt; everything else may come at any time. -/
def CutsPrompt (s : SplitRun) : PipelineOp → Prop
  | .restart _ => False
  | .plan workload =>
    0 < s.engine.req.remainingWorkload.prefillTokenNum ∧ PlanFollows s.engine.req workload
  | _ => True

instance (s : SplitRun) : (op : PipelineOp) → Decidable (CutsPrompt s op)
  | .restart _ => .isFalse id
  | .plan _ => by unfold CutsPrompt; infer_instance
  | .generateDrafts _ | .launch | .deliver _ | .finish => .isTrue trivial

/-- The launches sent the prompt behind its cached tokens, then the drafts of the last one. -/
structure CoversPrompt (prompt : List Int) (cached : Nat) (launches : List ChunkLaunch) : Prop where
  chunks : ∃ middles last, launches = middles ++ [last] ∧ (∀ sent ∈ middles, sent.IsMiddle) ∧
    last.IsLast ∧ launches.flatMap ChunkLaunch.query = prompt.drop cached ++ last.drafts

/-- Some of the prompt is still to be launched: only middle chunks were, up to there. -/
structure MiddlesSent (prompt : List Int) (cached : Nat) (s : SplitRun) : Prop where
  middle : ∀ sent ∈ s.launches, sent.IsMiddle
  behind : cached ≤ launchedPromptNum s.engine.req
  sent : s.launches.flatMap ChunkLaunch.query =
    (prompt.take (launchedPromptNum s.engine.req)).drop cached
  forwarding : s.engine.req.forwardingTokens = [] ∨
    s.engine.req.forwardingTokens = prompt.take (launchedPromptNum s.engine.req)
  chunks : ∀ task ∈ s.engine.req.inflightTasks, IsMiddleChunk s.engine.req task
  running : s.engine.req.isEosGenerated = false
  counted : s.engine.req.inflightTasks = [] →
    s.engine.req.kvCachedTokenNum = s.engine.req.forwardingTokens.length

/-- Only chunks are planned, and the launches have sent the prompt up to the one planned next. -/
structure SplitInvariant (fastPath : Bool) (prompt : List Int) (cached : Nat) (s : SplitRun) :
    Prop where
  order : PlanOrder s.engine.req
  prefilling : s.engine.req.prefillingTokens = prompt
  planned : s.engine.req.planningTask.isEmpty = false →
    0 < s.engine.req.planningTask.workload.prefillTokenNum
  remote : fastPath = true → s.engine.req.pdV2.kvFromRemote = false
  progress : (launchedPromptNum s.engine.req < prompt.length ∧ MiddlesSent prompt cached s) ∨
    (launchedPromptNum s.engine.req = prompt.length ∧ CoversPrompt prompt cached s.launches)

theorem MiddlesSent.keep {prompt : List Int} {cached : Nat} {s : SplitRun}
    (hsent : MiddlesSent prompt cached s) {engine : PipelineState}
    (hnum : launchedPromptNum engine.req = launchedPromptNum s.engine.req)
    (hforwarding : engine.req.forwardingTokens = s.engine.req.forwardingTokens)
    (hchunks : ∀ task ∈ engine.req.inflightTasks, IsMiddleChunk engine.req task)
    (hrunning : engine.req.isEosGenerated = false)
    (hcounted : engine.req.inflightTasks = [] →
      engine.req.kvCachedTokenNum = engine.req.forwardingTokens.length) :
    MiddlesSent prompt cached { s with engine } where
  middle := hsent.middle
  behind := by
    rw [hnum]
    exact hsent.behind
  sent := by
    rw [hnum]
    exact hsent.sent
  forwarding := by
    rw [hnum, hforwarding]
    exact hsent.forwarding
  chunks := hchunks
  running := hrunning
  counted := hcounted

section Launch

variable [DraftTokensApi] {fastPath : Bool} {prompt : List Int} {cached : Nat} {req : InferRequest}

omit [DraftTokensApi] in
/-- The assigned sequence of the first chunk and the appended one of a later chunk are both the
prompt up to the end of the chunk. -/
theorem chunkTokens_eq_take
    (hforwarding : req.forwardingTokens = [] ∨ req.forwardingTokens =
      req.prefillingTokens.take req.planningTask.workload.prefillStartOffset) :
    req.chunkTokens req.planningTask.workload = req.prefillingTokens.take
      (req.planningTask.workload.prefillStartOffset +
        req.planningTask.workload.prefillTokenNum) := by
  unfold InferRequest.chunkTokens
  split
  case isTrue hlength =>
    rw [List.take_add, hlength]
    rcases hforwarding with hnil | htake
    · rw [hnil] at hlength
      rw [hnil, ← hlength]
      rfl
    · rw [← htake]
  case isFalse => rfl

/-- What the launch of a chunk sends. -/
def chunkLaunch (req : InferRequest) (kvCachedTokenNum : Nat) (prefixCacheLen : Int) :
    ChunkLaunch where
  snapshot := .capture {} (req.launchedChunk kvCachedTokenNum prefixCacheLen) req.hasInflightTask
  drafts := DraftTokensApi.getDraftTokens req.draftTokens

theorem query_chunkLaunch (kv : Nat) (cacheLen : Int) :
    (chunkLaunch req kv cacheLen).query =
      (req.chunkTokens req.planningTask.workload ++ req.chunkDrafts).drop kv := rfl

theorem launchedPromptNum_launchedChunk (horder : PlanOrder req)
    (hprefill : 0 < req.planningTask.workload.prefillTokenNum) (kv : Nat) (cacheLen : Int) :
    launchedPromptNum (req.launchedChunk kv cacheLen) =
      launchedPromptNum req + req.planningTask.workload.prefillTokenNum := by
  have hidle : launchedPromptNum (req.launchedChunk kv cacheLen) =
      req.remainingWorkload.prefillStartOffset := if_neg (Nat.lt_irrefl 0)
  have hchunk := horder.chunk hprefill
  have hstart := launchedPromptNum_of_chunk hprefill
  omega

theorem plansLastChunk_iff (horder : PlanOrder req)
    (hprefill : 0 < req.planningTask.workload.prefillTokenNum) (kv : Nat) (cacheLen : Int) :
    req.plansLastChunk ↔
      req.prefillingTokens.length ≤ launchedPromptNum (req.launchedChunk kv cacheLen) := by
  have hnum := launchedPromptNum_launchedChunk horder hprefill kv cacheLen
  have hstart := launchedPromptNum_of_chunk hprefill
  unfold InferRequest.plansLastChunk
  omega

section Chunk

variable {s : SplitRun} {kv : Nat} {cacheLen : Int}

theorem MiddlesSent.sent_chunk (hsent : MiddlesSent prompt cached s)
    (hopen : launchedPromptNum s.engine.req < prompt.length)
    (hkv : kv = launchedPromptNum s.engine.req)
    (hnum : launchedPromptNum (s.engine.req.launchedChunk kv cacheLen) =
      launchedPromptNum s.engine.req + s.engine.req.planningTask.workload.prefillTokenNum)
    (htokens : s.engine.req.chunkTokens s.engine.req.planningTask.workload =
      prompt.take (launchedPromptNum (s.engine.req.launchedChunk kv cacheLen))) :
    (s.launches ++ [chunkLaunch s.engine.req kv cacheLen]).flatMap ChunkLaunch.query =
      (prompt.take (launchedPromptNum (s.engine.req.launchedChunk kv cacheLen))).drop cached ++
        s.engine.req.chunkDrafts := by
  rw [List.flatMap_append, List.flatMap_singleton, hsent.sent, query_chunkLaunch, htokens, hnum,
    ← drop_take_append hsent.behind (Nat.le_of_lt hopen), hkv, List.drop_append_of_le_length,
    List.append_assoc]
  rw [List.length_take]
  omega

/-- With the last chunk the whole prompt is sent, and the drafts behind it. -/
theorem MiddlesSent.covers (hsent : MiddlesSent prompt cached s)
    (hlast : s.engine.req.plansLastChunk)
    (hqueries : (s.launches ++ [chunkLaunch s.engine.req kv cacheLen]).flatMap ChunkLaunch.query =
      prompt.drop cached ++ s.engine.req.chunkDrafts) :
    CoversPrompt prompt cached (s.launches ++ [chunkLaunch s.engine.req kv cacheLen]) := by
  refine ⟨s.launches, _, rfl, hsent.middle, ⟨if_pos hlast, ?_⟩, ?_⟩
  · show 0 < if s.engine.req.plansLastChunk then _ else _
    rw [if_pos hlast]
    omega
  · rw [hqueries]
    exact congrArg _ (if_pos hlast)

theorem MiddlesSent.chunk (hsent : MiddlesSent prompt cached s)
    (hprefill : 0 < s.engine.req.planningTask.workload.prefillTokenNum)
    (hnum : launchedPromptNum (s.engine.req.launchedChunk kv cacheLen) =
      launchedPromptNum s.engine.req + s.engine.req.planningTask.workload.prefillTokenNum)
    (htokens : s.engine.req.chunkTokens s.engine.req.planningTask.workload =
      prompt.take (launchedPromptNum (s.engine.req.launchedChunk kv cacheLen)))
    (hmore : ¬s.engine.req.plansLastChunk)
    (hqueries : (s.launches ++ [chunkLaunch s.engine.req kv cacheLen]).flatMap ChunkLaunch.query =
      (prompt.take (launchedPromptNum (s.engine.req.launchedChunk kv cacheLen))).drop cached ++
        s.engine.req.chunkDrafts) (draftStarts : List Nat) :
    MiddlesSent prompt cached
      { engine := { s.engine with req := s.engine.req.launchedChunk kv cacheLen, draftStarts }
        launches := s.launches ++ [chunkLaunch s.engine.req kv cacheLen] } := by
  have hdrafts : s.engine.req.chunkDrafts = [] := if_neg hmore
  rw [hdrafts, List.append_nil] at hqueries
  exact {
    middle := by
      intro sent hmem
      rcases List.mem_append.mp hmem with hold | hnew
      · exact hsent.middle sent hold
      · obtain rfl := List.mem_singleton.mp hnew
        exact ⟨if_neg hmore, if_neg hmore⟩
    behind := by
      have hbehind := hsent.behind
      show cached ≤ launchedPromptNum (s.engine.req.launchedChunk kv cacheLen)
      omega
    sent := hqueries
    forwarding := Or.inr <| by
      show s.engine.req.chunkTokens s.engine.req.planningTask.workload ++
        s.engine.req.chunkDrafts = _
      rw [hdrafts, List.append_nil, htokens]
    chunks := by
      intro task hmem
      rcases List.mem_append.mp hmem with hold | hnew
      · exact hsent.chunks task hold
      · obtain rfl := List.mem_singleton.mp hnew
        exact ⟨hprefill, Nat.lt_of_not_le hmore⟩
    running := hsent.running
    counted := fun hnone => absurd hnone (List.append_ne_nil_of_right_ne_nil _ (by simp)) }

end Chunk

theorem SplitInvariant.launch {s : SplitRun} (hs : SplitInvariant fastPath prompt cached s)
    {launched : InferRequest} {draftStarts : List Nat}
    (h : launch fastPath (maxInflightDepth fastPath) s.engine.req = .ok launched) :
    SplitInvariant fastPath prompt cached
      { engine := { s.engine with req := launched, draftStarts }
        launches := s.launches ++ [{
          snapshot := .capture {} launched s.engine.req.hasInflightTask
          drafts := DraftTokensApi.getDraftTokens s.engine.req.draftTokens }] } := by
  obtain ⟨hplanned, hroom, hlaunch⟩ := launch_ok h
  have hprefill := hs.planned hplanned
  have horder := hs.order.launch hlaunch
  have hstart := launchedPromptNum_of_chunk hprefill
  obtain ⟨-, -, -, hcase⟩ := InferRequest.launchPlanningTask_cases hlaunch
  cases hcase with
  | block kv cacheLen hdecode => omega
  | real kv cacheLen hdecode => omega
  | chunk kv cacheLen _ hcached =>
    have hnum := launchedPromptNum_launchedChunk hs.order hprefill kv cacheLen
    have hend := plansLastChunk_iff hs.order hprefill kv cacheLen
    have hwithin : launchedPromptNum (s.engine.req.launchedChunk kv cacheLen) ≤ prompt.length := by
      have hchunk := hs.order.chunk hprefill
      have htotal := hs.order.total
      rw [hs.prefilling] at htotal
      omega
    rw [hs.prefilling] at hend
    obtain ⟨hopen, hsent⟩ := hs.progress.resolve_right fun hdone => by omega
    have hkv : kv = launchedPromptNum s.engine.req := by
      rw [← hstart]
      refine hcached ?_
      cases hfast : fastPath with
      | true => exact Or.inl (hs.remote hfast)
      | false =>
        rw [hfast] at hroom
        exact Or.inr (hsent.counted (List.length_eq_zero_iff.mp (Nat.lt_one_iff.mp hroom)))
    have htokens : s.engine.req.chunkTokens s.engine.req.planningTask.workload =
        prompt.take (launchedPromptNum (s.engine.req.launchedChunk kv cacheLen)) := by
      rw [chunkTokens_eq_take (by rw [hstart, hs.prefilling]; exact hsent.forwarding), hnum,
        hstart, hs.prefilling]
    have hqueries := hsent.sent_chunk hopen hkv hnum htokens
    refine {
      order := horder
      prefilling := hs.prefilling
      planned := fun (hnone : true = false) => nomatch hnone
      remote := hs.remote
      progress := ?_ }
    by_cases hlast : s.engine.req.plansLastChunk
    · have hwhole := Nat.le_antisymm hwithin (hend.mp hlast)
      rw [hwhole, List.take_length] at hqueries
      exact Or.inr ⟨hwhole, hsent.covers hlast hqueries⟩
    · have hmore := Nat.lt_of_not_le (mt hend.mpr hlast)
      exact Or.inl ⟨hmore,
        hsent.chunk hprefill hnum htokens hlast hqueries draftStarts⟩

end Launch

section Retire

variable [DraftTokensApi] {fastPath : Bool} {prompt : List Int} {cached : Nat}
  {req updated : InferRequest}

/-- The retirement of a middle chunk gives up its place in flight and keeps the tokens. -/
theorem middleChunk_retired (h : req.updateAfterInflightTaskFinished = .ok updated)
    (hsplit : req.isSplitPrefillStep = true) :
    updated.outputTokens = req.outputTokens ∧ updated.forwardingTokens = req.forwardingTokens ∧
      (req.isEosGenerated = false → updated.isEosGenerated = false ∧
        updated.kvCachedTokenNum = updated.forwardingTokens.length) := by
  obtain ⟨-, hcase⟩ := InferRequest.updateAfterInflightTaskFinished_cases h
  cases hcase with
  | afterEos heos =>
    refine ⟨rfl, rfl, fun hrunning => ?_⟩
    rw [heos] at hrunning
    cases hrunning
  | middleChunk heos _ =>
    obtain ⟨houtput, hforwarding, -, hkv, hrunning⟩ := InferRequest.refreshWorkloads_tokens
      { req with generatedTokens := [], draftTokens := DraftTokensApi.clear req.draftTokens }
    exact ⟨houtput, hforwarding, fun _ => ⟨hrunning.trans heos, hkv.trans
      (congrArg List.length hforwarding.symm)⟩⟩
  | plain _ _ _ _ hwhole | backfill _ hwhole | own _ hwhole =>
    rw [hsplit] at hwhole
    cases hwhole

theorem SplitInvariant.finish {s : SplitRun} (hs : SplitInvariant fastPath prompt cached s)
    {result : StepResult} {engine : PipelineState}
    (h : finishOldest s.engine result = .ok engine) :
    SplitInvariant fastPath prompt cached { s with engine } := by
  obtain ⟨updated, hupdate, h⟩ := bind_ok h
  obtain rfl := Except.ok.inj h
  have hsame := updateAfterInflightTaskFinished_sameOrder hupdate
  have hnum : launchedPromptNum updated.resetInflightTask = launchedPromptNum s.engine.req := by
    show launchedPromptNum updated = _
    rw [launchedPromptNum, launchedPromptNum, hsame.task, hsame.offset]
  have hpayload := (updateAfterInflightTaskFinished_stage hupdate).1
  refine {
    order := (hs.order.congr hsame).resetInflightTask
    prefilling := hsame.prefilling.trans hs.prefilling
    planned := fun hplanned => ?_
    remote := fun hfast => ?_
    progress := ?_ }
  · have htask : updated.resetInflightTask.planningTask = s.engine.req.planningTask := hsame.task
    rw [htask] at hplanned ⊢
    exact hs.planned hplanned
  · have hpd : updated.resetInflightTask.pdV2 = s.engine.req.pdV2 :=
      congrArg RequestPayload.pdV2 hpayload
    rw [hpd]
    exact hs.remote hfast
  · rcases hs.progress with ⟨hopen, hsent⟩ | ⟨hdone, hcovers⟩
    · left
      have hsplit : s.engine.req.isSplitPrefillStep = true := by
        have hsome := (InferRequest.updateAfterInflightTaskFinished_cases hupdate).1
        obtain ⟨oldest, queue, hinflight⟩ := List.exists_cons_of_ne_nil hsome
        exact (isSplitPrefillStep_iff hinflight).mpr
          (hsent.chunks oldest (by rw [hinflight]; exact List.mem_cons_self))
      obtain ⟨-, hforwarding, hrunning⟩ := middleChunk_retired hupdate hsplit
      obtain ⟨hgoes, hkv⟩ := hrunning hsent.running
      refine ⟨hnum.trans_lt hopen, hsent.keep hnum hforwarding ?_ hgoes fun _ => hkv⟩
      intro task hmem
      have hold : task ∈ s.engine.req.inflightTasks := by
        rw [← hsame.inflight]
        exact List.mem_of_mem_tail hmem
      have hmiddle := hsent.chunks task hold
      rw [IsMiddleChunk, ← hsame.prefilling] at hmiddle
      exact hmiddle
    · right
      exact ⟨hnum.trans hdone, hcovers⟩

end Retire

section Run

variable [DraftTokensApi] {fastPath : Bool} {prompt : List Int} {cached : Nat} {s t : SplitRun}
  {op : PipelineOp}

omit [DraftTokensApi] in
theorem SplitInvariant.congr (hs : SplitInvariant fastPath prompt cached s)
    {engine : PipelineState} {draftTokens : DraftTokens} {generated accepted : List Int}
    (hreq : engine.req = { s.engine.req with
      draftTokens, generatedTokens := generated, acceptedTokens := accepted }) :
    SplitInvariant fastPath prompt cached { s with engine } := by
  obtain ⟨req, delivered, draftStarts, history⟩ := engine
  obtain rfl := hreq
  refine {
    order := hs.order.congr ⟨rfl, rfl, rfl, rfl, rfl, id, fun _ => rfl⟩
    prefilling := hs.prefilling
    planned := hs.planned
    remote := hs.remote
    progress := ?_ }
  rcases hs.progress with ⟨hopen, hsent⟩ | hdone
  · exact Or.inl ⟨hopen, hsent.keep rfl rfl hsent.chunks hsent.running hsent.counted⟩
  · exact Or.inr hdone

omit [DraftTokensApi] in
/-- The chunk that is now planned starts where the next plan would have. -/
theorem SplitInvariant.plan (hs : SplitInvariant fastPath prompt cached s)
    {workload : ScheduleTaskWorkload} {planned : InferRequest}
    (hop : CutsPrompt s (.plan workload))
    (h : (s.engine.req.setPlanningWorkload workload).setPlanningTask = .ok planned) :
    SplitInvariant fastPath prompt cached { s with engine := { s.engine with req := planned } } := by
  have horder := hs.order.plan hop.2 h
  obtain ⟨hempty, -, rfl⟩ := plan_ok h
  have hleft : 0 < s.engine.req.remainingWorkload.prefillTokenNum := hop.1
  obtain ⟨hstart, hpositive⟩ : workload.prefillStartOffset =
      s.engine.req.remainingWorkload.prefillStartOffset ∧ 0 < workload.prefillTokenNum := by
    have hfollows := hop.2
    rwa [PlanFollows, if_pos hleft] at hfollows
  have hnone := ScheduleTask.prefillTokenNum_of_isEmpty hempty
  have hnum : workload.prefillStartOffset = launchedPromptNum s.engine.req := by
    rw [launchedPromptNum, if_neg (by omega), hstart]
  refine {
    order := horder
    prefilling := hs.prefilling
    planned := fun _ => hpositive
    remote := hs.remote
    progress := ?_ }
  rw [← launchedPromptNum_of_chunk (by exact hpositive)]
  rcases hs.progress with ⟨hopen, hsent⟩ | ⟨hdone, hcovers⟩
  · refine Or.inl ⟨hnum.trans_lt hopen, hsent.keep ?_ rfl hsent.chunks hsent.running hsent.counted⟩
    rw [← launchedPromptNum_of_chunk (by exact hpositive)]
    exact hnum
  · exact Or.inr ⟨hnum.trans hdone, hcovers⟩

theorem SplitInvariant.step (hs : SplitInvariant fastPath prompt cached s) (hop : CutsPrompt s op)
    (h : splitStep fastPath s op = .ok t) : SplitInvariant fastPath prompt cached t := by
  obtain ⟨engine, hstep, h⟩ := bind_ok h
  obtain rfl := Except.ok.inj h
  cases op with
  | restart cached => exact hop.elim
  | generateDrafts drafts =>
    obtain rfl := Except.ok.inj hstep
    exact hs.congr rfl
  | plan workload =>
    obtain ⟨planned, hplan, hstep⟩ := bind_ok hstep
    obtain rfl := Except.ok.inj hstep
    exact hs.plan hop hplan
  | launch =>
    obtain ⟨launched, hlaunch, hstep⟩ := bind_ok hstep
    obtain rfl := Except.ok.inj hstep
    exact hs.launch hlaunch
  | deliver result =>
    obtain ⟨-, hstep⟩ := check_bind_ok hstep
    obtain rfl := Except.ok.inj hstep
    exact hs.congr rfl
  | finish =>
    rw [pipelineStep] at hstep
    split at hstep
    · cases hstep
    · exact hs.finish hstep

/-- What a run has sent of the prompt, and what the next retirement does to it. -/
structure SplitsPrompt (fastPath : Bool) (prompt : List Int) (cached : Nat) (s : SplitRun) :
    Prop where
  /-- All of the prompt is launched. -/
  whole : s.engine.req.remainingWorkload.prefillTokenNum = 0 →
    s.engine.req.planningTask.isEmpty = true → CoversPrompt prompt cached s.launches
  /-- A chunk is planned or still to be planned. -/
  part : 0 < s.engine.req.remainingWorkload.prefillTokenNum ∨
      s.engine.req.planningTask.isEmpty = false →
    (∀ sent ∈ s.launches, sent.IsMiddle) ∧ s.launches.flatMap ChunkLaunch.query =
      (prompt.take (launchedPromptNum s.engine.req)).drop cached
  retired : ∀ t, splitStep fastPath s .finish = .ok t → s.engine.req.isSplitPrefillStep = true →
    t.engine.req.outputTokens = s.engine.req.outputTokens ∧
      t.engine.req.forwardingTokens = s.engine.req.forwardingTokens ∧
      t.engine.req.inflightTasks = s.engine.req.inflightTasks.tail ∧ t.launches = s.launches

theorem SplitInvariant.splits (hs : SplitInvariant fastPath prompt cached s) :
    SplitsPrompt fastPath prompt cached s := by
  have htotal := hs.order.total
  rw [hs.prefilling] at htotal
  refine ⟨fun hleft hempty => ?_, fun hmore => ?_, fun t h hsplit => ?_⟩
  · have hnone := ScheduleTask.prefillTokenNum_of_isEmpty hempty
    have hend : launchedPromptNum s.engine.req = prompt.length := by
      rw [launchedPromptNum, if_neg (by omega)]
      omega
    exact (hs.progress.resolve_left fun hopen => by omega).2
  · have hopen : launchedPromptNum s.engine.req < prompt.length := by
      rw [launchedPromptNum]
      split
      · rename_i hprefill
        have hchunk := hs.order.chunk hprefill
        omega
      · rename_i hnone
        have hleft := hmore.resolve_right fun hplanned => hnone (hs.planned hplanned)
        omega
    have hsent := (hs.progress.resolve_right fun hdone => by omega).2
    exact ⟨hsent.middle, hsent.sent⟩
  · obtain ⟨engine, hstep, h⟩ := bind_ok h
    obtain rfl := Except.ok.inj h
    rw [pipelineStep] at hstep
    split at hstep
    · cases hstep
    · obtain ⟨updated, hupdate, hstep⟩ := bind_ok hstep
      obtain rfl := Except.ok.inj hstep
      obtain ⟨houtput, hforwarding, -⟩ := middleChunk_retired hupdate hsplit
      exact ⟨houtput, hforwarding,
        congrArg List.tail (updateAfterInflightTaskFinished_sameOrder hupdate).inflight, rfl⟩

theorem SplitInvariant.admitted (start : InferRequest)
    (hcached : cached < start.outputTokens.length)
    (hlocal : fastPath = true → start.pdV2.kvFromRemote = false) :
    SplitInvariant fastPath start.outputTokens cached
      { engine := { req := Engine.admitted start cached } } where
  order := .admitted (Nat.le_of_lt hcached)
  prefilling := rfl
  planned := fun (hnone : true = false) => nomatch hnone
  remote := hlocal
  progress := Or.inl ⟨hcached, {
    middle := fun _ hmem => absurd hmem List.not_mem_nil
    behind := Nat.le_refl _
    sent := by
      have hnum : launchedPromptNum (Engine.admitted start cached) = cached := rfl
      rw [hnum, List.drop_take_self]
      rfl
    forwarding := Or.inl rfl
    chunks := fun _ hmem => absurd hmem List.not_mem_nil
    running := rfl
    counted := fun _ => rfl }⟩

/-- Any way of cutting the prompt and any order of plans, launches and retirements sends the
prompt behind its cached tokens once. KV comes from a remote peer only where prefill and decode
are separated, and there the start-up gate leaves one step in flight. -/
theorem split_prefill_covers_prompt (schedCfg : BatchSchedulerConfig) (runtimeCfg : RuntimeConfig)
    (start : InferRequest) (cached : Nat) (ops : List PipelineOp)
    (hcached : cached < start.outputTokens.length)
    (hremote : start.pdV2.kvFromRemote = true → runtimeCfg.separatePrefillDecode = true)
    (hrun : exec (splitStep
        (FastPathController.initializeAtStartup schedCfg runtimeCfg).enabledAtStartup)
      { engine := { req := admitted start cached } } ops = .ok s)
    (hsteps : EachStep (splitStep
        (FastPathController.initializeAtStartup schedCfg runtimeCfg).enabledAtStartup) CutsPrompt
      { engine := { req := admitted start cached } } ops) :
    SplitsPrompt (FastPathController.initializeAtStartup schedCfg runtimeCfg).enabledAtStartup
      start.outputTokens cached s := by
  have hlocal : (FastPathController.initializeAtStartup schedCfg runtimeCfg).enabledAtStartup =
      true → start.pdV2.kvFromRemote = false := by
    intro henabled
    have hgate := (FastPathController.initializeAtStartup_enabled_iff _ _).mp henabled
    refine eq_false_of_ne_true fun hkv => ?_
    have hseparate := hremote hkv
    rw [hgate.noSeparation] at hseparate
    cases hseparate
  exact (exec_invariant_of (fun _ _ _ hs hop h => SplitInvariant.step hs hop h)
    (.admitted start hcached hlocal) hsteps hrun).splits

end Run

/-- The gate lets this configuration through. -/
def aheadConfig : BatchSchedulerConfig where
  enableAsync := true
  enableExecutorBuildAhead := true

/-- A prompt in two chunks, the second launched with a draft while the first is in flight. -/
def splitSampleRun : List PipelineOp :=
  [.plan { prefillTokenNum := 1 }, .launch, .plan { prefillTokenNum := 1, prefillStartOffset := 1 },
    .generateDrafts { mtp := [40] }, .launch, .deliver {}]

theorem split_prefill_covers_prompt_sample :
    letI := concatDraftTokens
    ∃ s, exec (splitStep true) { engine := { req := admitted drainSample 0 } } splitSampleRun =
        .ok s ∧
      s.launches.map ChunkLaunch.query = [[11], [12, 40]] ∧ SplitsPrompt true [11, 12] 0 s := by
  let _ := concatDraftTokens
  have hsteps : EachStep (splitStep true) CutsPrompt
      { engine := { req := admitted drainSample 0 } } splitSampleRun :=
    eachStep_of_check (by decide +kernel)
  exact ⟨_, rfl, rfl, split_prefill_covers_prompt aheadConfig {} drainSample 0 splitSampleRun
    (by decide) (by decide) rfl hsteps⟩

end KsanaBuildAhead.Engine
