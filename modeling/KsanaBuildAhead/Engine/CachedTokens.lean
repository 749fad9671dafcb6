import KsanaBuildAhead.Engine.PlanningLength
import Mathlib.Algebra.Order.Ring.Int

/-!
# How many tokens count as cached

Each step in flight forwards the tokens from where its query begins, and the KV of those
tokens is there once it has retired. The count of cached tokens should not reach past
them. A retirement sets it from the length of the sequence, with the tokens of the step
behind in it, unless the queue of placeholder blocks tells the two apart.
-/
namespace KsanaBuildAhead.Engine

open KsanaBuildAhead.Runtime KsanaBuildAhead.Lib.ListEdit KsanaBuildAhead.Lib.Execution

/-- Where the tokens a step forwards lie in the sequence. -/
structure StepQuery where
  start : Nat := 0
  length : Nat := 0
deriving DecidableEq

/-- Where the query of the planned step will begin. -/
def queryStart (req : InferRequest) : Nat :=
  if 0 < req.planningTask.workload.prefillTokenNum then
    req.planningTask.workload.prefillStartOffset
  else req.forwardingTokens.length

/-- The drafts the oldest step had rejected; a middle chunk verifies none. -/
def rejectedDrafts (req : InferRequest) : Nat :=
  if req.isSplitPrefillStep then 0 else oldestDraftNum req - req.acceptedTokens.length

/-- A run with the query of each step in flight, and how many tokens are forwarded for good:
those found cached and those of the retired steps, without the rejected drafts. -/
structure CountedRun where
  engine : PipelineState
  queries : List StepQuery := []
  forwarded : Nat := 0
deriving DecidableEq

/-- A retirement moves the query of the step behind up by what it trimmed. -/
def countedStep [DraftTokensApi] (fastPath : Bool) (s : CountedRun) (op : PipelineOp) :
    Except String CountedRun := do
  let engine ← pipelineStep fastPath (maxInflightDepth fastPath) s.engine op
  .ok (match op with
    | .restart cached => { engine := engine, forwarded := cached }
    | .launch =>
      let start := queryStart s.engine.req
      { s with
        engine := engine
        queries := s.queries ++ [⟨start, engine.req.forwardingTokens.length - start⟩] }
    | .finish =>
      let trimmed := s.engine.req.forwardingTokens.length - engine.req.forwardingTokens.length
      { engine := engine
        queries := s.queries.tail.map fun query => { query with start := query.start - trimmed }
        forwarded := s.forwarded +
          ((s.queries.headD {}).length - rejectedDrafts s.engine.req) }
    | _ => { s with engine := engine })

/-- The count of cached tokens keeps behind the device: with a step in flight it ends where
the query of that step begins, and with none it counts only what was forwarded for good. -/
structure CountsCachedTokens (s : CountedRun) : Prop where
  inflight : ∀ step steps, s.engine.req.inflightTasks = step :: steps →
    ∃ query queries, s.queries = query :: queries ∧
      s.engine.req.kvCachedTokenNum ≤ query.start ∧
      query.start + query.length = s.engine.req.forwardingTokens.length
  idle : s.engine.req.inflightTasks = [] → s.engine.req.kvCachedTokenNum ≤ s.forwarded

/-- The retirement of the oldest step does not end with a stop token. -/
def GoesOn (req : InferRequest) : Prop :=
  req.isEosGenerated = false ∧ (req.isSplitPrefillStep = false →
    ∀ token ∈ req.generatedTokens, token ∉ req.samplingConfig.stopTokenIds)

/-- The oldest step retires in front of another one only through the queue of blocks: it is
no middle chunk, a block is pending, and if that block is the next step's then the oldest
had no draft rejected. -/
def RetiresThroughBlock (req : InferRequest) : Prop :=
  req.isSplitPrefillStep = false ∧ req.pendingPlaceholderPositions ≠ [] ∧
    (req.FillsNextBlock → oldestDraftNum req = req.acceptedTokens.length)

def CountsOnFinish (s : CountedRun) (op : PipelineOp) : Prop :=
  op = .finish → GoesOn s.engine.req → 1 < s.engine.req.inflightTasks.length →
    RetiresThroughBlock s.engine.req

instance (req : InferRequest) : Decidable (GoesOn req) :=
  inferInstanceAs (Decidable (_ ∧ (_ → _)))

instance (req : InferRequest) : Decidable (RetiresThroughBlock req) :=
  inferInstanceAs (Decidable (_ ∧ _ ∧ (_ → _)))

instance (s : CountedRun) (op : PipelineOp) : Decidable (CountsOnFinish s op) := by
  unfold CountsOnFinish
  infer_instance

section Launch

variable [DraftTokensApi] {fastPath usePlaceholder : Bool} {req launched : InferRequest}

/-- A launch counts as cached at most the tokens in front of the query. -/
theorem launched_kvCachedTokenNum (hreq : req.kvCachedTokenNum ≤ req.forwardingTokens.length)
    (h : req.launchPlanningTask fastPath usePlaceholder = .ok launched) :
    launched.kvCachedTokenNum ≤ queryStart req := by
  obtain ⟨-, h⟩ := check_bind_ok h
  obtain ⟨-, h⟩ := check_bind_ok h
  obtain ⟨-, h⟩ := check_bind_ok h
  obtain ⟨⟨pushed, workload⟩, hbranch, h⟩ := bind_ok h
  cases h
  have hstart : req.startLaunch.kvCachedTokenNum ≤ req.forwardingTokens.length ∧
      req.startLaunch.forwardingTokens = req.forwardingTokens := by
    rw [InferRequest.startLaunch]
    split
    · exact ⟨hreq, rfl⟩
    · exact ⟨Nat.le_refl _, rfl⟩
  show pushed.kvCachedTokenNum ≤ _
  rw [InferRequest.launchWorkload] at hbranch
  split at hbranch
  · rename_i hprefill
    obtain ⟨kv, cacheLen, hchunk, hkv⟩ :=
      InferRequest.launchPrefill_eq req.startLaunch req.planningTask.workload
    obtain ⟨rfl, -⟩ := Prod.mk.inj ((Except.ok.inj hbranch).symm.trans hchunk)
    rw [queryStart, if_pos hprefill]
    show kv ≤ _
    rw [hkv, hstart.2]
    split
    · omega
    · exact Nat.le_refl _
  · rename_i hdecode
    rw [queryStart, if_neg hdecode]
    obtain ⟨-, hbranch⟩ := check_bind_ok hbranch
    dsimp only at hbranch
    split at hbranch
    · cases hbranch
      exact hstart.1
    · obtain ⟨-, hbranch⟩ := check_bind_ok hbranch
      cases hbranch
      exact hstart.1

omit [DraftTokensApi] in
theorem chunkTokens_of_planned (horder : PlanOrder req)
    (hprefill : 0 < req.planningTask.workload.prefillTokenNum) :
    (req.chunkTokens req.planningTask.workload).length =
      req.planningTask.workload.prefillStartOffset +
        req.planningTask.workload.prefillTokenNum := by
  have hchunk := horder.chunk hprefill
  have htotal := horder.total
  exact chunkTokens_length (by omega)

theorem queryStart_le_launched (horder : PlanOrder req)
    (h : req.launchPlanningTask fastPath usePlaceholder = .ok launched) :
    queryStart req + req.planningTask.workload.prefillTokenNum ≤
      launched.forwardingTokens.length := by
  obtain ⟨-, -, -, hcase⟩ := InferRequest.launchPlanningTask_cases h
  rw [queryStart]
  cases hcase with
  | chunk kv cacheLen hprefill hcached =>
    have hlength := chunkTokens_of_planned horder hprefill
    rw [if_pos hprefill]
    simp only [InferRequest.launchedChunk, List.length_append]
    omega
  | block kv cacheLen hdecode hplaceholder hcached =>
    rw [if_neg (by omega), hdecode]
    simp only [InferRequest.launchedBlock, List.length_append]
    omega
  | real kv cacheLen hdecode hreal hfits hcached =>
    rw [if_neg (by omega), hdecode]
    simp only [InferRequest.launchedReal, List.length_append]
    omega

/-- The newest step's drafts are in its query; when it samples, no prompt is left. -/
theorem launched_newest (horder : PlanOrder req)
    (h : req.launchPlanningTask fastPath usePlaceholder = .ok launched) :
    launched.remainingWorkload = req.remainingWorkload ∧
      ∃ task, launched.inflightTasks = req.inflightTasks ++ [task] ∧
        (¬ IsMiddleChunk launched task →
          queryStart req + task.workload.draftTokenNum ≤ launched.forwardingTokens.length ∧
            req.remainingWorkload.prefillTokenNum = 0) := by
  have hstart := queryStart_le_launched horder h
  obtain ⟨hplanned, -, -, hcase⟩ := InferRequest.launchPlanningTask_cases h
  cases hcase with
  | chunk kv cacheLen hprefill hcached =>
    refine ⟨rfl, _, rfl, fun hlast => ?_⟩
    have hchunk := horder.chunk hprefill
    have htotal := horder.total
    have hends : req.plansLastChunk := by
      by_contra hshort
      exact hlast ⟨hprefill, Nat.lt_of_not_le hshort⟩
    have hlength := chunkTokens_of_planned horder hprefill
    rw [queryStart, if_pos hprefill]
    simp only [InferRequest.launchedChunk, if_pos hends, List.length_append]
    rw [InferRequest.plansLastChunk] at hends
    omega
  | block kv cacheLen hdecode hplaceholder hcached =>
    refine ⟨rfl, _, rfl, fun _ => ⟨?_, horder.decode hplanned hdecode⟩⟩
    rw [queryStart, if_neg (by omega)]
    simp only [InferRequest.launchedBlock, List.length_append, List.length_replicate]
    omega
  | real kv cacheLen hdecode hreal hfits hcached =>
    refine ⟨rfl, _, rfl, fun _ => ⟨?_, horder.decode hplanned hdecode⟩⟩
    rw [queryStart, if_neg (by omega)]
    simp only [InferRequest.launchedReal, List.length_append]
    omega

end Launch

/-- The tokens the run has forwarded or is forwarding. -/
def CountedRun.total (s : CountedRun) : Nat :=
  s.forwarded + (s.queries.map StepQuery.length).sum

/-- Before a stop token: the steps in flight have a shape and the newest query ends the
sequence; the count of cached tokens stays in front of it. -/
structure QueriesFollow (s : CountedRun) : Prop where
  shape : StepShape (fun _ => True) s.engine.req s.engine.draftStarts
  drafts : List.Forall₂ (fun task query => ¬ IsMiddleChunk s.engine.req task →
    task.workload.draftTokenNum ≤ query.length) s.engine.req.inflightTasks s.queries
  sampled : ∀ task ∈ s.engine.req.inflightTasks, ¬ IsMiddleChunk s.engine.req task →
    s.engine.req.remainingWorkload.prefillTokenNum = 0 ∧
      s.engine.req.planningTask.workload.prefillTokenNum = 0
  sequence : s.engine.req.forwardingTokens.length ≤ s.total
  prompt : 0 < s.engine.req.remainingWorkload.prefillTokenNum ∨
      0 < s.engine.req.planningTask.workload.prefillTokenNum →
    s.engine.req.remainingWorkload.prefillStartOffset ≤
      s.total + s.engine.req.planningTask.workload.prefillTokenNum
  newest : ∀ query ∈ s.queries.getLast?,
    query.start + query.length = s.engine.req.forwardingTokens.length ∧
      s.engine.req.kvCachedTokenNum ≤ query.start
  idle : s.engine.req.inflightTasks = [] → s.engine.req.kvCachedTokenNum ≤ s.forwarded
  bounded : s.engine.req.kvCachedTokenNum ≤ s.engine.req.forwardingTokens.length
  behind : s.engine.req.pendingPlaceholderPositions ≠ [] →
    ∀ older newer, s.engine.req.inflightTasks = [older, newer] →
      ∀ start ∈ s.engine.draftStarts.getLast?, ∀ query ∈ s.queries.getLast?,
        start ≤ query.start + 1

section Follow

variable [DraftTokensApi] {fastPath : Bool} {s : CountedRun}

/-- The state after a launch. -/
def pushQuery (s : CountedRun) (launched : InferRequest) : CountedRun where
  engine := { s.engine with
    req := launched
    draftStarts := s.engine.draftStarts ++
      [launched.forwardingTokens.length - launched.forwardingTokensDraftNum] }
  queries := s.queries ++ [⟨queryStart s.engine.req,
    launched.forwardingTokens.length - queryStart s.engine.req⟩]
  forwarded := s.forwarded

omit [DraftTokensApi] in
theorem pushQuery_total (s : CountedRun) (launched : InferRequest) :
    (pushQuery s launched).total =
      s.total + (launched.forwardingTokens.length - queryStart s.engine.req) := by
  simp [CountedRun.total, pushQuery, Nat.add_assoc]

/-- A decode step launched in front of a pending block adds one token before its drafts. -/
theorem launched_behind {launched : InferRequest} {older newer : ScheduleTask}
    (hshape : StepShape (fun _ => True) s.engine.req s.engine.draftStarts)
    (horder : PlanOrder s.engine.req)
    (h : s.engine.req.launchPlanningTask fastPath s.engine.req.hasInflightTask = .ok launched)
    (hpending : launched.pendingPlaceholderPositions ≠ [])
    (hinflight : launched.inflightTasks = [older, newer]) :
    launched.forwardingTokens.length - launched.forwardingTokensDraftNum ≤
      queryStart s.engine.req + 1 := by
  obtain ⟨-, hroom, huse, hcase⟩ := InferRequest.launchPlanningTask_cases h
  cases hcase with
  | chunk kv cacheLen hprefill hcached => exact absurd (horder.noBlock (Or.inr hprefill)) hpending
  | block kv cacheLen hdecode hplaceholder hcached =>
    rw [queryStart, if_neg (by omega)]
    simp only [InferRequest.launchedBlock, List.length_append, List.length_replicate]
    omega
  | real kv cacheLen hdecode hreal hfits hcached =>
    have hone : s.engine.req.generatedTokens.length ≤ 1 := by
      cases hshape with
      | idle hidle hstarts hpositions => exact absurd hpositions hpending
      | alone step start halone hstarts hpositions => exact absurd hpositions hpending
      | pair older newer start next hpair hstarts hpositions => exact absurd hpositions hpending
      | ownBlock step pos halone hstarts hpositions hdraftNums hend hmain hgenerated =>
        exact hgenerated
      | blockThenReal older newer pos hpair => simp [hpair, kMaxInflightDepth] at hroom
      | realThenBlock older newer start hpair => simp [hpair, kMaxInflightDepth] at hroom
      | twoBlocks older newer pos hpair => simp [hpair, kMaxInflightDepth] at hroom
    rw [queryStart, if_neg (by omega)]
    simp only [InferRequest.launchedReal, List.length_append]
    omega

theorem QueriesFollow.launch {launched : InferRequest} (hs : QueriesFollow s)
    (horder : PlanOrder s.engine.req)
    (hfast : fastPath = true ∨ s.engine.req.pendingPlaceholderPositions = [])
    (h : s.engine.req.launchPlanningTask fastPath s.engine.req.hasInflightTask = .ok launched) :
    QueriesFollow (pushQuery s launched) := by
  have hstart := queryStart_le_launched horder h
  have hcached := launched_kvCachedTokenNum hs.bounded h
  obtain ⟨hkeeps, hconsumed, -⟩ := InferRequest.launchPlanningTask_keeps h
  obtain ⟨hremaining, task, hinflight, hnewest⟩ := launched_newest horder h
  have hfront : queryStart s.engine.req ≤ s.total := by
    rw [queryStart]
    split
    · rename_i hprefill
      have hprompt := hs.prompt (Or.inr hprefill)
      have hchunk := horder.chunk hprefill
      omega
    · exact hs.sequence
  have hmiddle : ∀ step, IsMiddleChunk launched step ↔ IsMiddleChunk s.engine.req step := by
    intro step
    rw [IsMiddleChunk, IsMiddleChunk, hkeeps.prefilling]
  exact {
    shape := hs.shape.launch horder h hfast fun _ _ _ _ => trivial
    drafts := by
      show List.Forall₂ _ launched.inflightTasks (s.queries ++ _)
      rw [hinflight]
      refine List.rel_append ?_ (.cons (fun hwhole => ?_) .nil)
      · refine hs.drafts.imp fun step query hdrafts hwhole => hdrafts ?_
        rwa [← hmiddle]
      · have hfits := (hnewest hwhole).1
        show task.workload.draftTokenNum ≤ launched.forwardingTokens.length - _
        omega
    sampled := by
      intro step hmem hwhole
      show launched.remainingWorkload.prefillTokenNum = 0 ∧
        launched.planningTask.workload.prefillTokenNum = 0
      rw [hremaining, hconsumed]
      refine ⟨?_, rfl⟩
      change step ∈ launched.inflightTasks at hmem
      rw [hinflight, List.mem_append, List.mem_singleton] at hmem
      obtain hold | rfl := hmem
      · exact (hs.sampled step hold ((hmiddle step).not.mp hwhole)).1
      · exact (hnewest hwhole).2
    sequence := by
      rw [pushQuery_total]
      show launched.forwardingTokens.length ≤ _
      omega
    prompt := by
      intro hleft
      rw [pushQuery_total]
      change 0 < launched.remainingWorkload.prefillTokenNum ∨
        0 < launched.planningTask.workload.prefillTokenNum at hleft
      show launched.remainingWorkload.prefillStartOffset ≤
        _ + launched.planningTask.workload.prefillTokenNum
      rw [hremaining, hconsumed] at hleft ⊢
      have hprompt := hs.prompt (Or.inl (hleft.resolve_right (Nat.lt_irrefl 0)))
      show _ ≤ _ + 0
      omega
    newest := by
      intro query hquery
      change query ∈ (s.queries ++ _).getLast? at hquery
      rw [List.getLast?_concat, Option.mem_some] at hquery
      subst hquery
      refine ⟨?_, hcached⟩
      show queryStart s.engine.req + (launched.forwardingTokens.length - _) =
        launched.forwardingTokens.length
      omega
    idle := by
      intro hidle
      change launched.inflightTasks = [] at hidle
      rw [hinflight] at hidle
      exact absurd hidle (List.append_ne_nil_of_right_ne_nil _ (List.cons_ne_nil _ _))
    bounded := by
      show launched.kvCachedTokenNum ≤ launched.forwardingTokens.length
      omega
    behind := by
      intro hpending older newer hpair start hlast query hquery
      change start ∈ (s.engine.draftStarts ++ _).getLast? at hlast
      change query ∈ (s.queries ++ _).getLast? at hquery
      rw [List.getLast?_concat, Option.mem_some] at hlast hquery
      subst hlast hquery
      exact launched_behind hs.shape horder h hpending hpair }

/-- The state after a retirement. -/
def popQuery (s : CountedRun) (t : PipelineState) : CountedRun where
  engine := t
  queries := s.queries.tail.map fun query => { query with
    start := query.start -
      (s.engine.req.forwardingTokens.length - t.req.forwardingTokens.length) }
  forwarded := s.forwarded + ((s.queries.headD {}).length - rejectedDrafts s.engine.req)

omit [DraftTokensApi] in
theorem QueriesFollow.counts (hs : QueriesFollow s)
    (halone : s.engine.req.inflightTasks.length ≤ 1) : CountsCachedTokens s where
  inflight := by
    intro step steps hinflight
    have hdrafts := hs.drafts
    rw [hinflight] at hdrafts halone
    obtain rfl : steps = [] := List.eq_nil_of_length_eq_zero (by simpa using halone)
    cases hqueries : s.queries with
    | nil => simp [hqueries] at hdrafts
    | cons query queries =>
      rw [hqueries] at hdrafts
      obtain ⟨-, hrest⟩ := List.forall₂_cons.mp hdrafts
      obtain rfl := List.forall₂_nil_left_iff.mp hrest
      obtain ⟨hend, hcached⟩ := hs.newest query (by rw [hqueries]; rfl)
      exact ⟨query, [], rfl, hcached, hend⟩
  idle := hs.idle

/-- A retirement that trims the rejected drafts and counts no more than the tokens in front
of the next query keeps the queries in order. -/
theorem QueriesFollow.pop {t : PipelineState} {updated : InferRequest} (hs : QueriesFollow s)
    (hupdate : s.engine.req.updateAfterInflightTaskFinished = .ok updated)
    (ht : t.req = updated.resetInflightTask)
    (hsome : s.engine.req.inflightTasks ≠ [])
    (hdepth : s.engine.req.inflightTasks.length ≤ kMaxInflightDepth)
    (hshape : StepShape (fun _ => True) t.req t.draftStarts)
    (htrim : updated.forwardingTokens.length + rejectedDrafts s.engine.req =
      s.engine.req.forwardingTokens.length)
    (hbounded : updated.kvCachedTokenNum ≤ updated.forwardingTokens.length)
    (hnext : ∀ older newer, s.engine.req.inflightTasks = [older, newer] →
      ∀ query ∈ s.queries.getLast?,
        updated.kvCachedTokenNum + rejectedDrafts s.engine.req ≤ query.start) :
    QueriesFollow (popQuery s t) ∧ CountsCachedTokens (popQuery s t) := by
  have hsame := updateAfterInflightTaskFinished_sameOrder hupdate
  have hinflight' : t.req.inflightTasks = s.engine.req.inflightTasks.tail := by
    rw [ht, InferRequest.resetInflightTask, hsame.inflight]
  have hmiddle : ∀ step, IsMiddleChunk t.req step ↔ IsMiddleChunk s.engine.req step := by
    intro step
    rw [ht, IsMiddleChunk, IsMiddleChunk, InferRequest.resetInflightTask, hsame.prefilling]
  have hlength : t.req.forwardingTokens.length = updated.forwardingTokens.length := by
    rw [ht, InferRequest.resetInflightTask]
  have htrimmed : s.engine.req.forwardingTokens.length - t.req.forwardingTokens.length =
      rejectedDrafts s.engine.req := by omega
  have hkv : t.req.kvCachedTokenNum = updated.kvCachedTokenNum := by
    rw [ht, InferRequest.resetInflightTask]
  have hremaining : t.req.remainingWorkload.prefillTokenNum =
        s.engine.req.remainingWorkload.prefillTokenNum ∧
      t.req.remainingWorkload.prefillStartOffset =
        s.engine.req.remainingWorkload.prefillStartOffset ∧
      t.req.planningTask = s.engine.req.planningTask := by
    rw [ht]
    exact ⟨hsame.left, hsame.offset, hsame.task⟩
  obtain ⟨older, rest, hinflight⟩ := List.exists_cons_of_ne_nil hsome
  have hdrafts := hs.drafts
  rw [hinflight] at hdrafts hinflight' hdepth
  rw [List.tail_cons] at hinflight'
  obtain ⟨first, later, hfirst, hlater, hqueries⟩ := List.forall₂_cons_left_iff.mp hdrafts
  have htotal : s.total = s.forwarded + (first.length + (later.map StepQuery.length).sum) := by
    simp [CountedRun.total, hqueries]
  have htotal' : (popQuery s t).total = s.forwarded +
      (first.length - rejectedDrafts s.engine.req) + (later.map StepQuery.length).sum := by
    simp [CountedRun.total, popQuery, hqueries, Function.comp_def]
  have hsequence := hs.sequence
  have halone : rest.length ≤ 1 := by
    rw [List.length_cons, kMaxInflightDepth] at hdepth
    omega
  have hfollow : QueriesFollow (popQuery s t) := {
    shape := hshape
    drafts := by
      show List.Forall₂ _ t.req.inflightTasks (s.queries.tail.map _)
      rw [hinflight', hqueries, List.tail_cons, List.forall₂_map_right_iff]
      exact hlater.imp fun step query hfits hwhole => hfits ((hmiddle step).not.mp hwhole)
    sampled := by
      intro step hmem hwhole
      change step ∈ t.req.inflightTasks at hmem
      rw [hinflight'] at hmem
      show t.req.remainingWorkload.prefillTokenNum = 0 ∧
        t.req.planningTask.workload.prefillTokenNum = 0
      rw [hremaining.1, hremaining.2.2]
      exact hs.sampled step (by rw [hinflight]; exact List.mem_cons_of_mem _ hmem)
        ((hmiddle step).not.mp hwhole)
    sequence := by
      rw [htotal']
      show t.req.forwardingTokens.length ≤ _
      omega
    prompt := by
      intro hleft
      change 0 < t.req.remainingWorkload.prefillTokenNum ∨
        0 < t.req.planningTask.workload.prefillTokenNum at hleft
      show t.req.remainingWorkload.prefillStartOffset ≤
        _ + t.req.planningTask.workload.prefillTokenNum
      rw [hremaining.1, hremaining.2.2] at hleft
      rw [hremaining.2.1, hremaining.2.2]
      have hnone : rejectedDrafts s.engine.req = 0 := by
        by_cases hsplit : s.engine.req.isSplitPrefillStep = true
        · rw [rejectedDrafts, if_pos hsplit]
        · have hdone := hs.sampled older (by rw [hinflight]; exact List.mem_cons_self)
            fun hchunk => hsplit ((isSplitPrefillStep_iff hinflight).mpr hchunk)
          omega
      have hprompt := hs.prompt hleft
      omega
    newest := by
      intro query hquery
      change query ∈ (s.queries.tail.map _).getLast? at hquery
      rw [hqueries, List.tail_cons, List.getLast?_map, Option.mem_def, Option.map_eq_some_iff]
        at hquery
      obtain ⟨last, hlast, rfl⟩ := hquery
      have hnewest : last ∈ s.queries.getLast? := by
        rw [hqueries, List.getLast?_cons, hlast]
        rfl
      obtain ⟨newer, hrest⟩ : ∃ newer, rest = [newer] := by
        rw [← List.length_eq_one_iff]
        have hpositive := List.length_pos_of_mem (List.mem_of_getLast? hlast)
        rw [← hlater.length_eq] at hpositive
        omega
      obtain ⟨hend, -⟩ := hs.newest last hnewest
      have hfront := hnext older newer (by rw [hinflight, hrest]) last hnewest
      show last.start - (_ - _) + last.length = t.req.forwardingTokens.length ∧
        t.req.kvCachedTokenNum ≤ last.start - (_ - _)
      rw [htrimmed]
      omega
    idle := by
      intro hidle
      change t.req.inflightTasks = [] at hidle
      rw [hinflight'] at hidle
      subst hidle
      obtain rfl := List.forall₂_nil_left_iff.mp hlater
      simp only [List.map_nil, List.sum_nil, Nat.add_zero] at htotal
      show t.req.kvCachedTokenNum ≤ s.forwarded + ((s.queries.headD {}).length - _)
      rw [hqueries, List.headD_cons]
      omega
    bounded := by
      show t.req.kvCachedTokenNum ≤ t.req.forwardingTokens.length
      omega
    behind := by
      intro _ _ _ hpair
      change t.req.inflightTasks = _ at hpair
      rw [hinflight'] at hpair
      simp [hpair] at halone }
  exact ⟨hfollow, hfollow.counts (by
    show t.req.inflightTasks.length ≤ 1
    rw [hinflight']
    exact halone)⟩

omit [DraftTokensApi] in
/-- A step that owns the front block: the block has its drafts, and the drafts of the step
behind start one token behind the block. -/
theorem StepShape.ownFront {Real : ScheduleTask → Prop} {req : InferRequest} {starts : List Nat}
    (hshape : StepShape Real req starts) (hpending : req.pendingPlaceholderPositions ≠ [])
    (howns : ¬ req.FillsNextBlock) :
    req.pendingPlaceholderDraftNums.headD 0 = oldestDraftNum req ∧
      ∀ older newer, req.inflightTasks = [older, newer] →
        starts.getLast? = some (req.pendingPlaceholderPositions.headD 0 + 1 +
          req.pendingPlaceholderDraftNums.headD 0 + 1) := by
  cases hshape with
  | idle hinflight hstarts hpositions => exact absurd hpositions hpending
  | alone step start hinflight hstarts hpositions => exact absurd hpositions hpending
  | pair older newer start next hinflight hstarts hpositions => exact absurd hpositions hpending
  | ownBlock step pos hinflight hstarts hpositions hdraftNums =>
    rw [oldestDraftNum, hinflight, hdraftNums]
    exact ⟨rfl, fun _ _ hpair => by simp at hpair⟩
  | blockThenReal older newer pos hinflight hstarts hpositions hdraftNums =>
    rw [oldestDraftNum, hinflight, hdraftNums, hpositions, hstarts]
    exact ⟨rfl, fun _ _ _ => rfl⟩
  | realThenBlock older newer start hinflight hstarts hpositions hdraftNums hend hmain =>
    refine absurd ⟨?_, ?_⟩ howns
    · rw [InferRequest.getInflightCount, hinflight]
      exact Nat.lt_succ_self 1
    · rw [hpositions]
      exact hmain
  | twoBlocks older newer pos hinflight hstarts hpositions hdraftNums =>
    rw [oldestDraftNum, hinflight, hdraftNums, hpositions, hstarts]
    exact ⟨rfl, fun _ _ _ => rfl⟩

omit [DraftTokensApi] in
/-- A whole step in flight alone, without a block, ends the sequence with its drafts. -/
theorem StepShape.endsAlone {Real : ScheduleTask → Prop} {req : InferRequest} {starts : List Nat}
    {oldest : ScheduleTask} (hshape : StepShape Real req starts)
    (hinflight : req.inflightTasks = [oldest]) (hnone : req.pendingPlaceholderPositions = [])
    (hwhole : ¬ IsMiddleChunk req oldest) :
    ∃ start, start + oldest.workload.draftTokenNum = req.forwardingTokens.length ∧
      req.forwardingTokensDraftNum = oldest.workload.draftTokenNum := by
  cases hshape with
  | idle hidle => simp [hidle] at hinflight
  | alone step start halone hstarts hpositions hdraftNums hend =>
    obtain ⟨rfl, -⟩ := List.cons.inj (halone.symm.trans hinflight)
    exact ⟨start, (hend hwhole).1, (hend hwhole).2.1⟩
  | pair older newer start next hpair => simp [hpair] at hinflight
  | ownBlock step pos halone hstarts hpositions => simp [hpositions] at hnone
  | blockThenReal older newer pos hpair => simp [hpair] at hinflight
  | realThenBlock older newer start hpair => simp [hpair] at hinflight
  | twoBlocks older newer pos hpair => simp [hpair] at hinflight

/-- The retiring step fills the block of the step behind: only one shape has such a block. -/
theorem StepShape.backfilled_of_fills {Real : ScheduleTask → Prop} {start : PipelineState}
    {result : StepResult} (hshape : StepShape Real start.req start.draftStarts)
    (hpending : start.req.pendingPlaceholderPositions ≠ []) (hfills : start.req.FillsNextBlock)
    (hall : oldestDraftNum start.req = result.acceptedTokens.length)
    (hrunning : (finished start result start.req.backfilled).req.isEosGenerated = false)
    (hblocks : BlocksFilled (finished start result start.req.backfilled).req) :
    StepShape Real (finished start result start.req.backfilled).req
      (finished start result start.req.backfilled).draftStarts := by
  have hmany : 1 < start.req.inflightTasks.length := hfills.1
  have hfront := hfills.2
  cases hshape with
  | idle hidle => simp [hidle] at hmany
  | alone step first halone hstarts hpositions => exact absurd hpositions hpending
  | pair older newer first next hpair hstarts hpositions => exact absurd hpositions hpending
  | ownBlock step pos halone => simp [halone] at hmany
  | blockThenReal older newer pos hpair hstarts hpositions hdraftNums hend hmain =>
    rw [hpositions] at hfront
    exact absurd hfront hmain
  | realThenBlock older newer first hpair hstarts hpositions hdraftNums hend =>
    rw [oldestDraftNum_cons hpair] at hall
    exact .backfilled hpair hstarts hpositions hdraftNums hend hall hrunning hblocks
  | twoBlocks older newer pos hpair hstarts hpositions hdraftNums hend hmain =>
    rw [hpositions] at hfront
    exact absurd hfront hmain

theorem goesOn_of_running {req after : InferRequest} (heos : req.isEosGenerated = false)
    (hone : req.isSplitPrefillStep = false → ∃ token, req.generatedTokens = [token])
    (hfit : req.isSplitPrefillStep = false → req.acceptedTokens.length ≤ oldestDraftNum req)
    (h : req.updateAfterInflightTaskFinished = .ok after)
    (hrunning : after.isEosGenerated = false) : GoesOn req := by
  refine ⟨heos, fun hsplit token hmem hstop => ?_⟩
  obtain ⟨only, hgenerated⟩ := hone hsplit
  rw [hgenerated, List.mem_singleton] at hmem
  subst hmem
  have hends : ∀ output, req.endsWithStopToken (output ++ req.generatedTokens) = true := by
    intro output
    rw [hgenerated, InferRequest.endsWithStopToken_concat]
    exact List.contains_iff_mem.mpr hstop
  obtain ⟨-, hcase⟩ := InferRequest.updateAfterInflightTaskFinished_cases h
  cases hcase with
  | afterEos hstopped => simp [hstopped] at heos
  | middleChunk hopen hmiddle => simp [hmiddle] at hsplit
  | plain oldest queue hinflight =>
    have hfitOldest := hfit hsplit
    rw [oldestDraftNum_cons hinflight] at hfitOldest
    obtain ⟨-, -, -, -, hflag⟩ := retiredPlain_fields req oldest.workload hfitOldest
    rw [hflag, hends, Bool.or_true] at hrunning
    cases hrunning
  | backfill =>
    change (req.isEosGenerated || req.endsWithStopToken _) = false at hrunning
    rw [hends, Bool.or_true] at hrunning
    cases hrunning
  | own =>
    change (req.isEosGenerated || req.endsWithStopToken _) = false at hrunning
    rw [hends, Bool.or_true] at hrunning
    cases hrunning

theorem QueriesFollow.finish {result : StepResult} {t : PipelineState} (hs : QueriesFollow s)
    (hqueue : QueueInvariant SampledResult s.engine)
    (hdelivered : s.engine.delivered = some result) (heos : s.engine.req.isEosGenerated = false)
    (hcounts : CountsOnFinish s .finish) (hfinish : finishOldest s.engine result = .ok t)
    (hrunning : t.req.isEosGenerated = false) (hblocks : BlocksFilled t.req) :
    QueriesFollow (popQuery s t) ∧ CountsCachedTokens (popQuery s t) := by
  obtain ⟨hsome, hgenerated, haccepted, hfits⟩ := hqueue.arrived result hdelivered
  obtain ⟨updated, hupdate, ht⟩ := bind_ok hfinish
  have ht : t.req = updated.resetInflightTask := by
    obtain rfl := Except.ok.inj ht
    rfl
  have hfitOldest : s.engine.req.isSplitPrefillStep = false →
      s.engine.req.acceptedTokens.length ≤ oldestDraftNum s.engine.req := by
    intro hsplit
    obtain ⟨oldest, queue, hinflight⟩ := List.exists_cons_of_ne_nil hsome
    rw [haccepted, oldestDraftNum_cons hinflight]
    exact (hfits hsplit oldest (by rw [hinflight]; rfl)).2.2
  have hgoes : GoesOn s.engine.req := by
    refine goesOn_of_running heos (fun hsplit => ?_) hfitOldest hupdate ?_
    · obtain ⟨oldest, queue, hinflight⟩ := List.exists_cons_of_ne_nil hsome
      rw [hgenerated]
      exact List.length_eq_one_iff.mp (hfits hsplit oldest (by rw [hinflight]; rfl)).1
    · rw [ht, InferRequest.resetInflightTask] at hrunning
      exact hrunning
  have hthrough := hcounts rfl hgoes
  have hsettled : s.engine.req.isSplitPrefillStep = false → SettlesOldest s.engine.req →
      StepShape (fun _ => True) t.req t.draftStarts := by
    intro hsplit hsettles
    obtain ⟨t', hfinish', -, hshape⟩ := hs.shape.finish hsome heos hsplit hgenerated haccepted
      (fun oldest holdest => (hfits hsplit oldest holdest).2.2) hsettles
    obtain rfl := Except.ok.inj (hfinish'.symm.trans hfinish)
    exact hshape hrunning hblocks
  have hdepth := hqueue.blocks.depth
  obtain ⟨-, hcase⟩ := InferRequest.updateAfterInflightTaskFinished_cases hupdate
  cases hcase with
  | afterEos hstopped => simp [hstopped] at heos
  | middleChunk _ hsplit =>
    obtain ⟨-, htokens, -, hkv, -⟩ := InferRequest.refreshWorkloads_tokens { s.engine.req with
      generatedTokens := []
      draftTokens := DraftTokensApi.clear s.engine.req.draftTokens }
    have hshape := hs.shape.finish_split hqueue.order heos hsplit hfinish
    refine hs.pop hupdate ht hsome hdepth hshape ?_ ?_ ?_
    · rw [rejectedDrafts, if_pos hsplit, htokens]
      rfl
    · rw [hkv, htokens]
    · intro older newer hpair
      have hwhole := (hthrough (by rw [hpair]; exact Nat.lt_succ_self 1)).1
      simp [hsplit] at hwhole
  | plain oldest queue hinflight _ hsplit hnone =>
    have hfit := hfitOldest hsplit
    have holdest := oldestDraftNum_cons hinflight
    obtain ⟨-, -, htokens, -, -⟩ := retiredPlain_fields s.engine.req oldest.workload
      (by rw [← holdest]; exact hfit)
    obtain ⟨-, hkept, -, hkv, -⟩ := InferRequest.refreshWorkloads_tokens
      (s.engine.req.retireWithoutPlaceholder oldest.workload)
    -- With another step in flight there would be a block.
    have halone : queue = [] := by
      by_contra hmore
      have hpositive := List.length_pos_of_ne_nil hmore
      exact (hthrough (by rw [hinflight, List.length_cons]; omega)).2.1 hnone
    subst halone
    have hwhole : ¬ IsMiddleChunk s.engine.req oldest := fun hchunk => by
      simp [(isSplitPrefillStep_iff hinflight).mpr hchunk] at hsplit
    obtain ⟨start, hend, hlast⟩ := hs.shape.endsAlone hinflight hnone hwhole
    refine hs.pop hupdate ht hsome hdepth
      (hsettled hsplit (Or.inr (Or.inr (Or.inl ⟨hnone, by rw [hinflight]; rfl⟩)))) ?_ ?_ ?_
    · rw [rejectedDrafts, if_neg (by rw [hsplit]; decide), htokens, holdest]
      rw [holdest] at hfit
      split
      · rw [resize_length]
        omega
      · omega
    · rw [hkv, hkept]
    · intro older newer hpair
      simp [hpair] at hinflight
  | backfill _ hsplit hpending hfills hroom =>
    have hmany : 1 < s.engine.req.inflightTasks.length := hfills.1
    have hall := (hthrough hmany).2.2 hfills
    have hnone : rejectedDrafts s.engine.req = 0 := by
      rw [rejectedDrafts, if_neg (by rw [hsplit]; decide), hall, Nat.sub_self]
    have hfinished : t = finished s.engine result s.engine.req.backfilled :=
      Except.ok.inj (hfinish.symm.trans (finishOldest_of_update hsplit hupdate))
    have hshape : StepShape (fun _ => True) t.req t.draftStarts := by
      rw [hfinished] at hrunning hblocks ⊢
      exact hs.shape.backfilled_of_fills hpending hfills (hall.trans (congrArg List.length haccepted))
        hrunning hblocks
    refine hs.pop hupdate ht hsome hdepth hshape ?_ ?_ ?_
    · rw [backfilled_length, hnone]
      rfl
    · rw [backfilled_length]
      exact hs.bounded
    · intro older newer hpair query hquery
      rw [hnone]
      exact (hs.newest query hquery).2
  | own _ hsplit hpending howns hfit hroom =>
    obtain ⟨hdraftNum, hbehind⟩ := hs.shape.ownFront hpending howns
    have hrejected : rejectedDrafts s.engine.req = s.engine.req.rejectedNum := by
      rw [rejectedDrafts, if_neg (by rw [hsplit]; decide), InferRequest.rejectedNum, hdraftNum]
    have hlength : s.engine.req.retiredOwn.forwardingTokens.length =
        s.engine.req.forwardingTokens.length - s.engine.req.rejectedNum :=
      refilledTokens_length.trans (trimmedTokens_length hfit hroom)
    have hkv : s.engine.req.retiredOwn.kvCachedTokenNum =
        s.engine.req.pendingPlaceholderPositions.headD 0 + 1 +
          s.engine.req.acceptedTokens.length := rfl
    have hnum : s.engine.req.rejectedNum = s.engine.req.pendingPlaceholderDraftNums.headD 0 -
        s.engine.req.acceptedTokens.length := rfl
    refine hs.pop hupdate ht hsome hdepth
      (hsettled hsplit (Or.inr (Or.inl ⟨hpending, howns⟩))) ?_ ?_ ?_
    · omega
    · omega
    · intro older newer hpair query hquery
      have hfront := hs.behind hpending older newer hpair _ (hbehind older newer hpair) query hquery
      omega

theorem QueriesFollow.of_fresh (req : InferRequest) (cached : Nat)
    (history : List PipelineEvent) :
    QueriesFollow { engine := { req := admitted req cached, history := history }
                    forwarded := cached } where
  shape := .idle rfl rfl rfl rfl
  drafts := .nil
  sampled := fun _ hmem => absurd hmem List.not_mem_nil
  sequence := Nat.zero_le _
  prompt := fun _ => Nat.le_add_right cached _
  newest := fun query hnone => by cases hnone
  idle := fun _ => Nat.zero_le _
  bounded := Nat.le_refl 0
  behind := fun hpending => absurd rfl hpending

omit [DraftTokensApi] in
theorem QueriesFollow.plan {workload : ScheduleTaskWorkload} {planned : InferRequest}
    (hs : QueriesFollow s) (hfollows : PlanFollows s.engine.req workload)
    (h : (s.engine.req.setPlanningWorkload workload).setPlanningTask = .ok planned) :
    QueriesFollow { s with engine := { s.engine with req := planned } } := by
  obtain ⟨hempty, hfit, rfl⟩ := plan_ok h
  exact {
    shape := hs.shape.congr rfl rfl rfl rfl rfl rfl fun _ hone => hone
    drafts := hs.drafts
    sampled := by
      intro step hmem hwhole
      obtain ⟨hdone, -⟩ := hs.sampled step hmem hwhole
      rw [PlanFollows, if_neg (by omega)] at hfollows
      simp only [hdone, hfollows, Nat.sub_self]
      exact ⟨trivial, trivial⟩
    sequence := hs.sequence
    prompt := by
      intro hleft
      simp only at hleft ⊢
      have hprompt := hs.prompt (Or.inl (by omega))
      have hnoTask := ScheduleTask.prefillTokenNum_of_isEmpty hempty
      rw [hnoTask] at hprompt
      show _ ≤ s.total + workload.prefillTokenNum
      omega
    newest := hs.newest
    idle := hs.idle
    bounded := hs.bounded
    behind := hs.behind }

/-- What every operation keeps; at depth one there are no blocks. -/
structure Counted (fastPath : Bool) (s : CountedRun) : Prop where
  queue : QueueInvariant SampledResult s.engine
  slow : fastPath = false → OneAtATime s.engine.req
  follow : s.engine.req.isEosGenerated = false → QueriesFollow s

/-- One operation keeps the queries in order, and a retirement leaves the count behind. -/
theorem Counted.step {t : CountedRun} {op : PipelineOp} (hs : Counted fastPath s)
    (hop : OpPermitted SampledResult s.engine op) (hcounts : CountsOnFinish s op)
    (h : countedStep fastPath s op = .ok t) :
    Counted fastPath t ∧
      (op = .finish → t.engine.req.isEosGenerated = false → CountsCachedTokens t) := by
  obtain ⟨engine, hengine, ht⟩ := bind_ok h
  obtain rfl := Except.ok.inj ht
  have hqueue := hs.queue.step hop (hs.queue.findsToken hengine) hengine
  have hslow : fastPath = false → OneAtATime engine.req := by
    intro hfast
    subst hfast
    exact (hs.slow rfl).step hengine
  cases op with
  | restart cached =>
    refine ⟨⟨hqueue, hslow, fun _ => ?_⟩, fun hfinish => by cases hfinish⟩
    obtain ⟨-, hengine⟩ := check_bind_ok hengine
    obtain rfl := Except.ok.inj hengine
    exact .of_fresh s.engine.req cached _
  | generateDrafts drafts =>
    refine ⟨⟨hqueue, hslow, fun hrunning => ?_⟩, fun hfinish => by cases hfinish⟩
    obtain rfl := Except.ok.inj hengine
    have hfollow := hs.follow hrunning
    exact { hfollow with
      shape := hfollow.shape.congr rfl rfl rfl rfl rfl rfl fun _ hone => hone }
  | plan workload =>
    refine ⟨⟨hqueue, hslow, fun hrunning => ?_⟩, fun hfinish => by cases hfinish⟩
    obtain ⟨planned, hplan, hengine⟩ := bind_ok hengine
    obtain rfl := Except.ok.inj hengine
    have heos : s.engine.req.isEosGenerated = false := by
      obtain ⟨-, -, rfl⟩ := plan_ok hplan
      exact hrunning
    exact (hs.follow heos).plan hop hplan
  | launch =>
    refine ⟨⟨hqueue, hslow, fun hrunning => ?_⟩, fun hfinish => by cases hfinish⟩
    obtain ⟨launched, hlaunch, hengine⟩ := bind_ok hengine
    obtain rfl := Except.ok.inj hengine
    have hpushed := (launch_ok hlaunch).2.2
    have heos := (InferRequest.launchPlanningTask_keeps hpushed).1.eos
    have hfast : fastPath = true ∨ s.engine.req.pendingPlaceholderPositions = [] := by
      cases fastPath with
      | true => exact Or.inl rfl
      | false => exact Or.inr (hs.slow rfl).positions
    exact (hs.follow (heos.symm.trans hrunning)).launch hs.queue.order hfast hpushed
  | deliver result =>
    refine ⟨⟨hqueue, hslow, fun hrunning => ?_⟩, fun hfinish => by cases hfinish⟩
    obtain ⟨⟨-, hsome⟩, hengine⟩ := check_bind_ok hengine
    obtain rfl := Except.ok.inj hengine
    have hfollow := hs.follow hrunning
    exact { hfollow with
      shape := hfollow.shape.deliver hs.queue.order hsome fun hsplit oldest holdest =>
        Nat.le_of_eq (hop hsplit oldest holdest).1 }
  | finish =>
    rw [pipelineStep] at hengine
    split at hengine
    · cases hengine
    · rename_i result hdelivered
      have hpopped : engine.req.isEosGenerated = false →
          QueriesFollow (popQuery s engine) ∧ CountsCachedTokens (popQuery s engine) := by
        intro hrunning
        have heos : s.engine.req.isEosGenerated = false := by
          cases heos : s.engine.req.isEosGenerated with
          | false => rfl
          | true =>
            obtain ⟨updated, hupdate, hengine⟩ := bind_ok hengine
            obtain rfl := Except.ok.inj hengine
            obtain rfl := updateAfterInflightTaskFinished_keeps_eos heos hupdate
            rw [InferRequest.resetInflightTask, InferRequest.discardStepAfterEos, heos] at hrunning
            cases hrunning
        exact (hs.follow heos).finish hs.queue hdelivered heos hcounts hengine hrunning
          hqueue.blocks
      exact ⟨⟨hqueue, hslow, fun hrunning => (hpopped hrunning).1⟩,
        fun _ hrunning => (hpopped hrunning).2⟩

/-- In every run whose retirements in front of another step go through the queue of blocks,
the count of cached tokens is behind the device after each retirement before a stop token. -/
theorem cached_count_behind_device (fastPath : Bool) (start : InferRequest) (cached : Nat)
    (ops : List PipelineOp) {t : CountedRun} (hcached : cached ≤ start.outputTokens.length)
    (hrun : exec (countedStep fastPath)
      { engine := { req := admitted start cached }, forwarded := cached } ops = .ok s)
    (hsteps : EachStep (countedStep fastPath)
      (fun s op => OpPermitted SampledResult s.engine op ∧ CountsOnFinish s op)
      { engine := { req := admitted start cached }, forwarded := cached } ops)
    (hcounts : CountsOnFinish s .finish) (hfinish : countedStep fastPath s .finish = .ok t)
    (hrunning : t.engine.req.isEosGenerated = false) : CountsCachedTokens t := by
  have hfresh : Counted fastPath
      { engine := { req := admitted start cached }, forwarded := cached } :=
    { queue := .of_fresh SampledResult start hcached
      slow := fun _ => .of_fresh start cached
      follow := fun _ => .of_fresh start cached [] }
  have hinv : Counted fastPath s :=
    exec_invariant_of (fun _ _ _ hs hop h => (hs.step hop.1 hop.2 h).1) hfresh hsteps hrun
  have hpermitted : OpPermitted SampledResult s.engine .finish := trivial
  exact (hinv.step hpermitted hcounts hfinish).2 rfl hrunning

end Follow

/-- A step with two drafts behind the prompt, one of them accepted, in front of a block. -/
theorem cached_count_behind_device_sample :
    letI := concatDraftTokens
    ∃ s t, exec (countedStep true) { engine := { req := admitted drainSample 0 } }
        commitSampleRun = .ok s ∧
      countedStep true s .finish = .ok t ∧ t.engine.req.kvCachedTokenNum = 4 ∧
      t.queries = [⟨4, 2⟩] ∧ CountsCachedTokens t := by
  let _ := concatDraftTokens
  have hsteps : EachStep (countedStep true)
      (fun s op => OpPermitted SampledResult s.engine op ∧ CountsOnFinish s op)
      { engine := { req := admitted drainSample 0 } } commitSampleRun :=
    eachStep_of_check (by decide +kernel)
  have hvalues : ((exec (countedStep true) { engine := { req := admitted drainSample 0 } }
      commitSampleRun).bind fun s => (countedStep true s .finish).map fun t =>
        (decide (CountsOnFinish s .finish), t.engine.req.isEosGenerated,
          t.engine.req.kvCachedTokenNum, t.queries)) = .ok (true, false, 4, [⟨4, 2⟩]) := by
    decide +kernel
  cases hrun : exec (countedStep true) { engine := { req := admitted drainSample 0 } }
      commitSampleRun with
  | error e => simp [hrun, Except.bind] at hvalues
  | ok s =>
    cases hfinish : countedStep true s .finish with
    | error e => simp [hrun, hfinish, Except.bind, Except.map] at hvalues
    | ok t =>
      simp only [hrun, hfinish, Except.bind, Except.map, Except.ok.injEq, Prod.mk.injEq,
        decide_eq_true_eq] at hvalues
      obtain ⟨hcounts, hrunning, hkv, hqueries⟩ := hvalues
      exact ⟨s, t, rfl, hfinish, hkv, hqueries, cached_count_behind_device true drainSample 0
        commitSampleRun (by decide) hrun hsteps hcounts hfinish hrunning⟩
/-- A prompt in two chunks, the second launched while the first is in flight. -/
def chunksAheadRun : List PipelineOp :=
  [.plan { prefillTokenNum := 1 }, .launch,
    .plan { prefillTokenNum := 1, prefillStartOffset := 1 }, .launch, .deliver {}]

/-- The first chunk retires, and the token of the second counts as cached. -/
theorem chunk_in_flight_counts_as_cached :
    letI := concatDraftTokens
    ∃ s t, exec (countedStep true) { engine := { req := admitted drainSample 0 } }
        chunksAheadRun = .ok s ∧
      EachStep (countedStep true) (fun s op => OpPermitted SampledResult s.engine op)
        { engine := { req := admitted drainSample 0 } } chunksAheadRun ∧
      countedStep true s .finish = .ok t ∧ t.engine.req.isEosGenerated = false ∧
      t.engine.req.kvCachedTokenNum = 2 ∧ t.queries = [⟨1, 1⟩] ∧ ¬ CountsCachedTokens t := by
  let _ := concatDraftTokens
  have hpermitted : EachStep (countedStep true)
      (fun s op => OpPermitted SampledResult s.engine op)
      { engine := { req := admitted drainSample 0 } } chunksAheadRun :=
    eachStep_of_check (by decide +kernel)
  refine ⟨_, _, rfl, hpermitted, rfl, rfl, rfl, rfl, ?_⟩
  intro hcounts
  obtain ⟨query, queries, hqueries, hcached, -⟩ := hcounts.inflight _ _ rfl
  obtain ⟨rfl, -⟩ := List.cons.inj hqueries
  exact absurd hcached (by decide)

end KsanaBuildAhead.Engine
