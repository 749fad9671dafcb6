import KsanaBuildAhead.Engine.StopToken

/-!
# Token accounting of the slow path

At depth one the sequence, the output and the cached count determine each other.
While some of the prompt is left the sequence is what has been launched of it, then
it is the output, with the drafts of the step in flight behind it, or without the
token that waits for the next launch.
-/
namespace KsanaBuildAhead.Engine

open KsanaBuildAhead.Runtime KsanaBuildAhead.Lib.ListEdit KsanaBuildAhead.Lib.Execution

/-- The drafts the step in flight was launched with, at the end of the sequence. -/
def launchedDrafts (req : InferRequest) : List Int :=
  req.forwardingTokens.drop (req.forwardingTokens.length - oldestDraftNum req)

/-- A recompute comes when nothing is in flight and starts from the first token, chunks are
planned in order, and a sampled step returns one token and accepts a prefix of its drafts. -/
def SlowPermitted (s : PipelineState) : PipelineOp → Prop
  | .restart cached => cached = 0 ∧ s.req.inflightTasks = []
  | .plan workload => PlanFollows s.req workload
  | .deliver result => s.req.isSplitPrefillStep = false →
    result.generatedTokens.length = 1 ∧ result.acceptedTokens <+: launchedDrafts s.req
  | _ => True

instance (s : PipelineState) : (op : PipelineOp) → Decidable (SlowPermitted s op)
  | .restart _ => by unfold SlowPermitted; infer_instance
  | .plan _ => by unfold SlowPermitted; infer_instance
  | .deliver _ => by unfold SlowPermitted; infer_instance
  | .generateDrafts _ | .launch | .finish => .isTrue trivial

/-- A sampled step returns one token and accepts no more drafts than it carried. -/
def ReturnsOneToken (step : ScheduleTask) (result : StepResult) : Prop :=
  result.generatedTokens.length = 1 ∧
    result.acceptedTokens.length ≤ step.workload.draftTokenNum

theorem returnsOneToken_fitsStep : FitsStep ReturnsOneToken :=
  fun _ _ hfits => ⟨Nat.le_of_eq hfits.1, hfits.2⟩

theorem SlowPermitted.permitted {s : PipelineState} {op : PipelineOp} (hop : SlowPermitted s op) :
    OpPermitted ReturnsOneToken s op := by
  cases op with
  | deliver result =>
    intro hsplit oldest holdest
    obtain ⟨hone, haccepted⟩ := hop hsplit
    refine ⟨hone, ?_⟩
    have hlength := haccepted.length_le
    obtain ⟨queue, hinflight⟩ := List.head?_eq_some_iff.mp holdest
    rw [launchedDrafts, List.length_drop, oldestDraftNum_cons hinflight] at hlength
    omega
  | plan workload => exact hop
  | restart cached => trivial
  | generateDrafts drafts => trivial
  | launch => trivial
  | finish => trivial

/-- How much of the prompt has been launched. -/
def launchedPromptNum (req : InferRequest) : Nat :=
  if 0 < req.planningTask.workload.prefillTokenNum then
    req.planningTask.workload.prefillStartOffset
  else req.remainingWorkload.prefillStartOffset

/-- What the planned step takes from the part of the output that is not yet forwarded: its
chunk, or all of it. -/
def plannedTokens (req : InferRequest) : List Int :=
  let left := req.outputTokens.drop req.forwardingTokens.length
  if 0 < req.planningTask.workload.prefillTokenNum then
    left.take req.planningTask.workload.prefillTokenNum
  else left

/-- The drafts the planned step is launched with. -/
def plannedDrafts [DraftTokensApi] (req : InferRequest) : List Int :=
  if 0 < req.planningTask.workload.prefillTokenNum then req.chunkDrafts else req.roomDrafts

/-- The launch puts what is not yet cached, and the drafts, behind what is. -/
structure LaunchesUncached [DraftTokensApi] (req launched : InferRequest) : Prop where
  cached : launched.kvCachedTokenNum = req.kvCachedTokenNum
  standing : launched.forwardingTokens.take launched.kvCachedTokenNum =
    req.outputTokens.take launched.kvCachedTokenNum
  query : launched.forwardingTokens.drop launched.kvCachedTokenNum =
    plannedTokens req ++ plannedDrafts req

/-- Everything the output holds is in the sequence or waits for the next launch, and the
sequence is cached. -/
structure Accounted (req : InferRequest) : Prop where
  output : req.outputTokens = req.forwardingTokens ++ req.generatedTokens
  cached : req.kvCachedTokenNum = req.forwardingTokens.length

/-- The account before a stop token. -/
inductive SlowAccount (s : PipelineState) : Prop
  /-- Some of the prompt is left; what is in flight is a middle chunk. -/
  | prompt (hleft : launchedPromptNum s.req < s.req.prefillingTokens.length)
      (houtput : s.req.outputTokens = s.req.prefillingTokens)
      (hforwarding : s.req.forwardingTokens =
        s.req.prefillingTokens.take (launchedPromptNum s.req))
      (hcached : s.req.inflightTasks = [] →
        s.req.kvCachedTokenNum = s.req.forwardingTokens.length)
      (hmiddle : ∀ task ∈ s.req.inflightTasks, IsMiddleChunk s.req task)
  /-- A sampled step is in flight, with its drafts behind the output. -/
  | sampling (step : ScheduleTask) (drafts : List Int)
      (hlaunched : launchedPromptNum s.req = s.req.prefillingTokens.length)
      (hinflight : s.req.inflightTasks = [step]) (hwhole : ¬ IsMiddleChunk s.req step)
      (hforwarding : s.req.forwardingTokens = s.req.outputTokens ++ drafts)
      (hstep : step.workload.draftTokenNum = drafts.length)
      (hdraftNum : s.req.forwardingTokensDraftNum = drafts.length)
      (haccepted : ∀ result ∈ s.delivered, result.acceptedTokens <+: drafts)
  /-- Nothing is in flight. -/
  | drained (hlaunched : launchedPromptNum s.req = s.req.prefillingTokens.length)
      (hinflight : s.req.inflightTasks = []) (haccounted : Accounted s.req)

section Account

variable [DraftTokensApi] {s t : PipelineState} {op : PipelineOp} {launched : InferRequest}

omit [DraftTokensApi] in
theorem launchedPromptNum_of_chunk {req : InferRequest}
    (hprefill : 0 < req.planningTask.workload.prefillTokenNum) :
    req.planningTask.workload.prefillStartOffset = launchedPromptNum req :=
  (if_pos hprefill).symm

omit [DraftTokensApi] in
theorem launchedPromptNum_of_decode {req : InferRequest} (horder : PlanOrder req)
    (hplanned : req.planningTask.isEmpty = false)
    (hdecode : req.planningTask.workload.prefillTokenNum = 0) :
    launchedPromptNum req = req.prefillingTokens.length := by
  have hleft := horder.decode hplanned hdecode
  have htotal := horder.total
  rw [launchedPromptNum, if_neg (by omega)]
  omega

omit [DraftTokensApi] in
theorem chunkTokens_eq {req : InferRequest} (horder : PlanOrder req)
    (hprefill : 0 < req.planningTask.workload.prefillTokenNum)
    (hforwarding : req.forwardingTokens = req.prefillingTokens.take (launchedPromptNum req)) :
    req.chunkTokens req.planningTask.workload = req.prefillingTokens.take
        (launchedPromptNum req + req.planningTask.workload.prefillTokenNum) ∧
      req.forwardingTokens.length = launchedPromptNum req := by
  have hchunk := horder.chunk hprefill
  have htotal := horder.total
  have hstart := launchedPromptNum_of_chunk hprefill
  have hlength : req.forwardingTokens.length = launchedPromptNum req := by
    rw [hforwarding, List.length_take]
    omega
  refine ⟨?_, hlength⟩
  rw [InferRequest.chunkTokens, if_pos (hlength.trans hstart.symm), hlength, List.take_add]
  rw [hforwarding]

theorem SlowAccount.launch_chunk {kv : Nat} {cacheLen : Int}
    (horder : PlanOrder s.req) (hidle : s.req.inflightTasks = []) (hundelivered : s.delivered = none)
    (hprefill : 0 < s.req.planningTask.workload.prefillTokenNum)
    (hkv : kv = s.req.planningTask.workload.prefillStartOffset)
    (houtput : s.req.outputTokens = s.req.prefillingTokens)
    (hforwarding : s.req.forwardingTokens = s.req.prefillingTokens.take (launchedPromptNum s.req))
    (hcached : s.req.kvCachedTokenNum = s.req.forwardingTokens.length)
    (ht : t.req = s.req.launchedChunk kv cacheLen) (hdelivered : t.delivered = s.delivered) :
    SlowAccount t ∧ LaunchesUncached s.req t.req := by
  have hchunk := horder.chunk hprefill
  have htotal := horder.total
  have hstart := launchedPromptNum_of_chunk hprefill
  obtain ⟨htokens, hlength⟩ := chunkTokens_eq horder hprefill hforwarding
  have hpromptNum : launchedPromptNum t.req =
      launchedPromptNum s.req + s.req.planningTask.workload.prefillTokenNum := by
    have hlaunched : launchedPromptNum (s.req.launchedChunk kv cacheLen) =
        s.req.remainingWorkload.prefillStartOffset := if_neg (Nat.lt_irrefl 0)
    rw [ht, hlaunched]
    omega
  have hinflight : t.req.inflightTasks = [⟨{ s.req.planningTask.workload with
      draftTokenNum := if s.req.plansLastChunk then s.req.chunkDrafts.length
        else s.req.planningTask.workload.draftTokenNum
      samplingTokenNum := if s.req.plansLastChunk then 1 + s.req.chunkDrafts.length else 0 }⟩] := by
    rw [ht, InferRequest.launchedChunk, hidle]
    rfl
  have hsequence : t.req.forwardingTokens = s.req.prefillingTokens.take
      (launchedPromptNum s.req + s.req.planningTask.workload.prefillTokenNum) ++
        s.req.chunkDrafts := by
    rw [ht, InferRequest.launchedChunk, htokens]
  refine ⟨?_, ?_, ?_, ?_⟩
  · by_cases hlast : s.req.plansLastChunk
    · have hlast' := hlast
      rw [InferRequest.plansLastChunk] at hlast'
      refine .sampling _ s.req.chunkDrafts ?_ hinflight ?_ ?_ ?_ ?_ ?_
      · rw [hpromptNum, ht]
        show _ = s.req.prefillingTokens.length
        omega
      · rintro ⟨-, hmiddle⟩
        rw [ht] at hmiddle
        simp only [InferRequest.launchedChunk] at hmiddle
        omega
      · rw [hsequence, List.take_of_length_le (by omega), ht]
        show _ = s.req.outputTokens ++ _
        rw [houtput]
      · simp only [if_pos hlast]
      · rw [ht]
        simp only [InferRequest.launchedChunk, if_pos hlast]
      · rw [hdelivered, hundelivered]
        exact fun result hnone => by cases hnone
    · have hmore := hlast
      rw [InferRequest.plansLastChunk] at hmore
      refine .prompt ?_ ?_ ?_ ?_ ?_
      · rw [hpromptNum, ht]
        show _ < s.req.prefillingTokens.length
        omega
      · rw [ht]
        exact houtput
      · rw [hsequence, hpromptNum, InferRequest.chunkDrafts, if_neg hlast, List.append_nil, ht]
        rfl
      · intro hnone
        rw [hinflight] at hnone
        cases hnone
      · intro task hmem
        rw [hinflight] at hmem
        obtain rfl := List.mem_singleton.mp hmem
        refine ⟨hprefill, ?_⟩
        rw [ht]
        simp only [InferRequest.launchedChunk]
        omega
  · rw [ht]
    show kv = s.req.kvCachedTokenNum
    omega
  · rw [hsequence, ht]
    show _ = s.req.outputTokens.take kv
    rw [houtput, List.take_append_of_le_length (by rw [List.length_take]; show kv ≤ _; omega),
      List.take_take]
    show s.req.prefillingTokens.take (min kv _) = _
    rw [Nat.min_eq_left (by omega)]
  · rw [hsequence, ht]
    show List.drop kv _ = _
    rw [plannedTokens, plannedDrafts, if_pos hprefill, if_pos hprefill, hlength, houtput, hkv, hstart,
      List.drop_append_of_le_length (by rw [List.length_take]; omega), List.drop_take,
      Nat.add_sub_cancel_left]

theorem SlowAccount.launch_real {kv : Nat} {cacheLen : Int}
    (horder : PlanOrder s.req) (hidle : s.req.inflightTasks = []) (hundelivered : s.delivered = none)
    (hplanned : s.req.planningTask.isEmpty = false)
    (hdecode : s.req.planningTask.workload.prefillTokenNum = 0)
    (hkv : kv = s.req.forwardingTokens.length) (haccounted : Accounted s.req)
    (ht : t.req = s.req.launchedReal kv cacheLen) (hdelivered : t.delivered = s.delivered) :
    SlowAccount t ∧ LaunchesUncached s.req t.req := by
  have hpromptNum := launchedPromptNum_of_decode horder hplanned hdecode
  have hcached := haccounted.cached
  have hsequence : t.req.forwardingTokens = s.req.outputTokens ++ s.req.roomDrafts := by
    rw [ht, haccounted.output]
    rfl
  refine ⟨?_, ?_, ?_, ?_⟩
  · refine .sampling ⟨{ s.req.planningTask.workload with
      generatedTokenNum := s.req.generatedTokens.length
      draftTokenNum := s.req.roomDrafts.length
      samplingTokenNum := 1 + s.req.roomDrafts.length }⟩ s.req.roomDrafts ?_ ?_ ?_ ?_ rfl ?_ ?_
    · rw [launchedPromptNum, if_neg (by omega)] at hpromptNum
      rw [ht]
      exact hpromptNum
    · rw [ht, InferRequest.launchedReal, hidle]
      rfl
    · rintro ⟨hpositive, -⟩
      simp only at hpositive
      omega
    · rw [hsequence, ht]
      rfl
    · rw [ht]
      rfl
    · rw [hdelivered, hundelivered]
      exact fun result hnone => by cases hnone
  · rw [ht]
    show kv = s.req.kvCachedTokenNum
    omega
  · rw [hsequence, ht]
    show List.take kv _ = _
    rw [List.take_append_of_le_length]
    · rfl
    · rw [haccounted.output, List.length_append]
      omega
  · rw [hsequence, ht]
    show List.drop kv _ = _
    rw [plannedTokens, plannedDrafts, if_neg (by omega), if_neg (by omega), hkv,
      List.drop_append_of_le_length]
    rw [haccounted.output, List.length_append]
    omega

/-- Before a stop token a launch keeps the account and forwards what is not yet cached. -/
theorem SlowAccount.launch (hs : SlowAccount s) (horder : PlanOrder s.req)
    (harrived : ResultArrived ReturnsOneToken s)
    (h : pipelineStep false 1 s .launch = .ok t) :
    SlowAccount t ∧ LaunchesUncached s.req t.req := by
  obtain ⟨launched, hlaunch, h⟩ := bind_ok h
  obtain rfl := Except.ok.inj h
  obtain ⟨-, hroom, hpushed⟩ := launch_ok hlaunch
  have hidle : s.req.inflightTasks = [] := List.eq_nil_of_length_eq_zero (by omega)
  have hundelivered : s.delivered = none := by
    cases hdelivered : s.delivered with
    | none => rfl
    | some result => exact absurd hidle (harrived result hdelivered).1
  obtain ⟨hplanned, -, -, hcase⟩ := InferRequest.launchPlanningTask_cases hpushed
  cases hcase with
  | block kv cacheLen hdecode hplaceholder => exact absurd hplaceholder.2.1 (by decide)
  | chunk kv cacheLen hprefill hcached =>
    have hchunk := horder.chunk hprefill
    have htotal := horder.total
    have hstart := launchedPromptNum_of_chunk hprefill
    cases hs with
    | prompt hleft houtput hforwarding hkv hmiddle =>
      have hcounted := hkv hidle
      exact SlowAccount.launch_chunk horder hidle hundelivered hprefill (hcached (Or.inr hcounted)) houtput
        hforwarding hcounted rfl rfl
    | sampling step drafts hlaunched hinflight =>
      rw [hidle] at hinflight
      cases hinflight
    | drained hlaunched => omega
  | real kv cacheLen hdecode hreal hfits hcached =>
    have hlaunched := launchedPromptNum_of_decode horder hplanned hdecode
    cases hs with
    | prompt hleft => omega
    | sampling step drafts hlaunched hinflight =>
      rw [hidle] at hinflight
      cases hinflight
    | drained hlaunched hinflight haccounted =>
      exact SlowAccount.launch_real horder hidle hundelivered hplanned hdecode
        (hcached (Or.inr haccounted.cached)) haccounted rfl rfl

/-- The step in flight retires: a middle chunk leaves the prompt's account as it is, a sampled
step leaves everything accounted for. -/
theorem SlowAccount.finish (hs : SlowAccount s) (hone : OneAtATime s.req) (harrived : ResultArrived ReturnsOneToken s)
    (heos : s.req.isEosGenerated = false) (h : pipelineStep false 1 s .finish = .ok t) :
    SlowAccount t ∧ (s.req.isSplitPrefillStep = false → Accounted t.req) := by
  rw [pipelineStep] at h
  split at h
  · cases h
  rename_i result hdelivered
  obtain ⟨hsome, hgenerated, haccepted, hfits⟩ := harrived result hdelivered
  obtain ⟨updated, hupdate, h⟩ := bind_ok h
  obtain rfl := Except.ok.inj h
  obtain ⟨step, queue, hinflight⟩ := List.exists_cons_of_ne_nil hsome
  have hnoMore : queue = [] := by
    have hdepth := hone.depth
    rw [hinflight, List.length_cons] at hdepth
    exact List.eq_nil_of_length_eq_zero (by omega)
  have hsame := updateAfterInflightTaskFinished_sameOrder hupdate
  have hidle : updated.resetInflightTask.inflightTasks = [] := by
    show updated.inflightTasks.tail = []
    rw [hsame.inflight, hinflight, hnoMore]
    rfl
  have hpromptNum : launchedPromptNum updated.resetInflightTask = launchedPromptNum s.req := by
    show (if 0 < updated.planningTask.workload.prefillTokenNum then
      updated.planningTask.workload.prefillStartOffset
      else updated.remainingWorkload.prefillStartOffset) = _
    rw [hsame.task, hsame.offset]
    rfl
  cases hs with
  | prompt hleft houtput hforwarding hcached hmiddle =>
    have hsplit := (isSplitPrefillStep_iff hinflight).mpr
      (hmiddle step (by rw [hinflight]; exact List.mem_cons_self))
    rw [InferRequest.updateAfterInflightTaskFinished_split s.req hinflight heos hsplit] at hupdate
    obtain rfl := Except.ok.inj hupdate
    obtain ⟨houtput', hforwarding', -, hcached', -⟩ :=
      InferRequest.refreshWorkloads_tokens { s.req with
        generatedTokens := []
        draftTokens := DraftTokensApi.clear s.req.draftTokens }
    refine ⟨.prompt ?_ ?_ ?_ ?_ ?_, fun hwhole => ?_⟩
    · show launchedPromptNum (InferRequest.resetInflightTask _) < (InferRequest.refreshWorkloads _).prefillingTokens.length
      rw [hpromptNum, hsame.prefilling]
      exact hleft
    · show (InferRequest.refreshWorkloads _).outputTokens = (InferRequest.refreshWorkloads _).prefillingTokens
      rw [hsame.prefilling, houtput']
      exact houtput
    · show (InferRequest.refreshWorkloads _).forwardingTokens =
        (InferRequest.refreshWorkloads _).prefillingTokens.take _
      rw [hpromptNum, hsame.prefilling, hforwarding']
      exact hforwarding
    · intro _
      show (InferRequest.refreshWorkloads _).kvCachedTokenNum =
        (InferRequest.refreshWorkloads _).forwardingTokens.length
      rw [hcached', hforwarding']
    · intro task hmem
      rw [hidle] at hmem
      cases hmem
    · rw [hsplit] at hwhole
      cases hwhole
  | sampling step' drafts hlaunched hstep hwhole hforwarding hdraft hdraftNum hprefix =>
    rw [hinflight, List.cons.injEq] at hstep
    obtain ⟨rfl, -⟩ := hstep
    have hsplit : s.req.isSplitPrefillStep = false := by
      rw [Bool.eq_false_iff]
      exact fun hsplit => hwhole ((isSplitPrefillStep_iff hinflight).mp hsplit)
    rw [InferRequest.updateAfterInflightTaskFinished_plain s.req hinflight heos hsplit
      hone.positions] at hupdate
    obtain rfl := Except.ok.inj hupdate
    have hretired := InferRequest.retireWithoutPlaceholder_prefix s.req step.workload hforwarding
      hdraftNum hdraft (by rw [haccepted]; exact hprefix result hdelivered)
    obtain ⟨houtput', hforwarding', hgenerated', hcached', -⟩ :=
      InferRequest.refreshWorkloads_tokens (s.req.retireWithoutPlaceholder step.workload)
    have haccounted : Accounted
        ((s.req.retireWithoutPlaceholder step.workload).refreshWorkloads).resetInflightTask := by
      refine ⟨?_, ?_⟩
      · show (InferRequest.refreshWorkloads _).outputTokens =
          (InferRequest.refreshWorkloads _).forwardingTokens ++
            (InferRequest.refreshWorkloads _).generatedTokens
        rw [houtput', hforwarding', hgenerated', hretired]
      · show (InferRequest.refreshWorkloads _).kvCachedTokenNum =
          (InferRequest.refreshWorkloads _).forwardingTokens.length
        rw [hcached', hforwarding']
    refine ⟨.drained ?_ hidle haccounted, fun _ => haccounted⟩
    rw [hpromptNum]
    show _ = (InferRequest.refreshWorkloads _).prefillingTokens.length
    rw [hsame.prefilling]
    exact hlaunched
  | drained hlaunched hnone =>
    rw [hinflight] at hnone
    cases hnone

theorem SlowAccount.restart (s : PipelineState) (history : List PipelineEvent) :
    SlowAccount { req := admitted s.req 0, history := history } := by
  by_cases hempty : s.req.outputTokens = []
  · refine .drained ?_ rfl ⟨?_, rfl⟩
    · show 0 = s.req.outputTokens.length
      rw [hempty]
      rfl
    · exact hempty
  · exact .prompt (List.length_pos_of_ne_nil hempty) rfl rfl (fun _ => rfl)
      (fun task hmem => absurd hmem List.not_mem_nil)

omit [DraftTokensApi] in
/-- The account depends on the tokens, the step in flight and the part of the prompt launched. -/
theorem SlowAccount.congr (hs : SlowAccount s)
    (hpromptNum : launchedPromptNum t.req = launchedPromptNum s.req)
    (hprefilling' : t.req.prefillingTokens = s.req.prefillingTokens)
    (houtput' : t.req.outputTokens = s.req.outputTokens)
    (hforwarding' : t.req.forwardingTokens = s.req.forwardingTokens)
    (hdraftNum' : t.req.forwardingTokensDraftNum = s.req.forwardingTokensDraftNum)
    (hcached' : t.req.kvCachedTokenNum = s.req.kvCachedTokenNum)
    (hinflight' : t.req.inflightTasks = s.req.inflightTasks)
    (hgenerated' : s.req.inflightTasks = [] → t.req.generatedTokens = s.req.generatedTokens)
    (haccepted' : ∀ result ∈ t.delivered, s.req.isSplitPrefillStep = false →
      result ∈ s.delivered ∨ result.acceptedTokens <+: launchedDrafts s.req) : SlowAccount t := by
  cases hs with
  | prompt hleft houtput hforwarding hcached hmiddle =>
    refine .prompt ?_ ?_ ?_ ?_ ?_
    · rw [hpromptNum, hprefilling']
      exact hleft
    · rw [houtput', hprefilling']
      exact houtput
    · rw [hforwarding', hprefilling', hpromptNum]
      exact hforwarding
    · rw [hinflight', hcached', hforwarding']
      exact hcached
    · intro task hmem
      rw [hinflight'] at hmem
      rw [IsMiddleChunk, hprefilling']
      exact hmiddle task hmem
  | sampling step drafts hlaunched hinflight hwhole hforwarding hstep hdraftNum haccepted =>
    refine .sampling step drafts ?_ (hinflight'.trans hinflight) ?_ ?_ hstep
      (hdraftNum'.trans hdraftNum) ?_
    · rw [hpromptNum, hprefilling']
      exact hlaunched
    · rw [IsMiddleChunk, hprefilling']
      exact hwhole
    · rw [hforwarding', houtput']
      exact hforwarding
    · intro result hdelivered
      have hsplit : s.req.isSplitPrefillStep = false := by
        rw [Bool.eq_false_iff]
        exact fun hsplit => hwhole ((isSplitPrefillStep_iff hinflight).mp hsplit)
      rcases haccepted' result hdelivered hsplit with hold | hnew
      · exact haccepted result hold
      · have holdest : oldestDraftNum s.req = drafts.length := by
          rw [oldestDraftNum_cons hinflight]
          exact hstep
        rwa [launchedDrafts, holdest, hforwarding, List.length_append, Nat.add_sub_cancel,
          List.drop_left] at hnew
  | drained hlaunched hinflight haccounted =>
    refine .drained ?_ (hinflight'.trans hinflight) ⟨?_, ?_⟩
    · rw [hpromptNum, hprefilling']
      exact hlaunched
    · rw [houtput', hforwarding', hgenerated' hinflight]
      exact haccounted.output
    · rw [hcached', hforwarding']
      exact haccounted.cached

omit [DraftTokensApi] in
theorem launchedPromptNum_plan {req planned : InferRequest} {workload : ScheduleTaskWorkload}
    (hfollows : PlanFollows req workload)
    (h : (req.setPlanningWorkload workload).setPlanningTask = .ok planned) :
    launchedPromptNum planned = launchedPromptNum req := by
  obtain ⟨hempty, hfit, rfl⟩ := plan_ok h
  have hnoTask := ScheduleTask.prefillTokenNum_of_isEmpty hempty
  rw [launchedPromptNum, launchedPromptNum, if_neg (c := 0 < req.planningTask.workload.prefillTokenNum)
    (by omega)]
  rw [PlanFollows] at hfollows
  split at hfollows
  · obtain ⟨hstart, hpositive⟩ := hfollows
    exact (if_pos hpositive).trans hstart
  · refine (if_neg (by simp only; omega)).trans ?_
    show req.remainingWorkload.prefillStartOffset + workload.prefillTokenNum = _
    omega

end Account

section Run

variable [DraftTokensApi] {stops prompt : List Int} {s t : PipelineState} {op : PipelineOp}
  {ops : List PipelineOp}

/-- What every operation of the slow path keeps. -/
structure SlowInvariant (stops prompt : List Int) (s : PipelineState) : Prop
    extends StopsAlone ReturnsOneToken stops prompt s where
  order : PlanOrder s.req
  account : s.req.isEosGenerated = false → SlowAccount s

theorem SlowInvariant.step (hs : SlowInvariant stops prompt s) (hop : SlowPermitted s op)
    (h : pipelineStep false 1 s op = .ok t) : SlowInvariant stops prompt t := by
  have hpermitted := hop.permitted
  refine ⟨hs.toStopsAlone.step returnsOneToken_fitsStep hpermitted h,
    pipelineStep_order hs.order hpermitted h, fun hrunning => ?_⟩
  cases op with
  | restart cached =>
    obtain ⟨-, h⟩ := check_bind_ok h
    obtain rfl := Except.ok.inj h
    obtain ⟨rfl, -⟩ := hop
    exact .restart s _
  | generateDrafts drafts =>
    obtain rfl := Except.ok.inj h
    exact (hs.account hrunning).congr rfl rfl rfl rfl rfl rfl rfl (fun _ => rfl)
      (fun _ hold _ => Or.inl hold)
  | plan workload =>
    obtain ⟨planned, hplan, h⟩ := bind_ok h
    obtain rfl := Except.ok.inj h
    have hpromptNum := launchedPromptNum_plan hop hplan
    obtain ⟨-, -, rfl⟩ := plan_ok hplan
    exact (hs.account hrunning).congr hpromptNum rfl rfl rfl rfl rfl rfl (fun _ => rfl)
      (fun _ hold _ => Or.inl hold)
  | launch =>
    have hkeeps : t.req.isEosGenerated = s.req.isEosGenerated := by
      obtain ⟨launched, hlaunch, hstate⟩ := bind_ok h
      obtain rfl := Except.ok.inj hstate
      exact (InferRequest.launchPlanningTask_keeps (launch_ok hlaunch).2.2).1.eos
    exact ((hs.account (hkeeps.symm.trans hrunning)).launch hs.order hs.arrived h).1
  | deliver result =>
    obtain ⟨⟨-, hsome⟩, h⟩ := check_bind_ok h
    obtain rfl := Except.ok.inj h
    refine (hs.account hrunning).congr rfl rfl rfl rfl rfl rfl rfl
      (fun hnone => absurd hnone hsome) ?_
    intro arrived hdelivered hsplit
    obtain rfl := Option.some.inj hdelivered
    exact Or.inr (hop hsplit).2
  | finish =>
    cases heos : s.req.isEosGenerated with
    | true =>
      rw [pipelineStep] at h
      split at h
      · cases h
      · obtain ⟨updated, hupdate, h⟩ := bind_ok h
        obtain rfl := Except.ok.inj h
        obtain rfl := updateAfterInflightTaskFinished_keeps_eos heos hupdate
        rw [InferRequest.resetInflightTask, InferRequest.discardStepAfterEos, heos] at hrunning
        cases hrunning
    | false => exact ((hs.account heos).finish hs.toOneAtATime hs.arrived heos h).1

/-- In every run of the slow path, before a stop token: a sampled step that retires leaves every
token accounted for, a launch forwards exactly what is not yet cached and its drafts, and the
output is what the steps have returned, across every recompute. -/
theorem slow_path_accounts (start : InferRequest) (ops : List PipelineOp)
    (hrun : exec (pipelineStep false 1) { req := admitted start 0 } ops = .ok s)
    (hpermitted : EachStep (pipelineStep false 1) SlowPermitted { req := admitted start 0 } ops) :
    (∀ t, pipelineStep false 1 s .finish = .ok t → s.req.isEosGenerated = false →
      s.req.isSplitPrefillStep = false → Accounted t.req) ∧
    (∀ t, pipelineStep false 1 s .launch = .ok t → s.req.isEosGenerated = false →
      LaunchesUncached s.req t.req) ∧
    s.req.outputTokens = (transcriptOf start.samplingConfig.stopTokenIds
      { tokens := start.outputTokens } s.history).tokens := by
  have hinv : SlowInvariant start.samplingConfig.stopTokenIds start.outputTokens s :=
    exec_invariant_of (fun _ _ _ hs hop h => hs.step hop h)
      { toStopsAlone := .of_fresh ReturnsOneToken start 0
        order := .admitted (Nat.zero_le _)
        account := fun _ => .restart { req := start } [] } hpermitted hrun
  refine ⟨fun t h heos hsplit => ?_, fun t h heos => ?_, hinv.output⟩
  · exact ((hinv.account heos).finish hinv.toOneAtATime hinv.arrived heos h).2 hsplit
  · exact ((hinv.account heos).launch hinv.order hinv.arrived h).2

end Run

/-- A prompt in two chunks, a decode step with room for one of two drafts, and its result. -/
def accountSampleRun : List PipelineOp :=
  [.plan { prefillTokenNum := 1 }, .launch, .deliver {}, .finish,
    .plan { prefillTokenNum := 1, prefillStartOffset := 1 }, .launch,
    .deliver { generatedTokens := [20], draftTokens := { mtp := [40, 41] } }, .finish,
    .plan { generatedTokenNum := 1, draftTokenNum := 1 }, .launch,
    .deliver { generatedTokens := [21], acceptedTokens := [40] }]

/-- Where that run ends. -/
def accountSampleEnd : PipelineState where
  req := {
    reqId := 7
    samplingTokenNum := 2
    outputTokens := [11, 12, 20]
    acceptedTokens := [40]
    forwardingTokensDraftNum := 1
    generatedTokens := [21]
    forwardingTokens := [11, 12, 20, 40]
    inferStage := .decode
    forwardStepKind := .decode
    kvCachedTokenNum := 2
    prefixCacheLen := 2
    prefillingTokens := [11, 12]
    inflightTasks := [⟨{ generatedTokenNum := 1, draftTokenNum := 1, samplingTokenNum := 2 }⟩]
    remainingWorkload := { prefillStartOffset := 2 } }
  delivered := some { generatedTokens := [21], acceptedTokens := [40] }
  draftStarts := [3]
  history := [.sampled { generatedTokens := [20], draftTokens := { mtp := [40, 41] } }]

theorem slow_path_accounts_sample :
    letI := concatDraftTokens
    ∃ t, pipelineStep false 1 accountSampleEnd .finish = .ok t ∧
      t.req.outputTokens = [11, 12, 20, 40, 21] ∧ Accounted t.req := by
  let _ := concatDraftTokens
  have hrun : exec (pipelineStep false 1) { req := admitted drainSample 0 } accountSampleRun =
      .ok accountSampleEnd := by decide +kernel
  have hpermitted : EachStep (pipelineStep false 1) SlowPermitted
      { req := admitted drainSample 0 } accountSampleRun := eachStep_of_check (by decide +kernel)
  obtain ⟨hfinish, -, -⟩ := slow_path_accounts drainSample accountSampleRun hrun hpermitted
  exact ⟨_, rfl, rfl, hfinish _ rfl rfl rfl⟩

/-- The prefill returns a stop token, and a step is launched behind it all the same. -/
def launchedStoppedRun : List PipelineOp :=
  [.plan { prefillTokenNum := 2 }, .launch, .deliver { generatedTokens := [2] }, .finish,
    .plan { generatedTokenNum := 1 }, .launch, .deliver { generatedTokens := [30] }]

/-- A step behind a stop token is discarded: its query is not counted, its token not kept. -/
theorem stopped_step_not_accounted :
    letI := concatDraftTokens
    ∃ s t, exec (pipelineStep false 1) { req := admitted stopSample 0 } launchedStoppedRun = .ok s ∧
      EachStep (pipelineStep false 1) SlowPermitted { req := admitted stopSample 0 }
        launchedStoppedRun ∧
      s.req.isSplitPrefillStep = false ∧ pipelineStep false 1 s .finish = .ok t ∧
      t.req.outputTokens = [11, 12, 2] ∧ ¬ Accounted t.req := by
  let _ := concatDraftTokens
  have hpermitted : EachStep (pipelineStep false 1) SlowPermitted
      { req := admitted stopSample 0 } launchedStoppedRun := eachStep_of_check (by decide +kernel)
  refine ⟨_, _, rfl, hpermitted, rfl, rfl, rfl, fun haccounted => ?_⟩
  exact absurd (show 2 = 3 from haccounted.cached) (by decide)

end KsanaBuildAhead.Engine
