import KsanaBuildAhead.Engine.PlanningLength

/-!
# What a launch forwards

The part of the sequence behind the cached KV is what the Executor computes. A launch with a
block forwards placeholders only, any other launch tokens of the vocabulary only.
-/
namespace KsanaBuildAhead.Engine

open KsanaBuildAhead.Runtime KsanaBuildAhead.Lib.ListEdit KsanaBuildAhead.Lib.Execution

/-- The launch of the planned step takes a block. -/
def LaunchesBlock (fastPath : Bool) (req : InferRequest) : Prop :=
  req.planningTask.workload.prefillTokenNum = 0 ∧ ReservesBlock fastPath req

instance (fastPath : Bool) (req : InferRequest) : Decidable (LaunchesBlock fastPath req) :=
  inferInstanceAs (Decidable (_ ∧ _ ∧ _ ∧ _))

/-- The launched sequence without its cached front. -/
def forwardedTokens (launched : InferRequest) : List Int :=
  launched.forwardingTokens.drop (max launched.kvCachedTokenNum launched.prefixCacheLen.toNat)

variable [DraftTokensApi]

/-- Whatever comes back from the Executor, and whatever is drafted, is a token. -/
def VocabReturned (_ : PipelineState) : PipelineOp → Prop
  | .generateDrafts drafts => ∀ token ∈ DraftTokensApi.getDraftTokens drafts, 0 ≤ token
  | .deliver result =>
    (∀ token ∈ result.generatedTokens, 0 ≤ token) ∧
    (∀ token ∈ result.acceptedTokens, 0 ≤ token) ∧
    ∀ token ∈ DraftTokensApi.getDraftTokens result.draftTokens, 0 ≤ token
  | _ => True

instance (s : PipelineState) : (op : PipelineOp) → Decidable (VocabReturned s op)
  | .generateDrafts _ => by unfold VocabReturned; infer_instance
  | .deliver _ => by unfold VocabReturned; infer_instance
  | .restart _ | .plan _ | .launch | .finish => .isTrue trivial

/-- Everything a launch can take its tokens from. The sequence is not among it: what is in it
is cached. -/
structure HoldsVocab (req : InferRequest) : Prop where
  output : ∀ token ∈ req.outputTokens, 0 ≤ token
  prefilling : ∀ token ∈ req.prefillingTokens, 0 ≤ token
  generated : ∀ token ∈ req.generatedTokens, 0 ≤ token
  accepted : ∀ token ∈ req.acceptedTokens, 0 ≤ token
  drafts : ∀ token ∈ DraftTokensApi.getDraftTokens req.draftTokens, 0 ≤ token

variable {fastPath usePlaceholder : Bool} {maxDepth : Nat} {req launched after : InferRequest}
  {s t : PipelineState} {op : PipelineOp}

theorem HoldsVocab.admitted {cached : Nat} (houtput : ∀ token ∈ req.outputTokens, 0 ≤ token) :
    HoldsVocab (admitted req cached) where
  output := houtput
  prefilling := houtput
  generated := fun _ h => absurd h List.not_mem_nil
  accepted := fun _ h => absurd h List.not_mem_nil
  drafts := by
    show ∀ token ∈ DraftTokensApi.getDraftTokens (DraftTokensApi.clear req.draftTokens), 0 ≤ token
    rw [DraftTokensApi.get_clear]
    exact fun _ h => absurd h List.not_mem_nil

theorem HoldsVocab.launch (hreq : HoldsVocab req)
    (h : req.launchPlanningTask fastPath usePlaceholder = .ok launched) : HoldsVocab launched := by
  obtain ⟨-, -, -, hcase⟩ := InferRequest.launchPlanningTask_cases h
  cases hcase with
  | chunk kv cacheLen => exact ⟨hreq.output, hreq.prefilling, hreq.generated, hreq.accepted, hreq.drafts⟩
  | block kv cacheLen => exact ⟨hreq.output, hreq.prefilling, hreq.generated, hreq.accepted, hreq.drafts⟩
  | real kv cacheLen =>
    refine ⟨hreq.output, hreq.prefilling, hreq.generated, hreq.accepted, ?_⟩
    rw [InferRequest.launchedReal]
    dsimp only
    split
    · rw [DraftTokensApi.get_trunc]
      exact fun token hmem => hreq.drafts token (List.mem_of_mem_take hmem)
    · exact hreq.drafts

theorem HoldsVocab.refreshWorkloads (hreq : HoldsVocab req) : HoldsVocab req.refreshWorkloads := by
  unfold InferRequest.refreshWorkloads
  dsimp only
  split <;> exact ⟨hreq.output, hreq.prefilling, hreq.generated, hreq.accepted, hreq.drafts⟩

theorem HoldsVocab.update (hreq : HoldsVocab req)
    (h : req.updateAfterInflightTaskFinished = .ok after) : HoldsVocab after := by
  have hnone : ∀ token ∈ ([] : List Int), 0 ≤ token := fun _ h => absurd h List.not_mem_nil
  have hcleared : ∀ token ∈ DraftTokensApi.getDraftTokens (DraftTokensApi.clear req.draftTokens),
      0 ≤ token := by
    rw [DraftTokensApi.get_clear]
    exact hnone
  have happend : ∀ {xs ys : List Int}, (∀ token ∈ xs, 0 ≤ token) → (∀ token ∈ ys, 0 ≤ token) →
      ∀ token ∈ xs ++ ys, 0 ≤ token := by
    intro xs ys hxs hys token hmem
    rcases List.mem_append.mp hmem with hleft | hright
    · exact hxs token hleft
    · exact hys token hright
  obtain ⟨-, hcase⟩ := InferRequest.updateAfterInflightTaskFinished_cases h
  cases hcase with
  | afterEos => exact ⟨hreq.output, hreq.prefilling, hnone, hnone, hcleared⟩
  | middleChunk =>
    have hdropped : HoldsVocab { req with
        generatedTokens := []
        draftTokens := DraftTokensApi.clear req.draftTokens } :=
      ⟨hreq.output, hreq.prefilling, hnone, hreq.accepted, hcleared⟩
    exact hdropped.refreshWorkloads
  | plain oldest queue =>
    have hkept : HoldsVocab (req.retireWithoutPlaceholder oldest.workload) := by
      rw [InferRequest.retireWithoutPlaceholder]
      split
      · exact ⟨happend (happend hreq.output hreq.accepted) hreq.generated, hreq.prefilling,
          hreq.generated, hnone, hreq.drafts⟩
      · exact ⟨happend hreq.output hreq.generated, hreq.prefilling, hreq.generated, hreq.accepted,
          hreq.drafts⟩
    exact hkept.refreshWorkloads
  | backfill =>
    exact ⟨happend hreq.output hreq.generated, hreq.prefilling, hnone, hreq.accepted, hreq.drafts⟩
  | own =>
    exact ⟨happend (happend hreq.output hreq.accepted) hreq.generated, hreq.prefilling, hnone, hnone,
      hreq.drafts⟩

theorem HoldsVocab.step (hs : HoldsVocab s.req) (hop : VocabReturned s op)
    (h : pipelineStep fastPath maxDepth s op = .ok t) : HoldsVocab t.req := by
  cases op with
  | restart cached =>
    obtain ⟨-, h⟩ := check_bind_ok h
    obtain rfl := Except.ok.inj h
    exact .admitted hs.output
  | generateDrafts drafts =>
    obtain rfl := Except.ok.inj h
    exact ⟨hs.output, hs.prefilling, hs.generated, hs.accepted, hop⟩
  | plan workload =>
    obtain ⟨planned, hplan, h⟩ := bind_ok h
    obtain rfl := Except.ok.inj h
    obtain ⟨-, -, rfl⟩ := plan_ok hplan
    exact ⟨hs.output, hs.prefilling, hs.generated, hs.accepted, hs.drafts⟩
  | launch =>
    obtain ⟨launched, hlaunch, h⟩ := bind_ok h
    obtain rfl := Except.ok.inj h
    exact hs.launch (launch_ok hlaunch).2.2
  | deliver result =>
    obtain ⟨-, h⟩ := check_bind_ok h
    obtain rfl := Except.ok.inj h
    exact ⟨hs.output, hs.prefilling, hop.1, hop.2.1, hop.2.2⟩
  | finish =>
    rw [pipelineStep] at h
    split at h
    · cases h
    · obtain ⟨updated, hupdate, h⟩ := bind_ok h
      obtain rfl := Except.ok.inj h
      have hkept := hs.update hupdate
      exact ⟨hkept.output, hkept.prefilling, hkept.generated, hkept.accepted, hkept.drafts⟩

theorem HoldsVocab.run {start : InferRequest} {cached : Nat} {ops : List PipelineOp}
    (houtput : ∀ token ∈ start.outputTokens, 0 ≤ token)
    (hops : EachStep (pipelineStep fastPath maxDepth) VocabReturned
      { req := Engine.admitted start cached } ops)
    (h : exec (pipelineStep fastPath maxDepth) { req := Engine.admitted start cached } ops = .ok s) :
    HoldsVocab s.req ∧ s.req.toRequestPayload = start.toRequestPayload := by
  refine exec_invariant_of (I := fun s => HoldsVocab s.req ∧
    s.req.toRequestPayload = start.toRequestPayload) ?_ ⟨.admitted houtput, rfl⟩ hops h
  rintro s op t ⟨hvocab, hpayload⟩ hop hstep
  exact ⟨hvocab.step hop hstep, (pipelineStep_payload hstep).trans hpayload⟩

theorem launch_prefixCacheLen (hlocal : req.pdV2.kvFromRemote = false)
    (h : req.launchPlanningTask fastPath usePlaceholder = .ok launched) :
    launched.prefixCacheLen = launched.kvCachedTokenNum := by
  obtain ⟨-, h⟩ := check_bind_ok h
  obtain ⟨-, h⟩ := check_bind_ok h
  obtain ⟨-, h⟩ := check_bind_ok h
  obtain ⟨⟨pushed, workload⟩, hbranch, h⟩ := bind_ok h
  obtain rfl := Except.ok.inj h
  show pushed.prefixCacheLen = pushed.kvCachedTokenNum
  have hstart : req.startLaunch.prefixCacheLen = req.startLaunch.kvCachedTokenNum := by
    rw [InferRequest.startLaunch, hlocal]
    rfl
  rw [InferRequest.launchWorkload] at hbranch
  split at hbranch
  · have hpair := (Except.ok.inj hbranch).symm
    rw [InferRequest.launchPrefill] at hpair
    dsimp only at hpair
    split at hpair <;> split at hpair <;> obtain ⟨rfl, -⟩ := Prod.mk.inj hpair
    · exact hstart
    · rfl
    · exact hstart
    · rfl
  · obtain ⟨-, hbranch⟩ := check_bind_ok hbranch
    split at hbranch
    · obtain ⟨rfl, -⟩ := Prod.mk.inj (Except.ok.inj hbranch)
      exact hstart
    · obtain ⟨-, hbranch⟩ := check_bind_ok hbranch
      obtain ⟨rfl, -⟩ := Prod.mk.inj (Except.ok.inj hbranch)
      exact hstart

/-- A block of placeholders is forwarded as one; everything else is made of tokens. -/
theorem forwardedTokens_launch (hreq : HoldsVocab req) (hlocal : req.pdV2.kvFromRemote = false)
    (h : req.launchPlanningTask fastPath req.hasInflightTask = .ok launched) :
    (LaunchesBlock fastPath req → forwardedTokens launched =
      List.replicate (req.planningTask.workload.draftTokenNum + 1) kFastPathPlaceholderTokenId) ∧
    (¬ LaunchesBlock fastPath req → ∀ token ∈ forwardedTokens launched, 0 ≤ token) := by
  rw [forwardedTokens, launch_prefixCacheLen hlocal h, Int.toNat_natCast, max_self]
  obtain ⟨-, -, -, hcase⟩ := InferRequest.launchPlanningTask_cases h
  cases hcase with
  | chunk kv cacheLen hprefill hcached =>
    refine ⟨fun hblock => absurd hblock.1 (Nat.ne_of_gt hprefill), fun _ token hmem => ?_⟩
    rw [InferRequest.launchedChunk] at hmem
    dsimp only at hmem
    rw [hcached (Or.inl hlocal), List.drop_append] at hmem
    rcases List.mem_append.mp hmem with hchunk | hdraft
    · rw [InferRequest.chunkTokens] at hchunk
      split at hchunk
      · rename_i hoffset
        rw [← hoffset, List.drop_left] at hchunk
        exact hreq.prefilling token (List.mem_of_mem_drop (List.mem_of_mem_take hchunk))
      · exact hreq.prefilling token (List.mem_of_mem_take (List.mem_of_mem_drop hchunk))
    · have hdraft := List.mem_of_mem_drop hdraft
      rw [InferRequest.chunkDrafts] at hdraft
      split at hdraft
      · exact hreq.drafts token hdraft
      · exact absurd hdraft List.not_mem_nil
  | block kv cacheLen hdecode hplaceholder hcached =>
    refine ⟨fun _ => ?_, fun hnone => absurd ⟨hdecode, hplaceholder⟩ hnone⟩
    rw [InferRequest.launchedBlock]
    dsimp only
    rw [hcached (Or.inl hlocal), List.drop_left]
  | real kv cacheLen hdecode hreal hroom hcached =>
    refine ⟨fun hblock => absurd hblock.2 hreal, fun _ token hmem => ?_⟩
    rw [InferRequest.launchedReal] at hmem
    dsimp only at hmem
    rw [hcached (Or.inl hlocal), List.append_assoc, List.drop_left] at hmem
    rcases List.mem_append.mp hmem with hgenerated | hdraft
    · exact hreq.generated token hgenerated
    · exact hreq.drafts token (List.mem_of_mem_take hdraft)

end KsanaBuildAhead.Engine
