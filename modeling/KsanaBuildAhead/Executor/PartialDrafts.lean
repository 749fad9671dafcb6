import KsanaBuildAhead.Executor.MtpAgreement

/-!
# Blocks with fewer drafts than slots

When fewer drafts come back than slots were reserved, the Executor erases the slots left
over and records the narrower block. The Engine keeps those slots as placeholders, and the
patch of the next launch still carries them. The next repair erases them with the rejected
drafts, but only when the recorded block has a draft: behind one without any it takes the
branch that inserts, and the placeholders stay where they are.
-/
namespace KsanaBuildAhead.Executor

open KsanaBuildAhead.Runtime KsanaBuildAhead.Engine KsanaBuildAhead.Lib.ListEdit

/-- The request as the repair at step `k` left it. -/
def repairedAt [DraftTokensApi] (req : InferRequest) (outcome : Nat → MtpOutcome)
    (reserved : Nat → Nat) (start : MtpSerialState) (around : Nat → Surroundings) (k : Nat) :
    Except String (Option ExecutorInferRequest) := do
  let (_, reqs) ← executorRun req outcome reserved start around k
  .ok reqs[(around k).before.length]?

/-- The repair of a block with `slots` draft slots leaves no placeholder: the sequence ends
with the main token and the drafts that fit, the counts are those of these drafts, and the
KV start is where the main token stands behind `tokens`. -/
structure LeavesNoPlaceholder (tokens : List Int) (main : Int) (drafts : List Int) (slots : Nat)
    (repaired : ExecutorInferRequest) : Prop where
  noPlaceholder : kFastPathPlaceholderTokenId ∉ repaired.forwardingTokens
  block : main :: drafts.take slots <:+ repaired.forwardingTokens
  draftNum : repaired.forwardingTokensDraftNum = min slots drafts.length
  sampling : repaired.samplingTokenNum = min slots drafts.length + 1
  kvCached : repaired.kvCachedTokenNum = tokens.length

theorem RepairedTo.leavesNoPlaceholder {tokens drafts : List Int} {main : VocabId} {slots : Nat}
    {repaired : ExecutorInferRequest}
    (hrepaired : RepairedTo tokens main.val (drafts.take slots) repaired)
    (htokens : kFastPathPlaceholderTokenId ∉ tokens)
    (hdrafts : kFastPathPlaceholderTokenId ∉ drafts) :
    LeavesNoPlaceholder tokens main.val drafts slots repaired where
  noPlaceholder := by
    rw [hrepaired.forwarding, List.mem_append, List.mem_cons]
    intro hmem
    obtain hsettled | hmain | hdraft := hmem
    · exact htokens hsettled
    · exact main.ne_placeholder hmain.symm
    · exact hdrafts (List.mem_of_mem_take hdraft)
  block := ⟨tokens, hrepaired.forwarding.symm⟩
  draftNum := by rw [hrepaired.draftNum, List.length_take]
  sampling := by
    rw [hrepaired.sampling, List.length_take, Nat.add_comm]
    rfl
  kvCached := hrepaired.kvCached

section PartialDrafts

variable [DraftTokensApi] {prompt : List Int} {req : InferRequest} {outcome : Nat → MtpOutcome}
  {reserved : Nat → Nat} {start : MtpSerialState} {around : Nat → Surroundings}

omit [DraftTokensApi] in
/-- Settled are the prompt, the tokens of the steps and the drafts they accepted. -/
theorem placeholder_notMem_settled (hprompt : kFastPathPlaceholderTokenId ∉ prompt)
    (hoff : AcceptsDrafts outcome reserved)
    (hreal : ∀ k, kFastPathPlaceholderTokenId ∉ (outcome k).drafts) (k : Nat) :
    kFastPathPlaceholderTokenId ∉ settled prompt (stepOutcomes outcome) k := by
  induction k with
  | zero => exact hprompt
  | succ k ih =>
    rw [settled, List.mem_append, List.mem_cons]
    intro hmem
    obtain hsettled | hbonus | haccepted := hmem
    · exact ih hsettled
    · exact (outcome k).bonus.ne_placeholder hbonus.symm
    · exact hreal k (List.mem_of_mem_take ((hoff.accepted k).subset haccepted))

variable (hreq : PipelineStart prompt req) (hoff : AcceptsDrafts outcome reserved)
include hreq hoff

/-- What the slow path forwards at step `k+1`: everything settled, the token of step `k`,
and its drafts in the slots. -/
theorem slow_forwards (fastPath : Bool) (k : Nat)
    (hstop : ∀ j ≤ k, (outcome j).bonus.val ∉ req.samplingConfig.stopTokenIds) :
    ∃ slow, (slowPipeline fastPath req (stepOutcomes outcome) reserved k >>=
        (launchSlow fastPath · (reserved (k + 1)))) = .ok slow ∧
      slow.forwardingTokens = settled prompt (stepOutcomes outcome) k ++
        (outcome k).bonus.val :: (outcome k).drafts.take (reserved (k + 1)) := by
  have hdrafts : ∀ j, DraftTokensApi.getDraftTokens (stepOutcomes outcome j).drafts =
      (outcome j).drafts := by
    intro j
    rw [stepOutcomes, MtpOutcome.toStepOutcome, DraftTokensApi.get_mtp]
  obtain ⟨retired, hslow, hdrained, -, hnoTask⟩ :=
    slowPipeline_drained fastPath hreq (stepOutcomes outcome) reserved hoff.first k hstop
      fun j _ => by rw [hdrafts j]; exact hoff.accepted j
  have hplanned := hdrained.plan { generatedTokenNum := kStepGenerateTokenNum
                                   draftTokenNum := reserved (k + 1) } rfl rfl
  obtain ⟨slow, hlaunch, -, halone⟩ := hplanned.launch fastPath rfl
  refine ⟨slow, ?_, ?_⟩
  · rw [hslow]
    exact (launchSlow_eq fastPath hdrained.toDecodeReady hnoTask _).trans hlaunch
  · rw [halone.forwarding, hdrafts k]
    simp [planDecode, stepOutcomes, MtpOutcome.toStepOutcome]

variable (hexec : ExecutorStart req.reqId start around)
include hexec

/-- Behind a block whose slots took no draft the repair keeps all of them: the block of
step `k+2` is filled where it was launched. -/
theorem executorRun_stale (k : Nat) (hdrafts : ∀ j < k, TakesDraft outcome reserved j)
    (hempty : (outcome k).drafts = [])
    (hstop : ∀ j < k + 1, (outcome j).bonus.val ∉ req.samplingConfig.stopTokenIds) :
    ∃ repaired, repairedAt req outcome reserved start around (k + 2) = .ok (some repaired) ∧
      RepairedTo (settled prompt (stepOutcomes outcome) k ++ (outcome k).bonus.val ::
          List.replicate (reserved (k + 1)) kFastPathPlaceholderTokenId)
        (outcome (k + 1)).bonus.val ((outcome (k + 1)).drafts.take (reserved (k + 2))) repaired := by
  obtain ⟨state, reqs, hrun, hview⟩ := executorRun_holds hexec hreq hoff (k + 1)
    (fun j hj => hdrafts j (by omega)) fun j hj => hstop j (by omega)
  obtain ⟨launched, hlaunch, hpatched⟩ :=
    patched_of_launch hreq hoff (hexec.hosts (k + 2)).cached k hstop
  have hnone : (outcome (k + 1)).accepted = [] := by
    have hprefix := hoff.accepted k
    rwa [hempty, List.take_nil, List.prefix_nil] at hprefix
  have hslots : resize (outcome k).drafts (reserved (k + 1)) kFastPathPlaceholderTokenId =
      List.replicate (reserved (k + 1)) kFastPathPlaceholderTokenId := by
    rw [hempty]
    simp [resize]
  rw [hnone, filledBlock, hempty] at hview
  rw [hslots, ← List.cons_append, ← List.append_assoc] at hpatched
  have hoffset : (settled prompt (stepOutcomes outcome) k).length + 1 +
      (List.replicate (reserved (k + 1)) kFastPathPlaceholderTokenId).length =
      (settled prompt (stepOutcomes outcome) k ++ (outcome k).bonus.val ::
        List.replicate (reserved (k + 1)) kFastPathPlaceholderTokenId).length := by
    simp only [List.length_append, List.length_cons]
    omega
  rw [hoffset] at hpatched
  obtain ⟨repaired, hrepaired, hid, hkind, hrepairs⟩ :=
    hpatched.repairs_standing (outcome (k + 1)).bonus hview (by
      intro start width hblock
      cases hblock
      exact Nat.zero_min _)
  obtain ⟨next, nextReqs, hnext, hat, -⟩ := executorRun_succ hexec hrun hlaunch hrepairs hid hkind
  refine ⟨repaired, ?_, hrepaired⟩
  rw [repairedAt, hnext]
  exact congrArg Except.ok hat

/-- The repair at step `k+1` of every step up to `n` leaves no placeholder exactly when no
block before the last repair was left without a draft in its slots. The kept KV start is
that of the sequence the slow path forwards. -/
theorem repairs_leave_no_placeholder_iff (fastPath : Bool)
    (hprompt : kFastPathPlaceholderTokenId ∉ prompt)
    (hreal : ∀ k, kFastPathPlaceholderTokenId ∉ (outcome k).drafts) (n : Nat)
    (hstop : ∀ j, j + 1 < n → (outcome j).bonus.val ∉ req.samplingConfig.stopTokenIds) :
    (∀ k, (∀ j ≤ k, (outcome j).bonus.val ∉ req.samplingConfig.stopTokenIds) →
      ∃ slow, (slowPipeline fastPath req (stepOutcomes outcome) reserved k >>=
          (launchSlow fastPath · (reserved (k + 1)))) = .ok slow ∧
        slow.forwardingTokens = settled prompt (stepOutcomes outcome) k ++
          (outcome k).bonus.val :: (outcome k).drafts.take (reserved (k + 1))) ∧
    ((∀ k < n, ∃ repaired,
        repairedAt req outcome reserved start around (k + 1) = .ok (some repaired) ∧
        LeavesNoPlaceholder (settled prompt (stepOutcomes outcome) k) (outcome k).bonus.val
          (outcome k).drafts (reserved (k + 1)) repaired) ↔
      ∀ k, k + 1 < n → TakesDraft outcome reserved k) := by
  refine ⟨slow_forwards hreq hoff fastPath, ?_, ?_⟩
  · intro hclean k
    induction k using Nat.strong_induction_on with
    | _ k ih =>
      intro hk hslots hempty
      obtain ⟨stale, hstale, hforwarding⟩ := executorRun_stale hreq hoff hexec k
        (fun j hj => ih j hj (by omega)) hempty fun j hj => hstop j (by omega)
      obtain ⟨repaired, hrepaired, hnone⟩ := hclean (k + 1) hk
      rw [hstale] at hrepaired
      cases hrepaired
      apply hnone.noPlaceholder
      rw [hforwarding.forwarding, List.mem_append, List.mem_append, List.mem_cons,
        List.mem_replicate]
      exact Or.inl (Or.inr (Or.inr ⟨by omega, rfl⟩))
  · intro hdrafts k hk
    obtain ⟨state, reqs, repaired, hrun, hat, -, hrepaired⟩ := executorRun_repairs hexec hreq hoff k
      (fun j hj => hdrafts j (by omega)) fun j hj => hstop j (by omega)
    refine ⟨repaired, ?_, hrepaired.leavesNoPlaceholder
      (placeholder_notMem_settled hprompt hoff hreal k) (hreal k)⟩
    rw [repairedAt, hrun]
    exact congrArg Except.ok hat

end PartialDrafts

/-- Step 0 offers one draft, step 1 none and every later step three. -/
def partialDrafts : Nat → List Int
  | 0 => [40]
  | 1 => []
  | k => [40 + k, 60 + k, 80 + k]

theorem partialBonus_nonneg (k : Nat) : (0 : Int) ≤ 20 + k := by omega

/-- Each step accepts the first draft it verifies, if there is one. -/
def partialOutcomeSample (k : Nat) : MtpOutcome where
  bonus := ⟨20 + k, partialBonus_nonneg k⟩
  accepted := match k with
    | 0 => []
    | j + 1 => (partialDrafts j).take (min 1 (mtpReservedSample (j + 1)))
  drafts := partialDrafts k

theorem partialOutcomeSample_accepts : AcceptsDrafts partialOutcomeSample mtpReservedSample where
  first := rfl
  accepted := fun _ => List.take_prefix_take_left (Nat.min_le_right _ _)

theorem partialOutcomeSample_takesDraft (k : Nat) :
    TakesDraft partialOutcomeSample mtpReservedSample k := by
  intro hslots
  match k with
  | 0 => exact List.cons_ne_nil _ _
  | 1 => exact absurd hslots (by decide)
  | k + 2 => exact List.cons_ne_nil _ _

theorem partialOutcomeSample_real (k : Nat) :
    kFastPathPlaceholderTokenId ∉ (partialOutcomeSample k).drafts := by
  match k with
  | 0 => decide
  | 1 => decide
  | k + 2 =>
    simp only [partialOutcomeSample, partialDrafts, kFastPathPlaceholderTokenId, List.mem_cons,
      List.not_mem_nil, or_false]
    omega

/-- The repair of step 4, behind a block half filled, one without slots and one with a draft too
many. -/
theorem repairs_leave_no_placeholder_sample :
    letI := concatDraftTokens
    ∃ repaired, repairedAt lastChunkSample partialOutcomeSample mtpReservedSample {}
        (fun _ => surroundingsSample) 4 = .ok (some repaired) ∧
      LeavesNoPlaceholder (settled [11, 12] (stepOutcomes partialOutcomeSample) 3) 23
        (partialDrafts 3) (mtpReservedSample 4) repaired := by
  let _ := concatDraftTokens
  exact (repairs_leave_no_placeholder_iff lastChunkSample_start partialOutcomeSample_accepts
    surroundingsSample_start true (by decide) partialOutcomeSample_real 4
    (fun j _ => by simp [lastChunkSample])).2.mpr (fun k _ => partialOutcomeSample_takesDraft k) 3
    (by decide)

/-- No step offers a draft. -/
def noDraftsSample (k : Nat) : MtpOutcome where
  bonus := ⟨20 + k, partialBonus_nonneg k⟩

/-- Step 1 reserves a slot and takes no draft: its repair erases the slot, the patch of
step 2 brings it back, and the repair of step 2 leaves it where it is. -/
theorem empty_block_leaves_placeholder :
    letI := concatDraftTokens
    AcceptsDrafts noDraftsSample (fun _ => 1) ∧
      ∃ first second,
        repairedAt lastChunkSample noDraftsSample (fun _ => 1) {} (fun _ => surroundingsSample) 1 =
          .ok (some first) ∧ first.forwardingTokens = [11, 12, 20] ∧
        repairedAt lastChunkSample noDraftsSample (fun _ => 1) {} (fun _ => surroundingsSample) 2 =
          .ok (some second) ∧ second.forwardingTokens = [11, 12, 20, -1, 21] ∧
        second.kvCachedTokenNum = 4 ∧
        settled [11, 12] (stepOutcomes noDraftsSample) 1 = [11, 12, 20] := by
  let _ := concatDraftTokens
  refine ⟨⟨rfl, fun _ => List.nil_prefix⟩, _, _, rfl, rfl, rfl, rfl, rfl, rfl⟩

end KsanaBuildAhead.Executor
