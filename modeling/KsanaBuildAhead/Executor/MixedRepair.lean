import KsanaBuildAhead.Engine.LoggedRetirements
import KsanaBuildAhead.Executor.MtpAgreement

/-!
# Blocks behind steps of either kind

The Executor receives the launches of one request in their order, some with a block of
placeholders and some with real tokens. The record of the last block is as old as that block;
where no drafts were verified since, the repair of the next block is still the right one.
-/
namespace KsanaBuildAhead.Executor

open KsanaBuildAhead.Runtime KsanaBuildAhead.Engine KsanaBuildAhead.Lib.ListEdit
open KsanaBuildAhead.Lib.Execution

/-- What the Executor runs is what the launch sent. -/
structure Receives (record : LaunchRecord) (req : ExecutorInferRequest) : Prop where
  forwarding : req.forwardingTokens = record.launched.forwardingTokens
  draftNum : req.forwardingTokensDraftNum = record.launched.forwardingTokensDraftNum
  kind : req.forwardStepKind = record.launched.forwardStepKind
  offset : req.launchPlaceholderOffset = record.blockStart

def Surroundings.resultsOf (around : Surroundings) (reqId : Int) (result : StepResult) :
    Int → StepResult :=
  fun other => if other = reqId then result else around.results other

/-- The request is in the batch of the step as the launch sent it, and neither finished nor
recomputed. -/
structure RunsLaunch (reqId : Int) (record : LaunchRecord) (around : Surroundings) : Prop
    extends around.Hosts reqId where
  kept : reqId ∉ around.finishReqIds.flatten ++ around.recomputeReqIds.flatten
  receives : Receives record around.cached

/-- What the repair makes of the sequence it receives: everything up to the start of the previous
query stays, and of the drafts behind it exactly the rejected ones go. -/
structure DeletesRejected (received repaired : List Int) (prevStart prevDraftNum blockStart : Nat)
    (accepted : List Int) : Prop where
  front : repaired.take (prevStart + 1) = received.take (prevStart + 1)
  drafts : 0 < prevDraftNum → prevStart + 1 + prevDraftNum = blockStart
  deleted : accepted <+: (received.drop (prevStart + 1)).take prevDraftNum →
    let kept := eraseRange received (prevStart + 1 + accepted.length) (prevStart + 1 + prevDraftNum)
    repaired.length = kept.length ∧
      repaired.take (blockStart - (prevDraftNum - accepted.length)) =
        kept.take (blockStart - (prevDraftNum - accepted.length))

section Lists

variable {pre drafts accepted new : List Int} {main token : Int} {slots : Nat}

/-- Behind the block of the step before, the accepted drafts take the place of all of them. -/
theorem deletesRejected_behind_block (hslots : new.length = slots)
    (hfit : accepted.length ≤ drafts.length) :
    DeletesRejected (pre ++ main :: (drafts ++
        List.replicate (1 + slots) kFastPathPlaceholderTokenId))
      (pre ++ main :: accepted ++ token :: new) pre.length drafts.length
      (pre.length + 1 + drafts.length) accepted where
  front := by
    have hfront : ∀ rest : List Int, (pre ++ main :: rest).take (pre.length + 1) = pre ++ [main] := by
      intro rest
      rw [List.take_append, List.take_of_length_le (Nat.le_succ _), Nat.add_sub_cancel_left]
      rfl
    rw [List.append_assoc, List.cons_append, hfront, hfront]
  drafts := fun _ => rfl
  deleted := by
    intro hprefix kept
    have hdrop : (pre ++ main :: (drafts ++
        List.replicate (1 + slots) kFastPathPlaceholderTokenId)).drop (pre.length + 1) =
          drafts ++ List.replicate (1 + slots) kFastPathPlaceholderTokenId := by
      rw [List.drop_append, List.drop_of_length_le (Nat.le_succ _), Nat.add_sub_cancel_left]
      rfl
    rw [hdrop, List.take_left] at hprefix
    obtain ⟨rejected, rfl⟩ := hprefix
    have hkept : kept = pre ++ main :: accepted ++
        List.replicate (1 + slots) kFastPathPlaceholderTokenId := by
      have herase := eraseRange_append (pre ++ main :: accepted) rejected
        (List.replicate (1 + slots) kFastPathPlaceholderTokenId)
      rw [← herase]
      simp only [kept, List.length_append, List.length_cons, List.append_assoc, List.cons_append]
      congr 1 <;> omega
    have hmain : pre.length + 1 + (accepted ++ rejected).length -
        ((accepted ++ rejected).length - accepted.length) = (pre ++ main :: accepted).length := by
      simp only [List.length_append, List.length_cons]
      omega
    rw [hkept, hmain, List.take_left, List.take_left]
    refine ⟨?_, rfl⟩
    simp only [List.length_append, List.length_cons, List.length_replicate, hslots]
    omega

theorem deletesRejected_behind_real {prevStart : Nat} (hslots : new.length = slots)
    (hstart : prevStart < pre.length) :
    DeletesRejected (pre ++ List.replicate (1 + slots) kFastPathPlaceholderTokenId)
      (pre ++ token :: new) prevStart 0 pre.length [] where
  front := by
    rw [List.take_append_of_le_length hstart, List.take_append_of_le_length hstart]
  drafts := fun hdrafts => absurd hdrafts (Nat.lt_irrefl 0)
  deleted := by
    intro _ kept
    have hkept : kept = pre ++ List.replicate (1 + slots) kFastPathPlaceholderTokenId :=
      List.take_append_drop _ _
    rw [hkept, Nat.zero_sub, Nat.sub_zero, List.take_left, List.take_left]
    refine ⟨?_, rfl⟩
    simp only [List.length_append, List.length_cons, List.length_replicate, hslots]
    omega

end Lists

theorem repairRequest_unplaced {state : MtpSerialState} {cached : ExecutorInferRequest}
    (hoffset : cached.launchPlaceholderOffset = none)
    (hreal : kFastPathPlaceholderTokenId ∉ cached.forwardingTokens) :
    repairRequest ∅ state.hostRing state cached = (state, cached) := by
  have hnone : cached.forwardingTokens.findIdx? (fun token => token == kFastPathPlaceholderTokenId) =
      none := by
    rw [List.findIdx?_eq_none_iff]
    intro token hmem
    exact beq_false_of_ne fun heq => hreal (heq ▸ hmem)
  rw [repairRequest]
  simp only [AList.lookup_empty, restoreFromSnapshot, resolveLaunchPlaceholderOffset,
    Option.bind_none, hoffset, hnone]

section Step

variable [DraftTokensApi]

/-- One step of the request: the batches without it, then its own. -/
def mixedStep (around : Surroundings) (reqId : Int) (result : StepResult) (state : MtpSerialState) :
    MtpSerialState × List ExecutorInferRequest :=
  executeBatch (executeBatches state around.between) (around.batch around.cached)
    (around.resultsOf reqId result)

/-- The Executor after the first steps of the request. -/
def mixedRun (around : Nat → Surroundings) (reqId : Int) (results : Nat → StepResult)
    (start : MtpSerialState) : Nat → MtpSerialState
  | 0 => start
  | n + 1 =>
    (mixedStep (around n) reqId (results n) (mixedRun around reqId results start n)).1

/-- A middle chunk that is not repaired leaves the state of the request as it was. -/
theorem executeBatch_middle (state : MtpSerialState) {cleared : MtpSerialState}
    (batch : ExecutorBatch) {before after : List ExecutorInferRequest}
    {cached : ExecutorInferRequest} (results : Int → StepResult)
    (hcleared : clearMtpSerialStateForLifecycle batch.finishReqIds batch.recomputeReqIds state =
      cleared)
    (hreqs : batch.reqs = before ++ cached :: after)
    (hothers : ∀ other ∈ before ++ after, other.reqId ≠ cached.reqId)
    (hunplaced : ∀ mid : MtpSerialState, repairRequest ∅ mid.hostRing mid cached = (mid, cached))
    (hkind : isPrefillChunkMidStep cached.forwardStepKind = true) :
    ∃ next reqs, executeBatch state batch results = (next, reqs) ∧
      reqs[before.length]? = some cached ∧
      next.view cached.reqId = cleared.view cached.reqId := by
  obtain ⟨mid, final, before', after', -, hview, hbefore, hafter, happly, hfinal⟩ :=
    applyCpuBuildAheadRepairFromRing_at cleared before after cached hothers
  rw [hunplaced mid] at happly hfinal
  have hlength : before'.length = before.length := by
    have hlengths := congrArg List.length hbefore
    simpa using hlengths
  have hothers' := others_of_ids hothers hbefore hafter
  have hfinished : (postprocessRequest results cached).generatedTokens = [] ∧
      isPrefillChunkMidStep (postprocessRequest results cached).forwardStepKind = true := by
    rw [postprocessRequest, if_pos hkind]
    exact ⟨rfl, hkind⟩
  have honly : ∀ other ∈ (before' ++ cached :: after').map (postprocessRequest results),
      other ≠ postprocessRequest results cached → other.reqId ≠ cached.reqId := by
    intro other hmem hne
    obtain ⟨origin, horigin, rfl⟩ := List.mem_map.mp hmem
    rw [postprocessRequest_reqId]
    rcases List.mem_append.mp horigin with hfront | hback
    · exact hothers' origin (List.mem_append_left _ hfront)
    · rcases List.mem_cons.mp hback with rfl | hback
      · exact absurd rfl hne
      · exact hothers' origin (List.mem_append_right _ hback)
  refine ⟨finishBatch final (before' ++ cached :: after') results, before' ++ cached :: after', ?_, ?_,
    ?_⟩
  · rw [executeBatch, repairBatch, hcleared, hreqs, happly]
  · rw [← hlength, List.getElem?_append_right (Nat.le_refl _), Nat.sub_self]
    rfl
  · rw [finishBatch, view_freeze_of_unfrozen, view_write_of_unwritten, hfinal, hview]
    · intro other hmem hgenerated
      refine honly other hmem ?_
      rintro rfl
      exact hgenerated hfinished.1
    · intro other hmem hkind'
      refine honly other hmem ?_
      rintro rfl
      rw [hfinished.2] at hkind'
      cases hkind'

/-- What the Executor knows of the request after `n` steps: the draft slots of the latest block,
and what the newest step has left. -/
structure KnownAfter (results : Nat → StepResult) (log : List LaunchRecord) (n : Nat)
    (view : RequestView) : Prop where
  slots : (view.lastBlock.getD (0, 0)).2 = latestBlockDraftNum (log.take n)
  newest : ∀ j record, n = j + 1 → log[j]? = some record → record.samples = true →
    ∃ token, (results j).generatedTokens = [token] ∧ 0 ≤ token ∧
      view.Holds token (results j).acceptedTokens (results j).draftTokens.mtp view.lastBlock
  block : ∀ j record start, n = j + 1 → log[j]? = some record → record.blockStart = some start →
    view.lastBlock = some (start - rejectedBefore results j record, record.draftNum)

variable {results : Nat → StepResult} {log : List LaunchRecord} {n : Nat} {record : LaunchRecord}

omit [DraftTokensApi] in
theorem latestBlockDraftNum_take (hrecord : log[n]? = some record) :
    latestBlockDraftNum (log.take (n + 1)) =
      if record.blockStart.isSome then record.draftNum else latestBlockDraftNum (log.take n) := by
  rw [List.take_add_one, hrecord]
  exact latestBlockDraftNum_concat _ _

omit [DraftTokensApi] in
theorem KnownAfter.of_holds {view : RequestView} {token : Int} {lastBlock : Option (Nat × Nat)}
    (hrecord : log[n]? = some record) (hgenerated : (results n).generatedTokens = [token])
    (hvocab : 0 ≤ token)
    (hholds : view.Holds token (results n).acceptedTokens (results n).draftTokens.mtp lastBlock)
    (hslots : (lastBlock.getD (0, 0)).2 = latestBlockDraftNum (log.take (n + 1)))
    (hblock : ∀ start, record.blockStart = some start →
      lastBlock = some (start - rejectedBefore results n record, record.draftNum)) :
    KnownAfter results log (n + 1) view where
  slots := by
    rw [hholds.lastBlock]
    exact hslots
  newest := by
    rintro j found hj hfound -
    obtain rfl : n = j := Nat.succ.inj hj
    refine ⟨token, hgenerated, hvocab, ?_⟩
    rw [hholds.lastBlock]
    exact hholds
  block := by
    intro j found start hj hfound hstart
    obtain rfl : n = j := Nat.succ.inj hj
    obtain rfl := Option.some.inj (hrecord.symm.trans hfound)
    rw [hholds.lastBlock]
    exact hblock start hstart

omit [DraftTokensApi] in
/-- The repair of a block in order, from what is known of the step before. -/
theorem KnownAfter.repairs {view : RequestView} {j start : Nat} {prev : LaunchRecord}
    {cached : ExecutorInferRequest} (hlog : LogInOrder results log)
    (hknown : KnownAfter results log (j + 1) view) (hprev : log[j]? = some prev)
    (hblock : BlockInOrder results log j prev record start) (hreceives : Receives record cached)
    (hstart : record.blockStart = some start) :
    ∃ repaired, RepairsTo view cached repaired
        (start - rejectedBefore results (j + 1) record, record.draftNum) ∧
      repaired.reqId = cached.reqId ∧ repaired.forwardStepKind = .decode ∧
      DeletesRejected cached.forwardingTokens repaired.forwardingTokens record.prevStart
        record.prevDraftNum start (results j).acceptedTokens := by
  obtain ⟨token, hgenerated, hvocab, hholds⟩ := hknown.newest j prev rfl hprev hblock.samples
  obtain ⟨-, -, -, hfit⟩ := (hlog j prev hprev).returns hblock.samples
  rw [← hblock.prevDraftNum] at hfit
  have hreal : token ≠ kFastPathPlaceholderTokenId := VocabId.ne_placeholder ⟨token, hvocab⟩
  have hoffset : cached.launchPlaceholderOffset = some start := hreceives.offset.trans hstart
  have hslots : cached.forwardingTokensDraftNum = record.draftNum := hreceives.draftNum
  have hkind : cached.forwardStepKind = .decode := hreceives.kind.trans hblock.decodes
  have hdrop : cached.forwardingTokens.drop start =
      List.replicate (1 + cached.forwardingTokensDraftNum) kFastPathPlaceholderTokenId := by
    rw [hreceives.forwarding, hslots]
    exact hblock.block
  have hlength : cached.forwardingTokens.length = start + (1 + cached.forwardingTokensDraftNum) := by
    have hend := congrArg List.length hdrop
    rw [List.length_drop, List.length_replicate] at hend
    omega
  have henough : cached.forwardingTokensDraftNum ≤ (results j).draftTokens.mtp.length := by
    rw [hslots]
    exact hblock.enough
  have hfilled : ((results j).draftTokens.mtp.take cached.forwardingTokensDraftNum).length =
      cached.forwardingTokensDraftNum := List.length_take_of_le henough
  have hsplit : cached.forwardingTokens = cached.forwardingTokens.take start ++
      List.replicate (1 + cached.forwardingTokensDraftNum) kFastPathPlaceholderTokenId := by
    rw [← hdrop, List.take_append_drop]
  have hfront : (cached.forwardingTokens.take start).length = start :=
    List.length_take_of_le (by omega)
  cases hprevBlock : prev.blockStart with
  | none =>
    -- Behind real tokens: no draft was verified since the latest block.
    obtain ⟨hnoDrafts, hbefore, hnoSlots⟩ := hblock.behindReal hprevBlock
    have hnone : (results j).acceptedTokens = [] := List.eq_nil_of_length_eq_zero (by omega)
    rw [hnone] at hholds
    have hrejected : start - rejectedBefore results (j + 1) record = start := by
      rw [rejectedBefore, hnoDrafts, Nat.zero_sub, Nat.sub_zero]
    have hold : (view.lastBlock.getD (cached.kvCachedTokenNum, 0)).2 = 0 := by
      have hlatest := hknown.slots.trans hnoSlots
      cases hlast : view.lastBlock with
      | none => rfl
      | some last =>
        rw [hlast] at hlatest
        exact hlatest
    refine ⟨withBlock cached (cached.forwardingTokens.take start) token
      (results j).draftTokens.mtp, ?_, rfl, hkind, ?_⟩
    · intro mid hmid
      obtain ⟨next, hrepair, -, hnext⟩ := repairRequest_first (by rw [hmid]; exact hholds) hreal
        hoffset (by omega) henough hold rfl hsplit hfront.symm
      refine ⟨next, hrepair, ?_⟩
      rw [hnext, hrejected, hfront, hslots]
    · rw [hnone, hnoDrafts]
      have hdeletes : DeletesRejected
          (cached.forwardingTokens.take start ++
            List.replicate (1 + cached.forwardingTokensDraftNum) kFastPathPlaceholderTokenId)
          (cached.forwardingTokens.take start ++ token ::
            (results j).draftTokens.mtp.take cached.forwardingTokensDraftNum)
          record.prevStart 0 (cached.forwardingTokens.take start).length [] :=
        deletesRejected_behind_real hfilled (by rw [hfront]; exact hbefore)
      rw [← hsplit, hfront] at hdeletes
      exact hdeletes
  | some prevBlock =>
    -- Behind a block: the record says where the retirement has left it.
    obtain ⟨hmoved, hbehind⟩ := hblock.behindBlock prevBlock hprevBlock
    have hlast := hknown.block j prev prevBlock rfl hprev hprevBlock
    have hmain : prevBlock - rejectedBefore results j prev = record.prevStart := by omega
    rw [hmain, ← hblock.prevDraftNum] at hlast
    rw [hlast] at hholds
    have hrejected : start - rejectedBefore results (j + 1) record =
        record.prevStart + 1 + (results j).acceptedTokens.length := by
      rw [rejectedBefore, Nat.add_sub_cancel]
      omega
    obtain ⟨main, hread⟩ : ∃ main, cached.forwardingTokens[record.prevStart]? = some main :=
      ⟨_, List.getElem?_eq_getElem (by omega)⟩
    have hpre : (cached.forwardingTokens.take record.prevStart).length = record.prevStart :=
      List.length_take_of_le (by omega)
    have hold : ((cached.forwardingTokens.drop (record.prevStart + 1)).take
        record.prevDraftNum).length = record.prevDraftNum :=
      List.length_take_of_le (by rw [List.length_drop]; omega)
    have htokens : cached.forwardingTokens = cached.forwardingTokens.take record.prevStart ++ main ::
        ((cached.forwardingTokens.drop (record.prevStart + 1)).take record.prevDraftNum ++
          List.replicate (1 + cached.forwardingTokensDraftNum) kFastPathPlaceholderTokenId) := by
      have htail := List.take_append_drop record.prevDraftNum
        (cached.forwardingTokens.drop (record.prevStart + 1))
      rw [List.drop_drop, ← hbehind, hdrop] at htail
      obtain ⟨hbound, hget⟩ := List.getElem?_eq_some_iff.mp hread
      rw [htail, ← hget, ← List.drop_eq_getElem_cons hbound, List.take_append_drop]
    refine ⟨withBlock cached (cached.forwardingTokens.take record.prevStart ++ main ::
      (results j).acceptedTokens) token (results j).draftTokens.mtp, ?_, rfl, hkind, ?_⟩
    · intro mid hmid
      obtain ⟨next, hrepair, -, hnext⟩ := repairRequest_next (by rw [hmid]; exact hholds) hreal
        hoffset (by omega) henough (by rw [hpre, hold]) (by rw [hold]; exact hfit) htokens
        (by rw [hpre, hold]; exact hbehind)
      refine ⟨next, hrepair, ?_⟩
      rw [hnext, hrejected, hslots, List.length_append, List.length_cons, hpre, Nat.add_assoc,
        Nat.add_comm 1]
    · have hdeletes : DeletesRejected
          (cached.forwardingTokens.take record.prevStart ++ main ::
            ((cached.forwardingTokens.drop (record.prevStart + 1)).take record.prevDraftNum ++
              List.replicate (1 + cached.forwardingTokensDraftNum) kFastPathPlaceholderTokenId))
          (cached.forwardingTokens.take record.prevStart ++ main :: (results j).acceptedTokens ++
            token :: (results j).draftTokens.mtp.take cached.forwardingTokensDraftNum)
          _ _ _ (results j).acceptedTokens :=
        deletesRejected_behind_block hfilled (by rw [hold]; exact hfit)
      rw [← htokens, hpre, hold, ← hbehind] at hdeletes
      exact hdeletes

/-- One step of the request: without a block it is not repaired, with one it loses the rejected
drafts of the step before, and what it returns is known to the next. -/
theorem KnownAfter.step {reqId : Int} {around : Surroundings} {state : MtpSerialState}
    (hlog : LogInOrder results log) (hknown : KnownAfter results log n (state.view reqId))
    (hrecord : log[n]? = some record) (hruns : RunsLaunch reqId record around) :
    ∃ next reqs repaired, mixedStep around reqId (results n) state = (next, reqs) ∧
      reqs[around.before.length]? = some repaired ∧
      KnownAfter results log (n + 1) (next.view reqId) ∧
      (record.blockStart = none → repaired = around.cached) ∧
      ∀ start, record.blockStart = some start →
        DeletesRejected around.cached.forwardingTokens repaired.forwardingTokens record.prevStart
          record.prevDraftNum start (results (n - 1)).acceptedTokens := by
  obtain rfl := hruns.cached
  have hcleared := view_clear around.finishReqIds around.recomputeReqIds
    (executeBatches state around.between) hruns.kept
  rw [executeBatches_other state around.between hruns.betweenKept hruns.betweenOthers] at hcleared
  have horder := hlog n record hrecord
  have hreceives := hruns.receives
  have hkind : isPrefillChunkMidStep around.cached.forwardStepKind = !record.samples := by
    rw [LaunchRecord.samples, Bool.not_not, hreceives.kind]
  have hunplaced : record.blockStart = none → ∀ mid : MtpSerialState,
      repairRequest ∅ mid.hostRing mid around.cached = (mid, around.cached) := by
    intro hnone mid
    refine repairRequest_unplaced (hreceives.offset.trans hnone) ?_
    rw [hreceives.forwarding]
    exact horder.unplaced hnone
  have hlatest := latestBlockDraftNum_take hrecord
  cases hsamples : record.samples with
  | false =>
    have hnone : record.blockStart = none := by
      cases hblock : record.blockStart with
      | none => rfl
      | some start =>
        obtain ⟨j, prev, -, -, hinOrder⟩ := horder.placed start hblock
        rw [LaunchRecord.samples, hinOrder.decodes] at hsamples
        cases hsamples
    obtain ⟨next, reqs, hnext, hat, hview⟩ := executeBatch_middle
      (executeBatches state around.between) (around.batch around.cached)
      (around.resultsOf around.cached.reqId (results n)) rfl rfl hruns.others (hunplaced hnone)
      (by rw [hkind, hsamples]; rfl)
    refine ⟨next, reqs, around.cached, hnext, hat, ?_, fun _ => rfl, fun start hstart => ?_⟩
    · have hkept : next.view around.cached.reqId = state.view around.cached.reqId :=
        hview.trans hcleared
      rw [hkept]
      refine ⟨?_, ?_, ?_⟩
      · rw [hlatest, hnone]
        exact hknown.slots
      · intro j found hj hfound hsampled
        obtain rfl : n = j := Nat.succ.inj hj
        rw [Option.some.inj (hfound.symm.trans hrecord), hsamples] at hsampled
        cases hsampled
      · intro j found start hj hfound hstart
        obtain rfl : n = j := Nat.succ.inj hj
        rw [Option.some.inj (hfound.symm.trans hrecord), hnone] at hstart
        cases hstart
    · rw [hnone] at hstart
      cases hstart
  | true =>
    obtain ⟨token, hgenerated, hvocab, -⟩ := horder.returns hsamples
    have hresult : around.resultsOf around.cached.reqId (results n) around.cached.reqId =
        ⟨[token], (results n).acceptedTokens, (results n).draftTokens⟩ := by
      rw [Surroundings.resultsOf, if_pos rfl, ← hgenerated]
    cases hblock : record.blockStart with
    | none =>
      obtain ⟨next, reqs, hnext, hat, hholds⟩ := executeBatch_at
        (executeBatches state around.between) (around.batch around.cached)
        (around.resultsOf around.cached.reqId (results n)) rfl rfl hruns.others
        (fun mid hmid => ⟨mid, hunplaced hblock mid, congrArg RequestView.lastBlock
          (hmid.trans hcleared)⟩) rfl (by rw [hkind, hsamples]; rfl) hresult
      refine ⟨next, reqs, around.cached, hnext, hat, ?_, fun _ => rfl, fun start hstart =>
        by cases hstart⟩
      refine KnownAfter.of_holds hrecord hgenerated hvocab hholds ?_ fun start hstart => ?_
      · rw [hlatest, hblock]
        exact hknown.slots
      · rw [hblock] at hstart
        cases hstart
    | some start =>
      obtain ⟨j, prev, rfl, hprev, hinOrder⟩ := horder.placed start hblock
      obtain ⟨repaired, hrepairs, hid, hdecodes, hdeletes⟩ :=
        hknown.repairs hlog hprev hinOrder hreceives hblock
      obtain ⟨next, reqs, hnext, hat, hholds⟩ := executeBatch_at
        (executeBatches state around.between) (around.batch around.cached)
        (around.resultsOf around.cached.reqId (results (j + 1))) rfl rfl hruns.others
        (fun mid hmid => hrepairs mid (hmid.trans hcleared)) hid (by rw [hdecodes]; rfl) hresult
      refine ⟨next, reqs, repaired, hnext, hat, ?_, fun hnone => (by cases hnone), ?_⟩
      · refine KnownAfter.of_holds hrecord hgenerated hvocab hholds ?_ fun other hother => ?_
        · rw [hlatest, hblock]
          rfl
        · rw [hblock] at hother
          rw [Option.some.inj hother]
      · rintro other hother
        obtain rfl := Option.some.inj hother
        exact hdeletes

/-- However blocks and real tokens alternate, when every launch of a run is repairable the repair
of a step leaves everything up to the start of the previous query alone and deletes exactly the
rejected drafts of the previous step. -/
theorem repair_deletes_rejected (start : InferRequest) (cached : Nat) (ops : List PipelineOp)
    (results : Nat → StepResult) {s : LoggedRun} (around : Nat → Surroundings)
    (state : MtpSerialState) (hcached : cached ≤ start.outputTokens.length)
    (hvocab : ∀ token ∈ start.outputTokens, 0 ≤ token)
    (hrun : exec loggedStep (loggedStart start cached) ops = .ok s)
    (hsteps : EachStep loggedStep
      (fun s op => LogPermitted results s op ∧ LaunchesRepairable results s op)
      (loggedStart start cached) ops)
    (hunknown : state.view start.reqId = {})
    (hruns : ∀ k record, s.log[k]? = some record → RunsLaunch start.reqId record (around k))
    (n : Nat) (record : LaunchRecord) (hrecord : s.log[n]? = some record) :
    ∃ next reqs repaired,
      mixedStep (around n) start.reqId (results n) (mixedRun around start.reqId results state n) =
        (next, reqs) ∧
      reqs[(around n).before.length]? = some repaired ∧
      (record.blockStart = none → repaired = (around n).cached) ∧
      ∀ blockStart, record.blockStart = some blockStart →
        DeletesRejected (around n).cached.forwardingTokens repaired.forwardingTokens
          record.prevStart record.prevDraftNum blockStart (results (n - 1)).acceptedTokens := by
  have hlog := log_in_order hcached hvocab hrun hsteps
  have hknown : ∀ k ≤ s.log.length,
      KnownAfter results s.log k ((mixedRun around start.reqId results state k).view start.reqId) := by
    intro k hk
    induction k with
    | zero =>
      rw [mixedRun, hunknown]
      exact ⟨rfl, fun j _ hj => (by cases hj), fun j _ _ hj => (by cases hj)⟩
    | succ k ih =>
      have hat : s.log[k]? = some s.log[k] := List.getElem?_eq_getElem hk
      obtain ⟨next, reqs, repaired, hnext, -, hknown, -⟩ :=
        (ih (Nat.le_of_succ_le hk)).step hlog hat (hruns k _ hat)
      rw [mixedRun, hnext]
      exact hknown
  have hbound := (List.getElem?_eq_some_iff.mp hrecord).1
  obtain ⟨next, reqs, repaired, hnext, hat, -, hrepaired⟩ :=
    (hknown n (Nat.le_of_lt hbound)).step hlog hrecord (hruns n record hrecord)
  exact ⟨next, reqs, repaired, hnext, hat, hrepaired⟩

end Step

/-- The request as the launch of a record sent it. -/
def receivedSample (record : LaunchRecord) : ExecutorInferRequest where
  reqId := 7
  forwardingTokens := record.launched.forwardingTokens
  forwardingTokensDraftNum := record.launched.forwardingTokensDraftNum
  forwardStepKind := record.launched.forwardStepKind
  launchPlaceholderOffset := record.blockStart

/-- Every launch of the log in a batch with another request. -/
def aroundSample (log : List LaunchRecord) (k : Nat) : Surroundings :=
  { surroundingsSample with cached := (log[k]?.map receivedSample).getD { reqId := 7 } }

theorem aroundSample_runs {log : List LaunchRecord} {k : Nat} {record : LaunchRecord}
    (hrecord : log[k]? = some record) : RunsLaunch 7 record (aroundSample log k) := by
  have hcached : (aroundSample log k).cached = receivedSample record := by
    rw [aroundSample, hrecord]
    rfl
  exact {
    betweenKept := fun _ h => absurd h List.not_mem_nil
    betweenOthers := fun _ h => absurd h List.not_mem_nil
    others := surroundingsSample_hosts.others
    cached := by rw [hcached]; rfl
    live := rfl
    kept := List.not_mem_nil
    receives := by rw [hcached]; exact ⟨rfl, rfl, rfl, rfl⟩ }

/-- A block of two drafts behind the prompt, and one of one draft behind that; the first accepts
one of its drafts. -/
def mixedSampleResults : Nat → StepResult
  | 0 => { generatedTokens := [20], draftTokens := { mtp := [40, 41] } }
  | 1 => { generatedTokens := [21], acceptedTokens := [40], draftTokens := { mtp := [42] } }
  | _ => { generatedTokens := [22], draftTokens := { mtp := [43] } }

def mixedSampleRun : List PipelineOp :=
  [.plan { prefillTokenNum := 2 }, .launch,
    .plan { generatedTokenNum := 1, draftTokenNum := 2 }, .launch,
    .deliver (mixedSampleResults 0), .finish,
    .plan { generatedTokenNum := 1, draftTokenNum := 1 }, .launch]

/-- The request drained behind its first block, a step with the real draft, and a block behind
that. -/
def staleBlockResults : Nat → StepResult
  | 0 => { generatedTokens := [20], draftTokens := { mtp := [40] } }
  | 1 => { generatedTokens := [21], acceptedTokens := [40], draftTokens := { mtp := [41] } }
  | _ => { generatedTokens := [22], draftTokens := { mtp := [42] } }

def staleBlockRun : List PipelineOp :=
  [.plan { prefillTokenNum := 2 }, .launch,
    .plan { generatedTokenNum := 1, draftTokenNum := 1 }, .launch,
    .deliver (staleBlockResults 0), .finish, .deliver (staleBlockResults 1), .finish,
    .plan { generatedTokenNum := 1, draftTokenNum := 1 }, .launch,
    .plan { generatedTokenNum := 1, draftTokenNum := 1 }, .launch]

/-- Where a run of the sample request ends. -/
def mixedSampleEnd [DraftTokensApi] (ops : List PipelineOp) : LoggedRun :=
  match exec loggedStep (loggedStart drainSample 0) ops with
  | .ok s => s
  | .error _ => loggedStart drainSample 0

theorem repair_deletes_rejected_sample :
    letI := concatDraftTokens
    ∃ next reqs repaired,
      mixedStep (aroundSample (mixedSampleEnd mixedSampleRun).log 2) 7 (mixedSampleResults 2)
        (mixedRun (aroundSample (mixedSampleEnd mixedSampleRun).log) 7 mixedSampleResults {} 2) =
          (next, reqs) ∧
      reqs[1]? = some repaired ∧
      DeletesRejected [11, 12, 20, 40, 41, -1, -1] repaired.forwardingTokens 2 2 5 [40] := by
  let _ := concatDraftTokens
  have hrun : exec loggedStep (loggedStart drainSample 0) mixedSampleRun =
      .ok (mixedSampleEnd mixedSampleRun) := by decide +kernel
  have hsteps : EachStep loggedStep (fun s op => LogPermitted mixedSampleResults s op ∧
      LaunchesRepairable mixedSampleResults s op) (loggedStart drainSample 0) mixedSampleRun :=
    eachStep_of_check (by decide +kernel)
  obtain ⟨record, hrecord, hfields⟩ : ∃ record, (mixedSampleEnd mixedSampleRun).log[2]? =
      some record ∧ record.launched.forwardingTokens = [11, 12, 20, 40, 41, -1, -1] ∧
        record.blockStart = some 5 ∧ record.prevStart = 2 ∧ record.prevDraftNum = 2 :=
    ⟨_, rfl, by decide +kernel⟩
  obtain ⟨hforwarding, hstart, hprevStart, hprevDraftNum⟩ := hfields
  obtain ⟨next, reqs, repaired, hnext, hat, -, hdeletes⟩ := repair_deletes_rejected drainSample 0
    mixedSampleRun mixedSampleResults (aroundSample (mixedSampleEnd mixedSampleRun).log) {}
    (by decide) (by decide) hrun hsteps rfl (fun k record hrecord => aroundSample_runs hrecord)
    2 record hrecord
  have hreceived := (aroundSample_runs hrecord).receives.forwarding
  refine ⟨next, reqs, repaired, hnext, hat, ?_⟩
  have hresult := hdeletes 5 hstart
  rwa [hreceived, hforwarding, hprevStart, hprevDraftNum] at hresult

/-- The repair of the last block takes the drafts of the step with real tokens for those of the
first block: the accepted draft 40 is deleted. -/
theorem stale_block_deletes_committed :
    letI := concatDraftTokens
    exec loggedStep (loggedStart drainSample 0) staleBlockRun =
        .ok (mixedSampleEnd staleBlockRun) ∧
      EachStep loggedStep (LogPermitted staleBlockResults) (loggedStart drainSample 0)
        staleBlockRun ∧
      ∃ record repaired, (mixedSampleEnd staleBlockRun).log[3]? = some record ∧
        record.blockStart = some 5 ∧ record.prevStart = 4 ∧
        record.launched.forwardingTokens = [11, 12, 20, 40, 41, -1, -1] ∧
        (mixedStep (aroundSample (mixedSampleEnd staleBlockRun).log 3) 7 (staleBlockResults 3)
          (mixedRun (aroundSample (mixedSampleEnd staleBlockRun).log) 7 staleBlockResults {} 3)).2[1]? =
            some repaired ∧
        repaired.forwardingTokens = [11, 12, 20, 22, 42] ∧
        ¬ DeletesRejected record.launched.forwardingTokens repaired.forwardingTokens
          record.prevStart record.prevDraftNum 5 (staleBlockResults 2).acceptedTokens := by
  let _ := concatDraftTokens
  refine ⟨by decide +kernel, eachStep_of_check (by decide +kernel), ?_⟩
  obtain ⟨record, hrecord, hstart, hprevStart, hforwarding⟩ :
      ∃ record, (mixedSampleEnd staleBlockRun).log[3]? = some record ∧
        record.blockStart = some 5 ∧ record.prevStart = 4 ∧
        record.launched.forwardingTokens = [11, 12, 20, 40, 41, -1, -1] :=
    ⟨_, rfl, by decide +kernel⟩
  have hrepair : (mixedStep (aroundSample (mixedSampleEnd staleBlockRun).log 3) 7
      (staleBlockResults 3) (mixedRun (aroundSample (mixedSampleEnd staleBlockRun).log) 7
        staleBlockResults {} 3)).2[1]?.map ExecutorInferRequest.forwardingTokens =
          some [11, 12, 20, 22, 42] := by decide +kernel
  obtain ⟨repaired, hat, hrepaired⟩ := Option.map_eq_some_iff.mp hrepair
  refine ⟨record, repaired, hrecord, hstart, hprevStart, hforwarding, hat, hrepaired,
    fun hdeletes => ?_⟩
  have hfront := hdeletes.front
  rw [hforwarding, hrepaired, hprevStart] at hfront
  exact absurd hfront (by decide)

end KsanaBuildAhead.Executor
