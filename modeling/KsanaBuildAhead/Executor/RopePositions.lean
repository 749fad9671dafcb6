import KsanaBuildAhead.Executor.BatchLayout

/-!
# The positions of the rotary embeddings

A step that starts a prompt and a step that continues one compute the positions of their tokens
in two branches. Those of M-RoPE agree on every token. Those of XD-RoPE do not: the first branch
counts in steps of the number of positions a token has.
-/
namespace KsanaBuildAhead.Executor

open KsanaBuildAhead.Runtime

inductive ForwardRequestType where
  | kFlash
  | kPage
deriving Repr, DecidableEq

/-- A request with the values of its additional tensors. -/
structure RopeRequest extends ForwardRequest where
  additionalTensors : List (List Int) := []
deriving Repr, DecidableEq

/-- What a call writes: an offset for each request, and the positions in one vector. -/
structure RopePositions where
  posOffsets : List Int := []
  positions : List Int := []
deriving Repr, DecidableEq

section Prepare

-- `ForwardRequest::GetType`, whose source is elsewhere, and the group of the rank.
variable (getType : RopeRequest → ForwardRequestType) (attnDpGroupId : Nat)
-- The positions of a token, the number of tensors a visual request brings and what is said
-- otherwise, and the step of the loop over a plain text prompt.
variable (factor : Nat) (tensorNum : Nat → Bool) (message : String) (loopStep : Nat)

def ropePosOffset (req : RopeRequest) : Except String Int := do
  if req.additionalTensors = [] then .ok 0
  else
    check (tensorNum req.additionalTensors.length) message
    .ok ((req.additionalTensors.getD 1 []).headD 0)

/-- The values a loop emits, each `factor` times. -/
def emitEach (values : List Int) : List Int :=
  values.flatMap fun value => List.replicate factor value

def ropeRequestPositions (posOffset : Int) (req : RopeRequest) : List Int :=
  if getType req ≠ .kFlash ∨ req.attnDpGroupId ≠ attnDpGroupId then []
  else if req.kvCachedTokenNum = 0 then
    if req.additionalTensors = [] then
      emitEach factor
        ((List.range' 0 req.forwardingTokens.length loopStep).map fun (i : Nat) => (i : Int))
    else req.additionalTensors.getD 0 []
  else
    let inputLen := req.forwardingTokens.length - req.kvCachedTokenNum
    emitEach factor
      ((List.range inputLen).map fun (i : Nat) => (req.kvCachedTokenNum + posOffset + i : Int))

def prepareRequestRopePos (prepared : RopePositions) (req : RopeRequest) :
    Except String RopePositions := do
  let posOffset ← ropePosOffset tensorNum message req
  .ok
    { posOffsets := prepared.posOffsets ++ [posOffset]
      positions := prepared.positions ++
        ropeRequestPositions getType attnDpGroupId factor loopStep posOffset req }

def prepareRopePos (reqs : List RopeRequest) : Except String RopePositions :=
  reqs.foldlM
    (prepareRequestRopePos getType attnDpGroupId factor tensorNum message loopStep) {}

end Prepare

def prepareMRopePos (getType : RopeRequest → ForwardRequestType) (attnDpGroupId : Nat)
    (reqs : List RopeRequest) : Except String RopePositions :=
  prepareRopePos getType attnDpGroupId 3 (fun num => 2 ≤ num)
    ("For visual inputs, additional_tensors must contain at least 2 tensors: position tensor " ++
      "and offset tensor.") 1 reqs

def prepareXDRopePos (getType : RopeRequest → ForwardRequestType) (attnDpGroupId : Nat)
    (reqs : List RopeRequest) : Except String RopePositions :=
  prepareRopePos getType attnDpGroupId 4 (fun num => num == 2)
    ("For visual inputs, additional_tensors must contain 2 tensors: position tensor and " ++
      "offset tensor.") 4 reqs

section Batch

variable {getType : RopeRequest → ForwardRequestType} {attnDpGroupId factor : Nat}
  {tensorNum : Nat → Bool} {message : String} {loopStep : Nat}

theorem length_emitEach (factor : Nat) (values : List Int) :
    (emitEach factor values).length = factor * values.length := by
  rw [emitEach, List.length_flatMap]
  simp [Nat.mul_comm]

theorem ropePosOffset_text {req : RopeRequest} (htext : req.additionalTensors = []) :
    ropePosOffset tensorNum message req = .ok 0 := if_pos htext

/-- A text request emits `factor` positions for each token it computes. -/
theorem length_ropeRequestPositions {req : RopeRequest} (htext : req.additionalTensors = [])
    (hflash : getType req = .kFlash) (hgroup : req.attnDpGroupId = attnDpGroupId)
    (posOffset : Int) :
    (ropeRequestPositions getType attnDpGroupId factor loopStep posOffset req).length =
      factor * (req.forwardingTokens.length - req.kvCachedTokenNum) := by
  rw [ropeRequestPositions, if_neg (by simp [hflash, hgroup])]
  by_cases hfirst : req.kvCachedTokenNum = 0
  · rw [if_pos hfirst, if_pos htext, length_emitEach, List.length_map, List.length_range', hfirst,
      Nat.sub_zero]
  · rw [if_neg hfirst, length_emitEach, List.length_map, List.length_range]

/-- What a request emits in a call of its own. -/
def EmitsAlone (prepare : List RopeRequest → Except String RopePositions) (req : RopeRequest)
    (block : List Int) : Prop :=
  ∃ posOffset, prepare [req] = .ok { posOffsets := [posOffset], positions := block }

theorem prepareRopePos_alone (req : RopeRequest) :
    prepareRopePos getType attnDpGroupId factor tensorNum message loopStep [req] =
      ropePosOffset tensorNum message req >>= fun posOffset => .ok
        { posOffsets := [posOffset]
          positions :=
            ropeRequestPositions getType attnDpGroupId factor loopStep posOffset req } := by
  rw [prepareRopePos, List.foldlM_cons, prepareRequestRopePos]
  cases ropePosOffset tensorNum message req <;> rfl

theorem prepareRopePos_text {req : RopeRequest} (htext : req.additionalTensors = []) :
    prepareRopePos getType attnDpGroupId factor tensorNum message loopStep [req] = .ok
      { posOffsets := [0]
        positions := ropeRequestPositions getType attnDpGroupId factor loopStep 0 req } := by
  rw [prepareRopePos_alone, ropePosOffset_text htext]
  rfl

/-- The positions of a call are blocks, one for each request, in the order of the batch. -/
def BlocksInOrder (getType : RopeRequest → ForwardRequestType) (attnDpGroupId factor : Nat)
    (prepare : List RopeRequest → Except String RopePositions) : Prop :=
  (∀ reqs, (∀ req ∈ reqs, req.additionalTensors = []) → ∃ prepared, prepare reqs = .ok prepared) ∧
  ∀ reqs prepared, prepare reqs = .ok prepared → ∃ blocks, prepared.positions = blocks.flatten ∧
    List.Forall₂ (fun req block => EmitsAlone prepare req block ∧
      if getType req = .kFlash ∧ req.attnDpGroupId = attnDpGroupId then
        req.additionalTensors = [] →
          block.length = factor * (req.forwardingTokens.length - req.kvCachedTokenNum)
      else block = []) reqs blocks

theorem prepareRopePos_blocks : BlocksInOrder getType attnDpGroupId factor
    (prepareRopePos getType attnDpGroupId factor tensorNum message loopStep) := by
  constructor
  · intro reqs htexts
    rw [prepareRopePos]
    generalize ({} : RopePositions) = start
    induction reqs generalizing start with
    | nil => exact ⟨start, rfl⟩
    | cons req reqs ih =>
      rw [List.foldlM_cons, prepareRequestRopePos,
        ropePosOffset_text (htexts req List.mem_cons_self)]
      exact ih (fun other hother => htexts other (List.mem_cons_of_mem _ hother)) _
  · have hloop : ∀ (reqs : List RopeRequest) (start prepared : RopePositions),
        reqs.foldlM (prepareRequestRopePos getType attnDpGroupId factor tensorNum message loopStep)
          start = .ok prepared →
        ∃ blocks, prepared.positions = start.positions ++ blocks.flatten ∧
          List.Forall₂ (fun req block => ∃ posOffset,
            ropePosOffset tensorNum message req = .ok posOffset ∧
            block = ropeRequestPositions getType attnDpGroupId factor loopStep posOffset req)
            reqs blocks := by
      intro reqs
      induction reqs with
      | nil =>
        intro start prepared h
        obtain rfl := Except.ok.inj h
        exact ⟨[], (List.append_nil _).symm, .nil⟩
      | cons req reqs ih =>
        intro start prepared h
        rw [List.foldlM_cons] at h
        obtain ⟨next, hnext, h⟩ := bind_ok h
        obtain ⟨posOffset, hoffset, hnext⟩ := bind_ok hnext
        obtain rfl := Except.ok.inj hnext
        obtain ⟨blocks, hpositions, hblocks⟩ := ih _ prepared h
        refine ⟨_ :: blocks, ?_, .cons ⟨posOffset, hoffset, rfl⟩ hblocks⟩
        rw [hpositions, List.flatten_cons, List.append_assoc]
    intro reqs prepared h
    obtain ⟨blocks, hpositions, hblocks⟩ := hloop reqs {} prepared h
    refine ⟨blocks, hpositions, hblocks.imp fun req block hblock => ?_⟩
    obtain ⟨posOffset, hoffset, rfl⟩ := hblock
    refine ⟨⟨posOffset, by rw [prepareRopePos_alone, hoffset]; rfl⟩, ?_⟩
    split
    · rename_i hemits
      exact fun htext => length_ropeRequestPositions htext hemits.1 hemits.2 posOffset
    · rename_i hother
      exact if_pos (Decidable.not_and_iff_or_not.mp hother)

end Batch

/-- The step that computes the next `chunk` tokens, `processed` of them before. -/
def chunkStep (req : RopeRequest) (processed chunk : Nat) : RopeRequest :=
  { req with
    forwardingTokens := req.forwardingTokens.take (processed + chunk)
    kvCachedTokenNum := processed }

@[simp] theorem chunkStep_tensors (req : RopeRequest) (processed chunk : Nat) :
    (chunkStep req processed chunk).additionalTensors = req.additionalTensors := rfl

@[simp] theorem chunkStep_group (req : RopeRequest) (processed chunk : Nat) :
    (chunkStep req processed chunk).attnDpGroupId = req.attnDpGroupId := rfl

@[simp] theorem chunkStep_cached (req : RopeRequest) (processed chunk : Nat) :
    (chunkStep req processed chunk).kvCachedTokenNum = processed := rfl

theorem length_chunkStep {req : RopeRequest} {processed chunk : Nat}
    (hfits : processed + chunk ≤ req.forwardingTokens.length) :
    (chunkStep req processed chunk).forwardingTokens.length = processed + chunk := by
  rw [chunkStep, List.length_take, Nat.min_eq_left hfits]

/-- The steps that compute the tokens of a request chunk by chunk. -/
def splitSteps (req : RopeRequest) : Nat → List Nat → List RopeRequest
  | _, [] => []
  | processed, chunk :: chunks =>
    chunkStep req processed chunk :: splitSteps req (processed + chunk) chunks

/-- The chunks are consecutive, none is empty, and they cover the tokens. -/
structure IsSplit (req : RopeRequest) (chunks : List Nat) : Prop where
  covers : chunks.sum = req.forwardingTokens.length
  nonempty : ∀ chunk ∈ chunks, 0 < chunk

/-- The positions of the steps, one behind the other. -/
def emittedPositions (prepare : List RopeRequest → Except String RopePositions) :
    List RopeRequest → Except String (List Int)
  | [] => .ok []
  | step :: steps => do
    let prepared ← prepare [step]
    let rest ← emittedPositions prepare steps
    .ok (prepared.positions ++ rest)

/-- The position of every token once for each of the `factor` positions it has. -/
def indexPositions (factor : Nat) (indices : List Nat) : List Int :=
  emitEach factor (indices.map fun (i : Nat) => (i : Int))

theorem indexPositions_append (factor : Nat) (indices others : List Nat) :
    indexPositions factor (indices ++ others) =
      indexPositions factor indices ++ indexPositions factor others := by
  rw [indexPositions, List.map_append, emitEach, List.flatMap_append]
  rfl

section Split

variable {getType : RopeRequest → ForwardRequestType} {attnDpGroupId factor : Nat}
  {tensorNum : Nat → Bool} {message : String} {loopStep : Nat} {req : RopeRequest}
  (htext : req.additionalTensors = []) {processed chunk : Nat} {chunks : List Nat}

theorem chunkStep_later (hlater : 0 < processed)
    (hfits : processed + chunk ≤ req.forwardingTokens.length)
    (hflash : getType (chunkStep req processed chunk) = .kFlash)
    (hgroup : req.attnDpGroupId = attnDpGroupId) :
    ropeRequestPositions getType attnDpGroupId factor loopStep 0 (chunkStep req processed chunk) =
      indexPositions factor (List.range' processed chunk) := by
  rw [ropeRequestPositions, if_neg (by simp [hflash, hgroup]), chunkStep_cached,
    if_neg (Nat.ne_of_gt hlater), length_chunkStep hfits]
  dsimp only
  rw [Nat.add_sub_cancel_left, indexPositions, List.range'_eq_map_range, List.map_map]
  refine congrArg _ (List.map_congr_left fun i _ => ?_)
  simp

include htext

theorem chunkStep_first (hfits : chunk ≤ req.forwardingTokens.length)
    (hflash : getType (chunkStep req 0 chunk) = .kFlash)
    (hgroup : req.attnDpGroupId = attnDpGroupId) :
    ropeRequestPositions getType attnDpGroupId factor loopStep 0 (chunkStep req 0 chunk) =
      indexPositions factor (List.range' 0 chunk loopStep) := by
  rw [ropeRequestPositions, if_neg (by simp [hflash, hgroup]), if_pos (chunkStep_cached ..),
    if_pos (by rw [chunkStep_tensors, htext]), length_chunkStep (by omega), Nat.zero_add]
  rfl

theorem emittedPositions_cons :
    emittedPositions (prepareRopePos getType attnDpGroupId factor tensorNum message loopStep)
      (splitSteps req processed (chunk :: chunks)) =
      (emittedPositions (prepareRopePos getType attnDpGroupId factor tensorNum message loopStep)
        (splitSteps req (processed + chunk) chunks)).map
          (ropeRequestPositions getType attnDpGroupId factor loopStep 0
            (chunkStep req processed chunk) ++ ·) := by
  rw [splitSteps, emittedPositions, prepareRopePos_text (by rw [chunkStep_tensors, htext])]
  cases emittedPositions (prepareRopePos getType attnDpGroupId factor tensorNum message loopStep)
    (splitSteps req (processed + chunk) chunks) <;> rfl

theorem emittedPositions_later (hlater : 0 < processed)
    (hfits : processed + chunks.sum ≤ req.forwardingTokens.length)
    (hflash : ∀ step ∈ splitSteps req processed chunks, getType step = .kFlash)
    (hgroup : req.attnDpGroupId = attnDpGroupId) :
    emittedPositions (prepareRopePos getType attnDpGroupId factor tensorNum message loopStep)
      (splitSteps req processed chunks) =
        .ok (indexPositions factor (List.range' processed chunks.sum)) := by
  induction chunks generalizing processed with
  | nil => rfl
  | cons chunk chunks ih =>
    rw [List.sum_cons] at hfits ⊢
    have hrest := ih (by omega) (by omega)
      fun step hstep => hflash step (List.mem_cons_of_mem _ hstep)
    rw [emittedPositions_cons htext, hrest,
      chunkStep_later hlater (by omega) (hflash _ List.mem_cons_self) hgroup,
      ← List.range'_append_1, indexPositions_append]
    rfl

theorem emittedPositions_split (hsplit : IsSplit req (chunk :: chunks))
    (hflash : ∀ step ∈ splitSteps req 0 (chunk :: chunks), getType step = .kFlash)
    (hgroup : req.attnDpGroupId = attnDpGroupId) :
    emittedPositions (prepareRopePos getType attnDpGroupId factor tensorNum message loopStep)
      (splitSteps req 0 (chunk :: chunks)) =
        .ok (indexPositions factor
          (List.range' 0 chunk loopStep ++ List.range' chunk chunks.sum)) := by
  have hcovers := hsplit.covers
  rw [List.sum_cons] at hcovers
  have hrest : emittedPositions (prepareRopePos getType attnDpGroupId factor tensorNum message
      loopStep) (splitSteps req chunk chunks) =
        .ok (indexPositions factor (List.range' chunk chunks.sum)) := by
    refine emittedPositions_later htext (hsplit.nonempty chunk List.mem_cons_self) hcovers.le
      (fun step hstep => hflash step (List.mem_cons_of_mem _ ?_)) hgroup
    rwa [Nat.zero_add]
  rw [emittedPositions_cons htext, Nat.zero_add, hrest,
    chunkStep_first htext (by omega) (hflash _ List.mem_cons_self) hgroup, indexPositions_append]
  rfl

theorem emittedPositions_other (hgroup : req.attnDpGroupId ≠ attnDpGroupId) (processed : Nat)
    (chunks : List Nat) :
    emittedPositions (prepareRopePos getType attnDpGroupId factor tensorNum message loopStep)
      (splitSteps req processed chunks) = .ok [] := by
  induction chunks generalizing processed with
  | nil => rfl
  | cons chunk chunks ih =>
    rw [emittedPositions_cons htext, ih, ropeRequestPositions,
      if_pos (Or.inr (by rwa [chunkStep_group]))]
    rfl

end Split

/-- Both ways to split the prompt emit the same positions. -/
def IgnoresSplit (prepare : List RopeRequest → Except String RopePositions) (req : RopeRequest)
    (chunks others : List Nat) : Prop :=
  ∃ positions, emittedPositions prepare (splitSteps req 0 chunks) = .ok positions ∧
    emittedPositions prepare (splitSteps req 0 others) = .ok positions

structure PositionsIgnoreSplit (getType : RopeRequest → ForwardRequestType) (attnDpGroupId : Nat)
    (req : RopeRequest) (chunks others : List Nat) : Prop where
  mrope : IgnoresSplit (prepareMRopePos getType attnDpGroupId) req chunks others
  xdrope : IgnoresSplit (prepareXDRopePos getType attnDpGroupId) req chunks others
  mropeBlocks : BlocksInOrder getType attnDpGroupId 3 (prepareMRopePos getType attnDpGroupId)
  xdropeBlocks : BlocksInOrder getType attnDpGroupId 4 (prepareXDRopePos getType attnDpGroupId)

theorem getElem?_indexPositions {factor : Nat} (hfactor : 0 < factor) (indices : List Nat)
    (i : Nat) :
    (indexPositions factor indices)[factor * i]? = indices[i]?.map fun (i : Nat) => (i : Int) := by
  induction indices generalizing i with
  | nil => rfl
  | cons index indices ih =>
    have hcons : indexPositions factor (index :: indices) =
        List.replicate factor (index : Int) ++ indexPositions factor indices := rfl
    rw [hcons]
    cases i with
    | zero =>
      rw [Nat.mul_zero, List.getElem?_append_left (by rwa [List.length_replicate]),
        List.getElem?_replicate, if_pos hfactor]
      rfl
    | succ i =>
      have hstart : factor ≤ factor * (i + 1) := Nat.le_mul_of_pos_right _ (Nat.succ_pos i)
      rw [List.getElem?_append_right (by rwa [List.length_replicate]), List.length_replicate,
        Nat.mul_succ, Nat.add_sub_cancel, ih, List.getElem?_cons_succ]

/-- The token behind a shorter first step is counted differently by a longer one. -/
theorem indexPositions_ne {factor chunk other rest otherRest : Nat} (hfactor : 1 < factor)
    (hchunk : 0 < chunk) (hlonger : chunk < other) (hcovers : chunk + rest = other + otherRest) :
    indexPositions factor (List.range' 0 chunk factor ++ List.range' chunk rest) ≠
      indexPositions factor (List.range' 0 other factor ++ List.range' other otherRest) := by
  intro heq
  have hshort : (List.range' 0 chunk factor ++ List.range' chunk rest)[chunk]? = some chunk := by
    rw [List.getElem?_append_right (by rw [List.length_range']), List.length_range',
      Nat.sub_self, List.getElem?_range' (by omega), Nat.mul_zero, Nat.add_zero]
  have hlong : (List.range' 0 other factor ++ List.range' other otherRest)[chunk]? =
      some (factor * chunk) := by
    rw [List.getElem?_append_left (by rwa [List.length_range']), List.getElem?_range' hlonger,
      Nat.zero_add]
  have hcell := congrArg (·[factor * chunk]?) heq
  simp only [getElem?_indexPositions (Nat.lt_of_succ_lt hfactor), hshort, hlong, Option.map_some,
    Option.some.injEq, Int.natCast_inj] at hcell
  have hgrows := Nat.mul_lt_mul_of_pos_right hfactor hchunk
  omega

section TwoSplits

variable {getType : RopeRequest → ForwardRequestType} {attnDpGroupId : Nat} {req : RopeRequest}
  {chunk other : Nat} {chunks others : List Nat} (htext : req.additionalTensors = [])
  (hchunks : IsSplit req (chunk :: chunks)) (hothers : IsSplit req (other :: others))
  (hflash : ∀ step ∈ splitSteps req 0 (chunk :: chunks), getType step = .kFlash)
  (hflash' : ∀ step ∈ splitSteps req 0 (other :: others), getType step = .kFlash)
  (hgroup : req.attnDpGroupId = attnDpGroupId)
include htext hchunks hothers hflash hflash' hgroup

/-- Counted one by one, the positions of all steps are those of the tokens. -/
theorem mrope_ignoresSplit :
    IgnoresSplit (prepareMRopePos getType attnDpGroupId) req (chunk :: chunks)
      (other :: others) := by
  have hcovers := hchunks.covers.trans hothers.covers.symm
  have hrange : ∀ first rest : Nat, List.range' 0 first 1 ++ List.range' first rest =
      List.range' 0 (first + rest) := by
    intro first rest
    have happend := List.range'_append_1 (s := 0) (m := first) (n := rest)
    rwa [Nat.zero_add] at happend
  rw [List.sum_cons, List.sum_cons] at hcovers
  refine ⟨_, emittedPositions_split htext hchunks hflash hgroup, ?_⟩
  refine (emittedPositions_split htext hothers hflash' hgroup).trans ?_
  rw [hrange, hrange, hcovers]

theorem xdrope_ignoresSplit_iff :
    IgnoresSplit (prepareXDRopePos getType attnDpGroupId) req (chunk :: chunks)
      (other :: others) ↔ chunk = other := by
  have hcovers := hchunks.covers.trans hothers.covers.symm
  rw [List.sum_cons, List.sum_cons] at hcovers
  have hfirst : emittedPositions (prepareXDRopePos getType attnDpGroupId)
      (splitSteps req 0 (chunk :: chunks)) = .ok (indexPositions 4
        (List.range' 0 chunk 4 ++ List.range' chunk chunks.sum)) :=
    emittedPositions_split htext hchunks hflash hgroup
  have hsecond : emittedPositions (prepareXDRopePos getType attnDpGroupId)
      (splitSteps req 0 (other :: others)) = .ok (indexPositions 4
        (List.range' 0 other 4 ++ List.range' other others.sum)) :=
    emittedPositions_split htext hothers hflash' hgroup
  constructor
  · intro ⟨positions, hleft, hright⟩
    rw [hfirst] at hleft
    rw [hsecond, ← hleft] at hright
    have hsame := (Except.ok.inj hright).symm
    rcases Nat.lt_trichotomy chunk other with hless | heq | hmore
    · exact absurd hsame (indexPositions_ne (by decide)
        (hchunks.nonempty _ List.mem_cons_self) hless hcovers)
    · exact heq
    · exact absurd hsame.symm (indexPositions_ne (by decide)
        (hothers.nonempty _ List.mem_cons_self) hmore hcovers.symm)
  · intro heq
    obtain rfl := heq
    have hrest : chunks.sum = others.sum := by omega
    exact ⟨_, hfirst, by rw [hsecond, hrest]⟩

end TwoSplits

/-- On a rank of the request's group, and on others, XD-RoPE gives two ways to split a text prompt
the same positions if and only if their first steps are equally long. M-RoPE always does, and
both lay out the requests of a batch one behind the other. -/
theorem rope_positions_iff (getType : RopeRequest → ForwardRequestType) (attnDpGroupId : Nat)
    (req : RopeRequest) (chunks others : List Nat) (htext : req.additionalTensors = [])
    (hchunks : IsSplit req chunks) (hothers : IsSplit req others)
    (hflash : ∀ step ∈ splitSteps req 0 chunks ++ splitSteps req 0 others,
      getType step = .kFlash) :
    PositionsIgnoreSplit getType attnDpGroupId req chunks others ↔
      req.attnDpGroupId ≠ attnDpGroupId ∨ chunks.head? = others.head? := by
  have hblocks : BlocksInOrder getType attnDpGroupId 3 (prepareMRopePos getType attnDpGroupId) ∧
      BlocksInOrder getType attnDpGroupId 4 (prepareXDRopePos getType attnDpGroupId) :=
    ⟨prepareRopePos_blocks, prepareRopePos_blocks⟩
  by_cases hgroup : req.attnDpGroupId = attnDpGroupId
  case neg =>
    refine iff_of_true ⟨⟨[], ?_, ?_⟩, ⟨[], ?_, ?_⟩, hblocks.1, hblocks.2⟩ (Or.inl hgroup) <;>
      exact emittedPositions_other htext hgroup 0 _
  rw [or_iff_right (not_not.mpr hgroup)]
  cases chunks with
  | nil =>
    cases others with
    | nil => exact iff_of_true ⟨⟨[], rfl, rfl⟩, ⟨[], rfl, rfl⟩, hblocks.1, hblocks.2⟩ rfl
    | cons other others =>
      have hempty := hchunks.covers.trans hothers.covers.symm
      have hsome := hothers.nonempty other List.mem_cons_self
      rw [List.sum_nil, List.sum_cons] at hempty
      omega
  | cons chunk chunks =>
    cases others with
    | nil =>
      have hempty := hothers.covers.trans hchunks.covers.symm
      have hsome := hchunks.nonempty chunk List.mem_cons_self
      rw [List.sum_nil, List.sum_cons] at hempty
      omega
    | cons other others =>
      have hleft := fun step hstep => hflash step (List.mem_append_left _ hstep)
      have hright := fun step hstep => hflash step (List.mem_append_right _ hstep)
      rw [List.head?_cons, List.head?_cons, Option.some.injEq,
        ← xdrope_ignoresSplit_iff htext hchunks hothers hleft hright hgroup]
      constructor
      · exact fun h => h.xdrope
      · exact fun h => ⟨mrope_ignoresSplit htext hchunks hothers hleft hright hgroup, h,
          hblocks.1, hblocks.2⟩

/-- Four text tokens. -/
def textPrompt : RopeRequest where
  toForwardRequest :=
    buildForwardRequestFromInferRequest { reqId := 1, forwardingTokens := [11, 12, 13, 14] }

/-- The same first chunk, and the rest in one step or in two. -/
theorem rope_positions_iff_sample :
    PositionsIgnoreSplit (fun _ => .kFlash) 0 textPrompt [2, 2] [2, 1, 1] :=
  (rope_positions_iff _ 0 textPrompt [2, 2] [2, 1, 1] rfl ⟨rfl, by decide⟩ ⟨rfl, by decide⟩
    fun _ _ => rfl).mpr (Or.inr rfl)

/-- In one step token 1 is at 4, in two steps token 2 is at 2. -/
theorem xdrope_depends_on_split :
    ¬ PositionsIgnoreSplit (fun _ => .kFlash) 0 textPrompt [4] [2, 2] := by
  rintro ⟨-, ⟨positions, hone, htwo⟩, -, -⟩
  have hfour : emittedPositions (prepareXDRopePos (fun _ => .kFlash) 0)
      (splitSteps textPrompt 0 [4]) =
        .ok [0, 0, 0, 0, 4, 4, 4, 4, 8, 8, 8, 8, 12, 12, 12, 12] := rfl
  have htwice : emittedPositions (prepareXDRopePos (fun _ => .kFlash) 0)
      (splitSteps textPrompt 0 [2, 2]) =
        .ok [0, 0, 0, 0, 4, 4, 4, 4, 2, 2, 2, 2, 3, 3, 3, 3] := rfl
  rw [hfour] at hone
  rw [htwice, ← hone] at htwo
  exact absurd (Except.ok.inj htwo) (by decide)

end KsanaBuildAhead.Executor
