import KsanaBuildAhead.Engine.LaunchDispatch
import KsanaBuildAhead.Executor.ReplaceLastToken
import KsanaBuildAhead.Lib.Execution

/-!
# Two buffers for steps that overlap

Without MTP a schedule passes from the launch through Preprocess, which flips the slot and
fills the `ModelInput` of it, through Execute, which reads that `ModelInput` and the ring of the
other slot and writes the ring of its own, and its result passes back to the Engine. Every
queue on the way is first in, first out. One device is modelled; with one rank the broadcast of
the ring returns at once.
-/
namespace KsanaBuildAhead.Executor

open KsanaBuildAhead.Runtime KsanaBuildAhead.Engine KsanaBuildAhead.Lib.Execution

/-- What `UpdateWithGenerationResult` makes of the depth of the pipeline. -/
def updateWithGenerationResult (fastPath : Bool) (executorPipelineDepth : Nat) : Nat :=
  if fastPath = true ∧ 0 < executorPipelineDepth then executorPipelineDepth - 1
  else executorPipelineDepth

/-- A schedule on its way; `step` counts the launches before it. -/
structure LaunchedSchedule where
  step : Nat
  scheduleOutput : ScheduleOutput

/-- What Preprocess hands to Execute. -/
structure NewModelInput where
  schedule : LaunchedSchedule
  reqs : List ForwardRequest
  slotIndex : Nat

/-- The device buffers of one slot. Behind the pairs of the step the buffer of the pairs still
holds older ones. `filledFor` is the step they were last filled for. -/
structure ModelInput where
  inputIds : List Int := []
  curBatchPairs : List (Int × Nat) := []
  olderPairs : List (Int × Nat) := []
  filledFor : Option Nat := none

def ModelInput.parseFromRequests (old : ModelInput) (input : NewModelInput) : ModelInput :=
  let prepared := prepareInputIds input.reqs
  { inputIds := prepared.inputIds
    curBatchPairs := prepared.curBatchPairs
    olderPairs := (old.curBatchPairs ++ old.olderPairs).drop prepared.curBatchPairs.length
    filledFor := some input.schedule.step }

/-- One slot of the sampler, and the step that last wrote its ring. -/
structure RingSlot (sampler : Sampler) where
  buffers : SamplerSlot sampler
  writtenBy : Option Nat := none

/-- The step on the Execute thread: the ring it reads, what it forwards once it has read its
inputs, and whether it has been sampled. -/
structure ExecutingInput where
  input : NewModelInput
  prevSlot : Nat
  forwarded : Option (List Int) := none
  postprocessed : Bool := false

/-- What has happened so far; no step depends on it. -/
structure BufferHistory where
  launchedNum : Nat := 0
  processedNum : Nat := 0
  prepared : List NewModelInput := []
  executed : List Nat := []
  ringWriters : List Nat := []

structure BufferState (sampler : Sampler) where
  executorPipelineDepth : Nat := 0
  scheduleOutputQueue : List LaunchedSchedule := []
  curRingSlot : Nat := 0
  preprocessing : Option NewModelInput := none
  modelInputQueue : List NewModelInput := []
  executing : Option ExecutingInput := none
  samplingOutputQueue : List LaunchedSchedule := []
  reported : List LaunchedSchedule := []
  modelInputs : Nat → ModelInput
  ringSlots : Nat → RingSlot sampler
  history : BufferHistory := {}

/-- Nothing is launched yet; what the buffers hold is arbitrary. -/
def BufferState.start {sampler : Sampler} (inputs : Nat → ModelInput)
    (slots : Nat → SamplerSlot sampler) : BufferState sampler where
  modelInputs := fun slot => { inputs slot with filledFor := none }
  ringSlots := fun slot => { buffers := slots slot }

/-- What the threads do, one action at a time. The requests are as the Executor has them then. -/
inductive BufferOp where
  | tryToLaunch (planned : ScheduleOutput)
  | getSchedule (reqs : List ForwardRequest)
  | prepareModelInputGpu
  | getModelInput
  | forward
  | postprocess (reqs : List ExecutorInferRequest) (sampledAt : Nat → UInt32)
  | putSamplingOutput
  | reportSamplingOutput
  | updateWithGenerationResult

/-- The ring slot after the postprocess of a step. -/
def postprocessRing {sampler : Sampler} (slot : RingSlot sampler) (step : Nat)
    (reqs : List ExecutorInferRequest) (sampledAt : Nat → UInt32) (curPairs : List (Int × Nat)) :
    Except String (RingSlot sampler) := do
  let ring ← handlePostprocess slot.buffers sampledAt reqs curPairs
  .ok {
    buffers := {
      outputTokens := if needSampling reqs then
          sampler.sampling sampledAt reqs slot.buffers.outputTokens
        else slot.buffers.outputTokens
      ring := ring }
    writtenBy := if needSampling reqs then some step else slot.writtenBy }

section Step

variable [DraftTokensApi] {sampler : Sampler}

/-- One action of one thread; a thread that would wait cannot be chosen. -/
def bufferStep (merge : ScheduleOutput → ScheduleOutput) (s : BufferState sampler) :
    BufferOp → Except String (BufferState sampler)
  | .tryToLaunch planned => do
    let attempt ← tryToLaunchPlannedScheduleOutput true merge s.executorPipelineDepth planned
    if attempt.launched then
      .ok { s with
        executorPipelineDepth := attempt.executorPipelineDepth
        scheduleOutputQueue :=
          s.scheduleOutputQueue ++ [⟨s.history.launchedNum, attempt.planned⟩]
        history := { s.history with launchedNum := s.history.launchedNum + 1 } }
    else .ok { s with executorPipelineDepth := attempt.executorPipelineDepth }
  | .getSchedule reqs => match s.preprocessing, s.scheduleOutputQueue with
    | none, schedule :: rest =>
      .ok { s with
        scheduleOutputQueue := rest
        curRingSlot := s.curRingSlot ^^^ 1
        preprocessing := some ⟨schedule, reqs, s.curRingSlot ^^^ 1⟩ }
    | _, _ => .error "Preprocess waits"
  | .prepareModelInputGpu => match s.preprocessing with
    | some input =>
      .ok { s with
        preprocessing := none
        modelInputs := Function.update s.modelInputs input.slotIndex
          ((s.modelInputs input.slotIndex).parseFromRequests input)
        modelInputQueue := s.modelInputQueue ++ [input]
        history := { s.history with prepared := s.history.prepared ++ [input] } }
    | none => .error "Preprocess waits"
  | .getModelInput => match s.executing, s.modelInputQueue with
    | none, input :: rest =>
      .ok { s with
        modelInputQueue := rest
        executing := some { input, prevSlot := input.slotIndex ^^^ 1 } }
    | _, _ => .error "Execute waits"
  | .forward => match s.executing with
    | some running => do
      check (running.forwarded = none) "forwarded before"
      let modelInput := s.modelInputs running.input.slotIndex
      .ok { s with
        executing := some { running with
          forwarded := some (replaceLastTokenKernel modelInput.inputIds
            (modelInput.curBatchPairs ++ modelInput.olderPairs)
            (s.ringSlots running.prevSlot).buffers.ring running.input.reqs.length) } }
    | none => .error "Execute waits"
  | .postprocess reqs sampledAt => match s.executing with
    | some running => do
      check (running.forwarded ≠ none ∧ running.postprocessed = false) "not to be sampled now"
      let slot ← postprocessRing (s.ringSlots running.input.slotIndex) running.input.schedule.step
        reqs sampledAt (s.modelInputs running.input.slotIndex).curBatchPairs
      .ok { s with
        executing := some { running with postprocessed := true }
        ringSlots := Function.update s.ringSlots running.input.slotIndex slot
        history := { s.history with
          ringWriters := if needSampling reqs then
              s.history.ringWriters ++ [running.input.schedule.step]
            else s.history.ringWriters } }
    | none => .error "Execute waits"
  | .putSamplingOutput => match s.executing with
    | some running => do
      check (running.postprocessed = true) "not sampled"
      .ok { s with
        executing := none
        samplingOutputQueue := s.samplingOutputQueue ++ [running.input.schedule]
        history := { s.history with
          executed := s.history.executed ++ [running.input.schedule.step] } }
    | none => .error "Execute waits"
  | .reportSamplingOutput => match s.samplingOutputQueue with
    | schedule :: rest =>
      .ok { s with samplingOutputQueue := rest, reported := s.reported ++ [schedule] }
    | [] => .error "the report waits"
  | .updateWithGenerationResult => match s.reported with
    | _ :: rest =>
      .ok { s with
        executorPipelineDepth := updateWithGenerationResult true s.executorPipelineDepth
        reported := rest
        history := { s.history with processedNum := s.history.processedNum + 1 } }
    | [] => .error "no result"

end Step

/-- The depth counts the launches without a processed result; a slot is filled again only
after the steps that used it have been executed, and Execute finds there what was filled for
its step; the ring it reads is the one the step before was given, as that step has left it. -/
structure DoubleBufferSafe {sampler : Sampler} (s : BufferState sampler) : Prop where
  depth : s.history.launchedNum = s.history.processedNum + s.executorPipelineDepth
  bounded : s.executorPipelineDepth ≤ kExecutorPipelineMaxDepth
  refill : ∀ input ∈ s.preprocessing, ∀ earlier ∈ s.history.prepared,
    earlier.slotIndex = input.slotIndex → earlier.schedule.step ∈ s.history.executed
  own : ∀ running ∈ s.executing,
    (s.modelInputs running.input.slotIndex).filledFor = some running.input.schedule.step
  previous : ∀ running ∈ s.executing, ∀ n, running.input.schedule.step = n + 1 →
    ∃ before ∈ s.history.prepared, before.schedule.step = n ∧
      running.prevSlot = before.slotIndex ∧
      (∀ writer ∈ (s.ringSlots running.prevSlot).writtenBy, writer ≤ n) ∧
      (n ∈ s.history.ringWriters → (s.ringSlots running.prevSlot).writtenBy = some n)

/-- The steps whose results are still to be processed, the oldest first. -/
def BufferState.inFlight {sampler : Sampler} (s : BufferState sampler) : List Nat :=
  (s.reported ++ s.samplingOutputQueue).map LaunchedSchedule.step ++
    (s.executing.toList.map fun running => running.input.schedule.step) ++
    ((s.modelInputQueue ++ s.preprocessing.toList).map fun input => input.schedule.step) ++
    s.scheduleOutputQueue.map LaunchedSchedule.step

/-- How many steps have been executed, and how many have been handed to Execute. -/
def BufferState.executedNum {sampler : Sampler} (s : BufferState sampler) : Nat :=
  s.history.processedNum + s.reported.length + s.samplingOutputQueue.length

def BufferState.preparedNum {sampler : Sampler} (s : BufferState sampler) : Nat :=
  s.executedNum + s.executing.toList.length + s.modelInputQueue.length

/-- The slot the `n`-th step is given. -/
def slotOf (n : Nat) : Nat := (n + 1) % 2

structure BufferInvariant {sampler : Sampler} (s : BufferState sampler) : Prop where
  depth : s.history.launchedNum = s.history.processedNum + s.executorPipelineDepth
  bounded : s.executorPipelineDepth ≤ kExecutorPipelineMaxDepth
  order : s.inFlight = List.range' s.history.processedNum s.executorPipelineDepth
  executed : s.history.executed = List.range s.executedNum
  prepared : (s.history.prepared.map fun input => input.schedule.step) = List.range s.preparedNum
  flipped : s.curRingSlot = (s.preparedNum + s.preprocessing.toList.length) % 2
  slots : ∀ input ∈ s.history.prepared ++ s.preprocessing.toList,
    input.slotIndex = slotOf input.schedule.step
  handed : ∀ input ∈ (s.executing.toList.map ExecutingInput.input) ++ s.modelInputQueue,
    input ∈ s.history.prepared ∧
      (s.modelInputs input.slotIndex).filledFor = some input.schedule.step
  other : ∀ running ∈ s.executing, running.prevSlot = running.input.slotIndex ^^^ 1
  writers : ∀ writer ∈ s.history.ringWriters, writer < s.executedNum ∨
    ∃ running ∈ s.executing, running.postprocessed = true ∧ writer = running.input.schedule.step
  rings : ∀ slot, ∀ writer ∈ (s.ringSlots slot).writtenBy,
    writer ∈ s.history.ringWriters ∧ slot = slotOf writer
  latest : ∀ writer ∈ s.history.ringWriters, ∃ last,
    (s.ringSlots (slotOf writer)).writtenBy = some last ∧ writer ≤ last

theorem step_at {front rest : List Nat} {n first count : Nat}
    (h : front ++ n :: rest = List.range' first count) :
    n = first + front.length ∧ front.length < count := by
  have hat : (List.range' first count)[front.length]? = some n := by
    rw [← h, List.getElem?_append_right (Nat.le_refl _), Nat.sub_self]
    rfl
  obtain ⟨hlt, hn⟩ := List.getElem?_eq_some_iff.mp hat
  rw [List.getElem_range', Nat.one_mul] at hn
  rw [List.length_range'] at hlt
  exact ⟨hn.symm, hlt⟩

theorem mod_two_xor (n : Nat) : n % 2 ^^^ 1 = slotOf n := by
  rcases Nat.mod_two_eq_zero_or_one n with heven | hodd
  · have hslot : slotOf n = 1 := by rw [slotOf]; omega
    rw [heven, hslot]
    rfl
  · have hslot : slotOf n = 0 := by rw [slotOf]; omega
    rw [hodd, hslot]
    rfl

theorem slotOf_xor (n : Nat) : slotOf (n + 1) ^^^ 1 = slotOf n := by
  have hslot : slotOf (n + 1) = n % 2 := by rw [slotOf]; omega
  rw [hslot, mod_two_xor]

section Invariant

variable {sampler : Sampler} {s : BufferState sampler}

/-- Preprocess works on the first step that has not been handed to Execute. -/
theorem BufferInvariant.preprocessing_step (hs : BufferInvariant s) {input : NewModelInput}
    (hinput : s.preprocessing = some input) : input.schedule.step = s.preparedNum ∧
      s.preparedNum < s.history.processedNum + s.executorPipelineDepth := by
  have horder : ((s.reported ++ s.samplingOutputQueue).map LaunchedSchedule.step ++
      (s.executing.toList.map fun running => running.input.schedule.step) ++
      s.modelInputQueue.map fun input => input.schedule.step) ++
        input.schedule.step :: s.scheduleOutputQueue.map LaunchedSchedule.step =
      List.range' s.history.processedNum s.executorPipelineDepth := by
    rw [← hs.order, BufferState.inFlight, hinput]
    simp
  obtain ⟨hstep, hlt⟩ := step_at horder
  simp only [List.length_append, List.length_map] at hstep hlt
  rw [BufferState.preparedNum, BufferState.executedNum]
  omega

theorem BufferInvariant.executing_step (hs : BufferInvariant s) {running : ExecutingInput}
    (hrunning : s.executing = some running) : running.input.schedule.step = s.executedNum := by
  have horder := hs.order
  rw [BufferState.inFlight, hrunning, Option.toList_some, List.map_singleton, List.append_assoc,
    List.append_assoc, List.singleton_append] at horder
  obtain ⟨hstep, -⟩ := step_at horder
  simp only [List.length_append, List.length_map] at hstep
  rw [BufferState.executedNum]
  omega

theorem BufferInvariant.handed_step (hs : BufferInvariant s) {input : NewModelInput}
    (hinput : input ∈ (s.executing.toList.map ExecutingInput.input) ++ s.modelInputQueue) :
    s.history.processedNum ≤ input.schedule.step ∧ input.schedule.step < s.preparedNum := by
  constructor
  · have hmem : input.schedule.step ∈ s.inFlight := by
      rw [BufferState.inFlight]
      simp only [List.mem_append, List.mem_map] at hinput ⊢
      rcases hinput with ⟨running, hrunning, rfl⟩ | hqueued
      · exact Or.inl (Or.inl (Or.inr ⟨running, hrunning, rfl⟩))
      · exact Or.inl (Or.inr ⟨input, Or.inl hqueued, rfl⟩)
    rw [hs.order, List.mem_range'_1] at hmem
    exact hmem.1
  · rw [← List.mem_range, ← hs.prepared]
    exact List.mem_map_of_mem (hs.handed input hinput).1

theorem BufferInvariant.safe (hs : BufferInvariant s) : DoubleBufferSafe s where
  depth := hs.depth
  bounded := hs.bounded
  refill := by
    intro input hinput earlier hearlier hslot
    obtain ⟨hstep, hlt⟩ := hs.preprocessing_step hinput
    have hbounded := hs.bounded
    have hbefore : earlier.schedule.step < s.preparedNum := by
      rw [← List.mem_range, ← hs.prepared]
      exact List.mem_map_of_mem hearlier
    have hslots := hs.slots earlier (List.mem_append_left _ hearlier)
    have hslots' := hs.slots input (List.mem_append_right _ (by rw [hinput]; exact List.mem_singleton_self _))
    -- Two steps with the same slot are two apart, and at most two are in flight.
    rw [hslots, hslots', slotOf, slotOf, hstep] at hslot
    rw [hs.executed, List.mem_range, BufferState.executedNum]
    rw [kExecutorPipelineMaxDepth] at hbounded
    omega
  own := by
    intro running hrunning
    refine (hs.handed running.input (List.mem_append_left _ ?_)).2
    rw [hrunning]
    exact List.mem_singleton_self _
  previous := by
    intro running hrunning n hn
    have hstep := hs.executing_step hrunning
    have hmem : n ∈ s.history.prepared.map fun input => input.schedule.step := by
      rw [hs.prepared, List.mem_range, BufferState.preparedNum]
      omega
    obtain ⟨before, hbefore, rfl⟩ := List.mem_map.mp hmem
    have hown := hs.handed running.input (List.mem_append_left _ (by
      rw [hrunning]
      exact List.mem_singleton_self _))
    have hslot := hs.slots running.input (List.mem_append_left _ hown.1)
    have hprev : running.prevSlot = slotOf before.schedule.step := by
      rw [hs.other running hrunning, hslot, hn, slotOf_xor]
    have hwriters : ∀ writer ∈ s.history.ringWriters,
        slotOf writer = slotOf before.schedule.step → writer ≤ before.schedule.step := by
      intro writer hwriter hsame
      rw [slotOf, slotOf] at hsame
      rcases hs.writers writer hwriter with hdone | ⟨last, hlast, -, rfl⟩
      · omega
      · obtain rfl : running = last := Option.some.inj (hrunning.symm.trans hlast)
        omega
    refine ⟨before, hbefore, rfl, ?_, ?_, ?_⟩
    · rw [hprev, hs.slots before (List.mem_append_left _ hbefore)]
    · intro writer hwriter
      obtain ⟨hwrote, hslotOf⟩ := hs.rings _ writer hwriter
      exact hwriters writer hwrote (hslotOf.symm.trans hprev)
    · intro hwrote
      obtain ⟨last, hlast, hle⟩ := hs.latest _ hwrote
      obtain ⟨hlastWrote, hlastSlot⟩ := hs.rings _ last hlast
      have hge := hwriters last hlastWrote hlastSlot.symm
      rw [hprev, hlast]
      congr 1
      omega

end Invariant

section Actions

variable [DraftTokensApi] {sampler : Sampler} {merge : ScheduleOutput → ScheduleOutput}
  {s t : BufferState sampler}

theorem BufferInvariant.tryToLaunch {planned : ScheduleOutput} (hs : BufferInvariant s)
    (h : bufferStep merge s (.tryToLaunch planned) = .ok t) : BufferInvariant t := by
  obtain ⟨attempt, hattempt, h⟩ := bind_ok h
  rcases tryToLaunch_depth hattempt with ⟨hlaunched, hroom, hdepth⟩ | ⟨hrefused, hdepth⟩
  · rw [if_pos hlaunched, hdepth] at h
    obtain rfl := Except.ok.inj h
    refine { hs with depth := ?_, bounded := hroom, order := ?_ }
    · show s.history.launchedNum + 1 = s.history.processedNum + (s.executorPipelineDepth + 1)
      rw [hs.depth]
      omega
    · show _ = List.range' s.history.processedNum (s.executorPipelineDepth + 1)
      rw [List.range'_1_concat, ← hs.order, ← hs.depth]
      simp [BufferState.inFlight]
  · rw [if_neg (by rw [hrefused]; exact Bool.false_ne_true), hdepth] at h
    obtain rfl := Except.ok.inj h
    exact { hs with }

theorem BufferInvariant.getSchedule {reqs : List ForwardRequest} (hs : BufferInvariant s)
    (h : bufferStep merge s (.getSchedule reqs) = .ok t) : BufferInvariant t := by
  rw [bufferStep] at h
  cases hidle : s.preprocessing with
  | some input =>
    rw [hidle] at h
    cases h
  | none =>
    cases hqueue : s.scheduleOutputQueue with
    | nil =>
      rw [hidle, hqueue] at h
      cases h
    | cons schedule rest =>
      rw [hidle, hqueue] at h
      obtain rfl := Except.ok.inj h
      have horder := hs.order
      rw [BufferState.inFlight, hidle, hqueue] at horder
      have hat : ((s.reported ++ s.samplingOutputQueue).map LaunchedSchedule.step ++
          (s.executing.toList.map fun running => running.input.schedule.step) ++
          s.modelInputQueue.map fun input => input.schedule.step) ++
            schedule.step :: rest.map LaunchedSchedule.step =
          List.range' s.history.processedNum s.executorPipelineDepth := by
        rw [← horder]
        simp
      obtain ⟨hstep, -⟩ := step_at hat
      have hflipped := hs.flipped
      rw [hidle, Option.toList_none, List.length_nil, Nat.add_zero] at hflipped
      have hslot : s.curRingSlot ^^^ 1 = slotOf s.preparedNum := by rw [hflipped, mod_two_xor]
      refine { hs with order := ?_, flipped := ?_, slots := ?_ }
      · rw [← hs.order, BufferState.inFlight, BufferState.inFlight, hidle, hqueue]
        simp
      · show s.curRingSlot ^^^ 1 = (s.preparedNum + 1) % 2
        exact hslot
      · intro input hinput
        rcases List.mem_append.mp hinput with hbefore | hnew
        · exact hs.slots input (List.mem_append_left _ hbefore)
        · obtain rfl := List.mem_singleton.mp hnew
          show s.curRingSlot ^^^ 1 = slotOf schedule.step
          rw [hslot, hstep]
          congr 1
          simp only [BufferState.preparedNum, BufferState.executedNum, List.length_append,
            List.length_map]
          omega

theorem BufferInvariant.prepareModelInputGpu (hs : BufferInvariant s)
    (h : bufferStep merge s .prepareModelInputGpu = .ok t) : BufferInvariant t := by
  rw [bufferStep] at h
  cases hinput : s.preprocessing with
  | none =>
    rw [hinput] at h
    cases h
  | some input =>
    rw [hinput] at h
    obtain rfl := Except.ok.inj h
    obtain ⟨hstep, hlt⟩ := hs.preprocessing_step hinput
    have hbounded := hs.bounded
    rw [kExecutorPipelineMaxDepth] at hbounded
    have hslot := hs.slots input (List.mem_append_right _ (by
      rw [hinput]
      exact List.mem_singleton_self _))
    have hflipped := hs.flipped
    rw [hinput, Option.toList_some, List.length_singleton] at hflipped
    refine { hs with
      order := ?_, prepared := ?_, flipped := ?_, slots := ?_, handed := ?_ }
    · rw [← hs.order, BufferState.inFlight, BufferState.inFlight, hinput]
      simp
    · show (s.history.prepared ++ [input]).map (fun input => input.schedule.step) = _
      rw [List.map_append, hs.prepared, List.map_singleton, hstep, ← List.range_succ]
      simp only [BufferState.preparedNum, BufferState.executedNum, List.length_append,
        List.length_singleton]
      rfl
    · rw [hflipped]
      simp only [BufferState.preparedNum, BufferState.executedNum, List.length_append,
        List.length_singleton, Option.toList_none, List.length_nil]
      rfl
    · intro earlier hearlier
      rw [Option.toList_none, List.append_nil] at hearlier
      rcases List.mem_append.mp hearlier with hbefore | hnew
      · exact hs.slots earlier (List.mem_append_left _ hbefore)
      · obtain rfl := List.mem_singleton.mp hnew
        exact hslot
    · intro other hother
      rw [← List.append_assoc] at hother
      rcases List.mem_append.mp hother with hbefore | hnew
      · obtain ⟨hprepared, hfilled⟩ := hs.handed other hbefore
        refine ⟨List.mem_append_left _ hprepared, ?_⟩
        obtain ⟨hfrom, hto⟩ := hs.handed_step hbefore
        have hslots := hs.slots other (List.mem_append_left _ hprepared)
        have hne : other.slotIndex ≠ input.slotIndex := by
          rw [hslots, hslot, slotOf, slotOf]
          omega
        show (Function.update s.modelInputs input.slotIndex _ other.slotIndex).filledFor = _
        rw [Function.update_of_ne hne]
        exact hfilled
      · obtain rfl := List.mem_singleton.mp hnew
        refine ⟨List.mem_append_right _ (List.mem_singleton_self _), ?_⟩
        show (Function.update s.modelInputs other.slotIndex _ other.slotIndex).filledFor = _
        rw [Function.update_self]
        rfl

theorem BufferInvariant.getModelInput (hs : BufferInvariant s)
    (h : bufferStep merge s .getModelInput = .ok t) : BufferInvariant t := by
  rw [bufferStep] at h
  cases hidle : s.executing with
  | some running =>
    rw [hidle] at h
    cases h
  | none =>
    cases hqueue : s.modelInputQueue with
    | nil =>
      rw [hidle, hqueue] at h
      cases h
    | cons input rest =>
      rw [hidle, hqueue] at h
      obtain rfl := Except.ok.inj h
      have hnum : s.preparedNum = s.executedNum + 1 + rest.length := by
        rw [BufferState.preparedNum, hidle, hqueue, Option.toList_none, List.length_nil,
          List.length_cons]
        omega
      refine { hs with
        order := ?_, prepared := ?_, flipped := ?_, handed := ?_, other := ?_, writers := ?_ }
      · rw [← hs.order, BufferState.inFlight, BufferState.inFlight, hidle, hqueue]
        simp
      · rw [hs.prepared, hnum]
        rfl
      · rw [hs.flipped, hnum]
        rfl
      · intro other hother
        refine hs.handed other ?_
        rw [hidle, hqueue]
        exact hother
      · rintro running ⟨⟩
        rfl
      · intro writer hwriter
        rcases hs.writers writer hwriter with hdone | ⟨running, hrunning, -⟩
        · exact Or.inl hdone
        · rw [hidle] at hrunning
          cases hrunning

omit [DraftTokensApi] in
theorem BufferInvariant.stillExecuting {running after : ExecutingInput} (hs : BufferInvariant s)
    (hrunning : s.executing = some running) (hinput : after.input = running.input)
    (hslot : after.prevSlot = running.prevSlot)
    (hwriters : ∀ writer ∈ s.history.ringWriters, writer < s.executedNum ∨
      after.postprocessed = true ∧ writer = after.input.schedule.step) :
    BufferInvariant { s with executing := some after } := by
  have hinputs : (some after).toList.map ExecutingInput.input =
      s.executing.toList.map ExecutingInput.input := by
    rw [hrunning, Option.toList_some, Option.toList_some, List.map_singleton, List.map_singleton,
      hinput]
  refine { hs with
    order := ?_, prepared := ?_, flipped := ?_, handed := ?_, other := ?_, writers := ?_ }
  · rw [← hs.order, BufferState.inFlight, BufferState.inFlight, hrunning, Option.toList_some,
      Option.toList_some, List.map_singleton, List.map_singleton, hinput]
  · rw [hs.prepared, BufferState.preparedNum, BufferState.preparedNum, hrunning]
    rfl
  · rw [hs.flipped, BufferState.preparedNum, BufferState.preparedNum, hrunning]
    rfl
  · intro other hother
    rw [hinputs] at hother
    exact hs.handed other hother
  · intro other hother
    obtain rfl := Option.some.inj hother
    rw [hslot, hinput]
    exact hs.other running hrunning
  · intro writer hwriter
    rcases hwriters writer hwriter with hdone | ⟨hsampled, hstep⟩
    · exact Or.inl hdone
    · exact Or.inr ⟨after, rfl, hsampled, hstep⟩

theorem BufferInvariant.forward (hs : BufferInvariant s)
    (h : bufferStep merge s .forward = .ok t) : BufferInvariant t := by
  rw [bufferStep] at h
  cases hrunning : s.executing with
  | none =>
    rw [hrunning] at h
    cases h
  | some running =>
    rw [hrunning] at h
    obtain ⟨-, h⟩ := check_bind_ok h
    obtain rfl := Except.ok.inj h
    refine hs.stillExecuting hrunning rfl rfl fun writer hwriter => ?_
    rcases hs.writers writer hwriter with hdone | ⟨last, hlast, hsampled, hstep⟩
    · exact Or.inl hdone
    · obtain rfl : running = last := Option.some.inj (hrunning.symm.trans hlast)
      exact Or.inr ⟨hsampled, hstep⟩

theorem BufferInvariant.postprocess {reqs : List ExecutorInferRequest} {sampledAt : Nat → UInt32}
    (hs : BufferInvariant s) (h : bufferStep merge s (.postprocess reqs sampledAt) = .ok t) :
    BufferInvariant t := by
  rw [bufferStep] at h
  cases hrunning : s.executing with
  | none =>
    rw [hrunning] at h
    cases h
  | some running =>
    rw [hrunning] at h
    obtain ⟨⟨-, hfirst⟩, h⟩ := check_bind_ok h
    obtain ⟨slot, hslot, h⟩ := bind_ok h
    obtain ⟨ring, -, hwrite⟩ := bind_ok hslot
    obtain rfl := Except.ok.inj hwrite
    obtain rfl := Except.ok.inj h
    have hstep := hs.executing_step hrunning
    have hown := hs.handed running.input (List.mem_append_left _ (by
      rw [hrunning]
      exact List.mem_singleton_self _))
    have hindex := hs.slots running.input (List.mem_append_left _ hown.1)
    have hbefore : ∀ writer ∈ s.history.ringWriters, writer < running.input.schedule.step := by
      intro writer hwriter
      rcases hs.writers writer hwriter with hdone | ⟨last, hlast, hsampled, -⟩
      · omega
      · obtain rfl : running = last := Option.some.inj (hrunning.symm.trans hlast)
        rw [hfirst] at hsampled
        cases hsampled
    have hframe : BufferInvariant { s with
        executing := some { running with postprocessed := true } } := by
      refine hs.stillExecuting hrunning rfl rfl fun writer hwriter => ?_
      have hlt := hbefore writer hwriter
      exact Or.inl (by rw [hstep] at hlt; exact hlt)
    cases hneed : needSampling reqs with
    | false =>
      refine { hframe with rings := ?_, latest := ?_ }
      · intro slot writer hwriter
        by_cases hsame : slot = running.input.slotIndex
        · subst hsame
          simp only [Function.update_self] at hwriter
          exact hs.rings _ writer hwriter
        · simp only [Function.update_of_ne hsame] at hwriter
          exact hs.rings slot writer hwriter
      · intro writer hwriter
        obtain ⟨last, hlast, hle⟩ := hs.latest writer hwriter
        refine ⟨last, ?_, hle⟩
        by_cases hsame : slotOf writer = running.input.slotIndex
        · rw [hsame] at hlast
          simp only [hsame, Function.update_self]
          exact hlast
        · simp only [Function.update_of_ne hsame]
          exact hlast
    | true =>
      refine { hframe with writers := ?_, rings := ?_, latest := ?_ }
      · intro writer hwriter
        rcases List.mem_append.mp hwriter with hold | hnew
        · exact hframe.writers writer hold
        · obtain rfl := List.mem_singleton.mp hnew
          exact Or.inr ⟨_, rfl, rfl, rfl⟩
      · intro slot writer hwriter
        by_cases hsame : slot = running.input.slotIndex
        · subst hsame
          simp only [Function.update_self] at hwriter
          obtain rfl := Option.some.inj hwriter
          exact ⟨List.mem_append_right _ (List.mem_singleton_self _), hindex⟩
        · simp only [Function.update_of_ne hsame] at hwriter
          obtain ⟨hwrote, hslotOf⟩ := hs.rings slot writer hwriter
          exact ⟨List.mem_append_left _ hwrote, hslotOf⟩
      · intro writer hwriter
        rcases List.mem_append.mp hwriter with hold | hnew
        · by_cases hsame : slotOf writer = running.input.slotIndex
          · refine ⟨running.input.schedule.step, ?_, Nat.le_of_lt (hbefore writer hold)⟩
            simp only [hsame, Function.update_self]
            rfl
          · obtain ⟨last, hlast, hle⟩ := hs.latest writer hold
            refine ⟨last, ?_, hle⟩
            simp only [Function.update_of_ne hsame]
            exact hlast
        · obtain rfl := List.mem_singleton.mp hnew
          refine ⟨running.input.schedule.step, ?_, Nat.le_refl _⟩
          rw [← hindex]
          simp only [Function.update_self]
          rfl

theorem BufferInvariant.putSamplingOutput (hs : BufferInvariant s)
    (h : bufferStep merge s .putSamplingOutput = .ok t) : BufferInvariant t := by
  rw [bufferStep] at h
  cases hrunning : s.executing with
  | none =>
    rw [hrunning] at h
    cases h
  | some running =>
    rw [hrunning] at h
    obtain ⟨-, h⟩ := check_bind_ok h
    obtain rfl := Except.ok.inj h
    have hstep := hs.executing_step hrunning
    have hnum : s.preparedNum = s.executedNum + 1 + s.modelInputQueue.length := by
      rw [BufferState.preparedNum, hrunning, Option.toList_some, List.length_singleton]
    have hexecuted : s.history.processedNum + s.reported.length +
        (s.samplingOutputQueue ++ [running.input.schedule]).length = s.executedNum + 1 := by
      rw [BufferState.executedNum, List.length_append, List.length_singleton]
      omega
    refine { hs with
      order := ?_, executed := ?_, prepared := ?_, flipped := ?_, handed := ?_, other := ?_,
      writers := ?_ }
    · rw [← hs.order, BufferState.inFlight, BufferState.inFlight, hrunning]
      simp
    · show s.history.executed ++ [running.input.schedule.step] = List.range (_ + _ + _)
      rw [hexecuted, List.range_succ, hs.executed, hstep]
    · rw [hs.prepared, hnum, ← hexecuted]
      rfl
    · rw [hs.flipped, hnum, ← hexecuted]
      rfl
    · intro other hother
      refine hs.handed other ?_
      rw [hrunning]
      exact List.mem_cons_of_mem _ hother
    · intro other hother
      cases hother
    · intro writer hwriter
      refine Or.inl ?_
      show writer < s.history.processedNum + s.reported.length + _
      rw [hexecuted]
      rcases hs.writers writer hwriter with hdone | ⟨last, hlast, -, rfl⟩
      · omega
      · obtain rfl : running = last := Option.some.inj (hrunning.symm.trans hlast)
        omega

theorem BufferInvariant.reportSamplingOutput (hs : BufferInvariant s)
    (h : bufferStep merge s .reportSamplingOutput = .ok t) : BufferInvariant t := by
  rw [bufferStep] at h
  cases hqueue : s.samplingOutputQueue with
  | nil =>
    rw [hqueue] at h
    cases h
  | cons schedule rest =>
    rw [hqueue] at h
    obtain rfl := Except.ok.inj h
    have hexecuted : s.history.processedNum + (s.reported ++ [schedule]).length + rest.length =
        s.executedNum := by
      rw [BufferState.executedNum, hqueue, List.length_append, List.length_singleton,
        List.length_cons]
      omega
    refine { hs with order := ?_, executed := ?_, prepared := ?_, flipped := ?_, writers := ?_ }
    · rw [← hs.order, BufferState.inFlight, BufferState.inFlight, hqueue]
      simp
    · rw [hs.executed, ← hexecuted]
      rfl
    · rw [hs.prepared, BufferState.preparedNum, ← hexecuted]
      rfl
    · rw [hs.flipped, BufferState.preparedNum, ← hexecuted]
      rfl
    · rw [BufferState.executedNum, hexecuted]
      exact hs.writers

theorem BufferInvariant.updateWithGenerationResult (hs : BufferInvariant s)
    (h : bufferStep merge s .updateWithGenerationResult = .ok t) : BufferInvariant t := by
  rw [bufferStep] at h
  cases hqueue : s.reported with
  | nil =>
    rw [hqueue] at h
    cases h
  | cons schedule rest =>
    rw [hqueue] at h
    obtain rfl := Except.ok.inj h
    have horder := hs.order
    rw [BufferState.inFlight, hqueue, List.cons_append, List.map_cons, List.cons_append,
      List.cons_append, List.cons_append] at horder
    obtain ⟨count, hcount⟩ : ∃ count, s.executorPipelineDepth = count + 1 := by
      refine Nat.exists_eq_succ_of_ne_zero fun hzero => ?_
      rw [hzero] at horder
      cases horder
    rw [hcount, List.range'_succ] at horder
    obtain ⟨-, horder⟩ := List.cons.inj horder
    have hdepth : Executor.updateWithGenerationResult true s.executorPipelineDepth = count := by
      rw [Executor.updateWithGenerationResult, if_pos ⟨rfl, by omega⟩, hcount]
      rfl
    have hexecuted : s.history.processedNum + 1 + rest.length + s.samplingOutputQueue.length =
        s.executedNum := by
      rw [BufferState.executedNum, hqueue, List.length_cons]
      omega
    have hbounded := hs.bounded
    have hlaunched := hs.depth
    rw [hdepth]
    refine { hs with
      depth := ?_, bounded := ?_, order := horder, executed := ?_, prepared := ?_, flipped := ?_,
      writers := ?_ }
    · show s.history.launchedNum = s.history.processedNum + 1 + count
      omega
    · show count ≤ _
      omega
    · rw [hs.executed, ← hexecuted]
      rfl
    · rw [hs.prepared, BufferState.preparedNum, ← hexecuted]
      rfl
    · rw [hs.flipped, BufferState.preparedNum, ← hexecuted]
      rfl
    · rw [BufferState.executedNum, hexecuted]
      exact hs.writers

theorem BufferInvariant.step {op : BufferOp} (hs : BufferInvariant s)
    (h : bufferStep merge s op = .ok t) : BufferInvariant t := by
  cases op with
  | tryToLaunch planned => exact hs.tryToLaunch h
  | getSchedule reqs => exact hs.getSchedule h
  | prepareModelInputGpu => exact hs.prepareModelInputGpu h
  | getModelInput => exact hs.getModelInput h
  | forward => exact hs.forward h
  | postprocess reqs sampledAt => exact hs.postprocess h
  | putSamplingOutput => exact hs.putSamplingOutput h
  | reportSamplingOutput => exact hs.reportSamplingOutput h
  | updateWithGenerationResult => exact hs.updateWithGenerationResult h

omit [DraftTokensApi] in
theorem BufferInvariant.of_start (inputs : Nat → ModelInput) (slots : Nat → SamplerSlot sampler) :
    BufferInvariant (BufferState.start inputs slots) where
  depth := rfl
  bounded := Nat.zero_le _
  order := rfl
  executed := rfl
  prepared := rfl
  flipped := rfl
  slots := fun _ hinput => by cases hinput
  handed := fun _ hinput => by cases hinput
  other := fun _ hrunning => by cases hrunning
  writers := fun _ hwriter => by cases hwriter
  rings := fun _ _ hwriter => by cases hwriter
  latest := fun _ hwriter => by cases hwriter

/-- Whatever the threads do in whatever order, the two buffers are enough for the steps that
overlap. -/
theorem double_buffer_safe (merge : ScheduleOutput → ScheduleOutput) (inputs : Nat → ModelInput)
    (slots : Nat → SamplerSlot sampler) (ops : List BufferOp)
    (hrun : exec (bufferStep merge) (BufferState.start inputs slots) ops = .ok s) :
    DoubleBufferSafe s :=
  (exec_invariant (I := BufferInvariant) (fun _ _ _ hs h => hs.step h) (.of_start inputs slots)
    hrun).safe

end Actions

/-- The copies of two decode steps. -/
def forwardReqsSample : List ForwardRequest :=
  decodeBatchSample.map buildForwardRequestFromInferRequest

/-- Step 1 is launched and prepared while step 0 executes; step 2 is launched when the result of
step 0 is back, and Preprocess is about to fill the slot of step 0 for it. -/
def overlappingOps : List BufferOp :=
  [.tryToLaunch freshOutputSample, .getSchedule forwardReqsSample, .prepareModelInputGpu,
    .getModelInput, .tryToLaunch freshOutputSample, .forward, .getSchedule forwardReqsSample,
    .tryToLaunch freshOutputSample, .postprocess decodeBatchSample fun _ => 9,
    .prepareModelInputGpu, .putSamplingOutput, .getModelInput, .reportSamplingOutput,
    .updateWithGenerationResult, .tryToLaunch freshOutputSample, .getSchedule forwardReqsSample]

theorem double_buffer_safe_sample :
    letI := concatDraftTokens
    ∃ s, exec (bufferStep id) (BufferState.start (fun _ => {}) fun _ => staleSlot samplerSample)
        overlappingOps = .ok s ∧
      s.history.launchedNum = 3 ∧ s.executorPipelineDepth = 2 ∧ DoubleBufferSafe s := by
  let _ := concatDraftTokens
  have hvalues : (exec (bufferStep id)
      (BufferState.start (fun _ => {}) fun _ => staleSlot samplerSample) overlappingOps).map
        (fun s => (s.history.launchedNum, s.executorPipelineDepth)) = .ok (3, 2) := by decide +kernel
  cases hrun : exec (bufferStep id)
      (BufferState.start (fun _ => {}) fun _ => staleSlot samplerSample) overlappingOps with
  | error message =>
    rw [hrun] at hvalues
    cases hvalues
  | ok s =>
    rw [hrun] at hvalues
    obtain ⟨hlaunched, hdepth⟩ := Prod.mk.inj (Except.ok.inj hvalues)
    exact ⟨s, rfl, hlaunched, hdepth, double_buffer_safe id _ _ overlappingOps hrun⟩

end KsanaBuildAhead.Executor
