import KsanaBuildAhead.Engine.SampledSteps
import KsanaBuildAhead.Executor.MtpAgreement
import KsanaBuildAhead.Executor.SamplerInputs
import KsanaBuildAhead.Runtime.WireRoundTrip

/-!
# The Sampler on both paths

Without MTP nothing on the host replaces a placeholder before the Sampler reads the tokens. The
two paths hand it the same requests, the placeholders at the end of the steps launched ahead
apart, and they build the same vectors as long as none of these is read.
-/
namespace KsanaBuildAhead.Executor

open KsanaBuildAhead.Runtime KsanaBuildAhead.Engine KsanaBuildAhead.Lib.Execution

section Runs

variable {maxVocabSize : Nat} {sent real : Nat → SamplerRequest} {ahead : Nat → Prop}

theorem samplerRun_cons {ngramDict : NgramDict} {req : SamplerRequest} {reqs : List SamplerRequest}
    {all : List SamplerInputs} :
    samplerRun maxVocabSize ngramDict (req :: reqs) = some all ↔
      ∃ inputs dict rest, prepareTokenInputs maxVocabSize req ngramDict = some (inputs, dict) ∧
        samplerRun maxVocabSize dict reqs = some rest ∧ all = inputs :: rest := by
  rw [samplerRun]
  constructor
  · intro h
    obtain ⟨⟨inputs, dict⟩, hinputs, h⟩ := Option.bind_eq_some_iff.mp h
    obtain ⟨rest, hrest, h⟩ := Option.bind_eq_some_iff.mp h
    exact ⟨inputs, dict, rest, hinputs, hrest, (Option.some.inj h).symm⟩
  · intro h
    obtain ⟨inputs, dict, rest, hinputs, hrest, rfl⟩ := h
    exact Option.bind_eq_some_iff.mpr ⟨(inputs, dict), hinputs,
      Option.bind_eq_some_iff.mpr ⟨rest, hrest, rfl⟩⟩

/-- With the same dictionary to start from, two sequences of requests read the same exactly when
no request with a placeholder has it read. -/
theorem samplerRun_agree_iff (ks : List Nat) (ngramDict : NgramDict)
    (hdict : DictInVocab maxVocabSize ngramDict)
    (hreal : ∀ k, RealRequest maxVocabSize (real k))
    (hahead : ∀ k ∈ ks, ahead k → Placeholds (sent k) (real k))
    (hsame : ∀ k ∈ ks, ¬ ahead k → sent k = real k) :
    (∃ inputs, samplerRun maxVocabSize ngramDict (ks.map sent) = some inputs ∧
        samplerRun maxVocabSize ngramDict (ks.map real) = some inputs) ↔
      ∀ k ∈ ks, ahead k → ¬ ReadsLastToken (real k).samplingConfig (real k).inputTokens.length
        (real k).forwardingTokens.length := by
  induction ks generalizing ngramDict with
  | nil => exact ⟨fun _ _ h => absurd h List.not_mem_nil, fun _ => ⟨[], rfl, rfl⟩⟩
  | cons k ks ih =>
    obtain ⟨haheadHead, haheadTail⟩ := List.forall_mem_cons.mp hahead
    obtain ⟨hsameHead, hsameTail⟩ := List.forall_mem_cons.mp hsame
    obtain ⟨inputs, dict, hinputs, hkept⟩ := prepareTokenInputs_real (hreal k) hdict
    have hrest := ih dict hkept haheadTail hsameTail
    have hunread : (ahead k → ¬ ReadsLastToken (real k).samplingConfig (real k).inputTokens.length
        (real k).forwardingTokens.length) →
          prepareTokenInputs maxVocabSize (sent k) ngramDict = some (inputs, dict) := by
      intro hnone
      by_cases hk : ahead k
      · rw [(haheadHead hk).unread (hnone hk), hinputs]
      · rw [hsameHead hk, hinputs]
    rw [List.forall_mem_cons, List.map_cons, List.map_cons]
    constructor
    · intro hagree
      obtain ⟨all, hsentRun, hrealRun⟩ := hagree
      obtain ⟨sentInputs, sentDict, sentRest, hsentInputs, hsentRest, rfl⟩ :=
        samplerRun_cons.mp hsentRun
      obtain ⟨realInputs, realDict, realRest, hrealInputs, hrealRest, heq⟩ :=
        samplerRun_cons.mp hrealRun
      obtain ⟨rfl, rfl⟩ := List.cons.inj heq
      obtain ⟨rfl, rfl⟩ := Prod.mk.inj (Option.some.inj (hinputs.symm.trans hrealInputs))
      have hnone : ahead k → ¬ ReadsLastToken (real k).samplingConfig (real k).inputTokens.length
          (real k).forwardingTokens.length := fun hk hread =>
        (haheadHead hk).read (hreal k) hread hsentInputs hinputs
      obtain ⟨-, rfl⟩ := Prod.mk.inj (Option.some.inj (hsentInputs.symm.trans (hunread hnone)))
      exact ⟨hnone, hrest.mp ⟨_, hsentRest, hrealRest⟩⟩
    · intro hnone
      obtain ⟨rest, hsentRest, hrealRest⟩ := hrest.mpr hnone.2
      exact ⟨inputs :: rest,
        samplerRun_cons.mpr ⟨inputs, dict, rest, hunread hnone.1, hsentRest, rfl⟩,
        samplerRun_cons.mpr ⟨inputs, dict, rest, hinputs, hrealRest, rfl⟩⟩

end Runs

/-- `BuildSamplingRequest` widens the config of the request it reads, so that later steps find it
widened. -/
def widenForBeams (config : SamplingConfig) : SamplingConfig :=
  if 1 < config.numBeams then
    { config with
      logprobsNum := max config.logprobsNum config.numBeams
      topk := max config.topk config.numBeams }
  else config

theorem widenForBeams_widened (config : SamplingConfig) :
    widenForBeams (widenForBeams config) = widenForBeams config := by
  by_cases hbeams : 1 < config.numBeams
  · simp [widenForBeams, hbeams]
  · simp [widenForBeams, hbeams]

theorem readsLastToken_widened (config : SamplingConfig) (inputTokenNum tokenNum : Nat) :
    ReadsLastToken (widenForBeams config) inputTokenNum tokenNum ↔
      ReadsLastToken config inputTokenNum tokenNum := by
  unfold widenForBeams
  split
  · exact Iff.rfl
  · exact Iff.rfl

/-- What of a launch the Sampler reads, as the Executor has received it. -/
structure SamplerReceives (launched : InferRequest) (req : ExecutorInferRequest) : Prop where
  inputTokens : req.inputTokens = launched.inputTokens
  forwardingTokens : req.forwardingTokens = launched.forwardingTokens
  samplingTokenNum : req.samplingTokenNum = launched.samplingTokenNum
  lastStepTokenNum : req.lastStepTokenNum = launched.lastStepTokenNum
  samplingConfig : widenForBeams req.samplingConfig = widenForBeams launched.samplingConfig

theorem samplerReceives_full {launched live : InferRequest} (api : SerializationApi)
    (snap : InferRequestSerializationSnapshot) (usePlaceholder : Bool)
    (hpayload : live.toRequestPayload = launched.toRequestPayload) :
    SamplerReceives launched
      (transmittedRequest api (some (snap.capture launched usePlaceholder)) live) where
  inputTokens := congrArg RequestPayload.inputTokens hpayload
  forwardingTokens := rfl
  samplingTokenNum := rfl
  lastStepTokenNum := congrArg RequestPayload.lastStepTokenNum hpayload
  samplingConfig := congrArg widenForBeams (congrArg RequestPayload.samplingConfig hpayload)

/-- A patch brings the tokens of the step; the rest is what an earlier step of the request has
brought. -/
theorem samplerReceives_patch {earlier launched live : InferRequest} {cached : ExecutorInferRequest}
    (snap : InferRequestSerializationSnapshot) (usePlaceholder : Bool)
    (hcached : SamplerReceives earlier cached)
    (hpayload : launched.toRequestPayload = earlier.toRequestPayload) :
    SamplerReceives launched (overwriteByPatch
      (buildPatch (some (snap.capture launched usePlaceholder)) live) cached) where
  inputTokens := hcached.inputTokens.trans (congrArg RequestPayload.inputTokens hpayload).symm
  forwardingTokens := rfl
  samplingTokenNum := rfl
  lastStepTokenNum :=
    hcached.lastStepTokenNum.trans (congrArg RequestPayload.lastStepTokenNum hpayload).symm
  samplingConfig := hcached.samplingConfig.trans
    (congrArg widenForBeams (congrArg RequestPayload.samplingConfig hpayload)).symm

theorem SamplerReceives.widen {launched : InferRequest} {req : ExecutorInferRequest}
    (h : SamplerReceives launched req) :
    SamplerReceives launched { req with samplingConfig := widenForBeams req.samplingConfig } :=
  { h with samplingConfig := (widenForBeams_widened _).trans h.samplingConfig }

/-- The first `n` sampled steps of a run, as the Executor receives them. -/
def ReceivesSteps (run : SampledRun) (n : Nat) (received : Nat → ExecutorInferRequest) : Prop :=
  ∀ k < n, ∃ step, run.steps[k]? = some step ∧ SamplerReceives step.launched (received k)

/-- What the Sampler takes from the tokens of the first `n` steps. -/
def samplerInputs (maxVocabSize : Nat) (ngramDict : NgramDict)
    (received : Nat → ExecutorInferRequest) (n : Nat) : Option (List SamplerInputs) :=
  samplerRun maxVocabSize ngramDict
    ((List.range n).map fun (k : Nat) => buildSamplingRequest (received k) true)

def AheadAt (run : SampledRun) (k : Nat) : Prop :=
  ∃ step, run.steps[k]? = some step ∧ step.launchedAhead = true

/-- None of the first `n` steps that is launched ahead reads its last token. Step `k` has `k`
tokens behind those of the start. -/
def AheadUnread (start : InferRequest) (run : SampledRun) (n : Nat) : Prop :=
  ∀ k < n, AheadAt run k →
    ¬ ReadsLastToken start.samplingConfig start.inputTokens.length (start.outputTokens.length + k)

/-- The request the Sampler is to see of step `k`: everything produced so far. -/
def producedRequest (start : InferRequest) (tokens : Nat → Int) (k : Nat) : SamplerRequest where
  inputTokens := start.inputTokens
  forwardingTokens := producedTokens start.outputTokens tokens k
  samplingTokenNum := kStepGenerateTokenNum
  lastStepTokenNum := start.lastStepTokenNum
  samplingConfig := widenForBeams start.samplingConfig
  enableMtpSampler := false

section Agreement

variable {start : InferRequest} {tokens : Nat → Int} {maxVocabSize k : Nat} {step : SampledStep}
  {received : ExecutorInferRequest}

theorem buildSamplingRequest_received (hstep : SampledAs start tokens k step)
    (hreceived : SamplerReceives step.launched received) :
    buildSamplingRequest received true = { producedRequest start tokens k with
      forwardingTokens := step.launched.forwardingTokens } := by
  have hinput : received.inputTokens = start.inputTokens :=
    hreceived.inputTokens.trans (congrArg RequestPayload.inputTokens hstep.payload)
  have hlast : received.lastStepTokenNum = start.lastStepTokenNum :=
    hreceived.lastStepTokenNum.trans (congrArg RequestPayload.lastStepTokenNum hstep.payload)
  have hconfig : widenForBeams received.samplingConfig = widenForBeams start.samplingConfig :=
    hreceived.samplingConfig.trans
      (congrArg widenForBeams (congrArg RequestPayload.samplingConfig hstep.payload))
  have hsampling := hreceived.samplingTokenNum.trans hstep.sampling
  rw [producedRequest, ← hconfig, ← hinput, ← hlast, ← hsampling, ← hreceived.forwardingTokens]
  rfl

theorem producedRequest_real (hprompt : start.inputTokens <+: start.outputTokens)
    (hinput : start.inputTokens ≠ [])
    (houtput : ∀ token ∈ start.outputTokens, InVocab maxVocabSize token)
    (htokens : ∀ k, InVocab maxVocabSize (tokens k))
    (hlast : start.lastStepTokenNum = kStepGenerateTokenNum) (k : Nat) :
    RealRequest maxVocabSize (producedRequest start tokens k) where
  input := hinput
  inputVocab := fun token hmem => houtput token (hprompt.subset hmem)
  tokens := by
    intro token hmem
    rcases List.mem_append.mp hmem with hold | hnew
    · exact houtput token hold
    · obtain ⟨j, -, rfl⟩ := List.mem_map.mp hnew
      exact htokens j
  lastStep := hlast
  sampled := Nat.one_pos
  main := rfl

theorem request_of_real (hstep : SampledAs start tokens k step)
    (hreceived : SamplerReceives step.launched received) (hreal : step.launchedAhead = false) :
    buildSamplingRequest received true = producedRequest start tokens k := by
  rw [buildSamplingRequest_received hstep hreceived, hstep.real hreal]
  rfl

theorem request_of_ahead (hstep : SampledAs start tokens k step)
    (hreceived : SamplerReceives step.launched received) (hahead : step.launchedAhead = true)
    (hprompt : start.inputTokens <+: start.outputTokens) :
    Placeholds (buildSamplingRequest received true) (producedRequest start tokens k) := by
  obtain ⟨hpositive, hforwarding⟩ := hstep.ahead hahead
  obtain ⟨j, rfl⟩ := Nat.exists_eq_succ_of_ne_zero (Nat.ne_of_gt hpositive)
  have hcut : (producedRequest start tokens (j + 1)).forwardingTokens.dropLast =
      producedTokens start.outputTokens tokens j := by
    rw [producedRequest, producedTokens_succ, List.dropLast_concat]
  constructor
  · rw [buildSamplingRequest_received hstep hreceived, hforwarding, Nat.succ_sub_one, hcut]
  · show start.inputTokens.length < (producedTokens start.outputTokens tokens (j + 1)).length
    rw [producedTokens_length]
    have hle := hprompt.length_le
    omega

/-- A run whose steps are launched with what is produced, placeholders apart, hands the Sampler
what it is to see exactly when no placeholder is read. -/
theorem samplerInputs_agree_iff {run : SampledRun} {ngramDict : NgramDict}
    (hsteps : ∀ k step, run.steps[k]? = some step → SampledAs start tokens k step)
    (hprompt : start.inputTokens <+: start.outputTokens) (hinput : start.inputTokens ≠ [])
    (houtput : ∀ token ∈ start.outputTokens, InVocab maxVocabSize token)
    (htokens : ∀ k, InVocab maxVocabSize (tokens k))
    (hlast : start.lastStepTokenNum = kStepGenerateTokenNum)
    (hdict : DictInVocab maxVocabSize ngramDict) {n : Nat}
    {received : Nat → ExecutorInferRequest} (hreceived : ReceivesSteps run n received) :
    (∃ inputs, samplerInputs maxVocabSize ngramDict received n = some inputs ∧
        samplerRun maxVocabSize ngramDict
          ((List.range n).map fun (k : Nat) => producedRequest start tokens k) = some inputs) ↔
      AheadUnread start run n := by
  have hahead : ∀ k ∈ List.range n, AheadAt run k →
      Placeholds (buildSamplingRequest (received k) true) (producedRequest start tokens k) := by
    intro k hk hahead
    obtain ⟨step, hstep, hflag⟩ := hahead
    obtain ⟨same, hsame, hreceives⟩ := hreceived k (List.mem_range.mp hk)
    obtain rfl := Option.some.inj (hstep.symm.trans hsame)
    exact request_of_ahead (hsteps k step hstep) hreceives hflag hprompt
  have hreal : ∀ k ∈ List.range n, ¬ AheadAt run k →
      buildSamplingRequest (received k) true = producedRequest start tokens k := by
    intro k hk hreal
    obtain ⟨step, hstep, hreceives⟩ := hreceived k (List.mem_range.mp hk)
    exact request_of_real (hsteps k step hstep) hreceives
      (eq_false_of_ne_true fun hflag => hreal ⟨step, hstep, hflag⟩)
  rw [samplerInputs, samplerRun_agree_iff (List.range n) ngramDict hdict
    (producedRequest_real hprompt hinput houtput htokens hlast) hahead hreal]
  have hread : ∀ k, ReadsLastToken (producedRequest start tokens k).samplingConfig
      (producedRequest start tokens k).inputTokens.length
        (producedRequest start tokens k).forwardingTokens.length ↔
      ReadsLastToken start.samplingConfig start.inputTokens.length
        (start.outputTokens.length + k) := by
    intro k
    rw [← producedTokens_length]
    exact readsLastToken_widened _ _ _
  simp only [hread, List.mem_range]
  exact Iff.rfl

/-- In runs of both paths that return the same tokens, without draft slots and with every token
handed on, the Sampler takes the same from the tokens of the steps both have exactly when no step
launched ahead reads its last token. Then nothing it indexes with is outside the vocabulary, also
in a step the slow path does not have. -/
theorem sampler_reads_alike_iff [DraftTokensApi] {cached slowCached : Nat}
    {fastActions slowActions : List RequestAction} {fast slow : SampledRun}
    (hprompt : start.inputTokens <+: start.outputTokens) (hinput : start.inputTokens ≠ [])
    (houtput : ∀ token ∈ start.outputTokens, InVocab maxVocabSize token)
    (htokens : ∀ k, InVocab maxVocabSize (tokens k))
    (hlast : start.lastStepTokenNum = kStepGenerateTokenNum)
    (hcached : cached < start.outputTokens.length)
    (hslowCached : slowCached < start.outputTokens.length)
    (hfastSteps : EachStep (sampledStep true)
      (fun s action => SamplesTokens tokens s action ∧ HandsTokenOn s.req action)
      { req := admitted start cached } fastActions)
    (hfast : exec (sampledStep true) { req := admitted start cached } fastActions = .ok fast)
    (hslowSteps : EachStep (sampledStep false) (SamplesTokens tokens)
      { req := admitted start slowCached } slowActions)
    (hslow : exec (sampledStep false) { req := admitted start slowCached } slowActions = .ok slow)
    {ngramDict : NgramDict} (hdict : DictInVocab maxVocabSize ngramDict)
    (fastReceived slowReceived : Nat → ExecutorInferRequest) :
    (∀ n, ReceivesSteps fast n fastReceived → AheadUnread start fast n →
      ∃ inputs, samplerInputs maxVocabSize ngramDict fastReceived n = some inputs) ∧
    ∀ n, ReceivesSteps fast n fastReceived → ReceivesSteps slow n slowReceived →
      ((∃ inputs, samplerInputs maxVocabSize ngramDict fastReceived n = some inputs ∧
          samplerInputs maxVocabSize ngramDict slowReceived n = some inputs) ↔
        AheadUnread start fast n) := by
  have hfastRun := sampledRun_invariant hcached hfastSteps hfast
  have hslowRun := slowRun_invariant hslowCached hslowSteps hslow
  have hagree := fun (n : Nat) (hreceived : ReceivesSteps fast n fastReceived) =>
    samplerInputs_agree_iff hfastRun.steps hprompt hinput houtput htokens hlast hdict hreceived
  refine ⟨?_, ?_⟩
  · intro n hreceived hunread
    obtain ⟨inputs, hinputs, -⟩ := (hagree n hreceived).mpr hunread
    exact ⟨inputs, hinputs⟩
  · intro n hreceived hslowReceived
    have hslowInputs : samplerInputs maxVocabSize ngramDict slowReceived n =
        samplerRun maxVocabSize ngramDict
          ((List.range n).map fun (k : Nat) => producedRequest start tokens k) := by
      refine congrArg (samplerRun maxVocabSize ngramDict) (List.map_congr_left fun k hk => ?_)
      obtain ⟨step, hstep, hreceives⟩ := hslowReceived k (List.mem_range.mp hk)
      exact request_of_real (hslowRun.steps k step hstep) hreceives
        (hslowRun.real step (List.mem_of_getElem? hstep))
    rw [hslowInputs]
    exact hagree n hreceived

end Agreement

/-- What the launch of a step captured. -/
def stepSnapshot (step : SampledStep) : InferRequestSerializationSnapshot :=
  InferRequestSerializationSnapshot.capture {} step.launched step.launchedAhead

/-- The request the Executor holds at each sampled step: the first one travels in full, every
further one as a patch over what the Sampler of the step before has left. -/
def receivedSteps (api : SerializationApi) (run : SampledRun) : Nat → ExecutorInferRequest
  | 0 =>
    match run.steps[0]? with
    | some step => transmittedRequest api (some (stepSnapshot step)) step.launched
    | none => { reqId := 0 }
  | k + 1 =>
    let cached := receivedSteps api run k
    match run.steps[k + 1]? with
    | some step => overwriteByPatch (buildPatch (some (stepSnapshot step)) step.launched)
        { cached with samplingConfig := widenForBeams cached.samplingConfig }
    | none => cached

theorem receivesSteps_received (api : SerializationApi) {start : InferRequest}
    {tokens : Nat → Int} {run : SampledRun}
    (hsteps : ∀ k step, run.steps[k]? = some step → SampledAs start tokens k step) {n : Nat}
    (hn : n ≤ run.steps.length) : ReceivesSteps run n (receivedSteps api run) := by
  intro k hk
  induction k with
  | zero =>
    have hstep := List.getElem?_eq_getElem (Nat.lt_of_lt_of_le hk hn)
    refine ⟨run.steps[0], hstep, ?_⟩
    rw [receivedSteps, hstep]
    exact samplerReceives_full api _ _ rfl
  | succ k ih =>
    obtain ⟨before, hbefore, hcached⟩ := ih (Nat.lt_of_succ_lt hk)
    have hstep := List.getElem?_eq_getElem (Nat.lt_of_lt_of_le hk hn)
    refine ⟨run.steps[k + 1], hstep, ?_⟩
    rw [receivedSteps, hstep]
    exact samplerReceives_patch _ _ hcached.widen
      ((hsteps _ _ hstep).payload.trans (hsteps _ _ hbefore).payload.symm)

/-- A prompt of two tokens, sampled with `config`. -/
def sampledStart (config : SamplingConfig) : InferRequest where
  reqId := 7
  inputTokens := [11, 12]
  outputTokens := [11, 12]
  samplingConfig := config

def sampledTokens (k : Nat) : Int := (20 + k % 4 : Nat)

/-- The prefill and two decode steps, each launched behind the one before. -/
def aheadActions : List RequestAction :=
  [.plan { prefillTokenNum := 2 }, .launch, .plan { generatedTokenNum := 1 }, .launch,
    .retire { generatedTokens := [20] }, .plan { generatedTokenNum := 1 }, .launch,
    .retire { generatedTokens := [21] }]

/-- The same steps, each retired before the next. -/
def oneByOneActions : List RequestAction :=
  [.plan { prefillTokenNum := 2 }, .launch, .retire { generatedTokens := [20] },
    .plan { generatedTokenNum := 1 }, .launch, .retire { generatedTokens := [21] },
    .plan { generatedTokenNum := 1 }, .launch]

theorem sampledTokens_inVocab (k : Nat) : InVocab 32 (sampledTokens k) := by
  unfold InVocab sampledTokens
  omega

theorem dictInVocab_empty (maxVocabSize : Nat) : DictInVocab maxVocabSize ∅ :=
  fun _ _ hmem => absurd hmem List.not_mem_nil

theorem ends_of_values {α β γ : Type} {first : Except String α} {second : Except String β}
    {read : α → β → γ} {values : γ}
    (h : (first.bind fun a => second.map (read a)) = .ok values) :
    ∃ a b, first = .ok a ∧ second = .ok b ∧ read a b = values := by
  obtain ⟨a, hfirst, h⟩ := bind_ok h
  cases hsecond : second with
  | error message =>
    rw [hsecond] at h
    cases h
  | ok b =>
    rw [hsecond] at h
    exact ⟨a, b, hfirst, rfl, Except.ok.inj h⟩

/-- A vector of the vocabulary with one value at some tokens and another everywhere else. -/
def vocabVector (base value : UInt32) (tokens : List Nat) : List UInt32 :=
  tokens.foldl (fun vector token => vector.set token value) (List.replicate 32 base)

/-- Three steps of both paths run, the fast ones by `actions`, and the Sampler takes `inputs` from
the tokens of either. -/
def SampledAlike [DraftTokensApi] (config : SamplingConfig) (actions : List RequestAction)
    (inputs : List SamplerInputs) : Prop :=
  ∃ fast slow,
    exec (sampledStep true) { req := admitted (sampledStart config) 0 } actions = .ok fast ∧
    exec (sampledStep false) { req := admitted (sampledStart config) 0 } oneByOneActions =
      .ok slow ∧
    samplerInputs 32 ∅ (receivedSteps littleEndian fast) 3 = some inputs ∧
    samplerInputs 32 ∅ (receivedSteps littleEndian slow) 3 = some inputs

section Sampled

variable [DraftTokensApi] {config : SamplingConfig} {actions : List RequestAction}

/-- Runs of three steps that agree, once the inputs of the slow one are known. -/
theorem sampledAlike_of_values {inputs : List SamplerInputs}
    (hfastSteps : EachStep (sampledStep true)
      (fun s action => SamplesTokens sampledTokens s action ∧ HandsTokenOn s.req action)
      { req := admitted (sampledStart config) 0 } actions)
    (hslowSteps : EachStep (sampledStep false) (SamplesTokens sampledTokens)
      { req := admitted (sampledStart config) 0 } oneByOneActions)
    (hvalues : ((exec (sampledStep true) { req := admitted (sampledStart config) 0 }
        actions).bind fun fast =>
      (exec (sampledStep false) { req := admitted (sampledStart config) 0 }
        oneByOneActions).map fun slow =>
        (fast.steps.length, slow.steps.length,
          samplerInputs 32 ∅ (receivedSteps littleEndian slow) 3)) = .ok (3, 3, some inputs))
    (hagree : ∀ fast slow,
      exec (sampledStep true) { req := admitted (sampledStart config) 0 } actions = .ok fast →
      exec (sampledStep false) { req := admitted (sampledStart config) 0 } oneByOneActions =
        .ok slow →
      ReceivesSteps fast 3 (receivedSteps littleEndian fast) →
      ReceivesSteps slow 3 (receivedSteps littleEndian slow) →
      ∃ inputs, samplerInputs 32 ∅ (receivedSteps littleEndian fast) 3 = some inputs ∧
        samplerInputs 32 ∅ (receivedSteps littleEndian slow) 3 = some inputs) :
    SampledAlike config actions inputs := by
  obtain ⟨fast, slow, hfast, hslow, hread⟩ := ends_of_values hvalues
  obtain ⟨hfastLength, hread⟩ := Prod.mk.inj hread
  obtain ⟨hslowLength, hinputs⟩ := Prod.mk.inj hread
  have hfastRun := sampledRun_invariant (Nat.succ_pos 1) hfastSteps hfast
  have hslowRun := slowRun_invariant (Nat.succ_pos 1) hslowSteps hslow
  obtain ⟨same, hfastInputs, hslowInputs⟩ := hagree fast slow hfast hslow
    (receivesSteps_received littleEndian hfastRun.steps hfastLength.ge)
    (receivesSteps_received littleEndian hslowRun.steps hslowLength.ge)
  obtain rfl := Option.some.inj (hslowInputs.symm.trans hinputs)
  exact ⟨fast, slow, hfast, hslow, hfastInputs, hslowInputs⟩

end Sampled

/-- The tokens of the prompt are banned. -/
def promptBans : SamplingConfig where
  repetitionPenalty := kFloatOne
  encoderNoRepeatNgramSize := 1

/-- Every token so far is banned and penalized. -/
def bansAndPenalty : SamplingConfig where
  repetitionPenalty := 0x3F99999A
  noRepeatNgramSize := 1

/-- Steps launched ahead with bans taken from the prompt, and steps launched one by one with a
penalty and bans on every token so far. -/
theorem sampler_reads_alike_sample :
    letI := concatDraftTokens
    SampledAlike promptBans aheadActions
      (List.replicate 3
        { repetitionPenalties := none
          ban := some ⟨[], some (vocabVector 0 kFloatNegInfinity [11, 12])⟩ }) ∧
    SampledAlike bansAndPenalty oneByOneActions
      [ { repetitionPenalties := some (vocabVector kFloatOne 0x3F99999A [12])
          ban := some ⟨[], some (vocabVector 0 kFloatNegInfinity [11, 12])⟩ },
        { repetitionPenalties := some (vocabVector kFloatOne 0x3F99999A [12, 20])
          ban := some ⟨[], some (vocabVector 0 kFloatNegInfinity [11, 12, 20])⟩ },
        { repetitionPenalties := some (vocabVector kFloatOne 0x3F99999A [12, 20, 21])
          ban := some ⟨[], some (vocabVector 0 kFloatNegInfinity [11, 12, 20, 21])⟩ } ] := by
  let _ := concatDraftTokens
  constructor
  · have hfastSteps : EachStep (sampledStep true)
        (fun s action => SamplesTokens sampledTokens s action ∧ HandsTokenOn s.req action)
        { req := admitted (sampledStart promptBans) 0 } aheadActions :=
      eachStep_of_check (by decide +kernel)
    have hslowSteps : EachStep (sampledStep false) (SamplesTokens sampledTokens)
        { req := admitted (sampledStart promptBans) 0 } oneByOneActions :=
      eachStep_of_check (by decide +kernel)
    refine sampledAlike_of_values hfastSteps hslowSteps (by decide +kernel) ?_
    intro fast slow hfast hslow hreceived hslowReceived
    have hagree := (sampler_reads_alike_iff (by decide) (by decide) (by decide)
      sampledTokens_inVocab rfl (by decide) (by decide) hfastSteps hfast hslowSteps hslow
      (dictInVocab_empty 32) _ _).2 3 hreceived hslowReceived
    refine hagree.mpr ?_
    intro k _ _
    simp [ReadsLastToken, sampledStart, promptBans]
  · have hfastSteps : EachStep (sampledStep true)
        (fun s action => SamplesTokens sampledTokens s action ∧ HandsTokenOn s.req action)
        { req := admitted (sampledStart bansAndPenalty) 0 } oneByOneActions :=
      eachStep_of_check (by decide +kernel)
    have hslowSteps : EachStep (sampledStep false) (SamplesTokens sampledTokens)
        { req := admitted (sampledStart bansAndPenalty) 0 } oneByOneActions :=
      eachStep_of_check (by decide +kernel)
    refine sampledAlike_of_values hfastSteps hslowSteps (by decide +kernel) ?_
    intro fast slow hfast hslow hreceived hslowReceived
    have hagree := (sampler_reads_alike_iff (by decide) (by decide) (by decide)
      sampledTokens_inVocab rfl (by decide) (by decide) hfastSteps hfast hslowSteps hslow
      (dictInVocab_empty 32) _ _).2 3 hreceived hslowReceived
    refine hagree.mpr ?_
    -- every step is launched after the one before has retired
    have hflags : (exec (sampledStep true) { req := admitted (sampledStart bansAndPenalty) 0 }
        oneByOneActions).map (fun run => run.steps.map SampledStep.launchedAhead) =
        .ok [false, false, false] := by decide +kernel
    rw [hfast] at hflags
    have hnone : fast.steps.map SampledStep.launchedAhead = [false, false, false] :=
      Except.ok.inj hflags
    rintro k - ⟨step, hstep, hahead⟩
    have hmem := List.mem_map_of_mem (f := SampledStep.launchedAhead) (List.mem_of_getElem? hstep)
    rw [hnone, hahead] at hmem
    exact absurd hmem (by decide)

/-- The first decode step is launched ahead, with a repetition penalty: the Sampler writes it at
the placeholder. -/
theorem penalty_written_at_placeholder :
    letI := concatDraftTokens
    let start := sampledStart { repetitionPenalty := 0x3F99999A }
    ∃ fast slow,
      exec (sampledStep true) { req := admitted start 0 } aheadActions = .ok fast ∧
      EachStep (sampledStep true)
        (fun s action => SamplesTokens sampledTokens s action ∧ HandsTokenOn s.req action)
        { req := admitted start 0 } aheadActions ∧
      exec (sampledStep false) { req := admitted start 0 } oneByOneActions = .ok slow ∧
      EachStep (sampledStep false) (SamplesTokens sampledTokens) { req := admitted start 0 }
        oneByOneActions ∧
      (receivedSteps littleEndian fast 1).forwardingTokens = [11, 12, kFastPathPlaceholderTokenId] ∧
      (receivedSteps littleEndian slow 1).forwardingTokens = [11, 12, 20] ∧
      samplerInputs 32 ∅ (receivedSteps littleEndian fast) 2 = none ∧
      (samplerInputs 32 ∅ (receivedSteps littleEndian slow) 2).isSome = true := by
  let _ := concatDraftTokens
  intro start
  have hvalues : ((exec (sampledStep true) { req := admitted start 0 }
        aheadActions).bind fun fast =>
      (exec (sampledStep false) { req := admitted start 0 } oneByOneActions).map fun slow =>
        ((receivedSteps littleEndian fast 1).forwardingTokens,
          (receivedSteps littleEndian slow 1).forwardingTokens,
          samplerInputs 32 ∅ (receivedSteps littleEndian fast) 2,
          (samplerInputs 32 ∅ (receivedSteps littleEndian slow) 2).isSome)) =
      .ok ([11, 12, kFastPathPlaceholderTokenId], [11, 12, 20], none, true) := by decide +kernel
  obtain ⟨fast, slow, hfast, hslow, hread⟩ := ends_of_values hvalues
  obtain ⟨hfastTokens, hread⟩ := Prod.mk.inj hread
  obtain ⟨hslowTokens, hread⟩ := Prod.mk.inj hread
  obtain ⟨hfastInputs, hslowInputs⟩ := Prod.mk.inj hread
  exact ⟨fast, slow, hfast, eachStep_of_check (by decide +kernel), hslow,
    eachStep_of_check (by decide +kernel), hfastTokens, hslowTokens, hfastInputs, hslowInputs⟩

end KsanaBuildAhead.Executor
