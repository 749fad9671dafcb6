import KsanaBuildAhead.Runtime.ExecutorInferRequest
import Mathlib.Data.List.AList
import Mathlib.Data.List.Forall2
import Mathlib.Tactic.Common

/-!
# What the Sampler reads of the tokens

The repetition penalty and the n-gram bans index host vectors with the tokens of a request. A
write outside a vector is undefined and so is everything after it; `none` stands for that.
-/
namespace KsanaBuildAhead.Executor

open KsanaBuildAhead.Runtime

/-- `1.0f`. -/
def kFloatOne : UInt32 := 0x3F800000

/-- Minus infinity, the bias of a banned token. -/
def kFloatNegInfinity : UInt32 := 0xFF800000

/-- The n-grams of a request: what followed each prefix so far. -/
abbrev NgramDict := AList fun _ : List Int => List Int

structure SamplerRequest where
  inputTokens : List Int := []
  forwardingTokens : List Int := []
  samplingTokenNum : Nat := kStepGenerateTokenNum
  lastStepTokenNum : Nat := kStepGenerateTokenNum
  samplingConfig : SamplingConfig := {}
  enableMtpSampler : Bool := false
deriving Repr, DecidableEq

/-- The part of the sampling request the token processors read. -/
def buildSamplingRequest (req : ExecutorInferRequest) (enableMainLayersSampler : Bool) :
    SamplerRequest where
  inputTokens := req.inputTokens
  forwardingTokens := req.forwardingTokens
  samplingTokenNum := req.samplingTokenNum
  lastStepTokenNum := req.lastStepTokenNum
  samplingConfig :=
    let config := req.samplingConfig
    if 1 < config.numBeams then
      { config with
        logprobsNum := max config.logprobsNum config.numBeams
        topk := max config.topk config.numBeams }
    else config
  enableMtpSampler := !enableMainLayersSampler

/-- The vector the n-gram key bans tokens with, if it bans any. -/
structure BanInputs where
  ngramKey : List Int
  noRepeatNgrams : Option (List UInt32)
deriving Repr, DecidableEq

structure SamplerInputs where
  repetitionPenalties : Option (List UInt32)
  ban : Option BanInputs
deriving Repr, DecidableEq

/-- `vector[index] = value`. -/
def writeAt (value : UInt32) (vector : List UInt32) (index : Int) : Option (List UInt32) :=
  if 0 ≤ index ∧ index < vector.length then some (vector.set index.toNat value) else none

def applyRepetitionPenalty (maxVocabSize : Nat) (inputTokens forwardingTokens : List Int)
    (repetitionPenalty : UInt32) : Option (List UInt32) := do
  let last ← inputTokens.getLast?
  (last :: forwardingTokens.drop inputTokens.length).foldlM (writeAt repetitionPenalty)
    (List.replicate maxVocabSize kFloatOne)

/-- `ngram_dict[all but the last].push_back(last)`. -/
def pushNgram (ngramDict : NgramDict) (ngram : List Int) : NgramDict :=
  ngramDict.insert ngram.dropLast
    ((ngramDict.lookup ngram.dropLast).getD [] ++ [ngram.getLastD 0])

def getNgrams (ngramSize : Nat) (outputTokens : List Int) (ngramDict : NgramDict) : NgramDict :=
  if ngramDict.entries ≠ [] then ngramDict
  else (List.range (outputTokens.length + 1 - ngramSize)).foldl
    (fun dict i => pushNgram dict ((outputTokens.drop i).take ngramSize)) ngramDict

/-- The n-grams the last step has completed. -/
def pushLastNgrams (ngramSize lastStepTokenNum : Nat) (outputTokens : List Int)
    (ngramDict : NgramDict) : Option NgramDict :=
  (List.range lastStepTokenNum).foldlM (fun dict i =>
    if ngramSize + i ≤ outputTokens.length then
      some (pushNgram dict ((outputTokens.drop (outputTokens.length - i - ngramSize)).take ngramSize))
    else none) ngramDict

def banRepeatTokens (maxVocabSize ngramSize : Nat) (outputTokens : List Int)
    (ngramDict : NgramDict) : Option BanInputs :=
  let key := outputTokens.drop (outputTokens.length + 1 - ngramSize)
  match (ngramDict.lookup key).getD [] with
  | [] => some { ngramKey := key, noRepeatNgrams := none }
  | repeatIds => do
    let noRepeatNgrams ←
      repeatIds.foldlM (writeAt kFloatNegInfinity) (List.replicate maxVocabSize 0)
    some { ngramKey := key, noRepeatNgrams := some noRepeatNgrams }

def noRepeatNgramProcessor (maxVocabSize ngramSize : Nat) (req : SamplerRequest)
    (ngramDict : NgramDict) : Option (Option BanInputs × NgramDict) :=
  let outputTokens := req.forwardingTokens
  if outputTokens.length < ngramSize then some (none, ngramDict)
  else do
    let dict ←
      if req.inputTokens.length = outputTokens.length then
        some (getNgrams ngramSize outputTokens ngramDict)
      else if req.inputTokens.length < outputTokens.length then
        pushLastNgrams ngramSize req.lastStepTokenNum outputTokens ngramDict
      else some ngramDict
    let ban ← banRepeatTokens maxVocabSize ngramSize outputTokens dict
    some (some ban, dict)

def encoderNoRepeatNgramProcessor (maxVocabSize ngramSize : Nat) (req : SamplerRequest)
    (ngramDict : NgramDict) : Option (Option BanInputs × NgramDict) :=
  let outputTokens := req.forwardingTokens
  if outputTokens.length < ngramSize then some (none, ngramDict)
  else do
    let dict :=
      if req.inputTokens.length = outputTokens.length then
        getNgrams ngramSize outputTokens ngramDict
      else ngramDict
    let ban ← banRepeatTokens maxVocabSize ngramSize outputTokens dict
    some (some ban, dict)

def decoderNoRepeatNgramProcessor (maxVocabSize ngramSize : Nat) (req : SamplerRequest)
    (ngramDict : NgramDict) : Option (Option BanInputs × NgramDict) :=
  let outputTokens := req.forwardingTokens
  if (outputTokens.length : Int) - req.inputTokens.length < ngramSize then some (none, ngramDict)
  else do
    let dict ← pushLastNgrams ngramSize req.lastStepTokenNum outputTokens ngramDict
    let ban ← banRepeatTokens maxVocabSize ngramSize outputTokens dict
    some (some ban, dict)

/-- The first n-gram processor the request asks for. -/
def applyNgramProcessor (maxVocabSize : Nat) (req : SamplerRequest) (ngramDict : NgramDict) :
    Option (Option BanInputs × NgramDict) :=
  let config := req.samplingConfig
  if req.enableMtpSampler then some (none, ngramDict)
  else if 0 < config.noRepeatNgramSize then
    noRepeatNgramProcessor maxVocabSize config.noRepeatNgramSize.toNat req ngramDict
  else if 0 < config.encoderNoRepeatNgramSize then
    encoderNoRepeatNgramProcessor maxVocabSize config.encoderNoRepeatNgramSize.toNat req ngramDict
  else if 0 < config.decoderNoRepeatNgramSize then
    decoderNoRepeatNgramProcessor maxVocabSize config.decoderNoRepeatNgramSize.toNat req ngramDict
  else some (none, ngramDict)

def repetitionPenalties (maxVocabSize : Nat) (req : SamplerRequest) :
    Option (Option (List UInt32)) :=
  if req.samplingConfig.repetitionPenalty ≠ kFloatOne ∧ 0 < req.samplingTokenNum then
    (applyRepetitionPenalty maxVocabSize req.inputTokens req.forwardingTokens
      req.samplingConfig.repetitionPenalty).map some
  else some none

/-- What `PrepareDeviceLogitsAndParameter` takes from the tokens of one request. -/
def prepareTokenInputs (maxVocabSize : Nat) (req : SamplerRequest) (ngramDict : NgramDict) :
    Option (SamplerInputs × NgramDict) := do
  let penalties ← repetitionPenalties maxVocabSize req
  let (ban, dict) ← applyNgramProcessor maxVocabSize req ngramDict
  some ({ repetitionPenalties := penalties, ban := ban }, dict)

/-- One request step after step, with the dictionary the Executor keeps for it. -/
def samplerRun (maxVocabSize : Nat) : NgramDict → List SamplerRequest → Option (List SamplerInputs)
  | _, [] => some []
  | ngramDict, req :: reqs => do
    let (inputs, dict) ← prepareTokenInputs maxVocabSize req ngramDict
    let rest ← samplerRun maxVocabSize dict reqs
    some (inputs :: rest)

/-- A token id that is an index of the vectors. -/
def InVocab (maxVocabSize : Nat) (token : Int) : Prop := 0 ≤ token ∧ token < maxVocabSize

instance (maxVocabSize : Nat) (token : Int) : Decidable (InVocab maxVocabSize token) :=
  inferInstanceAs (Decidable (_ ∧ _))

def DictInVocab (maxVocabSize : Nat) (ngramDict : NgramDict) : Prop :=
  ∀ key, ∀ token ∈ (ngramDict.lookup key).getD [], InVocab maxVocabSize token

theorem writeAll_iff (value : UInt32) (indices : List Int) (vector : List UInt32) :
    (∃ out, indices.foldlM (writeAt value) vector = some out) ↔
      ∀ index ∈ indices, InVocab vector.length index := by
  induction indices generalizing vector with
  | nil => exact ⟨fun _ _ hmem => absurd hmem List.not_mem_nil, fun _ => ⟨vector, rfl⟩⟩
  | cons index indices ih =>
    rw [List.foldlM_cons, List.forall_mem_cons, writeAt]
    by_cases hin : 0 ≤ index ∧ index < vector.length
    · rw [if_pos hin]
      have hrest := ih (vector.set index.toNat value)
      rw [List.length_set] at hrest
      exact hrest.trans ⟨fun h => ⟨hin, h⟩, fun h => h.2⟩
    · rw [if_neg hin]
      constructor
      · rintro ⟨out, hout⟩
        cases hout
      · exact fun h => absurd h.1 hin

theorem lookup_pushNgram (ngramDict : NgramDict) (ngram key : List Int) :
    ((pushNgram ngramDict ngram).lookup key).getD [] =
      (ngramDict.lookup key).getD [] ++
        if key = ngram.dropLast then [ngram.getLastD 0] else [] := by
  by_cases hkey : key = ngram.dropLast
  · rw [pushNgram, hkey, AList.lookup_insert, if_pos rfl]
    rfl
  · rw [pushNgram, AList.lookup_insert_ne hkey, if_neg hkey, List.append_nil]

section Vocab

variable {maxVocabSize ngramSize : Nat} {outputTokens : List Int} {ngramDict dict : NgramDict}

theorem DictInVocab.push (hdict : DictInVocab maxVocabSize ngramDict) {ngram : List Int}
    (hsome : ngram ≠ []) (hngram : ∀ token ∈ ngram, InVocab maxVocabSize token) :
    DictInVocab maxVocabSize (pushNgram ngramDict ngram) := by
  intro key token hmem
  rw [lookup_pushNgram] at hmem
  rcases List.mem_append.mp hmem with hold | hnew
  · exact hdict key token hold
  · split at hnew
    · obtain rfl := List.mem_singleton.mp hnew
      rw [List.getLastD_eq_getLast?, List.getLast?_eq_getLast_of_ne_nil hsome, Option.getD_some]
      exact hngram _ (List.getLast_mem hsome)
    · exact absurd hnew List.not_mem_nil

theorem cut_ne_nil {start : Nat} (hpositive : 0 < ngramSize)
    (hfits : start + ngramSize ≤ outputTokens.length) :
    (outputTokens.drop start).take ngramSize ≠ [] := by
  refine List.ne_nil_of_length_pos ?_
  rw [List.length_take, List.length_drop]
  omega

theorem DictInVocab.getNgrams (hdict : DictInVocab maxVocabSize ngramDict)
    (hpositive : 0 < ngramSize) (htokens : ∀ token ∈ outputTokens, InVocab maxVocabSize token) :
    DictInVocab maxVocabSize (getNgrams ngramSize outputTokens ngramDict) := by
  rw [Executor.getNgrams]
  split
  · exact hdict
  · rename_i hempty
    clear hempty
    have hstarts : ∀ i ∈ List.range (outputTokens.length + 1 - ngramSize),
        i + ngramSize ≤ outputTokens.length := by
      intro i hi
      have hlt := List.mem_range.mp hi
      omega
    generalize List.range (outputTokens.length + 1 - ngramSize) = starts at hstarts
    induction starts generalizing ngramDict with
    | nil => exact hdict
    | cons start starts ih =>
      have hfits := hstarts start List.mem_cons_self
      exact ih (hdict.push (cut_ne_nil hpositive hfits) fun token hmem =>
        htokens token (List.mem_of_mem_drop (List.mem_of_mem_take hmem))) fun i hi =>
          hstarts i (List.mem_cons_of_mem _ hi)

/-- The n-gram at the end of the tokens. -/
def lastNgram (ngramSize : Nat) (outputTokens : List Int) : List Int :=
  outputTokens.drop (outputTokens.length - ngramSize)

theorem pushLastNgrams_one (hfits : ngramSize ≤ outputTokens.length) :
    pushLastNgrams ngramSize 1 outputTokens ngramDict =
      some (pushNgram ngramDict (lastNgram ngramSize outputTokens)) := by
  have hcut : (outputTokens.drop (outputTokens.length - ngramSize)).take ngramSize =
      lastNgram ngramSize outputTokens :=
    List.take_of_length_le (by rw [List.length_drop]; omega)
  rw [pushLastNgrams, List.range_one, List.foldlM_cons, Nat.add_zero, if_pos hfits, Nat.sub_zero,
    hcut]
  rfl

theorem DictInVocab.pushLast (hdict : DictInVocab maxVocabSize ngramDict)
    (hpositive : 0 < ngramSize) (hfits : ngramSize ≤ outputTokens.length)
    (htokens : ∀ token ∈ outputTokens, InVocab maxVocabSize token) :
    DictInVocab maxVocabSize (pushNgram ngramDict (lastNgram ngramSize outputTokens)) := by
  refine hdict.push (List.ne_nil_of_length_pos ?_) fun token hmem =>
    htokens token (List.mem_of_mem_drop hmem)
  rw [lastNgram, List.length_drop]
  omega

/-- What a ban looks up, and that every token it bans is one of the vocabulary. -/
theorem banRepeatTokens_iff :
    (∃ ban, banRepeatTokens maxVocabSize ngramSize outputTokens ngramDict = some ban) ↔
      ∀ token ∈ (ngramDict.lookup
        (outputTokens.drop (outputTokens.length + 1 - ngramSize))).getD [],
          InVocab maxVocabSize token := by
  rw [banRepeatTokens]
  cases hfound : (ngramDict.lookup
      (outputTokens.drop (outputTokens.length + 1 - ngramSize))).getD [] with
  | nil => exact ⟨fun _ _ hmem => absurd hmem List.not_mem_nil, fun _ => ⟨_, rfl⟩⟩
  | cons token tokens =>
    have hwrites := writeAll_iff kFloatNegInfinity (token :: tokens) (List.replicate maxVocabSize 0)
    rw [List.length_replicate] at hwrites
    rw [← hwrites]
    constructor
    · rintro ⟨ban, hban⟩
      obtain ⟨out, hout, -⟩ := Option.bind_eq_some_iff.mp hban
      exact ⟨out, hout⟩
    · rintro ⟨out, hout⟩
      exact ⟨_, Option.bind_eq_some_iff.mpr ⟨out, hout, rfl⟩⟩

theorem banRepeatTokens_key {ban : BanInputs}
    (h : banRepeatTokens maxVocabSize ngramSize outputTokens ngramDict = some ban) :
    ban.ngramKey = outputTokens.drop (outputTokens.length + 1 - ngramSize) := by
  rw [banRepeatTokens] at h
  split at h
  · obtain rfl := Option.some.inj h
    rfl
  · obtain ⟨out, -, hban⟩ := Option.bind_eq_some_iff.mp h
    obtain rfl := Option.some.inj hban
    rfl

end Vocab

/-- A request as the token processors expect it: sampled on the main layers, one token a step,
every token one of the vocabulary. -/
structure RealRequest (maxVocabSize : Nat) (req : SamplerRequest) : Prop where
  input : req.inputTokens ≠ []
  inputVocab : ∀ token ∈ req.inputTokens, InVocab maxVocabSize token
  tokens : ∀ token ∈ req.forwardingTokens, InVocab maxVocabSize token
  lastStep : req.lastStepTokenNum = 1
  sampled : 0 < req.samplingTokenNum
  main : req.enableMtpSampler = false

section Real

variable {maxVocabSize : Nat} {req : SamplerRequest} {ngramDict dict : NgramDict}

theorem applyRepetitionPenalty_iff (maxVocabSize : Nat) {inputTokens forwardingTokens : List Int}
    (hinput : inputTokens ≠ []) (hvocab : ∀ token ∈ inputTokens, InVocab maxVocabSize token)
    (repetitionPenalty : UInt32) :
    (∃ penalties, applyRepetitionPenalty maxVocabSize inputTokens forwardingTokens
        repetitionPenalty = some penalties) ↔
      ∀ token ∈ forwardingTokens.drop inputTokens.length, InVocab maxVocabSize token := by
  have hlast := hvocab _ (List.getLast_mem hinput)
  rw [applyRepetitionPenalty, List.getLast?_eq_getLast_of_ne_nil hinput, Option.bind_eq_bind,
    Option.bind_some, writeAll_iff, List.forall_mem_cons, List.length_replicate]
  exact ⟨fun h => h.2, fun h => ⟨hlast, h⟩⟩

theorem banned_of_vocab {ngramSize : Nat} {outputTokens : List Int}
    (hdict : DictInVocab maxVocabSize dict) :
    ∃ ban, (banRepeatTokens maxVocabSize ngramSize outputTokens dict >>= fun ban =>
      some (some ban, dict)) = some (ban, dict) := by
  obtain ⟨ban, hban⟩ := banRepeatTokens_iff.mpr (hdict
    (outputTokens.drop (outputTokens.length + 1 - ngramSize)))
  exact ⟨some ban, by rw [hban]; rfl⟩

theorem noRepeatNgramProcessor_real {ngramSize : Nat} (hsize : 0 < ngramSize)
    (hreq : RealRequest maxVocabSize req) (hdict : DictInVocab maxVocabSize ngramDict) :
    ∃ ban dict, noRepeatNgramProcessor maxVocabSize ngramSize req ngramDict = some (ban, dict) ∧
      DictInVocab maxVocabSize dict := by
  rw [noRepeatNgramProcessor]
  split
  case isTrue => exact ⟨none, ngramDict, rfl, hdict⟩
  case isFalse hfits =>
    have hroom := Nat.le_of_not_lt hfits
    split
    case isTrue =>
      have hgrams := hdict.getNgrams hsize hreq.tokens
      obtain ⟨ban, hban⟩ := banned_of_vocab hgrams
      exact ⟨ban, _, hban, hgrams⟩
    case isFalse =>
      split
      case isTrue =>
        have hpushed := hdict.pushLast hsize hroom hreq.tokens
        obtain ⟨ban, hban⟩ := banned_of_vocab hpushed
        rw [hreq.lastStep, pushLastNgrams_one hroom]
        exact ⟨ban, _, hban, hpushed⟩
      case isFalse =>
        obtain ⟨ban, hban⟩ := banned_of_vocab hdict
        exact ⟨ban, _, hban, hdict⟩

theorem encoderNoRepeatNgramProcessor_real {ngramSize : Nat} (hsize : 0 < ngramSize)
    (hreq : RealRequest maxVocabSize req) (hdict : DictInVocab maxVocabSize ngramDict) :
    ∃ ban dict,
      encoderNoRepeatNgramProcessor maxVocabSize ngramSize req ngramDict = some (ban, dict) ∧
        DictInVocab maxVocabSize dict := by
  rw [encoderNoRepeatNgramProcessor]
  split
  case isTrue => exact ⟨none, ngramDict, rfl, hdict⟩
  case isFalse =>
    split
    case isTrue =>
      have hgrams := hdict.getNgrams hsize hreq.tokens
      obtain ⟨ban, hban⟩ := banned_of_vocab hgrams
      exact ⟨ban, _, hban, hgrams⟩
    case isFalse =>
      obtain ⟨ban, hban⟩ := banned_of_vocab hdict
      exact ⟨ban, _, hban, hdict⟩

theorem decoderNoRepeatNgramProcessor_real {ngramSize : Nat} (hsize : 0 < ngramSize)
    (hreq : RealRequest maxVocabSize req) (hdict : DictInVocab maxVocabSize ngramDict) :
    ∃ ban dict,
      decoderNoRepeatNgramProcessor maxVocabSize ngramSize req ngramDict = some (ban, dict) ∧
        DictInVocab maxVocabSize dict := by
  rw [decoderNoRepeatNgramProcessor]
  split
  case isTrue => exact ⟨none, ngramDict, rfl, hdict⟩
  case isFalse hfits =>
    have hroom : ngramSize ≤ req.forwardingTokens.length := by omega
    have hpushed := hdict.pushLast hsize hroom hreq.tokens
    obtain ⟨ban, hban⟩ := banned_of_vocab hpushed
    rw [hreq.lastStep, pushLastNgrams_one hroom]
    exact ⟨ban, _, hban, hpushed⟩

/-- On real tokens the n-gram processor is defined and keeps the dictionary in the vocabulary. -/
theorem applyNgramProcessor_real (hreq : RealRequest maxVocabSize req)
    (hdict : DictInVocab maxVocabSize ngramDict) :
    ∃ ban dict, applyNgramProcessor maxVocabSize req ngramDict = some (ban, dict) ∧
      DictInVocab maxVocabSize dict := by
  rw [applyNgramProcessor, hreq.main, if_neg Bool.false_ne_true]
  split
  case isTrue hsize => exact noRepeatNgramProcessor_real (by omega) hreq hdict
  case isFalse =>
    split
    case isTrue hsize => exact encoderNoRepeatNgramProcessor_real (by omega) hreq hdict
    case isFalse =>
      split
      case isTrue hsize => exact decoderNoRepeatNgramProcessor_real (by omega) hreq hdict
      case isFalse => exact ⟨none, ngramDict, rfl, hdict⟩

theorem prepareTokenInputs_real (hreq : RealRequest maxVocabSize req)
    (hdict : DictInVocab maxVocabSize ngramDict) :
    ∃ inputs dict, prepareTokenInputs maxVocabSize req ngramDict = some (inputs, dict) ∧
      DictInVocab maxVocabSize dict := by
  obtain ⟨ban, dict, hban, hkept⟩ := applyNgramProcessor_real hreq hdict
  obtain ⟨penalties, hpenalties⟩ := (applyRepetitionPenalty_iff maxVocabSize hreq.input
    hreq.inputVocab req.samplingConfig.repetitionPenalty).mpr fun token hmem =>
      hreq.tokens token (List.mem_of_mem_drop hmem)
  rw [prepareTokenInputs, hban, repetitionPenalties, hpenalties]
  split
  · exact ⟨_, dict, rfl, hkept⟩
  · exact ⟨_, dict, rfl, hkept⟩

end Real

/-- Something is indexed or looked up with the last token behind the prompt. -/
def ReadsLastToken (config : SamplingConfig) (inputTokenNum tokenNum : Nat) : Prop :=
  config.repetitionPenalty ≠ kFloatOne ∨
    if 0 < config.noRepeatNgramSize then config.noRepeatNgramSize ≤ tokenNum
    else if 0 < config.encoderNoRepeatNgramSize then
      1 < config.encoderNoRepeatNgramSize ∧ config.encoderNoRepeatNgramSize ≤ tokenNum
    else 0 < config.decoderNoRepeatNgramSize ∧
      config.decoderNoRepeatNgramSize ≤ (tokenNum : Int) - inputTokenNum

instance (config : SamplingConfig) (inputTokenNum tokenNum : Nat) :
    Decidable (ReadsLastToken config inputTokenNum tokenNum) := by
  unfold ReadsLastToken
  infer_instance

/-- The same request, with a placeholder for its last token. -/
structure Placeholds (held real : SamplerRequest) : Prop where
  eq : held = { real with
    forwardingTokens := real.forwardingTokens.dropLast ++ [kFastPathPlaceholderTokenId] }
  behindInput : real.inputTokens.length < real.forwardingTokens.length

section Placeholder

variable {maxVocabSize : Nat} {held real : SamplerRequest} {heldDict realDict ngramDict : NgramDict}

theorem Placeholds.length (h : Placeholds held real) :
    held.forwardingTokens.length = real.forwardingTokens.length := by
  have hbehind := h.behindInput
  rw [h.eq, List.length_append, List.length_dropLast, List.length_singleton]
  omega

theorem Placeholds.unread (h : Placeholds held real)
    (hunread : ¬ ReadsLastToken real.samplingConfig real.inputTokens.length
      real.forwardingTokens.length) :
    prepareTokenInputs maxVocabSize held ngramDict = prepareTokenInputs maxVocabSize real ngramDict := by
  have hlength := h.length
  have hbehind := h.behindInput
  have hinput : held.inputTokens = real.inputTokens := by rw [h.eq]
  have hconfig : held.samplingConfig = real.samplingConfig := by rw [h.eq]
  have hmain : held.enableMtpSampler = real.enableMtpSampler := by rw [h.eq]
  rw [ReadsLastToken, not_or, not_not] at hunread
  obtain ⟨hpenalty, hunread⟩ := hunread
  have hngram : applyNgramProcessor maxVocabSize held ngramDict =
      applyNgramProcessor maxVocabSize real ngramDict := by
    rw [applyNgramProcessor, applyNgramProcessor, hconfig, hmain]
    split
    · rfl
    · split
      case isTrue hsize =>
        rw [if_pos hsize] at hunread
        rw [noRepeatNgramProcessor, noRepeatNgramProcessor, hlength, if_pos (by omega),
          if_pos (by omega)]
      case isFalse hnone =>
        rw [if_neg hnone] at hunread
        split
        case isTrue hsize =>
          rw [if_pos hsize] at hunread
          rw [encoderNoRepeatNgramProcessor, encoderNoRepeatNgramProcessor, hlength, hinput]
          by_cases hfits : real.forwardingTokens.length <
              real.samplingConfig.encoderNoRepeatNgramSize.toNat
          · rw [if_pos hfits, if_pos hfits]
          · have hone : real.samplingConfig.encoderNoRepeatNgramSize.toNat = 1 := by omega
            have hban : banRepeatTokens maxVocabSize 1 held.forwardingTokens ngramDict =
                banRepeatTokens maxVocabSize 1 real.forwardingTokens ngramDict := by
              unfold banRepeatTokens
              rw [Nat.add_sub_cancel, Nat.add_sub_cancel, List.drop_length, List.drop_length]
            have hinside : real.inputTokens.length ≠ real.forwardingTokens.length := by omega
            rw [if_neg hfits, if_neg hfits, if_neg hinside, if_neg hinside, hone]
            exact congrArg (fun ban => ban >>= fun ban => some (some ban, ngramDict)) hban
        case isFalse hnoEncoder =>
          rw [if_neg hnoEncoder] at hunread
          split
          case isTrue hsize =>
            rw [decoderNoRepeatNgramProcessor, decoderNoRepeatNgramProcessor, hlength, hinput,
              if_pos (by omega), if_pos (by omega)]
          case isFalse => rfl
  have hnone : ∀ req : SamplerRequest, req.samplingConfig.repetitionPenalty = kFloatOne →
      repetitionPenalties maxVocabSize req = some none := by
    intro req hone
    rw [repetitionPenalties, if_neg (fun hactive => hactive.1 hone)]
  rw [prepareTokenInputs, prepareTokenInputs, hngram, hnone held (by rw [hconfig]; exact hpenalty),
    hnone real hpenalty]

theorem Placeholds.placeholder_mem (h : Placeholds held real) {start : Nat}
    (hstart : start < real.forwardingTokens.length) :
    kFastPathPlaceholderTokenId ∈ held.forwardingTokens.drop start := by
  rw [h.eq, List.drop_append_of_le_length (by rw [List.length_dropLast]; omega)]
  exact List.mem_append_right _ List.mem_cons_self

theorem Placeholds.lastNgram_one (h : Placeholds held real) :
    lastNgram 1 held.forwardingTokens = [kFastPathPlaceholderTokenId] := by
  have hlength := h.length
  rw [lastNgram, hlength, h.eq,
    List.drop_append_of_le_length (Nat.le_of_eq List.length_dropLast.symm), ← List.length_dropLast,
    List.drop_length, List.nil_append]

theorem placeholder_not_inVocab : ¬ InVocab maxVocabSize kFastPathPlaceholderTokenId :=
  fun hvocab => absurd hvocab.1 (by decide)

theorem Placeholds.keys_ne (h : Placeholds held real) (hreal : RealRequest maxVocabSize real)
    {ngramSize : Nat} (hsize : 1 < ngramSize) (hfits : ngramSize ≤ real.forwardingTokens.length)
    {ban : BanInputs}
    (hheld : banRepeatTokens maxVocabSize ngramSize held.forwardingTokens heldDict = some ban)
    (hban : banRepeatTokens maxVocabSize ngramSize real.forwardingTokens realDict = some ban) :
    False := by
  have hkey := (banRepeatTokens_key hheld).symm.trans (banRepeatTokens_key hban)
  rw [h.length] at hkey
  have hmem : kFastPathPlaceholderTokenId ∈
      held.forwardingTokens.drop (real.forwardingTokens.length + 1 - ngramSize) :=
    h.placeholder_mem (by omega)
  rw [hkey] at hmem
  exact placeholder_not_inVocab (hreal.tokens _ (List.mem_of_mem_drop hmem))

theorem Placeholds.pushed_ban (h : Placeholds held real) {ban : BanInputs} :
    banRepeatTokens maxVocabSize 1 held.forwardingTokens
      (pushNgram heldDict (lastNgram 1 held.forwardingTokens)) ≠ some ban := by
  intro hban
  have hvocab := banRepeatTokens_iff.mp ⟨ban, hban⟩
  rw [Nat.add_sub_cancel, List.drop_length, h.lastNgram_one] at hvocab
  refine placeholder_not_inVocab (hvocab kFastPathPlaceholderTokenId ?_)
  rw [lookup_pushNgram]
  exact List.mem_append_right _ List.mem_cons_self

/-- Behind the prompt the last token is pushed before anything is banned. -/
theorem Placeholds.pushed_read (h : Placeholds held real) (hreal : RealRequest maxVocabSize real)
    {ngramSize : Nat} (hsize : 0 < ngramSize) (hfits : ngramSize ≤ real.forwardingTokens.length)
    {ban : BanInputs}
    (hheld : banRepeatTokens maxVocabSize ngramSize held.forwardingTokens
      (pushNgram heldDict (lastNgram ngramSize held.forwardingTokens)) = some ban)
    (hban : banRepeatTokens maxVocabSize ngramSize real.forwardingTokens
      (pushNgram realDict (lastNgram ngramSize real.forwardingTokens)) = some ban) : False := by
  by_cases hone : ngramSize = 1
  · subst hone
    exact h.pushed_ban hheld
  · exact h.keys_ne hreal (by omega) hfits hheld hban

theorem bind_ban {result : Option BanInputs} {ban : Option BanInputs}
    (h : (result >>= fun ban => some (some ban, ngramDict)) = some (ban, realDict)) :
    ∃ banned, result = some banned ∧ ban = some banned := by
  obtain ⟨banned, hresult, hban⟩ := Option.bind_eq_some_iff.mp h
  exact ⟨banned, hresult, (Prod.mk.inj (Option.some.inj hban)).1.symm⟩

theorem Placeholds.ngram_read (h : Placeholds held real) (hreal : RealRequest maxVocabSize real)
    (hread : if 0 < real.samplingConfig.noRepeatNgramSize then
        real.samplingConfig.noRepeatNgramSize ≤ real.forwardingTokens.length
      else if 0 < real.samplingConfig.encoderNoRepeatNgramSize then
        1 < real.samplingConfig.encoderNoRepeatNgramSize ∧
          real.samplingConfig.encoderNoRepeatNgramSize ≤ real.forwardingTokens.length
      else 0 < real.samplingConfig.decoderNoRepeatNgramSize ∧
        real.samplingConfig.decoderNoRepeatNgramSize ≤
          (real.forwardingTokens.length : Int) - real.inputTokens.length)
    {ban : Option BanInputs} {heldAfter realAfter : NgramDict}
    (hheld : applyNgramProcessor maxVocabSize held heldDict = some (ban, heldAfter))
    (hban : applyNgramProcessor maxVocabSize real realDict = some (ban, realAfter)) : False := by
  have hlength := h.length
  have hbehind := h.behindInput
  have hinput : held.inputTokens = real.inputTokens := by rw [h.eq]
  have hconfig : held.samplingConfig = real.samplingConfig := by rw [h.eq]
  have hmain : held.enableMtpSampler = real.enableMtpSampler := by rw [h.eq]
  have hlast : held.lastStepTokenNum = 1 := by rw [h.eq]; exact hreal.lastStep
  rw [applyNgramProcessor, hconfig, hmain, hreal.main, if_neg Bool.false_ne_true] at hheld
  rw [applyNgramProcessor, hreal.main, if_neg Bool.false_ne_true] at hban
  by_cases hnoRepeat : 0 < real.samplingConfig.noRepeatNgramSize
  · rw [if_pos hnoRepeat] at hread hheld hban
    have hfits : real.samplingConfig.noRepeatNgramSize.toNat ≤ real.forwardingTokens.length := by
      omega
    rw [noRepeatNgramProcessor, hlength, hinput, if_neg (by omega), if_neg (by omega),
      if_pos hbehind, hlast, pushLastNgrams_one (by omega)] at hheld
    rw [noRepeatNgramProcessor, if_neg (by omega), if_neg (by omega), if_pos hbehind,
      hreal.lastStep, pushLastNgrams_one hfits] at hban
    obtain ⟨heldBanned, hheldBan, rfl⟩ := bind_ban hheld
    obtain ⟨realBanned, hrealBan, heq⟩ := bind_ban hban
    obtain rfl := Option.some.inj heq
    exact h.pushed_read hreal (by omega) hfits hheldBan hrealBan
  · rw [if_neg hnoRepeat] at hread hheld hban
    by_cases hencoder : 0 < real.samplingConfig.encoderNoRepeatNgramSize
    · rw [if_pos hencoder] at hread hheld hban
      rw [encoderNoRepeatNgramProcessor, hlength, hinput, if_neg (by omega),
        if_neg (by omega)] at hheld
      rw [encoderNoRepeatNgramProcessor, if_neg (by omega), if_neg (by omega)] at hban
      obtain ⟨heldBanned, hheldBan, rfl⟩ := bind_ban hheld
      obtain ⟨realBanned, hrealBan, heq⟩ := bind_ban hban
      obtain rfl := Option.some.inj heq
      exact h.keys_ne hreal (by omega) (by omega) hheldBan hrealBan
    · rw [if_neg hencoder] at hread hheld hban
      obtain ⟨hdecoder, hroom⟩ := hread
      have hfits : real.samplingConfig.decoderNoRepeatNgramSize.toNat ≤
          real.forwardingTokens.length := by omega
      rw [if_pos hdecoder, decoderNoRepeatNgramProcessor, hlength, hinput, if_neg (by omega), hlast,
        pushLastNgrams_one (by omega)] at hheld
      rw [if_pos hdecoder, decoderNoRepeatNgramProcessor, if_neg (by omega), hreal.lastStep,
        pushLastNgrams_one hfits] at hban
      obtain ⟨heldBanned, hheldBan, rfl⟩ := bind_ban hheld
      obtain ⟨realBanned, hrealBan, heq⟩ := bind_ban hban
      obtain rfl := Option.some.inj heq
      exact h.pushed_read hreal (by omega) hfits hheldBan hrealBan

theorem prepareTokenInputs_ban {req : SamplerRequest} {inputs : SamplerInputs}
    (h : prepareTokenInputs maxVocabSize req ngramDict = some (inputs, realDict)) :
    applyNgramProcessor maxVocabSize req ngramDict = some (inputs.ban, realDict) := by
  rw [prepareTokenInputs] at h
  obtain ⟨penalties, -, hrest⟩ := Option.bind_eq_some_iff.mp h
  obtain ⟨⟨ban, dict⟩, hban, hinputs⟩ := Option.bind_eq_some_iff.mp hrest
  obtain ⟨rfl, rfl⟩ := Prod.mk.inj (Option.some.inj hinputs)
  exact hban

theorem Placeholds.read (h : Placeholds held real) (hreal : RealRequest maxVocabSize real)
    (hread : ReadsLastToken real.samplingConfig real.inputTokens.length
      real.forwardingTokens.length) {inputs : SamplerInputs} {heldAfter realAfter : NgramDict}
    (hheld : prepareTokenInputs maxVocabSize held heldDict = some (inputs, heldAfter))
    (hinputs : prepareTokenInputs maxVocabSize real realDict = some (inputs, realAfter)) :
    False := by
  rcases hread with hpenalty | hngram
  · have hactive : held.samplingConfig.repetitionPenalty ≠ kFloatOne ∧ 0 < held.samplingTokenNum := by
      rw [h.eq]
      exact ⟨hpenalty, hreal.sampled⟩
    rw [prepareTokenInputs] at hheld
    obtain ⟨penalties, hpenalties, -⟩ := Option.bind_eq_some_iff.mp hheld
    rw [repetitionPenalties, if_pos hactive] at hpenalties
    obtain ⟨written, hwritten, -⟩ := Option.map_eq_some_iff.mp hpenalties
    have hinput : held.inputTokens = real.inputTokens := by rw [h.eq]
    have hvocab := (applyRepetitionPenalty_iff maxVocabSize (hinput ▸ hreal.input)
      (hinput ▸ hreal.inputVocab) held.samplingConfig.repetitionPenalty).mp ⟨written, hwritten⟩
    refine placeholder_not_inVocab (hvocab kFastPathPlaceholderTokenId (h.placeholder_mem ?_))
    rw [hinput]
    exact h.behindInput
  · exact h.ngram_read hreal hngram (prepareTokenInputs_ban hheld) (prepareTokenInputs_ban hinputs)

end Placeholder

end KsanaBuildAhead.Executor
