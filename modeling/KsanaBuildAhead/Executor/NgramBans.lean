import KsanaBuildAhead.Executor.SamplerInputs
import Mathlib.Data.List.Infix

/-!
# The tokens the n-gram processor bans

The dictionary is filled call by call. A later call takes one n-gram for each token of the last
step, counted back from the end, without asking whether that many exist: they do unless the
sequence was shorter than `ngram_size - 1` before the step.
-/
namespace KsanaBuildAhead.Executor

open KsanaBuildAhead.Runtime

/-- The `ngram_size` tokens from `start` on. -/
def ngramAt (ngramSize start : Nat) (tokens : List Int) : List Int :=
  (tokens.drop start).take ngramSize

/-- What a call of `NoRepeatNgramProcessor` does before it bans tokens. -/
def updateNgrams (ngramSize inputTokensSize lastStepTokenNum : Nat) (outputTokens : List Int)
    (ngramDict : NgramDict) : Option NgramDict :=
  if outputTokens.length < ngramSize then some ngramDict
  else if inputTokensSize = outputTokens.length then
    some (getNgrams ngramSize outputTokens ngramDict)
  else if inputTokensSize < outputTokens.length then
    pushLastNgrams ngramSize lastStepTokenNum outputTokens ngramDict
  else some ngramDict

/-- The `repeat_ids` of `BanRepeatTokens`. -/
def bannedTokens (ngramSize : Nat) (outputTokens : List Int) (ngramDict : NgramDict) : List Int :=
  (ngramDict.lookup (outputTokens.drop (outputTokens.length + 1 - ngramSize))).getD []

theorem noRepeatNgramProcessor_eq (maxVocabSize ngramSize : Nat) (req : SamplerRequest)
    (ngramDict : NgramDict) :
    noRepeatNgramProcessor maxVocabSize ngramSize req ngramDict =
      (updateNgrams ngramSize req.inputTokens.length req.lastStepTokenNum req.forwardingTokens
        ngramDict).bind fun dict =>
          if req.forwardingTokens.length < ngramSize then some (none, dict)
          else (banRepeatTokens maxVocabSize ngramSize req.forwardingTokens dict).map
            fun ban => (some ban, dict) := by
  rw [noRepeatNgramProcessor, updateNgrams]
  by_cases hshort : req.forwardingTokens.length < ngramSize
  · rw [if_pos hshort, if_pos hshort, Option.bind_some, if_pos hshort]
  · simp only [if_neg hshort, Option.map_eq_bind]
    split
    · rfl
    · split <;> rfl

section Ngrams

variable {ngramSize : Nat} {tokens : List Int} {ngramDict dict : NgramDict} {key : List Int}
  {token : Int}

theorem length_ngramAt {start : Nat} (hfits : start + ngramSize ≤ tokens.length) :
    (ngramAt ngramSize start tokens).length = ngramSize := by
  rw [ngramAt, List.length_take, List.length_drop]
  omega

theorem ngramAt_append {start : Nat} (hfits : start + ngramSize ≤ tokens.length)
    (step : List Int) :
    ngramAt ngramSize start (tokens ++ step) = ngramAt ngramSize start tokens := by
  rw [ngramAt, List.drop_append_of_le_length (by omega), List.take_append_of_le_length]
  · rfl
  · rw [List.length_drop]
    omega

theorem infix_iff_ngramAt {ngram : List Int} (hlength : ngram.length = ngramSize) :
    ngram <:+: tokens ↔
      ∃ start, start + ngramSize ≤ tokens.length ∧ ngramAt ngramSize start tokens = ngram := by
  constructor
  · rintro ⟨before, after, rfl⟩
    refine ⟨before.length, ?_, ?_⟩
    · simp only [List.length_append]
      omega
    · rw [ngramAt, List.append_assoc, List.drop_left, ← hlength, List.take_left]
  · rintro ⟨start, -, rfl⟩
    exact (List.take_prefix _ _).isInfix.trans (List.drop_suffix _ _).isInfix

theorem mem_pushNgram {ngram : List Int} (hsome : ngram ≠ []) :
    token ∈ ((pushNgram ngramDict ngram).lookup key).getD [] ↔
      token ∈ (ngramDict.lookup key).getD [] ∨ ngram = key ++ [token] := by
  have hlast : ngram.getLastD 0 = ngram.getLast hsome := by
    rw [List.getLastD_eq_getLast?, List.getLast?_eq_getLast_of_ne_nil hsome, Option.getD_some]
  have hsplit := List.dropLast_append_getLast hsome
  rw [lookup_pushNgram, List.mem_append, hlast]
  refine or_congr_right ?_
  by_cases hkey : key = ngram.dropLast
  · rw [if_pos hkey, List.mem_singleton, hkey]
    constructor
    · rintro rfl
      exact hsplit.symm
    · intro heq
      exact (List.singleton_inj.mp (List.append_cancel_left (hsplit.trans heq))).symm
  · rw [if_neg hkey]
    refine ⟨fun hmem => absurd hmem List.not_mem_nil, fun heq => absurd ?_ hkey⟩
    rw [heq, List.dropLast_concat]

/-- The loops push the n-grams that begin at some positions. -/
def pushNgramsAt (ngramSize : Nat) (tokens : List Int) (ngramDict : NgramDict)
    (starts : List Nat) : NgramDict :=
  starts.foldl (fun dict start => pushNgram dict (ngramAt ngramSize start tokens)) ngramDict

theorem mem_pushNgramsAt (hpositive : 0 < ngramSize) {starts : List Nat}
    (hfits : ∀ start ∈ starts, start + ngramSize ≤ tokens.length) :
    token ∈ ((pushNgramsAt ngramSize tokens ngramDict starts).lookup key).getD [] ↔
      token ∈ (ngramDict.lookup key).getD [] ∨
        ∃ start ∈ starts, ngramAt ngramSize start tokens = key ++ [token] := by
  induction starts generalizing ngramDict with
  | nil => simp [pushNgramsAt]
  | cons start starts ih =>
    have hsome : ngramAt ngramSize start tokens ≠ [] := by
      refine List.ne_nil_of_length_pos ?_
      rw [length_ngramAt (hfits start List.mem_cons_self)]
      exact hpositive
    rw [pushNgramsAt, List.foldl_cons, ← pushNgramsAt,
      ih fun other hother => hfits other (List.mem_cons_of_mem _ hother), mem_pushNgram hsome,
      or_assoc, List.exists_mem_cons_iff]

/-- The n-grams of a step are pushed if all of them exist, and if one does not the call reads in
front of the sequence. -/
theorem pushLastNgrams_eq_some {lastStepTokenNum : Nat} :
    pushLastNgrams ngramSize lastStepTokenNum tokens ngramDict = some dict ↔
      (∀ i < lastStepTokenNum, ngramSize + i ≤ tokens.length) ∧
        dict = pushNgramsAt ngramSize tokens ngramDict
          ((List.range lastStepTokenNum).map fun i => tokens.length - i - ngramSize) := by
  have hloop : ∀ (offsets : List Nat) (ngramDict : NgramDict),
      offsets.foldlM (fun dict i =>
        if ngramSize + i ≤ tokens.length then
          some (pushNgram dict ((tokens.drop (tokens.length - i - ngramSize)).take ngramSize))
        else none) ngramDict = some dict ↔
      (∀ i ∈ offsets, ngramSize + i ≤ tokens.length) ∧
        dict = pushNgramsAt ngramSize tokens ngramDict
          (offsets.map fun i => tokens.length - i - ngramSize) := by
    intro offsets
    induction offsets with
    | nil =>
      intro ngramDict
      exact ⟨fun h => ⟨fun _ hmem => absurd hmem List.not_mem_nil, (Option.some.inj h).symm⟩,
        fun h => congrArg some h.2.symm⟩
    | cons i offsets ih =>
      intro ngramDict
      rw [List.foldlM_cons, List.forall_mem_cons]
      by_cases hfits : ngramSize + i ≤ tokens.length
      · rw [if_pos hfits]
        refine (ih _).trans ?_
        rw [and_iff_right hfits]
        rfl
      · rw [if_neg hfits]
        exact ⟨fun h => (Option.some_ne_none _ h.symm).elim, fun h => absurd h.1.1 hfits⟩
  rw [pushLastNgrams, hloop]
  simp only [List.mem_range]

/-- The dictionary holds what followed each prefix, for all n-grams of the sequence. -/
def HoldsNgrams (ngramSize : Nat) (tokens : List Int) (ngramDict : NgramDict) : Prop :=
  ∀ key token, token ∈ (ngramDict.lookup key).getD [] ↔
    ∃ start, start + ngramSize ≤ tokens.length ∧ ngramAt ngramSize start tokens = key ++ [token]

theorem holdsNgrams_short (hshort : tokens.length < ngramSize) (hempty : ngramDict = ∅) :
    HoldsNgrams ngramSize tokens ngramDict := by
  intro key token
  rw [hempty, AList.lookup_empty]
  refine ⟨fun hmem => absurd hmem List.not_mem_nil, ?_⟩
  rintro ⟨start, hfits, -⟩
  omega

theorem HoldsNgrams.banned_iff (h : HoldsNgrams ngramSize tokens ngramDict)
    (hpositive : 0 < ngramSize) (hlong : ngramSize ≤ tokens.length) :
    token ∈ bannedTokens ngramSize tokens ngramDict ↔
      tokens.drop (tokens.length + 1 - ngramSize) ++ [token] <:+: tokens := by
  have hlength : (tokens.drop (tokens.length + 1 - ngramSize) ++ [token]).length = ngramSize := by
    rw [List.length_append, List.length_drop, List.length_singleton]
    omega
  rw [infix_iff_ngramAt hlength, bannedTokens, h]

variable (tokens) in
theorem holdsNgrams_prompt (hpositive : 0 < ngramSize) (lastStepTokenNum : Nat) :
    ∃ dict, updateNgrams ngramSize tokens.length lastStepTokenNum tokens ∅ = some dict ∧
      HoldsNgrams ngramSize tokens dict := by
  rw [updateNgrams]
  by_cases hshort : tokens.length < ngramSize
  · rw [if_pos hshort]
    exact ⟨∅, rfl, holdsNgrams_short hshort rfl⟩
  · rw [if_neg hshort, if_pos rfl]
    refine ⟨_, rfl, fun key token => ?_⟩
    have hpush : getNgrams ngramSize tokens ∅ = pushNgramsAt ngramSize tokens ∅
        (List.range (tokens.length + 1 - ngramSize)) := if_neg fun h => h rfl
    have hfits : ∀ start ∈ List.range (tokens.length + 1 - ngramSize),
        start + ngramSize ≤ tokens.length := by
      intro start hstart
      have hlt := List.mem_range.mp hstart
      omega
    rw [hpush, mem_pushNgramsAt hpositive hfits, AList.lookup_empty]
    constructor
    · rintro (hmem | ⟨start, hstart, hngram⟩)
      · exact absurd hmem List.not_mem_nil
      · exact ⟨start, hfits start hstart, hngram⟩
    · rintro ⟨start, hstart, hngram⟩
      exact Or.inr ⟨start, List.mem_range.mpr (by omega), hngram⟩

end Ngrams

section Later

variable {ngramSize inputTokensSize : Nat} {tokens step : List Int} {ngramDict dict : NgramDict}
  (hstep : step ≠ []) (hinput : inputTokensSize ≤ tokens.length)
include hstep hinput

theorem updateNgrams_later (hlong : ngramSize ≤ (tokens ++ step).length) :
    updateNgrams ngramSize inputTokensSize step.length (tokens ++ step) ngramDict =
      pushLastNgrams ngramSize step.length (tokens ++ step) ngramDict := by
  have hsome := List.length_pos_iff.mpr hstep
  rw [List.length_append] at hlong
  rw [updateNgrams, List.length_append, if_neg (by omega), if_neg (by omega), if_pos (by omega)]

variable (ngramDict) in
/-- All n-grams the step completes exist, unless the sequence was too short before it. -/
theorem updateNgrams_inside_iff :
    (∃ dict, updateNgrams ngramSize inputTokensSize step.length (tokens ++ step) ngramDict =
        some dict) ↔
      ngramSize ≤ tokens.length + 1 ∨ (tokens ++ step).length < ngramSize := by
  have hsome := List.length_pos_iff.mpr hstep
  by_cases hshort : (tokens ++ step).length < ngramSize
  · refine ⟨fun _ => Or.inr hshort, fun _ => ⟨ngramDict, ?_⟩⟩
    rw [updateNgrams, if_pos hshort]
  · rw [updateNgrams_later hstep hinput (Nat.le_of_not_lt hshort), or_iff_left hshort]
    simp only [pushLastNgrams_eq_some, exists_eq_right, List.length_append]
    constructor
    · intro h
      have hfirst := h (step.length - 1) (by omega)
      omega
    · intro h i hi
      omega

theorem HoldsNgrams.later (h : HoldsNgrams ngramSize tokens ngramDict) (hpositive : 0 < ngramSize)
    (hinside : ngramSize ≤ tokens.length + 1 ∨ (tokens ++ step).length < ngramSize)
    (hupdate : updateNgrams ngramSize inputTokensSize step.length (tokens ++ step) ngramDict =
      some dict) :
    HoldsNgrams ngramSize (tokens ++ step) dict := by
  intro key token
  by_cases hshort : (tokens ++ step).length < ngramSize
  · rw [updateNgrams, if_pos hshort] at hupdate
    obtain rfl := Option.some.inj hupdate
    rw [h]
    rw [List.length_append] at hshort ⊢
    constructor
    · rintro ⟨start, hfits, -⟩
      omega
    · rintro ⟨start, hfits, -⟩
      omega
  · have hlong := hinside.resolve_right hshort
    rw [updateNgrams_later hstep hinput (Nat.le_of_not_lt hshort)] at hupdate
    obtain ⟨-, rfl⟩ := pushLastNgrams_eq_some.mp hupdate
    rw [mem_pushNgramsAt hpositive, h]
    · constructor
      · rintro (⟨start, hfits, hngram⟩ | ⟨start, hstart, hngram⟩)
        · refine ⟨start, ?_, (ngramAt_append hfits step).trans hngram⟩
          rw [List.length_append]
          omega
        · obtain ⟨i, hi, rfl⟩ := List.mem_map.mp hstart
          have hlt := List.mem_range.mp hi
          refine ⟨_, ?_, hngram⟩
          rw [List.length_append]
          omega
      · rintro ⟨start, hfits, hngram⟩
        rw [List.length_append] at hfits
        by_cases hold : start + ngramSize ≤ tokens.length
        · exact Or.inl ⟨start, hold, (ngramAt_append hold step).symm.trans hngram⟩
        · refine Or.inr ⟨start, List.mem_map.mpr
            ⟨tokens.length + step.length - ngramSize - start, ?_, ?_⟩, hngram⟩
          · exact List.mem_range.mpr (by omega)
          · rw [List.length_append]
            omega
    · intro start hstart
      obtain ⟨i, hi, rfl⟩ := List.mem_map.mp hstart
      have hlt := List.mem_range.mp hi
      rw [List.length_append] at hshort ⊢
      omega

end Later

/-- Every write stores the same value, so a cell has it exactly if some index names the cell. -/
theorem writeAll_spec {value : UInt32} {indices : List Int} {vector out : List UInt32}
    (h : indices.foldlM (writeAt value) vector = some out) {token : Int}
    (htoken : InVocab vector.length token) :
    out[token.toNat]? = if token ∈ indices then some value else vector[token.toNat]? := by
  induction indices generalizing vector with
  | nil =>
    obtain rfl := Option.some.inj h
    rw [if_neg List.not_mem_nil]
  | cons index indices ih =>
    rw [List.foldlM_cons, writeAt] at h
    by_cases hin : 0 ≤ index ∧ index < vector.length
    · rw [if_pos hin] at h
      rw [ih h (by rwa [List.length_set])]
      obtain ⟨hzero, hlt⟩ := htoken
      by_cases hhere : index = token
      · have hset : (vector.set index.toNat value)[token.toNat]? = some value := by
          rw [hhere, List.getElem?_set_self (by omega)]
        rw [hset, hhere, if_pos List.mem_cons_self, ite_self]
      · have hset : (vector.set index.toNat value)[token.toNat]? = vector[token.toNat]? :=
          List.getElem?_set_ne (by omega)
        simp only [hset, List.mem_cons, Ne.symm hhere, false_or]
    · rw [if_neg hin] at h
      cases h

/-- The bias of the vocabulary, with the vector of a call that bans nothing all zero. -/
def BanInputs.bias (maxVocabSize : Nat) (ban : BanInputs) : List UInt32 :=
  ban.noRepeatNgrams.getD (List.replicate maxVocabSize 0)

theorem banRepeatTokens_bias {maxVocabSize ngramSize : Nat} {tokens : List Int}
    {ngramDict : NgramDict}
    (hvocab : ∀ token ∈ bannedTokens ngramSize tokens ngramDict, InVocab maxVocabSize token) :
    ∃ ban, banRepeatTokens maxVocabSize ngramSize tokens ngramDict = some ban ∧
      ∀ token, InVocab maxVocabSize token →
        ((ban.bias maxVocabSize)[token.toNat]? = some kFloatNegInfinity ↔
          token ∈ bannedTokens ngramSize tokens ngramDict) := by
  have hzero : ∀ token : Int,
      (List.replicate maxVocabSize (0 : UInt32))[token.toNat]? ≠ some kFloatNegInfinity := by
    intro token
    rw [List.getElem?_replicate]
    split
    · decide
    · decide
  obtain ⟨ban, hban⟩ := banRepeatTokens_iff.mpr hvocab
  refine ⟨ban, hban, fun token htoken => ?_⟩
  rw [banRepeatTokens] at hban
  rw [bannedTokens] at hvocab ⊢
  split at hban
  · rename_i hnone
    obtain rfl := Option.some.inj hban
    rw [hnone]
    exact iff_of_false (hzero token) List.not_mem_nil
  · obtain ⟨out, hout, hinputs⟩ := Option.bind_eq_some_iff.mp hban
    obtain rfl := Option.some.inj hinputs
    have hindex : InVocab (List.replicate maxVocabSize (0 : UInt32)).length token := by
      rwa [List.length_replicate]
    have hcell := writeAll_spec hout hindex
    rw [BanInputs.bias, Option.getD_some, hcell]
    split
    · rename_i hmem
      exact iff_of_true rfl hmem
    · rename_i hother
      exact iff_of_false (hzero token) hother

/-- What a call reads of a request whose prompt has grown to `tokens`. -/
def ngramRequest (prompt tokens : List Int) (lastStepTokenNum : Nat) : SamplerRequest where
  inputTokens := prompt
  forwardingTokens := tokens
  lastStepTokenNum := lastStepTokenNum

def ngramStep (ngramSize : Nat) (prompt : List Int) (s : List Int × NgramDict) (step : List Int) :
    Option (List Int × NgramDict) :=
  (updateNgrams ngramSize prompt.length step.length (s.1 ++ step) s.2).map
    fun dict => (s.1 ++ step, dict)

/-- The tokens and the dictionary after a call with the prompt and one for each step. -/
def ngramRun (ngramSize promptStepTokenNum : Nat) (prompt : List Int) (steps : List (List Int)) :
    Option (List Int × NgramDict) :=
  (updateNgrams ngramSize prompt.length promptStepTokenNum prompt ∅).bind
    fun dict => steps.foldlM (ngramStep ngramSize prompt) (prompt, dict)

/-- One call: its ranges are inside the sequence and it bans exactly what would repeat an n-gram. -/
structure BansRepeats (ngramSize : Nat) (req : SamplerRequest) (before after : NgramDict) :
    Prop where
  inside : updateNgrams ngramSize req.inputTokens.length req.lastStepTokenNum req.forwardingTokens
    before = some after
  banned : ngramSize ≤ req.forwardingTokens.length → ∀ token,
    token ∈ bannedTokens ngramSize req.forwardingTokens after ↔
      req.forwardingTokens.drop (req.forwardingTokens.length + 1 - ngramSize) ++ [token] <:+:
        req.forwardingTokens
  bias : ∀ maxVocabSize, (∀ token ∈ req.forwardingTokens, InVocab maxVocabSize token) →
    ∃ ban, noRepeatNgramProcessor maxVocabSize ngramSize req before = some (ban, after) ∧
      (ngramSize ≤ req.forwardingTokens.length → ∃ inputs, ban = some inputs ∧
        ∀ token, InVocab maxVocabSize token →
          ((inputs.bias maxVocabSize)[token.toNat]? = some kFloatNegInfinity ↔
            token ∈ bannedTokens ngramSize req.forwardingTokens after))

/-- Every call of a run does so. -/
structure RunBansRepeats (ngramSize promptStepTokenNum : Nat) (prompt : List Int)
    (steps : List (List Int)) : Prop where
  first : ∃ dict, BansRepeats ngramSize (ngramRequest prompt prompt promptStepTokenNum) ∅ dict
  later : ∀ done step rest, steps = done ++ step :: rest → ∃ before after,
    ngramRun ngramSize promptStepTokenNum prompt done = some (prompt ++ done.flatten, before) ∧
      BansRepeats ngramSize (ngramRequest prompt (prompt ++ done.flatten ++ step) step.length)
        before after

/-- No step takes a sequence shorter than `ngram_size - 1` to one of `ngram_size` tokens. -/
def NoNgramJump (ngramSize : Nat) (prompt : List Int) (steps : List (List Int)) : Prop :=
  ∀ done step rest, steps = done ++ step :: rest →
    ngramSize ≤ (prompt ++ done.flatten).length + 1 ∨
      (prompt ++ done.flatten ++ step).length < ngramSize

theorem HoldsNgrams.bansRepeats {ngramSize : Nat} {before after : NgramDict}
    (req : SamplerRequest) (h : HoldsNgrams ngramSize req.forwardingTokens after)
    (hpositive : 0 < ngramSize)
    (hinside : updateNgrams ngramSize req.inputTokens.length req.lastStepTokenNum
      req.forwardingTokens before = some after) :
    BansRepeats ngramSize req before after where
  inside := hinside
  banned := fun hlong _ => h.banned_iff hpositive hlong
  bias := by
    intro maxVocabSize hvocab
    rw [noRepeatNgramProcessor_eq, hinside, Option.bind_some]
    by_cases hshort : req.forwardingTokens.length < ngramSize
    · rw [if_pos hshort]
      exact ⟨none, rfl, fun hlong => absurd hshort (Nat.not_lt.mpr hlong)⟩
    · have hlong := Nat.le_of_not_lt hshort
      have hbanned : ∀ token ∈ bannedTokens ngramSize req.forwardingTokens after,
          InVocab maxVocabSize token := by
        intro token hmem
        have hoccurs := (h.banned_iff hpositive hlong).mp hmem
        exact hvocab token (hoccurs.subset (List.mem_append_right _ List.mem_cons_self))
      obtain ⟨ban, hban, hbias⟩ := banRepeatTokens_bias hbanned
      rw [if_neg hshort, hban, Option.map_some]
      exact ⟨some ban, rfl, fun _ => ⟨ban, rfl, hbias⟩⟩

section Run

variable {ngramSize : Nat} {prompt : List Int} {steps : List (List Int)}

theorem ngramRun_concat (promptStepTokenNum : Nat) (step : List Int) :
    ngramRun ngramSize promptStepTokenNum prompt (steps ++ [step]) =
      (ngramRun ngramSize promptStepTokenNum prompt steps).bind
        fun s => ngramStep ngramSize prompt s step := by
  rw [ngramRun, ngramRun, Option.bind_assoc]
  refine congrArg _ (funext fun dict => ?_)
  rw [List.foldlM_append]
  refine congrArg _ (funext fun s => ?_)
  rw [List.foldlM_cons]
  cases ngramStep ngramSize prompt s step <;> rfl

/-- While no step jumps, the dictionary holds all n-grams of the sequence. -/
theorem ngramRun_holds (steps : List (List Int)) (hpositive : 0 < ngramSize) (promptStepTokenNum : Nat)
    (hsteps : ∀ step ∈ steps, step ≠ []) (hjump : NoNgramJump ngramSize prompt steps) :
    ∃ dict, ngramRun ngramSize promptStepTokenNum prompt steps =
        some (prompt ++ steps.flatten, dict) ∧
      HoldsNgrams ngramSize (prompt ++ steps.flatten) dict := by
  induction steps using List.reverseRecOn with
  | nil =>
    obtain ⟨dict, hupdate, hholds⟩ := holdsNgrams_prompt prompt hpositive
      promptStepTokenNum
    rw [List.flatten_nil, List.append_nil, ngramRun, hupdate]
    exact ⟨dict, rfl, hholds⟩
  | append_singleton steps step ih =>
    obtain ⟨before, hrun, hbefore⟩ := ih
      (fun other hother => hsteps other (List.mem_append_left _ hother))
      fun done other rest hsplit => hjump done other (rest ++ [step]) (by rw [hsplit]; simp)
    have hstep := hsteps step (List.mem_append_right _ List.mem_cons_self)
    have hinput : prompt.length ≤ (prompt ++ steps.flatten).length := by
      rw [List.length_append]
      exact Nat.le_add_right _ _
    have hinside := hjump steps step [] rfl
    obtain ⟨after, hupdate⟩ := (updateNgrams_inside_iff before hstep hinput).mpr hinside
    have htokens : prompt ++ (steps ++ [step]).flatten = prompt ++ steps.flatten ++ step := by
      rw [List.flatten_append, List.flatten_singleton, List.append_assoc]
    rw [htokens, ngramRun_concat, hrun, Option.bind_some, ngramStep, hupdate]
    exact ⟨after, rfl, hbefore.later hstep hinput hpositive hinside hupdate⟩

end Run

/-- A run bans exactly the repeats, reading only inside the sequence, if and only if no step takes
a sequence shorter than `ngram_size - 1` to one of `ngram_size` tokens. -/
theorem ngram_bans_iff (ngramSize promptStepTokenNum : Nat) (prompt : List Int)
    (steps : List (List Int)) (hpositive : 1 ≤ ngramSize) (hsteps : ∀ step ∈ steps, step ≠ []) :
    RunBansRepeats ngramSize promptStepTokenNum prompt steps ↔
      NoNgramJump ngramSize prompt steps := by
  have hinput : ∀ done : List (List Int), prompt.length ≤ (prompt ++ done.flatten).length := by
    intro done
    rw [List.length_append]
    exact Nat.le_add_right _ _
  constructor
  · intro hrun done step rest hsplit
    have hstep := hsteps step (hsplit ▸ by simp)
    obtain ⟨before, after, -, hcall⟩ := hrun.later done step rest hsplit
    exact (updateNgrams_inside_iff before hstep (hinput done)).mp ⟨after, hcall.inside⟩
  · intro hjump
    refine ⟨?_, fun done step rest hsplit => ?_⟩
    · obtain ⟨dict, hupdate, hholds⟩ := holdsNgrams_prompt prompt hpositive
        promptStepTokenNum
      exact ⟨dict, HoldsNgrams.bansRepeats (ngramRequest prompt prompt promptStepTokenNum)
        hholds hpositive hupdate⟩
    · have hstep := hsteps step (hsplit ▸ by simp)
      obtain ⟨before, hrun, hbefore⟩ := ngramRun_holds done hpositive
        promptStepTokenNum (fun other hother => hsteps other (hsplit ▸ by simp [hother]))
        fun early other late hearly => hjump early other (late ++ step :: rest)
          (by rw [hsplit, hearly]; simp)
      have hinside := hjump done step rest hsplit
      obtain ⟨after, hupdate⟩ := (updateNgrams_inside_iff before hstep (hinput done)).mpr hinside
      have hafter := hbefore.later hstep (hinput done) hpositive hinside hupdate
      exact ⟨before, after, hrun, HoldsNgrams.bansRepeats
        (ngramRequest prompt (prompt ++ done.flatten ++ step) step.length) hafter hpositive hupdate⟩

/-- Trigrams of a prompt of two tokens, then a step of two. -/
theorem ngram_bans_iff_sample :
    RunBansRepeats 3 1 [5, 6] [[5, 6]] ↔ NoNgramJump 3 [5, 6] [[5, 6]] :=
  ngram_bans_iff 3 1 [5, 6] [[5, 6]] (by decide) (by decide)

/-- A prompt of one token and a step of two: the second trigram would start in front of the
sequence. -/
theorem ngram_starts_before_sequence : ¬ RunBansRepeats 3 1 [1] [[2, 3]] := by
  intro hrun
  obtain ⟨before, after, -, hcall⟩ := hrun.later [] [2, 3] [] rfl
  have hranges : ∃ dict, updateNgrams 3 1 [2, 3].length ([1] ++ [2, 3]) before = some dict :=
    ⟨after, hcall.inside⟩
  have hinside := (updateNgrams_inside_iff before (List.cons_ne_nil _ _) (Nat.le_refl 1)).mp hranges
  exact absurd hinside (by decide)

end KsanaBuildAhead.Executor
