import KsanaBuildAhead.Executor.BatchLayout
import KsanaBuildAhead.Executor.ReplaceLastToken

/-!
# Threads without a pair of their own

`Forward` starts one thread for each request, but a request without input tokens has no pair.
The last threads then read pairs an earlier step has left in the buffer. Threads run in any
order, so a placeholder goes to whichever of them comes first.
-/
namespace KsanaBuildAhead.Executor

open KsanaBuildAhead.Runtime KsanaBuildAhead.Lib.Segments

/-- The pair buffer of a step: its own pairs over what earlier steps have left. -/
def pairBuffer (reqs : List ForwardRequest) (previous : List (Int × Nat)) : List (Int × Nat) :=
  (prepareInputIds reqs).curBatchPairs ++ previous.drop (prepareInputIds reqs).curBatchPairs.length

/-- The pairs the threads of the step read. -/
def kernelPairs (reqs : List ForwardRequest) (previous : List (Int × Nat)) : List (Int × Nat) :=
  (pairBuffer reqs previous).take reqs.length

/-- Those of them that belong to an earlier step. -/
def surplusPairs (reqs : List ForwardRequest) (previous : List (Int × Nat)) : List (Int × Nat) :=
  (kernelPairs reqs previous).drop (prepareInputIds reqs).curBatchPairs.length

/-- The threads, one behind the other. -/
def runThreads {sampler : Sampler} (prevRing : DeviceRing sampler) (inputIds : List Int)
    (threads : List (Int × Nat)) : List Int :=
  threads.foldl (replaceThread prevRing) inputIds

theorem replaceLastTokenKernel_threads {sampler : Sampler} (prevRing : DeviceRing sampler)
    (reqs : List ForwardRequest) (previous : List (Int × Nat)) :
    replaceLastTokenKernel (prepareInputIds reqs).inputIds (pairBuffer reqs previous) prevRing
      reqs.length = runThreads prevRing (prepareInputIds reqs).inputIds (kernelPairs reqs previous) :=
  rfl

/-- The last position of a request in the flat input. -/
def LastPosition (reqs : List ForwardRequest) (req : ForwardRequest) (i : Nat) : Prop :=
  ∃ n, reqs[n]? = some req ∧ 0 < req.inputIds.length ∧
    i = segmentStart ForwardRequest.inputIds reqs (n + 1) - 1

section Pairs

variable {reqs : List ForwardRequest} {previous : List (Int × Nat)}

theorem LastPosition.unique {req other : ForwardRequest} {i : Nat}
    (hreq : LastPosition reqs req i) (hother : LastPosition reqs other i) : req = other := by
  obtain ⟨n, hn, hinput, hi⟩ := hreq
  obtain ⟨k, hk, hotherInput, hotherI⟩ := hother
  have hnext := segmentStart_succ ForwardRequest.inputIds hn
  have hotherNext := segmentStart_succ ForwardRequest.inputIds hk
  rcases Nat.lt_trichotomy n k with hbefore | rfl | hbehind
  · have hmono := segmentStart_mono ForwardRequest.inputIds reqs (Nat.succ_le_of_lt hbefore)
    rw [Nat.succ_eq_add_one] at hmono
    omega
  · exact Option.some.inj (hn.symm.trans hk)
  · have hmono := segmentStart_mono ForwardRequest.inputIds reqs (Nat.succ_le_of_lt hbehind)
    rw [Nat.succ_eq_add_one] at hmono
    omega

theorem mem_curBatchPairs {pair : Int × Nat} :
    pair ∈ (prepareInputIds reqs).curBatchPairs ↔
      ∃ req, LastPosition reqs req pair.2 ∧ pair.1 = req.reqId := by
  rw [(prepareInputIds_layout reqs).2 pair]
  constructor
  · rintro ⟨n, req, hreq, hinput, rfl⟩
    exact ⟨req, ⟨n, hreq, hinput, rfl⟩, rfl⟩
  · rintro ⟨req, ⟨n, hreq, hinput, hi⟩, hid⟩
    exact ⟨n, req, hreq, hinput, Prod.ext hid hi⟩

theorem kernelPairs_eq (reqs : List ForwardRequest) (previous : List (Int × Nat)) :
    kernelPairs reqs previous =
      (prepareInputIds reqs).curBatchPairs ++ surplusPairs reqs previous := by
  have hown : (kernelPairs reqs previous).take (prepareInputIds reqs).curBatchPairs.length =
      (prepareInputIds reqs).curBatchPairs := by
    rw [kernelPairs, List.take_take, Nat.min_eq_left (curBatchPairs_length_le reqs), pairBuffer,
      List.take_left]
  have hsplit := List.take_append_drop (prepareInputIds reqs).curBatchPairs.length
    (kernelPairs reqs previous)
  rw [hown] at hsplit
  exact hsplit.symm

end Pairs

section Threads

variable {sampler : Sampler} {prevRing : DeviceRing sampler}

/-- The token a thread puts in the place of a placeholder at `i`. -/
def tokenWritten (prevRing : DeviceRing sampler) (i : Nat) (pair : Int × Nat) : Option Int :=
  if pair.2 = i then
    ((prevRing.tokenOf pair.1).map castInt32).filter fun token =>
      decide (token ≠ kFastPathPlaceholderTokenId)
  else none

theorem tokenWritten_eq_some {i : Nat} {pair : Int × Nat} {value : Int} :
    tokenWritten prevRing i pair = some value ↔ pair.2 = i ∧
      value ≠ kFastPathPlaceholderTokenId ∧
      ∃ token, prevRing.tokenOf pair.1 = some token ∧ castInt32 token = value := by
  rw [tokenWritten]
  split
  case isTrue heq =>
    rw [Option.filter_eq_some_iff, Option.map_eq_some_iff, decide_eq_true_iff]
    exact ⟨fun ⟨htoken, hvalue⟩ => ⟨heq, hvalue, htoken⟩,
      fun ⟨_, hvalue, htoken⟩ => ⟨htoken, hvalue⟩⟩
  case isFalse hne =>
    constructor
    · intro h
      cases h
    · exact fun h => absurd h.1 hne

theorem replaceThread_at (inputIds : List Int) (pair : Int × Nat) (i : Nat) :
    (replaceThread prevRing inputIds pair)[i]? = inputIds[i]?.map fun held =>
      if held = kFastPathPlaceholderTokenId then (tokenWritten prevRing i pair).getD held
      else held := by
  rw [replaceThread, tokenWritten]
  by_cases hown : pair.2 = i
  · subst hown
    rw [if_pos rfl]
    cases hheld : inputIds[pair.2]? with
    | none =>
      rw [if_neg (by simp), hheld]
      rfl
    | some held =>
      by_cases hplaceholder : held = kFastPathPlaceholderTokenId
      · subst hplaceholder
        rw [if_pos rfl, Option.map_some, if_pos rfl]
        cases prevRing.tokenOf pair.1 with
        | none => exact hheld
        | some token =>
          obtain ⟨hlt, -⟩ := List.getElem?_eq_some_iff.mp hheld
          simp only [Option.map_some, List.getElem?_set_self hlt, Option.filter_some,
            decide_eq_true_iff]
          by_cases hcast : castInt32 token = kFastPathPlaceholderTokenId
          · rw [if_neg (not_not.mpr hcast), hcast]
            rfl
          · rw [if_pos hcast]
            rfl
      · rw [if_neg (fun h => hplaceholder (Option.some.inj h)), hheld, Option.map_some,
          if_neg hplaceholder]
  · have hsame : inputIds[i]? = inputIds[i]?.map fun held =>
        if held = kFastPathPlaceholderTokenId then (none : Option Int).getD held else held := by
      cases inputIds[i]? with
      | none => rfl
      | some held => simp
    rw [if_neg hown, ← hsame]
    split
    · split
      · exact List.getElem?_set_ne hown
      · rfl
    · rfl

/-- A placeholder goes to the first thread that has a token for its position. -/
theorem runThreads_at (inputIds : List Int) (threads : List (Int × Nat)) (i : Nat) :
    (runThreads prevRing inputIds threads)[i]? = inputIds[i]?.map fun held =>
      if held = kFastPathPlaceholderTokenId then
        (threads.findSome? (tokenWritten prevRing i)).getD held
      else held := by
  induction threads generalizing inputIds with
  | nil =>
    show inputIds[i]? = _
    cases inputIds[i]? with
    | none => rfl
    | some held => simp
  | cons pair threads ih =>
    have hrest := ih (replaceThread prevRing inputIds pair)
    rw [replaceThread_at] at hrest
    refine hrest.trans ?_
    rw [Option.map_map, List.findSome?_cons]
    refine congrArg (fun f => inputIds[i]?.map f) (funext fun held => ?_)
    simp only [Function.comp_apply]
    by_cases hplaceholder : held = kFastPathPlaceholderTokenId
    · cases hwritten : tokenWritten prevRing i pair with
      | none => simp only [if_pos hplaceholder, Option.getD_none]
      | some value =>
        have hreal := (tokenWritten_eq_some.mp hwritten).2.1
        simp only [if_pos hplaceholder, Option.getD_some, if_neg hreal]
    · simp only [if_neg hplaceholder]

end Threads

/-- A request of the batch ends with a placeholder at `i`, and the ring has `token` for it. -/
def Replaced {sampler : Sampler} (prevRing : DeviceRing sampler) (reqs : List ForwardRequest)
    (i : Nat) (token : Int) : Prop :=
  (prepareInputIds reqs).inputIds[i]? = some kFastPathPlaceholderTokenId ∧
    ∃ req, LastPosition reqs req i ∧ prevRing.tokenOf req.reqId = some token

/-- These placeholders are replaced, and nothing else is changed. -/
structure ReplacesExactly {sampler : Sampler} (prevRing : DeviceRing sampler)
    (reqs : List ForwardRequest) (inputIds : List Int) : Prop where
  replaced : ∀ i token, Replaced prevRing reqs i token → inputIds[i]? = some (castInt32 token)
  kept : ∀ i, (∀ token, ¬ Replaced prevRing reqs i token) →
    inputIds[i]? = (prepareInputIds reqs).inputIds[i]?

/-- A pair whose thread writes nothing, or what the request that ends there gets anyway. -/
def HarmlessPair {sampler : Sampler} (prevRing : DeviceRing sampler) (reqs : List ForwardRequest)
    (pair : Int × Nat) : Prop :=
  ∀ token, tokenWritten prevRing pair.2 pair = some token →
    (prepareInputIds reqs).inputIds[pair.2]? = some kFastPathPlaceholderTokenId →
    ∃ own, Replaced prevRing reqs pair.2 own ∧ castInt32 own = token

section Exact

variable {sampler : Sampler} {prevRing : DeviceRing sampler} {reqs : List ForwardRequest}
  {previous : List (Int × Nat)}

theorem Replaced.unique {i : Nat} {token other : Int} (h : Replaced prevRing reqs i token)
    (hother : Replaced prevRing reqs i other) : token = other := by
  obtain ⟨-, req, hlast, htoken⟩ := h
  obtain ⟨-, owner, howner, hotherToken⟩ := hother
  obtain rfl := hlast.unique howner
  exact Option.some.inj (htoken.symm.trans hotherToken)

/-- A pair of the step itself is the one of the request that ends there. -/
theorem harmless_own {pair : Int × Nat} (hpair : pair ∈ (prepareInputIds reqs).curBatchPairs) :
    HarmlessPair prevRing reqs pair := by
  intro token hwritten hplaceholder
  obtain ⟨req, hlast, hid⟩ := mem_curBatchPairs.mp hpair
  obtain ⟨-, -, found, hfound, hcast⟩ := tokenWritten_eq_some.mp hwritten
  rw [hid] at hfound
  exact ⟨found, ⟨hplaceholder, req, hlast, hfound⟩, hcast⟩

/-- Threads that are all harmless change what they should, in any order. -/
theorem runThreads_exact {threads : List (Int × Nat)}
    (hown : ∀ pair ∈ (prepareInputIds reqs).curBatchPairs, pair ∈ threads)
    (hharmless : ∀ pair ∈ threads, HarmlessPair prevRing reqs pair) :
    ReplacesExactly prevRing reqs
      (runThreads prevRing (prepareInputIds reqs).inputIds threads) := by
  constructor
  · intro i token hreplaced
    obtain ⟨hplaceholder, req, hlast, htoken⟩ := hreplaced
    rw [runThreads_at, hplaceholder, Option.map_some, if_pos rfl]
    cases hfirst : threads.findSome? (tokenWritten prevRing i) with
    | none =>
      have hthread := List.findSome?_eq_none_iff.mp hfirst (req.reqId, i)
        (hown _ (mem_curBatchPairs.mpr ⟨req, hlast, rfl⟩))
      by_contra hne
      have hreal : castInt32 token ≠ kFastPathPlaceholderTokenId :=
        fun hcast => hne (by rw [hcast]; rfl)
      have hwritten : tokenWritten prevRing i (req.reqId, i) = some (castInt32 token) :=
        tokenWritten_eq_some.mpr ⟨rfl, hreal, token, htoken, rfl⟩
      rw [hthread] at hwritten
      cases hwritten
    | some value =>
      obtain ⟨pair, hpair, hwritten⟩ := List.exists_of_findSome?_eq_some hfirst
      obtain rfl := (tokenWritten_eq_some.mp hwritten).1
      obtain ⟨own, howned, hcast⟩ := hharmless pair hpair value hwritten hplaceholder
      obtain rfl := howned.unique ⟨hplaceholder, req, hlast, htoken⟩
      rw [Option.getD_some, hcast]
  · intro i hnone
    rw [runThreads_at]
    cases hheld : (prepareInputIds reqs).inputIds[i]? with
    | none => rfl
    | some held =>
      rw [Option.map_some]
      split
      case isFalse => rfl
      case isTrue hplaceholder =>
        subst hplaceholder
        cases hfirst : threads.findSome? (tokenWritten prevRing i) with
        | none => rfl
        | some value =>
          obtain ⟨pair, hpair, hwritten⟩ := List.exists_of_findSome?_eq_some hfirst
          obtain rfl := (tokenWritten_eq_some.mp hwritten).1
          obtain ⟨own, howned, -⟩ := hharmless pair hpair value hwritten hheld
          exact absurd howned (hnone own)

/-- Whatever order the threads run in, the step changes exactly what it should, if and only if
no surplus thread finds a placeholder and a token that do not belong together. -/
theorem replacement_exact (prevRing : DeviceRing sampler) (reqs : List ForwardRequest)
    (previous : List (Int × Nat)) :
    (∀ threads : List (Int × Nat), threads.Perm (kernelPairs reqs previous) →
      ReplacesExactly prevRing reqs
        (runThreads prevRing (prepareInputIds reqs).inputIds threads)) ↔
      ∀ pair ∈ surplusPairs reqs previous, HarmlessPair prevRing reqs pair := by
  constructor
  · intro hexact pair hpair value hwritten hplaceholder
    have hmem : pair ∈ kernelPairs reqs previous := by
      rw [kernelPairs_eq]
      exact List.mem_append_right _ hpair
    have hresult := hexact _ (List.perm_cons_erase hmem).symm
    have hafter : (runThreads prevRing (prepareInputIds reqs).inputIds
        (pair :: (kernelPairs reqs previous).erase pair))[pair.2]? = some value := by
      rw [runThreads_at, hplaceholder, Option.map_some, if_pos rfl, List.findSome?_cons, hwritten]
      rfl
    by_cases hreplaced : ∃ own, Replaced prevRing reqs pair.2 own
    · obtain ⟨own, howned⟩ := hreplaced
      have hwritten := hresult.replaced _ own howned
      rw [hafter] at hwritten
      exact ⟨own, howned, (Option.some.inj hwritten).symm⟩
    · have hkept := hresult.kept _ (not_exists.mp hreplaced)
      rw [hafter, hplaceholder] at hkept
      exact absurd (Option.some.inj hkept) (tokenWritten_eq_some.mp hwritten).2.1
  · intro hsurplus threads hperm
    have hmem : ∀ pair, pair ∈ threads ↔ pair ∈ (prepareInputIds reqs).curBatchPairs ∨
        pair ∈ surplusPairs reqs previous := by
      intro pair
      rw [hperm.mem_iff, kernelPairs_eq, List.mem_append]
    refine runThreads_exact (fun pair hpair => (hmem pair).mpr (Or.inl hpair)) fun pair hpair => ?_
    rcases (hmem pair).mp hpair with hown | hextra
    · exact harmless_own hown
    · exact hsurplus pair hextra

end Exact

/-! The third request of a batch has nothing to compute, and its thread reads the third pair of an
earlier batch. -/

def surplusReqs : List ForwardRequest :=
  [{ reqId := 7, forwardingTokens := [11, 12] },
   { reqId := 8, forwardingTokens := [20, 21, -1, -1], kvCachedTokenNum := 2 },
   { reqId := 9, forwardingTokens := [30], kvCachedTokenNum := 1 }].map
    buildForwardRequestFromInferRequest

def earlierReqs : List ForwardRequest :=
  [{ reqId := 4, forwardingTokens := [50] }, { reqId := 5, forwardingTokens := [51] },
   { reqId := 6, forwardingTokens := [52] }].map buildForwardRequestFromInferRequest

def surplusSampler : Sampler where
  maxBatchSize := 2
  maxDecodeTokensPerReq := 1
  verifyArgs _ := true

def surplusRing : DeviceRing surplusSampler where
  count := 2
  slots := [(8, 80), (6, 60)]
  room := rfl

/-- The first slot of the block of request 8 takes the token of a request that is not in the
batch. -/
theorem surplus_thread_writes :
    (surplusReqs.map ForwardRequest.reqId).Nodup ∧ (surplusRing.entries.map Prod.fst).Nodup ∧
      replaceLastTokenKernel (prepareInputIds surplusReqs).inputIds
        (pairBuffer surplusReqs (prepareInputIds earlierReqs).curBatchPairs) surplusRing
        surplusReqs.length = [11, 12, 60, 80] ∧
      ¬ ReplacesExactly surplusRing surplusReqs [11, 12, 60, 80] := by
  refine ⟨by decide, by decide, by decide, fun hexact => ?_⟩
  have hkept := hexact.kept 2 fun token hreplaced => by
    obtain ⟨-, req, ⟨n, hreq, hinput, hlast⟩, -⟩ := hreplaced
    have hn : n < 3 := (List.getElem?_eq_some_iff.mp hreq).1
    have hpositions : ∀ k < 3,
        2 ≠ segmentStart ForwardRequest.inputIds surplusReqs (k + 1) - 1 := by decide
    exact hpositions n hn hlast
  exact absurd hkept (by decide)

end KsanaBuildAhead.Executor
