import KsanaBuildAhead.Executor.SampleRing

/-!
# The replacement of the last tokens

Before the embedding, one thread for each request of the step looks at the last token of the
request in the flat input. A placeholder there is replaced by the token the ring of the step
before holds for the request; every other position is left alone.
-/
namespace KsanaBuildAhead.Executor

open KsanaBuildAhead.Runtime KsanaBuildAhead.Lib.ListEdit

/-- `static_cast<int32_t>` of a token in the ring. -/
def castInt32 (token : Int) : Int := token.bmod (2 ^ 32)

/-- The token a scan of the ring finds for a request: that of the first entry with its id. -/
def DeviceRing.tokenOf {sampler : Sampler} (ring : DeviceRing sampler) (reqId : Int) : Option Int :=
  (ring.entries.find? fun entry => entry.1 == reqId).map Prod.snd

/-- One thread: at the offset of its pair it replaces a placeholder, if the ring has a token. -/
def replaceThread {sampler : Sampler} (prevRing : DeviceRing sampler) (inputIds : List Int)
    (pair : Int × Nat) : List Int :=
  if inputIds[pair.2]? = some kFastPathPlaceholderTokenId then
    match prevRing.tokenOf pair.1 with
    | some token => inputIds.set pair.2 (castInt32 token)
    | none => inputIds
  else inputIds

/-- The first `batchSize` pairs of the buffer have a thread each. -/
def replaceLastTokenKernel {sampler : Sampler} (inputIds : List Int) (curPairs : List (Int × Nat))
    (prevRing : DeviceRing sampler) (batchSize : Nat) : List Int :=
  (curPairs.take batchSize).foldl (replaceThread prevRing) inputIds

theorem castInt32_eq {token : Int} (hnonneg : 0 ≤ token) (hlt : token < 2 ^ 31) :
    castInt32 token = token := by
  rw [castInt32, Int.bmod_def]
  omega

variable {sampler : Sampler} {prevRing : DeviceRing sampler}

/-- A placeholder behind a thread was there before it, and the thread found no token for it. -/
theorem replaceThread_placeholder {inputIds : List Int} {pair : Int × Nat} {i : Nat}
    (h : (replaceThread prevRing inputIds pair)[i]? = some kFastPathPlaceholderTokenId) :
    inputIds[i]? = some kFastPathPlaceholderTokenId ∧ (pair.2 = i → ∀ token,
      prevRing.tokenOf pair.1 = some token → castInt32 token = kFastPathPlaceholderTokenId) := by
  rw [replaceThread] at h
  split at h
  case isTrue hplaceholder =>
    cases hfound : prevRing.tokenOf pair.1 with
    | none =>
      rw [hfound] at h
      exact ⟨h, fun _ token htoken => by cases htoken⟩
    | some found =>
      rw [hfound] at h
      by_cases hown : pair.2 = i
      · subst hown
        refine ⟨hplaceholder, fun _ token htoken => ?_⟩
        obtain ⟨hlt, -⟩ := List.getElem?_eq_some_iff.mp hplaceholder
        rw [List.getElem?_set_self hlt] at h
        obtain rfl := Option.some.inj htoken
        exact Option.some.inj h
      · rw [List.getElem?_set_ne hown] at h
        exact ⟨h, fun heq => absurd heq hown⟩
  case isFalse hother =>
    refine ⟨h, fun heq => ?_⟩
    subst heq
    exact absurd h hother

theorem replaceLastTokenKernel_placeholder {inputIds : List Int} {curPairs : List (Int × Nat)}
    {batchSize i : Nat}
    (h : (replaceLastTokenKernel inputIds curPairs prevRing batchSize)[i]? =
      some kFastPathPlaceholderTokenId) :
    inputIds[i]? = some kFastPathPlaceholderTokenId ∧
      ∀ reqId, (reqId, i) ∈ curPairs.take batchSize → ∀ token,
        prevRing.tokenOf reqId = some token → castInt32 token = kFastPathPlaceholderTokenId := by
  rw [replaceLastTokenKernel] at h
  generalize curPairs.take batchSize = threads at h ⊢
  induction threads generalizing inputIds with
  | nil => exact ⟨h, fun _ hmem => absurd hmem List.not_mem_nil⟩
  | cons thread threads ih =>
    obtain ⟨hbehind, hrest⟩ := ih h
    obtain ⟨hbefore, hthread⟩ := replaceThread_placeholder hbehind
    refine ⟨hbefore, fun reqId hmem => ?_⟩
    rcases List.mem_cons.mp hmem with rfl | hmem
    · exact hthread rfl
    · exact hrest reqId hmem

theorem replaceLastTokenKernel_frame {inputIds : List Int} {curPairs : List (Int × Nat)}
    {batchSize i : Nat} (h : ∀ pair ∈ curPairs.take batchSize, pair.2 ≠ i) :
    (replaceLastTokenKernel inputIds curPairs prevRing batchSize)[i]? = inputIds[i]? := by
  rw [replaceLastTokenKernel]
  generalize curPairs.take batchSize = threads at h ⊢
  induction threads generalizing inputIds with
  | nil => rfl
  | cons thread threads ih =>
    rw [List.foldl_cons, ih fun pair hmem => h pair (List.mem_cons_of_mem _ hmem), replaceThread]
    have hother := h thread List.mem_cons_self
    split
    · split
      · exact List.getElem?_set_ne hother
      · rfl
    · rfl

end KsanaBuildAhead.Executor
