import KsanaBuildAhead.Lib.Execution
import KsanaBuildAhead.Lib.FlatRows
import Mathlib.Algebra.Order.Floor.Div
import Mathlib.Data.List.Nodup
import Mathlib.Logic.Function.Basic

/-!
# Masks of constrained requests

A request with a grammar may only sample what its grammar accepts next. The masks of such requests
stand side by side in a buffer that leaves no room for the others, while the logits have a row for
every sampled position, so a mask and the row it belongs to have different places.
-/
namespace KsanaBuildAhead.Executor.Grammar

open Lib.Execution Lib.FlatRows

variable {M L : Type}

/-- The grammar matchers, and the kernel that applies a mask to a row of logits. -/
structure Backend (M L : Type) where
  fillNextTokenBitmask : M → List UInt32 → List UInt32 × Bool
  acceptToken : M → Nat → M × Bool
  applyTokenBitmaskInplace : List L → List UInt32 → List L

/-- What samples from each row in one step, with the soft-max in front of it, its parameters and
its random numbers: a banned token only where all are. -/
structure TopkSampling (L : Type) (banned : L) where
  selectToken : Nat → List L → Nat
  allowed : ∀ (i : Nat) (logits : List L),
    (∃ token < logits.length, logits[token]? ≠ some banned) →
      selectToken i logits < logits.length ∧ logits[selectToken i logits]? ≠ some banned

/-- `ceil(max_vocab_size / 32.0f)`, as it is for every size a float holds. -/
def bitmaskElements (maxVocabSize : Nat) : Nat := maxVocabSize ⌈/⌉ 32

/-- Whether a mask leaves a token. -/
def tokenBit (mask : List UInt32) (token : Nat) : Bool :=
  (mask.getD (token / 32) 0).toNat.testBit (token % 32)

/-- What their documentation says. A mask has one bit for every token the matcher accepts next,
and a matcher asks for none when it accepts all. The logit of a masked token is `banned`. -/
structure Documented (backend : Backend M L) (vocabSize : Nat) (banned : L) : Prop where
  fill_length : ∀ matcher mask,
    (backend.fillNextTokenBitmask matcher mask).1.length = mask.length
  fill_needed : ∀ matcher mask, mask.length = bitmaskElements vocabSize →
    (backend.fillNextTokenBitmask matcher mask).2 = true →
    ∀ token < vocabSize, tokenBit (backend.fillNextTokenBitmask matcher mask).1 token =
      (backend.acceptToken matcher token).2
  fill_free : ∀ matcher mask, mask.length = bitmaskElements vocabSize →
    (backend.fillNextTokenBitmask matcher mask).2 = false → ∀ token < vocabSize,
      (backend.acceptToken matcher token).2 = true ∧
      (tokenBit mask token = true →
        tokenBit (backend.fillNextTokenBitmask matcher mask).1 token = true)
  apply_length : ∀ logits mask,
    (backend.applyTokenBitmaskInplace logits mask).length = logits.length
  apply_token : ∀ logits mask, ∀ token < logits.length,
    (backend.applyTokenBitmaskInplace logits mask)[token]? =
      if tokenBit mask token then logits[token]? else some banned

/-- In the Sampler this too is divided as a float and cut, elsewhere it is a division of ints. -/
def bitmaskStride (vocabSize : Nat) : Nat := (vocabSize + 32 - 1) / 32

theorem bitmaskStride_eq (vocabSize : Nat) : bitmaskStride vocabSize = bitmaskElements vocabSize :=
  (Nat.ceilDiv_eq_add_pred_div vocabSize 32).symm

variable (backend : Backend M L)

/-- The loop over the requests with masks, number `i` first. -/
def applyTokenBitmaskSelective (vocabSize : Nat) (bitmaskData : List UInt32) :
    Nat → List Nat → List L → Except String (List L)
  | _, [], logits => .ok logits
  | i, offset :: logitsOffsets, logits =>
    if HasRow vocabSize offset logits ∧ HasRow (bitmaskStride vocabSize) i bitmaskData then
      applyTokenBitmaskSelective vocabSize bitmaskData (i + 1) logitsOffsets
        (setRow vocabSize offset
          (backend.applyTokenBitmaskInplace (row vocabSize offset logits)
            (row (bitmaskStride vocabSize) i bitmaskData)) logits)
    else .error "outside the buffers"

/-- Each matcher writes its mask, number `i` first. -/
def fillBitmasks (elements : Nat) : Nat → List M → List UInt32 → List UInt32 × Bool
  | _, [], hostVocabMask => (hostVocabMask, false)
  | i, matcher :: matchers, hostVocabMask =>
    let (batchBitmask, needsMask) :=
      backend.fillNextTokenBitmask matcher (row elements i hostVocabMask)
    let (hostVocabMask, hasActiveGrammar) :=
      fillBitmasks elements (i + 1) matchers (setRow elements i batchBitmask hostVocabMask)
    (hostVocabMask, needsMask || hasActiveGrammar)

/-- All bits set. -/
def fullMask : UInt32 := 0xFFFFFFFF

/-- The constrained requests of a batch, each by its matcher and the row of its first token. -/
def applyGrammarMask (enableXgrammar : Bool) (maxVocabSize : Nat) (grammarReqs : List (M × Nat))
    (hostVocabMask : List UInt32) (logits : List L) : Except String (List L × List UInt32) :=
  if !enableXgrammar || grammarReqs.isEmpty then .ok (logits, hostVocabMask)
  else
    let elements := bitmaskElements maxVocabSize
    let filled := grammarReqs.length * elements
    if hostVocabMask.length < filled then .error "vocab mask too small"
    else
      let (hostVocabMask, hasActiveGrammar) := fillBitmasks backend elements 0
        (grammarReqs.map Prod.fst) (List.replicate filled fullMask ++ hostVocabMask.drop filled)
      if hasActiveGrammar then do
        let logits ← applyTokenBitmaskSelective backend maxVocabSize (hostVocabMask.take filled) 0
          (grammarReqs.map Prod.snd) logits
        .ok (logits, hostVocabMask)
      else .ok (logits, hostVocabMask)

variable {backend} {vocabSize : Nat} {banned : L}

theorem applyTokenBitmaskSelective_spec (hdoc : Documented backend vocabSize banned)
    {bitmaskData : List UInt32} {i : Nat} {logitsOffsets : List Nat} {logits : List L}
    (hdistinct : logitsOffsets.Nodup) (hrows : ∀ offset ∈ logitsOffsets,
      HasRow vocabSize offset logits)
    (hmasks : ∀ k < logitsOffsets.length, HasRow (bitmaskStride vocabSize) (i + k) bitmaskData) :
    ∃ masked, applyTokenBitmaskSelective backend vocabSize bitmaskData i logitsOffsets logits =
        .ok masked ∧ masked.length = logits.length ∧
      (∀ k, (hk : k < logitsOffsets.length) → row vocabSize logitsOffsets[k] masked =
        backend.applyTokenBitmaskInplace (row vocabSize logitsOffsets[k] logits)
          (row (bitmaskStride vocabSize) (i + k) bitmaskData)) ∧
      ∀ other, HasRow vocabSize other logits → other ∉ logitsOffsets →
        row vocabSize other masked = row vocabSize other logits := by
  induction logitsOffsets generalizing i logits with
  | nil => exact ⟨logits, rfl, rfl, fun k hk => absurd hk (Nat.not_lt_zero k), fun _ _ _ => rfl⟩
  | cons offset logitsOffsets ih =>
    obtain ⟨hfirst, hrest⟩ := List.forall_mem_cons.mp hrows
    obtain ⟨hnew, hdistinct⟩ := List.nodup_cons.mp hdistinct
    have hmask : HasRow (bitmaskStride vocabSize) i bitmaskData := hmasks 0 (Nat.succ_pos _)
    generalize hvalues : backend.applyTokenBitmaskInplace (row vocabSize offset logits)
      (row (bitmaskStride vocabSize) i bitmaskData) = values
    have hlength : values.length = vocabSize := by
      rw [← hvalues, hdoc.apply_length, row_length hfirst]
    have hrows' : ∀ other ∈ logitsOffsets,
        HasRow vocabSize other (setRow vocabSize offset values logits) :=
      fun other hmem => (hasRow_setRow hfirst hlength).mpr (hrest other hmem)
    have hmasks' : ∀ k < logitsOffsets.length,
        HasRow (bitmaskStride vocabSize) (i + 1 + k) bitmaskData := by
      intro k hk
      rw [Nat.add_assoc, Nat.add_comm 1 k]
      exact hmasks (k + 1) (Nat.succ_lt_succ hk)
    obtain ⟨masked, hmasked, hsame, hown, hothers⟩ := ih hdistinct hrows' hmasks'
    refine ⟨masked, ?_, hsame.trans (setRow_length hfirst hlength), ?_, ?_⟩
    · rw [applyTokenBitmaskSelective, if_pos ⟨hfirst, hmask⟩, hvalues, hmasked]
    · intro k hk
      cases k with
      | zero =>
        rw [List.getElem_cons_zero, hothers offset ((hasRow_setRow hfirst hlength).mpr hfirst) hnew,
          row_setRow_self hfirst hlength, ← hvalues, Nat.add_zero]
      | succ k =>
        have hk' : k < logitsOffsets.length := Nat.lt_of_succ_lt_succ hk
        have hne : offset ≠ logitsOffsets[k] := fun heq => hnew (heq ▸ List.getElem_mem hk')
        rw [List.getElem_cons_succ, hown k hk',
          row_setRow_ne hfirst hlength (hrest _ (List.getElem_mem hk')) hne, Nat.add_assoc,
          Nat.add_comm 1 k]
    · intro other hother hnot
      obtain ⟨hne, hnot⟩ := not_or.mp (List.mem_cons.not.mp hnot)
      rw [hothers other ((hasRow_setRow hfirst hlength).mpr hother) hnot,
        row_setRow_ne hfirst hlength hother (Ne.symm hne)]

theorem fillBitmasks_spec (hdoc : Documented backend vocabSize banned) {elements i : Nat}
    {matchers : List M} {mask : List UInt32}
    (hmasks : ∀ k < matchers.length, HasRow elements (i + k) mask) :
    (fillBitmasks backend elements i matchers mask).1.length = mask.length ∧
      (∀ k, (hk : k < matchers.length) →
        row elements (i + k) (fillBitmasks backend elements i matchers mask).1 =
          (backend.fillNextTokenBitmask matchers[k] (row elements (i + k) mask)).1) ∧
      (∀ j < i, HasRow elements j mask →
        row elements j (fillBitmasks backend elements i matchers mask).1 = row elements j mask) ∧
      ((fillBitmasks backend elements i matchers mask).2 = true ↔
        ∃ k, ∃ hk : k < matchers.length,
          (backend.fillNextTokenBitmask matchers[k] (row elements (i + k) mask)).2 = true) := by
  induction matchers generalizing i mask with
  | nil =>
    refine ⟨rfl, fun k hk => absurd hk (Nat.not_lt_zero k), fun _ _ _ => rfl, ?_⟩
    constructor
    · intro h
      exact absurd h Bool.false_ne_true
    · rintro ⟨k, hk, -⟩
      exact absurd hk (Nat.not_lt_zero k)
  | cons matcher matchers ih =>
    have hfirst : HasRow elements i mask := hmasks 0 (Nat.succ_pos _)
    generalize hvalues : (backend.fillNextTokenBitmask matcher (row elements i mask)).1 = values
    have hlength : values.length = elements := by
      rw [← hvalues, hdoc.fill_length, row_length hfirst]
    have hshift : ∀ k, i + 1 + k = i + (k + 1) := fun k => by omega
    have hbehind : ∀ k < matchers.length, HasRow elements (i + 1 + k) mask := by
      intro k hk
      rw [hshift]
      exact hmasks (k + 1) (Nat.succ_lt_succ hk)
    have hbehind' : ∀ k < matchers.length,
        HasRow elements (i + 1 + k) (setRow elements i values mask) :=
      fun k hk => (hasRow_setRow hfirst hlength).mpr (hbehind k hk)
    obtain ⟨hsame, hown, hbefore, hactive⟩ := ih hbehind'
    have hrow : ∀ k < matchers.length, row elements (i + 1 + k) (setRow elements i values mask) =
        row elements (i + (k + 1)) mask := by
      intro k hk
      rw [row_setRow_ne hfirst hlength (hbehind k hk) (by omega), hshift]
    have hmask : (fillBitmasks backend elements i (matcher :: matchers) mask).1 =
        (fillBitmasks backend elements (i + 1) matchers (setRow elements i values mask)).1 := by
      rw [fillBitmasks, ← hvalues]
    have hneeds : (fillBitmasks backend elements i (matcher :: matchers) mask).2 =
        ((backend.fillNextTokenBitmask matcher (row elements i mask)).2 ||
          (fillBitmasks backend elements (i + 1) matchers (setRow elements i values mask)).2) := by
      rw [fillBitmasks, ← hvalues]
    refine ⟨by rw [hmask, hsame, setRow_length hfirst hlength], ?_, ?_, ?_⟩
    · intro k hk
      rw [hmask]
      cases k with
      | zero =>
        rw [Nat.add_zero,
          hbefore i (Nat.lt_succ_self i) ((hasRow_setRow hfirst hlength).mpr hfirst),
          row_setRow_self hfirst hlength, ← hvalues]
        rfl
      | succ k =>
        have hk' : k < matchers.length := Nat.lt_of_succ_lt_succ hk
        rw [← hshift, hown k hk', hrow k hk', hshift]
        rfl
    · intro j hj hj'
      rw [hmask, hbefore j (by omega) ((hasRow_setRow hfirst hlength).mpr hj'),
        row_setRow_ne hfirst hlength hj' (by omega)]
    · rw [hneeds, Bool.or_eq_true, hactive]
      constructor
      · rintro (hneeds | ⟨k, hk, hneeds⟩)
        · exact ⟨0, Nat.succ_pos _, hneeds⟩
        · rw [hrow k hk] at hneeds
          exact ⟨k + 1, Nat.succ_lt_succ hk, hneeds⟩
      · rintro ⟨k, hk, hneeds⟩
        cases k with
        | zero => exact Or.inl hneeds
        | succ k =>
          have hk' : k < matchers.length := Nat.lt_of_succ_lt_succ hk
          refine Or.inr ⟨k, hk', ?_⟩
          rw [hrow k hk']
          exact hneeds

/-- The row of a constrained request: what its grammar does not accept is banned, the rest is as
the model computed it. -/
def RowFollows (backend : Backend M L) (banned : L) (matcher : M) (before after : List L) : Prop :=
  after.length = before.length ∧ ∀ token < before.length, after[token]? =
    if (backend.acceptToken matcher token).2 then before[token]? else some banned

theorem le_bitmaskElements (maxVocabSize : Nat) :
    maxVocabSize ≤ bitmaskElements maxVocabSize * 32 := by
  rw [← bitmaskStride_eq, bitmaskStride]
  omega

theorem tokenBit_full {elements token : Nat} (h : token < elements * 32) :
    tokenBit (List.replicate elements fullMask) token = true := by
  have hword : token / 32 < elements := Nat.div_lt_of_lt_mul (by rwa [Nat.mul_comm])
  have hbit : ∀ bit < 32, fullMask.toNat.testBit bit = true := by decide
  rw [tokenBit, List.getD_eq_getElem?_getD, List.getElem?_replicate_of_lt hword, Option.getD_some]
  exact hbit _ (Nat.mod_lt _ (by decide))

theorem rowFollows_needed (hdoc : Documented backend vocabSize banned) {matcher : M}
    {mask : List UInt32} (hmask : mask.length = bitmaskElements vocabSize)
    (hneeds : (backend.fillNextTokenBitmask matcher mask).2 = true)
    {before : List L} (hlength : before.length = vocabSize) :
    RowFollows backend banned matcher before (backend.applyTokenBitmaskInplace before
      (backend.fillNextTokenBitmask matcher mask).1) := by
  refine ⟨hdoc.apply_length .., fun token htoken => ?_⟩
  rw [hdoc.apply_token _ _ token htoken, hdoc.fill_needed _ _ hmask hneeds token (hlength ▸ htoken)]

theorem rowFollows_masked (hdoc : Documented backend vocabSize banned) (matcher : M)
    {before : List L} (hlength : before.length = vocabSize) :
    RowFollows backend banned matcher before (backend.applyTokenBitmaskInplace before
      (backend.fillNextTokenBitmask matcher
        (List.replicate (bitmaskElements vocabSize) fullMask)).1) := by
  cases hneeds : (backend.fillNextTokenBitmask matcher
      (List.replicate (bitmaskElements vocabSize) fullMask)).2 with
  | true => exact rowFollows_needed hdoc List.length_replicate hneeds hlength
  | false =>
    refine ⟨hdoc.apply_length .., fun token htoken => ?_⟩
    rw [hdoc.apply_token _ _ token htoken]
    rw [hlength] at htoken
    obtain ⟨haccepts, hkept⟩ := hdoc.fill_free _ _ List.length_replicate hneeds token htoken
    rw [hkept (tokenBit_full (Nat.lt_of_lt_of_le htoken (le_bitmaskElements vocabSize))), haccepts]

theorem rowFollows_free (hdoc : Documented backend vocabSize banned) {matcher : M}
    {mask : List UInt32} (hmask : mask.length = bitmaskElements vocabSize)
    (hfree : (backend.fillNextTokenBitmask matcher mask).2 = false)
    {before : List L} (hlength : before.length = vocabSize) :
    RowFollows backend banned matcher before before := by
  refine ⟨rfl, fun token htoken => ?_⟩
  rw [if_pos (hdoc.fill_free _ _ hmask hfree token (hlength ▸ htoken)).1]

/-- What the mask of a batch does to its logits. -/
structure Masked (backend : Backend M L) (vocabSize : Nat) (banned : L)
    (grammarReqs : List (M × Nat)) (before after : List L) : Prop where
  length : after.length = before.length
  own : ∀ req ∈ grammarReqs, RowFollows backend banned req.1 (row vocabSize req.2 before)
    (row vocabSize req.2 after)
  others : ∀ other, HasRow vocabSize other before → other ∉ grammarReqs.map Prod.snd →
    row vocabSize other after = row vocabSize other before

theorem applyGrammarMask_masks (hdoc : Documented backend vocabSize banned)
    {grammarReqs : List (M × Nat)} {hostVocabMask : List UInt32} {logits : List L}
    (hdistinct : (grammarReqs.map Prod.snd).Nodup)
    (hrows : ∀ req ∈ grammarReqs, HasRow vocabSize req.2 logits)
    (hroom : grammarReqs.length * bitmaskElements vocabSize ≤ hostVocabMask.length) :
    ∃ masked mask, applyGrammarMask backend true vocabSize grammarReqs hostVocabMask logits =
        .ok (masked, mask) ∧ mask.length = hostVocabMask.length ∧
      Masked backend vocabSize banned grammarReqs logits masked := by
  cases hempty : grammarReqs.isEmpty with
  | true =>
    refine ⟨logits, hostVocabMask, by simp [applyGrammarMask, hempty], rfl, rfl, ?_,
      fun _ _ _ => rfl⟩
    rw [List.isEmpty_iff.mp hempty]
    exact fun _ hmem => absurd hmem List.not_mem_nil
  | false =>
    generalize hfilled : grammarReqs.length * bitmaskElements vocabSize = filled at hroom
    generalize hstart : List.replicate filled fullMask ++ hostVocabMask.drop filled = start
    have hlength : start.length = hostVocabMask.length := by
      rw [← hstart, List.length_append, List.length_replicate, List.length_drop]
      omega
    have hinside : ∀ k < grammarReqs.length, (k + 1) * bitmaskElements vocabSize ≤ filled := by
      intro k hk
      rw [← hfilled]
      exact Nat.mul_le_mul_right _ hk
    have hmatchers : ∀ k < (grammarReqs.map Prod.fst).length,
        HasRow (bitmaskElements vocabSize) (0 + k) start := by
      intro k hk
      rw [List.length_map] at hk
      rw [Nat.zero_add, HasRow, hlength]
      exact (hinside k hk).trans hroom
    have hfull : ∀ k < grammarReqs.length, row (bitmaskElements vocabSize) (0 + k) start =
        List.replicate (bitmaskElements vocabSize) fullMask := by
      intro k hk
      rw [Nat.zero_add, ← hstart, ← hfilled]
      exact row_replicate hk
    obtain ⟨hsame, hown, -, hactive⟩ := fillBitmasks_spec hdoc hmatchers
    generalize hfill : fillBitmasks backend (bitmaskElements vocabSize) 0
      (grammarReqs.map Prod.fst) start = filling at hsame hown hactive
    have hbefore : ∀ req ∈ grammarReqs, (row vocabSize req.2 logits).length = vocabSize :=
      fun req hmem => row_length (hrows req hmem)
    have happly : applyGrammarMask backend true vocabSize grammarReqs hostVocabMask logits =
        if filling.2 then do
          let logits ← applyTokenBitmaskSelective backend vocabSize (filling.1.take filled) 0
            (grammarReqs.map Prod.snd) logits
          .ok (logits, filling.1)
        else .ok (logits, filling.1) := by
      rw [applyGrammarMask, hempty, if_neg (by decide)]
      dsimp only
      rw [hfilled, if_neg (Nat.not_lt.mpr hroom), hstart, hfill]
    cases hneeds : filling.2 with
    | false =>
      refine ⟨logits, filling.1, by rw [happly, hneeds]; rfl, hsame.trans hlength, rfl, ?_,
        fun _ _ _ => rfl⟩
      intro req hmem
      obtain ⟨k, hk, rfl⟩ := List.getElem_of_mem hmem
      have hfree : (backend.fillNextTokenBitmask grammarReqs[k].1
          (List.replicate (bitmaskElements vocabSize) fullMask)).2 = false := by
        by_contra hasks
        rw [Bool.not_eq_false] at hasks
        have hk' : k < (grammarReqs.map Prod.fst).length := by rwa [List.length_map]
        refine Bool.false_ne_true (hneeds.symm.trans (hactive.mpr ⟨k, hk', ?_⟩))
        rw [List.getElem_map, hfull k hk]
        exact hasks
      exact rowFollows_free hdoc List.length_replicate hfree (hbefore _ hmem)
    | true =>
      have hmasks : ∀ k < (grammarReqs.map Prod.snd).length,
          HasRow (bitmaskStride vocabSize) (0 + k) (filling.1.take filled) := by
        intro k hk
        rw [List.length_map] at hk
        rw [Nat.zero_add, HasRow, bitmaskStride_eq, List.length_take, hsame, hlength]
        exact le_min (hinside k hk) ((hinside k hk).trans hroom)
      have hoffsets : ∀ offset ∈ grammarReqs.map Prod.snd, HasRow vocabSize offset logits := by
        intro offset hmem
        obtain ⟨req, hreq, rfl⟩ := List.mem_map.mp hmem
        exact hrows req hreq
      obtain ⟨masked, hmasked, hcount, hrow, hothers⟩ :=
        applyTokenBitmaskSelective_spec hdoc hdistinct hoffsets hmasks
      refine ⟨masked, filling.1, by rw [happly, hneeds, if_pos rfl, hmasked]; rfl,
        hsame.trans hlength, hcount, ?_, hothers⟩
      intro req hmem
      obtain ⟨k, hk, rfl⟩ := List.getElem_of_mem hmem
      have hkfst : k < (grammarReqs.map Prod.fst).length := by rwa [List.length_map]
      have hksnd : k < (grammarReqs.map Prod.snd).length := by rwa [List.length_map]
      have hown := hown k hkfst
      rw [List.getElem_map, hfull k hk] at hown
      have hrow := hrow k hksnd
      rw [List.getElem_map, bitmaskStride_eq, row_take (by rw [Nat.zero_add]; exact hinside k hk),
        hown] at hrow
      rw [hrow]
      exact rowFollows_masked hdoc _ (hbefore _ hmem)

/-- What the Sampler reads of a request. -/
structure SamplingRequest where
  reqId : Int
  logitsOffset : Nat
  samplingTokenNum : Nat
  logitsCustomLength : Nat := 0
  applyGrammarConstraint : Bool
deriving Repr, DecidableEq

/-- The matchers of the requests, the buffers between two steps, and, what the Sampler does not
keep, the tokens each matcher was given. -/
structure SamplerState (M L : Type) where
  grammarMatchers : Int → Option M
  hostVocabMask : List UInt32
  deviceLogits : List L := []
  hostOutputTokens : List Nat := []
  accepted : Int → List Nat := fun _ => []

/-- The requests of a step, their logits up to the masks, and what samples from them. -/
structure SamplingStep (L : Type) (banned : L) where
  samplingReqs : List SamplingRequest
  logits : List L
  topk : TopkSampling L banned

def constrainedReqs (grammarMatchers : Int → Option M) (samplingReqs : List SamplingRequest) :
    List (M × Nat) :=
  samplingReqs.filterMap fun req =>
    if req.applyGrammarConstraint then
      (grammarMatchers req.reqId).map fun matcher => (matcher, req.logitsOffset)
    else none

/-- The rows that are sampled. -/
def batchSize (samplingReqs : List SamplingRequest) : Nat :=
  (samplingReqs.map SamplingRequest.samplingTokenNum).sum

def doSampling (samplingReqs : List SamplingRequest) : Bool :=
  samplingReqs.any fun req => req.logitsCustomLength = 0

variable (vocabSize) in
def selectTopkTokens (topk : TopkSampling L banned) (samplingReqs : List SamplingRequest)
    (logits : List L) (hostOutputTokens : List Nat) : List Nat :=
  if doSampling samplingReqs then
    (List.range (batchSize samplingReqs)).map (fun i =>
      topk.selectToken i (row vocabSize i logits)) ++
      hostOutputTokens.drop (batchSize samplingReqs)
  else hostOutputTokens

/-- What a request is given of the sampled tokens. -/
def samplingResultTokens (hostOutputTokens : List Nat) (req : SamplingRequest) : List Nat :=
  (hostOutputTokens.drop req.logitsOffset).take req.samplingTokenNum

variable (backend) in
/-- The matcher of a constrained request takes the first token. -/
def updateGrammarState (hostOutputTokens : List Nat) (s : SamplerState M L)
    (req : SamplingRequest) : SamplerState M L :=
  match s.grammarMatchers req.reqId, samplingResultTokens hostOutputTokens req with
  | some matcher, tokenId :: _ =>
    if req.applyGrammarConstraint then
      { s with
        grammarMatchers := Function.update s.grammarMatchers req.reqId
          (some (backend.acceptToken matcher tokenId).1)
        accepted := Function.update s.accepted req.reqId (s.accepted req.reqId ++ [tokenId]) }
    else s
  | _, _ => s

variable (backend) (vocabSize) in
def sampling (s : SamplerState M L) (step : SamplingStep L banned) :
    Except String (SamplerState M L) := do
  let (deviceLogits, hostVocabMask) ← applyGrammarMask backend true vocabSize
    (constrainedReqs s.grammarMatchers step.samplingReqs) s.hostVocabMask step.logits
  let hostOutputTokens :=
    selectTopkTokens vocabSize step.topk step.samplingReqs deviceLogits s.hostOutputTokens
  .ok (step.samplingReqs.foldl (updateGrammarState backend hostOutputTokens)
    { s with
      hostVocabMask := hostVocabMask
      deviceLogits := deviceLogits
      hostOutputTokens := hostOutputTokens })

variable (backend) in
/-- The matcher after tokens it accepts one by one. -/
def acceptAll (matcher : M) : List Nat → Option M
  | [] => some matcher
  | token :: tokens =>
    if (backend.acceptToken matcher token).2 then
      acceptAll (backend.acceptToken matcher token).1 tokens
    else none

theorem acceptAll_concat {matcher final : M} {tokens : List Nat} {token : Nat}
    (h : acceptAll backend matcher tokens = some final)
    (haccepts : (backend.acceptToken final token).2 = true) :
    acceptAll backend matcher (tokens ++ [token]) =
      some (backend.acceptToken final token).1 := by
  induction tokens generalizing matcher with
  | nil =>
    obtain rfl := Option.some.inj h
    rw [List.nil_append, acceptAll, if_pos haccepts, acceptAll]
  | cons first tokens ih =>
    rw [acceptAll] at h
    split at h
    · next hfirst => rw [List.cons_append, acceptAll, if_pos hfirst, ih h]
    · cases h

/-- What a step needs: its rows are there, no two requests share an id, no two constrained ones a
row, and where a grammar constrains a request it leaves it some token the model does not rule
out. -/
structure StepFits (backend : Backend M L) (vocabSize maxBatchSize : Nat)
    (s : SamplerState M L) (step : SamplingStep L banned) : Prop where
  ids : (step.samplingReqs.map SamplingRequest.reqId).Nodup
  offsets : ((constrainedReqs s.grammarMatchers step.samplingReqs).map Prod.snd).Nodup
  batch : step.samplingReqs.length ≤ maxBatchSize
  rows : batchSize step.samplingReqs * vocabSize ≤ step.logits.length
  inside : ∀ req ∈ constrainedReqs s.grammarMatchers step.samplingReqs,
    req.2 < batchSize step.samplingReqs
  free : ∀ req ∈ step.samplingReqs, req.applyGrammarConstraint = true →
    ∀ matcher, s.grammarMatchers req.reqId = some matcher → req.logitsCustomLength = 0 ∧
      ∃ token < vocabSize, (backend.acceptToken matcher token).2 = true ∧
        (row vocabSize req.logitsOffset step.logits)[token]? ≠ some banned

instance [DecidableEq L] {backend : Backend M L} {vocabSize maxBatchSize : Nat}
    {s : SamplerState M L} {step : SamplingStep L banned} :
    Decidable (StepFits backend vocabSize maxBatchSize s step) :=
  decidable_of_iff
    ((step.samplingReqs.map SamplingRequest.reqId).Nodup ∧
      ((constrainedReqs s.grammarMatchers step.samplingReqs).map Prod.snd).Nodup ∧
      step.samplingReqs.length ≤ maxBatchSize ∧
      batchSize step.samplingReqs * vocabSize ≤ step.logits.length ∧
      (∀ req ∈ constrainedReqs s.grammarMatchers step.samplingReqs,
        req.2 < batchSize step.samplingReqs) ∧
      ∀ req ∈ step.samplingReqs, req.applyGrammarConstraint = true →
        ∀ matcher ∈ s.grammarMatchers req.reqId, req.logitsCustomLength = 0 ∧
          ∃ token < vocabSize, (backend.acceptToken matcher token).2 = true ∧
            (row vocabSize req.logitsOffset step.logits)[token]? ≠ some banned)
    ⟨fun ⟨ids, offsets, batch, rows, inside, free⟩ => ⟨ids, offsets, batch, rows, inside, free⟩,
      fun h => ⟨h.ids, h.offsets, h.batch, h.rows, h.inside, h.free⟩⟩

/-- Every matcher has taken all the tokens it was given. -/
structure Follows (backend : Backend M L) (vocabSize maxBatchSize : Nat)
    (start s : SamplerState M L) : Prop where
  mask : s.hostVocabMask.length = maxBatchSize * bitmaskElements vocabSize
  accepted : ∀ reqId matcher, start.grammarMatchers reqId = some matcher →
    ∃ final, s.grammarMatchers reqId = some final ∧
      acceptAll backend matcher (s.accepted reqId) = some final

/-- A step: each row meets the mask of its own request only, and its token is sampled from what
the mask left of it. -/
structure StepMasks (backend : Backend M L) (vocabSize : Nat) (s : SamplerState M L)
    (step : SamplingStep L banned) (t : SamplerState M L) : Prop where
  masked : Masked backend vocabSize banned (constrainedReqs s.grammarMatchers step.samplingReqs)
    step.logits t.deviceLogits
  sampled : doSampling step.samplingReqs = true → ∀ i < batchSize step.samplingReqs,
    t.hostOutputTokens[i]? = some (step.topk.selectToken i (row vocabSize i t.deviceLogits))

section Run

variable {maxBatchSize : Nat} {start s : SamplerState M L}

theorem constrainedReqs_mem {grammarMatchers : Int → Option M} {samplingReqs : List SamplingRequest}
    {matcher : M} {offset : Nat} :
    (matcher, offset) ∈ constrainedReqs grammarMatchers samplingReqs ↔
      ∃ req ∈ samplingReqs, req.applyGrammarConstraint = true ∧
        grammarMatchers req.reqId = some matcher ∧ req.logitsOffset = offset := by
  rw [constrainedReqs, List.mem_filterMap]
  constructor
  · rintro ⟨req, hmem, hreq⟩
    split at hreq
    · next hconstrained =>
      obtain ⟨found, hfound, heq⟩ := Option.map_eq_some_iff.mp hreq
      obtain ⟨rfl, rfl⟩ := Prod.mk.inj heq
      exact ⟨req, hmem, hconstrained, hfound, rfl⟩
    · cases hreq
  · rintro ⟨req, hmem, hconstrained, hfound, rfl⟩
    exact ⟨req, hmem, by rw [if_pos hconstrained, hfound]; rfl⟩

theorem selectToken_accepted (topk : TopkSampling L banned) (i : Nat) {matcher : M}
    {before after : List L} (hlength : before.length = vocabSize)
    (hrow : RowFollows backend banned matcher before after)
    (hfree : ∃ token < vocabSize, (backend.acceptToken matcher token).2 = true ∧
      before[token]? ≠ some banned) :
    (backend.acceptToken matcher (topk.selectToken i after)).2 = true := by
  obtain ⟨token, htoken, haccepts, hfree⟩ := hfree
  have hkept : after[token]? ≠ some banned := by
    rw [hrow.2 token (hlength.symm ▸ htoken), if_pos haccepts]
    exact hfree
  obtain ⟨hselected, hallowed⟩ := topk.allowed i after
    ⟨token, by rw [hrow.1, hlength]; exact htoken, hkept⟩
  by_contra hrejected
  rw [hrow.1] at hselected
  exact hallowed (by rw [hrow.2 _ hselected, if_neg hrejected])

variable (backend) in
theorem updateGrammarState_cases (hostOutputTokens : List Nat) (s : SamplerState M L)
    (req : SamplingRequest) :
    updateGrammarState backend hostOutputTokens s req = s ∨
      ∃ matcher tokenId rest, req.applyGrammarConstraint = true ∧
        s.grammarMatchers req.reqId = some matcher ∧
        samplingResultTokens hostOutputTokens req = tokenId :: rest ∧
        updateGrammarState backend hostOutputTokens s req =
          { s with
            grammarMatchers := Function.update s.grammarMatchers req.reqId
              (some (backend.acceptToken matcher tokenId).1)
            accepted := Function.update s.accepted req.reqId
              (s.accepted req.reqId ++ [tokenId]) } := by
  rw [updateGrammarState]
  split
  · next matcher tokenId rest hmatcher htokens =>
    split
    · next hconstrained =>
      exact Or.inr ⟨matcher, tokenId, rest, hconstrained, hmatcher, htokens, rfl⟩
    · exact Or.inl rfl
  · exact Or.inl rfl

theorem Follows.given (h : Follows backend vocabSize maxBatchSize start s) {reqId : Int}
    {matcher : M} (hmatcher : s.grammarMatchers reqId = some matcher) {tokenId : Nat}
    (haccepts : (backend.acceptToken matcher tokenId).2 = true) :
    Follows backend vocabSize maxBatchSize start
      { s with
        grammarMatchers := Function.update s.grammarMatchers reqId
          (some (backend.acceptToken matcher tokenId).1)
        accepted := Function.update s.accepted reqId (s.accepted reqId ++ [tokenId]) } where
  mask := h.mask
  accepted := by
    intro other first hfirst
    obtain ⟨final, hfinal, haccepted⟩ := h.accepted other first hfirst
    by_cases hother : other = reqId
    · subst hother
      obtain rfl := Option.some.inj (hmatcher.symm.trans hfinal)
      refine ⟨_, Function.update_self .., ?_⟩
      dsimp only
      rw [Function.update_self]
      exact acceptAll_concat haccepted haccepts
    · refine ⟨final, ?_, ?_⟩
      · dsimp only
        rwa [Function.update_of_ne hother]
      · dsimp only
        rwa [Function.update_of_ne hother]

/-- The loop over the requests, when every token is one its matcher accepts. -/
theorem updateGrammarState_follows {hostOutputTokens : List Nat}
    {samplingReqs : List SamplingRequest} (h : Follows backend vocabSize maxBatchSize start s)
    (hids : (samplingReqs.map SamplingRequest.reqId).Nodup)
    (haccepts : ∀ req ∈ samplingReqs, req.applyGrammarConstraint = true →
      ∀ matcher, s.grammarMatchers req.reqId = some matcher →
        ∀ tokenId rest, samplingResultTokens hostOutputTokens req = tokenId :: rest →
          (backend.acceptToken matcher tokenId).2 = true) :
    Follows backend vocabSize maxBatchSize start
      (samplingReqs.foldl (updateGrammarState backend hostOutputTokens) s) := by
  induction samplingReqs generalizing s with
  | nil => exact h
  | cons req samplingReqs ih =>
    obtain ⟨hnew, hids⟩ := List.nodup_cons.mp hids
    obtain ⟨hfirst, hrest⟩ := List.forall_mem_cons.mp haccepts
    rw [List.foldl_cons]
    rcases updateGrammarState_cases backend hostOutputTokens s req with
      hsame | ⟨matcher, tokenId, rest, hconstrained, hmatcher, htokens, hupdated⟩
    · rw [hsame]
      exact ih h hids hrest
    · rw [hupdated]
      refine ih (h.given hmatcher (hfirst hconstrained matcher hmatcher tokenId rest htokens))
        hids ?_
      intro other hmem hother found hfound
      -- the others have ids, and so matchers, of their own
      have hne : other.reqId ≠ req.reqId := fun heq =>
        hnew (heq ▸ List.mem_map_of_mem (f := SamplingRequest.reqId) hmem)
      dsimp only at hfound
      rw [Function.update_of_ne hne] at hfound
      exact hrest other hmem hother found hfound

theorem selectTopkTokens_getElem? {topk : TopkSampling L banned}
    {samplingReqs : List SamplingRequest} {logits : List L} {hostOutputTokens : List Nat} {i : Nat}
    (hdo : doSampling samplingReqs = true) (hi : i < batchSize samplingReqs) :
    (selectTopkTokens vocabSize topk samplingReqs logits hostOutputTokens)[i]? =
      some (topk.selectToken i (row vocabSize i logits)) := by
  rw [selectTopkTokens, if_pos hdo, List.getElem?_append_left (by simpa using hi),
    List.getElem?_map, List.getElem?_range hi, Option.map_some]

theorem samplingResultTokens_head {topk : TopkSampling L banned}
    {samplingReqs : List SamplingRequest} {logits : List L}
    {hostOutputTokens rest : List Nat} {req : SamplingRequest} {tokenId : Nat}
    (hdo : doSampling samplingReqs = true) (hinside : req.logitsOffset < batchSize samplingReqs)
    (htokens : samplingResultTokens
      (selectTopkTokens vocabSize topk samplingReqs logits hostOutputTokens) req =
        tokenId :: rest) :
    tokenId = topk.selectToken req.logitsOffset (row vocabSize req.logitsOffset logits) := by
  have hhead : (samplingResultTokens
      (selectTopkTokens vocabSize topk samplingReqs logits hostOutputTokens) req)[0]? =
        some tokenId := by
    rw [htokens]
    rfl
  have hsome : 0 < req.samplingTokenNum := by
    by_contra hnone
    rw [samplingResultTokens, Nat.eq_zero_of_not_pos hnone, List.take_zero] at htokens
    cases htokens
  rw [samplingResultTokens, List.getElem?_take_of_lt hsome, List.getElem?_drop, Nat.add_zero,
    selectTopkTokens_getElem? hdo hinside] at hhead
  exact (Option.some.inj hhead).symm

variable (backend) in
theorem updateGrammarState_buffers (hostOutputTokens : List Nat)
    (samplingReqs : List SamplingRequest) (s : SamplerState M L) :
    (samplingReqs.foldl (updateGrammarState backend hostOutputTokens) s).deviceLogits =
        s.deviceLogits ∧
      (samplingReqs.foldl (updateGrammarState backend hostOutputTokens) s).hostOutputTokens =
        s.hostOutputTokens := by
  induction samplingReqs generalizing s with
  | nil => exact ⟨rfl, rfl⟩
  | cons req samplingReqs ih =>
    obtain ⟨hlogits, htokens⟩ := ih (updateGrammarState backend hostOutputTokens s req)
    rw [List.foldl_cons, hlogits, htokens]
    rcases updateGrammarState_cases backend hostOutputTokens s req with
      hsame | ⟨matcher, tokenId, rest, -, -, -, hupdated⟩
    · rw [hsame]
      exact ⟨rfl, rfl⟩
    · rw [hupdated]
      exact ⟨rfl, rfl⟩

theorem sampling_follows (hdoc : Documented backend vocabSize banned)
    {step : SamplingStep L banned} (h : Follows backend vocabSize maxBatchSize start s)
    (hfits : StepFits backend vocabSize maxBatchSize s step) :
    ∃ t, sampling backend vocabSize s step = .ok t ∧
      Follows backend vocabSize maxBatchSize start t ∧ StepMasks backend vocabSize s step t := by
  obtain ⟨samplingReqs, logits, topk⟩ := step
  have hrow : ∀ offset < batchSize samplingReqs, HasRow vocabSize offset logits := by
    intro offset hoffset
    exact (Nat.mul_le_mul_right vocabSize hoffset).trans hfits.rows
  have hroom : (constrainedReqs s.grammarMatchers samplingReqs).length * bitmaskElements vocabSize ≤
      s.hostVocabMask.length := by
    rw [h.mask]
    exact Nat.mul_le_mul_right _ ((List.length_filterMap_le ..).trans hfits.batch)
  obtain ⟨masked, mask, hmasked, hmask, hmasks⟩ := applyGrammarMask_masks hdoc hfits.offsets
    (fun req hmem => hrow req.2 (hfits.inside req hmem)) hroom
  dsimp only at hmasked hmasks
  generalize htokens : selectTopkTokens vocabSize topk samplingReqs masked s.hostOutputTokens =
    hostOutputTokens
  have hbuffers : Follows backend vocabSize maxBatchSize start
      { s with
        hostVocabMask := mask
        deviceLogits := masked
        hostOutputTokens := hostOutputTokens } := ⟨hmask.trans h.mask, h.accepted⟩
  obtain ⟨hlogits, hsampled⟩ := updateGrammarState_buffers backend hostOutputTokens
    samplingReqs { s with
      hostVocabMask := mask
      deviceLogits := masked
      hostOutputTokens := hostOutputTokens }
  refine ⟨_, by rw [sampling]; dsimp only; rw [hmasked]; dsimp only [bind, Except.bind]; rw [htokens],
    updateGrammarState_follows hbuffers hfits.ids ?_, ⟨?_, ?_⟩⟩
  · intro req hmem hconstrained matcher hmatcher tokenId rest hgiven
    obtain ⟨hcustom, hfree⟩ := hfits.free req hmem hconstrained matcher hmatcher
    have hpair : (matcher, req.logitsOffset) ∈ constrainedReqs s.grammarMatchers samplingReqs :=
      constrainedReqs_mem.mpr ⟨req, hmem, hconstrained, hmatcher, rfl⟩
    have hinside : req.logitsOffset < batchSize samplingReqs := hfits.inside _ hpair
    have hdo : doSampling samplingReqs = true :=
      List.any_eq_true.mpr ⟨req, hmem, decide_eq_true hcustom⟩
    rw [← htokens] at hgiven
    rw [samplingResultTokens_head hdo hinside hgiven]
    exact selectToken_accepted topk _ (row_length (hrow _ hinside)) (hmasks.own _ hpair) hfree
  · rw [hlogits]
    exact hmasks
  · intro hdo i hi
    rw [hlogits, hsampled]
    dsimp only
    rw [← htokens]
    exact selectTopkTokens_getElem? hdo hi

/-- Over any run of steps, with requests that come and go and share steps in any way, no mask is
read or written outside its buffers, every row meets the mask of its own request only, and every
grammar accepts all the tokens its request was given first in each step. -/
theorem constrained_decoding_accepts (hdoc : Documented backend vocabSize banned)
    {steps : List (SamplingStep L banned)}
    (hmask : start.hostVocabMask.length = maxBatchSize * bitmaskElements vocabSize)
    (hnone : start.accepted = fun _ => [])
    (hfits : EachStep (sampling backend vocabSize) (StepFits backend vocabSize maxBatchSize) start
      steps) :
    (∃ t, exec (sampling backend vocabSize) start steps = .ok t ∧
      Follows backend vocabSize maxBatchSize start t) ∧
    EachStep (sampling backend vocabSize) (fun s step => ∃ t,
      sampling backend vocabSize s step = .ok t ∧ StepMasks backend vocabSize s step t) start
        steps := by
  have hstart : Follows backend vocabSize maxBatchSize start start := by
    refine ⟨hmask, fun reqId matcher hmatcher => ⟨matcher, hmatcher, ?_⟩⟩
    rw [hnone]
    rfl
  constructor
  · refine exec_ok_of (fun s step h hC => ?_) hstart hfits
    obtain ⟨t, ht, hfollows, -⟩ := sampling_follows hdoc h hC
    exact ⟨t, ht, hfollows⟩
  · refine hfits.of_invariant (fun s step h hC => ?_) hstart
    obtain ⟨t, ht, hfollows, hmasks⟩ := sampling_follows hdoc h hC
    exact ⟨⟨t, ht, hmasks⟩, fun next hnext => Except.ok.inj (ht.symm.trans hnext) ▸ hfollows⟩

end Run

/-- A grammar that wants as many ones as its state says, then anything. Minus one is banned. -/
def sampleBackend : Backend Nat Int where
  fillNextTokenBitmask owed mask := if owed = 0 then (mask, false) else (mask.map fun _ => 2, true)
  acceptToken owed token := if owed = 0 then (0, true) else (owed - 1, token = 1)
  applyTokenBitmaskInplace logits mask :=
    logits.mapIdx fun token logit => if tokenBit mask token then logit else -1

theorem sampleBackend_documented : Documented sampleBackend 2 (-1) where
  fill_length owed mask := by
    simp only [sampleBackend]
    split
    · rfl
    · exact List.length_map ..
  fill_needed owed mask hmask hneeds token htoken := by
    obtain ⟨word, rfl⟩ := List.length_eq_one_iff.mp (hmask.trans (by decide))
    cases owed with
    | zero => cases hneeds
    | succ owed =>
      simp only [sampleBackend, if_neg (Nat.succ_ne_zero owed), List.map_cons, List.map_nil]
      have hmasks : ∀ token < 2, tokenBit [2] token = decide (token = 1) := by decide
      exact hmasks token htoken
  fill_free owed mask hmask hfree token htoken := by
    cases owed with
    | zero => exact ⟨rfl, id⟩
    | succ owed => cases hfree
  apply_length logits mask := List.length_mapIdx
  apply_token logits mask token htoken := by
    simp only [sampleBackend, List.getElem?_mapIdx, List.getElem?_eq_getElem htoken,
      Option.map_some]
    split <;> rfl

/-- The first token that is not banned, or the last one. -/
def sampleTopk (fromEnd : Bool) : TopkSampling Int (-1) where
  selectToken _ logits :=
    ((if fromEnd then (List.range logits.length).reverse else List.range logits.length).find?
      fun token => logits[token]? ≠ some (-1)).getD 0
  allowed _ logits hfree := by
    obtain ⟨token, htoken, hlogit⟩ := hfree
    generalize htokens : (if fromEnd then (List.range logits.length).reverse
      else List.range logits.length) = tokens
    have hmem : ∀ other, other ∈ tokens ↔ other < logits.length := by
      rw [← htokens]
      cases fromEnd <;> simp
    cases hfind : tokens.find? fun token => logits[token]? ≠ some (-1) with
    | none =>
      have hnone := List.find?_eq_none.mp hfind token ((hmem token).mpr htoken)
      exact absurd (decide_eq_true hlogit) hnone
    | some found =>
      have hselected := List.find?_some hfind
      rw [Option.getD_some]
      exact ⟨(hmem found).mp (List.mem_of_find?_eq_some hfind), of_decide_eq_true hselected⟩

/-- Two requests owe ones, the third is not constrained. Every row prefers token zero. -/
def sampleSampler : SamplerState Nat Int where
  grammarMatchers := fun reqId => if reqId = 7 then some 2 else if reqId = 9 then some 1 else none
  hostVocabMask := [0, 0]

def sampleSteps : List (SamplingStep Int (-1)) :=
  [⟨[⟨8, 0, 1, 0, true⟩, ⟨7, 1, 2, 0, true⟩], [5, 3, 5, 3, 5, 3], sampleTopk false⟩,
    ⟨[⟨9, 1, 1, 0, true⟩, ⟨7, 0, 1, 0, true⟩], [5, 3, 5, 3], sampleTopk true⟩,
    ⟨[⟨7, 0, 1, 0, true⟩], [5, 3], sampleTopk false⟩]

theorem constrained_decoding_accepts_sample :
    (∃ t, exec (sampling sampleBackend 2) sampleSampler sampleSteps = .ok t ∧
      Follows sampleBackend 2 2 sampleSampler t) ∧
    EachStep (sampling sampleBackend 2) (fun s step => ∃ t,
      sampling sampleBackend 2 s step = .ok t ∧ StepMasks sampleBackend 2 s step t) sampleSampler
        sampleSteps :=
  constrained_decoding_accepts sampleBackend_documented (by decide) rfl
    (eachStep_of_check (by decide))

example : (exec (sampling sampleBackend 2) sampleSampler sampleSteps).toOption.map (fun t =>
    (t.accepted 7, t.accepted 8, t.accepted 9)) = some ([1, 1, 0], [], [1]) := by decide

section Generators

/-- A request of the batch with its generator, if it has one. A middle chunk samples no row. -/
structure GeneratorRequest (M : Type) where
  structuredGenerator : Option M := none
  samplingTokenNum : Nat
  logitsOffset : Nat
deriving Repr, DecidableEq

variable (backend) in
/-- The generators that are not through and ask for a mask leave the row their request begins at,
and a mask of one stride. -/
def generateBitmasks (isTerminated : M → Bool) (stride : Nat) :
    List (GeneratorRequest M) → List Nat × List UInt32
  | [] => ([], [])
  | req :: reqs =>
    let (logitsOffsets, combinedBitmask) := generateBitmasks isTerminated stride reqs
    match req.structuredGenerator with
    | none => (logitsOffsets, combinedBitmask)
    | some generator =>
      if isTerminated generator then (logitsOffsets, combinedBitmask)
      else
        let (bitmask, needConstraint) :=
          backend.fillNextTokenBitmask generator (List.replicate stride 0)
        if needConstraint then (req.logitsOffset :: logitsOffsets, bitmask ++ combinedBitmask)
        else (logitsOffsets, combinedBitmask)

/-- The words of `device_bitmask_`, which is only allocated where grammars are enabled. -/
def bitmaskCapacity (enableXgrammar : Bool) (maxBatchSize vocabSize : Nat) : Nat :=
  if enableXgrammar then maxBatchSize * bitmaskStride vocabSize else 0

variable (backend) in
/-- The masks are copied to the device buffer and applied from there. -/
def generateAndApplyBitmask (isTerminated : M → Bool) (vocabSize capacity : Nat)
    (reqs : List (GeneratorRequest M)) (logits : List L) : Except String (List L) :=
  let (logitsOffsets, combinedBitmask) :=
    generateBitmasks backend isTerminated (bitmaskStride vocabSize) reqs
  if logitsOffsets.isEmpty || combinedBitmask.isEmpty then .ok logits
  else if capacity < combinedBitmask.length then .error "bitmask buffer too small"
  else applyTokenBitmaskSelective backend vocabSize combinedBitmask 0 logitsOffsets logits

/-- The generator of a request that is not through. -/
def GeneratorRequest.atWork (isTerminated : M → Bool) (req : GeneratorRequest M) : Option M :=
  req.structuredGenerator.filter fun generator => !isTerminated generator

/-- The generators that are not through, with the rows their requests begin at. -/
def activeGenerators (isTerminated : M → Bool) (reqs : List (GeneratorRequest M)) :
    List (M × Nat) :=
  reqs.filterMap fun req => (req.atWork isTerminated).map (·, req.logitsOffset)

/-- The requests have their rows one behind the other. -/
def LaidOut : Nat → List (GeneratorRequest M) → Prop
  | _, [] => True
  | start, req :: reqs => req.logitsOffset = start ∧ LaidOut (start + req.samplingTokenNum) reqs

def generatorRows (reqs : List (GeneratorRequest M)) : Nat :=
  (reqs.map GeneratorRequest.samplingTokenNum).sum

variable (backend) in
/-- Those of them that ask for a mask. -/
def masking (stride : Nat) (generators : List (M × Nat)) : List (M × Nat) :=
  generators.filter fun req =>
    (backend.fillNextTokenBitmask req.1 (List.replicate stride 0)).2

variable {isTerminated : M → Bool} {stride : Nat}

theorem generateBitmasks_eq (reqs : List (GeneratorRequest M)) :
    generateBitmasks backend isTerminated stride reqs =
      ((masking backend stride (activeGenerators isTerminated reqs)).map Prod.snd,
        ((masking backend stride (activeGenerators isTerminated reqs)).map fun req =>
          (backend.fillNextTokenBitmask req.1 (List.replicate stride 0)).1).flatten) := by
  induction reqs with
  | nil => rfl
  | cons req reqs ih =>
    obtain ⟨structuredGenerator, samplingTokenNum, logitsOffset⟩ := req
    rw [generateBitmasks, ih]
    cases structuredGenerator with
    | none => rfl
    | some generator =>
      cases hterminated : isTerminated generator with
      | true => simp [activeGenerators, GeneratorRequest.atWork, hterminated, Option.filter]
      | false =>
        cases hneeds : (backend.fillNextTokenBitmask generator (List.replicate stride 0)).2 with
        | true =>
          simp [activeGenerators, GeneratorRequest.atWork, masking, hterminated, hneeds,
            Option.filter]
        | false =>
          simp [activeGenerators, GeneratorRequest.atWork, masking, hterminated, hneeds,
            Option.filter]

/-- Generators whose requests sample have rows of their own, in the order of the batch. -/
theorem activeGenerators_rows {start : Nat} {reqs : List (GeneratorRequest M)}
    (hlayout : LaidOut start reqs)
    (hsamples : ∀ req ∈ reqs, (req.atWork isTerminated).isSome = true → 0 < req.samplingTokenNum) :
    ((activeGenerators isTerminated reqs).map Prod.snd).Pairwise (· < ·) ∧
      ∀ req ∈ activeGenerators isTerminated reqs,
        start ≤ req.2 ∧ req.2 < start + generatorRows reqs := by
  induction reqs generalizing start with
  | nil => exact ⟨.nil, fun _ hmem => absurd hmem List.not_mem_nil⟩
  | cons first reqs ih =>
    obtain ⟨hfirst, hrest⟩ := hlayout
    obtain ⟨hown, hothers⟩ := List.forall_mem_cons.mp hsamples
    obtain ⟨hsorted, hinside⟩ := ih hrest hothers
    have hrows : generatorRows (first :: reqs) = first.samplingTokenNum + generatorRows reqs := by
      rw [generatorRows, List.map_cons, List.sum_cons]
      rfl
    rw [hrows]
    cases hwork : first.atWork isTerminated with
    | none =>
      have hnone : activeGenerators isTerminated (first :: reqs) =
          activeGenerators isTerminated reqs := by
        rw [activeGenerators, List.filterMap_cons_none (by rw [hwork]; rfl)]
        rfl
      rw [hnone]
      refine ⟨hsorted, fun req hmem => ?_⟩
      have := hinside req hmem
      omega
    | some generator =>
      have hsome : activeGenerators isTerminated (first :: reqs) =
          (generator, first.logitsOffset) :: activeGenerators isTerminated reqs := by
        rw [activeGenerators, List.filterMap_cons_some (by rw [hwork]; rfl)]
        rfl
      have hpos := hown (by rw [hwork]; rfl)
      rw [hsome, List.map_cons, List.pairwise_cons, List.forall_mem_map, List.forall_mem_cons]
      refine ⟨⟨fun req hmem => ?_, hsorted⟩, ?_, fun req hmem => ?_⟩
      · have := hinside req hmem
        dsimp only
        omega
      · dsimp only
        omega
      · have := hinside req hmem
        omega

theorem combinedBitmask_length (hdoc : Documented backend vocabSize banned)
    (maskers : List (M × Nat)) :
    (maskers.map fun req =>
      (backend.fillNextTokenBitmask req.1 (List.replicate stride 0)).1).flatten.length =
        maskers.length * stride := by
  induction maskers with
  | nil => rw [List.map_nil, List.flatten_nil, List.length_nil, List.length_nil, Nat.zero_mul]
  | cons req maskers ih =>
    rw [List.map_cons, List.flatten_cons, List.length_append, ih, hdoc.fill_length,
      List.length_replicate, List.length_cons, Nat.succ_mul, Nat.add_comm]

theorem combinedBitmask_masks (hdoc : Documented backend vocabSize banned)
    {maskers : List (M × Nat)} {logits : List L} (hdistinct : (maskers.map Prod.snd).Nodup)
    (hrows : ∀ req ∈ maskers, HasRow vocabSize req.2 logits) (hasks : ∀ req ∈ maskers,
      (backend.fillNextTokenBitmask req.1 (List.replicate (bitmaskStride vocabSize) 0)).2 = true) :
    ∃ masked, applyTokenBitmaskSelective backend vocabSize (maskers.map fun req =>
        (backend.fillNextTokenBitmask req.1
          (List.replicate (bitmaskStride vocabSize) 0)).1).flatten 0 (maskers.map Prod.snd) logits =
        .ok masked ∧ Masked backend vocabSize banned maskers logits masked := by
  have hwidth : ∀ mask ∈ maskers.map fun req => (backend.fillNextTokenBitmask req.1
      (List.replicate (bitmaskStride vocabSize) 0)).1, mask.length = bitmaskStride vocabSize := by
    refine List.forall_mem_map.mpr fun req _ => ?_
    rw [hdoc.fill_length, List.length_replicate]
  have hmasks : ∀ k < (maskers.map Prod.snd).length, HasRow (bitmaskStride vocabSize) (0 + k)
      (maskers.map fun req => (backend.fillNextTokenBitmask req.1
        (List.replicate (bitmaskStride vocabSize) 0)).1).flatten := by
    intro k hk
    rw [List.length_map] at hk
    rw [Nat.zero_add, HasRow, combinedBitmask_length hdoc]
    exact Nat.mul_le_mul_right _ hk
  obtain ⟨masked, hmasked, hcount, hown, hothers⟩ :=
    applyTokenBitmaskSelective_spec hdoc hdistinct (List.forall_mem_map.mpr hrows) hmasks
  refine ⟨masked, hmasked, hcount, fun req hmem => ?_, hothers⟩
  obtain ⟨k, hk, rfl⟩ := List.getElem_of_mem hmem
  have hrow := hown k (by rwa [List.length_map])
  rw [List.getElem_map, Nat.zero_add, row_flatten hwidth (by rwa [List.length_map]),
    List.getElem_map] at hrow
  rw [hrow]
  exact rowFollows_needed hdoc (List.length_replicate.trans (bitmaskStride_eq vocabSize))
    (hasks _ hmem) (row_length (hrows _ hmem))

/-- Generators without a mask have rows of their own, which stay as they are. -/
theorem Masked.of_sublist {maskers generators : List (M × Nat)} {before after : List L}
    (h : Masked backend vocabSize banned maskers before after)
    (hsublist : maskers.Sublist generators) (hdistinct : (generators.map Prod.snd).Nodup)
    (hrows : ∀ req ∈ generators, HasRow vocabSize req.2 before)
    (hfree : ∀ req ∈ generators, req ∉ maskers → RowFollows backend banned req.1
      (row vocabSize req.2 before) (row vocabSize req.2 before)) :
    Masked backend vocabSize banned generators before after := by
  refine ⟨h.length, fun req hmem => ?_, fun other hother hnot =>
    h.others other hother fun hmem => hnot ((hsublist.map Prod.snd).subset hmem)⟩
  by_cases hmask : req ∈ maskers
  · exact h.own req hmask
  · have hnot : req.2 ∉ maskers.map Prod.snd := by
      intro hshared
      obtain ⟨other, hother, heq⟩ := List.mem_map.mp hshared
      have hsame : other = req :=
        List.inj_on_of_nodup_map hdistinct (hsublist.subset hother) hmem heq
      exact hmask (hsame ▸ hother)
    rw [h.others req.2 (hrows req hmem) hnot]
    exact hfree req hmem hmask

/-- Whichever requests have generators and whichever of these are through or ask for no mask: where
those at work sample, the row of each loses what its generator does not accept, and nothing else
changes. The masks always fit the buffer. -/
theorem generators_mask_own_rows (hdoc : Documented backend vocabSize banned)
    {maxBatchSize : Nat} {reqs : List (GeneratorRequest M)} {logits : List L}
    (hlayout : LaidOut 0 reqs) (hroom : generatorRows reqs * vocabSize ≤ logits.length)
    (hsamples : ∀ req ∈ reqs, (req.atWork isTerminated).isSome = true → 0 < req.samplingTokenNum)
    (hbatch : reqs.length ≤ maxBatchSize) :
    ∃ masked, generateAndApplyBitmask backend isTerminated vocabSize
        (bitmaskCapacity true maxBatchSize vocabSize) reqs logits = .ok masked ∧
      Masked backend vocabSize banned (activeGenerators isTerminated reqs) logits masked := by
  obtain ⟨hsorted, hinside⟩ := activeGenerators_rows hlayout hsamples
  have hdistinct : ((activeGenerators isTerminated reqs).map Prod.snd).Nodup :=
    hsorted.imp fun hlt => Nat.ne_of_lt hlt
  have hrows : ∀ req ∈ activeGenerators isTerminated reqs, HasRow vocabSize req.2 logits := by
    intro req hmem
    have hrow := (hinside req hmem).2
    rw [Nat.zero_add] at hrow
    exact (Nat.mul_le_mul_right vocabSize hrow).trans hroom
  rw [bitmaskCapacity, if_pos rfl]
  generalize hgenerators : activeGenerators isTerminated reqs = generators at hdistinct hrows
  generalize hmasking : masking backend (bitmaskStride vocabSize) generators = maskers
  have hasks : ∀ req ∈ generators, req ∈ maskers ↔ (backend.fillNextTokenBitmask req.1
      (List.replicate (bitmaskStride vocabSize) 0)).2 = true := by
    intro req hmem
    rw [← hmasking, masking, List.mem_filter, and_iff_right hmem]
  have hsublist : maskers.Sublist generators := by
    rw [← hmasking]
    exact List.filter_sublist
  have hfree : ∀ req ∈ generators, req ∉ maskers → RowFollows backend banned req.1
      (row vocabSize req.2 logits) (row vocabSize req.2 logits) := by
    intro req hmem hmask
    rw [hasks req hmem, Bool.not_eq_true] at hmask
    exact rowFollows_free hdoc (List.length_replicate.trans (bitmaskStride_eq vocabSize)) hmask
      (row_length (hrows req hmem))
  rw [generateAndApplyBitmask, generateBitmasks_eq, hgenerators, hmasking]
  dsimp only
  split
  · next hmissing =>
    refine ⟨logits, rfl, Masked.of_sublist ⟨rfl, fun req hmem => ⟨rfl, fun token htoken => ?_⟩,
      fun _ _ _ => rfl⟩ hsublist hdistinct hrows hfree⟩
    have hwords : maskers.length * bitmaskStride vocabSize = 0 := by
      rw [Bool.or_eq_true, List.isEmpty_iff, List.isEmpty_iff, List.map_eq_nil_iff] at hmissing
      rcases hmissing with hnone | hnone
      · rw [hnone, List.length_nil, Nat.zero_mul]
      · rw [← combinedBitmask_length hdoc, hnone, List.length_nil]
    have hstride : bitmaskStride vocabSize = 0 :=
      (Nat.mul_eq_zero.mp hwords).resolve_left (List.length_pos_of_mem hmem).ne'
    rw [row_length (hrows req (hsublist.subset hmem))] at htoken
    rw [bitmaskStride] at hstride
    omega
  · have hcount : maskers.length ≤ maxBatchSize := by
      refine (hsublist.length_le.trans ?_).trans hbatch
      rw [← hgenerators]
      exact List.length_filterMap_le ..
    rw [if_neg (Nat.not_lt.mpr (by
      rw [combinedBitmask_length hdoc]
      exact Nat.mul_le_mul_right _ hcount))]
    obtain ⟨masked, hmasked, hmasks⟩ := combinedBitmask_masks hdoc
      (hdistinct.sublist (hsublist.map Prod.snd)) (fun req hmem => hrows req (hsublist.subset hmem))
      (fun req hmem => (hasks req (hsublist.subset hmem)).mp hmem)
    exact ⟨masked, hmasked, hmasks.of_sublist hsublist hdistinct hrows hfree⟩

/-- A middle chunk whose generator is through, a draft's two rows, a free request, a generator that
accepts everything, and room for a request more. -/
def sampleGenerators : List (GeneratorRequest Nat) :=
  [⟨some 3, 0, 0⟩, ⟨some 1, 2, 0⟩, ⟨none, 1, 2⟩, ⟨some 0, 1, 3⟩]

theorem generators_mask_own_rows_sample :
    ∃ masked, generateAndApplyBitmask sampleBackend (fun owed => owed = 3) 2
        (bitmaskCapacity true 5 2) sampleGenerators [5, 3, 5, 3, 5, 3, 5, 3] = .ok masked ∧
      Masked sampleBackend 2 (-1) (activeGenerators (fun owed => owed = 3) sampleGenerators)
        [5, 3, 5, 3, 5, 3, 5, 3] masked :=
  generators_mask_own_rows sampleBackend_documented ⟨rfl, rfl, rfl, rfl, trivial⟩ (by decide)
    (by decide) (by decide)

/-- The generator of a middle chunk masks the row of the request behind it. -/
example : generateAndApplyBitmask sampleBackend (fun _ => false) 2 (bitmaskCapacity true 2 2)
    [⟨some 1, 0, 0⟩, ⟨none, 1, 0⟩] [5, 3] = .ok [-1, 3] := by decide

end Generators

end KsanaBuildAhead.Executor.Grammar
