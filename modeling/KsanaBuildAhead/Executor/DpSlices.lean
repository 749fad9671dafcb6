import KsanaBuildAhead.Executor.LogitsRows
import KsanaBuildAhead.Executor.ReorderCanonical
import KsanaBuildAhead.Executor.ReplaceLastToken
import KsanaBuildAhead.Lib.GroupedSegments

/-!
# Which tokens belong to which rank

With attention data parallelism every rank builds the whole flat input, and computes attention
for the tokens of its own group. It finds them by the offset of the group, and the requests in
them by the tables of query offsets, lengths and prefixes that are built along with the input.
-/
namespace KsanaBuildAhead.Executor.DpSlices

open KsanaBuildAhead.Runtime KsanaBuildAhead.Lib.VectorAccess KsanaBuildAhead.Lib.Segments
  KsanaBuildAhead.Lib.GroupedSegments KsanaBuildAhead.Lib.KeySort
open KsanaBuildAhead.Executor.Reorder (preparedInputIdsLen CachedWithin comparator forwardRequest)

/-- What `PrepareInputIds` collects beside the input. The two host buffers keep behind the written
entries what they held before. -/
structure OffsetTables where
  inputOffsetList : List Nat := [0]
  inputPrefixList : List Nat := [0]
  dpInputPrefixList : List Nat := [0]
  dpPrefillQOffset : List Nat
  dpPrefillQOffsetPtr : Nat := 0
  dpInputOffset : List Nat
  dpInputOffsetPtr : Nat := 0
  dpInputIdsLens : List Nat
  dpMaxForwardingTokens : Nat := 0
  multiTokenRequestMaxTokens : Nat := 0
  singleTokenRequestMaxTokens : Nat := 0
  dpMultiTokenRequestMaxTokens : Nat := 0
  dpSingleTokenRequestMaxTokens : Nat := 0
deriving Repr, DecidableEq

/-- `*(ptr + 1) = *ptr + length; ++ptr`. -/
def pushSum (table : List Nat) (ptr length : Nat) : Option (List Nat × Nat) := do
  let sum ← table[ptr]?
  let written ← writeIndex table (ptr + 1) (sum + length)
  some (written, ptr + 1)

/-- `list.emplace_back(list.back() + length)`. -/
def pushBackSum (table : List Nat) (length : Nat) : List Nat :=
  table ++ [table.getLastD 0 + length]

section Prepare

-- `ForwardRequest::GetType`, whose header is not part of the sources, is `kFlash`.
variable (isFlash : ForwardRequest → Bool) (attnDpGroupId attnDpGroupSize : Nat)

def prepareRequestOffsets (tables : OffsetTables) (req : ForwardRequest) : Option OffsetTables := do
  let inputLength := req.forwardingTokens.length
  let inputIdsLen := preparedInputIdsLen req
  let groupLen ← tables.dpInputIdsLens[req.attnDpGroupId]?
  let dpInputIdsLens ← writeIndex tables.dpInputIdsLens req.attnDpGroupId (groupLen + inputIdsLen)
  let tables :=
    { tables with
      dpMaxForwardingTokens := max tables.dpMaxForwardingTokens inputIdsLen
      dpInputIdsLens
      inputOffsetList := pushBackSum tables.inputOffsetList inputLength
      inputPrefixList := pushBackSum tables.inputPrefixList req.skipTokenNum }
  if isFlash req then
    let tables :=
      { tables with
        multiTokenRequestMaxTokens := max tables.multiTokenRequestMaxTokens inputLength }
    if req.attnDpGroupId = attnDpGroupId then
      let (dpPrefillQOffset, dpPrefillQOffsetPtr) ←
        pushSum tables.dpPrefillQOffset tables.dpPrefillQOffsetPtr inputIdsLen
      let (dpInputOffset, dpInputOffsetPtr) ←
        pushSum tables.dpInputOffset tables.dpInputOffsetPtr inputLength
      some { tables with
        dpMultiTokenRequestMaxTokens := max tables.dpMultiTokenRequestMaxTokens inputLength
        dpPrefillQOffset, dpPrefillQOffsetPtr, dpInputOffset, dpInputOffsetPtr
        dpInputPrefixList := pushBackSum tables.dpInputPrefixList req.skipTokenNum }
    else some tables
  else
    some { tables with
      singleTokenRequestMaxTokens := max tables.singleTokenRequestMaxTokens inputLength
      dpSingleTokenRequestMaxTokens :=
        if req.attnDpGroupId = attnDpGroupId then
          max tables.dpSingleTokenRequestMaxTokens inputLength
        else tables.dpSingleTokenRequestMaxTokens }

/-- The offsets of the groups, narrowed to `int`. -/
def groupOffsets : Nat → List Nat → List Int
  | _, [] => []
  | attnDpGroupOffset, groupLen :: lens =>
    castInt32 attnDpGroupOffset :: groupOffsets (attnDpGroupOffset + groupLen) lens

/-- The tables of a batch, over what is left in the host buffers, and `attn_dp_group_offsets_`. -/
def prepareOffsets (oldQOffset oldInputOffset : List Nat) (reqs : List ForwardRequest) :
    Option (OffsetTables × List Int) := do
  let dpPrefillQOffset ← writeIndex oldQOffset 0 0
  let dpInputOffset ← writeIndex oldInputOffset 0 0
  let tables ← reqs.foldlM (prepareRequestOffsets isFlash attnDpGroupId)
    { dpPrefillQOffset, dpInputOffset, dpInputIdsLens := List.replicate attnDpGroupSize 0 }
  some (tables, groupOffsets 0 tables.dpInputIdsLens)

end Prepare

/-- The multi-token requests of a group. -/
def multiTokenRequests (isFlash : ForwardRequest → Bool) (group : Nat)
    (reqs : List ForwardRequest) : List ForwardRequest :=
  reqs.filter fun req => isFlash req && decide (req.attnDpGroupId = group)

/-- The tokens of a group that are computed. -/
def groupTokenNum (reqs : List ForwardRequest) (group : Nat) : Nat :=
  ((reqs.filter fun req => req.attnDpGroupId = group).map preparedInputIdsLen).sum

/-- The greatest of some lengths. -/
def maxTokens (tokenNum : ForwardRequest → Nat) (reqs : List ForwardRequest) : Nat :=
  (reqs.map tokenNum).foldl max 0

def inputLength (req : ForwardRequest) : Nat := req.forwardingTokens.length

section Tables

variable (isFlash : ForwardRequest → Bool) (attnDpGroupId attnDpGroupSize : Nat)
  (oldQOffset oldInputOffset : List Nat)

/-- The tables as sums and maxima over the requests each of them is about. -/
def tablesOf (reqs : List ForwardRequest) : OffsetTables :=
  let own := multiTokenRequests isFlash attnDpGroupId reqs
  { inputOffsetList := sumsUpTo (reqs.map inputLength)
    inputPrefixList := sumsUpTo (reqs.map ForwardRequest.skipTokenNum)
    dpInputPrefixList := sumsUpTo (own.map ForwardRequest.skipTokenNum)
    dpPrefillQOffset := sumsUpTo (own.map preparedInputIdsLen) ++ oldQOffset.drop (own.length + 1)
    dpPrefillQOffsetPtr := own.length
    dpInputOffset := sumsUpTo (own.map inputLength) ++ oldInputOffset.drop (own.length + 1)
    dpInputOffsetPtr := own.length
    dpInputIdsLens := (List.range attnDpGroupSize).map (groupTokenNum reqs)
    dpMaxForwardingTokens := maxTokens preparedInputIdsLen reqs
    multiTokenRequestMaxTokens := maxTokens inputLength (reqs.filter isFlash)
    singleTokenRequestMaxTokens := maxTokens inputLength (reqs.filter fun req => !isFlash req)
    dpMultiTokenRequestMaxTokens := maxTokens inputLength own
    dpSingleTokenRequestMaxTokens := maxTokens inputLength
      (multiTokenRequests (fun req => !isFlash req) attnDpGroupId reqs) }

end Tables

section Steps

theorem pushBackSum_sums (values : List Nat) (value : Nat) :
    pushBackSum (sumsUpTo values) value = sumsUpTo (values ++ [value]) := by
  rw [pushBackSum, sumsUpTo_getLastD, sumsUpTo_concat]

theorem pushSum_sums (values : List Nat) {old : List Nat} (value : Nat)
    (hroom : values.length + 1 < old.length) :
    pushSum (sumsUpTo values ++ old.drop (values.length + 1)) values.length value =
      some (sumsUpTo (values ++ [value]) ++ old.drop ((values ++ [value]).length + 1),
        (values ++ [value]).length) := by
  have hlast : (sumsUpTo values ++ old.drop (values.length + 1))[values.length]? =
      some values.sum := by
    rw [List.getElem?_append_left (by rw [sumsUpTo_length]; omega),
      getElem?_sumsUpTo (Nat.le_refl _), List.take_length]
  have hin : values.length + 1 < (sumsUpTo values ++ old.drop (values.length + 1)).length := by
    rw [List.length_append, sumsUpTo_length, List.length_drop]
    omega
  have hset : (sumsUpTo values ++ old.drop (values.length + 1)).set (values.length + 1)
      (values.sum + value) = sumsUpTo (values ++ [value]) ++ old.drop (values.length + 1 + 1) := by
    rw [← sumsUpTo_length values, List.set_append_right _ _ (Nat.le_refl _), Nat.sub_self,
      sumsUpTo_length, List.drop_eq_getElem_cons hroom, List.set_cons_zero, sumsUpTo_concat,
      List.append_assoc]
    rfl
  have hwrite : writeIndex (sumsUpTo values ++ old.drop (values.length + 1)) (values.length + 1)
      (values.sum + value) =
        some (sumsUpTo (values ++ [value]) ++ old.drop (values.length + 1 + 1)) := by
    rw [writeIndex, if_pos hin, hset]
  have hnext : (values ++ [value]).length = values.length + 1 := by simp
  rw [pushSum, hlast, hnext]
  simp only [bind, Option.bind, hwrite]

theorem maxTokens_concat (tokenNum : ForwardRequest → Nat) (reqs : List ForwardRequest)
    (req : ForwardRequest) :
    maxTokens tokenNum (reqs ++ [req]) = max (maxTokens tokenNum reqs) (tokenNum req) := by
  rw [maxTokens, List.map_append, List.foldl_append]
  rfl

theorem groupTokenNum_concat (reqs : List ForwardRequest) (req : ForwardRequest) (group : Nat) :
    groupTokenNum (reqs ++ [req]) group = groupTokenNum reqs group +
      if req.attnDpGroupId = group then preparedInputIdsLen req else 0 := by
  rw [groupTokenNum, List.filter_append, List.map_append, List.sum_append]
  by_cases hgroup : req.attnDpGroupId = group <;> simp [groupTokenNum, hgroup]

theorem lens_set (reqs : List ForwardRequest) (req : ForwardRequest) (attnDpGroupSize : Nat) :
    ((List.range attnDpGroupSize).map (groupTokenNum reqs)).set req.attnDpGroupId
        (groupTokenNum reqs req.attnDpGroupId + preparedInputIdsLen req) =
      (List.range attnDpGroupSize).map (groupTokenNum (reqs ++ [req])) := by
  refine List.ext_getElem (by simp) fun group hleft hright => ?_
  rw [List.getElem_set, List.getElem_map, List.getElem_map, List.getElem_range,
    groupTokenNum_concat]
  split
  · rename_i hown
    rw [hown]
  · rfl

end Steps

section Tabulate

variable {isFlash : ForwardRequest → Bool} {attnDpGroupId attnDpGroupSize : Nat}
  {oldQOffset oldInputOffset : List Nat} {reqs : List ForwardRequest}

theorem multiTokenRequests_own {req : ForwardRequest} {group : Nat} (hflash : isFlash req = true)
    (hown : req.attnDpGroupId = group) :
    multiTokenRequests isFlash group (reqs ++ [req]) =
      multiTokenRequests isFlash group reqs ++ [req] := by
  rw [multiTokenRequests, List.filter_append, List.filter_cons_of_pos (by simp [hflash, hown])]
  rfl

theorem multiTokenRequests_other {req : ForwardRequest} {group : Nat}
    (hother : ¬ (isFlash req = true ∧ req.attnDpGroupId = group)) :
    multiTokenRequests isFlash group (reqs ++ [req]) = multiTokenRequests isFlash group reqs := by
  rw [multiTokenRequests, List.filter_append, List.filter_cons_of_neg (by simpa using hother),
    List.filter_nil, List.append_nil]
  rfl

/-- A further request in a group of the tables, with room in the host buffers. -/
theorem prepareRequestOffsets_tablesOf (req : ForwardRequest)
    (hgroup : req.attnDpGroupId < attnDpGroupSize)
    (hq : reqs.length + 1 < oldQOffset.length) (hinput : reqs.length + 1 < oldInputOffset.length) :
    prepareRequestOffsets isFlash attnDpGroupId
        (tablesOf isFlash attnDpGroupId attnDpGroupSize oldQOffset oldInputOffset reqs) req =
      some (tablesOf isFlash attnDpGroupId attnDpGroupSize oldQOffset oldInputOffset
        (reqs ++ [req])) := by
  have hlens : ((List.range attnDpGroupSize).map (groupTokenNum reqs))[req.attnDpGroupId]? =
      some (groupTokenNum reqs req.attnDpGroupId) := by
    rw [List.getElem?_map, List.getElem?_range hgroup]
    rfl
  have hwrite : writeIndex ((List.range attnDpGroupSize).map (groupTokenNum reqs))
      req.attnDpGroupId (groupTokenNum reqs req.attnDpGroupId + preparedInputIdsLen req) =
        some ((List.range attnDpGroupSize).map (groupTokenNum (reqs ++ [req]))) := by
    rw [writeIndex, if_pos (by simpa using hgroup), lens_set]
  have hown : (multiTokenRequests isFlash attnDpGroupId reqs).length ≤ reqs.length :=
    List.length_filter_le _ _
  have hpushQ := pushSum_sums ((multiTokenRequests isFlash attnDpGroupId reqs).map
    preparedInputIdsLen) (preparedInputIdsLen req)
    (show _ < oldQOffset.length by rw [List.length_map]; omega)
  have hpushInput := pushSum_sums ((multiTokenRequests isFlash attnDpGroupId reqs).map
    inputLength) (inputLength req)
    (show _ < oldInputOffset.length by rw [List.length_map]; omega)
  rw [prepareRequestOffsets]
  simp only [bind, Option.bind, tablesOf, hlens, hwrite, List.length_map] at hpushQ hpushInput ⊢
  have hlength : req.forwardingTokens.length = inputLength req := rfl
  by_cases hflash : isFlash req = true
  · have hpage : multiTokenRequests (fun req => !isFlash req) attnDpGroupId (reqs ++ [req]) =
        multiTokenRequests (fun req => !isFlash req) attnDpGroupId reqs :=
      multiTokenRequests_other (by simp [hflash])
    have hsingle : (reqs ++ [req]).filter (fun req => !isFlash req) =
        reqs.filter fun req => !isFlash req := by simp [hflash]
    have hmulti : (reqs ++ [req]).filter isFlash = reqs.filter isFlash ++ [req] := by simp [hflash]
    rw [if_pos hflash, hpage, hsingle, hmulti, hlength]
    by_cases hgroupOwn : req.attnDpGroupId = attnDpGroupId
    · rw [if_pos hgroupOwn, multiTokenRequests_own hflash hgroupOwn, hpushQ]
      dsimp only
      rw [hpushInput]
      simp only [pushBackSum_sums, maxTokens_concat, List.map_append, List.map_cons, List.map_nil,
        List.length_append, List.length_map, List.length_singleton]
    · rw [if_neg hgroupOwn, multiTokenRequests_other fun h => hgroupOwn h.2]
      simp only [pushBackSum_sums, maxTokens_concat, List.map_append, List.map_cons, List.map_nil]
  · have hpage : isFlash req = false := Bool.not_eq_true _ ▸ hflash
    have hmulti : (reqs ++ [req]).filter isFlash = reqs.filter isFlash := by simp [hpage]
    have hsingle : (reqs ++ [req]).filter (fun req => !isFlash req) =
        (reqs.filter fun req => !isFlash req) ++ [req] := by simp [hpage]
    have hdpSingle : (if req.attnDpGroupId = attnDpGroupId then
        max (maxTokens inputLength
          (multiTokenRequests (fun req => !isFlash req) attnDpGroupId reqs)) (inputLength req)
        else maxTokens inputLength
          (multiTokenRequests (fun req => !isFlash req) attnDpGroupId reqs)) =
        maxTokens inputLength
          (multiTokenRequests (fun req => !isFlash req) attnDpGroupId (reqs ++ [req])) := by
      split
      · rename_i hgroupOwn
        rw [multiTokenRequests_own (by simp [hpage]) hgroupOwn, maxTokens_concat]
      · rename_i hother
        rw [multiTokenRequests_other fun h => hother h.2]
    rw [if_neg hflash, hlength, hdpSingle, multiTokenRequests_other fun h => hflash h.1, hmulti,
      hsingle]
    simp only [pushBackSum_sums, maxTokens_concat, List.map_append, List.map_cons, List.map_nil]

theorem foldlM_tablesOf (isFlash : ForwardRequest → Bool) (attnDpGroupId : Nat)
    (hgroups : ∀ req ∈ reqs, req.attnDpGroupId < attnDpGroupSize)
    (hq : reqs.length < oldQOffset.length) (hinput : reqs.length < oldInputOffset.length) :
    reqs.foldlM (prepareRequestOffsets isFlash attnDpGroupId)
        (tablesOf isFlash attnDpGroupId attnDpGroupSize oldQOffset oldInputOffset []) =
      some (tablesOf isFlash attnDpGroupId attnDpGroupSize oldQOffset oldInputOffset reqs) := by
  induction reqs using List.reverseRecOn with
  | nil => rfl
  | append_singleton reqs req ih =>
    rw [List.length_append, List.length_singleton] at hq hinput
    have hfront := ih (fun other hmem => hgroups other (List.mem_append_left _ hmem)) (by omega)
      (by omega)
    rw [List.foldlM_append, hfront]
    show (prepareRequestOffsets _ _ _ _ >>= pure) = _
    rw [prepareRequestOffsets_tablesOf req
      (hgroups req (List.mem_append_right _ List.mem_cons_self)) hq hinput]
    rfl

/-- All the tables of a batch whose groups exist and that fits the host buffers. -/
theorem prepareOffsets_eq (isFlash : ForwardRequest → Bool) (attnDpGroupId : Nat)
    (hgroups : ∀ req ∈ reqs, req.attnDpGroupId < attnDpGroupSize)
    (hq : reqs.length < oldQOffset.length) (hinput : reqs.length < oldInputOffset.length) :
    prepareOffsets isFlash attnDpGroupId attnDpGroupSize oldQOffset oldInputOffset reqs =
      some (tablesOf isFlash attnDpGroupId attnDpGroupSize oldQOffset oldInputOffset reqs,
        groupOffsets 0 ((List.range attnDpGroupSize).map (groupTokenNum reqs))) := by
  have hfirst : ∀ old : List Nat, 0 < old.length →
      writeIndex old 0 0 = some (sumsUpTo [] ++ old.drop 1) := by
    intro old hold
    obtain ⟨head, rest, rfl⟩ := List.exists_cons_of_length_pos hold
    rfl
  have hempty : tablesOf isFlash attnDpGroupId attnDpGroupSize oldQOffset oldInputOffset [] =
      { dpPrefillQOffset := sumsUpTo [] ++ oldQOffset.drop 1
        dpInputOffset := sumsUpTo [] ++ oldInputOffset.drop 1
        dpInputIdsLens := List.replicate attnDpGroupSize 0 } := by
    have hnone : (List.range attnDpGroupSize).map (groupTokenNum []) =
        List.replicate attnDpGroupSize 0 := by
      rw [show groupTokenNum [] = fun _ => 0 from rfl, List.map_const', List.length_range]
    rw [tablesOf, hnone]
    rfl
  have hfold := foldlM_tablesOf isFlash attnDpGroupId hgroups hq hinput
  rw [hempty] at hfold
  rw [prepareOffsets, hfirst _ (Nat.zero_lt_of_lt hq), hfirst _ (Nat.zero_lt_of_lt hinput)]
  simp only [bind, Option.bind, hfold]
  rfl

end Tabulate

theorem getElem?_groupOffsets {lens : List Nat} {group : Nat} (start : Nat)
    (hgroup : group < lens.length) :
    (groupOffsets start lens)[group]? = some (castInt32 (start + (lens.take group).sum : Nat)) := by
  induction lens generalizing start group with
  | nil => exact absurd hgroup (Nat.not_lt_zero _)
  | cons groupLen lens ih =>
    rw [groupOffsets]
    cases group with
    | zero => rfl
    | succ group =>
      rw [List.getElem?_cons_succ, ih (start + groupLen) (Nat.lt_of_succ_lt_succ hgroup),
        List.take_succ_cons, List.sum_cons, Nat.add_assoc]

theorem segment_slice {α β : Type*} {f : α → List β} {xs : List α} {before flat : List β} {n : Nat}
    {x : α} (hbegins : before ++ xs.flatMap f <+: flat) (hx : xs[n]? = some x) :
    (flat.drop (before.length + segmentStart f xs n)).take (f x).length = f x := by
  obtain ⟨hn, rfl⟩ := List.getElem?_eq_some_iff.mp hx
  obtain ⟨behind, rfl⟩ := hbegins
  have hsplit : before ++ xs.flatMap f ++ behind = (before ++ (xs.take n).flatMap f) ++
      (f xs[n] ++ ((xs.drop (n + 1)).flatMap f ++ behind)) := by
    have hxs : xs.flatMap f =
        (xs.take n).flatMap f ++ (f xs[n] ++ (xs.drop (n + 1)).flatMap f) := by
      rw [← List.flatMap_cons, ← List.drop_eq_getElem_cons hn, ← List.flatMap_append,
        List.take_append_drop]
    rw [hxs]
    simp only [List.append_assoc]
  have hlength : (before ++ (xs.take n).flatMap f).length =
      before.length + segmentStart f xs n := List.length_append
  rw [hsplit, ← hlength, List.drop_left, List.take_left]

def groupRequests (group : Nat) (batch : List ForwardRequest) : List ForwardRequest :=
  batch.filter fun req => req.attnDpGroupId = group

/-- The multi-token requests stand before the others of their group. -/
def FlashFirst (isFlash : ForwardRequest → Bool) (batch : List ForwardRequest) : Prop :=
  batch.Pairwise fun a b => a.attnDpGroupId = b.attnDpGroupId → isFlash b = true → isFlash a = true

/-- What a rank reads off the tables: the slice of each group, where a request begins in the
whole input, and of its own multi-token requests the lengths, the prefixes and the queries. -/
structure ReadsSlices (isFlash : ForwardRequest → Bool) (attnDpGroupId attnDpGroupSize : Nat)
    (batch : List ForwardRequest) (tables : OffsetTables) (attnDpGroupOffsets : List Int) :
    Prop where
  tiles : (List.range attnDpGroupSize).flatMap (fun group =>
    (groupRequests group batch).flatMap ForwardRequest.inputIds) =
      (prepareInputIds batch).inputIds
  groups : ∀ group < attnDpGroupSize, ∃ start groupLen : Nat,
    attnDpGroupOffsets[group]? = some (start : Int) ∧
    tables.dpInputIdsLens[group]? = some groupLen ∧
    ((prepareInputIds batch).inputIds.drop start).take groupLen =
      (groupRequests group batch).flatMap ForwardRequest.inputIds
  starts : ∀ n ≤ batch.length, ∃ offset before,
    tables.inputOffsetList[n]? = some offset ∧ tables.inputPrefixList[n]? = some before ∧
    offset = before + segmentStart ForwardRequest.inputIds batch n
  keys : ∀ n ≤ (multiTokenRequests isFlash attnDpGroupId batch).length, ∃ offset before q,
    tables.dpInputOffset[n]? = some offset ∧ tables.dpInputPrefixList[n]? = some before ∧
    tables.dpPrefillQOffset[n]? = some q ∧ offset = before + q
  queries : FlashFirst isFlash batch → ∀ (n : Nat) (req : ForwardRequest),
    (multiTokenRequests isFlash attnDpGroupId batch)[n]? = some req → ∃ start q : Nat,
      attnDpGroupOffsets[attnDpGroupId]? = some (start : Int) ∧
      tables.dpPrefillQOffset[n]? = some q ∧
      tables.dpPrefillQOffset[n + 1]? = some (q + req.inputIds.length) ∧
      ((prepareInputIds batch).inputIds.drop (start + q)).take req.inputIds.length = req.inputIds

section Slices

variable {isFlash : ForwardRequest → Bool} {attnDpGroupId attnDpGroupSize : Nat}
  {batch : List ForwardRequest}

/-- The prefix is inside the sequence, so that the computed length does not wrap. -/
structure InputWithin (req : ForwardRequest) : Prop where
  skip : req.skipTokenNum ≤ req.forwardingTokens.length
  length : preparedInputIdsLen req = req.inputIds.length

theorem sum_inputIds {reqs : List ForwardRequest} (hwithin : ∀ req ∈ reqs, InputWithin req) :
    (reqs.map preparedInputIdsLen).sum = (reqs.flatMap ForwardRequest.inputIds).length := by
  rw [List.length_flatMap]
  exact congrArg List.sum (List.map_congr_left fun req hmem => (hwithin req hmem).length)

theorem sum_lengths {reqs : List ForwardRequest} (hwithin : ∀ req ∈ reqs, InputWithin req) :
    (reqs.map inputLength).sum =
      (reqs.map ForwardRequest.skipTokenNum).sum +
        (reqs.flatMap ForwardRequest.inputIds).length := by
  induction reqs with
  | nil => rfl
  | cons req reqs ih =>
    obtain ⟨hfirst, hrest⟩ := List.forall_mem_cons.mp hwithin
    have hskip := hfirst.skip
    have hinput : req.inputIds.length = req.forwardingTokens.length - req.skipTokenNum :=
      List.length_drop
    simp only [List.map_cons, List.sum_cons, List.flatMap_cons, List.length_append, ih hrest,
      inputLength]
    omega

variable (hwithin : ∀ req ∈ batch, InputWithin req)
  (hsorted : batch.Pairwise fun a b => a.attnDpGroupId ≤ b.attnDpGroupId)

include hwithin hsorted in
/-- The groups in front of a group are as long together as what stands before it. -/
theorem take_groupTokenNum {group : Nat} (hgroup : group ≤ attnDpGroupSize) :
    (((List.range attnDpGroupSize).map (groupTokenNum batch)).take group).sum =
      ((batch.filter fun req => req.attnDpGroupId < group).flatMap
        ForwardRequest.inputIds).length := by
  have hgroups := flatMap_groups hsorted group
  rw [← hgroups, List.flatMap_assoc, List.length_flatMap, ← List.map_take, List.take_range,
    Nat.min_eq_left hgroup]
  refine congrArg List.sum (List.map_congr_left fun other _ => ?_)
  exact sum_inputIds fun req hmem => hwithin req (List.mem_of_mem_filter hmem)

include hsorted in
theorem group_begins (group : Nat) :
    ((batch.filter fun req => req.attnDpGroupId < group).flatMap ForwardRequest.inputIds) ++
        (groupRequests group batch).flatMap ForwardRequest.inputIds <+:
      (prepareInputIds batch).inputIds := by
  have hle : (batch.filter fun req => decide (req.attnDpGroupId < group + 1)) =
      batch.filter fun req => decide (req.attnDpGroupId ≤ group) :=
    List.filter_congr fun req _ => by rw [decide_eq_decide, Nat.lt_succ_iff]
  obtain ⟨behind, hbehind⟩ := filter_lt_prefix hsorted (group + 1)
  rw [hle, filter_le_of_sorted hsorted] at hbehind
  rw [(prepareInputIds_layout batch).1, ← List.flatMap_append, groupRequests]
  conv_rhs => rw [← hbehind, List.flatMap_append]
  exact List.prefix_append _ _

omit hwithin hsorted in
theorem multiTokenRequests_begin (hflash : FlashFirst isFlash batch) (group : Nat) :
    multiTokenRequests isFlash group batch <+: groupRequests group batch := by
  have hgroup : (groupRequests group batch).Pairwise fun a b => (!isFlash a) ≤ (!isFlash b) := by
    refine List.Pairwise.imp_of_mem (fun {a b} ha hb hab => ?_)
      (List.Pairwise.filter (fun req => decide (req.attnDpGroupId = group)) hflash)
    have hsame : a.attnDpGroupId = b.attnDpGroupId :=
      (of_decide_eq_true (List.mem_filter.mp ha).2).trans
        (of_decide_eq_true (List.mem_filter.mp hb).2).symm
    have hfirst := hab hsame
    revert hfirst
    cases isFlash a <;> cases isFlash b <;> decide
  have hbegins := filter_lt_prefix hgroup true
  have hfilter : (groupRequests group batch).filter (fun req => decide ((!isFlash req) < true)) =
      multiTokenRequests isFlash group batch := by
    rw [groupRequests, List.filter_filter, multiTokenRequests]
    refine List.filter_congr fun req _ => ?_
    cases isFlash req <;> simp
  rwa [hfilter] at hbegins

variable {oldQOffset oldInputOffset : List Nat}

omit hwithin hsorted in
theorem getElem?_written {values old : List Nat} {n : Nat} (h : n ≤ values.length) :
    (sumsUpTo values ++ old)[n]? = some (values.take n).sum := by
  rw [List.getElem?_append_left (by rw [sumsUpTo_length]; omega), getElem?_sumsUpTo h]

include hwithin hsorted in
theorem getElem?_offset (htotal : (prepareInputIds batch).inputIds.length < 2 ^ 31) {group : Nat}
    (hgroup : group < attnDpGroupSize) :
    (groupOffsets 0 ((List.range attnDpGroupSize).map (groupTokenNum batch)))[group]? =
      some (((batch.filter fun req => req.attnDpGroupId < group).flatMap
        ForwardRequest.inputIds).length : Int) := by
  have hbefore := ((List.prefix_append _ _).trans (group_begins hsorted group)).length_le
  rw [getElem?_groupOffsets 0 (by simpa using hgroup), Nat.zero_add,
    take_groupTokenNum hwithin hsorted hgroup.le, castInt32_eq (Int.natCast_nonneg _)]
  omega

include hwithin hsorted in
theorem reads_query (htotal : (prepareInputIds batch).inputIds.length < 2 ^ 31)
    (hown : attnDpGroupId < attnDpGroupSize) (hflash : FlashFirst isFlash batch) {n : Nat}
    {req : ForwardRequest}
    (hreq : (multiTokenRequests isFlash attnDpGroupId batch)[n]? = some req) :
    ∃ start q : Nat,
      (groupOffsets 0 ((List.range attnDpGroupSize).map (groupTokenNum batch)))[attnDpGroupId]? =
        some (start : Int) ∧
      (tablesOf isFlash attnDpGroupId attnDpGroupSize oldQOffset oldInputOffset
        batch).dpPrefillQOffset[n]? = some q ∧
      (tablesOf isFlash attnDpGroupId attnDpGroupSize oldQOffset oldInputOffset
        batch).dpPrefillQOffset[n + 1]? = some (q + req.inputIds.length) ∧
      ((prepareInputIds batch).inputIds.drop (start + q)).take req.inputIds.length =
        req.inputIds := by
  obtain ⟨hn, -⟩ := List.getElem?_eq_some_iff.mp hreq
  have hmulti : ∀ other ∈ multiTokenRequests isFlash attnDpGroupId batch, InputWithin other :=
    fun other hmem => hwithin other (List.mem_of_mem_filter hmem)
  have hsum : ∀ m, (((multiTokenRequests isFlash attnDpGroupId batch).map
      preparedInputIdsLen).take m).sum = segmentStart ForwardRequest.inputIds
        (multiTokenRequests isFlash attnDpGroupId batch) m := by
    intro m
    rw [← List.map_take, sum_inputIds fun other hmem => hmulti other (List.mem_of_mem_take hmem)]
    rfl
  have hbegins := ((List.prefix_append_right_inj ((batch.filter fun other =>
    other.attnDpGroupId < attnDpGroupId).flatMap ForwardRequest.inputIds)).mpr
      ((multiTokenRequests_begin hflash attnDpGroupId).flatMap ForwardRequest.inputIds)).trans
        (group_begins hsorted attnDpGroupId)
  refine ⟨_,
    segmentStart ForwardRequest.inputIds (multiTokenRequests isFlash attnDpGroupId batch) n,
    getElem?_offset hwithin hsorted htotal hown, ?_, ?_, segment_slice hbegins hreq⟩
  · rw [← hsum]
    exact getElem?_written (by simpa using hn.le)
  · rw [← segmentStart_succ _ hreq, ← hsum]
    exact getElem?_written (by simpa using hn)

include hwithin hsorted in
theorem readsSlices_of_sorted (htotal : (prepareInputIds batch).inputIds.length < 2 ^ 31)
    (hgroups : ∀ req ∈ batch, req.attnDpGroupId < attnDpGroupSize)
    (hown : attnDpGroupId < attnDpGroupSize) :
    ReadsSlices isFlash attnDpGroupId attnDpGroupSize batch
      (tablesOf isFlash attnDpGroupId attnDpGroupSize oldQOffset oldInputOffset batch)
      (groupOffsets 0 ((List.range attnDpGroupSize).map (groupTokenNum batch))) where
  tiles := by
    have hall : batch.filter (fun req => decide (req.attnDpGroupId < attnDpGroupSize)) = batch :=
      List.filter_eq_self.mpr fun req hmem => decide_eq_true (hgroups req hmem)
    rw [(prepareInputIds_layout batch).1, ← List.flatMap_assoc]
    exact congrArg (List.flatMap ForwardRequest.inputIds)
      ((flatMap_groups hsorted attnDpGroupSize).trans hall)
  groups := by
    intro group hgroup
    refine ⟨_, ((groupRequests group batch).flatMap ForwardRequest.inputIds).length,
      getElem?_offset hwithin hsorted htotal hgroup, ?_, ?_⟩
    · rw [tablesOf, List.getElem?_map, List.getElem?_range hgroup]
      exact congrArg some (sum_inputIds fun req hmem => hwithin req (List.mem_of_mem_filter hmem))
    · obtain ⟨behind, hbehind⟩ := group_begins hsorted group
      rw [← hbehind, List.append_assoc, List.drop_left, List.take_left]
  starts := by
    intro n hn
    refine ⟨_, _, getElem?_sumsUpTo (by simpa using hn), getElem?_sumsUpTo (by simpa using hn), ?_⟩
    rw [← List.map_take, ← List.map_take,
      sum_lengths fun req hmem => hwithin req (List.mem_of_mem_take hmem)]
    rfl
  keys := by
    intro n hn
    have htake : ∀ req ∈ (multiTokenRequests isFlash attnDpGroupId batch).take n, InputWithin req :=
      fun req hmem => hwithin req (List.mem_of_mem_filter (List.mem_of_mem_take hmem))
    refine ⟨_, _, _, getElem?_written (by simpa using hn), getElem?_sumsUpTo (by simpa using hn),
      getElem?_written (by simpa using hn), ?_⟩
    rw [← List.map_take, ← List.map_take, ← List.map_take, sum_lengths htake, sum_inputIds htake]
  queries := fun hflash _ _ hreq => reads_query hwithin hsorted htotal hown hflash hreq

end Slices

theorem within_of_cached {req : ExecutorInferRequest} (h : CachedWithin req) :
    InputWithin (forwardRequest req) := by
  have hsize := h.size
  have hcached := h.cached
  have heffective := h.effective
  have hnonneg := h.prefixNonneg
  have hprefix : (forwardRequest req).prefixCacheLen =
      req.prefixCacheLen.toNat + req.flexibleCachedCopyTaskNum := by
    show addSize (req.prefixCacheLen % 2 ^ 64).toNat req.flexibleCachedCopyTaskNum = _
    have hmod : (req.prefixCacheLen % 2 ^ 64).toNat = req.prefixCacheLen.toNat := by omega
    rw [hmod, addSize_of_lt (by omega)]
  have hskip :
      (forwardRequest req).skipTokenNum ≤ (forwardRequest req).forwardingTokens.length := by
    rw [ForwardRequest.skipTokenNum, hprefix]
    exact max_le hcached heffective
  refine ⟨hskip, ?_⟩
  rw [preparedInputIdsLen, ForwardRequest.inputIds, List.length_drop]
  exact subSize_of_le hsize hskip

section Batch

variable {fastPath : Bool} {decodeTokenNumThreshold : Nat}
  (order : StdSort (comparator fastPath decodeTokenNumThreshold)) {reqs : List ExecutorInferRequest}

theorem exists_of_mem_reordered {req : ExecutorInferRequest}
    (hmem : req ∈ Reorder.reorderInferRequests order reqs) :
    ∃ other ∈ reqs, { req with logitsOffset := 0 } = { other with logitsOffset := 0 } := by
  have hrequests := (Reorder.canonicalLayout order reqs).requests
  obtain ⟨other, hother, hsame⟩ := List.mem_map.mp
    (hrequests.mem_iff.mp (List.mem_map_of_mem hmem))
  exact ⟨other, hother, hsame.symm⟩

theorem sorted_reordered :
    ((Reorder.reorderInferRequests order reqs).map forwardRequest).Pairwise fun a b =>
      a.attnDpGroupId ≤ b.attnDpGroupId :=
  List.pairwise_map.mpr ((Reorder.batchKey_sorted order reqs).imp Reorder.batchKey_group_le)

/-- The class the comparator puts last. -/
def isLate (fastPath : Bool) (decodeTokenNumThreshold : Nat) (req : ExecutorInferRequest) : Bool :=
  if fastPath then Reorder.isPaged req else Reorder.isDecode decodeTokenNumThreshold req

omit order in
theorem isLate_le {a b : ExecutorInferRequest}
    (hkey : Reorder.batchKey fastPath decodeTokenNumThreshold a ≤
      Reorder.batchKey fastPath decodeTokenNumThreshold b)
    (hgroup : a.attnDpGroupId = b.attnDpGroupId) :
    isLate fastPath decodeTokenNumThreshold a ≤ isLate fastPath decodeTokenNumThreshold b := by
  cases fastPath
  · exact Reorder.isLate_le hkey hgroup
  · exact Reorder.isLate_le hkey hgroup

/-- The multi-token requests are in front when the comparator tells them from the others. -/
theorem flashFirst_of_late {isFlash : ForwardRequest → Bool}
    (hflash : ∀ req ∈ Reorder.reorderInferRequests order reqs, isFlash (forwardRequest req) =
      !isLate fastPath decodeTokenNumThreshold req) :
    FlashFirst isFlash ((Reorder.reorderInferRequests order reqs).map forwardRequest) := by
  refine List.pairwise_map.mpr (List.Pairwise.imp_of_mem (fun {a b} ha hb hkey hgroup hlast => ?_)
    (Reorder.batchKey_sorted order reqs))
  have hclass := isLate_le hkey hgroup
  rw [hflash b hb, Bool.not_eq_true'] at hlast
  rw [hlast] at hclass
  rw [hflash a ha, Bool.eq_false_of_le_false hclass]
  rfl

/-- In the order of a batch, on either path, every rank finds the tokens of each group in one slice
of the input, and in its own slice the query of each multi-token request. -/
theorem dp_slices (isFlash : ForwardRequest → Bool) {attnDpGroupId attnDpGroupSize : Nat}
    {oldQOffset oldInputOffset : List Nat} (hwithin : ∀ req ∈ reqs, CachedWithin req)
    (hgroups : ∀ req ∈ reqs, req.attnDpGroupId < attnDpGroupSize)
    (hown : attnDpGroupId < attnDpGroupSize)
    (hq : reqs.length < oldQOffset.length) (hinput : reqs.length < oldInputOffset.length)
    (htotal : (prepareInputIds ((Reorder.reorderInferRequests order reqs).map
      forwardRequest)).inputIds.length < 2 ^ 31) :
    ∃ tables offsets, prepareOffsets isFlash attnDpGroupId attnDpGroupSize oldQOffset
        oldInputOffset ((Reorder.reorderInferRequests order reqs).map forwardRequest) =
          some (tables, offsets) ∧
      ReadsSlices isFlash attnDpGroupId attnDpGroupSize
        ((Reorder.reorderInferRequests order reqs).map forwardRequest) tables offsets := by
  have hbatchGroups : ∀ req ∈ (Reorder.reorderInferRequests order reqs).map forwardRequest,
      req.attnDpGroupId < attnDpGroupSize := by
    intro req hmem
    obtain ⟨received, hreceived, rfl⟩ := List.mem_map.mp hmem
    obtain ⟨other, hother, hsame⟩ := exists_of_mem_reordered order hreceived
    exact (congrArg ExecutorInferRequest.attnDpGroupId hsame).trans_lt (hgroups other hother)
  have hbatchWithin : ∀ req ∈ (Reorder.reorderInferRequests order reqs).map forwardRequest,
      InputWithin req := by
    intro req hmem
    obtain ⟨received, hreceived, rfl⟩ := List.mem_map.mp hmem
    obtain ⟨other, hother, hsame⟩ := exists_of_mem_reordered order hreceived
    have hcached : CachedWithin { other with logitsOffset := 0 } := { hwithin other hother with }
    rw [← hsame] at hcached
    exact within_of_cached { hcached with }
  have hlength : ((Reorder.reorderInferRequests order reqs).map forwardRequest).length =
      reqs.length := by
    have hrequests := (Reorder.canonicalLayout order reqs).requests.length_eq
    simpa using hrequests
  exact ⟨_, _, prepareOffsets_eq isFlash attnDpGroupId hbatchGroups (hlength.trans_lt hq)
    (hlength.trans_lt hinput), readsSlices_of_sorted hbatchWithin (sorted_reordered order) htotal
      hbatchGroups hown⟩

end Batch

/-- Two groups; in the second one a prompt behind a cached front, a whole prompt and a decode
step. -/
def sampleReqs : List ExecutorInferRequest :=
  [{ reqId := 1, attnDpGroupId := 1, forwardingTokens := [11, 12, 13], kvCachedTokenNum := 1
     prefixCacheLen := 1 },
    { reqId := 2, attnDpGroupId := 1, forwardingTokens := [21, 22], kvCachedTokenNum := 1
      prefixCacheLen := 1 },
    { reqId := 3, attnDpGroupId := 0, forwardingTokens := [31, 32] },
    { reqId := 4, attnDpGroupId := 1, forwardingTokens := [41, 42, 43] }]

def sampleFlash (req : ForwardRequest) : Bool := decide (preparedInputIdsLen req ≠ 1)

def sampleOrder : Lib.KeySort.StdSort (Reorder.comparator true 1) :=
  Reorder.insertionOrder true 1

theorem dp_slices_sample :
    ∃ tables offsets, prepareOffsets sampleFlash 1 2 [9, 9, 9, 9, 9] [8, 8, 8, 8, 8]
        ((Reorder.reorderInferRequests sampleOrder sampleReqs).map forwardRequest) =
          some (tables, offsets) ∧
      ReadsSlices sampleFlash 1 2
        ((Reorder.reorderInferRequests sampleOrder sampleReqs).map forwardRequest)
        tables offsets := by
  refine dp_slices sampleOrder sampleFlash ?_ (by decide) (by decide) (by decide) (by decide)
    (by decide)
  intro req hmem
  fin_cases hmem <;> exact { size := by decide, cached := by decide, prefixNonneg := by decide
                             effective := by decide }

/-- The query offsets of the sample, and where the two groups begin. -/
example : (prepareOffsets sampleFlash 1 2 [9, 9, 9, 9, 9] [8, 8, 8, 8, 8]
    ((Reorder.reorderInferRequests sampleOrder sampleReqs).map forwardRequest)).map
      (fun built => (built.1.dpPrefillQOffset, built.2)) = some ([0, 3, 5, 9, 9], [0, 2]) := by
  decide

end KsanaBuildAhead.Executor.DpSlices
