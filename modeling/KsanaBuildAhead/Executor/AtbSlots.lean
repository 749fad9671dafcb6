import KsanaBuildAhead.Executor.AtbTables
import KsanaBuildAhead.Lib.Execution
import KsanaBuildAhead.Lib.Segments

/-!
# The slots of a batch

Every place of the batch has a slot of its own in the multi-token mapping. The single-token
mapping asks each request for the blocks it has on the rank, and the requests of other groups
have none.
-/
namespace KsanaBuildAhead.Executor

open KsanaBuildAhead.Runtime KsanaBuildAhead.Lib.Execution KsanaBuildAhead.Lib.RowMajor
open KsanaBuildAhead.Lib.Segments KsanaBuildAhead.Lib.VectorAccess

/-- The requests of the rank's group own their blocks, and enough of them. -/
structure OwnsBlocks (layout : AtbLayout) (reqs : List ExecutorInferRequest) : Prop where
  enough : ∀ req ∈ reqs, req.attnDpGroupId = layout.attnDpGroupId →
    req.forwardingTokens.length ≤ req.kvCacheBlocks.length * layout.blockTokenNum
  nodup : ∀ req ∈ reqs, req.attnDpGroupId = layout.attnDpGroupId → req.kvCacheBlocks.Nodup
  disjoint : reqs.Pairwise fun req other => req.attnDpGroupId = layout.attnDpGroupId →
    other.attnDpGroupId = layout.attnDpGroupId → req.kvCacheBlocks.Disjoint other.kvCacheBlocks

/-- What the rank has to number is within the types it uses. -/
structure FitsInt32 (layout : AtbLayout) (reqs : List ExecutorInferRequest) : Prop where
  lengths : ∀ req ∈ reqs, req.forwardingTokens.length < 2 ^ 31
  caches : ∀ req ∈ reqs, req.kvCacheBlocks.length * layout.blockTokenNum < 2 ^ 64
  slots : ∀ req ∈ reqs, req.attnDpGroupId = layout.attnDpGroupId →
    ∀ layerIdx < layout.layerNumOnNode, ∀ tokenIdx < req.forwardingTokens.length,
      -2 ^ 31 ≤ exactSlot layout (tokenBlock layout req tokenIdx) layerIdx tokenIdx ∧
        exactSlot layout (tokenBlock layout req tokenIdx) layerIdx tokenIdx < 2 ^ 31

/-- The tokens of a request the multi-token mapping has entries for. -/
def groupTokens (layout : AtbLayout) (req : ExecutorInferRequest) : List Int :=
  if req.attnDpGroupId = layout.attnDpGroupId then req.forwardingTokens else []

/-- The request of a place that is to have a slot. -/
structure Place.Of (place : Place) (layout : AtbLayout) (reqs : List ExecutorInferRequest)
    (req : ExecutorInferRequest) : Prop where
  request : reqs[place.reqIdx]? = some req
  group : req.attnDpGroupId = layout.attnDpGroupId
  layer : place.layerIdx < layout.layerNumOnNode
  token : place.tokenIdx < req.forwardingTokens.length

theorem Place.Of.tail {layout : AtbLayout} {reqs : List ExecutorInferRequest}
    {first req : ExecutorInferRequest} {reqIdx layerIdx tokenIdx : Nat}
    (hplace : Place.Of ⟨reqIdx + 1, layerIdx, tokenIdx⟩ layout (first :: reqs) req) :
    Place.Of ⟨reqIdx, layerIdx, tokenIdx⟩ layout reqs req :=
  ⟨hplace.request, hplace.group, hplace.layer, hplace.token⟩

section Requests

variable {layout : AtbLayout} {req : ExecutorInferRequest} {tokenIdx : Nat}

theorem rankBlockIds_buildAtbForwardRequest (hrank : layout.attnDpRankId < layout.rankNum)
    (hgroup : req.attnDpGroupId = layout.attnDpGroupId) :
    rankBlockIds layout (buildAtbForwardRequest layout req) =
      some (req.kvCacheBlocks.map (flatBlockId layout)) := by
  simp only [rankBlockIds, buildAtbForwardRequest, if_pos hgroup.symm, buildFlatKVCacheBlkIds]
  rw [List.getElem?_replicate, if_pos hrank]

theorem rankBlockIds_of_other (hgroup : req.attnDpGroupId ≠ layout.attnDpGroupId) :
    rankBlockIds layout (buildAtbForwardRequest layout req) = none := by
  simp only [rankBlockIds, buildAtbForwardRequest, if_neg (Ne.symm hgroup), List.getElem?_nil]

theorem block_lt
    (henough : req.forwardingTokens.length ≤ req.kvCacheBlocks.length * layout.blockTokenNum)
    (htoken : tokenIdx < req.forwardingTokens.length) :
    tokenIdx / layout.blockTokenNum < req.kvCacheBlocks.length :=
  Nat.div_lt_of_lt_mul (Nat.mul_comm .. ▸ htoken.trans_le henough)

theorem getElem?_tokenBlock
    (hblock : tokenIdx / layout.blockTokenNum < req.kvCacheBlocks.length) :
    req.kvCacheBlocks[tokenIdx / layout.blockTokenNum]? =
      some (tokenBlock layout req tokenIdx) := by
  unfold tokenBlock
  rw [List.getElem?_eq_getElem hblock, Option.getD_some]

theorem tokenBlock_mem
    (hblock : tokenIdx / layout.blockTokenNum < req.kvCacheBlocks.length) :
    tokenBlock layout req tokenIdx ∈ req.kvCacheBlocks :=
  List.mem_of_getElem? (getElem?_tokenBlock hblock)

theorem lastTokenPos_eq (hlength : req.forwardingTokens.length < 2 ^ 31)
    (hsome : req.forwardingTokens ≠ []) :
    lastTokenPos (buildAtbForwardRequest layout req) = req.forwardingTokens.length - 1 := by
  have hpos := List.length_pos_iff.mpr hsome
  have htokens : (buildAtbForwardRequest layout req).forwardingTokens = req.forwardingTokens := rfl
  unfold lastTokenPos castSize
  rw [htokens, castInt32_eq (by omega) (by omega)]
  omega

theorem lastTokenPos_of_nil (hnil : req.forwardingTokens = []) :
    lastTokenPos (buildAtbForwardRequest layout req) = 2 ^ 64 - 1 := by
  have htokens : (buildAtbForwardRequest layout req).forwardingTokens = req.forwardingTokens := rfl
  unfold lastTokenPos
  rw [htokens, hnil]
  rfl

end Requests

section Owned

variable {layout : AtbLayout} {reqs : List ExecutorInferRequest} {req other : ExecutorInferRequest}
  {place otherPlace : Place}

theorem OwnsBlocks.of_cons (howns : OwnsBlocks layout (req :: reqs)) :
    OwnsBlocks layout [req] ∧ OwnsBlocks layout reqs := by
  have hmem (other : ExecutorInferRequest) (h : other ∈ [req]) : other ∈ req :: reqs :=
    List.mem_cons.mpr (Or.inl (List.mem_singleton.mp h))
  exact ⟨⟨fun other h => howns.enough other (hmem other h),
      fun other h => howns.nodup other (hmem other h), List.pairwise_singleton ..⟩,
    ⟨fun other h => howns.enough other (List.mem_cons_of_mem _ h),
      fun other h => howns.nodup other (List.mem_cons_of_mem _ h),
      (List.pairwise_cons.mp howns.disjoint).2⟩⟩

theorem FitsInt32.mono (hfits : FitsInt32 layout reqs) {some : List ExecutorInferRequest}
    (hsubset : some ⊆ reqs) : FitsInt32 layout some where
  lengths other h := hfits.lengths other (hsubset h)
  caches other h := hfits.caches other (hsubset h)
  slots other h := hfits.slots other (hsubset h)

theorem OwnsBlocks.request_eq (howns : OwnsBlocks layout reqs) (hplace : place.Of layout reqs req)
    (hother : otherPlace.Of layout reqs other) {blockId : Int} (hmem : blockId ∈ req.kvCacheBlocks)
    (hmem' : blockId ∈ other.kvCacheBlocks) : place.reqIdx = otherPlace.reqIdx := by
  obtain ⟨hlt, hreq⟩ := List.getElem?_eq_some_iff.mp hplace.request
  obtain ⟨hlt', hother'⟩ := List.getElem?_eq_some_iff.mp hother.request
  have hapart := List.pairwise_iff_getElem.mp howns.disjoint
  by_contra hne
  rcases Nat.lt_or_gt_of_ne hne with hbefore | hafter
  · have hdisjoint := hapart _ _ hlt hlt' hbefore
    rw [hreq, hother'] at hdisjoint
    exact hdisjoint hplace.group hother.group hmem hmem'
  · have hdisjoint := hapart _ _ hlt' hlt hafter
    rw [hreq, hother'] at hdisjoint
    exact hdisjoint hother.group hplace.group hmem' hmem

theorem place_eq_of_exactSlot (howns : OwnsBlocks layout reqs) (hbtn : 0 < layout.blockTokenNum)
    (hlayers : layout.layerNumOnNode ≤ layout.layerNum) (hplace : place.Of layout reqs req)
    (hother : otherPlace.Of layout reqs other)
    (h : exactSlot layout (tokenBlock layout req place.tokenIdx) place.layerIdx place.tokenIdx =
      exactSlot layout (tokenBlock layout other otherPlace.tokenIdx) otherPlace.layerIdx
        otherPlace.tokenIdx) : place = otherPlace := by
  have hmem := List.mem_of_getElem? hplace.request
  have hmem' := List.mem_of_getElem? hother.request
  have hblock := block_lt (howns.enough req hmem hplace.group) hplace.token
  have hblock' := block_lt (howns.enough other hmem' hother.group) hother.token
  obtain ⟨hsame, hlayer, hinner⟩ := exactSlot_injective hbtn (hplace.layer.trans_le hlayers)
    (hother.layer.trans_le hlayers) h
  have hidx : place.reqIdx = otherPlace.reqIdx :=
    howns.request_eq hplace hother (tokenBlock_mem hblock) (hsame ▸ tokenBlock_mem hblock')
  obtain rfl : req = other := Option.some.inj
    (hplace.request.symm.trans (hidx ▸ hother.request))
  have hpage : place.tokenIdx / layout.blockTokenNum =
      otherPlace.tokenIdx / layout.blockTokenNum := by
    have hfound := getElem?_tokenBlock hblock
    rw [hsame, ← getElem?_tokenBlock hblock'] at hfound
    exact (List.getElem?_inj hblock (howns.nodup req hmem hplace.group)).mp hfound
  have htoken : place.tokenIdx = otherPlace.tokenIdx := by
    rw [← Nat.div_add_mod place.tokenIdx layout.blockTokenNum, hpage, hinner, Nat.div_add_mod]
  cases place
  cases otherPlace
  simp_all

end Owned

section AllTokens

variable {layout : AtbLayout} {dim1 : Nat}

/-- What the multi-token mapping writes for one request. -/
def requestEntries (layout : AtbLayout) (dim1 offset : Nat) (req : ExecutorInferRequest) :
    List (Nat × Int) :=
  (List.range layout.layerNumOnNode ×ˢ List.range req.forwardingTokens.length).map
    fun (index : Nat × Nat) => (index.1 * dim1 + (offset + index.2),
      exactSlot layout (tokenBlock layout req index.2) index.1 index.2)

theorem mem_requestEntries {req : ExecutorInferRequest} {offset : Nat} {write : Nat × Int} :
    write ∈ requestEntries layout dim1 offset req ↔
      ∃ layerIdx < layout.layerNumOnNode, ∃ tokenIdx < req.forwardingTokens.length,
        (layerIdx * dim1 + (offset + tokenIdx),
          exactSlot layout (tokenBlock layout req tokenIdx) layerIdx tokenIdx) = write := by
  unfold requestEntries
  simp only [List.mem_map, Prod.exists, List.mem_product, List.mem_range, and_assoc,
    exists_and_left]

theorem requestEntries_cells {req : ExecutorInferRequest} {offset : Nat}
    (hroom : offset + req.forwardingTokens.length ≤ dim1) :
    CellsIn (· % dim1) (layout.layerNumOnNode * dim1) offset (offset + req.forwardingTokens.length)
      (requestEntries layout dim1 offset req) := by
  constructor
  · unfold requestEntries
    rw [List.map_map]
    refine List.Nodup.map_on ?_ (List.nodup_range.product List.nodup_range)
    intro index hindex other hother hcell
    have htoken := List.mem_range.mp (List.mem_product.mp hindex).2
    have htoken' := List.mem_range.mp (List.mem_product.mp hother).2
    obtain ⟨hrow, hcolumn⟩ := cell_injective (by omega) (by omega) hcell
    exact Prod.ext hrow (Nat.add_left_cancel hcolumn)
  · intro write hwrite
    obtain ⟨layerIdx, hlayer, tokenIdx, htoken, rfl⟩ := mem_requestEntries.mp hwrite
    exact cell_lt (by omega) hlayer
  · intro write hwrite
    obtain ⟨layerIdx, hlayer, tokenIdx, htoken, rfl⟩ := mem_requestEntries.mp hwrite
    rw [cell_mod layerIdx (by omega)]
    omega

/-- What the multi-token mapping writes for a batch. -/
def groupEntries (layout : AtbLayout) (dim1 : Nat) :
    Nat → List ExecutorInferRequest → List (Nat × Int)
  | _, [] => []
  | offset, req :: reqs =>
    if req.attnDpGroupId = layout.attnDpGroupId then
      requestEntries layout dim1 offset req ++
        groupEntries layout dim1 (offset + req.forwardingTokens.length) reqs
    else groupEntries layout dim1 offset reqs

theorem groupEntries_cells {reqs : List ExecutorInferRequest} (offset : Nat)
    (hroom : offset + (reqs.flatMap (groupTokens layout)).length ≤ dim1) :
    CellsIn (· % dim1) (layout.layerNumOnNode * dim1) offset
      (offset + (reqs.flatMap (groupTokens layout)).length)
      (groupEntries layout dim1 offset reqs) := by
  induction reqs generalizing offset with
  | nil => exact CellsIn.nil
  | cons req reqs ih =>
    unfold groupEntries
    rw [List.flatMap_cons, List.length_append, ← Nat.add_assoc] at hroom ⊢
    by_cases hgroup : req.attnDpGroupId = layout.attnDpGroupId
    · have htokens : groupTokens layout req = req.forwardingTokens := if_pos hgroup
      rw [htokens] at hroom ⊢
      rw [if_pos hgroup]
      exact (requestEntries_cells (by omega)).append (ih _ hroom) (Nat.le_add_right ..)
        (Nat.le_add_right ..)
    · have htokens : groupTokens layout req = [] := if_neg hgroup
      rw [htokens, List.length_nil, Nat.add_zero] at hroom ⊢
      rw [if_neg hgroup]
      exact ih offset hroom

/-- The entry of a place stands behind those of the requests before its own. -/
theorem mem_groupEntries {reqs : List ExecutorInferRequest} (offset : Nat) {place : Place}
    {req : ExecutorInferRequest} (hplace : place.Of layout reqs req) :
    (place.layerIdx * dim1 + (offset + segmentStart (groupTokens layout) reqs place.reqIdx +
      place.tokenIdx),
      exactSlot layout (tokenBlock layout req place.tokenIdx) place.layerIdx place.tokenIdx) ∈
        groupEntries layout dim1 offset reqs := by
  obtain ⟨reqIdx, layerIdx, tokenIdx⟩ := place
  induction reqs generalizing offset reqIdx with
  | nil => cases hplace.request
  | cons first reqs ih =>
    unfold groupEntries
    cases reqIdx with
    | zero =>
      obtain rfl : first = req := Option.some.inj hplace.request
      rw [if_pos hplace.group, segmentStart_zero, Nat.add_zero]
      exact List.mem_append_left _ (mem_requestEntries.mpr
        ⟨layerIdx, hplace.layer, tokenIdx, hplace.token, rfl⟩)
    | succ n =>
      rw [segmentStart_cons_succ, ← Nat.add_assoc offset]
      by_cases hgroup : first.attnDpGroupId = layout.attnDpGroupId
      · have htokens : groupTokens layout first = first.forwardingTokens := if_pos hgroup
        rw [if_pos hgroup, htokens]
        exact List.mem_append_right _ (ih _ n hplace.tail)
      · have htokens : groupTokens layout first = [] := if_neg hgroup
        rw [if_neg hgroup, htokens, List.length_nil, Nat.add_zero]
        exact ih offset n hplace.tail

theorem multiTokenWrites_build {req : ExecutorInferRequest} {offset : Nat}
    (hdsa : layout.useDsa = false) (hrank : layout.attnDpRankId < layout.rankNum)
    (howns : OwnsBlocks layout [req]) (hfits : FitsInt32 layout [req])
    (hgroup : req.attnDpGroupId = layout.attnDpGroupId) :
    multiTokenWrites layout dim1 offset (buildAtbForwardRequest layout req) =
      some (requestEntries layout dim1 offset req) := by
  have hmem : req ∈ [req] := List.mem_singleton_self req
  refine mapM_eq_some_map fun index hindex => ?_
  obtain ⟨hlayer, htoken⟩ := List.mem_product.mp hindex
  rw [List.mem_range] at hlayer htoken
  have hblock := block_lt (howns.enough req hmem hgroup) htoken
  obtain ⟨hlow, hhigh⟩ := hfits.slots req hmem hgroup index.1 hlayer index.2 htoken
  rw [rankBlockIds_buildAtbForwardRequest hrank hgroup]
  simp only [Option.bind_eq_bind, Option.bind_some, List.getElem?_map, getElem?_tokenBlock hblock,
    Option.map_some]
  rw [slotNumber_flatBlockId hdsa (castInt32_modEq _) hlow hhigh, Nat.add_assoc]

theorem multiTokenLoop_build (hdsa : layout.useDsa = false)
    (hrank : layout.attnDpRankId < layout.rankNum) {reqs : List ExecutorInferRequest} (offset : Nat)
    (howns : OwnsBlocks layout reqs) (hfits : FitsInt32 layout reqs) :
    multiTokenLoop layout dim1 offset (reqs.map (buildAtbForwardRequest layout)) =
      some (groupEntries layout dim1 offset reqs) := by
  induction reqs generalizing offset with
  | nil => rfl
  | cons req reqs ih =>
    obtain ⟨hown, howns⟩ := howns.of_cons
    have hfit : FitsInt32 layout [req] := hfits.mono (List.cons_subset_cons _ (List.nil_subset _))
    have hrest (offset : Nat) := ih offset howns (hfits.mono (List.subset_cons_self ..))
    have hsame : (buildAtbForwardRequest layout req).attnDpGroupId = req.attnDpGroupId := rfl
    have hlength : (buildAtbForwardRequest layout req).forwardingTokens.length =
        req.forwardingTokens.length := rfl
    rw [List.map_cons, multiTokenLoop, groupEntries, hsame, hlength]
    by_cases hgroup : req.attnDpGroupId = layout.attnDpGroupId
    · rw [if_pos hgroup, if_pos hgroup, multiTokenWrites_build hdsa hrank hown hfit hgroup, hrest]
      rfl
    · rw [if_neg hgroup, if_neg hgroup, hrest]

end AllTokens

section LastTokens

variable {layout : AtbLayout} {req : ExecutorInferRequest} {batchSize maxNumBlocks reqIdx : Nat}

/-- The longest list of blocks is found if every request has one for the rank. -/
theorem maxNumBlocksLoop_build (hrank : layout.attnDpRankId < layout.rankNum)
    {reqs : List ExecutorInferRequest}
    (hgroup : ∀ req ∈ reqs, req.attnDpGroupId = layout.attnDpGroupId) :
    ∃ maxNum, maxNumBlocksLoop layout (reqs.map (buildAtbForwardRequest layout)) = some maxNum ∧
      ∀ req ∈ reqs, req.kvCacheBlocks.length ≤ maxNum := by
  have hloop : ∀ (reqs : List ExecutorInferRequest) (start : Nat),
      (∀ req ∈ reqs, req.attnDpGroupId = layout.attnDpGroupId) →
      ∃ maxNum, (reqs.map (buildAtbForwardRequest layout)).foldlM (fun maxNum req =>
          (rankBlockIds layout req).map fun blockIds => max maxNum blockIds.length) start =
            some maxNum ∧ start ≤ maxNum ∧ ∀ req ∈ reqs, req.kvCacheBlocks.length ≤ maxNum := by
    intro reqs
    induction reqs with
    | nil => exact fun start _ => ⟨start, rfl, le_rfl, fun _ hmem => absurd hmem List.not_mem_nil⟩
    | cons req reqs ih =>
      intro start hgroup
      rw [List.forall_mem_cons] at hgroup
      obtain ⟨maxNum, hmax, hstart, hblocks⟩ :=
        ih (max start (req.kvCacheBlocks.map (flatBlockId layout)).length) hgroup.2
      rw [List.length_map] at hstart
      refine ⟨maxNum, ?_, by omega, ?_⟩
      · rw [List.map_cons, List.foldlM_cons, rankBlockIds_buildAtbForwardRequest hrank hgroup.1]
        exact hmax
      · rw [List.forall_mem_cons]
        exact ⟨by omega, hblocks⟩
  obtain ⟨maxNum, hmax, -, hblocks⟩ := hloop reqs 0 hgroup
  exact ⟨maxNum, hmax, hblocks⟩

theorem group_of_maxNumBlocksLoop {reqs : List ExecutorInferRequest} {maxNum : Nat}
    (h : maxNumBlocksLoop layout (reqs.map (buildAtbForwardRequest layout)) = some maxNum) :
    ∀ req ∈ reqs, req.attnDpGroupId = layout.attnDpGroupId := by
  unfold maxNumBlocksLoop at h
  generalize 0 = start at h
  induction reqs generalizing start with
  | nil => exact fun _ hmem => absurd hmem List.not_mem_nil
  | cons req reqs ih =>
    rw [List.map_cons, List.foldlM_cons] at h
    obtain ⟨next, hnext, hrest⟩ := Option.bind_eq_some_iff.mp h
    obtain ⟨blockIds, hblockIds, -⟩ := Option.map_eq_some_iff.mp hnext
    rw [List.forall_mem_cons]
    refine ⟨?_, ih next hrest⟩
    by_contra hother
    rw [rankBlockIds_of_other hother] at hblockIds
    cases hblockIds

theorem blockTableWrites_cells (layout : AtbLayout) {blockIds : List Int}
    (hmax : blockIds.length ≤ maxNumBlocks) (hidx : reqIdx < batchSize) :
    CellsIn (· / maxNumBlocks % batchSize) (layout.layerNumOnNode * batchSize * maxNumBlocks)
      reqIdx (reqIdx + 1) (blockTableWrites layout batchSize maxNumBlocks reqIdx blockIds) := by
  have hindex : ∀ index ∈ List.range layout.layerNumOnNode ×ˢ blockIds.zipIdx,
      index.1 < layout.layerNumOnNode ∧ blockIds[index.2.2]? = some index.2.1 ∧
        index.2.2 < maxNumBlocks := by
    intro index hmem
    obtain ⟨hlayer, hblock⟩ := List.mem_product.mp hmem
    have hfound := List.mem_zipIdx_iff_getElem?.mp hblock
    have hlt := (List.getElem?_eq_some_iff.mp hfound).1
    exact ⟨List.mem_range.mp hlayer, hfound, by omega⟩
  have hcell (layerIdx blockIdx : Nat) :
      layerIdx * batchSize * maxNumBlocks + reqIdx * maxNumBlocks + blockIdx =
        (layerIdx * batchSize + reqIdx) * maxNumBlocks + blockIdx := by
    rw [Nat.add_mul]
  constructor
  · unfold blockTableWrites
    rw [List.map_map]
    have hzip : blockIds.zipIdx.Nodup := .of_map _ (List.nodup_zipIdx_map_snd blockIds)
    refine List.Nodup.map_on ?_ (List.nodup_range.product hzip)
    intro index hmem other hother heq
    obtain ⟨-, hfound, hblock⟩ := hindex index hmem
    obtain ⟨-, hfound', hblock'⟩ := hindex other hother
    simp only [Function.comp_apply, hcell] at heq
    obtain ⟨hrow, hcolumn⟩ := cell_injective hblock hblock' heq
    obtain ⟨hlayer, -⟩ := cell_injective hidx hidx hrow
    rw [hcolumn, hfound'] at hfound
    exact Prod.ext hlayer (Prod.ext (Option.some.inj hfound).symm hcolumn)
  · intro write hwrite
    obtain ⟨index, hmem, rfl⟩ := List.mem_map.mp hwrite
    obtain ⟨hlayer, -, hblock⟩ := hindex index hmem
    simp only [hcell]
    exact cell_lt hblock (cell_lt hidx hlayer)
  · intro write hwrite
    obtain ⟨index, hmem, rfl⟩ := List.mem_map.mp hwrite
    obtain ⟨-, -, hblock⟩ := hindex index hmem
    simp only [hcell]
    rw [Nat.mul_comm _ maxNumBlocks, Nat.mul_add_div (by omega), Nat.div_eq_of_lt hblock,
      Nat.add_zero, cell_mod _ hidx]
    omega

/-- What the single-token mapping writes for one request. -/
def lastTokenEntries (layout : AtbLayout) (batchSize reqIdx : Nat) (req : ExecutorInferRequest) :
    List (Nat × Int) :=
  let last := req.forwardingTokens.length - 1
  (List.range layout.layerNumOnNode).map fun layerIdx =>
    (layerIdx * batchSize + reqIdx, exactSlot layout (tokenBlock layout req last) layerIdx last)

theorem lastTokenEntries_cells (layout : AtbLayout) (req : ExecutorInferRequest)
    (hidx : reqIdx < batchSize) :
    CellsIn (· % batchSize) (layout.layerNumOnNode * batchSize) reqIdx (reqIdx + 1)
      (lastTokenEntries layout batchSize reqIdx req) := by
  unfold lastTokenEntries
  constructor
  · rw [List.map_map]
    refine List.Nodup.map_on ?_ List.nodup_range
    intro layerIdx _ other _ heq
    exact (cell_injective hidx hidx heq).1
  · intro write hwrite
    obtain ⟨layerIdx, hlayer, rfl⟩ := List.mem_map.mp hwrite
    exact cell_lt hidx (List.mem_range.mp hlayer)
  · intro write hwrite
    obtain ⟨layerIdx, hlayer, rfl⟩ := List.mem_map.mp hwrite
    rw [cell_mod layerIdx hidx]
    omega

theorem lastTokenWrites_build (hdsa : layout.useDsa = false)
    (howns : OwnsBlocks layout [req]) (hfits : FitsInt32 layout [req])
    (hgroup : req.attnDpGroupId = layout.attnDpGroupId)
    (htokens : layout.layerNumOnNode = 0 ∨ req.forwardingTokens ≠ []) :
    lastTokenWrites layout batchSize reqIdx (buildAtbForwardRequest layout req)
      (req.kvCacheBlocks.map (flatBlockId layout)) =
        some (lastTokenEntries layout batchSize reqIdx req) := by
  have hmem : req ∈ [req] := List.mem_singleton_self req
  refine mapM_eq_some_map fun layerIdx hlayer => ?_
  rw [List.mem_range] at hlayer
  have hsome : req.forwardingTokens ≠ [] := htokens.resolve_left (by omega)
  have hpos := List.length_pos_iff.mpr hsome
  have hlast : req.forwardingTokens.length - 1 < req.forwardingTokens.length := by omega
  have hblock := block_lt (howns.enough req hmem hgroup) hlast
  obtain ⟨hlow, hhigh⟩ := hfits.slots req hmem hgroup layerIdx hlayer _ hlast
  rw [lastTokenPos_eq (hfits.lengths req hmem) hsome]
  simp only [Option.bind_eq_bind, Option.bind_some, List.getElem?_map, getElem?_tokenBlock hblock,
    Option.map_some]
  rw [slotNumber_flatBlockId hdsa rfl hlow hhigh]

/-- What the block table is filled with. -/
def tableEntries (layout : AtbLayout) (batchSize maxNumBlocks reqIdx : Nat)
    (reqs : List ExecutorInferRequest) : List (Nat × Int) :=
  (reqs.zipIdx reqIdx).flatMap fun (entry : ExecutorInferRequest × Nat) =>
    blockTableWrites layout batchSize maxNumBlocks entry.2
      (entry.1.kvCacheBlocks.map (flatBlockId layout))

/-- What the single-token mapping is filled with. -/
def lastEntries (layout : AtbLayout) (batchSize reqIdx : Nat) (reqs : List ExecutorInferRequest) :
    List (Nat × Int) :=
  (reqs.zipIdx reqIdx).flatMap fun (entry : ExecutorInferRequest × Nat) =>
    lastTokenEntries layout batchSize entry.2 entry.1

theorem tableEntries_cells (layout : AtbLayout) {reqs : List ExecutorInferRequest}
    (hmax : ∀ req ∈ reqs, req.kvCacheBlocks.length ≤ maxNumBlocks) :
    CellsIn (· / maxNumBlocks % reqs.length) (layout.layerNumOnNode * reqs.length * maxNumBlocks) 0
      (0 + reqs.length) (tableEntries layout reqs.length maxNumBlocks 0 reqs) := by
  refine CellsIn.zipIdx (fun (req : ExecutorInferRequest) reqIdx =>
    blockTableWrites layout reqs.length maxNumBlocks reqIdx
      (req.kvCacheBlocks.map (flatBlockId layout))) ?_
  intro req hmem reqIdx hidx
  have hlength : (req.kvCacheBlocks.map (flatBlockId layout)).length ≤ maxNumBlocks := by
    rw [List.length_map]
    exact hmax req hmem
  exact blockTableWrites_cells layout hlength (by omega)

theorem lastEntries_cells (layout : AtbLayout) (reqs : List ExecutorInferRequest) :
    CellsIn (· % reqs.length) (layout.layerNumOnNode * reqs.length) 0 (0 + reqs.length)
      (lastEntries layout reqs.length 0 reqs) := by
  refine CellsIn.zipIdx (fun req reqIdx => lastTokenEntries layout reqs.length reqIdx req) ?_
  intro req _ reqIdx hidx
  exact lastTokenEntries_cells layout req (by omega)

/-- Every request is given its rows of the block table and the slot of its last token. -/
theorem singleTokenLoop_build (hdsa : layout.useDsa = false)
    (hrank : layout.attnDpRankId < layout.rankNum) {reqs : List ExecutorInferRequest}
    (batchSize reqIdx : Nat) (howns : OwnsBlocks layout reqs) (hfits : FitsInt32 layout reqs)
    (hgood : ∀ req ∈ reqs, req.attnDpGroupId = layout.attnDpGroupId ∧
      (layout.layerNumOnNode = 0 ∨ req.forwardingTokens ≠ [])) :
    singleTokenLoop layout batchSize maxNumBlocks reqIdx
        (reqs.map (buildAtbForwardRequest layout)) =
      some (tableEntries layout batchSize maxNumBlocks reqIdx reqs,
        lastEntries layout batchSize reqIdx reqs) := by
  induction reqs generalizing reqIdx with
  | nil => rfl
  | cons req reqs ih =>
    rw [List.forall_mem_cons] at hgood
    obtain ⟨hown, howns⟩ := howns.of_cons
    have hfit : FitsInt32 layout [req] := hfits.mono (List.cons_subset_cons _ (List.nil_subset _))
    have hrest := ih (reqIdx + 1) howns (hfits.mono (List.subset_cons_self ..)) hgood.2
    have hgroup : (buildAtbForwardRequest layout req).attnDpGroupId = layout.attnDpGroupId :=
      hgood.1.1
    rw [List.map_cons, singleTokenLoop, if_pos hgroup,
      rankBlockIds_buildAtbForwardRequest hrank hgood.1.1]
    simp only [Option.bind_eq_bind, Option.bind_some,
      lastTokenWrites_build hdsa hown hfit hgood.1.1 hgood.1.2, hrest]
    rfl

/-- A request of the group without a token has no block to take the slot from. -/
theorem tokens_of_singleTokenLoop (hrank : layout.attnDpRankId < layout.rankNum)
    {reqs : List ExecutorInferRequest} {written : List (Nat × Int) × List (Nat × Int)}
    (hcaches : ∀ req ∈ reqs, req.kvCacheBlocks.length * layout.blockTokenNum < 2 ^ 64)
    (hbtn : 0 < layout.blockTokenNum)
    (h : singleTokenLoop layout batchSize maxNumBlocks reqIdx
      (reqs.map (buildAtbForwardRequest layout)) = some written) :
    ∀ req ∈ reqs, req.attnDpGroupId = layout.attnDpGroupId →
      layout.layerNumOnNode = 0 ∨ req.forwardingTokens ≠ [] := by
  induction reqs generalizing reqIdx written with
  | nil => exact fun _ hmem => absurd hmem List.not_mem_nil
  | cons req reqs ih =>
    rw [List.forall_mem_cons] at hcaches ⊢
    have hsame : (buildAtbForwardRequest layout req).attnDpGroupId = req.attnDpGroupId := rfl
    rw [List.map_cons, singleTokenLoop, hsame] at h
    by_cases hgroup : req.attnDpGroupId = layout.attnDpGroupId
    · rw [if_pos hgroup, rankBlockIds_buildAtbForwardRequest hrank hgroup] at h
      rw [Option.bind_eq_bind, Option.bind_some] at h
      obtain ⟨writes, hwrites, hafter⟩ := Option.bind_eq_some_iff.mp h
      obtain ⟨rest, hrest, -⟩ := Option.bind_eq_some_iff.mp hafter
      refine ⟨fun _ => ?_, ih hcaches.2 hrest⟩
      by_contra hbad
      rw [not_or, not_not] at hbad
      obtain ⟨entry, hentry⟩ := isSome_of_mapM hwrites 0
        (List.mem_range.mpr (Nat.pos_of_ne_zero hbad.1))
      obtain ⟨blockId, hblock, -⟩ := Option.bind_eq_some_iff.mp hentry
      obtain ⟨hlt, -⟩ := List.getElem?_eq_some_iff.mp hblock
      rw [lastTokenPos_of_nil hbad.2, List.length_map, Nat.div_lt_iff_lt_mul hbtn] at hlt
      omega
    · rw [if_neg hgroup] at h
      exact ⟨fun hin => absurd hin hgroup, ih hcaches.2 h⟩

end LastTokens

/-- The assignments of a loop each went to a cell of their own and are what the table holds. -/
structure WrittenApart (table : List Int) (writes : List (Nat × Int)) : Prop where
  apart : (writes.map Prod.fst).Nodup
  held : ∀ write ∈ writes, table[write.1]? = some write.2

/-- Where the multi-token mapping has the slot of a place. -/
def multiTokenSlot (layout : AtbLayout) (reqs : List ExecutorInferRequest) (multi : AtbKVCache)
    (place : Place) : Option Int :=
  multi.slotMapping[place.layerIdx * multi.slotMappingDim1 +
    (segmentStart (groupTokens layout) reqs place.reqIdx + place.tokenIdx)]?

def singleTokenSlot (single : AtbKVCache) (place : Place) : Option Int :=
  single.slotMapping[place.layerIdx * single.slotMappingDim1 + place.reqIdx]?

/-- The multi-token mapping of a batch is made, and it keeps the places of the batch apart. -/
structure MapsAllTokens (layout : AtbLayout) (reqs : List ExecutorInferRequest)
    (multi : AtbKVCache) : Prop where
  run : prepareATBKVCache layout (reqs.map (buildAtbForwardRequest layout)) true = some multi
  written : WrittenApart multi.slotMapping multi.slotWrites
  mapped : ∀ place req, Place.Of place layout reqs req →
    ∃ slot, multiTokenSlot layout reqs multi place = some slot
  distinct : ∀ place req other otherReq, Place.Of place layout reqs req →
    Place.Of other layout reqs otherReq → place ≠ other →
      multiTokenSlot layout reqs multi place ≠ multiTokenSlot layout reqs multi other
  keyValue : layout.useMla = false → ∀ place req other otherReq key value,
    Place.Of place layout reqs req → Place.Of other layout reqs otherReq →
      multiTokenSlot layout reqs multi place = some key →
      multiTokenSlot layout reqs multi other = some value →
      key ≠ value + layout.layerNum * layout.blockTokenNum

/-- The single-token mapping of the batch is made, and gives last tokens the same slots. -/
structure MapsLastTokens (layout : AtbLayout) (reqs : List ExecutorInferRequest)
    (multi single : AtbKVCache) : Prop where
  run : prepareATBKVCache layout (reqs.map (buildAtbForwardRequest layout)) false = some single
  slotsWritten : WrittenApart single.slotMapping single.slotWrites
  tableWritten : WrittenApart single.blockTable single.blockWrites
  lastToken : ∀ place req, Place.Of place layout reqs req →
    place.tokenIdx + 1 = req.forwardingTokens.length →
      singleTokenSlot single place = multiTokenSlot layout reqs multi place

section Mappings

variable {layout : AtbLayout} {reqs : List ExecutorInferRequest}

theorem prepareATBKVCache_multi (hdsa : layout.useDsa = false)
    (hrank : layout.attnDpRankId < layout.rankNum) (howns : OwnsBlocks layout reqs)
    (hfits : FitsInt32 layout reqs) :
    ∃ multi, prepareATBKVCache layout (reqs.map (buildAtbForwardRequest layout)) true =
        some multi ∧ WrittenApart multi.slotMapping multi.slotWrites ∧
      ∀ place req, Place.Of place layout reqs req → multiTokenSlot layout reqs multi place =
        some (exactSlot layout (tokenBlock layout req place.tokenIdx) place.layerIdx
          place.tokenIdx) := by
  let dim1 := ((reqs.map (buildAtbForwardRequest layout)).map fun req =>
    req.forwardingTokens.length).sum
  have hroom : 0 + (reqs.flatMap (groupTokens layout)).length ≤ dim1 := by
    rw [Nat.zero_add, List.length_flatMap]
    simp only [dim1, List.map_map]
    refine List.sum_le_sum fun req _ => ?_
    unfold groupTokens
    split
    · exact le_rfl
    · exact Nat.zero_le _
  have hloop : multiTokenLoop layout dim1 0 (reqs.map (buildAtbForwardRequest layout)) =
      some (groupEntries layout dim1 0 reqs) := multiTokenLoop_build hdsa hrank 0 howns hfits
  have hcells := groupEntries_cells 0 hroom
  obtain ⟨table, htable, -, hheld, -⟩ := writeAll_of_lt
    (List.replicate (layout.layerNumOnNode * dim1) (0 : Int))
    (fun write hwrite => by rw [List.length_replicate]; exact hcells.lt write hwrite) hcells.nodup
  refine ⟨⟨table, dim1, groupEntries layout dim1 0 reqs,
    lastTokenIndices 0 (reqs.map (buildAtbForwardRequest layout)), [], 0, []⟩, ?_,
    ⟨hcells.nodup, hheld⟩, fun place req hplace => ?_⟩
  · unfold prepareATBKVCache
    rw [if_pos rfl]
    change (multiTokenLoop layout dim1 0 _).bind _ = _
    rw [hloop, Option.bind_some, Option.bind_eq_bind, htable]
    rfl
  · have hentry := hheld _ (mem_groupEntries 0 hplace)
    rwa [Nat.zero_add] at hentry

theorem prepareATBKVCache_single (hdsa : layout.useDsa = false)
    (hrank : layout.attnDpRankId < layout.rankNum) (howns : OwnsBlocks layout reqs)
    (hfits : FitsInt32 layout reqs)
    (hgood : ∀ req ∈ reqs, req.attnDpGroupId = layout.attnDpGroupId ∧
      (layout.layerNumOnNode = 0 ∨ req.forwardingTokens ≠ [])) :
    ∃ single, prepareATBKVCache layout (reqs.map (buildAtbForwardRequest layout)) false =
        some single ∧ WrittenApart single.slotMapping single.slotWrites ∧
      WrittenApart single.blockTable single.blockWrites ∧
      ∀ place req, Place.Of place layout reqs req →
        place.tokenIdx + 1 = req.forwardingTokens.length → singleTokenSlot single place =
          some (exactSlot layout (tokenBlock layout req place.tokenIdx) place.layerIdx
            place.tokenIdx) := by
  obtain ⟨maxNum, hmax, hblocks⟩ :=
    maxNumBlocksLoop_build hrank fun req hmem => (hgood req hmem).1
  have hloop : singleTokenLoop layout reqs.length maxNum 0
      (reqs.map (buildAtbForwardRequest layout)) = some _ :=
    singleTokenLoop_build hdsa hrank reqs.length 0 howns hfits hgood
  have htableCells := tableEntries_cells layout hblocks
  have hlastCells := lastEntries_cells layout reqs
  obtain ⟨blockTable, hblockTable, -, hblockHeld, -⟩ := writeAll_of_lt
    (List.replicate (layout.layerNumOnNode * reqs.length * maxNum) (-1 : Int))
    (fun write hwrite => by rw [List.length_replicate]; exact htableCells.lt write hwrite)
    htableCells.nodup
  obtain ⟨table, htable, -, hheld, -⟩ := writeAll_of_lt
    (List.replicate (layout.layerNumOnNode * reqs.length) (0 : Int))
    (fun write hwrite => by rw [List.length_replicate]; exact hlastCells.lt write hwrite)
    hlastCells.nodup
  refine ⟨⟨table, reqs.length, lastEntries layout reqs.length 0 reqs,
    (List.range reqs.length).map fun (reqIdx : Nat) => (reqIdx : Int), blockTable, maxNum,
    tableEntries layout reqs.length maxNum 0 reqs⟩, ?_, ⟨hlastCells.nodup, hheld⟩,
    ⟨htableCells.nodup, hblockHeld⟩, fun place req hplace hlast => ?_⟩
  · unfold prepareATBKVCache
    rw [if_neg Bool.false_ne_true, hmax, List.length_map]
    simp only [Option.bind_eq_bind, Option.bind_some, hloop, hblockTable, htable]
  · have hreq : (req, place.reqIdx) ∈ reqs.zipIdx :=
      List.mem_zipIdx_iff_getElem?.mpr hplace.request
    have hentry := hheld _ (List.mem_flatMap.mpr ⟨_, hreq,
      List.mem_map_of_mem (List.mem_range.mpr hplace.layer)⟩)
    have hidx : req.forwardingTokens.length - 1 = place.tokenIdx := by omega
    rwa [hidx] at hentry

theorem good_of_single (hrank : layout.attnDpRankId < layout.rankNum) {single : AtbKVCache}
    (h : prepareATBKVCache layout (reqs.map (buildAtbForwardRequest layout)) false = some single) :
    (∀ req ∈ reqs, req.attnDpGroupId = layout.attnDpGroupId) ∧
      (0 < layout.blockTokenNum →
        (∀ req ∈ reqs, req.kvCacheBlocks.length * layout.blockTokenNum < 2 ^ 64) →
        ∀ req ∈ reqs, layout.layerNumOnNode = 0 ∨ req.forwardingTokens ≠ []) := by
  unfold prepareATBKVCache at h
  rw [if_neg Bool.false_ne_true] at h
  obtain ⟨maxNum, hmax, hrest⟩ := Option.bind_eq_some_iff.mp h
  obtain ⟨written, hloop, -⟩ := Option.bind_eq_some_iff.mp hrest
  have hgroup := group_of_maxNumBlocksLoop hmax
  exact ⟨hgroup, fun hbtn hcaches req hmem =>
    tokens_of_singleTokenLoop hrank hcaches hbtn hloop req hmem (hgroup req hmem)⟩

end Mappings

/-- Where the numbers fit, the multi-token mapping keeps all places of any batch apart, and the
single-token mapping agrees with it exactly if every request of the batch is of the rank's group
and has a token. Without the first it never does. -/
theorem atb_slots_iff (layout : AtbLayout) (reqs : List ExecutorInferRequest)
    (hbtn : 0 < layout.blockTokenNum) (hdsa : layout.useDsa = false)
    (hlayers : layout.layerNumOnNode ≤ layout.layerNum)
    (hrank : layout.attnDpRankId < layout.rankNum) (howns : OwnsBlocks layout reqs) :
    (FitsInt32 layout reqs → (∃ multi, MapsAllTokens layout reqs multi) ∧
      ((∃ multi single, MapsAllTokens layout reqs multi ∧ MapsLastTokens layout reqs multi single) ↔
        ∀ req ∈ reqs, req.attnDpGroupId = layout.attnDpGroupId ∧
          (layout.layerNumOnNode = 0 ∨ req.forwardingTokens ≠ []))) ∧
    ((∃ multi single, MapsAllTokens layout reqs multi ∧ MapsLastTokens layout reqs multi single) →
      ∀ req ∈ reqs, req.attnDpGroupId = layout.attnDpGroupId) := by
  have hneeds {multi single : AtbKVCache} (hlast : MapsLastTokens layout reqs multi single) :=
    good_of_single hrank hlast.run
  refine ⟨fun hfits => ?_, fun h => ?_⟩
  · obtain ⟨multi, hrun, hwritten, hslot⟩ := prepareATBKVCache_multi hdsa hrank howns hfits
    have hall : MapsAllTokens layout reqs multi := by
      refine ⟨hrun, hwritten, fun place req hplace => ⟨_, hslot place req hplace⟩, ?_, ?_⟩
      · intro place req other otherReq hplace hother hne heq
        rw [hslot place req hplace, hslot other otherReq hother, Option.some_inj] at heq
        exact hne (place_eq_of_exactSlot howns hbtn hlayers hplace hother heq)
      · intro hmla place req other otherReq key value hplace hother hkey hvalue
        rw [hslot place req hplace] at hkey
        rw [hslot other otherReq hother] at hvalue
        rw [← Option.some.inj hkey, ← Option.some.inj hvalue]
        exact exactSlot_ne_value hmla hbtn (hplace.layer.trans_le hlayers)
          (hother.layer.trans_le hlayers)
    refine ⟨⟨multi, hall⟩, ?_⟩
    constructor
    · intro ⟨_, _, _, hlast⟩ req hmem
      exact ⟨(hneeds hlast).1 req hmem, (hneeds hlast).2 hbtn hfits.caches req hmem⟩
    · intro hgood
      obtain ⟨single, hsingle, hslots, htable, hlast⟩ :=
        prepareATBKVCache_single hdsa hrank howns hfits hgood
      refine ⟨multi, single, hall, hsingle, hslots, htable, fun place req hplace hend => ?_⟩
      rw [hlast place req hplace hend, hslot place req hplace]
  · obtain ⟨_, _, _, hlast⟩ := h
    exact (hneeds hlast).1

/-- Two layers with two tokens in a block. -/
def pairLayout : AtbLayout where
  useDsa := false
  useMla := false
  layerNum := 2
  layerNumOnNode := 2
  blockTokenNum := 2
  blocksBaseId := 10
  rankNum := 1
  attnDpGroupId := 0
  attnDpRankId := 0

/-- Three tokens in two blocks of the rank's group. -/
def groupRequest : ExecutorInferRequest where
  reqId := 1
  forwardingTokens := [11, 12, 13]
  kvCacheBlocks := [14, 12]

/-- A request of the next group, whose blocks are those of another rank. -/
def otherGroupRequest : ExecutorInferRequest where
  reqId := 2
  attnDpGroupId := 1
  forwardingTokens := [21]
  kvCacheBlocks := [14]

theorem groupRequest_owns : OwnsBlocks pairLayout [groupRequest, otherGroupRequest] where
  enough := by decide
  nodup := by decide
  disjoint := by
    rw [List.pairwise_pair]
    intro _ hgroup
    cases hgroup

theorem groupRequest_fits : FitsInt32 pairLayout [groupRequest, otherGroupRequest] where
  lengths := by decide
  caches := by decide
  slots := by decide

/-- A request of the same group, with a block of its own. -/
def sameGroupRequest : ExecutorInferRequest where
  reqId := 3
  forwardingTokens := [31, 32]
  kvCacheBlocks := [16]

theorem sameGroupRequest_owns : OwnsBlocks pairLayout [groupRequest, sameGroupRequest] where
  enough := by decide
  nodup := by decide
  disjoint := by
    rw [List.pairwise_pair]
    intro _ _
    exact List.disjoint_left.mpr (by decide)

theorem sameGroupRequest_fits : FitsInt32 pairLayout [groupRequest, sameGroupRequest] where
  lengths := by decide
  caches := by decide
  slots := by decide

/-- With a request of the next group all tokens have their slots; in a batch of one group the
last tokens have the same ones. -/
theorem atb_slots_iff_sample :
    (∃ multi, MapsAllTokens pairLayout [groupRequest, otherGroupRequest] multi) ∧
    ∃ multi single, MapsAllTokens pairLayout [groupRequest, sameGroupRequest] multi ∧
      MapsLastTokens pairLayout [groupRequest, sameGroupRequest] multi single := by
  constructor
  · have hslots := atb_slots_iff pairLayout [groupRequest, otherGroupRequest] (by decide) rfl
      (by decide) (by decide) groupRequest_owns
    exact (hslots.1 groupRequest_fits).1
  · have hslots := atb_slots_iff pairLayout [groupRequest, sameGroupRequest] (by decide) rfl
      (by decide) (by decide) sameGroupRequest_owns
    exact (hslots.1 sameGroupRequest_fits).2.mpr (by decide)

/-- The single-token mapping takes the list of the request of the next group, which is not
there. -/
theorem other_group_read : OwnsBlocks pairLayout [groupRequest, otherGroupRequest] ∧
    ¬ ∃ multi single, MapsAllTokens pairLayout [groupRequest, otherGroupRequest] multi ∧
      MapsLastTokens pairLayout [groupRequest, otherGroupRequest] multi single := by
  refine ⟨groupRequest_owns, fun ⟨_, _, _, hlast⟩ => ?_⟩
  have hrun : prepareATBKVCache pairLayout
      ([groupRequest, otherGroupRequest].map (buildAtbForwardRequest pairLayout)) false = none :=
    rfl
  cases hrun.symm.trans hlast.run

end KsanaBuildAhead.Executor
