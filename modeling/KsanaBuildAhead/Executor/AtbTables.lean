import KsanaBuildAhead.Executor.BatchLayout
import KsanaBuildAhead.Executor.ReplaceLastToken
import KsanaBuildAhead.Lib.RowMajor
import KsanaBuildAhead.Lib.VectorAccess
import Mathlib.Data.Int.ModEq
import Mathlib.Data.List.ProdSigma

/-!
# The tables of the flat cache

All device blocks lie in one plane. The builder scales the number of a block by the blocks of the
plane it covers, and the input adds the layer and the offset of the token. With several tokens in
flight every token of the rank's requests has a slot; with a single one only the last token has,
beside the table of the blocks.
-/
namespace KsanaBuildAhead.Executor

open KsanaBuildAhead.Runtime KsanaBuildAhead.Lib.RowMajor KsanaBuildAhead.Lib.VectorAccess

/-- A value stored in a `size_t`. -/
def castSize (value : Int) : Int := value % 2 ^ 64

/-- What a rank knows about its cache. -/
structure AtbLayout where
  useDsa : Bool
  useMla : Bool
  layerNum : Nat
  layerNumOnNode : Nat
  blockTokenNum : Nat
  blocksBaseId : Nat
  rankNum : Nat
  attnDpGroupId : Nat
  attnDpRankId : Nat
deriving Repr, DecidableEq

structure AtbForwardRequest extends ForwardRequest where
  atbKvCacheBaseBlkIds : List (List Int)
deriving Repr, DecidableEq

def flatBlockId (layout : AtbLayout) (blockId : Int) : Int :=
  let originalBlockId := castSize (blockId - layout.blocksBaseId)
  castInt32 <|
    if layout.useDsa then originalBlockId
    else if layout.useMla then castSize (originalBlockId * layout.layerNum)
    else castSize (originalBlockId * layout.layerNum * 2)

def buildFlatKVCacheBlkIds (layout : AtbLayout) (deviceBlockIds : List Int) : List (List Int) :=
  List.replicate layout.rankNum (deviceBlockIds.map (flatBlockId layout))

/-- The blocks of a request of another group are skipped. -/
def buildAtbForwardRequest (layout : AtbLayout) (req : ExecutorInferRequest) :
    AtbForwardRequest where
  toForwardRequest := buildForwardRequestFromInferRequest req
  atbKvCacheBaseBlkIds :=
    if layout.attnDpGroupId = req.attnDpGroupId then
      buildFlatKVCacheBlkIds layout req.kvCacheBlocks
    else []

/-- `(block_id + layer_idx) * block_token_num + inner`, computed in a `size_t`. -/
def slotNumber (layout : AtbLayout) (blockId : Int) (layerIdx : Nat) (inner : Int) : Int :=
  castInt32 (castSize ((blockId + layerIdx) * layout.blockTokenNum + inner))

def blockTableEntry (blockId : Int) (layerIdx : Nat) : Int :=
  castInt32 (castSize (blockId + layerIdx))

/-- `atb_kv_cache_base_blk_ids[attn_dp_rank_id_]`. -/
def rankBlockIds (layout : AtbLayout) (req : AtbForwardRequest) : Option (List Int) :=
  req.atbKvCacheBaseBlkIds[layout.attnDpRankId]?

/-- `seq_len_host[f_req_idx] - 1`, where the operation with a `size_t` takes it as one. -/
def lastTokenPos (req : AtbForwardRequest) : Nat :=
  (castSize (castInt32 req.forwardingTokens.length - 1)).toNat

/-- The assignments to the slot mapping for one request with all its tokens. -/
def multiTokenWrites (layout : AtbLayout) (slotMappingDim1 offset : Nat)
    (req : AtbForwardRequest) : Option (List (Nat × Int)) :=
  (List.range layout.layerNumOnNode ×ˢ List.range req.forwardingTokens.length).mapM
    fun (index : Nat × Nat) => do
      let blockIds ← rankBlockIds layout req
      let blockId ← blockIds[index.2 / layout.blockTokenNum]?
      let innerBlockOffset := castInt32 ((index.2 % layout.blockTokenNum : Nat) : Int)
      some (index.1 * slotMappingDim1 + offset + index.2,
        slotNumber layout blockId index.1 innerBlockOffset)

/-- The requests of the rank's group stand one behind the other in the slot mapping. -/
def multiTokenLoop (layout : AtbLayout) (slotMappingDim1 : Nat) :
    Nat → List AtbForwardRequest → Option (List (Nat × Int))
  | _, [] => some []
  | offset, req :: reqs =>
    if req.attnDpGroupId = layout.attnDpGroupId then do
      let writes ← multiTokenWrites layout slotMappingDim1 offset req
      let rest ← multiTokenLoop layout slotMappingDim1 (offset + req.forwardingTokens.length) reqs
      some (writes ++ rest)
    else multiTokenLoop layout slotMappingDim1 offset reqs

def maxNumBlocksLoop (layout : AtbLayout) (reqs : List AtbForwardRequest) : Option Nat :=
  reqs.foldlM (fun maxNum req => (rankBlockIds layout req).map fun blockIds =>
    max maxNum blockIds.length) 0

/-- The assignments to the table of the blocks for one request. -/
def blockTableWrites (layout : AtbLayout) (batchSize maxNumBlocks reqIdx : Nat)
    (blockIds : List Int) : List (Nat × Int) :=
  (List.range layout.layerNumOnNode ×ˢ blockIds.zipIdx).map fun (index : Nat × Int × Nat) =>
    (index.1 * batchSize * maxNumBlocks + reqIdx * maxNumBlocks + index.2.2,
      blockTableEntry index.2.1 index.1)

/-- The assignments to the slot mapping for the last token of one request. -/
def lastTokenWrites (layout : AtbLayout) (slotMappingDim1 reqIdx : Nat) (req : AtbForwardRequest)
    (blockIds : List Int) : Option (List (Nat × Int)) :=
  (List.range layout.layerNumOnNode).mapM fun layerIdx => do
    let blockId ← blockIds[lastTokenPos req / layout.blockTokenNum]?
    some (layerIdx * slotMappingDim1 + reqIdx,
      slotNumber layout blockId layerIdx ((lastTokenPos req % layout.blockTokenNum : Nat) : Int))

/-- The assignments to the table of the blocks, and those to the slot mapping. -/
def singleTokenLoop (layout : AtbLayout) (batchSize maxNumBlocks : Nat) :
    Nat → List AtbForwardRequest → Option (List (Nat × Int) × List (Nat × Int))
  | _, [] => some ([], [])
  | reqIdx, req :: reqs =>
    if req.attnDpGroupId = layout.attnDpGroupId then do
      let blockIds ← rankBlockIds layout req
      let writes ← lastTokenWrites layout batchSize reqIdx req blockIds
      let rest ← singleTokenLoop layout batchSize maxNumBlocks (reqIdx + 1) reqs
      some (blockTableWrites layout batchSize maxNumBlocks reqIdx blockIds ++ rest.1,
        writes ++ rest.2)
    else singleTokenLoop layout batchSize maxNumBlocks (reqIdx + 1) reqs

/-- `last_token_index_host`: where the last token of a request stands among those of the batch. -/
def lastTokenIndices : Nat → List AtbForwardRequest → List Int
  | _, [] => []
  | allSeqLen, req :: reqs =>
    Int.bmod (allSeqLen + req.forwardingTokens.length - 1) (2 ^ 64) ::
      lastTokenIndices (allSeqLen + req.forwardingTokens.length) reqs

/-- The two tables on the host, their dimensions, and the assignments that filled them. -/
structure AtbKVCache where
  slotMapping : List Int
  slotMappingDim1 : Nat
  slotWrites : List (Nat × Int)
  lastTokenIndex : List Int
  blockTable : List Int := []
  maxNumBlocksPerQuery : Nat := 0
  blockWrites : List (Nat × Int) := []
deriving Repr, DecidableEq

def prepareATBKVCache (layout : AtbLayout) (reqs : List AtbForwardRequest)
    (isMultiTokenForward : Bool) : Option AtbKVCache :=
  if isMultiTokenForward then do
    let slotMappingDim1 := (reqs.map fun req => req.forwardingTokens.length).sum
    let slotWrites ← multiTokenLoop layout slotMappingDim1 0 reqs
    let slotMapping ←
      writeAll (List.replicate (layout.layerNumOnNode * slotMappingDim1) 0) slotWrites
    some { slotMapping, slotMappingDim1, slotWrites, lastTokenIndex := lastTokenIndices 0 reqs }
  else do
    let maxNumBlocksPerQuery ← maxNumBlocksLoop layout reqs
    let (blockWrites, slotWrites) ←
      singleTokenLoop layout reqs.length maxNumBlocksPerQuery 0 reqs
    let blockTable ← writeAll
      (List.replicate (layout.layerNumOnNode * reqs.length * maxNumBlocksPerQuery) (-1)) blockWrites
    let slotMapping ← writeAll (List.replicate (layout.layerNumOnNode * reqs.length) 0) slotWrites
    some
      { slotMapping, slotMappingDim1 := reqs.length, slotWrites
        lastTokenIndex := (List.range reqs.length).map fun (reqIdx : Nat) => (reqIdx : Int)
        blockTable, maxNumBlocksPerQuery, blockWrites }

/-- One token of one request in one layer. -/
structure Place where
  reqIdx : Nat
  layerIdx : Nat
  tokenIdx : Nat
deriving Repr, DecidableEq

/-- The blocks of the plane one device block covers. -/
def layersPerBlock (layout : AtbLayout) : Nat :=
  if layout.useMla then layout.layerNum else 2 * layout.layerNum

/-- The slot of a token in a layer, without a bound on its size. -/
def exactSlot (layout : AtbLayout) (blockId : Int) (layerIdx tokenIdx : Nat) : Int :=
  ((blockId - layout.blocksBaseId) * layersPerBlock layout + layerIdx) * layout.blockTokenNum +
    (tokenIdx % layout.blockTokenNum : Nat)

/-- The block the cache of a token is in. -/
def tokenBlock (layout : AtbLayout) (req : ExecutorInferRequest) (tokenIdx : Nat) : Int :=
  (req.kvCacheBlocks[tokenIdx / layout.blockTokenNum]?).getD 0

theorem castSize_modEq (value : Int) : castSize value ≡ value [ZMOD 2 ^ 32] :=
  Int.emod_emod_of_dvd value (by decide)

theorem castInt32_modEq (value : Int) : castInt32 value ≡ value [ZMOD 2 ^ 32] := Int.bmod_emod

/-- A cast finds any number of the type again that differs from its argument by a multiple of
the width. -/
theorem castInt32_of_modEq {value exact : Int} (h : value ≡ exact [ZMOD 2 ^ 32])
    (hlow : -2 ^ 31 ≤ exact) (hhigh : exact < 2 ^ 31) : castInt32 value = exact := by
  unfold Int.ModEq at h
  unfold castInt32
  rw [Int.bmod_def]
  omega

theorem flatBlockId_modEq {layout : AtbLayout} (hdsa : layout.useDsa = false) (blockId : Int) :
    flatBlockId layout blockId ≡
      (blockId - layout.blocksBaseId) * layersPerBlock layout [ZMOD 2 ^ 32] := by
  unfold flatBlockId layersPerBlock
  rw [hdsa]
  refine (castInt32_modEq _).trans ?_
  have horiginal := castSize_modEq (blockId - layout.blocksBaseId)
  by_cases hmla : layout.useMla
  · simp only [hmla, if_true, Bool.false_eq_true, if_false]
    exact (castSize_modEq _).trans (horiginal.mul_right _)
  · simp only [hmla, Bool.false_eq_true, if_false]
    have hscaled : (blockId - layout.blocksBaseId) * (2 * layout.layerNum : Nat) =
        (blockId - layout.blocksBaseId) * layout.layerNum * 2 := by
      push_cast
      ring
    rw [hscaled]
    exact (castSize_modEq _).trans ((horiginal.mul_right _).mul_right _)

/-- The three casts on the way do no harm as long as the slot itself fits. -/
theorem slotNumber_flatBlockId {layout : AtbLayout} (hdsa : layout.useDsa = false)
    {blockId inner : Int} {layerIdx tokenIdx : Nat}
    (hinner : inner ≡ (tokenIdx % layout.blockTokenNum : Nat) [ZMOD 2 ^ 32])
    (hlow : -2 ^ 31 ≤ exactSlot layout blockId layerIdx tokenIdx)
    (hhigh : exactSlot layout blockId layerIdx tokenIdx < 2 ^ 31) :
    slotNumber layout (flatBlockId layout blockId) layerIdx inner =
      exactSlot layout blockId layerIdx tokenIdx := by
  have hblock := (flatBlockId_modEq hdsa blockId).add_right (layerIdx : Int)
  exact castInt32_of_modEq
    ((castSize_modEq _).trans ((hblock.mul_right _).add hinner)) hlow hhigh

section Slots

variable {layout : AtbLayout} {blockId otherId : Int}
  {layerIdx otherLayer tokenIdx otherToken : Nat}

theorem exactSlot_injective (hbtn : 0 < layout.blockTokenNum) (hlayer : layerIdx < layout.layerNum)
    (hother : otherLayer < layout.layerNum)
    (h : exactSlot layout blockId layerIdx tokenIdx =
      exactSlot layout otherId otherLayer otherToken) :
    blockId = otherId ∧ layerIdx = otherLayer ∧
      tokenIdx % layout.blockTokenNum = otherToken % layout.blockTokenNum := by
  have hmod (token : Nat) : ((token % layout.blockTokenNum : Nat) : Int) < layout.blockTokenNum :=
    Int.ofNat_lt.mpr (Nat.mod_lt token hbtn)
  have hwide : layout.layerNum ≤ layersPerBlock layout := by
    unfold layersPerBlock
    split <;> omega
  obtain ⟨hrow, hinner⟩ := eq_of_mul_add_eq (hmod tokenIdx) (hmod otherToken) h
  obtain ⟨hblock, hlayers⟩ := eq_of_mul_add_eq (by omega) (by omega) hrow
  exact ⟨by omega, hlayers, hinner⟩

theorem exactSlot_ne_value (hmla : layout.useMla = false) (hbtn : 0 < layout.blockTokenNum)
    (hlayer : layerIdx < layout.layerNum) (hother : otherLayer < layout.layerNum) :
    exactSlot layout blockId layerIdx tokenIdx ≠
      exactSlot layout otherId otherLayer otherToken + layout.layerNum * layout.blockTokenNum := by
  intro h
  have hmod (token : Nat) : ((token % layout.blockTokenNum : Nat) : Int) < layout.blockTokenNum :=
    Int.ofNat_lt.mpr (Nat.mod_lt token hbtn)
  have hfactor : layersPerBlock layout = 2 * layout.layerNum := by
    unfold layersPerBlock
    rw [hmla]
    rfl
  have hvalue : exactSlot layout otherId otherLayer otherToken +
      layout.layerNum * layout.blockTokenNum =
      ((otherId - layout.blocksBaseId) * layersPerBlock layout +
        (otherLayer + layout.layerNum : Nat)) * layout.blockTokenNum +
          (otherToken % layout.blockTokenNum : Nat) := by
    unfold exactSlot
    push_cast
    ring
  rw [hvalue] at h
  obtain ⟨hrow, -⟩ := eq_of_mul_add_eq (hmod tokenIdx) (hmod otherToken) h
  obtain ⟨-, hlayers⟩ := eq_of_mul_add_eq (by omega) (by omega) hrow
  omega

end Slots

end KsanaBuildAhead.Executor
