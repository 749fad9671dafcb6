import KsanaBuildAhead.Configure.CalculateBlockNumber
import KsanaBuildAhead.Configure.ParseContracts

/-!
# Which configurations divide by zero

Four settings reach a division as they stand in the file or in the cache layout: the attention
data parallel size before its own check, the expert parallel size and the block size without any
check, and the tokens of a block under split-fuse. The run traps on a zero of theirs wherever the
checks before the division let it through, and nowhere else.
-/
namespace KsanaBuildAhead.Configure

open KsanaBuildAhead.Lib.Traps

variable {platform : Platform} {yaml : YamlReader} {model : ModelConfig}
  {layout : BaseModelCacheLayout} {start parser : ScheduleConfigParser}

section UpdateModelConfig

/-- A single head is repeated on every rank. -/
def HeadsAccepted (model : ModelConfig) (tp : UInt64) : Prop :=
  model.numKeyValueHeads = 1 ∨ tp ≤ model.numKeyValueHeads ∧ model.numKeyValueHeads % tp = 0

def ExpertsAccepted (tp ep : UInt64) : Prop := ep ≤ tp ∧ tp % ep = 0

theorem not_uneven_iff {a b : UInt64} {uneven : Bool} (h : uneven = true ↔ a < b ∨ a % b ≠ 0) :
    ¬uneven = true ↔ b ≤ a ∧ a % b = 0 := by
  rw [h, not_or, UInt64.not_lt, not_not]

theorem headsAccepted_iff {tp : UInt64} {uneven : Bool}
    (h : uneven = true ↔ model.numKeyValueHeads < tp ∨ model.numKeyValueHeads % tp ≠ 0) :
    ¬(uneven = true ∧ model.numKeyValueHeads ≠ 1) ↔ HeadsAccepted model tp := by
  unfold HeadsAccepted
  rw [not_and_or, not_uneven_iff h, not_not, or_comm]

/-- A remainder by zero is the dividend, so it is no reason to accept zero. -/
theorem ExpertsAccepted.ne_zero {tp ep : UInt64} (h : ExpertsAccepted tp ep) (htp : tp ≠ 0) :
    ep ≠ 0 := by
  intro hzero
  have hrest := h.2
  rw [hzero, UInt64.mod_zero] at hrest
  exact htp hrest

theorem contract_checkModelParallel {parallel : ParallelismBasicConfig}
    (htp : parallel.tensorParallelSize ≠ 0) :
    Contract (checkModelParallel model parallel)
      (HeadsAccepted model parallel.tensorParallelSize → parallel.expertParallelSize ≠ 0)
      (HeadsAccepted model parallel.tensorParallelSize ∧
        ExpertsAccepted parallel.tensorParallelSize parallel.expertParallelSize)
      (fun _ => ExpertsAccepted parallel.tensorParallelSize parallel.expertParallelSize) := by
  unfold checkModelParallel
  refine ((contract_unevenly _ _).bind fun _ hheads => ((contract_raiseIf _ _).conseq Iff.rfl
    (fun _ => headsAccepted_iff hheads) (fun _ h => h)).bind fun _ _ =>
    (contract_unevenly _ _).bind fun _ hexperts => (contract_raiseIf _ _).conseq Iff.rfl
      (fun _ => not_uneven_iff hexperts) (fun _ h => (not_uneven_iff hexperts).mp h)).conseq ?_ ?_
    (fun _ h => h)
  · constructor
    · intro hsafe haccepts hzero
      have hle : ¬parallel.tensorParallelSize < parallel.expertParallelSize := by
        rw [hzero]
        exact UInt64.not_lt_zero
      exact (((hsafe.2 trivial).2 haccepts).1 hle) hzero
    · exact fun hsafe => ⟨fun _ => htp, fun _ => ⟨trivial, fun haccepts =>
        ⟨fun _ => hsafe haccepts, fun _ => trivial⟩⟩⟩
  · exact fun _ => ⟨fun h => ⟨h.2.1, h.2.2.2⟩, fun h => ⟨trivial, h.1, trivial, h.2⟩⟩

/-- Flexible caching needs a model without normalized queries and keys. -/
def flexibleCaching (yaml : YamlReader) (model : ModelConfig) : Bool :=
  decide (0 < minFlexibleCacheNum yaml) && !model.useQkNorm

/-- What the start-up gate finds in an updated configuration. -/
structure GateRead (platform : Platform) (yaml : YamlReader) (model : ModelConfig)
    (start parser : ScheduleConfigParser) : Prop where
  switches : parser.batchSchedulerConfig.toBatchSchedulerConfig =
    readSchedulerSwitches yaml model {}
  dataGroups : parser.runtimeConfig.parallelBasicConfig.attnDataParallelSize =
    attnDataParaSize yaml
  experts : parser.runtimeConfig.parallelBasicConfig.expertParallelSize = expertParaSize yaml
  batches : parser.runtimeConfig.maxPpBatchNum = maxPpBatchNum yaml
  flexible : parser.runtimeConfig.enableFlexibleCaching = flexibleCaching yaml model
  separate : parser.runtimeConfig.separatePrefillDecode =
    (connectorRole platform yaml start.connectorConfig.groupRole != .none)

theorem checkFlexibleCache_pos_iff (h : Parsed platform yaml model start parser) :
    0 < (parser.checkFlexibleCache model).cacheManagerConfig.minFlexibleCacheNum ↔
      flexibleCaching yaml model = true := by
  unfold ScheduleConfigParser.checkFlexibleCache flexibleCaching
  simp only [h.flexible, ne_eq, Bool.and_eq_true, decide_eq_true_eq, Bool.not_eq_true']
  by_cases hnorm : model.useQkNorm
  · by_cases hzero : minFlexibleCacheNum yaml = 0
    · simp [hnorm, hzero]
    · simp [hnorm, hzero]
  · simp [hnorm]

theorem contract_updateModelConfig (h : Parsed platform yaml model start parser)
    (hrole : parser.connectorConfig.groupRole =
      connectorRole platform yaml start.connectorConfig.groupRole) :
    Contract (updateModelConfig platform model parser)
      (HeadsAccepted model (tensorParaSize platform yaml) → expertParaSize yaml ≠ 0)
      (HeadsAccepted model (tensorParaSize platform yaml) ∧
        ExpertsAccepted (tensorParaSize platform yaml) (expertParaSize yaml))
      (fun parser => BlocksRead yaml model start parser ∧
        GateRead platform yaml model start parser) := by
  unfold updateModelConfig
  have htp : parser.runtimeConfig.parallelBasicConfig.tensorParallelSize ≠ 0 := by
    rw [h.tensorParallel]
    exact UInt64.pos_iff_ne_zero.mp h.accepted.positive.1
  rw [← h.tensorParallel, ← h.expertParallel]
  refine ((contract_checkModelParallel htp).bind fun _ hexperts =>
    (contract_divideBy platform.roundUp _ _).bind fun _ _ =>
    ((contract_divide _ _).conseq (iff_true_intro (hexperts.ne_zero htp)) (fun _ => Iff.rfl)
      (fun _ h => h)).map_ok fun _ _ => ?_).conseq ?_ ?_ (fun _ h => h)
  · refine ⟨⟨h.blockManager, h.swaRatio⟩, ?_⟩
    exact {
      switches := h.switches
      dataGroups := h.attnDataParallel
      experts := h.expertParallel
      batches := h.batches
      flexible := Bool.eq_iff_iff.mpr (decide_eq_true_iff.trans (checkFlexibleCache_pos_iff h))
      separate := congrArg (· != GroupRole.none) hrole }
  · exact ⟨And.left, fun hsafe => ⟨hsafe, fun _ => ⟨htp, fun _ => trivial⟩⟩⟩
  · exact fun _ => ⟨And.left, fun haccepts => ⟨haccepts, trivial, trivial⟩⟩

end UpdateModelConfig

section CalculateBlockNumber

/-- The bytes a block's share of the sliding-window blocks takes. -/
def swaShare (swaBlockNumRatio : Float32) (swaBlockSize : UInt64) : UInt64 :=
  if 0.0 < swaBlockNumRatio ∧ 0 < swaBlockSize then
    (swaBlockNumRatio * swaBlockSize.toFloat32).toUInt64
  else 0

/-- A block with bytes of its own costs nothing only where its cost wraps around. -/
theorem effectiveBlockSize_ne_zero_iff {blockSize swaBlockSize : UInt64} {ratio : Float32}
    (h : blockSize ≠ 0) :
    effectiveBlockSize blockSize swaBlockSize ratio ≠ 0 ↔
      blockSize.toNat + (swaShare ratio swaBlockSize).toNat ≠ 2 ^ 64 := by
  have hsum : effectiveBlockSize blockSize swaBlockSize ratio =
      blockSize + swaShare ratio swaBlockSize := by
    unfold effectiveBlockSize swaShare
    split
    next => rfl
    next => exact (UInt64.add_zero blockSize).symm
  rw [hsum, ne_eq, ← UInt64.toNat_inj, UInt64.toNat_add]
  have hpositive : blockSize.toNat ≠ 0 := fun hzero => h (UInt64.toNat_inj.mp hzero)
  have hblock := blockSize.toNat_lt
  have hshare := (swaShare ratio swaBlockSize).toNat_lt
  rw [UInt64.toNat_zero]
  omega

theorem contract_alignBy (divRound : UInt64 → UInt64 → UInt64) (bytes : UInt64) :
    Contract (alignBy divRound bytes) True True (fun _ => True) := by
  have haligned : alignmentBytes ≠ 0 := by decide
  unfold alignBy
  exact ((contract_divideBy _ _ _).map_ok fun _ _ => trivial).conseq (iff_true_intro haligned)
    (fun _ => Iff.rfl) (fun _ h => h)

theorem contract_deviceBlockMemorySize (config : BlockManagerConfig)
    (deviceFree deviceTotal : UInt64) :
    Contract (deviceBlockMemorySize platform config deviceFree deviceTotal) True True
      (fun _ => True) := by
  unfold deviceBlockMemorySize
  refine (contract_ite _ (fun _ => contract_alignBy _ _) (fun _ =>
    (contract_alignBy _ _).bind_safe fun _ _ => contract_alignBy _ _)).conseq ?_ ?_ (fun _ h => h)
  · exact iff_true_intro ⟨fun _ => trivial, fun _ => trivial⟩
  · exact fun _ => iff_true_intro ⟨fun _ => trivial, fun _ => ⟨trivial, trivial⟩⟩

theorem contract_hostBlockMemorySize (config : BlockManagerConfig)
    (deviceMemory hostFree : UInt64) :
    Contract (hostBlockMemorySize platform config deviceMemory hostFree) True True
      (fun _ => True) := contract_alignBy _ _

/-- The memory of the host is known and the memory ratios are in range. -/
structure MemoryAccepted (platform : Platform) (yaml : YamlReader) : Prop where
  measured : ∃ hostFree, platform.hostFree = .ok hostFree
  reserved : 0.0 < reservedDeviceMemoryRatio yaml
  hostFactor : 0.0 ≤ blockHostMemoryFactor yaml

/-- The bytes of a block, and the bytes the sliding window adds to it. -/
structure BlockBytes (layout : BaseModelCacheLayout) (swaBlockNumRatio : Float32)
    (registered : UInt64) : Prop where
  block : layout.kvCacheSize ≠ 0
  noWrap : layout.kvCacheSize.toNat +
    (swaShare swaBlockNumRatio (layout.swaCacheSize.getD registered)).toNat ≠ 2 ^ 64

theorem trapsUnless_calculateBlockNumber (h : BlocksRead yaml model start parser)
    (deviceFree deviceTotal : UInt64) :
    TrapsUnless (calculateBlockNumber platform deviceFree deviceTotal
        (initializeBlockManagerConfig model layout parser))
      (MemoryAccepted platform yaml → BlockBytes layout (swaBlockNumRatio yaml)
        start.blockManagerConfig.swaDeviceAllocatorConfig.blockSize) := by
  have hmanager : (initializeBlockManagerConfig model layout parser).blockManagerConfig =
      initializeBlockSizes layout (readBlockManager yaml model start.blockManagerConfig) :=
    congrArg (initializeBlockSizes layout) h.blockManager
  have hratio : (initializeBlockManagerConfig model layout
      parser).batchSchedulerConfig.swaBlockNumRatio = swaBlockNumRatio yaml := h.swaRatio
  unfold calculateBlockNumber
  rw [hmanager]
  split
  next message hinfo =>
    refine (trapsUnless_ok _).conseq (iff_of_true trivial fun haccepts => ?_)
    obtain ⟨hostFree, hhost⟩ := haccepts.measured
    cases hinfo.symm.trans hhost
  next hostFree hinfo =>
    refine ((contract_check _ _).bind_trapsUnless fun _ _ => (contract_check _ _).bind_trapsUnless
      fun _ _ => (contract_deviceBlockMemorySize _ _ _).bind_trapsUnless fun _ _ =>
      (contract_hostBlockMemorySize _ _ _).bind_trapsUnless fun _ _ =>
      (contract_divide _ _).bind_trapsUnless fun _ _ =>
      (contract_divide _ _).bind_trapsUnless fun _ _ =>
      ((contract_raiseIf _ _).bind_trapsUnless fun _ _ => trapsUnless_ok _).conseq
        (iff_true_intro ⟨trivial, fun _ => trivial⟩)).conseq ?_
    rw [hratio]
    constructor
    · intro hsafe haccepts
      have hmemory := ((hsafe.2 haccepts.reserved).2 haccepts.hostFactor).2 trivial
      have hdivides := hmemory.2 trivial
      have hblock : layout.kvCacheSize ≠ 0 := (hdivides.2 trivial).1
      exact ⟨hblock, (effectiveBlockSize_ne_zero_iff hblock).mp hdivides.1⟩
    · intro hbytes
      refine ⟨trivial, fun hreserved => ⟨trivial, fun hfactor => ⟨trivial, fun _ =>
        ⟨trivial, fun _ => ?_⟩⟩⟩⟩
      have hbytes := hbytes ⟨⟨hostFree, hinfo⟩, hreserved, hfactor⟩
      exact ⟨(effectiveBlockSize_ne_zero_iff hbytes.block).mpr hbytes.noWrap,
        fun _ => ⟨hbytes.block, fun _ => trivial⟩⟩

end CalculateBlockNumber

section Configure

/-- Every divisor on the way is other than zero where the checks before its division pass. -/
structure DividesSafely (platform : Platform) (model : ModelConfig) (yaml : YamlReader)
    (layout : BaseModelCacheLayout) (start : ScheduleConfigParser) : Prop
    extends ParseSafe platform yaml model where
  expertGroups : ParseAccepted platform yaml model →
    HeadsAccepted model (tensorParaSize platform yaml) → expertParaSize yaml ≠ 0
  blockBytes : ParseAccepted platform yaml model →
    HeadsAccepted model (tensorParaSize platform yaml) →
      ExpertsAccepted (tensorParaSize platform yaml) (expertParaSize yaml) →
        MemoryAccepted platform yaml → BlockBytes layout (swaBlockNumRatio yaml)
          start.blockManagerConfig.swaDeviceAllocatorConfig.blockSize

/-- No zero in the file and bytes in every block are enough, whatever the checks say. -/
theorem DividesSafely.of_settings (hgroups : attnDataParaSize yaml ≠ 0)
    (hexperts : expertParaSize yaml ≠ 0)
    (htokens : model.useMla ∨ yaml.getSize "setting.block_manager.block_token_num" 16 ≠ 0)
    (hbytes : BlockBytes layout (swaBlockNumRatio yaml)
      start.blockManagerConfig.swaDeviceAllocatorConfig.blockSize) :
    DividesSafely platform model yaml layout start where
  dataGroups := hgroups
  splitFuse := fun _ _ _ _ => htokens
  expertGroups := fun _ _ => hexperts
  blockBytes := fun _ _ _ _ => hbytes

theorem configure_ne_trapped_iff (platform : Platform) (model : ModelConfig) (yaml : YamlReader)
    (layout : BaseModelCacheLayout) (deviceFree deviceTotal : UInt64)
    (start : ScheduleConfigParser) :
    configure platform model yaml layout deviceFree deviceTotal start ≠ .error .trapped ↔
      DividesSafely platform model yaml layout start := by
  unfold configure
  refine (contract_parseScheduleConfig.bind_trapsUnless fun _ h =>
    (contract_updateModelConfig h.1 h.2).bind_trapsUnless fun _ h =>
    trapsUnless_calculateBlockNumber h.1 deviceFree deviceTotal).conseq ?_
  constructor
  · intro hsafe
    exact {
      dataGroups := hsafe.1.dataGroups
      splitFuse := hsafe.1.splitFuse
      expertGroups := fun hparse => (hsafe.2 hparse).1
      blockBytes := fun hparse hheads hexperts => (hsafe.2 hparse).2 ⟨hheads, hexperts⟩ }
  · intro hsafe
    exact ⟨hsafe.toParseSafe, fun hparse => ⟨hsafe.expertGroups hparse,
      fun hmodel => hsafe.blockBytes hparse hmodel.1 hmodel.2⟩⟩

def oneDevice : Platform where
  deviceCount := 1
  hostFree := .ok 1073741824
  divRoundUp a b := (a + b - 1) / b
  divRoundDown a b := a / b
  roundUp a b := (a + b - 1) / b * b

def oneHead : ModelConfig where
  numLayer := 1
  numKeyValueHeads := 1
  maxTrainingSeqLen := 1024

/-- The file sets `attn_data_para_size: 0` and nothing else. -/
def noDataGroups : YamlReader where
  sizes := fun path => if path = "setting.global.attn_data_para_size" then some 0 else none

theorem configure_noDataGroups :
    0 < oneDevice.deviceCount ∧
      configure oneDevice oneHead noDataGroups { kvCacheSize := 1024 } 1073741824 1073741824 {} =
        .error .trapped := by
  constructor
  · decide
  · rfl

end Configure

end KsanaBuildAhead.Configure
