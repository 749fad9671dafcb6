import KsanaBuildAhead.Configure.ParseScheduleConfig

/-!
# From the parsed configuration to the block numbers

The model decides the token budget, the cache layout the block sizes, and the free memory how
many blocks of that size there are.
-/
namespace KsanaBuildAhead.Configure

open KsanaBuildAhead.Lib.Traps

variable (platform : Platform) (model : ModelConfig)

section TokenBudget

/-- The training length bounds a setting, and stands in for a setting of zero. -/
def maxSeqLen (maxTokenLen maxTrainingSeqLen : UInt64) : UInt64 :=
  if 0 < maxTokenLen then
    if maxTrainingSeqLen < maxTokenLen then maxTrainingSeqLen else maxTokenLen
  else maxTrainingSeqLen

/-- A step takes a whole sequence where a prompt cannot be split. -/
def BatchSchedulerConfig.stepBudget (config : BatchSchedulerConfig) (maxSeqLen : UInt64)
    (blockedForwarding : Bool) : UInt64 :=
  if (config.splitFuseTokenNum = 0 ∨ blockedForwarding = false) ∧
    config.maxStepTokenNum < maxSeqLen then maxSeqLen else config.maxStepTokenNum

/-- A chunk holds the tokens of any single request. -/
def BatchSchedulerConfig.chunkBudget (config : BatchSchedulerConfig)
    (maxSeqLen stepBudget : UInt64) : UInt64 :=
  let chunk := if config.maxChunkedKvTokens = 0 then stepBudget else config.maxChunkedKvTokens
  if chunk < maxSeqLen then maxSeqLen else chunk

def ScheduleConfigParser.setTokenBudget (parser : ScheduleConfigParser)
    (maxSeqLen maxChunkedKvTokens maxStepTokenNum : UInt64) : ScheduleConfigParser :=
  { parser with
    batchSchedulerConfig := { parser.batchSchedulerConfig with
      maxTokenLen := maxSeqLen
      maxChunkedKvTokens := maxChunkedKvTokens
      maxStepTokenNum := maxStepTokenNum }
    runtimeConfig := { parser.runtimeConfig with maxSeqLen := maxSeqLen } }

end TokenBudget

section UpdateModelConfig

def ScheduleConfigParser.checkFlexibleCache (parser : ScheduleConfigParser) :
    ScheduleConfigParser :=
  let minNum := parser.cacheManagerConfig.minFlexibleCacheNum
  { parser with cacheManagerConfig := { parser.cacheManagerConfig with
      minFlexibleCacheNum := if minNum ≠ 0 ∧ model.useQkNorm then 0 else minNum } }

/-- The heads and the experts are spread evenly over the ranks, or a single head is repeated. -/
def checkModelParallel (parallel : ParallelismBasicConfig) : Run String Unit := do
  let tp := parallel.tensorParallelSize
  let unevenHeads ← unevenly model.numKeyValueHeads tp
  raiseIf (unevenHeads ∧ model.numKeyValueHeads ≠ 1)
    ("The size of key_value_heads cannot be evenly divided by the size of " ++
      "runtime_config_.parallel_basic_config.tensor_parallel_size. " ++
      s!"{model.numKeyValueHeads} % {tp} != 0 ")
  let unevenExperts ← unevenly tp parallel.expertParallelSize
  raiseIf unevenExperts
    ("The size of runtime_config_.parallel_basic_config.tensor_parallel_size cannot be evenly " ++
      "divided by the size of runtime_config_.parallel_basic_config.expert_parallel_size. " ++
      s!"{tp} % {parallel.expertParallelSize} != 0 ")

/-- The runtime takes over what the scheduler and the connector have settled. -/
def ScheduleConfigParser.copyToRuntime (parser : ScheduleConfigParser)
    (moeTensorParaSize : UInt64) : ScheduleConfigParser :=
  let scheduler := parser.batchSchedulerConfig
  let role := parser.connectorConfig.groupRole
  let twin := parser.pdV2RuntimeConfig
  { parser with
    runtimeConfig := { parser.runtimeConfig with
      parallelBasicConfig := { parser.runtimeConfig.parallelBasicConfig with
        moeTensorParaSize := moeTensorParaSize }
      maxPpBatchNum := scheduler.maxPpBatchNum
      maxStepTokenNum := scheduler.maxStepTokenNum
      maxChunkedKvTokens := scheduler.maxChunkedKvTokens
      mtpStepNum := scheduler.mtpStepNum
      enableAsync := scheduler.enableAsync
      enableExecutorBuildAhead := scheduler.enableExecutorBuildAhead
      enableSpeculativeDecoding := scheduler.enableSpeculativeDecoding
      separatePrefillDecode := role != .none
      -- Behind `backend: v2` a decode node still runs short prefills itself.
      isDecodeOnly := role == .decode && !(twin.isPdV2 && twin.groupRole == .decode)
      enablePrefixCaching :=
        parser.cacheManagerConfig.enablePrefixCaching || decide (0 < scheduler.splitFuseTokenNum)
      enableFlexibleCaching := decide (0 < parser.cacheManagerConfig.minFlexibleCacheNum) }
    cacheManagerConfig := { parser.cacheManagerConfig with
      slidingWindowSize :=
        if model.useDsv4Attn then model.slidingWindow
        else parser.cacheManagerConfig.slidingWindowSize } }

def updateModelConfig (parser : ScheduleConfigParser) : Run String ScheduleConfigParser := do
  let parser := parser.checkFlexibleCache model
  let parallel := parser.runtimeConfig.parallelBasicConfig
  checkModelParallel model parallel
  let scheduler := parser.batchSchedulerConfig
  let seqLen := maxSeqLen scheduler.maxTokenLen model.maxTrainingSeqLen
  let step := scheduler.stepBudget seqLen
    parser.runtimeConfig.attnBackendConfig.enableBlockedMultiTokenForwardingKv
  let chunk := scheduler.chunkBudget seqLen step
  let alignedStep ← divideBy platform.roundUp step parallel.tensorParallelSize
  let parser := parser.setTokenBudget seqLen chunk alignedStep
  let moeTp ← divide parallel.tensorParallelSize parallel.expertParallelSize
  .ok (parser.copyToRuntime model moeTp)

end UpdateModelConfig

section BlockManager

variable (layout : BaseModelCacheLayout)

def initializePipeline (mtpStepNum : Nat) (config : PipelineConfig) : PipelineConfig :=
  if config.lowerLayerIdx < 0 ∨ config.upperLayerIdx < 0 then
    let layers := { config with
      lowerLayerIdx := 0
      upperLayerIdx := (model.numLayer - 1).toUInt16.toInt16 }
    if model.numNextnPredictLayers ≠ 0 ∧ 0 < mtpStepNum then
      { layers with
        lowerNextnLayerIdx := model.numLayer.toUInt16.toInt16
        upperNextnLayerIdx := (model.numLayer + model.numNextnPredictLayers - 1).toUInt16.toInt16 }
    else layers
  else config

def initializeBlockSizes (config : BlockManagerConfig) : BlockManagerConfig :=
  { config with
    swaDeviceAllocatorConfig := { config.swaDeviceAllocatorConfig with
      blockSize := layout.swaCacheSize.getD config.swaDeviceAllocatorConfig.blockSize }
    -- These numbers stand until the memory has been measured.
    hostAllocatorConfig :=
      { config.hostAllocatorConfig with blockSize := layout.kvCacheSize, blocksNum := 512 * 10 }
    deviceAllocatorConfig :=
      { config.deviceAllocatorConfig with blockSize := layout.kvCacheSize, blocksNum := 512 } }

def initializeBlockManagerConfig (parser : ScheduleConfigParser) : ScheduleConfigParser :=
  { parser with
    pipelineConfig := initializePipeline model parser.batchSchedulerConfig.mtpStepNum
      parser.pipelineConfig
    runtimeConfig := { parser.runtimeConfig with
      attnBackendConfig := { parser.runtimeConfig.attnBackendConfig with
        blockSize := layout.kvCacheSize } }
    blockManagerConfig := initializeBlockSizes layout parser.blockManagerConfig }

end BlockManager

section BlockNumber

def alignmentBytes : UInt64 := 8

/-- A number of bytes rounded to whole units by a helper of the utility library. -/
def alignBy (divRound : UInt64 → UInt64 → UInt64) (bytes : UInt64) : Run String UInt64 := do
  let units ← divideBy divRound bytes alignmentBytes
  .ok (units * alignmentBytes)

def alignDown (bytes : UInt64) : Run String UInt64 := alignBy platform.divRoundDown bytes

def alignUp (bytes : UInt64) : Run String UInt64 := alignBy platform.divRoundUp bytes

/-- A ratio below zero leaves everything but the reserve to the blocks. -/
def deviceBlockMemorySize (config : BlockManagerConfig) (deviceFree deviceTotal : UInt64) :
    Run String UInt64 :=
  if 0.0 ≤ config.blockDeviceMemoryRatio then
    alignDown platform
      (min (deviceTotal.toFloat32 * config.blockDeviceMemoryRatio).toUInt64 deviceFree)
  else do
    let reserved ← alignUp platform
      (deviceTotal.toFloat32 * config.reservedDeviceMemoryRatio).toUInt64
    alignDown platform (if reserved < deviceFree then deviceFree - reserved else 0)

def blockHostMemoryRatio : Float32 := 0.8

def hostBlockMemorySize (config : BlockManagerConfig) (deviceMemory hostFree : UInt64) :
    Run String UInt64 :=
  let wanted := deviceMemory.toFloat32 * config.blockHostMemoryFactor
  let usable := hostFree.toFloat32 * blockHostMemoryRatio
  alignDown platform (if usable < wanted then usable else wanted).toUInt64

/-- A block is paired with its share of the blocks for the sliding window. -/
def effectiveBlockSize (blockSize swaBlockSize : UInt64) (swaBlockNumRatio : Float32) : UInt64 :=
  if 0.0 < swaBlockNumRatio ∧ 0 < swaBlockSize then
    blockSize + (swaBlockNumRatio * swaBlockSize.toFloat32).toUInt64
  else blockSize

/-- The number a text starts with, in base ten; the sign of `strtoull` wraps. -/
def stoull? (text : String) : Option UInt64 :=
  let isSpace := fun c : Char => c = ' ' ∨ (9 ≤ c.toNat ∧ c.toNat ≤ 13)
  let body := text.toList.dropWhile (fun c => decide (isSpace c))
  let negative := body.head? = some '-'
  let body := if negative ∨ body.head? = some '+' then body.tail else body
  let digits := body.takeWhile Char.isDigit
  let value := digits.foldl (fun sum c => 10 * sum + (c.toNat - 48)) 0
  if digits = [] ∨ 2 ^ 64 ≤ value then none
  else some (if negative then 0 - UInt64.ofNat value else UInt64.ofNat value)

/-- A limit that is no number, or not a number of blocks there are, is ignored. -/
def limitDeviceBlocks (limit : Option String) (blocks : UInt64) : UInt64 :=
  match limit.bind stoull? with
  | some wanted => if 1 ≤ wanted ∧ wanted ≤ blocks then wanted else blocks
  | none => blocks

def ScheduleConfigParser.setBlocks (parser : ScheduleConfigParser)
    (deviceBlocks hostBlocks usableTokens : UInt64) : ScheduleConfigParser :=
  let scheduler := parser.batchSchedulerConfig
  let manager := parser.blockManagerConfig
  let swa := manager.swaDeviceAllocatorConfig
  { parser with
    batchSchedulerConfig := { scheduler with
      maxStepTokenNum :=
        if usableTokens < scheduler.maxStepTokenNum then usableTokens
        else scheduler.maxStepTokenNum }
    blockManagerConfig := { manager with
      deviceAllocatorConfig := { manager.deviceAllocatorConfig with blocksNum := deviceBlocks }
      hostAllocatorConfig := { manager.hostAllocatorConfig with blocksNum := hostBlocks }
      swaDeviceAllocatorConfig := { swa with
        blocksNum :=
          if 0.0 < scheduler.swaBlockNumRatio ∧ 0 < swa.blockSize then
            (deviceBlocks.toFloat32 * scheduler.swaBlockNumRatio).toUInt64
          else swa.blocksNum } } }

def calculateBlockNumber (deviceFree deviceTotal : UInt64) (parser : ScheduleConfigParser) :
    Run String (Status × ScheduleConfigParser) :=
  match platform.hostFree with
  | .error message => .ok (.error message, parser)
  | .ok hostFree => do
    let manager := parser.blockManagerConfig
    let scheduler := parser.batchSchedulerConfig
    check (0.0 < manager.reservedDeviceMemoryRatio)
      "reserved_device_memory_ratio must be large than 0.0"
    check (0.0 ≤ manager.blockHostMemoryFactor) "block_host_memory_factor should >= 0.0"
    let deviceMemory ← deviceBlockMemorySize platform manager deviceFree deviceTotal
    let hostMemory ← hostBlockMemorySize platform manager deviceMemory hostFree
    let deviceLimit ← divide deviceMemory (effectiveBlockSize
      manager.deviceAllocatorConfig.blockSize manager.swaDeviceAllocatorConfig.blockSize
      scheduler.swaBlockNumRatio)
    let hostBlocks ← divide hostMemory manager.hostAllocatorConfig.blockSize
    let deviceBlocks := limitDeviceBlocks (platform.getenv "KLLM_MAX_DEVICE_BLOCKS") deviceLimit
    raiseIf (deviceBlocks.toFloat32 ≤ scheduler.launchBlockThreshold)
      "KsanaLLM has insufficient blocks available; unable to perform inference."
    let usableTokens := ((deviceBlocks.toFloat32 - scheduler.launchBlockThreshold) *
      manager.deviceAllocatorConfig.blockTokenNum.toFloat32).toUInt64
    .ok (.ok (), parser.setBlocks deviceBlocks hostBlocks usableTokens)

end BlockNumber

/-- The configuration of a process, in the order the four calls are made. -/
def configure (yaml : YamlReader) (layout : BaseModelCacheLayout)
    (deviceFree deviceTotal : UInt64) (parser : ScheduleConfigParser) :
    Run String (Status × ScheduleConfigParser) := do
  let parser ← parseScheduleConfig platform yaml model parser
  let parser ← updateModelConfig platform model parser
  calculateBlockNumber platform deviceFree deviceTotal
    (initializeBlockManagerConfig model layout parser)

end KsanaBuildAhead.Configure
