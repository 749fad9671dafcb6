import KsanaBuildAhead.Configure.ScheduleConfig
import KsanaBuildAhead.Lib.Traps
import Mathlib.Data.UInt

/-!
# Parsing the schedule configuration

The sections of `ParseScheduleConfig`, in its order: a setting is stored before it is checked,
and a division stands wherever the source has it. Sections that only store settings are plain
updates of the parser.
-/
namespace KsanaBuildAhead.Configure

open KsanaBuildAhead.Lib.Traps

variable (platform : Platform) (yaml : YamlReader) (model : ModelConfig)

section ParallelSizes

/-- Zero stands for every device of the machine. -/
def tensorParaSize : UInt64 :=
  let setting := yaml.getSize "setting.global.tensor_para_size" 0
  if setting = 0 then platform.deviceCount.toInt64.toUInt64 else setting

def attnDataParaSize : UInt64 := yaml.getSize "setting.global.attn_data_para_size" 1

def expertParaSize : UInt64 := yaml.getSize "setting.global.expert_para_size" 1

def expertWorldSize : UInt64 := yaml.getSize "setting.global.expert_world_size" 1

def enableFullSharedExpert : Bool :=
  yaml.getBool "setting.global.enable_full_shared_expert" false

def readParallelSizes (config : RuntimeConfig) : RuntimeConfig :=
  { config with
    parallelBasicConfig := { config.parallelBasicConfig with
      tensorParallelSize := tensorParaSize platform yaml
      attnDataParallelSize := attnDataParaSize yaml
      expertWorldSize := expertWorldSize yaml
      expertParallelSize := expertParaSize yaml }
    enableFullSharedExpert := enableFullSharedExpert yaml }

def checkParallelSizes (tp dp : UInt64) : Run String Unit := do
  check (dp ≤ tp) (s!"Tensor Para Size(tensor_para_size) {tp} should >= " ++
    s!"Attention Data Para Size(attn_data_para_size) {dp}")
  let rest ← modulo tp dp
  check (rest = 0) (s!"Tensor Para Size(tensor_para_size) {tp} % " ++
    s!"Attention Data Para Size(attn_data_para_size) {dp} != 0")
  raiseIf ((platform.enableAcl ∨ platform.enableTops) ∧ 1 < dp)
    "Huawei Ascend does not support data parallelism, please set attn_data_parallel_size to 1."
  raiseIf (¬(0 < tp ∧ 0 < dp)) s!"Tensor Para Size {tp}, Data Para Size {dp} should > 0"
  -- The size is narrowed to an `int` for this comparison.
  check (tp.toUInt32.toInt32 ≤ platform.deviceCount)
    s!"{tp} tensor_parallel_size should not bigger than devices num: {platform.deviceCount}"

def ScheduleConfigParser.setAttnTensorParallelSize (parser : ScheduleConfigParser)
    (size : UInt64) : ScheduleConfigParser :=
  { parser with runtimeConfig := { parser.runtimeConfig with
      parallelBasicConfig := { parser.runtimeConfig.parallelBasicConfig with
        attnTensorParallelSize := size } } }

def parseParallelSizes (parser : ScheduleConfigParser) : Run String ScheduleConfigParser := do
  let parser :=
    { parser with runtimeConfig := readParallelSizes platform yaml parser.runtimeConfig }
  let parallel := parser.runtimeConfig.parallelBasicConfig
  checkParallelSizes platform parallel.tensorParallelSize parallel.attnDataParallelSize
  let attnTp ← divide parallel.tensorParallelSize parallel.attnDataParallelSize
  .ok (parser.setAttnTensorParallelSize attnTp)

end ParallelSizes

section BatchScheduler

def maxPpBatchNum : UInt64 := yaml.getSize "setting.batch_scheduler.max_pp_batch_num" 1

def maxBatchSize : UInt64 := yaml.getSize "setting.batch_scheduler.max_batch_size" 128

def splitFuseTokenNum : UInt64 := yaml.getSize "setting.batch_scheduler.split_fuse_token_num" 0

/-- An unknown scheduler falls back to the default one. -/
def schedulerType : Runtime.SchedulerType :=
  if yaml.getInt "setting.batch_scheduler.scheduler_type" 0 = 1 then .eventDriven else .default

/-- Whether speculative decoding stays on, and its method. -/
def speculativeSettings (enable : Bool) (method : String) : Bool × String :=
  if enable then
    if method.isEmpty then (true, "trie")
    else if method ≠ "trie" ∧ method ≠ "asr_custom" then (false, "")
    else (true, method)
  else (false, "")

def readSchedulerSwitches (config : Runtime.BatchSchedulerConfig) : Runtime.BatchSchedulerConfig :=
  let speculative := speculativeSettings
    (yaml.getBool "setting.batch_scheduler.enable_speculative_decoding" false)
    (yaml.getString "setting.batch_scheduler.speculative_method" "")
  let config := { config with
    schedulerType := schedulerType yaml
    enableSpeculativeDecoding := speculative.1 }
  let config := config.parseDraftStepNums
    (yaml.getSize "setting.batch_scheduler.mtp_step_num" 0).toNat model.ptpStepNum.toNat
    model.numNextnPredictLayers.toNat
  { config with
    enableXgrammar := yaml.getBool "setting.batch_scheduler.enable_xgrammar" false
    enableAsync := yaml.getBool "setting.batch_scheduler.enable_async" false
    enableExecutorBuildAhead :=
      yaml.getBool "setting.batch_scheduler.enable_executor_build_ahead" false }

def readBatchScheduler (config : BatchSchedulerConfig) : BatchSchedulerConfig :=
  { config with
    toBatchSchedulerConfig := readSchedulerSwitches yaml model config.toBatchSchedulerConfig
    maxTokenLen := yaml.getSize "setting.batch_scheduler.max_token_len" 0
    maxStepTokenNum := yaml.getSize "setting.batch_scheduler.max_step_tokens" 4096
    maxChunkedKvTokens := yaml.getSize "setting.batch_scheduler.max_chunked_kv_tokens" 0
    maxBatchSize := maxBatchSize yaml
    maxPpBatchNum := maxPpBatchNum yaml
    launchBlockThreshold := yaml.getFloat "setting.batch_scheduler.launch_block_threshold" 2.0
    splitFuseTokenNum := splitFuseTokenNum yaml
    speculativeMethod := (speculativeSettings
      (yaml.getBool "setting.batch_scheduler.enable_speculative_decoding" false)
      (yaml.getString "setting.batch_scheduler.speculative_method" "")).2 }

/-- A request in its steady state verifies its drafts, holds as many placeholders under PTP, and
generates one token. -/
def BatchSchedulerConfig.decodeTokensPerReq (config : BatchSchedulerConfig) : UInt64 :=
  UInt64.ofNat (config.mtpStepNum + 2 * config.ptpStepNum + 1)

def parseBatchScheduler (parser : ScheduleConfigParser) : Run String ScheduleConfigParser := do
  let config := readBatchScheduler yaml model parser.batchSchedulerConfig
  check (0 < config.maxPpBatchNum) "max_multi_batch_size should be bigger than 0"
  .ok { parser with
    batchSchedulerConfig := { config with maxDecodeTokensPerReq := config.decodeTokensPerReq } }

def parseOProjOutOfDp (parser : ScheduleConfigParser) : Run String ScheduleConfigParser :=
  if platform.getenv "ENABLE_O_PROJ_OUT_OF_DP" ≠ none then do
    check (parser.runtimeConfig.parallelBasicConfig.attnTensorParallelSize = 1)
      "ENABLE_O_PROJ_OUT_OF_DP only support attn_tensor_parallel_size=1"
    .ok { parser with runtimeConfig := { parser.runtimeConfig with enableOProjOutOfDp := true } }
  else .ok parser

end BatchScheduler

section Blocks

/-- Flash MLA fixes the tokens of a block. -/
def blockTokenNum : UInt64 :=
  if model.useMla then if model.useDsv4Attn then 256 else 64
  else yaml.getSize "setting.block_manager.block_token_num" 16

def reservedDeviceMemoryRatio : Float32 :=
  yaml.getFloat "setting.block_manager.reserved_device_memory_ratio" 0.01

def blockHostMemoryFactor : Float32 :=
  yaml.getFloat "setting.block_manager.block_host_memory_factor" 2.0

def readBlockManager (config : BlockManagerConfig) : BlockManagerConfig :=
  { config with
    deviceAllocatorConfig :=
      { config.deviceAllocatorConfig with blockTokenNum := blockTokenNum yaml model }
    hostAllocatorConfig :=
      { config.hostAllocatorConfig with blockTokenNum := blockTokenNum yaml model }
    reservedDeviceMemoryRatio := reservedDeviceMemoryRatio yaml
    blockDeviceMemoryRatio :=
      yaml.getFloat "setting.block_manager.block_device_memory_ratio" (-1.0)
    blockHostMemoryFactor := blockHostMemoryFactor yaml }

/-- A ratio that is not positive gives way to the default. -/
def swaBlockNumRatio : Float32 :=
  let ratio := yaml.getFloat "setting.cache_manager.swa_block_num_ratio" 0.1
  if ratio ≤ 0.0 then 0.1 else ratio

def enablePrefixCaching : Bool :=
  yaml.getBool "setting.batch_scheduler.enable_auto_prefix_cache" false && !platform.enableAcl
    && !model.isVisual

def minFlexibleCacheNum : UInt64 :=
  yaml.getSize "setting.batch_scheduler.min_flexible_cache_num" 0

def readCacheManager (tensorParaSize : UInt64) (config : CacheManagerConfig) :
    CacheManagerConfig :=
  { config with
    minFlexibleCacheNum := minFlexibleCacheNum yaml
    blockTokenNum := blockTokenNum yaml model
    tensorParaSize := tensorParaSize
    enablePrefixCaching := enablePrefixCaching platform yaml model }

def readBlocks (parser : ScheduleConfigParser) : ScheduleConfigParser :=
  let runtime := parser.runtimeConfig
  let splitFuse := parser.batchSchedulerConfig.splitFuseTokenNum
  { parser with
    blockManagerConfig := readBlockManager yaml model parser.blockManagerConfig
    runtimeConfig := { runtime with
      attnBackendConfig :=
        { runtime.attnBackendConfig with blockTokenNum := blockTokenNum yaml model } }
    cacheManagerConfig := readCacheManager platform yaml model
      runtime.parallelBasicConfig.tensorParallelSize parser.cacheManagerConfig
    batchSchedulerConfig := { parser.batchSchedulerConfig with
      swaBlockNumRatio := swaBlockNumRatio yaml
      -- A visual model runs without split-fuse.
      splitFuseTokenNum := if model.isVisual ∧ 0 < splitFuse then 0 else splitFuse } }

/-- A chunk of a DSv4 prompt has to end where a block ends. -/
def checkSplitFuse (splitFuse blockTokenNum : UInt64) : Run String Unit :=
  if model.useDsv4Attn ∧ 0 < splitFuse then do
    let rest ← modulo splitFuse blockTokenNum
    check (rest = 0)
      (s!"DSv4 requires split_fuse_token_num ({splitFuse}) to be a multiple of " ++
        s!"block_token_num ({blockTokenNum}); " ++
        s!"set yaml setting.batch_scheduler.split_fuse_token_num to {blockTokenNum}, " ++
        s!"{blockTokenNum * 2}, or any multiple.")
  else .ok ()

def readAttnBackend (parser : ScheduleConfigParser) : ScheduleConfigParser :=
  let enable := yaml.getBool "setting.attn_backend.enable_blocked_multi_token_forwarding_kv" false
  let runtime := parser.runtimeConfig
  { parser with runtimeConfig := { runtime with
      attnBackendConfig := { runtime.attnBackendConfig with
        enableBlockedMultiTokenForwardingKv :=
          enable || model.useMla || decide (0 < parser.batchSchedulerConfig.mtpStepNum) } } }

def parseBlocks (parser : ScheduleConfigParser) : Run String ScheduleConfigParser := do
  let parser := readBlocks platform yaml model parser
  checkSplitFuse model parser.batchSchedulerConfig.splitFuseTokenNum
    parser.blockManagerConfig.deviceAllocatorConfig.blockTokenNum
  .ok (readAttnBackend yaml model parser)

end Blocks

section MoeAllToAll

def MoeAllToAllMode.ofString? (mode : String) (expertWorldSize : UInt64) :
    Option MoeAllToAllMode :=
  if mode = "deepep_low_latency" then some .deepepLowLatency
  else if mode = "deepep_normal" then some .deepepNormal
  else if mode = "auto" then some (if 1 < expertWorldSize then .deepepNormal else .disabled)
  else none

def moeAllToAllMode : String := yaml.getString "setting.global.moe_all_to_all_mode" "auto"

def checkDeepEp (mode : MoeAllToAllMode) (tp dp : UInt64) (fullSharedExpert : Bool) :
    Run String Unit :=
  if mode = .deepepNormal ∨ mode = .deepepLowLatency then do
    check (dp = tp) ("DeepEP requires tensor_parallel_size == attn_data_parallel_size, " ++
      s!"but got tp={tp}, dp={dp}")
    check (fullSharedExpert = true)
      "DeepEP requires enable_full_shared_expert to be true, please set it in the config yaml."
  else .ok ()

/-- The batch is shared by the data parallel groups, so a group dispatches its part of it. -/
def lowLatencyMaxTokens (mode : MoeAllToAllMode) (setting maxBatchSize dp : UInt64) :
    Run String UInt64 :=
  if mode = .deepepLowLatency then do
    let perDpBatch ← divide maxBatchSize dp
    .ok (min setting perDpBatch)
  else .ok setting

def parseMoeAllToAll (parser : ScheduleConfigParser) : Run String ScheduleConfigParser := do
  let runtime := parser.runtimeConfig
  let parallel := runtime.parallelBasicConfig
  let mode ← orRaise (MoeAllToAllMode.ofString? (moeAllToAllMode yaml) parallel.expertWorldSize)
    s!"Unknown moe_all_to_all_mode: {moeAllToAllMode yaml}"
  checkDeepEp mode parallel.tensorParallelSize parallel.attnDataParallelSize
    runtime.enableFullSharedExpert
  let maxTokens ← lowLatencyMaxTokens mode
    (yaml.getSize "setting.global.deepep_low_latency_max_tokens" 256)
    parser.batchSchedulerConfig.maxBatchSize parallel.attnDataParallelSize
  .ok { parser with runtimeConfig := { runtime with
      moeAllToAllMode := mode
      deepepLowLatencyMaxTokens := maxTokens } }

end MoeAllToAll

section Connector

/-- The role as the file writes it, in lower case; the decode benchmark overrides the file. -/
def groupRoleString : String :=
  let role := if platform.getenv "DECODE_NODE_BENCHMARK" = some "1" then "decode"
    else yaml.getString "setting.connector.group_role" "none"
  role.toLower

def GroupRole.ofString (role : String) : GroupRole :=
  if role = "prefill" then .prefill
  else if role = "decode" then .decode
  else if role = "both" then .both
  else .none

def isPdV2 : Bool := (yaml.getString "setting.connector.backend" "").toLower == "v2"

def transferLayerChunkSize : Int32 :=
  yaml.getInt "setting.connector.transfer_layer_chunk_size" 1

def checkConnector (schedulerType : Runtime.SchedulerType) (role : GroupRole) (isPdV2 : Bool)
    (chunkSize : Int32) : Run String Unit := do
  raiseIf (isPdV2 ∧ schedulerType ≠ .eventDriven)
    ("setting.connector.backend=v2 requires setting.batch_scheduler.scheduler_type=1 " ++
      "(EVENT_DRIVEN); got DEFAULT. pd_v2 hooks only register on the event-driven schedule path.")
  raiseIf (isPdV2 ∧ role = .both)
    ("setting.connector.backend=v2 with setting.connector.group_role=both is not supported. " ++
      "pd_v2 cleanly splits Decode and Prefill into different processes; co-locating both " ++
      "roles in one engine has no test coverage and isn't validated.")
  raiseIf (chunkSize < 0)
    (s!"setting.connector.transfer_layer_chunk_size must be >= 0, got {chunkSize}. " ++
      "0 disables chunking (whole-model in one batch); " ++
      "positive N triggers transfer every N layers.")

/-- The connector and its twin are written side by side. -/
def ScheduleConfigParser.setConnector (parser : ScheduleConfigParser)
    (connector : ConnectorConfig) (twin : PdV2RuntimeConfig) : ScheduleConfigParser :=
  { parser with connectorConfig := connector, pdV2RuntimeConfig := twin }

def initConnectorConfig (parser : ScheduleConfigParser) : Run String ScheduleConfigParser :=
  let roleString := groupRoleString platform yaml
  if roleString = "none" then .ok parser
  else
    let role := GroupRole.ofString roleString
    let connector := { parser.connectorConfig with groupRole := role }
    let twin := { parser.pdV2RuntimeConfig with groupRole := role }
    if role = .none then .ok (parser.setConnector connector twin)
    else do
      checkConnector parser.batchSchedulerConfig.schedulerType role (isPdV2 yaml)
        (transferLayerChunkSize yaml)
      let chunk := (transferLayerChunkSize yaml).toUInt32
      .ok (parser.setConnector
        { connector with isPdV2 := isPdV2 yaml, transferLayerChunkSize := chunk }
        { twin with isPdV2 := isPdV2 yaml, transferLayerChunkSize := chunk })

/-- A node that sends its caches to a peer computes a prompt in one piece. -/
def dropSplitFuse (parser : ScheduleConfigParser) : ScheduleConfigParser :=
  let connector := parser.connectorConfig
  let isPdV2Decode := connector.isPdV2 && connector.groupRole == .decode
  let splitFuse := parser.batchSchedulerConfig.splitFuseTokenNum
  { parser with batchSchedulerConfig := { parser.batchSchedulerConfig with
      splitFuseTokenNum :=
        if connector.groupRole ≠ .none ∧ isPdV2Decode = false ∧
          parser.cacheManagerConfig.enablePrefixCaching ∧ splitFuse ≠ 0 then 0 else splitFuse } }

end Connector

def parseScheduleConfig (parser : ScheduleConfigParser) : Run String ScheduleConfigParser := do
  let parser ← parseParallelSizes platform yaml parser
  let parser ← parseBatchScheduler yaml model parser
  let parser ← parseOProjOutOfDp platform parser
  let parser ← parseBlocks platform yaml model parser
  let parser ← parseMoeAllToAll yaml parser
  let parser ← initConnectorConfig platform yaml parser
  .ok (dropSplitFuse parser)

end KsanaBuildAhead.Configure
