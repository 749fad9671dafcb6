import KsanaBuildAhead.Runtime.FastPathController

/-!
# What the schedule configuration reads and holds

A size is a `size_t`, so its arithmetic wraps at 64 bits. The configuration file, the process
environment, the devices and the rounding helpers of the utility library are the parameters of
the parser; a member that no function below reads is left out.
-/
namespace KsanaBuildAhead.Configure

inductive GroupRole where
  | none
  | prefill
  | decode
  | both
deriving Repr, DecidableEq

inductive MoeAllToAllMode where
  | disabled
  | deepepNormal
  | deepepLowLatency
deriving Repr, DecidableEq

/-- The scalars of a configuration file, by path and by the type they are read at. -/
structure YamlReader where
  sizes : String → Option UInt64 := fun _ => none
  ints : String → Option Int32 := fun _ => none
  bools : String → Option Bool := fun _ => none
  floats : String → Option Float32 := fun _ => none
  strings : String → Option String := fun _ => none

namespace YamlReader

variable (yaml : YamlReader) (path : String)

def getSize (fallback : UInt64) : UInt64 := (yaml.sizes path).getD fallback

def getInt (fallback : Int32) : Int32 := (yaml.ints path).getD fallback

def getBool (fallback : Bool) : Bool := (yaml.bools path).getD fallback

def getFloat (fallback : Float32) : Float32 := (yaml.floats path).getD fallback

def getString (fallback : String) : String := (yaml.strings path).getD fallback

end YamlReader

/-- A status that is not OK carries its message. -/
abbrev Status := Except String Unit

/-- The build, the machine and the utility library. `hostFree` is the free memory of the host where
it can be read; `divRoundUp`, `divRoundDown` and `roundUp` give what the helper returns for a
divisor other than zero. -/
structure Platform where
  enableAcl : Bool := false
  enableTops : Bool := false
  getenv : String → Option String := fun _ => none
  deviceCount : Int32
  hostFree : Except String UInt64
  divRoundUp : UInt64 → UInt64 → UInt64
  divRoundDown : UInt64 → UInt64 → UInt64
  roundUp : UInt64 → UInt64 → UInt64

structure ModelConfig where
  useMla : Bool := false
  useDsv4Attn : Bool := false
  isVisual : Bool := false
  useQkNorm : Bool := false
  ptpStepNum : UInt64 := 0
  numNextnPredictLayers : UInt64 := 0
  numLayer : UInt64
  numKeyValueHeads : UInt64
  maxTrainingSeqLen : UInt64
  slidingWindow : UInt64 := 0
deriving Repr, DecidableEq

/-- The block sizes a cache layout registers, in bytes. -/
structure BaseModelCacheLayout where
  kvCacheSize : UInt64
  swaCacheSize : Option UInt64 := none
deriving Repr, DecidableEq

structure BatchSchedulerConfig extends Runtime.BatchSchedulerConfig where
  maxStepTokenNum : UInt64 := 4096
  maxBatchSize : UInt64 := 8
  maxPpBatchNum : UInt64 := 1
  maxTokenLen : UInt64 := 2048
  launchBlockThreshold : Float32 := 2.0
  splitFuseTokenNum : UInt64 := 0
  maxDecodeTokensPerReq : UInt64 := 1
  speculativeMethod : String := ""
  maxChunkedKvTokens : UInt64 := 0
  swaBlockNumRatio : Float32 := 0.0

structure AllocatorConfig where
  blocksNum : UInt64 := 0
  blockSize : UInt64 := 0
  blockTokenNum : UInt64 := 0
deriving Repr, DecidableEq

structure BlockManagerConfig where
  hostAllocatorConfig : AllocatorConfig := {}
  deviceAllocatorConfig : AllocatorConfig := {}
  swaDeviceAllocatorConfig : AllocatorConfig := {}
  reservedDeviceMemoryRatio : Float32 := 0.05
  blockDeviceMemoryRatio : Float32 := -1.0
  blockHostMemoryFactor : Float32 := 10.0

structure CacheManagerConfig where
  blockTokenNum : UInt64 := 16
  tensorParaSize : UInt64 := 2
  minFlexibleCacheNum : UInt64 := 0
  enablePrefixCaching : Bool := false
  slidingWindowSize : UInt64 := 0
deriving Repr, DecidableEq

structure PipelineConfig where
  lowerLayerIdx : Int16 := -1
  upperLayerIdx : Int16 := -1
  lowerNextnLayerIdx : Int16 := -1
  upperNextnLayerIdx : Int16 := -1
deriving DecidableEq

structure AttnBackendConfig where
  enableBlockedMultiTokenForwardingKv : Bool := false
  blockTokenNum : UInt64 := 0
  blockSize : UInt64 := 0
deriving Repr, DecidableEq

structure ParallelismBasicConfig where
  tensorParallelSize : UInt64 := 1
  attnDataParallelSize : UInt64 := 1
  attnTensorParallelSize : UInt64 := 1
  expertParallelSize : UInt64 := 1
  expertWorldSize : UInt64 := 1
  moeTensorParaSize : UInt64 := 1
deriving Repr, DecidableEq

structure RuntimeConfig where
  parallelBasicConfig : ParallelismBasicConfig := {}
  attnBackendConfig : AttnBackendConfig := {}
  enableFullSharedExpert : Bool := false
  separatePrefillDecode : Bool := false
  isDecodeOnly : Bool := false
  enablePrefixCaching : Bool := false
  enableFlexibleCaching : Bool := false
  maxPpBatchNum : UInt64 := 1
  maxSeqLen : UInt64 := 0
  maxStepTokenNum : UInt64 := 0
  maxChunkedKvTokens : UInt64 := 0
  mtpStepNum : Nat := 0
  enableAsync : Bool := false
  enableExecutorBuildAhead : Bool := false
  enableSpeculativeDecoding : Bool := false
  enableOProjOutOfDp : Bool := false
  moeAllToAllMode : MoeAllToAllMode := .disabled
  deepepLowLatencyMaxTokens : UInt64 := 256
deriving Repr, DecidableEq

structure ConnectorConfig where
  groupRole : GroupRole := .none
  isPdV2 : Bool := false
  transferLayerChunkSize : UInt32 := 1
deriving Repr, DecidableEq

/-- The twin that the paths behind `backend: v2` read in place of the connector's own. -/
structure PdV2RuntimeConfig where
  groupRole : GroupRole := .none
  isPdV2 : Bool := false
  transferLayerChunkSize : UInt32 := 1
deriving Repr, DecidableEq

structure ScheduleConfigParser where
  batchSchedulerConfig : BatchSchedulerConfig := {}
  cacheManagerConfig : CacheManagerConfig := {}
  blockManagerConfig : BlockManagerConfig := {}
  runtimeConfig : RuntimeConfig := {}
  pipelineConfig : PipelineConfig := {}
  connectorConfig : ConnectorConfig := {}
  pdV2RuntimeConfig : PdV2RuntimeConfig := {}

end KsanaBuildAhead.Configure
