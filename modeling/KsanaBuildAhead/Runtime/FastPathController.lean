import Mathlib.Tactic.Common

/-!
# The start-up gate

One pass over the configuration decides whether build-ahead is on for the whole process. The
first check that fails leaves its reason. The draft steps come from the model and the
configuration file; the gate reads the speculative ones only.
-/
namespace KsanaBuildAhead.Runtime

inductive SchedulerType where
  | default
  | eventDriven
deriving Repr, DecidableEq

structure BatchSchedulerConfig where
  schedulerType : SchedulerType := .default
  enableSpeculativeDecoding : Bool := false
  mtpStepNum : Nat := 0
  ptpStepNum : Nat := 0
  enableAsync : Bool := false
  enableExecutorBuildAhead : Bool := false
  enableXgrammar : Bool := false
deriving Repr, DecidableEq

structure ParallelBasicConfig where
  attnDataParallelSize : Nat := 1
  expertParallelSize : Nat := 1
deriving Repr, DecidableEq

structure RuntimeConfig where
  parallelBasicConfig : ParallelBasicConfig := {}
  separatePrefillDecode : Bool := false
  enableFlexibleCaching : Bool := false
  maxPpBatchNum : Nat := 1
deriving Repr, DecidableEq

/-- The draft steps `ParseScheduleConfig` settles on: MTP needs a layer in the model, and PTP
gives way to MTP and to speculative decoding. -/
def BatchSchedulerConfig.parseDraftStepNums (config : BatchSchedulerConfig)
    (mtpStepNum ptpStepNum numNextnPredictLayers : Nat) : BatchSchedulerConfig :=
  let mtp := if numNextnPredictLayers = 0 ∧ mtpStepNum ≠ 0 then 0 else mtpStepNum
  let ptp := if 0 < mtp ∧ 0 < ptpStepNum then 0 else ptpStepNum
  { config with
    mtpStepNum := mtp
    ptpStepNum := if config.enableSpeculativeDecoding ∧ 0 < ptp then 0 else ptp }

structure FastPathController where
  enabledAtStartup : Bool := false
  disableReason : String := ""
deriving Repr, DecidableEq

namespace FastPathController

def markDisabled (reason : String) : FastPathController := { disableReason := reason }

def initializeAtStartup (schedCfg : BatchSchedulerConfig) (runtimeCfg : RuntimeConfig) :
    FastPathController :=
  let parallel := runtimeCfg.parallelBasicConfig
  if schedCfg.enableExecutorBuildAhead = false then
    markDisabled "enable_executor_build_ahead=false (default off)"
  else if schedCfg.enableAsync = false then
    markDisabled "enable_async must be true"
  else if schedCfg.schedulerType ≠ .default then
    markDisabled "scheduler_type must be DEFAULT (BatchScheduler)"
  else if parallel.attnDataParallelSize ≠ 1 then
    markDisabled s!"attn_data_parallel_size must be 1, got {parallel.attnDataParallelSize}"
  else if parallel.expertParallelSize ≠ 1 then
    markDisabled s!"expert_parallel_size must be 1, got {parallel.expertParallelSize}"
  else if runtimeCfg.maxPpBatchNum ≠ 1 then
    markDisabled s!"max_pp_batch_num must be 1, got {runtimeCfg.maxPpBatchNum}"
  else if schedCfg.enableSpeculativeDecoding = true then
    markDisabled "enable_speculative_decoding must be false"
  else if schedCfg.enableXgrammar = true then
    markDisabled "enable_xgrammar must be false"
  else if runtimeCfg.enableFlexibleCaching = true then
    markDisabled "enable_flexible_caching must be false"
  else if runtimeCfg.separatePrefillDecode = true then
    markDisabled "PD separation (separate_prefill_decode) not supported"
  else { enabledAtStartup := true }

/-- MTP repairs the placeholders on the host, one step at a time. -/
def isMtpSerialFastPath (controller : FastPathController) (mtpStepNum : Nat) : Bool :=
  controller.enabledAtStartup && decide (0 < mtpStepNum)

/-- What the gate has checked once it is passed. -/
structure Accepts (schedCfg : BatchSchedulerConfig) (runtimeCfg : RuntimeConfig) : Prop where
  buildAhead : schedCfg.enableExecutorBuildAhead = true
  async : schedCfg.enableAsync = true
  scheduler : schedCfg.schedulerType = .default
  attnDataParallel : runtimeCfg.parallelBasicConfig.attnDataParallelSize = 1
  expertParallel : runtimeCfg.parallelBasicConfig.expertParallelSize = 1
  oneBatch : runtimeCfg.maxPpBatchNum = 1
  noSpeculation : schedCfg.enableSpeculativeDecoding = false
  noGrammar : schedCfg.enableXgrammar = false
  noFlexibleCaching : runtimeCfg.enableFlexibleCaching = false
  noSeparation : runtimeCfg.separatePrefillDecode = false

theorem initializeAtStartup_enabled_iff (schedCfg : BatchSchedulerConfig)
    (runtimeCfg : RuntimeConfig) :
    (initializeAtStartup schedCfg runtimeCfg).enabledAtStartup = true ↔
      Accepts schedCfg runtimeCfg := by
  constructor
  · intro henabled
    simp only [initializeAtStartup] at henabled
    split_ifs at henabled with hahead hasync hscheduler hdata hexpert hbatch hspeculation hgrammar
      hflexible hseparate
    all_goals cases henabled
    exact {
      buildAhead := eq_true_of_ne_false hahead
      async := eq_true_of_ne_false hasync
      scheduler := not_not.mp hscheduler
      attnDataParallel := not_not.mp hdata
      expertParallel := not_not.mp hexpert
      oneBatch := not_not.mp hbatch
      noSpeculation := eq_false_of_ne_true hspeculation
      noGrammar := eq_false_of_ne_true hgrammar
      noFlexibleCaching := eq_false_of_ne_true hflexible
      noSeparation := eq_false_of_ne_true hseparate }
  · intro h
    simp [initializeAtStartup, h.buildAhead, h.async, h.scheduler, h.attnDataParallel,
      h.expertParallel, h.oneBatch, h.noSpeculation, h.noGrammar, h.noFlexibleCaching,
      h.noSeparation]

end FastPathController

end KsanaBuildAhead.Runtime
