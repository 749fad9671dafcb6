import KsanaBuildAhead.Configure.DivisionSafety

/-!
# The start-up gate behind the configuration

The gate reads what the configuration has settled on. Build-ahead is on for a process exactly
where its file asks for it and for nothing that the gate refuses.
-/
namespace KsanaBuildAhead.Configure

open KsanaBuildAhead.Lib.Traps
open KsanaBuildAhead.Runtime (FastPathController)

variable {platform : Platform} {yaml : YamlReader} {model : ModelConfig}
  {layout : BaseModelCacheLayout} {start parser parser' : ScheduleConfigParser}
  {deviceFree deviceTotal : UInt64} {status : Status}

/-- The members of the runtime configuration that the gate reads. -/
def RuntimeConfig.gate (config : RuntimeConfig) : Runtime.RuntimeConfig where
  parallelBasicConfig := {
    attnDataParallelSize := config.parallelBasicConfig.attnDataParallelSize.toNat
    expertParallelSize := config.parallelBasicConfig.expertParallelSize.toNat }
  separatePrefillDecode := config.separatePrefillDecode
  enableFlexibleCaching := config.enableFlexibleCaching
  maxPpBatchNum := config.maxPpBatchNum.toNat

def ScheduleConfigParser.initializeAtStartup (parser : ScheduleConfigParser) :
    FastPathController :=
  FastPathController.initializeAtStartup parser.batchSchedulerConfig.toBatchSchedulerConfig
    parser.runtimeConfig.gate

/-- What a file has to say, and the role the connector ends up with. -/
structure AsksForBuildAhead (platform : Platform) (yaml : YamlReader) (model : ModelConfig)
    (role : GroupRole) : Prop where
  buildAhead : yaml.getBool "setting.batch_scheduler.enable_executor_build_ahead" false = true
  async : yaml.getBool "setting.batch_scheduler.enable_async" false = true
  scheduler : schedulerType yaml = .default
  dataGroups : attnDataParaSize yaml = 1
  experts : expertParaSize yaml = 1
  oneBatch : maxPpBatchNum yaml = 1
  noSpeculation : (speculativeSettings
    (yaml.getBool "setting.batch_scheduler.enable_speculative_decoding" false)
    (yaml.getString "setting.batch_scheduler.speculative_method" "")).1 = false
  noGrammar : yaml.getBool "setting.batch_scheduler.enable_xgrammar" false = false
  noFlexibleCaching : flexibleCaching yaml model = false
  noRole : connectorRole platform yaml role = .none

theorem toNat_eq_one_iff {a : UInt64} : a.toNat = 1 ↔ a = 1 := UInt64.toNat_inj (b := 1)

theorem GateRead.of_calculateBlockNumber (h : GateRead platform yaml model start parser)
    (hrun : calculateBlockNumber platform deviceFree deviceTotal
      (initializeBlockManagerConfig model layout parser) = .ok (status, parser')) :
    GateRead platform yaml model start parser' := by
  unfold calculateBlockNumber at hrun
  split at hrun
  · cases hrun
    exact { h with }
  · obtain ⟨_, -, hrun⟩ := bind_eq_ok_iff.mp hrun
    obtain ⟨_, -, hrun⟩ := bind_eq_ok_iff.mp hrun
    obtain ⟨_, -, hrun⟩ := bind_eq_ok_iff.mp hrun
    obtain ⟨_, -, hrun⟩ := bind_eq_ok_iff.mp hrun
    obtain ⟨_, -, hrun⟩ := bind_eq_ok_iff.mp hrun
    obtain ⟨_, -, hrun⟩ := bind_eq_ok_iff.mp hrun
    obtain ⟨_, -, hrun⟩ := bind_eq_ok_iff.mp hrun
    cases hrun
    exact { h with }

theorem GateRead.enabled_iff (h : GateRead platform yaml model start parser) :
    parser.initializeAtStartup.enabledAtStartup = true ↔
      AsksForBuildAhead platform yaml model start.connectorConfig.groupRole := by
  unfold ScheduleConfigParser.initializeAtStartup
  rw [FastPathController.initializeAtStartup_enabled_iff, h.switches]
  have hdata : parser.runtimeConfig.gate.parallelBasicConfig.attnDataParallelSize =
      (attnDataParaSize yaml).toNat := congrArg UInt64.toNat h.dataGroups
  have hexperts : parser.runtimeConfig.gate.parallelBasicConfig.expertParallelSize =
      (expertParaSize yaml).toNat := congrArg UInt64.toNat h.experts
  have hbatches : parser.runtimeConfig.gate.maxPpBatchNum = (maxPpBatchNum yaml).toNat :=
    congrArg UInt64.toNat h.batches
  constructor
  · intro haccepts
    exact {
      buildAhead := haccepts.buildAhead
      async := haccepts.async
      scheduler := haccepts.scheduler
      dataGroups := toNat_eq_one_iff.mp (hdata.symm.trans haccepts.attnDataParallel)
      experts := toNat_eq_one_iff.mp (hexperts.symm.trans haccepts.expertParallel)
      oneBatch := toNat_eq_one_iff.mp (hbatches.symm.trans haccepts.oneBatch)
      noSpeculation := haccepts.noSpeculation
      noGrammar := haccepts.noGrammar
      noFlexibleCaching := h.flexible.symm.trans haccepts.noFlexibleCaching
      noRole := bne_eq_false_iff_eq.mp (h.separate.symm.trans haccepts.noSeparation) }
  · intro hasks
    exact {
      buildAhead := hasks.buildAhead
      async := hasks.async
      scheduler := hasks.scheduler
      attnDataParallel := hdata.trans (toNat_eq_one_iff.mpr hasks.dataGroups)
      expertParallel := hexperts.trans (toNat_eq_one_iff.mpr hasks.experts)
      oneBatch := hbatches.trans (toNat_eq_one_iff.mpr hasks.oneBatch)
      noSpeculation := hasks.noSpeculation
      noGrammar := hasks.noGrammar
      noFlexibleCaching := h.flexible.trans hasks.noFlexibleCaching
      noSeparation := h.separate.trans (bne_eq_false_iff_eq.mpr hasks.noRole) }

theorem configure_enabled_iff
    (hrun : configure platform model yaml layout deviceFree deviceTotal start =
      .ok (status, parser)) :
    parser.initializeAtStartup.enabledAtStartup = true ↔
      AsksForBuildAhead platform yaml model start.connectorConfig.groupRole := by
  unfold configure at hrun
  obtain ⟨parsed, hparse, hrun⟩ := bind_eq_ok_iff.mp hrun
  obtain ⟨updated, hupdate, hrun⟩ := bind_eq_ok_iff.mp hrun
  have hparsed := contract_parseScheduleConfig.facts_of_ok hparse
  have hupdated := (contract_updateModelConfig hparsed.1 hparsed.2).facts_of_ok hupdate
  exact (hupdated.2.of_calculateBlockNumber hrun).enabled_iff

end KsanaBuildAhead.Configure
