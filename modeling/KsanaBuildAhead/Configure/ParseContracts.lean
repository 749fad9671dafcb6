import KsanaBuildAhead.Configure.ParseScheduleConfig

/-!
# What the parser asks of a configuration file

Each section of the parser has a contract over the settings alone: when it traps, when it raises
an error, and which members it leaves behind. The contract of the whole parse is their
composition.
-/
namespace KsanaBuildAhead.Configure

open KsanaBuildAhead.Lib.Traps

variable {platform : Platform} {yaml : YamlReader} {model : ModelConfig}
  {start parser : ScheduleConfigParser}

section ParallelSizes

/-- The checks on the tensor and attention data parallel sizes. -/
structure ParallelSizesAccepted (platform : Platform) (tp dp : UInt64) : Prop where
  groupsFit : dp ≤ tp
  groupsEven : tp % dp = 0
  singleGroup : ¬((platform.enableAcl ∨ platform.enableTops) ∧ 1 < dp)
  positive : 0 < tp ∧ 0 < dp
  devices : tp.toUInt32.toInt32 ≤ platform.deviceCount

theorem contract_checkParallelSizes (tp dp : UInt64) :
    Contract (checkParallelSizes platform tp dp) (dp ≠ 0) (ParallelSizesAccepted platform tp dp)
      (fun _ => ParallelSizesAccepted platform tp dp) := by
  unfold checkParallelSizes
  refine ((contract_check _ _).bind fun _ hfit => (contract_modulo tp dp).bind_value <|
    (contract_check _ _).bind fun _ heven => (contract_raiseIf _ _).bind fun _ hsingle =>
    (contract_raiseIf _ _).bind fun _ hpositive => (contract_check _ _).weaken fun _ hdevices =>
    ⟨hfit, heven, hsingle, not_not.mp hpositive, hdevices⟩).conseq ?_ ?_ (fun _ h => h)
  · constructor
    · intro hsafe hzero
      have hfit : dp ≤ tp := by rw [hzero]; exact UInt64.zero_le
      exact (hsafe.2 hfit).1 hzero
    · intro hne
      exact ⟨trivial, fun _ => ⟨hne, fun _ => ⟨trivial, fun _ => ⟨trivial, fun _ =>
        ⟨trivial, fun _ => trivial⟩⟩⟩⟩⟩
  · intro _
    constructor
    · rintro ⟨hfit, -, heven, hsingle, hpositive, hdevices⟩
      exact ⟨hfit, heven, hsingle, not_not.mp hpositive, hdevices⟩
    · intro h
      exact ⟨h.groupsFit, trivial, h.groupsEven, h.singleGroup, not_not_intro h.positive, h.devices⟩

/-- The sizes an accepted file leaves behind. -/
structure ParallelSizesRead (platform : Platform) (yaml : YamlReader)
    (parser : ScheduleConfigParser) : Prop where
  accepted : ParallelSizesAccepted platform (tensorParaSize platform yaml) (attnDataParaSize yaml)
  tensorParallel : parser.runtimeConfig.parallelBasicConfig.tensorParallelSize =
    tensorParaSize platform yaml
  attnDataParallel : parser.runtimeConfig.parallelBasicConfig.attnDataParallelSize =
    attnDataParaSize yaml
  attnTensorParallel : parser.runtimeConfig.parallelBasicConfig.attnTensorParallelSize =
    tensorParaSize platform yaml / attnDataParaSize yaml
  expertParallel : parser.runtimeConfig.parallelBasicConfig.expertParallelSize =
    expertParaSize yaml
  expertWorld : parser.runtimeConfig.parallelBasicConfig.expertWorldSize = expertWorldSize yaml
  fullSharedExpert : parser.runtimeConfig.enableFullSharedExpert = enableFullSharedExpert yaml

/-- What the first sections leave as it was. -/
structure Untouched (start parser : ScheduleConfigParser) : Prop where
  blockManager : parser.blockManagerConfig = start.blockManagerConfig
  connector : parser.connectorConfig = start.connectorConfig

theorem contract_parseParallelSizes :
    Contract (parseParallelSizes platform yaml start) (attnDataParaSize yaml ≠ 0)
      (ParallelSizesAccepted platform (tensorParaSize platform yaml) (attnDataParaSize yaml))
      (fun parser => ParallelSizesRead platform yaml parser ∧ Untouched start parser) := by
  unfold parseParallelSizes
  refine ((contract_checkParallelSizes _ _).bind fun _ haccepted =>
    (contract_divide _ _).map_ok fun attnTp hattnTp => ?_).conseq ?_ ?_ (fun _ h => h)
  · exact ⟨⟨haccepted, rfl, rfl, hattnTp, rfl, rfl, rfl⟩, rfl, rfl⟩
  · exact ⟨And.left, fun hne => ⟨hne, fun _ => hne⟩⟩
  · exact fun _ => ⟨And.left, fun haccepted => ⟨haccepted, trivial⟩⟩

end ParallelSizes

section BatchScheduler

/-- The settings that no later section touches. -/
structure SwitchesRead (yaml : YamlReader) (model : ModelConfig)
    (parser : ScheduleConfigParser) : Prop where
  switches : parser.batchSchedulerConfig.toBatchSchedulerConfig =
    readSchedulerSwitches yaml model {}
  batches : parser.batchSchedulerConfig.maxPpBatchNum = maxPpBatchNum yaml

theorem SwitchesRead.scheduler (h : SwitchesRead yaml model parser) :
    parser.batchSchedulerConfig.schedulerType = schedulerType yaml := by
  rw [h.switches]
  rfl

structure SchedulerRead (platform : Platform) (yaml : YamlReader) (model : ModelConfig)
    (start parser : ScheduleConfigParser) : Prop
    extends ParallelSizesRead platform yaml parser, Untouched start parser,
      SwitchesRead yaml model parser where
  splitFuse : parser.batchSchedulerConfig.splitFuseTokenNum = splitFuseTokenNum yaml

theorem contract_parseBatchScheduler (h : ParallelSizesRead platform yaml parser)
    (hkept : Untouched start parser) :
    Contract (parseBatchScheduler yaml model parser) True (0 < maxPpBatchNum yaml)
      (SchedulerRead platform yaml model start) := by
  unfold parseBatchScheduler
  refine (contract_check _ _).map_ok fun _ _ => ?_
  exact { h, hkept with
    switches := rfl
    batches := rfl
    splitFuse := rfl }

/-- The switch needs attention without tensor parallelism. -/
def OProjAccepted (platform : Platform) (yaml : YamlReader) : Prop :=
  platform.getenv "ENABLE_O_PROJ_OUT_OF_DP" ≠ none →
    tensorParaSize platform yaml / attnDataParaSize yaml = 1

theorem contract_parseOProjOutOfDp (h : SchedulerRead platform yaml model start parser) :
    Contract (parseOProjOutOfDp platform parser) True (OProjAccepted platform yaml)
      (SchedulerRead platform yaml model start) := by
  unfold parseOProjOutOfDp
  refine (contract_when _ (fun _ => (contract_check _ _).map_ok fun _ _ => ?_) (fun _ => h)).conseq
    (iff_true_intro fun _ => trivial) ?_ (fun _ h => h)
  · exact { h with }
  · intro _
    unfold OProjAccepted
    rw [h.attnTensorParallel]

end BatchScheduler

section Blocks

/-- What the block numbers are calculated from. -/
structure BlocksRead (yaml : YamlReader) (model : ModelConfig)
    (start parser : ScheduleConfigParser) : Prop where
  blockManager :
    parser.blockManagerConfig = readBlockManager yaml model start.blockManagerConfig
  swaRatio : parser.batchSchedulerConfig.swaBlockNumRatio = swaBlockNumRatio yaml

structure Parsed (platform : Platform) (yaml : YamlReader) (model : ModelConfig)
    (start parser : ScheduleConfigParser) : Prop
    extends ParallelSizesRead platform yaml parser, SwitchesRead yaml model parser,
      BlocksRead yaml model start parser where
  flexible : parser.cacheManagerConfig.minFlexibleCacheNum = minFlexibleCacheNum yaml

/-- Split-fuse is on for a model whose chunks have to end where a block ends. -/
def SplitsDsv4Prompts (yaml : YamlReader) (model : ModelConfig) : Prop :=
  model.useDsv4Attn ∧ ¬model.isVisual ∧ 0 < splitFuseTokenNum yaml

theorem blockTokenNum_ne_zero_iff :
    blockTokenNum yaml model ≠ 0 ↔
      model.useMla ∨ yaml.getSize "setting.block_manager.block_token_num" 16 ≠ 0 := by
  unfold blockTokenNum
  by_cases hmla : model.useMla
  · rw [if_pos hmla]
    refine iff_of_true ?_ (Or.inl hmla)
    by_cases hdsv4 : model.useDsv4Attn
    · rw [if_pos hdsv4]
      decide
    · rw [if_neg hdsv4]
      decide
  · rw [if_neg hmla]
    exact ⟨Or.inr, fun h => h.resolve_left hmla⟩

theorem contract_checkSplitFuse (splitFuse blockTokenNum : UInt64) :
    Contract (checkSplitFuse model splitFuse blockTokenNum)
      (model.useDsv4Attn ∧ 0 < splitFuse → blockTokenNum ≠ 0)
      (model.useDsv4Attn ∧ 0 < splitFuse → splitFuse % blockTokenNum = 0) (fun _ => True) := by
  unfold checkSplitFuse
  have hcheck (error : String) : Contract (check (splitFuse % blockTokenNum = 0) error) True
      (splitFuse % blockTokenNum = 0) (fun _ => True) :=
    (contract_check _ _).weaken fun _ _ => trivial
  refine (contract_when _ (fun _ => (contract_modulo splitFuse blockTokenNum).bind_value (hcheck _))
    (fun _ => trivial)).conseq ?_ ?_ (fun _ h => h)
  · exact ⟨fun h hsplits => (h hsplits).1, fun h hsplits => ⟨h hsplits, fun _ => trivial⟩⟩
  · exact fun _ => ⟨fun h hsplits => (h hsplits).2, fun h hsplits => ⟨trivial, h hsplits⟩⟩

theorem readBlocks_splitFuse (h : SchedulerRead platform yaml model start parser) :
    (readBlocks platform yaml model parser).batchSchedulerConfig.splitFuseTokenNum =
      if model.isVisual then 0 else splitFuseTokenNum yaml := by
  have hread : (readBlocks platform yaml model parser).batchSchedulerConfig.splitFuseTokenNum =
      if model.isVisual ∧ 0 < splitFuseTokenNum yaml then 0 else splitFuseTokenNum yaml := by
    rw [← h.splitFuse]
    rfl
  rw [hread]
  by_cases hvisual : model.isVisual
  · by_cases hpositive : 0 < splitFuseTokenNum yaml
    · rw [if_pos ⟨hvisual, hpositive⟩, if_pos hvisual]
    · rw [if_neg (fun hboth => hpositive hboth.2), if_pos hvisual]
      exact UInt64.le_zero_iff.mp (UInt64.not_lt.mp hpositive)
  · rw [if_neg (fun hboth => hvisual hboth.1), if_neg hvisual]

theorem splitsDsv4Prompts_iff (h : SchedulerRead platform yaml model start parser) :
    (model.useDsv4Attn ∧
      0 < (readBlocks platform yaml model parser).batchSchedulerConfig.splitFuseTokenNum) ↔
      SplitsDsv4Prompts yaml model := by
  unfold SplitsDsv4Prompts
  rw [readBlocks_splitFuse h]
  by_cases hvisual : model.isVisual
  · rw [if_pos hvisual]
    exact iff_of_false (fun h => UInt64.lt_irrefl 0 h.2) (fun h => h.2.1 hvisual)
  · rw [if_neg hvisual]
    exact ⟨fun h => ⟨h.1, hvisual, h.2⟩, fun h => ⟨h.1, h.2.2⟩⟩

/-- A chunk ends where a block ends. -/
def SplitFuseAccepted (yaml : YamlReader) (model : ModelConfig) : Prop :=
  SplitsDsv4Prompts yaml model → splitFuseTokenNum yaml % blockTokenNum yaml model = 0

theorem contract_parseBlocks (h : SchedulerRead platform yaml model start parser) :
    Contract (parseBlocks platform yaml model parser)
      (SplitsDsv4Prompts yaml model → blockTokenNum yaml model ≠ 0)
      (SplitFuseAccepted yaml model)
      (fun parser => Parsed platform yaml model start parser ∧
        parser.connectorConfig = start.connectorConfig) := by
  unfold parseBlocks
  refine ((contract_checkSplitFuse _ _).map_ok fun _ _ => ?_).conseq ?_ ?_ (fun _ h => h)
  · refine ⟨?_, h.connector⟩
    exact { h with
      blockManager := congrArg (readBlockManager yaml model) h.blockManager
      swaRatio := rfl
      flexible := rfl }
  · rw [splitsDsv4Prompts_iff h]
    exact Iff.rfl
  · intro _
    unfold SplitFuseAccepted
    rw [splitsDsv4Prompts_iff h]
    refine imp_congr_right fun hsplits => ?_
    rw [readBlocks_splitFuse h, if_neg hsplits.2.1]
    exact Iff.rfl

end Blocks

section MoeAllToAll

/-- DeepEP puts one rank in each data parallel group. -/
def MoeAccepted (platform : Platform) (yaml : YamlReader) : Prop :=
  ∃ mode, MoeAllToAllMode.ofString? (moeAllToAllMode yaml) (expertWorldSize yaml) = some mode ∧
    (mode ≠ .disabled → attnDataParaSize yaml = tensorParaSize platform yaml ∧
      enableFullSharedExpert yaml = true)

theorem contract_checkDeepEp (mode : MoeAllToAllMode) (tp dp : UInt64) (fullSharedExpert : Bool) :
    Contract (checkDeepEp mode tp dp fullSharedExpert) True
      (mode ≠ .disabled → dp = tp ∧ fullSharedExpert = true) (fun _ => True) := by
  unfold checkDeepEp
  have hmode : mode = .deepepNormal ∨ mode = .deepepLowLatency ↔ mode ≠ .disabled := by
    cases mode <;> decide
  refine (contract_when _ (fun _ => (contract_check _ _).bind_safe fun _ _ =>
    (contract_check _ _).weaken fun _ _ => trivial) (fun _ => trivial)).conseq
    (iff_true_intro fun _ => trivial) ?_ (fun _ h => h)
  intro _
  rw [hmode]

theorem contract_lowLatencyMaxTokens (mode : MoeAllToAllMode) (setting maxBatchSize : UInt64)
    {dp : UInt64} (hdp : dp ≠ 0) :
    Contract (lowLatencyMaxTokens mode setting maxBatchSize dp) True True (fun _ => True) := by
  unfold lowLatencyMaxTokens
  refine (contract_when _ (fun _ => (contract_divide maxBatchSize dp).map_ok fun _ _ => trivial)
    (fun _ => trivial)).conseq ?_ ?_ (fun _ h => h)
  · exact iff_true_intro fun _ => hdp
  · exact fun _ => iff_true_intro fun _ => trivial

theorem contract_parseMoeAllToAll (h : Parsed platform yaml model start parser)
    (hconnector : parser.connectorConfig = start.connectorConfig) :
    Contract (parseMoeAllToAll yaml parser) True (MoeAccepted platform yaml)
      (fun parser => Parsed platform yaml model start parser ∧
        parser.connectorConfig = start.connectorConfig) := by
  unfold parseMoeAllToAll
  have hdp : parser.runtimeConfig.parallelBasicConfig.attnDataParallelSize ≠ 0 := by
    rw [h.attnDataParallel]
    exact UInt64.pos_iff_ne_zero.mp h.accepted.positive.2
  refine ((contract_orRaise _ _).bind_safe fun mode hmode =>
    (?_ : Contract _ True (MoeAccepted platform yaml) _)).conseq Iff.rfl ?_ (fun _ h => h)
  · have hsome : MoeAllToAllMode.ofString? (moeAllToAllMode yaml) (expertWorldSize yaml) =
        some mode := by
      rw [← h.expertWorld]
      exact hmode
    refine ((contract_checkDeepEp _ _ _ _).bind_safe fun _ _ =>
      (contract_lowLatencyMaxTokens mode _ _ hdp).map_ok fun _ _ => ?_).conseq Iff.rfl ?_
      (fun _ h => h)
    · exact ⟨{ h with }, hconnector⟩
    · intro _
      rw [h.tensorParallel, h.attnDataParallel, h.fullSharedExpert, and_true]
      constructor
      · exact fun hranks => ⟨mode, hsome, hranks⟩
      · intro haccepts
        obtain ⟨mode', hsome', hranks⟩ := haccepts
        obtain rfl := Option.some.inj (hsome'.symm.trans hsome)
        exact hranks
  · intro _
    rw [h.expertWorld]
    refine ⟨And.right, fun haccepts => ⟨?_, haccepts⟩⟩
    obtain ⟨mode, hsome, -⟩ := haccepts
    rw [hsome, Option.isSome_some]

end MoeAllToAll

section Connector

/-- What a connector with a role has to pass. -/
structure RoleAccepted (yaml : YamlReader) (role : GroupRole) : Prop where
  eventDriven : ¬(isPdV2 yaml ∧ schedulerType yaml ≠ .eventDriven)
  oneRole : ¬(isPdV2 yaml ∧ role = .both)
  chunkSize : ¬transferLayerChunkSize yaml < 0

def ConnectorAccepted (platform : Platform) (yaml : YamlReader) : Prop :=
  groupRoleString platform yaml ≠ "none" →
    GroupRole.ofString (groupRoleString platform yaml) ≠ .none →
      RoleAccepted yaml (GroupRole.ofString (groupRoleString platform yaml))

theorem contract_checkConnector (role : GroupRole) :
    Contract (checkConnector (schedulerType yaml) role (isPdV2 yaml)
      (transferLayerChunkSize yaml)) True (RoleAccepted yaml role)
      (fun _ => RoleAccepted yaml role) := by
  unfold checkConnector
  refine ((contract_raiseIf _ _).bind_safe fun _ hevent => (contract_raiseIf _ _).bind_safe
    fun _ hone => (contract_raiseIf _ _).weaken fun _ hchunk => ⟨hevent, hone, hchunk⟩).conseq
    Iff.rfl ?_ (fun _ h => h)
  exact fun _ => ⟨fun h => ⟨h.1, h.2.1, h.2.2⟩, fun h => ⟨h.eventDriven, h.oneRole, h.chunkSize⟩⟩

/-- The role a file gives; a file without one leaves the role as it was. -/
def connectorRole (platform : Platform) (yaml : YamlReader) (role : GroupRole) : GroupRole :=
  if groupRoleString platform yaml = "none" then role
  else GroupRole.ofString (groupRoleString platform yaml)

theorem contract_initConnectorConfig (h : Parsed platform yaml model start parser)
    (hconnector : parser.connectorConfig = start.connectorConfig) :
    Contract (initConnectorConfig platform yaml parser) True (ConnectorAccepted platform yaml)
      (fun parser => Parsed platform yaml model start parser ∧
        parser.connectorConfig.groupRole =
          connectorRole platform yaml start.connectorConfig.groupRole) := by
  unfold initConnectorConfig connectorRole
  rw [h.scheduler]
  refine (contract_unless _ (fun hnone => ?_) (fun hset => contract_unless _ (fun _ => ?_)
    (fun _ => (contract_checkConnector _).map_ok fun _ _ => ?_))).conseq
    (iff_true_intro fun _ _ => trivial) (fun _ => Iff.rfl) (fun _ h => h)
  · rw [if_pos hnone, hconnector]
    exact ⟨h, rfl⟩
  · rw [if_neg hset]
    exact ⟨{ h with }, rfl⟩
  · rw [if_neg hset]
    exact ⟨{ h with }, rfl⟩

end Connector

section ParseScheduleConfig

/-- Every check of the parser, in its order. -/
structure ParseAccepted (platform : Platform) (yaml : YamlReader) (model : ModelConfig) :
    Prop where
  parallel : ParallelSizesAccepted platform (tensorParaSize platform yaml) (attnDataParaSize yaml)
  batches : 0 < maxPpBatchNum yaml
  oProj : OProjAccepted platform yaml
  splitFuse : SplitFuseAccepted yaml model
  moe : MoeAccepted platform yaml
  connector : ConnectorAccepted platform yaml

/-- A block of no tokens is a divisor only where the checks before it pass. -/
structure ParseSafe (platform : Platform) (yaml : YamlReader) (model : ModelConfig) : Prop where
  dataGroups : attnDataParaSize yaml ≠ 0
  splitFuse :
    ParallelSizesAccepted platform (tensorParaSize platform yaml) (attnDataParaSize yaml) →
      0 < maxPpBatchNum yaml → OProjAccepted platform yaml → SplitsDsv4Prompts yaml model →
        model.useMla ∨ yaml.getSize "setting.block_manager.block_token_num" 16 ≠ 0

theorem contract_parseScheduleConfig :
    Contract (parseScheduleConfig platform yaml model start) (ParseSafe platform yaml model)
      (ParseAccepted platform yaml model)
      (fun parser => Parsed platform yaml model start parser ∧
        parser.connectorConfig.groupRole =
          connectorRole platform yaml start.connectorConfig.groupRole) := by
  unfold parseScheduleConfig
  refine (contract_parseParallelSizes.bind fun _ h => (contract_parseBatchScheduler h.1 h.2).bind
    fun _ h => (contract_parseOProjOutOfDp h).bind fun _ h => (contract_parseBlocks h).bind
    fun _ h => (contract_parseMoeAllToAll h.1 h.2).bind_safe fun _ h =>
    (contract_initConnectorConfig h.1 h.2).map_ok fun _ h => ?_).conseq ?_ ?_ (fun _ h => h)
  · exact ⟨{ h.1 with }, h.2⟩
  · rw [blockTokenNum_ne_zero_iff]
    constructor
    · intro hsafe
      exact ⟨hsafe.1, fun hparallel hbatches hproj hsplits =>
        (((hsafe.2 hparallel).2 hbatches).2 hproj).1 hsplits⟩
    · intro hsafe
      exact ⟨hsafe.dataGroups, fun hparallel => ⟨trivial, fun hbatches => ⟨trivial, fun hproj =>
        ⟨hsafe.splitFuse hparallel hbatches hproj, fun _ => trivial⟩⟩⟩⟩
  · intro _
    constructor
    · intro haccepts
      obtain ⟨hparallel, hbatches, hproj, hsplit, hmoe, hconnector⟩ := haccepts
      exact ⟨hparallel, hbatches, hproj, hsplit, hmoe, hconnector⟩
    · intro h
      exact ⟨h.parallel, h.batches, h.oProj, h.splitFuse, h.moe, h.connector⟩

theorem parseScheduleConfig_ne_trapped_iff :
    parseScheduleConfig platform yaml model start ≠ .error .trapped ↔
      ParseSafe platform yaml model := contract_parseScheduleConfig.trapsUnless

/-- A remainder by zero is the dividend, so an accepted file has none of the zeros. -/
theorem ParseAccepted.safe (h : ParseAccepted platform yaml model) :
    ParseSafe platform yaml model where
  dataGroups := UInt64.pos_iff_ne_zero.mp h.parallel.positive.2
  splitFuse := by
    intro _ _ _ hsplits
    refine blockTokenNum_ne_zero_iff.mp fun hzero => ?_
    have hrest := h.splitFuse hsplits
    rw [hzero, UInt64.mod_zero] at hrest
    exact UInt64.pos_iff_ne_zero.mp hsplits.2.2 hrest

theorem parseScheduleConfig_returns_iff :
    (∃ parser, parseScheduleConfig platform yaml model start = .ok parser) ↔
      ParseAccepted platform yaml model := by
  rw [contract_parseScheduleConfig.returns_iff]
  exact ⟨And.right, fun h => ⟨h.safe, h⟩⟩

end ParseScheduleConfig

end KsanaBuildAhead.Configure
