import KsanaBuildAhead.Runtime.ScheduleOutputPool
import KsanaBuildAhead.Engine.AheadLaunch
import KsanaBuildAhead.Engine.SlowAccounting
import KsanaBuildAhead.Engine.CachedTokens
import KsanaBuildAhead.Engine.LaunchRetries
import KsanaBuildAhead.Engine.BalancedLoads
import KsanaBuildAhead.Executor.HostRingMap
import KsanaBuildAhead.Executor.MixedRepair
import KsanaBuildAhead.Executor.PartialDrafts
import KsanaBuildAhead.Executor.RepairBounds
import KsanaBuildAhead.Executor.OverlappedSteps
import KsanaBuildAhead.Executor.DoubleBuffer
import KsanaBuildAhead.Executor.SurplusThreads
import KsanaBuildAhead.Executor.SamplerAgreement
import KsanaBuildAhead.Executor.ResponseRows
import KsanaBuildAhead.Executor.InflightResource
import KsanaBuildAhead.Executor.NextNGather
import KsanaBuildAhead.Executor.NgramBans
import KsanaBuildAhead.Executor.SamplingBuffers
import KsanaBuildAhead.Executor.ImageMask
import KsanaBuildAhead.Executor.ReorderCanonical
import KsanaBuildAhead.Executor.AtbSlots
import KsanaBuildAhead.Engine.SplitPrefill
import KsanaBuildAhead.Engine.CheckedRun
import KsanaBuildAhead.Executor.ClosedLoop
import KsanaBuildAhead.Lib.WriteLog
import KsanaBuildAhead.Runtime.PacketSize
import KsanaBuildAhead.Lib.Traps
import KsanaBuildAhead.Configure.ScheduleConfig
import KsanaBuildAhead.Configure.ParseScheduleConfig
import KsanaBuildAhead.Configure.CalculateBlockNumber
import KsanaBuildAhead.Configure.ParseContracts
import KsanaBuildAhead.Configure.DivisionSafety
import KsanaBuildAhead.Configure.StartupGate
import KsanaBuildAhead.Executor.SerialThreads
import KsanaBuildAhead.Executor.DeviceLoop
import KsanaBuildAhead.Engine.SchedulerFront
import KsanaBuildAhead.Executor.CachedLoop
import KsanaBuildAhead.Executor.DpSlices
import KsanaBuildAhead.Executor.GrammarMasks
import KsanaBuildAhead.Lib.SeparatedRanges
import KsanaBuildAhead.Runtime.CacheHitStatus
import KsanaBuildAhead.Executor.PromptProbs
import KsanaBuildAhead.Executor.DisturbedSteps
