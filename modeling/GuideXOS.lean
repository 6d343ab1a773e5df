import GuideXOS.Abi.HeapConservation
import GuideXOS.Decoder.SyscallWords
import GuideXOS.Manager.RestRouting
import GuideXOS.Storage.HostileFAT
import GuideXOS.Storage.HostileImage
import GuideXOS.Storage.IsoVolume
import GuideXOS.Abi.Mappings
import GuideXOS.Config.RoundTrip
import GuideXOS.Core.DataAccess
import GuideXOS.Core.DeviceRegistry
import GuideXOS.Core.PagedMemory
import GuideXOS.Core.RseView
import GuideXOS.Core.Watchpoints
import GuideXOS.Isa.CheckpointRestore
import GuideXOS.Isa.ControlFlow
import GuideXOS.Isa.EfiMapInvariant
import GuideXOS.Isa.ExecuteInstruction
import GuideXOS.Isa.ExitBootServices
import GuideXOS.Isa.EfiPlacement
import GuideXOS.Isa.FileHandles
import GuideXOS.Isa.SpeculativeLoads
import GuideXOS.Isa.FusedRounding
import GuideXOS.Isa.FileReads
import GuideXOS.Isa.ConsoleInput
import GuideXOS.Isa.IntervalTimer
import GuideXOS.Isa.OperandAliasing
import GuideXOS.Isa.ProtocolCalls
import GuideXOS.Isa.Resumption
import GuideXOS.Isa.Returns
import GuideXOS.Isa.ServiceDispatch
import GuideXOS.Isa.StateBytes
import GuideXOS.Loader.InitialStack
import GuideXOS.Loader.LoadExactness
import GuideXOS.Storage.PositionIndependence
import GuideXOS.Machine.BootAccounting
import GuideXOS.Machine.Running
import GuideXOS.Machine.DeviceWindows
import GuideXOS.Machine.DeviceSnapshots
import GuideXOS.Machine.TimerTicks
import GuideXOS.Machine.ConsoleText
import GuideXOS.Machine.MemoryBreakpoints
import GuideXOS.Manager.Snapshots
import GuideXOS.Storage.ByteAccess
import GuideXOS.Storage.ImageRoundTrip
import GuideXOS.Storage.PathCanonical
import GuideXOS.Vm.MemoryDeltas
import GuideXOS.Vm.SchedulerFairness
import GuideXOS.Vm.FirmwareTables
import GuideXOS.Vm.SnapshotChain
import GuideXOS.Decoder.BranchWords
import GuideXOS.RiscV.ByteStream
import GuideXOS.RiscV.DecodeAgreement
import GuideXOS.Lib.Loops
import GuideXOS.Storage.FATParser
