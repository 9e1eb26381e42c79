import SystemScope.Components.Exchange
import SystemScope.Components.Ticker
import SystemScope.Contracts.Calls
import SystemScope.Contracts.Canonical
import SystemScope.Contracts.CanonicalLaws
import SystemScope.Contracts.Draws
import SystemScope.Contracts.Embedding
import SystemScope.Contracts.Histories
import SystemScope.Contracts.Interface
import SystemScope.Contracts.SnapshotData
import SystemScope.Contracts.Types
import SystemScope.Elf.ExecTable
import SystemScope.Elf.Parse
import SystemScope.Elf.TableCodec
import SystemScope.Elf.User
import SystemScope.Elf.UserImage
import SystemScope.Elf.UserPrefix
import SystemScope.Framework.BinaryHeap
import SystemScope.Framework.Blake3
import SystemScope.Framework.ByteMap
import SystemScope.Framework.Checks
import SystemScope.Framework.Codec
import SystemScope.Framework.ExactCodec
import SystemScope.Framework.Integers
import SystemScope.Framework.LevelLine
import SystemScope.Framework.PartialCodec
import SystemScope.Framework.Refill
import SystemScope.Framework.RunQueue
import SystemScope.Framework.Runs
import SystemScope.Framework.SortedSet
import SystemScope.Framework.Soup
import SystemScope.Framework.SparseMap
import SystemScope.Os.Allocation
import SystemScope.Os.Board
import SystemScope.Os.BootFold
import SystemScope.Os.Config
import SystemScope.Os.Contents
import SystemScope.Os.ContextPreservation
import SystemScope.Os.Contexts
import SystemScope.Os.CopyWalk
import SystemScope.Os.Core
import SystemScope.Os.Creation
import SystemScope.Os.CreationBounds
import SystemScope.Os.DiskBoot
import SystemScope.Os.Drive
import SystemScope.Os.Engine
import SystemScope.Os.Entries
import SystemScope.Os.Execution
import SystemScope.Os.HeldEnter
import SystemScope.Os.Image
import SystemScope.Os.Isolation
import SystemScope.Os.Kernel
import SystemScope.Os.KernelRestore
import SystemScope.Os.KernelSnapshot
import SystemScope.Os.KernelSteps
import SystemScope.Os.Layout
import SystemScope.Os.Lives
import SystemScope.Os.Loader
import SystemScope.Os.Machine
import SystemScope.Os.Model
import SystemScope.Os.Operations
import SystemScope.Os.Ownership
import SystemScope.Os.PageTable
import SystemScope.Os.Pieces
import SystemScope.Os.Placement
import SystemScope.Os.ProcOp
import SystemScope.Os.Process
import SystemScope.Os.ProcessEvents
import SystemScope.Os.Runs
import SystemScope.Os.Scheduling
import SystemScope.Os.Shutdown
import SystemScope.Os.Sound
import SystemScope.Os.Space
import SystemScope.Os.Spaces
import SystemScope.Os.Stepping
import SystemScope.Os.Steps
import SystemScope.Os.Syscall
import SystemScope.Os.Table
import SystemScope.Os.Transfers
import SystemScope.Os.TrapFrame
import SystemScope.Os.UserPlan
import SystemScope.Os.UserWalk
import SystemScope.Os.Walk
import SystemScope.Os.World
import SystemScope.Os.Write
import SystemScope.Platform.Access
import SystemScope.Platform.AddressBus
import SystemScope.Platform.AddressDecoding
import SystemScope.Platform.AddressDelivery
import SystemScope.Platform.AddressNet
import SystemScope.Platform.AddressRestore
import SystemScope.Platform.BusConfig
import SystemScope.Platform.BusDelivery
import SystemScope.Platform.BusFairness
import SystemScope.Platform.BusOrder
import SystemScope.Platform.BusRoundTrip
import SystemScope.Platform.BusSteps
import SystemScope.Platform.BusWakeups
import SystemScope.Platform.Dma
import SystemScope.Platform.DmaEngine
import SystemScope.Platform.DmaExact
import SystemScope.Platform.DmaFailure
import SystemScope.Platform.DmaInvariant
import SystemScope.Platform.DmaPlan
import SystemScope.Platform.DmaRenaming
import SystemScope.Platform.DmaRestore
import SystemScope.Platform.DmaSafety
import SystemScope.Platform.DmaSystem
import SystemScope.Platform.DmaTransfer
import SystemScope.Platform.IrqController
import SystemScope.Platform.IrqSystem
import SystemScope.Platform.Media
import SystemScope.Platform.MultiMasterBus
import SystemScope.Platform.Ram
import SystemScope.Platform.RamHistories
import SystemScope.Platform.RamImage
import SystemScope.Platform.RamRefinement
import SystemScope.Platform.Storage
import SystemScope.Platform.StorageRestore
import SystemScope.Properties.Agreement
import SystemScope.Properties.Elaboration
import SystemScope.Properties.Faults
import SystemScope.Properties.Links
import SystemScope.Properties.Network
import SystemScope.Properties.Observation
import SystemScope.Properties.ObservePoints
import SystemScope.Properties.Restoration
import SystemScope.Properties.Routing
import SystemScope.Properties.SchedulerInvariant
import SystemScope.Properties.SchedulerRefinement
import SystemScope.Properties.SchedulerRestore
import SystemScope.Properties.SchedulerSnapshot
import SystemScope.Properties.SnapshotCodec
import SystemScope.Properties.Sound
import SystemScope.Properties.Steps
import SystemScope.Properties.Streams
import SystemScope.Properties.Wiring
import SystemScope.Runtime.Context
import SystemScope.Runtime.Export
import SystemScope.Runtime.Rng
import SystemScope.Runtime.Run
import SystemScope.Runtime.Scheduler
import SystemScope.Runtime.Session
import SystemScope.Runtime.Snapshot
import SystemScope.Runtime.Topology
import SystemScope.Runtime.Trace
import SystemScope.Rv32i.Atomic
import SystemScope.Rv32i.Coherence
import SystemScope.Rv32i.CommitTrace
import SystemScope.Rv32i.Confinement
import SystemScope.Rv32i.Conservative
import SystemScope.Rv32i.Cpu
import SystemScope.Rv32i.CpuSnapshot
import SystemScope.Rv32i.Csr
import SystemScope.Rv32i.CsrLaws
import SystemScope.Rv32i.Decode
import SystemScope.Rv32i.DecodeInverse
import SystemScope.Rv32i.Execute
import SystemScope.Rv32i.Invariant
import SystemScope.Rv32i.Meaning
import SystemScope.Rv32i.Memory
import SystemScope.Rv32i.Outcomes
import SystemScope.Rv32i.Privilege
import SystemScope.Rv32i.Protocol
import SystemScope.Rv32i.Reachable
import SystemScope.Rv32i.Refinement
import SystemScope.Rv32i.Restoring
import SystemScope.Rv32i.RoundTrip
import SystemScope.Rv32i.Simulation
import SystemScope.Rv32i.Sv32
import SystemScope.Rv32i.Transitions
import SystemScope.Rv32i.Translation
import SystemScope.Rv32i.WalkSpec
import SystemScope.Toy.Bus
import SystemScope.Toy.Cpu
import SystemScope.Toy.Deliveries
import SystemScope.Toy.Dma
import SystemScope.Toy.Memory
import SystemScope.Toy.Network
import SystemScope.Toy.Snapshots
import SystemScope.Toy.Soc
import SystemScope.Toy.Steps
import SystemScope.Toy.Tickets
