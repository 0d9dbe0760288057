import Rtos.Limits
import Rtos.Error
import Rtos.FlagSet
import Rtos.Counter
import Rtos.CharDevice
import Rtos.Task
import Rtos.EventBus
import Rtos.Port.Host
import Rtos.Scheduler
import Rtos.Kernel.Tasks
import Rtos.Kernel.Devices
import Rtos.Kernel.Mutex
import Rtos.System
import Rtos.Bench.Bus
import Rtos.Bench.Entities
import Rtos.Bench.Scheduler
import Rtos.Bench.Kernel
import Rtos.Kernel.CortexM4
import Rtos.Bench.CortexM4
import Rtos.Syscall
import Rtos.Bench.Contention
import Rtos.Simulation
import Rtos.Main
import Rtos.Proofs.Table
import Rtos.Proofs.Ring.Refinement
import Rtos.Proofs.Entity.References
import Rtos.Proofs.Entity.Ancestry
import Rtos.Proofs.Entity.Releases
import Rtos.Proofs.Entity.Toppling
import Rtos.Proofs.Entity.Clients
import Rtos.Proofs.Entity.Misuse
import Rtos.Proofs.EventBus.Pass
import Rtos.Proofs.Scheduler.Slots
import Rtos.Proofs.Kernel.Move
import Rtos.Proofs.Kernel.Sound
import Rtos.Proofs.Kernel.SoundMoves
import Rtos.Proofs.Kernel.Delivery
import Rtos.Proofs.Kernel.SlotStep
import Rtos.Proofs.Kernel.Passes
import Rtos.Proofs.Kernel.Operations
import Rtos.Proofs.Task.Reaping
import Rtos.Proofs.Kernel.Parking
import Rtos.Proofs.Kernel.Refusals
import Rtos.Proofs.Kernel.Devices
import Rtos.Proofs.Kernel.Locks
import Rtos.Proofs.Kernel.Tasks
import Rtos.Proofs.Kernel.Boot
import Rtos.Proofs.Kernel.Accounting
import Rtos.Proofs.Kernel.Families
import Rtos.Proofs.Kernel.Descent
import Rtos.Proofs.Kernel.Listeners
import Rtos.Proofs.System.Runs
import Rtos.Proofs.System.FifoLock
import Rtos.Proofs.System.MutexStep
import Rtos.Proofs.System.WaitQueues
import Rtos.Proofs.System.Coherence
import Rtos.Proofs.System.Resuming
import Rtos.Proofs.System.Locking
import Rtos.Proofs.Kernel.Waiting
import Rtos.Proofs.Kernel.Exit
import Rtos.Proofs.Port.Lawful
import Rtos.Proofs.Kernel.Stacks
import Rtos.Proofs.Kernel.Remains
import Rtos.Proofs.Kernel.Census
import Rtos.Proofs.Kernel.Supplies
import Rtos.Proofs.Kernel.Fit
import Rtos.Proofs.Kernel.TaskTable
import Rtos.Proofs.System.Scene
import Rtos.Proofs.Kernel.DeviceWaits
import Rtos.Proofs.System.Transfers
import Rtos.Proofs.System.Turns
import Rtos.Proofs.System.Reports
import Rtos.Proofs.Kernel.Totality
import Rtos.Proofs.Kernel.Endings
import Rtos.Proofs.System.Faultless
import Rtos.Proofs.System.Ledger
import Rtos.Proofs.System.Deliveries
import Rtos.Proofs.System.Refusals
import Rtos.Proofs.System.Listeners
import Rtos.Proofs.System.Headroom
import Rtos.Proofs.System.Remains
import Rtos.Proofs.System.Supplies
import Rtos.Proofs.System.Lineage
import Rtos.Proofs.System.StackPool
import Rtos.Proofs.Port.Services
import Rtos.Proofs.Kernel.Bodies
import Rtos.Proofs.Kernel.Processor
import Rtos.Proofs.Kernel.Deferral
import Rtos.Proofs.System.Sections
import Rtos.Proofs.Scheduler.RoundRobin
import Rtos.Proofs.System.Rounds
import Rtos.Proofs.System.Switching
import Rtos.Proofs.Port.Recording
import Rtos.Proofs.System.SwitchPaths
import Rtos.Proofs.EventBus.History
import Rtos.Proofs.EventBus.Conservation
import Rtos.Proofs.EventBus.Order
import Rtos.Proofs.System.Streams
import Rtos.Proofs.EventBus.Sequence
import Rtos.Proofs.EventBus.Subscriptions
import Rtos.Proofs.System.Sleeping
import Rtos.Proofs.Entity.Survivors
import Rtos.Proofs.Kernel.WakeUps
import Rtos.Proofs.Kernel.Outcome
import Rtos.Proofs.System.WakeUps
