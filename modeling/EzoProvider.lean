import EzoProvider.Bus.Completion
import EzoProvider.Bus.Executions
import EzoProvider.Bus.Executor
import EzoProvider.Bus.ExecutorInvariants
import EzoProvider.Bus.Guarantees
import EzoProvider.Bus.Metrics
import EzoProvider.Bus.Promises
import EzoProvider.Bus.Status
import EzoProvider.Bus.Submissions
import EzoProvider.Bus.Turns
import EzoProvider.Devices.Adapters
import EzoProvider.Devices.CannedBus
import EzoProvider.Devices.CommandTraces
import EzoProvider.Devices.CompensationSpecs
import EzoProvider.Devices.Driver
import EzoProvider.Devices.Probe
import EzoProvider.Devices.ProbeInvariants
import EzoProvider.Devices.ResponseReads
import EzoProvider.Devices.Rounding
import EzoProvider.Devices.SampleHelpers
import EzoProvider.Devices.Successes
import EzoProvider.Devices.Types
import EzoProvider.Devices.Waits
import EzoProvider.Devices.WriteTraces
import EzoProvider.Interaction.CheckedLoop
import EzoProvider.Interaction.Cost
import EzoProvider.Interaction.Environment
import EzoProvider.Interaction.Parts
import EzoProvider.Interaction.Program
import EzoProvider.Interaction.Protocol
import EzoProvider.Interaction.Register
import EzoProvider.Interaction.Simulation
import EzoProvider.Interaction.Streaks
import EzoProvider.Interaction.Termination
import EzoProvider.Interaction.Transition
import EzoProvider.Interaction.Typestate
import EzoProvider.Runtime.AccessorDefaults
import EzoProvider.Runtime.Arguments
import EzoProvider.Runtime.CachedLevel
import EzoProvider.Runtime.Cadence
import EzoProvider.Runtime.CadenceWarnings
import EzoProvider.Runtime.CalibratedCompensation
import EzoProvider.Runtime.CalibrationRestore
import EzoProvider.Runtime.CalibrationTraces
import EzoProvider.Runtime.CallCounts
import EzoProvider.Runtime.CallRuns
import EzoProvider.Runtime.CalledCompensation
import EzoProvider.Runtime.CallerStages
import EzoProvider.Runtime.Calls
import EzoProvider.Runtime.CannedProvider
import EzoProvider.Runtime.CannedThreads
import EzoProvider.Runtime.Capabilities
import EzoProvider.Runtime.CheckSpecs
import EzoProvider.Runtime.ClockDecisions
import EzoProvider.Runtime.CompensationOrder
import EzoProvider.Runtime.CompensationRounds
import EzoProvider.Runtime.CompensationWrites
import EzoProvider.Runtime.Completion
import EzoProvider.Runtime.Config
import EzoProvider.Runtime.Conformance
import EzoProvider.Runtime.ControlJob
import EzoProvider.Runtime.CopiedCompensation
import EzoProvider.Runtime.Deadlines
import EzoProvider.Runtime.DoCalibration
import EzoProvider.Runtime.Health
import EzoProvider.Runtime.Inventory
import EzoProvider.Runtime.JobCommands
import EzoProvider.Runtime.JobOutcomes
import EzoProvider.Runtime.LevelSpecs
import EzoProvider.Runtime.LineInvariants
import EzoProvider.Runtime.MachineWidths
import EzoProvider.Runtime.OneCaller
import EzoProvider.Runtime.Operations
import EzoProvider.Runtime.Provider
import EzoProvider.Runtime.Publication
import EzoProvider.Runtime.ReadJobs
import EzoProvider.Runtime.ReadResults
import EzoProvider.Runtime.ReadingOrder
import EzoProvider.Runtime.Reads
import EzoProvider.Runtime.Reapplications
import EzoProvider.Runtime.Refreshes
import EzoProvider.Runtime.RestoreRecovery
import EzoProvider.Runtime.RevertedProbe
import EzoProvider.Runtime.RoundSpecs
import EzoProvider.Runtime.Rounds
import EzoProvider.Runtime.Routine
import EzoProvider.Runtime.SettledCompensation
import EzoProvider.Runtime.SlotStates
import EzoProvider.Runtime.Slots
import EzoProvider.Runtime.Soundness
import EzoProvider.Runtime.Startup
import EzoProvider.Runtime.StartupIndependence
import EzoProvider.Runtime.StartupSpecs
import EzoProvider.Runtime.State
import EzoProvider.Runtime.SuppliedArguments
import EzoProvider.Runtime.ThreadInvariants
import EzoProvider.Runtime.Threads
import EzoProvider.Runtime.TimedStartup
import EzoProvider.Runtime.Timeline
import EzoProvider.Runtime.World
