import CoreSteer.Inspection
import CoreSteer.Main
import CoreSteer.Metrics.Codec
import CoreSteer.Metrics.Published
import CoreSteer.Topology.Codec
import CoreSteer.Json.Writer
import CoreSteer.Proofs.Dispatch.Entries
import CoreSteer.Proofs.Dispatch.Lines
import CoreSteer.Proofs.Machine.Frame
import CoreSteer.Proofs.Dispatch.Drain
import CoreSteer.Proofs.Engine.Frame
import CoreSteer.Proofs.Engine.Calls
import CoreSteer.Proofs.Task.Table
import CoreSteer.Proofs.Engine.Conservation
import CoreSteer.Proofs.Simulation.Places
import CoreSteer.Proofs.Simulation.Moves
import CoreSteer.Proofs.Simulation.Runs
import CoreSteer.Proofs.Engine.Precedence
import CoreSteer.Proofs.Engine.Placements
import CoreSteer.Proofs.Engine.Occupancy
import CoreSteer.Proofs.Simulation.Conserving
import CoreSteer.Proofs.Engine.Findings
import CoreSteer.Proofs.Engine.Reports
import CoreSteer.Proofs.Engine.Verdicts
import CoreSteer.Proofs.Simulation.Replacements
import CoreSteer.Proofs.Engine.Kicks
import CoreSteer.Proofs.Simulation.Charge
import CoreSteer.Proofs.Simulation.Pace
import CoreSteer.Proofs.Simulation.Ending
import CoreSteer.Proofs.Simulation.Splitting
import CoreSteer.Proofs.Engine.Observers
import CoreSteer.Proofs.Engine.Tallies
import CoreSteer.Proofs.Engine.Attempts
import CoreSteer.Proofs.Engine.Timesheet
import CoreSteer.Proofs.Engine.Enqueueing
import CoreSteer.Proofs.Engine.Favour
import CoreSteer.Proofs.Engine.Tracking
import CoreSteer.Proofs.Engine.Bursts
import CoreSteer.Proofs.Profile.Layers
import CoreSteer.Proofs.Simulation.Reclaiming
import CoreSteer.Proofs.Engine.Shares
import CoreSteer.Proofs.Machine.IdleSearch
import CoreSteer.Proofs.Machine.Placing
import CoreSteer.Proofs.Engine.Gains
import CoreSteer.Proofs.Metrics.Intervals
import CoreSteer.Proofs.Machine.Traces
import CoreSteer.Proofs.Machine.Offloading
import CoreSteer.Proofs.Machine.Shielding
import CoreSteer.Proofs.Machine.Yielding
import CoreSteer.Proofs.Engine.Interrupting
import CoreSteer.Proofs.Engine.Heeding
import CoreSteer.Proofs.Machine.Sources
import CoreSteer.Proofs.Engine.Waits
import CoreSteer.Proofs.Engine.Metering
import CoreSteer.Proofs.Profile.Matching
import CoreSteer.Proofs.Profile.ReadingOrder
import CoreSteer.Proofs.Simulation.Stints
import CoreSteer.Proofs.Simulation.Spells
import CoreSteer.Proofs.Topology.Validation
import CoreSteer.Proofs.Topology.Siblings
import CoreSteer.Proofs.CpuMask.RangeList
import CoreSteer.Proofs.Gauge.Average
