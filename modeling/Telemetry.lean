import Telemetry.Events.Description
import Telemetry.Events.Session
import Telemetry.Json.Reader
import Telemetry.Main
import Telemetry.Proofs.Config.Override
import Telemetry.Proofs.Config.Roundtrip
import Telemetry.Proofs.Dict
import Telemetry.Proofs.Double.Arithmetic
import Telemetry.Proofs.Double.Comparison
import Telemetry.Proofs.Double.Finite
import Telemetry.Proofs.Double.Rounding
import Telemetry.Proofs.Double.Signs
import Telemetry.Proofs.Events.Accounts
import Telemetry.Proofs.Events.Arrival
import Telemetry.Proofs.Events.Backlog
import Telemetry.Proofs.Events.Calm
import Telemetry.Proofs.Events.Changes
import Telemetry.Proofs.Events.Conservation
import Telemetry.Proofs.Events.Contents
import Telemetry.Proofs.Events.Custody
import Telemetry.Proofs.Events.Directives
import Telemetry.Proofs.Events.Errands
import Telemetry.Proofs.Events.History
import Telemetry.Proofs.Events.Isolation
import Telemetry.Proofs.Events.Ledger
import Telemetry.Proofs.Events.Lossless
import Telemetry.Proofs.Events.Memo
import Telemetry.Proofs.Events.Milestones
import Telemetry.Proofs.Events.Names
import Telemetry.Proofs.Events.Offered
import Telemetry.Proofs.Events.Orderly
import Telemetry.Proofs.Events.OrdinaryHarvest
import Telemetry.Proofs.Events.Outside
import Telemetry.Proofs.Events.Owing
import Telemetry.Proofs.Events.Ownership
import Telemetry.Proofs.Events.Performing
import Telemetry.Proofs.Events.Period
import Telemetry.Proofs.Events.Precedence
import Telemetry.Proofs.Events.Precheck
import Telemetry.Proofs.Events.Reached
import Telemetry.Proofs.Events.Reentry
import Telemetry.Proofs.Events.Revival
import Telemetry.Proofs.Events.Run
import Telemetry.Proofs.Events.Service
import Telemetry.Proofs.Events.Serving
import Telemetry.Proofs.Events.Store
import Telemetry.Proofs.Events.Survivors
import Telemetry.Proofs.Events.SyntheticHarvest
import Telemetry.Proofs.Events.Termination
import Telemetry.Proofs.Events.Thrift
import Telemetry.Proofs.Events.Transmitter
import Telemetry.Proofs.Events.Transparency
import Telemetry.Proofs.Json.OneLine
import Telemetry.Proofs.Json.Prune
import Telemetry.Proofs.Json.Reading
import Telemetry.Proofs.Random.Source
import Telemetry.Proofs.Sampling.Adaptive
import Telemetry.Proofs.Sampling.Arrangement
import Telemetry.Proofs.Sampling.Fleet
import Telemetry.Proofs.Sampling.Heap
import Telemetry.Proofs.Sampling.Merging
import Telemetry.Proofs.Sampling.Offering
import Telemetry.Proofs.Sampling.Priority
import Telemetry.Proofs.Sampling.Reservoir
import Telemetry.Proofs.Sampling.Selection
import Telemetry.Proofs.Sampling.Stream
import Telemetry.Proofs.Sampling.Survival
import Telemetry.Proofs.Simulation.Delivery
import Telemetry.Proofs.Simulation.Line
import Telemetry.Proofs.Simulation.Load
