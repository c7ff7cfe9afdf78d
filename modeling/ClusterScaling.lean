import ClusterScaling.Decimal.Shortest
import ClusterScaling.Decision
import ClusterScaling.Json.Reader
import ClusterScaling.Metric.Target
import ClusterScaling.Reading
import ClusterScaling.Settings
import ClusterScaling.Json.Writer
import ClusterScaling.Band
import ClusterScaling.History
import ClusterScaling.Settings.Validity
import ClusterScaling.Breaker
import ClusterScaling.Exposition
import ClusterScaling.StepLimit
import ClusterScaling.Zones
import ClusterScaling.Advice
import ClusterScaling.Cycle
import ClusterScaling.Http.Exchange
import ClusterScaling.Probe
import ClusterScaling.Adviser
import ClusterScaling.Settings.File
import ClusterScaling.Cancellation
import ClusterScaling.Collector
import ClusterScaling.Fleet
import ClusterScaling.Scene
import ClusterScaling.Rehearsal
import ClusterScaling.Series
import ClusterScaling.Proofs.Quorum.Guard
import ClusterScaling.Proofs.Cycle.Primaries
import ClusterScaling.Proofs.History.Recall
import ClusterScaling.Proofs.Series.Memory
import ClusterScaling.Proofs.Series.Cooldown
import ClusterScaling.Proofs.Cycle.Secondaries
import ClusterScaling.Proofs.Cycle.Retention
import ClusterScaling.Proofs.Series.Stabilization
import ClusterScaling.Proofs.Fleet.Transition
import ClusterScaling.Proofs.Fleet.Orderly
import ClusterScaling.Proofs.Fleet.Serial
import ClusterScaling.Proofs.Collector.Log
import ClusterScaling.Proofs.Collector.Memory
import ClusterScaling.Proofs.Collector.Freshness
import ClusterScaling.Proofs.Collector.Queue
import ClusterScaling.Proofs.Collector.SingleFlight
import ClusterScaling.Proofs.Collector.Cancelling
import ClusterScaling.Proofs.Fleet.Commit
import ClusterScaling.Proofs.Zones.Spread
import ClusterScaling.Proofs.StepLimit.Allowance
import ClusterScaling.Proofs.Cycle.Landing
import ClusterScaling.Proofs.Series.Budget
import ClusterScaling.Proofs.Averaging.Mean
import ClusterScaling.Proofs.Averaging.Readings
import ClusterScaling.Proofs.Probe.Identity
import ClusterScaling.Proofs.Probe.Reports
import ClusterScaling.Proofs.Collector.Gathering
import ClusterScaling.Proofs.Collector.OwnQuery
import ClusterScaling.Proofs.Cycle.LookBack
import ClusterScaling.Proofs.Series.Pruning
import ClusterScaling.Proofs.Fleet.Figures
import ClusterScaling.Proofs.Cycle.Unadvised
import ClusterScaling.Proofs.Fleet.Unheard
import ClusterScaling.Proofs.Collector.Circuits
import ClusterScaling.Proofs.Collector.Calls
import ClusterScaling.Proofs.Collector.Isolation
import ClusterScaling.Proofs.Fleet.Part
import ClusterScaling.Proofs.Fleet.Isolation
import ClusterScaling.Proofs.Breaker.Spells
import ClusterScaling.Proofs.Quorum.Contract
import ClusterScaling.Proofs.Cycle.SecondPass
import ClusterScaling.Proofs.Cycle.Exceptions
import ClusterScaling.Proofs.Cycle.Settled
import ClusterScaling.Proofs.Fleet.Counts
import ClusterScaling.Proofs.Double.Product
import ClusterScaling.Proofs.Double.Order
import ClusterScaling.Proofs.Double.Bounds
import ClusterScaling.Proofs.Proposal.Conservative
import ClusterScaling.Proofs.Duration.Saved
import ClusterScaling.Proofs.Document.Decoding
import ClusterScaling.Proofs.Toml.Restored
import ClusterScaling.Proofs.Settings.Recovered
import ClusterScaling.Proofs.Settings.Saved
import ClusterScaling.Proofs.Breaker.Shield
import ClusterScaling.Proofs.Collector.Skipping
import ClusterScaling.Proofs.Collector.Degradation
import ClusterScaling.Proofs.Series.Outside
import ClusterScaling.Proofs.Quorum.Order
import ClusterScaling.Proofs.StepLimit.Reach
import ClusterScaling.Proofs.StepLimit.Forgetting
import ClusterScaling.Proofs.Zones.Ranks
import ClusterScaling.Proofs.Averaging.Order
import ClusterScaling.Proofs.Averaging.Exact
import ClusterScaling.Proofs.Quorum.Agreement
import ClusterScaling.Proofs.Settings.Acceptance
import ClusterScaling.Proofs.Double.Quotient
import ClusterScaling.Proofs.Proposal.Confidence
import ClusterScaling.Proofs.Fleet.Confidence
import ClusterScaling.Proofs.Double.Exact
import ClusterScaling.Proofs.Proposal.Monotone
import ClusterScaling.Proofs.Proposal.Position
import ClusterScaling.Proofs.Decimal.Written
import ClusterScaling.Proofs.Exposition.Format
import ClusterScaling.Proofs.Exposition.Decodable
import ClusterScaling.Proofs.Probe.Repeated
import ClusterScaling.Proofs.Text.Percent
import ClusterScaling.Proofs.Http.Parameters
import ClusterScaling.Proofs.History.Stored
import ClusterScaling.Proofs.Load.Scored
import ClusterScaling.Proofs.StepLimit.Words
import ClusterScaling.Proofs.Load.Filled
import ClusterScaling.Proofs.Breaker.Fields
import ClusterScaling.Proofs.Collector.Progress
import ClusterScaling.Proofs.Fleet.Progress
