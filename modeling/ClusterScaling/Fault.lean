import ClusterScaling.Tier

/-!
# Faults

What can go wrong while a cluster is observed and a decision is made. A
fault is a cause; its wording is fixed in `Fault.message`, because the
message of a fault becomes the reason of the decision that falls back to
doing nothing.
-/

namespace ClusterScaling

/-- A cause of failure. -/
inductive Fault where
  /-- Every source of a tier failed. -/
  | metricsUnavailable (tier : Tier)
  /-- A metric has a target that cannot be used. -/
  | invalidTarget (metric raw : String)
  /-- A removal of primaries would cost the quorum. -/
  | quorumVeto (detail : String)
  /-- The adviser did not answer in time. -/
  | adviserTimeout (limit : Duration)
  /-- The adviser could not be asked or did not answer properly. -/
  | adviser (detail : String)
  /-- The zones cannot be served as configured. -/
  | infeasibleZones (detail : String)
  /-- A source of metrics failed. -/
  | sourceFailed (source reason : String)
  /-- A source of metrics was not asked, because it kept failing. -/
  | circuitOpen (source : String)
  /-- The work was cancelled. -/
  | cancelled
  /-- The settings make no sense. -/
  | settings (detail : String)
  deriving DecidableEq

namespace Fault

/-- The wording of a fault. -/
def message : Fault → String
  | metricsUnavailable tier => "metrics unavailable for " ++ tier.name ++ ": every source failed"
  | invalidTarget metric raw => "invalid target " ++ Text.quoted raw ++ " for metric " ++ metric
  | quorumVeto detail => "quorum veto: " ++ detail
  | adviserTimeout limit => "webhook timed out after " ++ limit.display
  | adviser detail => "webhook error: " ++ detail
  | infeasibleZones detail => "zone plan infeasible: " ++ detail
  | sourceFailed source reason => "source " ++ source ++ " failed: " ++ reason
  | circuitOpen source => "circuit open for source " ++ source
  | cancelled => "reconciliation cancelled"
  | settings detail => "invalid configuration: " ++ detail

end Fault

end ClusterScaling
