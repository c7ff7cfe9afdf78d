import ClusterScaling.Fault
import ClusterScaling.Reading

/-!
# From the reports of sources to a snapshot

Several members of a tier report the same fields, so the reading of a
field is the mean of what was reported for it. Sums of doubles depend on
their order and sources answer in any order, so the reports are sorted by
the identities of their sources first. One tier never contributes to the
other.

A snapshot is taken from whatever has arrived. It is degraded if some
source failed, and there is none at all if a tier was asked and no source
of it succeeded.
-/

namespace ClusterScaling

/-- What a source reports. -/
abbrev Report := List (Field × Float)

/-- A source of metrics as far as its collection is concerned. -/
structure SourceRef where
  /-- The identity of the source. -/
  id : String
  /-- The tier that it reports on. -/
  tier : Tier
  deriving DecidableEq, Repr

/-- What became of asking a source. -/
structure SourceOutcome where
  /-- The source. -/
  source : SourceRef
  /-- What it reported, or why it did not. -/
  result : Except Fault Report

namespace SourceOutcome

/-- Whether the source reported. -/
def succeeded (o : SourceOutcome) : Bool :=
  match o.result with
  | .ok _ => true
  | .error _ => false

/-- What the source reported; nothing if it failed. -/
def report (o : SourceOutcome) : Report :=
  match o.result with
  | .ok r => r
  | .error _ => []

/-- Outcomes in the order of the identities of their sources. -/
def sorted (os : List SourceOutcome) : List SourceOutcome :=
  os.mergeSort fun a b => a.source.id ≤ b.source.id

end SourceOutcome

namespace Averaging

/-- What was reported on a tier, in the order of the outcomes. -/
def reports (os : List SourceOutcome) (tier : Tier) : Report :=
  (os.filter fun o => o.source.tier = tier).flatMap SourceOutcome.report

/-- The values of a field in a report. -/
def valuesOf (field : Field) (r : Report) : List Float :=
  (r.filter fun v => v.1 = field).map (·.2)

/-- The mean of numbers, summed up in their order. -/
def mean (xs : List Float) : Float :=
  xs.foldl (· + ·) 0.0 / (UInt64.ofNat xs.length).toFloat

/-- The readings of a tier on which a report was made: fresh exactly for the reported fields. -/
def readings (r : Report) : Readings :=
  (r.map (·.1)).foldl (fun m field => m.set field (.ofLive (mean (valuesOf field r)))) .absent

/-- A tier that was asked and from which no source reported. -/
def silentTier? (asked : List SourceRef) (os : List SourceOutcome) : Option Tier :=
  Tier.all.find? fun t =>
    asked.any (fun s => s.tier = t) && !os.any fun o => o.source.tier = t && o.succeeded

/-- The snapshot of the outcomes of the sources that were asked. -/
def snapshot (asked : List SourceRef) (outcomes : List SourceOutcome) (wall : UInt64) :
    Except Fault Snapshot :=
  let os := SourceOutcome.sorted outcomes
  match silentTier? asked os with
  | some tier => .error (.metricsUnavailable tier)
  | none =>
    .ok
      { tiers := .ofFun fun t => readings (reports os t)
        collectedAt := wall
        degraded := os.any fun o => !o.succeeded }

@[simp]
theorem reports_nil (tier : Tier) : reports [] tier = [] := rfl

end Averaging

end ClusterScaling
