import ClusterScaling.Fault
import ClusterScaling.Settings

/-!
# Spreading secondaries over zones

Secondaries are spread over zones so that the loss of one zone costs as
few of them as possible. Every zone gets its floor first, or an equal
share if there are too few replicas for that, and the rest is handed out
one at a time to the zone that has the least. Among zones that have
equally few the most preferred one is served, so a plan depends on
nothing but the settings and the total.

A plan is always made. What had to be relaxed to make it is reported
beside it.
-/

namespace ClusterScaling

/-- How many replicas each zone has. -/
abbrev ZonePlan := Table UInt32

namespace ZonePlan

/-- The counts of the zones. -/
def counts (p : ZonePlan) : List Nat := p.values.map UInt32.toNat

/-- How many replicas all zones have together. -/
def total (p : ZonePlan) : Nat := p.counts.foldr (· + ·) 0

/-- How far the fullest and the emptiest zone are apart. -/
def skew (p : ZonePlan) : Nat := p.counts.max?.getD 0 - p.counts.min?.getD 0

/-- A plan in a document. -/
def decode : Document → Document.Decoded ZonePlan := Document.asTable Document.asCount

/-- A plan as a document. -/
def encode (p : ZonePlan) : Document := Document.ofTable Document.ofCount p

end ZonePlan

/-- A plan and what had to be relaxed to make it. -/
structure PlanOutcome where
  /-- The plan. -/
  plan : ZonePlan
  /-- What had to be relaxed. -/
  notes : List Fault

namespace PlanOutcome

/-- Whether nothing had to be relaxed. -/
def isFeasible (o : PlanOutcome) : Bool := o.notes.isEmpty

end PlanOutcome

namespace ZoneSettings

/-- The distinct zones in the order in which they are served: the
preferred ones first, then the others as they are listed. -/
def ranked (z : ZoneSettings) : List String :=
  ((z.preference.filter fun p => p ∈ z.zones) ++ z.zones).eraseDups

/-- One more for the first of the least counts. -/
def addToLeast (counts : List Nat) : List Nat :=
  match counts.min? with
  | some least => go least counts
  | none => []
where
  /-- One more for the first count that equals the least one. -/
  go (least : Nat) : List Nat → List Nat
    | [] => []
    | c :: cs => if c = least then (c + 1) :: cs else c :: go least cs

/-- Hands out replicas one at a time. -/
def handOut : Nat → List Nat → List Nat
  | 0, counts => counts
  | n + 1, counts => handOut n (addToLeast counts)

/-- What all zones should have together at least, as far as counts go. -/
def leastTotal (z : ZoneSettings) (zones : Nat) : Nat :=
  min (z.floor.toNat * zones) (UInt32.size - 1)

/-- What every zone gets before the rest is handed out. -/
def share (z : ZoneSettings) (zones total : Nat) : Nat :=
  if total < z.leastTotal zones then total / zones else z.floor.toNat

/-- The counts of the ranked zones. -/
def spread (z : ZoneSettings) (zones total : Nat) : List Nat :=
  let share := z.share zones total
  handOut (total - share * zones) (List.replicate zones share)

/-- A plan for a count of replicas. -/
def plan (z : ZoneSettings) (total : UInt32) : PlanOutcome :=
  if z.zones.isEmpty then ⟨.empty, [.infeasibleZones "no zones configured"]⟩
  else
    let ranked := z.ranked
    let zones := ranked.length
    let n := total.toNat
    let plan := Table.ofList (ranked.zip ((z.spread zones n).map UInt32.ofNat))
    let relaxed :=
      if n < z.leastTotal zones then
        [Fault.infeasibleZones (toString n ++ " replicas cannot give " ++ toString zones ++
          " zones " ++ toString z.floor.toNat ++ " each; relaxed to " ++ toString (n / zones) ++
          " per zone")]
      else []
    let skewed :=
      if z.maxSkew.toNat < ZonePlan.skew plan then
        [Fault.infeasibleZones (toString n ++ " replicas over " ++ toString zones ++
          " zones leaves skew " ++ toString (ZonePlan.skew plan) ++ ", above maximum " ++
          toString z.maxSkew.toNat)]
      else []
    ⟨plan, relaxed ++ skewed⟩

end ZoneSettings

end ClusterScaling
