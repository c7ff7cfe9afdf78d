import ClusterScaling.Advice
import ClusterScaling.Exposition
import ClusterScaling.Proposal
import ClusterScaling.StepLimit
import ClusterScaling.Zones

/-!
# One cycle of a cluster

A cycle turns what is known about a cluster at a moment into one decision
for each tier. Everything that has to be waited for, the readings and the
advice, is an argument here, so a cycle is made of functions. Before it
asks for advice it makes up its mind about each tier, `Cycle.draft`;
once it has been advised, or will not be, it decides, `Cycle.decide`.
`Cycle.outcome` is the whole of it, from what the cycle is told while it
lasts to its result.

Each tier starts from the proposal that wins, moved into its bounds. The
primaries then pass the quorum guard, the limits on steps, and the guard
once more, because a limited step may end at an even count. The
secondaries pass the limits and their bounds and are spread over zones.
Every stage that changes the target says so in the reason.

What is remembered of a cycle is computed here as well, by
`Cycle.remember` and `Cycle.record`, from its outcome alone. A cancelled
cycle decides nothing, so nothing is remembered of it.
-/

namespace ClusterScaling

/-- What is running now. -/
structure LiveState where
  /-- The live counts of both tiers. -/
  replicas : Replicas
  /-- How many primaries are healthy. -/
  healthy : UInt32
  deriving DecidableEq

/-- Everything that a cycle decides about a tier. -/
structure TierOutcome where
  /-- The tier. -/
  tier : Tier
  /-- What should be done. -/
  decision : Decision
  /-- What the engine proposed. -/
  internal : Decision
  /-- What the adviser proposed, if it did. -/
  advised : Option Decision
  /-- Whose proposal the decision started from. -/
  proposer : Proposer
  /-- What the quorum guard said, if it was asked. -/
  verdict : Option Verdict
  /-- How the replicas are spread, if they are. -/
  zonePlan : Option ZonePlan

/-- What a cycle has made up its mind about a tier before it is advised. -/
structure Draft where
  /-- What the engine proposes. -/
  internal : Decision
  /-- Whether the tier cools down. -/
  cooling : Bool

/-- What a cycle is told while it lasts. -/
inductive Told where
  /-- That it is cancelled. -/
  | cancelled
  /-- Why there are no readings. -/
  | unavailable (fault : Fault)
  /-- The readings, and what the adviser answers if it is asked. -/
  | readings (snapshot : Snapshot) (offered : Option Advice)

/-- The result of a cycle. -/
structure Outcome where
  /-- The key of the cluster. -/
  cluster : String
  /-- What was decided about each tier. -/
  tiers : PerTier TierOutcome
  /-- Whether some source did not contribute. -/
  degraded : Bool
  /-- Whether the cycle was cancelled. -/
  cancelled : Bool

namespace Cycle

/-- The outcome of a tier that stays as it is. -/
def holdTier (tier : Tier) (current : UInt32) (reason : String) (now : UInt64) : TierOutcome :=
  let d := Decision.stay current reason now
  ⟨tier, d, d, none, .engine, none, none⟩

/-- The outcome of a cycle in which both tiers stay as they are. -/
def hold (cluster : String) (live : LiveState) (reason : String) (now : UInt64) : Outcome :=
  ⟨cluster, .ofFun fun t => holdTier t (live.replicas.get t) reason now, false, false⟩

/-- The outcome of a cancelled cycle. -/
def cancelled (cluster : String) (live : LiveState) (now : UInt64) : Outcome :=
  { hold cluster live Fault.cancelled.message now with cancelled := true }

/-- An adviser's proposal within the bounds of the tier. -/
def bounded (t : TierSettings) (current : UInt32) (d : Decision) : Decision :=
  let target := t.clamp d.target
  let note := if target = d.target then ""
    else "; webhook target " ++ toString d.target.toNat ++ " " ++ Proposal.boundsText t
  { d with target, action := .between current target, reason := d.reason ++ note }

/-- The proposal that a tier starts from. A tier that cools down does not listen to advice. -/
def choose (e : EngineSettings) (t : TierSettings) (current : UInt32) (internal : Decision)
    (advised : Option Decision) (cooling : Bool) : Decision × Proposer :=
  match advised with
  | none => (internal, .engine)
  | some d =>
    if cooling then (internal, .engine)
    else
      match e.arbitration.choose internal.confidence (some d.confidence) with
      | .engine => (internal, .engine)
      | .adviser => (bounded t current d, .adviser)

/-- The final decision for a target, with notes behind the reason of the chosen proposal. -/
def final (current target : UInt32) (chosen : Decision) (notes : List String) (now : UInt64) :
    Decision :=
  { action := .between current target
    target
    reason := String.intercalate "; " (chosen.reason :: notes)
    confidence := chosen.confidence
    timestamp := now }

/-! ## Primaries -/

/-- What the stages of a tier make of a proposal. -/
structure Staged where
  /-- The count that the tier should have. -/
  target : UInt32
  /-- What the quorum guard said, if it was asked. -/
  verdict : Option Verdict
  /-- What the stages have to say. -/
  notes : List String

/-- The odd counts that the primaries may have. -/
def oddRange (s : Settings) : OddRange :=
  .ofBounds s.tiers.primaries.least s.tiers.primaries.most s.quorum.minHealthy

/-- The state that the quorum guard looks at. -/
def quorumState (s : Settings) (live : LiveState) : QuorumState :=
  ⟨live.healthy, s.quorum.minHealthy, s.quorum.allowBreak⟩

/-- The primaries while they cool down: they stay, even at an even count. -/
def cooledPrimaries (current : UInt32) : Staged :=
  ⟨current, none,
    if current.toNat % 2 = 0 then
      ["primaries count " ++ toString current.toNat ++ " is even, repaired after cooldown"]
    else []⟩

/-- The primaries after the guard, the limits on steps and the guard again. -/
def guardedPrimaries (s : Settings) (live : LiveState) (candidate : UInt32) (h : History)
    (now : UInt64) : Staged :=
  let current := live.replicas.primaries
  let range := oddRange s
  let state := quorumState s live
  let first := range.guard current candidate state
  if first.verdict = .vetoed then ⟨current, some .vetoed, first.reason.toList⟩
  else
    let requested := (first.count.toNat : Int) - current.toNat
    let limited := s.tiers.primaries.stepping.limit requested current h now
    let reached := stepped current limited.delta
    let second := range.guard current reached state
    let parity :=
      if second.count = reached then []
      else if limited.delta = requested then second.reason.toList
      else
        ["odd primaries count overrides behavior limit: " ++ toString reached.toNat ++ " -> " ++
          toString second.count.toNat]
    ⟨second.count, some (first.verdict.graver second.verdict),
      first.reason.toList ++ (limited.cause.map StepCause.message).toList ++ parity⟩

/-- The stages of the primaries. -/
def stagePrimaries (s : Settings) (live : LiveState) (candidate : UInt32) (cooling : Bool)
    (h : History) (now : UInt64) : Staged :=
  if cooling then cooledPrimaries live.replicas.primaries
  else guardedPrimaries s live candidate h now

/-! ## Secondaries -/

/-- The secondaries after the limits on steps and their bounds. -/
def stageSecondaries (s : Settings) (current candidate : UInt32) (h : History) (now : UInt64) :
    Staged :=
  let t := s.tiers.secondaries
  let limited := t.stepping.limit ((candidate.toNat : Int) - current.toNat) current h now
  ⟨t.clamp (stepped current limited.delta), none, (limited.cause.map StepCause.message).toList⟩

/-! ## Both tiers -/

/-- The stages of a tier. -/
def stage (s : Settings) (live : LiveState) (tier : Tier) (candidate : UInt32) (cooling : Bool)
    (h : History) (now : UInt64) : Staged :=
  match tier with
  | .primaries => stagePrimaries s live candidate cooling h now
  | .secondaries => stageSecondaries s live.replicas.secondaries candidate h now

/-- The zones of a tier, if it is spread over zones. -/
def zonesOf (s : Settings) : Tier → Option ZoneSettings
  | .primaries => none
  | .secondaries => s.zones

/-- What a cycle makes up its mind about a tier from its readings and its history. -/
def draftTier (s : Settings) (live : LiveState) (tier : Tier) (r : Readings) (h : History)
    (now : UInt64) : Draft :=
  ⟨Proposal.propose s.engine (s.tiers.get tier) (live.replicas.get tier) r h now,
    s.engine.isCooling h now⟩

/-- What a cycle makes up its mind about both tiers. -/
def draft (s : Settings) (live : LiveState) (snapshot : Snapshot) (h : ClusterHistory)
    (now : UInt64) : PerTier Draft :=
  .ofFun fun t => draftTier s live t (snapshot.tiers.get t) (h.get t) now

/-- Whether an adviser is asked: it is enabled and some tier would listen. -/
def asksAdviser (s : Settings) (drafts : PerTier Draft) : Bool :=
  (s.adviser.any fun a => a.enabled) && Tier.all.any fun t => !(drafts.get t).cooling

/-- What a cycle decides about a tier. -/
def decideTier (s : Settings) (live : LiveState) (tier : Tier) (d : Draft)
    (advice : Option Advice) (h : History) (now : UInt64) : TierOutcome :=
  let t := s.tiers.get tier
  let current := live.replicas.get tier
  let advised := advice.bind fun a => a.proposal? tier current now
  let (chosen, proposer) := choose s.engine t current d.internal advised d.cooling
  let staged := stage s live tier chosen.target d.cooling h now
  let plan := (zonesOf s tier).map fun z => z.plan staged.target
  let zoneNotes := (plan.map fun p => p.notes.map Fault.message).getD []
  { tier
    decision := final current staged.target chosen (staged.notes ++ zoneNotes) now
    internal := d.internal
    advised
    proposer
    verdict := staged.verdict
    zonePlan := plan.map PlanOutcome.plan }

/-- What a cycle decides from what it has made up its mind about and the advice it got. -/
def decide (s : Settings) (cluster : String) (live : LiveState) (snapshot : Snapshot)
    (drafts : PerTier Draft) (advice : Option Advice) (h : ClusterHistory) (now : UInt64) :
    Outcome :=
  ⟨cluster, .ofFun fun t => decideTier s live t (drafts.get t) advice (h.get t) now,
    snapshot.degraded, false⟩

/-- The result of a whole cycle. What the adviser offers counts only if it is asked. -/
def outcome (s : Settings) (cluster : String) (live : LiveState) (h : ClusterHistory)
    (now : UInt64) : Told → Outcome
  | .cancelled => cancelled cluster live now
  | .unavailable fault => hold cluster live fault.message now
  | .readings snapshot offered =>
    let drafts := draft s live snapshot h now
    let advice := if asksAdviser s drafts then offered else none
    decide s cluster live snapshot drafts advice h now

/-! ## Remembering -/

/-- The longest look back of the rules of a tier. -/
def lookBack (s : Stepping) : List Duration :=
  s.up.window :: s.up.policies.map StepPolicy.period ++
    s.down.window :: s.down.policies.map StepPolicy.period

/-- How long moves are kept at least: as long as any rule looks back. -/
def retention (s : Settings) : Duration :=
  (Tier.all.flatMap fun t => lookBack (s.tiers.get t).stepping).foldl max s.engine.cooldown

/-- The histories after the decisions of an outcome. -/
def remember (s : Settings) (live : LiveState) (o : Outcome) (h : ClusterHistory)
    (now : UInt64) : ClusterHistory :=
  .ofFun fun t =>
    ((h.get t).push (.ofDecision (live.replicas.get t) (o.tiers.get t).decision)).prune now
      (retention s)

/-- The figures after the decision about a tier. -/
def recordTier (r : Recorder) (cluster : String) (t : TierOutcome) : Recorder :=
  let r := r.recordDecision cluster t.tier t.decision.action t.decision.confidence
  let r := r.setReplicas cluster t.tier t.decision.target
  match t.verdict with
  | some v => r.recordVerdict cluster v
  | none => r

/-- The figures after an outcome. -/
def record (r : Recorder) (o : Outcome) : Recorder :=
  Tier.all.foldl (fun r t => recordTier r o.cluster (o.tiers.get t)) r

end Cycle

end ClusterScaling
