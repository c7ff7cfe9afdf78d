import ClusterScaling.Decision
import ClusterScaling.Fault
import ClusterScaling.Json.Reader
import ClusterScaling.Json.Writer
import ClusterScaling.Reading
import ClusterScaling.Settings

/-!
# Advice

An adviser may be asked for targets of its own. It is told the cluster,
its readings and its live counts, and answers with an action, a target
for some of the tiers, a reason and a confidence. The action it names is
not believed: the action of a proposal is always the direction of its
target. What becomes of the proposal beside the engine's own is settled
by `Arbitration.choose`.

Advice is read from JSON. `Json.ReadError` keeps apart a text that is no
JSON from a JSON value that is no advice.
-/

namespace ClusterScaling

open Document

/-- The targets that an adviser names. -/
abbrev AdviceTargets := PerTier (Option UInt32)

namespace AdviceTargets

/-- No target at all. -/
def none : AdviceTargets := PerTier.both Option.none

/-- The targets in a document. -/
def decode (d : Document) : Decoded AdviceTargets := do
  let r ← Record.ofDocument ["primaries", "secondaries"] d
  let primaries ← r.read "primaries" (asOption asCount)
  let secondaries ← r.read "secondaries" (asOption asCount)
  pure ⟨primaries.join, secondaries.join⟩

/-- The targets as a document. -/
def encode (t : AdviceTargets) : Document :=
  mapping [("primaries", ofOption ofCount t.primaries),
    ("secondaries", ofOption ofCount t.secondaries)]

end AdviceTargets

/-- What an adviser answers. -/
structure Advice where
  /-- The action that the adviser has in mind. -/
  action : Action
  /-- The targets that it names. -/
  targets : AdviceTargets
  /-- Its reason, which may be empty. -/
  reason : String
  /-- How sure it is. -/
  confidence : Float

namespace Advice

/-- Advice in a document. -/
def decode (d : Document) : Decoded Advice := do
  let r ← Record.ofDocument ["action", "target_replicas", "reason", "confidence"] d
  let action ← r.read "action" Action.decode
  let targets ← r.read "target_replicas" AdviceTargets.decode
  let reason ← r.read "reason" asText
  let confidence ← r.read "confidence" asReal
  let action ← r.required "action" action
  pure ⟨action, targets.getD .none, reason.getD "", ← r.required "confidence" confidence⟩

/-- Advice as a document. -/
def encode (a : Advice) : Document :=
  mapping [("action", text a.action.name), ("target_replicas", a.targets.encode),
    ("reason", text a.reason), ("confidence", real a.confidence)]

/-- Advice read from a text. -/
def ofText (s : String) : Except Json.ReadError Advice := Json.decode decode s

/-- Whether a confidence is a proper one. -/
def isConfidence (x : Float) : Bool := x.isFinite && 0.0 ≤ x && x ≤ 1.0

/-- Advice read from the body of an answer. A confidence outside its interval is a fault. -/
def ofBody (body : String) : Except Fault Advice :=
  match ofText body with
  | .error _ => .error (.adviser "malformed response")
  | .ok a =>
    if isConfidence a.confidence then .ok a
    else .error (.adviser ("confidence " ++ Decimal.plain a.confidence ++ " outside [0, 1]"))

/-- The proposal for a tier at a live count, if the adviser names a target for the tier. -/
def proposal? (a : Advice) (tier : Tier) (current : UInt32) (now : UInt64) : Option Decision :=
  (a.targets.get tier).map fun target =>
    { action := .between current target
      target
      reason := if a.reason.isEmpty then "webhook proposal" else "webhook: " ++ a.reason
      confidence := a.confidence
      timestamp := now }

/-- What an adviser is told. -/
def question (c : Cluster) (s : Snapshot) (current : Replicas) : Document :=
  mapping [("cluster", text c.name), ("namespace", text c.space), ("metrics", s.encode),
    ("current_replicas", current.encode)]

/-- **An adviser's proposal moves the tier in the direction of its target, whatever action it
names.** -/
theorem action_proposal? {a : Advice} {tier : Tier} {current : UInt32} {now : UInt64}
    {d : Decision} (h : a.proposal? tier current now = some d) :
    d.action = .between current d.target := by
  obtain ⟨target, _, rfl⟩ := Option.map_eq_some_iff.mp h
  rfl

end Advice

/-- Whose proposal a tier acts on. -/
inductive Proposer where
  /-- The engine. -/
  | engine
  /-- The adviser. -/
  | adviser
  deriving DecidableEq, Repr

/-- The name of a proposer. -/
def Proposer.name : Proposer → String
  | engine => "internal"
  | adviser => "webhook"

/-- Whose proposal wins, by their confidences; the adviser may have none. -/
def Arbitration.choose (mode : Arbitration) (engine : Float) : Option Float → Proposer
  | none => .engine
  | some adviser =>
    match mode with
    | .higherConfidence => if engine < adviser then .adviser else .engine
    | .preferWebhook => .adviser
    | .internalOnly => .engine

end ClusterScaling
