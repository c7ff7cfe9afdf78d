import ClusterScaling.Settings

/-!
# Circuit breakers

A source that keeps failing is left alone for a while. Its circuit is
**closed** while it works; after enough failures in a row it **opens**
and calls are refused; once the cooldown is over one call is let through
as a probe and the circuit is **half-open**, until enough probes have
succeeded or one has failed. A probe whose outcome never arrives blocks
others for one cooldown only.

Times are nanoseconds on a clock that never goes back.
-/

namespace ClusterScaling

/-- The state of a circuit. -/
inductive Circuit where
  /-- Calls pass, and so many in a row have failed. -/
  | closed (failures : Nat)
  /-- Calls are refused; the last failure was at the given time. -/
  | opened (since : Nat)
  /-- So many probes have succeeded, and one may be on its way since the given time. -/
  | halfOpen (successes : Nat) (probe : Option Nat)
  deriving DecidableEq, Repr

/-- When circuits open and close. -/
structure BreakerLimits where
  /-- How many failures in a row open a circuit; at least one. -/
  failures : Nat
  /-- How many successful probes close it again; at least one. -/
  successes : Nat
  /-- How long it stays open. -/
  cooldown : Duration
  deriving DecidableEq

/-- The limits that the settings ask for. -/
def CollectorSettings.breakerLimits (c : CollectorSettings) : BreakerLimits :=
  ⟨max c.failureThreshold.toNat 1, max c.successThreshold.toNat 1, c.breakerCooldown⟩

namespace Circuit

/-- A circuit through which nothing has passed. -/
def fresh : Circuit := closed 0

/-- The name of a state. -/
def name : Circuit → String
  | closed _ => "closed"
  | opened _ => "open"
  | halfOpen _ _ => "half-open"

/-- Whether a cooldown that began at a time is over. -/
def isOver (l : BreakerLimits) (start now : Nat) : Bool := l.cooldown.nanos ≤ now - start

/-- Whether a call may pass now, and the circuit after the question. -/
def allow (l : BreakerLimits) (now : Nat) : Circuit → Bool × Circuit
  | closed n => (true, closed n)
  | opened since =>
    if isOver l since now then (true, halfOpen 0 (some now)) else (false, opened since)
  | halfOpen n none => (true, halfOpen n (some now))
  | halfOpen n (some start) =>
    if isOver l start now then (true, halfOpen n (some now)) else (false, halfOpen n (some start))

/-- The circuit after a call has succeeded. -/
def succeed (l : BreakerLimits) : Circuit → Circuit
  | closed _ => closed 0
  | opened since => opened since
  | halfOpen n _ => if l.successes ≤ n + 1 then closed 0 else halfOpen (n + 1) none

/-- The circuit after a call has failed. -/
def fail (l : BreakerLimits) (now : Nat) : Circuit → Circuit
  | closed n => if l.failures ≤ n + 1 then opened now else closed (n + 1)
  | opened _ => opened now
  | halfOpen _ _ => opened now

end Circuit

end ClusterScaling
