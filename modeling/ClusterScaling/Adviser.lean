import ClusterScaling.Advice
import ClusterScaling.Http.Exchange

/-!
# Asking the adviser

The settings of an adviser name a request method in any mixture of cases.
`Adviser.ofSettings` is the one place where it is looked at, so an adviser
that exists can be asked. Whatever goes wrong while it is asked is a
fault and no advice; a cycle then decides as if there were no adviser.
-/

namespace ClusterScaling

/-- An adviser that can be asked. -/
structure Adviser where
  /-- Its settings. -/
  settings : AdviserSettings
  /-- The request method. -/
  method : String
  deriving DecidableEq

namespace Adviser

/-- The adviser with the given settings. -/
def ofSettings (a : AdviserSettings) : Except Fault Adviser :=
  match Http.method? a.method with
  | some method => .ok ⟨a, method⟩
  | none => .error (.settings ("webhook: invalid method " ++ a.method))

/-- The fault that a failed exchange with an adviser is. -/
def fault : Http.Failure → Fault
  | .timeout limit => .adviserTimeout limit
  | failure => .adviser failure.message

/-- Asks an adviser about a cluster. -/
def ask (net : Http.Network) (a : Adviser) (c : Cluster) (s : Snapshot) (current : Replicas) :
    Except Fault Advice :=
  let body := Json.write (Advice.question c s current)
  match Http.send net a.method a.settings.url (some body) a.settings.timeout with
  | .error failure => .error (fault failure)
  | .ok reply =>
    if reply.isSuccess then Advice.ofBody reply.body
    else .error (.adviser ("status " ++ reply.statusText))

end Adviser

/-- The adviser of the settings, if they name one, after all that they ask for has been checked. -/
def Settings.adviser? (s : Settings) : Except Fault (Option Adviser) := do
  match s.adviser with
  | none => pure none
  | some a => pure (some (← Adviser.ofSettings a))

end ClusterScaling
