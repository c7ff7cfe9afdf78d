/-!
# Cancellation

Whoever asks for work may take the request back. The **asker** sets a
signal, and may also withdraw it before anybody has noticed; the
**worker** only looks at it or waits for it. Once the asker is gone the
signal keeps its value forever, so a wait for it ends exactly if it is
set.
-/

namespace ClusterScaling

/-- A signal from an asker to workers. -/
structure Cancellation where
  /-- Whether the signal is set. -/
  isCancelled : Bool
  /-- Whether there still is somebody who can change it. -/
  held : Bool
  deriving DecidableEq, Repr

namespace Cancellation

/-- A signal that is not set, and its asker. -/
def fresh : Cancellation := ⟨false, true⟩

/-- A signal that is never set. -/
def never : Cancellation := ⟨false, false⟩

/-- The signal after its asker has set or withdrawn it. -/
def send (c : Cancellation) (cancelled : Bool) : Cancellation :=
  if c.held then { c with isCancelled := cancelled } else c

/-- The signal after its asker has gone. -/
def drop (c : Cancellation) : Cancellation := { c with held := false }

/-- Whether a wait that begins now ends at once. -/
def resolves (c : Cancellation) : Bool := c.isCancelled

/-- **Nobody can change a signal whose asker is gone.** -/
@[simp]
theorem send_drop (c : Cancellation) (b : Bool) : c.drop.send b = c.drop := rfl

@[simp]
theorem isCancelled_drop (c : Cancellation) : c.drop.isCancelled = c.isCancelled := rfl

end Cancellation

end ClusterScaling
