import ClusterScaling.Proofs.Breaker.Spells

/-!
# A circuit in five fields

A circuit is one of three things, and each of them knows only what it
needs. It may as well be kept in a record with the phase and a field for
every number and every time: `Circuit.Fields`. The fields of other phases
are then still there, with whatever has been left in them, and it is the
operations that have to reset each one before it is read again.

`Circuit.Fields.Keeps` says which circuit is kept in a record. It reads
only the fields of the phase, and it bounds the two counts by their
thresholds, so that they fit into 32 bits. Every operation on the record
does to it what the operation on the circuit does (`Circuit.Fields.Keeps.hear`),
and lets the same calls pass; so over every run the record and the circuit
cannot be told apart (`Circuit.Fields.keeps_after`).
-/

namespace ClusterScaling

namespace Circuit

/-- A circuit, field by field. -/
structure Fields where
  /-- The phase. -/
  phase : Phase
  /-- How many calls in a row have failed. -/
  failures : UInt32
  /-- How many probes have succeeded. -/
  successes : UInt32
  /-- When the circuit was opened. -/
  openedAt : Option Nat
  /-- When the probe that is on its way was started. -/
  probeStarted : Option Nat

namespace Fields

/-- The fields of a circuit through which nothing has passed. -/
def fresh : Fields := ⟨.closed, 0, 0, none, none⟩

/-- Whether no cooldown has begun or the one that has is over. -/
def isFree (l : BreakerLimits) (start : Option Nat) (now : Nat) : Bool :=
  start.all fun start => isOver l start now

/-- Whether a call may pass now, and the fields after the question. -/
def allow (l : BreakerLimits) (now : Nat) (f : Fields) : Bool × Fields :=
  match f.phase with
  | .closed => (true, f)
  | .opened =>
    if isFree l f.openedAt now then
      (true, { f with phase := .halfOpen, successes := 0, probeStarted := some now })
    else (false, f)
  | .halfOpen =>
    if isFree l f.probeStarted now then (true, { f with probeStarted := some now }) else (false, f)

/-- The fields after a call has succeeded. -/
def succeed (l : BreakerLimits) (f : Fields) : Fields :=
  match f.phase with
  | .closed => { f with failures := 0 }
  | .opened => f
  | .halfOpen =>
    let f := { f with successes := f.successes + 1, probeStarted := none }
    if l.successes ≤ f.successes.toNat then
      { f with phase := .closed, failures := 0, successes := 0, openedAt := none }
    else f

/-- The fields after a call has failed. -/
def fail (l : BreakerLimits) (now : Nat) (f : Fields) : Fields :=
  match f.phase with
  | .closed =>
    let f := { f with failures := f.failures + 1 }
    if l.failures ≤ f.failures.toNat then { f with phase := .opened, openedAt := some now } else f
  | .opened => { f with openedAt := some now }
  | .halfOpen =>
    { f with phase := .opened, openedAt := some now, probeStarted := none, successes := 0 }

/-- The fields after something has happened to the circuit at a time. -/
def hear (l : BreakerLimits) (f : Fields) (e : Nat × Call) : Fields :=
  match e.2 with
  | .ask => (f.allow l e.1).2
  | .succeeded => f.succeed l
  | .failed => f.fail l e.1

/-- The fields after a run of events, each at its time. -/
def after (l : BreakerLimits) (es : List (Nat × Call)) : Fields := es.foldl (hear l) fresh

/-- The circuit that is kept in the fields. What is left in the fields of other phases does not
matter. -/
inductive Keeps (l : BreakerLimits) : Fields → Circuit → Prop where
  /-- A closed circuit has too few failures to open. -/
  | closed (failures successes : UInt32) (openedAt probeStarted : Option Nat)
      (hlt : failures.toNat < l.failures) :
      Keeps l ⟨.closed, failures, successes, openedAt, probeStarted⟩ (.closed failures.toNat)
  /-- An open circuit knows since when. -/
  | opened (failures successes : UInt32) (since : Nat) (probeStarted : Option Nat) :
      Keeps l ⟨.opened, failures, successes, some since, probeStarted⟩ (.opened since)
  /-- A half-open circuit has too few successes to close. -/
  | halfOpen (failures successes : UInt32) (openedAt probeStarted : Option Nat)
      (hlt : successes.toNat < l.successes) :
      Keeps l ⟨.halfOpen, failures, successes, openedAt, probeStarted⟩
        (.halfOpen successes.toNat probeStarted)

end Fields

/-- The thresholds are at least one and fit into 32 bits. -/
structure Fits (l : BreakerLimits) : Prop where
  /-- It takes a failure to open a circuit. -/
  failures_pos : 0 < l.failures
  /-- The failures can be counted. -/
  failures_lt : l.failures < UInt32.size
  /-- It takes a success to close a circuit. -/
  successes_pos : 0 < l.successes
  /-- The successes can be counted. -/
  successes_lt : l.successes < UInt32.size

/-- Whatever the settings ask for fits. -/
theorem fits_breakerLimits (c : CollectorSettings) : Fits c.breakerLimits := by
  have hfailures := c.failureThreshold.toNat_lt
  have hsuccesses := c.successThreshold.toNat_lt
  unfold CollectorSettings.breakerLimits
  constructor <;> dsimp only [UInt32.size] <;> omega

namespace Fields

variable {l : BreakerLimits} {f : Fields} {c : Circuit}

/-- A count below a number that fits can be increased. -/
theorem toNat_add_one {n : UInt32} {bound : Nat} (hlt : n.toNat < bound)
    (hbound : bound < UInt32.size) : (n + 1).toNat = n.toNat + 1 := by
  rw [UInt32.toNat_add]
  exact Nat.mod_eq_of_lt (Nat.lt_of_le_of_lt hlt hbound)

/-- **The fields let the same calls pass**, and keep the same circuit after the question. -/
theorem Keeps.allow (h : Keeps l f c) (hl : Fits l) (now : Nat) :
    (f.allow l now).1 = (c.allow l now).1 ∧ Keeps l (f.allow l now).2 (c.allow l now).2 := by
  cases h with
  | closed failures successes openedAt probeStarted hlt =>
    exact ⟨rfl, .closed _ _ _ _ hlt⟩
  | opened failures successes since probeStarted =>
    unfold Fields.allow Circuit.allow isFree
    dsimp only [Option.all_some]
    split
    · exact ⟨rfl, .halfOpen _ 0 _ _ hl.successes_pos⟩
    · exact ⟨rfl, .opened _ _ _ _⟩
  | halfOpen failures successes openedAt probeStarted hlt =>
    cases probeStarted with
    | none => exact ⟨rfl, .halfOpen _ _ _ _ hlt⟩
    | some start =>
      unfold Fields.allow Circuit.allow isFree
      dsimp only [Option.all_some]
      split
      · exact ⟨rfl, .halfOpen _ _ _ _ hlt⟩
      · exact ⟨rfl, .halfOpen _ _ _ _ hlt⟩

theorem Keeps.succeed (h : Keeps l f c) (hl : Fits l) : Keeps l (f.succeed l) (c.succeed l) := by
  cases h with
  | closed failures successes openedAt probeStarted =>
    exact .closed 0 _ _ _ hl.failures_pos
  | opened failures successes since probeStarted => exact .opened _ _ _ _
  | halfOpen failures successes openedAt probeStarted hlt =>
    have hcount := toNat_add_one hlt hl.successes_lt
    unfold Fields.succeed Circuit.succeed
    dsimp only
    rw [← hcount]
    split
    · exact .closed 0 _ _ _ hl.failures_pos
    · next hfew => exact .halfOpen _ _ _ _ (Nat.lt_of_not_le hfew)

theorem Keeps.fail (h : Keeps l f c) (hl : Fits l) (now : Nat) :
    Keeps l (f.fail l now) (c.fail l now) := by
  cases h with
  | closed failures successes openedAt probeStarted hlt =>
    have hcount := toNat_add_one hlt hl.failures_lt
    unfold Fields.fail Circuit.fail
    dsimp only
    rw [← hcount]
    split
    · exact .opened _ _ _ _
    · next hfew => exact .closed _ _ _ _ (Nat.lt_of_not_le hfew)
  | opened failures successes since probeStarted => exact .opened _ _ _ _
  | halfOpen failures successes openedAt probeStarted => exact .opened _ _ _ _

/-- **Whatever happens to the circuit happens to what is kept in the fields.** -/
theorem Keeps.hear (h : Keeps l f c) (hl : Fits l) (e : Nat × Call) :
    Keeps l (f.hear l e) (c.hear l e) := by
  obtain ⟨now, call⟩ := e
  cases call with
  | ask => exact (h.allow hl now).2
  | succeeded => exact h.succeed hl
  | failed => exact h.fail hl now

/-- A circuit is in the phase that is kept. -/
theorem Keeps.phase_eq (h : Keeps l f c) : f.phase = c.phase := by
  cases h <;> rfl

@[simp]
theorem after_snoc (l : BreakerLimits) (es : List (Nat × Call)) (e : Nat × Call) :
    after l (es ++ [e]) = (after l es).hear l e := by
  simp [after]

/-- **Over every run the fields keep the circuit**, as long as the thresholds fit. -/
theorem keeps_after (hl : Fits l) (es : List (Nat × Call)) :
    Keeps l (after l es) (Circuit.after l es) := by
  induction es using List.reverseRecOn with
  | nil => exact .closed 0 0 none none hl.failures_pos
  | append_singleton es e ih =>
    rw [after_snoc, Circuit.after_snoc]
    exact ih.hear hl e

/-- **Nobody can tell the fields from the circuit.** Whatever the settings ask for and whatever has
happened, they are in the same phase and let the same calls pass. -/
theorem after_indistinguishable (s : CollectorSettings) (es : List (Nat × Call)) :
    (after s.breakerLimits es).phase = (Circuit.after s.breakerLimits es).phase
      ∧ ∀ now, ((after s.breakerLimits es).allow s.breakerLimits now).1
        = ((Circuit.after s.breakerLimits es).allow s.breakerLimits now).1 := by
  have hfits := fits_breakerLimits s
  have hkeeps := keeps_after hfits es
  exact ⟨hkeeps.phase_eq, fun now => (hkeeps.allow hfits now).1⟩

end Fields

end Circuit

end ClusterScaling
