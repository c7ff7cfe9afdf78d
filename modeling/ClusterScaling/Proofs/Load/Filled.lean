import ClusterScaling.Load

/-!
# Loads, filled in metric by metric

The outcomes of a tier's metrics can be told from the outcome of each. They
may as well be collected in one pass over the metrics: `LoadSheet` has two
lists, of what is scored and of what is not, and next to them a count of
the configured metrics that nobody keeps in step with the lists. Each turn
goes through the reasons to leave a metric out, one after the other, and
appends to one of the lists at the first that holds, or to the other one.

The sheet at the end has what the outcomes say, with each cause worded
(`LoadSheet.fill_eq`). This is an induction over the metrics, for a sheet
that already has something in it, from what one turn appends
(`LoadSheet.turn_eq`).
-/

namespace ClusterScaling

/-- What is known about the metrics of a tier while one after the other is looked at. -/
structure LoadSheet (α : Type) where
  /-- The metrics that are scored so far, in order. -/
  scored : List (Load α)
  /-- How many metrics are configured. -/
  configured : Nat
  /-- The labels of the metrics that are not scored so far, in order, and the wording of why. -/
  skipped : List (String × String)

namespace LoadSheet

variable {α : Type}

/-- The sheet with one more metric that is scored. -/
def score (s : LoadSheet α) (l : Load α) : LoadSheet α := { s with scored := s.scored ++ [l] }

/-- The sheet with one more metric that is not scored. -/
def skip (s : LoadSheet α) (label reason : String) : LoadSheet α :=
  { s with skipped := s.skipped ++ [(label, reason)] }

/-- One metric is looked at. -/
def turn [Scalar α] (r : Readings) (s : LoadSheet α) (m : MetricSpec) : LoadSheet α :=
  if !Target.isUsable m.weight then s.skip m.label "non-positive weight"
  else
    match m.target? with
    | .error fault => s.skip m.label fault.message
    | .ok t =>
      match (r.get m.field).live? with
      | none => s.skip m.label "no live value"
      | some live =>
        let current : α := match t.form with
          | .fraction => Scalar.ofFloat live * Scalar.ofFloat (Target.fractionScale m.kind)
          | _ => Scalar.ofFloat live
        s.score ⟨m.label, m.kind, current, Scalar.ofFloat t.value, Scalar.ofFloat m.weight⟩

/-- The sheet when all metrics have been looked at. -/
def fill (α : Type) [Scalar α] (specs : List MetricSpec) (r : Readings) : LoadSheet α :=
  specs.foldl (turn r) ⟨[], specs.length, []⟩

/-- The sheet with what the outcomes say behind what it has. -/
def add (s : LoadSheet α) (l : Loads α) : LoadSheet α where
  scored := s.scored ++ l.scored
  configured := s.configured
  skipped := s.skipped ++ l.skipped.map fun o => (o.1, o.2.message)

variable [Scalar α] {r : Readings}

/-- **A turn appends the outcome of its metric.** -/
theorem turn_eq (s : LoadSheet α) (m : MetricSpec) :
    s.turn r m = match Loads.measure α r m with
      | .ok l => s.score l
      | .error cause => s.skip m.label cause.message := by
  unfold turn Loads.measure
  split
  · rfl
  · cases m.target? with
    | error fault => rfl
    | ok t => cases (r.get m.field).live? <;> rfl

/-- A turn and what comes afterwards append the outcomes in their order. -/
theorem add_turn (s : LoadSheet α) (m : MetricSpec) (specs : List MetricSpec) :
    (s.turn r m).add (Loads.ofReadings α specs r) = s.add (Loads.ofReadings α (m :: specs) r) := by
  rw [turn_eq]
  unfold add Loads.scored Loads.skipped Loads.ofReadings
  cases hm : Loads.measure α r m with
  | ok l => simp [hm, score]
  | error cause => simp [hm, skip]

theorem foldl_turn (specs : List MetricSpec) (s : LoadSheet α) :
    specs.foldl (turn r) s = s.add (Loads.ofReadings α specs r) := by
  induction specs generalizing s with
  | nil =>
    unfold add Loads.scored Loads.skipped Loads.ofReadings
    simp
  | cons m specs ih => rw [List.foldl_cons, ih, add_turn]

/-- **One pass over the metrics finds what the outcomes say**: what is scored, how many metrics are
configured, and what is skipped with the wording of why. -/
theorem fill_eq (specs : List MetricSpec) (r : Readings) :
    let l := Loads.ofReadings α specs r
    fill α specs r = ⟨l.scored, l.configured, l.skipped.map fun o => (o.1, o.2.message)⟩ := by
  intro l
  rw [fill, foldl_turn, Loads.configured_ofReadings]
  rfl

end LoadSheet

end ClusterScaling
