import ClusterScaling.Proofs.Toml.Restored

/-!
# Which settings come back from TOML

Record by record, what a record of settings has to keep to come back:
its durations, and nothing else. Names, counts, flags, weights and the
variants of an enumeration come back in any case, and a field that says
the usual is written all the same. `Settings.durations` lists all
durations of settings, and `Settings.recovers` is the result.

The proofs are alike because the records are: each takes the fields that
were written off the front one by one and leaves the rest to the
equations of the decoding. A field that a decoding asks for by another
name than the encoding gives it would leave a goal open here.
-/

namespace ClusterScaling

open Document Toml

/-! ## The durations in settings -/

/-- The durations in the rules of one direction. -/
def StepRules.durations (r : StepRules) : List Duration := r.window :: r.policies.map (·.period)

/-- The durations in the rules of a tier. -/
def Stepping.durations (s : Stepping) : List Duration := s.up.durations ++ s.down.durations

/-- The durations in the settings of the collection. -/
def CollectorSettings.durations (c : CollectorSettings) : List Duration :=
  [c.cacheTtl, c.fetchTimeout, c.breakerCooldown]

/-- The durations in settings. -/
def Settings.durations (s : Settings) : List Duration :=
  s.engine.cooldown :: s.collector.durations ++ s.tiers.primaries.stepping.durations
    ++ s.tiers.secondaries.stepping.durations ++ s.adviser.toList.map (·.timeout)

/-! ## Record by record -/

/-- A field that is left out and one that holds nothing are the same. -/
theorem join_map_some {α : Type} (o : Option α) : (o.map some).join = o := by
  cases o <;> rfl

theorem StepKind.recovers :
    Recovers (asVariant all name) (fun k => .text k.name) fun _ => True :=
  recovers_variant fun k => by cases k <;> rfl

theorem StepChoice.recovers :
    Recovers (asVariant all name) (fun c => .text c.name) fun _ => True :=
  recovers_variant fun c => by cases c <;> rfl

theorem MetricKind.recovers : Recovers decode (fun k => .text k.name) fun _ => True :=
  recovers_variant fun k => by cases k <;> rfl

theorem Origin.recovers : Recovers decode (fun o => .text o.name) fun _ => True :=
  recovers_variant fun o => by cases o <;> rfl

theorem TriggerPolicy.recovers :
    Recovers (asVariant all name) (fun p => .text p.name) fun _ => True :=
  recovers_variant fun p => by cases p <;> rfl

theorem Arbitration.recovers :
    Recovers (asVariant all name) (fun a => .text a.name) fun _ => True :=
  recovers_variant fun a => by cases a <;> rfl

theorem StepPolicy.recovers : Recovers decode encode fun p => p.period.Kept where
  written _ := rfl
  reads {p d manner} h := by
    obtain ⟨fs, hrecord, hfields⟩ := exists_ofDocument h
    obtain ⟨x₁, h₁, hkind, hfields⟩ := StepKind.recovers.exists_field hfields
    obtain ⟨x₂, h₂, hvalue, hfields⟩ := recovers_count.exists_field hfields
    obtain ⟨x₃, h₃, hperiod, -⟩ := recovers_duration.exists_field hfields
    cases p
    simp [decode, hrecord, bind_eq_ok, map_eq_ok, h₁, h₂, h₃, hkind, hvalue, hperiod]

theorem StepRules.recovers : Recovers decode encode fun r => ∀ t ∈ r.durations, t.Kept where
  written _ := rfl
  reads {r d manner} h := by
    obtain ⟨fs, hrecord, hfields⟩ := exists_ofDocument h
    obtain ⟨x₁, h₁, hwindow, hfields⟩ := recovers_duration.exists_field hfields
    obtain ⟨x₂, h₂, hpolicies, hfields⟩ := StepPolicy.recovers.list.exists_field hfields
    obtain ⟨x₃, h₃, hchoice, -⟩ := StepChoice.recovers.exists_field hfields
    cases r
    simp [decode, hrecord, bind_eq_ok, map_eq_ok, h₁, h₂, h₃, hwindow, hpolicies, hchoice,
      durations]

theorem Stepping.recovers : Recovers decode encode fun s => ∀ t ∈ s.durations, t.Kept where
  written _ := rfl
  reads {s d manner} h := by
    obtain ⟨fs, hrecord, hfields⟩ := exists_ofDocument h
    obtain ⟨x₁, h₁, hup, hfields⟩ := StepRules.recovers.exists_field hfields
    obtain ⟨x₂, h₂, hdown, -⟩ := StepRules.recovers.exists_field hfields
    cases s
    simp [decode, hrecord, bind_eq_ok, map_eq_ok, h₁, h₂, hup, hdown, durations, or_imp,
      forall_and]

theorem MetricSpec.recovers : Recovers decode encode fun _ => True where
  written _ := rfl
  reads {m d manner} h := by
    obtain ⟨fs, hrecord, hfields⟩ := exists_ofDocument h
    obtain ⟨x₁, h₁, hkind, hfields⟩ := MetricKind.recovers.exists_field hfields
    obtain ⟨x₂, h₂, htarget, hfields⟩ := recovers_text.exists_field hfields
    obtain ⟨x₃, h₃, hweight, hfields⟩ := recovers_real.exists_field hfields
    obtain ⟨x₄, h₄, hname, hfields⟩ := recovers_text.exists_option hfields
    obtain ⟨x₅, h₅, hquery, hfields⟩ := recovers_text.exists_option hfields
    obtain ⟨x₆, h₆, horigin, -⟩ := Origin.recovers.exists_option hfields
    cases m
    simp [decode, hrecord, bind_eq_ok, map_eq_ok, h₁, h₂, h₃, h₄, h₅, h₆, hkind, htarget, hweight,
      hname, hquery, horigin, join_map_some]

theorem TierSettings.recovers :
    Recovers decode encode fun t => ∀ u ∈ t.stepping.durations, u.Kept where
  written _ := rfl
  reads {t d manner} h := by
    obtain ⟨fs, hrecord, hfields⟩ := exists_ofDocument h
    obtain ⟨x₁, h₁, hleast, hfields⟩ := recovers_count.exists_field hfields
    obtain ⟨x₂, h₂, hmost, hfields⟩ := recovers_count.exists_field hfields
    obtain ⟨x₃, h₃, hmetrics, hfields⟩ := MetricSpec.recovers.list.exists_field hfields
    obtain ⟨x₄, h₄, hstepping, -⟩ := Stepping.recovers.exists_field hfields
    cases t
    simp [decode, hrecord, bind_eq_ok, map_eq_ok, h₁, h₂, h₃, h₄, hleast, hmost, hmetrics,
      hstepping]

theorem QuorumSettings.recovers : Recovers decode encode fun _ => True where
  written _ := rfl
  reads {q d manner} h := by
    obtain ⟨fs, hrecord, hfields⟩ := exists_ofDocument h
    obtain ⟨x₁, h₁, hminHealthy, hfields⟩ := recovers_count.exists_field hfields
    obtain ⟨x₂, h₂, hallowBreak, -⟩ := recovers_flag.exists_field hfields
    cases q
    simp [decode, hrecord, bind_eq_ok, map_eq_ok, h₁, h₂, hminHealthy, hallowBreak,
      -Bool.exists_bool]

theorem ZoneSettings.recovers : Recovers decode encode fun _ => True where
  written _ := rfl
  reads {z d manner} h := by
    obtain ⟨fs, hrecord, hfields⟩ := exists_ofDocument h
    obtain ⟨x₁, h₁, hzones, hfields⟩ := recovers_text.list.exists_field hfields
    obtain ⟨x₂, h₂, hpreference, hfields⟩ := recovers_text.list.exists_field hfields
    obtain ⟨x₃, h₃, hfloor, hfields⟩ := recovers_count.exists_field hfields
    obtain ⟨x₄, h₄, hmaxSkew, -⟩ := recovers_count.exists_field hfields
    cases z
    simp [decode, hrecord, bind_eq_ok, map_eq_ok, h₁, h₂, h₃, h₄, hzones, hpreference, hfloor,
      hmaxSkew]

theorem AdviserSettings.recovers : Recovers decode encode fun a => a.timeout.Kept where
  written _ := rfl
  reads {a d manner} h := by
    obtain ⟨fs, hrecord, hfields⟩ := exists_ofDocument h
    obtain ⟨x₁, h₁, hurl, hfields⟩ := recovers_text.exists_field hfields
    obtain ⟨x₂, h₂, hmethod, hfields⟩ := recovers_text.exists_field hfields
    obtain ⟨x₃, h₃, htimeout, hfields⟩ := recovers_duration.exists_field hfields
    obtain ⟨x₄, h₄, henabled, -⟩ := recovers_flag.exists_field hfields
    cases a
    simp [decode, hrecord, bind_eq_ok, map_eq_ok, h₁, h₂, h₃, h₄, hurl, hmethod, htimeout,
      henabled, -Bool.exists_bool]

theorem CollectorSettings.recovers :
    Recovers decode encode fun c => ∀ t ∈ c.durations, t.Kept where
  written _ := rfl
  reads {c d manner} h := by
    obtain ⟨fs, hrecord, hfields⟩ := exists_ofDocument h
    obtain ⟨x₁, h₁, hcacheTtl, hfields⟩ := recovers_duration.exists_field hfields
    obtain ⟨x₂, h₂, hfetchTimeout, hfields⟩ := recovers_duration.exists_field hfields
    obtain ⟨x₃, h₃, hmaxConcurrency, hfields⟩ := recovers_wide.exists_field hfields
    obtain ⟨x₄, h₄, hfailureThreshold, hfields⟩ := recovers_count.exists_field hfields
    obtain ⟨x₅, h₅, hbreakerCooldown, hfields⟩ := recovers_duration.exists_field hfields
    obtain ⟨x₆, h₆, hsuccessThreshold, -⟩ := recovers_count.exists_field hfields
    cases c
    simp [decode, hrecord, bind_eq_ok, map_eq_ok, h₁, h₂, h₃, h₄, h₅, h₆, hcacheTtl, hfetchTimeout,
      hmaxConcurrency, hfailureThreshold, hbreakerCooldown, hsuccessThreshold, durations]

theorem EngineSettings.recovers : Recovers decode encode fun e => e.cooldown.Kept where
  written _ := rfl
  reads {e d manner} h := by
    obtain ⟨fs, hrecord, hfields⟩ := exists_ofDocument h
    obtain ⟨x₁, h₁, hcooldown, hfields⟩ := recovers_duration.exists_field hfields
    obtain ⟨x₂, h₂, htolerance, hfields⟩ := recovers_real.exists_field hfields
    obtain ⟨x₃, h₃, htrigger, hfields⟩ := TriggerPolicy.recovers.exists_field hfields
    obtain ⟨x₄, h₄, hhistoryCapacity, hfields⟩ := recovers_wide.exists_field hfields
    obtain ⟨x₅, h₅, hseverityScale, hfields⟩ := recovers_real.exists_field hfields
    obtain ⟨x₆, h₆, harbitration, -⟩ := Arbitration.recovers.exists_field hfields
    cases e
    simp [decode, hrecord, bind_eq_ok, map_eq_ok, h₁, h₂, h₃, h₄, h₅, h₆, hcooldown, htolerance,
      htrigger, hhistoryCapacity, hseverityScale, harbitration]

/-- **Settings come back if their durations do.** -/
theorem Settings.recovers : Recovers decode encode fun s => ∀ t ∈ s.durations, t.Kept where
  written _ := rfl
  reads {s d manner} h := by
    obtain ⟨fs, hrecord, hfields⟩ := exists_ofDocument h
    obtain ⟨x₁, h₁, hengine, hfields⟩ := EngineSettings.recovers.exists_field hfields
    obtain ⟨x₂, h₂, hcollector, hfields⟩ := CollectorSettings.recovers.exists_field hfields
    obtain ⟨x₃, h₃, hprimaries, hfields⟩ := TierSettings.recovers.exists_field hfields
    obtain ⟨x₄, h₄, hsecondaries, hfields⟩ := TierSettings.recovers.exists_field hfields
    obtain ⟨x₅, h₅, hquorum, hfields⟩ := QuorumSettings.recovers.exists_field hfields
    obtain ⟨x₆, h₆, hzones, hfields⟩ := ZoneSettings.recovers.exists_option hfields
    obtain ⟨x₇, h₇, hadviser, -⟩ := AdviserSettings.recovers.exists_option hfields
    obtain ⟨_, _, ⟨_, _⟩, _, _, _⟩ := s
    simp [decode, hrecord, bind_eq_ok, map_eq_ok, h₁, h₂, h₃, h₄, h₅, h₆, h₇, hengine, hcollector,
      hprimaries, hsecondaries, hquorum, hzones, hadviser, join_map_some, durations,
      or_imp, forall_and]

end ClusterScaling
