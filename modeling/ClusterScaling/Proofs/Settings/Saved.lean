import ClusterScaling.Settings.File
import ClusterScaling.Proofs.Settings.Recovered

/-!
# Settings that are saved and loaded again

Settings are saved with durations in whole milliseconds, so what comes
back is not always what was saved. `Settings.reloads_iff_kept` says
exactly when it is, for settings that survive as TOML, and what comes
back otherwise: the settings with whole milliseconds, provided that they
still make sense. They do with one exception. An adviser may have less
than a millisecond to answer, and loses it all by being saved; then the
text that was written is refused.

That every other check passes is not obvious, because cutting makes a
duration smaller and the time for a fetch has a lower bound. The bound is
a whole second, and a duration above it stays above it.
-/

namespace ClusterScaling

open Document Toml

/-! ## What is cut off -/

/-- The rules of one direction, with whole milliseconds. -/
def StepRules.cutToMillis (r : StepRules) : StepRules :=
  { r with
    window := r.window.cutToMillis
    policies := r.policies.map fun p => { p with period := p.period.cutToMillis } }

/-- The settings of a tier, with whole milliseconds. -/
def TierSettings.cutToMillis (t : TierSettings) : TierSettings :=
  { t with stepping := ⟨t.stepping.up.cutToMillis, t.stepping.down.cutToMillis⟩ }

/-- The settings of the collection, with whole milliseconds. -/
def CollectorSettings.cutToMillis (c : CollectorSettings) : CollectorSettings :=
  { c with
    cacheTtl := c.cacheTtl.cutToMillis
    fetchTimeout := c.fetchTimeout.cutToMillis
    breakerCooldown := c.breakerCooldown.cutToMillis }

/-- The settings of an adviser, with whole milliseconds. -/
def AdviserSettings.cutToMillis (a : AdviserSettings) : AdviserSettings :=
  { a with timeout := a.timeout.cutToMillis }

/-- Settings, with whole milliseconds. -/
def Settings.cutToMillis (s : Settings) : Settings :=
  { s with
    engine := { s.engine with cooldown := s.engine.cooldown.cutToMillis }
    collector := s.collector.cutToMillis
    tiers := s.tiers.map (·.cutToMillis)
    adviser := s.adviser.map (·.cutToMillis) }

/-- A duration is written without what is less than a millisecond. -/
@[simp]
theorem ofDuration_cutToMillis (d : Duration) : ofDuration d.cutToMillis = ofDuration d :=
  congrArg text d.canonical_cutToMillis

@[simp]
theorem StepRules.encode_cutToMillis (r : StepRules) : r.cutToMillis.encode = r.encode := by
  simp [encode, cutToMillis, ofList, StepPolicy.encode]

@[simp]
theorem TierSettings.encode_cutToMillis (t : TierSettings) : t.cutToMillis.encode = t.encode := by
  simp [encode, cutToMillis, Stepping.encode]

@[simp]
theorem CollectorSettings.encode_cutToMillis (c : CollectorSettings) :
    c.cutToMillis.encode = c.encode := by
  simp [encode, cutToMillis]

/-- What is less than a millisecond is not written. -/
theorem Settings.encode_cutToMillis (s : Settings) : s.cutToMillis.encode = s.encode := by
  have hadviser : ofOption AdviserSettings.encode (s.adviser.map (·.cutToMillis))
      = ofOption AdviserSettings.encode s.adviser := by
    cases s.adviser with
    | none => rfl
    | some a => simp [ofOption, AdviserSettings.encode, AdviserSettings.cutToMillis]
  simp [encode, cutToMillis, hadviser, PerTier.map, EngineSettings.encode]

@[simp]
theorem StepRules.durations_cutToMillis (r : StepRules) :
    r.cutToMillis.durations = r.durations.map (·.cutToMillis) := by
  simp [durations, cutToMillis, Function.comp_def]

@[simp]
theorem TierSettings.durations_cutToMillis (t : TierSettings) :
    t.cutToMillis.stepping.durations = t.stepping.durations.map (·.cutToMillis) := by
  simp [Stepping.durations, cutToMillis]

theorem Settings.durations_cutToMillis (s : Settings) :
    s.cutToMillis.durations = s.durations.map (·.cutToMillis) := by
  have hadviser : (s.adviser.map (·.cutToMillis)).toList.map (·.timeout)
      = (s.adviser.toList.map (·.timeout)).map (·.cutToMillis) := by
    cases s.adviser <;> rfl
  simp [durations, cutToMillis, hadviser, PerTier.map, CollectorSettings.durations,
    CollectorSettings.cutToMillis]

/-! ## What the check says of it -/

/-- What a brief timeout is refused for. -/
def noTime : Fault := .settings "webhook: timeout must be positive"

/-- A timeout below a millisecond is no timeout any more. -/
theorem AdviserSettings.check_cutToMillis {a : AdviserSettings} (h : a.check = .ok ()) :
    a.cutToMillis.check = if a.timeout.millis = 0 then .error noTime else .ok () := by
  have hscheme : demand (adviserScheme.toList.isPrefixOf a.url.toList)
      ("webhook: unsupported url " ++ a.url) = .ok () := (check_then_eq_ok.mp h).1
  have hzero : a.cutToMillis.timeout.isZero = decide (a.timeout.millis = 0) := by
    show decide (a.timeout.millis * 1000000 = 0) = _
    exact decide_eq_decide.mpr (by omega)
  unfold check
  rw [show a.cutToMillis.url = a.url from rfl, hscheme, hzero]
  by_cases hmillis : a.timeout.millis = 0
  · rw [if_pos hmillis, decide_eq_true hmillis]
    rfl
  · rw [if_neg hmillis, decide_eq_false hmillis]
    rfl

/-- The bounds of the time for a fetch are whole seconds, so a time within them stays there. -/
theorem CollectorSettings.check_cutToMillis {c : CollectorSettings} (h : c.check = .ok ()) :
    c.cutToMillis.check = .ok () := by
  obtain ⟨hwidth, ⟨hleast, hmost⟩, hthreshold⟩ := check_eq_ok.mp h
  refine check_eq_ok.mpr ⟨hwidth, ⟨?_, ?_⟩, hthreshold⟩
  · show 1000000000 ≤ c.fetchTimeout.nanos / 1000000 * 1000000
    have hleast : 1000000000 ≤ c.fetchTimeout.nanos := hleast
    omega
  · exact Nat.le_trans (Nat.div_mul_le_self ..) hmost

/-- **Settings with whole milliseconds make sense if the settings did**, unless the adviser is left
without time. -/
theorem Settings.check_cutToMillis {s : Settings} (h : s.check = .ok ()) :
    s.cutToMillis.check
      = if ∃ a ∈ s.adviser, a.timeout.millis = 0 then .error noTime else .ok () := by
  obtain ⟨htiers, hquorum, hzones, hadviser, hcollector, hengine⟩ := check_eq_ok.mp h
  have htiers : demandAll (fun t => (s.cutToMillis.tiers.get t).check t) Tier.all = .ok () := by
    refine demandAll_eq_ok.mpr fun t _ => ?_
    rw [show s.cutToMillis.tiers.get t = (s.tiers.get t).cutToMillis from
      PerTier.get_map _ s.tiers t]
    exact htiers t
  have hzones : demandAll ZoneSettings.check s.cutToMillis.zones.toList = .ok () :=
    demandAll_eq_ok.mpr fun z hz => hzones z (Option.mem_toList.mp hz)
  have hquorum : s.cutToMillis.quorum.check s.cutToMillis.tiers.primaries = .ok () := hquorum
  have hengine : s.cutToMillis.engine.check = .ok () := hengine
  have hcollector : s.cutToMillis.collector.check = .ok () :=
    CollectorSettings.check_cutToMillis hcollector
  unfold check
  rw [htiers, hzones, hquorum, hcollector, hengine,
    show s.cutToMillis.adviser = s.adviser.map (·.cutToMillis) from rfl]
  cases hgiven : s.adviser with
  | none =>
    rw [if_neg (fun ⟨a, ha, _⟩ => nomatch ha)]
    rfl
  | some a =>
    have hchecked : demandAll AdviserSettings.check ((some a).map (·.cutToMillis)).toList
        = if a.timeout.millis = 0 then .error noTime else .ok () := by
      show (a.cutToMillis.check >>= fun _ => Except.ok ()) = _
      rw [AdviserSettings.check_cutToMillis (hadviser a hgiven)]
      split <;> rfl
    have hbrief : (∃ b ∈ some a, b.timeout.millis = 0) ↔ a.timeout.millis = 0 := by simp
    rw [hchecked, if_congr hbrief rfl rfl]
    split <;> rfl

/-! ## Files -/

namespace Settings

variable {text : String} {s : Settings}

/-- A file whose document is decoded holds what the check leaves of it. -/
theorem ofToml_of_decode {d : Document} (hread : Toml.read? text = some d)
    (hdecode : decode d Toml.manner = .ok s) :
    ofToml text = (s.check.map fun _ => s).mapError .invalid := by
  have hrun : (decode d).run Toml.manner = .ok s := hdecode
  unfold ofToml
  rw [hread]
  dsimp only
  rw [hrun]
  dsimp only
  cases s.check <;> rfl

/-- A file holds what its document is decoded as, if that makes sense. -/
theorem ofToml_eq_ok : ofToml text = .ok s
    ↔ ∃ d, Toml.read? text = some d ∧ decode d Toml.manner = .ok s ∧ s.check = .ok () := by
  constructor
  · intro h
    unfold ofToml at h
    split at h
    next => cases h
    next d hread =>
      split at h
      next => cases h
      next s' hdecode =>
        split at h
        next => cases h
        next hcheck =>
          cases h
          exact ⟨d, hread, hdecode, hcheck⟩
  · rintro ⟨d, hread, hdecode, hcheck⟩
    rw [ofToml_of_decode hread hdecode, hcheck]
    rfl

/-- Settings that make sense come back from their file if their durations do, and only then. -/
theorem ofToml_toToml_eq_ok (hcheck : s.check = .ok ()) (htoml : Survives s.encode) :
    ofToml s.toToml = .ok s ↔ ∀ t ∈ s.durations, t.Kept := by
  obtain ⟨d, hread, hd⟩ := htoml
  rw [ofToml_eq_ok, ← recovers.reads hd]
  constructor
  · rintro ⟨d', hread', hdecode, -⟩
    cases hread.symm.trans hread'
    exact hdecode
  · intro hdecode
    exact ⟨d, hread, hdecode, hcheck⟩

/-- What comes back of settings whose durations have up to 31 bits of milliseconds: the same with
whole milliseconds, or nothing if this leaves the adviser without time. -/
theorem ofToml_toToml_of_millis (hcheck : s.check = .ok ()) (htoml : Survives s.encode)
    (hshort : ∀ t ∈ s.durations, t.millis < 2 ^ 31) :
    ofToml s.toToml
      = if ∃ a ∈ s.adviser, a.timeout.millis = 0 then .error (.invalid noTime)
        else .ok s.cutToMillis := by
  obtain ⟨d, hread, hd⟩ := htoml
  rw [← encode_cutToMillis] at hd
  have hkept : ∀ t ∈ s.cutToMillis.durations, t.Kept := by
    rw [durations_cutToMillis]
    exact List.forall_mem_map.mpr fun t ht => Duration.kept_cutToMillis (hshort t ht)
  rw [toToml, ofToml_of_decode hread ((recovers.reads hd).mpr hkept), check_cutToMillis hcheck]
  by_cases hbrief : ∃ a ∈ s.adviser, a.timeout.millis = 0
  · rw [if_pos hbrief, if_pos hbrief]
    rfl
  · rw [if_neg hbrief, if_neg hbrief]
    rfl

/-- **Settings come back from their file if and only if all their durations do.** -/
theorem reloads_iff_kept (haccepted : ofToml text = .ok s) (htoml : Survives s.encode) :
    (ofToml s.toToml = .ok s ↔ ∀ t ∈ s.durations, t.Kept)
      ∧ ((∀ t ∈ s.durations, t.millis < 2 ^ 31) →
          ofToml s.toToml
            = if ∃ a ∈ s.adviser, a.timeout.millis = 0 then .error (.invalid noTime)
              else .ok s.cutToMillis)
      ∧ (∀ t : Duration, t.millis < 2 ^ 31 → (t.Kept ↔ 1000000 ∣ t.nanos))
      ∧ ∀ t : Duration, 1000000000 ∣ t.nanos → t.seconds < 2 ^ 53 → t.Kept :=
  have ⟨_, _, _, hcheck⟩ := ofToml_eq_ok.mp haccepted
  ⟨ofToml_toToml_eq_ok hcheck htoml, ofToml_toToml_of_millis hcheck htoml,
    fun _ => Duration.kept_iff, fun _ => Duration.kept_of_seconds⟩

/-- A file with an adviser that has some time to answer. -/
def advisedFile (timeout : String) : String :=
  "primaries = \x7bmin_replicas = 1, max_replicas = 3\x7d\n" ++
    "secondaries = \x7bmin_replicas = 0, max_replicas = 9\x7d\n" ++
    "webhook = \x7burl = \"http://a\", timeout = \"" ++ timeout ++ "\"\x7d"

/-- What is decided of the settings in a file holds of them. -/
theorem exists_of_decide {p : Settings → Prop} [DecidablePred p]
    (h : (match ofToml text with
      | .ok s => decide (p s)
      | .error _ => false) = true) : ∃ s, ofToml text = .ok s ∧ p s := by
  split at h
  next s hs => exact ⟨s, hs, of_decide_eq_true h⟩
  next => cases h

/-- A second and a half for the adviser comes back. -/
theorem reloads_iff_kept_advised : ∃ s, ofToml (advisedFile "1.5s") = .ok s
    ∧ Survives s.encode ∧ ofToml s.toToml = .ok s := by
  obtain ⟨s, hs, htoml, hkept⟩ := @exists_of_decide (advisedFile "1.5s")
    (fun s => Survives s.encode ∧ ∀ t ∈ s.durations, t.Kept) _ (by decide +kernel)
  exact ⟨s, hs, htoml, (reloads_iff_kept hs htoml).1.mpr hkept⟩

/-- Less than a millisecond for the adviser is accepted, and saved as no time, which is not. -/
theorem not_reloads_hurried : ∃ s, ofToml (advisedFile "0.4ms") = .ok s
    ∧ Survives s.encode ∧ ofToml s.toToml = .error (.invalid noTime) := by
  obtain ⟨s, hs, htoml, hshort, hbrief⟩ := @exists_of_decide (advisedFile "0.4ms")
    (fun s => Survives s.encode ∧ (∀ t ∈ s.durations, t.millis < 2 ^ 31)
      ∧ ∃ a ∈ s.adviser, a.timeout.millis = 0) _ (by decide +kernel)
  obtain ⟨-, -, -, hcheck⟩ := ofToml_eq_ok.mp hs
  refine ⟨s, hs, htoml, ?_⟩
  rw [ofToml_toToml_of_millis hcheck htoml hshort, if_pos hbrief]

end Settings

end ClusterScaling
