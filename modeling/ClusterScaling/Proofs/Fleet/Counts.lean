import Mathlib.Algebra.Ring.Nat
import Mathlib.Data.List.Induction
import ClusterScaling.Proofs.Fleet.Figures

/-!
# The figures of a cluster count its cycles

Figures are kept result by result. What they come to is a statement about
all results of a cluster at once: a counter is the number of results that
have what it counts, and a gauge shows the last one
(`ClusterFigures.Counts`). One more result keeps this
(`ClusterFigures.Counts.after`), and since the figures of a cluster are
what its own results make of them, it holds after every run of a fleet.

The sum of the verdicts takes more than the results. A verdict is given if
there are readings and the primaries do not cool down, and a result does
not say what the cycle has remembered. The series of which the results are
those does: `Series.starts` pairs each cycle with the histories it starts
from.
-/

namespace ClusterScaling

/-! ## What the guard is asked for -/

/-- Whether a cycle is told of readings. -/
def Told.hasReadings : Told → Bool
  | .readings _ _ => true
  | _ => false

/-- Whether a cycle that starts from given histories has the guard look at its primaries: there are
readings, and the primaries do not cool down. -/
def Round.isGuarded (s : Settings) (h : ClusterHistory) (r : Round) : Bool :=
  r.told.hasReadings && !s.engine.isCooling h.primaries r.now

namespace Cycle

variable (s : Settings) (cluster : String) (live : LiveState) (h : ClusterHistory) (now : UInt64)

/-- **There is a verdict exactly if there are readings and the primaries do not cool down.** -/
theorem isSome_verdict (told : Told) :
    (outcome s cluster live h now told).tiers.primaries.verdict.isSome
      = (told.hasReadings && !s.engine.isCooling h.primaries now) := by
  cases told with
  | cancelled => rfl
  | unavailable fault => rfl
  | readings snapshot offered =>
    obtain ⟨candidate, -, hverdict⟩ :=
      staged_of_readings s cluster live h now .primaries snapshot offered
    rw [PerTier.get_primaries, PerTier.get_primaries] at hverdict
    rw [hverdict]
    show (stagePrimaries s live candidate _ h.primaries now).verdict.isSome = _
    cases s.engine.isCooling h.primaries now with
    | true => rfl
    | false =>
      show (guardedPrimaries s live candidate h.primaries now).verdict.isSome = true
      unfold guardedPrimaries
      dsimp only
      split <;> rfl

/-- There is no verdict about the secondaries. -/
theorem verdict_secondaries (told : Told) :
    (outcome s cluster live h now told).tiers.secondaries.verdict = none := by
  cases told <;> rfl

end Cycle

/-! ## What figures come to -/

/-- An outcome speaks of each tier in its place, and of a verdict for the primaries only. -/
structure Outcome.Proper (o : Outcome) : Prop where
  /-- Each tier is in its place. -/
  tier : ∀ t, (o.tiers.get t).tier = t
  /-- The secondaries have no verdict. -/
  verdict : o.tiers.secondaries.verdict = none

namespace ClusterFigures

/-- The figures count some results, and show the last of them. -/
structure Counts (g : ClusterFigures) (os : List Outcome) : Prop where
  /-- Decisions are counted by tier and direction. -/
  events : ∀ t a, (g.tiers.get t).events.get a
    = os.countP fun o => (o.tiers.get t).decision.action = a
  /-- The last target of each tier is shown. -/
  replicas : ∀ t, (g.tiers.get t).replicas
    = (os.getLast?.map fun o => (o.tiers.get t).decision.target).getD 0
  /-- The last confidence of each tier is shown. -/
  confidence : ∀ t, (g.tiers.get t).confidence
    = (os.getLast?.map fun o => unitClamp (o.tiers.get t).decision.confidence).getD 0.0
  /-- Verdicts are counted. -/
  verdicts : ∀ v, g.verdicts.get v = os.countP fun o => o.tiers.primaries.verdict = some v

theorem counts_zero : zero.Counts [] := by
  refine ⟨fun t a => ?_, fun t => ?_, fun t => ?_, fun v => ?_⟩
  · cases t <;> cases a <;> rfl
  · cases t <;> rfl
  · cases t <;> rfl
  · cases v <;> rfl

variable {g : ClusterFigures} {os : List Outcome}

/-- The figures of each tier after a result. -/
theorem get_tiers_after {o : Outcome} (ho : o.Proper) (t : Tier) :
    (g.after o).tiers.get t = (g.tiers.get t).after (o.tiers.get t).decision := by
  show (((g.afterTier (o.tiers.get .primaries)).afterTier (o.tiers.get .secondaries)).tiers).get t
    = _
  unfold afterTier PerTier.modify
  dsimp only
  rw [ho.tier, ho.tier]
  cases t <;> rfl

/-- The verdicts after a result. -/
theorem get_verdicts_after {o : Outcome} (ho : o.Proper) (v : Verdict) :
    (g.after o).verdicts.get v
      = g.verdicts.get v + if o.tiers.primaries.verdict = some v then 1 else 0 := by
  show ((o.tiers.secondaries.verdict.map _).getD
    ((o.tiers.primaries.verdict.map g.verdicts.count).getD g.verdicts)).get v = _
  rw [ho.verdict]
  cases o.tiers.primaries.verdict with
  | none => rfl
  | some w =>
    show (g.verdicts.count w).get v = _
    rw [VerdictCounts.get_count]
    by_cases hw : w = v
    · rw [if_pos hw, if_pos (congrArg some hw)]
    · rw [if_neg hw, if_neg fun h => hw (Option.some.inj h)]
      rfl

/-- **Figures count one more result.** -/
theorem Counts.after (h : g.Counts os) {o : Outcome} (ho : o.Proper) :
    (g.after o).Counts (os ++ [o]) := by
  refine ⟨fun t a => ?_, fun t => ?_, fun t => ?_, fun v => ?_⟩
  · rw [get_tiers_after ho]
    show ((g.tiers.get t).events.count _).get a = _
    rw [EventCounts.get_count, h.events, List.countP_append, List.countP_singleton]
    simp only [decide_eq_true_eq]
    split <;> rfl
  · rw [get_tiers_after ho, List.getLast?_concat]
    rfl
  · rw [get_tiers_after ho, List.getLast?_concat]
    rfl
  · rw [get_verdicts_after ho, h.verdicts, List.countP_append, List.countP_singleton]
    simp only [decide_eq_true_eq]

/-- **The figures after results count those of them that were not cancelled.** -/
theorem counts_afterAll {rs : List (Nat × Outcome)} (hproper : ∀ o ∈ rs, o.2.Proper) :
    ((afterAll none rs).getD .zero).Counts
      ((rs.filter fun o => !o.2.cancelled).map Prod.snd) := by
  induction rs using List.reverseRecOn with
  | nil => exact counts_zero
  | append_singleton rs o ih =>
    obtain ⟨hrs, ho⟩ := List.forall_mem_append.mp hproper
    have hstep : afterAll none (rs ++ [o]) = if o.2.cancelled then afterAll none rs
        else some (((afterAll none rs).getD .zero).after o.2) := by
      unfold afterAll
      rw [List.foldl_append]
      rfl
    rw [hstep, List.filter_append, List.map_append]
    cases hcancelled : o.2.cancelled with
    | true => simpa [hcancelled] using ih hrs
    | false => simpa [hcancelled] using (ih hrs).after (ho o (List.mem_singleton_self o))

/-- **The verdicts sum up to the results that have one.** -/
theorem Counts.sum_verdicts (h : g.Counts os) :
    (Verdict.all.map g.verdicts.get).sum
      = os.countP fun o => o.tiers.primaries.verdict.isSome := by
  rw [funext h.verdicts]
  clear h
  induction os with
  | nil => rfl
  | cons o os ih =>
    simp only [List.countP_cons]
    rw [← ih]
    cases o.tiers.primaries.verdict with
    | none => simp
    | some w => cases w <;> simp [Verdict.all] <;> omega

end ClusterFigures

/-! ## Cycles and what they start from -/

namespace Series

variable (s : Settings) (cluster : String)

/-- The cycles of a series, each with the histories that it starts from. -/
def starts : ClusterHistory → List Round → List (ClusterHistory × Round)
  | _, [] => []
  | h, r :: rs => (h, r) :: starts (r.after s cluster h) rs

/-- The results of a series are those of its cycles from where they start. -/
theorem outcomes_eq_map (h : ClusterHistory) (rs : List Round) :
    outcomes s cluster h rs = (starts s cluster h rs).map fun c => c.2.outcome s cluster c.1 := by
  induction rs generalizing h with
  | nil => rfl
  | cons r rs ih => exact congrArg (_ :: ·) (ih _)

variable {s cluster}

/-- The cycles of a series are those of its rounds. -/
theorem mem_of_mem_starts {h : ClusterHistory} {rs : List Round} {c : ClusterHistory × Round}
    (hc : c ∈ starts s cluster h rs) : c.2 ∈ rs := by
  induction rs generalizing h with
  | nil => cases hc
  | cons r rs ih =>
    rcases List.mem_cons.mp hc with rfl | htail
    · exact List.mem_cons_self
    · exact List.mem_cons_of_mem _ (ih htail)

end Series

namespace Fleet

/-- The cycles of a cluster that have ended in a run, in their order, each with the histories that
it started from. -/
def cyclesOf (s : Settings) (key : String) (sights : List Sight) : List (ClusterHistory × Round) :=
  Series.starts s key (.empty s.engine.historyCapacity) ((endingsOf key sights).map Ended.round)

/-- The results for a cluster are those of its cycles. -/
theorem outcomes_resultsOf (s : Settings) (recorder : Option Recorder)
    (es : List (Moment × Event)) (key : String) :
    (((start s recorder).run es).resultsOf key).map Prod.snd
      = (cyclesOf s key ((start s recorder).watch es)).map fun c => c.2.outcome s key c.1 := by
  have hresults := ((orderly_start s recorder).serial_run es key).results
  rw [hresults]
  show (([] : List (Nat × Outcome)) ++ List.zip _ _).map Prod.snd = _
  rw [List.nil_append, List.map_snd_zip (by simp)]
  exact Series.outcomes_eq_map s key _ _

/-- A result for a cluster is proper. -/
theorem proper_of_mem {s : Settings} {recorder : Option Recorder} {es : List (Moment × Event)}
    {key : String} {o : Nat × Outcome} (ho : o ∈ ((start s recorder).run es).resultsOf key) :
    o.2.Proper := by
  have hmem : o.2 ∈ (((start s recorder).run es).resultsOf key).map Prod.snd :=
    List.mem_map_of_mem ho
  rw [outcomes_resultsOf] at hmem
  obtain ⟨c, -, hc⟩ := List.mem_map.mp hmem
  rw [← hc]
  exact ⟨Cycle.tier_outcome s key c.2.live c.1 c.2.now c.2.told,
    Cycle.verdict_secondaries s key c.2.live c.1 c.2.now c.2.told⟩

/-- The results for a cluster that were not cancelled are those of its cycles that commit. -/
theorem committed_resultsOf (s : Settings) (recorder : Option Recorder)
    (es : List (Moment × Event)) (key : String) :
    ((((start s recorder).run es).resultsOf key).filter fun o => !o.2.cancelled).map Prod.snd
      = ((cyclesOf s key ((start s recorder).watch es)).filter fun c => c.2.commits).map
          fun c => c.2.outcome s key c.1 := by
  show List.map Prod.snd (List.filter ((fun o : Outcome => !o.cancelled) ∘ Prod.snd) _) = _
  rw [← List.filter_map, outcomes_resultsOf, List.filter_map]
  refine congrArg _ (List.filter_congr fun c _ => ?_)
  rw [Function.comp_apply, Round.cancelled_outcome, Bool.not_not]

/-- **A recorder that is there from the start counts the cycles of every cluster.** Whatever happens
to a fleet, the figures of a cluster count the results of those of its cycles that were not
cancelled, and its verdicts sum up to the cycles that had readings and whose primaries did not cool
down. -/
theorem recorder_counts (s : Settings) (es : List (Moment × Event)) :
    let f := (start s (some .empty)).run es
    ∃ r, f.recorder = some r ∧ ∀ key,
      let cycles := cyclesOf s key ((start s (some .empty)).watch es)
      let committed := ((f.resultsOf key).filter fun o => !o.2.cancelled).map Prod.snd
      committed = (cycles.filter fun c => c.2.commits).map (fun c => c.2.outcome s key c.1)
        ∧ (r.figures key).Counts committed
        ∧ (Verdict.all.map (r.figures key).verdicts.get).sum
          = cycles.countP fun c => c.2.commits && c.2.isGuarded s c.1 := by
  intro f
  have hrecorder : f.recorder = some (recordAll .empty f.outcomes) := recorder_run s _ es
  refine ⟨_, hrecorder, fun key => ?_⟩
  dsimp only
  have hcounts : ((recordAll .empty f.outcomes).figures key).Counts
      (((f.resultsOf key).filter fun o => !o.2.cancelled).map Prod.snd) := by
    unfold Recorder.figures
    rw [get?_recordAll]
    exact ClusterFigures.counts_afterAll fun o ho => proper_of_mem ho
  have hcommitted := committed_resultsOf s (some .empty) es key
  refine ⟨hcommitted, hcounts, ?_⟩
  rw [hcounts.sum_verdicts, hcommitted, List.countP_map, List.countP_filter]
  refine List.countP_congr fun c _ => ?_
  have hverdict := Cycle.isSome_verdict s key c.2.live c.1 c.2.now c.2.told
  rw [Function.comp_apply, Bool.and_comm]
  unfold Round.outcome Round.isGuarded
  rw [hverdict]

end Fleet

end ClusterScaling
