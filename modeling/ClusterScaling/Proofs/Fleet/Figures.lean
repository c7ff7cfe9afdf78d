import ClusterScaling.Proofs.Fleet.Commit

/-!
# The figures of a cluster follow from its results

Whatever else happens to a fleet, the figures of a cluster are what its
own results make of them, one after the other. Those of other clusters
leave no trace there, not even that the cluster was mentioned. So the
figures of a cluster can be computed from its results alone
(`Fleet.figures_run`), and two fleets with the same results for every
cluster have the same figures, in whatever order results of different
clusters have come.

A recorder keeps its clusters in order, so that figures which are the same
for every cluster are the same altogether (`Recorder.Sorted.ext`).
-/

namespace ClusterScaling

/-! ## One cluster -/

namespace ClusterFigures

/-- The figures of a cluster after a decision about a tier, and a verdict if there is one. -/
def afterTier (g : ClusterFigures) (t : TierOutcome) : ClusterFigures :=
  ⟨g.tiers.modify t.tier fun f => f.after t.decision,
    (t.verdict.map g.verdicts.count).getD g.verdicts⟩

/-- The figures of a cluster after a result. -/
def after (g : ClusterFigures) (o : Outcome) : ClusterFigures :=
  Tier.all.foldl (fun g t => g.afterTier (o.tiers.get t)) g

/-- The figures of a cluster after results, if it is ever mentioned. Nothing is recorded of those of
cancelled cycles. -/
def afterAll (g : Option ClusterFigures) (os : List (Nat × Outcome)) : Option ClusterFigures :=
  os.foldl (fun g o => if o.2.cancelled then g else some ((g.getD .zero).after o.2)) g

end ClusterFigures

/-! ## One result -/

theorem Recorder.get?_update (r : Recorder) (cluster other : String)
    (f : ClusterFigures → ClusterFigures) :
    (r.update cluster f).clusters.get? other
      = if cluster = other then some (f (r.figures cluster)) else r.clusters.get? other :=
  Table.get?_insert _ _ _ _

/-- A recorder that keeps its clusters in order. -/
def Recorder.Sorted (r : Recorder) : Prop := r.clusters.Sorted

theorem Recorder.Sorted.update {r : Recorder} (h : r.Sorted) (cluster : String)
    (f : ClusterFigures → ClusterFigures) : (r.update cluster f).Sorted :=
  Table.Sorted.insert h cluster _

/-- Recorders with the same figures for every cluster are the same. -/
theorem Recorder.Sorted.ext {r r' : Recorder} (h : r.Sorted) (h' : r'.Sorted)
    (hsame : ∀ key, r.clusters.get? key = r'.clusters.get? key) : r = r' :=
  congrArg Recorder.mk (Table.Sorted.ext h h' hsame)

namespace Cycle

/-- A decision about a tier changes the figures of its cluster alone. -/
theorem get?_recordTier (r : Recorder) (cluster other : String) (t : TierOutcome) :
    (recordTier r cluster t).clusters.get? other
      = if cluster = other then some ((r.figures cluster).afterTier t)
        else r.clusters.get? other := by
  unfold recordTier Recorder.recordVerdict Recorder.setReplicas Recorder.recordDecision
  by_cases hkey : cluster = other
  · subst hkey
    obtain ⟨tier, decision, internal, advised, proposer, verdict, plan⟩ := t
    cases verdict <;> cases tier <;>
      simp only [Recorder.get?_update, Recorder.figures_update, if_true] <;> rfl
  · cases t.verdict <;> simp only [Recorder.get?_update, if_neg hkey]

/-- **A result changes the figures of its cluster alone.** -/
theorem get?_record (r : Recorder) (o : Outcome) (key : String) :
    (record r o).clusters.get? key
      = if o.cluster = key then some ((r.figures o.cluster).after o)
        else r.clusters.get? key := by
  show (recordTier (recordTier r o.cluster (o.tiers.get .primaries)) o.cluster
    (o.tiers.get .secondaries)).clusters.get? key = _
  rw [get?_recordTier, get?_recordTier]
  split
  · unfold Recorder.figures
    rw [get?_recordTier, if_pos rfl]
    rfl
  · rfl

theorem sorted_recordTier {r : Recorder} (h : r.Sorted) (cluster : String) (t : TierOutcome) :
    (recordTier r cluster t).Sorted := by
  unfold recordTier
  dsimp only
  split
  · exact ((h.update cluster _).update cluster _).update cluster _
  · exact (h.update cluster _).update cluster _

/-- A result leaves the clusters in order. -/
theorem sorted_record {r : Recorder} (h : r.Sorted) (o : Outcome) : (record r o).Sorted :=
  sorted_recordTier (sorted_recordTier h _ _) _ _

end Cycle

namespace Fleet

/-! ## All results -/

/-- **Results change the figures of their own cluster alone.** -/
theorem get?_recordAll (r : Recorder) (os : List (Nat × Outcome)) (key : String) :
    (recordAll r os).clusters.get? key
      = ClusterFigures.afterAll (r.clusters.get? key) (os.filter fun o => o.2.cluster == key) := by
  unfold recordAll
  induction os generalizing r with
  | nil => rfl
  | cons o os ih =>
    cases hcancelled : o.2.cancelled with
    | true =>
      rw [List.filter_cons_of_neg (by rw [hcancelled]; exact Bool.false_ne_true), ih]
      by_cases hkey : o.2.cluster = key
      · rw [List.filter_cons_of_pos (p := fun o : Nat × Outcome => o.2.cluster == key)
          (beq_iff_eq.mpr hkey)]
        unfold ClusterFigures.afterAll
        rw [List.foldl_cons, if_pos hcancelled]
      · rw [List.filter_cons_of_neg (p := fun o : Nat × Outcome => o.2.cluster == key)
          fun h => hkey (beq_iff_eq.mp h)]
    | false =>
      rw [List.filter_cons_of_pos (by rw [hcancelled]; rfl), List.foldl_cons, ih,
        Cycle.get?_record]
      by_cases hkey : o.2.cluster = key
      · rw [List.filter_cons_of_pos (p := fun o : Nat × Outcome => o.2.cluster == key)
          (beq_iff_eq.mpr hkey), if_pos hkey]
        unfold ClusterFigures.afterAll Recorder.figures
        rw [List.foldl_cons, if_neg (by rw [hcancelled]; exact Bool.false_ne_true), hkey]
      · rw [List.filter_cons_of_neg (p := fun o : Nat × Outcome => o.2.cluster == key)
          fun h => hkey (beq_iff_eq.mp h), if_neg hkey]

/-- Results leave the clusters in order. -/
theorem sorted_recordAll {r : Recorder} (h : r.Sorted) (os : List (Nat × Outcome)) :
    (recordAll r os).Sorted :=
  List.foldlRecOn _ _ h fun _ hr o _ => Cycle.sorted_record hr o.2

/-- What is recorded of a run are its results. -/
theorem recorder_run (s : Settings) (recorder : Option Recorder) (es : List (Moment × Event)) :
    ((start s recorder).run es).recorder
      = recorder.map fun r => recordAll r ((start s recorder).run es).outcomes := by
  obtain ⟨added, hadds, -⟩ := (orderly_start s recorder).adds_run es
  have houtcomes : ((start s recorder).run es).outcomes = added := hadds.outcomes
  rw [houtcomes]
  exact hadds.recorder

/-- **The figures of a cluster are what its results make of them.** -/
theorem figures_run (s : Settings) (recorder : Option Recorder) (es : List (Moment × Event))
    (key : String) : ((start s recorder).run es).recorder.map (fun r => r.clusters.get? key)
      = recorder.map fun r => ClusterFigures.afterAll (r.clusters.get? key)
          (((start s recorder).run es).resultsOf key) := by
  rw [recorder_run, Option.map_map]
  exact congrArg (Option.map · recorder) (funext fun r => get?_recordAll r _ key)

end Fleet

end ClusterScaling
