import ClusterScaling.Proofs.Collector.Calls

/-!
# When a snapshot is degraded

A snapshot is degraded if a source of the fetch has failed. What a reader
wants to know is whether a source is missing from it, and the two are not
the same. A source whose task has died is missing, but nobody is told that
it has failed: there is no outcome of it from which the snapshot could be
made. So such a snapshot passes for a whole one, unless another source has
failed as well (`Collector.degraded_iff_missed`).

That a source is missing, and that its task has died, is said here in terms
of what is heard of it, for which it need not have an outcome.
-/

namespace ClusterScaling

namespace Fetch

variable {l : BreakerLimits} {circuit : Circuit} {f : Fetch} {r : SourceRef}
variable {notes : List (Nat × Slot.Note)}

/-- A source whose task has died has made no report. -/
theorem Course.not_succeeded_of_died (hc : Course l circuit f r notes)
    (hdied : ∃ later, (later, .died) ∈ notes) : ∀ later, (later, .succeeded) ∉ notes := by
  obtain ⟨later, hdied⟩ := hdied
  cases hc <;> simp_all

/-- **In a fetch that completes, a source counts as one that has failed exactly if it has made no
report and its task has not died.** -/
theorem Course.exists_error_iff (hc : Course l circuit f r notes) (honce : f.Once)
    (hcomplete : f.isComplete = true) :
    (∃ fault, ⟨r, .error fault⟩ ∈ f.outcomes)
      ↔ (∀ later, (later, .succeeded) ∉ notes) ∧ ¬ ∃ later, (later, .died) ∈ notes := by
  obtain ⟨hpending, hrunning⟩ := Bool.and_eq_true_iff.mp hcomplete
  cases hc with
  | waiting h =>
    rw [List.isEmpty_iff.mp hpending] at h
    cases h
  | running _ _ h =>
    rw [List.isEmpty_iff.mp hrunning] at h
    cases h
  | skipped _ _ h => exact iff_of_true ⟨_, h⟩ (by simp)
  | failed _ _ _ _ h => exact iff_of_true ⟨_, h⟩ (by simp)
  | succeeded _ later _ _ h =>
    refine iff_of_false (fun ⟨fault, hfault⟩ => ?_) fun hmissed => ?_
    · cases honce.outcome_inj h hfault rfl
    · exact hmissed.1 later (by simp)
  | died _ later _ h =>
    refine iff_of_false (fun ⟨fault, hfault⟩ => h ?_) fun hmissed => ?_
    · exact List.mem_map_of_mem (List.mem_append_left _ (List.mem_map_of_mem hfault))
    · exact hmissed.2 ⟨later, by simp⟩

end Fetch

namespace Collector

open Slot

/-- A source has made no report, as far as is heard. -/
def Missed (heard : Hearsay) (r : SourceRef) : Prop :=
  ∀ later, (later, .succeeded) ∉ notesOf r.id heard

/-- The task of asking a source has died. -/
def Died (heard : Hearsay) (r : SourceRef) : Prop := ∃ later, (later, .died) ∈ notesOf r.id heard

variable {settings : CollectorSettings} {key : String} {es : List Happening}

section

variable {b p call : Nat} {now : Moment} {sources : List SourceRef} {snapshot : Snapshot}

/-- A listed source whose task has died is missing. -/
theorem missed_of_died (hbegan : es[b]? = some (now, key, .enter sources))
    (hflight : InFlight ((start settings).watch key es) b call p)
    (hcompleted : Saw ((start settings).watch key es) p (.completed call (.ok snapshot)))
    {r : SourceRef} (hr : r ∈ distinct [] sources)
    (hdied : Died ((((start settings).listen key es).take p).drop (b + 1)) r) :
    Missed ((((start settings).listen key es).take p).drop (b + 1)) r := by
  obtain ⟨f, -, -, -, hsources, -, -, hcourse⟩ := exists_complete hbegan hflight hcompleted
  exact (hcourse r (hsources ▸ hr)).not_succeeded_of_died hdied

/-- A snapshot is degraded exactly if a listed source is missing whose task has not died. -/
theorem degraded_iff_missed_alive (hbegan : es[b]? = some (now, key, .enter sources))
    (hflight : InFlight ((start settings).watch key es) b call p)
    (hcompleted : Saw ((start settings).watch key es) p (.completed call (.ok snapshot))) :
    let heard := (((start settings).listen key es).take p).drop (b + 1)
    snapshot.degraded = true
      ↔ ∃ r ∈ distinct [] sources, Missed heard r ∧ ¬ Died heard r := by
  intro heard
  obtain ⟨f, wall, honce, hcomplete, hsources, hhandled, hresult, hcourse⟩ :=
    exists_complete hbegan hflight hcompleted
  rw [Averaging.degraded_snapshot hresult, ← hsources]
  constructor
  · rintro ⟨⟨r, result⟩, ho, hfailed⟩
    have hr : r ∈ f.sources := hhandled r (List.mem_append_left _ (List.mem_map_of_mem ho))
    cases result with
    | ok report => cases hfailed
    | error fault => exact ⟨r, hr, ((hcourse r hr).exists_error_iff honce hcomplete).mp ⟨fault, ho⟩⟩
  · rintro ⟨r, hr, hmissed⟩
    obtain ⟨fault, ho⟩ := ((hcourse r hr).exists_error_iff honce hcomplete).mpr hmissed
    exact ⟨_, ho, rfl⟩

/-- **A snapshot is degraded exactly if a source is missing whose task has not died**, of those that
are listed. To be degraded exactly if any source is missing takes one condition more: if a task has
died, then another source has failed. -/
theorem degraded_iff_missed (hbegan : es[b]? = some (now, key, .enter sources))
    (hflight : InFlight ((start settings).watch key es) b call p)
    (hcompleted : Saw ((start settings).watch key es) p (.completed call (.ok snapshot))) :
    let heard := (((start settings).listen key es).take p).drop (b + 1)
    let listed := distinct [] sources
    (snapshot.degraded = true ↔ ∃ r ∈ listed, Missed heard r ∧ ¬ Died heard r)
      ∧ ((snapshot.degraded = true ↔ ∃ r ∈ listed, Missed heard r)
        ↔ ((∃ r ∈ listed, Died heard r) → ∃ r ∈ listed, Missed heard r ∧ ¬ Died heard r)) := by
  intro heard listed
  have hdegraded : snapshot.degraded = true ↔ ∃ r ∈ listed, Missed heard r ∧ ¬ Died heard r :=
    degraded_iff_missed_alive hbegan hflight hcompleted
  refine ⟨hdegraded, fun hexact hdied => ?_, fun hother => ⟨fun h => ?_, fun hmissing => ?_⟩⟩
  · obtain ⟨r, hr, hdied⟩ := hdied
    exact hdegraded.mp (hexact.mpr ⟨r, hr, missed_of_died hbegan hflight hcompleted hr hdied⟩)
  · obtain ⟨r, hr, hmissed, -⟩ := hdegraded.mp h
    exact ⟨r, hr, hmissed⟩
  · obtain ⟨r, hr, hmissed⟩ := hmissing
    refine hdegraded.mpr ?_
    by_cases hdied : Died heard r
    · exact hother ⟨r, hr, hdied⟩
    · exact ⟨r, hr, hmissed, hdied⟩

end

/-- A run in which a caller fetches and each source comes to some end. -/
def fetching (key : String) (ends : List (SourceRef × Ending)) : List Happening :=
  let launches := ends.map fun _ => Event.launch
  let finishes := ends.map fun e => Event.finish e.1.id e.2
  let events := .arrive 1 :: .queue 1 :: .enter (ends.map (·.1))
    :: (launches ++ finishes ++ [.settle])
  events.map fun e => (⟨0, 0⟩, key, e)

/-- Of three members one reports, one does not answer in time, and the task of one dies. -/
theorem degraded_iff_missed_timedOut :
    let es := fetching "db/a" [(⟨"a", .primaries⟩, .died), (⟨"b", .primaries⟩, .timedOut),
      (⟨"c", .primaries⟩, .reported [(.cpu, 70.0)])]
    let listed := distinct [] [⟨"a", .primaries⟩, ⟨"b", .primaries⟩, ⟨"c", .primaries⟩]
    let heard := (((start .usual).listen "db/a" es).take 9).drop 3
    let snapshot : Snapshot := ⟨⟨Averaging.readings [(.cpu, 70.0)], .absent⟩, 0, true⟩
    es[2]? = some (⟨0, 0⟩, "db/a",
        .enter [⟨"a", .primaries⟩, ⟨"b", .primaries⟩, ⟨"c", .primaries⟩])
      ∧ InFlight ((start .usual).watch "db/a" es) 2 1 9
      ∧ Saw ((start .usual).watch "db/a" es) 9 (.completed 1 (.ok snapshot))
      ∧ (snapshot.degraded = true ↔ ∃ r ∈ listed, Missed heard r ∧ ¬ Died heard r)
      ∧ ((snapshot.degraded = true ↔ ∃ r ∈ listed, Missed heard r)
        ↔ ((∃ r ∈ listed, Died heard r) → ∃ r ∈ listed, Missed heard r ∧ ¬ Died heard r)) := by
  intro es listed heard snapshot
  have hbegan : es[2]? = some (⟨0, 0⟩, "db/a",
      .enter [⟨"a", .primaries⟩, ⟨"b", .primaries⟩, ⟨"c", .primaries⟩]) := rfl
  have hflight : InFlight ((start .usual).watch "db/a" es) 2 1 9 :=
    inFlight_of_all ⟨⟨0, 0⟩, by with_unfolding_all rfl⟩ (by decide) (by with_unfolding_all rfl)
  have hcompleted : Saw ((start .usual).watch "db/a" es) 9 (.completed 1 (.ok snapshot)) := by
    have hmade : Averaging.snapshot [⟨"a", .primaries⟩, ⟨"b", .primaries⟩, ⟨"c", .primaries⟩]
        [⟨⟨"b", .primaries⟩, .error (.sourceFailed "b" "timed out after 5s")⟩,
          ⟨⟨"c", .primaries⟩, .ok [(.cpu, 70.0)]⟩] 0 = .ok snapshot := by
      rw [Averaging.snapshot, Averaging.sorted_of_le (by decide)]
      rfl
    rw [← hmade]
    exact ⟨⟨0, 0⟩, by with_unfolding_all rfl⟩
  exact ⟨hbegan, hflight, hcompleted, degraded_iff_missed hbegan hflight hcompleted⟩

/-- **A dead task goes unnoticed**: one member reports, the task of the other one dies, and the
snapshot is not degraded although the second one is missing from it. -/
theorem not_degraded_died :
    let es := fetching "db/a" [(⟨"a1", .primaries⟩, .died),
      (⟨"a2", .primaries⟩, .reported [(.cpu, 70.0)])]
    let listed := distinct [] [⟨"a1", .primaries⟩, ⟨"a2", .primaries⟩]
    let heard := (((start .usual).listen "db/a" es).take 7).drop 3
    let snapshot : Snapshot := ⟨⟨Averaging.readings [(.cpu, 70.0)], .absent⟩, 0, false⟩
    es[2]? = some (⟨0, 0⟩, "db/a", .enter [⟨"a1", .primaries⟩, ⟨"a2", .primaries⟩])
      ∧ InFlight ((start .usual).watch "db/a" es) 2 1 7
      ∧ Saw ((start .usual).watch "db/a" es) 7 (.completed 1 (.ok snapshot))
      ∧ ¬ (snapshot.degraded = true ↔ ∃ r ∈ listed, Missed heard r) := by
  intro es listed heard snapshot
  refine ⟨rfl, ?_, ⟨⟨0, 0⟩, by with_unfolding_all rfl⟩, fun hexact => ?_⟩
  · exact inFlight_of_all ⟨⟨0, 0⟩, by with_unfolding_all rfl⟩ (by decide) (by with_unfolding_all rfl)
  · have hnotes : notesOf "a1" heard = [(0, .asked), (0, .died)] := by decide +kernel
    have hmissed : Missed heard ⟨"a1", .primaries⟩ := fun later hmem => by
      rw [hnotes] at hmem
      simp at hmem
    cases hexact.mpr ⟨⟨"a1", .primaries⟩, by decide, hmissed⟩

end Collector

end ClusterScaling
