import ClusterScaling.Proofs.Cycle.Unadvised
import ClusterScaling.Proofs.Fleet.Figures
import ClusterScaling.Proofs.Series.Cooldown

/-!
# An adviser that is not heard changes nothing

Of two fleets with the same settings, but for an adviser that only the
first one has, let the same cycles end for every cluster, with the same
readings. They need not end at the same times or in the same order across
clusters; a cycle that asks an adviser has to wait for it. If the adviser
is switched off, is overruled or fails whenever it is asked, the results
are the same but for what was advised, and nothing that is remembered
differs (`Fleet.unheard_adviser_changes_nothing`).

Overlapping cycles come out as a series, so this is what is known of
series, for each cluster. The figures follow from the results.
-/

namespace ClusterScaling

/-- A cycle that has ended, but for what it was offered. -/
def Ended.unadvised (e : Ended) : Ended := { e with told := e.told.unadvised }

namespace Fleet

/-- Why an adviser makes no difference to a run. -/
inductive Unheard (s : Settings) (es : List (Moment × Event)) : Prop where
  /-- The adviser is switched off, or there is none. -/
  | disabled (h : ∀ a, s.adviser = some a → a.enabled = false)
  /-- The engine listens to nobody else. -/
  | overruled (h : s.engine.arbitration = .internalOnly)
  /-- Whenever the adviser is asked, it fails. -/
  | failed (h : ∀ now id advice, (now, .advise id advice) ∈ es →
      ∃ net a c snapshot current, Adviser.Fails net a c snapshot current
        ∧ advice = (a.ask net c snapshot current).toOption)

/-- Advice that a cycle was offered was given in the run. -/
theorem Accounted.offered {s : Settings} {key : String}
    {answer? : Nat → Option (Except Fault Snapshot)} {advised : Nat → Option Advice → Prop}
    {h : ClusterHistory} {es : List Ended} (ha : Accounted s key answer? advised h es) {e : Ended}
    (he : e ∈ es) {snapshot : Snapshot} {offered : Option Advice}
    (htold : e.told = .readings snapshot offered) : advised e.call.id offered ∨ offered = none := by
  induction es generalizing h with
  | nil => cases he
  | cons d ds ih =>
    rcases List.mem_cons.mp he with rfl | he
    · have haccounts := ha.1 (by rw [htold]; rfl)
      rw [htold] at haccounts
      have hoffered := haccounts.2
      split at hoffered
      · exact .inl hoffered
      · exact .inr hoffered
    · exact ih ha.2 he

/-- If an adviser makes no difference to a run, it makes none to a cycle of it. -/
theorem Unheard.told {s : Settings} {es : List (Moment × Event)} (hunheard : Unheard s es)
    (recorder : Option Recorder) (key : String) :
    ∀ r ∈ (endingsOf key ((start s recorder).watch es)).map Ended.round, r.told.Unheard s := by
  intro r hr
  obtain ⟨e, he, rfl⟩ := List.mem_map.mp hr
  cases hunheard with
  | disabled h =>
    refine .disabled ?_
    cases hadviser : s.adviser with
    | none => rfl
    | some a => exact h a hadviser
  | overruled h => exact .overruled h
  | failed h =>
    refine .silent ?_
    have haccounted := ((orderly_start s recorder).serial_run es key).accounted
    show e.told.unadvised = e.told
    cases htold : e.told with
    | cancelled => rfl
    | unavailable fault => rfl
    | readings snapshot offered =>
      have hnone : offered = none := by
        rcases haccounted.offered he htold with ⟨now, hmem⟩ | hnone
        · obtain ⟨net, a, c, asked, current, hfails, rfl⟩ := h now _ _ hmem
          obtain ⟨fault, hfault⟩ := Adviser.ask_error_iff.mpr hfails
          rw [hfault]
          rfl
        · exact hnone
      rw [hnone]
      rfl

/-- A result without what was advised, by the identity of its request. -/
def unadvisedResult : Nat × Outcome → Nat × Outcome := Prod.map id Outcome.unadvised

/-- What is recorded of results does not depend on what was advised. -/
theorem afterAll_unadvised (g : Option ClusterFigures) (os : List (Nat × Outcome)) :
    ClusterFigures.afterAll g (os.map unadvisedResult) = ClusterFigures.afterAll g os := by
  unfold ClusterFigures.afterAll
  rw [List.foldl_map]
  rfl

/-- The cycles of a cluster that have ended in a run, but for what they were offered. -/
def unadvisedEndings (s : Settings) (recorder : Option Recorder) (es : List (Moment × Event))
    (key : String) : List Ended :=
  (endingsOf key ((start s recorder).watch es)).map Ended.unadvised

/-- The endings of a cluster are picked from those of all clusters. -/
theorem unadvisedEndings_eq_filter (s : Settings) (recorder : Option Recorder)
    (es : List (Moment × Event)) (key : String) :
    unadvisedEndings s recorder es key
      = ((((start s recorder).watch es).filterMap Sight.ended?).map Ended.unadvised).filter
          fun e => e.call.concerns key := by
  rw [List.filter_map]
  rfl

section

variable {s : Settings} {es : List (Moment × Event)} (hunheard : Unheard s es)
variable (recorder : Option Recorder) (key : String)

include hunheard

/-- If an adviser makes no difference, the results are those of a series without it. -/
theorem Unheard.results : (((start s recorder).run es).resultsOf key).map unadvisedResult
    = ((unadvisedEndings s recorder es key).map (·.call.id)).zip
        (Series.outcomes s.unadvised key (.empty s.engine.historyCapacity)
          ((unadvisedEndings s recorder es key).map Ended.round)) := by
  have hserial : ((start s recorder).run es).resultsOf key = _ :=
    ((orderly_start s recorder).serial_run es key).results
  have houtcomes := Series.outcomes_unadvised key (.empty s.engine.historyCapacity)
    (hunheard.told recorder key)
  unfold unadvisedEndings
  rw [List.map_map] at houtcomes
  rw [List.map_map, List.map_map]
  refine Eq.trans ?_ (congrArg _ houtcomes)
  rw [List.zip_map_right, hserial]
  rfl

/-- If an adviser makes no difference, the histories are those of a series without it. -/
theorem Unheard.histories : ((start s recorder).run es).histories.histories key
    = Series.after s.unadvised key (.empty s.engine.historyCapacity)
        ((unadvisedEndings s recorder es key).map Ended.round) := by
  have hserial := ((orderly_start s recorder).serial_run es key).histories
  have hafter := Series.after_unadvised key (.empty s.engine.historyCapacity)
    (hunheard.told recorder key)
  unfold unadvisedEndings
  rw [List.map_map] at hafter ⊢
  exact hserial.trans hafter

end

/-- **An adviser that is not heard changes nothing.** Let the adviser of a fleet be switched off, or
overruled by the engine, or fail whenever it is asked, in any way in which it can fail. If in
another fleet, with the same settings but no adviser, the same cycles end for every cluster and have
the same readings, then the cycles have the same results there: the same decisions, with every word
of their reasons, the same proposals of the engine, proposers, verdicts and zone plans. All
histories and the figures are the same as well. -/
theorem unheard_adviser_changes_nothing {s : Settings} {recorder : Option Recorder}
    (hsorted : ∀ r, recorder = some r → r.Sorted) {es es' : List (Moment × Event)}
    (hunheard : Unheard s es)
    (hsame : ∀ key, unadvisedEndings s recorder es key
      = unadvisedEndings s.unadvised recorder es' key) :
    let f := (start s recorder).run es
    let f' := (start s.unadvised recorder).run es'
    (∀ key, (f.resultsOf key).map unadvisedResult = (f'.resultsOf key).map unadvisedResult)
      ∧ (∀ key, f.histories.histories key = f'.histories.histories key)
      ∧ f.recorder = f'.recorder := by
  intro f f'
  have hnone : Unheard s.unadvised es' := .disabled nofun
  have hresults (key : String) :
      (f.resultsOf key).map unadvisedResult = (f'.resultsOf key).map unadvisedResult := by
    rw [hunheard.results recorder key, hnone.results recorder key, hsame key]
    rfl
  refine ⟨hresults, fun key => ?_, ?_⟩
  · rw [hunheard.histories recorder key, hnone.histories recorder key, hsame key]
    rfl
  · show ((start s recorder).run es).recorder = ((start s.unadvised recorder).run es').recorder
    rw [recorder_run, recorder_run]
    cases recorder with
    | none => rfl
    | some r =>
      have hr := hsorted r rfl
      refine congrArg some (Recorder.Sorted.ext (sorted_recordAll hr _) (sorted_recordAll hr _) ?_)
      intro key
      rw [get?_recordAll, get?_recordAll, ← afterAll_unadvised, ← afterAll_unadvised _
        (List.filter _ ((start s.unadvised (some r)).run es').outcomes)]
      exact congrArg _ (hresults key)

/-- If nobody answers an adviser's callers, the adviser fails. -/
theorem fails_of_silent (a : Adviser) (c : Cluster) (snapshot : Snapshot) (current : Replicas) :
    a.Fails (fun _ => .silent) c snapshot current := by
  have hsend : ∃ failure, a.exchange (fun _ => .silent) c snapshot current = .error failure := by
    unfold Adviser.exchange Http.send
    split <;> exact ⟨_, rfl⟩
  obtain ⟨failure, hsend⟩ := hsend
  exact .unreached failure hsend

/-- Settings that scale on processors and name an adviser. -/
def onCpuAdvised : Settings :=
  { Settings.onCpu (.ofSeconds 300) with
    adviser := some ⟨"http://adviser/", "POST", .ofSeconds 5, true⟩ }

/-- A cycle up to where it learns about its readings: two secondaries are overloaded. -/
def overloaded : List (Moment × Event) :=
  [.request ⟨1, ⟨"db", "main", .both [], none⟩, ⟨⟨3, 2⟩, 3⟩, 2000000⟩ false, .look 1, .begin 1,
    .queue 1, .enter 1, .collector "db/main" (.queue 1),
    .collector "db/main" (.enter [⟨"s", .secondaries⟩]), .collector "db/main" .launch,
    .collector "db/main" (.finish "s" (.reported [(.cpu, 140.0)])),
    .collector "db/main" .settle, .resume 1].map (⟨0, 0⟩, ·)

/-- The cycle ends with the same readings, whether it waits for advice in vain or does not. -/
theorem unadvisedEndings_overloaded (key : String) :
    unadvisedEndings onCpuAdvised (some .empty) (overloaded ++ [(⟨0, 0⟩, .advise 1 none)]) key
      = unadvisedEndings onCpuAdvised.unadvised (some .empty) overloaded key := by
  have hall : (((start onCpuAdvised (some .empty)).watch
        (overloaded ++ [(⟨0, 0⟩, .advise 1 none)])).filterMap Sight.ended?).map Ended.unadvised
      = (((start onCpuAdvised.unadvised (some .empty)).watch overloaded).filterMap
          Sight.ended?).map Ended.unadvised := by
    with_unfolding_all rfl
  rw [unadvisedEndings_eq_filter, unadvisedEndings_eq_filter, hall]

/-- Two overloaded secondaries become four, whether the cycle waits for an adviser that does not
answer or there is no adviser to wait for. -/
theorem unheard_adviser_changes_nothing_silent :
    let f := start onCpuAdvised (some .empty)
    let f' := start onCpuAdvised.unadvised (some .empty)
    let es := overloaded ++ [(⟨0, 0⟩, .advise 1 none)]
    (∀ r, some Recorder.empty = some r → r.Sorted) ∧ Unheard onCpuAdvised es
      ∧ (∀ key, unadvisedEndings onCpuAdvised (some .empty) es key
          = unadvisedEndings onCpuAdvised.unadvised (some .empty) overloaded key)
      ∧ (f.run overloaded).outcomes.length = 0
      ∧ (f.run es).outcomes.map (fun o => (o.2.tiers.get .secondaries).decision.target) = [4]
      ∧ (∀ key, ((f.run es).resultsOf key).map unadvisedResult
          = ((f'.run overloaded).resultsOf key).map unadvisedResult)
      ∧ (∀ key, (f.run es).histories.histories key = (f'.run overloaded).histories.histories key)
      ∧ (f.run es).recorder = (f'.run overloaded).recorder := by
  intro f f' es
  have hsorted : ∀ r, some Recorder.empty = some r → r.Sorted := by
    rintro r ⟨⟩
    exact Table.sorted_empty
  have hunheard : Unheard onCpuAdvised es := by
    refine .failed fun now id advice hmem => ?_
    have hnone : advice = none := by
      simp only [es, overloaded, List.map_cons, List.map_nil, List.mem_append, List.mem_cons,
        List.not_mem_nil, Prod.mk.injEq, reduceCtorEq, and_false, or_false, false_or,
        Event.advise.injEq] at hmem
      exact hmem.2.2
    have hfails := fails_of_silent ⟨⟨"http://adviser/", "POST", .ofSeconds 5, true⟩, "POST"⟩
      ⟨"db", "main", .both [], none⟩ ⟨.both .absent, 0, false⟩ ⟨3, 2⟩
    obtain ⟨fault, hask⟩ := Adviser.ask_error_iff.mpr hfails
    exact ⟨_, _, _, _, _, hfails, by rw [hnone, hask]; rfl⟩
  exact ⟨hsorted, hunheard, unadvisedEndings_overloaded, by decide +kernel, by decide +kernel,
    unheard_adviser_changes_nothing hsorted hunheard unadvisedEndings_overloaded⟩

end Fleet

end ClusterScaling
