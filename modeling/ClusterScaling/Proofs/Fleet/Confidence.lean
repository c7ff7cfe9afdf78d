import ClusterScaling.Proofs.Fleet.Counts
import ClusterScaling.Proofs.Fleet.Unheard
import ClusterScaling.Proofs.Proposal.Confidence

/-!
# Every decision is taken with a proper fraction of confidence

The final decision about a tier has the confidence of the proposal it
starts from, and no stage changes that. There are two proposals. The
engine's has a proper fraction of confidence whatever it is computed from;
an adviser's has one because an answer that names anything else is no
advice (`Advice.isFraction_of_ask`). A tier that is held for want of
readings, or because the cycle is cancelled, is held with no confidence at
all. So the results of a fleet name proper fractions only, in whatever
order its cycles run and whatever its advisers answer.
-/

namespace ClusterScaling

/-- **Advice has a proper fraction of confidence**, whatever is answered: an answer that names
another confidence is a fault. -/
theorem Advice.isFraction_of_ask {net : Http.Network} {a : Adviser} {c : Cluster} {s : Snapshot}
    {current : Replicas} {advice : Advice} (h : a.ask net c s current = .ok advice) :
    Double.IsFraction advice.confidence := by
  have hproper : Advice.isConfidence advice.confidence = true := by
    cases hconfidence : Advice.isConfidence advice.confidence with
    | true => rfl
    | false =>
      cases hsend : a.exchange net c s current with
      | error failure =>
        rw [Adviser.ask_of_error hsend] at h
        cases h
      | ok reply =>
        rw [Adviser.ask_of_ok hsend] at h
        split at h
        · unfold Advice.ofBody at h
          split at h
          · cases h
          · next answer _ =>
            split at h
            · next hanswer =>
              cases h
              exact hconfidence.symm.trans hanswer
            · cases h
        · cases h
  unfold Advice.isConfidence at hproper
  rw [Bool.and_eq_true, Bool.and_eq_true, decide_eq_true_eq, decide_eq_true_eq] at hproper
  exact ⟨(Double.le_iff.mp hproper.2).1, hproper.1.2, hproper.2⟩

namespace Cycle

/-- The proposal that a tier starts from has the confidence of the engine's or of the adviser's. -/
theorem confidence_choose (e : EngineSettings) (t : TierSettings) (current : UInt32)
    (internal : Decision) (advised : Option Decision) (cooling : Bool) :
    (choose e t current internal advised cooling).1.confidence = internal.confidence
      ∨ ∃ d, advised = some d
        ∧ (choose e t current internal advised cooling).1.confidence = d.confidence := by
  unfold choose
  cases advised with
  | none => exact .inl rfl
  | some d =>
    dsimp only
    split
    · exact .inl rfl
    · split
      · exact .inl rfl
      · exact .inr ⟨d, rfl, rfl⟩

variable {s : Settings} (hsize : ∀ t, (s.tiers.get t).metrics.length < UInt64.size)

include hsize

/-- **Every decision of a cycle has a proper fraction of confidence**, if what it is offered has. -/
theorem isFraction_outcome (cluster : String) (live : LiveState) (h : ClusterHistory) (now : UInt64)
    {told : Told} (hoffered : ∀ snapshot advice, told = .readings snapshot (some advice) →
      Double.IsFraction advice.confidence) (t : Tier) :
    Double.IsFraction ((outcome s cluster live h now told).tiers.get t).decision.confidence := by
  cases told with
  | cancelled => cases t <;> exact Double.isFraction_zero
  | unavailable fault => cases t <;> exact Double.isFraction_zero
  | readings snapshot offered =>
    let advice := if asksAdviser s (draft s live snapshot h now) then offered else none
    let internal := Proposal.propose s.engine (s.tiers.get t) (live.replicas.get t)
      (snapshot.tiers.get t) (h.get t) now
    let advised := advice.bind fun a => a.proposal? t (live.replicas.get t) now
    let cooling := s.engine.isCooling (h.get t) now
    have hchosen : ((outcome s cluster live h now (.readings snapshot offered)).tiers.get
        t).decision.confidence = (choose s.engine (s.tiers.get t) (live.replicas.get t) internal
          advised cooling).1.confidence := by
      cases t <;> rfl
    rw [hchosen]
    rcases confidence_choose s.engine (s.tiers.get t) (live.replicas.get t) internal advised cooling
      with heq | ⟨d, hd, heq⟩
    · rw [heq]
      exact Proposal.isFraction_propose _ _ (hsize t) _ _ _
    · rw [heq]
      obtain ⟨a, ha, hproposal⟩ := Option.bind_eq_some_iff.mp hd
      obtain ⟨-, -, rfl⟩ := Option.map_eq_some_iff.mp hproposal
      have hsome : offered = some a := by
        simp only [advice] at ha
        split at ha
        · exact ha
        · cases ha
      exact hoffered snapshot a (by rw [hsome])

end Cycle

namespace Fleet

/-- All advice that is given in a run comes from advisers that were asked. -/
def Advised (es : List (Moment × Event)) : Prop :=
  ∀ now id advice, (now, .advise id advice) ∈ es →
    ∃ net a c snapshot current, advice = (Adviser.ask net a c snapshot current).toOption

/-- What a cycle of a run is offered has a proper fraction of confidence. -/
theorem Advised.isFraction {es : List (Moment × Event)} (hadvised : Advised es) {s : Settings}
    {recorder : Option Recorder} {key : String} {e : Ended}
    (he : e ∈ endingsOf key ((start s recorder).watch es)) {snapshot : Snapshot} {advice : Advice}
    (htold : e.told = .readings snapshot (some advice)) :
    Double.IsFraction advice.confidence := by
  have haccounted := ((orderly_start s recorder).serial_run es key).accounted
  rcases haccounted.offered he htold with ⟨now, hmem⟩ | hnone
  · obtain ⟨net, a, c, asked, current, hasked⟩ := hadvised now _ _ hmem
    cases hask : a.ask net c asked current with
    | error fault =>
      rw [hask] at hasked
      cases hasked
    | ok answer =>
      rw [hask] at hasked
      cases hasked
      exact Advice.isFraction_of_ask hask
  · cases hnone

/-- **Every confidence is a proper fraction.** For all settings, whatever the tolerance and the
scale of severity are, with no more metrics than can be counted in 64 bits: the engine proposes
with a confidence from zero to one, whatever is read and remembered, and so is every decision of
every cycle in every run of a fleet, whatever advisers answer. -/
theorem confidence_isFraction {s : Settings}
    (hsize : ∀ t, (s.tiers.get t).metrics.length < UInt64.size) :
    (∀ t current r h now, Double.IsFraction
        (Proposal.propose s.engine (s.tiers.get t) current r h now).confidence)
      ∧ ∀ recorder es, Advised es → ∀ o ∈ ((start s recorder).run es).outcomes, ∀ t,
        Double.IsFraction (o.2.tiers.get t).decision.confidence := by
  refine ⟨fun t current r h now => Proposal.isFraction_propose _ _ (hsize t) r h now,
    fun recorder es hadvised o ho t => ?_⟩
  have hmem : o.2 ∈ (((start s recorder).run es).resultsOf o.2.cluster).map Prod.snd :=
    List.mem_map_of_mem (List.mem_filter.mpr ⟨ho, beq_self_eq_true _⟩)
  rw [outcomes_resultsOf] at hmem
  obtain ⟨c, hc, hoc⟩ := List.mem_map.mp hmem
  obtain ⟨e, he, hround⟩ := List.mem_map.mp (Series.mem_of_mem_starts hc)
  rw [← hoc, ← hround]
  exact Cycle.isFraction_outcome hsize _ _ _ _
    (fun _ _ htold => hadvised.isFraction he htold) t

/-- Settings with an adviser and a negative scale of severity. -/
def onCpuNegated : Settings :=
  { onCpuAdvised with engine := { onCpuAdvised.engine with severityScale := -1.0 } }

/-- What an adviser answers that wants five secondaries and is sure of it. -/
def sureAnswer : String :=
  "\x7b\"action\":\"scale_up\",\"target_replicas\":\x7b\"secondaries\":5\x7d,\"confidence\":1\x7d"

theorem ofBody_sureAnswer :
    Advice.ofBody sureAnswer = .ok ⟨.scaleUp, ⟨none, some 5⟩, "", 1.0⟩ := by
  have hread : Json.read? sureAnswer = some (.mapping [("action", .text "scale_up"),
      ("target_replicas", .mapping [("secondaries", .integer 5)]),
      ("confidence", .integer 1)]) := by
    cbv
  unfold Advice.ofBody Advice.ofText Json.decode
  rw [hread]
  with_unfolding_all rfl

/-- Over a negative scale the engine has no confidence in any proposal. An adviser that is sure
prevails over it and makes five secondaries of two. -/
theorem confidence_isFraction_negated :
    let es := overloaded ++ [(⟨0, 0⟩, .advise 1 (some ⟨.scaleUp, ⟨none, some 5⟩, "", 1.0⟩))]
    let f := (start onCpuNegated (some .empty)).run es
    (∀ t, (onCpuNegated.tiers.get t).metrics.length < UInt64.size) ∧ Advised es
      ∧ f.outcomes.map (fun o => (o.2.tiers.get .secondaries).decision.target) = [5]
      ∧ ∀ o ∈ f.outcomes, ∀ t, Double.IsFraction (o.2.tiers.get t).decision.confidence := by
  intro es f
  have hsize : ∀ t, (onCpuNegated.tiers.get t).metrics.length < UInt64.size := by
    intro t
    cases t <;> decide
  have hadvised : Advised es := by
    intro now id advice hmem
    have hadvice : advice = some ⟨.scaleUp, ⟨none, some 5⟩, "", 1.0⟩ := by
      simp only [es, overloaded, List.map_cons, List.map_nil, List.mem_append, List.mem_cons,
        List.not_mem_nil, Prod.mk.injEq, reduceCtorEq, and_false, or_false, false_or,
        Event.advise.injEq] at hmem
      exact hmem.2.2
    have hsend : Adviser.exchange (fun _ => .answered 200 sureAnswer)
        ⟨⟨"http://adviser/", "POST", .ofSeconds 5, true⟩, "POST"⟩ ⟨"db", "main", .both [], none⟩
        ⟨.both .absent, 0, false⟩ ⟨3, 2⟩ = .ok ⟨200, sureAnswer⟩ := by
      with_unfolding_all rfl
    have hask := Adviser.ask_of_ok hsend
    rw [if_pos (by decide), ofBody_sureAnswer] at hask
    exact ⟨_, _, _, _, _, by rw [hadvice, hask]; rfl⟩
  exact ⟨hsize, hadvised, by decide +kernel, (confidence_isFraction hsize).2 _ _ hadvised⟩

end Fleet

end ClusterScaling
