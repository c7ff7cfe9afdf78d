import ClusterScaling.Adviser
import ClusterScaling.Series

/-!
# Advice that makes no difference

An adviser that is asked in vain gives no advice, whatever it is that has
gone wrong (`Adviser.ask_error_iff`). Advice that is given is overruled if
the engine listens to nobody else, and never asked for if the adviser is
switched off. In all these cases a cycle decides what it would decide if
the settings named no adviser at all. The only trace that overruled advice
leaves is that its proposal is reported beside the decision;
`Outcome.unadvised` takes that away.

What a cycle leaves in the histories depends on its decisions alone, so
the cycles that follow decide the same as well, and what holds of one
cycle holds of a whole series.
-/

namespace ClusterScaling

/-! ## Asking in vain -/

namespace Adviser

variable {net : Http.Network} {a : Adviser} {c : Cluster} {s : Snapshot} {current : Replicas}

/-- What comes of the question to an adviser. -/
def exchange (net : Http.Network) (a : Adviser) (c : Cluster) (s : Snapshot) (current : Replicas) :
    Except Http.Failure Http.Reply :=
  Http.send net a.method a.settings.url (some (Json.write (Advice.question c s current)))
    a.settings.timeout

/-- Everything that can go wrong when an adviser is asked. -/
inductive Fails (net : Http.Network) (a : Adviser) (c : Cluster) (s : Snapshot)
    (current : Replicas) : Prop where
  /-- There is no connection, no proper answer, or none in time. -/
  | unreached (failure : Http.Failure) (hsend : exchange net a c s current = .error failure)
  /-- The status of the answer is not one of success. -/
  | refused (reply : Http.Reply) (hsend : exchange net a c s current = .ok reply)
      (hstatus : reply.isSuccess = false)
  /-- The body of the answer is no advice. -/
  | malformed (reply : Http.Reply) (hsend : exchange net a c s current = .ok reply)
      (error : Json.ReadError) (htext : Advice.ofText reply.body = .error error)
  /-- The confidence of the advice lies outside its interval. -/
  | improper (reply : Http.Reply) (hsend : exchange net a c s current = .ok reply)
      (advice : Advice) (htext : Advice.ofText reply.body = .ok advice)
      (hconfidence : Advice.isConfidence advice.confidence = false)

theorem ask_of_error {failure : Http.Failure}
    (hsend : exchange net a c s current = .error failure) :
    a.ask net c s current = .error (fault failure) := by
  unfold exchange at hsend
  unfold ask
  dsimp only
  rw [hsend]

theorem ask_of_ok {reply : Http.Reply} (hsend : exchange net a c s current = .ok reply) :
    a.ask net c s current = if reply.isSuccess then Advice.ofBody reply.body
      else .error (.adviser ("status " ++ reply.statusText)) := by
  unfold exchange at hsend
  unfold ask
  dsimp only
  rw [hsend]

/-- **An adviser that fails gives no advice, and any other does.** -/
theorem ask_error_iff : (∃ fault, a.ask net c s current = .error fault)
    ↔ a.Fails net c s current := by
  constructor
  · rintro ⟨fault, h⟩
    cases hsend : exchange net a c s current with
    | error failure => exact .unreached failure hsend
    | ok reply =>
      rw [ask_of_ok hsend] at h
      cases hstatus : reply.isSuccess with
      | false => exact .refused reply hsend hstatus
      | true =>
        rw [hstatus, if_pos rfl] at h
        unfold Advice.ofBody at h
        cases htext : Advice.ofText reply.body with
        | error error => exact .malformed reply hsend error htext
        | ok advice =>
          rw [htext] at h
          dsimp only at h
          cases hconfidence : Advice.isConfidence advice.confidence with
          | false => exact .improper reply hsend advice htext hconfidence
          | true =>
            rw [hconfidence, if_pos rfl] at h
            cases h
  · intro h
    cases h with
    | unreached failure hsend =>
      rw [ask_of_error hsend]
      exact ⟨_, rfl⟩
    | refused reply hsend hstatus =>
      rw [ask_of_ok hsend, hstatus]
      exact ⟨_, rfl⟩
    | malformed reply hsend error htext =>
      rw [ask_of_ok hsend]
      unfold Advice.ofBody
      rw [htext]
      split <;> exact ⟨_, rfl⟩
    | improper reply hsend advice htext hconfidence =>
      rw [ask_of_ok hsend]
      unfold Advice.ofBody
      rw [htext]
      dsimp only
      rw [hconfidence]
      split <;> exact ⟨_, rfl⟩

end Adviser

/-! ## Without an adviser -/

/-- The settings without an adviser. -/
def Settings.unadvised (s : Settings) : Settings := { s with adviser := none }

/-- What a cycle decides about a tier, without what was advised. -/
def TierOutcome.unadvised (o : TierOutcome) : TierOutcome := { o with advised := none }

/-- The result of a cycle, without what was advised. -/
def Outcome.unadvised (o : Outcome) : Outcome := { o with tiers := o.tiers.map .unadvised }

/-- What a cycle is told, but for advice. -/
def Told.unadvised : Told → Told
  | .readings snapshot _ => .readings snapshot none
  | told => told

/-- A cycle that is told the same, but for advice. -/
def Round.unadvised (r : Round) : Round := { r with told := r.told.unadvised }

/-- Why advice makes no difference to a cycle that is told something. -/
inductive Told.Unheard (s : Settings) (told : Told) : Prop where
  /-- No adviser is switched on. -/
  | disabled (h : (s.adviser.any fun a => a.enabled) = false)
  /-- The engine listens to nobody else. -/
  | overruled (h : s.engine.arbitration = .internalOnly)
  /-- There is no advice. -/
  | silent (h : told.unadvised = told)

namespace Cycle

variable {s : Settings}

/-- An engine that listens to nobody else chooses its own proposal. -/
theorem choose_overruled {e : EngineSettings} (h : e.arbitration = .internalOnly) (t : TierSettings)
    (current : UInt32) (internal : Decision) (advised : Option Decision) (cooling : Bool) :
    choose e t current internal advised cooling = (internal, .engine) := by
  unfold choose
  cases advised with
  | none => rfl
  | some d =>
    cases cooling with
    | true => rfl
    | false =>
      rw [h]
      rfl

/-- Without advice, or with advice that is overruled, a tier is decided about as if there were no
adviser. -/
theorem decideTier_unadvised {advice : Option Advice}
    (h : s.engine.arbitration = .internalOnly ∨ advice = none) (live : LiveState) (t : Tier)
    (d : Draft) (history : History) (now : UInt64) :
    (decideTier s live t d advice history now).unadvised
      = decideTier s.unadvised live t d none history now := by
  rcases h with h | rfl
  · unfold decideTier
    dsimp only
    rw [choose_overruled h]
    rfl
  · rfl

/-- **Unheard, an adviser leaves a cycle with the decisions that it would make without.** -/
theorem outcome_unadvised {told : Told} (h : told.Unheard s) (cluster : String) (live : LiveState)
    (history : ClusterHistory) (now : UInt64) :
    (outcome s cluster live history now told).unadvised
      = outcome s.unadvised cluster live history now told.unadvised := by
  cases told with
  | cancelled => rfl
  | unavailable fault => rfl
  | readings snapshot offered =>
    have hadvice : s.engine.arbitration = .internalOnly
        ∨ (if asksAdviser s (draft s live snapshot history now) then offered else none) = none := by
      cases h with
      | disabled h =>
        unfold asksAdviser
        rw [h]
        exact .inr rfl
      | overruled h => exact .inl h
      | silent h =>
        cases h
        exact .inr (ite_self _)
    unfold outcome decide Outcome.unadvised
    dsimp only
    refine congrArg (fun tiers => (⟨cluster, tiers, snapshot.degraded, false⟩ : Outcome)) ?_
    exact congrArg PerTier.ofFun (funext fun t => decideTier_unadvised hadvice live t _ _ now)

/-- What is remembered of a cycle does not depend on what was advised. -/
theorem remember_unadvised (live : LiveState) (o : Outcome) (history : ClusterHistory)
    (now : UInt64) :
    remember s.unadvised live o.unadvised history now = remember s live o history now := rfl

end Cycle

theorem Told.commits_unadvised (told : Told) : told.unadvised.commits = told.commits := by
  cases told <;> rfl

namespace Round

variable {s : Settings} {r : Round} (h : r.told.Unheard s) (cluster : String)
variable (history : ClusterHistory)

include h

theorem outcome_unadvised :
    (r.outcome s cluster history).unadvised = r.unadvised.outcome s.unadvised cluster history :=
  Cycle.outcome_unadvised h cluster r.live history r.now

/-- **Unheard, an adviser leaves the histories as they would be without.** -/
theorem after_unadvised :
    r.after s cluster history = r.unadvised.after s.unadvised cluster history := by
  unfold after
  rw [← outcome_unadvised h, Cycle.remember_unadvised]
  unfold commits unadvised
  rw [Told.commits_unadvised]

end Round

namespace Series

variable {s : Settings} (cluster : String) (history : ClusterHistory) {rs : List Round}

/-- **Unheard, an adviser leaves a series with the results that it would have without.** -/
theorem outcomes_unadvised (h : ∀ r ∈ rs, r.told.Unheard s) :
    (outcomes s cluster history rs).map Outcome.unadvised
      = outcomes s.unadvised cluster history (rs.map Round.unadvised) := by
  induction rs generalizing history with
  | nil => rfl
  | cons r rs ih =>
    obtain ⟨hr, hrs⟩ := List.forall_mem_cons.mp h
    refine List.cons_eq_cons.mpr ⟨r.outcome_unadvised hr cluster history, ?_⟩
    rw [r.after_unadvised hr]
    exact ih _ hrs

/-- **Unheard, an adviser leaves the histories of a series as they would be without.** -/
theorem after_unadvised (h : ∀ r ∈ rs, r.told.Unheard s) :
    after s cluster history rs = after s.unadvised cluster history (rs.map Round.unadvised) := by
  induction rs generalizing history with
  | nil => rw [List.map_nil, after_nil, after_nil]
  | cons r rs ih =>
    obtain ⟨hr, hrs⟩ := List.forall_mem_cons.mp h
    rw [List.map_cons, after_cons, after_cons, r.after_unadvised hr]
    exact ih _ hrs

end Series

end ClusterScaling
