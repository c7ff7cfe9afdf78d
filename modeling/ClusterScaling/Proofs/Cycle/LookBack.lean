import ClusterScaling.Cycle

/-!
# What a cycle sees of a history

A cycle does not look at a history as a whole. It asks for the time of the
latest change, for the cooldown, and for the moves within the windows and
the periods of the rules of the tier, counted back from now. Histories
that agree in this much are **alike** to the cycle (`History.Alike`), and
to alike histories it answers alike, word for word
(`Cycle.outcome_congr`): whatever else they hold, however much room they
have and however old their moves are.
-/

namespace ClusterScaling

variable {h h' : History} {now : UInt64}

/-- Two histories that rules which look back from now for the given durations cannot tell apart. -/
structure History.Alike (looks : List Duration) (now : UInt64) (h h' : History) : Prop where
  /-- The latest change was at the same time. -/
  lastChange : h.lastChange = h'.lastChange
  /-- The same moves are within the given durations. -/
  within : ∀ w ∈ looks, h.within now w = h'.within now w

/-! ## The limits on steps -/

/-- A policy looks back for its period. -/
theorem StepPolicy.budget_congr {p : StepPolicy}
    (hperiod : h.within now p.period = h'.within now p.period) (d : Action) (current : UInt32) :
    p.budget d current h now = p.budget d current h' now := by
  unfold budget moved
  rw [hperiod]

/-- The rules of a direction look back for their window and for the periods of their policies. -/
theorem StepRules.limit_congr {r : StepRules}
    (hlooks : ∀ w ∈ r.window :: r.policies.map StepPolicy.period, h.within now w = h'.within now w)
    (d : Action) (requested : Int) (current : UInt32) :
    r.limit d requested current h now = r.limit d requested current h' now := by
  obtain ⟨hwindow, hperiods⟩ := List.forall_mem_cons.mp hlooks
  have hopposite : r.recentOpposite? d h now = r.recentOpposite? d h' now := by
    unfold recentOpposite?
    rw [hwindow]
  have hbudgets : r.policies.map (fun p => p.budget d current h now)
      = r.policies.map fun p => p.budget d current h' now :=
    List.map_congr_left fun p hp =>
      StepPolicy.budget_congr (hperiods p.period (List.mem_map_of_mem hp)) d current
  have hcap : r.cap? d current h now = r.cap? d current h' now := by
    unfold cap?
    rw [hbudgets]
  unfold limit
  rw [hopposite, hcap]

/-- **A step is limited alike by alike histories.** -/
theorem Stepping.limit_congr {s : Stepping} (halike : h.Alike (Cycle.lookBack s) now h')
    (requested : Int) (current : UInt32) :
    s.limit requested current h now = s.limit requested current h' now := by
  have hdown : ∀ w ∈ s.down.window :: s.down.policies.map StepPolicy.period,
      h.within now w = h'.within now w :=
    fun w hw => halike.within w (List.mem_append_right _ hw)
  unfold limit
  split
  · rfl
  · cases direction requested with
    | scaleUp =>
      exact StepRules.limit_congr (fun w hw => halike.within w (List.mem_append_left _ hw)) _ _ _
    | scaleDown => exact StepRules.limit_congr hdown _ _ _
    | hold => exact StepRules.limit_congr hdown _ _ _

/-! ## A whole cycle -/

/-- A cooldown looks at the time of the latest change alone. -/
theorem EngineSettings.isCooling_congr (e : EngineSettings)
    (hlast : h.lastChange = h'.lastChange) : e.isCooling h now = e.isCooling h' now := by
  unfold isCooling coolingLeft?
  rw [hlast]

namespace Cycle

variable {s : Settings} {t : Tier}

/-- The proposal of the engine looks at the time of the latest change alone. -/
theorem draftTier_congr (hlast : h.lastChange = h'.lastChange) (live : LiveState) (r : Readings) :
    draftTier s live t r h now = draftTier s live t r h' now := by
  unfold draftTier Proposal.propose
  rw [s.engine.isCooling_congr hlast]

/-- The stages of a tier look at the limits on its steps alone. -/
theorem stage_congr (halike : h.Alike (lookBack (s.tiers.get t).stepping) now h')
    (live : LiveState) (candidate : UInt32) (cooling : Bool) :
    stage s live t candidate cooling h now = stage s live t candidate cooling h' now := by
  cases t with
  | primaries =>
    unfold stage stagePrimaries guardedPrimaries
    simp only [Stepping.limit_congr (s := s.tiers.primaries.stepping) halike]
  | secondaries =>
    unfold stage stageSecondaries
    simp only [Stepping.limit_congr (s := s.tiers.secondaries.stepping) halike]

/-- **A cycle answers alike to alike histories**, in every word of its decisions. -/
theorem outcome_congr {h h' : ClusterHistory}
    (halike : ∀ t, (h.get t).Alike (lookBack (s.tiers.get t).stepping) now (h'.get t))
    (cluster : String) (live : LiveState) (told : Told) :
    outcome s cluster live h now told = outcome s cluster live h' now told := by
  cases told with
  | cancelled => rfl
  | unavailable fault => rfl
  | readings snapshot offered =>
    have hdraft : draft s live snapshot h now = draft s live snapshot h' now :=
      congrArg PerTier.ofFun (funext fun t => draftTier_congr (halike t).lastChange live _)
    unfold outcome decide decideTier
    simp only [hdraft, stage_congr (halike _)]

end Cycle

end ClusterScaling
