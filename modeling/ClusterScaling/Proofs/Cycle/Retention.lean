import ClusterScaling.Cycle

/-!
# Moves are kept as long as any rule looks back

How long moves are kept is the greatest of all times that the settings
look back: the cooldown, and for each tier and direction the window and
the periods of the policies. So no rule is ever asked about a time of
which moves have been forgotten for their age. That they may have been
forgotten for want of room is another matter.
-/

namespace ClusterScaling

namespace Duration

/-- The greater of two durations is not less than the first. -/
theorem nanos_le_max_left (a b : Duration) : a.nanos ≤ (max a b).nanos := by
  show a.nanos ≤ (if a ≤ b then b else a).nanos
  split
  · next hle => exact hle
  · exact Nat.le_refl _

/-- The greater of two durations is not less than the second. -/
theorem nanos_le_max_right (a b : Duration) : b.nanos ≤ (max a b).nanos := by
  show b.nanos ≤ (if a ≤ b then b else a).nanos
  split
  · exact Nat.le_refl _
  · next hgt => exact Nat.le_of_lt (Nat.lt_of_not_le hgt)

/-- The greatest of several durations is not less than the one it starts from. -/
theorem nanos_le_foldl_max (ds : List Duration) (d : Duration) :
    d.nanos ≤ (ds.foldl max d).nanos := by
  induction ds generalizing d with
  | nil => exact Nat.le_refl _
  | cons e ds ih => exact Nat.le_trans (nanos_le_max_left d e) (ih (max d e))

/-- The greatest of several durations is not less than any of them. -/
theorem nanos_le_foldl_max_of_mem {ds : List Duration} {e : Duration} (he : e ∈ ds)
    (d : Duration) : e.nanos ≤ (ds.foldl max d).nanos := by
  induction ds generalizing d with
  | nil => cases he
  | cons f ds ih =>
    rcases List.mem_cons.mp he with rfl | he
    · exact Nat.le_trans (nanos_le_max_right d e) (nanos_le_foldl_max ds (max d e))
    · exact ih he (max d f)

/-- The greatest of several durations is one of them. -/
theorem foldl_max_mem (ds : List Duration) (d : Duration) : ds.foldl max d ∈ d :: ds := by
  induction ds generalizing d with
  | nil => exact List.mem_singleton_self d
  | cons e ds ih =>
    rcases List.mem_cons.mp (ih (max d e)) with hmax | hmem
    · rw [List.foldl_cons, hmax]
      show (if d ≤ e then e else d) ∈ d :: e :: ds
      split
      · exact List.mem_cons_of_mem d List.mem_cons_self
      · exact List.mem_cons_self
    · exact List.mem_cons_of_mem d (List.mem_cons_of_mem e hmem)

end Duration

namespace Cycle

variable (s : Settings)

/-- **Moves are kept as long as any rule of any tier looks back.** -/
theorem lookBack_le_retention {t : Tier} {d : Duration}
    (hd : d ∈ lookBack (s.tiers.get t).stepping) : d.nanos ≤ (retention s).nanos :=
  Duration.nanos_le_foldl_max_of_mem (List.mem_flatMap.mpr ⟨t, Tier.mem_all t, hd⟩) _

/-- Moves are kept no longer than the cooldown lasts or some rule looks back. -/
theorem millis_retention_lt {n : Nat} (hcooldown : s.engine.cooldown.millis < n)
    (hlooks : ∀ t, ∀ d ∈ lookBack (s.tiers.get t).stepping, d.millis < n) :
    (retention s).millis < n := by
  have hmem : retention s ∈ s.engine.cooldown
      :: Tier.all.flatMap fun t => lookBack (s.tiers.get t).stepping := Duration.foldl_max_mem _ _
  rcases List.mem_cons.mp hmem with hmax | hmem
  · rw [hmax]
    exact hcooldown
  · obtain ⟨t, -, hd⟩ := List.mem_flatMap.mp hmem
    exact hlooks t _ hd

/-- Moves are kept as long as the window of any direction is. -/
theorem window_le_retention (t : Tier) (d : Action) :
    ((s.tiers.get t).stepping.rules d).window.nanos ≤ (retention s).nanos := by
  refine lookBack_le_retention s (t := t) ?_
  unfold lookBack
  cases d with
  | scaleUp => exact List.mem_append_left _ List.mem_cons_self
  | scaleDown => exact List.mem_append_right _ List.mem_cons_self
  | hold => exact List.mem_append_right _ List.mem_cons_self

/-- Moves are kept as long as the period of any policy is. -/
theorem period_le_retention (t : Tier) (d : Action) {p : StepPolicy}
    (hp : p ∈ ((s.tiers.get t).stepping.rules d).policies) :
    p.period.nanos ≤ (retention s).nanos := by
  refine lookBack_le_retention s (t := t) ?_
  have hperiod := List.mem_cons_of_mem ((s.tiers.get t).stepping.rules d).window
    (List.mem_map_of_mem (f := StepPolicy.period) hp)
  unfold lookBack
  cases d with
  | scaleUp => exact List.mem_append_left _ hperiod
  | scaleDown => exact List.mem_append_right _ hperiod
  | hold => exact List.mem_append_right _ hperiod

end Cycle

end ClusterScaling
