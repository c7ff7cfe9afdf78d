import ClusterScaling.StepLimit

/-!
# Limits shorten steps and never turn them round

The rules of a tier may cut a step down, even to nothing, but a step that
was to add replicas removes none, and one that was to remove replicas adds
none. This holds of every kind of rule at once, because each of them
either lets the step pass, closes it, or caps its length.

The stabilization window is the rule that looks at what went before: it
closes a step exactly if a change in the other direction is remembered
from inside the window (`StepRules.recentOpposite?_eq_none`). A change
that is not remembered any more does not count, wherever it lies.
-/

namespace ClusterScaling

/-- A step is no longer than another one and does not go the other way. -/
def Shortens (delta requested : Int) : Prop :=
  (0 ≤ requested → 0 ≤ delta ∧ delta ≤ requested) ∧
    (requested ≤ 0 → requested ≤ delta ∧ delta ≤ 0)

theorem shortens_self (requested : Int) : Shortens requested requested :=
  ⟨fun h => ⟨h, Int.le_refl _⟩, fun h => ⟨Int.le_refl _, h⟩⟩

theorem shortens_zero (requested : Int) : Shortens 0 requested :=
  ⟨fun h => ⟨Int.le_refl _, h⟩, fun h => ⟨h, Int.le_refl _⟩⟩

/-- What shortens a shortened step shortens the step. -/
theorem Shortens.trans {delta limited requested : Int} (hdelta : Shortens delta limited)
    (hlimited : Shortens limited requested) : Shortens delta requested := by
  refine ⟨fun hrequested => ?_, fun hrequested => ?_⟩
  · obtain ⟨hsign, hle⟩ := hlimited.1 hrequested
    exact ⟨(hdelta.1 hsign).1, Int.le_trans (hdelta.1 hsign).2 hle⟩
  · obtain ⟨hle, hsign⟩ := hlimited.2 hrequested
    exact ⟨Int.le_trans hle (hdelta.2 hsign).1, (hdelta.2 hsign).2⟩

/-- A shortened step is no longer. -/
theorem Shortens.natAbs_le {delta requested : Int} (h : Shortens delta requested) :
    delta.natAbs ≤ requested.natAbs := by
  rcases Int.le_total 0 requested with hrequested | hrequested
  · have := h.1 hrequested
    omega
  · have := h.2 hrequested
    omega

/-- What shortens a step and is a step at all has its sign. -/
theorem Shortens.sign_eq {delta requested : Int} (h : Shortens delta requested) (hne : delta ≠ 0) :
    delta.sign = requested.sign := by
  rcases Int.lt_trichotomy requested 0 with hneg | rfl | hpos
  · have := h.2 (Int.le_of_lt hneg)
    rw [Int.sign_eq_neg_one_of_neg hneg, Int.sign_eq_neg_one_of_neg (by omega)]
  · have := h.1 (Int.le_refl 0)
    omega
  · have := h.1 (Int.le_of_lt hpos)
    rw [Int.sign_eq_one_of_pos hpos, Int.sign_eq_one_of_pos (by omega)]

/-- Of two steps that shorten a third one the shorter one shortens the other. -/
theorem Shortens.of_natAbs_le {delta limited requested : Int} (hdelta : Shortens delta requested)
    (hlimited : Shortens limited requested) (hle : delta.natAbs ≤ limited.natAbs) :
    Shortens delta limited := by
  unfold Shortens at *
  omega

/-- A step cut down to a length has this length. -/
theorem natAbs_sign_mul {requested : Int} (hne : requested ≠ 0) (cap : Nat) :
    (requested.sign * cap).natAbs = cap := by
  rw [Int.natAbs_mul, Int.natAbs_sign_of_ne_zero hne, Nat.one_mul, Int.natAbs_natCast]

/-- A step cut down to a length that it exceeds is shorter. -/
theorem shortens_sign_mul {requested : Int} {cap : Nat} (hcap : cap < requested.natAbs) :
    Shortens (requested.sign * cap) requested := by
  rcases Int.lt_trichotomy requested 0 with hneg | rfl | hpos
  · rw [Int.sign_eq_neg_one_of_neg hneg, Int.neg_one_mul]
    exact ⟨fun h => by omega, fun _ => by omega⟩
  · exact absurd hcap (Nat.not_lt_zero cap)
  · rw [Int.sign_eq_one_of_pos hpos, Int.one_mul]
    exact ⟨fun _ => by omega, fun h => by omega⟩

namespace StepRules

variable (r : StepRules) (direction : Action) (h : History) (now : UInt64)

/-- **The rules of a direction shorten a step.** -/
theorem limit_shortens (requested : Int) (current : UInt32) :
    Shortens (r.limit direction requested current h now).delta requested := by
  unfold limit
  split
  · exact shortens_zero requested
  · split
    · exact shortens_self requested
    · next cap _ =>
      split
      · exact shortens_self requested
      · next hcap => exact shortens_sign_mul (Nat.lt_of_not_le hcap)

/-- A step that no window and no policy limits is taken in full. -/
theorem limit_of_free {r : StepRules} {direction : Action} {h : History} {now : UInt64}
    (hnone : r.recentOpposite? direction h now = none) (hpolicies : r.policies = [])
    (hchoice : r.choice = .max) (requested : Int) (current : UInt32) :
    r.limit direction requested current h now = ⟨requested, none⟩ := by
  unfold limit cap?
  rw [hnone, hpolicies, hchoice]
  rfl

/-- Going through a list that is not empty ends with something, if every item leaves something. -/
theorem isSome_foldl {α β : Type} {f : Option β → α → Option β} (hf : ∀ o a, (f o a).isSome)
    {as : List α} (hne : as ≠ []) (o : Option β) : (as.foldl f o).isSome := by
  obtain ⟨front, last, rfl⟩ := (List.eq_nil_or_concat as).resolve_left hne
  rw [List.concat_eq_append, List.foldl_append]
  exact hf _ last

/-- **A window finds no opposite change exactly if it has no length or none is remembered from
inside it.** -/
theorem recentOpposite?_eq_none :
    r.recentOpposite? direction h now = none
      ↔ r.window.isZero = true ∨ ∀ m ∈ h.moves, m.action = direction.opposite →
        m.timestamp.toNat < History.since now r.window := by
  unfold recentOpposite?
  cases hzero : r.window.isZero with
  | true => exact ⟨fun _ => .inl rfl, fun _ => rfl⟩
  | false =>
    rw [if_neg Bool.false_ne_true]
    have hnone : ((h.within now r.window).filter fun m => m.action = direction.opposite) = []
        ↔ ∀ m ∈ h.moves, m.action = direction.opposite →
          m.timestamp.toNat < History.since now r.window := by
      simp only [History.within, List.filter_filter, List.filter_eq_nil_iff, Bool.and_eq_true,
        decide_eq_true_eq, not_and, Nat.not_le]
    constructor
    · intro hfold
      -- the search goes through the opposite changes of the window, and fails only without any
      refine .inr (hnone.mp (Classical.byContradiction fun hne => ?_))
      rw [← Option.not_isSome_iff_eq_none] at hfold
      refine hfold (isSome_foldl (fun o m => ?_) hne none)
      cases o with
      | none => rfl
      | some b =>
        dsimp only
        split <;> rfl
    · rintro (hfalse | hall)
      · cases hfalse
      · rw [hnone.mpr hall]
        rfl

end StepRules

namespace Stepping

variable (s : Stepping) (current : UInt32) (h : History) (now : UInt64)

/-- **The rules of a tier shorten a step.** -/
theorem limit_shortens (requested : Int) :
    Shortens (s.limit requested current h now).delta requested := by
  unfold limit
  split
  · exact shortens_zero requested
  · exact StepRules.limit_shortens _ _ _ _ _ _

/-- A step up goes by the rules for steps up. -/
theorem limit_of_pos {requested : Int} (hpos : 0 < requested) :
    s.limit requested current h now = s.up.limit .scaleUp requested current h now := by
  unfold limit direction
  rw [if_pos hpos]
  rfl

/-- A step down goes by the rules for steps down. -/
theorem limit_of_neg {requested : Int} (hneg : requested < 0) :
    s.limit requested current h now = s.down.limit .scaleDown requested current h now := by
  unfold limit direction
  rw [if_neg (by omega), if_pos hneg]
  rfl

end Stepping

/-- A step that is closed by a window has no length. -/
theorem StepRules.delta_limit_of_recent {r : StepRules} {direction : Action} {h : History}
    {now : UInt64} (hrecent : r.recentOpposite? direction h now ≠ none) (requested : Int)
    (current : UInt32) : (r.limit direction requested current h now).delta = 0 := by
  unfold limit
  split
  · rfl
  · next hnone => exact absurd hnone hrecent

/-- A step is taken in full, or not at all if it leads to a count that does not exist. -/
theorem stepped_cases (current : UInt32) (delta : Int) :
    stepped current delta = current
      ∨ ((stepped current delta).toNat : Int) = current.toNat + delta := by
  unfold stepped
  dsimp only
  split
  · next hrange =>
    -- in range, the count is not cut off
    have hlt : ((current.toNat : Int) + delta).toNat < UInt32.size := by omega
    rw [UInt32.toNat_ofNat_of_lt' hlt]
    exact .inr (Int.toNat_of_nonneg hrange.1)
  · exact .inl rfl

/-- The way that is gone is the step or nothing. -/
theorem shortens_stepped (current : UInt32) (delta : Int) :
    Shortens ((stepped current delta).toNat - current.toNat) delta := by
  rcases stepped_cases current delta with heq | heq
  · rw [heq, Int.sub_self]
    exact shortens_zero delta
  · rw [heq, Int.add_comm, Int.add_sub_cancel]
    exact shortens_self delta

/-- A step that is not to remove anybody leads to no smaller count. -/
theorem le_stepped (current : UInt32) {delta : Int} (hdelta : 0 ≤ delta) :
    current ≤ stepped current delta := by
  rcases stepped_cases current delta with heq | heq
  · rw [heq]
    exact UInt32.le_refl current
  · rw [UInt32.le_iff_toNat_le]
    omega

/-- A step that is not to add anybody leads to no greater count. -/
theorem stepped_le (current : UInt32) {delta : Int} (hdelta : delta ≤ 0) :
    stepped current delta ≤ current := by
  rcases stepped_cases current delta with heq | heq
  · rw [heq]
    exact UInt32.le_refl current
  · rw [UInt32.le_iff_toNat_le]
    omega

end ClusterScaling
