import ClusterScaling.Proofs.StepLimit.Direction

/-!
# The policies cap a step

If the policies of a direction name a cap, no step in the direction is
longer (`Stepping.natAbs_delta_le`), and what they name is never more than
is left of the allowance of a policy that they heed. Rules that choose the
least of their policies heed each of them, and rules with a single policy
heed it whatever they choose; rules that choose the greatest heed none but
the most generous one.
-/

namespace ClusterScaling

/-! ## The cap -/

/-- **No step in a direction is longer than the cap of the direction.** -/
theorem StepRules.natAbs_delta_le {r : StepRules} {direction : Action} {current : UInt32}
    {h : History} {now : UInt64} {cap : Nat}
    (hcap : r.cap? direction current h now = some cap) (requested : Int) :
    (r.limit direction requested current h now).delta.natAbs ≤ cap := by
  unfold limit
  split
  · exact Nat.zero_le cap
  · rw [hcap]
    dsimp only
    split
    · next hle => exact hle
    · next hlt =>
      have hne : requested ≠ 0 := by
        rintro rfl
        exact hlt (Nat.zero_le cap)
      exact Nat.le_of_eq (natAbs_sign_mul hne cap)

namespace Stepping

/-- The way to a count has the direction in which the count lies. -/
theorem direction_sub (current target : UInt32) :
    direction ((target.toNat : Int) - current.toNat) = .between current target := by
  have hup : 0 < (target.toNat : Int) - current.toNat ↔ current < target := by
    rw [UInt32.lt_iff_toNat_lt]
    omega
  have hdown : (target.toNat : Int) - current.toNat < 0 ↔ target < current := by
    rw [UInt32.lt_iff_toNat_lt]
    omega
  simp only [direction, Action.between, hup, hdown]

/-- **No step of a tier is longer than the cap of its direction.** -/
theorem natAbs_delta_le {s : Stepping} {requested : Int} {current : UInt32} {h : History}
    {now : UInt64} {cap : Nat}
    (hcap : (s.rules (direction requested)).cap? (direction requested) current h now = some cap) :
    (s.limit requested current h now).delta.natAbs ≤ cap := by
  unfold limit
  split
  · exact Nat.zero_le cap
  · exact StepRules.natAbs_delta_le hcap requested

end Stepping

/-! ## The allowance -/

namespace StepPolicy

variable {p : StepPolicy} (current : UInt32)

/-- An allowance in replicas is the same at every live count. -/
theorem allowance_of_pods (hkind : p.kind = .pods) : p.allowance current = p.value.toNat := by
  rw [allowance, hkind]

/-- An allowance in percent is the share of the live count, rounded up, and at least one. -/
theorem allowance_le_of_percent (hkind : p.kind = .percent) :
    p.allowance current ≤ max 1 ((current.toNat * p.value.toNat + 99) / 100) := by
  rw [allowance, hkind]
  dsimp only
  split
  · exact Nat.zero_le _
  · rw [Nat.max_comm 1]
    exact Nat.min_le_left _ _

end StepPolicy

/-! ## Policies that are heeded -/

namespace StepRules

/-- Whatever is remembered, the rules name a cap, and it is not more than what is left of the
allowance of a policy. -/
def Heeds (r : StepRules) (p : StepPolicy) : Prop :=
  ∀ (direction : Action) (current : UInt32) (h : History) (now : UInt64),
    ∃ cap, r.cap? direction current h now = some cap ∧ cap ≤ p.budget direction current h now

/-- Rules that choose the least of their policies heed each of them. -/
theorem heeds_of_min {r : StepRules} (hchoice : r.choice = .min) {p : StepPolicy}
    (hp : p ∈ r.policies) : r.Heeds p := by
  intro direction current h now
  have hbudget := List.mem_map_of_mem (f := fun p => p.budget direction current h now) hp
  obtain ⟨cap, hcap⟩ := Option.isSome_iff_exists.mp (List.isSome_min?_of_mem hbudget)
  refine ⟨cap, ?_, (List.min?_eq_some_iff.mp hcap).2 _ hbudget⟩
  unfold cap?
  rw [hchoice]
  exact hcap

/-- Rules with a single policy heed it, whatever they choose. -/
theorem heeds_of_single {r : StepRules} {p : StepPolicy} (hpolicies : r.policies = [p]) :
    r.Heeds p := by
  intro direction current h now
  unfold cap?
  rw [hpolicies]
  cases r.choice with
  | disabled => exact ⟨0, rfl, Nat.zero_le _⟩
  | max => exact ⟨_, rfl, Nat.le_refl _⟩
  | min => exact ⟨_, rfl, Nat.le_refl _⟩

end StepRules

end ClusterScaling
