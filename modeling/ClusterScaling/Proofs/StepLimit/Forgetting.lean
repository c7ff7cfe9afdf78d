import Mathlib.Algebra.Order.BigOperators.Group.List
import Mathlib.Algebra.Order.Group.Nat
import Mathlib.Data.List.Perm.Subperm
import ClusterScaling.Proofs.StepLimit.Reach

/-!
# What is forgotten tightens no limit

The moves of a tier are forgotten when they grow old, when there is no
room for them, and all at once when a program starts anew. None of this
keeps a tier from a step that it could take if it remembered: a limit that
looks back only ever takes from what it would grant to a tier without a
past. A window closes a direction because of some move that it finds, and
with more moves there is more to find. A policy deducts what has moved,
and with more moves there is more to deduct.

So the more is remembered, the shorter is the reach, in either direction
(`Stepping.Admits.of_subperm`), and since a limited step is the longest
one within reach, it is the shorter for it
(`Stepping.remembering_tightens`). The order of the moves makes no
difference, nor does the time of the latest change, which no limit on
steps reads.
-/

namespace ClusterScaling

/-- If every item has no more by one measure than by another, their maximum has no more either. -/
theorem exists_max?_map_le {α : Type} {as : List α} {f g : α → Nat} (hle : ∀ a ∈ as, g a ≤ f a)
    {cap : Nat} (hcap : (as.map f).max? = some cap) :
    ∃ less, (as.map g).max? = some less ∧ less ≤ cap := by
  obtain ⟨hmem, hmost⟩ := List.max?_eq_some_iff.mp hcap
  obtain ⟨a, ha, -⟩ := List.mem_map.mp hmem
  obtain ⟨less, hless⟩ := Option.isSome_iff_exists.mp
    (List.isSome_max?_of_mem (List.mem_map_of_mem (f := g) ha))
  obtain ⟨b, hb, rfl⟩ := List.mem_map.mp (List.max?_mem hless)
  exact ⟨g b, hless, Nat.le_trans (hle b hb) (hmost (f b) (List.mem_map_of_mem hb))⟩

/-- If every item has no more by one measure than by another, their minimum has no more either. -/
theorem exists_min?_map_le {α : Type} {as : List α} {f g : α → Nat} (hle : ∀ a ∈ as, g a ≤ f a)
    {cap : Nat} (hcap : (as.map f).min? = some cap) :
    ∃ less, (as.map g).min? = some less ∧ less ≤ cap := by
  obtain ⟨a, ha, rfl⟩ := List.mem_map.mp (List.min?_mem hcap)
  have hmem : g a ∈ as.map g := List.mem_map_of_mem ha
  obtain ⟨less, hless⟩ := Option.isSome_iff_exists.mp (List.isSome_min?_of_mem hmem)
  exact ⟨less, hless, Nat.le_trans ((List.min?_eq_some_iff.mp hless).2 (g a) hmem) (hle a ha)⟩

section

variable {fewer more : History} (hmoves : fewer.moves.Subperm more.moves) (direction : Action)
  (current : UInt32) (now : UInt64)

include hmoves

/-- What is remembered beside other moves adds to what has moved. -/
theorem StepPolicy.moved_le_of_subperm (p : StepPolicy) :
    p.moved direction fewer now ≤ p.moved direction more now := by
  obtain ⟨moves, hperm, hsub⟩ := (hmoves.filter fun m =>
    decide (History.since now p.period ≤ m.timestamp.toNat)).filter fun m =>
      decide (m.action = direction)
  unfold moved History.within
  rw [← List.sum_eq_foldr, ← List.sum_eq_foldr, ← (hperm.map Move.magnitude).sum_nat]
  exact (hsub.map Move.magnitude).sum_le_sum fun _ _ => Nat.zero_le _

/-- **What is remembered takes from a budget.** -/
theorem StepPolicy.budget_le_of_subperm (p : StepPolicy) :
    p.budget direction current more now ≤ p.budget direction current fewer now :=
  Nat.sub_le_sub_left (p.moved_le_of_subperm hmoves direction now) _

namespace StepRules

variable (r : StepRules)

/-- **A window that finds no opposite change among more moves finds none among fewer.** -/
theorem recentOpposite?_of_subperm (hnone : r.recentOpposite? direction more now = none) :
    r.recentOpposite? direction fewer now = none := by
  rw [recentOpposite?_eq_none] at hnone ⊢
  exact hnone.imp_right fun hall m hm => hall m (hmoves.subset hm)

/-- **What is remembered lowers a cap.** -/
theorem cap?_of_subperm {cap : Nat} (hcap : r.cap? direction current fewer now = some cap) :
    ∃ less, r.cap? direction current more now = some less ∧ less ≤ cap := by
  have hbudget : ∀ p ∈ r.policies,
      p.budget direction current more now ≤ p.budget direction current fewer now :=
    fun p _ => p.budget_le_of_subperm hmoves direction current now
  unfold cap? at hcap ⊢
  cases hchoice : r.choice with
  | disabled => exact ⟨0, rfl, Nat.zero_le cap⟩
  | max =>
    rw [hchoice] at hcap
    exact exists_max?_map_le hbudget hcap
  | min =>
    rw [hchoice] at hcap
    exact exists_min?_map_le hbudget hcap

/-- **What is remembered shortens the reach.** -/
theorem reach?_of_subperm {cap : Nat} (hreach : r.reach? direction current fewer now = some cap) :
    ∃ less, r.reach? direction current more now = some less ∧ less ≤ cap := by
  unfold reach? at hreach ⊢
  cases hrecent : r.recentOpposite? direction more now with
  | some m => exact ⟨0, rfl, Nat.zero_le cap⟩
  | none =>
    rw [r.recentOpposite?_of_subperm hmoves direction now hrecent] at hreach
    exact r.cap?_of_subperm hmoves direction current now hreach

end StepRules

/-- **What is within reach of who remembers is within reach of who has forgotten.** -/
theorem Stepping.Admits.of_subperm {s : Stepping} {delta : Int}
    (hadmits : s.Admits current more now delta) : s.Admits current fewer now delta := by
  intro cap hcap
  obtain ⟨less, hless, hle⟩ := (s.rules (direction delta)).reach?_of_subperm hmoves
    (direction delta) current now hcap
  exact Nat.le_trans (hadmits less hless) hle

end

namespace Stepping

/-- **Forgetting only loosens limits, and remembering only tightens them.** If one history has all
moves of another one, in whatever order, and maybe more, then it leaves no more of any step than the
other one does, and never a step in the opposite direction. -/
theorem remembering_tightens (s : Stepping) (requested : Int) (current : UInt32) (now : UInt64)
    {fewer more : History} (hmoves : fewer.moves.Subperm more.moves) :
    let forgetful := (s.limit requested current fewer now).delta
    let mindful := (s.limit requested current more now).delta
    mindful.natAbs ≤ forgetful.natAbs
      ∧ ¬(0 < mindful ∧ forgetful < 0) ∧ ¬(mindful < 0 ∧ 0 < forgetful) := by
  intro forgetful mindful
  have hadmits : s.Admits current fewer now mindful :=
    (admits_limit s current more now requested).of_subperm hmoves
  have hs : Shortens mindful forgetful :=
    shortens_limit_of_admits hadmits (s.limit_shortens current more now requested)
  refine ⟨hs.natAbs_le, fun ⟨hup, hdown⟩ => ?_, fun ⟨hdown, hup⟩ => ?_⟩
  · exact Int.not_le.mpr hup (hs.2 (Int.le_of_lt hdown)).2
  · exact Int.not_le.mpr hdown (hs.1 (Int.le_of_lt hup)).1

/-- Of a budget of four, who remembers three replicas that were added one by one lets one more be
added, and who remembers the last and the first of them lets two. -/
theorem remembering_tightens_paced :
    let first : Move := ⟨.scaleUp, 1, 2, 1000000⟩
    let second : Move := ⟨.scaleUp, 2, 3, 1010000⟩
    let third : Move := ⟨.scaleUp, 3, 4, 1020000⟩
    let fewer : History := ⟨8, [third, first], none⟩
    let more : History := ⟨8, [first, second, third], some 1020000⟩
    fewer.moves.Subperm more.moves
      ∧ (paced.limit 9 4 fewer 1030000).delta = 2
      ∧ (paced.limit 9 4 more 1030000).delta = 1
      ∧ (paced.limit 9 4 more 1030000).delta.natAbs
          ≤ (paced.limit 9 4 fewer 1030000).delta.natAbs := by
  intro first second third fewer more
  have hmoves : fewer.moves.Subperm more.moves :=
    ⟨[first, third], .swap third first [], .cons_cons first (.cons second (.refl [third]))⟩
  exact ⟨hmoves, by decide, by decide, (remembering_tightens paced 9 4 1030000 hmoves).1⟩

end Stepping

end ClusterScaling
