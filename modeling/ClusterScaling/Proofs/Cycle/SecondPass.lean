import ClusterScaling.Proofs.Cycle.Landing
import ClusterScaling.Proofs.Cycle.Primaries
import ClusterScaling.Proofs.Quorum.Contract

/-!
# The primaries pass the guard twice

A step that the limits have shortened may end at any count, so the guard is
asked a second time. What it is asked about then is not arbitrary. The
count reached lies between the live count and the odd count that the first
pass allowed, `Cycle.reached_between`, and that is all that has to be
known of the limits.

Between two odd counts in range the second pass only rounds, and the one
allowed before is always one of them. So the tier does not overshoot what
was allowed, and since a shorter removal breaks no quorum that a longer
one respects, the second pass never vetoes (`Cycle.secondPass_passes`).

The live count need not be odd. If it is even and the limits leave nothing
of a removal, the second pass rounds up, because the tier does not shrink;
this is the only way in which a removal that was allowed can end in a
tier that grows (`second_pass_rounds`).
-/

namespace ClusterScaling

/-- A step towards a count that exists leads to a count that exists. -/
theorem toNat_stepped_of_shortens {current target : UInt32} {delta : Int}
    (h : Shortens delta (target.toNat - current.toNat)) :
    ((stepped current delta).toNat : Int) = current.toNat + delta := by
  have hcurrent := current.toNat_lt_size
  have htarget := target.toNat_lt_size
  have hrange : 0 ≤ (current.toNat : Int) + delta
      ∧ (current.toNat : Int) + delta < UInt32.size := by
    rcases Int.le_total 0 ((target.toNat : Int) - current.toNat) with hup | hdown
    · have := h.1 hup
      omega
    · have := h.2 hdown
      omega
  unfold stepped
  dsimp only
  rw [if_pos hrange, UInt32.toNat_ofNat_of_lt' (by omega)]
  exact Int.toNat_of_nonneg hrange.1

namespace Cycle

section

variable (s : Settings) (live : LiveState) (candidate : UInt32) (h : History) (now : UInt64)

/-- What the guard says to the proposal that won. -/
def firstPass : GuardOutcome :=
  (oddRange s).guard live.replicas.primaries candidate (quorumState s live)

/-- The step to the count that the first pass allows. -/
def allowedStep : Int :=
  (firstPass s live candidate).count.toNat - live.replicas.primaries.toNat

/-- What the limits leave of this step. -/
def limitedStep : LimitedStep :=
  s.tiers.primaries.stepping.limit (allowedStep s live candidate) live.replicas.primaries h now

/-- The count that the primaries reach by the limited step. -/
def reached : UInt32 := stepped live.replicas.primaries (limitedStep s live candidate h now).delta

/-- What the guard says to the count reached. -/
def secondPass : GuardOutcome :=
  (oddRange s).guard live.replicas.primaries (reached s live candidate h now) (quorumState s live)

end

variable {s : Settings} {live : LiveState} {candidate : UInt32} (h : History) (now : UInt64)

/-- A veto of the first pass ends the stages of the primaries. -/
theorem guardedPrimaries_of_veto (hveto : (firstPass s live candidate).verdict = .vetoed) :
    (guardedPrimaries s live candidate h now).target = live.replicas.primaries
      ∧ (guardedPrimaries s live candidate h now).verdict = some .vetoed := by
  unfold firstPass at hveto
  unfold guardedPrimaries
  dsimp only
  rw [if_pos hveto]
  exact ⟨rfl, rfl⟩

/-- Without one, the primaries end where the second pass says. -/
theorem guardedPrimaries_of_pass (hpass : (firstPass s live candidate).verdict ≠ .vetoed) :
    (guardedPrimaries s live candidate h now).target = (secondPass s live candidate h now).count
      ∧ (guardedPrimaries s live candidate h now).verdict
        = some ((firstPass s live candidate).verdict.graver
            (secondPass s live candidate h now).verdict) := by
  unfold firstPass at hpass
  unfold guardedPrimaries
  dsimp only
  rw [if_neg hpass]
  exact ⟨rfl, rfl⟩

/-! ## The count reached -/

/-- The limits leave the direction of the step that was allowed. -/
theorem shortens_limitedStep (s : Settings) (live : LiveState) (candidate : UInt32) (h : History)
    (now : UInt64) :
    Shortens (limitedStep s live candidate h now).delta (allowedStep s live candidate) :=
  Stepping.limit_shortens _ _ _ _ _

/-- The limited step is gone in full. -/
theorem toNat_reached (s : Settings) (live : LiveState) (candidate : UInt32) (h : History)
    (now : UInt64) :
    ((reached s live candidate h now).toNat : Int)
      = live.replicas.primaries.toNat + (limitedStep s live candidate h now).delta :=
  toNat_stepped_of_shortens (shortens_limitedStep s live candidate h now)

/-- **The count reached lies between the live count and the one that was allowed.** -/
theorem reached_between (s : Settings) (live : LiveState) (candidate : UInt32) (h : History)
    (now : UInt64) :
    (live.replicas.primaries.toNat ≤ (firstPass s live candidate).count.toNat →
        live.replicas.primaries.toNat ≤ (reached s live candidate h now).toNat
          ∧ (reached s live candidate h now).toNat ≤ (firstPass s live candidate).count.toNat)
      ∧ ((firstPass s live candidate).count.toNat ≤ live.replicas.primaries.toNat →
        (firstPass s live candidate).count.toNat ≤ (reached s live candidate h now).toNat
          ∧ (reached s live candidate h now).toNat ≤ live.replicas.primaries.toNat) := by
  have hreached := toNat_reached s live candidate h now
  have hstep := shortens_limitedStep s live candidate h now
  unfold allowedStep at hstep
  constructor
  · intro hup
    have := hstep.1 (by omega)
    omega
  · intro hdown
    have := hstep.2 (by omega)
    omega

/-! ## The second pass -/

/-- What the first pass allows is an odd count in range. -/
theorem count_firstPass_mem (hpass : (firstPass s live candidate).verdict ≠ .vetoed) :
    (firstPass s live candidate).count.toNat % 2 = 1
      ∧ (oddRange s).lowest ≤ (firstPass s live candidate).count.toNat
      ∧ (firstPass s live candidate).count.toNat ≤ (oddRange s).highest := by
  have hcount : (firstPass s live candidate).count.toNat
      = (oddRange s).aim live.replicas.primaries candidate :=
    OddRange.toNat_count_of_not_vetoed hpass
  rw [hcount]
  exact ⟨(oddRange s).odd_nearest _ _, (oddRange s).nearest_mem _ _⟩

/-- A tier that was allowed to grow, or to stay, does not shrink in the second pass. -/
theorem le_aim_reached (hpass : (firstPass s live candidate).verdict ≠ .vetoed)
    (hup : live.replicas.primaries.toNat ≤ (firstPass s live candidate).count.toNat) :
    live.replicas.primaries.toNat
      ≤ (oddRange s).aim live.replicas.primaries (reached s live candidate h now) := by
  obtain ⟨-, -, hhighest⟩ := count_firstPass_mem hpass
  obtain ⟨hle, hallowed⟩ := (reached_between s live candidate h now).1 hup
  have hgrows : Action.between live.replicas.primaries (reached s live candidate h now)
      ≠ .scaleDown := by
    rw [Ne, Action.between_eq_scaleDown, UInt32.lt_iff_toNat_lt]
    omega
  exact Nat.le_trans hle ((oddRange s).le_nearest hgrows (Nat.le_trans hallowed hhighest))

/-- A tier that was allowed to shrink does not end below what was allowed. -/
theorem allowed_le_aim_reached (hpass : (firstPass s live candidate).verdict ≠ .vetoed)
    (hdown : (firstPass s live candidate).count.toNat ≤ live.replicas.primaries.toNat) :
    (firstPass s live candidate).count.toNat
      ≤ (oddRange s).aim live.replicas.primaries (reached s live candidate h now) := by
  obtain ⟨hodd, -, hhighest⟩ := count_firstPass_mem hpass
  exact (oddRange s).le_nearest_of_odd hodd hhighest
    ((reached_between s live candidate h now).2 hdown).1 _

/-- **If the second pass aims at a count that breaks the quorum, so did the first.** -/
theorem brokenBy_allowed (hpass : (firstPass s live candidate).verdict ≠ .vetoed)
    (hbroken : (quorumState s live).BrokenBy live.replicas.primaries.toNat
      ((oddRange s).aim live.replicas.primaries (reached s live candidate h now))) :
    (quorumState s live).BrokenBy live.replicas.primaries.toNat
      (firstPass s live candidate).count.toNat := by
  rcases Nat.le_total live.replicas.primaries.toNat (firstPass s live candidate).count.toNat
    with hup | hdown
  · exact absurd hbroken.1 (Nat.not_lt.mpr (le_aim_reached h now hpass hup))
  · exact hbroken.mono (allowed_le_aim_reached h now hpass hdown)

/-- **The second pass never vetoes.** -/
theorem secondPass_passes (hpass : (firstPass s live candidate).verdict ≠ .vetoed) :
    (secondPass s live candidate h now).verdict ≠ .vetoed := by
  intro hveto
  obtain ⟨hbroken, hbreak⟩ := OddRange.verdict_eq_vetoed_iff.mp hveto
  have hallowed := brokenBy_allowed h now hpass hbroken
  rw [show (firstPass s live candidate).count.toNat
      = (oddRange s).aim live.replicas.primaries candidate from
    OddRange.toNat_count_of_not_vetoed hpass] at hallowed
  exact hpass (OddRange.verdict_eq_vetoed_iff.mpr ⟨hallowed, hbreak⟩)

/-- The primaries end at the odd count that is nearest to the count reached. -/
theorem toNat_count_secondPass (hpass : (firstPass s live candidate).verdict ≠ .vetoed) :
    (secondPass s live candidate h now).count.toNat
      = (oddRange s).aim live.replicas.primaries (reached s live candidate h now) :=
  OddRange.toNat_count_of_not_vetoed (secondPass_passes h now hpass)

/-! ## Rounding only -/

section

variable (hpass : (firstPass s live candidate).verdict ≠ .vetoed)
  (hlowest : (oddRange s).lowest ≤ live.replicas.primaries.toNat)
  (hhighest : live.replicas.primaries.toNat ≤ (oddRange s).highest)

include hpass hlowest hhighest

/-- From a live count in range, a count in range is reached. -/
theorem reached_mem :
    (oddRange s).lowest ≤ (reached s live candidate h now).toNat
      ∧ (reached s live candidate h now).toNat ≤ (oddRange s).highest := by
  obtain ⟨-, hlow, hhigh⟩ := count_firstPass_mem hpass
  obtain ⟨hup, hdown⟩ := reached_between s live candidate h now
  rcases Nat.le_total live.replicas.primaries.toNat (firstPass s live candidate).count.toNat
    with hle | hle
  · have := hup hle
    omega
  · have := hdown hle
    omega

/-- **The second pass moves the count reached by at most one.** -/
theorem secondPass_near :
    (secondPass s live candidate h now).count.toNat ≤ (reached s live candidate h now).toNat + 1
      ∧ (reached s live candidate h now).toNat
        ≤ (secondPass s live candidate h now).count.toNat + 1 := by
  obtain ⟨hlow, hhigh⟩ := reached_mem h now hpass hlowest hhighest
  rw [toNat_count_secondPass h now hpass]
  exact (oddRange s).nearest_near hlow hhigh _

omit hlowest hhighest in
/-- A tier that was allowed to grow ends between the live count and the one allowed. -/
theorem secondPass_of_up
    (hup : live.replicas.primaries.toNat ≤ (firstPass s live candidate).count.toNat) :
    live.replicas.primaries.toNat ≤ (secondPass s live candidate h now).count.toNat
      ∧ (secondPass s live candidate h now).count.toNat
        ≤ (firstPass s live candidate).count.toNat := by
  obtain ⟨hodd, hlow, -⟩ := count_firstPass_mem hpass
  rw [toNat_count_secondPass h now hpass]
  exact ⟨le_aim_reached h now hpass hup, (oddRange s).nearest_le_of_odd hodd hlow
    ((reached_between s live candidate h now).1 hup).2 _⟩

/-- A tier that was allowed to shrink ends between the count allowed and the live one, or one above
the live one, and that only if the live count is even and the limits have left no step at all. -/
theorem secondPass_of_down
    (hdown : (firstPass s live candidate).count.toNat < live.replicas.primaries.toNat) :
    (firstPass s live candidate).count.toNat ≤ (secondPass s live candidate h now).count.toNat
      ∧ (secondPass s live candidate h now).count.toNat ≤ live.replicas.primaries.toNat + 1
      ∧ (live.replicas.primaries.toNat < (secondPass s live candidate h now).count.toNat →
        live.replicas.primaries.toNat % 2 = 0
          ∧ (limitedStep s live candidate h now).delta = 0) := by
  have hle := ((reached_between s live candidate h now).2 (Nat.le_of_lt hdown)).2
  have hnear := (secondPass_near h now hpass hlowest hhighest).1
  have hlow := (reached_mem h now hpass hlowest hhighest).1
  have hreached := toNat_reached s live candidate h now
  rw [toNat_count_secondPass h now hpass] at hnear ⊢
  refine ⟨allowed_le_aim_reached h now hpass (Nat.le_of_lt hdown), by omega, fun hgrown => ?_⟩
  by_cases hstill : reached s live candidate h now = live.replicas.primaries
  · -- no step was left, so the live count itself was rounded up
    rw [hstill] at hgrown hreached
    refine ⟨?_, by omega⟩
    rcases Nat.mod_two_eq_zero_or_one live.replicas.primaries.toNat with heven | hodd
    · exact heven
    · rw [OddRange.aim, (oddRange s).nearest_of_mem hodd hlowest hhighest] at hgrown
      exact absurd hgrown (Nat.lt_irrefl _)
  · -- some of the removal was left, so the tier shrinks and is rounded down
    have hlt : (reached s live candidate h now).toNat < live.replicas.primaries.toNat :=
      Nat.lt_of_le_of_ne hle fun heq => hstill (UInt32.toNat_inj.mp heq)
    have hshrinks := Action.between_eq_scaleDown.mpr (UInt32.lt_iff_toNat_lt.mpr hlt)
    rw [OddRange.aim, hshrinks] at hgrown
    have := (oddRange s).nearest_le hlow
    omega

end

/-- Primaries that do not cool down end where the guard and the limits lead from the proposal that
wins. -/
theorem decideTier_primaries (s : Settings) (live : LiveState) {d : Draft}
    (hcool : d.cooling = false) (advice : Option Advice) (h : History) (now : UInt64) :
    let o := decideTier s live .primaries d advice h now
    o.decision.target = (guardedPrimaries s live (o.start s.tiers.primaries) h now).target
      ∧ o.verdict = (guardedPrimaries s live (o.start s.tiers.primaries) h now).verdict := by
  intro o
  have hstart : o.start s.tiers.primaries
      = (choose s.engine s.tiers.primaries live.replicas.primaries d.internal o.advised
          d.cooling).1.target := start_choose rfl
  have hstage : stage s live .primaries (o.start s.tiers.primaries) d.cooling h now
      = guardedPrimaries s live (o.start s.tiers.primaries) h now := by
    rw [hcool]
    rfl
  rw [← hstage, hstart]
  exact ⟨rfl, rfl⟩

end Cycle

/-- **The second pass of the guard only rounds.** Whatever has won the arbitration, whatever is
remembered and however many primaries are healthy, let `allowed` be what a first pass without a veto
allows to primaries that do not cool down, and let `reached` be the live count and what the limits
leave of the step to it. Then there is no veto, and the target is what the guard says to the count
reached. If the live count is in range, the target is odd and at most one away from the count
reached, and thus from what a cap lets the tier reach; a tier that was allowed to grow ends between
the live count and `allowed`; and one that was allowed to shrink ends not below `allowed` and at
most one above the live count, above it only if the live count is even and the limits left nothing
of the removal. -/
theorem second_pass_rounds (s : Settings) (live : LiveState) {d : Draft}
    (hcool : d.cooling = false) (advice : Option Advice) (h : History) (now : UInt64) :
    let o := Cycle.decideTier s live .primaries d advice h now
    let range := Cycle.oddRange s
    let state := Cycle.quorumState s live
    let stepping := s.tiers.primaries.stepping
    let current := live.replicas.primaries
    let target := o.decision.target
    let first := range.guard current (o.start s.tiers.primaries) state
    let allowed := first.count
    let requested : Int := allowed.toNat - current.toNat
    let delta := (stepping.limit requested current h now).delta
    first.verdict ≠ .vetoed →
      o.verdict ≠ some .vetoed
      ∧ (∃ reached : UInt32, (reached.toNat : Int) = current.toNat + delta
          ∧ (range.guard current reached state).verdict ≠ .vetoed
          ∧ (range.guard current reached state).count = target)
      ∧ (range.lowest ≤ current.toNat → current.toNat ≤ range.highest →
        target.toNat % 2 = 1
          ∧ ((target.toNat : Int) - (current.toNat + delta)).natAbs ≤ 1
          ∧ (∀ cap, (stepping.rules (Stepping.direction requested)).cap?
              (Stepping.direction requested) current h now = some cap →
            ((target.toNat : Int) - current.toNat).natAbs ≤ cap + 1)
          ∧ (current ≤ allowed → current ≤ target ∧ target ≤ allowed)
          ∧ (allowed < current → allowed ≤ target ∧ target.toNat ≤ current.toNat + 1
            ∧ (current < target → current.toNat % 2 = 0 ∧ delta = 0))) := by
  intro o range state stepping current target first allowed requested delta hpass
  obtain ⟨htarget, hverdict⟩ := Cycle.decideTier_primaries s live hcool advice h now
  obtain ⟨hcount, hgraver⟩ := Cycle.guardedPrimaries_of_pass h now hpass
  have hsecond : (Cycle.secondPass s live (o.start s.tiers.primaries) h now).count = target :=
    hcount.symm.trans htarget.symm
  have hpasses := Cycle.secondPass_passes h now hpass
  have hreached : ((Cycle.reached s live (o.start s.tiers.primaries) h now).toNat : Int)
      = current.toNat + delta := Cycle.toNat_reached s live _ h now
  refine ⟨?_, ⟨_, hreached, hpasses, hsecond⟩, fun hlowest hhighest => ?_⟩
  · rw [hverdict, hgraver]
    intro hveto
    rcases Verdict.graver_eq_vetoed.mp (Option.some.inj hveto) with hv | hv
    · exact hpass hv
    · exact hpasses hv
  · have hnear := Cycle.secondPass_near h now hpass hlowest hhighest
    have hup := Cycle.secondPass_of_up h now hpass
    have hdown := Cycle.secondPass_of_down h now hpass hlowest hhighest
    have hodd : target.toNat % 2 = 1 := by
      rw [← hsecond, Cycle.toNat_count_secondPass h now hpass]
      exact (Cycle.oddRange s).odd_nearest _ _
    rw [hsecond] at hnear hup hdown
    refine ⟨hodd, by omega, fun cap hcap => ?_, fun hle => ?_, fun hlt => ?_⟩
    · have hdelta : delta.natAbs ≤ cap := Stepping.natAbs_delta_le hcap
      omega
    · obtain ⟨hlow, hhigh⟩ := hup (UInt32.le_iff_toNat_le.mp hle)
      exact ⟨UInt32.le_iff_toNat_le.mpr hlow, UInt32.le_iff_toNat_le.mpr hhigh⟩
    · obtain ⟨hlow, hhigh, hgrown⟩ := hdown (UInt32.lt_iff_toNat_lt.mp hlt)
      exact ⟨UInt32.le_iff_toNat_le.mpr hlow, hhigh,
        fun hlt => hgrown (UInt32.lt_iff_toNat_lt.mp hlt)⟩

/-- The adviser wants four of six primaries. The guard allows three, the limit leaves four, and the
second pass makes it three again: one more is removed than the limit allows. -/
theorem second_pass_rounds_walking :
    let live : LiveState := ⟨⟨6, 1⟩, 6⟩
    let draft : Draft := ⟨.stay 6 "" 0, false⟩
    let advice : Option Advice := some ⟨.hold, ⟨some 4, none⟩, "", 1.0⟩
    let o := Cycle.decideTier .walking live .primaries draft advice (.empty 64) 0
    o.start Settings.walking.tiers.primaries = 4 ∧ o.decision.target = 3
      ∧ o.verdict ≠ some .vetoed ∧ o.decision.target.toNat % 2 = 1
      ∧ ((o.decision.target.toNat : Int) - 6).natAbs ≤ 2 + 1 := by
  intro live draft advice o
  have hrounds := second_pass_rounds .walking live (d := draft) rfl advice (.empty 64) 0
    (by decide +kernel)
  obtain ⟨hpass, -, hlands⟩ := hrounds
  obtain ⟨hodd, -, hcapped, -⟩ := hlands (by decide +kernel) (by decide +kernel)
  exact ⟨by decide +kernel, by decide +kernel, hpass, hodd, hcapped 2 (by decide +kernel)⟩

end ClusterScaling
