import ClusterScaling.Proofs.StepLimit.Direction

/-!
# A limited step is the longest one within reach

At any moment the rules of a direction say how far a tier may go in it:
nowhere if a change in the other direction is too recent, as far as the
cap that the policies name, or as far as it likes if they name none
(`StepRules.reach?`). A step that is no longer than that is **within
reach** (`Stepping.Admits`).

What a limit leaves of a step is within reach, and it is the longest such
step on the way to the requested one (`Stepping.admits_limit` and
`Stepping.shortens_limit_of_admits`). So limiting a step is going as near
to it as the reach allows, and it has the laws of such a projection,
whatever the rules are: a step within reach is left alone, to limit a step
again changes nothing, and steps keep their order (`Stepping.limit_law`).
-/

namespace ClusterScaling

namespace StepRules

variable {r : StepRules} {direction : Action} {current : UInt32} {h : History} {now : UInt64}

/-- How far the rules of a direction let a tier go now, if they limit it: nowhere after a recent
change in the other direction, and otherwise as far as the policies say. -/
def reach? (r : StepRules) (direction : Action) (current : UInt32) (h : History) (now : UInt64) :
    Option Nat :=
  match r.recentOpposite? direction h now with
  | some _ => some 0
  | none => r.cap? direction current h now

/-- A step within reach is left alone. -/
theorem limit_of_le_reach {requested : Int} (hne : requested ≠ 0)
    (hreach : ∀ cap, r.reach? direction current h now = some cap → requested.natAbs ≤ cap) :
    r.limit direction requested current h now = ⟨requested, none⟩ := by
  unfold reach? at hreach
  unfold limit
  cases hrecent : r.recentOpposite? direction h now with
  | some m =>
    -- no step of any length is within a reach of zero
    rw [hrecent] at hreach
    exact absurd (Int.natAbs_eq_zero.mp (Nat.le_zero.mp (hreach 0 rfl))) hne
  | none =>
    rw [hrecent] at hreach
    dsimp only
    cases hcap : r.cap? direction current h now with
    | none => rfl
    | some cap => exact if_pos (hreach cap hcap)

/-- A step beyond the reach is cut down to it, and the cause is told. -/
theorem limit_of_reach_lt {requested : Int} {cap : Nat}
    (hreach : r.reach? direction current h now = some cap) (hlt : cap < requested.natAbs) :
    (r.limit direction requested current h now).delta.natAbs = cap
      ∧ (r.limit direction requested current h now).cause ≠ none := by
  unfold reach? at hreach
  unfold limit
  cases hrecent : r.recentOpposite? direction h now with
  | some m =>
    rw [hrecent] at hreach
    exact ⟨Option.some.inj hreach, nofun⟩
  | none =>
    rw [hrecent] at hreach
    dsimp only at hreach ⊢
    rw [hreach]
    dsimp only
    rw [if_neg (Nat.not_le.mpr hlt)]
    exact ⟨natAbs_sign_mul (by omega) cap, nofun⟩

end StepRules

namespace Stepping

variable {s : Stepping} {current : UInt32} {h : History} {now : UInt64}

/-- A step that shortens another one and is a step at all has its direction. -/
theorem direction_of_shortens {delta requested : Int} (hs : Shortens delta requested)
    (hne : delta ≠ 0) : direction delta = direction requested := by
  have hsign := hs.sign_eq hne
  have hup : 0 < delta ↔ 0 < requested := by
    rw [← Int.sign_eq_one_iff_pos, hsign, Int.sign_eq_one_iff_pos]
  have hdown : delta < 0 ↔ requested < 0 := by
    rw [← Int.sign_eq_neg_one_iff_neg, hsign, Int.sign_eq_neg_one_iff_neg]
  simp only [direction, hup, hdown]

/-- How far the rules let a tier go in the direction of a step, if they limit it. -/
def reach? (s : Stepping) (current : UInt32) (h : History) (now : UInt64) (delta : Int) :
    Option Nat :=
  (s.rules (direction delta)).reach? (direction delta) current h now

/-- A step is within reach if the rules let the tier go as far. -/
def Admits (s : Stepping) (current : UInt32) (h : History) (now : UInt64) (delta : Int) : Prop :=
  ∀ cap, s.reach? current h now delta = some cap → delta.natAbs ≤ cap

/-- Not to move is always within reach. -/
theorem admits_zero : s.Admits current h now 0 := fun cap _ => Nat.zero_le cap

/-- A step of some length goes by the rules of its direction. -/
theorem limit_of_ne_zero {requested : Int} (hne : requested ≠ 0) :
    s.limit requested current h now
      = (s.rules (direction requested)).limit (direction requested) requested current h now := by
  rcases Int.lt_or_gt_of_ne hne with hneg | hpos
  · have hdown : direction requested = .scaleDown := by
      rw [direction, if_neg (by omega), if_pos hneg]
    rw [limit_of_neg s current h now hneg, hdown]
    rfl
  · have hup : direction requested = .scaleUp := if_pos hpos
    rw [limit_of_pos s current h now hpos, hup]
    rfl

/-- A step within reach is left alone. -/
theorem limit_of_admits {requested : Int} (hadmits : s.Admits current h now requested) :
    s.limit requested current h now = ⟨requested, none⟩ := by
  by_cases hzero : requested = 0
  · rw [hzero, limit_zero]
  · rw [limit_of_ne_zero hzero]
    exact StepRules.limit_of_le_reach hzero hadmits

/-- **A step is within reach and left alone, or beyond the reach and cut down to it.** -/
theorem limit_cases (s : Stepping) (current : UInt32) (h : History) (now : UInt64)
    (requested : Int) :
    s.limit requested current h now = ⟨requested, none⟩ ∧ s.Admits current h now requested
      ∨ ∃ cap, s.reach? current h now requested = some cap ∧ cap < requested.natAbs
        ∧ (s.limit requested current h now).delta.natAbs = cap
        ∧ (s.limit requested current h now).cause ≠ none := by
  by_cases hadmits : s.Admits current h now requested
  · exact .inl ⟨limit_of_admits hadmits, hadmits⟩
  · obtain ⟨cap, hbeyond⟩ := Classical.not_forall.mp hadmits
    obtain ⟨hreach, hle⟩ := Classical.not_imp.mp hbeyond
    have hlt := Nat.lt_of_not_le hle
    rw [limit_of_ne_zero (by omega)]
    exact .inr ⟨cap, hreach, hlt, StepRules.limit_of_reach_lt hreach hlt⟩

/-- **What a limit leaves of a step is within reach.** -/
theorem admits_limit (s : Stepping) (current : UInt32) (h : History) (now : UInt64)
    (requested : Int) : s.Admits current h now (s.limit requested current h now).delta := by
  rcases limit_cases s current h now requested with ⟨heq, hadmits⟩ | ⟨cap, hreach, -, hlength, -⟩
  · rw [heq]
    exact hadmits
  · by_cases hzero : (s.limit requested current h now).delta = 0
    · rw [hzero]
      exact admits_zero
    · intro other hother
      have hdirection := direction_of_shortens (s.limit_shortens current h now requested) hzero
      rw [reach?, hdirection] at hother
      rw [hlength]
      exact Nat.le_of_eq (Option.some.inj (hreach.symm.trans hother))

/-- **A limit leaves as much of a step as is within reach.** -/
theorem shortens_limit_of_admits {delta requested : Int} (hadmits : s.Admits current h now delta)
    (hs : Shortens delta requested) : Shortens delta (s.limit requested current h now).delta := by
  rcases limit_cases s current h now requested with ⟨heq, -⟩ | ⟨cap, hreach, -, hlength, -⟩
  · rw [heq]
    exact hs
  · by_cases hzero : delta = 0
    · rw [hzero]
      exact shortens_zero _
    · have hle : delta.natAbs ≤ cap := hadmits cap (by
        rw [reach?, direction_of_shortens hs hzero]
        exact hreach)
      exact hs.of_natAbs_le (s.limit_shortens current h now requested) (by rwa [hlength])

/-- **A cause is told exactly if the step is not taken as requested.** -/
theorem cause_ne_none_iff (s : Stepping) (current : UInt32) (h : History) (now : UInt64)
    (requested : Int) :
    (s.limit requested current h now).cause ≠ none
      ↔ (s.limit requested current h now).delta ≠ requested := by
  rcases limit_cases s current h now requested with ⟨heq, -⟩ | ⟨cap, -, hlt, hlength, hcause⟩
  · rw [heq]
    exact iff_of_false (fun hne => hne rfl) fun hne => hne rfl
  · refine iff_of_true hcause fun heq => ?_
    rw [heq] at hlength
    exact Nat.ne_of_gt hlt hlength

/-- **Limited steps are in the order of the requested ones.** -/
theorem delta_limit_mono (s : Stepping) (current : UInt32) (h : History) (now : UInt64)
    {a b : Int} (hle : a ≤ b) :
    (s.limit a current h now).delta ≤ (s.limit b current h now).delta := by
  have ha := s.limit_shortens current h now a
  have hb := s.limit_shortens current h now b
  rcases Int.le_total 0 a with hup | hdown
  · -- both go up, and what is left of the shorter step is on the way of the longer one
    have hway : Shortens (s.limit a current h now).delta b :=
      ha.trans ⟨fun _ => ⟨hup, hle⟩, fun _ => by omega⟩
    have hs := shortens_limit_of_admits (admits_limit s current h now a) hway
    exact (hs.1 (hb.1 (Int.le_trans hup hle)).1).2
  rcases Int.le_total b 0 with hdown' | hup
  · have hway : Shortens (s.limit b current h now).delta a :=
      hb.trans ⟨fun _ => by omega, fun _ => ⟨hle, hdown'⟩⟩
    have hs := shortens_limit_of_admits (admits_limit s current h now b) hway
    exact (hs.2 (ha.2 hdown).2).1
  · exact Int.le_trans (ha.2 hdown).2 (hb.1 hup).1

/-- **The law of limited steps.** Whatever the rules, the live count and the history: what is left
of a step has its sign or is none and is no longer than it; a cause is told exactly if it is not the
step itself; limited again it is left alone, and no cause is told; and of a greater step no less is
left. -/
theorem limit_law (s : Stepping) (current : UInt32) (h : History) (now : UInt64)
    (requested : Int) :
    let step := s.limit requested current h now
    (step.delta = 0 ∨ step.delta.sign = requested.sign)
      ∧ step.delta.natAbs ≤ requested.natAbs
      ∧ (step.cause ≠ none ↔ step.delta ≠ requested)
      ∧ s.limit step.delta current h now = ⟨step.delta, none⟩
      ∧ ∀ greater, requested ≤ greater → step.delta ≤ (s.limit greater current h now).delta := by
  intro step
  have hs : Shortens step.delta requested := s.limit_shortens current h now requested
  exact ⟨Decidable.or_iff_not_imp_left.mpr hs.sign_eq, hs.natAbs_le,
    cause_ne_none_iff s current h now requested,
    limit_of_admits (admits_limit s current h now requested),
    fun _ hle => delta_limit_mono s current h now hle⟩

/-- At most four replicas are added in a minute, and none is removed for five minutes after one was
added. -/
def paced : Stepping :=
  ⟨⟨.zero, [⟨.pods, 4, .ofSeconds 60⟩], .max⟩, ⟨.ofSeconds 300, [], .max⟩⟩

/-- Half a minute after one replica was added, three of nine are added, neither more nor less if
twenty are asked for. -/
theorem limit_law_paced :
    let h := (History.empty 8).push ⟨.scaleUp, 2, 3, 1000000⟩
    let step := paced.limit 9 3 h 1030000
    step = ⟨3, some (.capped .scaleUp 3 9)⟩
      ∧ paced.limit step.delta 3 h 1030000 = ⟨step.delta, none⟩
      ∧ (9 : Int) ≤ 20
      ∧ step.delta ≤ (paced.limit 20 3 h 1030000).delta := by
  intro h step
  obtain ⟨-, -, -, hagain, hmono⟩ := limit_law paced 3 h 1030000 9
  exact ⟨by decide, hagain, by decide, hmono 20 (by decide)⟩

end Stepping

end ClusterScaling
