import ClusterScaling.Proofs.Cycle.SecondPass

/-!
# Which cycles report an exception

The owner may allow the primaries to break the quorum, and then wants to
know of it. What a cycle reports is the graver of the answers to its two
questions, about the proposal and about the count that the limits leave
of it. A removal that the limits shorten may no longer break the quorum,
but the proposal did, and an exception was made for it: it is reported,
because of what was allowed and not because of what comes of it
(`exception_reported_of_safe_target`).

The other direction is the one an owner relies on. A move that breaks the
quorum never goes unreported, since what breaks it after the limits broke
it before them (`Cycle.brokenBy_allowed`). And where the limits leave the
allowed step as it is, the second question has the answer of the first, so
the report says exactly what is done (`exceptions_reported`).
-/

namespace ClusterScaling

/-- Of two verdicts without a veto the graver one is an exception exactly if either is. -/
theorem Verdict.graver_eq_quorumBreak {v w : Verdict} (hv : v ≠ vetoed) (hw : w ≠ vetoed) :
    v.graver w = quorumBreak ↔ v = quorumBreak ∨ w = quorumBreak := by
  cases v <;> cases w <;> simp_all [graver, gravity]

namespace Cycle

variable {s : Settings} {live : LiveState} {candidate : UInt32} {h : History} {now : UInt64}

/-- Where the first pass does not veto, it reports an exception exactly if what it allows breaks the
quorum. -/
theorem firstPass_eq_quorumBreak (hpass : (firstPass s live candidate).verdict ≠ .vetoed) :
    (firstPass s live candidate).verdict = .quorumBreak
      ↔ (quorumState s live).BrokenBy live.replicas.primaries.toNat
          (firstPass s live candidate).count.toNat := by
  have hcount : (firstPass s live candidate).count.toNat
      = (oddRange s).aim live.replicas.primaries candidate :=
    OddRange.toNat_count_of_not_vetoed hpass
  rw [hcount]
  refine OddRange.verdict_eq_quorumBreak_iff.trans ⟨And.left, fun hbroken => ⟨hbroken, ?_⟩⟩
  -- a quorum that must not be broken would have been a veto
  cases hbreak : (quorumState s live).allowBreak with
  | false => exact absurd (OddRange.verdict_eq_vetoed_iff.mpr ⟨hbroken, hbreak⟩) hpass
  | true => rfl

/-- An exception of the second pass was one of the first. -/
theorem firstPass_of_secondPass (hpass : (firstPass s live candidate).verdict ≠ .vetoed)
    (hsecond : (secondPass s live candidate h now).verdict = .quorumBreak) :
    (firstPass s live candidate).verdict = .quorumBreak :=
  (firstPass_eq_quorumBreak hpass).mpr
    (brokenBy_allowed h now hpass (OddRange.verdict_eq_quorumBreak_iff.mp hsecond).1)

/-- A veto allows the live count, which breaks nothing. -/
theorem not_brokenBy_of_veto (hveto : (firstPass s live candidate).verdict = .vetoed) :
    ¬ (quorumState s live).BrokenBy live.replicas.primaries.toNat
        (firstPass s live candidate).count.toNat := by
  obtain ⟨hbroken, hbreak⟩ := OddRange.verdict_eq_vetoed_iff.mp hveto
  have hcount : (firstPass s live candidate).count = live.replicas.primaries :=
    (OddRange.guard_of_vetoed hbroken hbreak).2
  rw [hcount]
  exact fun h => Nat.lt_irrefl _ h.1

/-- **The stages of the primaries report an exception exactly if the first pass allows a count that
breaks the quorum.** -/
theorem guardedPrimaries_eq_quorumBreak :
    (guardedPrimaries s live candidate h now).verdict = some .quorumBreak
      ↔ (quorumState s live).BrokenBy live.replicas.primaries.toNat
          (firstPass s live candidate).count.toNat := by
  by_cases hveto : (firstPass s live candidate).verdict = .vetoed
  · have hsafe := not_brokenBy_of_veto hveto
    simp [(guardedPrimaries_of_veto h now hveto).2, hsafe]
  · rw [(guardedPrimaries_of_pass h now hveto).2, Option.some.injEq,
      Verdict.graver_eq_quorumBreak hveto (secondPass_passes h now hveto),
      or_iff_left_of_imp (firstPass_of_secondPass hveto), firstPass_eq_quorumBreak hveto]

/-- **A target that breaks the quorum was allowed as an exception.** -/
theorem brokenBy_of_target
    (hbroken : (quorumState s live).BrokenBy live.replicas.primaries.toNat
      (guardedPrimaries s live candidate h now).target.toNat) :
    (quorumState s live).BrokenBy live.replicas.primaries.toNat
      (firstPass s live candidate).count.toNat := by
  by_cases hveto : (firstPass s live candidate).verdict = .vetoed
  · rw [(guardedPrimaries_of_veto h now hveto).1] at hbroken
    exact absurd hbroken.1 (Nat.lt_irrefl _)
  · rw [(guardedPrimaries_of_pass h now hveto).1, toNat_count_secondPass h now hveto] at hbroken
    exact brokenBy_allowed h now hveto hbroken

/-- **A step that is left as it is leads to the count that was allowed.** -/
theorem target_of_unlimited
    (hfull : (limitedStep s live candidate h now).delta = allowedStep s live candidate) :
    (guardedPrimaries s live candidate h now).target = (firstPass s live candidate).count := by
  by_cases hveto : (firstPass s live candidate).verdict = .vetoed
  · obtain ⟨hbroken, hbreak⟩ := OddRange.verdict_eq_vetoed_iff.mp hveto
    rw [(guardedPrimaries_of_veto h now hveto).1]
    exact (OddRange.guard_of_vetoed hbroken hbreak).2.symm
  · obtain ⟨hodd, hlowest, hhighest⟩ := count_firstPass_mem hveto
    have hreached : (reached s live candidate h now).toNat
        = (firstPass s live candidate).count.toNat := by
      have := toNat_reached s live candidate h now
      rw [hfull, allowedStep] at this
      omega
    rw [(guardedPrimaries_of_pass h now hveto).1, ← UInt32.toNat_inj,
      toNat_count_secondPass h now hveto, OddRange.aim, hreached]
    exact (oddRange s).nearest_of_mem hodd hlowest hhighest _

end Cycle

/-- **Which exceptions are reported.** Whatever has won the arbitration, whatever is remembered and
however many primaries are healthy, let `allowed` be what the guard allows of the proposal for
primaries that do not cool down, before any limit. An exception is reported exactly if a move to
`allowed` removes primaries and leaves too few healthy ones. A target of which this is true is
always reported, and where the limits leave the allowed step as it is, no other target is. -/
theorem exceptions_reported (s : Settings) (live : LiveState) {d : Draft}
    (hcool : d.cooling = false) (advice : Option Advice) (h : History) (now : UInt64) :
    let o := Cycle.decideTier s live .primaries d advice h now
    let state := Cycle.quorumState s live
    let current := live.replicas.primaries
    let target := o.decision.target
    let allowed := ((Cycle.oddRange s).guard current (o.start s.tiers.primaries) state).count
    let requested : Int := allowed.toNat - current.toNat
    let Breaks := fun n : Nat => n < current.toNat
      ∧ (live.healthy.toNat : Int) - (current.toNat - n) < s.quorum.minHealthy.toNat
    (o.verdict = some .quorumBreak ↔ Breaks allowed.toNat)
      ∧ (Breaks target.toNat → o.verdict = some .quorumBreak)
      ∧ ((s.tiers.primaries.stepping.limit requested current h now).delta = requested →
        (o.verdict = some .quorumBreak ↔ Breaks target.toNat)) := by
  intro o state current target allowed requested Breaks
  obtain ⟨htarget, hverdict⟩ := Cycle.decideTier_primaries s live hcool advice h now
  have hreported : o.verdict = some .quorumBreak ↔ Breaks allowed.toNat := by
    rw [hverdict]
    exact Cycle.guardedPrimaries_eq_quorumBreak
  refine ⟨hreported, fun hbroken => hreported.mpr ?_, fun hfull => ?_⟩
  · rw [show target = _ from htarget] at hbroken
    exact Cycle.brokenBy_of_target hbroken
  · have hsame : target = allowed := htarget.trans (Cycle.target_of_unlimited hfull)
    rw [hsame]
    exact hreported

/-- Settings that let the quorum of three healthy primaries be broken, and at most two primaries be
removed in a minute. -/
def Settings.exempt : Settings :=
  { Settings.ofTiers
      ⟨3, 7, [.ofKind .cpu "70"], ⟨.usual, ⟨.zero, [⟨.pods, 2, .ofSeconds 60⟩], .max⟩⟩⟩
      (.ofBounds 1 9) with
    quorum := ⟨3, true⟩ }

/-- Without the limit, four of seven primaries would go and one healthy one would be left. -/
theorem exceptions_reported_exempt :
    let live : LiveState := ⟨⟨7, 1⟩, 5⟩
    let draft : Draft := ⟨⟨.scaleDown, 3, "", 1.0, 0⟩, false⟩
    let o := Cycle.decideTier .exempt live .primaries draft none (.empty 64) 0
    o.verdict = some .quorumBreak ∧ o.decision.target = 5 := by
  intro live draft o
  obtain ⟨hreported, -, -⟩ :=
    exceptions_reported .exempt live (d := draft) rfl none (.empty 64) 0
  exact ⟨hreported.mpr (by decide +kernel), by decide +kernel⟩

/-- The report is about what was allowed. Five of seven primaries are healthy and the loads ask for
three. That would break the quorum and is allowed, but the limit makes it five, which leaves three
healthy ones and breaks nothing. -/
theorem exception_reported_of_safe_target :
    let cpu : Readings := { Readings.absent with cpu := .ofLive 20.0 }
    let o := Cycle.outcome .exempt "db/main" ⟨⟨7, 1⟩, 5⟩ (.empty 64) 0
      (.readings ⟨.both cpu, 0, false⟩ none)
    Settings.exempt.check = .ok ()
      ∧ Settings.exempt.engine.isCooling (History.empty 64) 0 = false
      ∧ o.tiers.primaries.verdict = some .quorumBreak
      ∧ o.tiers.primaries.decision.target = 5
      ∧ ¬ ((5 : Int) - (7 - 5) < Settings.exempt.quorum.minHealthy.toNat) := by
  intro cpu o
  exact ⟨rfl, rfl, by decide +kernel, by decide +kernel, by decide⟩

end ClusterScaling
