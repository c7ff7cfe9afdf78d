import Mathlib.Data.List.Induction
import ClusterScaling.Breaker

/-!
# When circuits trip and recover

A circuit is asked whether a call may pass, and it is told how calls have
ended. Its counts are changed piecemeal by nine cases, some of them for
calls that end late, when the circuit has long opened again. What the
counts mean is said in terms of the run alone.

A **spell** is a stretch of a run over which the circuit stays in one of
its three phases, from the event that brought it there on. What the circuit
counts is what the spell says, and nothing before it matters
(`Circuit.Spell.described`): closed, it counts the failures since the
latest success, half-open, it counts all successes, and open, it knows the
latest failure. A count that one of the cases forgot to reset would break
this at the next spell. That a circuit leaves a phase exactly at its
threshold is read off this and one more event.

Times may do what they want here. A clock that runs backwards only makes a
cooldown longer.
-/

namespace ClusterScaling

namespace Circuit

/-- Something that happens to a circuit. -/
inductive Call where
  /-- It is asked whether a call may pass. -/
  | ask
  /-- A call has succeeded. -/
  | succeeded
  /-- A call has failed. -/
  | failed
  deriving DecidableEq, Repr

/-- The phases of a circuit. -/
inductive Phase where
  /-- Calls pass. -/
  | closed
  /-- Calls are refused. -/
  | opened
  /-- Single calls pass as probes. -/
  | halfOpen
  deriving DecidableEq, Repr

/-- The phase of a circuit. -/
def phase : Circuit → Phase
  | closed _ => .closed
  | opened _ => .opened
  | halfOpen _ _ => .halfOpen

/-- A circuit after something has happened to it at a time. -/
def hear (l : BreakerLimits) (c : Circuit) (e : Nat × Call) : Circuit :=
  match e.2 with
  | .ask => (c.allow l e.1).2
  | .succeeded => c.succeed l
  | .failed => c.fail l e.1

/-- A circuit after a run of events, each at its time. -/
def after (l : BreakerLimits) (es : List (Nat × Call)) : Circuit := es.foldl (hear l) fresh

/-! ## What a run says -/

/-- The failures since the latest success. -/
def failuresInARow (es : List (Nat × Call)) : Nat :=
  (es.reverse.takeWhile fun e => e.2 != .succeeded).countP fun e => e.2 == .failed

/-- The successes. -/
def successes (es : List (Nat × Call)) : Nat := es.countP fun e => e.2 == .succeeded

/-- The time of the latest failure, if there was one. -/
def lastFailure? (es : List (Nat × Call)) : Option Nat :=
  (es.reverse.find? fun e => e.2 == .failed).map (·.1)

section

variable (l : BreakerLimits) (es : List (Nat × Call)) (now : Nat)

@[simp]
theorem after_snoc (e : Nat × Call) : after l (es ++ [e]) = (after l es).hear l e := by
  simp [after]

@[simp]
theorem failuresInARow_nil : failuresInARow [] = 0 := rfl

@[simp]
theorem failuresInARow_snoc (call : Call) :
    failuresInARow (es ++ [(now, call)])
      = match call with
        | .ask => failuresInARow es
        | .succeeded => 0
        | .failed => failuresInARow es + 1 := by
  cases call <;> simp [failuresInARow]

@[simp]
theorem successes_nil : successes [] = 0 := rfl

@[simp]
theorem successes_snoc (call : Call) :
    successes (es ++ [(now, call)])
      = match call with
        | .succeeded => successes es + 1
        | _ => successes es := by
  cases call <;> simp [successes]

@[simp]
theorem lastFailure?_snoc (call : Call) :
    lastFailure? (es ++ [(now, call)])
      = match call with
        | .failed => some now
        | _ => lastFailure? es := by
  cases call <;> simp [lastFailure?]

end

/-! ## One event -/

/-- Everything that an event at a time can do to a circuit. -/
inductive Shift (l : BreakerLimits) (now : Nat) : Circuit → Call → Circuit → Prop where
  /-- A closed circuit lets a call pass. -/
  | passes (n : Nat) : Shift l now (closed n) .ask (closed n)
  /-- A success clears the failures. -/
  | clears (n : Nat) : Shift l now (closed n) .succeeded (closed 0)
  /-- One more failure, but not enough of them. -/
  | counts (n : Nat) (hlt : n + 1 < l.failures) : Shift l now (closed n) .failed (closed (n + 1))
  /-- One more failure, and now there are enough. -/
  | trips (n : Nat) (hle : l.failures ≤ n + 1) : Shift l now (closed n) .failed (opened now)
  /-- An open circuit refuses a call before its cooldown is over. -/
  | refuses (since : Nat) (hover : isOver l since now = false) :
      Shift l now (opened since) .ask (opened since)
  /-- It lets a call pass as a probe once the cooldown is over. -/
  | probes (since : Nat) (hover : isOver l since now = true) :
      Shift l now (opened since) .ask (halfOpen 0 (some now))
  /-- A success that comes late makes no difference. -/
  | ignores (since : Nat) : Shift l now (opened since) .succeeded (opened since)
  /-- A failure that comes late begins the cooldown again. -/
  | renews (since : Nat) : Shift l now (opened since) .failed (opened now)
  /-- A half-open circuit is asked, and perhaps lets another probe pass. -/
  | asks (n : Nat) (probe probe' : Option Nat) :
      Shift l now (halfOpen n probe) .ask (halfOpen n probe')
  /-- One more probe has succeeded, but not enough of them. -/
  | gains (n : Nat) (probe : Option Nat) (hlt : n + 1 < l.successes) :
      Shift l now (halfOpen n probe) .succeeded (halfOpen (n + 1) none)
  /-- One more probe has succeeded, and now there are enough. -/
  | recovers (n : Nat) (probe : Option Nat) (hle : l.successes ≤ n + 1) :
      Shift l now (halfOpen n probe) .succeeded (closed 0)
  /-- A probe has failed. -/
  | reopens (n : Nat) (probe : Option Nat) : Shift l now (halfOpen n probe) .failed (opened now)

/-- **Nothing else can happen to a circuit.** -/
theorem hear_shift (l : BreakerLimits) (c : Circuit) (e : Nat × Call) :
    Shift l e.1 c e.2 (c.hear l e) := by
  obtain ⟨now, call⟩ := e
  cases call with
  | ask =>
    show Shift l now c .ask (c.allow l now).2
    cases c with
    | closed n => exact .passes n
    | opened since =>
      by_cases hover : isOver l since now = true
      · have hallow : (opened since).allow l now = (true, halfOpen 0 (some now)) := if_pos hover
        rw [hallow]
        exact .probes since hover
      · have hallow : (opened since).allow l now = (false, opened since) := if_neg hover
        rw [hallow]
        exact .refuses since (Bool.eq_false_iff.mpr hover)
    | halfOpen n probe =>
      have hallow : ∃ probe', ((halfOpen n probe).allow l now).2 = halfOpen n probe' := by
        cases probe with
        | none => exact ⟨some now, rfl⟩
        | some start =>
          simp only [allow]
          split
          · exact ⟨some now, rfl⟩
          · exact ⟨some start, rfl⟩
      obtain ⟨probe', hallow⟩ := hallow
      rw [hallow]
      exact .asks n probe probe'
  | succeeded =>
    show Shift l now c .succeeded (c.succeed l)
    cases c with
    | closed n => exact .clears n
    | opened since => exact .ignores since
    | halfOpen n probe =>
      unfold succeed
      dsimp only
      split
      · next hle => exact .recovers n probe hle
      · next hlt => exact .gains n probe (Nat.lt_of_not_le hlt)
  | failed =>
    show Shift l now c .failed (c.fail l now)
    cases c with
    | closed n =>
      unfold fail
      dsimp only
      split
      · next hle => exact .trips n hle
      · next hlt => exact .counts n (Nat.lt_of_not_le hlt)
    | opened since => exact .renews since
    | halfOpen n probe => exact .reopens n probe

/-! ## Spells -/

/-- A stretch of a run over which the circuit stays in a phase, from the event that brought it
there on. The first spell of a run has no such event. -/
structure Spell (l : BreakerLimits) (p : Phase) (before during : List (Nat × Call)) : Prop where
  /-- The last event before the spell brought the circuit into the phase. -/
  enters : ∀ front e, before = front ++ [e] → (after l front).phase ≠ p
  /-- The circuit is in the phase all the time. -/
  stays : ∀ part, part <+: during → (after l (before ++ part)).phase = p

/-- A circuit counts what a spell says, after all events of a run. -/
def Described (l : BreakerLimits) (es during : List (Nat × Call)) : Circuit → Prop
  | closed n => n = failuresInARow during ∧ n < l.failures
  | opened since => lastFailure? es = some since
  | halfOpen n _ => n = successes during ∧ n < l.successes ∧ ∀ e ∈ during, e.2 ≠ .failed

section

variable {l : BreakerLimits} {p : Phase} {before during es : List (Nat × Call)}

theorem Spell.phase_eq (h : Spell l p before during) : (after l (before ++ during)).phase = p :=
  h.stays during (List.prefix_refl during)

/-- A spell without its last event. -/
theorem Spell.of_snoc {e : Nat × Call} (h : Spell l p before (during ++ [e])) :
    Spell l p before during :=
  ⟨h.enters, fun part hpart => h.stays part (hpart.trans (List.prefix_append during [e]))⟩

/-- A spell goes on while the phase stays. -/
theorem Spell.snoc (h : Spell l p before during) {e : Nat × Call}
    (hphase : (after l (before ++ during ++ [e])).phase = p) :
    Spell l p before (during ++ [e]) := by
  refine ⟨h.enters, fun part hpart => ?_⟩
  rcases List.prefix_concat_iff.mp hpart with rfl | hpart
  · rw [← List.append_assoc]
    exact hphase
  · exact h.stays part hpart

/-- A spell begins where the phase changes. -/
theorem spell_nil {e : Nat × Call} (hbefore : (after l before).phase ≠ p)
    (hphase : (after l (before ++ [e])).phase = p) : Spell l p (before ++ [e]) [] := by
  refine ⟨fun front last heq => ?_, fun part hpart => ?_⟩
  · rw [← (List.append_inj' heq rfl).1]
    exact hbefore
  · rw [List.prefix_nil.mp hpart, List.append_nil]
    exact hphase

/-- **Every run ends in a spell.** -/
theorem exists_spell (l : BreakerLimits) (es : List (Nat × Call)) :
    ∃ before during, es = before ++ during ∧ Spell l (after l es).phase before during := by
  induction es using List.reverseRecOn with
  | nil =>
    refine ⟨[], [], rfl, fun front e heq => ?_, fun part hpart => ?_⟩
    · simp at heq
    · rw [List.prefix_nil.mp hpart, List.append_nil]
  | append_singleton es e ih =>
    obtain ⟨before, during, rfl, hspell⟩ := ih
    by_cases hsame : (after l (before ++ during ++ [e])).phase = (after l (before ++ during)).phase
    · rw [hsame]
      exact ⟨before, during ++ [e], List.append_assoc _ _ _, hspell.snoc hsame⟩
    · exact ⟨before ++ during ++ [e], [], (List.append_nil _).symm, spell_nil (Ne.symm hsame) rfl⟩

/-! ## What a spell says -/

section

variable {now : Nat} {c c' : Circuit} {call : Call}

/-- A circuit that comes into a phase counts from zero there. -/
theorem Shift.described_nil (hfailures : 0 < l.failures) (hsuccesses : 0 < l.successes)
    (h : Shift l now c call c') (hchange : c'.phase ≠ c.phase) :
    Described l (es ++ [(now, call)]) [] c' := by
  cases h with
  | trips | reopens => simp [Described]
  | probes => exact ⟨rfl, hsuccesses, nofun⟩
  | recovers => exact ⟨rfl, hfailures⟩
  | _ => exact absurd rfl hchange

/-- **A circuit that stays in its phase counts one more event.** -/
theorem Shift.described_snoc (h : Shift l now c call c') (hsame : c'.phase = c.phase)
    (hd : Described l es during c) :
    Described l (es ++ [(now, call)]) (during ++ [(now, call)]) c' := by
  cases h with
  | trips | probes | recovers | reopens => cases hsame
  | passes n => simpa [Described] using hd
  | clears n => simp [Described, Nat.zero_lt_of_lt hd.2]
  | counts n hlt => simpa [Described, hd.1] using hd.1 ▸ hlt
  | renews => simp [Described]
  | refuses | ignores => simpa [Described] using hd
  | asks n probe probe' =>
    obtain ⟨hn, hlt, hnone⟩ := hd
    refine ⟨by simpa using hn, hlt, ?_⟩
    simpa [or_imp, forall_and] using hnone
  | gains n probe hlt =>
    obtain ⟨hn, -, hnone⟩ := hd
    refine ⟨by simpa using hn, hlt, ?_⟩
    simpa [or_imp, forall_and] using hnone

end

/-- **A circuit counts what its spell says.** -/
theorem Spell.described (hfailures : 0 < l.failures) (hsuccesses : 0 < l.successes)
    (h : Spell l p before during) :
    Described l (before ++ during) during (after l (before ++ during)) := by
  induction during using List.reverseRecOn with
  | nil =>
    rw [List.append_nil]
    have hphase := h.phase_eq
    rw [List.append_nil] at hphase
    -- the spell begins with the run, or with the event that brought the circuit into the phase
    rcases List.eq_nil_or_concat before with rfl | ⟨front, e, rfl⟩
    · exact ⟨rfl, hfailures⟩
    · rw [List.concat_eq_append, after_snoc] at hphase ⊢
      refine (hear_shift l (after l front) e).described_nil hfailures hsuccesses ?_
      rw [hphase]
      exact (h.enters front e List.concat_eq_append).symm
  | append_singleton during e ih =>
    have hbefore := h.of_snoc
    have hphase := h.phase_eq
    rw [← List.append_assoc, after_snoc] at hphase ⊢
    refine (hear_shift l _ e).described_snoc ?_ (ih hbefore)
    rw [hphase, hbefore.phase_eq]

/-! ## When a spell ends -/

/-- When one more event takes a circuit out of its phase, and into which one. -/
def Leaves (l : BreakerLimits) (es during : List (Nat × Call)) (e : Nat × Call) (c c' : Circuit) :
    Prop :=
  match c.phase with
  | .closed =>
    (c'.phase = .opened ↔ e.2 = .failed ∧ failuresInARow (during ++ [e]) = l.failures)
      ∧ c'.phase ≠ .halfOpen
  | .opened =>
    (c'.phase = .halfOpen ↔ e.2 = .ask ∧ (c.allow l e.1).1 = true)
      ∧ ((c.allow l e.1).1 = true
        ↔ ∃ since, lastFailure? es = some since ∧ l.cooldown.nanos ≤ e.1 - since)
      ∧ c'.phase ≠ .closed
  | .halfOpen =>
    (c'.phase = .closed ↔ e.2 = .succeeded ∧ successes (during ++ [e]) = l.successes)
      ∧ (c'.phase = .opened ↔ e.2 = .failed)

/-- An open circuit lets a call pass when its cooldown is over. -/
theorem allow_opened_fst (l : BreakerLimits) (since now : Nat) :
    ((opened since).allow l now).1 = isOver l since now := by
  simp only [allow]
  split <;> simp_all

/-- An open circuit lets a call pass when the cooldown since the latest failure is over. -/
theorem allow_opened {since now : Nat} (hd : lastFailure? es = some since) :
    ((opened since).allow l now).1 = true
      ↔ ∃ since, lastFailure? es = some since ∧ l.cooldown.nanos ≤ now - since := by
  simp [allow_opened_fst, hd, isOver]

/-- **A circuit leaves its phase exactly when the counts of the spell reach a threshold**, when it
is asked after its cooldown, or when a probe fails. -/
theorem Shift.leaves {now : Nat} {c c' : Circuit} {call : Call} (h : Shift l now c call c')
    (hd : Described l es during c) : Leaves l es during (now, call) c c' := by
  cases h with
  | passes n | clears n => simp [Leaves, phase]
  | counts n hlt =>
    refine ⟨⟨nofun, fun h => ?_⟩, nofun⟩
    have hreached : n + 1 = l.failures := by simpa [← hd.1] using h.2
    exact absurd hreached (Nat.ne_of_lt hlt)
  | trips n hle =>
    refine ⟨⟨fun _ => ⟨rfl, ?_⟩, fun _ => rfl⟩, nofun⟩
    have hreached : n + 1 = l.failures := Nat.le_antisymm hd.2 hle
    simpa [← hd.1] using hreached
  | refuses since hover =>
    refine ⟨⟨nofun, fun h => ?_⟩, allow_opened hd, nofun⟩
    simp [allow, hover] at h
  | probes since hover =>
    refine ⟨⟨fun _ => ⟨rfl, ?_⟩, fun _ => rfl⟩, allow_opened hd, nofun⟩
    simp [allow, hover]
  | ignores since | renews since => exact ⟨⟨nofun, fun h => nomatch h.1⟩, allow_opened hd, nofun⟩
  | asks n probe probe' => simp [Leaves, phase]
  | gains n probe hlt =>
    refine ⟨⟨nofun, fun h => ?_⟩, ⟨nofun, nofun⟩⟩
    have hreached : n + 1 = l.successes := by simpa [← hd.1] using h.2
    exact absurd hreached (Nat.ne_of_lt hlt)
  | recovers n probe hle =>
    refine ⟨⟨fun _ => ⟨rfl, ?_⟩, fun _ => rfl⟩, ⟨nofun, nofun⟩⟩
    have hreached : n + 1 = l.successes := Nat.le_antisymm hd.2.1 hle
    simpa [← hd.1] using hreached
  | reopens n probe => exact ⟨⟨nofun, fun h => nomatch h.1⟩, ⟨fun _ => rfl, fun _ => rfl⟩⟩

end

/-- **A circuit trips and recovers exactly at its thresholds.** After every run of events, at
whatever times, there is a spell of the phase the circuit is in, what the circuit counts is what
the spell says, and so is how one more event takes it out of the phase. -/
theorem trips_and_recovers (l : BreakerLimits) (hfailures : 0 < l.failures)
    (hsuccesses : 0 < l.successes) (es : List (Nat × Call)) :
    (∃ before during, es = before ++ during ∧ Spell l (after l es).phase before during)
      ∧ ∀ p before during, es = before ++ during → Spell l p before during →
        (after l es).phase = p ∧ Described l es during (after l es)
          ∧ ∀ e, Leaves l es during e (after l es) (after l (es ++ [e])) := by
  refine ⟨exists_spell l es, ?_⟩
  rintro p before during rfl hspell
  have hd := hspell.described hfailures hsuccesses
  refine ⟨hspell.phase_eq, hd, fun e => ?_⟩
  rw [after_snoc]
  exact (hear_shift l _ e).leaves hd

/-- A circuit that asks for two failures and two probes, in its second open spell. The single
failures on the way, each parted from the next by a success, have not opened it. -/
theorem trips_and_recovers_twice :
    let l : BreakerLimits := ⟨2, 2, .ofMillis 30000⟩
    let before : List (Nat × Call) :=
      [(0, .failed), (1, .failed), (2, .succeeded), (30000000001, .ask), (30000000002, .succeeded),
        (30000000003, .ask), (30000000004, .succeeded), (30000000005, .failed),
        (30000000006, .succeeded), (30000000007, .failed), (30000000008, .failed)]
    let during : List (Nat × Call) := [(30000000009, .failed), (30000000010, .ask)]
    (0 < l.failures ∧ 0 < l.successes) ∧ Spell l .opened before during
      ∧ Described l (before ++ during) during (after l (before ++ during))
      ∧ Leaves l (before ++ during) during (60000000009, .ask) (after l (before ++ during))
          (after l (before ++ during ++ [(60000000009, .ask)]))
      ∧ after l (before ++ during ++ [(60000000009, .ask)]) = halfOpen 0 (some 60000000009) := by
  intro l before during
  have hspell : Spell l .opened before during := by
    have hentered : (after l before.dropLast).phase ≠ .opened := by decide
    have hnil : Spell l .opened before [] := spell_nil (e := (30000000008, .failed)) hentered rfl
    exact (hnil.snoc (e := (30000000009, .failed)) rfl).snoc (e := (30000000010, .ask)) rfl
  obtain ⟨-, hd, hleaves⟩ :=
    (trips_and_recovers l (by decide) (by decide) (before ++ during)).2 .opened before during rfl
      hspell
  exact ⟨⟨by decide, by decide⟩, hspell, hd, hleaves (60000000009, .ask), rfl⟩

end Circuit

end ClusterScaling
