import ClusterScaling.Proofs.Breaker.Shield
import ClusterScaling.Proofs.Collector.Calls

/-!
# A source is not skipped for ever

A probe may never come to an end that anybody hears of: its fetch is
abandoned, or its task dies. The circuit is half-open then and stays so,
and nothing that is heard of the source later on can be counted on to
change this, since a circuit that refuses is told no outcomes. So what lets
the next probe pass must be the time alone.

It is, because a cooldown always runs from something that has happened: in
a slot, from a turn in which the source was asked, or from its failure
(`Collector.since?_run`). Turns in which it was skipped do not count, and
it may be listed as often as one likes without being put off by that.
Whoever finds a source skipped therefore finds one of these two, less than
a cooldown ago.
-/

namespace ClusterScaling

namespace Slot

/-- What is heard of a source when a cooldown begins: that it is asked, or that it has failed. -/
def Note.beginsCooldown : Note → Bool
  | .asked | .failed => true
  | .skipped | .succeeded | .died => false

section

variable {c : CollectorSettings} {now : Moment} {s s' : Slot} {e : Event}
variable {heard : Option (String × Note)} {id : String} {t : Nat}

/-- **A cooldown that runs after an event ran before**, or it is heard of the source why it begins. -/
theorem Motion.since? (hm : Motion c now s e s' heard) (h : (s'.circuit id).since? = some t) :
    (s.circuit id).since? = some t
      ∨ ∃ note, noteOf id now heard = some (t, note) ∧ note.beginsCooldown = true := by
  cases hm with
  | still _ hcircuit => exact .inl (hcircuit id ▸ h)
  | begin _ _ _ _ _ hcircuit => exact .inl (hcircuit id ▸ h)
  | ended _ _ _ _ hcircuit => exact .inl (hcircuit id ▸ h)
  | turn f r rest allowed _ _ hallowed _ hcircuit =>
    rw [hcircuit id] at h
    split at h
    · next hid =>
      subst hid
      refine (Circuit.since?_allow h).imp_right fun ⟨hpassed, ht⟩ => ?_
      rw [hallowed] at hpassed
      exact ⟨.asked, by rw [noteOf, if_pos rfl, ht, hpassed, if_pos rfl], rfl⟩
    · exact .inl h
  | done f r ending _ _ _ hcircuit =>
    rw [hcircuit id] at h
    split at h
    · next hid =>
      subst hid
      have hfailed (ht : t = now.clock) (hending : Note.ofEnding ending = .failed) :
          ∃ note, noteOf r.id now (some (r.id, .ofEnding ending)) = some (t, note)
            ∧ note.beginsCooldown = true :=
        ⟨.failed, by rw [noteOf, if_pos rfl, ht, hending], rfl⟩
      cases ending with
      | reported => exact .inl (Circuit.since?_succeed h)
      | failed => exact .inr (hfailed (Circuit.since?_fail h) rfl)
      | timedOut => exact .inr (hfailed (Circuit.since?_fail h) rfl)
      | died => exact .inl h
    · exact .inl h

/-- A source that is skipped is refused by its circuit. -/
theorem Motion.refuses (hm : Motion c now s e s' heard) (hskipped : heard = some (id, .skipped)) :
    ((s.circuit id).allow c.breakerLimits now.clock).1 = false := by
  cases hm with
  | still | begin | ended => cases hskipped
  | turn f r rest allowed _ _ hallowed =>
    obtain ⟨rfl, hnote⟩ := Prod.mk.inj (Option.some.inj hskipped)
    cases allowed with
    | true => cases hnote
    | false => exact hallowed
  | done f r ending => cases ending <;> cases hskipped

end

end Slot

namespace Collector

open Slot

section

variable {c : Collector} {key id : String} {t : Nat}

/-- **A cooldown that runs after a run of events ran before**, or it is heard in the run why it
begins. -/
theorem since?_run (honce : c.Once key) {es : List Happening}
    (h : (((c.run es).slot key).circuit id).since? = some t) :
    ((c.slot key).circuit id).since? = some t
      ∨ ∃ note, (t, note) ∈ notesOf id (c.listen key es) ∧ note.beginsCooldown = true := by
  -- on the events, with the collector free
  induction es generalizing c with
  | nil => exact .inl h
  | cons e es ih =>
    rw [listen, notesOf_cons]
    rcases ih (honce.step e) h with hfirst | ⟨note, hmem, hbegins⟩
    · rcases (step_motion honce e).since? hfirst with hbefore | ⟨note, hnote, hbegins⟩
      · exact .inl hbefore
      · exact .inr ⟨note, List.mem_append_left _ (Option.mem_toList.mpr hnote), hbegins⟩
    · exact .inr ⟨note, List.mem_append_right _ hmem, hbegins⟩

theorem getElem?_listen (c : Collector) (key : String) (es : List Happening) (i : Nat) :
    (c.listen key es)[i]? = es[i]?.map fun e => (e.1, (c.run (es.take i)).hear key e) := by
  induction es generalizing c i with
  | nil => rfl
  | cons e es ih =>
    cases i with
    | zero => rfl
    | succ i => exact ih _ i

/-- A source is skipped less than a cooldown after it was asked or has failed. -/
theorem exists_note_of_skipped (settings : CollectorSettings) {es : List Happening} {i : Nat}
    {now : Moment} (hskipped : ((start settings).listen key es)[i]? = some (now, some (id, .skipped))) :
    ∃ n ∈ notesOf id (((start settings).listen key es).take i), n.2.beginsCooldown = true
      ∧ now.clock < n.1 + settings.breakerLimits.cooldown.nanos := by
  rw [getElem?_listen] at hskipped
  obtain ⟨e, -, heq⟩ := Option.map_eq_some_iff.mp hskipped
  obtain ⟨rfl, hheard⟩ := Prod.mk.inj heq
  have honce := (once_start settings key).run (es.take i)
  have hrefused := (step_motion honce e).refuses hheard
  rw [settings_run] at hrefused
  obtain ⟨t, ht, hlt⟩ := Circuit.exists_since?_of_refused hrefused
  rcases since?_run (once_start settings key) ht with hfresh | ⟨note, hmem, hbegins⟩
  · cases hfresh
  · rw [listen_take] at hmem
    exact ⟨(t, note), hmem, hbegins, hlt⟩

end

/-- **No circuit blocks its source for longer than a cooldown.** Whatever has happened to a circuit,
at whatever times, and whichever outcomes have never been heard of, a call passes once a cooldown
has gone by since the latest event. In a collector even less is needed: whatever happens, a source
is skipped only if it was asked or has failed less than a cooldown ago. -/
theorem never_wedged :
    (∀ (l : BreakerLimits) (es : List (Nat × Circuit.Call)) (now : Nat),
        (∀ e ∈ es, e.1 + l.cooldown.nanos ≤ now) → ((Circuit.after l es).allow l now).1 = true)
      ∧ ∀ (settings : CollectorSettings) (key id : String) (es : List Happening) (i : Nat)
          (now : Moment),
          let heard := (start settings).listen key es
          heard[i]? = some (now, some (id, .skipped)) →
          ∃ n ∈ notesOf id (heard.take i), n.2.beginsCooldown = true
            ∧ now.clock < n.1 + settings.breakerLimits.cooldown.nanos := by
  refine ⟨fun l es now hlatest => ?_, fun settings key id es i now => ?_⟩
  · cases hpasses : ((Circuit.after l es).allow l now).1 with
    | true => rfl
    | false =>
      obtain ⟨t, ht, hlt⟩ := Circuit.exists_since?_of_refused hpasses
      obtain ⟨e, he, rfl⟩ := Circuit.since?_after ht
      exact absurd (hlatest e he) (Nat.not_le_of_lt hlt)
  · exact exists_note_of_skipped settings

/-- A source has failed. Its next fetch is abandoned while it is asked as a probe, in the one after
that it is skipped, and in the last one it has its turn. -/
def abandoned : List Happening :=
  let asked : Slot.Event := .enter [⟨"p", .primaries⟩]
  [(⟨0, 0⟩, "db/a", .arrive 1), (⟨0, 0⟩, "db/a", .queue 1), (⟨0, 0⟩, "db/a", asked),
    (⟨1, 0⟩, "db/a", .launch), (⟨2, 0⟩, "db/a", .finish "p" .timedOut), (⟨3, 0⟩, "db/a", .settle),
    (⟨12, 0⟩, "db/a", .arrive 2), (⟨12, 0⟩, "db/a", .queue 2), (⟨12, 0⟩, "db/a", asked),
    (⟨12, 0⟩, "db/a", .launch), (⟨13, 0⟩, "db/a", .cancel 2), (⟨15, 0⟩, "db/a", .arrive 3),
    (⟨15, 0⟩, "db/a", .queue 3), (⟨15, 0⟩, "db/a", asked), (⟨15, 0⟩, "db/a", .launch),
    (⟨16, 0⟩, "db/a", .settle), (⟨22, 0⟩, "db/a", .arrive 4), (⟨22, 0⟩, "db/a", .queue 4),
    (⟨22, 0⟩, "db/a", asked), (⟨22, 0⟩, "db/a", .launch)]

/-- The abandoned probe is why the source is skipped, and it is asked again ten nanoseconds after
it. So is a circuit that has been through the same. -/
theorem never_wedged_abandoned :
    let heard := (start opensAtOnce).listen "db/a" abandoned
    let calls : List (Nat × Circuit.Call) := [(1, .ask), (2, .failed), (12, .ask)]
    (∀ e ∈ calls, e.1 + opensAtOnce.breakerLimits.cooldown.nanos ≤ 22)
      ∧ ((Circuit.after opensAtOnce.breakerLimits calls).allow opensAtOnce.breakerLimits 22).1 = true
      ∧ heard[14]? = some (⟨15, 0⟩, some ("p", .skipped))
      ∧ (∃ n ∈ notesOf "p" (heard.take 14), n.2.beginsCooldown = true
          ∧ 15 < n.1 + opensAtOnce.breakerLimits.cooldown.nanos)
      ∧ heard[19]? = some (⟨22, 0⟩, some ("p", .asked)) := by
  intro heard calls
  have hlatest : ∀ e ∈ calls, e.1 + opensAtOnce.breakerLimits.cooldown.nanos ≤ 22 := by decide
  have hskipped : heard[14]? = some (⟨15, 0⟩, some ("p", .skipped)) := by decide +kernel
  exact ⟨hlatest, never_wedged.1 _ calls 22 hlatest, hskipped,
    never_wedged.2 opensAtOnce "db/a" "p" abandoned 14 ⟨15, 0⟩ hskipped, by decide +kernel⟩

end Collector

end ClusterScaling
