import ClusterScaling.Proofs.Collector.Freshness
import ClusterScaling.Proofs.Collector.Queue

/-!
# Cancellations do not spread

A caller is told that it has been cancelled only when it has been. What
else it can be told is the result of a fetch or a cached snapshot, and no
fetch that completes has a cancellation for its result: the only place
where one could be passed on from caller to caller never holds one.

Nor does a cancelled caller leave anything behind. What is remembered of
completed fetches changes only when a fetch completes or the cached
snapshot is dropped; a caller that is told of its cancellation is told
nothing else, so it is not the one that completes a fetch. Even the fetch
that it has begun is gone as if it had never been. Whoever is first in the
queue then, and gets the lock, is served like anybody else: `Served`.
-/

namespace ClusterScaling

namespace Slot

variable {c : CollectorSettings} {now : Moment} {log : Log} {s s' : Slot} {sight : Sight}

/-- As long as no fetch completes and nothing is dropped, what is remembered stays as it is. -/
theorem Transition.keeps (ht : Transition c now s s' sight) (hdropped : sight ≠ .dropped)
    (hcompleted : sight.isCompletion = false) : Keeps s s' := by
  cases ht.remembers with
  | kept _ hkeeps => exact hkeeps
  | dropped => exact absurd rfl hdropped
  | completed => cases hcompleted

/-- **Whoever is told that it has been cancelled has been**: nobody shares a cancellation. -/
theorem Past.told_cancelled (hpast : Past c log s) {i call : Nat} (hi : Saw log i sight)
    (hsight : sight.answer? = some ⟨call, .error .cancelled⟩) : sight = .cancelled call := by
  obtain ⟨now, hi⟩ := hi
  obtain ⟨before, after, hbefore, ht, -⟩ := hpast.at hi
  cases ht with
  | share _ _ _ _ _ _ _ hready =>
    cases hsight
    cases hready with
    | joined _ _ hlast =>
      obtain ⟨p, leader, hp, -⟩ := hbefore.last hlast
      exact absurd rfl (hbefore.result_ne_cancelled hp)
  | complete _ _ _ _ _ _ _ _ hresult =>
    cases hsight
    exact absurd rfl hresult
  | abandon | leave =>
    cases hsight
    rfl
  | _ => cases hsight

end Slot

namespace Collector

open Slot

/-- **While a fetch is in flight, what is remembered stays as it was when it began.** -/
theorem keeps_of_inFlight (settings : CollectorSettings) (key : String) (es : List Happening)
    {b call j : Nat} (hj : j ≤ es.length)
    (h : InFlight ((start settings).watch key es) b call j) :
    Keeps ((start settings).slotAt key es b) ((start settings).slotAt key es j) := by
  have hpast := past_watch settings key es
  induction j with
  | zero => exact absurd h.lt (Nat.not_lt_zero b)
  | succ j ih =>
    obtain ⟨⟨now, sight⟩, hlog⟩ : ∃ e, ((start settings).watch key es)[j]? = some e :=
      ⟨_, List.getElem?_eq_getElem (by rw [length_watch]; exact hj)⟩
    have ht := transition_slotAt settings key es hlog
    rcases Nat.lt_succ_iff_lt_or_eq.mp h.lt with hbj | rfl
    · have hbefore := h.mono hbj (Nat.le_succ j)
      have hhands := hpast.not_handsOver h hbj (Nat.lt_succ_self j) (.of_getElem? hlog)
      refine (ih (Nat.le_of_succ_le hj) hbefore).trans (ht.keeps (fun heq => ?_) ?_)
      · rw [heq] at hhands
        cases hhands
      · -- only the fetch in flight can complete, and it has not
        cases ht with
        | complete other _ hholder =>
          have hheld := (past_slotAt settings key es j).holder?_of_inFlight_take hbefore
            (by rw [length_watch]; exact Nat.le_of_succ_le hj)
          cases hholder.symm.trans hheld
          have hends := h.lasts j _ hbj (Nat.lt_succ_self j) (.of_getElem? hlog)
          exact absurd (beq_self_eq_true call) (Bool.eq_false_iff.mp hends)
        | _ => rfl
    · cases h.began.unique (.of_getElem? hlog)
      exact ht.keeps nofun rfl

/-- **Nothing that a cancelled caller does changes what is remembered.** Only the fetches of others
and drops ever do. -/
theorem keeps_or_others (settings : CollectorSettings) (key : String) (es : List Happening)
    {call a i : Nat} (harrives : ArrivesOnce ((start settings).watch key es) call a)
    (hi : Saw ((start settings).watch key es) i (.cancelled call)) (k : Nat) :
    Keeps ((start settings).slotAt key es k) ((start settings).slotAt key es (k + 1))
      ∨ Saw ((start settings).watch key es) k .dropped
      ∨ ∃ other result, other ≠ call
          ∧ Saw ((start settings).watch key es) k (.completed other result) := by
  cases hk : ((start settings).watch key es)[k]? with
  | none =>
    rw [List.getElem?_eq_none_iff, length_watch, ← List.getElem?_eq_none_iff] at hk
    rw [slotAt_succ_of_none _ key hk]
    exact .inl (.refl _)
  | some e =>
    obtain ⟨now, sight⟩ := e
    have ht := transition_slotAt settings key es hk
    cases sight with
    | dropped => exact .inr (.inl (.of_getElem? hk))
    | completed other result =>
      refine .inr (.inr ⟨other, result, fun heq => ?_, .of_getElem? hk⟩)
      -- the caller would have been told twice
      subst heq
      have hki := (past_watch settings key es).told_once harrives (.of_getElem? hk)
        (beq_self_eq_true other) hi (beq_self_eq_true other)
      subst hki
      cases hi.unique (.of_getElem? hk)
    | _ => exact .inl (ht.keeps nofun rfl)

/-- **Whoever is first in the queue for a free lock is served** when its turn comes. -/
theorem served_of_turn (settings : CollectorSettings) (key : String) (es : List Happening)
    {j next observed : Nat} {now : Moment} {sources : List SourceRef} {rest : List Waiter}
    (hj : es[j]? = some (now, key, .enter sources))
    (hfetch : ((start settings).slotAt key es j).fetch = none)
    (hqueue : ((start settings).slotAt key es j).queue = .collect next observed :: rest) :
    Served settings ((start settings).watch key es) now j next := by
  have hlog := getElem?_watch (start settings) key es j
  rw [hj] at hlog
  have hturn : (key == key && (Slot.Event.enter sources).isEnter) = true := by
    rw [beq_self_eq_true]
    rfl
  have hhands := handsOver_of_turn (e := (now, key, .enter sources)) hturn
    ((holder?_eq_none_iff _).mpr hfetch) ⟨observed, hqueue ▸ List.mem_cons_self⟩
  exact (past_slotAt settings key es j).served hlog (transition_slotAt settings key es hlog) hhands
    hqueue

/-- **Cancellations do not spread.** Whatever happens to a collector, in whatever order, a caller
that nobody cancels is never told that it has been cancelled. If a caller is told so, nothing that
is remembered of completed fetches has changed, neither by the cancellation nor by the fetch that
the caller may have begun; only the fetches of others and drops ever change it. And whoever is first
in the queue later and gets the lock is served. -/
theorem cancellation_contained (settings : CollectorSettings) (key : String) (es : List Happening)
    (call : Nat) :
    let log := (start settings).watch key es
    let slotAt := (start settings).slotAt key es
    ((∀ now, (now, key, .cancel call) ∉ es) → ∀ i now result,
        (start settings).Tells key es i now ⟨call, result⟩ → result ≠ .error .cancelled)
      ∧ ∀ i now, (start settings).Tells key es i now ⟨call, .error .cancelled⟩ →
        Keeps (slotAt i) (slotAt (i + 1))
          ∧ (∀ b, InFlight log b call i →
              Keeps (slotAt b) (slotAt (i + 1)) ∧ (slotAt (i + 1)).fetch = none)
          ∧ (∀ a, ArrivesOnce log call a → ∀ k, Keeps (slotAt k) (slotAt (k + 1))
              ∨ Saw log k .dropped
              ∨ ∃ other result, other ≠ call ∧ Saw log k (.completed other result))
          ∧ ∀ j later sources next observed rest, i < j →
            es[j]? = some (later, key, .enter sources) → (slotAt j).fetch = none →
            (slotAt j).queue = .collect next observed :: rest →
            Served settings log later j next := by
  intro log slotAt
  have hpast : Past settings log _ := past_watch settings key es
  refine ⟨fun hwilling i now result htells heq => ?_, fun i now htells => ?_⟩
  · subst heq
    obtain ⟨sight, hi, hsight⟩ := (tells_iff _ key).mp htells
    cases hpast.told_cancelled (.of_getElem? hi) hsight
    obtain ⟨later, hcancel⟩ := exists_cancel settings key es (.of_getElem? hi)
    exact hwilling later (List.mem_of_getElem? hcancel)
  · obtain ⟨sight, hi, hsight⟩ := (tells_iff _ key).mp htells
    cases hpast.told_cancelled (.of_getElem? hi) hsight
    have ht : Transition settings now (slotAt i) (slotAt (i + 1)) _ :=
      transition_slotAt settings key es hi
    have hkeeps : Keeps (slotAt i) (slotAt (i + 1)) := ht.keeps nofun rfl
    have hlt : i < es.length := length_watch (start settings) key es ▸ (Saw.of_getElem? hi).lt
    refine ⟨hkeeps, fun b hflight => ⟨?_, ?_⟩, fun a harrives =>
      keeps_or_others settings key es harrives (.of_getElem? hi), ?_⟩
    · exact (keeps_of_inFlight settings key es (Nat.le_of_lt hlt) hflight).trans hkeeps
    · have hholder : (slotAt i).holder? = some call :=
        (past_slotAt settings key es i).holder?_of_inFlight_take hflight
          (by rw [length_watch]; exact Nat.le_of_lt hlt)
      cases ht with
      | abandon _ _ hfree => exact (holder?_eq_none_iff _).mp hfree
      | leave _ hother => exact absurd hholder hother
    · exact fun j later sources next observed rest _ => served_of_turn settings key es

/-- The caller of a fetch in flight is cancelled. Its fetch is gone, and the caller behind it, which
nobody cancels, starts a fetch of its own and is told a snapshot. -/
theorem cancellation_contained_leader :
    let es : List Happening :=
      [(⟨0, 0⟩, "db/a", .arrive 1), (⟨0, 0⟩, "db/a", .queue 1),
        (⟨0, 0⟩, "db/a", .enter [⟨"p", .primaries⟩]), (⟨0, 0⟩, "db/a", .arrive 2),
        (⟨0, 0⟩, "db/a", .queue 2), (⟨1, 0⟩, "db/a", .launch), (⟨1, 0⟩, "db/b", .launch),
        (⟨2, 1⟩, "db/a", .cancel 1), (⟨2, 1⟩, "db/a", .enter [⟨"p", .primaries⟩]),
        (⟨2, 1⟩, "db/a", .launch), (⟨3, 2⟩, "db/a", .finish "p" (.reported [])),
        (⟨3, 2⟩, "db/a", .settle)]
    let slotAt := (start .usual).slotAt "db/a" es
    (start .usual).Tells "db/a" es 7 ⟨2, 1⟩ ⟨1, .error .cancelled⟩
      ∧ Keeps (slotAt 2) (slotAt 8) ∧ (slotAt 8).fetch = none
      ∧ Served .usual ((start .usual).watch "db/a" es) ⟨2, 1⟩ 8 2
      ∧ ∀ i now result, (start .usual).Tells "db/a" es i now ⟨2, result⟩ →
          result ≠ .error .cancelled := by
  intro es slotAt
  have htold : (start .usual).Tells "db/a" es 7 ⟨2, 1⟩ ⟨1, .error .cancelled⟩ :=
    ⟨.cancel 1, rfl, by with_unfolding_all rfl⟩
  have hflight : InFlight ((start .usual).watch "db/a" es) 2 1 7 :=
    inFlight_of_all ⟨⟨0, 0⟩, by with_unfolding_all rfl⟩ (by decide) (by with_unfolding_all rfl)
  have hwilling (now : Moment) : (now, "db/a", .cancel 2) ∉ es := by simp [es]
  obtain ⟨-, hcontained⟩ := cancellation_contained .usual "db/a" es 1
  obtain ⟨-, hbegan, -, hserved⟩ := hcontained 7 _ htold
  obtain ⟨hkeeps, hfetch⟩ := hbegan 2 hflight
  exact ⟨htold, hkeeps, hfetch,
    hserved 8 _ [⟨"p", .primaries⟩] 2 0 [] (by decide) rfl (by with_unfolding_all rfl)
      (by with_unfolding_all rfl),
    (cancellation_contained .usual "db/a" es 2).1 hwilling⟩

end Collector

end ClusterScaling
