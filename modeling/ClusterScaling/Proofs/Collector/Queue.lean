import ClusterScaling.Proofs.Collector.Memory

/-!
# Waiting for the lock

Those who wait stand in the order in which they have queued. When a fetch
completes, everybody who waits has missed it, since whoever waits has
arrived before. None of them starts a fetch, so the lock stays free for
them until each has had its turn, whoever queues behind them:
`Slot.Shielded`.

Nobody overtakes in the queue. Each time the lock changes hands, whoever
waits has one place less before it, and it leaves its place only if it is
told something or starts a fetch. A caller that waits for a lock that
stays free therefore gets it after as many turns as there are places
before it, and one of its own: `Collector.exists_turn`.
-/

namespace ClusterScaling

namespace Slot

/-- A caller waits. -/
def Waits (s : Slot) (call : Nat) : Prop := ∃ observed, .collect call observed ∈ s.queue

/-- How many wait before a caller. -/
def ahead (s : Slot) (call : Nat) : Nat := s.queue.findIdx (Waiter.isCall call)

/-- A caller waits for a free lock, and neither it nor any caller before it is going to start a
fetch. -/
structure Shielded (s : Slot) (call : Nat) : Prop where
  /-- The caller is in the front of the queue, where everybody has missed a fetch. -/
  front : ∃ front rest, s.queue = front ++ rest ∧ (∃ observed, .collect call observed ∈ front)
    ∧ ∀ other observed, .collect other observed ∈ front → observed < s.generation
  /-- The lock is free. -/
  free : s.holder? = none

section

variable {c : CollectorSettings} {now : Moment} {s s' : Slot} {sight : Sight} {log : Log}

/-! ## Nobody overtakes -/

theorem waits_iff {call : Nat} : s.Waits call ↔ s.queue.any (Waiter.isCall call) = true := by
  rw [List.any_eq_true]
  constructor
  · rintro ⟨observed, hmem⟩
    exact ⟨_, hmem, beq_self_eq_true call⟩
  · rintro ⟨w, hmem, hw⟩
    cases w with
    | drop => cases hw
    | collect other observed =>
      cases eq_of_beq hw
      exact ⟨observed, hmem⟩

/-- Whoever waits stays when somebody else leaves. -/
theorem stays_of_ne {call other : Nat} (h : other ≠ call) {w : Waiter}
    (hw : Waiter.isCall call w = true) : (!Waiter.isCall other w) = true := by
  cases w with
  | drop => cases hw
  | collect _ observed =>
    cases eq_of_beq hw
    rw [Bool.not_eq_true']
    exact beq_false_of_ne h.symm

/-- Whoever waits keeps its place when others queue. -/
theorem findIdx_append_of_any {α : Type} {xs : List α} {f : α → Bool} (h : xs.any f = true)
    (ys : List α) : (xs ++ ys).findIdx f = xs.findIdx f := by
  rw [List.findIdx_append, if_pos (List.findIdx_lt_length.mpr (List.any_eq_true.mp h))]

/-- Whoever waits loses nothing when others leave. -/
theorem findIdx_filter_le {α : Type} {f g : α → Bool} (hfg : ∀ x, f x = true → g x = true)
    (xs : List α) : (xs.filter g).findIdx f ≤ xs.findIdx f := by
  induction xs with
  | nil => exact Nat.le_refl 0
  | cons x xs ih =>
    rw [List.findIdx_cons, List.filter_cons]
    cases hx : f x with
    | true =>
      rw [if_pos (hfg x hx), List.findIdx_cons, hx]
      exact Nat.le_refl 0
    | false =>
      cases g x with
      | true =>
        rw [if_pos rfl, List.findIdx_cons, hx]
        exact Nat.succ_le_succ ih
      | false =>
        rw [if_neg Bool.false_ne_true]
        exact Nat.le_succ_of_le ih

/-- When the first in the queue leaves it, everybody else moves up. -/
theorem ahead_of_cons {call : Nat} {w : Waiter} (hqueue : s.queue = w :: s'.queue)
    (hw : Waiter.isCall call w = false) (hwaits : s.Waits call) :
    s'.Waits call ∧ s'.ahead call + 1 = s.ahead call := by
  rw [waits_iff, hqueue, List.any_cons, hw, Bool.false_or] at hwaits
  refine ⟨waits_iff.mpr hwaits, ?_⟩
  unfold ahead
  rw [hqueue, List.findIdx_cons, hw]
  rfl

/-- **Whoever waits is told something, starts a fetch, or has one place less before it** for each
time that the lock changes hands. -/
theorem Transition.ahead_step (ht : Transition c now s s' sight) {call : Nat}
    (hwaits : s.Waits call) :
    (sight.tells call = true ∨ sight = .began call)
      ∨ s'.Waits call ∧ s'.ahead call + (if sight.handsOver then 1 else 0) ≤ s.ahead call := by
  have hsame (hqueue : s'.queue = s.queue) : s'.Waits call ∧ s'.ahead call + 0 ≤ s.ahead call := by
    unfold Waits ahead
    rw [hqueue]
    exact ⟨hwaits, Nat.le_refl _⟩
  have hmore {ws : List Waiter} (hqueue : s'.queue = s.queue ++ ws) :
      s'.Waits call ∧ s'.ahead call + 0 ≤ s.ahead call := by
    refine ⟨?_, ?_⟩
    · obtain ⟨observed, hmem⟩ := hwaits
      exact ⟨observed, hqueue ▸ List.mem_append_left ws hmem⟩
    · unfold ahead
      rw [hqueue, findIdx_append_of_any (waits_iff.mp hwaits)]
      exact Nat.le_refl _
  cases ht with
  | still _ _ hqueue | complete _ _ _ _ hqueue | abandon _ _ _ hqueue => exact .inr (hsame hqueue)
  | arrive _ _ _ hqueue => exact .inr (hsame hqueue)
  | ask _ _ hqueue | queue _ _ _ _ hqueue => exact .inr (hmore hqueue)
  | drop _ hqueue =>
    obtain ⟨hwaits', hahead⟩ := ahead_of_cons hqueue rfl hwaits
    exact .inr ⟨hwaits', Nat.le_of_eq hahead⟩
  | share other _ _ _ hqueue =>
    by_cases hcall : other = call
    · subst hcall
      exact .inl (.inl (beq_self_eq_true other))
    · obtain ⟨hwaits', hahead⟩ := ahead_of_cons hqueue (beq_false_of_ne hcall) hwaits
      exact .inr ⟨hwaits', Nat.le_of_eq hahead⟩
  | begin other _ _ hqueue =>
    by_cases hcall : other = call
    · subst hcall
      exact .inl (.inr rfl)
    · obtain ⟨hwaits', hahead⟩ := ahead_of_cons hqueue (beq_false_of_ne hcall) hwaits
      exact .inr ⟨hwaits', Nat.le_of_eq hahead⟩
  | leave other _ _ _ hqueue =>
    by_cases hcall : other = call
    · subst hcall
      exact .inl (.inl (beq_self_eq_true other))
    · refine .inr ⟨?_, ?_⟩
      · obtain ⟨observed, hmem⟩ := hwaits
        have hstays := stays_of_ne hcall (w := .collect call observed) (beq_self_eq_true call)
        exact ⟨observed, hqueue ▸ List.mem_filter.mpr ⟨hmem, hstays⟩⟩
      · unfold ahead
        rw [hqueue]
        exact findIdx_filter_le (fun _ => stays_of_ne hcall) s.queue

/-- **Nobody is lost.** Whoever has queued waits, or has started a fetch, or has been told. -/
theorem Past.waits_or (hpast : Past c log s) {q call : Nat} (hq : Saw log q (.queued call)) :
    s.Waits call
      ∨ ∃ k sight, Saw log k sight ∧ (sight.tells call = true ∨ sight = .began call) := by
  induction hpast with
  | nil => exact absurd hq.lt (Nat.not_lt_zero q)
  | @snoc log s s' now sight hpast ht ih =>
    have hlast := saw_last log now sight
    rcases saw_snoc.mp hq with hq | ⟨-, rfl⟩
    · rcases ih hq with hwaits | ⟨k, other, hsaw, hother⟩
      · rcases ht.ahead_step hwaits with hdone | ⟨hwaits, -⟩
        · exact .inr ⟨log.length, sight, hlast, hdone⟩
        · exact .inl hwaits
      · exact .inr ⟨k, other, hsaw.snoc now sight, hother⟩
    · cases ht with
      | queue _ observed _ _ hqueue =>
        exact .inl ⟨observed, hqueue ▸ List.mem_append_right _ (List.mem_singleton_self _)⟩

/-! ## Those who have missed a fetch -/

/-- **Whoever waits when a fetch completes is shielded**, since it has arrived before. -/
theorem Past.shielded_of_complete (hpast : Past c log s) {leader call : Nat}
    {result : Except Fault Snapshot} (ht : Transition c now s s' (.completed leader result))
    (hwaits : s.Waits call) : s'.Shielded call := by
  cases ht with
  | complete _ _ _ hfree hqueue hgeneration =>
    refine ⟨⟨s.queue, [], by rw [hqueue, List.append_nil], hwaits, fun other observed hmem => ?_⟩,
      hfree⟩
    obtain ⟨a, ha, hobserved⟩ := hpast.arrived_of_mem hmem
    have hle : completions (log.take a) ≤ completions (log.take log.length) :=
      completions_take_le (Nat.le_of_lt ha.lt)
    rw [List.take_length, ← hpast.generation] at hle
    omega

/-- Whoever is first in the queue for a free lock and shielded is told something. Whoever is behind
it moves up. -/
theorem Shielded.of_cons {call : Nat} (h : s.Shielded call) {w : Waiter}
    (hqueue : s.queue = w :: s'.queue) (hgeneration : s'.generation = s.generation)
    (hfree : s'.holder? = none) :
    (∀ other observed, w = .collect other observed → observed < s.generation)
      ∧ (Waiter.isCall call w = true ∨ s'.Shielded call) := by
  obtain ⟨⟨front, rest, hsplit, ⟨observed, hmem⟩, hmissed⟩, -⟩ := h
  cases front with
  | nil => cases hmem
  | cons first front =>
    obtain ⟨rfl, hrest⟩ := List.cons.inj (hqueue.symm.trans hsplit)
    refine ⟨fun other noted heq => hmissed other noted (heq ▸ List.mem_cons_self), ?_⟩
    rcases List.mem_cons.mp hmem with rfl | hmem
    · exact .inl (beq_self_eq_true call)
    · refine .inr ⟨⟨front, rest, hrest, ⟨observed, hmem⟩, fun other noted hnoted => ?_⟩, hfree⟩
      rw [hgeneration]
      exact hmissed other noted (List.mem_cons_of_mem _ hnoted)

/-- **Whoever is shielded stays so until it is told something**, and nobody starts a fetch. -/
theorem Shielded.step {call : Nat} (h : s.Shielded call)
    (hfirst : s.last = none → s.generation = 0) (ht : Transition c now s s' sight) :
    (∀ other, sight ≠ .began other) ∧ (sight.tells call = true ∨ s'.Shielded call) := by
  have hsame (hkeeps : Keeps s s') (hholder : s'.holder? = s.holder?) {more : List Waiter}
      (hqueue : s'.queue = s.queue ++ more) : s'.Shielded call := by
    obtain ⟨⟨front, rest, hsplit, hmem, hmissed⟩, hfree⟩ := h
    refine ⟨⟨front, rest ++ more, ?_, hmem, hkeeps.generation ▸ hmissed⟩, hholder.trans hfree⟩
    rw [hqueue, hsplit, List.append_assoc]
  cases ht with
  | still hkeeps hholder hqueue | arrive _ hkeeps hholder hqueue =>
    exact ⟨nofun, .inr (hsame hkeeps hholder (hqueue.trans (List.append_nil _).symm))⟩
  | ask hkeeps hholder hqueue | queue _ _ hkeeps hholder hqueue =>
    exact ⟨nofun, .inr (hsame hkeeps hholder hqueue)⟩
  | drop hfree hqueue hholder _ _ hgeneration =>
    exact ⟨nofun, .inr ((h.of_cons hqueue hgeneration hholder).2.resolve_left nofun)⟩
  | share other _ _ hfree hqueue hkeeps hholder =>
    exact ⟨nofun, (h.of_cons hqueue hkeeps.generation hholder).2⟩
  | begin other observed _ hqueue hkeeps hholder hcount =>
    obtain ⟨⟨front, rest, hsplit, ⟨noted, hmem⟩, hmissed⟩, -⟩ := h
    cases front with
    | nil => cases hmem
    | cons first front =>
      -- the first in the queue has missed a fetch, so it is told what came of it
      obtain ⟨rfl, -⟩ := List.cons.inj (hqueue.symm.trans hsplit)
      have hlt := hmissed other observed List.mem_cons_self
      rcases hcount with heq | hnone
      · omega
      · have hzero := hfirst hnone
        omega
  | complete other _ hholder | abandon other hholder =>
    rw [h.free] at hholder
    cases hholder
  | leave other _ _ hholder hqueue hkeeps =>
    refine ⟨nofun, ?_⟩
    by_cases hcall : other = call
    · subst hcall
      exact .inl (beq_self_eq_true other)
    · obtain ⟨⟨front, rest, hsplit, ⟨observed, hmem⟩, hmissed⟩, hfree⟩ := h
      refine .inr ⟨⟨front.filter fun w => !Waiter.isCall other w,
        rest.filter fun w => !Waiter.isCall other w, ?_, ⟨observed, ?_⟩, ?_⟩, hholder.trans hfree⟩
      · rw [hqueue, hsplit, List.filter_append]
      · exact List.mem_filter.mpr ⟨hmem, stays_of_ne hcall (beq_self_eq_true call)⟩
      · intro waiting noted hnoted
        rw [hkeeps.generation]
        exact hmissed waiting noted (List.mem_filter.mp hnoted).1

/-- **Whoever has queued before a fetch completes is shielded from then on**, until it is told
something or starts a fetch. -/
theorem Past.shielded (hpast : Past c log s) {p q leader call : Nat}
    {result : Except Fault Snapshot} (hp : Saw log p (.completed leader result))
    (hq : Saw log q (.queued call)) (hqp : q < p) :
    s.Shielded call
      ∨ ∃ k sight, Saw log k sight ∧ (sight.tells call = true ∨ sight = .began call) := by
  induction hpast with
  | nil => exact absurd hp.lt (Nat.not_lt_zero p)
  | @snoc log s s' now sight hpast ht ih =>
    rcases saw_snoc.mp hq with hbefore | ⟨rfl, -⟩
    · rcases saw_snoc.mp hp with hcompleted | ⟨-, rfl⟩
      · rcases ih hcompleted hbefore with hshielded | ⟨k, other, hk, hdone⟩
        · have hfirst (hnone : s.last = none) : s.generation = 0 :=
            hpast.generation.trans (hpast.last_eq_none hnone)
          rcases (hshielded.step hfirst ht).2 with htells | hshielded
          · exact .inr ⟨log.length, sight, saw_last log now sight, .inl htells⟩
          · exact .inl hshielded
        · exact .inr ⟨k, other, hk.snoc now sight, hdone⟩
      · -- the fetch completes now, and the caller waits unless it has been served
        rcases hpast.waits_or hbefore with hwaits | ⟨k, other, hk, hdone⟩
        · exact .inl (hpast.shielded_of_complete ht hwaits)
        · exact .inr ⟨k, other, hk.snoc now _, hdone⟩
    · have hlt := hp.lt
      rw [List.length_append, List.length_singleton] at hlt
      omega

/-- Whoever waits, and has an identity of its own, has not been told anything. -/
theorem Past.not_told_of_waits {a call k : Nat} (hpast : Past c (log.take k) s)
    (harrives : ArrivesOnce log call a) (hwaits : s.Waits call) {m : Nat} {sight : Sight}
    (hm : Saw log m sight) (hmk : m < k) : ¬ sight.tells call = true := by
  intro htells
  obtain ⟨now, hm⟩ := saw_take.mpr ⟨hmk, hm⟩
  have htold : 0 < (log.take k).countP fun e => e.2.tells call :=
    List.countP_pos_iff.mpr ⟨_, List.mem_of_getElem? hm, htells⟩
  have hwaiting : 0 < s.queue.countP (Waiter.isCall call) :=
    List.countP_pos_iff.mpr (List.any_eq_true.mp (waits_iff.mp hwaits))
  have hle := hpast.told_le call
  have honce := (List.take_sublist k log).countP_le (p := fun e => e.2.isArrival call)
  rw [harrives.once] at honce
  omega

/-- A free lock for which somebody waits changes hands when its turn comes. -/
theorem handsOver_see (hfree : s.holder? = none) {call : Nat} (hwaits : s.Waits call)
    (sources : List SourceRef) : (s.see c now (.enter sources)).handsOver = true := by
  obtain ⟨observed, hmem⟩ := hwaits
  unfold see
  rw [(holder?_eq_none_iff s).mp hfree]
  cases hqueue : s.queue with
  | nil =>
    rw [hqueue] at hmem
    cases hmem
  | cons w rest =>
    cases w with
    | drop => rfl
    | collect other noted =>
      dsimp only
      cases s.ready? c now noted <;> rfl

end

/-- Whether it is the turn of the first in the queue. -/
def Event.isEnter : Event → Bool
  | enter _ => true
  | _ => false

end Slot

namespace Collector

open Slot

/-- How often it is the turn of the first in the queue of a cluster. -/
def turns (key : String) (es : List Happening) : Nat :=
  es.countP fun e => e.2.1 == key && e.2.2.isEnter

section

variable {key : String} {es : List Happening} {j : Nat}

theorem turns_drop {e : Happening} (hj : es[j]? = some e) : turns key (es.drop j)
    = turns key (es.drop (j + 1)) + if e.2.1 == key && e.2.2.isEnter then 1 else 0 := by
  obtain ⟨hlt, rfl⟩ := List.getElem?_eq_some_iff.mp hj
  unfold turns
  rw [List.drop_eq_getElem_cons hlt, List.countP_cons]

/-- When it is the turn of the first in the queue and the lock is free, the lock changes hands. -/
theorem handsOver_of_turn {c : Collector} {e : Happening}
    (hturn : (e.2.1 == key && e.2.2.isEnter) = true) (hfree : (c.slot key).holder? = none)
    {call : Nat} (hwaits : (c.slot key).Waits call) : (c.see key e).handsOver = true := by
  obtain ⟨now, other, e⟩ := e
  obtain ⟨hkey, henter⟩ := (Bool.and_eq_true _ _).mp hturn
  cases e with
  | enter sources =>
    unfold see
    rw [if_pos (eq_of_beq hkey)]
    exact handsOver_see hfree hwaits sources
  | _ => cases henter

/-- **Whoever waits for a lock that stays free gets it**, after all who wait before it. -/
theorem exists_turn (settings : CollectorSettings) {call : Nat}
    (hwaits : ((start settings).slotAt key es j).Waits call)
    (hfree : ∀ k, j ≤ k → ((start settings).slotAt key es k).Waits call →
      ((start settings).slotAt key es k).holder? = none)
    (hturns : ((start settings).slotAt key es j).ahead call < turns key (es.drop j)) :
    ∃ k sight, Saw ((start settings).watch key es) k sight
      ∧ (sight.tells call = true ∨ sight = .began call) := by
  induction hn : es.length - j generalizing j with
  | zero =>
    rw [List.drop_eq_nil_of_le (Nat.le_of_sub_eq_zero hn)] at hturns
    exact absurd hturns (Nat.not_lt_zero _)
  | succ n ih =>
    have hj : es[j]? = some es[j] := List.getElem?_eq_getElem (by omega)
    have hlog := getElem?_watch (start settings) key es j
    rw [hj] at hlog
    have ht := transition_slotAt settings key es hlog
    rcases ht.ahead_step hwaits with hdone | ⟨hwaits', hahead⟩
    · exact ⟨j, _, Saw.of_getElem? hlog, hdone⟩
    · refine ih hwaits' (fun k hk => hfree k (Nat.le_of_succ_le hk)) ?_ (by omega)
      rw [turns_drop hj] at hturns
      split at hturns
      · next hturn =>
        rw [handsOver_of_turn hturn (hfree j (Nat.le_refl j) hwaits) hwaits, if_pos rfl] at hahead
        omega
      · omega

end

end Collector

end ClusterScaling
