import ClusterScaling.Proofs.Collector.Log

/-!
# What a slot says of its past

Everything in a slot can be read off its log. The count of completed
fetches, the latest result and the cached snapshot are those of the
fetches that were seen to complete. Whoever holds the lock has a fetch in
flight, and whoever has one in flight holds the lock, so that there is
never a second one. Whoever waits, or is about to, has arrived, and
remembers how many fetches had been completed by then. And nobody is told more often than it
has arrived, so a caller with an identity of its own is told once.

Each of these is an induction over the past, one transition at a time.
-/

namespace ClusterScaling

namespace Slot

/-- How many fetches are seen to complete. -/
def completions (log : Log) : Nat := log.countP fun e => e.2.isCompletion

/-- Whether the lock changes hands. -/
def Sight.handsOver : Sight → Bool
  | dropped | began _ | shared _ _ => true
  | _ => false

/-- Whether a caller is told something. -/
def Sight.tells (call : Nat) (sight : Sight) : Bool := sight.answer?.any fun a => a.call == call

theorem Sight.tells_iff {call : Nat} {sight : Sight} :
    sight.tells call = true ↔ ∃ result, sight.answer? = some ⟨call, result⟩ := by
  unfold tells
  rw [Option.any_eq_true]
  constructor
  · rintro ⟨⟨other, result⟩, ha, hcall⟩
    cases eq_of_beq hcall
    exact ⟨result, ha⟩
  · rintro ⟨result, ha⟩
    exact ⟨⟨call, result⟩, ha, beq_self_eq_true call⟩

/-! ## Counting up to a position -/

section

variable {α : Type} {xs : List α} {f : α → Bool} {i j : Nat}

theorem countP_take_le (hij : i ≤ j) : (xs.take i).countP f ≤ (xs.take j).countP f := by
  rw [← Nat.min_eq_left hij, ← List.take_take]
  exact (List.take_sublist i (xs.take j)).countP_le

/-- What is found at a position counts behind it and not yet before it. -/
theorem countP_take_lt {x : α} (hi : xs[i]? = some x) (hx : f x = true) (hij : i < j) :
    (xs.take i).countP f < (xs.take j).countP f := by
  have hsucc : (xs.take (i + 1)).countP f = (xs.take i).countP f + 1 := by
    rw [List.take_add_one, hi, List.countP_append, Option.toList_some, List.countP_singleton,
      if_pos hx]
  have hle : (xs.take (i + 1)).countP f ≤ (xs.take j).countP f := countP_take_le hij
  omega

/-- **What is found but once is found at one position.** -/
theorem eq_of_countP_le_one (hone : xs.countP f ≤ 1) {x y : α} (hi : xs[i]? = some x)
    (hx : f x = true) (hj : xs[j]? = some y) (hy : f y = true) : i = j := by
  have hless : ∀ {i j : Nat} {x y : α}, xs[i]? = some x → f x = true → xs[j]? = some y →
      f y = true → ¬ i < j := by
    intro i j x y hi hx hj hy hij
    have hfirst := countP_take_lt hi hx hij
    have hsecond : _ < (xs.take (j + 1)).countP f := countP_take_lt hj hy (Nat.lt_succ_self j)
    have hall := (List.take_sublist (j + 1) xs).countP_le (p := f)
    omega
  exact Nat.le_antisymm (Nat.le_of_not_lt (hless hj hy hi hx))
    (Nat.le_of_not_lt (hless hi hx hj hy))

end

theorem completions_take_le {log : Log} {i j : Nat} (hij : i ≤ j) :
    completions (log.take i) ≤ completions (log.take j) :=
  countP_take_le hij

theorem completions_take_lt {log : Log} {i j : Nat} {sight : Sight} (h : Saw log i sight)
    (hsight : sight.isCompletion = true) (hij : i < j) :
    completions (log.take i) < completions (log.take j) := by
  obtain ⟨now, h⟩ := h
  exact countP_take_lt h hsight hij

theorem completions_snoc (log : Log) (now : Moment) (sight : Sight) :
    completions (log ++ [(now, sight)])
      = completions log + if sight.isCompletion then 1 else 0 := by
  unfold completions
  rw [List.countP_append, List.countP_singleton]

/-- A caller with an identity of its own arrives at one position. -/
theorem ArrivesOnce.eq {log : Log} {call a j : Nat} (h : ArrivesOnce log call a)
    (hj : Saw log j (.arrived call)) : j = a := by
  obtain ⟨now, ha⟩ := h.arrives
  obtain ⟨later, hj⟩ := hj
  exact eq_of_countP_le_one (Nat.le_of_eq h.once) hj (beq_self_eq_true call) ha
    (beq_self_eq_true call)

/-! ## Completed fetches -/

section

variable {c : CollectorSettings} {log : Log} {s : Slot}

/-- **The count of a slot is the number of fetches that were seen to complete.** -/
theorem Past.generation (hpast : Past c log s) : s.generation = completions log := by
  induction hpast with
  | nil => rfl
  | snoc hpast ht ih =>
    rw [completions_snoc, ← ih]
    cases ht.remembers with
    | kept _ hkeeps _ hcompleted =>
      rw [hcompleted]
      exact hkeeps.generation
    | dropped _ _ hgeneration => exact hgeneration
    | completed _ _ hgeneration => exact hgeneration

/-- **The latest result is that of the latest fetch that was seen to complete.** -/
theorem Past.last (hpast : Past c log s) {result : Except Fault Snapshot}
    (h : s.last = some result) :
    ∃ p call, Saw log p (.completed call result)
      ∧ ∀ q sight, p < q → Saw log q sight → sight.isCompletion = false := by
  induction hpast with
  | nil => cases h
  | @snoc log s s' now sight hpast ht ih =>
    have hold : s.last = some result → sight.isCompletion = false → ∃ p call,
        Saw (log ++ [(now, sight)]) p (.completed call result)
          ∧ ∀ q other, p < q → Saw (log ++ [(now, sight)]) q other →
            other.isCompletion = false := by
      intro hlast hsight
      obtain ⟨p, call, hp, hlatest⟩ := ih hlast
      refine ⟨p, call, hp.snoc now sight, fun q other hq hsaw => ?_⟩
      rcases saw_snoc.mp hsaw with hsaw | ⟨-, rfl⟩
      · exact hlatest q other hq hsaw
      · exact hsight
    cases ht.remembers with
    | kept _ hkeeps _ hcompleted => exact hold (hkeeps.last ▸ h) hcompleted
    | dropped _ hlast => exact hold (hlast ▸ h) rfl
    | completed call other _ _ hlast =>
      cases hlast.symm.trans h
      refine ⟨log.length, call, saw_last log now _, fun q sight hq hsaw => ?_⟩
      have hlt := hsaw.lt
      rw [List.length_append, List.length_singleton] at hlt
      omega

/-- As long as there is no latest result, no fetch was seen to complete. -/
theorem Past.last_eq_none (hpast : Past c log s) (h : s.last = none) : completions log = 0 := by
  induction hpast with
  | nil => rfl
  | snoc hpast ht ih =>
    rw [completions_snoc]
    cases ht.remembers with
    | kept _ hkeeps _ hcompleted =>
      rw [hcompleted]
      exact ih (hkeeps.last ▸ h)
    | dropped _ hlast => exact ih (hlast ▸ h)
    | completed _ _ _ _ hlast =>
      rw [hlast] at h
      cases h

/-- **The cached snapshot is that of a fetch which was seen to complete** when it says, and it was
not dropped since. -/
theorem Past.cached (hpast : Past c log s) {k : Cached} (h : s.cached = some k) :
    ∃ p now call, log[p]? = some (now, .completed call (.ok k.snapshot))
      ∧ k.fetchedAt = now.clock ∧ ∀ d, p < d → ¬ Saw log d .dropped := by
  induction hpast with
  | nil => cases h
  | @snoc log s s' now sight hpast ht ih =>
    have hold : s.cached = some k → sight ≠ .dropped → ∃ p later call,
        (log ++ [(now, sight)])[p]? = some (later, .completed call (.ok k.snapshot))
          ∧ k.fetchedAt = later.clock ∧ ∀ d, p < d → ¬ Saw (log ++ [(now, sight)]) d .dropped := by
      intro hcached hsight
      obtain ⟨p, later, call, hp, hclock, hkept⟩ := ih hcached
      refine ⟨p, later, call, getElem?_snoc.mpr (.inl hp), hclock, fun d hd hsaw => ?_⟩
      rcases saw_snoc.mp hsaw with hsaw | ⟨-, heq⟩
      · exact hkept d hd hsaw
      · exact hsight heq
    cases ht.remembers with
    | kept _ hkeeps hdropped => exact hold (hkeeps.cached ▸ h) hdropped
    | dropped hcached =>
      rw [hcached] at h
      cases h
    | completed call result _ hcached =>
      cases result with
      | error fault => exact hold (hcached.symm.trans h) nofun
      | ok snapshot =>
        rw [hcached] at h
        cases h
        refine ⟨log.length, now, call, getElem?_snoc.mpr (.inr ⟨rfl, rfl⟩), rfl,
          fun d hd hsaw => ?_⟩
        have hlt := hsaw.lt
        rw [List.length_append, List.length_singleton] at hlt
        omega

/-- No fetch is seen to complete with a cancellation. -/
theorem Past.result_ne_cancelled (hpast : Past c log s) {p call : Nat}
    {result : Except Fault Snapshot} (h : Saw log p (.completed call result)) :
    result ≠ .error .cancelled := by
  obtain ⟨now, h⟩ := h
  obtain ⟨before, after, -, ht, -⟩ := hpast.at h
  cases ht with
  | complete _ _ _ _ _ _ _ _ hresult => exact hresult

/-! ## The lock -/

/-- **Whoever has a fetch in flight holds the lock.** -/
theorem Past.holder?_of_inFlight (hpast : Past c log s) {b call : Nat}
    (h : InFlight log b call log.length) : s.holder? = some call := by
  induction hpast with
  | nil => exact absurd h.lt (Nat.not_lt_zero b)
  | @snoc log s s' now sight hpast ht ih =>
    rw [List.length_append, List.length_singleton] at h
    rcases h.of_snoc with ⟨-, rfl⟩ | ⟨h, hends⟩
    · cases ht with
      | begin _ _ _ _ _ hholder => exact hholder
    · have hheld := ih h
      cases ht with
      | still _ hholder | ask _ hholder | arrive _ _ hholder | queue _ _ _ hholder
        | leave _ _ _ hholder => exact hholder.trans hheld
      -- the lock is not free, so nobody gets it
      | drop hfree | share _ _ _ hfree | begin _ _ hfree =>
        rw [hheld] at hfree
        cases hfree
      | complete _ _ hholder | abandon _ hholder =>
        cases hholder.symm.trans hheld
        exact absurd (beq_self_eq_true call) (Bool.eq_false_iff.mp hends)

/-- **Whoever holds the lock has a fetch in flight.** -/
theorem Past.inFlight_of_holder? (hpast : Past c log s) {call : Nat}
    (h : s.holder? = some call) : ∃ b, InFlight log b call log.length := by
  induction hpast with
  | nil => cases h
  | @snoc log s s' now sight hpast ht ih =>
    rw [List.length_append, List.length_singleton]
    have hold : s.holder? = some call → sight.endsFetch call = false →
        ∃ b, InFlight (log ++ [(now, sight)]) b call (log.length + 1) := by
      intro hheld hends
      obtain ⟨b, hflight⟩ := ih hheld
      exact ⟨b, hflight.snoc hends⟩
    cases ht with
    | still _ hholder | ask _ hholder | arrive _ _ hholder | queue _ _ _ hholder =>
      exact hold (hholder ▸ h) rfl
    | leave other hother _ hholder =>
      rw [hholder] at h
      exact hold h (beq_false_of_ne fun heq => hother (heq ▸ h))
    | begin other _ _ _ _ hholder =>
      cases hholder.symm.trans h
      refine ⟨log.length, saw_last log now _, Nat.lt_succ_self _, fun k sight hk hlt _ => ?_⟩
      omega
    | drop _ _ hholder | share _ _ _ _ _ _ hholder | complete _ _ _ hholder
      | abandon _ _ hholder =>
      rw [hholder] at h
      cases h

/-- A fetch in flight up to a position is that of whoever holds the lock there. -/
theorem Past.holder?_of_inFlight_take {i : Nat} (hpast : Past c (log.take i) s) {b call : Nat}
    (h : InFlight log b call i) (hi : i ≤ log.length) : s.holder? = some call := by
  refine hpast.holder?_of_inFlight (b := b) ?_
  rw [List.length_take, Nat.min_eq_left hi]
  exact (inFlight_take (Nat.le_refl i)).mpr h

/-- **While a fetch is in flight the lock does not change hands.** -/
theorem Past.not_handsOver (hpast : Past c log s) {b call k j : Nat} {sight : Sight}
    (h : InFlight log b call j) (hbk : b < k) (hkj : k < j) (hk : Saw log k sight) :
    sight.handsOver = false := by
  obtain ⟨now, hk⟩ := hk
  obtain ⟨before, after, hbefore, ht, -⟩ := hpast.at hk
  have hlt : k < log.length := (Saw.of_getElem? hk).lt
  have hholder := hbefore.holder?_of_inFlight_take (h.mono hbk (Nat.le_of_lt hkj))
    (Nat.le_of_lt hlt)
  cases ht with
  | drop hfree | share _ _ _ hfree | begin _ _ hfree =>
    rw [hholder] at hfree
    cases hfree
  | _ => rfl

/-- A fetch that is seen to complete has been in flight. -/
theorem Past.inFlight_of_completed (hpast : Past c log s) {p call : Nat}
    {result : Except Fault Snapshot} (h : Saw log p (.completed call result)) :
    ∃ b, InFlight log b call p := by
  obtain ⟨now, hp⟩ := h
  obtain ⟨before, after, hbefore, ht, -⟩ := hpast.at hp
  cases ht with
  | complete _ _ hholder =>
    obtain ⟨b, hflight⟩ := hbefore.inFlight_of_holder? hholder
    rw [List.length_take, Nat.min_eq_left (Nat.le_of_lt (Saw.of_getElem? hp).lt)] at hflight
    exact ⟨b, (inFlight_take (Nat.le_refl p)).mp hflight⟩

/-! ## Callers -/

/-- A caller waits, or is about to, and has noted a count of completed fetches. -/
def HasNoted (s : Slot) (call observed : Nat) : Prop :=
  .collect call observed ∈ s.queue ∨ ⟨call, observed⟩ ∈ s.coming

/-- **What has been noted was noted on arrival.** -/
theorem Transition.hasNoted {now : Moment} {s' : Slot} {sight : Sight}
    (ht : Transition c now s s' sight) {call observed : Nat} (h : s'.HasNoted call observed) :
    s.HasNoted call observed ∨ sight = .arrived call ∧ observed = s.generation := by
  rcases h with hmem | hmem
  · cases ht with
    | still _ _ hqueue | arrive _ _ _ hqueue | complete _ _ _ _ hqueue | abandon _ _ _ hqueue =>
      exact .inl (.inl (hqueue ▸ hmem))
    | ask _ _ hqueue =>
      rw [hqueue] at hmem
      exact .inl (.inl ((List.mem_append.mp hmem).resolve_right (by simp)))
    | queue other noted _ _ hqueue hcomes =>
      rw [hqueue] at hmem
      rcases List.mem_append.mp hmem with hmem | hmem
      · exact .inl (.inl hmem)
      · cases List.mem_singleton.mp hmem
        exact .inl (.inr hcomes)
    | drop _ hqueue | share _ _ _ _ hqueue | begin _ _ _ hqueue =>
      exact .inl (.inl (hqueue ▸ List.mem_cons_of_mem _ hmem))
    | leave _ _ _ _ hqueue =>
      rw [hqueue] at hmem
      exact .inl (.inl (List.mem_filter.mp hmem).1)
  · cases ht with
    | still _ _ _ hcoming | ask _ _ _ hcoming | drop _ _ _ _ _ _ hcoming
      | share _ _ _ _ _ _ _ _ hcoming | begin _ _ _ _ _ _ _ hcoming
      | complete _ _ _ _ _ _ _ _ _ hcoming | abandon _ _ _ _ _ hcoming =>
      exact .inl (.inr (hcoming ▸ hmem))
    | queue _ _ _ _ _ _ hcoming =>
      rw [hcoming] at hmem
      exact .inl (.inr (List.mem_of_mem_erase hmem))
    | arrive other _ _ _ hcoming =>
      rw [hcoming] at hmem
      rcases List.mem_append.mp hmem with hmem | hmem
      · exact .inl (.inr hmem)
      · cases List.mem_singleton.mp hmem
        exact .inr ⟨rfl, rfl⟩
    | leave _ _ _ _ _ _ hcoming =>
      rw [hcoming] at hmem
      exact .inl (.inr (List.mem_filter.mp hmem).1)

/-- **Whoever waits, or is about to, has arrived**, and remembers how many fetches had been
completed by then. -/
theorem Past.arrived_of_noted (hpast : Past c log s) {call observed : Nat}
    (h : s.HasNoted call observed) :
    ∃ a, Saw log a (.arrived call) ∧ observed = completions (log.take a) := by
  induction hpast with
  | nil => exact h.elim nofun nofun
  | @snoc log s s' now sight hpast ht ih =>
    rcases ht.hasNoted h with h | ⟨rfl, rfl⟩
    · obtain ⟨a, ha, hobserved⟩ := ih h
      refine ⟨a, ha.snoc now sight, ?_⟩
      rw [List.take_append_of_le_length (Nat.le_of_lt ha.lt)]
      exact hobserved
    · refine ⟨log.length, saw_last log now _, ?_⟩
      rw [List.take_left]
      exact hpast.generation

/-- Whoever waits has arrived. -/
theorem Past.arrived_of_mem (hpast : Past c log s) {call observed : Nat}
    (h : .collect call observed ∈ s.queue) :
    ∃ a, Saw log a (.arrived call) ∧ observed = completions (log.take a) :=
  hpast.arrived_of_noted (.inl h)

/-- Whoever waits at a position, and has an identity of its own, has arrived before it. -/
theorem Past.arrived_of_mem_take {i a call observed : Nat} (hpast : Past c (log.take i) s)
    (harrives : ArrivesOnce log call a) (h : .collect call observed ∈ s.queue) :
    a < i ∧ observed = completions (log.take a) := by
  obtain ⟨a', ha', hobserved⟩ := hpast.arrived_of_mem h
  obtain ⟨hlt, ha⟩ := saw_take.mp ha'
  cases harrives.eq ha
  rw [List.take_take, Nat.min_eq_left (Nat.le_of_lt hlt)] at hobserved
  exact ⟨hlt, hobserved⟩

/-- Nobody who is taken out is left. -/
theorem countP_filter_not {α : Type} (f : α → Bool) (xs : List α) :
    (xs.filter fun x => !f x).countP f = 0 :=
  List.countP_eq_zero.mpr fun x hx => by simpa using (List.mem_filter.mp hx).2

/-- A caller that leaves has waited or was about to. -/
theorem countP_leave {other : Nat} (hexpects : s.expects other = true) (call : Nat) :
    (if other == call then 1 else 0)
        + (s.queue.filter fun w => !Waiter.isCall other w).countP (Waiter.isCall call)
        + (s.coming.filter fun w => !Comer.isCall other w).countP (Comer.isCall call)
      ≤ s.queue.countP (Waiter.isCall call) + s.coming.countP (Comer.isCall call) := by
  by_cases hcall : other = call
  · subst hcall
    rw [countP_filter_not, countP_filter_not, beq_self_eq_true, if_pos rfl]
    rcases (Bool.or_eq_true _ _).mp hexpects with hwaits | hcomes
    · have hpos : 0 < s.queue.countP (Waiter.isCall other) :=
        List.countP_pos_iff.mpr (List.any_eq_true.mp hwaits)
      omega
    · have hpos : 0 < s.coming.countP (Comer.isCall other) :=
        List.countP_pos_iff.mpr (List.any_eq_true.mp hcomes)
      omega
  · rw [beq_false_of_ne hcall, if_neg Bool.false_ne_true, Nat.zero_add]
    exact Nat.add_le_add List.filter_sublist.countP_le List.filter_sublist.countP_le

/-- **Nobody is told more often than it has arrived**, and those who wait, or are about to, or fetch
have not been told yet. -/
theorem Past.told_le (hpast : Past c log s) (call : Nat) :
    log.countP (fun e => e.2.tells call)
        + (s.queue.countP (Waiter.isCall call) + s.coming.countP (Comer.isCall call))
        + s.holder?.toList.countP (· == call)
      ≤ log.countP fun e => e.2.isArrival call := by
  induction hpast with
  | nil => exact Nat.le_refl 0
  | @snoc log s s' now sight hpast ht ih =>
    rw [List.countP_append, List.countP_append, List.countP_singleton, List.countP_singleton]
    cases ht with
    | still _ hholder hqueue hcoming =>
      rw [hholder, hqueue, hcoming]
      exact ih
    | ask _ hholder hqueue hcoming =>
      rw [hholder, hqueue, hcoming, List.countP_append]
      exact ih
    | arrive other _ hholder hqueue hcoming =>
      rw [hholder, hqueue, hcoming, List.countP_append, List.countP_singleton]
      show _ + 0 + (_ + (_ + if other == call then 1 else 0)) + _
        ≤ _ + if other == call then 1 else 0
      omega
    | queue other observed _ hholder hqueue hcomes hcoming =>
      -- it is counted among those who wait, and no longer among those who come
      have hmoved := (List.perm_cons_erase hcomes).countP_eq (Comer.isCall call)
      rw [List.countP_cons] at hmoved
      rw [hholder, hqueue, hcoming, List.countP_append, List.countP_singleton]
      change _ = _ + if other == call then 1 else 0 at hmoved
      show _ + 0 + (_ + (if other == call then 1 else 0) + _) + _ ≤ _ + 0
      omega
    | drop hfree hqueue hholder _ _ _ hcoming =>
      rw [hqueue, List.countP_cons, hfree] at ih
      rw [hholder, hcoming]
      exact ih
    | share other _ _ hfree hqueue _ hholder _ hcoming =>
      rw [hqueue, List.countP_cons, hfree] at ih
      rw [hholder, hcoming]
      change _ + (_ + (if other == call then 1 else 0) + _) + _ ≤ _ at ih
      show _ + (if other == call then 1 else 0) + _ + _ ≤ _ + 0
      omega
    | begin other _ hfree hqueue _ hholder _ hcoming =>
      rw [hqueue, List.countP_cons, hfree] at ih
      rw [hholder, hcoming, Option.toList_some, List.countP_singleton]
      change _ + (_ + (if other == call then 1 else 0) + _) + 0 ≤ _ at ih
      show _ + 0 + _ + _ ≤ _ + 0
      omega
    | complete other _ hholder hfree hqueue _ _ _ _ hcoming
      | abandon other hholder hfree hqueue _ hcoming =>
      rw [hholder, Option.toList_some, List.countP_singleton] at ih
      rw [hfree, hqueue, hcoming]
      show _ + (if other == call then 1 else 0) + _ + 0 ≤ _ + 0
      omega
    | leave other _ hexpects hholder hqueue _ hcoming =>
      have hleave := countP_leave hexpects call
      rw [hholder, hqueue, hcoming]
      show _ + (if other == call then 1 else 0) + _ + _ ≤ _ + 0
      omega

/-- **A caller with an identity of its own is told once.** -/
theorem Past.told_once (hpast : Past c log s) {call a i j : Nat} {sight other : Sight}
    (honce : ArrivesOnce log call a) (hi : Saw log i sight) (hsight : sight.tells call = true)
    (hj : Saw log j other) (hother : other.tells call = true) : i = j := by
  obtain ⟨now, hi⟩ := hi
  obtain ⟨later, hj⟩ := hj
  have hle := hpast.told_le call
  rw [honce.once] at hle
  have hone : log.countP (fun e => e.2.tells call) ≤ 1 := by omega
  exact eq_of_countP_le_one hone hi hsight hj hother

end

end Slot

end ClusterScaling
