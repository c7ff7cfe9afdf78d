import ClusterScaling.Proofs.Collector.Queue
import Mathlib.Tactic.IntervalCases

/-!
# One fetch at a time, and its result for all

Of the fetches of a cluster at most one is in flight at any time: whoever
begins one gets the lock, and gets it only when it is free.

A caller that arrives while a fetch is in flight cannot get the lock
before the fetch has ended, and if nobody cancels the fetch, it ends by
completing. The caller has missed it then. So it starts no fetch of its
own, and is told at once what came of the latest fetch, a snapshot or a
fault, whatever has become of the cached snapshot and however long
snapshots may be cached.

The latest fetch is the one that was in flight on arrival, unless somebody
has fetched since. That takes a caller which has arrived after the fetch
and gets the lock first. If the lock is first come, first served, there is
no such caller (`FirstCome`). Nor is there one if the caller has not only
arrived but queued while the fetch was in flight: the lock stays free for
it until its turn (`Shielded`). Otherwise a caller that is slow to queue
may be overtaken, and shares a later fetch than the one that it has met.
-/

namespace ClusterScaling

namespace Slot

/-- The caller that gets the lock. -/
def Sight.taker? : Sight → Option Nat
  | began call | shared call _ => some call
  | _ => none

/-- **First come, first served.** When a caller gets the lock, whoever has arrived before it has had
the lock or has been cancelled. -/
def FirstCome (log : Log) : Prop :=
  ∀ call other a a' k sight, Saw log a (.arrived call) → Saw log a' (.arrived other) → a < a' →
    a' < k → Saw log k sight → sight.taker? = some other →
    ∃ m earlier, m < k ∧ Saw log m earlier
      ∧ (earlier.taker? = some call ∨ earlier = .cancelled call)

/-- Of the fetches that have completed before a position, the latest has done so at another one, and
with the given result. -/
structure LatestBefore (log : Log) (i q : Nat) (result : Except Fault Snapshot) : Prop where
  /-- The fetch has completed before. -/
  lt : q < i
  /-- This is what came of it. -/
  completed : ∃ leader, Saw log q (.completed leader result)
  /-- No other has completed since. -/
  latest : ∀ k sight, q < k → k < i → Saw log k sight → sight.isCompletion = false

/-- Nobody starts a fetch after a position before a caller has been told something. -/
def Unpassed (log : Log) (call p : Nat) : Prop :=
  ∀ k other, p < k → Saw log k (.began other) →
    ∃ m sight, m < k ∧ Saw log m sight ∧ sight.tells call = true

variable {c : CollectorSettings} {log : Log} {s : Slot} {b leader : Nat}

/-! ## The end of a fetch -/

/-- A fetch ends once. -/
theorem InFlight.end_unique {p q : Nat} {sight other : Sight} (hp : InFlight log b leader p)
    (hsight : Saw log p sight) (hends : sight.endsFetch leader = true)
    (hq : InFlight log b leader q) (hother : Saw log q other)
    (hends' : other.endsFetch leader = true) : p = q := by
  rcases Nat.lt_trichotomy p q with hlt | heq | hlt
  · rw [hq.lasts p sight hp.lt hlt hsight] at hends
    cases hends
  · exact heq
  · rw [hp.lasts q other hq.lt hlt hother] at hends'
    cases hends'

/-- A fetch ends after all that is seen during the fetch. -/
theorem InFlight.lt_end {a p : Nat} {seen sight : Sight} (hflight : InFlight log b leader a)
    (ha : Saw log a seen) (hseen : seen.endsFetch leader = false) (hp : InFlight log b leader p)
    (hsight : Saw log p sight) (hends : sight.endsFetch leader = true) : a < p := by
  refine Nat.lt_of_le_of_ne (Nat.le_of_not_lt fun hpa => ?_) fun heq => ?_
  · rw [hflight.lasts p sight hp.lt hpa hsight] at hends
    cases hends
  · subst heq
    cases ha.unique hsight
    cases hseen.symm.trans hends

/-- **At no time are two fetches in flight.** -/
theorem Past.flight_unique (hpast : Past c log s) {j b' leader' : Nat}
    (h : InFlight log b leader j) (h' : InFlight log b' leader' j) : b = b' ∧ leader = leader' := by
  have hne {b b' leader leader' : Nat} (h : InFlight log b leader j)
      (h' : InFlight log b' leader' j) : ¬ b < b' := fun hlt => by
    cases hpast.not_handsOver h hlt h'.lt h'.began
  have heq : b = b' := Nat.le_antisymm (Nat.le_of_not_lt (hne h' h)) (Nat.le_of_not_lt (hne h h'))
  subst heq
  cases h.began.unique h'.began
  exact ⟨rfl, rfl⟩

/-- A fetch that is in flight after another has ended has begun afterwards. -/
theorem Past.end_lt_began (hpast : Past c log s) {p j b' leader' : Nat} {sight : Sight}
    (hp : InFlight log b leader p) (hsight : Saw log p sight)
    (hends : sight.endsFetch leader = true) (h : InFlight log b' leader' j) (hpj : p < j) :
    p < b' := by
  refine Nat.lt_of_le_of_ne (Nat.le_of_not_lt fun hlt => ?_) fun heq => ?_
  · obtain ⟨rfl, rfl⟩ := hpast.flight_unique hp (h.mono hlt (Nat.le_of_lt hpj))
    rw [h.lasts p sight hlt hpj hsight] at hends
    cases hends
  · subst heq
    cases hsight.unique h.began
    cases hends

/-- A fetch that is never cancelled and no longer in flight has completed, after whoever arrived
during the fetch. -/
theorem InFlight.exists_completed {a i call : Nat} (hflight : InFlight log b leader a)
    (hkept : ∀ k, InFlight log b leader k → ¬ Saw log k (.cancelled leader))
    (ha : Saw log a (.arrived call)) (hai : a ≤ i) (hover : ¬ InFlight log b leader i) :
    ∃ p result, a < p ∧ p < i ∧ InFlight log b leader p ∧ Saw log p (.completed leader result) := by
  obtain ⟨p, sight, hpi, hlasts, hp, hends⟩ := hflight.exists_end hai hover
  have hap := hflight.lt_end ha rfl hlasts hp hends
  cases sight with
  | cancelled other =>
    cases eq_of_beq hends
    exact absurd hp (hkept p hlasts)
  | completed other result =>
    cases eq_of_beq hends
    exact ⟨p, result, hap, hpi, hlasts, hp⟩
  | _ => cases hends

/-- **Whoever starts a fetch has missed none**: it has arrived after all that have completed. -/
theorem Past.completed_lt_arrived (hpast : Past c log s) {p k call : Nat}
    {result : Except Fault Snapshot} (hp : Saw log p (.completed leader result)) (hpk : p < k)
    (hk : Saw log k (.began call)) : ∃ a, p < a ∧ a < k ∧ Saw log a (.arrived call) := by
  obtain ⟨now, hk⟩ := hk
  obtain ⟨before, after, hbefore, ht, -⟩ := hpast.at hk
  cases ht with
  | begin _ observed _ hqueue _ _ hcount =>
    obtain ⟨a, ha, hobserved⟩ := hbefore.arrived_of_mem (hqueue ▸ List.mem_cons_self)
    obtain ⟨hak, ha⟩ := saw_take.mp ha
    rw [List.take_take, Nat.min_eq_left (Nat.le_of_lt hak)] at hobserved
    refine ⟨a, Nat.lt_of_not_le fun hap => ?_, hak, ha⟩
    have hless : completions (log.take a) ≤ completions (log.take p) := completions_take_le hap
    have hmore := completions_take_lt hp rfl hpk
    rcases hcount with heq | hnone
    · rw [hbefore.generation] at heq
      omega
    · rw [hbefore.last_eq_none hnone] at hmore
      omega

section

variable {a call : Nat} (hflight : InFlight log b leader a) (harrives : ArrivesOnce log call a)
  (hkept : ∀ k, InFlight log b leader k → ¬ Saw log k (.cancelled leader))

include hflight harrives hkept

/-! ## Whoever has met a fetch shares the latest -/

/-- **Whoever arrives during a fetch and waits for a free lock has missed that fetch.** -/
theorem Past.missed {i observed : Nat} (hbefore : Past c (log.take i) s) (hi : i ≤ log.length)
    (hfree : s.holder? = none) (hmem : .collect call observed ∈ s.queue) :
    observed < s.generation ∧ ∃ p result, a < p ∧ p < i ∧ InFlight log b leader p
      ∧ Saw log p (.completed leader result) := by
  obtain ⟨hai, hobserved⟩ := hbefore.arrived_of_mem_take harrives hmem
  have hover : ¬ InFlight log b leader i := fun h => by
    rw [hbefore.holder?_of_inFlight_take h hi] at hfree
    cases hfree
  obtain ⟨p, result, hap, hpi, hp, hcompleted⟩ :=
    hflight.exists_completed hkept harrives.arrives (Nat.le_of_lt hai) hover
  refine ⟨?_, p, result, hap, hpi, hp, hcompleted⟩
  have hless : completions (log.take a) ≤ completions (log.take p) :=
    completions_take_le (Nat.le_of_lt hap)
  have hmore := completions_take_lt hcompleted rfl hpi
  rw [← hbefore.generation] at hmore
  omega

/-- **Whoever arrives during a fetch starts none of its own.** -/
theorem Past.follower_not_began (hpast : Past c log s) (k : Nat) :
    ¬ Saw log k (.began call) := by
  rintro ⟨now, hk⟩
  obtain ⟨before, after, hbefore, ht, -⟩ := hpast.at hk
  cases ht with
  | begin _ observed hfree hqueue _ _ hcount =>
    obtain ⟨hmissed, -⟩ := Past.missed hflight harrives hkept hbefore
      (Nat.le_of_lt (Saw.of_getElem? hk).lt) hfree (hqueue ▸ List.mem_cons_self)
    rcases hcount with heq | hnone
    · omega
    · rw [hbefore.generation, hbefore.last_eq_none hnone] at hmissed
      omega

/-- **Whoever arrives during a fetch is told what came of the latest one**, unless it is cancelled,
and that is the fetch it has met or a later one. -/
theorem Past.follower_told (hpast : Past c log s) {i : Nat} {sight : Sight}
    {result : Except Fault Snapshot} (hi : Saw log i sight)
    (hsight : sight.answer? = some ⟨call, result⟩) (hwilling : sight ≠ .cancelled call) :
    ∃ p met q, a < p ∧ InFlight log b leader p ∧ Saw log p (.completed leader met) ∧ p ≤ q
      ∧ LatestBefore log i q result := by
  obtain ⟨now, hi⟩ := hi
  obtain ⟨before, after, hbefore, ht, -⟩ := hpast.at hi
  cases ht with
  | share _ observed _ hfree hqueue _ _ hready =>
    cases hsight
    obtain ⟨hmissed, p, met, hap, hpi, hp, hcompleted⟩ :=
      Past.missed hflight harrives hkept hbefore (Nat.le_of_lt (Saw.of_getElem? hi).lt) hfree
        (hqueue ▸ List.mem_cons_self)
    cases hready with
    | joined _ _ hlast =>
      obtain ⟨q, leader', hq, hlatest⟩ := hbefore.last hlast
      obtain ⟨hqi, hq⟩ := saw_take.mp hq
      refine ⟨p, met, q, hap, hp, hcompleted, Nat.le_of_not_lt fun hqp => ?_, hqi, ⟨leader', hq⟩,
        fun k other hqk hki hk => hlatest k other hqk (saw_take.mpr ⟨hki, hk⟩)⟩
      cases hlatest p _ hqp (saw_take.mpr ⟨hpi, hcompleted⟩)
    | cached _ hcount =>
      rcases hcount with heq | hnone
      · omega
      · rw [hbefore.generation, hbefore.last_eq_none hnone] at hmissed
        omega
  | complete _ _ hholder =>
    cases hsight
    -- whoever completes a fetch has begun it
    obtain ⟨b', hown⟩ := hpast.inFlight_of_completed (Saw.of_getElem? hi)
    exact absurd hown.began (Past.follower_not_began hflight harrives hkept hpast b')
  | abandon | leave =>
    cases hsight
    exact absurd rfl hwilling
  | _ => cases hsight

/-! ## Whoever is not overtaken shares the one that it has met -/

variable {p : Nat} {met : Except Fault Snapshot} (hp : InFlight log b leader p)
  (hcompleted : Saw log p (.completed leader met))

include hp hcompleted

/-- **If the lock is first come, first served, nobody fetches first.** -/
theorem Past.unpassed_of_firstCome (hpast : Past c log s) (hcome : FirstCome log) :
    Unpassed log call p := by
  intro k other hpk hk
  have hap := hflight.lt_end harrives.arrives rfl hp hcompleted (beq_self_eq_true leader)
  obtain ⟨a', hpa, hak, ha'⟩ := hpast.completed_lt_arrived hcompleted hpk hk
  obtain ⟨m, earlier, hmk, hm, htaker | rfl⟩ := hcome call other a a' k _ harrives.arrives ha'
    (Nat.lt_trans hap hpa) hak hk rfl
  · cases earlier with
    | began _ =>
      cases htaker
      exact absurd hm (Past.follower_not_began hflight harrives hkept hpast m)
    | shared _ result =>
      cases htaker
      exact ⟨m, _, hmk, hm, beq_self_eq_true call⟩
    | _ => cases htaker
  · exact ⟨m, _, hmk, hm, beq_self_eq_true call⟩

/-- **Nor does anybody if the caller has queued while the fetch was in flight**: it is shielded from
the completion on. -/
theorem Past.unpassed_of_queued (hpast : Past c log s) {q : Nat} (hq : InFlight log b leader q)
    (hqueued : Saw log q (.queued call)) : Unpassed log call p := by
  rintro k other hpk ⟨now, hk⟩
  have hqp := hq.lt_end hqueued rfl hp hcompleted (beq_self_eq_true leader)
  obtain ⟨before, after, hbefore, ht, -⟩ := hpast.at hk
  rcases hbefore.shielded (saw_take.mpr ⟨hpk, hcompleted⟩)
    (saw_take.mpr ⟨Nat.lt_trans hqp hpk, hqueued⟩) hqp with hshielded | ⟨m, sight, hm, hdone⟩
  · have hfirst (hnone : before.last = none) : before.generation = 0 :=
      hbefore.generation.trans (hbefore.last_eq_none hnone)
    exact absurd rfl ((hshielded.step hfirst ht).1 other)
  · obtain ⟨hmk, hm⟩ := saw_take.mp hm
    rcases hdone with htells | rfl
    · exact ⟨m, sight, hmk, hm, htells⟩
    · exact absurd hm (Past.follower_not_began hflight harrives hkept hpast m)

/-- Whoever is served in the order of arrival, or queues during the fetch, is not overtaken. -/
theorem Past.unpassed (hpast : Past c log s)
    (horder : FirstCome log ∨ ∃ q, InFlight log b leader q ∧ Saw log q (.queued call)) :
    Unpassed log call p := by
  rcases horder with hcome | ⟨q, hq, hqueued⟩
  · exact Past.unpassed_of_firstCome hflight harrives hkept hp hcompleted hpast hcome
  · exact Past.unpassed_of_queued hflight harrives hkept hp hcompleted hpast hq hqueued

omit hflight hkept in
/-- As long as nobody fetches first, the fetch that the caller has met is the latest when the caller
is told something. -/
theorem Past.eq_latest (hpast : Past c log s) (hunpassed : Unpassed log call p) {i q : Nat}
    {sight : Sight} {result : Except Fault Snapshot} (hi : Saw log i sight)
    (htells : sight.tells call = true) (hpq : p ≤ q) (hlatest : LatestBefore log i q result) :
    p = q := by
  rcases Nat.eq_or_lt_of_le hpq with heq | hlt
  · exact heq
  · -- whoever has completed the latest fetch would have begun it after the caller was told
    obtain ⟨leader', hq⟩ := hlatest.completed
    obtain ⟨b', hother⟩ := hpast.inFlight_of_completed hq
    have hpb := hpast.end_lt_began hp hcompleted (beq_self_eq_true leader) hother hlt
    obtain ⟨m, earlier, hmb, hm, hearlier⟩ := hunpassed b' leader' hpb hother.began
    have hmi := hpast.told_once harrives hm hearlier hi htells
    have hbq := hother.lt
    have hqi := hlatest.lt
    omega

omit hp hcompleted in
/-- **Whoever is not overtaken is told what came of the fetch that it has met.** -/
theorem Past.follower_told_met (hpast : Past c log s)
    (horder : FirstCome log ∨ ∃ q, InFlight log b leader q ∧ Saw log q (.queued call)) {i : Nat}
    {sight : Sight} {result : Except Fault Snapshot} (hi : Saw log i sight)
    (hsight : sight.answer? = some ⟨call, result⟩) (hwilling : sight ≠ .cancelled call) :
    ∃ p, a < p ∧ p < i ∧ InFlight log b leader p ∧ Saw log p (.completed leader result) := by
  obtain ⟨p, met, q, hap, hp, hcompleted, hpq, hlatest⟩ :=
    Past.follower_told hflight harrives hkept hpast hi hsight hwilling
  have hunpassed := Past.unpassed hflight harrives hkept hp hcompleted hpast horder
  cases Past.eq_latest harrives hp hcompleted hpast hunpassed hi
    (Sight.tells_iff.mpr ⟨result, hsight⟩) hpq hlatest
  obtain ⟨leader', hcompleted'⟩ := hlatest.completed
  cases hcompleted.unique hcompleted'
  exact ⟨p, hap, hlatest.lt, hp, hcompleted⟩

end

end Slot

namespace Collector

open Slot

/-- **Whoever has met a fetch and is not overtaken gets its turn** after all who wait before it when
the fetch has completed and the caller has queued: the lock stays free for it. -/
theorem exists_turn_of_unpassed (settings : CollectorSettings) (key : String) (es : List Happening)
    {a b leader call p q : Nat} {met : Except Fault Snapshot}
    (harrives : ArrivesOnce ((start settings).watch key es) call a)
    (hp : InFlight ((start settings).watch key es) b leader p)
    (hcompleted : Saw ((start settings).watch key es) p (.completed leader met))
    (hunpassed : Unpassed ((start settings).watch key es) call p)
    (hq : Saw ((start settings).watch key es) q (.queued call))
    (hturns : ((start settings).slotAt key es (max p q + 1)).ahead call
      < turns key (es.drop (max p q + 1))) :
    ∃ k sight, Saw ((start settings).watch key es) k sight
      ∧ (sight.tells call = true ∨ sight = .began call) := by
  have hqr : q < max p q + 1 := Nat.lt_succ_of_le (Nat.le_max_right p q)
  rcases (past_slotAt settings key es (max p q + 1)).waits_or (saw_take.mpr ⟨hqr, hq⟩)
    with hwaits | ⟨k, sight, hk, hdone⟩
  · refine exists_turn settings hwaits (fun k hrk hwaits => ?_) hturns
    have hbefore := past_slotAt settings key es k
    cases hholder : ((start settings).slotAt key es k).holder? with
    | none => rfl
    | some other =>
      -- whoever held the lock would have got it after the caller was told
      obtain ⟨b', hother⟩ := hbefore.inFlight_of_holder? hholder
      have hlen : (((start settings).watch key es).take k).length ≤ k := List.length_take_le k _
      rw [inFlight_take hlen] at hother
      have hpk : p < k :=
        Nat.lt_of_lt_of_le (Nat.lt_succ_of_le (Nat.le_max_left p q)) hrk
      have hpb := (past_watch settings key es).end_lt_began hp hcompleted (beq_self_eq_true leader)
        hother (saw_take.mpr ⟨hpk, hcompleted⟩).lt
      obtain ⟨m, earlier, hmb, hm, hearlier⟩ := hunpassed b' other hpb hother.began
      have hmk : m < k := Nat.lt_of_lt_of_le (Nat.lt_trans hmb hother.lt) hlen
      exact absurd hearlier (hbefore.not_told_of_waits harrives hwaits hm hmk)
  · exact ⟨k, sight, (saw_take.mp hk).2, hdone⟩

/-- Without either, a caller may be overtaken: the second one arrives during the fetch of the first
one and queues only when the third one has begun another, whose failure it shares. -/
example :
    let c := (start .usual).run <|
      [.arrive 1, .queue 1, .enter [⟨"p", .primaries⟩], .arrive 2, .launch,
        .finish "p" (.failed (.sourceFailed "p" "down")), .settle, .arrive 3, .queue 3,
        .enter [⟨"s", .secondaries⟩], .launch, .queue 2,
        .finish "s" (.failed (.sourceFailed "s" "down")), .settle, .enter []].map
          fun e => (⟨0, 0⟩, "db/a", e)
    c.answer? 1 = some (.error (.metricsUnavailable .primaries))
      ∧ c.answer? 2 = some (.error (.metricsUnavailable .secondaries)) := by
  refine ⟨?_, ?_⟩ <;> with_unfolding_all rfl

end Collector

end ClusterScaling
