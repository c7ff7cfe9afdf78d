import ClusterScaling.Proofs.Collector.Memory

/-!
# Snapshots are fresh

A caller that gets the lock is served in one of three ways: it shares the
result of a fetch, it is told the cached snapshot, or it fetches for
itself (`Slot.Served`). So whatever snapshot a caller is told, a fetch of
its cluster has produced it. Either that fetch completed after the caller
had arrived, or it completed less than the lifetime of a cached snapshot
before the answer, and the snapshot was not dropped in between
(`Slot.Stems`).

What this means for a caller that arrives after the cached snapshot was
dropped rests on the lock. While a fetch is in flight its caller holds the
lock, and nothing is dropped without the lock, so a drop comes before the
beginning of a fetch or after its end. A drop that comes before the caller
and not after the end thus comes before the beginning.
-/

namespace ClusterScaling

namespace Slot

variable {c : CollectorSettings} {log : Log} {s : Slot}

/-- Whoever begins a fetch has arrived before. -/
theorem Past.arrived_of_began (hpast : Past c log s) {b call : Nat}
    (h : Saw log b (.began call)) : ∃ a, a < b ∧ Saw log a (.arrived call) := by
  obtain ⟨now, hb⟩ := h
  obtain ⟨before, after, hbefore, ht, -⟩ := hpast.at hb
  cases ht with
  | begin _ _ _ hqueue =>
    obtain ⟨a, ha, -⟩ := hbefore.arrived_of_mem (hqueue ▸ List.mem_cons_self)
    exact ⟨a, saw_take.mp ha⟩

/-- If more fetches have been completed than up to a position, one was seen to complete from there
on. -/
theorem exists_completion {a : Nat} (h : completions log ≠ completions (log.take a)) :
    ∃ q sight, a ≤ q ∧ Saw log q sight ∧ sight.isCompletion = true := by
  have hsplit : completions log = completions (log.take a) + completions (log.drop a) := by
    unfold completions
    rw [← List.countP_append, List.take_append_drop]
  have hpos : 0 < completions (log.drop a) := by omega
  obtain ⟨⟨now, sight⟩, hmem, hsight⟩ := List.countP_pos_iff.mp hpos
  obtain ⟨n, hn⟩ := List.mem_iff_getElem?.mp hmem
  rw [List.getElem?_drop] at hn
  exact ⟨a + n, sight, Nat.le_add_right a n, ⟨now, hn⟩, hsight⟩

/-- **A caller that finds more fetches completed than on its arrival is told the result of the
latest**, which completed after it had arrived. -/
theorem Past.joined (hpast : Past c log s) {a call : Nat} (ha : Saw log a (.arrived call))
    (hcount : s.generation ≠ completions (log.take a)) {result : Except Fault Snapshot}
    (hlast : s.last = some result) :
    ∃ p leader, a < p ∧ Saw log p (.completed leader result)
      ∧ ∀ q sight, p < q → Saw log q sight → sight.isCompletion = false := by
  obtain ⟨p, leader, hp, hlatest⟩ := hpast.last hlast
  rw [hpast.generation] at hcount
  obtain ⟨q, sight, haq, hq, hsight⟩ := exists_completion hcount
  refine ⟨p, leader, ?_, hp, hlatest⟩
  -- the latest completion does not come before this one, and an arrival is no completion
  have hqp : q ≤ p := Nat.le_of_not_lt fun hpq => by
    rw [hlatest q sight hpq hq] at hsight
    cases hsight
  refine Nat.lt_of_le_of_ne (Nat.le_trans haq hqp) ?_
  rintro rfl
  cases ha.unique hp

/-- How a caller is served that gets the lock at a position. -/
inductive Served (c : CollectorSettings) (log : Log) (now : Moment) (j call : Nat) : Prop where
  /-- It is told the result of the latest fetch, which has completed since it arrived. -/
  | joined (a p leader : Nat) (fetched : Moment) (result : Except Fault Snapshot)
      (ha : Saw log a (.arrived call)) (hap : a < p) (hpj : p < j)
      (hp : log[p]? = some (fetched, .completed leader result))
      (hlatest : ∀ q sight, p < q → q < j → Saw log q sight → sight.isCompletion = false)
      (htold : Saw log j (.shared call result))
  /-- It is told the cached snapshot, which is young and was not dropped. -/
  | cached (a p leader : Nat) (fetched : Moment) (snapshot : Snapshot)
      (ha : Saw log a (.arrived call)) (haj : a < j) (hpj : p < j)
      (hp : log[p]? = some (fetched, .completed leader (.ok snapshot)))
      (hyoung : now.clock - fetched.clock < c.cacheTtl.nanos)
      (hkept : ∀ d, p < d → d < j → ¬ Saw log d .dropped)
      (htold : Saw log j (.shared call (.ok snapshot)))
  /-- It starts a fetch of its own. -/
  | own (hbegan : Saw log j (.began call))

/-- **Whoever gets the lock is served.** -/
theorem Past.served {j : Nat} {now : Moment} {sight : Sight} {s' : Slot}
    (hbefore : Past c (log.take j) s) (hj : log[j]? = some (now, sight))
    (ht : Transition c now s s' sight) (hhands : sight.handsOver = true) {call observed : Nat}
    {rest : List Waiter} (hqueue : s.queue = .collect call observed :: rest) :
    Served c log now j call := by
  obtain ⟨a, ha, hobserved⟩ := hbefore.arrived_of_mem (hqueue ▸ List.mem_cons_self)
  obtain ⟨haj, ha'⟩ := saw_take.mp ha
  cases ht with
  | share _ _ result _ hqueue' _ _ hready =>
    cases hqueue.symm.trans hqueue'
    cases hready with
    | joined _ hcount hlast =>
      obtain ⟨p, leader, hap, ⟨fetched, hp⟩, hlatest⟩ :=
        hbefore.joined ha (hobserved ▸ hcount) hlast
      have hpj : p < j := (saw_take.mp (Saw.of_getElem? hp)).1
      rw [List.getElem?_take_of_lt hpj] at hp
      exact .joined a p leader fetched result ha' hap hpj hp (fun q sight hpq hqj hsaw =>
        hlatest q sight hpq (saw_take.mpr ⟨hqj, hsaw⟩)) (.of_getElem? hj)
    | cached k _ hcached hyoung =>
      obtain ⟨p, fetched, leader, hp, hclock, hkept⟩ := hbefore.cached hcached
      have hpj : p < j := (saw_take.mp (Saw.of_getElem? hp)).1
      rw [List.getElem?_take_of_lt hpj] at hp
      exact .cached a p leader fetched k.snapshot ha' haj hpj hp (hclock ▸ hyoung)
        (fun d hpd hdj hsaw => hkept d hpd (saw_take.mpr ⟨hdj, hsaw⟩)) (.of_getElem? hj)
  | begin _ _ _ hqueue' =>
    cases hqueue.symm.trans hqueue'
    exact .own (.of_getElem? hj)
  | drop _ hqueue' => cases hqueue.symm.trans hqueue'
  | _ => cases hhands

/-- Where the snapshot comes from that a caller is told: a fetch that completed after it had
arrived and was the latest, or one that completed not long ago, while the snapshot was not dropped
since. -/
inductive Stems (c : CollectorSettings) (log : Log) (a p i : Nat) (fetched now : Moment) :
    Prop where
  /-- The fetch completed after the arrival. -/
  | joined (hap : a < p)
      (hlatest : ∀ q sight, p < q → q < i → Saw log q sight → sight.isCompletion = false)
  /-- The fetch completed not long ago. -/
  | cached (hyoung : now.clock - fetched.clock < c.cacheTtl.nanos)
      (hkept : ∀ d, p < d → d < i → ¬ Saw log d .dropped)

/-- **Every snapshot that a caller is told stems from a fetch.** -/
theorem Past.stems (hpast : Past c log s) {call a i : Nat} {now : Moment} {sight : Sight}
    {snapshot : Snapshot} (harrives : ArrivesOnce log call a) (hi : log[i]? = some (now, sight))
    (hsight : sight.answer? = some ⟨call, .ok snapshot⟩) :
    a < i ∧ ∃ p leader fetched, log[p]? = some (fetched, .completed leader (.ok snapshot))
      ∧ p ≤ i ∧ Stems c log a p i fetched now := by
  obtain ⟨before, after, hbefore, ht, -⟩ := hpast.at hi
  cases sight with
  | shared other result =>
    cases hsight
    have hserved : Served c log now i call := by
      have hshared := ht
      cases ht with
      | share _ _ _ _ hqueue => exact hbefore.served hi hshared rfl hqueue
    cases hserved with
    | joined a' p leader fetched _ ha hap hpi hp hlatest htold =>
      cases htold.unique (.of_getElem? hi)
      cases harrives.eq ha
      exact ⟨Nat.lt_trans hap hpi, p, leader, fetched, hp, Nat.le_of_lt hpi, .joined hap hlatest⟩
    | cached a' p leader fetched _ ha hai hpi hp hyoung hkept htold =>
      cases htold.unique (.of_getElem? hi)
      cases harrives.eq ha
      exact ⟨hai, p, leader, fetched, hp, Nat.le_of_lt hpi, .cached hyoung hkept⟩
    | own hbegan => cases hbegan.unique (.of_getElem? hi)
  | completed other result =>
    cases hsight
    -- the caller has fetched for itself, so it arrived before its fetch began
    obtain ⟨b, hflight⟩ := hpast.inFlight_of_completed (Saw.of_getElem? hi)
    obtain ⟨a', hab, ha⟩ := hpast.arrived_of_began hflight.began
    cases harrives.eq ha
    have hai : a < i := Nat.lt_trans hab hflight.lt
    exact ⟨hai, i, call, now, hi, Nat.le_refl i, .joined hai fun q sight hiq hqi => by omega⟩
  | _ => cases hsight

/-- **A drop before the arrival comes before the beginning of the fetch** from which the snapshot
stems. -/
theorem Past.dropped_lt (hpast : Past c log s) {a b d i leader p : Nat} {fetched now : Moment}
    {result : Except Fault Snapshot} (hflight : InFlight log b leader p)
    (hp : Saw log p (.completed leader result)) (hstems : Stems c log a p i fetched now)
    (hai : a < i) (hda : d < a) (hd : Saw log d .dropped) : d < b := by
  have hdp : d ≤ p := by
    cases hstems with
    | joined hap => exact Nat.le_of_lt (Nat.lt_trans hda hap)
    | cached _ hkept => exact Nat.le_of_not_lt fun hpd => hkept d hpd (Nat.lt_trans hda hai) hd
  have hlt : d < p := Nat.lt_of_le_of_ne hdp fun heq => by
    subst heq
    cases hd.unique hp
  refine Nat.lt_of_le_of_ne (Nat.le_of_not_lt fun hbd => ?_) fun heq => ?_
  · cases hpast.not_handsOver hflight hbd hlt hd
  · subst heq
    cases hd.unique hflight.began

end Slot

namespace Collector

open Slot

/-- **Snapshots are fresh.** Whatever happens to a collector, in whatever order, a snapshot that a
caller is told was produced by a completed fetch of the same cluster. Either that fetch completed
after the caller had arrived, or less than the lifetime of cached snapshots ago, and the cached
snapshot was not dropped since. So the fetch did not begin before any drop that the caller came
after, and a snapshot that is told although a later fetch has failed has not outlived its time. -/
theorem snapshots_fresh (settings : CollectorSettings) (key : String) (es : List Happening)
    {call a i : Nat} {now : Moment} {snapshot : Snapshot}
    (harrives : ArrivesOnce ((start settings).watch key es) call a)
    (htold : (start settings).Tells key es i now ⟨call, .ok snapshot⟩) :
    let log := (start settings).watch key es
    ∃ b p leader fetched, InFlight log b leader p
      ∧ log[p]? = some (fetched, .completed leader (.ok snapshot)) ∧ p ≤ i
      ∧ (a < p ∨ now.clock - fetched.clock < settings.cacheTtl.nanos
          ∧ ∀ d, p < d → d < i → ¬ Saw log d .dropped)
      ∧ (∀ d, d < a → Saw log d .dropped → d < b)
      ∧ ∀ q other fault, p < q → q < i → Saw log q (.completed other (.error fault)) →
          now.clock - fetched.clock < settings.cacheTtl.nanos := by
  intro log
  have hpast := past_watch settings key es
  obtain ⟨sight, hi, hsight⟩ := (tells_iff _ key).mp htold
  obtain ⟨hai, p, leader, fetched, hp, hpi, hstems⟩ := hpast.stems harrives hi hsight
  obtain ⟨b, hflight⟩ := hpast.inFlight_of_completed (Saw.of_getElem? hp)
  refine ⟨b, p, leader, fetched, hflight, hp, hpi, ?_, ?_, ?_⟩
  · cases hstems with
    | joined hap => exact .inl hap
    | cached hyoung hkept => exact .inr ⟨hyoung, hkept⟩
  · intro d hda hd
    exact hpast.dropped_lt hflight (Saw.of_getElem? hp) hstems hai hda hd
  · intro q other fault hpq hqi hq
    cases hstems with
    | joined _ hlatest => cases hlatest q _ hpq hqi hq
    | cached hyoung => exact hyoung

/-- A drop that is asked for while a fetch is in flight waits for its end. A caller that comes after
the drop is told the cached snapshot of another fetch, which began after the drop. -/
theorem snapshots_fresh_afterDrop :
    let es : List Happening :=
      [(⟨0, 0⟩, "db/a", .arrive 1), (⟨0, 0⟩, "db/a", .queue 1), (⟨0, 0⟩, "db/b", .arrive 1),
        (⟨1, 0⟩, "db/a", .enter [⟨"p", .primaries⟩]), (⟨1, 0⟩, "db/a", .askDrop),
        (⟨1, 0⟩, "db/a", .launch), (⟨2, 1⟩, "db/a", .finish "p" (.reported [])),
        (⟨2, 1⟩, "db/a", .settle), (⟨2, 1⟩, "db/a", .enter []), (⟨3, 2⟩, "db/a", .arrive 2),
        (⟨3, 2⟩, "db/a", .queue 2), (⟨3, 2⟩, "db/a", .enter [⟨"p", .primaries⟩]),
        (⟨3, 2⟩, "db/a", .launch), (⟨4, 3⟩, "db/a", .finish "p" (.reported [])),
        (⟨4, 3⟩, "db/a", .settle), (⟨5, 4⟩, "db/a", .arrive 3), (⟨5, 4⟩, "db/a", .queue 3),
        (⟨5, 4⟩, "db/a", .enter [])]
    let log := (start .usual).watch "db/a" es
    Saw log 8 .dropped ∧ ∃ b p leader fetched, 8 < b ∧ InFlight log b leader p
      ∧ log[p]? = some (fetched, .completed leader (.ok ⟨.both .absent, 3, false⟩)) := by
  intro es log
  have hdropped : Saw log 8 .dropped := ⟨⟨2, 1⟩, by with_unfolding_all rfl⟩
  have harrives : ArrivesOnce log 3 15 :=
    ⟨⟨⟨5, 4⟩, by with_unfolding_all rfl⟩, by with_unfolding_all rfl⟩
  have htold : (start .usual).Tells "db/a" es 17 ⟨5, 4⟩ ⟨3, .ok ⟨.both .absent, 3, false⟩⟩ :=
    ⟨.enter [], rfl, by with_unfolding_all rfl⟩
  obtain ⟨b, p, leader, fetched, hflight, hp, -, -, hbegan, -⟩ :=
    snapshots_fresh .usual "db/a" es harrives htold
  exact ⟨hdropped, b, p, leader, fetched, hbegan 8 (by decide) hdropped, hflight, hp⟩

end Collector

end ClusterScaling
