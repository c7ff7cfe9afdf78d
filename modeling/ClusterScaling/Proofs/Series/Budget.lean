import Mathlib.Data.List.Induction
import ClusterScaling.Proofs.Cycle.Landing
import ClusterScaling.Proofs.Cycle.Retention
import ClusterScaling.Proofs.Series.Cooldown

/-!
# What a policy lets the secondaries move in a period

A policy grants an allowance per period, and a cycle only looks at what is
left of it. Over a run this comes to a bound on every span of time as long
as the period, not only on those that end with a cycle: the last move
inside a span keeps to the allowance together with what has moved in the
period before it, and that period reaches back to the start of the span or
beyond (`Series.sum_inSpan_le`). For this the moves before it have to be
remembered. They are not too old, since moves are kept as long as any rule
looks back, and there is room for them as long as no more cycles commit
within a period than there is room for moves.

An allowance in replicas is the same at all times, so it bounds what moves
in any period. An allowance in percent goes with the live count, and what
it bounds is measured by the last of the moves: what a tier has grown by
is itself a reason for it to grow further before the period is over.
-/

namespace ClusterScaling

/-! ## The moves within a span of time -/

/-- Whether a moment lies within a duration from another one on, both ends included. -/
def Duration.covers (length : Duration) (start : Nat) (t : UInt64) : Bool :=
  start ≤ t.toNat && t.toNat ≤ start + length.millis

theorem Duration.covers_iff {length : Duration} {start : Nat} {t : UInt64} :
    length.covers start t = true ↔ start ≤ t.toNat ∧ t.toNat ≤ start + length.millis := by
  rw [covers, Bool.and_eq_true, decide_eq_true_eq, decide_eq_true_eq]

/-- A window that is as long as a span reaches back from within the span to its start. -/
theorem History.since_le_of_covers {age length : Duration} {start : Nat} {now : UInt64}
    (hlength : length.millis ≤ age.millis) (hfits : age.millis < UInt64.size)
    (hcovers : length.covers start now = true) : since now age ≤ start := by
  have hend := (Duration.covers_iff.mp hcovers).2
  have hmillis : age.clockMillis.toNat = age.millis := UInt64.toNat_ofNat_of_lt' hfits
  unfold since
  omega

namespace Move

/-- How many replicas several moves have moved. -/
def sum (ms : List Move) : Nat := (ms.map magnitude).foldr (· + ·) 0

/-- The moves in a direction within a span of time. -/
def inSpan (d : Action) (length : Duration) (start : Nat) (ms : List Move) : List Move :=
  ms.filter fun m => m.action = d && length.covers start m.timestamp

theorem sum_append (as bs : List Move) : sum (as ++ bs) = sum as + sum bs := by
  unfold sum
  rw [← List.sum_eq_foldr, ← List.sum_eq_foldr, ← List.sum_eq_foldr, List.map_append,
    List.sum_append_nat]

/-- Moves in the order of their times are those before a moment and then those from it on. -/
theorem exists_older_latest (start : Nat) {ms : List Move}
    (hsorted : (ms.map timestamp).Pairwise (· ≤ ·)) :
    ∃ older latest, ms = older ++ latest ∧ (∀ m ∈ older, m.timestamp.toNat < start)
      ∧ ∀ m ∈ latest, start ≤ m.timestamp.toNat := by
  induction ms with
  | nil => exact ⟨[], [], rfl, nofun, nofun⟩
  | cons m ms ih =>
    rw [List.map_cons, List.pairwise_cons] at hsorted
    by_cases hm : start ≤ m.timestamp.toNat
    · refine ⟨[], m :: ms, rfl, nofun, List.forall_mem_cons.mpr ⟨hm, fun n hn => ?_⟩⟩
      exact Nat.le_trans hm (UInt64.le_iff_toNat_le.mp
        (hsorted.1 n.timestamp (List.mem_map_of_mem hn)))
    · obtain ⟨older, latest, rfl, holder, hlatest⟩ := ih hsorted.2
      exact ⟨m :: older, latest, rfl,
        List.forall_mem_cons.mpr ⟨Nat.lt_of_not_le hm, holder⟩, hlatest⟩

/-- The moves within a span are those from its start on, if none of them is after its end. -/
theorem inSpan_older_latest {d : Action} {length : Duration} {start : Nat} {older latest : List Move}
    (holder : ∀ m ∈ older, m.timestamp.toNat < start)
    (hlatest : ∀ m ∈ latest, length.covers start m.timestamp = true) :
    inSpan d length start (older ++ latest) = latest.filter fun m => m.action = d := by
  have hnone : inSpan d length start older = [] := by
    refine List.filter_eq_nil_iff.mpr fun m hm hin => ?_
    rw [Bool.and_eq_true, Duration.covers_iff] at hin
    exact absurd hin.2.1 (Nat.not_le.mpr (holder m hm))
  have hall : inSpan d length start latest = latest.filter fun m => m.action = d :=
    List.filter_congr fun m hm => by rw [hlatest m hm, Bool.and_true]
  unfold inSpan at hnone hall ⊢
  rw [List.filter_append, hnone, hall, List.nil_append]

end Move

/-- Moves that a history ends with and that lie in the period of a policy count against its
allowance. -/
theorem StepPolicy.sum_le_moved {p : StepPolicy} {h : History} {now : UInt64} {latest : List Move}
    (hsuffix : latest <:+ h.moves)
    (hperiod : ∀ m ∈ latest, History.since now p.period ≤ m.timestamp.toNat) (d : Action) :
    Move.sum (latest.filter fun m => m.action = d) ≤ p.moved d h now := by
  obtain ⟨older, holder⟩ := hsuffix
  have hall : (latest.filter fun m => decide (History.since now p.period ≤ m.timestamp.toNat))
      = latest := List.filter_eq_self.mpr fun m hm => decide_eq_true (hperiod m hm)
  show _ ≤ Move.sum ((h.within now p.period).filter fun m => m.action = d)
  rw [History.within, ← holder, List.filter_append, hall, List.filter_append, Move.sum_append]
  exact Nat.le_add_left _ _

/-! ## Runs on which a budget is kept -/

/-- A run on which policies can keep to their budgets. Only cycles that commit count. -/
structure Series.Steady (s : Settings) (length : Duration) (room : Nat) (rs : List Round) :
    Prop where
  /-- The clock does not run backwards. -/
  sorted : ((rs.filter Round.commits).map Round.now).Pairwise (· ≤ ·)
  /-- The secondaries are within their bounds. -/
  bounds : ∀ r ∈ rs, r.commits = true → s.Bounds r.live
  /-- Within no span of the given length do more cycles commit than there is room for moves. -/
  room_le : ∀ start, rs.countP (fun r => r.commits && length.covers start r.now) ≤ room

namespace Series

variable {s : Settings} {cluster : String} {h : ClusterHistory} {d : Action} {p : StepPolicy}

theorem Steady.of_append {length : Duration} {room : Nat} {rs ts : List Round}
    (hs : Steady s length room (rs ++ ts)) : Steady s length room rs where
  sorted := by
    have hsorted := hs.sorted
    rw [List.filter_append, List.map_append] at hsorted
    exact (List.pairwise_append.mp hsorted).1
  bounds := fun r hr => hs.bounds r (List.mem_append_left ts hr)
  room_le := fun start => by
    have hroom := hs.room_le start
    rw [List.countP_append] at hroom
    exact Nat.le_trans (Nat.le_add_right _ _) hroom

theorem Steady.mono {length : Duration} {room more : Nat} {rs : List Round}
    (hs : Steady s length room rs) (hmore : room ≤ more) : Steady s length more rs :=
  { hs with room_le := fun start => Nat.le_trans (hs.room_le start) hmore }

/-- No move of a steady run is later than a cycle that commits after it. -/
theorem Steady.timestamp_le {length : Duration} {room : Nat} {rs : List Round} {r : Round}
    (hs : Steady s length room (rs ++ [r])) (hr : r.commits = true) {t : Tier} {m : Move}
    (hm : m ∈ moves s cluster t h rs) : m.timestamp ≤ r.now := by
  have hsorted := hs.sorted
  rw [List.filter_append, List.map_append, List.pairwise_append,
    ← map_timestamp_moves s cluster h t] at hsorted
  have hlast : r ∈ [r].filter Round.commits := List.mem_filter.mpr ⟨List.mem_cons_self, hr⟩
  exact hsorted.2.2 _ (List.mem_map_of_mem hm) _ (List.mem_map_of_mem hlast)

/-- So many moves of a steady run lie within a span. -/
theorem Steady.length_le {length : Duration} {room : Nat} {rs : List Round}
    (hs : Steady s length room rs) {t : Tier} {older latest : List Move}
    (hmoves : moves s cluster t h rs = older ++ latest) {start : Nat}
    (hlatest : ∀ m ∈ latest, length.covers start m.timestamp = true) : latest.length ≤ room :=
  calc latest.length
      = latest.countP (fun m => length.covers start m.timestamp) :=
        (List.countP_eq_length.mpr hlatest).symm
    _ ≤ (moves s cluster t h rs).countP (fun m => length.covers start m.timestamp) := by
        rw [hmoves, List.countP_append]
        exact Nat.le_add_left _ _
    _ = rs.countP (fun r => r.commits && length.covers start r.now) :=
        countP_moves s cluster h t (length.covers start) rs
    _ ≤ room := hs.room_le start

/-- **A move keeps to the allowance together with what has moved in its direction since the start
of a span that is as long as the period.** -/
theorem sum_inSpan_add_le (hd : d ≠ .hold)
    (hp : p ∈ (s.tiers.secondaries.stepping.rules d).policies)
    (hheeds : (s.tiers.secondaries.stepping.rules d).Heeds p)
    (hfits : (Cycle.retention s).millis < UInt64.size) {rs : List Round} {r : Round}
    (hs : Steady s p.period h.secondaries.capacity (rs ++ [r])) (hr : r.commits = true)
    (haction : (r.move s cluster (after s cluster h rs) .secondaries).action = d) {start : Nat}
    (hcovers : p.period.covers start r.now = true) :
    Move.sum (Move.inSpan d p.period start (moves s cluster .secondaries h rs))
        + (r.move s cluster (after s cluster h rs) .secondaries).magnitude
      ≤ p.allowance r.live.replicas.secondaries := by
  have hmillis : p.period.millis ≤ (Cycle.retention s).millis :=
    Nat.div_le_div_right (Cycle.period_le_retention s .secondaries d hp)
  have hsorted : ((moves s cluster .secondaries h rs).map Move.timestamp).Pairwise (· ≤ ·) := by
    rw [map_timestamp_moves]
    exact hs.of_append.sorted
  obtain ⟨older, latest, hmoves, holder, hlatest⟩ := Move.exists_older_latest start hsorted
  -- the moves from the start of the span on lie in it, since the last cycle does
  have hin : ∀ m ∈ latest, p.period.covers start m.timestamp = true := fun m hm => by
    have hmem : m ∈ moves s cluster .secondaries h rs := hmoves ▸ List.mem_append_right older hm
    have hle := hs.timestamp_le hr hmem
    exact Duration.covers_iff.mpr ⟨hlatest m hm,
      Nat.le_trans (UInt64.le_iff_toNat_le.mp hle) (Duration.covers_iff.mp hcovers).2⟩
  -- and they are remembered, for there is room for them and none is too old
  have hsuffix : latest <:+ ((after s cluster h rs).get .secondaries).moves := by
    rw [get_after, hmoves]
    refine History.suffix_moves_keepAll _ older (hs.of_append.length_le hmoves hin)
      fun m hm new hnew => ?_
    exact Nat.le_trans (History.since_le_of_covers hmillis hfits (hin new hnew)) (hlatest m hm)
  have hmoved : Move.sum (latest.filter fun m => m.action = d)
      ≤ p.moved d ((after s cluster h rs).get .secondaries) r.now := by
    refine p.sum_le_moved hsuffix (fun m hm => ?_) d
    exact Nat.le_trans (History.since_le_of_covers (Nat.le_refl _)
      (Nat.lt_of_le_of_lt hmillis hfits) hcovers) (hlatest m hm)
  rw [hmoves, Move.inSpan_older_latest holder hin]
  exact Nat.le_trans (Nat.add_le_add_right hmoved _)
    (Cycle.moved_add_le (hs.bounds r (List.mem_append_right rs List.mem_cons_self) hr) hd hheeds
      haction)

/-- One more cycle adds its move to those within a span, if it commits and the move is one of
them. -/
theorem inSpan_snoc (length : Duration) (start : Nat) (t : Tier) (rs : List Round) (r : Round) :
    Move.inSpan d length start (moves s cluster t h (rs ++ [r]))
      = Move.inSpan d length start (moves s cluster t h rs)
        ++ if r.commits = true ∧ (r.move s cluster (after s cluster h rs) t).action = d
            ∧ length.covers start r.now = true
          then [r.move s cluster (after s cluster h rs) t] else [] := by
  have hlast : moves s cluster t (after s cluster h rs) [r]
      = if r.commits then [r.move s cluster (after s cluster h rs) t] else [] := List.append_nil _
  rw [moves_append, hlast, Move.inSpan, Move.inSpan, List.filter_append]
  cases r.commits with
  | false => simp
  | true => simp [List.filter_cons]

/-- **A policy that is heeded bounds what moves within its period**: the moves in a direction within
a span as long as the period come to no more than the policy allows at the last of them. -/
theorem sum_inSpan_le (hd : d ≠ .hold)
    (hp : p ∈ (s.tiers.secondaries.stepping.rules d).policies)
    (hheeds : (s.tiers.secondaries.stepping.rules d).Heeds p)
    (hfits : (Cycle.retention s).millis < UInt64.size) {rs : List Round}
    (hs : Steady s p.period h.secondaries.capacity rs) (start : Nat) {last : Move}
    (hlast : (Move.inSpan d p.period start (moves s cluster .secondaries h rs)).getLast?
      = some last) :
    Move.sum (Move.inSpan d p.period start (moves s cluster .secondaries h rs))
      ≤ p.allowance last.before := by
  induction rs using List.reverseRecOn with
  | nil => cases hlast
  | append_singleton rs r ih =>
    rw [inSpan_snoc] at hlast ⊢
    by_cases hin : r.commits = true
        ∧ (r.move s cluster (after s cluster h rs) .secondaries).action = d
        ∧ p.period.covers start r.now = true
    · -- the last move is the one that is made now
      rw [if_pos hin, List.getLast?_concat, Option.some_inj] at hlast
      rw [if_pos hin, Move.sum_append, ← hlast]
      exact sum_inSpan_add_le hd hp hheeds hfits hs hin.1 hin.2.1 hin.2.2
    · rw [if_neg hin, List.append_nil] at hlast ⊢
      exact ih hs.of_append hlast

end Series

/-! ## Allowances in replicas -/

/-- **A policy in replicas is a bound on every period.** If the rules of a direction choose the
least of their policies, the secondaries never move more in that direction than one of them grants,
in any span of time as long as its period. -/
theorem pods_within_period {s : Settings} {d : Action} (hd : d ≠ .hold)
    (hchoice : (s.tiers.secondaries.stepping.rules d).choice = .min) {p : StepPolicy}
    (hp : p ∈ (s.tiers.secondaries.stepping.rules d).policies) (hkind : p.kind = .pods)
    (hfits : (Cycle.retention s).millis < UInt64.size) (cluster : String) {rs : List Round}
    (hs : Series.Steady s p.period s.engine.historyCapacity.toNat rs) (start : Nat) :
    Move.sum (Move.inSpan d p.period start
        (Series.moves s cluster .secondaries (.empty s.engine.historyCapacity) rs))
      ≤ p.value.toNat := by
  cases hlast : (Move.inSpan d p.period start
      (Series.moves s cluster .secondaries (.empty s.engine.historyCapacity) rs)).getLast? with
  | none =>
    rw [List.getLast?_eq_none_iff.mp hlast]
    exact Nat.zero_le _
  | some last =>
    rw [← StepPolicy.allowance_of_pods last.before hkind]
    exact Series.sum_inSpan_le hd hp (StepRules.heeds_of_min hchoice hp) hfits
      (hs.mono (Nat.le_max_left _ _)) start hlast

/-- Settings without a cooldown that limit how the secondaries grow. -/
def Settings.growing (rules : StepRules) : Settings :=
  let s := Settings.onCpu .zero
  { s with
    tiers := s.tiers.set .secondaries { s.tiers.secondaries with stepping := ⟨rules, .usual⟩ } }

/-- At most three replicas are added in a minute, and at most two in half a minute. -/
def StepRules.metered : StepRules :=
  ⟨.zero, [⟨.pods, 3, .ofSeconds 60⟩, ⟨.pods, 2, .ofSeconds 30⟩], .min⟩

/-- Two overloaded secondaries become four, and forty seconds later these become five. The three
that are added in this minute are as many as there may be. -/
theorem pods_within_period_metered :
    let s := Settings.growing .metered
    let rs := [Round.loaded 700.0 2 1000000, Round.loaded 700.0 4 1040000]
    s.check = .ok () ∧ (Cycle.retention s).millis < UInt64.size
      ∧ Series.Steady s (.ofSeconds 60) s.engine.historyCapacity.toNat rs
      ∧ (Series.moves s "db/main" .secondaries (.empty s.engine.historyCapacity) rs).map
          (·.after) = [4, 5]
      ∧ Move.sum (Move.inSpan .scaleUp (.ofSeconds 60) 1000000
          (Series.moves s "db/main" .secondaries (.empty s.engine.historyCapacity) rs)) ≤ 3 := by
  intro s rs
  have hcheck : (Settings.growing .metered).check = .ok () := rfl
  have hfits : (Cycle.retention s).millis < UInt64.size := by decide
  have hs : Series.Steady s (.ofSeconds 60) s.engine.historyCapacity.toNat rs :=
    ⟨by decide, by decide, fun start => Nat.le_trans List.countP_le_length (by decide)⟩
  exact ⟨hcheck, hfits, hs, by decide +kernel,
    pods_within_period (p := ⟨.pods, 3, .ofSeconds 60⟩) (by decide) rfl List.mem_cons_self rfl hfits
      "db/main" hs 1000000⟩

/-! ## Allowances in percent -/

/-- **A policy in percent bounds a period by the last of its moves.** If the secondaries may be
added to by a single policy in percent, then the replicas that are added in a span of time as long
as its period come to no more than this share of the replicas that there are before the last of
them are added, or to a single one. -/
theorem percent_within_period {s : Settings} {p : StepPolicy}
    (hpolicies : s.tiers.secondaries.stepping.up.policies = [p]) (hkind : p.kind = .percent)
    (hfits : (Cycle.retention s).millis < UInt64.size) (cluster : String) {rs : List Round}
    (hs : Series.Steady s p.period s.engine.historyCapacity.toNat rs) (start : Nat) {last : Move}
    (hlast : (Move.inSpan .scaleUp p.period start
        (Series.moves s cluster .secondaries (.empty s.engine.historyCapacity) rs)).getLast?
      = some last) :
    Move.sum (Move.inSpan .scaleUp p.period start
        (Series.moves s cluster .secondaries (.empty s.engine.historyCapacity) rs))
      ≤ max 1 ((last.before.toNat * p.value.toNat + 99) / 100) := by
  have hp : p ∈ (s.tiers.secondaries.stepping.rules .scaleUp).policies := by
    show p ∈ s.tiers.secondaries.stepping.up.policies
    rw [hpolicies]
    exact List.mem_cons_self
  refine Nat.le_trans ?_ (StepPolicy.allowance_le_of_percent last.before hkind)
  have hheeds : (s.tiers.secondaries.stepping.rules .scaleUp).Heeds p :=
    StepRules.heeds_of_single hpolicies
  exact Series.sum_inSpan_le (by decide) hp hheeds hfits
    (hs.mono (Nat.le_max_left _ _)) start hlast

/-- At most so many percent are added in a minute. -/
def StepRules.sharing (percent : UInt32) : StepRules :=
  ⟨.zero, [⟨.percent, percent, .ofSeconds 60⟩], .max⟩

/-- Two overloaded secondaries become three, and ten seconds later these become four. The two that
are added in this minute are half of three, rounded up. -/
theorem percent_within_period_sharing :
    let s := Settings.growing (.sharing 50)
    let rs := [Round.loaded 700.0 2 1000000, Round.loaded 700.0 3 1010000]
    let added := Move.inSpan .scaleUp (.ofSeconds 60) 1000000
      (Series.moves s "db/main" .secondaries (.empty s.engine.historyCapacity) rs)
    s.check = .ok () ∧ (Cycle.retention s).millis < UInt64.size
      ∧ Series.Steady s (.ofSeconds 60) s.engine.historyCapacity.toNat rs
      ∧ added.getLast? = some ⟨.scaleUp, 3, 4, 1010000⟩
      ∧ Move.sum added = 2 ∧ Move.sum added ≤ max 1 ((3 * 50 + 99) / 100) := by
  intro s rs added
  have hcheck : (Settings.growing (.sharing 50)).check = .ok () := rfl
  have hfits : (Cycle.retention s).millis < UInt64.size := by decide
  have hs : Series.Steady s (.ofSeconds 60) s.engine.historyCapacity.toNat rs :=
    ⟨by decide, by decide, fun start => Nat.le_trans List.countP_le_length (by decide)⟩
  have hlast : added.getLast? = some ⟨.scaleUp, 3, 4, 1010000⟩ := by decide +kernel
  exact ⟨hcheck, hfits, hs, hlast, by decide +kernel,
    percent_within_period (p := ⟨.percent, 50, .ofSeconds 60⟩) rfl rfl hfits "db/main" hs 1000000
      hlast⟩

/-- **What a tier has grown by counts towards its growth**: two overloaded secondaries that may grow
by their own number in a minute become four, and ten seconds later, with the first decision carried
out, these become six. The four that are added are more than the two that there were at the
start. -/
theorem sharing_compounds :
    let s := Settings.growing (.sharing 100)
    let first := Round.loaded 700.0 2 1000000
    let second := Round.loaded 700.0 4 1010000
    let moves := Series.moves s "db/main" .secondaries (.empty s.engine.historyCapacity)
      [first, second]
    s.check = .ok ()
      ∧ Series.Steady s (.ofSeconds 60) (s.engine.historyCapacity.toNat - 1) [first, second]
      ∧ moves.map (fun m => (m.before, m.after)) = [(2, 4), (4, 6)]
      ∧ ¬ Move.sum (Move.inSpan .scaleUp (.ofSeconds 60) 1000000 moves)
          ≤ max 1 ((first.live.replicas.secondaries.toNat * 100 + 99) / 100) :=
  ⟨rfl, ⟨by decide, by decide, fun start => Nat.le_trans List.countP_le_length (by decide)⟩,
    by decide +kernel, by decide +kernel⟩

end ClusterScaling
