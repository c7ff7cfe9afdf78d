import ClusterScaling.Proofs.Cycle.LookBack
import ClusterScaling.Proofs.Cycle.Retention
import ClusterScaling.Proofs.Series.Cooldown

/-!
# Nobody misses a move that was forgotten for its age

Moves are lost in two ways: the oldest one when there is no room for
another, and those that are too old when a cycle has committed. The first
way can be observed: a tier may swing because a hold has taken the place
of a change. The second one cannot, as long as the clock does not run
backwards. A series in which no move is ever forgotten for its age has the
same results, word for word (`pruning_unobservable`).

The two series do not hold the same moves, and the one that forgets more
has room left when the other one has to drop its oldest move. But what it
holds is always what is left of the other's moves once the old ones are
forgotten (`History.keep_prune`): a move for which there is no more room
is the oldest one, so if the other history is shorter, it has forgotten
this move before. And no rule looks back further than moves are kept.
-/

namespace ClusterScaling

/-! ## One history -/

namespace History

variable {h : History} {age : Duration} {last now : UInt64} {m : Move}

/-- Whether a move is too old at a time to be kept. -/
def tooOld (now : UInt64) (age : Duration) (m : Move) : Bool := m.timestamp.toNat < since now age

theorem moves_prune_eq (h : History) (now : UInt64) (age : Duration) :
    (h.prune now age).moves = h.moves.dropWhile (tooOld now age) := rfl

/-- At the beginning of time nothing is too old. -/
theorem prune_zero (h : History) (age : Duration) : h.prune 0 age = h := by
  have hnone (m : Move) : ¬ tooOld 0 age m = true := fun hold => by
    have hlt : m.timestamp.toNat < 0 - age.clockMillis.toNat := of_decide_eq_true hold
    omega
  have hmoves : (h.prune 0 age).moves = h.moves := by
    rw [moves_prune_eq]
    cases h.moves with
    | nil => rfl
    | cons m ms => exact List.dropWhile_cons_of_neg (hnone m)
  exact congrArg (fun moves => (⟨h.capacity, moves, h.lastChange⟩ : History)) hmoves

/-- The moves in a window are still there if those that were forgotten are older than it. -/
theorem within_prune {w : Duration} (hle : since last age ≤ since now w) :
    (h.prune last age).within now w = h.within now w := by
  unfold within
  rw [moves_prune_eq]
  induction h.moves with
  | nil => rfl
  | cons m ms ih =>
    cases hm : tooOld last age m with
    | true =>
      have hlt : m.timestamp.toNat < since last age := of_decide_eq_true hm
      rw [List.dropWhile_cons_of_pos hm, ih, List.filter_cons_of_neg]
      exact fun hin => absurd (of_decide_eq_true hin) (by omega)
    | false => rw [List.dropWhile_cons_of_neg (by rw [hm]; exact Bool.false_ne_true)]

/-- Forgetting what is too old makes up for having forgotten less before. -/
theorem dropWhile_tooOld (hle : since last age ≤ since now age) (older newer : List Move) :
    (older.dropWhile (tooOld last age) ++ newer).dropWhile (tooOld now age)
      = (older ++ newer).dropWhile (tooOld now age) := by
  induction older with
  | nil => rfl
  | cons m ms ih =>
    cases hm : tooOld last age m with
    | true =>
      have hnow : tooOld now age m = true :=
        decide_eq_true (Nat.lt_of_lt_of_le (of_decide_eq_true hm) hle)
      rw [List.dropWhile_cons_of_pos hm, ih, List.cons_append, List.dropWhile_cons_of_pos hnow]
    | false => rw [List.dropWhile_cons_of_neg (by rw [hm]; exact Bool.false_ne_true)]

/-- **A history that has forgotten its old moves keeps a move as if it had not**, once the old moves
are forgotten again. -/
theorem keep_prune (hf : h.Fits) (hle : since last age ≤ since m.timestamp age) :
    (h.prune last age).keep age m = (h.push m).prune m.timestamp age := by
  have hmoves : ((h.prune last age).keep age m).moves
      = ((h.push m).prune m.timestamp age).moves := by
    unfold keep push
    rw [moves_prune_eq, moves_prune_eq]
    dsimp only
    rw [moves_prune_eq, capacity_prune]
    by_cases hroom : (h.moves.dropWhile (tooOld last age)).length = h.capacity
    · -- there is no room although the old moves are forgotten, so there were none
      have hsuffix := List.dropWhile_suffix (l := h.moves) (tooOld last age)
      have hall : h.moves.dropWhile (tooOld last age) = h.moves := by
        refine hsuffix.eq_of_length (Nat.le_antisymm hsuffix.length_le ?_)
        rw [hroom]
        exact hf.length_le
      rw [hall]
    · rw [if_neg hroom]
      split
      · next hfull =>
        -- the move for which there is no more room has been forgotten before
        cases hms : h.moves with
        | nil => rfl
        | cons oldest ms =>
          rw [hms] at hroom hfull
          cases hold : tooOld last age oldest with
          | true =>
            rw [List.dropWhile_cons_of_pos hold]
            exact dropWhile_tooOld hle ms [m]
          | false =>
            rw [List.dropWhile_cons_of_neg (by rw [hold]; exact Bool.false_ne_true)] at hroom
            exact absurd hfull hroom
      · exact dropWhile_tooOld hle h.moves [m]
  exact congrArg (fun moves => (⟨h.capacity, moves, _⟩ : History)) hmoves

/-- A later time, or a shorter window, lies closer to the present. -/
theorem since_le_since {w : Duration} (hlast : last ≤ now) (hw : w.nanos ≤ age.nanos)
    (hfits : age.millis < UInt64.size) : since last age ≤ since now w := by
  have hmillis : w.millis ≤ age.millis := Nat.div_le_div_right hw
  have hage : age.clockMillis.toNat = age.millis := UInt64.toNat_ofNat_of_lt' hfits
  have hwindow : w.clockMillis.toNat = w.millis :=
    UInt64.toNat_ofNat_of_lt' (Nat.lt_of_le_of_lt hmillis hfits)
  refine Nat.le_trans (since_mono hlast age) (Nat.sub_le_sub_left ?_ now.toNat)
  rw [hage, hwindow]
  exact hmillis

end History

/-! ## Series in which nothing is forgotten for its age -/

/-- The histories after the decisions of an outcome, if no move is forgotten for its age. -/
def Cycle.rememberAll (live : LiveState) (o : Outcome) (h : ClusterHistory) : ClusterHistory :=
  .ofFun fun t => (h.get t).push (.ofDecision (live.replicas.get t) (o.tiers.get t).decision)

/-- The histories that a cycle leaves, if no move is forgotten for its age. -/
def Round.afterUnpruned (s : Settings) (cluster : String) (h : ClusterHistory) (r : Round) :
    ClusterHistory :=
  if r.commits then Cycle.rememberAll r.live (r.outcome s cluster h) h else h

/-- The histories after a series in which no move is forgotten for its age. -/
def Series.afterUnpruned (s : Settings) (cluster : String) (h : ClusterHistory)
    (rs : List Round) : ClusterHistory :=
  rs.foldl (Round.afterUnpruned s cluster) h

/-- The results of a series in which no move is forgotten for its age. -/
def Series.outcomesUnpruned (s : Settings) (cluster : String) :
    ClusterHistory → List Round → List Outcome
  | _, [] => []
  | h, r :: rs =>
    r.outcome s cluster h :: outcomesUnpruned s cluster (r.afterUnpruned s cluster h) rs

/-- Histories are what is left of others once the moves are forgotten that are too old at a time. -/
structure ClusterHistory.PrunedFrom (s : Settings) (last : UInt64) (h full : ClusterHistory) :
    Prop where
  /-- The old moves of each tier are forgotten. -/
  get_eq : ∀ t, h.get t = (full.get t).prune last (Cycle.retention s)
  /-- The others have no more moves than there is room for. -/
  fits : ∀ t, (full.get t).Fits

namespace Round

variable {s : Settings} {cluster : String} {last : UInt64} {full h : ClusterHistory} {r : Round}
variable (hfits : (Cycle.retention s).millis < UInt64.size) (hp : h.PrunedFrom s last full)
variable (hnow : r.commits = true → last ≤ r.now)

include hfits hp hnow

/-- **A cycle does not miss moves that were forgotten for their age.** -/
theorem outcome_pruned : r.outcome s cluster h = r.outcome s cluster full := by
  cases hcommits : r.commits with
  | false =>
    obtain ⟨live, now, told⟩ := r
    cases told with
    | cancelled => rfl
    | unavailable fault => cases hcommits
    | readings snapshot offered => cases hcommits
  | true =>
    refine Cycle.outcome_congr (fun t => ?_) cluster r.live r.told
    rw [hp.get_eq t]
    refine ⟨rfl, fun w hw => History.within_prune ?_⟩
    exact History.since_le_since (hnow hcommits) (Cycle.lookBack_le_retention s hw) hfits

/-- **What a cycle leaves is pruned from what it would leave** if nothing were forgotten. -/
theorem after_pruned (hcommits : r.commits = true) :
    (r.after s cluster h).PrunedFrom s r.now (r.afterUnpruned s cluster full) := by
  have hmove (t : Tier) : (r.afterUnpruned s cluster full).get t
      = (full.get t).push (r.move s cluster full t) := by
    unfold afterUnpruned Cycle.rememberAll
    rw [if_pos hcommits, PerTier.get_ofFun]
    rfl
  refine ⟨fun t => ?_, fun t => (hmove t).symm ▸ (hp.fits t).push⟩
  have hsame : r.move s cluster h t = r.move s cluster full t := by
    unfold move
    rw [outcome_pruned hfits hp hnow]
  have hlast : History.since last (Cycle.retention s)
      ≤ History.since (r.move s cluster full t).timestamp (Cycle.retention s) := by
    rw [timestamp_move]
    exact History.since_le_since (hnow hcommits) (Nat.le_refl _) hfits
  rw [get_after, if_pos hcommits, hsame, hp.get_eq t, History.keep_prune (hp.fits t) hlast, hmove,
    timestamp_move]

end Round

/-- A series has the results that it would have if nothing were forgotten. -/
theorem Series.outcomes_pruned {s : Settings} (hfits : (Cycle.retention s).millis < UInt64.size)
    (cluster : String) {last : UInt64} {full h : ClusterHistory} (hp : h.PrunedFrom s last full)
    {rs : List Round}
    (hsorted : (last :: (rs.filter Round.commits).map Round.now).Pairwise (· ≤ ·)) :
    outcomes s cluster h rs = outcomesUnpruned s cluster full rs := by
  -- on the cycles, with both histories free: a cycle leaves two of which one is pruned again
  induction rs generalizing last full h with
  | nil => rfl
  | cons r rs ih =>
    rw [List.pairwise_cons] at hsorted
    obtain ⟨hlast, hsorted⟩ := hsorted
    have hnow (hcommits : r.commits = true) : last ≤ r.now := by
      rw [List.filter_cons_of_pos hcommits] at hlast
      exact hlast r.now List.mem_cons_self
    refine List.cons_eq_cons.mpr ⟨Round.outcome_pruned hfits hp hnow, ?_⟩
    cases hcommits : r.commits with
    | true =>
      rw [List.filter_cons_of_pos hcommits] at hsorted
      exact ih (Round.after_pruned hfits hp hnow hcommits) hsorted
    | false =>
      have hskip : ¬ r.commits = true := by rw [hcommits]; exact Bool.false_ne_true
      rw [List.filter_cons_of_neg hskip] at hlast hsorted
      unfold Round.after Round.afterUnpruned
      rw [if_neg hskip, if_neg hskip]
      exact ih hp (List.pairwise_cons.mpr ⟨hlast, hsorted⟩)

/-- **That moves are forgotten for their age cannot be observed.** If the cooldown, the windows and
the periods are no longer than a clock can show, and the clock of the cycles that commit does not
run backwards, a series has the results, with every reason, verdict and zone plan, that it would
have if moves were lost for want of room alone. -/
theorem pruning_unobservable {s : Settings} (hcooldown : s.engine.cooldown.millis < UInt64.size)
    (hlooks : ∀ t, ∀ w ∈ Cycle.lookBack (s.tiers.get t).stepping, w.millis < UInt64.size)
    (cluster : String) (capacity : UInt64) {rs : List Round}
    (hsorted : ((rs.filter Round.commits).map Round.now).Pairwise (· ≤ ·)) :
    Series.outcomes s cluster (.empty capacity) rs
      = Series.outcomesUnpruned s cluster (.empty capacity) rs := by
  have hfits : (Cycle.retention s).millis < UInt64.size :=
    Cycle.millis_retention_lt s hcooldown hlooks
  have hp : (ClusterHistory.empty capacity).PrunedFrom s 0 (.empty capacity) := by
    refine ⟨fun t => (History.prune_zero _ _).symm, fun t => ?_⟩
    unfold ClusterHistory.empty
    rw [PerTier.get_both]
    exact History.fits_empty capacity
  refine Series.outcomes_pruned hfits cluster hp (List.pairwise_cons.mpr ⟨fun now _ => ?_, hsorted⟩)
  exact UInt64.le_iff_toNat_le.mpr (Nat.zero_le _)

/-- Two hours after the first cycle its move is forgotten, or is not, and the second and the third
cycle have the same results either way. -/
theorem pruning_unobservable_onCpu :
    let s := Settings.onCpu (.ofSeconds 300)
    let rs := [Round.loaded 140.0 2 2000000, .loaded 140.0 4 9200000, .loaded 140.0 8 9260000]
    s.engine.cooldown.millis < UInt64.size
      ∧ (∀ t, ∀ w ∈ Cycle.lookBack (s.tiers.get t).stepping, w.millis < UInt64.size)
      ∧ ((rs.filter Round.commits).map Round.now).Pairwise (· ≤ ·)
      ∧ (Series.after s "db/main" (.empty 64) rs).secondaries.moves.length = 2
      ∧ (Series.afterUnpruned s "db/main" (.empty 64) rs).secondaries.moves.length = 3
      ∧ Series.outcomes s "db/main" (.empty 64) rs
          = Series.outcomesUnpruned s "db/main" (.empty 64) rs := by
  intro s rs
  have hcooldown : s.engine.cooldown.millis < UInt64.size := by decide
  have hlooks : ∀ t, ∀ w ∈ Cycle.lookBack (s.tiers.get t).stepping, w.millis < UInt64.size := by
    intro t
    cases t <;> decide
  have hsorted : ((rs.filter Round.commits).map Round.now).Pairwise (· ≤ ·) := by decide
  exact ⟨hcooldown, hlooks, hsorted, by decide +kernel, by decide +kernel,
    pruning_unobservable hcooldown hlooks "db/main" 64 hsorted⟩

end ClusterScaling
