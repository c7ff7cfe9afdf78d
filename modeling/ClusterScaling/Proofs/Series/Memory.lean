import ClusterScaling.Proofs.Cycle.Stages
import ClusterScaling.Proofs.History.Recall
import ClusterScaling.Series

/-!
# What a series remembers

Whatever a cycle decides, it decides as of its time, so the moves that a
series of cycles leaves in the history of a tier are kept one after the
other with the time of each move as the time of keeping
(`Series.get_after`). Cancelled cycles leave no moves. What holds of every
history that is kept in this way therefore holds after every series.
-/

namespace ClusterScaling

variable (s : Settings) (cluster : String) (h : ClusterHistory) (t : Tier)

namespace Round

/-- A move is remembered as of the time of its cycle. -/
@[simp]
theorem timestamp_move (r : Round) : (r.move s cluster h t).timestamp = r.now :=
  Cycle.timestamp_outcome s cluster r.live h r.now t r.told

/-- A cycle that commits keeps its move, and a cancelled one leaves everything as it is. -/
theorem get_after (r : Round) :
    (r.after s cluster h).get t
      = if r.commits then (h.get t).keep (Cycle.retention s) (r.move s cluster h t)
        else h.get t := by
  unfold after Cycle.remember
  split
  · rw [PerTier.get_ofFun, History.keep, timestamp_move]
    rfl
  · rfl

/-- A cancelled cycle changes nothing. -/
theorem commits_of_isChange {r : Round}
    (hr : ((r.outcome s cluster h).tiers.get t).decision.isChange = true) : r.commits = true := by
  obtain ⟨live, now, told⟩ := r
  cases told with
  | cancelled => cases t <;> cases hr
  | unavailable fault => rfl
  | readings snapshot offered => rfl

end Round

namespace Series

/-- **The histories after a series are the histories before it, with the moves of the series
kept.** -/
theorem get_after (rs : List Round) :
    (after s cluster h rs).get t
      = (h.get t).keepAll (Cycle.retention s) (moves s cluster t h rs) := by
  induction rs generalizing h with
  | nil => rfl
  | cons r rs ih =>
    rw [after_cons, ih, Round.get_after]
    show _ = (h.get t).keepAll _ ((if r.commits then [r.move s cluster h t] else []) ++ _)
    cases r.commits with
    | true => rfl
    | false => rfl

/-- The histories with which a cycle of a series starts, if an earlier one commits. -/
theorem get_after_cons {before : List Round} {r : Round} (hr : r.commits = true)
    (between : List Round) :
    (after s cluster h (before ++ r :: between)).get t
      = ((after s cluster h before).get t).keepAll (Cycle.retention s)
          (r.move s cluster (after s cluster h before) t
            :: moves s cluster t (r.after s cluster (after s cluster h before)) between) := by
  rw [after_append, after_cons, get_after, Round.get_after, if_pos hr]
  rfl

/-- The moves of a series are those of its first part and then those of the rest. -/
theorem moves_append (rs ts : List Round) :
    moves s cluster t h (rs ++ ts)
      = moves s cluster t h rs ++ moves s cluster t (after s cluster h rs) ts := by
  induction rs generalizing h with
  | nil => rfl
  | cons r rs ih =>
    show (if r.commits then _ else _) ++ moves s cluster t (r.after s cluster h) (rs ++ ts) = _
    rw [ih, ← List.append_assoc]
    rfl

/-- A series remembers as many moves of a tier as it has cycles that commit. -/
theorem length_moves (rs : List Round) :
    (moves s cluster t h rs).length = rs.countP Round.commits := by
  induction rs generalizing h with
  | nil => rfl
  | cons r rs ih =>
    show ((if r.commits then [r.move s cluster h t] else []) ++ _).length = _
    rw [List.length_append, ih, List.countP_cons, Nat.add_comm]
    cases r.commits with
    | true => rfl
    | false => rfl

/-- **A series remembers one move of a tier for each of its cycles that commit, in their order**:
the move from what was live, as of the time of the cycle. -/
theorem map_moves (rs : List Round) :
    (moves s cluster t h rs).map (fun m => (m.before, m.timestamp))
      = (rs.filter Round.commits).map fun r => (r.live.replicas.get t, r.now) := by
  induction rs generalizing h with
  | nil => rfl
  | cons r rs ih =>
    show ((if r.commits then [r.move s cluster h t] else []) ++ _).map _ = _
    rw [List.map_append, ih, List.filter_cons]
    cases r.commits with
    | true =>
      show (_, (r.move s cluster h t).timestamp) :: _ = _
      rw [Round.timestamp_move]
      rfl
    | false => rfl

/-- The moves of a series have the times of its cycles that commit. -/
theorem map_timestamp_moves (rs : List Round) :
    (moves s cluster t h rs).map Move.timestamp = (rs.filter Round.commits).map Round.now := by
  have hmap := congrArg (List.map Prod.snd) (map_moves s cluster h t rs)
  rwa [List.map_map, List.map_map] at hmap

/-- As many moves are of certain times as there are cycles of these times that commit. -/
theorem countP_moves (P : UInt64 → Bool) (rs : List Round) :
    (moves s cluster t h rs).countP (fun m => P m.timestamp)
      = rs.countP fun r => r.commits && P r.now := by
  have hcount := congrArg (List.countP P) (map_timestamp_moves s cluster h t rs)
  rw [List.countP_map, List.countP_map, List.countP_filter] at hcount
  rw [show (fun m : Move => P m.timestamp) = P ∘ Move.timestamp from rfl, hcount]
  exact List.countP_congr fun r _ => by rw [Function.comp_apply, Bool.and_comm]

/-- Whatever is remembered of a series is the move of one of its cycles. -/
theorem mem_moves {rs : List Round} {m : Move} (hm : m ∈ moves s cluster t h rs) :
    ∃ r ∈ rs, ∃ before, m = r.move s cluster before t := by
  induction rs generalizing h with
  | nil => cases hm
  | cons r rs ih =>
    rcases List.mem_append.mp hm with hm | hm
    · cases hr : r.commits with
      | true =>
        rw [hr, if_pos rfl, List.mem_singleton] at hm
        exact ⟨r, List.mem_cons_self, h, hm⟩
      | false =>
        rw [hr, if_neg Bool.false_ne_true] at hm
        cases hm
    · obtain ⟨later, hlater, before, rfl⟩ := ih _ hm
      exact ⟨later, List.mem_cons_of_mem r hlater, before, rfl⟩

end Series

end ClusterScaling
