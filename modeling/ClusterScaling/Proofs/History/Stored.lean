import Mathlib.Data.List.Induction
import ClusterScaling.Proofs.History.Recall

/-!
# What is stored of what was pushed

A history changes in two **strokes**: a move is pushed, or moves that are
too old are forgotten. The strokes may come in any order and number, and
nothing is assumed of the times, which may go back.

Both strokes take moves away at the front only, and a push puts one at the
end. So what is stored is always an end of all that was pushed, in its
order, and what is lost is the beginning (`History.exists_apply`). Forgetting
stops at the first move that is not too old, even if one behind it is, so
every move that is lost was lost for a cause of its own: it was the oldest of
a full history, or it was too old itself (`Stroke.Removes`).

The time of the latest change is not affected by what is lost, and it is the
latest of all, not that of the change that was pushed last.
-/

namespace ClusterScaling

namespace History

/-- What can be done to a history. -/
inductive Stroke where
  /-- A move is remembered. -/
  | push (m : Move)
  /-- What is too old at a time is forgotten. -/
  | prune (now : UInt64) (age : Duration)

namespace Stroke

/-- The history after a stroke. -/
def apply (h : History) : Stroke → History
  | push m => h.push m
  | prune now age => h.prune now age

/-- The move that a stroke remembers, if it does. -/
def pushed : Stroke → List Move
  | push m => [m]
  | prune _ _ => []

/-- Why a stroke takes away a move in front of which other moves are stored. -/
inductive Removes (h : History) (front : List Move) (m : Move) : Stroke → Prop where
  /-- There is no room, and the move is the oldest one. -/
  | evicts {new : Move} (hfull : h.moves.length = h.capacity) (hfirst : front = []) :
      Removes h front m (push new)
  /-- The move is too old. -/
  | outdates {now : UInt64} {age : Duration} (hold : m.timestamp.toNat < since now age) :
      Removes h front m (prune now age)

end Stroke

/-- The history after several strokes. -/
def run (h : History) (strokes : List Stroke) : History := strokes.foldl Stroke.apply h

/-- The moves that strokes remember, the first one first. -/
def pushed (strokes : List Stroke) : List Move := strokes.flatMap Stroke.pushed

variable {h : History}

theorem run_concat (h : History) (strokes : List Stroke) (s : Stroke) :
    h.run (strokes ++ [s]) = s.apply (h.run strokes) := List.foldl_append

theorem pushed_concat (strokes : List Stroke) (s : Stroke) :
    pushed (strokes ++ [s]) = pushed strokes ++ s.pushed := by
  simp [pushed]

/-! ## One stroke -/

/-- **A stroke takes away the front**, each move for a cause, and puts what it remembers at the
end. -/
theorem exists_apply (h : History) (s : Stroke) : ∃ gone kept, h.moves = gone ++ kept
    ∧ (s.apply h).moves = kept ++ s.pushed
    ∧ ∀ front m rest, gone = front ++ m :: rest → s.Removes h front m := by
  cases s with
  | push new =>
    show ∃ gone kept, _ ∧ (if h.moves.length = h.capacity then h.moves.drop 1 else h.moves) ++ [new]
      = kept ++ [new] ∧ _
    split
    · next hfull =>
      refine ⟨h.moves.take 1, h.moves.drop 1, (List.take_append_drop 1 _).symm, rfl, ?_⟩
      intro front m rest hgone
      -- only one move goes, so none is in front of it
      have hlength : (front ++ m :: rest).length ≤ 1 := hgone ▸ List.length_take_le 1 _
      rw [List.length_append, List.length_cons] at hlength
      exact .evicts hfull (List.length_eq_zero_iff.mp (by omega))
    · exact ⟨[], h.moves, rfl, rfl, fun front m rest hgone => by simp at hgone⟩
  | prune now age =>
    let isOld := fun m : Move => decide (m.timestamp.toNat < since now age)
    refine ⟨h.moves.takeWhile isOld, h.moves.dropWhile isOld, ?_, (List.append_nil _).symm, ?_⟩
    · exact List.takeWhile_append_dropWhile.symm
    · intro front m rest hgone
      have hm : m ∈ h.moves.takeWhile isOld := by
        rw [hgone]
        exact List.mem_append_right front List.mem_cons_self
      exact .outdates (of_decide_eq_true (List.all_eq_true.mp List.all_takeWhile m hm))

theorem Fits.apply (hf : h.Fits) (s : Stroke) : (s.apply h).Fits := by
  cases s with
  | push m => exact hf.push
  | prune now age =>
    exact ⟨hf.pos, Nat.le_trans (List.dropWhile_suffix _).length_le hf.length_le⟩

theorem later_some (t u : UInt64) : later (some t) u = max t u := by
  show (if t < u then u else t) = if t ≤ u then u else t
  split
  · next hlt => rw [if_pos (UInt64.le_of_lt hlt)]
  · next hlt =>
    split
    · next hle => exact UInt64.le_antisymm hle (UInt64.not_lt.mp hlt)
    · rfl

/-- The latest of several times, and one more. -/
theorem max?_concat (times : List UInt64) (u : UInt64) :
    (times ++ [u]).max? = some (later times.max? u) := by
  cases times with
  | nil => rfl
  | cons t times =>
    rw [List.cons_append, List.max?_cons', List.max?_cons', List.foldl_append, later_some]
    rfl

/-! ## Several strokes -/

theorem fits_run (hf : h.Fits) (strokes : List Stroke) : (h.run strokes).Fits := by
  induction strokes generalizing h with
  | nil => exact hf
  | cons s strokes ih => exact ih (hf.apply s)

theorem capacity_run (strokes : List Stroke) : (h.run strokes).capacity = h.capacity := by
  induction strokes generalizing h with
  | nil => rfl
  | cons s strokes ih =>
    have hs : (s.apply h).capacity = h.capacity := by cases s <;> rfl
    exact ih.trans hs

/-- Strokes take a move away that stood behind others when they were made: it was stored up to one
of them, and not after it. -/
def Loses (h : History) (strokes : List Stroke) (older : List Move) (m : Move) : Prop :=
  ∃ before s after front rest, strokes = before ++ s :: after
    ∧ pushed before = older ++ m :: rest
    ∧ (h.run before).moves = front ++ m :: rest
    ∧ (h.run (before ++ [s])).moves <:+ rest ++ s.pushed
    ∧ s.Removes (h.run before) front m

theorem Loses.concat {strokes : List Stroke} {older : List Move} {m : Move}
    (hl : h.Loses strokes older m) (s : Stroke) : h.Loses (strokes ++ [s]) older m := by
  obtain ⟨before, s', after, front, rest, rfl, hrest⟩ := hl
  exact ⟨before, s', after ++ [s], front, rest, List.append_assoc _ _ _, hrest⟩

/-- **What is stored is an end of all that was pushed**, and what stands in front of it was lost move
by move. -/
theorem exists_lost (hempty : h.moves = []) (strokes : List Stroke) :
    ∃ lost, pushed strokes = lost ++ (h.run strokes).moves
      ∧ ∀ older m newer, lost = older ++ m :: newer → h.Loses strokes older m := by
  induction strokes using List.reverseRecOn with
  | nil => exact ⟨[], hempty.symm, fun older m newer hlost => by simp at hlost⟩
  | append_singleton strokes s ih =>
    obtain ⟨lost, hpushed, hwhy⟩ := ih
    obtain ⟨gone, kept, hmoves, happly, hcause⟩ := exists_apply (h.run strokes) s
    refine ⟨lost ++ gone, ?_, fun older m newer hlost => ?_⟩
    · rw [pushed_concat, run_concat, hpushed, hmoves, happly]
      simp only [List.append_assoc]
    · -- a move that this stroke takes away was stored until now
      have hnow {front : List Move} (holder : older = lost ++ front)
          (hgone : gone = front ++ m :: newer) : h.Loses (strokes ++ [s]) older m := by
        refine ⟨strokes, s, [], front, newer ++ kept, rfl, ?_, ?_, ?_, hcause _ _ _ hgone⟩
        · rw [hpushed, hmoves, holder, hgone]
          simp only [List.append_assoc, List.cons_append]
        · rw [hmoves, hgone, List.append_assoc, List.cons_append]
        · rw [run_concat, happly, List.append_assoc]
          exact List.suffix_append newer _
      rcases List.append_eq_append_iff.mp hlost with
        ⟨front, holder, hgone⟩ | ⟨after, hbefore, hnewer⟩
      · exact hnow holder hgone
      · cases after with
        | nil =>
          have holder : older = lost ++ [] := by simpa using hbefore.symm
          exact hnow holder hnewer.symm
        | cons m' after =>
          obtain ⟨rfl, -⟩ := List.cons.inj hnewer
          exact (hwhy older m after hbefore).concat s

/-- **The time of the latest change is the latest of all changes that were pushed.** -/
theorem lastChange_run (hnone : h.lastChange = none) (strokes : List Stroke) :
    (h.run strokes).lastChange
      = (((pushed strokes).filter Move.isChange).map Move.timestamp).max? := by
  induction strokes using List.reverseRecOn with
  | nil => exact hnone
  | append_singleton strokes s ih =>
    rw [run_concat, pushed_concat, List.filter_append, List.map_append]
    cases s with
    | prune now age =>
      have hnothing : ((Stroke.prune now age).pushed.filter Move.isChange).map Move.timestamp
          = [] := rfl
      rw [hnothing, List.append_nil]
      exact ih
    | push m =>
      have hlater : ((Stroke.push m).apply (h.run strokes)).lastChange
          = if m.isChange then some (later (h.run strokes).lastChange m.timestamp)
            else (h.run strokes).lastChange := rfl
      rw [hlater, ih]
      cases hm : m.isChange with
      | true =>
        have hchange : ((Stroke.push m).pushed.filter Move.isChange).map Move.timestamp
            = [m.timestamp] := by
          rw [Stroke.pushed, List.filter_cons_of_pos hm]
          rfl
        rw [if_pos rfl, hchange, max?_concat]
      | false =>
        have hhold : ((Stroke.push m).pushed.filter Move.isChange).map Move.timestamp = [] := by
          rw [Stroke.pushed, List.filter_cons_of_neg (by simp [hm])]
          rfl
        rw [if_neg Bool.false_ne_true, hhold, List.append_nil]

/-- **What a history is after any strokes.** It has room for the moves that were asked for, and for
at least one, and never has more. It stores an end of all moves that were pushed, in their order, and
each move that is missing was the oldest of a full history when another one was pushed, or was found
too old. The time of the latest change is the latest of all changes that were ever pushed, whether
they are stored or not. -/
theorem run_represents (capacity : UInt64) (strokes : List Stroke) :
    let start := empty capacity
    let h := start.run strokes
    h.capacity = max capacity.toNat 1
      ∧ h.moves.length ≤ max capacity.toNat 1
      ∧ (∃ lost, pushed strokes = lost ++ h.moves
        ∧ ∀ older m newer, lost = older ++ m :: newer → start.Loses strokes older m)
      ∧ h.lastChange = (((pushed strokes).filter Move.isChange).map Move.timestamp).max? := by
  intro start h
  have hcapacity : h.capacity = max capacity.toNat 1 := capacity_run strokes
  refine ⟨hcapacity, ?_, exists_lost rfl strokes, lastChange_run rfl strokes⟩
  rw [← hcapacity]
  exact (fits_run (fits_empty capacity) strokes).length_le

/-- With no room asked for, a change is lost to a later move of an earlier time, and that one to its
age. The time of the change is still known. -/
theorem run_represents_roomless :
    let change : Move := ⟨.scaleUp, 1, 2, 5⟩
    let hold : Move := ⟨.hold, 2, 2, 3⟩
    let strokes := [.push change, .push hold, .prune 2000 (.ofSeconds 1)]
    let h := (empty 0).run strokes
    h.moves = [] ∧ h.lastChange = some 5 ∧ (empty 0).Loses strokes [] change
      ∧ (empty 0).Loses strokes [change] hold := by
  intro change hold strokes h
  obtain ⟨-, -, ⟨lost, hpushed, hwhy⟩, -⟩ := run_represents 0 strokes
  have hmoves : h.moves = [] := by decide
  have hlost : lost = [change, hold] := by
    rw [show ((empty 0).run strokes).moves = [] from hmoves, List.append_nil] at hpushed
    exact hpushed.symm
  exact ⟨hmoves, by decide, hwhy [] change [hold] hlost, hwhy [change] hold [] hlost⟩

end History

end ClusterScaling
