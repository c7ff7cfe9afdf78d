import ClusterScaling.Proofs.Averaging.Readings
import Mathlib.Data.List.Nodup

/-!
# The order in which outcomes are summed up

A sum of doubles depends on its order, and sources answer in any order.
What a snapshot is made of is therefore the outcomes in one order only,
that of the identities of their sources: a **ranking**. A ranking also
keeps the outcomes of one identity in the order in which they came, and
with that there is no choice left (`SourceOutcome.Ranks.eq`).

Two things follow. Where no two outcomes have the same identity, nothing
is left of the order in which they came, so that order is of no account
for the snapshot (`Averaging.snapshot_of_perm`). And ranking the outcomes
of one tier is the same as ranking all of them and looking at that tier
(`SourceOutcome.filter_sorted`), which is why one tier knows nothing of
the other.
-/

namespace ClusterScaling

namespace SourceOutcome

/-- The outcomes of one identity. -/
def ofId (id : String) (os : List SourceOutcome) : List SourceOutcome :=
  os.filter fun o => o.source.id = id

/-- **Outcomes in the order of the identities of their sources**, those of one identity in the order
in which they came. -/
structure Ranks (os ranked : List SourceOutcome) : Prop where
  /-- The identities ascend. -/
  ascending : ranked.Pairwise fun a b => a.source.id ≤ b.source.id
  /-- The outcomes of each identity are the same, in the same order. -/
  stable : ∀ id, ofId id ranked = ofId id os

variable {os os' ranked ranked' : List SourceOutcome} {o a b : SourceOutcome} {id : String}

/-! ## The outcomes of one identity -/

theorem mem_ofId : o ∈ ofId id os ↔ o ∈ os ∧ o.source.id = id := by
  rw [ofId, List.mem_filter, decide_eq_true_eq]

theorem ofId_cons_self (a : SourceOutcome) (os : List SourceOutcome) :
    ofId a.source.id (a :: os) = a :: ofId a.source.id os :=
  List.filter_cons_of_pos (decide_eq_true rfl)

theorem ofId_cons_of_ne (h : a.source.id ≠ id) (os : List SourceOutcome) :
    ofId id (a :: os) = ofId id os :=
  List.filter_cons_of_neg fun heq => h (of_decide_eq_true heq)

/-- The outcomes of one identity among those that pass a test. -/
theorem ofId_filter (p : SourceOutcome → Bool) (id : String) (os : List SourceOutcome) :
    ofId id (os.filter p) = (ofId id os).filter p := by
  rw [ofId, ofId, List.filter_filter, List.filter_filter]
  simp only [Bool.and_comm]

/-! ## Sorting ranks -/

theorem before_trans (a b c : SourceOutcome) (hab : decide (a.source.id ≤ b.source.id) = true)
    (hbc : decide (b.source.id ≤ c.source.id) = true) :
    decide (a.source.id ≤ c.source.id) = true :=
  decide_eq_true (String.le_trans (of_decide_eq_true hab) (of_decide_eq_true hbc))

theorem before_total (a b : SourceOutcome) :
    (decide (a.source.id ≤ b.source.id) || decide (b.source.id ≤ a.source.id)) = true := by
  rw [Bool.or_eq_true, decide_eq_true_eq, decide_eq_true_eq]
  exact String.le_total _ _

/-- Sorted outcomes ascend. -/
theorem pairwise_sorted (os : List SourceOutcome) :
    (sorted os).Pairwise fun a b => a.source.id ≤ b.source.id :=
  (List.pairwise_mergeSort before_trans before_total os).imp of_decide_eq_true

/-- **Sorting ranks.** The outcomes of one identity ascend as they are, so they are found in the
sorted list in their order, and no others of that identity are. -/
theorem ranks_sorted (os : List SourceOutcome) : Ranks os (sorted os) where
  ascending := pairwise_sorted os
  stable := by
    intro id
    have hsame : (ofId id os).Pairwise fun a b => decide (a.source.id ≤ b.source.id) = true := by
      refine List.pairwise_of_forall_mem_list fun a ha b hb => decide_eq_true ?_
      have hids : a.source.id = b.source.id := (mem_ofId.mp ha).2.trans (mem_ofId.mp hb).2.symm
      exact hids ▸ String.le_refl a.source.id
    have hkept : (ofId id os).Sublist (sorted os) :=
      List.sublist_mergeSort before_trans before_total hsame List.filter_sublist
    have hfound : (ofId id (ofId id os)).Sublist (ofId id (sorted os)) := hkept.filter _
    have hlength : (ofId id (sorted os)).length = (ofId id os).length :=
      ((Averaging.sorted_perm os).filter _).length_eq
    rw [ofId, List.filter_eq_self.mpr fun o ho => decide_eq_true (mem_ofId.mp ho).2] at hfound
    exact (hfound.eq_of_length hlength.symm).symm

/-! ## No two rankings -/

/-- A ranking has the outcomes that it ranks. -/
theorem Ranks.mem_iff (h : Ranks os ranked) : o ∈ ranked ↔ o ∈ os := by
  have hsame : o ∈ ofId o.source.id ranked ↔ o ∈ ofId o.source.id os := by
    rw [h.stable]
  rw [mem_ofId, mem_ofId, and_iff_left rfl, and_iff_left rfl] at hsame
  exact hsame

/-- A ranking that begins as the outcomes do goes on with a ranking of the rest of them. -/
theorem Ranks.tail (h : Ranks (a :: os) (a :: ranked)) : Ranks os ranked where
  ascending := h.ascending.of_cons
  stable := by
    intro id
    have hstable := h.stable id
    by_cases hid : a.source.id = id
    · subst hid
      rw [ofId_cons_self, ofId_cons_self] at hstable
      exact List.tail_eq_of_cons_eq hstable
    · rw [ofId_cons_of_ne hid, ofId_cons_of_ne hid] at hstable
      exact hstable

/-- What comes first in an ascending list is not behind any other in it. -/
theorem le_of_mem_cons (h : (a :: os).Pairwise fun a b => a.source.id ≤ b.source.id)
    (hb : b ∈ a :: os) : a.source.id ≤ b.source.id := by
  rcases List.mem_cons.mp hb with rfl | hb
  · exact String.le_refl _
  · exact (List.pairwise_cons.mp h).1 b hb

/-- **Outcomes that ascend have no ranking but themselves.** -/
theorem Ranks.eq_self (h : Ranks os ranked)
    (hos : os.Pairwise fun a b => a.source.id ≤ b.source.id) : ranked = os := by
  induction os generalizing ranked with
  | nil => exact List.eq_nil_iff_forall_not_mem.mpr fun o ho => nomatch h.mem_iff.mp ho
  | cons a as ih =>
    cases ranked with
    | nil => exact nomatch h.mem_iff.mpr List.mem_cons_self
    | cons b bs =>
      -- neither of the two that come first is behind the other, so they have the same identity
      have hid : b.source.id = a.source.id :=
        String.le_antisymm (le_of_mem_cons h.ascending (h.mem_iff.mpr List.mem_cons_self))
          (le_of_mem_cons hos (h.mem_iff.mp List.mem_cons_self))
      have hfirst := h.stable a.source.id
      rw [ofId_cons_self, ← hid, ofId_cons_self] at hfirst
      obtain rfl : b = a := List.head_eq_of_cons_eq hfirst
      rw [ih h.tail hos.of_cons]

/-- **There is one ranking.** -/
theorem Ranks.eq (h : Ranks os ranked) (h' : Ranks os ranked') : ranked = ranked' :=
  Ranks.eq_self ⟨h.ascending, fun id => (h.stable id).trans (h'.stable id).symm⟩ h'.ascending

/-- A ranking of all outcomes ranks those that pass a test. -/
theorem Ranks.filter (h : Ranks os ranked) (p : SourceOutcome → Bool) :
    Ranks (os.filter p) (ranked.filter p) where
  ascending := h.ascending.filter p
  stable := fun id => by rw [ofId_filter, ofId_filter, h.stable]

/-- **Sorting and leaving out may be done in either order.** -/
theorem filter_sorted (p : SourceOutcome → Bool) (os : List SourceOutcome) :
    (sorted os).filter p = sorted (os.filter p) :=
  ((ranks_sorted os).filter p).eq (ranks_sorted _)

/-- **Outcomes of different identities are sorted in one way**, in whatever order they come. -/
theorem sorted_of_perm (hids : (os.map (·.source.id)).Nodup) (hperm : os.Perm os') :
    sorted os = sorted os' := by
  have hsorted : (sorted os).Perm (sorted os') :=
    (Averaging.sorted_perm os).trans (hperm.trans (Averaging.sorted_perm os').symm)
  refine hsorted.eq_of_pairwise (fun a b ha hb hab hba => ?_) (pairwise_sorted os)
    (pairwise_sorted os')
  have hmem : b ∈ os := hperm.mem_iff.mpr (Averaging.mem_sorted.mp hb)
  exact List.inj_on_of_nodup_map hids (Averaging.mem_sorted.mp ha) hmem (String.le_antisymm hab hba)

end SourceOutcome

namespace Averaging

/-- **The order in which sources answer is of no account.** Whatever was asked, the outcomes of
sources with different identities give the same snapshot in any order: the same fault, or the same
readings of both tiers to the last bit, and the same mark of whether a source failed. -/
theorem snapshot_of_perm {os os' : List SourceOutcome} (hids : (os.map (·.source.id)).Nodup)
    (hperm : os.Perm os') (asked : List SourceRef) (wall : UInt64) :
    snapshot asked os wall = snapshot asked os' wall := by
  unfold snapshot
  rw [SourceOutcome.sorted_of_perm hids hperm]

/-- Three members report a tenth, two tenths and three tenths, and a source of the other tier fails.
The sum depends on its order, and it is made from the lowest identity on, though that source has
answered last. -/
theorem snapshot_of_perm_tenths :
    let a : SourceOutcome := ⟨⟨"a", .primaries⟩, .ok [(.cpu, 0.1)]⟩
    let b : SourceOutcome := ⟨⟨"b", .primaries⟩, .ok [(.cpu, 0.2)]⟩
    let c : SourceOutcome := ⟨⟨"c", .primaries⟩, .ok [(.cpu, 0.3)]⟩
    let d : SourceOutcome := ⟨⟨"d", .secondaries⟩, .error (.circuitOpen "d")⟩
    let asked := [a.source, b.source, c.source]
    ([a, b, c, d].map (·.source.id)).Nodup ∧ [a, b, c, d].Perm [d, c, b, a]
      ∧ (mean [0.3, 0.2, 0.1] == mean [0.1, 0.2, 0.3]) = false
      ∧ snapshot asked [d, c, b, a] 0
        = .ok ⟨⟨readings [(.cpu, 0.1), (.cpu, 0.2), (.cpu, 0.3)], .absent⟩, 0, true⟩ := by
  intro a b c d asked
  have hids : ([a, b, c, d].map (·.source.id)).Nodup := by decide
  have hperm : [a, b, c, d].Perm [d, c, b, a] := (List.reverse_perm [a, b, c, d]).symm
  refine ⟨hids, hperm, by decide +kernel, ?_⟩
  rw [← snapshot_of_perm hids hperm, snapshot,
    (SourceOutcome.ranks_sorted [a, b, c, d]).eq_self (by decide)]
  rfl

end Averaging

end ClusterScaling
