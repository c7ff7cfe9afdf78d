import ClusterScaling.Proofs.Collector.Transition

/-!
# The part of a collector that concerns one cluster

Clusters share a collector, but not a slot. What a collector keeps and has
answered about one cluster is a collector again, `Collector.alone`, and an
event in the slot of the cluster does to this part what it does to the
whole (`Collector.alone_step`), while an event in another slot leaves the
part as it is (`Collector.alone_step_of_ne`). Dropping a cached snapshot is
no exception: whether there is a slot to drop it from is seen in the part
as well (`Collector.alone_invalidate`).

Slots know nothing of each other, but answers are kept in one list, under
the identities of callers. So a caller has to ask about one cluster only,
which is said by `home`: it names the cluster of each caller.
-/

namespace ClusterScaling

variable {home : Nat → String} {key : String}

/-- Whether an event lets callers into the slot of their own cluster only. -/
def Slot.Event.Homely (home : Nat → String) (key : String) : Slot.Event → Prop
  | .arrive call => home call = key
  | _ => True

instance (home : Nat → String) (key : String) (e : Slot.Event) : Decidable (e.Homely home key) :=
  match e with
  | .arrive call => inferInstanceAs (Decidable (home call = key))
  | .queue _ | .askDrop | .enter _ | .cancel _ | .launch | .finish _ _ | .settle => .isTrue trivial

/-- The callers in the slot of a cluster are those of the cluster. -/
structure Slot.Homely (home : Nat → String) (key : String) (s : Slot) : Prop where
  /-- The caller that holds the lock is one. -/
  holder : ∀ call, s.holder? = some call → home call = key
  /-- The callers that wait for it are. -/
  waiters : ∀ call observed, .collect call observed ∈ s.queue → home call = key
  /-- The callers that are about to wait are. -/
  comers : ∀ call observed, ⟨call, observed⟩ ∈ s.coming → home call = key

namespace Slot

theorem homely_empty : Slot.empty.Homely home key where
  holder _ h := nomatch h
  waiters _ _ h := nomatch h
  comers _ _ h := nomatch h

/-- Whoever waits, or is about to, is a caller of the cluster. -/
theorem Homely.of_expects {s : Slot} (hs : s.Homely home key) {call : Nat}
    (h : s.expects call = true) : home call = key := by
  rcases (Bool.or_eq_true _ _).mp h with hwaits | hcomes
  · obtain ⟨w, hw, hcall⟩ := List.any_eq_true.mp hwaits
    cases w with
    | drop => cases hcall
    | collect other observed => exact eq_of_beq hcall ▸ hs.waiters other observed hw
  · obtain ⟨⟨other, observed⟩, hw, hcall⟩ := List.any_eq_true.mp hcomes
    exact eq_of_beq hcall ▸ hs.comers other observed hw

/-- **Callers stay in the slot of their cluster**, and only they are told anything in it. -/
theorem Homely.step {s : Slot} (hs : s.Homely home key) {e : Event} (he : e.Homely home key)
    (c : CollectorSettings) (now : Moment) :
    (s.step c now e).1.Homely home key
      ∧ ∀ a, (s.step c now e).2 = some a → home a.call = key := by
  have ht := step_transition c now s e
  rw [← answer?_see]
  obtain ⟨sight, hsight⟩ : ∃ sight, s.see c now e = sight := ⟨_, rfl⟩
  rw [hsight] at ht ⊢
  generalize (s.step c now e).1 = s' at ht ⊢
  have hrest {w : Waiter} (hqueue : s.queue = w :: s'.queue) (call observed : Nat)
      (hmem : .collect call observed ∈ s'.queue) : home call = key :=
    hs.waiters call observed (hqueue ▸ List.mem_cons_of_mem w hmem)
  cases ht with
  | still _ hholder hqueue hcoming =>
    exact ⟨⟨hholder ▸ hs.holder, hqueue ▸ hs.waiters, hcoming ▸ hs.comers⟩, by rintro a ⟨⟩⟩
  | ask _ hholder hqueue hcoming =>
    refine ⟨⟨hholder ▸ hs.holder, fun call observed hmem => ?_, hcoming ▸ hs.comers⟩,
      by rintro a ⟨⟩⟩
    rw [hqueue] at hmem
    exact hs.waiters call observed ((List.mem_append.mp hmem).resolve_right (by simp))
  | arrive call _ hholder hqueue hcoming =>
    refine ⟨⟨hholder ▸ hs.holder, hqueue ▸ hs.waiters, fun other observed hmem => ?_⟩,
      by rintro a ⟨⟩⟩
    rw [hcoming] at hmem
    rcases List.mem_append.mp hmem with hmem | hmem
    · exact hs.comers other observed hmem
    · cases List.mem_singleton.mp hmem
      cases eq_arrive_of_see hsight
      exact he
  | queue call observed _ hholder hqueue hcomes hcoming =>
    refine ⟨⟨hholder ▸ hs.holder, fun other noted hmem => ?_, fun other noted hmem => ?_⟩,
      by rintro a ⟨⟩⟩
    · rw [hqueue] at hmem
      rcases List.mem_append.mp hmem with hmem | hmem
      · exact hs.waiters other noted hmem
      · cases List.mem_singleton.mp hmem
        exact hs.comers call observed hcomes
    · rw [hcoming] at hmem
      exact hs.comers other noted (List.mem_of_mem_erase hmem)
  | drop _ hqueue hholder _ _ _ hcoming =>
    exact ⟨⟨by rw [hholder]; nofun, hrest hqueue, hcoming ▸ hs.comers⟩, by rintro a ⟨⟩⟩
  | share call observed result _ hqueue _ hholder _ hcoming =>
    have hcall : home call = key := hs.waiters call observed (hqueue ▸ List.mem_cons_self)
    exact ⟨⟨by rw [hholder]; nofun, hrest hqueue, hcoming ▸ hs.comers⟩,
      by rintro a ⟨⟩; exact hcall⟩
  | begin call observed _ hqueue _ hholder _ hcoming =>
    have hcall : home call = key := hs.waiters call observed (hqueue ▸ List.mem_cons_self)
    exact ⟨⟨by rw [hholder]; rintro other ⟨⟩; exact hcall, hrest hqueue, hcoming ▸ hs.comers⟩,
      by rintro a ⟨⟩⟩
  | complete call result hholder hfree hqueue _ _ _ _ hcoming =>
    exact ⟨⟨by rw [hfree]; nofun, hqueue ▸ hs.waiters, hcoming ▸ hs.comers⟩,
      by rintro a ⟨⟩; exact hs.holder call hholder⟩
  | abandon call hholder hfree hqueue _ hcoming =>
    exact ⟨⟨by rw [hfree]; nofun, hqueue ▸ hs.waiters, hcoming ▸ hs.comers⟩,
      by rintro a ⟨⟩; exact hs.holder call hholder⟩
  | leave call _ hexpects hholder hqueue _ hcoming =>
    refine ⟨⟨hholder ▸ hs.holder, fun other observed hmem => ?_, fun other observed hmem => ?_⟩, ?_⟩
    · rw [hqueue] at hmem
      exact hs.waiters other observed (List.mem_filter.mp hmem).1
    · rw [hcoming] at hmem
      exact hs.comers other observed (List.mem_filter.mp hmem).1
    · rintro a ⟨⟩
      exact hs.of_expects hexpects

end Slot

namespace Collector

/-- The callers in every slot are those of its cluster. -/
def Homely (home : Nat → String) (c : Collector) : Prop := ∀ key, (c.slot key).Homely home key

/-- The part of a collector that concerns one cluster. -/
def alone (home : Nat → String) (key : String) (c : Collector) : Collector where
  settings := c.settings
  slots := (c.slots.get? key).elim .empty (Table.empty.insert key)
  answers := c.answers.filter fun a => home a.call == key

variable {c : Collector}

theorem homely_start (settings : CollectorSettings) : (start settings).Homely home :=
  fun _ => Slot.homely_empty

theorem Homely.step (hc : c.Homely home) (now : Moment) {e : Slot.Event}
    (he : e.Homely home key) : (c.step now key e).Homely home := by
  intro other
  by_cases hkey : key = other
  · subst hkey
    unfold slot Collector.step
    dsimp only
    rw [Table.get?_insert, if_pos rfl]
    exact ((hc key).step he c.settings now).1
  · rw [slot_step_of_ne c now hkey e]
    exact hc other

theorem get?_alone (home : Nat → String) (key : String) (c : Collector) :
    (c.alone home key).slots.get? key = c.slots.get? key := by
  unfold alone
  cases c.slots.get? key with
  | none => rfl
  | some s => exact (Table.get?_insert ..).trans (if_pos rfl)

theorem slot_alone (home : Nat → String) (key : String) (c : Collector) :
    (c.alone home key).slot key = c.slot key := by
  unfold slot
  rw [get?_alone]

/-- What a caller has been told it has been told about its cluster. -/
theorem answer?_alone {id : Nat} (hid : home id = key) (c : Collector) :
    (c.alone home key).answer? id = c.answer? id := by
  unfold answer? alone
  dsimp only
  rw [List.find?_filter]
  congr 2
  funext a
  by_cases hcall : a.call = id
  · simp [hcall, hid]
  · simp [hcall]

/-- **An event in the slot of a cluster does to its part what it does to the whole.** -/
theorem alone_step (hc : c.Homely home) (now : Moment) {e : Slot.Event}
    (he : e.Homely home key) :
    (c.step now key e).alone home key = (c.alone home key).step now key e := by
  have hanswer : ((c.slot key).step c.settings now e).2.toList.filter (fun a => home a.call == key)
      = ((c.slot key).step c.settings now e).2.toList := by
    refine List.filter_eq_self.mpr fun a ha => beq_iff_eq.mpr ?_
    exact ((hc key).step he c.settings now).2 a (Option.mem_toList.mp ha)
  have hput (s : Slot) : ((c.slots.get? key).elim .empty (Table.empty.insert key)).insert key s
      = Table.empty.insert key s := by
    cases c.slots.get? key with
    | none => rfl
    | some old =>
      refine congrArg Table.mk ?_
      show Table.put key s [(key, old)] = [(key, s)]
      unfold Table.put
      rw [if_pos rfl]
  have hslot := slot_alone home key c
  unfold step
  dsimp only
  rw [hslot]
  unfold alone
  dsimp only
  rw [Table.get?_insert, if_pos rfl, List.filter_append, hanswer, hput]
  rfl

/-- **An event in the slot of another cluster leaves the part of a cluster as it is.** -/
theorem alone_step_of_ne (hc : c.Homely home) (now : Moment) {other : String} {e : Slot.Event}
    (he : e.Homely home other) (hne : other ≠ key) :
    (c.step now other e).alone home key = c.alone home key := by
  have hanswer : ((c.slot other).step c.settings now e).2.toList.filter
      (fun a => home a.call == key) = [] := by
    refine List.filter_eq_nil_iff.mpr fun a ha hown => hne ?_
    rw [← ((hc other).step he c.settings now).2 a (Option.mem_toList.mp ha)]
    exact beq_iff_eq.mp hown
  unfold step alone
  dsimp only
  rw [Table.get?_insert, if_neg hne, List.filter_append, hanswer, List.append_nil]

/-! ## Cached snapshots that are dropped -/

/-- Dropping the cached snapshot of a cluster drops that of its part. -/
theorem alone_invalidate (hc : c.Homely home) (now : Moment) :
    (c.invalidate now key).alone home key = (c.alone home key).invalidate now key := by
  unfold invalidate
  rw [get?_alone]
  cases c.slots.get? key with
  | none => rfl
  | some s =>
    have hask : Slot.Event.Homely home key .askDrop := trivial
    have henter : Slot.Event.Homely home key (.enter []) := trivial
    dsimp only
    rw [alone_step (hc.step now hask) now henter, alone_step hc now hask]

/-- Dropping the cached snapshot of another cluster leaves the part of a cluster as it is. -/
theorem alone_invalidate_of_ne (hc : c.Homely home) (now : Moment) {other : String}
    (hne : other ≠ key) : (c.invalidate now other).alone home key = c.alone home key := by
  unfold invalidate
  cases c.slots.get? other with
  | none => rfl
  | some s =>
    have hask : Slot.Event.Homely home other .askDrop := trivial
    have henter : Slot.Event.Homely home other (.enter []) := trivial
    dsimp only
    rw [alone_step_of_ne (hc.step now hask) now henter hne, alone_step_of_ne hc now hask hne]

end Collector

end ClusterScaling
