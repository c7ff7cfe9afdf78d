import ClusterScaling.Proofs.Collector.Transition

/-!
# What is seen of a slot over time

The events in the slots of all clusters come in some order. A log of one
slot has a sight for every one of them, also for those in other slots, of
which nothing is seen, so a position in a run is a position in the log.
Everything that is said of fetches and callers over time is said of
positions in a log: where a fetch began, up to where it is in flight,
where a caller arrived and where it was told.

`Slot.Past` relates a log to the slot that it leads to, one transition
after the other. It is what the laws of a slot are proved from, by
induction over what has happened; `Collector.past_watch` says that every
run of a collector is of this kind, whatever happens to other clusters in
between.
-/

namespace ClusterScaling

namespace Slot

/-- What has been seen of a slot, and when, the latest last. -/
abbrev Log := List (Moment × Sight)

/-- What is seen at a position. -/
def Saw (log : Log) (i : Nat) (sight : Sight) : Prop := ∃ now, log[i]? = some (now, sight)

/-- Whether the fetch of a caller ends with what is seen. -/
def Sight.endsFetch (call : Nat) : Sight → Bool
  | completed other _ | cancelled other => other == call
  | _ => false

/-- The fetch that a caller has begun at one position is in flight up to another one: it has
neither been completed nor abandoned in between. -/
structure InFlight (log : Log) (b call j : Nat) : Prop where
  /-- The fetch began. -/
  began : Saw log b (.began call)
  /-- It began before. -/
  lt : b < j
  /-- It has not ended. -/
  lasts : ∀ k sight, b < k → k < j → Saw log k sight → sight.endsFetch call = false

/-- Whether a caller is seen to arrive. -/
def Sight.isArrival (call : Nat) : Sight → Bool
  | arrived other => other == call
  | _ => false

/-- A caller arrives at a position, and nobody else has its identity. -/
structure ArrivesOnce (log : Log) (call a : Nat) : Prop where
  /-- The caller arrives. -/
  arrives : Saw log a (.arrived call)
  /-- It does so once. -/
  once : log.countP (fun e => e.2.isArrival call) = 1

/-- What can have been seen of a slot until it is as it is. -/
inductive Past (c : CollectorSettings) : Log → Slot → Prop where
  /-- Nothing has been seen of a slot about which nothing is known. -/
  | nil : Past c [] .empty
  /-- One more thing happens. -/
  | snoc {log : Log} {s s' : Slot} {now : Moment} {sight : Sight} (hpast : Past c log s)
      (ht : Transition c now s s' sight) : Past c (log ++ [(now, sight)]) s'

/-! ## Positions -/

/-- A position in a list with one more element is an old one or the last one. -/
theorem getElem?_snoc {α : Type} {xs : List α} {x y : α} {i : Nat} :
    (xs ++ [x])[i]? = some y ↔ xs[i]? = some y ∨ i = xs.length ∧ x = y := by
  rw [List.getElem?_append]
  split
  · next hi =>
    exact ⟨.inl, fun h => h.elim id fun h => absurd h.1 (Nat.ne_of_lt hi)⟩
  · next hi =>
    have hle : xs.length ≤ i := Nat.le_of_not_lt hi
    rw [List.getElem?_eq_none hle, List.getElem?_singleton]
    constructor
    · intro h
      split at h
      · next hlast => exact .inr ⟨by omega, Option.some.inj h⟩
      · cases h
    · rintro (h | ⟨rfl, rfl⟩)
      · cases h
      · rw [Nat.sub_self, if_pos rfl]

section

variable {log : Log} {i j : Nat} {sight other : Sight} {now : Moment}

theorem Saw.of_getElem? (h : log[i]? = some (now, sight)) : Saw log i sight := ⟨now, h⟩

theorem Saw.lt (h : Saw log i sight) : i < log.length := by
  obtain ⟨now, h⟩ := h
  exact (List.getElem?_eq_some_iff.mp h).1

/-- **At a position one thing is seen.** -/
theorem Saw.unique (h : Saw log i sight) (h' : Saw log i other) : sight = other := by
  obtain ⟨now, h⟩ := h
  obtain ⟨later, h'⟩ := h'
  exact (Prod.mk.inj (Option.some.inj (h.symm.trans h'))).2

theorem saw_snoc : Saw (log ++ [(now, sight)]) i other
    ↔ Saw log i other ∨ i = log.length ∧ sight = other := by
  unfold Saw
  simp only [getElem?_snoc, Prod.mk.injEq]
  constructor
  · rintro ⟨later, h | ⟨rfl, -, rfl⟩⟩
    · exact .inl ⟨later, h⟩
    · exact .inr ⟨rfl, rfl⟩
  · rintro (⟨later, h⟩ | ⟨rfl, rfl⟩)
    · exact ⟨later, .inl h⟩
    · exact ⟨now, .inr ⟨rfl, rfl, rfl⟩⟩

/-- What was seen is seen still when more has happened. -/
theorem Saw.snoc (h : Saw log i other) (now : Moment) (sight : Sight) :
    Saw (log ++ [(now, sight)]) i other :=
  saw_snoc.mpr (.inl h)

/-- What is seen of an event is seen last. -/
theorem saw_last (log : Log) (now : Moment) (sight : Sight) :
    Saw (log ++ [(now, sight)]) log.length sight :=
  saw_snoc.mpr (.inr ⟨rfl, rfl⟩)

theorem saw_take : Saw (log.take j) i sight ↔ i < j ∧ Saw log i sight := by
  unfold Saw
  rw [List.getElem?_take]
  by_cases hij : i < j
  · rw [if_pos hij]
    exact ⟨fun h => ⟨hij, h⟩, And.right⟩
  · rw [if_neg hij]
    exact ⟨fun ⟨_, h⟩ => (nomatch h), fun h => absurd h.1 hij⟩

end

section

variable {log : Log} {b call i j : Nat} {sight : Sight} {now : Moment}

/-- Whether a fetch is in flight can be checked sight by sight. -/
theorem inFlight_of_all (hbegan : Saw log b (.began call)) (hlt : b < j)
    (hall : ((log.take j).drop (b + 1)).all (fun e => !e.2.endsFetch call) = true) :
    InFlight log b call j := by
  refine ⟨hbegan, hlt, fun k sight hbk hkj ⟨now, hk⟩ => ?_⟩
  have hmem : (now, sight) ∈ (log.take j).drop (b + 1) := by
    refine List.mem_iff_getElem?.mpr ⟨k - (b + 1), ?_⟩
    rw [List.getElem?_drop, Nat.add_sub_cancel' hbk, List.getElem?_take_of_lt hkj]
    exact hk
  have hends := List.all_eq_true.mp hall _ hmem
  exact (Bool.not_eq_eq_eq_not ..).mp hends

/-- A fetch that is in flight was so before. -/
theorem InFlight.mono (h : InFlight log b call j) (hb : b < i) (hij : i ≤ j) :
    InFlight log b call i :=
  ⟨h.began, hb, fun k sight hk hki hsaw => h.lasts k sight hk (Nat.lt_of_lt_of_le hki hij) hsaw⟩

/-- Whether a fetch is in flight is settled by what has been seen so far. -/
theorem inFlight_take (hij : i ≤ j) : InFlight (log.take j) b call i ↔ InFlight log b call i := by
  constructor
  · rintro ⟨hbegan, hlt, hlasts⟩
    exact ⟨(saw_take.mp hbegan).2, hlt, fun k sight hk hki hsaw =>
      hlasts k sight hk hki (saw_take.mpr ⟨Nat.lt_of_lt_of_le hki hij, hsaw⟩)⟩
  · rintro ⟨hbegan, hlt, hlasts⟩
    exact ⟨saw_take.mpr ⟨Nat.lt_of_lt_of_le hlt hij, hbegan⟩, hlt, fun k sight hk hki hsaw =>
      hlasts k sight hk hki (saw_take.mp hsaw).2⟩

/-- A fetch in flight stays so as long as what is seen does not end it. -/
theorem InFlight.snoc (h : InFlight log b call log.length) (hends : sight.endsFetch call = false) :
    InFlight (log ++ [(now, sight)]) b call (log.length + 1) := by
  refine ⟨h.began.snoc now sight, Nat.lt_succ_of_lt h.lt, fun k other hk hlt hsaw => ?_⟩
  rcases saw_snoc.mp hsaw with hsaw | ⟨-, rfl⟩
  · exact h.lasts k other hk hsaw.lt hsaw
  · exact hends

/-- A fetch that is in flight after an event has begun with it, or was in flight before and does
not end with it. -/
theorem InFlight.of_snoc (h : InFlight (log ++ [(now, sight)]) b call (log.length + 1)) :
    (b = log.length ∧ sight = .began call)
      ∨ InFlight log b call log.length ∧ sight.endsFetch call = false := by
  rcases saw_snoc.mp h.began with hbegan | ⟨rfl, rfl⟩
  · refine .inr ⟨⟨hbegan, hbegan.lt, fun k other hk hlt hsaw => ?_⟩, ?_⟩
    · exact h.lasts k other hk (Nat.lt_succ_of_lt hlt) (hsaw.snoc now sight)
    · exact h.lasts log.length sight hbegan.lt (Nat.lt_succ_self _) (saw_last log now sight)
  · exact .inl ⟨rfl, rfl⟩

/-- **A fetch that is no longer in flight has ended.** -/
theorem InFlight.exists_end (h : InFlight log b call i) (hij : i ≤ j)
    (hj : ¬ InFlight log b call j) :
    ∃ k sight, k < j ∧ InFlight log b call k ∧ Saw log k sight ∧ sight.endsFetch call = true := by
  induction hij with
  | refl => exact absurd h hj
  | @step j hij ih =>
    by_cases hflight : InFlight log b call j
    · -- what is seen last is what has ended it
      by_cases hends : ∃ sight, Saw log j sight ∧ sight.endsFetch call = true
      · obtain ⟨sight, hsaw, hends⟩ := hends
        exact ⟨j, sight, Nat.lt_succ_self j, hflight, hsaw, hends⟩
      · refine absurd ⟨h.began, Nat.lt_succ_of_lt hflight.lt, fun k sight hk hkj hsaw => ?_⟩ hj
        rcases Nat.lt_succ_iff_lt_or_eq.mp hkj with hlt | rfl
        · exact hflight.lasts k sight hk hlt hsaw
        · exact Bool.eq_false_iff.mpr fun htrue => hends ⟨sight, hsaw, htrue⟩
    · obtain ⟨k, sight, hkj, hrest⟩ := ih hflight
      exact ⟨k, sight, Nat.lt_succ_of_lt hkj, hrest⟩

end

/-- **Whatever has been seen was a transition** from a slot that the log before it leads to. -/
theorem Past.at {c : CollectorSettings} {log : Log} {s : Slot} (hpast : Past c log s) {i : Nat}
    {now : Moment} {sight : Sight} (h : log[i]? = some (now, sight)) :
    ∃ before after, Past c (log.take i) before ∧ Transition c now before after sight
      ∧ Past c (log.take (i + 1)) after := by
  induction hpast with
  | nil => cases h
  | @snoc log s s' later other hpast ht ih =>
    rcases getElem?_snoc.mp h with h | ⟨rfl, heq⟩
    · have hlt : i < log.length := (List.getElem?_eq_some_iff.mp h).1
      rw [List.take_append_of_le_length (Nat.le_of_lt hlt), List.take_append_of_le_length hlt]
      exact ih h
    · obtain ⟨rfl, rfl⟩ := Prod.mk.inj heq
      refine ⟨s, s', ?_, ht, ?_⟩
      · rw [List.take_left]
        exact hpast
      · have hall : (log ++ [(later, other)]).length ≤ log.length + 1 :=
          Nat.le_of_eq List.length_append
        rw [List.take_of_length_le hall]
        exact hpast.snoc ht

end Slot

/-! ## Runs of a collector -/

namespace Collector

open Slot

/-- Something that happens in the slot of a cluster, and when. -/
abbrev Happening := Moment × String × Slot.Event

/-- What a list of events makes of a collector. -/
def run (c : Collector) (es : List Happening) : Collector :=
  es.foldl (fun c e => c.step e.1 e.2.1 e.2.2) c

/-- The slot of a cluster after the first so many events of a run. -/
def slotAt (c : Collector) (key : String) (es : List Happening) (i : Nat) : Slot :=
  (c.run (es.take i)).slot key

/-- What is seen of an event in the slot of a cluster: nothing if it happens in another slot. -/
def see (c : Collector) (key : String) (e : Happening) : Sight :=
  if e.2.1 = key then (c.slot key).see c.settings e.1 e.2.2 else .nothing

/-- What is seen of a run in the slot of a cluster. -/
def watch (c : Collector) (key : String) : List Happening → Log
  | [] => []
  | e :: es => (e.1, c.see key e) :: watch (c.step e.1 e.2.1 e.2.2) key es

/-- At a position of a run a caller that asks about a cluster is told something. -/
def Tells (c : Collector) (key : String) (es : List Happening) (i : Nat) (now : Moment)
    (a : Answer) : Prop :=
  ∃ e, es[i]? = some (now, key, e) ∧ ((c.slotAt key es i).step c.settings now e).2 = some a

section

variable (c : Collector) (key : String)

/-- An event in a slot makes of it what the slot makes of the event. -/
theorem slot_step (now : Moment) (e : Slot.Event) :
    (c.step now key e).slot key = ((c.slot key).step c.settings now e).1 := by
  unfold slot step
  dsimp only
  rw [Table.get?_insert, if_pos rfl]
  rfl

/-- **Whatever happens to a collector is a transition of the slot of a cluster**, if only one of
which nothing is seen. -/
theorem step_transition (e : Happening) : Transition c.settings e.1 (c.slot key)
    ((c.step e.1 e.2.1 e.2.2).slot key) (c.see key e) := by
  obtain ⟨now, other, e⟩ := e
  unfold see
  dsimp only
  split
  · next hkey =>
    subst hkey
    rw [slot_step]
    exact Slot.step_transition c.settings now (c.slot other) e
  · next hkey =>
    rw [slot_step_of_ne c now hkey e]
    exact .still (.refl _) rfl rfl rfl

/-- **A run is a past of the slot of a cluster**, if what went before was one. -/
theorem past_append {log : Log} (hpast : Past c.settings log (c.slot key)) (es : List Happening) :
    Past c.settings (log ++ c.watch key es) ((c.run es).slot key) := by
  induction es generalizing c log with
  | nil =>
    rw [watch, List.append_nil]
    exact hpast
  | cons e es ih =>
    have hstep := hpast.snoc (c.step_transition key e)
    have hrest := ih (c.step e.1 e.2.1 e.2.2) hstep
    rw [List.append_assoc] at hrest
    exact hrest

@[simp]
theorem length_watch (es : List Happening) : (c.watch key es).length = es.length := by
  induction es generalizing c with
  | nil => rfl
  | cons e es ih => exact congrArg (· + 1) (ih _)

theorem watch_take (es : List Happening) (i : Nat) :
    c.watch key (es.take i) = (c.watch key es).take i := by
  induction es generalizing c i with
  | nil => rw [List.take_nil, watch, List.take_nil]
  | cons e es ih =>
    cases i with
    | zero => rfl
    | succ i => exact congrArg (_ :: ·) (ih _ i)

@[simp]
theorem settings_run (es : List Happening) : (c.run es).settings = c.settings := by
  induction es generalizing c with
  | nil => rfl
  | cons e es ih => exact ih _

theorem getElem?_watch (es : List Happening) (i : Nat) : (c.watch key es)[i]?
    = es[i]?.map fun e => (e.1, (c.run (es.take i)).see key e) := by
  induction es generalizing c i with
  | nil => rfl
  | cons e es ih =>
    cases i with
    | zero => rfl
    | succ i => exact ih _ i

/-- One more event. -/
theorem slotAt_succ {es : List Happening} {i : Nat} {e : Happening} (h : es[i]? = some e) :
    c.slotAt key es (i + 1) = ((c.run (es.take i)).step e.1 e.2.1 e.2.2).slot key := by
  unfold slotAt run
  rw [List.take_add_one, h, List.foldl_append]
  rfl

/-- Beyond the last event the slot stays as it is. -/
theorem slotAt_succ_of_none {es : List Happening} {i : Nat} (h : es[i]? = none) :
    c.slotAt key es (i + 1) = c.slotAt key es i := by
  unfold slotAt
  rw [List.take_add_one, h, Option.toList_none, List.append_nil]

/-- **A caller is told what it is seen to be told.** -/
theorem tells_iff {es : List Happening} {i : Nat} {now : Moment} {a : Answer} :
    c.Tells key es i now a
      ↔ ∃ sight, (c.watch key es)[i]? = some (now, sight) ∧ sight.answer? = some a := by
  rw [getElem?_watch]
  constructor
  · rintro ⟨e, hi, ha⟩
    refine ⟨_, by rw [hi]; rfl, ?_⟩
    unfold see
    rw [if_pos rfl, Slot.answer?_see, settings_run]
    exact ha
  · rintro ⟨sight, hsight, ha⟩
    obtain ⟨⟨later, other, e⟩, hi, heq⟩ := Option.map_eq_some_iff.mp hsight
    obtain ⟨rfl, rfl⟩ := Prod.mk.inj heq
    unfold see at ha
    dsimp only at ha
    split at ha
    · next hkey =>
      subst hkey
      rw [Slot.answer?_see, settings_run] at ha
      exact ⟨e, hi, ha⟩
    · cases ha

end

/-- Every answer of a run was there before or has been told in the run. -/
theorem mem_answers_run {c : Collector} {es : List Happening} {a : Answer}
    (h : a ∈ (c.run es).answers) : a ∈ c.answers ∨ ∃ key i now, c.Tells key es i now a := by
  induction es generalizing c with
  | nil => exact .inl h
  | cons e es ih =>
    obtain ⟨now, key, e⟩ := e
    rcases ih h with hmem | ⟨other, i, later, asked, hi, ha⟩
    · rcases List.mem_append.mp hmem with hmem | hmem
      · exact .inl hmem
      · exact .inr ⟨key, 0, now, e, rfl, Option.mem_toList.mp hmem⟩
    · exact .inr ⟨other, i + 1, later, asked, hi, ha⟩

section

variable (settings : CollectorSettings) (key : String) (es : List Happening)

/-- Whatever is seen of a slot is seen of an event in it. -/
theorem exists_event {k : Nat} {sight : Sight} (h : Saw ((start settings).watch key es) k sight)
    (hsight : sight ≠ .nothing) : ∃ now e, es[k]? = some (now, key, e)
      ∧ ((start settings).slotAt key es k).see settings now e = sight := by
  obtain ⟨now, h⟩ := h
  rw [getElem?_watch] at h
  obtain ⟨⟨later, other, e⟩, hk, heq⟩ := Option.map_eq_some_iff.mp h
  obtain ⟨rfl, hsee⟩ := Prod.mk.inj heq
  unfold see at hsee
  dsimp only at hsee
  split at hsee
  · next hkey =>
    subst hkey
    rw [settings_run] at hsee
    exact ⟨later, e, hk, hsee⟩
  · exact absurd hsee.symm hsight

/-- Only a caller that is to be cancelled is seen to be. -/
theorem exists_cancel {call k : Nat}
    (h : Saw ((start settings).watch key es) k (.cancelled call)) :
    ∃ now, es[k]? = some (now, key, .cancel call) := by
  obtain ⟨now, e, hk, hsee⟩ := exists_event settings key es h nofun
  cases eq_cancel_of_see hsee
  exact ⟨now, hk⟩

/-- Only a caller that arrives is seen to. -/
theorem exists_arrive {call k : Nat}
    (h : Saw ((start settings).watch key es) k (.arrived call)) :
    ∃ now, es[k]? = some (now, key, .arrive call) := by
  obtain ⟨now, e, hk, hsee⟩ := exists_event settings key es h nofun
  cases eq_arrive_of_see hsee
  exact ⟨now, hk⟩

/-- **Every run of a new collector is a past of the slot of a cluster.** -/
theorem past_watch :
    Past settings ((start settings).watch key es) (((start settings).run es).slot key) :=
  (start settings).past_append key (Past.nil : Past settings [] .empty) es

/-- The slot at a position of a run has the log before it as its past. -/
theorem past_slotAt (i : Nat) :
    Past settings (((start settings).watch key es).take i) ((start settings).slotAt key es i) := by
  rw [← watch_take]
  exact past_watch settings key (es.take i)

/-- **Between two positions of a run there is a transition.** -/
theorem transition_slotAt {i : Nat} {now : Moment} {sight : Sight}
    (h : ((start settings).watch key es)[i]? = some (now, sight)) :
    Transition settings now ((start settings).slotAt key es i)
      ((start settings).slotAt key es (i + 1)) sight := by
  rw [getElem?_watch] at h
  obtain ⟨e, hi, heq⟩ := Option.map_eq_some_iff.mp h
  obtain ⟨rfl, rfl⟩ := Prod.mk.inj heq
  rw [slotAt_succ _ _ hi]
  have ht := ((start settings).run (es.take i)).step_transition key e
  rw [settings_run] at ht
  exact ht

end

end Collector

end ClusterScaling
