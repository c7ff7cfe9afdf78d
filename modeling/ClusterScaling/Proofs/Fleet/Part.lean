import ClusterScaling.Proofs.Collector.Isolation
import ClusterScaling.Proofs.Fleet.Serial

/-!
# The part of a fleet that concerns one cluster

What a fleet keeps about one cluster, the cycles of the cluster that are
under way, and their results make up a fleet again, `Fleet.alone`. It has
one book, and the cycles in it hold that book where they held the one of
their cluster before. Nobody records anything there; figures follow from
results, which is another matter.

Cycles stand in one list, under the identities of their requests. As for
callers, `home` names the cluster of each of them (`Fleet.Homely`). That a
cycle knows no book but that of its cluster is part of what makes a fleet
orderly.
-/

namespace ClusterScaling

/-- The cluster that an event concerns, if `home` names the cluster of each cycle. -/
def Fleet.Event.key (home : Nat → String) : Fleet.Event → String
  | .request call _ => call.cluster.key
  | .collector key _ => key
  | .look id | .begin id | .queue id | .enter id | .resume id | .advise id _ | .cancel id => home id

/-- Whether an event brings identities to their own cluster only. -/
def Fleet.Event.Homely (home : Nat → String) : Fleet.Event → Prop
  | .request call _ => home call.id = call.cluster.key
  | .collector key e => e.Homely home key
  | _ => True

instance (home : Nat → String) (e : Fleet.Event) : Decidable (e.Homely home) :=
  match e with
  | .request call _ => inferInstanceAs (Decidable (home call.id = call.cluster.key))
  | .collector key e => inferInstanceAs (Decidable (e.Homely home key))
  | .look _ | .begin _ | .queue _ | .enter _ | .resume _ | .advise _ _ | .cancel _ =>
    .isTrue trivial

variable {home : Nat → String} {key : String}

/-! ## Lists -/

section

variable {α : Type} {p q r : α → Bool} {xs : List α}

/-- The first one of some is the first one of all, if it is one of them. -/
theorem find?_filter_of_iff (h : ∀ x ∈ xs, p x = true ↔ q x = true ∧ r x = true) :
    (xs.filter q).find? r = xs.find? p := by
  induction xs with
  | nil => rfl
  | cons x xs ih =>
    obtain ⟨hx, hxs⟩ := List.forall_mem_cons.mp h
    cases hq : q x with
    | true =>
      have hsame : r x = p x := Bool.eq_iff_iff.mpr (by simp [hx, hq])
      rw [List.filter_cons_of_pos hq, List.find?_cons, List.find?_cons, hsame, ih hxs]
    | false =>
      have hnot : ¬ p x = true := fun hp => by
        rw [hq] at hx
        cases (hx.mp hp).1
      rw [List.filter_cons_of_neg (by rw [hq]; exact Bool.false_ne_true),
        List.find?_cons_of_neg hnot, ih hxs]

/-- One of some is taken away from all. -/
theorem filter_eraseP_of_imp (h : ∀ x ∈ xs, p x = true → q x = true) :
    (xs.eraseP p).filter q = (xs.filter q).eraseP p := by
  rw [List.eraseP_filter]
  induction xs with
  | nil => rfl
  | cons x xs ih =>
    obtain ⟨hx, hxs⟩ := List.forall_mem_cons.mp h
    cases hp : p x with
    | true =>
      have hboth : (p x && q x) = true := by rw [hp, hx hp]; rfl
      rw [List.eraseP_cons_of_pos hp,
        List.eraseP_cons_of_pos (p := fun x => p x && q x) hboth]
    | false =>
      have hnot : ¬ p x = true := by rw [hp]; exact Bool.false_ne_true
      have hboth : ¬ (p x && q x) = true := by rw [hp]; exact Bool.false_ne_true
      rw [List.eraseP_cons_of_neg hnot,
        List.eraseP_cons_of_neg (p := fun x => p x && q x) hboth, List.filter_cons,
        List.filter_cons, ih hxs]

/-- If one of the others is taken away, some stay as they are. -/
theorem filter_eraseP_of_not (h : ∀ x ∈ xs, p x = true → q x = false) :
    (xs.eraseP p).filter q = xs.filter q := by
  induction xs with
  | nil => rfl
  | cons x xs ih =>
    obtain ⟨hx, hxs⟩ := List.forall_mem_cons.mp h
    cases hp : p x with
    | true =>
      rw [List.eraseP_cons_of_pos hp,
        List.filter_cons_of_neg (by rw [hx hp]; exact Bool.false_ne_true)]
    | false =>
      rw [List.eraseP_cons_of_neg (by rw [hp]; exact Bool.false_ne_true), List.filter_cons,
        List.filter_cons, ih hxs]

end

/-! ## Histories -/

namespace HistoryStore

/-- A store that knows at most one cluster. -/
def alone (capacity : UInt64) (key : String) (h : Option ClusterHistory) : HistoryStore :=
  h.elim (.empty capacity) ((empty capacity).put key)

variable {capacity : UInt64}

theorem book?_alone (h : Option ClusterHistory) :
    (alone capacity key h).book? key = h.map fun _ => 0 := by
  cases h with
  | none => rfl
  | some h => exact (Table.get?_insert ..).trans (if_pos rfl)

theorem read_alone (h : ClusterHistory) : (alone capacity key (some h)).read 0 = h := rfl

theorem get?_alone (h : Option ClusterHistory) : (alone capacity key h).get? key = h := by
  unfold get?
  rw [book?_alone]
  cases h <;> rfl

theorem write_alone (h h' : ClusterHistory) :
    (alone capacity key (some h)).write 0 h' = alone capacity key (some h') := rfl

theorem provide_alone (h : Option ClusterHistory) :
    (alone capacity key h).provide key
      = (alone capacity key (some (h.getD (.empty capacity))), 0) := by
  cases h with
  | none => rfl
  | some h => exact provide_of_book? (book?_alone (some h))

variable {s : HistoryStore} {book : Nat}

theorem get?_of_book? (hb : s.book? key = some book) : s.get? key = some (s.read book) := by
  unfold get?
  rw [hb]
  rfl

/-- Writing the book of another cluster leaves a cluster as it is. -/
theorem get?_write (hb : s.book? key = some book) (h : ClusterHistory) (other : String) :
    (s.write book h).get? other = if key = other then some h else s.get? other := by
  unfold get?
  rw [book?_write]
  split
  · next hkey =>
    rw [← hkey, hb, Option.map_some, read_write hb, if_pos rfl]
  · next hkey =>
    cases ho : s.book? other with
    | none => rfl
    | some n =>
      have hne : book ≠ n := by
        rintro rfl
        exact hkey (s.unshared key other book hb ho)
      rw [Option.map_some, Option.map_some, read_write hb, if_neg hne]

/-- A cluster that becomes known has the histories that it had unknown. -/
theorem get?_provide (s : HistoryStore) (key other : String) :
    (s.provide key).1.get? other
      = if key = other then some (s.histories key) else s.get? other := by
  split
  · next hkey =>
    subst hkey
    have hb := (book?_provide s key key).trans (if_pos rfl)
    rw [get?_of_book? hb, ← histories_eq_read hb, histories_provide]
  · next hkey =>
    unfold get?
    rw [book?_provide, if_neg hkey]
    cases ho : s.book? other with
    | none => rfl
    | some n => rw [Option.map_some, Option.map_some, read_provide ho]

end HistoryStore

/-! ## Cycles under way -/

/-- Where a cycle is if its cluster is the only one. -/
def Station.alone : Station → Station
  | seeking => seeking
  | missing => missing
  | found _ => found 0
  | waiting _ => waiting 0
  | collecting _ => collecting 0
  | asking _ snapshot drafts => asking 0 snapshot drafts

/-- A cycle under way if its cluster is the only one. -/
def Visit.alone (v : Visit) : Visit := ⟨v.call, v.station.alone⟩

theorem Station.held?_alone (station : Station) :
    station.alone.held? = station.held?.map fun _ => 0 := by
  cases station <;> rfl

namespace Fleet

/-- Whoever is under way in a fleet asks about one cluster. -/
structure Homely (home : Nat → String) (f : Fleet) : Prop where
  /-- Cycles ask about the cluster of their identity. -/
  visits : ∀ v ∈ f.visits, home v.call.id = v.call.cluster.key
  /-- Callers of the collector do. -/
  collector : f.collector.Homely home
  /-- Results are about the cluster of their identity. -/
  outcomes : ∀ o ∈ f.outcomes, home o.1 = o.2.cluster

/-- The part of a fleet that concerns one cluster. -/
def alone (home : Nat → String) (key : String) (f : Fleet) : Fleet where
  settings := f.settings
  collector := f.collector.alone home key
  histories := .alone f.histories.capacity key (f.histories.get? key)
  recorder := none
  visits := (f.visits.filter fun v => v.call.concerns key).map Visit.alone
  outcomes := f.resultsOf key

variable {f : Fleet}

/-- Whether a fleet is homely is not a matter of what is remembered. -/
theorem Homely.with_histories (hf : f.Homely home) (histories : HistoryStore)
    (recorder : Option Recorder) : { f with histories, recorder }.Homely home :=
  ⟨hf.visits, hf.collector, hf.outcomes⟩

/-- A cycle is found among those of its cluster. -/
theorem visit?_alone (hf : f.Homely home) {id : Nat} (hid : home id = key) :
    (f.alone home key).visit? id = (f.visit? id).map Visit.alone := by
  unfold visit? alone
  dsimp only
  rw [List.find?_map]
  refine congrArg _ (find?_filter_of_iff fun v hv => ?_)
  show (v.call.id == id) = true ↔ (v.call.cluster.key == key) = true ∧ (v.call.id == id) = true
  rw [beq_iff_eq, beq_iff_eq]
  refine ⟨fun h => ⟨?_, h⟩, And.right⟩
  rw [← hf.visits v hv, h, hid]

/-- The result of a cycle is found among those of its cluster. -/
theorem outcome?_alone (hf : f.Homely home) {id : Nat} (hid : home id = key) :
    (f.alone home key).outcome? id = f.outcome? id := by
  unfold outcome? alone resultsOf
  refine congrArg _ (find?_filter_of_iff fun o ho => ?_)
  rw [beq_iff_eq, beq_iff_eq]
  refine ⟨fun h => ⟨?_, h⟩, And.right⟩
  rw [← hf.outcomes o ho, h, hid]

/-- A cycle of the cluster is added to those of the cluster. -/
theorem map_filter_append {call : CycleCall} (hkey : call.cluster.key = key) (station : Station)
    (vs : List Visit) :
    ((vs ++ [(⟨call, station⟩ : Visit)]).filter fun v => v.call.concerns key).map Visit.alone
      = (vs.filter fun v => v.call.concerns key).map Visit.alone ++ [⟨call, station.alone⟩] := by
  have hown : call.concerns key = true := beq_iff_eq.mpr hkey
  rw [List.filter_append, List.filter_cons, if_pos hown, List.map_append]
  rfl

/-- A cycle of another cluster is not added to them. -/
theorem map_filter_append_of_ne {call : CycleCall} (hne : call.cluster.key ≠ key)
    (station : Station) (vs : List Visit) :
    ((vs ++ [(⟨call, station⟩ : Visit)]).filter fun v => v.call.concerns key).map Visit.alone
      = (vs.filter fun v => v.call.concerns key).map Visit.alone := by
  have hother : ¬ call.concerns key = true := fun h => hne (beq_iff_eq.mp h)
  rw [List.filter_append, List.filter_cons, if_neg hother, List.filter_nil, List.append_nil]

/-- The other cycles of a cluster are those of the other cycles. -/
theorem others_alone (hf : f.Homely home) {id : Nat} (hid : home id = key) :
    ((f.others id).filter fun v => v.call.concerns key).map Visit.alone
      = (f.alone home key).others id := by
  unfold others alone
  dsimp only
  rw [List.eraseP_map, filter_eraseP_of_imp]
  · rfl
  · intro v hv h
    have hid' : v.call.id = id := beq_iff_eq.mp h
    exact beq_iff_eq.mpr (by rw [← hf.visits v hv, hid', hid])

/-- If a cycle of another cluster is taken away, those of a cluster stay as they are. -/
theorem others_alone_of_ne (hf : f.Homely home) {id : Nat} (hid : home id ≠ key) :
    ((f.others id).filter fun v => v.call.concerns key).map Visit.alone
      = (f.alone home key).visits := by
  unfold others
  rw [filter_eraseP_of_not]
  · rfl
  · intro v hv h
    have hid' : v.call.id = id := beq_iff_eq.mp h
    refine Bool.eq_false_iff.mpr fun hkey => hid ?_
    rw [← hid', hf.visits v hv]
    exact beq_iff_eq.mp hkey

/-! ## The queue for a book -/

section

variable (hf : f.Orderly) {book : Nat} (hbook : f.histories.book? key = some book)

include hf hbook

/-- A cycle is at a book if it is one of the cluster and at its only book. -/
theorem book?_alone_iff {v : Visit} (hv : v ∈ f.visits) :
    v.station.book? = some book
      ↔ v.call.concerns key = true ∧ v.station.alone.book? = some 0 := by
  have hsome : v.station.alone.book? = some 0 ↔ ∃ other, v.station.book? = some other := by
    cases v.station <;> simp [Station.alone, Station.book?]
  rw [hsome]
  constructor
  · intro h
    refine ⟨beq_iff_eq.mpr ?_, book, h⟩
    exact f.histories.unshared _ _ book (hf.booked v hv book h) hbook
  · rintro ⟨hkey, other, h⟩
    have hown := hf.booked v hv other h
    rw [show v.call.cluster.key = key from beq_iff_eq.mp hkey, hbook] at hown
    rw [h, hown]

/-- A cycle holds the book of its cluster if it holds its only one. -/
theorem holds_alone_iff {v : Visit} (hv : v ∈ f.visits) :
    v.station.holds book = true
      ↔ v.call.concerns key = true ∧ v.station.alone.holds 0 = true := by
  rw [Station.holds_iff, Station.holds_iff, Station.held?_alone]
  constructor
  · intro h
    obtain ⟨hkey, -⟩ := (book?_alone_iff hf hbook hv).mp (Station.book?_of_held? h)
    rw [h]
    exact ⟨hkey, rfl⟩
  · rintro ⟨hkey, h⟩
    obtain ⟨other, h, -⟩ := Option.map_eq_some_iff.mp h
    rw [h, ← Station.book?_of_held? h]
    refine (book?_alone_iff hf hbook hv).mpr ⟨hkey, ?_⟩
    exact Station.book?_of_held? (by rw [Station.held?_alone, h]; rfl)

/-- A cycle waits for the book of its cluster if it waits for its only one. -/
theorem waitsFor_alone_iff {v : Visit} (hv : v ∈ f.visits) :
    v.station.waitsFor book = true
      ↔ v.call.concerns key = true ∧ v.station.alone.waitsFor 0 = true := by
  have hboth := book?_alone_iff hf hbook hv
  obtain ⟨call, station⟩ := v
  cases station with
  | waiting other => simpa [Station.waitsFor, Station.alone, Station.book?] using hboth
  | _ => simp [Station.waitsFor, Station.alone]

/-- **Who is next at a book is who is next in its cluster.** -/
theorem next?_alone : (f.alone home key).next? 0 = f.next? book := by
  have hheld : (f.alone home key).isHeld 0 = f.isHeld book := by
    refine Bool.eq_iff_iff.mpr ?_
    unfold isHeld alone
    dsimp only
    rw [List.any_map, List.any_filter, List.any_eq_true, List.any_eq_true]
    refine exists_congr fun v => and_congr_right fun hv => ?_
    rw [holds_alone_iff hf hbook hv]
    exact Bool.and_eq_true_iff
  unfold next?
  rw [hheld]
  refine ite_congr rfl (fun _ => rfl) fun _ => ?_
  unfold alone
  dsimp only
  rw [List.find?_map, Option.map_map]
  exact congrArg _ (find?_filter_of_iff fun v hv => waitsFor_alone_iff hf hbook hv)

end

/-! ## What an event does to the part

Each of the functions of which an event is made up does the same to the
part of a cluster, if its cycle asks about the cluster, and leaves the
part as it is, if it does not. -/

section

variable (hf : f.Homely home) {call : CycleCall} (hid : home call.id = call.cluster.key)

include hf hid

theorem alone_move (hkey : call.cluster.key = key) (station : Station) :
    (f.move call station).alone home key = (f.alone home key).move call station.alone := by
  refine congrArg (fun visits => { f.alone home key with visits }) ?_
  rw [← others_alone hf (hid.trans hkey)]
  exact map_filter_append hkey station _

theorem alone_move_of_ne (hne : call.cluster.key ≠ key) (station : Station) :
    (f.move call station).alone home key = f.alone home key := by
  refine congrArg (fun visits => { f.alone home key with visits }) ?_
  refine (map_filter_append_of_ne hne station _).trans ?_
  exact others_alone_of_ne hf fun h => hne (hid.symm.trans h)

theorem alone_dismiss (hkey : call.cluster.key = key) :
    (f.dismiss call).alone home key = (f.alone home key).dismiss call :=
  congrArg (fun visits => { f.alone home key with visits }) (others_alone hf (hid.trans hkey))

theorem alone_dismiss_of_ne (hne : call.cluster.key ≠ key) :
    (f.dismiss call).alone home key = f.alone home key :=
  congrArg (fun visits => { f.alone home key with visits })
    (others_alone_of_ne hf fun h => hne (hid.symm.trans h))

end

section

variable {call : CycleCall}

theorem alone_conclude {o : Outcome} (hkey : o.cluster = key) :
    (f.conclude call o).alone home key = (f.alone home key).conclude call o := by
  refine congrArg (fun outcomes => { f.alone home key with outcomes }) ?_
  unfold resultsOf conclude
  dsimp only
  rw [List.filter_append, List.filter_cons_of_pos (p := fun o : Nat × Outcome => o.2.cluster == key)
    (beq_iff_eq.mpr hkey)]
  rfl

theorem alone_conclude_of_ne {o : Outcome} (hne : o.cluster ≠ key) :
    (f.conclude call o).alone home key = f.alone home key := by
  refine congrArg (fun outcomes => { f.alone home key with outcomes }) ?_
  unfold resultsOf conclude
  dsimp only
  rw [List.filter_append, List.filter_cons_of_neg (p := fun o : Nat × Outcome => o.2.cluster == key)
    fun h => hne (beq_iff_eq.mp h)]
  exact List.append_nil _

/-- A cluster is known in its part if it is known in the whole, by the only book. -/
theorem book?_alone (home : Nat → String) (key : String) (f : Fleet) :
    (f.alone home key).histories.book? key = (f.histories.book? key).map fun _ => 0 := by
  refine (HistoryStore.book?_alone _).trans ?_
  unfold HistoryStore.get?
  rw [Option.map_map]
  rfl

/-- The histories in a part are those of its cluster. -/
theorem get?_histories_alone (home : Nat → String) (key : String) (f : Fleet) :
    (f.alone home key).histories.get? key = f.histories.get? key :=
  HistoryStore.get?_alone _

/-- A cluster becomes known in its part when it becomes known in the whole. -/
theorem alone_provide (home : Nat → String) (key : String) (f : Fleet) :
    { f with histories := (f.histories.provide key).1 }.alone home key
      = { f.alone home key with histories := ((f.alone home key).histories.provide key).1 } := by
  refine congrArg (fun histories => { f.alone home key with histories }) ?_
  unfold alone
  dsimp only
  rw [HistoryStore.get?_provide, if_pos rfl, HistoryStore.provide_alone,
    HistoryStore.capacity_provide]
  rfl

/-- The book of a cluster that becomes known in its part is the only one. -/
theorem provide_alone (home : Nat → String) (key : String) (f : Fleet) :
    ((f.alone home key).histories.provide key).2 = 0 :=
  congrArg Prod.snd (HistoryStore.provide_alone _)

/-- A cluster that becomes known leaves the parts of others as they are. -/
theorem alone_provide_of_ne (home : Nat → String) {other : String} (hne : other ≠ key) (f : Fleet) :
    { f with histories := (f.histories.provide other).1 }.alone home key = f.alone home key := by
  refine congrArg (fun histories => { f.alone home key with histories }) ?_
  dsimp only
  rw [HistoryStore.get?_provide, if_neg hne, HistoryStore.capacity_provide]

variable {book : Nat} (hbook : f.histories.book? call.cluster.key = some book)

include hbook

variable (home) in
/-- The only book of a part says what the book of its cluster says. -/
theorem read_alone (hkey : call.cluster.key = key) :
    (f.alone home key).histories.read 0 = f.histories.read book := by
  unfold alone
  dsimp only
  rw [← hkey, HistoryStore.get?_of_book? hbook]
  exact HistoryStore.read_alone _

/-- What is written for a cluster is written in the only book of its part. -/
theorem alone_write (hkey : call.cluster.key = key) (h : ClusterHistory)
    (recorder : Option Recorder) :
    { f with histories := f.histories.write book h, recorder }.alone home key
      = { f.alone home key with histories := (f.alone home key).histories.write 0 h } := by
  refine congrArg (fun histories => { f.alone home key with histories }) ?_
  unfold alone
  dsimp only
  rw [← hkey, HistoryStore.get?_write hbook, if_pos rfl, HistoryStore.get?_of_book? hbook,
    HistoryStore.write_alone]
  rfl

/-- What is written for another cluster is not written in the part. -/
theorem alone_write_of_ne (hne : call.cluster.key ≠ key) (h : ClusterHistory)
    (recorder : Option Recorder) :
    { f with histories := f.histories.write book h, recorder }.alone home key
      = f.alone home key := by
  refine congrArg (fun histories => { f.alone home key with histories }) ?_
  dsimp only
  rw [HistoryStore.get?_write hbook, if_neg hne]
  rfl

variable (hf : f.Homely home) (hid : home call.id = call.cluster.key)

include hf hid

section

variable {o : Outcome} (ho : o.cluster = call.cluster.key)

include ho

/-- **A cycle commits in the part what it commits in the whole.** -/
theorem alone_commit (hkey : call.cluster.key = key) :
    (f.commit call book o).alone home key = (f.alone home key).commit call 0 o := by
  unfold commit
  rw [read_alone home hbook hkey]
  dsimp only
  generalize hh : Cycle.remember f.settings call.live o (f.histories.read book) call.now = h
  generalize (f.recorder.map fun r => Cycle.record r o) = recorder
  rw [alone_conclude (ho.trans hkey), alone_dismiss (hf.with_histories _ recorder) hid hkey,
    alone_write hbook hkey, ← hh]
  rfl

/-- **A cycle of another cluster commits nothing in the part.** -/
theorem alone_commit_of_ne (hne : call.cluster.key ≠ key) :
    (f.commit call book o).alone home key = f.alone home key := by
  unfold commit
  dsimp only
  generalize Cycle.remember f.settings call.live o (f.histories.read book) call.now = h
  generalize (f.recorder.map fun r => Cycle.record r o) = recorder
  rw [alone_conclude_of_ne (ho ▸ hne), alone_dismiss_of_ne (hf.with_histories _ recorder) hid hne,
    alone_write_of_ne hbook hne]

end

/-- A cycle decides in the part what it decides in the whole. -/
theorem alone_decide (hkey : call.cluster.key = key) (snapshot : Snapshot)
    (drafts : PerTier Draft) (advice : Option Advice) :
    (f.decide call book snapshot drafts advice).alone home key
      = (f.alone home key).decide call 0 snapshot drafts advice := by
  refine (alone_commit hbook hf hid rfl hkey).trans ?_
  rw [← read_alone home hbook hkey]
  rfl

/-- What a cycle learns about the readings does to the part what it does to the whole. -/
theorem alone_resume (hkey : call.cluster.key = key) (result : Except Fault Snapshot) :
    (f.resume call book result).alone home key = (f.alone home key).resume call 0 result := by
  cases result with
  | error fault =>
    cases fault with
    | cancelled =>
      refine (alone_conclude hkey).trans ?_
      rw [alone_dismiss hf hid hkey]
      rfl
    | _ => exact alone_commit hbook hf hid rfl hkey
  | ok snapshot =>
    have hsettings : (f.alone home key).settings = f.settings := rfl
    unfold resume
    dsimp only
    rw [read_alone home hbook hkey, hsettings]
    split
    · exact alone_move hf hid hkey _
    · exact alone_decide hbook hf hid hkey snapshot _ none

/-- What a cycle of another cluster learns about the readings leaves the part as it is. -/
theorem alone_resume_of_ne (hne : call.cluster.key ≠ key) (result : Except Fault Snapshot) :
    (f.resume call book result).alone home key = f.alone home key := by
  cases result with
  | error fault =>
    cases fault with
    | cancelled => exact (alone_conclude_of_ne hne).trans (alone_dismiss_of_ne hf hid hne)
    | _ => exact alone_commit_of_ne hbook hf hid rfl hne
  | ok snapshot =>
    unfold resume
    dsimp only
    split
    · exact alone_move_of_ne hf hid hne _
    · exact alone_commit_of_ne hbook hf hid rfl hne

end

end Fleet

end ClusterScaling
