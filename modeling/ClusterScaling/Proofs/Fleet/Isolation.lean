import ClusterScaling.Proofs.Fleet.Figures
import ClusterScaling.Proofs.Fleet.Part
import ClusterScaling.Proofs.Series.Cooldown

/-!
# Clusters are isolated

Clusters share a fleet: one collector, one store of histories, one
recorder, and one list each of the cycles under way, of the answers and of
the results. They may name their sources alike. Still, what becomes of a
cluster is what would have become of it alone. An event that concerns a
cluster does to the part of the cluster what it does to the whole
(`Fleet.alone_step`), and every other event leaves the part as it is
(`Fleet.alone_step_of_ne`). So the part of a cluster after a run is what
the events that concern it make of a fleet by themselves
(`Fleet.alone_run`), and the same events by themselves in the same fleet
lead to the same part.

Entries are made for a cluster when it is first mentioned, and books are
numbered as they are begun, so a cluster that is alone writes in another
book. The part forgets the number. Figures are not kept in it, but follow
from the results that are (`Fleet.figures_run`).
-/

namespace ClusterScaling

namespace Fleet

variable {home : Nat → String} {key : String} {f : Fleet} {id : Nat}

/-- A cycle that is found asks about the cluster of its identity. -/
theorem Homely.of_visit? (hh : f.Homely home) {call : CycleCall} {station : Station}
    (hv : f.visit? id = some ⟨call, station⟩) :
    home call.id = call.cluster.key ∧ call.cluster.key = home id := by
  have hown : home call.id = call.cluster.key := hh.visits _ (mem_of_visit? hv)
  have hid : call.id = id := id_of_visit? hv
  exact ⟨hown, hown ▸ congrArg home hid⟩

/-- A book that it has found is that of its cluster. -/
theorem Orderly.book?_of_visit? (hf : f.Orderly) {call : CycleCall} {station : Station}
    (hv : f.visit? id = some ⟨call, station⟩) {book : Nat} (hbook : station.book? = some book) :
    f.histories.book? call.cluster.key = some book :=
  hf.booked _ (mem_of_visit? hv) book hbook

/-- A fleet about which nothing is known is homely. -/
theorem homely_start (s : Settings) (recorder : Option Recorder) :
    (start s recorder).Homely home where
  visits _ hv := absurd hv List.not_mem_nil
  collector := Collector.homely_start s.collector
  outcomes _ ho := absurd ho List.not_mem_nil

section

variable {e : Event} {f' : Fleet} {sight : Sight}

/-- Every cycle that is under way after an event asks about the cluster of its identity. -/
theorem Transition.homely_visits (ht : Transition f e f' sight) (hh : f.Homely home)
    (hrequest : ∀ call, sight.requested? = some call → home call.id = call.cluster.key) :
    ∀ v ∈ f'.visits, home v.call.id = v.call.cluster.key := by
  cases ht with
  | still hv | refuse _ hv =>
    rw [hv]
    exact hh.visits
  | request call hv =>
    rw [hv]
    exact List.forall_mem_append.mpr ⟨hh.visits, List.forall_mem_singleton.mpr (hrequest call rfl)⟩
  | approach v rest station hperm hv =>
    rw [hv]
    obtain ⟨hmem, hrest⟩ := mem_of_perm hperm
    exact List.forall_mem_append.mpr ⟨fun w hw => hh.visits w (hrest w hw),
      List.forall_mem_singleton.mpr (hh.visits v hmem)⟩
  | enter call rest book hperm hv | ask call rest book snapshot hperm hv =>
    rw [hv]
    obtain ⟨hmem, hrest⟩ := mem_of_perm hperm
    have hown := hh.visits _ hmem
    exact List.forall_mem_append.mpr ⟨fun w hw => hh.visits w (hrest w hw),
      List.forall_mem_singleton.mpr hown⟩
  | leave v rest hperm hv | commit v rest book told hperm hv =>
    rw [hv]
    exact fun w hw => hh.visits w ((mem_of_perm hperm).2 w hw)

/-- Every result after an event is about the cluster of its identity. -/
theorem Transition.homely_outcomes (ht : Transition f e f' sight) (hh : f.Homely home)
    (hrequest : ∀ call, sight.requested? = some call → home call.id = call.cluster.key) :
    ∀ o ∈ f'.outcomes, home o.1 = o.2.cluster := by
  cases ht with
  | still _ _ ho | request _ _ _ ho | approach _ _ _ _ _ _ _ _ _ ho | enter _ _ _ _ _ _ _ ho
    | ask _ _ _ _ _ _ _ _ _ ho =>
    rw [ho]
    exact hh.outcomes
  | refuse call _ _ ho =>
    rw [ho]
    exact List.forall_mem_append.mpr
      ⟨hh.outcomes, List.forall_mem_singleton.mpr (hrequest call rfl)⟩
  | leave v rest hperm _ _ ho =>
    rw [ho]
    exact List.forall_mem_append.mpr
      ⟨hh.outcomes, List.forall_mem_singleton.mpr (hh.visits v (mem_of_perm hperm).1)⟩
  | commit v rest book told hperm _ _ _ _ ho =>
    rw [ho]
    refine List.forall_mem_append.mpr ⟨hh.outcomes, List.forall_mem_singleton.mpr ?_⟩
    rw [Cycle.cluster_outcome]
    exact hh.visits v (mem_of_perm hperm).1

/-- Whoever is requested by an event is requested for the cluster of its identity. -/
theorem Event.Homely.requested (he : e.Homely home) {call : CycleCall}
    (hrequested : (f.see e).requested? = some call) : home call.id = call.cluster.key := by
  cases e with
  | request other cancelled =>
    cases cancelled <;> cases hrequested <;> exact he
  | look id | begin id | queue id | collector key e => cases hrequested
  | enter id | resume id | advise id advice | cancel id =>
    unfold see at hrequested
    dsimp only at hrequested
    repeat' split at hrequested
    all_goals cases hrequested

end

/-- Nobody but a cycle of a cluster is let into its slot. -/
theorem Homely.collector_step (hh : f.Homely home) (now : Moment) {e : Event}
    (he : e.Homely home) : (f.step now e).collector.Homely home := by
  rcases (f.step_asks now e).2 with hsame | ⟨key, asked, hasks, hstep⟩
  · rw [hsame]
    exact hh.collector
  · rw [hstep]
    refine hh.collector.step now ?_
    cases hasks with
    | apart _ _ happens =>
      subst happens
      exact he
    | arrive call station hv => exact (hh.of_visit? hv).1
    | cancel call station hv => exact trivial

/-- **An event leaves a homely fleet homely.** -/
theorem Homely.step (hh : f.Homely home) (hf : f.Orderly) (now : Moment) {e : Event}
    (he : e.Homely home) : (f.step now e).Homely home where
  visits := (step_transition hf now e).homely_visits hh fun _ => he.requested
  collector := hh.collector_step now he
  outcomes := (step_transition hf now e).homely_outcomes hh fun _ => he.requested

/-! ## An event that concerns the cluster -/

section

variable (hh : f.Homely home) (now : Moment) (hid : home id = key)

include hh hid

/-- The cycle that an event is about asks about the cluster. -/
theorem concerned_of_visit? {call : CycleCall} {station : Station}
    (hv : f.visit? id = some ⟨call, station⟩) :
    home call.id = call.cluster.key ∧ call.cluster.key = key := by
  obtain ⟨hown, hkey⟩ := hh.of_visit? hv
  exact ⟨hown, hkey.trans hid⟩

theorem alone_step_look :
    (f.step now (.look id)).alone home key = (f.alone home key).step now (.look id) := by
  unfold step
  dsimp only
  rw [visit?_alone hh hid]
  cases hv : f.visit? id with
  | none => rfl
  | some v =>
    obtain ⟨call, station⟩ := v
    obtain ⟨hown, hkey⟩ := concerned_of_visit? hh hid hv
    cases station with
    | seeking =>
      refine (alone_move hh hown hkey _).trans (congrArg ((f.alone home key).move call) ?_)
      rw [hkey, book?_alone]
      cases f.histories.book? key <;> rfl
    | _ => rfl

theorem alone_step_begin :
    (f.step now (.begin id)).alone home key = (f.alone home key).step now (.begin id) := by
  unfold step
  dsimp only
  rw [visit?_alone hh hid]
  cases hv : f.visit? id with
  | none => rfl
  | some v =>
    obtain ⟨call, station⟩ := v
    obtain ⟨hown, hkey⟩ := concerned_of_visit? hh hid hv
    cases station with
    | missing =>
      refine (alone_move (hh.with_histories _ f.recorder) hown hkey _).trans ?_
      rw [← hkey, alone_provide]
      refine congrArg (Fleet.move _ call) ?_
      rw [provide_alone]
      rfl
    | _ => rfl

theorem alone_step_queue :
    (f.step now (.queue id)).alone home key = (f.alone home key).step now (.queue id) := by
  unfold step
  dsimp only
  rw [visit?_alone hh hid]
  cases hv : f.visit? id with
  | none => rfl
  | some v =>
    obtain ⟨call, station⟩ := v
    obtain ⟨hown, hkey⟩ := concerned_of_visit? hh hid hv
    cases station with
    | found book => exact alone_move hh hown hkey _
    | _ => rfl

theorem alone_step_enter (hf : f.Orderly) :
    (f.step now (.enter id)).alone home key = (f.alone home key).step now (.enter id) := by
  unfold step
  dsimp only
  rw [visit?_alone hh hid]
  cases hv : f.visit? id with
  | none => rfl
  | some v =>
    obtain ⟨call, station⟩ := v
    obtain ⟨hown, hkey⟩ := concerned_of_visit? hh hid hv
    cases station with
    | waiting book =>
      have hbook := hf.book?_of_visit? hv rfl
      have hnext : (f.alone home key).next? 0 = f.next? book := next?_alone hf (hkey ▸ hbook)
      show (ite _ _ _ : Fleet).alone home key = ite ((f.alone home key).next? 0 = some id) _ _
      rw [hnext]
      split
      · have hcollector := Collector.alone_step hh.collector now
          (show Slot.Event.Homely home call.cluster.key (.arrive id) from hid.trans hkey.symm)
        have hmove := alone_move hh hown hkey (.collecting book)
        rw [hkey] at hcollector ⊢
        show { (f.move call (.collecting book)).alone home key with
            collector := (f.collector.step now key (.arrive id)).alone home key } = _
        rw [hmove, hcollector]
        rfl
      · rfl
    | _ => rfl

theorem alone_step_resume (hf : f.Orderly) :
    (f.step now (.resume id)).alone home key = (f.alone home key).step now (.resume id) := by
  unfold step
  dsimp only
  rw [visit?_alone hh hid]
  cases hv : f.visit? id with
  | none => rfl
  | some v =>
    obtain ⟨call, station⟩ := v
    cases station with
    | collecting book =>
      have hanswer : (f.alone home key).collector.answer? id = f.collector.answer? id :=
        Collector.answer?_alone hid f.collector
      dsimp only [Option.map_some, Visit.alone, Station.alone]
      rw [hanswer]
      cases f.collector.answer? id with
      | none => rfl
      | some result =>
        obtain ⟨hown, hkey⟩ := concerned_of_visit? hh hid hv
        exact alone_resume (hf.book?_of_visit? hv rfl) hh hown hkey result
    | _ => rfl

theorem alone_step_advise (hf : f.Orderly) (advice : Option Advice) :
    (f.step now (.advise id advice)).alone home key
      = (f.alone home key).step now (.advise id advice) := by
  unfold step
  dsimp only
  rw [visit?_alone hh hid]
  cases hv : f.visit? id with
  | none => rfl
  | some v =>
    obtain ⟨call, station⟩ := v
    obtain ⟨hown, hkey⟩ := concerned_of_visit? hh hid hv
    cases station with
    | asking book snapshot drafts =>
      have hbook := hf.book?_of_visit? hv rfl
      exact alone_decide hbook hh hown hkey snapshot drafts advice
    | _ => rfl

theorem alone_step_cancel :
    (f.step now (.cancel id)).alone home key = (f.alone home key).step now (.cancel id) := by
  unfold step
  dsimp only
  rw [visit?_alone hh hid]
  cases hv : f.visit? id with
  | none => rfl
  | some v =>
    obtain ⟨call, station⟩ := v
    obtain ⟨hown, hkey⟩ := concerned_of_visit? hh hid hv
    have hleave : ((f.dismiss call).abandon call).alone home key
        = ((f.alone home key).dismiss call).abandon call := by
      refine (alone_conclude hkey).trans ?_
      rw [alone_dismiss hh hown hkey]
      rfl
    cases station with
    | collecting book =>
      -- the cycle waits for the collector, where it is cancelled instead
      have hcollector := Collector.alone_step hh.collector now
        (show Slot.Event.Homely home key (.cancel call.id) from trivial)
      subst hkey
      exact congrArg (fun collector => { f.alone home call.cluster.key with collector }) hcollector
    | _ => exact hleave

end

/-- **An event that concerns a cluster does to its part what it does to the whole.** -/
theorem alone_step (hf : f.Orderly) (hh : f.Homely home) (now : Moment) {e : Event}
    (he : e.Homely home) (hkey : e.key home = key) :
    (f.step now e).alone home key = (f.alone home key).step now e := by
  cases e with
  | request call cancelled =>
    cases cancelled with
    | true => exact alone_conclude hkey
    | false =>
      exact congrArg (fun visits => { f.alone home key with visits })
        (map_filter_append hkey .seeking f.visits)
  | collector other e =>
    subst hkey
    refine congrArg (fun collector => { f.alone home other with collector }) ?_
    exact Collector.alone_step hh.collector now he
  | look id => exact alone_step_look hh now hkey
  | begin id => exact alone_step_begin hh now hkey
  | queue id => exact alone_step_queue hh now hkey
  | enter id => exact alone_step_enter hh now hkey hf
  | resume id => exact alone_step_resume hh now hkey hf
  | advise id advice => exact alone_step_advise hh now hkey hf advice
  | cancel id => exact alone_step_cancel hh now hkey

/-! ## Any other event -/

/-- **An event that concerns another cluster leaves the part of a cluster as it is.** -/
theorem alone_step_of_ne (hf : f.Orderly) (hh : f.Homely home) (now : Moment) {e : Event}
    (he : e.Homely home) (hne : e.key home ≠ key) :
    (f.step now e).alone home key = f.alone home key := by
  -- the cycle that an event is about asks about the other cluster
  have hother {id : Nat} (hid : home id ≠ key) {call : CycleCall} {station : Station}
      (hv : f.visit? id = some ⟨call, station⟩) :
      home call.id = call.cluster.key ∧ call.cluster.key ≠ key := by
    obtain ⟨hown, hkey⟩ := hh.of_visit? hv
    exact ⟨hown, fun h => hid (hkey.symm.trans h)⟩
  have hslot {other : String} (hkey : other ≠ key) {e : Slot.Event} (he : e.Homely home other) :
      { f with collector := f.collector.step now other e }.alone home key = f.alone home key :=
    congrArg (fun collector => { f.alone home key with collector })
      (Collector.alone_step_of_ne hh.collector now he hkey)
  cases e with
  | request call cancelled =>
    cases cancelled with
    | true => exact alone_conclude_of_ne hne
    | false =>
      exact congrArg (fun visits => { f.alone home key with visits })
        (map_filter_append_of_ne hne .seeking f.visits)
  | collector other e => exact hslot hne he
  | look id =>
    unfold step
    dsimp only
    split
    · next call hv =>
      obtain ⟨hown, hkey⟩ := hother hne hv
      exact alone_move_of_ne hh hown hkey _
    · rfl
  | begin id =>
    unfold step
    dsimp only
    split
    · next call hv =>
      obtain ⟨hown, hkey⟩ := hother hne hv
      exact (alone_move_of_ne (hh.with_histories _ f.recorder) hown hkey _).trans
        (alone_provide_of_ne home hkey f)
    · rfl
  | queue id =>
    unfold step
    dsimp only
    split
    · next call book hv =>
      obtain ⟨hown, hkey⟩ := hother hne hv
      exact alone_move_of_ne hh hown hkey _
    · rfl
  | enter id =>
    unfold step
    dsimp only
    split
    · next call book hv =>
      obtain ⟨hown, hkey⟩ := hother hne hv
      split
      · have hhome : Slot.Event.Homely home call.cluster.key (.arrive id) :=
          (hh.of_visit? hv).2.symm
        show { (f.move call (.collecting book)).alone home key with
          collector := (f.collector.step now call.cluster.key (.arrive id)).alone home key } = _
        rw [alone_move_of_ne hh hown hkey, Collector.alone_step_of_ne hh.collector now hhome hkey]
        rfl
      · rfl
    · rfl
  | resume id =>
    unfold step
    dsimp only
    split
    · next call book hv =>
      obtain ⟨hown, hkey⟩ := hother hne hv
      split
      · exact alone_resume_of_ne (hf.book?_of_visit? hv rfl) hh hown hkey _
      · rfl
    · rfl
  | advise id advice =>
    unfold step
    dsimp only
    split
    · next call book snapshot drafts hv =>
      obtain ⟨hown, hkey⟩ := hother hne hv
      exact alone_commit_of_ne (hf.book?_of_visit? hv rfl) hh hown rfl hkey
    · rfl
  | cancel id =>
    unfold step
    dsimp only
    split
    · next v hv =>
      obtain ⟨call, station⟩ := v
      obtain ⟨hown, hkey⟩ := hother hne hv
      have hleave : ((f.dismiss call).abandon call).alone home key = f.alone home key :=
        (alone_conclude_of_ne hkey).trans (alone_dismiss_of_ne hh hown hkey)
      cases station with
      | collecting book => exact hslot hkey (show Slot.Event.Homely home _ (.cancel _) from trivial)
      | _ => exact hleave
    · rfl

/-! ## Whole runs -/

/-- Whether an event, at its moment, concerns a cluster. -/
def Event.concerns (home : Nat → String) (key : String) (e : Moment × Event) : Bool :=
  e.2.key home == key

/-- **The part of a cluster after a run is what the events that concern it make of the part.** -/
theorem alone_run (hf : f.Orderly) (hh : f.Homely home) {es : List (Moment × Event)}
    (hes : ∀ e ∈ es, e.2.Homely home) (key : String) :
    (f.run es).alone home key
      = (f.alone home key).run (es.filter (Event.concerns home key)) := by
  -- on the events, with the fleet free: an event leaves another fleet, which is homely again
  induction es generalizing f with
  | nil => rfl
  | cons e es ih =>
    obtain ⟨he, hes⟩ := List.forall_mem_cons.mp hes
    have hrest := ih (hf.step e.1 e.2) (hh.step hf e.1 he) hes
    cases hconcerns : Event.concerns home key e with
    | true =>
      rw [alone_step hf hh e.1 he (beq_iff_eq.mp hconcerns)] at hrest
      rw [List.filter_cons_of_pos hconcerns]
      exact hrest
    | false =>
      rw [alone_step_of_ne hf hh e.1 he (beq_eq_false_iff_ne.mp hconcerns)] at hrest
      rw [List.filter_cons_of_neg (by rw [hconcerns]; exact Bool.false_ne_true)]
      exact hrest

/-- **By themselves the events that concern a cluster lead to the same part.** -/
theorem alone_run_filter (hf : f.Orderly) (hh : f.Homely home) {es : List (Moment × Event)}
    (hes : ∀ e ∈ es, e.2.Homely home) (key : String) :
    (f.run es).alone home key
      = (f.run (es.filter (Event.concerns home key))).alone home key := by
  have hown : ∀ e ∈ es.filter (Event.concerns home key), e.2.Homely home :=
    fun e he => hes e (List.mem_filter.mp he).1
  rw [alone_run hf hh hes, alone_run hf hh hown, List.filter_filter]
  simp only [Bool.and_self]

/-- A run leaves a homely fleet homely. -/
theorem Homely.run (hh : f.Homely home) (hf : f.Orderly) {es : List (Moment × Event)}
    (hes : ∀ e ∈ es, e.2.Homely home) : (f.run es).Homely home := by
  induction es generalizing f with
  | nil => exact hh
  | cons e es ih =>
    obtain ⟨he, hes⟩ := List.forall_mem_cons.mp hes
    exact ih (hh.step hf e.1 he) (hf.step e.1 e.2) hes

/-- **Clusters are isolated.** Whatever happens to a fleet, in whatever order, a cluster ends up as
if nothing else had happened than what concerns it, even if other clusters name their sources
alike: the results of its cycles are the same, and so is what each caller that asks about it is
told, by a cycle and by the collector; its histories are the same, its slot with the cached
snapshot and the circuits of its sources, and its figures. -/
theorem clusters_isolated (s : Settings) (recorder : Option Recorder) (home : Nat → String)
    (key : String) (es : List (Moment × Event)) (hes : ∀ e ∈ es, e.2.Homely home) :
    let f := (start s recorder).run es
    let g := (start s recorder).run (es.filter (Event.concerns home key))
    f.resultsOf key = g.resultsOf key
      ∧ (∀ id, home id = key → f.outcome? id = g.outcome? id
          ∧ f.collector.answer? id = g.collector.answer? id)
      ∧ f.histories.get? key = g.histories.get? key
      ∧ f.collector.slots.get? key = g.collector.slots.get? key
      ∧ (f.collector.slot key).cached = (g.collector.slot key).cached
      ∧ (∀ source, f.collector.circuit? key source = g.collector.circuit? key source)
      ∧ f.recorder.map (fun r => r.clusters.get? key)
          = g.recorder.map (fun r => r.clusters.get? key) := by
  intro f g
  have horderly := orderly_start s recorder
  have hstart : (start s recorder).Homely home := homely_start s recorder
  have hown : ∀ e ∈ es.filter (Event.concerns home key), e.2.Homely home :=
    fun e he => hes e (List.mem_filter.mp he).1
  have hf : f.Homely home := hstart.run horderly hes
  have hg : g.Homely home := hstart.run horderly hown
  have hsame : f.alone home key = g.alone home key := alone_run_filter horderly hstart hes key
  have hresults : f.resultsOf key = g.resultsOf key := congrArg Fleet.outcomes hsame
  have hslots : f.collector.slots.get? key = g.collector.slots.get? key := by
    rw [← Collector.get?_alone home key f.collector, ← Collector.get?_alone home key g.collector]
    exact congrArg (fun f : Fleet => f.collector.slots.get? key) hsame
  refine ⟨hresults, fun id hid => ⟨?_, ?_⟩, ?_, hslots, ?_, fun source => ?_, ?_⟩
  · rw [← outcome?_alone hf hid, hsame, outcome?_alone hg hid]
  · rw [← Collector.answer?_alone hid f.collector, ← Collector.answer?_alone hid g.collector]
    exact congrArg (fun f : Fleet => f.collector.answer? id) hsame
  · rw [← get?_histories_alone home key f, hsame, get?_histories_alone home key g]
  · unfold Collector.slot
    rw [hslots]
  · unfold Collector.circuit?
    rw [hslots]
  · rw [figures_run s recorder es key, figures_run s recorder _ key]
    exact congrArg (fun results => recorder.map fun r =>
      ClusterFigures.afterAll (r.clusters.get? key) results) hresults

/-- Callers with odd identities ask about one cluster, the others about another one. -/
def oddAsksA (id : Nat) : String := if id % 2 = 1 then "db/a" else "db/b"

/-- The cycles of two clusters that name their sources alike, one event of the one after one of the
other. Two secondaries of the one are overloaded. The source of the other one does not answer. -/
def twoClusters : List (Moment × Event) :=
  let call (id : Nat) (name : String) : CycleCall :=
    ⟨id, ⟨"db", name, .both [], none⟩, ⟨⟨3, 2⟩, 3⟩, 2000000⟩
  let enter : Slot.Event := .enter [⟨"s", .secondaries⟩]
  [.request (call 1 "a") false, .request (call 2 "b") false, .look 1, .look 2, .begin 2, .begin 1,
    .queue 1, .queue 2, .enter 1, .enter 2, .collector "db/a" (.queue 1),
    .collector "db/b" (.queue 2), .collector "db/b" enter, .collector "db/a" enter,
    .collector "db/a" .launch, .collector "db/b" .launch,
    .collector "db/b" (.finish "s" .timedOut),
    .collector "db/a" (.finish "s" (.reported [(.cpu, 140.0)])), .collector "db/b" .settle,
    .collector "db/a" .settle, .resume 2, .resume 1].map (⟨0, 0⟩, ·)

/-- Two secondaries become four in the one cluster, whatever becomes of the other. -/
theorem clusters_isolated_twoClusters :
    let s := Settings.onCpu (.ofSeconds 300)
    let f := (start s (some .empty)).run twoClusters
    let g := (start s (some .empty)).run (twoClusters.filter (Event.concerns oddAsksA "db/a"))
    (∀ e ∈ twoClusters, e.2.Homely oddAsksA)
      ∧ (twoClusters.filter (Event.concerns oddAsksA "db/a")).length = 11
      ∧ (f.resultsOf "db/a").map (fun o => (o.2.tiers.get .secondaries).decision.target) = [4]
      ∧ (f.resultsOf "db/b").map (fun o => (o.2.tiers.get .secondaries).decision.target) = [2]
      ∧ f.resultsOf "db/a" = g.resultsOf "db/a"
      ∧ f.collector.circuit? "db/a" "s" = g.collector.circuit? "db/a" "s" := by
  intro s f g
  have hes : ∀ e ∈ twoClusters, e.2.Homely oddAsksA := by decide +kernel
  have hsame := clusters_isolated s (some .empty) oddAsksA "db/a" twoClusters hes
  exact ⟨hes, by decide, by decide +kernel, by decide +kernel, hsame.1, hsame.2.2.2.2.2.1 "s"⟩

end Fleet

end ClusterScaling
