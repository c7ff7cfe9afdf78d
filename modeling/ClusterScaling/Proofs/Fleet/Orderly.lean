import ClusterScaling.Proofs.Fleet.Transition

/-!
# Fleets are orderly

A fleet of which nothing is known is orderly, and no event takes that
away. Two of the clauses carry each other. That the book of a cluster is
held by one cycle at a time rests on every cycle having found the same
book for it: the book that is about to be handed over is then the only one
that another cycle of the cluster could hold. And that a cycle which asks
the adviser still knows what its book says rests on there being no second
holder who could have written it.

What has been answered stays answered, and the settings do not change;
both are needed at every step and are proved first.
-/

namespace ClusterScaling

/-- **What a caller has been told it stays told.** -/
theorem Collector.answer?_step {c : Collector} {id : Nat} {result : Except Fault Snapshot}
    (h : c.answer? id = some result) (now : Moment) (key : String) (e : Slot.Event) :
    (c.step now key e).answer? id = some result := by
  obtain ⟨a, ha, rfl⟩ := Option.map_eq_some_iff.mp h
  unfold answer? step
  dsimp only
  rw [List.find?_append, ha]
  rfl

namespace Fleet

/-- What an event of a fleet asks of the collector, and for which cluster. -/
inductive Asks (f : Fleet) (e : Event) : String → Slot.Event → Prop where
  /-- Something happens to a slot, whatever the cycles do. -/
  | apart (key : String) (asked : Slot.Event) (he : e = .collector key asked) : Asks f e key asked
  /-- A cycle under way wants readings. -/
  | arrive (call : CycleCall) (station : Station) (hv : f.visit? call.id = some ⟨call, station⟩) :
      Asks f e call.cluster.key (.arrive call.id)
  /-- A cycle under way that waits for readings is cancelled. -/
  | cancel (call : CycleCall) (station : Station) (hv : f.visit? call.id = some ⟨call, station⟩)
      (he : e = .cancel call.id) : Asks f e call.cluster.key (.cancel call.id)

/-- **An event leaves the settings**, and does one thing to the collector, if any. -/
theorem step_asks (f : Fleet) (now : Moment) (e : Event) :
    (f.step now e).settings = f.settings
      ∧ ((f.step now e).collector = f.collector
        ∨ ∃ key asked, f.Asks e key asked
          ∧ (f.step now e).collector = f.collector.step now key asked) := by
  cases e with
  | request call cancelled => cases cancelled <;> exact ⟨rfl, .inl rfl⟩
  | collector key e => exact ⟨rfl, .inr ⟨key, e, .apart key e rfl, rfl⟩⟩
  -- none of these touches the collector
  | look id | begin id | queue id | advise id advice =>
    unfold step
    dsimp only
    split <;> exact ⟨rfl, .inl rfl⟩
  | enter id =>
    unfold step
    dsimp only
    split
    · next call book hv =>
      have hid : call.id = id := id_of_visit? hv
      subst hid
      split
      · exact ⟨rfl, .inr ⟨_, _, .arrive call _ hv, rfl⟩⟩
      · exact ⟨rfl, .inl rfl⟩
    · exact ⟨rfl, .inl rfl⟩
  | resume id =>
    unfold step
    dsimp only
    split
    · split
      · unfold resume
        split
        · exact ⟨rfl, .inl rfl⟩
        · exact ⟨rfl, .inl rfl⟩
        · dsimp only
          split <;> exact ⟨rfl, .inl rfl⟩
      · exact ⟨rfl, .inl rfl⟩
    · exact ⟨rfl, .inl rfl⟩
  | cancel id =>
    unfold step
    dsimp only
    split
    · next v hv =>
      have hid : v.call.id = id := id_of_visit? hv
      subst hid
      unfold cancel
      split
      · next call book => exact ⟨rfl, .inr ⟨_, _, .cancel call _ hv rfl, rfl⟩⟩
      · exact ⟨rfl, .inl rfl⟩
    · exact ⟨rfl, .inl rfl⟩

/-- **Settings and answers stay.** An event leaves the settings of a fleet as they are, and what a
cycle has been answered it stays answered. -/
theorem step_keeps (f : Fleet) (now : Moment) (e : Event) :
    (f.step now e).settings = f.settings
      ∧ ∀ id result, f.collector.answer? id = some result →
        (f.step now e).collector.answer? id = some result := by
  obtain ⟨hsettings, hcollector⟩ := f.step_asks now e
  refine ⟨hsettings, fun id result h => ?_⟩
  rcases hcollector with hsame | ⟨key, asked, -, hstep⟩
  · rw [hsame]
    exact h
  · rw [hstep]
    exact Collector.answer?_step h now key asked

variable {f f' : Fleet} {v : Visit} {rest : List Visit}

theorem holdsFor_iff {key : String} :
    v.holdsFor key = true ↔ (∃ book, v.station.held? = some book) ∧ v.call.cluster.key = key := by
  unfold Visit.holdsFor
  rw [Bool.and_eq_true, beq_iff_eq, Option.isSome_iff_exists]

theorem not_holdsFor (hv : v.station.held? = none) (key : String) : v.holdsFor key = false := by
  unfold Visit.holdsFor
  rw [hv]
  rfl

/-- The holders of a book, with one cycle told apart from the others. -/
theorem holders_perm (hperm : f.visits.Perm (v :: rest)) (key : String) :
    (f.holders key).Perm ((v :: rest).filter (Visit.holdsFor key)) :=
  hperm.filter _

/-- **Beside a holder there is no other.** -/
theorem Orderly.no_other (hf : f.Orderly) (hperm : f.visits.Perm (v :: rest)) {book : Nat}
    (hheld : v.station.held? = some book) :
    rest.filter (Visit.holdsFor v.call.cluster.key) = [] := by
  have hv : v.holdsFor v.call.cluster.key = true := holdsFor_iff.mpr ⟨⟨book, hheld⟩, rfl⟩
  have hlen := (holders_perm hperm v.call.cluster.key).length_eq ▸
    hf.exclusive v.call.cluster.key
  rw [List.filter_cons_of_pos hv, List.length_cons] at hlen
  exact List.eq_nil_of_length_eq_zero (by omega)

/-- **A free book is not held for its cluster.** -/
theorem Orderly.no_holder (hf : f.Orderly) (hv : v ∈ f.visits) {book : Nat}
    (hbook : v.station.book? = some book) (hfree : f.isHeld book = false) :
    f.holders v.call.cluster.key = [] := by
  refine List.filter_eq_nil_iff.mpr fun w hw hholds => ?_
  obtain ⟨⟨other, hheld⟩, hkey⟩ := holdsFor_iff.mp hholds
  -- a holder would have found the same book, and that one is free
  have hsame : some other = some book := by
    rw [← hf.booked w hw other (Station.book?_of_held? hheld), hkey, hf.booked v hv book hbook]
  have hheld' : f.isHeld book = true :=
    List.any_eq_true.mpr ⟨w, hw, Station.holds_iff.mpr (hheld.trans hsame)⟩
  rw [hfree] at hheld'
  cases hheld'

/-- A cycle under way is the one told apart or one of the others. -/
theorem mem_of_perm (hperm : f.visits.Perm (v :: rest)) : v ∈ f.visits ∧ ∀ w ∈ rest, w ∈ f.visits :=
  ⟨hperm.mem_iff.mpr List.mem_cons_self, fun _ hw => hperm.mem_iff.mpr (List.mem_cons_of_mem v hw)⟩

/-- The others hold no more books than all. -/
theorem length_rest_le (hperm : f.visits.Perm (v :: rest)) (key : String) :
    (rest.filter (Visit.holdsFor key)).length ≤ (f.holders key).length := by
  rw [(holders_perm hperm key).length_eq]
  exact ((List.sublist_cons_self v rest).filter _).length_le

/-- A cycle may hold the book of its cluster if none of the others does. -/
theorem length_moved_le (hf : f.Orderly) (hperm : f.visits.Perm (v :: rest))
    (hrest : rest.filter (Visit.holdsFor v.call.cluster.key) = []) (station : Station)
    (key : String) :
    ((rest ++ [(⟨v.call, station⟩ : Visit)]).filter (Visit.holdsFor key)).length ≤ 1 := by
  rw [List.filter_append, List.length_append]
  by_cases hkey : v.call.cluster.key = key
  · rw [← hkey, hrest, List.length_nil, Nat.zero_add]
    exact List.length_filter_le _ _
  · have hnot : Visit.holdsFor key ⟨v.call, station⟩ = false :=
      Bool.eq_false_iff.mpr fun hholds => hkey (holdsFor_iff.mp hholds).2
    rw [List.filter_cons_of_neg (by rw [hnot]; exact Bool.false_ne_true), List.filter_nil]
    exact Nat.le_trans (length_rest_le hperm key) (hf.exclusive key)

section

variable {e : Event} {sight : Sight}

/-- The books of known clusters stay the same. -/
theorem Transition.book? (ht : Transition f e f' sight) {key : String} {book : Nat}
    (hbook : f.histories.book? key = some book) : f'.histories.book? key = some book := by
  cases ht with
  | still _ hh | request _ _ hh | refuse _ _ hh | enter _ _ _ _ _ _ hh | ask _ _ _ _ _ _ _ _ hh
    | leave _ _ _ _ hh =>
    rw [hh]
    exact hbook
  | commit _ _ _ _ _ _ _ _ hh =>
    rw [hh, HistoryStore.book?_write]
    exact hbook
  | approach v _ _ _ _ _ _ _ hh =>
    rcases hh with hh | hh
    · rw [hh]
      exact hbook
    · rw [hh, HistoryStore.book?_provide]
      split
      · next hkey =>
        rw [hkey, HistoryStore.provide_of_book? hbook]
      · exact hbook

/-- The room for moves stays the same. -/
theorem Transition.capacity (ht : Transition f e f' sight) :
    f'.histories.capacity = f.histories.capacity := by
  cases ht with
  | still _ hh | request _ _ hh | refuse _ _ hh | enter _ _ _ _ _ _ hh | ask _ _ _ _ _ _ _ _ hh
    | leave _ _ _ _ hh => rw [hh]
  | commit _ _ _ _ _ _ _ _ hh => rw [hh, HistoryStore.capacity_write]
  | approach _ _ _ _ _ _ _ _ hh =>
    rcases hh with hh | hh
    · rw [hh]
    · rw [hh, HistoryStore.capacity_provide]

/-- Every cycle that is under way after an event was so before, unless it has moved. -/
theorem Transition.booked (hf : f.Orderly) (ht : Transition f e f' sight) :
    ∀ w ∈ f'.visits, ∀ book, w.station.book? = some book →
      f'.histories.book? w.call.cluster.key = some book := by
  have hold : ∀ w ∈ f.visits, ∀ book, w.station.book? = some book →
      f'.histories.book? w.call.cluster.key = some book :=
    fun w hw book hbook => ht.book? (hf.booked w hw book hbook)
  cases ht with
  | still hv | refuse _ hv =>
    rw [hv]
    exact hold
  | request call hv =>
    rw [hv]
    exact List.forall_mem_append.mpr ⟨hold, List.forall_mem_singleton.mpr nofun⟩
  | approach v rest station hperm hv _ _ hbook =>
    rw [hv]
    exact List.forall_mem_append.mpr
      ⟨fun w hw => hold w ((mem_of_perm hperm).2 w hw), List.forall_mem_singleton.mpr hbook⟩
  | enter call rest book hperm hv | ask call rest book _ hperm hv =>
    rw [hv]
    obtain ⟨hmem, hrest⟩ := mem_of_perm hperm
    refine List.forall_mem_append.mpr ⟨fun w hw => hold w (hrest w hw), ?_⟩
    exact List.forall_mem_singleton.mpr fun other hbook => hold _ hmem other hbook
  | leave v rest hperm hv | commit v rest book told hperm hv =>
    rw [hv]
    exact fun w hw => hold w ((mem_of_perm hperm).2 w hw)

/-- No event gives the book of a cluster to a second cycle. -/
theorem Transition.exclusive (hf : f.Orderly) (ht : Transition f e f' sight) (key : String) :
    (f'.holders key).length ≤ 1 := by
  unfold holders
  cases ht with
  | still hv | refuse _ hv =>
    rw [hv]
    exact hf.exclusive key
  | request call hv =>
    rw [hv, List.filter_append, List.filter_cons_of_neg (by rw [not_holdsFor rfl]; nofun),
      List.filter_nil, List.append_nil]
    exact hf.exclusive key
  | approach v rest station hperm hv _ hafter =>
    rw [hv, List.filter_append, List.filter_cons_of_neg (by rw [not_holdsFor hafter]; nofun),
      List.filter_nil, List.append_nil]
    exact Nat.le_trans (length_rest_le hperm key) (hf.exclusive key)
  | enter call rest book hperm hv hfree =>
    rw [hv]
    -- the book was free, so the cycle that gets it is the only holder
    have hnone := hf.no_holder (mem_of_perm hperm).1 rfl hfree
    have hrest := List.eq_nil_of_length_eq_zero
      (Nat.le_zero.mp (hnone ▸ length_rest_le hperm call.cluster.key))
    exact length_moved_le hf hperm hrest _ key
  | ask call rest book snapshot hperm hv =>
    rw [hv]
    exact length_moved_le hf hperm (hf.no_other hperm rfl) _ key
  | leave v rest hperm hv | commit v rest book told hperm hv =>
    rw [hv]
    exact Nat.le_trans (length_rest_le hperm key) (hf.exclusive key)

/-- **Nobody writes the book of a cycle that asks the adviser.** -/
theorem Transition.read_of_mem (hf : f.Orderly) (ht : Transition f e f' sight) {w : Visit}
    (hw : w ∈ f'.visits) (hold : w ∈ f.visits) {book : Nat} (hheld : w.station.held? = some book) :
    f'.histories.read book = f.histories.read book := by
  have hbook := hf.booked w hold book (Station.book?_of_held? hheld)
  cases ht with
  | still _ hh | request _ _ hh | refuse _ _ hh | enter _ _ _ _ _ _ hh | ask _ _ _ _ _ _ _ _ hh
    | leave _ _ _ _ hh => rw [hh]
  | approach v _ _ _ _ _ _ _ hh =>
    rcases hh with hh | hh
    · rw [hh]
    · rw [hh, HistoryStore.read_provide hbook]
  | commit v rest other told hperm hv hother _ hh =>
    have hmine := hf.booked v (mem_of_perm hperm).1 other (Station.book?_of_held? hother)
    -- two cycles with one book are of one cluster, and that has only one holder
    have hne : other ≠ book := by
      rintro rfl
      have hkey := f.histories.unshared _ _ _ hbook hmine
      have hmem : w ∈ rest.filter (Visit.holdsFor v.call.cluster.key) :=
        List.mem_filter.mpr ⟨hv ▸ hw, holdsFor_iff.mpr ⟨⟨other, hheld⟩, hkey⟩⟩
      rw [hf.no_other hperm hother] at hmem
      cases hmem
    rw [hh, HistoryStore.read_write hmine, if_neg hne]

/-- **What a cycle has made up its mind about stays what its book says** while it asks the
adviser. -/
theorem Transition.asking (hf : f.Orderly) (ht : Transition f e f' sight)
    (hsettings : f'.settings = f.settings)
    (hanswers : ∀ id result, f.collector.answer? id = some result →
      f'.collector.answer? id = some result)
    {call : CycleCall} {book : Nat} {snapshot : Snapshot} {drafts : PerTier Draft}
    (hw : ⟨call, .asking book snapshot drafts⟩ ∈ f'.visits) :
    drafts = Cycle.draft f'.settings call.live snapshot (f'.histories.read book) call.now
      ∧ Cycle.asksAdviser f'.settings drafts = true
      ∧ f'.collector.answer? call.id = some (.ok snapshot) := by
  have hold : ⟨call, .asking book snapshot drafts⟩ ∈ f.visits →
      drafts = Cycle.draft f'.settings call.live snapshot (f'.histories.read book) call.now
        ∧ Cycle.asksAdviser f'.settings drafts = true
        ∧ f'.collector.answer? call.id = some (.ok snapshot) := by
    intro hmem
    obtain ⟨hdrafts, hasks, hanswer⟩ := hf.asking call book snapshot drafts hmem
    rw [hsettings, ht.read_of_mem hf hw hmem rfl]
    exact ⟨hdrafts, hasks, hanswers _ _ hanswer⟩
  -- `hw` is needed once more, for what the book says afterwards
  have hin := hw
  cases ht with
  | still hv | refuse _ hv => exact hold (hv ▸ hin)
  | request other hv =>
    rcases List.mem_append.mp (hv ▸ hin) with hin | hin
    · exact hold hin
    · cases List.mem_singleton.mp hin
  | approach v rest station hperm hv _ hafter =>
    rcases List.mem_append.mp (hv ▸ hin) with hin | hin
    · exact hold ((mem_of_perm hperm).2 _ hin)
    · cases List.mem_singleton.mp hin
      cases hafter
  | enter other rest _ hperm hv =>
    rcases List.mem_append.mp (hv ▸ hin) with hin | hin
    · exact hold ((mem_of_perm hperm).2 _ hin)
    · cases List.mem_singleton.mp hin
  | ask other rest _ _ hperm hv hasks hanswer hh =>
    rcases List.mem_append.mp (hv ▸ hin) with hin | hin
    · exact hold ((mem_of_perm hperm).2 _ hin)
    · cases List.mem_singleton.mp hin
      rw [hsettings, hh]
      exact ⟨rfl, hasks, hanswers _ _ hanswer⟩
  | leave v rest hperm hv | commit v rest _ told hperm hv =>
    exact hold ((mem_of_perm hperm).2 _ (hv ▸ hin))

end

/-- A fleet of which nothing is known is orderly. -/
theorem orderly_start (s : Settings) (recorder : Option Recorder) :
    (start s recorder).Orderly where
  capacity := rfl
  booked _ hv := absurd hv List.not_mem_nil
  exclusive _ := Nat.zero_le 1
  asking _ _ _ _ hv := absurd hv List.not_mem_nil

/-- **An event leaves an orderly fleet orderly.** -/
theorem Orderly.step (hf : f.Orderly) (now : Moment) (e : Event) : (f.step now e).Orderly := by
  have ht := step_transition hf now e
  obtain ⟨hsettings, hanswers⟩ := f.step_keeps now e
  exact
    { capacity := by rw [ht.capacity, hf.capacity, hsettings]
      booked := ht.booked hf
      exclusive := ht.exclusive hf
      asking := fun _ _ _ _ hw => ht.asking hf hsettings hanswers hw }

end Fleet

end ClusterScaling
