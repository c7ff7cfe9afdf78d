import ClusterScaling.Proofs.Fleet.Orderly
import ClusterScaling.Proofs.Series.Memory

/-!
# Cycles that overlap come out as a series

Of the cycles of a cluster, whatever they do at the same time, the results
and the histories are those of a series: one cycle after the other, each
starting from what the one before it has left. The order of the series is
that in which the cycles got the book of the cluster, so it is the order
in which they ended as well. A cycle that is cancelled, before it has the
book or with it, has its place in the series and leaves nothing there.

`Fleet.Serial` states this of a part of a run, from one fleet to a later
one, so that it holds of a run if it holds of each event: parts put
together are serial (`Serial.trans`). One event adds at most one cycle to
the series, and what it adds is read off the transitions of a fleet.
-/

namespace ClusterScaling

/-- A cycle that has ended, with what it was told. -/
structure Ended where
  /-- The request. -/
  call : CycleCall
  /-- What the cycle was told. -/
  told : Told

/-- The place of an ending in a series. -/
def Ended.round (e : Ended) : Round := ⟨e.call.live, e.call.now, e.told⟩

/-- Whether a request concerns a cluster. -/
def CycleCall.concerns (key : String) (call : CycleCall) : Bool := call.cluster.key == key

namespace Sight

/-- The cycle that is seen to be requested. -/
def requested? : Sight → Option CycleCall
  | requested call | refused call => some call
  | _ => none

/-- The cycle that is seen to get its book. -/
def entered? : Sight → Option CycleCall
  | entered call => some call
  | _ => none

/-- The cycle that is seen to end. -/
def ended? : Sight → Option Ended
  | ended call told => some ⟨call, told⟩
  | refused call => some ⟨call, .cancelled⟩
  | _ => none

end Sight

namespace Fleet

/-- The requests for a cluster, in their order. -/
def requestsOf (key : String) (sights : List Sight) : List CycleCall :=
  (sights.filterMap Sight.requested?).filter (CycleCall.concerns key)

/-- The cycles that got the book of a cluster, in their order. -/
def entriesOf (key : String) (sights : List Sight) : List CycleCall :=
  (sights.filterMap Sight.entered?).filter (CycleCall.concerns key)

/-- The cycles of a cluster that have ended, in their order. -/
def endingsOf (key : String) (sights : List Sight) : List Ended :=
  (sights.filterMap Sight.ended?).filter fun e => e.call.concerns key

/-- The requests of the cycles that have ended with decisions. -/
def committed (endings : List Ended) : List CycleCall :=
  (endings.filter fun e => e.told.commits).map Ended.call

/-- The requests of the cycles of a cluster that are under way. -/
def underWay (f : Fleet) (key : String) : List CycleCall :=
  (f.visits.map Visit.call).filter (CycleCall.concerns key)

/-- The results for a cluster, in their order, by the identities of the requests. -/
def resultsOf (f : Fleet) (key : String) : List (Nat × Outcome) :=
  f.outcomes.filter fun o => o.2.cluster == key

/-- What accounts for all that the cycles of a series are told that end with decisions: answers of
the collector and advice. -/
def Accounted (s : Settings) (key : String) (answer? : Nat → Option (Except Fault Snapshot))
    (advised : Nat → Option Advice → Prop) : ClusterHistory → List Ended → Prop
  | _, [] => True
  | h, e :: es =>
    (e.told.commits = true →
      Accounts s (answer? e.call.id) (advised e.call.id) e.call h e.told)
        ∧ Accounted s key answer? advised (e.round.after s key h) es

/-- What a part of a run makes of a cluster is what a series of cycles makes of it. -/
structure Serial (key : String) (es : List (Moment × Event)) (sights : List Sight) (f f' : Fleet) :
    Prop where
  /-- The cycles that end with decisions do so in the order in which they got the book. -/
  order : (committed (endingsOf key sights) ++ (f'.holders key).map Visit.call).Sublist
    ((f.holders key).map Visit.call ++ entriesOf key sights)
  /-- Every cycle that was requested has ended once, or is still under way. -/
  complete : ((endingsOf key sights).map Ended.call ++ f'.underWay key).Perm
    (f.underWay key ++ requestsOf key sights)
  /-- The results are those of the series. -/
  results : f'.resultsOf key = f.resultsOf key ++ ((endingsOf key sights).map (·.call.id)).zip
    (Series.outcomes f.settings key (f.histories.histories key)
      ((endingsOf key sights).map Ended.round))
  /-- The histories are those that the series leaves. -/
  histories : f'.histories.histories key
    = Series.after f.settings key (f.histories.histories key)
        ((endingsOf key sights).map Ended.round)
  /-- The cycles of the series are told what the collector and the adviser have said. -/
  accounted : Accounted f.settings key f'.collector.answer?
    (fun id advice => ∃ now, (now, .advise id advice) ∈ es) (f.histories.histories key)
    (endingsOf key sights)

/-! ## Parts put together -/

section

variable (key : String)

@[simp]
theorem requestsOf_append (sights more : List Sight) :
    requestsOf key (sights ++ more) = requestsOf key sights ++ requestsOf key more := by
  simp [requestsOf]

@[simp]
theorem entriesOf_append (sights more : List Sight) :
    entriesOf key (sights ++ more) = entriesOf key sights ++ entriesOf key more := by
  simp [entriesOf]

@[simp]
theorem endingsOf_append (sights more : List Sight) :
    endingsOf key (sights ++ more) = endingsOf key sights ++ endingsOf key more := by
  simp [endingsOf]

@[simp]
theorem committed_append (endings more : List Ended) :
    committed (endings ++ more) = committed endings ++ committed more := by
  simp [committed]

end

/-- What accounts for a cycle still does so when more has been answered and advised. -/
theorem Accounts.mono {s : Settings} {answer answer' : Option (Except Fault Snapshot)}
    {advised advised' : Option Advice → Prop} {call : CycleCall} {h : ClusterHistory} {told : Told}
    (hanswer : ∀ result, answer = some result → answer' = some result)
    (hadvised : ∀ advice, advised advice → advised' advice)
    (ha : Accounts s answer advised call h told) : Accounts s answer' advised' call h told := by
  cases told with
  | cancelled => exact ha
  | unavailable fault => exact hanswer _ ha
  | readings snapshot offered =>
    refine ⟨hanswer _ ha.1, ?_⟩
    have hoffered := ha.2
    split at hoffered
    · next hasks =>
      rw [if_pos hasks]
      exact hadvised _ hoffered
    · next hasks =>
      rw [if_neg hasks]
      exact hoffered

/-- Only a cycle that ends with decisions is accounted for. -/
theorem Accounts.commits {s : Settings} {answer : Option (Except Fault Snapshot)}
    {advised : Option Advice → Prop} {call : CycleCall} {h : ClusterHistory} {told : Told}
    (ha : Accounts s answer advised call h told) : told.commits = true := by
  cases told with
  | cancelled => exact ha.elim
  | unavailable fault => rfl
  | readings snapshot offered => rfl

section

variable {s : Settings} {key : String} {answer? answer?' : Nat → Option (Except Fault Snapshot)}
variable {advised advised' : Nat → Option Advice → Prop}

theorem Accounted.mono (hanswer : ∀ id result, answer? id = some result → answer?' id = some result)
    (hadvised : ∀ id advice, advised id advice → advised' id advice) {h : ClusterHistory}
    {es : List Ended} (ha : Accounted s key answer? advised h es) :
    Accounted s key answer?' advised' h es := by
  induction es generalizing h with
  | nil => trivial
  | cons e es ih =>
    exact ⟨fun hc => (ha.1 hc).mono (hanswer e.call.id) (hadvised e.call.id), ih ha.2⟩

/-- A series is accounted for if its first part is, and the rest is from what this leaves. -/
theorem Accounted.append {h : ClusterHistory} {es ds : List Ended}
    (ha : Accounted s key answer? advised h es)
    (hb : Accounted s key answer? advised (Series.after s key h (es.map Ended.round)) ds) :
    Accounted s key answer? advised h (es ++ ds) := by
  induction es generalizing h with
  | nil => exact hb
  | cons e es ih => exact ⟨ha.1, ih ha.2 hb⟩

end

/-- Where nothing happens, the series is empty. -/
theorem Serial.refl (key : String) (f : Fleet) : Serial key [] [] f f where
  order := by simp [committed, endingsOf, entriesOf]
  complete := by simp [endingsOf, requestsOf]
  results := by simp [endingsOf]
  histories := rfl
  accounted := trivial

/-- **Two parts of a run, each serial, are serial together.** -/
theorem Serial.trans {key : String} {es ds : List (Moment × Event)} {sights more : List Sight}
    {f f' f'' : Fleet} (hs : Serial key es sights f f') (ht : Serial key ds more f' f'')
    (hsettings : f'.settings = f.settings)
    (hanswers : ∀ id result, f'.collector.answer? id = some result →
      f''.collector.answer? id = some result) :
    Serial key (es ++ ds) (sights ++ more) f f'' where
  order := by
    rw [endingsOf_append, committed_append, entriesOf_append, List.append_assoc,
      ← List.append_assoc _ (entriesOf key sights)]
    -- the holders in the middle end the one part and begin the other
    refine List.Sublist.trans (ht.order.append_left _) ?_
    rw [← List.append_assoc]
    exact hs.order.append_right _
  complete := by
    rw [endingsOf_append, requestsOf_append, List.map_append, List.append_assoc,
      ← List.append_assoc (f.underWay key)]
    refine (ht.complete.append_left _).trans ?_
    rw [← List.append_assoc]
    exact hs.complete.append_right _
  results := by
    rw [ht.results, hs.results, hs.histories, hsettings, endingsOf_append, List.map_append,
      List.map_append, Series.outcomes_append, List.zip_append (by simp), List.append_assoc]
  histories := by
    rw [ht.histories, hs.histories, hsettings, endingsOf_append, List.map_append,
      Series.after_append]
  accounted := by
    rw [endingsOf_append]
    refine Accounted.append (hs.accounted.mono hanswers ?_) ?_
    · rintro id advice ⟨now, hmem⟩
      exact ⟨now, List.mem_append_left ds hmem⟩
    · rw [← hs.histories, ← hsettings]
      refine ht.accounted.mono (fun _ _ h => h) ?_
      rintro id advice ⟨now, hmem⟩
      exact ⟨now, List.mem_append_right es hmem⟩

/-! ## One event -/

/-- A single request, if it concerns a cluster. -/
theorem filter_concerns (key : String) (call : CycleCall) :
    [call].filter (CycleCall.concerns key) = if call.cluster.key = key then [call] else [] := by
  unfold CycleCall.concerns
  rw [List.filter_cons, List.filter_nil]
  simp only [beq_iff_eq]

/-- Two lists of which one comes from reordering the other are the same, if there is nothing to
reorder. -/
theorem perm_eq_of_length_le {α : Type} {as bs : List α} (hperm : as.Perm bs)
    (hlen : as.length ≤ 1) : as = bs := by
  match as, hlen with
  | [], _ => exact hperm.nil_eq
  | [a], _ => exact List.singleton_perm.mp hperm

section

variable {f f' : Fleet} {v : Visit} {rest : List Visit} {e : Event} {sight : Sight}

/-- **A cycle holds the book of a cluster alone, or another may.** -/
theorem Orderly.holders_cases (hf : f.Orderly) (hperm : f.visits.Perm (v :: rest)) (key : String) :
    (v.holdsFor key = true ∧ f.holders key = [v] ∧ rest.filter (Visit.holdsFor key) = [])
      ∨ (v.holdsFor key = false ∧ f.holders key = rest.filter (Visit.holdsFor key)) := by
  have heq := perm_eq_of_length_le (holders_perm hperm key) (hf.exclusive key)
  cases hv : v.holdsFor key with
  | true =>
    obtain ⟨⟨book, hheld⟩, hkey⟩ := holdsFor_iff.mp hv
    have hrest := hf.no_other hperm hheld
    rw [hkey] at hrest
    rw [List.filter_cons_of_pos hv, hrest] at heq
    exact .inl ⟨rfl, heq, hrest⟩
  | false =>
    rw [List.filter_cons_of_neg (by rw [hv]; exact Bool.false_ne_true)] at heq
    exact .inr ⟨rfl, heq⟩

/-- An event that ends no cycle adds none to the series. -/
theorem endingsOf_of_none (hended : sight.ended? = none) (key : String) :
    endingsOf key [sight] = [] := by
  unfold endingsOf
  rw [List.filterMap_cons_none hended]
  rfl

/-- An event that ends a cycle adds it to the series of its cluster. -/
theorem endingsOf_of_some {ended : Ended} (hended : sight.ended? = some ended) (key : String) :
    endingsOf key [sight] = if ended.call.cluster.key = key then [ended] else [] := by
  unfold endingsOf
  rw [List.filterMap_cons_some hended, List.filterMap_nil]
  split
  · next hkey => exact List.filter_cons_of_pos (beq_iff_eq.mpr hkey)
  · next hkey => exact List.filter_cons_of_neg fun h => hkey (beq_iff_eq.mp h)

/-- An event that ends no cycle with decisions, and leaves the holders as they are, keeps the
order. -/
theorem order_of_holders {key : String} (hended : committed (endingsOf key [sight]) = [])
    (hholders : (f'.holders key).map Visit.call = (f.holders key).map Visit.call) :
    (committed (endingsOf key [sight]) ++ (f'.holders key).map Visit.call).Sublist
      ((f.holders key).map Visit.call ++ entriesOf key [sight]) := by
  rw [hended, hholders]
  exact List.sublist_append_left _ _

/-- A cycle that is cancelled does not end with decisions. -/
theorem committed_of_cancelled {call : CycleCall} (hended : sight.ended? = some ⟨call, .cancelled⟩)
    (key : String) : committed (endingsOf key [sight]) = [] := by
  rw [endingsOf_of_some hended]
  split <;> rfl

/-- The holders of a book after one cycle has moved. -/
theorem holders_of_moved {call : CycleCall} {station : Station}
    (hvisits : f'.visits = rest ++ [⟨call, station⟩]) (key : String) :
    f'.holders key = rest.filter (Visit.holdsFor key)
      ++ if Visit.holdsFor key ⟨call, station⟩ then [⟨call, station⟩] else [] := by
  unfold holders
  rw [hvisits, List.filter_append, List.filter_cons, List.filter_nil]

/-- A cycle that holds a book before and after it moves, or neither before nor after, leaves the
holders as they are. -/
theorem Orderly.holders_eq (hf : f.Orderly) (hperm : f.visits.Perm (v :: rest)) {station : Station}
    (hvisits : f'.visits = rest ++ [⟨v.call, station⟩])
    (hheld : station.held?.isSome = v.station.held?.isSome) (key : String) :
    (f'.holders key).map Visit.call = (f.holders key).map Visit.call := by
  have hsame : Visit.holdsFor key ⟨v.call, station⟩ = v.holdsFor key := by
    unfold Visit.holdsFor
    rw [hheld]
  rw [holders_of_moved hvisits, hsame]
  rcases hf.holders_cases hperm key with ⟨hholds, hholders, hrest⟩ | ⟨hholds, hholders⟩
  · rw [hholds, hholders, hrest]
    rfl
  · rw [hholds, hholders, if_neg Bool.false_ne_true, List.append_nil]

/-- A cycle that gets the book of a cluster becomes a holder of it. -/
theorem Orderly.holders_entered (hf : f.Orderly) {call : CycleCall} {book : Nat}
    (hperm : f.visits.Perm (⟨call, .waiting book⟩ :: rest))
    (hvisits : f'.visits = rest ++ [⟨call, .collecting book⟩]) (key : String) :
    (f'.holders key).map Visit.call
      = (f.holders key).map Visit.call ++ if call.cluster.key = key then [call] else [] := by
  have hrest : f.holders key = rest.filter (Visit.holdsFor key) := by
    rcases hf.holders_cases hperm key with ⟨hholds, -⟩ | ⟨-, hholders⟩
    · cases hholds
    · exact hholders
  rw [holders_of_moved hvisits, ← hrest, List.map_append]
  by_cases hkey : call.cluster.key = key
  · have hholds : Visit.holdsFor key ⟨call, .collecting book⟩ = true :=
      holdsFor_iff.mpr ⟨⟨book, rfl⟩, hkey⟩
    rw [hholds, if_pos hkey]
    rfl
  · have hholds : Visit.holdsFor key ⟨call, .collecting book⟩ = false :=
      Bool.eq_false_iff.mpr fun h => hkey (holdsFor_iff.mp h).2
    rw [hholds, if_neg hkey]
    rfl

/-- A holder that ends with decisions was the only holder of its book, and nobody holds it then. -/
theorem Orderly.holders_committed (hf : f.Orderly) (hperm : f.visits.Perm (v :: rest))
    (hvisits : f'.visits = rest) {book : Nat} (hheld : v.station.held? = some book)
    (key : String) : (f.holders key).map Visit.call
      = (if v.call.cluster.key = key then [v.call] else []) ++ (f'.holders key).map Visit.call := by
  have hafter : f'.holders key = rest.filter (Visit.holdsFor key) := hvisits ▸ rfl
  rcases hf.holders_cases hperm key with ⟨hholds, hholders, hrest⟩ | ⟨hholds, hholders⟩
  · rw [if_pos (holdsFor_iff.mp hholds).2, hholders, hafter, hrest]
    rfl
  · have hkey : ¬ v.call.cluster.key = key := fun hkey => by
      rw [holdsFor_iff.mpr ⟨⟨book, hheld⟩, hkey⟩] at hholds
      cases hholds
    rw [if_neg hkey, hholders, hafter]
    rfl

/-- **The order of the series is that in which the cycles got the book.** -/
theorem Transition.order (hf : f.Orderly) (ht : Transition f e f' sight) (key : String) :
    (committed (endingsOf key [sight]) ++ (f'.holders key).map Visit.call).Sublist
      ((f.holders key).map Visit.call ++ entriesOf key [sight]) := by
  cases ht with
  | still hv =>
    refine order_of_holders rfl ?_
    unfold holders
    rw [hv]
  | request call hv =>
    refine order_of_holders rfl ?_
    unfold holders
    rw [hv, List.filter_append, List.filter_cons_of_neg (by rw [not_holdsFor rfl]; nofun),
      List.filter_nil, List.append_nil]
  | refuse call hv =>
    refine order_of_holders (committed_of_cancelled rfl key) ?_
    unfold holders
    rw [hv]
  | approach v rest station hperm hv hbefore hafter =>
    exact order_of_holders rfl (hf.holders_eq hperm hv (by rw [hbefore, hafter]) key)
  | enter call rest book hperm hv =>
    rw [hf.holders_entered hperm hv,
      show entriesOf key [.entered call] = _ from filter_concerns key call]
    exact List.Sublist.refl _
  | ask call rest book snapshot hperm hv =>
    exact order_of_holders rfl (hf.holders_eq hperm hv rfl key)
  | leave v rest hperm hv =>
    -- a holder that is cancelled is dropped from the order, so this is no equation
    rw [committed_of_cancelled rfl, List.nil_append]
    refine List.Sublist.trans ?_ (List.sublist_append_left _ _)
    rcases hf.holders_cases hperm key with ⟨-, -, hrest⟩ | ⟨-, hholders⟩
    · unfold holders
      rw [hv, hrest]
      exact List.nil_sublist _
    · have hsame : f'.holders key = f.holders key := by
        rw [hholders]
        unfold holders
        rw [hv]
      exact hsame ▸ List.Sublist.refl _
  | commit v rest book told hperm hv hheld haccounts =>
    have hcommitted : committed (endingsOf key [.ended v.call told])
        = if v.call.cluster.key = key then [v.call] else [] := by
      rw [endingsOf_of_some rfl]
      unfold committed
      split
      · rw [List.filter_cons_of_pos (p := fun e : Ended => e.told.commits) haccounts.commits]
        rfl
      · rfl
    rw [hcommitted, hf.holders_committed hperm hv hheld]
    exact List.sublist_append_left _ _

/-- A cycle that has moved is still the same cycle. -/
theorem calls_of_moved {call : CycleCall} {before after : Station}
    (hperm : f.visits.Perm (⟨call, before⟩ :: rest))
    (hvisits : f'.visits = rest ++ [⟨call, after⟩]) :
    (f'.visits.map Visit.call).Perm (f.visits.map Visit.call) := by
  rw [hvisits, List.map_append]
  exact List.perm_append_comm.trans (hperm.map Visit.call).symm

/-- **An event loses no cycle and makes none up.** -/
theorem Transition.complete (ht : Transition f e f' sight) (key : String) :
    ((endingsOf key [sight]).map Ended.call ++ f'.underWay key).Perm
      (f.underWay key ++ requestsOf key [sight]) := by
  -- this holds of all clusters together, and the cycles of one are a filter of it
  have hall : (sight.ended?.toList.map Ended.call ++ f'.visits.map Visit.call).Perm
      (f.visits.map Visit.call ++ sight.requested?.toList) := by
    cases ht with
    | still hv =>
      rw [hv]
      exact List.perm_append_comm
    | request call hv =>
      rw [hv, List.map_append]
      exact List.Perm.refl _
    | refuse call hv =>
      rw [hv]
      exact List.perm_append_comm
    | approach v rest station hperm hv =>
      exact (calls_of_moved hperm hv).trans (.of_eq (List.append_nil _).symm)
    | enter call rest book hperm hv =>
      exact (calls_of_moved hperm hv).trans (.of_eq (List.append_nil _).symm)
    | ask call rest book snapshot hperm hv =>
      exact (calls_of_moved hperm hv).trans (.of_eq (List.append_nil _).symm)
    | leave v rest hperm hv | commit v rest book told hperm hv =>
      rw [hv]
      exact (hperm.map Visit.call).symm.trans (.of_eq (List.append_nil _).symm)
  have hended : (endingsOf key [sight]).map Ended.call
      = (sight.ended?.toList.map Ended.call).filter (CycleCall.concerns key) := by
    cases hended : sight.ended? with
    | none =>
      rw [endingsOf_of_none hended]
      rfl
    | some ended =>
      rw [endingsOf_of_some hended, Option.toList_some, List.map_singleton, filter_concerns]
      split <;> rfl
  have hrequested : requestsOf key [sight]
      = sight.requested?.toList.filter (CycleCall.concerns key) := by
    unfold requestsOf
    cases hrequested : sight.requested? with
    | none =>
      rw [List.filterMap_cons_none hrequested]
      rfl
    | some call =>
      rw [List.filterMap_cons_some hrequested]
      rfl
  unfold underWay
  rw [hended, hrequested, ← List.filter_append, ← List.filter_append]
  exact hall.filter _

/-- The histories of a cluster are what is written in the book that a cycle of it holds. -/
theorem Orderly.histories_eq (hf : f.Orderly) (hperm : f.visits.Perm (v :: rest)) {book : Nat}
    (hheld : v.station.held? = some book) :
    f.histories.histories v.call.cluster.key = f.histories.read book :=
  HistoryStore.histories_eq_read
    (hf.booked v (mem_of_perm hperm).1 book (Station.book?_of_held? hheld))

/-- An event that ends a cycle adds its result and its histories to the series. -/
theorem results_ended {call : CycleCall} {told : Told} (hended : sight.ended? = some ⟨call, told⟩)
    (houtcomes : f'.outcomes = f.outcomes ++ [(call.id, Cycle.outcome f.settings call.cluster.key
      call.live (f.histories.histories call.cluster.key) call.now told)]) (key : String) :
    f'.resultsOf key = f.resultsOf key ++ ((endingsOf key [sight]).map (·.call.id)).zip
      (Series.outcomes f.settings key (f.histories.histories key)
        ((endingsOf key [sight]).map Ended.round)) := by
  unfold resultsOf
  rw [houtcomes, List.filter_append, endingsOf_of_some hended]
  refine congrArg _ ?_
  split
  · next hkey =>
    subst hkey
    rw [List.filter_cons_of_pos (by simp)]
    rfl
  · next hkey =>
    rw [List.filter_cons_of_neg (by simpa using hkey)]
    rfl

/-- An event that leaves the results and the histories as they are adds nothing to the series. -/
theorem results_still (hended : sight.ended? = none) (houtcomes : f'.outcomes = f.outcomes)
    (key : String) :
    f'.resultsOf key = f.resultsOf key ++ ((endingsOf key [sight]).map (·.call.id)).zip
      (Series.outcomes f.settings key (f.histories.histories key)
        ((endingsOf key [sight]).map Ended.round)) := by
  unfold resultsOf
  rw [houtcomes, endingsOf_of_none hended]
  exact (List.append_nil _).symm

/-- **An event adds the result of the cycle that it ends.** -/
theorem Transition.results (hf : f.Orderly) (ht : Transition f e f' sight) (key : String) :
    f'.resultsOf key = f.resultsOf key ++ ((endingsOf key [sight]).map (·.call.id)).zip
      (Series.outcomes f.settings key (f.histories.histories key)
        ((endingsOf key [sight]).map Ended.round)) := by
  cases ht with
  | still _ _ ho | request _ _ _ ho | approach _ _ _ _ _ _ _ _ _ ho | enter _ _ _ _ _ _ _ ho
    | ask _ _ _ _ _ _ _ _ _ ho => exact results_still rfl ho key
  | refuse call _ _ ho => exact results_ended rfl ho key
  | leave v _ _ _ _ ho => exact results_ended rfl ho key
  | commit v rest book told hperm _ hheld _ _ ho =>
    rw [← hf.histories_eq hperm hheld] at ho
    exact results_ended rfl ho key

/-- **An event leaves the histories that the cycle leaves which it ends.** -/
theorem Transition.histories (hf : f.Orderly) (ht : Transition f e f' sight) (key : String) :
    f'.histories.histories key = Series.after f.settings key (f.histories.histories key)
      ((endingsOf key [sight]).map Ended.round) := by
  cases ht with
  | still _ hh | request _ _ hh | enter _ _ _ _ _ _ hh | ask _ _ _ _ _ _ _ _ hh =>
    rw [hh, endingsOf_of_none rfl]
    rfl
  | approach v _ _ _ _ _ _ _ hh =>
    rw [endingsOf_of_none rfl]
    rcases hh with hh | hh
    · rw [hh]
      rfl
    · rw [hh, HistoryStore.histories_provide]
      rfl
  | refuse call _ hh =>
    rw [hh, endingsOf_of_some rfl]
    split <;> rfl
  | leave v _ _ _ hh =>
    rw [hh, endingsOf_of_some rfl]
    split <;> rfl
  | commit v rest book told hperm _ hheld haccounts hh =>
    have hbook := hf.booked v (mem_of_perm hperm).1 book (Station.book?_of_held? hheld)
    rw [hh, HistoryStore.histories_write hbook, endingsOf_of_some rfl,
      ← hf.histories_eq hperm hheld]
    split
    · next hkey =>
      subst hkey
      show _ = (if told.commits then _ else _)
      rw [if_pos haccounts.commits]
      rfl
    · rfl

/-- **An event that ends a cycle with decisions accounts for what it was told.** -/
theorem Transition.accounted (hf : f.Orderly) (ht : Transition f e f' sight)
    (hanswers : ∀ id result, f.collector.answer? id = some result →
      f'.collector.answer? id = some result) (now : Moment) (key : String) :
    Accounted f.settings key f'.collector.answer?
      (fun id advice => ∃ now', (now', .advise id advice) ∈ [(now, e)])
      (f.histories.histories key) (endingsOf key [sight]) := by
  cases ht with
  | still | request | approach | enter | ask => trivial
  | refuse call =>
    rw [endingsOf_of_some rfl]
    split
    · exact ⟨nofun, trivial⟩
    · trivial
  | leave v =>
    rw [endingsOf_of_some rfl]
    split
    · exact ⟨nofun, trivial⟩
    · trivial
  | commit v rest book told hperm _ hheld haccounts =>
    rw [endingsOf_of_some rfl]
    split
    · next hkey =>
      refine ⟨fun _ => ?_, trivial⟩
      -- what the cycle drafted from its book it drafted from the histories of its cluster
      rw [← hf.histories_eq hperm hheld] at haccounts
      subst hkey
      refine haccounts.mono (hanswers _) ?_
      rintro advice rfl
      exact ⟨now, List.mem_singleton_self _⟩
    · trivial

end

/-- **An event makes of a cluster what at most one more cycle of its series does.** -/
theorem Orderly.serial_step {f : Fleet} (hf : f.Orderly) (now : Moment) (e : Event) (key : String) :
    Serial key [(now, e)] [f.see e] f (f.step now e) := by
  have ht := step_transition hf now e
  obtain ⟨-, hanswers⟩ := f.step_keeps now e
  exact ⟨ht.order hf key, ht.complete key, ht.results hf key, ht.histories hf key,
    ht.accounted hf hanswers now key⟩

/-! ## Whole runs -/

/-- A run leaves settings and answers. -/
theorem run_keeps (f : Fleet) (es : List (Moment × Event)) :
    (f.run es).settings = f.settings
      ∧ ∀ id result, f.collector.answer? id = some result →
        (f.run es).collector.answer? id = some result := by
  induction es generalizing f with
  | nil => exact ⟨rfl, fun _ _ h => h⟩
  | cons e es ih =>
    obtain ⟨hsettings, hanswers⟩ := f.step_keeps e.1 e.2
    obtain ⟨hrest, hmore⟩ := ih (f.step e.1 e.2)
    exact ⟨hrest.trans hsettings, fun id result h => hmore id result (hanswers id result h)⟩

/-- **A run of an orderly fleet is serial.** -/
theorem Orderly.serial_run {f : Fleet} (hf : f.Orderly) (es : List (Moment × Event))
    (key : String) : Serial key es (f.watch es) f (f.run es) := by
  -- on the events, with the fleet free: an event leaves another fleet, which is orderly again
  induction es generalizing f with
  | nil => exact Serial.refl key f
  | cons e es ih =>
    obtain ⟨now, e⟩ := e
    exact (hf.serial_step now e key).trans (ih (hf.step now e)) (f.step_keeps now e).1
      ((f.step now e).run_keeps es).2

/-- **Cycles that overlap serialise.** Whatever happens to a fleet, in whatever order, the cycles of
a cluster that have ended form a series. Those of them that were not cancelled stand in it in the
order in which they got the book of the cluster, each request has its place there or is under way,
the results are those of the series, and the histories keep one move for each tier and cycle that
was not cancelled, in that order. What a cycle was told is what the collector answered it and, if
the adviser had to be asked, what it was advised. -/
theorem overlapping_cycles_serialise (s : Settings) (recorder : Option Recorder)
    (es : List (Moment × Event)) (key : String) :
    let f := (start s recorder).run es
    let sights := (start s recorder).watch es
    let endings := endingsOf key sights
    let rounds := endings.map Ended.round
    let h := ClusterHistory.empty s.engine.historyCapacity
    (committed endings ++ (f.holders key).map Visit.call).Sublist (entriesOf key sights)
      ∧ (endings.map Ended.call ++ f.underWay key).Perm (requestsOf key sights)
      ∧ f.resultsOf key = (endings.map (·.call.id)).zip (Series.outcomes s key h rounds)
      ∧ (∀ t, (f.histories.histories key).get t
          = (h.get t).keepAll (Cycle.retention s) (Series.moves s key t h rounds)
        ∧ (Series.moves s key t h rounds).map (fun m => (m.before, m.timestamp))
          = (committed endings).map fun call => (call.live.replicas.get t, call.now))
      ∧ Accounted s key f.collector.answer? (fun id advice => ∃ now, (now, .advise id advice) ∈ es)
          h endings := by
  intro f sights endings rounds h
  have hserial := (orderly_start s recorder).serial_run es key
  refine ⟨hserial.order, hserial.complete, hserial.results, fun t => ⟨?_, ?_⟩, hserial.accounted⟩
  · rw [← Series.get_after]
    exact congrArg (PerTier.get · t) hserial.histories
  · rw [Series.map_moves]
    show ((endings.map Ended.round).filter Round.commits).map _ = _
    rw [List.filter_map, List.map_map]
    unfold committed
    rw [List.map_map]
    rfl

/-- Two cycles that have both found no book, and both have one begun, end up with the same one. -/
example :
    let call (id : Nat) : CycleCall := ⟨id, ⟨"db", "main", .both [], none⟩, ⟨⟨3, 2⟩, 3⟩, 0⟩
    let f := (start (.ofTiers (.ofBounds 3 7) (.ofBounds 1 9)) none).run
      ([.request (call 1) false, .request (call 2) false, .look 1, .look 2, .begin 2, .begin 1,
        .queue 1, .queue 2].map (⟨0, 0⟩, ·))
    f.visits.map (fun v => (v.call.id, v.station.book?)) = [(1, some 0), (2, some 0)] := by
  decide +kernel

end Fleet

end ClusterScaling
