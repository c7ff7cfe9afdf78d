import ClusterScaling.Proofs.Breaker.Spells

/-!
# Circuits shield their sources

What is refused, and for how long, is a matter of one time: that from which
the cooldown of a circuit runs (`Circuit.since?`). While the circuit is
open this is its latest failure, and while it is half-open it is the probe
on its way. Everything that asking can come to is said in terms of it
(`Circuit.Asked`), and it is always the time of something that has happened
to the circuit (`Circuit.since?_after`).

Two things follow about every run whose times do not go back. After a
failure that leaves the circuit open nothing passes until the cooldown is
over, whatever outcomes of earlier calls come in meanwhile: a success is not
heard, and a failure only begins the cooldown anew. And as long as no
outcome comes in, calls that pass a circuit which is not closed are a
cooldown apart (`Circuit.passed_spaced`). The second fact is not one about
the half-open phase alone, because its first probe passes while the circuit
is still open.
-/

namespace ClusterScaling

namespace Circuit

/-- A run whose times do not go back. -/
abbrev InOrder (es : List (Nat × Call)) : Prop := es.Pairwise fun a b => a.1 ≤ b.1

/-- The time from which the cooldown of a circuit runs, if one does. -/
def since? : Circuit → Option Nat
  | closed _ => none
  | opened since => some since
  | halfOpen _ probe => probe

/-- What it can come to that a circuit is asked at a time whether a call may pass. -/
inductive Asked (l : BreakerLimits) (now : Nat) (c : Circuit) : Bool × Circuit → Prop where
  /-- A call passes a closed circuit. -/
  | passes (hclosed : c.phase = .closed) : Asked l now c (true, c)
  /-- A call passes as a probe, because no cooldown runs any more. -/
  | probes (n : Nat) (hphase : c.phase ≠ .closed)
      (hover : ∀ t, c.since? = some t → isOver l t now = true) :
      Asked l now c (true, halfOpen n (some now))
  /-- A call is refused, because a cooldown runs. -/
  | refuses (t : Nat) (hsince : c.since? = some t) (hover : isOver l t now = false) :
      Asked l now c (false, c)

section

variable (l : BreakerLimits) (c : Circuit) {now t : Nat}

/-- **Asking can come to nothing else.** -/
theorem allow_asked (now : Nat) : Asked l now c (c.allow l now) := by
  cases c with
  | closed n => exact .passes rfl
  | opened since =>
    unfold allow
    dsimp only
    split
    · next hover => exact .probes 0 nofun fun t ht => Option.some.inj ht ▸ hover
    · next hover => exact .refuses since rfl (Bool.eq_false_iff.mpr hover)
  | halfOpen n probe =>
    cases probe with
    | none => exact .probes n nofun nofun
    | some start =>
      unfold allow
      dsimp only
      split
      · next hover => exact .probes n nofun fun t ht => Option.some.inj ht ▸ hover
      · next hover => exact .refuses start rfl (Bool.eq_false_iff.mpr hover)

variable {l c}

/-- A cooldown is over when it has passed since it began. -/
theorem isOver_iff (hle : t ≤ now) : isOver l t now = true ↔ t + l.cooldown.nanos ≤ now := by
  rw [isOver, decide_eq_true_iff]
  omega

/-- **A call is refused only while a cooldown runs.** -/
theorem exists_since?_of_refused (hrefused : (c.allow l now).1 = false) :
    ∃ t, c.since? = some t ∧ now < t + l.cooldown.nanos := by
  have hasked := allow_asked l c now
  generalize c.allow l now = after at hasked hrefused
  cases hasked with
  | passes | probes => cases hrefused
  | refuses t hsince hnot =>
    have hruns : ¬ l.cooldown.nanos ≤ now - t := of_decide_eq_false hnot
    exact ⟨t, hsince, by omega⟩

/-! ## Where a cooldown begins -/

/-- Asking begins a cooldown only if the call passes. -/
theorem since?_allow (h : (c.allow l now).2.since? = some t) :
    c.since? = some t ∨ (c.allow l now).1 = true ∧ t = now := by
  have hasked := allow_asked l c now
  generalize c.allow l now = after at hasked h ⊢
  cases hasked with
  | passes | refuses => exact .inl h
  | probes => exact .inr ⟨rfl, (Option.some.inj h).symm⟩

/-- A success begins no cooldown. -/
theorem since?_succeed (h : (c.succeed l).since? = some t) : c.since? = some t := by
  cases c with
  | closed => cases h
  | opened => exact h
  | halfOpen n probe =>
    unfold succeed at h
    dsimp only at h
    split at h <;> cases h

/-- After a failure no cooldown runs that has begun before. -/
theorem since?_fail (h : (c.fail l now).since? = some t) : t = now := by
  cases c with
  | closed n =>
    unfold fail at h
    dsimp only at h
    split at h
    · exact (Option.some.inj h).symm
    · cases h
  | opened | halfOpen => exact (Option.some.inj h).symm

/-- **A cooldown runs from something that has happened to the circuit.** -/
theorem since?_after {es : List (Nat × Call)} (h : (after l es).since? = some t) :
    ∃ e ∈ es, e.1 = t := by
  induction es using List.reverseRecOn with
  | nil => cases h
  | append_singleton es e ih =>
    have hcases : (after l es).since? = some t ∨ t = e.1 := by
      rw [after_snoc] at h
      obtain ⟨now, call⟩ := e
      cases call with
      | ask => exact (since?_allow h).imp_right And.right
      | succeeded => exact .inl (since?_succeed h)
      | failed => exact .inr (since?_fail h)
    rcases hcases with hsince | rfl
    · obtain ⟨e', he', heq⟩ := ih hsince
      exact ⟨e', List.mem_append_left _ he', heq⟩
    · exact ⟨e, List.mem_append_right _ (List.mem_singleton_self e), rfl⟩

end

/-! ## After a failure -/

section

variable {l : BreakerLimits} {t since : Nat}

/-- An open circuit stays open before its cooldown is over, and the cooldown does not become
shorter. -/
theorem hear_opened (hsince : t ≤ since) {e : Nat × Call} (hle : t ≤ e.1)
    (hlt : e.1 < t + l.cooldown.nanos) :
    ∃ later, t ≤ later ∧ (opened since).hear l e = opened later := by
  have hshift := hear_shift l (opened since) e
  obtain ⟨now, call⟩ := e
  generalize (opened since).hear l (now, call) = c at hshift ⊢
  cases hshift with
  | refuses | ignores => exact ⟨since, hsince, rfl⟩
  | renews => exact ⟨now, hle, rfl⟩
  | probes _ hover =>
    have hpassed : l.cooldown.nanos ≤ now - since := of_decide_eq_true hover
    dsimp only at hlt
    omega

/-- **An open circuit stays open for a cooldown**, whatever happens to it. -/
theorem foldl_hear_opened (hsince : t ≤ since) {during : List (Nat × Call)}
    (hduring : ∀ e ∈ during, t ≤ e.1 ∧ e.1 < t + l.cooldown.nanos) :
    ∃ later, t ≤ later ∧ during.foldl (hear l) (opened since) = opened later := by
  induction during generalizing since with
  | nil => exact ⟨since, hsince, rfl⟩
  | cons e during ih =>
    obtain ⟨⟨hle, hlt⟩, hrest⟩ := List.forall_mem_cons.mp hduring
    obtain ⟨later, hlater, heq⟩ := hear_opened hsince hle hlt
    rw [List.foldl_cons, heq]
    exact ih hlater hrest

/-- An open circuit refuses every call for a cooldown. -/
theorem allow_opened_eq_false {now : Nat} (hsince : t ≤ since) (hlt : now < t + l.cooldown.nanos)
    (hle : t ≤ now) : ((opened since).allow l now).1 = false := by
  rw [allow_opened_fst, isOver, decide_eq_false_iff_not]
  omega

end

/-! ## Probes -/

/-- The times of those calls that pass while things happen to a circuit. -/
def passed (l : BreakerLimits) : Circuit → List (Nat × Call) → List Nat
  | _, [] => []
  | c, e :: es =>
    (if e.2 = .ask ∧ (c.allow l e.1).1 = true then [e.1] else []) ++ passed l (c.hear l e) es

section

variable {l : BreakerLimits} {c : Circuit}

theorem passed_append (l : BreakerLimits) (c : Circuit) (es rest : List (Nat × Call)) :
    passed l c (es ++ rest) = passed l c es ++ passed l (es.foldl (hear l) c) rest := by
  induction es generalizing c with
  | nil => rfl
  | cons e es ih => simp only [List.cons_append, passed, ih, List.append_assoc, List.foldl_cons]

/-- **Calls that pass a circuit which is not closed are a cooldown apart**, from each other and from
the beginning of the cooldown, as long as nothing is heard of how they end. -/
theorem passed_spaced {asks : List (Nat × Call)} (hphase : c.phase ≠ .closed)
    (hasks : ∀ e ∈ asks, e.2 = .ask) (hsorted : InOrder asks)
    (hbefore : ∀ t, c.since? = some t → ∀ e ∈ asks, t ≤ e.1) :
    (passed l c asks).Pairwise (fun x y => x + l.cooldown.nanos ≤ y)
      ∧ ∀ t, c.since? = some t → ∀ x ∈ passed l c asks, t + l.cooldown.nanos ≤ x := by
  -- on the calls, with the circuit free: a call that passes is where the cooldown begins anew
  induction asks generalizing c with
  | nil => exact ⟨.nil, fun _ _ _ hx => nomatch hx⟩
  | cons e asks ih =>
    obtain ⟨now, call⟩ := e
    obtain ⟨rfl, hrest⟩ := List.forall_mem_cons.mp hasks
    obtain ⟨hnow, hsorted⟩ := List.pairwise_cons.mp hsorted
    have hasked := allow_asked l c now
    unfold passed hear
    dsimp only
    generalize c.allow l now = after at hasked ⊢
    cases hasked with
    | passes hclosed => exact absurd hclosed hphase
    | probes n _ hover =>
      obtain ⟨hspaced, hfrom⟩ := ih (c := halfOpen n (some now)) nofun hrest hsorted
        fun t ht e he => Option.some.inj ht ▸ hnow e he
      rw [if_pos ⟨rfl, rfl⟩, List.singleton_append]
      refine ⟨List.pairwise_cons.mpr ⟨hfrom now rfl, hspaced⟩, fun t ht x hx => ?_⟩
      have hle : t + l.cooldown.nanos ≤ now :=
        (isOver_iff (hbefore t ht _ List.mem_cons_self)).mp (hover t ht)
      rcases List.mem_cons.mp hx with rfl | hx
      · exact hle
      · have := hfrom now rfl x hx
        omega
    | refuses _ _ _ =>
      rw [if_neg (by simp), List.nil_append]
      exact ih hphase hrest hsorted fun t ht e he => hbefore t ht e (List.mem_cons_of_mem _ he)

/-- Of times that are so far apart, one at most falls into a window of that length. -/
theorem countP_window_le_one {d : Nat} {xs : List Nat} (hspaced : xs.Pairwise fun x y => x + d ≤ y)
    (start : Nat) : xs.countP (fun x => start ≤ x ∧ x < start + d) ≤ 1 := by
  rw [List.countP_eq_length_filter]
  have hfilter := hspaced.filter fun x => decide (start ≤ x ∧ x < start + d)
  have hmem : ∀ x ∈ xs.filter fun x => decide (start ≤ x ∧ x < start + d),
      start ≤ x ∧ x < start + d := fun x hx => of_decide_eq_true (List.mem_filter.mp hx).2
  match h : xs.filter fun x => decide (start ≤ x ∧ x < start + d) with
  | [] => exact Nat.zero_le 1
  | [x] => exact Nat.le_refl 1
  | x :: y :: rest =>
    rw [h] at hfilter hmem
    have hxy := (List.pairwise_cons.mp hfilter).1 y List.mem_cons_self
    have hx := hmem x List.mem_cons_self
    have hy := hmem y (List.mem_cons_of_mem x List.mem_cons_self)
    omega

end

/-! ## Runs -/

/-- How a circuit shields its source over a run. -/
structure Shields (l : BreakerLimits) (es : List (Nat × Call)) : Prop where
  /-- After a failure that leaves the circuit open, calls are refused until the cooldown is over. -/
  refuses : ∀ before t during now, before ++ (t, .failed) :: during ++ [(now, .ask)] <+: es →
    (after l (before ++ [(t, .failed)])).phase = .opened → now < t + l.cooldown.nanos →
    ((after l (before ++ (t, .failed) :: during)).allow l now).1 = false
  /-- Two probes of a half-open circuit, the one that has made it so included, are a cooldown apart
  if nothing has been heard of how a call has ended in between. -/
  spaces : ∀ before t during now, before ++ (t, .ask) :: during ++ [(now, .ask)] <+: es →
    (∀ e ∈ during, e.2 = .ask) → ((after l before).allow l t).1 = true →
    (after l (before ++ [(t, .ask)])).phase = .halfOpen →
    ((after l (before ++ (t, .ask) :: during)).allow l now).1 = true →
    t + l.cooldown.nanos ≤ now
  /-- So while nothing is heard, a circuit that is not closed lets at most one probe pass in a time
  that is no longer than a cooldown. -/
  single : ∀ before asks, before ++ asks <+: es → (∀ e ∈ asks, e.2 = .ask) →
    (after l before).phase ≠ .closed → ∀ start,
    (passed l (after l before) asks).countP
      (fun now => start ≤ now ∧ now < start + l.cooldown.nanos) ≤ 1

section

variable {l : BreakerLimits} {es before during asks : List (Nat × Call)} {t now : Nat}

theorem after_append (l : BreakerLimits) (es rest : List (Nat × Call)) :
    after l (es ++ rest) = rest.foldl (hear l) (after l es) :=
  List.foldl_append

/-- A failure that leaves a circuit open begins its cooldown. -/
theorem after_failed (hopen : (after l (before ++ [(t, .failed)])).phase = .opened) :
    after l (before ++ [(t, .failed)]) = opened t := by
  rw [after_snoc] at hopen ⊢
  have hshift := hear_shift l (after l before) (t, .failed)
  generalize after l before = c, (after l before).hear l (t, .failed) = c' at hshift hopen ⊢
  cases hshift with
  | counts => cases hopen
  | trips | renews | reopens => rfl

/-- In a run whose times do not go back, what follows happens no earlier. -/
theorem since?_le (hsorted : InOrder (before ++ asks))
    (h : (after l before).since? = some t) : ∀ e ∈ asks, t ≤ e.1 := by
  obtain ⟨e, he, rfl⟩ := since?_after h
  exact (List.pairwise_append.mp hsorted).2.2 e he

theorem refuses_of_sorted
    (hsorted : InOrder (before ++ (t, .failed) :: during ++ [(now, .ask)]))
    (hopen : (after l (before ++ [(t, .failed)])).phase = .opened)
    (hnow : now < t + l.cooldown.nanos) :
    ((after l (before ++ (t, .failed) :: during)).allow l now).1 = false := by
  obtain ⟨hrun, -, hlast⟩ := List.pairwise_append.mp hsorted
  have hlast : ∀ e ∈ before ++ (t, .failed) :: during, e.1 ≤ now := fun e he =>
    hlast e he _ (List.mem_singleton_self _)
  have hfirst := (List.pairwise_cons.mp (List.pairwise_append.mp hrun).2.1).1
  have hduring : ∀ e ∈ during, t ≤ e.1 ∧ e.1 < t + l.cooldown.nanos := fun e he =>
    ⟨hfirst e he, Nat.lt_of_le_of_lt
      (hlast e (List.mem_append_right _ (List.mem_cons_of_mem _ he))) hnow⟩
  rw [List.append_cons before, after_append, after_failed hopen]
  obtain ⟨later, hlater, heq⟩ := foldl_hear_opened (Nat.le_refl t) hduring
  rw [heq]
  exact allow_opened_eq_false hlater hnow
    (hlast (t, .failed) (List.mem_append_right _ List.mem_cons_self))

theorem spaces_of_sorted
    (hsorted : InOrder (before ++ (t, .ask) :: during ++ [(now, .ask)]))
    (hduring : ∀ e ∈ during, e.2 = .ask) (hpassed : ((after l before).allow l t).1 = true)
    (hhalf : (after l (before ++ [(t, .ask)])).phase = .halfOpen)
    (hnow : ((after l (before ++ (t, .ask) :: during)).allow l now).1 = true) :
    t + l.cooldown.nanos ≤ now := by
  rw [List.append_assoc, List.cons_append] at hsorted
  obtain ⟨hfirst, hrest⟩ := List.pairwise_cons.mp (List.pairwise_append.mp hsorted).2.1
  have hasks : ∀ e ∈ during ++ [(now, .ask)], e.2 = .ask :=
    List.forall_mem_append.mpr ⟨hduring, List.forall_mem_singleton.mpr rfl⟩
  -- the first of the two calls is where the cooldown runs from
  have hsince : (after l (before ++ [(t, .ask)])).since? = some t := by
    rw [after_snoc] at hhalf ⊢
    have hasked := allow_asked l (after l before) t
    unfold hear at hhalf ⊢
    dsimp only at hhalf ⊢
    generalize (after l before).allow l t = next at hasked hhalf hpassed ⊢
    cases hasked with
    | passes hclosed => rw [hclosed] at hhalf; cases hhalf
    | probes => rfl
    | refuses => cases hpassed
  have hspaced := (passed_spaced (l := l) (c := after l (before ++ [(t, .ask)]))
    (by rw [hhalf]; nofun) hasks hrest
    fun t' ht' e he => by rw [hsince] at ht'; exact Option.some.inj ht' ▸ hfirst e he).2 t hsince
  refine hspaced now ?_
  rw [List.append_cons before, after_append] at hnow
  rw [passed_append, passed, if_pos ⟨rfl, hnow⟩]
  simp

/-- **A circuit shields its source.** Over every run whose times do not go back, and whatever the
limits are, nothing passes for a cooldown after a failure that leaves the circuit open, and of
probes that are not answered at most one passes in a cooldown. -/
theorem shields_source (l : BreakerLimits) {es : List (Nat × Call)} (hsorted : InOrder es) :
    Shields l es where
  refuses := fun _ _ _ _ hrun hopen hnow =>
    refuses_of_sorted (hsorted.sublist hrun.sublist) hopen hnow
  spaces := fun _ _ _ _ hrun hduring hpassed hhalf hnow =>
    spaces_of_sorted (hsorted.sublist hrun.sublist) hduring hpassed hhalf hnow
  single := fun before asks hrun hasks hphase start => by
    have hrun := hsorted.sublist hrun.sublist
    have hspaced := passed_spaced (l := l) hphase hasks (List.pairwise_append.mp hrun).2.1
      fun _ ht => since?_le hrun ht
    exact countP_window_le_one hspaced.1 start

/-- A failure that comes late makes the cooldown of an open circuit begin anew. Of the calls that
follow two pass, the second one because nothing has been heard of the first one for a cooldown. -/
theorem shields_source_unanswered :
    let l : BreakerLimits := ⟨2, 1, .ofSeconds 30⟩
    let es : List (Nat × Call) :=
      [(0, .failed), (1, .failed), (5, .failed), (30000000001, .ask), (30000000005, .ask),
        (30000000006, .ask), (60000000005, .ask)]
    InOrder es ∧ Shields l es ∧ passed l fresh es = [30000000005, 60000000005]
      ∧ ((after l (es.take 3)).allow l 30000000001).1 = false
      ∧ 30000000005 + l.cooldown.nanos ≤ 60000000005 := by
  intro l es
  have hsorted : InOrder es := by decide
  have hshields := shields_source l hsorted
  refine ⟨hsorted, hshields, by decide, ?_, ?_⟩
  · exact hshields.refuses [(0, .failed), (1, .failed)] 5 [] 30000000001 ⟨_, rfl⟩ rfl (by decide)
  · exact hshields.spaces [(0, .failed), (1, .failed), (5, .failed), (30000000001, .ask)]
      30000000005 [(30000000006, .ask)] 60000000005 (List.prefix_refl _) (by decide) rfl rfl rfl

end

end Circuit

end ClusterScaling
