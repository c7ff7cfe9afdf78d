import ClusterScaling.History

/-!
# What a history is sure to recall

A cycle keeps a move in two strokes: it pushes it and then forgets what is
too old by the time of the move. A history that is kept in this way
recalls two different things about the past, and they are not equally
safe.

* The **time of the latest change** only ever grows. Neither the want of
  room nor the age of a move touches it, so whoever asks whether there was
  a change since some time is never told "no" wrongly (`recalls_keepAll`).
* A **move itself** is lost as soon as as many newer moves have come as
  there is room for. As long as there are fewer, and none of them comes so
  late that the move is too old, it is still there (`trails_keepAll`);
  once there are as many, nothing older than them is (`mem_of_mem_keepAll`).

Moves that hold need room like any other, so the second kind of memory may
be filled with them.
-/

namespace ClusterScaling

namespace History

/-- Remembers a move and forgets what is too old by its time. -/
def keep (age : Duration) (h : History) (m : Move) : History :=
  (h.push m).prune m.timestamp age

/-- Keeps several moves, one after the other. -/
def keepAll (age : Duration) (h : History) (ms : List Move) : History := ms.foldl (keep age) h

variable {h : History} {age : Duration} {m : Move} {n : Nat}

@[simp]
theorem capacity_keep : (h.keep age m).capacity = h.capacity := rfl

@[simp]
theorem capacity_keepAll (ms : List Move) : (h.keepAll age ms).capacity = h.capacity := by
  induction ms generalizing h with
  | nil => rfl
  | cons m ms ih => exact ih

/-- What is before a window now is before it at any later moment. -/
theorem since_mono {now later : UInt64} (hle : now ≤ later) (window : Duration) :
    since now window ≤ since later window :=
  Nat.sub_le_sub_right (UInt64.le_iff_toNat_le.mp hle) _

/-! ## The latest change -/

/-- A change that is no earlier than a time is remembered. -/
def Recalls (h : History) (t : UInt64) : Prop := ∃ u, h.lastChange = some u ∧ t ≤ u

/-- The later of two times is not earlier than the second. -/
theorem le_later (t : Option UInt64) (u : UInt64) : u ≤ later t u := by
  cases t with
  | none => exact UInt64.le_refl u
  | some t =>
    show u ≤ if t < u then u else t
    split
    · exact UInt64.le_refl u
    · next hlt => exact UInt64.not_lt.mp hlt

/-- The later of two times is not earlier than the first. -/
theorem le_later_some (t u : UInt64) : t ≤ later (some t) u := by
  show t ≤ if t < u then u else t
  split
  · next hlt => exact UInt64.le_of_lt hlt
  · exact UInt64.le_refl t

/-- A change that is kept is recalled. -/
theorem recalls_keep (hm : m.isChange = true) : (h.keep age m).Recalls m.timestamp := by
  refine ⟨later h.lastChange m.timestamp, ?_, le_later _ _⟩
  show (if m.isChange then _ else _) = _
  rw [if_pos hm]

/-- **What is recalled stays recalled**, whatever is kept after it. -/
theorem Recalls.keep {t : UInt64} (hr : h.Recalls t) (m : Move) : (h.keep age m).Recalls t := by
  obtain ⟨u, hu, ht⟩ := hr
  cases hm : m.isChange with
  | true =>
    refine ⟨later (some u) m.timestamp, ?_, UInt64.le_trans ht (le_later_some _ _)⟩
    show (if m.isChange then _ else _) = _
    rw [if_pos hm, hu]
  | false =>
    refine ⟨u, ?_, ht⟩
    show (if m.isChange then _ else _) = _
    rw [if_neg (by simp [hm]), hu]

theorem Recalls.keepAll {t : UInt64} (hr : h.Recalls t) (ms : List Move) :
    (h.keepAll age ms).Recalls t := by
  induction ms generalizing h with
  | nil => exact hr
  | cons m ms ih => exact ih (hr.keep m)

/-- **Every change that was ever kept is recalled**, however many moves came after it and whatever
their times. -/
theorem recalls_keepAll {ms : List Move} (hmem : m ∈ ms) (hm : m.isChange = true) :
    (h.keepAll age ms).Recalls m.timestamp := by
  induction ms generalizing h with
  | nil => cases hmem
  | cons other ms ih =>
    rcases List.mem_cons.mp hmem with rfl | hmem
    · exact (recalls_keep hm).keepAll ms
    · exact ih hmem

/-! ## The moves themselves -/

/-- A move is still there, and so many newer ones behind it. -/
def Trails (h : History) (m : Move) (n : Nat) : Prop :=
  ∃ older newer, h.moves = older ++ m :: newer ∧ newer.length = n

theorem Trails.mem (ht : h.Trails m n) : m ∈ h.moves := by
  obtain ⟨older, newer, hmoves, -⟩ := ht
  rw [hmoves]
  exact List.mem_append_right older List.mem_cons_self

/-- Forgetting old moves stops at the latest before the first move that is not too old. -/
theorem moves_prune {now : UInt64} {older newer : List Move}
    (hmoves : h.moves = older ++ m :: newer) (hm : since now age ≤ m.timestamp.toNat) :
    ∃ rest, (h.prune now age).moves = rest ++ m :: newer := by
  unfold prune
  dsimp only
  rw [hmoves, List.dropWhile_append]
  split
  · refine ⟨[], ?_⟩
    rw [List.dropWhile_cons, if_neg (by simpa using hm), List.nil_append]
  · exact ⟨_, rfl⟩

/-- A move that was just kept is there, and none is newer. -/
theorem trails_keep : (h.keep age m).Trails m 0 := by
  have hm : since m.timestamp age ≤ m.timestamp.toNat := Nat.sub_le _ _
  have hpush : (h.push m).moves
      = (if h.moves.length = h.capacity then h.moves.drop 1 else h.moves) ++ m :: [] := rfl
  obtain ⟨rest, hrest⟩ := moves_prune hpush hm
  exact ⟨rest, [], hrest, rfl⟩

/-- A move stays while there is room for one more than the newer ones, and while it is not too
old. -/
theorem Trails.keep (ht : h.Trails m n) (hroom : n + 1 < h.capacity) {new : Move}
    (hage : since new.timestamp age ≤ m.timestamp.toNat) : (h.keep age new).Trails m (n + 1) := by
  obtain ⟨older, newer, hmoves, hlen⟩ := ht
  have hpush : ∃ rest, (h.push new).moves = rest ++ m :: (newer ++ [new]) := by
    unfold push
    dsimp only
    rw [hmoves]
    split
    · next hfull =>
      -- the move is not the oldest one, for then there would be room
      cases older with
      | nil =>
        rw [List.nil_append, List.length_cons] at hfull
        omega
      | cons oldest older => exact ⟨older, by simp⟩
    · exact ⟨older, by simp⟩
  obtain ⟨rest, hrest⟩ := hpush
  obtain ⟨kept, hkept⟩ := moves_prune hrest hage
  exact ⟨kept, newer ++ [new], hkept, by rw [List.length_append, hlen, List.length_singleton]⟩

/-- A move stays while fewer newer ones come than there is room for, and none of them comes so
late that it is too old. -/
theorem Trails.keepAll (ht : h.Trails m n) {ms : List Move} (hroom : n + ms.length < h.capacity)
    (hage : ∀ new ∈ ms, since new.timestamp age ≤ m.timestamp.toNat) :
    (h.keepAll age ms).Trails m (n + ms.length) := by
  induction ms generalizing h n with
  | nil => exact ht
  | cons new ms ih =>
    rw [List.forall_mem_cons] at hage
    rw [List.length_cons] at hroom
    have hnew := ht.keep (by omega) hage.1
    rw [List.length_cons, Nat.add_comm ms.length, ← Nat.add_assoc]
    exact ih hnew (by rw [capacity_keep]; omega) hage.2

/-- **A move that is kept stays until as many newer ones have come as there is room for**, unless
it grows too old before. -/
theorem trails_keepAll {ms : List Move} (hroom : ms.length < h.capacity)
    (hage : ∀ new ∈ ms, since new.timestamp age ≤ m.timestamp.toNat) :
    (h.keepAll age (m :: ms)).Trails m ms.length := by
  have hkept : (h.keep age m).Trails m 0 := trails_keep
  rw [← Nat.zero_add ms.length]
  exact hkept.keepAll (by rwa [Nat.zero_add, capacity_keep]) hage

/-- What is there is at most what there is room for, and there is some room. -/
structure Fits (h : History) : Prop where
  /-- There is room for a move. -/
  pos : 0 < h.capacity
  /-- There are no more moves than there is room for. -/
  length_le : h.moves.length ≤ h.capacity

theorem fits_empty (capacity : UInt64) : (empty capacity).Fits :=
  ⟨Nat.lt_of_lt_of_le Nat.zero_lt_one (Nat.le_max_right _ _), Nat.zero_le _⟩

/-- After a move is kept, the end of the moves before it is left, and the move. -/
theorem moves_keep_suffix : (h.keep age m).moves <:+ h.moves ++ [m] := by
  refine (List.dropWhile_suffix _).trans ?_
  unfold push
  dsimp only
  split
  · obtain ⟨taken, htaken⟩ := List.drop_suffix 1 h.moves
    exact ⟨taken, by rw [← List.append_assoc, htaken]⟩
  · exact List.suffix_refl _

theorem Fits.push (hf : h.Fits) : (h.push m).Fits where
  pos := hf.pos
  length_le := by
    have hpos := hf.pos
    have hle := hf.length_le
    unfold History.push
    dsimp only
    split
    · rw [List.length_append, List.length_drop, List.length_singleton]
      omega
    · rw [List.length_append, List.length_singleton]
      omega

theorem Fits.keep (hf : h.Fits) : (h.keep age m).Fits where
  pos := hf.pos
  length_le := Nat.le_trans (List.dropWhile_suffix _).length_le hf.push.length_le

theorem Fits.keepAll (hf : h.Fits) (ms : List Move) : (h.keepAll age ms).Fits := by
  induction ms generalizing h with
  | nil => exact hf
  | cons m ms ih => exact ih hf.keep

/-- **What is left of a past is its end.** -/
theorem moves_keepAll_suffix (ms : List Move) : (h.keepAll age ms).moves <:+ h.moves ++ ms := by
  induction ms generalizing h with
  | nil =>
    rw [List.append_nil]
    exact List.suffix_refl _
  | cons m ms ih =>
    obtain ⟨lost, hlost⟩ := @moves_keep_suffix h age m
    have hrest : (h.keep age m).moves ++ ms <:+ h.moves ++ m :: ms :=
      ⟨lost, by rw [← List.append_assoc, hlost, List.append_assoc]; rfl⟩
    exact ih.trans hrest

/-- **The latest moves are still there, all of them and in their order**, if there is room for them
and none of them came so late that another one was too old. -/
theorem suffix_moves_keepAll (h : History) (older : List Move) {latest : List Move}
    (hroom : latest.length ≤ h.capacity)
    (hage : ∀ m ∈ latest, ∀ new ∈ latest, since new.timestamp age ≤ m.timestamp.toNat) :
    latest <:+ (h.keepAll age (older ++ latest)).moves := by
  cases latest with
  | nil => exact List.nil_suffix
  | cons m newer =>
    have happend : h.keepAll age (older ++ m :: newer)
        = (h.keepAll age older).keepAll age (m :: newer) := List.foldl_append
    obtain ⟨before, behind, hmoves, hlength⟩ := trails_keepAll (h := h.keepAll age older)
      (by rwa [capacity_keepAll]) fun new hnew =>
        hage m List.mem_cons_self new (List.mem_cons_of_mem m hnew)
    have hcount : (m :: behind).length = (m :: newer).length := congrArg (· + 1) hlength
    rw [happend, hmoves]
    -- the moves that are left end as the past does, and so many are left
    have hpast : m :: behind <:+ (h.keepAll age older).moves ++ m :: newer := by
      refine (List.suffix_append before _).trans ?_
      rw [← hmoves]
      exact moves_keepAll_suffix _
    have hbehind : m :: behind <:+ m :: newer :=
      List.suffix_of_suffix_length_le hpast (List.suffix_append _ _) (Nat.le_of_eq hcount)
    rw [hbehind.eq_of_length hcount]
    exact List.suffix_append before _

/-- **Once as many moves have come as there is room for, nothing older is left.** -/
theorem mem_of_mem_keepAll (hf : h.Fits) (older : List Move) {newer : List Move}
    (hfull : h.capacity ≤ newer.length) (hm : m ∈ (h.keepAll age (older ++ newer)).moves) :
    m ∈ newer := by
  have hlen : (h.keepAll age (older ++ newer)).moves.length ≤ newer.length :=
    Nat.le_trans (hf.keepAll _).length_le (by rw [capacity_keepAll]; exact hfull)
  have hend : newer <:+ h.moves ++ (older ++ newer) :=
    (List.suffix_append older newer).trans (List.suffix_append h.moves _)
  -- what is left and the newer moves both end the same past, and what is left is no longer
  have hsuffix : (h.keepAll age (older ++ newer)).moves <:+ newer :=
    List.suffix_of_suffix_length_le (moves_keepAll_suffix _) hend hlen
  exact hsuffix.subset hm

end History

end ClusterScaling
