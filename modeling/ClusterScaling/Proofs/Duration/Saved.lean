import ClusterScaling.Duration
import ClusterScaling.Proofs.Decimal.Written
import ClusterScaling.Proofs.Double.Product

/-!
# Which durations survive being saved

A duration is saved as a count of seconds or milliseconds, and its text
is read as a double, times the unit as a double, rounded to nanoseconds.
Two things may get lost. Writing cuts off what is less than a
millisecond. Reading multiplies by `0.001`, which is no double, and
rounds the product; `ofText?_millis` is that both errors together stay
below half a nanosecond as long as the count has at most 31 bits, which
are 24 days. A count of seconds is multiplied by one, so it is exact up
to 53 bits.

So a duration within these bounds is `Kept` exactly if it has whole
milliseconds, `kept_iff`. Beyond them a count of milliseconds may come
back a nanosecond away.
-/

namespace ClusterScaling

/-! ## Digits -/

namespace Text

/-- A text without blanks is trimmed to itself. -/
theorem trim_of_forall {cs : List Char} (h : ∀ c ∈ cs, isBlank c = false) : trim cs = cs := by
  have hkeep (ds : List Char) (hds : ∀ c ∈ ds, isBlank c = false) :
      ds.dropWhile isBlank = ds := by
    cases ds with
    | nil => rfl
    | cons d ds => rw [List.dropWhile_cons_of_neg (by rw [hds d List.mem_cons_self]; exact nofun)]
  unfold trim
  rw [hkeep cs h, hkeep cs.reverse fun c hc => h c (List.mem_reverse.mp hc), List.reverse_reverse]

theorem isBlank_of_isDigit {c : Char} (h : c.isDigit = true) : isBlank c = false := by
  have hrange := toNat_of_isDigit h
  simp [isBlank, blankRanges]
  omega

/-- A text without an ending. -/
theorem dropEnding?_eq_none {ending cs : List Char} (h : ¬ ending <:+ cs) :
    dropEnding? ending cs = none := by
  unfold dropEnding?
  rw [if_neg fun hs => h (List.isSuffixOf_iff_suffix.mp hs)]

end Text

namespace Decimal

/-- The digits of a number are read as the double nearest to it. -/
theorem read?_toDigits (n : Nat) : read? (Nat.toDigits 10 n) = some (nearest n 0) := by
  unfold read?
  rw [Literal.ofText?_toDigits]
  rfl

/-- A number of up to 53 bits is the double that it is. -/
theorem holds_nearest {n : Nat} (hpos : 0 < n) (hlt : n < 2 ^ 53) :
    Double.Holds (nearest n 0) (n * 2 ^ (52 - n.log2)) (n.log2 - 52) := by
  have hcount : digitCount n ≤ 16 := Nat.toDigits_length 10 n 16 (by decide) (by omega)
  have hnearest : nearest n 0 = Float.ofScientific n false 0 := by
    unfold nearest
    rw [if_neg (Nat.ne_of_gt hpos)]
    dsimp only
    rw [if_neg (by omega), if_neg (by omega), if_pos (Int.le_refl 0)]
    rfl
  rw [hnearest]
  exact Double.holds_ofScientific hpos hlt

/-- A quotient is rounded to a natural number that is nearer than a half. -/
theorem roundHalfEven_near {num den n : Nat} (hlow : 2 * (n * den) < 2 * num + den)
    (hhigh : 2 * num < 2 * (n * den) + den) : roundHalfEven num den = n := by
  have hdiv := Nat.div_add_mod num den
  have hmod : num % den < den := Nat.mod_lt _ (by omega)
  unfold roundHalfEven
  dsimp only
  generalize num % den = r at *
  -- the quotient is the number, or one less, and then the rest is more than half
  by_cases hle : n ≤ num / den
  · have hq : num / den = n := by
      by_contra hne
      have hmul : (n + 1) * den ≤ num / den * den := Nat.mul_le_mul_right den (by omega)
      rw [Nat.succ_mul, Nat.mul_comm (num / den)] at hmul
      omega
    rw [hq] at hdiv ⊢
    rw [Nat.mul_comm] at hdiv
    rw [if_neg]
    simp
    omega
  · have hq : num / den + 1 = n := by
      by_contra hne
      have hmul : (num / den + 2) * den ≤ n * den := Nat.mul_le_mul_right den (by omega)
      rw [Nat.add_mul, Nat.mul_comm (num / den)] at hmul
      omega
    subst hq
    have hsucc : (num / den + 1) * den = den * (num / den) + den := by
      rw [Nat.succ_mul, Nat.mul_comm]
    rw [hsucc] at hlow
    rw [if_pos]
    simp
    omega

end Decimal

namespace Duration

/-! ## Numbers of seconds -/

/-- A positive double without a fraction of too many bits is a duration of the nearest count of
nanoseconds. -/
theorem ofSeconds?_of_holds {x : Float} {m t : Nat} (h : Double.Holds x m (-t)) :
    ofSeconds? x = ofNanos? (Decimal.roundHalfEven (m * 1000000000) (2 ^ t)) := by
  have hfraction : (Decimal.Binary64.parts x).fraction = (m, 2 ^ t) := by
    rw [h.parts]
    unfold Decimal.Binary64.fraction Decimal.Binary64.scaled
    dsimp only
    split
    · next hzero =>
      have ht : t = 0 := by omega
      subst ht
      rfl
    · rw [Int.neg_neg, Int.toNat_natCast, Nat.one_shiftLeft]
  unfold ofSeconds?
  rw [h.isFinite, decide_eq_true h.zero_le.1, Bool.true_and, if_pos rfl, hfraction]

/-- The text of a number and a unit gives the number as a double, times the unit. -/
theorem ofText?_unit {n : Nat} (hpos : 0 < n) (hlt : n < 2 ^ 53) {u : Unit} {name : List Char}
    (hname : ∀ c ∈ name, Text.isBlank c = false)
    (hsplit : splitUnit? (Nat.toDigits 10 n ++ name) = some (Nat.toDigits 10 n, u)) :
    ofText? (String.ofList (Nat.toDigits 10 n ++ name))
      = ofSeconds? (Decimal.nearest n 0 * u.scale) := by
  have hdigits : ∀ c ∈ Nat.toDigits 10 n, Text.isBlank c = false := fun c hc =>
    Text.isBlank_of_isDigit (Nat.isDigit_of_mem_toDigits (by decide) (by decide) hc)
  have htrim : Text.trim (Nat.toDigits 10 n ++ name) = Nat.toDigits 10 n ++ name :=
    Text.trim_of_forall (List.forall_mem_append.mpr ⟨hdigits, hname⟩)
  have hholds := Decimal.holds_nearest hpos hlt
  unfold ofText?
  rw [String.toList_ofList, htrim]
  dsimp only
  rw [hsplit, Option.getD_some]
  dsimp only
  rw [Text.trim_of_forall hdigits, Decimal.read?_toDigits]
  rw [Option.bind_eq_bind, Option.bind_some, hholds.isFinite, decide_eq_false hholds.zero_le.2]
  exact if_pos rfl

/-! ## Whole seconds and milliseconds -/

/-- Digits before a unit are not part of it. -/
theorem not_mem_toDigits {c : Char} (hc : c.isDigit = false) (n : Nat) :
    c ∉ Nat.toDigits 10 n := fun hmem => by
  rw [Nat.isDigit_of_mem_toDigits (by decide) (by decide) hmem] at hc
  cases hc

theorem splitUnit?_seconds (n : Nat) :
    splitUnit? (Nat.toDigits 10 n ++ ['s']) = some (Nat.toDigits 10 n, .seconds) := by
  have hmillis : Text.dropEnding? ['m', 's'] (Nat.toDigits 10 n ++ ['s']) = none := by
    refine Text.dropEnding?_eq_none fun h => ?_
    obtain ⟨front, hfront⟩ := h
    have hm : front ++ ['m'] = Nat.toDigits 10 n :=
      (List.append_inj' (show front ++ ['m'] ++ ['s'] = _ by simpa using hfront) rfl).1
    exact not_mem_toDigits (by decide) n (hm ▸ List.mem_append_right front List.mem_cons_self)
  unfold splitUnit?
  rw [hmillis, Text.dropEnding?_append]

theorem splitUnit?_millis (n : Nat) :
    splitUnit? (Nat.toDigits 10 n ++ ['m', 's']) = some (Nat.toDigits 10 n, .milliseconds) := by
  unfold splitUnit?
  rw [Text.dropEnding?_append]

/-- **Whole seconds are read as they are written.** -/
theorem ofText?_seconds {n : Nat} (hlt : n < 2 ^ 53) :
    ofText? (toString n ++ "s") = ofNanos? (n * 1000000000) := by
  rcases Nat.eq_zero_or_pos n with rfl | hpos
  · decide +kernel
  have htext : toString n ++ "s" = String.ofList (Nat.toDigits 10 n ++ ['s']) := by
    rw [String.ofList_append, Nat.toString_eq_ofList_toDigits]
  have hlog : n.log2 ≤ 52 := by
    have := (Nat.log2_lt (Nat.ne_of_gt hpos)).mpr hlt
    omega
  have hexp : (n.log2 : Int) - 52 = -((52 - n.log2 : Nat) : Int) := by omega
  have hholds := Decimal.holds_nearest hpos hlt
  rw [hexp] at hholds
  rw [htext, ofText?_unit hpos hlt (List.forall_mem_singleton.mpr rfl) (splitUnit?_seconds n)]
  show ofSeconds? (Decimal.nearest n 0 * 1.0) = _
  rw [ofSeconds?_of_holds (hholds.mul_one (by omega) (by omega)), Nat.mul_right_comm,
    Decimal.roundHalfEven_of_dvd _ (Nat.two_pow_pos _)]

/-- A thousandth as a double: the double is larger by 96 parts in `1000 * 2 ^ 62`. -/
theorem holds_thousandth : Double.Holds 0.001 4611686018427388 (-62) :=
  ⟨by decide +kernel, by decide, rfl⟩

/-- What `n` times the double of a thousandth is rounded to. The double is larger than a thousandth,
which makes at most `n * P * 96` in units of `1 / (1000 * 2 ^ 62 * P)`, and the product was rounded
to a multiple of `q` before: `S` is what the rounding cut off. -/
theorem roundHalfEven_thousandth {n m P q S den : Nat} (hspare : 2 ^ 22 ≤ P)
    (hwidth : n * P < 2 ^ 53) (hcut : q ≤ 2 ^ 53) (hplaces : den * S = 2 ^ 62 * P)
    (hle : 2 * (m * S) ≤ 2 * (n * P * 4611686018427388) + q)
    (hge : 2 * (n * P * 4611686018427388) ≤ 2 * (m * S) + q) :
    Decimal.roundHalfEven (m * 1000000000) den = n * 1000000 := by
  have hexact : 2 * (n * 1000000 * den) * S = 2 * (n * P * 1000000 * 2 ^ 62) := by
    rw [Nat.mul_assoc 2, Nat.mul_assoc (n * 1000000), hplaces]
    ring
  have hrounded : 2 * (m * 1000000000) * S = 2 * (m * S * 1000000000) := by
    ring
  apply Decimal.roundHalfEven_near
  · refine Nat.lt_of_mul_lt_mul_right (a := S) ?_
    rw [Nat.add_mul, hexact, hrounded, hplaces]
    omega
  · refine Nat.lt_of_mul_lt_mul_right (a := S) ?_
    rw [Nat.add_mul, hexact, hrounded, hplaces]
    omega

/-- **A count of milliseconds of up to 31 bits is read as it is written.** The thousandth is no
double and the product is rounded, but both errors together stay below half a nanosecond. -/
theorem ofText?_millis {n : Nat} (hpos : 0 < n) (hlt : n < 2 ^ 31) :
    ofText? (toString n ++ "ms") = ofNanos? (n * 1000000) := by
  have htext : toString n ++ "ms" = String.ofList (Nat.toDigits 10 n ++ ['m', 's']) := by
    rw [String.ofList_append, Nat.toString_eq_ofList_toDigits]
  have hlog : n.log2 ≤ 30 := by
    have := (Nat.log2_lt (Nat.ne_of_gt hpos)).mpr hlt
    omega
  have hholds := Decimal.holds_nearest hpos (Nat.lt_trans hlt (by decide))
  have hspare : 2 ^ 22 ≤ 2 ^ (52 - n.log2) := Nat.pow_le_pow_right (by decide) (by omega)
  obtain ⟨hlow, hhigh⟩ :=
    (Nat.log2_eq_iff (Nat.mul_ne_zero (Nat.ne_of_gt hpos) (Nat.ne_of_gt (Nat.two_pow_pos _)))).mp
      hholds.full
  -- the product of the significands has 105 or 106 bits
  obtain ⟨k, hk, hproduct⟩ : ∃ k, (k = 52 ∨ k = 53) ∧
      (n * 2 ^ (52 - n.log2) * 4611686018427388).log2 = 52 + k := by
    by_cases h : n * 2 ^ (52 - n.log2) * 4611686018427388 < 2 ^ 105
    · exact ⟨52, .inl rfl, (Nat.log2_eq_iff (by omega)).mpr (by omega)⟩
    · exact ⟨53, .inr rfl, (Nat.log2_eq_iff (by omega)).mpr (by omega)⟩
  have hcut : 2 ^ k ≤ 2 ^ 53 := Nat.pow_le_pow_right (by decide) (by omega)
  obtain ⟨m', j, hscaled, hj, hle, hge⟩ :=
    hholds.mul holds_thousandth hproduct (by omega) (by omega)
  have hexp : (n.log2 : Int) - 52 + -62 + k + j = -((114 - n.log2 - k - j : Nat) : Int) := by
    omega
  rw [hexp] at hscaled
  have hplaces : 2 ^ (114 - n.log2 - k - j) * (2 ^ j * 2 ^ k) = 2 ^ 62 * 2 ^ (52 - n.log2) := by
    rw [← Nat.pow_add, ← Nat.pow_add, ← Nat.pow_add]
    congr 1
    omega
  have hhalf : Decimal.roundHalfEven (m' * 1000000000) (2 ^ (114 - n.log2 - k - j))
      = n * 1000000 := by
    rw [Nat.mul_assoc m'] at hle hge
    exact roundHalfEven_thousandth hspare hhigh hcut hplaces hle hge
  rw [htext, ofText?_unit hpos (Nat.lt_trans hlt (by decide))
    (List.forall_mem_cons.mpr ⟨rfl, List.forall_mem_singleton.mpr rfl⟩) (splitUnit?_millis n)]
  show ofSeconds? (Decimal.nearest n 0 * 0.001) = _
  rw [ofSeconds?_of_holds hscaled, hhalf]

/-! ## What is kept -/

/-- A duration without what is less than a millisecond. -/
def cutToMillis (d : Duration) : Duration :=
  ⟨d.millis * 1000000, Nat.lt_of_le_of_lt (Nat.div_mul_le_self d.nanos 1000000) d.bounded⟩

/-- The text in which a duration is saved is read as the same duration. -/
def Kept (d : Duration) : Prop := ofText? d.canonical = some d

instance (d : Duration) : Decidable d.Kept := inferInstanceAs (Decidable (_ = _))

theorem eq_of_nanos {d d' : Duration} (h : d.nanos = d'.nanos) : d = d' := by
  cases d
  cases d'
  cases h
  rfl

theorem ofNanos?_nanos (d : Duration) : ofNanos? d.nanos = some d := by
  unfold ofNanos?
  rw [dif_pos d.bounded]

/-- **What comes back.** A duration of up to 31 bits of milliseconds is saved without what is less
than a millisecond, and nothing else is lost. -/
theorem ofText?_canonical {d : Duration} (hlt : d.millis < 2 ^ 31) :
    ofText? d.canonical = some d.cutToMillis := by
  rw [← ofNanos?_nanos d.cutToMillis]
  unfold canonical
  split
  next hwhole =>
    have hnanos : d.millis / 1000 * 1000000000 = d.cutToMillis.nanos := by
      show _ = d.millis * 1000000
      omega
    rw [ofText?_seconds (by omega), hnanos]
  next hrest =>
    have hpos : 0 < d.millis := Nat.pos_of_ne_zero fun h => hrest (by rw [h])
    rw [ofText?_millis hpos hlt]
    rfl

/-- **Whole milliseconds are kept, and only they.** -/
theorem kept_iff {d : Duration} (hlt : d.millis < 2 ^ 31) : d.Kept ↔ 1000000 ∣ d.nanos := by
  have hcut : d.cutToMillis = d ↔ d.nanos / 1000000 * 1000000 = d.nanos :=
    ⟨fun h => congrArg nanos h, fun h => eq_of_nanos h⟩
  unfold Kept
  rw [ofText?_canonical hlt, Option.some.injEq, hcut]
  omega

/-- **Whole seconds are kept** far beyond that. -/
theorem kept_of_seconds {d : Duration} (hdvd : 1000000000 ∣ d.nanos) (hlt : d.seconds < 2 ^ 53) :
    d.Kept := by
  obtain ⟨n, hn⟩ := hdvd
  have hmillis : d.millis = n * 1000 := by
    unfold millis
    omega
  have hseconds : d.seconds = n := by
    unfold seconds
    omega
  unfold Kept canonical
  rw [hmillis, if_pos (Nat.mul_mod_left n 1000), Nat.mul_div_cancel n (by decide),
    ofText?_seconds (hseconds ▸ hlt), Nat.mul_comm, ← hn]
  exact ofNanos?_nanos d

@[simp]
theorem millis_cutToMillis (d : Duration) : d.cutToMillis.millis = d.millis :=
  Nat.mul_div_cancel d.millis (by decide)

theorem canonical_cutToMillis (d : Duration) : d.cutToMillis.canonical = d.canonical := by
  unfold canonical
  rw [millis_cutToMillis]

theorem kept_cutToMillis {d : Duration} (hlt : d.millis < 2 ^ 31) : d.cutToMillis.Kept :=
  (kept_iff (d.millis_cutToMillis ▸ hlt)).mpr (Nat.dvd_mul_left ..)

end Duration

end ClusterScaling
