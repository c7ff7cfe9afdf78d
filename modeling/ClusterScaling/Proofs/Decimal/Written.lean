import Mathlib.Data.List.TakeDrop
import Mathlib.Data.List.TakeWhile
import ClusterScaling.Decimal.Fixed
import ClusterScaling.Decimal.Literal

/-!
# Reading what has been written

Counts and numbers with a fixed count of decimals are decimal literals, so
they can be read again, and reading gives the digits that were written.
For a count that is the count itself (`Literal.ofText?_toDigits`). For a
double with a fixed count of decimals it is the exact value, rounded once
to the last place (`Decimal.rounded`); its sign, an infinity and what is no
number are kept.
-/

namespace ClusterScaling

/-- A digit is one of ten neighbouring code points. -/
theorem Text.toNat_of_isDigit {c : Char} (h : c.isDigit = true) : 48 ≤ c.toNat ∧ c.toNat ≤ 57 := by
  simpa [Char.isDigit, UInt32.le_iff_toNat_le] using h

namespace Decimal

theorem ofDigits_toDigits (n : Nat) : ofDigits (Nat.toDigits 10 n) = n :=
  Nat.ofDigitChars_ten_toDigits

/-- Zeros in front change nothing. -/
theorem ofDigits_replicate_append (k : Nat) (cs : List Char) :
    ofDigits (List.replicate k '0' ++ cs) = ofDigits cs := by
  induction k with
  | zero => rfl
  | succ k ih => exact ih

namespace Literal

variable {c : Char} {cs whole part : List Char} {negative : Bool}

/-- What begins with a digit is neither a word nor signed. -/
theorem not_word (hc : c.isDigit = true) (cs : List Char) :
    (c :: cs).map Char.toLower ≠ "inf".toList ∧ (c :: cs).map Char.toLower ≠ "infinity".toList
      ∧ (c :: cs).map Char.toLower ≠ "nan".toList := by
  have hrange := Text.toNat_of_isDigit hc
  have hlower : c.toLower = c := by
    unfold Char.toLower
    refine dif_neg fun h => ?_
    have hle : 65 ≤ c.toNat := UInt32.le_iff_toNat_le.mp h.1
    omega
  have hletter {d : Char} (hd : 57 < d.toNat) (ds : List Char) :
      (c :: cs).map Char.toLower ≠ d :: ds := by
    intro h
    rw [List.map_cons, hlower] at h
    rw [(List.cons.inj h).1] at hrange
    omega
  exact ⟨hletter (by decide) _, hletter (by decide) _, hletter (by decide) _⟩

/-- A text that begins with a digit is read as a number without sign. -/
theorem ofText?_of_isDigit (hc : c.isDigit = true) (cs : List Char) :
    ofText? (c :: cs) = magnitude? false (c :: cs) := by
  obtain ⟨hinf, hinfinity, hnan⟩ := not_word hc cs
  have hrange := Text.toNat_of_isDigit hc
  unfold ofText?
  split
  next negative body heq =>
  split at heq
  next h =>
    rw [(List.cons.inj h).1] at hrange
    exact absurd hrange (by decide)
  next h =>
    rw [(List.cons.inj h).1] at hrange
    exact absurd hrange (by decide)
  · cases heq
    simp only [hinf, hinfinity, hnan, decide_false, Bool.or_self, Bool.false_eq_true, ↓reduceIte]

/-- Behind a sign the same holds. -/
theorem ofText?_neg (hc : c.isDigit = true) (cs : List Char) :
    ofText? ('-' :: c :: cs) = magnitude? true (c :: cs) := by
  obtain ⟨hinf, hinfinity, hnan⟩ := not_word hc cs
  unfold ofText?
  simp only [hinf, hinfinity, hnan, decide_false, Bool.or_self, Bool.false_eq_true, ↓reduceIte]

/-- A run of digits is a number. -/
theorem magnitude?_digits (hne : cs ≠ []) (hdigits : ∀ c ∈ cs, c.isDigit = true) :
    magnitude? negative cs = some (.finite negative (ofDigits cs) 0) := by
  have hspan : cs.span Char.isDigit = (cs, []) := by
    rw [List.span_eq_takeWhile_dropWhile, List.takeWhile_eq_self_iff.mpr hdigits,
      List.dropWhile_eq_nil_iff.mpr hdigits]
  unfold magnitude?
  rw [hspan]
  dsimp only
  rw [List.isEmpty_eq_false_iff.mpr hne, List.append_nil]
  rfl

/-- Digits with a point among them are a number and a power of ten. -/
theorem magnitude?_point (hne : whole ≠ []) (hwhole : ∀ c ∈ whole, c.isDigit = true)
    (hpart : ∀ c ∈ part, c.isDigit = true) : magnitude? negative (whole ++ '.' :: part)
      = some (.finite negative (ofDigits (whole ++ part)) (-part.length)) := by
  have hspan : (whole ++ '.' :: part).span Char.isDigit = (whole, '.' :: part) := by
    rw [List.span_eq_takeWhile_dropWhile, List.takeWhile_append_of_pos hwhole,
      List.dropWhile_append_of_pos hwhole, List.takeWhile_cons_of_neg (by decide),
      List.dropWhile_cons_of_neg (by decide), List.append_nil]
  have hrest : part.span Char.isDigit = (part, []) := by
    rw [List.span_eq_takeWhile_dropWhile, List.takeWhile_eq_self_iff.mpr hpart,
      List.dropWhile_eq_nil_iff.mpr hpart]
  simp only [magnitude?, hspan, hrest, List.isEmpty_eq_false_iff.mpr hne, Bool.false_and,
    Bool.false_eq_true, ↓reduceIte, Option.map_some, Int.zero_sub]

/-- A run of digits is the literal of the number that it writes. -/
theorem ofText?_digits (hne : cs ≠ []) (hdigits : ∀ c ∈ cs, c.isDigit = true) :
    ofText? cs = some (.finite false (ofDigits cs) 0) := by
  rw [← magnitude?_digits hne hdigits]
  cases cs with
  | nil => exact absurd rfl hne
  | cons c cs => exact ofText?_of_isDigit (hdigits c List.mem_cons_self) cs

/-- **A count is read as it is written.** -/
theorem ofText?_toDigits (n : Nat) : ofText? (Nat.toDigits 10 n) = some (.finite false n 0) := by
  rw [ofText?_digits Nat.toDigits_ne_nil fun c hc =>
    Nat.isDigit_of_mem_toDigits (by decide) (by decide) hc, ofDigits_toDigits]

end Literal

/-! ## A fixed count of decimals -/

/-- A double rounded to a count of decimals. -/
def rounded (places : Nat) (x : Float) : Literal :=
  if x.isNaN then .undefined
  else if x.isInf then .unbounded (Binary64.signed x)
  else
    let (num, den) := (Binary64.parts x).fraction
    .finite (Binary64.signed x) (roundHalfEven (num * Nat.pow 10 places) den) (-places)

/-- A number with a point in it has at least one digit in front of the point, and the count of
digits asked for behind it. -/
theorem withPoint_eq {places : Nat} (hplaces : 0 < places) (n : Nat) :
    ∃ whole part, withPoint places n = whole ++ '.' :: part ∧ whole ≠ [] ∧ part.length = places
      ∧ (∀ c ∈ whole ++ part, c.isDigit = true) ∧ ofDigits (whole ++ part) = n := by
  let padded := List.replicate (places + 1 - (Nat.toDigits 10 n).length) '0' ++ Nat.toDigits 10 n
  have hlength : places + 1 ≤ padded.length := by
    show places + 1 ≤ (List.replicate _ '0' ++ Nat.toDigits 10 n).length
    rw [List.length_append, List.length_replicate]
    omega
  have hsplit : padded.take (padded.length - places) ++ padded.drop (padded.length - places)
      = padded := List.take_append_drop _ _
  refine ⟨padded.take (padded.length - places), padded.drop (padded.length - places), ?_, ?_, ?_,
    ?_, ?_⟩
  · unfold withPoint
    dsimp only
    rw [if_neg (Nat.ne_of_gt hplaces)]
  · intro h
    have htake := congrArg List.length h
    rw [List.length_take, List.length_nil] at htake
    omega
  · rw [List.length_drop]
    omega
  · rw [hsplit]
    intro c hc
    rcases List.mem_append.mp hc with hzero | hdigit
    · rw [List.eq_of_mem_replicate hzero]
      rfl
    · exact Nat.isDigit_of_mem_toDigits (by decide) (by decide) hdigit
  · rw [hsplit, ofDigits_replicate_append, ofDigits_toDigits]

/-- Digits with a point are read, with a sign in front or without. -/
theorem Literal.ofText?_withPoint {places : Nat} (hplaces : 0 < places) (n : Nat) :
    ofText? (withPoint places n) = some (.finite false n (-places))
      ∧ ofText? ('-' :: withPoint places n) = some (.finite true n (-places)) := by
  obtain ⟨whole, part, htext, hne, rfl, hdigits, rfl⟩ := withPoint_eq hplaces n
  obtain ⟨hwhole, hpart⟩ := List.forall_mem_append.mp hdigits
  rw [htext]
  obtain ⟨c, cs, rfl⟩ := List.exists_cons_of_ne_nil hne
  have hc := hwhole c List.mem_cons_self
  rw [← magnitude?_point hne hwhole hpart, ← magnitude?_point hne hwhole hpart]
  exact ⟨ofText?_of_isDigit hc _, ofText?_neg hc _⟩

/-- **A number with a fixed count of decimals is read as its value, rounded to them.** -/
theorem Literal.ofText?_fixed {places : Nat} (hplaces : 0 < places) (x : Float) :
    ofText? (fixed places x).toList = some (rounded places x) := by
  unfold fixed rounded
  split
  · decide
  · obtain ⟨num, den⟩ := (Binary64.parts x).fraction
    obtain ⟨hpositive, hnegative⟩ :=
      ofText?_withPoint hplaces (roundHalfEven (num * Nat.pow 10 places) den)
    dsimp only
    cases Binary64.signed x with
    | false =>
      split
      · decide
      · rw [if_neg Bool.false_ne_true, String.toList_append, String.toList_ofList,
          String.toList_ofList]
        exact hpositive
    | true =>
      split
      · decide
      · rw [if_pos rfl, String.toList_append, String.toList_ofList, String.toList_ofList]
        exact hnegative

/-- Nothing else than letters, digits, a sign and a point is written. -/
theorem mem_fixed {places : Nat} (hplaces : 0 < places) {x : Float} {c : Char}
    (hc : c ∈ (fixed places x).toList) : c.isAlphanum = true ∨ c = '-' ∨ c = '.' := by
  have hpoint (n : Nat) (hc : c ∈ withPoint places n) :
      c.isAlphanum = true ∨ c = '-' ∨ c = '.' := by
    obtain ⟨whole, part, htext, -, -, hdigits, -⟩ := withPoint_eq hplaces n
    rw [htext, List.mem_append, List.mem_cons, ← or_assoc, or_right_comm, ← List.mem_append] at hc
    refine hc.imp (fun hdigit => ?_) .inr
    rw [Char.isAlphanum, hdigits c hdigit, Bool.or_true]
  have hword (s : String) (hs : s.toList.all fun c => c.isAlphanum || c == '-' || c == '.')
      (hc : c ∈ s.toList) : c.isAlphanum = true ∨ c = '-' ∨ c = '.' := by
    simpa [or_assoc] using List.all_eq_true.mp hs c hc
  have hsign : c ∈ (if Binary64.signed x then "-" else "").toList →
      c.isAlphanum = true ∨ c = '-' ∨ c = '.' := by
    cases Binary64.signed x with
    | false => exact hword "" (by decide)
    | true => exact hword "-" (by decide)
  unfold fixed at hc
  split at hc
  · exact hword "NaN" (by decide) hc
  · dsimp only at hc
    split at hc
    · rw [String.toList_append, List.mem_append] at hc
      exact hc.elim hsign (hword "inf" (by decide))
    · rw [String.toList_append, List.mem_append, String.toList_ofList] at hc
      exact hc.elim hsign (hpoint _)

end Decimal

end ClusterScaling
