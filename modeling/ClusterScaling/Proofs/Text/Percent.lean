import ClusterScaling.Text.Hex
import ClusterScaling.Text.Percent

/-!
# Percent encoding is undone by decoding

An encoded text is a row of unreserved characters and of **triplets**, which
are a percent sign and two digits (`Text.IsEncoded`). A percent sign stands
nowhere else, so whoever reads the text from its beginning always knows
where a triplet begins, and a text that looked like an escape before it was
encoded is not taken for one. Decoding therefore gives back the bytes, one
after the other (`Text.percentDecoded?_append`), and with the bytes the text
(`Text.percentEncoded_inj`).

Decoding is the standard one. It takes digits of either case and any other
character as it stands, so it also reads texts that nobody has encoded.
-/

namespace ClusterScaling.Text

/-! ## Encoded texts -/

/-- A character that stands for itself wherever it stands in a URL. -/
def IsUnreservedChar (c : Char) : Prop := c.isAlphanum = true ∨ c ∈ ['-', '.', '_', '~']

instance (c : Char) : Decidable (IsUnreservedChar c) := inferInstanceAs (Decidable (_ ∨ _))

/-- A hexadecimal digit in the case in which they are written. -/
def IsUpperHexDigit (c : Char) : Prop := c.isDigit = true ∨ 'A' ≤ c ∧ c ≤ 'F'

/-- A text of unreserved characters and triplets. -/
inductive IsEncoded : List Char → Prop where
  /-- Nothing is encoded. -/
  | nil : IsEncoded []
  /-- An unreserved character. -/
  | unreserved {c : Char} {cs : List Char} (hc : IsUnreservedChar c) (hcs : IsEncoded cs) :
      IsEncoded (c :: cs)
  /-- A triplet. -/
  | triplet {high low : Char} {cs : List Char} (hhigh : IsUpperHexDigit high)
      (hlow : IsUpperHexDigit low) (hcs : IsEncoded cs) : IsEncoded ('%' :: high :: low :: cs)

/-- The bytes of a text in which triplets stand for bytes, if every percent sign begins one. -/
def percentDecoded? : List Char → Option (List UInt8)
  | [] => some []
  | '%' :: high :: low :: cs => do
    let byte := UInt8.ofNat (16 * (← hexValue? high) + (← hexValue? low))
    pure (byte :: (← percentDecoded? cs))
  | c :: cs => if c = '%' then none else (percentDecoded? cs).map (String.utf8EncodeChar c ++ ·)

/-! ## Single bytes -/

theorem isUpperHexDigit_upperHexDigit {n : Nat} (hn : n < 16) :
    IsUpperHexDigit (upperHexDigit n) := by
  unfold IsUpperHexDigit
  revert n
  decide

theorem hexValue?_upperHexDigit {n : Nat} (hn : n < 16) :
    hexValue? (upperHexDigit n) = some n := by
  revert n
  decide

/-- An unreserved byte is the character for which it stands. -/
theorem of_isUnreserved {b : UInt8} (hb : isUnreserved b = true) :
    IsUnreservedChar (Char.ofNat b.toNat) ∧ String.utf8EncodeChar (Char.ofNat b.toNat) = [b] := by
  have hall : ∀ n < 256, isUnreserved (UInt8.ofNat n) = true →
      ((Char.ofNat n).isAlphanum = true ∨ Char.ofNat n ∈ ['-', '.', '_', '~'])
        ∧ String.utf8EncodeChar (Char.ofNat n) = [UInt8.ofNat n] := by decide +kernel
  have hbyte := hall b.toNat b.toNat_lt
  rw [UInt8.ofNat_toNat] at hbyte
  exact hbyte hb

/-- Digits are unreserved. -/
theorem IsUpperHexDigit.isUnreservedChar {c : Char} (hc : IsUpperHexDigit c) :
    IsUnreservedChar c := by
  rcases hc with hdigit | ⟨hfrom, hto⟩
  · exact .inl (Bool.or_eq_true_iff.mpr (.inr hdigit))
  · have hletter : c ≤ 'Z' := Char.le_trans hto (by decide)
    have hupper : c.isUpper = true := decide_eq_true ⟨hfrom, hletter⟩
    have halpha : c.isAlpha = true := Bool.or_eq_true_iff.mpr (.inl hupper)
    exact .inl (Bool.or_eq_true_iff.mpr (.inl halpha))

/-- A percent sign is reserved. -/
theorem IsUnreservedChar.ne_percent {c : Char} (hc : IsUnreservedChar c) : c ≠ '%' := by
  rintro rfl
  exact absurd hc (by decide)

/-- A byte and its rest are encoded. -/
theorem IsEncoded.percentByte_append {cs : List Char} (hcs : IsEncoded cs) (b : UInt8) :
    IsEncoded (percentByte b ++ cs) := by
  have hb : b.toNat < 256 := b.toNat_lt
  unfold percentByte
  split
  · next hunreserved => exact .unreserved (of_isUnreserved hunreserved).1 hcs
  · exact .triplet (isUpperHexDigit_upperHexDigit (Nat.div_lt_of_lt_mul hb))
      (isUpperHexDigit_upperHexDigit (Nat.mod_lt _ (by decide))) hcs

/-- **Decoding takes one byte at a time.** -/
theorem percentDecoded?_percentByte_append (b : UInt8) (cs : List Char) :
    percentDecoded? (percentByte b ++ cs) = (percentDecoded? cs).map (b :: ·) := by
  have hb : b.toNat < 256 := b.toNat_lt
  unfold percentByte
  split
  · next hunreserved =>
    obtain ⟨hchar, hbytes⟩ := of_isUnreserved hunreserved
    have hne := hchar.ne_percent
    rw [List.singleton_append, percentDecoded?, if_neg hne, hbytes]
    · rfl
    · exact fun _ _ _ h => absurd h hne
  · have hdigits : 16 * (b.toNat / 16) + b.toNat % 16 = b.toNat := Nat.div_add_mod _ _
    show percentDecoded? ('%' :: _ :: _ :: cs) = _
    rw [percentDecoded?, hexValue?_upperHexDigit (Nat.div_lt_of_lt_mul hb),
      hexValue?_upperHexDigit (Nat.mod_lt _ (by decide))]
    simp only [Option.bind_eq_bind, Option.bind_some, Option.pure_def, hdigits, UInt8.ofNat_toNat]
    cases percentDecoded? cs <;> rfl

/-! ## Rows of bytes -/

theorem isEncoded_percentBytes (bs : List UInt8) : IsEncoded (percentBytes bs) := by
  induction bs with
  | nil => exact .nil
  | cons b bs ih => exact ih.percentByte_append b

/-- **What stands in front is decoded first**, and the rest as if nothing stood in front. -/
theorem percentDecoded?_append (bs : List UInt8) (cs : List Char) :
    percentDecoded? (percentBytes bs ++ cs) = (percentDecoded? cs).map (bs ++ ·) := by
  induction bs with
  | nil => exact Option.map_id'.symm
  | cons b bs ih =>
    have hcons : percentBytes (b :: bs) ++ cs = percentByte b ++ (percentBytes bs ++ cs) :=
      List.append_assoc _ _ _
    rw [hcons, percentDecoded?_percentByte_append, ih, Option.map_map]
    rfl

theorem percentDecoded?_percentBytes (bs : List UInt8) :
    percentDecoded? (percentBytes bs) = some bs := by
  have happend := percentDecoded?_append bs []
  rwa [List.append_nil, percentDecoded?, Option.map_some, List.append_nil] at happend

/-! ## Texts -/

/-- The bytes of an array from some place on. -/
theorem toList_loop (bs : ByteArray) (i : Nat) (before : List UInt8) :
    ByteArray.toList.loop bs i before = before.reverse ++ bs.data.toList.drop i := by
  fun_induction ByteArray.toList.loop bs i before with
  | case1 i before hlt ih =>
    have hlt : i < bs.data.toList.length := hlt
    have hget : bs.get! i = bs.data.toList[i] := getElem!_pos bs.data i hlt
    rw [ih, List.drop_eq_getElem_cons hlt, List.reverse_cons, List.append_assoc, hget]
    rfl
  | case2 i before hge =>
    have hge : bs.data.toList.length ≤ i := Nat.le_of_not_lt hge
    rw [List.drop_eq_nil_of_le hge, List.append_nil]

theorem toList_eq (bs : ByteArray) : bs.toList = bs.data.toList := toList_loop bs 0 []

/-- **Encoding commutes with putting texts together.** -/
theorem percentEncoded_append (s s' : String) :
    percentEncoded (s ++ s') = percentEncoded s ++ percentEncoded s' := by
  unfold percentEncoded String.toUTF8
  rw [toList_eq, toList_eq, toList_eq, String.toByteArray_append, ByteArray.data_append,
    Array.toList_append, percentBytes_append, String.ofList_append]

theorem percentDecoded?_percentEncoded (s : String) :
    percentDecoded? (percentEncoded s).toList = some s.toUTF8.toList := by
  rw [percentEncoded, String.toList_ofList, percentDecoded?_percentBytes]

/-- **No two texts are encoded alike.** -/
theorem percentEncoded_inj {s s' : String} (h : percentEncoded s = percentEncoded s') : s = s' := by
  have hbytes : some s.toUTF8.toList = some s'.toUTF8.toList := by
    rw [← percentDecoded?_percentEncoded, h, percentDecoded?_percentEncoded]
  rw [Option.some.injEq, toList_eq, toList_eq, Array.toList_inj] at hbytes
  exact String.toByteArray_inj.mp (ByteArray.ext hbytes)

theorem isEncoded_percentEncoded (s : String) : IsEncoded (percentEncoded s).toList := by
  rw [percentEncoded, String.toList_ofList]
  exact isEncoded_percentBytes _

/-- **Nothing that has a role in a URL is left in an encoded text.** -/
theorem IsEncoded.not_mem {cs : List Char} (hcs : IsEncoded cs) {c : Char}
    (hunreserved : ¬ IsUnreservedChar c) (hpercent : c ≠ '%') : c ∉ cs := by
  induction hcs with
  | nil => exact List.not_mem_nil
  | unreserved hc hcs ih =>
    rw [List.mem_cons, not_or]
    exact ⟨fun heq => hunreserved (heq ▸ hc), ih⟩
  | triplet hhigh hlow hcs ih =>
    simp only [List.mem_cons, not_or]
    exact ⟨hpercent, fun heq => hunreserved (heq ▸ hhigh.isUnreservedChar),
      fun heq => hunreserved (heq ▸ hlow.isUnreservedChar), ih⟩

end ClusterScaling.Text
