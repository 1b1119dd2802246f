import OracleRs.Types.NumberRoundTrip

set_option relaxedAutoImplicit false
set_option autoImplicit false

/-!
# One encoding for each number

The encoder of `OracleRs.Types.Number` reads sign, digits and the place of the decimal point of a text.
Without the zeros at their end the digits are determined by the number that the text denotes, and so are
sign and decimal point unless the number is zero, whose encoding has neither.

## Main results

* `OracleRs.Scanned.eq_of_value_eq` — texts of one number are read alike, up to zeros.
* `OracleRs.encodeOracleNumber_congr` — texts of one number have one encoding.
-/

namespace OracleRs

open Decimal

/-- The digits without trailing zeros stand for the same number. -/
lemma scaled_stripZeros (ds : List ℕ) (p : ℤ) : scaled (stripZeros ds) p = scaled ds p := by
  obtain ⟨⟨k, hk⟩, -⟩ := stripZeros_spec ds
  conv_rhs => rw [hk, scaled_append_replicate_zero]

/-- Digits without a leading zero stand for a positive number, unless they are all zeros. -/
lemma scaled_pos {ds : List ℕ} (hnormal : Normal ds) (hne : stripZeros ds ≠ []) (p : ℤ) :
    0 < scaled ds p := by
  obtain ⟨d, R, hs⟩ := List.exists_cons_of_ne_nil hne
  have hstrip := hnormal.stripZeros
  rw [hs] at hstrip
  have hd : d ≠ 0 := by simpa using hstrip.2
  rw [← scaled_stripZeros, hs]
  exact lt_of_lt_of_le (by positivity) (scaled_mem_Ico hd hstrip.1 p).1

/-- Digits that are all zeros stand for zero. -/
lemma scaled_eq_zero {ds : List ℕ} (h : stripZeros ds = []) (p : ℤ) : scaled ds p = 0 := by
  rw [← scaled_stripZeros, h, scaled_nil]

/-- The number that has been read is zero if and only if its digits are all zeros. -/
lemma Scanned.value_eq_zero_iff {sc : Scanned} (hnormal : Normal sc.digits) :
    sc.value = 0 ↔ stripZeros sc.digits = [] := by
  rw [Scanned.value]
  constructor
  · intro hzero
    by_contra hne
    have hpos := scaled_pos hnormal hne sc.decimalPointIndex
    cases hneg : sc.isNegative <;> simp only [hneg] at hzero
    · exact hpos.ne' hzero
    · exact hpos.ne' (neg_eq_zero.mp hzero)
  · intro hnil
    rw [scaled_eq_zero hnil, neg_zero, ite_self]

/-- **Two texts of one number that is not zero are read alike**, up to trailing zeros. -/
lemma Scanned.eq_of_value_eq {sc sc' : Scanned} (hnormal : Normal sc.digits)
    (hnormal' : Normal sc'.digits) (hne : sc.value ≠ 0) (h : sc.value = sc'.value) :
    sc.isNegative = sc'.isNegative ∧ stripZeros sc.digits = stripZeros sc'.digits ∧
      sc.decimalPointIndex = sc'.decimalPointIndex := by
  have hs := (value_eq_zero_iff hnormal).not.mp hne
  have hs' := (value_eq_zero_iff hnormal').not.mp (h ▸ hne)
  have hpos := scaled_pos hnormal hs sc.decimalPointIndex
  have hpos' := scaled_pos hnormal' hs' sc'.decimalPointIndex
  -- the signs agree, and so do the magnitudes
  obtain ⟨hneg, hscaled⟩ : sc.isNegative = sc'.isNegative ∧
      scaled sc.digits sc.decimalPointIndex = scaled sc'.digits sc'.decimalPointIndex := by
    rw [Scanned.value, Scanned.value] at h
    cases hn : sc.isNegative <;> cases hn' : sc'.isNegative <;> simp only [hn, hn'] at h
    · exact ⟨rfl, h⟩
    · exact absurd h (by simp; linarith)
    · exact absurd h (by simp; linarith)
    · exact ⟨rfl, neg_injective h⟩
  obtain ⟨d, R, hd⟩ := List.exists_cons_of_ne_nil hs
  obtain ⟨d', R', hd'⟩ := List.exists_cons_of_ne_nil hs'
  have hstrip := hnormal.stripZeros
  have hstrip' := hnormal'.stripZeros
  have hlast := (stripZeros_spec sc.digits).2
  have hlast' := (stripZeros_spec sc'.digits).2
  rw [← scaled_stripZeros, ← scaled_stripZeros sc'.digits] at hscaled
  rw [hd] at hstrip hlast hscaled ⊢
  rw [hd'] at hstrip' hlast' hscaled ⊢
  obtain ⟨hdigits, hpoint⟩ := eq_of_scaled_eq (by simpa using hstrip.2) (by simpa using hstrip'.2)
    hstrip.1 hstrip'.1 hlast hlast' hscaled
  exact ⟨hneg, hdigits, hpoint⟩

/-- What the encoder has read of a text that denotes a number. -/
lemma scanned_of_denotes {s : String} {sc : Scanned} (h : scanNumber (asBytes s) = .ok sc) {v : ℚ}
    (hv : Denotes s v) : Normal sc.digits ∧ sc.value = v := by
  obtain ⟨n, hrender, rfl⟩ := hv
  rw [asBytes_eq_of_render hrender] at h
  exact (scanNumber_bytes h).2

/-- **The encoding depends on nothing but the number that the text denotes.** -/
theorem encodeOracleNumber_congr {s t : String} {b c : Bytes} {v : ℚ}
    (hs : encodeOracleNumber s = .ok b) (ht : encodeOracleNumber t = .ok c)
    (hsv : Denotes (trim s) v) (htv : Denotes (trim t) v) : b = c := by
  obtain ⟨sc, hscan, hencode⟩ := encodeOracleNumber_ok hs
  obtain ⟨sc', hscan', hencode'⟩ := encodeOracleNumber_ok ht
  obtain ⟨hnormal, hval⟩ := scanned_of_denotes hscan hsv
  obtain ⟨hnormal', hval'⟩ := scanned_of_denotes hscan' htv
  by_cases hzero : v = 0
  · rw [(Scanned.value_eq_zero_iff hnormal).mp (hval.trans hzero)] at hencode
    rw [(Scanned.value_eq_zero_iff hnormal').mp (hval'.trans hzero)] at hencode'
    rw [encodeDigits_nil hencode, encodeDigits_nil hencode']
  · obtain ⟨hneg, hdigits, hpoint⟩ :=
      Scanned.eq_of_value_eq hnormal hnormal' (hval ▸ hzero) (hval.trans hval'.symm)
    rw [hneg, hdigits, hpoint, hencode'] at hencode
    exact (Except.ok.inj hencode).symm

/-- Two texts of minus two hundred and fifty. -/
theorem encodeOracleNumber_congr_spellings :
    encodeOracleNumber "-0250.00" = encodeOracleNumber " -2.5E+2" := by
  have hs : encodeOracleNumber "-0250.00" = .ok [61, 99, 51, 102] := by decide +kernel
  have ht : ∃ c, encodeOracleNumber " -2.5E+2" = .ok c := ⟨[61, 99, 51, 102], by decide +kernel⟩
  obtain ⟨c, ht⟩ := ht
  have hsv : Denotes (trim "-0250.00") (-250) :=
    ⟨⟨true, [0, 2, 5, 0], some [0, 0], none, by decide, by decide⟩, by decide +kernel, by
      norm_num [Numeral.value, Numeral.magnitude, Numeral.fractionDigits, ofDigits,
        Numeral.exponentValue]⟩
  have htv : Denotes (trim " -2.5E+2") (-250) :=
    ⟨⟨true, [2], some [5], some ⟨true, some false, [2], by decide, by decide⟩, by decide, by decide⟩,
      by decide +kernel, by
      norm_num [Numeral.value, Numeral.magnitude, Numeral.fractionDigits, ofDigits,
        Numeral.exponentValue, Exponent.value]⟩
  rw [hs, ht, encodeOracleNumber_congr hs ht hsv htv]

end OracleRs
