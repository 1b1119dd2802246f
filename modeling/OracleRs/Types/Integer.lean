import OracleRs.Types.NumberRoundTrip

set_option relaxedAutoImplicit false
set_option autoImplicit false

/-!
# Integers as numbers

The way of a 64-bit integer through the NUMBER codec: its text (`i64::to_string`) is a numeral,
the encoder accepts it, and the decoder's text is parsed back to the integer.

## Main results

* `OracleRs.exists_numeral_toString` — the text of an integer is a numeral of the integer.
* `OracleRs.toI64_of_value` — a decoded number that is an integer in range is parsed to it.
* `OracleRs.decodeOracleNumber_encode_integer` — every 64-bit integer is read back.
-/

namespace OracleRs

open Decimal

/-! ## The text of an integer -/

lemma digitChar_eq {d : ℕ} (h : d < 10) : Nat.digitChar d = digitChar d := by
  interval_cases d <;> rfl

/-- The text of a natural number has its decimal digits. -/
lemma exists_toDigits_eq (n : ℕ) :
    ∃ ds : List ℕ, Nat.toDigits 10 n = ds.map digitChar ∧ (∀ d ∈ ds, d < 10) ∧ ds ≠ [] ∧
      ofDigits ds = n := by
  induction n using Nat.strong_induction_on with
  | h n ih =>
    rw [Nat.toDigits_eq_if (by omega)]
    by_cases hn : n < 10
    · refine ⟨[n], ?_, by simpa using hn, by simp, by simp [ofDigits]⟩
      rw [if_pos hn, digitChar_eq hn]
      rfl
    · obtain ⟨ds, hds, hlt, hne, hval⟩ := ih (n / 10) (by omega)
      have hmod : n % 10 < 10 := Nat.mod_lt n (by omega)
      refine ⟨ds ++ [n % 10], ?_, ?_, by simp, ?_⟩
      · rw [if_neg hn, hds, digitChar_eq hmod, List.map_append, List.map_singleton]
      · intro d hd
        rcases List.mem_append.mp hd with hd | hd
        · exact hlt d hd
        · rwa [List.mem_singleton.mp hd]
      · rw [ofDigits_append_singleton, hval]
        omega

/-- The text of a number has its digits. -/
lemma exists_digits_toString (n : ℕ) :
    ∃ ds : List ℕ, (toString n).toList = ds.map digitChar ∧ asBytes (toString n) = ds.map digitByte ∧
      (∀ d ∈ ds, d < 10) ∧ ds ≠ [] ∧ ofDigits ds = n := by
  obtain ⟨ds, hds, hlt, hne, hval⟩ := exists_toDigits_eq n
  have htext : (toString n).toList = ds.map digitChar := by
    rw [← hds]
    exact Nat.toList_repr
  have hrender : (⟨false, ds, none, none, by simpa using hlt, by simpa using hne⟩ : Numeral).render =
      (toString n).toList := by
    rw [htext]
    simp [Numeral.render]
  refine ⟨ds, htext, ?_, hlt, hne, hval⟩
  rw [asBytes_eq_of_render hrender]
  simp [numeralBytes, tailBytes]

lemma toString_injective : Function.Injective (toString : ℕ → String) := by
  intro i j h
  obtain ⟨ds, -, hbytes, hds, -, rfl⟩ := exists_digits_toString i
  obtain ⟨es, -, hbytes', hes, -, rfl⟩ := exists_digits_toString j
  rw [h, hbytes'] at hbytes
  rw [← map_digitOf_digitByte hds, ← map_digitOf_digitByte hes, hbytes]

/-- The text of an integer is a numeral of the integer, without decimal point and exponent. -/
lemma exists_numeral_toString (i : ℤ) :
    ∃ n : Numeral, n.fraction = none ∧ n.exponent = none ∧ n.render = (toString i).toList ∧
      n.negative = decide (i < 0) ∧ ofDigits n.whole = i.natAbs ∧
      n.whole.length = (Nat.toDigits 10 i.natAbs).length := by
  obtain ⟨ds, hds, hlt, hne, hval⟩ := exists_toDigits_eq i.natAbs
  refine ⟨⟨decide (i < 0), ds, none, none, by simpa using hlt, by simpa using hne⟩, rfl, rfl, ?_,
    rfl, hval, by rw [hds, List.length_map]⟩
  rw [Int.toString_eq_repr, Int.repr_eq_if]
  by_cases hi : 0 ≤ i
  · have habs : i.toNat = i.natAbs := by omega
    rw [if_pos hi, habs, Nat.toList_repr, hds]
    simp [Numeral.render, hi]
  · have habs : (-i).toNat = i.natAbs := by omega
    rw [if_neg hi, habs, String.toList_append, Nat.toList_repr, hds]
    simp [Numeral.render, show i < 0 by omega]

/-- A text without white space is not trimmed. -/
lemma trim_eq_self {s : String} (h : ∀ c ∈ s.toList, isWhitespace c = false) : trim s = s :=
  trim_eq_self_of_ends (fun c hc => h c (List.mem_of_mem_head? hc)) fun c hc => h c (List.mem_of_mem_getLast? hc)

/-- There is no white space in a numeral without decimal point and exponent. -/
lemma isWhitespace_render {n : Numeral} (hf : n.fraction = none) (he : n.exponent = none) :
    ∀ c ∈ n.render, isWhitespace c = false := by
  intro c hc
  rw [Numeral.render, hf, he] at hc
  simp only [Option.elim_none, List.append_nil, List.mem_append, List.mem_map] at hc
  rcases hc with hc | ⟨d, hd, rfl⟩
  · cases hneg : n.negative with
    | true =>
      rw [hneg] at hc
      rw [List.mem_singleton.mp hc]
      decide
    | false => simp [hneg] at hc
  · have hlt : d < 10 := n.digits_lt d (by simp [hd])
    interval_cases d <;> decide

/-! ## Encoding -/

lemma length_mantissaPairs (n : ℕ) (ds : List ℕ) : (mantissaPairs n ds).length = n := by
  induction n generalizing ds with
  | zero => rfl
  | succ n ih => rw [mantissaPairs, List.length_cons, ih]

/-- Digits in range are encoded to a few bytes. -/
lemma exists_encodeDigits {isNegative : Bool} {digits : List ℕ} {p : ℤ}
    (h : ¬ (digits.length > maxDigits ∨ p > 126 ∨ p < -129)) :
    ∃ b, encodeDigits isNegative digits p = .ok b ∧ b ≠ [] ∧ b.length ≤ 24 := by
  have hlen : digits.length ≤ 40 := by
    by_contra hlt
    exact h (.inl (by simp only [maxDigits]; omega))
  rw [encodeDigits, if_neg h]
  by_cases hnil : digits = []
  · rw [if_pos hnil]
    exact ⟨_, rfl, by simp, by simp⟩
  rw [if_neg hnil]
  refine ⟨_, rfl, by simp, ?_⟩
  -- two zeros more make at most 21 pairs, and the exponent and a terminator come on top
  have hterm : ∀ (c : Prop) [Decidable c], (if c then [102] else [] : Bytes).length ≤ 1 := by
    intro c _
    split <;> simp
  have hpad : ∀ ds : List ℕ, (if ds.length % 2 = 1 then ds ++ [0] else ds).length ≤
      ds.length + 1 := by
    intro ds
    split <;> simp
  have hzero : ∀ (c : Prop) [Decidable c], (if c then digits ++ [0] else digits).length ≤ 41 := by
    intro c _
    split
    · rw [List.length_append, List.length_singleton]
      omega
    · omega
  have hbound := (hpad (if p.tmod 2 = 1 then digits ++ [0] else digits)).trans
    (Nat.succ_le_succ (hzero _))
  generalize (if (if p.tmod 2 = 1 then digits ++ [0] else digits).length % 2 = 1 then
    (if p.tmod 2 = 1 then digits ++ [0] else digits) ++ [0] else
    (if p.tmod 2 = 1 then digits ++ [0] else digits)) = padded at hbound ⊢
  have hpairs : (if p.tmod 2 = 1 then
      padded.getD 0 0 :: mantissaPairs (padded.length / 2 - 1) (padded.drop 1)
      else mantissaPairs (padded.length / 2) padded).length ≤ 22 := by
    split
    · rw [List.length_cons, length_mantissaPairs]
      omega
    · rw [length_mantissaPairs]
      omega
  simp only [List.length_append, List.length_cons, List.length_map]
  have := hterm (isNegative = true ∧ padded.length / 2 < 20)
  omega

/-- What the encoder reads of a numeral without decimal point and exponent. -/
lemma scanNumber_whole {n : Numeral} (hf : n.fraction = none) (he : n.exponent = none) :
    ∃ ds : List ℕ, Normal ds ∧ ofDigits ds = ofDigits n.whole ∧
      scanNumber (numeralBytes n) = .ok ⟨n.negative, ds, ds.length, []⟩ := by
  have hlt : ∀ d ∈ n.whole, d < 10 := fun d hd => n.digits_lt d (by simp [hd])
  have hscan := scanWhole_eq n.whole [] [] hlt (by simp) (by simp [Stops])
  have htail : tailBytes n = [] := by simp [tailBytes, hf, he]
  rw [List.append_nil, List.nil_append] at hscan
  refine ⟨significant n.whole, normal_significant hlt, ofDigits_significant n.whole, ?_⟩
  have hdigits : scanDigits (n.whole.map digitByte) =
      .ok (⟨significant n.whole, (significant n.whole).length⟩, []) := by
    simp [scanDigits, hscan, bind, Except.bind, pure, Except.pure]
  cases hneg : n.negative with
  | true =>
    simp [scanNumber, numeralBytes, hneg, htail, hdigits, scanExponent, bind, Except.bind, pure,
      Except.pure]
  | false =>
    have hhead : (n.whole.map digitByte).head? ≠ some 45 := by
      cases hw : n.whole with
      | nil => simp
      | cons d ds => simp [digitByte_ne (hlt d (by simp [hw]))]
    have hbytes : numeralBytes n = n.whole.map digitByte := by simp [numeralBytes, hneg, htail]
    rw [hbytes, scanNumber, if_neg hhead, hdigits, decide_eq_false hhead]
    simp [scanExponent, bind, Except.bind, pure, Except.pure]

/-- Digits without a leading zero are as many as their number needs. -/
lemma Normal.length_le {ds : List ℕ} (h : Normal ds) {k : ℕ} (hlt : ofDigits ds < 10 ^ k) :
    ds.length ≤ k := by
  cases ds with
  | nil => simp
  | cons d ds =>
    have hle := le_ofDigits (by simpa using h.2 : d ≠ 0) ds
    have hpow := (Nat.pow_lt_pow_iff_right (by omega : 1 < 10)).mp (hle.trans_lt hlt)
    simpa using hpow

/-- A 64-bit integer is encoded to a few bytes. -/
lemma exists_encode_integer (n : Int64) :
    ∃ (b : Bytes) (sc : Scanned), encodeOracleNumber (toString n.toInt) = .ok b ∧ b ≠ [] ∧
      b.length ≤ 24 ∧ Normal sc.digits ∧ sc.wireValue = n.toInt ∧
      encodeDigits sc.isNegative (stripZeros sc.digits) sc.decimalPointIndex = .ok b := by
  obtain ⟨num, hf, he, hrender, hneg, hval, hwhole⟩ := exists_numeral_toString n.toInt
  obtain ⟨ds, hnormal, hdigits, hscan⟩ := scanNumber_whole hf he
  have habs : n.toInt.natAbs < 10 ^ 19 := by
    have h₁ := n.le_toInt
    have h₂ := n.toInt_lt
    omega
  have hlen : ds.length ≤ 19 := hnormal.length_le (by omega)
  have hwhole : num.whole.length ≤ 19 := by
    rw [hwhole]
    exact (Nat.length_toDigits_le_iff (by omega) (by omega)).mpr habs
  have hstrip := length_stripZeros_le ds
  obtain ⟨b, hb, hne, hle⟩ := @exists_encodeDigits num.negative (stripZeros ds) ds.length
    (by simp only [maxDigits]; omega)
  refine ⟨b, ⟨num.negative, ds, ds.length, []⟩, ?_, hne, hle, hnormal, ?_, hb⟩
  · -- the text is neither empty nor too long
    have htrim : trim (toString n.toInt) = toString n.toInt :=
      trim_eq_self (hrender ▸ isWhitespace_render hf he)
    have hbytes : asBytes (trim (toString n.toInt)) = numeralBytes num := by
      rw [htrim, asBytes_eq_of_render hrender]
    have hnil : numeralBytes num ≠ [] := by
      have := num.ne_nil
      simp [hf] at this
      simp [numeralBytes, this]
    have hmax : ¬ (numeralBytes num).length > maxStringChars := by
      have hsign : (if num.negative then [45] else [] : Bytes).length ≤ 1 := by split <;> simp
      simp only [numeralBytes, tailBytes, hf, he, Option.elim_none, List.append_nil,
        List.length_append, List.length_map, maxStringChars]
      omega
    simp only [encodeOracleNumber, hbytes, if_neg hnil, if_neg hmax, hscan, bind, Except.bind]
    exact hb
  · have hpoint : wirePoint (ds.length : ℤ) = ds.length := if_neg (by omega)
    have hscaled : scaled ds ds.length = (n.toInt.natAbs : ℚ) := by
      rw [exists_int_of_length_le le_rfl, hdigits, hval]
      simp
    simp only [Scanned.wireValue, hpoint, hscaled, hneg]
    by_cases hi : n.toInt < 0
    · rw [if_pos (by simpa using hi)]
      have : (n.toInt.natAbs : ℤ) = -n.toInt := by omega
      rw [← Int.cast_natCast, this]
      push_cast
      ring
    · rw [if_neg (by simpa using hi)]
      have : (n.toInt.natAbs : ℤ) = n.toInt := by omega
      rw [← Int.cast_natCast, this]

/-! ## Decoding -/

lemma digitChar_ne_point (d : ℕ) : digitChar d ≠ '.' := by
  intro h
  by_cases hvalid : (48 + d).isValidChar
  · have heq : digitChar d = Char.ofNatAux (48 + d) hvalid := dif_pos hvalid
    have hnat : 48 + d = '.'.toNat := congrArg Char.toNat (heq.symm.trans h)
    have hpoint : '.'.toNat = 46 := rfl
    omega
  · have heq : digitChar d = '\x00' := dif_neg hvalid
    exact absurd (heq.symm.trans h) (by decide)

/-- There is no decimal point in the text of a number that is called an integer. -/
lemma point_notMem_renderNumber {isPositive : Bool} {digits : List ℕ} {q : ℤ}
    (h : (renderNumber isPositive digits q).isInteger = true) :
    '.' ∉ (renderNumber isPositive digits q).value.toList := by
  unfold renderNumber at h ⊢
  by_cases hq : q ≤ 0
  · simp [hq] at h
  · simp only [if_neg hq] at h ⊢
    have hlen : (digits.length : ℤ) ≤ q := of_decide_eq_true h
    rw [renderDigits_of_ne (.inr (by simpa using hlen)), String.toList_ofList]
    have hite : ∀ (c : Prop) [Decidable c] (xs : List Char), '.' ∉ xs →
        '.' ∉ if c then ['0'] else xs := by
      intro c _ xs hxs
      split
      · decide
      · exact hxs
    refine hite _ _ ?_
    simp only [List.mem_append, List.mem_map, List.mem_replicate, not_or, not_exists, not_and]
    refine ⟨⟨?_, fun d _ => digitChar_ne_point d⟩, fun _ => by decide⟩
    cases isPositive <;> decide

/-- What the decoder says about the text: it is empty for the maximum negative number, and has no
decimal point for an integer. -/
lemma decodeOracleNumber_text {b : Bytes} {num : OracleNumber}
    (h : decodeOracleNumber b = .ok num) :
    (num.isMaxNegative = true → num.value = "") ∧
      (num.isInteger = true → '.' ∉ num.value.toList) := by
  cases b with
  | nil => cases h
  | cons e mantissa =>
    simp only [decodeOracleNumber] at h
    split at h
    · split at h
      · -- zero
        cases h
        exact ⟨fun h => absurd h Bool.false_ne_true, fun _ => by decide⟩
      · -- the maximum negative number
        cases h
        exact ⟨fun _ => rfl, fun h => absurd h Bool.false_ne_true⟩
    · rw [Except.ok.injEq] at h
      rw [← h]
      exact ⟨fun h => absurd h Bool.false_ne_true, point_notMem_renderNumber⟩

/-- The text of a number without decimal point and exponent is parsed to the number, if it is in
range. -/
lemma parseInt_numeralBytes {n : Numeral} (hf : n.fraction = none) (he : n.exponent = none)
    {i : ℤ} (hval : n.value = i) (lo hi : ℤ) :
    parseInt lo hi (numeralBytes n) = if lo ≤ i ∧ i ≤ hi then some i else none := by
  have hlt : ∀ d ∈ n.whole, d < 10 := fun d hd => n.digits_lt d (by simp [hd])
  have hne : n.whole ≠ [] := by
    have := n.ne_nil
    simpa [hf] using this
  have hall : (n.whole.map digitByte).all isAsciiDigit = true := by
    simp only [List.all_map, List.all_eq_true, Function.comp]
    exact fun d hd => isAsciiDigit_digitByte (hlt d hd)
  have htail : tailBytes n = [] := by simp [tailBytes, hf, he]
  have hmagnitude : n.magnitude = ofDigits n.whole := by
    simp [Numeral.magnitude, Numeral.fractionDigits, Numeral.exponentValue, hf, he]
  rw [Numeral.value, hmagnitude] at hval
  cases hneg : n.negative with
  | true =>
    rw [hneg, if_pos rfl] at hval
    have hi : -(ofDigits n.whole : ℤ) = i := by exact_mod_cast hval
    have hbytes : numeralBytes n = 45 :: n.whole.map digitByte := by
      simp [numeralBytes, hneg, htail]
    rw [hbytes, parseInt]
    simp [splitSign, hne, hall, map_digitOf_digitByte hlt, hi]
  | false =>
    rw [hneg, if_neg (by simp)] at hval
    have hi : (ofDigits n.whole : ℤ) = i := by exact_mod_cast hval
    have hbytes : numeralBytes n = n.whole.map digitByte := by simp [numeralBytes, hneg, htail]
    rw [hbytes, parseInt_digits hlt hne, hi]

/-- The text of a decoded number that is an integer is parsed to it, if it is in range. -/
lemma parseInt_of_decode {b : Bytes} {num : OracleNumber} (hdecode : decodeOracleNumber b = .ok num)
    {n : Numeral} (he : n.exponent = none) (hrender : n.render = num.value.toList)
    (hint : num.isInteger = true) {i : ℤ} (hval : n.value = i) :
    ¬ num.isMaxNegative = true ∧
      ∀ lo hi, parseInt lo hi (asBytes num.value) = if lo ≤ i ∧ i ≤ hi then some i else none := by
  obtain ⟨hmax, hpoint⟩ := decodeOracleNumber_text hdecode
  have hf : n.fraction = none := by
    cases hfraction : n.fraction with
    | none => rfl
    | some ds =>
      refine absurd ?_ (hpoint hint)
      rw [← hrender, Numeral.render, hfraction]
      simp
  constructor
  · intro h
    rw [hmax h, Numeral.render, hf, he] at hrender
    have := n.ne_nil
    simp [hf] at this
    simp [this] at hrender
  · intro lo hi
    rw [asBytes_eq_of_render hrender, parseInt_numeralBytes hf he hval]

/-- A decoded number that is an integer is parsed to the 64-bit integer that it is. -/
lemma toI64_eq_ok_iff {b : Bytes} {num : OracleNumber} (hdecode : decodeOracleNumber b = .ok num)
    {n : Numeral} (he : n.exponent = none) (hrender : n.render = num.value.toList)
    (hint : num.isInteger = true) {i : ℤ} (hval : n.value = i) (j : Int64) :
    num.toI64 = .ok j ↔ i = j.toInt := by
  obtain ⟨hnot, hparse⟩ := parseInt_of_decode hdecode he hrender hint hval
  have hlow := j.le_toInt
  have hhigh := j.toInt_lt
  rw [OracleNumber.toI64, if_neg hnot, hparse]
  by_cases hrange : (-2 ^ 63 : ℤ) ≤ i ∧ i ≤ 2 ^ 63 - 1
  · rw [if_pos hrange]
    have hback : (Int64.ofInt i).toInt = i := Int64.toInt_ofInt_of_le (by omega) (by omega)
    simp only [Except.ok.injEq]
    rw [← Int64.toInt_inj, hback]
  · rw [if_neg hrange]
    exact iff_of_false (fun h => by cases h) (by omega)

/-! ## The round trip -/

/-- Every 64-bit integer is read back from the few bytes that it is encoded to. -/
theorem decodeOracleNumber_encode_integer (n : Int64) :
    ∃ b num, encodeOracleNumber (toString n.toInt) = .ok b ∧ b ≠ [] ∧ b.length ≤ 24 ∧
      decodeOracleNumber b = .ok num ∧ num.isInteger = true ∧ num.toI64 = .ok n := by
  obtain ⟨b, sc, hencode, hne, hlen, hnormal, hval, hdigits⟩ := exists_encode_integer n
  obtain ⟨num, hdecode, ⟨m, he, hrender, hm⟩, hint⟩ := decode_encodeDigits hnormal hdigits
  have hinteger : num.isInteger = true := hint.mpr ⟨n.toInt, hval⟩
  exact ⟨b, num, hencode, hne, hlen, hdecode, hinteger,
    (toI64_eq_ok_iff hdecode he hrender hinteger (hm.trans hval) n).mpr rfl⟩

/-- The text that a 64-bit integer is read back as is parsed to it. -/
lemma parseInt_encode_integer (n : Int64) :
    ∃ b num, encodeOracleNumber (toString n.toInt) = .ok b ∧ b.length ≤ 24 ∧
      decodeOracleNumber b = .ok num ∧
      parseInt (-2 ^ 63) (2 ^ 63 - 1) (asBytes num.value) = some n.toInt := by
  obtain ⟨b, sc, hencode, -, hlen, hnormal, hval, hdigits⟩ := exists_encode_integer n
  obtain ⟨num, hdecode, ⟨m, he, hrender, hm⟩, hint⟩ := decode_encodeDigits hnormal hdigits
  have hinteger : num.isInteger = true := hint.mpr ⟨n.toInt, hval⟩
  have hlow := n.le_toInt
  have hhigh := n.toInt_lt
  refine ⟨b, num, hencode, hlen, hdecode, ?_⟩
  rw [(parseInt_of_decode hdecode he hrender hinteger (hm.trans hval)).2, if_pos (by omega)]

end OracleRs
