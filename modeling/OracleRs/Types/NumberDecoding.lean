import OracleRs.Types.NumberRoundTrip

set_option relaxedAutoImplicit false
set_option autoImplicit false

/-!
# What the NUMBER decoder makes of any bytes

The decoder does not check the bytes of the mantissa, and it counts digits in 32 bits. Here it is given
with these counters, and every slice is handled, also those that no encoder writes.

The text is a numeral unless the slice is one of four kinds: a byte of the mantissa stands for more than
109, the number is a negative zero without digits, the index of the decimal point leaves 32 bits, or the
digits behind the decimal point are so many that their index wraps around to it.

## Main definitions

* `OracleRs.decodeOracleNumber32` — `decode_oracle_number` with its counters in 32 bits.
* `OracleRs.DecodesWell` — what the decoder should do.
* `OracleRs.Legal` — the slice is not of the four kinds.

## Main results

* `OracleRs.decodeOracleNumber32_eq` — on slices below `2 ^ 29` bytes the counters do not matter.
* `OracleRs.decodesWell_iff` — which slices are decoded as they should be.
* `OracleRs.legal_iff_of_length` — below `2 ^ 30` bytes there are only the first two kinds.
-/

namespace OracleRs

open Decimal

/-! ## The decoder with its counters in 32 bits -/

/-- A number of digits `as i32`. -/
def asI32 (n : ℕ) : ℤ := Int.bmod n (2 ^ 32)

/-- `is_positive`. -/
def isPositive (exponentByte : UInt8) : Bool := exponentByte &&& 0x80 ≠ 0

/-- `decimal_point_index` in front of the mantissa loop. -/
def startIndex (exponentByte : UInt8) : ℤ :=
  ((if isPositive exponentByte then (exponentByte.toNat : ℤ) else (~~~exponentByte).toNat) - 193) * 2 + 2

/-- The base-100 digits of a mantissa, without the terminator of a negative number. -/
def mantissaValues (isPositive : Bool) (mantissa : Bytes) : List ℕ :=
  (if ¬ isPositive ∧ mantissa.getLast? = some 102 then mantissa.dropLast else mantissa).map
    fun byte => (if isPositive then byte - 1 else 101 - byte).toNat

/-- The mantissa loop. -/
def decodePairs32 (s : DigitState) : List ℕ → Except Error DigitState
  | [] => .ok s
  | value :: values =>
    let s := decodePair s value values.isEmpty
    if -2 ^ 31 ≤ s.decimalPointIndex ∧ s.decimalPointIndex < 2 ^ 31 then
      decodePairs32 s values
    else
      .error .arithmeticOverflow

/-- Remove trailing zeros behind the decimal point: a list of digits in reverse. -/
def dropTrailingZeros32 (decimalPointIndex : ℤ) : List ℕ → List ℕ
  | 0 :: ds =>
    if asI32 (0 :: ds).length ≤ decimalPointIndex then
      0 :: ds
    else
      dropTrailingZeros32 decimalPointIndex ds
  | ds => ds

/-- The digits as characters, from the index of the first digit on. -/
def renderDigits32 (decimalPointIndex : ℤ) : ℕ → List ℕ → List Char
  | _, [] => []
  | i, d :: ds =>
    (if i > 0 ∧ asI32 i = decimalPointIndex then ['.'] else []) ++
      digitChar d :: renderDigits32 decimalPointIndex (i + 1) ds

/-- The last part of `decode_oracle_number`. A decimal point index that is not above zero is compared with
the number of digits nowhere, so that `as usize` does not change it. -/
def renderNumber32 (isPositive : Bool) (digits : List ℕ) (decimalPointIndex : ℤ) : OracleNumber :=
  let sign := if isPositive then [] else ['-']
  let (result, isInteger) :=
    if decimalPointIndex ≤ 0 then
      (sign ++ ['0', '.'] ++ List.replicate (-decimalPointIndex).toNat '0' ++ digits.map digitChar, false)
    else
      (sign ++ renderDigits32 decimalPointIndex 0 digits ++
        List.replicate (decimalPointIndex - digits.length).toNat '0',
        decide ((digits.length : ℤ) ≤ decimalPointIndex))
  let result := if result = [] ∨ result = ['-'] then ['0'] else result
  { value := String.ofList result, isInteger := isInteger }

/-- `decode_oracle_number`, with the decimal point index and the numbers of digits in 32 bits. -/
def decodeOracleNumber32 (data : Bytes) : Except Error OracleNumber :=
  match data with
  | [] => .error (.dataConversionError "Empty data for Oracle NUMBER")
  | exponentByte :: mantissa =>
    if mantissa = [] then
      if isPositive exponentByte then
        .ok (OracleNumber.new "0")
      else
        .ok { value := "", isInteger := false, isMaxNegative := true }
    else do
      let s ← decodePairs32 ⟨[], startIndex exponentByte⟩
        (mantissaValues (isPositive exponentByte) mantissa)
      let digits := (dropTrailingZeros32 s.decimalPointIndex s.digits.reverse).reverse
      .ok (renderNumber32 (isPositive exponentByte) digits s.decimalPointIndex)

/-! ## The digits of a mantissa -/

/-- The digits of one base-100 digit; a byte may also stand for more than 99. -/
def pairDigits (value : ℕ) : List ℕ :=
  if value / 10 = 10 then [1, 0, value % 10] else [value / 10, value % 10]

/-- The digits of a mantissa; the last one is not written if it is zero. -/
def allPairDigits : List ℕ → List ℕ
  | [] => []
  | value :: values =>
    (if value % 10 = 0 ∧ values = [] then (pairDigits value).dropLast else pairDigits value) ++
      allPairDigits values

/-- The first digit is zero. -/
def LeadingZero (values : List ℕ) : Prop := ∃ v ∈ values.head?, v < 10

instance (values : List ℕ) : Decidable (LeadingZero values) :=
  inferInstanceAs (Decidable (∃ v ∈ values.head?, v < 10))

/-- The digits of a mantissa without a leading zero. -/
def wireDigits (values : List ℕ) : List ℕ :=
  if LeadingZero values then (allPairDigits values).tail else allPairDigits values

/-- How many base-100 digits have three digits. -/
def carries (values : List ℕ) : ℕ := values.countP (· / 10 = 10)

/-- The index of the decimal point behind the mantissa loop. -/
def wireIndex (start : ℤ) (values : List ℕ) : ℤ :=
  start - (if LeadingZero values then 1 else 0) + carries values

/-! ## The mantissa loop -/

/-- Behind the first digit a base-100 digit writes its digits, the last one unless it ends the number with
a zero. -/
lemma decodePair_of_ne {s : DigitState} (hs : s.digits ≠ []) (value : ℕ) (isLast : Bool) :
    decodePair s value isLast =
      ⟨s.digits ++ (if value % 10 = 0 ∧ isLast then (pairDigits value).dropLast else pairDigits value),
        s.decimalPointIndex + if value / 10 = 10 then 1 else 0⟩ := by
  have hfirst : ¬ (value / 10 = 0 ∧ s.digits = []) := fun h => hs h.2
  have hsecond : value / 10 ≠ 0 ∨ s.digits ≠ [] := .inr hs
  rw [decodePair, if_neg hfirst, if_pos hsecond, pairDigits]
  by_cases hten : value / 10 = 10 <;> by_cases hlast : value % 10 = 0 ∧ isLast = true
  · simp [hten, hlast]
  · rw [if_pos hten, if_neg hlast, if_pos (by simpa [imp_iff_not_or] using hlast)]
    simp [hten]
  · simp [hten, hlast]
  · rw [if_neg hten, if_neg hlast, if_pos (by simpa [imp_iff_not_or] using hlast)]
    simp [hten]

lemma carries_cons (value : ℕ) (values : List ℕ) :
    (carries (value :: values) : ℤ) = carries values + if value / 10 = 10 then 1 else 0 := by
  rw [carries, List.countP_cons, carries]
  by_cases h : value / 10 = 10 <;> simp [h]

/-- Behind the first digit the loop writes all digits, and moves the decimal point to the right only. -/
lemma decodePairs32_of_ne (values : List ℕ) {s : DigitState} (hs : s.digits ≠ [])
    (hidx : -2 ^ 31 ≤ s.decimalPointIndex ∧ s.decimalPointIndex < 2 ^ 31) :
    decodePairs32 s values =
      if s.decimalPointIndex + carries values < 2 ^ 31 then
        .ok ⟨s.digits ++ allPairDigits values, s.decimalPointIndex + carries values⟩
      else .error .arithmeticOverflow := by
  induction values generalizing s with
  | nil =>
    have hcarries : (carries [] : ℤ) = 0 := rfl
    rw [hcarries, add_zero, if_pos hidx.2, decodePairs32, allPairDigits, List.append_nil]
  | cons value values ih =>
    rw [decodePairs32, decodePair_of_ne hs, carries_cons, allPairDigits]
    simp only [List.isEmpty_iff]
    by_cases hfits : s.decimalPointIndex + (if value / 10 = 10 then 1 else 0) < 2 ^ 31
    · have hlow : -2 ^ 31 ≤ s.decimalPointIndex + (if value / 10 = 10 then 1 else 0) := by
        split <;> omega
      rw [if_pos ⟨hlow, hfits⟩, ih (by simp [hs]) ⟨hlow, hfits⟩]
      simp only [List.append_assoc, add_assoc, add_comm]
    · rw [if_neg fun h => hfits h.2, if_neg (by omega)]

/-- The loop without a bound on its index does the same on digits. -/
lemma decodePairs_of_ne (values : List ℕ) {s : DigitState} (hs : s.digits ≠ []) :
    decodePairs s values =
      ⟨s.digits ++ allPairDigits values, s.decimalPointIndex + carries values⟩ := by
  induction values generalizing s with
  | nil => simp [decodePairs, allPairDigits, carries]
  | cons value values ih =>
    rw [decodePairs, decodePair_of_ne hs, ih (by simp [hs]), carries_cons, allPairDigits]
    simp only [List.isEmpty_iff, List.append_assoc, add_assoc, add_comm]

lemma leadingZero_cons (value : ℕ) (values : List ℕ) : LeadingZero (value :: values) ↔ value < 10 := by
  simp [LeadingZero]

/-- The first base-100 digit: a leading zero moves the decimal point instead of being written. -/
lemma decodePair_nil (start : ℤ) (value : ℕ) (isLast : Bool) :
    decodePair ⟨[], start⟩ value isLast =
      ⟨(if value % 10 = 0 ∧ isLast then (pairDigits value).dropLast else pairDigits value).drop
          (if value < 10 then 1 else 0),
        start - (if value < 10 then 1 else 0) + if value / 10 = 10 then 1 else 0⟩ := by
  by_cases hsmall : value < 10
  · have hdiv : value / 10 = 0 := by omega
    have hmod : value % 10 = value := by omega
    by_cases hlast : value = 0 ∧ isLast = true
    · simp [decodePair, pairDigits, hlast]
    · simp [decodePair, pairDigits, hdiv, hmod, hlast, hsmall]
  · have hdiv : value / 10 ≠ 0 := by omega
    rw [if_neg hsmall, if_neg hsmall, List.drop_zero, sub_zero]
    by_cases hten : value / 10 = 10 <;> by_cases hlast : value % 10 = 0 ∧ isLast = true
    · simp [decodePair, pairDigits, hten, hlast]
    · simp [decodePair, pairDigits, hten, hlast]
    · simp [decodePair, pairDigits, hten, hlast, hdiv]
    · simp [decodePair, pairDigits, hten, hlast, hdiv]

/-- The digits and the decimal point of a mantissa, from its first base-100 digit on. -/
lemma wireDigits_cons (start : ℤ) (value : ℕ) (values : List ℕ) :
    wireDigits (value :: values) =
        (decodePair ⟨[], start⟩ value values.isEmpty).digits ++ allPairDigits values ∧
      wireIndex start (value :: values) =
        (decodePair ⟨[], start⟩ value values.isEmpty).decimalPointIndex + carries values ∧
      (values = [] ∨ (decodePair ⟨[], start⟩ value values.isEmpty).digits ≠ []) := by
  rw [decodePair_nil, wireDigits, wireIndex, carries_cons, allPairDigits]
  simp only [leadingZero_cons, List.isEmpty_iff]
  refine ⟨?_, by ring, ?_⟩
  · cases values with
    | nil =>
      simp only [allPairDigits, List.append_nil]
      by_cases hsmall : value < 10
      · rw [if_pos hsmall, if_pos hsmall, List.drop_one]
      · rw [if_neg hsmall, if_neg hsmall, List.drop_zero]
    | cons next rest =>
      by_cases hsmall : value < 10
      · have hdiv : value / 10 ≠ 10 := by omega
        simp [hsmall, pairDigits, hdiv]
      · simp [hsmall]
  · cases values with
    | nil => exact .inl rfl
    | cons next rest =>
      refine .inr ?_
      rw [if_neg (show ¬ (value % 10 = 0 ∧ next :: rest = []) by simp), pairDigits]
      by_cases hten : value / 10 = 10 <;> by_cases hsmall : value < 10 <;> simp [hten, hsmall]

/-- **The mantissa loop.** It writes the digits of the mantissa unless the index overflows. -/
lemma decodePairs32_eq {start : ℤ} (hstart : -2 ^ 31 < start ∧ start < 2 ^ 31 - 1) (values : List ℕ) :
    decodePairs32 ⟨[], start⟩ values =
      if wireIndex start values < 2 ^ 31 then .ok ⟨wireDigits values, wireIndex start values⟩
      else .error .arithmeticOverflow := by
  cases values with
  | nil =>
    have hindex : wireIndex start [] = start := by simp [wireIndex, LeadingZero, carries]
    have hdigits : wireDigits [] = [] := rfl
    rw [hindex, if_pos (by omega), hdigits, decodePairs32]
  | cons value values =>
    obtain ⟨hdigits, hindex, hne⟩ := wireDigits_cons start value values
    have hmoved := congrArg DigitState.decimalPointIndex (decodePair_nil start value values.isEmpty)
    have hrange : -2 ^ 31 ≤ (decodePair ⟨[], start⟩ value values.isEmpty).decimalPointIndex ∧
        (decodePair ⟨[], start⟩ value values.isEmpty).decimalPointIndex < 2 ^ 31 := by
      rw [hmoved]
      split_ifs <;> constructor <;> simp only <;> omega
    rw [decodePairs32, if_pos hrange, hdigits, hindex]
    rcases hne with rfl | hne
    · have hcarries : (carries [] : ℤ) = 0 := rfl
      rw [hcarries, add_zero, if_pos hrange.2, decodePairs32, allPairDigits, List.append_nil]
    · exact decodePairs32_of_ne values hne hrange

lemma decodePairs_eq (start : ℤ) (values : List ℕ) :
    decodePairs ⟨[], start⟩ values = ⟨wireDigits values, wireIndex start values⟩ := by
  cases values with
  | nil => simp [decodePairs, wireDigits, wireIndex, allPairDigits, LeadingZero, carries]
  | cons value values =>
    obtain ⟨hdigits, hindex, hne⟩ := wireDigits_cons start value values
    rw [decodePairs, hdigits, hindex]
    rcases hne with rfl | hne
    · simp [decodePairs, allPairDigits, carries]
    · exact decodePairs_of_ne values hne

/-! ## The digits that are kept -/

/-- A number of digits in 32 bits. -/
lemma asI32_eq (n : ℕ) :
    asI32 n = if (n : ℤ) % 2 ^ 32 < 2 ^ 31 then (n : ℤ) % 2 ^ 32 else (n : ℤ) % 2 ^ 32 - 2 ^ 32 := by
  have hbmod : ∀ m : ℕ, m = 2 ^ 32 → Int.bmod n m =
      if (n : ℤ) % 2 ^ 32 < 2 ^ 31 then (n : ℤ) % 2 ^ 32 else (n : ℤ) % 2 ^ 32 - 2 ^ 32 := by
    intro m hm
    have hcast : (m : ℤ) = 2 ^ 32 := by rw [hm]; norm_num
    have hhalf : ((2 : ℤ) ^ 32 + 1) / 2 = 2 ^ 31 := by norm_num
    rw [Int.bmod_def, hcast, hhalf]
  exact hbmod _ rfl

lemma asI32_of_lt {n : ℕ} (h : n < 2 ^ 31) : asI32 n = n := by
  rw [asI32_eq, Int.emod_eq_of_lt (by omega) (by omega), if_pos (by omega)]

/-- The digits that are left when trailing zeros are removed. -/
def keptDigits (decimalPointIndex : ℤ) (digits : List ℕ) : List ℕ :=
  (dropTrailingZeros32 decimalPointIndex digits.reverse).reverse

/-- Zeros are removed one by one, to a digit that is not zero or to the first number of digits that is not
above the index in 32 bits. -/
lemma dropTrailingZeros32_spec (p : ℤ) (ds : List ℕ) :
    (∃ k, ds = List.replicate k 0 ++ dropTrailingZeros32 p ds) ∧
      (asI32 (dropTrailingZeros32 p ds).length ≤ p ∨ (dropTrailingZeros32 p ds).head? ≠ some 0) ∧
      ∀ j, (dropTrailingZeros32 p ds).length < j → j ≤ ds.length → p < asI32 j := by
  have hkeep : ∀ ds : List ℕ, dropTrailingZeros32 p ds = ds →
      (asI32 ds.length ≤ p ∨ ds.head? ≠ some 0) →
      (∃ k, ds = List.replicate k 0 ++ dropTrailingZeros32 p ds) ∧
        (asI32 (dropTrailingZeros32 p ds).length ≤ p ∨ (dropTrailingZeros32 p ds).head? ≠ some 0) ∧
        ∀ j, (dropTrailingZeros32 p ds).length < j → j ≤ ds.length → p < asI32 j := by
    intro ds hds hstop
    rw [hds]
    exact ⟨⟨0, rfl⟩, hstop, fun j hlow hhigh => absurd hhigh (by omega)⟩
  induction ds with
  | nil => exact hkeep [] rfl (.inr (by simp))
  | cons d ds ih =>
    by_cases hd : d = 0
    · rw [hd]
      by_cases hlen : asI32 (0 :: ds).length ≤ p
      · exact hkeep (0 :: ds) (by rw [dropTrailingZeros32, if_pos hlen]) (.inl hlen)
      · obtain ⟨⟨k, hk⟩, hstop, hbelow⟩ := ih
        have hdrop : dropTrailingZeros32 p (0 :: ds) = dropTrailingZeros32 p ds := by
          rw [dropTrailingZeros32, if_neg hlen]
        rw [hdrop]
        refine ⟨⟨k + 1, by rw [List.replicate_succ, List.cons_append, ← hk]⟩, hstop, ?_⟩
        intro j hlow hhigh
        rw [List.length_cons] at hhigh hlen
        rcases Nat.lt_or_eq_of_le hhigh with hlt | rfl
        · exact hbelow j hlow (by omega)
        · omega
    · refine hkeep (d :: ds) ?_ (.inr (by simpa using hd))
      unfold dropTrailingZeros32
      split
      · next h => exact absurd (List.cons.inj h).1 hd
      · rfl

lemma keptDigits_spec (p : ℤ) (digits : List ℕ) :
    (∃ k, digits = keptDigits p digits ++ List.replicate k 0) ∧
      (asI32 (keptDigits p digits).length ≤ p ∨ (keptDigits p digits).getLast? ≠ some 0) ∧
      ∀ j, (keptDigits p digits).length < j → j ≤ digits.length → p < asI32 j := by
  obtain ⟨⟨k, hk⟩, hstop, hbelow⟩ := dropTrailingZeros32_spec p digits.reverse
  rw [keptDigits, List.length_reverse, List.getLast?_reverse]
  rw [List.length_reverse] at hbelow
  refine ⟨⟨k, ?_⟩, hstop, hbelow⟩
  have hback := congrArg List.reverse hk
  rwa [List.reverse_reverse, List.reverse_append, List.reverse_replicate] at hback

/-- The digits that are not zero are kept. -/
lemma mem_keptDigits {p : ℤ} {digits : List ℕ} {d : ℕ} (hd : d ≠ 0) :
    d ∈ keptDigits p digits ↔ d ∈ digits := by
  obtain ⟨⟨k, hk⟩, -⟩ := keptDigits_spec p digits
  conv_rhs => rw [hk, List.mem_append]
  exact ⟨.inl, fun h => h.resolve_right fun hzero => hd (List.eq_of_mem_replicate hzero)⟩

lemma stripZeros_append_zeros (ds : List ℕ) (k : ℕ) :
    stripZeros (ds ++ List.replicate k 0) = stripZeros ds := by
  rw [stripZeros, List.reverse_append, List.reverse_replicate, List.dropWhile_append_of_pos, stripZeros]
  intro d hd
  rw [List.eq_of_mem_replicate hd]
  rfl

lemma stripZeros_of_getLast {ds : List ℕ} (h : ds.getLast? ≠ some 0) : stripZeros ds = ds := by
  have hdrop : ds.reverse.dropWhile (· = 0) = ds.reverse := significant_of_head (by rwa [List.head?_reverse])
  rw [stripZeros, hdrop, List.reverse_reverse]

/-- More than `2 ^ 32` digits are kept behind the decimal point exactly when there are as many up to the
last one that is not zero, or as many in all that the removal of zeros stops at a wrapped number. -/
lemma lt_length_keptDigits_iff {p : ℤ} (hp : 0 < p ∧ p < 2 ^ 31) (digits : List ℕ) :
    2 ^ 32 + p < (keptDigits p digits).length ↔
      3 * 2 ^ 31 ≤ digits.length ∨ 2 ^ 32 + p < (stripZeros digits).length := by
  obtain ⟨⟨k, hk⟩, hstop, hbelow⟩ := keptDigits_spec p digits
  have hstrip : stripZeros digits = stripZeros (keptDigits p digits) := by
    conv_lhs => rw [hk]
    exact stripZeros_append_zeros _ k
  have hlen := congrArg List.length hk
  rw [List.length_append] at hlen
  constructor
  · intro hlong
    by_cases hall : 3 * 2 ^ 31 ≤ digits.length
    · exact .inl hall
    · refine .inr ?_
      have hwrapped : p < asI32 (keptDigits p digits).length := by
        rw [asI32_eq]
        split <;> omega
      have hlast := hstop.resolve_left (by omega)
      have hsame := congrArg List.length (hstrip.trans (stripZeros_of_getLast hlast))
      omega
  · rintro (hall | hlong)
    · by_contra hshort
      have hstopped := hbelow (3 * 2 ^ 31) (by omega) hall
      rw [asI32_eq] at hstopped
      split at hstopped <;> omega
    · have := length_stripZeros_le (keptDigits p digits)
      rw [hstrip] at hlong
      omega

/-! ## The text -/

lemma renderDigits32_append (q : ℤ) (i : ℕ) (as bs : List ℕ) :
    renderDigits32 q i (as ++ bs) = renderDigits32 q i as ++ renderDigits32 q (i + as.length) bs := by
  induction as generalizing i with
  | nil => rfl
  | cons a as ih =>
    rw [List.cons_append, renderDigits32, renderDigits32, ih, List.length_cons,
      show i + 1 + as.length = i + (as.length + 1) by ring, List.append_assoc, List.cons_append]

/-- No decimal point is written among digits whose index is not that of the decimal point. -/
lemma renderDigits32_of_ne {q : ℤ} {i : ℕ} {ds : List ℕ}
    (h : ∀ j, i ≤ j → j < i + ds.length → j = 0 ∨ asI32 j ≠ q) :
    renderDigits32 q i ds = ds.map digitChar := by
  induction ds generalizing i with
  | nil => rfl
  | cons d ds ih =>
    have hne : ¬ (i > 0 ∧ asI32 i = q) := by
      rcases h i le_rfl (by rw [List.length_cons]; omega) with hzero | hne
      · exact fun hpos => absurd hzero hpos.1.ne'
      · exact fun heq => hne heq.2
    have hnext : ∀ j, i + 1 ≤ j → j < i + 1 + ds.length → j = 0 ∨ asI32 j ≠ q :=
      fun j hlow hhigh => h j (by omega) (by rw [List.length_cons]; omega)
    rw [renderDigits32, if_neg hne, ih hnext]
    rfl

/-- A decimal point is written in front of a digit with its index. -/
lemma renderDigits32_split {q : ℤ} {ds : List ℕ} {m : ℕ} (hm : m < ds.length) (hpos : 0 < m)
    (hq : asI32 m = q) : ∃ d rest, ds.drop m = d :: rest ∧
      renderDigits32 q 0 ds =
        renderDigits32 q 0 (ds.take m) ++ '.' :: digitChar d :: renderDigits32 q (m + 1) rest := by
  obtain ⟨d, rest, hdrop⟩ : ∃ d rest, ds.drop m = d :: rest := by
    cases hd : ds.drop m with
    | nil => exact absurd (List.drop_eq_nil_iff.mp hd) (by omega)
    | cons d rest => exact ⟨d, rest, rfl⟩
  refine ⟨d, rest, hdrop, ?_⟩
  have hlen : 0 + (ds.take m).length = m := by rw [zero_add, List.length_take_of_le hm.le]
  conv_lhs => rw [← List.take_append_drop m ds]
  rw [renderDigits32_append, hlen, hdrop, renderDigits32, if_pos ⟨hpos, hq⟩]
  rfl

/-- Digits that all stand in front of the decimal point are written without it. -/
lemma renderDigits32_of_le {q : ℕ} {ds : List ℕ} (h : ds.length ≤ q) (hq : q < 2 ^ 31) :
    renderDigits32 q 0 ds = ds.map digitChar := by
  refine renderDigits32_of_ne fun j _ hhigh => .inr ?_
  rw [asI32_of_lt (by omega)]
  omega

/-- Up to `2 ^ 32` digits behind the decimal point have no further one. -/
lemma renderDigits32_once {q : ℕ} {ds : List ℕ} (hpos : 0 < q) (hq : q < 2 ^ 31) (h : q < ds.length)
    (hlen : ds.length ≤ 2 ^ 32 + q) :
    renderDigits32 q 0 ds = (ds.take q).map digitChar ++ '.' :: (ds.drop q).map digitChar := by
  obtain ⟨d, rest, hdrop, hsplit⟩ := renderDigits32_split h hpos (asI32_of_lt hq)
  have hrest : rest.length + 1 + q = ds.length := by
    have := congrArg List.length hdrop
    rw [List.length_drop, List.length_cons] at this
    omega
  have hbehind : renderDigits32 q (q + 1) rest = rest.map digitChar := by
    refine renderDigits32_of_ne fun j hlow hhigh => .inr ?_
    rw [asI32_eq]
    split <;> omega
  rw [hsplit, hbehind, hdrop, renderDigits32_of_le (List.length_take_le q ds) hq, List.map_cons]

/-- Beyond them there is a second decimal point. -/
lemma renderDigits32_twice {q : ℕ} {ds : List ℕ} (hpos : 0 < q) (hq : q < 2 ^ 31)
    (hlen : 2 ^ 32 + q < ds.length) : 2 ≤ (renderDigits32 q 0 ds).count '.' := by
  have hwrapped : asI32 (2 ^ 32 + q) = q := by
    rw [asI32_eq]
    split <;> push_cast <;> omega
  obtain ⟨d, rest, hdrop, hsplit⟩ := renderDigits32_split hlen (by omega) hwrapped
  have htake : q < (ds.take (2 ^ 32 + q)).length := by
    rw [List.length_take_of_le hlen.le]
    omega
  obtain ⟨d', rest', hdrop', hsplit'⟩ := renderDigits32_split htake hpos (asI32_of_lt hq)
  rw [hsplit, hsplit']
  simp only [List.count_append, List.count_cons_self]
  omega

/-! ## Numerals -/

/-- The text is a decimal numeral without an exponent, with digits on both sides of a decimal point. -/
def WellFormed (text : String) : Prop :=
  ∃ n : Numeral, n.exponent = none ∧ n.whole ≠ [] ∧ n.fraction ≠ some [] ∧ n.render = text.toList

lemma toNat_digitChar_of_lt {d : ℕ} (h : d < 26) : (digitChar d).toNat = 48 + d := by
  interval_cases d <;> rfl

lemma digitChar_ne {d : ℕ} (h : d < 26) {c : Char} (hc : c.toNat < 48) : digitChar d ≠ c := by
  intro heq
  rw [← heq, toNat_digitChar_of_lt h] at hc
  omega

lemma not_mem_map_digitChar {ds : List ℕ} (h : ∀ d ∈ ds, d < 26) {c : Char} (hc : c.toNat < 48) :
    c ∉ ds.map digitChar := by
  intro hmem
  obtain ⟨d, hd, heq⟩ := List.mem_map.mp hmem
  exact digitChar_ne (h d hd) hc heq

/-- Digits in a numeral are decimal digits. -/
lemma lt_of_mem_render {n : Numeral} (hexp : n.exponent = none) {d : ℕ} (hd : d < 26)
    (hmem : digitChar d ∈ n.render) : d < 10 := by
  have hdigit : ∀ e ∈ n.whole ++ n.fraction.getD [], digitChar e = digitChar d → d < 10 := by
    intro e he heq
    have hlt := n.digits_lt e he
    have hcode := congrArg Char.toNat heq
    rw [toNat_digitChar_of_lt (by omega), toNat_digitChar_of_lt hd] at hcode
    omega
  rw [Numeral.render, hexp, Option.elim_none, List.append_nil, List.mem_append, List.mem_append] at hmem
  rcases hmem with (hsign | hwhole) | hfraction
  · cases hneg : n.negative with
    | true =>
      rw [hneg] at hsign
      exact absurd (List.mem_singleton.mp hsign) (digitChar_ne hd (by decide))
    | false =>
      rw [hneg] at hsign
      cases hsign
  · obtain ⟨e, he, heq⟩ := List.mem_map.mp hwhole
    exact hdigit e (List.mem_append_left _ he) heq
  · cases hf : n.fraction with
    | none =>
      rw [hf] at hfraction
      cases hfraction
    | some ds =>
      rw [hf, Option.elim_some] at hfraction
      rcases List.mem_cons.mp hfraction with hpoint | hmem
      · exact absurd hpoint (digitChar_ne hd (by decide))
      · obtain ⟨e, he, heq⟩ := List.mem_map.mp hmem
        exact hdigit e (by rw [hf]; exact List.mem_append_right _ he) heq

/-- A numeral has one decimal point at most. -/
lemma count_render_le {n : Numeral} (hexp : n.exponent = none) : n.render.count '.' ≤ 1 := by
  have hdigits : ∀ ds : List ℕ, (∀ d ∈ ds, d < 10) → (ds.map digitChar).count '.' = 0 := fun ds hds =>
    List.count_eq_zero.mpr (not_mem_map_digitChar (fun d hd => (hds d hd).trans (by omega)) (by decide))
  have hwhole := hdigits n.whole fun d hd => n.digits_lt d (List.mem_append_left _ hd)
  have hsign : (if n.negative then ['-'] else []).count '.' = 0 := by
    cases n.negative <;> rfl
  rw [Numeral.render, hexp, Option.elim_none, List.append_nil, List.count_append, List.count_append, hsign,
    hwhole]
  cases hf : n.fraction with
  | none => simp
  | some ds =>
    have hfraction := hdigits ds fun d hd => n.digits_lt d (by
      rw [hf]
      exact List.mem_append_right _ hd)
    rw [Option.elim_some, List.count_cons_self, hfraction]

/-- The text is a numeral, and called an integer exactly when there is no decimal point in it. -/
def RendersWell (n : OracleNumber) : Prop :=
  WellFormed n.value ∧ (n.isInteger = true ↔ '.' ∉ n.value.toList)

/-- The text of digits in front of a decimal point and behind it, if there is one. -/
def numberText (isPositive : Bool) (whole : List ℕ) (fraction : Option (List ℕ)) : List Char :=
  signChars isPositive ++ whole.map digitChar ++ fraction.elim [] fun ds => '.' :: ds.map digitChar

lemma rendersWell_numberText (isPositive : Bool) {whole : List ℕ} {fraction : Option (List ℕ)}
    (hdigits : ∀ d ∈ whole ++ fraction.getD [], d < 10) (hwhole : whole ≠ []) (hfraction : fraction ≠ some []) :
    RendersWell ⟨String.ofList (numberText isPositive whole fraction), fraction.isNone, false⟩ := by
  have hne : whole ++ fraction.getD [] ≠ [] := fun h => hwhole (List.append_eq_nil_iff.mp h).1
  refine ⟨⟨⟨!isPositive, whole, fraction, none, hdigits, hne⟩, rfl, hwhole, hfraction, ?_⟩, ?_⟩
  · rw [String.toList_ofList, Numeral.render, numberText, signChars, Option.elim_none, List.append_nil]
    cases isPositive <;> rfl
  · have hdot : '.' ∉ signChars isPositive ++ whole.map digitChar := by
      rw [List.mem_append, not_or]
      refine ⟨by cases isPositive <;> decide, not_mem_map_digitChar (fun d hd => ?_) (by decide)⟩
      exact (hdigits d (List.mem_append_left _ hd)).trans (by omega)
    rw [String.toList_ofList, numberText, List.mem_append, not_or]
    cases fraction with
    | none => simpa using hdot
    | some ds => simp

/-- The text of a number below one. -/
lemma renderNumber32_fraction {p : ℤ} (hp : p ≤ 0) (isPositive : Bool) (ds : List ℕ) :
    renderNumber32 isPositive ds p =
      ⟨String.ofList (numberText isPositive [0] (some (List.replicate (-p).toNat 0 ++ ds))), false, false⟩ := by
  have htext : (if isPositive then [] else ['-']) ++ ['0', '.'] ++ List.replicate (-p).toNat '0' ++
      ds.map digitChar = numberText isPositive [0] (some (List.replicate (-p).toNat 0 ++ ds)) := by
    rw [numberText, signChars, Option.elim_some, List.map_append, List.map_replicate]
    simp [show digitChar 0 = '0' from rfl]
  have hne := not_empty_of_mem
    (show '.' ∈ numberText isPositive [0] (some (List.replicate (-p).toNat 0 ++ ds)) by simp [numberText])
    (by decide)
  rw [renderNumber32, if_pos hp, htext]
  simp only [if_neg hne]

/-- The text of a number that is not below one. -/
lemma renderNumber32_of_pos {p : ℕ} (hp : 0 < p) (isPositive : Bool) {ds : List ℕ}
    (hds : ∀ d ∈ ds, d < 26) :
    renderNumber32 isPositive ds p =
      ⟨String.ofList (signChars isPositive ++ renderDigits32 p 0 ds ++ List.replicate (p - ds.length) '0'),
        decide (ds.length ≤ p), false⟩ := by
  have hzeros : ((p : ℤ) - ds.length).toNat = p - ds.length := by omega
  have hsign : (if isPositive then [] else ['-']) = signChars isPositive := rfl
  have hne : ¬ (signChars isPositive ++ renderDigits32 p 0 ds ++ List.replicate (p - ds.length) '0' = [] ∨
      signChars isPositive ++ renderDigits32 p 0 ds ++ List.replicate (p - ds.length) '0' = ['-']) := by
    cases ds with
    | nil =>
      refine not_empty_of_mem (c := '0') (List.mem_append_right _ ?_) (by decide)
      exact List.mem_replicate.mpr ⟨by rw [List.length_nil]; omega, rfl⟩
    | cons d ds =>
      refine not_empty_of_mem (c := digitChar d) ?_ (digitChar_ne (hds d (by simp)) (by decide))
      simp [renderDigits32]
  rw [renderNumber32, if_neg (by omega), hzeros, hsign]
  simp only [if_neg hne, Nat.cast_le]

lemma mem_renderDigits32 {q : ℤ} {ds : List ℕ} {d : ℕ} (hd : d ∈ ds) (i : ℕ) :
    digitChar d ∈ renderDigits32 q i ds := by
  induction ds generalizing i with
  | nil => cases hd
  | cons e ds ih =>
    rw [renderDigits32, List.mem_append, List.mem_cons]
    rcases List.mem_cons.mp hd with rfl | hd
    · exact .inr (.inl rfl)
    · exact .inr (.inr (ih hd (i + 1)))

/-- A numeral does not end with its decimal point. -/
lemma getLast?_render_ne {n : Numeral} (hexp : n.exponent = none) (hwhole : n.whole ≠ [])
    (hfraction : n.fraction ≠ some []) : n.render.getLast? ≠ some '.' := by
  have hdigits : ∀ (front : List Char) (ds : List ℕ), ds ≠ [] → (∀ d ∈ ds, d < 10) →
      (front ++ ds.map digitChar).getLast? ≠ some '.' := by
    intro front ds hne hds hlast
    rw [List.getLast?_append_of_ne_nil _ (by simpa using hne)] at hlast
    exact not_mem_map_digitChar (fun d hd => (hds d hd).trans (by omega)) (by decide)
      (List.mem_of_getLast? hlast)
  rw [Numeral.render, hexp, Option.elim_none, List.append_nil]
  cases hf : n.fraction with
  | none =>
    rw [Option.elim_none, List.append_nil]
    exact hdigits _ _ hwhole fun d hd => n.digits_lt d (List.mem_append_left _ hd)
  | some ds =>
    rw [Option.elim_some, List.append_cons]
    refine hdigits _ _ (fun hnil => hfraction (by rw [hf, hnil])) fun d hd => n.digits_lt d ?_
    rw [hf]
    exact List.mem_append_right _ hd

/-- The digits stand in the text. -/
lemma mem_renderNumber32 {p : ℤ} (isPositive : Bool) {ds : List ℕ} (hds : ∀ d ∈ ds, d < 26) {d : ℕ}
    (hd : d ∈ ds) : digitChar d ∈ (renderNumber32 isPositive ds p).value.toList := by
  rcases le_or_gt p 0 with hp | hp
  · rw [renderNumber32_fraction hp, String.toList_ofList, numberText, Option.elim_some, List.map_append]
    exact List.mem_append_right _
      (List.mem_cons_of_mem _ (List.mem_append_right _ (List.mem_map_of_mem hd)))
  · obtain ⟨q, rfl⟩ : ∃ q : ℕ, p = q := ⟨p.toNat, by omega⟩
    rw [renderNumber32_of_pos (by omega) isPositive hds, String.toList_ofList]
    exact List.mem_append_left _ (List.mem_append_right _ (mem_renderDigits32 hd 0))

/-- **Which texts of the decoder are numerals.** Each digit has to be a decimal digit, a number below one
needs a digit behind its decimal point, and the index of the decimal point must not come a second time. -/
lemma rendersWell_renderNumber32_iff {p : ℤ} (hp : p < 2 ^ 31) (isPositive : Bool) {ds : List ℕ}
    (hds : ∀ d ∈ ds, d < 26) :
    RendersWell (renderNumber32 isPositive ds p) ↔
      (∀ d ∈ ds, d < 10) ∧ (p = 0 → ds ≠ []) ∧ (0 < p → ds.length ≤ 2 ^ 32 + p) := by
  constructor
  · rintro ⟨⟨n, hexp, hwhole, hfraction, hrender⟩, -⟩
    refine ⟨fun d hd => ?_, ?_, fun hpos => ?_⟩
    · refine lt_of_mem_render hexp (hds d hd) ?_
      rw [hrender]
      exact mem_renderNumber32 isPositive hds hd
    · rintro rfl rfl
      refine getLast?_render_ne hexp hwhole hfraction ?_
      rw [hrender, renderNumber32_fraction le_rfl, String.toList_ofList]
      cases isPositive <;> rfl
    · obtain ⟨q, rfl⟩ : ∃ q : ℕ, p = q := ⟨p.toNat, by omega⟩
      by_contra hlong
      have htwice : 2 ≤ (renderDigits32 q 0 ds).count '.' :=
        renderDigits32_twice (by omega) (by omega) (by omega)
      have honce := count_render_le hexp
      rw [hrender, renderNumber32_of_pos (by omega) isPositive hds, String.toList_ofList,
        List.count_append, List.count_append] at honce
      omega
  · rintro ⟨hdigits, hzero, hlong⟩
    rcases le_or_gt p 0 with hle | hpos
    · -- below one
      rw [renderNumber32_fraction hle]
      refine rendersWell_numberText isPositive ?_ (by simp) fun hnil => ?_
      · intro d hd
        simp only [Option.getD_some, List.mem_append, List.mem_singleton, List.mem_replicate] at hd
        rcases hd with rfl | ⟨-, rfl⟩ | hd
        · omega
        · omega
        · exact hdigits d hd
      · obtain ⟨hreplicate, hnone⟩ := List.append_eq_nil_iff.mp (Option.some.inj hnil)
        have hcount := congrArg List.length hreplicate
        rw [List.length_replicate, List.length_nil] at hcount
        exact hzero (by omega) hnone
    obtain ⟨q, rfl⟩ : ∃ q : ℕ, p = q := ⟨p.toNat, by omega⟩
    rw [renderNumber32_of_pos (by omega) isPositive hds]
    rcases le_or_gt ds.length q with hle | hlt
    · -- an integer
      have htext : signChars isPositive ++ renderDigits32 q 0 ds ++ List.replicate (q - ds.length) '0' =
          numberText isPositive (ds ++ List.replicate (q - ds.length) 0) none := by
        rw [renderDigits32_of_le hle (by omega), numberText, Option.elim_none, List.append_nil,
          List.map_append, List.map_replicate, List.append_assoc]
        rfl
      rw [htext, decide_eq_true hle]
      refine rendersWell_numberText isPositive ?_ ?_ (by simp)
      · intro d hd
        simp only [Option.getD_none, List.append_nil, List.mem_append, List.mem_replicate] at hd
        rcases hd with hd | ⟨-, rfl⟩
        · exact hdigits d hd
        · omega
      · intro hnil
        have hlen := congrArg List.length hnil
        rw [List.length_append, List.length_replicate, List.length_nil] at hlen
        omega
    · -- digits on both sides of the decimal point
      have htext : signChars isPositive ++ renderDigits32 q 0 ds ++ List.replicate (q - ds.length) '0' =
          numberText isPositive (ds.take q) (some (ds.drop q)) := by
        rw [renderDigits32_once (by omega) (by omega) hlt (by omega), Nat.sub_eq_zero_of_le hlt.le, numberText,
          Option.elim_some, List.replicate_zero, List.append_nil, List.append_assoc]
      rw [htext, decide_eq_false (by omega)]
      refine rendersWell_numberText isPositive ?_ ?_ ?_
      · rw [Option.getD_some, List.take_append_drop]
        exact hdigits
      · intro hnil
        rcases List.take_eq_nil_iff.mp hnil with hq | hds
        · omega
        · rw [hds] at hlt
          cases hlt
      · intro hnil
        have := List.drop_eq_nil_iff.mp (Option.some.inj hnil)
        omega

/-! ## The slices that are decoded as they should be -/

lemma pairDigits_eq (value : ℕ) :
    pairDigits value = (if value / 10 = 10 then [1, 0] else [value / 10]) ++ [value % 10] := by
  rw [pairDigits]
  split <;> rfl

/-- Only zeros are left out of the digits. -/
lemma mem_allPairDigits {d : ℕ} (hd : d ≠ 0) (values : List ℕ) :
    d ∈ allPairDigits values ↔ ∃ v ∈ values, d ∈ pairDigits v := by
  induction values with
  | nil => simp [allPairDigits]
  | cons value values ih =>
    have hvalue : d ∈ (if value % 10 = 0 ∧ values = [] then (pairDigits value).dropLast
        else pairDigits value) ↔ d ∈ pairDigits value := by
      by_cases hlast : value % 10 = 0 ∧ values = []
      · rw [if_pos hlast, pairDigits_eq, List.dropLast_concat, List.mem_append, List.mem_singleton, hlast.1]
        exact (or_iff_left hd).symm
      · rw [if_neg hlast]
    rw [allPairDigits, List.mem_append, ih, hvalue, List.exists_mem_cons_iff]

lemma mem_wireDigits {d : ℕ} (hd : d ≠ 0) (values : List ℕ) :
    d ∈ wireDigits values ↔ ∃ v ∈ values, d ∈ pairDigits v := by
  rw [← mem_allPairDigits hd, wireDigits]
  by_cases hlead : LeadingZero values
  · rw [if_pos hlead]
    cases values with
    | nil => rfl
    | cons value values =>
      have hsmall := (leadingZero_cons value values).mp hlead
      have hdiv : value / 10 = 0 := by omega
      have hhead : ∃ rest, allPairDigits (value :: values) = 0 :: rest := by
        rw [allPairDigits, pairDigits, hdiv]
        by_cases hlast : value % 10 = 0 ∧ values = [] <;> simp [hlast]
      obtain ⟨rest, hrest⟩ := hhead
      rw [hrest, List.tail_cons, List.mem_cons]
      exact (or_iff_right hd).symm
  · rw [if_neg hlead]

/-- The digits are decimal digits if and only if no byte stands for more than 109. -/
lemma wireDigits_lt_iff (values : List ℕ) :
    (∀ d ∈ wireDigits values, d < 10) ↔ ∀ v ∈ values, v < 110 := by
  constructor
  · intro hdigits v hv
    by_contra hlarge
    have hmem : v / 10 ∈ wireDigits values := by
      refine (mem_wireDigits (by omega) values).mpr ⟨v, hv, ?_⟩
      rw [pairDigits, if_neg (by omega)]
      exact List.mem_cons_self
    have := hdigits (v / 10) hmem
    omega
  · intro hvalues d hd
    rcases Nat.eq_zero_or_pos d with rfl | hpos
    · omega
    obtain ⟨v, hv, hd⟩ := (mem_wireDigits hpos.ne' values).mp hd
    have hlt := hvalues v hv
    rw [pairDigits] at hd
    by_cases hten : v / 10 = 10
    · rw [if_pos hten] at hd
      simp only [List.mem_cons, List.not_mem_nil, or_false] at hd
      omega
    · rw [if_neg hten] at hd
      simp only [List.mem_cons, List.not_mem_nil, or_false] at hd
      omega

/-- A byte stands for no digit above 25. -/
lemma wireDigits_lt {values : List ℕ} (hvalues : ∀ v ∈ values, v < 256) :
    ∀ d ∈ wireDigits values, d < 26 := by
  intro d hd
  rcases Nat.eq_zero_or_pos d with rfl | hpos
  · omega
  obtain ⟨v, hv, hd⟩ := (mem_wireDigits hpos.ne' values).mp hd
  have hlt := hvalues v hv
  rw [pairDigits_eq, List.mem_append, List.mem_singleton] at hd
  rcases hd with hd | hd
  · split at hd <;> simp only [List.mem_cons, List.not_mem_nil, or_false] at hd <;> omega
  · omega

lemma length_allPairDigits_le (values : List ℕ) : (allPairDigits values).length ≤ 3 * values.length := by
  induction values with
  | nil => rfl
  | cons value values ih =>
    have hpair : (pairDigits value).length ≤ 3 := by
      rw [pairDigits]
      split <;> simp
    have hdrop : (pairDigits value).dropLast.length ≤ 3 := by
      rw [List.length_dropLast]
      omega
    rw [allPairDigits, List.length_append, List.length_cons]
    split <;> omega

lemma length_wireDigits_le (values : List ℕ) : (wireDigits values).length ≤ 3 * values.length := by
  have hall := length_allPairDigits_le values
  rw [wireDigits]
  split
  · rw [List.length_tail]
    omega
  · exact hall

lemma mantissaValues_lt (isPositive : Bool) (mantissa : Bytes) :
    ∀ v ∈ mantissaValues isPositive mantissa, v < 256 := by
  intro v hv
  obtain ⟨b, -, rfl⟩ := List.mem_map.mp hv
  exact UInt8.toNat_lt _

lemma length_mantissaValues_le (isPositive : Bool) (mantissa : Bytes) :
    (mantissaValues isPositive mantissa).length ≤ mantissa.length := by
  rw [mantissaValues, List.length_map]
  split
  · rw [List.length_dropLast]
    omega
  · exact le_rfl

/-- The index starts at an even number. -/
lemma exists_startIndex (b : UInt8) : ∃ e, startIndex b = 2 * e ∧ -64 ≤ e ∧ e ≤ 63 ∧
    (isPositive b = false → e = 0 → b = 63) := by
  have hlt := b.toNat_lt
  have hnot : (~~~b).toNat = 255 - b.toNat := UInt8.toNat_not b
  cases hpos : isPositive b with
  | true =>
    have hhigh := (and_0x80_ne_zero_iff b).mp (of_decide_eq_true hpos)
    refine ⟨(b.toNat : ℤ) - 192, ?_, by omega, by omega, by simp⟩
    rw [startIndex, hpos, if_pos rfl]
    ring
  | false =>
    have hlow : ¬ 128 ≤ b.toNat := fun h => of_decide_eq_false hpos ((and_0x80_ne_zero_iff b).mpr h)
    refine ⟨((~~~b).toNat : ℤ) - 192, ?_, by omega, by omega, fun _ hzero => ?_⟩
    · rw [startIndex, hpos, if_neg (by simp)]
      ring
    · rw [← UInt8.toNat_inj, show (63 : UInt8).toNat = 63 from rfl]
      omega

/-- The decoder on a mantissa. -/
lemma decodeOracleNumber32_cons (b : UInt8) {mantissa : Bytes} (h : mantissa ≠ []) :
    decodeOracleNumber32 (b :: mantissa) =
      if wireIndex (startIndex b) (mantissaValues (isPositive b) mantissa) < 2 ^ 31 then
        .ok (renderNumber32 (isPositive b)
          (keptDigits (wireIndex (startIndex b) (mantissaValues (isPositive b) mantissa))
            (wireDigits (mantissaValues (isPositive b) mantissa)))
          (wireIndex (startIndex b) (mantissaValues (isPositive b) mantissa)))
      else .error .arithmeticOverflow := by
  obtain ⟨e, hstart, hlow, hhigh, -⟩ := exists_startIndex b
  rw [decodeOracleNumber32, if_neg h, decodePairs32_eq (by omega)]
  by_cases hfits : wireIndex (startIndex b) (mantissaValues (isPositive b) mantissa) < 2 ^ 31
  · rw [if_pos hfits, if_pos hfits]
    rfl
  · rw [if_neg hfits, if_neg hfits]
    rfl

/-- The base-100 digits of a slice. -/
def dataValues : Bytes → List ℕ
  | [] => []
  | exponentByte :: mantissa => mantissaValues (isPositive exponentByte) mantissa

/-- The index of the decimal point of a slice: the one of the exponent byte, moved by a leading zero and by
the base-100 digits above 99. -/
def dataIndex : Bytes → ℤ
  | [] => 0
  | exponentByte :: mantissa =>
    wireIndex (startIndex exponentByte) (mantissaValues (isPositive exponentByte) mantissa)

/-- What the decoder should do: return an error, the greatest negative value, or a numeral. -/
def DecodesWell (data : Bytes) : Prop :=
  (∃ e, decodeOracleNumber32 data = .error e ∧ e.isPanic = false) ∨
    ∃ n, decodeOracleNumber32 data = .ok n ∧ (n = ⟨"", false, true⟩ ∨ RendersWell n)

/-- The slices that are decoded as they should be. -/
structure Legal (data : Bytes) : Prop where
  /-- each byte of the mantissa stands for at most 109 -/
  values_lt : ∀ v ∈ dataValues data, v < 110
  /-- this is no negative number without digits whose decimal point is in front of all digits -/
  has_digit : data ≠ [63, 102]
  /-- the index of the decimal point fits 32 bits -/
  index_lt : dataIndex data < 2 ^ 31
  /-- the index does not wrap around to the decimal point, with the trailing zeros or without them -/
  digits_fit : 0 < dataIndex data → (wireDigits (dataValues data)).length < 3 * 2 ^ 31 ∧
    (stripZeros (wireDigits (dataValues data))).length ≤ 2 ^ 32 + dataIndex data

/-- No digits and a decimal point in front of them: that is one slice. -/
lemma eq_of_no_digits {b : UInt8} {mantissa : Bytes} (h : mantissa ≠ [])
    (hvalues : ∀ v ∈ mantissaValues (isPositive b) mantissa, v = 0)
    (hindex : wireIndex (startIndex b) (mantissaValues (isPositive b) mantissa) = 0) :
    b = 63 ∧ mantissa = [102] := by
  obtain ⟨e, hstart, -, -, hzero⟩ := exists_startIndex b
  cases hm : mantissaValues (isPositive b) mantissa with
  | nil =>
    have hstrip : ¬ isPositive b = true ∧ mantissa.getLast? = some 102 ∧ mantissa.dropLast = [] := by
      rw [mantissaValues, List.map_eq_nil_iff] at hm
      by_cases hterm : ¬ isPositive b = true ∧ mantissa.getLast? = some 102
      · rw [if_pos hterm] at hm
        exact ⟨hterm.1, hterm.2, hm⟩
      · rw [if_neg hterm] at hm
        exact absurd hm h
    obtain ⟨hneg, hlast, hfront⟩ := hstrip
    rw [hm, hstart, wireIndex] at hindex
    simp only [LeadingZero, carries, List.head?_nil, List.countP_nil, Option.not_mem_none, false_and,
      exists_false, if_false, sub_zero, Nat.cast_zero, add_zero] at hindex
    refine ⟨hzero (by simpa using hneg) (by omega), ?_⟩
    rw [← List.dropLast_append_getLast? 102 hlast, hfront]
    rfl
  | cons value values =>
    -- with digits that are all zero the index is odd
    rw [hm] at hvalues hindex
    have hlead : LeadingZero (value :: values) :=
      (leadingZero_cons value values).mpr (by rw [hvalues value List.mem_cons_self]; omega)
    have hcarries : carries (value :: values) = 0 := by
      refine List.countP_eq_zero.mpr fun v hv => ?_
      rw [hvalues v hv]
      decide
    rw [wireIndex, if_pos hlead, hcarries, hstart] at hindex
    omega

lemma eq_zero_of_pairDigits {v : ℕ} (h : ∀ d ∈ pairDigits v, d = 0) : v = 0 := by
  have hlast := h (v % 10) (by rw [pairDigits_eq]; simp)
  rw [pairDigits] at h
  by_cases hten : v / 10 = 10
  · rw [if_pos hten] at h
    exact absurd (h 1 (by simp)) (by omega)
  · rw [if_neg hten] at h
    have hfirst := h (v / 10) (by simp)
    omega

/-- The digits that are kept are decimal digits if and only if no byte stands for more than 109. -/
lemma keptDigits_lt_iff (p : ℤ) (values : List ℕ) :
    (∀ d ∈ keptDigits p (wireDigits values), d < 10) ↔ ∀ v ∈ values, v < 110 := by
  rw [← wireDigits_lt_iff]
  constructor
  · intro hdigits d hd
    rcases Nat.eq_zero_or_pos d with rfl | hpos
    · omega
    · exact hdigits d ((mem_keptDigits hpos.ne').mpr hd)
  · intro hdigits d hd
    rcases Nat.eq_zero_or_pos d with rfl | hpos
    · omega
    · exact hdigits d ((mem_keptDigits hpos.ne').mp hd)

/-- A decimal point in front of all digits has digits behind it, except in one slice. -/
lemma keptDigits_ne_nil_iff {b : UInt8} {mantissa : Bytes} (h : mantissa ≠ []) :
    (wireIndex (startIndex b) (mantissaValues (isPositive b) mantissa) = 0 →
      keptDigits (wireIndex (startIndex b) (mantissaValues (isPositive b) mantissa))
        (wireDigits (mantissaValues (isPositive b) mantissa)) ≠ []) ↔
      b :: mantissa ≠ [63, 102] := by
  constructor
  · rintro hne heq
    obtain ⟨rfl, rfl⟩ : b = 63 ∧ mantissa = [102] := ⟨(List.cons.inj heq).1, (List.cons.inj heq).2⟩
    exact hne (by decide) (by decide)
  · rintro hne hzero hnil
    have hzeros : ∀ v ∈ mantissaValues (isPositive b) mantissa, v = 0 := by
      intro v hv
      -- a digit that is not zero would be kept
      refine eq_zero_of_pairDigits fun d hd => ?_
      by_contra hne
      exact List.ne_nil_of_mem ((mem_keptDigits hne).mpr ((mem_wireDigits hne _).mpr ⟨v, hv, hd⟩)) hnil
    obtain ⟨hb, hm⟩ := eq_of_no_digits h hzeros hzero
    exact hne (by rw [hb, hm])

lemma isMaxNegative_renderNumber32 (isPositive : Bool) (ds : List ℕ) (p : ℤ) :
    (renderNumber32 isPositive ds p).isMaxNegative = false := by
  rw [renderNumber32]

/-- A slice with a mantissa. -/
lemma decodesWell_cons_iff (b : UInt8) {mantissa : Bytes} (h : mantissa ≠ []) :
    DecodesWell (b :: mantissa) ↔ Legal (b :: mantissa) := by
  have hdecode := decodeOracleNumber32_cons b h
  obtain ⟨values, hvalues⟩ : ∃ values, mantissaValues (isPositive b) mantissa = values := ⟨_, rfl⟩
  obtain ⟨p, hp⟩ : ∃ p, wireIndex (startIndex b) values = p := ⟨_, rfl⟩
  have hbound : ∀ d ∈ keptDigits p (wireDigits values), d < 26 := by
    intro d hd
    rcases Nat.eq_zero_or_pos d with rfl | hpos
    · omega
    · have hvalues_lt : ∀ v ∈ values, v < 256 := by
        rw [← hvalues]
        exact mantissaValues_lt _ _
      exact wireDigits_lt hvalues_lt d ((mem_keptDigits hpos.ne').mp hd)
  have hempty : (p = 0 → keptDigits p (wireDigits values) ≠ []) ↔ b :: mantissa ≠ [63, 102] := by
    rw [← hp, ← hvalues]
    exact keptDigits_ne_nil_iff h
  have hwrap : p < 2 ^ 31 → ((0 < p → (keptDigits p (wireDigits values)).length ≤ 2 ^ 32 + p) ↔
      (0 < p → (wireDigits values).length < 3 * 2 ^ 31 ∧
        (stripZeros (wireDigits values)).length ≤ 2 ^ 32 + p)) := by
    intro hfits
    refine imp_congr_right fun hpos => ?_
    have hlt := lt_length_keptDigits_iff ⟨hpos, hfits⟩ (wireDigits values)
    rw [← not_lt, hlt, not_or, not_le, not_lt]
  rw [hvalues, hp] at hdecode
  by_cases hfits : p < 2 ^ 31
  · rw [if_pos hfits] at hdecode
    have hwell : DecodesWell (b :: mantissa) ↔
        RendersWell (renderNumber32 (isPositive b) (keptDigits p (wireDigits values)) p) := by
      rw [DecodesWell, hdecode]
      constructor
      · rintro (⟨e, he, -⟩ | ⟨n, hn, hspecial | hwell⟩)
        · cases he
        · rw [hspecial] at hn
          have hflag := congrArg OracleNumber.isMaxNegative (Except.ok.inj hn)
          rw [isMaxNegative_renderNumber32] at hflag
          cases hflag
        · rwa [← Except.ok.inj hn] at hwell
      · exact fun hwell => .inr ⟨_, rfl, .inr hwell⟩
    rw [hwell, rendersWell_renderNumber32_iff hfits _ hbound, keptDigits_lt_iff, hempty, hwrap hfits]
    constructor
    · rintro ⟨hlt, hne, hfit⟩
      refine ⟨?_, hne, ?_, ?_⟩
      · rwa [dataValues, hvalues]
      · rwa [dataIndex, hvalues, hp]
      · rwa [dataIndex, dataValues, hvalues, hp]
    · rintro ⟨hlt, hne, -, hfit⟩
      rw [dataIndex, dataValues, hvalues, hp] at hfit
      rw [dataValues, hvalues] at hlt
      exact ⟨hlt, hne, hfit⟩
  · rw [if_neg hfits] at hdecode
    refine iff_of_false ?_ fun hlegal => hfits ?_
    · rintro (⟨e, he, hpanic⟩ | ⟨n, hn, -⟩)
      · rw [hdecode] at he
        rw [← Except.error.inj he] at hpanic
        cases hpanic
      · rw [hdecode] at hn
        cases hn
    · have := hlegal.index_lt
      rwa [dataIndex, hvalues, hp] at this

/-- A slice is decoded to a numeral, or to the special value, unless it is one of four kinds: a byte of the
mantissa stands for more than 109, the slice is the negative zero `[63, 102]`, the index of the decimal point
overflows, or it is wrapped around to. -/
theorem decodesWell_iff (data : Bytes) : DecodesWell data ↔ Legal data := by
  rcases data with _ | ⟨b, mantissa⟩
  · refine iff_of_true (.inl ⟨_, rfl, rfl⟩) ⟨by simp [dataValues], by simp, by simp [dataIndex], ?_⟩
    exact fun hpos => absurd hpos (lt_irrefl 0)
  by_cases h : mantissa = []
  · -- zero, and the greatest negative value
    obtain ⟨e, hstart, hlow, hhigh, -⟩ := exists_startIndex b
    have hvalues : mantissaValues (isPositive b) [] = [] := by simp [mantissaValues]
    have hindex : dataIndex [b] = startIndex b := by
      rw [dataIndex, hvalues]
      simp [wireIndex, LeadingZero, carries]
    rw [h]
    refine iff_of_true (.inr ?_) ⟨?_, by simp, by omega, fun hpos => ?_⟩
    · rw [decodeOracleNumber32, if_pos rfl]
      cases isPositive b with
      | true =>
        have hzero : OracleNumber.new "0" = ⟨String.ofList (numberText true [0] none), true, false⟩ := by
          decide +kernel
        refine ⟨_, if_pos rfl, .inr ?_⟩
        rw [hzero]
        exact rendersWell_numberText true (by simp) (by simp) (by simp)
      | false => exact ⟨_, if_neg (by simp), .inl rfl⟩
    · rw [dataValues, hvalues]
      simp
    · rw [dataValues, hvalues]
      have hnil : wireDigits [] = [] := rfl
      rw [hnil]
      refine ⟨by simp, ?_⟩
      have hlen : (stripZeros []).length = 0 := rfl
      rw [hlen]
      omega
  · exact decodesWell_cons_iff b h

/-- The slice of an illegal byte is decoded to a text with a letter in it. -/
theorem not_decodesWell_letter : ¬DecodesWell [193, 0] := by
  have hdecode : decodeOracleNumber32 [193, 0] = .ok ⟨"I5", true, false⟩ := by decide +kernel
  rintro (⟨e, he, -⟩ | ⟨n, hn, hwell⟩)
  · rw [hdecode] at he
    cases he
  · rw [hdecode] at hn
    rw [← Except.ok.inj hn] at hwell
    rcases hwell with hspecial | ⟨⟨numeral, hexp, -, -, hrender⟩, -⟩
    · exact absurd (congrArg OracleNumber.isMaxNegative hspecial) (by decide)
    · have hmem : digitChar 25 ∈ numeral.render := by
        rw [hrender]
        decide
      exact absurd (lt_of_mem_render hexp (by omega) hmem) (by omega)

/-! ## Slices of usual length -/

lemma length_dataValues_le (data : Bytes) : (dataValues data).length ≤ data.length := by
  cases data with
  | nil => exact le_rfl
  | cons b mantissa => exact (length_mantissaValues_le _ mantissa).trans (Nat.le_succ _)

/-- The index moves by one for each byte at most. -/
lemma dataIndex_le (data : Bytes) : dataIndex data ≤ 126 + data.length := by
  cases data with
  | nil => simp [dataIndex]
  | cons b mantissa =>
    obtain ⟨e, hstart, -, hhigh, -⟩ := exists_startIndex b
    have hcarries : carries (mantissaValues (isPositive b) mantissa) ≤ mantissa.length :=
      List.countP_le_length.trans (length_mantissaValues_le _ mantissa)
    rw [dataIndex, wireIndex, List.length_cons]
    split <;> omega

/-- Below `2 ^ 30` bytes no counter wraps, and only the first two kinds are left. -/
lemma legal_iff_of_length {data : Bytes} (h : data.length < 2 ^ 30) :
    Legal data ↔ (∀ v ∈ dataValues data, v < 110) ∧ data ≠ [63, 102] := by
  have hvalues := length_dataValues_le data
  have hindex := dataIndex_le data
  have hdigits := length_wireDigits_le (dataValues data)
  have hstrip := length_stripZeros_le (wireDigits (dataValues data))
  refine ⟨fun hlegal => ⟨hlegal.values_lt, hlegal.has_digit⟩, fun hrest => ?_⟩
  exact ⟨hrest.1, hrest.2, by omega, fun hpos => ⟨by omega, by omega⟩⟩

lemma dropTrailingZeros32_eq (p : ℤ) {ds : List ℕ} (h : ds.length < 2 ^ 31) :
    dropTrailingZeros32 p ds = dropTrailingZeros p ds := by
  induction ds with
  | nil => rfl
  | cons d ds ih =>
    have hlen := asI32_of_lt h
    have hrest := ih (Nat.lt_of_succ_lt h)
    cases d with
    | zero => rw [dropTrailingZeros32, dropTrailingZeros, hlen, hrest]
    | succ d => simp only [dropTrailingZeros32, dropTrailingZeros]

lemma renderDigits32_eq (q : ℤ) {i : ℕ} {ds : List ℕ} (h : i + ds.length < 2 ^ 31) :
    renderDigits32 q i ds = renderDigits q i ds := by
  induction ds generalizing i with
  | nil => rfl
  | cons d ds ih =>
    rw [List.length_cons] at h
    rw [renderDigits32, renderDigits, asI32_of_lt (by omega), ih (by omega)]

lemma renderNumber32_eq (isPositive : Bool) {ds : List ℕ} (h : ds.length < 2 ^ 31) (p : ℤ) :
    renderNumber32 isPositive ds p = renderNumber isPositive ds p := by
  rw [renderNumber32, renderNumber, renderDigits32_eq p (by rwa [Nat.zero_add])]

/-- The decoder without counters, on a mantissa. -/
lemma decodeOracleNumber_cons (b : UInt8) {mantissa : Bytes} (h : mantissa ≠ []) :
    decodeOracleNumber (b :: mantissa) =
      .ok (renderNumber (isPositive b)
        (dropTrailingZeros (wireIndex (startIndex b) (mantissaValues (isPositive b) mantissa))
          (wireDigits (mantissaValues (isPositive b) mantissa)).reverse).reverse
        (wireIndex (startIndex b) (mantissaValues (isPositive b) mantissa))) := by
  have hloop := decodePairs_eq (startIndex b) (mantissaValues (isPositive b) mantissa)
  rw [decodeOracleNumber, if_neg h]
  simp only [startIndex, mantissaValues, isPositive, decide_eq_true_eq] at hloop ⊢
  have hstart : (if b &&& 0x80 ≠ 0 then (b.toNat : ℤ) - 193 else ((~~~b).toNat : ℤ) - 193) * 2 + 2 =
      ((if b &&& 0x80 ≠ 0 then (b.toNat : ℤ) else (~~~b).toNat) - 193) * 2 + 2 := by
    split <;> rfl
  rw [hstart, hloop]

/-- **The counters do not matter** for slices below `2 ^ 29` bytes: the decoder is the one without them. -/
lemma decodeOracleNumber32_eq {data : Bytes} (h : data.length < 2 ^ 29) :
    decodeOracleNumber32 data = decodeOracleNumber data := by
  have hindex := dataIndex_le data
  have hdigits := length_wireDigits_le (dataValues data)
  have hvalues := length_dataValues_le data
  rcases data with _ | ⟨b, mantissa⟩
  · rfl
  by_cases hm : mantissa = []
  · rw [hm, decodeOracleNumber32, decodeOracleNumber, if_pos rfl, if_pos rfl]
    simp only [isPositive, decide_eq_true_eq]
  · have hkept : (keptDigits (dataIndex (b :: mantissa)) (wireDigits (dataValues (b :: mantissa)))).length ≤
        (wireDigits (dataValues (b :: mantissa))).length := by
      obtain ⟨⟨k, hk⟩, -⟩ := keptDigits_spec (dataIndex (b :: mantissa)) (wireDigits (dataValues (b :: mantissa)))
      have := congrArg List.length hk
      rw [List.length_append] at this
      omega
    rw [dataIndex, dataValues] at hkept
    rw [dataValues] at hdigits hvalues
    rw [dataIndex] at hindex
    rw [decodeOracleNumber32_cons b hm, decodeOracleNumber_cons b hm, if_pos (by omega),
      renderNumber32_eq _ (by omega), keptDigits, dropTrailingZeros32_eq]
    rw [List.length_reverse]
    omega

end OracleRs
