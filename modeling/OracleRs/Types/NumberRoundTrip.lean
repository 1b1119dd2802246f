import Mathlib.Data.Nat.Bitwise
import OracleRs.Types.NumberScan

set_option relaxedAutoImplicit false
set_option autoImplicit false

/-!
# Round trips of Oracle NUMBER

What the decoder of `OracleRs.Types.Number` makes of the bytes that the encoder writes. The
encoder aligns the digits to base-100 digits by the parity of the decimal point index; the
division and the remainder of the source round towards zero, so that an odd index below zero is
taken for an even one.

## Main definitions

* `OracleRs.wirePoint` — the decimal point index that the exponent byte stands for.
* `OracleRs.OddScale` — the numbers whose decimal point index is odd and below zero.

## Main results

* `OracleRs.decode_encodeDigits` — the decoded text is a numeral of the encoder's digits with the
  decimal point of the exponent byte.
* `OracleRs.encodeOracleNumber_roundTrip_iff` — the round trip is exact if and only if the text is a
  numeral of a number without an odd scale.
-/

namespace OracleRs

open Decimal

/-! ## What the decoder makes of the encoder's bytes -/

/-- A byte of the exponent has its high bit set. -/
lemma and_0x80_ne_zero_iff (b : UInt8) : b &&& 0x80 ≠ 0 ↔ 128 ≤ b.toNat := by
  have hlt := b.toNat_lt
  have hbit : b.toNat.testBit 7 = decide (128 ≤ b.toNat) := by
    rw [Nat.testBit_eq_decide_div_mod_eq]
    exact decide_eq_decide.mpr (by omega)
  rw [Ne, ← UInt8.toNat_inj, UInt8.toNat_and, show (0x80 : UInt8).toNat = 2 ^ 7 from rfl,
    Nat.and_two_pow, hbit]
  by_cases h : 128 ≤ b.toNat <;> simp [h]

/-- A pair of digits behind the first digit is read back. -/
lemma decodePair_pair {s : DigitState} {a b : ℕ} (ha : a < 10) (hb : b < 10)
    (hs : s.digits ≠ [] ∨ a ≠ 0) (isLast : Bool) :
    decodePair s (a * 10 + b) isLast =
      { s with digits := s.digits ++ if b = 0 ∧ isLast then [a] else [a, b] } := by
  have h₁ : (a * 10 + b) / 10 = a := by omega
  have h₂ : (a * 10 + b) % 10 = b := by omega
  unfold decodePair
  rw [h₁, h₂]
  have hfirst : ¬ (a = 0 ∧ s.digits = []) := by tauto
  have hsecond : a ≠ 0 ∨ s.digits ≠ [] := by tauto
  simp only [if_neg hfirst, if_neg (show a ≠ 10 by omega), if_pos hsecond]
  by_cases hlast : b = 0 ∧ isLast = true
  · simp [hlast]
  · rw [if_neg hlast, if_pos (by simpa [imp_iff_not_or] using hlast)]
    simp

/-- The pairs of the encoder are read back, up to a last zero.

**Proof sketch.** Induction on the number of pairs. After the first pair there are digits, so
that every further pair writes both its digits, the last one perhaps without a zero. -/
lemma decodePairs_mantissaPairs (n : ℕ) (L : List ℕ) (s : DigitState) (hL : ∀ d ∈ L, d < 10)
    (hn : 2 * n ≤ L.length) (hs : s.digits ≠ [] ∨ L.head? ≠ some 0) :
    ∃ k, (decodePairs s (mantissaPairs n L)).digits ++ List.replicate k 0 =
        s.digits ++ L.take (2 * n) ∧
      (decodePairs s (mantissaPairs n L)).decimalPointIndex = s.decimalPointIndex := by
  induction n generalizing L s with
  | zero => exact ⟨0, by simp [mantissaPairs, decodePairs]⟩
  | succ n ih =>
    obtain ⟨a, b, L, rfl⟩ : ∃ a b L', L = a :: b :: L' := by
      match L, hn with
      | a :: b :: L', _ => exact ⟨a, b, L', rfl⟩
      | [], hn => simp at hn
      | [_], hn => simp at hn; omega
    have ha : a < 10 := hL a (by simp)
    have hb : b < 10 := hL b (by simp)
    have hL' : ∀ d ∈ L, d < 10 := fun d hd => hL d (by simp [hd])
    have hn' : 2 * n ≤ L.length := by
      simp only [List.length_cons] at hn
      omega
    have hs' : s.digits ≠ [] ∨ a ≠ 0 := by simpa using hs
    have hpair := decodePair_pair ha hb hs' (mantissaPairs n L).isEmpty
    have htake : (a :: b :: L).take (2 * (n + 1)) = a :: b :: L.take (2 * n) := rfl
    rw [htake]
    change ∃ k, (decodePairs (decodePair s (a * 10 + b) (mantissaPairs n L).isEmpty)
      (mantissaPairs n L)).digits ++ _ = _ ∧ (decodePairs (decodePair s (a * 10 + b)
      (mantissaPairs n L).isEmpty) (mantissaPairs n L)).decimalPointIndex = _
    rw [hpair]
    by_cases hlast : b = 0 ∧ (mantissaPairs n L).isEmpty = true
    · have hzero : n = 0 := by
        cases n with
        | zero => rfl
        | succ n => simp [mantissaPairs] at hlast
      subst hzero
      exact ⟨1, by simp [hlast.1, mantissaPairs, decodePairs]⟩
    · rw [if_neg hlast]
      obtain ⟨k, hk, hpos⟩ := ih L { s with digits := s.digits ++ [a, b] } hL' hn' (.inl (by simp))
      exact ⟨k, by simpa using hk, hpos⟩

/-- Only zeros are removed, and none that stands before the decimal point. -/
lemma dropTrailingZeros_spec (p : ℤ) (ds : List ℕ) :
    ∃ k, ds = List.replicate k 0 ++ dropTrailingZeros p ds ∧
      (((dropTrailingZeros p ds).length : ℤ) ≤ p ∨ (dropTrailingZeros p ds).head? ≠ some 0) := by
  induction ds with
  | nil => exact ⟨0, by simp [dropTrailingZeros]⟩
  | cons d ds ih =>
    by_cases hd : d = 0
    · subst hd
      by_cases hlen : ((0 :: ds).length : ℤ) ≤ p
      · refine ⟨0, ?_, ?_⟩ <;> simp only [dropTrailingZeros, if_pos hlen]
        · rfl
        · exact .inl hlen
      · obtain ⟨k, hk, hlast⟩ := ih
        have hdrop : dropTrailingZeros p (0 :: ds) = dropTrailingZeros p ds := by
          simp only [dropTrailingZeros, if_neg hlen]
        rw [hdrop]
        exact ⟨k + 1, by rw [List.replicate_succ, List.cons_append, ← hk], hlast⟩
    · have hdrop : dropTrailingZeros p (d :: ds) = d :: ds := by
        unfold dropTrailingZeros
        split
        · next h => injection h with h; exact absurd h hd
        · rfl
      rw [hdrop]
      exact ⟨0, rfl, .inr (by simpa using hd)⟩

/-- The byte of a base-100 digit. -/
def mantissaByte (isNegative : Bool) (v : ℕ) : UInt8 :=
  if isNegative then UInt8.ofNat (101 - v) else UInt8.ofNat (v + 1)

/-- A base-100 digit is read back. -/
lemma toNat_mantissaByte {v : ℕ} (h : v < 100) (isNegative : Bool) :
    (if isNegative then 101 - mantissaByte isNegative v else mantissaByte isNegative v - 1).toNat =
      v := by
  cases isNegative with
  | true =>
    have hv : (UInt8.ofNat (101 - v)).toNat = 101 - v := by
      rw [UInt8.toNat_ofNat', Nat.mod_eq_of_lt (by omega)]
    have h101 : (101 : UInt8).toNat = 101 := rfl
    have hle : UInt8.ofNat (101 - v) ≤ 101 := by
      rw [UInt8.le_iff_toNat_le, hv, h101]
      omega
    rw [if_pos rfl, mantissaByte, if_pos rfl, UInt8.toNat_sub_of_le _ _ hle, hv, h101]
    omega
  | false =>
    have hv : (UInt8.ofNat (v + 1)).toNat = v + 1 := by
      rw [UInt8.toNat_ofNat', Nat.mod_eq_of_lt (by omega)]
    have h1 : (1 : UInt8).toNat = 1 := rfl
    have hle : 1 ≤ UInt8.ofNat (v + 1) := by
      rw [UInt8.le_iff_toNat_le, hv, h1]
      omega
    rw [if_neg (by simp), mantissaByte, if_neg (by simp), UInt8.toNat_sub_of_le _ _ hle, hv, h1]
    omega

/-- A base-100 digit is not taken for the terminator. -/
lemma mantissaByte_ne_terminator (v : ℕ) : mantissaByte true v ≠ 102 := by
  intro e
  have h := congrArg UInt8.toNat e
  rw [mantissaByte, if_pos rfl, UInt8.toNat_ofNat', Nat.mod_eq_of_lt (by omega),
    show (102 : UInt8).toNat = 102 from rfl] at h
  omega

lemma mantissaPairs_lt {L : List ℕ} (hL : ∀ d ∈ L, d < 10) (n : ℕ) :
    ∀ v ∈ mantissaPairs n L, v < 100 := by
  induction n generalizing L with
  | zero => simp [mantissaPairs]
  | succ n ih =>
    have hget : ∀ i, L.getD i 0 < 10 := by
      intro i
      rw [List.getD_eq_getElem?_getD]
      cases h : L[i]? with
      | none => simp
      | some d => simpa using hL d (List.mem_of_getElem? h)
    intro v hv
    rcases List.mem_cons.mp hv with rfl | hv
    · have := hget 0
      have := hget 1
      omega
    · exact ih (fun d hd => hL d (List.mem_of_mem_drop hd)) v hv

/-- The exponent byte of the encoder. -/
def exponentByte (isNegative : Bool) (e : ℤ) : UInt8 :=
  if isNegative then ~~~UInt8.ofInt (e + 192) else UInt8.ofInt (e + 192)

/-- The exponent byte shows the sign, and its exponent is read back. -/
lemma exponentByte_spec (isNegative : Bool) {e : ℤ} (h : -64 ≤ e ∧ e ≤ 63) :
    (exponentByte isNegative e &&& 0x80 ≠ 0 ↔ isNegative = false) ∧
      (if isNegative then ((~~~exponentByte isNegative e).toNat : ℤ) - 193
        else ((exponentByte isNegative e).toNat : ℤ) - 193) = e - 1 := by
  have hnat : (UInt8.ofInt (e + 192)).toNat = (e + 192).toNat := by
    rw [UInt8.ofInt, UInt8.toNat_ofNat']
    omega
  cases isNegative with
  | true =>
    have hnot : (~~~UInt8.ofInt (e + 192)).toNat = 255 - (e + 192).toNat := by
      rw [UInt8.toNat_not, hnat]
      rfl
    refine ⟨?_, ?_⟩
    · rw [and_0x80_ne_zero_iff, exponentByte, if_pos rfl, hnot]
      simp
      omega
    · rw [if_pos rfl, exponentByte, if_pos rfl, UInt8.not_not, hnat]
      omega
  | false =>
    refine ⟨?_, ?_⟩
    · rw [and_0x80_ne_zero_iff, exponentByte, if_neg (by simp), hnat]
      simp
      omega
    · rw [if_neg (by simp), exponentByte, if_neg (by simp), hnat]
      omega

/-- The decoder on an exponent byte and base-100 digits, with or without a terminator. -/
lemma decodeOracleNumber_wire (isNegative : Bool) {e : ℤ} (he : -64 ≤ e ∧ e ≤ 63)
    {pairs : List ℕ} (hpairs : ∀ v ∈ pairs, v < 100) (hne : pairs ≠ []) {terminator : Bytes}
    (hterm : terminator = [] ∨ isNegative = true ∧ terminator = [102]) :
    decodeOracleNumber
        (exponentByte isNegative e :: pairs.map (mantissaByte isNegative) ++ terminator) =
      .ok (renderNumber (!isNegative)
        (dropTrailingZeros (decodePairs ⟨[], 2 * e⟩ pairs).decimalPointIndex
          (decodePairs ⟨[], 2 * e⟩ pairs).digits.reverse).reverse
        (decodePairs ⟨[], 2 * e⟩ pairs).decimalPointIndex) := by
  obtain ⟨hsign, hexp⟩ := exponentByte_spec isNegative he
  have hmantissa : pairs.map (mantissaByte isNegative) ++ terminator ≠ [] := by simp [hne]
  have hstrip : (if isNegative = true ∧
      (pairs.map (mantissaByte isNegative) ++ terminator).getLast? = some 102 then
        (pairs.map (mantissaByte isNegative) ++ terminator).dropLast
      else pairs.map (mantissaByte isNegative) ++ terminator) =
        pairs.map (mantissaByte isNegative) := by
    rcases hterm with rfl | ⟨rfl, rfl⟩
    · rw [List.append_nil, if_neg]
      rintro ⟨rfl, hlast⟩
      obtain ⟨v, -, hv⟩ := List.mem_map.mp (List.mem_of_getLast? hlast)
      exact mantissaByte_ne_terminator v hv
    · rw [if_pos (by simp), List.dropLast_concat]
  have hvalues : ((pairs.map (mantissaByte isNegative)).map fun byte =>
      (if isNegative = true then 101 - byte else byte - 1).toNat) = pairs := by
    rw [List.map_map]
    exact (List.map_congr_left fun v hv => toNat_mantissaByte (hpairs v hv) isNegative).trans
      (List.map_id pairs)
  rw [List.cons_append, decodeOracleNumber]
  simp only [if_neg hmantissa, hsign]
  cases isNegative with
  | true =>
    simp only [if_true, if_false, not_false_eq_true, true_and, Bool.true_eq_false] at *
    rw [hstrip, hvalues, hexp, show (e - 1) * 2 + 2 = 2 * e by ring]
    rfl
  | false =>
    simp only [if_true, if_false, Bool.false_eq_true, false_and, not_true_eq_false] at *
    rw [hstrip, hvalues, hexp, show (e - 1) * 2 + 2 = 2 * e by ring]
    rfl

/-- A single digit in the first pair is read back, and the decimal point moves in front of it. -/
lemma decodePairs_prepend {d : ℕ} {L : List ℕ} {n : ℕ} (hd : d ≠ 0) (hd10 : d < 10)
    (hL : ∀ x ∈ L, x < 10) (hn : 2 * n ≤ L.length) (p : ℤ) :
    ∃ k, (decodePairs ⟨[], p + 1⟩ (d :: mantissaPairs n L)).digits ++ List.replicate k 0 =
        d :: L.take (2 * n) ∧
      (decodePairs ⟨[], p + 1⟩ (d :: mantissaPairs n L)).decimalPointIndex = p := by
  have hfirst : decodePair ⟨[], p + 1⟩ d (mantissaPairs n L).isEmpty = ⟨[d], p⟩ := by
    have h₁ : d / 10 = 0 := by omega
    have h₂ : d % 10 = d := by omega
    simp [decodePair, h₁, h₂, hd]
  rw [decodePairs, hfirst]
  exact decodePairs_mantissaPairs n L ⟨[d], p⟩ hL hn (.inl (by simp))

/-- The decimal point that the exponent byte stands for: an odd index below zero is rounded
up. -/
def wirePoint (p : ℤ) : ℤ := if p < 0 ∧ p % 2 = 1 then p + 1 else p

/-- Twice the quotient of the source's division. -/
lemma two_mul_tdiv (p : ℤ) :
    2 * p.tdiv 2 = if p % 2 = 1 then (if p < 0 then p + 1 else p - 1) else p := by
  rw [Int.tdiv_eq_ediv, show Int.sign 2 = 1 from rfl]
  by_cases hodd : p % 2 = 1
  · rw [if_pos hodd]
    by_cases hneg : p < 0
    · rw [if_pos hneg, if_neg (by omega)]
      omega
    · rw [if_neg hneg, if_pos (by omega)]
      omega
  · rw [if_neg hodd, if_pos (by omega)]
    omega

/-- The number of digits is made even with a zero. -/
lemma exists_padding (ds : List ℕ) :
    ∃ m, (if ds.length % 2 = 1 then ds ++ [0] else ds) = ds ++ List.replicate m 0 ∧
      (ds ++ List.replicate m 0).length % 2 = 0 := by
  by_cases h : ds.length % 2 = 1
  · refine ⟨1, by rw [if_pos h]; rfl, ?_⟩
    rw [List.length_append, List.length_replicate]
    omega
  · refine ⟨0, by rw [if_neg h]; simp, ?_⟩
    rw [List.length_append, List.length_replicate]
    omega

/-- What stands on the wire, and that the mantissa loop of the decoder reads the digits back up
to trailing zeros. -/
lemma encodeDigits_wire {isNegative : Bool} {d : ℕ} {ds : List ℕ} {p : ℤ} {b : Bytes} (hd : d ≠ 0)
    (hds : ∀ x ∈ d :: ds, x < 10) (h : encodeDigits isNegative (d :: ds) p = .ok b) :
    ∃ (e : ℤ) (pairs : List ℕ) (terminator : Bytes),
      b = exponentByte isNegative e :: pairs.map (mantissaByte isNegative) ++ terminator ∧
      (-64 ≤ e ∧ e ≤ 63) ∧ (∀ v ∈ pairs, v < 100) ∧ pairs ≠ [] ∧
      (terminator = [] ∨ isNegative = true ∧ terminator = [102]) ∧
      (∃ k m, (decodePairs ⟨[], 2 * e⟩ pairs).digits ++ List.replicate k 0 =
        d :: ds ++ List.replicate m 0) ∧
      (decodePairs ⟨[], 2 * e⟩ pairs).decimalPointIndex = wirePoint p := by
  unfold encodeDigits at h
  split at h
  · cases h
  next hrange =>
  rw [if_neg (by simp)] at h
  have hterm : ∀ n : ℕ, (if isNegative = true ∧ n < 20 then [(102 : UInt8)] else []) = [] ∨
      isNegative = true ∧ (if isNegative = true ∧ n < 20 then [(102 : UInt8)] else []) = [102] := by
    intro n
    by_cases hn : isNegative = true ∧ n < 20
    · exact .inr ⟨hn.1, if_pos hn⟩
    · exact .inl (if_neg hn)
  have hzeros : ∀ m, ∀ x ∈ d :: (ds ++ List.replicate m 0), x < 10 := by
    intro m x hx
    rw [← List.cons_append] at hx
    rcases List.mem_append.mp hx with hx | hx
    · exact hds x hx
    · rw [List.eq_of_mem_replicate hx]
      omega
  have htwo := two_mul_tdiv p
  by_cases hodd : p.tmod 2 = 1
  · -- an odd index: the first pair holds a single digit, and a zero is left over
    have hp : 0 < p ∧ p % 2 = 1 := by
      rw [Int.tmod_eq_emod] at hodd
      split at hodd <;> omega
    have htdiv : 2 * (p + 1).tdiv 2 = p + 1 := by rw [two_mul_tdiv, if_neg (by omega)]
    simp only [if_pos hodd] at h
    obtain ⟨m, hpad, heven⟩ := exists_padding (d :: ds ++ [0])
    have hpad' : d :: ds ++ [0] ++ List.replicate m 0 = d :: (ds ++ List.replicate (m + 1) 0) := by
      simp [List.replicate_succ]
    rw [hpad, hpad'] at h
    rw [hpad'] at heven
    obtain ⟨n, hn⟩ : ∃ n, (d :: (ds ++ List.replicate (m + 1) 0)).length = 2 * (n + 1) := by
      refine ⟨(ds ++ List.replicate (m + 1) 0).length / 2, ?_⟩
      simp only [List.length_cons] at heven ⊢
      omega
    have hL : (ds ++ List.replicate (m + 1) 0).length = 2 * n + 1 := by
      simp only [List.length_cons] at hn
      omega
    have htake : (ds ++ List.replicate (m + 1) 0).take (2 * n) = ds ++ List.replicate m 0 := by
      rw [List.replicate_succ', ← List.append_assoc] at hL ⊢
      rw [List.length_append, List.length_singleton] at hL
      rw [List.take_append_of_le_length (by omega), List.take_of_length_le (by omega)]
    rw [hn, show 2 * (n + 1) / 2 = n + 1 by omega, Nat.add_sub_cancel] at h
    have hlt : ∀ x ∈ ds ++ List.replicate (m + 1) 0, x < 10 :=
      fun x hx => hzeros (m + 1) x (by simp [hx])
    obtain ⟨k, hk, hpos⟩ := decodePairs_prepend hd (hds d (by simp)) hlt (n := n) (by omega) p
    refine ⟨(p + 1).tdiv 2, d :: mantissaPairs n (ds ++ List.replicate (m + 1) 0), _,
      (Except.ok.inj h).symm, by omega, ?_, by simp, hterm _, ?_, ?_⟩
    · intro v hv
      rcases List.mem_cons.mp hv with rfl | hv
      · exact (hds v (by simp)).trans (by omega)
      · exact mantissaPairs_lt hlt n v hv
    · rw [htdiv]
      exact ⟨k, m, by rw [hk, htake]; rfl⟩
    · rw [htdiv, hpos, wirePoint, if_neg (by omega)]
  · have hp : p % 2 = 0 ∨ p < 0 := by
      rw [Int.tmod_eq_emod] at hodd
      split at hodd <;> omega
    have htdiv : 2 * p.tdiv 2 = wirePoint p := by
      rw [htwo, wirePoint]
      split_ifs <;> omega
    simp only [if_neg hodd] at h
    obtain ⟨m, hpad, heven⟩ := exists_padding (d :: ds)
    rw [hpad, show d :: ds ++ List.replicate m 0 = d :: (ds ++ List.replicate m 0) from rfl] at h
    rw [List.cons_append] at heven
    obtain ⟨n, hn⟩ : ∃ n, (d :: (ds ++ List.replicate m 0)).length = 2 * n :=
      ⟨(d :: (ds ++ List.replicate m 0)).length / 2, by omega⟩
    rw [hn, show 2 * n / 2 = n by omega] at h
    have hnpos : n ≠ 0 := by
      rintro rfl
      simp at hn
    obtain ⟨k, hk, hpos⟩ := decodePairs_mantissaPairs n (d :: (ds ++ List.replicate m 0))
      ⟨[], wirePoint p⟩ (hzeros m) (by omega) (.inr (by simpa using hd))
    refine ⟨p.tdiv 2, mantissaPairs n (d :: (ds ++ List.replicate m 0)), _,
      (Except.ok.inj h).symm, by omega, mantissaPairs_lt (hzeros m) n, ?_, hterm _, ?_, ?_⟩
    · cases n with
      | zero => exact absurd rfl hnpos
      | succ n => simp [mantissaPairs]
    · rw [htdiv]
      refine ⟨k, m, ?_⟩
      rw [hk, List.take_of_length_le (by omega)]
      rfl
    · rw [htdiv, hpos]

/-! ## The text that the decoder builds -/

/-- No decimal point is written among digits that stand before or behind it. -/
lemma renderDigits_of_ne {q : ℤ} {i : ℕ} {ds : List ℕ}
    (h : q < i ∨ (i + ds.length : ℤ) ≤ q) : renderDigits q i ds = ds.map digitChar := by
  induction ds generalizing i with
  | nil => rfl
  | cons d ds ih =>
    have hne : ¬ (i > 0 ∧ (i : ℤ) = q) := by
      simp only [List.length_cons] at h
      omega
    have hnext : q < ((i + 1 : ℕ) : ℤ) ∨ (((i + 1 : ℕ) : ℤ) + ds.length : ℤ) ≤ q := by
      simp only [List.length_cons] at h
      omega
    rw [renderDigits, if_neg hne, ih hnext]
    rfl

/-- The digits of a number that ends behind its decimal point. -/
lemma renderDigits_split {q : ℕ} {ds : List ℕ} (hq : 0 < q) (h : q < ds.length) :
    renderDigits q 0 ds = (ds.take q).map digitChar ++ '.' :: (ds.drop q).map digitChar := by
  have happend : ∀ (i : ℕ) (as bs : List ℕ),
      renderDigits q i (as ++ bs) = renderDigits q i as ++ renderDigits q (i + as.length) bs := by
    intro i as bs
    induction as generalizing i with
    | nil => rfl
    | cons a as ih =>
      rw [List.cons_append, renderDigits, renderDigits, ih, List.length_cons,
        show i + 1 + as.length = i + (as.length + 1) by ring]
      simp
  have hlen : (ds.take q).length = q := List.length_take_of_le h.le
  have hdrop : ∃ x xs, ds.drop q = x :: xs := by
    cases hd : ds.drop q with
    | nil => rw [List.drop_eq_nil_iff] at hd; omega
    | cons x xs => exact ⟨x, xs, rfl⟩
  obtain ⟨x, xs, hx⟩ := hdrop
  conv_lhs => rw [← List.take_append_drop q ds]
  rw [happend, hlen, Nat.zero_add, hx, renderDigits, if_pos ⟨hq, rfl⟩,
    renderDigits_of_ne (.inr (by omega)), renderDigits_of_ne (.inl (by omega))]
  rfl

/-- A text with a character besides a sign is not replaced. -/
lemma not_empty_of_mem {cs : List Char} {c : Char} (hmem : c ∈ cs) (hc : c ≠ '-') :
    ¬ (cs = [] ∨ cs = ['-']) := by
  rintro (rfl | rfl)
  · cases hmem
  · exact hc (List.mem_singleton.mp hmem)

/-- The characters of a sign. -/
def signChars (isPositive : Bool) : List Char := if isPositive then [] else ['-']

/-- The text of a number below one. -/
lemma renderNumber_fraction {R : List ℕ} {q : ℤ} (hq : q ≤ 0) (isPositive : Bool) :
    renderNumber isPositive R q =
      ⟨String.ofList (signChars isPositive ++ '0' :: '.' ::
        (List.replicate (-q).toNat 0 ++ R).map digitChar), false, false⟩ := by
  have hzero : digitChar 0 ∈ signChars isPositive ++ ['0', '.'] ++
      List.replicate (-q).toNat '0' ++ R.map digitChar := by
    have : digitChar 0 = '0' := rfl
    simp [this]
  unfold renderNumber
  simp only [if_pos hq]
  rw [show (if isPositive = true then [] else ['-']) = signChars isPositive from rfl,
    if_neg (not_empty_of_mem hzero (by decide))]
  simp [show digitChar 0 = '0' from rfl]

/-- The text of a number that is not below one. -/
lemma renderNumber_of_pos {d : ℕ} {R : List ℕ} {q : ℤ} (hd : d < 10) (hq : 0 < q)
    (isPositive : Bool) :
    renderNumber isPositive (d :: R) q =
      ⟨String.ofList (signChars isPositive ++ renderDigits q 0 (d :: R) ++
        List.replicate (q - (d :: R).length).toNat '0'), decide (((d :: R).length : ℤ) ≤ q),
        false⟩ := by
  have hdigit : digitChar d ∈ signChars isPositive ++ renderDigits q 0 (d :: R) ++
      List.replicate (q - (d :: R).length).toNat '0' := by
    simp [renderDigits]
  have hne : digitChar d ≠ '-' := by
    intro h
    have hnat := congrArg Char.toNat h
    rw [toNat_digitChar hd, show '-'.toNat = 45 from rfl] at hnat
    omega
  unfold renderNumber
  simp only [if_neg (show ¬ q ≤ 0 by omega)]
  rw [show (if isPositive = true then [] else ['-']) = signChars isPositive from rfl,
    if_neg (not_empty_of_mem hdigit hne)]

/-- The text of a number that ends before its decimal point. -/
lemma renderNumber_integer {d : ℕ} {R : List ℕ} {q : ℤ} (hd : d < 10)
    (hlen : ((d :: R).length : ℤ) ≤ q) (isPositive : Bool) :
    renderNumber isPositive (d :: R) q =
      ⟨String.ofList (signChars isPositive ++
        (d :: R ++ List.replicate (q - (d :: R).length).toNat 0).map digitChar), true, false⟩ := by
  have hq : 0 < q := by
    simp only [List.length_cons] at hlen
    omega
  rw [renderNumber_of_pos hd hq, renderDigits_of_ne (.inr (by simpa using hlen)),
    decide_eq_true hlen, List.map_append, List.append_assoc, List.map_replicate]
  rfl

/-- A number is an integer exactly when its negation is. -/
lemma exists_int_sign_iff (isPositive : Bool) (x : ℚ) :
    (∃ k : ℤ, (if isPositive then x else -x) = k) ↔ ∃ k : ℤ, x = k := by
  cases isPositive with
  | true => simp
  | false =>
    constructor
    · rintro ⟨k, hk⟩
      exact ⟨-k, by push_cast; rw [← hk]; simp⟩
    · rintro ⟨k, rfl⟩
      exact ⟨-k, by simp⟩

/-- A numeral without an exponent for digits and a decimal point in them. -/
lemma exists_numeral (whole fraction : List ℕ) (hwhole : ∀ x ∈ whole, x < 10)
    (hfraction : ∀ x ∈ fraction, x < 10) (hne : whole ≠ []) (hasPoint : Bool)
    (hpoint : hasPoint = false → fraction = []) (isPositive : Bool) :
    ∃ n : Numeral, n.exponent = none ∧
      n.render = signChars isPositive ++ whole.map digitChar ++
        (if hasPoint then '.' :: fraction.map digitChar else []) ∧
      n.value = if isPositive then
          ofDigits (whole ++ fraction) * (10 : ℚ) ^ (-(fraction.length : ℤ))
        else -(ofDigits (whole ++ fraction) * (10 : ℚ) ^ (-(fraction.length : ℤ))) := by
  have hget : (if hasPoint then some fraction else none).getD [] = fraction := by
    cases hasPoint with
    | true => rfl
    | false => simp [hpoint rfl]
  refine ⟨⟨!isPositive, whole, if hasPoint then some fraction else none, none, ?_, ?_⟩, rfl, ?_, ?_⟩
  · rw [hget]
    intro x hx
    rcases List.mem_append.mp hx with hx | hx
    · exact hwhole x hx
    · exact hfraction x hx
  · simp [hne]
  · cases isPositive <;> cases hasPoint <;> simp [Numeral.render, signChars]
  · simp only [Numeral.value, Numeral.magnitude, Numeral.fractionDigits, hget,
      Numeral.exponentValue, Option.elim_none, zero_sub]
    cases isPositive <;> simp

/-- **The text of the decoder is a numeral** of the digits and their decimal point, and it is
called an integer exactly when that number is one. -/
lemma renderNumber_spec {d : ℕ} {R : List ℕ} {q : ℤ} (hd : d ≠ 0) (hR : ∀ x ∈ d :: R, x < 10)
    (hlast : ((d :: R).length : ℤ) ≤ q ∨ (d :: R).getLast? ≠ some 0) (isPositive : Bool) :
    (∃ n : Numeral, n.exponent = none ∧
      n.render = (renderNumber isPositive (d :: R) q).value.toList ∧
      n.value = if isPositive then scaled (d :: R) q else -scaled (d :: R) q) ∧
    ((renderNumber isPositive (d :: R) q).isInteger = true ↔
      ∃ k : ℤ, (if isPositive then scaled (d :: R) q else -scaled (d :: R) q) = k) := by
  have hd10 : d < 10 := hR d (by simp)
  rw [exists_int_sign_iff]
  rcases le_or_gt q 0 with hq | hq
  · -- below one: a zero, the decimal point and all the digits behind it
    obtain ⟨n, hexp, hrender, hval⟩ := exists_numeral [0]
      (List.replicate (-q).toNat 0 ++ d :: R) (by simp) (by
        intro x hx
        rcases List.mem_append.mp hx with hx | hx
        · rw [List.eq_of_mem_replicate hx]
          omega
        · exact hR x hx) (by simp) true (by simp) isPositive
    have hscaled : scaled (d :: R) q = ofDigits ([0] ++ (List.replicate (-q).toNat 0 ++ d :: R)) *
        (10 : ℚ) ^ (-((List.replicate (-q).toNat 0 ++ d :: R).length : ℤ)) := by
      have hdigits : ofDigits ([0] ++ (List.replicate (-q).toNat 0 ++ d :: R)) =
          ofDigits (d :: R) := by
        rw [List.singleton_append, ofDigits_cons 0, ofDigits_append, ofDigits_replicate_zero]
        simp
      rw [scaled, hdigits, List.length_append, List.length_replicate]
      congr 2
      push_cast
      omega
    rw [renderNumber_fraction hq]
    refine ⟨⟨n, hexp, ?_, by rw [hval, hscaled]⟩, iff_of_false (by simp) ?_⟩
    · rw [hrender, String.toList_ofList, if_pos rfl]
      simp [show digitChar 0 = '0' from rfl]
    · rintro ⟨k, hk⟩
      obtain ⟨hlow, hhigh⟩ := scaled_mem_Ico hd hR q
      have hone : (10 : ℚ) ^ q ≤ 1 := zpow_le_one_of_nonpos₀ (by norm_num) hq
      have hpos : (0 : ℚ) < (10 : ℚ) ^ (q - 1) := by positivity
      rw [hk] at hlow hhigh
      have h₁ : (0 : ℚ) < k := hpos.trans_le hlow
      have h₂ : (k : ℚ) < 1 := hhigh.trans_le hone
      have h₁' : (0 : ℤ) < k := by exact_mod_cast h₁
      have h₂' : k < (1 : ℤ) := by exact_mod_cast h₂
      omega
  rcases le_or_gt ((d :: R).length : ℤ) q with hlen | hlen
  · -- an integer: zeros behind the digits
    obtain ⟨n, hexp, hrender, hval⟩ := exists_numeral
      (d :: R ++ List.replicate (q - (d :: R).length).toNat 0) [] (by
        intro x hx
        rcases List.mem_append.mp hx with hx | hx
        · exact hR x hx
        · rw [List.eq_of_mem_replicate hx]
          omega) (by simp) (by simp) false (by simp) isPositive
    have hscaled : scaled (d :: R) q =
        ofDigits (d :: R ++ List.replicate (q - (d :: R).length).toNat 0 ++ []) *
          (10 : ℚ) ^ (-(([] : List ℕ).length : ℤ)) := by
      rw [exists_int_of_length_le hlen, List.append_nil, ofDigits_append, ofDigits_replicate_zero]
      simp
    rw [renderNumber_integer hd10 hlen]
    refine ⟨⟨n, hexp, ?_, by rw [hval, hscaled]⟩, iff_of_true rfl ?_⟩
    · rw [hrender, String.toList_ofList, if_neg (by simp), List.append_nil]
    · exact ⟨_, exists_int_of_length_le hlen⟩
  · -- digits on both sides of the decimal point
    obtain ⟨m, rfl⟩ : ∃ m : ℕ, q = m := ⟨q.toNat, by omega⟩
    have hm : 0 < m := by omega
    have hmlen : m < (d :: R).length := by omega
    obtain ⟨n, hexp, hrender, hval⟩ := exists_numeral ((d :: R).take m) ((d :: R).drop m) (fun x hx => hR x (List.mem_of_mem_take hx))
      (fun x hx => hR x (List.mem_of_mem_drop hx)) (by
        cases m with
        | zero => omega
        | succ m => simp) true (by simp) isPositive
    have hscaled : scaled (d :: R) m = ofDigits ((d :: R).take m ++ (d :: R).drop m) *
        (10 : ℚ) ^ (-(((d :: R).drop m).length : ℤ)) := by
      rw [List.take_append_drop, scaled, List.length_drop]
      congr 2
      omega
    rw [renderNumber_of_pos hd10 hq, renderDigits_split hm hmlen]
    refine ⟨⟨n, hexp, ?_, by rw [hval, hscaled]⟩, iff_of_false ?_ ?_⟩
    · rw [hrender, String.toList_ofList, if_pos rfl]
      have hzero : ((m : ℤ) - (d :: R).length).toNat = 0 := by omega
      rw [hzero]
      simp
    · exact fun h => absurd (of_decide_eq_true h) (by omega)
    · rintro ⟨k, hk⟩
      have hlast' : (d :: R).getLast? ≠ some 0 := hlast.resolve_left (by omega)
      rcases List.eq_nil_or_concat (d :: R) with h | ⟨init, l, h⟩
      · cases h
      · rw [List.concat_eq_append] at h
        rw [h] at hk hlast' hlen hR
        have hl : l ≠ 0 := by simpa using hlast'
        exact not_int_of_last_ne_zero hl (hR l (by simp)) hlen k hk

/-! ## The round trip -/

/-- The number whose decimal point is where the exponent byte puts it. -/
def Scanned.wireValue (sc : Scanned) : ℚ :=
  if sc.isNegative then -scaled sc.digits (wirePoint sc.decimalPointIndex)
  else scaled sc.digits (wirePoint sc.decimalPointIndex)

/-- The digits without trailing zeros. -/
def stripZeros (ds : List ℕ) : List ℕ := (ds.reverse.dropWhile (· = 0)).reverse

lemma stripZeros_spec (ds : List ℕ) :
    (∃ k, ds = stripZeros ds ++ List.replicate k 0) ∧ (stripZeros ds).getLast? ≠ some 0 := by
  constructor
  · refine ⟨(ds.reverse.takeWhile (· = 0)).length, ?_⟩
    have hzeros : ds.reverse.takeWhile (· = 0) =
        List.replicate (ds.reverse.takeWhile (· = 0)).length 0 := by
      refine List.eq_replicate_of_mem fun x hx => ?_
      simpa using List.mem_takeWhile_imp hx
    have hsplit := congrArg List.reverse (List.takeWhile_append_dropWhile (p := (· = 0))
      (l := ds.reverse))
    rw [List.reverse_append, List.reverse_reverse] at hsplit
    rw [stripZeros]
    conv_lhs => rw [← hsplit, hzeros, List.reverse_replicate]
  · rw [stripZeros, List.getLast?_reverse]
    intro h
    have hne : ds.reverse.dropWhile (· = 0) ≠ [] := by
      intro he
      rw [he] at h
      cases h
    have := List.head_dropWhile_not (· = 0) hne
    rw [List.head?_eq_some_head hne] at h
    simp at h
    simp [h] at this

/-- Stripping zeros leaves at most as many digits. -/
lemma length_stripZeros_le (ds : List ℕ) : (stripZeros ds).length ≤ ds.length := by
  rw [stripZeros, List.length_reverse, ← ds.length_reverse]
  exact (List.dropWhile_sublist _).length_le

/-- Stripping zeros keeps digits normal. -/
lemma Normal.stripZeros {ds : List ℕ} (h : Normal ds) : Normal (stripZeros ds) := by
  obtain ⟨⟨k, hk⟩, -⟩ := stripZeros_spec ds
  rw [hk] at h
  refine ⟨fun d hd => h.1 d (by simp [hd]), ?_⟩
  intro hhead
  refine h.2 ?_
  cases hs : OracleRs.stripZeros ds with
  | nil => rw [hs] at hhead; cases hhead
  | cons d R => simpa [hs] using hhead

/-- Digits that differ in trailing zeros only are scaled alike. -/
lemma scaled_eq_of_zeros {as bs : List ℕ} {k m : ℕ}
    (h : as ++ List.replicate k 0 = bs ++ List.replicate m 0) (p : ℤ) :
    scaled as p = scaled bs p := by
  rw [← scaled_append_replicate_zero as k, h, scaled_append_replicate_zero]

/-- Zero is written as one byte. -/
lemma encodeDigits_nil {isNegative : Bool} {p : ℤ} {b : Bytes}
    (h : encodeDigits isNegative [] p = .ok b) : b = [128] := by
  rw [encodeDigits] at h
  split at h
  · cases h
  · exact (Except.ok.inj h).symm

/-- **Decoding what the encoder wrote**: the text is a numeral of the digits with the decimal
point where the exponent byte puts it. -/
lemma decode_encodeDigits {sc : Scanned} (hnormal : Normal sc.digits) {b : Bytes}
    (h : encodeDigits sc.isNegative (stripZeros sc.digits) sc.decimalPointIndex = .ok b) :
    ∃ num, decodeOracleNumber b = .ok num ∧
      (∃ n : Numeral, n.exponent = none ∧ n.render = num.value.toList ∧ n.value = sc.wireValue) ∧
      (num.isInteger = true ↔ ∃ k : ℤ, sc.wireValue = k) := by
  obtain ⟨⟨j, hj⟩, hlast⟩ := stripZeros_spec sc.digits
  have hstrip := hnormal.stripZeros
  cases hs : stripZeros sc.digits with
  | nil =>
    -- zero
    have hb : b = [128] := encodeDigits_nil (hs ▸ h)
    have hzero : sc.wireValue = 0 := by
      have : ∀ p, scaled sc.digits p = 0 := by
        intro p
        rw [hj, hs, scaled_append_replicate_zero, scaled_nil]
      simp [Scanned.wireValue, this]
    subst hb
    refine ⟨OracleNumber.new "0", by decide +kernel, ?_, iff_of_true (by decide +kernel) ?_⟩
    · rw [hzero]
      exact ⟨⟨false, [0], none, none, by simp, by simp⟩, rfl, rfl, by
        simp [Numeral.value, Numeral.magnitude, ofDigits, Numeral.fractionDigits]⟩
    · exact ⟨0, by simp [hzero]⟩
  | cons d R =>
    rw [hs] at h hj hlast hstrip
    have hd : d ≠ 0 := by simpa using hstrip.2
    obtain ⟨e, pairs, terminator, rfl, he, hpairs, hne, hterm, ⟨k, m, hdigits⟩, hpoint⟩ :=
      encodeDigits_wire hd hstrip.1 h
    rw [decodeOracleNumber_wire _ he hpairs hne hterm, hpoint]
    obtain ⟨l, hl, hR'⟩ := dropTrailingZeros_spec (wirePoint sc.decimalPointIndex)
      (decodePairs ⟨[], 2 * e⟩ pairs).digits.reverse
    generalize dropTrailingZeros (wirePoint sc.decimalPointIndex)
      (decodePairs ⟨[], 2 * e⟩ pairs).digits.reverse = R' at hl hR'
    have hrev : (decodePairs ⟨[], 2 * e⟩ pairs).digits = R'.reverse ++ List.replicate l 0 := by
      rw [← List.reverse_reverse (decodePairs ⟨[], 2 * e⟩ pairs).digits, hl, List.reverse_append,
        List.reverse_replicate]
    rw [hrev, List.append_assoc, List.replicate_append_replicate] at hdigits
    -- the digits read back begin with the first digit
    cases hr : R'.reverse with
    | nil =>
      rw [hr, List.nil_append] at hdigits
      have hmem : d ∈ List.replicate (l + k) 0 := by
        rw [hdigits]
        simp
      exact absurd (List.eq_of_mem_replicate hmem) hd
    | cons d' R'' =>
      rw [hr] at hdigits
      obtain rfl : d' = d := by
        have := congrArg List.head? hdigits
        simpa using this
      have hlt : ∀ x ∈ d' :: R'', x < 10 := by
        intro x hx
        have hmem : x ∈ d' :: R ++ List.replicate m 0 := by
          rw [← hdigits]
          exact List.mem_append_left _ hx
        rcases List.mem_append.mp hmem with hmem | hmem
        · exact hstrip.1 x hmem
        · rw [List.eq_of_mem_replicate hmem]
          omega
      have hend : ((d' :: R'').length : ℤ) ≤ wirePoint sc.decimalPointIndex ∨
          (d' :: R'').getLast? ≠ some 0 := by
        rw [← hr, List.length_reverse, List.getLast?_reverse]
        exact hR'
      have hvalue : ∀ p, scaled (d' :: R'') p = scaled sc.digits p := by
        intro p
        rw [scaled_eq_of_zeros hdigits, hj, scaled_append_replicate_zero]
      obtain ⟨⟨n, hexp, hrender, hval⟩, hint⟩ :=
        renderNumber_spec hd hlt hend (!sc.isNegative)
      have hsign : (if (!sc.isNegative) = true then
          scaled (d' :: R'') (wirePoint sc.decimalPointIndex)
          else -scaled (d' :: R'') (wirePoint sc.decimalPointIndex)) = sc.wireValue := by
        rw [hvalue, Scanned.wireValue]
        cases sc.isNegative <;> simp
      rw [hsign] at hval hint
      exact ⟨_, rfl, ⟨n, hexp, hrender, hval⟩, hint⟩

/-- The magnitude of the number that has been read. -/
lemma Scanned.abs_value (sc : Scanned) : |sc.value| = scaled sc.digits sc.decimalPointIndex := by
  have hnonneg : 0 ≤ scaled sc.digits sc.decimalPointIndex := by
    rw [scaled]
    positivity
  rw [Scanned.value]
  split
  · rw [abs_neg, abs_of_nonneg hnonneg]
  · rw [abs_of_nonneg hnonneg]

/-- The first significant digit of the number stands an odd number of places behind the first
place behind the decimal point. -/
def OddScale (v : ℚ) : Prop :=
  ∃ k : ℕ, |v| ∈ Set.Ico ((10 : ℚ) ^ (-(2 * k + 2 : ℤ))) ((10 : ℚ) ^ (-(2 * k + 1 : ℤ)))

/-- The encoder's digits show whether the number has an odd scale. -/
lemma oddScale_iff {sc : Scanned} (hnormal : Normal sc.digits) :
    OddScale sc.value ↔
      sc.digits ≠ [] ∧ sc.decimalPointIndex < 0 ∧ sc.decimalPointIndex % 2 = 1 := by
  unfold OddScale
  rw [Scanned.abs_value]
  cases hs : sc.digits with
  | nil =>
    refine iff_of_false ?_ (by simp)
    rintro ⟨k, hlow, -⟩
    rw [scaled_nil] at hlow
    have : (0 : ℚ) < (10 : ℚ) ^ (-(2 * k + 2 : ℤ)) := by positivity
    exact absurd hlow (not_le.mpr this)
  | cons d R =>
    rw [hs] at hnormal
    obtain ⟨hlow, hhigh⟩ :=
      scaled_mem_Ico (by simpa using hnormal.2) hnormal.1 sc.decimalPointIndex
    constructor
    · rintro ⟨k, hk, hk'⟩
      have h₁ := (zpow_lt_zpow_iff_right₀ (by norm_num : (1 : ℚ) < 10)).mp (hlow.trans_lt hk')
      have h₂ := (zpow_lt_zpow_iff_right₀ (by norm_num : (1 : ℚ) < 10)).mp (hk.trans_lt hhigh)
      exact ⟨by simp, by omega, by omega⟩
    · rintro ⟨-, hneg, hodd⟩
      obtain ⟨k, hk⟩ : ∃ k : ℕ, sc.decimalPointIndex = -(2 * k + 1 : ℤ) :=
        ⟨((-sc.decimalPointIndex - 1) / 2).toNat, by omega⟩
      refine ⟨k, ?_, ?_⟩
      · rw [show -(2 * (k : ℤ) + 2) = sc.decimalPointIndex - 1 by omega]
        exact hlow
      · rw [← hk]
        exact hhigh

/-- The exponent byte stands for the number itself, or for its tenfold at an odd scale. -/
lemma wireValue_eq {sc : Scanned} (hnormal : Normal sc.digits) :
    (¬ OddScale sc.value → sc.wireValue = sc.value) ∧
      (OddScale sc.value → sc.wireValue = 10 * sc.value ∧ sc.value ≠ 0) := by
  rw [oddScale_iff hnormal]
  constructor
  · intro h
    by_cases hs : sc.digits = []
    · simp [Scanned.wireValue, Scanned.value, hs]
    · have hpoint : wirePoint sc.decimalPointIndex = sc.decimalPointIndex := by
        rw [wirePoint, if_neg (by tauto)]
      rw [Scanned.wireValue, hpoint, Scanned.value]
  · rintro ⟨hs, hodd⟩
    have hpoint : wirePoint sc.decimalPointIndex = sc.decimalPointIndex + 1 := by
      rw [wirePoint, if_pos hodd]
    obtain ⟨d, R, hdR⟩ := List.exists_cons_of_ne_nil hs
    have hpos : 0 < scaled sc.digits sc.decimalPointIndex := by
      rw [hdR] at hnormal ⊢
      obtain ⟨hlow, -⟩ :=
        scaled_mem_Ico (by simpa using hnormal.2) hnormal.1 sc.decimalPointIndex
      exact lt_of_lt_of_le (by positivity) hlow
    constructor
    · rw [Scanned.wireValue, hpoint, scaled_add_one, Scanned.value]
      split <;> ring
    · unfold Scanned.value
      split
      · exact (neg_neg_of_pos hpos).ne
      · exact hpos.ne'

/-- The two parts of the encoder. -/
lemma encodeOracleNumber_ok {s : String} {b : Bytes} (h : encodeOracleNumber s = .ok b) :
    ∃ sc, scanNumber (asBytes (trim s)) = .ok sc ∧
      encodeDigits sc.isNegative (stripZeros sc.digits) sc.decimalPointIndex = .ok b := by
  unfold encodeOracleNumber at h
  simp only [bind, Except.bind] at h
  split at h
  · cases h
  split at h
  · cases h
  split at h
  · cases h
  next sc hsc => exact ⟨sc, hsc, h⟩

/-- **Round trip of NUMBER.** What the encoder makes of a text that it accepts is decoded to the
number that the text denotes, and is called an integer exactly when that number is one, if and
only if the text is a decimal numeral whose number does not have an odd scale: the number of
zeros between the decimal point and the first significant digit is not odd. -/
theorem encodeOracleNumber_roundTrip_iff (s : String) (b : Bytes)
    (h : encodeOracleNumber s = .ok b) :
    (∃ num v, decodeOracleNumber b = .ok num ∧ Denotes (trim s) v ∧ Denotes num.value v ∧
        (num.isInteger = true ↔ ∃ k : ℤ, v = k)) ↔
      ∃ v, Denotes (trim s) v ∧ ¬ OddScale v := by
  obtain ⟨sc, hscan, hencode⟩ := encodeOracleNumber_ok h
  have hsource : ∀ v, Denotes (trim s) v → Normal sc.digits ∧ v = sc.value := by
    rintro v ⟨n, hrender, rfl⟩
    rw [asBytes_eq_of_render hrender] at hscan
    obtain ⟨-, hnormal, hval⟩ := scanNumber_bytes hscan
    exact ⟨hnormal, hval.symm⟩
  constructor
  · rintro ⟨num, v, hdecode, hv, hnum, -⟩
    refine ⟨v, hv, fun hodd => ?_⟩
    obtain ⟨hnormal, rfl⟩ := hsource v hv
    obtain ⟨num', hdecode', ⟨n, hexp, hrender, hval⟩, -⟩ := decode_encodeDigits hnormal hencode
    rw [hdecode'] at hdecode
    cases hdecode
    obtain ⟨hten, hne⟩ := (wireValue_eq hnormal).2 hodd
    -- the decoded text denotes the tenfold, and one number only
    obtain ⟨sc', hsc'⟩ := scanNumber_of_exponent_none hexp
    rw [← asBytes_eq_of_render hrender] at hsc'
    have hsame : sc.value = 10 * sc.value := by
      rw [← hten, ← hval, denotes_unique hsc' hnum, denotes_unique hsc' ⟨n, hrender, rfl⟩]
    exact hne (by linarith)
  · rintro ⟨v, hv, hodd⟩
    obtain ⟨hnormal, rfl⟩ := hsource v hv
    obtain ⟨num, hdecode, ⟨n, -, hrender, hval⟩, hint⟩ := decode_encodeDigits hnormal hencode
    rw [(wireValue_eq hnormal).1 hodd] at hval hint
    exact ⟨num, sc.value, hdecode, hv, ⟨n, hrender, hval⟩, hint⟩

/-- A negative number with a fraction. -/
theorem encodeOracleNumber_roundTrip_negative :
    ∃ num v, decodeOracleNumber [62, 89, 51, 102] = .ok num ∧ Denotes (trim "-12.5") v ∧
      Denotes num.value v ∧ (num.isInteger = true ↔ ∃ k : ℤ, v = k) :=
  (encodeOracleNumber_roundTrip_iff "-12.5" [62, 89, 51, 102] (by decide +kernel)).mpr
    ⟨-25 / 2, ⟨⟨true, [1, 2], some [5], none, by decide, by decide⟩, by decide +kernel, by
      norm_num [Numeral.value, Numeral.magnitude, Numeral.fractionDigits, ofDigits,
        Numeral.exponentValue]⟩, by
      rintro ⟨k, -, hk⟩
      have : (10 : ℚ) ^ (-(2 * k + 1 : ℤ)) ≤ 1 := zpow_le_one_of_nonpos₀ (by norm_num) (by omega)
      have habs : |(-25 / 2 : ℚ)| = 25 / 2 := by norm_num [abs_of_neg]
      rw [habs] at hk
      linarith⟩

/-- One zero behind the decimal point: five hundredths are decoded as five tenths. -/
theorem encodeOracleNumber_oddScale :
    encodeOracleNumber "0.05" = .ok [192, 51] ∧
      decodeOracleNumber [192, 51] = .ok ⟨"0.5", false, false⟩ ∧
      Denotes (trim "0.05") (1 / 20) ∧ Denotes "0.5" (1 / 2) ∧
      ¬ ∃ v, Denotes (trim "0.05") v ∧ Denotes "0.5" v := by
  have hsource : scanNumber (asBytes (trim "0.05")) = .ok ⟨false, [5], -1, []⟩ := by decide +kernel
  have hresult : scanNumber (asBytes "0.5") = .ok ⟨false, [5], 0, []⟩ := by decide +kernel
  refine ⟨by decide +kernel, by decide +kernel, ?_, ?_, ?_⟩
  · exact ⟨⟨false, [0], some [0, 5], none, by decide, by decide⟩, by decide +kernel, by
      norm_num [Numeral.value, Numeral.magnitude, Numeral.fractionDigits, ofDigits,
        Numeral.exponentValue]⟩
  · exact ⟨⟨false, [0], some [5], none, by decide, by decide⟩, by decide +kernel, by
      norm_num [Numeral.value, Numeral.magnitude, Numeral.fractionDigits, ofDigits,
        Numeral.exponentValue]⟩
  · rintro ⟨v, hv, hv'⟩
    have h := (denotes_unique hsource hv).symm.trans (denotes_unique hresult hv')
    norm_num [Scanned.value, scaled, ofDigits] at h

end OracleRs
