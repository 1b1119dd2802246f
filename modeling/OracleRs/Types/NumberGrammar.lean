import OracleRs.Types.NumberCanonical

set_option relaxedAutoImplicit false
set_option autoImplicit false

/-!
# Which texts the NUMBER encoder accepts

The scanner of the encoder reads more than numerals: it asks for no digit in front of the exponent, and
for nothing behind the digits of the exponent. The texts that it reads are given here by a grammar, with
what is read of them.

A text is handled as it should be, accepted if and only if it is a numeral of a number in range, unless it
is one of three kinds: the sum of decimal point and exponent leaves 32 bits, the text is a numeral of zero
whose decimal point is out of range, or it is no numeral but read with a decimal point in range.

## Main definitions

* `OracleRs.LooseNumeral` — the texts that the scanner reads.
* `OracleRs.InRange`, `OracleRs.IsNumber` — the texts that an encoder of numbers should accept.
* `OracleRs.AcceptsExactly` — the encoder accepts a text if and only if it should, without an overflow.
* `OracleRs.LooseNumeral.Harmless` — the text is not of the three kinds.

## Main results

* `OracleRs.LooseNumeral.scanNumber_bytes_iff`, `OracleRs.LooseNumeral.exists_of_scanNumber` — what is
  read, and that nothing else is.
* `OracleRs.acceptsExactly_iff` — which texts are handled as they should be.
-/

namespace OracleRs

open Decimal

/-! ## The grammar of the scanner -/

/-- A text that the scanner reads: a numeral that may have no digits, and anything behind its exponent. -/
structure LooseNumeral where
  /-- a minus sign is written -/
  negative : Bool
  /-- the digits in front of the decimal point -/
  whole : List ℕ
  /-- the digits behind the decimal point, if there is one -/
  fraction : Option (List ℕ)
  /-- the exponent, if there is one -/
  exponent : Option Exponent
  /-- what stands behind the exponent -/
  junk : Bytes
  /-- the digits are decimal digits -/
  digits_lt : ∀ d ∈ whole ++ fraction.getD [], d < 10
  /-- without an exponent nothing stands behind the digits -/
  junk_eq : exponent = none → junk = []
  /-- the exponent ends where its digits end -/
  junk_head : ∀ b ∈ junk.head?, isAsciiDigit b = false

namespace LooseNumeral

variable (l : LooseNumeral)

/-- The bytes from the exponent on. -/
def exponentPart : Bytes := l.exponent.elim [] exponentBytes ++ l.junk

/-- The bytes of the text. -/
def bytes : Bytes :=
  (if l.negative then [45] else []) ++
    (l.whole.map digitByte ++ (fractionBytes l.fraction ++ l.exponentPart))

/-- The digits in front of and behind the decimal point. -/
def allDigits : List ℕ := l.whole ++ l.fraction.getD []

/-- The digits from the first one that is not zero on. -/
def digits : List ℕ := significant l.allDigits

/-- The place of the decimal point in these digits, moved by the exponent. -/
def point : ℤ := l.digits.length - (l.fraction.getD []).length + l.exponent.elim 0 Exponent.value

/-- The digits of the exponent are a number of 32 bits with a sign. -/
def ExponentFits : Prop := ∀ e ∈ l.exponent, (ofDigits e.digits : ℤ) ≤ 2 ^ 31 - 1

/-- What is read of the text. -/
def scanned : Scanned := ⟨l.negative, l.digits, l.point, l.junk⟩

/-- The exponent begins with its mark. -/
lemma isExponentMark_exponentPart : ∀ b ∈ l.exponentPart.head?, isExponentMark b = true := by
  intro b hb
  rw [exponentPart] at hb
  cases hexp : l.exponent with
  | none =>
    rw [hexp, l.junk_eq hexp] at hb
    cases hb
  | some e =>
    rw [hexp] at hb
    have hmark : (if e.upper then 69 else 101) = b := Option.some.inj hb
    rw [← hmark]
    cases e.upper <;> rfl

/-- The exponent is read if it fits, with what stands behind it. -/
lemma scanExponent_exponentPart (r : ℤ × Bytes) :
    scanExponent l.exponentPart = .ok r ↔
      l.ExponentFits ∧ r = (l.exponent.elim 0 Exponent.value, l.junk) := by
  rw [exponentPart, ExponentFits]
  cases hexp : l.exponent with
  | none =>
    have hread : scanExponent ([] : Bytes) = .ok (0, []) := rfl
    rw [l.junk_eq hexp, Option.elim_none, List.append_nil, hread, Except.ok.injEq, eq_comm]
    exact (and_iff_right fun e he => by cases he).symm
  | some e =>
    rw [Option.elim_some, scanExponent_eq e l.junk_head]
    by_cases hfits : (ofDigits e.digits : ℤ) ≤ 2 ^ 31 - 1
    · rw [if_pos hfits, Except.ok.injEq, eq_comm]
      exact (and_iff_right fun e' he' => by cases he'; exact hfits).symm
    · rw [if_neg hfits]
      refine iff_of_false (fun h => by cases h) fun h => hfits (h.1 e rfl)

/-- **What the scanner reads of a text of its grammar.** -/
lemma scanNumber_bytes_iff (sc : Scanned) :
    scanNumber l.bytes = .ok sc ↔ l.ExponentFits ∧ sc = l.scanned := by
  have hmark := l.isExponentMark_exponentPart
  have hscan := scanDigits_eq l.digits_lt hmark
  have hstops : Stops (fractionBytes l.fraction ++ l.exponentPart) := by
    cases hf : l.fraction with
    | none => exact fun b hb => .inr (hmark b hb)
    | some fs => exact fun b hb => .inl (by simpa [fractionBytes] using hb.symm)
  have hwhole : ∀ d ∈ l.whole, d < 10 := fun d hd => l.digits_lt d (by simp [hd])
  have hsign : decide (l.bytes.head? = some 45) = l.negative ∧
      (if l.bytes.head? = some 45 then l.bytes.tail else l.bytes) =
        l.whole.map digitByte ++ (fractionBytes l.fraction ++ l.exponentPart) := by
    rw [bytes]
    cases l.negative with
    | true => exact ⟨rfl, rfl⟩
    | false =>
      have hhead := head?_ne_minus hwhole hstops
      exact ⟨decide_eq_false hhead, if_neg hhead⟩
  have hparts : scanNumber l.bytes = (scanExponent l.exponentPart).map fun r =>
      ⟨l.negative, l.digits, l.digits.length - (l.fraction.getD []).length + r.1, r.2⟩ := by
    simp only [scanNumber, hsign.1, hsign.2, hscan, bind, Except.bind]
    cases scanExponent l.exponentPart <;> rfl
  rw [hparts]
  constructor
  · intro h
    cases hr : scanExponent l.exponentPart with
    | error e =>
      rw [hr] at h
      cases h
    | ok r =>
      obtain ⟨hfits, rfl⟩ := (l.scanExponent_exponentPart r).mp hr
      rw [hr] at h
      cases h
      exact ⟨hfits, rfl⟩
  · rintro ⟨hfits, rfl⟩
    rw [(l.scanExponent_exponentPart _).mpr ⟨hfits, rfl⟩]
    rfl

end LooseNumeral

/-! ## Nothing else is read -/

/-- The byte of a digit is that of the digit it stands for. -/
lemma eq_digitByte {b : UInt8} (h : isAsciiDigit b = true) : digitByte (digitOf b) = b ∧ digitOf b < 10 := by
  simp only [isAsciiDigit, Bool.and_eq_true, decide_eq_true_eq, UInt8.le_iff_toNat_le,
    UInt8.reduceToNat] at h
  have hlt : digitOf b < 10 := by
    rw [digitOf]
    omega
  refine ⟨?_, hlt⟩
  rw [← UInt8.toNat_inj, toNat_digitByte hlt, digitOf]
  omega

/-- In front of where the loop over the whole part stops there are digits. -/
lemma exists_of_scanWhole {acc acc' : List ℕ} {bytes rest : Bytes}
    (h : scanWhole acc bytes = .ok (acc', rest)) :
    ∃ ds : List ℕ, (∀ d ∈ ds, d < 10) ∧ bytes = ds.map digitByte ++ rest ∧ Stops rest := by
  induction bytes generalizing acc with
  | nil =>
    cases h
    exact ⟨[], by simp, rfl, by simp [Stops]⟩
  | cons b bytes ih =>
    rw [scanWhole] at h
    by_cases hstop : b = 46 ∨ isExponentMark b = true
    · rw [if_pos hstop] at h
      cases h
      exact ⟨[], by simp, rfl, by simpa [Stops] using hstop⟩
    rw [if_neg hstop] at h
    by_cases hdigit : isAsciiDigit b = true
    · rw [if_neg (not_not.mpr hdigit)] at h
      obtain ⟨hb, hlt⟩ := eq_digitByte hdigit
      obtain ⟨ds, hds, rfl, hrest⟩ := ih h
      refine ⟨digitOf b :: ds, List.forall_mem_cons.mpr ⟨hlt, hds⟩, ?_, hrest⟩
      rw [List.map_cons, hb, List.cons_append]
    · rw [if_pos hdigit] at h
      cases h

/-- In front of where the loop behind the decimal point stops there are digits. -/
lemma exists_of_scanFraction {s s' : DigitState} {bytes rest : Bytes}
    (h : scanFraction s bytes = .ok (s', rest)) :
    ∃ ds : List ℕ, (∀ d ∈ ds, d < 10) ∧ bytes = ds.map digitByte ++ rest ∧
      ∀ b ∈ rest.head?, isExponentMark b = true := by
  induction bytes generalizing s with
  | nil =>
    cases h
    exact ⟨[], by simp, rfl, by simp⟩
  | cons b bytes ih =>
    rw [scanFraction] at h
    by_cases hstop : isExponentMark b = true
    · rw [if_pos hstop] at h
      cases h
      exact ⟨[], by simp, rfl, by simpa using hstop⟩
    rw [if_neg hstop] at h
    by_cases hdigit : isAsciiDigit b = true
    · rw [if_neg (not_not.mpr hdigit)] at h
      obtain ⟨hb, hlt⟩ := eq_digitByte hdigit
      obtain ⟨ds, hds, rfl, hrest⟩ := ih h
      refine ⟨digitOf b :: ds, List.forall_mem_cons.mpr ⟨hlt, hds⟩, ?_, hrest⟩
      rw [List.map_cons, hb, List.cons_append]
    · rw [if_pos hdigit] at h
      cases h

/-- The digits in front of the exponent. -/
lemma exists_of_scanDigits {s : DigitState} {bytes rest : Bytes}
    (h : scanDigits bytes = .ok (s, rest)) :
    ∃ (whole : List ℕ) (fraction : Option (List ℕ)), (∀ d ∈ whole ++ fraction.getD [], d < 10) ∧
      bytes = whole.map digitByte ++ (fractionBytes fraction ++ rest) ∧
      ∀ b ∈ rest.head?, isExponentMark b = true := by
  obtain ⟨⟨digits, behind⟩, hwhole, hrest⟩ := exists_of_ok_bind h
  obtain ⟨ds, hds, rfl, hstops⟩ := exists_of_scanWhole hwhole
  by_cases hpoint : behind.head? = some 46
  · simp only [hpoint, if_true] at hrest
    obtain ⟨fs, hfs, htail, hmark⟩ := exists_of_scanFraction hrest
    obtain ⟨tail, rfl⟩ := List.head?_eq_some_iff.mp hpoint
    refine ⟨ds, some fs, fun d hd => ?_, ?_, hmark⟩
    · exact (List.mem_append.mp hd).elim (hds d) (hfs d)
    · rw [List.tail_cons] at htail
      rw [htail]
      rfl
  · simp only [hpoint, if_false] at hrest
    cases hrest
    refine ⟨ds, none, by simpa using hds, rfl, fun b hb => (hstops b hb).resolve_left ?_⟩
    rintro rfl
    exact hpoint hb

/-- What the sign is split off from. -/
lemma exists_of_splitSign (bytes : Bytes) : ∃ sign, bytes = signBytes sign ++ (splitSign bytes).2 := by
  cases bytes with
  | nil => exact ⟨none, rfl⟩
  | cons b bytes =>
    by_cases hminus : b = 45
    · exact ⟨some true, by rw [hminus]; rfl⟩
    by_cases hplus : b = 43
    · exact ⟨some false, by rw [hplus]; rfl⟩
    refine ⟨none, ?_⟩
    rw [splitSign, if_neg hminus, if_neg hplus]
    rfl

/-- An exponent that is read has a mark, a sign and digits. -/
lemma exists_of_scanExponent {b : UInt8} {bytes rest : Bytes} {exp : ℤ} (hmark : isExponentMark b = true)
    (h : scanExponent (b :: bytes) = .ok (exp, rest)) :
    ∃ e : Exponent, b :: bytes = exponentBytes e ++ rest ∧ ∀ b ∈ rest.head?, isAsciiDigit b = false := by
  obtain ⟨sign, hsign⟩ := exists_of_splitSign bytes
  rw [scanExponent, if_neg (not_not.mpr hmark)] at h
  simp only at h
  generalize (splitSign bytes).2 = behind at hsign h
  have hdigits : ∀ d ∈ (behind.takeWhile isAsciiDigit).map digitOf, d < 10 := by
    intro d hd
    obtain ⟨x, hx, rfl⟩ := List.mem_map.mp hd
    exact (eq_digitByte (List.mem_takeWhile_imp hx)).2
  have hback : ((behind.takeWhile isAsciiDigit).map digitOf).map digitByte =
      behind.takeWhile isAsciiDigit := by
    rw [List.map_map]
    refine (List.map_congr_left fun x hx => ?_).trans (List.map_id _)
    exact (eq_digitByte (List.mem_takeWhile_imp hx)).1
  by_cases hne : behind.takeWhile isAsciiDigit = []
  · rw [if_pos hne] at h
    cases h
  rw [if_neg hne] at h
  have hrest : rest = behind.dropWhile isAsciiDigit := by
    split at h
    · cases h
    · cases h
      rfl
  have hupper : b = if decide (b = 69) = true then 69 else 101 := by
    rw [isExponentMark, Bool.or_eq_true, decide_eq_true_eq, decide_eq_true_eq] at hmark
    rcases hmark with rfl | rfl <;> rfl
  refine ⟨⟨decide (b = 69), sign, _, hdigits, by simpa using hne⟩, ?_, fun x hx => ?_⟩
  · rw [exponentBytes, hback, ← hupper, List.cons_append, List.append_assoc, hrest,
      List.takeWhile_append_dropWhile, ← hsign]
  · have hhead : behind.dropWhile isAsciiDigit ≠ [] := by
      intro hnil
      rw [hrest, hnil] at hx
      cases hx
    have hfirst := List.head_dropWhile_not isAsciiDigit hhead
    rw [hrest, List.head?_eq_some_head hhead] at hx
    rw [← Option.some.inj hx]
    exact hfirst

namespace LooseNumeral

/-- **The scanner reads the texts of its grammar only.** -/
lemma exists_of_scanNumber {bytes : Bytes} {sc : Scanned} (h : scanNumber bytes = .ok sc) :
    ∃ l : LooseNumeral, l.bytes = bytes := by
  obtain ⟨⟨s, behind⟩, hdigits, hrest⟩ := exists_of_ok_bind h
  obtain ⟨⟨exp, junk⟩, hexp, hsc⟩ := exists_of_ok_bind hrest
  obtain ⟨whole, fraction, hlt, hbytes, hmark⟩ := exists_of_scanDigits hdigits
  have hsign : bytes = (if decide (bytes.head? = some 45) = true then [45] else []) ++
      (whole.map digitByte ++ (fractionBytes fraction ++ behind)) := by
    rw [← hbytes]
    by_cases hminus : bytes.head? = some 45
    · obtain ⟨tail, rfl⟩ := List.head?_eq_some_iff.mp hminus
      rfl
    · simp only [hminus, decide_false, if_false]
      rfl
  cases behind with
  | nil =>
    exact ⟨⟨decide (bytes.head? = some 45), whole, fraction, none, [], hlt, fun _ => rfl, by simp⟩,
      hsign.symm⟩
  | cons b behind =>
    obtain ⟨e, he, hjunk⟩ := exists_of_scanExponent (hmark b rfl) hexp
    refine ⟨⟨decide (bytes.head? = some 45), whole, fraction, some e, junk, hlt, fun hnone => (by cases hnone),
      hjunk⟩, ?_⟩
    rw [he] at hsign
    exact hsign.symm

end LooseNumeral

/-! ## What should be accepted -/

/-- Zero, or a number with at most as many significant digits as there may be, and with its decimal point
in the range that is checked. -/
def InRange (v : ℚ) : Prop :=
  v = 0 ∨ ∃ (d : ℕ) (ds : List ℕ) (p : ℤ), d ≠ 0 ∧ (∀ x ∈ d :: ds, x < 10) ∧
    (d :: ds).getLast? ≠ some 0 ∧ |v| = scaled (d :: ds) p ∧ (d :: ds).length ≤ maxDigits ∧
    -129 ≤ p ∧ p ≤ 126

/-- The text is a numeral of a number in range. -/
def IsNumber (text : String) : Prop := ∃ n : Numeral, n.render = text.toList ∧ InRange n.value

/-- The decimal point, moved by the exponent, leaves 32 bits. -/
def PointOverflows (text : String) : Prop :=
  ∃ sc, scanNumber (asBytes text) = .ok sc ∧
    ¬(-2 ^ 31 ≤ sc.decimalPointIndex ∧ sc.decimalPointIndex < 2 ^ 31)

/-- The text is accepted if and only if it is a number, and nothing overflows. -/
def AcceptsExactly (text : String) : Prop :=
  ((∃ b, encodeOracleNumber text = .ok b) ↔ IsNumber (trim text)) ∧ ¬PointOverflows (trim text)

namespace LooseNumeral

/-- The text is a numeral: it has a digit, and nothing stands behind the exponent. -/
def IsNumeral (l : LooseNumeral) : Prop := l.allDigits ≠ [] ∧ l.junk = []

/-- The exponent fits, and so do the number of digits and the decimal point. -/
def Accepted (l : LooseNumeral) : Prop :=
  l.ExponentFits ∧ (stripZeros l.digits).length ≤ maxDigits ∧ -129 ≤ l.point ∧ l.point ≤ 126

/-- The text is none of those that are not handled as they should be. -/
structure Harmless (l : LooseNumeral) : Prop where
  /-- the decimal point stays within 32 bits -/
  inside : l.ExponentFits → -2 ^ 31 ≤ l.point ∧ l.point < 2 ^ 31
  /-- a numeral of zero has its decimal point in range -/
  zero : l.IsNumeral → l.digits = [] → l.Accepted
  /-- a text that is no numeral has something out of range, unless it is empty -/
  other : ¬l.IsNumeral → l.bytes ≠ [] → ¬l.Accepted

end LooseNumeral

/-- When digits and decimal point are written. -/
lemma encodeDigits_isOk_iff (isNegative : Bool) (digits : List ℕ) (p : ℤ) :
    (∃ b, encodeDigits isNegative digits p = .ok b) ↔ digits.length ≤ maxDigits ∧ -129 ≤ p ∧ p ≤ 126 := by
  rw [encodeDigits]
  by_cases hbounds : digits.length > maxDigits ∨ p > 126 ∨ p < -129
  · rw [if_pos hbounds]
    refine iff_of_false ?_ (by omega)
    rintro ⟨b, hb⟩
    cases hb
  · rw [if_neg hbounds]
    refine iff_of_true ?_ (by omega)
    split
    · exact ⟨_, rfl⟩
    · exact ⟨_, rfl⟩

namespace LooseNumeral

variable {l : LooseNumeral} {text : String}

/-- A text that is read is accepted if and only if it is not empty and in range. -/
lemma isOk_iff (hlen : (asBytes (trim text)).length ≤ maxStringChars) (hl : l.bytes = asBytes (trim text)) :
    (∃ b, encodeOracleNumber text = .ok b) ↔ l.bytes ≠ [] ∧ l.Accepted := by
  constructor
  · rintro ⟨b, hb⟩
    have hne : l.bytes ≠ [] := by
      intro hnil
      rw [hl] at hnil
      rw [encodeOracleNumber, if_pos hnil] at hb
      cases hb
    obtain ⟨sc, hscan, hencode⟩ := encodeOracleNumber_ok hb
    rw [← hl] at hscan
    obtain ⟨hfits, rfl⟩ := (l.scanNumber_bytes_iff sc).mp hscan
    exact ⟨hne, hfits, (encodeDigits_isOk_iff _ _ _).mp ⟨b, hencode⟩⟩
  · rintro ⟨hne, hfits, hbounds⟩
    obtain ⟨b, hb⟩ := (encodeDigits_isOk_iff l.negative (stripZeros l.digits) l.point).mpr hbounds
    have hscan := (l.scanNumber_bytes_iff l.scanned).mpr ⟨hfits, rfl⟩
    rw [hl] at hscan hne
    refine ⟨b, ?_⟩
    rw [encodeOracleNumber, if_neg hne, if_neg (by omega), hscan]
    exact hb

/-- The number that the digits and the decimal point stand for. -/
lemma scaled_digits (l : LooseNumeral) : scaled l.digits l.point =
    ofDigits l.allDigits * (10 : ℚ) ^ (l.exponent.elim 0 Exponent.value - (l.fraction.getD []).length) := by
  rw [scaled, digits, ofDigits_significant, point, digits]
  congr 2
  ring

/-- A numeral as a text that the scanner reads. -/
def ofNumeral (n : Numeral) : LooseNumeral :=
  ⟨n.negative, n.whole, n.fraction, n.exponent, [], n.digits_lt, fun _ => rfl, fun _ hb => by cases hb⟩

lemma bytes_ofNumeral (n : Numeral) : (ofNumeral n).bytes = numeralBytes n := by
  rw [bytes, exponentPart, ofNumeral, List.append_nil]
  rfl

lemma isNumeral_ofNumeral (n : Numeral) : (ofNumeral n).IsNumeral := ⟨n.ne_nil, rfl⟩

lemma value_ofNumeral (n : Numeral) : (ofNumeral n).scanned.value = n.value := by
  rw [Scanned.value, scanned, scaled_digits]
  rfl

/-- A text that is a numeral comes from one. -/
lemma exists_ofNumeral (h : l.IsNumeral) : ∃ n : Numeral, ofNumeral n = l := by
  obtain ⟨negative, whole, fraction, exponent, junk, hlt, hjunk, hhead⟩ := l
  obtain ⟨hne, hnil⟩ := h
  simp only at hnil
  subst hnil
  exact ⟨⟨negative, whole, fraction, exponent, hlt, hne⟩, rfl⟩

/-- The bytes in front of the exponent. -/
lemma takeWhile_bytes (l : LooseNumeral) : (l.bytes.takeWhile fun b => !isExponentMark b) =
    (if l.negative then [45] else []) ++ (l.whole.map digitByte ++ fractionBytes l.fraction) := by
  have hdigits : ∀ ds : List ℕ, (∀ d ∈ ds, d < 10) → ∀ b ∈ ds.map digitByte, (!isExponentMark b) = true := by
    intro ds hds b hb
    obtain ⟨d, hd, rfl⟩ := List.mem_map.mp hb
    rw [isExponentMark_digitByte (hds d hd)]
    rfl
  have hfront : ∀ b ∈ (if l.negative then [45] else []) ++
      (l.whole.map digitByte ++ fractionBytes l.fraction), (!isExponentMark b) = true := by
    intro b hb
    rcases List.mem_append.mp hb with hb | hb
    · cases hneg : l.negative with
      | false => simp [hneg] at hb
      | true =>
        obtain rfl : b = 45 := by simpa [hneg] using hb
        rfl
    rcases List.mem_append.mp hb with hb | hb
    · exact hdigits l.whole (fun d hd => l.digits_lt d (by simp [hd])) b hb
    · cases hf : l.fraction with
      | none => simp [hf, fractionBytes] at hb
      | some fs =>
        rw [hf] at hb
        rcases List.mem_cons.mp hb with rfl | hb
        · rfl
        · exact hdigits fs (fun d hd => l.digits_lt d (by simp [hf, hd])) b hb
  rw [bytes, ← List.append_assoc (l.whole.map digitByte), ← List.append_assoc,
    List.takeWhile_append_of_pos hfront]
  cases hpart : l.exponentPart with
  | nil => exact List.append_nil _
  | cons b rest =>
    have hmark := l.isExponentMark_exponentPart b (by rw [hpart]; rfl)
    rw [List.takeWhile_cons_of_neg (by simp [hmark]), List.append_nil]

/-- The bytes in front of the exponent show whether there is a digit. -/
lemma allDigits_ne_nil_iff (l : LooseNumeral) :
    l.allDigits ≠ [] ↔ ∃ b ∈ l.bytes.takeWhile fun b => !isExponentMark b, isAsciiDigit b = true := by
  rw [takeWhile_bytes]
  constructor
  · intro hne
    obtain ⟨d, hd⟩ := List.exists_mem_of_ne_nil _ hne
    have hlt := l.digits_lt d hd
    refine ⟨digitByte d, ?_, isAsciiDigit_digitByte hlt⟩
    refine List.mem_append_right _ ?_
    rcases List.mem_append.mp hd with hd | hd
    · exact List.mem_append_left _ (List.mem_map_of_mem hd)
    · refine List.mem_append_right _ ?_
      cases hf : l.fraction with
      | none =>
        rw [hf] at hd
        cases hd
      | some fs =>
        rw [hf] at hd
        exact List.mem_cons_of_mem _ (List.mem_map_of_mem hd)
  · rintro ⟨b, hb, hdigit⟩ hnil
    obtain ⟨hwhole, hfraction⟩ := List.append_eq_nil_iff.mp hnil
    rw [hwhole] at hb
    rcases List.mem_append.mp hb with hb | hb
    · cases hneg : l.negative with
      | false => simp [hneg] at hb
      | true =>
        obtain rfl : b = 45 := by simpa [hneg] using hb
        cases hdigit
    · cases hf : l.fraction with
      | none => simp [hf, fractionBytes] at hb
      | some fs =>
        rw [hf, Option.getD_some] at hfraction
        rw [hf, hfraction] at hb
        obtain rfl : b = 46 := by simpa [fractionBytes] using hb
        cases hdigit

/-- A text with the bytes of a numeral is one, if its exponent fits. -/
lemma isNumeral_of_bytes {n : Numeral} (hfits : l.ExponentFits) (h : numeralBytes n = l.bytes) :
    l.IsNumeral := by
  have hbytes : (ofNumeral n).bytes = l.bytes := (bytes_ofNumeral n).trans h
  constructor
  · rw [allDigits_ne_nil_iff, ← hbytes, ← allDigits_ne_nil_iff]
    exact n.ne_nil
  · have hscan := (l.scanNumber_bytes_iff l.scanned).mpr ⟨hfits, rfl⟩
    rw [← hbytes] at hscan
    obtain ⟨-, hsame⟩ := ((ofNumeral n).scanNumber_bytes_iff _).mp hscan
    exact congrArg Scanned.unread hsame

end LooseNumeral

/-- A text is known from its bytes. -/
lemma render_eq_of_bytes {n : Numeral} {text : String} (h : numeralBytes n = asBytes text) :
    n.render = text.toList := by
  have hrender : n.render = (String.ofList n.render).toList := String.toList_ofList.symm
  have hbytes := asBytes_eq_of_render hrender
  have htext : some (String.ofList n.render) = some text := by
    rw [← fromUtf8_asBytes, hbytes, h, fromUtf8_asBytes]
  rw [hrender, Option.some.inj htext]

/-- Digits that begin with one that is not zero are not all zeros. -/
lemma stripZeros_ne_nil {ds : List ℕ} (h : Normal ds) (hne : ds ≠ []) : stripZeros ds ≠ [] := by
  intro hnil
  obtain ⟨⟨k, hk⟩, -⟩ := stripZeros_spec ds
  rw [hnil, List.nil_append] at hk
  cases k with
  | zero => exact hne hk
  | succ k =>
    refine h.2 ?_
    rw [hk]
    rfl

namespace LooseNumeral

variable {l : LooseNumeral}

lemma normal_digits (l : LooseNumeral) : Normal l.digits := normal_significant l.digits_lt

/-- What is accepted is a number in range. -/
lemma Accepted.inRange (h : l.Accepted) : InRange l.scanned.value := by
  by_cases hzero : l.scanned.value = 0
  · exact .inl hzero
  have hne := (Scanned.value_eq_zero_iff l.normal_digits).not.mp hzero
  obtain ⟨d, ds, hs⟩ := List.exists_cons_of_ne_nil hne
  have hs' : stripZeros l.digits = d :: ds := hs
  have hstrip := l.normal_digits.stripZeros
  have hlast := (stripZeros_spec l.digits).2
  obtain ⟨-, hlen, hpoint⟩ := h
  rw [hs'] at hstrip hlast hlen
  refine .inr ⟨d, ds, l.point, by simpa using hstrip.2, hstrip.1, hlast, ?_, hlen, hpoint⟩
  rw [Scanned.abs_value, ← hs', scaled_stripZeros]
  rfl

/-- There are no more digits than bytes. -/
lemma length_le_bytes (l : LooseNumeral) :
    l.digits.length ≤ l.bytes.length ∧ (l.fraction.getD []).length ≤ l.bytes.length := by
  have hdigits : l.digits.length ≤ l.whole.length + (l.fraction.getD []).length := by
    rw [← List.length_append]
    exact (List.dropWhile_sublist _).length_le
  have hfraction : (l.fraction.getD []).length ≤ (fractionBytes l.fraction).length := by
    cases l.fraction with
    | none => exact le_rfl
    | some fs => simp [fractionBytes]
  rw [bytes, List.length_append, List.length_append, List.length_append, List.length_map]
  omega

/-- A number in range that is not zero is accepted: the exponent of a short text fits. -/
lemma accepted_of_inRange (hlen : l.bytes.length ≤ maxStringChars) (hne : l.digits ≠ [])
    (h : InRange l.scanned.value) : l.Accepted := by
  have hstripne := stripZeros_ne_nil l.normal_digits hne
  have hzero : l.scanned.value ≠ 0 := (Scanned.value_eq_zero_iff l.normal_digits).not.mpr hstripne
  obtain ⟨d, ds, p, hd, hds, hlast, hval, hcount, hlow, hhigh⟩ := h.resolve_left hzero
  obtain ⟨d', ds', hs⟩ := List.exists_cons_of_ne_nil hstripne
  have hstrip := l.normal_digits.stripZeros
  have hlast' := (stripZeros_spec l.digits).2
  rw [hs] at hstrip hlast'
  have hscaled : scaled (d' :: ds') l.point = scaled (d :: ds) p := by
    rw [← hs, scaled_stripZeros, ← hval, Scanned.abs_value]
    rfl
  obtain ⟨hsame, hpoint⟩ := eq_of_scaled_eq (by simpa using hstrip.2) hd hstrip.1 hds hlast' hlast hscaled
  refine ⟨fun e he => ?_, ?_, by omega, by omega⟩
  · -- the decimal point and the number of digits bound the exponent
    obtain ⟨hdigits, hfraction⟩ := l.length_le_bytes
    have hchars : maxStringChars = 172 := rfl
    have hexp : l.point = l.digits.length - (l.fraction.getD []).length + e.value := by
      rw [point, Option.mem_def.mp he, Option.elim_some]
    have hvalue : e.value = ofDigits e.digits ∨ e.value = -(ofDigits e.digits : ℤ) := by
      rw [Exponent.value]
      split
      · exact .inr rfl
      · exact .inl rfl
    omega
  · rw [hs, hsame]
    exact hcount

end LooseNumeral

/-- **Texts are accepted as they should be if and only if they are none of three kinds.** -/
theorem acceptsExactly_iff (text : String) (h : (asBytes (trim text)).length ≤ maxStringChars) :
    AcceptsExactly text ↔ ∀ l : LooseNumeral, l.bytes = asBytes (trim text) → l.Harmless := by
  constructor
  · rintro ⟨haccepts, hinside⟩ l hl
    refine ⟨fun hfits => ?_, fun hnumeral hdigits => ?_, fun hother hne haccepted => ?_⟩
    · by_contra hout
      refine hinside ⟨l.scanned, ?_, hout⟩
      rw [← hl]
      exact (l.scanNumber_bytes_iff _).mpr ⟨hfits, rfl⟩
    · obtain ⟨n, rfl⟩ := LooseNumeral.exists_ofNumeral hnumeral
      have hzero : n.value = 0 := by
        rw [← LooseNumeral.value_ofNumeral, Scanned.value_eq_zero_iff (LooseNumeral.normal_digits _)]
        exact congrArg stripZeros hdigits
      have hrender := render_eq_of_bytes ((LooseNumeral.bytes_ofNumeral n).symm.trans hl)
      exact ((LooseNumeral.isOk_iff h hl).mp (haccepts.mpr ⟨n, hrender, .inl hzero⟩)).2
    · obtain ⟨n, hrender, -⟩ := haccepts.mp ((LooseNumeral.isOk_iff h hl).mpr ⟨hne, haccepted⟩)
      have hbytes := (asBytes_eq_of_render hrender).symm.trans hl.symm
      exact hother (LooseNumeral.isNumeral_of_bytes haccepted.1 hbytes)
  · intro hharmless
    refine ⟨⟨?_, ?_⟩, ?_⟩
    · rintro ⟨b, hb⟩
      obtain ⟨sc, hscan, -⟩ := encodeOracleNumber_ok hb
      obtain ⟨l, hl⟩ := LooseNumeral.exists_of_scanNumber hscan
      obtain ⟨hne, haccepted⟩ := (LooseNumeral.isOk_iff h hl).mp ⟨b, hb⟩
      have hnumeral : l.IsNumeral := by
        by_contra hother
        exact (hharmless l hl).other hother hne haccepted
      obtain ⟨n, rfl⟩ := LooseNumeral.exists_ofNumeral hnumeral
      refine ⟨n, render_eq_of_bytes ((LooseNumeral.bytes_ofNumeral n).symm.trans hl), ?_⟩
      rw [← LooseNumeral.value_ofNumeral]
      exact haccepted.inRange
    · rintro ⟨n, hrender, hrange⟩
      have hl : (LooseNumeral.ofNumeral n).bytes = asBytes (trim text) :=
        (LooseNumeral.bytes_ofNumeral n).trans (asBytes_eq_of_render hrender).symm
      have hnumeral := LooseNumeral.isNumeral_ofNumeral n
      have hne : (LooseNumeral.ofNumeral n).bytes ≠ [] := by
        intro hnil
        obtain ⟨b, hb, -⟩ := (LooseNumeral.allDigits_ne_nil_iff _).mp hnumeral.1
        rw [hnil] at hb
        cases hb
      rw [← LooseNumeral.value_ofNumeral] at hrange
      refine (LooseNumeral.isOk_iff h hl).mpr ⟨hne, ?_⟩
      by_cases hzero : (LooseNumeral.ofNumeral n).digits = []
      · exact (hharmless _ hl).zero hnumeral hzero
      · exact LooseNumeral.accepted_of_inRange (hl ▸ h) hzero hrange
    · rintro ⟨sc, hscan, hout⟩
      obtain ⟨l, hl⟩ := LooseNumeral.exists_of_scanNumber hscan
      rw [← hl] at hscan
      obtain ⟨hfits, rfl⟩ := (l.scanNumber_bytes_iff sc).mp hscan
      exact hout ((hharmless l hl).inside hfits)

/-- The other kinds: something behind the exponent, zero with its decimal point out of range, and a sum
that leaves 32 bits. -/
example : encodeOracleNumber "1e5abc" = encodeOracleNumber "1e5" ∧
    encodeOracleNumber "0e200" =
      .error (.dataConversionError "Number out of range for Oracle NUMBER") ∧
    scanNumber (asBytes "1e2147483647") = .ok ⟨false, [1], 2 ^ 31, []⟩ := by decide +kernel

/-- A numeral of a number in range. -/
theorem acceptsExactly_fraction : AcceptsExactly "-12.5" := by
  have hlen : (asBytes (trim "-12.5")).length ≤ maxStringChars := by decide +kernel
  have hscan : scanNumber (asBytes (trim "-12.5")) = .ok ⟨true, [1, 2, 5], 2, []⟩ := by decide +kernel
  have hdigit : ∃ b ∈ (asBytes (trim "-12.5")).takeWhile fun b => !isExponentMark b,
      isAsciiDigit b = true := by decide +kernel
  refine (acceptsExactly_iff "-12.5" hlen).mpr fun l hl => ?_
  rw [← hl] at hscan hdigit
  obtain ⟨-, hscanned⟩ := (l.scanNumber_bytes_iff _).mp hscan
  have hpoint : 2 = l.point := congrArg Scanned.decimalPointIndex hscanned
  have hdigits : [1, 2, 5] = l.digits := congrArg Scanned.digits hscanned
  have hjunk : [] = l.junk := congrArg Scanned.unread hscanned
  refine ⟨fun _ => by omega, fun _ hnil => ?_, fun hother => ?_⟩
  · rw [hnil] at hdigits
    cases hdigits
  · exact absurd ⟨l.allDigits_ne_nil_iff.mpr hdigit, hjunk.symm⟩ hother

/-- A minus sign alone is accepted as zero. -/
theorem not_acceptsExactly_minus : ¬AcceptsExactly "-" := by
  rintro ⟨haccepts, -⟩
  have hzero : encodeOracleNumber "-" = .ok [128] := by decide +kernel
  have hdigit : ¬∃ b ∈ (asBytes (trim "-")).takeWhile fun b => !isExponentMark b,
      isAsciiDigit b = true := by decide +kernel
  obtain ⟨n, hrender, -⟩ := haccepts.mp ⟨_, hzero⟩
  refine hdigit ?_
  rw [asBytes_eq_of_render hrender, ← LooseNumeral.bytes_ofNumeral, ← LooseNumeral.allDigits_ne_nil_iff]
  exact n.ne_nil

end OracleRs
