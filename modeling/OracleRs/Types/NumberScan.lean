import Mathlib.Data.List.TakeWhile
import OracleRs.Types.Number

set_option relaxedAutoImplicit false
set_option autoImplicit false

/-!
# What the NUMBER encoder reads

The first part of the encoder of `OracleRs.Types.Number` on texts that are decimal numerals: it
reads sign, digits and exponent, and the digits with the index of the decimal point stand for the
number that the text denotes.

## Main definitions

* `OracleRs.numeralBytes` — the bytes of a numeral.
* `OracleRs.Normal` — digits without a leading zero.
* `OracleRs.Scanned.value` — the number that the encoder has read.

## Main results

* `OracleRs.scanNumber_bytes` — what is read of a numeral is its number.
* `OracleRs.denotes_unique` — a text that the encoder reads denotes at most one number.
-/

namespace OracleRs

open Decimal

/-! ## Numerals as bytes -/

/-- The byte of a digit. -/
def digitByte (d : ℕ) : UInt8 := UInt8.ofNat (48 + d)

lemma toNat_digitByte {d : ℕ} (h : d < 10) : (digitByte d).toNat = 48 + d := by
  rw [digitByte, UInt8.toNat_ofNat', Nat.mod_eq_of_lt (by omega)]

lemma isAsciiDigit_digitByte {d : ℕ} (h : d < 10) : isAsciiDigit (digitByte d) = true := by
  simp only [isAsciiDigit, UInt8.le_iff_toNat_le, toNat_digitByte h, Bool.and_eq_true,
    decide_eq_true_eq, UInt8.reduceToNat]
  omega

lemma digitOf_digitByte {d : ℕ} (h : d < 10) : digitOf (digitByte d) = d := by
  rw [digitOf, toNat_digitByte h]
  omega

/-- A digit is none of the other bytes of a numeral. -/
lemma digitByte_ne {d : ℕ} (h : d < 10) {b : UInt8} (hb : b.toNat < 48 ∨ 57 < b.toNat) :
    digitByte d ≠ b := by
  intro e
  rw [← e, toNat_digitByte h] at hb
  omega

lemma isExponentMark_digitByte {d : ℕ} (h : d < 10) : isExponentMark (digitByte d) = false := by
  simp [isExponentMark, digitByte_ne h]

lemma map_digitOf_digitByte {ds : List ℕ} (h : ∀ d ∈ ds, d < 10) :
    (ds.map digitByte).map digitOf = ds := by
  rw [List.map_map]
  exact (List.map_congr_left fun d hd => digitOf_digitByte (h d hd)).trans (List.map_id ds)

/-- The bytes of the sign of an exponent. -/
def signBytes (sign : Option Bool) : Bytes := sign.elim [] fun minus => [if minus then 45 else 43]

/-- The bytes of an exponent. -/
def exponentBytes (e : Exponent) : Bytes :=
  (if e.upper then 69 else 101) :: (signBytes e.sign ++ e.digits.map digitByte)

/-- The bytes behind the whole part of a numeral. -/
def tailBytes (n : Numeral) : Bytes :=
  (n.fraction.elim [] fun ds => 46 :: ds.map digitByte) ++ n.exponent.elim [] exponentBytes

/-- The bytes of a numeral. -/
def numeralBytes (n : Numeral) : Bytes :=
  (if n.negative then [45] else []) ++ (n.whole.map digitByte ++ tailBytes n)

/-- A digit is an ASCII character, and its code is the byte of the digit. -/
lemma toNat_digitChar {d : ℕ} (h : d < 10) : (digitChar d).toNat = 48 + d := by
  interval_cases d <;> rfl

/-- The characters of a numeral are ASCII characters. -/
lemma render_ascii (n : Numeral) : ∀ c ∈ n.render, c.toNat < 128 := by
  have hdigit : ∀ d, d < 10 → (digitChar d).toNat < 128 := by
    intro d hd
    rw [toNat_digitChar hd]
    omega
  have hmap : ∀ ds : List ℕ, (∀ d ∈ ds, d < 10) → ∀ c ∈ ds.map digitChar, c.toNat < 128 := by
    intro ds hds c hc
    obtain ⟨d, hd, rfl⟩ := List.mem_map.mp hc
    exact hdigit d (hds d hd)
  have hexp : ∀ e : Exponent, ∀ c ∈ e.render, c.toNat < 128 := by
    rintro ⟨upper, sign, ds, hds, hne⟩ c hc
    rcases List.mem_cons.mp hc with hc | hc
    · rw [hc]
      change (if upper = true then 'E' else 'e').toNat < 128
      cases upper <;> decide
    rcases List.mem_append.mp hc with hc | hc
    · rcases sign with _ | _ | _
      · cases hc
      · rw [List.mem_singleton.mp hc]
        decide
      · rw [List.mem_singleton.mp hc]
        decide
    · exact hmap ds hds c hc
  obtain ⟨negative, whole, fraction, exponent, hds, hne⟩ := n
  intro c hc
  rcases List.mem_append.mp hc with hc | hc
  · rcases List.mem_append.mp hc with hc | hc
    · rcases List.mem_append.mp hc with hc | hc
      · cases negative
        · cases hc
        · rw [List.mem_singleton.mp hc]
          decide
      · exact hmap whole (fun d hd => hds d (by simp [hd])) c hc
    · cases fraction with
      | none => cases hc
      | some ds =>
        rcases List.mem_cons.mp hc with rfl | hc
        · decide
        · exact hmap ds (fun d hd => hds d (by simp [hd])) c hc
  · cases exponent with
    | none => cases hc
    | some e => exact hexp e c hc

/-- The bytes of a numeral are the codes of its characters. -/
lemma map_render (n : Numeral) :
    (n.render.map fun c => UInt8.ofNat c.toNat) = numeralBytes n := by
  have hmap : ∀ ds : List ℕ, (∀ d ∈ ds, d < 10) →
      ((ds.map digitChar).map fun c => UInt8.ofNat c.toNat) = ds.map digitByte := by
    intro ds hds
    rw [List.map_map]
    exact List.map_congr_left fun d hd => by rw [Function.comp, toNat_digitChar (hds d hd)]; rfl
  obtain ⟨negative, whole, fraction, exponent, hds, hne⟩ := n
  have hwhole := hmap whole fun d hd => hds d (by simp [hd])
  have hsign : ((if negative then ['-'] else []).map fun c => UInt8.ofNat c.toNat) =
      if negative then [45] else [] := by
    cases negative <;> rfl
  have hfraction : ((fraction.elim [] fun ds => '.' :: ds.map digitChar).map
      fun c => UInt8.ofNat c.toNat) = fraction.elim [] fun ds => 46 :: ds.map digitByte := by
    cases fraction with
    | none => rfl
    | some ds =>
      have := hmap ds fun d hd => hds d (by simp [hd])
      simpa using this
  have hexponent : ((exponent.elim [] Exponent.render).map fun c => UInt8.ofNat c.toNat) =
      exponent.elim [] exponentBytes := by
    rcases exponent with _ | ⟨upper, sign, ds, hds, hne⟩
    · rfl
    · have hdigits := hmap ds hds
      have hs : ((sign.elim [] fun minus => [if minus then '-' else '+']).map
          fun c => UInt8.ofNat c.toNat) = signBytes sign := by
        rcases sign with _ | _ | _ <;> rfl
      have hu : UInt8.ofNat (if upper then 'E' else 'e').toNat = if upper then 69 else 101 := by
        cases upper <;> rfl
      simp only [Option.elim_some, Exponent.render, List.map_cons, List.map_append, hdigits, hs,
        hu, exponentBytes]
  simp only [Numeral.render, List.map_append, hsign, hwhole, hfraction, hexponent, numeralBytes,
    tailBytes, List.append_assoc]

/-- The bytes of a text that is a numeral. -/
lemma asBytes_eq_of_render {n : Numeral} {s : String} (h : n.render = s.toList) :
    asBytes s = numeralBytes n := by
  have hs : s = String.ofList n.render := by rw [h, String.ofList_toList]
  rw [hs, asBytes_ofList (render_ascii n), map_render]

/-! ## What the encoder reads -/

/-- Digits without a leading zero. -/
def Normal (ds : List ℕ) : Prop := (∀ d ∈ ds, d < 10) ∧ ds.head? ≠ some 0

/-- The digits from the first one that is not zero on. -/
def significant (ds : List ℕ) : List ℕ := ds.dropWhile (· = 0)

lemma significant_cons_zero (ds : List ℕ) : significant (0 :: ds) = significant ds := rfl

lemma significant_of_head {ds : List ℕ} (h : ds.head? ≠ some 0) : significant ds = ds := by
  cases ds with
  | nil => rfl
  | cons d ds => exact List.dropWhile_cons_of_neg (by simpa using h)

/-- Zeros that are dropped first are dropped anyway. -/
lemma significant_append (as bs : List ℕ) : significant (significant as ++ bs) = significant (as ++ bs) := by
  induction as with
  | nil => rfl
  | cons a as ih =>
    by_cases ha : a = 0
    · rw [ha, List.cons_append, significant_cons_zero, significant_cons_zero, ih]
    · have hhead : (a :: as).head? ≠ some 0 := by simpa using ha
      rw [significant_of_head hhead]

lemma normal_significant {ds : List ℕ} (h : ∀ d ∈ ds, d < 10) : Normal (significant ds) := by
  refine ⟨fun d hd => h d ((List.dropWhile_sublist _).subset hd), ?_⟩
  induction ds with
  | nil => simp [significant]
  | cons d ds ih =>
    by_cases hd : d = 0
    · rw [hd, significant_cons_zero]
      exact ih fun x hx => h x (by simp [hx])
    · rw [significant_of_head (by simpa using hd)]
      simpa using hd

lemma ofDigits_significant (ds : List ℕ) : ofDigits (significant ds) = ofDigits ds := by
  induction ds with
  | nil => rfl
  | cons d ds ih =>
    by_cases hd : d = 0
    · rw [hd, significant_cons_zero, ih, ofDigits_cons, Nat.zero_mul, Nat.zero_add]
    · rw [significant_of_head (by simpa using hd)]

/-- The loop over the whole part stops in front of the bytes that may stand there. -/
def Stops (rest : Bytes) : Prop := ∀ b ∈ rest.head?, b = 46 ∨ isExponentMark b

/-- Appending a digit writes no leading zero behind other digits. -/
lemma head?_concat {acc : List ℕ} {d : ℕ} (hacc : acc.head? ≠ some 0) (hz : d ≠ 0 ∨ acc ≠ []) :
    (acc ++ [d]).head? ≠ some 0 := by
  cases acc with
  | nil => simpa using hz
  | cons a as => simpa using hacc

/-- The digits before the decimal point. -/
lemma scanWhole_eq (ds acc : List ℕ) (rest : Bytes) (hds : ∀ d ∈ ds, d < 10)
    (hacc : acc.head? ≠ some 0) (hrest : Stops rest) :
    scanWhole acc (ds.map digitByte ++ rest) = .ok (significant (acc ++ ds), rest) := by
  induction ds generalizing acc with
  | nil =>
    rw [List.append_nil, significant_of_head hacc]
    cases rest with
    | nil => rfl
    | cons b rest =>
      have hb : b = 46 ∨ isExponentMark b := hrest b (by simp)
      rw [List.map_nil, List.nil_append, scanWhole, if_pos hb]
  | cons d ds ih =>
    have hd : d < 10 := hds d (by simp)
    have hstop : ¬ (digitByte d = 46 ∨ isExponentMark (digitByte d) = true) := by
      simp [isExponentMark_digitByte hd, digitByte_ne hd]
    rw [List.map_cons, List.cons_append, scanWhole, if_neg hstop,
      if_neg (by simp [isAsciiDigit_digitByte hd]), digitOf_digitByte hd]
    have hds' : ∀ x ∈ ds, x < 10 := fun x hx => hds x (by simp [hx])
    by_cases hz : d ≠ 0 ∨ acc ≠ []
    · rw [if_pos hz, ih (acc ++ [d]) hds' (head?_concat hacc hz), List.append_assoc]
      rfl
    · obtain ⟨rfl, rfl⟩ : d = 0 ∧ acc = [] := by tauto
      rw [if_neg hz, ih [] hds' hacc]
      rfl

/-- The digits behind the decimal point; the decimal point keeps its distance to the end of the digits
that are read. -/
lemma scanFraction_eq (ds : List ℕ) (s : DigitState) (rest : Bytes) (hds : ∀ d ∈ ds, d < 10)
    (hs : s.digits.head? ≠ some 0) (hrest : ∀ b ∈ rest.head?, isExponentMark b = true) :
    scanFraction s (ds.map digitByte ++ rest) = .ok (⟨significant (s.digits ++ ds),
      s.decimalPointIndex + (significant (s.digits ++ ds)).length - s.digits.length - ds.length⟩,
      rest) := by
  induction ds generalizing s with
  | nil =>
    rw [List.append_nil, significant_of_head hs]
    have hsame : scanFraction s rest = .ok (s, rest) := by
      cases rest with
      | nil => rfl
      | cons b rest =>
        have hb : isExponentMark b = true := hrest b (by simp)
        rw [scanFraction, if_pos hb]
    rw [List.map_nil, List.nil_append, hsame]
    simp
  | cons d ds ih =>
    have hd : d < 10 := hds d (by simp)
    rw [List.map_cons, List.cons_append, scanFraction,
      if_neg (by simp [isExponentMark_digitByte hd]),
      if_neg (by simp [isAsciiDigit_digitByte hd]), digitOf_digitByte hd]
    have hds' : ∀ x ∈ ds, x < 10 := fun x hx => hds x (by simp [hx])
    by_cases hz : d = 0 ∧ s.digits = []
    · rw [if_pos hz, ih { s with decimalPointIndex := s.decimalPointIndex - 1 } hds' hs]
      simp only [hz.1, hz.2, List.nil_append, significant_cons_zero, List.length_cons, List.length_nil]
      congr 3
      push_cast
      ring
    · rw [if_neg hz, ih { s with digits := s.digits ++ [d] } hds' (head?_concat hs (by tauto))]
      simp only [List.append_assoc, List.singleton_append, List.length_append, List.length_cons,
        List.length_nil]
      congr 3
      push_cast
      ring

/-- Digits carry no sign. -/
lemma splitSign_digits {ds : List ℕ} (hds : ∀ d ∈ ds, d < 10) :
    splitSign (ds.map digitByte) = (false, ds.map digitByte) := by
  cases ds with
  | nil => rfl
  | cons d ds =>
    have hd : d < 10 := hds d (by simp)
    rw [List.map_cons, splitSign, if_neg (digitByte_ne hd (by decide)),
      if_neg (digitByte_ne hd (by decide))]

/-- Digits are read as the number they denote, if it is in range. -/
lemma parseInt_digits {lo hi : ℤ} {ds : List ℕ} (hds : ∀ d ∈ ds, d < 10) (hne : ds ≠ []) :
    parseInt lo hi (ds.map digitByte) =
      if lo ≤ (ofDigits ds : ℤ) ∧ (ofDigits ds : ℤ) ≤ hi then some (ofDigits ds : ℤ) else none := by
  have hall : (ds.map digitByte).all isAsciiDigit = true := by
    simp only [List.all_map, List.all_eq_true, Function.comp]
    exact fun d hd => isAsciiDigit_digitByte (hds d hd)
  simp [parseInt, splitSign_digits hds, hne, hall, map_digitOf_digitByte hds]

/-- The digits of an exponent are taken up to a byte that is no digit. -/
lemma takeWhile_digits {ds : List ℕ} (hds : ∀ d ∈ ds, d < 10) {junk : Bytes}
    (hjunk : ∀ b ∈ junk.head?, isAsciiDigit b = false) :
    (ds.map digitByte ++ junk).takeWhile isAsciiDigit = ds.map digitByte ∧
      (ds.map digitByte ++ junk).dropWhile isAsciiDigit = junk := by
  have hall : ∀ b ∈ ds.map digitByte, isAsciiDigit b = true := by
    intro b hb
    obtain ⟨d, hd, rfl⟩ := List.mem_map.mp hb
    exact isAsciiDigit_digitByte (hds d hd)
  rw [List.takeWhile_append_of_pos hall, List.dropWhile_append_of_pos hall]
  cases junk with
  | nil => exact ⟨List.append_nil _, rfl⟩
  | cons b junk =>
    have hb : ¬isAsciiDigit b = true := by simpa using hjunk b (by simp)
    rw [List.takeWhile_cons_of_neg hb, List.dropWhile_cons_of_neg hb]
    exact ⟨List.append_nil _, rfl⟩

/-- The sign of an exponent is split off. -/
lemma splitSign_signBytes {ds : List ℕ} (hds : ∀ d ∈ ds, d < 10) (hne : ds ≠ []) (sign : Option Bool)
    (junk : Bytes) : splitSign (signBytes sign ++ (ds.map digitByte ++ junk)) =
      (decide (sign = some true), ds.map digitByte ++ junk) := by
  obtain ⟨d, ds, rfl⟩ := List.exists_cons_of_ne_nil hne
  have hd : d < 10 := hds d (by simp)
  rcases sign with _ | _ | _
  · rw [List.map_cons, List.cons_append]
    show splitSign (digitByte d :: _) = _
    rw [splitSign, if_neg (digitByte_ne hd (by decide)), if_neg (digitByte_ne hd (by decide))]
    rfl
  · rfl
  · rfl

/-- An exponent is read up to its end, if it is in range. -/
lemma scanExponent_eq (e : Exponent) {junk : Bytes}
    (hjunk : ∀ b ∈ junk.head?, isAsciiDigit b = false) :
    scanExponent (exponentBytes e ++ junk) =
      if (ofDigits e.digits : ℤ) ≤ 2 ^ 31 - 1 then .ok (e.value, junk)
      else .error (.dataConversionError "Invalid exponent") := by
  obtain ⟨upper, sign, ds, hds, hne⟩ := e
  have hmark : isExponentMark (if upper = true then 69 else 101) = true := by cases upper <;> rfl
  obtain ⟨htake, hdrop⟩ := takeWhile_digits hds hjunk
  rw [exponentBytes, List.cons_append, List.append_assoc, scanExponent, if_neg (by simp [hmark])]
  simp only [splitSign_signBytes hds hne, htake, hdrop, parseInt_digits hds hne]
  rw [if_neg (by simpa using hne)]
  have hlow : (-2 ^ 31 : ℤ) ≤ ofDigits ds := by omega
  by_cases hrange : (ofDigits ds : ℤ) ≤ 2 ^ 31 - 1
  · rw [if_pos ⟨hlow, hrange⟩, if_pos hrange]
    by_cases hs : sign = some true <;> simp [Exponent.value, hs]
  · rw [if_neg fun h => hrange h.2, if_neg hrange]

/-- An exponent that is read is read up to its end. -/
lemma scanExponent_bytes {e : Exponent} {r : ℤ × Bytes}
    (h : scanExponent (exponentBytes e) = .ok r) : r = (e.value, []) := by
  have hread := scanExponent_eq e (by simp : ∀ b ∈ ([] : Bytes).head?, isAsciiDigit b = false)
  rw [List.append_nil, h] at hread
  split at hread
  · exact Except.ok.inj hread
  · cases hread

/-- The bytes behind the whole part begin with a point or an exponent mark. -/
lemma stops_tailBytes (n : Numeral) : Stops (tailBytes n) := by
  have hexp : Stops (n.exponent.elim [] exponentBytes) := by
    rcases n.exponent with _ | ⟨upper, sign, ds, hds, hne⟩
    · simp [Stops]
    · intro b hb
      right
      have : b = if upper then 69 else 101 := by simpa [exponentBytes, eq_comm] using hb
      rw [this]
      cases upper <;> rfl
  unfold tailBytes
  cases n.fraction with
  | none => simpa using hexp
  | some ds => simp [Stops]

/-- The number that the digits and the decimal point of the encoder stand for. -/
def Scanned.value (sc : Scanned) : ℚ :=
  if sc.isNegative then -scaled sc.digits sc.decimalPointIndex
  else scaled sc.digits sc.decimalPointIndex

/-- The bytes of the part of a numeral behind its decimal point. -/
def fractionBytes (fraction : Option (List ℕ)) : Bytes := fraction.elim [] fun ds => 46 :: ds.map digitByte

/-- The digits of a numeral and the place of its decimal point, up to the exponent. -/
lemma scanDigits_eq {whole : List ℕ} {fraction : Option (List ℕ)} {rest : Bytes}
    (h : ∀ d ∈ whole ++ fraction.getD [], d < 10) (hrest : ∀ b ∈ rest.head?, isExponentMark b = true) :
    scanDigits (whole.map digitByte ++ (fractionBytes fraction ++ rest)) =
      .ok (⟨significant (whole ++ fraction.getD []),
        (significant (whole ++ fraction.getD [])).length - (fraction.getD []).length⟩, rest) := by
  have hwhole : ∀ d ∈ whole, d < 10 := fun d hd => h d (by simp [hd])
  cases fraction with
  | none =>
    have hstops : Stops rest := fun b hb => .inr (hrest b hb)
    have hhead : rest.head? ≠ some 46 := by
      intro he
      have := hrest 46 he
      cases this
    have hscan := scanWhole_eq whole [] rest hwhole (by simp) hstops
    rw [List.nil_append] at hscan
    simp only [fractionBytes, Option.elim_none, List.nil_append, Option.getD_none, List.append_nil,
      scanDigits, hscan, bind, Except.bind, if_neg hhead, List.length_nil, Nat.cast_zero, sub_zero]
    rfl
  | some fs =>
    have hfs : ∀ d ∈ fs, d < 10 := fun d hd => h d (by simp [hd])
    have hbytes : fractionBytes (some fs) ++ rest = 46 :: (fs.map digitByte ++ rest) := rfl
    have hstops : Stops (46 :: (fs.map digitByte ++ rest)) := fun b hb => .inl (by simpa using hb.symm)
    have hscan := scanWhole_eq whole [] _ hwhole (by simp) hstops
    have hfrac := scanFraction_eq fs ⟨significant whole, (significant whole).length⟩ rest hfs
      (normal_significant hwhole).2 hrest
    rw [List.nil_append] at hscan
    simp only [significant_append] at hfrac
    rw [hbytes]
    simp only [scanDigits, hscan, bind, Except.bind, List.head?_cons, if_true, List.tail_cons, hfrac,
      Option.getD_some]
    congr 3
    ring

/-- The digits of a numeral and its decimal point, up to the exponent. -/
lemma scanDigits_bytes (n : Numeral) :
    ∃ s : DigitState, Normal s.digits ∧
      (∀ e : ℤ, scaled s.digits (s.decimalPointIndex + e) =
        ofDigits (n.whole ++ n.fractionDigits) * (10 : ℚ) ^ (e - n.fractionDigits.length)) ∧
      scanDigits (n.whole.map digitByte ++ tailBytes n) =
        .ok (s, n.exponent.elim [] exponentBytes) := by
  have hmark : ∀ b ∈ (n.exponent.elim [] exponentBytes).head?, isExponentMark b = true := by
    rcases n.exponent with _ | ⟨upper, sign, es, hes, hne⟩
    · simp
    · intro b hb
      have : b = if upper then 69 else 101 := by simpa [exponentBytes, eq_comm] using hb
      rw [this]
      cases upper <;> rfl
  refine ⟨_, normal_significant n.digits_lt, fun e => ?_, scanDigits_eq n.digits_lt hmark⟩
  rw [scaled, ofDigits_significant, ← Numeral.fractionDigits]
  congr 2
  ring

/-- There is no minus sign in front of digits or of what may stand behind them. -/
lemma head?_ne_minus {whole : List ℕ} {rest : Bytes} (hwhole : ∀ d ∈ whole, d < 10) (hrest : Stops rest) :
    (whole.map digitByte ++ rest).head? ≠ some 45 := by
  cases whole with
  | nil =>
    intro h
    rcases hrest 45 h with h | h <;> cases h
  | cons d ds =>
    have hd : d < 10 := hwhole d (by simp)
    simp [digitByte_ne hd]

/-- The encoder reads the sign and the digits of a numeral, and goes on with its exponent. -/
lemma scanNumber_eq (n : Numeral) :
    ∃ s : DigitState, Normal s.digits ∧
      (∀ e : ℤ, scaled s.digits (s.decimalPointIndex + e) =
        ofDigits (n.whole ++ n.fractionDigits) * (10 : ℚ) ^ (e - n.fractionDigits.length)) ∧
      scanNumber (numeralBytes n) = (scanExponent (n.exponent.elim [] exponentBytes)).map
        fun r => ⟨n.negative, s.digits, s.decimalPointIndex + r.1, r.2⟩ := by
  obtain ⟨s, hnormal, hval, hscan⟩ := scanDigits_bytes n
  have hsign : decide ((numeralBytes n).head? = some 45) = n.negative ∧
      (if (numeralBytes n).head? = some 45 then (numeralBytes n).tail else numeralBytes n) =
        n.whole.map digitByte ++ tailBytes n := by
    cases hneg : n.negative with
    | true => simp [numeralBytes, hneg]
    | false =>
      have hwhole : ∀ d ∈ n.whole, d < 10 := fun d hd => n.digits_lt d (by simp [hd])
      have hhead := head?_ne_minus hwhole (stops_tailBytes n)
      have hbytes : numeralBytes n = n.whole.map digitByte ++ tailBytes n := by
        simp [numeralBytes, hneg]
      rw [hbytes]
      exact ⟨decide_eq_false hhead, if_neg hhead⟩
  obtain ⟨hdec, hbytes⟩ := hsign
  refine ⟨s, hnormal, hval, ?_⟩
  simp only [scanNumber, hbytes, hscan, hdec, bind, Except.bind]
  cases scanExponent (n.exponent.elim [] exponentBytes) <;> rfl

/-- What the encoder reads of a numeral, if it accepts it: all of it, with its number. -/
lemma scanNumber_bytes {n : Numeral} {sc : Scanned} (h : scanNumber (numeralBytes n) = .ok sc) :
    sc.unread = [] ∧ Normal sc.digits ∧ sc.value = n.value := by
  obtain ⟨s, hnormal, hval, hscan⟩ := scanNumber_eq n
  have hexp : ∀ r, scanExponent (n.exponent.elim [] exponentBytes) = .ok r →
      r = (n.exponentValue, []) := by
    intro r hr
    cases he : n.exponent with
    | none =>
      rw [he] at hr
      cases hr
      simp [Numeral.exponentValue, he]
    | some e =>
      rw [he] at hr
      rw [scanExponent_bytes hr]
      simp [Numeral.exponentValue, he]
  rw [hscan] at h
  cases hr : scanExponent (n.exponent.elim [] exponentBytes) with
  | error e => rw [hr] at h; cases h
  | ok r =>
    rw [hr] at h
    obtain rfl := hexp r hr
    cases h
    refine ⟨rfl, hnormal, ?_⟩
    simp only [Scanned.value, hval, Numeral.value, Numeral.magnitude]

/-- A numeral without an exponent is always read. -/
lemma scanNumber_of_exponent_none {n : Numeral} (h : n.exponent = none) :
    ∃ sc, scanNumber (numeralBytes n) = .ok sc := by
  obtain ⟨s, -, -, hscan⟩ := scanNumber_eq n
  rw [hscan, h]
  exact ⟨_, rfl⟩

/-- A text that the encoder reads is a numeral of at most one number. -/
lemma denotes_unique {s : String} {sc : Scanned} (h : scanNumber (asBytes s) = .ok sc) {v : ℚ}
    (hv : Denotes s v) : v = sc.value := by
  obtain ⟨n, hrender, rfl⟩ := hv
  rw [asBytes_eq_of_render hrender] at h
  exact (scanNumber_bytes h).2.2.symm

end OracleRs
