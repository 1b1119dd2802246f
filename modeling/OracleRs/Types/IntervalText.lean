import OracleRs.Lib.Overflow
import OracleRs.Types.Integer
import OracleRs.Types.Interval
import OracleRs.Types.Oson

set_option relaxedAutoImplicit false
set_option autoImplicit false

/-!
# Texts of intervals

`Display` for the intervals of `types/interval.rs`. The parts are written by their absolute value behind
one sign, and the smallest `i32`, to which four zero bytes are decoded, has no absolute value.

The parts of a text can be told apart by the characters between them, so that intervals of one sign have
different texts.

## Main definitions

* `OracleRs.OracleIntervalYM.display`, `OracleRs.OracleIntervalDS.display` — the texts.
* `OracleRs.OracleIntervalYM.OneSigned`, `OracleRs.OracleIntervalDS.OneSigned` — no two parts have
  different signs.

## Main results

* `OracleRs.zeroPadded_inj` — a number is known from its text.
* `OracleRs.interval_display_iff` — which decoded intervals have a text, and that it tells them apart.
-/

namespace OracleRs

open Overflow Decimal Oson

/-! ## Texts -/

/-- `Display` for `OracleIntervalYM`. -/
def OracleIntervalYM.display (build : Build) (interval : OracleIntervalYM) : Except Error String := do
  let negative := interval.years < 0 ∨ interval.months < 0
  let years ← build.absI32 .arithmeticOverflow interval.years
  let months ← build.absI32 .arithmeticOverflow interval.months
  return (if negative then "-" else "+") ++ zeroPadded 2 years.toInt ++ "-" ++
    zeroPadded 2 months.toInt

/-- `Display` for `OracleIntervalDS`. -/
def OracleIntervalDS.display (build : Build) (interval : OracleIntervalDS) : Except Error String := do
  let negative := interval.days < 0 ∨ interval.hours < 0 ∨ interval.minutes < 0 ∨
    interval.seconds < 0 ∨ interval.fseconds < 0
  let days ← build.absI32 .arithmeticOverflow interval.days
  let hours ← build.absI32 .arithmeticOverflow interval.hours
  let minutes ← build.absI32 .arithmeticOverflow interval.minutes
  let seconds ← build.absI32 .arithmeticOverflow interval.seconds
  let fseconds ← build.absI32 .arithmeticOverflow interval.fseconds
  let sign := if negative then "-" else "+"
  if fseconds = 0 then
    return sign ++ zeroPadded 2 days.toInt ++ " " ++ zeroPadded 2 hours.toInt ++ ":" ++
      zeroPadded 2 minutes.toInt ++ ":" ++ zeroPadded 2 seconds.toInt
  else
    return sign ++ zeroPadded 2 days.toInt ++ " " ++ zeroPadded 2 hours.toInt ++ ":" ++
      zeroPadded 2 minutes.toInt ++ ":" ++ zeroPadded 2 seconds.toInt ++ "." ++
      zeroPadded 9 fseconds.toInt

/-- An interval as a test of the source has it. -/
example : (OracleIntervalDS.mk 11 10 9 8 555000000).display .checked = .ok "+11 10:09:08.555000000" := by
  decide +kernel

/-! ## Numbers -/

/-- The text of a number is its sign and its digits. -/
lemma exists_zeroPadded (width : ℕ) (n : ℤ) :
    ∃ ds : List ℕ, (zeroPadded width n).toList = (if n < 0 then ['-'] else []) ++ ds.map digitChar ∧
      (∀ d ∈ ds, d < 10) ∧ ofDigits ds = n.natAbs := by
  obtain ⟨ds, hds, hlt, -, hval⟩ := exists_toDigits_eq n.natAbs
  refine ⟨List.replicate (width - (if n < 0 then "-" else "").length - (toString n.natAbs).length) 0 ++ ds,
    ?_, ?_, ?_⟩
  · have hzeros : ∀ k, List.replicate k '0' = (List.replicate k 0).map digitChar := by
      intro k
      rw [List.map_replicate]
      rfl
    have hdigits : (toString n.natAbs).toList = ds.map digitChar := by
      rw [← hds]
      exact Nat.toList_repr
    rw [zeroPadded, String.toList_append, String.toList_append, String.toList_ofList, hzeros, hdigits,
      List.map_append, List.append_assoc]
    split_ifs <;> rfl
  · intro d hd
    rcases List.mem_append.mp hd with hd | hd
    · rw [List.eq_of_mem_replicate hd]
      decide
    · exact hlt d hd
  · rw [ofDigits_append, ofDigits_replicate_zero, Nat.zero_mul, Nat.zero_add, hval]

/-- There are only digits and a sign in the text of a number. -/
lemma not_mem_zeroPadded {width : ℕ} {n : ℤ} {c : Char} (hc : c.toNat < 48 ∨ 57 < c.toNat)
    (hsign : c = '-' → 0 ≤ n) : c ∉ (zeroPadded width n).toList := by
  obtain ⟨ds, hds, hlt, -⟩ := exists_zeroPadded width n
  rw [hds, List.mem_append, not_or]
  refine ⟨?_, ?_⟩
  · split_ifs with hneg
    · rw [List.mem_singleton]
      exact fun h => not_le.mpr hneg (hsign h)
    · exact List.not_mem_nil
  · rw [List.mem_map]
    rintro ⟨d, hd, rfl⟩
    have hd' := hlt d hd
    rw [toNat_digitChar hd'] at hc
    omega

/-- A number is known from its text. -/
lemma zeroPadded_inj {width : ℕ} {n m : ℤ} (h : zeroPadded width n = zeroPadded width m) : n = m := by
  obtain ⟨ds, hds, hlt, hval⟩ := exists_zeroPadded width n
  obtain ⟨ds', hds', hlt', hval'⟩ := exists_zeroPadded width m
  have hsign : n < 0 ↔ m < 0 := by
    have hmem : ∀ {k : ℤ}, '-' ∈ (zeroPadded width k).toList → k < 0 := by
      intro k hk
      by_contra hpos
      exact not_mem_zeroPadded (by decide) (fun _ => not_lt.mp hpos) hk
    constructor
    · intro hneg
      rw [if_pos hneg] at hds
      exact hmem (by rw [← h, hds]; simp)
    · intro hneg
      rw [if_pos hneg] at hds'
      exact hmem (by rw [h, hds']; simp)
  have hmap : ds.map digitChar = ds'.map digitChar := by
    rw [h, hds'] at hds
    simp only [hsign] at hds
    exact (List.append_cancel_left hds).symm
  have hback : ∀ l : List ℕ, (∀ d ∈ l, d < 10) → (l.map digitChar).map (fun c => c.toNat - 48) = l := by
    intro l hl
    rw [List.map_map]
    refine (List.map_congr_left fun d hd => ?_).trans (List.map_id l)
    rw [Function.comp, toNat_digitChar (hl d hd)]
    exact Nat.add_sub_cancel_left 48 d
  have hsame : ds = ds' := by rw [← hback ds hlt, hmap, hback ds' hlt']
  rw [hsame, hval'] at hval
  omega

/-! ## Absolute values -/

lemma abs_of_nonneg {a : Int32} (h : 0 ≤ a) : a.abs = a := by
  have hpos : 0 ≤ a.toInt := by simpa using Int32.le_iff_toInt_le.mp h
  have hmsb : a.toBitVec.msb = false := by
    rw [BitVec.msb_eq_toInt]
    exact decide_eq_false (not_lt.mpr hpos)
  apply Int32.toBitVec_inj.mp
  change a.toBitVec.abs = _
  rw [BitVec.abs_eq, hmsb]
  rfl

lemma abs_of_nonpos {a : Int32} (h : a ≤ 0) : a.abs = -a := by
  by_cases hzero : a = 0
  · subst hzero
    rfl
  have hneg : a.toInt < 0 := by
    have hle : a.toInt ≤ 0 := by simpa using Int32.le_iff_toInt_le.mp h
    have hne : a.toInt ≠ 0 := fun e => hzero (Int32.toInt_inj.mp e)
    omega
  have hmsb : a.toBitVec.msb = true := by
    rw [BitVec.msb_eq_toInt]
    exact decide_eq_true hneg
  apply Int32.toBitVec_inj.mp
  change a.toBitVec.abs = _
  rw [BitVec.abs_eq, hmsb]
  rfl

/-- Only the smallest number has a negative absolute value. -/
lemma toInt_abs_nonneg {a : Int32} (h : a ≠ Int32.minValue) : 0 ≤ a.abs.toInt := by
  have hne : a.toBitVec ≠ BitVec.intMin 32 := fun e => h (Int32.toBitVec_inj.mp e)
  change 0 ≤ a.toBitVec.abs.toInt
  rw [BitVec.toInt_abs_eq_natAbs, if_neg hne]
  exact Int.natCast_nonneg _

lemma eq_abs_of_absI32 {build : Build} {a b : Int32}
    (h : build.absI32 Error.arithmeticOverflow a = .ok b) : b = a.abs := by
  rw [Build.absI32, Build.result] at h
  split at h
  · cases h
    rfl
  · cases h

lemma absI32_eq {build : Build} {a : Int32} (h : a ≠ Int32.minValue) :
    build.absI32 Error.arithmeticOverflow a = .ok a.abs :=
  Build.result_of h

lemma ne_minValue_of_absI32 {a b : Int32}
    (h : Build.checked.absI32 Error.arithmeticOverflow a = .ok b) : a ≠ Int32.minValue := by
  rintro rfl
  cases h

/-- A part is on the side of zero that a sign says. -/
def SignedBy (negative : Prop) (a : Int32) : Prop := (negative → a ≤ 0) ∧ (¬negative → 0 ≤ a)

/-- A part is known from its absolute value and its sign. -/
lemma SignedBy.eq_of_abs {a b : Int32} {negative : Prop} (ha : SignedBy negative a)
    (hb : SignedBy negative b) (h : a.abs = b.abs) : a = b := by
  by_cases hneg : negative
  · rw [abs_of_nonpos (ha.1 hneg), abs_of_nonpos (hb.1 hneg)] at h
    exact Int32.neg_inj.mp h
  · rwa [abs_of_nonneg (ha.2 hneg), abs_of_nonneg (hb.2 hneg)] at h

/-- A part is known from the text of its absolute value and its sign. -/
lemma SignedBy.eq_of_text {width : ℕ} {a b : Int32} {negative : Prop} (ha : SignedBy negative a)
    (hb : SignedBy negative b)
    (h : (zeroPadded width a.abs.toInt).toList = (zeroPadded width b.abs.toInt).toList) : a = b :=
  ha.eq_of_abs hb (Int32.toInt_inj.mp (zeroPadded_inj (String.toList_injective h)))

/-- Parts that have no different signs have the sign that says whether one of them is negative. -/
lemma signedBy_of {parts : List Int32} (h : (∀ a ∈ parts, 0 ≤ a) ∨ ∀ a ∈ parts, a ≤ 0) {a : Int32}
    (ha : a ∈ parts) : SignedBy (∃ b ∈ parts, b < 0) a := by
  constructor
  · rintro ⟨b, hb, hneg⟩
    rcases h with h | h
    · exact absurd hneg (Int32.not_lt.mpr (h b hb))
    · exact h a ha
  · intro hnone
    exact Int32.not_lt.mp fun hneg => hnone ⟨a, ha, hneg⟩

/-! ## Separators -/

/-- Texts are split at the first separator. -/
lemma eq_of_append_sep {a a' b b' : List Char} {c : Char} (ha : c ∉ a) (ha' : c ∉ a')
    (h : a ++ c :: b = a' ++ c :: b') : a = a' ∧ b = b' := by
  induction a generalizing a' with
  | nil =>
    cases a' with
    | nil => exact ⟨rfl, List.tail_eq_of_cons_eq h⟩
    | cons x a' =>
      have hx : c = x := List.head_eq_of_cons_eq h
      exact absurd (hx ▸ List.mem_cons_self) ha'
  | cons y a ih =>
    cases a' with
    | nil =>
      have hy : y = c := List.head_eq_of_cons_eq h
      exact absurd (hy ▸ List.mem_cons_self) ha
    | cons x a' =>
      have htail := ih (fun hc => ha (List.mem_cons_of_mem _ hc)) (fun hc => ha' (List.mem_cons_of_mem _ hc))
        (List.tail_eq_of_cons_eq h)
      have hhead : y = x := List.head_eq_of_cons_eq h
      exact ⟨by rw [hhead, htail.1], htail.2⟩

/-- Texts are split at the last separator. -/
lemma eq_of_append_last_sep {a a' b b' : List Char} {c : Char} (hb : c ∉ b) (hb' : c ∉ b')
    (h : a ++ c :: b = a' ++ c :: b') : a = a' ∧ b = b' := by
  have hrev : b.reverse ++ c :: a.reverse = b'.reverse ++ c :: a'.reverse := by
    have hreverse := congrArg List.reverse h
    simpa using hreverse
  obtain ⟨hb, ha⟩ := eq_of_append_sep (by simpa using hb) (by simpa using hb') hrev
  exact ⟨List.reverse_injective ha, List.reverse_injective hb⟩

/-- Texts with the same sign are of intervals that both have a negative part, or both have none. -/
lemma negative_iff_of_sign {p q : Prop} [Decidable p] [Decidable q] {a b : List Char}
    (h : (if p then '-' else '+') :: a = (if q then '-' else '+') :: b) : (p ↔ q) ∧ a = b := by
  refine ⟨?_, List.tail_eq_of_cons_eq h⟩
  have hhead := List.head_eq_of_cons_eq h
  split_ifs at hhead with hp hq hq
  · exact iff_of_true hp hq
  · exact absurd hhead (by decide)
  · exact absurd hhead (by decide)
  · exact iff_of_false hp hq

/-! ## Years and months -/

namespace OracleIntervalYM

variable {build : Build} {i j : OracleIntervalYM} {t : String}

/-- One of the parts is negative. -/
abbrev Negative (i : OracleIntervalYM) : Prop := i.years < 0 ∨ i.months < 0

/-- No two parts have different signs. -/
def OneSigned (i : OracleIntervalYM) : Prop :=
  (0 ≤ i.years ∧ 0 ≤ i.months) ∨ (i.years ≤ 0 ∧ i.months ≤ 0)

/-- The characters of the text, with absolute values that wrap around. -/
def chars (i : OracleIntervalYM) : List Char :=
  (if i.Negative then '-' else '+') ::
    ((zeroPadded 2 i.years.abs.toInt).toList ++ '-' :: (zeroPadded 2 i.months.abs.toInt).toList)

lemma toList_of_display (h : i.display build = .ok t) : t.toList = i.chars := by
  obtain ⟨years, hyears, h⟩ := exists_of_ok_bind h
  obtain ⟨months, hmonths, h⟩ := exists_of_ok_bind h
  cases h
  rw [eq_abs_of_absI32 hyears, eq_abs_of_absI32 hmonths, chars]
  simp only [String.toList_append]
  split_ifs <;> simp

/-- The interval has a text if the years have an absolute value. -/
lemma exists_display_iff (hmonths : i.months ≠ Int32.minValue) :
    (∃ t, i.display .checked = .ok t) ↔ i.years ≠ Int32.minValue := by
  constructor
  · rintro ⟨t, h⟩
    obtain ⟨years, hyears, -⟩ := exists_of_ok_bind h
    exact ne_minValue_of_absI32 hyears
  · intro hyears
    rw [display, absI32_eq hyears, absI32_eq hmonths]
    exact ⟨_, rfl⟩

/-- Each part has the sign of the interval. -/
lemma OneSigned.signedBy (h : i.OneSigned) :
    SignedBy i.Negative i.years ∧ SignedBy i.Negative i.months := by
  have hneg : i.Negative ↔ ∃ b ∈ [i.years, i.months], b < 0 := by simp [Negative]
  rw [OneSigned] at h
  rw [hneg]
  exact ⟨signedBy_of (by simpa using h) (by simp), signedBy_of (by simpa using h) (by simp)⟩

/-- An interval of one sign is known from its text. -/
lemma eq_of_chars (hi : i.OneSigned) (hj : j.OneSigned) (hi' : i.months ≠ Int32.minValue)
    (hj' : j.months ≠ Int32.minValue) (h : i.chars = j.chars) : i = j := by
  obtain ⟨hneg, h⟩ := negative_iff_of_sign h
  have hsep : ∀ {a : Int32}, a ≠ Int32.minValue → '-' ∉ (zeroPadded 2 a.abs.toInt).toList :=
    fun ha => not_mem_zeroPadded (by decide) fun _ => toInt_abs_nonneg ha
  obtain ⟨hyears, hmonths⟩ := eq_of_append_last_sep (hsep hi') (hsep hj') h
  have hsign := hj.signedBy
  rw [← hneg] at hsign
  obtain ⟨years, months⟩ := i
  obtain ⟨years', months'⟩ := j
  obtain rfl : years = years' := hi.signedBy.1.eq_of_text hsign.1 hyears
  obtain rfl : months = months' := hi.signedBy.2.eq_of_text hsign.2 hmonths
  rfl

end OracleIntervalYM

/-! ## Days to seconds -/

namespace OracleIntervalDS

variable {build : Build} {i j : OracleIntervalDS} {t : String}

/-- One of the parts is negative. -/
abbrev Negative (i : OracleIntervalDS) : Prop :=
  i.days < 0 ∨ i.hours < 0 ∨ i.minutes < 0 ∨ i.seconds < 0 ∨ i.fseconds < 0

/-- No two parts have different signs. -/
def OneSigned (i : OracleIntervalDS) : Prop :=
  (0 ≤ i.days ∧ 0 ≤ i.hours ∧ 0 ≤ i.minutes ∧ 0 ≤ i.seconds ∧ 0 ≤ i.fseconds) ∨
    (i.days ≤ 0 ∧ i.hours ≤ 0 ∧ i.minutes ≤ 0 ∧ i.seconds ≤ 0 ∧ i.fseconds ≤ 0)

/-- The characters of the fraction, which is left out when it is zero. -/
def fraction (fseconds : Int32) : List Char :=
  if fseconds = 0 then [] else '.' :: (zeroPadded 9 fseconds.toInt).toList

/-- The characters of the text, with absolute values that wrap around. -/
def chars (i : OracleIntervalDS) : List Char :=
  (if i.Negative then '-' else '+') ::
    ((zeroPadded 2 i.days.abs.toInt).toList ++ ' ' ::
      ((zeroPadded 2 i.hours.abs.toInt).toList ++ ':' ::
        ((zeroPadded 2 i.minutes.abs.toInt).toList ++ ':' ::
          ((zeroPadded 2 i.seconds.abs.toInt).toList ++ fraction i.fseconds.abs))))

lemma toList_of_display (h : i.display build = .ok t) : t.toList = i.chars := by
  obtain ⟨days, hdays, h⟩ := exists_of_ok_bind h
  obtain ⟨hours, hhours, h⟩ := exists_of_ok_bind h
  obtain ⟨minutes, hminutes, h⟩ := exists_of_ok_bind h
  obtain ⟨seconds, hseconds, h⟩ := exists_of_ok_bind h
  obtain ⟨fseconds, hfseconds, h⟩ := exists_of_ok_bind h
  obtain rfl := eq_abs_of_absI32 hdays
  obtain rfl := eq_abs_of_absI32 hhours
  obtain rfl := eq_abs_of_absI32 hminutes
  obtain rfl := eq_abs_of_absI32 hseconds
  obtain rfl := eq_abs_of_absI32 hfseconds
  rw [chars, fraction]
  split_ifs at h ⊢ with hzero <;> cases h <;> simp [String.toList_append]

/-- The interval has a text if the days and the fraction have absolute values. -/
lemma exists_display_iff (hhours : i.hours ≠ Int32.minValue) (hminutes : i.minutes ≠ Int32.minValue)
    (hseconds : i.seconds ≠ Int32.minValue) :
    (∃ t, i.display .checked = .ok t) ↔ i.days ≠ Int32.minValue ∧ i.fseconds ≠ Int32.minValue := by
  constructor
  · rintro ⟨t, h⟩
    obtain ⟨days, hdays, h⟩ := exists_of_ok_bind h
    obtain ⟨hours, -, h⟩ := exists_of_ok_bind h
    obtain ⟨minutes, -, h⟩ := exists_of_ok_bind h
    obtain ⟨seconds, -, h⟩ := exists_of_ok_bind h
    obtain ⟨fseconds, hfseconds, -⟩ := exists_of_ok_bind h
    exact ⟨ne_minValue_of_absI32 hdays, ne_minValue_of_absI32 hfseconds⟩
  · rintro ⟨hdays, hfseconds⟩
    rw [display, absI32_eq hdays, absI32_eq hhours, absI32_eq hminutes, absI32_eq hseconds,
      absI32_eq hfseconds]
    by_cases hzero : i.fseconds.abs = 0
    · exact ⟨_, if_pos hzero⟩
    · exact ⟨_, if_neg hzero⟩

/-- Each part has the sign of the interval. -/
lemma OneSigned.signedBy (h : i.OneSigned) :
    SignedBy i.Negative i.days ∧ SignedBy i.Negative i.hours ∧ SignedBy i.Negative i.minutes ∧
      SignedBy i.Negative i.seconds ∧ SignedBy i.Negative i.fseconds := by
  have hneg : i.Negative ↔ ∃ b ∈ [i.days, i.hours, i.minutes, i.seconds, i.fseconds], b < 0 := by
    simp [Negative]
  have hparts : (∀ a ∈ [i.days, i.hours, i.minutes, i.seconds, i.fseconds], 0 ≤ a) ∨
      ∀ a ∈ [i.days, i.hours, i.minutes, i.seconds, i.fseconds], a ≤ 0 := by
    simpa [OneSigned] using h
  rw [hneg]
  exact ⟨signedBy_of hparts (by simp), signedBy_of hparts (by simp), signedBy_of hparts (by simp),
    signedBy_of hparts (by simp), signedBy_of hparts (by simp)⟩

/-- The seconds and the fraction are known from their text. -/
lemma eq_of_fraction {a a' : List Char} {b b' : Int32} (ha : '.' ∉ a) (ha' : '.' ∉ a')
    (h : a ++ fraction b = a' ++ fraction b') : a = a' ∧ b = b' := by
  rw [fraction, fraction] at h
  split_ifs at h with hb hb' hb'
  · rw [List.append_nil, List.append_nil] at h
    exact ⟨h, hb.trans hb'.symm⟩
  · rw [List.append_nil] at h
    exact absurd (by rw [h]; simp) ha
  · rw [List.append_nil] at h
    exact absurd (by rw [← h]; simp) ha'
  · obtain ⟨hseconds, hfseconds⟩ := eq_of_append_sep ha ha' h
    exact ⟨hseconds, Int32.toInt_inj.mp (zeroPadded_inj (String.toList_injective hfseconds))⟩

/-- An interval of one sign is known from its text. -/
lemma eq_of_chars (hi : i.OneSigned) (hj : j.OneSigned) (h : i.chars = j.chars) : i = j := by
  obtain ⟨hneg, h⟩ := negative_iff_of_sign h
  have hspace : ∀ {n : ℤ}, ' ' ∉ (zeroPadded 2 n).toList :=
    not_mem_zeroPadded (by decide) fun h => absurd h (by decide)
  have hcolon : ∀ {n : ℤ}, ':' ∉ (zeroPadded 2 n).toList :=
    not_mem_zeroPadded (by decide) fun h => absurd h (by decide)
  have hdot : ∀ {n : ℤ}, '.' ∉ (zeroPadded 2 n).toList :=
    not_mem_zeroPadded (by decide) fun h => absurd h (by decide)
  obtain ⟨hdays, h⟩ := eq_of_append_sep hspace hspace h
  obtain ⟨hhours, h⟩ := eq_of_append_sep hcolon hcolon h
  obtain ⟨hminutes, h⟩ := eq_of_append_sep hcolon hcolon h
  obtain ⟨hseconds, hfseconds⟩ := eq_of_fraction hdot hdot h
  obtain ⟨hdays', hhours', hminutes', hseconds', hfseconds'⟩ := hj.signedBy
  rw [← hneg] at hdays' hhours' hminutes' hseconds' hfseconds'
  obtain ⟨hdaysi, hhoursi, hminutesi, hsecondsi, hfsecondsi⟩ := hi.signedBy
  obtain ⟨days, hours, minutes, seconds, fseconds⟩ := i
  obtain ⟨days', hours', minutes', seconds', fseconds'⟩ := j
  obtain rfl : days = days' := hdaysi.eq_of_text hdays' hdays
  obtain rfl : hours = hours' := hhoursi.eq_of_text hhours' hhours
  obtain rfl : minutes = minutes' := hminutesi.eq_of_text hminutes' hminutes
  obtain rfl : seconds = seconds' := hsecondsi.eq_of_text hseconds' hseconds
  obtain rfl : fseconds = fseconds' := hfsecondsi.eq_of_abs hfseconds' hfseconds
  rfl

end OracleIntervalDS

/-! ## Decoded intervals -/

/-- Four bytes are the smallest number exactly when they are zero. -/
lemma readExcessI32_eq_minValue_iff {data : Bytes} (h : data.length = 4) :
    readExcessI32 data = Int32.minValue ↔ data = [0, 0, 0, 0] := by
  constructor
  · intro hmin
    rw [← writeExcessI32_readExcessI32 h, hmin]
    rfl
  · rintro rfl
    decide

/-- A part from a byte has an absolute value. -/
lemma readOffset_ne_minValue (b : UInt8) : readOffset b ≠ Int32.minValue := by
  intro hmin
  have hfits := fitsOffset_readOffset b
  rw [hmin] at hfits
  exact absurd hfits.1 (by decide)

/-- Which bytes are a year-to-month interval that has a text. -/
lemma OracleIntervalYM.exists_display_of_decode {data : Bytes} {i : OracleIntervalYM}
    (h : decodeOracleIntervalYm data = .ok i) :
    (∃ t, i.display .checked = .ok t) ↔ data.take 4 ≠ [0, 0, 0, 0] := by
  rw [decodeOracleIntervalYm] at h
  split_ifs at h with hlen
  cases h
  have hyears : (data.take 4).length = 4 := by rw [List.length_take]; omega
  rw [exists_display_iff (readOffset_ne_minValue _), ne_eq, readExcessI32_eq_minValue_iff hyears]

/-- Which bytes are a day-to-second interval that has a text. -/
lemma OracleIntervalDS.exists_display_of_decode {data : Bytes} {i : OracleIntervalDS}
    (h : decodeOracleIntervalDs data = .ok i) :
    (∃ t, i.display .checked = .ok t) ↔
      data.take 4 ≠ [0, 0, 0, 0] ∧ (data.drop 7).take 4 ≠ [0, 0, 0, 0] := by
  rw [decodeOracleIntervalDs] at h
  split_ifs at h with hlen
  cases h
  have hdays : (data.take 4).length = 4 := by rw [List.length_take]; omega
  have hfseconds : ((data.drop 7).take 4).length = 4 := by rw [List.length_take, List.length_drop]; omega
  rw [exists_display_iff (readOffset_ne_minValue _) (readOffset_ne_minValue _) (readOffset_ne_minValue _),
    ne_eq, ne_eq, readExcessI32_eq_minValue_iff hdays, readExcessI32_eq_minValue_iff hfseconds]

/-- Decoded year-to-month intervals of one sign are known from their texts. -/
lemma OracleIntervalYM.eq_of_display {build : Build} {data data' : Bytes} {i j : OracleIntervalYM}
    {t : String} (hi : decodeOracleIntervalYm data = .ok i) (hj : decodeOracleIntervalYm data' = .ok j)
    (hsi : i.OneSigned) (hsj : j.OneSigned) (hti : i.display build = .ok t)
    (htj : j.display build = .ok t) : i = j := by
  have hmonths : ∀ {data : Bytes} {i : OracleIntervalYM}, decodeOracleIntervalYm data = .ok i →
      i.months ≠ Int32.minValue := by
    intro data i h
    rw [decodeOracleIntervalYm] at h
    split_ifs at h
    cases h
    exact readOffset_ne_minValue _
  exact eq_of_chars hsi hsj (hmonths hi) (hmonths hj)
    ((toList_of_display hti).symm.trans (toList_of_display htj))

/-- **Rendering of intervals**: a decoded interval has a text, computed without an overflow, exactly when
its years, or its days and its fraction, are not written with four zero bytes; and decoded intervals of one
sign that have the same text are equal, also when overflows wrap around. -/
theorem interval_display_iff (data : Bytes) :
    (∀ i : OracleIntervalYM, decodeOracleIntervalYm data = .ok i →
      ((∃ t, i.display .checked = .ok t) ↔ data.take 4 ≠ [0, 0, 0, 0]) ∧
      ∀ (build : Build) (data' : Bytes) (j : OracleIntervalYM) (t : String),
        decodeOracleIntervalYm data' = .ok j → i.OneSigned → j.OneSigned →
        i.display build = .ok t → j.display build = .ok t → i = j) ∧
    ∀ i : OracleIntervalDS, decodeOracleIntervalDs data = .ok i →
      ((∃ t, i.display .checked = .ok t) ↔
        data.take 4 ≠ [0, 0, 0, 0] ∧ (data.drop 7).take 4 ≠ [0, 0, 0, 0]) ∧
      ∀ (build : Build) (data' : Bytes) (j : OracleIntervalDS) (t : String),
        decodeOracleIntervalDs data' = .ok j → i.OneSigned → j.OneSigned →
        i.display build = .ok t → j.display build = .ok t → i = j := by
  refine ⟨fun i hi => ⟨OracleIntervalYM.exists_display_of_decode hi, ?_⟩,
    fun i hi => ⟨OracleIntervalDS.exists_display_of_decode hi, ?_⟩⟩
  · intro build data' j t hj hsi hsj hti htj
    exact OracleIntervalYM.eq_of_display hi hj hsi hsj hti htj
  · intro build data' j t _ hsi hsj hti htj
    exact OracleIntervalDS.eq_of_chars hsi hsj
      ((OracleIntervalDS.toList_of_display hti).symm.trans (OracleIntervalDS.toList_of_display htj))

theorem interval_display_fiveYears :
    (∃ t, (OracleIntervalYM.mk 5 0).display .checked = .ok t) ↔
      List.take 4 [128, 0, 0, 5, 60] ≠ ([0, 0, 0, 0] : Bytes) :=
  ((interval_display_iff [128, 0, 0, 5, 60]).1 ⟨5, 0⟩ (by decide +kernel)).1

/-- Five bytes that are decoded to an interval without a text. -/
theorem not_display_zeroYears :
    ¬∀ (data : Bytes) (i : OracleIntervalYM), decodeOracleIntervalYm data = .ok i →
      ∃ t, i.display .checked = .ok t := by
  intro h
  obtain ⟨t, ht⟩ := h [0, 0, 0, 0, 60] ⟨Int32.minValue, 0⟩ (by decide +kernel)
  exact absurd ht (by rintro ⟨⟩)

end OracleRs
