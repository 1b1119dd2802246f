import Mathlib.Tactic

set_option relaxedAutoImplicit false
set_option autoImplicit false

/-!
# Decimal numerals

Digit strings and the numbers they denote, and the texts that are decimal numerals: an optional
minus sign, digits with an optional decimal point, and an optional exponent.

## Main definitions

* `Decimal.ofDigits` — the number of a digit string, most significant digit first.
* `Decimal.scaled` — the number `0.d₁d₂… × 10 ^ p`.
* `Decimal.Numeral` — decimal numerals, with their text `Numeral.render` and the number
  `Numeral.value`.
* `Decimal.Denotes` — a text is a numeral of a number.

## Main results

* `Decimal.scaled_append_replicate_zero` — trailing zeros do not count.
* `Decimal.scaled_mem_Ico` — a digit string without a leading zero fixes the magnitude.
* `Decimal.exists_int_of_length_le`, `Decimal.not_int_of_last_ne_zero` — which scaled digit
  strings are integers.
-/

namespace Decimal

/-! ## Digit strings -/

/-- The number of a digit string, most significant digit first. -/
def ofDigits (ds : List ℕ) : ℕ := ds.foldl (fun n d => 10 * n + d) 0

@[simp] lemma ofDigits_nil : ofDigits [] = 0 := rfl

@[simp] lemma ofDigits_append_singleton (ds : List ℕ) (d : ℕ) :
    ofDigits (ds ++ [d]) = 10 * ofDigits ds + d := by
  simp [ofDigits]

/-- The digits in front count with the weight of all the digits behind them. -/
lemma ofDigits_append (as bs : List ℕ) :
    ofDigits (as ++ bs) = ofDigits as * 10 ^ bs.length + ofDigits bs := by
  induction bs using List.reverseRecOn with
  | nil => simp
  | append_singleton bs b ih =>
    rw [← List.append_assoc, ofDigits_append_singleton, ih, ofDigits_append_singleton]
    simp only [List.length_append, List.length_singleton, pow_succ]
    ring

lemma ofDigits_cons (d : ℕ) (ds : List ℕ) :
    ofDigits (d :: ds) = d * 10 ^ ds.length + ofDigits ds := by
  have h := ofDigits_append [d] ds
  simpa [ofDigits] using h

@[simp] lemma ofDigits_replicate_zero (n : ℕ) : ofDigits (List.replicate n 0) = 0 := by
  induction n with
  | zero => rfl
  | succ n ih => simp [List.replicate_succ, ofDigits_cons, ih]

/-- `n` digits denote a number below `10 ^ n`. -/
lemma ofDigits_lt {ds : List ℕ} (h : ∀ d ∈ ds, d < 10) : ofDigits ds < 10 ^ ds.length := by
  induction ds using List.reverseRecOn with
  | nil => simp
  | append_singleton ds d ih =>
    have hd : d < 10 := h d (by simp)
    have := ih fun x hx => h x (by simp [hx])
    simp only [ofDigits_append_singleton, List.length_append, List.length_singleton, pow_succ]
    omega

/-- A digit string that begins with a nonzero digit denotes at least the weight of that digit. -/
lemma le_ofDigits {d : ℕ} (hd : d ≠ 0) (ds : List ℕ) : 10 ^ ds.length ≤ ofDigits (d :: ds) := by
  rw [ofDigits_cons]
  have : 1 * 10 ^ ds.length ≤ d * 10 ^ ds.length :=
    Nat.mul_le_mul_right _ (Nat.one_le_iff_ne_zero.mpr hd)
  omega

/-- Digit strings of one length denote different numbers. -/
lemma eq_of_ofDigits_eq {as bs : List ℕ} (hlen : as.length = bs.length) (has : ∀ a ∈ as, a < 10)
    (hbs : ∀ b ∈ bs, b < 10) (h : ofDigits as = ofDigits bs) : as = bs := by
  induction as using List.reverseRecOn generalizing bs with
  | nil => exact (List.eq_nil_of_length_eq_zero hlen.symm).symm
  | append_singleton as a ih =>
    rcases List.eq_nil_or_concat' bs with rfl | ⟨bs, b, rfl⟩
    · rw [List.length_append] at hlen
      cases hlen
    · have ha : a < 10 := has a (by simp)
      have hb : b < 10 := hbs b (by simp)
      rw [List.length_append, List.length_append] at hlen
      rw [ofDigits_append_singleton, ofDigits_append_singleton] at h
      obtain rfl : a = b := by omega
      rw [ih (Nat.add_right_cancel hlen) (fun x hx => has x (by simp [hx]))
        (fun x hx => hbs x (by simp [hx])) (by omega)]

/-- Digit strings that end with no zero are the same if they differ in trailing zeros only. -/
lemma eq_of_append_zeros {as bs : List ℕ} {k m : ℕ}
    (h : as ++ List.replicate k 0 = bs ++ List.replicate m 0) (has : as.getLast? ≠ some 0)
    (hbs : bs.getLast? ≠ some 0) : as = bs := by
  have hdrop : ∀ {ds : List ℕ} (n : ℕ), ds.getLast? ≠ some 0 →
      (ds ++ List.replicate n 0).reverse.dropWhile (· = 0) = ds.reverse := by
    intro ds n hlast
    rw [List.reverse_append, List.reverse_replicate, List.dropWhile_append_of_pos (by simp)]
    rw [← List.head?_reverse] at hlast
    cases hrev : ds.reverse with
    | nil => rfl
    | cons d rest =>
      rw [hrev] at hlast
      have hd : d ≠ 0 := fun e => hlast (by rw [e]; rfl)
      rw [List.dropWhile_cons_of_neg (by simpa using hd)]
  rw [← List.reverse_inj, ← hdrop k has, h, hdrop m hbs]

/-! ## Scaled digit strings -/

/-- The number `0.d₁d₂… × 10 ^ p`. -/
def scaled (ds : List ℕ) (p : ℤ) : ℚ := ofDigits ds * (10 : ℚ) ^ (p - ds.length)

@[simp] lemma scaled_nil (p : ℤ) : scaled [] p = 0 := by simp [scaled]

lemma scaled_append_zero (ds : List ℕ) (p : ℤ) : scaled (ds ++ [0]) p = scaled ds p := by
  have hsplit : p - ds.length = (p - (ds ++ [0]).length) + 1 := by
    simp only [List.length_append, List.length_singleton]
    push_cast
    ring
  rw [scaled, scaled, hsplit, zpow_add_one₀ (by norm_num), ofDigits_append_singleton]
  push_cast
  ring

/-- Trailing zeros do not count. -/
lemma scaled_append_replicate_zero (ds : List ℕ) (n : ℕ) (p : ℤ) :
    scaled (ds ++ List.replicate n 0) p = scaled ds p := by
  induction n with
  | zero => simp
  | succ n ih => rw [List.replicate_succ', ← List.append_assoc, scaled_append_zero, ih]

/-- One position further to the right multiplies by ten. -/
lemma scaled_add_one (ds : List ℕ) (p : ℤ) : scaled ds (p + 1) = 10 * scaled ds p := by
  rw [scaled, scaled, show p + 1 - ds.length = p - ds.length + 1 by ring,
    zpow_add_one₀ (by norm_num)]
  ring

/-- The magnitude of a digit string that begins with a nonzero digit. -/
lemma scaled_mem_Ico {d : ℕ} {ds : List ℕ} (hd : d ≠ 0) (h : ∀ x ∈ d :: ds, x < 10) (p : ℤ) :
    scaled (d :: ds) p ∈ Set.Ico ((10 : ℚ) ^ (p - 1)) ((10 : ℚ) ^ p) := by
  have hpos : (0 : ℚ) < (10 : ℚ) ^ (p - (d :: ds).length) := by positivity
  have hlow : ((10 : ℚ) ^ ds.length) ≤ ofDigits (d :: ds) := by exact_mod_cast le_ofDigits hd ds
  have hhigh : (ofDigits (d :: ds) : ℚ) < (10 : ℚ) ^ (d :: ds).length := by
    exact_mod_cast ofDigits_lt h
  have hadd : ∀ (k : ℕ), (10 : ℚ) ^ k * (10 : ℚ) ^ (p - (d :: ds).length) =
      (10 : ℚ) ^ (p - (d :: ds).length + k) := by
    intro k
    rw [zpow_add₀ (by norm_num), zpow_natCast, mul_comm]
  constructor
  · calc (10 : ℚ) ^ (p - 1) = (10 : ℚ) ^ ds.length * (10 : ℚ) ^ (p - (d :: ds).length) := by
          rw [hadd]
          congr 1
          push_cast [List.length_cons]
          ring
      _ ≤ scaled (d :: ds) p := by
          rw [scaled]
          exact mul_le_mul_of_nonneg_right hlow hpos.le
  · calc scaled (d :: ds) p < (10 : ℚ) ^ (d :: ds).length * (10 : ℚ) ^ (p - (d :: ds).length) := by
          rw [scaled]
          exact mul_lt_mul_of_pos_right hhigh hpos
      _ = (10 : ℚ) ^ p := by
          rw [hadd]
          congr 1
          ring

/-- **Digit strings without zeros at either end are determined by the number they denote.**

**Proof sketch.** The magnitude gives the place of the decimal point. Filled with zeros to one length the
strings then denote the same number without a point. -/
lemma eq_of_scaled_eq {d e : ℕ} {ds es : List ℕ} {p q : ℤ} (hd : d ≠ 0) (he : e ≠ 0)
    (hds : ∀ x ∈ d :: ds, x < 10) (hes : ∀ x ∈ e :: es, x < 10) (hlast : (d :: ds).getLast? ≠ some 0)
    (hlast' : (e :: es).getLast? ≠ some 0) (h : scaled (d :: ds) p = scaled (e :: es) q) :
    d :: ds = e :: es ∧ p = q := by
  have hpoint : p = q := by
    obtain ⟨hlow, hhigh⟩ := scaled_mem_Ico hd hds p
    obtain ⟨hlow', hhigh'⟩ := scaled_mem_Ico he hes q
    rw [h] at hlow hhigh
    have hpq := (zpow_lt_zpow_iff_right₀ (by norm_num : (1 : ℚ) < 10)).mp (hlow.trans_lt hhigh')
    have hqp := (zpow_lt_zpow_iff_right₀ (by norm_num : (1 : ℚ) < 10)).mp (hlow'.trans_lt hhigh)
    omega
  subst hpoint
  have hlen : (d :: ds ++ List.replicate (e :: es).length 0).length =
      (e :: es ++ List.replicate (d :: ds).length 0).length := by
    rw [List.length_append, List.length_append, List.length_replicate, List.length_replicate, Nat.add_comm]
  have hzeros : ∀ {xs : List ℕ} (n : ℕ), (∀ x ∈ xs, x < 10) → ∀ x ∈ xs ++ List.replicate n 0, x < 10 := by
    intro xs n hxs x hx
    rcases List.mem_append.mp hx with hx | hx
    · exact hxs x hx
    · rw [List.eq_of_mem_replicate hx]
      omega
  rw [← scaled_append_replicate_zero (d :: ds) (e :: es).length,
    ← scaled_append_replicate_zero (e :: es) (d :: ds).length, scaled, scaled, hlen] at h
  have hnum := mul_right_cancel₀ (zpow_ne_zero _ (by norm_num)) h
  have hsame := eq_of_ofDigits_eq hlen (hzeros _ hds) (hzeros _ hes) (by exact_mod_cast hnum)
  exact ⟨eq_of_append_zeros hsame hlast hlast', rfl⟩

/-- A digit string that ends before the decimal point denotes an integer. -/
lemma exists_int_of_length_le {ds : List ℕ} {p : ℤ} (h : (ds.length : ℤ) ≤ p) :
    scaled ds p = ((ofDigits ds * 10 ^ (p - ds.length).toNat : ℕ) : ℚ) := by
  have hexp : p - ds.length = ((p - ds.length).toNat : ℤ) := by omega
  rw [scaled]
  conv_lhs => rw [hexp, zpow_natCast]
  push_cast
  rfl

/-- A digit string that goes on behind the decimal point, and ends with a nonzero digit, does
not denote an integer. -/
lemma not_int_of_last_ne_zero {ds : List ℕ} {d : ℕ} {p : ℤ} (hd : d ≠ 0) (hd10 : d < 10)
    (h : p < ((ds ++ [d]).length : ℤ)) (k : ℤ) : scaled (ds ++ [d]) p ≠ k := by
  intro heq
  obtain ⟨m, hm⟩ : ∃ m : ℕ, p - (ds ++ [d]).length = -((m : ℤ) + 1) :=
    ⟨((ds ++ [d]).length - p - 1).toNat, by omega⟩
  rw [scaled, hm, zpow_neg, ← div_eq_mul_inv, div_eq_iff (by positivity)] at heq
  have hnat : ((m : ℤ) + 1) = ((m + 1 : ℕ) : ℤ) := by push_cast; ring
  rw [hnat, zpow_natCast] at heq
  have hint : (ofDigits (ds ++ [d]) : ℤ) = k * 10 ^ (m + 1) := by exact_mod_cast heq
  rw [ofDigits_append_singleton, pow_succ] at hint
  push_cast at hint
  have hmod := congrArg (· % 10) hint
  simp only [← mul_assoc, Int.mul_emod_left] at hmod
  omega

/-! ## Numerals -/

/-- The character of a digit. -/
def digitChar (d : ℕ) : Char := Char.ofNat (48 + d)

/-- An exponent of a numeral. -/
structure Exponent where
  /-- the letter is an upper case one -/
  upper : Bool
  /-- the sign, if one is written: is it a minus sign? -/
  sign : Option Bool
  /-- the digits -/
  digits : List ℕ
  /-- they are decimal digits -/
  digits_lt : ∀ d ∈ digits, d < 10
  /-- there is at least one -/
  ne_nil : digits ≠ []

/-- A decimal numeral. -/
structure Numeral where
  /-- a minus sign is written -/
  negative : Bool
  /-- the digits in front of the decimal point -/
  whole : List ℕ
  /-- the digits behind the decimal point, if there is one -/
  fraction : Option (List ℕ)
  /-- the exponent, if there is one -/
  exponent : Option Exponent
  /-- the digits are decimal digits -/
  digits_lt : ∀ d ∈ whole ++ fraction.getD [], d < 10
  /-- there is at least one digit -/
  ne_nil : whole ++ fraction.getD [] ≠ []

/-- The text of an exponent. -/
def Exponent.render (e : Exponent) : List Char :=
  (if e.upper then 'E' else 'e') ::
    ((e.sign.elim [] fun minus => [if minus then '-' else '+']) ++ e.digits.map digitChar)

/-- The number of an exponent. -/
def Exponent.value (e : Exponent) : ℤ :=
  if e.sign = some true then -(ofDigits e.digits : ℤ) else ofDigits e.digits

namespace Numeral

/-- The digits behind the decimal point. -/
def fractionDigits (n : Numeral) : List ℕ := n.fraction.getD []

/-- The number of the exponent, zero if there is none. -/
def exponentValue (n : Numeral) : ℤ := n.exponent.elim 0 Exponent.value

/-- The text of a numeral. -/
def render (n : Numeral) : List Char :=
  (if n.negative then ['-'] else []) ++ n.whole.map digitChar ++
    (n.fraction.elim [] fun ds => '.' :: ds.map digitChar) ++
    n.exponent.elim [] Exponent.render

/-- The number of a numeral without its sign. -/
def magnitude (n : Numeral) : ℚ :=
  ofDigits (n.whole ++ n.fractionDigits) * (10 : ℚ) ^ (n.exponentValue - n.fractionDigits.length)

/-- The number of a numeral. -/
def value (n : Numeral) : ℚ := if n.negative then -n.magnitude else n.magnitude

end Numeral

/-- The text is a numeral of the number. -/
def Denotes (s : String) (v : ℚ) : Prop := ∃ n : Numeral, n.render = s.toList ∧ n.value = v

end Decimal
