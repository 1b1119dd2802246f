import Mathlib.Tactic

set_option relaxedAutoImplicit false
set_option autoImplicit false

/-!
# Big-endian numbers in byte strings

The number that a byte string denotes when its first byte is the most significant one, the
byte string of a given width that denotes a number, and how both behave under concatenation.

## Main definitions

* `BigEndian.eval` — the number of a byte string.
* `BigEndian.digits` — the lowest `w` bytes of a number.
* `BigEndian.shiftIn` — appending a byte to a 64-bit accumulator by shift and or.

## Main results

* `BigEndian.eval_digits`, `BigEndian.digits_eval` — the two directions are inverse.
* `BigEndian.lt_iff_eval_lt` — byte strings of one length are ordered as their numbers.
* `BigEndian.toNat_foldl_shiftIn` — accumulating up to eight bytes computes `eval`.
-/

namespace BigEndian

/-- The number denoted by a byte string, most significant byte first. -/
def eval (bs : List UInt8) : ℕ := bs.foldl (fun n b => n * 256 + b.toNat) 0

/-- The lowest `w` bytes of a number, most significant byte first. -/
def digits : ℕ → ℕ → List UInt8
  | 0, _ => []
  | w + 1, n => digits w (n / 256) ++ [UInt8.ofNat n]

@[simp] lemma eval_nil : eval [] = 0 := rfl

/-- One more byte at the end multiplies by `256`. -/
@[simp] lemma eval_append_singleton (bs : List UInt8) (b : UInt8) :
    eval (bs ++ [b]) = eval bs * 256 + b.toNat := by
  simp [eval]

/-- The leading byte counts with the weight of all the bytes behind it. -/
lemma eval_cons (b : UInt8) (bs : List UInt8) :
    eval (b :: bs) = b.toNat * 256 ^ bs.length + eval bs := by
  induction bs using List.reverseRecOn with
  | nil => simp [eval]
  | append_singleton bs d ih =>
    rw [← List.cons_append, eval_append_singleton, ih, eval_append_singleton]
    simp only [List.length_append, List.length_singleton, pow_succ]
    ring

/-- What is in front counts with the weight of all the bytes behind it. -/
lemma eval_append (as bs : List UInt8) : eval (as ++ bs) = eval as * 256 ^ bs.length + eval bs := by
  induction as with
  | nil => simp
  | cons a as ih =>
    rw [List.cons_append, eval_cons, ih, eval_cons, List.length_append, pow_add]
    ring

/-- The number of `w` bytes is below `256 ^ w`. -/
lemma eval_lt (bs : List UInt8) : eval bs < 256 ^ bs.length := by
  induction bs using List.reverseRecOn with
  | nil => simp
  | append_singleton bs b ih =>
    have hb := b.toNat_lt
    simp only [eval_append_singleton, List.length_append, List.length_singleton, pow_succ]
    omega

@[simp] lemma length_digits (w n : ℕ) : (digits w n).length = w := by
  induction w generalizing n with
  | zero => rfl
  | succ w ih => simp [digits, ih]

/-- Numbers below `256 ^ w` are recovered from their `w` bytes. -/
lemma eval_digits (w n : ℕ) (h : n < 256 ^ w) : eval (digits w n) = n := by
  induction w generalizing n with
  | zero => simp only [pow_zero, Nat.lt_one_iff] at h; simp [digits, h]
  | succ w ih =>
    have hdiv : n / 256 < 256 ^ w := by
      rw [pow_succ] at h
      exact Nat.div_lt_of_lt_mul (by omega)
    rw [digits, eval_append_singleton, ih _ hdiv]
    simp only [UInt8.toNat_ofNat']
    omega

/-- Byte strings are recovered from the number they denote. -/
lemma digits_eval (bs : List UInt8) : digits bs.length (eval bs) = bs := by
  induction bs using List.reverseRecOn with
  | nil => rfl
  | append_singleton bs b ih =>
    have hb := b.toNat_lt
    have hdiv : (eval bs * 256 + b.toNat) / 256 = eval bs := by omega
    have hbyte : UInt8.ofNat (eval bs * 256 + b.toNat) = b := by
      apply UInt8.toNat_inj.mp
      simp only [UInt8.toNat_ofNat']
      omega
    rw [List.length_append, List.length_singleton, digits, eval_append_singleton, hdiv, hbyte, ih]

/-- Byte strings of one length are ordered as the numbers they denote.

**Proof sketch.** Induction on the strings: the leading bytes decide unless they agree, since what is
behind them counts for less than one unit of theirs. -/
lemma lt_iff_eval_lt {as bs : List UInt8} (h : as.length = bs.length) :
    as < bs ↔ eval as < eval bs := by
  induction as generalizing bs with
  | nil =>
    obtain rfl := List.length_eq_zero_iff.mp h.symm
    simp
  | cons a as ih =>
    obtain ⟨b, bs, rfl⟩ := List.exists_cons_of_length_eq_add_one h.symm
    have hlen : as.length = bs.length := by simpa using h
    have has := eval_lt as
    have hbs := eval_lt bs
    rw [hlen] at has
    rw [List.cons_lt_cons_iff, ih hlen, eval_cons, eval_cons, hlen, UInt8.lt_iff_toNat_lt,
      ← UInt8.toNat_inj]
    rcases lt_trichotomy a.toNat b.toNat with hab | hab | hab
    · have hle := Nat.mul_le_mul_right (256 ^ bs.length) (Nat.succ_le_of_lt hab)
      rw [Nat.succ_mul] at hle
      exact iff_of_true (.inl hab) (by omega)
    · rw [hab]
      simp
    · have hle := Nat.mul_le_mul_right (256 ^ bs.length) (Nat.succ_le_of_lt hab)
      rw [Nat.succ_mul] at hle
      refine iff_of_false ?_ (by omega)
      rintro (h | ⟨h, -⟩) <;> omega

/-- Inverted bytes denote what is missing to the largest number. -/
lemma eval_map_not (bs : List UInt8) : eval (bs.map (~~~·)) + eval bs + 1 = 256 ^ bs.length := by
  induction bs using List.reverseRecOn with
  | nil => rfl
  | append_singleton bs b ih =>
    have hnot : (~~~b).toNat + b.toNat = 255 := by
      have hlt := b.toNat_lt
      have hsize : UInt8.size = 256 := rfl
      rw [UInt8.toNat_not]
      omega
    rw [List.map_append, List.map_singleton, eval_append_singleton, eval_append_singleton,
      List.length_append, List.length_singleton, pow_succ]
    omega

/-- Append a byte to an accumulator: `(acc << 8) | b`. -/
def shiftIn (acc : UInt64) (b : UInt8) : UInt64 := (acc <<< 8) ||| b.toUInt64

/-- Shifting in a byte multiplies by `256` while the accumulator has room. -/
lemma toNat_shiftIn (acc : UInt64) (b : UInt8) (h : acc.toNat < 2 ^ 56) :
    (shiftIn acc b).toNat = acc.toNat * 256 + b.toNat := by
  have hb : b.toNat < 2 ^ 8 := b.toNat_lt
  have hlt : acc.toNat <<< 8 < 2 ^ 64 := by rw [Nat.shiftLeft_eq]; omega
  have hshift : (acc <<< 8).toNat = acc.toNat <<< 8 := by
    rw [UInt64.toNat_shiftLeft]
    exact Nat.mod_eq_of_lt hlt
  rw [shiftIn, UInt64.toNat_or, hshift, UInt8.toNat_toUInt64,
    ← Nat.shiftLeft_add_eq_or_of_lt hb, Nat.shiftLeft_eq]

/-- Accumulating a byte string that fits 64 bits computes the number it denotes. -/
lemma toNat_foldl_shiftIn (bs : List UInt8) (h : bs.length ≤ 8) :
    (bs.foldl shiftIn 0).toNat = eval bs := by
  induction bs using List.reverseRecOn with
  | nil => rfl
  | append_singleton bs b ih =>
    simp only [List.length_append, List.length_singleton] at h
    have hpow : 256 ^ bs.length ≤ 256 ^ 7 := Nat.pow_le_pow_right (by omega) (by omega)
    have hlt : (bs.foldl shiftIn 0).toNat < 2 ^ 56 := by
      have := eval_lt bs
      rw [ih (by omega)]
      norm_num at hpow
      omega
    rw [List.foldl_append, List.foldl_cons, List.foldl_nil, toNat_shiftIn _ _ hlt, ih (by omega),
      eval_append_singleton]

end BigEndian
