import OracleRs.Lib.BigEndian

set_option relaxedAutoImplicit false
set_option autoImplicit false

/-!
# Base64

The Base64 encoding of RFC 4648 with the standard alphabet and padding: three bytes are one number of 24 bits,
which is written with four digits of six bits; a group of one or two bytes at the end is filled up with zero
bits, and its digits with padding.

The decoder is strict: it takes padding only at the end of the text, and refuses bits that have been filled up
with anything but zeros.

## Main definitions

* `Base64.char`, `Base64.value?` — the alphabet in both directions.
* `Base64.digits`, `Base64.number?` — the digits of a number, and the number of some digits.
* `Base64.encode`, `Base64.decode` — the encoder and the decoder.

## Main results

* `Base64.take_digits` — the leading digits of a number.
* `Base64.number?_digits` — a number is recovered from its digits.
* `Base64.decode_encode` — what has been encoded is decoded.
* `Base64.length_encode` — four characters for each group.
-/

namespace Base64

/-! ## Digits -/

/-- The character of a digit. -/
def char (v : ℕ) : Char :=
  if v < 26 then Char.ofNat ('A'.toNat + v)
  else if v < 52 then Char.ofNat ('a'.toNat + (v - 26))
  else if v < 62 then Char.ofNat ('0'.toNat + (v - 52))
  else if v = 62 then '+'
  else '/'

/-- The digit of a character. -/
def value? (c : Char) : Option ℕ :=
  if 'A' ≤ c ∧ c ≤ 'Z' then some (c.toNat - 'A'.toNat)
  else if 'a' ≤ c ∧ c ≤ 'z' then some (c.toNat - 'a'.toNat + 26)
  else if '0' ≤ c ∧ c ≤ '9' then some (c.toNat - '0'.toNat + 52)
  else if c = '+' then some 62
  else if c = '/' then some 63
  else none

/-- The characters of the lowest `k` digits of a number, most significant digit first. -/
def digits : ℕ → ℕ → List Char
  | 0, _ => []
  | k + 1, n => digits k (n / 64) ++ [char (n % 64)]

/-- The number that characters denote. -/
def number? (cs : List Char) : Option ℕ := cs.foldlM (fun n c => (value? c).map (n * 64 + ·)) 0

lemma char_spec : ∀ v : Fin 64, value? (char v) = some v.val ∧ (char v).toNat < 128 ∧ char v ≠ '=' := by
  decide

@[simp] lemma value?_char {v : ℕ} (h : v < 64) : value? (char v) = some v := (char_spec ⟨v, h⟩).1

@[simp] lemma length_digits (k n : ℕ) : (digits k n).length = k := by
  induction k generalizing n with
  | zero => rfl
  | succ k ih => rw [digits, List.length_append, ih, List.length_singleton]

/-- The leading digits are those of what is left when the others are divided off. -/
lemma take_digits (k j n : ℕ) : (digits (k + j) n).take k = digits k (n / 64 ^ j) := by
  induction j generalizing n with
  | zero =>
    rw [pow_zero, Nat.div_one, Nat.add_zero]
    exact List.take_of_length_le (length_digits k n).le
  | succ j ih =>
    have hle : k ≤ (digits (k + j) (n / 64)).length := by
      rw [length_digits]
      exact Nat.le_add_right k j
    rw [← Nat.add_assoc, digits, List.take_append_of_le_length hle, ih, Nat.div_div_eq_div_mul, ← pow_succ']

/-- A number is recovered from its digits. -/
lemma number?_digits {k n : ℕ} (h : n < 64 ^ k) : number? (digits k n) = some n := by
  induction k generalizing n with
  | zero =>
    obtain rfl : n = 0 := Nat.lt_one_iff.mp h
    rfl
  | succ k ih =>
    have hdiv : n / 64 < 64 ^ k := Nat.div_lt_of_lt_mul (by rwa [← pow_succ'])
    have hrest := ih hdiv
    have hlast := value?_char (Nat.mod_lt n (by decide : 0 < 64))
    rw [number?] at hrest
    rw [number?, digits, List.foldlM_append, hrest]
    simp only [Option.bind_eq_bind, Option.bind_some, List.foldlM_cons, List.foldlM_nil, hlast, Option.map_some,
      Option.pure_def]
    rw [Nat.div_add_mod']

lemma forall_mem_digits {P : Char → Prop} (h : ∀ v < 64, P (char v)) (k n : ℕ) : ∀ c ∈ digits k n, P c := by
  induction k generalizing n with
  | zero => exact fun c hc => absurd hc List.not_mem_nil
  | succ k ih =>
    rw [digits, List.forall_mem_append, List.forall_mem_singleton]
    exact ⟨ih _, h _ (Nat.mod_lt n (by decide))⟩

/-! ## Groups -/

/-- The bits that a group of bytes is filled up with. -/
def fillBits (width : ℕ) : ℕ := 2 ^ (6 * (width + 1) - 8 * width)

/-- The digits of a group of at most three bytes: one more than there are bytes. -/
def encodeGroup (bytes : List UInt8) : List Char :=
  digits (bytes.length + 1) (BigEndian.eval bytes * fillBits bytes.length)

/-- The bytes of a group of digits. -/
def decodeGroup (cs : List Char) : Option (List UInt8) := do
  let n ← number? cs
  let fill := fillBits (cs.length - 1)
  if n % fill = 0 then some (BigEndian.digits (cs.length - 1) (n / fill)) else none

lemma length_encodeGroup (bytes : List UInt8) : (encodeGroup bytes).length = bytes.length + 1 := length_digits _ _

/-- A digit is no padding. -/
lemma ne_padding_of_mem {bytes : List UInt8} : ∀ c ∈ encodeGroup bytes, c ≠ '=' :=
  forall_mem_digits (fun v hv => (char_spec ⟨v, hv⟩).2.2) _ _

lemma decodeGroup_encodeGroup {bytes : List UInt8} (h : bytes.length ≤ 3) :
    decodeGroup (encodeGroup bytes) = some bytes := by
  have hfill : 0 < fillBits bytes.length := Nat.two_pow_pos _
  have hbound : 256 ^ bytes.length * fillBits bytes.length = 64 ^ (bytes.length + 1) := by
    generalize bytes.length = width at h
    interval_cases width
    all_goals rfl
  have hlt : BigEndian.eval bytes * fillBits bytes.length < 64 ^ (bytes.length + 1) := by
    rw [← hbound]
    exact Nat.mul_lt_mul_of_pos_right (BigEndian.eval_lt bytes) hfill
  rw [decodeGroup, length_encodeGroup, Nat.add_sub_cancel, encodeGroup, number?_digits hlt]
  simp only [Option.bind_eq_bind, Option.bind_some, Nat.mul_mod_left, if_true]
  rw [Nat.mul_div_cancel _ hfill, BigEndian.digits_eval]

/-! ## Texts -/

/-- The encoder: groups of three bytes, and what is left over. -/
def encode : List UInt8 → List Char
  | [] => []
  | [b₀] => encodeGroup [b₀] ++ ['=', '=']
  | [b₀, b₁] => encodeGroup [b₀, b₁] ++ ['=']
  | b₀ :: b₁ :: b₂ :: rest => encodeGroup [b₀, b₁, b₂] ++ encode rest

/-- The decoder: groups of four characters, of which the last one may end with padding. -/
def decode : List Char → Option (List UInt8)
  | [] => some []
  | c₀ :: c₁ :: c₂ :: c₃ :: rest =>
    if rest = [] ∧ c₂ = '=' ∧ c₃ = '=' then decodeGroup [c₀, c₁]
    else if rest = [] ∧ c₃ = '=' then decodeGroup [c₀, c₁, c₂]
    else do return (← decodeGroup [c₀, c₁, c₂, c₃]) ++ (← decode rest)
  | _ => none

/-- A last group of one byte. -/
lemma decode_append_two {cs : List Char} (hlen : cs.length = 2) : decode (cs ++ ['=', '=']) = decodeGroup cs := by
  obtain ⟨c₀, c₁, rfl⟩ := List.length_eq_two.mp hlen
  exact if_pos ⟨rfl, rfl, rfl⟩

/-- A last group of two bytes. -/
lemma decode_append_one {cs : List Char} (hlen : cs.length = 3) (hpad : ∀ c ∈ cs, c ≠ '=') :
    decode (cs ++ ['=']) = decodeGroup cs := by
  obtain ⟨c₀, c₁, c₂, rfl⟩ := List.length_eq_three.mp hlen
  have hc₂ : c₂ ≠ '=' := hpad c₂ (by simp)
  rw [List.cons_append, List.cons_append, List.cons_append, List.nil_append, decode,
    if_neg fun h => hc₂ h.2.1]
  exact if_pos ⟨rfl, rfl⟩

/-- A group of three bytes, with others behind it or not. -/
lemma decode_append {cs : List Char} (hlen : cs.length = 4) (hpad : ∀ c ∈ cs, c ≠ '=') (rest : List Char) :
    decode (cs ++ rest) = do return (← decodeGroup cs) ++ (← decode rest) := by
  obtain ⟨c₀, tail, rfl⟩ := List.exists_cons_of_length_eq_add_one hlen
  obtain ⟨c₁, c₂, c₃, rfl⟩ := List.length_eq_three.mp (Nat.succ.inj hlen)
  have hc₃ : c₃ ≠ '=' := hpad c₃ (by simp)
  rw [List.cons_append, List.cons_append, List.cons_append, List.cons_append, List.nil_append, decode,
    if_neg fun h => hc₃ h.2.2, if_neg fun h => hc₃ h.2]

/-- What has been encoded is decoded. -/
theorem decode_encode (data : List UInt8) : decode (encode data) = some data := by
  induction data using encode.induct with
  | case1 => rfl
  | case2 b₀ =>
    rw [encode, decode_append_two (length_encodeGroup _)]
    exact decodeGroup_encodeGroup (by simp)
  | case3 b₀ b₁ =>
    rw [encode, decode_append_one (length_encodeGroup _) ne_padding_of_mem]
    exact decodeGroup_encodeGroup (by simp)
  | case4 b₀ b₁ b₂ rest ih =>
    have hgroup : decodeGroup (encodeGroup [b₀, b₁, b₂]) = some [b₀, b₁, b₂] := decodeGroup_encodeGroup le_rfl
    rw [encode, decode_append (length_encodeGroup _) ne_padding_of_mem, hgroup, ih]
    rfl

example : encode [102, 111, 111, 98] = ['Z', 'm', '9', 'v', 'Y', 'g', '=', '='] := by decide

/-- Every group that has begun has four characters. -/
theorem length_encode (data : List UInt8) : (encode data).length = 4 * ((data.length + 2) / 3) := by
  induction data using encode.induct with
  | case1 => rfl
  | case2 b₀ => simp [encode, length_encodeGroup]
  | case3 b₀ b₁ => simp [encode, length_encodeGroup]
  | case4 b₀ b₁ b₂ rest ih =>
    rw [encode, List.length_append, length_encodeGroup, ih]
    simp only [List.length_cons, List.length_nil]
    omega

/-- What holds of the digits and of the padding holds of all characters of a text. -/
lemma forall_mem_encode {P : Char → Prop} (h : ∀ v < 64, P (char v)) (hpad : P '=') (data : List UInt8) :
    ∀ c ∈ encode data, P c := by
  induction data using encode.induct with
  | case1 => exact fun c hc => absurd hc List.not_mem_nil
  | case2 b₀ =>
    rw [encode, List.forall_mem_append]
    exact ⟨forall_mem_digits h _ _, by simp [hpad]⟩
  | case3 b₀ b₁ =>
    rw [encode, List.forall_mem_append]
    exact ⟨forall_mem_digits h _ _, by simp [hpad]⟩
  | case4 b₀ b₁ b₂ rest ih =>
    rw [encode, List.forall_mem_append]
    exact ⟨forall_mem_digits h _ _, ih⟩

/-- The text is in ASCII. -/
lemma toNat_lt_of_mem_encode (data : List UInt8) : ∀ c ∈ encode data, c.toNat < 128 :=
  forall_mem_encode (fun v hv => (char_spec ⟨v, hv⟩).2.1) (by decide) data

end Base64
