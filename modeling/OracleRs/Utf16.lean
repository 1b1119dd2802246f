import OracleRs.Text
import OracleRs.Lib.BigEndian

set_option relaxedAutoImplicit false
set_option autoImplicit false

/-!
# UTF-16

Texts as sequences of 16-bit units: `str::encode_utf16`, `String::from_utf16_lossy` and the bytes of
the units in big-endian order. A text that is cut in two is decoded piece by piece if and only if the
cut is not in the middle of a surrogate pair.

## Main definitions

* `OracleRs.encodeUtf16`, `OracleRs.fromUtf16Lossy` — the units of a text, and back.
* `OracleRs.unitBytes`, `OracleRs.utf16Units` — the bytes of the units, and back.
* `OracleRs.Splits` — a cut is in the middle of a surrogate pair.

## Main results

* `OracleRs.fromUtf16Lossy_encodeUtf16` — the units of a text are read back.
* `OracleRs.fromUtf16Lossy_append` — decoding piece by piece, `OracleRs.length_fromUtf16Lossy_append` —
  where a pair is split there is one character more.
* `OracleRs.encodeUtf16Be_ne_asBytes` — a text is not the same in UTF-16 and in UTF-8.
-/

namespace OracleRs

/-- `String::from_utf16_lossy`: a surrogate without its other half is a replacement character. -/
def fromUtf16Lossy : List ℕ → List Char
  | [] => []
  | [u] => [if 0xD800 ≤ u ∧ u < 0xE000 then '\uFFFD' else Char.ofNat u]
  | u :: v :: rest =>
    if u < 0xD800 ∨ 0xE000 ≤ u then Char.ofNat u :: fromUtf16Lossy (v :: rest)
    else if u < 0xDC00 ∧ 0xDC00 ≤ v ∧ v < 0xE000 then
      Char.ofNat (0x10000 + (u - 0xD800) * 0x400 + (v - 0xDC00)) :: fromUtf16Lossy rest
    else '\uFFFD' :: fromUtf16Lossy (v :: rest)

/-- The 16-bit units of a byte string; a last odd byte is dropped (`chunks_exact`). -/
def utf16Units : Bytes → List ℕ
  | b :: b' :: rest => (b.toNat * 256 + b'.toNat) :: utf16Units rest
  | _ => []

/-- `char::encode_utf16`. -/
def charUnits (c : Char) : List ℕ :=
  if c.toNat < 0x10000 then [c.toNat]
  else [0xD800 + (c.toNat - 0x10000) / 0x400, 0xDC00 + (c.toNat - 0x10000) % 0x400]

/-- `str::encode_utf16`. -/
def encodeUtf16 (s : String) : List ℕ := s.toList.flatMap charUnits

/-- The bytes of the units, in big-endian order. -/
def unitBytes (units : List ℕ) : Bytes := units.flatMap (BigEndian.digits 2)

/-- `encode_utf16` with the bytes of every unit in big-endian order. -/
def encodeUtf16Be (s : String) : Bytes :=
  s.toList.flatMap fun c =>
    if c.toNat < 0x10000 then BigEndian.digits 2 c.toNat
    else BigEndian.digits 2 (0xD800 + (c.toNat - 0x10000) / 0x400) ++
      BigEndian.digits 2 (0xDC00 + (c.toNat - 0x10000) % 0x400)

/-! ## Surrogates -/

/-- The first half of a surrogate pair. -/
def IsHigh (u : ℕ) : Prop := 0xD800 ≤ u ∧ u < 0xDC00

/-- The second half of a surrogate pair. -/
def IsLow (u : ℕ) : Prop := 0xDC00 ≤ u ∧ u < 0xE000

instance (u : ℕ) : Decidable (IsHigh u) := inferInstanceAs (Decidable (_ ∧ _))

instance (u : ℕ) : Decidable (IsLow u) := inferInstanceAs (Decidable (_ ∧ _))

/-- The character of a unit that is not part of a pair. -/
def unitChar (u : ℕ) : Char := if 0xD800 ≤ u ∧ u < 0xE000 then '\uFFFD' else Char.ofNat u

/-- The character of a surrogate pair. -/
def pairChar (u v : ℕ) : Char := Char.ofNat (0x10000 + (u - 0xD800) * 0x400 + (v - 0xDC00))

/-- The cut between two pieces is in the middle of a surrogate pair. -/
def Splits (a b : List ℕ) : Prop := ∃ u ∈ a.getLast?, ∃ v ∈ b.head?, IsHigh u ∧ IsLow v

lemma not_isHigh_of_isLow {u : ℕ} (h : IsLow u) : ¬ IsHigh u := fun h' => by
  have := h.1
  have := h'.2
  omega

lemma not_splits_nil_left (b : List ℕ) : ¬ Splits [] b := by
  rintro ⟨u, hu, -⟩
  cases hu

lemma not_splits_nil_right (a : List ℕ) : ¬ Splits a [] := by
  rintro ⟨u, -, v, hv, -⟩
  cases hv

lemma splits_cons_cons_iff {u v : ℕ} {a b : List ℕ} : Splits (u :: v :: a) b ↔ Splits (v :: a) b := by
  rw [Splits, Splits, List.getLast?_cons_cons]

lemma splits_singleton_cons_iff {u v : ℕ} {l : List ℕ} : Splits [u] (v :: l) ↔ IsHigh u ∧ IsLow v := by
  constructor
  · rintro ⟨u', hu, v', hv, h⟩
    cases hu
    cases hv
    exact h
  · intro h
    exact ⟨u, rfl, v, rfl, h⟩

/-- A cut behind a pair splits nothing if there is nothing else in front of it. -/
lemma splits_pair_cons_iff {u v : ℕ} (hv : IsLow v) {a b : List ℕ} :
    Splits (u :: v :: a) b ↔ Splits a b := by
  rw [splits_cons_cons_iff]
  cases a with
  | nil =>
    refine iff_of_false ?_ (not_splits_nil_left b)
    rintro ⟨u', hu, -, -, hhigh, -⟩
    cases hu
    exact not_isHigh_of_isLow hv hhigh
  | cons w a => exact splits_cons_cons_iff

/-- A unit that does not begin a pair. -/
lemma fromUtf16Lossy_cons_of_not_splits {u : ℕ} {l : List ℕ} (h : ¬ Splits [u] l) :
    fromUtf16Lossy (u :: l) = unitChar u :: fromUtf16Lossy l := by
  cases l with
  | nil => rfl
  | cons v l =>
    rw [fromUtf16Lossy, unitChar]
    by_cases hu : u < 0xD800 ∨ 0xE000 ≤ u
    · rw [if_pos hu, if_neg (by omega)]
    · have hpair : ¬ (u < 0xDC00 ∧ 0xDC00 ≤ v ∧ v < 0xE000) := by
        rintro ⟨hhigh, hlow⟩
        exact h ⟨u, rfl, v, rfl, ⟨by omega, hhigh⟩, hlow⟩
      rw [if_neg hu, if_neg hpair, if_pos (by omega)]

/-- A pair. -/
lemma fromUtf16Lossy_pair {u v : ℕ} (hu : IsHigh u) (hv : IsLow v) (l : List ℕ) :
    fromUtf16Lossy (u :: v :: l) = pairChar u v :: fromUtf16Lossy l := by
  have hu₁ := hu.1
  have hu₂ := hu.2
  rw [fromUtf16Lossy, if_neg (by omega), if_pos ⟨hu₂, hv.1, hv.2⟩]
  rfl

/-- Two pieces between which no pair is split are decoded one after the other. -/
theorem fromUtf16Lossy_append {b : List ℕ} : ∀ {a : List ℕ}, ¬ Splits a b →
    fromUtf16Lossy (a ++ b) = fromUtf16Lossy a ++ fromUtf16Lossy b
  | [], _ => rfl
  | [u], h => by
    rw [List.singleton_append, fromUtf16Lossy_cons_of_not_splits h]
    rfl
  | u :: v :: rest, h => by
    by_cases hpair : IsHigh u ∧ IsLow v
    · rw [splits_pair_cons_iff hpair.2] at h
      rw [List.cons_append, List.cons_append, fromUtf16Lossy_pair hpair.1 hpair.2,
        fromUtf16Lossy_pair hpair.1 hpair.2, fromUtf16Lossy_append h, List.cons_append]
    · have hsplit : ∀ l, ¬ Splits [u] (v :: l) := fun l => by rwa [splits_singleton_cons_iff]
      rw [splits_cons_cons_iff] at h
      rw [List.cons_append, List.cons_append, fromUtf16Lossy_cons_of_not_splits (hsplit _),
        ← List.cons_append, fromUtf16Lossy_append h, fromUtf16Lossy_cons_of_not_splits (hsplit _),
        List.cons_append]

/-- Two pieces between which a pair is split have one character more than the whole. -/
theorem length_fromUtf16Lossy_append {b : List ℕ} : ∀ {a : List ℕ}, Splits a b →
    (fromUtf16Lossy a).length + (fromUtf16Lossy b).length = (fromUtf16Lossy (a ++ b)).length + 1
  | [], h => absurd h (not_splits_nil_left b)
  | [u], h => by
    cases b with
    | nil => exact absurd h (not_splits_nil_right _)
    | cons v b =>
      rw [splits_singleton_cons_iff] at h
      have hlow : ¬ Splits [v] b := by
        rintro ⟨v', hv, -, -, hhigh, -⟩
        cases hv
        exact not_isHigh_of_isLow h.2 hhigh
      rw [List.singleton_append, fromUtf16Lossy_pair h.1 h.2, fromUtf16Lossy_cons_of_not_splits hlow,
        fromUtf16Lossy]
      simp only [List.length_cons, List.length_nil]
      omega
  | u :: v :: rest, h => by
    by_cases hpair : IsHigh u ∧ IsLow v
    · rw [splits_pair_cons_iff hpair.2] at h
      have hrest := length_fromUtf16Lossy_append h
      rw [List.cons_append, List.cons_append, fromUtf16Lossy_pair hpair.1 hpair.2,
        fromUtf16Lossy_pair hpair.1 hpair.2, List.length_cons, List.length_cons]
      omega
    · have hsplit : ∀ l, ¬ Splits [u] (v :: l) := fun l => by rwa [splits_singleton_cons_iff]
      rw [splits_cons_cons_iff] at h
      have hrest := length_fromUtf16Lossy_append h
      rw [List.cons_append, List.cons_append, fromUtf16Lossy_cons_of_not_splits (hsplit _),
        fromUtf16Lossy_cons_of_not_splits (hsplit _), List.length_cons, List.length_cons,
        ← List.cons_append]
      omega

/-! ## Texts -/

/-- The code point of a character is no surrogate. -/
lemma toNat_lt_or (c : Char) : c.toNat < 0xD800 ∨ 0xDFFF < c.toNat ∧ c.toNat < 0x110000 := c.valid

/-- A character is a unit that is no surrogate, or a pair. -/
lemma fromUtf16Lossy_charUnits (c : Char) : fromUtf16Lossy (charUnits c) = [c] := by
  have hvalid := toNat_lt_or c
  rw [charUnits]
  split_ifs with hsmall
  · rw [fromUtf16Lossy, if_neg (by omega), Char.ofNat_toNat]
  · rw [fromUtf16Lossy_pair ⟨by omega, by omega⟩ ⟨by omega, by omega⟩, pairChar]
    have hback : 0x10000 + (0xD800 + (c.toNat - 0x10000) / 0x400 - 0xD800) * 0x400 +
        (0xDC00 + (c.toNat - 0x10000) % 0x400 - 0xDC00) = c.toNat := by omega
    rw [hback, Char.ofNat_toNat]
    rfl

/-- The units of a character do not end with the first half of a pair. -/
lemma not_splits_charUnits (c : Char) (l : List ℕ) : ¬ Splits (charUnits c) l := by
  have hvalid := toNat_lt_or c
  rintro ⟨u, hu, -, -, hhigh, -⟩
  have hle := hhigh.1
  have hlt := hhigh.2
  rw [charUnits] at hu
  split_ifs at hu with hsmall
  · rw [List.getLast?_singleton, Option.mem_some_iff] at hu
    omega
  · rw [List.getLast?_cons_cons, List.getLast?_singleton, Option.mem_some_iff] at hu
    omega

/-- The units of a character are 16-bit numbers. -/
lemma lt_of_mem_charUnits {c : Char} {u : ℕ} (h : u ∈ charUnits c) : u < 0x10000 := by
  have hvalid := toNat_lt_or c
  rw [charUnits] at h
  split_ifs at h with hsmall
  · rwa [List.mem_singleton.mp h]
  · simp only [List.mem_cons, List.not_mem_nil, or_false] at h
    omega

lemma lt_of_mem_encodeUtf16 {s : String} {u : ℕ} (h : u ∈ encodeUtf16 s) : u < 0x10000 := by
  obtain ⟨c, -, hu⟩ := List.mem_flatMap.mp h
  exact lt_of_mem_charUnits hu

/-- The units of a text are read back. -/
theorem fromUtf16Lossy_encodeUtf16 (s : String) : fromUtf16Lossy (encodeUtf16 s) = s.toList := by
  rw [encodeUtf16]
  induction s.toList with
  | nil => rfl
  | cons c cs ih =>
    rw [List.flatMap_cons, fromUtf16Lossy_append (not_splits_charUnits c _), ih,
      fromUtf16Lossy_charUnits]
    rfl

lemma length_unitBytes (units : List ℕ) : (unitBytes units).length = 2 * units.length := by
  rw [unitBytes, List.length_flatMap]
  simp [Nat.mul_comm]

/-- The bytes of units are read back. -/
lemma utf16Units_unitBytes {units : List ℕ} (h : ∀ u ∈ units, u < 0x10000) :
    utf16Units (unitBytes units) = units := by
  induction units with
  | nil => rfl
  | cons u units ih =>
    rw [List.forall_mem_cons] at h
    have hdigits : BigEndian.digits 2 u = [UInt8.ofNat (u / 256), UInt8.ofNat u] := rfl
    have hunit : (UInt8.ofNat (u / 256)).toNat * 256 + (UInt8.ofNat u).toNat = u := by
      simp only [UInt8.toNat_ofNat']
      omega
    rw [unitBytes, List.flatMap_cons, hdigits, List.cons_append, List.cons_append, List.nil_append,
      utf16Units, hunit]
    exact congrArg (u :: ·) (ih h.2)

/-- A text is sent as the bytes of its units. -/
lemma encodeUtf16Be_eq (s : String) : encodeUtf16Be s = unitBytes (encodeUtf16 s) := by
  rw [encodeUtf16Be, encodeUtf16, unitBytes, List.flatMap_assoc]
  apply List.flatMap_congr
  intro c _
  rw [charUnits]
  split_ifs <;> simp

/-! ## UTF-16 and UTF-8 -/

/-- A weight by which the two encodings of a text are told apart: the bytes of ASCII characters count
against a text, and those that begin a character of two bytes, among them the surrogates, count
nothing. -/
def byteWeight (b : UInt8) : ℤ :=
  if b.toNat < 0x80 then -1 else if 0xC0 ≤ b.toNat ∧ b.toNat < 0xE0 then 0 else 1

/-- The weight of a byte string. -/
def weight (bytes : Bytes) : ℤ := (bytes.map byteWeight).sum

lemma weight_append (a b : Bytes) : weight (a ++ b) = weight a + weight b := by
  rw [weight, List.map_append, List.sum_append]
  rfl

@[simp] lemma weight_nil : weight [] = 0 := rfl

@[simp] lemma weight_cons (b : UInt8) (a : Bytes) : weight (b :: a) = byteWeight b + weight a := by
  rw [weight, List.map_cons, List.sum_cons]
  rfl

lemma byteWeight_le_one (b : UInt8) : byteWeight b ≤ 1 := by
  rw [byteWeight]
  split_ifs <;> omega

lemma byteWeight_of_lt {n : ℕ} (h : n < 0x80) : byteWeight (UInt8.ofNat n) = -1 := by
  rw [byteWeight, UInt8.toNat_ofNat', if_pos (by omega)]

lemma byteWeight_of_lead {n : ℕ} (h : 0xC0 ≤ n) (h' : n < 0xE0) : byteWeight (UInt8.ofNat n) = 0 := by
  rw [byteWeight, UInt8.toNat_ofNat', if_neg (by omega), if_pos (by omega)]

lemma byteWeight_of_mid {n : ℕ} (h : 0x80 ≤ n) (h' : n < 0xC0) : byteWeight (UInt8.ofNat n) = 1 := by
  rw [byteWeight, UInt8.toNat_ofNat', if_neg (by omega), if_neg (by omega)]

lemma byteWeight_of_ge {n : ℕ} (h : 0xE0 ≤ n) (h' : n < 0x100) : byteWeight (UInt8.ofNat n) = 1 := by
  rw [byteWeight, UInt8.toNat_ofNat', if_neg (by omega), if_neg (by omega)]

lemma unitBytes_append (a b : List ℕ) : unitBytes (a ++ b) = unitBytes a ++ unitBytes b :=
  List.flatMap_append

lemma weight_digits (n : ℕ) : weight (BigEndian.digits 2 n) =
    byteWeight (UInt8.ofNat (n / 256)) + byteWeight (UInt8.ofNat n) := by
  have h : BigEndian.digits 2 n = [UInt8.ofNat (n / 256), UInt8.ofNat n] := rfl
  rw [h]
  simp [weight]

/-- Every character weighs less in UTF-16. -/
lemma weight_unitBytes_lt (c : Char) :
    weight (unitBytes (charUnits c)) < weight (String.utf8EncodeChar c) := by
  have hvalid := toNat_lt_or c
  have hval : c.val.toNat = c.toNat := rfl
  have hle := byteWeight_le_one (UInt8.ofNat c.toNat)
  rw [unitBytes, charUnits, String.utf8EncodeChar, hval]
  by_cases h1 : c.toNat ≤ 0x7f
  · rw [if_pos h1, weight_cons, weight_nil, if_pos (by omega), List.flatMap_singleton, weight_digits,
      byteWeight_of_lt (by omega), byteWeight_of_lt (by omega)]
    omega
  by_cases h2 : c.toNat ≤ 0x7ff
  · rw [if_neg h1, if_pos h2]
    simp only [weight_cons, weight_nil]
    rw [byteWeight_of_lead (by omega) (by omega), byteWeight_of_mid (by omega) (by omega),
      if_pos (by omega), List.flatMap_singleton, weight_digits, byteWeight_of_lt (by omega)]
    omega
  by_cases h3 : c.toNat ≤ 0xffff
  · have hhigh := byteWeight_le_one (UInt8.ofNat (c.toNat / 256))
    rw [if_neg h1, if_neg h2, if_pos h3]
    simp only [weight_cons, weight_nil]
    rw [byteWeight_of_ge (by omega) (by omega), byteWeight_of_mid (by omega) (by omega),
      byteWeight_of_mid (by omega) (by omega), if_pos (by omega), List.flatMap_singleton, weight_digits]
    omega
  · have hfirst := byteWeight_le_one (UInt8.ofNat (0xD800 + (c.toNat - 0x10000) / 0x400))
    have hsecond := byteWeight_le_one (UInt8.ofNat (0xDC00 + (c.toNat - 0x10000) % 0x400))
    rw [if_neg h1, if_neg h2, if_neg h3]
    simp only [weight_cons, weight_nil]
    rw [byteWeight_of_ge (by omega) (by omega), byteWeight_of_mid (by omega) (by omega),
      byteWeight_of_mid (by omega) (by omega), byteWeight_of_mid (by omega) (by omega),
      if_neg (by omega), List.flatMap_cons, List.flatMap_singleton, weight_append, weight_digits,
      weight_digits, byteWeight_of_lead (by omega) (by omega),
      byteWeight_of_lead (n := (0xDC00 + (c.toNat - 0x10000) % 0x400) / 256) (by omega) (by omega)]
    omega

/-- No text but the empty one is the same in UTF-16 and in UTF-8. -/
theorem encodeUtf16Be_ne_asBytes {s : String} (h : s ≠ "") : encodeUtf16Be s ≠ asBytes s := by
  have hle : ∀ cs : List Char, weight (unitBytes (cs.flatMap charUnits)) ≤
      weight (cs.flatMap String.utf8EncodeChar) := by
    intro cs
    induction cs with
    | nil => exact le_rfl
    | cons c cs ih =>
      have hc := weight_unitBytes_lt c
      rw [List.flatMap_cons, List.flatMap_cons, unitBytes_append, weight_append, weight_append]
      omega
  intro heq
  rw [encodeUtf16Be_eq, encodeUtf16, asBytes] at heq
  cases hs : s.toList with
  | nil => exact h (String.toList_eq_nil_iff.mp hs)
  | cons c cs =>
    have hw := congrArg weight heq
    rw [hs, List.flatMap_cons, List.flatMap_cons, unitBytes_append, weight_append, weight_append] at hw
    have hc := weight_unitBytes_lt c
    have hcs := hle cs
    omega

end OracleRs
