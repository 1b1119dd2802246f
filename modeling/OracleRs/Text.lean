import Mathlib.Data.List.TakeWhile
import OracleRs.Constants
import OracleRs.Lib.Decimal

set_option relaxedAutoImplicit false
set_option autoImplicit false

/-!
# Texts and their bytes

Rust's `str` and `String` as far as the driver uses them: a text is a Lean `String`, its bytes
are its UTF-8 encoding. The functions are those of the standard library under their Rust names.

## Main definitions

* `OracleRs.asBytes`, `OracleRs.fromUtf8`, `OracleRs.fromUtf8Lossy` — texts and byte strings.
* `OracleRs.trim` — a text without the white space around it.
* `OracleRs.parseInt` — the number of a decimal text, if it is in the range of the target type.

## Main results

* `OracleRs.fromUtf8_asBytes`, `OracleRs.fromUtf8Lossy_asBytes`, `OracleRs.asBytes_of_fromUtf8` — the
  bytes of a text are read back.
* `OracleRs.fromUtf8Lossy_encode_append` — a character at the front of a byte string is kept.
* `OracleRs.asBytes_ofList` — the bytes of an ASCII text are its character codes.
-/

namespace OracleRs

/-! ## Bytes -/

/-- `str::as_bytes`. -/
def asBytes (s : String) : Bytes := s.toList.flatMap String.utf8EncodeChar

/-- `String::from_utf8`. -/
def fromUtf8 (bytes : Bytes) : Option String := String.fromUTF8? ⟨bytes.toArray⟩

/-- The byte is a continuation byte that stands in the range `lo` to `hi`. -/
private def inRange (lo hi : UInt8) : Bytes → Bool
  | b :: _ => lo ≤ b && b ≤ hi
  | [] => false

/-- How many bytes the invalid sequence at the front of a byte string has that begins with
`first`: the longest beginning of a character's encoding, and at least one byte. -/
def invalidLength (first : UInt8) (rest : Bytes) : ℕ :=
  let second :=
    if first = 0xE0 then inRange 0xA0 0xBF rest
    else if 0xE1 ≤ first ∧ first ≤ 0xEC ∨ 0xEE ≤ first ∧ first ≤ 0xEF then inRange 0x80 0xBF rest
    else if first = 0xED then inRange 0x80 0x9F rest
    else if first = 0xF0 then inRange 0x90 0xBF rest
    else if 0xF1 ≤ first ∧ first ≤ 0xF3 then inRange 0x80 0xBF rest
    else if first = 0xF4 then inRange 0x80 0x8F rest
    else false
  if ¬ second then 1
  else if 0xF0 ≤ first ∧ inRange 0x80 0xBF (rest.drop 1) then 3
  else 2

/-- The characters of a byte string, with a replacement character for every invalid sequence.
The first argument bounds the number of characters. -/
def lossyChars : ℕ → Bytes → List Char
  | 0, _ => []
  | _ + 1, [] => []
  | n + 1, b :: rest =>
    match ByteArray.utf8DecodeChar? ⟨(b :: rest).toArray⟩ 0 with
    | some c => c :: lossyChars n (rest.drop (c.utf8Size - 1))
    | none => '\uFFFD' :: lossyChars n (rest.drop (invalidLength b rest - 1))

/-- `String::from_utf8_lossy`. -/
def fromUtf8Lossy (bytes : Bytes) : String :=
  match fromUtf8 bytes with
  | some s => s
  | none => String.ofList (lossyChars bytes.length bytes)

lemma toArray_asBytes (s : String) : (⟨(asBytes s).toArray⟩ : ByteArray) = s.toByteArray := by
  rw [← String.utf8Encode_toList, List.utf8Encode, asBytes]
  ext1
  simp

/-- The bytes of a text are read back. -/
@[simp] lemma fromUtf8_asBytes (s : String) : fromUtf8 (asBytes s) = some s := by
  rw [fromUtf8, toArray_asBytes, String.fromUTF8?, dif_pos s.isValidUTF8]
  rfl

/-- What is read as a text are its bytes. -/
lemma asBytes_of_fromUtf8 {bytes : Bytes} {s : String} (h : fromUtf8 bytes = some s) :
    asBytes s = bytes := by
  rw [fromUtf8, String.fromUTF8?] at h
  split_ifs at h with hvalid
  have hbytes : (String.fromUTF8 ⟨bytes.toArray⟩ hvalid).toByteArray = ⟨bytes.toArray⟩ := rfl
  have harray := toArray_asBytes s
  cases h
  rw [hbytes, ByteArray.mk.injEq] at harray
  exact List.toArray_inj harray

@[simp] lemma fromUtf8Lossy_asBytes (s : String) : fromUtf8Lossy (asBytes s) = s := by
  rw [fromUtf8Lossy, fromUtf8_asBytes]

/-- A bound that is large enough makes no difference. -/
lemma lossyChars_stable {n m : ℕ} {bytes : Bytes} (hn : bytes.length ≤ n) (hm : bytes.length ≤ m) :
    lossyChars n bytes = lossyChars m bytes := by
  induction n generalizing m bytes with
  | zero =>
    rw [List.length_eq_zero_iff.mp (Nat.le_zero.mp hn)]
    cases m <;> rfl
  | succ n ih =>
    cases bytes with
    | nil => cases m <;> rfl
    | cons b rest =>
      cases m with
      | zero => cases hm
      | succ m =>
        have hdrop : ∀ k, (rest.drop k).length ≤ rest.length := fun k => by simp
        rw [List.length_cons, Nat.succ_le_succ_iff] at hn hm
        rw [lossyChars, lossyChars]
        cases ByteArray.utf8DecodeChar? ⟨(b :: rest).toArray⟩ 0 with
        | some c => exact congrArg (c :: ·) (ih ((hdrop _).trans hn) ((hdrop _).trans hm))
        | none => exact congrArg ('\uFFFD' :: ·) (ih ((hdrop _).trans hn) ((hdrop _).trans hm))

/-- A character at the front is decoded. -/
lemma lossyChars_encode (c : Char) (rest : Bytes) {n : ℕ}
    (h : (String.utf8EncodeChar c ++ rest).length ≤ n) :
    lossyChars n (String.utf8EncodeChar c ++ rest) = c :: lossyChars n rest := by
  have hdecode : ByteArray.utf8DecodeChar? ⟨(String.utf8EncodeChar c ++ rest).toArray⟩ 0 = some c := by
    have happend : (⟨(String.utf8EncodeChar c ++ rest).toArray⟩ : ByteArray) =
        (String.utf8EncodeChar c).toByteArray ++ ⟨rest.toArray⟩ := by
      ext1
      simp
    rw [happend]
    exact ByteArray.utf8DecodeChar?_utf8EncodeChar_append
  have hsize := String.length_utf8EncodeChar c
  cases hbytes : String.utf8EncodeChar c with
  | nil =>
    rw [hbytes] at hsize
    exact absurd hsize.symm (Char.utf8Size_pos c).ne'
  | cons b tail =>
    rw [hbytes] at hdecode hsize h
    cases n with
    | zero => cases h
    | succ n =>
      rw [List.cons_append] at hdecode h
      have htail : (tail ++ rest).drop (c.utf8Size - 1) = rest := by
        rw [← hsize, List.length_cons, Nat.add_sub_cancel, List.drop_left]
      rw [List.cons_append, lossyChars, hdecode]
      show c :: lossyChars n ((tail ++ rest).drop (c.utf8Size - 1)) = _
      rw [htail, List.length_cons, List.length_append] at *
      have hlen : rest.length ≤ n := by omega
      rw [lossyChars_stable hlen (Nat.le_succ_of_le hlen)]

lemma asBytes_ofList_cons (c : Char) (cs : List Char) :
    asBytes (String.ofList (c :: cs)) = String.utf8EncodeChar c ++ asBytes (String.ofList cs) := by
  rw [asBytes, asBytes, String.toList_ofList, String.toList_ofList, List.flatMap_cons]

/-- Behind a character there is a text if and only if there is one with it. -/
lemma fromUtf8_encode_append (c : Char) (rest : Bytes) :
    fromUtf8 (String.utf8EncodeChar c ++ rest) =
      (fromUtf8 rest).map fun s => String.ofList (c :: s.toList) := by
  cases hrest : fromUtf8 rest with
  | some t =>
    have hbytes : String.utf8EncodeChar c ++ rest = asBytes (String.ofList (c :: t.toList)) := by
      rw [asBytes_ofList_cons, String.ofList_toList, asBytes_of_fromUtf8 hrest]
    rw [hbytes, fromUtf8_asBytes]
    rfl
  | none =>
    cases hall : fromUtf8 (String.utf8EncodeChar c ++ rest) with
    | none => rfl
    | some s =>
      -- the first character of the text is `c`, and the others are a text in the rest
      have hbytes := asBytes_of_fromUtf8 hall
      rw [← String.ofList_toList (s := s)] at hbytes
      cases hs : s.toList with
      | nil =>
        rw [hs] at hbytes
        have hempty : String.utf8EncodeChar c = [] := (List.append_eq_nil_iff.mp hbytes.symm).1
        have hsize := String.length_utf8EncodeChar c
        rw [hempty] at hsize
        exact absurd hsize.symm (Char.utf8Size_pos c).ne'
      | cons d ds =>
        rw [hs, asBytes_ofList_cons] at hbytes
        have hchars := lossyChars_encode d (asBytes (String.ofList ds)) le_rfl
        rw [hbytes, lossyChars_encode c rest le_rfl] at hchars
        obtain ⟨rfl, -⟩ := List.cons_eq_cons.mp hchars
        rw [← List.append_cancel_left hbytes, fromUtf8_asBytes] at hrest
        cases hrest

/-- A character at the front is kept. -/
lemma fromUtf8Lossy_encode_append (c : Char) (rest : Bytes) :
    fromUtf8Lossy (String.utf8EncodeChar c ++ rest) =
      String.ofList (c :: (fromUtf8Lossy rest).toList) := by
  rw [fromUtf8Lossy, fromUtf8Lossy, fromUtf8_encode_append]
  cases fromUtf8 rest with
  | some t => rfl
  | none =>
    have hlen : rest.length ≤ (String.utf8EncodeChar c ++ rest).length := by simp
    simp only [Option.map_none, String.toList_ofList]
    rw [lossyChars_encode c rest le_rfl, lossyChars_stable hlen le_rfl]

/-- The bytes of an ASCII text are its character codes. -/
lemma asBytes_ofList {cs : List Char} (h : ∀ c ∈ cs, c.toNat < 128) :
    asBytes (String.ofList cs) = cs.map fun c => UInt8.ofNat c.toNat := by
  rw [asBytes, String.toList_ofList]
  induction cs with
  | nil => rfl
  | cons c cs ih =>
    have hsize : c.utf8Size = 1 := by
      have hc : c.toNat < 128 := h c (by simp)
      rw [Char.utf8Size_eq_one_iff, UInt32.le_iff_toNat_le]
      exact Nat.le_of_lt_succ hc
    rw [List.flatMap_cons, String.utf8EncodeChar_eq_singleton hsize, List.map_cons,
      ih fun x hx => h x (by simp [hx])]
    congr 1

lemma length_asBytes_replicate (n : ℕ) : (asBytes (String.ofList (List.replicate n 'a'))).length = n := by
  have hascii : ∀ c ∈ List.replicate n 'a', c.toNat < 128 := by
    intro c hc
    rw [List.eq_of_mem_replicate hc]
    decide
  rw [asBytes_ofList hascii, List.length_map, List.length_replicate]

/-- A text without bytes is empty. -/
lemma asBytes_eq_nil_iff (s : String) : asBytes s = [] ↔ s = "" := by
  constructor
  · intro h
    have hback := fromUtf8_asBytes s
    rw [h] at hback
    exact (Option.some.inj hback).symm.trans (by decide)
  · rintro rfl
    rfl

/-- A character has at most four bytes. -/
lemma length_asBytes_le (s : String) : (asBytes s).length ≤ 4 * s.length := by
  rw [asBytes, ← String.length_toList]
  induction s.toList with
  | nil => exact Nat.le_refl 0
  | cons c cs ih =>
    have hsize := String.length_utf8EncodeChar c
    have hfour := c.utf8Size_le_four
    rw [List.flatMap_cons, List.length_append, List.length_cons]
    omega

lemma length_lossyChars_le (n : ℕ) (bytes : Bytes) :
    (asBytes (String.ofList (lossyChars n bytes))).length ≤ 4 * bytes.length := by
  induction n generalizing bytes with
  | zero => exact Nat.zero_le _
  | succ n ih =>
    cases bytes with
    | nil => exact Nat.zero_le _
    | cons b rest =>
      have hdrop : ∀ k, (rest.drop k).length ≤ rest.length := fun k => by simp
      have hstep : ∀ (c : Char) k, (asBytes (String.ofList (c :: lossyChars n (rest.drop k)))).length ≤
          4 * (b :: rest).length := by
        intro c k
        have hsize := c.utf8Size_le_four
        have hrest := ih (rest.drop k)
        have hlen := hdrop k
        rw [asBytes_ofList_cons, List.length_append, String.length_utf8EncodeChar, List.length_cons]
        omega
      rw [lossyChars]
      cases ByteArray.utf8DecodeChar? ⟨(b :: rest).toArray⟩ 0 with
      | some c => exact hstep c _
      | none => exact hstep _ _

lemma length_fromUtf8Lossy_le (bytes : Bytes) : (asBytes (fromUtf8Lossy bytes)).length ≤ 4 * bytes.length := by
  rw [fromUtf8Lossy]
  cases htext : fromUtf8 bytes with
  | some s =>
    simp only
    rw [asBytes_of_fromUtf8 htext]
    omega
  | none => exact length_lossyChars_le _ _

/-- The beginning of a text is read as a text that is not much longer: one character may be cut off. -/
lemma length_fromUtf8Lossy_take_le (cs : List Char) (n : ℕ) :
    (asBytes (fromUtf8Lossy ((asBytes (String.ofList cs)).take n))).length ≤ n + 12 := by
  induction cs generalizing n with
  | nil =>
    have hle := length_fromUtf8Lossy_le ((asBytes (String.ofList [])).take n)
    have hnil : ((asBytes (String.ofList [])).take n).length = 0 := by simp [asBytes]
    omega
  | cons c cs ih =>
    have hsize := String.length_utf8EncodeChar c
    have hfour := c.utf8Size_le_four
    rw [asBytes_ofList_cons]
    by_cases hcut : n < c.utf8Size
    · have hle := length_fromUtf8Lossy_le ((String.utf8EncodeChar c ++ asBytes (String.ofList cs)).take n)
      have htake := List.length_take_le n (String.utf8EncodeChar c ++ asBytes (String.ofList cs))
      omega
    · have hrest := ih (n - c.utf8Size)
      rw [List.take_append, List.take_of_length_le (by omega), hsize, fromUtf8Lossy_encode_append,
        asBytes_ofList_cons, String.ofList_toList, List.length_append]
      omega

/-! ## White space and numbers -/

/-- `char::is_whitespace`: the Unicode property White_Space. -/
def isWhitespace (c : Char) : Bool :=
  let n := c.toNat
  (0x09 ≤ n && n ≤ 0x0D) || n == 0x20 || n == 0x85 || n == 0xA0 || n == 0x1680 ||
    (0x2000 ≤ n && n ≤ 0x200A) || n == 0x2028 || n == 0x2029 || n == 0x202F || n == 0x205F ||
    n == 0x3000

/-- `str::trim`. -/
def trim (s : String) : String :=
  String.ofList ((s.toList.dropWhile isWhitespace).reverse.dropWhile isWhitespace).reverse

/-- A text with something other than white space in it is not empty without the white space around it. -/
lemma trim_ne_empty {s : String} {c : Char} (hc : c ∈ s.toList) (h : isWhitespace c = false) :
    trim s ≠ "" := by
  have hleft : c ∈ s.toList.dropWhile isWhitespace := by
    rw [← List.takeWhile_append_dropWhile (p := isWhitespace) (l := s.toList)] at hc
    rcases List.mem_append.mp hc with hmem | hmem
    · rw [List.mem_takeWhile_imp hmem] at h
      cases h
    · exact hmem
  intro hempty
  have hnil := congrArg String.toList hempty
  rw [trim, String.toList_ofList] at hnil
  have hall := List.dropWhile_eq_nil_iff.mp (List.reverse_eq_nil_iff.mp hnil) c
    (List.mem_reverse.mpr hleft)
  rw [h] at hall
  cases hall

/-- Nothing is stripped from a text that begins and ends with something other than white space. -/
lemma trim_eq_self_of_ends {s : String} (hhead : ∀ c ∈ s.toList.head?, isWhitespace c = false)
    (hlast : ∀ c ∈ s.toList.getLast?, isWhitespace c = false) : trim s = s := by
  have hdrop (cs : List Char) (hcs : ∀ c ∈ cs.head?, isWhitespace c = false) :
      cs.dropWhile isWhitespace = cs := by
    cases cs with
    | nil => rfl
    | cons c cs =>
      have hc : isWhitespace c = false := hcs c rfl
      rw [List.dropWhile_cons_of_neg (by simp [hc])]
  rw [trim, hdrop _ hhead, hdrop _ (by rwa [List.head?_reverse]), List.reverse_reverse, String.ofList_toList]

/-- `u8::is_ascii_digit`. -/
def isAsciiDigit (b : UInt8) : Bool := 48 ≤ b && b ≤ 57

/-- The digit of a byte (`b - b'0'`). -/
def digitOf (b : UInt8) : ℕ := b.toNat - 48

/-- An optional sign in front of a number: is it a minus sign, and what stands behind it? -/
def splitSign : Bytes → Bool × Bytes
  | [] => (false, [])
  | b :: rest => if b = 45 then (true, rest) else if b = 43 then (false, rest) else (false, b :: rest)

/-- `str::parse` for an integer type with the range from `lo` to `hi`: an optional sign and
digits. -/
def parseInt (lo hi : ℤ) (bytes : Bytes) : Option ℤ :=
  let (negative, ds) := splitSign bytes
  if ds = [] ∨ ¬ ds.all isAsciiDigit then
    none
  else
    let n : ℤ := Decimal.ofDigits (ds.map digitOf)
    let v := if negative then -n else n
    if lo ≤ v ∧ v ≤ hi then some v else none

end OracleRs
