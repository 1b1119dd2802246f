import OracleRs.Lib.Agreement
import OracleRs.Response.ErrorInfo
import OracleRs.Types.NumberScan

set_option relaxedAutoImplicit false
set_option autoImplicit false

/-!
# The number of an error

`parse_error_info_with_rowcount` reads the number of an error, and gives it up again for another one if
the error's own text does not look like an Oracle error: it takes the number behind the first `ORA-` in
the packet, wherever that stands.

## Main definitions

* `OracleRs.oraNumber` — the number behind the first `ORA-` of a packet.
* `OracleRs.ErrorMessage.NumberKept` — the number that is read is the number of the message.

## Main results

* `OracleRs.extractOracleErrorText_eq` — the search finds that number.
* `OracleRs.ErrorMessage.numberKept_iff` — when the number is kept.
-/

namespace OracleRs

open Cursor Decimal

/-! ## The search -/

/-- The number behind the first `ORA-` of a packet, if five digits stand there. -/
def oraNumber (packet : Bytes) : Option ℕ := do
  let rest ← fromFirstOra packet
  let digits := (rest.drop 4).take 5
  if digits.length = 5 ∧ digits.all isAsciiDigit then some (ofDigits (digits.map digitOf)) else none

lemma isPrefixOf_of_fromFirstOra {packet rest : Bytes} (h : fromFirstOra packet = some rest) :
    oraPrefix.isPrefixOf rest := by
  induction packet with
  | nil => cases h
  | cons b packet ih =>
    rw [fromFirstOra] at h
    split_ifs at h with hfirst
    · cases h
      exact hfirst
    · exact ih h

lemma digitOf_lt {b : UInt8} (h : isAsciiDigit b = true) : digitOf b < 10 := by
  simp only [isAsciiDigit, Bool.and_eq_true, decide_eq_true_eq, UInt8.le_iff_toNat_le] at h
  have hhigh : UInt8.toNat 57 = 57 := rfl
  rw [digitOf]
  omega

lemma digitByte_digitOf {b : UInt8} (h : isAsciiDigit b = true) : digitByte (digitOf b) = b := by
  have hlt := digitOf_lt h
  simp only [isAsciiDigit, Bool.and_eq_true, decide_eq_true_eq, UInt8.le_iff_toNat_le] at h
  have hlow : UInt8.toNat 48 = 48 := rfl
  apply UInt8.toNat_inj.mp
  rw [toNat_digitByte hlt, digitOf]
  omega

/-- Digits without a sign are read. -/
lemma parseInt_of_all {digits : Bytes} (hlen : digits.length = 5) (hall : digits.all isAsciiDigit) :
    parseInt 0 (2 ^ 32 - 1) digits = some (ofDigits (digits.map digitOf) : ℤ) := by
  rw [List.all_eq_true] at hall
  have hlt : ∀ d ∈ digits.map digitOf, d < 10 := by
    intro d hd
    obtain ⟨b, hb, rfl⟩ := List.mem_map.mp hd
    exact digitOf_lt (hall b hb)
  have hback : (digits.map digitOf).map digitByte = digits := by
    rw [List.map_map]
    exact (List.map_congr_left fun b hb => digitByte_digitOf (hall b hb)).trans (List.map_id digits)
  have hne : digits.map digitOf ≠ [] := by
    intro h
    rw [List.map_eq_nil_iff.mp h] at hlen
    cases hlen
  have hbound := ofDigits_lt hlt
  rw [List.length_map, hlen] at hbound
  have hparse : parseInt 0 (2 ^ 32 - 1) ((digits.map digitOf).map digitByte) = _ :=
    parseInt_digits hlt hne
  rw [hback, if_pos (by omega)] at hparse
  exact hparse

/-- The text from an `ORA-` to the end of the line is not empty. -/
lemma trim_oraLine_ne_empty {rest : Bytes} (h : oraPrefix.isPrefixOf rest) :
    trim (fromUtf8Lossy (rest.takeWhile fun b => b ≠ 10 && b ≠ 0x1D && b ≠ 0)) ≠ "" := by
  obtain ⟨tail, rfl⟩ := List.isPrefixOf_iff_prefix.mp h
  have hline : ∃ line, (oraPrefix ++ tail).takeWhile (fun b => b ≠ 10 && b ≠ 0x1D && b ≠ 0) =
      String.utf8EncodeChar 'O' ++ line := ⟨_, rfl⟩
  obtain ⟨line, hline⟩ := hline
  rw [hline, fromUtf8Lossy_encode_append]
  refine trim_ne_empty (c := 'O') ?_ (by decide)
  rw [String.toList_ofList]
  exact List.mem_cons_self

/-- The search of a packet finds the number behind the first `ORA-`. -/
lemma extractOracleErrorText_eq (packet : Bytes) :
    (extractOracleErrorText packet).map Prod.fst = (oraNumber packet).map UInt32.ofNat := by
  rw [extractOracleErrorText, oraNumber]
  cases hrest : fromFirstOra packet with
  | none => rfl
  | some rest =>
    have hmessage := trim_oraLine_ne_empty (isPrefixOf_of_fromFirstOra hrest)
    simp only [Option.bind_eq_bind, Option.bind_some]
    have hlen : ((rest.drop 4).take 5).length ≤ 5 := List.length_take_le 5 _
    by_cases hdigits : ((rest.drop 4).take 5).length = 5 ∧ ((rest.drop 4).take 5).all isAsciiDigit
    · rw [if_pos hdigits, if_neg (by rw [not_or, not_not]; exact ⟨by omega, hdigits.2⟩),
        parseInt_of_all hdigits.1 hdigits.2, Option.bind_some, if_neg hmessage]
      rfl
    · rw [if_neg hdigits, if_pos]
      · rfl
      · by_contra hnot
        rw [not_or, not_not] at hnot
        exact hdigits ⟨by omega, hnot.2⟩

/-- The number behind an `ORA-` has five digits. -/
lemma oraNumber_lt {packet : Bytes} {number : ℕ} (h : oraNumber packet = some number) :
    number < 2 ^ 32 := by
  rw [oraNumber] at h
  obtain ⟨rest, -, hdigits⟩ := Option.bind_eq_some_iff.mp h
  dsimp only at hdigits
  split_ifs at hdigits with hfive
  cases hdigits
  have hlt : ∀ d ∈ ((rest.drop 4).take 5).map digitOf, d < 10 := by
    intro d hd
    obtain ⟨b, hb, rfl⟩ := List.mem_map.mp hd
    exact digitOf_lt (List.all_eq_true.mp hfive.2 b hb)
  have hbound := ofDigits_lt hlt
  rw [List.length_map, hfive.1] at hbound
  omega

/-! ## The number that is read -/

namespace ErrorMessage

variable {version : UInt8} {m : ErrorMessage} {c : ReadBuffer} {r : Bytes}

/-- The number that is read at a place of a packet is that of the message. -/
def NumberKept (m : ErrorMessage) (c : ReadBuffer) : Prop :=
  ∃ info c', parseErrorInfoWithRowcount c = .ok info c' ∧ info.1 = m.code

/-- With a text that it reads, the number of an error is not replaced if the text looks like an Oracle
error, or if the packet has no other number behind its first `ORA-`. -/
lemma overrideErrorText_eq_code_iff (hcode : m.code ≠ 0) {packet : Bytes} {text : Option String} :
    (overrideErrorText packet m.code text).1 = m.code ↔
      text.any containsOra ∨ ∀ number, oraNumber packet = some number → number = m.number.value := by
  by_cases hora : text.any containsOra
  · exact iff_of_true (by rw [overrideErrorText, if_neg fun h => h.2 hora]) (Or.inl hora)
  · rw [overrideErrorText, if_pos ⟨hcode, hora⟩, or_iff_right hora]
    have hsearch := extractOracleErrorText_eq packet
    cases hextract : extractOracleErrorText packet with
    | none =>
      rw [hextract] at hsearch
      have hnone := Option.map_eq_none_iff.mp hsearch.symm
      refine iff_of_true rfl fun number hnumber => ?_
      rw [hnone] at hnumber
      cases hnumber
    | some found =>
      rw [hextract] at hsearch
      obtain ⟨number, hnumber, hfound⟩ := Option.map_eq_some_iff.mp hsearch.symm
      have hvalue : m.number.value < 2 ^ 32 := m.number.value_lt
      have hlt := oraNumber_lt hnumber
      show found.1 = m.code ↔ _
      rw [← hfound, hnumber, ErrorMessage.code, ← UInt32.toNat_inj, UInt32.toNat_ofNat',
        UInt32.toNat_ofNat', Nat.mod_eq_of_lt hlt, Nat.mod_eq_of_lt hvalue]
      exact ⟨fun h n hn => (Option.some.inj hn).symm.trans h, fun h => h number rfl⟩

/-- The number of an error is kept if its own text looks like an Oracle error, or if the packet has no
other number behind its first `ORA-`. -/
theorem numberKept_iff (hcode : m.code ≠ 0) (hv : version ≥ fieldVersion21_1)
    (hc : c.rest = m.encode version ++ r) :
    m.NumberKept c ↔
      m.message.any containsOra ∨ ∀ number, oraNumber c.data = some number → number = m.number.value := by
  have hkept : m.NumberKept c ↔ (overrideErrorText c.data m.code m.message).1 = m.code := by
    rw [NumberKept, m.parseErrorInfoWithRowcount_eq hv c r hc]
    constructor
    · rintro ⟨info, c', ⟨⟩, hinfo⟩
      exact hinfo
    · intro h
      exact ⟨_, _, rfl, h⟩
  rw [hkept]
  exact overrideErrorText_eq_code_iff hcode

/-- Error 942 without a text. -/
def silent : ErrorMessage := .plain Ub.zero ⟨[3, 0xAE], length_failureNumber_le⟩ none

/-- Its number is kept in a packet of its own. -/
theorem numberKept_silent : silent.NumberKept ⟨silent.encode 24, 0⟩ := by
  have hiff := @numberKept_iff 24 silent ⟨silent.encode 24, 0⟩ [] (by decide) (by decide)
    (List.append_nil _).symm
  refine hiff.mpr (Or.inr fun number hnumber => ?_)
  have hnone : oraNumber (silent.encode 24) = none := by decide +kernel
  cases hnone.symm.trans hnumber

/-- Behind a row with the text `ORA-01403` the number 942 is replaced by 1403, which stands for the end
of the rows. -/
theorem not_numberKept :
    ¬ ∀ (m : ErrorMessage) (version : UInt8) (c : ReadBuffer) (r : Bytes), m.code ≠ 0 →
      version ≥ fieldVersion21_1 → c.rest = m.encode version ++ r → m.NumberKept c := by
  intro h
  have hkept := h silent 24 ⟨asBytes "ORA-01403" ++ silent.encode 24, 9⟩ [] (by decide) (by decide)
    (List.append_nil _).symm
  obtain ⟨info, c', hread, hcode⟩ := hkept
  have hreplaced : (outcome (parseErrorInfoWithRowcount
      ⟨asBytes "ORA-01403" ++ silent.encode 24, 9⟩)).map (·.1.1) = some 1403 := by decide +kernel
  rw [hread] at hreplaced
  have heq : info.1 = 1403 := Option.some.inj hreplaced
  rw [heq] at hcode
  exact absurd hcode (by decide)

end ErrorMessage

end OracleRs
