import OracleRs.Response.Parameters

set_option relaxedAutoImplicit false
set_option autoImplicit false

/-!
# Finding the Error message behind opaque return parameters

Return parameters of an unknown layout are skipped by looking for the Error message behind them: the
parser stops at the first byte behind the first one of the payload from which an Error message can be read
that ends where the response ends or another closing message begins. The real Error message is such a
place; it is found unless the payload has one itself, or is empty.

## Main definitions

* `OracleRs.AtTerminal` — what stands behind an Error message.
* `OracleRs.OpaqueParameters` — a buffer with an opaque payload and an Error message behind it.

## Main results

* `OracleRs.OpaqueParameters.alignedToTerminal_length` — the real Error message is a place to stop at.
* `OracleRs.OpaqueParameters.parseReturnParametersInternal_iff` — where the parser stops.
-/

namespace OracleRs

open Cursor

/-- Nothing, or the beginning of a Status or EndOfResponse message. -/
def AtTerminal (tail : Bytes) : Prop :=
  tail = [] ∨ tail[0]? = some MessageType.status.code ∨ tail[0]? = some MessageType.endOfResponse.code

/-- A buffer in which return parameters of an unknown layout and an Error message follow, the Error message
in the layout of a server with the given field version. -/
structure OpaqueParameters (ttcFieldVersion : UInt8) (wantRowCounts : Bool) where
  /-- the payload of the return parameters -/
  payload : Bytes
  /-- the Error message -/
  error : ErrorMessage
  /-- what stands behind the Error message -/
  tail : Bytes
  /-- the buffer -/
  buf : ReadBuffer
  /-- the Error message has the fields of modern servers -/
  modern : ttcFieldVersion ≥ fieldVersion21_1
  /-- the Error message is followed by nothing or a closing message -/
  terminal : AtTerminal tail
  /-- this is what the buffer holds -/
  rest_eq : buf.rest = payload ++ MessageType.error.code :: (error.encode ttcFieldVersion ++ tail)
  /-- the payload does not have the standard layout -/
  rejected : ∃ e buf', parseStandardReturnParameters wantRowCounts buf = .error e buf'

namespace OpaqueParameters

variable {ttcFieldVersion : UInt8} {wantRowCounts : Bool}
  (o : OpaqueParameters ttcFieldVersion wantRowCounts)

lemma drop_length : o.buf.rest.drop (o.payload.length + 1) = o.error.encode ttcFieldVersion ++ o.tail := by
  rw [o.rest_eq, ← List.drop_drop, List.drop_left]
  rfl

lemma length_rest : o.buf.rest.length =
    o.payload.length + 1 + (o.error.encode ttcFieldVersion).length + o.tail.length := by
  rw [o.rest_eq, List.length_append, List.length_cons, List.length_append]
  omega

/-- Behind the Error message there is what the parser looks for. -/
lemma getElem?_rest : o.buf.rest[o.payload.length + 1 + (o.error.encode ttcFieldVersion).length]? =
    o.tail[0]? := by
  have hdrop : o.buf.rest.drop (o.payload.length + 1 + (o.error.encode ttcFieldVersion).length) = o.tail := by
    rw [← List.drop_drop, o.drop_length, List.drop_left]
  rw [← hdrop, List.getElem?_drop]
  rfl

/-- The real Error message is a place where the parser may stop. -/
lemma alignedToTerminal_length : alignedToTerminal o.buf.rest o.payload.length = true := by
  have hbyte : o.buf.rest[o.payload.length]? = some MessageType.error.code := by
    rw [o.rest_eq, List.getElem?_append_right le_rfl, Nat.sub_self]
    rfl
  have hprobe := o.error.parseErrorInfoWithRowcount_eq o.modern
    ⟨o.buf.rest.drop (o.payload.length + 1), 0⟩ o.tail (by rw [rest_mk_zero, o.drop_length])
  rw [alignedToTerminal, hbyte, hprobe]
  simp only [pos_advance, Nat.zero_add, o.getElem?_rest, decide_true, Bool.true_and, Bool.or_eq_true,
    decide_eq_true_eq]
  rw [o.length_rest, or_assoc]
  refine o.terminal.imp (fun hnil => ?_) id
  rw [hnil]
  rfl

/-- The parser stops at a place inside the buffer. -/
lemma setPosition_of_mem {n : ℕ} (h : n ∈ List.range' 1 (o.buf.rest.length - 1)) :
    setPosition (o.buf.pos + n) o.buf = .ok () (o.buf.advance n) := by
  rw [List.mem_range'_1, rest, List.length_drop] at h
  rw [setPosition, if_neg (by omega)]
  rfl

/-- The parser stops at the first place where it may. -/
lemma parseReturnParametersInternal_of_find {n : ℕ}
    (h : (List.range' 1 (o.buf.rest.length - 1)).find? (alignedToTerminal o.buf.rest) = some n) :
    parseReturnParametersInternal wantRowCounts o.buf = .ok none (o.buf.advance n) := by
  obtain ⟨e, buf', hrejected⟩ := o.rejected
  have hskip : skipSessionStateReturnParameter o.buf = .ok true (o.buf.advance n) := by
    rw [skipSessionStateReturnParameter]
    refine (bind_ok rfl).trans ?_
    simp only [h]
    rw [bind_ok (o.setPosition_of_mem (List.mem_of_find?_eq_some h))]
    rfl
  rw [parseReturnParametersInternal, hrejected]
  exact bind_ok hskip

/-- The parser never stops at the first byte. -/
lemma one_le_of_parseReturnParametersInternal {n : ℕ}
    (h : parseReturnParametersInternal wantRowCounts o.buf = .ok none (o.buf.advance n)) : 1 ≤ n := by
  cases hfind : (List.range' 1 (o.buf.rest.length - 1)).find? (alignedToTerminal o.buf.rest) with
  | some k =>
    have hmem := List.mem_of_find?_eq_some hfind
    rw [List.mem_range'_1] at hmem
    rw [o.parseReturnParametersInternal_of_find hfind] at h
    injection h with _ hk
    rw [advance_inj] at hk
    omega
  | none =>
    obtain ⟨e, buf', hrejected⟩ := o.rejected
    rw [parseReturnParametersInternal, hrejected] at h
    obtain ⟨found, buf₁, hskip, hrest⟩ := exists_of_bind_ok h
    rw [skipSessionStateReturnParameter] at hskip
    have hskip := (bind_ok rfl).symm.trans hskip
    simp only [hfind] at hskip
    cases hlook : (List.range' 1 (o.buf.rest.length - 1)).reverse.find? (looksLikeError o.buf.rest) with
    | some k =>
      have hmem := List.mem_reverse.mp (List.mem_of_find?_eq_some hlook)
      simp only [hlook] at hskip
      rw [bind_ok (o.setPosition_of_mem hmem)] at hskip
      cases hskip
      injection hrest with _ hk
      rw [advance_inj] at hk
      rw [List.mem_range'_1] at hmem
      omega
    | none =>
      simp only [hlook] at hskip
      cases hskip
      cases hrest

/-- Behind a payload that is not empty a place to stop is found, at the latest the Error message. -/
lemma exists_find (h : o.payload ≠ []) : ∃ n, n ≤ o.payload.length ∧
    (List.range' 1 (o.buf.rest.length - 1)).find? (alignedToTerminal o.buf.rest) = some n := by
  have hpos := List.length_pos_iff.mpr h
  have hlen := o.length_rest
  cases hfind : (List.range' 1 (o.buf.rest.length - 1)).find? (alignedToTerminal o.buf.rest) with
  | none =>
    have hnone := List.find?_range'_eq_none.mp hfind o.payload.length hpos (by omega)
    rw [o.alignedToTerminal_length] at hnone
    cases hnone
  | some n =>
    obtain ⟨-, -, hfirst⟩ := List.find?_range'_eq_some.mp hfind
    refine ⟨n, ?_, rfl⟩
    by_contra hlt
    have hnone := hfirst o.payload.length hpos (by omega)
    rw [o.alignedToTerminal_length] at hnone
    cases hnone

/-- **The parser stops behind a payload that is not empty, at the latest at the Error message; it stops at
the Error message if and only if no Error message can be read earlier that ends like it.** -/
theorem parseReturnParametersInternal_iff :
    (o.payload ≠ [] → ∃ n, 1 ≤ n ∧ n ≤ o.payload.length ∧
      parseReturnParametersInternal wantRowCounts o.buf = .ok none (o.buf.advance n)) ∧
    (parseReturnParametersInternal wantRowCounts o.buf = .ok none (o.buf.advance o.payload.length) ↔
      o.payload ≠ [] ∧
        ∀ n, 1 ≤ n → n < o.payload.length → alignedToTerminal o.buf.rest n = false) := by
  constructor
  · intro hne
    obtain ⟨n, hle, hfind⟩ := o.exists_find hne
    have hrun := o.parseReturnParametersInternal_of_find hfind
    exact ⟨n, o.one_le_of_parseReturnParametersInternal hrun, hle, hrun⟩
  constructor
  · intro hrun
    have hpos := o.one_le_of_parseReturnParametersInternal hrun
    have hne : o.payload ≠ [] := List.length_pos_iff.mp hpos
    obtain ⟨n, -, hfind⟩ := o.exists_find hne
    rw [o.parseReturnParametersInternal_of_find hfind] at hrun
    injection hrun with _ hn
    rw [advance_inj] at hn
    subst hn
    obtain ⟨-, -, hfirst⟩ := List.find?_range'_eq_some.mp hfind
    exact ⟨hne, fun k hk hlt => by simpa using hfirst k hk hlt⟩
  · rintro ⟨hne, hfirst⟩
    have hpos := List.length_pos_iff.mpr hne
    have hlen := o.length_rest
    refine o.parseReturnParametersInternal_of_find (List.find?_range'_eq_some.mpr
      ⟨o.alignedToTerminal_length, List.mem_range'_1.mpr ⟨hpos, by omega⟩, fun k hk hlt => ?_⟩)
    rw [hfirst k hk hlt]
    rfl

/-- An Error message of success. -/
def success : ErrorMessage := ErrorMessage.plain Ub.zero Ub.zero none

/-- The bytes of this message with its type. -/
def successBytes : Bytes := MessageType.error.code :: success.encode fieldVersion21_1

/-- A payload that has an Error message and a Status byte in it, and the real Error message. -/
def hidden : OpaqueParameters fieldVersion21_1 false where
  payload := 5 :: (successBytes ++ [MessageType.status.code])
  error := success
  tail := []
  buf := ⟨5 :: (successBytes ++ [MessageType.status.code]) ++ successBytes, 0⟩
  modern := UInt8.le_refl _
  terminal := .inl rfl
  rest_eq := rfl
  rejected := ⟨_, _, rfl⟩

/-- The parser stops at the Error message in this payload. -/
theorem parseReturnParametersInternal_hidden :
    parseReturnParametersInternal false hidden.buf = .ok none (hidden.buf.advance 1) ∧
      parseReturnParametersInternal false hidden.buf ≠
        .ok none (hidden.buf.advance hidden.payload.length) := by
  have hrun : parseReturnParametersInternal false hidden.buf = .ok none (hidden.buf.advance 1) := rfl
  refine ⟨hrun, fun hreal => ?_⟩
  rw [hrun] at hreal
  injection hreal with _ hlen
  rw [advance_inj] at hlen
  cases hlen

end OpaqueParameters

end OracleRs
