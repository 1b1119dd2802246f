import OracleRs.Response.Describe

set_option relaxedAutoImplicit false
set_option autoImplicit false

/-!
# How much of an I/O vector is read

An I/O vector declares a number of binds and has one direction for each of them, whatever the number of
parameters is that the caller knows. `parse_io_vector` computes the number of binds in 32 bits and reads
no more directions than there are parameters. What it leaves is taken for the next messages.

## Main definitions

* `OracleRs.IoVectorMessage` — an I/O vector with any number of binds.
* `OracleRs.IoVectorMessage.Consumed` — no success of the parser stops before or behind the end of it.
* `OracleRs.IoVectorMessage.NoOverflow` — the number of binds is computed as declared.

## Main results

* `OracleRs.IoVectorMessage.reads_parseIoVector` — what is read of an I/O vector.
* `OracleRs.IoVectorMessage.consumed_and_noOverflow_iff` — when nothing is left and nothing overflows.
-/

namespace OracleRs

open Cursor

/-- An I/O vector as a server may write it: one direction for every declared bind. -/
structure IoVectorMessage where
  /-- a flag -/
  flag : UInt8
  /-- number of requests -/
  numRequests : Ub 2
  /-- number of iterations -/
  numIters : Ub 4
  /-- iterations this time -/
  itersThisTime : Ub 4
  /-- buffer length -/
  uacBufferLength : Ub 2
  /-- bit vector -/
  bitVector : Counted 2
  /-- row id -/
  rowid : Counted 2
  /-- the directions -/
  directions : Bytes
  /-- there is one direction for every declared bind -/
  length_eq : directions.length = numIters.value * 256 + numRequests.value

namespace IoVectorMessage

variable (v : IoVectorMessage) (params : List BindParam)

/-- The number of binds that the message declares. -/
def binds : ℕ := v.numIters.value * 256 + v.numRequests.value

/-- What stands in front of the directions. -/
def header : Bytes :=
  [v.flag] ++ (v.numRequests.encode ++ (v.numIters.encode ++ (v.itersThisTime.encode ++
    (v.uacBufferLength.encode ++ (v.bitVector.encode ++ v.rowid.encode)))))

/-- The bytes behind the message type. -/
def encode : Bytes := v.header ++ v.directions

/-- `num_iters * 256 + num_requests` in 32 bits. -/
def numBinds : UInt32 :=
  UInt32.ofNat v.numIters.value * 256 + (UInt16.ofNat v.numRequests.value).toUInt32

/-- The computation of the number of binds does not overflow. -/
def NoOverflow : Prop := v.numBinds.toNat = v.binds

/-- The parser fails or leaves the buffer at the first byte behind the message. -/
def Consumed : Prop :=
  ∀ (tail : Bytes) (buf buf' : ReadBuffer) (outs : List ℕ × List ColumnInfo),
    buf.rest = v.encode ++ tail → parseIoVector params buf = .ok outs buf' → buf'.rest = tail

lemma toNat_numBinds : v.numBinds.toNat = v.binds % 2 ^ 32 := by
  rw [numBinds, UInt32.toNat_add, UInt32.toNat_mul, v.numIters.toNat_value4, UInt16.toNat_toUInt32,
    v.numRequests.toNat_value2, binds]
  exact Nat.mod_add_mod _ _ _

lemma noOverflow_iff : v.NoOverflow ↔ v.binds < 2 ^ 32 := by
  rw [NoOverflow, toNat_numBinds]
  omega

/-- As many directions are read as there are both binds in 32 bits and parameters. -/
lemma reads_parseIoVector : ∃ outs, Reads (parseIoVector params)
    (v.header ++ v.directions.take (min v.numBinds.toNat params.length)) outs := by
  have hlen : min v.numBinds.toNat params.length =
      (v.directions.take (min v.numBinds.toNat params.length)).length := by
    have hle := Nat.mod_le v.binds (2 ^ 32)
    rw [List.length_take, v.length_eq, ← binds, toNat_numBinds]
    omega
  have hreads := reads_parseIoVector_directions v.flag v.numRequests v.numIters v.itersThisTime
    v.uacBufferLength v.bitVector v.rowid hlen
  have hbytes : v.header ++ v.directions.take (min v.numBinds.toNat params.length) = [v.flag] ++
      (v.numRequests.encode ++ (v.numIters.encode ++ (v.itersThisTime.encode ++
        (v.uacBufferLength.encode ++ (v.bitVector.encode ++ (v.rowid.encode ++
          v.directions.take (min v.numBinds.toNat params.length))))))) := by
    simp only [header, List.append_assoc]
  rw [← hbytes] at hreads
  exact ⟨_, hreads⟩

/-- **The message is consumed and its number of binds does not overflow if and only if the caller has a
parameter for each bind and 32 bits are enough for their number.** -/
theorem consumed_and_noOverflow_iff :
    v.Consumed params ∧ v.NoOverflow ↔ v.binds ≤ params.length ∧ v.binds < 2 ^ 32 := by
  rw [noOverflow_iff]
  refine and_congr_left fun hlt => ?_
  obtain ⟨outs, hreads⟩ := v.reads_parseIoVector params
  have hnum : v.numBinds.toNat = v.binds := v.noOverflow_iff.mpr hlt
  rw [hnum] at hreads
  constructor
  · intro hconsumed
    -- on the message alone the parser leaves the directions without a parameter
    have hrest : (⟨v.encode, 0⟩ : ReadBuffer).rest =
        v.header ++ v.directions.take (min v.binds params.length) ++
          v.directions.drop (min v.binds params.length) := by
      rw [List.append_assoc, List.take_append_drop]
      rfl
    have hleft := rest_advance_of_append hrest
    have hnil := hconsumed [] ⟨v.encode, 0⟩ _ outs (List.append_nil v.encode).symm (hreads _ _ hrest)
    have hlen := List.drop_eq_nil_iff.mp (hleft.symm.trans hnil)
    rw [v.length_eq, ← binds] at hlen
    exact hlen.trans (min_le_right _ _)
  · intro hle tail buf buf' outs' hrest hrun
    have hall : v.directions.take (min v.binds params.length) = v.directions := by
      rw [min_eq_left hle, binds, ← v.length_eq, List.take_length]
    rw [hall] at hreads
    rw [hreads buf tail hrest] at hrun
    cases hrun
    exact rest_advance_of_append hrest

/-- An I/O vector for two binds. -/
def pair : IoVectorMessage where
  flag := 0
  numRequests := Ub.byte 2
  numIters := Ub.zero
  itersThisTime := Ub.zero
  uacBufferLength := Ub.zero
  bitVector := Counted.nil
  rowid := Counted.nil
  directions := [16, 16]
  length_eq := rfl

/-- A caller without parameters leaves both directions to be read as messages. -/
theorem not_consumed_pair : ¬(pair.Consumed [] ∧ pair.NoOverflow) := by
  rintro ⟨hconsumed, -⟩
  have hrest := hconsumed [] ⟨pair.encode, 0⟩ ⟨pair.encode, 8⟩ ([], []) rfl rfl
  cases hrest

end IoVectorMessage

end OracleRs
