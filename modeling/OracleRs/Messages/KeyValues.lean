import OracleRs.Buffer.Write
import OracleRs.Messages.Auth

set_option relaxedAutoImplicit false
set_option autoImplicit false

/-!
# Keys and values of the authentication

The pairs of a key and a value that the authentication writes (`write_key_value`), and the pair loop of
`parse_response` on them. The length of the value is written with 32 bits, and the loop takes the value only
if this length is not zero. So the pairs are read back unless a value that is not empty has a length that is
written as zero.

## Main definitions

* `OracleRs.AuthMessage.writeKeyValue` — one pair.
* `OracleRs.AuthMessage.RoundTrips` — the pair loop reads back the pairs that are written.

## Main results

* `OracleRs.AuthMessage.reads_readPair` — a pair is read back.
* `OracleRs.AuthMessage.roundTrips_iff` — when a list of pairs is read back.
-/

namespace OracleRs.AuthMessage

open Cursor
open Sink (Writes)

/-! ## One pair -/

/-- `write_key_value`. -/
def writeKeyValue (key value : String) (flags : UInt32) : WriteM Unit := do
  let keyBytes := asBytes key
  let valueBytes := asBytes value
  writeUb4 (UInt32.ofNat keyBytes.length)
  writeBytesWithLength (some keyBytes)
  writeUb4 (UInt32.ofNat valueBytes.length)
  if valueBytes ≠ [] then
    writeBytesWithLength (some valueBytes)
  writeUb4 flags

/-- A length as it is written with 32 bits. -/
def lengthBytes (bytes : Bytes) : Bytes := ubBytes (UInt32.ofNat bytes.length).toNat

/-- What is written for a key in front of its value. -/
def keyBytes (key : String) : Bytes :=
  lengthBytes (asBytes key) ++ (ByteString.ofBytes (asBytes key)).encode

/-- What is written for a value behind its length. -/
def valueBytes (value : String) : Bytes :=
  if asBytes value ≠ [] then (ByteString.ofBytes (asBytes value)).encode else []

/-- What is written for a pair. -/
def pairBytes (pair : String × String × UInt32) : Bytes :=
  keyBytes pair.1 ++ (lengthBytes (asBytes pair.2.1) ++ (valueBytes pair.2.1 ++ ubBytes pair.2.2.toNat))

lemma writes_writeKeyValue (pair : String × String × UInt32) :
    Writes (writeKeyValue pair.1 pair.2.1 pair.2.2) (pairBytes pair) := by
  obtain ⟨key, value, flags⟩ := pair
  have hstring (s : String) := writes_writeBytesWithLength (some (asBytes s))
  unfold writeKeyValue pairBytes keyBytes valueBytes
  rw [List.append_assoc]
  refine (writes_writeUb4 _).bind ((hstring key).bind ((writes_writeUb4 _).bind ?_))
  split_ifs with hvalue
  · exact (hstring value).bind (writes_writeUb4 flags)
  · exact writes_writeUb4 flags

/-- A text is read back. -/
lemma reads_text (s : String) :
    Reads readStringWithLength (ByteString.ofBytes (asBytes s)).encode (some s) := by
  refine (ByteString.ofBytes (asBytes s)).reads_readBytesWithLength.bind_nil ?_
  simp only [ByteString.content_ofBytes, fromUtf8_asBytes]
  exact Reads.pure _

/-- The length in front of a key is skipped. -/
lemma reads_skipUb4 (bytes : Bytes) : Reads skipUb4 (lengthBytes bytes) () := by
  have hlt := (UInt32.ofNat bytes.length).toNat_lt
  have hread := (Ub.shortest (UInt32.ofNat bytes.length).toNat (ubWidth_le_four hlt)).reads_skipUb
    (by decide)
  rwa [Ub.encode_shortest] at hread

/-- The value is not lost: it is empty, or its length is not written as zero. -/
def ValueKept (value : String) : Prop := value = "" ∨ ¬ 2 ^ 32 ∣ (asBytes value).length

lemma ofNat_pos_iff (n : ℕ) : UInt32.ofNat n > 0 ↔ ¬ 2 ^ 32 ∣ n := by
  rw [gt_iff_lt, UInt32.lt_iff_toNat_lt, UInt32.toNat_ofNat', UInt32.toNat_zero, Nat.dvd_iff_mod_eq_zero]
  omega

/-- What is read behind the length of a value. -/
lemma reads_value {value : String} (hkept : ValueKept value) :
    Reads (if UInt32.ofNat (asBytes value).length > 0 then readStringWithLength else pure none)
      (valueBytes value) (if value = "" then none else some value) := by
  unfold valueBytes
  by_cases hvalue : value = ""
  · have hnil := (asBytes_eq_nil_iff value).mpr hvalue
    rw [if_pos hvalue, if_neg (not_not.mpr hnil), hnil, if_neg (by decide)]
    exact Reads.pure none
  · have hpos := (ofNat_pos_iff _).mpr (hkept.resolve_left hvalue)
    rw [if_neg hvalue, if_pos (mt (asBytes_eq_nil_iff value).mp hvalue), if_pos hpos]
    exact reads_text value

/-- A pair whose value is not lost is read back. -/
lemma reads_readPair {pair : String × String × UInt32} (hkept : ValueKept pair.2.1) :
    Reads readPair (pairBytes pair) pair := by
  obtain ⟨key, value, flags⟩ := pair
  unfold pairBytes keyBytes
  rw [List.append_assoc]
  refine (reads_skipUb4 _).bind ((reads_text key).bind ((reads_ubBytes4 _).bind ?_))
  refine (reads_value hkept).bind ?_
  have hvalue : (if value = "" then none else some value).getD "" = value := by
    split_ifs with h
    · exact h.symm
    · rfl
  show Reads (do return (key, (if value = "" then none else some value).getD "", ← readUb4))
    (ubBytes flags.toNat) (key, value, flags)
  rw [hvalue]
  exact (reads_ubBytes4 flags).map fun flags => (key, value, flags)

/-- A value whose length is written as zero is lost. -/
lemma value_of_readPair {pair read : String × String × UInt32} (hlost : ¬ ValueKept pair.2.1)
    {c c' : ReadBuffer} {r : Bytes} (hc : c.rest = pairBytes pair ++ r)
    (hread : readPair c = .ok read c') : read.2.1 = "" := by
  obtain ⟨key, value, flags⟩ := pair
  have hzero : ¬ UInt32.ofNat (asBytes value).length > 0 := by
    rw [ofNat_pos_iff]
    exact fun h => hlost (.inr h)
  simp only [pairBytes, keyBytes, List.append_assoc] at hc
  have hkey := rest_advance_of_append hc
  have hlen := rest_advance_of_append hkey
  rw [readPair, bind_ok (reads_skipUb4 _ c _ hc), bind_ok (reads_text key _ _ hkey),
    bind_ok (reads_ubBytes4 _ _ _ hlen), if_neg hzero, pure_bind] at hread
  obtain ⟨flags', c₁, -, hpure⟩ := exists_of_bind_ok hread
  cases hpure
  rfl

/-! ## Lists of pairs -/

/-- Successive calls of `write_key_value`. -/
def writeKeyValues (pairs : List (String × String × UInt32)) : WriteM Unit :=
  pairs.forM fun pair => writeKeyValue pair.1 pair.2.1 pair.2.2

/-- What is written for the pairs is read back by as many turns of the pair loop, whatever stands behind
it. -/
def RoundTrips (pairs : List (String × String × UInt32)) : Prop :=
  ∃ b, Writes (writeKeyValues pairs) b ∧ Reads (times readPair pairs.length) b pairs

lemma reads_times_readPair_iff (pairs : List (String × String × UInt32)) :
    Reads (times readPair pairs.length) (pairs.flatMap pairBytes) pairs ↔
      ∀ pair ∈ pairs, ValueKept pair.2.1 := by
  have hlost (pair : String × String × UInt32) (hnot : ¬ ValueKept pair.2.1) (c : ReadBuffer) (r : Bytes)
      (hc : c.rest = pairBytes pair ++ r) (c' : ReadBuffer) : readPair c ≠ .ok pair c' := by
    intro hread
    exact hnot (.inl (value_of_readPair hnot hc hread))
  have htimes : Reads (times readPair pairs.length) (pairs.flatMap pairBytes) (pairs.map id) ↔
      ∀ pair ∈ pairs, ValueKept pair.2.1 :=
    reads_times_iff (fun pair _ => reads_readPair) fun pair _ => hlost pair
  rwa [List.map_id] at htimes

lemma roundTrips_iff_reads (pairs : List (String × String × UInt32)) :
    RoundTrips pairs ↔ Reads (times readPair pairs.length) (pairs.flatMap pairBytes) pairs := by
  have hwrites : Writes (writeKeyValues pairs) (pairs.flatMap pairBytes) :=
    Writes.forM fun pair _ => writes_writeKeyValue pair
  constructor
  · rintro ⟨b, hb, hreads⟩
    rwa [← hwrites.written_eq, hb.written_eq]
  · exact fun hreads => ⟨_, hwrites, hreads⟩

/-- A payload with the pairs behind their number is read by `parse_response`. -/
lemma runOn_readPairs {pairs : List (String × String × UInt32)} (hlen : pairs.length < 2 ^ 16)
    (hkept : ∀ pair ∈ pairs, ValueKept pair.2.1) {msgType : UInt8} (htype : msgType ≠ MessageType.error.code)
    (flags : UInt8 × UInt8) :
    readPairs.runOn ([flags.1, flags.2] ++ ([msgType] ++ (ubBytes pairs.length ++ pairs.flatMap pairBytes))) =
      .ok pairs := by
  have hcount := reads_ubBytes2 (UInt16.ofNat pairs.length)
  rw [UInt16.toNat_ofNat', Nat.mod_eq_of_lt hlen] at hcount
  have hpairs := (reads_times_readPair_iff pairs).mpr hkept
  have hrest : Reads (do times readPair (← readUb2).toNat)
      (ubBytes pairs.length ++ pairs.flatMap pairBytes) pairs := by
    refine hcount.bind ?_
    rwa [UInt16.toNat_ofNat', Nat.mod_eq_of_lt hlen]
  have hread : Reads readPairs ([flags.1, flags.2] ++ ([msgType] ++ (ubBytes pairs.length ++
      pairs.flatMap pairBytes))) pairs := by
    refine (reads_skip [flags.1, flags.2]).bind ((reads_readU8 msgType).bind ?_)
    simp only [if_neg htype]
    exact hrest
  have hrun := hread ⟨[flags.1, flags.2] ++ ([msgType] ++ (ubBytes pairs.length ++
    pairs.flatMap pairBytes)), 0⟩ [] (by simp)
  rw [ReadM.runOn, hrun]

/-- The pairs are read back if and only if no value is lost. -/
theorem roundTrips_iff (pairs : List (String × String × UInt32)) :
    RoundTrips pairs ↔ ∀ pair ∈ pairs, ValueKept pair.2.1 := by
  rw [roundTrips_iff_reads, reads_times_readPair_iff]

/-- A value of `2 ^ 32` bytes. -/
def longValue : String := String.ofList (List.replicate (2 ^ 32) 'a')

/-- A pair with the long value is not read back. -/
theorem not_roundTrips_longValue : ¬ RoundTrips [("", longValue, 0)] := by
  rw [roundTrips_iff_reads, reads_times_readPair_iff]
  intro hkept
  have hlen : (asBytes longValue).length = 2 ^ 32 := length_asBytes_replicate _
  obtain hempty | hlong := hkept _ List.mem_cons_self
  · simp only at hempty
    rw [hempty] at hlen
    cases hlen
  · exact hlong (by rw [hlen])

end OracleRs.AuthMessage
