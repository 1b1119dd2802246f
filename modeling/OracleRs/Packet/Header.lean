import OracleRs.Buffer.Write

set_option relaxedAutoImplicit false
set_option autoImplicit false

/-!
# Packet headers

The header of eight bytes of every TNS packet (`packet/header.rs`). The length of the packet is in
the first two bytes, or in the first four once a large session data unit has been negotiated; a
builder of requests narrows the number of bytes to that width.

## Main definitions

* `OracleRs.PacketHeader` — a header, with its reader and writer.
* `OracleRs.packetHeader` — the header that the builders put in front of their payload.
* `OracleRs.DeclaresLength` — the length in the header of a packet is the number of its bytes.

## Main results

* `OracleRs.declaresLength_packetHeader_iff` — a header declares the length of its packet if and only
  if the length fits the width of the field.
-/

namespace OracleRs

open Cursor
open Sink (Writes)

/-- A packet header (`PacketHeader`). -/
structure PacketHeader where
  /-- the length of the packet with its header -/
  length : UInt32
  /-- the checksum of the packet -/
  packetChecksum : UInt16 := 0
  /-- the type of the packet -/
  packetType : PacketType
  /-- the flags of the packet -/
  flags : UInt8 := 0
  /-- the checksum of the header -/
  headerChecksum : UInt16 := 0
deriving DecidableEq, Repr

namespace PacketHeader

/-- The length field, as `PacketHeader::read` takes it. -/
def readLength (largeSdu : Bool) : ReadM UInt32 :=
  if largeSdu then readU32Be
  else do
    let len ← readU16Be
    skip 2 -- the checksum of the packet, taken as zero
    pure len.toUInt32

/-- `PacketHeader::read`. -/
def read (largeSdu : Bool) : ReadM PacketHeader := do
  let length ← readLength largeSdu
  let packetType ← liftExcept (PacketType.tryFrom (← readU8))
  let flags ← readU8
  let headerChecksum ← readU16Be
  return { length := length, packetType := packetType, flags := flags,
           headerChecksum := headerChecksum }

/-- `PacketHeader::new`. -/
def new (packetType : PacketType) (length : UInt32) : PacketHeader :=
  { length := length, packetType := packetType }

/-- `PacketHeader::write`. -/
def write (header : PacketHeader) (largeSdu : Bool) : WriteM Unit := do
  if largeSdu then
    writeU32Be header.length
  else do
    writeU16Be header.length.toUInt16
    writeU16Be header.packetChecksum
  writeU8 header.packetType.code
  writeU8 header.flags
  writeU16Be header.headerChecksum

end PacketHeader

/-- The length field of a header: four bytes, or two bytes and two bytes of zeros. -/
def lengthField (largeSdu : Bool) (length : ℕ) : Bytes :=
  if largeSdu then BigEndian.digits 4 (UInt32.ofNat length).toNat
  else BigEndian.digits 2 (UInt16.ofNat length).toNat ++ [0, 0]

/-- The header that the builders put in front of their payload. -/
def packetHeader (largeSdu : Bool) (packetType : PacketType) (packetLen : ℕ) : Bytes :=
  lengthField largeSdu packetLen ++ [packetType.code, 0, 0, 0]

/-- The numbers that the length field can hold are below this one. -/
def lengthBound (largeSdu : Bool) : ℕ := if largeSdu then 2 ^ 32 else 2 ^ 16

/-- The length in the header of the packet is the number of its bytes. -/
def DeclaresLength (largeSdu : Bool) (packet : Bytes) : Prop :=
  ∃ header c, PacketHeader.read largeSdu ⟨packet, 0⟩ = .ok header c ∧
    header.length.toNat = packet.length

@[simp] lemma length_lengthField (largeSdu : Bool) (n : ℕ) : (lengthField largeSdu n).length = 4 := by
  cases largeSdu <;> simp [lengthField]

@[simp] lemma length_packetHeader (largeSdu : Bool) (t : PacketType) (n : ℕ) :
    (packetHeader largeSdu t n).length = packetHeaderSize := by
  simp [packetHeader, packetHeaderSize]

lemma lengthBound_le (largeSdu : Bool) : lengthBound largeSdu ≤ 2 ^ 32 := by
  cases largeSdu <;> decide

/-- What is left of a length in the length field. -/
lemma reads_readLength (largeSdu : Bool) (n : ℕ) :
    Reads (PacketHeader.readLength largeSdu) (lengthField largeSdu n)
      (UInt32.ofNat (n % lengthBound largeSdu)) := by
  cases largeSdu with
  | true =>
    have hread := reads_readU32Be (BigEndian.digits 4 (UInt32.ofNat n).toNat) (by simp)
    rw [BigEndian.eval_digits _ _ (UInt32.toNat_lt _)] at hread
    have hval : UInt32.ofNat (UInt32.ofNat n).toNat = UInt32.ofNat (n % lengthBound true) := by
      apply UInt32.toNat_inj.mp
      simp [lengthBound]
    rw [hval] at hread
    exact hread
  | false =>
    have hread := reads_readU16Be (BigEndian.digits 2 (UInt16.ofNat n).toNat) (by simp)
    rw [BigEndian.eval_digits _ _ (UInt16.toNat_lt _)] at hread
    have hval : (UInt16.ofNat (UInt16.ofNat n).toNat).toUInt32 =
        UInt32.ofNat (n % lengthBound false) := by
      apply UInt32.toNat_inj.mp
      simp only [UInt16.toNat_toUInt32, UInt16.toNat_ofNat', UInt32.toNat_ofNat', lengthBound,
        Bool.false_eq_true, if_false]
      omega
    rw [← hval]
    refine hread.bind ?_
    exact (reads_skip [0, 0]).bind (Reads.pure _)

/-- A header is read back, with what is left of the length. -/
lemma reads_packetHeader (largeSdu : Bool) (t : PacketType) (n : ℕ) :
    Reads (PacketHeader.read largeSdu) (packetHeader largeSdu t n)
      (.new t (UInt32.ofNat (n % lengthBound largeSdu))) := by
  refine (reads_readLength largeSdu n).bind ?_
  refine (reads_readU8 t.code).cons ?_
  rw [PacketType.tryFrom_code]
  refine (reads_readU8 0).cons ?_
  exact (reads_readU16Be [0, 0] rfl).bind (Reads.pure _)

/-- A header declares the length of its packet if and only if the length fits the field. -/
theorem declaresLength_packetHeader_iff {largeSdu : Bool} {t : PacketType} {n : ℕ} {body : Bytes}
    (hn : (packetHeader largeSdu t n ++ body).length = n) :
    DeclaresLength largeSdu (packetHeader largeSdu t n ++ body) ↔ n < lengthBound largeSdu := by
  have hread := reads_packetHeader largeSdu t n ⟨packetHeader largeSdu t n ++ body, 0⟩ body rfl
  have hpos : 0 < lengthBound largeSdu := by cases largeSdu <;> decide
  have hval : (UInt32.ofNat (n % lengthBound largeSdu)).toNat = n % lengthBound largeSdu := by
    have := lengthBound_le largeSdu
    have := Nat.mod_lt n hpos
    rw [UInt32.toNat_ofNat']
    exact Nat.mod_eq_of_lt (by omega)
  constructor
  · rintro ⟨header, c, hheader, hlength⟩
    rw [hread] at hheader
    cases hheader
    rw [hn] at hlength
    have hmod : n % lengthBound largeSdu = n := hval.symm.trans hlength
    rw [← hmod]
    exact Nat.mod_lt n hpos
  · intro hlt
    refine ⟨_, _, hread, ?_⟩
    rw [hn]
    exact hval.trans (Nat.mod_eq_of_lt hlt)

/-! ## Writing a header -/

/-- `PacketHeader::write` writes the header of the builders. -/
lemma writes_write (largeSdu : Bool) (t : PacketType) (n : ℕ) :
    Writes ((PacketHeader.new t (UInt32.ofNat n)).write largeSdu) (packetHeader largeSdu t n) := by
  have hrest := (writes_writeU8 t.code).bind ((writes_writeU8 0).bind (writes_writeU16Be 0))
  cases largeSdu with
  | true => exact (writes_writeU32Be (UInt32.ofNat n)).bind hrest
  | false =>
    have hlow : (UInt32.ofNat n).toUInt16 = UInt16.ofNat n := by
      apply UInt16.toNat_inj.mp
      simp
    have hboth := ((writes_writeU16Be (UInt16.ofNat n)).bind (writes_writeU16Be 0)).bind hrest
    rw [← hlow] at hboth
    have hzero : BigEndian.digits 2 0 = [0, 0] := rfl
    simpa [PacketHeader.write, PacketHeader.new, packetHeader, lengthField, hlow, hzero] using hboth

end OracleRs
