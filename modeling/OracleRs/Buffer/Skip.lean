import OracleRs.Buffer.Read
import OracleRs.Lib.Agreement

set_option relaxedAutoImplicit false
set_option autoImplicit false

/-!
# Reading and skipping

The operations of `ReadBuffer` that skip a field beside those that read it. The lengths of integers are
checked by the ones that read them and not by the others.

## Main definitions

* `OracleRs.UbAlike` — the length of an integer is one that it can have, or nothing is there to be skipped.

## Main results

* `OracleRs.agreeOn_skip_iff` — where reading and skipping succeed alike and stop at the same place.
-/

namespace OracleRs

open Cursor

/-! ## Readers of a fixed length -/

lemma takes_readBytesVec (n : ℕ) : Takes (readBytesVec n) n := by
  intro c
  have hread := readBytesVec_eq n c
  split_ifs at hread ⊢
  · exact fails_of_error hread
  · exact ⟨_, hread⟩

lemma takes_skip (n : ℕ) : Takes (skip n) n := by
  intro c
  split_ifs with hshort
  · exact (fails_of_error (ensureRemaining_of_lt hshort)).bind _
  · have hlen : (c.rest.take n).length = n := by
      rw [List.length_take]
      omega
    have hread := reads_skip (c.rest.take n) c _ (List.take_append_drop n c.rest).symm
    rw [hlen] at hread
    exact ⟨_, hread⟩

lemma takes_readU8 : Takes readU8 1 := by
  intro c
  split_ifs with hshort
  · exact (fails_of_error (ensureRemaining_of_lt hshort)).bind _
  · cases hc : c.rest with
    | nil => exact absurd (by rw [hc]; exact Nat.zero_lt_one) hshort
    | cons b r => exact ⟨b, reads_readU8 b c r hc⟩

lemma takes_readU16Be : Takes readU16Be 2 := (takes_readBytesVec 2).map _

lemma takes_readU32Be : Takes readU32Be 4 := (takes_readBytesVec 4).map _

lemma takes_readU64Be : Takes readU64Be 8 := (takes_readBytesVec 8).map _

lemma fails_readU8 {c : ReadBuffer} (hc : c.rest = []) : Fails readU8 c := fails_of_error (readU8_of_nil hc)

/-! ## Variable-length integers -/

/-- A variable-length integer that one parser reads and the other one skips: nothing is left, or the
length is one that an integer of `k` bytes can have, or fewer bytes are left than the length says. -/
def UbAlike (k : ℕ) (c : ReadBuffer) : Prop :=
  c.rest = [] ∨ (c.rest.headD 0 &&& 0x7F).toNat ≤ k ∨
    c.rest.tail.length < (c.rest.headD 0 &&& 0x7F).toNat

instance (k : ℕ) (c : ReadBuffer) : Decidable (UbAlike k c) := inferInstanceAs (Decidable (_ ∨ _))

/-- The bytes behind the length of an integer that is skipped. -/
lemma takes_skipIf (len : UInt8) :
    Takes (if len > 0 then skip len.toNat else pure ()) len.toNat := by
  split_ifs with hpos
  · exact takes_skip len.toNat
  · have hzero : len = 0 := by
      rw [gt_iff_lt, UInt8.not_lt] at hpos
      exact UInt8.le_zero_iff.mp hpos
    subst hzero
    exact Takes.pure ()

/-- A reader of an integer of at most `k` bytes and the one that skips it. -/
lemma agreeOn_ub_iff {α : Type} {k : ℕ} {m : UInt8 → ReadM α}
    (htakes : ∀ len, len.toNat ≤ k → Takes (m len) len.toNat)
    (hlong : ∀ len c, k < len.toNat → Fails (m len) c) {c : ReadBuffer} :
    AgreeOn (fun _ _ => True) (readUbLength >>= m) skipUb c ↔ UbAlike k c := by
  cases hrest : c.rest with
  | nil =>
    refine iff_of_true ?_ (.inl hrest)
    exact (((fails_readU8 hrest).bind _).bind _).agreeOn (((fails_readU8 hrest).bind _).bind _)
  | cons b r =>
    have hlength : readUbLength c = .ok (b &&& 0x7F) (c.advance 1) := by
      rw [readUbLength, bind_ok (reads_readU8 b c r hrest)]
      rfl
    have htail : (c.advance 1).rest = r := by simp [hrest]
    have hskip := takes_skipIf (b &&& 0x7F) (c.advance 1)
    rw [htail] at hskip
    rw [AgreeOn, skipUb, bind_ok hlength, bind_ok hlength, UbAlike, hrest, List.headD_cons, List.tail_cons]
    by_cases hshort : (b &&& 0x7F).toNat ≤ k
    · exact iff_of_true ((htakes _ hshort).agreeOn (takes_skipIf _) _) (.inr (.inl hshort))
    have hfails := hlong (b &&& 0x7F) (c.advance 1) (not_le.mp hshort)
    by_cases hfew : r.length < (b &&& 0x7F).toNat
    · rw [if_pos hfew] at hskip
      exact iff_of_true (hfails.agreeOn hskip) (.inr (.inr hfew))
    · -- The length is skipped with as many bytes, but it is not read.
      rw [if_neg hfew] at hskip
      obtain ⟨u, hu⟩ := hskip
      obtain ⟨e, c', he⟩ := hfails.exists_error
      refine iff_of_false ?_ ?_
      · rw [he, hu]
        exact not_false
      · rintro (h | h | h)
        · cases h
        · exact hshort h
        · exact hfew h

lemma agreeOn_ub2_iff {c : ReadBuffer} :
    AgreeOn (fun _ _ => True) readUb2 skipUb2 c ↔ UbAlike 2 c := by
  refine agreeOn_ub_iff ?_ ?_
  · intro len hlen
    split
    · exact Takes.pure _
    · exact takes_readU8.map _
    · exact takes_readU16Be
    · rename_i h₀ h₁ h₂
      simp only [← UInt8.toNat_inj, UInt8.reduceToNat, imp_false] at h₀ h₁ h₂
      omega
  · intro len c hlen
    split
    all_goals first | exact absurd hlen (by decide) | rfl

lemma agreeOn_ub4_iff {c : ReadBuffer} :
    AgreeOn (fun _ _ => True) readUb4 skipUb4 c ↔ UbAlike 4 c := by
  refine agreeOn_ub_iff ?_ ?_
  · intro len hlen
    split
    · exact Takes.pure _
    · exact takes_readU8.map _
    · exact takes_readU16Be.map _
    · exact (takes_readBytesVec 3).map _
    · exact takes_readU32Be
    · rename_i h₀ h₁ h₂ h₃ h₄
      simp only [← UInt8.toNat_inj, UInt8.reduceToNat, imp_false] at h₀ h₁ h₂ h₃ h₄
      omega
  · intro len c hlen
    split
    all_goals first | exact absurd hlen (by decide) | rfl

lemma agreeOn_ub8_iff {c : ReadBuffer} :
    AgreeOn (fun _ _ => True) readUb8 skipUb8 c ↔ UbAlike 8 c := by
  refine agreeOn_ub_iff ?_ ?_
  · intro len hlen
    split
    · exact Takes.pure _
    · exact takes_readU8.map _
    · exact takes_readU16Be.map _
    · exact takes_readU32Be.map _
    · exact takes_readU64Be
    · exact (takes_readBytesVec _).map _
    · exact (takes_readBytesVec _).map _
    · exact (takes_readBytesVec _).map _
    · exact (takes_readBytesVec _).map _
    · rename_i h₀ h₁ h₂ h₄ h₈ h₃ h₅ h₆ h₇
      simp only [← UInt8.toNat_inj, UInt8.reduceToNat, imp_false] at h₀ h₁ h₂ h₃ h₄ h₅ h₆ h₇ h₈
      omega
  · intro len c hlen
    split
    all_goals first | exact absurd hlen (by decide) | rfl

/-! ## Bytes in chunks -/

/-- The turns of the two loops read a length in the same way, and take as many bytes. -/
lemma agreeOn_chunk (result : Bytes) (c : ReadBuffer) :
    AgreeOn (Sum.LiftRel (fun _ _ => True) fun _ _ => True) (readChunk result) (skipChunk ()) c := by
  rw [readChunk, skipChunk]
  refine AgreeOn.bind_same fun p _ => ?_
  dsimp only
  split_ifs with hzero
  · exact AgreeOn.pure (.inr trivial)
  · refine ((takes_readBytesVec _).agreeOn (takes_skip _) _).bind fun p _ chunk _ => ?_
    exact AgreeOn.pure (.inl trivial)

/-- Bytes that may be in chunks are read and skipped alike. -/
lemma agreeOn_rawBytesChunked (c : ReadBuffer) :
    AgreeOn (fun _ _ => True) readRawBytesChunked skipRawBytesChunked c := by
  rw [readRawBytesChunked, skipRawBytesChunked]
  refine AgreeOn.bind_same fun p _ => ?_
  dsimp only
  split_ifs
  · exact (takes_readBytesVec _).agreeOn (takes_skip _) _
  · exact agreeOn_iterate (fun result _ c _ => agreeOn_chunk result c) trivial _

/-- **Reading and skipping**: bytes that may be in chunks are read and skipped alike at every place of every
buffer, and an integer exactly where its length is one that it can have, or is not followed by as many
bytes. -/
theorem agreeOn_skip_iff (c : ReadBuffer) :
    (AgreeOn (fun _ _ => True) readUb2 skipUb2 c ↔ UbAlike 2 c) ∧
      (AgreeOn (fun _ _ => True) readUb4 skipUb4 c ↔ UbAlike 4 c) ∧
      (AgreeOn (fun _ _ => True) readUb8 skipUb8 c ↔ UbAlike 8 c) ∧
      AgreeOn (fun _ _ => True) readRawBytesChunked skipRawBytesChunked c :=
  ⟨agreeOn_ub2_iff, agreeOn_ub4_iff, agreeOn_ub8_iff, agreeOn_rawBytesChunked c⟩

/-- A length of three bytes is skipped, but it is not that of an integer of two. -/
theorem not_agreeOn_skipUb2 :
    ¬∀ c : ReadBuffer, AgreeOn (fun _ _ => True) readUb2 skipUb2 c := by
  intro h
  exact absurd (agreeOn_ub2_iff.mp (h ⟨[3, 0, 0, 0], 0⟩)) (by decide)

end OracleRs
