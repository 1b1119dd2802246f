import OracleRs.Buffer.Read
import OracleRs.Lib.Built

set_option relaxedAutoImplicit false
set_option autoImplicit false

/-!
# The errors of a buffer

The reading operations of a buffer fail for few reasons: too little is left, a length byte is not one of an
integer, or a byte string is not a text. A reader that is built from them has no other errors, so it neither
panics nor raises an error of the server.

## Main definitions

* `OracleRs.Error.OfBuffer` — the errors of the reading operations.
* `OracleRs.FailsAsBuffer` — a reader with these errors only.

## Main results

* `OracleRs.failsAsBuffer_readUb4` and its siblings — the operations are such readers.
* `OracleRs.FailsAsBuffer.isPanic` — such a reader does not panic.
-/

namespace OracleRs

open Cursor

/-- The errors of the reading operations. -/
inductive Error.OfBuffer : Error → Prop
  /-- too little is left -/
  | underflow (needed available : ℕ) : OfBuffer (.bufferUnderflow needed available)
  /-- the length byte is not one of an integer -/
  | indicator (len : UInt8) : OfBuffer (.invalidLengthIndicator len)
  /-- the bytes are not a text -/
  | conversion (message : String) : OfBuffer (.dataConversionError message)
  /-- the bound of a loop -/
  | stuck : OfBuffer .stuck

/-- The reader fails with errors of the reading operations only. -/
def FailsAsBuffer {α : Type} (m : ReadM α) : Prop := Built.Keeps (fun _ => True) Error.OfBuffer m

/-! ## Rules -/

section Rules

variable {α β σ : Type} {m m' : ReadM α}

lemma FailsAsBuffer.pure (a : α) : FailsAsBuffer (pure a) := Built.Keeps.pure a

lemma FailsAsBuffer.throw {e : Error} (h : e.OfBuffer) : FailsAsBuffer (throw e : ReadM α) :=
  Built.Keeps.throw h

lemma FailsAsBuffer.bind {f : α → ReadM β} (hm : FailsAsBuffer m) (hf : ∀ a, FailsAsBuffer (f a)) :
    FailsAsBuffer (m >>= f) := Built.Keeps.bind hm hf

/-- Both branches are such readers. -/
lemma FailsAsBuffer.ite {c : Prop} [Decidable c] (hm : FailsAsBuffer m) (hm' : FailsAsBuffer m') :
    FailsAsBuffer (if c then m else m') := Built.Keeps.ite hm hm'

lemma FailsAsBuffer.each {f : σ → ReadM α} (h : ∀ s, FailsAsBuffer (f s)) (xs : List σ) :
    FailsAsBuffer (each f xs) := by
  induction xs with
  | nil => exact .pure []
  | cons x xs ih => exact (h x).bind fun a => ih.bind fun as => .pure (a :: as)

lemma FailsAsBuffer.times (h : FailsAsBuffer m) (n : ℕ) : FailsAsBuffer (times m n) :=
  FailsAsBuffer.each (fun _ => h) _

/-- A loop fails as its turns do, or at its bound. -/
lemma FailsAsBuffer.iterate {body : σ → ReadM (σ ⊕ α)} (h : ∀ s, FailsAsBuffer (body s)) (s : σ) :
    FailsAsBuffer (iterate .stuck body s) := by
  have hloop : ∀ (n : ℕ) (s : σ), FailsAsBuffer (loop .stuck body n s) := by
    intro n
    induction n with
    | zero => exact fun _ => .throw .stuck
    | succ n ih =>
      intro s
      refine (h s).bind fun r => ?_
      cases r with
      | inl s' => exact ih s'
      | inr a => exact .pure a
  exact fun c hc => hloop _ s c hc

/-- What is raised is an error of the reading operations. -/
lemma FailsAsBuffer.of_error (h : FailsAsBuffer m) {c c' : ReadBuffer} {e : Error}
    (hm : m c = .error e c') : e.OfBuffer := by
  have hkept := h c trivial
  rw [hm] at hkept
  exact hkept.2

/-- No error of the reading operations is a panic. -/
lemma Error.OfBuffer.isPanic {e : Error} (h : e.OfBuffer) : e.isPanic = false := by
  cases h <;> rfl

/-- Such a reader does not panic. -/
lemma FailsAsBuffer.isPanic (h : FailsAsBuffer m) {data : Bytes} {e : Error}
    (hm : m.runOn data = .error e) : e.isPanic = false := by
  unfold ReadM.runOn at hm
  split at hm
  · cases hm
  · next hrun =>
    cases hm
    exact (h.of_error hrun).isPanic

end Rules

/-! ## The operations -/

section Readers

lemma failsAsBuffer_ensureRemaining (n : ℕ) : FailsAsBuffer (ensureRemaining n) := by
  intro c _
  rw [ensureRemaining]
  split_ifs
  · exact ⟨trivial, .underflow _ _⟩
  · trivial

lemma failsAsBuffer_skip (n : ℕ) : FailsAsBuffer (skip n) :=
  (failsAsBuffer_ensureRemaining n).bind fun _ _ _ => trivial

lemma failsAsBuffer_readBytesVec (n : ℕ) : FailsAsBuffer (readBytesVec n) :=
  (failsAsBuffer_ensureRemaining n).bind fun _ _ _ => trivial

lemma failsAsBuffer_readU8 : FailsAsBuffer readU8 :=
  (failsAsBuffer_ensureRemaining 1).bind fun _ _ _ => trivial

lemma failsAsBuffer_readUbLength : FailsAsBuffer readUbLength := failsAsBuffer_readU8.bind fun _ => .pure _

lemma failsAsBuffer_readU16Be : FailsAsBuffer readU16Be := (failsAsBuffer_readBytesVec 2).bind fun _ => .pure _

lemma failsAsBuffer_readU32Be : FailsAsBuffer readU32Be := (failsAsBuffer_readBytesVec 4).bind fun _ => .pure _

lemma failsAsBuffer_readUb2 : FailsAsBuffer readUb2 := by
  refine failsAsBuffer_readUbLength.bind fun len => ?_
  split
  · exact .pure _
  · exact failsAsBuffer_readU8.bind fun _ => .pure _
  · exact failsAsBuffer_readU16Be
  · exact .throw (.indicator len)

lemma failsAsBuffer_readSb2 : FailsAsBuffer readSb2 := by
  refine failsAsBuffer_readUbLength.bind fun len => ?_
  split
  · exact .pure _
  · exact failsAsBuffer_readU8.bind fun _ => .pure _
  · exact failsAsBuffer_readU16Be.bind fun _ => .pure _
  · exact .throw (.indicator len)

lemma failsAsBuffer_readUb4 : FailsAsBuffer readUb4 := by
  refine failsAsBuffer_readUbLength.bind fun len => ?_
  split
  · exact .pure _
  · exact failsAsBuffer_readU8.bind fun _ => .pure _
  · exact failsAsBuffer_readU16Be.bind fun _ => .pure _
  · exact (failsAsBuffer_readBytesVec 3).bind fun _ => .pure _
  · exact failsAsBuffer_readU32Be
  · exact .throw (.indicator len)

lemma failsAsBuffer_readUb8 : FailsAsBuffer readUb8 := by
  have hraw (n : ℕ) : FailsAsBuffer (do
      let bytes ← readBytesVec n
      return bytes.foldl BigEndian.shiftIn 0 : ReadM UInt64) :=
    (failsAsBuffer_readBytesVec n).bind fun _ => .pure _
  refine failsAsBuffer_readUbLength.bind fun len => ?_
  split
  · exact .pure _
  · exact failsAsBuffer_readU8.bind fun _ => .pure _
  · exact failsAsBuffer_readU16Be.bind fun _ => .pure _
  · exact failsAsBuffer_readU32Be.bind fun _ => .pure _
  · exact (failsAsBuffer_readBytesVec 8).bind fun _ => .pure _
  · exact hraw _
  · exact hraw _
  · exact hraw _
  · exact hraw _
  · exact .throw (.indicator len)

lemma failsAsBuffer_skipUb : FailsAsBuffer skipUb :=
  failsAsBuffer_readUbLength.bind fun _ => .ite (failsAsBuffer_skip _) (.pure ())

lemma failsAsBuffer_skipRawBytesChunked : FailsAsBuffer skipRawBytesChunked := by
  refine failsAsBuffer_readU8.bind fun length => .ite (failsAsBuffer_skip _) ?_
  refine FailsAsBuffer.iterate (fun _ => failsAsBuffer_readUb4.bind fun size => ?_) ()
  exact .ite (.pure _) ((failsAsBuffer_skip _).bind fun _ => .pure _)

lemma failsAsBuffer_readChunks : FailsAsBuffer readChunks := by
  refine FailsAsBuffer.iterate (fun result => failsAsBuffer_readUb4.bind fun size => ?_) []
  exact .ite (.pure _) ((failsAsBuffer_readBytesVec _).bind fun _ => .pure _)

lemma failsAsBuffer_readBytesWithLength : FailsAsBuffer readBytesWithLength := by
  have hbody (n : ℕ) : FailsAsBuffer (if n = 0 then pure (some []) else do
      return some (← readBytesVec n) : ReadM (Option Bytes)) :=
    .ite (.pure _) ((failsAsBuffer_readBytesVec n).bind fun _ => .pure _)
  refine failsAsBuffer_readU8.bind fun len => ?_
  dsimp only
  refine .ite (.pure none) (.ite (failsAsBuffer_readChunks.bind fun _ => .pure _) ?_)
  split
  · simp only [pure_bind]
    exact failsAsBuffer_readU8.bind fun n => hbody n.toNat
  · simpa using hbody len.toNat

lemma failsAsBuffer_readStringWithLength : FailsAsBuffer readStringWithLength := by
  refine failsAsBuffer_readBytesWithLength.bind fun data => ?_
  split
  · exact .pure none
  · split
    · exact .pure _
    · exact .throw (.conversion _)

end Readers

end OracleRs
