import OracleRs.Buffer.Errors
import OracleRs.Response.ErrorCodes
import OracleRs.Response.LobResponse

set_option relaxedAutoImplicit false
set_option autoImplicit false

/-!
# Error messages that are cut off

`parse_error_info` on a beginning of an Error message and of what stands behind it. It returns the number
of the message if and only if the beginning has all that it reads, and the number is not replaced. On any
other one it fails, and not with an error of the server: the readers themselves raise none.

## Main definitions

* `OracleRs.Plain` — a reader whose successes are exact and whose errors are not those of a server.
* `OracleRs.ErrorMessage.ReportedFrom` — a beginning from which the number is read.

## Main results

* `OracleRs.plain_readErrorInfo` — the reader of Error messages is plain.
* `OracleRs.ErrorMessage.readErrorInfo_code_iff` — when the number of a message is read.
-/

namespace OracleRs

open Cursor

/-! ## Plain readers -/

/-- An error that a server has sent. -/
def Error.IsServerError (e : Error) : Prop := ∃ code text, e = .oracleError code text

/-- The reader raises no error of a server. -/
def Quiet {α : Type} (m : ReadM α) : Prop :=
  Built.Keeps (fun _ => True) (fun e => ¬ e.IsServerError) m

/-- Every success of the reader is an exact read, and it raises no error of a server. -/
structure Plain {α : Type} (m : ReadM α) : Prop where
  exact : Exact m
  quiet : Quiet m

section Rules

variable {α β σ : Type} {m m' : ReadM α}

lemma Plain.pure (a : α) : Plain (pure a : ReadM α) := ⟨Exact.pure a, Built.Keeps.pure a⟩

lemma Plain.throw {e : Error} (h : ∀ code text, e ≠ .oracleError code text) :
    Plain (throw e : ReadM α) := by
  refine ⟨Exact.throw e, Built.Keeps.throw ?_⟩
  rintro ⟨code, text, he⟩
  exact h code text he

lemma Plain.bind {f : α → ReadM β} (hm : Plain m) (hf : ∀ a, Plain (f a)) : Plain (m >>= f) :=
  ⟨hm.exact.bind fun a => (hf a).exact, hm.quiet.bind fun a => (hf a).quiet⟩

lemma Plain.map (hm : Plain m) (f : α → β) : Plain (f <$> m) := by
  rw [map_eq_pure_bind]
  exact hm.bind fun a => Plain.pure (f a)

/-- Both branches are plain. -/
lemma Plain.ite {c : Prop} [Decidable c] (hm : Plain m) (hm' : Plain m') :
    Plain (if c then m else m') := by
  split_ifs
  · exact hm
  · exact hm'

lemma Plain.each {f : σ → ReadM α} (h : ∀ s, Plain (f s)) (xs : List σ) : Plain (each f xs) := by
  induction xs with
  | nil => exact Plain.pure []
  | cons x xs ih => exact (h x).bind fun a => ih.bind fun as => Plain.pure (a :: as)

lemma Plain.times (h : Plain m) (n : ℕ) : Plain (times m n) := Plain.each (fun _ => h) _

/-- The errors of a buffer are none of a server. -/
lemma FailsAsBuffer.quiet (h : FailsAsBuffer m) : Quiet m := by
  refine Built.Keeps.mono h fun e he => ?_
  rintro ⟨code, text, rfl⟩
  cases he

end Rules

/-! ## The readers of a buffer -/

section Readers

lemma plain_skip (n : ℕ) : Plain (skip n) := ⟨exact_skip n, (failsAsBuffer_skip n).quiet⟩

lemma plain_readUb2 : Plain readUb2 := ⟨exact_readUb2, failsAsBuffer_readUb2.quiet⟩

lemma plain_readSb2 : Plain readSb2 := by
  refine ⟨exact_readUbLength.bind fun len => ?_, failsAsBuffer_readSb2.quiet⟩
  split
  · exact Exact.pure _
  · exact exact_readU8.bind fun _ => Exact.pure _
  · exact exact_readU16Be.bind fun _ => Exact.pure _
  · exact Exact.throw _

lemma plain_readUb4 : Plain readUb4 := ⟨exact_readUb4, failsAsBuffer_readUb4.quiet⟩

lemma plain_readUb8 : Plain readUb8 := ⟨exact_readUb8, failsAsBuffer_readUb8.quiet⟩

lemma plain_skipUb : Plain skipUb := ⟨exact_skipUb, failsAsBuffer_skipUb.quiet⟩

lemma plain_skipRawBytesChunked : Plain skipRawBytesChunked :=
  ⟨exact_skipRawBytesChunked, failsAsBuffer_skipRawBytesChunked.quiet⟩

lemma plain_readStringWithLength : Plain readStringWithLength :=
  ⟨exact_readStringWithLength, failsAsBuffer_readStringWithLength.quiet⟩

end Readers

/-! ## The reader of Error messages -/

section ErrorInfo

lemma plain_readErrorHead : Plain readErrorHead := by
  refine plain_readUb4.bind fun _ => ?_
  refine plain_skipUb.bind fun _ => plain_skipUb.bind fun _ => ?_
  refine plain_skipUb.bind fun _ => plain_skipUb.bind fun _ => plain_skipUb.bind fun _ => ?_
  refine plain_readUb2.bind fun _ => plain_readSb2.bind fun _ => ?_
  refine (plain_skip 1).bind fun _ => (plain_skip 1).bind fun _ => (plain_skip 1).bind fun _ => ?_
  refine (plain_skip 1).bind fun _ => (plain_skip 1).bind fun _ => (plain_skip 1).bind fun _ => ?_
  refine plain_skipUb.bind fun _ => plain_skipUb.bind fun _ => (plain_skip 1).bind fun _ => ?_
  refine plain_skipUb.bind fun _ => plain_skipUb.bind fun _ => plain_skipUb.bind fun _ => ?_
  refine (plain_skip 1).bind fun _ => (plain_skip 1).bind fun _ => ?_
  refine plain_skipUb.bind fun _ => plain_skipUb.bind fun _ => ?_
  have hoerrdd : Plain (indicated4 skipRawBytesChunked) :=
    plain_readUb4.bind fun _ => Plain.ite (plain_skipRawBytesChunked.map some) (Plain.pure none)
  exact hoerrdd.bind fun _ => Plain.pure _

lemma plain_readBatchMessage : Plain readBatchMessage :=
  plain_skipUb.bind fun _ => plain_readStringWithLength.bind fun _ =>
    (plain_skip 2).bind fun _ => Plain.pure _

/-- A list of a batch: a count, a byte and the items. -/
lemma plain_listed {α : Type} {m : ReadM α} (hm : Plain m) (n : ℕ) :
    Plain (if n ≠ 0 then do skipUb1; times m n else return []) :=
  Plain.ite ((plain_skip 1).bind fun _ => hm.times n) (Plain.pure [])

/-- The reader of Error messages is plain. -/
lemma plain_readErrorInfo (packet : Bytes) : Plain (readErrorInfo packet true false) := by
  refine plain_readErrorHead.bind fun cursorId => ?_
  refine Plain.bind (plain_readUb2.bind fun n => plain_listed (plain_readUb2.map _) n.toNat)
    fun codes => ?_
  refine Plain.bind (plain_readUb4.bind fun n => plain_listed (plain_readUb4.map _) n.toNat)
    fun offsets => ?_
  refine Plain.bind (plain_readUb2.bind fun n => plain_listed plain_readBatchMessage n.toNat)
    fun messages => ?_
  refine plain_readUb4.bind fun errorCode => ?_
  refine plain_readUb8.bind fun rowCount => ?_
  refine Plain.bind (Plain.pure ()) fun _ => ?_
  refine Plain.bind (Plain.ite plain_readStringWithLength (Plain.pure none)) fun text => ?_
  exact Plain.pure _

end ErrorInfo

/-! ## The number that is read -/

namespace ErrorMessage

variable {version : UInt8} {m : ErrorMessage} {packet b back : Bytes} {c : ReadBuffer}

/-- The beginning `b` has all that is read of the message, what is read as its text is a text, and the
number is not replaced: the text looks like an Oracle error, or the packet has no other number behind its
first `ORA-`. -/
structure ReportedFrom (version : UInt8) (packet : Bytes) (m : ErrorMessage) (b : Bytes) : Prop where
  held : m.encodeRead version <+: b
  kept : ∃ text, m.textRead? version = some text ∧ ((text.map trim).any containsOra ∨
    ∀ number, oraNumber packet = some number → number = m.number.value)

/-- Only the first number in the packet matters. -/
lemma ReportedFrom.congr {packet' : Bytes} (h : m.ReportedFrom version packet b)
    (hnumber : oraNumber packet = oraNumber packet') : m.ReportedFrom version packet' b := by
  obtain ⟨text, htext, hkept⟩ := h.kept
  rw [hnumber] at hkept
  exact ⟨h.held, text, htext, hkept⟩

/-- What is read of a beginning is what `parse_error_info` reads of the whole message. -/
lemma encodeRead_prefix_of_ok {info : ParsedErrorInfo} {c' : ReadBuffer}
    (hb : b <+: m.encode version ++ back) (hc : c.rest = b)
    (h : readErrorInfo packet true false c = .ok info c') :
    m.encodeRead version <+: b ∧ ∃ text, m.textRead? version = some text ∧
      info.code = (overrideErrorText packet m.code (text.map trim)).1 := by
  obtain ⟨x, r, hx, -, hread⟩ := (plain_readErrorInfo packet).exact c c' info h
  obtain ⟨t, ht⟩ := hb
  have hwhole : m.encodeRead version ++ (m.unread version ++ back) = x ++ (r ++ t) := by
    rw [← List.append_assoc, ← encode_eq_append, ← ht, ← hc, hx, List.append_assoc]
  cases htext : m.textRead? version with
  | none =>
    -- the reader fails on the whole message, and so on every beginning of it
    have hfails := throws_readErrorInfo htext packet ⟨x ++ (r ++ t), 0⟩ (m.unread version ++ back)
      (by rw [rest_mk_zero, hwhole])
    rw [hread ⟨x ++ (r ++ t), 0⟩ (r ++ t) (rest_mk_zero _)] at hfails
    cases hfails
  | some text =>
    obtain ⟨info', hread', hover⟩ := reads_readErrorInfo_of_textRead htext packet
    obtain ⟨rfl, hlen⟩ := hread'.unique hread hwhole
    obtain ⟨hx', -⟩ := List.append_inj hwhole hlen
    refine ⟨⟨r, ?_⟩, text, rfl, congrArg Prod.fst hover⟩
    rw [hx', ← hc, hx]

/-- **The number of a message that is cut off** is read if and only if the beginning has what is read of
it and the number is not replaced. -/
theorem readErrorInfo_code_iff (hcode : m.code ≠ 0) (hb : b <+: m.encode version ++ back)
    (hc : c.rest = b) :
    (∃ info c', readErrorInfo packet true false c = .ok info c' ∧ info.code = m.code) ↔
      m.ReportedFrom version packet b := by
  constructor
  · rintro ⟨info, c', hread, hinfo⟩
    obtain ⟨hheld, text, htext, hnumber⟩ := encodeRead_prefix_of_ok hb hc hread
    rw [hinfo] at hnumber
    exact ⟨hheld, text, htext, (overrideErrorText_eq_code_iff hcode).mp hnumber.symm⟩
  · rintro ⟨⟨r, hr⟩, text, htext, hkept⟩
    obtain ⟨info, hread, hover⟩ := reads_readErrorInfo_of_textRead htext packet
    refine ⟨info, _, hread c r (hc.trans hr.symm), ?_⟩
    have hnumber : info.code = (overrideErrorText packet m.code (text.map trim)).1 :=
      congrArg Prod.fst hover
    rw [hnumber]
    exact (overrideErrorText_eq_code_iff hcode).mpr hkept

end ErrorMessage

end OracleRs
