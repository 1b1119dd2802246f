import OracleRs.Buffer.Skip
import OracleRs.Types.Pickle

set_option relaxedAutoImplicit false
set_option autoImplicit false

/-!
# The declared lengths of the elements of a collection

An element of a collection stands behind its length (`types/pickle.rs`). The elements behind it are found only if
`decode_value` takes as many bytes as the length says, which it does for every type of elements but one: of a
Boolean it reads four bytes, however many there are.

## Main definitions

* `OracleRs.declaredLength` — the length in front of an element.
* `OracleRs.ConsumesDeclared` — a decoded element has taken the length and as many bytes as it says.
* `OracleRs.spanOf` — the bytes that a number of elements take by the lengths in front of them.

## Main results

* `OracleRs.consumesDeclared_iff` — when an element takes the declared bytes.
* `OracleRs.aligned_elements` — the elements of a collection without Booleans stay aligned.
-/

namespace OracleRs

open Cursor

/-! ## The length in front of an element -/

/-- The length in front of an element: the number of bytes it has itself, and the number it says. A NULL marker
is no length. -/
def declaredLength : Bytes → Option (ℕ × ℕ)
  | [] => none
  | first :: rest =>
    if first = atomicNull ∨ first = nullIndicator then none
    else if first = longIndicator then
      if rest.length < 4 then none else some (5, BigEndian.eval (rest.take 4))
    else some (1, first.toNat)

/-- A decoded element that is not a NULL marker has taken the length and as many bytes as it says. -/
def ConsumesDeclared (oracleType : OracleType) (buf : ReadBuffer) : Prop :=
  ∀ value buf' width len, decodeValue oracleType buf = .ok value buf' →
    declaredLength buf.rest = some (width, len) → buf' = buf.advance (width + len)

section Declared

variable {oracleType : OracleType} {buf buf' : ReadBuffer} {width len : ℕ} {value : Value}

/-- Behind its length an element is decoded. -/
lemma decodeValue_of_declared (h : declaredLength buf.rest = some (width, len)) :
    decodeValue oracleType buf =
      (if len = 0 then pure .null else decodeSized oracleType len : ReadM Value) (buf.advance width) := by
  cases hrest : buf.rest with
  | nil =>
    rw [hrest] at h
    cases h
  | cons first rest =>
    have hfirst : readU8 buf = .ok first (buf.advance 1) := reads_readU8 first buf rest hrest
    rw [hrest, declaredLength] at h
    rw [decodeValue, bind_ok hfirst]
    split_ifs at h with hmarker hlong hfew
    · cases h
      have htail : (buf.advance 1).rest = rest := by rw [rest_advance, hrest, List.drop_one, List.tail_cons]
      have hfour : (rest.take 4).length = 4 := by rw [List.length_take, min_eq_left (not_lt.mp hfew)]
      have hread := reads_readU32Be (rest.take 4) hfour (buf.advance 1) (rest.drop 4)
        (by rw [htail, List.take_append_drop])
      have hlt := BigEndian.eval_lt (rest.take 4)
      have hback : (UInt32.ofNat (BigEndian.eval (rest.take 4))).toNat = BigEndian.eval (rest.take 4) := by
        rw [hfour] at hlt
        exact Nat.mod_eq_of_lt hlt
      rw [if_neg hmarker, if_pos hlong]
      simp only [pure_bind]
      rw [bind_ok hread, hback, advance_advance, hfour]
    · cases h
      rw [if_neg hmarker, if_neg hlong]
      simp only [pure_bind]

end Declared

/-! ## The elements -/

/-- What may fail takes nothing. -/
lemma consumes_liftExcept {α : Type} (x : Except Error α) : Consumes (liftExcept x) 0 := by
  cases x with
  | ok a => exact .pure a
  | error e => exact .throw e

/-- The bytes of an element of any type but Boolean, or of at most four bytes, are all taken. -/
lemma consumes_decodeSized {oracleType : OracleType} {len : ℕ} (h : oracleType = .boolean → len ≤ 4) :
    Consumes (decodeSized oracleType len) len := by
  have hbytes := (takes_readBytesVec len).consumes
  have hskip : Consumes (do skip len; return Value.null : ReadM Value) len :=
    (takes_skip len).consumes.bind_zero fun _ => .pure _
  have hlifted {α : Type} (f : Bytes → Except Error α) (g : α → Value) :
      Consumes (do return g (← liftExcept (f (← readBytesVec len))) : ReadM Value) len :=
    hbytes.bind_zero fun bytes => (consumes_liftExcept (f bytes)).bind_zero fun _ => .pure _
  have htext : Consumes (decodeSized .varchar len) len := by
    refine hbytes.bind_zero fun bytes => ?_
    cases fromUtf8 bytes with
    | none => exact .throw _
    | some s => exact .pure _
  have hfixed {n : ℕ} (f : Bytes → Value) : Consumes (if len = n then do return f (← readBytesVec n)
      else do skip len; return Value.null : ReadM Value) len := by
    split_ifs with hlen
    · subst hlen
      exact hbytes.bind_zero fun _ => .pure _
    · exact hskip
  cases oracleType with
  | varchar => exact htext
  | char => exact htext
  | number => exact hlifted _ numberValue
  | binaryInteger =>
    change Consumes (if len ≥ 4 then _ else _) len
    by_cases hlen : len ≥ 4
    · obtain ⟨n, rfl⟩ := Nat.exists_eq_add_of_le hlen
      rw [if_pos hlen, Nat.add_sub_cancel_left]
      -- four bytes, and those behind them
      refine takes_readU32Be.consumes.bind fun value => ?_
      by_cases hmore : 4 + n > 4
      · simp only [if_pos hmore]
        exact (takes_skip n).consumes.bind_zero fun _ => .pure _
      · obtain rfl : n = 0 := by omega
        exact .pure _
    · rw [if_neg hlen]
      exact hskip
  | binaryDouble => exact hfixed fun bytes => .float (decodeBinaryDouble bytes)
  | binaryFloat => exact hfixed fun bytes => .float (widen (decodeBinaryFloat bytes))
  | boolean =>
    change Consumes (if len ≥ 4 then _ else _) len
    split_ifs with hlen
    · obtain rfl : len = 4 := le_antisymm (h rfl) hlen
      exact takes_readU32Be.consumes.bind_zero fun _ => .pure _
    · exact hbytes.bind_zero fun _ => .pure _
  | date => exact hlifted _ _
  | timestamp => exact hlifted _ _
  | timestampTz => exact hlifted _ _
  | timestampLtz => exact hlifted _ _
  | intervalYm => exact hlifted _ _
  | intervalDs => exact hlifted _ _
  | _ => exact hbytes.bind_zero fun _ => .pure _

/-! ## Declared and consumed bytes -/

/-- Of a Boolean four bytes are read where more are declared. -/
lemma decodeSized_boolean {len : ℕ} (hlen : 4 ≤ len) :
    decodeSized .boolean len = do return .boolean ((← readU32Be) ≠ 0) := if_pos hlen

/-- An element takes the bytes that its length declares unless it is a Boolean of more than four bytes, at least
four of which are there. -/
theorem consumesDeclared_iff (oracleType : OracleType) (buf : ReadBuffer) :
    ConsumesDeclared oracleType buf ↔ ¬ ∃ width len, oracleType = .boolean ∧
      declaredLength buf.rest = some (width, len) ∧ 4 < len ∧ width + 4 ≤ buf.rest.length := by
  constructor
  · rintro h ⟨width, len, rfl, hdeclared, hlen, hthere⟩
    have hfour := takes_readU32Be (buf.advance width)
    rw [rest_advance, List.length_drop, if_neg (by omega), advance_advance] at hfour
    obtain ⟨word, hword⟩ := hfour
    have hdecode : decodeValue .boolean buf = .ok (.boolean (word ≠ 0)) (buf.advance (width + 4)) := by
      rw [decodeValue_of_declared hdeclared, if_neg (by omega), decodeSized_boolean hlen.le, bind_ok hword]
      rfl
    have heq := advance_inj.mp (h _ _ width len hdecode hdeclared)
    omega
  · intro h value buf' width len hdecode hdeclared
    rw [decodeValue_of_declared hdeclared] at hdecode
    by_cases hzero : len = 0
    · rw [if_pos hzero] at hdecode
      cases hdecode
      rw [hzero, Nat.add_zero]
    rw [if_neg hzero] at hdecode
    rw [← advance_advance]
    by_cases hlong : oracleType = .boolean ∧ 4 < len
    · -- the Boolean is read, so that there are four bytes
      obtain ⟨rfl, hlen⟩ := hlong
      rw [decodeSized_boolean hlen.le] at hdecode
      obtain ⟨_, _, hok, -⟩ := exists_of_bind_ok hdecode
      have hle := takes_readU32Be.le_of_ok hok
      rw [rest_advance, List.length_drop] at hle
      exact absurd ⟨width, len, rfl, hdeclared, hlen, by omega⟩ h
    · exact consumes_decodeSized (fun htype => not_lt.mp fun hlen => hlong ⟨htype, hlen⟩) _ _ _ hdecode

/-- A Boolean of five bytes: the fifth is taken for the length of the next element. -/
theorem not_consumesDeclared_boolean : ¬ ConsumesDeclared .boolean ⟨[5, 0, 0, 0, 1, 9], 0⟩ := by
  intro h
  have hpos := h (.boolean true) ⟨[5, 0, 0, 0, 1, 9], 5⟩ 1 5 rfl rfl
  cases hpos

/-! ## Alignment -/

/-- The bytes of an element by what is in front of it: a NULL marker, or a length and as many bytes as it says. -/
def sizeOf? (rest : Bytes) : Option ℕ :=
  match rest with
  | [] => none
  | first :: _ =>
    if first = atomicNull ∨ first = nullIndicator then some 1
    else (declaredLength rest).map fun declared => declared.1 + declared.2

/-- The bytes of an element with its index. -/
def elementSpan (objType : DbObjectType) (rest : Bytes) : Option ℕ :=
  if objType.collectionType = .plsqlIndexTable then (sizeOf? (rest.drop 4)).map (4 + ·) else sizeOf? rest

/-- The bytes of a number of elements, each of which begins where the one before it ends. -/
def spanOf (objType : DbObjectType) : ℕ → Bytes → Option ℕ
  | 0, _ => some 0
  | n + 1, rest => do
    let here ← elementSpan objType rest
    let more ← spanOf objType n (rest.drop here)
    return here + more

section Aligned

variable {objType : DbObjectType} {buf buf' : ReadBuffer} {value : Value}

/-- A decoded value that is not a Boolean ends where it is declared to end. -/
lemma sizeOf_of_decodeValue {oracleType : OracleType} (htype : oracleType ≠ .boolean)
    (h : decodeValue oracleType buf = .ok value buf') : ∃ size, sizeOf? buf.rest = some size ∧
      buf' = buf.advance size := by
  cases hrest : buf.rest with
  | nil =>
    rw [decodeValue, bind_error (readU8_of_nil hrest)] at h
    cases h
  | cons first rest =>
    have hfirst : readU8 buf = .ok first (buf.advance 1) := reads_readU8 first buf rest hrest
    by_cases hmarker : first = atomicNull ∨ first = nullIndicator
    · rw [decodeValue, bind_ok hfirst, if_pos hmarker] at h
      cases h
      exact ⟨1, if_pos hmarker, rfl⟩
    have hsize : sizeOf? (first :: rest) =
        (declaredLength (first :: rest)).map fun declared => declared.1 + declared.2 := if_neg hmarker
    cases hdeclared : declaredLength (first :: rest) with
    | some declared =>
      rw [hdeclared] at hsize
      have hconsumes := (consumesDeclared_iff oracleType buf).mpr fun hlong => htype hlong.choose_spec.choose_spec.1
      exact ⟨_, hsize, hconsumes value buf' _ _ h (by rw [hrest]; exact hdeclared)⟩
    | none =>
      -- the length itself is cut off, so that nothing is decoded
      rw [declaredLength, if_neg hmarker] at hdeclared
      split_ifs at hdeclared with hlong hfew
      rw [decodeValue, bind_ok hfirst, if_neg hmarker, if_pos hlong] at h
      simp only [pure_bind] at h
      obtain ⟨_, _, hok, -⟩ := exists_of_bind_ok h
      have hle := takes_readU32Be.le_of_ok hok
      rw [rest_advance, hrest, List.drop_one, List.tail_cons] at hle
      omega

/-- So does an element of a collection. -/
lemma elementSpan_of_readElement (htype : objType.elementType ≠ .boolean)
    (h : readElement objType buf = .ok value buf') : ∃ size, elementSpan objType buf.rest = some size ∧
      buf' = buf.advance size := by
  unfold readElement at h
  unfold elementSpan
  split_ifs at h ⊢ with hindex
  · obtain ⟨_, c₁, hread, hvalue⟩ := exists_of_bind_ok h
    obtain rfl := takes_readU32Be.consumes _ _ _ hread
    obtain ⟨size, hsize, hend⟩ := sizeOf_of_decodeValue htype hvalue
    rw [rest_advance] at hsize
    exact ⟨4 + size, by rw [hsize]; rfl, by rw [hend, advance_advance]⟩
  · exact sizeOf_of_decodeValue htype h

end Aligned

/-- The elements of a collection without Booleans are read where the lengths in front of them lead. -/
theorem aligned_elements {objType : DbObjectType} (htype : objType.elementType ≠ .boolean) {n : ℕ}
    {buf buf' : ReadBuffer} {values : List Value} (h : times (readElement objType) n buf = .ok values buf') :
    ∃ size, spanOf objType n buf.rest = some size ∧ buf' = buf.advance size := by
  induction n generalizing buf values with
  | zero =>
    cases h
    exact ⟨0, rfl, rfl⟩
  | succ n ih =>
    obtain ⟨value, c₁, hvalue, htail⟩ := exists_of_bind_ok h
    obtain ⟨more, c₂, hmore, hret⟩ := exists_of_bind_ok htail
    cases hret
    obtain ⟨here, hhere, rfl⟩ := elementSpan_of_readElement htype hvalue
    obtain ⟨size, hsize, hend⟩ := ih hmore
    rw [rest_advance] at hsize
    exact ⟨here + size, by rw [spanOf, hhere, Option.bind_eq_bind, Option.bind_some, hsize]; rfl,
      by rw [hend, advance_advance]⟩

end OracleRs
