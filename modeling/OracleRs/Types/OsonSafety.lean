import OracleRs.Types.OsonTraversal

set_option relaxedAutoImplicit false
set_option autoImplicit false

/-!
# Where the OSON decoder panics

The decoder checks the end of the data before each read, and it never comes to a position that does
not fit into a `usize`. It does not check where the names are in their segment, the bytes of the time
in a date, nor the sum of a relative offset and the offset of the container.

## Main definitions

* `OracleRs.Oson.DictionarySafe` — the field names are where the header says.
* `OracleRs.Oson.IndexSafe` — the condition under which the decoder does not panic.

## Main results

* `OracleRs.Oson.panics_readContext_iff` — where the decoder panics in front of the tree.
* `OracleRs.Oson.decode_safe_iff` — a decoder that ends does not panic if and only if the document
  meets the condition.
-/

namespace OracleRs.Oson

open Cursor Triple Relation

variable {floats : FloatText} {context : Context} {d : Bytes}

/-! ## Panics -/

/-- The source panics. -/
def Panics {α : Type} : EStateM.Result Error ReadBuffer α → Prop
  | .ok _ _ => False
  | .error e _ => e.isPanic = true

/-- A sequence panics in its first or in its second part. -/
lemma panics_bind_iff {α β : Type} {m : ReadM α} {f : α → ReadM β} {c : ReadBuffer} :
    Panics ((m >>= f) c) ↔ Panics (m c) ∨ ∃ a c', m c = .ok a c' ∧ Panics (f a c') := by
  cases hrun : m c with
  | ok a c' =>
    rw [bind_ok hrun]
    simp [Panics]
  | error e c' =>
    rw [bind_error hrun]
    simp [Panics]

/-- Errors that are returned are no panics. -/
lemma not_panics {α : Type} {m : ReadM α} {P : ReadBuffer → Prop} {Q : α → ReadBuffer → Prop}
    (hlen : d.length < 2 ^ 63) (h : Holds P m Q (Benign d)) {c : ReadBuffer} (hc : P c) :
    ¬ Panics (m c) := by
  have hends := h c hc
  cases hrun : m c with
  | ok a c' => exact id
  | error e c' =>
    rw [hrun] at hends
    have he : e.isPanic = false := hends.2 hlen
    simp [Panics, he]

/-- Behind a reader that does not panic. -/
lemma panics_bind_iff_of_holds {α β : Type} {m : ReadM α} {f : α → ReadM β}
    {P : ReadBuffer → Prop} {Q : α → ReadBuffer → Prop} (hlen : d.length < 2 ^ 63)
    (h : Holds P m Q (Benign d)) {c : ReadBuffer} (hc : P c) :
    Panics ((m >>= f) c) ↔ ∃ a c', m c = .ok a c' ∧ Panics (f a c') :=
  panics_bind_iff.trans (or_iff_right (not_panics hlen h hc))

/-! ## Field names -/

/-- The segment of the names is in the data, and the names are in the segment. -/
def NamesInside (d : Bytes) (prefixSize start segSize : ℕ) (offsets : List UInt32) : Prop :=
  start + segSize ≤ d.length ∧
    ∀ offset ∈ offsets, NameInside prefixSize ((d.drop start).take segSize) offset

/-- The names are in the segment behind the table of their offsets, if the table can be read. -/
def NamesSafe (d : Bytes) (hashSize prefixSize : ℕ) (numFields : UInt32) (offsetsSize : ℕ)
    (segSize : UInt32) (p : ℕ) : Prop :=
  0 < numFields → ∀ offsets c, readNameOffsets hashSize numFields offsetsSize ⟨d, p⟩ =
    .ok offsets c → NamesInside d prefixSize c.pos segSize.toNat offsets

/-- The names are read from a segment in the data, or the source panics. -/
lemma panics_names_iff (hlen : d.length < 2 ^ 63) {prefixSize : ℕ} {segSize : UInt32}
    {offsets : List UInt32} {c : ReadBuffer} (hc : Inside d c) :
    Panics ((do
      let fieldNamesStart ← position
      let data := (← get).data
      let stop ← liftExcept (addUsize fieldNamesStart segSize.toNat)
      let segment ← liftExcept (slice data fieldNamesStart stop)
      seek stop
      liftExcept (offsets.mapM (fieldNameAt prefixSize segment)) : ReadM (List String)) c) ↔
      ¬ NamesInside d prefixSize c.pos segSize.toNat offsets := by
  obtain ⟨data, start⟩ := c
  obtain rfl : data = d := hc.1
  have hstart : start ≤ data.length := hc.2
  have hseg := segSize.toNat_lt
  have hposition : position ⟨data, start⟩ = .ok start ⟨data, start⟩ := rfl
  have hget : (get : ReadM ReadBuffer) ⟨data, start⟩ = .ok ⟨data, start⟩ ⟨data, start⟩ := rfl
  have hadd : addUsize start segSize.toNat = .ok (start + segSize.toNat) := if_pos (by omega)
  rw [bind_ok hposition, bind_ok hget, bind_liftExcept_ok hadd, NamesInside]
  by_cases hin : start + segSize.toNat ≤ data.length
  · have hslice : slice data start (start + segSize.toNat) =
        .ok ((data.drop start).take segSize.toNat) := by
      rw [slice_eq_ok (Nat.le_add_right _ _) hin, Nat.add_sub_cancel_left]
    have hseek : seek (start + segSize.toNat) ⟨data, start⟩ =
        .ok () ⟨data, start + segSize.toNat⟩ := rfl
    rw [bind_liftExcept_ok hslice, bind_ok hseek]
    rcases mapM_fieldNameAt_cases prefixSize ((data.drop start).take segSize.toNat) offsets with
      ⟨hnames, names, hread⟩ | ⟨hnames, index, hread⟩
    · rw [hread]
      exact iff_of_false id (not_not.mpr ⟨hin, hnames⟩)
    · rw [hread]
      exact iff_of_true rfl fun h => hnames h.2
  · rw [bind_liftExcept_error (slice_eq_error (not_le.mp hin))]
    exact iff_of_true rfl fun h => hin h.1

lemma panics_readFieldNames_iff (hlen : d.length < 2 ^ 63) {hashSize prefixSize : ℕ}
    {numFields : UInt32} {offsetsSize : ℕ} {segSize : UInt32} (hhash : hashSize ≤ 2) {p : ℕ}
    (hp : p ≤ d.length) :
    Panics (if numFields > 0 then
        readFieldNames hashSize prefixSize numFields offsetsSize segSize ⟨d, p⟩
      else (pure [] : ReadM (List String)) ⟨d, p⟩) ↔
      ¬ NamesSafe d hashSize prefixSize numFields offsetsSize segSize p := by
  rw [NamesSafe]
  split_ifs with hnum
  · have hoffsets : Holds _ (readNameOffsets hashSize numFields offsetsSize) _ _ :=
      holds_readNameOffsets (d := d) hhash hnum
    rw [readFieldNames, panics_bind_iff_of_holds hlen hoffsets ⟨rfl, hp⟩]
    constructor
    · rintro ⟨offsets, c, hrun, hpanics⟩ h
      have hinside := hoffsets.of_ok ⟨rfl, hp⟩ hrun
      exact (panics_names_iff hlen hinside).mp hpanics (h hnum offsets c hrun)
    · intro h
      simp only [not_forall] at h
      obtain ⟨-, offsets, c, hrun, hnot⟩ := h
      exact ⟨offsets, c, hrun, (panics_names_iff hlen (hoffsets.of_ok ⟨rfl, hp⟩ hrun)).mpr hnot⟩
  · exact iff_of_false id (not_not.mpr fun h => absurd h hnum)

/-! ## The header -/

/-- The names of the dictionary that the header announces are where it says. -/
def HeaderSafe (d : Bytes) (header : Header) (p : ℕ) : Prop :=
  NamesSafe d 1 1 header.numShort header.shortOffsetsSize header.shortSegSize p ∧
    ∀ names c, header.readShortNames ⟨d, p⟩ = .ok names c →
      NamesSafe d 2 2 header.numLong header.longOffsetsSize header.longSegSize c.pos

/-- The field names of the document are where its header says, if it is no scalar. -/
def DictionarySafe (d : Bytes) : Prop :=
  ∀ flags c header c', readFlags ⟨d, 0⟩ = .ok flags c → flags.2 &&& flagIsScalar = 0 →
    readHeader flags.1 flags.2 c = .ok header c' → HeaderSafe d header c'.pos

lemma panics_readShortNames_iff (hlen : d.length < 2 ^ 63) {header : Header} {p : ℕ}
    (hp : p ≤ d.length) :
    Panics (header.readShortNames ⟨d, p⟩) ↔
      ¬ NamesSafe d 1 1 header.numShort header.shortOffsetsSize header.shortSegSize p := by
  rw [← panics_readFieldNames_iff hlen (by norm_num) hp, Header.readShortNames,
    readShortFieldNames]
  split_ifs <;> rfl

lemma panics_readLongNames_iff (hlen : d.length < 2 ^ 63) {header : Header} {p : ℕ}
    (hp : p ≤ d.length) :
    Panics (header.readLongNames ⟨d, p⟩) ↔
      ¬ NamesSafe d 2 2 header.numLong header.longOffsetsSize header.longSegSize p := by
  rw [← panics_readFieldNames_iff hlen (by norm_num) hp, Header.readLongNames,
    readLongFieldNames]
  split_ifs <;> rfl

/-- Behind the header, the names are read. -/
lemma panics_names_of_header (hlen : d.length < 2 ^ 63) {header : Header} {primaryFlags : UInt16}
    {p : ℕ} (hp : p ≤ d.length) :
    Panics ((do
      let shortNames ← header.readShortNames
      let longNames ← header.readLongNames
      return {
        fieldNames := shortNames ++ longNames
        fieldIdLength := header.fieldIdLength
        treeSegPos := ← position
        relativeOffsets := primaryFlags &&& flagRelOffsetMode ≠ 0 } : ReadM Context) ⟨d, p⟩) ↔
      ¬ HeaderSafe d header p := by
  have hlong : ∀ shortNames c, Inside d c →
      (Panics ((do
        let longNames ← header.readLongNames
        return {
          fieldNames := shortNames ++ longNames
          fieldIdLength := header.fieldIdLength
          treeSegPos := ← position
          relativeOffsets := primaryFlags &&& flagRelOffsetMode ≠ 0 } : ReadM Context) c) ↔
        ¬ NamesSafe d 2 2 header.numLong header.longOffsetsSize header.longSegSize c.pos) := by
    rintro shortNames ⟨data, pos⟩ ⟨rfl, hpos⟩
    rw [panics_bind_iff, panics_readLongNames_iff hlen hpos]
    exact or_iff_left fun ⟨_, _, _, h⟩ => h
  rw [panics_bind_iff, panics_readShortNames_iff hlen hp, HeaderSafe, not_and_or]
  refine or_congr_right ?_
  simp only [not_forall]
  refine exists_congr fun names => exists_congr fun c => ?_
  constructor
  · rintro ⟨hrun, hpanics⟩
    have hinside := holds_readShortFieldNames.of_ok ⟨rfl, hp⟩ hrun
    exact ⟨hrun, (hlong names c hinside).mp hpanics⟩
  · rintro ⟨hrun, hnot⟩
    have hinside := holds_readShortFieldNames.of_ok ⟨rfl, hp⟩ hrun
    exact ⟨hrun, (hlong names c hinside).mpr hnot⟩

/-- In front of the tree, the decoder panics at names that are not where the header says. -/
theorem panics_readContext_iff (hlen : d.length < 2 ^ 63) :
    Panics (readContext ⟨d, 0⟩) ↔ ¬ DictionarySafe d := by
  have hflags : Holds (Here d 0) readFlags (fun _ => Inside d) (Benign d) := holds_readFlags
  rw [readContext, panics_bind_iff_of_holds hlen hflags ⟨rfl, rfl⟩, DictionarySafe]
  simp only [not_forall]
  refine exists_congr fun flags => exists_congr fun c => ?_
  obtain ⟨version, primaryFlags⟩ := flags
  have hheader : Holds (Inside d) (readHeader version primaryFlags) _ (Benign d) := holds_readHeader
  constructor
  · rintro ⟨hrun, hpanics⟩
    have hinside := hflags.of_ok ⟨rfl, rfl⟩ hrun
    by_cases hscalar : primaryFlags &&& flagIsScalar = 0
    · rw [if_neg (not_not.mpr hscalar), readDictionary,
        panics_bind_iff_of_holds hlen hheader hinside] at hpanics
      obtain ⟨header, ⟨data, pos⟩, hread, hnames⟩ := hpanics
      obtain ⟨-, rfl, hpos⟩ := hheader.of_ok hinside hread
      exact ⟨header, _, hrun, hscalar, hread, (panics_names_of_header hlen hpos).mp hnames⟩
    · rw [if_pos hscalar] at hpanics
      exact absurd hpanics (not_panics hlen holds_skipScalarHeader hinside)
  · rintro ⟨header, ⟨data, pos⟩, hrun, hscalar, hread, hnot⟩
    have hinside := hflags.of_ok ⟨rfl, rfl⟩ hrun
    obtain ⟨-, rfl, hpos⟩ := hheader.of_ok hinside hread
    refine ⟨hrun, ?_⟩
    rw [if_neg (not_not.mpr hscalar), readDictionary,
      panics_bind_iff_of_holds hlen hheader hinside]
    exact ⟨header, _, hread, (panics_names_of_header hlen hpos).mpr hnot⟩

/-! ## The tree -/

/-- Dates and timestamps are no containers. -/
lemma and_eq_zero_of_timeWidth {nodeType : UInt8} {width : ℕ}
    (h : timeWidth nodeType = some width) : nodeType &&& 0x80 = 0 := by
  rw [timeWidth] at h
  split_ifs at h with hdate htimestamp htz
  · rcases hdate with rfl | rfl <;> decide
  · subst htimestamp
    decide
  · subst htz
    decide

/-- The traversal panics at a place with a date or a timestamp that has a zero byte in its time, or
with a container where it comes to a relative offset that does not fit into 32 bits. -/
lemma exists_failsAt_iff (hlen : d.length < 2 ^ 63) (hfits : context.Fits d) {p : ℕ}
    (hmin : context.treeSegPos ≤ p) :
    (∃ e, (graph floats context d).FailsAt p e ∧ e.isPanic = true) ↔
      ZeroTimeAt d p ∨ OverflowsAt floats context d p := by
  constructor
  · rintro ⟨e, hfails, he⟩
    rcases failsAt_cases hfits hmin hfails with h | h
    · rw [h.2 hlen] at he
      cases he
    · exact h.2
  · rintro (⟨width, htime, hin, hzero⟩ | ⟨container, i, hnode, htries, hchild⟩)
    · have hnode : nodeAt floats context d p = .error .arithmeticOverflow := by
        obtain ⟨c, hrun⟩ := decodeScalar_of_hasZeroTime floats htime hin hzero
        rw [nodeAt_eq floats context (readU8_of_lt (by omega)),
          if_neg (not_not.mpr (and_eq_zero_of_timeWidth htime)), runAt, bind_error hrun]
      refine ⟨.arithmeticOverflow, ⟨0, ⟨?_, fun j hj => absurd hj j.not_lt_zero⟩, ?_⟩, rfl⟩
      · simp only [graph, hnode]
        exact Nat.zero_lt_one
      · simp only [graph, hnode]
    · rcases nodeAt_cases floats hfits hmin with
        ⟨e, hnode', -⟩ | hnode' | ⟨container', hnode', -, -, hlayout⟩
      · rw [hnode] at hnode'
        cases hnode'
      · rw [hnode] at hnode'
        cases hnode'
      · rw [hnode] at hnode'
        cases hnode'
        have hi := htries.1
        simp only [graph, hnode] at hi
        refine ⟨.arithmeticOverflow, ⟨i, htries, ?_⟩, rfl⟩
        simp only [graph, hnode]
        exact hchild.childAt_eq hfits hlayout hi

/-- The field names of the document are where its header says, and the traversal of its tree comes to
no date with a zero byte in its time and to no relative offset that does not fit into 32 bits. -/
def IndexSafe (floats : FloatText) (data : Bytes) : Prop :=
  DictionarySafe data ∧ ∀ context root, readContext ⟨data, 0⟩ = .ok context root →
    ∀ p, ReflTransGen (graph floats context data).Visits root.pos p →
      ¬ ZeroTimeAt data p ∧ ¬ OverflowsAt floats context data p

/-- A tree at which the decoder ends panics where the traversal fails with a panic. -/
lemma panics_decodeNode_iff (hlen : d.length < 2 ^ 63) (hfits : context.Fits d) {p : ℕ}
    (hmin : context.treeSegPos ≤ p) (hmax : p ≤ d.length + 2 ^ 32) {fuel : ℕ}
    (hterm : ∀ c, decodeNode floats context fuel ⟨d, p⟩ ≠ .error .stuck c) :
    Panics (decodeNode floats context fuel ⟨d, p⟩) ↔
      ∃ q, ReflTransGen (graph floats context d).Visits p q ∧
        (ZeroTimeAt d q ∨ OverflowsAt floats context d q) := by
  have hends := decodes_decodeNode floats hfits fuel p hmin hmax
  constructor
  · intro hpanics
    cases hrun : decodeNode floats context fuel ⟨d, p⟩ with
    | ok value c =>
      rw [hrun] at hpanics
      exact hpanics.elim
    | error e c =>
      rw [hrun] at hends hpanics
      have he : e ≠ .stuck := fun h => hterm c (by rw [hrun, h])
      obtain ⟨q, hreach, hfails⟩ := Traversal.Graph.exists_failsAt hends he
      have hminq := treeSegPos_le_of_reaches hfits hmin hreach
      exact ⟨q, hreach, (exists_failsAt_iff hlen hfits hminq).mp ⟨e, hfails, hpanics⟩⟩
  · rintro ⟨q, hreach, hq⟩
    have hminq := treeSegPos_le_of_reaches hfits hmin hreach
    obtain ⟨e, hfails, he⟩ := (exists_failsAt_iff hlen hfits hminq).mpr hq
    cases hrun : decodeNode floats context fuel ⟨d, p⟩ with
    | ok value c =>
      rw [hrun] at hends
      have hne : (graph floats context d).visit .stuck fuel p ≠ .error .stuck := by simp [hends.2]
      have hvisit := Traversal.Graph.visit_of_failsAt hreach hfails hne
      rw [hends.2] at hvisit
      cases hvisit
    | error e' c =>
      have hvisit' : (graph floats context d).visit .stuck fuel p = .error e' := by
        rw [hrun] at hends
        exact hends
      have hne : (graph floats context d).visit .stuck fuel p ≠ .error .stuck := by
        rw [hvisit']
        exact fun h => hterm c (by rw [hrun, Except.error.inj h])
      have hvisit := Traversal.Graph.visit_of_failsAt hreach hfails hne
      rw [hvisit'] at hvisit
      cases hvisit
      exact he

/-- A decoder of OSON that ends does not panic if and only if the field names are where the header
says, and the traversal of the tree comes to no date with a zero byte in its time and to no relative
offset that does not fit into 32 bits. Byte strings have fewer than `2 ^ 63` bytes. -/
theorem decode_safe_iff (floats : FloatText) {data : Bytes} (hlen : data.length < 2 ^ 63) {fuel : ℕ}
    (hterm : decode floats fuel data ≠ .error .stuck) :
    (∀ e, decode floats fuel data = .error e → e.isPanic = false) ↔ IndexSafe floats data := by
  have hpanics : (∀ e, decode floats fuel data = .error e → e.isPanic = false) ↔
      ¬ Panics (parse floats fuel ⟨data, 0⟩) := by
    rw [decode, ReadM.runOn]
    cases parse floats fuel ⟨data, 0⟩ with
    | ok value c => simp [Panics]
    | error e c => simp [Panics]
  rw [hpanics, parse, panics_bind_iff, panics_readContext_iff hlen, IndexSafe, not_or, not_not]
  refine and_congr_right fun _ => ?_
  simp only [not_exists, not_and]
  refine forall_congr' fun context => forall_congr' fun root => imp_congr_right fun hread => ?_
  have hstart : Here data 0 ⟨data, 0⟩ := ⟨rfl, rfl⟩
  obtain ⟨hfits, hmin, hdata, hmax⟩ := holds_readContext.of_ok hstart hread
  obtain ⟨rootData, pos⟩ := root
  obtain rfl : rootData = data := hdata
  have hterm' : ∀ c, decodeNode floats context fuel ⟨rootData, pos⟩ ≠ .error .stuck c := by
    intro c hrun
    apply hterm
    rw [decode, ReadM.runOn, parse, bind_ok hread, hrun]
  rw [panics_decodeNode_iff hlen hfits hmin hmax hterm']
  simp only [not_exists, not_and, not_or]

/-- An object with the only field `a`, which is null. -/
def objectDocument : Bytes :=
  [0xFF, 0x4A, 0x5A, 1, 0, 0, 1, 0, 2, 0, 0, 0, 0, 0, 0, 0, 1, 0x61, 0x84, 1, 1, 0, 5, 0x30]

/-- The object is decoded without a panic. -/
theorem indexSafe_objectDocument :
    IndexSafe ⟨fun _ => none, fun _ => none⟩ objectDocument := by
  have hdecode : decode ⟨fun _ => none, fun _ => none⟩ 2 objectDocument =
      .ok (.object [("a", .null)]) := rfl
  have hterm : decode ⟨fun _ => none, fun _ => none⟩ 2 objectDocument ≠ .error .stuck := by
    simp [hdecode]
  refine (decode_safe_iff _ (by decide) hterm).mp fun e he => ?_
  rw [hdecode] at he
  cases he

/-- A date whose seconds are the byte zero, and a field name outside the segment of the names, which
is empty. -/
theorem decode_panics :
    decode ⟨fun _ => none, fun _ => none⟩ 1
      [0xFF, 0x4A, 0x5A, 1, 0, 0x10, 0, 8, 0x3C, 120, 124, 1, 1, 1, 1, 0] =
        .error .arithmeticOverflow ∧
    decode ⟨fun _ => none, fun _ => none⟩ 1
      [0xFF, 0x4A, 0x5A, 1, 0, 0, 1, 0, 0, 0, 0, 0, 0, 0, 0, 0] =
        .error (.indexOutOfBounds 1 0) ∧
    Error.arithmeticOverflow.isPanic = true ∧ (Error.indexOutOfBounds 1 0).isPanic = true :=
  ⟨rfl, rfl, rfl, rfl⟩

end OracleRs.Oson
