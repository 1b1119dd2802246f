import OracleRs.Buffer.Skip
import OracleRs.Response.Describe

set_option relaxedAutoImplicit false
set_option autoImplicit false

/-!
# The other parser of describe information

`parse_describe_info` of `messages/describe.rs`, which the library exports beside the one of the
connection. The two read the same fields in the same order. They go different ways at variable-length
integers that are too long, at byte strings in chunks, at object ids, at types, names and numbers that
are not there, and in the versions that have annotations.

## Main definitions

* `OracleRs.Describe.parseDescribeInfo` — the parser.
* `OracleRs.describeInfo` — the parser of the connection behind the bytes in front of it.
* `OracleRs.Describe.DescribeAlike` — the two read each field in the same way.

## Main results

* `OracleRs.Describe.agree_of_describeAlike` — then they return the same columns.
* `OracleRs.Describe.not_agree_nullable` — a column without NULL values is not described alike.
-/

namespace OracleRs

open Cursor

/-- `skip_raw_bytes_chunked` and `parse_describe_info` of the connection, as the parsers of responses
call them. -/
def describeInfo (ttcFieldVersion : UInt8) : ReadM (List ColumnInfo) := do
  skipRawBytesChunked
  parseDescribeInfo ttcFieldVersion

namespace Describe

/-! ## The parser -/

/-- One turn of the loop of `skip_raw_bytes_chunked`. -/
def skipTurn (_ : Unit) : ReadM (Unit ⊕ Unit) := do
  let length ← readU8
  if length = 0 ∨ length = nullIndicator then
    return .inr ()
  if length = longIndicator then
    let longLength ← readUb4
    skip longLength.toNat
    return .inl ()
  skip length.toNat
  return .inl ()

/-- `skip_raw_bytes_chunked` of `describe.rs`: chunks until a length of zero or the NULL indicator. -/
def skipRawBytesChunked : ReadM Unit := iterate .stuck skipTurn ()

/-- `read_string`. -/
def readString : ReadM String := do
  return (← readStringWithLength).getD ""

/-- A string behind an indicator. -/
def readOptionalString : ReadM (Option String) := do
  if (← readUb4) > 0 then return some (← readString)
  else return none

/-- The name of a column, which must be there. -/
def readName : ReadM String := do
  if (← readUb4) > 0 then readString
  else throw (.protocol "column name is required")

/-- The object id of a type behind its length. -/
def skipOid : ReadM Unit := do
  if (← readUb4) > 0 then skipRawBytesChunked
  else return

/-- An annotation of a column: key, value and flags. -/
def skipAnnotation : ReadM Unit := do
  let _keyLength ← readUb4
  let _key ← readString
  let _value ← readOptionalString
  let _flags ← readUb4

/-- The annotations of a column, whose number is read twice. -/
def skipAnnotations : ReadM Unit := do
  let annotationsCount ← readUb4
  if annotationsCount > 0 then do
    skip 1 -- marker
    let actualCount ← readUb4
    skip 1 -- marker
    let _annotations ← times skipAnnotation actualCount.toNat
    let _flags ← readUb4
  else
    return

/-- The domain of a column. -/
def readDomain : ReadM Unit := do
  let _domainSchema ← readOptionalString
  let _domainName ← readOptionalString

/-- The vector metadata of a column. -/
def readVectorFields : ReadM Unit := do
  let _dimensions ← readUb4
  let _format ← readU8
  let _flags ← readU8

/-- `OracleType::try_from`, with its error. -/
def oracleTypeOf (code : UInt8) : ReadM OracleType :=
  match OracleType.tryFrom code with
  | some oracleType => return oracleType
  | none => throw (.invalidOracleType code)

/-- `parse_column_info`. -/
def parseColumnInfo (ttcFieldVersion : UInt8) : ReadM ColumnInfo := do
  let dataTypeNum ← readU8
  let oracleType ← oracleTypeOf dataTypeNum
  skip 1 -- flags
  let precision ← readU8
  let scale ← readU8
  let bufferSize ← readUb4
  let _maxElements ← readUb4
  let _contFlags ← readUb8
  skipOid
  let _version ← readUb2
  let _charsetId ← readUb2
  let csfrm ← readU8
  let dataSize ← readUb4
  since (ttcFieldVersion ≥ fieldVersion12_2) (discard readUb4) -- oaccolid
  let nullable ← readU8
  skip 1 -- length of the name
  let name ← readName
  let typeSchema ← readOptionalString
  let typeName ← readOptionalString
  let _columnPosition ← readUb2
  let _udsFlag ← readUb4
  since (ttcFieldVersion ≥ fieldVersion23_1) readDomain
  since (ttcFieldVersion ≥ fieldVersion23_1) skipAnnotations
  since (ttcFieldVersion ≥ fieldVersion23_4) readVectorFields
  return {
    name := name
    oracleType := oracleType
    dataSize := if oracleType = .raw then bufferSize else dataSize
    bufferSize := bufferSize
    precision := Int16.ofNat precision.toNat
    scale := Int16.ofNat scale.toNat
    nullable := nullable ≠ 0
    csfrm := csfrm
    typeSchema := typeSchema
    typeName := typeName
    isJson := oracleType = .json }

/-- Bytes behind an indicator. -/
def skipIndicated : ReadM Unit := do
  if (← readUb4) > 0 then skipRawBytesChunked
  else return

/-- `parse_describe_info` of `describe.rs`. -/
def parseDescribeInfo (ttcFieldVersion : UInt8) : ReadM (List ColumnInfo) := do
  skipRawBytesChunked
  let _maxRowSize ← readUb4
  let columnCount := (← readUb4).toNat
  if columnCount > 0 then
    skip 1
  let columns ← times (parseColumnInfo ttcFieldVersion) columnCount
  skipIndicated -- current date
  let _dcbflag ← readUb4
  let _dcbmdbz ← readUb4
  let _dcbmnpr ← readUb4
  let _dcbmxpr ← readUb4
  skipIndicated -- dcbqcky
  return columns

/-! ## Bytes in chunks -/

/-- Bytes in chunks that both parsers skip to the same place: none, or one long chunk in front of the
last, empty one, or fewer bytes than announced. -/
def ChunksAlike (c : ReadBuffer) : Prop :=
  c.rest.headD 0 = 0 ∨
    (c.rest.headD 0 ≠ longIndicator ∧ c.rest.headD 0 ≠ nullIndicator ∧
      c.rest.tail.length < (c.rest.headD 0).toNat) ∨
    (c.rest.headD 0 = longIndicator ∧ After readUb4 (fun n c' => n ≠ 0 ∧
      (c'.rest.length < n.toNat ∨ (c'.advance n.toNat).rest.headD 0 = 0)) (c.advance 1))

instance (c : ReadBuffer) : Decidable (ChunksAlike c) := inferInstanceAs (Decidable (_ ∨ _ ∨ _))

/-- The end of the bytes, for one parser. -/
lemma skipTurn_zero {c : ReadBuffer} {r : Bytes} (hc : c.rest = 0 :: r) :
    skipTurn () c = .ok (.inr ()) (c.advance 1) := by
  rw [skipTurn, bind_ok (reads_readU8 0 c r hc)]
  rfl

/-- The end of the bytes, for the other parser. -/
lemma skipChunk_zero {c : ReadBuffer} {r : Bytes} (hc : c.rest = 0 :: r) :
    skipChunk () c = .ok (.inr ()) (c.advance 1) := by
  have hzero : readUb4 c = .ok 0 (c.advance 1) := (Ub.zero : Ub 4).reads_readUb4 c r hc
  rw [skipChunk, bind_ok hzero]
  rfl

/-- Where the next length is zero or missing, both loops come to the same end. -/
lemma exists_ends_last {c : ReadBuffer} (hc : c.rest.headD 0 = 0) :
    ∃ R R', Ends .stuck skipTurn () c R ∧ Ends .stuck skipChunk () c R' ∧
      SameOutcome (fun _ _ => True) R R' := by
  cases hrest : c.rest with
  | nil =>
    obtain ⟨e, c₁, hturn⟩ := ((fails_readU8 hrest).bind _ : Fails (skipTurn ()) c).exists_error
    obtain ⟨e', c₂, hchunk⟩ :=
      ((((fails_readU8 hrest).bind _).bind _).bind _ : Fails (skipChunk ()) c).exists_error
    exact ⟨_, _, Ends.fail hturn, Ends.fail hchunk, trivial⟩
  | cons b r =>
    rw [hrest, List.headD_cons] at hc
    subst hc
    exact ⟨_, _, Ends.done (skipTurn_zero hrest), Ends.done (skipChunk_zero hrest), trivial, rfl⟩

/-- A long chunk in front of the last, empty one. -/
lemma agreeOn_long {c : ReadBuffer} {r : Bytes} (hc : c.rest = longIndicator :: r)
    (hafter : After readUb4 (fun n c' => n ≠ 0 ∧
      (c'.rest.length < n.toNat ∨ (c'.advance n.toNat).rest.headD 0 = 0)) (c.advance 1)) :
    AgreeOn (fun _ _ => True) skipRawBytesChunked OracleRs.skipRawBytesChunked c := by
  have hlength := reads_readU8 longIndicator c r hc
  have hconnection : OracleRs.skipRawBytesChunked c = iterate .stuck skipChunk () (c.advance 1) := by
    rw [OracleRs.skipRawBytesChunked, bind_ok hlength]
    rfl
  have hturn : skipTurn () c =
      (readUb4 >>= fun n => skip n.toNat >>= fun _ => pure (.inl ())) (c.advance 1) := by
    rw [skipTurn, bind_ok hlength]
    rfl
  have hchunk : ∀ n c', readUb4 (c.advance 1) = .ok n c' → n ≠ 0 → skipChunk () (c.advance 1) =
      (skip n.toNat >>= fun _ => pure (.inl ())) c' := by
    intro n c' hn hne
    have hpos : ¬ n.toNat = 0 := fun h => hne (UInt32.toNat_inj.mp h)
    rw [skipChunk, bind_ok hn, if_neg hpos]
  rw [AgreeOn, hconnection, skipRawBytesChunked]
  suffices h : ∃ R R', Ends .stuck skipTurn () c R ∧ Ends .stuck skipChunk () (c.advance 1) R' ∧
      SameOutcome (fun _ _ => True) R R' by
    obtain ⟨R, R', hR, hR', hsame⟩ := h
    rw [iterate_of_ends hR, iterate_of_ends hR']
    exact hsame
  cases hn : readUb4 (c.advance 1) with
  | error e c' =>
    rw [bind_error hn] at hturn
    exact ⟨_, _, Ends.fail hturn, Ends.fail (bind_error hn), trivial⟩
  | ok n c' =>
    obtain ⟨hne, hbehind⟩ := hafter.ok hn
    have hshorter := length_lt_of_readUb4 hn
    rw [rest_advance, List.length_drop] at hshorter
    rw [bind_ok hn] at hturn
    have hskip := takes_skip n.toNat c'
    split_ifs at hskip with hshort
    · -- the chunk is cut short
      obtain ⟨e, c₁, herror⟩ := hskip.exists_error
      rw [bind_error herror] at hturn
      have hchunk' := hchunk n c' hn hne
      rw [bind_error herror] at hchunk'
      exact ⟨_, _, Ends.fail hturn, Ends.fail hchunk', trivial⟩
    · -- both go on behind it
      obtain ⟨_, hok⟩ := hskip
      rw [bind_ok hok] at hturn
      have hchunk' := hchunk n c' hn hne
      rw [bind_ok hok] at hchunk'
      obtain ⟨R, R', hR, hR', hsame⟩ := exists_ends_last (hbehind.resolve_left hshort)
      refine ⟨R, R', Ends.more hturn ?_ hR, Ends.more hchunk' ?_ hR', hsame⟩
      · rw [rest_advance, List.length_drop]
        omega
      · rw [rest_advance, rest_advance, List.length_drop, List.length_drop]
        omega

lemma agreeOn_chunks {c : ReadBuffer} (hc : ChunksAlike c) :
    AgreeOn (fun _ _ => True) skipRawBytesChunked OracleRs.skipRawBytesChunked c := by
  cases hrest : c.rest with
  | nil =>
    obtain ⟨e, c₁, hturn⟩ := ((fails_readU8 hrest).bind _ : Fails (skipTurn ()) c).exists_error
    have hfails : Fails skipRawBytesChunked c := fails_of_error (iterate_of_ends (Ends.fail hturn))
    exact hfails.agreeOn ((fails_readU8 hrest).bind _)
  | cons b r =>
    rw [ChunksAlike, hrest, List.headD_cons, List.tail_cons] at hc
    rcases hc with rfl | ⟨hlong, hnull, hfew⟩ | ⟨rfl, hafter⟩
    · have hfirst : skipRawBytesChunked c = .ok () (c.advance 1) :=
        iterate_of_ends (Ends.done (skipTurn_zero hrest))
      have hsecond : OracleRs.skipRawBytesChunked c = .ok () (c.advance 1) := by
        rw [OracleRs.skipRawBytesChunked, bind_ok (reads_readU8 0 c r hrest)]
        rfl
      rw [AgreeOn, hfirst, hsecond]
      exact ⟨trivial, rfl⟩
    · have hlength := reads_readU8 b c r hrest
      have hskip : Fails (skip b.toNat) (c.advance 1) := by
        have h := takes_skip b.toNat (c.advance 1)
        have hr : (c.advance 1).rest = r := by simp [hrest]
        rwa [hr, if_pos hfew] at h
      have hpos : b ≠ 0 := by
        rintro rfl
        exact Nat.not_lt_zero _ hfew
      have hturn : Fails (skipTurn ()) c := by
        refine Fails.bind_ok hlength ?_
        show Fails _ (c.advance 1)
        rw [if_neg (by rintro (h | h); exacts [hpos h, hnull h]), if_neg hlong]
        exact hskip.bind _
      obtain ⟨e, c₁, herror⟩ := hturn.exists_error
      have hfails : Fails skipRawBytesChunked c :=
        fails_of_error (iterate_of_ends (Ends.fail herror))
      refine hfails.agreeOn (Fails.bind_ok hlength ?_)
      rwa [if_pos hlong]
    · exact agreeOn_long hrest hafter

/-! ## Fields -/

/-- Bytes behind an indicator that both parsers skip to the same place. -/
def IndicatedAlike : ReadBuffer → Prop := After readUb4 fun n c => n > 0 → ChunksAlike c

instance (c : ReadBuffer) : Decidable (IndicatedAlike c) := inferInstanceAs (Decidable (After _ _ c))

lemma agreeOn_indicated {c : ReadBuffer} (hc : IndicatedAlike c) :
    AgreeOn (fun _ _ => True) skipIndicated (indicated4 OracleRs.skipRawBytesChunked) c := by
  refine AgreeOn.bind_same fun p hp => ?_
  show AgreeOn _ (if p.1 > 0 then _ else _) (if p.1 > 0 then _ else _) p.2
  split_ifs with hpos
  · exact (agreeOn_chunks (hc p hp hpos)).map_right fun _ _ => id
  · exact AgreeOn.pure trivial

/-- An object id that both parsers skip to the same place: the length zero, which one of them reads as an
integer and the other one as the length of a byte string. Otherwise they can only both fail. -/
def OidAlike (c : ReadBuffer) : Prop :=
  (c.rest.headD 0).toNat ≤ 4 ∧ After readUb4 (fun n _ => n = 0) c ∨
    Fails skipOid c ∧ Fails readBytesWithLength c

instance (c : ReadBuffer) : Decidable (OidAlike c) := inferInstanceAs (Decidable (_ ∨ _))

/-- A short byte string has the layout of an integer. -/
lemma agreeOn_readBytesWithLength {c : ReadBuffer} (hc : (c.rest.headD 0).toNat ≤ 4) :
    AgreeOn (fun _ _ => True) skipUb4 readBytesWithLength c := by
  cases hrest : c.rest with
  | nil => exact (((fails_readU8 hrest).bind _).bind _).agreeOn ((fails_readU8 hrest).bind _)
  | cons b r =>
    rw [hrest, List.headD_cons] at hc
    have hlength := reads_readU8 b c r hrest
    have hmask : b &&& 0x7F = b := by
      rw [← UInt8.toNat_inj, UInt8.toNat_and]
      exact Nat.and_two_pow_sub_one_of_lt_two_pow (x := b.toNat) (n := 7) (by omega)
    have hubLength : readUbLength c = .ok b (c.advance 1) := by
      rw [readUbLength, bind_ok hlength]
      exact congrArg (EStateM.Result.ok · _) hmask
    have hbytes : Takes (if b.toNat = 0 then pure (some []) else
        readBytesVec b.toNat >>= fun bytes => pure (some bytes) : ReadM (Option Bytes)) b.toNat := by
      split_ifs with hzero
      · rw [hzero]
        exact Takes.pure _
      · exact (takes_readBytesVec _).map _
    have hne : ∀ x : UInt8, 4 < x.toNat → b ≠ x := by
      rintro x hx rfl
      exact absurd hc (not_le.mpr hx)
    have hwithLength : readBytesWithLength c = (if b.toNat = 0 then pure (some []) else
        readBytesVec b.toNat >>= fun bytes => pure (some bytes) : ReadM (Option Bytes))
          (c.advance 1) := by
      rw [readBytesWithLength, bind_ok hlength, if_neg (hne _ (by decide)), if_neg (hne _ (by decide)),
        if_neg (hne _ (by decide))]
      rfl
    rw [AgreeOn, skipUb4, skipUb, bind_ok hubLength, hwithLength]
    exact (takes_skipIf b).agreeOn hbytes _

lemma agreeOn_oid {c : ReadBuffer} (hc : OidAlike c) :
    AgreeOn (fun _ _ => True) skipOid readBytesWithLength c := by
  rcases hc with ⟨hshort, hzero⟩ | ⟨hfails, hfails'⟩
  · have hub : UbAlike 4 c := .inr (.inl (le_trans (by
      rw [UInt8.toNat_and]
      exact Nat.and_le_left) hshort))
    have hbytes : AgreeOn (fun _ _ => True) readUb4 readBytesWithLength c :=
      (agreeOn_ub4_iff.mpr hub).trans (agreeOn_readBytesWithLength hshort) fun _ _ _ _ _ => trivial
    have hnone : AgreeOn (fun _ _ => True) skipOid readUb4 c := by
      rw [AgreeOn, skipOid]
      cases hn : readUb4 c with
      | ok n c' =>
        obtain rfl : n = 0 := hzero.ok hn
        rw [bind_ok hn]
        exact ⟨trivial, rfl⟩
      | error e c' =>
        rw [bind_error hn]
        trivial
    exact hnone.trans hbytes fun _ _ _ _ _ => trivial
  · exact hfails.agreeOn hfails'

/-! ## Columns -/

/-- An indicator that says that something follows. -/
def IndicatorSet : ReadBuffer → Prop := After readUb4 fun n _ => n > 0

instance (c : ReadBuffer) : Decidable (IndicatorSet c) := inferInstanceAs (Decidable (After _ _ c))

/-- A text behind an indicator is neither NULL nor empty. -/
def TextThere : ReadBuffer → Prop :=
  After readUb4 fun n c => n > 0 → After readStringWithLength (fun s _ => s ≠ none ∧ s ≠ some "") c

instance (c : ReadBuffer) : Decidable (TextThere c) := inferInstanceAs (Decidable (After _ _ c))

lemma readString_of_ok {c c' : ReadBuffer} {s : Option String}
    (hs : readStringWithLength c = .ok s c') : readString c = .ok (s.getD "") c' := by
  rw [readString, bind_ok hs]
  rfl

lemma readString_of_error {c c' : ReadBuffer} {e : Error}
    (hs : readStringWithLength c = .error e c') : readString c = .error e c' := by
  rw [readString, bind_error hs]

/-- A text behind an indicator, for a relation between what the two parsers make of it. -/
lemma agreeOn_text {R : Option String → Option String → Prop} (hnone : R none none) {c : ReadBuffer}
    (hc : After readUb4 (fun n c => n > 0 →
      After readStringWithLength (fun s _ => R (some (s.getD "")) s) c) c) :
    AgreeOn R readOptionalString readStringWithUb4Length c := by
  refine AgreeOn.after hc fun n c' htext => ?_
  by_cases hpos : n > 0
  · have hne : ¬ n = 0 := fun h => absurd (h ▸ hpos) (by decide)
    rw [if_pos hpos, if_neg hne, AgreeOn]
    cases hs : readStringWithLength c' with
    | ok s c'' =>
      rw [bind_ok (readString_of_ok hs)]
      exact ⟨(htext hpos).ok hs, rfl⟩
    | error e c'' =>
      rw [bind_error (readString_of_error hs)]
      trivial
  · have hzero : n = 0 := UInt32.le_zero_iff.mp (UInt32.not_lt.mp hpos)
    rw [if_neg hpos, if_pos hzero]
    exact AgreeOn.pure hnone

/-- The place behind a text is the same, whether it is there or not. -/
lemma agreeOn_readOptionalString (c : ReadBuffer) :
    AgreeOn (fun _ _ => True) readOptionalString readStringWithUb4Length c :=
  agreeOn_text trivial fun _ _ _ _ _ => trivial

lemma agreeOn_textThere {c : ReadBuffer} (hc : TextThere c) :
    AgreeOn (fun s s' => s = s'.filter (· ≠ "")) readOptionalString readStringWithUb4Length c := by
  refine agreeOn_text (R := fun s s' => s = s'.filter (· ≠ "")) rfl
    (hc.mono fun n c' htext hpos => (htext hpos).mono ?_)
  rintro s c'' ⟨hsome, hne⟩
  cases s with
  | none => exact absurd rfl hsome
  | some s =>
    have hs : s ≠ "" := fun h => hne (congrArg some h)
    rw [Option.getD_some, Option.filter_some, if_pos (decide_eq_true hs)]

lemma agreeOn_readName {c : ReadBuffer} (hc : IndicatorSet c) :
    AgreeOn (fun s s' => s = s'.getD "") readName readStringWithUb4Length c := by
  refine AgreeOn.after hc fun n c' hpos => ?_
  have hne : ¬ n = 0 := fun h => absurd (h ▸ hpos) (by decide)
  rw [if_pos hpos, if_neg hne, AgreeOn]
  cases hs : readStringWithLength c' with
  | ok s c'' =>
    rw [readString_of_ok hs]
    exact ⟨rfl, rfl⟩
  | error e c'' =>
    rw [readString_of_error hs]
    trivial

/-- An annotation that has a key. -/
def AnnotationAlike : ReadBuffer → Prop :=
  Stage IndicatorSet readStringWithUb4Length fun _ =>
    After readStringWithUb4Length fun _ => UbAlike 4

instance (c : ReadBuffer) : Decidable (AnnotationAlike c) := inferInstanceAs (Decidable (Stage _ _ _ c))

/-- The annotations of a column. The versions from 17 to 19 have them for one parser only. -/
def AnnotationsAlike (ttcFieldVersion : UInt8) (c : ReadBuffer) : Prop :=
  (ttcFieldVersion ≥ fieldVersion23_1 → ttcFieldVersion ≥ 20) ∧
    (ttcFieldVersion ≥ 20 →
      After readUb4 (fun n c => n > 0 →
        After skipUb1 (fun _ => After readUb4 fun actualNum => After skipUb1 fun _ c =>
          EachOf actualNum.toNat OracleRs.skipAnnotation AnnotationAlike c ∧
            After (times OracleRs.skipAnnotation actualNum.toNat) (fun _ => UbAlike 4) c) c) c)

instance (ttcFieldVersion : UInt8) (c : ReadBuffer) : Decidable (AnnotationsAlike ttcFieldVersion c) :=
  inferInstanceAs (Decidable (_ ∧ (_ → After _ _ _)))

/-- The size of a column is the same for both parsers: one takes the buffer size for RAW, the other one
where the maximum size is zero. -/
def SizesAlike (oraTypeNum : UInt8) (bufferSize maxSize : UInt32) : Prop :=
  (if OracleType.tryFrom oraTypeNum = some .raw then bufferSize else maxSize) =
    if maxSize > 0 then maxSize else bufferSize

instance (oraTypeNum : UInt8) (bufferSize maxSize : UInt32) :
    Decidable (SizesAlike oraTypeNum bufferSize maxSize) := inferInstanceAs (Decidable (_ = _))

/-- The names of a column and what follows them, read alike. -/
def NamesAlike (ttcFieldVersion : UInt8) : ReadBuffer → Prop :=
  Stage IndicatorSet readStringWithUb4Length fun _ =>
  Stage TextThere readStringWithUb4Length fun _ =>
  Stage TextThere readStringWithUb4Length fun _ =>
  Stage (UbAlike 2) skipUb2 fun _ =>
  Stage (UbAlike 4) skipUb4 fun _ =>
  After (since (ttcFieldVersion ≥ fieldVersion23_1) skipDomain) fun _ =>
  Stage (AnnotationsAlike ttcFieldVersion)
    (since (ttcFieldVersion ≥ 20) OracleRs.skipAnnotations) fun _ c =>
  ttcFieldVersion ≥ fieldVersion23_4 → UbAlike 4 c

set_option synthInstance.maxSize 1000 in
instance (ttcFieldVersion : UInt8) (c : ReadBuffer) : Decidable (NamesAlike ttcFieldVersion c) :=
  inferInstanceAs (Decidable (Stage _ _ _ c))

/-- The fields behind the sizes of a column, read alike: the column may be NULL. -/
def NullableAlike (ttcFieldVersion : UInt8) : ReadBuffer → Prop :=
  Stage (fun c => ttcFieldVersion ≥ fieldVersion12_2 → UbAlike 4 c)
    (since (ttcFieldVersion ≥ fieldVersion12_2) skipUb4) fun _ =>
  After readU8 fun nullsAllowed c => nullsAllowed ≠ 0 ∧
    After skipUb1 (fun _ => NamesAlike ttcFieldVersion) c

instance (ttcFieldVersion : UInt8) (c : ReadBuffer) : Decidable (NullableAlike ttcFieldVersion c) :=
  inferInstanceAs (Decidable (Stage _ _ _ c))

/-- The object id of a column and what follows it, read alike, behind a type code and a buffer size. -/
def LayoutAlike (ttcFieldVersion oraTypeNum : UInt8) (bufferSize : UInt32) : ReadBuffer → Prop :=
  Stage OidAlike readBytesWithLength fun _ =>
  Stage (UbAlike 2) skipUb2 fun _ =>
  Stage (UbAlike 2) skipUb2 fun _ =>
  After readU8 fun _ =>
  After readUb4 fun maxSize c =>
  SizesAlike oraTypeNum bufferSize maxSize ∧ NullableAlike ttcFieldVersion c

set_option synthInstance.maxSize 1000 in
instance (ttcFieldVersion oraTypeNum : UInt8) (bufferSize : UInt32) (c : ReadBuffer) :
    Decidable (LayoutAlike ttcFieldVersion oraTypeNum bufferSize c) :=
  inferInstanceAs (Decidable (Stage _ _ _ c))

/-- The metadata of a column that both parsers read alike. -/
def ColumnAlike (ttcFieldVersion : UInt8) : ReadBuffer → Prop :=
  After readU8 fun oraTypeNum c => OracleType.tryFrom oraTypeNum ≠ none ∧
    After skipUb1 (fun _ => After readU8 fun _ => After readU8 fun _ =>
      After readUb4 fun bufferSize =>
      Stage (UbAlike 4) skipUb4 fun _ =>
      Stage (UbAlike 8) skipUb8 fun _ => LayoutAlike ttcFieldVersion oraTypeNum bufferSize) c

set_option synthInstance.maxSize 1000 in
instance (ttcFieldVersion : UInt8) (c : ReadBuffer) : Decidable (ColumnAlike ttcFieldVersion c) :=
  inferInstanceAs (Decidable (After _ _ c))

/-! ## Agreement -/

lemma agreeOn_since {present : Bool} {m m' : ReadM Unit} {c : ReadBuffer}
    (h : present → AgreeOn (fun _ _ => True) m m' c) :
    AgreeOn (fun _ _ => True) (since present m) (since present m') c := by
  cases present with
  | false => exact AgreeOn.pure trivial
  | true => exact h rfl

lemma agreeOn_readDomain (c : ReadBuffer) :
    AgreeOn (fun _ _ => True) readDomain skipDomain c := by
  refine (agreeOn_readOptionalString c).bind fun p _ _ _ => ?_
  refine (agreeOn_readOptionalString p.2).bind fun _ _ _ _ => ?_
  exact AgreeOn.pure trivial

lemma agreeOn_skipAnnotation {c : ReadBuffer} (hc : AnnotationAlike c) :
    AgreeOn (fun _ _ => True) skipAnnotation OracleRs.skipAnnotation c := by
  have hkey : AgreeOn (fun _ _ => True) (readUb4 >>= fun _ => readString) readStringWithUb4Length c := by
    refine AgreeOn.trans (R := Eq) ?_ (agreeOn_readName hc.1) fun _ _ _ _ _ => trivial
    refine AgreeOn.after hc.1 fun n c' hpos => ?_
    rw [if_pos hpos]
    exact Agree.of_eq rfl
  have hskip : skipAnnotation = (readUb4 >>= fun _ => readString) >>= fun _ =>
      readOptionalString >>= fun _ => readUb4 >>= fun _ => pure () := by
    rw [bind_assoc]
    rfl
  rw [hskip]
  refine AgreeOn.stage hc (fun _ => hkey) fun _ _ c _ hc => ?_
  refine AgreeOn.bind (agreeOn_readOptionalString c) fun p hp _ _ => ?_
  exact (agreeOn_ub4_iff.mpr (hc p hp)).discard_left

lemma agreeOn_skipAnnotations {ttcFieldVersion : UInt8} {c : ReadBuffer}
    (hc : AnnotationsAlike ttcFieldVersion c) :
    AgreeOn (fun _ _ => True) (since (ttcFieldVersion ≥ fieldVersion23_1) skipAnnotations)
      (since (ttcFieldVersion ≥ 20) OracleRs.skipAnnotations) c := by
  obtain ⟨hversion, hc⟩ := hc
  have hsame : decide (ttcFieldVersion ≥ fieldVersion23_1) = decide (ttcFieldVersion ≥ 20) := by
    refine decide_eq_decide.mpr ⟨hversion, fun h => ?_⟩
    exact UInt8.le_trans (by decide : fieldVersion23_1 ≤ 20) h
  rw [hsame]
  refine agreeOn_since fun h => ?_
  refine AgreeOn.after (hc (of_decide_eq_true h)) fun n c hc => ?_
  split_ifs with hpos
  · refine AgreeOn.after (hc hpos) fun _ c hc => ?_
    refine AgreeOn.after hc fun actualNum c hc => ?_
    refine AgreeOn.after hc fun _ c hc => ?_
    obtain ⟨hitems, hflags⟩ := hc
    have htimes := agreeOn_times fun i hi => (hitems i hi).mono fun _ _ => agreeOn_skipAnnotation
    refine htimes.bind fun p hp _ _ => ?_
    exact (agreeOn_ub4_iff.mpr (hflags p hp)).discard_left
  · exact AgreeOn.pure trivial

lemma agreeOn_readVectorFields {c : ReadBuffer} (hc : UbAlike 4 c) :
    AgreeOn (fun _ _ => True) readVectorFields skipVectorFields c := by
  refine (agreeOn_ub4_iff.mpr hc).bind fun p _ _ _ => ?_
  refine (takes_readU8.agreeOn (takes_skip 1) p.2).bind fun p _ _ _ => ?_
  exact (takes_readU8.map fun _ => ()).agreeOn (takes_skip 1) p.2

/-- The fields of a column that the two parsers both return. -/
structure SameColumn (column column' : ColumnInfo) : Prop where
  name : column.name = column'.name
  oracleType : column.oracleType = column'.oracleType
  dataSize : column.dataSize = column'.dataSize
  bufferSize : column.bufferSize = column'.bufferSize
  precision : column.precision = column'.precision
  scale : column.scale = column'.scale
  csfrm : column.csfrm = column'.csfrm
  nullable : column.nullable = column'.nullable
  typeSchema : column.typeSchema = column'.typeSchema
  typeName : column.typeName = column'.typeName

lemma agreeOn_parseColumnInfo {ttcFieldVersion : UInt8} {c : ReadBuffer}
    (hc : ColumnAlike ttcFieldVersion c) :
    AgreeOn SameColumn (parseColumnInfo ttcFieldVersion) (readColumnInfo ttcFieldVersion) c := by
  refine AgreeOn.after hc fun oraTypeNum c hc => ?_
  obtain ⟨hknown, hc⟩ := hc
  obtain ⟨oracleType, htype⟩ := Option.ne_none_iff_exists'.mp hknown
  have hof : oracleTypeOf oraTypeNum = pure oracleType := by rw [oracleTypeOf, htype]
  rw [hof, pure_bind]
  refine AgreeOn.after hc fun _ c hc => ?_
  refine AgreeOn.after hc fun precision c hc => ?_
  refine AgreeOn.after hc fun scale c hc => ?_
  refine AgreeOn.after hc fun bufferSize c hc => ?_
  refine AgreeOn.stage hc agreeOn_ub4_iff.mpr fun _ _ c _ hc => ?_
  refine AgreeOn.stage hc agreeOn_ub8_iff.mpr fun _ _ c _ hc => ?_
  refine AgreeOn.stage hc agreeOn_oid fun _ _ c _ hc => ?_
  refine AgreeOn.stage hc agreeOn_ub2_iff.mpr fun _ _ c _ hc => ?_
  refine AgreeOn.stage hc agreeOn_ub2_iff.mpr fun _ _ c _ hc => ?_
  refine AgreeOn.after hc fun csfrm c hc => ?_
  refine AgreeOn.after hc fun maxSize c hc => ?_
  obtain ⟨hsizes, hc⟩ := hc
  refine AgreeOn.stage hc (fun h => agreeOn_since fun hv =>
    (agreeOn_ub4_iff.mpr (h (of_decide_eq_true hv))).discard_left) fun _ _ c _ hc => ?_
  refine AgreeOn.after hc fun nullsAllowed c hc => ?_
  obtain ⟨hnulls, hc⟩ := hc
  refine AgreeOn.after hc fun _ c hc => ?_
  refine AgreeOn.stage hc agreeOn_readName fun name name' c hname hc => ?_
  refine AgreeOn.stage hc agreeOn_textThere fun schema schema' c hschema hc => ?_
  refine AgreeOn.stage hc agreeOn_textThere fun typeName typeName' c htypeName hc => ?_
  refine AgreeOn.stage hc agreeOn_ub2_iff.mpr fun _ _ c _ hc => ?_
  refine AgreeOn.stage hc agreeOn_ub4_iff.mpr fun _ _ c _ hc => ?_
  refine AgreeOn.bind (agreeOn_since fun _ => agreeOn_readDomain c) fun p hp _ _ => ?_
  refine AgreeOn.stage (hc p hp) agreeOn_skipAnnotations fun _ _ c _ hc => ?_
  refine AgreeOn.bind (agreeOn_since fun hv =>
    agreeOn_readVectorFields (hc (of_decide_eq_true hv))) fun _ _ _ _ => ?_
  refine AgreeOn.pure ⟨hname, ?_, ?_, rfl, rfl, rfl, rfl, ?_, hschema, htypeName⟩
  · show oracleType = (OracleType.tryFrom oraTypeNum).getD .varchar
    rw [htype, Option.getD_some]
  · show (if oracleType = .raw then bufferSize else maxSize) =
      if maxSize > 0 then maxSize else bufferSize
    rw [SizesAlike, htype] at hsizes
    simpa only [Option.some.injEq] using hsizes
  · exact decide_eq_true hnulls

/-- The fields behind the columns, read alike. -/
def TrailerAlike : ReadBuffer → Prop :=
  Stage IndicatedAlike (indicated4 OracleRs.skipRawBytesChunked) fun _ =>
  Stage (UbAlike 4) skipUb4 fun _ =>
  Stage (UbAlike 4) skipUb4 fun _ =>
  Stage (UbAlike 4) skipUb4 fun _ =>
  Stage (UbAlike 4) skipUb4 fun _ => IndicatedAlike

instance (c : ReadBuffer) : Decidable (TrailerAlike c) := inferInstanceAs (Decidable (Stage _ _ _ c))

/-- Both parsers read each field of the message in the same way. -/
def DescribeAlike (ttcFieldVersion : UInt8) : ReadBuffer → Prop :=
  Stage ChunksAlike OracleRs.skipRawBytesChunked fun _ =>
  Stage (UbAlike 4) skipUb4 fun _ =>
  After readUb4 fun numColumns c => numColumns ≠ 0 ∧
    After skipUb1 (fun _ c =>
      EachOf numColumns.toNat (readColumnInfo ttcFieldVersion) (ColumnAlike ttcFieldVersion) c ∧
        After (times (readColumnInfo ttcFieldVersion) numColumns.toNat) (fun _ => TrailerAlike) c) c

set_option synthInstance.maxSize 1000 in
instance (ttcFieldVersion : UInt8) (c : ReadBuffer) : Decidable (DescribeAlike ttcFieldVersion c) :=
  inferInstanceAs (Decidable (Stage _ _ _ c))

/-- Parsers that read each field in the same way return the same columns and stop at the same place, or
both fail. -/
theorem agree_of_describeAlike {ttcFieldVersion : UInt8} {c : ReadBuffer}
    (hc : DescribeAlike ttcFieldVersion c) :
    AgreeOn (List.Forall₂ SameColumn) (parseDescribeInfo ttcFieldVersion)
      (describeInfo ttcFieldVersion) c := by
  refine AgreeOn.stage hc agreeOn_chunks fun _ _ c _ hc => ?_
  refine AgreeOn.stage hc agreeOn_ub4_iff.mpr fun _ _ c _ hc => ?_
  refine AgreeOn.after hc fun numColumns c hc => ?_
  obtain ⟨hcount, hc⟩ := hc
  have hpos : numColumns.toNat > 0 := Nat.pos_of_ne_zero fun h => hcount (UInt32.toNat_inj.mp h)
  rw [if_pos hpos, if_neg hcount]
  refine AgreeOn.after hc fun _ c hc => ?_
  obtain ⟨hcolumns, hc⟩ := hc
  have htimes := agreeOn_times fun i hi => (hcolumns i hi).mono fun _ _ => agreeOn_parseColumnInfo
  refine htimes.bind fun p hp columns hsame => ?_
  refine AgreeOn.stage (hc p hp) agreeOn_indicated fun _ _ c _ hc => ?_
  refine AgreeOn.stage hc agreeOn_ub4_iff.mpr fun _ _ c _ hc => ?_
  refine AgreeOn.stage hc agreeOn_ub4_iff.mpr fun _ _ c _ hc => ?_
  refine AgreeOn.stage hc agreeOn_ub4_iff.mpr fun _ _ c _ hc => ?_
  refine AgreeOn.stage hc agreeOn_ub4_iff.mpr fun _ _ c _ hc => ?_
  refine AgreeOn.bind (agreeOn_indicated hc) fun _ _ _ _ => ?_
  exact AgreeOn.pure hsame

/-! ## A message with one column -/

/-- A message that describes one column `A` of ten characters. -/
def letterMessage (nullsAllowed : UInt8) : Bytes :=
  [0, -- bytes in front of the message
    1, 10, 1, 1, 0, -- row size and number of columns
    1, 0, 0, 0, 1, 10, 0, 0, 0, 0, 0, 1, 1, 10, 0, nullsAllowed, 1, 1, 1, 1, 65, 0, 0, 1, 1, 0,
    0, 0, 0, 0, 0, 0, -- domain, annotations and vector
    0, 0, 0, 0, 0, 0]

/-- A column that may be NULL is described alike. -/
theorem agree_letter : AgreeOn (List.Forall₂ SameColumn) (parseDescribeInfo 24) (describeInfo 24)
    ⟨letterMessage 1, 0⟩ :=
  agree_of_describeAlike (by decide +kernel)

/-- Columns that are the same may be NULL in the same places. -/
lemma nullable_eq {m m' : ReadM (List ColumnInfo)} {c : ReadBuffer}
    (h : AgreeOn (List.Forall₂ SameColumn) m m' c) :
    (outcome (m c)).map (fun p => p.1.map (·.nullable)) =
      (outcome (m' c)).map (fun p => p.1.map (·.nullable)) := by
  rw [AgreeOn] at h
  cases hm : m c with
  | ok columns c₁ =>
    cases hm' : m' c with
    | ok columns' c₂ =>
      rw [hm, hm'] at h
      have hmaps : columns.map (·.nullable) = columns'.map (·.nullable) := by
        rw [← List.forall₂_eq_eq_eq, List.forall₂_map_left_iff, List.forall₂_map_right_iff]
        exact h.1.imp fun _ _ hsame => hsame.nullable
      exact congrArg some hmaps
    | error e c₂ =>
      rw [hm, hm'] at h
      exact h.elim
  | error e c₁ =>
    cases hm' : m' c with
    | ok columns' c₂ =>
      rw [hm, hm'] at h
      exact h.elim
    | error e' c₂ => rfl

/-- One parser reports a column that must not be NULL, the other one does not. -/
theorem not_agree_nullable : ¬ ∀ (ttcFieldVersion : UInt8) (c : ReadBuffer),
    AgreeOn (List.Forall₂ SameColumn) (parseDescribeInfo ttcFieldVersion)
      (describeInfo ttcFieldVersion) c := by
  intro h
  have heq := nullable_eq (h 24 ⟨letterMessage 0, 0⟩)
  revert heq
  decide +kernel

end Describe

end OracleRs
