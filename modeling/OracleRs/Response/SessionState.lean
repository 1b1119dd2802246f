import OracleRs.Lib.Recording
import OracleRs.Response.Parameters

set_option relaxedAutoImplicit false
set_option autoImplicit false

/-!
# What return parameters record

The parsers of `OracleRs.Response.Parameters` leave out that the keys and values of return parameters go
to the state of the session. Here they are given again with that state. A message whose layout turns out
not to be the standard one is read again from its beginning in another way; what has been recorded up to
there stays.

## Main definitions

* `OracleRs.KeyValues`, `OracleRs.SessionM` — the keys and values of the session, and parsers that record.
* `OracleRs.Session.parseStandardReturnParameters`, `OracleRs.Session.parseReturnParametersInternal` —
  the parsers.
* `OracleRs.returnPairs` — the keys and values that stand complete at the beginning of a message.

## Main results

* `OracleRs.Session.follows_parseReturnParametersInternal` — apart from the state of the session the
  parsers are those of `OracleRs.Response.Parameters`.
* `OracleRs.Session.keyValues_kept_iff` — when a rejected message leaves the session as it was.
-/

namespace OracleRs

open Cursor

/-! ## The state of the session -/

/-- The keys and values of the session (`SessionState::key_values`). -/
abbrev KeyValues := String → Option Bytes

/-- `HashMap::insert`. -/
def KeyValues.insert (kv : KeyValues) (key : String) (value : Bytes) : KeyValues :=
  Function.update kv key (some value)

/-- A parser that records in the state of the session. -/
abbrev SessionM := EStateM Error (ReadBuffer × KeyValues)

/-- The key and the value of a pair, if both are there. -/
def readReturnPair : ReadM (Option (String × Bytes)) := do
  let key ← indicated2 readStringWithLength
  let value ← indicated2 readRawBytesChunked
  return key.join.bind fun key => value.map fun value => (key, value)

namespace Session

/-- `record_session_key_value`. -/
def recordSessionKeyValue (key : String) (value : Bytes) : SessionM Unit :=
  Recording.record (·.insert key value)

/-- Record a pair that is complete. -/
def recordPair : Option (String × Bytes) → SessionM Unit
  | some (key, value) => recordSessionKeyValue key value
  | none => pure ()

/-- A key and a value of the return parameters. -/
def parseReturnPair : SessionM Unit := do
  let pair ← Recording.lift readReturnPair
  recordPair pair
  Recording.lift skipUb2 -- keyword number

/-- The loop over the pairs. -/
def parseReturnPairs : ℕ → SessionM Unit
  | 0 => pure ()
  | n + 1 => do
    parseReturnPair
    parseReturnPairs n

/-- `parse_standard_return_parameters`. -/
def parseStandardReturnParameters (wantRowCounts : Bool) : SessionM (Option (List UInt64)) := do
  let _params ← Recording.lift (counted2 skipUb4)
  Recording.lift skipCounted2 -- al8txl
  let numPairs ← Recording.lift readUb2
  parseReturnPairs numPairs.toNat
  Recording.lift skipCounted2 -- registration
  Recording.lift (readRowCounts wantRowCounts)

/-- `parse_return_parameters_internal`: the position in the buffer is set back, the session is not. -/
def parseReturnParametersInternal (wantRowCounts : Bool) : SessionM (Option (List UInt64)) :=
  fun s =>
    match parseStandardReturnParameters wantRowCounts s with
    | .ok rowCounts s' => .ok rowCounts s'
    | .error err s' =>
      Recording.lift (do if ← skipSessionStateReturnParameter then return none else throw err)
        (s.1, s'.2)

end Session

/-! ## What is recorded -/

/-- What a pair changes, if it is complete. -/
def recordedPair (kv : KeyValues) : Option (String × Bytes) → KeyValues
  | some (key, value) => kv.insert key value
  | none => kv

/-- The complete pairs among the next `n`, as far as they can be read. -/
def pairsFrom : ℕ → ReadBuffer → List (String × Bytes)
  | 0, _ => []
  | n + 1, buf =>
    match readReturnPair buf with
    | .error _ _ => []
    | .ok pair buf' =>
      match skipUb2 buf' with
      | .error _ _ => pair.toList
      | .ok _ buf'' => pair.toList ++ pairsFrom n buf''

/-- What stands in front of the pairs: their number is returned. -/
def readReturnFront : ReadM ℕ := do
  let _params ← counted2 skipUb4
  skipCounted2 -- al8txl
  return (← readUb2).toNat

/-- The keys and values that stand complete in a message of the standard layout, as far as it can be
read. -/
def returnPairs (buf : ReadBuffer) : List (String × Bytes) :=
  match readReturnFront buf with
  | .error _ _ => []
  | .ok n buf' => pairsFrom n buf'

/-- Record pairs one after another. -/
def recordAll (kv : KeyValues) (pairs : List (String × Bytes)) : KeyValues :=
  pairs.foldl (fun kv pair => kv.insert pair.1 pair.2) kv

/-! ## The recording parsers and those without a session -/

open Recording (Follows follows_lift)

namespace Session

lemma follows_recordPair (pair : Option (String × Bytes)) :
    Follows (recordPair pair) (pure ()) fun _ kv => recordedPair kv pair := by
  cases pair with
  | none => exact Recording.follows_pure ()
  | some pair =>
    obtain ⟨key, value⟩ := pair
    exact Recording.follows_record fun kv : KeyValues => kv.insert key value

/-- Without a session a pair is read and the keyword number skipped. -/
lemma skipReturnPair_eq : skipReturnPair = readReturnPair >>= fun _ => skipUb2 := by
  simp only [readReturnPair, skipReturnPair, bind_assoc, pure_bind]

/-- A pair is recorded if it is complete, also when the keyword number behind it is missing. -/
lemma follows_parseReturnPair :
    Follows parseReturnPair skipReturnPair (Recording.andThen readReturnPair (fun _ kv => kv)
      fun pair _ kv => recordedPair kv pair) := by
  have hpair := (follows_lift readReturnPair).bind fun pair =>
    (follows_recordPair pair).bind fun _ => follows_lift skipUb2
  simp only [Recording.andThen_nothing, pure_bind] at hpair
  rwa [← skipReturnPair_eq] at hpair

lemma times_succ (m : ReadM Unit) (n : ℕ) :
    (times m (n + 1) >>= fun _ => pure ()) = (m >>= fun _ => times m n >>= fun _ => (pure () : ReadM Unit)) := by
  simp only [times, List.replicate_succ, each, bind_assoc, pure_bind]

/-- **What the loop over the pairs records.**

**Proof sketch.** Induction on the number of pairs: the loop ends at the first pair that cannot be read. -/
lemma follows_parseReturnPairs (n : ℕ) :
    Follows (parseReturnPairs n) (times skipReturnPair n >>= fun _ => pure ()) fun buf kv =>
      recordAll kv (pairsFrom n buf) := by
  induction n with
  | zero => exact Recording.follows_pure ()
  | succ n ih =>
    have hloop := follows_parseReturnPair.bind fun _ => ih
    rw [← times_succ] at hloop
    intro buf kv
    rw [parseReturnPairs, hloop buf kv]
    congr 1
    cases hpair : readReturnPair buf with
    | error e buf' =>
      have hskip : skipReturnPair buf = .error e buf' := by rw [skipReturnPair_eq, bind_error hpair]
      simp only [Recording.andThen, hskip, hpair, pairsFrom]
      rfl
    | ok pair buf' =>
      have hrecorded : recordedPair kv pair = recordAll kv pair.toList := by cases pair <;> rfl
      cases hkeyword : skipUb2 buf' with
      | error e buf'' =>
        have hskip : skipReturnPair buf = .error e buf'' := by
          rw [skipReturnPair_eq, bind_ok hpair, hkeyword]
        simp only [Recording.andThen, hskip, hpair, pairsFrom, hkeyword, hrecorded]
      | ok _ buf'' =>
        have hskip : skipReturnPair buf = .ok () buf'' := by
          rw [skipReturnPair_eq, bind_ok hpair, hkeyword]
        simp only [Recording.andThen, hskip, hpair, pairsFrom, hkeyword, hrecorded]
        rw [recordAll, recordAll, recordAll, List.foldl_append]

/-- Without a session the parser is that of `OracleRs.Response.Parameters`; what it records are the pairs
that stand complete, whether or not it fails behind them. -/
lemma follows_parseStandardReturnParameters (wantRowCounts : Bool) :
    Follows (parseStandardReturnParameters wantRowCounts)
      (OracleRs.parseStandardReturnParameters wantRowCounts) fun buf kv =>
        recordAll kv (returnPairs buf) := by
  have hbody := (follows_lift readReturnFront).bind fun n => (follows_parseReturnPairs n).bind fun _ =>
    follows_lift (skipCounted2 >>= fun _ => readRowCounts wantRowCounts)
  have hparse : (Recording.lift readReturnFront >>= fun n => parseReturnPairs n >>= fun _ =>
      Recording.lift (skipCounted2 >>= fun _ => readRowCounts wantRowCounts)) =
        parseStandardReturnParameters wantRowCounts := by
    simp only [readReturnFront, parseStandardReturnParameters, Recording.lift_bind, bind_assoc]
    rfl
  have herase : (readReturnFront >>= fun n => (times skipReturnPair n >>= fun _ => pure ()) >>= fun _ =>
      skipCounted2 >>= fun _ => readRowCounts wantRowCounts) =
        OracleRs.parseStandardReturnParameters wantRowCounts := by
    simp only [readReturnFront, OracleRs.parseStandardReturnParameters, counted2, bind_assoc, pure_bind]
  rw [hparse, herase] at hbody
  simp only [Recording.andThen_nothing] at hbody
  intro buf kv
  rw [hbody buf kv]
  simp only [Recording.andThen, returnPairs]
  cases readReturnFront buf <;> rfl

/-- A failure of the standard layout is undone in the buffer only. -/
lemma follows_parseReturnParametersInternal (wantRowCounts : Bool) :
    Follows (parseReturnParametersInternal wantRowCounts)
      (OracleRs.parseReturnParametersInternal wantRowCounts) fun buf kv =>
        recordAll kv (returnPairs buf) := by
  intro buf kv
  have hstandard := follows_parseStandardReturnParameters wantRowCounts buf kv
  rw [parseReturnParametersInternal, OracleRs.parseReturnParametersInternal, hstandard]
  cases OracleRs.parseStandardReturnParameters wantRowCounts buf <;> rfl

end Session

/-! ## When a rejected message records nothing -/

/-- A key has the last of the values recorded for it. -/
lemma recordAll_apply (kv : KeyValues) (pairs : List (String × Bytes)) (key : String) :
    recordAll kv pairs key = (pairs.reverse.lookup key).or (kv key) := by
  induction pairs using List.reverseRecOn with
  | nil => rfl
  | append_singleton pairs pair ih =>
    obtain ⟨key', value⟩ := pair
    have hlast : recordAll kv (pairs ++ [(key', value)]) = (recordAll kv pairs).insert key' value := by
      rw [recordAll, List.foldl_append]
      rfl
    rw [hlast, List.reverse_append, KeyValues.insert, List.reverse_singleton, List.singleton_append,
      List.lookup_cons]
    by_cases h : key = key'
    · rw [h, Function.update_self, beq_self_eq_true]
      rfl
    · rw [Function.update_of_ne h, ih, beq_false_of_ne h]

/-- Recording pairs changes nothing if and only if the last value of each key is already there. -/
lemma recordAll_eq_iff (kv : KeyValues) (pairs : List (String × Bytes)) :
    recordAll kv pairs = kv ↔
      ∀ key value, pairs.reverse.lookup key = some value → kv key = some value := by
  constructor
  · intro hsame key value hlast
    have hkey := recordAll_apply kv pairs key
    rw [hsame, hlast] at hkey
    exact hkey
  · intro hlast
    funext key
    rw [recordAll_apply]
    cases hvalue : pairs.reverse.lookup key with
    | none => rfl
    | some value => exact (hlast key value hvalue).symm

namespace Session

/-- The standard layout is rejected. -/
def Rejected (wantRowCounts : Bool) (buf : ReadBuffer) (kv : KeyValues) : Prop :=
  ∃ e s, parseStandardReturnParameters wantRowCounts (buf, kv) = .error e s

/-- The keys and values of the session behind the parser. -/
def keyValuesAfter (wantRowCounts : Bool) (buf : ReadBuffer) (kv : KeyValues) : KeyValues :=
  (Recording.final (parseReturnParametersInternal wantRowCounts (buf, kv))).2

/-- What the parser leaves in the session, rejected or not. -/
lemma keyValuesAfter_eq (wantRowCounts : Bool) (buf : ReadBuffer) (kv : KeyValues) :
    keyValuesAfter wantRowCounts buf kv = recordAll kv (returnPairs buf) := by
  rw [keyValuesAfter, follows_parseReturnParametersInternal wantRowCounts buf kv,
    Recording.final_withRecord]

/-- **A rejected message leaves the session as it was if and only if for every key that stands complete in
front of the failure the session has the last value that is given there.** -/
theorem keyValues_kept_iff (wantRowCounts : Bool) (buf : ReadBuffer) (kv : KeyValues) :
    (Rejected wantRowCounts buf kv → keyValuesAfter wantRowCounts buf kv = kv) ↔
      (Rejected wantRowCounts buf kv →
        ∀ key value, (returnPairs buf).reverse.lookup key = some value → kv key = some value) := by
  rw [keyValuesAfter_eq, recordAll_eq_iff]

/-- A payload with a pair whose keyword number is not one, and what looks like an Error message and the
end of the response. -/
def halfRead : ReadBuffer := ⟨[0, 0, 1, 1, 1, 1, 1, 65, 1, 1, 1, 66, 127, 4, 0, 0, 29], 0⟩

/-- The pair of this payload is recorded, although its layout is rejected and the payload skipped. -/
theorem not_kept_halfRead :
    ¬(Rejected false halfRead (fun _ => none) →
      keyValuesAfter false halfRead (fun _ => none) = fun _ => none) := by
  intro hkept
  have hrejected : Rejected false halfRead fun _ => none := ⟨_, _, rfl⟩
  have hkey := congrFun (hkept hrejected) "A"
  cases hkey

end Session

end OracleRs
