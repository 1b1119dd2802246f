import OracleRs.Constants

set_option relaxedAutoImplicit false
set_option autoImplicit false

/-!
# Capabilities

The capabilities that client and server negotiate (`capabilities.rs`). They start with what the
client offers, and are adjusted to the ACCEPT packet of the server and to its compile-time and runtime
capabilities. Three facts are held twice: the field version and the support of end-of-response
markers, which are also in the compile-time capabilities that are sent to the server, and the support
of pipelining, which is turned on together with that of end-of-response markers.

## Main definitions

* `OracleRs.Capabilities.new` — what the client offers.
* `OracleRs.Capabilities.adjustForProtocol`, `OracleRs.Capabilities.adjustForServerCompileCaps`,
  `OracleRs.Capabilities.adjustForServerRuntimeCaps` — the adjustments.
* `OracleRs.Capabilities.Coherent` — the facts that are held twice agree.
* `OracleRs.Adjustment.Keeps` — an adjustment does not turn off end-of-response markers while
  pipelining is on.

## Main results

* `OracleRs.Capabilities.Aligned.adjust` — the compile-time capabilities agree with the fields in any
  sequence of adjustments.
* `OracleRs.Capabilities.coherent_iff` — the capabilities are coherent throughout a sequence of
  adjustments if and only if each of these keeps them so.
-/

namespace OracleRs

/-! ## Flags of an ACCEPT packet -/

/-- `service_options::CAN_RECV_ATTENTION`. -/
def canRecvAttention : UInt16 := 0x0400

/-- `accept_flags::FAST_AUTH`. -/
def acceptFastAuth : UInt32 := 0x10000000

/-- `accept_flags::HAS_END_OF_RESPONSE`. -/
def acceptHasEndOfResponse : UInt32 := 0x02000000

/-- `version::MIN_END_OF_RESPONSE`. -/
def minEndOfResponse : UInt16 := 319

namespace Capabilities

/-! ## The capabilities of the client -/

/-- `init_compile_caps`. -/
def initCompileCaps (caps : Capabilities) : Capabilities :=
  { caps with
    compileCaps := caps.compileCaps
      |>.set CcapIndex.sqlVersion CcapValue.sqlVersionMax
      |>.set CcapIndex.logonTypes
        (CcapValue.o5Logon ||| CcapValue.o5LogonNp ||| CcapValue.o7Logon |||
          CcapValue.o8LogonLongIdentifier ||| CcapValue.o9LogonLongPassword)
      |>.set CcapIndex.featureBackport
        (CcapValue.ctbImplicitPool ||| CcapValue.ctbOauthMsgOnErr)
      |>.set CcapIndex.fieldVersion caps.ttcFieldVersion
      |>.set CcapIndex.serverDefineConv 1
      |>.set CcapIndex.dequeueWithSelector 1
      |>.set CcapIndex.ttc1
        (CcapValue.fastBvec ||| CcapValue.endOfCallStatus ||| CcapValue.indRcd)
      |>.set CcapIndex.oci1 (CcapValue.fastSessionPropagate ||| CcapValue.appCtxPiggyback)
      |>.set CcapIndex.tdsVersion CcapValue.tdsVersionMax
      |>.set CcapIndex.rpcVersion CcapValue.rpcVersionMax
      |>.set CcapIndex.rpcSig CcapValue.rpcSigValue
      |>.set CcapIndex.dbfVersion CcapValue.dbfVersionMax
      |>.set CcapIndex.lob
        (CcapValue.lobUb8Size ||| CcapValue.lobEncs ||| CcapValue.lobPrefetchLength |||
          CcapValue.lobTempSize ||| CcapValue.lob12c ||| CcapValue.lobPrefetchData)
      |>.set CcapIndex.ub2Dty 1
      |>.set CcapIndex.lob2 (CcapValue.lob2Quasi ||| CcapValue.lob2TwoGbPrefetch)
      |>.set CcapIndex.ttc3
        (CcapValue.implicitResults ||| CcapValue.bigChunkClr ||| CcapValue.keepOutOrder |||
          CcapValue.ltxid)
      |>.set CcapIndex.ttc2 CcapValue.zlnp
      |>.set CcapIndex.oci2 CcapValue.drcp
      |>.set CcapIndex.oci3 CcapValue.oci3Ocssync
      |>.set CcapIndex.clientFn CcapValue.clientFnMax
      |>.set CcapIndex.sessSignatureVersion fieldVersion12_2
      |>.set CcapIndex.ttc4 CcapValue.inbandNotification
      |>.set CcapIndex.ttc5
        (CcapValue.vectorSupport ||| CcapValue.tokenSupported ||| CcapValue.pipeliningSupport |||
          CcapValue.pipeliningBreak ||| CcapValue.sessionlessTxns)
      |>.set CcapIndex.vectorFeatures
        (CcapValue.vectorFeatureBinary ||| CcapValue.vectorFeatureSparse)
      |>.set CcapIndex.featureBackport2 CcapValue.endUserSecCtxPiggyback }

/-- `init_runtime_caps`. -/
def initRuntimeCaps (caps : Capabilities) : Capabilities :=
  { caps with
    runtimeCaps := caps.runtimeCaps
      |>.set RcapIndex.compat RcapValue.compat81
      |>.set RcapIndex.ttc (RcapValue.ttcZeroCopy ||| RcapValue.ttc32k) }

/-- `Capabilities::new`. -/
def new : Capabilities := initRuntimeCaps (initCompileCaps {})

/-! ## Adjustments -/

/-- Set bits of a compile-time capability. -/
def setCompileCap (caps : Capabilities) (index : ℕ) (value : UInt8) : Capabilities :=
  { caps with compileCaps := caps.compileCaps.set index value }

/-- End-of-response markers and pipelining are turned on. -/
def enableEndOfResponse (caps : Capabilities) : Capabilities :=
  { caps.setCompileCap CcapIndex.ttc4
      (caps.compileCaps.getD CcapIndex.ttc4 0 ||| CcapValue.endOfRequest) with
    supportsEndOfResponse := true
    supportsPipelining := true }

/-- End-of-response markers are turned off. -/
def disableEndOfResponse (caps : Capabilities) : Capabilities :=
  { caps.setCompileCap CcapIndex.ttc4
      (caps.compileCaps.getD CcapIndex.ttc4 0 &&& ~~~CcapValue.endOfRequest) with
    supportsEndOfResponse := false }

/-- `adjust_for_protocol`. -/
def adjustForProtocol (caps : Capabilities) (protocolVersion protocolOptions : UInt16)
    (flags2 : UInt32) : Capabilities :=
  let caps := { caps with
    protocolVersion := protocolVersion
    protocolOptions := protocolOptions
    supportsOob := protocolOptions &&& canRecvAttention ≠ 0 }
  let caps :=
    if flags2 &&& acceptFastAuth ≠ 0 then { caps with supportsFastAuth := true } else caps
  if protocolVersion ≥ minEndOfResponse ∧ flags2 &&& acceptHasEndOfResponse ≠ 0 then
    caps.enableEndOfResponse
  else caps

/-- The field version is lowered to that of the server. -/
def lowerFieldVersion (caps : Capabilities) (serverCaps : Bytes) : Capabilities :=
  match serverCaps[CcapIndex.fieldVersion]? with
  | some serverVersion =>
    if serverVersion < caps.ttcFieldVersion then
      { caps.setCompileCap CcapIndex.fieldVersion serverVersion with
        ttcFieldVersion := serverVersion }
    else caps
  | none => caps

/-- Explicit request boundaries are turned on if the server has them. -/
def checkRequestBoundaries (caps : Capabilities) (serverCaps : Bytes) : Capabilities :=
  match serverCaps[CcapIndex.ttc4]? with
  | some ttc4 =>
    if ttc4 &&& CcapValue.explicitBoundary ≠ 0 then
      { caps with supportsRequestBoundaries := true }
    else caps
  | none => caps

/-- `adjust_for_server_compile_caps`. -/
def adjustForServerCompileCaps (caps : Capabilities) (serverCaps : Bytes) : Capabilities :=
  let caps := (caps.lowerFieldVersion serverCaps).checkRequestBoundaries serverCaps
  if caps.ttcFieldVersion < fieldVersion23_4 ∧ caps.supportsEndOfResponse then
    caps.disableEndOfResponse
  else caps

/-- `adjust_for_server_runtime_caps`. -/
def adjustForServerRuntimeCaps (caps : Capabilities) (serverCaps : Bytes) : Capabilities :=
  match serverCaps[RcapIndex.ttc]? with
  | some ttc =>
    let caps :=
      if ttc &&& RcapValue.ttc32k ≠ 0 then { caps with maxStringSize := 32767 }
      else { caps with maxStringSize := 4000 }
    if ttc &&& RcapValue.ttcSessionStateOps = 0 then
      { caps with supportsRequestBoundaries := false }
    else caps
  | none => caps

end Capabilities

/-- A call of one of the adjustments. -/
inductive Adjustment where
  | protocol (protocolVersion protocolOptions : UInt16) (flags2 : UInt32)
  | serverCompileCaps (serverCaps : Bytes)
  | serverRuntimeCaps (serverCaps : Bytes)
deriving DecidableEq, Repr

namespace Capabilities

/-- The capabilities after a call. -/
def adjust (caps : Capabilities) : Adjustment → Capabilities
  | .protocol protocolVersion protocolOptions flags2 =>
    caps.adjustForProtocol protocolVersion protocolOptions flags2
  | .serverCompileCaps serverCaps => caps.adjustForServerCompileCaps serverCaps
  | .serverRuntimeCaps serverCaps => caps.adjustForServerRuntimeCaps serverCaps

/-! ## Coherence -/

/-- The compile-time capabilities agree with the fields. -/
structure Aligned (caps : Capabilities) : Prop where
  length_compileCaps : caps.compileCaps.length = CcapIndex.max
  fieldVersion : caps.compileCaps[CcapIndex.fieldVersion]? = some caps.ttcFieldVersion
  endOfResponse : caps.supportsEndOfResponse = true ↔
    caps.compileCaps.getD CcapIndex.ttc4 0 &&& CcapValue.endOfRequest ≠ 0

/-- The facts that are held twice agree. -/
structure Coherent (caps : Capabilities) : Prop where
  /-- the field version is that of the compile-time capabilities -/
  fieldVersion : caps.compileCaps[CcapIndex.fieldVersion]? = some caps.ttcFieldVersion
  /-- so is the support of end-of-response markers -/
  endOfResponse : caps.supportsEndOfResponse = true ↔
    caps.compileCaps.getD CcapIndex.ttc4 0 &&& CcapValue.endOfRequest ≠ 0
  /-- pipelining needs end-of-response markers -/
  pipelining : caps.supportsPipelining = true → caps.supportsEndOfResponse = true

end Capabilities

/-- The call does not turn off end-of-response markers while pipelining is on: neither the field
version of the client nor that of the server is too old for them. -/
def Adjustment.Keeps (caps : Capabilities) : Adjustment → Prop
  | serverCompileCaps serverCaps => caps.supportsPipelining = true →
    fieldVersion23_4 ≤ caps.ttcFieldVersion ∧
      ∀ v ∈ serverCaps[CcapIndex.fieldVersion]?, fieldVersion23_4 ≤ v
  | _ => True

namespace Capabilities

variable {caps : Capabilities}

lemma Aligned.isCoherent_iff (h : caps.Aligned) :
    caps.Coherent ↔ (caps.supportsPipelining = true → caps.supportsEndOfResponse = true) :=
  ⟨Coherent.pipelining, fun hp => ⟨h.fieldVersion, h.endOfResponse, hp⟩⟩

lemma aligned_new : new.Aligned where
  length_compileCaps := rfl
  fieldVersion := rfl
  endOfResponse := by decide

/-- A compile-time capability is read back. -/
lemma getD_setCompileCap (hlen : caps.compileCaps.length = CcapIndex.max) {index : ℕ}
    (hi : index < CcapIndex.max) (value : UInt8) :
    (caps.setCompileCap index value).compileCaps.getD index 0 = value := by
  show (caps.compileCaps.set index value).getD index 0 = value
  rw [List.getD_eq_getElem?_getD, List.getElem?_set_self (by omega), Option.getD_some]

/-- The other ones stay as they are. -/
lemma getElem?_setCompileCap_of_ne {index other : ℕ} (h : index ≠ other) (value : UInt8) :
    (caps.setCompileCap index value).compileCaps[other]? = caps.compileCaps[other]? :=
  List.getElem?_set_ne h

lemma length_setCompileCap (index : ℕ) (value : UInt8) :
    (caps.setCompileCap index value).compileCaps.length = caps.compileCaps.length :=
  List.length_set

/-- Turning end-of-response markers on or off, in the field and in the compile-time capability. -/
lemma Aligned.setEndOfResponse (h : caps.Aligned) {value : UInt8} {supported pipelining : Bool}
    (hvalue : supported = true ↔ value &&& CcapValue.endOfRequest ≠ 0) :
    Aligned { caps.setCompileCap CcapIndex.ttc4 value with
      supportsEndOfResponse := supported, supportsPipelining := pipelining } where
  length_compileCaps := (length_setCompileCap _ _).trans h.length_compileCaps
  fieldVersion := (getElem?_setCompileCap_of_ne (by decide) value).trans h.fieldVersion
  endOfResponse := by
    show supported = true ↔
      (caps.setCompileCap CcapIndex.ttc4 value).compileCaps.getD CcapIndex.ttc4 0 &&& _ ≠ 0
    rw [getD_setCompileCap h.length_compileCaps (by decide)]
    exact hvalue

/-- Fields that are held once do not matter. -/
lemma Aligned.congr {caps' : Capabilities} (h : caps.Aligned)
    (hcompile : caps'.compileCaps = caps.compileCaps)
    (hversion : caps'.ttcFieldVersion = caps.ttcFieldVersion)
    (hend : caps'.supportsEndOfResponse = caps.supportsEndOfResponse) : caps'.Aligned where
  length_compileCaps := by rw [hcompile, h.length_compileCaps]
  fieldVersion := by rw [hcompile, hversion, h.fieldVersion]
  endOfResponse := by rw [hcompile, hend, h.endOfResponse]

/-- The bit of end-of-response markers is set where they are turned on. -/
lemma or_endOfRequest_ne_zero (b : UInt8) :
    (b ||| CcapValue.endOfRequest) &&& CcapValue.endOfRequest ≠ 0 := by
  intro h
  have hbit := congrArg (fun v : UInt8 => v.toBitVec.getLsbD 5) h
  simp [CcapValue.endOfRequest] at hbit

/-- It is cleared where they are turned off. -/
lemma and_not_endOfRequest (b : UInt8) :
    (b &&& ~~~CcapValue.endOfRequest) &&& CcapValue.endOfRequest = 0 := by
  rw [UInt8.and_assoc, UInt8.not_and_self, UInt8.and_zero]

lemma Aligned.enableEndOfResponse (h : caps.Aligned) : caps.enableEndOfResponse.Aligned :=
  h.setEndOfResponse (by simpa using or_endOfRequest_ne_zero _)

lemma Aligned.disableEndOfResponse (h : caps.Aligned) : caps.disableEndOfResponse.Aligned :=
  h.setEndOfResponse (by simpa using and_not_endOfRequest _)

lemma Aligned.adjustForProtocol (h : caps.Aligned) (protocolVersion protocolOptions : UInt16)
    (flags2 : UInt32) :
    (caps.adjustForProtocol protocolVersion protocolOptions flags2).Aligned := by
  unfold Capabilities.adjustForProtocol
  dsimp only
  split_ifs with hend hfast hfast
  · apply Aligned.enableEndOfResponse
    exact h.congr rfl rfl rfl
  · apply Aligned.enableEndOfResponse
    exact h.congr rfl rfl rfl
  · exact h.congr rfl rfl rfl
  · exact h.congr rfl rfl rfl

/-- A field version that is lowered is lowered in the compile-time capabilities. -/
lemma Aligned.lowerFieldVersion (h : caps.Aligned) (serverCaps : Bytes) :
    (caps.lowerFieldVersion serverCaps).Aligned := by
  rw [Capabilities.lowerFieldVersion]
  cases serverCaps[CcapIndex.fieldVersion]? with
  | none => exact h
  | some serverVersion =>
    dsimp only
    split_ifs with hlt
    · refine ⟨(length_setCompileCap _ _).trans h.length_compileCaps, ?_, ?_⟩
      · have hlen : CcapIndex.fieldVersion < caps.compileCaps.length := by
          rw [h.length_compileCaps]
          decide
        exact List.getElem?_set_self hlen
      · show caps.supportsEndOfResponse = true ↔
          (caps.setCompileCap CcapIndex.fieldVersion serverVersion).compileCaps.getD
            CcapIndex.ttc4 0 &&& _ ≠ 0
        rw [h.endOfResponse, List.getD_eq_getElem?_getD, List.getD_eq_getElem?_getD,
          getElem?_setCompileCap_of_ne (by decide)]
    · exact h

lemma Aligned.checkRequestBoundaries (h : caps.Aligned) (serverCaps : Bytes) :
    (caps.checkRequestBoundaries serverCaps).Aligned := by
  rw [Capabilities.checkRequestBoundaries]
  cases serverCaps[CcapIndex.ttc4]? with
  | none => exact h
  | some ttc4 =>
    dsimp only
    split_ifs with hbit
    · exact h.congr rfl rfl rfl
    · exact h

lemma Aligned.adjustForServerCompileCaps (h : caps.Aligned) (serverCaps : Bytes) :
    (caps.adjustForServerCompileCaps serverCaps).Aligned := by
  have hcheck := (h.lowerFieldVersion serverCaps).checkRequestBoundaries serverCaps
  unfold Capabilities.adjustForServerCompileCaps
  dsimp only
  split_ifs with hold
  · exact hcheck.disableEndOfResponse
  · exact hcheck

lemma Aligned.adjustForServerRuntimeCaps (h : caps.Aligned) (serverCaps : Bytes) :
    (caps.adjustForServerRuntimeCaps serverCaps).Aligned := by
  rw [Capabilities.adjustForServerRuntimeCaps]
  cases serverCaps[RcapIndex.ttc]? with
  | none => exact h
  | some ttc =>
    dsimp only
    split_ifs with hlong hstate hstate <;> exact h.congr rfl rfl rfl

/-- The compile-time capabilities agree with the fields after every adjustment. -/
theorem Aligned.adjust (h : caps.Aligned) (a : Adjustment) : (caps.adjust a).Aligned := by
  cases a with
  | protocol protocolVersion protocolOptions flags2 => exact h.adjustForProtocol _ _ _
  | serverCompileCaps serverCaps => exact h.adjustForServerCompileCaps serverCaps
  | serverRuntimeCaps serverCaps => exact h.adjustForServerRuntimeCaps serverCaps

lemma aligned_foldl (h : caps.Aligned) (adjustments : List Adjustment) :
    (adjustments.foldl Capabilities.adjust caps).Aligned := by
  induction adjustments generalizing caps with
  | nil => exact h
  | cons a adjustments ih => exact ih (h.adjust a)

/-! ## Pipelining -/

/-- Pipelining needs end-of-response markers. -/
def PipelinesWithMarkers (caps : Capabilities) : Prop :=
  caps.supportsPipelining = true → caps.supportsEndOfResponse = true

/-- The field version after it has been lowered to that of the server. -/
lemma le_ttcFieldVersion_lowerFieldVersion_iff (serverCaps : Bytes) {v : UInt8} :
    v ≤ (caps.lowerFieldVersion serverCaps).ttcFieldVersion ↔
      v ≤ caps.ttcFieldVersion ∧ ∀ w ∈ serverCaps[CcapIndex.fieldVersion]?, v ≤ w := by
  rw [lowerFieldVersion]
  cases serverCaps[CcapIndex.fieldVersion]? with
  | none => simp
  | some w =>
    dsimp only
    split_ifs with hlt
    · show v ≤ w ↔ _
      simp only [Option.mem_def, Option.some.injEq, forall_eq']
      exact ⟨fun h => ⟨UInt8.le_trans h (UInt8.le_of_lt hlt), h⟩, And.right⟩
    · simp only [Option.mem_def, Option.some.injEq, forall_eq']
      exact ⟨fun h => ⟨h, UInt8.le_trans h (UInt8.not_lt.mp hlt)⟩, And.left⟩

/-- The checks of the server's compile-time capabilities leave the two fields as they are. -/
lemma fields_checkRequestBoundaries (serverCaps : Bytes) :
    let checked := (caps.lowerFieldVersion serverCaps).checkRequestBoundaries serverCaps
    checked.supportsPipelining = caps.supportsPipelining ∧
      checked.supportsEndOfResponse = caps.supportsEndOfResponse ∧
      checked.ttcFieldVersion = (caps.lowerFieldVersion serverCaps).ttcFieldVersion := by
  have hlower : (caps.lowerFieldVersion serverCaps).supportsPipelining = caps.supportsPipelining ∧
      (caps.lowerFieldVersion serverCaps).supportsEndOfResponse = caps.supportsEndOfResponse := by
    rw [lowerFieldVersion]
    cases serverCaps[CcapIndex.fieldVersion]? with
    | none => exact ⟨rfl, rfl⟩
    | some v =>
      dsimp only
      split_ifs <;> exact ⟨rfl, rfl⟩
  rw [checkRequestBoundaries]
  cases serverCaps[CcapIndex.ttc4]? with
  | none => exact ⟨hlower.1, hlower.2, rfl⟩
  | some ttc4 =>
    dsimp only
    split_ifs <;> exact ⟨hlower.1, hlower.2, rfl⟩

/-- What a call keeps. -/
lemma pipelinesWithMarkers_adjust_iff (h : caps.PipelinesWithMarkers) (a : Adjustment) :
    (caps.adjust a).PipelinesWithMarkers ↔ a.Keeps caps := by
  cases a with
  | protocol protocolVersion protocolOptions flags2 =>
    refine iff_of_true ?_ trivial
    show (caps.adjustForProtocol protocolVersion protocolOptions flags2).PipelinesWithMarkers
    unfold adjustForProtocol
    dsimp only
    split_ifs
    · exact fun _ => rfl
    · exact fun _ => rfl
    · exact h
    · exact h
  | serverRuntimeCaps serverCaps =>
    refine iff_of_true ?_ trivial
    show (caps.adjustForServerRuntimeCaps serverCaps).PipelinesWithMarkers
    rw [adjustForServerRuntimeCaps]
    cases serverCaps[RcapIndex.ttc]? with
    | none => exact h
    | some ttc =>
      dsimp only
      split_ifs <;> exact h
  | serverCompileCaps serverCaps =>
    obtain ⟨hpipelining, hend, hversion⟩ := @fields_checkRequestBoundaries caps serverCaps
    show (caps.adjustForServerCompileCaps serverCaps).PipelinesWithMarkers ↔
      (caps.supportsPipelining = true → fieldVersion23_4 ≤ caps.ttcFieldVersion ∧
        ∀ v ∈ serverCaps[CcapIndex.fieldVersion]?, fieldVersion23_4 ≤ v)
    rw [← le_ttcFieldVersion_lowerFieldVersion_iff]
    unfold adjustForServerCompileCaps
    dsimp only
    rw [hversion, hend]
    split_ifs with hold
    · constructor
      · intro hp hon
        exact absurd (hp (hpipelining.trans hon)) Bool.false_ne_true
      · intro hp hon
        exact absurd (hp (hpipelining.symm.trans hon)) (UInt8.not_le.mpr hold.1)
    · constructor
      · intro _ hon
        exact UInt8.not_lt.mp fun hlt => hold ⟨hlt, h hon⟩
      · intro _ hon
        exact hend.trans (h (hpipelining.symm.trans hon))

/-- The capabilities are coherent throughout a sequence of adjustments if and only if no call turns
off end-of-response markers while pipelining is on. -/
theorem coherent_iff (adjustments : List Adjustment) :
    (∀ before, before <+: adjustments → (before.foldl adjust new).Coherent) ↔
      ∀ before a after, adjustments = before ++ a :: after → a.Keeps (before.foldl adjust new) := by
  have hcoherent : ∀ before : List Adjustment, (before.foldl adjust new).Coherent ↔
      (before.foldl adjust new).PipelinesWithMarkers := fun before =>
    (aligned_foldl aligned_new before).isCoherent_iff
  simp only [hcoherent]
  constructor
  · rintro hall before a after rfl
    rw [← pipelinesWithMarkers_adjust_iff (hall before (List.prefix_append _ _))]
    have hnext := hall (before ++ [a]) ⟨after, by simp⟩
    rwa [List.foldl_append] at hnext
  · intro hkeeps before
    induction before using List.reverseRecOn with
    | nil => exact fun _ hon => absurd hon Bool.false_ne_true
    | append_singleton before a ih =>
      rintro ⟨after, rfl⟩
      rw [List.foldl_append]
      refine (pipelinesWithMarkers_adjust_iff (ih ⟨a :: after, by simp⟩) a).mpr ?_
      exact hkeeps before a after (by simp)

/-- A server that accepts with end-of-response markers and then says that it is too old for them. -/
def oldServer : List Adjustment :=
  [.protocol 319 0 acceptHasEndOfResponse, .serverCompileCaps (List.replicate 8 16)]

/-- Pipelining stays on when end-of-response markers are turned off. -/
theorem not_coherent_oldServer : ¬ (oldServer.foldl adjust new).Coherent := by
  intro h
  have hpipelining : (oldServer.foldl adjust new).supportsPipelining = true := by decide
  have hend : (oldServer.foldl adjust new).supportsEndOfResponse = false := by decide
  rw [h.pipelining hpipelining] at hend
  cases hend

end Capabilities

end OracleRs
