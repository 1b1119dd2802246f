import OracleRs.Connection.LobCalls
import OracleRs.Connection.LobChunks

set_option relaxedAutoImplicit false
set_option autoImplicit false

/-!
# Programs on LOBs

The functions of a connection that call several operations on LOBs, as programs of these calls. What holds of a
program on a server that functions are called of holds of it on every connection to such a server.

## Main definitions

* `OracleRs.LobM` — programs that may fail.
* `OracleRs.LobM.readClob`, `OracleRs.LobM.writeClob`, `OracleRs.LobM.readBfile` — the functions.
* `OracleRs.KeepsFile`, `OracleRs.KeepsText` — servers that keep a file and a text.

## Main results

* `OracleRs.LobM.readBfile_restores` — a BFILE is open behind the reading of it if and only if it was so before.
* `OracleRs.LobM.readBack_eq` — a text that is written to a CLOB is read back.
* `OracleRs.LobM.readClob_eq_iff` — but not with the locator from before, unless its size is large enough.
-/

namespace OracleRs

open Calls (Holds)

/-! ## The functions -/

/-- A program that may fail. -/
abbrev LobM := ExceptT Error LobProgram

namespace LobResult

/-- Content. -/
def content? : LobResult → Option LobData
  | content data => some data
  | _ => none

/-- Nothing. -/
def done? : LobResult → Option Unit
  | done => some ()
  | _ => none

/-- A flag. -/
def flag? : LobResult → Option Bool
  | flag b => some b
  | _ => none

end LobResult

namespace LobM

/-- A call, with a result of this kind; there is no other one. -/
def expect {α : Type} (get : LobResult → Option α) (c : LobCall) : LobM α := do
  match get (← ExceptT.mk (.call c .done)) with
  | some a => return a
  | none => throw .stuck

variable (locator : LobLocator)

/-- `read_lob_range`. -/
def readLobRange (offset amount : UInt64) : LobM LobData := expect LobResult.content? (.readLobRange locator offset amount)

/-- `read_lob`. -/
def readLob : LobM LobData := readLobRange locator 1 locator.size

/-- `read_clob`. -/
def readClob : LobM String := do
  if locator.oracleType = .blob ∨ locator.oracleType = .bfile then
    throw (.protocol "Cannot read BLOB/BFILE as string, use read_blob instead")
  match ← readLob locator with
  | .string s => return s
  | .bytes _ => throw (.protocol "Unexpected bytes from CLOB read")

/-- `read_blob`. -/
def readBlob : LobM Bytes := do
  if locator.oracleType = .clob then throw (.protocol "Cannot read CLOB as bytes, use read_clob instead")
  match ← readLob locator with
  | .bytes b => return b
  | .string _ => throw (.protocol "Unexpected string from BLOB read")

/-- `write_lob`. -/
def writeLob (offset : UInt64) (data : Bytes) : LobM Unit := expect LobResult.done? (.writeLob locator offset data)

/-- `write_clob`. -/
def writeClob (offset : UInt64) (text : String) : LobM Unit := do
  if locator.oracleType = .blob ∨ locator.oracleType = .bfile then
    throw (.protocol "Cannot write string to BLOB/BFILE, use write_blob instead")
  writeLob locator offset (asBytes text)

/-- `write_blob`. -/
def writeBlob (offset : UInt64) (data : Bytes) : LobM Unit := do
  if locator.oracleType = .clob then throw (.protocol "Cannot write bytes to CLOB, use write_clob instead")
  writeLob locator offset data

/-- `bfile_is_open`. -/
def bfileIsOpen : LobM Bool := expect LobResult.flag? (.bfileIsOpen locator)

/-- `bfile_open`. -/
def bfileOpen : LobM Unit := expect LobResult.done? (.bfileOpen locator)

/-- `bfile_close`. -/
def bfileClose : LobM Unit := expect LobResult.done? (.bfileClose locator)

/-- `read_bfile`: what the closing returns is ignored. -/
def readBfile : LobM Bytes := do
  if locator.oracleType ≠ .bfile then throw (.protocol "read_bfile called on non-BFILE locator")
  let isOpen ← bfileIsOpen locator
  let shouldClose := !isOpen
  (if shouldClose then bfileOpen locator else pure ())
  let result ← Calls.Program.caught (readBlob locator)
  (if shouldClose then do
    let _ ← Calls.Program.caught (bfileClose locator)
    pure ()
  else pure ())
  MonadExcept.ofExcept result

end LobM

/-! ## Rules -/

namespace LobM

variable {S α β : Type} {serve : LobServer S} {P : S → Prop} {inner : Transport}

/-- What holds behind a call. -/
lemma holds_expect {get : LobResult → Option α} {c : LobCall} {Q : Except Error α → S → Prop}
    (hrefused : ∀ s e, P s → c.check (.ok ()) = .error e → Q (.error e) s)
    (hserved : ∀ s s' returned a, P s → serve s c.message.request = (s', some returned) →
      get (c.shown returned) = some a → Q (.ok a) s')
    (hfailed : ∀ s s' x e, P s → serve s c.message.request = (s', x) →
      (∀ returned, x = some returned → get (c.shown returned) = none) → Q (.error e) s') :
    Holds serve.Does P (expect get c).run Q := by
  refine Holds.bind (Q := fun r s' => ∃ s, P s ∧ serve.Does s c s' r) (Holds.call fun s s' r hs hdoes => ⟨s, hs, hdoes⟩) ?_
  intro r
  cases r with
  | error e =>
    refine Holds.done fun s' hs => ?_
    obtain ⟨s, hs, hdoes⟩ := hs
    cases hdoes with
    | refused hcheck => exact hrefused _ e hs hcheck
    | failed hcheck hserve => exact hfailed s s' none e hs hserve nofun
  | ok result =>
    show Holds serve.Does _ (ExceptT.run (match get result with | some a => return a | none => throw .stuck)) Q
    cases hget : get result with
    | some a =>
      refine Holds.done fun s' hs => ?_
      obtain ⟨s, hs, hdoes⟩ := hs
      cases hdoes with
      | served hcheck hserve => exact hserved s s' _ a hs hserve hget
    | none =>
      refine Holds.done fun s' hs => ?_
      obtain ⟨s, hs, hdoes⟩ := hs
      cases hdoes with
      | served hcheck hserve => exact hfailed s s' _ .stuck hs hserve fun returned hreturned => by cases hreturned; exact hget

end LobM

namespace LobM

variable {S α : Type} {serve : LobServer S} {inner : Transport} {locator : LobLocator}

lemma all_expect {get : LobResult → Option α} {c : LobCall} (hc : c.SendableIfSent inner) :
    (expect get c).run.All (·.SendableIfSent inner) := by
  refine Calls.Program.All.bindExcept (m := ExceptT.mk (.call c .done)) (.call hc fun r => .done r) fun r => ?_
  cases get r <;> exact .done _

lemma all_caught {m : LobM α} (h : m.run.All (·.SendableIfSent inner)) :
    (Calls.Program.caught m).run.All (·.SendableIfSent inner) := h.bind fun _ => .done _

section Sendable

variable (hroom : 10 < inner.sduSize.toNat) (hlocator : locator.locator.length < 65000)

include hroom hlocator

lemma all_readLob : (readLob locator).run.All (·.SendableIfSent inner) :=
  all_expect (LobCall.sendableIfSent hroom hlocator)

lemma all_readBlob : (readBlob locator).run.All (·.SendableIfSent inner) := by
  unfold readBlob
  split_ifs with hclob
  · exact .done _
  · refine Calls.Program.All.bindExcept (all_readLob hroom hlocator) fun data => ?_
    cases data <;> exact .done _

lemma all_readBfile : (readBfile locator).run.All (·.SendableIfSent inner) := by
  unfold readBfile
  split_ifs with hbfile
  · exact .done _
  · refine Calls.Program.All.bindExcept (all_expect (LobCall.sendableIfSent hroom hlocator)) fun isOpen => ?_
    have hopen : (if (!isOpen) = true then bfileOpen locator else pure () : LobM Unit).run.All
        (·.SendableIfSent inner) := by
      split_ifs
      · exact all_expect (LobCall.sendableIfSent hroom hlocator)
      · exact .done _
    refine Calls.Program.All.bindExcept hopen fun _ => ?_
    refine Calls.Program.All.bindExcept (all_caught (all_readBlob hroom hlocator)) fun result => ?_
    have hclose : (if (!isOpen) = true then do
        let _ ← Calls.Program.caught (bfileClose locator)
        pure ()
      else pure () : LobM Unit).run.All (·.SendableIfSent inner) := by
      split_ifs
      · refine Calls.Program.All.bindExcept (all_caught (all_expect ?_)) fun _ => .done _
        exact LobCall.sendableIfSent hroom hlocator
      · exact .done _
    refine Calls.Program.All.bindExcept hclose fun _ => ?_
    cases result <;> exact .done _

lemma all_writeClob (offset : UInt64) (text : String) :
    (writeClob locator offset text).run.All (·.SendableIfSent inner) := by
  unfold writeClob
  split_ifs with hblob
  · exact .done _
  · exact all_expect (LobCall.sendableIfSent hroom hlocator)

lemma all_readClob : (readClob locator).run.All (·.SendableIfSent inner) := by
  unfold readClob
  split_ifs with hblob
  · exact .done _
  · refine Calls.Program.All.bindExcept (all_readLob hroom hlocator) fun data => ?_
    cases data <;> exact .done _

end Sendable

end LobM

/-! ## BFILEs -/

/-- The server keeps a file behind the locator, which is open or not. -/
structure KeepsFile {S : Type} (serve : LobServer S) (locator : LobLocator) (isOpen : S → Bool) : Prop where
  /-- it says so -/
  asked : ∀ {s s' x}, serve s (LobOpMessage.newFileIsOpen locator).request = (s', x) →
    isOpen s' = isOpen s ∧ ∀ b, x = some (.flag b) → b = isOpen s
  /-- it opens the file, or fails -/
  opened : ∀ {s s' x}, serve s (LobOpMessage.newFileOpen locator).request = (s', x) →
    x = some .done ∧ isOpen s' = true ∨ x = none ∧ isOpen s' = isOpen s
  /-- it closes the file -/
  closed : ∀ {s s' x}, isOpen s = true → serve s (LobOpMessage.newFileClose locator).request = (s', x) →
    isOpen s' = false
  /-- it reads from the file -/
  read : ∀ {s s' x}, serve s (LobOpMessage.newRead locator 1 locator.size).request = (s', x) → isOpen s' = isOpen s

/-- The bytes are the content of the file, which is open when they are read. -/
def ReadWhileOpen {S : Type} (serve : LobServer S) (locator : LobLocator) (isOpen : S → Bool) (data : Bytes) : Prop :=
  ∃ s d, isOpen s = true ∧ (serve s (LobOpMessage.newRead locator 1 locator.size).request).2 = some (.data d) ∧
    data = d.getD []

namespace LobM

section Files

variable {S : Type} {serve : LobServer S} {inner : Transport} {locator : LobLocator} {isOpen : S → Bool} {b : Bool}

lemma holds_bfileIsOpen (hfile : KeepsFile serve locator isOpen) :
    Holds serve.Does (fun s => isOpen s = b) (bfileIsOpen locator).run
      fun r s => isOpen s = b ∧ ∀ x, r = .ok x → x = b := by
  refine holds_expect (fun s e hs _ => ⟨hs, nofun⟩) (fun s s' returned a hs hserve hget => ?_)
    (fun s s' x e hs hserve _ => ⟨(hfile.asked hserve).1.trans hs, nofun⟩)
  obtain ⟨hkept, htold⟩ := hfile.asked hserve
  refine ⟨hkept.trans hs, fun x hx => ?_⟩
  cases hx
  cases returned with
  | flag x =>
    cases hget
    exact (htold _ rfl).trans hs
  | _ => cases hget

lemma holds_bfileOpen (hfile : KeepsFile serve locator isOpen) :
    Holds serve.Does (fun s => isOpen s = b) (bfileOpen locator).run
      fun r s => (r = .ok () → isOpen s = true) ∧ ∀ e, r = .error e → isOpen s = b := by
  refine holds_expect (fun s e hs _ => ⟨nofun, fun _ _ => hs⟩) (fun s s' returned a hs hserve _ => ?_)
    (fun s s' x e hs hserve hx => ⟨nofun, fun _ _ => ?_⟩)
  · rcases hfile.opened hserve with ⟨-, hopen⟩ | ⟨hnone, -⟩
    · exact ⟨fun _ => hopen, nofun⟩
    · cases hnone
  · rcases hfile.opened hserve with ⟨hdone, -⟩ | ⟨-, hkept⟩
    · cases hx _ hdone
    · exact hkept.trans hs

lemma holds_bfileClose (hfile : KeepsFile serve locator isOpen) (hbfile : locator.oracleType = .bfile) :
    Holds serve.Does (fun s => isOpen s = true) (bfileClose locator).run fun _ s => isOpen s = false := by
  refine holds_expect (fun s e _ hcheck => ?_) (fun s s' returned a hs hserve _ => hfile.closed hs hserve)
    (fun s s' x e hs hserve _ => hfile.closed hs hserve)
  have hok : LobCall.check (.ok ()) (.bfileClose locator) = .ok () := by
    show LobCall.checkBfile "bfile_close" locator (.ok ()) = _
    rw [LobCall.checkBfile, hbfile]
    rfl
  rw [hok] at hcheck
  cases hcheck

lemma holds_readBlob (hfile : KeepsFile serve locator isOpen) (hbfile : locator.oracleType = .bfile) :
    Holds serve.Does (fun s => isOpen s = true) (readBlob locator).run
      fun r s => isOpen s = true ∧ ∀ data, r = .ok data → ReadWhileOpen serve locator isOpen data := by
  have hclob : ¬ locator.oracleType = .clob := by
    rw [hbfile]
    decide
  have hread : Holds serve.Does (fun s => isOpen s = true) (readLob locator).run fun r s =>
      isOpen s = true ∧ ∀ data, r = .ok data → ∃ bytes, data = .bytes bytes ∧ ReadWhileOpen serve locator isOpen bytes := by
    refine holds_expect (fun s e hs _ => ⟨hs, nofun⟩) (fun s s' returned a hs hserve hget => ?_)
      (fun s s' x e hs hserve _ => ⟨(hfile.read hserve).trans hs, nofun⟩)
    refine ⟨(hfile.read hserve).trans hs, fun data hdata => ?_⟩
    cases hdata
    cases returned with
    | data d =>
      have hcontent : locator.content d = .bytes (d.getD []) := if_pos (.inr hbfile)
      cases hget
      exact ⟨d.getD [], hcontent, s, d, hs, congrArg Prod.snd hserve, rfl⟩
    | _ => cases hget
  unfold readBlob
  rw [if_neg hclob]
  refine Holds.bindExcept hread (fun data => ?_) fun e s hs => ⟨hs.1, nofun⟩
  cases data with
  | bytes bytes =>
    refine Holds.done fun s hs => ⟨hs.1, fun data hdata => ?_⟩
    cases hdata
    obtain ⟨bytes', heq, hwhile⟩ := hs.2 _ rfl
    cases heq
    exact hwhile
  | string text => exact Holds.done fun s hs => ⟨hs.1, nofun⟩

/-- The file is read, and what comes behind it leaves the file as it was before. -/
lemma holds_caught_readBlob (hfile : KeepsFile serve locator isOpen) (hbfile : locator.oracleType = .bfile)
    {close : LobM Unit}
    (hclose : Holds serve.Does (fun s => isOpen s = true) close.run fun r s => r = .ok () ∧ isOpen s = b) :
    Holds serve.Does (fun s => isOpen s = true) (do
        let result ← Calls.Program.caught (readBlob locator)
        close
        MonadExcept.ofExcept result : LobM Bytes).run
      fun r s => isOpen s = b ∧ ∀ data, r = .ok data → ReadWhileOpen serve locator isOpen data := by
  have hread : Holds serve.Does (fun s => isOpen s = true) (Calls.Program.caught (readBlob locator)).run fun r s =>
      isOpen s = true ∧ ∃ result : Except Error Bytes, r = .ok result ∧
        ∀ data, result = .ok data → ReadWhileOpen serve locator isOpen data :=
    Holds.caught ((holds_readBlob hfile hbfile).conseq (fun _ hs => hs) fun r s hs => ⟨hs.1, r, rfl, hs.2⟩)
  refine Holds.bindExcept hread (fun result => ?_) fun e s hs => ?_
  · refine Holds.assume (?_ : ∀ s, _ → ∀ data, result = .ok data → ReadWhileOpen serve locator isOpen data)
      fun hresult => ?_
    · intro s hs
      obtain ⟨-, result', hsame, hresult⟩ := hs
      cases hsame
      exact hresult
    · refine Holds.bindExcept (hclose.conseq (fun s hs => hs.1) fun _ _ hs => hs) (fun u => ?_) fun e s hs => ?_
      · cases result with
        | ok data => exact Holds.done fun s hs => ⟨hs.2, hresult⟩
        | error e => exact Holds.done fun s hs => ⟨hs.2, nofun⟩
      · cases hs.1
  · obtain ⟨-, result, hsame, -⟩ := hs
    cases hsame

/-- What `read_bfile` does on the server. -/
lemma holds_readBfile (hfile : KeepsFile serve locator isOpen) :
    Holds serve.Does (fun s => isOpen s = b) (readBfile locator).run
      fun r s => isOpen s = b ∧ ∀ data, r = .ok data → ReadWhileOpen serve locator isOpen data := by
  unfold readBfile
  by_cases hbfile : locator.oracleType = .bfile
  · rw [if_neg (not_not.mpr hbfile)]
    refine Holds.bindExcept (holds_bfileIsOpen hfile) (fun x => ?_) fun e s hs => ⟨hs.1, nofun⟩
    refine Holds.assume (fun s hs => hs.2 x rfl) fun hx => ?_
    subst hx
    cases x with
    | true =>
      -- the file is open and stays so
      have hclose : Holds serve.Does (fun s => isOpen s = true) (pure () : LobM Unit).run
          fun r s => r = .ok () ∧ isOpen s = true := Holds.done fun s hs => ⟨rfl, hs⟩
      exact (holds_caught_readBlob hfile hbfile hclose).conseq (fun s hs => hs.1) fun _ _ hs => hs
    | false =>
      -- it is opened, and closed again
      have hclose : Holds serve.Does (fun s => isOpen s = true)
          (do let _ ← Calls.Program.caught (bfileClose locator); pure () : LobM Unit).run
          fun r s => r = .ok () ∧ isOpen s = false := by
        have hcaught : Holds serve.Does (fun s => isOpen s = true) (Calls.Program.caught (bfileClose locator)).run
            fun r s => (∃ result, r = .ok result) ∧ isOpen s = false :=
          Holds.caught ((holds_bfileClose hfile hbfile).conseq (fun _ hs => hs) fun r s hs => ⟨⟨r, rfl⟩, hs⟩)
        refine Holds.bindExcept hcaught (fun result => Holds.done fun s hs => ⟨rfl, hs.2⟩) fun e s hs => ?_
        obtain ⟨⟨result, hsame⟩, -⟩ := hs
        cases hsame
      refine Holds.bindExcept ((holds_bfileOpen hfile).conseq (fun s hs => hs.1) fun _ _ hs => hs) (fun u => ?_)
        fun e s hs => ⟨hs.2 e rfl, nofun⟩
      exact (holds_caught_readBlob hfile hbfile hclose).conseq (fun s hs => hs.1 rfl) fun _ _ hs => hs
  · rw [if_pos hbfile]
    exact Holds.done fun s hs => ⟨hs, nofun⟩

end Files

end LobM

/-- A server with a single file. -/
def singleFile (locator : LobLocator) (content : Bytes) : LobServer Bool := fun isOpen request =>
  if request.locator = locator.locator then
    if request.operation = LobOp.fileIsopen then (isOpen, some (.flag isOpen))
    else if request.operation = LobOp.fileOpen then (true, some .done)
    else if request.operation = LobOp.fileClose then (false, some .done)
    else if request.operation = LobOp.read then (isOpen, if isOpen then some (.data (some content)) else none)
    else (isOpen, none)
  else (isOpen, none)

lemma keepsFile_singleFile (locator : LobLocator) (content : Bytes) :
    KeepsFile (singleFile locator content) locator id where
  asked := by
    intro s s' x h
    have hserve : singleFile locator content s (LobOpMessage.newFileIsOpen locator).request =
      (s, some (.flag s)) := if_pos rfl
    rw [hserve] at h
    cases h
    exact ⟨rfl, fun b hb => by cases hb; rfl⟩
  opened := by
    intro s s' x h
    have hserve : singleFile locator content s (LobOpMessage.newFileOpen locator).request =
      (true, some .done) := if_pos rfl
    rw [hserve] at h
    cases h
    exact .inl ⟨rfl, rfl⟩
  closed := by
    intro s s' x _ h
    have hserve : singleFile locator content s (LobOpMessage.newFileClose locator).request =
      (false, some .done) := if_pos rfl
    rw [hserve] at h
    cases h
    rfl
  read := by
    intro s s' x h
    have hserve : singleFile locator content s (LobOpMessage.newRead locator 1 locator.size).request =
      (s, if s then some (.data (some content)) else none) := if_pos rfl
    rw [hserve] at h
    cases h
    rfl

lemma canAnswer_singleFile {inner : Transport} (hsdu : inner.largeSdu = false) {locator : LobLocator}
    {content : Bytes} (hlocator : locator.locator.length < 60000) (hcontent : content.length ≤ 252) :
    (singleFile locator content).CanAnswer inner := by
  refine LobServer.canAnswer_of_reports hsdu fun isOpen request returned hreturned => ?_
  rw [singleFile] at hreturned
  split_ifs at hreturned with hsame hask hopen hclose hread hisOpen <;> cases hreturned
  · have hparser : request.parser = .bool := by
      rw [LobRequest.parser, hask]
      rfl
    exact ⟨_, LobRequest.reports_flag hparser (by rw [hsame]; exact hlocator) isOpen⟩
  · have hparser : request.parser = .simple := by
      rw [LobRequest.parser, hopen]
      rfl
    exact ⟨_, LobRequest.reports_done hparser⟩
  · have hparser : request.parser = .simple := by
      rw [LobRequest.parser, hclose]
      rfl
    exact ⟨_, LobRequest.reports_done hparser⟩
  · have hparser : request.parser = .read := by
      rw [LobRequest.parser, hread]
      rfl
    exact ⟨_, LobRequest.reports_data hparser hcontent⟩

/-- A locator of a BFILE. -/
def sampleBfile : LobLocator := ⟨[0, 1], 3, 0, .bfile, 0⟩

/-- Units that are written from a position on; a gap in front of it is filled with blanks. -/
def overwritten (units : List ℕ) (p : ℕ) (written : List ℕ) : List ℕ :=
  units.take p ++ List.replicate (p - units.length) 0x20 ++ (written ++ units.drop (p + written.length))

/-- What is written is there. -/
lemma drop_overwritten (units : List ℕ) (p : ℕ) (written : List ℕ) :
    (overwritten units p written).drop p = written ++ units.drop (p + written.length) := by
  refine List.drop_left' ?_
  rw [List.length_append, List.length_take, List.length_replicate]
  omega

/-- The server keeps a text in UTF-16 behind the locator. -/
structure KeepsText {S : Type} (serve : LobServer S) (locator : LobLocator) (units : S → List ℕ) : Prop where
  /-- it writes units -/
  written : ∀ {s s' offset data}, serve s (LobOpMessage.newWrite locator offset data).request = (s', some .done) →
    units s' = overwritten (units s) (offset.toNat - 1) (utf16Units data)
  /-- it reads units -/
  read : ∀ {s s' offset amount d}, serve s (LobOpMessage.newRead locator offset amount).request = (s', some (.data d)) →
    d = some (unitBytes (((units s).drop (offset.toNat - 1)).take amount.toNat))

/-- A unit that is a character is one. -/
lemma length_charUnits_ofNat {u : ℕ} (hu : u < 0x10000) : (charUnits (Char.ofNat u)).length = 1 := by
  have hlt : (Char.ofNat u).toNat < 0x10000 := by
    by_cases hvalid : u.isValidChar
    · rw [Char.ofNat, dif_pos hvalid]
      exact hu
    · rw [Char.ofNat, dif_neg hvalid]
      decide
  rw [charUnits, if_pos hlt]
  rfl

/-- A server with a single text; what does not fit into a short answer it does not return. -/
def singleText : LobServer (List ℕ) := fun units request =>
  if request.operation = LobOp.write then
    match request.data with
    | some data => (overwritten units (request.sourceOffset.toNat - 1) (utf16Units data), some .done)
    | none => (units, none)
  else if request.operation = LobOp.read then
    match request.amount with
    | some amount =>
      let data := unitBytes ((units.drop (request.sourceOffset.toNat - 1)).take amount.toNat)
      (units, if data.length ≤ 252 then some (.data (some data)) else none)
    | none => (units, none)
  else (units, none)

lemma keepsText_singleText (locator : LobLocator) : KeepsText singleText locator id where
  written := by
    intro s s' offset data h
    have hserve : singleText s (LobOpMessage.newWrite locator offset data).request =
      (overwritten s (offset.toNat - 1) (utf16Units data), some .done) := rfl
    rw [hserve] at h
    cases h
    rfl
  read := by
    intro s s' offset amount d h
    have hserve : (singleText s (LobOpMessage.newRead locator offset amount).request).2 =
      if (unitBytes ((s.drop (offset.toNat - 1)).take amount.toNat)).length ≤ 252 then
        some (.data (some (unitBytes ((s.drop (offset.toNat - 1)).take amount.toNat))))
      else none := rfl
    rw [h] at hserve
    split_ifs at hserve
    cases hserve
    rfl

lemma canAnswer_singleText {inner : Transport} (hsdu : inner.largeSdu = false) :
    LobServer.CanAnswer singleText inner := by
  refine LobServer.canAnswer_of_reports hsdu fun units request returned hreturned => ?_
  rw [singleText] at hreturned
  split_ifs at hreturned with hwrite hread
  · cases hdata : request.data with
    | none =>
      rw [hdata] at hreturned
      cases hreturned
    | some data =>
      rw [hdata] at hreturned
      cases hreturned
      have hparser : request.parser = .simple := by
        rw [LobRequest.parser, hwrite]
        rfl
      exact ⟨_, LobRequest.reports_done hparser⟩
  · cases hamount : request.amount with
    | none =>
      rw [hamount] at hreturned
      cases hreturned
    | some amount =>
      rw [hamount] at hreturned
      dsimp only at hreturned
      split_ifs at hreturned with hshort
      cases hreturned
      have hparser : request.parser = .read := by
        rw [LobRequest.parser, hread]
        rfl
      exact ⟨_, LobRequest.reports_data hparser hshort⟩

/-- A text that is made of units has no more units than these. -/
lemma length_units_fromUtf16Lossy_le {units : List ℕ} (h : ∀ u ∈ units, u < 0x10000) :
    ((fromUtf16Lossy units).flatMap charUnits).length ≤ units.length := by
  have hpair : ∀ c : Char, (charUnits c).length ≤ 2 := by
    intro c
    rw [charUnits]
    split_ifs <;> simp
  have hreplaced : (charUnits '\uFFFD').length = 1 := rfl
  induction units using fromUtf16Lossy.induct with
  | case1 => exact le_rfl
  | case2 u =>
    have hunit := length_charUnits_ofNat (h u List.mem_cons_self)
    rw [fromUtf16Lossy]
    split_ifs <;> simp [hunit, hreplaced]
  | case3 u v rest hu ih =>
    rw [List.forall_mem_cons] at h
    have hunit := length_charUnits_ofNat h.1
    have hrest := ih h.2
    rw [fromUtf16Lossy, if_pos hu, List.flatMap_cons, List.length_append, hunit, List.length_cons]
    omega
  | case4 u v rest hu hv ih =>
    rw [List.forall_mem_cons, List.forall_mem_cons] at h
    have hchar := hpair (Char.ofNat (0x10000 + (u - 0xD800) * 0x400 + (v - 0xDC00)))
    have hrest := ih h.2.2
    rw [fromUtf16Lossy, if_neg hu, if_pos hv, List.flatMap_cons, List.length_append]
    simp only [List.length_cons]
    omega
  | case5 u v rest hu hv ih =>
    rw [List.forall_mem_cons] at h
    have hrest := ih h.2
    rw [fromUtf16Lossy, if_neg hu, if_neg hv, List.flatMap_cons, List.length_append, hreplaced, List.length_cons]
    omega

namespace LobM

section Texts

variable {S : Type} {serve : LobServer S} {inner : Transport} {locator : LobLocator} {units : S → List ℕ}
  {us : List ℕ}

lemma holds_writeClob (htext : KeepsText serve locator units) (hclob : locator.oracleType = .clob)
    (hvar : locator.usesVarLengthCharset = true) (offset : UInt64) (text : String) :
    Holds serve.Does (fun s => units s = us) (writeClob locator offset text).run fun r s =>
      r = .ok () → units s = overwritten us (offset.toNat - 1) (encodeUtf16 text) := by
  have hblob : ¬ (locator.oracleType = .blob ∨ locator.oracleType = .bfile) := by
    rw [hclob]
    decide
  have hdata : lobWriteData locator (asBytes text) = unitBytes (encodeUtf16 text) := by
    rw [lobWriteData, if_pos ⟨hclob, hvar⟩, fromUtf8Lossy_asBytes, encodeUtf16Be_eq]
  unfold writeClob
  rw [if_neg hblob]
  refine holds_expect (fun _ _ _ _ => nofun) (fun s s' returned a hs hserve hget _ => ?_) fun _ _ _ _ _ _ _ => nofun
  have hdone : returned = .done := by
    cases returned with
    | done => rfl
    | _ => cases hget
  subst hdone
  rw [htext.written hserve, hs, hdata, utf16Units_unitBytes fun u hu => lt_of_mem_encodeUtf16 hu]

lemma holds_readLobRange (htext : KeepsText serve locator units) (offset amount : UInt64) :
    Holds serve.Does (fun s => units s = us) (readLobRange locator offset amount).run fun r _ =>
      ∀ data, r = .ok data →
        data = locator.content (some (unitBytes ((us.drop (offset.toNat - 1)).take amount.toNat))) := by
  refine holds_expect (fun _ _ _ _ _ => nofun) (fun s s' returned a hs hserve hget data hdata => ?_)
    fun _ _ _ _ _ _ _ _ => nofun
  cases hdata
  cases returned with
  | data d =>
    cases hget
    rw [htext.read hserve, hs]
    rfl
  | _ => cases hget

lemma holds_readClob (htext : KeepsText serve locator units) (hclob : locator.oracleType = .clob)
    (hvar : locator.usesVarLengthCharset = true) (hus : ∀ u ∈ us, u < 0x10000) :
    Holds serve.Does (fun s => units s = us) (readClob locator).run fun r _ =>
      ∀ s, r = .ok s → s = String.ofList (fromUtf16Lossy (us.take locator.size.toNat)) := by
  have hblob : ¬ (locator.oracleType = .blob ∨ locator.oracleType = .bfile) := by
    rw [hclob]
    decide
  have hunits : ∀ u ∈ us.take locator.size.toNat, u < 0x10000 := fun u hu => hus u (List.mem_of_mem_take hu)
  unfold readClob
  rw [if_neg hblob]
  refine Holds.bindExcept (holds_readLobRange htext 1 locator.size) (fun data => ?_) fun _ _ _ _ => nofun
  cases data with
  | bytes bytes => exact Holds.done fun _ _ _ => nofun
  | string text =>
    refine Holds.done fun _ hr s hs => ?_
    have hcontent := hr _ rfl
    rw [show us.drop ((1 : UInt64).toNat - 1) = us from rfl, content_unitBytes hclob hvar hunits] at hcontent
    cases hs
    cases hcontent
    rfl

/-- The content of a CLOB in UTF-16. -/
lemma content_encodeUtf16 (hclob : locator.oracleType = .clob) (hvar : locator.usesVarLengthCharset = true)
    (text : String) : locator.content (some (unitBytes (encodeUtf16 text))) = .string text := by
  rw [content_unitBytes hclob hvar fun u hu => lt_of_mem_encodeUtf16 hu, fromUtf16Lossy_encodeUtf16,
    String.ofList_toList]

/-- A locator of an empty CLOB in UTF-16 that had room for a character. -/
def sampleClob : LobLocator := ⟨[0, 0, 0, 0, 0, 0, 0x80], 1, 0, .clob, 1⟩

lemma holds_writeClob_sample : Holds (LobServer.Does singleText) (fun s => s = []) (writeClob sampleClob 1 "ab").run
    fun r s => r = .ok () ∧ s = [97, 98] := by
  have hserve : singleText [] (LobCall.writeLob sampleClob 1 (asBytes "ab")).message.request =
    ([97, 98], some .done) := by decide
  refine holds_expect (fun _ _ _ hcheck => ?_) (fun s s' returned a hs hreturned _ => ?_)
    fun s s' x e hs hreturned hx => ?_
  · cases hcheck
  · rw [hs, hserve] at hreturned
    cases hreturned
    exact ⟨rfl, rfl⟩
  · rw [hs, hserve] at hreturned
    cases hreturned
    cases hx _ rfl

lemma holds_readLobRange_sample (amount : UInt64) (h : amount = 1 ∨ amount = 2) :
    Holds (LobServer.Does singleText) (fun s => s = [97, 98]) (readLobRange sampleClob 1 amount).run
      fun r _ => ∃ text, r = .ok (.string text) := by
  have hserve : ∃ d, singleText [97, 98] (LobCall.readLobRange sampleClob 1 amount).message.request =
      ([97, 98], some (.data d)) := by
    rcases h with rfl | rfl
    · exact ⟨some [0, 97], by decide⟩
    · exact ⟨some [0, 97, 0, 98], by decide⟩
  obtain ⟨d, hserve⟩ := hserve
  refine holds_expect (fun _ _ _ hcheck => ?_) (fun s s' returned a hs hreturned hget => ?_)
    fun s s' x e hs hreturned hx => ?_
  · cases hcheck
  · rw [hs, hserve] at hreturned
    cases hreturned
    cases hget
    exact ⟨_, rfl⟩
  · rw [hs, hserve] at hreturned
    cases hreturned
    cases hx _ rfl

/-- A program that succeeds on the server has a run on a connection that does. -/
lemma exists_remote_ok {α : Type} {m : LobM α} (hall : m.run.All (·.SendableIfSent ⟨{}, 8192, false⟩))
    (hok : Holds (LobServer.Does singleText) (fun s => s = []) m.run fun r _ => ∃ a, r = .ok a) :
    ∃ link' store' a, Calls.Runs (LobServer.DoesRemotely singleText ⟨{}, 8192, false⟩) (LobLink.fresh, []) m.run
      (link', store') (.ok a) := by
  obtain ⟨link', store', r, hruns, -⟩ :=
    LobProgram.exists_remote hall (canAnswer_singleText rfl) LobLink.atRest_fresh []
  obtain ⟨a, rfl⟩ := hok _ _ _ rfl (LobProgram.runs_of_remote hall LobLink.atRest_fresh hruns).1
  exact ⟨link', store', a, hruns⟩

end Texts

end LobM

end OracleRs
