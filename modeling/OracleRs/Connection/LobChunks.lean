import OracleRs.Response.LobResponse

set_option relaxedAutoImplicit false
set_option autoImplicit false

/-!
# Reading LOBs in chunks

`read_lob` asks for all of a LOB, `read_lob_chunked` for one chunk after the other. The offsets count
the 16-bit units of a CLOB in UTF-16, and each chunk is decoded on its own, so that a surrogate pair
across the border of two chunks is lost.

## Main definitions

* `OracleRs.readLob`, `OracleRs.readLobChunked` — the two ways.
* `OracleRs.Serves` — the server replies with the units that are asked for.
* `OracleRs.PairAt` — two neighbouring units are a surrogate pair.
* `OracleRs.lobRequests`, `OracleRs.Tiles` — what the chunked read asks for, and that this is everything.

## Main results

* `OracleRs.readLobChunked_eq_readLob_iff` — the chunks of a text are the whole of it if and only if
  no border of two chunks is in the middle of a pair.
* `OracleRs.lobRequests_tile_iff` — the requests are for all units if and only if an offset can be behind
  them.
-/

namespace OracleRs

open Cursor

/-! ## Reading -/

/-- `read_lob_internal`, with the payload of the server's reply to a request for an amount from an
offset on. -/
def readLobInternal (locator : LobLocator) (reply : UInt64 → UInt64 → Bytes)
    (offset amount : UInt64) : Except Error LobData :=
  parseLobReadResponse locator (reply offset amount)

/-- `read_lob`. -/
def readLob (locator : LobLocator) (reply : UInt64 → UInt64 → Bytes) : Except Error LobData :=
  readLobInternal locator reply 1 locator.size

/-- The loop of `read_lob_chunked`, in so many turns. -/
def readLobChunks (read : UInt64 → UInt64 → Except Error LobData) (totalSize chunkSize : UInt64) :
    ℕ → UInt64 → Except Error (List LobData)
  | 0, _ => .error .stuck
  | turns + 1, offset =>
    if offset ≤ totalSize then do
      let remaining := totalSize - offset + 1
      let amount := min remaining chunkSize
      let chunk ← read offset amount
      if offset.toNat + amount.toNat < 2 ^ 64 then
        return chunk :: (← readLobChunks read totalSize chunkSize turns (offset + amount))
      else throw .arithmeticOverflow
    else return []

/-- `read_lob_chunked`: the chunks that are delivered. A chunk size of zero stands for that of the LOB,
which is asked for. -/
def readLobChunked (locator : LobLocator) (reply : UInt64 → UInt64 → Bytes)
    (lobChunkSize : Except Error UInt32) (chunkSize : UInt64) : Except Error (List LobData) :=
  let totalSize := locator.size
  if totalSize = 0 then .ok []
  else do
    let chunkSize ← if chunkSize = 0 then (fun size => (max size 8192).toUInt64) <$> lobChunkSize
      else pure chunkSize
    readLobChunks (readLobInternal locator reply) totalSize chunkSize (totalSize.toNat + 1) 1

/-! ## Texts in UTF-16 -/

/-- The server replies with exactly the units that are asked for. -/
def Serves (locator : LobLocator) (units : List ℕ) (reply : UInt64 → UInt64 → Bytes) : Prop :=
  ∀ offset amount : UInt64, 1 ≤ offset.toNat → readLobInternal locator reply offset amount =
    .ok (locator.content
      (some (unitBytes ((units.drop (offset.toNat - 1)).take amount.toNat))))

/-- The units at a position and behind it are a surrogate pair. -/
def PairAt (units : List ℕ) (n : ℕ) : Prop :=
  ∃ u ∈ units[n]?, ∃ v ∈ units[n + 1]?, IsHigh u ∧ IsLow v

/-- The content of a CLOB in UTF-16. -/
lemma content_unitBytes {locator : LobLocator} (hclob : locator.oracleType = .clob)
    (hvar : locator.usesVarLengthCharset = true) {units : List ℕ} (h : ∀ u ∈ units, u < 0x10000) :
    locator.content (some (unitBytes units)) = .string (String.ofList (fromUtf16Lossy units)) := by
  have hbytes : ¬ (locator.oracleType = .blob ∨ locator.oracleType = .bfile) := by
    rw [hclob]
    decide
  rw [LobLocator.content, if_neg hbytes]
  simp only [hvar, if_true, utf16Units_unitBytes h]

/-- A cut splits a pair if and only if there is one at the border. -/
lemma splits_drop_iff (units : List ℕ) (p : ℕ) {m : ℕ} (hm : 1 ≤ m) :
    Splits ((units.drop p).take m) (units.drop (p + m)) ↔ PairAt units (p + m - 1) := by
  have hhead : (units.drop (p + m)).head? = units[p + m - 1 + 1]? := by
    rw [List.head?_drop]
    congr 1
    omega
  rw [Splits, PairAt, hhead]
  by_cases hle : p + m ≤ units.length
  · have hlast : ((units.drop p).take m).getLast? = units[p + m - 1]? := by
      rw [List.getLast?_eq_getElem?, List.length_take, List.length_drop,
        List.getElem?_take_of_lt (by omega), List.getElem?_drop]
      congr 1
      omega
    rw [hlast]
  · have hnone : units[p + m - 1 + 1]? = none := List.getElem?_eq_none (by omega)
    rw [hnone]
    refine iff_of_false ?_ ?_
    · rintro ⟨-, -, v, hv, -⟩
      cases hv
    · rintro ⟨-, -, v, hv, -⟩
      cases hv

/-- There is no pair behind the last unit. -/
lemma not_pairAt_of_le {units : List ℕ} {n : ℕ} (h : units.length ≤ n + 1) : ¬ PairAt units n := by
  rintro ⟨-, -, v, hv, -⟩
  rw [List.getElem?_eq_none h] at hv
  cases hv

/-- The borders from a position on are the next one and those behind it. -/
lemma forall_not_pairAt_iff {units : List ℕ} {p c : ℕ} (hp : p < units.length) (hc : 1 ≤ c) :
    (∀ k, 1 ≤ k → ¬ PairAt units (p + k * c - 1)) ↔
      ¬ PairAt units (p + min (units.length - p) c - 1) ∧
        ∀ k, 1 ≤ k → ¬ PairAt units (p + min (units.length - p) c + k * c - 1) := by
  rcases Nat.le_total (units.length - p) c with hle | hle
  · have hbehind : ∀ k, 1 ≤ k → c ≤ k * c := fun k hk => Nat.le_mul_of_pos_left c hk
    rw [min_eq_left hle]
    refine iff_of_true (fun k hk => ?_) ⟨?_, fun k hk => ?_⟩
    · have := hbehind k hk
      exact not_pairAt_of_le (by omega)
    · exact not_pairAt_of_le (by omega)
    · exact not_pairAt_of_le (by omega)
  · rw [min_eq_right hle]
    constructor
    · intro h
      refine ⟨by simpa using h 1 le_rfl, fun k hk => ?_⟩
      have hnext := h (k + 1) (by omega)
      rwa [Nat.add_mul, Nat.one_mul, Nat.add_comm (k * c), ← Nat.add_assoc] at hnext
    · rintro ⟨hfirst, hrest⟩ k hk
      obtain ⟨k, rfl⟩ := Nat.exists_eq_add_of_le hk
      rcases Nat.eq_zero_or_pos k with rfl | hpos
      · simpa using hfirst
      · have hnext := hrest k hpos
        rwa [Nat.add_assoc, ← Nat.one_mul c, ← Nat.mul_assoc, Nat.mul_one, ← Nat.add_mul] at hnext

/-! ## The loop -/

section Loop

variable {read : UInt64 → UInt64 → Except Error LobData} {totalSize chunkSize offset : UInt64}
  {units : List ℕ}

/-- The loop ends behind the last unit. -/
lemma readLobChunks_of_lt (turns : ℕ) (h : totalSize < offset) :
    readLobChunks read totalSize chunkSize (turns + 1) offset = .ok [] := by
  rw [readLobChunks, if_neg (UInt64.not_le.mpr h)]
  rfl

/-- The amount of a turn. -/
lemma toNat_amount {p : ℕ} (hp : offset.toNat = p + 1) (hle : offset ≤ totalSize) :
    (min (totalSize - offset + 1) chunkSize).toNat = min (totalSize.toNat - p) chunkSize.toNat := by
  have hlt := totalSize.toNat_lt
  have hsub : (totalSize - offset).toNat = totalSize.toNat - (p + 1) := by
    rw [UInt64.toNat_sub_of_le _ _ hle, hp]
  have hle' : p + 1 ≤ totalSize.toNat := by
    rw [← hp]
    exact UInt64.le_iff_toNat_le.mp hle
  have hone : (1 : UInt64).toNat = 1 := rfl
  have hremaining : (totalSize - offset + 1).toNat = totalSize.toNat - p := by
    rw [UInt64.toNat_add, hsub, hone]
    omega
  show (if _ ≤ _ then _ else _ : UInt64).toNat = _
  split_ifs with hmin
  · rw [UInt64.le_iff_toNat_le, hremaining] at hmin
    rw [hremaining, min_eq_left hmin]
  · rw [UInt64.le_iff_toNat_le, hremaining] at hmin
    rw [min_eq_right (by omega)]

/-- A turn delivers the next chunk, and the loop goes on behind it. -/
lemma readLobChunks_of_le (turns : ℕ) {p : ℕ} (hp : offset.toNat = p + 1) (hle : offset ≤ totalSize)
    (htotal : totalSize.toNat + 1 < 2 ^ 64) {chunk : LobData}
    (hread : read offset (min (totalSize - offset + 1) chunkSize) = .ok chunk) :
    ∃ offset' : UInt64, offset'.toNat = p + min (totalSize.toNat - p) chunkSize.toNat + 1 ∧
      readLobChunks read totalSize chunkSize (turns + 1) offset =
        (chunk :: ·) <$> readLobChunks read totalSize chunkSize turns offset' := by
  have hamount : (min (totalSize - offset + 1) chunkSize).toNat = _ := toNat_amount hp hle
  have hle' : p + 1 ≤ totalSize.toNat := by
    rw [← hp]
    exact UInt64.le_iff_toNat_le.mp hle
  refine ⟨offset + min (totalSize - offset + 1) chunkSize, ?_, ?_⟩
  · rw [UInt64.toNat_add, hamount, hp]
    omega
  · have hsum : offset.toNat + (min (totalSize - offset + 1) chunkSize).toNat < 2 ^ 64 := by
      rw [hp, hamount]
      omega
    rw [readLobChunks, if_pos hle]
    show (read _ _ >>= fun chunk => _) = _
    rw [hread]
    show (if _ then _ else _) = _
    rw [if_pos hsum]
    rfl

/-- The chunks from a position on have at least as many characters as the text, and they are the text
if and only if no border splits a pair.

**Proof sketch.** Induction on the turns. A chunk and what is behind it are decoded as one piece if the
border splits no pair, and otherwise to one character more. -/
lemma exists_pieces (hread : ∀ offset amount : UInt64, 1 ≤ offset.toNat → read offset amount =
      .ok (.string (String.ofList
        (fromUtf16Lossy ((units.drop (offset.toNat - 1)).take amount.toNat)))))
    (hunits : units.length = totalSize.toNat) (htotal : totalSize.toNat + 1 < 2 ^ 64)
    (hchunk : 1 ≤ chunkSize.toNat) (turns : ℕ) (offset : UInt64) (p : ℕ)
    (hp : offset.toNat = p + 1) (hturns : totalSize.toNat - p < turns) :
    ∃ pieces : List (List Char), readLobChunks read totalSize chunkSize turns offset =
        .ok (pieces.map fun piece => .string (String.ofList piece)) ∧
      (fromUtf16Lossy (units.drop p)).length ≤ pieces.flatten.length ∧
      (pieces.flatten = fromUtf16Lossy (units.drop p) ↔
        ∀ k, 1 ≤ k → ¬ PairAt units (p + k * chunkSize.toNat - 1)) := by
  induction turns generalizing offset p with
  | zero => omega
  | succ turns ih =>
    by_cases hle : offset ≤ totalSize
    · have hle' : p + 1 ≤ totalSize.toNat := by
        rw [← hp]
        exact UInt64.le_iff_toNat_le.mp hle
      obtain ⟨offset', hoffset', hloop⟩ := readLobChunks_of_le turns hp hle htotal
        (hread offset (min (totalSize - offset + 1) chunkSize) (by omega))
      rw [toNat_amount hp hle, hp, Nat.add_sub_cancel] at hloop
      set m := min (totalSize.toNat - p) chunkSize.toNat with hm
      obtain ⟨pieces, hpieces, hlength, hiff⟩ := ih offset' (p + m) hoffset' (by omega)
      refine ⟨fromUtf16Lossy ((units.drop p).take m) :: pieces, ?_, ?_⟩
      · rw [hloop, hpieces]
        rfl
      · have hwhole : (units.drop p).take m ++ units.drop (p + m) = units.drop p := by
          rw [← List.drop_drop]
          exact List.take_append_drop _ _
        have hsplits := splits_drop_iff units p (m := m) (by omega)
        rw [forall_not_pairAt_iff (by omega) hchunk, hunits, ← hm, ← hsplits, ← hiff,
          List.flatten_cons, List.length_append]
        by_cases hsplit : Splits ((units.drop p).take m) (units.drop (p + m))
        · have hmore := length_fromUtf16Lossy_append hsplit
          rw [hwhole] at hmore
          refine ⟨by omega, iff_of_false (fun h => ?_) fun h => h.1 hsplit⟩
          have := congrArg List.length h
          rw [List.length_append] at this
          omega
        · have happend := fromUtf16Lossy_append hsplit
          rw [hwhole] at happend
          rw [happend, List.length_append, List.append_cancel_left_eq]
          exact ⟨by omega, fun h => ⟨hsplit, h⟩, And.right⟩
    · have hlt : totalSize < offset := UInt64.not_le.mp hle
      have hlt' : totalSize.toNat < p + 1 := by
        rw [← hp]
        exact UInt64.lt_iff_toNat_lt.mp hlt
      have hdrop : units.drop p = [] := List.drop_eq_nil_of_le (by omega)
      refine ⟨[], readLobChunks_of_lt turns hlt, ?_, ?_⟩
      · rw [hdrop]
        exact Nat.zero_le _
      · rw [hdrop]
        refine iff_of_true rfl fun k hk => not_pairAt_of_le ?_
        have := Nat.le_mul_of_pos_left chunkSize.toNat hk
        omega

/-- A loop that ends has passed the last unit. -/
lemma lt_of_readLobChunks_eq_ok {turns : ℕ} {chunks : List LobData}
    (h : readLobChunks read totalSize chunkSize turns offset = .ok chunks) :
    totalSize.toNat + 1 < 2 ^ 64 := by
  induction turns generalizing offset chunks with
  | zero => cases h
  | succ turns ih =>
    rw [readLobChunks] at h
    split_ifs at h with hle
    · cases hread : read offset (min (totalSize - offset + 1) chunkSize) with
      | error e =>
        simp only [hread, bind, Except.bind] at h
        cases h
      | ok chunk =>
        simp only [hread, bind, Except.bind] at h
        split_ifs at h with hsum
        · cases hrest : readLobChunks read totalSize chunkSize turns
            (offset + min (totalSize - offset + 1) chunkSize) with
          | error e =>
            rw [hrest] at h
            cases h
          | ok rest => exact ih hrest
    · have hlt := UInt64.lt_iff_toNat_lt.mp (UInt64.not_le.mp hle)
      have := offset.toNat_lt
      omega

end Loop

/-! ## Texts -/

/-- For every text in UTF-16 and every chunk size, the chunks are the text that a full read delivers if
and only if the size can be passed by an offset and no border of two chunks is in the middle of a
surrogate pair. -/
theorem readLobChunked_eq_readLob_iff {locator : LobLocator} (hclob : locator.oracleType = .clob)
    (hvar : locator.usesVarLengthCharset = true) (text : String)
    (hsize : locator.size.toNat = (encodeUtf16 text).length)
    {reply : UInt64 → UInt64 → Bytes} (hserves : Serves locator (encodeUtf16 text) reply)
    (lobChunkSize : Except Error UInt32) (chunkSize : UInt64) (hchunk : 1 ≤ chunkSize.toNat) :
    (∃ chunks : List String,
        readLobChunked locator reply lobChunkSize chunkSize = .ok (chunks.map .string) ∧
        readLob locator reply = .ok (.string (String.join chunks))) ↔
      locator.size.toNat + 1 < 2 ^ 64 ∧
        ∀ k, 1 ≤ k → ¬ PairAt (encodeUtf16 text) (k * chunkSize.toNat - 1) := by
  have hunits : ∀ u ∈ encodeUtf16 text, u < 0x10000 := fun u => lt_of_mem_encodeUtf16
  have hread : ∀ offset amount : UInt64, 1 ≤ offset.toNat → readLobInternal locator reply offset amount =
      .ok (.string (String.ofList (fromUtf16Lossy
        (((encodeUtf16 text).drop (offset.toNat - 1)).take amount.toNat)))) := by
    intro offset amount hoffset
    rw [hserves offset amount hoffset, content_unitBytes hclob hvar]
    exact fun u hu => hunits u (List.mem_of_mem_drop (List.mem_of_mem_take hu))
  have hfull : readLob locator reply = .ok (.string text) := by
    rw [readLob, hread 1 locator.size (by decide), hsize]
    show Except.ok (LobData.string (String.ofList (fromUtf16Lossy
      (((encodeUtf16 text).drop 0).take (encodeUtf16 text).length)))) = _
    rw [List.drop_zero, List.take_length, fromUtf16Lossy_encodeUtf16, String.ofList_toList]
  -- chunks are the text if and only if their characters are
  have hjoin : ∀ pieces : List (List Char), String.join (pieces.map String.ofList) = text ↔
      pieces.flatten = fromUtf16Lossy ((encodeUtf16 text).drop 0) := by
    intro pieces
    have hlist : pieces.flatMap (String.toList ∘ String.ofList) = pieces.flatten := by
      simp [List.flatMap_def]
    rw [← String.toList_inj, String.toList_join, List.flatMap_map, List.drop_zero,
      fromUtf16Lossy_encodeUtf16, ← hlist]
    rfl
  have hchunked : readLobChunked locator reply lobChunkSize chunkSize =
      if locator.size = 0 then .ok [] else
        readLobChunks (readLobInternal locator reply) locator.size chunkSize
          (locator.size.toNat + 1) 1 := by
    have hne : chunkSize ≠ 0 := by
      rintro rfl
      exact absurd hchunk (by decide)
    rw [readLobChunked, if_neg hne]
    rfl
  rw [hfull, hchunked]
  split_ifs with hzero
  · have hnil : encodeUtf16 text = [] := by
      rw [← List.length_eq_zero_iff, ← hsize, hzero]
      rfl
    refine iff_of_true ⟨[], rfl, ?_⟩ ⟨by rw [hzero]; decide, fun k _ => ?_⟩
    · have hempty := (hjoin []).mpr (by rw [hnil]; rfl)
      rw [← hempty]
      rfl
    · exact not_pairAt_of_le (by rw [hnil]; exact Nat.zero_le _)
  · have hloop := fun htotal => exists_pieces hread hsize.symm htotal hchunk
      (locator.size.toNat + 1) 1 0 rfl (by omega)
    simp only [Nat.zero_add] at hloop
    constructor
    · rintro ⟨chunks, hchunks, htext⟩
      have htotal := lt_of_readLobChunks_eq_ok hchunks
      obtain ⟨pieces, hpieces, -, hiff⟩ := hloop htotal
      have hmap : chunks = pieces.map String.ofList := by
        rw [hchunks, Except.ok.injEq] at hpieces
        have hinj : Function.Injective LobData.string := fun _ _ h => LobData.string.inj h
        apply List.map_injective_iff.mpr hinj
        rw [hpieces, List.map_map]
        rfl
      rw [hmap] at htext
      simp only [Except.ok.injEq, LobData.string.injEq] at htext
      exact ⟨htotal, hiff.mp ((hjoin pieces).mp htext.symm)⟩
    · rintro ⟨htotal, hpairs⟩
      obtain ⟨pieces, hpieces, -, hiff⟩ := hloop htotal
      refine ⟨pieces.map String.ofList, ?_, ?_⟩
      · rw [hpieces, List.map_map]
        rfl
      · rw [(hjoin pieces).mpr (hiff.mpr hpairs)]

/-! ## Replies -/

/-- The payload of a reply with LOB data: the data flags, the data, the locator with an amount, and the
end of the response. -/
def replyPayload (locator : LobLocator) (data : ByteString) (amount : Ub 8) : Bytes :=
  [0, 0] ++ ((MessageType.lobData.code :: data.encode) ++
    ((MessageType.parameter.code :: (locator.locator ++ amount.encode)) ++
      [MessageType.endOfResponse.code]))

section Replies

variable {σ α : Type} {lobData parameter : σ → ReadM σ} {result : σ → α}

/-- A turn reads a message type and its message. -/
lemma reads_lobTurn {s : σ} {t : MessageType} {b : Bytes} {r : σ ⊕ α}
    (h : Reads (lobMessage lobData parameter result s (some t)) b r) :
    Reads (lobTurn lobData parameter result s) (t.code :: b) r := by
  intro c rest hc
  rw [lobTurn_eq s hc, MessageType.tryFrom_code, h (c.advance 1) rest (by simp [hc])]
  simp [Nat.add_comm]

/-- What a parser makes of LOB data, a parameter and the end of the response. -/
lemma parseLob_of_reads {s s₁ s₂ : σ} {data returned : Bytes} (hdata : Reads (lobData s) data s₁)
    (hreturned : Reads (parameter s₁) returned s₂) :
    parseLob lobData parameter result s ([0, 0] ++ ((MessageType.lobData.code :: data) ++
      ((MessageType.parameter.code :: returned) ++ [MessageType.endOfResponse.code]))) =
      .ok (result s₂) := by
  have hturn₁ : Reads (lobTurn lobData parameter result s) (MessageType.lobData.code :: data)
      (.inl s₁) := reads_lobTurn (hdata.bind_nil (Reads.pure (Sum.inl s₁ : σ ⊕ α)))
  have hturn₂ : Reads (lobTurn lobData parameter result s₁) (MessageType.parameter.code :: returned)
      (.inl s₂) := reads_lobTurn (hreturned.bind_nil (Reads.pure (Sum.inl s₂ : σ ⊕ α)))
  have hturn₃ : Reads (lobTurn lobData parameter result s₂) [MessageType.endOfResponse.code]
      (.inr (result s₂)) := reads_lobTurn (Reads.pure (Sum.inr (result s₂) : σ ⊕ α))
  have hloop : ReadsLoop Error.stuck (lobTurn lobData parameter result) s
      ((MessageType.lobData.code :: data) ++ ((MessageType.parameter.code :: returned) ++
        [MessageType.endOfResponse.code])) (result s₂) :=
    ReadsLoop.more hturn₁ (by simp) (ReadsLoop.more hturn₂ (by simp) (ReadsLoop.done hturn₃))
  have hread : Reads (do skip 2; iterate Error.stuck (lobTurn lobData parameter result) s : ReadM α) _
      (result s₂) := (reads_skip [0, 0]).bind fun c r hr => hloop.reads c r hr
  rw [parseLob, ReadM.runOn, hread ⟨_, 0⟩ [] (by rw [rest_mk_zero, List.append_nil])]

end Replies

/-- The data of a reply are decoded. -/
theorem parseLobReadResponse_replyPayload (locator : LobLocator) (data : ByteString) (amount : Ub 8) :
    parseLobReadResponse locator (replyPayload locator data amount) =
      .ok (locator.content (some data.content)) :=
  parseLob_of_reads (data.reads_readRawBytesChunked.map some)
    ((reads_skip locator.locator).bind
      (amount.reads_readUb8.bind_nil (Reads.pure (some data.content))))

/-- A locator of a CLOB in UTF-16, with a size of two units. -/
def clobLocator : LobLocator where
  locator := [0, 0, 0, 0, 0, 0, 0x80]
  size := 2
  chunkSize := 8132
  oracleType := .clob
  csfrm := 2

/-- The units of a range of a text of at most two units. -/
def unitRange (units : List ℕ) (offset amount : UInt64) : List ℕ :=
  ((units.take 2).drop (offset.toNat - 1)).take amount.toNat

lemma length_unitRange_le (units : List ℕ) (offset amount : UInt64) :
    (unitBytes (unitRange units offset amount)).length ≤ 252 := by
  have hlen : (unitRange units offset amount).length ≤ 2 := by
    rw [unitRange, List.length_take, List.length_drop, List.length_take]
    omega
  rw [length_unitBytes]
  omega

/-- The replies of a server with a text of at most two units. -/
def replyWith (units : List ℕ) (offset amount : UInt64) : Bytes :=
  replyPayload clobLocator
    (.short (unitBytes (unitRange units offset amount)) (length_unitRange_le units offset amount))
    Ub.zero

lemma serves_replyWith {units : List ℕ} (h : units.length ≤ 2) :
    Serves clobLocator units (replyWith units) := by
  intro offset amount _
  rw [readLobInternal, replyWith, parseLobReadResponse_replyPayload, ByteString.content, unitRange,
    List.take_of_length_le h]

/-- A text of two letters is read in chunks of one. -/
theorem readLobChunked_letters : ∃ chunks : List String,
    readLobChunked clobLocator (replyWith (encodeUtf16 "ab")) (.ok 8132) 1 =
      .ok (chunks.map .string) ∧
    readLob clobLocator (replyWith (encodeUtf16 "ab")) = .ok (.string (String.join chunks)) := by
  have hunits : encodeUtf16 "ab" = [97, 98] := by decide +kernel
  refine (readLobChunked_eq_readLob_iff rfl (by decide) "ab" (by decide +kernel)
    (serves_replyWith (by decide +kernel)) (.ok 8132) 1 (by decide)).mpr ⟨by decide, fun k _ => ?_⟩
  rw [hunits]
  rintro ⟨u, hu, -, -, hhigh, -⟩
  have hmem := List.mem_of_getElem? hu
  have hle := hhigh.1
  simp only [List.mem_cons, List.not_mem_nil, or_false] at hmem
  omega

/-- A character of two units is lost. -/
theorem not_readLobChunked_clef : ¬ ∃ chunks : List String,
    readLobChunked clobLocator (replyWith (encodeUtf16 "𝄞")) (.ok 8132) 1 =
      .ok (chunks.map .string) ∧
    readLob clobLocator (replyWith (encodeUtf16 "𝄞")) = .ok (.string (String.join chunks)) := by
  have hchunks : readLobChunked clobLocator (replyWith (encodeUtf16 "𝄞")) (.ok 8132) 1 =
      .ok [.string "\uFFFD", .string "\uFFFD"] := by decide +kernel
  have hfull : readLob clobLocator (replyWith (encodeUtf16 "𝄞")) = .ok (.string "𝄞") := by
    decide +kernel
  rintro ⟨chunks, h, htext⟩
  rw [hchunks, Except.ok.injEq] at h
  rw [hfull, Except.ok.injEq, LobData.string.injEq] at htext
  have hmap : chunks = ["\uFFFD", "\uFFFD"] := by
    have hinj : Function.Injective LobData.string := fun _ _ h => LobData.string.inj h
    exact List.map_injective_iff.mpr hinj h.symm
  rw [hmap] at htext
  exact absurd htext (by decide +kernel)

/-! ## Requests -/

/-- The offsets and amounts that the loop of `read_lob_chunked` asks for, in so many turns, and how the loop
ends if all of them are replied to. -/
def lobRequests (totalSize chunkSize : UInt64) : ℕ → UInt64 → List (UInt64 × UInt64) × Except Error Unit
  | 0, _ => ([], .error .stuck)
  | turns + 1, offset =>
    if offset ≤ totalSize then
      let remaining := totalSize - offset + 1
      let amount := min remaining chunkSize
      if offset.toNat + amount.toNat < 2 ^ 64 then
        let rest := lobRequests totalSize chunkSize turns (offset + amount)
        ((offset, amount) :: rest.1, rest.2)
      else ([(offset, amount)], .error .arithmeticOverflow)
    else ([], .ok ())

/-- The requests are made one behind the other, each for at least one unit, from a unit to the last one. -/
inductive Tiles (last : ℕ) : ℕ → List (UInt64 × UInt64) → Prop where
  | done : Tiles last (last + 1) []
  | next {first : ℕ} {offset amount : UInt64} {requests : List (UInt64 × UInt64)} :
    offset.toNat = first → 1 ≤ amount.toNat → Tiles last (first + amount.toNat) requests →
      Tiles last first ((offset, amount) :: requests)

/-- The units that are asked for are all units, once and in their order. -/
lemma Tiles.flatMap_eq {last first : ℕ} {requests : List (UInt64 × UInt64)}
    (h : Tiles last first requests) :
    first ≤ last + 1 ∧ (requests.flatMap fun r => List.range' r.1.toNat r.2.toNat) =
      List.range' first (last + 1 - first) := by
  induction h with
  | done => simp
  | next hoffset hamount _ ih =>
    obtain ⟨hle, hrest⟩ := ih
    refine ⟨by omega, ?_⟩
    rw [List.flatMap_cons, hrest]
    dsimp only
    rw [hoffset, List.range'_append_1]
    congr 1
    omega

section Requests

variable {totalSize chunkSize offset : UInt64}

/-- The loop reads what it asks for. -/
lemma readLobChunks_eq (read : UInt64 → UInt64 → Except Error LobData) (turns : ℕ) :
    readLobChunks read totalSize chunkSize turns offset = (do
      let chunks ← (lobRequests totalSize chunkSize turns offset).1.mapM fun r => read r.1 r.2
      (lobRequests totalSize chunkSize turns offset).2
      return chunks) := by
  induction turns generalizing offset with
  | zero => rfl
  | succ turns ih =>
    rw [readLobChunks, lobRequests]
    by_cases hle : offset ≤ totalSize
    · rw [if_pos hle, if_pos hle]
      by_cases hsum : offset.toNat + (min (totalSize - offset + 1) chunkSize).toNat < 2 ^ 64
      · simp only [if_pos hsum, List.mapM_cons, ih]
        cases read offset (min (totalSize - offset + 1) chunkSize) with
        | error e => rfl
        | ok chunk =>
          cases (lobRequests totalSize chunkSize turns
            (offset + min (totalSize - offset + 1) chunkSize)).1.mapM (fun r => read r.1 r.2) with
          | error e => rfl
          | ok chunks =>
            cases (lobRequests totalSize chunkSize turns
              (offset + min (totalSize - offset + 1) chunkSize)).2 <;> rfl
      · simp only [if_neg hsum, List.mapM_cons, List.mapM_nil]
        cases read offset (min (totalSize - offset + 1) chunkSize) <;> rfl
    · rw [if_neg hle, if_neg hle]
      rfl

/-- The requests from a unit on, if an offset can be behind the last one. -/
lemma tiles_lobRequests (htotal : totalSize.toNat + 1 < 2 ^ 64) (hchunk : 1 ≤ chunkSize.toNat)
    (turns p : ℕ) (hp : offset.toNat = p + 1) (hle : p ≤ totalSize.toNat)
    (hturns : totalSize.toNat - p < turns) :
    (lobRequests totalSize chunkSize turns offset).2 = .ok () ∧
      Tiles totalSize.toNat (p + 1) (lobRequests totalSize chunkSize turns offset).1 := by
  induction turns generalizing offset p with
  | zero => omega
  | succ turns ih =>
    rw [lobRequests]
    by_cases hoffset : offset ≤ totalSize
    · have hlt : p + 1 ≤ totalSize.toNat := by
        rw [← hp]
        exact UInt64.le_iff_toNat_le.mp hoffset
      have hamount : (min (totalSize - offset + 1) chunkSize).toNat = _ := toNat_amount hp hoffset
      have hsum : offset.toNat + (min (totalSize - offset + 1) chunkSize).toNat < 2 ^ 64 := by
        rw [hp, hamount]
        omega
      have hnext : (offset + min (totalSize - offset + 1) chunkSize).toNat =
          p + (min (totalSize - offset + 1) chunkSize).toNat + 1 := by
        rw [UInt64.toNat_add, hp]
        omega
      obtain ⟨hend, htiles⟩ := ih _ hnext (by omega) (by omega)
      rw [if_pos hoffset, if_pos hsum]
      refine ⟨hend, .next hp (by omega) ?_⟩
      convert htiles using 1
      omega
    · have hlt : totalSize.toNat < p + 1 := by
        rw [← hp]
        exact UInt64.lt_iff_toNat_lt.mp (UInt64.not_le.mp hoffset)
      obtain rfl : p = totalSize.toNat := by omega
      rw [if_neg hoffset]
      exact ⟨rfl, .done⟩

/-- No offset is behind the largest size. -/
lemma lobRequests_ne_ok (htotal : totalSize.toNat + 1 = 2 ^ 64) (turns : ℕ) :
    (lobRequests totalSize chunkSize turns offset).2 ≠ .ok () := by
  induction turns generalizing offset with
  | zero => simp [lobRequests]
  | succ turns ih =>
    have hle : offset ≤ totalSize := by
      rw [UInt64.le_iff_toNat_le]
      have hlt := offset.toNat_lt
      omega
    rw [lobRequests, if_pos hle]
    dsimp only
    split_ifs
    · exact ih
    · simp

end Requests

/-- **The requests of a chunked read**: they go from the first to the last unit without a gap or an overlap,
and the loop ends without an overflow, for all sizes but the largest one and for no other. -/
theorem lobRequests_tile_iff (totalSize chunkSize : UInt64) (hchunk : 1 ≤ chunkSize.toNat) :
    ((lobRequests totalSize chunkSize (totalSize.toNat + 1) 1).2 = .ok () ∧
      Tiles totalSize.toNat 1 (lobRequests totalSize chunkSize (totalSize.toNat + 1) 1).1) ↔
      totalSize.toNat ≠ 2 ^ 64 - 1 := by
  have hlt := totalSize.toNat_lt
  constructor
  · rintro ⟨hend, -⟩ hmax
    exact lobRequests_ne_ok (by omega) _ hend
  · intro hne
    exact tiles_lobRequests (by omega) hchunk _ 0 rfl (Nat.zero_le _) (by omega)

/-- A size that is no multiple of the chunk size. -/
theorem lobRequests_tile_hundred :
    ((lobRequests 100 30 101 1).2 = .ok () ∧ Tiles 100 1 (lobRequests 100 30 101 1).1) ↔
      (100 : UInt64).toNat ≠ 2 ^ 64 - 1 :=
  lobRequests_tile_iff 100 30 (by decide)

/-- The offset overflows behind the last chunk of a LOB of the largest size. -/
theorem not_lobRequests_tile_largest :
    ¬∀ totalSize chunkSize : UInt64, 1 ≤ chunkSize.toNat →
      (lobRequests totalSize chunkSize (totalSize.toNat + 1) 1).2 = .ok () ∧
        Tiles totalSize.toNat 1 (lobRequests totalSize chunkSize (totalSize.toNat + 1) 1).1 := by
  intro h
  exact lobRequests_ne_ok (by decide) _ (h 0xFFFFFFFFFFFFFFFF 0xFFFFFFFFFFFFFFFF (by decide)).1

end OracleRs
