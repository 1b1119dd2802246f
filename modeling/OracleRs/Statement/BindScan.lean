import OracleRs.Statement.Basic

set_option relaxedAutoImplicit false
set_option autoImplicit false

/-!
# The scan of a statement text

What a new statement is found to be (`Statement::parse`): its kind, by its first word, and its bind
placeholders, by a scan of its characters that skips literals and comments and looks for the keywords
RETURNING and INTO in a copy of the text in upper case.

## Main definitions

* `OracleRs.CharTables` — the classification of characters by the standard library.
* `OracleRs.BindScan`, `OracleRs.BindScan.step` — the scan, one turn of its loop.
* `OracleRs.BindScan.finish` — the scan from some turn on, up to the end of the text.
* `OracleRs.Statement.new` — the statement for a text.

* `OracleRs.BindScan.found` — what it finds from there on.

## Main results

* `OracleRs.BindScan.found_step` — the scan goes on from one turn to the next.
* `OracleRs.BindScan.found_of_inString`, `OracleRs.BindScan.found_of_inLineComment`,
  `OracleRs.BindScan.found_of_inComment` — literals and comments are passed over.
* `OracleRs.BindScan.step_of_clean` — what a turn does outside of literals and comments.
-/

namespace OracleRs

/-! ## Characters -/

/-- The tables of letters, digits and upper-case forms in the standard library. They grow from one
version of Unicode to the next; ASCII and white space stay as they are. -/
structure CharTables where
  /-- `char::is_alphabetic` -/
  isAlphabetic : Char → Bool
  /-- `char::is_numeric` -/
  isNumeric : Char → Bool
  /-- `char::to_uppercase`, which may have several characters -/
  toUppercase : Char → List Char
  /-- the letters of ASCII -/
  isAlphabetic_ascii : ∀ c, c.toNat < 128 → isAlphabetic c = c.isAlpha
  /-- the digits of ASCII -/
  isNumeric_ascii : ∀ c, c.toNat < 128 → isNumeric c = c.isDigit
  /-- the upper-case forms in ASCII -/
  toUppercase_ascii : ∀ c, c.toNat < 128 → toUppercase c = [c.toUpper]
  /-- the upper-case form of a character is not empty -/
  toUppercase_ne_nil : ∀ c, toUppercase c ≠ []
  /-- white space is not alphabetic -/
  isAlphabetic_whitespace : ∀ c, isWhitespace c → isAlphabetic c = false
  /-- white space is not numeric -/
  isNumeric_whitespace : ∀ c, isWhitespace c → isNumeric c = false
  /-- white space is the same in upper case -/
  toUppercase_whitespace : ∀ c, isWhitespace c → toUppercase c = [c]

/-- White space is not among the letters and digits of ASCII. -/
private lemma whitespace_ascii {c : Char} (h : isWhitespace c) :
    c.isAlpha = false ∧ c.isDigit = false ∧ c.toUpper = c := by
  simp only [isWhitespace, Bool.or_eq_true, Bool.and_eq_true, decide_eq_true_eq, beq_iff_eq,
    Char.toNat] at h
  have hlower : ¬ (c.val ≥ 97 ∧ c.val ≤ 122) := by
    simp only [ge_iff_le, UInt32.le_iff_toNat_le, UInt32.reduceToNat]
    omega
  refine ⟨?_, ?_, dif_neg hlower⟩
  · show (decide (c.val ≥ 65 ∧ c.val ≤ 90) || (decide (c.val ≥ 97) && decide (c.val ≤ 122))) = false
    simp only [Bool.or_eq_false_iff, Bool.and_eq_false_iff, decide_eq_false_iff_not, ge_iff_le,
      UInt32.le_iff_toNat_le, UInt32.reduceToNat]
    omega
  · show (decide (c.val ≥ 48) && decide (c.val ≤ 57)) = false
    simp only [Bool.and_eq_false_iff, decide_eq_false_iff_not, ge_iff_le, UInt32.le_iff_toNat_le,
      UInt32.reduceToNat]
    omega

namespace CharTables

/-- The tables without any character beyond ASCII. -/
def ascii : CharTables where
  isAlphabetic := Char.isAlpha
  isNumeric := Char.isDigit
  toUppercase c := [c.toUpper]
  isAlphabetic_ascii _ _ := rfl
  isNumeric_ascii _ _ := rfl
  toUppercase_ascii _ _ := rfl
  toUppercase_ne_nil _ := List.cons_ne_nil _ _
  isAlphabetic_whitespace _ h := (whitespace_ascii h).1
  isNumeric_whitespace _ h := (whitespace_ascii h).2.1
  toUppercase_whitespace _ h := congrArg (fun c => [c]) (whitespace_ascii h).2.2

variable (tables : CharTables)

/-- `char::is_alphanumeric`. -/
def isAlphanumeric (c : Char) : Bool := tables.isAlphabetic c || tables.isNumeric c

/-- The characters of a bind name. -/
def isNameChar (c : Char) : Bool := tables.isAlphanumeric c || c = '_' || c = '$' || c = '#'

/-- `str::to_uppercase`. -/
def upper (text : List Char) : List Char := text.flatMap tables.toUppercase

end CharTables

/-- The number of bytes of a text (`String::len`). -/
def utf8Len (text : List Char) : ℕ := (text.map Char.utf8Size).sum

@[simp] lemma utf8Len_nil : utf8Len [] = 0 := rfl

@[simp] lemma utf8Len_cons (c : Char) (text : List Char) : utf8Len (c :: text) = c.utf8Size + utf8Len text := rfl

@[simp] lemma utf8Len_append (front back : List Char) :
    utf8Len (front ++ back) = utf8Len front + utf8Len back := by
  rw [utf8Len, List.map_append, List.sum_append, ← utf8Len, ← utf8Len]

/-! ## The kind of a statement -/

/-- The kind of statement that begins with a word (the first `match` of `Statement::parse`). -/
def StatementType.ofWord (word : List Char) : StatementType :=
  if word ∈ ["SELECT".toList, "WITH".toList] then .query
  else if word ∈ ["INSERT".toList, "UPDATE".toList, "DELETE".toList, "MERGE".toList] then .dml
  else if word ∈ ["CREATE".toList, "ALTER".toList, "DROP".toList, "GRANT".toList, "REVOKE".toList,
      "ANALYZE".toList, "AUDIT".toList, "COMMENT".toList, "TRUNCATE".toList] then .ddl
  else if word ∈ ["DECLARE".toList, "BEGIN".toList, "CALL".toList] then .plSql
  else .unknown

/-- The kind of a statement: that of its first word in upper case, if it has a word. -/
def StatementType.ofText (tables : CharTables) (text : List Char) : StatementType :=
  .ofWord (((tables.upper text).dropWhile isWhitespace).takeWhile (!isWhitespace ·))

/-! ## The scan -/

/-- `match_keyword`. -/
def matchKeyword (tables : CharTables) (chars : List Char) (pos : ℕ) (keyword : List Char) : Bool :=
  pos + keyword.length ≤ chars.length &&
    !(pos > 0 && chars[pos - 1]?.any tables.isAlphanumeric) &&
    (chars.drop pos).take keyword.length = keyword &&
    !chars[pos + keyword.length]?.any tables.isAlphanumeric

/-- `extract_bind_name`, for the characters from the start on. -/
def extractBindName (tables : CharTables) (chars : List Char) : List Char :=
  match chars.dropWhile isWhitespace with
  | [] => []
  | first :: rest =>
    if first = '"' then rest.takeWhile (· ≠ '"')
    else if first.isDigit then (first :: rest).takeWhile Char.isDigit
    else if !tables.isAlphabetic first then []
    else tables.upper ((first :: rest).takeWhile tables.isNameChar)

/-- The scan of a text for bind placeholders: the variables of `parse_bind_variables`, and the fields
of the statement that it sets. -/
structure BindScan where
  /-- the index of the next character -/
  i : ℕ := 0
  /-- is it in a string literal? -/
  inString : Bool := false
  /-- is it in a block comment? -/
  inComment : Bool := false
  /-- is it in a line comment? -/
  inLineComment : Bool := false
  /-- has RETURNING been found? -/
  returningFound : Bool := false
  /-- has INTO been found behind RETURNING? -/
  intoFound : Bool := false
  /-- the placeholders found so far -/
  bindInfoList : List BindInfo := []
  /-- is it a DML RETURNING statement? -/
  isReturning : Bool := false
deriving DecidableEq, Repr

namespace BindScan

/-- The placeholders with one more; PL/SQL has each name once. -/
def addBind (statementType : StatementType) (binds : List BindInfo) (bind : BindInfo) :
    List BindInfo :=
  if statementType = .plSql && binds.any (·.name = bind.name) then binds else binds ++ [bind]

section Turns

variable (tables : CharTables) (statementType : StatementType) (chars upper : List Char)

/-- One turn of the loop of `parse_bind_variables`; `upper` is the text in upper case. -/
def step (s : BindScan) : BindScan :=
  match chars[s.i]? with
  | none => s
  | some ch =>
    let next := chars[s.i + 1]?
    if ch = '\'' ∧ !s.inComment ∧ !s.inLineComment then
      { s with inString := !s.inString, i := s.i + 1 }
    else if s.inString then
      { s with i := s.i + 1 }
    else if ch = '-' ∧ next = some '-' then
      { s with inLineComment := true, i := s.i + 2 }
    else if s.inLineComment then
      { s with inLineComment := ch ≠ '\n', i := s.i + 1 }
    else if ch = '/' ∧ next = some '*' then
      { s with inComment := true, i := s.i + 2 }
    else if s.inComment then
      if ch = '*' ∧ next = some '/' then { s with inComment := false, i := s.i + 2 }
      else { s with i := s.i + 1 }
    else if statementType = .dml ∧ !s.returningFound ∧
        matchKeyword tables upper s.i "RETURNING".toList then
      { s with returningFound := true, i := s.i + 9 }
    else if s.returningFound ∧ !s.intoFound ∧ matchKeyword tables upper s.i "INTO".toList then
      { s with intoFound := true, isReturning := true, i := s.i + 4 }
    else
      let bindName := extractBindName tables (chars.drop (s.i + 1))
      if ch = ':' ∧ s.i + 1 < chars.length ∧ bindName ≠ [] then
        { s with
          bindInfoList := addBind statementType s.bindInfoList ⟨String.ofList bindName, s.intoFound⟩
          i := s.i + (1 + utf8Len bindName) }
      else
        { s with i := s.i + 1 }

/-- The rest of the scan. Every turn goes on by at least one character, so that there are no more
turns than characters. -/
def finish (s : BindScan) : BindScan := (step tables statementType chars upper)^[chars.length] s

end Turns

end BindScan

namespace Statement

/-- The scan of a text (`parse_bind_variables`). -/
def parseBindVariables (tables : CharTables) (statementType : StatementType) (text : List Char) :
    BindScan :=
  BindScan.finish tables statementType text (tables.upper text) {}

/-- `Statement::new`. Of DDL the placeholders are not parsed. -/
def new (tables : CharTables) (sql : String) : Statement :=
  let statementType := StatementType.ofText tables sql.toList
  let scan := parseBindVariables tables statementType sql.toList
  if statementType = .ddl then { sql := sql, statementType := statementType }
  else
    { sql := sql
      statementType := statementType
      bindInfo := scan.bindInfoList
      isReturning := scan.isReturning }

end Statement

/-! ## Turns of the scan -/

namespace BindScan

variable {tables : CharTables} {statementType : StatementType} {chars upper : List Char}
  {s : BindScan} {c : Char}

/-- At the end of the text the scan stays as it is. -/
lemma step_of_le (h : chars.length ≤ s.i) : step tables statementType chars upper s = s := by
  rw [step, List.getElem?_eq_none h]

private lemma lt_i_ite {p : Prop} [Decidable p] {s' : BindScan} {n : ℕ} (h : n < s.i)
    (h' : n < s'.i) : n < (if p then s else s').i := by
  split
  · exact h
  · exact h'

/-- A turn goes on by at least one character. -/
lemma lt_i_step (h : s.i < chars.length) : s.i < (step tables statementType chars upper s).i := by
  rw [step, List.getElem?_eq_getElem h]
  dsimp only
  repeat' apply lt_i_ite
  all_goals (dsimp only; omega)

/-- After as many turns as there are characters left the scan is at the end. -/
lemma le_i_iterate (n : ℕ) (h : chars.length ≤ s.i + n) :
    chars.length ≤ ((step tables statementType chars upper)^[n] s).i := by
  induction n generalizing s with
  | zero => simpa using h
  | succ n ih =>
    rw [Function.iterate_succ_apply]
    apply ih
    by_cases hend : s.i < chars.length
    · have := @lt_i_step tables statementType chars upper s hend
      omega
    · rw [step_of_le (by omega)]
      omega

/-- At the end of the text the scan is finished. -/
lemma finish_of_le (h : chars.length ≤ s.i) : finish tables statementType chars upper s = s := by
  have hfix : ∀ n, (step tables statementType chars upper)^[n] s = s := by
    intro n
    induction n with
    | zero => rfl
    | succ n ih => rw [Function.iterate_succ_apply, step_of_le h, ih]
  exact hfix _

/-- The scan goes on from one turn to the next. -/
lemma finish_step (s : BindScan) :
    finish tables statementType chars upper (step tables statementType chars upper s) =
      finish tables statementType chars upper s := by
  rw [finish, ← Function.iterate_succ_apply, Function.iterate_succ_apply']
  exact step_of_le (le_i_iterate _ (Nat.le_add_left _ _))

/-- What the scan finds from some turn on: the placeholders, and whether it is a DML RETURNING
statement. -/
def found (tables : CharTables) (statementType : StatementType) (chars upper : List Char)
    (s : BindScan) : List BindInfo × Bool :=
  ((finish tables statementType chars upper s).bindInfoList,
    (finish tables statementType chars upper s).isReturning)

lemma found_of_le (h : chars.length ≤ s.i) :
    found tables statementType chars upper s = (s.bindInfoList, s.isReturning) := by
  rw [found, finish_of_le h]

lemma found_step {s' : BindScan} (h : step tables statementType chars upper s = s') :
    found tables statementType chars upper s = found tables statementType chars upper s' := by
  rw [found, found, ← h, finish_step]

/-! ### Literals and comments -/

/-- The characters from an index on, by their first one. -/
lemma of_drop_eq_cons {i : ℕ} {l : List Char} (h : chars.drop i = c :: l) :
    chars[i]? = some c ∧ chars.drop (i + 1) = l ∧ chars[i + 1]? = l.head? := by
  have hnext : chars.drop (i + 1) = l := by rw [← List.tail_drop, h, List.tail_cons]
  refine ⟨?_, hnext, ?_⟩
  · rw [← List.head?_drop, h, List.head?_cons]
  · rw [← List.head?_drop, hnext]

/-- A string literal is passed over up to its end. -/
lemma found_of_inString (hs : s.inString = true) (hcomment : s.inComment = false)
    (hline : s.inLineComment = false) :
    found tables statementType chars upper s = found tables statementType chars upper
      { s with
        inString := false
        i := s.i + (((chars.drop s.i).takeWhile (· ≠ '\'')).length + 1) } := by
  generalize hl : chars.drop s.i = l
  induction l generalizing s with
  | nil =>
    rw [List.drop_eq_nil_iff] at hl
    rw [found_of_le hl, found_of_le (by dsimp only; omega)]
  | cons c l ih =>
    obtain ⟨hc, hnext, -⟩ := of_drop_eq_cons hl
    by_cases hquote : c = '\''
    · have hstep : step tables statementType chars upper s =
          { s with inString := false, i := s.i + 1 } := by
        rw [step, hc]
        dsimp only
        rw [if_pos ⟨hquote, by simp [hcomment], by simp [hline]⟩, hs]
        rfl
      rw [found_step hstep]
      simp [hquote]
    · have hstep : step tables statementType chars upper s = { s with i := s.i + 1 } := by
        rw [step, hc]
        dsimp only
        rw [if_neg fun h => hquote h.1, if_pos hs]
      rw [found_step hstep, ih (by exact hs) (by exact hcomment) (by exact hline) hnext]
      simp [hquote, Nat.add_assoc, Nat.add_comm]

/-- A line comment is passed over up to the end of the line. -/
lemma found_of_inLineComment (hs : s.inString = false) (hline : s.inLineComment = true) :
    found tables statementType chars upper s = found tables statementType chars upper
      { s with
        inLineComment := false
        i := s.i + (((chars.drop s.i).takeWhile (· ≠ '\n')).length + 1) } := by
  generalize hl : chars.drop s.i = l
  induction hn : l.length using Nat.strong_induction_on generalizing l s with
  | _ n ih =>
  cases l with
  | nil =>
    rw [List.drop_eq_nil_iff] at hl
    rw [found_of_le hl, found_of_le (by dsimp only; omega)]
  | cons c l =>
    obtain ⟨hc, hnext, hhead⟩ := of_drop_eq_cons hl
    rw [List.length_cons] at hn
    by_cases hdash : c = '-' ∧ l.head? = some '-'
    · obtain ⟨l, rfl⟩ : ∃ l', l = '-' :: l' := List.head?_eq_some_iff.mp hdash.2
      have hstep : step tables statementType chars upper s = { s with i := s.i + 2 } := by
        rw [step, hc, hhead]
        dsimp only
        rw [if_neg (by simp [hline]), if_neg (by simp [hs]), if_pos hdash, ← hline]
      rw [List.length_cons] at hn
      rw [found_step hstep, ih l.length (by omega) (by exact hs) (by exact hline) l
        (of_drop_eq_cons hnext).2.1 rfl]
      have hlen : (('-' :: '-' :: l).takeWhile (· ≠ '\n')).length =
          (l.takeWhile (· ≠ '\n')).length + 2 := by simp
      rw [hdash.1, hlen]
      congr 2
      dsimp only
      omega
    · have hstep : step tables statementType chars upper s =
          { s with inLineComment := c ≠ '\n', i := s.i + 1 } := by
        rw [step, hc, hhead]
        dsimp only
        rw [if_neg (by simp [hline]), if_neg (by simp [hs]), if_neg hdash, if_pos hline]
      rw [found_step hstep]
      by_cases hend : c = '\n'
      · simp [hend]
      · have hsame : ({ s with inLineComment := c ≠ '\n', i := s.i + 1 } : BindScan) =
            { s with i := s.i + 1 } := by simp [hend, ← hline]
        rw [hsame, ih l.length (by omega) (by exact hs) (by exact hline) l hnext rfl]
        simp [hend, Nat.add_assoc, Nat.add_comm]

/-- There is no end of a block comment in the characters. -/
def NoClose (l : List Char) : Prop := ∀ b ∈ l.tails, ¬ ['*', '/'] <+: b

/-- The scan finds the end of a block comment with this body: behind every `--` in it there is the end
of a line, and it does not end in `/`. -/
structure Closes (body : List Char) : Prop where
  /-- behind `--` the line ends -/
  dashes : ∀ b ∈ body.tails, ['-', '-'] <+: b → '\n' ∈ b
  /-- the end is not taken for `/*` -/
  slash : body.getLast? ≠ some '/'

instance : DecidablePred Closes := fun body =>
  decidable_of_iff ((∀ b ∈ body.tails, ['-', '-'] <+: b → '\n' ∈ b) ∧ body.getLast? ≠ some '/')
    ⟨fun h => ⟨h.1, h.2⟩, fun h => ⟨h.1, h.2⟩⟩

lemma NoClose.of_suffix {l l' : List Char} (h : NoClose l) (hl : l' <:+ l) : NoClose l' :=
  fun b hb => h b ((List.mem_tails _ _).mpr (((List.mem_tails _ _).mp hb).trans hl))

lemma Closes.of_suffix {l l' : List Char} (h : Closes l) (hl : l' <:+ l) : Closes l' where
  dashes b hb := h.dashes b ((List.mem_tails _ _).mpr (((List.mem_tails _ _).mp hb).trans hl))
  slash hlast := by
    obtain ⟨p, rfl⟩ := hl
    refine h.slash ?_
    rw [List.getLast?_append, hlast]
    rfl

/-- A turn in a block comment that does not see its end, a line comment, or `/*`. -/
lemma step_of_inComment {l : List Char} (hs : s.inString = false) (hcomment : s.inComment = true)
    (hline : s.inLineComment = false) (hl : chars.drop s.i = c :: l)
    (hdash : ¬ (c = '-' ∧ l.head? = some '-')) (hopen : ¬ (c = '/' ∧ l.head? = some '*')) :
    step tables statementType chars upper s =
      if c = '*' ∧ l.head? = some '/' then { s with inComment := false, i := s.i + 2 }
      else { s with i := s.i + 1 } := by
  obtain ⟨hc, -, hhead⟩ := of_drop_eq_cons hl
  rw [step, hc, hhead]
  dsimp only
  rw [if_neg (by simp [hcomment]), if_neg (by simp [hs]), if_neg hdash, if_neg (by simp [hline]),
    if_neg hopen, if_pos hcomment]

/-- A turn outside of string literals that sees `--`. -/
lemma step_of_dashes {l : List Char} (hs : s.inString = false)
    (hl : chars.drop s.i = '-' :: '-' :: l) :
    step tables statementType chars upper s = { s with inLineComment := true, i := s.i + 2 } := by
  obtain ⟨hc, -, hhead⟩ := of_drop_eq_cons hl
  rw [step, hc, hhead]
  dsimp only
  rw [if_neg (by simp), if_neg (by simp [hs]), if_pos ⟨rfl, rfl⟩]

/-- A turn outside of string literals and line comments that sees `/*`. -/
lemma step_of_open {l : List Char} (hs : s.inString = false) (hline : s.inLineComment = false)
    (hl : chars.drop s.i = '/' :: '*' :: l) :
    step tables statementType chars upper s = { s with inComment := true, i := s.i + 2 } := by
  obtain ⟨hc, -, hhead⟩ := of_drop_eq_cons hl
  rw [step, hc, hhead]
  dsimp only
  rw [if_neg (by simp), if_neg (by simp [hs]), if_neg (by simp), if_neg (by simp [hline]),
    if_pos ⟨rfl, rfl⟩]

/-- A block comment is passed over up to its end, if the scan finds that. -/
lemma found_of_inComment {body rest : List Char} (hs : s.inString = false)
    (hcomment : s.inComment = true) (hline : s.inLineComment = false)
    (hl : chars.drop s.i = body ++ '*' :: '/' :: rest) (hbody : NoClose body)
    (hcloses : Closes body) :
    found tables statementType chars upper s = found tables statementType chars upper
      { s with inComment := false, i := s.i + (body.length + 2) } := by
  induction hn : body.length using Nat.strong_induction_on generalizing body s with
  | _ n ih =>
  cases body with
  | nil =>
    have hstep := @step_of_inComment tables statementType chars upper s _ _ hs hcomment hline hl (by simp) (by simp)
    rw [found_step hstep, if_pos ⟨rfl, rfl⟩, ← hn]
    rfl
  | cons c body =>
    rw [List.length_cons] at hn
    rw [List.cons_append] at hl
    by_cases hdash : c = '-' ∧ (body ++ '*' :: '/' :: rest).head? = some '-'
    · -- a line comment within the block comment
      obtain ⟨rfl, hhead⟩ := hdash
      cases body with
      | nil => simp at hhead
      | cons d body =>
        obtain rfl : d = '-' := by simpa using hhead
        have hmem : '\n' ∈ body := by
          simpa using hcloses.dashes ('-' :: '-' :: body) (by simp) (List.prefix_append _ body)
        obtain ⟨line, body, rfl, hnot⟩ := List.eq_append_cons_of_mem hmem
        have hdrop : chars.drop (s.i + 2) = line ++ '\n' :: (body ++ '*' :: '/' :: rest) := by
          rw [(of_drop_eq_cons (of_drop_eq_cons hl).2.1).2.1]
          simp
        have hline' : (chars.drop (s.i + 2)).takeWhile (· ≠ '\n') = line := by
          rw [hdrop, List.takeWhile_append_of_pos fun x hx => by simpa using ne_of_mem_of_not_mem hx hnot]
          simp
        have hsuffix : body <:+ '-' :: '-' :: (line ++ '\n' :: body) :=
          ⟨'-' :: '-' :: (line ++ ['\n']), by simp⟩
        rw [found_step (step_of_dashes hs hl),
          found_of_inLineComment (by exact hs) rfl, hline']
        have hlen : body.length < n := by
          simp only [List.length_cons, List.length_append] at hn
          omega
        have hrest : chars.drop (s.i + 2 + (line.length + 1)) = body ++ '*' :: '/' :: rest := by
          rw [← List.drop_drop, hdrop]
          simp
        rw [ih body.length hlen (by exact hs) (by exact hcomment) rfl hrest (hbody.of_suffix hsuffix)
          (hcloses.of_suffix hsuffix) rfl]
        simp only [List.length_cons, List.length_append] at hn
        rw [← hline, ← hn]
        congr 2
        dsimp only
        omega
    · by_cases hopen : c = '/' ∧ (body ++ '*' :: '/' :: rest).head? = some '*'
      · obtain ⟨rfl, hhead⟩ := hopen
        cases body with
        | nil => exact absurd rfl hcloses.slash
        | cons d body =>
          obtain rfl : d = '*' := by simpa using hhead
          have hsuffix : body <:+ '/' :: '*' :: body := ⟨['/', '*'], rfl⟩
          rw [List.length_cons] at hn
          rw [found_step (step_of_open hs hline hl), ← hcomment,
            ih body.length (by omega) (by exact hs) (by exact hcomment) (by exact hline)
              (of_drop_eq_cons (of_drop_eq_cons hl).2.1).2.1 (hbody.of_suffix hsuffix)
              (hcloses.of_suffix hsuffix) rfl]
          congr 2
          dsimp only
          omega
      · have hclose : ¬ (c = '*' ∧ (body ++ '*' :: '/' :: rest).head? = some '/') := by
          rintro ⟨rfl, hhead⟩
          cases body with
          | nil => simp at hhead
          | cons d body =>
            obtain rfl : d = '/' := by simpa using hhead
            exact hbody _ (by simp) (List.prefix_append ['*', '/'] body)
        have hstep := @step_of_inComment tables statementType chars upper s _ _ hs hcomment hline hl hdash hopen
        rw [if_neg hclose] at hstep
        have hsuffix : body <:+ c :: body := List.suffix_cons c body
        rw [found_step hstep, ih body.length (by omega) (by exact hs) (by exact hcomment)
          (by exact hline) (of_drop_eq_cons hl).2.1 (hbody.of_suffix hsuffix)
          (hcloses.of_suffix hsuffix) rfl]
        congr 2
        dsimp only
        omega

/-- A block comment without an end is passed over up to the end of the text. -/
lemma found_of_noClose (hs : s.inString = false) (hcomment : s.inComment = true)
    (hclose : NoClose (chars.drop s.i)) :
    found tables statementType chars upper s = (s.bindInfoList, s.isReturning) := by
  induction hn : chars.length - s.i using Nat.strong_induction_on generalizing s with
  | _ n ih =>
  cases hl : chars.drop s.i with
  | nil => exact found_of_le (List.drop_eq_nil_iff.mp hl)
  | cons c l =>
    have hlt : s.i < chars.length := by
      by_contra hge
      rw [List.drop_eq_nil_iff.mpr (by omega)] at hl
      cases hl
    -- whatever the turn is, it stays in the comment
    have hnext (k : ℕ) (b : Bool) (hk : 0 < k) :
        found tables statementType chars upper { s with inLineComment := b, i := s.i + k } =
          (s.bindInfoList, s.isReturning) := by
      refine ih (chars.length - (s.i + k)) (by omega) (by exact hs) (by exact hcomment) ?_ rfl
      refine hclose.of_suffix ?_
      dsimp only
      rw [← List.drop_drop]
      exact List.drop_suffix k _
    obtain ⟨hc, -, hhead⟩ := of_drop_eq_cons hl
    have hstep : ∃ k b, 0 < k ∧ step tables statementType chars upper s =
        { s with inLineComment := b, i := s.i + k } := by
      by_cases hdash : c = '-' ∧ l.head? = some '-'
      · obtain ⟨rfl, hd⟩ := hdash
        obtain ⟨l, rfl⟩ := List.head?_eq_some_iff.mp hd
        exact ⟨2, true, by omega, step_of_dashes hs hl⟩
      cases hline : s.inLineComment with
      | true =>
        refine ⟨1, c ≠ '\n', by omega, ?_⟩
        rw [step, hc, hhead]
        dsimp only
        rw [if_neg (by simp [hcomment]), if_neg (by simp [hs]), if_neg hdash, if_pos hline]
      | false =>
        by_cases hopen : c = '/' ∧ l.head? = some '*'
        · obtain ⟨rfl, hd⟩ := hopen
          obtain ⟨l, rfl⟩ := List.head?_eq_some_iff.mp hd
          exact ⟨2, false, by omega, by rw [step_of_open hs hline hl, hcomment, hline]⟩
        · have hend : ¬ (c = '*' ∧ l.head? = some '/') := by
            rintro ⟨rfl, hd⟩
            obtain ⟨l, rfl⟩ := List.head?_eq_some_iff.mp hd
            exact hclose ('*' :: '/' :: l) (by rw [hl]; simp) (List.prefix_append ['*', '/'] l)
          refine ⟨1, false, by omega, ?_⟩
          rw [step_of_inComment hs hcomment hline hl hdash hopen, if_neg hend, ← hline]
    obtain ⟨k, b, hk, hstep⟩ := hstep
    rw [found_step hstep, hnext k b hk]

/-! ### Outside of literals and comments -/

/-- The scan is outside of literals and comments. -/
structure Clean (s : BindScan) : Prop where
  /-- not in a string literal -/
  inString : s.inString = false
  /-- not in a block comment -/
  inComment : s.inComment = false
  /-- not in a line comment -/
  inLineComment : s.inLineComment = false

/-- The scan takes the characters for the beginning of a literal, a comment or a placeholder. -/
def Begins (tables : CharTables) : List Char → Bool
  | [] => false
  | c :: l =>
    c = '\'' || (c = '-' && l.head? = some '-') || (c = '/' && l.head? = some '*') ||
      (c = ':' && extractBindName tables l ≠ [])

/-- Where the scan takes nothing for a beginning. -/
lemma of_begins_eq_false {l : List Char} (h : Begins tables (c :: l) = false) :
    c ≠ '\'' ∧ ¬ (c = '-' ∧ l.head? = some '-') ∧ ¬ (c = '/' ∧ l.head? = some '*') ∧
      ¬ (c = ':' ∧ extractBindName tables l ≠ []) := by
  simpa [Begins, and_assoc] using h

/-- The turn looks for RETURNING and finds it. -/
def SeesReturning (tables : CharTables) (statementType : StatementType) (upper : List Char)
    (s : BindScan) : Prop :=
  statementType = .dml ∧ s.returningFound = false ∧ matchKeyword tables upper s.i "RETURNING".toList

/-- The turn looks for INTO and finds it. -/
def SeesInto (tables : CharTables) (upper : List Char) (s : BindScan) : Prop :=
  s.returningFound = true ∧ s.intoFound = false ∧ matchKeyword tables upper s.i "INTO".toList

/-- A turn at the beginning of a string literal. -/
lemma step_of_quote {l : List Char} (hs : s.Clean) (hl : chars.drop s.i = '\'' :: l) :
    step tables statementType chars upper s = { s with inString := true, i := s.i + 1 } := by
  rw [step, (of_drop_eq_cons hl).1]
  dsimp only
  rw [if_pos ⟨rfl, by simp [hs.inComment], by simp [hs.inLineComment]⟩, hs.inString]
  rfl

/-- From the beginning of a string literal the scan gets to its end. -/
lemma found_of_quote {l : List Char} (hs : s.Clean) (hl : chars.drop s.i = '\'' :: l) :
    found tables statementType chars upper s = found tables statementType chars upper
      { s with i := s.i + ((l.takeWhile (· ≠ '\'')).length + 2) } := by
  refine (found_step (step_of_quote hs hl)).trans ?_
  refine (found_of_inString rfl (by exact hs.inComment) (by exact hs.inLineComment)).trans ?_
  dsimp only
  rw [(of_drop_eq_cons hl).2.1, ← hs.inString]
  congr 2
  omega

/-- From the beginning of a line comment the scan gets to its end. -/
lemma found_of_dashes {l : List Char} (hs : s.Clean) (hl : chars.drop s.i = '-' :: '-' :: l) :
    found tables statementType chars upper s = found tables statementType chars upper
      { s with i := s.i + ((l.takeWhile (· ≠ '\n')).length + 3) } := by
  refine (found_step (step_of_dashes hs.inString hl)).trans ?_
  refine (found_of_inLineComment (by exact hs.inString) rfl).trans ?_
  dsimp only
  rw [(of_drop_eq_cons (of_drop_eq_cons hl).2.1).2.1, ← hs.inLineComment]
  congr 2
  omega

/-- From the beginning of a block comment the scan gets to its end, if it finds that. -/
lemma found_of_open {body rest : List Char} (hs : s.Clean)
    (hl : chars.drop s.i = '/' :: '*' :: (body ++ '*' :: '/' :: rest)) (hbody : NoClose body)
    (hcloses : Closes body) :
    found tables statementType chars upper s = found tables statementType chars upper
      { s with i := s.i + (body.length + 4) } := by
  refine (found_step (step_of_open hs.inString hs.inLineComment hl)).trans ?_
  refine (found_of_inComment (by exact hs.inString) rfl (by exact hs.inLineComment)
    (by exact (of_drop_eq_cons (of_drop_eq_cons hl).2.1).2.1) hbody hcloses).trans ?_
  dsimp only
  rw [← hs.inComment]
  congr 2
  omega

/-- From the beginning of a block comment without an end the scan gets to the end of the text. -/
lemma found_of_open_noClose {l : List Char} (hs : s.Clean)
    (hl : chars.drop s.i = '/' :: '*' :: l) (hclose : NoClose l) :
    found tables statementType chars upper s = (s.bindInfoList, s.isReturning) := by
  have hnext := (of_drop_eq_cons (of_drop_eq_cons hl).2.1).2.1
  rw [← hnext] at hclose
  refine (found_step (step_of_open hs.inString hs.inLineComment hl)).trans ?_
  exact found_of_noClose (by exact hs.inString) rfl hclose

/-- A turn outside of literals and comments where none begins: it finds RETURNING, or INTO, or it
takes a placeholder, or goes on by one character. -/
lemma step_of_clean {l : List Char} (hs : s.Clean) (hl : chars.drop s.i = c :: l) (hquote : c ≠ '\'')
    (hdash : ¬ (c = '-' ∧ l.head? = some '-')) (hopen : ¬ (c = '/' ∧ l.head? = some '*')) :
    (SeesReturning tables statementType upper s ∧
      step tables statementType chars upper s = { s with returningFound := true, i := s.i + 9 }) ∨
    (SeesInto tables upper s ∧ step tables statementType chars upper s =
      { s with intoFound := true, isReturning := true, i := s.i + 4 }) ∨
    (¬ SeesReturning tables statementType upper s ∧ ¬ SeesInto tables upper s ∧
      step tables statementType chars upper s =
        if c = ':' ∧ extractBindName tables l ≠ [] then
          { s with
            bindInfoList := addBind statementType s.bindInfoList
              ⟨String.ofList (extractBindName tables l), s.intoFound⟩
            i := s.i + (1 + utf8Len (extractBindName tables l)) }
        else { s with i := s.i + 1 }) := by
  obtain ⟨hc, hnext, hhead⟩ := of_drop_eq_cons hl
  have hstep : step tables statementType chars upper s =
      if statementType = .dml ∧ !s.returningFound ∧
          matchKeyword tables upper s.i "RETURNING".toList then
        { s with returningFound := true, i := s.i + 9 }
      else if s.returningFound ∧ !s.intoFound ∧ matchKeyword tables upper s.i "INTO".toList then
        { s with intoFound := true, isReturning := true, i := s.i + 4 }
      else if c = ':' ∧ s.i + 1 < chars.length ∧ extractBindName tables l ≠ [] then
        { s with
          bindInfoList := addBind statementType s.bindInfoList
            ⟨String.ofList (extractBindName tables l), s.intoFound⟩
          i := s.i + (1 + utf8Len (extractBindName tables l)) }
      else { s with i := s.i + 1 } := by
    rw [step, hc, hhead, hnext]
    dsimp only
    rw [if_neg fun h => hquote h.1, if_neg (by simp [hs.inString]), if_neg hdash,
      if_neg (by simp [hs.inLineComment]), if_neg hopen, if_neg (by simp [hs.inComment])]
  have hname : extractBindName tables l ≠ [] → s.i + 1 < chars.length := by
    intro hne
    by_contra hge
    rw [List.drop_eq_nil_iff.mpr (by omega)] at hnext
    rw [← hnext] at hne
    exact hne rfl
  have hiff : (c = ':' ∧ s.i + 1 < chars.length ∧ extractBindName tables l ≠ []) ↔
      (c = ':' ∧ extractBindName tables l ≠ []) :=
    ⟨fun h => ⟨h.1, h.2.2⟩, fun h => ⟨h.1, hname h.2, h.2⟩⟩
  rw [hstep]
  by_cases hret : SeesReturning tables statementType upper s
  · exact Or.inl ⟨hret, if_pos ⟨hret.1, by simp [hret.2.1], hret.2.2⟩⟩
  rw [if_neg fun h => hret ⟨h.1, by simpa using h.2.1, h.2.2⟩]
  by_cases hinto : SeesInto tables upper s
  · exact Or.inr (Or.inl ⟨hinto, if_pos ⟨hinto.1, by simp [hinto.2.1], hinto.2.2⟩⟩)
  rw [if_neg fun h => hinto ⟨h.1, by simpa using h.2.1, h.2.2⟩]
  exact Or.inr (Or.inr ⟨hret, hinto, if_congr hiff rfl rfl⟩)

end BindScan

end OracleRs
