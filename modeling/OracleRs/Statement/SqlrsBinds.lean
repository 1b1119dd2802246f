import OracleRs.Statement.BindNames

set_option relaxedAutoImplicit false
set_option autoImplicit false

/-!
# The bind names of the command-line front end

The front end `sqlrs` has a scan for bind names of its own (`bind_names_for_sql` of `bin/sqlrs.rs`),
for the values that it passes to the driver by position. It knows string literals, but no comments;
it takes ASCII letters, digits, `_`, `$` and `#` directly behind a colon for a name, and keeps
repeated names also of PL/SQL.

## Main definitions

* `OracleRs.SqlrsScan` — the scan of the front end, `OracleRs.bindNamesForSql` — what it finds.
* `OracleRs.SqlrsScannable` — both scans pass over all tokens of a text.

## Main results

* `OracleRs.SqlrsScan.names_collected` — what the front end finds in such a text.
* `OracleRs.bindNamesForSql_eq` — the front end and the driver find the same names.
-/

namespace OracleRs

/-! ## The scan -/

/-- The characters that the front end takes for those of a name. -/
def isSqlrsNameChar (c : Char) : Bool := c.isAlphanum || c = '_' || c = '$' || c = '#'

/-- `normalize_var_name`. -/
def normalizeVarName (name : List Char) : String :=
  String.ofList (((trim (String.ofList name)).toList.dropWhile (· = ':')).map Char.toUpper)

/-- The scan of a text by the front end: the variables of `bind_names_for_sql`. -/
structure SqlrsScan where
  /-- the characters that are left -/
  chars : List Char
  /-- is it in a string literal? -/
  inSingleQuote : Bool := false
  /-- the names found so far -/
  names : List String := []
deriving DecidableEq, Repr

namespace SqlrsScan

/-- One turn of the loop of `bind_names_for_sql`. -/
def step (s : SqlrsScan) : SqlrsScan :=
  match s.chars with
  | [] => s
  | ch :: rest =>
    if ch = '\'' then { s with chars := rest, inSingleQuote := !s.inSingleQuote }
    else if s.inSingleQuote || ch ≠ ':' then { s with chars := rest }
    else
      let name := rest.takeWhile isSqlrsNameChar
      { s with
        chars := rest.dropWhile isSqlrsNameChar
        names := if name = [] then s.names else s.names ++ [normalizeVarName name] }

/-- The names that the scan has found at the end of the text. Every turn takes a character. -/
def collected (s : SqlrsScan) : List String := (step^[s.chars.length] s).names

end SqlrsScan

/-- `bind_names_for_sql`. -/
def bindNamesForSql (sql : String) : List String :=
  SqlrsScan.collected { chars := sql.toList }

namespace SqlrsScan

/-- A turn takes a character, if there is one left. -/
lemma length_step_lt {s : SqlrsScan} (h : s.chars ≠ []) :
    (step s).chars.length < s.chars.length := by
  obtain ⟨c, rest, hchars⟩ := List.exists_cons_of_ne_nil h
  have hdrop : (rest.dropWhile isSqlrsNameChar).length ≤ rest.length :=
    (List.dropWhile_suffix _).length_le
  rw [step, hchars]
  dsimp only
  split_ifs <;> (dsimp only [List.length_cons]; omega)

lemma step_of_nil {s : SqlrsScan} (h : s.chars = []) : step s = s := by
  rw [step, h]

/-- After as many turns as there are characters the scan is at the end. -/
lemma chars_iterate {s : SqlrsScan} {n : ℕ} (h : s.chars.length ≤ n) :
    (step^[n] s).chars = [] := by
  induction n generalizing s with
  | zero => exact List.length_eq_zero_iff.mp (Nat.le_zero.mp h)
  | succ n ih =>
    rw [Function.iterate_succ_apply]
    apply ih
    by_cases hnil : s.chars = []
    · rw [step_of_nil hnil, hnil]
      exact Nat.zero_le n
    · have hlt := length_step_lt hnil
      omega

/-- It stays there. -/
lemma iterate_eq {s : SqlrsScan} {n : ℕ} (h : s.chars.length ≤ n) :
    step^[n] s = step^[s.chars.length] s := by
  obtain ⟨k, rfl⟩ := Nat.exists_eq_add_of_le' h
  rw [Function.iterate_add_apply]
  exact Function.iterate_fixed (step_of_nil (chars_iterate le_rfl)) k

/-- The scan goes on from one turn to the next. -/
lemma collected_step {s s' : SqlrsScan} (h : step s = s') : s.collected = s'.collected := by
  subst h
  by_cases hnil : s.chars = []
  · rw [step_of_nil hnil]
  · have hlt := length_step_lt hnil
    obtain ⟨m, hm⟩ : ∃ m, s.chars.length = m + 1 := Nat.exists_eq_add_one.mpr (by omega)
    rw [collected, collected, hm, Function.iterate_succ_apply, iterate_eq (by omega)]

lemma collected_of_nil {s : SqlrsScan} (h : s.chars = []) : s.collected = s.names := by
  rw [collected, h]
  rfl

/-! ## Tokens -/

/-- The front end takes the characters for the beginning of a literal or of a name. -/
def Begins : List Char → Bool
  | [] => false
  | c :: l => c = '\'' || (c = ':' && l.head?.any isSqlrsNameChar)

/-- Characters in which nothing begins are passed over one by one. -/
lemma collected_of_idle {text : List Char} {names : List String} (n : ℕ) : ∀ {i : ℕ},
    (∀ k < n, Begins (text.drop (i + k)) = false) →
    collected { chars := text.drop i, names := names } =
      collected { chars := text.drop (i + n), names := names } := by
  induction n with
  | zero => exact fun _ => rfl
  | succ n ih =>
    intro i h
    have hnext := ih (i := i + 1) fun k hk => by
      rw [Nat.add_right_comm, Nat.add_assoc]
      exact h (k + 1) (by omega)
    rw [← Nat.add_assoc, Nat.add_right_comm, ← hnext]
    have hbegin := h 0 (Nat.succ_pos n)
    rw [Nat.add_zero] at hbegin
    cases hl : text.drop i with
    | nil =>
      have hnil : text.drop (i + 1) = [] := by
        rw [← List.drop_drop, hl, List.drop_nil]
      rw [hnil]
    | cons c l =>
      rw [hl] at hbegin
      obtain ⟨hquote, hname⟩ : c ≠ '\'' ∧ (c = ':' → l.head?.any isSqlrsNameChar = false) := by
        simpa [Begins] using hbegin
      have htail : text.drop (i + 1) = l := by rw [← List.tail_drop, hl, List.tail_cons]
      have hstep : step { chars := c :: l, names := names } = { chars := l, names := names } := by
        rw [step]
        dsimp only
        rw [if_neg hquote]
        by_cases hcolon : c = ':'
        · rw [if_neg (by simp [hcolon])]
          cases l with
          | nil => rfl
          | cons d l =>
            have hd : isSqlrsNameChar d = false := by simpa using hname hcolon
            simp [hd]
        · rw [if_pos (by simp [hcolon])]
      rw [collected_step hstep, htail]

/-- A string literal is passed over up to its end. -/
lemma collected_of_inSingleQuote (l : List Char) (names : List String) :
    collected { chars := l, inSingleQuote := true, names := names } =
      collected { chars := l.drop ((l.takeWhile (· ≠ '\'')).length + 1), names := names } := by
  induction l with
  | nil => rfl
  | cons c l ih =>
    by_cases hquote : c = '\''
    · subst hquote
      exact collected_step rfl
    · have hstep : step { chars := c :: l, inSingleQuote := true, names := names } =
          { chars := l, inSingleQuote := true, names := names } := by
        rw [step]
        dsimp only
        rw [if_neg hquote, if_pos (by simp)]
      rw [collected_step hstep, ih]
      simp [hquote]

/-- A name behind a colon is taken. -/
lemma collected_of_name {l : List Char} (names : List String)
    (hname : l.takeWhile isSqlrsNameChar ≠ []) :
    collected { chars := ':' :: l, names := names } = collected
      { chars := l.drop (l.takeWhile isSqlrsNameChar).length
        names := names ++ [normalizeVarName (l.takeWhile isSqlrsNameChar)] } := by
  have hdrop : (l.takeWhile isSqlrsNameChar ++ l.dropWhile isSqlrsNameChar).drop
      (l.takeWhile isSqlrsNameChar).length = l.dropWhile isSqlrsNameChar := List.drop_left
  rw [List.takeWhile_append_dropWhile] at hdrop
  refine collected_step ?_
  rw [step]
  dsimp only
  rw [if_neg (by decide), if_neg (by simp), if_neg hname, hdrop]

end SqlrsScan

/-! ## Both scans -/

/-- Both scans pass over all tokens of the text, quoted identifiers aside, and see the same names: the
front end sees nothing in comments, and nothing in single characters; it reads every placeholder as
the driver does; and in PL/SQL no name is repeated. -/
structure SqlrsScannable (tables : CharTables) (statementType : StatementType) (text : List Char) :
    Prop where
  /-- the driver passes over all tokens -/
  scannable : Scannable tables false statementType text
  /-- the front end sees nothing in comments and single characters -/
  idle : ∀ t ∈ tokens tables false text,
    t.2 ∈ [Token.lineComment, Token.blockComment, Token.character] →
      ∀ k < (token tables false (text.drop t.1)).2,
        SqlrsScan.Begins (text.drop (t.1 + k)) = false
  /-- a placeholder is a name directly behind its colon that both read alike -/
  placeholder : ∀ t ∈ tokens tables false text, ∀ name ∈ t.2.name?,
    (text.drop (t.1 + 1)).takeWhile isSqlrsNameChar ≠ [] ∧
      1 + ((text.drop (t.1 + 1)).takeWhile isSqlrsNameChar).length =
        (token tables false (text.drop t.1)).2 ∧
      normalizeVarName ((text.drop (t.1 + 1)).takeWhile isSqlrsNameChar) = String.ofList name
  /-- PL/SQL does not repeat a name -/
  nodup : statementType = .plSql → (placeholderNames (tokens tables false text)).Nodup

namespace SqlrsScan

variable {tables : CharTables} {statementType : StatementType} {text : List Char}

/-- The front end finds the placeholders from a position on. -/
lemma names_collected (hscan : SqlrsScannable tables statementType text) (n : ℕ) :
    ∀ {i : ℕ} (names : List String), text.length ≤ i + n →
      tokensFrom tables false text n i ⊆ tokens tables false text →
      collected { chars := text.drop i, names := names } =
        names ++ placeholderNames (tokensFrom tables false text n i) := by
  induction n with
  | zero =>
    intro i names hlen _
    rw [collected_of_nil (List.drop_eq_nil_iff.mpr hlen)]
    simp [tokensFrom, placeholderNames]
  | succ n ih =>
    intro i names hlen hsub
    by_cases hend : text.length ≤ i
    · rw [collected_of_nil (List.drop_eq_nil_iff.mpr hend), tokensFrom, if_pos hend]
      simp [placeholderNames]
    rw [tokensFrom, if_neg hend] at hsub ⊢
    obtain ⟨hmem, hrest⟩ := List.cons_subset.mp hsub
    have hidle := hscan.idle _ hmem
    have hname := hscan.placeholder _ hmem
    have hpos := @length_token_pos tables false (text.drop i)
    have hgo (names : List String) := ih (i := i + (token tables false (text.drop i)).2) names
      (by omega) hrest
    dsimp only at hidle hname
    -- a token without a placeholder
    have hnone (h : (token tables false (text.drop i)).1.name? = none) :
        names ++ placeholderNames ((i, (token tables false (text.drop i)).1) ::
          tokensFrom tables false text n (i + (token tables false (text.drop i)).2)) =
        names ++ placeholderNames
          (tokensFrom tables false text n (i + (token tables false (text.drop i)).2)) := by
      simp [placeholderNames, h]
    have htoken := @tokenAt_token tables false (text.drop i)
    generalize hlen : (token tables false (text.drop i)).2 = len at *
    generalize hkind : (token tables false (text.drop i)).1 = kind at *
    generalize hl : text.drop i = l at htoken
    cases htoken with
    | string l =>
      have hdrop : text.drop (i + ((l.takeWhile (· ≠ '\'')).length + 2)) =
          l.drop ((l.takeWhile (· ≠ '\'')).length + 1) := by
        rw [← List.drop_drop, hl]
        rfl
      rw [hnone rfl, ← hgo names, hdrop, ← collected_of_inSingleQuote]
      exact collected_step rfl
    | lineComment l =>
      rw [hnone rfl, ← hgo names, ← hl]
      exact collected_of_idle _ (hidle (by simp))
    | blockComment body rest hbody hclose =>
      rw [hnone rfl, ← hgo names, ← hl]
      exact collected_of_idle _ (hidle (by simp))
    | openComment l hclose =>
      rw [hnone rfl, ← hgo names, ← hl]
      exact collected_of_idle _ (hidle (by simp))
    | quotedIdentifier l hident => cases hident
    | character l hbegins =>
      rw [hnone rfl, ← hgo names, ← hl]
      exact collected_of_idle _ (hidle (by simp))
    | placeholder l name m hextract hne =>
      have htail : text.drop (i + 1) = l := by rw [← List.tail_drop, hl, List.tail_cons]
      obtain ⟨hword, hlength, hnormal⟩ := hname name rfl
      rw [htail] at hword hlength hnormal
      have hdrop : text.drop (i + (m + 1)) = l.drop (l.takeWhile isSqlrsNameChar).length := by
        rw [← hlength, ← Nat.add_assoc, ← List.drop_drop, htail]
      rw [collected_of_name names hword, ← hdrop, hgo, hnormal]
      simp [placeholderNames, Token.name?]

end SqlrsScan

private lemma eraseDups_of_nodup {names : List String} (h : names.Nodup) :
    names.eraseDups = names := by
  induction names with
  | nil => rfl
  | cons name names ih =>
    obtain ⟨hmem, hnodup⟩ := List.nodup_cons.mp h
    have hfilter : names.filter (fun x => !x == name) = names :=
      List.filter_eq_self.mpr fun x hx => by simpa using ne_of_mem_of_not_mem hx hmem
    rw [List.eraseDups_cons, hfilter, ih hnodup]

/-- For a text other than DDL that both scans pass over, the front end finds the bind names of the
statement. -/
theorem bindNamesForSql_eq (tables : CharTables) (sql : String)
    (hddl : (Statement.new tables sql).statementType ≠ .ddl)
    (hscan : SqlrsScannable tables (StatementType.ofText tables sql.toList) sql.toList) :
    bindNamesForSql sql = (Statement.new tables sql).bindInfo.map (·.name) := by
  have hcollected := SqlrsScan.names_collected hscan sql.toList.length (i := 0) []
    (by omega) (List.Subset.refl _)
  rw [Statement.names_new tables false sql hddl hscan.scannable, bindNamesForSql]
  refine hcollected.trans ?_
  rw [List.nil_append, bindNames]
  split_ifs with hplsql
  · exact (eraseDups_of_nodup (hscan.nodup hplsql)).symm
  · rfl

/-- An anonymous block whose names both scans find. -/
theorem bindNamesForSql_block :
    bindNamesForSql "BEGIN P(:A, ':X', :B); END;" =
      (Statement.new .ascii "BEGIN P(:A, ':X', :B); END;").bindInfo.map (·.name) :=
  bindNamesForSql_eq .ascii _ (by decide +kernel)
    ⟨⟨by decide +kernel, nofun⟩, by decide +kernel, by decide +kernel, by decide +kernel⟩

/-- The front end keeps a repeated name of PL/SQL, the driver does not. -/
theorem not_bindNamesForSql_eq : ¬∀ (tables : CharTables) (sql : String),
    (Statement.new tables sql).statementType ≠ .ddl →
      bindNamesForSql sql = (Statement.new tables sql).bindInfo.map (·.name) := by
  intro hall
  have hlength := congrArg List.length (hall .ascii "BEGIN :X := :X + 1; END;" (by decide +kernel))
  exact absurd hlength (by decide +kernel)

end OracleRs
