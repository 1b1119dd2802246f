import OracleRs.Statement.SqlLexer

set_option relaxedAutoImplicit false
set_option autoImplicit false

/-!
# The bind names of a statement

The scan of a statement against the tokens of its text. The scan knows no quoted identifiers, takes
`--` and `/*` within a block comment for the beginning of a comment, and goes on behind a placeholder
by the length of its name in bytes, wherever that is. So it finds the placeholders of the text if it
happens to pass over these tokens whole.

## Main definitions

* `OracleRs.Passed` — the scan passes over a token as a whole.
* `OracleRs.Scannable` — it does so for all tokens of a text.
* `OracleRs.bindNames` — the bind names that a statement of some kind should have.

## Main results

* `OracleRs.names_found` — what the scan finds in a scannable text.
* `OracleRs.bindInfo_new_of_scannable` — the bind names of a statement with such a text.
-/

namespace OracleRs

open BindScan (Begins Closes Clean SeesReturning SeesInto addBind found found_of_le found_step
  found_of_quote found_of_dashes found_of_open found_of_open_noClose of_begins_eq_false step_of_clean)

/-- The keywords that the scan looks for. -/
def keywords : List (List Char) := ["RETURNING".toList, "INTO".toList]

variable {tables : CharTables} {identifiers : Bool}

/-- The scan passes over the token at the front of the characters as a whole. -/
structure Passed (tables : CharTables) (identifiers : Bool) (l : List Char) : Prop where
  /-- nothing in a quoted identifier is taken for a literal, a comment or a placeholder -/
  quotedIdentifier : (token tables identifiers l).1 = .quotedIdentifier →
    ∀ k < (token tables identifiers l).2, Begins tables (l.drop k) = false
  /-- the end of a block comment is found -/
  blockComment : (token tables identifiers l).1 = .blockComment →
    ∀ body ∈ commentBody (l.drop 2), Closes body
  /-- nothing in a placeholder behind the place where the scan goes on is taken for one of these -/
  placeholder_le : ∀ name ∈ (token tables identifiers l).1.name?,
    ∀ k < (token tables identifiers l).2, 1 + utf8Len name ≤ k → Begins tables (l.drop k) = false
  /-- nothing but single characters is between a placeholder and the place where the scan goes on -/
  le_placeholder : ∀ name ∈ (token tables identifiers l).1.name?,
    ∀ k < 1 + utf8Len name, (token tables identifiers l).2 ≤ k →
      (token tables identifiers (l.drop k)).1 = .character

/-- Where the text in upper case has the keyword, the text itself has it, in any case. -/
def InPlace (tables : CharTables) (text : List Char) (i : ℕ) (keyword : List Char) : Prop :=
  matchKeyword tables (tables.upper text) i keyword →
    ((text.drop i).take keyword.length).map tables.toUppercase = keyword.map fun c => [c]

instance : DecidablePred (Passed tables identifiers) := fun l =>
  decidable_of_iff
    (((token tables identifiers l).1 = .quotedIdentifier →
        ∀ k < (token tables identifiers l).2, Begins tables (l.drop k) = false) ∧
      ((token tables identifiers l).1 = .blockComment →
        ∀ body ∈ commentBody (l.drop 2), Closes body) ∧
      (∀ name ∈ (token tables identifiers l).1.name?, ∀ k < (token tables identifiers l).2,
        1 + utf8Len name ≤ k → Begins tables (l.drop k) = false) ∧
      ∀ name ∈ (token tables identifiers l).1.name?, ∀ k < 1 + utf8Len name,
        (token tables identifiers l).2 ≤ k →
          (token tables identifiers (l.drop k)).1 = .character)
    ⟨fun h => ⟨h.1, h.2.1, h.2.2.1, h.2.2.2⟩, fun h => ⟨h.1, h.2, h.3, h.4⟩⟩

/-- The scan passes over all tokens of the text, and finds the keywords in their place. -/
structure Scannable (tables : CharTables) (identifiers : Bool) (statementType : StatementType)
    (text : List Char) : Prop where
  /-- all tokens are passed over -/
  passed : ∀ t ∈ tokens tables identifiers text, Passed tables identifiers (text.drop t.1)
  /-- the keywords are in their place -/
  inPlace : statementType = .dml → ∀ i, ∀ keyword ∈ keywords, InPlace tables text i keyword

/-- The bind names for some placeholders: PL/SQL has each name once. -/
def bindNames (statementType : StatementType) (names : List String) : List String :=
  if statementType = .plSql then names.eraseDups else names

/-! ## Names -/

/-- The names with one more. -/
def addName (statementType : StatementType) (names : List String) (name : String) : List String :=
  if statementType = .plSql ∧ name ∈ names then names else names ++ [name]

lemma map_name_addBind (statementType : StatementType) (binds : List BindInfo) (bind : BindInfo) :
    (addBind statementType binds bind).map (·.name) =
      addName statementType (binds.map (·.name)) bind.name := by
  have hany : binds.any (·.name = bind.name) = true ↔ bind.name ∈ binds.map (·.name) := by
    simp
  rw [addBind, addName]
  by_cases h : statementType = .plSql ∧ bind.name ∈ binds.map (·.name)
  · rw [if_pos h, if_pos (by simpa [h.1] using h.2)]
  · rw [if_neg h, if_neg (by simpa [← hany] using h), List.map_append]
    rfl

lemma foldl_addName_plSql (names : List String) : ∀ acc : List String,
    names.foldl (addName .plSql) acc = acc ++ (names.filter (· ∉ acc)).eraseDups := by
  induction names with
  | nil => simp
  | cons name names ih =>
    intro acc
    rw [List.foldl_cons, ih]
    by_cases hmem : name ∈ acc
    · rw [addName, if_pos ⟨rfl, hmem⟩, List.filter_cons_of_neg (by simpa using hmem)]
    · rw [addName, if_neg fun h => hmem h.2, List.filter_cons_of_pos (by simpa using hmem),
        List.eraseDups_cons, List.filter_filter, List.append_assoc, List.singleton_append]
      refine congrArg (fun l => acc ++ name :: l.eraseDups) (List.filter_congr fun x _ => ?_)
      by_cases hx : x = name <;> simp [hx]

/-- Adding names one by one. -/
lemma foldl_addName (statementType : StatementType) (names : List String) :
    names.foldl (addName statementType) [] = bindNames statementType names := by
  by_cases hplsql : statementType = .plSql
  · rw [bindNames, if_pos hplsql, hplsql, foldl_addName_plSql]
    simp
  · have hadd : addName statementType = fun names name => names ++ [name] := by
      funext names name
      exact if_neg fun h => hplsql h.1
    rw [bindNames, if_neg hplsql, hadd]
    rw [List.foldl_append_eq_append, List.nil_append, ← List.flatMap_def, List.flatMap_singleton']

/-! ## The scan from token to token -/

section Scan

variable {statementType : StatementType} {text : List Char} {s : BindScan}

/-- Where a keyword is in its place there are single characters. -/
lemma character_of_inPlace {i : ℕ} {keyword : List Char} (hkeyword : keyword ∈ keywords)
    (h : ((text.drop i).take keyword.length).map tables.toUppercase = keyword.map fun c => [c])
    {k : ℕ} (hk : k < keyword.length) :
    (token tables identifiers (text.drop (i + k))).1 = .character := by
  have hget : ((text.drop i)[k]?).map tables.toUppercase = some [keyword[k]] := by
    have hmap := congrArg (·[k]?) h
    simpa [List.getElem?_take_of_lt hk, List.getElem?_eq_getElem hk] using hmap
  rw [← List.drop_drop]
  cases hdrop : (text.drop i).drop k with
  | nil => rfl
  | cons c l =>
    have hc : tables.toUppercase c = [keyword[k]] := by
      rw [← List.head?_drop, hdrop] at hget
      simpa using hget
    have hletter : keyword[k].isUpper := by
      have hall : ∀ keyword ∈ keywords, keyword.all Char.isUpper := by decide
      exact List.all_eq_true.mp (hall keyword hkeyword) _ (List.getElem_mem hk)
    have hne : ∀ x : Char, x.toNat < 128 → x.toUpper.isUpper = false → c ≠ x := by
      rintro x hx hupper rfl
      rw [tables.toUppercase_ascii c hx] at hc
      rw [List.singleton_inj.mp hc, hletter] at hupper
      cases hupper
    rw [token_of_character (hne _ (by decide) (by decide)) (hne _ (by decide) (by decide))
      (hne _ (by decide) (by decide)) (hne _ (by decide) (by decide))
      (hne _ (by decide) (by decide))]

/-- The scan outside of literals and comments, at a position or some single characters behind it. -/
structure At (tables : CharTables) (identifiers : Bool) (statementType : StatementType)
    (text : List Char) (j : ℕ) (s : BindScan) : Prop where
  /-- outside of literals and comments -/
  clean : s.Clean
  /-- not in front of the position -/
  le : j ≤ s.i
  /-- between them there are single characters -/
  character : ∀ k, j ≤ k → k < s.i → (token tables identifiers (text.drop k)).1 = .character
  /-- RETURNING is looked for in DML only -/
  dml : s.returningFound = true → statementType = .dml

/-- The scan passes over characters in which nothing begins; it may find keywords. -/
lemma exists_at_of_idle
    (hplace : statementType = .dml → ∀ i, ∀ keyword ∈ keywords, InPlace tables text i keyword)
    {j : ℕ} (hj : s.i ≤ j) (hs : s.Clean) (hdml : s.returningFound = true → statementType = .dml)
    (hidle : ∀ k, s.i ≤ k → k < j → Begins tables (text.drop k) = false) :
    ∃ s', found tables statementType text (tables.upper text) s =
        found tables statementType text (tables.upper text) s' ∧
      s'.bindInfoList = s.bindInfoList ∧ At tables identifiers statementType text j s' := by
  induction hn : j - s.i using Nat.strong_induction_on generalizing s with
  | _ n ih =>
  by_cases heq : s.i = j
  · exact ⟨s, rfl, rfl, hs, heq.ge, by omega, hdml⟩
  cases hl : text.drop s.i with
  | nil =>
    have hle := List.drop_eq_nil_iff.mp hl
    refine ⟨{ s with i := j }, ?_, rfl, ⟨hs.1, hs.2, hs.3⟩, le_rfl, by dsimp only; omega, hdml⟩
    rw [found_of_le hle, found_of_le (hle.trans hj)]
  | cons c l =>
    have hbegin := hidle s.i le_rfl (by omega)
    rw [hl] at hbegin
    obtain ⟨hquote, hdash, hopen, hname⟩ := of_begins_eq_false hbegin
    -- behind a keyword the scan is in the characters, or ahead of them by single characters
    have hkeyword {s₁ : BindScan} {keyword : List Char} (hmem : keyword ∈ keywords)
        (hmatch : matchKeyword tables (tables.upper text) s.i keyword)
        (hi : s₁.i = s.i + keyword.length) (hclean : s₁.Clean) (htype : statementType = .dml) :
        ∃ s', found tables statementType text (tables.upper text) s₁ =
            found tables statementType text (tables.upper text) s' ∧
          s'.bindInfoList = s₁.bindInfoList ∧ At tables identifiers statementType text j s' := by
      have hpos : 0 < keyword.length := by
        have hall : ∀ keyword ∈ keywords, 0 < keyword.length := by decide
        exact hall keyword hmem
      by_cases hle : s₁.i ≤ j
      · exact ih (j - s₁.i) (by omega) hle hclean (fun _ => htype)
          (fun k hk => hidle k (by omega)) rfl
      · refine ⟨s₁, rfl, rfl, hclean, by omega, fun k hk hlt => ?_, fun _ => htype⟩
        obtain ⟨m, rfl⟩ := Nat.exists_eq_add_of_le (hj.trans hk)
        exact character_of_inPlace hmem (hplace htype s.i keyword hmem hmatch) (by omega)
    obtain ⟨hsees, hstep⟩ | ⟨hsees, hstep⟩ | ⟨-, -, hstep⟩ :=
      @step_of_clean tables statementType text (tables.upper text) s _ _ hs hl hquote hdash hopen
    · rw [found_step hstep]
      exact hkeyword (by decide) hsees.2.2 rfl ⟨hs.1, hs.2, hs.3⟩ hsees.1
    · rw [found_step hstep]
      exact hkeyword (by decide) hsees.2.2 rfl ⟨hs.1, hs.2, hs.3⟩ (hdml hsees.1)
    · rw [if_neg hname] at hstep
      rw [found_step hstep]
      exact ih (j - (s.i + 1)) (by omega) (s := { s with i := s.i + 1 }) (by dsimp only; omega)
        ⟨hs.1, hs.2, hs.3⟩ hdml (fun k hk => hidle k (by dsimp only at hk; omega)) rfl

/-- The length of a text, by its characters from an index on. -/
lemma length_of_drop {i : ℕ} {c d : Char} {l : List Char} (h : text.drop i = c :: d :: l) :
    text.length = i + (l.length + 2) := by
  have hlt : i < text.length := by
    by_contra hge
    rw [List.drop_eq_nil_iff.mpr (by omega)] at h
    cases h
  have hlength := congrArg List.length h
  simp only [List.length_drop, List.length_cons] at hlength
  omega

/-- The scan passes over the token in front of it as a whole, or goes ahead of it by single
characters. If it is a placeholder, the scan takes its name. -/
lemma exists_at_of_passed
    (hplace : statementType = .dml → ∀ i, ∀ keyword ∈ keywords, InPlace tables text i keyword)
    (hs : s.Clean) (hdml : s.returningFound = true → statementType = .dml)
    (hpassed : Passed tables identifiers (text.drop s.i)) :
    ∃ s', found tables statementType text (tables.upper text) s =
        found tables statementType text (tables.upper text) s' ∧
      s'.bindInfoList.map (·.name) =
        (placeholderNames [(s.i, (token tables identifiers (text.drop s.i)).1)]).foldl
          (addName statementType) (s.bindInfoList.map (·.name)) ∧
      At tables identifiers statementType text
        (s.i + (token tables identifiers (text.drop s.i)).2) s' := by
  -- behind a literal or comment the scan is as it was in front of it
  have hat (n : ℕ) : At tables identifiers statementType text (s.i + n) { s with i := s.i + n } :=
    ⟨⟨hs.1, hs.2, hs.3⟩, le_rfl, by dsimp only; omega, hdml⟩
  have htoken := @tokenAt_token tables identifiers (text.drop s.i)
  generalize hn : (token tables identifiers (text.drop s.i)).2 = n at htoken ⊢
  generalize hkind : (token tables identifiers (text.drop s.i)).1 = kind at htoken ⊢
  generalize hl : text.drop s.i = l at htoken
  cases htoken with
  | string l => exact ⟨_, found_of_quote hs hl, rfl, hat _⟩
  | lineComment l => exact ⟨_, found_of_dashes hs hl, rfl, hat _⟩
  | blockComment body rest hbody hclose =>
    have hcloses : Closes body := hpassed.blockComment hkind body (by rw [hl]; exact hbody)
    exact ⟨_, found_of_open hs hl hclose hcloses, rfl, hat _⟩
  | openComment l hclose =>
    refine ⟨{ s with i := s.i + (l.length + 2) }, ?_, rfl, hat _⟩
    rw [found_of_open_noClose hs hl hclose, found_of_le (length_of_drop hl).le]
  | quotedIdentifier l _ =>
    have hidle := hpassed.quotedIdentifier hkind
    rw [hn] at hidle
    obtain ⟨s', hfound, hbinds, hat'⟩ := exists_at_of_idle hplace (Nat.le_add_right s.i _) hs hdml
      fun k hk hlt => by
        obtain ⟨m, rfl⟩ := Nat.exists_eq_add_of_le hk
        rw [← List.drop_drop]
        exact hidle m (Nat.lt_of_add_lt_add_left hlt)
    exact ⟨s', hfound, by rw [hbinds]; rfl, hat'⟩
  | character l hbegins =>
    obtain ⟨s', hfound, hbinds, hat'⟩ := exists_at_of_idle hplace (Nat.le_add_right s.i 1) hs hdml
      fun k hk hlt => by
        obtain rfl : k = s.i := by omega
        rw [hl]
        exact hbegins
    exact ⟨s', hfound, by rw [hbinds]; rfl, hat'⟩
  | placeholder l name n hname hne =>
    -- no keyword stands at a colon
    have hno {keyword : List Char} (hmem : keyword ∈ keywords) (htype : statementType = .dml) :
        ¬ matchKeyword tables (tables.upper text) s.i keyword := by
      intro hmatch
      have hpos : 0 < keyword.length := by
        have hall : ∀ keyword ∈ keywords, 0 < keyword.length := by decide
        exact hall keyword hmem
      have hchar := @character_of_inPlace tables identifiers _ _ _ hmem
        (hplace htype s.i keyword hmem hmatch) _ hpos
      rw [Nat.add_zero, hkind] at hchar
      cases hchar
    have hlt := hpassed.placeholder_le name (by rw [hkind]; rfl)
    have hle := hpassed.le_placeholder name (by rw [hkind]; rfl)
    rw [hn] at hlt hle
    obtain ⟨hsees, -⟩ | ⟨hsees, -⟩ | ⟨-, -, hstep⟩ :=
      @step_of_clean tables statementType text (tables.upper text) s _ _ hs hl (by decide) (by simp) (by simp)
    · exact absurd hsees.2.2 (hno (by decide) hsees.1)
    · exact absurd hsees.2.2 (hno (by decide) (hdml hsees.1))
    rw [hname, if_pos ⟨rfl, hne⟩] at hstep
    rw [found_step hstep]
    by_cases hahead : 1 + utf8Len name ≤ n + 1
    · obtain ⟨s', hfound, hbinds, hat'⟩ := exists_at_of_idle hplace (j := s.i + (n + 1))
        (s := { s with
          bindInfoList := addBind statementType s.bindInfoList ⟨String.ofList name, s.intoFound⟩
          i := s.i + (1 + utf8Len name) })
        (Nat.add_le_add_left hahead s.i) ⟨hs.1, hs.2, hs.3⟩ hdml fun k hk hkn => by
          dsimp only at hk
          obtain ⟨m, rfl⟩ := Nat.exists_eq_add_of_le hk
          rw [Nat.add_assoc, ← List.drop_drop]
          exact hlt _ (by omega) (Nat.le_add_right _ m)
      exact ⟨s', hfound, by rw [hbinds, map_name_addBind]; rfl, hat'⟩
    · refine ⟨_, rfl, map_name_addBind _ _ _, ⟨hs.1, hs.2, hs.3⟩, ?_, fun k hk hkn => ?_, hdml⟩
      · dsimp only
        omega
      · dsimp only at hkn
        obtain ⟨m, rfl⟩ := Nat.exists_eq_add_of_le hk
        rw [Nat.add_assoc, ← List.drop_drop]
        exact hle _ (by omega) (Nat.le_add_right _ m)

/-- What the scan finds from a position on: the names of the tokens there. -/
lemma names_found
    (hplace : statementType = .dml → ∀ i, ∀ keyword ∈ keywords, InPlace tables text i keyword)
    (n : ℕ) : ∀ {j : ℕ} {s : BindScan}, text.length ≤ j + n →
    At tables identifiers statementType text j s →
    (∀ t ∈ tokensFrom tables identifiers text n j, Passed tables identifiers (text.drop t.1)) →
    (found tables statementType text (tables.upper text) s).1.map (·.name) =
      (placeholderNames (tokensFrom tables identifiers text n j)).foldl (addName statementType)
        (s.bindInfoList.map (·.name)) := by
  induction n with
  | zero =>
    intro j s hlen hat _
    rw [found_of_le (hlen.trans hat.le)]
    rfl
  | succ n ih =>
    intro j s hlen hat hpassed
    by_cases hend : text.length ≤ j
    · rw [found_of_le (hend.trans hat.le), tokensFrom, if_pos hend]
      rfl
    rw [tokensFrom, if_neg hend] at hpassed ⊢
    by_cases hahead : j < s.i
    · -- the scan is ahead of the token, which is a single character
      have hchar := token_eq_of_character (hat.character j le_rfl hahead)
      rw [hchar] at hpassed ⊢
      exact ih (by omega) ⟨hat.clean, hahead, fun k hk => hat.character k (by omega), hat.dml⟩
        fun t ht => hpassed t (List.mem_cons_of_mem _ ht)
    · obtain rfl : j = s.i := le_antisymm hat.le (by omega)
      obtain ⟨s', hfound, hbinds, hat'⟩ := exists_at_of_passed hplace hat.clean hat.dml
        (hpassed _ List.mem_cons_self)
      have hpos := @length_token_pos tables identifiers (text.drop s.i)
      rw [hfound, ih (by omega) hat' fun t ht => hpassed t (List.mem_cons_of_mem _ ht), hbinds,
        ← List.foldl_append]
      rw [placeholderNames, placeholderNames, ← List.filterMap_append]
      rfl

end Scan

/-! ## Statements -/

namespace Statement

/-- The bind names that a statement should have: those of the placeholders of its text. -/
def expectedNames (tables : CharTables) (sql : String) : List String :=
  bindNames (StatementType.ofText tables sql.toList)
    (placeholderNames (tokens tables true sql.toList))

/-- The names of the placeholders of a scannable text. -/
lemma names_new (tables : CharTables) (identifiers : Bool) (sql : String)
    (hddl : (new tables sql).statementType ≠ .ddl)
    (hscan : Scannable tables identifiers (StatementType.ofText tables sql.toList) sql.toList) :
    (new tables sql).bindInfo.map (·.name) = bindNames (StatementType.ofText tables sql.toList)
      (placeholderNames (tokens tables identifiers sql.toList)) := by
  have htype : StatementType.ofText tables sql.toList ≠ .ddl := by
    intro h
    exact hddl (by rw [new, if_pos h]; exact h)
  rw [← foldl_addName, new, if_neg htype]
  exact names_found hscan.inPlace sql.toList.length (by omega)
    ⟨⟨rfl, rfl, rfl⟩, le_rfl, by dsimp only; omega, nofun⟩ hscan.passed

end Statement

end OracleRs
