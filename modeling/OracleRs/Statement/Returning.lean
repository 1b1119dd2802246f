import OracleRs.Statement.BindNames

set_option relaxedAutoImplicit false
set_option autoImplicit false

/-!
# RETURNING INTO

Which DML statements the scan takes for RETURNING statements, and which of their placeholders for
return binds. The scan compares with RETURNING and INTO in the upper-cased copy of the text, and only
letters and digits next to them keep it from taking them for keywords; so parts of identifiers such as
`returning_id` pass for keywords, and a keyword is missed or found elsewhere where the copy is not as
long as the text.

## Main definitions

* `OracleRs.KeywordToken`, `OracleRs.ReturningIntoBefore` — the keywords RETURNING and INTO outside
  of literals, quoted identifiers and comments.
* `OracleRs.LookedFor` — the keyword that is looked for at a position.
* `OracleRs.Statement.ReturningExact` — the statement is found to be what its tokens say.
* `OracleRs.ReturningScannable` — the scan passes over all tokens of a text, and sees its keywords.

## Main results

* `OracleRs.exists_found` — from any position on, the scan finds what the tokens there say.
* `OracleRs.Statement.returningExact_of_scannable` — a statement is found to be what its tokens say.
-/

namespace OracleRs

open BindScan (Begins Closes Clean SeesReturning SeesInto addBind found found_of_le found_step
  found_of_quote found_of_dashes found_of_open found_of_open_noClose of_begins_eq_false step_of_clean)

/-! ## Keywords as tokens -/

section Reference

variable (tables : CharTables) (text : List Char)

/-- The keyword stands at the position, outside of literals, quoted identifiers and comments. -/
def KeywordToken (i : ℕ) (keyword : List Char) : Prop :=
  (i, Token.character) ∈ tokens tables true text ∧ keywordAt tables text i keyword = true

/-- RETURNING stands in front of the position. -/
def ReturningBefore (j : ℕ) : Prop := ∃ i < j, KeywordToken tables text i "RETURNING".toList

/-- RETURNING, and INTO behind it, stand in front of the position. -/
def ReturningIntoBefore (j : ℕ) : Prop :=
  ∃ i < j, ReturningBefore tables text i ∧ KeywordToken tables text i "INTO".toList

/-- The placeholders among some tokens with their positions. -/
def placeholdersOf (l : List (ℕ × Token)) : List (ℕ × List Char) :=
  l.filterMap fun t => t.2.name?.map fun name => (t.1, name)

/-- The keyword is looked for at the position: RETURNING if it does not stand in front of it, and
behind RETURNING then INTO. -/
def LookedFor (j : ℕ) (keyword : List Char) : Prop :=
  (keyword = "RETURNING".toList ∧ ¬ ReturningBefore tables text j) ∨
    (keyword = "INTO".toList ∧ ReturningBefore tables text j ∧ ¬ ReturningIntoBefore tables text j)

/-- The scan looks for keywords at a character of a token: at single characters, in quoted
identifiers, at the colon of a placeholder, and in what it reads again of the placeholder. -/
def Token.looksAt : Token → ℕ → Bool
  | .character, _ | .quotedIdentifier, _ => true
  | .placeholder name, k => k = 0 || 1 + utf8Len name ≤ k
  | _, _ => false

/-- The scan passes over all tokens of the text, and sees its keywords and no others. -/
structure ReturningScannable : Prop where
  /-- all tokens are passed over -/
  passed : ∀ t ∈ tokens tables true text, Passed tables true (text.drop t.1)
  /-- where the scan looks for a keyword it finds it if it is there as a token -/
  keyword : ∀ t ∈ tokens tables true text, ∀ k < (token tables true (text.drop t.1)).2,
    t.2.looksAt k = true → ∀ keyword, LookedFor tables text t.1 keyword →
      matchKeyword tables (tables.upper text) (t.1 + k) keyword =
        (t.2 = .character && keywordAt tables text (t.1 + k) keyword)
  /-- no such keyword is skipped behind a placeholder -/
  ahead : ∀ t ∈ tokens tables true text, ∀ name ∈ t.2.name?, ∀ k < 1 + utf8Len name,
    (token tables true (text.drop t.1)).2 ≤ k → ∀ keyword, LookedFor tables text t.1 keyword →
      keywordAt tables text (t.1 + k) keyword = false

end Reference

variable {tables : CharTables} {text : List Char}

lemma LookedFor.mem_keywords {j : ℕ} {keyword : List Char} (h : LookedFor tables text j keyword) :
    keyword ∈ keywords := by
  rcases h with ⟨rfl, -⟩ | ⟨rfl, -⟩ <;> decide

/-- The characters of a keyword. -/
lemma getElem?_of_keywordAt {i : ℕ} {keyword : List Char}
    (h : keywordAt tables text i keyword = true) {k : ℕ} (hk : k < keyword.length) :
    ∃ c, text[i + k]? = some c ∧ c.toUpper = keyword[k] := by
  simp only [keywordAt, Bool.and_eq_true, decide_eq_true_eq] at h
  have hget : ((text.drop i)[k]?).map Char.toUpper = some keyword[k] := by
    have hmap := congrArg (·[k]?) h.1.1
    simpa [List.getElem?_take_of_lt hk, List.getElem?_eq_getElem hk] using hmap
  rw [List.getElem?_drop] at hget
  exact Option.map_eq_some_iff.mp hget

private lemma isAlpha_of_isUpper_toUpper {c : Char} (h : c.toUpper.isUpper = true) :
    c.isAlpha = true := by
  have halpha : c.isAlpha = (c.isUpper || c.isLower) := rfl
  by_cases hlower : c.isLower = true
  · rw [halpha, hlower, Bool.or_true]
  · have heq : c.toUpper = c := dif_neg fun hle => hlower (by
      show (decide (c.val ≥ 97) && decide (c.val ≤ 122)) = true
      simpa using hle)
    rw [heq] at h
    rw [halpha, h, Bool.true_or]

/-- They are letters. -/
lemma isAlpha_of_keywordAt {i : ℕ} {keyword : List Char} (hmem : keyword ∈ keywords)
    (h : keywordAt tables text i keyword = true) {k : ℕ} (hk : k < keyword.length) :
    ∃ c, text[i + k]? = some c ∧ c.isAlpha = true := by
  obtain ⟨c, hc, hupper⟩ := getElem?_of_keywordAt h hk
  refine ⟨c, hc, ?_⟩
  have hall : ∀ keyword ∈ keywords, keyword.all Char.isUpper := by decide
  have hletter := List.all_eq_true.mp (hall keyword hmem) _ (List.getElem_mem hk)
  exact isAlpha_of_isUpper_toUpper (hupper ▸ hletter)

/-- They are single characters. -/
lemma character_of_keywordAt {i : ℕ} {keyword : List Char} (hmem : keyword ∈ keywords)
    (h : keywordAt tables text i keyword = true) {k : ℕ} (hk : k < keyword.length) :
    (token tables true (text.drop (i + k))).1 = .character := by
  obtain ⟨c, hc, halpha⟩ := isAlpha_of_keywordAt hmem h hk
  have hne : ∀ x : Char, x.isAlpha = false → c ≠ x := by
    rintro x hx rfl
    rw [halpha] at hx
    cases hx
  rw [← List.head?_drop] at hc
  obtain ⟨l, hl⟩ := List.head?_eq_some_iff.mp hc
  rw [hl, token_of_character (hne _ (by decide)) (hne _ (by decide)) (hne _ (by decide))
    (hne _ (by decide)) (hne _ (by decide))]

/-- Within a keyword no keyword begins. -/
lemma keywordAt_within {i : ℕ} {keyword keyword' : List Char} (hmem : keyword ∈ keywords)
    (h : keywordAt tables text i keyword = true) {k : ℕ} (hk : k < keyword.length) :
    keywordAt tables text (i + k + 1) keyword' = false := by
  obtain ⟨c, hc, halpha⟩ := isAlpha_of_keywordAt hmem h hk
  have hascii : c.toNat < 128 := by
    change (decide (c.val ≥ 65 ∧ c.val ≤ 90) ||
      (decide (c.val ≥ 97) && decide (c.val ≤ 122))) = true at halpha
    simp only [Bool.or_eq_true, Bool.and_eq_true, decide_eq_true_eq, ge_iff_le,
      UInt32.le_iff_toNat_le, UInt32.reduceToNat] at halpha
    have : c.toNat = c.val.toNat := rfl
    omega
  have hname : tables.isNameChar c = true :=
    isNameChar_of_isAlphabetic ((tables.isAlphabetic_ascii c hascii).trans halpha)
  simp [keywordAt, hc, hname]

/-! ### From token to token -/

lemma kind_of_mem {t : ℕ × Token} (h : t ∈ tokens tables true text) :
    t.2 = (token tables true (text.drop t.1)).1 :=
  (position_of_mem_tokensFrom h).2.2

/-- RETURNING in front of the end of a token. -/
lemma returningBefore_next {j : ℕ} {kind : Token} (hmem : (j, kind) ∈ tokens tables true text) :
    ReturningBefore tables text (j + (token tables true (text.drop j)).2) ↔
      ReturningBefore tables text j ∨ KeywordToken tables text j "RETURNING".toList := by
  have hpos := @length_token_pos tables true (text.drop j)
  constructor
  · rintro ⟨i, hlt, h⟩
    rcases lt_trichotomy i j with hij | rfl | hij
    · exact Or.inl ⟨i, hij, h⟩
    · exact Or.inr h
    · exact absurd (le_of_mem_tokensFrom hmem h.1 hij) (not_le.mpr hlt)
  · rintro (⟨i, hlt, h⟩ | h)
    · exact ⟨i, by omega, h⟩
    · exact ⟨j, by omega, h⟩

/-- INTO behind RETURNING in front of the end of a token. -/
lemma returningIntoBefore_next {j : ℕ} {kind : Token}
    (hmem : (j, kind) ∈ tokens tables true text) :
    ReturningIntoBefore tables text (j + (token tables true (text.drop j)).2) ↔
      ReturningIntoBefore tables text j ∨
        (ReturningBefore tables text j ∧ KeywordToken tables text j "INTO".toList) := by
  have hpos := @length_token_pos tables true (text.drop j)
  constructor
  · rintro ⟨i, hlt, hreturning, h⟩
    rcases lt_trichotomy i j with hij | rfl | hij
    · exact Or.inl ⟨i, hij, hreturning, h⟩
    · exact Or.inr ⟨hreturning, h⟩
    · exact absurd (le_of_mem_tokensFrom hmem h.1 hij) (not_le.mpr hlt)
  · rintro (⟨i, hlt, hreturning, h⟩ | ⟨hreturning, h⟩)
    · exact ⟨i, by omega, hreturning, h⟩
    · exact ⟨j, by omega, hreturning, h⟩

/-! ## The scan from token to token -/

/-- The scan looks for the keyword. -/
def BindScan.Looks (s : BindScan) (keyword : List Char) : Prop :=
  (keyword = "RETURNING".toList ∧ s.returningFound = false) ∨
    (keyword = "INTO".toList ∧ s.returningFound = true ∧ s.intoFound = false)

/-- The scan has found the keywords in front of the position. -/
structure FoundBefore (tables : CharTables) (text : List Char) (j : ℕ) (s : BindScan) : Prop where
  /-- RETURNING -/
  returning : s.returningFound = true ↔ ReturningBefore tables text j
  /-- INTO behind it -/
  into : s.intoFound = true ↔ ReturningIntoBefore tables text j
  /-- which makes it a RETURNING statement -/
  isReturning : s.isReturning = s.intoFound

/-- The scan outside of literals and comments, at a position or some single characters behind it, at
which no keyword begins that it looks for. -/
structure AtKeywords (tables : CharTables) (text : List Char) (j : ℕ) (s : BindScan) : Prop where
  /-- outside of literals and comments -/
  clean : s.Clean
  /-- not in front of the position -/
  le : j ≤ s.i
  /-- between them there are single characters -/
  character : ∀ k, j ≤ k → k < s.i → (token tables true (text.drop k)).1 = .character
  /-- and no keyword begins -/
  keyword : ∀ k, j ≤ k → k < s.i → ∀ keyword, s.Looks keyword →
    keywordAt tables text k keyword = false
  /-- the keywords in front of the position have been found -/
  foundBefore : FoundBefore tables text j s

section Scan

variable {s : BindScan} {j : ℕ} {kind : Token}

/-- What the scan looks for is what is looked for at the position. -/
lemma FoundBefore.lookedFor (h : FoundBefore tables text j s) {keyword : List Char}
    (hlooks : s.Looks keyword) : LookedFor tables text j keyword := by
  rcases hlooks with ⟨rfl, hreturning⟩ | ⟨rfl, hreturning, hinto⟩
  · exact Or.inl ⟨rfl, fun hbefore => by simp [h.returning.mpr hbefore] at hreturning⟩
  · exact Or.inr ⟨rfl, h.returning.mp hreturning, fun hbefore => by
      simp [h.into.mpr hbefore] at hinto⟩

/-- A token that is no keyword that is looked for changes nothing. -/
lemma FoundBefore.next (h : FoundBefore tables text j s)
    (hmem : (j, kind) ∈ tokens tables true text)
    (hno : ∀ keyword, s.Looks keyword → ¬ KeywordToken tables text j keyword) :
    FoundBefore tables text (j + (token tables true (text.drop j)).2) s := by
  refine ⟨?_, ?_, h.isReturning⟩
  · rw [h.returning, returningBefore_next hmem]
    refine ⟨Or.inl, fun hor => hor.elim id fun hkeyword => ?_⟩
    by_contra hnot
    rw [← h.returning, Bool.not_eq_true] at hnot
    exact hno _ (Or.inl ⟨rfl, hnot⟩) hkeyword
  · rw [h.into, returningIntoBefore_next hmem]
    refine ⟨Or.inl, fun hor => hor.elim id fun ⟨hreturning, hkeyword⟩ => ?_⟩
    by_contra hnot
    rw [← h.into, Bool.not_eq_true] at hnot
    exact hno _ (Or.inr ⟨rfl, h.returning.mpr hreturning, hnot⟩) hkeyword

lemma not_keywordToken_of_ne (hmem : (j, kind) ∈ tokens tables true text) (hkind : kind ≠ .character)
    (keyword : List Char) : ¬ KeywordToken tables text j keyword := by
  rintro ⟨hmem', -⟩
  have heq := (kind_of_mem hmem).trans (kind_of_mem hmem').symm
  exact hkind heq

/-- The scan passes over characters in which nothing begins and it sees no keyword. -/
lemma found_of_idle (hj : s.i ≤ j) (hs : s.Clean)
    (hidle : ∀ k, s.i ≤ k → k < j → Begins tables (text.drop k) = false)
    (hkeyword : ∀ k, s.i ≤ k → k < j → ∀ keyword, s.Looks keyword →
      matchKeyword tables (tables.upper text) k keyword = false) :
    found tables .dml text (tables.upper text) s =
      found tables .dml text (tables.upper text) { s with i := j } := by
  induction hn : j - s.i generalizing s with
  | zero =>
    obtain rfl : j = s.i := by omega
    rfl
  | succ n ih =>
    cases hl : text.drop s.i with
    | nil =>
      have hle := List.drop_eq_nil_iff.mp hl
      rw [found_of_le hle, found_of_le (hle.trans hj)]
    | cons c l =>
      have hbegin := hidle s.i le_rfl (by omega)
      rw [hl] at hbegin
      obtain ⟨hquote, hdash, hopen, hname⟩ := of_begins_eq_false hbegin
      have hno := hkeyword s.i le_rfl (by omega)
      obtain ⟨hsees, -⟩ | ⟨hsees, -⟩ | ⟨-, -, hstep⟩ :=
        @step_of_clean tables .dml text (tables.upper text) s _ _ hs hl hquote hdash hopen
      · exact absurd hsees.2.2 (Bool.eq_false_iff.mp (hno _ (Or.inl ⟨rfl, hsees.2.1⟩)))
      · exact absurd hsees.2.2 (Bool.eq_false_iff.mp (hno _ (Or.inr ⟨rfl, hsees.1, hsees.2.1⟩)))
      · rw [if_neg hname] at hstep
        rw [found_step hstep, ih (s := { s with i := s.i + 1 }) (by dsimp only; omega)
          ⟨hs.1, hs.2, hs.3⟩ (fun k hk => hidle k (by dsimp only at hk; omega))
          (fun k hk => hkeyword k (by dsimp only at hk; omega)) (by dsimp only; omega)]

/-- Behind a keyword that the scan sees it is ahead by its other letters. -/
lemma atKeywords_of_keyword (keyword : List Char) (hmem : keyword ∈ keywords)
    (h : keywordAt tables text j keyword = true) (hi : s.i = j + keyword.length) (hs : s.Clean)
    (hfound : FoundBefore tables text (j + 1) s) : AtKeywords tables text (j + 1) s := by
  have hpos : 0 < keyword.length := by
    have hall : ∀ keyword ∈ keywords, 0 < keyword.length := by decide
    exact hall keyword hmem
  refine ⟨hs, by omega, fun k hk hlt => ?_, fun k hk hlt _ _ => ?_, hfound⟩
  · obtain ⟨m, rfl⟩ := Nat.exists_eq_add_of_le hk
    rw [Nat.add_assoc]
    exact character_of_keywordAt hmem h (by omega)
  · obtain ⟨m, rfl⟩ := Nat.exists_eq_add_of_le hk
    rw [Nat.add_right_comm]
    exact keywordAt_within hmem h (by omega)

/-- The placeholder of a token, flagged if INTO has been found. -/
def bindOf (kind : Token) (into : Bool) : List BindInfo :=
  (kind.name?.map fun name => ⟨String.ofList name, into⟩).toList

/-- The scan passes over a single character, or finds the keyword that begins with it. -/
lemma exists_atKeywords_of_character (hscan : ReturningScannable tables text) (hs : s.Clean)
    (hbefore : FoundBefore tables text s.i s)
    (hmem : (s.i, Token.character) ∈ tokens tables true text) :
    ∃ s', found tables .dml text (tables.upper text) s =
        found tables .dml text (tables.upper text) s' ∧
      s'.bindInfoList = s.bindInfoList ∧ AtKeywords tables text (s.i + 1) s' := by
  have hkind := (kind_of_mem hmem).symm
  have htoken := token_eq_of_character hkind
  have hmatch {keyword : List Char} (hlooks : s.Looks keyword) :
      matchKeyword tables (tables.upper text) s.i keyword =
        keywordAt tables text s.i keyword := by
    simpa using hscan.keyword _ hmem 0 (by simp [htoken]) rfl keyword (hbefore.lookedFor hlooks)
  have hlt : s.i < text.length := (position_of_mem_tokensFrom hmem).2.1
  have hreturning := returningBefore_next hmem
  have hinto := returningIntoBefore_next hmem
  have hnext := hbefore.next hmem
  rw [htoken] at hreturning hinto hnext
  cases hl : text.drop s.i with
  | nil => exact absurd (List.drop_eq_nil_iff.mp hl) (not_le.mpr hlt)
  | cons c l =>
    have hbegins := begins_of_character hkind
    rw [hl] at hbegins
    obtain ⟨hquote, hdash, hopen, hname⟩ := of_begins_eq_false hbegins
    obtain ⟨hsees, hstep⟩ | ⟨hsees, hstep⟩ | ⟨hnot, hnot', hstep⟩ :=
      @step_of_clean tables .dml text (tables.upper text) s _ _ hs hl hquote hdash hopen
    · have hat := hmatch (Or.inl ⟨rfl, hsees.2.1⟩) ▸ hsees.2.2
      refine ⟨_, found_step hstep, rfl, atKeywords_of_keyword "RETURNING".toList
        (by decide) hat rfl ⟨hs.1, hs.2, hs.3⟩ ⟨?_, ?_, hbefore.isReturning⟩⟩
      · exact iff_of_true rfl (hreturning.mpr (Or.inr ⟨hmem, hat⟩))
      · refine hbefore.into.trans ⟨fun h => hinto.mpr (Or.inl h), fun h => ?_⟩
        refine (hinto.mp h).resolve_right fun hor => ?_
        rw [← hbefore.returning, hsees.2.1] at hor
        exact absurd hor.1 (by simp)
    · have hat := hmatch (Or.inr ⟨rfl, hsees.1, hsees.2.1⟩) ▸ hsees.2.2
      have hreturning' := hbefore.returning.mp hsees.1
      refine ⟨_, found_step hstep, rfl, atKeywords_of_keyword "INTO".toList
        (by decide) hat rfl ⟨hs.1, hs.2, hs.3⟩ ⟨?_, ?_, rfl⟩⟩
      · exact iff_of_true hsees.1 (hreturning.mpr (Or.inl hreturning'))
      · exact iff_of_true rfl (hinto.mpr (Or.inr ⟨hreturning', hmem, hat⟩))
    · rw [if_neg hname] at hstep
      have hfound := hnext fun keyword hlooks hkeyword => by
        have hat := (hmatch hlooks).trans hkeyword.2
        rcases hlooks with ⟨rfl, hfalse⟩ | ⟨rfl, htrue, hfalse⟩
        · exact hnot ⟨rfl, hfalse, hat⟩
        · exact hnot' ⟨htrue, hfalse, hat⟩
      exact ⟨_, found_step hstep, rfl, ⟨hs.1, hs.2, hs.3⟩, le_rfl, by dsimp only; omega,
        by dsimp only; omega, hfound.1, hfound.2, hfound.3⟩

/-- The scan passes over the token in front of it, and takes its placeholder. -/
lemma exists_atKeywords (hscan : ReturningScannable tables text) (hs : s.Clean)
    (hbefore : FoundBefore tables text s.i s)
    (hmem : (s.i, (token tables true (text.drop s.i)).1) ∈ tokens tables true text) :
    ∃ s', found tables .dml text (tables.upper text) s =
        found tables .dml text (tables.upper text) s' ∧
      s'.bindInfoList =
        s.bindInfoList ++ bindOf (token tables true (text.drop s.i)).1 s.intoFound ∧
      AtKeywords tables text (s.i + (token tables true (text.drop s.i)).2) s' := by
  have hpassed := hscan.passed _ hmem
  have hkeyword := hscan.keyword _ hmem
  have hahead := hscan.ahead _ hmem
  have hnext := hbefore.next hmem
  have hother := not_keywordToken_of_ne hmem
  have hchar := exists_atKeywords_of_character hscan hs hbefore
  dsimp only at hpassed hkeyword hahead
  have htoken := @tokenAt_token tables true (text.drop s.i)
  generalize hn : (token tables true (text.drop s.i)).2 = n at htoken hkeyword hahead hnext ⊢
  generalize hkind : (token tables true (text.drop s.i)).1 = kind at *
  generalize hl : text.drop s.i = l at htoken
  -- behind a token that is neither a keyword nor a placeholder
  have hat (hne : kind ≠ .character) (hname : kind.name? = none) :
      ({ s with i := s.i + n } : BindScan).bindInfoList =
        s.bindInfoList ++ bindOf kind s.intoFound ∧
      AtKeywords tables text (s.i + n) { s with i := s.i + n } := by
    have hfound := hnext fun keyword _ => hother hne keyword
    refine ⟨by rw [bindOf, hname]; simp, ⟨hs.1, hs.2, hs.3⟩, le_rfl, by dsimp only; omega,
      by dsimp only; omega, hfound.1, hfound.2, hfound.3⟩
  cases htoken with
  | string l => exact ⟨_, found_of_quote hs hl, hat (by simp) rfl⟩
  | lineComment l => exact ⟨_, found_of_dashes hs hl, hat (by simp) rfl⟩
  | blockComment body rest' hbody hclose =>
    have hcloses : Closes body := hpassed.blockComment hkind body (by rw [hl]; exact hbody)
    exact ⟨_, found_of_open hs hl hclose hcloses, hat (by simp) rfl⟩
  | openComment l hclose =>
    refine ⟨{ s with i := s.i + (l.length + 2) }, ?_, hat (by simp) rfl⟩
    rw [found_of_open_noClose hs hl hclose, found_of_le (length_of_drop hl).le]
  | quotedIdentifier l _ =>
    have hidle := hpassed.quotedIdentifier hkind
    rw [hn] at hidle
    refine ⟨_, found_of_idle (Nat.le_add_right s.i _) hs (fun k hk hlt => ?_)
      fun k hk hlt keyword hlooks => ?_, hat (by simp) rfl⟩
    · obtain ⟨m, rfl⟩ := Nat.exists_eq_add_of_le hk
      rw [← List.drop_drop]
      exact hidle m (Nat.lt_of_add_lt_add_left hlt)
    · obtain ⟨m, rfl⟩ := Nat.exists_eq_add_of_le hk
      exact hkeyword m (Nat.lt_of_add_lt_add_left hlt) rfl keyword (hbefore.lookedFor hlooks)
  | character l hbegins =>
    obtain ⟨s', hfound, hbinds, hat'⟩ := hchar hmem
    exact ⟨s', hfound, by rw [hbinds]; simp [bindOf, Token.name?], hat'⟩
  | placeholder l name n hname hne =>
    have hno {keyword : List Char} (hlooks : s.Looks keyword) :
        matchKeyword tables (tables.upper text) s.i keyword = false := by
      simpa using hkeyword 0 (Nat.succ_pos n) rfl keyword (hbefore.lookedFor hlooks)
    have hlt := hpassed.placeholder_le name (by rw [hkind]; rfl)
    have hle := hpassed.le_placeholder name (by rw [hkind]; rfl)
    rw [hn] at hlt hle
    have hfound := hnext fun keyword _ => hother (by simp) keyword
    have hbinds : addBind .dml s.bindInfoList ⟨String.ofList name, s.intoFound⟩ =
        s.bindInfoList ++ bindOf (.placeholder name) s.intoFound := by
      simp [addBind, bindOf, Token.name?]
    obtain ⟨hsees, -⟩ | ⟨hsees, -⟩ | ⟨-, -, hstep⟩ :=
      @step_of_clean tables .dml text (tables.upper text) s _ _ hs hl (by decide) (by simp) (by simp)
    · exact absurd hsees.2.2 (Bool.eq_false_iff.mp (hno (Or.inl ⟨rfl, hsees.2.1⟩)))
    · exact absurd hsees.2.2 (Bool.eq_false_iff.mp (hno (Or.inr ⟨rfl, hsees.1, hsees.2.1⟩)))
    rw [hname, if_pos ⟨rfl, hne⟩] at hstep
    rw [found_step hstep]
    by_cases hend : 1 + utf8Len name ≤ n + 1
    · refine ⟨_, found_of_idle (j := s.i + (n + 1)) (Nat.add_le_add_left hend s.i)
        ⟨hs.1, hs.2, hs.3⟩ (fun k hk hkn => ?_) (fun k hk hkn keyword hlooks => ?_), hbinds,
        ⟨hs.1, hs.2, hs.3⟩, le_rfl, by dsimp only; omega, by dsimp only; omega,
        hfound.1, hfound.2, hfound.3⟩
      · dsimp only at hk
        obtain ⟨m, rfl⟩ := Nat.exists_eq_add_of_le hk
        rw [Nat.add_assoc, ← List.drop_drop]
        exact hlt _ (by omega) (Nat.le_add_right _ m)
      · dsimp only at hk
        obtain ⟨m, rfl⟩ := Nat.exists_eq_add_of_le hk
        rw [Nat.add_assoc]
        exact hkeyword _ (by omega) (by simp [Token.looksAt]) keyword (hbefore.lookedFor hlooks)
    · refine ⟨_, rfl, hbinds, ⟨hs.1, hs.2, hs.3⟩, ?_, fun k hk hkn => ?_,
        fun k hk hkn keyword hlooks => ?_, hfound.1, hfound.2, hfound.3⟩
      · dsimp only
        omega
      · dsimp only at hkn
        obtain ⟨m, rfl⟩ := Nat.exists_eq_add_of_le hk
        rw [Nat.add_assoc, ← List.drop_drop]
        exact hle _ (by omega) (Nat.le_add_right _ m)
      · dsimp only at hkn
        obtain ⟨m, rfl⟩ := Nat.exists_eq_add_of_le hk
        rw [Nat.add_assoc]
        exact hahead name rfl _ (by omega) (Nat.le_add_right _ m) keyword
          (hbefore.lookedFor hlooks)

/-- Behind all tokens the keywords have been found. -/
lemma FoundBefore.of_le (h : FoundBefore tables text j s) (hend : text.length ≤ j) :
    s.isReturning = true ↔ ReturningIntoBefore tables text text.length := by
  rw [h.isReturning, h.into]
  constructor
  · rintro ⟨i, -, hreturning, hkeyword⟩
    exact ⟨i, (position_of_mem_tokensFrom hkeyword.1).2.1, hreturning, hkeyword⟩
  · rintro ⟨i, hlt, hreturning, hkeyword⟩
    exact ⟨i, by omega, hreturning, hkeyword⟩

/-- What the scan of DML finds from a position on is what the tokens there say. -/
lemma exists_found (hscan : ReturningScannable tables text) (n : ℕ) :
    ∀ {j : ℕ} {s : BindScan}, text.length ≤ j + n → AtKeywords tables text j s →
      tokensFrom tables true text n j ⊆ tokens tables true text →
      ∃ binds, (found tables .dml text (tables.upper text) s).1 = s.bindInfoList ++ binds ∧
        ((found tables .dml text (tables.upper text) s).2 = true ↔
          ReturningIntoBefore tables text text.length) ∧
        List.Forall₂ (fun p bind => bind.name = String.ofList p.2 ∧
          (bind.isReturnBind = true ↔ ReturningIntoBefore tables text p.1))
          (placeholdersOf (tokensFrom tables true text n j)) binds := by
  induction n with
  | zero =>
    intro j s hlen hat _
    rw [found_of_le (hlen.trans hat.le)]
    exact ⟨[], (List.append_nil _).symm, hat.foundBefore.of_le hlen, .nil⟩
  | succ n ih =>
    intro j s hlen hat hsub
    by_cases hend : text.length ≤ j
    · rw [found_of_le (hend.trans hat.le), tokensFrom, if_pos hend]
      exact ⟨[], (List.append_nil _).symm, hat.foundBefore.of_le hend, .nil⟩
    rw [tokensFrom, if_neg hend] at hsub ⊢
    obtain ⟨hmem, hrest⟩ := List.cons_subset.mp hsub
    have hpos := @length_token_pos tables true (text.drop j)
    by_cases hahead : j < s.i
    · -- the scan is ahead of the token, which is neither a keyword nor a placeholder
      have hchar := token_eq_of_character (hat.character j le_rfl hahead)
      have hnext := hat.foundBefore.next hmem fun keyword hlooks hkeyword => by
        have hno := hat.keyword j le_rfl hahead keyword hlooks
        rw [hkeyword.2] at hno
        cases hno
      rw [hchar] at hrest hnext ⊢
      have hskip : placeholdersOf ((j, .character) :: tokensFrom tables true text n (j + 1)) =
          placeholdersOf (tokensFrom tables true text n (j + 1)) := rfl
      rw [hskip]
      exact ih (by omega) ⟨hat.clean, hahead, fun k hk => hat.character k (by omega),
        fun k hk => hat.keyword k (by omega), hnext⟩ hrest
    · obtain rfl : j = s.i := le_antisymm hat.le (by omega)
      obtain ⟨s', hfound, hbinds, hat'⟩ := exists_atKeywords hscan hat.clean hat.foundBefore hmem
      obtain ⟨binds, hall, hreturning, hforall⟩ := ih (by omega) hat' hrest
      rw [hfound]
      refine ⟨bindOf (token tables true (text.drop s.i)).1 s.intoFound ++ binds, ?_, hreturning, ?_⟩
      · rw [hall, hbinds, List.append_assoc]
      · rw [bindOf]
        cases hname : (token tables true (text.drop s.i)).1.name? with
        | none => simpa [placeholdersOf, hname] using hforall
        | some name =>
          have hcons : placeholdersOf ((s.i, (token tables true (text.drop s.i)).1) ::
              tokensFrom tables true text n (s.i + (token tables true (text.drop s.i)).2)) =
              (s.i, name) :: placeholdersOf
                (tokensFrom tables true text n (s.i + (token tables true (text.drop s.i)).2)) := by
            simp [placeholdersOf, hname]
          rw [hcons]
          exact .cons ⟨rfl, hat.foundBefore.into⟩ hforall

end Scan

/-! ## Statements -/

namespace Statement

/-- The statement is a RETURNING statement if and only if RETURNING, and INTO behind it, are among its
tokens; its binds are its placeholders, and the return binds those that stand behind that INTO. -/
def ReturningExact (tables : CharTables) (sql : String) : Prop :=
  ((new tables sql).isReturning = true ↔
    ReturningIntoBefore tables sql.toList sql.toList.length) ∧
  List.Forall₂ (fun p bind => bind.name = String.ofList p.2 ∧
      (bind.isReturnBind = true ↔ ReturningIntoBefore tables sql.toList p.1))
    (placeholdersOf (tokens tables true sql.toList)) (new tables sql).bindInfo

end Statement

end OracleRs
