import OracleRs.Statement.BindNames

set_option relaxedAutoImplicit false
set_option autoImplicit false

/-!
# Statements behind comments

What a statement is found to be if blanks and comments stand in front of its text. The scan for
placeholders passes over comments, but the kind of a statement is that of its first word, and of a
text that begins with a comment that is the beginning of the comment.

## Main definitions

* `OracleRs.LeadingPiece` — a blank or comment in front of a statement.
* `OracleRs.Statement.SameKind` — statements of the same kind with the same placeholders.

## Main results

* `OracleRs.BindScan.found_append` — the scan of a text from some index on is that of the text from
  there on.
* `OracleRs.Statement.sameKind_leadingText` — leading comments leave a statement as it is only if it is of no
  known kind.
-/

namespace OracleRs

open BindScan (NoClose Closes found found_of_le found_step found_of_dashes found_of_open
  step step_of_le step_of_clean lt_i_step)

/-! ## Blanks and comments -/

/-- A blank or a comment in front of a statement. -/
inductive LeadingPiece where
  /-- a character of white space -/
  | blank (c : Char) (h : isWhitespace c = true)
  /-- a line comment with the end of its line -/
  | lineComment (body : List Char) (h : '\n' ∉ body)
  /-- a block comment -/
  | blockComment (body : List Char) (h : NoClose body)

namespace LeadingPiece

/-- The characters of a blank or comment. -/
def text : LeadingPiece → List Char
  | blank c _ => [c]
  | lineComment body _ => '-' :: '-' :: (body ++ ['\n'])
  | blockComment body _ => '/' :: '*' :: (body ++ ['*', '/'])

/-- It is a blank. -/
def IsBlank : LeadingPiece → Prop
  | blank _ _ => True
  | _ => False

/-- The scan finds its end. -/
def EndsInScan : LeadingPiece → Prop
  | blockComment body _ => Closes body
  | _ => True

end LeadingPiece

/-- The characters of blanks and comments. -/
def leadingText (pieces : List LeadingPiece) : List Char := pieces.flatMap LeadingPiece.text

variable {tables : CharTables} {statementType : StatementType} {chars upper : List Char}

/-! ## The first word -/

lemma upper_append (a b : List Char) : tables.upper (a ++ b) = tables.upper a ++ tables.upper b :=
  List.flatMap_append

lemma isWhitespace_leadingText {pieces : List LeadingPiece} (h : ∀ p ∈ pieces, p.IsBlank) :
    ∀ c ∈ leadingText pieces, isWhitespace c = true := by
  intro c hc
  obtain ⟨p, hp, hcp⟩ := List.mem_flatMap.mp hc
  cases p with
  | blank b hb =>
    obtain rfl := List.mem_singleton.mp hcp
    exact hb
  | lineComment body hbody => exact (h _ hp).elim
  | blockComment body hbody => exact (h _ hp).elim

/-- White space is the same in upper case. -/
lemma upper_of_isWhitespace {l : List Char} (h : ∀ c ∈ l, isWhitespace c = true) :
    tables.upper l = l := by
  induction l with
  | nil => rfl
  | cons c l ih =>
    have hc := tables.toUppercase_whitespace c (h c List.mem_cons_self)
    have hl := ih fun x hx => h x (List.mem_cons_of_mem c hx)
    rw [CharTables.upper, List.flatMap_cons, hc, ← CharTables.upper, hl]
    rfl

/-- Blanks in front of a text do not change its kind. -/
lemma ofText_append_of_isWhitespace {l : List Char} (h : ∀ c ∈ l, isWhitespace c = true)
    (t : List Char) : StatementType.ofText tables (l ++ t) = StatementType.ofText tables t := by
  rw [StatementType.ofText, StatementType.ofText, upper_append, upper_of_isWhitespace h,
    List.dropWhile_append_of_pos h]

/-- A word that begins with `-` or `/` is none that a known kind of statement begins with. -/
lemma ofWord_eq_unknown {c : Char} {word : List Char} (h : c = '-' ∨ c = '/') :
    StatementType.ofWord (c :: word) = .unknown := by
  rcases h with rfl | rfl
  · simp [StatementType.ofWord]
  · simp [StatementType.ofWord]

/-- A text is of no known kind if there are comments in front of it. -/
lemma ofText_leadingText {pieces : List LeadingPiece} (h : ¬ ∀ p ∈ pieces, p.IsBlank)
    (t : List Char) : StatementType.ofText tables (leadingText pieces ++ t) = .unknown := by
  induction pieces with
  | nil => simp at h
  | cons p pieces ih =>
    have hfirst (c d : Char) (l : List Char) (hc : c = '-' ∨ c = '/') :
        StatementType.ofText tables (c :: d :: l) = .unknown := by
      have hupper : tables.toUppercase c = [c] := by
        rcases hc with rfl | rfl
        · exact tables.toUppercase_ascii '-' (by decide)
        · exact tables.toUppercase_ascii '/' (by decide)
      have hblank : isWhitespace c = false := by
        rcases hc with rfl | rfl <;> decide
      rw [StatementType.ofText, CharTables.upper, List.flatMap_cons, hupper, List.singleton_append,
        List.dropWhile_cons_of_neg (by simp [hblank]), List.takeWhile_cons_of_pos (by simp [hblank])]
      exact ofWord_eq_unknown hc
    cases p with
    | blank c hc =>
      have hrest : ¬ ∀ p ∈ pieces, p.IsBlank := fun hall =>
        h (List.forall_mem_cons.mpr ⟨trivial, hall⟩)
      rw [← ih hrest]
      exact ofText_append_of_isWhitespace (l := [c]) (by simpa using hc) _
    | lineComment body hbody => exact hfirst '-' '-' _ (Or.inl rfl)
    | blockComment body hbody => exact hfirst '/' '*' _ (Or.inr rfl)

/-! ## The scan behind other characters -/

namespace BindScan

/-- The scan moved on by some characters. -/
def shift (n : ℕ) (s : BindScan) : BindScan := { s with i := n + s.i }

/-- A turn of the scan behind other characters is that of the scan without them, if it sees the same
keywords. -/
lemma step_append {front : List Char} {upper' : List Char} {s : BindScan}
    (hdml : s.returningFound = true → statementType = .dml)
    (hkeyword : statementType = .dml → ∀ keyword ∈ keywords,
      matchKeyword tables upper' (front.length + s.i) keyword =
        matchKeyword tables upper s.i keyword) :
    step tables statementType (front ++ chars) upper' (shift front.length s) =
      shift front.length (step tables statementType chars upper s) := by
  have hget (k : ℕ) : (front ++ chars)[front.length + k]? = chars[k]? := by
    rw [List.getElem?_append_right (Nat.le_add_right _ _), Nat.add_sub_cancel_left]
  have hdrop : (front ++ chars).drop (front.length + (s.i + 1)) = chars.drop (s.i + 1) := by
    rw [List.drop_append, Nat.add_sub_cancel_left, List.drop_eq_nil_iff.mpr (Nat.le_add_right _ _),
      List.nil_append]
  have hlen : front.length + (s.i + 1) < (front ++ chars).length ↔ s.i + 1 < chars.length := by
    rw [List.length_append]
    omega
  have hreturning : (statementType = .dml ∧ !s.returningFound ∧
      matchKeyword tables upper' (front.length + s.i) "RETURNING".toList) ↔
      (statementType = .dml ∧ !s.returningFound ∧
        matchKeyword tables upper s.i "RETURNING".toList) :=
    and_congr_right fun htype => by rw [hkeyword htype _ (by decide)]
  have hinto : (s.returningFound ∧ !s.intoFound ∧
      matchKeyword tables upper' (front.length + s.i) "INTO".toList) ↔
      (s.returningFound ∧ !s.intoFound ∧ matchKeyword tables upper s.i "INTO".toList) :=
    and_congr_right fun hret => by rw [hkeyword (hdml hret) _ (by decide)]
  cases hc : chars[s.i]? with
  | none =>
    have hle := List.getElem?_eq_none_iff.mp hc
    rw [step_of_le hle, step_of_le (by rw [List.length_append]; exact Nat.add_le_add_left hle _)]
  | some c =>
    conv_rhs =>
      rw [step, hc]
      dsimp only
      simp only [apply_ite (shift front.length)]
    rw [step]
    simp only [shift, Nat.add_assoc, hget, hdrop, hc, hlen, if_congr hreturning rfl rfl,
      if_congr hinto rfl rfl]

private lemma returningFound_ite {p Q : Prop} [Decidable p] {s s' : BindScan}
    (h : p → s.returningFound = true → Q) (h' : s'.returningFound = true → Q) :
    (if p then s else s').returningFound = true → Q := by
  split
  · exact h ‹p›
  · exact h'

/-- RETURNING is found in DML only. -/
lemma returningFound_step {s : BindScan} (hdml : s.returningFound = true → statementType = .dml) :
    (step tables statementType chars upper s).returningFound = true → statementType = .dml := by
  rw [step]
  split
  · exact hdml
  · refine returningFound_ite (fun _ => hdml) <| returningFound_ite (fun _ => hdml) <|
      returningFound_ite (fun _ => hdml) <| returningFound_ite (fun _ => hdml) <|
      returningFound_ite (fun _ => hdml) <| returningFound_ite (fun _ => ?_) <|
      returningFound_ite (fun h _ => h.1) <| returningFound_ite (fun _ => hdml) <|
      returningFound_ite (fun _ => hdml) hdml
    exact returningFound_ite (fun _ => hdml) hdml

/-- The scan behind other characters finds what the scan without them finds, if it sees the same
keywords. -/
lemma found_append {front upper' : List Char} {s : BindScan}
    (hdml : s.returningFound = true → statementType = .dml)
    (hkeyword : statementType = .dml → ∀ i, ∀ keyword ∈ keywords,
      matchKeyword tables upper' (front.length + i) keyword = matchKeyword tables upper i keyword) :
    found tables statementType (front ++ chars) upper' (shift front.length s) =
      found tables statementType chars upper s := by
  induction hn : chars.length - s.i using Nat.strong_induction_on generalizing s with
  | _ n ih =>
  by_cases hend : chars.length ≤ s.i
  · rw [found_of_le hend,
      found_of_le (by rw [List.length_append]; exact Nat.add_le_add_left hend _)]
    rfl
  · have hlt := @lt_i_step tables statementType chars upper s (not_le.mp hend)
    refine (found_step (step_append hdml fun htype => hkeyword htype s.i)).trans ?_
    refine Eq.trans ?_ (found_step rfl).symm
    exact ih (chars.length - (step tables statementType chars upper s).i) (by omega)
      (returningFound_step hdml) rfl

/-- The scan passes over blanks and comments. -/
lemma found_leadingText {pieces : List LeadingPiece} {rest : List Char} {s : BindScan}
    (hs : s.Clean) (hdml : s.returningFound = true → statementType = .dml)
    (hl : chars.drop s.i = leadingText pieces ++ rest) (hends : ∀ p ∈ pieces, p.EndsInScan)
    (hno : statementType = .dml → ∀ k < (leadingText pieces).length, ∀ keyword ∈ keywords,
      matchKeyword tables upper (s.i + k) keyword = false) :
    found tables statementType chars upper s =
      found tables statementType chars upper { s with i := s.i + (leadingText pieces).length } := by
  induction pieces generalizing s with
  | nil => rfl
  | cons p pieces ih =>
    have hlen : (leadingText (p :: pieces)).length = p.text.length + (leadingText pieces).length := by
      simp [leadingText]
    have htext : chars.drop s.i = p.text ++ (leadingText pieces ++ rest) := by
      rw [hl]
      simp [leadingText]
    have hdrop : chars.drop (s.i + p.text.length) = leadingText pieces ++ rest := by
      rw [← List.drop_drop, htext, List.drop_left]
    -- the first one, and then the others
    have hfirst : found tables statementType chars upper s =
        found tables statementType chars upper { s with i := s.i + p.text.length } := by
      cases p with
      | blank c hc =>
        have hne : ∀ x, isWhitespace x = false → c ≠ x := by
          rintro x hx rfl
          rw [hc] at hx
          cases hx
        obtain ⟨hsees, -⟩ | ⟨hsees, -⟩ | ⟨-, -, hstep⟩ :=
          @step_of_clean tables statementType chars upper s _ _ hs htext
            (hne _ (by decide)) (fun h => hne _ (by decide) h.1) (fun h => hne _ (by decide) h.1)
        · have hfalse := hno hsees.1 0 (by rw [hlen]; simp [LeadingPiece.text]) "RETURNING".toList
            (by decide)
          exact absurd hsees.2.2 (Bool.eq_false_iff.mp hfalse)
        · have hfalse := hno (hdml hsees.1) 0 (by rw [hlen]; simp [LeadingPiece.text]) "INTO".toList
            (by decide)
          exact absurd hsees.2.2 (Bool.eq_false_iff.mp hfalse)
        · rw [if_neg fun h => hne _ (by decide) h.1] at hstep
          exact found_step hstep
      | lineComment body hbody =>
        have hline : (body ++ '\n' :: (leadingText pieces ++ rest)).takeWhile (· ≠ '\n') = body := by
          rw [List.takeWhile_append_of_pos fun x hx => by
            simpa using ne_of_mem_of_not_mem hx hbody]
          simp
        have hdashes : chars.drop s.i = '-' :: '-' :: (body ++ '\n' :: (leadingText pieces ++ rest)) :=
          by simp [htext, LeadingPiece.text]
        have hpass := @found_of_dashes tables statementType chars upper s _ hs hdashes
        rw [hline] at hpass
        simpa [LeadingPiece.text] using hpass
      | blockComment body hbody =>
        have hclose := hends _ List.mem_cons_self
        have hopen : chars.drop s.i =
            '/' :: '*' :: (body ++ '*' :: '/' :: (leadingText pieces ++ rest)) := by
          simp [htext, LeadingPiece.text]
        have hpass := @found_of_open tables statementType chars upper s _ _ hs hopen hbody hclose
        simpa [LeadingPiece.text] using hpass
    rw [hfirst, ih (s := { s with i := s.i + p.text.length }) ⟨hs.1, hs.2, hs.3⟩ hdml hdrop
      (fun q hq => hends q (List.mem_cons_of_mem p hq)) fun htype k hk keyword hmem => by
        dsimp only
        rw [Nat.add_assoc]
        exact hno htype _ (by omega) keyword hmem]
    rw [hlen, ← Nat.add_assoc]

end BindScan

/-! ## Statements -/

/-- White space is no letter of a keyword. -/
lemma matchKeyword_of_isWhitespace {front : List Char} (h : ∀ c ∈ front, isWhitespace c = true)
    {k : ℕ} (hk : k < front.length) {keyword : List Char} (hmem : keyword ∈ keywords) :
    matchKeyword tables (front ++ upper) k keyword = false := by
  by_contra hmatch
  rw [Bool.not_eq_false] at hmatch
  simp only [matchKeyword, Bool.and_eq_true, decide_eq_true_eq] at hmatch
  have hpos : 0 < keyword.length := by
    have hall : ∀ keyword ∈ keywords, 0 < keyword.length := by decide
    exact hall keyword hmem
  have hget := congrArg (·[0]?) hmatch.1.2
  rw [List.getElem?_take_of_lt hpos, List.getElem?_drop, Nat.add_zero,
    List.getElem?_append_left hk, List.getElem?_eq_getElem hk, List.getElem?_eq_getElem hpos] at hget
  have hblank := h _ (List.getElem_mem hk)
  rw [Option.some.inj hget] at hblank
  have hall : ∀ keyword ∈ keywords, keyword.any isWhitespace = false := by decide
  exact List.any_eq_false.mp (hall keyword hmem) _ (List.getElem_mem hpos) hblank

/-- Behind white space the same keywords are seen. -/
lemma matchKeyword_append {front : List Char} (h : ∀ c ∈ front, isWhitespace c = true) (i : ℕ)
    (keyword : List Char) : matchKeyword tables (front ++ upper) (front.length + i) keyword =
      matchKeyword tables upper i keyword := by
  have hget (k : ℕ) : (front ++ upper)[front.length + k]? = upper[k]? := by
    rw [List.getElem?_append_right (Nat.le_add_right _ _), Nat.add_sub_cancel_left]
  have hdrop : (front ++ upper).drop (front.length + i) = upper.drop i := by
    rw [List.drop_append, Nat.add_sub_cancel_left, List.drop_eq_nil_iff.mpr (Nat.le_add_right _ _),
      List.nil_append]
  have hlen : front.length + i + keyword.length ≤ (front ++ upper).length ↔
      i + keyword.length ≤ upper.length := by
    rw [List.length_append]
    omega
  -- in front of the text there is white space or nothing
  have hprev : (decide (front.length + i > 0) &&
      (front ++ upper)[front.length + i - 1]?.any tables.isAlphanumeric) =
      (decide (i > 0) && upper[i - 1]?.any tables.isAlphanumeric) := by
    cases i with
    | succ i =>
      rw [show front.length + (i + 1) - 1 = front.length + i from rfl, hget]
      simp
    | zero =>
      by_cases hfront : front.length = 0
      · simp [hfront]
      · have hlt : front.length - 1 < front.length := by omega
        have hblank := h _ (List.getElem_mem hlt)
        rw [Nat.add_zero, List.getElem?_append_left hlt, List.getElem?_eq_getElem hlt]
        simp [CharTables.isAlphanumeric, tables.isAlphabetic_whitespace _ hblank,
          tables.isNumeric_whitespace _ hblank]
  rw [matchKeyword, matchKeyword, hprev, hdrop, Nat.add_assoc, hget, ← Nat.add_assoc]
  simp only [hlen]

namespace Statement

/-- The statements are of the same kind, and have the same placeholders. -/
structure SameKind (s s' : Statement) : Prop where
  /-- the same kind -/
  statementType : s.statementType = s'.statementType
  /-- the same placeholders -/
  bindInfo : s.bindInfo = s'.bindInfo
  /-- both are RETURNING statements or none is -/
  isReturning : s.isReturning = s'.isReturning

lemma statementType_new (tables : CharTables) (sql : String) :
    (new tables sql).statementType = StatementType.ofText tables sql.toList := by
  rw [new]
  split <;> rfl

/-- Statements are of the same kind if they have the same kind and the scan finds the same. -/
lemma sameKind_new {sql sql' : String}
    (htype : StatementType.ofText tables sql.toList = StatementType.ofText tables sql'.toList)
    (hfound : found tables (StatementType.ofText tables sql'.toList) sql.toList
        (tables.upper sql.toList) {} =
      found tables (StatementType.ofText tables sql'.toList) sql'.toList
        (tables.upper sql'.toList) {}) :
    SameKind (new tables sql) (new tables sql') := by
  refine ⟨by rw [statementType_new, statementType_new, htype], ?_, ?_⟩
  · rw [new, new, htype]
    split_ifs
    · rfl
    · exact congrArg Prod.fst hfound
  · rw [new, new, htype]
    split_ifs
    · rfl
    · exact congrArg Prod.snd hfound

/-- Blanks and comments in front of a statement leave it as it is, if there are only blanks, or if the
statement is of no known kind and the scan finds the ends of the comments; and only if there are
only blanks or the statement is of no known kind. -/
theorem sameKind_leadingText (tables : CharTables) (pieces : List LeadingPiece) (sql : String) :
    ((∀ p ∈ pieces, p.IsBlank) ∨
        ((new tables sql).statementType = .unknown ∧ ∀ p ∈ pieces, p.EndsInScan) →
      SameKind (new tables (String.ofList (leadingText pieces) ++ sql)) (new tables sql)) ∧
    (SameKind (new tables (String.ofList (leadingText pieces) ++ sql)) (new tables sql) →
      (∀ p ∈ pieces, p.IsBlank) ∨ (new tables sql).statementType = .unknown) := by
  have htext : (String.ofList (leadingText pieces) ++ sql).toList =
      leadingText pieces ++ sql.toList := by
    rw [String.toList_append, String.toList_ofList]
  constructor
  · intro h
    have htype : StatementType.ofText tables (String.ofList (leadingText pieces) ++ sql).toList =
        StatementType.ofText tables sql.toList := by
      rw [htext]
      by_cases hblank : ∀ p ∈ pieces, p.IsBlank
      · exact ofText_append_of_isWhitespace (isWhitespace_leadingText hblank) _
      · rw [ofText_leadingText hblank, ← statementType_new, (h.resolve_left hblank).1]
    have hends : ∀ p ∈ pieces, p.EndsInScan := by
      rcases h with hblank | ⟨-, hends⟩
      · intro p hp
        have hp' := hblank p hp
        cases p with
        | blank c hc => trivial
        | lineComment body hbody => exact hp'.elim
        | blockComment body hbody => exact hp'.elim
      · exact hends
    -- in DML there are blanks only
    have hdml (hdml : StatementType.ofText tables sql.toList = .dml) :
        ∀ c ∈ leadingText pieces, isWhitespace c = true := by
      refine isWhitespace_leadingText (h.resolve_right ?_)
      rintro ⟨hunknown, -⟩
      rw [statementType_new, hdml] at hunknown
      cases hunknown
    refine sameKind_new htype ?_
    rw [htext]
    refine (BindScan.found_leadingText ⟨rfl, rfl, rfl⟩ (by simp) rfl hends
      fun htype k hk keyword hmem => ?_).trans ?_
    · rw [upper_append, upper_of_isWhitespace (hdml htype), Nat.zero_add]
      exact matchKeyword_of_isWhitespace (hdml htype) hk hmem
    · rw [Nat.zero_add]
      exact BindScan.found_append (s := {}) (by simp) fun htype i keyword _ => by
        rw [upper_append, upper_of_isWhitespace (hdml htype)]
        exact matchKeyword_append (hdml htype) i keyword
  · intro h
    by_cases hblank : ∀ p ∈ pieces, p.IsBlank
    · exact Or.inl hblank
    · refine Or.inr ?_
      rw [← h.statementType, statementType_new, htext, ofText_leadingText hblank]

/-- A comment in front of a query makes a statement of no known kind. -/
theorem not_sameKind_leadingText : ¬∀ (tables : CharTables) (pieces : List LeadingPiece)
    (sql : String),
    SameKind (new tables (String.ofList (leadingText pieces) ++ sql)) (new tables sql) := by
  intro hall
  have hsame := hall .ascii [.blockComment [' '] (by unfold NoClose; decide)] "SELECT 1 FROM DUAL"
  exact absurd hsame.statementType (by decide +kernel)

end Statement

end OracleRs
