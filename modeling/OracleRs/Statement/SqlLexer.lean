import OracleRs.Statement.BindScan

set_option relaxedAutoImplicit false
set_option autoImplicit false

/-!
# The tokens of a SQL text

The lexical structure of SQL, as far as its bind placeholders depend on it: literals, quoted
identifiers, comments, placeholders, and single characters. What is not closed extends to the end of
the text. It says what the scan of a statement is for, and does not follow its code.

## Main definitions

* `OracleRs.Token`, `OracleRs.token` — the token at the front of a text, and its length.
* `OracleRs.tokens` — the tokens of a text with their positions.
* `OracleRs.keywordAt` — a keyword stands at a position, as a whole identifier and in any case.

## Main results

* `OracleRs.placeholder_cases` — a placeholder is there if and only if the scan extracts a name.
* `OracleRs.begins_of_character` — the scan takes no single character for a beginning.
-/

namespace OracleRs

/-- The kinds of tokens. -/
inductive Token where
  /-- `'…'` -/
  | string
  /-- `"…"` -/
  | quotedIdentifier
  /-- `--` up to the end of the line -/
  | lineComment
  /-- `/*` up to the next `*/` -/
  | blockComment
  /-- a colon, optional white space, and a name or number, in its normal form -/
  | placeholder (name : List Char)
  /-- anything else, character by character -/
  | character
deriving DecidableEq, Repr

/-- The characters of a block comment behind its beginning and before its end, if it has one. -/
def commentBody : List Char → Option (List Char)
  | [] => none
  | c :: l => if c = '*' ∧ l.head? = some '/' then some [] else (commentBody l).map (c :: ·)

variable (tables : CharTables) (identifiers : Bool) (text : List Char)

/-- The placeholder whose colon stands in front of the characters: its name, and the number of
characters behind the colon. A quoted name stands for itself, others stand for their upper case. -/
def placeholder (l : List Char) : Option (List Char × ℕ) :=
  let blanks := (l.takeWhile isWhitespace).length
  match l.dropWhile isWhitespace with
  | [] => none
  | first :: rest =>
    if first = '"' then
      let name := rest.takeWhile (· ≠ '"')
      if name = [] then none else some (name, blanks + (name.length + 2))
    else if first.isDigit then
      let number := (first :: rest).takeWhile Char.isDigit
      some (number, blanks + number.length)
    else if tables.isAlphabetic first then
      let name := (first :: rest).takeWhile tables.isNameChar
      some (tables.upper name, blanks + name.length)
    else
      none

/-- The token at the front of the characters, and its length. The flag says whether quoted identifiers
are tokens. -/
def token : List Char → Token × ℕ
  | [] => (.character, 1)
  | c :: l =>
    if c = '\'' then (.string, (l.takeWhile (· ≠ '\'')).length + 2)
    else if c = '"' ∧ identifiers then (.quotedIdentifier, (l.takeWhile (· ≠ '"')).length + 2)
    else if c = '-' ∧ l.head? = some '-' then
      (.lineComment, (l.tail.takeWhile (· ≠ '\n')).length + 3)
    else if c = '/' ∧ l.head? = some '*' then
      match commentBody l.tail with
      | some body => (.blockComment, body.length + 4)
      | none => (.blockComment, l.length + 1)
    else if c = ':' then
      match placeholder tables l with
      | some (name, n) => (.placeholder name, n + 1)
      | none => (.character, 1)
    else
      (.character, 1)

/-- The tokens of a text from a position on, with their positions. The number bounds how many they
are. -/
def tokensFrom : ℕ → ℕ → List (ℕ × Token)
  | 0, _ => []
  | n + 1, i =>
    if text.length ≤ i then []
    else (i, (token tables identifiers (text.drop i)).1) ::
      tokensFrom n (i + (token tables identifiers (text.drop i)).2)

/-- The tokens of a text with their positions. -/
def tokens : List (ℕ × Token) := tokensFrom tables identifiers text text.length 0

/-- The name of a placeholder. -/
def Token.name? : Token → Option (List Char)
  | placeholder name => some name
  | _ => none

/-- The names of the placeholders among the tokens. -/
def placeholderNames (l : List (ℕ × Token)) : List String :=
  l.filterMap fun t => t.2.name?.map String.ofList

/-- A keyword stands at a position of the text, in any case, and no character of an identifier is next
to it. -/
def keywordAt (i : ℕ) (keyword : List Char) : Bool :=
  ((text.drop i).take keyword.length).map Char.toUpper = keyword &&
    !(i > 0 && text[i - 1]?.any tables.isNameChar) &&
    !text[i + keyword.length]?.any tables.isNameChar

variable {tables identifiers text}

/-! ## Placeholders -/

lemma upper_ne_nil {l : List Char} (h : l ≠ []) : tables.upper l ≠ [] := by
  obtain ⟨c, l, rfl⟩ := List.exists_cons_of_ne_nil h
  rw [CharTables.upper, List.flatMap_cons]
  simp [tables.toUppercase_ne_nil c]

lemma isNameChar_of_isAlphabetic {c : Char} (h : tables.isAlphabetic c = true) :
    tables.isNameChar c = true := by
  simp [CharTables.isNameChar, CharTables.isAlphanumeric, h]

/-- A placeholder is there if and only if the scan extracts a name. -/
lemma placeholder_cases (l : List Char) :
    (placeholder tables l = none ∧ extractBindName tables l = []) ∨
    ∃ name n, placeholder tables l = some (name, n) ∧ extractBindName tables l = name ∧ name ≠ [] := by
  unfold placeholder extractBindName
  cases l.dropWhile isWhitespace with
  | nil => exact Or.inl ⟨rfl, rfl⟩
  | cons first rest =>
    dsimp only
    by_cases hquote : first = '"'
    · rw [if_pos hquote, if_pos hquote]
      by_cases hname : rest.takeWhile (· ≠ '"') = []
      · exact Or.inl ⟨if_pos hname, hname⟩
      · exact Or.inr ⟨_, _, if_neg hname, rfl, hname⟩
    rw [if_neg hquote, if_neg hquote]
    by_cases hdigit : first.isDigit = true
    · rw [if_pos hdigit, if_pos hdigit]
      exact Or.inr ⟨_, _, rfl, rfl, by simp [hdigit]⟩
    rw [if_neg hdigit, if_neg hdigit]
    by_cases halpha : tables.isAlphabetic first = true
    · rw [if_pos halpha, if_neg (by simp [halpha])]
      exact Or.inr ⟨_, _, rfl, rfl, upper_ne_nil (by simp [isNameChar_of_isAlphabetic halpha])⟩
    · exact Or.inl ⟨if_neg halpha, if_pos (by simpa using halpha)⟩

lemma extractBindName_of_placeholder {l name : List Char} {n : ℕ}
    (h : placeholder tables l = some (name, n)) : extractBindName tables l = name ∧ name ≠ [] := by
  obtain ⟨hnone, -⟩ | ⟨name', n', hsome, hname⟩ := @placeholder_cases tables l
  · rw [hnone] at h
    cases h
  · rw [hsome] at h
    cases h
    exact hname

lemma extractBindName_of_placeholder_eq_none {l : List Char} (h : placeholder tables l = none) :
    extractBindName tables l = [] := by
  obtain ⟨-, hname⟩ | ⟨name', n', hsome, -⟩ := @placeholder_cases tables l
  · exact hname
  · rw [hsome] at h
    cases h

/-! ## Comments -/

/-- A block comment with an end. -/
lemma of_commentBody_eq_some {l body : List Char} (h : commentBody l = some body) :
    (∃ rest, l = body ++ '*' :: '/' :: rest) ∧ BindScan.NoClose body := by
  induction l generalizing body with
  | nil => cases h
  | cons c l ih =>
    rw [commentBody] at h
    split_ifs at h with hend
    · obtain ⟨rfl, hd⟩ := hend
      obtain ⟨l, rfl⟩ := List.head?_eq_some_iff.mp hd
      cases h
      exact ⟨⟨l, rfl⟩, by simp [BindScan.NoClose]⟩
    · obtain ⟨body, hbody, rfl⟩ := Option.map_eq_some_iff.mp h
      obtain ⟨⟨rest, rfl⟩, hclose⟩ := ih hbody
      refine ⟨⟨rest, rfl⟩, fun b hb => ?_⟩
      rw [List.tails_cons, List.mem_cons] at hb
      rcases hb with rfl | hb
      · rintro ⟨r, hr⟩
        obtain ⟨rfl, htail⟩ := List.cons.inj hr
        refine hend ⟨rfl, ?_⟩
        rw [← htail]
        rfl
      · exact hclose b hb

/-- A block comment without an end. -/
lemma noClose_of_commentBody_eq_none {l : List Char} (h : commentBody l = none) :
    BindScan.NoClose l := by
  induction l with
  | nil => simp [BindScan.NoClose]
  | cons c l ih =>
    rw [commentBody] at h
    split_ifs at h with hend
    rw [Option.map_eq_none_iff] at h
    intro b hb
    rw [List.tails_cons, List.mem_cons] at hb
    rcases hb with rfl | hb
    · rintro ⟨r, hr⟩
      obtain ⟨rfl, htail⟩ := List.cons.inj hr
      exact hend ⟨rfl, by rw [← htail]; rfl⟩
    · exact ih h b hb

/-! ## Tokens -/

lemma token_of_character {c : Char} {l : List Char} (hquote : c ≠ '\'') (hident : c ≠ '"')
    (hdash : c ≠ '-') (hslash : c ≠ '/') (hcolon : c ≠ ':') :
    token tables identifiers (c :: l) = (.character, 1) := by
  simp [token, hquote, hident, hdash, hslash, hcolon]

/-- A single character is one character long. -/
lemma token_eq_of_character {l : List Char} (h : (token tables identifiers l).1 = .character) :
    token tables identifiers l = (.character, 1) := by
  cases l with
  | nil => rfl
  | cons c l =>
    rw [token] at h ⊢
    split_ifs at h ⊢
    · cases hbody : commentBody l.tail <;> rw [hbody] at h <;> cases h
    · cases hname : placeholder tables l with
      | none => rfl
      | some p => rw [hname] at h; cases h
    · rfl

/-- The scan takes no single character for the beginning of anything. -/
lemma begins_of_character {l : List Char} (h : (token tables identifiers l).1 = .character) :
    BindScan.Begins tables l = false := by
  cases l with
  | nil => rfl
  | cons c l =>
    rw [token] at h
    split_ifs at h with hquote hident hdash hopen hcolon
    · cases hbody : commentBody l.tail <;> rw [hbody] at h <;> cases h
    · cases hname : placeholder tables l with
      | none =>
        simp [BindScan.Begins, hcolon, extractBindName_of_placeholder_eq_none hname]
      | some p => rw [hname] at h; cases h
    · simpa [BindScan.Begins, hquote, hcolon] using And.intro hdash hopen

/-- A token and its length, by the characters that it begins with. -/
inductive TokenAt (tables : CharTables) (identifiers : Bool) : List Char → Token → ℕ → Prop
  /-- a literal -/
  | string (l : List Char) : TokenAt tables identifiers ('\'' :: l) .string
      ((l.takeWhile (· ≠ '\'')).length + 2)
  /-- a quoted identifier -/
  | quotedIdentifier (l : List Char) (hident : identifiers = true) :
      TokenAt tables identifiers ('"' :: l) .quotedIdentifier ((l.takeWhile (· ≠ '"')).length + 2)
  /-- a line comment -/
  | lineComment (l : List Char) : TokenAt tables identifiers ('-' :: '-' :: l) .lineComment
      ((l.takeWhile (· ≠ '\n')).length + 3)
  /-- a block comment -/
  | blockComment (body rest : List Char)
      (hbody : commentBody (body ++ '*' :: '/' :: rest) = some body)
      (hclose : BindScan.NoClose body) :
      TokenAt tables identifiers ('/' :: '*' :: (body ++ '*' :: '/' :: rest)) .blockComment
        (body.length + 4)
  /-- a block comment without an end -/
  | openComment (l : List Char) (hclose : BindScan.NoClose l) :
      TokenAt tables identifiers ('/' :: '*' :: l) .blockComment (l.length + 2)
  /-- a placeholder -/
  | placeholder (l name : List Char) (n : ℕ) (hname : extractBindName tables l = name)
      (hne : name ≠ []) : TokenAt tables identifiers (':' :: l) (.placeholder name) (n + 1)
  /-- a single character -/
  | character (l : List Char) (hbegins : BindScan.Begins tables l = false) :
      TokenAt tables identifiers l .character 1

/-- Every token is one of these. -/
lemma tokenAt_token (l : List Char) :
    TokenAt tables identifiers l (token tables identifiers l).1 (token tables identifiers l).2 := by
  cases hl : l with
  | nil => exact .character [] rfl
  | cons c l =>
    by_cases hchar : (token tables identifiers (c :: l)).1 = .character
    · rw [token_eq_of_character hchar]
      exact .character _ (begins_of_character hchar)
    rw [token] at hchar ⊢
    split_ifs at hchar ⊢ with hquote hident hdash hopen hcolon
    · subst hquote
      exact .string l
    · obtain ⟨rfl, htrue⟩ := hident
      exact .quotedIdentifier l htrue
    · obtain ⟨rfl, hd⟩ := hdash
      obtain ⟨l, rfl⟩ := List.head?_eq_some_iff.mp hd
      exact .lineComment l
    · obtain ⟨rfl, hd⟩ := hopen
      obtain ⟨l, rfl⟩ := List.head?_eq_some_iff.mp hd
      cases hbody : commentBody l with
      | none => 
        simp only [List.tail_cons, hbody, List.length_cons]
        exact .openComment l (noClose_of_commentBody_eq_none hbody)
      | some body =>
        obtain ⟨⟨rest, rfl⟩, hclose⟩ := of_commentBody_eq_some hbody
        simp only [List.tail_cons, hbody]
        exact .blockComment body rest hbody hclose
    · subst hcolon
      cases hname : placeholder tables l with
      | none => simp [hname] at hchar
      | some p =>
        obtain ⟨hextract, hne⟩ := extractBindName_of_placeholder hname
        exact .placeholder l p.1 p.2 hextract hne
    · exact absurd rfl hchar

lemma length_token_pos (l : List Char) : 0 < (token tables identifiers l).2 := by
  have htoken := @tokenAt_token tables identifiers l
  generalize (token tables identifiers l).1 = kind at htoken
  generalize (token tables identifiers l).2 = n at htoken
  cases htoken <;> omega

/-- The tokens from a position on are within the text, and not in front of the position. -/
lemma position_of_mem_tokensFrom {n i : ℕ} {t : ℕ × Token}
    (h : t ∈ tokensFrom tables identifiers text n i) :
    i ≤ t.1 ∧ t.1 < text.length ∧ t.2 = (token tables identifiers (text.drop t.1)).1 := by
  induction n generalizing i with
  | zero => cases h
  | succ n ih =>
    rw [tokensFrom] at h
    split_ifs at h with hend
    · cases h
    rcases List.mem_cons.mp h with rfl | h
    · exact ⟨le_rfl, not_le.mp hend, rfl⟩
    · have hpos := @length_token_pos tables identifiers (text.drop i)
      obtain ⟨hle, hlt, hkind⟩ := ih h
      exact ⟨by omega, hlt, hkind⟩

/-- The tokens stand one behind the other. -/
lemma le_of_mem_tokensFrom {n i : ℕ} {t t' : ℕ × Token}
    (h : t ∈ tokensFrom tables identifiers text n i)
    (h' : t' ∈ tokensFrom tables identifiers text n i) (hlt : t.1 < t'.1) :
    t.1 + (token tables identifiers (text.drop t.1)).2 ≤ t'.1 := by
  induction n generalizing i with
  | zero => cases h
  | succ n ih =>
    have hpos := @length_token_pos tables identifiers (text.drop i)
    rw [tokensFrom] at h h'
    split_ifs at h h' with hend
    · cases h
    rcases List.mem_cons.mp h with rfl | h <;> rcases List.mem_cons.mp h' with rfl | h'
    · exact absurd hlt (lt_irrefl i)
    · exact (position_of_mem_tokensFrom h').1
    · have hle := (position_of_mem_tokensFrom h).1
      dsimp only at hlt
      omega
    · exact ih h h'

end OracleRs
