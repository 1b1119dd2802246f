import OracleRs.Lib.Cutting
import OracleRs.Lib.Overflow
import OracleRs.Statement.BindScan

set_option relaxedAutoImplicit false
set_option autoImplicit false

/-!
# The calls of the command-line front end

The front end `sqlrs` takes the call behind `EXEC` apart (`parse_call` of `bin/sqlrs.rs`): the name in front of
the first opening parenthesis, and the arguments between it and the last closing parenthesis. The arguments
stand between the commas outside of string literals and parentheses (`split_top_level`). Both use offsets in
bytes.

The parts of a split are always pieces of the text. A closing parenthesis in front of the first opening one,
as in `)(`, is an argument range that ends before it begins.

## Main definitions

* `OracleRs.parseCall`, `OracleRs.splitTopLevel` — the two functions.
* `OracleRs.TopLevel` — a position outside of string literals and parentheses.
* `OracleRs.Lossless` — a split returns the text between the delimiters at the top level.

## Main results

* `OracleRs.splitTopLevel_spec` — where the split cuts a text, and when it panics.
* `OracleRs.parseCall_returns_and_lossless_iff` — when a call is taken apart without a panic, and a split is
  lossless.
-/

namespace OracleRs

open Cutting
open Overflow (Build)

/-! ## Slices -/

/-- What comes of a call that is not taken apart. -/
inductive CallFailure where
  /-- an error -/
  | message (text : String)
  /-- a panic -/
  | panic
deriving DecidableEq, Repr

/-- A text cut at a byte offset, if a character begins there or the text ends. -/
def splitAtByte : List Char → ℕ → Option (List Char × List Char)
  | text, 0 => some ([], text)
  | [], _ + 1 => none
  | c :: text, n + 1 =>
    if c.utf8Size ≤ n + 1 then (splitAtByte text (n + 1 - c.utf8Size)).map fun p => (c :: p.1, p.2) else none

/-- `text[start..]`. -/
def sliceBytesFrom (text : List Char) (start : ℕ) : Except CallFailure (List Char) :=
  (splitAtByte text start).elim (.error .panic) fun p => .ok p.2

/-- `text[start..stop]`. -/
def sliceBytes (text : List Char) (start stop : ℕ) : Except CallFailure (List Char) :=
  (splitAtByte text stop).elim (.error .panic) fun p => sliceBytesFrom p.1 start

/-- `text.find(c)`. -/
def findChar (c : Char) : List Char → Option ℕ
  | [] => none
  | ch :: text => if ch = c then some 0 else (findChar c text).map (ch.utf8Size + ·)

/-- `text.rfind(c)`. -/
def rfindChar (c : Char) : List Char → Option ℕ
  | [] => none
  | ch :: text => ((rfindChar c text).map (ch.utf8Size + ·)).or (if ch = c then some 0 else none)

section Slices

variable {front text back : List Char} {c : Char}

lemma splitAtByte_append (front back : List Char) :
    splitAtByte (front ++ back) (utf8Len front) = some (front, back) := by
  induction front with
  | nil => cases back <;> rfl
  | cons c front ih =>
    have hpos := c.utf8Size_pos
    obtain ⟨n, hn⟩ : ∃ n, utf8Len (c :: front) = n + 1 :=
      Nat.exists_eq_succ_of_ne_zero (by rw [utf8Len_cons]; omega)
    have hrest : n + 1 - c.utf8Size = utf8Len front := by rw [← hn, utf8Len_cons, Nat.add_sub_cancel_left]
    have hle : c.utf8Size ≤ n + 1 := by rw [← hn, utf8Len_cons]; exact Nat.le_add_right _ _
    rw [List.cons_append, hn, splitAtByte, if_pos hle, hrest, ih]
    rfl

lemma splitAtByte_of_lt {n : ℕ} (h : utf8Len text < n) : splitAtByte text n = none := by
  induction text generalizing n with
  | nil =>
    cases n with
    | zero => cases h
    | succ n => rfl
  | cons c text ih =>
    cases n with
    | zero => cases h
    | succ n =>
      rw [utf8Len_cons] at h
      rw [splitAtByte]
      split_ifs
      · rw [ih (by omega)]
        rfl
      · rfl

@[simp] lemma sliceBytesFrom_append (front back : List Char) :
    sliceBytesFrom (front ++ back) (utf8Len front) = .ok back := by
  rw [sliceBytesFrom, splitAtByte_append]
  rfl

lemma sliceBytesFrom_take (k : ℕ) (text : List Char) : sliceBytesFrom text (utf8Len (text.take k)) = .ok (text.drop k) := by
  have h := sliceBytesFrom_append (text.take k) (text.drop k)
  rwa [List.take_append_drop] at h

/-- A slice between two characters. -/
lemma sliceBytes_append (front text back : List Char) :
    sliceBytes (front ++ (text ++ back)) (utf8Len front) (utf8Len front + utf8Len text) = .ok text := by
  rw [sliceBytes, ← List.append_assoc, ← utf8Len_append, splitAtByte_append]
  exact sliceBytesFrom_append front text

lemma sliceBytes_take {k i : ℕ} (hk : k ≤ i) (text : List Char) :
    sliceBytes text (utf8Len (text.take k)) (utf8Len (text.take i)) = .ok ((text.drop k).take (i - k)) := by
  have htake : text.take k ++ (text.drop k).take (i - k) = text.take i := by
    rw [← List.take_add, Nat.add_sub_cancel' hk]
  have hslice := sliceBytes_append (text.take k) ((text.drop k).take (i - k)) (text.drop i)
  rwa [← utf8Len_append, ← List.append_assoc, htake, List.take_append_drop] at hslice

/-- A slice that ends before it begins. -/
lemma sliceBytes_of_lt {start : ℕ} (h : utf8Len front < start) :
    sliceBytes (front ++ back) start (utf8Len front) = .error .panic := by
  rw [sliceBytes, splitAtByte_append, Option.elim_some, sliceBytesFrom, splitAtByte_of_lt h]
  rfl

lemma findChar_of_not_mem (h : c ∉ text) : findChar c text = none := by
  induction text with
  | nil => rfl
  | cons ch text ih =>
    rw [List.mem_cons, not_or] at h
    rw [findChar, if_neg (Ne.symm h.1), ih h.2]
    rfl

lemma findChar_append (back : List Char) (h : c ∉ front) :
    findChar c (front ++ c :: back) = some (utf8Len front) := by
  induction front with
  | nil => exact if_pos rfl
  | cons ch front ih =>
    rw [List.mem_cons, not_or] at h
    rw [List.cons_append, findChar, if_neg (Ne.symm h.1), ih h.2]
    rfl

lemma rfindChar_of_not_mem (h : c ∉ text) : rfindChar c text = none := by
  induction text with
  | nil => rfl
  | cons ch text ih =>
    rw [List.mem_cons, not_or] at h
    rw [rfindChar, if_neg (Ne.symm h.1), ih h.2]
    rfl

lemma rfindChar_append (front : List Char) (h : c ∉ back) :
    rfindChar c (front ++ c :: back) = some (utf8Len front) := by
  induction front with
  | nil =>
    rw [List.nil_append, rfindChar, rfindChar_of_not_mem h, if_pos rfl]
    rfl
  | cons ch front ih =>
    rw [List.cons_append, rfindChar, ih]
    rfl

end Slices

/-! ## The split -/

/-- The variables of `split_top_level`. -/
structure TopLevelSplit where
  /-- the byte offset at which the part begins -/
  start : ℕ := 0
  /-- the depth of the parentheses -/
  depth : ℤ := 0
  /-- is it in a string literal? -/
  inSingleQuote : Bool := false
  /-- the parts in front -/
  parts : List (List Char) := []
deriving DecidableEq, Repr

section Source

variable (build : Build) (text : List Char) (delimiter : Char)

/-- One turn of the loop of `split_top_level`, at the character at a byte offset. -/
def TopLevelSplit.step (idx : ℕ) (ch : Char) (s : TopLevelSplit) : Except CallFailure TopLevelSplit :=
  if ch = '\'' then .ok { s with inSingleQuote := !s.inSingleQuote }
  else if ch = '(' ∧ !s.inSingleQuote then
    return { s with depth := ← build.i32 .panic (s.depth + 1) }
  else if ch = ')' ∧ !s.inSingleQuote then
    return { s with depth := ← build.i32 .panic (s.depth + -1) }
  else if ch = delimiter ∧ !s.inSingleQuote ∧ s.depth = 0 then
    return { s with parts := s.parts ++ [← sliceBytes text s.start idx], start := idx + ch.utf8Size }
  else .ok s

/-- The loop of `split_top_level`, over the characters from a byte offset on. -/
def TopLevelSplit.run : ℕ → List Char → TopLevelSplit → Except CallFailure TopLevelSplit
  | _, [], s => .ok s
  | idx, ch :: rest, s => do run (idx + ch.utf8Size) rest (← s.step build text delimiter idx ch)

/-- `split_top_level`. -/
def splitTopLevel : Except CallFailure (List (List Char)) := do
  let s ← TopLevelSplit.run build text delimiter 0 text {}
  return s.parts ++ [← sliceBytesFrom text s.start]

/-- The text of the error for a call without parentheses. -/
def unsupportedForm (call : List Char) : CallFailure :=
  .message s!"SP2-0734: unsupported EXEC form: {String.ofList call}"

/-- `parse_call`. -/
def parseCall (call : List Char) : Except CallFailure (String × List String) := do
  let opening ← (findChar '(' call).elim (.error (unsupportedForm call)) .ok
  let closing ← (rfindChar ')' call).elim (.error (unsupportedForm call)) .ok
  let name := trim (String.ofList (← sliceBytes call 0 opening))
  let args ← splitTopLevel build (← sliceBytes call (opening + 1) closing) ','
  return (name, (args.map fun arg => trim (String.ofList arg)).filter (· ≠ ""))

end Source

/-! ## Nesting -/

section Nesting

/-- The quotes and parentheses, at which the split never cuts. -/
def structural : List Char := ['\'', '(', ')']

variable (text : List Char)

/-- Does a position stand in a string literal? -/
def Quoted (i : ℕ) : Prop := Odd ((text.take i).count '\'')

instance (i : ℕ) : Decidable (Quoted text i) := inferInstanceAs (Decidable (Odd _))

/-- What a character adds to the depth of the parentheses. -/
def parenWeight (c : Char) : ℤ := if c = '(' then 1 else if c = ')' then -1 else 0

/-- The depth of the parentheses in front of a position, outside of string literals. -/
def depthAt (i : ℕ) : ℤ :=
  ∑ j ∈ Finset.range i, if Quoted text j then 0 else (text[j]?.map parenWeight).getD 0

/-- A position at which a character is neither in a string literal nor in parentheses: no quote and no
parenthesis stands so, since a literal or an argument list ends or begins with it. -/
def TopLevel (i : ℕ) : Prop :=
  (¬Quoted text i ∧ depthAt text i = 0) ∧ ¬Quoted text (i + 1) ∧ depthAt text (i + 1) = 0

/-- The depth of the parentheses never overflows. -/
def DepthsFit (build : Build) : Prop := ∀ i ≤ text.length, build.Fits (depthAt text i)

/-- A position at which the split cuts: the depth is known up to a multiple of `2^32`. -/
def CutsAt (delimiter : Char) (i : ℕ) : Prop :=
  text[i]? = some delimiter ∧ delimiter ∉ structural ∧ ¬Quoted text i ∧ (depthAt text i).bmod (2 ^ 32) = 0

/-- The split of a text returns what stands between the delimiters at the top level, and so the whole
text. -/
def Lossless (build : Build) (delimiter : Char) : Prop :=
  ∃ parts, splitTopLevel build text delimiter = .ok parts ∧ [delimiter].intercalate parts = text ∧
    ∀ i, i ∈ cutPositions parts ↔ text[i]? = some delimiter ∧ TopLevel text i

variable {text} {i : ℕ} {c : Char}

lemma not_quoted_zero : ¬Quoted text 0 := by simp [Quoted]

lemma depthAt_zero : depthAt text 0 = 0 := rfl

/-- A quote opens or closes a string literal. -/
lemma quoted_succ_quote (hi : text[i]? = some '\'') : Quoted text (i + 1) ↔ ¬Quoted text i := by
  rw [Quoted, List.take_add_one, hi, Option.toList_some, List.count_append, List.count_singleton_self,
    Nat.odd_add_one, ← Quoted]

/-- Every other character stands where the next one stands. -/
lemma quoted_succ (hi : text[i]? = some c) (hc : c ≠ '\'') : Quoted text (i + 1) ↔ Quoted text i := by
  rw [Quoted, List.take_add_one, hi, Option.toList_some, List.count_append,
    List.count_singleton, if_neg (by simpa using hc), Nat.add_zero, ← Quoted]

lemma depthAt_succ_of_quoted (h : Quoted text i) : depthAt text (i + 1) = depthAt text i := by
  rw [depthAt, Finset.sum_range_succ, if_pos h, add_zero, ← depthAt]

lemma depthAt_succ (hi : text[i]? = some c) (h : ¬Quoted text i) :
    depthAt text (i + 1) = depthAt text i + parenWeight c := by
  rw [depthAt, Finset.sum_range_succ, if_neg h, hi, ← depthAt]
  rfl

/-- A character that is no parenthesis leaves the depth as it is. -/
lemma depthAt_succ_of_weight (hi : text[i]? = some c) (hc : parenWeight c = 0) :
    depthAt text (i + 1) = depthAt text i := by
  by_cases h : Quoted text i
  · exact depthAt_succ_of_quoted h
  · rw [depthAt_succ hi h, hc, add_zero]

lemma parenWeight_of_not_mem (h : c ∉ structural) : parenWeight c = 0 := by
  simp only [structural, List.mem_cons, List.not_mem_nil, or_false, not_or] at h
  rw [parenWeight, if_neg h.2.1, if_neg h.2.2]

/-- A quote or a parenthesis changes the place of the characters, or stands in a string literal. -/
lemma not_topLevel_of_structural (hi : text[i]? = some c) (hc : c ∈ structural) : ¬TopLevel text i := by
  rintro ⟨⟨hquoted, hdepth⟩, hquoted', hdepth'⟩
  simp only [structural, List.mem_cons, List.not_mem_nil, or_false] at hc
  obtain rfl | rfl | rfl := hc
  · exact hquoted' ((quoted_succ_quote hi).mpr hquoted)
  all_goals
    rw [depthAt_succ hi hquoted, hdepth] at hdepth'
    revert hdepth'
    decide

/-- Every other character stands at the top level if there is no literal and no parenthesis around it. -/
lemma topLevel_iff (hi : text[i]? = some c) (hc : c ∉ structural) :
    TopLevel text i ↔ ¬Quoted text i ∧ depthAt text i = 0 := by
  have hquote : c ≠ '\'' := fun h => hc (by simp [h, structural])
  rw [TopLevel, quoted_succ hi hquote, depthAt_succ_of_weight hi (parenWeight_of_not_mem hc), and_self]

lemma CutsAt.eq_delimiter {delimiter : Char} (h : CutsAt text delimiter i) (hi : text[i]? = some c) :
    c = delimiter := Option.some.inj (hi.symm.trans h.1)

end Nesting

/-! ## The scan -/

section Scan

variable {build : Build} {text : List Char} {delimiter ch : Char} {i : ℕ} {s : TopLevelSplit}

/-- The state of the split behind `i` characters of a text. -/
structure SplitUpTo (build : Build) (text : List Char) (delimiter : Char) (i : ℕ) (s : TopLevelSplit) : Prop where
  /-- there was no overflow -/
  fits : build.Fits (depthAt text i)
  depth : s.depth = (depthAt text i).bmod (2 ^ 32)
  quoted : s.inSingleQuote = true ↔ Quoted text i
  /-- the parts with their delimiters are the text in front of the part that has begun -/
  start : ∃ k ≤ i, s.start = utf8Len (text.take k) ∧ closed delimiter s.parts = text.take k
  /-- the parts end where the text is cut -/
  cuts : ∀ j, j ∈ positions 0 s.parts ↔ j < i ∧ CutsAt text delimiter j

namespace SplitUpTo

lemma init : SplitUpTo build text delimiter 0 {} where
  fits := .inr (by rw [depthAt_zero]; decide)
  depth := rfl
  quoted := by simp [not_quoted_zero]
  start := ⟨0, le_rfl, rfl, rfl⟩
  cuts := by simp [positions]

lemma cuts_succ (h : SplitUpTo build text delimiter i s) (hcut : ¬CutsAt text delimiter i) (j : ℕ) :
    j ∈ positions 0 s.parts ↔ j < i + 1 ∧ CutsAt text delimiter j := by
  rw [h.cuts, Nat.lt_succ_iff_lt_or_eq]
  constructor
  · rintro ⟨hj, hj'⟩
    exact ⟨.inl hj, hj'⟩
  · rintro ⟨hj | rfl, hj'⟩
    · exact ⟨hj, hj'⟩
    · exact absurd hj' hcut

/-- A turn that does not cut. -/
lemma next {depth : ℤ} {inSingleQuote : Bool} (h : SplitUpTo build text delimiter i s)
    (hcut : ¬CutsAt text delimiter i) (hfits : build.Fits (depthAt text (i + 1)))
    (hdepth : depth = (depthAt text (i + 1)).bmod (2 ^ 32))
    (hquoted : inSingleQuote = true ↔ Quoted text (i + 1)) :
    SplitUpTo build text delimiter (i + 1) { s with depth, inSingleQuote } where
  fits := hfits
  depth := hdepth
  quoted := hquoted
  start := by
    obtain ⟨k, hk, hstart⟩ := h.start
    exact ⟨k, hk.trans i.le_succ, hstart⟩
  cuts := h.cuts_succ hcut

/-- A turn that cuts. -/
lemma cut (h : SplitUpTo build text delimiter i s) (hcut : CutsAt text delimiter i) :
    ∃ part, sliceBytes text s.start (utf8Len (text.take i)) = .ok part ∧
      SplitUpTo build text delimiter (i + 1)
        { s with parts := s.parts ++ [part], start := utf8Len (text.take i) + delimiter.utf8Size } := by
  obtain ⟨k, hk, hstart, hclosed⟩ := h.start
  obtain ⟨hi, hstruct, hquoted, -⟩ := id hcut
  obtain ⟨hlt, -⟩ := List.getElem?_eq_some_iff.mp hi
  have hquote : delimiter ≠ '\'' := fun hc => hstruct (by simp [hc, structural])
  have hdepth := depthAt_succ_of_weight hi (parenWeight_of_not_mem hstruct)
  refine ⟨(text.drop k).take (i - k), hstart ▸ sliceBytes_take hk text, ?_⟩
  refine ⟨hdepth ▸ h.fits, hdepth ▸ h.depth, ?_, ⟨i + 1, le_rfl, ?_, ?_⟩, fun j => ?_⟩
  · exact h.quoted.trans (quoted_succ hi hquote).symm
  · rw [List.take_add_one, hi, utf8Len_append]
    rfl
  · exact closed_concat_take hclosed hk hi
  · rw [positions_concat_take hclosed hk hlt, List.mem_append, List.mem_singleton, h.cuts,
      Nat.lt_succ_iff_lt_or_eq]
    constructor
    · rintro (⟨hj, hj'⟩ | rfl)
      · exact ⟨.inl hj, hj'⟩
      · exact ⟨.inr rfl, hcut⟩
    · rintro ⟨hj | rfl, hj'⟩
      · exact .inl ⟨hj, hj'⟩
      · exact .inr rfl

lemma inSingleQuote_eq_false (h : SplitUpTo build text delimiter i s) (hquoted : ¬Quoted text i) :
    s.inSingleQuote = false := by
  rw [← Bool.not_eq_true, h.quoted]
  exact hquoted

/-- A turn at a parenthesis outside of literals. -/
lemma step_paren (h : SplitUpTo build text delimiter i s) (hi : text[i]? = some ch) (hquoted : ¬Quoted text i)
    (hch : ch = '(' ∨ ch = ')') :
    s.step build text delimiter (utf8Len (text.take i)) ch =
      (build.i32 .panic (depthAt text (i + 1))).map fun depth => { s with depth } := by
  have hsum : build.i32 CallFailure.panic (s.depth + parenWeight ch) =
      build.i32 .panic (depthAt text (i + 1)) := by
    rw [h.depth, Build.i32_bmod_add h.fits, depthAt_succ hi hquoted]
  rw [← hsum, TopLevelSplit.step, h.inSingleQuote_eq_false hquoted]
  obtain rfl | rfl := hch
  · rfl
  · rfl

/-- A turn at any other character, except for the end of a part, outside of literals. -/
lemma step_other (h : SplitUpTo build text delimiter i s) (hquote : ch ≠ '\'')
    (hparen : ¬Quoted text i → ¬(ch = '(' ∨ ch = ')'))
    (hcut : ¬Quoted text i → ¬(ch = delimiter ∧ s.depth = 0)) (idx : ℕ) :
    s.step build text delimiter idx ch = .ok s := by
  rw [TopLevelSplit.step, if_neg hquote]
  by_cases hquoted : Quoted text i
  · simp [h.quoted.mpr hquoted]
  · obtain ⟨hopen, hclose⟩ := not_or.mp (hparen hquoted)
    simp [h.inSingleQuote_eq_false hquoted, hopen, hclose, hcut hquoted]

/-- What one turn does: the depth overflows, or the split goes on. -/
lemma step_spec (h : SplitUpTo build text delimiter i s) (hi : text[i]? = some ch) :
    (∃ s', s.step build text delimiter (utf8Len (text.take i)) ch = .ok s' ∧
      SplitUpTo build text delimiter (i + 1) s') ∨
    s.step build text delimiter (utf8Len (text.take i)) ch = .error .panic ∧
      ¬build.Fits (depthAt text (i + 1)) := by
  by_cases hquote : ch = '\''
  · subst hquote
    have hdepth := depthAt_succ_of_weight hi (by decide)
    refine .inl ⟨_, if_pos rfl, h.next ?_ (hdepth ▸ h.fits) (hdepth ▸ h.depth) ?_⟩
    · intro hcut
      exact hcut.2.1 (hcut.eq_delimiter hi ▸ by decide)
    · rw [quoted_succ_quote hi, ← h.quoted, Bool.not_eq_true, Bool.not_eq_true']
  have hnext := quoted_succ hi hquote
  by_cases hquoted : Quoted text i
  · have hdepth := depthAt_succ_of_quoted hquoted
    refine .inl ⟨s, h.step_other hquote (absurd hquoted) (absurd hquoted) _, ?_⟩
    exact h.next (fun hcut => hcut.2.2.1 hquoted) (hdepth ▸ h.fits) (hdepth ▸ h.depth) (h.quoted.trans hnext.symm)
  by_cases hparen : ch = '(' ∨ ch = ')'
  · rw [h.step_paren hi hquoted hparen]
    by_cases hfits : build.Fits (depthAt text (i + 1))
    · rw [Build.i32_of_fits hfits]
      refine .inl ⟨_, rfl, h.next ?_ hfits rfl (h.quoted.trans hnext.symm)⟩
      intro hcut
      obtain rfl := hcut.eq_delimiter hi
      obtain rfl | rfl := hparen <;> exact hcut.2.1 (by decide)
    · rw [Build.i32_of_not_fits hfits]
      exact .inr ⟨rfl, hfits⟩
  have hstruct : ch ∉ structural := by
    simpa [structural, not_or] using ⟨hquote, not_or.mp hparen⟩
  have hdepth := depthAt_succ_of_weight hi (parenWeight_of_not_mem hstruct)
  by_cases hcut : ch = delimiter ∧ s.depth = 0
  · obtain ⟨rfl, hzero⟩ := hcut
    obtain ⟨part, hpart, hs'⟩ := h.cut ⟨hi, hstruct, hquoted, h.depth ▸ hzero⟩
    refine .inl ⟨_, ?_, hs'⟩
    have hfalse := h.inSingleQuote_eq_false hquoted
    rw [not_or] at hparen
    simp only [TopLevelSplit.step, hquote, hparen.1, hparen.2, hfalse, hzero, hpart, ↓reduceIte, false_and,
      Bool.not_false, and_self]
    rfl
  · refine .inl ⟨s, h.step_other hquote (fun _ => hparen) (fun _ => hcut) _, ?_⟩
    refine h.next ?_ (hdepth ▸ h.fits) (hdepth ▸ h.depth) (h.quoted.trans hnext.symm)
    exact fun hcut' => hcut ⟨hcut'.eq_delimiter hi, h.depth.trans hcut'.2.2.2⟩

/-- What the loop does from a character on: the depth overflows somewhere, or the split reaches the end. -/
lemma run_spec (h : SplitUpTo build text delimiter i s) (hi : i ≤ text.length) :
    (∃ s', TopLevelSplit.run build text delimiter (utf8Len (text.take i)) (text.drop i) s = .ok s' ∧
      SplitUpTo build text delimiter text.length s' ∧
      ∀ j ≤ text.length, i ≤ j → build.Fits (depthAt text j)) ∨
    TopLevelSplit.run build text delimiter (utf8Len (text.take i)) (text.drop i) s = .error .panic ∧
      ∃ j ≤ text.length, ¬build.Fits (depthAt text j) := by
  induction hrest : text.drop i generalizing i s with
  | nil =>
    obtain rfl : i = text.length := hi.antisymm (List.drop_eq_nil_iff.mp hrest)
    exact .inl ⟨s, rfl, h, fun j hj hj' => hj.antisymm hj' ▸ h.fits⟩
  | cons ch rest ih =>
    have hget : text[i]? = some ch := by rw [← List.head?_drop, hrest, List.head?_cons]
    obtain ⟨hlt, -⟩ := List.getElem?_eq_some_iff.mp hget
    have hrest' : text.drop (i + 1) = rest := by rw [← List.drop_drop, hrest, List.drop_one, List.tail_cons]
    have hlen : utf8Len (text.take (i + 1)) = utf8Len (text.take i) + ch.utf8Size := by
      rw [List.take_add_one, hget, utf8Len_append]
      rfl
    rw [TopLevelSplit.run]
    obtain ⟨s', hstep, hs'⟩ | ⟨hstep, hfits⟩ := h.step_spec hget
    · rw [hstep, ← hlen]
      obtain ⟨s'', hrun, hs'', hfits⟩ | hpanic := ih hs' hlt hrest'
      · refine .inl ⟨s'', hrun, hs'', fun j hj hij => ?_⟩
        obtain rfl | hij := hij.eq_or_lt
        · exact h.fits
        · exact hfits j hj hij
      · exact .inr hpanic
    · rw [hstep]
      exact .inr ⟨rfl, i + 1, hlt, hfits⟩

end SplitUpTo

/-- What the split of a text does: the depth overflows somewhere, or the parts are the pieces between the
cuts. -/
lemma splitTopLevel_spec (build : Build) (text : List Char) (delimiter : Char) :
    (∃ parts, splitTopLevel build text delimiter = .ok parts ∧ [delimiter].intercalate parts = text ∧
      (∀ i, i ∈ cutPositions parts ↔ CutsAt text delimiter i) ∧ DepthsFit text build) ∨
    splitTopLevel build text delimiter = .error .panic ∧ ¬DepthsFit text build := by
  obtain ⟨s, hrun, hs, hfits⟩ | ⟨hrun, j, hj, hfits⟩ :=
    (SplitUpTo.init : SplitUpTo build text delimiter 0 {}).run_spec text.length.zero_le
  · obtain ⟨k, -, hstart, hclosed⟩ := hs.start
    refine .inl ⟨s.parts ++ [text.drop k], ?_, ?_, fun i => ?_, fun j hj => hfits j hj j.zero_le⟩
    · rw [splitTopLevel, show TopLevelSplit.run build text delimiter 0 text {} = .ok s from hrun]
      show (do return s.parts ++ [← sliceBytesFrom text s.start]) = _
      rw [hstart, sliceBytesFrom_take]
      rfl
    · rw [intercalate_concat, hclosed, List.take_append_drop]
    · rw [cutPositions, List.dropLast_concat, hs.cuts]
      refine and_iff_right_of_imp fun hcut => ?_
      exact (List.getElem?_eq_some_iff.mp hcut.1).1
  · refine .inr ⟨?_, fun h => hfits (h j hj)⟩
    rw [splitTopLevel, show TopLevelSplit.run build text delimiter 0 text {} = .error .panic from hrun]
    rfl

end Scan

/-! ## Calls -/

section Calls

variable {build : Build} {text call name args back : List Char} {delimiter : Char}

/-- A split is lossless iff no depth overflows, and none is taken for that of the top level. -/
lemma lossless_iff (build : Build) (text : List Char) (delimiter : Char) :
    Lossless text build delimiter ↔ DepthsFit text build ∧
      ∀ i, text[i]? = some delimiter → delimiter ∉ structural → ¬Quoted text i →
        2 ^ 32 ∣ depthAt text i → depthAt text i = 0 := by
  have hwrapped (i : ℕ) : (depthAt text i).bmod (2 ^ 32) = 0 ↔ 2 ^ 32 ∣ depthAt text i := by
    rw [← Int.dvd_iff_bmod_eq_zero]
    rfl
  constructor
  · rintro ⟨parts, hparts, -, hcuts⟩
    obtain ⟨parts', hparts', -, hcuts', hfits⟩ | ⟨hpanic, -⟩ := splitTopLevel_spec build text delimiter
    · rw [hparts, Except.ok.injEq] at hparts'
      subst hparts'
      refine ⟨hfits, fun i hi hstruct hquoted hdvd => ?_⟩
      have htop := (hcuts i).mp ((hcuts' i).mpr ⟨hi, hstruct, hquoted, (hwrapped i).mpr hdvd⟩)
      exact htop.2.1.2
    · rw [hparts] at hpanic
      cases hpanic
  · rintro ⟨hfits, hzero⟩
    obtain ⟨parts, hparts, htext, hcuts, -⟩ | ⟨-, hnot⟩ := splitTopLevel_spec build text delimiter
    · refine ⟨parts, hparts, htext, fun i => (hcuts i).trans ?_⟩
      rw [CutsAt]
      refine and_congr_right fun hi => ?_
      by_cases hstruct : delimiter ∈ structural
      · exact iff_of_false (fun h => h.1 hstruct) (not_topLevel_of_structural hi hstruct)
      · rw [topLevel_iff hi hstruct, and_iff_right hstruct]
        refine and_congr_right fun hquoted => ⟨fun h => ?_, fun h => by rw [h]; rfl⟩
        exact hzero i hi hstruct hquoted ((hwrapped i).mp h)
    · exact absurd hfits hnot

/-- A call without one of the parentheses is an error. -/
lemma parseCall_of_not_mem (h : '(' ∉ call ∨ ')' ∉ call) :
    parseCall build call = .error (unsupportedForm call) := by
  obtain h | h := h
  · rw [parseCall, findChar_of_not_mem h]
    rfl
  · rw [parseCall, rfindChar_of_not_mem h]
    cases findChar '(' call <;> rfl

/-- The arguments of a call stand between the first opening and the last closing parenthesis. -/
structure Encloses (name args back call : List Char) : Prop where
  /-- the call -/
  call_eq : call = name ++ '(' :: (args ++ ')' :: back)
  /-- the first opening parenthesis -/
  first : '(' ∉ name
  /-- the last closing parenthesis -/
  last : ')' ∉ back

/-- The arguments are split at the commas. -/
lemma Encloses.parseCall_eq (h : Encloses name args back call) :
    parseCall build call = (splitTopLevel build args ',').map fun parts =>
      (trim (String.ofList name), (parts.map fun arg => trim (String.ofList arg)).filter (· ≠ "")) := by
  obtain ⟨rfl, hfirst, hlast⟩ := h
  have hopening := findChar_append (args ++ ')' :: back) hfirst
  have hclosing : rfindChar ')' (name ++ '(' :: (args ++ ')' :: back)) =
      some (utf8Len (name ++ ['(']) + utf8Len args) := by
    have hlen := rfindChar_append (name ++ '(' :: args) hlast
    rw [List.append_assoc, List.cons_append] at hlen
    rw [hlen, ← utf8Len_append, List.append_assoc]
    rfl
  have hname : sliceBytes (name ++ '(' :: (args ++ ')' :: back)) 0 (utf8Len name) = .ok name := by
    have hslice := sliceBytes_append [] name ('(' :: (args ++ ')' :: back))
    rwa [utf8Len_nil, Nat.zero_add] at hslice
  have hargs : sliceBytes (name ++ '(' :: (args ++ ')' :: back)) (utf8Len name + 1)
      (utf8Len (name ++ ['(']) + utf8Len args) = .ok args := by
    have hslice := sliceBytes_append (name ++ ['(']) args (')' :: back)
    rw [List.append_assoc] at hslice
    rw [← hslice, utf8Len_append]
    rfl
  rw [parseCall, hopening, hclosing]
  simp only [Option.elim_some, bind, Except.bind, hname, hargs]
  cases splitTopLevel build args ',' <;> rfl

/-- A call with both parentheses: the last closing one stands behind the first opening one, or not. -/
lemma encloses_or_panics (build : Build) (hopen : '(' ∈ call) (hclose : ')' ∈ call) :
    (∃ name args back, Encloses name args back call) ∨ parseCall build call = .error .panic := by
  obtain ⟨name, behind, hcall, hfirst⟩ := List.eq_append_cons_of_mem hopen
  obtain ⟨kcab, tnorf, hreverse, hlast⟩ := List.eq_append_cons_of_mem (List.mem_reverse.mpr hclose)
  have hcall' : call = tnorf.reverse ++ ')' :: kcab.reverse := by
    rw [← List.reverse_reverse call, hreverse, List.reverse_append, List.reverse_cons, List.append_assoc]
    rfl
  have hlast' : ')' ∉ kcab.reverse := fun h => hlast (List.mem_reverse.mp h)
  generalize tnorf.reverse = front at hcall'
  generalize kcab.reverse = back at hcall' hlast'
  obtain ⟨part, hfront, hpart⟩ | ⟨part, hname, hpart⟩ :=
    List.append_eq_append_iff.mp (hcall.symm.trans hcall')
  · cases part with
    | nil => cases hpart
    | cons c args =>
      rw [List.cons_append, List.cons.injEq] at hpart
      obtain ⟨rfl, rfl⟩ := hpart
      exact .inl ⟨name, args, back, hcall, hfirst, hlast'⟩
  · have hlt : utf8Len front < utf8Len name + 1 := by
      rw [hname, utf8Len_append]
      omega
    refine .inr ?_
    have hslice : sliceBytes call (utf8Len name + 1) (utf8Len front) = .error .panic := by
      rw [hcall']
      exact sliceBytes_of_lt hlt
    have hname' : sliceBytes call 0 (utf8Len name) = .ok name := by
      have hslice := sliceBytes_append [] name ('(' :: behind)
      rwa [utf8Len_nil, Nat.zero_add, List.nil_append, ← hcall] at hslice
    have hopening : findChar '(' call = some (utf8Len name) := hcall ▸ findChar_append behind hfirst
    have hclosing : rfindChar ')' call = some (utf8Len front) := hcall' ▸ rfindChar_append front hlast'
    rw [parseCall, hopening, hclosing]
    simp only [Option.elim_some, bind, Except.bind, hname', hslice]

/-- A call is taken apart without a panic iff it lacks one of the parentheses, or the last closing one stands
behind the first opening one and no depth overflows between them. -/
lemma parseCall_returns_iff (build : Build) (call : List Char) :
    parseCall build call ≠ .error .panic ↔
      ('(' ∈ call → ')' ∈ call → ∃ name args back, Encloses name args back call ∧ DepthsFit args build) := by
  by_cases hparens : '(' ∈ call ∧ ')' ∈ call
  · rw [forall_prop_of_true hparens.1, forall_prop_of_true hparens.2]
    constructor
    · intro hreturns
      obtain ⟨name, args, back, h⟩ | hpanic := encloses_or_panics build hparens.1 hparens.2
      · refine ⟨name, args, back, h, ?_⟩
        obtain ⟨-, -, -, -, hfits⟩ | ⟨hpanic, -⟩ := splitTopLevel_spec build args ','
        · exact hfits
        · rw [h.parseCall_eq, hpanic] at hreturns
          exact absurd rfl hreturns
      · exact absurd hpanic hreturns
    · rintro ⟨name, args, back, h, hfits⟩
      obtain ⟨parts, hparts, -⟩ | ⟨-, hnot⟩ := splitTopLevel_spec build args ','
      · rw [h.parseCall_eq, hparts]
        intro hpanic
        cases hpanic
      · exact absurd hfits hnot
  · rw [parseCall_of_not_mem (not_and_or.mp hparens)]
    exact iff_of_true (by simp [unsupportedForm]) fun hopen hclose => absurd ⟨hopen, hclose⟩ hparens

/-- A call is taken apart without a panic and a split is lossless iff the parentheses of the call are in order,
no depth overflows, and no depth of the text is taken for that of the top level. -/
theorem parseCall_returns_and_lossless_iff (build : Build) (call text : List Char) (delimiter : Char) :
    parseCall build call ≠ .error .panic ∧ Lossless text build delimiter ↔
      ('(' ∈ call → ')' ∈ call → ∃ name args back, Encloses name args back call ∧ DepthsFit args build) ∧
      DepthsFit text build ∧
      ∀ i, text[i]? = some delimiter → delimiter ∉ structural → ¬Quoted text i →
        2 ^ 32 ∣ depthAt text i → depthAt text i = 0 :=
  and_congr (parseCall_returns_iff build call) (lossless_iff build text delimiter)

/-- The call `)(`: its last closing parenthesis stands in front of the first opening one. -/
theorem not_parseCall_returns_reversed :
    ¬∀ (build : Build) (call text : List Char) (delimiter : Char),
      parseCall build call ≠ .error .panic ∧ Lossless text build delimiter := by
  intro h
  have hpanic : parseCall .wrapping [')', '('] = .error .panic := by decide
  exact (h .wrapping [')', '('] [] ',').1 hpanic

end Calls

end OracleRs
