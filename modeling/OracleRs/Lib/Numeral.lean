import Mathlib.Tactic

set_option relaxedAutoImplicit false
set_option autoImplicit false

/-!
# Numerals of a fixed width

Positional numerals with the most significant digit first, of a given base, width and alphabet. The
alphabet is a function from digits to characters, and a reader is a partial function back.

## Main definitions

* `Numeral.write` — the last digits of a number.
* `Numeral.read` — the number of a numeral, if all its characters are digits.
* `Numeral.Alphabet` — a reader that undoes an alphabet.

## Main results

* `Numeral.write_succ` — the digits of a longer numeral stand in front.
* `Numeral.Alphabet.read_eq_some_iff` — the numerals that are read are those that are written.
* `Numeral.Alphabet.write_inj` — numbers below the power of the base have different numerals.
-/

namespace Numeral

variable {α : Type} (base : ℕ) (digit : ℕ → α) (value : α → Option ℕ)

/-- The last `width` digits of a number. -/
def write (n : ℕ) : ℕ → List α
  | 0 => []
  | width + 1 => write (n / base) width ++ [digit (n % base)]

/-- The number of a numeral, if all its characters are digits. -/
def read (cs : List α) : Option ℕ :=
  cs.foldlM (fun n c => (value c).map fun d => n * base + d) 0

variable {base digit value} {n m width : ℕ} {c : α} {cs : List α}

@[simp] lemma length_write : (write base digit n width).length = width := by
  induction width generalizing n with
  | zero => rfl
  | succ width ih => rw [write, List.length_append, ih, List.length_singleton]

/-- The digits of a longer numeral stand in front. -/
lemma write_succ : write base digit n (width + 1) =
    digit (n / base ^ width % base) :: write base digit n width := by
  induction width generalizing n with
  | zero => simp [write]
  | succ width ih =>
    have hdiv : n / base / base ^ width = n / base ^ (width + 1) := by
      rw [Nat.div_div_eq_div_mul, pow_succ']
    rw [write, ih, List.cons_append, hdiv]
    rfl

@[simp] lemma write_zero : write base digit 0 width = List.replicate width (digit 0) := by
  induction width with
  | zero => rfl
  | succ width ih => rw [write, Nat.zero_div, Nat.zero_mod, ih, List.replicate_succ']

lemma map_write {β : Type} (f : α → β) :
    (write base digit n width).map f = write base (f ∘ digit) n width := by
  induction width generalizing n with
  | zero => rfl
  | succ width ih => rw [write, List.map_append, ih, write, List.map_singleton, Function.comp_apply]

/-- The characters of a numeral are digits. -/
lemma exists_of_mem_write (hbase : 0 < base) (h : c ∈ write base digit n width) :
    ∃ d < base, digit d = c := by
  induction width generalizing n with
  | zero => cases h
  | succ width ih =>
    rw [write, List.mem_append, List.mem_singleton] at h
    rcases h with h | rfl
    · exact ih h
    · exact ⟨_, Nat.mod_lt n hbase, rfl⟩

@[simp] lemma read_nil : read base value [] = some 0 := rfl

/-- One more digit at the end multiplies by the base. -/
lemma read_append_singleton : read base value (cs ++ [c]) =
    (read base value cs).bind fun n => (value c).map fun d => n * base + d := by
  rw [read, List.foldlM_append]
  exact bind_congr fun n => bind_pure _

/-- A reader that undoes an alphabet. -/
structure Alphabet (base : ℕ) (digit : ℕ → α) (value : α → Option ℕ) : Prop where
  /-- the base is positive -/
  pos : 0 < base
  /-- digits are read -/
  value_digit : ∀ d < base, value (digit d) = some d
  /-- what is read is a digit -/
  of_value : ∀ c d, value c = some d → d < base ∧ digit d = c

namespace Alphabet

variable (h : Alphabet base digit value)

include h

/-- Numerals are read. -/
lemma read_write (hn : n < base ^ width) : read base value (write base digit n width) = some n := by
  induction width generalizing n with
  | zero =>
    obtain rfl : n = 0 := by simpa using hn
    rfl
  | succ width ih =>
    have hdiv : n / base < base ^ width := Nat.div_lt_of_lt_mul (by rwa [← pow_succ'])
    rw [write, read_append_singleton, ih hdiv, Option.bind_some, h.value_digit _ (Nat.mod_lt n h.pos),
      Option.map_some, Nat.div_add_mod']

/-- What is read is the numeral of a number below the power of the base. -/
lemma of_read (hread : read base value cs = some n) :
    n < base ^ cs.length ∧ write base digit n cs.length = cs := by
  induction cs using List.reverseRecOn generalizing n with
  | nil =>
    cases hread
    exact ⟨Nat.one_pos, rfl⟩
  | append_singleton cs c ih =>
    rw [read_append_singleton, Option.bind_eq_some_iff] at hread
    obtain ⟨n, hread, hlast⟩ := hread
    obtain ⟨d, hd, rfl⟩ := Option.map_eq_some_iff.mp hlast
    obtain ⟨hlt, hwrite⟩ := ih hread
    obtain ⟨hd, hdigit⟩ := h.of_value c d hd
    have hquot : (n * base + d) / base = n := by
      rw [add_comm, Nat.add_mul_div_right _ _ h.pos, Nat.div_eq_of_lt hd, Nat.zero_add]
    have hrem : (n * base + d) % base = d := by
      rw [add_comm, Nat.add_mul_mod_self_right, Nat.mod_eq_of_lt hd]
    rw [List.length_append, List.length_singleton]
    refine ⟨?_, ?_⟩
    · calc n * base + d < (n + 1) * base := by rw [add_mul, one_mul]; omega
        _ ≤ base ^ cs.length * base := Nat.mul_le_mul_right base hlt
        _ = base ^ (cs.length + 1) := (pow_succ base cs.length).symm
    · rw [write, hquot, hrem, hwrite, hdigit]

/-- The numerals that are read are those that are written. -/
lemma read_eq_some_iff :
    read base value cs = some n ↔ n < base ^ cs.length ∧ write base digit n cs.length = cs := by
  refine ⟨h.of_read, fun ⟨hlt, hwrite⟩ => ?_⟩
  rw [← hwrite, length_write] at *
  exact h.read_write hlt

/-- Numbers below the power of the base have different numerals. -/
lemma write_inj (hn : n < base ^ width) (hm : m < base ^ width) :
    write base digit n width = write base digit m width ↔ n = m := by
  refine ⟨fun hwrite => ?_, congrArg (write base digit · width)⟩
  have hread := h.read_write hn
  rw [hwrite, h.read_write hm] at hread
  exact (Option.some_injective _ hread).symm

/-- Only the numeral of zero has no digit but zero. -/
lemma forall_write_iff (hn : n < base ^ width) :
    (∀ c ∈ write base digit n width, c = digit 0) ↔ n = 0 := by
  have hzero : (∀ c ∈ write base digit n width, c = digit 0) ↔
      write base digit n width = write base digit 0 width := by
    rw [write_zero, List.eq_replicate_iff, length_write]
    exact (and_iff_right rfl).symm
  rw [hzero, h.write_inj hn (pow_pos h.pos width)]

end Alphabet

end Numeral
