import Mathlib.Tactic

set_option relaxedAutoImplicit false
set_option autoImplicit false

/-!
# Padding to full blocks

Padding that says how long it is: behind a sequence of bytes stand as many bytes as are missing to the next
full block, each with their number. A sequence that is aligned gets a whole block.

## Main definitions

* `Padding.pad n x` — the sequence `x` with padding to blocks of `n` bytes.
* `Padding.unpad` — as many bytes are dropped as the last byte says.

## Main results

* `Padding.dvd_length_pad`, `Padding.pad_ne_nil` — there are full blocks, at least one.
* `Padding.unpad_pad` — the padding is removable, if its length fits a byte.
-/

namespace Padding

variable {n : ℕ}

/-- The length of the padding behind a number of bytes. -/
def padLen (n len : ℕ) : ℕ := n - len % n

lemma padLen_pos (hn : 0 < n) (len : ℕ) : 0 < padLen n len := Nat.sub_pos_of_lt (Nat.mod_lt len hn)

lemma padLen_le (n len : ℕ) : padLen n len ≤ n := Nat.sub_le n (len % n)

/-- With its padding a length is aligned. -/
lemma dvd_add_padLen (hn : 0 < n) (len : ℕ) : n ∣ len + padLen n len := by
  have hlt := Nat.mod_lt len hn
  have hlen := Nat.div_add_mod len n
  refine ⟨len / n + 1, ?_⟩
  rw [padLen, Nat.mul_add, Nat.mul_one]
  omega

/-- The bytes with their padding. -/
def pad (n : ℕ) (x : List UInt8) : List UInt8 :=
  x ++ List.replicate (padLen n x.length) (UInt8.ofNat (padLen n x.length))

lemma length_pad (n : ℕ) (x : List UInt8) : (pad n x).length = x.length + padLen n x.length := by
  rw [pad, List.length_append, List.length_replicate]

lemma dvd_length_pad (hn : 0 < n) (x : List UInt8) : n ∣ (pad n x).length := by
  rw [length_pad]
  exact dvd_add_padLen hn x.length

lemma pad_ne_nil (hn : 0 < n) (x : List UInt8) : pad n x ≠ [] := by
  have hpos := padLen_pos hn x.length
  rw [← List.length_pos_iff, length_pad]
  omega

/-- As many bytes are dropped as the last byte says. -/
def unpad (x : List UInt8) : List UInt8 := x.take (x.length - (x.getLast?.getD 0).toNat)

/-- The last byte of the padding is its length. -/
lemma getLast?_pad (hn : 0 < n) (x : List UInt8) :
    (pad n x).getLast? = some (UInt8.ofNat (padLen n x.length)) := by
  have hpos := padLen_pos hn x.length
  rw [pad, List.getLast?_append, List.getLast?_replicate, if_neg (by omega)]
  rfl

/-- The padding is removable. -/
theorem unpad_pad (hn : 0 < n) (hn' : n < 256) (x : List UInt8) : unpad (pad n x) = x := by
  have hle := padLen_le n x.length
  have hlast : (UInt8.ofNat (padLen n x.length)).toNat = padLen n x.length := by
    rw [UInt8.toNat_ofNat', Nat.mod_eq_of_lt (by omega)]
  rw [unpad, getLast?_pad hn, Option.getD_some, hlast, length_pad, Nat.add_sub_cancel]
  exact List.take_left' rfl

end Padding
