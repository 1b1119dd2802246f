import Mathlib.Tactic

set_option relaxedAutoImplicit false
set_option autoImplicit false

/-!
# Arithmetic that may overflow

Arithmetic on machine integers in languages whose programs are built in two ways: with checks, so that a
result which is not representable is an error, or without, so that it wraps around. The error is a
parameter.

## Main definitions

* `Overflow.Build` — the two ways.
* `Overflow.Build.result` — the result of an operation, from its wrapped result.
* `Overflow.Build.addU8`, `Overflow.Build.mulU32`, `Overflow.Build.addI8`, `Overflow.Build.subI8`,
  `Overflow.Build.absI32`, `Overflow.Build.negI64`, `Overflow.Build.i32` — operations.

## Main results

* `Overflow.Build.result_of`, `Overflow.Build.result_of_not` — when there is an overflow.
* `Overflow.Build.i32_bmod_add` — wrapped numbers can be computed with.
-/

namespace Overflow

/-- How a program is built. -/
inductive Build where
  /-- overflows are errors -/
  | checked
  /-- overflows wrap around -/
  | wrapping
deriving DecidableEq, Repr

namespace Build

variable {ε α : Type} (build : Build) (overflow : ε)

/-- The result of an operation: the wrapped one, if overflows wrap around or the exact result is
representable. -/
def result (representable : Prop) [Decidable representable] (wrapped : α) : Except ε α :=
  if build = .wrapping ∨ representable then .ok wrapped else .error overflow

section Result

variable {build overflow} {representable : Prop} [Decidable representable] {wrapped : α}

lemma result_of (h : representable) : build.result overflow representable wrapped = .ok wrapped :=
  if_pos (.inr h)

@[simp] lemma result_wrapping : wrapping.result overflow representable wrapped = .ok wrapped :=
  if_pos (.inl rfl)

lemma result_of_not (h : ¬representable) :
    checked.result overflow representable wrapped = .error overflow :=
  if_neg (by simp [h])

end Result

/-- `a + b` for `u8`. -/
def addU8 (a b : UInt8) : Except ε UInt8 := build.result overflow (a.toNat + b.toNat < 2 ^ 8) (a + b)

/-- `a * b` for `u32`. -/
def mulU32 (a b : UInt32) : Except ε UInt32 :=
  build.result overflow (a.toNat * b.toNat < 2 ^ 32) (a * b)

/-- `a + b` for `i8`. -/
def addI8 (a b : Int8) : Except ε Int8 :=
  build.result overflow (-2 ^ 7 ≤ a.toInt + b.toInt ∧ a.toInt + b.toInt < 2 ^ 7) (a + b)

/-- `a - b` for `i8`. -/
def subI8 (a b : Int8) : Except ε Int8 :=
  build.result overflow (-2 ^ 7 ≤ a.toInt - b.toInt ∧ a.toInt - b.toInt < 2 ^ 7) (a - b)

/-- `a.abs()` for `i32`: the smallest number has no absolute value. -/
def absI32 (a : Int32) : Except ε Int32 :=
  build.result overflow (a ≠ Int32.minValue) a.abs

/-- `-a` for `i64`: the smallest number has no opposite. -/
def negI64 (a : Int64) : Except ε Int64 := build.result overflow (a ≠ Int64.minValue) (-a)

/-- A number computed in `i32`. -/
def i32 (n : ℤ) : Except ε ℤ := build.result overflow (-2 ^ 31 ≤ n ∧ n < 2 ^ 31) (n.bmod (2 ^ 32))

/-- A number that the arithmetic of a build passes over: without checks every one. -/
def Fits (n : ℤ) : Prop := build = .wrapping ∨ -2 ^ 31 ≤ n ∧ n < 2 ^ 31

variable {build overflow}

lemma i32_of_fits {n : ℤ} (h : build.Fits n) : build.i32 overflow n = .ok (n.bmod (2 ^ 32)) := if_pos h

lemma i32_of_not_fits {n : ℤ} (h : ¬build.Fits n) : build.i32 overflow n = .error overflow := if_neg h

/-- A sum may be computed from a wrapped number. -/
lemma i32_bmod_add {n k : ℤ} (h : build.Fits n) :
    build.i32 overflow (n.bmod (2 ^ 32) + k) = build.i32 overflow (n + k) := by
  obtain rfl | ⟨hlow, hhigh⟩ := h
  · rw [i32, i32, result_wrapping, result_wrapping, Int.bmod_add_bmod]
  · rw [Int.bmod_eq_of_le (by omega) (by omega)]

lemma i32_eq_ok {n : ℤ} (hlow : -2 ^ 31 ≤ n) (hhigh : n < 2 ^ 31) : build.i32 overflow n = .ok n := by
  have hmod : n.bmod (2 ^ 32) = n := Int.bmod_eq_of_le (by omega) (by omega)
  rw [i32, result_of ⟨hlow, hhigh⟩, hmod]

end Build

end Overflow
