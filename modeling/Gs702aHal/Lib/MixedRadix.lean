import Mathlib.Algebra.Order.Floor.Ring
import Mathlib.Algebra.Order.Field.Basic
import Mathlib.Tactic.FieldSimp
import Mathlib.Tactic.Ring

set_option relaxedAutoImplicit false
set_option autoImplicit false

/-!
# Digits in a mixed radix

A number is written as its floor and further digits: what is left below the floor is multiplied by
the next radix, and its floor is the next digit. The digits after the first are below their
radices, and the number that all of them denote is less than one unit of the last digit below the
number that is written.

## Main definitions

* `MixedRadix.digits` — the floor and the digits of a number.
* `MixedRadix.value` — the number that digits denote.

## Main results

* `MixedRadix.digits_bounds` — the digits after the first are below their radices.
* `MixedRadix.value_digits_error` — the error of the digits.
-/

namespace MixedRadix

variable {K : Type*} [Field K] [LinearOrder K] [IsStrictOrderedRing K] [FloorRing K]

/-- The floor of a number, and its digits for some radices. -/
def digits : List ℕ → K → List ℤ
  | [], x => [⌊x⌋]
  | b :: radices, x => ⌊x⌋ :: digits radices (Int.fract x * b)

/-- The number that digits denote: each is a fraction, by its radix, of the one before. -/
def value : List ℕ → List ℤ → K
  | b :: radices, d :: ds => d + value radices ds / b
  | _, d :: _ => d
  | _, [] => 0

/-- The unit of the last digit. -/
def unit (radices : List ℕ) : K := 1 / (radices.prod : ℕ)

/-- What is left below the floor, times a radix, is below the radix. -/
lemma fract_mul_range {b : ℕ} (hb : 0 < b) (x : K) :
    0 ≤ Int.fract x * b ∧ Int.fract x * b < b := by
  have hb' : (0 : K) < b := Nat.cast_pos.mpr hb
  refine ⟨mul_nonneg (Int.fract_nonneg x) hb'.le, ?_⟩
  calc Int.fract x * b < 1 * b := mul_lt_mul_of_pos_right (Int.fract_lt_one x) hb'
    _ = b := one_mul _

/-- **The digits after the first are below their radices.** -/
theorem digits_bounds {radices : List ℕ} (h : ∀ b ∈ radices, 0 < b) (x : K) :
    List.Forall₂ (fun (b : ℕ) (d : ℤ) => 0 ≤ d ∧ d < b) radices (digits radices x).tail := by
  induction radices generalizing x with
  | nil => exact .nil
  | cons b radices ih =>
    obtain ⟨hlow, hhigh⟩ := fract_mul_range (h b List.mem_cons_self) x
    have hrest := ih (fun b' hb' => h b' (List.mem_cons_of_mem b hb')) (Int.fract x * b)
    have hdigit : 0 ≤ ⌊Int.fract x * b⌋ ∧ ⌊Int.fract x * b⌋ < b := by
      refine ⟨Int.floor_nonneg.mpr hlow, Int.floor_lt.mpr ?_⟩
      exact_mod_cast hhigh
    cases radices with
    | nil => exact .cons hdigit .nil
    | cons b' radices => exact .cons hdigit hrest

/-- **The digits denote a number that is not larger**, and larger than the number less one unit of
the last digit.

**Proof sketch.** Induction on the radices: what is left below the floor, times the radix, is
approximated by the further digits; dividing by the radix divides the error. -/
theorem value_digits_error {radices : List ℕ} (h : ∀ b ∈ radices, 0 < b) (x : K) :
    value radices (digits radices x) ≤ x ∧ x < value radices (digits radices x) + unit radices := by
  induction radices generalizing x with
  | nil =>
    simp only [digits, value, unit, List.prod_nil, Nat.cast_one, div_one]
    exact ⟨Int.floor_le x, Int.lt_floor_add_one x⟩
  | cons b radices ih =>
    have hb : (0 : K) < b := Nat.cast_pos.mpr (h b List.mem_cons_self)
    obtain ⟨hle, hlt⟩ := ih (fun b' hb' => h b' (List.mem_cons_of_mem b hb')) (Int.fract x * b)
    have hsplit : x = ⌊x⌋ + Int.fract x * b / b := by
      rw [mul_div_assoc, div_self hb.ne', mul_one, Int.floor_add_fract]
    have hunit : (unit (b :: radices) : K) = unit radices / b := by
      rw [unit, unit, List.prod_cons, Nat.cast_mul, div_div, mul_comm]
    simp only [digits, value]
    constructor
    · calc (⌊x⌋ : K) + value radices (digits radices (Int.fract x * b)) / b
          ≤ ⌊x⌋ + Int.fract x * b / b := by gcongr
        _ = x := hsplit.symm
    · calc x = ⌊x⌋ + Int.fract x * b / b := hsplit
        _ < ⌊x⌋ + (value radices (digits radices (Int.fract x * b)) + unit radices) / b := by gcongr
        _ = ⌊x⌋ + value radices (digits radices (Int.fract x * b)) / b + unit (b :: radices) := by
            rw [hunit, add_div, add_assoc]

end MixedRadix
