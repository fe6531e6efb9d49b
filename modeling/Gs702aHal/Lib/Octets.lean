import Mathlib.Algebra.Order.Ring.Nat

set_option relaxedAutoImplicit false
set_option autoImplicit false

/-!
# Numbers in octets

A number is written as a fixed number of octets, the lowest one first. What does not fit is lost.

## Main definitions

* `Octets.ofNat` — the lowest octets of a number.
* `Octets.value` — the number that octets stand for.

## Main results

* `Octets.value_ofNat`, `Octets.value_ofNat_toNat` — what is read from the octets of a number, and
  of a word.
-/

namespace Octets

/-- The lowest `n` octets of a number. -/
def ofNat : ℕ → ℕ → List (BitVec 8)
  | 0, _ => []
  | n + 1, x => BitVec.ofNat 8 x :: ofNat n (x / 256)

/-- The number that octets stand for. -/
def value : List (BitVec 8) → ℕ
  | [] => 0
  | b :: l => b.toNat + 256 * value l

/-- A number is written to the octets that there are. -/
@[simp] lemma length_ofNat (n x : ℕ) : (ofNat n x).length = n := by
  induction n generalizing x with
  | zero => rfl
  | succ n ih => rw [ofNat, List.length_cons, ih]

/-- **What is read from the octets of a number** is the part of it that fits. -/
theorem value_ofNat (n x : ℕ) : value (ofNat n x) = x % 256 ^ n := by
  induction n generalizing x with
  | zero => simp [ofNat, value, Nat.mod_one]
  | succ n ih =>
    have hoctet : (BitVec.ofNat 8 x).toNat = x % 256 := BitVec.toNat_ofNat x 8
    rw [ofNat, value, ih, hoctet, pow_succ', Nat.mod_mul]

/-- A number that fits is read back. -/
lemma value_ofNat_of_lt {n x : ℕ} (hx : x < 256 ^ n) : value (ofNat n x) = x := by
  rw [value_ofNat, Nat.mod_eq_of_lt hx]

/-- A word of so many octets is read back. -/
lemma value_ofNat_toNat {w n : ℕ} (hw : w = 8 * n) (x : BitVec w) :
    value (ofNat n x.toNat) = x.toNat := by
  subst hw
  have hlt := x.isLt
  rw [pow_mul] at hlt
  exact value_ofNat_of_lt hlt

end Octets
