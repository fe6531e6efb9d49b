import Mathlib.Algebra.Order.Ring.Nat
import Mathlib.Data.List.Range

set_option relaxedAutoImplicit false
set_option autoImplicit false

/-!
# Portions of a list

A list is passed on in portions of a fixed size; the last portion may be shorter. The portions, one
after the other, are the list.

## Main definitions

* `Portions.portion` — one portion.
* `Portions.last` — the number of the last portion of a list that is not empty.

## Main results

* `Portions.flatMap_portion` — portions, one after the other, are the beginning of the list.
* `Portions.length_portion`, `Portions.length_portion_last` — the sizes of the portions.
-/

namespace Portions

variable {α : Type*} (k : ℕ)

/-- The portion with a number. -/
def portion (l : List α) (i : ℕ) : List α := (l.drop (k * i)).take k

/-- The number of the last portion of a list with `n` elements. -/
def last (n : ℕ) : ℕ := (n - 1) / k

/-- Portions, one after the other, are the beginning of the list. -/
lemma flatMap_portion (l : List α) (m : ℕ) :
    (List.range m).flatMap (portion k l) = l.take (k * m) := by
  induction m with
  | zero => simp
  | succ m ih =>
    rw [List.range_succ, List.flatMap_append, ih, List.flatMap_singleton, portion, Nat.mul_succ,
      List.take_add]

variable {k}

/-- A list ends in its last portion. -/
lemma le_mul_last {n : ℕ} (hk : 0 < k) : n ≤ k * (last k n + 1) := by
  have hlt := Nat.lt_mul_div_succ (n - 1) hk
  rw [last]
  omega

/-- The portions before the last one are full. -/
lemma length_portion {l : List α} {i : ℕ} (hi : i < last k l.length) :
    (portion k l i).length = k := by
  have hle : k * (i + 1) ≤ k * last k l.length := Nat.mul_le_mul_left k hi
  have hdiv := Nat.mul_div_le (l.length - 1) k
  rw [last] at hle
  rw [Nat.mul_succ] at hle
  rw [portion, List.length_take, List.length_drop]
  omega

/-- The last portion has what is left. -/
lemma length_portion_last {l : List α} (hk : 0 < k) :
    (portion k l (last k l.length)).length = l.length - k * last k l.length := by
  have hle := le_mul_last (n := l.length) hk
  rw [Nat.mul_succ] at hle
  rw [portion, List.length_take, List.length_drop]
  omega

/-- There is nothing behind the last portion. -/
lemma portion_of_last_lt {l : List α} {i : ℕ} (hk : 0 < k) (hi : last k l.length < i) :
    portion k l i = [] := by
  have hle : k * (last k l.length + 1) ≤ k * i := Nat.mul_le_mul_left k hi
  have hlen := le_mul_last (n := l.length) hk
  rw [portion, List.drop_of_length_le (by omega), List.take_nil]

/-- No portion is larger than a full one. -/
lemma length_portion_le (l : List α) (i : ℕ) : (portion k l i).length ≤ k :=
  List.length_take_le k _

/-- What is left for the last portion is the remainder, or a full portion if there is none. -/
lemma sub_mul_last {n : ℕ} (hk : 0 < k) (hn : 0 < n) :
    n - k * last k n = if n % k = 0 then k else n % k := by
  obtain ⟨m, rfl⟩ : ∃ m, n = m + 1 := ⟨n - 1, by omega⟩
  have hdiv := Nat.div_add_mod m k
  have hlt := Nat.mod_lt m hk
  have hlast : last k (m + 1) = m / k := rfl
  have hmod : (m + 1) % k = if m % k + 1 = k then 0 else m % k + 1 := by
    have hsplit : m + 1 = k * (m / k) + (m % k + 1) := by omega
    rw [hsplit, Nat.mul_add_mod]
    split_ifs with hfull
    · rw [hfull, Nat.mod_self]
    · exact Nat.mod_eq_of_lt (by omega)
  rw [hlast, hmod]
  by_cases hfull : m % k + 1 = k
  · rw [if_pos hfull, if_pos rfl]
    omega
  · rw [if_neg hfull, if_neg (Nat.succ_ne_zero _)]
    omega

end Portions
