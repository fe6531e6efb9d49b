import Gs702aHal.Lib.Blocks

set_option relaxedAutoImplicit false
set_option autoImplicit false

/-!
# Vector registers

The lanes of a vector register, and the instructions that rearrange them. A register is given by the
function from the numbers of its lanes; what the function has beyond them does not count. Two
registers of `n` lanes side by side are one of `2 * n`.

## Main definitions

* `Lanes.join`, `Lanes.high` — two registers as one, and the second of two.
* `Lanes.unzip`, `Lanes.zip` — every other lane of two registers, and back.
* `Lanes.store3` — a store of three registers, lane by lane.

## Main results

* `Lanes.unzip_of_lt` — the first lanes that are unzipped are those of the first register.
* `Lanes.join_zip_self` — a register that is zipped with itself has each lane twice.
* `Lanes.store3_join` — two stores of halves are one of the whole.
-/

namespace Lanes

open Blocks

variable {α : Type*} {n : ℕ}

/-- Two registers of `n` lanes as one. -/
def join (n : ℕ) (a b : ℕ → α) : ℕ → α := fun i => if i < n then a i else b (i - n)

/-- The second half of a register of `2 * n` lanes. The first half is the register itself. -/
def high (n : ℕ) (a : ℕ → α) : ℕ → α := fun i => a (n + i)

/-- The even and the odd lanes of two registers. -/
def unzip (n : ℕ) (a b : ℕ → α) : (ℕ → α) × (ℕ → α) :=
  (fun i => join n a b (2 * i), fun i => join n a b (2 * i + 1))

/-- The lanes of two registers in turn, in two registers. -/
def zip (n : ℕ) (a b : ℕ → α) : (ℕ → α) × (ℕ → α) :=
  let z := fun i => if i % 2 = 0 then a (i / 2) else b (i / 2)
  (z, high n z)

/-- The lanes of three registers in turn. -/
def store3 (n : ℕ) (a b c : ℕ → α) : List α := concat n fun i => [a i, b i, c i]

/-- The first lanes that are unzipped are those of the first register. -/
lemma unzip_of_lt (a b : ℕ → α) {i : ℕ} (hi : 2 * i + 1 < n) :
    (unzip n a b).1 i = a (2 * i) ∧ (unzip n a b).2 i = a (2 * i + 1) :=
  ⟨if_pos (Nat.lt_of_succ_lt hi), if_pos hi⟩

/-- A register that is zipped with itself has each lane twice. -/
lemma join_zip_self (a : ℕ → α) (i : ℕ) : join n (zip n a a).1 (zip n a a).2 i = a (i / 2) := by
  have hlane (k : ℕ) : (zip n a a).1 k = a (k / 2) := ite_self _
  unfold join
  split_ifs with hi
  · exact hlane i
  · have hback : n + (i - n) = i := Nat.add_sub_cancel' (Nat.not_lt.mp hi)
    exact (congrArg (zip n a a).1 hback).trans (hlane i)

/-- Two stores of halves are one of the whole. -/
lemma store3_join (a b b' c c' : ℕ → α) :
    store3 n a b c ++ store3 n (high n a) b' c' = store3 (n + n) a (join n b b') (join n c c') := by
  rw [store3, store3, store3, concat_add]
  congr 1
  · refine concat_congr fun i hi => ?_
    rw [join, join, if_pos hi, if_pos hi]
  · refine concat_congr fun i _ => ?_
    have hnot : ¬ n + i < n := by omega
    rw [join, join, if_neg hnot, if_neg hnot, Nat.add_sub_cancel_left]
    rfl

end Lanes
