import Mathlib.Data.List.Basic

set_option relaxedAutoImplicit false
set_option autoImplicit false

/-!
# Lists of blocks

A loop that appends a block to a list at each pass leaves the blocks one after the other. Blocks of
one length can be told apart in the list.

## Main definitions

* `Blocks.concat` — the blocks of the passes, one after the other.

## Main results

* `Blocks.concat_add` — the passes of a loop can be grouped.
* `Blocks.concat_eq_iff` — blocks of one length are the same if the lists are.
-/

namespace Blocks

variable {α : Type*}

/-- The blocks of `n` passes, one after the other. -/
def concat (n : ℕ) (block : ℕ → List α) : List α := (List.range n).flatMap block

@[simp] lemma concat_zero (block : ℕ → List α) : concat 0 block = [] := rfl

/-- The last block comes last. -/
@[simp] lemma concat_succ (n : ℕ) (block : ℕ → List α) :
    concat (n + 1) block = concat n block ++ block n := by
  simp [concat, List.range_succ]

/-- What is in the list is in a block. -/
@[simp] lemma mem_concat {n : ℕ} {block : ℕ → List α} {x : α} :
    x ∈ concat n block ↔ ∃ i < n, x ∈ block i := by
  simp [concat]

/-- The passes of a loop can be made in two parts. -/
lemma concat_add (m n : ℕ) (block : ℕ → List α) :
    concat (m + n) block = concat m block ++ concat n fun i => block (m + i) := by
  induction n with
  | zero => simp
  | succ n ih => rw [← Nat.add_assoc, concat_succ, ih, concat_succ, List.append_assoc]

/-- Blocks that are the same make the same list. -/
lemma concat_congr {n : ℕ} {block block' : ℕ → List α} (h : ∀ i < n, block i = block' i) :
    concat n block = concat n block' := by
  induction n with
  | zero => rfl
  | succ n ih =>
    rw [concat_succ, concat_succ, ih fun i hi => h i (Nat.lt_succ_of_lt hi),
      h n (Nat.lt_succ_self n)]

/-- The length of a list of blocks of one length. -/
lemma length_concat {n k : ℕ} {block : ℕ → List α} (h : ∀ i < n, (block i).length = k) :
    (concat n block).length = n * k := by
  induction n with
  | zero => simp
  | succ n ih =>
    rw [concat_succ, List.length_append, ih fun i hi => h i (Nat.lt_succ_of_lt hi),
      h n (Nat.lt_succ_self n), Nat.add_one_mul n]

/-- **Blocks of one length are the same exactly if the lists are.** -/
theorem concat_eq_iff {n k : ℕ} {block block' : ℕ → List α} (h : ∀ i < n, (block i).length = k)
    (h' : ∀ i < n, (block' i).length = k) :
    concat n block = concat n block' ↔ ∀ i < n, block i = block' i := by
  refine ⟨?_, concat_congr⟩
  induction n with
  | zero => exact fun _ i hi => absurd hi (Nat.not_lt_zero i)
  | succ n ih =>
    intro heq i hi
    have hfirst : ∀ i < n, (block i).length = k := fun i hi => h i (Nat.lt_succ_of_lt hi)
    have hfirst' : ∀ i < n, (block' i).length = k := fun i hi => h' i (Nat.lt_succ_of_lt hi)
    rw [concat_succ, concat_succ] at heq
    obtain ⟨hinit, hlast⟩ := List.append_inj heq
      ((length_concat hfirst).trans (length_concat hfirst').symm)
    rcases Nat.lt_succ_iff_lt_or_eq.mp hi with hlt | rfl
    · exact ih hfirst hfirst' hinit i hlt
    · exact hlast

/-- A list of numbered elements, cut into blocks. -/
lemma map_range_mul (k n : ℕ) (f : ℕ → α) :
    (List.range (k * n)).map f = concat n fun i => (List.range k).map fun j => f (k * i + j) := by
  induction n with
  | zero => rfl
  | succ n ih =>
    rw [Nat.mul_succ, List.range_add, List.map_append, ih, concat_succ, List.map_map]
    rfl

end Blocks
