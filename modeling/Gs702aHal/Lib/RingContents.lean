import Mathlib.Data.List.Basic

set_option relaxedAutoImplicit false
set_option autoImplicit false

/-!
# What a ring holds

A list is kept in the cells of a ring of `n` cells, its first element in the cell `i` and each
further one in the next cell, going around after the cell `n - 1`. An element leaves the list
when `i` moves to the next cell, and a block of elements joins it when they are stored behind
its last one, wherever the block wraps around.

## Main definitions

* `RingContents.place` — the cell that lies `k` cells after a cell.
* `RingContents.Holds` — the ring holds a list from a cell on.

## Main results

* `RingContents.Holds.head`, `RingContents.Holds.tail` — the first element, and the rest.
* `RingContents.Holds.append` — a block of elements joins the list.
-/

namespace RingContents

variable {α : Type*}

/-- The cell `k` cells after the cell `i`, for at most one way around the ring. -/
def place (n i k : ℕ) : ℕ := if i + k < n then i + k else i + k - n

/-- The ring holds the list `l` from the cell `i` on. -/
structure Holds (n : ℕ) (cell : ℕ → α) (i : ℕ) (l : List α) : Prop where
  length_le : l.length ≤ n
  cell_eq : ∀ k (hk : k < l.length), cell (place n i k) = l[k]

variable {n i k : ℕ} {cell cell' : ℕ → α} {l l' : List α}

/-- A cell lies no cells after itself. -/
lemma place_zero (hi : i < n) : place n i 0 = i := by
  simp [place, hi]

/-- A cell at a place of the ring is a cell of the ring. -/
lemma place_lt (hi : i < n) (hk : k ≤ n) : place n i k < n := by
  unfold place
  split <;> omega

/-- From the next cell on, every cell is one cell nearer. -/
lemma place_next (hi : i < n) (hk : k < n) : place n (place n i 1) k = place n i (k + 1) := by
  unfold place
  split <;> split <;> split <;> omega

namespace Holds

/-- The empty list is held anywhere. -/
lemma nil : Holds n cell i [] := by
  refine ⟨Nat.zero_le n, fun k hk => ?_⟩
  simp at hk

/-- The first element is in the first cell. -/
lemma head {a : α} (h : Holds n cell i (a :: l)) (hi : i < n) : cell i = a := by
  have h0 := h.cell_eq 0 (by simp)
  rwa [place_zero hi] at h0

/-- The rest of the list is held from the next cell on. -/
lemma tail {a : α} (h : Holds n cell i (a :: l)) (hi : i < n) :
    Holds n cell (place n i 1) l := by
  have hlen : l.length + 1 ≤ n := h.length_le
  refine ⟨by omega, fun k hk => ?_⟩
  have hnext := h.cell_eq (k + 1) (by simpa using hk)
  rw [place_next hi (by omega), hnext]
  simp

/-- A list is held by all rings that agree in its cells. -/
lemma congr (h : Holds n cell i l)
    (hold : ∀ k < l.length, cell' (place n i k) = cell (place n i k)) : Holds n cell' i l := by
  refine ⟨h.length_le, fun k hk => ?_⟩
  rw [hold k hk]
  exact h.cell_eq k hk

/-- **A block joins the list.** If a block is stored in the cells behind a list and the cells of
the list stay, the ring holds both, one after the other. -/
theorem append (h : Holds n cell i l) (hlen : l.length + l'.length ≤ n)
    (hold : ∀ k < l.length, cell' (place n i k) = cell (place n i k))
    (hnew : ∀ k (hk : k < l'.length), cell' (place n i (l.length + k)) = l'[k]) :
    Holds n cell' i (l ++ l') := by
  refine ⟨by simpa using hlen, fun k hk => ?_⟩
  by_cases hkl : k < l.length
  · rw [List.getElem_append_left hkl, hold k hkl]
    exact h.cell_eq k hkl
  · have hlen' : (l ++ l').length = l.length + l'.length := List.length_append
    have hk' : l.length + (k - l.length) = k := by omega
    have hblock := hnew (k - l.length) (by omega)
    rw [hk'] at hblock
    rw [List.getElem_append_right (by omega)]
    exact hblock

end Holds

end RingContents
