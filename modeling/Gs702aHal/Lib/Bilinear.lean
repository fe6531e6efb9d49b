import Mathlib.Tactic.Ring
import Mathlib.Order.Basic

set_option relaxedAutoImplicit false
set_option autoImplicit false

/-!
# Interpolation between the cells of a grid

A position on an axis counts the parts of cells; a cell has `unit` of them. What stands between two
cells is weighed by the distances, once along each axis, and rounded down.

## Main definitions

* `Bilinear.weigh` — the sum of two values, weighed by the parts of a cell.
* `Bilinear.bilinear` — the value at a position, from the four cells around it.
* `Bilinear.pairPosition` — the position among pairs of cells.

## Main results

* `Bilinear.bilinear_pairs` — cells that are the same by pairs are interpolated as the pairs are.
* `Bilinear.bilinear_transpose` — the axes can be exchanged.
* `Bilinear.bilinear_eq_top` — only a cell with the largest value is interpolated to it.
* `Bilinear.position_eq_of_dark` — one dark cell tells two positions in its row apart.
-/

namespace Bilinear

variable {unit : ℕ}

/-- Two values, of which the second has so many parts. -/
def weigh (unit part p q : ℕ) : ℕ := p * (unit - part) + q * part

/-- The value at a position, from the four cells around it. -/
def bilinear (unit : ℕ) (cell : ℕ → ℕ → ℕ) (a b : ℕ) : ℕ :=
  weigh unit (b % unit)
    (weigh unit (a % unit) (cell (a / unit) (b / unit)) (cell (a / unit + 1) (b / unit)))
    (weigh unit (a % unit) (cell (a / unit) (b / unit + 1)) (cell (a / unit + 1) (b / unit + 1))) /
      (unit * unit)

/-! ### Weights -/

/-- At its own place a value has all of the weight. -/
@[simp] lemma weigh_zero (unit p q : ℕ) : weigh unit 0 p q = p * unit := by
  simp [weigh]

/-- Between two values that are the same, the parts do not matter. -/
lemma weigh_self {part : ℕ} (hpart : part ≤ unit) (p : ℕ) : weigh unit part p p = p * unit := by
  rw [weigh, ← Nat.mul_add, Nat.sub_add_cancel hpart]

/-- A common factor. -/
lemma weigh_mul (part p q k : ℕ) : weigh unit part (p * k) (q * k) = weigh unit part p q * k := by
  unfold weigh
  ring

/-- A weighed sum is no larger than if all of it were the larger value. -/
lemma weigh_le {part p q top : ℕ} (hpart : part ≤ unit) (hp : p ≤ top) (hq : q ≤ top) :
    weigh unit part p q ≤ top * unit := by
  rw [← weigh_self hpart top]
  exact Nat.add_le_add (Nat.mul_le_mul_right _ hp) (Nat.mul_le_mul_right _ hq)

/-- It is smaller, if the first value is. -/
lemma weigh_lt {part p q top : ℕ} (hpart : part < unit) (hp : p < top) (hq : q ≤ top) :
    weigh unit part p q < top * unit := by
  rw [← weigh_self hpart.le top]
  exact Nat.add_lt_add_of_lt_of_le (Nat.mul_lt_mul_of_pos_right hp (Nat.sub_pos_of_lt hpart))
    (Nat.mul_le_mul_right _ hq)

/-! ### Interpolation -/

/-- Four cells of one value are interpolated to it. -/
lemma bilinear_const (hunit : 0 < unit) {cell : ℕ → ℕ → ℕ} {a b p : ℕ}
    (h : ∀ y ≤ a / unit + 1, ∀ x ≤ b / unit + 1, cell y x = p) : bilinear unit cell a b = p := by
  have hb : b % unit ≤ unit := (Nat.mod_lt b hunit).le
  have ha : a % unit ≤ unit := (Nat.mod_lt a hunit).le
  have ha1 := Nat.le_succ (a / unit)
  have hb1 := Nat.le_succ (b / unit)
  rw [bilinear, h _ ha1 _ hb1, h _ le_rfl _ hb1, h _ ha1 _ le_rfl, h _ le_rfl _ le_rfl,
    weigh_self ha, weigh_self hb, Nat.mul_assoc]
  exact Nat.mul_div_cancel p (Nat.mul_pos hunit hunit)

/-- **The axes can be exchanged.** -/
theorem bilinear_transpose (unit : ℕ) (cell : ℕ → ℕ → ℕ) (a b : ℕ) :
    bilinear unit (fun x y => cell y x) b a = bilinear unit cell a b := by
  unfold bilinear weigh
  congr 1
  ring

/-- In the row of a cell the rows below do not matter. -/
lemma bilinear_row (hunit : 0 < unit) (cell : ℕ → ℕ → ℕ) (b : ℕ) :
    bilinear unit cell 0 b =
      weigh unit (b % unit) (cell 0 (b / unit)) (cell 0 (b / unit + 1)) / unit := by
  rw [bilinear, Nat.zero_mod, Nat.zero_div, weigh_zero, weigh_zero, weigh_mul,
    Nat.mul_div_mul_right _ _ hunit]

/-- **Only a cell with the largest value is interpolated to it.** -/
theorem bilinear_eq_top (hunit : 0 < unit) {cell : ℕ → ℕ → ℕ} {a b top : ℕ}
    (hle : ∀ y x, cell y x ≤ top) (h : bilinear unit cell a b = top) :
    cell (a / unit) (b / unit) = top := by
  have hpartA : a % unit < unit := Nat.mod_lt a hunit
  have hpartB : b % unit < unit := Nat.mod_lt b hunit
  by_contra hne
  have hself : cell (a / unit) (b / unit) < top := Nat.lt_of_le_of_ne (hle _ _) hne
  have hlt := weigh_lt hpartB (weigh_lt hpartA hself (hle (a / unit + 1) (b / unit)))
    (weigh_le hpartA.le (hle (a / unit) (b / unit + 1)) (hle (a / unit + 1) (b / unit + 1)))
  rw [Nat.mul_assoc] at hlt
  have hsmall := (Nat.div_lt_iff_lt_mul (Nat.mul_pos hunit hunit)).mpr hlt
  rw [← bilinear] at hsmall
  omega

/-- **One dark cell tells two positions in its row apart**, if the others have a value of at least
`unit`.

**Proof sketch.** The value at the first position, which is in the dark cell, is less than the
others' and grows with its parts. A position in a later cell has the others' value; so the second
position is in the dark cell too, with as many parts. -/
theorem position_eq_of_dark (hunit : 0 < unit) {top : ℕ} (htop : unit ≤ top)
    {cell : ℕ → ℕ → ℕ} {b b' : ℕ} (hle : b ≤ b')
    (hdark : ∀ x, cell 0 x = if x = b / unit then 0 else top)
    (h : bilinear unit cell 0 b = bilinear unit cell 0 b') : b = b' := by
  have hpart : b % unit < unit := Nat.mod_lt b hunit
  have hpart' : b' % unit < unit := Nat.mod_lt b' hunit
  have hnext : ∀ {x}, b / unit ≤ x → cell 0 (x + 1) = top := fun {x} hx => by
    rw [hdark, if_neg (by omega)]
  have hcell : b / unit ≤ b' / unit := Nat.div_le_div_right hle
  rw [bilinear_row hunit, bilinear_row hunit, hnext le_rfl, hnext hcell, hdark, if_pos rfl] at h
  have hfirst : weigh unit (b % unit) 0 top = top * (b % unit) := by simp [weigh]
  rw [hfirst] at h
  rcases Nat.eq_or_lt_of_le hcell with hsame | hlater
  · -- both positions are in the dark cell
    rw [hdark, if_pos hsame.symm] at h
    have hsecond : weigh unit (b' % unit) 0 top = top * (b' % unit) := by simp [weigh]
    rw [hsecond] at h
    have hparts : b % unit = b' % unit := by
      have hgrows : ∀ {s t : ℕ}, s < t → top * s / unit < top * t / unit := by
        intro s t hst
        have hone : top * s + unit ≤ top * t :=
          calc top * s + unit ≤ top * s + top := Nat.add_le_add_left htop _
            _ = top * (s + 1) := (Nat.mul_add_one top s).symm
            _ ≤ top * t := Nat.mul_le_mul_left top hst
        calc top * s / unit < top * s / unit + 1 := Nat.lt_succ_self _
          _ = (top * s + unit) / unit := (Nat.add_div_right _ hunit).symm
          _ ≤ top * t / unit := Nat.div_le_div_right hone
      rcases Nat.lt_trichotomy (b % unit) (b' % unit) with hlt | heq | hgt
      · exact absurd h (hgrows hlt).ne
      · exact heq
      · exact absurd h (hgrows hgt).ne'
    rw [← Nat.div_add_mod b unit, ← Nat.div_add_mod b' unit, hsame, hparts]
  · -- the second position has the others' value
    rw [hdark, if_neg (by omega), weigh_self hpart'.le, Nat.mul_div_cancel top hunit] at h
    have hless : top * (b % unit) / unit < top :=
      (Nat.div_lt_iff_lt_mul hunit).mpr (Nat.mul_lt_mul_of_pos_left hpart (by omega))
    omega

/-! ### Pairs of cells -/

/-- The position among pairs of cells: between the two cells of a pair it is that of the pair. -/
def pairPosition (unit a : ℕ) : ℕ :=
  a / unit / 2 * unit + if a / unit % 2 = 1 then a % unit else 0

/-- The pair of a position. -/
lemma pairPosition_div (hunit : 0 < unit) (a : ℕ) : pairPosition unit a / unit = a / unit / 2 := by
  have hpart : (if a / unit % 2 = 1 then a % unit else 0) < unit := by
    split_ifs
    · exact Nat.mod_lt a hunit
    · exact hunit
  rw [pairPosition, Nat.add_comm, Nat.add_mul_div_right _ _ hunit, Nat.div_eq_of_lt hpart,
    Nat.zero_add]

/-- The parts of a position. -/
lemma pairPosition_mod (hunit : 0 < unit) (a : ℕ) :
    pairPosition unit a % unit = if a / unit % 2 = 1 then a % unit else 0 := by
  have hpart : (if a / unit % 2 = 1 then a % unit else 0) < unit := by
    split_ifs
    · exact Nat.mod_lt a hunit
    · exact hunit
  rw [pairPosition, Nat.add_comm, Nat.add_mul_mod_self_right, Nat.mod_eq_of_lt hpart]

/-- At the start of the axis. -/
@[simp] lemma pairPosition_zero (unit : ℕ) : pairPosition unit 0 = 0 := by
  simp [pairPosition]

/-- A later position is in no earlier place among the pairs. -/
lemma pairPosition_mono (hunit : 0 < unit) : Monotone (pairPosition unit) := by
  intro a b hab
  have hcell : a / unit ≤ b / unit := Nat.div_le_div_right hab
  have hpartA : a % unit < unit := Nat.mod_lt a hunit
  rcases Nat.eq_or_lt_of_le hcell with hsame | hlater
  · have hpart : a % unit ≤ b % unit := by
      have ha := Nat.div_add_mod a unit
      have hb := Nat.div_add_mod b unit
      rw [hsame] at ha
      omega
    unfold pairPosition
    rw [hsame]
    split_ifs
    · exact Nat.add_le_add_left hpart _
    · exact le_rfl
  · unfold pairPosition
    by_cases hpair : a / unit / 2 = b / unit / 2
    · rw [hpair, if_neg (by omega)]
      exact Nat.add_le_add_left (Nat.zero_le _) _
    · have hnext := Nat.mul_le_mul_right unit (show a / unit / 2 + 1 ≤ b / unit / 2 by omega)
      rw [Nat.add_one_mul (a / unit / 2)] at hnext
      split_ifs <;> omega

/-- Two neighbours of a row of pairs, weighed. -/
lemma weigh_pairs (hunit : 0 < unit) (f : ℕ → ℕ) (a : ℕ) :
    weigh unit (a % unit) (f (a / unit / 2)) (f ((a / unit + 1) / 2)) =
      weigh unit (pairPosition unit a % unit) (f (pairPosition unit a / unit))
        (f (pairPosition unit a / unit + 1)) := by
  rw [pairPosition_div hunit, pairPosition_mod hunit]
  split_ifs with hodd
  · have hnext : (a / unit + 1) / 2 = a / unit / 2 + 1 := by omega
    rw [hnext]
  · have hnext : (a / unit + 1) / 2 = a / unit / 2 := by omega
    rw [hnext, weigh_self (Nat.mod_lt a hunit).le, weigh_zero]

/-- **Cells that are the same by pairs are interpolated as the pairs are.** -/
theorem bilinear_pairs (hunit : 0 < unit) (cell : ℕ → ℕ → ℕ) (a b : ℕ) :
    bilinear unit (fun y x => cell (y / 2) (x / 2)) a b =
      bilinear unit cell (pairPosition unit a) (pairPosition unit b) := by
  unfold bilinear
  have hrow := fun x => weigh_pairs hunit (fun y => cell y x) a
  simp only [hrow]
  rw [weigh_pairs hunit (fun x => weigh unit (pairPosition unit a % unit)
    (cell (pairPosition unit a / unit) x) (cell (pairPosition unit a / unit + 1) x)) b]

end Bilinear
