import Mathlib.Data.List.Pairwise
import Mathlib.Tactic.Linarith
import Gs702aHal.Lib.StoreLog

set_option relaxedAutoImplicit false
set_option autoImplicit false

/-!
# Planes in a memory

A two-dimensional array in a linear memory: its rows start a stride apart, and the cells of a row a
step apart. The cells of a plane whose rows fit into its stride are all different, and a plane
ends where its last row does.

## Main definitions

* `Plane` — where the cells of an array are.
* `Plane.cell`, `Plane.Has` — one cell, and what belongs to the plane.
* `Plane.fill` — the stores that fill a plane row by row, `Plane.Holds` — what it holds.

## Main results

* `Plane.cell_inj` — different cells have different places.
* `Plane.lt_of_has` — a plane ends before the row after its last one.
* `Plane.has_row` — a plane without gaps is an interval.
* `Plane.storeAll_of_cells` — stores to the cells of planes all last.
* `Plane.holds_fill`, `Plane.holds_fillAll` — filled planes hold what was stored.
-/

/-- A two-dimensional array of `rows` rows with `cols` cells. -/
structure Plane where
  base : ℕ
  stride : ℕ
  step : ℕ
  rows : ℕ
  cols : ℕ
  deriving DecidableEq, Repr

namespace Plane

variable {p q : Plane} {k r c r' c' : ℕ}

/-- The place of a cell. -/
def cell (p : Plane) (r c : ℕ) : ℕ := p.base + r * p.stride + c * p.step

/-- A place is one of the plane's cells. -/
def Has (p : Plane) (k : ℕ) : Prop := ∃ r < p.rows, ∃ c < p.cols, k = p.cell r c

/-- The rows of the plane do not overlap. -/
structure Fits (p : Plane) : Prop where
  step_pos : 0 < p.step
  row : ∀ c < p.cols, c * p.step < p.stride

/-- A cell of the plane belongs to it. -/
lemma has_cell (hr : r < p.rows) (hc : c < p.cols) : p.Has (p.cell r c) := ⟨r, hr, c, hc, rfl⟩

/-- A plane without rows or without columns has no cells. -/
lemma not_has_of_empty (h : p.rows = 0 ∨ p.cols = 0) : ¬ p.Has k := by
  rintro ⟨r, hr, c, hc, -⟩
  omega

/-- A cell comes before the start of the next row. -/
lemma cell_lt (h : p.Fits) (hc : c < p.cols) : p.cell r c < p.base + (r + 1) * p.stride := by
  have := h.row c hc
  unfold cell
  rw [Nat.add_one_mul]
  omega

/-- The start of a row comes before the cells of it and of the next ones. -/
lemma le_cell (hr : r ≤ r') : p.base + r * p.stride ≤ p.cell r' c := by
  have := Nat.mul_le_mul_right p.stride hr
  unfold cell
  omega

/-- A plane ends before the row after its last one. -/
lemma lt_of_has (h : p.Fits) (hk : p.Has k) : k < p.base + p.rows * p.stride := by
  obtain ⟨r, hr, c, hc, rfl⟩ := hk
  have hlast := Nat.mul_le_mul_right p.stride (show r + 1 ≤ p.rows from hr)
  have := cell_lt h hc (r := r)
  omega

/-- A plane begins at its base. -/
lemma le_of_has (hk : p.Has k) : p.base ≤ k := by
  obtain ⟨r, -, c, -, rfl⟩ := hk
  have := le_cell (p := p) (c := c) (Nat.zero_le r)
  omega

/-- **Different cells have different places.** -/
theorem cell_inj (h : p.Fits) (hc : c < p.cols) (hc' : c' < p.cols)
    (heq : p.cell r c = p.cell r' c') : r = r' ∧ c = c' := by
  have hrows : ∀ {a b x y : ℕ}, x < p.cols → p.cell a x = p.cell b y → b ≤ a := by
    intro a b x y hx hxy
    by_contra hlt
    have hbefore := cell_lt h hx (r := a)
    have hafter := le_cell (p := p) (c := y) (show a + 1 ≤ b from Nat.lt_of_not_le hlt)
    omega
  have hr : r = r' := le_antisymm (hrows hc' heq.symm) (hrows hc heq)
  refine ⟨hr, ?_⟩
  rw [hr, cell, cell] at heq
  exact Nat.eq_of_mul_eq_mul_right h.step_pos (by omega)

/-- Planes that lie one after the other share no place. -/
lemma not_has_of_le (h : p.Fits) (hend : p.base + p.rows * p.stride ≤ q.base) (hk : p.Has k) :
    ¬ q.Has k := fun hq =>
  absurd (lt_of_has h hk) (not_lt.mpr (hend.trans (le_of_has hq)))

/-- Planes of every other place, one of the even and one of the odd ones, share no place. -/
lemma not_has_of_parity (hp : p.step = 2) (hq : q.step = 2) (hps : p.stride % 2 = 0)
    (hqs : q.stride % 2 = 0) (hbase : p.base % 2 ≠ q.base % 2) (hk : p.Has k) : ¬ q.Has k := by
  rintro ⟨r', -, c', -, hk'⟩
  obtain ⟨r, -, c, -, rfl⟩ := hk
  have hrow := Nat.mul_mod r p.stride 2
  have hrow' := Nat.mul_mod r' q.stride 2
  rw [hps, Nat.mul_zero, Nat.zero_mod] at hrow
  rw [hqs, Nat.mul_zero, Nat.zero_mod] at hrow'
  rw [cell, cell, hp, hq] at hk'
  omega

/-- **A plane without gaps is an interval.** -/
theorem has_row (hstride : p.stride = p.cols) (hstep : p.step = 1) :
    p.Has k ↔ p.base ≤ k ∧ k < p.base + p.rows * p.cols := by
  constructor
  · intro hk
    have hfits : p.Fits := ⟨by omega, fun c hc => by rw [hstep, hstride]; omega⟩
    exact ⟨le_of_has hk, hstride ▸ lt_of_has hfits hk⟩
  · rintro ⟨hle, hlt⟩
    have hcols : 0 < p.cols := by
      by_contra hzero
      rw [Nat.eq_zero_of_not_pos hzero] at hlt
      omega
    have hdiv : (k - p.base) / p.cols < p.rows :=
      (Nat.div_lt_iff_lt_mul hcols).mpr (by omega)
    refine ⟨_, hdiv, _, Nat.mod_lt (k - p.base) hcols, ?_⟩
    have := Nat.div_add_mod' (k - p.base) p.cols
    rw [cell, hstride, hstep]
    omega

/-! ### Filling a plane -/

open StoreLog

variable {α : Type*} {m : ℕ → α} {sample : ℕ → ℕ → α} {ws : List (ℕ × α)}

/-- The plane holds a sample in each cell. -/
def Holds (p : Plane) (m : ℕ → α) (sample : ℕ → ℕ → α) : Prop :=
  ∀ r < p.rows, ∀ c < p.cols, m (p.cell r c) = sample r c

/-- The stores that fill a plane, row by row. -/
def fill (p : Plane) (sample : ℕ → ℕ → α) : List (ℕ × α) :=
  passes p.rows fun r => passes p.cols fun c => [(p.cell r c, sample r c)]

/-- The stores that fill a plane are to its cells. -/
@[simp] lemma mem_targets_fill : k ∈ targets (p.fill sample) ↔ p.Has k := by
  simp only [mem_targets, fill, mem_passes, List.mem_singleton, Prod.mk.injEq, Has]
  constructor
  · rintro ⟨-, r, hr, c, hc, hk, -⟩
    exact ⟨r, hr, c, hc, hk⟩
  · rintro ⟨r, hr, c, hc, hk⟩
    exact ⟨_, r, hr, c, hc, hk, rfl⟩

/-- **A filled plane holds what was stored.** -/
theorem holds_fill (h : p.Fits) : p.Holds (storeAll (p.fill sample) m) sample := by
  intro r hr c hc
  refine storeAll_eq (mem_targets_fill.mpr (has_cell hr hc)) ?_
  rintro ⟨k, v⟩ hw hk
  simp only [fill, mem_passes, List.mem_singleton, Prod.mk.injEq] at hw
  obtain ⟨r', -, c', hc', rfl, rfl⟩ := hw
  obtain ⟨rfl, rfl⟩ := cell_inj h hc' hc hk
  rfl

/-- **Stores to planes that share no place all last**, if what goes to a cell depends on the cell
only: whatever else is stored goes to another cell or is the same. -/
theorem storeAll_of_cells {planes : List (Plane × (ℕ → ℕ → α))} (hfits : ∀ p ∈ planes, p.1.Fits)
    (hapart : planes.Pairwise fun p q => ∀ k, p.1.Has k → ¬ q.1.Has k)
    (hcells : ∀ w ∈ ws, ∃ p ∈ planes, ∃ r < p.1.rows, ∃ c < p.1.cols,
      w = (p.1.cell r c, p.2 r c)) {v : α} (hv : (k, v) ∈ ws) : storeAll ws m k = v := by
  refine storeAll_eq (mem_targets.mpr ⟨v, hv⟩) fun w hw hk => ?_
  obtain ⟨p, hp, r, hr, c, hc, hcell⟩ := hcells _ hv
  obtain ⟨q, hq, r', hr', c', hc', rfl⟩ := hcells w hw
  obtain ⟨rfl, rfl⟩ := Prod.mk.inj hcell
  have : Std.Symm fun p q : Plane × (ℕ → ℕ → α) => ∀ k, p.1.Has k → ¬ q.1.Has k :=
    ⟨fun _ _ h k hq hp => h k hp hq⟩
  have hplace : q.1.cell r' c' = p.1.cell r c := hk
  by_cases hpq : q = p
  · subst hpq
    obtain ⟨rfl, rfl⟩ := cell_inj (hfits q hq) hc' hc hplace
    rfl
  · have hother := hapart.forall hq hp hpq _ (has_cell hr' hc')
    rw [hplace] at hother
    exact absurd (has_cell hr hc) hother

/-- Planes that are filled one after the other. -/
def fillAll (planes : List (Plane × (ℕ → ℕ → α))) (m : ℕ → α) : ℕ → α :=
  planes.foldl (fun m p => StoreLog.storeAll (p.1.fill p.2) m) m

/-- Filling planes changes nothing outside of them. -/
lemma fillAll_of_not_has {planes : List (Plane × (ℕ → ℕ → α))}
    (hk : ∀ p ∈ planes, ¬ p.1.Has k) : fillAll planes m k = m k := by
  induction planes generalizing m with
  | nil => rfl
  | cons p planes ih =>
    rw [fillAll, List.foldl_cons, ← fillAll, ih fun q hq => hk q (List.mem_cons_of_mem p hq)]
    exact storeAll_of_notMem fun hmem => hk p List.mem_cons_self (mem_targets_fill.mp hmem)

/-- **Planes that share no place all hold what was stored.** -/
theorem holds_fillAll {planes : List (Plane × (ℕ → ℕ → α))} (hfits : ∀ p ∈ planes, p.1.Fits)
    (hapart : planes.Pairwise fun p q => ∀ k, p.1.Has k → ¬ q.1.Has k) :
    ∀ p ∈ planes, p.1.Holds (fillAll planes m) p.2 := by
  induction planes generalizing m with
  | nil => exact fun p hp => absurd hp List.not_mem_nil
  | cons p planes ih =>
    rw [List.pairwise_cons] at hapart
    intro q hq
    rcases List.mem_cons.mp hq with rfl | hq
    · intro r hr c hc
      have hkept := fun (m : ℕ → α) => fillAll_of_not_has (m := m)
        fun p' hp' => hapart.1 p' hp' _ (has_cell hr hc)
      rw [fillAll, List.foldl_cons, ← fillAll, hkept]
      exact holds_fill (hfits q List.mem_cons_self) r hr c hc
    · rw [fillAll, List.foldl_cons, ← fillAll]
      exact ih (fun p' hp' => hfits p' (List.mem_cons_of_mem p hp')) hapart.2 q hq

end Plane
