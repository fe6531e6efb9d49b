import Mathlib.Tactic.Ring
import Gs702aHal.Camera.Types
import Gs702aHal.Lib.Plane
import Gs702aHal.Lib.StoreLog

set_option relaxedAutoImplicit false
set_option autoImplicit false

/-!
# The image scaler

The scaler of `Resize.cpp`. A scaler walks over the output image pixel by pixel; the position in
the crop rectangle is a 16.16 fixed-point number that grows by a constant step, and each sample is
blended from four neighbours. A buffer is a function from offsets to bytes; the offsets of a
buffer's image are far below `2 ^ 32`, so that only the fixed-point numbers wrap.

## Main definitions

* `CameraHal.Buffer` — the memory of an image.
* `CameraHal.RGBOrYUV`, `CameraHal.ImageCrop`, `CameraHal.ImageResize` — the scaler's arguments.
* `CameraHal.RGB565Resize`, `CameraHal.YUYVResize` — the scalers of the packed formats.
* `CameraHal.YUV420Resize` — the scaler of the formats with planes (`_YUV420Resize`), and the
  functions that set its strides.
* `CameraHal.packedStores`, `CameraHal.planarStores` — the stores of the scalers.

## Main results

* `CameraHal.packedResize_eq`, `CameraHal.YUV420Resize_eq` — the scalers make these stores, in this
  order, unless a step divides by zero.
* `CameraHal.blend_le`, `CameraHal.le_blend` — a blended sample is no larger than the largest
  neighbour, and no smaller than the smallest.
-/

namespace CameraHal

open StoreLog

instance : Nontrivial Byte := ⟨0#8, 1#8, by decide⟩

/-- The bytes from the start of an image on. -/
abbrev Buffer := ℕ → Byte

/-- `ALIGN16`. -/
def ALIGN16 (n : ℕ) : ℕ := (n + 15) / 16 * 16

/-- An aligned size is not smaller. -/
lemma le_ALIGN16 (n : ℕ) : n ≤ ALIGN16 n := by
  unfold ALIGN16
  omega

/-- A multiple of 16 is aligned. -/
lemma ALIGN16_of_dvd {n : ℕ} (hn : 16 ∣ n) : ALIGN16 n = n := by
  unfold ALIGN16
  omega

/-- Only a multiple of 16 is aligned. -/
lemma ALIGN16_eq_iff {n : ℕ} : ALIGN16 n = n ↔ 16 ∣ n := by
  refine ⟨fun hn => ⟨(n + 15) / 16, ?_⟩, ALIGN16_of_dvd⟩
  unfold ALIGN16 at hn
  omega

/-- `RGBOrYUV_t`. Pointers are offsets into the buffer; `rgb` shares its place with `y`. -/
structure RGBOrYUV where
  y : ℕ := 0
  u : ℕ := 0
  v : ℕ := 0
  du : ℕ := 0
  dv : ℕ := 0
  yStride : ℕ := 0
  uStride : ℕ := 0
  vStride : ℕ := 0

/-- `ImageCrop_t`. -/
structure ImageCrop where
  x : ℕ
  y : ℕ
  w : ℕ
  h : ℕ

/-- `ImageResize_t`. -/
structure ImageResize where
  inputW : ℕ
  inputH : ℕ
  inputCrop : ImageCrop
  outputW : ℕ
  outputH : ℕ

/-! ### Fixed-point positions -/

/-- `(c - 2) << 16` on `uint32_t`. -/
def shiftedSize (c : ℕ) : ℕ := (c + (2 ^ 32 - 2)) * 2 ^ 16 % 2 ^ 32

/-- `((c - 2) << 16) / (o - 1)` on `uint32_t`; a division by zero has no result. -/
def stepFixed16b (c o : ℕ) : Option ℕ :=
  let divisor := (o + (2 ^ 32 - 1)) % 2 ^ 32
  if divisor = 0 then none else some (shiftedSize c / divisor)

/-- `coef >> 16`, the whole part. -/
def offsetOf (coef : ℕ) : ℕ := coef / 2 ^ 16

/-- `(coef >> 9) & 127`, the weight of the next sample. -/
def coef2 (coef : ℕ) : ℕ := coef / 2 ^ 9 % 128

/-- `128 - coef2`, the weight of the sample itself. -/
def coef1 (coef : ℕ) : ℕ := 128 - coef2 coef

/-- The position before the pass `i` of a loop. -/
def coefAt (step i : ℕ) : ℕ := i * step % 2 ^ 32

lemma coefAt_zero (step : ℕ) : coefAt step 0 = 0 := by simp [coefAt]

/-- The position after one more step. -/
lemma coefAt_succ (step i : ℕ) : (coefAt step i + step) % 2 ^ 32 = coefAt step (i + 1) := by
  unfold coefAt
  rw [Nat.add_one_mul, Nat.mod_add_mod]

lemma coef2_lt (coef : ℕ) : coef2 coef < 128 := Nat.mod_lt _ (by decide)

lemma coef1_add_coef2 (coef : ℕ) : coef1 coef + coef2 coef = 128 := by
  have := coef2_lt coef
  unfold coef1
  omega

lemma coef1_pos (coef : ℕ) : 0 < coef1 coef := by
  have := coef2_lt coef
  unfold coef1
  omega

/-- The step is defined exactly if the output has not one column (or row). -/
lemma stepFixed16b_eq_none {c o : ℕ} (ho : o < 2 ^ 32) : stepFixed16b c o = none ↔ o = 1 := by
  simp only [stepFixed16b, ite_eq_left_iff, reduceCtorEq, imp_false, Decidable.not_not]
  omega

/-- The step of a crop rectangle over an output of at least two columns (or rows). -/
lemma stepFixed16b_of_two_le {c o : ℕ} (ho : 2 ≤ o) (hlt : o < 2 ^ 32) :
    stepFixed16b c o = some (shiftedSize c / (o - 1)) := by
  have hdivisor : (o + (2 ^ 32 - 1)) % 2 ^ 32 = o - 1 := by omega
  rw [stepFixed16b]
  simp only [hdivisor]
  rw [if_neg (by omega)]

/-- Over an output that has not one column (or row) the step is defined. -/
lemma exists_stepFixed16b {c o : ℕ} (ho : o ≠ 1) (hlt : o < 2 ^ 32) :
    ∃ step, stepFixed16b c o = some step :=
  Option.ne_none_iff_exists'.mp fun hnone => ho ((stepFixed16b_eq_none hlt).mp hnone)

/-- The steps up to the last column (or row) do not wrap, and end inside of the shifted size. -/
lemma coefAt_of_lt {c o step i : ℕ} (hstep : step = shiftedSize c / (o - 1)) (hi : i < o) :
    coefAt step i = i * step ∧ i * step ≤ shiftedSize c := by
  have hle : i * step ≤ shiftedSize c := by
    calc i * step ≤ (o - 1) * step := Nat.mul_le_mul_right step (by omega)
      _ ≤ shiftedSize c := by rw [hstep]; exact Nat.mul_div_le _ _
  have hlt : shiftedSize c < 2 ^ 32 := Nat.mod_lt _ (by decide)
  exact ⟨Nat.mod_eq_of_lt (hle.trans_lt hlt), hle⟩

/-- The whole part of the shifted size. -/
lemma shiftedSize_div (c : ℕ) : shiftedSize c / 2 ^ 16 = (c + (2 ^ 32 - 2)) % 2 ^ 16 := by
  unfold shiftedSize
  omega

/-- The weighted mean of four samples. -/
def blend (hCoef wCoef p1 p2 p3 p4 : ℕ) : ℕ :=
  ((p1 * coef1 hCoef + p2 * coef2 hCoef) * coef1 wCoef +
    (p3 * coef1 hCoef + p4 * coef2 hCoef) * coef2 wCoef) / 2 ^ 14

/-- **A blended sample is no larger than the largest of its samples.** -/
theorem blend_le (hCoef wCoef : ℕ) {p1 p2 p3 p4 p : ℕ} (h1 : p1 ≤ p) (h2 : p2 ≤ p) (h3 : p3 ≤ p)
    (h4 : p4 ≤ p) : blend hCoef wCoef p1 p2 p3 p4 ≤ p := by
  have hrow : ∀ {a b}, a ≤ p → b ≤ p → a * coef1 hCoef + b * coef2 hCoef ≤ p * 128 := by
    intro a b ha hb
    rw [← coef1_add_coef2 hCoef, Nat.mul_add]
    exact Nat.add_le_add (Nat.mul_le_mul_right _ ha) (Nat.mul_le_mul_right _ hb)
  have hsum : (p1 * coef1 hCoef + p2 * coef2 hCoef) * coef1 wCoef +
      (p3 * coef1 hCoef + p4 * coef2 hCoef) * coef2 wCoef ≤ p * 2 ^ 14 := by
    calc _ ≤ p * 128 * coef1 wCoef + p * 128 * coef2 wCoef :=
          Nat.add_le_add (Nat.mul_le_mul_right _ (hrow h1 h2)) (Nat.mul_le_mul_right _ (hrow h3 h4))
      _ = p * 128 * (coef1 wCoef + coef2 wCoef) := (Nat.mul_add _ _ _).symm
      _ = p * 2 ^ 14 := by rw [coef1_add_coef2, Nat.mul_assoc, ← Nat.pow_add 2 7 7]
  calc blend hCoef wCoef p1 p2 p3 p4 ≤ p * 2 ^ 14 / 2 ^ 14 := Nat.div_le_div_right hsum
    _ = p := Nat.mul_div_cancel p (by decide)

/-- **A blended sample is no smaller than the smallest of its samples.** -/
theorem le_blend (hCoef wCoef : ℕ) {p1 p2 p3 p4 p : ℕ} (h1 : p ≤ p1) (h2 : p ≤ p2) (h3 : p ≤ p3)
    (h4 : p ≤ p4) : p ≤ blend hCoef wCoef p1 p2 p3 p4 := by
  have hrow : ∀ {a b}, p ≤ a → p ≤ b → p * 128 ≤ a * coef1 hCoef + b * coef2 hCoef := by
    intro a b ha hb
    rw [← coef1_add_coef2 hCoef, Nat.mul_add]
    exact Nat.add_le_add (Nat.mul_le_mul_right _ ha) (Nat.mul_le_mul_right _ hb)
  rw [blend, Nat.le_div_iff_mul_le (by decide)]
  calc p * 2 ^ 14 = p * 128 * (coef1 wCoef + coef2 wCoef) := by
        rw [coef1_add_coef2, Nat.mul_assoc, ← Nat.pow_add 2 7 7]
    _ = p * 128 * coef1 wCoef + p * 128 * coef2 wCoef := Nat.mul_add _ _ _
    _ ≤ _ := Nat.add_le_add (Nat.mul_le_mul_right _ (hrow h1 h2))
        (Nat.mul_le_mul_right _ (hrow h3 h4))

/-- Samples that are all the same are blended to that one. -/
lemma blend_self (hCoef wCoef p : ℕ) : blend hCoef wCoef p p p p = p :=
  le_antisymm (blend_le hCoef wCoef le_rfl le_rfl le_rfl le_rfl)
    (le_blend hCoef wCoef le_rfl le_rfl le_rfl le_rfl)

/-! ### The packed formats -/

/-- The 16-bit pixel at a byte offset. -/
def half (src : Buffer) (k : ℕ) : ℕ := (src k).toNat + 2 ^ 8 * (src (k + 1)).toNat

/-- The byte offset of a pixel relative to the crop rectangle, `in + offsetY * stride + offsetX`. -/
def packedAt (in_ : RGBOrYUV) (resize : ImageResize) (offsetY offsetX : ℕ) : ℕ :=
  in_.y + 2 * (resize.inputCrop.y * resize.inputW + resize.inputCrop.x +
    (offsetY * resize.inputW + offsetX))

/-- The four 16-bit pixels around a position: itself, below, right, below right. -/
def packedPixels (src : Buffer) (in_ : RGBOrYUV) (resize : ImageResize) (hCoef wCoef : ℕ) :
    ℕ × ℕ × ℕ × ℕ :=
  let offsetY := offsetOf hCoef
  let offsetX := offsetOf wCoef
  (half src (packedAt in_ resize offsetY offsetX),
    half src (packedAt in_ resize (offsetY + 1) offsetX),
    half src (packedAt in_ resize offsetY (offsetX + 1)),
    half src (packedAt in_ resize (offsetY + 1) (offsetX + 1)))

/-- A pixel of `RGB565Resize`: each colour is blended. -/
def rgb565Pixel (src : Buffer) (in_ : RGBOrYUV) (resize : ImageResize) (_col hCoef wCoef : ℕ) :
    ℕ :=
  let (pixel1, pixel2, pixel3, pixel4) := packedPixels src in_ resize hCoef wCoef
  let colour := fun shift size : ℕ => blend hCoef wCoef (pixel1 / 2 ^ shift % size)
    (pixel2 / 2 ^ shift % size) (pixel3 / 2 ^ shift % size) (pixel4 / 2 ^ shift % size)
  colour 11 32 * 2 ^ 11 + colour 5 64 * 2 ^ 5 + colour 0 32

/-- A pixel of `YUYVResize`: the luma is blended from four pixels, the chroma from two rows. An even
column takes `u`, from the first pixel of the pair that the position is in, or from the next pair
if the position is odd; an odd column takes `v`, from the second pixel of the pair. -/
def yuyvPixel (src : Buffer) (in_ : RGBOrYUV) (resize : ImageResize) (col hCoef wCoef : ℕ) : ℕ :=
  let (pixel1, pixel2, pixel3, pixel4) := packedPixels src in_ resize hCoef wCoef
  let y := blend hCoef wCoef (pixel1 % 2 ^ 8) (pixel2 % 2 ^ 8) (pixel3 % 2 ^ 8) (pixel4 % 2 ^ 8)
  let chroma := fun a b : ℕ =>
    (a / 2 ^ 8 * coef1 hCoef + b / 2 ^ 8 * coef2 hCoef) * (coef1 wCoef + coef2 wCoef) / 2 ^ 14
  let uv :=
    if offsetOf wCoef % 2 = 0 then
      if col % 2 = 0 then chroma pixel1 pixel2 else chroma pixel3 pixel4
    else
      if col % 2 = 0 then chroma pixel3 pixel4 else chroma pixel1 pixel2
  y + 2 ^ 8 * uv

/-- The low byte of a number. -/
def byte (n : ℕ) : Byte := BitVec.ofNat 8 n

/-- The two stores of a 16-bit pixel. -/
def halfStores (k pixel : ℕ) : List (ℕ × Byte) := [(k, byte pixel), (k + 1, byte (pixel / 2 ^ 8))]

/-- The variables of a packed scaler's loops. -/
structure PackedLoop where
  out : ℕ
  hCoef : ℕ
  wCoef : ℕ
  dst : Buffer

/-- The loops of `RGB565Resize` and `YUYVResize`, which differ in the pixel that they store. -/
def packedResize (pixel : Buffer → RGBOrYUV → ImageResize → ℕ → ℕ → ℕ → ℕ) (out in_ : RGBOrYUV)
    (resize : ImageResize) (src dst : Buffer) : Option Buffer :=
  if resize.inputW < 1 ∨ resize.inputH < 1 then some dst
  else do
    let wStepFixed16b ← stepFixed16b resize.inputCrop.w resize.outputW
    let hStepFixed16b ← stepFixed16b resize.inputCrop.h resize.outputH
    let column := fun col (s : PackedLoop) =>
      { s with
        dst := storeAll (halfStores s.out (pixel src in_ resize col s.hCoef s.wCoef)) s.dst
        out := s.out + 2
        wCoef := (s.wCoef + wStepFixed16b) % 2 ^ 32 }
    let row := fun (_ : ℕ) (s : PackedLoop) =>
      let s := forLoop resize.outputW column { s with wCoef := 0 }
      { s with hCoef := (s.hCoef + hStepFixed16b) % 2 ^ 32 }
    some (forLoop resize.outputH row ⟨out.y, 0, 0, dst⟩).dst

/-- `RGB565Resize`. -/
def RGB565Resize : RGBOrYUV → RGBOrYUV → ImageResize → Buffer → Buffer → Option Buffer :=
  packedResize rgb565Pixel

/-- `YUYVResize`. -/
def YUYVResize : RGBOrYUV → RGBOrYUV → ImageResize → Buffer → Buffer → Option Buffer :=
  packedResize yuyvPixel

/-- The stores of a packed scaler: the pixels of the output image, row after row. -/
def packedStores (pixel : Buffer → RGBOrYUV → ImageResize → ℕ → ℕ → ℕ → ℕ) (out in_ : RGBOrYUV)
    (resize : ImageResize) (src : Buffer) (wStep hStep : ℕ) (rows : ℕ) : List (ℕ × Byte) :=
  passes rows fun r => passes resize.outputW fun c =>
    halfStores (out.y + 2 * (r * resize.outputW + c))
      (pixel src in_ resize c (coefAt hStep r) (coefAt wStep c))

/-- **A packed scaler stores the pixels of the output image, row after row.**

**Proof sketch.** The loops' variables have closed forms: before the column `c` of the row `r`, the
output pointer is at that pixel and the position is at `c` and `r` steps. -/
theorem packedResize_eq (pixel : Buffer → RGBOrYUV → ImageResize → ℕ → ℕ → ℕ → ℕ)
    (out in_ : RGBOrYUV) (resize : ImageResize) (src dst : Buffer)
    (hw : ¬ (resize.inputW < 1 ∨ resize.inputH < 1)) {wStep hStep : ℕ}
    (hwStep : stepFixed16b resize.inputCrop.w resize.outputW = some wStep)
    (hhStep : stepFixed16b resize.inputCrop.h resize.outputH = some hStep) :
    packedResize pixel out in_ resize src dst = some
      (storeAll (packedStores pixel out in_ resize src wStep hStep resize.outputH) dst) := by
  rw [packedResize, if_neg hw, hwStep, hhStep]
  simp only [Option.bind_eq_bind, Option.bind_some, Option.some.injEq]
  let rowsDone := fun r : ℕ => (⟨out.y + 2 * (r * resize.outputW), coefAt hStep r,
    if r = 0 then 0 else coefAt wStep resize.outputW,
    storeAll (packedStores pixel out in_ resize src wStep hStep r) dst⟩ : PackedLoop)
  have hstart : (⟨out.y, 0, 0, dst⟩ : PackedLoop) = rowsDone 0 := by
    simp [rowsDone, coefAt_zero, packedStores]
  rw [hstart, forLoop_eq rowsDone ?_]
  intro r
  let columnsDone := fun c : ℕ => (⟨out.y + 2 * (r * resize.outputW + c), coefAt hStep r,
    coefAt wStep c,
    storeAll (passes c fun c => halfStores (out.y + 2 * (r * resize.outputW + c))
        (pixel src in_ resize c (coefAt hStep r) (coefAt wStep c)))
      (storeAll (packedStores pixel out in_ resize src wStep hStep r) dst)⟩ : PackedLoop)
  have hfirst : { rowsDone r with wCoef := 0 } = columnsDone 0 := by
    simp [rowsDone, columnsDone, coefAt_zero]
  simp only [hfirst]
  rw [forLoop_eq columnsDone ?_]
  · simp only [columnsDone, rowsDone, coefAt_succ, packedStores, passes_succ, storeAll_append,
      Nat.succ_ne_zero, if_false]
    rw [Nat.add_one_mul r]
  · intro c
    simp only [columnsDone, coefAt_succ, passes_succ, storeAll_append, PackedLoop.mk.injEq,
      and_true]
    omega

/-- A packed scaler divides by zero if a step is not defined. -/
lemma packedResize_eq_none (pixel : Buffer → RGBOrYUV → ImageResize → ℕ → ℕ → ℕ → ℕ)
    (out in_ : RGBOrYUV) (resize : ImageResize) (src dst : Buffer)
    (hw : ¬ (resize.inputW < 1 ∨ resize.inputH < 1))
    (hstep : stepFixed16b resize.inputCrop.w resize.outputW = none ∨
      stepFixed16b resize.inputCrop.h resize.outputH = none) :
    packedResize pixel out in_ resize src dst = none := by
  rw [packedResize, if_neg hw]
  rcases hstep with hstep | hstep <;> rw [hstep]
  · rfl
  · cases stepFixed16b resize.inputCrop.w resize.outputW <;> rfl

/-- A store of a packed scaler is one of the two of a pixel. -/
lemma mem_packedStores {pixel : Buffer → RGBOrYUV → ImageResize → ℕ → ℕ → ℕ → ℕ}
    {out in_ : RGBOrYUV} {resize : ImageResize} {src : Buffer} {wStep hStep rows : ℕ}
    {w : ℕ × Byte} :
    w ∈ packedStores pixel out in_ resize src wStep hStep rows ↔
      ∃ r < rows, ∃ c < resize.outputW, w ∈ halfStores (out.y + 2 * (r * resize.outputW + c))
        (pixel src in_ resize c (coefAt hStep r) (coefAt wStep c)) := by
  simp only [packedStores, mem_passes]

/-- Pixels of one place are the same. -/
lemma packed_inj {w r c r' c' : ℕ} (hc : c < w) (hc' : c' < w)
    (heq : r * w + c = r' * w + c') : r = r' ∧ c = c' := by
  refine Plane.cell_inj (p := ⟨0, w, 1, 0, w⟩) ⟨Nat.one_pos, fun c hc => ?_⟩ hc hc' ?_
  · rwa [Nat.mul_one]
  · simp only [Plane.cell]
    omega

/-- The bytes that a packed scaler stores to are those of the output image. -/
lemma mem_targets_packedStores {pixel : Buffer → RGBOrYUV → ImageResize → ℕ → ℕ → ℕ → ℕ}
    {in_ : RGBOrYUV} {resize : ImageResize} {src : Buffer} {wStep hStep rows k : ℕ} :
    k ∈ targets (packedStores pixel {} in_ resize src wStep hStep rows) ↔
      k < 2 * (rows * resize.outputW) := by
  rw [mem_targets]
  constructor
  · rintro ⟨v, hv⟩
    obtain ⟨r, hr, c, hc, hv⟩ := mem_packedStores.mp hv
    have hlast := Nat.mul_le_mul_right resize.outputW (show r + 1 ≤ rows from hr)
    rw [Nat.add_one_mul r] at hlast
    simp only [halfStores, List.mem_cons, List.not_mem_nil, or_false, Prod.mk.injEq] at hv
    rcases hv with ⟨rfl, -⟩ | ⟨rfl, -⟩ <;> omega
  · intro hk
    obtain ⟨r, hr, c, hc, hpixel⟩ := (Plane.has_row (p := ⟨0, resize.outputW, 1, rows,
      resize.outputW⟩) (k := k / 2) rfl rfl).mpr
      (show 0 ≤ k / 2 ∧ k / 2 < 0 + rows * resize.outputW from ⟨Nat.zero_le _, by omega⟩)
    simp only [Plane.cell, Nat.zero_add, Nat.mul_one] at hpixel
    rcases Nat.mod_two_eq_zero_or_one k with heven | hodd
    · have hk : k = 0 + 2 * (r * resize.outputW + c) := by omega
      exact ⟨_, mem_packedStores.mpr ⟨r, hr, c, hc, by simp [halfStores, hk]; rfl⟩⟩
    · have hk : k = 0 + 2 * (r * resize.outputW + c) + 1 := by omega
      exact ⟨_, mem_packedStores.mpr ⟨r, hr, c, hc, by simp [halfStores, hk]; rfl⟩⟩

/-- **A packed scaler leaves every pixel at its place.** -/
theorem storeAll_packedStores (pixel : Buffer → RGBOrYUV → ImageResize → ℕ → ℕ → ℕ → ℕ)
    (out in_ : RGBOrYUV) (resize : ImageResize) (src m : Buffer) (wStep hStep : ℕ)
    {rows r c : ℕ} (hr : r < rows) (hc : c < resize.outputW) :
    let value := pixel src in_ resize c (coefAt hStep r) (coefAt wStep c)
    let k := out.y + 2 * (r * resize.outputW + c)
    storeAll (packedStores pixel out in_ resize src wStep hStep rows) m k = byte value ∧
      storeAll (packedStores pixel out in_ resize src wStep hStep rows) m (k + 1) =
        byte (value / 2 ^ 8) := by
  intro value k
  have hmem : ∀ w ∈ halfStores k value,
      w ∈ packedStores pixel out in_ resize src wStep hStep rows :=
    fun w hw => mem_packedStores.mpr ⟨r, hr, c, hc, hw⟩
  -- a store to one of the two bytes comes from the same pixel
  have honly : ∀ w ∈ packedStores pixel out in_ resize src wStep hStep rows,
      w.1 = k ∨ w.1 = k + 1 → w ∈ halfStores k value := by
    intro w hw hk
    obtain ⟨r', -, c', hc', hw⟩ := mem_packedStores.mp hw
    have hplace : r' * resize.outputW + c' = r * resize.outputW + c := by
      have hw' := hw
      simp only [halfStores, List.mem_cons, List.not_mem_nil, or_false] at hw'
      rcases hw' with rfl | rfl <;> simp only [k] at hk <;> omega
    obtain ⟨rfl, rfl⟩ := packed_inj hc' hc hplace
    exact hw
  constructor
  · refine storeAll_eq (mem_targets.mpr ⟨byte value, hmem _ (by simp [halfStores])⟩) ?_
    intro w hw hk
    have hw := honly w hw (Or.inl hk)
    simp only [halfStores, List.mem_cons, List.not_mem_nil, or_false] at hw
    rcases hw with rfl | rfl
    · rfl
    · omega
  · refine storeAll_eq
      (mem_targets.mpr ⟨byte (value / 2 ^ 8), hmem _ (by simp [halfStores])⟩) ?_
    intro w hw hk
    have hw := honly w hw (Or.inr hk)
    simp only [halfStores, List.mem_cons, List.not_mem_nil, or_false] at hw
    rcases hw with rfl | rfl
    · omega
    · rfl

/-! ### The formats with planes -/

/-- The offset of a luma sample relative to the crop rectangle. -/
def lumaAt (in_ : RGBOrYUV) (resize : ImageResize) (offsetY offsetX : ℕ) : ℕ :=
  in_.y + (resize.inputCrop.y * in_.yStride + resize.inputCrop.x) +
    (offsetY * in_.yStride + offsetX)

/-- The offset of the chroma sample of a position relative to the crop rectangle, in the plane that
starts at `plane`. -/
def chromaAt (plane stride d : ℕ) (resize : ImageResize) (offsetY offsetX : ℕ) : ℕ :=
  plane + (resize.inputCrop.y / 2 * stride + resize.inputCrop.x / 2 * d) +
    (offsetY / 2 * stride + offsetX / 2 * d)

/-- The sample blended from the four neighbours of a position. -/
def blendAt (src : Buffer) (sample : ℕ → ℕ → ℕ) (hCoef wCoef : ℕ) : ℕ :=
  let offsetY := offsetOf hCoef
  let offsetX := offsetOf wCoef
  blend hCoef wCoef (src (sample offsetY offsetX)).toNat (src (sample (offsetY + 1) offsetX)).toNat
    (src (sample offsetY (offsetX + 1))).toNat (src (sample (offsetY + 1) (offsetX + 1))).toNat

/-- The variables of the loops of `_YUV420Resize`. -/
structure PlanarLoop where
  outY : ℕ
  outU : ℕ
  outV : ℕ
  outYLineHead : ℕ
  outULineHead : ℕ
  outVLineHead : ℕ
  hCoef : ℕ
  wCoef : ℕ
  dst : Buffer

/-- `_YUV420Resize`. -/
def YUV420Resize (out in_ : RGBOrYUV) (resize : ImageResize) (src dst : Buffer) : Option Buffer :=
  if resize.inputW < 1 ∨ resize.inputH < 1 then some dst
  else do
    let wStepFixed16b ← stepFixed16b resize.inputCrop.w resize.outputW
    let hStepFixed16b ← stepFixed16b resize.inputCrop.h resize.outputH
    let column := fun row col (s : PlanarLoop) =>
      let y := blendAt src (lumaAt in_ resize) s.hCoef s.wCoef
      let s := { s with dst := storeAll [(s.outY, byte y)] s.dst, outY := s.outY + 1 }
      let s :=
        if row % 2 = 0 ∧ col % 2 = 0 then
          let u := blendAt src (chromaAt in_.u in_.uStride in_.du resize) s.hCoef s.wCoef
          let v := blendAt src (chromaAt in_.v in_.vStride in_.dv resize) s.hCoef s.wCoef
          { s with
            dst := storeAll [(s.outU, byte u), (s.outV, byte v)] s.dst
            outU := s.outU + out.du
            outV := s.outV + out.dv }
        else s
      { s with wCoef := (s.wCoef + wStepFixed16b) % 2 ^ 32 }
    let row := fun row (s : PlanarLoop) =>
      let s := forLoop resize.outputW (column row) { s with wCoef := 0 }
      let s := { s with
        hCoef := (s.hCoef + hStepFixed16b) % 2 ^ 32
        outY := out.yStride + s.outYLineHead
        outYLineHead := out.yStride + s.outYLineHead }
      if row % 2 = 0 then
        { s with
          outU := out.uStride + s.outULineHead
          outULineHead := out.uStride + s.outULineHead
          outV := out.vStride + s.outVLineHead
          outVLineHead := out.vStride + s.outVLineHead }
      else s
    some (forLoop resize.outputH row
      ⟨out.y, out.u, out.v, out.y, out.u, out.v, 0, 0, dst⟩).dst

/-- The pass of the inner loop of `_YUV420Resize`. -/
def planarColumn (out in_ : RGBOrYUV) (resize : ImageResize) (src : Buffer) (wStep row col : ℕ)
    (s : PlanarLoop) : PlanarLoop :=
  let y := blendAt src (lumaAt in_ resize) s.hCoef s.wCoef
  let s := { s with dst := storeAll [(s.outY, byte y)] s.dst, outY := s.outY + 1 }
  let s :=
    if row % 2 = 0 ∧ col % 2 = 0 then
      let u := blendAt src (chromaAt in_.u in_.uStride in_.du resize) s.hCoef s.wCoef
      let v := blendAt src (chromaAt in_.v in_.vStride in_.dv resize) s.hCoef s.wCoef
      { s with
        dst := storeAll [(s.outU, byte u), (s.outV, byte v)] s.dst
        outU := s.outU + out.du
        outV := s.outV + out.dv }
    else s
  { s with wCoef := (s.wCoef + wStep) % 2 ^ 32 }

/-- The pass of the outer loop of `_YUV420Resize`. -/
def planarRow (out in_ : RGBOrYUV) (resize : ImageResize) (src : Buffer) (wStep hStep row : ℕ)
    (s : PlanarLoop) : PlanarLoop :=
  let s := forLoop resize.outputW (planarColumn out in_ resize src wStep row) { s with wCoef := 0 }
  let s := { s with
    hCoef := (s.hCoef + hStep) % 2 ^ 32
    outY := out.yStride + s.outYLineHead
    outYLineHead := out.yStride + s.outYLineHead }
  if row % 2 = 0 then
    { s with
      outU := out.uStride + s.outULineHead
      outULineHead := out.uStride + s.outULineHead
      outV := out.vStride + s.outVLineHead
      outVLineHead := out.vStride + s.outVLineHead }
  else s

/-- The loops of `_YUV420Resize` are made of these passes. -/
lemma YUV420Resize_eq_forLoop (out in_ : RGBOrYUV) (resize : ImageResize) (src dst : Buffer)
    (hw : ¬ (resize.inputW < 1 ∨ resize.inputH < 1)) {wStep hStep : ℕ}
    (hwStep : stepFixed16b resize.inputCrop.w resize.outputW = some wStep)
    (hhStep : stepFixed16b resize.inputCrop.h resize.outputH = some hStep) :
    YUV420Resize out in_ resize src dst =
      some (forLoop resize.outputH (planarRow out in_ resize src wStep hStep)
        ⟨out.y, out.u, out.v, out.y, out.u, out.v, 0, 0, dst⟩).dst := by
  rw [YUV420Resize, if_neg hw, hwStep, hhStep]
  rfl

/-- The stores of `_YUV420Resize` at a pixel: its luma, and at every other pixel of every other row
its chroma. -/
def pixelStores (out in_ : RGBOrYUV) (resize : ImageResize) (src : Buffer) (wStep hStep r c : ℕ) :
    List (ℕ × Byte) :=
  (out.y + r * out.yStride + c,
    byte (blendAt src (lumaAt in_ resize) (coefAt hStep r) (coefAt wStep c))) ::
  if r % 2 = 0 ∧ c % 2 = 0 then
    [(out.u + r / 2 * out.uStride + c / 2 * out.du,
      byte (blendAt src (chromaAt in_.u in_.uStride in_.du resize) (coefAt hStep r)
        (coefAt wStep c))),
      (out.v + r / 2 * out.vStride + c / 2 * out.dv,
      byte (blendAt src (chromaAt in_.v in_.vStride in_.dv resize) (coefAt hStep r)
        (coefAt wStep c)))]
  else []

/-- The stores of `_YUV420Resize`: those of the pixels, row after row. -/
def planarStores (out in_ : RGBOrYUV) (resize : ImageResize) (src : Buffer)
    (wStep hStep rows : ℕ) : List (ℕ × Byte) :=
  passes rows fun r => passes resize.outputW (pixelStores out in_ resize src wStep hStep r)

/-- The planes of an image: luma, `v` and `u`, of which `cw` and `ch` are the sizes of the
chroma. -/
def planesOf (out : RGBOrYUV) (w h cw ch : ℕ) : List Plane :=
  [⟨out.y, out.yStride, 1, h, w⟩, ⟨out.v, out.vStride, out.dv, ch, cw⟩,
    ⟨out.u, out.uStride, out.du, ch, cw⟩]

/-- The stores at the first pixel of a chroma sample. -/
lemma pixelStores_even (out in_ : RGBOrYUV) (resize : ImageResize) (src : Buffer)
    (wStep hStep r c : ℕ) :
    pixelStores out in_ resize src wStep hStep (2 * r) (2 * c) =
      [(out.y + 2 * r * out.yStride + 2 * c, byte (blendAt src (lumaAt in_ resize)
          (coefAt hStep (2 * r)) (coefAt wStep (2 * c)))),
        (out.u + r * out.uStride + c * out.du,
          byte (blendAt src (chromaAt in_.u in_.uStride in_.du resize) (coefAt hStep (2 * r))
            (coefAt wStep (2 * c)))),
        (out.v + r * out.vStride + c * out.dv,
          byte (blendAt src (chromaAt in_.v in_.vStride in_.dv resize) (coefAt hStep (2 * r))
            (coefAt wStep (2 * c))))] := by
  rw [pixelStores, if_pos ⟨Nat.mul_mod_right 2 r, Nat.mul_mod_right 2 c⟩,
    Nat.mul_div_cancel_left r Nat.two_pos, Nat.mul_div_cancel_left c Nat.two_pos]

/-- A store of `_YUV420Resize` is one of those of a pixel. -/
lemma mem_planarStores {out in_ : RGBOrYUV} {resize : ImageResize} {src : Buffer}
    {wStep hStep rows : ℕ} {w : ℕ × Byte} :
    w ∈ planarStores out in_ resize src wStep hStep rows ↔
      ∃ r < rows, ∃ c < resize.outputW, w ∈ pixelStores out in_ resize src wStep hStep r c := by
  simp only [planarStores, mem_passes]

/-- **The stores of later pixels win.**

**Proof sketch.** The rows up to that of a pixel come before the others, and in its row the columns
up to its own before the others. -/
theorem storeAll_planarStores_later (out in_ : RGBOrYUV) (resize : ImageResize) (src m : Buffer)
    (wStep hStep : ℕ) {rows r c k : ℕ} (hr : r < rows) (hc : c < resize.outputW)
    (hlater : ∃ r' c', r' < rows ∧ c' < resize.outputW ∧ (r < r' ∨ r = r' ∧ c < c') ∧
      ∃ v, (k, v) ∈ pixelStores out in_ resize src wStep hStep r' c') :
    ∃ r' c' v, r' < rows ∧ c' < resize.outputW ∧ (r < r' ∨ r = r' ∧ c < c') ∧
      (k, v) ∈ pixelStores out in_ resize src wStep hStep r' c' ∧
      storeAll (planarStores out in_ resize src wStep hStep rows) m k = v := by
  set stores := pixelStores out in_ resize src wStep hStep with hstores
  obtain ⟨restRows, rfl⟩ : ∃ n, rows = r + 1 + n := Nat.exists_eq_add_of_le hr
  obtain ⟨restCols, hcols⟩ : ∃ n, resize.outputW = c + 1 + n := Nat.exists_eq_add_of_le hc
  have hsplit : planarStores out in_ resize src wStep hStep (r + 1 + restRows) =
      (passes r (fun r => passes resize.outputW (stores r)) ++ passes (c + 1) (stores r)) ++
        (passes restCols (fun i => stores r (c + 1 + i)) ++
          passes restRows fun i => passes resize.outputW (stores (r + 1 + i))) := by
    rw [planarStores, passes_add, passes_succ, ← hstores]
    simp only [hcols, passes_add, List.append_assoc]
  have hmem : ∀ w, w ∈ passes restCols (fun i => stores r (c + 1 + i)) ++
      passes restRows (fun i => passes resize.outputW (stores (r + 1 + i))) ↔
      ∃ r' c', r' < r + 1 + restRows ∧ c' < resize.outputW ∧ (r < r' ∨ r = r' ∧ c < c') ∧
        w ∈ stores r' c' := by
    intro w
    rw [List.mem_append, mem_passes, mem_passes]
    constructor
    · rintro (⟨i, hi, hw⟩ | ⟨i, hi, hw⟩)
      · exact ⟨r, c + 1 + i, by omega, by omega, Or.inr ⟨rfl, by omega⟩, hw⟩
      · obtain ⟨c', hc', hw⟩ := mem_passes.mp hw
        exact ⟨r + 1 + i, c', by omega, hc', Or.inl (by omega), hw⟩
    · rintro ⟨r', c', hr', hc', hlt | ⟨rfl, hlt⟩, hw⟩
      · obtain ⟨i, rfl⟩ := Nat.exists_eq_add_of_le (show r + 1 ≤ r' from hlt)
        exact Or.inr ⟨i, by omega, mem_passes.mpr ⟨c', hc', hw⟩⟩
      · obtain ⟨i, rfl⟩ := Nat.exists_eq_add_of_le (show c + 1 ≤ c' from hlt)
        exact Or.inl ⟨i, by omega, hw⟩
  obtain ⟨r', c', hr', hc', hlt, v, hv⟩ := hlater
  obtain ⟨v, hv, heq⟩ := @exists_storeAll_append_eq _
    (passes r (fun r => passes resize.outputW (stores r)) ++ passes (c + 1) (stores r)) k _
    (mem_targets.mpr ⟨v, (hmem _).mpr ⟨r', c', hr', hc', hlt, hv⟩⟩) m
  obtain ⟨r', c', hr', hc', hlt, hv⟩ := (hmem _).mp hv
  exact ⟨r', c', v, hr', hc', hlt, hv, by rw [hsplit, heq]⟩

/-- The bytes that `_YUV420Resize` stores to are those of the planes, with chroma for every two
columns and rows or less. -/
lemma mem_targets_planarStores {out in_ : RGBOrYUV} {resize : ImageResize} {src : Buffer}
    {wStep hStep rows k : ℕ} :
    k ∈ targets (planarStores out in_ resize src wStep hStep rows) ↔
      ∃ p ∈ planesOf out resize.outputW rows ((resize.outputW + 1) / 2) ((rows + 1) / 2),
        p.Has k := by
  simp only [mem_targets, planarStores, mem_passes, planesOf, List.mem_cons, List.not_mem_nil,
    or_false, exists_eq_or_imp, exists_eq_left, Plane.Has, Plane.cell, Nat.mul_one]
  constructor
  · rintro ⟨v, r, hr, c, hc, hv⟩
    rw [pixelStores, List.mem_cons] at hv
    rcases hv with hv | hv
    · exact Or.inl ⟨r, hr, c, hc, congrArg Prod.fst hv⟩
    · split_ifs at hv with heven
      · have hr' : r / 2 < (rows + 1) / 2 := by omega
        have hc' : c / 2 < (resize.outputW + 1) / 2 := by omega
        simp only [List.mem_cons, List.not_mem_nil, or_false, Prod.mk.injEq] at hv
        rcases hv with ⟨hk, -⟩ | ⟨hk, -⟩
        · exact Or.inr (Or.inr ⟨_, hr', _, hc', hk⟩)
        · exact Or.inr (Or.inl ⟨_, hr', _, hc', hk⟩)
      · cases hv
  · rintro (⟨r, hr, c, hc, rfl⟩ | ⟨r, hr, c, hc, rfl⟩ | ⟨r, hr, c, hc, rfl⟩)
    · exact ⟨_, r, hr, c, hc, List.mem_cons_self⟩
    · have hmem := pixelStores_even out in_ resize src wStep hStep r c
      exact ⟨_, 2 * r, by omega, 2 * c, by omega, hmem ▸
        List.mem_cons_of_mem _ (List.mem_cons_of_mem _ List.mem_cons_self)⟩
    · have hmem := pixelStores_even out in_ resize src wStep hStep r c
      exact ⟨_, 2 * r, by omega, 2 * c, by omega, hmem ▸
        List.mem_cons_of_mem _ List.mem_cons_self⟩

/-- The variables of `_YUV420Resize` before a row. -/
def planarRowAt (out in_ : RGBOrYUV) (resize : ImageResize) (src dst : Buffer) (wStep hStep r : ℕ) :
    PlanarLoop where
  outY := out.y + r * out.yStride
  outU := out.u + (r + 1) / 2 * out.uStride
  outV := out.v + (r + 1) / 2 * out.vStride
  outYLineHead := out.y + r * out.yStride
  outULineHead := out.u + (r + 1) / 2 * out.uStride
  outVLineHead := out.v + (r + 1) / 2 * out.vStride
  hCoef := coefAt hStep r
  wCoef := if r = 0 then 0 else coefAt wStep resize.outputW
  dst := storeAll (planarStores out in_ resize src wStep hStep r) dst

/-- How many chroma samples of a row come before a column: the pointers move in even rows only. -/
def chromaAhead (r c : ℕ) : ℕ := if r % 2 = 0 then (c + 1) / 2 else 0

/-- The variables of `_YUV420Resize` before a column of a row. -/
def planarColumnAt (out in_ : RGBOrYUV) (resize : ImageResize) (src dst : Buffer)
    (wStep hStep r c : ℕ) : PlanarLoop :=
  { planarRowAt out in_ resize src dst wStep hStep r with
    outY := out.y + r * out.yStride + c
    outU := out.u + (r + 1) / 2 * out.uStride + chromaAhead r c * out.du
    outV := out.v + (r + 1) / 2 * out.vStride + chromaAhead r c * out.dv
    wCoef := coefAt wStep c
    dst := storeAll (passes c (pixelStores out in_ resize src wStep hStep r))
      (storeAll (planarStores out in_ resize src wStep hStep r) dst) }

/-- A row starts with its first column. -/
lemma planarColumnAt_zero (out in_ : RGBOrYUV) (resize : ImageResize) (src dst : Buffer)
    (wStep hStep r : ℕ) :
    { planarRowAt out in_ resize src dst wStep hStep r with wCoef := 0 } =
      planarColumnAt out in_ resize src dst wStep hStep r 0 := by
  simp [planarRowAt, planarColumnAt, chromaAhead, coefAt_zero]

/-- A pass of the inner loop takes the variables to the next column. -/
lemma planarColumn_at (out in_ : RGBOrYUV) (resize : ImageResize) (src dst : Buffer)
    (wStep hStep r c : ℕ) :
    planarColumn out in_ resize src wStep r c
        (planarColumnAt out in_ resize src dst wStep hStep r c) =
      planarColumnAt out in_ resize src dst wStep hStep r (c + 1) := by
  by_cases hr : r % 2 = 0
  · by_cases hc : c % 2 = 0
    · have hrow : (r + 1) / 2 = r / 2 := by omega
      have hcol : (c + 1) / 2 = c / 2 := by omega
      have hnext : (c + 1 + 1) / 2 = c / 2 + 1 := by omega
      simp only [planarColumn, planarColumnAt, planarRowAt, chromaAhead, hr, hc, and_self, if_true,
        coefAt_succ, passes_succ, storeAll_append, pixelStores, hrow, hcol, hnext, storeAll_cons,
        storeAll_nil, PlanarLoop.mk.injEq, and_true]
      rw [Nat.add_one_mul (c / 2), Nat.add_one_mul (c / 2)]
      omega
    · have hnext : (c + 1 + 1) / 2 = (c + 1) / 2 := by omega
      simp only [planarColumn, planarColumnAt, planarRowAt, chromaAhead, hr, hc, and_false, if_true,
        if_false, coefAt_succ, passes_succ, storeAll_append, pixelStores, hnext, storeAll_cons,
        storeAll_nil, PlanarLoop.mk.injEq, and_true]
      omega
  · simp only [planarColumn, planarColumnAt, planarRowAt, chromaAhead, hr, false_and, if_false,
      coefAt_succ, passes_succ, storeAll_append, pixelStores, storeAll_cons, storeAll_nil,
      PlanarLoop.mk.injEq, and_true]
    omega

/-- A pass of the outer loop takes the variables to the next row.

**Proof sketch.** The inner loop ends at the last column; the chroma pointers go on by one row of
the plane for every two rows. -/
lemma planarRow_at (out in_ : RGBOrYUV) (resize : ImageResize) (src dst : Buffer)
    (wStep hStep r : ℕ) :
    planarRow out in_ resize src wStep hStep r
        (planarRowAt out in_ resize src dst wStep hStep r) =
      planarRowAt out in_ resize src dst wStep hStep (r + 1) := by
  have hnext : r + 1 ≠ 0 := Nat.succ_ne_zero r
  rw [planarRow, planarColumnAt_zero,
    forLoop_eq _ (planarColumn_at out in_ resize src dst wStep hStep r)]
  by_cases hr : r % 2 = 0
  · have hhalf : (r + 1 + 1) / 2 = (r + 1) / 2 + 1 := by omega
    simp only [hr, if_true, planarColumnAt, planarRowAt, coefAt_succ, planarStores, passes_succ,
      storeAll_append, hnext, if_false, hhalf, Nat.add_one_mul, PlanarLoop.mk.injEq, and_true]
    omega
  · have hhalf : (r + 1 + 1) / 2 = (r + 1) / 2 := by omega
    simp only [hr, if_false, planarColumnAt, planarRowAt, chromaAhead, coefAt_succ, planarStores,
      passes_succ, storeAll_append, hnext, hhalf, PlanarLoop.mk.injEq, and_true, true_and,
      Nat.zero_mul, Nat.add_zero]
    rw [Nat.add_one_mul r]
    omega

/-- The loops start before the first row. -/
lemma planarRowAt_zero (out in_ : RGBOrYUV) (resize : ImageResize) (src dst : Buffer)
    (wStep hStep : ℕ) :
    (⟨out.y, out.u, out.v, out.y, out.u, out.v, 0, 0, dst⟩ : PlanarLoop) =
      planarRowAt out in_ resize src dst wStep hStep 0 := by
  simp [planarRowAt, coefAt_zero, planarStores]

/-- **`_YUV420Resize` stores the samples of the output image, row after row.**

**Proof sketch.** As for the packed formats; the chroma pointers are ahead by one row of the plane
for every two rows, and inside of an even row by one sample for every two columns. -/
theorem YUV420Resize_eq (out in_ : RGBOrYUV) (resize : ImageResize) (src dst : Buffer)
    (hw : ¬ (resize.inputW < 1 ∨ resize.inputH < 1)) {wStep hStep : ℕ}
    (hwStep : stepFixed16b resize.inputCrop.w resize.outputW = some wStep)
    (hhStep : stepFixed16b resize.inputCrop.h resize.outputH = some hStep) :
    YUV420Resize out in_ resize src dst = some
      (storeAll (planarStores out in_ resize src wStep hStep resize.outputH) dst) := by
  rw [YUV420Resize_eq_forLoop out in_ resize src dst hw hwStep hhStep,
    planarRowAt_zero out in_ resize src dst wStep hStep,
    forLoop_eq _ (planarRow_at out in_ resize src dst wStep hStep), planarRowAt]

/-- `_YUV420Resize` divides by zero if a step is not defined. -/
lemma YUV420Resize_eq_none (out in_ : RGBOrYUV) (resize : ImageResize) (src dst : Buffer)
    (hw : ¬ (resize.inputW < 1 ∨ resize.inputH < 1))
    (hstep : stepFixed16b resize.inputCrop.w resize.outputW = none ∨
      stepFixed16b resize.inputCrop.h resize.outputH = none) :
    YUV420Resize out in_ resize src dst = none := by
  rw [YUV420Resize, if_neg hw]
  rcases hstep with hstep | hstep <;> rw [hstep]
  · rfl
  · cases stepFixed16b resize.inputCrop.w resize.outputW <;> rfl

/-- The strides of a semi-planar image: `u` and `v` samples by turns, in rows as long as the luma's.
-/
def RGBOrYUV.semiPlanar (image : RGBOrYUV) (stride : ℕ) : RGBOrYUV :=
  { image with yStride := stride, uStride := stride, vStride := stride, du := 2, dv := 2 }

/-- The strides of a planar image. -/
def RGBOrYUV.planar (image : RGBOrYUV) (stride chromaStride : ℕ) : RGBOrYUV :=
  { image with yStride := stride, uStride := chromaStride, vStride := chromaStride,
               du := 1, dv := 1 }

/-- `NVXXResize`. -/
def NVXXResize (out in_ : RGBOrYUV) (resize : ImageResize) : Buffer → Buffer → Option Buffer :=
  YUV420Resize (out.semiPlanar resize.outputW) (in_.semiPlanar resize.inputW) resize

/-- `YX12Resize`. -/
def YX12Resize (out in_ : RGBOrYUV) (resize : ImageResize) : Buffer → Buffer → Option Buffer :=
  YUV420Resize (out.planar resize.outputW (resize.outputW / 2))
    (in_.planar resize.inputW (resize.inputW / 2)) resize

/-- `NVXXResizeOA`: the output's rows are aligned. -/
def NVXXResizeOA (out in_ : RGBOrYUV) (resize : ImageResize) : Buffer → Buffer → Option Buffer :=
  YUV420Resize (out.semiPlanar (ALIGN16 resize.outputW)) (in_.semiPlanar resize.inputW) resize

/-- `YX12ResizeOA`: the output's rows are aligned. -/
def YX12ResizeOA (out in_ : RGBOrYUV) (resize : ImageResize) : Buffer → Buffer → Option Buffer :=
  YUV420Resize (out.planar (ALIGN16 resize.outputW) (ALIGN16 (resize.outputW / 2)))
    (in_.planar resize.inputW (resize.inputW / 2)) resize

end CameraHal
