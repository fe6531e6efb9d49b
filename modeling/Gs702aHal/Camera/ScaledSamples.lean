import Gs702aHal.Lib.Bilinear
import Gs702aHal.Camera.Resize

set_option relaxedAutoImplicit false
set_option autoImplicit false

/-!
# The samples of a scaled image

The sample that the scaler blends from the four neighbours of a position is a bilinear
interpolation: the seven bits after the point are the parts of a cell. Two neighbours share a chroma
sample by pairs, so that the position among the chroma samples is not half of that of the luma.

## Main definitions

* `CameraHal.chromaPosition` — the position among the chroma samples.
* `CameraHal.chromaCell` — where a chroma sample is in the source.

## Main results

* `CameraHal.blendAt_eq_bilinear`, `CameraHal.blendAt_chroma` — a blended sample as an
  interpolation.
* `CameraHal.offsetOf_coefAt_le` — the neighbours of a position are inside of the crop rectangle.
-/

namespace CameraHal

open Bilinear

/-- The position of a coefficient among the chroma samples, in parts of `1 / 128`. -/
def chromaPosition (coef : ℕ) : ℕ := pairPosition 128 (coef / 2 ^ 9)

/-- The offset of a chroma sample of the crop rectangle in its source plane. -/
def chromaCell (plane stride d : ℕ) (resize : ImageResize) (y x : ℕ) : ℕ :=
  plane + (resize.inputCrop.y / 2 * stride + resize.inputCrop.x / 2 * d) + (y * stride + x * d)

/-- The whole part of a coefficient, and its part of a cell. -/
lemma coef_parts (coef : ℕ) :
    coef / 2 ^ 9 / 128 = offsetOf coef ∧ coef / 2 ^ 9 % 128 = coef2 coef := by
  refine ⟨?_, rfl⟩
  rw [Nat.div_div_eq_div_mul]
  rfl

/-- **A blended sample is a bilinear interpolation.** -/
theorem blendAt_eq_bilinear (src : Buffer) (sample : ℕ → ℕ → ℕ) (hCoef wCoef : ℕ) :
    blendAt src sample hCoef wCoef =
      bilinear 128 (fun y x => (src (sample y x)).toNat) (hCoef / 2 ^ 9) (wCoef / 2 ^ 9) := by
  rw [bilinear, (coef_parts hCoef).1, (coef_parts hCoef).2, (coef_parts wCoef).1,
    (coef_parts wCoef).2]
  rfl

/-- **A blended chroma sample is one of the chroma plane.** -/
theorem blendAt_chroma (src : Buffer) (plane stride d : ℕ) (resize : ImageResize)
    (hCoef wCoef : ℕ) :
    blendAt src (chromaAt plane stride d resize) hCoef wCoef =
      bilinear 128 (fun y x => (src (chromaCell plane stride d resize y x)).toNat)
        (chromaPosition hCoef) (chromaPosition wCoef) := by
  rw [blendAt_eq_bilinear]
  exact bilinear_pairs (by decide) (fun y x => (src (chromaCell plane stride d resize y x)).toNat)
    (hCoef / 2 ^ 9) (wCoef / 2 ^ 9)

/-- The first chroma sample of a position. -/
lemma chromaPosition_div (coef : ℕ) : chromaPosition coef / 128 = offsetOf coef / 2 := by
  rw [chromaPosition, pairPosition_div (by decide), (coef_parts coef).1]

@[simp] lemma chromaPosition_zero : chromaPosition 0 = 0 := by
  simp [chromaPosition]

/-- A larger coefficient is at no earlier position. -/
lemma chromaPosition_mono : Monotone chromaPosition := fun _ _ hle =>
  pairPosition_mono (by decide) (Nat.div_le_div_right hle)

/-- A blended sample is a byte. -/
lemma blendAt_lt (src : Buffer) (sample : ℕ → ℕ → ℕ) (hCoef wCoef : ℕ) :
    blendAt src sample hCoef wCoef < 2 ^ 8 :=
  Nat.lt_succ_of_le (blend_le hCoef wCoef (Nat.le_of_lt_succ (src _).isLt)
    (Nat.le_of_lt_succ (src _).isLt) (Nat.le_of_lt_succ (src _).isLt)
    (Nat.le_of_lt_succ (src _).isLt))

/-- A number of eight bits is the byte's. -/
lemma toNat_byte {n : ℕ} (hn : n < 2 ^ 8) : (byte n).toNat = n := by
  rw [byte, BitVec.toNat_ofNat, Nat.mod_eq_of_lt hn]

/-- Two numbers of eight bits are the same if their bytes are. -/
lemma byte_inj {m n : ℕ} (hm : m < 2 ^ 8) (hn : n < 2 ^ 8) (h : byte m = byte n) : m = n := by
  rw [← toNat_byte hm, h, toNat_byte hn]

/-- Samples that are all the same are blended to that one. -/
lemma blendAt_const {src : Buffer} {sample : ℕ → ℕ → ℕ} {b : Byte} {hCoef wCoef : ℕ}
    (h : ∀ y ≤ offsetOf hCoef + 1, ∀ x ≤ offsetOf wCoef + 1, src (sample y x) = b) :
    blendAt src sample hCoef wCoef = b.toNat := by
  rw [blendAt_eq_bilinear]
  refine bilinear_const (by decide) fun y hy x hx => congrArg BitVec.toNat (h y ?_ x ?_)
  · rwa [(coef_parts hCoef).1] at hy
  · rwa [(coef_parts wCoef).1] at hx

/-! ### Positions inside of the crop rectangle -/

/-- The coefficients grow with the columns (or rows) of the output. -/
lemma coefAt_mono {c o i j : ℕ} (hij : i ≤ j) (hj : j < o) :
    coefAt (shiftedSize c / (o - 1)) i ≤ coefAt (shiftedSize c / (o - 1)) j := by
  rw [(coefAt_of_lt rfl (hij.trans_lt hj)).1, (coefAt_of_lt rfl hj).1]
  exact Nat.mul_le_mul_right _ hij

/-- **The neighbours of a position are inside of the crop rectangle.** -/
theorem offsetOf_coefAt_le {c o i : ℕ} (hc : 2 ≤ c) (hi : i < o) :
    offsetOf (coefAt (shiftedSize c / (o - 1)) i) ≤ c - 2 := by
  obtain ⟨heq, hle⟩ := coefAt_of_lt (c := c) rfl hi
  have hwhole : i * (shiftedSize c / (o - 1)) / 2 ^ 16 ≤ shiftedSize c / 2 ^ 16 :=
    Nat.div_le_div_right hle
  rw [heq, offsetOf]
  rw [shiftedSize_div] at hwhole
  omega

end CameraHal
