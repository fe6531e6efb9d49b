import Gs702aHal.Camera.ScaledSamples

set_option relaxedAutoImplicit false
set_option autoImplicit false

/-!
# The chroma of a scaled packed image

In a row of pixels with 16 bits the even columns carry `u` and the odd ones `v`. `YUYVResize` takes
the chroma of a position from the column of the position, or from the next one, whichever is as even
as the output column; but it counts the columns from the crop rectangle on. If that begins in an odd
column, `u` and `v` are exchanged.

## Main definitions

* `CameraHal.chromaPlace` — the place of a chroma byte of a packed image.
* `CameraHal.chromaColumn` — the column that `YUYVResize` takes the chroma from.
* `CameraHal.Covered` — the columns and rows that a position lies between, by pairs of columns.
* `CameraHal.SeparatesChroma` — `u` is made of `u` only, and `v` of `v`.

## Main results

* `CameraHal.yuyvPixel_chroma` — the chroma of an output pixel.
* `CameraHal.separatesChroma_iff` — `u` and `v` are kept apart exactly for an even origin.
-/

namespace CameraHal

open StoreLog

/-- The place of the chroma byte of a pixel in a packed image with rows of `w` pixels. -/
def chromaPlace (image : RGBOrYUV) (w r c : ℕ) : ℕ := image.y + 2 * (r * w + c) + 1

/-- The column of the crop rectangle that `YUYVResize` takes the chroma from: that of the position
or the next one. -/
def chromaColumn (col wCoef : ℕ) : ℕ := offsetOf wCoef + (offsetOf wCoef + col) % 2

/-- It is as even as the output column. -/
lemma chromaColumn_mod (col wCoef : ℕ) : chromaColumn col wCoef % 2 = col % 2 := by
  unfold chromaColumn
  omega

/-- It is the column of the position or the next one. -/
lemma chromaColumn_le (col wCoef : ℕ) : chromaColumn col wCoef ≤ offsetOf wCoef + 1 := by
  unfold chromaColumn
  omega

/-- A pixel of the crop rectangle in its row and column of the image. -/
lemma packedAt_eq (in_ : RGBOrYUV) (resize : ImageResize) (offsetY offsetX : ℕ) :
    packedAt in_ resize offsetY offsetX = in_.y + 2 * ((resize.inputCrop.y + offsetY) *
      resize.inputW + (resize.inputCrop.x + offsetX)) := by
  unfold packedAt
  ring

/-- The chroma byte of a pixel of the crop rectangle. -/
lemma half_div (src : Buffer) (in_ : RGBOrYUV) (resize : ImageResize) (offsetY offsetX : ℕ) :
    half src (packedAt in_ resize offsetY offsetX) / 2 ^ 8 =
      (src (chromaPlace in_ resize.inputW (resize.inputCrop.y + offsetY)
        (resize.inputCrop.x + offsetX))).toNat := by
  have hlow := (src (packedAt in_ resize offsetY offsetX)).isLt
  rw [half, chromaPlace, ← packedAt_eq]
  omega

/-- The luma byte of a pixel of the crop rectangle. -/
lemma half_mod (src : Buffer) (in_ : RGBOrYUV) (resize : ImageResize) (offsetY offsetX : ℕ) :
    half src (packedAt in_ resize offsetY offsetX) % 2 ^ 8 =
      (src (packedAt in_ resize offsetY offsetX)).toNat := by
  have hlow := (src (packedAt in_ resize offsetY offsetX)).isLt
  rw [half]
  omega

/-- A chroma byte that is read for a pixel. -/
def chromaByte (src : Buffer) (in_ : RGBOrYUV) (resize : ImageResize) (col offsetY wCoef : ℕ) : ℕ :=
  (src (chromaPlace in_ resize.inputW (resize.inputCrop.y + offsetY)
    (resize.inputCrop.x + chromaColumn col wCoef))).toNat

/-- The luma and the chroma of a pixel do not mix. -/
lemma yuyvPixel_luma (src : Buffer) (in_ : RGBOrYUV) (resize : ImageResize) (col hCoef wCoef : ℕ) :
    yuyvPixel src in_ resize col hCoef wCoef % 2 ^ 8 =
      blendAt src (packedAt in_ resize) hCoef wCoef := by
  have hlt := blendAt_lt src (packedAt in_ resize) hCoef wCoef
  simp only [yuyvPixel, packedPixels, half_mod]
  rw [Nat.add_mul_mod_self_left]
  exact Nat.mod_eq_of_lt hlt

/-- **The chroma of a pixel is blended from two rows of one column.**

**Proof sketch.** There are four cases, by the parities of the position and of the output column. -/
theorem yuyvPixel_chroma (src : Buffer) (in_ : RGBOrYUV) (resize : ImageResize)
    (col hCoef wCoef : ℕ) :
    yuyvPixel src in_ resize col hCoef wCoef / 2 ^ 8 =
      blend hCoef wCoef (chromaByte src in_ resize col (offsetOf hCoef) wCoef)
        (chromaByte src in_ resize col (offsetOf hCoef + 1) wCoef)
        (chromaByte src in_ resize col (offsetOf hCoef) wCoef)
        (chromaByte src in_ resize col (offsetOf hCoef + 1) wCoef) := by
  have hlt := blendAt_lt src (packedAt in_ resize) hCoef wCoef
  have hhigh : ∀ a b : ℕ, a < 2 ^ 8 → (a + 2 ^ 8 * b) / 2 ^ 8 = b := fun a b ha => by omega
  simp only [yuyvPixel, packedPixels, half_mod, half_div]
  refine (hhigh _ _ hlt).trans ?_
  simp only [blend, ← Nat.mul_add, chromaByte, chromaColumn]
  by_cases hx : offsetOf wCoef % 2 = 0
  · by_cases hcol : col % 2 = 0
    · rw [if_pos hx, if_pos hcol, show (offsetOf wCoef + col) % 2 = 0 by omega]
      rfl
    · rw [if_pos hx, if_neg hcol, show (offsetOf wCoef + col) % 2 = 1 by omega]
  · by_cases hcol : col % 2 = 0
    · rw [if_neg hx, if_pos hcol, show (offsetOf wCoef + col) % 2 = 1 by omega]
    · rw [if_neg hx, if_neg hcol, show (offsetOf wCoef + col) % 2 = 0 by omega]
      rfl

/-! ### Keeping `u` and `v` apart -/

/-- The position of an output row in the crop rectangle. -/
def rowCoef (resize : ImageResize) (r : ℕ) : ℕ :=
  coefAt (shiftedSize resize.inputCrop.h / (resize.outputH - 1)) r

/-- The position of an output column. -/
def colCoef (resize : ImageResize) (c : ℕ) : ℕ :=
  coefAt (shiftedSize resize.inputCrop.w / (resize.outputW - 1)) c

/-- A row and a column of the source belong to the position of an output pixel: it lies between this
row and another one, and the column is in one of the pairs of columns that it lies between. -/
def Covered (resize : ImageResize) (r c y x : ℕ) : Prop :=
  let top := resize.inputCrop.y + offsetOf (rowCoef resize r)
  let left := resize.inputCrop.x + offsetOf (colCoef resize c)
  (y = top ∨ y = top + 1) ∧ (x / 2 = left / 2 ∨ x / 2 = (left + 1) / 2)

/-- The crop rectangle is inside of the image, with two columns and rows to blend. -/
structure CropInside (resize : ImageResize) : Prop where
  crop_x : resize.inputCrop.x + resize.inputCrop.w ≤ resize.inputW
  crop_y : resize.inputCrop.y + resize.inputCrop.h ≤ resize.inputH
  two_le_w : 2 ≤ resize.inputCrop.w
  two_le_h : 2 ≤ resize.inputCrop.h

/-- The chroma of an image is `u` in the even columns and `v` in the odd ones. -/
def HasChroma (image : RGBOrYUV) (w h : ℕ) (m : Buffer) (u v : Byte) : Prop :=
  ∀ r < h, ∀ c < w, m (chromaPlace image w r c) = if c % 2 = 0 then u else v

/-- `u` and `v` are kept apart: the scaler has a result, an output chroma byte depends only on bytes
of its own kind that the position belongs to, and an image with one `u` and one `v` is scaled to
such an image. -/
structure SeparatesChroma (out in_ : RGBOrYUV) (resize : ImageResize) : Prop where
  runs : ∀ src dst, ∃ m, YUYVResize out in_ resize src dst = some m
  sources : ∀ src src' dst dst' m m', YUYVResize out in_ resize src dst = some m →
    YUYVResize out in_ resize src' dst' = some m' → ∀ r < resize.outputH, ∀ c < resize.outputW,
      (∀ y x, Covered resize r c y x → x % 2 = c % 2 →
        src (chromaPlace in_ resize.inputW y x) = src' (chromaPlace in_ resize.inputW y x)) →
      m (chromaPlace out resize.outputW r c) = m' (chromaPlace out resize.outputW r c)
  constant : CropInside resize → ∀ src dst m u v, YUYVResize out in_ resize src dst = some m →
    HasChroma in_ resize.inputW resize.inputH src u v →
      HasChroma out resize.outputW resize.outputH m u v

variable {out in_ : RGBOrYUV} {resize : ImageResize} {src dst m : Buffer}

/-- The scaler has a result exactly if the output has neither one column nor one row. -/
lemma exists_packedResize_iff (pixel : Buffer → RGBOrYUV → ImageResize → ℕ → ℕ → ℕ → ℕ)
    (hw : ¬ (resize.inputW < 1 ∨ resize.inputH < 1)) (how : resize.outputW < 2 ^ 32)
    (hoh : resize.outputH < 2 ^ 32) :
    (∀ src dst, ∃ m, packedResize pixel out in_ resize src dst = some m) ↔
      resize.outputW ≠ 1 ∧ resize.outputH ≠ 1 := by
  constructor
  · intro h
    obtain ⟨m, hm⟩ := h (fun _ => 0) (fun _ => 0)
    have hnone := packedResize_eq_none pixel out in_ resize (fun _ => 0) (fun _ => 0) hw
    constructor
    · intro hone
      rw [hnone (Or.inl ((stepFixed16b_eq_none how).mpr hone))] at hm
      cases hm
    · intro hone
      rw [hnone (Or.inr ((stepFixed16b_eq_none hoh).mpr hone))] at hm
      cases hm
  · rintro ⟨hW, hH⟩ src dst
    obtain ⟨wStep, hwStep⟩ := exists_stepFixed16b (c := resize.inputCrop.w) hW how
    obtain ⟨hStep, hhStep⟩ := exists_stepFixed16b (c := resize.inputCrop.h) hH hoh
    exact ⟨_, packedResize_eq pixel out in_ resize src dst hw hwStep hhStep⟩

/-- What a packed scaler leaves at the place of a pixel. -/
lemma packedResize_pixel {pixel : Buffer → RGBOrYUV → ImageResize → ℕ → ℕ → ℕ → ℕ}
    (hw : ¬ (resize.inputW < 1 ∨ resize.inputH < 1)) (how : resize.outputW < 2 ^ 32)
    (hoh : resize.outputH < 2 ^ 32) (hW : 2 ≤ resize.outputW) (hH : 2 ≤ resize.outputH)
    (hm : packedResize pixel out in_ resize src dst = some m) {r c : ℕ} (hr : r < resize.outputH)
    (hc : c < resize.outputW) :
    m (out.y + 2 * (r * resize.outputW + c)) =
        byte (pixel src in_ resize c (rowCoef resize r) (colCoef resize c)) ∧
      m (chromaPlace out resize.outputW r c) =
        byte (pixel src in_ resize c (rowCoef resize r) (colCoef resize c) / 2 ^ 8) := by
  rw [packedResize_eq pixel out in_ resize src dst hw (stepFixed16b_of_two_le hW how)
    (stepFixed16b_of_two_le hH hoh)] at hm
  obtain rfl := Option.some.inj hm
  exact storeAll_packedStores pixel out in_ resize src dst _ _ hr hc

/-- The column of the chroma belongs to the position, in its row and in the next one. -/
lemma covered_chromaColumn (resize : ImageResize) (r c y : ℕ)
    (hy : y = offsetOf (rowCoef resize r) ∨ y = offsetOf (rowCoef resize r) + 1) :
    Covered resize r c (resize.inputCrop.y + y)
      (resize.inputCrop.x + chromaColumn c (colCoef resize c)) := by
  unfold Covered chromaColumn
  dsimp only
  omega

/-- A chroma byte of the output is blended from two bytes of the source. -/
lemma YUYVResize_chroma (hw : ¬ (resize.inputW < 1 ∨ resize.inputH < 1))
    (how : resize.outputW < 2 ^ 32) (hoh : resize.outputH < 2 ^ 32) (hW : 2 ≤ resize.outputW)
    (hH : 2 ≤ resize.outputH) (hm : YUYVResize out in_ resize src dst = some m) {r c : ℕ}
    (hr : r < resize.outputH) (hc : c < resize.outputW) :
    m (chromaPlace out resize.outputW r c) =
      byte (blend (rowCoef resize r) (colCoef resize c)
        (chromaByte src in_ resize c (offsetOf (rowCoef resize r)) (colCoef resize c))
        (chromaByte src in_ resize c (offsetOf (rowCoef resize r) + 1) (colCoef resize c))
        (chromaByte src in_ resize c (offsetOf (rowCoef resize r)) (colCoef resize c))
        (chromaByte src in_ resize c (offsetOf (rowCoef resize r) + 1) (colCoef resize c))) := by
  rw [(packedResize_pixel hw how hoh hW hH hm hr hc).2, yuyvPixel_chroma]

/-- A row next to a position is inside of the image. -/
lemma CropInside.row_lt (hcrop : CropInside resize) {r y : ℕ} (hr : r < resize.outputH)
    (hy : y ≤ offsetOf (rowCoef resize r) + 1) : resize.inputCrop.y + y < resize.inputH := by
  have hle : offsetOf (rowCoef resize r) ≤ resize.inputCrop.h - 2 :=
    offsetOf_coefAt_le hcrop.two_le_h hr
  have hin := hcrop.crop_y
  have htwo := hcrop.two_le_h
  omega

/-- A column next to a position is inside of the image. -/
lemma CropInside.col_lt (hcrop : CropInside resize) {c x : ℕ} (hc : c < resize.outputW)
    (hx : x ≤ offsetOf (colCoef resize c) + 1) : resize.inputCrop.x + x < resize.inputW := by
  have hle : offsetOf (colCoef resize c) ≤ resize.inputCrop.w - 2 :=
    offsetOf_coefAt_le hcrop.two_le_w hc
  have hin := hcrop.crop_x
  have htwo := hcrop.two_le_w
  omega

/-- For an even origin, the chroma byte of a column is of the kind of the output column. -/
lemma chromaColumn_even (heven : resize.inputCrop.x % 2 = 0) (col wCoef : ℕ) :
    (resize.inputCrop.x + chromaColumn col wCoef) % 2 = col % 2 := by
  have := chromaColumn_mod col wCoef
  omega

/-- An image that is dark up to one byte. -/
def brightByte (k : ℕ) : Buffer := fun j => if j = k then 255#8 else 0#8

/-- **`u` and `v` are kept apart exactly if the crop rectangle begins in an even column**, or if
there is no output; with one output column or row the scaler divides by zero.

**Proof sketch.** The column of the chroma is as even as the output column from the crop rectangle
on. For an odd origin it is not so in the image; then an image that is dark up to the byte that the
first output pixel takes its `u` from is not told from a dark one by its own `u`. -/
theorem separatesChroma_iff (hw : ¬ (resize.inputW < 1 ∨ resize.inputH < 1))
    (heven : resize.inputW % 2 = 0) (how : resize.outputW < 2 ^ 32)
    (hoh : resize.outputH < 2 ^ 32) :
    SeparatesChroma out in_ resize ↔ (resize.outputW ≠ 1 ∧ resize.outputH ≠ 1) ∧
      (resize.inputCrop.x % 2 = 0 ∨ resize.outputW = 0 ∨ resize.outputH = 0) := by
  have hruns := @exists_packedResize_iff out in_ resize yuyvPixel hw how hoh
  constructor
  · intro h
    obtain ⟨hW, hH⟩ := hruns.mp h.runs
    refine ⟨⟨hW, hH⟩, ?_⟩
    by_contra hodd
    push Not at hodd
    obtain ⟨hx, hW0, hH0⟩ := hodd
    have hW2 : 2 ≤ resize.outputW := by omega
    have hH2 : 2 ≤ resize.outputH := by omega
    let place := chromaPlace in_ resize.inputW resize.inputCrop.y resize.inputCrop.x
    obtain ⟨m, hm⟩ := h.runs (brightByte place) (fun _ => 0)
    obtain ⟨m', hm'⟩ := h.runs (fun _ => 0#8) (fun _ => 0)
    have hsame := h.sources _ _ _ _ m m' hm hm' 0 (by omega) 0 (by omega) (by
      intro y x _ hxeven
      refine if_neg fun heq => ?_
      simp only [place, chromaPlace] at heq
      have hrow := Nat.mul_mod y resize.inputW 2
      have hrow' := Nat.mul_mod resize.inputCrop.y resize.inputW 2
      rw [heven, Nat.mul_zero, Nat.zero_mod] at hrow hrow'
      omega)
    rw [YUYVResize_chroma hw how hoh hW2 hH2 hm (by omega) (by omega),
      YUYVResize_chroma hw how hoh hW2 hH2 hm' (by omega) (by omega)] at hsame
    simp only [rowCoef, colCoef, coefAt_zero, chromaByte, chromaColumn, offsetOf, Nat.zero_div,
      Nat.zero_mod, Nat.add_zero] at hsame
    have hbright : (brightByte place place).toNat = 255 := by simp [brightByte]
    rw [show chromaPlace in_ resize.inputW resize.inputCrop.y resize.inputCrop.x = place from rfl,
      hbright] at hsame
    simp [blend, coef1, coef2, byte] at hsame
  · rintro ⟨hsizes, hcond⟩
    have hsome {r c : ℕ} (hr : r < resize.outputH) (hc : c < resize.outputW) :
        2 ≤ resize.outputW ∧ 2 ≤ resize.outputH ∧ resize.inputCrop.x % 2 = 0 := by
      omega
    refine ⟨hruns.mpr hsizes, ?_, ?_⟩
    · intro src src' dst dst' m m' hm hm' r hr c hc hagree
      obtain ⟨hW, hH, hx⟩ := hsome hr hc
      have hbyte (y : ℕ) (hy : y = offsetOf (rowCoef resize r) ∨
          y = offsetOf (rowCoef resize r) + 1) :
          chromaByte src in_ resize c y (colCoef resize c) =
            chromaByte src' in_ resize c y (colCoef resize c) :=
        congrArg BitVec.toNat (hagree _ _ (covered_chromaColumn resize r c y hy)
          (chromaColumn_even hx c _))
      rw [YUYVResize_chroma hw how hoh hW hH hm hr hc, YUYVResize_chroma hw how hoh hW hH hm' hr hc,
        hbyte _ (Or.inl rfl), hbyte _ (Or.inr rfl)]
    · intro hcrop src dst m u v hm hchroma r hr c hc
      obtain ⟨hW, hH, hx⟩ := hsome hr hc
      have hbyte (y : ℕ) (hy : y ≤ offsetOf (rowCoef resize r) + 1) :
          chromaByte src in_ resize c y (colCoef resize c) =
            (if c % 2 = 0 then u else v).toNat := by
        rw [chromaByte, hchroma _ (hcrop.row_lt hr hy) _ (hcrop.col_lt hc (chromaColumn_le c _)),
          chromaColumn_even hx]
      rw [YUYVResize_chroma hw how hoh hW hH hm hr hc, hbyte _ (Nat.le_succ _), hbyte _ le_rfl,
        blend_self, byte, BitVec.ofNat_toNat, BitVec.setWidth_eq]

/-- A crop rectangle of two columns and rows, in an image of four columns. -/
def cropAt (x : ℕ) : ImageResize := ⟨4, 2, ⟨x, 0, 2, 2⟩, 2, 2⟩

/-- A crop rectangle with an even origin. -/
theorem separatesChroma_cropAt_two :
    SeparatesChroma {} {} (cropAt 2) ↔ ((cropAt 2).outputW ≠ 1 ∧ (cropAt 2).outputH ≠ 1) ∧
      ((cropAt 2).inputCrop.x % 2 = 0 ∨ (cropAt 2).outputW = 0 ∨ (cropAt 2).outputH = 0) :=
  separatesChroma_iff (by decide) (by decide) (by decide) (by decide)

/-- An image with one luma, one `u` and one `v`. -/
def uvImage : Buffer := fun k => if k % 4 = 1 then 16#8 else if k % 4 = 3 then 240#8 else 128#8

/-- With an odd origin, the first output pixel has `v` in the place of `u`. -/
theorem not_separatesChroma_cropAt_one : ¬ SeparatesChroma {} {} (cropAt 1) := by
  intro h
  obtain ⟨m, hm⟩ := h.runs uvImage (fun _ => 0)
  have hvalue : (YUYVResize {} {} (cropAt 1) uvImage fun _ => 0).map (fun m => m 1) =
      some 240#8 := by decide +kernel
  have hchroma : HasChroma {} 4 2 uvImage 16#8 240#8 := by unfold HasChroma; decide +kernel
  have hconstant := h.constant (by constructor <;> decide) uvImage _ m _ _ hm hchroma 0 (by decide)
    0 (by decide)
  rw [hm, Option.map_some, Option.some.injEq] at hvalue
  have hplace : m 1 = 16#8 := hconstant
  rw [hplace] at hvalue
  exact absurd hvalue (by decide)

end CameraHal
