import Gs702aHal.Lib.Plane
import Gs702aHal.Camera.CallbackNotifier
import Gs702aHal.Camera.Resize

set_option relaxedAutoImplicit false
set_option autoImplicit false

/-!
# Scaling a raw frame

`cameraFrameResize` scales the crop rectangle of a raw frame to the size that the application asked
for. The 4:2:0 formats are always scaled, into planes with aligned rows. For the packed formats a
frame that is not cropped is copied instead, whatever the requested size is. The source and the
destination are not `NULL`; without one of them the functions return `false` and write nothing.

## Main definitions

* `CameraHal.SizedFrame` — a frame with a crop rectangle inside of its image.
* `CameraHal.cameraFrameResize` — the function; `CameraHal.scaled` is its general path.
* `CameraHal.InImage` — the bytes of the requested image, `CameraHal.destSize` the size that
  `resizeRawFrame` allocates for it.
* `CameraHal.Scales` — the frame is scaled to exactly the requested image, and the copy is what the
  scaler would have written.
* `CameraHal.Scalable` — the condition on the frame.

## Main results

* `CameraHal.not_forall_copy_eq_packed` — no scaling of a whole image is a copy of its bytes.
* `CameraHal.scales_iff` — a frame is scaled exactly if it is scalable.
-/

namespace CameraHal

open StoreLog

/-- A `CameraFrame` with the sizes that the scalers look at. All of them are 32-bit numbers. -/
structure SizedFrame where
  mFormat : FrameFormat
  mOrigWidth : ℕ
  mOrigHeight : ℕ
  mXOff : ℕ
  mYOff : ℕ
  mWidth : ℕ
  mHeight : ℕ
  mEncodeWidth : ℕ
  mEncodeHeight : ℕ
  /-- The crop rectangle lies inside of the image. -/
  crop_x : mXOff + mWidth ≤ mOrigWidth
  crop_y : mYOff + mHeight ≤ mOrigHeight
  origWidth_lt : mOrigWidth < 2 ^ 32
  origHeight_lt : mOrigHeight < 2 ^ 32
  encodeWidth_lt : mEncodeWidth < 2 ^ 32
  encodeHeight_lt : mEncodeHeight < 2 ^ 32

namespace SizedFrame

/-- The arguments of the scaler. -/
def resize (f : SizedFrame) : ImageResize :=
  ⟨f.mOrigWidth, f.mOrigHeight, ⟨f.mXOff, f.mYOff, f.mWidth, f.mHeight⟩, f.mEncodeWidth,
    f.mEncodeHeight⟩

/-- The test of the fast path: the crop rectangle is the whole image. -/
def Whole (f : SizedFrame) : Prop :=
  f.mOrigWidth = f.mWidth ∧ f.mOrigHeight = f.mHeight ∧ f.mXOff = 0 ∧ f.mYOff = 0

instance (f : SizedFrame) : Decidable f.Whole :=
  inferInstanceAs (Decidable (f.mOrigWidth = f.mWidth ∧ _))

/-- The number of bytes that the fast path copies, `(inputW * inputH * 16) >> 3` on `uint32_t`. -/
def copied (f : SizedFrame) : ℕ := f.mOrigWidth * f.mOrigHeight * 16 % 2 ^ 32 / 2 ^ 3

/-- The image has no pixels. -/
def Empty (f : SizedFrame) : Prop := f.mOrigWidth < 1 ∨ f.mOrigHeight < 1

instance (f : SizedFrame) : Decidable f.Empty :=
  inferInstanceAs (Decidable (f.mOrigWidth < 1 ∨ f.mOrigHeight < 1))

end SizedFrame

/-- The planes of a semi-planar source image. -/
def nv12In (w h : ℕ) : RGBOrYUV := { y := 0, u := w * h, v := w * h + 1 }

/-- The planes of a planar source image. -/
def yu12In (w h : ℕ) : RGBOrYUV := { y := 0, u := w * h, v := w * h + w * h / 2 ^ 2 }

/-- The destination planes of `cameraFrameResizeNV12ToNV21_OA`. -/
def nv21Out (w h : ℕ) : RGBOrYUV :=
  { y := 0, v := ALIGN16 w * h, u := ALIGN16 w * h + 1 }

/-- The destination planes of `cameraFrameResizeYU12ToYV12_OA`. -/
def yv12Out (w h : ℕ) : RGBOrYUV :=
  { y := 0, v := ALIGN16 w * h, u := ALIGN16 w * h + ALIGN16 (w / 2) * (h / 2) }

/-- The general path: the scaler of the frame's format. -/
def scaled (f : SizedFrame) : Buffer → Buffer → Option Buffer :=
  match f.mFormat with
  | .CAMERA_FRAME_FORMAT_RGB565 => RGB565Resize {} {} f.resize
  | .CAMERA_FRAME_FORMAT_YUV422I => YUYVResize {} {} f.resize
  | .CAMERA_FRAME_FORMAT_YUV420P =>
    YX12ResizeOA (yv12Out f.mEncodeWidth f.mEncodeHeight) (yu12In f.mOrigWidth f.mOrigHeight)
      f.resize
  | .CAMERA_FRAME_FORMAT_YUV420SP =>
    NVXXResizeOA (nv21Out f.mEncodeWidth f.mEncodeHeight) (nv12In f.mOrigWidth f.mOrigHeight)
      f.resize
  | .CAMERA_FRAME_FORMAT_JPEG | .CAMERA_FRAME_FORMAT_PNG => fun _ dst => some dst

/-- `cameraFrameResizeRGB565` and `cameraFrameResizeYUYV`: the whole image is copied. -/
def cameraFrameResizePacked (f : SizedFrame) (src dst : Buffer) : Option (Bool × Buffer) :=
  if f.Whole then some (true, copyCells dst 0 src 0 f.copied)
  else (scaled f src dst).map (Prod.mk true)

/-- `cameraFrameResizeYU12ToYV12_OA` and `cameraFrameResizeNV12ToNV21_OA`. -/
def cameraFrameResizePlanar (f : SizedFrame) (src dst : Buffer) : Option (Bool × Buffer) :=
  (scaled f src dst).map (Prod.mk true)

/-- `cameraFrameResize`. -/
def cameraFrameResize (f : SizedFrame) (src dst : Buffer) : Option (Bool × Buffer) :=
  match f.mFormat with
  | .CAMERA_FRAME_FORMAT_RGB565 | .CAMERA_FRAME_FORMAT_YUV422I => cameraFrameResizePacked f src dst
  | .CAMERA_FRAME_FORMAT_YUV420P | .CAMERA_FRAME_FORMAT_YUV420SP =>
    cameraFrameResizePlanar f src dst
  | .CAMERA_FRAME_FORMAT_JPEG | .CAMERA_FRAME_FORMAT_PNG => some (false, dst)

/-! ### The requested image -/

/-- The planes of a YV12 image with aligned rows: luma, `v` and `u`, one after the other. -/
def yv12Planes (w h : ℕ) : List Plane :=
  [⟨0, ALIGN16 w, 1, h, w⟩, ⟨ALIGN16 w * h, ALIGN16 (w / 2), 1, h / 2, w / 2⟩,
    ⟨ALIGN16 w * h + ALIGN16 (w / 2) * (h / 2), ALIGN16 (w / 2), 1, h / 2, w / 2⟩]

/-- The planes of an NV21 image with aligned rows: luma, then `v` and `u` by turns. -/
def nv21Planes (w h : ℕ) : List Plane :=
  [⟨0, ALIGN16 w, 1, h, w⟩, ⟨ALIGN16 w * h, ALIGN16 w, 2, h / 2, w / 2⟩,
    ⟨ALIGN16 w * h + 1, ALIGN16 w, 2, h / 2, w / 2⟩]

/-- The planes of the requested image. -/
def imagePlanes (f : SizedFrame) : List Plane :=
  match f.mFormat with
  | .CAMERA_FRAME_FORMAT_RGB565 | .CAMERA_FRAME_FORMAT_YUV422I =>
    [⟨0, 2 * f.mEncodeWidth, 1, f.mEncodeHeight, 2 * f.mEncodeWidth⟩]
  | .CAMERA_FRAME_FORMAT_YUV420P => yv12Planes f.mEncodeWidth f.mEncodeHeight
  | .CAMERA_FRAME_FORMAT_YUV420SP => nv21Planes f.mEncodeWidth f.mEncodeHeight
  | .CAMERA_FRAME_FORMAT_JPEG | .CAMERA_FRAME_FORMAT_PNG => []

/-- A byte of the requested image. -/
def InImage (f : SizedFrame) (k : ℕ) : Prop := ∃ p ∈ imagePlanes f, p.Has k

/-- The size of the memory that `resizeRawFrame` requests for the image. -/
def destSize (f : SizedFrame) : ℕ :=
  match f.mFormat with
  | .CAMERA_FRAME_FORMAT_YUV420P =>
    ALIGN16 f.mEncodeWidth * f.mEncodeHeight + ALIGN16 (f.mEncodeWidth / 2) * f.mEncodeHeight
  | .CAMERA_FRAME_FORMAT_YUV420SP =>
    ALIGN16 f.mEncodeWidth * f.mEncodeHeight + ALIGN16 f.mEncodeWidth * (f.mEncodeHeight / 2)
  | _ => f.mEncodeWidth * f.mEncodeHeight * 16 / 2 ^ 3

/-- The destination after a call that returns `true`. -/
def written : Option (Bool × Buffer) → Option Buffer
  | some (true, dst) => some dst
  | _ => none

/-- The frame is scaled: the call writes exactly the requested image, which lies inside of the
destination, and copying a whole image writes what the scaler would have written. -/
structure Scales (f : SizedFrame) : Prop where
  exact : ∀ src, WritesExactly (fun dst => written (cameraFrameResize f src dst)) (InImage f)
  inside : ∀ k, InImage f k → k < destSize f
  copy : f.Whole → ∀ src dst,
    written (cameraFrameResize f src dst) = scaled f src dst

/-- The frame's format is scaled, and: an image without pixels is only scaled to one without
pixels; else no side of the requested image has one pixel. For a packed format, a whole image that
has bytes to copy is not scaled, and one that has none only to an image without pixels; for a
4:2:0 format, an image with pixels has even sides. -/
def Scalable (f : SizedFrame) : Prop :=
  f.mFormat ≠ .CAMERA_FRAME_FORMAT_JPEG ∧ f.mFormat ≠ .CAMERA_FRAME_FORMAT_PNG ∧
    if f.Empty then f.mEncodeWidth = 0 ∨ f.mEncodeHeight = 0
    else
      f.mEncodeWidth ≠ 1 ∧ f.mEncodeHeight ≠ 1 ∧
        if f.mFormat = .CAMERA_FRAME_FORMAT_RGB565 ∨ f.mFormat = .CAMERA_FRAME_FORMAT_YUV422I then
          f.Whole → f.copied = 0 ∧ (f.mEncodeWidth = 0 ∨ f.mEncodeHeight = 0)
        else
          f.mEncodeWidth = 0 ∨ f.mEncodeHeight = 0 ∨
            f.mEncodeWidth % 2 = 0 ∧ f.mEncodeHeight % 2 = 0

/-! ### The copy is no scaled image -/

/-- A row of two samples, one of which is not the largest. -/
lemma row_lt (hCoef : ℕ) {a b p : ℕ} (ha : a < p) (hb : b ≤ p) :
    a * coef1 hCoef + b * coef2 hCoef < p * 128 := by
  rw [← coef1_add_coef2 hCoef, Nat.mul_add]
  exact Nat.add_lt_add_of_lt_of_le (Nat.mul_lt_mul_of_pos_right ha (coef1_pos hCoef))
    (Nat.mul_le_mul_right _ hb)

lemma row_le (hCoef : ℕ) {a b p : ℕ} (ha : a ≤ p) (hb : b ≤ p) :
    a * coef1 hCoef + b * coef2 hCoef ≤ p * 128 := by
  rw [← coef1_add_coef2 hCoef, Nat.mul_add]
  exact Nat.add_le_add (Nat.mul_le_mul_right _ ha) (Nat.mul_le_mul_right _ hb)

/-- **Only neighbours that all have the largest value blend to it**, if they have weight: the sample
itself always has. -/
theorem blend_eq_top {hCoef wCoef p1 p2 p3 p4 p : ℕ} (h1 : p1 ≤ p) (h2 : p2 ≤ p) (h3 : p3 ≤ p)
    (h4 : p4 ≤ p) (h : blend hCoef wCoef p1 p2 p3 p4 = p) :
    p1 = p ∧ (0 < coef2 wCoef → p3 = p) := by
  have htop : p * 2 ^ 14 = p * 128 * coef1 wCoef + p * 128 * coef2 wCoef := by
    rw [← Nat.mul_add, coef1_add_coef2, Nat.mul_assoc, ← Nat.pow_add 2 7 7]
  have hreach : p * 2 ^ 14 ≤ (p1 * coef1 hCoef + p2 * coef2 hCoef) * coef1 wCoef +
      (p3 * coef1 hCoef + p4 * coef2 hCoef) * coef2 wCoef :=
    (Nat.le_div_iff_mul_le (by decide)).mp (by rw [← blend, h])
  rw [htop] at hreach
  constructor
  · by_contra hne
    have hlt := row_lt hCoef (Nat.lt_of_le_of_ne h1 hne) h2
    exact absurd hreach (not_le.mpr (Nat.add_lt_add_of_lt_of_le
      (Nat.mul_lt_mul_of_pos_right hlt (coef1_pos wCoef))
      (Nat.mul_le_mul_right _ (row_le hCoef h3 h4))))
  · intro hpos
    by_contra hne
    have hlt := row_lt hCoef (Nat.lt_of_le_of_ne h3 hne) h4
    exact absurd hreach (not_le.mpr (Nat.add_lt_add_of_le_of_lt
      (Nat.mul_le_mul_right _ (row_le hCoef h1 h2)) (Nat.mul_lt_mul_of_pos_right hlt hpos)))

/-- **No scaling takes every pixel from its own place.** Positions that meet every pixel of the
output image exactly do not exist.

**Proof sketch.** The first row makes the last column's position `ow - 1`, which is at most the crop
width less two; so the second row would have to start inside of the first row of the input. Only for
an input of one column does the width wrap around; then the step is a whole pixel only for an output
of `2 ^ 16` columns, and the second row would have to start out of reach. -/
theorem not_forall_position {iw ih ow oh wStep hStep : ℕ} (hiw : 1 ≤ iw) (how : 2 ≤ ow)
    (hoh : 2 ≤ oh) (hwStep : wStep = shiftedSize iw / (ow - 1))
    (hhStep : hStep = shiftedSize ih / (oh - 1)) :
    ¬ ∀ r < oh, ∀ c < ow, offsetOf (coefAt hStep r) * iw + offsetOf (coefAt wStep c) = r * ow + c ∧
        coef2 (coefAt wStep c) = 0 := by
  intro h
  obtain ⟨hlast, hfull⟩ := h 0 (by omega) (ow - 1) (by omega)
  obtain ⟨hcoef, hle⟩ := coefAt_of_lt hwStep (show ow - 1 < ow by omega)
  have hwide : (ow - 1) * wStep / 2 ^ 16 ≤ shiftedSize iw / 2 ^ 16 := Nat.div_le_div_right hle
  rw [coefAt_zero, hcoef] at hlast
  rw [hcoef, coef2] at hfull
  simp only [offsetOf, Nat.zero_div, Nat.zero_mul, Nat.zero_add] at hlast
  rw [hlast, shiftedSize_div] at hwide
  obtain ⟨hnext, -⟩ := h 1 (by omega) 0 (by omega)
  obtain ⟨hcoef', hle'⟩ := coefAt_of_lt hhStep (show 1 < oh by omega)
  have htall : 1 * hStep / 2 ^ 16 ≤ shiftedSize ih / 2 ^ 16 := Nat.div_le_div_right hle'
  rw [shiftedSize_div] at htall
  rw [coefAt_zero, hcoef'] at hnext
  simp only [offsetOf, Nat.zero_div, Nat.add_zero, Nat.one_mul] at hnext htall
  by_cases hone : iw = 1
  · subst hone
    rw [Nat.mul_one] at hnext
    obtain ⟨hsecond, hzero⟩ := h 0 (by omega) 1 (by omega)
    obtain ⟨hcoef1, -⟩ := coefAt_of_lt hwStep (show 1 < ow by omega)
    rw [coefAt_zero, hcoef1] at hsecond
    rw [hcoef1, coef2] at hzero
    simp only [offsetOf, Nat.zero_div, Nat.zero_mul, Nat.zero_add, Nat.one_mul] at hsecond hzero
    have hsize : shiftedSize 1 = 65535 * 2 ^ 16 := by decide
    have hdiv : shiftedSize 1 < (wStep + 1) * (ow - 1) := by
      rw [hwStep]
      exact Nat.lt_mul_of_div_lt (Nat.lt_succ_self _) (by omega)
    rw [hsize, Nat.add_one_mul wStep, Nat.mul_comm wStep] at hdiv
    have hstep : wStep = 2 ^ 16 := by
      by_contra hne
      have := Nat.mul_le_mul_left (ow - 1) (show 2 ^ 16 + 1 ≤ wStep by omega)
      omega
    rw [hstep] at hdiv
    omega
  · -- the second row would start inside of the first row of the input
    have hinside : ow < iw := by omega
    rcases Nat.eq_zero_or_pos (hStep / 2 ^ 16) with hzero | hpos
    · rw [hzero] at hnext
      omega
    · have := Nat.mul_le_mul_right iw hpos
      omega

/-- The low byte of a pixel is the blended low byte, if no neighbour has more than its five low
bits: the blue of `RGB565`, the luma of `YUYV`. -/
def BlendsLow (pixel : Buffer → RGBOrYUV → ImageResize → ℕ → ℕ → ℕ → ℕ) : Prop :=
  ∀ (src : Buffer) (in_ : RGBOrYUV) (resize : ImageResize) (col hCoef wCoef : ℕ),
    (∀ y x, half src (packedAt in_ resize y x) ≤ 31) →
    byte (pixel src in_ resize col hCoef wCoef) =
      byte (let (pixel1, pixel2, pixel3, pixel4) := packedPixels src in_ resize hCoef wCoef
        blend hCoef wCoef pixel1 pixel2 pixel3 pixel4)

lemma blend_zero (hCoef wCoef : ℕ) : blend hCoef wCoef 0 0 0 0 = 0 := by simp [blend]

lemma blendsLow_rgb565 : BlendsLow rgb565Pixel := by
  intro src in_ resize col hCoef wCoef hsmall
  have h11 : ∀ y x, half src (packedAt in_ resize y x) / 2 ^ 11 % 32 = 0 := fun y x => by
    have := hsmall y x
    omega
  have h5 : ∀ y x, half src (packedAt in_ resize y x) / 2 ^ 5 % 64 = 0 := fun y x => by
    have := hsmall y x
    omega
  have h0 : ∀ y x, half src (packedAt in_ resize y x) / 2 ^ 0 % 32 =
      half src (packedAt in_ resize y x) := fun y x => by
    have := hsmall y x
    omega
  simp only [rgb565Pixel, packedPixels, h11, h5, h0, blend_zero, Nat.zero_mul, Nat.zero_add]

lemma byte_add_high (a b : ℕ) : byte (a + 2 ^ 8 * b) = byte a := by
  apply BitVec.eq_of_toNat_eq
  simp only [byte, BitVec.toNat_ofNat, Nat.add_mul_mod_self_left]

lemma blendsLow_yuyv : BlendsLow yuyvPixel := by
  intro src in_ resize col hCoef wCoef hsmall
  have h0 : ∀ y x, half src (packedAt in_ resize y x) % 2 ^ 8 =
      half src (packedAt in_ resize y x) := fun y x => by
    have := hsmall y x
    omega
  simp only [yuyvPixel, packedPixels, h0, byte_add_high]

/-- An image that is dark up to one pixel. -/
def spot (i : ℕ) : Buffer := fun k => if k = 2 * i then 31#8 else 0#8

lemma half_spot (i j : ℕ) : half (spot i) (2 * j) = if j = i then 31 else 0 := by
  have hodd : 2 * j + 1 ≠ 2 * i := by omega
  by_cases hji : j = i
  · simp [half, spot, hji]
  · have heven : 2 * j ≠ 2 * i := by omega
    simp [half, spot, hji, hodd, heven]

/-- A pixel that has all of a spot is at the spot's place. -/
lemma position_of_spot {pixel : Buffer → RGBOrYUV → ImageResize → ℕ → ℕ → ℕ → ℕ}
    (hpixel : BlendsLow pixel) {resize : ImageResize} {w i col hCoef wCoef : ℕ}
    (hat : ∀ y x, packedAt {} resize y x = 2 * (y * w + x))
    (h : byte (pixel (spot i) {} resize col hCoef wCoef) = 31#8) :
    offsetOf hCoef * w + offsetOf wCoef = i ∧ coef2 wCoef = 0 := by
  have hsmall : ∀ j, half (spot i) (2 * j) ≤ 31 := fun j => by
    rw [half_spot]
    split_ifs <;> omega
  rw [hpixel _ _ _ _ _ _ fun y x => hat y x ▸ hsmall _] at h
  simp only [packedPixels, hat] at h
  have hle := blend_le hCoef wCoef
    (hsmall (offsetOf hCoef * w + offsetOf wCoef))
    (hsmall ((offsetOf hCoef + 1) * w + offsetOf wCoef))
    (hsmall (offsetOf hCoef * w + (offsetOf wCoef + 1)))
    (hsmall ((offsetOf hCoef + 1) * w + (offsetOf wCoef + 1)))
  have hbyte := congrArg BitVec.toNat h
  simp only [byte, BitVec.toNat_ofNat] at hbyte
  have htop : blend hCoef wCoef (half (spot i) (2 * (offsetOf hCoef * w + offsetOf wCoef)))
      (half (spot i) (2 * ((offsetOf hCoef + 1) * w + offsetOf wCoef)))
      (half (spot i) (2 * (offsetOf hCoef * w + (offsetOf wCoef + 1))))
      (half (spot i) (2 * ((offsetOf hCoef + 1) * w + (offsetOf wCoef + 1)))) = 31 := by
    omega
  obtain ⟨hself, hright⟩ := blend_eq_top (hsmall _) (hsmall _) (hsmall _) (hsmall _) htop
  rw [half_spot] at hself hright
  have hplace : offsetOf hCoef * w + offsetOf wCoef = i := by
    by_contra hne
    rw [if_neg hne] at hself
    omega
  refine ⟨hplace, ?_⟩
  by_contra hne
  have := hright (Nat.pos_of_ne_zero hne)
  rw [if_neg (by omega)] at this
  omega

/-- **No scaling of a whole image is a copy of its bytes.**

**Proof sketch.** For the image that is dark up to one pixel, the copy has that pixel at its place,
so that the scaler must take all of it from there (`position_of_spot`); for all pixels of the output
this is impossible (`not_forall_position`). -/
theorem not_forall_copy_eq_packed {pixel : Buffer → RGBOrYUV → ImageResize → ℕ → ℕ → ℕ → ℕ}
    (hpixel : BlendsLow pixel) {f : SizedFrame} (hwhole : f.Whole) (hempty : ¬ f.Empty)
    (how : 2 ≤ f.mEncodeWidth) (hoh : 2 ≤ f.mEncodeHeight)
    (hn : 2 * (f.mEncodeHeight * f.mEncodeWidth) ≤ f.copied) :
    ¬ ∀ src dst, some (copyCells dst 0 src 0 f.copied) =
      packedResize pixel {} {} f.resize src dst := by
  intro h
  obtain ⟨hw, hh, hx, hy⟩ := hwhole
  have hat : ∀ y x, packedAt {} f.resize y x = 2 * (y * f.mWidth + x) := fun y x => by
    simp [packedAt, SizedFrame.resize, hx, hy, hw]
  refine @not_forall_position f.mWidth f.mHeight _ _ _ _ ?_ how hoh rfl rfl ?_
  · have := mt (Or.inl (b := f.mOrigHeight < 1)) hempty
    omega
  intro r hr c hc
  refine position_of_spot hpixel hat (show byte (pixel _ {} f.resize c _ _) = 31#8 from ?_)
  have hcopy := h (spot (r * f.mEncodeWidth + c)) fun _ => 0#8
  rw [packedResize_eq pixel {} {} f.resize _ _ hempty
    (stepFixed16b_of_two_le how f.encodeWidth_lt) (stepFixed16b_of_two_le hoh f.encodeHeight_lt)]
    at hcopy
  have hplace := congrFun (Option.some.inj hcopy) (0 + 2 * (r * f.mEncodeWidth + c))
  have hscaled := (storeAll_packedStores pixel {} {} f.resize (spot (r * f.mEncodeWidth + c))
    (fun _ => 0#8) (shiftedSize f.mWidth / (f.mEncodeWidth - 1))
    (shiftedSize f.mHeight / (f.mEncodeHeight - 1)) hr hc).1
  have hlast := Nat.mul_le_mul_right f.mEncodeWidth (show r + 1 ≤ f.mEncodeHeight from hr)
  rw [Nat.add_one_mul r] at hlast
  have hinside : 0 ≤ 0 + 2 * (r * f.mEncodeWidth + c) ∧
      0 + 2 * (r * f.mEncodeWidth + c) < 0 + f.copied := by
    constructor <;> omega
  rw [copyCells, if_pos hinside] at hplace
  rw [← hscaled]
  refine Eq.trans hplace.symm ?_
  simp [spot]

/-! ### What a scaler writes -/

/-- What a procedure writes that makes a list of stores on every memory. -/
lemma writesExactly_iff_of_stores {run : Buffer → Option Buffer} {S : ℕ → Prop}
    {ws : List (ℕ × Byte)} (hrun : ∀ dst, run dst = some (storeAll ws dst)) :
    WritesExactly run S ↔ ∀ k, k ∈ targets ws ↔ S k := by
  rw [show run = fun dst => some (storeAll ws dst) from funext hrun]
  exact writesExactly_storeAll_iff

/-- A scaler does nothing without input, divides by zero if the output has one column or row, and
stores to the bytes of `T` else. -/
structure ScalesTo (f : SizedFrame) (run : Buffer → Option Buffer) (T : ℕ → Prop) : Prop where
  empty : f.Empty → ∀ dst, run dst = some dst
  zero : ¬ f.Empty → f.mEncodeWidth = 1 ∨ f.mEncodeHeight = 1 → ∀ dst, run dst = none
  stores : ¬ f.Empty → f.mEncodeWidth ≠ 1 → f.mEncodeHeight ≠ 1 →
    ∃ ws, (∀ dst, run dst = some (storeAll ws dst)) ∧ ∀ k, k ∈ targets ws ↔ T k

/-- **When a scaler writes exactly some bytes.** -/
theorem ScalesTo.writesExactly_iff {f : SizedFrame} {run : Buffer → Option Buffer} {S T : ℕ → Prop}
    (h : ScalesTo f run T) :
    WritesExactly run S ↔
      if f.Empty then ∀ k, ¬ S k
      else f.mEncodeWidth ≠ 1 ∧ f.mEncodeHeight ≠ 1 ∧ ∀ k, T k ↔ S k := by
  by_cases hempty : f.Empty
  · rw [if_pos hempty, @writesExactly_iff_of_stores run S [] (h.empty hempty)]
    exact forall_congr' fun k => by simp [targets]
  · rw [if_neg hempty]
    by_cases hone : f.mEncodeWidth = 1 ∨ f.mEncodeHeight = 1
    · rw [show run = fun _ => none from funext (h.zero hempty hone)]
      refine iff_of_false not_writesExactly_none ?_
      rintro ⟨hw, hh, -⟩
      exact hone.elim hw hh
    · obtain ⟨hw, hh⟩ := not_or.mp hone
      obtain ⟨ws, hrun, htargets⟩ := h.stores hempty hw hh
      rw [writesExactly_iff_of_stores hrun]
      simp only [htargets, hw, hh, ne_eq, not_false_eq_true, true_and]

/-- The step of a side of one pixel is not defined. -/
lemma step_eq_none {f : SizedFrame} (hone : f.mEncodeWidth = 1 ∨ f.mEncodeHeight = 1) :
    stepFixed16b f.resize.inputCrop.w f.resize.outputW = none ∨
      stepFixed16b f.resize.inputCrop.h f.resize.outputH = none :=
  hone.imp (stepFixed16b_eq_none f.encodeWidth_lt).mpr (stepFixed16b_eq_none f.encodeHeight_lt).mpr

/-- A packed scaler stores to the pixels of the image. -/
lemma scalesTo_packed (pixel : Buffer → RGBOrYUV → ImageResize → ℕ → ℕ → ℕ → ℕ)
    (f : SizedFrame) (src : Buffer) :
    ScalesTo f (packedResize pixel {} {} f.resize src)
      fun k => k < 2 * (f.mEncodeHeight * f.mEncodeWidth) where
  empty hempty dst := by
    rw [packedResize, if_pos (show f.resize.inputW < 1 ∨ f.resize.inputH < 1 from hempty)]
  zero hempty hone dst := packedResize_eq_none pixel {} {} f.resize src dst hempty
    (step_eq_none hone)
  stores hempty hw hh := by
    obtain ⟨wStep, hwStep⟩ := exists_stepFixed16b (c := f.mWidth) hw f.encodeWidth_lt
    obtain ⟨hStep, hhStep⟩ := exists_stepFixed16b (c := f.mHeight) hh f.encodeHeight_lt
    exact ⟨_, fun dst => packedResize_eq pixel {} {} f.resize src dst hempty hwStep hhStep,
      fun k => mem_targets_packedStores⟩

/-- `_YUV420Resize` stores to the planes, with chroma for every two columns and rows or less. -/
lemma scalesTo_planar (out in_ : RGBOrYUV) (f : SizedFrame) (src : Buffer) :
    ScalesTo f (YUV420Resize out in_ f.resize src)
      fun k => ∃ p ∈ planesOf out f.mEncodeWidth f.mEncodeHeight ((f.mEncodeWidth + 1) / 2)
        ((f.mEncodeHeight + 1) / 2), p.Has k where
  empty hempty dst := by
    rw [YUV420Resize, if_pos (show f.resize.inputW < 1 ∨ f.resize.inputH < 1 from hempty)]
  zero hempty hone dst := YUV420Resize_eq_none out in_ f.resize src dst hempty (step_eq_none hone)
  stores hempty hw hh := by
    obtain ⟨wStep, hwStep⟩ := exists_stepFixed16b (c := f.mWidth) hw f.encodeWidth_lt
    obtain ⟨hStep, hhStep⟩ := exists_stepFixed16b (c := f.mHeight) hh f.encodeHeight_lt
    exact ⟨_, fun dst => YUV420Resize_eq out in_ f.resize src dst hempty hwStep hhStep,
      fun k => mem_targets_planarStores⟩

/-! ### The packed formats -/

/-- An interval from zero on is empty exactly if it has no length. -/
lemma forall_not_lt_iff {w h : ℕ} : (∀ k, ¬ k < 2 * (h * w)) ↔ w = 0 ∨ h = 0 := by
  constructor
  · intro hnone
    have hzero := hnone 0
    have hprod : h * w = 0 := by omega
    exact (Nat.mul_eq_zero.mp hprod).symm
  · rintro (rfl | rfl) k <;> omega

/-- The general path of a packed format writes exactly the requested image if and only if it does
not divide by zero, or has no input and the image no pixels. -/
lemma writesExactly_packed_iff (pixel : Buffer → RGBOrYUV → ImageResize → ℕ → ℕ → ℕ → ℕ)
    (f : SizedFrame) (src : Buffer) :
    WritesExactly (packedResize pixel {} {} f.resize src)
        (fun k => k < 2 * (f.mEncodeHeight * f.mEncodeWidth)) ↔
      if f.Empty then f.mEncodeWidth = 0 ∨ f.mEncodeHeight = 0
      else f.mEncodeWidth ≠ 1 ∧ f.mEncodeHeight ≠ 1 := by
  rw [(scalesTo_packed pixel f src).writesExactly_iff, forall_not_lt_iff]
  simp only [implies_true, and_true]

/-- What the fast path writes. -/
lemma writesExactly_copy_iff (f : SizedFrame) (src : Buffer) (S : ℕ → Prop) :
    WritesExactly (fun dst => some (copyCells dst 0 src 0 f.copied)) S ↔
      ∀ k, k < f.copied ↔ S k := by
  rw [writesExactly_iff_of_stores fun dst => congrArg some
    (copyCells_eq_storeAll dst 0 src 0 f.copied)]
  refine forall_congr' fun k => ?_
  rw [mem_targets_copy, Nat.zero_add]
  simp only [Nat.zero_le, true_and]

/-- The fast path copies nothing of an image without pixels. -/
lemma copied_of_empty {f : SizedFrame} (hempty : f.Empty) : f.copied = 0 := by
  have hzero : f.mOrigWidth = 0 ∨ f.mOrigHeight = 0 :=
    hempty.imp Nat.lt_one_iff.mp Nat.lt_one_iff.mp
  rcases hzero with hzero | hzero <;> simp [SizedFrame.copied, hzero]

/-- When a frame of a packed format is scaled. -/
theorem scales_packed_iff {pixel : Buffer → RGBOrYUV → ImageResize → ℕ → ℕ → ℕ → ℕ}
    (hpixel : BlendsLow pixel) {f : SizedFrame}
    (hscaled : scaled f = packedResize pixel {} {} f.resize)
    (hcall : ∀ src dst, cameraFrameResize f src dst = cameraFrameResizePacked f src dst)
    (himage : ∀ k, InImage f k ↔ k < 2 * (f.mEncodeHeight * f.mEncodeWidth))
    (hdest : destSize f = f.mEncodeWidth * f.mEncodeHeight * 16 / 2 ^ 3) :
    Scales f ↔
      if f.Empty then f.mEncodeWidth = 0 ∨ f.mEncodeHeight = 0
      else f.mEncodeWidth ≠ 1 ∧ f.mEncodeHeight ≠ 1 ∧
        (f.Whole → f.copied = 0 ∧ (f.mEncodeWidth = 0 ∨ f.mEncodeHeight = 0)) := by
  have hS : InImage f = fun k => k < 2 * (f.mEncodeHeight * f.mEncodeWidth) :=
    funext fun k => propext (himage k)
  have hwhole : f.Whole → ∀ src dst, written (cameraFrameResize f src dst) =
      some (copyCells dst 0 src 0 f.copied) := fun h src dst => by
    rw [hcall, cameraFrameResizePacked, if_pos h]
    rfl
  have hpart : ¬ f.Whole → ∀ src dst, written (cameraFrameResize f src dst) = scaled f src dst :=
    fun h src dst => by
      rw [hcall, cameraFrameResizePacked, if_neg h]
      cases scaled f src dst <;> rfl
  constructor
  · rintro ⟨hexact, -, hcopy⟩
    have hgeneral : ∀ src dst, written (cameraFrameResize f src dst) = scaled f src dst :=
      fun src dst => by
        by_cases h : f.Whole
        · exact hcopy h src dst
        · exact hpart h src dst
    have hwrites := (writesExactly_packed_iff pixel f fun _ => 0#8).mp (by
      have h := hexact fun _ => 0#8
      rwa [hS, funext (hgeneral _), hscaled] at h)
    by_cases hempty : f.Empty
    · rwa [if_pos hempty] at hwrites ⊢
    · rw [if_neg hempty] at hwrites ⊢
      refine ⟨hwrites.1, hwrites.2, fun h => ?_⟩
      have hbytes : ∀ k, k < f.copied ↔ k < 2 * (f.mEncodeHeight * f.mEncodeWidth) :=
        (writesExactly_copy_iff f (fun _ => 0#8) _).mp (by
          have hw := hexact fun _ => 0#8
          rwa [hS, funext (hwhole h _)] at hw)
      have hnone : f.mEncodeWidth = 0 ∨ f.mEncodeHeight = 0 := by
        by_contra hsides
        have hlong : 2 * (f.mEncodeHeight * f.mEncodeWidth) ≤ f.copied := by
          by_contra hlt
          exact absurd ((hbytes f.copied).mpr (by omega)) (lt_irrefl _)
        refine not_forall_copy_eq_packed hpixel h hempty (by omega) (by omega) hlong ?_
        intro src dst
        rw [← hwhole h, ← hscaled]
        exact hcopy h src dst
      refine ⟨?_, hnone⟩
      have hzero := mt (hbytes 0).mp (forall_not_lt_iff.mpr hnone 0)
      omega
  · intro h
    -- where the whole image is copied, there is nothing to copy and nothing to scale
    have hgeneral : ∀ src dst, written (cameraFrameResize f src dst) = scaled f src dst := by
      intro src dst
      by_cases hw : f.Whole
      · rw [hwhole hw, hscaled]
        by_cases hempty : f.Empty
        · rw [copied_of_empty hempty, copyCells_zero, packedResize,
            if_pos (show f.resize.inputW < 1 ∨ f.resize.inputH < 1 from hempty)]
        · rw [if_neg hempty] at h
          obtain ⟨h1, h2, h3⟩ := h
          obtain ⟨hcopied, hnone⟩ := h3 hw
          obtain ⟨wStep, hwStep⟩ := exists_stepFixed16b (c := f.mWidth) h1 f.encodeWidth_lt
          obtain ⟨hStep, hhStep⟩ := exists_stepFixed16b (c := f.mHeight) h2 f.encodeHeight_lt
          rw [hcopied, copyCells_zero,
            packedResize_eq pixel {} {} f.resize src dst hempty hwStep hhStep]
          refine congrArg some (funext fun k => (storeAll_of_notMem fun hk => ?_).symm)
          exact forall_not_lt_iff.mpr hnone k (mem_targets_packedStores.mp hk)
      · exact hpart hw src dst
    refine ⟨fun src => ?_, fun k hk => ?_, fun _ => hgeneral⟩
    · rw [hS, funext (hgeneral src), hscaled, writesExactly_packed_iff]
      by_cases hempty : f.Empty
      · rwa [if_pos hempty] at h ⊢
      · rw [if_neg hempty] at h ⊢
        exact ⟨h.1, h.2.1⟩
    · rw [himage, Nat.mul_comm f.mEncodeHeight] at hk
      rw [hdest]
      omega

/-! ### The formats with planes -/

/-- When a frame of a 4:2:0 format is scaled. The last chroma sample that is stored is behind the
image, if a side of the image is odd. -/
theorem scales_planar_iff {out in_ : RGBOrYUV} {f : SizedFrame}
    (hscaled : scaled f = YUV420Resize out in_ f.resize)
    (hcall : ∀ src dst, cameraFrameResize f src dst = cameraFrameResizePlanar f src dst)
    (himage : imagePlanes f =
      planesOf out f.mEncodeWidth f.mEncodeHeight (f.mEncodeWidth / 2) (f.mEncodeHeight / 2))
    (hinside : ∀ k, InImage f k → k < destSize f)
    (hlast : 2 ≤ f.mEncodeWidth → 2 ≤ f.mEncodeHeight →
      ¬ (f.mEncodeWidth % 2 = 0 ∧ f.mEncodeHeight % 2 = 0) →
      ∀ k, InImage f k → k < out.u + (f.mEncodeHeight - 1) / 2 * out.uStride +
        (f.mEncodeWidth - 1) / 2 * out.du) :
    Scales f ↔
      if f.Empty then f.mEncodeWidth = 0 ∨ f.mEncodeHeight = 0
      else f.mEncodeWidth ≠ 1 ∧ f.mEncodeHeight ≠ 1 ∧
        (f.mEncodeWidth = 0 ∨ f.mEncodeHeight = 0 ∨
          f.mEncodeWidth % 2 = 0 ∧ f.mEncodeHeight % 2 = 0) := by
  have hgeneral : ∀ src dst, written (cameraFrameResize f src dst) = scaled f src dst :=
    fun src dst => by
      rw [hcall, cameraFrameResizePlanar]
      cases scaled f src dst <;> rfl
  have hscales : Scales f ↔ ∀ src, WritesExactly (scaled f src) (InImage f) := by
    constructor
    · exact fun h src => funext (hgeneral src) ▸ h.exact src
    · exact fun h => ⟨fun src => (funext (hgeneral src)).symm ▸ h src, hinside,
        fun _ => hgeneral⟩
  have hnone : (∀ k, ¬ InImage f k) ↔ f.mEncodeWidth = 0 ∨ f.mEncodeHeight = 0 := by
    constructor
    · intro h
      by_contra hsides
      refine h out.y ⟨⟨out.y, out.yStride, 1, f.mEncodeHeight, f.mEncodeWidth⟩, ?_, ?_⟩
      · rw [himage]
        exact List.mem_cons_self
      · exact ⟨0, by simp only; omega, 0, by simp only; omega, by simp [Plane.cell]⟩
    · rintro hsides k ⟨p, hp, hk⟩
      rw [himage] at hp
      simp only [planesOf, List.mem_cons, List.not_mem_nil, or_false] at hp
      refine Plane.not_has_of_empty ?_ hk
      rcases hp with rfl | rfl | rfl <;> simp only <;> omega
  rw [hscales]
  simp only [hscaled, (scalesTo_planar out in_ f _).writesExactly_iff, hnone, forall_const]
  by_cases hempty : f.Empty
  · rw [if_pos hempty, if_pos hempty]
  rw [if_neg hempty, if_neg hempty]
  refine and_congr_right fun hw => and_congr_right fun hh => ?_
  constructor
  · intro hsame
    by_contra hsides
    obtain ⟨hw0, hh0, hodd⟩ : f.mEncodeWidth ≠ 0 ∧ f.mEncodeHeight ≠ 0 ∧
        ¬ (f.mEncodeWidth % 2 = 0 ∧ f.mEncodeHeight % 2 = 0) := by
      simpa only [not_or] using hsides
    refine lt_irrefl _ (hlast (by omega) (by omega) hodd _ ((hsame _).mp ?_))
    exact ⟨⟨out.u, out.uStride, out.du, (f.mEncodeHeight + 1) / 2, (f.mEncodeWidth + 1) / 2⟩,
      by simp [planesOf], _, by simp only; omega, _, by simp only; omega, rfl⟩
  · rintro hsides k
    by_cases hpixels : f.mEncodeWidth = 0 ∨ f.mEncodeHeight = 0
    · refine iff_of_false ?_ (hnone.mpr hpixels k)
      rintro ⟨p, hp, hk⟩
      simp only [planesOf, List.mem_cons, List.not_mem_nil, or_false] at hp
      refine Plane.not_has_of_empty ?_ hk
      rcases hp with rfl | rfl | rfl <;> simp only <;> omega
    · obtain ⟨hw2, hh2⟩ : f.mEncodeWidth % 2 = 0 ∧ f.mEncodeHeight % 2 = 0 := by omega
      have hcols : (f.mEncodeWidth + 1) / 2 = f.mEncodeWidth / 2 := by omega
      have hrows : (f.mEncodeHeight + 1) / 2 = f.mEncodeHeight / 2 := by omega
      rw [hcols, hrows, InImage, himage]

/-- A chroma sample of the image comes before the last one that is stored, if a side is odd. -/
lemma chroma_lt_last {s d w h r c : ℕ} (hd : 0 < d) (hfits : ∀ c < w / 2, c * d < s)
    (hodd : ¬ (w % 2 = 0 ∧ h % 2 = 0)) (hr : r < h / 2) (hc : c < w / 2) :
    r * s + c * d < (h - 1) / 2 * s + (w - 1) / 2 * d := by
  by_cases hrow : r < (h - 1) / 2
  · have hnext := Nat.mul_le_mul_right s (show r + 1 ≤ (h - 1) / 2 from hrow)
    rw [Nat.add_one_mul r] at hnext
    have := hfits c hc
    omega
  · -- the last row, and so an odd width
    have hr' : r = (h - 1) / 2 := by omega
    have hcol := Nat.mul_lt_mul_of_pos_right (show c < (w - 1) / 2 by omega) hd
    rw [hr']
    omega

/-- Rows that start at aligned distances do not overlap. -/
lemma fits_aligned (base w h : ℕ) : Plane.Fits ⟨base, ALIGN16 w, 1, h, w⟩ :=
  ⟨Nat.one_pos, fun c hc => by
    have := le_ALIGN16 w
    simp only at hc ⊢
    omega⟩

/-- The rows of the luma plane do not overlap. -/
lemma fits_luma (w h : ℕ) : Plane.Fits ⟨0, ALIGN16 w, 1, h, w⟩ := fits_aligned 0 w h

/-- The rows of a planar chroma plane do not overlap. -/
lemma fits_planar (base w h : ℕ) : Plane.Fits ⟨base, ALIGN16 (w / 2), 1, h / 2, w / 2⟩ :=
  fits_aligned base (w / 2) (h / 2)

/-- The rows of a semi-planar chroma plane do not overlap. -/
lemma fits_semiPlanar (base w h : ℕ) : Plane.Fits ⟨base, ALIGN16 w, 2, h / 2, w / 2⟩ :=
  ⟨Nat.two_pos, fun c hc => by
    have := le_ALIGN16 w
    simp only at hc ⊢
    omega⟩

/-- The image of a planar frame lies inside of the destination. -/
lemma lt_destSize_yu12 {f : SizedFrame} (hfmt : f.mFormat = .CAMERA_FRAME_FORMAT_YUV420P) {k : ℕ}
    (hk : InImage f k) : k < destSize f := by
  have himage : imagePlanes f = yv12Planes f.mEncodeWidth f.mEncodeHeight := by
    rw [imagePlanes, hfmt]
  have hcomm := Nat.mul_comm (ALIGN16 (f.mEncodeWidth / 2)) (f.mEncodeHeight / 2)
  have hhalf := Nat.mul_le_mul_left (ALIGN16 (f.mEncodeWidth / 2))
    (show f.mEncodeHeight / 2 * 2 ≤ f.mEncodeHeight by omega)
  rw [← Nat.mul_assoc] at hhalf
  have hcommY := Nat.mul_comm f.mEncodeHeight (ALIGN16 f.mEncodeWidth)
  obtain ⟨p, hp, hk⟩ := hk
  rw [himage] at hp
  simp only [yv12Planes, List.mem_cons, List.not_mem_nil, or_false] at hp
  rw [destSize, hfmt]
  rcases hp with rfl | rfl | rfl
  · have := Plane.lt_of_has (fits_luma _ _) hk
    simp only at this ⊢
    omega
  · have := Plane.lt_of_has (fits_planar _ _ _) hk
    simp only at this ⊢
    omega
  · have := Plane.lt_of_has (fits_planar _ _ _) hk
    simp only at this ⊢
    omega

/-- The image of a semi-planar frame lies inside of the destination. -/
lemma lt_destSize_nv12 {f : SizedFrame} (hfmt : f.mFormat = .CAMERA_FRAME_FORMAT_YUV420SP) {k : ℕ}
    (hk : InImage f k) : k < destSize f := by
  have himage : imagePlanes f = nv21Planes f.mEncodeWidth f.mEncodeHeight := by
    rw [imagePlanes, hfmt]
  have hcommY := Nat.mul_comm f.mEncodeHeight (ALIGN16 f.mEncodeWidth)
  -- a pair of chroma samples lies in a row as long as the luma's
  have hpair : ∀ r c, r < f.mEncodeHeight / 2 → c < f.mEncodeWidth / 2 →
      r * ALIGN16 f.mEncodeWidth + c * 2 + 1 <
        ALIGN16 f.mEncodeWidth * (f.mEncodeHeight / 2) := by
    intro r c hr hc
    have hle := le_ALIGN16 f.mEncodeWidth
    have hnext := Nat.mul_le_mul_left (ALIGN16 f.mEncodeWidth)
      (show r + 1 ≤ f.mEncodeHeight / 2 from hr)
    rw [Nat.mul_add_one, Nat.mul_comm (ALIGN16 f.mEncodeWidth) r] at hnext
    omega
  obtain ⟨p, hp, hk⟩ := hk
  rw [himage] at hp
  simp only [nv21Planes, List.mem_cons, List.not_mem_nil, or_false] at hp
  rw [destSize, hfmt]
  rcases hp with rfl | rfl | rfl
  · have := Plane.lt_of_has (fits_luma _ _) hk
    simp only at this ⊢
    omega
  · obtain ⟨r, hr, c, hc, rfl⟩ := hk
    have := hpair r c hr hc
    simp only [Plane.cell]
    omega
  · obtain ⟨r, hr, c, hc, rfl⟩ := hk
    have := hpair r c hr hc
    simp only [Plane.cell]
    omega

/-- When a planar frame is scaled. -/
lemma scales_yu12_iff {f : SizedFrame} (hfmt : f.mFormat = .CAMERA_FRAME_FORMAT_YUV420P) :
    Scales f ↔
      if f.Empty then f.mEncodeWidth = 0 ∨ f.mEncodeHeight = 0
      else f.mEncodeWidth ≠ 1 ∧ f.mEncodeHeight ≠ 1 ∧
        (f.mEncodeWidth = 0 ∨ f.mEncodeHeight = 0 ∨
          f.mEncodeWidth % 2 = 0 ∧ f.mEncodeHeight % 2 = 0) := by
  have himage : imagePlanes f = yv12Planes f.mEncodeWidth f.mEncodeHeight := by
    rw [imagePlanes, hfmt]
  have hcomm := Nat.mul_comm (ALIGN16 (f.mEncodeWidth / 2)) (f.mEncodeHeight / 2)
  refine @scales_planar_iff ((yv12Out f.mEncodeWidth f.mEncodeHeight).planar
    (ALIGN16 f.mEncodeWidth) (ALIGN16 (f.mEncodeWidth / 2))) _ f
    (show scaled f = YX12ResizeOA _ (yu12In f.mOrigWidth f.mOrigHeight) f.resize by
      rw [scaled, hfmt]) ?_ himage ?_ ?_
  · intro src dst
    rw [cameraFrameResize, hfmt]
  · exact fun k hk => lt_destSize_yu12 hfmt hk
  · rintro hw hh hodd k ⟨p, hp, hk⟩
    have hcommY := Nat.mul_comm f.mEncodeHeight (ALIGN16 f.mEncodeWidth)
    rw [himage] at hp
    simp only [yv12Planes, List.mem_cons, List.not_mem_nil, or_false] at hp
    simp only [RGBOrYUV.planar, yv12Out, Nat.mul_one]
    rcases hp with rfl | rfl | rfl
    · have := Plane.lt_of_has (fits_luma _ _) hk
      simp only at this
      omega
    · have := Plane.lt_of_has (fits_planar _ _ _) hk
      simp only at this
      omega
    · obtain ⟨r, hr, c, hc, rfl⟩ := hk
      have := chroma_lt_last Nat.one_pos (fits_planar 0 f.mEncodeWidth 0).row hodd hr hc
      simp only [Plane.cell, Nat.mul_one] at this ⊢
      omega

/-- When a semi-planar frame is scaled. -/
lemma scales_nv12_iff {f : SizedFrame} (hfmt : f.mFormat = .CAMERA_FRAME_FORMAT_YUV420SP) :
    Scales f ↔
      if f.Empty then f.mEncodeWidth = 0 ∨ f.mEncodeHeight = 0
      else f.mEncodeWidth ≠ 1 ∧ f.mEncodeHeight ≠ 1 ∧
        (f.mEncodeWidth = 0 ∨ f.mEncodeHeight = 0 ∨
          f.mEncodeWidth % 2 = 0 ∧ f.mEncodeHeight % 2 = 0) := by
  have himage : imagePlanes f = nv21Planes f.mEncodeWidth f.mEncodeHeight := by
    rw [imagePlanes, hfmt]
  have hcommY := Nat.mul_comm f.mEncodeHeight (ALIGN16 f.mEncodeWidth)
  refine @scales_planar_iff ((nv21Out f.mEncodeWidth f.mEncodeHeight).semiPlanar
    (ALIGN16 f.mEncodeWidth)) _ f
    (show scaled f = NVXXResizeOA _ (nv12In f.mOrigWidth f.mOrigHeight) f.resize by
      rw [scaled, hfmt]) ?_ himage ?_ ?_
  · intro src dst
    rw [cameraFrameResize, hfmt]
  · exact fun k hk => lt_destSize_nv12 hfmt hk
  · rintro hw hh hodd k ⟨p, hp, hk⟩
    rw [himage] at hp
    simp only [nv21Planes, List.mem_cons, List.not_mem_nil, or_false] at hp
    simp only [RGBOrYUV.semiPlanar, nv21Out]
    rcases hp with rfl | rfl | rfl
    · have := Plane.lt_of_has (fits_luma _ _) hk
      simp only at this
      omega
    · obtain ⟨r, hr, c, hc, rfl⟩ := hk
      have := chroma_lt_last Nat.two_pos (fits_semiPlanar 0 f.mEncodeWidth 0).row hodd hr hc
      simp only [Plane.cell] at this ⊢
      omega
    · obtain ⟨r, hr, c, hc, rfl⟩ := hk
      have := chroma_lt_last Nat.two_pos (fits_semiPlanar 0 f.mEncodeWidth 0).row hodd hr hc
      simp only [Plane.cell] at this ⊢
      omega

/-! ### All formats -/

/-- The image of a packed format has no gaps. -/
lemma inImage_packed_iff {f : SizedFrame}
    (himage : imagePlanes f =
      [⟨0, 2 * f.mEncodeWidth, 1, f.mEncodeHeight, 2 * f.mEncodeWidth⟩]) (k : ℕ) :
    InImage f k ↔ k < 2 * (f.mEncodeHeight * f.mEncodeWidth) := by
  have hcols := Nat.mul_left_comm f.mEncodeHeight 2 f.mEncodeWidth
  rw [InImage, himage]
  simp only [List.mem_singleton, exists_eq_left]
  rw [Plane.has_row rfl rfl]
  simp only
  omega

/-- **A frame is scaled to exactly the requested image if and only if it is scalable.**

**Proof sketch.** A scaler stores to the bytes of its output image, once the loops' pointers are
known (`scalesTo_packed`, `scalesTo_planar`). A whole image of a packed format is copied: the copy
has the size of the input, and never the bytes of a scaled image (`not_forall_copy_eq_packed`). The
last chroma sample of an odd side is stored behind the image (`chroma_lt_last`). -/
theorem scales_iff (f : SizedFrame) : Scales f ↔ Scalable f := by
  cases hfmt : f.mFormat with
  | CAMERA_FRAME_FORMAT_YUV420SP =>
    rw [scales_nv12_iff hfmt]
    simp [Scalable, hfmt]
  | CAMERA_FRAME_FORMAT_YUV420P =>
    rw [scales_yu12_iff hfmt]
    simp [Scalable, hfmt]
  | CAMERA_FRAME_FORMAT_RGB565 =>
    rw [scales_packed_iff blendsLow_rgb565 (by rw [scaled, hfmt]; rfl)
      (fun src dst => by rw [cameraFrameResize, hfmt])
      (inImage_packed_iff (by rw [imagePlanes, hfmt])) (by rw [destSize, hfmt])]
    simp [Scalable, hfmt]
  | CAMERA_FRAME_FORMAT_YUV422I =>
    rw [scales_packed_iff blendsLow_yuyv (by rw [scaled, hfmt]; rfl)
      (fun src dst => by rw [cameraFrameResize, hfmt])
      (inImage_packed_iff (by rw [imagePlanes, hfmt])) (by rw [destSize, hfmt])]
    simp [Scalable, hfmt]
  | CAMERA_FRAME_FORMAT_JPEG =>
    refine iff_of_false (fun h => ?_) fun h => h.1 hfmt
    obtain ⟨out, hout, -⟩ := h.exact (fun _ => 0#8) fun _ => 0#8
    simp only [cameraFrameResize, hfmt, written] at hout
    cases hout
  | CAMERA_FRAME_FORMAT_PNG =>
    refine iff_of_false (fun h => ?_) fun h => h.2.1 hfmt
    obtain ⟨out, hout, -⟩ := h.exact (fun _ => 0#8) fun _ => 0#8
    simp only [cameraFrameResize, hfmt, written] at hout
    cases hout

/-- A whole image of 4 by 4 pixels, to be scaled to 2 by 2. -/
def wholeFrame : SizedFrame where
  mFormat := .CAMERA_FRAME_FORMAT_RGB565
  mOrigWidth := 4
  mOrigHeight := 4
  mXOff := 0
  mYOff := 0
  mWidth := 4
  mHeight := 4
  mEncodeWidth := 2
  mEncodeHeight := 2
  crop_x := by decide
  crop_y := by decide
  origWidth_lt := by decide
  origHeight_lt := by decide
  encodeWidth_lt := by decide
  encodeHeight_lt := by decide

/-- The copy of the whole image reaches behind the destination. -/
theorem not_scales_wholeFrame :
    ¬ Scales wholeFrame ∧ destSize wholeFrame = 8 ∧
      ∀ src dst, cameraFrameResize wholeFrame src dst = some (true, copyCells dst 0 src 0 32) := by
  refine ⟨fun h => ?_, by decide, fun src dst => rfl⟩
  obtain ⟨out, hout, hkept, -⟩ := h.exact (fun _ => 1#8) fun _ => 0#8
  have hbehind : ¬ InImage wholeFrame 8 := fun hk => absurd (h.inside 8 hk) (by decide)
  have hcopy : written (cameraFrameResize wholeFrame (fun _ => 1#8) fun _ => 0#8) =
      some (copyCells (fun _ => 0#8) 0 (fun _ => 1#8) 0 32) := rfl
  rw [Option.some.inj (hout.symm.trans hcopy)] at hkept
  exact absurd (hkept 8 hbehind) (by decide)

end CameraHal
