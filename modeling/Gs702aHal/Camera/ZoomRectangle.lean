import Gs702aHal.Camera.Zoom

set_option relaxedAutoImplicit false
set_option autoImplicit false

/-!
# The rectangle of the digital zoom

`setPortZoom` divides the size of the crop by a factor of `ZOOM_STEPS`, rounds it down to a
multiple of 16, keeps it above the smallest crop, and puts it in the middle of the frame, at a
multiple of 16.

## Main definitions

* `CameraHal.ZoomPortParameters.IsFrame` — the sizes of a port with a crop inside its frame.
* `CameraHal.ZoomPortParameters.Inside` — the zoomed rectangle lies inside the frame, at multiples
  of 16.

## Main results

* `CameraHal.OMXZoom.toNat_zoomedSize` — the zoomed size, without an overflow.
* `CameraHal.OMXZoom.zoomedSize_mono` — a larger factor gives a smaller size.
* `CameraHal.setPortZoom_rectangle` — the rectangle for every frame and every index.
-/

namespace CameraHal

open Status AdapterState

/-! ### Sizes -/

/-- The four low bits of fifteen. -/
lemma getElem_fifteen : ∀ i : Fin 32, (15#32)[i.val] = decide (i.val < 4) := by decide

/-- Clearing the four low bits is shifting them out. -/
lemma and_not_fifteen (x : BitVec 32) : x &&& ~~~15#32 = (x >>> 4) <<< 4 := by
  ext i hi
  have hfifteen : (15#32)[i] = decide (i < 4) := getElem_fifteen ⟨i, hi⟩
  simp only [BitVec.getElem_and, BitVec.getElem_not, hfifteen, BitVec.getElem_shiftLeft]
  by_cases hlow : i < 4
  · simp [hlow]
  · have hsum : 4 + (i - 4) = i := by omega
    simp [hlow, hsum, BitVec.getLsbD_eq_getElem hi]

/-- `SIZE_ALIGN_DOWN_16` rounds down to a multiple of 16. -/
lemma toNat_alignDown (x : BitVec 32) : (SIZE_ALIGN_DOWN_16 x).toNat = x.toNat / 16 * 16 := by
  have hlt := x.isLt
  rw [SIZE_ALIGN_DOWN_16, and_not_fifteen, BitVec.toNat_shiftLeft, BitVec.toNat_ushiftRight,
    Nat.shiftRight_eq_div_pow, Nat.shiftLeft_eq]
  omega

/-- A size below 65536 is shifted without an overflow. -/
lemma toNat_shiftLeft_crop {crop : BitVec 32} (hcrop : crop.toNat < 65536) :
    (crop <<< 16).toNat = crop.toNat * 65536 := by
  rw [BitVec.toNat_shiftLeft, Nat.shiftLeft_eq]
  omega

namespace OMXZoom

/-- A zoomed size is the quotient, rounded down to a multiple of 16, or the smallest crop. -/
lemma toNat_zoomedSize {crop step : BitVec 32} (hcrop : crop.toNat < 65536) (min : BitVec 32) :
    (zoomedSize crop step min).toNat =
      max min.toNat (crop.toNat * 65536 / step.toNat / 16 * 16) := by
  have hsize : (SIZE_ALIGN_DOWN_16 ((crop <<< 16) / step)).toNat =
      crop.toNat * 65536 / step.toNat / 16 * 16 := by
    rw [toNat_alignDown, BitVec.toNat_udiv, toNat_shiftLeft_crop hcrop]
  unfold zoomedSize
  dsimp only
  split
  · rename_i hlt
    rw [BitVec.lt_def, hsize] at hlt
    omega
  · rename_i hge
    rw [BitVec.lt_def, hsize] at hge
    omega

/-- **A larger factor gives a size that is not larger.** -/
lemma zoomedSize_mono {crop step step' min : BitVec 32} (hcrop : crop.toNat < 65536)
    (hpos : 0 < step.toNat) (hstep : step.toNat ≤ step'.toNat) :
    (zoomedSize crop step' min).toNat ≤ (zoomedSize crop step min).toNat := by
  have hquot : crop.toNat * 65536 / step'.toNat ≤ crop.toNat * 65536 / step.toNat :=
    Nat.div_le_div_left hstep hpos
  rw [toNat_zoomedSize hcrop, toNat_zoomedSize hcrop]
  omega

/-- A factor of at least one gives a size that is not larger than the crop. -/
lemma zoomedSize_le {crop step min : BitVec 32} (hcrop : crop.toNat < 65536)
    (hmin : min.toNat ≤ crop.toNat) (hstep : 65536 ≤ step.toNat) :
    (zoomedSize crop step min).toNat ≤ crop.toNat := by
  have hquot : crop.toNat * 65536 / step.toNat ≤ crop.toNat * 65536 / 65536 :=
    Nat.div_le_div_left hstep (by decide)
  rw [Nat.mul_div_cancel _ (by decide)] at hquot
  rw [toNat_zoomedSize hcrop]
  omega

/-! ### The table -/

/-- The factors do not decrease, and are at least one. -/
lemma steps_sorted : ∀ i j : Fin 41, i ≤ j →
    65536 ≤ (ZOOM_STEPS.getD i.val 0).toNat ∧
      (ZOOM_STEPS.getD i.val 0).toNat ≤ (ZOOM_STEPS.getD j.val 0).toNat := by decide

/-- What the table has at indices in its range. -/
lemma zoomStep_le (s : OMXZoom) {index index' : ℤ} (h : InRange index) (h' : InRange index')
    (hle : index ≤ index') :
    65536 ≤ (s.zoomStep index).toNat ∧
      (s.zoomStep index).toNat ≤ (s.zoomStep index').toNat := by
  have hstages : ZOOM_STAGES = 41 := rfl
  have hlt : index.toNat < 41 := by
    have hhigh := h.2
    rw [hstages] at hhigh
    omega
  have hlt' : index'.toNat < 41 := by
    have hhigh := h'.2
    rw [hstages] at hhigh
    omega
  rw [zoomStep, if_pos h, zoomStep, if_pos h']
  exact steps_sorted ⟨index.toNat, hlt⟩ ⟨index'.toNat, hlt'⟩ (Int.toNat_le_toNat hle)

end OMXZoom

/-! ### The rectangle -/

/-- A port with a crop that is not smaller than the smallest, inside a frame of less than 65536
columns and rows. -/
structure ZoomPortParameters.IsFrame (cap : ZoomPortParameters) : Prop where
  min_cropWidth : 128 ≤ cap.mCropWidth.toNat
  cropWidth_le : cap.mCropWidth.toNat ≤ cap.mWidth.toNat
  width_lt : cap.mWidth.toNat < 65536
  min_cropHeight : 96 ≤ cap.mCropHeight.toNat
  cropHeight_le : cap.mCropHeight.toNat ≤ cap.mHeight.toNat
  height_lt : cap.mHeight.toNat < 65536

/-- The zoomed rectangle lies inside the frame, and its offsets are multiples of 16. -/
structure ZoomPortParameters.Inside (cap : ZoomPortParameters) : Prop where
  columns : cap.mZoomXOff.toNat + cap.mZoomWidth.toNat ≤ cap.mWidth.toNat
  rows : cap.mZoomYOff.toNat + cap.mZoomHeight.toNat ≤ cap.mHeight.toNat
  xOff : 16 ∣ cap.mZoomXOff.toNat
  yOff : 16 ∣ cap.mZoomYOff.toNat

/-- An offset of a size in the middle of a larger one: with the size it is not larger, and it is a
multiple of 16. -/
lemma offset_inside {whole part : BitVec 32} (h : part.toNat ≤ whole.toNat) :
    (SIZE_ALIGN_DOWN_16 ((whole - part) >>> 1)).toNat + part.toNat ≤ whole.toNat ∧
      16 ∣ (SIZE_ALIGN_DOWN_16 ((whole - part) >>> 1)).toNat := by
  have hsub : (whole - part).toNat = whole.toNat - part.toNat :=
    BitVec.toNat_sub_of_le (BitVec.le_def.mpr h)
  rw [toNat_alignDown, BitVec.toNat_ushiftRight, hsub, Nat.shiftRight_eq_div_pow]
  omega

namespace OMXZoom

/-- The zoomed size for an index: the crop itself for index zero. -/
def sizeAt (s : OMXZoom) (crop min : BitVec 32) (index : ℤ) : BitVec 32 :=
  if 0 < index then zoomedSize crop (s.zoomStep index) min else crop

/-- What `setPortZoom` computes: sizes, and offsets that put them in the middle. -/
lemma setPortZoom_port (s : OMXZoom) {port : ZoomPort} (hport : port ≠ .other) (index : ℤ) :
    (s.setPortZoom port index).2.mCameraPortParams port =
      (s.mCameraPortParams port).zoomTo
        (s.sizeAt (s.mCameraPortParams port).mCropWidth CROP_WIDTH_MIN index)
        (s.sizeAt (s.mCameraPortParams port).mCropHeight CROP_HEIGHT_MIN index) := by
  unfold setPortZoom sizeAt
  rw [if_neg hport]
  split <;> simp [setPort]

/-- A zoomed size is not larger than the crop. -/
lemma sizeAt_le (s : OMXZoom) {crop min : BitVec 32} (hcrop : crop.toNat < 65536)
    (hmin : min.toNat ≤ crop.toNat) {index : ℤ} (h : InRange index) :
    (s.sizeAt crop min index).toNat ≤ crop.toNat := by
  unfold sizeAt
  split
  · exact zoomedSize_le hcrop hmin (s.zoomStep_le h h le_rfl).1
  · exact le_rfl

/-- **A larger index gives a size that is not larger.** -/
lemma sizeAt_mono (s : OMXZoom) {crop min : BitVec 32} (hcrop : crop.toNat < 65536)
    (hmin : min.toNat ≤ crop.toNat) {index index' : ℤ} (h : InRange index) (h' : InRange index')
    (hle : index ≤ index') :
    (s.sizeAt crop min index').toNat ≤ (s.sizeAt crop min index).toNat := by
  by_cases hpos : 0 < index
  · obtain ⟨hone, hstep⟩ := s.zoomStep_le h h' hle
    rw [sizeAt, if_pos (hpos.trans_le hle), sizeAt, if_pos hpos]
    exact zoomedSize_mono hcrop (by omega) hstep
  · have hcrop' := s.sizeAt_le hcrop hmin h'
    rw [sizeAt, sizeAt, if_neg hpos] at *
    exact hcrop'

end OMXZoom

/-- **The zoomed rectangle lies inside the frame.** For every port with a crop of at least 128
columns and 96 rows in a frame of less than 65536 columns and rows, and every index of the table:
`setPortZoom` succeeds; offset and size do not exceed the frame, and the offsets are multiples of
16; for every further index the sizes are not larger; and neither the shifted crop nor a difference
overflows 32 bits.

**Proof sketch.** A quotient by a larger factor is not larger, rounding down keeps the order, and a
size is not above the crop, so that half of what it leaves of the frame, rounded down, is an offset
inside. -/
theorem setPortZoom_rectangle (s : OMXZoom) {port : ZoomPort} (hport : port ≠ .other) {index : ℤ}
    (hindex : OMXZoom.InRange index) (hframe : (s.mCameraPortParams port).IsFrame) :
    let cap := s.mCameraPortParams port
    let zoomed (index : ℤ) := (s.setPortZoom port index).2.mCameraPortParams port
    (s.setPortZoom port index).1 = NO_ERROR ∧ (zoomed index).Inside ∧
      (zoomed index).mWidth = cap.mWidth ∧ (zoomed index).mHeight = cap.mHeight ∧
      (∀ index', OMXZoom.InRange index' → index ≤ index' →
        (zoomed index').mZoomWidth.toNat ≤ (zoomed index).mZoomWidth.toNat ∧
          (zoomed index').mZoomHeight.toNat ≤ (zoomed index).mZoomHeight.toNat) ∧
      (cap.mCropWidth <<< 16).toNat = cap.mCropWidth.toNat * 65536 ∧
      (cap.mCropHeight <<< 16).toNat = cap.mCropHeight.toNat * 65536 ∧
      (zoomed index).mZoomWidth.toNat ≤ cap.mWidth.toNat ∧
      (zoomed index).mZoomHeight.toNat ≤ cap.mHeight.toNat := by
  intro cap zoomed
  have hzoomed : ∀ index, zoomed index =
      cap.zoomTo (s.sizeAt cap.mCropWidth OMXZoom.CROP_WIDTH_MIN index)
        (s.sizeAt cap.mCropHeight OMXZoom.CROP_HEIGHT_MIN index) := s.setPortZoom_port hport
  have hcropWidth : cap.mCropWidth.toNat < 65536 := hframe.cropWidth_le.trans_lt hframe.width_lt
  have hcropHeight : cap.mCropHeight.toNat < 65536 := hframe.cropHeight_le.trans_lt hframe.height_lt
  have hminWidth : OMXZoom.CROP_WIDTH_MIN.toNat ≤ cap.mCropWidth.toNat := hframe.min_cropWidth
  have hminHeight : OMXZoom.CROP_HEIGHT_MIN.toNat ≤ cap.mCropHeight.toNat := hframe.min_cropHeight
  have hwidth : (s.sizeAt cap.mCropWidth OMXZoom.CROP_WIDTH_MIN index).toNat ≤ cap.mWidth.toNat :=
    (s.sizeAt_le hcropWidth hminWidth hindex).trans hframe.cropWidth_le
  have hheight : (s.sizeAt cap.mCropHeight OMXZoom.CROP_HEIGHT_MIN index).toNat ≤
      cap.mHeight.toNat :=
    (s.sizeAt_le hcropHeight hminHeight hindex).trans hframe.cropHeight_le
  have hx := offset_inside hwidth
  have hy := offset_inside hheight
  refine ⟨?_, ?_, ?_, ?_, fun index' hindex' hle => ?_, toNat_shiftLeft_crop hcropWidth,
    toNat_shiftLeft_crop hcropHeight, ?_, ?_⟩
  · unfold OMXZoom.setPortZoom
    rw [if_neg hport, if_pos hindex]
    split <;> rfl
  · rw [hzoomed]
    exact ⟨hx.1, hy.1, hx.2, hy.2⟩
  · rw [hzoomed]
    rfl
  · rw [hzoomed]
    rfl
  · rw [hzoomed, hzoomed]
    exact ⟨s.sizeAt_mono hcropWidth hminWidth hindex hindex' hle,
      s.sizeAt_mono hcropHeight hminHeight hindex hindex' hle⟩
  · rw [hzoomed]
    exact hwidth
  · rw [hzoomed]
    exact hheight

/-- The middle of the table, on a preview of 640 columns and 480 rows whose crop is the frame: the
zoom by two has half of them, in the middle. -/
theorem setPortZoom_rectangle_middle :
    let s := OMXZoom.initialized PREVIEW_STATE PREVIEW_STATE .OMX_StateExecuting
      (fun _ => ⟨640, 480, 640, 480, 0, 0, 640, 480⟩) fun _ => 1
    let zoomed := (s.setPortZoom .preview 20).2.mCameraPortParams .preview
    zoomed.Inside ∧ zoomed.mZoomWidth = 320 ∧ zoomed.mZoomXOff = 160 ∧
      zoomed.mZoomHeight = 240 ∧ zoomed.mZoomYOff = 112 :=
  ⟨(setPortZoom_rectangle (OMXZoom.initialized PREVIEW_STATE PREVIEW_STATE .OMX_StateExecuting
      (fun _ => ⟨640, 480, 640, 480, 0, 0, 640, 480⟩) fun _ => 1)
      (by decide : ZoomPort.preview ≠ .other) (by decide : OMXZoom.InRange 20)
      ⟨by decide, by decide, by decide, by decide, by decide, by decide⟩).2.1,
    by decide, by decide, by decide, by decide⟩

end CameraHal
