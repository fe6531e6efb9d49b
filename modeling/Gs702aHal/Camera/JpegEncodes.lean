import Gs702aHal.Camera.JpegChroma

set_option relaxedAutoImplicit false
set_option autoImplicit false

/-!
# Which images the JPEG encoder encodes

## Main definitions

* `CameraHal.EncodableCall` — the condition on the parameters of a call.

## Main results

* `CameraHal.encodes_iff` — an accepted call encodes its picture exactly if it is encodable.
* `CameraHal.not_encodes_planarCall` — a planar image of 640 by 480 pixels is not encoded: from the
  third row on it has the chroma of the first two.
-/

namespace CameraHal

variable {call : JpegCall}

/-- The condition on a crop rectangle of the size of the output. For the 4:2:0 formats it is the
whole image, which starts with the source; a semi-planar image has even sides and two columns at
most behind the last block of 16, a planar image an even width and two rows. Of an image of 16-bit
pixels only rows are cropped, and `start_offset` skips those above. -/
def EncodableUnscaled (p : JpegParams) : Prop :=
  match p.format with
  | .CAMERA_FRAME_FORMAT_YUV420SP =>
    p.orig_width = p.out_width ∧ p.orig_height = p.out_height ∧ p.start_offset = 0 ∧
      p.out_width % 2 = 0 ∧ p.out_height % 2 = 0 ∧ p.out_width % 16 ≤ 2
  | .CAMERA_FRAME_FORMAT_YUV420P =>
    p.orig_width = p.out_width ∧ p.orig_height = p.out_height ∧ p.start_offset = 0 ∧
      p.out_width % 2 = 0 ∧ p.out_height = 2
  | .CAMERA_FRAME_FORMAT_RGB565 =>
    p.orig_width = p.out_width ∧ p.start_offset = 2 * (p.top_crop * p.orig_width)
  | _ => False

/-- The condition on an image that is scaled, if its buffer can be allocated: the rows start with
the buffer, which has room for all that is read; for the 4:2:0 formats the source has all that the
scaler reads, and the chroma that is mixed up is the same. -/
def EncodableScaled (p : JpegParams) : Prop :=
  p.start_offset = 0 ∧
    match p.format with
    | .CAMERA_FRAME_FORMAT_YUV420SP =>
      (p.vAt (p.out_height - 1) (p.out_width - 1) < p.dst_size ∧ p.lastSource < p.imageSize) ∧
        p.Nv12Columns
    | .CAMERA_FRAME_FORMAT_YUV420P =>
      (p.vAt (p.out_height - 1) (p.out_width - 1) < p.dst_size ∧ p.lastSource < p.imageSize) ∧
        p.Yu12Samples
    | .CAMERA_FRAME_FORMAT_RGB565 => 2 * (p.out_width * p.out_height) ≤ p.dst_size
    | _ => False

/-- The condition on a call: the buffers that it needs can be allocated, and the format, the sizes
and the offsets are as they should be. -/
def EncodableCall (call : JpegCall) : Prop :=
  call.row_tmp = true ∧
    if call.Scaled then call.resize_src = true ∧ EncodableScaled call.toJpegParams
    else EncodableUnscaled call.toJpegParams

/-- **An accepted call encodes its picture if and only if it is encodable.**

**Proof sketch.** Without the buffer of a row none is passed (`Encodes.rowPassed`), except for the
pairs of pixels, which are never encoded (`not_encodes_yuv422i`). The other formats are taken one by
one: as they are, the places that are read have to be those of the picture; scaled, each place that
is read has to hold what the scaler makes for the pixel. Without the buffer of the scaled image
that is impossible (`not_encodes_unallocated`). -/
theorem encodes_iff (hacc : Accepted call) : Encodes call ↔ EncodableCall call := by
  by_cases hpairs : call.format = .CAMERA_FRAME_FORMAT_YUV422I
  · refine iff_of_false (not_encodes_yuv422i hacc hpairs) ?_
    rintro ⟨-, h⟩
    unfold EncodableScaled EncodableUnscaled at h
    rw [hpairs] at h
    split_ifs at h
    · exact h.2.2
    · exact h
  cases htmp : call.row_tmp with
  | false =>
    refine iff_of_false (fun h => ?_) fun h => Bool.false_ne_true (htmp.symm.trans h.1)
    rcases h.rowPassed hacc with h | h
    · exact Bool.false_ne_true (htmp.symm.trans h)
    · exact hpairs h
  | true =>
    rw [EncodableCall, htmp, eq_self, true_and]
    by_cases hscaled : call.Scaled
    · rw [if_pos hscaled]
      cases halloc : call.resize_src with
      | false =>
        exact iff_of_false (not_encodes_unallocated hacc hscaled halloc htmp) fun h =>
          Bool.false_ne_true h.1
      | true =>
        rw [eq_self, true_and, EncodableScaled]
        cases hfmt : call.format with
        | CAMERA_FRAME_FORMAT_YUV420SP => exact encodes_scaled_nv12 hacc hscaled halloc htmp hfmt
        | CAMERA_FRAME_FORMAT_YUV420P => exact encodes_scaled_yu12 hacc hscaled halloc htmp hfmt
        | CAMERA_FRAME_FORMAT_RGB565 => exact encodes_scaled_rgb565 hacc hscaled halloc htmp hfmt
        | CAMERA_FRAME_FORMAT_YUV422I => exact absurd hfmt hpairs
        | CAMERA_FRAME_FORMAT_JPEG => exact absurd hfmt hacc.2.1
        | CAMERA_FRAME_FORMAT_PNG => exact absurd hfmt hacc.2.2
    · rw [if_neg hscaled, EncodableUnscaled]
      cases hfmt : call.format with
      | CAMERA_FRAME_FORMAT_YUV420SP => exact encodes_unscaled_nv12 hacc hscaled htmp hfmt
      | CAMERA_FRAME_FORMAT_YUV420P => exact encodes_unscaled_yu12 hacc hscaled htmp hfmt
      | CAMERA_FRAME_FORMAT_RGB565 => exact encodes_unscaled_rgb565 hacc hscaled htmp hfmt
      | CAMERA_FRAME_FORMAT_YUV422I => exact absurd hfmt hpairs
      | CAMERA_FRAME_FORMAT_JPEG => exact absurd hfmt hacc.2.1
      | CAMERA_FRAME_FORMAT_PNG => exact absurd hfmt hacc.2.2

/-- A call for a whole image of 640 by 480 pixels, in an output of some size. -/
def wholeCall (format : FrameFormat) (out_width out_height : ℕ) (hw : out_width < 2 ^ 31)
    (hh : out_height < 2 ^ 31) : JpegCall where
  srcIsNull := false
  src_size := 460800
  dstIsNull := false
  dst_size := 614400
  quality := 85
  left_crop := 0
  top_crop := 0
  orig_width := 640
  orig_height := 480
  in_width := 640
  in_height := 480
  out_width := out_width
  out_height := out_height
  start_offset := 0
  format := format
  crop_x := by decide
  crop_y := by decide
  out_width_lt := hw
  out_height_lt := hh
  resize_src := true
  row_tmp := true

/-- A semi-planar image that is scaled to 320 by 240 pixels is encoded. -/
theorem encodes_semiPlanarCall :
    Encodes (wholeCall .CAMERA_FRAME_FORMAT_YUV420SP 320 240 (by decide) (by decide)) := by
  refine (encodes_iff ⟨by decide, by decide⟩).mpr ⟨rfl, ?_⟩
  rw [if_pos (by decide)]
  refine ⟨rfl, rfl, ⟨by decide, by decide⟩, Or.inl ⟨by decide, Or.inl (by decide)⟩⟩

/-- A planar image that is encoded as it is. -/
def planarCall : JpegCall :=
  wholeCall .CAMERA_FRAME_FORMAT_YUV420P 640 480 (by decide) (by decide)

/-- **A planar image is not encoded**: the third row is passed with the chroma of the first one,
and the picture has that of the second row of the chroma planes. -/
theorem not_encodes_planarCall :
    (¬ planarCall.Refused ∧ planarCall.Raw) ∧ ¬ Encodes planarCall ∧
      ∀ src, planarCall.rowPixel src 2 0 = [src 1280, src 307200, src 384000] ∧
        planarCall.picturePixel src 2 0 = [src 1280, src 307520, src 384320] := by
  have hacc : Accepted planarCall := ⟨by decide, by decide⟩
  refine ⟨hacc, fun h => ?_, fun src => ⟨rfl, rfl⟩⟩
  have hwhole := (encodes_unscaled_yu12 hacc (by decide) rfl rfl).mp h
  exact absurd hwhole.2.2.2.2 (by decide)

end CameraHal
