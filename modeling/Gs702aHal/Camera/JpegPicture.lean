import Gs702aHal.Camera.JpegRows
import Gs702aHal.Camera.ScaledSamples

set_option relaxedAutoImplicit false
set_option autoImplicit false

/-!
# The picture that the JPEG encoder should encode

The picture has the size of the output. If the crop rectangle has this size, it is the crop
rectangle, pixel by pixel; else it is the image that the scaler makes of the crop rectangle. The
chroma of a pixel is that of its pair of columns, and for the 4:2:0 formats of its pair of rows.

## Main definitions

* `CameraHal.JpegParams.picturePixel` — the three bytes of a pixel of the picture.
* `CameraHal.Encodes` — the library is given the picture, in the declared colour space, and every
  byte that is read is inside of the source image or of the buffer of the scaled image.

## Main results

* `CameraHal.encodes_source_iff`, `CameraHal.encodes_resized_iff` — what that means pixel by pixel,
  for an image that is encoded as it is and for one that is scaled before.
* `CameraHal.not_encodes_yuv422i` — an image of pairs of pixels is never encoded.
* `CameraHal.encodes_whole_iff` — when a crop rectangle of the size of the output is encoded.
-/

namespace CameraHal

open StoreLog Blocks

namespace JpegParams

/-- The size of the source image. -/
def imageSize (p : JpegParams) : ℕ :=
  p.orig_width * p.orig_height * (if p.bpp = 1 then 12 else 16) / 2 ^ 3

/-- The colours that the format has. -/
def pictureSpace (p : JpegParams) : ColorSpace :=
  match p.format with
  | .CAMERA_FRAME_FORMAT_RGB565 => .JCS_RGB
  | _ => .JCS_YCbCr

/-- A pixel of the source, `y` rows and `x` columns from its origin. -/
def sourcePixel (p : JpegParams) (src : Buffer) (y x : ℕ) : List Byte :=
  match p.format with
  | .CAMERA_FRAME_FORMAT_RGB565 => rgb888 (half src (2 * (y * p.orig_width + x)))
  | .CAMERA_FRAME_FORMAT_YUV422I =>
    let pair := 2 * (y * p.orig_width + x / 2 * 2)
    [src (2 * (y * p.orig_width + x)), src (pair + 1), src (pair + 3)]
  | _ =>
    [ src (p.planes.y + y * p.planes.yStride + x),
      src (p.planes.u + y / 2 * p.planes.uStride + x / 2 * p.planes.du),
      src (p.planes.v + y / 2 * p.planes.vStride + x / 2 * p.planes.dv) ]

/-- The luma that the scaler makes for a pixel. -/
def scaledLuma (p : JpegParams) (src : Buffer) (r c : ℕ) : ℕ :=
  blendAt src (lumaAt p.planes p.resize) (p.hPos r) (p.wPos c)

/-- The first chroma sample that it makes, at the first pixel of a pair of rows and columns. -/
def scaledU (p : JpegParams) (src : Buffer) (r c : ℕ) : ℕ :=
  blendAt src (chromaAt p.planes.u p.planes.uStride p.planes.du p.resize) (p.hPos r) (p.wPos c)

/-- The second one. -/
def scaledV (p : JpegParams) (src : Buffer) (r c : ℕ) : ℕ :=
  blendAt src (chromaAt p.planes.v p.planes.vStride p.planes.dv p.resize) (p.hPos r) (p.wPos c)

/-- The 16-bit pixel that it makes. -/
def scaledHalf (p : JpegParams) (src : Buffer) (r c : ℕ) : ℕ :=
  match p.format with
  | .CAMERA_FRAME_FORMAT_RGB565 => rgb565Pixel src {} p.resize c (p.hPos r) (p.wPos c)
  | _ => yuyvPixel src {} p.resize c (p.hPos r) (p.wPos c)

/-- A pixel of the scaled image. -/
def scaledPixel (p : JpegParams) (src : Buffer) (r c : ℕ) : List Byte :=
  match p.format with
  | .CAMERA_FRAME_FORMAT_RGB565 => rgb888 (p.scaledHalf src r c)
  | .CAMERA_FRAME_FORMAT_YUV422I =>
    [ byte (p.scaledHalf src r c), byte (p.scaledHalf src r (c / 2 * 2) / 2 ^ 8),
      byte (p.scaledHalf src r (c / 2 * 2 + 1) / 2 ^ 8) ]
  | _ =>
    [ byte (p.scaledLuma src r c), byte (p.scaledU src (r / 2 * 2) (c / 2 * 2)),
      byte (p.scaledV src (r / 2 * 2) (c / 2 * 2)) ]

/-- A pixel of the picture. -/
def picturePixel (p : JpegParams) (src : Buffer) (r c : ℕ) : List Byte :=
  if p.Scaled then p.scaledPixel src r c else p.sourcePixel src (p.top_crop + r) (p.left_crop + c)

/-- A pixel of the picture has three bytes. -/
lemma length_picturePixel (p : JpegParams) (src : Buffer) (r c : ℕ) :
    (p.picturePixel src r c).length = 3 := by
  unfold picturePixel scaledPixel sourcePixel
  split_ifs <;> cases p.format <;> rfl

/-- So has a pixel that is passed. -/
lemma length_rowPixel (p : JpegParams) (m : Buffer) (r c : ℕ) : (p.rowPixel m r c).length = 3 := by
  unfold rowPixel pixelPlaces
  cases p.format <;> rfl

end JpegParams

/-- The byte is inside of the source image, or of the buffer of the scaled image. -/
def JpegParams.Inside (p : JpegParams) : Read → Prop
  | .source k => k < p.imageSize
  | .resized k => k < p.dst_size

/-- The library is given the picture, and nothing is read elsewhere. -/
structure IsPicture (p : JpegParams) (src : Buffer) (e : Encoded) : Prop where
  space : e.in_color_space = p.pictureSpace
  scanlines : e.scanlines =
    (List.range p.out_height).map fun r => some (concat p.out_width (p.picturePixel src r))
  reads : ∀ x ∈ e.reads, p.Inside x

/-- A call encodes the picture of its parameters, whatever the image is and the buffer holds. -/
def Encodes (call : JpegCall) : Prop :=
  ∀ src fresh, ∃ e, encode call src fresh = some e ∧ IsPicture call.toJpegParams src e

/-- A call that is not refused. -/
def Accepted (call : JpegCall) : Prop := ¬ call.Refused ∧ call.Raw

/-- An accepted call passes both tests. -/
lemma Accepted.passes {call : JpegCall} (h : Accepted call) : ¬ (call.Refused ∨ ¬ call.Raw) :=
  fun hrefused => hrefused.elim h.1 fun hraw => hraw h.2

/-- An accepted call has an output of two columns and rows or more. -/
lemma Accepted.out {call : JpegCall} (h : Accepted call) :
    2 ≤ call.out_width ∧ 2 ≤ call.out_height := by
  have hrefused := h.1
  simp only [JpegParams.Refused, not_or, Nat.not_lt] at hrefused
  exact ⟨hrefused.2.1, hrefused.2.2.2.1⟩

/-- So has its crop rectangle. -/
lemma Accepted.crop {call : JpegCall} (h : Accepted call) :
    2 ≤ call.in_width ∧ 2 ≤ call.in_height := by
  have hrefused := h.1
  simp only [JpegParams.Refused, not_or, Nat.not_lt] at hrefused
  exact ⟨hrefused.1, hrefused.2.2.1⟩

/-- The declared colour space is that of the format. -/
lemma colorSpace_eq (call : JpegCall) : colorSpace call = call.pictureSpace := by
  unfold colorSpace JpegParams.pictureSpace
  cases call.format <;> rfl

/-! ### Pixel by pixel -/

/-- The rows of two images of three bytes for each pixel are the same if all pixels are. -/
lemma lines_eq_iff {w h : ℕ} {pixel pixel' : ℕ → ℕ → List Byte}
    (hlen : ∀ r c, (pixel r c).length = 3) (hlen' : ∀ r c, (pixel' r c).length = 3) :
    ((List.range h).map fun r => some (concat w (pixel r))) =
        (List.range h).map (fun r => some (concat w (pixel' r))) ↔
      ∀ r < h, ∀ c < w, pixel r c = pixel' r c := by
  rw [List.map_inj_left]
  simp only [List.mem_range, Option.some.injEq]
  refine forall₂_congr fun r _ => ?_
  exact concat_eq_iff (fun c _ => hlen r c) fun c _ => hlen' r c

/-- A call that returns encodes the picture if what it makes is the picture. -/
lemma encodes_iff_of_eq {call : JpegCall} {made : Buffer → Buffer → Encoded}
    (h : ∀ src fresh, encode call src fresh = some (made src fresh)) :
    Encodes call ↔ ∀ src fresh, IsPicture call.toJpegParams src (made src fresh) := by
  refine forall₂_congr fun src fresh => ?_
  rw [h]
  constructor
  · rintro ⟨e, he, hpicture⟩
    rwa [Option.some.inj he]
  · exact fun hpicture => ⟨_, rfl, hpicture⟩

/-- **An image that is encoded as it is**: each pixel has to be read where the picture has it. -/
theorem encodes_source_iff {call : JpegCall} (hacc : Accepted call)
    (hsource : ¬ (call.Scaled ∧ call.resize_src = true)) (hpassed : call.RowPassed) :
    Encodes call ↔
      (∀ src, ∀ r < call.out_height, ∀ c < call.out_width,
        call.rowPixel src r c = call.picturePixel src r c) ∧
      ∀ r < call.out_height, ∀ c < call.out_width, ∀ k ∈ call.pixelPlaces r c,
        k < call.imageSize := by
  have haccept := hacc.passes
  have hencode : ∀ src fresh, encode call src fresh = some ⟨colorSpace call,
      (encodeRows call src).scanlines, (encodeRows call src).reads.map .source⟩ :=
    fun src fresh => by rw [encode, if_neg haccept, if_neg hsource]
  have hrows := encodeRows_spec hacc.2 hpassed
  have hlines := fun src => @lines_eq_iff call.out_width call.out_height (call.rowPixel src)
    (call.picturePixel src) (call.length_rowPixel src) (call.length_picturePixel src)
  rw [encodes_iff_of_eq hencode]
  constructor
  · intro h
    refine ⟨fun src => ?_, fun r hr c hc k hk => ?_⟩
    · exact (hlines src).mp ((hrows src).1.symm.trans (h src src).scanlines)
    · have hread := ((hrows fun _ => 0#8).2 k).mpr ⟨r, hr, c, hc, hk⟩
      exact (h _ fun _ => 0#8).reads (.source k) (List.mem_map.mpr ⟨k, hread, rfl⟩)
  · rintro ⟨hpixels, hinside⟩ src fresh
    refine ⟨colorSpace_eq call, (hrows src).1.trans ((hlines src).mpr (hpixels src)), ?_⟩
    intro x hx
    obtain ⟨k, hk, rfl⟩ := List.mem_map.mp hx
    obtain ⟨r, hr, c, hc, hk⟩ := ((hrows src).2 k).mp hk
    exact hinside r hr c hc k hk

/-- **An image that is scaled before**: each pixel has to be stored where it is read. -/
theorem encodes_resized_iff {call : JpegCall} (hacc : Accepted call)
    (hresized : call.Scaled ∧ call.resize_src = true) (hpassed : call.RowPassed)
    {stores : Buffer → List (ℕ × Byte)}
    (hstores : ∀ src fresh, call.resizer src fresh = some (storeAll (stores src) fresh)) :
    Encodes call ↔
      (∀ src fresh, ∀ r < call.out_height, ∀ c < call.out_width,
        call.rowPixel (storeAll (stores src) fresh) r c = call.picturePixel src r c) ∧
      (∀ r < call.out_height, ∀ c < call.out_width, ∀ k ∈ call.pixelPlaces r c,
        k < call.dst_size) ∧
      ∀ k ∈ call.resizerReads, k < call.imageSize := by
  have haccept := hacc.passes
  have hencode : ∀ src fresh, encode call src fresh = some ⟨colorSpace call,
      (encodeRows call (storeAll (stores src) fresh)).scanlines,
      call.resizerReads.map .source ++
        (encodeRows call (storeAll (stores src) fresh)).reads.map .resized⟩ :=
    fun src fresh => by
      rw [encode, if_neg haccept, if_pos hresized, hstores]
      rfl
  have hrows := encodeRows_spec hacc.2 hpassed
  have hlines := fun m src => @lines_eq_iff call.out_width call.out_height (call.rowPixel m)
    (call.picturePixel src) (call.length_rowPixel m) (call.length_picturePixel src)
  rw [encodes_iff_of_eq hencode]
  constructor
  · intro h
    refine ⟨fun src fresh => ?_, fun r hr c hc k hk => ?_, fun k hk => ?_⟩
    · exact (hlines _ src).mp ((hrows _).1.symm.trans (h src fresh).scanlines)
    · exact (h (fun _ => 0#8) fun _ => 0#8).reads (.resized k) (List.mem_append_right _
        (List.mem_map.mpr ⟨k, ((hrows _).2 k).mpr ⟨r, hr, c, hc, hk⟩, rfl⟩))
    · exact (h (fun _ => 0#8) fun _ => 0#8).reads (.source k)
        (List.mem_append_left _ (List.mem_map.mpr ⟨k, hk, rfl⟩))
  · rintro ⟨hpixels, hinside, hsource⟩ src fresh
    refine ⟨colorSpace_eq call, (hrows _).1.trans ((hlines _ src).mpr (hpixels src fresh)), ?_⟩
    intro x hx
    rcases List.mem_append.mp hx with hx | hx
    · obtain ⟨k, hk, rfl⟩ := List.mem_map.mp hx
      exact hsource k hk
    · obtain ⟨k, hk, rfl⟩ := List.mem_map.mp hx
      obtain ⟨r, hr, c, hc, hk⟩ := ((hrows _).2 k).mp hk
      exact hinside r hr c hc k hk

/-! ### Without the buffer of a row -/

/-- Without its buffer no row is converted. -/
lemma convertRow_none {call : JpegCall} (htmp : call.row_tmp = false)
    (hfmt : call.format ≠ .CAMERA_FRAME_FORMAT_YUV422I) (m : Buffer) (s : ScanlineLoop) :
    (convertRow call m s).1 = none := by
  unfold convertRow
  cases hf : call.format with
  | CAMERA_FRAME_FORMAT_YUV422I => exact absurd hf hfmt
  | CAMERA_FRAME_FORMAT_YUV420SP | CAMERA_FRAME_FORMAT_YUV420P | CAMERA_FRAME_FORMAT_RGB565 =>
    simp [htmp]
  | CAMERA_FRAME_FORMAT_JPEG | CAMERA_FRAME_FORMAT_PNG => rfl

/-- All rows that are passed are `NULL` then. -/
lemma encodeRows_none {call : JpegCall} (htmp : call.row_tmp = false)
    (hfmt : call.format ≠ .CAMERA_FRAME_FORMAT_YUV422I) (m : Buffer) :
    ∀ line ∈ (encodeRows call m).scanlines, line = none := by
  refine forLoop_rule (fun _ (s : ScanlineLoop) => ∀ line ∈ s.scanlines, line = none) ?_ _ ?_
  · exact fun line hline => absurd hline List.not_mem_nil
  · intro i s _ hs line hline
    rcases List.mem_append.mp hline with hline | hline
    · exact hs line hline
    · rw [List.mem_singleton.mp hline]
      exact convertRow_none htmp hfmt m s

/-- So they are not the rows of an image. -/
lemma encodeRows_ne_lines {call : JpegCall} (hacc : Accepted call) (htmp : call.row_tmp = false)
    (hfmt : call.format ≠ .CAMERA_FRAME_FORMAT_YUV422I) (m : Buffer) (line : ℕ → List Byte) :
    (encodeRows call m).scanlines ≠ (List.range call.out_height).map fun r => some (line r) := by
  intro hlines
  have hnone := encodeRows_none htmp hfmt m
  rw [hlines] at hnone
  have hfirst := hnone _ (List.mem_map.mpr
    ⟨0, List.mem_range.mpr (Nat.lt_of_lt_of_le Nat.two_pos hacc.out.2), rfl⟩)
  cases hfirst

/-- A call that encodes the picture has passed its rows. -/
lemma Encodes.rowPassed {call : JpegCall} (hacc : Accepted call) (h : Encodes call) :
    call.RowPassed := by
  by_contra hpassed
  obtain ⟨htmp, hfmt⟩ := not_or.mp hpassed
  have htmp : call.row_tmp = false := Bool.eq_false_iff.mpr htmp
  obtain ⟨e, he, hpicture⟩ := h (fun _ => 0#8) fun _ => 0#8
  unfold encode at he
  split_ifs at he with _ hresized
  · obtain ⟨resized, -, rfl⟩ := Option.map_eq_some_iff.mp he
    exact encodeRows_ne_lines hacc htmp hfmt resized _ hpicture.scanlines
  · rw [← Option.some.inj he] at hpicture
    exact encodeRows_ne_lines hacc htmp hfmt _ _ hpicture.scanlines

/-! ### Pairs of pixels -/

/-- An image with all of the luma and no chroma. -/
def light : Buffer := fun k => if k % 2 = 0 then 255#8 else 0#8

/-- A pixel of it. -/
lemma half_light (j : ℕ) : half light (2 * j) = 255 := by
  simp [half, light]

/-- It is scaled to one of its kind. -/
lemma yuyvPixel_light (resize : ImageResize) (col hCoef wCoef : ℕ) :
    yuyvPixel light {} resize col hCoef wCoef = 255 := by
  have hat : ∀ y x, half light (packedAt {} resize y x) = 255 := fun y x => by
    rw [packedAt, Nat.zero_add, half_light]
  have hluma : blend hCoef wCoef 255 255 255 255 = 255 := by
    have h := @blendAt_const (fun _ => 255#8) (fun _ _ => 0) 255#8 hCoef wCoef
      fun _ _ _ _ => rfl
    exact h
  simp [yuyvPixel, packedPixels, hat, hluma]

/-- The scaler stores what an image of its kind has there already. -/
lemma storeAll_light (resize : ImageResize) (wStep hStep rows : ℕ) :
    storeAll (packedStores yuyvPixel {} {} resize light wStep hStep rows) light = light := by
  refine storeAll_of_same fun w hw => ?_
  obtain ⟨r, -, c, -, hw⟩ := mem_packedStores.mp hw
  rw [yuyvPixel_light] at hw
  simp only [halfStores, List.mem_cons, List.not_mem_nil, or_false] at hw
  rcases hw with rfl | rfl
  · simp [light, byte]
  · have hodd : (0 + 2 * (r * resize.outputW + c) + 1) % 2 ≠ 0 := by omega
    simp only [light, if_neg hodd]
    rfl

/-! ### The steps of the scaler -/

namespace JpegParams

/-- The step from column to column. -/
def wStep (p : JpegParams) : ℕ := shiftedSize p.in_width / (p.out_width - 1)

/-- The step from row to row. -/
def hStep (p : JpegParams) : ℕ := shiftedSize p.in_height / (p.out_height - 1)

/-- An image that is scaled is not copied. -/
lemma not_whole_of_scaled {p : JpegParams} (hscaled : p.Scaled) : ¬ p.Whole := by
  rintro ⟨hw, hh, -, -, hw', hh'⟩
  exact hscaled.elim (fun h => h (hw.symm.trans hw'.symm)) fun h => h (hh.symm.trans hh'.symm)

/-- Its resizer is the scaler. -/
lemma resizeWith_of_scaled {p : JpegParams} (hscaled : p.Scaled) (bits : ℕ)
    (scaler : Buffer → Buffer → Option Buffer) : p.resizeWith bits scaler = scaler := by
  funext src fresh
  rw [resizeWith, if_neg (not_whole_of_scaled hscaled)]

end JpegParams

/-- The image is not empty. -/
lemma Accepted.input {call : JpegCall} (h : Accepted call) :
    ¬ (call.resize.inputW < 1 ∨ call.resize.inputH < 1) := by
  obtain ⟨hw, hh⟩ := h.crop
  have hx := call.crop_x
  have hy := call.crop_y
  simp only [JpegParams.resize]
  omega

/-- The steps are defined. -/
lemma Accepted.steps {call : JpegCall} (h : Accepted call) :
    stepFixed16b call.resize.inputCrop.w call.resize.outputW = some call.wStep ∧
      stepFixed16b call.resize.inputCrop.h call.resize.outputH = some call.hStep :=
  ⟨stepFixed16b_of_two_le h.out.1 (call.out_width_lt.trans (by decide)),
    stepFixed16b_of_two_le h.out.2 (call.out_height_lt.trans (by decide))⟩

/-- The stores of a packed scaler in a call. -/
lemma Accepted.packedResize_eq {call : JpegCall} (h : Accepted call)
    (pixel : Buffer → RGBOrYUV → ImageResize → ℕ → ℕ → ℕ → ℕ) (src fresh : Buffer) :
    packedResize pixel {} {} call.resize src fresh = some
      (storeAll (packedStores pixel {} {} call.resize src call.wStep call.hStep call.out_height)
        fresh) :=
  CameraHal.packedResize_eq pixel {} {} call.resize src fresh h.input h.steps.1 h.steps.2

/-- **An image of pairs of pixels is never encoded**: its rows are passed as they are.

**Proof sketch.** The image with all of the luma and no chroma is scaled to one of its kind. Of the
first pixel the first byte must be luma, so that it is read at an even place; then the third one is
luma too, and not the chroma of the pair. -/
theorem not_encodes_yuv422i {call : JpegCall} (hacc : Accepted call)
    (hfmt : call.format = .CAMERA_FRAME_FORMAT_YUV422I) : ¬ Encodes call := by
  intro h
  have hpassed : call.RowPassed := Or.inr hfmt
  obtain ⟨hw, hh⟩ := hacc.out
  have hpicture : call.picturePixel light 0 0 = [255#8, 0#8, 0#8] := by
    unfold JpegParams.picturePixel JpegParams.scaledPixel JpegParams.sourcePixel
      JpegParams.scaledHalf
    simp only [hfmt, yuyvPixel_light]
    split_ifs
    · rfl
    · have hfirst : ∀ j, light (2 * j) = 255#8 := fun j => by simp [light]
      have hsecond : ∀ j, light (2 * j + 1) = 0#8 := fun j => by simp [light]
      have hthird : ∀ j, light (2 * j + 3) = 0#8 := fun j => hsecond (j + 1)
      simp only [hfirst, hsecond, hthird]
  have hrow : call.rowPixel light 0 0 = [255#8, 0#8, 0#8] := by
    rw [← hpicture]
    by_cases hresized : call.Scaled ∧ call.resize_src = true
    · have hstores : ∀ src fresh, call.resizer src fresh = some (storeAll (packedStores yuyvPixel
          {} {} call.resize src call.wStep call.hStep call.out_height) fresh) := by
        intro src fresh
        rw [JpegParams.resizer, hfmt]
        simp only [JpegParams.resizeYUYV, JpegParams.resizeWith_of_scaled hresized.1, YUYVResize]
        exact hacc.packedResize_eq yuyvPixel src fresh
      have hpixels := ((encodes_resized_iff hacc hresized hpassed hstores).mp h).1 light light 0
        (by omega) 0 (by omega)
      rwa [storeAll_light] at hpixels
    · exact ((encodes_source_iff hacc hresized hpassed).mp h).1 light 0 (by omega) 0 (by omega)
  simp only [JpegParams.rowPixel, JpegParams.pixelPlaces, hfmt, reduceCtorEq, if_false,
    List.map_cons, List.map_nil, List.cons.injEq, and_true] at hrow
  obtain ⟨hfirst, -, hthird⟩ := hrow
  unfold light at hfirst hthird
  split_ifs at hfirst with heven
  · rw [if_pos (by omega)] at hthird
    exact absurd hthird (by decide)
  · exact absurd hfirst (by decide)

end CameraHal
