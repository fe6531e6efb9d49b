import Gs702aHal.Camera.JpegPicture

set_option relaxedAutoImplicit false
set_option autoImplicit false

/-!
# Encoding an image as it is

If the crop rectangle has the size of the output, or the buffer for the scaled image cannot be
allocated, the rows are converted from the source itself. The rows are taken to be as long as the
output's and to start at `start_offset`; the crop rectangle is not looked at.

## Main results

* `CameraHal.encodes_unscaled_nv12`, `CameraHal.encodes_unscaled_yu12`,
  `CameraHal.encodes_unscaled_rgb565` — when a crop rectangle of the size of the output is encoded.
* `CameraHal.not_encodes_unallocated` — an image that has to be scaled is never encoded without the
  buffer.
-/

namespace CameraHal

open StoreLog

/-! ### Places -/

/-- Places that hold the same in every image are the same. -/
lemma place_eq_of_forall {a b : ℕ} (h : ∀ src : Buffer, src a = src b) : a = b := by
  by_contra hne
  have hspot := h fun k => if k = a then 1#8 else 0#8
  rw [if_pos rfl, if_neg (Ne.symm hne)] at hspot
  exact absurd hspot (by decide)

/-- So are places of 16-bit pixels. -/
lemma half_place_eq_of_forall {a b : ℕ} (h : ∀ src, rgb888 (half src a) = rgb888 (half src b)) :
    a = b := by
  by_contra hne
  have hspot := h fun k => if k = a then 31#8 else 0#8
  by_cases hnext : b + 1 = a
  · simp only [half, hnext, if_true, Nat.succ_ne_self, if_false, Ne.symm hne] at hspot
    exact absurd hspot (by decide)
  · simp only [half, hnext, if_true, Nat.succ_ne_self, if_false, Ne.symm hne] at hspot
    exact absurd hspot (by decide)

variable {call : JpegCall}

/-- The formats with planes. -/
def JpegParams.Planar (p : JpegParams) : Prop :=
  p.format = .CAMERA_FRAME_FORMAT_YUV420SP ∨ p.format = .CAMERA_FRAME_FORMAT_YUV420P

/-- What is passed for a pixel of luma and chroma. -/
lemma rowPixel_planar (hplanar : call.Planar) (m : Buffer) (r c : ℕ) :
    call.rowPixel m r c = [m (call.yAt r c), m (call.uAt r c), m (call.vAt r c)] := by
  rcases hplanar with hfmt | hfmt <;>
    simp [JpegParams.rowPixel, JpegParams.pixelPlaces, hfmt, yuvPlaces]

/-- Where it is read. -/
lemma mem_pixelPlaces_planar (hplanar : call.Planar) {r c k : ℕ} :
    k ∈ call.pixelPlaces r c ↔ k = call.yAt r c ∨ k = call.uAt r c ∨ k = call.vAt r c := by
  rcases hplanar with hfmt | hfmt <;> simp [JpegParams.pixelPlaces, hfmt, yuvPlaces]

/-- The picture's pixel of luma and chroma, if the image is not scaled. -/
lemma picturePixel_planar (hplanar : call.Planar) (hunscaled : ¬ call.Scaled) (src : Buffer)
    (r c : ℕ) :
    call.picturePixel src r c =
      [ src (call.planes.y + (call.top_crop + r) * call.planes.yStride + (call.left_crop + c)),
        src (call.planes.u + (call.top_crop + r) / 2 * call.planes.uStride +
          (call.left_crop + c) / 2 * call.planes.du),
        src (call.planes.v + (call.top_crop + r) / 2 * call.planes.vStride +
          (call.left_crop + c) / 2 * call.planes.dv) ] := by
  rw [JpegParams.picturePixel, if_neg hunscaled]
  rcases hplanar with hfmt | hfmt <;> simp [JpegParams.sourcePixel, hfmt]

/-- **An image with planes that is not scaled** is encoded if each sample is read at its place. -/
theorem encodes_planar_iff (hacc : Accepted call) (hplanar : call.Planar)
    (hunscaled : ¬ call.Scaled) (htmp : call.row_tmp = true) :
    Encodes call ↔ ∀ r < call.out_height, ∀ c < call.out_width,
      (call.yAt r c =
          call.planes.y + (call.top_crop + r) * call.planes.yStride + (call.left_crop + c) ∧
        call.uAt r c = call.planes.u + (call.top_crop + r) / 2 * call.planes.uStride +
          (call.left_crop + c) / 2 * call.planes.du ∧
        call.vAt r c = call.planes.v + (call.top_crop + r) / 2 * call.planes.vStride +
          (call.left_crop + c) / 2 * call.planes.dv) ∧
      call.yAt r c < call.imageSize ∧ call.uAt r c < call.imageSize ∧
        call.vAt r c < call.imageSize := by
  rw [encodes_source_iff hacc (fun h => hunscaled h.1) (Or.inl htmp)]
  simp only [rowPixel_planar hplanar, picturePixel_planar hplanar hunscaled,
    mem_pixelPlaces_planar hplanar, List.cons.injEq, and_true]
  constructor
  · rintro ⟨hpixels, hinside⟩ r hr c hc
    refine ⟨⟨?_, ?_, ?_⟩, ?_, ?_, ?_⟩
    · exact place_eq_of_forall fun src => (hpixels src r hr c hc).1
    · exact place_eq_of_forall fun src => (hpixels src r hr c hc).2.1
    · exact place_eq_of_forall fun src => (hpixels src r hr c hc).2.2
    · exact hinside r hr c hc _ (Or.inl rfl)
    · exact hinside r hr c hc _ (Or.inr (Or.inl rfl))
    · exact hinside r hr c hc _ (Or.inr (Or.inr rfl))
  · intro h
    refine ⟨fun src r hr c hc => ?_, fun r hr c hc k hk => ?_⟩
    · obtain ⟨⟨hy, hu, hv⟩, -⟩ := h r hr c hc
      rw [hy, hu, hv]
      exact ⟨rfl, rfl, rfl⟩
    · obtain ⟨-, hy, hu, hv⟩ := h r hr c hc
      rcases hk with rfl | rfl | rfl
      · exact hy
      · exact hu
      · exact hv

/-- Rows of luma that are all read at their places are as long as the source's, and the crop
rectangle starts in the first column. -/
lemma rows_of_luma {w h orig_width left_crop top_crop start : ℕ} (hw : 2 ≤ w) (hh : 2 ≤ h)
    (hx : left_crop + w ≤ orig_width)
    (hluma : ∀ r < h, ∀ c < w,
      start + (r * w + c) = (top_crop + r) * orig_width + (left_crop + c)) :
    orig_width = w ∧ left_crop = 0 ∧ start = top_crop * orig_width := by
  have hfirst := hluma 0 (by omega) 0 (by omega)
  have hnext := hluma 1 (by omega) 0 (by omega)
  rw [Nat.add_one_mul top_crop] at hnext
  simp only [Nat.zero_mul, Nat.one_mul, Nat.add_zero] at hfirst hnext
  omega

/-- If in addition the chroma starts behind the luma of the output, the crop rectangle is the whole
image. -/
lemma whole_of_chroma {w h orig_height top_crop more : ℕ} (hw : 2 ≤ w)
    (hy : top_crop + h ≤ orig_height) (hchroma : w * h = w * orig_height + more) :
    orig_height = h ∧ top_crop = 0 := by
  have hle := Nat.mul_le_mul_left w hy
  rw [Nat.mul_add] at hle
  have htop : w * top_crop = 0 := by omega
  have hzero : top_crop = 0 := (Nat.mul_eq_zero.mp htop).resolve_left (by omega)
  refine ⟨Nat.eq_of_mul_eq_mul_left (show 0 < w by omega) ?_, hzero⟩
  have hge := Nat.mul_le_mul_left w (show h ≤ orig_height by omega)
  omega

/-! ### The formats -/

/-- An image that is not scaled has a crop rectangle of the size of the output. -/
lemma size_of_unscaled (hunscaled : ¬ call.Scaled) :
    call.in_width = call.out_width ∧ call.in_height = call.out_height := by
  obtain ⟨hw, hh⟩ := not_or.mp hunscaled
  exact ⟨not_not.mp hw, not_not.mp hh⟩

/-- **A semi-planar image is encoded as it is** if it is not cropped, and has even sides and a
chroma pair at most behind the last block of 16 columns. -/
theorem encodes_unscaled_nv12 (hacc : Accepted call) (hunscaled : ¬ call.Scaled)
    (htmp : call.row_tmp = true) (hfmt : call.format = .CAMERA_FRAME_FORMAT_YUV420SP) :
    Encodes call ↔ call.orig_width = call.out_width ∧ call.orig_height = call.out_height ∧
      call.start_offset = 0 ∧ call.out_width % 2 = 0 ∧ call.out_height % 2 = 0 ∧
      call.out_width % 16 ≤ 2 := by
  obtain ⟨hw, hh⟩ := hacc.out
  obtain ⟨hinw, hinh⟩ := size_of_unscaled hunscaled
  have hx : call.left_crop + call.out_width ≤ call.orig_width := hinw ▸ call.crop_x
  have hy : call.top_crop + call.out_height ≤ call.orig_height := hinh ▸ call.crop_y
  rw [encodes_planar_iff hacc (Or.inl hfmt) hunscaled htmp]
  simp only [JpegParams.yAt, JpegParams.vAt, JpegParams.uAt, JpegParams.planes,
    JpegParams.imageSize, JpegParams.bpp, hfmt, if_true, RGBOrYUV.semiPlanar, nv12In, Nat.zero_add]
  constructor
  · intro h
    obtain ⟨hW, hleft, hstart⟩ := rows_of_luma hw hh hx fun r hr c hc => (h r hr c hc).1.1
    obtain ⟨-, hfirst, -⟩ := (h 0 (by omega) 0 (by omega)).1
    have hchroma0 : nv12Chroma call.out_width 0 = 0 := by
      unfold nv12Chroma
      split_ifs <;> omega
    rw [hchroma0, hW, hleft] at hfirst
    have hbehind : call.out_width * call.out_height = call.out_width * call.orig_height +
        call.top_crop / 2 * call.out_width := by simpa using hfirst
    obtain ⟨hH, htop⟩ := whole_of_chroma hw hy hbehind
    have hcolumns : ∀ c < call.out_width, nv12Chroma call.out_width c = c / 2 * 2 := by
      intro c hc
      obtain ⟨-, hu, -⟩ := (h 0 (by omega) c hc).1
      rw [hW, hH, hleft, htop] at hu
      simpa using hu
    obtain ⟨-, -, -, hlast⟩ := h (call.out_height - 1) (by omega) (call.out_width - 1) (by omega)
    rw [hcolumns _ (by omega), hW, hH, Nat.mul_comm call.out_width call.out_height] at hlast
    rw [htop, Nat.zero_mul] at hstart
    -- the pixels behind the last block share one pair, or take a pair each
    have hrest : call.out_width % 16 ≤ 2 := by
      by_contra hrest
      have hsecond := hcolumns (call.out_width / 16 * 16 + 1) (by omega)
      have hthird := hcolumns (call.out_width / 16 * 16 + 2) (by omega)
      unfold nv12Chroma at hsecond hthird
      split_ifs at hsecond hthird <;> omega
    refine ⟨hW, hH, hstart, ?_, ?_, hrest⟩
    · by_contra hodd
      rcases Nat.even_or_odd' call.out_height with ⟨k, hk | hk⟩
      · rw [hk, show (2 * k - 1) / 2 = k - 1 by omega, Nat.mul_assoc, Nat.sub_one_mul] at hlast
        have hone := Nat.mul_le_mul_right call.out_width (show 1 ≤ k by omega)
        omega
      · rw [hk, show (2 * k + 1 - 1) / 2 = k by omega, Nat.add_one_mul (2 * k),
          Nat.mul_assoc] at hlast
        omega
    · by_contra hodd
      obtain ⟨k, hk⟩ : ∃ k, call.out_height = 2 * k + 1 := ⟨call.out_height / 2, by omega⟩
      rw [hk, show (2 * k + 1 - 1) / 2 = k by omega, Nat.add_one_mul (2 * k),
        Nat.mul_assoc] at hlast
      omega
  · rintro ⟨hW, hH, hstart, hevenW, hevenH, hrest⟩ r hr c hc
    have hcolumns : nv12Chroma call.out_width c = c / 2 * 2 := by
      unfold nv12Chroma
      split_ifs <;> omega
    have htop : call.top_crop = 0 := by omega
    have hleft : call.left_crop = 0 := by omega
    rw [hW, hH, hstart, htop, hleft, hcolumns, Nat.mul_comm call.out_width call.out_height]
    have hrow := Nat.mul_le_mul_right call.out_width (show r + 1 ≤ call.out_height from hr)
    have hpair := Nat.mul_le_mul_right call.out_width
      (show 2 * (r / 2 + 1) ≤ call.out_height by omega)
    rw [Nat.add_one_mul r] at hrow
    rw [Nat.mul_assoc, Nat.add_one_mul (r / 2)] at hpair
    simp only [Nat.zero_add, true_and]
    refine ⟨⟨?_, ?_⟩, ?_, ?_, ?_⟩ <;> omega

/-- **A planar image is encoded as it is** if it is not cropped, and has two rows and an even
width: the chroma rows are never left. -/
theorem encodes_unscaled_yu12 (hacc : Accepted call) (hunscaled : ¬ call.Scaled)
    (htmp : call.row_tmp = true) (hfmt : call.format = .CAMERA_FRAME_FORMAT_YUV420P) :
    Encodes call ↔ call.orig_width = call.out_width ∧ call.orig_height = call.out_height ∧
      call.start_offset = 0 ∧ call.out_width % 2 = 0 ∧ call.out_height = 2 := by
  obtain ⟨hw, hh⟩ := hacc.out
  obtain ⟨hinw, hinh⟩ := size_of_unscaled hunscaled
  have hx : call.left_crop + call.out_width ≤ call.orig_width := hinw ▸ call.crop_x
  have hy : call.top_crop + call.out_height ≤ call.orig_height := hinh ▸ call.crop_y
  rw [encodes_planar_iff hacc (Or.inr hfmt) hunscaled htmp]
  simp only [JpegParams.yAt, JpegParams.vAt, JpegParams.uAt, JpegParams.planes,
    JpegParams.imageSize, JpegParams.bpp, hfmt, reduceCtorEq, if_false, if_true, RGBOrYUV.planar,
    yu12In, Nat.zero_add, Nat.mul_one, yu12Chroma]
  constructor
  · intro h
    obtain ⟨hW, hleft, hstart⟩ := rows_of_luma hw hh hx fun r hr c hc => (h r hr c hc).1.1
    obtain ⟨-, hfirst, -⟩ := (h 0 (by omega) 0 (by omega)).1
    have hzero : (0 + call.out_width % 2) / 2 = 0 := by omega
    rw [hzero, hW, hleft] at hfirst
    have hbehind : call.out_width * call.out_height = call.out_width * call.orig_height +
        call.top_crop / 2 * (call.out_width / 2) := by simpa using hfirst
    obtain ⟨hH, htop⟩ := whole_of_chroma hw hy hbehind
    rw [htop, Nat.zero_mul] at hstart
    have hsame : ∀ r < call.out_height, ∀ c < call.out_width,
        (c + call.out_width % 2) / 2 = r / 2 * (call.out_width / 2) + c / 2 := by
      intro r hr c hc
      obtain ⟨-, hu, -⟩ := (h r hr c hc).1
      rw [hW, hH, hleft, htop] at hu
      simp only [Nat.zero_add] at hu
      omega
    refine ⟨hW, hH, hstart, ?_, ?_⟩
    · have hsecond := hsame 0 (by omega) 1 (by omega)
      omega
    · by_contra htall
      have hthird := hsame 2 (by omega) 0 (by omega)
      omega
  · rintro ⟨hW, hH, hstart, hevenW, htwo⟩ r hr c hc
    have htop : call.top_crop = 0 := by omega
    have hleft : call.left_crop = 0 := by omega
    have hpair : r / 2 = 0 := by omega
    rw [hW, hH, hstart, htop, hleft, htwo]
    simp only [Nat.zero_add, hpair, Nat.zero_mul, Nat.add_zero, true_and]
    have hrow : r * call.out_width ≤ call.out_width := by
      simpa using Nat.mul_le_mul_right call.out_width (show r ≤ 1 by omega)
    refine ⟨⟨?_, ?_⟩, ?_, ?_, ?_⟩ <;> omega

/-- **An image of 16-bit pixels is encoded as it is** if only rows are cropped, and `start_offset`
skips those above. -/
theorem encodes_unscaled_rgb565 (hacc : Accepted call) (hunscaled : ¬ call.Scaled)
    (htmp : call.row_tmp = true) (hfmt : call.format = .CAMERA_FRAME_FORMAT_RGB565) :
    Encodes call ↔ call.orig_width = call.out_width ∧
      call.start_offset = 2 * (call.top_crop * call.orig_width) := by
  obtain ⟨hw, hh⟩ := hacc.out
  obtain ⟨hinw, hinh⟩ := size_of_unscaled hunscaled
  have hx : call.left_crop + call.out_width ≤ call.orig_width := hinw ▸ call.crop_x
  have hy : call.top_crop + call.out_height ≤ call.orig_height := hinh ▸ call.crop_y
  have hrow : ∀ src r c, call.rowPixel src r c = rgb888 (half src (call.halfAt r c)) :=
    fun src r c => by simp [JpegParams.rowPixel, hfmt]
  have hpicture : ∀ src r c, call.picturePixel src r c = rgb888 (half src
      (2 * ((call.top_crop + r) * call.orig_width + (call.left_crop + c)))) := fun src r c => by
    simp [JpegParams.picturePixel, JpegParams.sourcePixel, hunscaled, hfmt]
  rw [encodes_source_iff hacc (fun h => hunscaled h.1) (Or.inl htmp)]
  simp only [hrow, hpicture]
  constructor
  · rintro ⟨hpixels, -⟩
    have hplaces : ∀ r < call.out_height, ∀ c < call.out_width, call.halfAt r c =
        2 * ((call.top_crop + r) * call.orig_width + (call.left_crop + c)) := fun r hr c hc =>
      half_place_eq_of_forall fun src => hpixels src r hr c hc
    have hfirst := hplaces 0 (by omega) 0 (by omega)
    have hnext := hplaces 1 (by omega) 0 (by omega)
    rw [Nat.add_one_mul call.top_crop] at hnext
    simp only [JpegParams.halfAt, Nat.zero_mul, Nat.one_mul, Nat.add_zero] at hfirst hnext
    omega
  · rintro ⟨hW, hstart⟩
    have hleft : call.left_crop = 0 := by omega
    have hplaces : ∀ r c, call.halfAt r c =
        2 * ((call.top_crop + r) * call.orig_width + (call.left_crop + c)) := fun r c => by
      rw [JpegParams.halfAt, hstart, hleft, Nat.add_mul call.top_crop, ← hW]
      omega
    refine ⟨fun src r _ c _ => by rw [hplaces], fun r hr c hc k hk => ?_⟩
    have hlast := Nat.mul_le_mul_right call.orig_width
      (show call.top_crop + r + 1 ≤ call.orig_height by omega)
    rw [Nat.add_one_mul (call.top_crop + r), Nat.mul_comm call.orig_height] at hlast
    simp only [JpegParams.pixelPlaces, hfmt, List.mem_cons, List.not_mem_nil, or_false,
      hplaces] at hk
    simp only [JpegParams.imageSize, JpegParams.bpp, hfmt, OfNat.ofNat_ne_one, if_false]
    omega

/-! ### Without the buffer of the scaled image -/

/-- No scaling of a crop rectangle reads each pixel from its own place in the source.

**Proof sketch.** In the first row the last column would be at least two columns before the end of
the crop rectangle, so that the output would be narrower than the source; then the second row
would start inside of the first one of the source. -/
lemma not_rows_of_positions (hacc : Accepted call) {start base : ℕ}
    (h : ∀ r < call.out_height, ∀ c < call.out_width, start + (r * call.out_width + c) =
      base + (offsetOf (call.hPos r) * call.orig_width + offsetOf (call.wPos c))) : False := by
  obtain ⟨hw, hh⟩ := hacc.out
  have hzero : ∀ step, offsetOf (coefAt step 0) = 0 := fun step => by simp [coefAt, offsetOf]
  have hfirst := h 0 (by omega) 0 (by omega)
  have hlast := h 0 (by omega) (call.out_width - 1) (by omega)
  have hnext := h 1 (by omega) 0 (by omega)
  simp only [JpegParams.hPos, JpegParams.wPos, hzero, Nat.zero_mul, Nat.one_mul,
    Nat.add_zero, Nat.zero_add] at hfirst hlast hnext
  have hinside := offsetOf_coefAt_le (c := call.in_width) hacc.crop.1
    (show call.out_width - 1 < call.out_width by omega)
  have hx := call.crop_x
  rcases Nat.eq_zero_or_pos (offsetOf (coefAt (shiftedSize call.in_height /
    (call.out_height - 1)) 1)) with hrow | hrow
  · rw [hrow] at hnext
    omega
  · have := Nat.mul_le_mul_right call.orig_width hrow
    omega

/-- A sample that is blended to what one place holds is at that place. -/
lemma place_of_blendAt {sample : ℕ → ℕ → ℕ} {k hCoef wCoef : ℕ}
    (h : ∀ src : Buffer, src k = byte (blendAt src sample hCoef wCoef)) :
    k = sample (offsetOf hCoef) (offsetOf wCoef) := by
  by_contra hne
  have hspot := h fun j => if j = k then 255#8 else 0#8
  rw [if_pos rfl] at hspot
  have htop := byte_inj (by decide) (blendAt_lt _ _ _ _) hspot
  rw [blendAt_eq_bilinear] at htop
  have hself := Bilinear.bilinear_eq_top (by decide) (fun y x => by split_ifs <;> decide) htop.symm
  rw [(coef_parts hCoef).1, (coef_parts wCoef).1, if_neg (Ne.symm hne)] at hself
  exact absurd hself (by decide)

/-- A colour of five bits that is converted to the largest byte is the largest. -/
lemma mod_of_R16_32 {rgb : ℕ} (h : R16_32 rgb = 255#8) : rgb % 32 = 31 := by
  have hall : ∀ x < 32, byte (x <<< 3 ||| x >>> 2) = 255#8 → x = 31 := by decide
  refine hall _ (Nat.mod_lt _ (by decide)) ?_
  rw [← h, R16_32, show (0x001f : ℕ) = 2 ^ 5 - 1 from rfl, Nat.and_two_pow_sub_one_eq_mod]

/-- A 16-bit pixel that is blended to what one place holds is at that place. -/
lemma place_of_rgb565Pixel {resize : ImageResize} {k col hCoef wCoef : ℕ}
    (h : ∀ src, rgb888 (half src k) = rgb888 (rgb565Pixel src {} resize col hCoef wCoef)) :
    k = packedAt {} resize (offsetOf hCoef) (offsetOf wCoef) := by
  by_contra hne
  have hspot := h fun j => if j = k then 31#8 else 0#8
  set src : Buffer := fun j => if j = k then 31#8 else 0#8 with hsrc
  have hself : half src k = 31 := by simp [half, hsrc]
  rw [hself] at hspot
  have hred : R16_32 (rgb565Pixel src {} resize col hCoef wCoef) = 255#8 :=
    (List.cons.inj hspot).1.symm
  have hlow := mod_of_R16_32 hred
  simp only [rgb565Pixel, packedPixels, Nat.pow_zero, Nat.div_one] at hlow
  have hle : ∀ n : ℕ, n % 32 ≤ 31 := fun n => Nat.le_of_lt_succ (Nat.mod_lt n (by decide))
  set low := blend hCoef wCoef
    (half src (packedAt {} resize (offsetOf hCoef) (offsetOf wCoef)) % 32)
    (half src (packedAt {} resize (offsetOf hCoef + 1) (offsetOf wCoef)) % 32)
    (half src (packedAt {} resize (offsetOf hCoef) (offsetOf wCoef + 1)) % 32)
    (half src (packedAt {} resize (offsetOf hCoef + 1) (offsetOf wCoef + 1)) % 32) with hblend
  have hsmall : low ≤ 31 := blend_le hCoef wCoef (hle _) (hle _) (hle _) (hle _)
  have htop := (blend_eq_top (hle _) (hle _) (hle _) (hle _) (show low = 31 by omega)).1
  have hdark : half src (packedAt {} resize (offsetOf hCoef) (offsetOf wCoef)) % 32 =
      (src (packedAt {} resize (offsetOf hCoef) (offsetOf wCoef))).toNat % 32 := by
    rw [half]
    omega
  have hzero : src (packedAt {} resize (offsetOf hCoef) (offsetOf wCoef)) = 0#8 :=
    if_neg (Ne.symm hne)
  rw [hdark, hzero] at htop
  exact absurd htop (by decide)

/-- **An image that has to be scaled is never encoded without the buffer**: each row of the output
would have to be found in the source.

**Proof sketch.** What a pixel of the picture is blended from has to be at the place that is read
(`place_of_blendAt`, `place_of_rgb565Pixel`), for all pixels; that is impossible
(`not_rows_of_positions`). -/
theorem not_encodes_unallocated (hacc : Accepted call) (hscaled : call.Scaled)
    (halloc : call.resize_src = false) (htmp : call.row_tmp = true) : ¬ Encodes call := by
  intro h
  have hsource : ¬ (call.Scaled ∧ call.resize_src = true) := fun h => by
    rw [halloc] at h
    exact Bool.false_ne_true h.2
  have hpixels := ((encodes_source_iff hacc hsource (Or.inl htmp)).mp h).1
  have hplanes : call.Planar → False := fun hplanar => by
    refine @not_rows_of_positions call hacc call.start_offset
      (call.planes.y + (call.top_crop * call.orig_width + call.left_crop)) fun r hr c hc => ?_
    have hplace : call.yAt r c = lumaAt call.planes call.resize (offsetOf (call.hPos r))
        (offsetOf (call.wPos c)) := place_of_blendAt fun src => ?_
    · have hstride : call.planes.yStride = call.orig_width := by
        rcases hplanar with hfmt | hfmt <;> simp [JpegParams.planes, hfmt, RGBOrYUV.semiPlanar,
          RGBOrYUV.planar]
      rw [JpegParams.yAt, lumaAt, hstride] at hplace
      exact hplace
    · have hpixel := hpixels src r hr c hc
      rw [rowPixel_planar hplanar, JpegParams.picturePixel, if_pos hscaled] at hpixel
      rcases hplanar with hfmt | hfmt <;>
        · simp only [JpegParams.scaledPixel, hfmt] at hpixel
          exact (List.cons.inj hpixel).1
  cases hfmt : call.format with
  | CAMERA_FRAME_FORMAT_YUV420SP => exact hplanes (Or.inl hfmt)
  | CAMERA_FRAME_FORMAT_YUV420P => exact hplanes (Or.inr hfmt)
  | CAMERA_FRAME_FORMAT_YUV422I => exact not_encodes_yuv422i hacc hfmt h
  | CAMERA_FRAME_FORMAT_RGB565 =>
    refine @not_rows_of_positions call hacc (call.start_offset / 2)
      (call.top_crop * call.orig_width + call.left_crop) fun r hr c hc => ?_
    have hplace : call.halfAt r c = packedAt {} call.resize (offsetOf (call.hPos r))
        (offsetOf (call.wPos c)) := @place_of_rgb565Pixel _ _ c _ _ fun src => ?_
    · simp only [JpegParams.halfAt, packedAt, JpegParams.resize] at hplace
      omega
    · have hpixel := hpixels src r hr c hc
      rw [JpegParams.picturePixel, if_pos hscaled] at hpixel
      simpa [JpegParams.rowPixel, JpegParams.scaledPixel, JpegParams.scaledHalf, hfmt] using hpixel
  | CAMERA_FRAME_FORMAT_JPEG => exact absurd hfmt hacc.2.1
  | CAMERA_FRAME_FORMAT_PNG => exact absurd hfmt hacc.2.2

end CameraHal
