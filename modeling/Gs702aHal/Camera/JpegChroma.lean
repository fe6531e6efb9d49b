import Gs702aHal.Camera.JpegScaled

set_option relaxedAutoImplicit false
set_option autoImplicit false

/-!
# The chroma of a scaled image

The conversions find the chroma elsewhere than the scaler stores it for some sizes: `nv12ToYuyv`
behind the last block of 16 columns, `yu12ToYuyv` in all rows but the first two; and the planes of
the scaler overlap if a side is odd. Such an image is encoded only if the positions that are mixed
up have the same chroma in every image.

## Main definitions

* `CameraHal.JpegParams.Nv12Columns` — the condition on the columns of a semi-planar image.
* `CameraHal.JpegParams.Yu12Samples` — the condition on the samples of a planar image.

## Main results

* `CameraHal.encodes_scaled_nv12`, `CameraHal.encodes_scaled_yu12` — when a scaled image of a 4:2:0
  format is encoded.
-/

namespace CameraHal

open StoreLog

variable {call : JpegCall}

/-! ### Semi-planar images -/

/-- The chroma of the pixels behind the last block of 16 columns is that of the first pair there:
there is none, or all of them are at its position; or there is one column, in an image of two
rows. -/
def JpegParams.Nv12Columns (p : JpegParams) : Prop :=
  (p.out_width % 2 = 0 ∧ (p.out_width % 16 = 0 ∨
    chromaPosition (p.wPos (p.out_width / 16 * 16)) =
      chromaPosition (p.wPos (p.out_width - 2)))) ∨
  (p.out_width % 16 = 1 ∧ p.out_height = 2)

/-- The places of a semi-planar image. -/
lemma nv12_places {p : JpegParams} (hfmt : p.format = .CAMERA_FRAME_FORMAT_YUV420SP) :
    (∀ i j, p.uPlace i j = p.out_width * p.out_height + (i * p.out_width + j * 2) ∧
      p.vPlace i j = p.out_width * p.out_height + (i * p.out_width + (j * 2 + 1))) ∧
    ∀ r c, p.uAt r c =
        p.out_width * p.out_height + (r / 2 * p.out_width + nv12Chroma p.out_width c) ∧
      p.vAt r c =
        p.out_width * p.out_height + (r / 2 * p.out_width + (nv12Chroma p.out_width c + 1)) := by
  constructor
  · intro i j
    simp only [JpegParams.uPlace, JpegParams.vPlace, JpegParams.outPlanes, hfmt,
      RGBOrYUV.semiPlanar, nv12In]
    omega
  · intro r c
    simp only [JpegParams.vAt, JpegParams.uAt, hfmt, if_true, true_and]
    omega

/-- The last second sample of an image of odd width is read behind all that is stored, unless one
column is behind the blocks. -/
lemma vAt_last_notMem_targets (hacc : Accepted call)
    (hfmt : call.format = .CAMERA_FRAME_FORMAT_YUV420SP) (hodd : call.out_width % 2 = 1)
    (hone : call.out_width % 16 ≠ 1) (src : ℕ → BitVec 8) :
    call.vAt (call.out_height - 1) (call.out_width - 1) ∉ targets (call.stores src) := by
  obtain ⟨hw, hh⟩ := hacc.out
  obtain ⟨hplaces, hat⟩ := nv12_places hfmt
  intro hmem
  obtain ⟨v, hv⟩ := mem_targets.mp hmem
  obtain ⟨r, hr, c, hc, hv⟩ := JpegParams.mem_stores.mp hv
  have hrow := Nat.mul_le_mul_right call.out_width
    (show r / 2 ≤ (call.out_height - 1) / 2 by omega)
  have hlast : call.out_width - 1 < nv12Chroma call.out_width (call.out_width - 1) := by
    unfold nv12Chroma
    split_ifs <;> omega
  have hlt := JpegParams.place_lt hr hc
  rw [(hat _ _).2] at hv
  rcases JpegParams.mem_storesAt.mp hv with ⟨hk, -⟩ | ⟨-, ⟨hk, -⟩ | ⟨hk, -⟩⟩
  · omega
  · rw [(hplaces _ _).1] at hk
    omega
  · rw [(hplaces _ _).2] at hk
    omega

/-- If one column is behind the blocks, the last second sample of the first row is in the place of
the first sample of the next one. -/
lemma vAt_last_eq_uAt (hfmt : call.format = .CAMERA_FRAME_FORMAT_YUV420SP)
    (hone : call.out_width % 16 = 1) : call.vAt 0 (call.out_width - 1) = call.uAt 2 0 := by
  obtain ⟨-, hat⟩ := nv12_places hfmt
  have hlast : nv12Chroma call.out_width (call.out_width - 1) = call.out_width - 1 := by
    unfold nv12Chroma
    split_ifs <;> omega
  have hfirst : nv12Chroma call.out_width 0 = 0 := by
    unfold nv12Chroma
    split_ifs <;> omega
  rw [(hat _ _).2, (hat _ _).1, hlast, hfirst]
  omega

/-- The cell of the second sample that the last column of the first row starts from. -/
def JpegParams.lastCell (p : JpegParams) : ℕ :=
  chromaCell p.planes.v p.planes.vStride p.planes.dv p.resize 0
    (chromaPosition (p.wPos (p.out_width - 1)) / 128)

/-- An image that is dark in the second sample of the last column only is bright in the first one
of the next row. -/
lemma scaledU_dark_lastCell (hacc : Accepted call)
    (hfmt : call.format = .CAMERA_FRAME_FORMAT_YUV420SP) :
    call.scaledU (dark call.lastCell) 2 0 = 255 := by
  obtain ⟨hw, -⟩ := hacc.out
  rw [JpegParams.scaledU, blendAt_chroma, call.wPos_zero, chromaPosition_zero]
  refine Bilinear.bilinear_const (by decide) fun y _ x hx => ?_
  have hcrop := hacc.crop.1
  have hinside := offsetOf_coefAt_le hcrop
    (show call.out_width - 1 < call.out_width by omega)
  have hcropX := call.crop_x
  have hne : chromaCell call.planes.u call.planes.uStride call.planes.du call.resize y x ≠
      call.lastCell := by
    rw [JpegParams.lastCell, chromaPosition_div]
    simp only [chromaCell, JpegParams.planes, hfmt, RGBOrYUV.semiPlanar, nv12In,
      Nat.zero_mul, JpegParams.wPos]
    rcases Nat.eq_zero_or_pos y with rfl | hy
    · omega
    · have := Nat.mul_le_mul_right call.orig_width hy
      omega
  rw [dark, if_neg hne]
  rfl

/-- What has to be in one place in every image, for the columns of a semi-planar image. -/
lemma nv12Columns_of_chroma (hacc : Accepted call)
    (hfmt : call.format = .CAMERA_FRAME_FORMAT_YUV420SP)
    (h : ∀ src fresh, ∀ r < call.out_height, ∀ c < call.out_width,
      storeAll (call.stores src) fresh (call.uAt r c) =
          byte (call.scaledU src (r / 2 * 2) (c / 2 * 2)) ∧
        storeAll (call.stores src) fresh (call.vAt r c) =
          byte (call.scaledV src (r / 2 * 2) (c / 2 * 2))) : call.Nv12Columns := by
  obtain ⟨hw, hh⟩ := hacc.out
  obtain ⟨-, hat⟩ := nv12_places hfmt
  have hd : 0 < call.planes.du := by
    rw [JpegParams.planes, hfmt]
    exact Nat.two_pos
  rcases Nat.mod_two_eq_zero_or_one call.out_width with heven | hodd
  · refine Or.inl ⟨heven, ?_⟩
    by_cases hblocks : call.out_width % 16 = 0
    · exact Or.inl hblocks
    · -- the last pixel reads the pair of the first one behind the blocks
      refine Or.inr (column_eq_of_forall hd (by omega) (by omega) fun src => ?_)
      have hfirst := (h src (fun _ => 0#8) 0 (by omega) (call.out_width / 16 * 16) (by omega)).1
      have hlast := (h src (fun _ => 0#8) 0 (by omega) (call.out_width - 2) (by omega)).1
      have hsame : nv12Chroma call.out_width (call.out_width - 2) =
          nv12Chroma call.out_width (call.out_width / 16 * 16) := by
        unfold nv12Chroma
        split_ifs <;> omega
      rw [(hat _ _).1, hsame, ← (hat _ _).1, hfirst] at hlast
      have hpair : call.out_width / 16 * 16 / 2 * 2 = call.out_width / 16 * 16 := by omega
      have hpair' : (call.out_width - 2) / 2 * 2 = call.out_width - 2 := by omega
      rw [hpair, hpair'] at hlast
      exact byte_inj (scaledChroma_lt _ _ _ _).1 (scaledChroma_lt _ _ _ _).1 hlast
  · refine Or.inr ?_
    by_cases hone : call.out_width % 16 = 1
    · refine ⟨hone, ?_⟩
      by_contra htall
      -- one place has two samples, that differ in a dark image
      set place := call.lastCell with hplace
      have hrow := (h (dark place) (fun _ => 0#8) 0 (by omega) (call.out_width - 1) (by omega)).2
      have hnext := (h (dark place) (fun _ => 0#8) 2 (by omega) 0 (by omega)).1
      have hequal := hnext.symm.trans (vAt_last_eq_uAt hfmt hone ▸ hrow)
      have hpair : (call.out_width - 1) / 2 * 2 = call.out_width - 1 := by omega
      rw [hpair] at hequal
      have hV := byte_inj (scaledChroma_lt _ _ _ _).1 (scaledChroma_lt _ _ _ _).2 hequal
      rw [show 2 / 2 * 2 = 2 from rfl, show 0 / 2 * 2 = 0 from rfl,
        scaledU_dark_lastCell hacc hfmt, JpegParams.scaledV, blendAt_chroma, call.hPos_zero,
        chromaPosition_zero] at hV
      have hself := Bilinear.bilinear_eq_top (by decide)
        (fun y x => Nat.le_of_lt_succ (BitVec.isLt _)) hV.symm
      rw [Nat.zero_div, ← JpegParams.lastCell, ← hplace, dark, if_pos rfl] at hself
      exact absurd hself (by decide)
    · -- what is read there is what was there before
      exfalso
      have hfresh := fun fresh => (h (fun _ => 0#8) fresh (call.out_height - 1) (by omega)
        (call.out_width - 1) (by omega)).2
      have hbehind := vAt_last_notMem_targets hacc hfmt hodd hone
      have hdiffer := (hfresh fun _ => 0#8).trans (hfresh fun _ => 1#8).symm
      rw [storeAll_of_notMem (hbehind _), storeAll_of_notMem (hbehind _)] at hdiffer
      exact absurd hdiffer (by decide)

/-- Places of chroma rows that do not overlap, or of one row, are in one row. -/
lemma same_row {w h r r' : ℕ} (x x' : ℕ) (hr : r < h) (hr' : r' < h) (hx : x < w ∧ x' < w ∨ h = 2)
    (heq : r / 2 * w + x = r' / 2 * w + x') : r / 2 = r' / 2 ∧ x = x' := by
  rcases hx with ⟨hx, hx'⟩ | rfl
  · exact packed_inj hx hx' heq
  · have hzero : r / 2 = 0 := by omega
    have hzero' : r' / 2 = 0 := by omega
    rw [hzero, hzero'] at heq ⊢
    omega

/-- The column whose chroma `nv12ToYuyv` reads is the first of a pair, and has the chroma of the
pixel's pair. -/
lemma nv12Column_spec (hacc : Accepted call) (hcolumns : call.Nv12Columns) {c : ℕ}
    (hc : c < call.out_width) :
    nv12Chroma call.out_width c % 2 = 0 ∧ nv12Chroma call.out_width c < call.out_width ∧
      (nv12Chroma call.out_width c + 1 < call.out_width ∨ call.out_height = 2) ∧
      chromaPosition (call.wPos (nv12Chroma call.out_width c)) =
        chromaPosition (call.wPos (c / 2 * 2)) := by
  obtain ⟨hw, -⟩ := hacc.out
  by_cases hblock : c < call.out_width / 16 * 16
  · have hcol : nv12Chroma call.out_width c = c / 2 * 2 := if_pos hblock
    rw [hcol]
    exact ⟨by omega, by omega, Or.inl (by omega), rfl⟩
  rcases hcolumns with ⟨heven, hrest⟩ | ⟨hone, htwo⟩
  · have hcol : nv12Chroma call.out_width c = call.out_width / 16 * 16 := by
      rw [nv12Chroma, if_neg hblock, if_neg (by omega), Nat.add_zero]
    have hposition := hrest.resolve_left (by omega)
    rw [hcol]
    refine ⟨by omega, by omega, Or.inl (by omega), le_antisymm ?_ ?_⟩
    · exact chromaPosition_mono (JpegParams.wPos_mono (by omega) (by omega))
    · rw [hposition]
      exact chromaPosition_mono (JpegParams.wPos_mono (by omega) (by omega))
  · have hcol : nv12Chroma call.out_width c = c / 2 * 2 := by
      unfold nv12Chroma
      split_ifs <;> omega
    rw [hcol]
    exact ⟨by omega, by omega, Or.inr htwo, rfl⟩

/-- The chroma of a semi-planar image is stored where it is read, if the columns behind the last
block are as they should be. -/
lemma chroma_of_nv12Columns (hacc : Accepted call)
    (hfmt : call.format = .CAMERA_FRAME_FORMAT_YUV420SP) (hcolumns : call.Nv12Columns)
    (src fresh : Buffer) {r c : ℕ} (hr : r < call.out_height) (hc : c < call.out_width) :
    storeAll (call.stores src) fresh (call.uAt r c) =
        byte (call.scaledU src (r / 2 * 2) (c / 2 * 2)) ∧
      storeAll (call.stores src) fresh (call.vAt r c) =
        byte (call.scaledV src (r / 2 * 2) (c / 2 * 2)) := by
  obtain ⟨hplaces, hat⟩ := nv12_places hfmt
  obtain ⟨heven, hlt, hnext, hposition⟩ := nv12Column_spec hacc hcolumns hc
  set col := nv12Chroma call.out_width c with hcol
  have hcol2 : col / 2 * 2 = col := by omega
  have hrow : r / 2 * 2 / 2 = r / 2 := by omega
  have hpair : r / 2 * 2 < call.out_height := by omega
  have hside : call.out_width % 2 = 0 ∨ call.out_height = 2 := hcolumns.imp And.left And.right
  rw [(hat r c).1, (hat r c).2, ← hcol]
  constructor
  · refine JpegParams.storeAll_chroma (by omega)
      ⟨r / 2 * 2, hpair, col, hlt, by omega, heven, Or.inl ?_⟩ ?_ ?_
    · rw [(hplaces _ _).1, hcol2, hrow]
    · intro r' hr' c' hc' hr2 hc2 hk
      rw [(hplaces _ _).1] at hk
      obtain ⟨hsame, hcols⟩ := same_row col (c' / 2 * 2) hr hr'
        (Or.inl ⟨hlt, by omega⟩) (by omega)
      rw [show r' = r / 2 * 2 by omega, show c' = col by omega]
      exact congrArg byte (scaledU_congr rfl hposition)
    · intro r' hr' c' hc' hr2 hc2 hk
      rw [(hplaces _ _).2] at hk
      obtain ⟨-, hcols⟩ := same_row col (c' / 2 * 2 + 1) hr hr'
        (hside.imp (fun hw => ⟨hlt, by omega⟩) id) (by omega)
      omega
  · refine JpegParams.storeAll_chroma (by omega)
      ⟨r / 2 * 2, hpair, col, hlt, by omega, heven, Or.inr ?_⟩ ?_ ?_
    · rw [(hplaces _ _).2, hcol2, hrow]
    · intro r' hr' c' hc' hr2 hc2 hk
      rw [(hplaces _ _).1] at hk
      obtain ⟨-, hcols⟩ := same_row (col + 1) (c' / 2 * 2) hr hr'
        (hnext.imp (fun hw => ⟨hw, by omega⟩) id) (by omega)
      omega
    · intro r' hr' c' hc' hr2 hc2 hk
      rw [(hplaces _ _).2] at hk
      obtain ⟨hsame, hcols⟩ := same_row col (c' / 2 * 2) hr hr'
        (Or.inl ⟨hlt, by omega⟩) (by omega)
      rw [show r' = r / 2 * 2 by omega, show c' = col by omega]
      exact congrArg byte (scaledV_congr rfl hposition)

/-- **When a scaled semi-planar image is encoded.** -/
theorem encodes_scaled_nv12 (hacc : Accepted call) (hscaled : call.Scaled)
    (halloc : call.resize_src = true) (htmp : call.row_tmp = true)
    (hfmt : call.format = .CAMERA_FRAME_FORMAT_YUV420SP) :
    Encodes call ↔ call.start_offset = 0 ∧
      (call.vAt (call.out_height - 1) (call.out_width - 1) < call.dst_size ∧
        call.lastSource < call.imageSize) ∧ call.Nv12Columns := by
  rw [encodes_scaled_iff hacc (Or.inl hfmt) hscaled halloc htmp]
  refine and_congr_right fun _ => and_congr_right fun _ => ?_
  exact ⟨nv12Columns_of_chroma hacc hfmt, fun hcolumns src fresh r hr c hc =>
    chroma_of_nv12Columns hacc hfmt hcolumns src fresh hr hc⟩

/-! ### Planar images -/

/-- The first chroma plane that is stored ends before the second; all rows of chroma are at the
position of the first one, and if the width is odd, all columns too. -/
structure JpegParams.Yu12Samples (p : JpegParams) : Prop where
  apart : (p.out_height - 1) / 2 * (p.out_width / 2) + (p.out_width + 1) / 2 ≤
    p.out_width * p.out_height / 2 ^ 2
  rows : chromaPosition (p.hPos ((p.out_height - 1) / 2 * 2)) = 0
  columns : p.out_width % 2 = 0 ∨ chromaPosition (p.wPos (p.out_width - 1)) = 0

/-- The places of a planar image. -/
lemma yu12_places {p : JpegParams} (hfmt : p.format = .CAMERA_FRAME_FORMAT_YUV420P) :
    (∀ i j, p.uPlace i j = p.out_width * p.out_height + (i * (p.out_width / 2) + j) ∧
      p.vPlace i j = p.out_width * p.out_height + (p.out_width * p.out_height / 2 ^ 2 +
        (i * (p.out_width / 2) + j))) ∧
    ∀ r c, p.uAt r c = p.out_width * p.out_height + yu12Chroma p.out_width c ∧
      p.vAt r c = p.out_width * p.out_height + (p.out_width * p.out_height / 2 ^ 2 +
        yu12Chroma p.out_width c) := by
  constructor
  · intro i j
    simp only [JpegParams.uPlace, JpegParams.vPlace, JpegParams.outPlanes, hfmt,
      RGBOrYUV.planar, yu12In, Nat.mul_one]
    omega
  · intro r c
    simp only [JpegParams.vAt, JpegParams.uAt, hfmt, reduceCtorEq, if_false, true_and]
    omega

/-- Rows that reach the next ones leave out no place up to the last. -/
lemma exists_cell {s rows cols q : ℕ} (hs : 0 < s) (hreach : s ≤ cols + 1)
    (hq : q ≤ rows * s + cols) : ∃ i ≤ rows, ∃ j ≤ cols, i * s + j = q := by
  have hdiv := Nat.div_add_mod' q s
  have hmod := Nat.mod_lt q hs
  by_cases hrow : q / s ≤ rows
  · exact ⟨q / s, hrow, q % s, by omega, hdiv⟩
  · have hle := Nat.mul_le_mul_right s (show rows ≤ q / s by omega)
    exact ⟨rows, le_rfl, q - rows * s, by omega, by omega⟩

/-- The chroma samples that a planar image is scaled from are in the first plane of the source. -/
lemma chromaCell_lt (hacc : Accepted call) (hfmt : call.format = .CAMERA_FRAME_FORMAT_YUV420P)
    {r c : ℕ} (hr : r < call.out_height) (hc : c < call.out_width) :
    chromaCell call.planes.u call.planes.uStride call.planes.du call.resize
        (chromaPosition (call.hPos r) / 128) (chromaPosition (call.wPos c) / 128) <
      chromaCell call.planes.v call.planes.vStride call.planes.dv call.resize 0 0 := by
  obtain ⟨hcropW, hcropH⟩ := hacc.crop
  have hrow := offsetOf_coefAt_le hcropH hr
  have hcol := offsetOf_coefAt_le hcropW hc
  have hcropX := call.crop_x
  have hcropY := call.crop_y
  have hdown : chromaPosition (call.hPos r) / 128 + 1 ≤ call.orig_height / 2 := by
    rw [chromaPosition_div]
    exact Nat.lt_of_lt_of_le (show offsetOf (call.hPos r) / 2 < call.in_height / 2 by
      unfold JpegParams.hPos
      omega) (Nat.div_le_div_right (by omega))
  have hright : chromaPosition (call.wPos c) / 128 < call.orig_width / 2 := by
    rw [chromaPosition_div]
    exact Nat.lt_of_lt_of_le (show offsetOf (call.wPos c) / 2 < call.in_width / 2 by
      unfold JpegParams.wPos
      omega) (Nat.div_le_div_right (by omega))
  have hplane := Nat.mul_le_mul_right (call.orig_width / 2) hdown
  rw [Nat.add_one_mul (chromaPosition (call.hPos r) / 128)] at hplane
  have hquarter := Nat.mul_le_mul (show 2 * (call.orig_height / 2) ≤ call.orig_height by omega)
    (show 2 * (call.orig_width / 2) ≤ call.orig_width by omega)
  rw [Nat.mul_mul_mul_comm, Nat.mul_comm call.orig_height] at hquarter
  simp only [chromaCell, JpegParams.planes, hfmt, RGBOrYUV.planar, yu12In, Nat.zero_mul,
    Nat.mul_one]
  omega

/-- The first second sample is not overwritten.

**Proof sketch.** If a first sample is stored in its place, it is stored later. In an image that is
bright in the second sample only, the sample that is stored last would be bright too; but it is
blended from the first plane of the source, which ends before the second. -/
lemma apart_of_chroma (hacc : Accepted call)
    (hfmt : call.format = .CAMERA_FRAME_FORMAT_YUV420P)
    (h : ∀ src fresh, storeAll (call.stores src) fresh (call.vAt 0 0) =
      byte (call.scaledV src 0 0)) :
    (call.out_height - 1) / 2 * (call.out_width / 2) + (call.out_width + 1) / 2 ≤
      call.out_width * call.out_height / 2 ^ 2 := by
  obtain ⟨hw, hh⟩ := hacc.out
  obtain ⟨hplaces, hat⟩ := yu12_places hfmt
  by_contra hapart
  have hquarter : 0 < call.out_width * call.out_height / 2 ^ 2 := by
    have := Nat.mul_le_mul hw hh
    omega
  have hfirst : yu12Chroma call.out_width 0 = 0 := by
    unfold yu12Chroma
    omega
  -- a first sample in the place of the first second one
  obtain ⟨i, j, hi, hj, hij⟩ : ∃ i j, i ≤ (call.out_height - 1) / 2 ∧
      j ≤ (call.out_width - 1) / 2 ∧
      i * (call.out_width / 2) + j = call.out_width * call.out_height / 2 ^ 2 := by
    obtain ⟨i, hi, j, hj, hij⟩ := @exists_cell (call.out_width / 2) ((call.out_height - 1) / 2)
      ((call.out_width - 1) / 2) (call.out_width * call.out_height / 2 ^ 2) (by omega) (by omega)
      (by omega)
    exact ⟨i, j, hi, hj, hij⟩
  set place := chromaCell call.planes.v call.planes.vStride call.planes.dv call.resize 0 0
    with hplace
  set src : Buffer := fun k => if k = place then 255#8 else 0#8 with hsrc
  have hV : call.scaledV src 0 0 = 255 := by
    rw [JpegParams.scaledV, blendAt_chroma, call.hPos_zero, call.wPos_zero, chromaPosition_zero,
      Bilinear.bilinear_row (by decide)]
    simp [← hplace, hsrc]
  have hU : ∀ r < call.out_height, ∀ c < call.out_width, call.scaledU src r c ≠ 255 := by
    intro r hr c hc hbright
    rw [JpegParams.scaledU, blendAt_chroma] at hbright
    have hself := Bilinear.bilinear_eq_top (by decide)
      (fun y x => Nat.le_of_lt_succ (BitVec.isLt _)) hbright
    have hzero : src (chromaCell call.planes.u call.planes.uStride call.planes.du call.resize
        (chromaPosition (call.hPos r) / 128) (chromaPosition (call.wPos c) / 128)) = 0#8 :=
      if_neg (chromaCell_lt hacc hfmt hr hc).ne
    rw [hzero] at hself
    exact absurd hself (by decide)
  have hstored := h src fun _ => 0#8
  rw [hV, (hat 0 0).2, hfirst, Nat.add_zero] at hstored
  obtain ⟨r, c, v, hr, hc, hlater, hv, heq⟩ := storeAll_planarStores_later call.outPlanes
    call.planes call.resize src (fun _ => 0#8) call.wStep call.hStep (r := 0) (c := 0)
    (k := call.out_width * call.out_height + call.out_width * call.out_height / 2 ^ 2)
    (show 0 < call.out_height by omega) (show 0 < call.out_width by omega)
    ⟨2 * i, 2 * j, by omega, show 2 * j < call.out_width by omega, by
      rcases Nat.eq_zero_or_pos i with rfl | hpos
      · exact Or.inr ⟨rfl, by omega⟩
      · exact Or.inl (by omega), _, JpegParams.mem_storesAt.mpr (Or.inr ⟨⟨by omega, by omega⟩,
        Or.inl ⟨by rw [(hplaces _ _).1]; simp [hij], rfl⟩⟩)⟩
  rcases JpegParams.mem_storesAt.mp hv with ⟨hk, -⟩ | ⟨⟨hr2, hc2⟩, ⟨-, rfl⟩ | ⟨hk, -⟩⟩
  · have := JpegParams.place_lt hr hc
    omega
  · exact hU r hr c hc (byte_inj (scaledChroma_lt _ _ _ _).1 (by decide) (heq.symm.trans hstored))
  · rw [(hplaces _ _).2] at hk
    have hzero : r / 2 * (call.out_width / 2) = 0 := by omega
    have hrow := (Nat.mul_eq_zero.mp hzero).resolve_right (by omega)
    omega

/-- What has to be in one place in every image, for the samples of a planar image. -/
lemma yu12Samples_of_chroma (hacc : Accepted call)
    (hfmt : call.format = .CAMERA_FRAME_FORMAT_YUV420P)
    (h : ∀ src fresh, ∀ r < call.out_height, ∀ c < call.out_width,
      storeAll (call.stores src) fresh (call.uAt r c) =
          byte (call.scaledU src (r / 2 * 2) (c / 2 * 2)) ∧
        storeAll (call.stores src) fresh (call.vAt r c) =
          byte (call.scaledV src (r / 2 * 2) (c / 2 * 2))) : call.Yu12Samples := by
  obtain ⟨hw, hh⟩ := hacc.out
  obtain ⟨-, hat⟩ := yu12_places hfmt
  obtain ⟨hcropW, hcropH⟩ := hacc.crop
  have hcropX := call.crop_x
  have hd : 0 < call.planes.du := by
    rw [JpegParams.planes, hfmt]
    exact Nat.one_pos
  have hstride : 0 < call.planes.uStride := by
    simp only [JpegParams.planes, hfmt, RGBOrYUV.planar]
    omega
  -- pixels that read one place have the same first sample
  have hsame : ∀ {r r' c c'}, r < call.out_height → r' < call.out_height → c < call.out_width →
      c' < call.out_width → yu12Chroma call.out_width c = yu12Chroma call.out_width c' →
      ∀ src, call.scaledU src (r / 2 * 2) (c / 2 * 2) =
        call.scaledU src (r' / 2 * 2) (c' / 2 * 2) := by
    intro r r' c c' hr hr' hc hc' hplace src
    have hfirst := (h src (fun _ => 0#8) r hr c hc).1
    have hsecond := (h src (fun _ => 0#8) r' hr' c' hc').1
    rw [(hat _ _).1, hplace, ← (hat r' _).1, hsecond] at hfirst
    exact byte_inj (scaledChroma_lt _ _ _ _).1 (scaledChroma_lt _ _ _ _).1 hfirst.symm
  refine ⟨?_, ?_, ?_⟩
  · exact apart_of_chroma hacc hfmt fun src fresh => (h src fresh 0 (by omega) 0 (by omega)).2
  · refine row_eq_of_forall hstride fun src => ?_
    have hrow : (call.out_height - 1) / 2 * 2 / 2 * 2 = (call.out_height - 1) / 2 * 2 := by omega
    have hfirst := @hsame 0 ((call.out_height - 1) / 2 * 2) 0 0 (by omega) (by omega) (by omega)
      (by omega) rfl src
    rwa [hrow] at hfirst
  · by_cases heven : call.out_width % 2 = 0
    · exact Or.inl heven
    · -- an odd column reads the sample of the next pair
      refine Or.inr ?_
      have hpairs : ∀ j, 2 * j < call.out_width → chromaPosition (call.wPos (2 * j)) = 0 := by
        intro j
        induction j with
        | zero => simp
        | succ j ih =>
          intro hj
          rw [← ih (by omega)]
          refine (column_eq_of_forall hd (by omega) hj fun src => ?_).symm
          have hplace : yu12Chroma call.out_width (2 * j + 1) =
              yu12Chroma call.out_width (2 * (j + 1)) := by
            unfold yu12Chroma
            omega
          have hnext := @hsame 0 0 (2 * j + 1) (2 * (j + 1)) (by omega) (by omega) (by omega) hj
            hplace src
          rwa [show 0 / 2 * 2 = 0 from rfl, show (2 * j + 1) / 2 * 2 = 2 * j by omega,
            show 2 * (j + 1) / 2 * 2 = 2 * (j + 1) by omega] at hnext
      have hlast := hpairs ((call.out_width - 1) / 2) (by omega)
      rwa [show 2 * ((call.out_width - 1) / 2) = call.out_width - 1 by omega] at hlast

/-- The chroma of a planar image is stored where it is read, if the samples are as they should
be. -/
lemma chroma_of_yu12Samples (hacc : Accepted call)
    (hfmt : call.format = .CAMERA_FRAME_FORMAT_YUV420P) (hsamples : call.Yu12Samples)
    (src fresh : Buffer) {r c : ℕ} (hr : r < call.out_height) (hc : c < call.out_width) :
    storeAll (call.stores src) fresh (call.uAt r c) =
        byte (call.scaledU src (r / 2 * 2) (c / 2 * 2)) ∧
      storeAll (call.stores src) fresh (call.vAt r c) =
        byte (call.scaledV src (r / 2 * 2) (c / 2 * 2)) := by
  obtain ⟨hw, hh⟩ := hacc.out
  obtain ⟨hplaces, hat⟩ := yu12_places hfmt
  obtain ⟨hapart, hrows, hcolumns⟩ := hsamples
  have hrow : ∀ r < call.out_height, r % 2 = 0 → chromaPosition (call.hPos r) = 0 := by
    intro r hr hr2
    refine Nat.le_zero.mp (le_trans (chromaPosition_mono ?_) hrows.le)
    exact JpegParams.hPos_mono (by omega) (by omega)
  have hrowpos : ∀ r' < call.out_height, r' % 2 = 0 →
      chromaPosition (call.hPos r') = chromaPosition (call.hPos (r / 2 * 2)) := fun r' hr' hr2 => by
    rw [hrow r' hr' hr2, hrow _ (by omega) (by omega)]
  -- a sample in the place of the column's chroma has the chroma of the pixel's pair
  have hcolpos : ∀ r' c', c' < call.out_width → c' % 2 = 0 →
      r' / 2 * (call.out_width / 2) + c' / 2 = yu12Chroma call.out_width c →
      chromaPosition (call.wPos c') = chromaPosition (call.wPos (c / 2 * 2)) := by
    intro r' c' hc' hc2 hplace
    rcases hcolumns with heven | hzero
    · have hchroma : yu12Chroma call.out_width c = c / 2 := by
        unfold yu12Chroma
        omega
      rcases Nat.eq_zero_or_pos (r' / 2) with hfirst | hlater
      · rw [hfirst] at hplace
        rw [show c' = c / 2 * 2 by omega]
      · have := Nat.mul_le_mul_right (call.out_width / 2) hlater
        omega
    · have hall : ∀ c < call.out_width, chromaPosition (call.wPos c) = 0 := fun c hc =>
        Nat.le_zero.mp (le_trans (chromaPosition_mono
          (JpegParams.wPos_mono (show c ≤ call.out_width - 1 by omega) (by omega))) hzero.le)
      rw [hall c' hc', hall _ (by omega)]
  have hlt : yu12Chroma call.out_width c < (call.out_width + 1) / 2 := by
    unfold yu12Chroma
    omega
  have hcolumn : 2 * yu12Chroma call.out_width c < call.out_width := by omega
  have hfirst : 0 / 2 * (call.out_width / 2) + 2 * yu12Chroma call.out_width c / 2 =
      yu12Chroma call.out_width c := by omega
  rw [(hat r c).1, (hat r c).2]
  constructor
  · refine JpegParams.storeAll_chroma (by omega)
      ⟨0, by omega, _, hcolumn, rfl, by omega, Or.inl ?_⟩ ?_ ?_
    · rw [(hplaces _ _).1, hfirst]
    · intro r' hr' c' hc' hr2 hc2 hk
      rw [(hplaces _ _).1] at hk
      exact congrArg byte (scaledU_congr (hrowpos r' hr' hr2)
        (hcolpos r' c' hc' hc2 (by omega)))
    · intro r' hr' c' hc' hr2 hc2 hk
      rw [(hplaces _ _).2] at hk
      omega
  · refine JpegParams.storeAll_chroma (by omega)
      ⟨0, by omega, _, hcolumn, rfl, by omega, Or.inr ?_⟩ ?_ ?_
    · rw [(hplaces _ _).2, hfirst]
    · intro r' hr' c' hc' hr2 hc2 hk
      rw [(hplaces _ _).1] at hk
      have hle := Nat.mul_le_mul_right (call.out_width / 2)
        (show r' / 2 ≤ (call.out_height - 1) / 2 by omega)
      omega
    · intro r' hr' c' hc' hr2 hc2 hk
      rw [(hplaces _ _).2] at hk
      exact congrArg byte (scaledV_congr (hrowpos r' hr' hr2)
        (hcolpos r' c' hc' hc2 (by omega)))

/-- **When a scaled planar image is encoded.** -/
theorem encodes_scaled_yu12 (hacc : Accepted call) (hscaled : call.Scaled)
    (halloc : call.resize_src = true) (htmp : call.row_tmp = true)
    (hfmt : call.format = .CAMERA_FRAME_FORMAT_YUV420P) :
    Encodes call ↔ call.start_offset = 0 ∧
      (call.vAt (call.out_height - 1) (call.out_width - 1) < call.dst_size ∧
        call.lastSource < call.imageSize) ∧ call.Yu12Samples := by
  rw [encodes_scaled_iff hacc (Or.inr hfmt) hscaled halloc htmp]
  refine and_congr_right fun _ => and_congr_right fun _ => ?_
  exact ⟨yu12Samples_of_chroma hacc hfmt, fun hsamples src fresh r hr c hc =>
    chroma_of_yu12Samples hacc hfmt hsamples src fresh hr hc⟩

end CameraHal
