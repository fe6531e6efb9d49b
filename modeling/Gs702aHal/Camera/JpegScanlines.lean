import Gs702aHal.Camera.JpegEncodes

set_option relaxedAutoImplicit false
set_option autoImplicit false

/-!
# The chroma of the scanlines

For each row of a 4:2:0 image the JPEG library is given the luma of the row, with the chroma that it
shares with a second row. The loop of `encode` moves its chroma pointers on after each second row.
For `YUV420P` it never does: the branch for that tests for `YUV420SP` once more. In a semi-planar
row, the conversion leaves the chroma pointer where it is behind the last block of 16 columns.

## Main definitions

* `CameraHal.JpegCall.image` — the buffer that the rows are taken from.
* `CameraHal.PassesTriples` — each row holds its luma with the chroma that belongs to it.
* `CameraHal.ChromaAdvances` — the chroma pointers are at the chroma of the row.
* `CameraHal.JpegParams.ChromaRepeats` — the chroma that is mixed up is the same.

## Main results

* `CameraHal.chromaAdvances_iff` — when the chroma pointers are where they should be.
* `CameraHal.passesTriples_iff` — when the rows hold what they should.
-/

namespace CameraHal

open StoreLog Blocks

/-- The buffer that the rows are taken from. -/
def JpegCall.image (call : JpegCall) (src fresh : Buffer) : Option Buffer :=
  if call.Scaled ∧ call.resize_src = true then call.resizer src fresh else some src

/-- The luma of a pixel, and the chroma of the block of two rows and columns that it is in. -/
def JpegParams.triple (p : JpegParams) (m : Buffer) (r c : ℕ) : List Byte :=
  [m (p.yAt r c), m (p.uPlace (r / 2) (c / 2)), m (p.vPlace (r / 2) (c / 2))]

/-- A call passes rows that hold these three bytes for each column; `m` is the image. -/
def PassesTriples (call : JpegCall) (src fresh m : Buffer) : Prop :=
  ∃ e, encode call src fresh = some e ∧ e.scanlines =
    (List.range call.out_height).map fun r => some (concat call.out_width (call.triple m r))

/-- Before each row, the chroma pointers of the format are at the chroma that belongs to it. -/
structure ChromaAdvances (call : JpegCall) (m : Buffer) : Prop where
  semiPlanar : call.format = .CAMERA_FRAME_FORMAT_YUV420SP → ∀ r < call.out_height,
    (scanlineAt call m r).row_uv = call.uPlace (r / 2) 0
  planar : call.format = .CAMERA_FRAME_FORMAT_YUV420P → ∀ r < call.out_height,
    (scanlineAt call m r).row_u = call.uPlace (r / 2) 0 ∧
      (scanlineAt call m r).row_v = call.vPlace (r / 2) 0

/-- In a semi-planar image, the pairs behind the last block of 16 columns have the chroma of the
first of them. In a planar image, all chroma rows are the same. -/
structure JpegParams.ChromaRepeats (p : JpegParams) (m : Buffer) : Prop where
  semiPlanar : p.format = .CAMERA_FRAME_FORMAT_YUV420SP → ∀ r < p.out_height, ∀ c < p.out_width,
    p.out_width / 16 * 16 ≤ c →
      m (p.uPlace (r / 2) (c / 2)) = m (p.uPlace (r / 2) (p.out_width / 16 * 8)) ∧
        m (p.vPlace (r / 2) (c / 2)) = m (p.vPlace (r / 2) (p.out_width / 16 * 8))
  planar : p.format = .CAMERA_FRAME_FORMAT_YUV420P → ∀ r < p.out_height, ∀ c < p.out_width,
    m (p.uPlace (r / 2) (c / 2)) = m (p.uPlace 0 (c / 2)) ∧
      m (p.vPlace (r / 2) (c / 2)) = m (p.vPlace 0 (c / 2))

variable {call : JpegCall}

/-! ### The pointers -/

/-- The chroma pointers are right exactly if they need not be moved or the format is `YUV420SP`. -/
lemma chromaAdvances_iff (hacc : Accepted call) (hplanar : call.Planar) (m : Buffer) :
    ChromaAdvances call m ↔
      call.format = .CAMERA_FRAME_FORMAT_YUV420SP ∨ call.out_height ≤ 2 := by
  obtain ⟨hw, -⟩ := hacc.out
  have hbpp : call.bpp = 1 := JpegParams.bpp_planar hplanar
  constructor
  · intro h
    rcases hplanar with hfmt | hfmt
    · exact Or.inl hfmt
    · refine Or.inr (not_lt.mp fun hlt => ?_)
      have hu := (h.planar hfmt 2 hlt).1
      rw [(scanlineAt_chroma call m 2).2.1, (yu12_places hfmt).1 _ _ |>.1] at hu
      simp only [scanlineAt, forLoop, hbpp, Nat.mul_one] at hu
      omega
  · intro h
    refine ⟨fun hfmt r hr => ?_, fun hfmt r hr => ?_⟩
    · rw [(scanlineAt_chroma call m r).1 hfmt, ((nv12_places hfmt).1 _ _).1, hbpp, Nat.mul_one,
        Nat.mul_one]
      rfl
    · have hrow : r / 2 = 0 := by
        have hne : call.format ≠ .CAMERA_FRAME_FORMAT_YUV420SP := by
          rw [hfmt]
          decide
        have := h.resolve_left hne
        omega
      rw [(scanlineAt_chroma call m r).2.1, (scanlineAt_chroma call m r).2.2, hrow,
        ((yu12_places hfmt).1 0 0).1, ((yu12_places hfmt).1 0 0).2]
      simp [scanlineAt, forLoop, hbpp]

/-! ### The rows -/

/-- The pair that a column of a semi-planar row is read from: behind the blocks, the first one. -/
lemma at_nv12 (hfmt : call.format = .CAMERA_FRAME_FORMAT_YUV420SP) (hw : call.out_width % 2 = 0)
    (r c : ℕ) :
    call.uAt r c = call.uPlace (r / 2)
        (if c < call.out_width / 16 * 16 then c / 2 else call.out_width / 16 * 8) ∧
      call.vAt r c = call.vPlace (r / 2)
        (if c < call.out_width / 16 * 16 then c / 2 else call.out_width / 16 * 8) := by
  obtain ⟨hplaces, hat⟩ := nv12_places hfmt
  have hodd : ¬ call.out_width % 2 = 1 := by omega
  rw [(hat r c).1, (hat r c).2, (hplaces _ _).1, (hplaces _ _).2, nv12Chroma, if_neg hodd]
  split_ifs <;> omega

/-- The pair that a column of a planar row is read from: in the first chroma row. -/
lemma at_yu12 (hfmt : call.format = .CAMERA_FRAME_FORMAT_YUV420P) (hw : call.out_width % 2 = 0)
    (r c : ℕ) : call.uAt r c = call.uPlace 0 (c / 2) ∧ call.vAt r c = call.vPlace 0 (c / 2) := by
  obtain ⟨hplaces, hat⟩ := yu12_places hfmt
  rw [(hat r c).1, (hat r c).2, (hplaces _ _).1, (hplaces _ _).2, yu12Chroma, hw]
  omega

/-- The chroma that is passed is that of the triples exactly if the chroma that is mixed up is the
same. -/
lemma chroma_eq_iff (hplanar : call.Planar) (hw : call.out_width % 2 = 0) (m : Buffer) :
    (∀ r < call.out_height, ∀ c < call.out_width,
      m (call.uAt r c) = m (call.uPlace (r / 2) (c / 2)) ∧
        m (call.vAt r c) = m (call.vPlace (r / 2) (c / 2))) ↔ call.ChromaRepeats m := by
  rcases hplanar with hfmt | hfmt
  · have hat := at_nv12 hfmt hw
    constructor
    · intro h
      refine ⟨fun _ r hr c hc hle => ?_, fun hne => absurd (hfmt.symm.trans hne) (by decide)⟩
      have hrc := h r hr c hc
      rw [(hat r c).1, (hat r c).2, if_neg (not_lt.mpr hle)] at hrc
      exact ⟨hrc.1.symm, hrc.2.symm⟩
    · intro h r hr c hc
      rw [(hat r c).1, (hat r c).2]
      split_ifs with hlt
      · exact ⟨rfl, rfl⟩
      · obtain ⟨hu, hv⟩ := h.semiPlanar hfmt r hr c hc (not_lt.mp hlt)
        exact ⟨hu.symm, hv.symm⟩
  · have hat := at_yu12 hfmt hw
    constructor
    · intro h
      refine ⟨fun hne => absurd (hfmt.symm.trans hne) (by decide), fun _ r hr c hc => ?_⟩
      have hrc := h r hr c hc
      rw [(hat r c).1, (hat r c).2] at hrc
      exact ⟨hrc.1.symm, hrc.2.symm⟩
    · intro h r hr c hc
      obtain ⟨hu, hv⟩ := h.planar hfmt r hr c hc
      rw [(hat r c).1, (hat r c).2]
      exact ⟨hu.symm, hv.symm⟩

/-- The image of a call that is accepted, and what is encoded. -/
lemma image_of_accepted (hacc : Accepted call) (hplanar : call.Planar) (src fresh : Buffer) :
    ∃ m e, call.image src fresh = some m ∧ encode call src fresh = some e ∧
      e.scanlines = (encodeRows call m).scanlines := by
  rw [JpegCall.image, encode, if_neg hacc.passes]
  split_ifs with hresized
  · rw [resizer_planar hacc hplanar hresized.1]
    exact ⟨_, _, rfl, rfl, rfl⟩
  · exact ⟨_, _, rfl, rfl, rfl⟩

/-- A call that has the buffer of a row passes the triples exactly if each chroma sample is that of
its place. -/
lemma passesTriples_of_row_tmp (hacc : Accepted call) (hplanar : call.Planar)
    (htmp : call.row_tmp = true) {src fresh m : Buffer} (himage : call.image src fresh = some m) :
    PassesTriples call src fresh m ↔ ∀ r < call.out_height, ∀ c < call.out_width,
      m (call.uAt r c) = m (call.uPlace (r / 2) (c / 2)) ∧
        m (call.vAt r c) = m (call.vPlace (r / 2) (c / 2)) := by
  obtain ⟨m', e, himage', hencode, hlines⟩ := image_of_accepted hacc hplanar src fresh
  obtain rfl := Option.some.inj (himage.symm.trans himage')
  have hpasses : PassesTriples call src fresh m ↔ (encodeRows call m).scanlines =
      (List.range call.out_height).map fun r => some (concat call.out_width (call.triple m r)) := by
    constructor
    · rintro ⟨e', he', hlines'⟩
      obtain rfl := Option.some.inj (hencode.symm.trans he')
      rw [← hlines, hlines']
    · exact fun h => ⟨e, hencode, hlines.trans h⟩
  rw [hpasses, (encodeRows_spec hacc.2 (Or.inl htmp) m).1, lines_eq_iff (call.length_rowPixel m)
    fun r c => rfl]
  simp only [rowPixel_planar hplanar, JpegParams.triple, List.cons.injEq, true_and, and_true]

/-- A call without the buffer of a row passes `NULL`. -/
lemma not_passesTriples_of_row_tmp (hacc : Accepted call) (hplanar : call.Planar)
    (htmp : call.row_tmp = false) {src fresh m : Buffer} (himage : call.image src fresh = some m) :
    ¬ PassesTriples call src fresh m := by
  obtain ⟨m', e, himage', hencode, hlines⟩ := image_of_accepted hacc hplanar src fresh
  obtain rfl := Option.some.inj (himage.symm.trans himage')
  rintro ⟨e', he', hlines'⟩
  obtain rfl := Option.some.inj (hencode.symm.trans he')
  have hpairs : call.format ≠ .CAMERA_FRAME_FORMAT_YUV422I := by
    rcases hplanar with hfmt | hfmt <;> simp [hfmt]
  exact encodeRows_ne_lines hacc htmp hpairs m _ (hlines.symm.trans hlines')

/-- **The rows hold their luma with the chroma that belongs to it exactly if** they can be
converted, and the chroma that is mixed up is the same in the image. The chroma pointers are where
they should be exactly if the format is `YUV420SP`, or there are no more than two rows.

**Proof sketch.** The rows that are passed are known pixel by pixel; only the places of the chroma
differ from those of the triples. Without the buffer of a row, `NULL` is passed. -/
theorem passesTriples_iff (hacc : Accepted call) (hplanar : call.Planar)
    (hw : call.out_width % 2 = 0) (src fresh : Buffer) :
    ∃ m, call.image src fresh = some m ∧
      (PassesTriples call src fresh m ↔ call.row_tmp = true ∧ call.ChromaRepeats m) ∧
      (ChromaAdvances call m ↔
        call.format = .CAMERA_FRAME_FORMAT_YUV420SP ∨ call.out_height ≤ 2) := by
  obtain ⟨m, -, himage, -⟩ := image_of_accepted hacc hplanar src fresh
  refine ⟨m, himage, ?_, chromaAdvances_iff hacc hplanar m⟩
  cases htmp : call.row_tmp with
  | false =>
    exact iff_of_false (not_passesTriples_of_row_tmp hacc hplanar htmp himage)
      fun h => absurd h.1 (by decide)
  | true =>
    rw [passesTriples_of_row_tmp hacc hplanar htmp himage, chroma_eq_iff hplanar hw]
    exact ⟨fun h => ⟨rfl, h⟩, fun h => h.2⟩

/-- A semi-planar image that is scaled to 320 by 240 pixels. -/
theorem passesTriples_iff_320 :
    ∃ m, (wholeCall .CAMERA_FRAME_FORMAT_YUV420SP 320 240 (by decide) (by decide)).image
        (fun _ => 0#8) (fun _ => 0#8) = some m ∧
      (PassesTriples (wholeCall .CAMERA_FRAME_FORMAT_YUV420SP 320 240 (by decide) (by decide))
          (fun _ => 0#8) (fun _ => 0#8) m ↔
        (wholeCall .CAMERA_FRAME_FORMAT_YUV420SP 320 240 (by decide) (by decide)).row_tmp = true ∧
          (wholeCall .CAMERA_FRAME_FORMAT_YUV420SP 320 240 (by decide)
            (by decide)).ChromaRepeats m) ∧
      (ChromaAdvances (wholeCall .CAMERA_FRAME_FORMAT_YUV420SP 320 240 (by decide) (by decide)) m ↔
        (wholeCall .CAMERA_FRAME_FORMAT_YUV420SP 320 240 (by decide) (by decide)).format =
            .CAMERA_FRAME_FORMAT_YUV420SP ∨
          (wholeCall .CAMERA_FRAME_FORMAT_YUV420SP 320 240 (by decide) (by decide)).out_height ≤
            2) :=
  passesTriples_iff ⟨by decide, by decide⟩ (Or.inl rfl) (by decide) _ _

/-- The third row of a planar image is passed with the chroma of the first one. -/
theorem not_passesTriples_planarCall :
    Accepted planarCall ∧
      planarCall.image (fun k => if k = 307520 then 1#8 else 0#8) (fun _ => 0#8) =
        some (fun k => if k = 307520 then 1#8 else 0#8) ∧
      ¬ PassesTriples planarCall (fun k => if k = 307520 then 1#8 else 0#8) (fun _ => 0#8)
        (fun k => if k = 307520 then 1#8 else 0#8) := by
  have hacc : Accepted planarCall := ⟨by decide, by decide⟩
  have himage (src : Buffer) : planarCall.image src (fun _ => 0#8) = some src := if_neg (by decide)
  refine ⟨hacc, himage _, fun h => ?_⟩
  have hchroma := (passesTriples_of_row_tmp hacc (Or.inr rfl) rfl (himage _)).mp h
  have hthird := (hchroma 2 (by decide) 0 (by decide)).1
  exact absurd hthird (by decide)

end CameraHal
