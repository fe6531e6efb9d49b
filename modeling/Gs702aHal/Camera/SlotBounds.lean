import Gs702aHal.Camera.FrameLayout
import Gs702aHal.Camera.PreviewRing

set_option relaxedAutoImplicit false
set_option autoImplicit false

/-!
# The slots of the preview memory

`startPreviewCallbacks` requests one memory for all preview and recording frames and divides it into
slots of equal size; `resizeRawFrame` requests a memory for each picture. A 4:2:0 frame is written
into its slot by `cameraFrameToNV21YV12_OA` or by the scaler of its format, with rows that are
aligned to 16 bytes.

## Main definitions

* `CameraHal.previewSize`, `CameraHal.mPreviewMemoryBufs` — the size and the start of a slot.
* `CameraHal.Writer` — the functions that write a 4:2:0 frame.
* `CameraHal.KeepsToSlot` — none of them writes outside of the slot.

## Main results

* `CameraHal.keepsToSlot_iff` — a frame is written inside of its slot, unless it is semi-planar with
  rows of no columns.
-/

namespace CameraHal

/-! ### The memory -/

/-- The size of a slot, as `startPreviewCallbacks` computes it for the preview format. -/
def previewSize (mPreviewPixelFormat : FrameFormat) (w h : ℕ) : ℕ :=
  match mPreviewPixelFormat with
  | .CAMERA_FRAME_FORMAT_YUV422I => w * h * 2
  | .CAMERA_FRAME_FORMAT_YUV420SP => ALIGN16 w * h + ALIGN16 w * (h / 2)
  | .CAMERA_FRAME_FORMAT_YUV420P => ALIGN16 w * h + ALIGN16 (w / 2) * h
  | .CAMERA_FRAME_FORMAT_RGB565 => w * h * 2
  | .CAMERA_FRAME_FORMAT_JPEG | .CAMERA_FRAME_FORMAT_PNG => 0

/-- The number of slots, with `USE_PREVIEWBUF_AS_VIDEOBUF`. -/
def copyBufCount (count : ℕ) : ℕ :=
  if count < PREVIEW_COPY_BUFFERS then PREVIEW_COPY_BUFFERS else count

/-- Where a slot starts in the data of `mPreviewMemory`. The slots of recording frames,
`mVideoBufs`, are the first ones of these. -/
def mPreviewMemoryBufs (size i : ℕ) : ℕ := i * size

/-- The functions that write a frame into a memory. -/
inductive Writer
  | cameraFrameToNV21YV12_OA (src_len : ℕ) (forvce : Bool)
  | cameraFrameResize

/-- What a function makes of a frame, its source and its destination. -/
def Writer.call (f : SizedFrame) (src : Buffer) : Writer → Buffer → Option (Bool × Buffer)
  | .cameraFrameToNV21YV12_OA src_len forvce =>
    CameraHal.cameraFrameToNV21YV12_OA f src_len forvce src
  | .cameraFrameResize => CameraHal.cameraFrameResize f src

/-- A call whose destination starts at a place of a memory. -/
def callAt (base : ℕ) (call : Buffer → Option (Bool × Buffer)) (memory : Buffer) : Option Buffer :=
  (call fun k => memory (base + k)).map fun r k => if base ≤ k then r.2 (k - base) else memory k

/-- The frame keeps to its memory: each function returns and writes only inside of the slot, and so
of the whole memory, or inside of the memory of a picture. -/
structure KeepsToSlot (f : SizedFrame) : Prop where
  slot : ∀ (writer : Writer) (src memory : Buffer) (count i : ℕ), i < copyBufCount count →
    let size := previewSize f.mFormat f.mEncodeWidth f.mEncodeHeight
    ∃ memory', callAt (mPreviewMemoryBufs size i) (writer.call f src) memory = some memory' ∧
      ∀ k, memory' k ≠ memory k → mPreviewMemoryBufs size i ≤ k ∧
        k < mPreviewMemoryBufs size (i + 1) ∧ k < copyBufCount count * size
  picture : ∀ (writer : Writer) (src memory : Buffer),
    ∃ memory', callAt 0 (writer.call f src) memory = some memory' ∧
      ∀ k, memory' k ≠ memory k → k < destSize f

/-! ### Writing below a bound -/

/-- The slots of 4:2:0 frames are as long as the memory of a picture. -/
lemma previewSize_eq_destSize {f : SizedFrame}
    (hfmt : f.mFormat = .CAMERA_FRAME_FORMAT_YUV420P ∨ f.mFormat = .CAMERA_FRAME_FORMAT_YUV420SP) :
    previewSize f.mFormat f.mEncodeWidth f.mEncodeHeight = destSize f := by
  rcases hfmt with hfmt | hfmt <;> simp only [previewSize, destSize, hfmt]

/-- A call returns, and writes below a bound. -/
def Below (size : ℕ) (call : Buffer → Option (Bool × Buffer)) : Prop :=
  ∀ dst, ∃ r, call dst = some r ∧ ∀ k, size ≤ k → r.2 k = dst k

/-- A call that writes below a bound changes an interval of a memory. -/
lemma Below.callAt {size : ℕ} {call : Buffer → Option (Bool × Buffer)} (h : Below size call)
    (base : ℕ) (memory : Buffer) :
    ∃ memory', callAt base call memory = some memory' ∧
      ∀ k, memory' k ≠ memory k → base ≤ k ∧ k < base + size := by
  obtain ⟨r, hcall, hkept⟩ := h fun k => memory (base + k)
  refine ⟨_, congrArg (Option.map _) hcall, fun k hne => ?_⟩
  by_cases hbase : base ≤ k
  · refine ⟨hbase, ?_⟩
    by_contra hlt
    refine hne ?_
    simp only
    rw [if_pos hbase, hkept (k - base) (by omega), Nat.add_sub_cancel' hbase]
  · refine absurd ?_ hne
    simp only
    rw [if_neg hbase]

/-- **The frame keeps to its memory exactly if all functions write below the size of a picture.** -/
lemma keepsToSlot_iff_below {f : SizedFrame}
    (hfmt : f.mFormat = .CAMERA_FRAME_FORMAT_YUV420P ∨ f.mFormat = .CAMERA_FRAME_FORMAT_YUV420SP) :
    KeepsToSlot f ↔ ∀ (writer : Writer) (src : Buffer), Below (destSize f) (writer.call f src) := by
  constructor
  · intro h writer src dst
    obtain ⟨out, hcall, hkept⟩ := h.picture writer src dst
    simp only [callAt, Nat.zero_add, Nat.zero_le, if_true, Nat.sub_zero,
      Option.map_eq_some_iff] at hcall
    obtain ⟨r, hr, rfl⟩ := hcall
    refine ⟨r, hr, fun k hk => ?_⟩
    by_contra hne
    exact absurd (hkept k hne) (not_lt.mpr hk)
  · intro h
    refine ⟨fun writer src memory count i hi => ?_, fun writer src memory => ?_⟩
    · simp only [previewSize_eq_destSize hfmt, mPreviewMemoryBufs]
      obtain ⟨memory', hcall, hkept⟩ := (h writer src).callAt (i * destSize f) memory
      refine ⟨memory', hcall, fun k hne => ?_⟩
      obtain ⟨hle, hlt⟩ := hkept k hne
      have hend : (i + 1) * destSize f ≤ copyBufCount count * destSize f :=
        Nat.mul_le_mul_right _ hi
      rw [Nat.add_one_mul i] at hend ⊢
      exact ⟨hle, hlt, hlt.trans_le hend⟩
    · obtain ⟨memory', hcall, hkept⟩ := (h writer src).callAt 0 memory
      refine ⟨memory', hcall, fun k hne => ?_⟩
      have hlt := (hkept k hne).2
      omega

/-- A call that fills planes below a bound writes below it. -/
lemma below_of_fillAll {size : ℕ} {call : Buffer → Option (Bool × Buffer)}
    (h : ∀ dst, ∃ planes, call dst = some (true, Plane.fillAll planes dst) ∧
      ∀ p ∈ planes, ∀ k, p.1.Has k → k < size) : Below size call := by
  intro dst
  obtain ⟨planes, hcall, hplanes⟩ := h dst
  refine ⟨_, hcall, fun k hk => ?_⟩
  apply Plane.fillAll_of_not_has
  intro p hp hhas
  exact absurd (hplanes p hp k hhas) (not_lt.mpr hk)

/-! ### The functions -/

/-- The luma lies inside of the destination. -/
lemma lt_destSize_luma {f : SizedFrame}
    (hfmt : f.mFormat = .CAMERA_FRAME_FORMAT_YUV420P ∨ f.mFormat = .CAMERA_FRAME_FORMAT_YUV420SP)
    {k : ℕ} (hk : Plane.Has ⟨0, ALIGN16 f.mEncodeWidth, 1, f.mEncodeHeight, f.mEncodeWidth⟩ k) :
    k < destSize f := by
  have hend := Plane.lt_of_has (fits_luma _ _) hk
  have hcomm := Nat.mul_comm f.mEncodeHeight (ALIGN16 f.mEncodeWidth)
  rcases hfmt with hfmt | hfmt <;> rw [destSize, hfmt] <;> simp only at hend ⊢ <;> omega

/-- A chroma plane of a planar frame that starts at the `u` plane of the layout or before lies
inside of the destination. -/
lemma lt_destSize_chroma {f : SizedFrame} (hfmt : f.mFormat = .CAMERA_FRAME_FORMAT_YUV420P)
    {base k : ℕ} (hbase : base ≤ ALIGN16 f.mEncodeWidth * f.mEncodeHeight +
      ALIGN16 (f.mEncodeWidth / 2) * (f.mEncodeHeight / 2))
    (hk : (chromaPlane f base).Has k) : k < destSize f := by
  have hend := Plane.lt_of_has (fits_planar _ _ _) hk
  have hcomm := Nat.mul_comm (ALIGN16 (f.mEncodeWidth / 2)) (f.mEncodeHeight / 2)
  have hhalf := Nat.mul_le_mul_left (ALIGN16 (f.mEncodeWidth / 2))
    (show f.mEncodeHeight / 2 * 2 ≤ f.mEncodeHeight by omega)
  rw [← Nat.mul_assoc] at hhalf
  rw [destSize, hfmt]
  simp only at hend ⊢
  omega

/-- The places of the camera's chroma planes are not behind those of the layout. -/
lemma chroma_le {w h : ℕ} (hw : w % 2 = 0) (hh : h % 2 = 0) :
    w * h + w * h / 2 ^ 2 ≤ ALIGN16 w * h + ALIGN16 (w / 2) * (h / 2) := by
  obtain ⟨a, rfl⟩ : ∃ a, w = 2 * a := ⟨w / 2, by omega⟩
  obtain ⟨b, rfl⟩ : ∃ b, h = 2 * b := ⟨h / 2, by omega⟩
  rw [Nat.mul_div_cancel_left a Nat.two_pos, Nat.mul_div_cancel_left b Nat.two_pos,
    show 2 * a * (2 * b) / 2 ^ 2 = a * b by
      rw [show 2 * a * (2 * b) = a * b * 2 ^ 2 by ring]
      exact Nat.mul_div_cancel _ (by decide)]
  exact Nat.add_le_add (Nat.mul_le_mul_right _ (le_ALIGN16 _))
    (Nat.mul_le_mul_right _ (le_ALIGN16 _))

/-- A planar frame is copied into its slot. -/
lemma below_toYV12 {f : SizedFrame} (hfmt : f.mFormat = .CAMERA_FRAME_FORMAT_YUV420P)
    (hw : f.mEncodeWidth % 2 = 0) (hh : f.mEncodeHeight % 2 = 0) (src_len : ℕ) (forvce : Bool)
    (src : Buffer) : Below (destSize f) (cameraFrameToNV21YV12_OA f src_len forvce src) := by
  refine below_of_fillAll fun dst => ?_
  cases forvce with
  | true =>
    refine ⟨_, toYV12_vce hfmt src_len src dst, fun p hp k hk => lt_destSize_yu12 hfmt ?_⟩
    have hplanes := planes_targetPlanes f true src
    rw [scalerPlanes, if_pos hfmt] at hplanes
    have himage : imagePlanes f = (targetPlanes f true src).map Prod.fst := by
      rw [hplanes, imagePlanes, hfmt]
      rfl
    exact ⟨p.1, himage ▸ List.mem_map_of_mem hp, hk⟩
  | false =>
    refine ⟨_, toYV12_camera hfmt src_len src dst, ?_⟩
    have hle := chroma_le hw hh
    simp only [List.mem_cons, List.not_mem_nil, or_false, forall_eq_or_imp, forall_eq]
    exact ⟨fun k hk => lt_destSize_luma (Or.inl hfmt) hk,
      fun k hk => lt_destSize_chroma hfmt hle hk,
      fun k hk => lt_destSize_chroma hfmt (by omega) hk⟩

/-- A semi-planar frame whose rows have columns is copied into its slot. -/
lemma below_toNV21 {f : SizedFrame} (hfmt : f.mFormat = .CAMERA_FRAME_FORMAT_YUV420SP)
    (hw : f.mEncodeWidth % 2 = 0) (hrows : f.mEncodeWidth ≠ 0 ∨ f.mEncodeHeight = 0)
    (src_len : ℕ) (forvce : Bool) (src : Buffer) :
    Below (destSize f) (cameraFrameToNV21YV12_OA f src_len forvce src) := by
  refine below_of_fillAll fun dst =>
    ⟨_, toNV21 hfmt hw (by omega) forvce src_len src dst, ?_⟩
  have hfits : (vuFill f forvce src).1.Fits :=
    ⟨Nat.one_pos, fun c hc => by
      have := le_ALIGN16 f.mEncodeWidth
      simp only [vuFill] at hc ⊢
      omega⟩
  simp only [List.mem_cons, List.not_mem_nil, or_false, forall_eq_or_imp, forall_eq]
  refine ⟨fun k hk => lt_destSize_luma (Or.inr hfmt) hk, fun k hk => ?_⟩
  have hend := Plane.lt_of_has hfits hk
  have hcomm := Nat.mul_comm (f.mEncodeHeight / 2) (ALIGN16 f.mEncodeWidth)
  rw [destSize, hfmt]
  simp only [vuFill] at hend ⊢
  omega

/-- A frame without pixels in its source is not scaled. -/
lemma scaled_of_empty {f : SizedFrame}
    (hfmt : f.mFormat = .CAMERA_FRAME_FORMAT_YUV420P ∨ f.mFormat = .CAMERA_FRAME_FORMAT_YUV420SP)
    (hempty : f.Empty) (src dst : Buffer) : scaled f src dst = some dst := by
  have hsource : f.resize.inputW < 1 ∨ f.resize.inputH < 1 := hempty
  rcases hfmt with hfmt | hfmt
  · simp only [scaled, hfmt, YX12ResizeOA, YUV420Resize, if_pos hsource]
  · simp only [scaled, hfmt, NVXXResizeOA, YUV420Resize, if_pos hsource]

/-- A frame is scaled into its slot. Without pixels in the source, nothing is written. -/
lemma below_scaled {f : SizedFrame}
    (hfmt : f.mFormat = .CAMERA_FRAME_FORMAT_YUV420P ∨ f.mFormat = .CAMERA_FRAME_FORMAT_YUV420SP)
    (hw : f.mEncodeWidth % 2 = 0) (hh : f.mEncodeHeight % 2 = 0) (src : Buffer) :
    Below (destSize f) (cameraFrameResize f src) := by
  intro dst
  have hcall : cameraFrameResize f src dst = (scaled f src dst).map (Prod.mk true) := by
    rcases hfmt with hfmt | hfmt <;> simp only [cameraFrameResize, hfmt, cameraFrameResizePlanar]
  by_cases hempty : f.Empty
  · rw [hcall, scaled_of_empty hfmt hempty]
    exact ⟨_, rfl, fun k _ => rfl⟩
  · have hscales : Scales f := by
      rw [scales_iff]
      refine ⟨?_, ?_, ?_⟩
      · rcases hfmt with hfmt | hfmt <;> rw [hfmt] <;> decide
      · rcases hfmt with hfmt | hfmt <;> rw [hfmt] <;> decide
      · have hnot : ¬ (f.mFormat = .CAMERA_FRAME_FORMAT_RGB565 ∨
            f.mFormat = .CAMERA_FRAME_FORMAT_YUV422I) := by
          rcases hfmt with hfmt | hfmt <;> rw [hfmt] <;> decide
        rw [if_neg hempty, if_neg hnot]
        exact ⟨by omega, by omega, Or.inr (Or.inr ⟨hw, hh⟩)⟩
    obtain ⟨out, hout, hkept, -⟩ := hscales.exact src dst
    have hresult : cameraFrameResize f src dst = some (true, out) := by
      simp only [hcall] at hout ⊢
      cases hs : scaled f src dst with
      | none =>
        rw [hs] at hout
        cases hout
      | some out' =>
        rw [hs] at hout
        rw [Option.some.inj hout]
        rfl
    exact ⟨_, hresult, fun k hk => hkept k fun himage => absurd (hscales.inside k himage)
      (not_lt.mpr hk)⟩

/-- **A 4:2:0 frame of even size is written inside of its slot**, by whichever function writes it,
exactly if it is planar, has columns, or has no rows.

**Proof sketch.** Each function fills planes that end inside of the slot. The chroma rows of a
semi-planar frame are copied without their first byte, which for rows of no bytes is a copy of `-1`
bytes. -/
theorem keepsToSlot_iff {f : SizedFrame} (hw : f.mEncodeWidth % 2 = 0)
    (hh : f.mEncodeHeight % 2 = 0)
    (hfmt : f.mFormat = .CAMERA_FRAME_FORMAT_YUV420P ∨
      f.mFormat = .CAMERA_FRAME_FORMAT_YUV420SP) :
    KeepsToSlot f ↔
      f.mFormat = .CAMERA_FRAME_FORMAT_YUV420P ∨ f.mEncodeWidth ≠ 0 ∨ f.mEncodeHeight = 0 := by
  rw [keepsToSlot_iff_below hfmt]
  constructor
  · intro h
    by_contra hnot
    obtain ⟨hplanar, hcols, hrows⟩ := by simpa only [not_or, not_not] using hnot
    obtain ⟨r, hr, -⟩ := h (.cameraFrameToNV21YV12_OA 0 false) (fun _ => 0#8) fun _ => 0#8
    rw [Writer.call, cameraFrameToNV21YV12_OA, hfmt.resolve_left hplanar] at hr
    simp only at hr
    rw [if_pos (by omega)] at hr
    cases hr
  · intro h writer src
    cases writer with
    | cameraFrameResize => exact below_scaled hfmt hw hh src
    | cameraFrameToNV21YV12_OA src_len forvce =>
      rcases hfmt with hplanar | hsemi
      · exact below_toYV12 hplanar hw hh src_len forvce src
      · refine below_toNV21 hsemi hw (h.resolve_left fun hplanar => ?_) src_len forvce src
        rw [hplanar] at hsemi
        cases hsemi

/-- The slots of QCIF previews are kept. -/
theorem keepsToSlot_qcifFrame : KeepsToSlot (qcifFrame .CAMERA_FRAME_FORMAT_YUV420SP) :=
  (keepsToSlot_iff (by decide) (by decide) (Or.inr rfl)).mpr (Or.inr (Or.inl (by decide)))

/-- A frame of 480 rows of no columns. -/
def narrowFrame : SizedFrame where
  mFormat := .CAMERA_FRAME_FORMAT_YUV420SP
  mOrigWidth := 640
  mOrigHeight := 480
  mXOff := 0
  mYOff := 0
  mWidth := 640
  mHeight := 480
  mEncodeWidth := 0
  mEncodeHeight := 480
  crop_x := Nat.le_refl 640
  crop_y := Nat.le_refl 480
  origWidth_lt := by decide
  origHeight_lt := by decide
  encodeWidth_lt := by decide
  encodeHeight_lt := by decide

/-- The copy of its chroma does not return. -/
theorem not_keepsToSlot_narrowFrame : ¬ KeepsToSlot narrowFrame := by
  intro h
  obtain ⟨memory', hcall, -⟩ :=
    h.picture (.cameraFrameToNV21YV12_OA 0 false) (fun _ => 0#8) fun _ => 0#8
  have hnone : narrowFrame.mEncodeWidth = 0 ∧ 0 < narrowFrame.mEncodeHeight / 2 := by decide
  have hfmt : narrowFrame.mFormat = .CAMERA_FRAME_FORMAT_YUV420SP := rfl
  simp only [callAt, Writer.call, cameraFrameToNV21YV12_OA, hfmt, if_pos hnone,
    Option.map_none] at hcall
  cases hcall

end CameraHal
