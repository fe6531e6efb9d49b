import Gs702aHal.Camera.FrameResize

set_option relaxedAutoImplicit false
set_option autoImplicit false

/-!
# The layout of 4:2:0 frames

A 4:2:0 frame that needs no scaling is copied by `cameraFrameToNV21YV12_OA`, from the camera's
buffer or from the output of the hardware scaler (`forvce`), into the planes that the scaler would
have written. For a planar frame that does not come from the hardware scaler, the places of the
chroma planes are computed from the width instead of the aligned width.

## Main definitions

* `CameraHal.cameraFrameToNV21YV12_OA` — the function.
* `CameraHal.sourceSamples` — where the samples of a frame are in the source.
* `CameraHal.LaidOut` — the destination holds the samples in the planes of the format.
* `CameraHal.KeepsLayout` — the condition on the frame.

## Main results

* `CameraHal.yv12Planes_eq`, `CameraHal.nv21Planes_eq` — the planes are those that the scalers
  write.
* `CameraHal.laidOut_iff` — the frame is laid out exactly under the condition.
-/

namespace CameraHal

open StoreLog

/-- The variables of the copying loops: the source and destination pointers, and the destination. -/
structure RowLoop where
  src : ℕ
  dst : ℕ
  buffer : Buffer

namespace RowLoop

/-- A loop over `n` rows, after each of which the pointers go on by a stride. -/
def rows (n : ℕ) (row : RowLoop → Buffer) (srcStride dstStride : ℕ) (s : RowLoop) : RowLoop :=
  forLoop n (fun _ s => ⟨s.src + srcStride, s.dst + dstStride, row s⟩) s

/-- `memcpy(dst, src, n)`. -/
def copy (src : Buffer) (n : ℕ) (s : RowLoop) : Buffer := copyCells s.buffer s.dst src s.src n

/-- `for (col = 0; col < n; col++) dst[col] = src[(col << 1) + offset];` -/
def gather (src : Buffer) (n offset : ℕ) (s : RowLoop) : Buffer :=
  forLoop n (fun col buffer =>
    Function.update buffer (s.dst + col) (src (s.src + (col * 2 + offset)))) s.buffer

/-- `memcpy(dst, src + 1, w - 1); dst[w - 1] = dst[w - 2];` -/
def shift (src : Buffer) (w : ℕ) (s : RowLoop) : Buffer :=
  let buffer := copyCells s.buffer s.dst src (s.src + 1) (w - 1)
  Function.update buffer (s.dst + (w - 1)) (buffer (s.dst + (w - 2)))

end RowLoop

/-- `cameraFrameToNV21YV12_OA`. The sizes are positive or zero as `int`s. With a width of zero, the
`memcpy` of a chroma row of a semi-planar frame gets the length `-1`, which has no result. -/
def cameraFrameToNV21YV12_OA (f : SizedFrame) (src_len : ℕ) (forvce : Bool) (src dst : Buffer) :
    Option (Bool × Buffer) :=
  let w := f.mEncodeWidth
  let h := f.mEncodeHeight
  let stride := if forvce then ALIGN16 w else w
  let padY := if forvce then ALIGN16 h - h else 0
  let start : RowLoop := ⟨0, 0, dst⟩
  match f.mFormat with
  | .CAMERA_FRAME_FORMAT_YUV420P =>
    let s := start.rows h (RowLoop.copy src w) stride (ALIGN16 w)
    let s := { s with src := s.src + stride * padY }
    if forvce then
      -- the data is NV12
      let srcUV := s.src
      let s := s.rows (h / 2) (RowLoop.gather src (w / 2) 1) stride (ALIGN16 (w / 2))
      let s := { s with src := srcUV }
      let s := s.rows (h / 2) (RowLoop.gather src (w / 2) 0) stride (ALIGN16 (w / 2))
      some (true, s.buffer)
    else
      let s := { s with dst := w * h + w * h / 2 ^ 2 }
      let s := s.rows (h / 2) (RowLoop.copy src (w / 2)) (stride / 2) (ALIGN16 (w / 2))
      let s := { s with src := s.src + stride * padY / 2 ^ 2, dst := w * h }
      let s := s.rows (h / 2) (RowLoop.copy src (w / 2)) (stride / 2) (ALIGN16 (w / 2))
      some (true, s.buffer)
  | .CAMERA_FRAME_FORMAT_YUV420SP =>
    let s := start.rows h (RowLoop.copy src w) stride (ALIGN16 w)
    let s := { s with src := s.src + stride * padY }
    if w = 0 ∧ 0 < h / 2 then none
    else
      let s := s.rows (h / 2) (RowLoop.shift src w) stride (ALIGN16 w)
      some (true, s.buffer)
  | _ => some (true, copyCells dst 0 src 0 src_len)

/-! ### The layout -/

/-- The planes that the scaler of the format writes: those of `cameraFrameResizeYU12ToYV12_OA` with
the strides of `YX12ResizeOA`, or those of `cameraFrameResizeNV12ToNV21_OA` with the strides of
`NVXXResizeOA`. -/
def scalerPlanes (f : SizedFrame) : List Plane :=
  let w := f.mEncodeWidth
  let h := f.mEncodeHeight
  if f.mFormat = .CAMERA_FRAME_FORMAT_YUV420P then
    planesOf ((yv12Out w h).planar (ALIGN16 w) (ALIGN16 (w / 2))) w h (w / 2) (h / 2)
  else planesOf ((nv21Out w h).semiPlanar (ALIGN16 w)) w h (w / 2) (h / 2)

/-- The samples of a 4:2:0 image. -/
structure Samples where
  y : ℕ → ℕ → Byte
  u : ℕ → ℕ → Byte
  v : ℕ → ℕ → Byte

/-- The samples of the source: a frame of the camera has no padding, and its planes lie one after
the other if it is planar; the hardware scaler aligns both sides, and its frames are semi-planar. -/
def sourceSamples (f : SizedFrame) (forvce : Bool) (src : Buffer) : Samples :=
  let w := f.mEncodeWidth
  let h := f.mEncodeHeight
  let stride := if forvce then ALIGN16 w else w
  let chroma := if forvce then stride * ALIGN16 h else stride * h
  if f.mFormat = .CAMERA_FRAME_FORMAT_YUV420P ∧ forvce = false then
    { y := fun r c => src (r * stride + c)
      u := fun r c => src (chroma + r * (w / 2) + c)
      v := fun r c => src (chroma + h / 2 * (w / 2) + r * (w / 2) + c) }
  else
    { y := fun r c => src (r * stride + c)
      u := fun r c => src (chroma + r * stride + c * 2)
      v := fun r c => src (chroma + r * stride + c * 2 + 1) }

/-- The samples that an NV21 image is made of: the bytes of a chroma row are shifted by one, so that
each `v` is followed by the next column's `u`, and the last one by itself. -/
def Samples.shifted (s : Samples) (w : ℕ) : Samples :=
  { s with u := fun r c => if c + 1 < w / 2 then s.u r (c + 1) else s.v r c }

/-- The planes of the format and what is in them: luma, `v` and `u`. -/
def targetPlanes (f : SizedFrame) (forvce : Bool) (src : Buffer) :
    List (Plane × (ℕ → ℕ → Byte)) :=
  let samples := sourceSamples f forvce src
  if f.mFormat = .CAMERA_FRAME_FORMAT_YUV420P then
    (yv12Planes f.mEncodeWidth f.mEncodeHeight).zip [samples.y, samples.v, samples.u]
  else
    let samples := samples.shifted f.mEncodeWidth
    (nv21Planes f.mEncodeWidth f.mEncodeHeight).zip [samples.y, samples.v, samples.u]

/-- The frame is laid out: the planes of its format are the scaler's and do not overlap; they hold
the frame's samples, and nothing else is written. -/
structure LaidOut (f : SizedFrame) (forvce : Bool) : Prop where
  planes : ∀ src, (targetPlanes f forvce src).map Prod.fst = scalerPlanes f
  apart : ∀ src, (targetPlanes f forvce src).Pairwise fun p q => ∀ k, p.1.Has k → ¬ q.1.Has k
  copied : ∀ src_len src dst, ∃ out,
    cameraFrameToNV21YV12_OA f src_len forvce src dst = some (true, out) ∧
      (∀ p ∈ targetPlanes f forvce src, p.1.Holds out p.2) ∧
      ∀ k, (∀ p ∈ targetPlanes f forvce src, ¬ p.1.Has k) → out k = dst k

/-- A planar frame that does not come from the hardware scaler is a multiple of 32 pixels wide, or
has no rows; a semi-planar frame with rows has columns. -/
def KeepsLayout (f : SizedFrame) (forvce : Bool) : Prop :=
  if f.mFormat = .CAMERA_FRAME_FORMAT_YUV420P then
    forvce = true ∨ 32 ∣ f.mEncodeWidth ∨ f.mEncodeHeight = 0
  else f.mEncodeWidth ≠ 0 ∨ f.mEncodeHeight = 0

/-! ### What the loops store -/

namespace RowLoop

/-- **A loop over rows fills a plane**, if each row is stored from its start on. -/
theorem rows_eq {row : RowLoop → Buffer} (cols : ℕ) (value : ℕ → ℕ → Byte)
    (hrow : ∀ s, row s = storeAll (passes cols fun c => [(s.dst + c, value s.src c)]) s.buffer)
    (n srcStride dstStride : ℕ) (s : RowLoop) :
    s.rows n row srcStride dstStride =
      ⟨s.src + n * srcStride, s.dst + n * dstStride,
        storeAll (Plane.fill ⟨s.dst, dstStride, 1, n, cols⟩
          fun r c => value (s.src + r * srcStride) c) s.buffer⟩ := by
  let done := fun r : ℕ => (⟨s.src + r * srcStride, s.dst + r * dstStride,
    storeAll (passes r fun r => passes cols fun c =>
      [(s.dst + r * dstStride + c, value (s.src + r * srcStride) c)]) s.buffer⟩ : RowLoop)
  have hstart : s = done 0 := by simp [done]
  have hloop : s.rows n row srcStride dstStride = done n := by
    conv_lhs => rw [rows, hstart]
    refine forLoop_eq done (fun r => ?_) n
    simp only [done, hrow, passes_succ, storeAll_append, RowLoop.mk.injEq, and_true]
    rw [Nat.add_one_mul r, Nat.add_one_mul r]
    omega
  rw [hloop]
  simp only [done, Plane.fill, Plane.cell, Nat.mul_one]

/-- What a copied row stores. -/
lemma copy_eq (src : Buffer) (n : ℕ) (s : RowLoop) :
    copy src n s = storeAll (passes n fun c => [(s.dst + c, src (s.src + c))]) s.buffer :=
  copyCells_eq_storeAll _ _ _ _ _

/-- What a gathered row stores. -/
lemma gather_eq (src : Buffer) (n offset : ℕ) (s : RowLoop) :
    gather src n offset s =
      storeAll (passes n fun c => [(s.dst + c, src (s.src + (c * 2 + offset)))]) s.buffer := by
  let done := fun c : ℕ =>
    storeAll (passes c fun c => [(s.dst + c, src (s.src + (c * 2 + offset)))]) s.buffer
  refine forLoop_eq done (fun c => ?_) n
  simp only [done, passes_succ, storeAll_append, storeAll_cons, storeAll_nil]

/-- What a shifted row stores: each byte's successor, and the last byte. -/
lemma shift_eq (src : Buffer) {w : ℕ} (hw : w % 2 = 0) (s : RowLoop) :
    shift src w s = storeAll (passes w fun c =>
      [(s.dst + c, src (s.src + if c + 1 < w then c + 1 else c))]) s.buffer := by
  rcases Nat.eq_zero_or_pos w with rfl | hpos
  · simp [shift]
  obtain ⟨n, rfl⟩ : ∃ n, w = n + 2 := ⟨w - 2, by omega⟩
  have hlast : (copyCells s.buffer s.dst src (s.src + 1) (n + 1)) (s.dst + n) =
      src (s.src + (n + 1)) := by
    rw [copyCells, if_pos (by omega)]
    congr 1
    omega
  have hfront : copyCells s.buffer s.dst src (s.src + 1) (n + 1) =
      storeAll (passes (n + 1) fun c =>
        [(s.dst + c, src (s.src + if c + 1 < n + 2 then c + 1 else c))]) s.buffer := by
    rw [copyCells_eq_storeAll, passes, passes]
    congr 1
    refine List.flatMap_congr fun c hc => ?_
    rw [if_pos (by have := List.mem_range.mp hc; omega), Nat.add_assoc, Nat.add_comm 1 c]
  rw [passes_succ, storeAll_append, ← hfront, storeAll_cons, storeAll_nil,
    if_neg (lt_irrefl _), shift]
  simp only [Nat.add_sub_cancel, show n + 2 - 1 = n + 1 by omega, hlast]

/-- Copied rows. -/
lemma rows_copy (src : Buffer) (w n srcStride dstStride : ℕ) (s : RowLoop) :
    s.rows n (copy src w) srcStride dstStride =
      ⟨s.src + n * srcStride, s.dst + n * dstStride,
        storeAll (Plane.fill ⟨s.dst, dstStride, 1, n, w⟩
          fun r c => src (s.src + r * srcStride + c)) s.buffer⟩ :=
  rows_eq w (fun a c => src (a + c)) (copy_eq src w) n srcStride dstStride s

/-- Gathered rows. -/
lemma rows_gather (src : Buffer) (w offset n srcStride dstStride : ℕ) (s : RowLoop) :
    s.rows n (gather src w offset) srcStride dstStride =
      ⟨s.src + n * srcStride, s.dst + n * dstStride,
        storeAll (Plane.fill ⟨s.dst, dstStride, 1, n, w⟩
          fun r c => src (s.src + r * srcStride + (c * 2 + offset))) s.buffer⟩ :=
  rows_eq w (fun a c => src (a + (c * 2 + offset))) (gather_eq src w offset) n srcStride
    dstStride s

/-- Shifted rows. -/
lemma rows_shift (src : Buffer) {w : ℕ} (hw : w % 2 = 0) (n srcStride dstStride : ℕ)
    (s : RowLoop) :
    s.rows n (shift src w) srcStride dstStride =
      ⟨s.src + n * srcStride, s.dst + n * dstStride,
        storeAll (Plane.fill ⟨s.dst, dstStride, 1, n, w⟩
          fun r c => src (s.src + r * srcStride + if c + 1 < w then c + 1 else c)) s.buffer⟩ :=
  rows_eq w (fun a c => src (a + if c + 1 < w then c + 1 else c)) (shift_eq src hw) n srcStride
    dstStride s

end RowLoop

/-! ### What the function writes -/

/-- The end of the copied luma. -/
lemma chroma_start (f : SizedFrame) (forvce : Bool) :
    (0 + f.mEncodeHeight * (if forvce then ALIGN16 f.mEncodeWidth else f.mEncodeWidth)) +
        (if forvce then ALIGN16 f.mEncodeWidth else f.mEncodeWidth) *
          (if forvce then ALIGN16 f.mEncodeHeight - f.mEncodeHeight else 0) =
      if forvce then ALIGN16 f.mEncodeWidth * ALIGN16 f.mEncodeHeight
      else f.mEncodeWidth * f.mEncodeHeight := by
  cases forvce with
  | false => simp [Nat.mul_comm]
  | true =>
    simp only [if_true, Nat.zero_add]
    rw [Nat.mul_comm f.mEncodeHeight, ← Nat.mul_add, Nat.add_sub_cancel' (le_ALIGN16 _)]

/-- The luma plane and its samples. -/
def lumaFill (f : SizedFrame) (forvce : Bool) (src : Buffer) : Plane × (ℕ → ℕ → Byte) :=
  (⟨0, ALIGN16 f.mEncodeWidth, 1, f.mEncodeHeight, f.mEncodeWidth⟩, (sourceSamples f forvce src).y)

/-- A planar chroma plane from a place on. -/
def chromaPlane (f : SizedFrame) (base : ℕ) : Plane :=
  ⟨base, ALIGN16 (f.mEncodeWidth / 2), 1, f.mEncodeHeight / 2, f.mEncodeWidth / 2⟩

/-- Rows of copied luma. -/
lemma rows_luma (f : SizedFrame) (forvce : Bool) (src dst : Buffer) :
    RowLoop.rows f.mEncodeHeight (RowLoop.copy src f.mEncodeWidth)
        (if forvce then ALIGN16 f.mEncodeWidth else f.mEncodeWidth) (ALIGN16 f.mEncodeWidth)
        ⟨0, 0, dst⟩ =
      ⟨0 + f.mEncodeHeight * (if forvce then ALIGN16 f.mEncodeWidth else f.mEncodeWidth),
        0 + f.mEncodeHeight * ALIGN16 f.mEncodeWidth,
        Plane.fillAll [lumaFill f forvce src] dst⟩ := by
  rw [RowLoop.rows_copy]
  simp only [lumaFill, sourceSamples, Plane.fillAll, List.foldl_cons, List.foldl_nil,
    Nat.zero_add]
  split_ifs <;> rfl

/-- A planar frame from the hardware scaler: luma, `v` and `u`, one after the other. -/
lemma toYV12_vce {f : SizedFrame} (hfmt : f.mFormat = .CAMERA_FRAME_FORMAT_YUV420P)
    (src_len : ℕ) (src dst : Buffer) :
    cameraFrameToNV21YV12_OA f src_len true src dst =
      some (true, Plane.fillAll (targetPlanes f true src) dst) := by
  have hluma := rows_luma f true src dst
  have hchroma := chroma_start f true
  simp only [if_true] at hluma hchroma
  simp only [cameraFrameToNV21YV12_OA, hfmt, if_true, hluma, hchroma]
  rw [RowLoop.rows_gather, RowLoop.rows_gather]
  have hbaseV : 0 + f.mEncodeHeight * ALIGN16 f.mEncodeWidth =
      ALIGN16 f.mEncodeWidth * f.mEncodeHeight := by rw [Nat.zero_add, Nat.mul_comm]
  have hbaseU : f.mEncodeHeight / 2 * ALIGN16 (f.mEncodeWidth / 2) =
      ALIGN16 (f.mEncodeWidth / 2) * (f.mEncodeHeight / 2) := Nat.mul_comm _ _
  simp only [hbaseV, hbaseU, targetPlanes, hfmt, if_true, yv12Planes, List.zip_cons_cons,
    List.zip_nil_right, Plane.fillAll, List.foldl_cons, List.foldl_nil, lumaFill, sourceSamples,
    Nat.add_assoc, Nat.add_zero, Bool.true_eq_false, and_false, if_false]

/-- A planar frame of the camera: the places of `u` and `v` come from the width. -/
lemma toYV12_camera {f : SizedFrame} (hfmt : f.mFormat = .CAMERA_FRAME_FORMAT_YUV420P)
    (src_len : ℕ) (src dst : Buffer) :
    cameraFrameToNV21YV12_OA f src_len false src dst =
      some (true, Plane.fillAll [lumaFill f false src,
        (chromaPlane f (f.mEncodeWidth * f.mEncodeHeight +
          f.mEncodeWidth * f.mEncodeHeight / 2 ^ 2), (sourceSamples f false src).u),
        (chromaPlane f (f.mEncodeWidth * f.mEncodeHeight),
          (sourceSamples f false src).v)] dst) := by
  have hluma := rows_luma f false src dst
  have hchroma := chroma_start f false
  simp only [Bool.false_eq_true, if_false] at hluma hchroma
  simp only [cameraFrameToNV21YV12_OA, hfmt, Bool.false_eq_true, if_false, hluma, hchroma]
  rw [RowLoop.rows_copy, RowLoop.rows_copy]
  simp only [Plane.fillAll, List.foldl_cons, List.foldl_nil, lumaFill, chromaPlane, sourceSamples,
    hfmt, and_self, if_true, Bool.false_eq_true, if_false, Nat.mul_zero, Nat.zero_div, Nat.add_zero]

/-- The row of `v` and `u` bytes. -/
def vuFill (f : SizedFrame) (forvce : Bool) (src : Buffer) : Plane × (ℕ → ℕ → Byte) :=
  let stride := if forvce then ALIGN16 f.mEncodeWidth else f.mEncodeWidth
  let chroma := if forvce then stride * ALIGN16 f.mEncodeHeight else stride * f.mEncodeHeight
  (⟨ALIGN16 f.mEncodeWidth * f.mEncodeHeight, ALIGN16 f.mEncodeWidth, 1, f.mEncodeHeight / 2,
    f.mEncodeWidth⟩,
    fun r c => src (chroma + r * stride + if c + 1 < f.mEncodeWidth then c + 1 else c))

/-- A semi-planar frame: luma, then rows of `v` and `u`. -/
lemma toNV21 {f : SizedFrame} (hfmt : f.mFormat = .CAMERA_FRAME_FORMAT_YUV420SP)
    (hw : f.mEncodeWidth % 2 = 0) (hrows : ¬ (f.mEncodeWidth = 0 ∧ 0 < f.mEncodeHeight / 2))
    (forvce : Bool) (src_len : ℕ) (src dst : Buffer) :
    cameraFrameToNV21YV12_OA f src_len forvce src dst =
      some (true, Plane.fillAll [lumaFill f forvce src, vuFill f forvce src] dst) := by
  have hluma := rows_luma f forvce src dst
  have hchroma := chroma_start f forvce
  have hbase : 0 + f.mEncodeHeight * ALIGN16 f.mEncodeWidth =
      ALIGN16 f.mEncodeWidth * f.mEncodeHeight := by rw [Nat.zero_add, Nat.mul_comm]
  simp only [cameraFrameToNV21YV12_OA, hfmt, if_neg hrows, hluma, hchroma, hbase]
  rw [RowLoop.rows_shift src hw]
  simp only [Plane.fillAll, List.foldl_cons, List.foldl_nil, lumaFill, vuFill, sourceSamples]
  cases forvce <;> rfl

/-! ### When the layout is kept -/

/-- The planes of the layouts are the scaler's. -/
lemma planes_targetPlanes (f : SizedFrame) (forvce : Bool) (src : Buffer) :
    (targetPlanes f forvce src).map Prod.fst = scalerPlanes f := by
  rw [targetPlanes, scalerPlanes]
  split_ifs <;> rfl

/-- Luma comes before the planes that start at its end. -/
lemma luma_apart {w h k : ℕ} {p : Plane} (hp : ALIGN16 w * h ≤ p.base)
    (hk : Plane.Has ⟨0, ALIGN16 w, 1, h, w⟩ k) : ¬ p.Has k :=
  Plane.not_has_of_le (fits_luma w h) (by
    rw [Nat.zero_add, Nat.mul_comm]
    exact hp) hk

/-- The planes of the layouts do not overlap. -/
lemma apart_targetPlanes (f : SizedFrame) (forvce : Bool) (src : Buffer) :
    (targetPlanes f forvce src).Pairwise fun p q => ∀ k, p.1.Has k → ¬ q.1.Has k := by
  rw [targetPlanes]
  split_ifs
  · simp only [yv12Planes, List.zip_cons_cons, List.zip_nil_right, List.pairwise_cons,
      List.mem_cons, List.not_mem_nil, or_false, forall_eq_or_imp, forall_eq, IsEmpty.forall_iff,
      implies_true, List.Pairwise.nil, and_true]
    refine ⟨⟨fun k hk => luma_apart le_rfl hk, fun k hk => luma_apart (Nat.le_add_right _ _) hk⟩,
      fun k hk => Plane.not_has_of_le (fits_planar _ _ _) ?_ hk⟩
    rw [Nat.mul_comm (f.mEncodeHeight / 2)]
  · simp only [nv21Planes, List.zip_cons_cons, List.zip_nil_right, List.pairwise_cons,
      List.mem_cons, List.not_mem_nil, or_false, forall_eq_or_imp, forall_eq, IsEmpty.forall_iff,
      implies_true, List.Pairwise.nil, and_true]
    have heven : ALIGN16 f.mEncodeWidth % 2 = 0 := by
      unfold ALIGN16
      omega
    refine ⟨⟨fun k hk => luma_apart le_rfl hk, fun k hk => luma_apart (Nat.le_add_right _ _) hk⟩,
      fun k hk => Plane.not_has_of_parity rfl rfl heven heven ?_ hk⟩
    simp only
    omega

/-- The rows of the planes of YV12 do not overlap. -/
lemma fits_targetPlanes {f : SizedFrame} (hfmt : f.mFormat = .CAMERA_FRAME_FORMAT_YUV420P)
    (forvce : Bool) (src : Buffer) : ∀ p ∈ targetPlanes f forvce src, p.1.Fits := by
  rw [targetPlanes, if_pos hfmt]
  simp only [yv12Planes, List.zip_cons_cons, List.zip_nil_right, List.mem_cons, List.not_mem_nil,
    or_false, forall_eq_or_imp, forall_eq]
  exact ⟨fits_luma _ _, fits_planar _ _ _, fits_planar _ _ _⟩

/-- For a width of a multiple of 32 pixels, the places of the camera's chroma planes are right. -/
lemma chromaPlane_eq {f : SizedFrame} (hw : 32 ∣ f.mEncodeWidth)
    (hh : f.mEncodeHeight % 2 = 0) :
    ALIGN16 f.mEncodeWidth = f.mEncodeWidth ∧
      f.mEncodeWidth * f.mEncodeHeight / 2 ^ 2 =
        ALIGN16 (f.mEncodeWidth / 2) * (f.mEncodeHeight / 2) := by
  obtain ⟨a, ha⟩ := hw
  obtain ⟨b, hb⟩ : ∃ b, f.mEncodeHeight = 2 * b := ⟨f.mEncodeHeight / 2, by omega⟩
  have hhalf : f.mEncodeWidth / 2 = 16 * a := by omega
  refine ⟨ALIGN16_of_dvd ⟨2 * a, by omega⟩, ?_⟩
  rw [hhalf, ALIGN16_of_dvd ⟨a, rfl⟩, ha, hb, Nat.mul_div_cancel_left b Nat.two_pos,
    show 32 * a * (2 * b) = 16 * a * b * 2 ^ 2 by ring]
  exact Nat.mul_div_cancel _ (by decide)

/-- A planar frame whose planes are filled in the order of the layout, or with `u` before `v`. -/
lemma holds_of_fillAll {f : SizedFrame} (hfmt : f.mFormat = .CAMERA_FRAME_FORMAT_YUV420P)
    {forvce : Bool} {src dst : Buffer} {planes : List (Plane × (ℕ → ℕ → Byte))}
    (hperm : planes.Perm (targetPlanes f forvce src)) :
    (∀ p ∈ targetPlanes f forvce src, p.1.Holds (Plane.fillAll planes dst) p.2) ∧
      ∀ k, (∀ p ∈ targetPlanes f forvce src, ¬ p.1.Has k) → Plane.fillAll planes dst k = dst k := by
  have hfits := fits_targetPlanes hfmt forvce src
  have hapart : planes.Pairwise fun p q => ∀ k, p.1.Has k → ¬ q.1.Has k :=
    (hperm.pairwise_iff fun h k hq hp => h k hp hq).mpr (apart_targetPlanes f forvce src)
  exact ⟨fun p hp => Plane.holds_fillAll (fun q hq => hfits q (hperm.mem_iff.mp hq)) hapart p
      (hperm.mem_iff.mpr hp),
    fun k hk => Plane.fillAll_of_not_has fun p hp => hk p (hperm.mem_iff.mp hp)⟩

/-- A planar frame of the camera whose width is no multiple of 32 leaves the last byte of the layout
as it was. -/
lemma not_laidOut_camera {f : SizedFrame} (hfmt : f.mFormat = .CAMERA_FRAME_FORMAT_YUV420P)
    (hw : f.mEncodeWidth % 2 = 0) (hh : f.mEncodeHeight % 2 = 0) (hwidth : ¬ 32 ∣ f.mEncodeWidth)
    (hrows : f.mEncodeHeight ≠ 0) : ¬ LaidOut f false := by
  intro h
  obtain ⟨out, hout, hholds, -⟩ := h.copied 0 (fun _ => 0#8) fun _ => 1#8
  rw [toYV12_camera hfmt] at hout
  have hout := (Prod.mk.inj (Option.some.inj hout)).2
  obtain ⟨b, hb⟩ : ∃ b, f.mEncodeHeight = 2 * b := ⟨f.mEncodeHeight / 2, by omega⟩
  have hlow : f.mEncodeWidth * f.mEncodeHeight / 2 ^ 2 <
      ALIGN16 (f.mEncodeWidth / 2) * (f.mEncodeHeight / 2) := by
    obtain ⟨a, ha⟩ : ∃ a, f.mEncodeWidth = 2 * a := ⟨f.mEncodeWidth / 2, by omega⟩
    have hstride : a < ALIGN16 a := by
      refine Nat.lt_of_le_of_ne (le_ALIGN16 a) fun heq => hwidth ?_
      obtain ⟨c, hc⟩ := ALIGN16_eq_iff.mp heq.symm
      exact ⟨c, by omega⟩
    rw [ha, hb, show 2 * a * (2 * b) = a * b * 2 ^ 2 by ring, Nat.mul_div_cancel _ (by decide),
      Nat.mul_div_cancel_left a Nat.two_pos, Nat.mul_div_cancel_left b Nat.two_pos]
    exact Nat.mul_lt_mul_of_pos_right hstride (by omega)
  have hluma : f.mEncodeWidth * f.mEncodeHeight ≤ ALIGN16 f.mEncodeWidth * f.mEncodeHeight :=
    Nat.mul_le_mul_right _ (le_ALIGN16 _)
  -- the last `u` of the layout, which comes behind everything that is stored
  let last := (chromaPlane f (ALIGN16 f.mEncodeWidth * f.mEncodeHeight +
    ALIGN16 (f.mEncodeWidth / 2) * (f.mEncodeHeight / 2))).cell (f.mEncodeHeight / 2 - 1)
    (f.mEncodeWidth / 2 - 1)
  have hcols : 0 < f.mEncodeWidth / 2 := by
    by_contra hzero
    exact hwidth ⟨0, by omega⟩
  have hheld : out last = 0#8 := by
    have hmem : (chromaPlane f (ALIGN16 f.mEncodeWidth * f.mEncodeHeight +
        ALIGN16 (f.mEncodeWidth / 2) * (f.mEncodeHeight / 2)),
        (sourceSamples f false fun _ => 0#8).u) ∈ targetPlanes f false fun _ => 0#8 := by
      rw [targetPlanes, if_pos hfmt]
      exact List.mem_cons_of_mem _ (List.mem_cons_of_mem _ List.mem_cons_self)
    rw [hholds _ hmem _ (show f.mEncodeHeight / 2 - 1 < f.mEncodeHeight / 2 by omega) _
      (show f.mEncodeWidth / 2 - 1 < f.mEncodeWidth / 2 by omega)]
    simp only [sourceSamples, hfmt, and_self, if_true]
  have hbehind : ∀ base, base < ALIGN16 f.mEncodeWidth * f.mEncodeHeight +
      ALIGN16 (f.mEncodeWidth / 2) * (f.mEncodeHeight / 2) → ¬ (chromaPlane f base).Has last := by
    rintro base hbase ⟨r, hr, c, hc, hk⟩
    have hr' : r ≤ f.mEncodeHeight / 2 - 1 := Nat.le_sub_one_of_lt hr
    have hc' : c ≤ f.mEncodeWidth / 2 - 1 := Nat.le_sub_one_of_lt hc
    have := Nat.mul_le_mul_right (ALIGN16 (f.mEncodeWidth / 2)) hr'
    simp only [last, chromaPlane, Plane.cell] at hk
    omega
  have hkept : out last = 1#8 := by
    rw [← hout, Plane.fillAll_of_not_has]
    simp only [List.mem_cons, List.not_mem_nil, or_false, forall_eq_or_imp, forall_eq]
    refine ⟨fun hk => ?_, hbehind _ (by omega), hbehind _ (by omega)⟩
    have hend := Plane.lt_of_has (fits_luma _ _) hk
    simp only [last, chromaPlane, Plane.cell, Nat.zero_add] at hend
    rw [Nat.mul_comm f.mEncodeHeight] at hend
    omega
  rw [hheld] at hkept
  exact absurd hkept (by decide)

/-- A row of `v` and `u` bytes is a row of both planes of the layout. -/
lemma holds_nv21 {f : SizedFrame} (hfmt : f.mFormat = .CAMERA_FRAME_FORMAT_YUV420SP)
    (hw : f.mEncodeWidth % 2 = 0) (forvce : Bool) (src dst : Buffer) :
    let out := Plane.fillAll [lumaFill f forvce src, vuFill f forvce src] dst
    (∀ p ∈ targetPlanes f forvce src, p.1.Holds out p.2) ∧
      ∀ k, (∀ p ∈ targetPlanes f forvce src, ¬ p.1.Has k) → out k = dst k := by
  intro out
  have hrow : (vuFill f forvce src).1.Fits := fits_aligned _ _ _
  have hapart : ∀ k, (lumaFill f forvce src).1.Has k → ¬ (vuFill f forvce src).1.Has k :=
    fun k hk => luma_apart le_rfl hk
  have hholds : ∀ p ∈ [lumaFill f forvce src, vuFill f forvce src], p.1.Holds out p.2 :=
    Plane.holds_fillAll (by simpa using ⟨fits_luma _ _, hrow⟩) (by simpa using hapart)
  have hluma := hholds _ List.mem_cons_self
  have hvu := hholds _ (List.mem_cons_of_mem _ List.mem_cons_self)
  have hnot : ¬ (f.mFormat = .CAMERA_FRAME_FORMAT_YUV420P) := by
    rw [hfmt]
    decide
  have hcell : ∀ r < f.mEncodeHeight / 2, ∀ c < f.mEncodeWidth,
      out (ALIGN16 f.mEncodeWidth * f.mEncodeHeight + r * ALIGN16 f.mEncodeWidth + c) =
        (vuFill f forvce src).2 r c := fun r hr c hc => by
    have := hvu r hr c hc
    simpa only [vuFill, Plane.cell, Nat.mul_one] using this
  rw [targetPlanes, if_neg hnot]
  simp only [nv21Planes, List.zip_cons_cons, List.zip_nil_right, List.mem_cons, List.not_mem_nil,
    or_false, forall_eq_or_imp, forall_eq]
  refine ⟨⟨hluma, ?_, ?_⟩, ?_⟩
  · intro r hr c hc
    simp only at hr hc
    have hplace := hcell r hr (c * 2) (by omega)
    simp only [Plane.cell]
    rw [hplace]
    simp only [vuFill, Samples.shifted, sourceSamples, hnot, false_and, if_false]
    rw [if_pos (show c * 2 + 1 < f.mEncodeWidth by omega), ← Nat.add_assoc]
  · intro r hr c hc
    simp only at hr hc
    have hplace := hcell r hr (c * 2 + 1) (by omega)
    have hk : Plane.cell ⟨ALIGN16 f.mEncodeWidth * f.mEncodeHeight + 1, ALIGN16 f.mEncodeWidth, 2,
        f.mEncodeHeight / 2, f.mEncodeWidth / 2⟩ r c = ALIGN16 f.mEncodeWidth * f.mEncodeHeight +
        r * ALIGN16 f.mEncodeWidth + (c * 2 + 1) := by
      simp only [Plane.cell]
      omega
    rw [hk, hplace]
    simp only [vuFill, Samples.shifted, sourceSamples, hnot, false_and, if_false]
    by_cases hnext : c + 1 < f.mEncodeWidth / 2
    · rw [if_pos (show c * 2 + 1 + 1 < f.mEncodeWidth by omega), if_pos hnext,
        Nat.add_one_mul c]
    · rw [if_neg (show ¬ c * 2 + 1 + 1 < f.mEncodeWidth by omega), if_neg hnext]
      rfl
  · rintro k ⟨hky, hkv, hku⟩
    refine Plane.fillAll_of_not_has ?_
    simp only [List.mem_cons, List.not_mem_nil, or_false, forall_eq_or_imp, forall_eq]
    refine ⟨hky, ?_⟩
    rintro ⟨r, hr, c, hc, rfl⟩
    simp only [vuFill] at hr hc
    simp only [vuFill, Plane.cell, Nat.mul_one] at hkv hku
    rcases Nat.mod_two_eq_zero_or_one c with heven | hodd
    · exact hkv ⟨r, hr, c / 2, by simp only; omega, by simp only [Plane.cell]; omega⟩
    · exact hku ⟨r, hr, c / 2, by simp only; omega, by simp only [Plane.cell]; omega⟩

/-- **A 4:2:0 frame of even size is laid out exactly if its format keeps the layout.**

**Proof sketch.** Each loop fills a plane (`RowLoop.rows_eq`). The planes that are filled are those
of the layout, except for the chroma of a planar frame of the camera: its places are right for a
multiple of 32 pixels (`chromaPlane_eq`), and else leave the last byte of the layout as it was
(`not_laidOut_camera`). -/
theorem laidOut_iff {f : SizedFrame} (hw : f.mEncodeWidth % 2 = 0) (hh : f.mEncodeHeight % 2 = 0)
    (hfmt : f.mFormat = .CAMERA_FRAME_FORMAT_YUV420P ∨ f.mFormat = .CAMERA_FRAME_FORMAT_YUV420SP)
    (forvce : Bool) : LaidOut f forvce ↔ KeepsLayout f forvce := by
  have hlaid : (∀ src_len src dst, ∃ planes, cameraFrameToNV21YV12_OA f src_len forvce src dst =
      some (true, Plane.fillAll planes dst) ∧ planes.Perm (targetPlanes f forvce src)) →
      f.mFormat = .CAMERA_FRAME_FORMAT_YUV420P → LaidOut f forvce := fun hcall hfmt =>
    ⟨planes_targetPlanes f forvce, apart_targetPlanes f forvce, fun src_len src dst => by
      obtain ⟨planes, hout, hperm⟩ := hcall src_len src dst
      exact ⟨_, hout, holds_of_fillAll hfmt hperm⟩⟩
  rcases hfmt with hfmt | hfmt
  · rw [KeepsLayout, if_pos hfmt]
    cases forvce with
    | true =>
      refine iff_of_true (hlaid (fun src_len src dst => ?_) hfmt) (Or.inl rfl)
      exact ⟨_, toYV12_vce hfmt src_len src dst, List.Perm.refl _⟩
    | false =>
      constructor
      · intro h
        by_contra hkeeps
        obtain ⟨-, hwidth, hrows⟩ := by simpa only [not_or] using hkeeps
        exact not_laidOut_camera hfmt hw hh hwidth hrows h
      · rintro (hforvce | hwidth | hrows)
        · cases hforvce
        · obtain ⟨haligned, hquarter⟩ := chromaPlane_eq hwidth hh
          refine hlaid (fun src_len src dst => ⟨_, toYV12_camera hfmt src_len src dst, ?_⟩) hfmt
          rw [targetPlanes, if_pos hfmt, hquarter]
          simp only [yv12Planes, List.zip_cons_cons, List.zip_nil_right, lumaFill, chromaPlane,
            haligned]
          exact (List.Perm.swap _ _ _).cons _
        · -- without rows, nothing is written and nothing has to be
          refine ⟨planes_targetPlanes f false, apart_targetPlanes f false,
            fun src_len src dst => ⟨_, toYV12_camera hfmt src_len src dst, ?_, ?_⟩⟩
          · intro p hp r hr
            rw [targetPlanes, if_pos hfmt] at hp
            simp only [yv12Planes, hrows, List.zip_cons_cons, List.zip_nil_right, List.mem_cons,
              List.not_mem_nil, or_false] at hp
            rcases hp with rfl | rfl | rfl <;> exact absurd hr (Nat.not_lt_zero _)
          · intro k _
            refine Plane.fillAll_of_not_has ?_
            simp only [List.mem_cons, List.not_mem_nil, or_false, forall_eq_or_imp, forall_eq,
              lumaFill, chromaPlane, hrows]
            exact ⟨Plane.not_has_of_empty (Or.inl rfl), Plane.not_has_of_empty (Or.inl rfl),
              Plane.not_has_of_empty (Or.inl rfl)⟩
  · have hnot : ¬ (f.mFormat = .CAMERA_FRAME_FORMAT_YUV420P) := by
      rw [hfmt]
      decide
    rw [KeepsLayout, if_neg hnot]
    constructor
    · intro h
      by_contra hkeeps
      obtain ⟨out, hout, -⟩ := h.copied 0 (fun _ => 0#8) fun _ => 0#8
      rw [cameraFrameToNV21YV12_OA, hfmt] at hout
      simp only at hout
      rw [if_pos (by omega)] at hout
      cases hout
    · intro hrows
      exact ⟨planes_targetPlanes f forvce, apart_targetPlanes f forvce, fun src_len src dst =>
        ⟨_, toNV21 hfmt hw (by omega) forvce src_len src dst, holds_nv21 hfmt hw forvce src dst⟩⟩

/-- A preview frame of the camera, 176 pixels wide. -/
def qcifFrame (mFormat : FrameFormat) : SizedFrame where
  mFormat := mFormat
  mOrigWidth := 176
  mOrigHeight := 144
  mXOff := 0
  mYOff := 0
  mWidth := 176
  mHeight := 144
  mEncodeWidth := 176
  mEncodeHeight := 144
  crop_x := by decide
  crop_y := by decide
  origWidth_lt := by decide
  origHeight_lt := by decide
  encodeWidth_lt := by decide
  encodeHeight_lt := by decide

/-- From the hardware scaler, this frame is laid out. -/
theorem laidOut_qcifFrame : LaidOut (qcifFrame .CAMERA_FRAME_FORMAT_YUV420P) true :=
  (laidOut_iff (by decide) (by decide) (Or.inl rfl) true).mpr (by simp [KeepsLayout, qcifFrame])

/-- From the camera, the planar frame's `u` plane starts at 31680 instead of at
`ALIGN16(176) * 144 + ALIGN16(88) * 72 = 32256`. -/
theorem not_laidOut_qcifFrame :
    ¬ LaidOut (qcifFrame .CAMERA_FRAME_FORMAT_YUV420P) false ∧
      (yv12Planes 176 144).map Plane.base = [0, 25344, 32256] ∧
      176 * 144 + 176 * 144 / 2 ^ 2 = 31680 :=
  ⟨not_laidOut_camera rfl (by decide) (by decide) (by decide) (by decide), by decide, by decide⟩

end CameraHal
