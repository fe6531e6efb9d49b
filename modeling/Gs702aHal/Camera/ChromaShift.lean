import Gs702aHal.Camera.FrameLayout

set_option relaxedAutoImplicit false
set_option autoImplicit false

/-!
# Chroma rows that are shifted

NV12 has `u` before `v`, NV21 the other way round. With `SIMPLE_YUV420_CONV` the chroma rows of a
semi-planar frame are not exchanged pair by pair: a row is copied from its second byte on, so that
each `v` is followed by the `u` of the next pair. For the last pair there is no next one, and its
`v` is stored once more.

## Main definitions

* `CameraHal.RowLoop.swap` — the loop that exchanges the bytes of each pair.
* `CameraHal.toVU` — the chroma rows with one of the two conversions.
* `CameraHal.ValidConversion` — the copy is a conversion from `u` and `v` to `v` and `u`.

## Main results

* `CameraHal.toVU_swap`, `CameraHal.toVU_shift` — what the conversions leave in a row.
* `CameraHal.validConversion_iff` — when the copy is a conversion.
-/

namespace CameraHal

open StoreLog

namespace RowLoop

/-- The loop that exchanges the two bytes of each pair of a row. -/
def swap (src : Buffer) (w : ℕ) (s : RowLoop) : Buffer :=
  forLoop (w / 2) (fun col buffer =>
    Function.update (Function.update buffer (s.dst + col * 2) (src (s.src + (col * 2 + 1))))
      (s.dst + (col * 2 + 1)) (src (s.src + col * 2))) s.buffer

/-- The other byte of a pair. -/
def partner (c : ℕ) : ℕ := if c % 2 = 0 then c + 1 else c - 1

/-- What an exchanged row stores. -/
lemma swap_eq (src : Buffer) {w : ℕ} (hw : w % 2 = 0) (s : RowLoop) :
    swap src w s = storeAll (passes w fun c => [(s.dst + c, src (s.src + partner c))])
      s.buffer := by
  obtain ⟨n, rfl⟩ : ∃ n, w = n * 2 := ⟨w / 2, by omega⟩
  rw [swap, Nat.mul_div_cancel n Nat.two_pos]
  let done := fun col : ℕ =>
    storeAll (passes (col * 2) fun c => [(s.dst + c, src (s.src + partner c))]) s.buffer
  refine forLoop_eq done (fun col => ?_) n
  have heven : partner (col * 2) = col * 2 + 1 := if_pos (Nat.mul_mod_left col 2)
  have hodd : partner (col * 2 + 1) = col * 2 := (if_neg (by omega)).trans (Nat.add_sub_cancel _ 1)
  simp only [done, Nat.add_one_mul col, passes_succ, storeAll_append, storeAll_cons, storeAll_nil,
    heven, hodd]

/-- Exchanged rows. -/
lemma rows_swap (src : Buffer) {w : ℕ} (hw : w % 2 = 0) (n srcStride dstStride : ℕ)
    (s : RowLoop) :
    s.rows n (swap src w) srcStride dstStride =
      ⟨s.src + n * srcStride, s.dst + n * dstStride,
        storeAll (Plane.fill ⟨s.dst, dstStride, 1, n, w⟩
          fun r c => src (s.src + r * srcStride + partner c)) s.buffer⟩ :=
  rows_eq w (fun a c => src (a + partner c)) (swap_eq src hw) n srcStride dstStride s

/-- The source pointer goes on by a stride for each row. -/
lemma rows_src (row : RowLoop → Buffer) (srcStride dstStride : ℕ) (s : RowLoop) (n : ℕ) :
    (s.rows n row srcStride dstStride).src = s.src + n * srcStride := by
  induction n with
  | zero => simp [rows, forLoop]
  | succ n ih =>
    rw [rows, forLoop, ← rows]
    simp only [ih, Nat.add_one_mul n]
    omega

/-- The places that the copy of a row reads from. -/
def shiftReads (w : ℕ) (s : RowLoop) : List ℕ := (List.range (w - 1)).map fun i => s.src + 1 + i

end RowLoop

/-- The distance of the rows of the source. -/
def srcStride (f : SizedFrame) (forvce : Bool) : ℕ :=
  if forvce then ALIGN16 f.mEncodeWidth else f.mEncodeWidth

/-- The start of a chroma row of a semi-planar source. -/
def chromaRow (f : SizedFrame) (forvce : Bool) (r : ℕ) : ℕ :=
  srcStride f forvce * (if forvce then ALIGN16 f.mEncodeHeight else f.mEncodeHeight) +
    r * srcStride f forvce

/-- The variables behind the luma of a semi-planar frame, where the chroma begins. -/
def atChroma (f : SizedFrame) (forvce : Bool) (src dst : Buffer) : RowLoop :=
  let padY := if forvce then ALIGN16 f.mEncodeHeight - f.mEncodeHeight else 0
  let s := (⟨0, 0, dst⟩ : RowLoop).rows f.mEncodeHeight (RowLoop.copy src f.mEncodeWidth)
    (srcStride f forvce) (ALIGN16 f.mEncodeWidth)
  { s with src := s.src + srcStride f forvce * padY }

/-- The destination after the luma and the chroma rows of a semi-planar frame. -/
def toVU (row : Buffer → ℕ → RowLoop → Buffer) (f : SizedFrame) (forvce : Bool)
    (src dst : Buffer) : Buffer :=
  ((atChroma f forvce src dst).rows (f.mEncodeHeight / 2) (row src f.mEncodeWidth)
    (srcStride f forvce) (ALIGN16 f.mEncodeWidth)).buffer

/-- The places that the copies of the chroma rows read from, each with its row. -/
def chromaReads (f : SizedFrame) (forvce : Bool) (src dst : Buffer) : List (ℕ × ℕ) :=
  forLoopLog (f.mEncodeHeight / 2)
    (fun _ s => ⟨s.src + srcStride f forvce, s.dst + ALIGN16 f.mEncodeWidth,
      RowLoop.shift src f.mEncodeWidth s⟩)
    (fun r s => (RowLoop.shiftReads f.mEncodeWidth s).map (Prod.mk r)) (atChroma f forvce src dst)

/-- A semi-planar frame is converted by the copies of its rows. -/
lemma cameraFrameToNV21YV12_OA_eq {f : SizedFrame}
    (hfmt : f.mFormat = .CAMERA_FRAME_FORMAT_YUV420SP) (src_len : ℕ) (forvce : Bool)
    (src dst : Buffer) :
    cameraFrameToNV21YV12_OA f src_len forvce src dst =
      if f.mEncodeWidth = 0 ∧ 0 < f.mEncodeHeight / 2 then none
      else some (true, toVU RowLoop.shift f forvce src dst) := by
  simp only [cameraFrameToNV21YV12_OA, hfmt]
  rfl

/-- The place of the first byte of a pair in the destination. -/
def vuPlace (f : SizedFrame) (r c : ℕ) : ℕ :=
  ALIGN16 f.mEncodeWidth * f.mEncodeHeight + r * ALIGN16 f.mEncodeWidth + c * 2

/-- The copies are a conversion: in every chroma row each `v` is what the exchanging loop stores
there, each `u` is that of the same pair or of one next to it, and the copies read inside of the
source's row. -/
structure ValidConversion (f : SizedFrame) (forvce : Bool) (src : Buffer) : Prop where
  converted : ∀ src_len dst, ∃ out,
    cameraFrameToNV21YV12_OA f src_len forvce src dst = some (true, out) ∧
      ∀ r < f.mEncodeHeight / 2, ∀ c < f.mEncodeWidth / 2,
        out (vuPlace f r c) = toVU RowLoop.swap f forvce src dst (vuPlace f r c) ∧
          ∃ c' < f.mEncodeWidth / 2, (c' ≤ c + 1 ∧ c ≤ c' + 1) ∧
            out (vuPlace f r c + 1) = (sourceSamples f forvce src).u r c'
  inside : ∀ dst, ∀ read ∈ chromaReads f forvce src dst,
    chromaRow f forvce read.1 ≤ read.2 ∧ read.2 < chromaRow f forvce read.1 + f.mEncodeWidth

/-! ### What the rows hold -/

variable {f : SizedFrame}

/-- The variables behind the luma. -/
lemma atChroma_eq (f : SizedFrame) (forvce : Bool) (src dst : Buffer) :
    atChroma f forvce src dst = ⟨chromaRow f forvce 0, ALIGN16 f.mEncodeWidth * f.mEncodeHeight,
      Plane.fillAll [lumaFill f forvce src] dst⟩ := by
  have hluma := rows_luma f forvce src dst
  have hstart := chroma_start f forvce
  rw [atChroma]
  simp only [srcStride, hluma, RowLoop.mk.injEq, and_true]
  refine ⟨hstart.trans ?_, by rw [Nat.zero_add, Nat.mul_comm]⟩
  unfold chromaRow srcStride
  cases forvce <;> simp

/-- A byte of a converted row, for a conversion that fills rows.

**Proof sketch.** The rows of the destination fit into its aligned width. -/
lemma toVU_apply {row : Buffer → ℕ → RowLoop → Buffer} {place : ℕ → ℕ} {src : Buffer}
    (hrow : ∀ n srcStride dstStride s, RowLoop.rows n (row src f.mEncodeWidth) srcStride dstStride
      s = ⟨s.src + n * srcStride, s.dst + n * dstStride,
        storeAll (Plane.fill ⟨s.dst, dstStride, 1, n, f.mEncodeWidth⟩
          fun r c => src (s.src + r * srcStride + place c)) s.buffer⟩)
    (forvce : Bool) (dst : Buffer) {r c : ℕ} (hr : r < f.mEncodeHeight / 2)
    (hc : c < f.mEncodeWidth) :
    toVU row f forvce src dst (vuPlace f r 0 + c) = src (chromaRow f forvce r + place c) := by
  have hfits : (⟨ALIGN16 f.mEncodeWidth * f.mEncodeHeight, ALIGN16 f.mEncodeWidth, 1,
      f.mEncodeHeight / 2, f.mEncodeWidth⟩ : Plane).Fits := fits_aligned _ _ _
  have hrows := @Plane.holds_fill _ _ (Plane.fillAll [lumaFill f forvce src] dst)
    (fun r c => src (chromaRow f forvce 0 + r * srcStride f forvce + place c)) hfits
  have hcell := hrows r hr c hc
  rw [toVU, atChroma_eq, hrow]
  simp only [Plane.cell, Nat.mul_one] at hcell
  simp only [vuPlace, Nat.zero_mul, Nat.add_zero, hcell]
  simp only [chromaRow, Nat.zero_mul, Nat.add_zero]

/-- The exchanging loop takes each byte from the place of its partner. -/
lemma toVU_swap (hw : f.mEncodeWidth % 2 = 0) (forvce : Bool) (src dst : Buffer) {r c : ℕ}
    (hr : r < f.mEncodeHeight / 2) (hc : c < f.mEncodeWidth) :
    toVU RowLoop.swap f forvce src dst (vuPlace f r 0 + c) =
      src (chromaRow f forvce r + RowLoop.partner c) :=
  toVU_apply (RowLoop.rows_swap src hw) forvce dst hr hc

/-- The copies take each byte from the next place, and the last one from its own. -/
lemma toVU_shift (hw : f.mEncodeWidth % 2 = 0) (forvce : Bool) (src dst : Buffer) {r c : ℕ}
    (hr : r < f.mEncodeHeight / 2) (hc : c < f.mEncodeWidth) :
    toVU RowLoop.shift f forvce src dst (vuPlace f r 0 + c) =
      src (chromaRow f forvce r + if c + 1 < f.mEncodeWidth then c + 1 else c) :=
  toVU_apply (RowLoop.rows_shift src hw) forvce dst hr hc

/-- The chroma of a semi-planar source. -/
lemma sourceSamples_chroma (hfmt : f.mFormat = .CAMERA_FRAME_FORMAT_YUV420SP) (forvce : Bool)
    (src : Buffer) (r c : ℕ) :
    (sourceSamples f forvce src).u r c = src (chromaRow f forvce r + c * 2) ∧
      (sourceSamples f forvce src).v r c = src (chromaRow f forvce r + c * 2 + 1) := by
  have hnot : ¬ f.mFormat = .CAMERA_FRAME_FORMAT_YUV420P := by
    rw [hfmt]
    decide
  rw [sourceSamples, if_neg fun h => hnot h.1]
  cases forvce <;> exact ⟨rfl, rfl⟩

/-- The copies read inside of the row.

**Proof sketch.** Before the row `r`, the source pointer is at its start; the copy reads one byte
less than the row has, from the second one on. -/
lemma chromaReads_inside (f : SizedFrame) (forvce : Bool) (src dst : Buffer) :
    ∀ read ∈ chromaReads f forvce src dst, chromaRow f forvce read.1 ≤ read.2 ∧
      read.2 < chromaRow f forvce read.1 + f.mEncodeWidth := by
  intro read hread
  obtain ⟨r, -, hread⟩ := (mem_forLoopLog (fun n => (atChroma f forvce src dst).rows n
    (RowLoop.shift src f.mEncodeWidth) (srcStride f forvce) (ALIGN16 f.mEncodeWidth))
    (fun _ => rfl)).mp hread
  obtain ⟨k, hk, rfl⟩ := List.mem_map.mp hread
  obtain ⟨i, hi, rfl⟩ := List.mem_map.mp hk
  have hlt := List.mem_range.mp hi
  have hrow : chromaRow f forvce r = chromaRow f forvce 0 + r * srcStride f forvce := by
    simp [chromaRow]
  simp only [RowLoop.rows_src, atChroma_eq, hrow]
  omega

/-- **The copies of the rows are a conversion exactly if** there are no chroma rows, or the last
`v` of each of them happens to be the `u` of its own pair or of the one before; without columns the
copy of a row has no result.

**Proof sketch.** Each `v` comes from the place before it, as in the exchanging loop. Each `u` but
the last comes from the next pair. In the place of the last `u` stands the last `v`. -/
theorem validConversion_iff (hw : f.mEncodeWidth % 2 = 0)
    (hfmt : f.mFormat = .CAMERA_FRAME_FORMAT_YUV420SP) (forvce : Bool) (src : Buffer) :
    ValidConversion f forvce src ↔ f.mEncodeHeight / 2 = 0 ∨ f.mEncodeWidth ≠ 0 ∧
      ∀ r < f.mEncodeHeight / 2, ∃ c < f.mEncodeWidth / 2, f.mEncodeWidth / 2 ≤ c + 2 ∧
        (sourceSamples f forvce src).v r (f.mEncodeWidth / 2 - 1) =
          (sourceSamples f forvce src).u r c := by
  have hcall := cameraFrameToNV21YV12_OA_eq hfmt
  constructor
  · intro h
    by_contra hcond
    push Not at hcond
    obtain ⟨hrows, hcond⟩ := hcond
    obtain ⟨out, hout, hvu⟩ := h.converted 0 fun _ => 0
    rw [hcall] at hout
    by_cases hzero : f.mEncodeWidth = 0
    · rw [if_pos ⟨hzero, Nat.pos_of_ne_zero hrows⟩] at hout
      cases hout
    · rw [if_neg fun hnone => hzero hnone.1] at hout
      obtain ⟨r, hr, hne⟩ := hcond hzero
      obtain rfl := (Prod.mk.inj (Option.some.inj hout)).2
      obtain ⟨-, c', hc', hnear, hu⟩ := hvu r hr (f.mEncodeWidth / 2 - 1) (by omega)
      refine hne c' hc' (by omega) ?_
      rw [← hu, (sourceSamples_chroma hfmt forvce src r _).2]
      have hlast := toVU_shift hw forvce src (fun _ => 0) hr
        (show f.mEncodeWidth - 1 < f.mEncodeWidth by omega)
      rw [if_neg (by omega)] at hlast
      have hplace : vuPlace f r (f.mEncodeWidth / 2 - 1) + 1 =
          vuPlace f r 0 + (f.mEncodeWidth - 1) := by
        unfold vuPlace
        omega
      rw [hplace, hlast]
      congr 1
      omega
  · intro hcond
    refine ⟨fun src_len dst => ?_, chromaReads_inside f forvce src⟩
    have hnone : ¬ (f.mEncodeWidth = 0 ∧ 0 < f.mEncodeHeight / 2) := by
      rintro ⟨hzero, hpos⟩
      rcases hcond with hrows | ⟨hne, -⟩
      · omega
      · exact hne hzero
    refine ⟨_, (hcall src_len forvce src dst).trans (if_neg hnone), fun r hr c hc => ?_⟩
    have hfirst : vuPlace f r c = vuPlace f r 0 + c * 2 := by simp [vuPlace]
    have hsecond : vuPlace f r c + 1 = vuPlace f r 0 + (c * 2 + 1) := by rw [hfirst, Nat.add_assoc]
    constructor
    · rw [hfirst, toVU_shift hw forvce src dst hr (by omega),
        toVU_swap hw forvce src dst hr (by omega), if_pos (by omega), RowLoop.partner,
        if_pos (Nat.mul_mod_left c 2)]
    · rw [hsecond, toVU_shift hw forvce src dst hr (by omega)]
      by_cases hnext : c + 1 < f.mEncodeWidth / 2
      · refine ⟨c + 1, hnext, by omega, ?_⟩
        rw [if_pos (by omega), (sourceSamples_chroma hfmt forvce src r _).1, Nat.add_one_mul c]
      · rcases hcond with hrows | ⟨-, hlast⟩
        · omega
        obtain ⟨c', hc', hnear, hu⟩ := hlast r hr
        refine ⟨c', hc', by omega, ?_⟩
        rw [if_neg (by omega), ← hu, (sourceSamples_chroma hfmt forvce src r _).2]
        congr 1
        omega

/-- A semi-planar frame of one pair of columns and one of rows. -/
def pairFrame : SizedFrame where
  mFormat := .CAMERA_FRAME_FORMAT_YUV420SP
  mOrigWidth := 2
  mOrigHeight := 2
  mXOff := 0
  mYOff := 0
  mWidth := 2
  mHeight := 2
  mEncodeWidth := 2
  mEncodeHeight := 2
  crop_x := by decide
  crop_y := by decide
  origWidth_lt := (by decide : 2 < 4294967296)
  origHeight_lt := (by decide : 2 < 4294967296)
  encodeWidth_lt := (by decide : 2 < 4294967296)
  encodeHeight_lt := (by decide : 2 < 4294967296)

/-- A frame without colours. -/
theorem validConversion_grey :
    ValidConversion pairFrame false (fun _ => 128#8) ↔ pairFrame.mEncodeHeight / 2 = 0 ∨
      pairFrame.mEncodeWidth ≠ 0 ∧ ∀ r < pairFrame.mEncodeHeight / 2,
        ∃ c < pairFrame.mEncodeWidth / 2, pairFrame.mEncodeWidth / 2 ≤ c + 2 ∧
          (sourceSamples pairFrame false fun _ => 128#8).v r (pairFrame.mEncodeWidth / 2 - 1) =
            (sourceSamples pairFrame false fun _ => 128#8).u r c :=
  validConversion_iff (by decide) rfl false _

/-- In a frame with colours, the last `u` is a `v`. -/
theorem not_validConversion_colour :
    ¬ ValidConversion pairFrame false fun k => if k = 4 then 16#8 else 240#8 := by
  intro h
  obtain ⟨out, hout, hvu⟩ := h.converted 0 fun _ => 0
  have hvalue : (cameraFrameToNV21YV12_OA pairFrame 0 false
      (fun k => if k = 4 then 16#8 else 240#8) fun _ => 0).map (fun p => p.2 33) =
        some 240#8 := by decide +kernel
  obtain ⟨-, c', hc', -, hu⟩ := hvu 0 (by decide) 0 (by decide)
  obtain rfl : c' = 0 := Nat.lt_one_iff.mp hc'
  rw [hout, Option.map_some, Option.some.injEq] at hvalue
  have hlast : out 33 = 16#8 := hu
  exact absurd (hlast.symm.trans hvalue) (by decide)

end CameraHal
