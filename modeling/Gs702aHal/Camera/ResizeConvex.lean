import Gs702aHal.Camera.YuyvChroma
import Gs702aHal.Camera.JpegScaled

set_option relaxedAutoImplicit false
set_option autoImplicit false

/-!
# Blending without overshoot

Each sample of a scaled image is a weighted mean of samples of the source, with weights that add up
to a power of two: it lies between them and fits into its place, a byte or the field of a 16-bit
pixel. So an image of one colour is scaled to an image of one colour. It is the same colour, but for
`u` and `v` of a packed image with a crop rectangle from an odd column on.

## Main definitions

* `CameraHal.Routine` — the three scalers.
* `CameraHal.Routine.samples` — the samples of a pixel of an image.
* `CameraHal.Routine.blended` — the samples of the source that they are blended from.
* `CameraHal.Interpolates` — each output sample is the mean of its sources and lies between them.
* `CameraHal.KeepsColour` — an image of one colour is scaled to an image of this colour.

## Main results

* `CameraHal.interpolates_of_run` — every scaled image interpolates the source.
* `CameraHal.resizesConvexly_iff` — when colours are kept as well.
-/

namespace CameraHal

open StoreLog

/-- The scalers. -/
inductive Routine
  | RGB565Resize
  | YUYVResize
  | YUV420Resize
  deriving DecidableEq, Repr

/-- What a sample tells of its pixel. -/
inductive Sample
  | r
  | g
  | b
  | y
  | u
  | v
  deriving DecidableEq, Repr

/-- Four samples around a position: itself, below, right, below right. -/
structure Quad where
  p1 : ℕ
  p2 : ℕ
  p3 : ℕ
  p4 : ℕ

namespace Quad

/-- Their weighted mean. -/
def mean (q : Quad) (hCoef wCoef : ℕ) : ℕ := blend hCoef wCoef q.p1 q.p2 q.p3 q.p4

/-- The smallest of them. -/
def min (q : Quad) : ℕ := Min.min (Min.min q.p1 q.p2) (Min.min q.p3 q.p4)

/-- The largest of them. -/
def max (q : Quad) : ℕ := Max.max (Max.max q.p1 q.p2) (Max.max q.p3 q.p4)

/-- The mean lies between the smallest and the largest. -/
lemma min_le_mean (q : Quad) (hCoef wCoef : ℕ) :
    q.min ≤ q.mean hCoef wCoef ∧ q.mean hCoef wCoef ≤ q.max := by
  unfold mean min max
  constructor
  · apply le_blend <;> simp
  · apply blend_le <;> simp

/-- One function of four numbers. -/
def around (f : ℕ → ℕ → ℕ) (hCoef wCoef : ℕ) : Quad :=
  ⟨f (offsetOf hCoef) (offsetOf wCoef), f (offsetOf hCoef + 1) (offsetOf wCoef),
    f (offsetOf hCoef) (offsetOf wCoef + 1), f (offsetOf hCoef + 1) (offsetOf wCoef + 1)⟩

/-- Four samples that are the same have that one as their mean. -/
lemma mean_around {f : ℕ → ℕ → ℕ} {hCoef wCoef p : ℕ}
    (h : ∀ y ≤ offsetOf hCoef + 1, ∀ x ≤ offsetOf wCoef + 1, f y x = p) :
    (around f hCoef wCoef).mean hCoef wCoef = p := by
  have hy := Nat.le_succ (offsetOf hCoef)
  have hx := Nat.le_succ (offsetOf wCoef)
  rw [mean, around, h _ hy _ hx, h _ le_rfl _ hx, h _ hy _ le_rfl, h _ le_rfl _ le_rfl, blend_self]

end Quad

namespace Routine

/-- The function. -/
def run : Routine → RGBOrYUV → RGBOrYUV → ImageResize → Buffer → Buffer → Option Buffer
  | RGB565Resize => CameraHal.RGB565Resize
  | YUYVResize => CameraHal.YUYVResize
  | YUV420Resize => CameraHal.YUV420Resize

/-- The samples of the pixel `(r, c)` of an image with rows of `w` pixels. -/
def samples (image : RGBOrYUV) (w : ℕ) (m : Buffer) (r c : ℕ) : Routine → List (Sample × ℕ)
  | RGB565Resize =>
    let pixel := half m (image.y + 2 * (r * w + c))
    [(.r, pixel / 2 ^ 11 % 32), (.g, pixel / 2 ^ 5 % 64), (.b, pixel / 2 ^ 0 % 32)]
  | YUYVResize =>
    [(.y, (m (image.y + 2 * (r * w + c))).toNat),
      (if c % 2 = 0 then .u else .v, (m (chromaPlace image w r c)).toNat)]
  | YUV420Resize =>
    (.y, (m (image.y + r * image.yStride + c)).toNat) ::
      if r % 2 = 0 ∧ c % 2 = 0 then
        [(.u, (m (image.u + r / 2 * image.uStride + c / 2 * image.du)).toNat),
          (.v, (m (image.v + r / 2 * image.vStride + c / 2 * image.dv)).toNat)]
      else []

/-- The samples of the source that the samples of an output pixel are blended from. The chroma of a
packed image is blended from two rows only. -/
def blended (in_ : RGBOrYUV) (resize : ImageResize) (src : Buffer) (r c : ℕ) :
    Routine → List Quad
  | RGB565Resize =>
    [(11, 32), (5, 64), (0, 32)].map fun field => Quad.around
      (fun y x => half src (packedAt in_ resize y x) / 2 ^ field.1 % field.2) (rowCoef resize r)
      (colCoef resize c)
  | YUYVResize =>
    [Quad.around (fun y x => (src (packedAt in_ resize y x)).toNat) (rowCoef resize r)
        (colCoef resize c),
      Quad.around (fun y _ => chromaByte src in_ resize c y (colCoef resize c)) (rowCoef resize r)
        (colCoef resize c)]
  | YUV420Resize =>
    Quad.around (fun y x => (src (lumaAt in_ resize y x)).toNat) (rowCoef resize r)
        (colCoef resize c) ::
      if r % 2 = 0 ∧ c % 2 = 0 then
        [Quad.around (fun y x => (src (chromaAt in_.u in_.uStride in_.du resize y x)).toNat)
            (rowCoef resize r) (colCoef resize c),
          Quad.around (fun y x => (src (chromaAt in_.v in_.vStride in_.dv resize y x)).toNat)
            (rowCoef resize r) (colCoef resize c)]
      else []

end Routine

/-- Each output sample is the mean of the samples that it is blended from, as it stands in the
memory, and lies between the smallest and the largest of them. -/
def Interpolates (routine : Routine) (out in_ : RGBOrYUV) (resize : ImageResize)
    (src m : Buffer) : Prop :=
  ∀ r < resize.outputH, ∀ c < resize.outputW,
    List.Forall₂ (fun sample quad => sample.2 = quad.mean (rowCoef resize r) (colCoef resize c) ∧
        quad.min ≤ sample.2 ∧ sample.2 ≤ quad.max)
      (routine.samples out resize.outputW m r c) (routine.blended in_ resize src r c)

/-- The image has one colour. -/
def HasColour (routine : Routine) (image : RGBOrYUV) (w h : ℕ) (m : Buffer)
    (colour : Sample → ℕ) : Prop :=
  ∀ r < h, ∀ c < w, ∀ sample ∈ routine.samples image w m r c, sample.2 = colour sample.1

/-- The scaler interpolates, and with a crop rectangle inside of an image of one colour the output
has this colour. -/
def ResizesConvexly (routine : Routine) (out in_ : RGBOrYUV) (resize : ImageResize)
    (src dst : Buffer) : Prop :=
  ∃ m, routine.run out in_ resize src dst = some m ∧ Interpolates routine out in_ resize src m ∧
    (CropInside resize → ∀ colour, HasColour routine in_ resize.inputW resize.inputH src colour →
      HasColour routine out resize.outputW resize.outputH m colour)

/-- A call that the scalers allow: the image has pixels, no side of the output has one pixel, and
the planes of an output with planes do not overlap. -/
structure Allowed (routine : Routine) (out : RGBOrYUV) (resize : ImageResize) : Prop where
  pixels : ¬ (resize.inputW < 1 ∨ resize.inputH < 1)
  outputW_ne : resize.outputW ≠ 1
  outputH_ne : resize.outputH ≠ 1
  outputW_lt : resize.outputW < 2 ^ 32
  outputH_lt : resize.outputH < 2 ^ 32
  fits : routine = .YUV420Resize → ∀ p ∈ planesOf out resize.outputW resize.outputH
    ((resize.outputW + 1) / 2) ((resize.outputH + 1) / 2), p.Fits
  apart : routine = .YUV420Resize → (planesOf out resize.outputW resize.outputH
    ((resize.outputW + 1) / 2) ((resize.outputH + 1) / 2)).Pairwise fun p q =>
      ∀ k, p.Has k → ¬ q.Has k

/-! ### Interpolation -/

variable {routine : Routine} {out in_ : RGBOrYUV} {resize : ImageResize} {src dst m : Buffer}

/-- A mean that stands in the memory lies between its sources. -/
lemma mean_between {n : ℕ} {q : Quad} {hCoef wCoef : ℕ} (h : n = q.mean hCoef wCoef) :
    n = q.mean hCoef wCoef ∧ q.min ≤ n ∧ n ≤ q.max :=
  ⟨h, h ▸ (q.min_le_mean hCoef wCoef).1, h ▸ (q.min_le_mean hCoef wCoef).2⟩

/-- The fields of a blended pixel do not mix. -/
lemma rgb565Pixel_fields (src : Buffer) (in_ : RGBOrYUV) (resize : ImageResize)
    (col hCoef wCoef : ℕ) :
    ∀ field ∈ [(11, 32), (5, 64), (0, 32)],
      rgb565Pixel src in_ resize col hCoef wCoef / 2 ^ field.1 % field.2 =
        (Quad.around (fun y x => half src (packedAt in_ resize y x) / 2 ^ field.1 % field.2) hCoef
          wCoef).mean hCoef wCoef := by
  have hmod {n size : ℕ} (hsize : 0 < size) : n % size ≤ size - 1 :=
    Nat.le_sub_one_of_lt (Nat.mod_lt n hsize)
  have hle (shift size : ℕ) (hsize : 0 < size) :
      (Quad.around (fun y x => half src (packedAt in_ resize y x) / 2 ^ shift % size) hCoef
        wCoef).mean hCoef wCoef ≤ size - 1 :=
    blend_le hCoef wCoef (hmod hsize) (hmod hsize) (hmod hsize) (hmod hsize)
  have hred := hle 11 32 (by decide)
  have hgreen := hle 5 64 (by decide)
  have hblue := hle 0 32 (by decide)
  have hpixel : rgb565Pixel src in_ resize col hCoef wCoef =
      (Quad.around (fun y x => half src (packedAt in_ resize y x) / 2 ^ 11 % 32) hCoef
          wCoef).mean hCoef wCoef * 2 ^ 11 +
        (Quad.around (fun y x => half src (packedAt in_ resize y x) / 2 ^ 5 % 64) hCoef
          wCoef).mean hCoef wCoef * 2 ^ 5 +
        (Quad.around (fun y x => half src (packedAt in_ resize y x) / 2 ^ 0 % 32) hCoef
          wCoef).mean hCoef wCoef := rfl
  rw [hpixel]
  simp only [List.forall_mem_cons, List.not_mem_nil, false_imp_iff, implies_true, and_true]
  omega

/-- A pixel of the output exists only if the output has two columns and rows. -/
lemma Allowed.two_le (h : Allowed routine out resize) {r c : ℕ} (hr : r < resize.outputH)
    (hc : c < resize.outputW) : 2 ≤ resize.outputW ∧ 2 ≤ resize.outputH := by
  have hW := h.outputW_ne
  have hH := h.outputH_ne
  omega

/-- The scaler of the 16-bit colours interpolates. -/
lemma interpolates_rgb565 (h : Allowed .RGB565Resize out resize)
    (hm : RGB565Resize out in_ resize src dst = some m) :
    Interpolates .RGB565Resize out in_ resize src m := by
  intro r hr c hc
  obtain ⟨hW, hH⟩ := h.two_le hr hc
  obtain ⟨hlow, hhigh⟩ :=
    packedResize_pixel h.pixels h.outputW_lt h.outputH_lt hW hH hm hr hc
  have hhalf := half_of_bytes (rgb565Pixel_lt src in_ resize c _ _) hlow hhigh
  have hfields := rgb565Pixel_fields src in_ resize c (rowCoef resize r) (colCoef resize c)
  simp only [List.forall_mem_cons, List.not_mem_nil, false_imp_iff, implies_true, and_true]
    at hfields
  obtain ⟨hred, hgreen, hblue⟩ := hfields
  simp only [Routine.samples, Routine.blended, hhalf, List.map_cons, List.map_nil]
  exact .cons (mean_between hred) (.cons (mean_between hgreen) (.cons (mean_between hblue) .nil))

/-- The scaler of the packed `YUV` interpolates. -/
lemma interpolates_yuyv (h : Allowed .YUYVResize out resize)
    (hm : YUYVResize out in_ resize src dst = some m) :
    Interpolates .YUYVResize out in_ resize src m := by
  intro r hr c hc
  obtain ⟨hW, hH⟩ := h.two_le hr hc
  obtain ⟨hlow, -⟩ := packedResize_pixel h.pixels h.outputW_lt h.outputH_lt hW hH hm hr hc
  have hhigh := YUYVResize_chroma h.pixels h.outputW_lt h.outputH_lt hW hH hm hr hc
  have hbyte (y x : ℕ) : chromaByte src in_ resize c y x ≤ 255 :=
    Nat.le_of_lt_succ (src _).isLt
  refine .cons (mean_between ?_) (.cons (mean_between ?_) .nil)
  · simp only [hlow, byte, BitVec.toNat_ofNat]
    exact yuyvPixel_luma src in_ resize c (rowCoef resize r) (colCoef resize c)
  · simp only [hhigh]
    exact toNat_byte (Nat.lt_succ_of_le
      (blend_le _ _ (hbyte _ _) (hbyte _ _) (hbyte _ _) (hbyte _ _)))

/-- A store of a pixel is its luma, or one of its two chroma samples. -/
lemma mem_pixelStores {wStep hStep r c k : ℕ} {b : Byte} :
    (k, b) ∈ pixelStores out in_ resize src wStep hStep r c ↔
      k = out.y + r * out.yStride + c ∧
        b = byte (blendAt src (lumaAt in_ resize) (coefAt hStep r) (coefAt wStep c)) ∨
      (r % 2 = 0 ∧ c % 2 = 0) ∧
        (k = out.u + r / 2 * out.uStride + c / 2 * out.du ∧
          b = byte (blendAt src (chromaAt in_.u in_.uStride in_.du resize) (coefAt hStep r)
            (coefAt wStep c)) ∨
        k = out.v + r / 2 * out.vStride + c / 2 * out.dv ∧
          b = byte (blendAt src (chromaAt in_.v in_.vStride in_.dv resize) (coefAt hStep r)
            (coefAt wStep c))) := by
  rw [pixelStores, List.mem_cons, Prod.mk.injEq]
  refine or_congr Iff.rfl ?_
  split
  case isTrue heven => simp [heven]
  case isFalse hodd => simp [hodd]

/-- The output holds the samples of the planes where they are expected.

**Proof sketch.** Another sample has another place: in its plane because the rows fit, and in
another plane because the planes do not overlap. -/
lemma storeAll_planarStores (h : Allowed .YUV420Resize out resize) (wStep hStep : ℕ) {r c : ℕ}
    (hr : r < resize.outputH) (hc : c < resize.outputW) {k : ℕ} {b : Byte}
    (hk : (k, b) ∈ pixelStores out in_ resize src wStep hStep r c) :
    storeAll (planarStores out in_ resize src wStep hStep resize.outputH) dst k = b := by
  let chroma (plane stride d : ℕ) : ℕ → ℕ → Byte := fun i j =>
    byte (blendAt src (chromaAt plane stride d resize) (coefAt hStep (2 * i))
      (coefAt wStep (2 * j)))
  have hplanes : planesOf out resize.outputW resize.outputH ((resize.outputW + 1) / 2)
      ((resize.outputH + 1) / 2) =
      [((⟨out.y, out.yStride, 1, resize.outputH, resize.outputW⟩ : Plane), fun r c =>
          byte (blendAt src (lumaAt in_ resize) (coefAt hStep r) (coefAt wStep c))),
        (⟨out.v, out.vStride, out.dv, (resize.outputH + 1) / 2, (resize.outputW + 1) / 2⟩,
          chroma in_.v in_.vStride in_.dv),
        (⟨out.u, out.uStride, out.du, (resize.outputH + 1) / 2, (resize.outputW + 1) / 2⟩,
          chroma in_.u in_.uStride in_.du)].map Prod.fst := rfl
  have hfits := h.fits rfl
  have hapart := h.apart rfl
  rw [hplanes] at hfits hapart
  refine Plane.storeAll_of_cells (fun p hp => hfits _ (List.mem_map_of_mem hp))
    (List.pairwise_map.mp hapart) ?_ (mem_planarStores.mpr ⟨r, hr, c, hc, hk⟩)
  rintro ⟨k, b⟩ hw
  obtain ⟨r, hr, c, hc, hw⟩ := mem_planarStores.mp hw
  simp only [List.mem_cons, List.not_mem_nil, or_false, exists_eq_or_imp, exists_eq_left,
    Plane.cell, Nat.mul_one, Prod.mk.injEq]
  rcases mem_pixelStores.mp hw with hluma | ⟨⟨hr2, hc2⟩, hu | hv⟩
  · exact Or.inl ⟨r, hr, c, hc, hluma⟩
  · have hrow : 2 * (r / 2) = r := by omega
    have hcol : 2 * (c / 2) = c := by omega
    refine Or.inr (Or.inr ⟨r / 2, by omega, c / 2, by omega, ?_⟩)
    simp only [chroma, hrow, hcol]
    exact hu
  · have hrow : 2 * (r / 2) = r := by omega
    have hcol : 2 * (c / 2) = c := by omega
    refine Or.inr (Or.inl ⟨r / 2, by omega, c / 2, by omega, ?_⟩)
    simp only [chroma, hrow, hcol]
    exact hv

/-- The scaler of the planes interpolates. -/
lemma interpolates_yuv420 (h : Allowed .YUV420Resize out resize)
    (hm : YUV420Resize out in_ resize src dst = some m) :
    Interpolates .YUV420Resize out in_ resize src m := by
  intro r hr c hc
  obtain ⟨hW, hH⟩ := h.two_le hr hc
  rw [YUV420Resize_eq out in_ resize src dst h.pixels (stepFixed16b_of_two_le hW h.outputW_lt)
    (stepFixed16b_of_two_le hH h.outputH_lt)] at hm
  obtain rfl := Option.some.inj hm
  have hplace {k : ℕ} {sample : ℕ → ℕ → ℕ}
      (hk : (k, byte (blendAt src sample (rowCoef resize r) (colCoef resize c))) ∈
        pixelStores out in_ resize src (shiftedSize resize.inputCrop.w / (resize.outputW - 1))
          (shiftedSize resize.inputCrop.h / (resize.outputH - 1)) r c) :
      (storeAll (planarStores out in_ resize src
        (shiftedSize resize.inputCrop.w / (resize.outputW - 1))
        (shiftedSize resize.inputCrop.h / (resize.outputH - 1)) resize.outputH) dst k).toNat =
      (Quad.around (fun y x => (src (sample y x)).toNat) (rowCoef resize r)
        (colCoef resize c)).mean (rowCoef resize r) (colCoef resize c) := by
    rw [storeAll_planarStores h _ _ hr hc hk, toNat_byte (blendAt_lt _ _ _ _)]
    rfl
  refine .cons (mean_between (hplace (mem_pixelStores.mpr (Or.inl ⟨rfl, rfl⟩)))) ?_
  by_cases heven : r % 2 = 0 ∧ c % 2 = 0
  · rw [if_pos heven, if_pos heven]
    exact .cons (mean_between (hplace (mem_pixelStores.mpr (Or.inr ⟨heven, Or.inl ⟨rfl, rfl⟩⟩))))
      (.cons (mean_between (hplace (mem_pixelStores.mpr (Or.inr ⟨heven, Or.inr ⟨rfl, rfl⟩⟩)))) .nil)
  · rw [if_neg heven, if_neg heven]
    exact .nil

/-- **Every scaled image interpolates its source.** -/
theorem interpolates_of_run (h : Allowed routine out resize)
    (hm : routine.run out in_ resize src dst = some m) :
    Interpolates routine out in_ resize src m := by
  cases routine with
  | RGB565Resize => exact interpolates_rgb565 h hm
  | YUYVResize => exact interpolates_yuyv h hm
  | YUV420Resize => exact interpolates_yuv420 h hm

/-- An allowed call has a result. -/
lemma Allowed.exists_run (h : Allowed routine out resize) (in_ : RGBOrYUV) (src dst : Buffer) :
    ∃ m, routine.run out in_ resize src dst = some m := by
  obtain ⟨wStep, hwStep⟩ := exists_stepFixed16b (c := resize.inputCrop.w) h.outputW_ne h.outputW_lt
  obtain ⟨hStep, hhStep⟩ := exists_stepFixed16b (c := resize.inputCrop.h) h.outputH_ne h.outputH_lt
  cases routine with
  | RGB565Resize => exact ⟨_, packedResize_eq _ out in_ resize src dst h.pixels hwStep hhStep⟩
  | YUYVResize => exact ⟨_, packedResize_eq _ out in_ resize src dst h.pixels hwStep hhStep⟩
  | YUV420Resize => exact ⟨_, YUV420Resize_eq out in_ resize src dst h.pixels hwStep hhStep⟩

/-! ### Images of one colour -/

/-- The kinds of the samples of a pixel that are blended for an output pixel: those of the output
pixel, except that `YUYVResize` takes the kind of the column that the chroma comes from. -/
def Routine.kinds (resize : ImageResize) (r c : ℕ) : Routine → List Sample
  | RGB565Resize => [.r, .g, .b]
  | YUYVResize =>
    [.y, if (resize.inputCrop.x + chromaColumn c (colCoef resize c)) % 2 = 0 then .u else .v]
  | YUV420Resize => .y :: if r % 2 = 0 ∧ c % 2 = 0 then [.u, .v] else []

/-- In an image of one colour, the samples around a position all have the value of their kind.

**Proof sketch.** The rows and columns next to the position are inside of the image. The halves of
the origin and of the position are rounded down on their own; the pixel of the chroma sample is
twice their sum, which is inside as well. -/
lemma mean_of_colour (hcrop : CropInside resize) {colour : Sample → ℕ}
    (hcolour : HasColour routine in_ resize.inputW resize.inputH src colour) {r c : ℕ}
    (hr : r < resize.outputH) (hc : c < resize.outputW) :
    List.Forall₂ (fun quad kind => quad.mean (rowCoef resize r) (colCoef resize c) = colour kind)
      (routine.blended in_ resize src r c) (routine.kinds resize r c) := by
  have hpixel {y x : ℕ} (hy : y ≤ offsetOf (rowCoef resize r) + 1)
      (hx : x ≤ offsetOf (colCoef resize c) + 1) :=
    hcolour _ (hcrop.row_lt hr hy) _ (hcrop.col_lt hc hx)
  cases routine with
  | RGB565Resize =>
    simp only [Routine.samples, List.forall_mem_cons, List.not_mem_nil, false_imp_iff, implies_true,
      and_true, ← packedAt_eq] at hpixel
    exact .cons (Quad.mean_around fun y hy x hx => (hpixel hy hx).1)
      (.cons (Quad.mean_around fun y hy x hx => (hpixel hy hx).2.1)
        (.cons (Quad.mean_around fun y hy x hx => (hpixel hy hx).2.2) .nil))
  | YUYVResize =>
    simp only [Routine.samples, List.forall_mem_cons, List.not_mem_nil, false_imp_iff, implies_true,
      and_true, ← packedAt_eq] at hpixel
    exact .cons (Quad.mean_around fun y hy x hx => (hpixel hy hx).1)
      (.cons (Quad.mean_around fun y hy _ _ => (hpixel hy (chromaColumn_le c _)).2) .nil)
  | YUV420Resize =>
    refine .cons (Quad.mean_around fun y hy x hx => ?_) ?_
    · have hplace : lumaAt in_ resize y x = in_.y + (resize.inputCrop.y + y) * in_.yStride +
          (resize.inputCrop.x + x) := by
        unfold lumaAt
        ring
      rw [hplace]
      exact hpixel hy hx _ List.mem_cons_self
    · have hchroma {y x : ℕ} (hy : y ≤ offsetOf (rowCoef resize r) + 1)
          (hx : x ≤ offsetOf (colCoef resize c) + 1) :
          (src (chromaAt in_.u in_.uStride in_.du resize y x)).toNat = colour .u ∧
            (src (chromaAt in_.v in_.vStride in_.dv resize y x)).toNat = colour .v := by
        have hrow := hcrop.row_lt hr hy
        have hcol := hcrop.col_lt hc hx
        have hplace (plane stride d : ℕ) : chromaAt plane stride d resize y x =
            plane + 2 * (resize.inputCrop.y / 2 + y / 2) / 2 * stride +
              2 * (resize.inputCrop.x / 2 + x / 2) / 2 * d := by
          rw [Nat.mul_div_cancel_left _ Nat.two_pos, Nat.mul_div_cancel_left _ Nat.two_pos]
          unfold chromaAt
          ring
        have hsamples := hcolour (2 * (resize.inputCrop.y / 2 + y / 2)) (by omega)
          (2 * (resize.inputCrop.x / 2 + x / 2)) (by omega)
        simp only [Routine.samples, Nat.mul_mod_right, and_self, if_true, List.forall_mem_cons,
          List.not_mem_nil, false_imp_iff, implies_true, and_true, ← hplace] at hsamples
        exact hsamples.2
      by_cases heven : r % 2 = 0 ∧ c % 2 = 0
      · rw [if_pos heven, if_pos heven]
        exact .cons (Quad.mean_around fun y hy x hx => (hchroma hy hx).1)
          (.cons (Quad.mean_around fun y hy x hx => (hchroma hy hx).2) .nil)
      · rw [if_neg heven, if_neg heven]
        exact .nil

/-- The samples of an output pixel have the values of the kinds that they are blended from. -/
lemma samples_of_colour (hinterpolates : Interpolates routine out in_ resize src m)
    (hcrop : CropInside resize) {colour : Sample → ℕ}
    (hcolour : HasColour routine in_ resize.inputW resize.inputH src colour) {r c : ℕ}
    (hr : r < resize.outputH) (hc : c < resize.outputW) :
    (routine.samples out resize.outputW m r c).map Prod.snd =
      (routine.kinds resize r c).map colour := by
  have hmeans := mean_of_colour hcrop hcolour hr hc
  have hsamples := hinterpolates r hr c hc
  generalize routine.samples out resize.outputW m r c = samples at hsamples ⊢
  generalize routine.kinds resize r c = kinds at hmeans ⊢
  generalize routine.blended in_ resize src r c = quads at hmeans hsamples
  induction hmeans generalizing samples with
  | nil =>
    cases hsamples
    rfl
  | cons hmean _ ih =>
    cases hsamples with
    | cons hsample hrest =>
      rw [List.map_cons, List.map_cons, ih _ hrest, hsample.1, hmean]

/-- **A scaler keeps colours, but for the chroma of a packed image**: the scaler interpolates and
keeps the colour of an image of one colour, unless this is a packed image with different `u` and
`v`, of which the crop rectangle begins in an odd column.

**Proof sketch.** An output sample is the mean of samples of one kind. It is the kind that the
output pixel needs but for the chroma of a packed image, where it is that of the column in the
image. -/
theorem resizesConvexly_iff (h : Allowed routine out resize) (in_ : RGBOrYUV) (src dst : Buffer) :
    ResizesConvexly routine out in_ resize src dst ↔
      (routine = .YUYVResize → CropInside resize → resize.inputCrop.x % 2 = 1 →
        resize.outputW ≠ 0 → resize.outputH ≠ 0 → ∀ colour,
          HasColour routine in_ resize.inputW resize.inputH src colour →
            colour .u = colour .v) := by
  obtain ⟨m, hm⟩ := h.exists_run in_ src dst
  have hinterpolates := interpolates_of_run h hm
  constructor
  · rintro ⟨m', hm', -, hkeeps⟩ rfl hcrop hodd hW hH colour hcolour
    obtain rfl : m' = m := Option.some.inj (hm'.symm.trans hm)
    have hr : 0 < resize.outputH := Nat.pos_of_ne_zero hH
    have hc : 0 < resize.outputW := Nat.pos_of_ne_zero hW
    have hsamples := samples_of_colour hinterpolates hcrop hcolour hr hc
    have hkept := hkeeps hcrop colour hcolour 0 hr 0 hc
    have hcolumn : (resize.inputCrop.x + chromaColumn 0 (colCoef resize 0)) % 2 = 1 := by
      have := chromaColumn_mod 0 (colCoef resize 0)
      omega
    simp only [Routine.samples, Routine.kinds, hcolumn, Nat.zero_mod, if_true, one_ne_zero,
      if_false, List.map_cons, List.map_nil, List.cons.injEq, and_true] at hsamples
    simp only [Routine.samples, List.forall_mem_cons, Nat.zero_mod, if_true] at hkept
    exact hkept.2.1.symm.trans hsamples.2
  · intro hcond
    refine ⟨m, hm, hinterpolates, fun hcrop colour hcolour r hr c hc => ?_⟩
    have hsamples := samples_of_colour hinterpolates hcrop hcolour hr hc
    cases routine with
    | RGB565Resize =>
      simpa [Routine.samples, Routine.kinds] using hsamples
    | YUYVResize =>
      have hkind : colour (if (resize.inputCrop.x + chromaColumn c (colCoef resize c)) % 2 = 0 then
          .u else .v) = colour (if c % 2 = 0 then .u else .v) := by
        have hcolumn := chromaColumn_mod c (colCoef resize c)
        rcases Nat.mod_two_eq_zero_or_one resize.inputCrop.x with heven | hodd
        · rw [chromaColumn_even heven]
        · have hsame := hcond rfl hcrop hodd (by omega) (by omega) colour hcolour
          split <;> split <;> simp [hsame]
      simp only [Routine.samples, Routine.kinds, List.map_cons, List.map_nil, hkind,
        List.cons.injEq, and_true] at hsamples
      simpa [Routine.samples] using hsamples
    | YUV420Resize =>
      by_cases heven : r % 2 = 0 ∧ c % 2 = 0
      · simpa [Routine.samples, Routine.kinds, heven] using hsamples
      · simpa [Routine.samples, Routine.kinds, heven] using hsamples

lemma allowed_cropAt (x : ℕ) : Allowed .YUYVResize {} (cropAt x) where
  pixels := by simp [cropAt]
  outputW_ne := by simp [cropAt]
  outputH_ne := by simp [cropAt]
  outputW_lt := by simp [cropAt]
  outputH_lt := by simp [cropAt]
  fits := fun h => by cases h
  apart := fun h => by cases h

/-- A packed image and a crop rectangle with an even origin. -/
theorem resizesConvexly_cropAt_two :
    ResizesConvexly .YUYVResize {} {} (cropAt 2) uvImage (fun _ => 0) ↔
      (Routine.YUYVResize = .YUYVResize → CropInside (cropAt 2) → (cropAt 2).inputCrop.x % 2 = 1 →
        (cropAt 2).outputW ≠ 0 → (cropAt 2).outputH ≠ 0 → ∀ colour,
          HasColour .YUYVResize {} (cropAt 2).inputW (cropAt 2).inputH uvImage colour →
            colour .u = colour .v) :=
  resizesConvexly_iff (allowed_cropAt 2) {} uvImage (fun _ => 0)

/-- With an odd origin the colour of an image changes. -/
theorem not_resizesConvexly_cropAt_one :
    ¬ ResizesConvexly .YUYVResize {} {} (cropAt 1) uvImage (fun _ => 0) := by
  rintro ⟨m, hm, -, hkeeps⟩
  have hvalue : (YUYVResize {} {} (cropAt 1) uvImage fun _ => 0).map (fun m => m 1) =
      some 240#8 := by decide +kernel
  have hcolour : HasColour .YUYVResize {} 4 2 uvImage
      (fun kind => if kind = .u then 16 else if kind = .v then 240 else 128) := by
    unfold HasColour
    decide +kernel
  have hkept := hkeeps (by constructor <;> decide) _ hcolour 0 (by decide) 0 (by decide)
    (.u, (m 1).toNat) (List.mem_cons_of_mem _ List.mem_cons_self)
  have hrun : YUYVResize {} {} (cropAt 1) uvImage (fun _ => 0) = some m := hm
  rw [hrun, Option.map_some, Option.some.injEq] at hvalue
  rw [hvalue] at hkept
  exact absurd hkept (by decide)

end CameraHal
