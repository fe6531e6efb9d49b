import Gs702aHal.Camera.JpegScaled

set_option relaxedAutoImplicit false
set_option autoImplicit false

/-!
# What the scaler of the planes reads and writes

`_YUV420Resize` computes the places that it reads anew for each pixel, and moves the places that it
writes along. It reads the two columns and rows around a position even where the second of them has
no weight, so that the last column and row of the output decide whether all of it is inside of the
planes. Here every access of its loops is listed.

## Main definitions

* `CameraHal.Access` — an access to one of the planes.
* `CameraHal.YUV420ResizeAccesses` — the accesses of a call, in their order.
* `CameraHal.Wrapper` — the functions that set the strides.

## Main results

* `CameraHal.mem_accesses` — the accesses of a pixel.
* `CameraHal.YUV420Resize_accesses` — nothing but these accesses counts.
* `CameraHal.accesses_inside` — they are inside of the planes of the input and of the output.
-/

namespace CameraHal

open StoreLog JpegParams

/-- The planes of an image. -/
inductive Channel
  | y
  | u
  | v
  deriving DecidableEq, Repr

/-- An access of the scaler, with the plane that its pointer belongs to. -/
inductive Access
  | read (channel : Channel) (k : ℕ)
  | write (channel : Channel) (k : ℕ)

/-- The accesses of a pass of the inner loop: the luma around the position is read and one sample is
written; where the row and the column are even, the same for `u` and for `v`. -/
def planarAccesses (in_ : RGBOrYUV) (resize : ImageResize) (row col : ℕ) (s : PlanarLoop) :
    List Access :=
  (neighbours (lumaAt in_ resize) s.hCoef s.wCoef).map (.read .y) ++ .write .y s.outY ::
    if row % 2 = 0 ∧ col % 2 = 0 then
      (neighbours (chromaAt in_.u in_.uStride in_.du resize) s.hCoef s.wCoef).map (.read .u) ++
        .write .u s.outU ::
          ((neighbours (chromaAt in_.v in_.vStride in_.dv resize) s.hCoef s.wCoef).map (.read .v) ++
            [.write .v s.outV])
    else []

/-- The accesses of `_YUV420Resize`. -/
def YUV420ResizeAccesses (out in_ : RGBOrYUV) (resize : ImageResize) (src dst : Buffer) :
    Option (List Access) :=
  if resize.inputW < 1 ∨ resize.inputH < 1 then some []
  else do
    let wStepFixed16b ← stepFixed16b resize.inputCrop.w resize.outputW
    let hStepFixed16b ← stepFixed16b resize.inputCrop.h resize.outputH
    let row := fun row (s : PlanarLoop) =>
      forLoopLog resize.outputW (planarColumn out in_ resize src wStepFixed16b row)
        (planarAccesses in_ resize row) { s with wCoef := 0 }
    some (forLoopLog resize.outputH (planarRow out in_ resize src wStepFixed16b hStepFixed16b) row
      ⟨out.y, out.u, out.v, out.y, out.u, out.v, 0, 0, dst⟩)

/-- The accesses are those of the pixels, with the variables before each of them. -/
lemma mem_accesses {out in_ : RGBOrYUV} {resize : ImageResize} {src dst : Buffer}
    (hw : ¬ (resize.inputW < 1 ∨ resize.inputH < 1)) {wStep hStep : ℕ}
    (hwStep : stepFixed16b resize.inputCrop.w resize.outputW = some wStep)
    (hhStep : stepFixed16b resize.inputCrop.h resize.outputH = some hStep) :
    ∃ accesses, YUV420ResizeAccesses out in_ resize src dst = some accesses ∧
      ∀ a, a ∈ accesses ↔ ∃ r < resize.outputH, ∃ c < resize.outputW,
        a ∈ planarAccesses in_ resize r c
          (planarColumnAt out in_ resize src dst wStep hStep r c) := by
  rw [YUV420ResizeAccesses, if_neg hw, hwStep, hhStep]
  refine ⟨_, rfl, fun a => ?_⟩
  rw [planarRowAt_zero out in_ resize src dst wStep hStep,
    mem_forLoopLog _ (planarRow_at out in_ resize src dst wStep hStep)]
  refine exists_congr fun r => and_congr_right fun _ => ?_
  rw [planarColumnAt_zero, mem_forLoopLog _ (planarColumn_at out in_ resize src dst wStep hStep r)]

/-- Sources that agree where a pixel is read give the same stores. -/
lemma pixelStores_congr {out in_ : RGBOrYUV} {resize : ImageResize} {src src' dst : Buffer}
    {wStep hStep r c : ℕ}
    (hsame : ∀ channel k, .read channel k ∈ planarAccesses in_ resize r c
      (planarColumnAt out in_ resize src dst wStep hStep r c) → src k = src' k) :
    pixelStores out in_ resize src wStep hStep r c =
      pixelStores out in_ resize src' wStep hStep r c := by
  have hblend {sample : ℕ → ℕ → ℕ} (h : ∀ k ∈ neighbours sample (coefAt hStep r) (coefAt wStep c),
      src k = src' k) :
      blendAt src sample (coefAt hStep r) (coefAt wStep c) =
        blendAt src' sample (coefAt hStep r) (coefAt wStep c) := by
    simp only [neighbours, List.forall_mem_cons] at h
    simp only [blendAt, h]
  have hread (channel : Channel) {k : ℕ} (hk : .read channel k ∈ planarAccesses in_ resize r c
      (planarColumnAt out in_ resize src dst wStep hStep r c)) : src k = src' k :=
    hsame channel k hk
  rw [pixelStores, pixelStores, hblend fun k hk => hread .y (by
    simp only [planarAccesses, planarColumnAt, planarRowAt]
    exact List.mem_append_left _ (List.mem_map_of_mem hk))]
  split
  case isFalse => rfl
  case isTrue heven =>
    have hu := hblend fun k hk => hread .u (by
      simp only [planarAccesses, planarColumnAt, planarRowAt, if_pos heven]
      exact List.mem_append_right _ (List.mem_cons_of_mem _ (List.mem_append_left _
        (List.mem_map_of_mem hk))))
    have hv := hblend fun k hk => hread .v (by
      simp only [planarAccesses, planarColumnAt, planarRowAt, if_pos heven]
      exact List.mem_append_right _ (List.mem_cons_of_mem _ (List.mem_append_right _
        (List.mem_cons_of_mem _ (List.mem_append_left _ (List.mem_map_of_mem hk))))))
    rw [hu, hv]

/-- The stores of a pixel are among its accesses. -/
lemma exists_write_of_mem_pixelStores {out in_ : RGBOrYUV} {resize : ImageResize}
    {src dst : Buffer} {wStep hStep r c : ℕ} {store : ℕ × Byte}
    (h : store ∈ pixelStores out in_ resize src wStep hStep r c) :
    ∃ channel, .write channel store.1 ∈ planarAccesses in_ resize r c
      (planarColumnAt out in_ resize src dst wStep hStep r c) := by
  rw [pixelStores, List.mem_cons] at h
  rcases h with rfl | h
  · exact ⟨.y, by simp [planarAccesses, planarColumnAt]⟩
  · split_ifs at h with heven
    case neg => exact absurd h List.not_mem_nil
    have hrow : (r + 1) / 2 = r / 2 := by omega
    have hcol : (c + 1) / 2 = c / 2 := by omega
    simp only [List.mem_cons, List.not_mem_nil, or_false] at h
    rcases h with rfl | rfl
    · exact ⟨.u, by simp [planarAccesses, planarColumnAt, chromaAhead, heven, hrow, hcol]⟩
    · exact ⟨.v, by simp [planarAccesses, planarColumnAt, chromaAhead, heven, hrow, hcol]⟩

/-- **Nothing but the accesses counts**: the result depends on the source only where it is read, and
it differs from the destination only where it is written.

**Proof sketch.** The result is made by the stores of the pixels, and so are the accesses. -/
theorem YUV420Resize_accesses {out in_ : RGBOrYUV} {resize : ImageResize} {src dst : Buffer}
    (hw : ¬ (resize.inputW < 1 ∨ resize.inputH < 1)) {accesses : List Access}
    (haccesses : YUV420ResizeAccesses out in_ resize src dst = some accesses) :
    ∃ m, YUV420Resize out in_ resize src dst = some m ∧
      (∀ src', (∀ channel k, .read channel k ∈ accesses → src k = src' k) →
        YUV420Resize out in_ resize src' dst = some m) ∧
      ∀ k, (∀ channel, .write channel k ∉ accesses) → m k = dst k := by
  have hloops := haccesses
  rw [YUV420ResizeAccesses, if_neg hw] at hloops
  cases hwStep : stepFixed16b resize.inputCrop.w resize.outputW with
  | none => simp [hwStep] at hloops
  | some wStep =>
    cases hhStep : stepFixed16b resize.inputCrop.h resize.outputH with
    | none => simp [hwStep, hhStep] at hloops
    | some hStep =>
      obtain ⟨accesses', heq, hmem⟩ := @mem_accesses out in_ resize src dst hw _ _ hwStep hhStep
      obtain rfl : accesses' = accesses := Option.some.inj (heq.symm.trans haccesses)
      refine ⟨_, YUV420Resize_eq out in_ resize src dst hw hwStep hhStep, ?_, ?_⟩
      · intro src' hsame
        rw [YUV420Resize_eq out in_ resize src' dst hw hwStep hhStep]
        have hstores : ∀ r < resize.outputH, ∀ c < resize.outputW,
            pixelStores out in_ resize src' wStep hStep r c =
              pixelStores out in_ resize src wStep hStep r c := fun r hr c hc =>
          (pixelStores_congr fun channel k hk =>
            hsame channel k ((hmem _).mpr ⟨r, hr, c, hc, hk⟩)).symm
        rw [planarStores, planarStores, passes_congr fun r hr => passes_congr (hstores r hr)]
      · intro k hk
        refine storeAll_of_notMem fun htarget => ?_
        obtain ⟨v, hv⟩ := mem_targets.mp htarget
        obtain ⟨r, hr, c, hc, hv⟩ := mem_planarStores.mp hv
        obtain ⟨channel, hwrite⟩ := @exists_write_of_mem_pixelStores _ _ _ _ dst _ _ _ _ _ hv
        exact hk channel ((hmem _).mpr ⟨r, hr, c, hc, hwrite⟩)

/-! ### The functions that set the strides -/

/-- The functions that call `_YUV420Resize` for an input whose rows are not aligned. -/
inductive Wrapper
  | NVXXResize
  | YX12Resize
  | NVXXResizeOA
  | YX12ResizeOA
  deriving DecidableEq, Repr

namespace Wrapper

/-- The function. -/
def run : Wrapper → RGBOrYUV → RGBOrYUV → ImageResize → Buffer → Buffer → Option Buffer
  | NVXXResize => CameraHal.NVXXResize
  | YX12Resize => CameraHal.YX12Resize
  | NVXXResizeOA => CameraHal.NVXXResizeOA
  | YX12ResizeOA => CameraHal.YX12ResizeOA

/-- The input with the strides that the function sets. -/
def input (in_ : RGBOrYUV) (resize : ImageResize) : Wrapper → RGBOrYUV
  | NVXXResize | NVXXResizeOA => in_.semiPlanar resize.inputW
  | YX12Resize | YX12ResizeOA => in_.planar resize.inputW (resize.inputW / 2)

/-- The output with the strides that the function sets. -/
def output (out : RGBOrYUV) (resize : ImageResize) : Wrapper → RGBOrYUV
  | NVXXResize => out.semiPlanar resize.outputW
  | YX12Resize => out.planar resize.outputW (resize.outputW / 2)
  | NVXXResizeOA => out.semiPlanar (ALIGN16 resize.outputW)
  | YX12ResizeOA => out.planar (ALIGN16 resize.outputW) (ALIGN16 (resize.outputW / 2))

/-- The function calls `_YUV420Resize` with these strides. -/
lemma run_eq (w : Wrapper) (out in_ : RGBOrYUV) (resize : ImageResize) :
    w.run out in_ resize = YUV420Resize (w.output out resize) (w.input in_ resize) resize := by
  cases w <;> rfl

/-- The accesses of a call of the function. -/
def accesses (w : Wrapper) (out in_ : RGBOrYUV) (resize : ImageResize) (src dst : Buffer) :
    Option (List Access) :=
  YUV420ResizeAccesses (w.output out resize) (w.input in_ resize) resize src dst

end Wrapper

/-- The plane of an image of a size; the chroma planes have half of its rows and columns. -/
def planeOf (image : RGBOrYUV) (w h : ℕ) : Channel → Plane
  | .y => ⟨image.y, image.yStride, 1, h, w⟩
  | .u => ⟨image.u, image.uStride, image.du, h / 2, w / 2⟩
  | .v => ⟨image.v, image.vStride, image.dv, h / 2, w / 2⟩

/-- An access is inside of its plane: of the input for a read, of the output for a write. -/
def Access.Inside (input output : Channel → Plane) : Access → Prop
  | .read channel k => (input channel).Has k
  | .write channel k => (output channel).Has k

/-- The rows of the planes fit into the strides that a function sets. -/
lemma Wrapper.fits (w : Wrapper) (out in_ : RGBOrYUV) {resize : ImageResize}
    (hin : resize.inputW % 2 = 0) (hout : resize.outputW % 2 = 0) (channel : Channel) :
    (planeOf (w.input in_ resize) resize.inputW resize.inputH channel).Fits ∧
      (planeOf (w.output out resize) resize.outputW resize.outputH channel).Fits := by
  have hwide := le_ALIGN16 resize.outputW
  have hhalf := le_ALIGN16 (resize.outputW / 2)
  cases w <;> cases channel <;>
    simp only [planeOf, input, output, RGBOrYUV.semiPlanar, RGBOrYUV.planar] <;>
    exact ⟨⟨by simp, fun c hc => by simp only at hc ⊢; omega⟩,
      ⟨by simp, fun c hc => by simp only at hc ⊢; omega⟩⟩

/-! ### The accesses are inside -/

/-- The sizes of a call for even images: the crop rectangle is inside of the input and has two
columns and rows, and so has the output, whose sizes are 32-bit numbers. -/
structure EvenSizes (resize : ImageResize) : Prop where
  inputW : resize.inputW % 2 = 0
  inputH : resize.inputH % 2 = 0
  crop_x : resize.inputCrop.x + resize.inputCrop.w ≤ resize.inputW
  crop_y : resize.inputCrop.y + resize.inputCrop.h ≤ resize.inputH
  crop_w : 2 ≤ resize.inputCrop.w
  crop_h : 2 ≤ resize.inputCrop.h
  outputW : resize.outputW % 2 = 0
  outputH : resize.outputH % 2 = 0
  two_le_outputW : 2 ≤ resize.outputW
  two_le_outputH : 2 ≤ resize.outputH
  outputW_lt : resize.outputW < 2 ^ 32
  outputH_lt : resize.outputH < 2 ^ 32

variable {out in_ : RGBOrYUV} {resize : ImageResize}

/-- A row or column next to a position is inside of the crop rectangle.

**Proof sketch.** The whole part of the last position is the size less two, because the step is
rounded down. -/
lemma next_le {c o i x : ℕ} (hc : 2 ≤ c) (hi : i < o)
    (hx : x = offsetOf (coefAt (shiftedSize c / (o - 1)) i) ∨
      x = offsetOf (coefAt (shiftedSize c / (o - 1)) i) + 1) : x + 1 ≤ c := by
  have hle := offsetOf_coefAt_le hc hi
  rcases hx with rfl | rfl <;> omega

/-- The luma around a position is read inside of its plane. -/
lemma has_lumaAt (hsizes : EvenSizes resize) {y x : ℕ} (hy : y + 1 ≤ resize.inputCrop.h)
    (hx : x + 1 ≤ resize.inputCrop.w) :
    (planeOf in_ resize.inputW resize.inputH .y).Has (lumaAt in_ resize y x) := by
  have hrow := hsizes.crop_y
  have hcol := hsizes.crop_x
  refine ⟨resize.inputCrop.y + y, ?_, resize.inputCrop.x + x, ?_, ?_⟩
  · simp only [planeOf]
    omega
  · simp only [planeOf]
    omega
  · simp only [planeOf, Plane.cell, lumaAt, Nat.add_mul, Nat.mul_one]
    omega

/-- The chroma around a position is read inside of its plane.

**Proof sketch.** The halves of the origin and of the position are rounded down on their own; their
sum is at most the half of the sum, which is less than the half of the even size. -/
lemma has_chromaAt (hsizes : EvenSizes resize) (plane stride d : ℕ) {y x : ℕ}
    (hy : y + 1 ≤ resize.inputCrop.h) (hx : x + 1 ≤ resize.inputCrop.w) :
    (⟨plane, stride, d, resize.inputH / 2, resize.inputW / 2⟩ : Plane).Has
      (chromaAt plane stride d resize y x) := by
  have hrow := hsizes.crop_y
  have hcol := hsizes.crop_x
  have hw := hsizes.inputW
  have hh := hsizes.inputH
  refine ⟨resize.inputCrop.y / 2 + y / 2, ?_, resize.inputCrop.x / 2 + x / 2, ?_, ?_⟩
  · simp only
    omega
  · simp only
    omega
  · simp only [Plane.cell, chromaAt, Nat.add_mul]
    omega

/-- The accesses of a pixel are inside of the planes.

**Proof sketch.** The reads are at the rows and columns next to the position. The pointers of the
output are at the row and the column of the pixel, and at half of them if both are even. -/
lemma planarAccesses_inside (hsizes : EvenSizes resize) (src dst : Buffer) {r c : ℕ}
    (hr : r < resize.outputH) (hc : c < resize.outputW) :
    ∀ a ∈ planarAccesses in_ resize r c (planarColumnAt out in_ resize src dst
        (shiftedSize resize.inputCrop.w / (resize.outputW - 1))
        (shiftedSize resize.inputCrop.h / (resize.outputH - 1)) r c),
      a.Inside (planeOf in_ resize.inputW resize.inputH)
        (planeOf out resize.outputW resize.outputH) := by
  have hreads {sample : ℕ → ℕ → ℕ} {plane : Plane} (channel : Channel)
      (hplane : planeOf in_ resize.inputW resize.inputH channel = plane)
      (hsample : ∀ y x, y + 1 ≤ resize.inputCrop.h → x + 1 ≤ resize.inputCrop.w →
        plane.Has (sample y x)) :
      ∀ a ∈ (neighbours sample (coefAt (shiftedSize resize.inputCrop.h / (resize.outputH - 1)) r)
          (coefAt (shiftedSize resize.inputCrop.w / (resize.outputW - 1)) c)).map
            (Access.read channel),
        a.Inside (planeOf in_ resize.inputW resize.inputH)
          (planeOf out resize.outputW resize.outputH) := by
    intro a ha
    obtain ⟨k, hk, rfl⟩ := List.mem_map.mp ha
    obtain ⟨y, x, hy, hx, rfl⟩ := mem_neighbours.mp hk
    rw [Access.Inside, hplane]
    exact hsample y x (next_le hsizes.crop_h hr hy) (next_le hsizes.crop_w hc hx)
  have hW := hsizes.outputW
  have hH := hsizes.outputH
  intro a ha
  rw [planarAccesses, List.mem_append, List.mem_cons] at ha
  rcases ha with ha | rfl | ha
  · exact hreads .y rfl (fun y x => has_lumaAt hsizes) a ha
  · exact ⟨r, hr, c, hc, by simp [planarColumnAt, planeOf, Plane.cell]⟩
  · split_ifs at ha with heven
    case neg => exact absurd ha List.not_mem_nil
    obtain ⟨hrow, hcol⟩ := heven
    have hr2 : r / 2 < resize.outputH / 2 := by omega
    have hc2 : c / 2 < resize.outputW / 2 := by omega
    have hhalf : (r + 1) / 2 = r / 2 := by omega
    have hhalf' : (c + 1) / 2 = c / 2 := by omega
    rw [List.mem_append, List.mem_cons, List.mem_append, List.mem_singleton] at ha
    rcases ha with ha | rfl | ha | rfl
    · exact hreads .u rfl (fun y x => has_chromaAt hsizes _ _ _) a ha
    · refine ⟨r / 2, hr2, c / 2, hc2, ?_⟩
      simp [planarColumnAt, planeOf, Plane.cell, chromaAhead, hrow, hhalf, hhalf']
    · exact hreads .v rfl (fun y x => has_chromaAt hsizes _ _ _) a ha
    · refine ⟨r / 2, hr2, c / 2, hc2, ?_⟩
      simp [planarColumnAt, planeOf, Plane.cell, chromaAhead, hrow, hhalf, hhalf']

/-- **Every access of the functions without alignment of the input is inside of the planes**: each
read of a plane inside of that plane of the input, and each write inside of that plane of the output
with the strides that the function sets. Nothing else of the source counts for what the function
returns, and nothing else of the destination changes.

**Proof sketch.** The accesses are those of the pixels, and these are inside. That nothing else
counts is `YUV420Resize_accesses`. -/
theorem accesses_inside (w : Wrapper) (out in_ : RGBOrYUV) (hsizes : EvenSizes resize)
    (src dst : Buffer) :
    ∃ accesses m, w.accesses out in_ resize src dst = some accesses ∧
      w.run out in_ resize src dst = some m ∧
      (∀ a ∈ accesses, a.Inside (planeOf (w.input in_ resize) resize.inputW resize.inputH)
        (planeOf (w.output out resize) resize.outputW resize.outputH)) ∧
      (∀ src', (∀ channel k, .read channel k ∈ accesses → src k = src' k) →
        w.run out in_ resize src' dst = some m) ∧
      ∀ k, (∀ channel, .write channel k ∉ accesses) → m k = dst k := by
  have hpixels : ¬ (resize.inputW < 1 ∨ resize.inputH < 1) := by
    have hw := hsizes.crop_x
    have hh := hsizes.crop_y
    have hw2 := hsizes.crop_w
    have hh2 := hsizes.crop_h
    omega
  obtain ⟨accesses, heq, hmem⟩ := @mem_accesses (w.output out resize) (w.input in_ resize) resize
    src dst hpixels _ _ (stepFixed16b_of_two_le hsizes.two_le_outputW hsizes.outputW_lt)
    (stepFixed16b_of_two_le hsizes.two_le_outputH hsizes.outputH_lt)
  obtain ⟨m, hrun, hreads, hwrites⟩ := YUV420Resize_accesses hpixels heq
  rw [← w.run_eq out in_ resize] at hrun hreads
  refine ⟨accesses, m, heq, hrun, fun a ha => ?_, hreads, hwrites⟩
  obtain ⟨r, hr, c, hc, ha⟩ := (hmem a).mp ha
  exact planarAccesses_inside hsizes src dst hr hc a ha

/-- A crop rectangle with an odd origin, up to the last column and row. -/
def oddCrop : ImageResize := ⟨6, 4, ⟨1, 1, 5, 3⟩, 4, 2⟩

lemma evenSizes_oddCrop : EvenSizes oddCrop := by
  constructor <;> decide

/-- The accesses for such a crop rectangle. -/
theorem accesses_inside_oddCrop :
    ∃ accesses m, Wrapper.NVXXResizeOA.accesses (nv21Out 4 2) (nv12In 6 4) oddCrop (fun _ => 0)
        (fun _ => 0) = some accesses ∧
      Wrapper.NVXXResizeOA.run (nv21Out 4 2) (nv12In 6 4) oddCrop (fun _ => 0) (fun _ => 0) =
        some m ∧
      (∀ a ∈ accesses, a.Inside (planeOf (Wrapper.NVXXResizeOA.input (nv12In 6 4) oddCrop) 6 4)
        (planeOf (Wrapper.NVXXResizeOA.output (nv21Out 4 2) oddCrop) 4 2)) ∧
      (∀ src' : Buffer, (∀ channel k, .read channel k ∈ accesses → 0 = src' k) →
        Wrapper.NVXXResizeOA.run (nv21Out 4 2) (nv12In 6 4) oddCrop src' (fun _ => 0) = some m) ∧
      ∀ k, (∀ channel, .write channel k ∉ accesses) → m k = 0 :=
  accesses_inside .NVXXResizeOA (nv21Out 4 2) (nv12In 6 4) evenSizes_oddCrop _ _

end CameraHal
