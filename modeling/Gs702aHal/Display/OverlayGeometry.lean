import Gs702aHal.Display.Overlay
import Mathlib.Tactic.IntervalCases

set_option relaxedAutoImplicit false
set_option autoImplicit false

/-!
# The geometry of the overlay

`overlay_prepare` remembers in the context which format, crop rectangle and position it has passed
to the video device, and passes them again only where they have changed. What the device has
accepted since it was opened is computed from the calls, apart from the context.

The context agrees with the device as long as no format that was accepted fails to be read back:
then the device has the new format, and the context the old one.

## Main definitions

* `OverlayDevice.Geometry` — what an open device has accepted.
* `OverlayDevice.Coherent` — the context has what the device has.
* `OverlayDevice.Settled` — the condition on a call.
* `OverlayDevice.SkipsRight` — a request is left out only where the device has the values.

## Main results

* `OverlayDevice.coherent_run` — the context agrees with the device throughout the settled runs.
* `OverlayDevice.prepare_geometry` — what the device has after `overlay_prepare`, which requests are
  left out, and when a second call makes none.
-/

namespace OverlayDevice

open ExitTriple

/-! ### The device -/

/-- What a device has accepted since it was opened. It does not rotate until it is told to. -/
@[ext]
structure Geometry where
  image : Option (BitVec 32 × BitVec 32 × BitVec 32) := none
  crop : Option Rect := none
  window : Option Rect := none
  rotation : BitVec 32 := 0
  deriving DecidableEq, Repr

/-- A request is accepted. -/
def Geometry.accept (g : Geometry) : Request → Geometry
  | .VIDIOC_S_FMT (.pix width height pixelformat) =>
    { g with image := some (width, height, pixelformat) }
  | .VIDIOC_S_FMT (.win w) => { g with window := some w }
  | .VIDIOC_S_CROP c => { g with crop := some c }
  | .VIDIOC_S_CTRL rotation => { g with rotation := rotation }
  | _ => g

/-- What a system call does. -/
def Geometry.step (g : Geometry) : SysCall → Geometry
  | .ioctl request _ true => g.accept request
  | .close _ => {}
  | _ => g

/-- What the device has accepted after the calls so far. -/
def Overlay.geometry (s : Overlay) : Geometry := StepRun.final Geometry.step {} s.calls

/-- The calls that set a format, a crop rectangle or a control. -/
def SysCall.IsSet : SysCall → Prop
  | .ioctl (.VIDIOC_S_FMT _) _ _ | .ioctl (.VIDIOC_S_CROP _) _ _ | .ioctl (.VIDIOC_S_CTRL _) _ _ =>
    True
  | _ => False

variable (c : PixelFormats)

/-- The size and the pixel format that a handle asks for. -/
def Handle.image (hnd : Handle) : BitVec 32 × BitVec 32 × BitVec 32 :=
  (hnd.width, hnd.height, c.v4l2 hnd.format)

/-- What a layer asks for. -/
def Layer.geometry (layer : Layer) (hnd : Handle) : Geometry where
  image := some (hnd.image c)
  crop := some (.ofEdges layer.sourceCrop)
  window := some (.ofEdges layer.displayFrame)
  rotation := 0

/-! ### The context -/

/-- The rectangle of a cleared context. -/
def noRect : Rect := ⟨0, 0, 0, 0⟩

/-- The size and the pixel format of a context. -/
def OverlayContext.image (ctx : OverlayContext) : BitVec 32 × BitVec 32 × BitVec 32 :=
  (ctx.imageW, ctx.imageH, ctx.format)

/-- What the context remembers of the geometry. -/
def OverlayContext.cache (ctx : OverlayContext) :
    (BitVec 32 × BitVec 32 × BitVec 32) × Rect × Rect × BitVec 32 :=
  (ctx.image, ctx.crop, ctx.pos, ctx.rotation)

/-- The context has what the device has accepted, and zeros for the rest; the format is one of the
video headers, and the device does not rotate. -/
structure Coherent (s : Overlay) : Prop where
  cache : s.ctx.cache = (s.geometry.image.getD (0, 0, 0), s.geometry.crop.getD noRect,
    s.geometry.window.getD noRect, s.geometry.rotation)
  native : ∀ i ∈ s.geometry.image, c.v4l2 i.2.2 = i.2.2
  unrotated : s.geometry.rotation = 0

/-- The first format, crop rectangle and position that an open device gets are not all zeros. -/
structure Filled (hnd : Handle) (layer : Layer) (s : Overlay) : Prop where
  image : s.geometry.image = none → (hnd.width, hnd.height, hnd.format) ≠ (0, 0, 0)
  crop : s.geometry.crop = none → Rect.ofEdges layer.sourceCrop ≠ noRect
  window : s.geometry.window = none → Rect.ofEdges layer.displayFrame ≠ noRect

/-- Where the calls up to number `n` and the next one succeed, so does the one after it. -/
def ReadsBack (answers : ℕ → Bool) (n : ℕ) : Prop :=
  (∀ k < n + 2, answers k = true) → answers (n + 2) = true

/-- The condition on a call: where `overlay_prepare` is to change the format, and the new format is
set, it can be read back; and what an open device gets first is not all zeros. -/
def Settled (s : Overlay) : Action → Prop
  | .overlay_prepare (some layer) answers _ => ∀ hnd ∈ layer.handle,
      (s.ctx.image ≠ hnd.image c → ReadsBack answers (if s.ctx.mInit then 0 else 1)) ∧
        Filled hnd layer s
  | _ => True

/-! ### Calls -/

section Calls

variable {s s' : Overlay} {request : Request}

/-- The geometry after one more call. -/
@[simp]
lemma geometry_call (x : SysCall) : (s.call x).geometry = s.geometry.step x := by
  simp [Overlay.geometry, Overlay.call, StepRun.final_append]

/-- A request that succeeds. -/
lemma ioctl_ok (h : s.answers 0 = true) :
    ioctl request s = .ok () (s.call (.ioctl request s.ctx.fd true)) := if_pos h

/-- A request that fails. -/
lemma ioctl_error (h : s.answers 0 = false) :
    ioctl request s = .error (-1) (s.call (.ioctl request s.ctx.fd false)) :=
  if_neg (h ▸ Bool.false_ne_true)

/-- The invariant is about the context's geometry and the device's. -/
lemma Coherent.congr (h : Coherent c s) (hcache : s'.ctx.cache = s.ctx.cache)
    (hgeometry : s'.geometry = s.geometry) : Coherent c s' where
  cache := by rw [hcache, hgeometry, h.cache]
  native := by
    rw [hgeometry]
    exact h.native
  unrotated := hgeometry ▸ h.unrotated

/-- A request that is not about the geometry keeps what depends on the context and the geometry. -/
lemma keeps_ioctl {I : Overlay → Prop} (hneutral : ∀ g : Geometry, g.accept request = g)
    (hI : ∀ s s', s'.ctx = s.ctx → s'.geometry = s.geometry → I s → I s') :
    Keeps I (ioctl request) := by
  intro s h
  unfold ioctl
  split_ifs
  · exact hI s _ rfl (by simp [Geometry.step, hneutral]) h
  · exact hI s _ rfl (by simp [Geometry.step]) h

end Calls

/-! ### The format -/

/-- The state in which a layer is passed to the device. -/
structure Configuring (hnd : Handle) (layer : Layer) (s : Overlay) : Prop where
  coherent : Coherent c s
  filled : Filled hnd layer s
  mInit : s.ctx.mInit = true

variable {c} {s : Overlay} {hnd : Handle} {layer : Layer}

namespace Coherent

/-- The image of the context. -/
lemma image (h : Coherent c s) : s.ctx.image = s.geometry.image.getD (0, 0, 0) :=
  congrArg Prod.fst h.cache

/-- The context has the format that the device has accepted. -/
lemma image_of_some (h : Coherent c s) (himage : s.geometry.image = some (hnd.image c)) :
    s.ctx.image = hnd.image c := by rw [h.image, himage, Option.getD_some]

/-- The crop rectangle of the context. -/
lemma crop (h : Coherent c s) : s.ctx.crop = s.geometry.crop.getD noRect :=
  congrArg (fun cache => cache.2.1) h.cache

/-- The position of the context. -/
lemma pos (h : Coherent c s) : s.ctx.pos = s.geometry.window.getD noRect :=
  congrArg (fun cache => cache.2.2.1) h.cache

/-- The rotation of the context. -/
lemma rotation (h : Coherent c s) : s.ctx.rotation = 0 :=
  (congrArg (fun cache => cache.2.2.2) h.cache).trans h.unrotated

end Coherent

/-- What is found in the context, and is not all zeros where the device has nothing, the device
has. -/
lemma eq_some_of_getD {α : Type} {accepted : Option α} {zero x : α}
    (hcache : x = accepted.getD zero) (hfilled : accepted = none → x ≠ zero) :
    accepted = some x := by
  cases accepted with
  | none => exact absurd hcache (hfilled rfl)
  | some y => rw [hcache, Option.getD_some]

namespace Configuring

/-- It depends on the context and the geometry. -/
lemma congr {s' : Overlay} (h : Configuring c hnd layer s) (hctx : s'.ctx = s.ctx)
    (hgeometry : s'.geometry = s.geometry) : Configuring c hnd layer s' where
  coherent := h.coherent.congr c (by rw [hctx]) hgeometry
  filled := by
    refine ⟨?_, ?_, ?_⟩
    · rw [hgeometry]
      exact h.filled.image
    · rw [hgeometry]
      exact h.filled.crop
    · rw [hgeometry]
      exact h.filled.window
  mInit := hctx ▸ h.mInit

/-- A format that is found in the context is that of the device. -/
lemma image_of_hit (h : Configuring c hnd layer s)
    (hhit : s.ctx.imageW = hnd.width ∧ s.ctx.imageH = hnd.height ∧ s.ctx.format = hnd.format) :
    s.geometry.image = some (hnd.image c) := by
  have himage : s.ctx.image = (hnd.width, hnd.height, hnd.format) := by
    rw [OverlayContext.image, hhit.1, hhit.2.1, hhit.2.2]
  have hsome : s.geometry.image = some (hnd.width, hnd.height, hnd.format) :=
    eq_some_of_getD (himage.symm.trans h.coherent.image) h.filled.image
  have hnative : c.v4l2 hnd.format = hnd.format := h.coherent.native _ hsome
  rw [hsome, Handle.image, hnative]

/-- A crop rectangle that is found in the context is that of the device. -/
lemma crop_of_hit (h : Configuring c hnd layer s) (hhit : s.ctx.crop = .ofEdges layer.sourceCrop) :
    s.geometry.crop = some (.ofEdges layer.sourceCrop) :=
  eq_some_of_getD (hhit.symm.trans h.coherent.crop) h.filled.crop

/-- A position that is found in the context is that of the device. -/
lemma window_of_hit (h : Configuring c hnd layer s)
    (hhit : s.ctx.pos = .ofEdges layer.displayFrame) :
    s.geometry.window = some (.ofEdges layer.displayFrame) :=
  eq_some_of_getD (hhit.symm.trans h.coherent.pos) h.filled.window

end Configuring

/-- The format that the video device has accepted is the one that the context gets. -/
lemma Coherent.setImage (hc : ∀ fmt, c.v4l2 (c.v4l2 fmt) = c.v4l2 fmt) {s' : Overlay}
    (h : Coherent c s) (hcache : s'.ctx.cache = (hnd.image c, s.ctx.cache.2))
    (hgeometry : s'.geometry = { s.geometry with image := some (hnd.image c) }) :
    Coherent c s' where
  cache := by rw [hcache, hgeometry, h.cache, Option.getD_some]
  native i hi := by
    rw [hgeometry, Option.mem_def, Option.some.injEq] at hi
    rw [← hi]
    exact hc hnd.format
  unrotated := by
    rw [hgeometry]
    exact h.unrotated

/-- The crop rectangle that the video device has accepted is the one that the context gets. -/
lemma Coherent.setCrop {s' : Overlay} {crop : Rect} (h : Coherent c s)
    (hctx : s'.ctx = { s.ctx with crop := crop })
    (hgeometry : s'.geometry = { s.geometry with crop := some crop }) : Coherent c s' where
  cache := by
    rw [hctx, hgeometry]
    show (s.ctx.image, crop, s.ctx.pos, s.ctx.rotation) = _
    rw [h.image, h.pos, h.rotation, h.unrotated, Option.getD_some]
  native := by
    rw [hgeometry]
    exact h.native
  unrotated := by
    rw [hgeometry]
    exact h.unrotated

/-- What was accepted before stays accepted. -/
lemma Filled.mono {s' : Overlay} (h : Filled hnd layer s)
    (himage : s'.geometry.image = none → s.geometry.image = none)
    (hcrop : s'.geometry.crop = none → s.geometry.crop = none)
    (hwindow : s'.geometry.window = none → s.geometry.window = none) : Filled hnd layer s' where
  image hnone := h.image (himage hnone)
  crop hnone := h.crop (hcrop hnone)
  window hnone := h.window (hwindow hnone)

/-- A read and a change of the geometry in front of a statement: one of them is refused, which
leaves the device as it was, or the statement is reached. -/
lemma Coherent.read_set (h : Coherent c s) (read set : Request)
    (hread : ∀ g : Geometry, g.accept read = g) (q : Statement) :
    (∃ e s', (ioctl read >>= fun _ => ioctl set >>= fun _ => q) s = .error e s' ∧
        Coherent c s') ∨
      s.answers 0 = true ∧ s.answers 1 = true ∧
        (ioctl read >>= fun _ => ioctl set >>= fun _ => q) s =
          q ((s.call (.ioctl read s.ctx.fd true)).call (.ioctl set s.ctx.fd true)) := by
  cases hfirst : s.answers 0 with
  | false =>
    rw [seq_of_error (ioctl_error hfirst)]
    exact Or.inl ⟨_, _, rfl, h.congr c rfl (by simp [Geometry.step])⟩
  | true =>
    rw [seq_of_ok (ioctl_ok hfirst)]
    cases hsecond : s.answers 1 with
    | false =>
      rw [seq_of_error (ioctl_error hsecond)]
      exact Or.inl ⟨_, _, rfl, h.congr c rfl (by simp [Geometry.step, hread])⟩
    | true =>
      rw [seq_of_ok (ioctl_ok hsecond)]
      exact Or.inr ⟨rfl, rfl, rfl⟩

/-- **The format.** Where it can be read back, the context and the device have the same. -/
lemma triple_setFormat (hc : ∀ fmt, c.v4l2 (c.v4l2 fmt) = c.v4l2 fmt) :
    Triple
      (fun s => Configuring c hnd layer s ∧
        (s.ctx.image ≠ hnd.image c → ReadsBack s.answers 0))
      (overlay_setFormat c hnd.width hnd.height hnd.format)
      (fun s => Configuring c hnd layer s ∧ s.geometry.image = some (hnd.image c))
      (Coherent c) := by
  rintro s ⟨h, hback⟩
  unfold overlay_setFormat
  split_ifs with hhit
  · exact ⟨h, h.image_of_hit hhit⟩
  · rcases h.coherent.read_set (.VIDIOC_G_FMT .VIDEO_OUTPUT)
      (.VIDIOC_S_FMT (.pix hnd.width hnd.height (c.v4l2 hnd.format))) (fun _ => rfl) _
      with ⟨e, s', hrefused, hcoherent⟩ | ⟨hget, hset, hreached⟩
    · rw [hrefused]
      exact hcoherent
    · rw [hreached]
      have hgeometry : ∀ ok, (((s.call (.ioctl (.VIDIOC_G_FMT .VIDEO_OUTPUT) s.ctx.fd true)).call
          (.ioctl (.VIDIOC_S_FMT (.pix hnd.width hnd.height (c.v4l2 hnd.format))) s.ctx.fd
            true)).call (.ioctl (.VIDIOC_G_FMT .VIDEO_OUTPUT) s.ctx.fd ok)).geometry =
          { s.geometry with image := some (hnd.image c) } := fun ok => by
        cases ok <;> simp [Geometry.step, Geometry.accept, Handle.image]
      cases hread : s.answers 2 with
      | false =>
        rw [seq_of_error (ioctl_error hread)]
        -- the device has the new format, which is then that of the context
        have hsame : s.ctx.image = hnd.image c := by
          by_contra hne
          have htrue := hback hne fun k hk => by
            interval_cases k
            · exact hget
            · exact hset
          rw [hread] at htrue
          cases htrue
        refine h.coherent.setImage hc ?_ (hgeometry false)
        rw [← hsame]
        rfl
      | true =>
        rw [seq_of_ok (ioctl_ok hread)]
        have himage := congrArg Geometry.image (hgeometry true)
        refine ⟨⟨h.coherent.setImage hc rfl (hgeometry true), h.filled.mono ?_ ?_ ?_, h.mInit⟩,
          himage⟩
        · exact fun hnone => absurd (himage.symm.trans hnone) (Option.some_ne_none _)
        · exact (congrArg Geometry.crop (hgeometry true)).symm.trans
        · exact (congrArg Geometry.window (hgeometry true)).symm.trans

/-! ### The crop rectangle and the position -/

/-- **The crop rectangle.** -/
lemma triple_setCrop {image : BitVec 32 × BitVec 32 × BitVec 32} :
    Triple (fun s => Configuring c hnd layer s ∧ s.geometry.image = some image)
      (overlay_setCrop (.ofEdges layer.sourceCrop))
      (fun s => (Configuring c hnd layer s ∧ s.geometry.image = some image) ∧
        s.geometry.crop = some (.ofEdges layer.sourceCrop))
      (Coherent c) := by
  rintro s ⟨h, himage⟩
  unfold overlay_setCrop
  split_ifs with hhit
  · exact ⟨⟨h, himage⟩, h.crop_of_hit hhit⟩
  · rcases h.coherent.read_set .VIDIOC_G_CROP (.VIDIOC_S_CROP (.ofEdges layer.sourceCrop))
      (fun _ => rfl) _ with ⟨e, s', hrefused, hcoherent⟩ | ⟨-, -, hreached⟩
    · rw [hrefused]
      exact hcoherent
    · rw [hreached]
      have hgeometry : ((s.call (.ioctl .VIDIOC_G_CROP s.ctx.fd true)).call
          (.ioctl (.VIDIOC_S_CROP (.ofEdges layer.sourceCrop)) s.ctx.fd true)).geometry =
          { s.geometry with crop := some (.ofEdges layer.sourceCrop) } := by
        simp [Geometry.step, Geometry.accept]
      have hcrop := congrArg Geometry.crop hgeometry
      refine ⟨⟨⟨h.coherent.setCrop rfl hgeometry, h.filled.mono ?_ ?_ ?_, h.mInit⟩, ?_⟩, hcrop⟩
      · exact (congrArg Geometry.image hgeometry).symm.trans
      · exact fun hnone => absurd (hcrop.symm.trans hnone) (Option.some_ne_none _)
      · exact (congrArg Geometry.window hgeometry).symm.trans
      · exact (congrArg Geometry.image hgeometry).trans himage

/-- The device has what a layer asks for, and the context as well. -/
structure Configured (c : PixelFormats) (hnd : Handle) (layer : Layer) (s : Overlay) : Prop where
  coherent : Coherent c s
  mInit : s.ctx.mInit = true
  geometry : s.geometry = layer.geometry c hnd

/-- The device has what a layer asks for, and the context all of it but the position. -/
structure Windowed (c : PixelFormats) (hnd : Handle) (layer : Layer) (s : Overlay) : Prop where
  image : s.ctx.image = hnd.image c
  crop : s.ctx.crop = .ofEdges layer.sourceCrop
  mInit : s.ctx.mInit = true
  native : c.v4l2 (c.v4l2 hnd.format) = c.v4l2 hnd.format
  geometry : s.geometry = layer.geometry c hnd

/-- **The window.** -/
lemma triple_setWindow :
    Triple
      (fun s => (Configuring c hnd layer s ∧ s.geometry.image = some (hnd.image c)) ∧
        s.geometry.crop = some (.ofEdges layer.sourceCrop))
      (setWindow (.ofEdges layer.displayFrame)) (Windowed c hnd layer) (Coherent c) := by
  rintro s ⟨⟨h, himage⟩, hcrop⟩
  have hctxImage : s.ctx.image = hnd.image c := h.coherent.image_of_some himage
  have hctxCrop : s.ctx.crop = .ofEdges layer.sourceCrop := by
    rw [h.coherent.crop, hcrop, Option.getD_some]
  have hnative := h.coherent.native _ himage
  unfold setWindow
  split_ifs with hhit
  · exact ⟨hctxImage, hctxCrop, h.mInit, hnative,
      Geometry.ext himage hcrop (h.window_of_hit hhit) h.coherent.unrotated⟩
  · -- here the change is the last statement
    rw [← bind_pure_unit (x := ioctl (.VIDIOC_S_FMT (.win (.ofEdges layer.displayFrame))))]
    rcases h.coherent.read_set (.VIDIOC_G_FMT .VIDEO_OVERLAY)
      (.VIDIOC_S_FMT (.win (.ofEdges layer.displayFrame))) (fun _ => rfl) _
      with ⟨e, s', hrefused, hcoherent⟩ | ⟨-, -, hreached⟩
    · rw [hrefused]
      exact hcoherent
    · rw [hreached]
      have hgeometry : ((s.call (.ioctl (.VIDIOC_G_FMT .VIDEO_OVERLAY) s.ctx.fd true)).call
          (.ioctl (.VIDIOC_S_FMT (.win (.ofEdges layer.displayFrame))) s.ctx.fd true)).geometry =
          { s.geometry with window := some (.ofEdges layer.displayFrame) } := by
        simp [Geometry.step, Geometry.accept]
      exact ⟨hctxImage, hctxCrop, h.mInit, hnative,
        hgeometry.trans (Geometry.ext himage hcrop rfl h.coherent.unrotated)⟩

/-- The position that the device has accepted is the one that the context gets. -/
lemma Windowed.configured (h : Windowed c hnd layer s) :
    Configured c hnd layer
      { s with ctx := { s.ctx with pos := .ofEdges layer.displayFrame, rotation := 0 } } where
  coherent :=
    { cache := by
        show (s.ctx.image, s.ctx.crop, Rect.ofEdges layer.displayFrame, 0) =
          (s.geometry.image.getD (0, 0, 0), s.geometry.crop.getD noRect,
            s.geometry.window.getD noRect, s.geometry.rotation)
        rw [h.image, h.crop, h.geometry]
        rfl
      native := by
        show ∀ i ∈ s.geometry.image, c.v4l2 i.2.2 = i.2.2
        rw [h.geometry]
        intro i hi
        rw [← Option.some.inj hi]
        exact h.native
      unrotated := congrArg Geometry.rotation h.geometry }
  mInit := h.mInit
  geometry := h.geometry

/-- **The position.** -/
lemma triple_setPosition :
    Triple
      (fun s => (Configuring c hnd layer s ∧ s.geometry.image = some (hnd.image c)) ∧
        s.geometry.crop = some (.ofEdges layer.sourceCrop))
      (overlay_setPosition (.ofEdges layer.displayFrame) 0)
      (Configured c hnd layer) (Coherent c) := by
  rintro s ⟨⟨h, himage⟩, hcrop⟩
  have hrotation := h.coherent.rotation
  unfold overlay_setPosition
  split_ifs with hhit
  · exact ⟨h.coherent, h.mInit,
      Geometry.ext himage hcrop (h.window_of_hit hhit.1) h.coherent.unrotated⟩
  · have hskip : setRotation 0 s = .ok () s := if_pos hrotation
    rw [seq_of_ok hskip]
    exact triple_setWindow.seq (Triple.modify fun _ h => h.configured) s ⟨⟨h, himage⟩, hcrop⟩

/-! ### Preparing -/

/-- The state in which a layer is prepared. -/
structure Preparing (c : PixelFormats) (hnd : Handle) (layer : Layer) (s : Overlay) : Prop where
  coherent : Coherent c s
  filled : Filled hnd layer s
  readsBack : s.ctx.image ≠ hnd.image c → ReadsBack s.answers (if s.ctx.mInit then 0 else 1)

/-- The device is opened. -/
lemma triple_init_configuring :
    Triple (fun s => Preparing c hnd layer s ∧ ¬ s.ctx.mInit = true) overlay_init
      (fun s => Configuring c hnd layer s ∧ (s.ctx.image ≠ hnd.image c → ReadsBack s.answers 0))
      (Coherent c) := by
  rintro s ⟨h, hclosed⟩
  unfold overlay_init
  cases hopen : s.answers 0 with
  | false => exact h.coherent.congr c rfl (by simp [Geometry.step])
  | true =>
    have hgeometry : (s.call (.open (some s.newFd))).geometry = s.geometry := by
      simp [Geometry.step]
    refine ⟨⟨h.coherent.congr c rfl hgeometry, h.filled.mono ?_ ?_ ?_, rfl⟩, fun hne hbefore => ?_⟩
    · exact (congrArg Geometry.image hgeometry).symm.trans
    · exact (congrArg Geometry.crop hgeometry).symm.trans
    · exact (congrArg Geometry.window hgeometry).symm.trans
    · have hread := h.readsBack hne
      rw [if_neg hclosed] at hread
      refine hread fun k hk => ?_
      cases k with
      | zero => exact hopen
      | succ k => exact hbefore k (by omega)

/-- **The device is opened, unless it is open.** -/
lemma triple_openDevice_configuring (hc : ∀ fmt, c.v4l2 (c.v4l2 fmt) = c.v4l2 fmt) :
    Triple (Preparing c hnd layer) (openDevice c hnd)
      (fun s => Configuring c hnd layer s ∧ (s.ctx.image ≠ hnd.image c → ReadsBack s.answers 0))
      (Coherent c) := by
  apply Triple.ite (Triple.pure fun s h => ?_)
  · have hbuffers : Triple
        (fun s => Configuring c hnd layer s ∧ s.geometry.image = some (hnd.image c))
        (overlay_request_buffer MAX_VIDEO_BUFF_NUM)
        (fun s => Configuring c hnd layer s ∧ s.geometry.image = some (hnd.image c))
        (Coherent c) :=
      Triple.imp (keeps_ioctl (fun _ => rfl) fun s s' hctx hgeometry h =>
        ⟨h.1.congr hctx hgeometry, hgeometry ▸ h.2⟩) (fun _ h => h) (fun _ h => h)
        fun _ h => h.1.coherent
    refine triple_init_configuring.seq ((triple_setFormat hc).seq (hbuffers.seq ?_))
    refine Triple.modify fun s h => ⟨?_, fun hne => absurd (h.1.coherent.image_of_some h.2) hne⟩
    exact ⟨h.1.coherent.congr c rfl rfl, h.1.filled.mono id id id, rfl⟩
  · refine ⟨⟨h.1.coherent, h.1.filled, h.2⟩, fun hne => ?_⟩
    have hread := h.1.readsBack hne
    rw [if_pos h.2] at hread
    exact hread

/-- **The device gets the format, the crop rectangle and the position.** -/
lemma triple_configure (hc : ∀ fmt, c.v4l2 (c.v4l2 fmt) = c.v4l2 fmt) :
    Triple
      (fun s => Configuring c hnd layer s ∧
        (s.ctx.image ≠ hnd.image c → ReadsBack s.answers 0))
      (configure c hnd layer) (Configured c hnd layer) (Coherent c) :=
  (triple_setFormat hc).seq (triple_setCrop.seq triple_setPosition)

/-- The stream is switched on, unless it is on. -/
lemma triple_streamOn_configured :
    Triple (Configured c hnd layer) streamOn
      (fun s => Configured c hnd layer s ∧ s.ctx.isReady = true) (Coherent c) := by
  have hstream : Triple (Configured c hnd layer) (ioctl .VIDIOC_STREAMON) (Configured c hnd layer)
      (Coherent c) :=
    Triple.imp (keeps_ioctl (fun _ => rfl) fun s s' hctx hgeometry h =>
      ⟨h.coherent.congr c (by rw [hctx]) hgeometry, hctx ▸ h.mInit, hgeometry.trans h.geometry⟩)
      (fun _ h => h) (fun _ h => h) fun _ h => h.coherent
  apply Triple.ite (Triple.pure fun s h => h)
  refine Triple.seq (hstream.imp (fun _ h => h.1) (fun _ h => h) fun _ h => h) ?_
  exact Triple.modify fun s h => ⟨⟨h.coherent.congr c rfl rfl, h.mInit, h.geometry⟩, rfl⟩

/-- **A layer is prepared.** -/
lemma triple_prepare (hc : ∀ fmt, c.v4l2 (c.v4l2 fmt) = c.v4l2 fmt) :
    Triple (Preparing c hnd layer)
      (do openDevice c hnd; configure c hnd layer; streamOn)
      (fun s => Configured c hnd layer s ∧ s.ctx.isReady = true) (Coherent c) :=
  (triple_openDevice_configuring hc).seq ((triple_configure hc).seq triple_streamOn_configured)

/-! ### What is left out -/

/-- A function that changes nothing finds the values that it was called with in the device: where
`overlay_setFormat`, `overlay_setCrop` and the two parts of `overlay_setPosition` are called. -/
structure SkipsRight (c : PixelFormats) (hnd : Handle) (layer : Layer) (s : Overlay) : Prop where
  firstFormat : s.ctx.mInit = false → ∀ t, overlay_init s = .ok () t →
    overlay_setFormat c hnd.width hnd.height hnd.format t = .ok () t →
    t.geometry.image = some (hnd.image c)
  format : ∀ t, openDevice c hnd s = .ok () t →
    overlay_setFormat c hnd.width hnd.height hnd.format t = .ok () t →
    t.geometry.image = some (hnd.image c)
  crop : ∀ t, (do openDevice c hnd; overlay_setFormat c hnd.width hnd.height hnd.format) s =
      .ok () t →
    overlay_setCrop (.ofEdges layer.sourceCrop) t = .ok () t →
    t.geometry.crop = some (.ofEdges layer.sourceCrop)
  rotation : ∀ t, (do openDevice c hnd; overlay_setFormat c hnd.width hnd.height hnd.format
                      overlay_setCrop (.ofEdges layer.sourceCrop)) s = .ok () t →
    setRotation 0 t = .ok () t → t.geometry.rotation = 0
  window : ∀ t, (do openDevice c hnd; overlay_setFormat c hnd.width hnd.height hnd.format
                    overlay_setCrop (.ofEdges layer.sourceCrop)) s = .ok () t →
    setWindow (.ofEdges layer.displayFrame) t = .ok () t →
    t.geometry.window = some (.ofEdges layer.displayFrame)

/-- **Requests are left out rightly.** -/
lemma skipsRight (hc : ∀ fmt, c.v4l2 (c.v4l2 fmt) = c.v4l2 fmt) (h : Preparing c hnd layer s) :
    SkipsRight c hnd layer s where
  firstFormat hclosed t hinit hskip :=
    ((triple_setFormat hc).of_ok
      (triple_init_configuring.of_ok ⟨h, fun hopen => by simp [hclosed] at hopen⟩ hinit) hskip).2
  format t hopen hskip :=
    ((triple_setFormat hc).of_ok ((triple_openDevice_configuring hc).of_ok h hopen) hskip).2
  crop t hformat hskip :=
    (triple_setCrop.of_ok
      (((triple_openDevice_configuring hc).seq (triple_setFormat hc)).of_ok h hformat) hskip).2
  rotation t hcrop _ :=
    (((triple_openDevice_configuring hc).seq ((triple_setFormat hc).seq triple_setCrop)).of_ok h
      hcrop).1.1.coherent.unrotated
  window t hcrop hskip :=
    congrArg Geometry.window (triple_setWindow.of_ok
      (((triple_openDevice_configuring hc).seq ((triple_setFormat hc).seq triple_setCrop)).of_ok h
        hcrop) hskip).geometry

/-- What is left of `overlay_prepare` after the format, where the rest is found in the context. -/
lemma prepare_of_format {t u : Overlay} (hhandle : layer.handle = some hnd)
    (hinit : t.ctx.mInit = true)
    (hformat : overlay_setFormat c hnd.width hnd.height hnd.format t = .ok () u)
    (hcrop : u.ctx.crop = .ofEdges layer.sourceCrop)
    (hpos : u.ctx.pos = .ofEdges layer.displayFrame) (hrotation : u.ctx.rotation = 0)
    (hready : u.ctx.isReady = true) : overlay_prepare c (some layer) t = .ok () u := by
  have hsetCrop : overlay_setCrop (.ofEdges layer.sourceCrop) u = .ok () u := if_pos hcrop
  have hsetPosition : overlay_setPosition (.ofEdges layer.displayFrame) 0 u = .ok () u :=
    if_pos ⟨hpos, hrotation⟩
  have hstream : streamOn u = .ok () u := if_pos hready
  have hconfigure : configure c hnd layer t = .ok () u := by
    rw [configure, seq_of_ok hformat, seq_of_ok hsetCrop, hsetPosition]
  simp only [overlay_prepare, hhandle]
  rw [seq_of_ok (openDevice_of_mInit c hinit hnd), seq_of_ok hconfigure, hstream]

/-- **A layer that has been prepared is prepared again without setting anything exactly if its
format is its own format of the video headers.** -/
lemma again_iff (h : Configured c hnd layer s) (hready : s.ctx.isReady = true)
    (hhandle : layer.handle = some hnd) :
    (∀ answers newFd, ∀ x ∈ (step c s (.overlay_prepare (some layer) answers newFd)).calls.drop
      s.calls.length, ¬ x.IsSet) ↔ c.v4l2 hnd.format = hnd.format := by
  have himage : s.ctx.image = hnd.image c :=
    h.coherent.image_of_some (congrArg Geometry.image h.geometry)
  have hcrop : s.ctx.crop = .ofEdges layer.sourceCrop := by
    rw [h.coherent.crop, h.geometry]
    rfl
  have hpos : s.ctx.pos = .ofEdges layer.displayFrame := by
    rw [h.coherent.pos, h.geometry]
    rfl
  have hrotation := h.coherent.rotation
  simp only [OverlayContext.image, Handle.image, Prod.mk.injEq] at himage
  obtain ⟨hwidth, hheight, hformat⟩ := himage
  constructor
  · intro hnone
    by_contra hne
    have hmiss : ¬ (s.ctx.imageW = hnd.width ∧ s.ctx.imageH = hnd.height ∧
        s.ctx.format = hnd.format) := fun hhit => hne (hformat.symm.trans hhit.2.2)
    -- all calls succeed, so that the same format is set once more
    let t : Overlay := { s with answers := fun _ => true, newFd := 0 }
    let get : SysCall := .ioctl (.VIDIOC_G_FMT .VIDEO_OUTPUT) s.ctx.fd true
    let set : SysCall :=
      .ioctl (.VIDIOC_S_FMT (.pix hnd.width hnd.height (c.v4l2 hnd.format))) s.ctx.fd true
    let u : Overlay :=
      { ((t.call get).call set).call get with
        ctx := { s.ctx with
          imageW := hnd.width, imageH := hnd.height, format := c.v4l2 hnd.format } }
    have hset : overlay_setFormat c hnd.width hnd.height hnd.format t = .ok () u := by
      rw [overlay_setFormat, if_neg hmiss, seq_of_ok (ioctl_ok rfl), seq_of_ok (ioctl_ok rfl),
        seq_of_ok (ioctl_ok rfl)]
      rfl
    have hprepare := prepare_of_format hhandle (t := t) (u := u) h.mInit hset hcrop hpos hrotation
      hready
    refine hnone (fun _ => true) 0 set ?_ trivial
    show set ∈ (run (overlay_prepare c (some layer)) t).calls.drop s.calls.length
    have hcalls : (run (overlay_prepare c (some layer)) t).calls =
        s.calls ++ [get, set, get] := by
      simp only [run, hprepare]
      simp [u, t, Overlay.call]
    rw [hcalls, List.drop_left]
    exact List.mem_cons_of_mem _ List.mem_cons_self
  · intro hnative answers newFd x hx
    have hhit : overlay_setFormat c hnd.width hnd.height hnd.format
        { s with answers := answers, newFd := newFd } =
        .ok () { s with answers := answers, newFd := newFd } :=
      if_pos ⟨hwidth, hheight, hformat.trans hnative⟩
    have hprepare := prepare_of_format hhandle (t := { s with answers := answers, newFd := newFd })
      h.mInit hhit hcrop hpos hrotation hready
    simp only [step, run, hprepare, List.drop_length] at hx
    exact absurd hx List.not_mem_nil

/-! ### Runs -/

/-- Queueing frames keeps what depends on the context's geometry and the device's. -/
lemma keeps_set (hnd : Handle) :
    Keeps (Coherent c) (do queueBuffer hnd; dequeueBuffer
                           modifyContext fun ctx => { ctx with isFirst := false }) := by
  have hioctl : ∀ request, (∀ g : Geometry, g.accept request = g) →
      Keeps (Coherent c) (ioctl request) := fun request hneutral =>
    keeps_ioctl hneutral fun s s' hctx hgeometry h => h.congr c (by rw [hctx]) hgeometry
  have hqueue : Keeps (Coherent c) (queueBuffer hnd) :=
    Triple.seq (fun s h => hioctl (.VIDIOC_QBUF s.index hnd.userptr) (fun _ => rfl) s h)
      (Triple.modify fun s h => h.congr c rfl rfl)
  have hdequeue : Keeps (Coherent c) dequeueBuffer :=
    Keeps.ite (Triple.pure fun _ h => h) (hioctl .VIDIOC_DQBUF fun _ => rfl)
  exact hqueue.seq (hdequeue.seq (Triple.modify fun s h => h.congr c rfl rfl))

/-- Disabling clears the context together with the device. -/
lemma keeps_disable : Keeps (Coherent c) overlay_disable := by
  have hoff : Keeps (Coherent c) streamOff :=
    Keeps.ite
      (keeps_ioctl (fun _ => rfl) fun s s' hctx hgeometry h => h.congr c (by rw [hctx]) hgeometry)
      (Triple.pure fun _ h => h)
  refine hoff.seq (Triple.modify fun s h => ?_)
  have hgeometry : (s.call (.close s.ctx.fd)).geometry = {} := by simp [Geometry.step]
  refine ⟨?_, ?_, ?_⟩
  · show _ = ((s.call (.close s.ctx.fd)).geometry.image.getD (0, 0, 0),
      (s.call (.close s.ctx.fd)).geometry.crop.getD noRect,
      (s.call (.close s.ctx.fd)).geometry.window.getD noRect,
      (s.call (.close s.ctx.fd)).geometry.rotation)
    rw [hgeometry]
    rfl
  · show ∀ i ∈ (s.call (.close s.ctx.fd)).geometry.image, _
    rw [hgeometry]
    exact fun i hi => absurd hi (Option.not_mem_none i)
  · exact congrArg Geometry.rotation hgeometry

/-- What a call finds where its layer is settled. -/
lemma Settled.preparing {answers : ℕ → Bool} {newFd : ℕ} (h : Coherent c s)
    (ha : Settled c s (.overlay_prepare (some layer) answers newFd))
    (hhandle : layer.handle = some hnd) :
    Preparing c hnd layer { s with answers := answers, newFd := newFd } :=
  ⟨h.congr c rfl rfl, (ha hnd hhandle).2.mono id id id, (ha hnd hhandle).1⟩

/-- **A settled call keeps the context and the device together.** -/
lemma coherent_step (hc : ∀ fmt, c.v4l2 (c.v4l2 fmt) = c.v4l2 fmt) {a : Action} (h : Coherent c s)
    (ha : Settled c s a) : Coherent c (step c s a) := by
  cases a with
  | overlay_prepare layer answers newFd =>
    have h' : Coherent c { s with answers := answers, newFd := newFd } := h.congr c rfl rfl
    cases layer with
    | none => exact h'
    | some layer =>
      cases hhandle : layer.handle with
      | none =>
        simp only [step, overlay_prepare, hhandle]
        exact h'
      | some hnd =>
        simp only [step, overlay_prepare, hhandle]
        exact of_run ((triple_prepare hc).imp (fun _ h => h) (fun _ h => h.1.coherent) fun _ h => h)
          (Settled.preparing h ha hhandle)
  | overlay_set layer answers =>
    have h' : Coherent c { s with answers := answers } := h.congr c rfl rfl
    cases hready : s.ctx.isReady with
    | false =>
      simp only [step, run, overlay_set, hready, if_true]
      exact h'
    | true =>
      cases hhandle : layer.handle with
      | none =>
        simp only [step, run, overlay_set, hready, hhandle]
        exact h'
      | some hnd =>
        have hset : step c s (.overlay_set layer answers) =
            run (do queueBuffer hnd; dequeueBuffer
                    modifyContext fun ctx => { ctx with isFirst := false })
              { s with answers := answers } := by
          simp only [step, run, overlay_set, hready, hhandle]
          rfl
        rw [hset]
        exact of_run (keeps_set hnd) h'
  | overlay_disable answers => exact of_run keeps_disable (h.congr c rfl rfl)

/-- A zeroed context agrees with a device that has accepted nothing. -/
lemma coherent_zeroed : Coherent c zeroed where
  cache := rfl
  native i hi := absurd hi (Option.not_mem_none i)
  unrotated := rfl

/-- **The context agrees with the device throughout the settled runs.** -/
theorem coherent_run (hc : ∀ fmt, c.v4l2 (c.v4l2 fmt) = c.v4l2 fmt) {actions : List Action}
    (hrun : StepRun.Along (step c) (Settled c) zeroed actions) :
    StepRun.Always (step c) (Coherent c) zeroed actions :=
  StepRun.always_of_along (fun _ _ h ha => coherent_step hc h ha) coherent_zeroed hrun

/-- **The geometry of the device is that of the layer.** In every run of settled calls, whichever
system calls fail: after `overlay_prepare` returns 0, the device has accepted the size and format,
the crop rectangle, the position and the rotation that the layer asks for; where a request was left
out, it had them before; and when the same layer is prepared again, nothing is set, whichever calls
fail, exactly if the layer's format is its own format of the video headers.

**Proof sketch.** The context agrees with the device after a settled run (`coherent_run`). One
function after the other then leaves the device with its values: what it finds in the context, the
device has, and what it passes, the device gets. -/
theorem prepare_geometry (hc : ∀ fmt, c.v4l2 (c.v4l2 fmt) = c.v4l2 fmt) {actions : List Action}
    (hrun : StepRun.Along (step c) (Settled c) zeroed actions) {answers : ℕ → Bool} {newFd : ℕ}
    (hlast : Settled c (StepRun.final (step c) zeroed actions)
      (.overlay_prepare (some layer) answers newFd))
    (hhandle : layer.handle = some hnd) :
    let s := { StepRun.final (step c) zeroed actions with answers := answers, newFd := newFd }
    SkipsRight c hnd layer s ∧
      ∀ s', overlay_prepare c (some layer) s = .ok () s' →
        s'.geometry = layer.geometry c hnd ∧
        ((∀ answers newFd, ∀ x ∈
            (step c s' (.overlay_prepare (some layer) answers newFd)).calls.drop s'.calls.length,
          ¬ x.IsSet) ↔ c.v4l2 hnd.format = hnd.format) := by
  intro s
  have hstart : Preparing c hnd layer s :=
    Settled.preparing (coherent_run hc hrun).last hlast hhandle
  refine ⟨skipsRight hc hstart, fun s' hprepare => ?_⟩
  simp only [overlay_prepare, hhandle] at hprepare
  obtain ⟨hconfigured, hready⟩ := (triple_prepare hc).of_ok hstart hprepare
  exact ⟨hconfigured.geometry, again_iff hconfigured hready hhandle⟩

/-! ### Layers -/

/-- The formats with the codes of their headers; the two formats of the vendor have any others. -/
def videoFormats : PixelFormats where
  HAL_PIXEL_FORMAT_YV12 := 0x32315659
  HAL_PIXEL_FORMAT_ACT_YU12 := 0x100
  HAL_PIXEL_FORMAT_YCrCb_420_SP := 0x11
  HAL_PIXEL_FORMAT_ACT_NV12 := 0x101
  HAL_PIXEL_FORMAT_RGBA_8888 := 1
  HAL_PIXEL_FORMAT_BGRA_8888 := 5
  HAL_PIXEL_FORMAT_RGB_565 := 4
  V4L2_PIX_FMT_YVU420 := 0x32315659
  V4L2_PIX_FMT_YUV420 := 0x32315559
  V4L2_PIX_FMT_NV21 := 0x3132564E
  V4L2_PIX_FMT_NV12 := 0x3231564E
  V4L2_PIX_FMT_RGB32 := 0x34424752
  V4L2_PIX_FMT_BGR32 := 0x34524742
  V4L2_PIX_FMT_RGB565 := 0x50424752

/-- A translated format is one of the video headers', or is not translated. -/
lemma v4l2_cases (c : PixelFormats) (fmt : BitVec 32) :
    c.v4l2 fmt ∈ [c.V4L2_PIX_FMT_YVU420, c.V4L2_PIX_FMT_YUV420, c.V4L2_PIX_FMT_NV21,
      c.V4L2_PIX_FMT_NV12, c.V4L2_PIX_FMT_RGB32, c.V4L2_PIX_FMT_BGR32, c.V4L2_PIX_FMT_RGB565] ∨
      c.v4l2 fmt = fmt := by
  unfold PixelFormats.v4l2
  split_ifs <;> simp

/-- The formats of the video headers are not translated once more. -/
lemma videoFormats_v4l2 (fmt : BitVec 32) :
    videoFormats.v4l2 (videoFormats.v4l2 fmt) = videoFormats.v4l2 fmt := by
  have hcodes : ∀ code ∈ [videoFormats.V4L2_PIX_FMT_YVU420, videoFormats.V4L2_PIX_FMT_YUV420,
      videoFormats.V4L2_PIX_FMT_NV21, videoFormats.V4L2_PIX_FMT_NV12,
      videoFormats.V4L2_PIX_FMT_RGB32, videoFormats.V4L2_PIX_FMT_BGR32,
      videoFormats.V4L2_PIX_FMT_RGB565], videoFormats.v4l2 code = code := by
    simp [videoFormats, PixelFormats.v4l2]
  rcases v4l2_cases videoFormats fmt with hcode | hsame
  · exact hcodes _ hcode
  · rw [hsame, hsame]

/-- A layer of a size in a format, on a screen of 800 columns and 600 rows. -/
def videoLayer (width height format : BitVec 32) : Layer where
  handle := some ⟨width, height, format, true, 0x1000⟩
  sourceCrop := (0, 0, width, height)
  displayFrame := (0, 0, 800, 600)

/-- A planar layer is prepared, the overlay disabled, and the layer prepared again. -/
theorem prepare_geometry_reopened :
    let layer := videoLayer 640 480 0x32315659
    let s := StepRun.final (step videoFormats) zeroed
      [.overlay_prepare (some layer) (fun _ => true) 5, .overlay_disable fun _ => true]
    ∃ s', overlay_prepare videoFormats (some layer)
        { s with answers := fun _ => true, newFd := 6 } = .ok () s' ∧
      s'.geometry = ⟨some (640, 480, 0x32315659), some ⟨0, 0, 640, 480⟩,
        some ⟨0, 0, 800, 600⟩, 0⟩ := by
  have hsettled : ∀ s newFd, Settled videoFormats s
      (.overlay_prepare (some (videoLayer 640 480 0x32315659)) (fun _ => true) newFd) := by
    intro s newFd hnd hhnd
    rw [← Option.some.inj hhnd]
    exact ⟨fun _ _ => rfl, fun _ => by decide, fun _ => by decide, fun _ => by decide⟩
  have hrun : StepRun.Along (step videoFormats) (Settled videoFormats) zeroed
      [.overlay_prepare (some (videoLayer 640 480 0x32315659)) (fun _ => true) 5,
        .overlay_disable fun _ => true] := ⟨hsettled _ 5, trivial, trivial⟩
  have hgeometry := (prepare_geometry videoFormats_v4l2 hrun (hsettled _ 6) rfl).2
  have hok : ∃ s', overlay_prepare videoFormats (some (videoLayer 640 480 0x32315659))
      { StepRun.final (step videoFormats) zeroed
          [.overlay_prepare (some (videoLayer 640 480 0x32315659)) (fun _ => true) 5,
            .overlay_disable fun _ => true] with
        answers := fun _ => true, newFd := 6 } = .ok () s' := ⟨_, rfl⟩
  obtain ⟨s', hs'⟩ := hok
  exact ⟨s', hs', (hgeometry s' hs').1.trans (by decide)⟩

/-- After a planar layer, the format of a smaller one is set but cannot be read back; preparing the
first layer then returns 0 while the device has the smaller format. A layer whose crop rectangle is
all zeros returns 0 before the device has any. And the format of a layer in `YCrCb_420_SP` is set
again when the layer is prepared for the second time. -/
theorem not_prepare_geometry :
    (∃ s', overlay_prepare videoFormats (some (videoLayer 640 480 0x32315659))
        { StepRun.final (step videoFormats) zeroed
            [.overlay_prepare (some (videoLayer 640 480 0x32315659)) (fun _ => true) 5,
              .overlay_prepare (some (videoLayer 320 240 0x32315659)) (fun n => n ≠ 2) 5] with
          answers := fun _ => true } = .ok () s' ∧
      s'.geometry.image = some (320, 240, 0x32315659)) ∧
    (∃ s', overlay_prepare videoFormats
        (some { videoLayer 640 480 0x32315659 with sourceCrop := (0, 0, 0, 0) }) zeroed =
        .ok () s' ∧ s'.geometry.crop = none) ∧
    ∃ s', overlay_prepare videoFormats (some (videoLayer 640 480 0x11)) zeroed = .ok () s' ∧
      ∃ x ∈ (step videoFormats s' (.overlay_prepare (some (videoLayer 640 480 0x11))
        (fun _ => true) 0)).calls.drop s'.calls.length, x.IsSet := by
  refine ⟨⟨_, rfl, ?_⟩, ⟨_, rfl, ?_⟩, ⟨_, rfl, ?_⟩⟩
  · decide +kernel
  · decide +kernel
  · exact ⟨.ioctl (.VIDIOC_S_FMT (.pix 640 480 0x3132564E)) 0 true, by decide +kernel, trivial⟩

end OverlayDevice
