import Gs702aHal.Lib.ExitTriple
import Gs702aHal.Lib.RingWindow
import Gs702aHal.Lib.StepRun

set_option relaxedAutoImplicit false
set_option autoImplicit false

/-!
# The video overlay

The overlay device shows the frames of a video layer. `overlay_prepare` opens the video device when
it is not open yet, requests its buffers, passes it the format, the crop rectangle and the position
of the layer where these have changed, and switches the stream on; `overlay_set` queues a frame and
takes an earlier one back; `overlay_disable` switches the stream off and closes the device. Any of
the system calls may fail.

What the device makes of the calls is stated apart from the code: for each descriptor that is open,
whether its buffers have been requested, and the queue of its buffers, which are taken back in the
order in which they were queued.

## Main definitions

* `OverlayDevice.Driver` — the open descriptors, `OverlayDevice.Driver.step` what a call does to
  them, `OverlayDevice.Legal` which calls are allowed.
* `OverlayDevice.Overlay` — the context of the device and the calls made so far.
* `OverlayDevice.overlay_prepare`, `OverlayDevice.overlay_set`, `OverlayDevice.overlay_disable` —
  the functions.
* `OverlayDevice.Careful` — the condition on a call of one of these.

## Main results

* `OverlayDevice.protocol_step_iff` — the system calls of a step are allowed exactly if it is
  careful.
* `OverlayDevice.always_protocol_iff` — so are those of a run if and only if all its steps are.
-/

namespace OverlayDevice

open ExitTriple

/-! ### The video device -/

/-- A rectangle of the screen or of an image. -/
structure Rect where
  left : BitVec 32
  top : BitVec 32
  width : BitVec 32
  height : BitVec 32
  deriving DecidableEq, Repr

/-- `V4L2_BUF_TYPE_VIDEO_OUTPUT` and `V4L2_BUF_TYPE_VIDEO_OVERLAY`. -/
inductive BufType
  | VIDEO_OUTPUT
  | VIDEO_OVERLAY
  deriving DecidableEq, Repr

/-- A `v4l2_format` that is set: of an image, or of the window. -/
inductive Format
  | pix (width height pixelformat : BitVec 32)
  | win (w : Rect)
  deriving DecidableEq, Repr

/-- The requests of `ioctl`. -/
inductive Request
  | VIDIOC_G_FMT (type : BufType)
  | VIDIOC_S_FMT (format : Format)
  | VIDIOC_G_CROP
  | VIDIOC_S_CROP (c : Rect)
  | VIDIOC_S_CTRL (rotation : BitVec 32)
  | VIDIOC_REQBUFS (count : ℕ)
  | VIDIOC_STREAMON
  | VIDIOC_STREAMOFF
  | VIDIOC_QBUF (index : ℕ) (userptr : BitVec 32)
  | VIDIOC_DQBUF
  deriving DecidableEq, Repr

/-- The system calls, with their outcomes. -/
inductive SysCall
  | open (fd : Option ℕ)
  | ioctl (request : Request) (fd : ℤ) (ok : Bool)
  | close (fd : ℤ)
  deriving DecidableEq, Repr

/-- The video device behind a descriptor. -/
structure VideoFile where
  requested : Bool
  queued : List ℕ
  deriving DecidableEq, Repr

/-- The descriptors that the overlay has opened and not closed. -/
abbrev Driver := ℤ → Option VideoFile

/-- What a successful request does. -/
def VideoFile.serve (f : VideoFile) : Request → VideoFile
  | .VIDIOC_REQBUFS _ => { f with requested := true }
  | .VIDIOC_STREAMOFF => { f with queued := [] }
  | .VIDIOC_QBUF index _ => { f with queued := f.queued ++ [index] }
  | .VIDIOC_DQBUF => { f with queued := f.queued.tail }
  | _ => f

/-- What a system call does. -/
def Driver.step (d : Driver) : SysCall → Driver
  | .open none => d
  | .open (some fd) => Function.update d fd (some ⟨false, []⟩)
  | .ioctl _ _ false => d
  | .ioctl request fd true => Function.update d fd ((d fd).map (·.serve request))
  | .close fd => Function.update d fd none

/-- Nothing is open. -/
def noFiles : Driver := fun _ => none

/-- Which system calls are allowed: the stream is switched on and buffers are queued only for a
descriptor that is open and whose buffers have been requested, no buffer is queued that is still in
the queue, and only open descriptors are closed. -/
def Legal (d : Driver) : SysCall → Prop
  | .ioctl .VIDIOC_STREAMON fd _ => ∃ f ∈ d fd, f.requested = true
  | .ioctl (.VIDIOC_QBUF index _) fd _ => ∃ f ∈ d fd, f.requested = true ∧ index ∉ f.queued
  | .close fd => (d fd).isSome = true
  | _ => True

instance (d : Driver) : DecidablePred (Legal d)
  | .open _ => .isTrue trivial
  | .close fd => inferInstanceAs (Decidable ((d fd).isSome = true))
  | .ioctl request fd _ =>
    match request with
    | .VIDIOC_STREAMON => inferInstanceAs (Decidable (∃ f ∈ d fd, f.requested = true))
    | .VIDIOC_QBUF index _ =>
      inferInstanceAs (Decidable (∃ f ∈ d fd, f.requested = true ∧ index ∉ f.queued))
    | .VIDIOC_G_FMT _ | .VIDIOC_S_FMT _ | .VIDIOC_G_CROP | .VIDIOC_S_CROP _ | .VIDIOC_S_CTRL _
    | .VIDIOC_REQBUFS _ | .VIDIOC_STREAMOFF | .VIDIOC_DQBUF => .isTrue trivial

/-! ### The overlay -/

/-- `MAX_VIDEO_BUFF_NUM`. -/
def MAX_VIDEO_BUFF_NUM : ℕ := 8

/-- `overlay_context_t`. It is zeroed when the device is opened. -/
structure OverlayContext where
  mInit : Bool := false
  isReady : Bool := false
  isFirst : Bool := false
  fd : ℤ := 0
  imageW : BitVec 32 := 0
  imageH : BitVec 32 := 0
  format : BitVec 32 := 0
  crop : Rect := ⟨0, 0, 0, 0⟩
  pos : Rect := ⟨0, 0, 0, 0⟩
  rotation : BitVec 32 := 0
  deriving DecidableEq, Repr

/-- The context, the static `index` of `overlay_set`, the outcomes of the next system calls (whether
they succeed, and the descriptor that `open` would return), and the calls so far. -/
structure Overlay where
  ctx : OverlayContext
  index : ℕ
  answers : ℕ → Bool
  newFd : ℕ
  calls : List SysCall

/-- `private_handle_t`. -/
structure Handle where
  width : BitVec 32
  height : BitVec 32
  format : BitVec 32
  /-- `flags & PRIV_FLAGS_USES_ION`. -/
  usesIon : Bool
  phys_addr : BitVec 32

/-- `hwc_layer_t`; the handle may be `NULL`. The rectangles are given by their edges. -/
structure Layer where
  handle : Option Handle
  sourceCrop : BitVec 32 × BitVec 32 × BitVec 32 × BitVec 32
  displayFrame : BitVec 32 × BitVec 32 × BitVec 32 × BitVec 32

/-- A rectangle from its left, top, right and bottom edge. -/
def Rect.ofEdges : BitVec 32 × BitVec 32 × BitVec 32 × BitVec 32 → Rect
  | (left, top, right, bottom) => ⟨left, top, right - left, bottom - top⟩

/-- The pixel formats of the graphics and of the video headers. -/
structure PixelFormats where
  HAL_PIXEL_FORMAT_YV12 : BitVec 32
  HAL_PIXEL_FORMAT_ACT_YU12 : BitVec 32
  HAL_PIXEL_FORMAT_YCrCb_420_SP : BitVec 32
  HAL_PIXEL_FORMAT_ACT_NV12 : BitVec 32
  HAL_PIXEL_FORMAT_RGBA_8888 : BitVec 32
  HAL_PIXEL_FORMAT_BGRA_8888 : BitVec 32
  HAL_PIXEL_FORMAT_RGB_565 : BitVec 32
  V4L2_PIX_FMT_YVU420 : BitVec 32
  V4L2_PIX_FMT_YUV420 : BitVec 32
  V4L2_PIX_FMT_NV21 : BitVec 32
  V4L2_PIX_FMT_NV12 : BitVec 32
  V4L2_PIX_FMT_RGB32 : BitVec 32
  V4L2_PIX_FMT_BGR32 : BitVec 32
  V4L2_PIX_FMT_RGB565 : BitVec 32

/-- The `switch` of `overlay_setFormat`. -/
def PixelFormats.v4l2 (c : PixelFormats) (fmt : BitVec 32) : BitVec 32 :=
  if fmt = c.HAL_PIXEL_FORMAT_YV12 then c.V4L2_PIX_FMT_YVU420
  else if fmt = c.HAL_PIXEL_FORMAT_ACT_YU12 then c.V4L2_PIX_FMT_YUV420
  else if fmt = c.HAL_PIXEL_FORMAT_YCrCb_420_SP then c.V4L2_PIX_FMT_NV21
  else if fmt = c.HAL_PIXEL_FORMAT_ACT_NV12 then c.V4L2_PIX_FMT_NV12
  else if fmt = c.HAL_PIXEL_FORMAT_RGBA_8888 then c.V4L2_PIX_FMT_RGB32
  else if fmt = c.HAL_PIXEL_FORMAT_BGRA_8888 then c.V4L2_PIX_FMT_BGR32
  else if fmt = c.HAL_PIXEL_FORMAT_RGB_565 then c.V4L2_PIX_FMT_RGB565
  else fmt

/-- A system call is made; the next one gets the next outcome. -/
def Overlay.call (s : Overlay) (c : SysCall) : Overlay :=
  { s with answers := fun n => s.answers (n + 1), calls := s.calls ++ [c] }

/-- A function of the overlay: it goes on, or returns a number other than zero. -/
abbrev Statement := EStateM ℤ Overlay Unit

/-- A change of the context. -/
def modifyContext (f : OverlayContext → OverlayContext) : Statement :=
  modify fun s => { s with ctx := f s.ctx }

/-- `rc = ioctl(ctx->fd, request, ..); if (rc) return rc;` -/
def ioctl (request : Request) : Statement := fun s =>
  if s.answers 0 then .ok () (s.call (.ioctl request s.ctx.fd true))
  else .error (-1) (s.call (.ioctl request s.ctx.fd false))

variable (c : PixelFormats)

/-- `overlay_setFormat`. The format that is stored is that of the video device. -/
def overlay_setFormat (w h fmt : BitVec 32) : Statement := fun s =>
  if s.ctx.imageW = w ∧ s.ctx.imageH = h ∧ s.ctx.format = fmt then .ok () s
  else (do
    ioctl (.VIDIOC_G_FMT .VIDEO_OUTPUT)
    ioctl (.VIDIOC_S_FMT (.pix w h (c.v4l2 fmt)))
    ioctl (.VIDIOC_G_FMT .VIDEO_OUTPUT)
    modifyContext fun ctx => { ctx with imageW := w, imageH := h, format := c.v4l2 fmt }) s

/-- `overlay_setCrop`. -/
def overlay_setCrop (crop : Rect) : Statement := fun s =>
  if s.ctx.crop = crop then .ok () s
  else (do
    ioctl .VIDIOC_G_CROP
    ioctl (.VIDIOC_S_CROP crop)
    modifyContext fun ctx => { ctx with crop := crop }) s

/-- The rotation of `overlay_setPosition`. -/
def setRotation (rotation : BitVec 32) : Statement := fun s =>
  if s.ctx.rotation = rotation then .ok () s else ioctl (.VIDIOC_S_CTRL rotation) s

/-- The window of `overlay_setPosition`. -/
def setWindow (pos : Rect) : Statement := fun s =>
  if s.ctx.pos = pos then .ok () s
  else (do
    ioctl (.VIDIOC_G_FMT .VIDEO_OVERLAY)
    ioctl (.VIDIOC_S_FMT (.win pos))) s

/-- `overlay_setPosition`. -/
def overlay_setPosition (pos : Rect) (rotation : BitVec 32) : Statement := fun s =>
  if s.ctx.pos = pos ∧ s.ctx.rotation = rotation then .ok () s
  else (do
    setRotation rotation
    setWindow pos
    modifyContext fun ctx => { ctx with pos := pos, rotation := rotation }) s

/-- `overlay_request_buffer`. -/
def overlay_request_buffer (buf_count : ℕ) : Statement := ioctl (.VIDIOC_REQBUFS buf_count)

/-- `overlay_init`. -/
def overlay_init : Statement := fun s =>
  if s.answers 0 then
    .ok () { s.call (.open (some s.newFd)) with ctx := { s.ctx with fd := s.newFd, mInit := true } }
  else .error (-1) (s.call (.open none))

/-- The first part of `overlay_prepare`: the device is opened, unless it is open. -/
def openDevice (hnd : Handle) : Statement := fun s =>
  if s.ctx.mInit then .ok () s
  else (do
    overlay_init
    overlay_setFormat c hnd.width hnd.height hnd.format
    overlay_request_buffer MAX_VIDEO_BUFF_NUM
    modifyContext fun ctx => { ctx with mInit := true }) s

/-- The second part: the device gets the format, the crop rectangle and the position. -/
def configure (hnd : Handle) (layer : Layer) : Statement := do
  overlay_setFormat c hnd.width hnd.height hnd.format
  overlay_setCrop (.ofEdges layer.sourceCrop)
  overlay_setPosition (.ofEdges layer.displayFrame) 0

/-- The last part: the stream is switched on, unless it is on. -/
def streamOn : Statement := fun s =>
  if s.ctx.isReady then .ok () s
  else (do
    ioctl .VIDIOC_STREAMON
    modifyContext fun ctx => { ctx with isReady := true, isFirst := true }) s

/-- `overlay_prepare`, for a context that is not `NULL`. -/
def overlay_prepare (layer : Option Layer) : Statement :=
  match layer with
  | none => throw (-1)
  | some layer =>
    match layer.handle with
    | none => throw (-1)
    | some hnd => do
      openDevice c hnd
      configure c hnd layer
      streamOn

/-- `sys_get_phyaddr_coda`. -/
def sys_get_phyaddr_coda (cpuphy : BitVec 32) : BitVec 32 :=
  if cpuphy &&& 0x80000000#32 = 0 then cpuphy else cpuphy &&& 0x0FFFFFFF#32 ||| 0x10000000#32

/-- The address of a frame that `overlay_set` queues. -/
def Handle.userptr (hnd : Handle) : BitVec 32 :=
  sys_get_phyaddr_coda (if hnd.usesIon then hnd.phys_addr else 0)

/-- The first part of `overlay_set`: a buffer is queued. -/
def queueBuffer (hnd : Handle) : Statement := do
  fun s => ioctl (.VIDIOC_QBUF s.index hnd.userptr) s
  modify fun s =>
    { s with index := if s.index + 1 ≥ MAX_VIDEO_BUFF_NUM then 0 else s.index + 1 }

/-- The second part: a buffer is taken back, unless the one in the queue is the first. -/
def dequeueBuffer : Statement := fun s =>
  if s.ctx.isFirst then .ok () s else ioctl .VIDIOC_DQBUF s

/-- `overlay_set`. -/
def overlay_set (layer : Layer) : Statement := fun s =>
  if s.ctx.isReady = false then .error (-1) s
  else match layer.handle with
  | none => .ok () s
  | some hnd => (do
      queueBuffer hnd
      dequeueBuffer
      modifyContext fun ctx => { ctx with isFirst := false }) s

/-- The first part of `overlay_disable`: the stream is switched off. -/
def streamOff : Statement := fun s =>
  if s.ctx.mInit && s.ctx.isReady then ioctl .VIDIOC_STREAMOFF s else .ok () s

/-- The second part: the device is closed, and the context cleared up to `isFirst`. -/
def closeDevice : Statement :=
  modify fun s =>
    { s.call (.close s.ctx.fd) with ctx := { fd := -1, isFirst := s.ctx.isFirst } }

/-- `overlay_disable`. -/
def overlay_disable : Statement := do
  streamOff
  closeDevice

/-! ### Runs -/

/-- A call of the overlay, with the outcomes of its system calls. -/
inductive Action
  | overlay_prepare (layer : Option Layer) (answers : ℕ → Bool) (newFd : ℕ)
  | overlay_set (layer : Layer) (answers : ℕ → Bool)
  | overlay_disable (answers : ℕ → Bool)

/-- The state in which a statement ends. -/
def run (p : Statement) (s : Overlay) : Overlay :=
  match p s with
  | .ok _ s' => s'
  | .error _ s' => s'

/-- One call. -/
def step (s : Overlay) : Action → Overlay
  | .overlay_prepare layer answers newFd =>
    run (overlay_prepare c layer) { s with answers := answers, newFd := newFd }
  | .overlay_set layer answers => run (overlay_set layer) { s with answers := answers }
  | .overlay_disable answers => run overlay_disable { s with answers := answers }

/-- The overlay with a zeroed context. -/
def zeroed : Overlay := ⟨{}, 0, fun _ => true, 0, []⟩

/-- The video device after the calls so far. -/
def Overlay.driver (s : Overlay) : Driver := StepRun.final Driver.step noFiles s.calls

/-- All calls so far were allowed. -/
def Protocol (s : Overlay) : Prop := StepRun.Along Driver.step Legal noFiles s.calls

instance : DecidablePred Protocol := fun s =>
  inferInstanceAs (Decidable (StepRun.Along Driver.step Legal noFiles s.calls))

/-- The buffers of the device have been requested. -/
def Requested (s : Overlay) : Prop := ∃ f ∈ s.driver s.ctx.fd, f.requested = true

/-- The buffers in the queue of the device. -/
def Overlay.queued (s : Overlay) : List ℕ := ((s.driver s.ctx.fd).map VideoFile.queued).getD []

/-- The condition on a call: where the device is open without buffers, `overlay_prepare` does not
come to switch the stream on; `overlay_set` finds fewer than all buffers in the queue;
`overlay_disable` finds the device open. -/
def Careful (s : Overlay) : Action → Prop
  | .overlay_prepare layer answers newFd => ∀ layer' ∈ layer, ∀ hnd ∈ layer'.handle,
      s.ctx.mInit = true → s.ctx.isReady = false → ¬ Requested s →
        ∀ s', configure c hnd layer' { s with answers := answers, newFd := newFd } ≠ .ok () s'
  | .overlay_set layer _ =>
      s.ctx.isReady = true → layer.handle.isSome = true → s.queued.length < MAX_VIDEO_BUFF_NUM
  | .overlay_disable _ => s.ctx.mInit = true

/-! ### System calls -/

section SystemCalls

variable {s : Overlay} {ctx : OverlayContext} {x : SysCall} {request : Request} {fd : ℤ}

/-- The device after one more call. -/
@[simp]
lemma driver_call : (s.call x).driver = s.driver.step x := by
  simp [Overlay.driver, Overlay.call, StepRun.final_append]

/-- A call does not touch the context. -/
@[simp]
lemma call_ctx : (s.call x).ctx = s.ctx := rfl

/-- One more call is allowed, and so were the calls before it. -/
lemma protocol_call : Protocol (s.call x) ↔ Protocol s ∧ Legal s.driver x := by
  simp [Protocol, Overlay.call, StepRun.along_append, StepRun.Along, Overlay.driver]

/-- Requests keep descriptors open. -/
lemma isSome_ioctl (d : Driver) (ok : Bool) (fd' : ℤ) :
    (d.step (.ioctl request fd ok) fd').isSome = (d fd').isSome := by
  cases ok with
  | false => rfl
  | true =>
    by_cases h : fd' = fd
    · simp [Driver.step, h]
    · simp [Driver.step, h]

/-- Requests do not take the buffers away. -/
lemma requested_serve {f : VideoFile} (h : f.requested = true) :
    (f.serve request).requested = true := by
  cases request <;> simp [VideoFile.serve, h]

/-- A request that the rules do not mention changes nothing. -/
lemma step_ioctl_of_neutral (hserve : ∀ f : VideoFile, f.serve request = f) (d : Driver)
    (ok : Bool) : d.step (.ioctl request fd ok) = d := by
  cases ok with
  | false => rfl
  | true =>
    have hid : (fun f : VideoFile => f.serve request) = id := funext hserve
    simp [Driver.step, hid]

end SystemCalls

/-! ### The configuration -/

/-- Two states that agree in what the rules are about. -/
structure Same (s s' : Overlay) : Prop where
  mInit : s'.ctx.mInit = s.ctx.mInit
  isReady : s'.ctx.isReady = s.ctx.isReady
  fd : s'.ctx.fd = s.ctx.fd
  index : s'.index = s.index
  driver : s'.driver = s.driver
  protocol : Protocol s' ↔ Protocol s

namespace Same

variable {s s' s₀ : Overlay}

/-- Nothing has changed. -/
lemma refl (s : Overlay) : Same s s := ⟨rfl, rfl, rfl, rfl, rfl, Iff.rfl⟩

/-- The buffers have been requested in both. -/
lemma requested_iff (h : Same s s') : Requested s' ↔ Requested s := by
  simp only [Requested, h.driver, h.fd]

/-- The queues are the same. -/
lemma queued (h : Same s s') : s'.queued = s.queued := by
  simp only [Overlay.queued, h.driver, h.fd]

/-- A request that the rules do not mention. -/
lemma keeps_ioctl {request : Request} (hserve : ∀ f : VideoFile, f.serve request = f)
    (hlegal : ∀ d fd ok, Legal d (.ioctl request fd ok)) : Keeps (Same s₀) (ioctl request) := by
  intro s h
  have hcall : ∀ ok, Same s₀ (s.call (.ioctl request s.ctx.fd ok)) := fun ok =>
    { mInit := h.mInit
      isReady := h.isReady
      fd := h.fd
      index := h.index
      driver := by rw [driver_call, step_ioctl_of_neutral hserve, h.driver]
      protocol := by rw [protocol_call, h.protocol, and_iff_left (hlegal _ _ _)] }
  unfold ioctl
  split_ifs
  · exact hcall true
  · exact hcall false

/-- A change of what the rules do not mention. -/
lemma keeps_modifyContext {f : OverlayContext → OverlayContext}
    (hf : ∀ ctx, (f ctx).mInit = ctx.mInit ∧ (f ctx).isReady = ctx.isReady ∧ (f ctx).fd = ctx.fd) :
    Keeps (Same s₀) (modifyContext f) :=
  Triple.modify fun s h =>
    { mInit := (hf s.ctx).1.trans h.mInit
      isReady := (hf s.ctx).2.1.trans h.isReady
      fd := (hf s.ctx).2.2.trans h.fd
      index := h.index
      driver := h.driver
      protocol := h.protocol }

/-- Passing the format. -/
lemma keeps_setFormat (w h fmt : BitVec 32) : Keeps (Same s₀) (overlay_setFormat c w h fmt) := by
  apply Keeps.ite (Triple.pure fun _ h => h)
  refine Keeps.seq (keeps_ioctl (fun _ => rfl) fun _ _ _ => trivial) ?_
  refine Keeps.seq (keeps_ioctl (fun _ => rfl) fun _ _ _ => trivial) ?_
  refine Keeps.seq (keeps_ioctl (fun _ => rfl) fun _ _ _ => trivial) ?_
  exact keeps_modifyContext fun _ => ⟨rfl, rfl, rfl⟩

/-- Passing the crop rectangle. -/
lemma keeps_setCrop (crop : Rect) : Keeps (Same s₀) (overlay_setCrop crop) := by
  apply Keeps.ite (Triple.pure fun _ h => h)
  refine Keeps.seq (keeps_ioctl (fun _ => rfl) fun _ _ _ => trivial) ?_
  refine Keeps.seq (keeps_ioctl (fun _ => rfl) fun _ _ _ => trivial) ?_
  exact keeps_modifyContext fun _ => ⟨rfl, rfl, rfl⟩

/-- Passing the position. -/
lemma keeps_setPosition (pos : Rect) (rotation : BitVec 32) :
    Keeps (Same s₀) (overlay_setPosition pos rotation) := by
  have hrotation : Keeps (Same s₀) (setRotation rotation) :=
    Keeps.ite (Triple.pure fun _ h => h) (keeps_ioctl (fun _ => rfl) fun _ _ _ => trivial)
  have hwindow : Keeps (Same s₀) (setWindow pos) := by
    apply Keeps.ite (Triple.pure fun _ h => h)
    refine Keeps.seq (keeps_ioctl (fun _ => rfl) fun _ _ _ => trivial) ?_
    exact keeps_ioctl (fun _ => rfl) fun _ _ _ => trivial
  apply Keeps.ite (Triple.pure fun _ h => h)
  apply hrotation.seq
  apply hwindow.seq
  exact keeps_modifyContext fun _ => ⟨rfl, rfl, rfl⟩

/-- What depends on the rules only is kept. -/
lemma keeps {I : Overlay → Prop} {p : Statement} (hp : ∀ s₀, Keeps (Same s₀) p)
    (hI : ∀ s s', Same s s' → I s → I s') : Keeps I p := by
  intro s hs
  have hsame := hp s s (refl s)
  cases hrun : p s with
  | ok u s' =>
    rw [hrun] at hsame
    exact hI s s' hsame hs
  | error e s' =>
    rw [hrun] at hsame
    exact hI s s' hsame hs

/-- **The configuration changes nothing that the rules are about.** -/
theorem keeps_configure (hnd : Handle) (layer : Layer) :
    Keeps (Same s₀) (configure c hnd layer) :=
  (keeps_setFormat c _ _ _).seq ((keeps_setCrop _).seq (keeps_setPosition _ _))

end Same

/-! ### The invariant -/

/-- All calls so far were allowed; the context knows which descriptor is open; the stream is only on
with buffers; and the queue is a window of the ring of buffers that ends before the next one. -/
structure Good (s : Overlay) : Prop where
  protocol : Protocol s
  opened : ∀ fd, (s.driver fd).isSome = true ↔ s.ctx.mInit = true ∧ fd = s.ctx.fd
  ready : s.ctx.isReady = true → Requested s
  window : RingWindow.IsWindow MAX_VIDEO_BUFF_NUM s.index s.queued

namespace Good

variable {s s' : Overlay}

/-- The invariant is about what the rules are about. -/
lemma of_same (h : Good s) (hsame : Same s s') : Good s' where
  protocol := hsame.protocol.mpr h.protocol
  opened fd := by rw [hsame.driver, hsame.mInit, hsame.fd, h.opened]
  ready hready := hsame.requested_iff.mpr (h.ready (hsame.isReady ▸ hready))
  window := by
    rw [hsame.index, hsame.queued]
    exact h.window

/-- Buffers are requested for an open device. -/
lemma mInit_of_requested (h : Good s) (hreq : Requested s) : s.ctx.mInit = true := by
  obtain ⟨f, hf, -⟩ := hreq
  have hsome : (s.driver s.ctx.fd).isSome = true := by
    rw [Option.mem_def.mp hf]
    rfl
  exact ((h.opened _).mp hsome).1

/-- The queue after a successful request. -/
lemma queued_call_true (request : Request) :
    (s.call (.ioctl request s.ctx.fd true)).queued =
      ((s.driver s.ctx.fd).map fun f => (f.serve request).queued).getD [] := by
  simp [Overlay.queued, Driver.step, Option.map_map, Function.comp_def]

/-- The queue after a request that fails. -/
lemma queued_call_false (request : Request) :
    (s.call (.ioctl request s.ctx.fd false)).queued = s.queued := by
  simp [Overlay.queued, Driver.step]

/-- Buffers stay requested. -/
lemma requested_call (h : Requested s) (request : Request) (ok : Bool) :
    Requested (s.call (.ioctl request s.ctx.fd ok)) := by
  obtain ⟨f, hf, hreq⟩ := h
  rw [Option.mem_def] at hf
  cases ok with
  | false => exact ⟨f, by simpa [Driver.step] using hf, hreq⟩
  | true => exact ⟨f.serve request, by simp [Driver.step, hf], requested_serve hreq⟩

/-- An allowed request keeps the invariant, if the queue stays a window. -/
lemma call (h : Good s) {request : Request} {ok : Bool}
    (hlegal : Legal s.driver (.ioctl request s.ctx.fd ok))
    (hwindow : RingWindow.IsWindow MAX_VIDEO_BUFF_NUM s.index
      (s.call (.ioctl request s.ctx.fd ok)).queued) :
    Good (s.call (.ioctl request s.ctx.fd ok)) where
  protocol := protocol_call.mpr ⟨h.protocol, hlegal⟩
  opened fd := by
    rw [driver_call, isSome_ioctl]
    exact h.opened fd
  ready hready := requested_call (h.ready hready) request ok
  window := hwindow

/-- An allowed request that fails keeps the invariant. -/
lemma call_false (h : Good s) {request : Request}
    (hlegal : Legal s.driver (.ioctl request s.ctx.fd false)) :
    Good (s.call (.ioctl request s.ctx.fd false)) :=
  h.call hlegal (by
    rw [queued_call_false]
    exact h.window)

/-- An allowed request that leaves the queue alone keeps the invariant. -/
lemma call_true (h : Good s) {request : Request}
    (hlegal : Legal s.driver (.ioctl request s.ctx.fd true))
    (hqueue : ∀ f : VideoFile, (f.serve request).queued = f.queued) :
    Good (s.call (.ioctl request s.ctx.fd true)) := by
  apply h.call hlegal
  rw [queued_call_true]
  simp only [hqueue]
  exact h.window

end Good

/-! ### Preparing -/

/-- The device is opened, where nothing is open. -/
lemma triple_init :
    Triple (fun s => Good s ∧ ¬ s.ctx.mInit = true) overlay_init
      (fun s => Good s ∧ s.ctx.mInit = true) Good := by
  rintro s ⟨h, hclosed⟩
  have hnone : ∀ fd, s.driver fd = none := fun fd => by
    rw [← Option.not_isSome_iff_eq_none]
    exact fun hsome => hclosed ((h.opened fd).mp hsome).1
  have hready : ¬ s.ctx.isReady = true := fun hready =>
    hclosed (h.mInit_of_requested (h.ready hready))
  unfold overlay_init
  split_ifs
  · have hdriver : ∀ fd, ({ s.call (.open (some s.newFd)) with
        ctx := { s.ctx with fd := s.newFd, mInit := true } } : Overlay).driver fd =
          if fd = s.newFd then some ⟨false, []⟩ else none := fun fd => by
      show (s.call (.open (some s.newFd))).driver fd = _
      simp [Driver.step, Function.update_apply, hnone]
    refine ⟨⟨protocol_call.mpr ⟨h.protocol, trivial⟩, fun fd => ?_, fun hr => absurd hr hready,
      ?_⟩, rfl⟩
    · rw [hdriver]
      split_ifs with heq <;> simp [heq]
    · rw [Overlay.queued, hdriver, if_pos rfl]
      exact h.window.clear
  · refine ⟨protocol_call.mpr ⟨h.protocol, trivial⟩, fun fd => ?_, fun hr => absurd hr hready, ?_⟩
    · rw [driver_call]
      exact h.opened fd
    · rw [Overlay.queued, driver_call]
      exact h.window

/-- The buffers of an open device are requested. -/
lemma triple_requestBuffer (count : ℕ) :
    Triple (fun s => Good s ∧ s.ctx.mInit = true) (overlay_request_buffer count)
      (fun s => Good s ∧ Requested s) Good := by
  rintro s ⟨h, hopen⟩
  obtain ⟨f, hf⟩ := Option.isSome_iff_exists.mp ((h.opened s.ctx.fd).mpr ⟨hopen, rfl⟩)
  unfold overlay_request_buffer ioctl
  split_ifs
  · exact ⟨h.call_true trivial fun _ => rfl, f.serve (.VIDIOC_REQBUFS count),
      by simp [Driver.step, hf], rfl⟩
  · exact h.call_false trivial

/-- The first part of `overlay_prepare` leaves a device with buffers, unless it finds one without
them. -/
lemma triple_openDevice (hnd : Handle) :
    Triple (fun s => Good s ∧ (s.ctx.mInit = true → Requested s)) (openDevice c hnd)
      (fun s => Good s ∧ Requested s) Good := by
  apply Triple.ite (Triple.pure fun s h => ⟨h.1.1, h.1.2 h.2⟩)
  have hformat : Keeps (fun s => Good s ∧ s.ctx.mInit = true)
      (overlay_setFormat c hnd.width hnd.height hnd.format) :=
    Same.keeps (fun _ => Same.keeps_setFormat c _ _ _) fun s s' hsame h =>
      ⟨h.1.of_same hsame, hsame.mInit.trans h.2⟩
  refine Triple.seq (triple_init.imp (fun s h => ⟨h.1.1, h.2⟩) (fun _ h => h) fun _ h => h) ?_
  refine Triple.seq (Triple.imp hformat (fun _ h => h) (fun _ h => h) fun _ h => h.1) ?_
  refine Triple.seq (triple_requestBuffer _) (Triple.modify fun s h => ?_)
  have hsame : Same s { s with ctx := { s.ctx with mInit := true } } :=
    ⟨(h.1.mInit_of_requested h.2).symm, rfl, rfl, rfl, rfl, Iff.rfl⟩
  exact ⟨h.1.of_same hsame, hsame.requested_iff.mpr h.2⟩

/-- The stream is switched on for a device with buffers. -/
lemma triple_streamOn : Triple (fun s => Good s ∧ Requested s) streamOn Good Good := by
  apply Triple.ite (Triple.pure fun s h => h.1.1)
  have hon : Triple (fun s => (Good s ∧ Requested s) ∧ ¬ s.ctx.isReady = true)
      (ioctl .VIDIOC_STREAMON) (fun s => Good s ∧ Requested s) Good := by
    rintro s ⟨⟨h, hreq⟩, -⟩
    unfold ioctl
    split_ifs
    · exact ⟨h.call_true hreq fun _ => rfl, Good.requested_call hreq _ _⟩
    · exact h.call_false hreq
  refine hon.seq (Triple.modify fun s h => ⟨h.1.protocol, h.1.opened, fun _ => h.2, h.1.window⟩)

/-- A device with buffers is prepared, and one that is not open. -/
lemma keeps_prepare (hnd : Handle) (layer : Layer) :
    Triple (fun s => Good s ∧ (s.ctx.mInit = true → Requested s))
      (do openDevice c hnd; configure c hnd layer; streamOn) Good Good := by
  have hconfigure : Keeps (fun s => Good s ∧ Requested s) (configure c hnd layer) :=
    Same.keeps (fun _ => Same.keeps_configure c hnd layer) fun s s' hsame h =>
      ⟨h.1.of_same hsame, hsame.requested_iff.mpr h.2⟩
  refine (triple_openDevice c hnd).seq (Triple.seq ?_ triple_streamOn)
  exact Triple.imp hconfigure (fun _ h => h) (fun _ h => h) fun _ h => h.1

/-! ### Queueing and disabling -/

/-- A buffer is queued where the queue does not hold all of them. -/
lemma triple_queueBuffer (hnd : Handle) :
    Triple (fun s => Good s ∧ s.ctx.isReady = true ∧ s.queued.length < MAX_VIDEO_BUFF_NUM)
      (queueBuffer hnd) Good Good := by
  let next := fun s : Overlay =>
    { s with index := if s.index + 1 ≥ MAX_VIDEO_BUFF_NUM then 0 else s.index + 1 }
  have hqueue : Triple
      (fun s => Good s ∧ s.ctx.isReady = true ∧ s.queued.length < MAX_VIDEO_BUFF_NUM)
      (fun s => ioctl (.VIDIOC_QBUF s.index hnd.userptr) s) (fun s => Good (next s)) Good := by
    rintro s ⟨h, hready, hlength⟩
    obtain ⟨f, hf, hreq⟩ := h.ready hready
    have hqueued : s.queued = f.queued := by
      rw [Overlay.queued, Option.mem_def.mp hf]
      rfl
    have hlegal : ∀ ok,
        Legal s.driver (.ioctl (.VIDIOC_QBUF s.index hnd.userptr) s.ctx.fd ok) := by
      refine fun ok => ⟨f, hf, hreq, ?_⟩
      rw [← hqueued, h.window.next_mem_iff (by decide)]
      omega
    simp only [ioctl]
    split_ifs
    · refine ⟨protocol_call.mpr ⟨h.protocol, hlegal true⟩, fun fd => ?_,
        fun _ => Good.requested_call (h.ready hready) _ true, ?_⟩
      · show ((s.call _).driver fd).isSome = true ↔ _
        rw [driver_call, isSome_ioctl]
        exact h.opened fd
      · have hnext : (if s.index + 1 ≥ MAX_VIDEO_BUFF_NUM then 0 else s.index + 1) =
            (s.index + 1) % MAX_VIDEO_BUFF_NUM := by
          obtain ⟨k, -, hindex, -⟩ := h.window
          unfold MAX_VIDEO_BUFF_NUM at hindex ⊢
          split_ifs <;> omega
        show RingWindow.IsWindow _ (if s.index + 1 ≥ MAX_VIDEO_BUFF_NUM then 0 else s.index + 1)
          (s.call (.ioctl (.VIDIOC_QBUF s.index hnd.userptr) s.ctx.fd true)).queued
        have hput := h.window.put
        rw [hqueued] at hput
        rw [hnext, Good.queued_call_true, Option.mem_def.mp hf]
        exact hput
    · exact h.call_false (hlegal false)
  exact hqueue.seq (Triple.modify fun s h => h)

/-- A buffer is taken back. -/
lemma keeps_dequeueBuffer : Keeps Good dequeueBuffer := by
  refine Keeps.ite (Triple.pure fun _ h => h) ?_
  intro s h
  have htail : RingWindow.IsWindow MAX_VIDEO_BUFF_NUM s.index s.queued.tail := by
    have hwindow := h.window
    cases hq : s.queued with
    | nil =>
      rw [hq] at hwindow
      exact hwindow
    | cons j l =>
      rw [hq] at hwindow
      exact hwindow.get
  unfold ioctl
  split_ifs
  · refine h.call trivial ?_
    rw [Good.queued_call_true]
    rw [Overlay.queued] at htail
    cases hfile : s.driver s.ctx.fd with
    | none => simpa [hfile] using htail
    | some f => simpa [hfile, VideoFile.serve] using htail
  · exact h.call_false trivial

/-- The stream is switched off. -/
lemma triple_streamOff :
    Triple (fun s => Good s ∧ s.ctx.mInit = true) streamOff
      (fun s => Good s ∧ s.ctx.mInit = true) Good := by
  have hoff : Triple (fun s => (Good s ∧ s.ctx.mInit = true) ∧
      (s.ctx.mInit && s.ctx.isReady) = true) (ioctl .VIDIOC_STREAMOFF)
      (fun s => Good s ∧ s.ctx.mInit = true) Good := by
    rintro s ⟨⟨h, hopen⟩, -⟩
    unfold ioctl
    split_ifs
    · refine ⟨h.call trivial ?_, hopen⟩
      rw [Good.queued_call_true]
      cases s.driver s.ctx.fd with
      | none => exact h.window.clear
      | some f => exact h.window.clear
    · exact h.call_false trivial
  exact Triple.ite hoff (Triple.pure fun s h => h.1)

/-- An open device is closed. -/
lemma triple_closeDevice :
    Triple (fun s => Good s ∧ s.ctx.mInit = true) closeDevice Good Good := by
  refine Triple.modify fun s h => ?_
  have hdriver : ∀ fd, (s.call (.close s.ctx.fd)).driver fd = none := fun fd => by
    rw [driver_call, Driver.step, Function.update_apply]
    split_ifs with heq
    · rfl
    · rw [← Option.not_isSome_iff_eq_none]
      exact fun hsome => heq ((h.1.opened fd).mp hsome).2
  refine ⟨protocol_call.mpr ⟨h.1.protocol, (h.1.opened _).mpr ⟨h.2, rfl⟩⟩, fun fd => ?_,
    fun hready => absurd hready Bool.false_ne_true, ?_⟩
  · show ((s.call (.close s.ctx.fd)).driver fd).isSome = true ↔ _
    rw [hdriver]
    simp
  · show RingWindow.IsWindow _ s.index
      (((s.call (.close s.ctx.fd)).driver (-1)).map VideoFile.queued |>.getD [])
    rw [hdriver]
    exact h.1.window.clear

/-! ### What breaks the rules -/

/-- A call that was not allowed is not undone. -/
lemma keeps_broken_ioctl (request : Request) : Keeps (fun s => ¬ Protocol s) (ioctl request) := by
  intro s h
  unfold ioctl
  split_ifs
  · exact fun hcall => h (protocol_call.mp hcall).1
  · exact fun hcall => h (protocol_call.mp hcall).1

/-- The end of a statement that leads to a condition wherever it ends. -/
lemma of_run {P : Overlay → Prop} {p : Statement} {s : Overlay} {Q : Overlay → Prop}
    (h : Triple Q p P P) (hs : Q s) : P (run p s) := by
  have hrun := h s hs
  unfold run
  cases hp : p s with
  | ok u s' =>
    rw [hp] at hrun
    exact hrun
  | error e s' =>
    rw [hp] at hrun
    exact hrun

/-- Only a device with buffers may be switched on. -/
lemma broken_streamOn :
    Triple (fun s => s.ctx.isReady = false ∧ ¬ Requested s) streamOn (fun s => ¬ Protocol s)
      fun s => ¬ Protocol s := by
  have hon : Triple (fun s => (s.ctx.isReady = false ∧ ¬ Requested s) ∧ ¬ s.ctx.isReady = true)
      (ioctl .VIDIOC_STREAMON) (fun s => ¬ Protocol s) fun s => ¬ Protocol s := by
    rintro s ⟨⟨-, hreq⟩, -⟩
    unfold ioctl
    split_ifs
    · exact fun h => hreq (protocol_call.mp h).2
    · exact fun h => hreq (protocol_call.mp h).2
  refine Triple.ite (Triple.pure fun s h => ?_) (hon.seq (Triple.modify fun s h => h))
  rw [h.1.1] at h
  exact absurd h.2 Bool.false_ne_true

/-- No buffer may be queued where the queue holds all of them. -/
lemma broken_queueBuffer (hnd : Handle) :
    Triple (fun s => Good s ∧ MAX_VIDEO_BUFF_NUM ≤ s.queued.length) (queueBuffer hnd)
      (fun s => ¬ Protocol s) fun s => ¬ Protocol s := by
  have hqueue : Triple (fun s => Good s ∧ MAX_VIDEO_BUFF_NUM ≤ s.queued.length)
      (fun s => ioctl (.VIDIOC_QBUF s.index hnd.userptr) s) (fun s => ¬ Protocol s)
      fun s => ¬ Protocol s := by
    rintro s ⟨h, hlength⟩
    have hillegal : ∀ ok,
        ¬ Legal s.driver (.ioctl (.VIDIOC_QBUF s.index hnd.userptr) s.ctx.fd ok) := by
      rintro ok ⟨f, hf, -, hnotMem⟩
      have hmem := (h.window.next_mem_iff (by decide)).mpr hlength
      rw [Overlay.queued, Option.mem_def.mp hf] at hmem
      exact hnotMem hmem
    simp only [ioctl]
    split_ifs
    · exact fun hcall => hillegal true (protocol_call.mp hcall).2
    · exact fun hcall => hillegal false (protocol_call.mp hcall).2
  exact hqueue.seq (Triple.modify fun s h => h)

/-! ### Runs -/

/-- Where the device is open, `overlay_prepare` begins with the configuration. -/
lemma openDevice_of_mInit {s : Overlay} (h : s.ctx.mInit = true) (hnd : Handle) :
    openDevice c hnd s = .ok () s := if_pos h

/-- What `overlay_prepare` does with a device that is open without buffers: it does not come to the
stream, or breaks the rules. -/
lemma prepare_without_buffers {s : Overlay} (h : Good s) (hinit : s.ctx.mInit = true)
    (hreq : ¬ Requested s) (hnd : Handle) (layer : Layer) :
    (∀ s', configure c hnd layer s ≠ .ok () s') ∧
        Good (run (do openDevice c hnd; configure c hnd layer; streamOn) s) ∨
      (∃ s', configure c hnd layer s = .ok () s') ∧
        ¬ Protocol (run (do openDevice c hnd; configure c hnd layer; streamOn) s) := by
  have hready : s.ctx.isReady = false := by
    by_contra hnot
    exact hreq (h.ready (Bool.eq_true_of_not_eq_false hnot))
  have hsame := Same.keeps_configure c hnd layer s (Same.refl s)
  unfold run
  rw [seq_of_ok (openDevice_of_mInit c hinit hnd)]
  cases hconfigure : configure c hnd layer s with
  | ok u s' =>
    rw [hconfigure] at hsame
    refine Or.inr ⟨⟨s', rfl⟩, ?_⟩
    rw [seq_of_ok hconfigure]
    exact of_run broken_streamOn
      ⟨hsame.isReady.trans hready, fun hreq' => hreq (hsame.requested_iff.mp hreq')⟩
  | error e s' =>
    rw [hconfigure] at hsame
    refine Or.inl ⟨fun s'' hok => (nomatch hok), ?_⟩
    rw [seq_of_error hconfigure]
    exact h.of_same hsame

/-- **The system calls of a step are allowed exactly if the step is careful**, and the invariant is
then kept. -/
theorem protocol_step_iff {s : Overlay} (h : Good s) (a : Action) :
    (Careful c s a → Good (step c s a)) ∧ (Protocol (step c s a) → Careful c s a) := by
  cases a with
  | overlay_prepare layer answers newFd =>
    have hsame : Same s { s with answers := answers, newFd := newFd } :=
      ⟨rfl, rfl, rfl, rfl, rfl, Iff.rfl⟩
    have h' := h.of_same hsame
    cases layer with
    | none => exact ⟨fun _ => h', fun _ layer' hlayer => absurd hlayer (by simp)⟩
    | some layer =>
      cases hhandle : layer.handle with
      | none =>
        refine ⟨fun _ => ?_, fun _ layer' hlayer hnd hhnd => ?_⟩
        · simp only [step, overlay_prepare, hhandle]
          exact h'
        · rw [← Option.some.inj hlayer, hhandle] at hhnd
          cases hhnd
      | some hnd =>
        simp only [step, overlay_prepare, hhandle, Careful, Option.mem_def, Option.some.injEq,
          forall_eq']
        by_cases hreq : s.ctx.mInit = true → Requested s
        · refine ⟨fun _ => of_run (keeps_prepare c hnd layer) ⟨h', hreq⟩, fun _ => ?_⟩
          exact fun hinit _ hnot => absurd (hreq hinit) hnot
        · obtain ⟨hinit, hnot⟩ := Classical.not_imp.mp hreq
          have hready : s.ctx.isReady = false := by
            by_contra hon
            exact hnot (h.ready (Bool.eq_true_of_not_eq_false hon))
          rcases prepare_without_buffers c h' hinit hnot hnd layer with
            ⟨herror, hgood⟩ | ⟨⟨s', hok⟩, hbroken⟩
          · exact ⟨fun _ => hgood, fun _ _ _ _ => herror⟩
          · exact ⟨fun hcareful => absurd hok (hcareful hinit hready hnot s'),
              fun hprotocol => absurd hprotocol hbroken⟩
  | overlay_set layer answers =>
    have h' : Good { s with answers := answers } := h.of_same ⟨rfl, rfl, rfl, rfl, rfl, Iff.rfl⟩
    cases hready : s.ctx.isReady with
    | false =>
      refine ⟨fun _ => ?_, fun _ hr => absurd (hready.symm.trans hr) Bool.false_ne_true⟩
      simp only [step, run, overlay_set, hready, if_true]
      exact h'
    | true =>
      have hset : ∀ hnd, layer.handle = some hnd → step c s (.overlay_set layer answers) =
          run (do queueBuffer hnd; dequeueBuffer
                  modifyContext fun ctx => { ctx with isFirst := false })
            { s with answers := answers } := fun hnd hhnd => by
        simp only [step, run, overlay_set, hready, hhnd]
        rfl
      cases hhandle : layer.handle with
      | none =>
        refine ⟨fun _ => ?_, fun _ _ hsome => absurd hsome (by simp [hhandle])⟩
        simp only [step, run, overlay_set, hready, hhandle]
        exact h'
      | some hnd =>
        rw [hset hnd hhandle]
        have hlast : Keeps Good (modifyContext fun ctx => { ctx with isFirst := false }) :=
          Triple.modify fun s h => h.of_same ⟨rfl, rfl, rfl, rfl, rfl, Iff.rfl⟩
        constructor
        · intro hcareful
          refine of_run ((triple_queueBuffer hnd).seq (keeps_dequeueBuffer.seq hlast))
            ⟨h', hready, hcareful hready (by simp [hhandle])⟩
        · intro hprotocol _ _
          by_contra hlength
          have hdequeue : Keeps (fun s => ¬ Protocol s) dequeueBuffer :=
            Keeps.ite (Triple.pure fun _ h => h) (keeps_broken_ioctl _)
          have hbroken : Triple (fun s => Good s ∧ MAX_VIDEO_BUFF_NUM ≤ s.queued.length)
              (do queueBuffer hnd; dequeueBuffer
                  modifyContext fun ctx => { ctx with isFirst := false })
              (fun s => ¬ Protocol s) fun s => ¬ Protocol s :=
            (broken_queueBuffer hnd).seq (hdequeue.seq (Triple.modify fun s h => h))
          exact of_run hbroken ⟨h', not_lt.mp hlength⟩ hprotocol
  | overlay_disable answers =>
    have h' : Good { s with answers := answers } := h.of_same ⟨rfl, rfl, rfl, rfl, rfl, Iff.rfl⟩
    constructor
    · exact fun hinit => of_run (triple_streamOff.seq triple_closeDevice) ⟨h', hinit⟩
    · intro hprotocol
      by_contra hclosed
      have hoff : streamOff { s with answers := answers } = .ok () { s with answers := answers } :=
        if_neg fun hboth => hclosed (Bool.and_eq_true_iff.mp hboth).1
      simp only [step, run, overlay_disable, seq_of_ok hoff] at hprotocol
      have hlegal := (protocol_call.mp hprotocol).2
      exact hclosed ((h'.opened _).mp hlegal).1

/-- The invariant holds for a zeroed context. -/
lemma good_zeroed : Good zeroed where
  protocol := trivial
  opened fd := by simp [zeroed, Overlay.driver, noFiles]
  ready h := absurd h Bool.false_ne_true
  window := ⟨0, Nat.le_refl 0, rfl, rfl⟩

/-- **The system calls of a run are allowed if and only if all its steps are careful**, whichever of
them fail.

**Proof sketch.** The invariant knows which descriptor is open, and that the queue is a window of
the ring of buffers; so a careful step keeps it, and any other breaks the rules. -/
theorem always_protocol_iff (actions : List Action) :
    StepRun.Always (step c) Protocol zeroed actions ↔
      StepRun.Along (step c) (Careful c) zeroed actions :=
  StepRun.always_iff_along_of_invariant (I := Good) (fun _ h => h.protocol)
    (fun _ a h => (protocol_step_iff c h a).1) (fun _ a h => (protocol_step_iff c h a).2)
    good_zeroed

/-- A layer with a frame. -/
def sampleLayer : Layer where
  handle := some ⟨640, 480, 1, true, 0x1000⟩
  sourceCrop := (0, 0, 640, 480)
  displayFrame := (0, 0, 800, 600)

/-- Pixel formats, each of which is different from the others. -/
def sampleFormats : PixelFormats := ⟨1, 2, 3, 4, 5, 6, 7, 11, 12, 13, 14, 15, 16, 17⟩

/-- Three runs break the rules: `overlay_disable` of a device that was never prepared closes the
descriptor 0; after buffers could not be requested, the next `overlay_prepare` switches the stream
on without them; and when no frame can be taken back, the ninth call of `overlay_set` queues the
first buffer again. -/
theorem not_always_protocol :
    ¬ StepRun.Always (step sampleFormats) Protocol zeroed [.overlay_disable fun _ => true] ∧
      ¬ StepRun.Always (step sampleFormats) Protocol zeroed
        [.overlay_prepare (some sampleLayer) (fun n => n ≠ 4) 5,
          .overlay_prepare (some sampleLayer) (fun _ => true) 6] ∧
      ¬ StepRun.Always (step sampleFormats) Protocol zeroed
        (.overlay_prepare (some sampleLayer) (fun _ => true) 5 ::
          List.replicate 9 (.overlay_set sampleLayer fun n => n = 0)) := by
  have hbroken : ∀ actions, ¬ Protocol (StepRun.final (step sampleFormats) zeroed actions) →
      ¬ StepRun.Always (step sampleFormats) Protocol zeroed actions :=
    fun _ hlast h => hlast h.last
  refine ⟨hbroken _ ?_, hbroken _ ?_, hbroken _ ?_⟩
  · decide +kernel
  · decide +kernel
  · decide +kernel

end OverlayDevice
