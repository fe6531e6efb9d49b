import Gs702aHal.Camera.CallbackNotifier
import Gs702aHal.Camera.VceEncode
import Gs702aHal.Camera.VceServed
import Gs702aHal.Camera.VideoMemory

set_option relaxedAutoImplicit false
set_option autoImplicit false

/-!
# Resizing by the encoder component

`AppCallbackNotifier::vceResize` has a frame resized by a component. It configures the component
for the sizes, the format and the buffers of a frame, and does so again only if the tag of the
configuration, preview or capture, is another one than before, or if it is capture. The results of
the configuration are not used, nor is that of the encoding.

A call of the component is answered as in `CameraHal.EventVce`. What the memory for the resized
frames holds is given by the call, the frame and the configuration that an image of the component
was made of. An output that is not for the image of the call, from an answer that was late, may be
anything. The queues of frames are left out, and so are the observer of the component and
`fillAllOutputBuffers`, whose status is not used.

## Main definitions

* `CameraHal.HardwareResize.OMXVceImageResize` — the component, with the definitions of its ports.
* `CameraHal.HardwareResize.Notifier`, `CameraHal.HardwareResize.Notifier.step` — the notifier with
  the memory of the preview, and its steps.
* `CameraHal.HardwareResize.Handed.AtHand` — the component was configured for the frame, and the
  frame was delivered with its own resized image.
* `CameraHal.HardwareResize.Notifier.Serves` — the component serves the calls of a step.
* `CameraHal.HardwareResize.Notifier.Matches` — the condition on a step.

## Main results

* `CameraHal.HardwareResize.OMXVceImageResize.Settled.configure` — a configuration that is served
  takes effect.
* `CameraHal.HardwareResize.Notifier.encodeFrame_of_timeout` — what a frame is passed on with if its
  image does not come in time.
* `CameraHal.HardwareResize.always_atHand_iff` — with a component that serves, all frames are
  resized at hand exactly if all frames match.
-/

namespace CameraHal.HardwareResize

open Status EventVce
open VceEncode (PortDefinition)

/-! ### Frames -/

/-- `OMX_COLOR_FormatUnused`. -/
def OMX_COLOR_FormatUnused : ℤ := 0
/-- `OMX_COLOR_FormatYUV420Planar`. -/
def OMX_COLOR_FormatYUV420Planar : ℤ := 19
/-- `OMX_COLOR_FormatYUV420SemiPlanar`. -/
def OMX_COLOR_FormatYUV420SemiPlanar : ℤ := 21
/-- `OMX_VIDEO_CodingUnused`. -/
def OMX_VIDEO_CodingUnused : ℤ := 0

/-- The bit `ENCODE_WITH_SW` of the quirks. -/
def ENCODE_WITH_SW : BitVec 32 := 1#32 <<< 4

/-- The tag of a configuration. -/
inductive ResizeType
  | UNUSED_RESIZE
  | PRVIEW_RESIZE
  | CAPTURE_RESIZE
  deriving DecidableEq, Repr

/-- A frame with its sizes. -/
structure ResizeFrame extends NotifierFrame where
  mOrigWidth : ℕ
  mOrigHeight : ℕ
  mXOff : ℕ
  mYOff : ℕ
  mWidth : ℕ
  mHeight : ℕ
  mEncodeWidth : ℕ
  mEncodeHeight : ℕ
  deriving DecidableEq

namespace ResizeFrame

/-- The component's name for the pixel format of the frame, if there is one. -/
def omxFormat (f : ResizeFrame) : Option ℤ :=
  match f.mFormat with
  | .CAMERA_FRAME_FORMAT_YUV420P => some OMX_COLOR_FormatYUV420Planar
  | .CAMERA_FRAME_FORMAT_YUV420SP => some OMX_COLOR_FormatYUV420SemiPlanar
  | _ => none

/-- The frame needs no resizing. -/
def Unscaled (f : ResizeFrame) : Prop :=
  f.mWidth = f.mEncodeWidth ∧ f.mHeight = f.mEncodeHeight ∧ f.mOrigWidth = f.mEncodeWidth ∧
    f.mOrigHeight = f.mEncodeHeight ∧ f.mXOff = 0 ∧ f.mYOff = 0

instance (f : ResizeFrame) : Decidable f.Unscaled :=
  inferInstanceAs (Decidable (f.mWidth = f.mEncodeWidth ∧ _))

/-- The frame is resized by the component. -/
def ByHardware (f : ResizeFrame) : Prop := ¬ f.Unscaled ∧ ENCODE_WITH_SW &&& f.mQuirks = 0

instance (f : ResizeFrame) : Decidable f.ByHardware :=
  inferInstanceAs (Decidable (¬ f.Unscaled ∧ _))

/-- The tag for the frame. -/
def resizeType (f : ResizeFrame) : ResizeType :=
  match f.mFrameType with
  | .PREVIEW_FRAME_SYNC | .VIDEO_FRAME_SYNC => .PRVIEW_RESIZE
  | _ => .CAPTURE_RESIZE

end ResizeFrame

/-! ### The component -/

/-- What the component is configured with: its ports, and the buffers that have headers. -/
structure Configuration where
  input : PortDefinition
  output : PortDefinition
  buffers : List Ptr
  deriving DecidableEq

/-- The component is configured for the sizes and the format of a frame, and for its buffer. -/
structure Configuration.Fits (c : Configuration) (f : ResizeFrame) : Prop where
  origWidth : c.input.nFrameWidth = f.mOrigWidth
  origHeight : c.input.nFrameHeight = f.mOrigHeight
  encodeWidth : c.output.nFrameWidth = f.mEncodeWidth
  encodeHeight : c.output.nFrameHeight = f.mEncodeHeight
  inputFormat : f.omxFormat = some c.input.eColorFormat
  outputFormat : f.omxFormat = some c.output.eColorFormat
  buffer : f.mBuffer ∈ c.buffers

/-- An image of the component: the call and the frame that it was made for, and how the component
was configured. -/
structure Picture where
  call : ℕ
  frame : ResizeFrame
  configuration : Configuration
  deriving DecidableEq

/-- What an output buffer holds: the image for the call, or anything else. -/
inductive Produced
  | own
  | other (content : Option Picture)
  deriving DecidableEq

/-- The output that `processImageSync` finds. -/
structure Output where
  buf : Ptr
  size : ℕ
  produced : Produced
  deriving DecidableEq

/-- The answers to a configuration: to `stopEncode`, to the six statements of `setPortParameters`
that call the component, whether there is memory for the buffers, and to `prepareEncode`. -/
structure ConfigAnswer where
  fuel : ℕ
  toLoaded : ℕ → ToLoadedAnswer
  getInput : OMX_ERRORTYPE × PortDefinition
  setInput : OMX_ERRORTYPE
  getOutput : OMX_ERRORTYPE × PortDefinition
  setOutput : OMX_ERRORTYPE
  getOutputSize : OMX_ERRORTYPE × PortDefinition
  memory : Bool
  toIdle : IdleBuffersAnswer
  toExec : ToExecAnswer
  failed : ℕ → ToLoadedAnswer

/-- The answers to `encode`: the events before it and during its wait, and the output that comes
before the time is up. -/
structure EncodeAnswer where
  before : List OmxEvent
  emptyThisBuffer : OMX_ERRORTYPE
  during : List OmxEvent
  output : Option Output

/-- The component for resizing. -/
structure OMXVceImageResize where
  /-- The state of `OMXVce`. -/
  vce : EventVce
  mImageWidth : ℕ
  mImageHeight : ℕ
  mOutputImageWidth : ℕ
  mOutputImageHeight : ℕ
  mImageFormat : ℤ
  mImageInputCnt : ℕ
  mInputPortParam : PortDefinition
  mOutputPortParam : PortDefinition
  mImageProcessing : Bool
  /-- The definitions of the ports that the component took last. -/
  inputPort : PortDefinition
  outputPort : PortDefinition

namespace OMXVceImageResize

/-- Statements that may end in `goto EXIT`. -/
abbrev Statement := EStateM Status OMXVceImageResize Unit

/-- The test of an answer. -/
def check (e : OMX_ERRORTYPE) : Statement :=
  if omxToAndroidError e = NO_ERROR then pure () else throw (omxToAndroidError e)

/-- `getPortDefinition`: `OMX_INIT_STRUCT_PTR`, and the component's answer if there is one. -/
def received (a : OMX_ERRORTYPE × PortDefinition) : PortDefinition :=
  if a.1 = .OMX_ErrorNone then a.2 else ⟨0, 0, 0, 0, 0, 0⟩

/-- The fields of the input port's definition that `setPortParameters` writes. -/
def withInput (r : OMXVceImageResize) : PortDefinition :=
  { r.mInputPortParam with
    nBufferCountActual := r.mImageInputCnt
    nFrameWidth := r.mImageWidth
    nFrameHeight := r.mImageHeight
    eColorFormat := r.mImageFormat
    eCompressionFormat := OMX_VIDEO_CodingUnused }

/-- The fields of the output port's definition that `setPortParameters` writes. -/
def withOutput (r : OMXVceImageResize) : PortDefinition :=
  { r.mOutputPortParam with
    nBufferCountActual := 2
    nFrameWidth := r.mOutputImageWidth
    nFrameHeight := r.mOutputImageHeight
    eColorFormat := r.mImageFormat
    eCompressionFormat := OMX_VIDEO_CodingUnused }

/-- `useBuffers` for the output port. -/
def useOutputBuffers : Statement := fun r =>
  if r.vce.mComponentState = OMX_STATETYPE.OMX_StateLoaded.value then
    .ok () { r with
      vce := { r.vce with mOutputBufferCount := r.mOutputPortParam.nBufferCountActual } }
  else .error INVALID_OPERATION { r with vce := { r.vce with mOutputBufferCount := 0 } }

/-- `setPortParameters`. -/
def setPortParameters (a : ConfigAnswer) : Statement := do
  modify fun r => { r with mInputPortParam := received a.getInput }
  check a.getInput.1
  modify fun r => { r with mInputPortParam := r.withInput }
  check a.setInput
  modify fun r => { r with inputPort := r.mInputPortParam }
  modify fun r => { r with mOutputPortParam := received a.getOutput }
  check a.getOutput.1
  modify fun r => { r with mOutputPortParam := r.withOutput }
  check a.setOutput
  modify fun r => { r with outputPort := r.mOutputPortParam }
  modify fun r => { r with mOutputPortParam := received a.getOutputSize }
  check a.getOutputSize.1
  useOutputBuffers

/-- A call whose status is not used. -/
def run (p : Statement) (r : OMXVceImageResize) : OMXVceImageResize :=
  match p r with
  | .ok _ r' => r'
  | .error _ r' => r'

/-- `useBuffers` for the input port. Without memory there are no buffers, and no error. -/
def useBuffers (buffers : List Ptr) (memory : Bool) (r : OMXVceImageResize) : OMXVceImageResize :=
  { r with vce := { r.vce with mInputBuffers :=
    if r.vce.mComponentState = OMX_STATETYPE.OMX_StateLoaded.value ∧ memory then buffers
    else [] } }

/-- `prepareEncode`. -/
def prepareEncode (a : ConfigAnswer) (r : OMXVceImageResize) : Option OMXVceImageResize :=
  let (ret, vce) := loadedToIdle a.toIdle r.vce
  if ret ≠ NO_ERROR then some { r with vce := vce }
  else (switchToExec a.fuel a.toExec a.failed vce).map fun x => { r with vce := x.2 }

/-- `setImageSize`, `setOutputImageSize`, `setImageFormat` and `setImageInputCnt`. -/
def setImage (f : ResizeFrame) (count : ℕ) (r : OMXVceImageResize) : OMXVceImageResize :=
  { r with
    mImageWidth := f.mOrigWidth
    mImageHeight := f.mOrigHeight
    mOutputImageWidth := f.mEncodeWidth
    mOutputImageHeight := f.mEncodeHeight
    mImageFormat := f.omxFormat.getD OMX_COLOR_FormatUnused
    mImageInputCnt := count }

/-- The configuration in `vceResize`, from `stopEncode` on. `none`: a call does not return, or
there is no component to call. -/
def configure (f : ResizeFrame) (buffers : List Ptr) (a : ConfigAnswer) (r : OMXVceImageResize) :
    Option OMXVceImageResize :=
  match switchToLoaded a.fuel a.toLoaded r.vce with
  | none => none
  | some (_, vce) =>
    if vce.mOmxHandle = none then none
    else
      ((run (setPortParameters a) ({ r with vce := vce }.setImage f buffers.length)).useBuffers
        buffers a.memory).prepareEncode a

/-- The component executes. -/
def Executes (r : OMXVceImageResize) : Prop :=
  r.vce.mComponentState = OMX_STATETYPE.OMX_StateExecuting.value

instance (r : OMXVceImageResize) : Decidable r.Executes :=
  inferInstanceAs (Decidable (r.vce.mComponentState = _))

/-- How the component is configured, while it executes. -/
def configuration (r : OMXVceImageResize) : Option Configuration :=
  if r.Executes then some ⟨r.inputPort, r.outputPort, r.vce.mInputBufferMap.keys⟩ else none

/-- The sizes and the format that were set last are those of a frame, and its buffer is among those
that were used last. -/
structure SetFor (r : OMXVceImageResize) (f : ResizeFrame) : Prop where
  imageWidth : r.mImageWidth = f.mOrigWidth
  imageHeight : r.mImageHeight = f.mOrigHeight
  outputWidth : r.mOutputImageWidth = f.mEncodeWidth
  outputHeight : r.mOutputImageHeight = f.mEncodeHeight
  format : f.omxFormat = some r.mImageFormat
  buffer : f.mBuffer ∈ r.vce.mInputBuffers

/-- Events come. -/
def deliver (events : List OmxEvent) (r : OMXVceImageResize) : OMXVceImageResize :=
  { r with vce := EventVce.deliver events r.vce }

/-- `encode`, which is `processImageSync`; the result is the output. `none`: `valueFor` aborts, or
the wait on `mImageCond` does not end. -/
def encode (buf : Ptr) (a : EncodeAnswer) (r : OMXVceImageResize) :
    Option (Option Output × OMXVceImageResize) :=
  let r := r.deliver a.before
  if ¬ r.Executes then some (none, r)
  else if r.mImageProcessing then none
  else match r.vce.mInputBufferMap.find? buf with
  | none => none
  | some pBufferHdr =>
    if pBufferHdr = NULL then some (none, r)
    else
      let r := { r with mImageProcessing := true }
      if a.emptyThisBuffer ≠ .OMX_ErrorNone then some (none, r)
      else
        let r := r.deliver a.during
        match a.output with
        | none => some (none, { r with mImageProcessing := false })
        | some out => some (if out.buf = NULL then none else some out, r)

/-- `freeEncodeData`, for data that is not `NULL`. -/
def freeImageData (r : OMXVceImageResize) : OMXVceImageResize :=
  if r.Executes then { r with mImageProcessing := false } else r

end OMXVceImageResize

/-! ### The notifier -/

/-- A frame that was handed to `encode`: the number of the call, how the component was configured,
and what the memory held when the frame was passed on, if it was. -/
structure Handed where
  call : ℕ
  frame : ResizeFrame
  configuration : Option Configuration
  delivered : Option (Option Picture)
  deriving DecidableEq

/-- The component was configured for the frame, and the frame was delivered with its own resized
image. -/
def Handed.AtHand (h : Handed) : Prop :=
  ∃ c, h.configuration = some c ∧ c.Fits h.frame ∧
    ∀ content, h.delivered = some content → content = some ⟨h.call, h.frame, c⟩

/-- The memory for a resized frame: a slot of the preview memory, or memory of its own. -/
inductive Memory
  | slot (index : ℕ)
  | fresh
  deriving DecidableEq

/-- The answers to a frame, and whether there is memory for a picture. -/
structure ResizeAnswer where
  memory : Bool
  config : ConfigAnswer
  encode : EncodeAnswer

/-- The notifier. -/
structure Notifier where
  mVceImageResize : OMXVceImageResize
  mResizeType : ResizeType
  /-- `mNotifierState` is `NOTIFIER_STARTED`. -/
  started : Bool
  mPreviewing : Bool
  /-- There is memory for the preview. -/
  mPreviewMemory : Bool
  mPreviewMemoryCount : ℕ
  mPreviewMemoryIndex : ℕ
  mVideoMemoryCount : ℕ
  mVideoMemoryMap : KeyedVector Ptr ℕ
  /-- The first `mPreviewBufCount` of the buffers. -/
  mPreviewBufs : List Ptr
  /-- The first `mImageBufCount` of the buffers. -/
  mImageBufs : List Ptr
  /-- The images of the component that the slots of the preview memory hold. -/
  contents : ℕ → Option Picture
  /-- The frames that were handed to `encode`. -/
  handed : List Handed
  /-- The process was aborted, or the thread waits for ever. -/
  stopped : Bool

namespace Notifier

/-- The buffers for a tag. -/
def buffers (s : Notifier) : ResizeType → List Ptr
  | .PRVIEW_RESIZE => s.mPreviewBufs
  | _ => s.mImageBufs

/-- What memory holds. -/
def content (s : Notifier) : Memory → Option Picture
  | .slot index => s.contents index
  | .fresh => none

/-- Memory is written. -/
def store (s : Notifier) (memory : Memory) (content : Option Picture) : Notifier :=
  match memory with
  | .slot index => { s with contents := Function.update s.contents index content }
  | .fresh => s

/-- The notifier does not go on. -/
def stop (s : Notifier) : Notifier := { s with stopped := true }

/-- The component is configured before the frame is encoded. -/
def Renews (s : Notifier) (type : ResizeType) : Prop :=
  s.mResizeType ≠ type ∨ type = .CAPTURE_RESIZE

instance (s : Notifier) (type : ResizeType) : Decidable (s.Renews type) :=
  inferInstanceAs (Decidable (_ ∨ _))

/-- What an output is to its call. -/
def picture (s : Notifier) (f : ResizeFrame) : Option Picture :=
  s.mVceImageResize.configuration.map fun c => ⟨s.handed.length, f, c⟩

/-- What `cameraFrameToNV21YV12_OA` leaves in the memory. A frame in another than a 4:2:0 format is
copied as far as the output goes. -/
def copied (f : ResizeFrame) (out : Output) (own old : Option Picture) : Option Picture :=
  if f.omxFormat = none ∧ out.size = 0 then old
  else match out.produced with
  | .own => own
  | .other content => content

/-- `vceResize` from `encode` on, and `sendToFrameQ`. -/
def encodeFrame (f : ResizeFrame) (memory : Memory) (a : EncodeAnswer) (s : Notifier) : Notifier :=
  let handed := fun delivered : Option (Option Picture) =>
    s.handed ++ [⟨s.handed.length, f, s.mVceImageResize.configuration, delivered⟩]
  match s.mVceImageResize.encode f.mBuffer a with
  | none => { s with handed := handed none }.stop
  | some (none, r) =>
    { s with
      mVceImageResize := r
      handed := handed (some (s.content memory)) }
  | some (some out, r) =>
    let content := copied f out (s.picture f) (s.content memory)
    { s.store memory content with
      mVceImageResize := r.freeImageData
      handed := handed (some content) }

/-- `vceResize`. -/
def vceResize (f : ResizeFrame) (memory : Memory) (type : ResizeType) (a : ResizeAnswer)
    (s : Notifier) : Notifier :=
  if s.Renews type then
    match s.mVceImageResize.configure f (s.buffers type) a.config with
    | none => s.stop
    | some r =>
      encodeFrame f memory a.encode { s with mVceImageResize := r, mResizeType := type }
  else encodeFrame f memory a.encode { s with mResizeType := type }

/-- The memory for a frame, if there is any. -/
def memoryFor (s : Notifier) (f : ResizeFrame) (memory : Bool) : Option Memory :=
  match f.mFrameType with
  | .VIDEO_FRAME_SYNC =>
    match s.mVideoMemoryMap.find? f.mBuffer with
    | none => none
    | some index => if s.mVideoMemoryCount ≤ index ∨ ¬ s.mPreviewMemory then none
      else some (.slot index)
  | .PREVIEW_FRAME_SYNC => if s.mPreviewMemory then some (.slot s.mPreviewMemoryIndex) else none
  | _ => if memory then some .fresh else none

/-- The slot of the preview memory for the next frame is chosen. -/
def chooseSlot (f : ResizeFrame) (s : Notifier) : Notifier :=
  if f.mFrameType = .PREVIEW_FRAME_SYNC then
    { s with mPreviewMemoryIndex := (s.mPreviewMemoryIndex + 1) % s.mPreviewMemoryCount }
  else s

/-- `resizeRawFrame` of a frame that is not cancelled. -/
def resizeRawFrame (f : ResizeFrame) (a : ResizeAnswer) (s : Notifier) : Notifier :=
  if s.started = false ∨ f.mBuffer = NULL then s
  else if f.mFrameType = .VIDEO_FRAME_SYNC ∧ s.mVideoMemoryMap.find? f.mBuffer = none then
    s.stop  -- `valueFor` aborts the process
  else match s.memoryFor f a.memory with
  | none => s.chooseSlot f
  | some memory =>
    let s := s.chooseSlot f
    -- frames that are copied, or resized by software, are no images of the component
    if f.ByHardware then s.vceResize f memory f.resizeType a else s.store memory none

/-- `startPreviewCallbacks`, for the camera's buffers; `memory` tells whether `mRequestMemory`
provides memory. -/
def startPreviewCallbacks (bufArr : List Ptr) (memory : Bool) (s : Notifier) : Notifier :=
  if MAX_BUFFERS < bufArr.length then s.stop  -- `errorNotify` aborts the process
  else if s.mPreviewing then s
  else if memory = false then
    { s with
      mPreviewMemory := false
      mPreviewMemoryCount := copyBufCount bufArr.length }
  else
    { s with
      mPreviewing := true
      mPreviewMemory := true
      mPreviewMemoryCount := copyBufCount bufArr.length
      mPreviewMemoryIndex := 0
      mVideoMemoryCount := bufArr.length
      mVideoMemoryMap := KeyedVector.addAll ∅ bufArr.zipIdx
      mPreviewBufs := bufArr
      contents := fun _ => none }

/-- `stopPreviewCallbacks`, with the answers to `stopEncode`. -/
def stopPreviewCallbacks (fuel : ℕ) (b : ℕ → ToLoadedAnswer) (s : Notifier) : Notifier :=
  if s.mPreviewing = false then s
  else match switchToLoaded fuel b s.mVceImageResize.vce with
  | none => s.stop
  | some (_, vce) =>
    { s with
      mVceImageResize := { s.mVceImageResize with vce := vce }
      mResizeType := .UNUSED_RESIZE
      mPreviewing := false
      mPreviewMemory := false
      mPreviewMemoryCount := 0
      mPreviewMemoryIndex := 0
      mVideoMemoryMap := ∅
      mPreviewBufs := []
      mImageBufs := [] }

/-- `startImageCallbacks`. -/
def startImageCallbacks (buffers : List Ptr) (s : Notifier) : Notifier :=
  if MAX_BUFFERS < buffers.length then s.stop  -- `errorNotify` aborts the process
  else { s with mImageBufs := buffers }

/-- `stopImageCallbacks`, and `waitforImageBufs`. -/
def stopImageCallbacks (s : Notifier) : Notifier := { s with mImageBufs := [] }

/-- The steps. -/
inductive Action
  | startPreviewCallbacks (bufArr : List Ptr) (memory : Bool)
  | stopPreviewCallbacks (fuel : ℕ) (b : ℕ → ToLoadedAnswer)
  | startImageCallbacks (buffers : List Ptr)
  | stopImageCallbacks
  | resizeRawFrame (f : ResizeFrame) (a : ResizeAnswer)

/-- One step. -/
def step (s : Notifier) (action : Action) : Notifier :=
  if s.stopped then s
  else match action with
  | .startPreviewCallbacks bufArr memory => s.startPreviewCallbacks bufArr memory
  | .stopPreviewCallbacks fuel b => s.stopPreviewCallbacks fuel b
  | .startImageCallbacks buffers => s.startImageCallbacks buffers
  | .stopImageCallbacks => s.stopImageCallbacks
  | .resizeRawFrame f a => s.resizeRawFrame f a

/-- A new notifier, with a component in Loaded. -/
def create (handle : Ptr) (observer : Bool) (input output : ℕ) (started : Bool) : Notifier where
  mVceImageResize :=
    { vce := .start (some handle) OMX_STATETYPE.OMX_StateLoaded.value observer input output [] 0
      mImageWidth := 0
      mImageHeight := 0
      mOutputImageWidth := 0
      mOutputImageHeight := 0
      mImageFormat := 0
      mImageInputCnt := 0
      mInputPortParam := ⟨0, 0, 0, 0, 0, 0⟩
      mOutputPortParam := ⟨0, 0, 0, 0, 0, 0⟩
      mImageProcessing := false
      inputPort := ⟨0, 0, 0, 0, 0, 0⟩
      outputPort := ⟨0, 0, 0, 0, 0, 0⟩ }
  mResizeType := .UNUSED_RESIZE
  started := started
  mPreviewing := false
  mPreviewMemory := false
  mPreviewMemoryCount := 0
  mPreviewMemoryIndex := 0
  mVideoMemoryCount := 0
  mVideoMemoryMap := ∅
  mPreviewBufs := []
  mImageBufs := []
  contents := fun _ => none
  handed := []
  stopped := false

/-- All frames so far were resized at hand. -/
def AtHand (s : Notifier) : Prop := ∀ h ∈ s.handed, h.AtHand

/-! ### The condition -/

/-- The frame reaches `vceResize`. -/
def Reaches (s : Notifier) (f : ResizeFrame) (memory : Bool) : Prop :=
  s.stopped = false ∧ s.started = true ∧ f.mBuffer ≠ NULL ∧ s.memoryFor f memory ≠ none ∧
    f.ByHardware

end Notifier

/-- A configuration is served: no call fails. -/
structure ConfigAnswer.Serves (a : ConfigAnswer) (input output : ℕ) : Prop where
  toLoaded : (a.toLoaded 0).Serves input output
  getInput : a.getInput.1 = .OMX_ErrorNone
  setInput : a.setInput = .OMX_ErrorNone
  getOutput : a.getOutput.1 = .OMX_ErrorNone
  setOutput : a.setOutput = .OMX_ErrorNone
  getOutputSize : a.getOutputSize.1 = .OMX_ErrorNone
  memory : a.memory = true
  toIdle : a.toIdle.Serves
  toExec : a.toExec.Serves

/-- An image is served: the component takes it, and its own output comes in time. -/
structure EncodeAnswer.Serves (a : EncodeAnswer) : Prop where
  before : ∀ e ∈ a.before, e.Quiet
  emptyThisBuffer : a.emptyThisBuffer = .OMX_ErrorNone
  during : ∀ e ∈ a.during, e.Quiet
  output : ∃ out, a.output = some out ∧ out.buf ≠ NULL ∧ out.produced = .own

namespace Notifier

/-- The component serves the calls of a step. -/
def Serves (s : Notifier) : Action → Prop
  | .stopPreviewCallbacks _ b => s.stopped = false → s.mPreviewing = true →
      (b 0).Serves s.mVceImageResize.vce.mInputPortIndex s.mVceImageResize.vce.mOutputPortIndex
  | .resizeRawFrame f a => s.Reaches f a.memory →
      (s.Renews f.resizeType → a.config.Serves s.mVceImageResize.vce.mInputPortIndex
        s.mVceImageResize.vce.mOutputPortIndex) ∧ a.encode.Serves
  | _ => True

/-- The condition on a step: if the component is configured for a frame, the frame has a 4:2:0
format, and its buffer is among those that the tag stands for; if not, the frame has the sizes and
the format of the frame that the component was configured for, and its buffer is among those of
that configuration. -/
def Matches (s : Notifier) : Action → Prop
  | .resizeRawFrame f a => s.Reaches f a.memory →
      if s.Renews f.resizeType then f.omxFormat ≠ none ∧ f.mBuffer ∈ s.buffers f.resizeType
      else s.mVceImageResize.SetFor f
  | _ => True

end Notifier

/-! ### The component under a component that serves -/

namespace OMXVceImageResize

/-- The component is in a state, with a handle, and processes no image. -/
structure Ready (r : OMXVceImageResize) (state : OMX_STATETYPE) : Prop where
  rests : Rests r.vce.parts state r.vce
  handle : r.vce.mOmxHandle ≠ none
  notProcessing : r.mImageProcessing = false

/-- What was set last has taken effect: the component executes with these ports and buffers. -/
structure Configured (r : OMXVceImageResize) : Prop where
  ready : r.Ready .OMX_StateExecuting
  imageWidth : r.inputPort.nFrameWidth = r.mImageWidth
  imageHeight : r.inputPort.nFrameHeight = r.mImageHeight
  outputWidth : r.outputPort.nFrameWidth = r.mOutputImageWidth
  outputHeight : r.outputPort.nFrameHeight = r.mOutputImageHeight
  inputFormat : r.inputPort.eColorFormat = r.mImageFormat
  outputFormat : r.outputPort.eColorFormat = r.mImageFormat
  headers : ∃ answer : Ptr → OMX_ERRORTYPE × Ptr, (∀ handle, (answer handle).2 ≠ NULL) ∧
    r.vce.mInputBufferMap = givenHeaders answer r.vce.mInputBuffers

/-- The component is in Loaded before the first frame of a preview, and configured after it. -/
def Settled (r : OMXVceImageResize) (type : ResizeType) : Prop :=
  if type = .UNUSED_RESIZE then r.Ready .OMX_StateLoaded else r.Configured

/-- Before the first frame. -/
lemma settled_unused {r : OMXVceImageResize} :
    r.Settled .UNUSED_RESIZE ↔ r.Ready .OMX_StateLoaded := by
  rw [Settled, if_pos rfl]

/-- After it. -/
lemma settled_of_ne {r : OMXVceImageResize} {type : ResizeType} (h : type ≠ .UNUSED_RESIZE) :
    r.Settled type ↔ r.Configured := by
  rw [Settled, if_neg h]

/-- A settled component is ready. -/
lemma Settled.ready {r : OMXVceImageResize} {type : ResizeType} (h : r.Settled type) :
    ∃ state, (state = .OMX_StateLoaded ∨ state = .OMX_StateExecuting) ∧ r.Ready state := by
  by_cases htype : type = .UNUSED_RESIZE
  · subst htype
    exact ⟨_, .inl rfl, settled_unused.mp h⟩
  · exact ⟨_, .inr rfl, ((settled_of_ne htype).mp h).ready⟩

/-- The definitions of the ports after `setPortParameters`. -/
def withPorts (a : ConfigAnswer) (r : OMXVceImageResize) : OMXVceImageResize :=
  { r with
    vce := { r.vce with mOutputBufferCount := a.getOutputSize.2.nBufferCountActual }
    mInputPortParam := { r with mInputPortParam := a.getInput.2 }.withInput
    inputPort := { r with mInputPortParam := a.getInput.2 }.withInput
    mOutputPortParam := a.getOutputSize.2
    outputPort := { r with mOutputPortParam := a.getOutput.2 }.withOutput }

/-- `setPortParameters`, if it is served. -/
lemma run_setPortParameters {a : ConfigAnswer} {input output : ℕ} (ha : a.Serves input output)
    {r : OMXVceImageResize}
    (hstate : r.vce.mComponentState = OMX_STATETYPE.OMX_StateLoaded.value) :
    run (setPortParameters a) r = r.withPorts a := by
  obtain ⟨fuel, toLoaded, ⟨e₁, d₁⟩, e₂, ⟨e₃, d₃⟩, e₄, ⟨e₅, d₅⟩, memory, toIdle, toExec, failed⟩ := a
  obtain ⟨-, rfl, rfl, rfl, rfl, rfl, -, -, -⟩ := ha
  show run useOutputBuffers _ = _
  simp only [run, useOutputBuffers]
  rw [if_pos hstate]
  rfl

/-- The fields of the component's state that a switch keeps. -/
lemma parts_eq {s : EventVce} {p : Parts} {state : OMX_STATETYPE} (hs : Rests p state s) :
    s.mOmxHandle = p.mOmxHandle ∧ s.mInputBuffers = p.mInputBuffers ∧
      s.mInputBufferMap = p.mInputBufferMap :=
  ⟨congrArg Parts.mOmxHandle hs.parts, congrArg Parts.mInputBuffers hs.parts,
    congrArg Parts.mInputBufferMap hs.parts⟩

/-- **A configuration that is served takes effect.**

**Proof sketch.** `stopEncode` reaches Loaded, so that the definitions of the ports and the buffers
are set there; `prepareEncode` hands these buffers over and reaches Executing. -/
theorem Settled.configure {r : OMXVceImageResize} {type : ResizeType} (h : r.Settled type)
    {a : ConfigAnswer} (ha : a.Serves r.vce.mInputPortIndex r.vce.mOutputPortIndex)
    (f : ResizeFrame) (buffers : List Ptr) :
    ∃ r', r.configure f buffers a = some r' ∧ r'.Configured ∧
      (r'.SetFor f ↔ f.omxFormat ≠ none ∧ f.mBuffer ∈ buffers) := by
  obtain ⟨state, hstate, hready⟩ := h.ready
  obtain ⟨s₁, hloaded, hs₁⟩ :=
    switchToLoaded_serves hready.rests hready.handle hstate a.fuel ha.toLoaded
  have hhandle : s₁.mOmxHandle ≠ none := by
    rw [(parts_eq hs₁).1]
    exact hready.handle
  let r₂ : OMXVceImageResize := (({ r with vce := s₁ }.setImage f buffers.length).withPorts
    a).useBuffers buffers a.memory
  have hbuffers : r₂.vce.mInputBuffers = buffers := by
    show (if _ ∧ _ then _ else _) = _
    exact if_pos ⟨hs₁.state_eq, ha.memory⟩
  have hs₂ : Rests { r.vce.parts with mInputBuffers := buffers } .OMX_StateLoaded r₂.vce := by
    refine ⟨?_, hs₁.list, hs₁.state_eq⟩
    rw [← hbuffers]
    exact congrArg (fun p : Parts => { p with mInputBuffers := r₂.vce.mInputBuffers }) hs₁.parts
  obtain ⟨s₃, hidle, hs₃⟩ := loadedToIdle_serves hs₂ ha.toIdle
  obtain ⟨s₄, hexec, hs₄⟩ := switchToExec_serves hs₃ hready.handle a.fuel ha.toExec a.failed
  obtain ⟨hhandle₄, hbuffers₄, hmap₄⟩ := parts_eq hs₄
  refine ⟨{ r₂ with vce := s₄ }, ?_, ?_, ?_⟩
  · simp only [OMXVceImageResize.configure, hloaded, if_neg hhandle]
    rw [run_setPortParameters ha hs₁.state_eq]
    show prepareEncode a r₂ = _
    simp [prepareEncode, hidle, hexec]
  · refine ⟨⟨⟨rfl, hs₄.list, hs₄.state_eq⟩, ?_, hready.notProcessing⟩, rfl, rfl, rfl, rfl, rfl, rfl,
      a.toIdle.useBuffer, ha.toIdle.header, ?_⟩
    · rw [hhandle₄]
      exact hready.handle
    · rw [hmap₄, hbuffers₄]
  · have hused : s₄.mInputBuffers = buffers := hbuffers₄
    constructor
    · intro hset
      refine ⟨?_, hused ▸ hset.buffer⟩
      rw [hset.format]
      exact Option.some_ne_none _
    · rintro ⟨hformat, hbuffer⟩
      refine ⟨rfl, rfl, rfl, rfl, ?_, hused.symm ▸ hbuffer⟩
      obtain ⟨format, hsome⟩ := Option.ne_none_iff_exists'.mp hformat
      show f.omxFormat = some (f.omxFormat.getD _)
      rw [hsome]
      rfl

/-- **How a configured component is configured**: for the frames that the settings are for. -/
theorem Configured.fits {r : OMXVceImageResize} (h : r.Configured) :
    ∃ c, r.configuration = some c ∧ ∀ f, c.Fits f ↔ r.SetFor f := by
  obtain ⟨answer, -, hmap⟩ := h.headers
  refine ⟨⟨r.inputPort, r.outputPort, r.vce.mInputBufferMap.keys⟩, if_pos h.ready.rests.state_eq,
    fun f => ?_⟩
  have hkeys : f.mBuffer ∈ r.vce.mInputBufferMap.keys ↔ f.mBuffer ∈ r.vce.mInputBuffers := by
    rw [KeyedVector.mem_keys, hmap, find?_givenHeaders]
    by_cases hmem : f.mBuffer ∈ r.vce.mInputBuffers <;> simp [hmem]
  constructor
  · intro hfits
    refine ⟨?_, ?_, ?_, ?_, ?_, hkeys.mp hfits.buffer⟩
    · exact h.imageWidth.symm.trans hfits.origWidth
    · exact h.imageHeight.symm.trans hfits.origHeight
    · exact h.outputWidth.symm.trans hfits.encodeWidth
    · exact h.outputHeight.symm.trans hfits.encodeHeight
    · exact hfits.inputFormat.trans (congrArg some h.inputFormat)
  · intro hset
    refine ⟨?_, ?_, ?_, ?_, ?_, ?_, hkeys.mpr hset.buffer⟩
    · exact h.imageWidth.trans hset.imageWidth
    · exact h.imageHeight.trans hset.imageHeight
    · exact h.outputWidth.trans hset.outputWidth
    · exact h.outputHeight.trans hset.outputHeight
    · exact hset.format.trans (congrArg some h.inputFormat.symm)
    · exact hset.format.trans (congrArg some h.outputFormat.symm)

/-- Quiet events do nothing. -/
lemma Ready.deliver {r : OMXVceImageResize} {state : OMX_STATETYPE} (h : r.Ready state)
    {events : List OmxEvent} (hquiet : ∀ e ∈ events, e.Quiet) : r.deliver events = r := by
  show { r with vce := EventVce.deliver events r.vce } = r
  rw [h.rests.deliver hquiet]

/-- **An image that is served**: the output is its own, if its buffer has a header; else `valueFor`
aborts. -/
theorem Configured.encode {r : OMXVceImageResize} (h : r.Configured) {a : EncodeAnswer}
    (ha : a.Serves) (buf : Ptr) :
    ∃ out : Output, out.produced = .own ∧
      r.encode buf a = if buf ∈ r.vce.mInputBuffers then
        some (some out, { r with mImageProcessing := true }) else none := by
  obtain ⟨out, hout, hbuf, hown⟩ := ha.output
  obtain ⟨answer, hheader, hmap⟩ := h.headers
  have hexec : r.Executes := h.ready.rests.state_eq
  have hduring : OMXVceImageResize.deliver a.during { r with mImageProcessing := true } =
      { r with mImageProcessing := true } := by
    show { r with vce := EventVce.deliver a.during r.vce, mImageProcessing := true } = _
    rw [h.ready.rests.deliver ha.during]
  refine ⟨out, hown, ?_⟩
  simp only [OMXVceImageResize.encode, h.ready.deliver ha.before, not_true_eq_false, if_false,
    h.ready.notProcessing, Bool.false_eq_true, hmap, find?_givenHeaders, hexec]
  by_cases hmem : buf ∈ r.vce.mInputBuffers
  · simp only [if_pos hmem, if_neg (hheader buf), ha.emptyThisBuffer, ne_eq, not_true_eq_false,
      if_false, hduring, hout, if_neg hbuf]
  · simp only [if_neg hmem]

end OMXVceImageResize

/-! ### Steps -/

namespace Notifier

open OMXVceImageResize

/-- One more frame was handed over. -/
lemma atHand_append {s s' : Notifier} {h : Handed} (hs : s.AtHand)
    (hhanded : s'.handed = s.handed ++ [h]) : s'.AtHand ↔ h.AtHand := by
  unfold Notifier.AtHand
  rw [hhanded, List.forall_mem_append, List.forall_mem_singleton]
  exact and_iff_right hs

/-- **A frame is encoded by a configured component**: it is resized at hand exactly if the settings
are its own, and the component stays configured. -/
theorem encodeFrame_spec {s : Notifier} (h : s.mVceImageResize.Configured) (hs : s.AtHand)
    {a : EncodeAnswer} (ha : a.Serves) (f : ResizeFrame) (memory : Memory) :
    ((s.encodeFrame f memory a).AtHand ↔ s.mVceImageResize.SetFor f) ∧
      (s.encodeFrame f memory a).mVceImageResize.Configured ∧
      (s.encodeFrame f memory a).mResizeType = s.mResizeType := by
  obtain ⟨c, hc, hfits⟩ := h.fits
  obtain ⟨out, hown, hencode⟩ := h.encode ha f.mBuffer
  by_cases hmem : f.mBuffer ∈ s.mVceImageResize.vce.mInputBuffers
  · rw [if_pos hmem] at hencode
    have hframe : s.encodeFrame f memory a =
        { s.store memory (copied f out (s.picture f) (s.content memory)) with
          mVceImageResize := { s.mVceImageResize with mImageProcessing := true }.freeImageData
          handed := s.handed ++
            [Handed.mk s.handed.length f s.mVceImageResize.configuration
              (some (copied f out (s.picture f) (s.content memory)))] } := by
      simp only [encodeFrame, hencode]
    have hfree : { s.mVceImageResize with mImageProcessing := true }.freeImageData =
        s.mVceImageResize := by
      have hexec : { s.mVceImageResize with mImageProcessing := true }.Executes :=
        h.ready.rests.state_eq
      rw [freeImageData, if_pos hexec]
      show { s.mVceImageResize with mImageProcessing := false } = s.mVceImageResize
      rw [← h.ready.notProcessing]
    rw [hframe, hfree]
    refine ⟨?_, h, by cases memory <;> rfl⟩
    rw [atHand_append hs rfl]
    constructor
    · rintro ⟨c', hc', hfits', -⟩
      obtain rfl := Option.some.inj (hc.symm.trans hc')
      exact (hfits f).mp hfits'
    · intro hset
      refine ⟨c, hc, (hfits f).mpr hset, fun content hcontent => ?_⟩
      obtain rfl := Option.some.inj hcontent
      have hformat : f.omxFormat ≠ none := by
        rw [hset.format]
        exact Option.some_ne_none _
      rw [copied, if_neg fun hcase => hformat hcase.1, hown]
      show s.picture f = _
      rw [picture, hc]
      rfl
  · rw [if_neg hmem] at hencode
    have hframe : s.encodeFrame f memory a =
        { s with handed := s.handed ++
          [Handed.mk s.handed.length f s.mVceImageResize.configuration none] }.stop := by
      simp only [encodeFrame, hencode]
    rw [hframe]
    refine ⟨?_, h, rfl⟩
    rw [atHand_append hs rfl]
    constructor
    · rintro ⟨c', hc', hfits', -⟩
      obtain rfl := Option.some.inj (hc.symm.trans hc')
      exact (hfits f).mp hfits'
    · intro hset
      exact absurd hset.buffer hmem

/-- **A frame whose image does not come in time** is passed on with what the memory held before,
although the component is configured for it. -/
theorem encodeFrame_of_timeout {s : Notifier} (h : s.mVceImageResize.Configured)
    {f : ResizeFrame} (hset : s.mVceImageResize.SetFor f) {a : EncodeAnswer}
    (hbefore : ∀ e ∈ a.before, e.Quiet) (hempty : a.emptyThisBuffer = .OMX_ErrorNone)
    (hlate : a.output = none) (memory : Memory) :
    (s.encodeFrame f memory a).handed = s.handed ++
      [⟨s.handed.length, f, s.mVceImageResize.configuration, some (s.content memory)⟩] := by
  obtain ⟨answer, hheader, hmap⟩ := h.headers
  have hexec : s.mVceImageResize.Executes := h.ready.rests.state_eq
  have hencode : ∃ r, s.mVceImageResize.encode f.mBuffer a = some (none, r) := by
    refine ⟨{ OMXVceImageResize.deliver a.during
      { s.mVceImageResize with mImageProcessing := true } with mImageProcessing := false }, ?_⟩
    simp only [OMXVceImageResize.encode, h.ready.deliver hbefore, hexec, not_true_eq_false,
      if_false, h.ready.notProcessing, Bool.false_eq_true, hmap, find?_givenHeaders,
      if_pos hset.buffer, if_neg (hheader f.mBuffer), hempty, ne_eq, hlate]
  obtain ⟨r, hr⟩ := hencode
  simp only [encodeFrame, hr]

/-- **A frame that reaches `vceResize`** is resized at hand exactly if it matches, and the component
is settled afterwards. -/
theorem vceResize_spec {s : Notifier} (h : s.mVceImageResize.Settled s.mResizeType)
    (hs : s.AtHand) {type : ResizeType} (htype : type ≠ .UNUSED_RESIZE) {a : ResizeAnswer}
    (hconfig : s.Renews type → a.config.Serves s.mVceImageResize.vce.mInputPortIndex
      s.mVceImageResize.vce.mOutputPortIndex)
    (hencode : a.encode.Serves) (f : ResizeFrame) (memory : Memory) :
    ((s.vceResize f memory type a).AtHand ↔
        if s.Renews type then f.omxFormat ≠ none ∧ f.mBuffer ∈ s.buffers type
        else s.mVceImageResize.SetFor f) ∧
      (s.vceResize f memory type a).mVceImageResize.Settled
        (s.vceResize f memory type a).mResizeType := by
  unfold vceResize
  by_cases hrenews : s.Renews type
  · obtain ⟨r, hr, hconfigured, hset⟩ := h.configure (hconfig hrenews) f (s.buffers type)
    obtain ⟨hhand, hstays, htag⟩ := encodeFrame_spec
      (s := { s with mVceImageResize := r, mResizeType := type }) hconfigured hs hencode f memory
    simp only [if_pos hrenews, hr]
    refine ⟨hhand.trans hset, ?_⟩
    rw [htag]
    exact (settled_of_ne htype).mpr hstays
  · have htag' : s.mResizeType = type := by
      by_contra hne
      exact hrenews (.inl hne)
    have hconfigured : s.mVceImageResize.Configured :=
      (settled_of_ne (htag' ▸ htype)).mp h
    obtain ⟨hhand, hstays, htag⟩ := encodeFrame_spec (s := { s with mResizeType := type })
      hconfigured hs hencode f memory
    simp only [if_neg hrenews]
    refine ⟨hhand, ?_⟩
    rw [htag]
    exact (settled_of_ne htype).mpr hstays

/-- What no step but that of a frame for the component changes. -/
structure Same (s s' : Notifier) : Prop where
  component : s'.mVceImageResize = s.mVceImageResize
  tag : s'.mResizeType = s.mResizeType
  handed : s'.handed = s.handed

/-- The choice of a slot changes none of this, nor the buffers. -/
lemma chooseSlot_same (f : ResizeFrame) (s : Notifier) :
    Same s (s.chooseSlot f) ∧ (s.chooseSlot f).buffers = s.buffers := by
  unfold chooseSlot
  split_ifs <;> exact ⟨⟨rfl, rfl, rfl⟩, rfl⟩

/-- A frame that does not reach `vceResize`. -/
lemma resizeRawFrame_same {s : Notifier} (hstopped : s.stopped = false) {f : ResizeFrame}
    {a : ResizeAnswer} (h : ¬ s.Reaches f a.memory) : Same s (s.resizeRawFrame f a) := by
  by_cases hskip : s.started = false ∨ f.mBuffer = NULL
  · rw [resizeRawFrame, if_pos hskip]
    exact ⟨rfl, rfl, rfl⟩
  · rw [resizeRawFrame, if_neg hskip]
    rw [not_or, Bool.not_eq_false] at hskip
    by_cases hmissing : f.mFrameType = .VIDEO_FRAME_SYNC ∧
        s.mVideoMemoryMap.find? f.mBuffer = none
    · rw [if_pos hmissing]
      exact ⟨rfl, rfl, rfl⟩
    · rw [if_neg hmissing]
      cases hmemory : s.memoryFor f a.memory with
      | none => exact (chooseSlot_same f s).1
      | some memory =>
        have hsoftware : ¬ f.ByHardware := fun hhardware =>
          h ⟨hstopped, hskip.1, hskip.2, by simp [hmemory], hhardware⟩
        simp only [if_neg hsoftware]
        obtain ⟨hcomponent, htag, hhanded⟩ := (chooseSlot_same f s).1
        cases memory <;> exact ⟨hcomponent, htag, hhanded⟩

/-- A frame that reaches `vceResize`. -/
lemma resizeRawFrame_of_reaches {s : Notifier} {f : ResizeFrame} {a : ResizeAnswer}
    (h : s.Reaches f a.memory) :
    ∃ memory, s.resizeRawFrame f a = (s.chooseSlot f).vceResize f memory f.resizeType a := by
  obtain ⟨-, hstarted, hbuffer, hmemory, hhardware⟩ := h
  obtain ⟨memory, hsome⟩ := Option.ne_none_iff_exists'.mp hmemory
  refine ⟨memory, ?_⟩
  have hskip : ¬ (s.started = false ∨ f.mBuffer = NULL) := by simp [hstarted, hbuffer]
  have hfound : ¬ (f.mFrameType = .VIDEO_FRAME_SYNC ∧
      s.mVideoMemoryMap.find? f.mBuffer = none) := by
    rintro ⟨hvideo, hnone⟩
    rw [memoryFor, hvideo] at hsome
    simp only [hnone] at hsome
    cases hsome
  simp only [resizeRawFrame, if_neg hskip, if_neg hfound, hsome, if_pos hhardware]

/-- The invariant: the frames so far were resized at hand, and the component is settled. -/
structure WellFormed (s : Notifier) : Prop where
  atHand : s.AtHand
  settled : s.mVceImageResize.Settled s.mResizeType

/-- A step that leaves the component and its tag alone. -/
lemma WellFormed.of_same {s s' : Notifier} (h : WellFormed s) (hsame : Same s s') :
    WellFormed s' := by
  obtain ⟨hcomponent, htag, hhanded⟩ := hsame
  refine ⟨?_, ?_⟩
  · unfold Notifier.AtHand
    rw [hhanded]
    exact h.atHand
  · rw [hcomponent, htag]
    exact h.settled

/-- `stopPreviewCallbacks` with a component that serves. -/
lemma WellFormed.stopPreviewCallbacks {s : Notifier} (h : WellFormed s) (fuel : ℕ)
    {b : ℕ → ToLoadedAnswer}
    (hb : s.mPreviewing = true → (b 0).Serves s.mVceImageResize.vce.mInputPortIndex
      s.mVceImageResize.vce.mOutputPortIndex) :
    WellFormed (s.stopPreviewCallbacks fuel b) := by
  unfold Notifier.stopPreviewCallbacks
  split_ifs with hpreviewing
  · exact h
  · rw [Bool.not_eq_false] at hpreviewing
    obtain ⟨state, hstate, hready⟩ := h.settled.ready
    obtain ⟨vce, hloaded, hvce⟩ := switchToLoaded_serves hready.rests hready.handle hstate fuel
      (hb hpreviewing)
    simp only [hloaded]
    refine ⟨h.atHand, settled_unused.mpr
      ⟨⟨rfl, hvce.list, hvce.state_eq⟩, ?_, hready.notProcessing⟩⟩
    show vce.mOmxHandle ≠ none
    rw [(parts_eq hvce).1]
    exact hready.handle

/-- **One frame, with a component that serves**: the invariant is kept if the frame matches, and the
frame is resized at hand only if it does. -/
theorem WellFormed.resizeRawFrame {s : Notifier} (h : WellFormed s) {f : ResizeFrame}
    {a : ResizeAnswer} (hstopped : s.stopped = false)
    (hserves : s.Serves (.resizeRawFrame f a)) :
    ((s.resizeRawFrame f a).AtHand ↔ s.Matches (.resizeRawFrame f a)) ∧
      (s.resizeRawFrame f a).mVceImageResize.Settled (s.resizeRawFrame f a).mResizeType := by
  by_cases hreaches : s.Reaches f a.memory
  · obtain ⟨memory, hframe⟩ := resizeRawFrame_of_reaches hreaches
    obtain ⟨⟨hcomponent, htag, hhanded⟩, hbuffers⟩ := chooseSlot_same f s
    have hrenews : (s.chooseSlot f).Renews f.resizeType ↔ s.Renews f.resizeType := by
      rw [Renews, Renews, htag]
    have hwell : WellFormed (s.chooseSlot f) := h.of_same ⟨hcomponent, htag, hhanded⟩
    have htype : f.resizeType ≠ .UNUSED_RESIZE := by
      unfold ResizeFrame.resizeType
      split <;> simp
    obtain ⟨hconfig, hencode⟩ := hserves hreaches
    obtain ⟨hhand, hsettled⟩ := vceResize_spec hwell.settled hwell.atHand htype
      (fun hnew => by rw [hcomponent]; exact hconfig (hrenews.mp hnew)) hencode f memory
    rw [hframe]
    refine ⟨hhand.trans ?_, hsettled⟩
    rw [if_congr hrenews (by rw [hbuffers]) (by rw [hcomponent])]
    exact ⟨fun hmatches _ => hmatches, fun hmatches => hmatches hreaches⟩
  · have hwell := h.of_same (resizeRawFrame_same hstopped hreaches)
    exact ⟨⟨fun _ hr => absurd hr hreaches, fun _ => hwell.atHand⟩, hwell.settled⟩

/-- Other steps keep the invariant. -/
lemma WellFormed.step_of_not_frame {s : Notifier} (h : WellFormed s) {action : Action}
    (hserves : s.Serves action) (hother : ∀ f a, action ≠ .resizeRawFrame f a) :
    WellFormed (s.step action) := by
  unfold Notifier.step
  split_ifs with hstopped
  · exact h
  · rw [Bool.not_eq_true] at hstopped
    cases action with
    | startPreviewCallbacks bufArr memory =>
      refine h.of_same ?_
      simp only [Notifier.startPreviewCallbacks]
      split_ifs <;> exact ⟨rfl, rfl, rfl⟩
    | stopPreviewCallbacks fuel b => exact h.stopPreviewCallbacks fuel (hserves hstopped)
    | startImageCallbacks buffers =>
      refine h.of_same ?_
      simp only [Notifier.startImageCallbacks]
      split_ifs <;> exact ⟨rfl, rfl, rfl⟩
    | stopImageCallbacks => exact h.of_same ⟨rfl, rfl, rfl⟩
    | resizeRawFrame f a => exact absurd rfl (hother f a)

/-- A step with a component that serves keeps the invariant if it matches, and if it resizes at
hand, it matches. -/
lemma WellFormed.step {s : Notifier} (h : WellFormed s) {action : Action}
    (hserves : s.Serves action) :
    (s.Matches action → WellFormed (s.step action)) ∧
      ((s.step action).AtHand → s.Matches action) := by
  cases action with
  | resizeRawFrame f a =>
    by_cases hstopped : s.stopped = true
    · have hstay : s.step (.resizeRawFrame f a) = s := if_pos hstopped
      rw [hstay]
      refine ⟨fun _ => h, fun _ hreaches => ?_⟩
      exact absurd hreaches.1 (by simp [hstopped])
    · have hstep : s.step (.resizeRawFrame f a) = s.resizeRawFrame f a := if_neg hstopped
      rw [Bool.not_eq_true] at hstopped
      obtain ⟨hhand, hsettled⟩ := h.resizeRawFrame hstopped hserves
      rw [hstep]
      exact ⟨fun hmatches => ⟨hhand.mpr hmatches, hsettled⟩, hhand.mp⟩
  | _ =>
    exact ⟨fun _ => h.step_of_not_frame hserves fun _ _ => by simp, fun _ => trivial⟩

/-- A new notifier. -/
lemma wellFormed_create (handle : Ptr) (observer : Bool) (input output : ℕ) (started : Bool) :
    WellFormed (create handle observer input output started) :=
  ⟨List.forall_mem_nil _, settled_unused.mpr ⟨⟨rfl, rfl, rfl⟩, Option.some_ne_none _, rfl⟩⟩

end Notifier

open Notifier

/-- **Resizing at hand.** In a run with a component that serves its calls, every frame that was
handed to the component found it configured for this frame, and was delivered with its own resized
image, exactly if all frames match.

**Proof sketch.** A configuration that is served takes effect: its settings and buffers are those of
the frame, if the component has a name for the frame's format and the frame's buffer is in the set
for its tag. Without a new configuration the settings are those of an earlier frame. In both cases
the component returns the image as it is configured, unless it does not know the buffer. -/
theorem always_atHand_iff {handle : Ptr} {observer : Bool} {input output : ℕ} {started : Bool}
    {run : List Action}
    (hserves : StepRun.Along Notifier.step Serves (create handle observer input output started)
      run) :
    StepRun.Always Notifier.step AtHand (create handle observer input output started) run ↔
      StepRun.Along Notifier.step Matches (create handle observer input output started) run :=
  StepRun.always_iff_along_of_assumption (I := WellFormed) (fun _ h => h.atHand)
    (fun _ _ h hd hc => (h.step hd).1 hc) (fun _ _ h hd hp => (h.step hd).2 hp)
    (wellFormed_create handle observer input output started) hserves

/-- The completion of a command comes while it is waited for. -/
lemma serves_promptAnswer (w : Waiter) : (promptAnswer w).Serves w [] :=
  ⟨rfl, rfl, [], [], rfl, List.forall_mem_nil _⟩

/-- A port is disabled without other events. -/
def servingPort (port : ℕ) : PortAnswer where
  toWaitAnswer := promptAnswer (portWaiter port)
  freeing := []
  freeBuffer := fun _ => .OMX_ErrorNone

/-- The component goes to Loaded without other events. -/
def servingToLoaded (input output : ℕ) : ToLoadedAnswer where
  first := []
  toIdle := promptAnswer (stateWaiter .OMX_StateIdle .mSwitchToIdleSem)
  second := []
  disableInput := servingPort input
  disableOutput := servingPort output
  toLoaded := promptAnswer (stateWaiter .OMX_StateLoaded .mSwitchToLoadedSem)
  enableInput := .OMX_ErrorNone
  enableOutput := .OMX_ErrorNone

/-- It serves the call. -/
lemma serves_servingToLoaded (input output : ℕ) :
    (servingToLoaded input output).Serves input output where
  first := List.forall_mem_nil _
  toIdle := serves_promptAnswer _
  second := List.forall_mem_nil _
  disableInput := ⟨serves_promptAnswer _, fun _ => rfl⟩
  disableOutput := ⟨serves_promptAnswer _, fun _ => rfl⟩
  toLoaded := serves_promptAnswer _
  enableInput := rfl
  enableOutput := rfl

/-- The component is configured, and returns the image, without other events. -/
def servingAnswer (input output : ℕ) : ResizeAnswer where
  memory := true
  config :=
    { fuel := 0
      toLoaded := fun _ => servingToLoaded input output
      getInput := (.OMX_ErrorNone, ⟨1, 0, 0, 0, 0, 0⟩)
      setInput := .OMX_ErrorNone
      getOutput := (.OMX_ErrorNone, ⟨1, 0, 0, 0, 0, 0⟩)
      setOutput := .OMX_ErrorNone
      getOutputSize := (.OMX_ErrorNone, ⟨2, 0, 0, 0, 0, 0⟩)
      memory := true
      toIdle :=
        { toWaitAnswer := promptAnswer (stateWaiter .OMX_StateIdle .mSwitchToIdleSem)
          first := []
          handing := []
          useBuffer := fun handle => (.OMX_ErrorNone, handle + 1)
          allocateBuffer := fun i => (.OMX_ErrorNone, i + 1, i + 1) }
      toExec :=
        { first := []
          second := []
          disableInput := servingPort input
          disableOutput := servingPort output
          toIdle := promptAnswer (stateWaiter .OMX_StateIdle .mSwitchToIdleSem)
          third := []
          toExec := promptAnswer (stateWaiter .OMX_StateExecuting .mSwitchToExecSem) }
      failed := fun _ => servingToLoaded input output }
  encode := ⟨[], .OMX_ErrorNone, [], some ⟨1, 1, .own⟩⟩

/-- It serves the configuration and the image. -/
lemma serves_servingAnswer (input output : ℕ) :
    (servingAnswer input output).config.Serves input output ∧
      (servingAnswer input output).encode.Serves := by
  refine ⟨⟨serves_servingToLoaded input output, rfl, rfl, rfl, rfl, rfl, rfl, ?_, ?_⟩, ?_⟩
  · exact ⟨List.forall_mem_nil _, serves_promptAnswer _, fun _ => rfl,
      fun handle => Nat.succ_ne_zero handle, fun _ => rfl⟩
  · exact ⟨List.forall_mem_nil _, List.forall_mem_nil _, List.forall_mem_nil _,
      serves_promptAnswer _⟩
  · exact ⟨List.forall_mem_nil _, rfl, List.forall_mem_nil _, _, rfl, Nat.succ_ne_zero 0, rfl⟩

/-- A frame of the preview, of 640 times 480 pixels. -/
def sampleFrame (type : FrameType) (w h : ℕ) : ResizeFrame where
  mBuffer := 7
  mStreamType := .PREVIEW_STREAM_TYPE
  mVaddr := 1
  mFrameType := type
  mCookie := NULL
  mFormat := .CAMERA_FRAME_FORMAT_YUV420SP
  mQuirks := 0
  mOrigWidth := 640
  mOrigHeight := 480
  mXOff := 0
  mYOff := 0
  mWidth := 640
  mHeight := 480
  mEncodeWidth := w
  mEncodeHeight := h

/-- Two frames of a preview, for the application's preview size. -/
theorem always_atHand_preview :
    StepRun.Always Notifier.step AtHand (create 1 true 0 1 true)
      [.startPreviewCallbacks [7] true,
        .resizeRawFrame (sampleFrame .PREVIEW_FRAME_SYNC 320 240) (servingAnswer 0 1),
        .resizeRawFrame (sampleFrame .PREVIEW_FRAME_SYNC 320 240) (servingAnswer 0 1)] := by
  have hanswer := serves_servingAnswer 0 1
  have hserves : StepRun.Along Notifier.step Serves (create 1 true 0 1 true)
      [.startPreviewCallbacks [7] true,
        .resizeRawFrame (sampleFrame .PREVIEW_FRAME_SYNC 320 240) (servingAnswer 0 1),
        .resizeRawFrame (sampleFrame .PREVIEW_FRAME_SYNC 320 240) (servingAnswer 0 1)] :=
    ⟨trivial, fun _ => ⟨fun _ => hanswer.1, hanswer.2⟩, fun _ => ⟨fun _ => hanswer.1, hanswer.2⟩,
      trivial⟩
  refine (always_atHand_iff hserves).mpr ⟨trivial, fun _ => ?_, fun _ => ?_, trivial⟩
  · rw [if_pos (.inl (by decide))]
    exact ⟨by decide, by decide⟩
  · rw [if_neg (by decide)]
    exact ⟨rfl, rfl, rfl, rfl, rfl, by decide⟩

/-- The component is configured, but the image does not come in time. -/
def lateAnswer (input output : ℕ) : ResizeAnswer :=
  { servingAnswer input output with encode := ⟨[], .OMX_ErrorNone, [], none⟩ }

/-- The buffer of a frame, the buffers that the component was configured with, and what the frame
was passed on with, if it was. -/
def outcomes (s : Notifier) : List (Ptr × Option (List Ptr) × Option (Option Picture)) :=
  s.handed.map fun h => (h.frame.mBuffer, h.configuration.map Configuration.buffers, h.delivered)

/-- A frame that is resized at hand has its buffer among these, and is not passed on without an
image. -/
lemma Notifier.AtHand.outcomes {s : Notifier} (h : s.AtHand) :
    ∀ o ∈ outcomes s, (∃ bufs, o.2.1 = some bufs ∧ o.1 ∈ bufs) ∧ o.2.2 ≠ some none := by
  intro o ho
  obtain ⟨handed, hmem, rfl⟩ := List.mem_map.mp ho
  obtain ⟨c, hc, hfits, hown⟩ := h handed hmem
  refine ⟨⟨c.buffers, ?_, hfits.buffer⟩, fun hnone => ?_⟩
  · show handed.configuration.map _ = _
    rw [hc]
    rfl
  · cases hown none hnone

/-- A frame of the preview whose image comes too late. -/
def lateRun : List Action :=
  [.startPreviewCallbacks [7] true,
    .resizeRawFrame (sampleFrame .PREVIEW_FRAME_SYNC 320 240) (lateAnswer 0 1)]

/-- A still image that is taken from the preview stream. -/
def snapshotRun : List Action :=
  [.startPreviewCallbacks [7] true, .startImageCallbacks [9],
    .resizeRawFrame (sampleFrame .IMAGE_FRAME_SYNC 320 240) (servingAnswer 0 1)]

/-- A frame whose image comes too late is passed on all the same, with what the memory held before:
nothing of the component. For a still image from the preview stream the component is configured with
the buffers for pictures, which do not contain the frame's. -/
theorem not_always_atHand_late :
    ¬ StepRun.Always Notifier.step AtHand (create 1 true 0 1 true) lateRun ∧
      ¬ StepRun.Always Notifier.step AtHand (create 1 true 0 1 true) snapshotRun := by
  constructor
  · intro h
    have hlast : outcomes (StepRun.final Notifier.step (create 1 true 0 1 true) lateRun) =
        [(7, some [7], some none)] := by decide +kernel
    exact (h.last.outcomes (7, some [7], some none) (by simp [hlast])).2 rfl
  · intro h
    have hlast : outcomes (StepRun.final Notifier.step (create 1 true 0 1 true) snapshotRun) =
        [(7, some [9], none)] := by decide +kernel
    obtain ⟨bufs, hbufs, hmem⟩ := (h.last.outcomes (7, some [9], none) (by simp [hlast])).1
    obtain rfl := Option.some.inj hbufs
    exact absurd hmem (by decide)

end CameraHal.HardwareResize
