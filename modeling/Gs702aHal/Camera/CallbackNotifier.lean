import Gs702aHal.Lib.Custody
import Gs702aHal.Lib.StepRun
import Gs702aHal.Camera.StreamHub

set_option relaxedAutoImplicit false
set_option autoImplicit false

/-!
# The frames of the callback notifier

`AppCallbackNotifier` copies every frame that the camera adapter delivers to it and passes the
copy through its queues: the resize and JPEG threads fill memory for the application, the
notification thread hands that memory out. At the end of its way a copy is deleted, and its buffer
must have been returned to the frame provider or, for a recording frame, been handed to the
application, which releases it later. The frames of a subscription that was ended in the meantime
are given back by the end of the subscription itself.

The functions are taken at the granularity of their steps, so that any thread may come in between
the parts of `startRecording`, `stopRecording` and `stopPreviewCallbacks`.
`USE_PREVIEWBUF_AS_VIDEOBUF` is defined.

## Main definitions

* `CameraHal.AppCallbackNotifier`, `CameraHal.AppCallbackNotifier.step` — the queues, the flags and
  the steps.
* `CameraHal.AppCallbackNotifier.Discharged` — what the log should say about a copy that has left.
* `CameraHal.AppCallbackNotifier.Careful` — the condition on a step.
* `CameraHal.AppCallbackNotifier.Handles` — a step discharges what leaves exactly under a
  condition.

## Main results

* `CameraHal.AppCallbackNotifier.accounted_step_iff` — a step discharges the copies that leave in
  it exactly if it is careful.
* `CameraHal.AppCallbackNotifier.always_accounted_iff` — a run discharges all copies that leave if
  and only if all its steps are careful.
* `CameraHal.AppCallbackNotifier.along_careful_stopRecording`,
  `CameraHal.AppCallbackNotifier.along_careful_stopPreviewCallbacks_iff` — how careful the steps of
  two functions are.
-/

namespace CameraHal

/-- `CameraFrame::FrameFormat`. -/
inductive FrameFormat
  | CAMERA_FRAME_FORMAT_YUV420SP
  | CAMERA_FRAME_FORMAT_YUV420P
  | CAMERA_FRAME_FORMAT_RGB565
  | CAMERA_FRAME_FORMAT_YUV422I
  | CAMERA_FRAME_FORMAT_JPEG
  | CAMERA_FRAME_FORMAT_PNG
  deriving DecidableEq, Repr

/-- A `CameraFrame` with the fields that the notifier looks at. -/
structure NotifierFrame extends CameraFrame where
  mFormat : FrameFormat
  mQuirks : BitVec 32
  deriving DecidableEq, Repr

/-- The bit `ENCODE_RAW_TO_JPEG` of the quirks. -/
def ENCODE_RAW_TO_JPEG : BitVec 32 := 1#32 <<< 0

/-- The application's messages that decide where a frame goes. -/
inductive MsgType
  | CAMERA_MSG_RAW_IMAGE
  | CAMERA_MSG_RAW_IMAGE_NOTIFY
  | CAMERA_MSG_VIDEO_FRAME
  | CAMERA_MSG_PREVIEW_FRAME
  | CAMERA_MSG_COMPRESSED_IMAGE
  deriving DecidableEq, Repr

/-- What leaves the notifier: a frame returned to the provider, a recording frame or other memory
handed to the application, a copy deleted (with the note whether its subscription was still
active), an event queued, and a recording frame released by the application. Frames are named by
the number of their copy. -/
inductive NotifierEvent
  | returnFrame (p : ℕ) (frameBuf : Ptr) (frameType : FrameType) (streamType : StreamType)
  | dataCbTimestamp (p : ℕ) (index : ℕ)
  | dataCb (msg : MsgType) (p : ℕ) (index : ℕ)
  | delete (p : ℕ) (live : Bool)
  | rawImageNotify
  | release (frameBuf : Ptr)
  deriving DecidableEq, Repr

/-- The event decides what becomes of the copy. -/
def NotifierEvent.about (p : ℕ) : NotifierEvent → Bool
  | .returnFrame q _ _ _ => q = p
  | .dataCbTimestamp q _ => q = p
  | .delete q _ => q = p
  | _ => false

/-- `PREVIEW_START_FLUSH`. -/
def PREVIEW_START_FLUSH : BitVec 32 := 1#32 <<< 0
/-- `PREVIEW_STOP_FLUSH`. -/
def PREVIEW_STOP_FLUSH : BitVec 32 := 1#32 <<< 1
/-- `CAPTURE_START_FLUSH`. -/
def CAPTURE_START_FLUSH : BitVec 32 := 1#32 <<< 2
/-- `CAPTURE_STOP_FLUSH`. -/
def CAPTURE_STOP_FLUSH : BitVec 32 := 1#32 <<< 3
/-- `VIDEO_START_FLUSH`. -/
def VIDEO_START_FLUSH : BitVec 32 := 1#32 <<< 4
/-- `VIDEO_STOP_FLUSH`. -/
def VIDEO_STOP_FLUSH : BitVec 32 := 1#32 <<< 5

/-- The flags of the resize thread or of the JPEG thread. -/
structure ThreadFlags where
  mPreviewValid : Bool
  mPictureValid : Bool
  mVideoValid : Bool
  deriving DecidableEq, Repr

/-- A message of the frame queue: `NOTIFIER_CMD_PROCESS_FRAME`, or
`NOTIFIER_CMD_PROCESS_MEMORY_FRAME` with memory and the index of the frame in it, or `NULL`. -/
inductive FrameMessage
  | PROCESS_FRAME (p : ℕ)
  | PROCESS_MEMORY_FRAME (p : ℕ) (memory : Option ℕ)
  deriving DecidableEq, Repr

/-- The copy that a message carries. -/
def FrameMessage.frame : FrameMessage → ℕ
  | PROCESS_FRAME p => p
  | PROCESS_MEMORY_FRAME p _ => p

/-- The callbacks that are not `NULL`, the messages that are enabled, whether the notifier is
started, and whether recording frames are passed as metadata. -/
structure NotifierSettings where
  mCameraHal : Bool
  mNotifyCb : Bool
  mDataCb : Bool
  mDataCbTimestamp : Bool
  msgTypeEnabled : MsgType → Bool
  started : Bool
  mUseMetaDataBufferMode : Bool

/-- The notifier. The heap holds the copies of all frames delivered so far, and the queues point
into it. -/
structure AppCallbackNotifier where
  settings : NotifierSettings
  mRecording : Bool
  resizeThread : ThreadFlags
  jpegThread : ThreadFlags
  mFrameQ : List FrameMessage
  mResizeQ : List ℕ
  mJpegQ : List ℕ
  heap : List NotifierFrame
  /-- The frame types that the notifier has subscribed to. -/
  subscribed : FrameType → Bool
  /-- The subscription that a copy was delivered under has not ended. -/
  live : ℕ → Bool
  log : List NotifierEvent

namespace AppCallbackNotifier

/-- The frame in a copy. -/
def frame (s : AppCallbackNotifier) (p : ℕ) : NotifierFrame :=
  s.heap.getD p ⟨⟨NULL, .PREVIEW_STREAM_TYPE, NULL, .PREVIEW_FRAME_SYNC, NULL⟩,
    .CAMERA_FRAME_FORMAT_YUV420SP, 0⟩

/-- The frame type of a copy. -/
def typeOf (s : AppCallbackNotifier) (p : ℕ) : FrameType := (s.frame p).mFrameType

/-- Append to the log. -/
def note (s : AppCallbackNotifier) (events : List NotifierEvent) : AppCallbackNotifier :=
  { s with log := s.log ++ events }

/-- `mFrameProvider->returnFrame` with the fields of a copy. -/
def returnEvent (s : AppCallbackNotifier) (p : ℕ) : NotifierEvent :=
  .returnFrame p (s.frame p).mBuffer (s.frame p).mFrameType (s.frame p).mStreamType

/-- `delete` of a copy. -/
def deleteEvent (s : AppCallbackNotifier) (p : ℕ) : NotifierEvent := .delete p (s.live p)

/-! ### Delivery -/

/-- The copy that `frameCallback` makes. -/
def copyFrame (s : AppCallbackNotifier) (f : NotifierFrame) : AppCallbackNotifier :=
  { s with
    heap := s.heap ++ [f]
    live := Function.update s.live s.heap.length (s.subscribed f.mFrameType) }

/-- `sendToResize`. -/
def sendToResize (s : AppCallbackNotifier) (p : ℕ) : AppCallbackNotifier :=
  { s with mResizeQ := s.mResizeQ ++ [p] }

/-- `sendToJpegEncode`. -/
def sendToJpegEncode (s : AppCallbackNotifier) (p : ℕ) : AppCallbackNotifier :=
  { s with mJpegQ := s.mJpegQ ++ [p] }

/-- `sendToFrameQ`. -/
def sendToFrameQ (s : AppCallbackNotifier) (msg : FrameMessage) : AppCallbackNotifier :=
  { s with mFrameQ := s.mFrameQ ++ [msg] }

/-- The end of `frameCallback` for a frame that is not wanted: it is returned, and the copy
deleted. -/
def returnAndDelete (s : AppCallbackNotifier) (p : ℕ) : AppCallbackNotifier :=
  s.note [s.returnEvent p, s.deleteEvent p]

/-- The branch of `frameCallback` for recording frames is taken. -/
def isVideo (c : NotifierSettings) (f : NotifierFrame) : Bool :=
  f.mFrameType == .VIDEO_FRAME_SYNC && c.mCameraHal && c.mDataCbTimestamp &&
    c.msgTypeEnabled .CAMERA_MSG_VIDEO_FRAME

/-- `frameCallback`, after its copy `p` is made. -/
def dispatch (s : AppCallbackNotifier) (p : ℕ) (f : NotifierFrame) : AppCallbackNotifier :=
  let c := s.settings
  if f.mFrameType = .RAW_FRAME_SYNC ∧ c.mCameraHal ∧ c.mDataCb ∧ c.mNotifyCb then
    if c.msgTypeEnabled .CAMERA_MSG_RAW_IMAGE then s.sendToResize p
    else if c.msgTypeEnabled .CAMERA_MSG_RAW_IMAGE_NOTIFY then
      (s.note [.rawImageNotify]).returnAndDelete p
    else s.returnAndDelete p
  else if f.mFrameType = .IMAGE_FRAME_SYNC ∧ c.mCameraHal ∧ c.mDataCb ∧
      ENCODE_RAW_TO_JPEG &&& f.mQuirks ≠ 0 then
    s.sendToJpegEncode p
  else if f.mFrameType = .IMAGE_FRAME_SYNC ∧ c.mCameraHal ∧ c.mDataCb then
    if f.mFormat ≠ .CAMERA_FRAME_FORMAT_JPEG ∧ f.mFormat ≠ .CAMERA_FRAME_FORMAT_PNG then
      s.sendToResize p
    else s.sendToJpegEncode p
  else if isVideo c f then
    if s.mRecording then
      if c.mUseMetaDataBufferMode then s.sendToFrameQ (.PROCESS_FRAME p) else s.sendToResize p
    else s
  else if f.mFrameType = .PREVIEW_FRAME_SYNC ∧ c.mCameraHal ∧ c.mDataCb ∧
      c.msgTypeEnabled .CAMERA_MSG_PREVIEW_FRAME then
    if ¬ s.mRecording ∨ c.mUseMetaDataBufferMode then s.sendToResize p else s.returnAndDelete p
  else s.returnAndDelete p

/-- `frameCallback`, for a frame that is not `NULL`. -/
def frameCallback (s : AppCallbackNotifier) (f : NotifierFrame) : AppCallbackNotifier :=
  (s.copyFrame f).dispatch s.heap.length f

/-! ### The resize and JPEG threads -/

/-- The flag of the resize thread that a copy of a frame type needs. -/
def valid (flags : ThreadFlags) : FrameType → Bool
  | .PREVIEW_FRAME_SYNC => flags.mPreviewValid
  | .VIDEO_FRAME_SYNC => flags.mVideoValid
  | _ => flags.mPictureValid

/-- `resizeRawFrame`, not cancelled; `memory` is the memory that is there to copy into. The frame
goes to the frame queue in any case. -/
def resizeRawFrame (s : AppCallbackNotifier) (p : ℕ) (memory : Option ℕ) : AppCallbackNotifier :=
  s.sendToFrameQ (.PROCESS_MEMORY_FRAME p
    (if s.settings.started ∧ (s.frame p).mBuffer ≠ NULL then memory else none))

/-- `resizeFrame`. -/
def resizeFrame (s : AppCallbackNotifier) (memory : Option ℕ) : AppCallbackNotifier :=
  match s.mResizeQ with
  | [] => s
  | p :: rest =>
    let s := { s with mResizeQ := rest }
    if valid s.resizeThread (s.typeOf p) then s.resizeRawFrame p memory
    else s.note [s.deleteEvent p]

/-- `resizeFrame` with a copy in the queue. -/
lemma resizeFrame_of_cons {s : AppCallbackNotifier} {p : ℕ} {rest : List ℕ}
    (hq : s.mResizeQ = p :: rest) (memory : Option ℕ) :
    s.resizeFrame memory =
      if valid s.resizeThread (s.typeOf p) then { s with mResizeQ := rest }.resizeRawFrame p memory
      else { s with mResizeQ := rest }.note [s.deleteEvent p] := by
  simp only [resizeFrame, hq]
  rfl

/-- `encodePictureFrame`, not cancelled; `memory` tells whether there is a picture. -/
def encodePictureFrame (s : AppCallbackNotifier) (p : ℕ) (memory : Bool) : AppCallbackNotifier :=
  s.sendToFrameQ (.PROCESS_MEMORY_FRAME p (if s.settings.started ∧ memory then some 0 else none))

/-- `jpegEncode`. -/
def jpegEncode (s : AppCallbackNotifier) (memory : Bool) : AppCallbackNotifier :=
  match s.mJpegQ with
  | [] => s
  | p :: rest =>
    let s := { s with mJpegQ := rest }
    if s.jpegThread.mPictureValid then s.encodePictureFrame p memory
    else s.note [s.deleteEvent p]

/-- `flushResizeQForFrame`. -/
def flushResizeQForFrame (s : AppCallbackNotifier) (t : FrameType) : AppCallbackNotifier :=
  { s with mResizeQ := s.mResizeQ.filter fun p => s.typeOf p ≠ t }.note
    ((s.mResizeQ.filter fun p => s.typeOf p = t).map s.deleteEvent)

/-- `flushResizeQ`. -/
def flushResizeQ (s : AppCallbackNotifier) : AppCallbackNotifier :=
  { s with mResizeQ := [] }.note (s.mResizeQ.map s.deleteEvent)

/-- `flushResizeQForImage`, which flushes the same frame type twice. -/
def flushResizeQForImage (s : AppCallbackNotifier) : AppCallbackNotifier :=
  (s.flushResizeQForFrame .IMAGE_FRAME_SYNC).flushResizeQForFrame .IMAGE_FRAME_SYNC

/-- `flushJpegQ`. -/
def flushJpegQ (s : AppCallbackNotifier) : AppCallbackNotifier :=
  { s with mJpegQ := [] }.note (s.mJpegQ.map s.deleteEvent)

/-- `flushFrames`. -/
def flushFrames (s : AppCallbackNotifier) : AppCallbackNotifier :=
  { s with mFrameQ := [] }.note (s.mFrameQ.map fun msg : FrameMessage => s.deleteEvent msg.frame)

/-- The two bits of a flush that concern one flag: whether the queue is to be flushed, -/
def flushes (flush start stop : BitVec 32) (flag : Bool) : Bool :=
  (flush &&& start ≠ 0 && !flag) || flush &&& stop ≠ 0

/-- and the flag afterwards. -/
def flagAfter (flush start stop : BitVec 32) (flag : Bool) : Bool :=
  if flush &&& stop ≠ 0 then false else if flush &&& start ≠ 0 then true else flag

/-- The flags of a thread after a flush. -/
def flagsAfter (flush : BitVec 32) (flags : ThreadFlags) : ThreadFlags where
  mPreviewValid := flagAfter flush PREVIEW_START_FLUSH PREVIEW_STOP_FLUSH flags.mPreviewValid
  mPictureValid := flagAfter flush CAPTURE_START_FLUSH CAPTURE_STOP_FLUSH flags.mPictureValid
  mVideoValid := flagAfter flush VIDEO_START_FLUSH VIDEO_STOP_FLUSH flags.mVideoValid

/-- `flushForImage`. -/
def flushForImage (flush : BitVec 32) (flags : ThreadFlags) : Bool :=
  flushes flush CAPTURE_START_FLUSH CAPTURE_STOP_FLUSH flags.mPictureValid

/-- `flushForPreview`. -/
def flushForPreview (flush : BitVec 32) (flags : ThreadFlags) : Bool :=
  flushes flush PREVIEW_START_FLUSH PREVIEW_STOP_FLUSH flags.mPreviewValid

/-- `flushForVideo`. -/
def flushForVideo (flush : BitVec 32) (flags : ThreadFlags) : Bool :=
  flushes flush VIDEO_START_FLUSH VIDEO_STOP_FLUSH flags.mVideoValid

/-- The message `RESIZE_FLUSH` of `processResizeMessage`. -/
def resizeFlush (s : AppCallbackNotifier) (flush : BitVec 32) : AppCallbackNotifier :=
  let image := flushForImage flush s.resizeThread
  let preview := flushForPreview flush s.resizeThread
  let video := flushForVideo flush s.resizeThread
  let s := { s with resizeThread := flagsAfter flush s.resizeThread }
  if image && preview && video then s.flushResizeQ
  else
    let s := if image then s.flushResizeQForImage else s
    let s := if preview then s.flushResizeQForFrame .PREVIEW_FRAME_SYNC else s
    if video then s.flushResizeQForFrame .VIDEO_FRAME_SYNC else s

/-- The message `JPEG_FLUSH` of `processJpegMessage`. -/
def jpegFlush (s : AppCallbackNotifier) (flush : BitVec 32) : AppCallbackNotifier :=
  let image := flushForImage flush s.jpegThread
  let s := { s with jpegThread := flagsAfter flush s.jpegThread }
  if image then s.flushJpegQ else s

/-! ### The notification thread -/

/-- A frame without memory that `notifyFrame` takes is handed to the encoder; `metadata` tells
whether its metadata buffer is there. -/
def recordsMetadata (s : AppCallbackNotifier) (p : ℕ) (metadata : Bool) : Bool :=
  isVideo s.settings (s.frame p) && s.mRecording && s.settings.mUseMetaDataBufferMode && metadata

/-- A frame with memory that `notifyFrame` takes is handed to the encoder. -/
def recordsMemory (s : AppCallbackNotifier) (p : ℕ) : Bool :=
  isVideo s.settings (s.frame p) && s.mRecording && !s.settings.mUseMetaDataBufferMode

/-- The memory that `notifyFrame` hands to the application for a frame that is not recorded. -/
def dataCallbacks (s : AppCallbackNotifier) (p index : ℕ) : List NotifierEvent :=
  let c := s.settings
  if ¬ (c.mCameraHal ∧ c.mDataCb ∧ c.started) then []
  else match s.typeOf p with
  | .RAW_FRAME_SYNC =>
    if c.msgTypeEnabled .CAMERA_MSG_RAW_IMAGE then [.dataCb .CAMERA_MSG_RAW_IMAGE p 0] else []
  | .IMAGE_FRAME_SYNC => [.dataCb .CAMERA_MSG_COMPRESSED_IMAGE p 0]
  | .PREVIEW_FRAME_SYNC =>
    if c.msgTypeEnabled .CAMERA_MSG_PREVIEW_FRAME then
      [.dataCb .CAMERA_MSG_PREVIEW_FRAME p index]
    else []
  | _ => []

/-- The events of `notifyFrame` for one message. -/
def notifyEvents (s : AppCallbackNotifier) (metadata : Bool) : FrameMessage → List NotifierEvent
  | .PROCESS_FRAME p =>
    (if s.recordsMetadata p metadata then [.dataCbTimestamp p 0] else []) ++ [s.deleteEvent p]
  | .PROCESS_MEMORY_FRAME p none => [s.returnEvent p, s.deleteEvent p]
  | .PROCESS_MEMORY_FRAME p (some index) =>
    if s.recordsMemory p then [.dataCbTimestamp p index, s.deleteEvent p]
    else s.dataCallbacks p index ++ [s.returnEvent p, s.deleteEvent p]

/-- `notifyFrame`. -/
def notifyFrame (s : AppCallbackNotifier) (metadata : Bool) : AppCallbackNotifier :=
  match s.mFrameQ with
  | [] => s
  | msg :: rest => { s with mFrameQ := rest }.note (s.notifyEvents metadata msg)

/-! ### Steps -/

/-- The steps of the notifier. `releaseRecordingFrame` is taken with the buffer that it has looked
up for the application's pointer. -/
inductive Action
  | frameCallback (f : NotifierFrame)
  | resizeFrame (memory : Option ℕ)
  | jpegEncode (memory : Bool)
  | notifyFrame (metadata : Bool)
  | resizeFlush (flush : BitVec 32)
  | jpegFlush (flush : BitVec 32)
  | flushFrames
  | enableFrameNotification (t : FrameType)
  | disableFrameNotification (t : FrameType)
  | setRecording (recording : Bool)
  | releaseRecordingFrame (frameBuf : Ptr)
  | setSettings (settings : NotifierSettings)

/-- One step. -/
def step (s : AppCallbackNotifier) : Action → AppCallbackNotifier
  | .frameCallback f => s.frameCallback f
  | .resizeFrame memory => s.resizeFrame memory
  | .jpegEncode memory => s.jpegEncode memory
  | .notifyFrame metadata => s.notifyFrame metadata
  | .resizeFlush flush => s.resizeFlush flush
  | .jpegFlush flush => s.jpegFlush flush
  | .flushFrames => s.flushFrames
  | .enableFrameNotification t => { s with subscribed := Function.update s.subscribed t true }
  | .disableFrameNotification t =>
    { s with
      subscribed := Function.update s.subscribed t false
      live := fun p => s.live p && s.typeOf p != t }
  | .setRecording recording => { s with mRecording := recording }
  | .releaseRecordingFrame frameBuf => s.note [.release frameBuf]
  | .setSettings settings => { s with settings := settings }

/-- The steps of `startRecording`. -/
def startRecording (s : AppCallbackNotifier) : List Action :=
  if s.mRecording then []
  else [.enableFrameNotification .VIDEO_FRAME_SYNC, .resizeFlush VIDEO_START_FLUSH,
    .jpegFlush VIDEO_START_FLUSH, .setRecording true]

/-- The steps of `stopRecording`. -/
def stopRecording (s : AppCallbackNotifier) : List Action :=
  if ¬ s.mRecording then []
  else [.disableFrameNotification .VIDEO_FRAME_SYNC, .setRecording false,
    .resizeFlush VIDEO_STOP_FLUSH, .jpegFlush VIDEO_STOP_FLUSH]

/-- The steps of `stopPreviewCallbacks` for a notifier that is previewing. -/
def stopPreviewCallbacks : List Action :=
  [.disableFrameNotification .PREVIEW_FRAME_SYNC,
    .resizeFlush (PREVIEW_STOP_FLUSH ||| CAPTURE_STOP_FLUSH ||| VIDEO_STOP_FLUSH),
    .jpegFlush (PREVIEW_STOP_FLUSH ||| CAPTURE_STOP_FLUSH ||| VIDEO_STOP_FLUSH), .flushFrames]

/-! ### What becomes of a copy -/

/-- The copies in the queues, and the log. -/
def custody (s : AppCallbackNotifier) : Custody NotifierEvent where
  count := s.heap.length
  held := s.mFrameQ.map FrameMessage.frame ++ s.mResizeQ ++ s.mJpegQ
  log := s.log

/-- What the log should say about a copy that has left: it was deleted once, after its frame was
returned or, for a recording frame, handed to the application; or its subscription had ended. -/
def Discharged (s : AppCallbackNotifier) (p : ℕ) (events : List NotifierEvent) : Prop :=
  (∃ live, events = [s.returnEvent p, .delete p live]) ∨
    (s.typeOf p = .VIDEO_FRAME_SYNC ∧
      ∃ index live, events = [.dataCbTimestamp p index, .delete p live]) ∨
    events = [.delete p false]

/-- Every copy is in a queue or discharged. -/
def Accounted (s : AppCallbackNotifier) : Prop :=
  s.custody.Accounted NotifierEvent.about s.Discharged

/-- The condition on a step: no recording frame comes before the recording is on, and none of the
copies that are cancelled, flushed, or taken from the frame queue without being handed out belongs
to an active subscription. -/
def Careful (s : AppCallbackNotifier) : Action → Prop
  | .frameCallback f => isVideo s.settings f → s.mRecording
  | .resizeFrame _ => ∀ p ∈ s.mResizeQ.head?,
      valid s.resizeThread (s.typeOf p) = false → s.live p = false
  | .jpegEncode _ => ∀ p ∈ s.mJpegQ.head?, s.jpegThread.mPictureValid = false → s.live p = false
  | .notifyFrame metadata => ∀ msg ∈ s.mFrameQ.head?, ∀ p, msg = .PROCESS_FRAME p →
      s.recordsMetadata p metadata = false → s.live p = false
  | .resizeFlush flush => ∀ p ∈ s.mResizeQ,
      (flushForImage flush s.resizeThread ∧ s.typeOf p = .IMAGE_FRAME_SYNC ∨
        flushForPreview flush s.resizeThread ∧ s.typeOf p = .PREVIEW_FRAME_SYNC ∨
        flushForVideo flush s.resizeThread ∧ s.typeOf p = .VIDEO_FRAME_SYNC ∨
        flushForImage flush s.resizeThread ∧ flushForPreview flush s.resizeThread ∧
          flushForVideo flush s.resizeThread) → s.live p = false
  | .jpegFlush flush => flushForImage flush s.jpegThread → ∀ p ∈ s.mJpegQ, s.live p = false
  | .flushFrames => ∀ msg ∈ s.mFrameQ, s.live msg.frame = false
  | _ => True

/-- A step takes frames in and lets copies leave with entries in the log, and it discharges all
of these exactly under a condition. -/
def Handles (s s' : AppCallbackNotifier) (P : Prop) : Prop :=
  ∃ new out events, Custody.Moves NotifierEvent.about s.custody s'.custody new out events ∧
    s.heap <+: s'.heap ∧ (s.custody.Tracked NotifierEvent.about →
      ((∀ p ∈ out, s'.Discharged p (events.filter (NotifierEvent.about p))) ↔ P))

/-! ### Lemmas on the log and the heap -/

/-- Copies stay as they are while the heap grows. -/
lemma frame_of_prefix {s s' : AppCallbackNotifier} (hheap : s.heap <+: s'.heap) {p : ℕ}
    (hp : p < s.heap.length) : s'.frame p = s.frame p := by
  obtain ⟨l, hl⟩ := hheap
  simp only [frame, ← hl, List.getD_eq_getElem?_getD, List.getElem?_append_left hp]

/-- What the log should say about a copy does not change while the heap grows. -/
lemma discharged_of_prefix {s s' : AppCallbackNotifier} (hheap : s.heap <+: s'.heap) {p : ℕ}
    (hp : p < s.heap.length) (events : List NotifierEvent) :
    s'.Discharged p events ↔ s.Discharged p events := by
  simp only [Discharged, returnEvent, typeOf, frame_of_prefix hheap hp]

/-- A copy that was deleted and nothing else is discharged if its subscription had ended. -/
lemma discharged_delete_iff (s : AppCallbackNotifier) (p : ℕ) (live : Bool) :
    s.Discharged p [.delete p live] ↔ live = false := by
  simp [Discharged]

/-- A copy that left nothing in the log is not discharged. -/
lemma not_discharged_nil (s : AppCallbackNotifier) (p : ℕ) : ¬ s.Discharged p [] := by
  simp [Discharged]

/-- The deletions of other copies do not matter. -/
lemma filter_map_delete_of_notMem {s : AppCallbackNotifier} {out : List ℕ} {p : ℕ}
    (hp : p ∉ out) : (out.map s.deleteEvent).filter (NotifierEvent.about p) = [] := by
  rw [List.filter_eq_nil_iff]
  intro e he
  obtain ⟨q, hq, rfl⟩ := List.mem_map.mp he
  have hqp : q ≠ p := fun h => hp (h ▸ hq)
  simpa [deleteEvent, NotifierEvent.about] using hqp

/-- Among the deletions of different copies there is one of each. -/
lemma filter_map_delete_of_mem {s : AppCallbackNotifier} {out : List ℕ} (hnodup : out.Nodup)
    {p : ℕ} (hp : p ∈ out) :
    (out.map s.deleteEvent).filter (NotifierEvent.about p) = [s.deleteEvent p] := by
  obtain ⟨l, r, rfl⟩ := List.append_of_mem hp
  rw [List.nodup_append', List.nodup_cons] at hnodup
  obtain ⟨-, ⟨hr, -⟩, hdisj⟩ := hnodup
  have hl : p ∉ l := fun h => hdisj h List.mem_cons_self
  rw [List.map_append, List.map_cons, List.filter_append, List.filter_cons_of_pos,
    filter_map_delete_of_notMem hl, filter_map_delete_of_notMem hr, List.nil_append]
  simp [deleteEvent, NotifierEvent.about]

/-! ### The rules for steps -/

/-- The condition of a step may be restated. -/
lemma Handles.congr {s s' : AppCallbackNotifier} {P Q : Prop} (h : Handles s s' P)
    (hPQ : P ↔ Q) : Handles s s' Q := by
  obtain ⟨new, out, events, hm, hheap, hdis⟩ := h
  exact ⟨new, out, events, hm, hheap, fun ht => (hdis ht).trans hPQ⟩

/-- A step keeps track of the copies in the queues. -/
lemma Handles.tracked {s s' : AppCallbackNotifier} {P : Prop} (h : Handles s s' P)
    (ht : s.custody.Tracked NotifierEvent.about) : s'.custody.Tracked NotifierEvent.about := by
  obtain ⟨new, out, events, hm, -⟩ := h
  exact hm.tracked ht

/-- The heap grows in a step. -/
lemma Handles.heap_grows {s s' : AppCallbackNotifier} {P : Prop} (h : Handles s s' P) :
    s.heap <+: s'.heap := by
  obtain ⟨new, out, events, -, hheap, -⟩ := h
  exact hheap

/-- A copy that has left does not come back. -/
lemma Handles.notMem_held {s s' : AppCallbackNotifier} {P : Prop} (h : Handles s s' P) {p : ℕ}
    (hp : p < s.heap.length) (hheld : p ∉ s.custody.held) : p ∉ s'.custody.held := by
  obtain ⟨new, out, events, hm, -⟩ := h
  intro hmem
  rcases (hm.mem_iff p).mp (Or.inr hmem) with hheld' | ⟨hge, -⟩
  · exact hheld hheld'
  · exact absurd hp (not_lt.mpr hge)

/-- A step keeps the log complete exactly under its condition. -/
lemma Handles.accounted_iff {s s' : AppCallbackNotifier} {P : Prop} (h : Handles s s' P)
    (ht : s.custody.Tracked NotifierEvent.about) (ha : s.Accounted) : s'.Accounted ↔ P := by
  obtain ⟨new, out, events, hm, hheap, hdis⟩ := h
  exact (hm.accounted_iff ht (fun p hp => discharged_of_prefix hheap hp) ha).trans (hdis ht)

/-- A step after which the queues have the same copies and the log says nothing new about any
copy. -/
lemma handles_of_stay {s s' : AppCallbackNotifier} (hheap : s'.heap = s.heap)
    (hheld : s.custody.held.Perm s'.custody.held)
    {events : List NotifierEvent} (hlog : s'.log = s.log ++ events)
    (habout : ∀ p, events.filter (NotifierEvent.about p) = []) : Handles s s' True := by
  refine ⟨0, [], events, ⟨?_, ?_, hlog, fun p _ => habout p⟩, ?_, ?_⟩
  · simp only [custody, hheap, Nat.add_zero]
  · simpa using hheld
  · rw [hheap]
  · intro _
    simp

/-- A step after which the queues have the same copies and the log is the same. -/
lemma handles_of_keep {s s' : AppCallbackNotifier} (hheap : s'.heap = s.heap)
    (hheld : s.custody.held.Perm s'.custody.held) (hlog : s'.log = s.log) :
    Handles s s' True :=
  handles_of_stay hheap hheld (hlog.trans (List.append_nil _).symm) fun _ => rfl

/-- Copies that leave the queues with their deletions in the log. -/
lemma moves_of_delete {s s' : AppCallbackNotifier} {out : List ℕ} (hheap : s'.heap = s.heap)
    (hheld : s.custody.held.Perm (out ++ s'.custody.held))
    (hlog : s'.log = s.log ++ out.map s.deleteEvent) :
    Custody.Moves NotifierEvent.about s.custody s'.custody 0 out (out.map s.deleteEvent) where
  count := by simp only [custody, hheap, Nat.add_zero]
  held := by simpa using hheld
  log := hlog
  about _ hp := filter_map_delete_of_notMem hp

/-- A step in which copies leave the queues and are deleted. -/
lemma handles_of_delete {s s' : AppCallbackNotifier} {out : List ℕ} (hheap : s'.heap = s.heap)
    (hheld : s.custody.held.Perm (out ++ s'.custody.held))
    (hlog : s'.log = s.log ++ out.map s.deleteEvent) :
    Handles s s' (∀ p ∈ out, s.live p = false) := by
  have hm := moves_of_delete hheap hheld hlog
  refine ⟨0, out, out.map s.deleteEvent, hm, by rw [hheap], fun ht => ?_⟩
  have hnodup : out.Nodup := (List.nodup_append'.mp (hm.nodup_out ht)).1
  refine forall₂_congr fun p hp => ?_
  rw [filter_map_delete_of_mem hnodup hp]
  exact discharged_delete_iff s' p (s.live p)

/-! ### The queues -/

/-- A copy sent to the resize thread is in custody. -/
lemma held_sendToResize (s : AppCallbackNotifier) (p : ℕ) :
    (s.sendToResize p).custody.held.Perm (p :: s.custody.held) := by
  simp only [custody, sendToResize, List.append_assoc, List.cons_append, List.nil_append]
  rw [← List.append_assoc, ← List.append_assoc (s.mFrameQ.map FrameMessage.frame)]
  exact List.perm_middle

/-- A copy sent to the JPEG thread is in custody. -/
lemma held_sendToJpegEncode (s : AppCallbackNotifier) (p : ℕ) :
    (s.sendToJpegEncode p).custody.held.Perm (p :: s.custody.held) := by
  simp only [custody, sendToJpegEncode, ← List.append_assoc]
  exact List.perm_append_singleton p _

/-- A copy sent to the notification thread is in custody. -/
lemma held_sendToFrameQ (s : AppCallbackNotifier) (msg : FrameMessage) :
    (s.sendToFrameQ msg).custody.held.Perm (msg.frame :: s.custody.held) := by
  simp only [custody, sendToFrameQ, List.map_append, List.map_cons, List.map_nil,
    List.append_assoc, List.cons_append, List.nil_append]
  exact List.perm_middle

/-- The resize thread takes a copy from its queue. -/
lemma held_of_mResizeQ {s : AppCallbackNotifier} {p : ℕ} {rest : List ℕ}
    (hq : s.mResizeQ = p :: rest) :
    s.custody.held.Perm (p :: { s with mResizeQ := rest }.custody.held) := by
  simp only [custody, hq, List.append_assoc, List.cons_append]
  exact List.perm_middle

/-- The JPEG thread takes a copy from its queue. -/
lemma held_of_mJpegQ {s : AppCallbackNotifier} {p : ℕ} {rest : List ℕ}
    (hq : s.mJpegQ = p :: rest) :
    s.custody.held.Perm (p :: { s with mJpegQ := rest }.custody.held) := by
  simp only [custody, hq]
  exact List.perm_middle

/-! ### Delivery -/

/-- What `frameCallback` does with the copy that it has made: it goes to the end of a queue, its
frame is returned and it is deleted, or nothing is done, which happens to recording frames while
`mRecording` is off. -/
inductive Dispatched (s : AppCallbackNotifier) (p : ℕ) (f : NotifierFrame) :
    AppCallbackNotifier → Prop
  | resize (h : isVideo s.settings f → s.mRecording) : Dispatched s p f (s.sendToResize p)
  | jpeg (h : f.mFrameType = .IMAGE_FRAME_SYNC) : Dispatched s p f (s.sendToJpegEncode p)
  | frameQ (h : isVideo s.settings f → s.mRecording) :
    Dispatched s p f (s.sendToFrameQ (.PROCESS_FRAME p))
  | returned (events : List NotifierEvent)
    (hevents : ∀ q, events.filter (NotifierEvent.about q) = [])
    (h : isVideo s.settings f → s.mRecording) :
    Dispatched s p f ((s.note events).returnAndDelete p)
  | dropped (h : ¬ (isVideo s.settings f → s.mRecording)) : Dispatched s p f s

/-- A frame of another type is not a recording frame. -/
lemma isVideo_of_ne {c : NotifierSettings} {f : NotifierFrame}
    (h : f.mFrameType ≠ .VIDEO_FRAME_SYNC) : ¬ isVideo c f := by
  simp [isVideo, h]

/-- `frameCallback` does one of these things. -/
lemma dispatched_dispatch (s : AppCallbackNotifier) (p : ℕ) (f : NotifierFrame) :
    Dispatched s p f (s.dispatch p f) := by
  have hreturned : (isVideo s.settings f → s.mRecording) →
      Dispatched s p f (s.returnAndDelete p) := by
    intro h
    have hnote : s.note [] = s := by
      simp only [note, List.append_nil]
    have hempty := Dispatched.returned (s := s) (p := p) (f := f) [] (fun _ => rfl) h
    rwa [hnote] at hempty
  have hother : ∀ {t : FrameType}, f.mFrameType = t → t ≠ .VIDEO_FRAME_SYNC →
      (isVideo s.settings f → s.mRecording) :=
    fun ht hne hvideo => absurd hvideo (isVideo_of_ne (ht ▸ hne))
  unfold dispatch
  by_cases hraw : f.mFrameType = .RAW_FRAME_SYNC ∧ s.settings.mCameraHal ∧ s.settings.mDataCb ∧
      s.settings.mNotifyCb
  · have hnot := hother hraw.1 (by decide)
    simp only [if_pos hraw]
    split_ifs
    · exact .resize hnot
    · exact .returned [.rawImageNotify] (fun _ => rfl) hnot
    · exact hreturned hnot
  simp only [if_neg hraw]
  by_cases hquirk : f.mFrameType = .IMAGE_FRAME_SYNC ∧ s.settings.mCameraHal ∧
      s.settings.mDataCb ∧ ENCODE_RAW_TO_JPEG &&& f.mQuirks ≠ 0
  · simp only [if_pos hquirk]
    exact .jpeg hquirk.1
  simp only [if_neg hquirk]
  by_cases himage : f.mFrameType = .IMAGE_FRAME_SYNC ∧ s.settings.mCameraHal ∧
      s.settings.mDataCb
  · simp only [if_pos himage]
    split_ifs
    · exact .resize (hother himage.1 (by decide))
    · exact .jpeg himage.1
  simp only [if_neg himage]
  by_cases hvideo : isVideo s.settings f
  · simp only [if_pos hvideo]
    by_cases hrec : s.mRecording
    · simp only [if_pos hrec]
      split_ifs
      · exact .frameQ fun _ => hrec
      · exact .resize fun _ => hrec
    · rw [if_neg hrec]
      exact .dropped fun h => hrec (h hvideo)
  · have hnot : isVideo s.settings f → s.mRecording := fun h => absurd h hvideo
    simp only [if_neg hvideo]
    split_ifs
    · exact .resize hnot
    · exact hreturned hnot
    · exact hreturned hnot

/-- A new copy that goes into a queue. -/
lemma handles_of_arrive {s s' : AppCallbackNotifier} {f : NotifierFrame}
    (hheap : s'.heap = s.heap ++ [f])
    (hheld : s'.custody.held.Perm (s.heap.length :: s.custody.held)) (hlog : s'.log = s.log) :
    Handles s s' True := by
  refine ⟨1, [], [], ⟨?_, ?_, ?_, fun _ _ => rfl⟩, ⟨[f], hheap.symm⟩, fun _ => ?_⟩
  · simp only [custody, hheap, List.length_append, List.length_singleton]
  · exact (List.perm_append_singleton _ _).trans hheld.symm
  · simp only [custody, hlog, List.append_nil]
  · simp

/-- A new copy that leaves at once. -/
lemma handles_of_pass {s s' : AppCallbackNotifier} {f : NotifierFrame} {P : Prop}
    {events : List NotifierEvent} (hheap : s'.heap = s.heap ++ [f])
    (hheld : s'.custody.held = s.custody.held) (hlog : s'.log = s.log ++ events)
    (habout : ∀ q ≠ s.heap.length, events.filter (NotifierEvent.about q) = [])
    (hdis : s'.Discharged s.heap.length (events.filter (NotifierEvent.about s.heap.length)) ↔ P) :
    Handles s s' P := by
  refine ⟨1, [s.heap.length], events, ⟨?_, ?_, hlog, ?_⟩, ⟨[f], hheap.symm⟩, fun _ => ?_⟩
  · simp only [custody, hheap, List.length_append, List.length_singleton]
  · rw [hheld]
    exact List.perm_append_comm
  · exact fun q hq => habout q (fun h => hq (List.mem_singleton.mpr h))
  · simpa using hdis

/-- The copy of a delivered frame is queued or discharged, unless it is a recording frame that
comes while `mRecording` is off. -/
lemma handles_frameCallback (s : AppCallbackNotifier) (f : NotifierFrame) :
    Handles s (s.frameCallback f) (isVideo s.settings f → s.mRecording) := by
  unfold frameCallback
  set c := s.copyFrame f with hc
  have hdispatch := dispatched_dispatch c s.heap.length f
  generalize c.dispatch s.heap.length f = s' at hdispatch
  cases hdispatch with
  | resize h =>
    have harrive : Handles s (c.sendToResize s.heap.length) True :=
      handles_of_arrive (f := f) rfl (held_sendToResize c s.heap.length) rfl
    exact harrive.congr (iff_of_true trivial h)
  | jpeg h =>
    have harrive : Handles s (c.sendToJpegEncode s.heap.length) True :=
      handles_of_arrive (f := f) rfl (held_sendToJpegEncode c s.heap.length) rfl
    have hne : f.mFrameType ≠ .VIDEO_FRAME_SYNC := by
      rw [h]
      decide
    exact harrive.congr (iff_of_true trivial fun hvideo => absurd hvideo (isVideo_of_ne hne))
  | frameQ h =>
    have harrive : Handles s (c.sendToFrameQ (.PROCESS_FRAME s.heap.length)) True :=
      handles_of_arrive (f := f) rfl (held_sendToFrameQ c (.PROCESS_FRAME s.heap.length)) rfl
    exact harrive.congr (iff_of_true trivial h)
  | returned events hevents h =>
    refine handles_of_pass (f := f) rfl rfl (List.append_assoc _ _ _) (fun q hq => ?_) ?_
    · simp [List.filter_append, hevents, returnEvent, deleteEvent, NotifierEvent.about, hq.symm]
    · refine iff_of_true ?_ h
      have hfilter : [(c.note events).returnEvent s.heap.length,
          (c.note events).deleteEvent s.heap.length].filter (NotifierEvent.about s.heap.length) =
            [(c.note events).returnEvent s.heap.length,
              (c.note events).deleteEvent s.heap.length] := by
        simp [returnEvent, deleteEvent, NotifierEvent.about]
      rw [List.filter_append, hevents, List.nil_append, hfilter]
      exact Or.inl ⟨(c.note events).live s.heap.length, rfl⟩
  | dropped h =>
    exact handles_of_pass (f := f) rfl rfl (List.append_nil _).symm (fun _ _ => rfl)
      (iff_of_false (not_discharged_nil _ s.heap.length) h)

/-! ### The threads -/

/-- The resize thread passes a copy on, or deletes it if its kind of frame is cancelled. -/
lemma handles_resizeFrame (s : AppCallbackNotifier) (memory : Option ℕ) :
    Handles s (s.resizeFrame memory) (∀ p ∈ s.mResizeQ.head?,
      valid s.resizeThread (s.typeOf p) = false → s.live p = false) := by
  cases hq : s.mResizeQ with
  | nil =>
    have hsame : s.resizeFrame memory = s := by
      simp only [resizeFrame, hq]
    rw [hsame]
    exact (handles_of_keep rfl (List.Perm.refl _) rfl).congr (by simp)
  | cons p rest =>
    rw [resizeFrame_of_cons hq]
    simp only [List.head?_cons, Option.mem_some_iff, forall_eq']
    set s' : AppCallbackNotifier := { s with mResizeQ := rest } with hs'
    have hheld : s.custody.held.Perm (p :: s'.custody.held) := held_of_mResizeQ hq
    by_cases hvalid : valid s.resizeThread (s.typeOf p)
    · have hkeep : Handles s (s'.resizeRawFrame p memory) True :=
        handles_of_keep rfl (hheld.trans (held_sendToFrameQ s' (.PROCESS_MEMORY_FRAME p _)).symm)
          rfl
      rw [if_pos hvalid]
      exact hkeep.congr (iff_of_true trivial fun h => absurd hvalid (by simp [h]))
    · have hdelete : Handles s (s'.note [s.deleteEvent p]) (∀ q ∈ [p], s.live q = false) :=
        handles_of_delete rfl hheld rfl
      rw [if_neg hvalid]
      exact hdelete.congr (by simp [hvalid])

/-- The JPEG thread passes a copy on, or deletes it if pictures are cancelled. -/
lemma handles_jpegEncode (s : AppCallbackNotifier) (memory : Bool) :
    Handles s (s.jpegEncode memory) (∀ p ∈ s.mJpegQ.head?,
      s.jpegThread.mPictureValid = false → s.live p = false) := by
  unfold jpegEncode
  cases hq : s.mJpegQ with
  | nil => exact (handles_of_keep rfl (List.Perm.refl _) rfl).congr (by simp)
  | cons p rest =>
    simp only [List.head?_cons, Option.mem_some_iff, forall_eq']
    set s' : AppCallbackNotifier := { s with mJpegQ := rest } with hs'
    have hheld : s.custody.held.Perm (p :: s'.custody.held) := held_of_mJpegQ hq
    by_cases hvalid : s.jpegThread.mPictureValid
    · have hkeep : Handles s (s'.encodePictureFrame p memory) True :=
        handles_of_keep rfl
          (hheld.trans (held_sendToFrameQ s' (.PROCESS_MEMORY_FRAME p _)).symm) rfl
      rw [if_pos (show s'.jpegThread.mPictureValid from hvalid)]
      exact hkeep.congr (iff_of_true trivial fun h => absurd hvalid (by simp [h]))
    · have hdelete : Handles s (s'.note [s'.deleteEvent p]) (∀ q ∈ [p], s.live q = false) :=
        handles_of_delete rfl hheld rfl
      rw [if_neg (show ¬ s'.jpegThread.mPictureValid from hvalid)]
      exact hdelete.congr (by simp [hvalid])

/-! ### The notification thread -/

/-- The notification thread takes a message from its queue. -/
lemma held_of_mFrameQ {s : AppCallbackNotifier} {msg : FrameMessage} {rest : List FrameMessage}
    (hq : s.mFrameQ = msg :: rest) :
    s.custody.held.Perm (msg.frame :: { s with mFrameQ := rest }.custody.held) := by
  simp only [custody, hq, List.map_cons, List.cons_append, List.Perm.refl]

/-- A frame that is handed to the encoder is a recording frame. -/
lemma typeOf_of_isVideo {s : AppCallbackNotifier} {p : ℕ} (h : isVideo s.settings (s.frame p)) :
    s.typeOf p = .VIDEO_FRAME_SYNC := by
  simp only [isVideo, Bool.and_eq_true, beq_iff_eq] at h
  exact h.1.1.1

/-- The memory handed to the application says nothing about what becomes of a copy. -/
lemma filter_dataCallbacks (s : AppCallbackNotifier) (p index q : ℕ) :
    (s.dataCallbacks p index).filter (NotifierEvent.about q) = [] := by
  by_cases hc : s.settings.mCameraHal ∧ s.settings.mDataCb ∧ s.settings.started
  · simp only [dataCallbacks, hc, and_self, not_true_eq_false, if_false]
    cases s.typeOf p <;> simp only <;> (try split_ifs) <;> rfl
  · simp only [dataCallbacks, hc, not_false_eq_true, if_true, List.filter_nil]

/-- The events of one message are about its copy. -/
lemma filter_notifyEvents_of_ne {s : AppCallbackNotifier} {metadata : Bool} {msg : FrameMessage}
    {q : ℕ} (hq : q ≠ msg.frame) :
    (s.notifyEvents metadata msg).filter (NotifierEvent.about q) = [] := by
  cases msg with
  | PROCESS_FRAME p =>
    have hne : p ≠ q := hq.symm
    simp only [notifyEvents]
    split_ifs <;> simp [deleteEvent, NotifierEvent.about, hne]
  | PROCESS_MEMORY_FRAME p memory =>
    have hne : p ≠ q := hq.symm
    cases memory with
    | none => simp [notifyEvents, returnEvent, deleteEvent, NotifierEvent.about, hne]
    | some index =>
      simp only [notifyEvents]
      split_ifs <;>
        simp [filter_dataCallbacks, returnEvent, deleteEvent, NotifierEvent.about, hne]

/-- A frame without memory is discharged if it is handed to the encoder or its subscription had
ended. -/
lemma discharged_processFrame_iff (s : AppCallbackNotifier) (metadata : Bool) (p : ℕ) :
    s.Discharged p ((s.notifyEvents metadata (.PROCESS_FRAME p)).filter
        (NotifierEvent.about p)) ↔
      (s.recordsMetadata p metadata = false → s.live p = false) := by
  by_cases hrec : s.recordsMetadata p metadata
  · have hvideo : s.typeOf p = .VIDEO_FRAME_SYNC := by
      simp only [recordsMetadata, Bool.and_eq_true] at hrec
      exact typeOf_of_isVideo hrec.1.1.1
    have hevents : (s.notifyEvents metadata (.PROCESS_FRAME p)).filter (NotifierEvent.about p) =
        [.dataCbTimestamp p 0, s.deleteEvent p] := by
      simp [notifyEvents, hrec, deleteEvent, NotifierEvent.about]
    rw [hevents]
    exact iff_of_true (Or.inr (Or.inl ⟨hvideo, 0, s.live p, rfl⟩)) (by simp [hrec])
  · have hevents : (s.notifyEvents metadata (.PROCESS_FRAME p)).filter (NotifierEvent.about p) =
        [s.deleteEvent p] := by
      simp [notifyEvents, hrec, deleteEvent, NotifierEvent.about]
    rw [hevents]
    simp only [eq_false_of_ne_true hrec, forall_const]
    exact discharged_delete_iff s p (s.live p)

/-- A frame that may have memory is handed to the encoder or returned, and its copy deleted. -/
lemma discharged_processMemoryFrame (s : AppCallbackNotifier) (metadata : Bool) (p : ℕ)
    (memory : Option ℕ) :
    s.Discharged p ((s.notifyEvents metadata (.PROCESS_MEMORY_FRAME p memory)).filter
      (NotifierEvent.about p)) := by
  cases memory with
  | none =>
    refine Or.inl ⟨s.live p, ?_⟩
    simp [notifyEvents, returnEvent, deleteEvent, NotifierEvent.about]
  | some index =>
    by_cases hrec : s.recordsMemory p
    · have hvideo : s.typeOf p = .VIDEO_FRAME_SYNC := by
        simp only [recordsMemory, Bool.and_eq_true] at hrec
        exact typeOf_of_isVideo hrec.1.1
      refine Or.inr (Or.inl ⟨hvideo, index, s.live p, ?_⟩)
      simp [notifyEvents, hrec, deleteEvent, NotifierEvent.about]
    · refine Or.inl ⟨s.live p, ?_⟩
      simp only [notifyEvents, if_neg hrec, List.filter_append, filter_dataCallbacks,
        List.nil_append]
      simp [returnEvent, deleteEvent, NotifierEvent.about]

/-- The notification thread discharges a copy, unless it is a frame without memory that it does
not hand to the encoder. -/
lemma handles_notifyFrame (s : AppCallbackNotifier) (metadata : Bool) :
    Handles s (s.notifyFrame metadata) (∀ msg ∈ s.mFrameQ.head?, ∀ p, msg = .PROCESS_FRAME p →
      s.recordsMetadata p metadata = false → s.live p = false) := by
  unfold notifyFrame
  cases hq : s.mFrameQ with
  | nil => exact (handles_of_keep rfl (List.Perm.refl _) rfl).congr (by simp)
  | cons msg rest =>
    simp only [List.head?_cons, Option.mem_some_iff, forall_eq']
    set s' : AppCallbackNotifier :=
      { s with mFrameQ := rest }.note (s.notifyEvents metadata msg) with hs'
    refine ⟨0, [msg.frame], s.notifyEvents metadata msg, ⟨rfl, ?_, rfl, ?_⟩, List.prefix_rfl,
      fun _ => ?_⟩
    · rw [List.range'_zero, List.append_nil]
      exact held_of_mFrameQ hq
    · intro p hp
      exact filter_notifyEvents_of_ne (fun h => hp (List.mem_singleton.mpr h))
    · simp only [List.mem_singleton, forall_eq]
      cases msg with
      | PROCESS_FRAME p =>
        refine (discharged_processFrame_iff s metadata p).trans ?_
        simp only [FrameMessage.PROCESS_FRAME.injEq, forall_eq']
      | PROCESS_MEMORY_FRAME p memory =>
        exact iff_of_true (discharged_processMemoryFrame s metadata p memory)
          (fun q h => by cases h)

/-! ### Flushes -/

/-- The copies `out` of the resize queue that satisfy a condition are deleted, and nothing else
happens to the copies. -/
structure Flushes (s s' : AppCallbackNotifier) (C : ℕ → Prop) (out : List ℕ) : Prop where
  heap : s'.heap = s.heap
  live : s'.live = s.live
  held : s.custody.held.Perm (out ++ s'.custody.held)
  log : s'.log = s.log ++ out.map s.deleteEvent
  mem_out : ∀ p, p ∈ out ↔ p ∈ s.mResizeQ ∧ C p
  mem_queue : ∀ p, p ∈ s'.mResizeQ ↔ p ∈ s.mResizeQ ∧ ¬ C p

namespace Flushes

variable {s s' s'' : AppCallbackNotifier} {C C' : ℕ → Prop} {out out' : List ℕ}

/-- A flush discharges the copies if none of them belongs to an active subscription. -/
lemma handles (h : Flushes s s' C out) :
    Handles s s' (∀ p ∈ s.mResizeQ, C p → s.live p = false) := by
  refine (handles_of_delete h.heap h.held h.log).congr ?_
  simp only [h.mem_out, and_imp]

/-- The condition may be restated. -/
lemma congr (h : Flushes s s' C out) (hC : ∀ p, C p ↔ C' p) : Flushes s s' C' out where
  heap := h.heap
  live := h.live
  held := h.held
  log := h.log
  mem_out p := by rw [h.mem_out, hC]
  mem_queue p := by rw [h.mem_queue, hC]

/-- A flush keeps the frame types. -/
lemma typeOf_eq (h : Flushes s s' C out) (p : ℕ) : s'.typeOf p = s.typeOf p := by
  simp only [typeOf, frame, h.heap]

/-- Flushes compose. -/
lemma trans (h : Flushes s s' C out) (h' : Flushes s' s'' C' out') :
    Flushes s s'' (fun p => C p ∨ C' p) (out ++ out') where
  heap := h'.heap.trans h.heap
  live := h'.live.trans h.live
  held := by
    rw [List.append_assoc]
    exact h.held.trans (h'.held.append_left out)
  log := by
    have hdelete : s'.deleteEvent = s.deleteEvent := by
      ext p
      simp only [deleteEvent, h.live]
    rw [h'.log, h.log, hdelete, List.map_append, List.append_assoc]
  mem_out p := by
    rw [List.mem_append, h.mem_out, h'.mem_out, h.mem_queue]
    tauto
  mem_queue p := by
    rw [h'.mem_queue, h.mem_queue]
    tauto

/-- A flush that is not asked for does nothing. -/
lemma nothing (s : AppCallbackNotifier) (flags : ThreadFlags) :
    Flushes s { s with resizeThread := flags } (fun _ => False) [] where
  heap := rfl
  live := rfl
  held := List.Perm.refl _
  log := (List.append_nil _).symm
  mem_out p := by simp
  mem_queue p := by simp

/-- A flush that is made if it is asked for. -/
lemma ite (h : Flushes s s' C out) (b : Bool) :
    Flushes s (if b then s' else s) (fun p => b ∧ C p) (if b then out else []) := by
  cases b with
  | true => exact h.congr (by simp)
  | false => exact (nothing s s.resizeThread).congr (by simp)

end Flushes

/-- The flush of one frame type. -/
lemma flushes_flushResizeQForFrame (s : AppCallbackNotifier) (t : FrameType) :
    Flushes s (s.flushResizeQForFrame t) (fun p => s.typeOf p = t)
      (s.mResizeQ.filter fun p => s.typeOf p = t) where
  heap := rfl
  live := rfl
  held := by
    have hparts := (List.filter_append_perm (fun p => decide (s.typeOf p = t)) s.mResizeQ).symm
    simp only [← decide_not] at hparts
    have hrest := (hparts.append_right s.mJpegQ).append_left (s.mFrameQ.map FrameMessage.frame)
    simp only [List.append_assoc] at hrest
    simp only [custody, flushResizeQForFrame, note, List.append_assoc]
    exact hrest.trans (List.perm_append_comm_assoc _ _ _)
  log := rfl
  mem_out p := by simp
  mem_queue p := by simp [flushResizeQForFrame, note]

/-- The flush of the whole queue. -/
lemma flushes_flushResizeQ (s : AppCallbackNotifier) :
    Flushes s s.flushResizeQ (fun _ => True) s.mResizeQ where
  heap := rfl
  live := rfl
  held := by
    simp only [custody, flushResizeQ, note, List.append_nil, List.append_assoc]
    exact List.perm_append_comm_assoc _ _ _
  log := rfl
  mem_out p := by simp
  mem_queue p := by simp [flushResizeQ, note]

/-- The flush of pictures. -/
lemma flushes_flushResizeQForImage (s : AppCallbackNotifier) :
    ∃ out, Flushes s s.flushResizeQForImage (fun p => s.typeOf p = .IMAGE_FRAME_SYNC) out :=
  ⟨_, ((flushes_flushResizeQForFrame s .IMAGE_FRAME_SYNC).trans
    (flushes_flushResizeQForFrame _ .IMAGE_FRAME_SYNC)).congr fun _ => or_self_iff⟩

/-- The flush of the queue in parts. -/
lemma flushes_parts (s : AppCallbackNotifier) (image preview video : Bool) :
    let s₁ := if image then s.flushResizeQForImage else s
    let s₂ := if preview then s₁.flushResizeQForFrame .PREVIEW_FRAME_SYNC else s₁
    let s₃ := if video then s₂.flushResizeQForFrame .VIDEO_FRAME_SYNC else s₂
    ∃ out, Flushes s s₃ (fun p => image ∧ s.typeOf p = .IMAGE_FRAME_SYNC ∨
      preview ∧ s.typeOf p = .PREVIEW_FRAME_SYNC ∨
      video ∧ s.typeOf p = .VIDEO_FRAME_SYNC) out := by
  intro s₁ s₂ s₃
  obtain ⟨out, himage⟩ := flushes_flushResizeQForImage s
  have h₁ : Flushes s s₁ _ _ := himage.ite image
  have h₂ : Flushes s₁ s₂ _ _ :=
    (flushes_flushResizeQForFrame s₁ .PREVIEW_FRAME_SYNC).ite preview
  have h₃ : Flushes s₂ s₃ _ _ := (flushes_flushResizeQForFrame s₂ .VIDEO_FRAME_SYNC).ite video
  refine ⟨_, ((h₁.trans h₂).trans h₃).congr fun p => ?_⟩
  rw [(h₁.trans h₂).typeOf_eq, h₁.typeOf_eq, or_assoc]

/-- What the resize thread's flush deletes: the frame types that the flush asks for, or the whole
queue. -/
lemma flushes_resizeFlush (s : AppCallbackNotifier) (flush : BitVec 32) :
    ∃ out, Flushes s (s.resizeFlush flush) (fun p =>
      flushForImage flush s.resizeThread ∧ s.typeOf p = .IMAGE_FRAME_SYNC ∨
        flushForPreview flush s.resizeThread ∧ s.typeOf p = .PREVIEW_FRAME_SYNC ∨
        flushForVideo flush s.resizeThread ∧ s.typeOf p = .VIDEO_FRAME_SYNC ∨
        flushForImage flush s.resizeThread ∧ flushForPreview flush s.resizeThread ∧
          flushForVideo flush s.resizeThread) out := by
  have hflags := Flushes.nothing s (flagsAfter flush s.resizeThread)
  unfold resizeFlush
  generalize flushForImage flush s.resizeThread = image
  generalize flushForPreview flush s.resizeThread = preview
  generalize flushForVideo flush s.resizeThread = video
  by_cases hall : image && preview && video
  · simp only [if_pos hall]
    refine ⟨_, (hflags.trans (flushes_flushResizeQ _)).congr fun p => ?_⟩
    simp only [Bool.and_eq_true] at hall
    simp [hall]
  · simp only [if_neg hall]
    obtain ⟨out, hparts⟩ := flushes_parts { s with resizeThread := flagsAfter flush s.resizeThread }
      image preview video
    refine ⟨_, (hflags.trans hparts).congr fun p => ?_⟩
    simp only [hflags.typeOf_eq]
    simp only [Bool.and_eq_true, and_assoc] at hall
    simp only [false_or, hall, or_false]

/-- The resize thread's flush discharges the copies if none of those that it deletes belongs to
an active subscription. -/
lemma handles_resizeFlush (s : AppCallbackNotifier) (flush : BitVec 32) :
    Handles s (s.resizeFlush flush) (∀ p ∈ s.mResizeQ,
      (flushForImage flush s.resizeThread ∧ s.typeOf p = .IMAGE_FRAME_SYNC ∨
        flushForPreview flush s.resizeThread ∧ s.typeOf p = .PREVIEW_FRAME_SYNC ∨
        flushForVideo flush s.resizeThread ∧ s.typeOf p = .VIDEO_FRAME_SYNC ∨
        flushForImage flush s.resizeThread ∧ flushForPreview flush s.resizeThread ∧
          flushForVideo flush s.resizeThread) → s.live p = false) := by
  obtain ⟨out, h⟩ := flushes_resizeFlush s flush
  exact h.handles

/-- The JPEG thread's flush. -/
lemma handles_jpegFlush (s : AppCallbackNotifier) (flush : BitVec 32) :
    Handles s (s.jpegFlush flush)
      (flushForImage flush s.jpegThread → ∀ p ∈ s.mJpegQ, s.live p = false) := by
  unfold jpegFlush
  by_cases himage : flushForImage flush s.jpegThread
  · simp only [himage, if_true, forall_const]
    refine handles_of_delete rfl ?_ rfl
    simp only [custody, flushJpegQ, note, List.append_nil]
    exact List.perm_append_comm
  · have hkeep : Handles s { s with jpegThread := flagsAfter flush s.jpegThread } True :=
      handles_of_keep rfl (List.Perm.refl _) rfl
    simp only [himage]
    exact hkeep.congr (by simp)

/-- The flush of the frame queue. -/
lemma handles_flushFrames (s : AppCallbackNotifier) :
    Handles s s.flushFrames (∀ msg ∈ s.mFrameQ, s.live msg.frame = false) := by
  have hdelete : Handles s s.flushFrames
      (∀ p ∈ s.mFrameQ.map FrameMessage.frame, s.live p = false) := by
    refine handles_of_delete rfl ?_ ?_
    · simp only [custody, flushFrames, note, List.map_nil, List.nil_append, List.append_assoc,
        List.Perm.refl]
    · simp only [flushFrames, note, List.map_map]
      rfl
  exact hdelete.congr List.forall_mem_map

/-! ### Runs -/

/-- Every step discharges the copies that leave in it exactly if it is careful. -/
lemma handles_step (s : AppCallbackNotifier) (a : Action) :
    Handles s (s.step a) (s.Careful a) := by
  cases a with
  | frameCallback f => exact handles_frameCallback s f
  | resizeFrame memory => exact handles_resizeFrame s memory
  | jpegEncode memory => exact handles_jpegEncode s memory
  | notifyFrame metadata => exact handles_notifyFrame s metadata
  | resizeFlush flush => exact handles_resizeFlush s flush
  | jpegFlush flush => exact handles_jpegFlush s flush
  | flushFrames => exact handles_flushFrames s
  | enableFrameNotification t => exact handles_of_keep rfl (List.Perm.refl _) rfl
  | disableFrameNotification t => exact handles_of_keep rfl (List.Perm.refl _) rfl
  | setRecording recording => exact handles_of_keep rfl (List.Perm.refl _) rfl
  | releaseRecordingFrame frameBuf =>
    exact handles_of_stay rfl (List.Perm.refl _) rfl fun _ => rfl
  | setSettings settings => exact handles_of_keep rfl (List.Perm.refl _) rfl

/-- A step keeps track of the copies in the queues. -/
lemma tracked_step (s : AppCallbackNotifier) (a : Action)
    (ht : s.custody.Tracked NotifierEvent.about) :
    (s.step a).custody.Tracked NotifierEvent.about :=
  (handles_step s a).tracked ht

/-- **A step discharges the copies that leave in it exactly if it is careful.** -/
theorem accounted_step_iff {s : AppCallbackNotifier} (a : Action)
    (ht : s.custody.Tracked NotifierEvent.about) (ha : s.Accounted) :
    (s.step a).Accounted ↔ s.Careful a :=
  (handles_step s a).accounted_iff ht ha

/-- A notifier before its first frame. The constructors of the threads leave `mVideoValid` as it
is, so the flags may be anything. -/
def create (settings : NotifierSettings) (resizeThread jpegThread : ThreadFlags) :
    AppCallbackNotifier where
  settings := settings
  mRecording := false
  resizeThread := resizeThread
  jpegThread := jpegThread
  mFrameQ := []
  mResizeQ := []
  mJpegQ := []
  heap := []
  subscribed := fun _ => false
  live := fun _ => false
  log := []

/-- There are no copies at first. -/
lemma tracked_create (settings : NotifierSettings) (resizeThread jpegThread : ThreadFlags) :
    (create settings resizeThread jpegThread).custody.Tracked NotifierEvent.about where
  nodup := List.nodup_nil
  held_lt _ hp := absurd hp List.not_mem_nil
  silent _ _ := rfl

/-- **A run discharges all copies that leave if and only if all its steps are careful.**

**Proof sketch.** The copies in the queues are tracked in every state, so a step that keeps the
log complete is one that discharges the copies that leave in it, which is what a careful step
does; the rest is the exact invariant rule. -/
theorem always_accounted_iff (settings : NotifierSettings) (resizeThread jpegThread : ThreadFlags)
    (run : List Action) :
    StepRun.Always step Accounted (create settings resizeThread jpegThread) run ↔
      StepRun.Along step Careful (create settings resizeThread jpegThread) run :=
  StepRun.always_iff_along tracked_step (fun _ a ht ha => accounted_step_iff a ht ha)
    (tracked_create settings resizeThread jpegThread)
    (fun _ hp => absurd hp (Nat.not_lt_zero _))

/-- `stopRecording` is careful: the subscription to recording frames has ended before their copies
are deleted, and no other copies are. -/
theorem along_careful_stopRecording (s : AppCallbackNotifier) :
    StepRun.Along step Careful s s.stopRecording := by
  unfold stopRecording
  by_cases hrec : s.mRecording
  · rw [if_neg (not_not.mpr hrec)]
    refine ⟨trivial, trivial, ?_, ?_, trivial⟩
    · intro p hp hflush
      have himage : flushForImage VIDEO_STOP_FLUSH s.resizeThread = false := by
        simp [flushForImage, flushes, VIDEO_STOP_FLUSH, CAPTURE_START_FLUSH, CAPTURE_STOP_FLUSH]
      have hpreview : flushForPreview VIDEO_STOP_FLUSH s.resizeThread = false := by
        simp [flushForPreview, flushes, VIDEO_STOP_FLUSH, PREVIEW_START_FLUSH, PREVIEW_STOP_FLUSH]
      rcases hflush with ⟨h, -⟩ | ⟨h, -⟩ | ⟨-, htype⟩ | ⟨h, -⟩
      · exact absurd (himage.symm.trans h) (by decide)
      · exact absurd (hpreview.symm.trans h) (by decide)
      · have htype' : s.typeOf p = .VIDEO_FRAME_SYNC := htype
        simp [step, htype']
      · exact absurd (himage.symm.trans h) (by decide)
    · intro hflush
      have himage : flushForImage VIDEO_STOP_FLUSH s.jpegThread = false := by
        simp [flushForImage, flushes, VIDEO_STOP_FLUSH, CAPTURE_START_FLUSH, CAPTURE_STOP_FLUSH]
      exact absurd (himage.symm.trans hflush) (by decide)
  · rw [if_pos hrec]
    trivial

/-- A flush that asks for every kind of frame deletes the whole queue. -/
lemma resizeFlush_of_all {s : AppCallbackNotifier} {flush : BitVec 32}
    (himage : flushForImage flush s.resizeThread) (hpreview : flushForPreview flush s.resizeThread)
    (hvideo : flushForVideo flush s.resizeThread) :
    s.resizeFlush flush =
      { s with resizeThread := flagsAfter flush s.resizeThread }.flushResizeQ := by
  simp only [resizeFlush, himage, hpreview, hvideo, Bool.and_self, if_true]

/-- **`stopPreviewCallbacks` ends the subscription to preview frames only, but deletes all copies:
it is careful exactly if no copy of another kind belongs to an active subscription.** -/
theorem along_careful_stopPreviewCallbacks_iff (s : AppCallbackNotifier) :
    StepRun.Along step Careful s stopPreviewCallbacks ↔
      ∀ p ∈ s.custody.held, s.live p → s.typeOf p = .PREVIEW_FRAME_SYNC := by
  set flush := PREVIEW_STOP_FLUSH ||| CAPTURE_STOP_FLUSH ||| VIDEO_STOP_FLUSH with hflush
  have himage : ∀ flags, flushForImage flush flags = true := by
    intro flags
    simp [flushForImage, flushes, hflush, PREVIEW_STOP_FLUSH, CAPTURE_STOP_FLUSH,
      VIDEO_STOP_FLUSH]
  have hpreview : ∀ flags, flushForPreview flush flags = true := by
    intro flags
    simp [flushForPreview, flushes, hflush, PREVIEW_STOP_FLUSH, CAPTURE_STOP_FLUSH,
      VIDEO_STOP_FLUSH]
  have hvideo : ∀ flags, flushForVideo flush flags = true := by
    intro flags
    simp [flushForVideo, flushes, hflush, PREVIEW_STOP_FLUSH, CAPTURE_STOP_FLUSH,
      VIDEO_STOP_FLUSH]
  have hended : ∀ p, (s.live p && s.typeOf p != .PREVIEW_FRAME_SYNC) = false ↔
      (s.live p → s.typeOf p = .PREVIEW_FRAME_SYNC) := by
    intro p
    cases s.live p <;> simp
  have hmem : ∀ p, p ∈ s.custody.held ↔
      (∃ msg ∈ s.mFrameQ, msg.frame = p) ∨ p ∈ s.mResizeQ ∨ p ∈ s.mJpegQ := by
    intro p
    simp only [custody, List.mem_append, List.mem_map, or_assoc]
  -- the queues and the subscriptions stay as they are until each queue is flushed
  simp only [stopPreviewCallbacks, StepRun.Along, Careful, true_and, and_true, ← hflush, step,
    resizeFlush_of_all (himage _) (hpreview _) (hvideo _), jpegFlush, himage, hpreview, hvideo,
    flushResizeQ, flushJpegQ, note, if_true, and_self, or_true, forall_const]
  constructor
  · rintro ⟨hresize, hjpeg, hframe⟩ p hp
    rcases (hmem p).mp hp with ⟨msg, hmsg, rfl⟩ | hp | hp
    · exact (hended _).mp (hframe msg hmsg)
    · exact (hended p).mp (hresize p hp)
    · exact (hended p).mp (hjpeg p hp)
  · intro h
    refine ⟨fun p hp => ?_, fun p hp => ?_, fun msg hmsg => ?_⟩
    · exact (hended p).mpr (h p ((hmem p).mpr (Or.inr (Or.inl hp))))
    · exact (hended p).mpr (h p ((hmem p).mpr (Or.inr (Or.inr hp))))
    · exact (hended _).mpr (h _ ((hmem _).mpr (Or.inl ⟨msg, hmsg, rfl⟩)))

/-- Settings of a camera service that wants recording frames. -/
def recordingSettings : NotifierSettings where
  mCameraHal := true
  mNotifyCb := true
  mDataCb := true
  mDataCbTimestamp := true
  msgTypeEnabled := fun _ => true
  started := true
  mUseMetaDataBufferMode := false

/-- A recording frame. -/
def recordingFrame : NotifierFrame where
  mCookie := NULL
  mStreamType := .PREVIEW_STREAM_TYPE
  mBuffer := 0x1000
  mVaddr := NULL
  mFrameType := .VIDEO_FRAME_SYNC
  mFormat := .CAMERA_FRAME_FORMAT_YUV420SP
  mQuirks := 0

end AppCallbackNotifier

end CameraHal
