import Gs702aHal.Lib.StepRun
import Gs702aHal.Camera.AdapterState
import Gs702aHal.Camera.SendFrame

set_option relaxedAutoImplicit false
set_option autoImplicit false

/-!
# The buffers of the preview port

The OMX component fills a buffer and gives it to the adapter (`FillBufferDone`); the adapter's
callback handler sends it to the subscribers, and when the last of them has returned it
`fillThisBuffer` gives it back to the component. A buffer that is not sent to anybody is never
returned, so nobody gives it back. This file runs the adapter with arbitrary frames, subscribers
and returns and determines which frames cost the preview port a buffer.

The face detection, image snapshot and video snapshot options are set as in `Android.mk`. The
sizes and quirks of a frame, the counters of frames and the pending 3A settings are left out: they
decide nothing here.

## Main definitions

* `CameraHal.OMXCameraAdapter`, `CameraHal.OMXCameraAdapter.step` — the adapter with its two
  output ports, the buffers that the component has, and the callback queue.
* `CameraHal.OMXCameraAdapter.OMXCameraAdapterFillBufferDone`,
  `CameraHal.OMXCameraAdapter.fillThisBuffer` — the functions of the source.
* `CameraHal.OMXCameraAdapter.Conserved` — every buffer of the preview port is with the
  component, referenced, or in the queue.
* `CameraHal.OMXCameraAdapter.Refills` — the hand-backs of an action succeed.
* `CameraHal.OMXCameraAdapter.Delivered` — the frame that is handled is sent to somebody.

## Main results

* `CameraHal.HubRun.inHand_sendFrame` — after a `sendFrame` a buffer is referenced or handed
  back, if it was before or the `sendFrame` makes a delivery of it.
* `CameraHal.OMXCameraAdapter.always_conserved` — the buffers are conserved throughout every run
  whose hand-backs succeed and whose handled frames are delivered, and throughout no other run
  whose hand-backs succeed.
-/

namespace CameraHal

open Status AdapterState

/-- A call of `BaseCameraAdapter::returnFrame`. -/
structure ReturnCall where
  frameBuf : Ptr
  frameType : FrameType
  streamType : Option StreamType
  deriving DecidableEq, Repr

/-! ### A `sendFrame` while frames are returned -/

namespace HubRun

/-- `BaseCameraAdapter::returnFrame`, by anybody and of any buffer. -/
def returnFrame (r : ReturnCall) (st : HubRun) : HubRun :=
  if r.frameBuf = NULL then st
  else
    let (hub, events) := st.hub.returnFrame r.frameBuf r.frameType r.streamType
    { st with hub := hub, log := st.log ++ events }

/-- The calls of `returnFrame` at each turn. -/
def returnTurns (returns : ℕ → List ReturnCall) : Turns :=
  fun turn st => (returns turn).foldl (fun st r => st.returnFrame r) st

/-- The buffer is referenced, or it has been handed back. -/
def InHand (st : HubRun) (s : StreamType) (b : Ptr) : Prop :=
  st.hub.Referenced s b ∨ ∃ t, .fillThisBuffer b t s ∈ st.log

/-- Nothing but returns lies between two states: the tables stay, and no buffer is lost or
found. -/
structure OnlyReturns (st st' : HubRun) : Prop where
  counted : st.hub.Counted → st'.hub.Counted
  tables : ∀ frame, SameTables frame st.hub st'.hub
  inHand : st.hub.Counted → ∀ s b, st'.InHand s b ↔ st.InHand s b

namespace OnlyReturns

/-- Nothing happens. -/
lemma refl (st : HubRun) : OnlyReturns st st := ⟨id, fun _ => ⟨rfl, rfl⟩, fun _ _ _ => Iff.rfl⟩

/-- Returns follow returns. -/
lemma trans {st st' st'' : HubRun} (h : OnlyReturns st st') (h' : OnlyReturns st' st'') :
    OnlyReturns st st'' :=
  ⟨fun hc => h'.counted (h.counted hc), fun frame => (h.tables frame).trans (h'.tables frame),
    fun hc s b => (h'.inHand (h.counted hc) s b).trans (h.inHand hc s b)⟩

/-- A reference is dropped, with the hand-back that goes with it. -/
lemma decRefCount {st st' : HubRun} (s : StreamType) (b : Ptr) (t : FrameType)
    (hhub : st'.hub = (st.hub.decRefCount s b t).1)
    (hlog : st'.log = st.log ++ (st.hub.decRefCount s b t).2) : OnlyReturns st st' where
  counted hc := hhub ▸ hc.decRefCount s b t
  tables frame := hhub ▸ sameTables_decRefCount frame st.hub s b t
  inHand hc s' b' := by
    have hdec := hc.referenced_decRefCount s s' b b' t
    simp only [InHand, hhub, hlog, List.mem_append, exists_or]
    rw [← hdec, or_right_comm, or_assoc]

/-- The return of a frame. -/
lemma returnFrame (st : HubRun) (r : ReturnCall) : OnlyReturns st (st.returnFrame r) := by
  unfold HubRun.returnFrame
  split_ifs
  · exact refl st
  · obtain ⟨s, hdec⟩ := st.hub.returnFrame_eq r.frameBuf r.frameType r.streamType
    exact decRefCount s r.frameBuf r.frameType (by rw [hdec]) (by rw [hdec])

/-- The returns of a turn. -/
lemma returnTurns (returns : ℕ → List ReturnCall) (turn : ℕ) (st : HubRun) :
    OnlyReturns st (returnTurns returns turn st) :=
  List.foldlRecOn (motive := OnlyReturns st) (returns turn) _ (refl st)
    fun st' h r _ => h.trans (returnFrame st' r)

/-- A delivery, once its reference is taken. -/
lemma deliver (returns : ℕ → List ReturnCall) (st : HubRun) (r : Round) :
    OnlyReturns (st.acquire r.frame) (st.deliver (HubRun.returnTurns returns) r) := by
  have hbefore := returnTurns returns (2 * st.rounds) (st.acquire r.frame)
  refine hbefore.trans (OnlyReturns.trans ?_ (returnTurns returns (2 * st.rounds + 1) _))
  split_ifs
  · cases (HubRun.returnTurns returns (2 * st.rounds) (st.acquire r.frame)).find? st.rounds with
    | none => exact refl _
    | some d =>
      exact decRefCount d.frame.mStreamType d.frame.mBuffer d.frame.mFrameType rfl rfl
  · -- the callback is entered, which hands nothing back
    refine ⟨id, fun _ => ⟨rfl, rfl⟩, fun _ s b => ?_⟩
    simp [InHand, call]

end OnlyReturns

section Deliveries

variable {returns : ℕ → List ReturnCall} {frame : CameraFrame} {st : HubRun}

/-- Deliveries keep the tables. -/
lemma sameTables_deliver (st : HubRun) (r : Round) :
    SameTables frame st.hub (st.deliver (returnTurns returns) r).hub :=
  (SameTables.acquire ⟨rfl, rfl⟩ r.frame).trans ((OnlyReturns.deliver returns st r).tables frame)

/-- Deliveries keep the totals in agreement with the counts. -/
lemma counted_deliver (h : st.hub.Counted) (r : Round) :
    (st.deliver (returnTurns returns) r).hub.Counted :=
  (OnlyReturns.deliver returns st r).counted (h.incRefCount _ _ _)

/-- A delivery of a registered buffer puts that buffer in hand. -/
lemma inHand_deliver (h : st.hub.Counted) {r : Round}
    (hreg : (st.hub.buffer? r.frame.mStreamType r.frame.mBuffer).isSome) (s : StreamType)
    (b : Ptr) : (st.deliver (returnTurns returns) r).InHand s b ↔
      st.InHand s b ∨ s = r.frame.mStreamType ∧ b = r.frame.mBuffer := by
  rw [(OnlyReturns.deliver returns st r).inHand (h.incRefCount _ _ _)]
  simp only [InHand, acquire, CameraStreamHub.referenced_incRefCount, hreg, and_true]
  exact or_right_comm

/-- The deliveries of a `sendFrame` are of the frame's buffer. -/
lemma on_frame_of_mem_rounds {hub : CameraStreamHub} {types : BitVec 32} {r : Round}
    (hr : r ∈ hub.rounds frame types) :
    r.frame.mStreamType = frame.mStreamType ∧ r.frame.mBuffer = frame.mBuffer ∧
      (hub.buffer? frame.mStreamType frame.mBuffer).isSome := by
  obtain ⟨buf, t, hbuf, e, -, hframe⟩ := CameraStreamHub.mem_rounds hr
  rw [hframe, hbuf]
  exact ⟨rfl, rfl, rfl⟩

/-- The state after deliveries of one registered buffer. -/
lemma inHand_foldl_deliver (h : st.hub.Counted) {l : List Round}
    (hl : ∀ r ∈ l, r.frame.mStreamType = frame.mStreamType ∧ r.frame.mBuffer = frame.mBuffer ∧
      (st.hub.buffer? frame.mStreamType frame.mBuffer).isSome) :
    (l.foldl (deliver (returnTurns returns)) st).hub.Counted ∧
      SameTables frame st.hub (l.foldl (deliver (returnTurns returns)) st).hub ∧
      ∀ s b, (l.foldl (deliver (returnTurns returns)) st).InHand s b ↔
        st.InHand s b ∨ (s = frame.mStreamType ∧ b = frame.mBuffer) ∧ l ≠ [] := by
  induction l generalizing st with
  | nil => exact ⟨h, ⟨rfl, rfl⟩, fun s b => by simp⟩
  | cons r l ih =>
    obtain ⟨hstream, hbuffer, hreg⟩ := hl r List.mem_cons_self
    have htables : SameTables frame st.hub (st.deliver (returnTurns returns) r).hub :=
      sameTables_deliver st r
    have hcounted : (st.deliver (returnTurns returns) r).hub.Counted := counted_deliver h r
    obtain ⟨hc, ht, hin⟩ := ih hcounted (by
      intro r' hr'
      rw [htables.isSome_eq]
      exact hl r' (List.mem_cons_of_mem r hr'))
    refine ⟨hc, htables.trans ht, fun s b => ?_⟩
    rw [List.foldl_cons, hin, inHand_deliver h (by rw [hstream, hbuffer]; exact hreg), hstream,
      hbuffer]
    simp only [ne_eq, reduceCtorEq, not_false_eq_true, and_true]
    rw [or_assoc, or_iff_left_of_imp And.left]

/-- **After a `sendFrame`, whatever is returned meanwhile,** a buffer is referenced or handed back
if and only if it was so before or the `sendFrame` made a delivery of it. -/
theorem inHand_sendFrame (st : HubRun) (h : st.hub.Counted) (returns : ℕ → List ReturnCall)
    (frame : CameraFrame) (types : BitVec 32) :
    (st.sendFrame (returnTurns returns) frame types).2.hub.Counted ∧
      SameTables frame st.hub (st.sendFrame (returnTurns returns) frame types).2.hub ∧
      ∀ s b, (st.sendFrame (returnTurns returns) frame types).2.InHand s b ↔
        st.InHand s b ∨
          (s = frame.mStreamType ∧ b = frame.mBuffer) ∧ st.hub.rounds frame types ≠ [] := by
  rw [sendFrame_eq_foldl st fun st' r h' => h'.trans (sameTables_deliver st' r)]
  exact inHand_foldl_deliver h fun r hr => on_frame_of_mem_rounds hr

end Deliveries

end HubRun

namespace CameraStreamHub

/-- A frame type of the mask has a subscriber. -/
def Subscribed (hub : CameraStreamHub) (types : BitVec 32) : Prop :=
  ∃ t : FrameType, t.mask &&& types ≠ 0 ∧ (hub.mSubscribers t).size > 0

instance (hub : CameraStreamHub) (types : BitVec 32) : Decidable (hub.Subscribed types) :=
  inferInstanceAs (Decidable (∃ _ : FrameType, _))

/-- A `sendFrame` makes a delivery exactly if the buffer is registered and a type of the mask has
a subscriber. -/
lemma rounds_ne_nil_iff (hub : CameraStreamHub) (frame : CameraFrame) (types : BitVec 32) :
    hub.rounds frame types ≠ [] ↔
      (hub.buffer? frame.mStreamType frame.mBuffer).isSome ∧ hub.Subscribed types := by
  have htype : ∀ t, hub.typeRounds frame t ≠ [] ↔
      (hub.buffer? frame.mStreamType frame.mBuffer).isSome ∧ (hub.mSubscribers t).size > 0 := by
    intro t
    unfold typeRounds
    cases hub.buffer? frame.mStreamType frame.mBuffer with
    | none => simp
    | some buf =>
      simp only [KeyedVector.size]
      cases (hub.mSubscribers t).entries with
      | nil => simp [streamRounds]
      | cons e rest => simp [streamRounds]
  simp only [rounds, ne_eq, List.flatMap_eq_nil_iff, List.mem_filter, decide_eq_true_eq, not_forall]
  constructor
  · rintro ⟨t, ⟨-, hmask⟩, hne⟩
    obtain ⟨hreg, hsize⟩ := (htype t).mp hne
    exact ⟨hreg, t, hmask, hsize⟩
  · rintro ⟨hreg, t, hmask, hsize⟩
    exact ⟨t, ⟨FrameType.mem_all t, hmask⟩, (htype t).mpr ⟨hreg, hsize⟩⟩

end CameraStreamHub

/-! ### The adapter -/

/-- `OMX_CAMERA_PORT_VIDEO_OUT_PREVIEW`. -/
def OMX_CAMERA_PORT_VIDEO_OUT_PREVIEW : BitVec 32 := 0#32
/-- `OMX_CAMERA_PORT_IMAGE_OUT_IMAGE`. -/
def OMX_CAMERA_PORT_IMAGE_OUT_IMAGE : BitVec 32 := 1#32
/-- `OMX_BUFFERFLAG_ENDOFFRAME`. -/
def OMX_BUFFERFLAG_ENDOFFRAME : BitVec 32 := 0x10#32

/-- The errors that the adapter notifies. -/
inductive CameraError
  | CAMERA_ERROR_UNKNOWN
  | CAMERA_ERROR_HARD
  deriving DecidableEq, Repr

/-- `OMXCameraPortParameters`: whether the port is enabled, and the handles of its buffers
(`mBufferHeader`). -/
structure OMXCameraPortParameters where
  mPortEnable : Bool
  handles : List Ptr

/-- A `CAMERA_FILL_BUFFER_DONE` message: the handle and the flags of the buffer header, and the
port that the header names. -/
structure FilledBuffer where
  handle : Ptr
  nFlags : BitVec 32
  nOutputPortIndex : BitVec 32
  deriving DecidableEq, Repr

/-- The state words and the flags that decide what is sent; other threads set them. -/
structure AdapterControl where
  mAdapterState : AdapterState
  mNextState : AdapterState
  mRecording : Bool
  mFaceDetectionRunning : Bool
  mFaceDetectionPaused : Bool
  mCaptureUsePreviewFrame : Bool
  mCaptureUsePreviewFrameStarted : Bool
  mCapturedFrames : ℕ
  mCaptureSignalled : Bool
  mFlashStrobed : Bool
  mFlashConvergenceFrame : ℤ

/-- The adapter, its ports and its hub, with the component's side: whether the component has not
been freed, and the buffers of the preview port that it was given and has not filled yet. -/
structure OMXCameraAdapter where
  control : AdapterControl
  preview : OMXCameraPortParameters
  image : OMXCameraPortParameters
  hub : CameraStreamHub
  mHandleComp : Bool
  owned : List Ptr
  mOMXCallbackHandler : List FilledBuffer
  errors : List CameraError

/-- What happens around one `sendCallBacks`: the frames returned at its turns, and the answers of
`OMX_FillThisBuffer` to the hand-backs, in their order. -/
structure Surroundings where
  returns : ℕ → List ReturnCall
  omx : ℕ → Status

/-- The surroundings of the two frames that one filled buffer may be sent as, and the status of
`advanceZoom` and `checkFocusStatus`. -/
structure HandlerRun where
  first : Surroundings
  second : Surroundings
  others : Status

namespace OMXCameraAdapter

/-- `getPortParams`. -/
def getPortParams (a : OMXCameraAdapter) : StreamType → OMXCameraPortParameters
  | .PREVIEW_STREAM_TYPE => a.preview
  | .IMAGE_STREAM_TYPE => a.image

/-- `performCleanupAfterError`: the component is freed, with all that it had. -/
def performCleanupAfterError (a : OMXCameraAdapter) : OMXCameraAdapter :=
  { a with mHandleComp := false, owned := [] }

/-- `errorNotify`. -/
def errorNotify (a : OMXCameraAdapter) (error : CameraError) : OMXCameraAdapter :=
  { a with errors := a.errors ++ [error] }

/-- `fillThisBuffer`; `omx` is the answer of `OMX_FillThisBuffer`. A buffer that is not one of the
port's is passed over. -/
def fillThisBuffer (a : OMXCameraAdapter) (omx : Status) (frameBuf : Ptr)
    (streamType : StreamType) : Status × OMXCameraAdapter :=
  if ¬ a.control.mAdapterState.Has PREVIEW_ACTIVE then (NO_INIT, a)
  else if frameBuf = NULL then (EINVAL, a)
  else
    let port := a.getPortParams streamType
    if port.mPortEnable ∧ frameBuf ∈ port.handles then
      if omx ≠ NO_ERROR then (omx, a.performCleanupAfterError.errorNotify .CAMERA_ERROR_HARD)
      else if streamType = .PREVIEW_STREAM_TYPE then
        (NO_ERROR, { a with owned := a.owned ++ [frameBuf] })
      else (NO_ERROR, a)
    else (NO_ERROR, a)

/-- The hand-backs among the events of the hub (`returnFrameCb`). -/
def returnFrameCb : List HubEvent → (ℕ → Status) → OMXCameraAdapter → OMXCameraAdapter
  | [], _, a => a
  | .fillThisBuffer frameBuf _ streamType :: events, omx, a =>
    returnFrameCb events (fun n => omx (n + 1)) (a.fillThisBuffer (omx 0) frameBuf streamType).2
  | .callback .. :: events, omx, a => returnFrameCb events omx a
  | .returned _ :: events, omx, a => returnFrameCb events omx a

/-- `sendCallBacks`, for a frame that is not `NULL`: the status of the hub is not looked at. -/
def sendCallBacks (a : OMXCameraAdapter) (frame : CameraFrame) (mask : BitVec 32)
    (around : Surroundings) : OMXCameraAdapter :=
  let st := ((HubRun.start a.hub).sendFrame (HubRun.returnTurns around.returns) frame mask).2
  returnFrameCb st.log around.omx { a with hub := st.hub }

/-- The frame of a filled buffer, as `initCameraFrame` and the handler fill it in. -/
def cameraFrame (handle : Ptr) (streamType : StreamType) : CameraFrame where
  mBuffer := handle
  mStreamType := streamType
  mVaddr := NULL
  mFrameType := .PREVIEW_FRAME_SYNC
  mCookie := NULL

/-- The mask that a preview frame is sent with. -/
def previewMask (c : AdapterControl) : BitVec 32 :=
  FrameType.PREVIEW_FRAME_SYNC.mask |||
    (if c.mRecording then FrameType.VIDEO_FRAME_SYNC.mask else 0) |||
    (if c.mFaceDetectionRunning ∧ ¬ c.mFaceDetectionPaused then FrameType.FD_FRAME_SYNC.mask
      else 0)

/-- The mask that a captured frame is sent with. -/
def captureMask : BitVec 32 := FrameType.IMAGE_FRAME_SYNC.mask ||| FrameType.RAW_FRAME_SYNC.mask

/-- The preview frame may be the captured picture. -/
def usesPreviewFrame (c : AdapterControl) : Bool :=
  c.mCaptureUsePreviewFrame && c.mCaptureUsePreviewFrameStarted && decide (1 ≤ c.mCapturedFrames)

/-- The wait for the flash to converge: `mFlashConvergenceFrame` is counted down while the flash
is on. -/
def countFlash (a : OMXCameraAdapter) : OMXCameraAdapter :=
  if usesPreviewFrame a.control ∧ a.control.mFlashStrobed then
    { a with control.mFlashConvergenceFrame := a.control.mFlashConvergenceFrame - 1 }
  else a

/-- `needSendCaptureImage`, with the flash counted down. -/
def needSendCaptureImage (c : AdapterControl) : Bool :=
  usesPreviewFrame c && (!c.mFlashStrobed || decide (c.mFlashConvergenceFrame ≤ 0))

/-- The end of the handler at its label `EXIT`. -/
def exit (a : OMXCameraAdapter) (stat : Status) : OMXCameraAdapter :=
  if stat ≠ NO_ERROR then a.errorNotify .CAMERA_ERROR_UNKNOWN else a

/-- `mCaptureSem` is signalled, once. -/
def signalCapture (a : OMXCameraAdapter) : OMXCameraAdapter :=
  { a with control.mCaptureSignalled := true }

/-- A captured frame has been sent; after the last one the flash is stopped. -/
def endCapture (a : OMXCameraAdapter) : OMXCameraAdapter :=
  let a := { a with control.mCapturedFrames := a.control.mCapturedFrames - 1 }
  if a.control.mFlashStrobed ∧ a.control.mCapturedFrames = 0 then
    { a with control.mFlashStrobed := false }
  else a

/-- The part of the handler for captured frames. -/
def sendCapture (a : OMXCameraAdapter) (stat : Status) (frame : CameraFrame)
    (around : Surroundings) : OMXCameraAdapter :=
  if a.control.mCapturedFrames < 1 then a.exit stat
  else if ¬ a.control.mAdapterState.Has CAPTURE_ACTIVE then a.signalCapture.exit stat
  else (a.signalCapture.sendCallBacks frame captureMask around).endCapture

/-- `OMXCameraAdapterFillBufferDone`, the handler of a filled buffer. -/
def OMXCameraAdapterFillBufferDone (a : OMXCameraAdapter) (m : FilledBuffer) (r : HandlerRun) :
    OMXCameraAdapter :=
  if m.nOutputPortIndex = OMX_CAMERA_PORT_VIDEO_OUT_PREVIEW then
    if ¬ a.preview.mPortEnable then a
    else if m.nFlags &&& OMX_BUFFERFLAG_ENDOFFRAME = 0 then a
    else if ¬ a.control.mAdapterState.Has PREVIEW_ACTIVE ∧
        ¬ a.control.mNextState.Has PREVIEW_ACTIVE then a
    else
      let frame := cameraFrame m.handle .PREVIEW_STREAM_TYPE
      let a := (a.sendCallBacks frame (previewMask a.control) r.first).countFlash
      if needSendCaptureImage a.control then a.sendCapture r.others frame r.second else a
  else if m.nOutputPortIndex = OMX_CAMERA_PORT_IMAGE_OUT_IMAGE then
    if ¬ a.image.mPortEnable then a
    else if m.nFlags &&& OMX_BUFFERFLAG_ENDOFFRAME = 0 then a
    else a.sendCapture NO_ERROR (cameraFrame m.handle .IMAGE_STREAM_TYPE) r.second
  else a

/-- What happens to the adapter: the component fills a buffer (`none` if it gives a `NULL` header
or one without a buffer), the callback handler takes a message, a frame is returned, a subscriber
comes or goes, or another thread sets the state words and flags. -/
inductive Action
  | fillBufferDone (header : Option FilledBuffer)
  | handler (r : HandlerRun)
  | returnFrame (r : ReturnCall) (omx : Status)
  | subscribe (frameTypeIndex : ℕ) (callback cookie : Ptr)
  | unsubscribe (frameTypeIndex : ℕ) (cookie : Ptr) (omx : ℕ → Status)
  | setControl (control : AdapterControl)

/-- One action. -/
def step (a : OMXCameraAdapter) : Action → OMXCameraAdapter
  | .fillBufferDone none => a
  | .fillBufferDone (some m) =>
    { a with owned := a.owned.erase m.handle, mOMXCallbackHandler := a.mOMXCallbackHandler ++ [m] }
  | .handler r =>
    match a.mOMXCallbackHandler with
    | [] => a
    | m :: rest => { a with mOMXCallbackHandler := rest }.OMXCameraAdapterFillBufferDone m r
  | .returnFrame r omx =>
    let st := (HubRun.start a.hub).returnFrame r
    returnFrameCb st.log (fun _ => omx) { a with hub := st.hub }
  | .subscribe i callback cookie => { a with hub := (a.hub.subscribe i callback cookie).2 }
  | .unsubscribe i cookie omx =>
    let (_, hub, events) := a.hub.unsubscribe i cookie
    returnFrameCb events omx { a with hub := hub }
  | .setControl control => { a with control := control }

/-! ### Conservation -/

/-- The buffer is with the component or referenced in the preview stream. -/
def Held (a : OMXCameraAdapter) (b : Ptr) : Prop :=
  b ∈ a.owned ∨ a.hub.Referenced .PREVIEW_STREAM_TYPE b

/-- The buffer is with the component, referenced, or waiting in the callback queue. -/
def Kept (a : OMXCameraAdapter) (b : Ptr) : Prop :=
  a.Held b ∨ ∃ m ∈ a.mOMXCallbackHandler, m.handle = b

/-- No buffer of the preview port is lost. -/
def Conserved (a : OMXCameraAdapter) : Prop := ∀ b ∈ a.preview.handles, a.Kept b

instance (a : OMXCameraAdapter) (b : Ptr) : Decidable (a.Held b) :=
  inferInstanceAs (Decidable (_ ∨ ∃ t : FrameType, 0 < a.hub.refCount .PREVIEW_STREAM_TYPE b t))

instance (a : OMXCameraAdapter) (b : Ptr) : Decidable (a.Kept b) :=
  inferInstanceAs (Decidable (_ ∨ _))

instance (a : OMXCameraAdapter) : Decidable a.Conserved :=
  inferInstanceAs (Decidable (∀ b ∈ a.preview.handles, a.Kept b))

/-- The preview port is enabled and the reference counts are in order. -/
structure Ready (a : OMXCameraAdapter) : Prop where
  enabled : a.preview.mPortEnable = true
  handles : NULL ∉ a.preview.handles
  counted : a.hub.Counted

/-- The hand-backs of the action succeed: the adapter is in a preview state, and the component
accepts its buffers. -/
def Refills (a : OMXCameraAdapter) : Action → Prop
  | .handler r => a.control.mAdapterState.Has PREVIEW_ACTIVE ∧
      (∀ n, r.first.omx n = NO_ERROR) ∧ ∀ n, r.second.omx n = NO_ERROR
  | .returnFrame _ omx => a.control.mAdapterState.Has PREVIEW_ACTIVE ∧ omx = NO_ERROR
  | .unsubscribe _ _ omx => a.control.mAdapterState.Has PREVIEW_ACTIVE ∧ ∀ n, omx n = NO_ERROR
  | _ => True

/-- The handler sends the filled buffer as a frame that somebody has subscribed to. -/
def Sent (a : OMXCameraAdapter) (m : FilledBuffer) : Prop :=
  m.nOutputPortIndex = OMX_CAMERA_PORT_VIDEO_OUT_PREVIEW ∧
    m.nFlags &&& OMX_BUFFERFLAG_ENDOFFRAME ≠ 0 ∧
    (a.hub.buffer? .PREVIEW_STREAM_TYPE m.handle).isSome ∧
    (a.hub.Subscribed (previewMask a.control) ∨
      needSendCaptureImage a.countFlash.control ∧
        a.control.mAdapterState.Has CAPTURE_ACTIVE ∧ a.hub.Subscribed captureMask)

/-- A buffer of the preview port that the handler takes from the queue is sent to somebody, or is
elsewhere as well. -/
def Delivered (a : OMXCameraAdapter) : Action → Prop
  | .handler _ =>
    match a.mOMXCallbackHandler with
    | [] => True
    | m :: rest => m.handle ∈ a.preview.handles →
      a.Sent m ∨ a.Held m.handle ∨ ∃ m' ∈ rest, m'.handle = m.handle
  | _ => True

/-! ### Hand-backs -/

section HandBacks

variable (a : OMXCameraAdapter)

/-- `fillThisBuffer` changes what the component has, and notifies errors. -/
lemma fillThisBuffer_frame (omx : Status) (frameBuf : Ptr) (streamType : StreamType) :
    ∃ owned comp errors, (a.fillThisBuffer omx frameBuf streamType).2 =
      { a with owned := owned, mHandleComp := comp, errors := errors } := by
  simp only [fillThisBuffer]
  split_ifs
  · exact ⟨a.owned, a.mHandleComp, a.errors, rfl⟩
  · exact ⟨[], false, a.errors ++ [.CAMERA_ERROR_HARD], rfl⟩
  · exact ⟨a.owned ++ [frameBuf], a.mHandleComp, a.errors, rfl⟩
  all_goals exact ⟨a.owned, a.mHandleComp, a.errors, rfl⟩

/-- Hand-backs change what the component has, and notify errors. -/
lemma returnFrameCb_frame (events : List HubEvent) (omx : ℕ → Status) :
    ∃ owned comp errors, returnFrameCb events omx a =
      { a with owned := owned, mHandleComp := comp, errors := errors } := by
  induction events generalizing a omx with
  | nil => exact ⟨a.owned, a.mHandleComp, a.errors, rfl⟩
  | cons e events ih =>
    cases e with
    | callback k callback frame => exact ih a omx
    | returned k => exact ih a omx
    | fillThisBuffer frameBuf t streamType =>
      obtain ⟨owned, comp, errors, hfill⟩ := a.fillThisBuffer_frame (omx 0) frameBuf streamType
      obtain ⟨owned', comp', errors', hrest⟩ :=
        ih (a.fillThisBuffer (omx 0) frameBuf streamType).2 (fun n => omx (n + 1))
      refine ⟨owned', comp', errors', ?_⟩
      rw [returnFrameCb, hrest, hfill]

variable (events : List HubEvent) (omx : ℕ → Status)

@[simp] lemma returnFrameCb_control : (returnFrameCb events omx a).control = a.control := by
  obtain ⟨owned, comp, errors, h⟩ := a.returnFrameCb_frame events omx
  rw [h]

@[simp] lemma returnFrameCb_preview : (returnFrameCb events omx a).preview = a.preview := by
  obtain ⟨owned, comp, errors, h⟩ := a.returnFrameCb_frame events omx
  rw [h]

@[simp] lemma returnFrameCb_hub : (returnFrameCb events omx a).hub = a.hub := by
  obtain ⟨owned, comp, errors, h⟩ := a.returnFrameCb_frame events omx
  rw [h]

@[simp] lemma returnFrameCb_mOMXCallbackHandler :
    (returnFrameCb events omx a).mOMXCallbackHandler = a.mOMXCallbackHandler := by
  obtain ⟨owned, comp, errors, h⟩ := a.returnFrameCb_frame events omx
  rw [h]

end HandBacks

/-- In a preview state, a buffer of the preview port that the component accepts is with the
component afterwards. -/
lemma mem_owned_fillThisBuffer {a : OMXCameraAdapter} (hready : Ready a)
    (hstate : a.control.mAdapterState.Has PREVIEW_ACTIVE) {b : Ptr}
    (hb : b ∈ a.preview.handles) (frameBuf : Ptr) (streamType : StreamType) :
    b ∈ (a.fillThisBuffer NO_ERROR frameBuf streamType).2.owned ↔
      b ∈ a.owned ∨ b = frameBuf ∧ streamType = .PREVIEW_STREAM_TYPE := by
  have hne : b ≠ NULL := fun h => hready.handles (h ▸ hb)
  by_cases hon : b = frameBuf ∧ streamType = .PREVIEW_STREAM_TYPE
  · obtain ⟨rfl, rfl⟩ := hon
    simp [fillThisBuffer, hstate, hne, getPortParams, hready.enabled, hb]
  · simp only [fillThisBuffer]
    split_ifs <;> simp_all

/-- In a preview state, the component has the buffers of the preview port that were handed back
to it. -/
lemma mem_owned_returnFrameCb {a : OMXCameraAdapter} (hready : Ready a)
    (hstate : a.control.mAdapterState.Has PREVIEW_ACTIVE) {b : Ptr}
    (hb : b ∈ a.preview.handles) (events : List HubEvent) {omx : ℕ → Status}
    (homx : ∀ n, omx n = NO_ERROR) :
    b ∈ (returnFrameCb events omx a).owned ↔
      b ∈ a.owned ∨ ∃ t, .fillThisBuffer b t .PREVIEW_STREAM_TYPE ∈ events := by
  induction events generalizing a omx with
  | nil => simp [returnFrameCb]
  | cons e events ih =>
    cases e with
    | callback k callback frame =>
      rw [returnFrameCb, ih hready hstate hb homx]
      simp
    | returned k =>
      rw [returnFrameCb, ih hready hstate hb homx]
      simp
    | fillThisBuffer frameBuf t streamType =>
      have hmem := mem_owned_fillThisBuffer hready hstate hb frameBuf streamType
      obtain ⟨owned, comp, errors, hfill⟩ := a.fillThisBuffer_frame NO_ERROR frameBuf streamType
      rw [hfill] at hmem
      rw [returnFrameCb, homx 0, hfill]
      rw [ih (a := { a with owned := owned, mHandleComp := comp, errors := errors })
        ⟨hready.enabled, hready.handles, hready.counted⟩ hstate hb fun n => homx (n + 1), hmem]
      simp only [List.mem_cons, HubEvent.fillThisBuffer.injEq, exists_or]
      constructor
      · rintro ((hown | ⟨rfl, rfl⟩) | hex)
        · exact Or.inl hown
        · exact Or.inr (Or.inl ⟨t, rfl, rfl, rfl⟩)
        · exact Or.inr (Or.inr hex)
      · rintro (hown | ⟨t', rfl, -, rfl⟩ | hex)
        · exact Or.inl (Or.inl hown)
        · exact Or.inl (Or.inr ⟨rfl, rfl⟩)
        · exact Or.inr hex

/-- What is with the component or referenced after hand-backs: what was, and what the hub still
refers to or handed back. -/
lemma held_returnFrameCb {a : OMXCameraAdapter} (hready : Ready a)
    (hstate : a.control.mAdapterState.Has PREVIEW_ACTIVE) {b : Ptr}
    (hb : b ∈ a.preview.handles) (events : List HubEvent) {omx : ℕ → Status}
    (homx : ∀ n, omx n = NO_ERROR) :
    (returnFrameCb events omx a).Held b ↔ b ∈ a.owned ∨
      (a.hub.Referenced .PREVIEW_STREAM_TYPE b ∨
        ∃ t, .fillThisBuffer b t .PREVIEW_STREAM_TYPE ∈ events) := by
  rw [Held, mem_owned_returnFrameCb hready hstate hb events homx, returnFrameCb_hub,
    or_right_comm, or_assoc]

/-! ### The handler -/

section Handler

variable {a : OMXCameraAdapter} (frame : CameraFrame) (mask : BitVec 32) (around : Surroundings)

@[simp] lemma sendCallBacks_control : (a.sendCallBacks frame mask around).control = a.control :=
  returnFrameCb_control _ _ _

@[simp] lemma sendCallBacks_preview : (a.sendCallBacks frame mask around).preview = a.preview :=
  returnFrameCb_preview _ _ _

@[simp] lemma sendCallBacks_mOMXCallbackHandler :
    (a.sendCallBacks frame mask around).mOMXCallbackHandler = a.mOMXCallbackHandler :=
  returnFrameCb_mOMXCallbackHandler _ _ _

/-- A frame sent keeps the adapter ready, and the tables of its hub. -/
lemma Ready.sendCallBacks (h : Ready a) : Ready (a.sendCallBacks frame mask around) ∧
    HubRun.SameTables frame a.hub (a.sendCallBacks frame mask around).hub := by
  obtain ⟨hc, ht, -⟩ :=
    HubRun.inHand_sendFrame (.start a.hub) h.counted around.returns frame mask
  have hhub := returnFrameCb_hub { a with hub := ((HubRun.start a.hub).sendFrame
    (HubRun.returnTurns around.returns) frame mask).2.hub } ((HubRun.start a.hub).sendFrame
    (HubRun.returnTurns around.returns) frame mask).2.log around.omx
  refine ⟨⟨?_, ?_, ?_⟩, ?_⟩
  · rw [sendCallBacks_preview]
    exact h.enabled
  · rw [sendCallBacks_preview]
    exact h.handles
  · rw [OMXCameraAdapter.sendCallBacks, hhub]
    exact hc
  · rw [OMXCameraAdapter.sendCallBacks, hhub]
    exact ht

/-- **A frame that is sent holds its buffer** exactly if it is delivered to somebody, whatever is
returned meanwhile, and no other buffer is lost or found. -/
lemma held_sendCallBacks (h : Ready a) (hstate : a.control.mAdapterState.Has PREVIEW_ACTIVE)
    {b : Ptr} (hb : b ∈ a.preview.handles) (homx : ∀ n, around.omx n = NO_ERROR) :
    (a.sendCallBacks frame mask around).Held b ↔ a.Held b ∨
      (.PREVIEW_STREAM_TYPE = frame.mStreamType ∧ b = frame.mBuffer) ∧
        (a.hub.buffer? frame.mStreamType frame.mBuffer).isSome ∧ a.hub.Subscribed mask := by
  obtain ⟨hc, -, hin⟩ :=
    HubRun.inHand_sendFrame (.start a.hub) h.counted around.returns frame mask
  have hheld := held_returnFrameCb (a := { a with hub := ((HubRun.start a.hub).sendFrame
    (HubRun.returnTurns around.returns) frame mask).2.hub }) ⟨h.enabled, h.handles, hc⟩ hstate hb
    ((HubRun.start a.hub).sendFrame (HubRun.returnTurns around.returns) frame mask).2.log homx
  have hstart : (HubRun.start a.hub).InHand .PREVIEW_STREAM_TYPE b ↔
      a.hub.Referenced .PREVIEW_STREAM_TYPE b := by
    simp [HubRun.InHand, HubRun.start]
  rw [OMXCameraAdapter.sendCallBacks, hheld, ← HubRun.InHand, hin, hstart,
    HubRun.start, CameraStreamHub.rounds_ne_nil_iff, Held]
  exact or_assoc.symm

/-- What sending a frame does not decide: nothing but the control flags and the errors differ. -/
structure SameBuffers (a a' : OMXCameraAdapter) : Prop where
  owned : a'.owned = a.owned
  hub : a'.hub = a.hub
  preview : a'.preview = a.preview
  queue : a'.mOMXCallbackHandler = a.mOMXCallbackHandler

namespace SameBuffers

variable {a' a'' : OMXCameraAdapter}

/-- Steps that leave the buffers alone compose. -/
lemma trans (h : SameBuffers a a') (h' : SameBuffers a' a'') : SameBuffers a a'' :=
  ⟨h'.owned.trans h.owned, h'.hub.trans h.hub, h'.preview.trans h.preview,
    h'.queue.trans h.queue⟩

/-- The same buffers are held. -/
lemma held_iff (h : SameBuffers a a') (b : Ptr) : a'.Held b ↔ a.Held b := by
  rw [Held, Held, h.owned, h.hub]

/-- The adapter stays ready. -/
lemma ready (h : SameBuffers a a') (hready : Ready a) : Ready a' :=
  ⟨h.preview ▸ hready.enabled, h.preview ▸ hready.handles, h.hub ▸ hready.counted⟩

end SameBuffers

/-- The end of the handler notifies an error at most. -/
lemma sameBuffers_exit (a : OMXCameraAdapter) (stat : Status) : SameBuffers a (a.exit stat) := by
  unfold exit
  split_ifs <;> exact ⟨rfl, rfl, rfl, rfl⟩

/-- The wait for the flash counts frames. -/
lemma sameBuffers_countFlash (a : OMXCameraAdapter) : SameBuffers a a.countFlash := by
  unfold countFlash
  split_ifs <;> exact ⟨rfl, rfl, rfl, rfl⟩

/-- The count of the flash depends on the flags. -/
lemma countFlash_control {a a' : OMXCameraAdapter} (h : a'.control = a.control) :
    a'.countFlash.control = a.countFlash.control := by
  unfold countFlash
  rw [h]
  split_ifs
  · rfl
  · exact h

/-- The count of the flash changes none of the other flags. -/
lemma countFlash_flags (a : OMXCameraAdapter) :
    a.countFlash.control.mAdapterState = a.control.mAdapterState ∧
      a.countFlash.control.mCapturedFrames = a.control.mCapturedFrames ∧
      usesPreviewFrame a.countFlash.control = usesPreviewFrame a.control := by
  unfold countFlash
  split_ifs <;> exact ⟨rfl, rfl, rfl⟩

/-- The signal for a captured frame. -/
lemma sameBuffers_signalCapture (a : OMXCameraAdapter) : SameBuffers a a.signalCapture :=
  ⟨rfl, rfl, rfl, rfl⟩

/-- The end of a captured frame counts it. -/
lemma sameBuffers_endCapture (a : OMXCameraAdapter) : SameBuffers a a.endCapture := by
  unfold endCapture
  simp only
  split_ifs <;> exact ⟨rfl, rfl, rfl, rfl⟩

/-- The part of the handler for captured frames keeps the adapter ready, with its port and its
queue. -/
lemma Ready.sendCapture (h : Ready a) (stat : Status) :
    Ready (a.sendCapture stat frame around) ∧
      (a.sendCapture stat frame around).preview = a.preview ∧
      (a.sendCapture stat frame around).mOMXCallbackHandler = a.mOMXCallbackHandler := by
  unfold OMXCameraAdapter.sendCapture
  have hsignal := sameBuffers_signalCapture a
  split_ifs
  · have hexit := sameBuffers_exit a stat
    exact ⟨hexit.ready h, hexit.preview, hexit.queue⟩
  · have hsent := ((hsignal.ready h).sendCallBacks frame captureMask around).1
    have hend := sameBuffers_endCapture (a.signalCapture.sendCallBacks frame captureMask around)
    refine ⟨hend.ready hsent, ?_, ?_⟩
    · rw [hend.preview, sendCallBacks_preview, hsignal.preview]
    · rw [hend.queue, sendCallBacks_mOMXCallbackHandler, hsignal.queue]
  · have hexit := hsignal.trans (sameBuffers_exit a.signalCapture stat)
    exact ⟨hexit.ready h, hexit.preview, hexit.queue⟩

/-- **A captured frame holds its buffer** exactly if it is due and delivered to somebody. -/
lemma held_sendCapture (h : Ready a) (hstate : a.control.mAdapterState.Has PREVIEW_ACTIVE)
    {b : Ptr} (hb : b ∈ a.preview.handles) (homx : ∀ n, around.omx n = NO_ERROR)
    (stat : Status) :
    (a.sendCapture stat frame around).Held b ↔ a.Held b ∨
      (.PREVIEW_STREAM_TYPE = frame.mStreamType ∧ b = frame.mBuffer) ∧
        1 ≤ a.control.mCapturedFrames ∧ a.control.mAdapterState.Has CAPTURE_ACTIVE ∧
        (a.hub.buffer? frame.mStreamType frame.mBuffer).isSome ∧
        a.hub.Subscribed captureMask := by
  have hsignal := sameBuffers_signalCapture a
  unfold sendCapture
  by_cases hcaptured : a.control.mCapturedFrames < 1
  · rw [if_pos hcaptured, (sameBuffers_exit a stat).held_iff]
    exact (or_iff_left fun hsent => not_le.mpr hcaptured hsent.2.1).symm
  · have hle : 1 ≤ a.control.mCapturedFrames := not_lt.mp hcaptured
    rw [if_neg hcaptured]
    by_cases hcapture : a.control.mAdapterState.Has CAPTURE_ACTIVE
    · rw [if_neg (not_not.mpr hcapture), (sameBuffers_endCapture _).held_iff,
        held_sendCallBacks frame captureMask around (hsignal.ready h) hstate hb homx,
        hsignal.held_iff, hsignal.hub]
      tauto
    · rw [if_pos hcapture, (hsignal.trans (sameBuffers_exit a.signalCapture stat)).held_iff]
      exact (or_iff_left fun hsent => hcapture hsent.2.2.1).symm

/-- The handler keeps the adapter ready, with its port and its queue. -/
lemma Ready.handler (h : Ready a) (m : FilledBuffer) (r : HandlerRun) :
    Ready (a.OMXCameraAdapterFillBufferDone m r) ∧
      (a.OMXCameraAdapterFillBufferDone m r).preview = a.preview ∧
      (a.OMXCameraAdapterFillBufferDone m r).mOMXCallbackHandler = a.mOMXCallbackHandler := by
  have hfirst := (h.sendCallBacks (cameraFrame m.handle .PREVIEW_STREAM_TYPE)
    (previewMask a.control) r.first).1
  have hcount := sameBuffers_countFlash (a.sendCallBacks
    (cameraFrame m.handle .PREVIEW_STREAM_TYPE) (previewMask a.control) r.first)
  obtain ⟨hready, hpreview, hqueue⟩ := (hcount.ready hfirst).sendCapture
    (cameraFrame m.handle .PREVIEW_STREAM_TYPE) r.second r.others
  rw [hcount.preview, sendCallBacks_preview] at hpreview
  rw [hcount.queue, sendCallBacks_mOMXCallbackHandler] at hqueue
  simp only [OMXCameraAdapterFillBufferDone]
  split_ifs
  all_goals first
    | exact ⟨h, rfl, rfl⟩
    | exact ⟨hready, hpreview, hqueue⟩
    | exact h.sendCapture _ _ _
    | exact ⟨hcount.ready hfirst, by rw [hcount.preview, sendCallBacks_preview],
        by rw [hcount.queue, sendCallBacks_mOMXCallbackHandler]⟩

/-- A filled preview frame is sent, and once more if it is the captured picture as well. -/
lemma held_sendPreview (h : Ready a) {r : HandlerRun} (hrefills : a.Refills (.handler r)) {b : Ptr}
    (hb : b ∈ a.preview.handles) {frame : CameraFrame}
    (hframe : frame.mStreamType = .PREVIEW_STREAM_TYPE) {sent : OMXCameraAdapter}
    (hsent : sent = (a.sendCallBacks frame (previewMask a.control) r.first).countFlash) :
    (if needSendCaptureImage sent.control then sent.sendCapture r.others frame r.second
      else sent).Held b ↔
      a.Held b ∨ b = frame.mBuffer ∧ (a.hub.buffer? .PREVIEW_STREAM_TYPE frame.mBuffer).isSome ∧
        (a.hub.Subscribed (previewMask a.control) ∨ needSendCaptureImage a.countFlash.control ∧
          a.control.mAdapterState.Has CAPTURE_ACTIVE ∧ a.hub.Subscribed captureMask) := by
  obtain ⟨hstate, hfirst, hsecond⟩ := hrefills
  -- the first frame
  obtain ⟨hready, htables⟩ := h.sendCallBacks frame (previewMask a.control) r.first
  have hheld := held_sendCallBacks frame (previewMask a.control) r.first h hstate hb hfirst
  have hcount := sameBuffers_countFlash (a.sendCallBacks frame (previewMask a.control) r.first)
  have hcontrol : sent.control = a.countFlash.control := by
    rw [hsent]
    exact countFlash_control (sendCallBacks_control frame _ _)
  obtain ⟨hadapter, hcaptured, huses⟩ := a.countFlash_flags
  rw [← hsent] at hcount
  rw [hframe] at hheld
  rw [hcontrol]
  by_cases hneed : needSendCaptureImage a.countFlash.control = true
  · -- the second frame
    have hle : 1 ≤ a.control.mCapturedFrames := by
      unfold needSendCaptureImage at hneed
      rw [huses, usesPreviewFrame] at hneed
      simp only [Bool.and_eq_true, decide_eq_true_eq] at hneed
      exact hneed.1.2
    have hstate' : sent.control.mAdapterState.Has PREVIEW_ACTIVE := by
      rw [hcontrol, hadapter]
      exact hstate
    have hb' : b ∈ sent.preview.handles := by
      rw [hcount.preview, sendCallBacks_preview]
      exact hb
    have hsubscribed : (a.sendCallBacks frame (previewMask a.control) r.first).hub.Subscribed
        captureMask ↔ a.hub.Subscribed captureMask := by
      unfold CameraStreamHub.Subscribed
      rw [htables.1]
    rw [if_pos hneed, held_sendCapture frame r.second (hcount.ready hready) hstate' hb' hsecond,
      hcount.held_iff, hheld, hcontrol, hadapter, hcaptured, hcount.hub, htables.isSome_eq,
      hsubscribed, hframe]
    constructor
    · rintro ((hb | ⟨⟨-, hb⟩, hreg, hsub⟩) | ⟨⟨-, hb⟩, -, hcapture, hreg, hsub⟩)
      · exact Or.inl hb
      · exact Or.inr ⟨hb, hreg, Or.inl hsub⟩
      · exact Or.inr ⟨hb, hreg, Or.inr ⟨hneed, hcapture, hsub⟩⟩
    · rintro (hb | ⟨hb, hreg, hsub | ⟨-, hcapture, hsub⟩⟩)
      · exact Or.inl (Or.inl hb)
      · exact Or.inl (Or.inr ⟨⟨rfl, hb⟩, hreg, hsub⟩)
      · exact Or.inr ⟨⟨rfl, hb⟩, hle, hcapture, hreg, hsub⟩
  · rw [if_neg hneed, hcount.held_iff, hheld]
    simp only [hneed, true_and, false_and, Bool.false_eq_true, or_false]

/-- **The handler holds the buffer that it is given exactly if it sends it**, and loses and finds
no other buffer of the port.

**Proof sketch.** A frame that is dropped touches nothing. A preview frame is sent once, or twice
if it is the captured picture as well, and each time it holds its buffer if it is delivered. A
frame of the image port is sent in the other stream. -/
theorem held_handler (h : Ready a) (m : FilledBuffer) {r : HandlerRun}
    (hrefills : a.Refills (.handler r)) {b : Ptr} (hb : b ∈ a.preview.handles) :
    (a.OMXCameraAdapterFillBufferDone m r).Held b ↔ a.Held b ∨ b = m.handle ∧ a.Sent m := by
  have hstate := hrefills.1
  unfold Sent
  simp only [OMXCameraAdapterFillBufferDone]
  by_cases hport : m.nOutputPortIndex = OMX_CAMERA_PORT_VIDEO_OUT_PREVIEW
  · simp only [hport, if_true, h.enabled, not_true_eq_false, if_false, true_and, hstate,
      false_and]
    by_cases hflags : m.nFlags &&& OMX_BUFFERFLAG_ENDOFFRAME = 0
    · simp [hflags]
    · simp only [hflags, if_false, ne_eq, not_false_eq_true, true_and]
      exact held_sendPreview h hrefills hb rfl rfl
  · simp only [hport, if_false, false_and, and_false, or_false]
    by_cases himage : m.nOutputPortIndex = OMX_CAMERA_PORT_IMAGE_OUT_IMAGE
    · simp only [himage, if_true]
      split_ifs
      · rfl
      · rw [held_sendCapture _ _ h hstate hb hrefills.2.2]
        simp [cameraFrame]
      · rfl
    · simp only [himage, if_false]

end Handler

/-! ### Runs -/

variable {a : OMXCameraAdapter}

/-- Hand-backs of events that account for the references of a hub before it: the buffers held are
those held before. -/
lemma held_returnFrameCb_of (hready : Ready a)
    (hstate : a.control.mAdapterState.Has PREVIEW_ACTIVE) {b : Ptr}
    (hb : b ∈ a.preview.handles) {hub : CameraStreamHub} {events : List HubEvent}
    (hcounted : hub.Counted) {omx : ℕ → Status} (homx : ∀ n, omx n = NO_ERROR)
    (hevents : (hub.Referenced .PREVIEW_STREAM_TYPE b ∨
      ∃ t, .fillThisBuffer b t .PREVIEW_STREAM_TYPE ∈ events) ↔
        a.hub.Referenced .PREVIEW_STREAM_TYPE b) :
    (returnFrameCb events omx { a with hub := hub }).Held b ↔ a.Held b := by
  rw [held_returnFrameCb (a := { a with hub := hub }) ⟨hready.enabled, hready.handles, hcounted⟩
    hstate hb events homx, hevents, Held]

/-- An adapter with another hub in order is ready after hand-backs. -/
lemma Ready.returnFrameCb (h : Ready a) {hub : CameraStreamHub} (hcounted : hub.Counted)
    (events : List HubEvent) (omx : ℕ → Status) :
    Ready (returnFrameCb events omx { a with hub := hub }) := by
  refine ⟨?_, ?_, ?_⟩
  · rw [returnFrameCb_preview]
    exact h.enabled
  · rw [returnFrameCb_preview]
    exact h.handles
  · rw [returnFrameCb_hub]
    exact hcounted

/-- What a subscriber's leaving does to the buffers of a hub. -/
lemma unsubscribe_counted {hub : CameraStreamHub} (h : hub.Counted) (i : ℕ) (cookie : Ptr) :
    (hub.unsubscribe i cookie).2.1.Counted ∧ ∀ s b,
      ((hub.unsubscribe i cookie).2.1.Referenced s b ∨
          ∃ t, .fillThisBuffer b t s ∈ (hub.unsubscribe i cookie).2.2) ↔
        hub.Referenced s b := by
  unfold CameraStreamHub.unsubscribe
  cases FrameType.ofIndex? i with
  | none => exact ⟨h, fun s b => by simp⟩
  | some t =>
    have hremoved : (hub.removeSubscriber t cookie).Counted := h
    simp only
    split_ifs
    · exact ⟨hremoved, fun s b => by simp [CameraStreamHub.Referenced, CameraStreamHub.refCount]⟩
    · exact ⟨hremoved.clearRefCount t, fun s b => hremoved.referenced_clearRefCount t s b⟩

/-- A new subscriber changes no buffer. -/
lemma buffer?_subscribe (hub : CameraStreamHub) (i : ℕ) (callback cookie : Ptr) (s : StreamType)
    (b : Ptr) : (hub.subscribe i callback cookie).2.buffer? s b = hub.buffer? s b := by
  unfold CameraStreamHub.subscribe
  split <;> rfl

/-- What is sent depends on the flags and on the hub. -/
lemma sent_congr (a a' : OMXCameraAdapter) (hcontrol : a'.control = a.control)
    (hhub : a'.hub = a.hub) (m : FilledBuffer) : a'.Sent m ↔ a.Sent m := by
  rw [Sent, Sent, hhub, countFlash_control hcontrol, hcontrol]

/-- Every action keeps the adapter ready. -/
lemma Ready.step (h : Ready a) (act : Action) : Ready (a.step act) := by
  cases act with
  | fillBufferDone header =>
    cases header with
    | none => exact h
    | some m => exact ⟨h.enabled, h.handles, h.counted⟩
  | handler r =>
    simp only [OMXCameraAdapter.step]
    cases a.mOMXCallbackHandler with
    | nil => exact h
    | cons m rest =>
      exact (Ready.handler (a := { a with mOMXCallbackHandler := rest })
        ⟨h.enabled, h.handles, h.counted⟩ m r).1
  | returnFrame r omx =>
    exact h.returnFrameCb
      ((HubRun.OnlyReturns.returnFrame (HubRun.start a.hub) r).counted h.counted) _ _
  | subscribe i callback cookie =>
    refine ⟨h.enabled, h.handles, fun s b buf hbuf => ?_⟩
    rw [OMXCameraAdapter.step, buffer?_subscribe] at hbuf
    exact h.counted s b buf hbuf
  | unsubscribe i cookie omx => exact h.returnFrameCb (unsubscribe_counted h.counted i cookie).1 _ _
  | setControl control => exact ⟨h.enabled, h.handles, h.counted⟩

/-- The actions of others than the handler keep the buffers of the port. -/
lemma Conserved.of_others (h : Conserved a) {a' : OMXCameraAdapter}
    (hpreview : a'.preview = a.preview)
    (hqueue : a'.mOMXCallbackHandler = a.mOMXCallbackHandler)
    (hheld : ∀ b ∈ a.preview.handles, a'.Held b ↔ a.Held b) : Conserved a' := by
  intro b hb
  rw [hpreview] at hb
  rw [Kept, hheld b hb, hqueue]
  exact h b hb

/-- A buffer that the component fills goes to the queue. -/
lemma conserved_fillBufferDone (h : Conserved a) (m : FilledBuffer) :
    Conserved (a.step (.fillBufferDone (some m))) := by
  intro b hb
  rcases h b hb with (hown | href) | ⟨m', hm', hhandle⟩
  · by_cases hbm : b = m.handle
    · exact Or.inr ⟨m, List.mem_append_right _ (List.mem_singleton_self m), hbm.symm⟩
    · exact Or.inl (Or.inl ((List.mem_erase_of_ne hbm).mpr hown))
  · exact Or.inl (Or.inr href)
  · exact Or.inr ⟨m', List.mem_append_left _ hm', hhandle⟩

/-- The handler takes a buffer from the queue: it must be held afterwards, or be in the queue once
more. -/
lemma conserved_handler_iff (hready : Ready a) {r : HandlerRun}
    (hrefills : a.Refills (.handler r)) (h : Conserved a) {m : FilledBuffer}
    {rest : List FilledBuffer} (hqueue : a.mOMXCallbackHandler = m :: rest) :
    Conserved ({ a with mOMXCallbackHandler := rest }.OMXCameraAdapterFillBufferDone m r) ↔
      (m.handle ∈ a.preview.handles →
        a.Sent m ∨ a.Held m.handle ∨ ∃ m' ∈ rest, m'.handle = m.handle) := by
  have hready' : Ready { a with mOMXCallbackHandler := rest } :=
    ⟨hready.enabled, hready.handles, hready.counted⟩
  obtain ⟨-, hpreview, hrest⟩ := hready'.handler m r
  have hkept : ∀ b ∈ a.preview.handles, Kept ({ a with
      mOMXCallbackHandler := rest }.OMXCameraAdapterFillBufferDone m r) b ↔
        (a.Held b ∨ b = m.handle ∧ a.Sent m) ∨ ∃ m' ∈ rest, m'.handle = b := by
    intro b hb
    have hsent : Sent { a with mOMXCallbackHandler := rest } m ↔ a.Sent m :=
      sent_congr a { a with mOMXCallbackHandler := rest } rfl rfl m
    rw [Kept, held_handler hready' m hrefills hb, hrest, hsent]
    exact Iff.rfl
  constructor
  · intro hconserved hm
    have hm' := (hkept m.handle hm).mp (hconserved m.handle (by rw [hpreview]; exact hm))
    tauto
  · intro hdelivered b hb
    rw [hpreview] at hb
    rw [hkept b hb]
    rcases h b hb with hheld | ⟨m', hm', hhandle⟩
    · exact Or.inl (Or.inl hheld)
    · rw [hqueue] at hm'
      rcases List.mem_cons.mp hm' with rfl | hm'
      · subst hhandle
        have hcases := hdelivered hb
        tauto
      · exact Or.inr ⟨m', hm', hhandle⟩

/-- **One action conserves the buffers exactly if it delivers the frame that it handles.**

**Proof sketch.** A buffer that the component fills goes to the queue, and a reference that is
dropped goes to another reference or back to the component. The handler takes a buffer from the
queue; it is held afterwards if it was held before or is sent. -/
theorem conserved_step_iff (hready : Ready a) {act : Action} (hrefills : a.Refills act)
    (h : Conserved a) : Conserved (a.step act) ↔ a.Delivered act := by
  cases act with
  | fillBufferDone header =>
    refine iff_of_true ?_ trivial
    cases header with
    | none => exact h
    | some m => exact conserved_fillBufferDone h m
  | handler r =>
    simp only [step, Delivered]
    cases hqueue : a.mOMXCallbackHandler with
    | nil => exact iff_of_true h trivial
    | cons m rest => exact conserved_handler_iff hready hrefills h hqueue
  | returnFrame r omx =>
    refine iff_of_true (h.of_others (returnFrameCb_preview _ _ _)
      (returnFrameCb_mOMXCallbackHandler _ _ _) fun b hb => ?_) trivial
    have hreturns := HubRun.OnlyReturns.returnFrame (HubRun.start a.hub) r
    have hin := hreturns.inHand hready.counted .PREVIEW_STREAM_TYPE b
    simp only [HubRun.InHand, HubRun.start, List.not_mem_nil, exists_false, or_false] at hin
    exact held_returnFrameCb_of hready hrefills.1 hb (hreturns.counted hready.counted)
      (fun _ => hrefills.2) hin
  | subscribe i callback cookie =>
    refine iff_of_true (h.of_others rfl rfl fun b hb => ?_) trivial
    simp only [step, Held, CameraStreamHub.Referenced, CameraStreamHub.refCount,
      buffer?_subscribe]
  | unsubscribe i cookie omx =>
    refine iff_of_true (h.of_others (returnFrameCb_preview _ _ _)
      (returnFrameCb_mOMXCallbackHandler _ _ _) fun b hb => ?_) trivial
    obtain ⟨hcounted, hin⟩ := unsubscribe_counted hready.counted i cookie
    exact held_returnFrameCb_of hready hrefills.1 hb hcounted hrefills.2
      (hin .PREVIEW_STREAM_TYPE b)
  | setControl control => exact iff_of_true h trivial

/-- The hand-backs of the action succeed, and the frame that it handles is delivered. -/
def Careful (a : OMXCameraAdapter) (act : Action) : Prop := a.Refills act ∧ a.Delivered act

/-- Where hand-backs succeed, the buffers are conserved exactly if every frame is delivered. -/
lemma always_conserved_iff_delivered (hready : Ready a) (h : Conserved a) {run : List Action}
    (hrefills : StepRun.Along step Refills a run) :
    StepRun.Always step Conserved a run ↔ StepRun.Along step Delivered a run :=
  StepRun.always_iff_along_of_along (J := Ready) (fun _ act hready _ => hready.step act)
    (fun _ _ hready hrefills h => conserved_step_iff hready hrefills h) hready h hrefills

/-- **The buffers of the preview port are conserved throughout every run of careful actions**: each
hand-back succeeds, and the buffer of each frame that is handled is sent to some subscriber, or is
with the component, referenced or in the queue once more. Of the runs whose hand-backs succeed,
they are conserved throughout no other. -/
theorem always_conserved (hready : Ready a) (h : Conserved a) (run : List Action) :
    (StepRun.Along step Careful a run → StepRun.Always step Conserved a run) ∧
      (StepRun.Along step Refills a run → StepRun.Always step Conserved a run →
        StepRun.Along step Careful a run) := by
  constructor
  · intro hcareful
    have hrefills : StepRun.Along step Refills a run := hcareful.imp fun _ _ hc => hc.1
    exact (always_conserved_iff_delivered hready h hrefills).mpr
      (hcareful.imp fun _ _ hc => hc.2)
  · intro hrefills halways
    exact hrefills.and ((always_conserved_iff_delivered hready h hrefills).mp halways)

/-! ### One buffer -/

/-- An adapter whose preview runs with one buffer, which the component has. -/
def oneBuffer (subscribers : KeyedVector Ptr Ptr) : OMXCameraAdapter where
  control := ⟨PREVIEW_STATE, PREVIEW_STATE, false, false, false, false, false, 0, false, false, 0⟩
  preview := ⟨true, [7]⟩
  image := ⟨false, []⟩
  hub := ⟨fun t => if t = .PREVIEW_FRAME_SYNC then subscribers else ∅,
    fun s => if s = .PREVIEW_STREAM_TYPE then CameraStream.addFrameBuffer ∅ 7 else ∅⟩
  mHandleComp := true
  owned := [7]
  mOMXCallbackHandler := []
  errors := []

/-- A frame of that buffer with the given flags. -/
def filled (nFlags : BitVec 32) : Action :=
  .fillBufferDone (some ⟨7, nFlags, OMX_CAMERA_PORT_VIDEO_OUT_PREVIEW⟩)

/-- The handler, while nothing is returned and the component accepts everything. -/
def quiet : Action :=
  .handler ⟨⟨fun _ => [], fun _ => NO_ERROR⟩, ⟨fun _ => [], fun _ => NO_ERROR⟩, NO_ERROR⟩

/-- A single subscriber gets a frame and returns it, and the component fills the buffer again. -/
theorem always_conserved_oneBuffer :
    StepRun.Always step Conserved (oneBuffer (KeyedVector.add ∅ 1 100))
      [filled OMX_BUFFERFLAG_ENDOFFRAME, quiet,
        .returnFrame ⟨7, .PREVIEW_FRAME_SYNC, some .PREVIEW_STREAM_TYPE⟩ NO_ERROR,
        filled OMX_BUFFERFLAG_ENDOFFRAME] := by
  have hready : Ready (oneBuffer (KeyedVector.add ∅ 1 100)) := by
    refine ⟨rfl, by decide, fun s b buf hbuf => ?_⟩
    cases s with
    | PREVIEW_STREAM_TYPE =>
      change (KeyedVector.add ∅ 7 CameraStreamBuffer.fresh).find? b = some buf at hbuf
      rw [KeyedVector.find?_add] at hbuf
      split_ifs at hbuf
      · obtain rfl := Option.some.inj hbuf
        exact CameraStreamBuffer.idle_fresh.counted
      · exact absurd hbuf (by simp)
    | IMAGE_STREAM_TYPE => exact absurd hbuf (by simp [oneBuffer, CameraStreamHub.buffer?])
  refine (always_conserved hready (by decide +kernel) _).1 ?_
  refine ⟨⟨trivial, trivial⟩, ⟨⟨by decide +kernel, fun _ => rfl, fun _ => rfl⟩, fun _ => ?_⟩,
    ⟨⟨by decide +kernel, rfl⟩, trivial⟩, ⟨trivial, trivial⟩, trivial⟩
  exact Or.inl ⟨rfl, by decide, by decide +kernel, Or.inl
    ⟨.PREVIEW_FRAME_SYNC, by decide +kernel, by decide +kernel⟩⟩

/-- A preview that is being started: the next state has the preview, the state not yet. -/
def starting : Action :=
  .setControl ⟨LOADED_PREVIEW_STATE, PREVIEW_STATE, false, false, false, false, false, 0, false,
    false, 0⟩

/-- A frame that is not at its end, one that nobody has subscribed to, and one that is returned
while the preview is being started are lost. -/
theorem not_always_conserved_oneBuffer :
    ¬ StepRun.Always step Conserved (oneBuffer (KeyedVector.add ∅ 1 100)) [filled 0, quiet] ∧
      ¬ StepRun.Always step Conserved (oneBuffer ∅) [filled OMX_BUFFERFLAG_ENDOFFRAME, quiet] ∧
      ¬ StepRun.Always step Conserved (oneBuffer (KeyedVector.add ∅ 1 100))
        [starting, filled OMX_BUFFERFLAG_ENDOFFRAME, quiet,
          .returnFrame ⟨7, .PREVIEW_FRAME_SYNC, some .PREVIEW_STREAM_TYPE⟩ NO_ERROR] :=
  ⟨fun h => absurd h.last (by decide +kernel), fun h => absurd h.last (by decide +kernel),
    fun h => absurd h.last (by decide +kernel)⟩

end OMXCameraAdapter

end CameraHal
