import Gs702aHal.Lib.StepRun
import Gs702aHal.Camera.AdapterState
import Gs702aHal.Camera.StreamHub

set_option relaxedAutoImplicit false
set_option autoImplicit false

/-!
# The commands of the camera adapter

`BaseCameraAdapter::sendCommand` runs a command as a transaction on the adapter's state word:
`setState` proposes the next state, a hook of the derived adapter does the work, and
`commitState` or `rollbackState` settles the word. Two of the commands also register buffers,
and two drop them.

A hook of the derived adapter is given by the status that it returns. Of the hooks that the base
adapter implements, `startVideoCapture` and `stopVideoCapture` change the recording flag; the
derived adapter calls them last.

## Main definitions

* `CameraHal.BaseCameraAdapter` — the state of the adapter.
* `CameraHal.BaseCameraAdapter.transact` — the transaction that most commands are.
* `CameraHal.BaseCameraAdapter.sendCommand` — the function of the source.
* `CameraHal.Request`, `CameraHal.BaseCameraAdapter.step` — runs of commands.

## Main results

* `CameraHal.BaseCameraAdapter.along_rejectedCleanly_iff` — the runs in which rejected commands
  have no effect.
* `CameraHal.BaseCameraAdapter.along_rolledBack_iff` — the runs in which commands with a failing
  hook have no effect.
-/

namespace CameraHal

open Status AdapterState

/-- `CameraAdapter::BuffersDescriptor`: the addresses of the buffers, and of their mappings if
there are any. -/
structure BuffersDescriptor where
  /-- The addresses of the buffers, by index. -/
  mBuffers : ℕ → Ptr
  /-- The mapped addresses, unless the pointer is `NULL`. -/
  mVaddrs : Option (ℕ → Ptr)
  /-- The length of each buffer. -/
  mLength : ℕ
  /-- The number of buffers. -/
  mCount : ℕ
  /-- The number of buffers that are queued first. -/
  mMaxQueueable : ℕ

/-- The values of a command: the pointers `value1` is cast to, `none` being `NULL`, and the
integers. -/
structure CommandValues where
  /-- `value1` as a buffer descriptor. -/
  desc : Option BuffersDescriptor
  /-- `value1` as a frame, which the hooks fill in. -/
  frame : Option Ptr
  /-- `value1` as an integer. -/
  value1 : ℤ
  /-- `value2`. -/
  value2 : ℤ

/-- The values of a command that has none. -/
def CommandValues.zero : CommandValues := ⟨none, none, 0, 0⟩

/-- `CameraAdapter::CameraMode`, as far as `sendCommand` passes it. -/
inductive CameraMode
  | CAMERA_PREVIEW
  | CAMERA_IMAGE_CAPTURE
  deriving DecidableEq, Repr

/-- A call of a hook of the derived adapter. -/
inductive Hook
  | useBuffers (mode : CameraMode) (num length queueable : ℕ)
  | startSmoothZoom (targetIdx : ℤ)
  | stopSmoothZoom
  | startPreview
  | stopPreview
  | startVideoCapture
  | stopVideoCapture
  | flushBuffers
  | takePicture
  | stopImageCapture
  | autoFocus
  | cancelAutoFocus
  | getFrameSize (num : ℤ)
  | getPictureBufferSize (bufferCount : ℤ)
  | startFaceDetection
  | stopFaceDetection
  | switchToExecuting
  deriving DecidableEq, Repr

/-- The state of the adapter, with the calls of hooks made so far. -/
structure BaseCameraAdapter where
  /-- The state. -/
  mAdapterState : AdapterState
  /-- The state proposed by `setState`. -/
  mNextState : AdapterState
  /-- A video is being recorded. -/
  mRecording : Bool
  /-- The subscribers and the stream tables. -/
  mStreamHub : CameraStreamHub
  /-- The hooks called so far, the latest last. -/
  hooks : List Hook
  deriving DecidableEq

namespace BaseCameraAdapter

/-- The registration of one buffer of a descriptor. -/
def registerBuffer (d : BuffersDescriptor) (buf : CameraStreamBuffer) (s : CameraStream)
    (i : ℕ) : CameraStream :=
  s.add (d.mBuffers i) ((d.mVaddrs.map fun vaddrs => buf.setVaddr (vaddrs i)).getD buf)

/-- The table that the buffers of a descriptor are registered in: those that are not queued
first start with one reference. -/
def registerBuffers (d : BuffersDescriptor) (t : FrameType) : CameraStream :=
  let queueable := (List.range d.mMaxQueueable).foldl
    (registerBuffer d CameraStreamBuffer.fresh) ∅
  (List.range' d.mMaxQueueable (d.mCount - d.mMaxQueueable)).foldl
    (registerBuffer d (CameraStreamBuffer.fresh.initRefCount t 1)) queueable

/-- Replace one stream table. -/
def setStream (a : BaseCameraAdapter) (s : StreamType) (stream : CameraStream) :
    BaseCameraAdapter :=
  { a with mStreamHub := a.mStreamHub.setStream s stream }

/-- `removeAllFrameBuffer` of one stream. -/
def removeAllFrameBuffer (a : BaseCameraAdapter) (s : StreamType) : BaseCameraAdapter :=
  a.setStream s ∅

/-- `commitState`. -/
def commitState (a : BaseCameraAdapter) : BaseCameraAdapter :=
  { a with mAdapterState := a.mNextState }

/-- `rollbackState`. -/
def rollbackState (a : BaseCameraAdapter) : BaseCameraAdapter :=
  { a with mNextState := a.mAdapterState }

/-- A hook is called, and returns the outcome. -/
def callHook (h : Hook) (outcome : Status) (a : BaseCameraAdapter) :
    Status × BaseCameraAdapter :=
  (outcome, { a with hooks := a.hooks ++ [h] })

/-- `startVideoCapture`. The derived adapter's part goes first. -/
def startVideoCapture (outcome : Status) (a : BaseCameraAdapter) : Status × BaseCameraAdapter :=
  let (ret, a) := callHook .startVideoCapture outcome a
  if ret ≠ NO_ERROR then (ret, a)
  else if a.mRecording then (NO_INIT, a) else (NO_ERROR, { a with mRecording := true })

/-- `stopVideoCapture`. The derived adapter's part goes first. -/
def stopVideoCapture (outcome : Status) (a : BaseCameraAdapter) : Status × BaseCameraAdapter :=
  let (ret, a) := callHook .stopVideoCapture outcome a
  if ret ≠ NO_ERROR then (ret, a)
  else if !a.mRecording then (NO_INIT, a) else (NO_ERROR, { a with mRecording := false })

/-- The hook of a query, which needs a frame to fill in. -/
def query (h : Hook) (frame : Option Ptr) (outcome : Status) (a : BaseCameraAdapter) :
    Status × BaseCameraAdapter :=
  match frame with
  | some _ => callHook h outcome a
  | none => (EINVAL, a)

/-- The end of a command: `commitState` after success, else `rollbackState`, whose status is
added to that of the command. -/
def settle (ret : Status) (a : BaseCameraAdapter) : Status × BaseCameraAdapter :=
  if ret = NO_ERROR then (NO_ERROR, a.commitState) else (ret ||| NO_ERROR, a.rollbackState)

/-- A command as a transaction: propose the next state, call the hook, drop the buffers of a
stream if the command ends its use, and commit or roll back. -/
def transact (operation : CameraCommands) (hook : BaseCameraAdapter → Status × BaseCameraAdapter)
    (after : BaseCameraAdapter → BaseCameraAdapter) (a : BaseCameraAdapter) :
    Status × BaseCameraAdapter :=
  match setState a.mAdapterState operation with
  | none => settle INVALID_OPERATION a
  | some next =>
    let (ret, a) := hook { a with mNextState := next }
    settle ret (if ret = NO_ERROR then after a else a)

/-- A command that registers buffers. The hook is called whether or not `setState` has accepted
the command, and its status replaces that of `setState`. -/
def useBuffersCommand (operation : CameraCommands) (mode : CameraMode) (s : StreamType)
    (t : FrameType) (desc : Option BuffersDescriptor) (outcome : Status)
    (a : BaseCameraAdapter) : Status × BaseCameraAdapter :=
  match desc with
  | none => (EINVAL, a)
  | some d =>
    let a := match setState a.mAdapterState operation with
      | none => a
      | some next => { a with mNextState := next }.setStream s (registerBuffers d t)
    let (ret, a) := callHook (.useBuffers mode d.mCount d.mLength d.mMaxQueueable) outcome a
    settle ret a

/-- `sendCommand`, given the status that the command's hook would return. -/
def sendCommand (operation : CameraCommands) (v : CommandValues) (outcome : Status)
    (a : BaseCameraAdapter) : Status × BaseCameraAdapter :=
  match operation with
  | .CAMERA_USE_BUFFERS_PREVIEW =>
    useBuffersCommand operation .CAMERA_PREVIEW .PREVIEW_STREAM_TYPE .PREVIEW_FRAME_SYNC v.desc
      outcome a
  | .CAMERA_USE_BUFFERS_IMAGE_CAPTURE =>
    useBuffersCommand operation .CAMERA_IMAGE_CAPTURE .IMAGE_STREAM_TYPE .IMAGE_FRAME_SYNC v.desc
      outcome a
  | .CAMERA_START_SMOOTH_ZOOM =>
    transact operation (callHook (.startSmoothZoom v.value1) outcome) id a
  | .CAMERA_STOP_SMOOTH_ZOOM => transact operation (callHook .stopSmoothZoom outcome) id a
  | .CAMERA_START_PREVIEW => transact operation (callHook .startPreview outcome) id a
  | .CAMERA_STOP_PREVIEW =>
    transact operation (callHook .stopPreview outcome)
      (removeAllFrameBuffer · .PREVIEW_STREAM_TYPE) a
  | .CAMERA_START_VIDEO => transact operation (startVideoCapture outcome) id a
  | .CAMERA_STOP_VIDEO => transact operation (stopVideoCapture outcome) id a
  | .CAMERA_PREVIEW_FLUSH_BUFFERS => transact operation (callHook .flushBuffers outcome) id a
  | .CAMERA_START_IMAGE_CAPTURE => transact operation (callHook .takePicture outcome) id a
  | .CAMERA_STOP_IMAGE_CAPTURE =>
    transact operation (callHook .stopImageCapture outcome)
      (removeAllFrameBuffer · .IMAGE_STREAM_TYPE) a
  | .CAMERA_PERFORM_AUTOFOCUS => transact operation (callHook .autoFocus outcome) id a
  | .CAMERA_CANCEL_AUTOFOCUS => transact operation (callHook .cancelAutoFocus outcome) id a
  | .CAMERA_QUERY_RESOLUTION_PREVIEW =>
    transact operation (query (.getFrameSize v.value2) v.frame outcome) id a
  | .CAMERA_QUERY_BUFFER_SIZE_IMAGE_CAPTURE =>
    transact operation (query (.getPictureBufferSize v.value2) v.frame outcome) id a
  | .CAMERA_START_FD => callHook .startFaceDetection outcome a
  | .CAMERA_STOP_FD => callHook .stopFaceDetection outcome a
  | .CAMERA_SWITCH_TO_EXECUTING => callHook .switchToExecuting outcome a
  | .CAMERA_SET_TIMEOUT | .CAMERA_CANCEL_TIMEOUT | .CAMERA_TIMEOUT_EXPIRED => (NO_ERROR, a)

/-! ### What each command is made of -/

/-- The commands that `sendCommand` submits to `setState`. -/
def AsksSetState : CameraCommands → Prop
  | .CAMERA_START_FD | .CAMERA_STOP_FD | .CAMERA_SWITCH_TO_EXECUTING
  | .CAMERA_SET_TIMEOUT | .CAMERA_CANCEL_TIMEOUT | .CAMERA_TIMEOUT_EXPIRED => False
  | _ => True

instance : DecidablePred AsksSetState := fun operation => by
  cases operation <;> unfold AsksSetState <;> infer_instance

/-- The stream and the frame type that a command registers its buffers under. -/
def registers? : CameraCommands → Option (StreamType × FrameType)
  | .CAMERA_USE_BUFFERS_PREVIEW => some (.PREVIEW_STREAM_TYPE, .PREVIEW_FRAME_SYNC)
  | .CAMERA_USE_BUFFERS_IMAGE_CAPTURE => some (.IMAGE_STREAM_TYPE, .IMAGE_FRAME_SYNC)
  | _ => none

/-- The hook of a command, if it has one and its values allow the call. -/
def hook? (operation : CameraCommands) (v : CommandValues) (outcome : Status) :
    Option (BaseCameraAdapter → Status × BaseCameraAdapter) :=
  match operation with
  | .CAMERA_USE_BUFFERS_PREVIEW => v.desc.map fun d =>
    callHook (.useBuffers .CAMERA_PREVIEW d.mCount d.mLength d.mMaxQueueable) outcome
  | .CAMERA_USE_BUFFERS_IMAGE_CAPTURE => v.desc.map fun d =>
    callHook (.useBuffers .CAMERA_IMAGE_CAPTURE d.mCount d.mLength d.mMaxQueueable) outcome
  | .CAMERA_START_SMOOTH_ZOOM => some (callHook (.startSmoothZoom v.value1) outcome)
  | .CAMERA_STOP_SMOOTH_ZOOM => some (callHook .stopSmoothZoom outcome)
  | .CAMERA_START_PREVIEW => some (callHook .startPreview outcome)
  | .CAMERA_STOP_PREVIEW => some (callHook .stopPreview outcome)
  | .CAMERA_START_VIDEO => some (startVideoCapture outcome)
  | .CAMERA_STOP_VIDEO => some (stopVideoCapture outcome)
  | .CAMERA_PREVIEW_FLUSH_BUFFERS => some (callHook .flushBuffers outcome)
  | .CAMERA_START_IMAGE_CAPTURE => some (callHook .takePicture outcome)
  | .CAMERA_STOP_IMAGE_CAPTURE => some (callHook .stopImageCapture outcome)
  | .CAMERA_PERFORM_AUTOFOCUS => some (callHook .autoFocus outcome)
  | .CAMERA_CANCEL_AUTOFOCUS => some (callHook .cancelAutoFocus outcome)
  | .CAMERA_QUERY_RESOLUTION_PREVIEW =>
    some (query (.getFrameSize v.value2) v.frame outcome)
  | .CAMERA_QUERY_BUFFER_SIZE_IMAGE_CAPTURE =>
    some (query (.getPictureBufferSize v.value2) v.frame outcome)
  | .CAMERA_START_FD => some (callHook .startFaceDetection outcome)
  | .CAMERA_STOP_FD => some (callHook .stopFaceDetection outcome)
  | .CAMERA_SWITCH_TO_EXECUTING => some (callHook .switchToExecuting outcome)
  | .CAMERA_SET_TIMEOUT | .CAMERA_CANCEL_TIMEOUT | .CAMERA_TIMEOUT_EXPIRED => none

/-- The stream whose buffers a command drops once its hook has succeeded. -/
def dropBuffers (operation : CameraCommands) (a : BaseCameraAdapter) : BaseCameraAdapter :=
  match operation with
  | .CAMERA_STOP_PREVIEW => a.removeAllFrameBuffer .PREVIEW_STREAM_TYPE
  | .CAMERA_STOP_IMAGE_CAPTURE => a.removeAllFrameBuffer .IMAGE_STREAM_TYPE
  | _ => a

section Settle

variable (ret : Status) (a : BaseCameraAdapter)

/-- The status of a command stays when it is settled. -/
@[simp] lemma settle_status : (settle ret a).1 = ret := by
  unfold settle
  split_ifs with h
  · exact h.symm
  · exact BitVec.or_zero

/-- The state of a settled command. -/
@[simp] lemma settle_mAdapterState :
    (settle ret a).2.mAdapterState = if ret = NO_ERROR then a.mNextState else a.mAdapterState := by
  unfold settle
  split_ifs <;> rfl

/-- A settled command proposes the state it is in. -/
@[simp] lemma settle_mNextState :
    (settle ret a).2.mNextState = (settle ret a).2.mAdapterState := by
  unfold settle
  split_ifs <;> rfl

/-- Settling a command does not touch the recording flag. -/
@[simp] lemma settle_mRecording : (settle ret a).2.mRecording = a.mRecording := by
  unfold settle
  split_ifs <;> rfl

/-- Settling a command does not touch the tables. -/
@[simp] lemma settle_mStreamHub : (settle ret a).2.mStreamHub = a.mStreamHub := by
  unfold settle
  split_ifs <;> rfl

/-- Settling a command calls no hook. -/
@[simp] lemma settle_hooks : (settle ret a).2.hooks = a.hooks := by
  unfold settle
  split_ifs <;> rfl

end Settle

section Drop

variable (operation : CameraCommands) (a : BaseCameraAdapter)

/-- Dropping buffers does not touch the proposed state. -/
@[simp] lemma dropBuffers_mNextState : (dropBuffers operation a).mNextState = a.mNextState := by
  unfold dropBuffers
  split <;> rfl

/-- Dropping buffers does not touch the recording flag. -/
@[simp] lemma dropBuffers_mRecording : (dropBuffers operation a).mRecording = a.mRecording := by
  unfold dropBuffers
  split <;> rfl

/-- The image buffers are dropped by their own stop command only. -/
lemma dropBuffers_image :
    (dropBuffers operation a).mStreamHub.mStreams .IMAGE_STREAM_TYPE =
      if operation = .CAMERA_STOP_IMAGE_CAPTURE then ∅
      else a.mStreamHub.mStreams .IMAGE_STREAM_TYPE := by
  cases operation <;> rfl

/-- The preview buffers are dropped by their own stop command only. -/
lemma dropBuffers_preview :
    (dropBuffers operation a).mStreamHub.mStreams .PREVIEW_STREAM_TYPE =
      if operation = .CAMERA_STOP_PREVIEW then ∅
      else a.mStreamHub.mStreams .PREVIEW_STREAM_TYPE := by
  cases operation <;> rfl

end Drop

section Parts

variable {operation : CameraCommands} (v : CommandValues) (outcome : Status)
  (a : BaseCameraAdapter)

/-- A command that asks `setState` and registers no buffers is a transaction. -/
lemma sendCommand_eq_transact (hasks : AsksSetState operation)
    (hreg : registers? operation = none) :
    ∃ hook, hook? operation v outcome = some hook ∧
      sendCommand operation v outcome a = transact operation hook (dropBuffers operation) a := by
  cases operation
  case CAMERA_USE_BUFFERS_PREVIEW | CAMERA_USE_BUFFERS_IMAGE_CAPTURE => simp [registers?] at hreg
  case CAMERA_START_FD | CAMERA_STOP_FD | CAMERA_SWITCH_TO_EXECUTING | CAMERA_SET_TIMEOUT |
      CAMERA_CANCEL_TIMEOUT | CAMERA_TIMEOUT_EXPIRED => exact hasks.elim
  all_goals exact ⟨_, rfl, rfl⟩

/-- A command that registers buffers is one of the two. -/
lemma sendCommand_eq_useBuffersCommand {s : StreamType} {t : FrameType}
    (hreg : registers? operation = some (s, t)) :
    ∃ mode, (∀ d, v.desc = some d → hook? operation v outcome =
        some (callHook (.useBuffers mode d.mCount d.mLength d.mMaxQueueable) outcome)) ∧
      sendCommand operation v outcome a =
        useBuffersCommand operation mode s t v.desc outcome a := by
  cases operation
  case CAMERA_USE_BUFFERS_PREVIEW | CAMERA_USE_BUFFERS_IMAGE_CAPTURE =>
    obtain ⟨rfl, rfl⟩ := Prod.mk.inj (Option.some.inj hreg)
    exact ⟨_, fun d hd => by rw [hook?, hd]; rfl, rfl⟩
  all_goals simp [registers?] at hreg

end Parts

/-! ### Rejected commands -/

/-- What should hold of a command that `setState` rejects. -/
structure RejectedCleanly (operation : CameraCommands) (v : CommandValues) (outcome : Status)
    (a : BaseCameraAdapter) : Prop where
  /-- The command returns an error. -/
  error : (sendCommand operation v outcome a).1 ≠ NO_ERROR
  /-- No hook is called. -/
  hooks : (sendCommand operation v outcome a).2.hooks = a.hooks
  /-- The state stays. -/
  state : (sendCommand operation v outcome a).2.mAdapterState = a.mAdapterState
  /-- The stream tables and all reference counts stay. -/
  hub : (sendCommand operation v outcome a).2.mStreamHub = a.mStreamHub

/-- **Rejected commands.** A command that `setState` rejects has no effect if and only if it is
not one that registers the buffers of a descriptor.

**Proof sketch.** A transaction stops at the rejection. The commands that register buffers call
their hook all the same, unless the descriptor is missing. -/
theorem rejectedCleanly_iff {operation : CameraCommands} (v : CommandValues) (outcome : Status)
    {a : BaseCameraAdapter} (hasks : AsksSetState operation)
    (hreject : setState a.mAdapterState operation = none) :
    RejectedCleanly operation v outcome a ↔
      ¬ ((registers? operation).isSome ∧ v.desc.isSome) := by
  cases hreg : registers? operation with
  | none =>
    obtain ⟨hook, -, hsend⟩ := sendCommand_eq_transact v outcome a hasks hreg
    have hsettle : sendCommand operation v outcome a = settle INVALID_OPERATION a := by
      rw [hsend, transact, hreject]
    refine ⟨fun _ h => Bool.false_ne_true h.1, fun _ => ?_⟩
    constructor <;> rw [hsettle]
    · rw [settle_status]
      decide
    · exact settle_hooks _ a
    · rw [settle_mAdapterState, if_neg (by decide)]
    · exact settle_mStreamHub _ a
  | some st =>
    obtain ⟨s, t⟩ := st
    obtain ⟨mode, -, hsend⟩ := sendCommand_eq_useBuffersCommand v outcome a hreg
    cases hdesc : v.desc with
    | none =>
      have hresult : sendCommand operation v outcome a = (EINVAL, a) := by
        rw [hsend, hdesc]
        rfl
      refine ⟨fun _ h => Bool.false_ne_true h.2, fun _ => ?_⟩
      exact ⟨by rw [hresult]; exact (by decide : EINVAL ≠ NO_ERROR), by rw [hresult],
        by rw [hresult], by rw [hresult]⟩
    | some d =>
      refine ⟨fun h => ?_, fun h => absurd ⟨rfl, rfl⟩ h⟩
      have hhooks := h.hooks
      rw [hsend, hdesc, useBuffersCommand, hreject] at hhooks
      simp [callHook] at hhooks

/-! ### Failing hooks -/

/-- What should hold of a command whose hook fails. -/
structure RolledBack (operation : CameraCommands) (v : CommandValues) (outcome : Status)
    (a : BaseCameraAdapter) : Prop where
  /-- The command returns an error. -/
  error : (sendCommand operation v outcome a).1 ≠ NO_ERROR
  /-- The state stays. -/
  state : (sendCommand operation v outcome a).2.mAdapterState = a.mAdapterState
  /-- The proposed state is the state. -/
  next : (sendCommand operation v outcome a).2.mNextState = a.mAdapterState
  /-- The recording flag stays. -/
  recording : (sendCommand operation v outcome a).2.mRecording = a.mRecording
  /-- The stream tables, with all addresses and reference counts, stay. -/
  hub : (sendCommand operation v outcome a).2.mStreamHub = a.mStreamHub

/-- The buffers that a command registers are the ones in the table already. -/
def KeepsTable (operation : CameraCommands) (v : CommandValues) (a : BaseCameraAdapter) : Prop :=
  ∀ st ∈ registers? operation, ∀ d ∈ v.desc,
    registerBuffers d st.2 = a.mStreamHub.mStreams st.1

/-- The recording flag after a hook: a video hook that succeeds sets or clears it. -/
def recordingAfter (operation : CameraCommands) (ret : Status) (mRecording : Bool) : Bool :=
  if ret = NO_ERROR then
    if operation = .CAMERA_START_VIDEO then true
    else if operation = .CAMERA_STOP_VIDEO then false else mRecording
  else mRecording

/-- A hook changes the record of the calls and, if it is a video hook, the recording flag. -/
lemma hook_eq {operation : CameraCommands} {v : CommandValues} {outcome : Status}
    {hook : BaseCameraAdapter → Status × BaseCameraAdapter}
    (hhook : hook? operation v outcome = some hook) (a : BaseCameraAdapter) :
    ∃ hooks, (hook a).2 = { a with
      mRecording := recordingAfter operation (hook a).1 a.mRecording
      hooks := hooks } := by
  have hother : ∀ ret, operation ≠ .CAMERA_START_VIDEO → operation ≠ .CAMERA_STOP_VIDEO →
      recordingAfter operation ret a.mRecording = a.mRecording := by
    intro ret hstart hstop
    rw [recordingAfter, if_neg hstart, if_neg hstop, ite_self]
  cases operation
  case CAMERA_START_VIDEO =>
    obtain rfl := Option.some.inj hhook
    refine ⟨a.hooks ++ [.startVideoCapture], ?_⟩
    by_cases hout : outcome = NO_ERROR <;> by_cases hrec : a.mRecording = true <;>
      simp_all [recordingAfter, startVideoCapture, callHook, NO_INIT, NO_ERROR]
  case CAMERA_STOP_VIDEO =>
    obtain rfl := Option.some.inj hhook
    refine ⟨a.hooks ++ [.stopVideoCapture], ?_⟩
    by_cases hout : outcome = NO_ERROR <;> by_cases hrec : a.mRecording = true <;>
      simp_all [recordingAfter, stopVideoCapture, callHook, NO_INIT, NO_ERROR]
  all_goals rw [hother _ (by decide) (by decide)]
  case CAMERA_USE_BUFFERS_PREVIEW | CAMERA_USE_BUFFERS_IMAGE_CAPTURE =>
    obtain ⟨d, -, rfl⟩ := Option.map_eq_some_iff.mp hhook
    exact ⟨_, rfl⟩
  case CAMERA_SET_TIMEOUT | CAMERA_CANCEL_TIMEOUT | CAMERA_TIMEOUT_EXPIRED =>
    exact absurd hhook (Option.some_ne_none hook).symm
  all_goals obtain rfl := Option.some.inj hhook
  case CAMERA_QUERY_RESOLUTION_PREVIEW | CAMERA_QUERY_BUFFER_SIZE_IMAGE_CAPTURE =>
    cases v.frame <;> exact ⟨_, rfl⟩
  all_goals exact ⟨_, rfl⟩

/-- A failing hook leaves everything but the record of the calls alone. -/
lemma hook_fails {operation : CameraCommands} {v : CommandValues} {outcome : Status}
    {hook : BaseCameraAdapter → Status × BaseCameraAdapter}
    (hhook : hook? operation v outcome = some hook) {a : BaseCameraAdapter}
    (hfail : (hook a).1 ≠ NO_ERROR) : ∃ hooks, (hook a).2 = { a with hooks := hooks } := by
  obtain ⟨hooks, heq⟩ := hook_eq hhook a
  rw [recordingAfter, if_neg hfail] at heq
  exact ⟨hooks, heq⟩

/-- A replaced stream table leaves the hub as it was if and only if it is the old one. -/
lemma setStream_eq_self (hub : CameraStreamHub) (s : StreamType) (stream : CameraStream) :
    hub.setStream s stream = hub ↔ stream = hub.mStreams s := by
  constructor
  · intro h
    have hs := congrFun (congrArg CameraStreamHub.mStreams h) s
    simpa [CameraStreamHub.setStream] using hs
  · rintro rfl
    simp [CameraStreamHub.setStream]

/-- **Failing hooks.** A command that `setState` accepts and whose hook fails has no effect if
and only if the buffers that it registers, if any, are the ones in the table already.

**Proof sketch.** A transaction calls its hook before it drops any buffers, and a failing hook
changes nothing. The commands that register buffers have replaced their table by then, and
`rollbackState` restores the state word only. -/
theorem rolledBack_iff {operation : CameraCommands} {v : CommandValues} {outcome : Status}
    {a : BaseCameraAdapter} {next : AdapterState}
    {hook : BaseCameraAdapter → Status × BaseCameraAdapter} (hasks : AsksSetState operation)
    (haccept : setState a.mAdapterState operation = some next)
    (hhook : hook? operation v outcome = some hook)
    (hfail : (hook { a with mNextState := next }).1 ≠ NO_ERROR) :
    RolledBack operation v outcome a ↔ KeepsTable operation v a := by
  cases hreg : registers? operation with
  | none =>
    refine ⟨fun _ st hst => absurd (hreg ▸ hst) (Option.not_mem_none st), fun _ => ?_⟩
    obtain ⟨hook', hhook', hsend⟩ := sendCommand_eq_transact v outcome a hasks hreg
    obtain rfl : hook = hook' := Option.some.inj (hhook.symm.trans hhook')
    obtain ⟨hooks, hsame⟩ := hook_fails hhook hfail
    have hsettle : sendCommand operation v outcome a =
        settle (hook { a with mNextState := next }).1
          { a with mNextState := next, hooks := hooks } := by
      rw [hsend, transact, haccept]
      simp only [if_neg hfail, hsame]
    constructor <;> rw [hsettle]
    · rwa [settle_status]
    · rw [settle_mAdapterState, if_neg hfail]
    · rw [settle_mNextState, settle_mAdapterState, if_neg hfail]
    · exact settle_mRecording _ _
    · exact settle_mStreamHub _ _
  | some st =>
    obtain ⟨s, t⟩ := st
    obtain ⟨mode, hcall, hsend⟩ := sendCommand_eq_useBuffersCommand v outcome a hreg
    cases hdesc : v.desc with
    | none =>
      have hnone : hook? operation v outcome = none := by
        cases operation
        case CAMERA_USE_BUFFERS_PREVIEW | CAMERA_USE_BUFFERS_IMAGE_CAPTURE =>
          rw [hook?, hdesc, Option.map_none]
        all_goals simp [registers?] at hreg
      exact absurd (hhook.symm.trans hnone) (Option.some_ne_none hook)
    | some d =>
      obtain rfl := Option.some.inj (hhook.symm.trans (hcall d hdesc))
      have hsettle : sendCommand operation v outcome a = settle outcome
          { a with
            mNextState := next
            mStreamHub := a.mStreamHub.setStream s (registerBuffers d t)
            hooks := a.hooks ++ [.useBuffers mode d.mCount d.mLength d.mMaxQueueable] } := by
        rw [hsend, hdesc, useBuffersCommand, haccept]
        rfl
      have hne : outcome ≠ NO_ERROR := hfail
      have hkeeps : KeepsTable operation v a ↔ registerBuffers d t = a.mStreamHub.mStreams s := by
        simp [KeepsTable, hreg, hdesc]
      rw [hkeeps, ← setStream_eq_self]
      constructor
      · intro h
        have hhub := h.hub
        rwa [hsettle, settle_mStreamHub] at hhub
      · intro h
        constructor <;> rw [hsettle]
        · rwa [settle_status]
        · rw [settle_mAdapterState, if_neg hne]
        · rw [settle_mNextState, settle_mAdapterState, if_neg hne]
        · exact settle_mRecording _ _
        · rwa [settle_mStreamHub]

end BaseCameraAdapter

/-! ### Runs of commands -/

/-- One call of `sendCommand`, with the status that the command's hook would return. -/
structure Request where
  /-- The command. -/
  operation : CameraCommands
  /-- The values of the command. -/
  values : CommandValues
  /-- The status that the derived adapter's part of the hook returns. -/
  outcome : Status

namespace BaseCameraAdapter

/-- The adapter after one call of `sendCommand`. -/
def step (a : BaseCameraAdapter) (r : Request) : BaseCameraAdapter :=
  (sendCommand r.operation r.values r.outcome a).2

/-- A new adapter. The constructor does not set the proposed state. -/
def fresh (mNextState : AdapterState) (subscribers : FrameType → KeyedVector Ptr Ptr) :
    BaseCameraAdapter :=
  ⟨INTIALIZED_STATE, mNextState, false, ⟨subscribers, fun _ => ∅⟩, []⟩

/-- `setState` rejects the command. -/
def Rejects (a : BaseCameraAdapter) (r : Request) : Prop :=
  AsksSetState r.operation ∧ setState a.mAdapterState r.operation = none

/-- `setState` accepts the command, and its hook is called and fails. -/
def HookFails (a : BaseCameraAdapter) (r : Request) : Prop :=
  AsksSetState r.operation ∧ ∃ next hook, setState a.mAdapterState r.operation = some next ∧
    hook? r.operation r.values r.outcome = some hook ∧
      (hook { a with mNextState := next }).1 ≠ NO_ERROR

/-- **Rejected commands in runs.** In a run of commands, whatever their hooks return, every
command that `setState` rejects returns an error, calls no hook and leaves the state and the
tables alone, if and only if none of them registers the buffers of a descriptor. -/
theorem along_rejectedCleanly_iff (a : BaseCameraAdapter) (run : List Request) :
    StepRun.Along step
        (fun a r => Rejects a r → RejectedCleanly r.operation r.values r.outcome a) a run ↔
      StepRun.Along step
        (fun a r => Rejects a r → ¬ ((registers? r.operation).isSome ∧ r.values.desc.isSome))
        a run :=
  StepRun.along_congr fun (_ : BaseCameraAdapter) (r : Request) =>
    forall_congr' fun h => rejectedCleanly_iff r.values r.outcome h.1 h.2

/-- **Failing hooks in runs.** In a run of commands, every command that `setState` accepts and
whose hook fails returns an error and leaves the states, the recording flag and the tables
alone, if and only if each of them that registers buffers registers those that are in the table
already. -/
theorem along_rolledBack_iff (a : BaseCameraAdapter) (run : List Request) :
    StepRun.Along step
        (fun a r => HookFails a r → RolledBack r.operation r.values r.outcome a) a run ↔
      StepRun.Along step (fun a r => HookFails a r → KeepsTable r.operation r.values a) a run :=
  StepRun.along_congr fun (_ : BaseCameraAdapter) (_ : Request) =>
    forall_congr' fun ⟨hasks, _, _, haccept, hhook, hfail⟩ =>
      rolledBack_iff hasks haccept hhook hfail

/-! ### Preview buffers in the wrong state, and a failing hook -/

/-- The values of a command that registers one buffer. -/
def oneBufferValues : CommandValues :=
  { CommandValues.zero with desc := some ⟨fun _ => 7, none, 16, 1, 1⟩ }

/-- New preview buffers are rejected while the preview is active, but the hook is called with
them, and the command succeeds. -/
theorem not_along_rejectedCleanly :
    ¬ StepRun.Along step
      (fun a r => Rejects a r → RejectedCleanly r.operation r.values r.outcome a)
      (fresh INTIALIZED_STATE fun _ => ∅)
      [⟨.CAMERA_USE_BUFFERS_PREVIEW, oneBufferValues, NO_ERROR⟩,
        ⟨.CAMERA_START_PREVIEW, CommandValues.zero, NO_ERROR⟩,
        ⟨.CAMERA_USE_BUFFERS_PREVIEW, oneBufferValues, NO_ERROR⟩] :=
  fun h => absurd (h.2.2.1 ⟨trivial, rfl⟩).error (by decide)

/-- Preview buffers whose hook fails stay registered. -/
theorem not_along_rolledBack :
    ¬ StepRun.Along step
      (fun a r => HookFails a r → RolledBack r.operation r.values r.outcome a)
      (fresh INTIALIZED_STATE fun _ => ∅)
      [⟨.CAMERA_USE_BUFFERS_PREVIEW, oneBufferValues, UNKNOWN_ERROR⟩] :=
  fun h => absurd
    (h.1 ⟨trivial, _, _, rfl, rfl, (by decide : UNKNOWN_ERROR ≠ NO_ERROR)⟩).hub (by decide)

end BaseCameraAdapter

end CameraHal
