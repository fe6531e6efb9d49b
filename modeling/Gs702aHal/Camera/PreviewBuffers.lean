import Gs702aHal.Camera.RollbackHooks

set_option relaxedAutoImplicit false
set_option autoImplicit false

/-!
# The preview buffers of `CameraHal`

`startPreview` has the display adapter allocate buffers, registers them with the camera adapter and
starts the preview; `forceStopPreview` rolls the camera adapter back and frees them. The buffers
should not be freed while the camera adapter still has them in its preview stream, and the display
adapter that allocated them should live as long as they do.

Display adapters are numbered in the order in which they are created; only `mDisplayAdapter` keeps
one alive. What the display adapter, the callback notifier and the hooks of the camera adapter
return is given with each call.

## Main definitions

* `CameraHal.PreviewHal` — the state of `CameraHal` around its preview.
* `CameraHal.PreviewHal.startPreview`, `forceStopPreview`, `stopPreview`, `restartPreview`,
  `setPreviewWindow` — the functions of the source.
* `CameraHal.PreviewHal.Sound` — the buffers were freed by their allocator when nobody had them, and
  those that are there have their allocator.
* `CameraHal.PreviewHal.Careful` — nothing fails once buffers are registered, the camera adapter can
  be rolled back where it has buffers, and no window is taken away while there are some.

## Main results

* `CameraHal.PreviewHal.always_soundBuffers_iff` — the runs in which the buffers are sound.
-/

namespace CameraHal

open Status AdapterState BaseCameraAdapter

/-- Preview buffers: who allocated them, and their addresses. -/
structure Allocation where
  allocator : ℕ
  buffers : List Ptr
  deriving DecidableEq

/-- Some of the buffers are in the table of a stream. -/
def Registered (buffers : List Ptr) (stream : CameraStream) : Prop :=
  ∃ b ∈ buffers, (stream.find? b).isSome = true

instance (buffers : List Ptr) (stream : CameraStream) : Decidable (Registered buffers stream) :=
  inferInstanceAs (Decidable (∃ b ∈ buffers, _))

/-- A call of `freeBuffer`: for which buffers, of which display adapter, which one is alive then,
and whether the camera adapter still has the buffers. -/
structure Free where
  allocation : Allocation
  provider : Option ℕ
  alive : Option ℕ
  registered : Bool
  deriving DecidableEq

/-- The buffers are freed by their allocator, which is alive, and the camera adapter has none of
them. -/
structure Free.Right (f : Free) : Prop where
  provider : f.provider = some f.allocation.allocator
  alive : f.alive = some f.allocation.allocator
  unregistered : f.registered = false

/-- The state of `CameraHal` around its preview. -/
structure PreviewHal where
  mPreviewEnabled : Bool
  mPreviewStartInProgress : Bool
  mDisplayPaused : Bool
  mSetPreviewWindowCalled : Bool
  mRecordingEnabled : Bool
  mAfterTakePicture : Bool
  mDisplayAdapter : Option ℕ
  /-- The number of display adapters that were created. -/
  created : ℕ
  mPreviewBufs : Option Allocation
  mBufProvider : Option ℕ
  mCameraAdapter : BaseCameraAdapter
  /-- The calls of `freeBuffer` so far. -/
  frees : List Free
  deriving DecidableEq

/-- What a call of `startPreview` meets: the answers of the camera adapter (`setParameters`, and the
hooks of its commands), of the display adapter and of the callback notifier. -/
structure StartOutcome where
  setParameters : Status
  getFrameSize : Status
  requiredBufferCount : ℤ
  pauseDisplay : Status
  /-- The buffers that `allocateBuffer` returns, if it does. -/
  allocateBuffer : Option (List Ptr)
  /-- `getOffsets` does not return a null pointer. -/
  getOffsets : Bool
  getVaddrs : Option (ℕ → Ptr)
  /-- `getFd` does not return `-1`. -/
  getFd : Bool
  maxQueueableBuffers : Status
  /-- The number of buffers that stay with the window. -/
  undequeued : ℕ
  useBuffers : Status
  start : Status
  enableDisplay : Status
  startPreview : Status
  stopPreview : Status

/-- What a call of `forceStopPreview` meets: the hooks of its commands. -/
structure StopOutcome where
  stopFaceDetection : Status
  rollback : List Hook → Status

/-- What a call of `setPreviewWindow` gets and meets. -/
structure WindowOutcome where
  /-- The window is not `NULL`. -/
  window : Bool
  initialized : Status
  setPreviewWindow : Status
  stop : StopOutcome
  start : StartOutcome

namespace PreviewHal

/-! ### Parts of the functions -/

/-- `previewEnabled`. -/
def previewEnabled (s : PreviewHal) : Bool := s.mPreviewEnabled || s.mPreviewStartInProgress

/-- A command to the camera adapter, with what its hook returns. -/
def command (operation : CameraCommands) (v : CommandValues) (outcome : Status) (s : PreviewHal) :
    Status × PreviewHal :=
  let (ret, a) := sendCommand operation v outcome s.mCameraAdapter
  (ret, { s with mCameraAdapter := a })

/-- `freePreviewBufs`. -/
def freePreviewBufs (s : PreviewHal) : PreviewHal :=
  match s.mPreviewBufs with
  | none => s
  | some b =>
    { s with
      mPreviewBufs := none
      frees := s.frees ++
        [⟨b, s.mBufProvider, s.mDisplayAdapter,
          Registered b.buffers s.mCameraAdapter.previewStream⟩] }

/-- `allocPreviewBufs`. -/
def allocPreviewBufs (o : StartOutcome) (s : PreviewHal) : Status × PreviewHal :=
  match s.mDisplayAdapter with
  | none => (NO_MEMORY, s)
  | some display =>
    match s.mPreviewBufs with
    | some _ => (NO_ERROR, s)
    | none =>
      match o.allocateBuffer with
      | none => (NO_MEMORY, s)
      | some buffers =>
        let s := { s with mPreviewBufs := some ⟨display, buffers⟩ }
        if !o.getOffsets then (BAD_VALUE, s)
        else if !o.getFd then (BAD_VALUE, s)
        else (o.maxQueueableBuffers, { s with mBufProvider := some display })

/-- The descriptor of the preview buffers. -/
def previewDescriptor (o : StartOutcome) (buffers : List Ptr) : BuffersDescriptor where
  mBuffers i := buffers.getD i NULL
  mVaddrs := o.getVaddrs
  mLength := 0
  mCount := buffers.length
  mMaxQueueable := buffers.length - o.undequeued

/-- The values of `CAMERA_USE_BUFFERS_PREVIEW`. -/
def useBuffersValues (o : StartOutcome) (buffers : List Ptr) : CommandValues :=
  ⟨some (previewDescriptor o buffers), none, 0, 0⟩

/-- `startPreview` from its label `error`. -/
def startPreviewError (o : StartOutcome) (ret : Status) (s : PreviewHal) : Status × PreviewHal :=
  let (_, s) := s.freePreviewBufs.command .CAMERA_STOP_PREVIEW CommandValues.zero o.stopPreview
  (ret, { s with
    mPreviewStartInProgress := false, mPreviewEnabled := false, mAfterTakePicture := false })

/-- `startPreview` once the buffers are registered. -/
def startRegistered (o : StartOutcome) (s : PreviewHal) : Status × PreviewHal :=
  let ret := if o.start = ALREADY_EXISTS then NO_ERROR else o.start
  if ret ≠ NO_ERROR then s.startPreviewError o ret
  else if o.enableDisplay ≠ NO_ERROR then s.startPreviewError o o.enableDisplay
  else
    let (ret, s) := s.command .CAMERA_START_PREVIEW CommandValues.zero o.startPreview
    if ret ≠ NO_ERROR then s.startPreviewError o ret
    else (ret, { s with mPreviewEnabled := true, mPreviewStartInProgress := false })

/-- `startPreview` from the allocation of the buffers on. -/
def startAllocation (o : StartOutcome) (s : PreviewHal) : Status × PreviewHal :=
  let (ret, s) := s.allocPreviewBufs o
  if ret ≠ NO_ERROR then s.startPreviewError o ret
  else
    let buffers := (s.mPreviewBufs.map Allocation.buffers).getD []
    let (ret, s) :=
      s.command .CAMERA_USE_BUFFERS_PREVIEW (useBuffersValues o buffers) o.useBuffers
    if ret ≠ NO_ERROR then (ret, s.freePreviewBufs) else s.startRegistered o

/-- The values of `CAMERA_QUERY_RESOLUTION_PREVIEW`. -/
def queryValues (o : StartOutcome) : CommandValues := ⟨none, some 1, 0, o.requiredBufferCount⟩

/-- `startPreview` up to the query of the resolution. -/
def queryResolution (o : StartOutcome) (s : PreviewHal) : Status × PreviewHal :=
  if !s.mPreviewStartInProgress && !s.mDisplayPaused then
    s.command .CAMERA_QUERY_RESOLUTION_PREVIEW (queryValues o) o.getFrameSize
  else (o.setParameters, s)

/-- The query of the resolution fails. -/
def queryFails (o : StartOutcome) (s : PreviewHal) : Bool :=
  !s.mPreviewStartInProgress && !s.mDisplayPaused && (s.queryResolution o).1 ≠ NO_ERROR

/-! ### The functions -/

/-- `startPreview`. -/
def startPreview (o : StartOutcome) (s : PreviewHal) : Status × PreviewHal :=
  if s.mPreviewEnabled then (ALREADY_EXISTS, s)
  else
    let (ret, s') := s.queryResolution o
    if s.queryFails o then (ret, s')
    else if !s'.mSetPreviewWindowCalled || s'.mDisplayAdapter.isNone then
      (ret, { s' with mPreviewStartInProgress := true })
    else if s'.mDisplayPaused then
      (if ret = NO_ERROR then o.pauseDisplay else ret,
        { s' with mDisplayPaused := false, mPreviewEnabled := true })
    else s'.startAllocation o

/-- The face detection is stopped if the preview is active. -/
def stopFaces (outcome : Status) (s : PreviewHal) : PreviewHal :=
  if s.mCameraAdapter.mAdapterState.Has PREVIEW_ACTIVE then
    (s.command .CAMERA_STOP_FD CommandValues.zero outcome).2
  else s

/-- `forceStopPreview` up to the freeing of the buffers: the camera adapter is rolled back. -/
def rollBack (o : StopOutcome) (s : PreviewHal) : PreviewHal :=
  let s := s.stopFaces o.stopFaceDetection
  { s with mCameraAdapter := s.mCameraAdapter.rolledBackToInitialized o.rollback }

/-- `forceStopPreview`. -/
def forceStopPreview (o : StopOutcome) (s : PreviewHal) : PreviewHal :=
  { (s.rollBack o).freePreviewBufs with
    mPreviewEnabled := false, mDisplayPaused := false, mPreviewStartInProgress := false }

/-- `stopPreview` does not return early. -/
def stops (s : PreviewHal) : Bool :=
  let imageCaptureRunning : Bool := s.mCameraAdapter.mAdapterState.Has CAPTURE_ACTIVE ∧
    ¬ s.mCameraAdapter.mNextState.Has CAPTURE_ACTIVE
  !((!s.previewEnabled && !s.mDisplayPaused) || s.mRecordingEnabled) &&
    !(s.mDisplayPaused && !imageCaptureRunning)

/-- `stopPreview`. -/
def stopPreview (o : StopOutcome) (s : PreviewHal) : PreviewHal :=
  if !s.stops then s
  else if s.mAfterTakePicture then
    let s := s.stopFaces o.stopFaceDetection
    { s with
      mCameraAdapter := s.mCameraAdapter.rolledBackToPreview o.rollback
      mAfterTakePicture := false }
  else s.forceStopPreview o

/-- `restartPreview`. -/
def restartPreview (stop : StopOutcome) (start : StartOutcome) (s : PreviewHal) :
    Status × PreviewHal :=
  (s.forceStopPreview stop).startPreview start

/-- `setPreviewWindow` with a new display adapter. -/
def createDisplayAdapter (s : PreviewHal) : PreviewHal :=
  { s with mDisplayAdapter := some s.created, created := s.created + 1 }

/-- `setPreviewWindow`. -/
def setPreviewWindow (o : WindowOutcome) (s : PreviewHal) : Status × PreviewHal :=
  let s := { s with mSetPreviewWindowCalled := true }
  if !o.window then
    match s.mDisplayAdapter with
    | some _ => (NO_ERROR, { s with mDisplayAdapter := none, mSetPreviewWindowCalled := false })
    | none => (NO_ERROR, s)
  else
    match s.mDisplayAdapter with
    | none =>
      let s := s.createDisplayAdapter
      if o.initialized ≠ NO_ERROR then (o.initialized, { s with mDisplayAdapter := none })
      else if s.mPreviewStartInProgress then s.startPreview o.start
      else (o.setPreviewWindow, s)
    | some _ =>
      if o.setPreviewWindow = NO_ERROR && s.previewEnabled then
        (NO_ERROR, (s.restartPreview o.stop o.start).2)
      else if o.setPreviewWindow = ALREADY_EXISTS then (NO_ERROR, s)
      else (o.setPreviewWindow, s)

end PreviewHal

/-- What happens to a `CameraHal`: calls of the functions, and between them commands of other
functions and changes of the two flags that `stopPreview` reads. -/
inductive PreviewAction
  | startPreview (o : StartOutcome)
  | stopPreview (o : StopOutcome)
  | forceStopPreview (o : StopOutcome)
  | restartPreview (stop : StopOutcome) (start : StartOutcome)
  | setPreviewWindow (o : WindowOutcome)
  | command (operation : CameraCommands) (v : CommandValues) (outcome : Status)
  | setFlags (mRecordingEnabled mAfterTakePicture : Bool)

namespace PreviewHal

/-- One action. Other functions do not load preview buffers. -/
def step (s : PreviewHal) : PreviewAction → PreviewHal
  | .startPreview o => (s.startPreview o).2
  | .stopPreview o => s.stopPreview o
  | .forceStopPreview o => s.forceStopPreview o
  | .restartPreview stop start => (s.restartPreview stop start).2
  | .setPreviewWindow o => (s.setPreviewWindow o).2
  | .command operation v outcome =>
    if operation = .CAMERA_USE_BUFFERS_PREVIEW then s else (s.command operation v outcome).2
  | .setFlags mRecordingEnabled mAfterTakePicture =>
    { s with mRecordingEnabled := mRecordingEnabled, mAfterTakePicture := mAfterTakePicture }

/-- A new `CameraHal`, with a new camera adapter. -/
def new (mNextState : AdapterState) (subscribers : FrameType → KeyedVector Ptr Ptr) :
    PreviewHal where
  mPreviewEnabled := false
  mPreviewStartInProgress := false
  mDisplayPaused := false
  mSetPreviewWindowCalled := false
  mRecordingEnabled := false
  mAfterTakePicture := false
  mDisplayAdapter := none
  created := 0
  mPreviewBufs := none
  mBufProvider := none
  mCameraAdapter := fresh mNextState subscribers
  frees := []

/-! ### Sound buffers -/

/-- All buffers were freed as they should, and those that are there have their allocator alive and
known as their provider. -/
structure Sound (s : PreviewHal) : Prop where
  frees : ∀ f ∈ s.frees, f.Right
  bufs : ∀ b ∈ s.mPreviewBufs,
    s.mDisplayAdapter = some b.allocator ∧ s.mBufProvider = some b.allocator

/-- `startPreview` comes to the allocation of the buffers. -/
structure Allocates (s : PreviewHal) (o : StartOutcome) : Prop where
  enabled : s.mPreviewEnabled = false
  paused : s.mDisplayPaused = false
  window : s.mSetPreviewWindowCalled = true ∧ s.mDisplayAdapter.isSome = true
  /-- The resolution is known, or its query succeeds. -/
  query : s.mPreviewStartInProgress = true ∨
    s.mCameraAdapter.mAdapterState.base = INTIALIZED_STATE ∧ o.getFrameSize = NO_ERROR

/-- The conditions on the allocation of buffers: the display adapter has their offsets and their
descriptor, or was the last provider already; and once some of them are registered, which needs a
camera adapter that takes them, nothing fails. -/
def CarefulAllocation (s : PreviewHal) (takes : Prop) (o : StartOutcome) : Prop :=
  ∀ buffers ∈ o.allocateBuffer,
    ((o.getOffsets = true ∧ o.getFd = true) ∨ s.mBufProvider = s.mDisplayAdapter) ∧
    (o.getOffsets = true → o.getFd = true → o.maxQueueableBuffers = NO_ERROR → buffers ≠ [] →
      takes → o.useBuffers = NO_ERROR ∧ (o.start = NO_ERROR ∨ o.start = ALREADY_EXISTS) ∧
        o.enableDisplay = NO_ERROR ∧ o.startPreview = NO_ERROR)

/-- The conditions on a call of `startPreview`. The camera adapter takes buffers in its initial
state. -/
def CarefulStart (s : PreviewHal) (o : StartOutcome) : Prop :=
  s.Allocates o →
    s.CarefulAllocation (s.mCameraAdapter.mAdapterState.base = INTIALIZED_STATE) o

/-- The roll-back of `forceStopPreview` succeeds down to the preview. The hook that stops the face
detection is called before. -/
def Stops (s : PreviewHal) (o : StopOutcome) : Prop :=
  Undoes o.rollback (s.mCameraAdapter.hooks ++ [.stopFaceDetection]) s.mCameraAdapter

/-- The conditions on a call of `forceStopPreview`: where there are buffers, the camera adapter has
dropped them or can be rolled back. -/
def CarefulStop (s : PreviewHal) (o : StopOutcome) : Prop :=
  s.mPreviewBufs.isSome = true → s.mCameraAdapter.previewStream = ∅ ∨ s.Stops o

/-- The conditions on a call of `restartPreview`: those on the stop, and, if the camera adapter is
in its initial state after it, those on the allocation. -/
def CarefulRestart (s : PreviewHal) (stop : StopOutcome) (start : StartOutcome) : Prop :=
  s.CarefulStop stop ∧
    (s.mSetPreviewWindowCalled = true → s.mDisplayAdapter.isSome = true →
      s.mCameraAdapter.mAdapterState.base = INTIALIZED_STATE ∨ s.Stops stop →
        start.getFrameSize = NO_ERROR → s.CarefulAllocation True start)

/-- The conditions on an action. -/
def Careful (s : PreviewHal) : PreviewAction → Prop
  | .startPreview o => s.CarefulStart o
  | .stopPreview o => s.stops = true → s.mAfterTakePicture = false → s.CarefulStop o
  | .forceStopPreview o => s.CarefulStop o
  | .restartPreview stop start => s.CarefulRestart stop start
  | .setPreviewWindow o =>
    let s := { s with mSetPreviewWindowCalled := true }
    if o.window then
      match s.mDisplayAdapter with
      | none => o.initialized = NO_ERROR → s.mPreviewStartInProgress = true →
          s.createDisplayAdapter.CarefulStart o.start
      | some _ => o.setPreviewWindow = NO_ERROR → s.previewEnabled = true →
          s.CarefulRestart o.stop o.start
    else s.mPreviewBufs = none
  | .command _ _ _ => True
  | .setFlags _ _ => True

/-! ### Registration -/

/-- A registered buffer stays registered when others are added. -/
lemma isSome_registerBuffer (d : BuffersDescriptor) (buf : CameraStreamBuffer) (l : List ℕ)
    {stream : CameraStream} {b : Ptr}
    (h : (∃ i ∈ l, d.mBuffers i = b) ∨ (stream.find? b).isSome = true) :
    ((l.foldl (registerBuffer d buf) stream).find? b).isSome = true := by
  induction l generalizing stream with
  | nil =>
    rcases h with ⟨i, hi, -⟩ | h
    · cases hi
    · exact h
  | cons j l ih =>
    apply ih
    rcases h with ⟨i, hi, heq⟩ | h
    · rcases List.mem_cons.mp hi with rfl | hi
      · right
        rw [registerBuffer, KeyedVector.find?_add, if_pos heq.symm]
        rfl
      · exact Or.inl ⟨i, hi, heq⟩
    · right
      rw [registerBuffer, KeyedVector.find?_add]
      split_ifs
      · rfl
      · exact h

/-- After the registration of some buffers, the first of them is in the table. -/
lemma registered_registerBuffers (o : StartOutcome) {buffers : List Ptr} (h : buffers ≠ [])
    (t : FrameType) : Registered buffers (registerBuffers (previewDescriptor o buffers) t) := by
  obtain ⟨b, rest, rfl⟩ := List.exists_cons_of_ne_nil h
  refine ⟨b, List.mem_cons_self, ?_⟩
  unfold registerBuffers
  apply isSome_registerBuffer
  by_cases hq : 0 < (b :: rest).length - o.undequeued
  · right
    apply isSome_registerBuffer
    exact Or.inl ⟨0, List.mem_range.mpr hq, rfl⟩
  · left
    refine ⟨0, ?_, rfl⟩
    simp only [previewDescriptor, List.mem_range'_1]
    rw [Nat.eq_zero_of_not_pos hq]
    simp

/-- The registration of no buffers leaves an empty table. -/
lemma registerBuffers_nil (o : StartOutcome) (t : FrameType) :
    registerBuffers (previewDescriptor o []) t = ∅ := by
  simp [registerBuffers, previewDescriptor]

/-- Nothing is in an empty table. -/
lemma not_registered_empty (buffers : List Ptr) : ¬ Registered buffers ∅ := by
  rintro ⟨b, -, hb⟩
  simp at hb

/-! ### The invariant -/

/-- The buffers are sound. Where there are none, none are registered; where there are some, the
preview is enabled, and they are registered unless the table is empty. -/
structure Settled (s : PreviewHal) : Prop extends Sound s where
  free : s.mPreviewBufs = none → s.mCameraAdapter.previewStream = ∅
  used : ∀ b ∈ s.mPreviewBufs, s.mPreviewEnabled = true ∧
    (s.mCameraAdapter.previewStream = ∅ ∨
      Registered b.buffers s.mCameraAdapter.previewStream)

/-- The exact outcome of a function from a settled state: it leaves sound buffers exactly under a
condition, and then it leaves a settled state. -/
structure Keeps (s : PreviewHal) (c : Prop) : Prop where
  sound_iff : Sound s ↔ c
  settled : c → Settled s

/-- The condition may be replaced by an equivalent one. -/
lemma Keeps.congr {s : PreviewHal} {c c' : Prop} (h : Keeps s c) (hc : c ↔ c') : Keeps s c' :=
  ⟨h.sound_iff.trans hc, fun h' => h.settled (hc.mpr h')⟩

/-- A settled state. -/
lemma Settled.keeps {s : PreviewHal} (h : Settled s) : Keeps s True :=
  ⟨iff_true_intro h.toSound, fun _ => h⟩

/-- Only some of the state matters. -/
lemma Settled.of_same {s s' : PreviewHal} (h : Settled s)
    (hdisplay : s'.mDisplayAdapter = s.mDisplayAdapter)
    (hbufs : s'.mPreviewBufs = s.mPreviewBufs) (hprovider : s'.mBufProvider = s.mBufProvider)
    (hfrees : s'.frees = s.frees) (henabled : s.mPreviewEnabled = true → s'.mPreviewEnabled = true)
    (hstream : KeepsOrDrops s.mCameraAdapter s'.mCameraAdapter) : Settled s' := by
  refine ⟨⟨?_, ?_⟩, ?_, ?_⟩
  · rw [hfrees]
    exact h.frees
  · rw [hdisplay, hbufs, hprovider]
    exact h.bufs
  · intro hnone
    rcases hstream with hstream | hstream
    · rw [hstream]
      exact h.free (hbufs ▸ hnone)
    · exact hstream
  · intro b hb
    rw [hbufs] at hb
    obtain ⟨hon, htable⟩ := h.used b hb
    refine ⟨henabled hon, ?_⟩
    rcases hstream with hstream | hstream
    · rw [hstream]
      exact htable
    · exact Or.inl hstream

/-! ### Freeing the buffers -/

/-- If the buffers are freed now, they are freed as they should. -/
def FreesRight (s : PreviewHal) : Prop :=
  ∀ b ∈ s.mPreviewBufs, s.mBufProvider = some b.allocator ∧ s.mDisplayAdapter = some b.allocator ∧
    ¬ Registered b.buffers s.mCameraAdapter.previewStream

/-- The buffers are freed and nothing else happens to them. -/
lemma keeps_of_freed {s s' : PreviewHal} (hright : ∀ f ∈ s.frees, f.Right)
    (hbufs : s'.mPreviewBufs = none) (hfrees : s'.frees = s.freePreviewBufs.frees)
    (hstream : s.FreesRight → s'.mCameraAdapter.previewStream = ∅) : Keeps s' s.FreesRight := by
  have hsound : Sound s' ↔ s.FreesRight := by
    have hnone : ∀ b ∈ s'.mPreviewBufs, s'.mDisplayAdapter = some b.allocator ∧
        s'.mBufProvider = some b.allocator := by
      intro b hb
      rw [hbufs] at hb
      cases hb
    have hiff : Sound s' ↔ ∀ f ∈ s.freePreviewBufs.frees, f.Right :=
      ⟨fun h => hfrees ▸ h.frees, fun h => ⟨hfrees ▸ h, hnone⟩⟩
    rw [hiff]
    unfold freePreviewBufs FreesRight
    cases hb : s.mPreviewBufs with
    | none => exact iff_of_true hright fun b hb => by cases hb
    | some b =>
      constructor
      · intro h c hc
        obtain rfl := Option.some.inj hc
        obtain ⟨hprovider, halive, hunregistered⟩ :=
          h _ (List.mem_append_right s.frees (List.mem_singleton_self _))
        exact ⟨hprovider, halive, of_decide_eq_false hunregistered⟩
      · intro h f hf
        rcases List.mem_append.mp hf with hf | hf
        · exact hright f hf
        · obtain ⟨hprovider, halive, hunregistered⟩ := h b rfl
          rw [List.mem_singleton.mp hf]
          exact ⟨hprovider, halive, decide_eq_false hunregistered⟩
  refine ⟨hsound, fun h => ⟨hsound.mpr h, fun _ => hstream h, ?_⟩⟩
  intro b hb
  rw [hbufs] at hb
  cases hb

/-- There are buffers of the present display adapter, and nothing was freed wrongly. -/
structure HasBuffers (s : PreviewHal) (b : Allocation) : Prop where
  frees : ∀ f ∈ s.frees, f.Right
  bufs : s.mPreviewBufs = some b
  display : s.mDisplayAdapter = some b.allocator
  provider : s.mBufProvider = some b.allocator

/-- A command to the camera adapter leaves the buffers alone. -/
lemma HasBuffers.command {s : PreviewHal} {b : Allocation} (h : HasBuffers s b)
    (operation : CameraCommands) (v : CommandValues) (outcome : Status) :
    HasBuffers (s.command operation v outcome).2 b :=
  ⟨h.frees, h.bufs, h.display, h.provider⟩

/-- Such buffers are freed as they should unless they are registered. -/
lemma HasBuffers.freesRight_iff {s : PreviewHal} {b : Allocation} (h : HasBuffers s b) :
    s.FreesRight ↔ ¬ Registered b.buffers s.mCameraAdapter.previewStream := by
  simp [FreesRight, h.bufs, h.display, h.provider]

/-- `freePreviewBufs` only changes the buffers and the calls of `freeBuffer`. -/
lemma freePreviewBufs_spec (s : PreviewHal) :
    ∃ frees, s.freePreviewBufs = { s with mPreviewBufs := none, frees := frees } := by
  unfold freePreviewBufs
  split
  · rename_i hnone
    exact ⟨s.frees, by rw [← hnone]⟩
  · exact ⟨_, rfl⟩

/-- Nothing is left after the buffers are freed. -/
lemma mPreviewBufs_freePreviewBufs (s : PreviewHal) : s.freePreviewBufs.mPreviewBufs = none := by
  obtain ⟨frees, hfree⟩ := freePreviewBufs_spec s
  rw [hfree]

/-- The camera adapter is not told. -/
lemma mCameraAdapter_freePreviewBufs (s : PreviewHal) :
    s.freePreviewBufs.mCameraAdapter = s.mCameraAdapter := by
  obtain ⟨frees, hfree⟩ := freePreviewBufs_spec s
  rw [hfree]

/-- A command other than the one that loads preview buffers keeps or drops them. -/
lemma keepsOrDrops_command {operation : CameraCommands}
    (hop : operation ≠ .CAMERA_USE_BUFFERS_PREVIEW) (v : CommandValues) (outcome : Status)
    (s : PreviewHal) :
    KeepsOrDrops s.mCameraAdapter (s.command operation v outcome).2.mCameraAdapter :=
  keepsOrDrops_sendCommand hop v outcome s.mCameraAdapter

/-- The clean-up of `startPreview`. -/
lemma keeps_startPreviewError {s : PreviewHal} (o : StartOutcome) (ret : Status)
    (hright : ∀ f ∈ s.frees, f.Right)
    (hstream : s.FreesRight → s.mCameraAdapter.previewStream = ∅) :
    Keeps (s.startPreviewError o ret).2 s.FreesRight := by
  refine keeps_of_freed hright ?_ rfl ?_
  · exact mPreviewBufs_freePreviewBufs s
  · intro h
    have hkept : KeepsOrDrops s.freePreviewBufs.mCameraAdapter
        (s.startPreviewError o ret).2.mCameraAdapter :=
      keepsOrDrops_command
        (by decide : CameraCommands.CAMERA_STOP_PREVIEW ≠ .CAMERA_USE_BUFFERS_PREVIEW)
        CommandValues.zero o.stopPreview s.freePreviewBufs
    rcases hkept with hsame | hempty
    · rw [hsame, mCameraAdapter_freePreviewBufs]
      exact hstream h
    · exact hempty

/-- The clean-up of `startPreview` where there are buffers: they must not be registered. -/
lemma keeps_startPreviewError_some {s : PreviewHal} (o : StartOutcome) (ret : Status)
    {b : Allocation} (hb : HasBuffers s b)
    (htable : s.mCameraAdapter.previewStream = ∅ ∨
      Registered b.buffers s.mCameraAdapter.previewStream) :
    Keeps (s.startPreviewError o ret).2
      (¬ Registered b.buffers s.mCameraAdapter.previewStream) := by
  rw [← hb.freesRight_iff]
  exact keeps_startPreviewError o ret hb.frees fun h =>
    htable.resolve_right (hb.freesRight_iff.mp h)

/-! ### Starting the preview -/

/-- `startPreview` once the buffers are registered: if they are, nothing may fail. -/
lemma keeps_startRegistered {s : PreviewHal} (o : StartOutcome) {b : Allocation}
    (hb : HasBuffers s b)
    (htable : s.mCameraAdapter.previewStream = ∅ ∨
      Registered b.buffers s.mCameraAdapter.previewStream) :
    Keeps (s.startRegistered o).2 (Registered b.buffers s.mCameraAdapter.previewStream →
      (o.start = NO_ERROR ∨ o.start = ALREADY_EXISTS) ∧ o.enableDisplay = NO_ERROR ∧
        (s.command .CAMERA_START_PREVIEW CommandValues.zero o.startPreview).1 = NO_ERROR) := by
  have herror : ∀ ret, Keeps (s.startPreviewError o ret).2
      (¬ Registered b.buffers s.mCameraAdapter.previewStream) := fun ret =>
    keeps_startPreviewError_some o ret hb htable
  have hstream : (s.command .CAMERA_START_PREVIEW CommandValues.zero
      o.startPreview).2.mCameraAdapter.previewStream = s.mCameraAdapter.previewStream :=
    previewStream_sendCommand_START_PREVIEW CommandValues.zero o.startPreview s.mCameraAdapter
  unfold startRegistered
  by_cases hstart : (if o.start = ALREADY_EXISTS then NO_ERROR else o.start) = NO_ERROR
  · rw [if_neg (not_not_intro hstart)]
    have hstarted : o.start = NO_ERROR ∨ o.start = ALREADY_EXISTS := by
      split_ifs at hstart with hexists
      · exact Or.inr hexists
      · exact Or.inl hstart
    by_cases henable : o.enableDisplay = NO_ERROR
    · rw [if_neg (not_not_intro henable)]
      dsimp only
      by_cases hlast :
          (s.command .CAMERA_START_PREVIEW CommandValues.zero o.startPreview).1 = NO_ERROR
      · rw [if_neg (not_not_intro hlast)]
        refine Keeps.congr (c := True) (Settled.keeps ⟨⟨hb.frees, ?_⟩, ?_, ?_⟩)
          (iff_of_true trivial fun _ => ⟨hstarted, henable, hlast⟩)
        · intro c hc
          obtain rfl : b = c := Option.some.inj (hb.bufs.symm.trans hc)
          exact ⟨hb.display, hb.provider⟩
        · intro hnone
          exact absurd (hb.bufs.symm.trans hnone) (Option.some_ne_none b)
        · intro c hc
          obtain rfl : b = c := Option.some.inj (hb.bufs.symm.trans hc)
          refine ⟨rfl, ?_⟩
          rw [hstream]
          exact htable
      · rw [if_pos hlast]
        have herror' := keeps_startPreviewError_some o
          (s.command .CAMERA_START_PREVIEW CommandValues.zero o.startPreview).1
          (hb.command .CAMERA_START_PREVIEW CommandValues.zero o.startPreview) (hstream ▸ htable)
        rw [hstream] at herror'
        exact herror'.congr ⟨fun h hr => absurd hr h, fun h hr => hlast (h hr).2.2⟩
    · rw [if_pos henable]
      exact (herror _).congr ⟨fun h hr => absurd hr h, fun h hr => henable (h hr).2.1⟩
  · rw [if_pos hstart]
    refine (herror _).congr ⟨fun h hr => absurd hr h, fun h hr => hstart ?_⟩
    rcases (h hr).1 with h0 | h0
    · rw [h0]
      decide
    · rw [if_pos h0]

/-- Some buffers are registered exactly if the camera adapter takes them. -/
lemma registered_USE_BUFFERS_PREVIEW {s : PreviewHal} (o : StartOutcome) (buffers : List Ptr)
    (hstream : s.mCameraAdapter.previewStream = ∅) :
    let loaded := (s.command .CAMERA_USE_BUFFERS_PREVIEW (useBuffersValues o buffers)
      o.useBuffers).2.mCameraAdapter.previewStream
    (Registered buffers loaded ↔
        buffers ≠ [] ∧ s.mCameraAdapter.mAdapterState.base = INTIALIZED_STATE) ∧
      (loaded = ∅ ∨ Registered buffers loaded) := by
  intro loaded
  have htable : loaded =
      if (setState s.mCameraAdapter.mAdapterState .CAMERA_USE_BUFFERS_PREVIEW).isSome then
        registerBuffers (previewDescriptor o buffers) .PREVIEW_FRAME_SYNC
      else s.mCameraAdapter.previewStream :=
    (sendCommand_USE_BUFFERS_PREVIEW (previewDescriptor o buffers) (useBuffersValues o buffers)
      rfl o.useBuffers s.mCameraAdapter).2
  rw [htable, hstream, setState_USE_BUFFERS_PREVIEW]
  by_cases htakes : s.mCameraAdapter.mAdapterState.base = INTIALIZED_STATE
  · rw [if_pos htakes, if_pos Option.isSome_some]
    by_cases hnil : buffers = []
    · rw [hnil, registerBuffers_nil]
      exact ⟨iff_of_false (not_registered_empty []) fun h => h.1 rfl, Or.inl rfl⟩
    · have hregistered := registered_registerBuffers o hnil .PREVIEW_FRAME_SYNC
      exact ⟨iff_of_true hregistered ⟨hnil, htakes⟩, Or.inr hregistered⟩
  · rw [if_neg htakes, if_neg (by decide)]
    exact ⟨iff_of_false (not_registered_empty buffers) fun h => htakes h.2, Or.inl rfl⟩

/-- `startPreview` once the buffers are allocated. -/
lemma keeps_useBuffers {s : PreviewHal} (o : StartOutcome) {b : Allocation}
    (hb : HasBuffers s b) (hstream : s.mCameraAdapter.previewStream = ∅)
    {loaded : Status × PreviewHal}
    (hloaded : loaded = s.command .CAMERA_USE_BUFFERS_PREVIEW (useBuffersValues o b.buffers)
      o.useBuffers) :
    Keeps (if loaded.1 ≠ NO_ERROR then (loaded.1, loaded.2.freePreviewBufs)
        else loaded.2.startRegistered o).2
      (b.buffers ≠ [] → s.mCameraAdapter.mAdapterState.base = INTIALIZED_STATE →
        o.useBuffers = NO_ERROR ∧ (o.start = NO_ERROR ∨ o.start = ALREADY_EXISTS) ∧
          o.enableDisplay = NO_ERROR ∧ o.startPreview = NO_ERROR) := by
  obtain ⟨hregistered, htable⟩ := registered_USE_BUFFERS_PREVIEW o b.buffers hstream
  rw [← hloaded] at hregistered htable
  have hstatus : loaded.1 = o.useBuffers := by
    rw [hloaded]
    exact (sendCommand_USE_BUFFERS_PREVIEW (previewDescriptor o b.buffers)
      (useBuffersValues o b.buffers) rfl o.useBuffers s.mCameraAdapter).1
  have hb' : HasBuffers loaded.2 b := by
    rw [hloaded]
    exact hb.command .CAMERA_USE_BUFFERS_PREVIEW (useBuffersValues o b.buffers) o.useBuffers
  by_cases huse : o.useBuffers = NO_ERROR
  · rw [if_neg (not_not_intro (hstatus.trans huse))]
    refine (keeps_startRegistered o hb' htable).congr ?_
    have hstart : s.mCameraAdapter.mAdapterState.base = INTIALIZED_STATE →
        (loaded.2.command .CAMERA_START_PREVIEW CommandValues.zero o.startPreview).1 =
          o.startPreview := by
      intro htakes
      rw [hloaded]
      refine sendCommand_START_PREVIEW_of_loaded (useBuffersValues o b.buffers)
        CommandValues.zero rfl ?_ huse o.startPreview
      rw [setState_USE_BUFFERS_PREVIEW, if_pos htakes]
      rfl
    rw [hregistered]
    constructor
    · intro h hnil htakes
      obtain ⟨hstarted, henable, hlast⟩ := h ⟨hnil, htakes⟩
      exact ⟨huse, hstarted, henable, (hstart htakes).symm.trans hlast⟩
    · intro h hr
      obtain ⟨-, hstarted, henable, hlast⟩ := h hr.1 hr.2
      exact ⟨hstarted, henable, (hstart hr.2).trans hlast⟩
  · rw [if_pos fun h => huse (hstatus.symm.trans h)]
    have hkeeps : Keeps loaded.2.freePreviewBufs loaded.2.FreesRight := by
      refine keeps_of_freed hb'.frees (mPreviewBufs_freePreviewBufs loaded.2) rfl fun h => ?_
      rw [mCameraAdapter_freePreviewBufs]
      exact htable.resolve_right (hb'.freesRight_iff.mp h)
    refine hkeeps.congr (hb'.freesRight_iff.trans ?_)
    rw [hregistered]
    exact ⟨fun h hnil hstate => absurd ⟨hnil, hstate⟩ h, fun h hr => huse (h hr.1 hr.2).1⟩

/-- `allocPreviewBufs` where there are no buffers. -/
lemma allocPreviewBufs_of_none {s : PreviewHal} (o : StartOutcome) {display : ℕ}
    (hbufs : s.mPreviewBufs = none) (hdisplay : s.mDisplayAdapter = some display) :
    s.allocPreviewBufs o = match o.allocateBuffer with
      | none => (NO_MEMORY, s)
      | some buffers =>
        if o.getOffsets = true ∧ o.getFd = true then
          (o.maxQueueableBuffers, { s with
            mPreviewBufs := some ⟨display, buffers⟩, mBufProvider := some display })
        else (BAD_VALUE, { s with mPreviewBufs := some ⟨display, buffers⟩ }) := by
  unfold allocPreviewBufs
  cases o.allocateBuffer <;> cases o.getOffsets <;> cases o.getFd <;> simp [hdisplay, hbufs]

/-- `startPreview` from the allocation of the buffers on, where there are none. -/
lemma keeps_startAllocation {s : PreviewHal} (o : StartOutcome) {display : ℕ}
    (hright : ∀ f ∈ s.frees, f.Right) (hbufs : s.mPreviewBufs = none)
    (hdisplay : s.mDisplayAdapter = some display)
    (hstream : s.mCameraAdapter.previewStream = ∅) :
    Keeps (s.startAllocation o).2
      (s.CarefulAllocation (s.mCameraAdapter.mAdapterState.base = INTIALIZED_STATE) o) := by
  have hunregistered : ∀ buffers, ¬ Registered buffers s.mCameraAdapter.previewStream := by
    intro buffers
    rw [hstream]
    exact not_registered_empty buffers
  unfold startAllocation CarefulAllocation
  rw [allocPreviewBufs_of_none o hbufs hdisplay]
  cases halloc : o.allocateBuffer with
  | none =>
    dsimp only
    rw [if_pos (by decide)]
    refine (keeps_startPreviewError o NO_MEMORY hright fun _ => hstream).congr
      (iff_of_true ?_ fun buffers h => by cases h)
    intro b hb
    rw [hbufs] at hb
    cases hb
  | some buffers =>
    have hmiss : ∀ ret, Keeps (startPreviewError o ret { s with
        mPreviewBufs := some ⟨display, buffers⟩ }).2 (s.mBufProvider = some display) := by
      intro ret
      refine Keeps.congr (keeps_startPreviewError o ret ?_ fun _ => hstream) ?_
      · exact hright
      · simp [FreesRight, hdisplay, hunregistered buffers]
    dsimp only
    by_cases hmapped : o.getOffsets = true ∧ o.getFd = true
    · rw [if_pos hmapped]
      dsimp only
      by_cases hmax : o.maxQueueableBuffers = NO_ERROR
      · rw [if_neg (not_not_intro hmax)]
        have hb : HasBuffers { s with
            mPreviewBufs := some ⟨display, buffers⟩, mBufProvider := some display }
            ⟨display, buffers⟩ := ⟨hright, rfl, hdisplay, rfl⟩
        refine Keeps.congr (keeps_useBuffers o hb ?_ rfl)
          ⟨fun h c hc => ?_, fun h => (h buffers rfl).2 hmapped.1 hmapped.2 hmax⟩
        · exact hstream
        · obtain rfl := Option.some.inj hc
          exact ⟨Or.inl hmapped, fun _ _ _ => h⟩
      · rw [if_pos hmax]
        refine Keeps.congr (keeps_startPreviewError o o.maxQueueableBuffers ?_ fun _ => hstream)
          (iff_of_true ?_ ?_)
        · exact hright
        · simp [FreesRight, hdisplay, hunregistered buffers]
        · exact fun _ _ => ⟨Or.inl hmapped, fun _ _ h => absurd h hmax⟩
    · rw [if_neg hmapped]
      dsimp only
      rw [if_pos (by decide)]
      refine (hmiss BAD_VALUE).congr
        ⟨fun h _ _ => ⟨Or.inr (h.trans hdisplay.symm), ?_⟩, fun h => ?_⟩
      · exact fun hoffsets hfd => absurd ⟨hoffsets, hfd⟩ hmapped
      · exact ((h buffers rfl).1.resolve_left hmapped).trans hdisplay

/-- What the query of the resolution returns. -/
lemma queryResolution_status {s : PreviewHal} (o : StartOutcome)
    (h : s.mPreviewStartInProgress = false ∧ s.mDisplayPaused = false) :
    (s.queryResolution o).1 =
      if s.mCameraAdapter.mAdapterState.base = INTIALIZED_STATE then o.getFrameSize
      else INVALID_OPERATION := by
  unfold queryResolution command
  simp only [h.1, h.2, Bool.not_false, Bool.and_true, if_true, sendCommand, transact, queryValues,
    query, callHook, setState_QUERY_RESOLUTION_PREVIEW]
  split_ifs <;> exact settle_status _ _

/-- When the query of the resolution does not fail. -/
lemma queryFails_eq_false (o : StartOutcome) (s : PreviewHal) :
    s.queryFails o = false ↔ s.mPreviewStartInProgress = true ∨ s.mDisplayPaused = true ∨
      s.mCameraAdapter.mAdapterState.base = INTIALIZED_STATE ∧ o.getFrameSize = NO_ERROR := by
  unfold queryFails
  cases hprogress : s.mPreviewStartInProgress with
  | true => simp
  | false =>
    cases hpaused : s.mDisplayPaused with
    | true => simp
    | false =>
      rw [queryResolution_status o ⟨hprogress, hpaused⟩]
      split_ifs with hbase
      · simp [hbase]
      · simp [hbase, (by decide : INVALID_OPERATION ≠ NO_ERROR)]

/-- A query that does not fail leaves the adapter initialized if it was so before. -/
lemma base_queryResolution {s : PreviewHal} (o : StartOutcome) (h : s.queryFails o = false) :
    (s.queryResolution o).2.mCameraAdapter.mAdapterState.base = INTIALIZED_STATE ↔
      s.mCameraAdapter.mAdapterState.base = INTIALIZED_STATE := by
  by_cases hasks : (!s.mPreviewStartInProgress && !s.mDisplayPaused) = true
  · have hbase : s.mCameraAdapter.mAdapterState.base = INTIALIZED_STATE ∧
        o.getFrameSize = NO_ERROR := by
      simp only [Bool.and_eq_true, Bool.not_eq_true'] at hasks
      simpa [hasks] using (queryFails_eq_false o s).mp h
    refine iff_of_true ?_ hbase.1
    simp only [queryResolution, hasks, if_true, command, sendCommand, transact,
      setState_QUERY_RESOLUTION_PREVIEW, hbase, queryValues, query, callHook, id_eq,
      settle_mAdapterState]
    decide
  · rw [queryResolution, if_neg hasks]

/-- The query of the resolution only changes the camera adapter, which keeps or drops its preview
buffers. -/
lemma queryResolution_spec (o : StartOutcome) (s : PreviewHal) :
    ∃ a, (s.queryResolution o).2 = { s with mCameraAdapter := a } ∧
      KeepsOrDrops s.mCameraAdapter a := by
  unfold queryResolution
  split_ifs
  · exact ⟨_, rfl, keepsOrDrops_command
      (by decide : CameraCommands.CAMERA_QUERY_RESOLUTION_PREVIEW ≠ .CAMERA_USE_BUFFERS_PREVIEW)
      (queryValues o) o.getFrameSize s⟩
  · exact ⟨s.mCameraAdapter, rfl, KeepsOrDrops.refl _⟩

/-- The query of the resolution does not concern the buffers. -/
lemma Settled.queryResolution {s : PreviewHal} (h : Settled s) (o : StartOutcome) :
    Settled (s.queryResolution o).2 := by
  obtain ⟨a, hquery, hkept⟩ := queryResolution_spec o s
  rw [hquery]
  exact h.of_same rfl rfl rfl rfl id hkept

/-- `startPreview` goes on to the allocation of the buffers, or it is over before that and nothing
has happened to them. -/
lemma startPreview_cases {s : PreviewHal} (h : Settled s) (o : StartOutcome) :
    (s.Allocates o ∧ s.startPreview o = (s.queryResolution o).2.startAllocation o) ∨
      ¬ s.Allocates o ∧ Settled (s.startPreview o).2 := by
  obtain ⟨a, hquery, -⟩ := queryResolution_spec o s
  have hsettled := h.queryResolution o
  unfold startPreview
  by_cases henabled : s.mPreviewEnabled = true
  · rw [if_pos henabled]
    exact Or.inr ⟨fun ha => by simp [ha.enabled] at henabled, h⟩
  · rw [if_neg henabled]
    simp only [Bool.not_eq_true] at henabled
    dsimp only
    by_cases hfails : s.queryFails o = true
    · rw [if_pos hfails]
      refine Or.inr ⟨fun ha => ?_, hsettled⟩
      have hok := (queryFails_eq_false o s).mpr (ha.query.imp_right Or.inr)
      simp [hfails] at hok
    · rw [if_neg hfails]
      simp only [Bool.not_eq_true] at hfails
      by_cases hwindow :
          (!(s.queryResolution o).2.mSetPreviewWindowCalled ||
            (s.queryResolution o).2.mDisplayAdapter.isNone) = true
      · rw [if_pos hwindow]
        refine Or.inr ⟨fun ha => ?_, hsettled.of_same rfl rfl rfl rfl id (KeepsOrDrops.refl _)⟩
        obtain ⟨hcalled, hthere⟩ := ha.window
        simp only [hquery, hcalled, Bool.not_true, Bool.false_or] at hwindow
        rw [Option.isNone_iff_eq_none.mp hwindow] at hthere
        cases hthere
      · rw [if_neg hwindow]
        rw [hquery] at hwindow
        by_cases hpaused : (s.queryResolution o).2.mDisplayPaused = true
        · rw [if_pos hpaused]
          refine Or.inr ⟨fun ha => ?_,
            hsettled.of_same rfl rfl rfl rfl (fun _ => rfl) (KeepsOrDrops.refl _)⟩
          rw [hquery] at hpaused
          exact absurd hpaused (Bool.eq_false_iff.mp ha.paused)
        · rw [if_neg hpaused]
          rw [hquery] at hpaused
          have hunpaused : s.mDisplayPaused = false := Bool.eq_false_iff.mpr hpaused
          refine Or.inl ⟨⟨henabled, hunpaused, ?_, ?_⟩, rfl⟩
          · simpa [Option.isSome_iff_ne_none] using hwindow
          · exact ((queryFails_eq_false o s).mp hfails).imp_right fun hq =>
              hq.resolve_left (Bool.eq_false_iff.mp hunpaused)

/-- `startPreview`. -/
lemma keeps_startPreview {s : PreviewHal} (h : Settled s) (o : StartOutcome) :
    Keeps (s.startPreview o).2 (s.CarefulStart o) := by
  unfold CarefulStart
  rcases startPreview_cases h o with ⟨hallocates, hgoes⟩ | ⟨hnot, hsettled⟩
  · obtain ⟨a, hquery, -⟩ := queryResolution_spec o s
    have hsettled := h.queryResolution o
    have hfails : s.queryFails o = false :=
      (queryFails_eq_false o s).mpr (hallocates.query.imp_right Or.inr)
    have hprovider : (s.queryResolution o).2.mBufProvider = s.mBufProvider := by
      rw [hquery]
    have hsame : (s.queryResolution o).2.mDisplayAdapter = s.mDisplayAdapter := by
      rw [hquery]
    obtain ⟨display, hdisplay⟩ := Option.isSome_iff_exists.mp hallocates.window.2
    -- buffers are there only while the preview is enabled
    have hnone : (s.queryResolution o).2.mPreviewBufs = none := by
      refine Option.eq_none_iff_forall_ne_some.mpr fun b hb => ?_
      rw [hquery] at hb
      exact absurd (h.used b hb).1 (Bool.eq_false_iff.mp hallocates.enabled)
    rw [hgoes]
    refine (keeps_startAllocation o hsettled.frees hnone (hsame.trans hdisplay)
      (hsettled.free hnone)).congr ?_
    rw [imp_iff_right hallocates]
    unfold CarefulAllocation
    rw [hprovider, hsame, base_queryResolution o hfails]
  · exact hsettled.keeps.congr (iff_of_true trivial fun ha => absurd ha hnot)

/-! ### Stopping the preview -/

/-- The camera adapter keeps or drops its preview buffers when the face detection is stopped. -/
lemma stopFaces_spec (outcome : Status) (s : PreviewHal) :
    ∃ a, s.stopFaces outcome = { s with mCameraAdapter := a } ∧
      KeepsOrDrops s.mCameraAdapter a := by
  unfold stopFaces
  split_ifs
  · exact ⟨_, rfl, keepsOrDrops_command
      (by decide : CameraCommands.CAMERA_STOP_FD ≠ .CAMERA_USE_BUFFERS_PREVIEW)
      CommandValues.zero outcome s⟩
  · exact ⟨s.mCameraAdapter, rfl, KeepsOrDrops.refl _⟩

/-- The roll-back only changes the camera adapter, which keeps or drops its preview buffers. -/
lemma rollBack_spec (o : StopOutcome) (s : PreviewHal) :
    ∃ a, s.rollBack o = { s with mCameraAdapter := a } ∧ KeepsOrDrops s.mCameraAdapter a := by
  obtain ⟨a, hfaces, hkept⟩ := stopFaces_spec o.stopFaceDetection s
  refine ⟨a.rolledBackToInitialized o.rollback, ?_, ?_⟩
  · unfold rollBack
    rw [hfaces]
  · exact hkept.trans (keepsOrDrops_rollback o.rollback a).1

/-- Where the roll-back of `forceStopPreview` leads. -/
lemma rollBack_iff (o : StopOutcome) (s : PreviewHal) :
    ((s.rollBack o).mCameraAdapter.mAdapterState.base = INTIALIZED_STATE ↔
      s.mCameraAdapter.mAdapterState.base = INTIALIZED_STATE ∨ s.Stops o) ∧
    ((s.rollBack o).mCameraAdapter.previewStream = ∅ ↔
      s.mCameraAdapter.previewStream = ∅ ∨ s.Stops o) := by
  have hlead := rolledBackToInitialized_iff o.rollback
    (s.stopFaces o.stopFaceDetection).mCameraAdapter
  have hroll : (s.rollBack o).mCameraAdapter =
      (s.stopFaces o.stopFaceDetection).mCameraAdapter.rolledBackToInitialized o.rollback := rfl
  rw [← hroll] at hlead
  by_cases hactive : s.mCameraAdapter.mAdapterState.Has PREVIEW_ACTIVE
  · have hfaces : (s.stopFaces o.stopFaceDetection).mCameraAdapter =
        (callHook .stopFaceDetection o.stopFaceDetection s.mCameraAdapter).2 := by
      rw [stopFaces, if_pos hactive]
      rfl
    have hundoes : Undoes o.rollback (s.stopFaces o.stopFaceDetection).mCameraAdapter.hooks
        (s.stopFaces o.stopFaceDetection).mCameraAdapter ↔ s.Stops o := by
      rw [hfaces]
      exact ⟨fun h => ⟨h.base, h.recording, h.hooks⟩, fun h => ⟨h.base, h.recording, h.hooks⟩⟩
    rw [hundoes, hfaces] at hlead
    exact hlead
  · have hfaces : s.stopFaces o.stopFaceDetection = s := by
      rw [stopFaces, if_neg hactive]
    have hnot : ∀ called, ¬ Undoes o.rollback called s.mCameraAdapter := fun called hu =>
      hactive (has_preview_of_unwinding hu.base)
    rw [hfaces, or_iff_left (hnot _), or_iff_left (hnot _)] at hlead
    rw [Stops, or_iff_left (hnot _), or_iff_left (hnot _)]
    exact hlead

/-- `forceStopPreview`. -/
lemma keeps_forceStopPreview {s : PreviewHal} (h : Settled s) (o : StopOutcome) :
    Keeps (s.forceStopPreview o) (s.CarefulStop o) := by
  obtain ⟨a, hroll, hkept⟩ := rollBack_spec o s
  have hsettled : Settled (s.rollBack o) := by
    rw [hroll]
    exact h.of_same rfl rfl rfl rfl id hkept
  have hbufs : (s.rollBack o).mPreviewBufs = s.mPreviewBufs := by
    rw [hroll]
  have hdrops := (rollBack_iff o s).2
  have hfree : (s.rollBack o).FreesRight ↔ s.CarefulStop o := by
    unfold CarefulStop
    rw [← hdrops, ← hbufs]
    constructor
    · intro hf hsome
      obtain ⟨b, hb⟩ := Option.isSome_iff_exists.mp hsome
      exact (hsettled.used b hb).2.resolve_right (hf b hb).2.2
    · intro hc b hb
      obtain ⟨hdisplay, hprovider⟩ := hsettled.bufs b hb
      refine ⟨hprovider, hdisplay, ?_⟩
      rw [hc (by rw [hb]; rfl)]
      exact not_registered_empty b.buffers
  refine Keeps.congr (keeps_of_freed hsettled.frees ?_ rfl ?_) hfree
  · exact mPreviewBufs_freePreviewBufs (s.rollBack o)
  · intro hf
    show (s.rollBack o).freePreviewBufs.mCameraAdapter.previewStream = ∅
    rw [mCameraAdapter_freePreviewBufs]
    cases hb : (s.rollBack o).mPreviewBufs with
    | none => exact hsettled.free hb
    | some b =>
      apply hdrops.mpr
      apply hfree.mp hf
      rw [← hbufs, hb]
      rfl

/-- `stopPreview`. -/
lemma keeps_stopPreview {s : PreviewHal} (h : Settled s) (o : StopOutcome) :
    Keeps (s.stopPreview o)
      (s.stops = true → s.mAfterTakePicture = false → s.CarefulStop o) := by
  unfold stopPreview
  by_cases hstops : s.stops = true
  · rw [if_neg (by simp [hstops])]
    by_cases hafter : s.mAfterTakePicture = true
    · rw [if_pos hafter]
      obtain ⟨a, hfaces, hkept⟩ := stopFaces_spec o.stopFaceDetection s
      rw [hfaces]
      refine Keeps.congr (Settled.keeps (h.of_same rfl rfl rfl rfl id ?_))
        (iff_of_true trivial fun _ hnot => absurd hafter (Bool.eq_false_iff.mp hnot))
      exact hkept.trans (keepsOrDrops_rollback o.rollback a).2
    · rw [if_neg hafter]
      refine (keeps_forceStopPreview h o).congr ⟨fun hc _ _ => hc, fun hc => hc hstops ?_⟩
      exact Bool.eq_false_iff.mpr hafter
  · rw [if_pos (by simp [hstops])]
    exact h.keeps.congr (iff_of_true trivial fun hs => absurd hs hstops)

/-! ### Restarts -/

/-- A call of `freeBuffer` is not forgotten when the buffers are freed. -/
lemma mem_frees_freePreviewBufs {s : PreviewHal} {f : Free} (hf : f ∈ s.frees) :
    f ∈ s.freePreviewBufs.frees := by
  unfold freePreviewBufs
  split
  · exact hf
  · exact List.mem_append_left _ hf

/-- The clean-up of `startPreview` forgets no call of `freeBuffer`. -/
lemma mem_frees_startPreviewError {s : PreviewHal} {f : Free} (o : StartOutcome) (ret : Status)
    (hf : f ∈ s.frees) : f ∈ (s.startPreviewError o ret).2.frees :=
  mem_frees_freePreviewBufs hf

/-- `startPreview` forgets no call of `freeBuffer` once the buffers are registered. -/
lemma mem_frees_startRegistered {s : PreviewHal} {f : Free} (o : StartOutcome)
    (hf : f ∈ s.frees) : f ∈ (s.startRegistered o).2.frees := by
  unfold startRegistered
  generalize (if o.start = ALREADY_EXISTS then NO_ERROR else o.start) = ret
  dsimp only
  split_ifs
  · exact mem_frees_startPreviewError o _ hf
  · exact mem_frees_startPreviewError o _ hf
  · exact mem_frees_startPreviewError o _ hf
  · exact hf

/-- The allocation of the buffers frees none. -/
lemma frees_allocPreviewBufs (o : StartOutcome) (s : PreviewHal) :
    (s.allocPreviewBufs o).2.frees = s.frees := by
  unfold allocPreviewBufs
  split
  · rfl
  · split
    · rfl
    · split
      · rfl
      · dsimp only
        split_ifs <;> rfl

/-- `startPreview` forgets no call of `freeBuffer`. -/
lemma mem_frees_startPreview {s : PreviewHal} {f : Free} (o : StartOutcome) (hf : f ∈ s.frees) :
    f ∈ (s.startPreview o).2.frees := by
  obtain ⟨a, hquery, -⟩ := queryResolution_spec o s
  have hf' : f ∈ (s.queryResolution o).2.frees := by
    rw [hquery]
    exact hf
  unfold startPreview
  dsimp only
  generalize (if (s.queryResolution o).1 = NO_ERROR then o.pauseDisplay
    else (s.queryResolution o).1) = ret
  split_ifs
  · exact hf
  · exact hf'
  · exact hf'
  · exact hf'
  · unfold startAllocation
    dsimp only
    rw [← frees_allocPreviewBufs o] at hf'
    split_ifs
    · exact mem_frees_startPreviewError o _ hf'
    · exact mem_frees_freePreviewBufs hf'
    · exact mem_frees_startRegistered o hf'

/-- `startPreview` after a forced stop. -/
lemma carefulStart_forceStopPreview (stop : StopOutcome) (start : StartOutcome) (s : PreviewHal) :
    (s.forceStopPreview stop).CarefulStart start ↔
      (s.mSetPreviewWindowCalled = true → s.mDisplayAdapter.isSome = true →
        s.mCameraAdapter.mAdapterState.base = INTIALIZED_STATE ∨ s.Stops stop →
          start.getFrameSize = NO_ERROR → s.CarefulAllocation True start) := by
  obtain ⟨a, hroll, -⟩ := rollBack_spec stop s
  have hbase : (s.forceStopPreview stop).mCameraAdapter.mAdapterState.base = INTIALIZED_STATE ↔
      s.mCameraAdapter.mAdapterState.base = INTIALIZED_STATE ∨ s.Stops stop := by
    rw [← (rollBack_iff stop s).1]
    show (s.rollBack stop).freePreviewBufs.mCameraAdapter.mAdapterState.base = _ ↔ _
    rw [mCameraAdapter_freePreviewBufs]
  obtain ⟨frees, hfree⟩ := freePreviewBufs_spec (s.rollBack stop)
  have hafter : s.forceStopPreview stop = { s with
      mCameraAdapter := a, mPreviewBufs := none, frees := frees
      mPreviewEnabled := false, mDisplayPaused := false, mPreviewStartInProgress := false } := by
    rw [forceStopPreview, hfree, hroll]
  rw [hafter] at hbase ⊢
  constructor
  · intro hc hcalled hthere hstops hframe
    have hc' := hc ⟨rfl, rfl, ⟨hcalled, hthere⟩, Or.inr ⟨hbase.mpr hstops, hframe⟩⟩
    intro buffers hb
    obtain ⟨hprovider, hrest⟩ := hc' buffers hb
    exact ⟨hprovider, fun h1 h2 h3 h4 _ => hrest h1 h2 h3 h4 (hbase.mpr hstops)⟩
  · intro hc ha buffers hb
    obtain ⟨hstops, hframe⟩ := ha.query.resolve_left Bool.false_ne_true
    obtain ⟨hprovider, hrest⟩ :=
      hc ha.window.1 ha.window.2 (hbase.mp hstops) hframe buffers hb
    exact ⟨hprovider, fun h1 h2 h3 h4 _ => hrest h1 h2 h3 h4 trivial⟩

/-- `restartPreview`: both parts count. -/
lemma keeps_restartPreview {s : PreviewHal} (h : Settled s) (stop : StopOutcome)
    (start : StartOutcome) :
    Keeps (s.restartPreview stop start).2 (s.CarefulRestart stop start) := by
  have hstop := keeps_forceStopPreview h stop
  have hstart := fun hc => keeps_startPreview (hstop.settled hc) start
  -- The buffers are gone after the stop: if it goes wrong, its call of `freeBuffer` shows it.
  have hfirst : Sound (s.restartPreview stop start).2 → s.CarefulStop stop := by
    intro hsound
    refine hstop.sound_iff.mp ⟨fun f hf => hsound.frees f (mem_frees_startPreview start hf), ?_⟩
    intro b hb
    have hnone : (s.forceStopPreview stop).mPreviewBufs = none :=
      mPreviewBufs_freePreviewBufs (s.rollBack stop)
    rw [hnone] at hb
    cases hb
  unfold CarefulRestart
  rw [← carefulStart_forceStopPreview]
  constructor
  · constructor
    · intro hsound
      have hc := hfirst hsound
      exact ⟨hc, (hstart hc).sound_iff.mp hsound⟩
    · rintro ⟨hc, hc'⟩
      exact (hstart hc).sound_iff.mpr hc'
  · rintro ⟨hc, hc'⟩
    exact (hstart hc).settled hc'

/-! ### The preview window -/

/-- There are no buffers without a display adapter. -/
lemma Settled.mPreviewBufs_eq_none {s : PreviewHal} (h : Settled s)
    (hdisplay : s.mDisplayAdapter = none) : s.mPreviewBufs = none := by
  refine Option.eq_none_iff_forall_ne_some.mpr fun b hb => ?_
  exact absurd (hdisplay.symm.trans (h.bufs b hb).1) (Option.some_ne_none _).symm

/-- Where there are no buffers, the display adapter may change. -/
lemma Settled.withDisplay {s : PreviewHal} (h : Settled s) (hnone : s.mPreviewBufs = none)
    (display : Option ℕ) (created : ℕ) (called : Bool) : Settled { s with
      mDisplayAdapter := display, created := created, mSetPreviewWindowCalled := called } := by
  refine ⟨⟨h.frees, ?_⟩, h.free, h.used⟩
  intro b hb
  exact absurd (hnone.symm.trans hb) (Option.some_ne_none b).symm

/-- `setPreviewWindow`. -/
lemma keeps_setPreviewWindow {s : PreviewHal} (h : Settled s) (o : WindowOutcome) :
    Keeps (s.setPreviewWindow o).2 (s.Careful (.setPreviewWindow o)) := by
  have hcalled : Settled { s with mSetPreviewWindowCalled := true } :=
    h.of_same rfl rfl rfl rfl id (KeepsOrDrops.refl _)
  revert hcalled
  unfold setPreviewWindow Careful
  generalize { s with mSetPreviewWindowCalled := true } = s'
  intro h'
  dsimp only
  by_cases hwindow : o.window = true
  · rw [if_neg (by simp [hwindow]), if_pos hwindow]
    cases hdisplay : s'.mDisplayAdapter with
    | none =>
      have hnew := h'.withDisplay (h'.mPreviewBufs_eq_none hdisplay)
      dsimp only
      by_cases hinit : o.initialized = NO_ERROR
      · rw [if_neg (not_not_intro hinit)]
        have hcreated : Settled s'.createDisplayAdapter := hnew _ _ _
        by_cases hprogress : s'.createDisplayAdapter.mPreviewStartInProgress = true
        · rw [if_pos hprogress]
          refine (keeps_startPreview hcreated o.start).congr ?_
          exact ⟨fun hc _ _ => hc, fun hc => hc hinit hprogress⟩
        · rw [if_neg hprogress]
          exact hcreated.keeps.congr (iff_of_true trivial fun _ hp => absurd hp hprogress)
      · rw [if_pos hinit]
        exact Keeps.congr (Settled.keeps (hnew none _ _))
          (iff_of_true trivial fun hi => absurd hi hinit)
    | some display =>
      dsimp only
      by_cases hrestart : o.setPreviewWindow = NO_ERROR ∧ s'.previewEnabled = true
      · rw [if_pos (by simp [hrestart])]
        refine (keeps_restartPreview h' o.stop o.start).congr ?_
        exact ⟨fun hc _ _ => hc, fun hc => hc hrestart.1 hrestart.2⟩
      · rw [if_neg (by simpa using hrestart)]
        have hkeeps : Keeps s' (o.setPreviewWindow = NO_ERROR → s'.previewEnabled = true →
            s'.CarefulRestart o.stop o.start) :=
          h'.keeps.congr (iff_of_true trivial fun hw he => absurd ⟨hw, he⟩ hrestart)
        split_ifs <;> exact hkeeps
  · rw [if_pos (by simp [hwindow]), if_neg hwindow]
    cases hdisplay : s'.mDisplayAdapter with
    | none => exact h'.keeps.congr (iff_of_true trivial (h'.mPreviewBufs_eq_none hdisplay))
    | some display =>
      dsimp only
      have hsettled : s'.mPreviewBufs = none → Settled { s' with
          mDisplayAdapter := none, mSetPreviewWindowCalled := false } :=
        fun hnone => h'.withDisplay hnone none s'.created false
      refine ⟨⟨fun hsound => ?_, fun hnone => (hsettled hnone).toSound⟩, hsettled⟩
      refine Option.eq_none_iff_forall_ne_some.mpr fun b hb => ?_
      exact absurd (hsound.bufs b hb).1 (Option.some_ne_none _).symm

/-- One action from a settled state leaves the buffers sound exactly under its conditions. -/
lemma keeps_step {s : PreviewHal} (h : Settled s) (a : PreviewAction) :
    Keeps (s.step a) (s.Careful a) := by
  cases a with
  | startPreview o => exact keeps_startPreview h o
  | stopPreview o => exact keeps_stopPreview h o
  | forceStopPreview o => exact keeps_forceStopPreview h o
  | restartPreview stop start => exact keeps_restartPreview h stop start
  | setPreviewWindow o => exact keeps_setPreviewWindow h o
  | command operation v outcome =>
    show Keeps (if operation = .CAMERA_USE_BUFFERS_PREVIEW then s
      else (s.command operation v outcome).2) True
    split_ifs with hop
    · exact h.keeps
    · exact Settled.keeps (h.of_same rfl rfl rfl rfl id (keepsOrDrops_command hop v outcome s))
  | setFlags recording after =>
    exact Settled.keeps (h.of_same rfl rfl rfl rfl id (KeepsOrDrops.refl _))

/-- A new `CameraHal` is settled. -/
lemma settled_new (mNextState : AdapterState) (subscribers : FrameType → KeyedVector Ptr Ptr) :
    Settled (new mNextState subscribers) := by
  refine ⟨⟨?_, ?_⟩, ?_, ?_⟩
  · intro f hf
    cases hf
  · intro b hb
    cases hb
  · exact fun _ => rfl
  · intro b hb
    cases hb

/-- **The preview buffers.** In every run of a new `CameraHal`, whatever the display adapters, the
callback notifier and the hooks of the camera adapter answer: the buffers are always sound exactly
if every action is careful. Where it is not, buffers are freed while the camera adapter has them or
by another than their allocator, or they are left without their allocator.

**Proof sketch.** Settled states carry more than sound ones: without buffers the preview stream is
empty, and with buffers the preview is enabled. From a settled state an action leaves sound buffers
exactly if it is careful, and then it leaves a settled state. The exact rule with an invariant
does the induction. -/
theorem always_soundBuffers_iff (mNextState : AdapterState)
    (subscribers : FrameType → KeyedVector Ptr Ptr) (run : List PreviewAction) :
    StepRun.Always step Sound (new mNextState subscribers) run ↔
      StepRun.Along step Careful (new mNextState subscribers) run :=
  StepRun.always_iff_along_of_invariant (I := Settled) (C := Careful) (fun _ h => h.toSound)
    (fun _ a h hc => (keeps_step h a).settled hc)
    (fun _ a h hsound => (keeps_step h a).sound_iff.mp hsound)
    (settled_new mNextState subscribers)

/-- A call of `startPreview` with one buffer in which nothing fails. -/
def nothingFails : StartOutcome where
  setParameters := NO_ERROR
  getFrameSize := NO_ERROR
  requiredBufferCount := 1
  pauseDisplay := NO_ERROR
  allocateBuffer := some [1]
  getOffsets := true
  getVaddrs := none
  getFd := true
  maxQueueableBuffers := NO_ERROR
  undequeued := 0
  useBuffers := NO_ERROR
  start := NO_ERROR
  enableDisplay := NO_ERROR
  startPreview := NO_ERROR
  stopPreview := NO_ERROR

/-- A call of `setPreviewWindow` in which nothing fails. -/
def setWindow (window : Bool) : WindowOutcome :=
  ⟨window, NO_ERROR, NO_ERROR, ⟨NO_ERROR, allSucceed⟩, nothingFails⟩

/-- If the camera adapter does not start, the buffers are freed while it has them. If the window is
taken away during the preview, the buffers are left without their allocator. -/
theorem not_always_soundBuffers :
    ¬ StepRun.Always step Sound (new INTIALIZED_STATE fun _ => ∅)
        [.setPreviewWindow (setWindow true),
          .startPreview { nothingFails with startPreview := NO_INIT }] ∧
      ¬ StepRun.Always step Sound (new INTIALIZED_STATE fun _ => ∅)
        [.setPreviewWindow (setWindow true), .startPreview nothingFails,
          .setPreviewWindow (setWindow false)] := by
  constructor
  · intro h
    have hfrees : ∃ f ∈ (StepRun.final step (new INTIALIZED_STATE fun _ => ∅)
        [.setPreviewWindow (setWindow true),
          .startPreview { nothingFails with startPreview := NO_INIT }]).frees,
          f.registered = true := by decide
    obtain ⟨f, hf, hregistered⟩ := hfrees
    exact Bool.false_ne_true ((h.last.frees f hf).unregistered.symm.trans hregistered)
  · intro h
    have hbufs : (StepRun.final step (new INTIALIZED_STATE fun _ => ∅)
        [.setPreviewWindow (setWindow true), .startPreview nothingFails,
          .setPreviewWindow (setWindow false)]).mPreviewBufs = some ⟨0, [1]⟩ := by decide
    exact absurd (h.last.bufs _ hbufs).1 (by decide)

end PreviewHal

end CameraHal
