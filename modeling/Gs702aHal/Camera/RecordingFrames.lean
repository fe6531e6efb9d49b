import Gs702aHal.Camera.VideoMemory

set_option relaxedAutoImplicit false
set_option autoImplicit false

/-!
# The way of every frame

A frame that the notifier keeps is returned to the frame provider before its copy is deleted, or
handed to the recorder, which gives it back by `releaseRecordingFrame`. The recorder is given a
recording frame by the address of a slot of the preview memory or, while recording frames are
passed as metadata, by the address of a metadata buffer. `initSharedVideoBuffers` allocates one
metadata buffer for each buffer of the camera and enters it into two maps, which
`releaseSharedVideoBuffers` clears; `releaseRecordingFrame` looks the camera's buffer up in the map
of the mode of the moment.

The parts of `startPreviewCallbacks` and `stopPreviewCallbacks` that concern the memory are steps
of their own, and so are the steps of the notifier, so that any thread may come in between.

## Main definitions

* `CameraHal.RecordingFrames`, `CameraHal.RecordingFrames.step` — the notifier with the memory of
  the preview, the metadata buffers and the pointers that the recorder has.
* `CameraHal.RecordingFrames.Settled` — what becomes of every copy, and of every recording frame.
* `CameraHal.RecordingFrames.Careful` — the condition on a step.
* `CameraHal.RecordingFrames.WellFormed` — the invariant.

## Main results

* `CameraHal.RecordingFrames.releaseRecordingFrame_of_memory` — while recording frames are not
  passed as metadata, releases are those of the preview memory.
* `CameraHal.RecordingFrames.final_stopPreviewCallbacks` — the steps of `stopPreviewCallbacks` one
  after another.
* `CameraHal.RecordingFrames.settled_step_iff` — a step keeps the frames settled exactly if it is
  careful.
* `CameraHal.RecordingFrames.always_settled_iff` — the frames are settled throughout a run if and
  only if all its steps are careful.
-/

namespace CameraHal

/-- The notifier with the memory of the preview and with the metadata buffers. -/
structure RecordingFrames extends VideoMemory where
  /-- The camera's buffers with their metadata buffers, in the order in which they were entered
  into the maps. -/
  sharedVideoBuffers : List (Ptr × HeapMemory)

namespace RecordingFrames

open AppCallbackNotifier (isVideo)

/-- The map from the camera's buffers to their metadata buffers. -/
def mVideoMetadataBufferMemoryMap (s : RecordingFrames) : KeyedVector Ptr HeapMemory :=
  KeyedVector.addAll ∅ s.sharedVideoBuffers

/-- The map from the addresses of metadata buffers to the camera's buffers. -/
def mVideoMetadataBufferReverseMap (s : RecordingFrames) : KeyedVector ℕ Ptr :=
  KeyedVector.addAll ∅ (s.sharedVideoBuffers.map fun e => (e.2.data, e.1))

/-- A step of the notifier with the memory of the preview, while the metadata buffers stay. -/
def withMemory (s : RecordingFrames) (m : VideoMemory) : RecordingFrames :=
  { s with toVideoMemory := m }

/-- A step of the notifier. -/
def withNotifier (s : RecordingFrames) (a : AppCallbackNotifier) : RecordingFrames :=
  s.withMemory (s.toVideoMemory.withNotifier a)

/-- The part of `startPreviewCallbacks` that concerns the memory. -/
def startMemory (s : RecordingFrames) (mPreviewPixelFormat : FrameFormat) (w h : ℕ)
    (bufArr : List Ptr) (memory : Option HeapMemory) : RecordingFrames :=
  s.withMemory ((s.toVideoMemory.startPreviewCallbacks mPreviewPixelFormat w h bufArr
    memory).withNotifier s.toAppCallbackNotifier)

/-- The part of `stopPreviewCallbacks` that concerns the memory. -/
def stopMemory (s : RecordingFrames) : RecordingFrames :=
  s.withMemory (s.toVideoMemory.stopPreviewCallbacks.withNotifier s.toAppCallbackNotifier)

/-- `initSharedVideoBuffers`; `memories` is what `mRequestMemory` answers until it fails. -/
def initSharedVideoBuffers (s : RecordingFrames) (bufArr : List Ptr) (memories : List HeapMemory) :
    RecordingFrames :=
  if s.settings.mUseMetaDataBufferMode then
    { s with sharedVideoBuffers := s.sharedVideoBuffers ++ bufArr.zip memories }
  else s

/-- `releaseSharedVideoBuffers`. -/
def releaseSharedVideoBuffers (s : RecordingFrames) : RecordingFrames :=
  if s.settings.mUseMetaDataBufferMode then { s with sharedVideoBuffers := [] } else s

/-- `notifyFrame`. -/
def notifyFrame (s : RecordingFrames) : RecordingFrames :=
  match s.mFrameQ with
  | .PROCESS_FRAME p :: _ =>
    if s.recordsMetadata p true then
      match s.mVideoMetadataBufferMemoryMap.find? (s.frame p).mBuffer with
      | none => s  -- `valueFor` aborts the process
      | some memory =>
        if (s.frame p).mBuffer = NULL then s.withMemory (s.toVideoMemory.notifyFrame false)
        else s.withMemory { s.toVideoMemory.notifyFrame true with
          given := ⟨memory.data, p, s.preview⟩ :: s.given }
    else s.withMemory (s.toVideoMemory.notifyFrame false)
  | _ => s.withMemory (s.toVideoMemory.notifyFrame false)

/-- What `releaseRecordingFrame` returns to the frame provider for a pointer: nothing where
`valueFor` does not find it in the map of the mode. -/
def returns (s : RecordingFrames) (mem : ℕ) : Option (Ptr × FrameType × StreamType) :=
  (if s.settings.mUseMetaDataBufferMode then s.mVideoMetadataBufferReverseMap.find? mem
    else s.mVideoMemoryReverseMap.find? mem).map
      fun frame => (frame, .VIDEO_FRAME_SYNC, .PREVIEW_STREAM_TYPE)

/-- `releaseRecordingFrame`. -/
def releaseRecordingFrame (s : RecordingFrames) (mem : ℕ) : RecordingFrames :=
  if mem = NULL then s
  else s.withMemory
    { s.toVideoMemory with
      toAppCallbackNotifier := (s.returns mem).elim s.toAppCallbackNotifier
        fun r => s.toAppCallbackNotifier.step (.releaseRecordingFrame r.1)
      given := s.given.eraseP fun d => d.mem = mem
      released := s.released ++ ((s.latest mem).map fun d => ⟨d.copy, s.returns mem⟩).toList }

/-- The steps. -/
inductive Action
  | startMemory (mPreviewPixelFormat : FrameFormat) (w h : ℕ) (bufArr : List Ptr)
    (memory : Option HeapMemory)
  | stopMemory
  | initSharedVideoBuffers (bufArr : List Ptr) (memories : List HeapMemory)
  | releaseSharedVideoBuffers
  | resizeFrame (memory : Bool)
  | notifyFrame
  | releaseRecordingFrame (mem : ℕ)
  | other (a : AppCallbackNotifier.Action) (h : PreviewRing.outsideRing a)

/-- One step. -/
def step (s : RecordingFrames) : Action → RecordingFrames
  | .startMemory format w h bufArr memory => s.startMemory format w h bufArr memory
  | .stopMemory => s.stopMemory
  | .initSharedVideoBuffers bufArr memories => s.initSharedVideoBuffers bufArr memories
  | .releaseSharedVideoBuffers => s.releaseSharedVideoBuffers
  | .resizeFrame memory => s.withMemory (s.toVideoMemory.resizeFrame memory)
  | .notifyFrame => s.notifyFrame
  | .releaseRecordingFrame mem => s.releaseRecordingFrame mem
  | .other a _ => s.withNotifier (s.toAppCallbackNotifier.step a)

/-- A new notifier. -/
def create (settings : NotifierSettings) (resizeThread jpegThread : ThreadFlags) :
    RecordingFrames where
  toVideoMemory := .create settings resizeThread jpegThread
  sharedVideoBuffers := []

/-- While recording frames are not passed as metadata, releases are those of the preview memory. -/
theorem releaseRecordingFrame_of_memory {s : RecordingFrames}
    (h : s.settings.mUseMetaDataBufferMode = false) (mem : ℕ) :
    (s.releaseRecordingFrame mem).toVideoMemory = s.toVideoMemory.releaseRecordingFrame mem := by
  have hreturns : s.returns mem = s.toVideoMemory.returns mem := by
    simp [returns, VideoMemory.returns, h]
  unfold releaseRecordingFrame VideoMemory.releaseRecordingFrame
  rw [hreturns]
  split_ifs <;> rfl

/-- **The steps of `stopPreviewCallbacks`, one after another, are those of the preview memory.** -/
theorem final_stopPreviewCallbacks {s : RecordingFrames} (h : s.mPreviewing) :
    StepRun.final step s
        [.other (.disableFrameNotification .PREVIEW_FRAME_SYNC) rfl,
          .other (.resizeFlush
            (PREVIEW_STOP_FLUSH ||| CAPTURE_STOP_FLUSH ||| VIDEO_STOP_FLUSH)) rfl,
          .other (.jpegFlush
            (PREVIEW_STOP_FLUSH ||| CAPTURE_STOP_FLUSH ||| VIDEO_STOP_FLUSH)) rfl,
          .other .flushFrames rfl, .stopMemory] =
      s.withMemory s.toVideoMemory.stopPreviewCallbacks := by
  simp only [StepRun.final, List.foldl_cons, List.foldl_nil, step, stopMemory, withNotifier,
    withMemory, VideoMemory.withNotifier, VideoMemory.stopPreviewCallbacks, h, not_true_eq_false,
    if_false, AppCallbackNotifier.stopPreviewCallbacks]

/-! ### What becomes of the frames -/

/-- The copy that an event hands to the recorder. -/
def handedCopy : NotifierEvent → Option ℕ
  | .dataCbTimestamp p _ => some p
  | _ => none

/-- The copies that were handed to the recorder. -/
def handedOut (s : AppCallbackNotifier) : List ℕ := s.log.filterMap handedCopy

/-- The copies that the recorder has, and those that it has released. -/
def recorded (s : RecordingFrames) : List ℕ :=
  s.given.map VideoMemory.Delivery.copy ++ s.released.map VideoMemory.Release.copy

/-- **Every frame is settled**: each copy is in a queue or discharged; of the recording frames that
were handed out, each is with the recorder or was released, and just once; and each release returned
the frame's own buffer as a recording frame. -/
structure Settled (s : RecordingFrames) : Prop where
  copies : s.Accounted
  handed : s.recorded.Perm (handedOut s.toAppCallbackNotifier)
  once : s.recorded.Nodup
  released : ∀ r ∈ s.released,
    r.returned = some ((s.frame r.copy).mBuffer, .VIDEO_FRAME_SYNC, .PREVIEW_STREAM_TYPE)

/-- The addresses that the recorder may be given in the mode of the moment, with the camera's
buffers: those of the metadata buffers, or of the slots of the preview memory. -/
def places (s : RecordingFrames) : List (ℕ × Ptr) :=
  if s.settings.mUseMetaDataBufferMode then s.sharedVideoBuffers.map fun e => (e.2.data, e.1)
  else s.mPreviewMemory.elim [] fun memory =>
    s.mPreviewBufs.zipIdx.map fun e => (memory.data + mPreviewMemoryBufs s.size e.2, e.1)

/-- The last place at an address is that of a buffer. -/
def Holds (s : RecordingFrames) (mem : ℕ) (buffer : Ptr) : Prop :=
  ∃ before after, s.places = before ++ (mem, buffer) :: after ∧ mem ∉ after.map Prod.fst

/-- The condition on a step, as far as copies are deleted: it is that of the notifier. A frame
without memory is handed out if it is recorded as metadata and its buffer is not `NULL`. -/
def KeepsCopies (s : RecordingFrames) : Action → Prop
  | .resizeFrame _ => s.toAppCallbackNotifier.Careful (.resizeFrame none)
  | .notifyFrame => ∀ p, .PROCESS_FRAME p ∈ s.mFrameQ.head? →
      (s.recordsMetadata p true → (s.frame p).mBuffer = NULL ∧
        NULL ∈ s.sharedVideoBuffers.map Prod.fst) → s.live p = false
  | .other a _ => s.toAppCallbackNotifier.Careful a
  | _ => True

/-- The condition on a step, as far as recording frames are released: a pointer is released while
the memory of the mode holds the frame's own buffer at this address. -/
def KeepsPointers (s : RecordingFrames) : Action → Prop
  | .releaseRecordingFrame mem => ∀ d ∈ s.latest mem, mem ≠ NULL →
      s.Holds mem (s.frame d.copy).mBuffer
  | _ => True

/-- The condition on a step. -/
def Careful (s : RecordingFrames) (a : Action) : Prop := s.KeepsCopies a ∧ s.KeepsPointers a

/-! ### What is handed out -/

section HandedOut

variable {s s' : AppCallbackNotifier} {events : List NotifierEvent}

/-- The copies that further events hand out. -/
lemma handedOut_of_log (h : s'.log = s.log ++ events) :
    handedOut s' = handedOut s ++ events.filterMap handedCopy := by
  rw [handedOut, h, List.filterMap_append, handedOut]

/-- Further events that hand nothing out. -/
lemma handedOut_of_silent (h : s'.log = s.log ++ events)
    (hsilent : ∀ e ∈ events, handedCopy e = none) : handedOut s' = handedOut s := by
  rw [handedOut_of_log h, List.filterMap_eq_nil_iff.mpr hsilent, List.append_nil]

/-- Deletions hand nothing out. -/
lemma handedCopy_of_mem_delete {out : List ℕ} :
    ∀ e ∈ out.map s.deleteEvent, handedCopy e = none := by
  intro e he
  obtain ⟨p, -, rfl⟩ := List.mem_map.mp he
  rfl

/-- Events about no copy hand nothing out. -/
lemma handedCopy_of_filter (h : ∀ q, events.filter (NotifierEvent.about q) = []) :
    ∀ e ∈ events, handedCopy e = none := by
  intro e he
  cases e with
  | dataCbTimestamp q index =>
    have hmem : NotifierEvent.dataCbTimestamp q index ∈ events.filter (NotifierEvent.about q) :=
      List.mem_filter.mpr ⟨he, by simp [NotifierEvent.about]⟩
    exact absurd (h q ▸ hmem) List.not_mem_nil
  | _ => rfl

/-- The resize thread hands nothing out. -/
lemma handedOut_resizeFrame (s : AppCallbackNotifier) (memory : Option ℕ) :
    handedOut (s.resizeFrame memory) = handedOut s := by
  cases hq : s.mResizeQ with
  | nil => simp only [AppCallbackNotifier.resizeFrame, hq]
  | cons p rest =>
    rw [AppCallbackNotifier.resizeFrame_of_cons hq]
    split_ifs
    · rfl
    · exact @handedOut_of_silent s _ [s.deleteEvent p] rfl
        (by simp [handedCopy, AppCallbackNotifier.deleteEvent])

/-- **Only the notification thread hands frames to the recorder.** -/
theorem handedOut_step {a : AppCallbackNotifier.Action} (ha : PreviewRing.outsideRing a) :
    handedOut (s.step a) = handedOut s := by
  cases a with
  | frameCallback f =>
    have hdispatch := AppCallbackNotifier.dispatched_dispatch (s.copyFrame f) s.heap.length f
    change handedOut ((s.copyFrame f).dispatch s.heap.length f) = handedOut s
    generalize (s.copyFrame f).dispatch s.heap.length f = s' at hdispatch
    cases hdispatch with
    | returned events hevents hvideo =>
      refine handedOut_of_silent (s := s) (List.append_assoc _ _ _) fun e he => ?_
      rcases List.mem_append.mp he with he | he
      · exact handedCopy_of_filter hevents e he
      · simp only [List.mem_cons, List.not_mem_nil, or_false] at he
        rcases he with rfl | rfl <;> rfl
    | _ => rfl
  | resizeFrame memory => exact absurd ha Bool.false_ne_true
  | notifyFrame metadata => exact absurd ha Bool.false_ne_true
  | releaseRecordingFrame frameBuf => exact absurd ha Bool.false_ne_true
  | jpegEncode memory =>
    change handedOut (s.jpegEncode memory) = handedOut s
    unfold AppCallbackNotifier.jpegEncode
    split
    · rfl
    · simp only
      split_ifs
      · rfl
      · refine handedOut_of_silent (s := s) rfl ?_
        simp [handedCopy, AppCallbackNotifier.deleteEvent]
  | resizeFlush flush =>
    obtain ⟨out, h⟩ := AppCallbackNotifier.flushes_resizeFlush s flush
    exact handedOut_of_silent h.log handedCopy_of_mem_delete
  | jpegFlush flush =>
    change handedOut (s.jpegFlush flush) = handedOut s
    simp only [AppCallbackNotifier.jpegFlush]
    split_ifs
    · exact handedOut_of_silent (s := s) rfl handedCopy_of_mem_delete
    · rfl
  | flushFrames =>
    refine handedOut_of_silent (s := s) rfl fun e he => ?_
    obtain ⟨msg, -, rfl⟩ := List.mem_map.mp he
    rfl
  | _ => rfl

/-- A release hands nothing out. -/
lemma handedOut_release (s : AppCallbackNotifier) (frameBuf : Ptr) :
    handedOut (s.step (.releaseRecordingFrame frameBuf)) = handedOut s :=
  @handedOut_of_silent s _ [.release frameBuf] rfl (by simp [handedCopy])

/-- What the application receives as other memory is not handed to the recorder. -/
lemma handedCopy_dataCallbacks (s : AppCallbackNotifier) (p index : ℕ) :
    ∀ e ∈ s.dataCallbacks p index, handedCopy e = none :=
  handedCopy_of_filter fun q => AppCallbackNotifier.filter_dataCallbacks s p index q

end HandedOut

/-! ### The notification thread -/

/-- What `notifyFrame` does: nothing, where a recording frame that is passed as metadata has no
metadata buffer; the step of the preview memory, where there is no such frame; or it hands the
metadata buffer of such a frame out. -/
inductive Notified (s : RecordingFrames) : RecordingFrames → Prop
  | nothing (p : ℕ) (hp : .PROCESS_FRAME p ∈ s.mFrameQ.head?)
    (hrec : s.recordsMetadata p true)
    (hbuffer : (s.frame p).mBuffer ∉ s.sharedVideoBuffers.map Prod.fst) : Notified s s
  | memory (h : ∀ p, .PROCESS_FRAME p ∈ s.mFrameQ.head? → s.recordsMetadata p true →
      (s.frame p).mBuffer = NULL ∧ NULL ∈ s.sharedVideoBuffers.map Prod.fst) :
    Notified s (s.withMemory (s.toVideoMemory.notifyFrame false))
  | metadata (p : ℕ) (hp : .PROCESS_FRAME p ∈ s.mFrameQ.head?) (hrec : s.recordsMetadata p true)
    (hbuffer : (s.frame p).mBuffer ≠ NULL) (data : ℕ) :
    Notified s (s.withMemory { s.toVideoMemory.notifyFrame true with
      given := ⟨data, p, s.preview⟩ :: s.given })

/-- `notifyFrame` does one of these things. -/
lemma notified_notifyFrame (s : RecordingFrames) : Notified s s.notifyFrame := by
  unfold notifyFrame
  split
  case h_1 p rest hq =>
    have hhead : .PROCESS_FRAME p ∈ s.mFrameQ.head? := by simp [hq]
    have hsame : ∀ q, .PROCESS_FRAME q ∈ s.mFrameQ.head? → q = p := by
      intro q hq'
      have heq := Option.mem_unique hq' hhead
      exact FrameMessage.PROCESS_FRAME.inj heq
    by_cases hrec : s.recordsMetadata p true
    · simp only [if_pos hrec]
      cases hfind : s.mVideoMetadataBufferMemoryMap.find? (s.frame p).mBuffer with
      | none =>
        refine .nothing p hhead hrec fun hmem => ?_
        have hsome := (KeyedVector.isSome_find?_addAll ∅ s.sharedVideoBuffers _).mpr (Or.inl hmem)
        rw [mVideoMetadataBufferMemoryMap] at hfind
        rw [hfind] at hsome
        cases hsome
      | some memory =>
        by_cases hnull : (s.frame p).mBuffer = NULL
        · simp only [if_pos hnull]
          refine .memory fun q hq' _ => ?_
          obtain rfl := hsame q hq'
          have hsome := (KeyedVector.isSome_find?_addAll ∅ s.sharedVideoBuffers _).mp
            (Option.isSome_iff_exists.mpr ⟨memory, hfind⟩)
          rw [hnull] at hsome
          exact ⟨hnull, hsome.resolve_right (by simp)⟩
        · simp only [if_neg hnull]
          exact .metadata p hhead hrec hnull memory.data
    · simp only [if_neg hrec]
      refine .memory fun q hq' hrec' => ?_
      obtain rfl := hsame q hq'
      exact absurd hrec' hrec
  case h_2 hnot =>
    refine .memory fun p hp => ?_
    obtain ⟨rest, hq⟩ := List.head?_eq_some_iff.mp hp
    exact absurd hq (hnot p rest)

/-- The notifier's part of the step of the preview memory. -/
lemma notifyFrame_toAppCallbackNotifier (s : VideoMemory) (metadata : Bool) :
    (s.notifyFrame metadata).toAppCallbackNotifier =
      s.toAppCallbackNotifier.notifyFrame metadata := by
  unfold VideoMemory.notifyFrame AppCallbackNotifier.notifyFrame
  cases s.mFrameQ <;> rfl

/-- A recording frame without metadata buffer is not recorded as metadata. -/
lemma recordsMetadata_false (s : AppCallbackNotifier) (p : ℕ) :
    s.recordsMetadata p false = false := by
  simp [AppCallbackNotifier.recordsMetadata]

/-- `notifyFrame` discharges the copy that it takes exactly if it keeps copies. -/
lemma handles_notifyFrame (s : RecordingFrames) :
    AppCallbackNotifier.Handles s.toAppCallbackNotifier s.notifyFrame.toAppCallbackNotifier
      (s.KeepsCopies .notifyFrame) := by
  have hnotified := notified_notifyFrame s
  generalize s.notifyFrame = s' at hnotified
  cases hnotified with
  | nothing p hp hrec hbuffer =>
    have hkeep := AppCallbackNotifier.handles_of_keep (s := s.toAppCallbackNotifier) rfl
      (List.Perm.refl _) rfl
    refine hkeep.congr (iff_of_true trivial fun q hq h => ?_)
    obtain rfl := FrameMessage.PROCESS_FRAME.inj (Option.mem_unique hp hq)
    obtain ⟨hnull, hmem⟩ := h hrec
    exact absurd (hnull ▸ hmem) hbuffer
  | memory h =>
    have hnotify := AppCallbackNotifier.handles_notifyFrame s.toAppCallbackNotifier false
    rw [← notifyFrame_toAppCallbackNotifier] at hnotify
    refine hnotify.congr ⟨fun hlive p hp _ => ?_, fun hlive msg hmsg p hp _ => ?_⟩
    · exact hlive _ hp p rfl (recordsMetadata_false _ p)
    · subst hp
      exact hlive p hmsg (h p hmsg)
  | metadata p hp hrec hbuffer data =>
    have hnotify := AppCallbackNotifier.handles_notifyFrame s.toAppCallbackNotifier true
    rw [← notifyFrame_toAppCallbackNotifier] at hnotify
    refine hnotify.congr (iff_of_true (fun msg hmsg q hq hnot => ?_) fun q hq h => ?_)
    · subst hq
      obtain rfl := FrameMessage.PROCESS_FRAME.inj (Option.mem_unique hp hmsg)
      exact absurd hrec (by simp [hnot])
    · obtain rfl := FrameMessage.PROCESS_FRAME.inj (Option.mem_unique hp hq)
      exact absurd (h hrec).1 hbuffer

/-! ### The copies -/

/-- **Every step discharges the copies that leave in it exactly if it keeps copies.** -/
theorem handles_step (s : RecordingFrames) (a : Action) :
    AppCallbackNotifier.Handles s.toAppCallbackNotifier (s.step a).toAppCallbackNotifier
      (s.KeepsCopies a) := by
  have hkeep := AppCallbackNotifier.handles_of_keep (s := s.toAppCallbackNotifier) rfl
    (List.Perm.refl _) rfl
  cases a with
  | startMemory format w h bufArr memory => exact hkeep
  | stopMemory => exact hkeep
  | initSharedVideoBuffers bufArr memories =>
    simp only [step, initSharedVideoBuffers]
    split_ifs <;> exact hkeep
  | releaseSharedVideoBuffers =>
    simp only [step, releaseSharedVideoBuffers]
    split_ifs <;> exact hkeep
  | resizeFrame memory =>
    simp only [step, withMemory]
    rcases VideoMemory.resizeFrame_cases s.toVideoMemory memory with
      ⟨heq, hchooses⟩ | ⟨m, index, heq, -⟩ <;> rw [heq]
    · refine hkeep.congr (iff_of_true trivial fun p hp hvalid => ?_)
      have hmemory := hchooses p hp
      rw [PreviewRing.choosesMemory, hvalid] at hmemory
      cases hmemory
    · exact AppCallbackNotifier.handles_resizeFrame s.toAppCallbackNotifier m
  | notifyFrame => exact handles_notifyFrame s
  | releaseRecordingFrame mem =>
    simp only [step, releaseRecordingFrame]
    split_ifs
    · exact hkeep
    · cases s.returns mem with
      | none => exact hkeep
      | some r =>
        exact AppCallbackNotifier.handles_step s.toAppCallbackNotifier (.releaseRecordingFrame r.1)
  | other a ha => exact AppCallbackNotifier.handles_step s.toAppCallbackNotifier a

/-! ### The recording frames -/

/-- What holds in every state of a run. -/
structure WellFormed (s : RecordingFrames) : Prop where
  tracked : s.custody.Tracked NotifierEvent.about
  /-- The map of addresses is that of the slots of the preview memory. -/
  reverse : s.mVideoMemoryReverseMap = KeyedVector.addAll ∅
    (s.mPreviewMemory.elim [] fun memory =>
      s.mPreviewBufs.zipIdx.map fun e => (memory.data + mPreviewMemoryBufs s.size e.2, e.1))
  stopped : s.mPreviewing = false → s.mPreviewMemory = none
  handed : s.recorded.Perm (handedOut s.toAppCallbackNotifier)
  once : s.recorded.Nodup
  /-- The copies that were handed to the recorder have left. -/
  left : ∀ p ∈ s.recorded, p < s.heap.length ∧ p ∉ s.custody.held

/-- What a step does to the recording frames: some are handed to the recorder, or one is released.
`C` is the condition on the step. -/
inductive Moved (s s' : RecordingFrames) (C : Prop) : Prop
  | hand (new : List VideoMemory.Delivery) (hgiven : s'.given = new ++ s.given)
    (hreleased : s'.released = s.released)
    (hout : handedOut s'.toAppCallbackNotifier =
      handedOut s.toAppCallbackNotifier ++ new.map VideoMemory.Delivery.copy)
    (hnodup : (new.map VideoMemory.Delivery.copy).Nodup)
    (hleft : ∀ d ∈ new, d.copy ∈ s.custody.held ∧ d.copy ∉ s'.custody.held) (hC : C)
  | release (mem : ℕ) (d : VideoMemory.Delivery) (before after : List VideoMemory.Delivery)
    (hgiven : s.given = before ++ d :: after) (hgiven' : s'.given = before ++ after)
    (hreleased : s'.released = s.released ++ [⟨d.copy, s.returns mem⟩])
    (hout : handedOut s'.toAppCallbackNotifier = handedOut s.toAppCallbackNotifier)
    (hC : C ↔ s.Holds mem (s.frame d.copy).mBuffer)

/-- A step that hands nothing out. -/
lemma moved_of_same {s s' : RecordingFrames} {C : Prop} (hgiven : s'.given = s.given)
    (hreleased : s'.released = s.released)
    (hout : handedOut s'.toAppCallbackNotifier = handedOut s.toAppCallbackNotifier) (hC : C) :
    Moved s s' C :=
  .hand [] hgiven hreleased (hout.trans (List.append_nil _).symm) List.nodup_nil
    (fun _ hd => absurd hd List.not_mem_nil) hC

/-- The copies that a message hands out without metadata are those that the recorder is given. -/
lemma filterMap_notifyEvents (s : VideoMemory) (msg : FrameMessage) :
    (s.notifyEvents false msg).filterMap handedCopy =
      (s.gives msg).map VideoMemory.Delivery.copy := by
  cases msg with
  | PROCESS_FRAME p =>
    simp [AppCallbackNotifier.notifyEvents, recordsMetadata_false, VideoMemory.gives, handedCopy,
      AppCallbackNotifier.deleteEvent]
  | PROCESS_MEMORY_FRAME p memory =>
    cases memory with
    | none =>
      simp [AppCallbackNotifier.notifyEvents, VideoMemory.gives, handedCopy,
        AppCallbackNotifier.deleteEvent, AppCallbackNotifier.returnEvent]
    | some index =>
      have hother := List.filterMap_eq_nil_iff.mpr
        (handedCopy_dataCallbacks s.toAppCallbackNotifier p index)
      by_cases hrec : s.recordsMemory p
      · simp [AppCallbackNotifier.notifyEvents, VideoMemory.gives, hrec, handedCopy,
          AppCallbackNotifier.deleteEvent]
      · simp [AppCallbackNotifier.notifyEvents, VideoMemory.gives, hrec, hother, handedCopy,
          AppCallbackNotifier.deleteEvent, AppCallbackNotifier.returnEvent]

/-- The copy that `notifyFrame` takes leaves the queues. -/
lemma notMem_held_notifyFrame {s : AppCallbackNotifier} {msg : FrameMessage}
    (ht : s.custody.Tracked NotifierEvent.about) (hmsg : msg ∈ s.mFrameQ.head?) (metadata : Bool) :
    msg.frame ∈ s.custody.held ∧ msg.frame ∉ (s.notifyFrame metadata).custody.held := by
  obtain ⟨rest, hq⟩ := List.head?_eq_some_iff.mp hmsg
  obtain ⟨-, -, hheld⟩ := PreviewRing.notifyFrame_of_cons hq metadata
  have hnodup := ht.nodup
  rw [hheld]
  simp only [AppCallbackNotifier.custody, hq, List.map_cons, List.cons_append, List.nodup_cons,
    List.mem_cons, true_or, true_and] at hnodup ⊢
  exact hnodup.1

/-- What `notifyFrame` does to the log. -/
lemma handedOut_notifyFrame {s : AppCallbackNotifier} {msg : FrameMessage}
    (hmsg : msg ∈ s.mFrameQ.head?) (metadata : Bool) :
    handedOut (s.notifyFrame metadata) =
      handedOut s ++ (s.notifyEvents metadata msg).filterMap handedCopy := by
  obtain ⟨rest, hq⟩ := List.head?_eq_some_iff.mp hmsg
  refine handedOut_of_log ?_
  simp only [AppCallbackNotifier.notifyFrame, hq]
  rfl

/-- The steps of `notifyFrame`. -/
lemma moved_notifyFrame {s : RecordingFrames} (h : WellFormed s) {C : Prop} (hC : C) :
    Moved s s.notifyFrame C := by
  have hnotified := notified_notifyFrame s
  generalize s.notifyFrame = s' at hnotified
  cases hnotified with
  | nothing p hp hrec hbuffer => exact moved_of_same rfl rfl rfl hC
  | memory hnot =>
    cases hq : s.mFrameQ with
    | nil =>
      have hsame : s.toVideoMemory.notifyFrame false = s.toVideoMemory := by
        simp only [VideoMemory.notifyFrame, hq]
      rw [hsame]
      exact moved_of_same rfl rfl rfl hC
    | cons msg rest =>
      have hmsg : msg ∈ s.mFrameQ.head? := by simp [hq]
      have hnotify := notifyFrame_toAppCallbackNotifier s.toVideoMemory false
      refine .hand (s.toVideoMemory.gives msg) ?_ ?_ ?_ (VideoMemory.nodup_gives _ msg)
        (fun d hd => ?_) hC
      · simp only [withMemory, VideoMemory.notifyFrame, hq]
      · simp only [withMemory, VideoMemory.notifyFrame, hq]
      · rw [withMemory, hnotify, handedOut_notifyFrame hmsg, filterMap_notifyEvents]
      · obtain ⟨rfl, -, -⟩ := VideoMemory.mem_gives_iff.mp hd
        rw [withMemory, hnotify]
        exact notMem_held_notifyFrame h.tracked hmsg false
  | metadata p hp hrec hbuffer data =>
    have hnotify := notifyFrame_toAppCallbackNotifier s.toVideoMemory true
    obtain ⟨rest, hq⟩ := List.head?_eq_some_iff.mp hp
    refine .hand [⟨data, p, s.preview⟩] rfl ?_ ?_ (List.nodup_singleton p) (fun d hd => ?_) hC
    · simp only [withMemory, VideoMemory.notifyFrame, hq]
    · simp only [withMemory]
      rw [hnotify, handedOut_notifyFrame hp]
      simp [AppCallbackNotifier.notifyEvents, hrec, handedCopy, AppCallbackNotifier.deleteEvent]
    · obtain rfl := List.mem_singleton.mp hd
      simp only [withMemory]
      rw [hnotify]
      exact notMem_held_notifyFrame h.tracked hp true

/-- The steps of `releaseRecordingFrame`. -/
lemma moved_releaseRecordingFrame (s : RecordingFrames) (mem : ℕ) :
    Moved s (s.releaseRecordingFrame mem) (s.KeepsPointers (.releaseRecordingFrame mem)) := by
  unfold releaseRecordingFrame
  split_ifs with hnull
  · exact moved_of_same rfl rfl rfl fun d _ hmem => absurd hnull hmem
  · have hout : handedOut ((s.returns mem).elim s.toAppCallbackNotifier fun r =>
        s.toAppCallbackNotifier.step (.releaseRecordingFrame r.1)) =
          handedOut s.toAppCallbackNotifier := by
      cases s.returns mem with
      | none => rfl
      | some r => exact handedOut_release _ r.1
    cases hlatest : s.latest mem with
    | none =>
      have hnone := List.find?_eq_none.mp hlatest
      refine moved_of_same ?_ (List.append_nil _) hout fun d hd => by
        rw [hlatest] at hd
        cases hd
      exact List.eraseP_of_forall_not hnone
    | some d =>
      obtain ⟨hd, before, after, hgiven, hbefore⟩ := List.find?_eq_some_iff_append.mp hlatest
      refine .release mem d before after hgiven ?_ rfl hout ?_
      · have hnot : ∀ d' ∈ before, ¬ decide (d'.mem = mem) = true := fun d' hd' => by
          simpa using hbefore d' hd'
        have hfirst : (d :: after).eraseP (fun d' => decide (d'.mem = mem)) = after :=
          List.eraseP_cons_of_pos hd
        simp only [withMemory]
        rw [hgiven, List.eraseP_append_right _ hnot, hfirst]
      · simp only [KeepsPointers, hlatest, Option.mem_def, Option.some.injEq, forall_eq', hnull,
          ne_eq, not_false_eq_true, forall_const]

/-- Every step is one of these. -/
lemma moved_step {s : RecordingFrames} (h : WellFormed s) (a : Action) :
    Moved s (s.step a) (s.KeepsPointers a) := by
  cases a with
  | startMemory format w h' bufArr memory =>
    simp only [step, startMemory, VideoMemory.startPreviewCallbacks]
    split_ifs
    · exact moved_of_same rfl rfl rfl trivial
    · exact moved_of_same rfl rfl rfl trivial
    · cases memory <;> exact moved_of_same rfl rfl rfl trivial
  | stopMemory =>
    simp only [step, stopMemory, VideoMemory.stopPreviewCallbacks]
    split_ifs <;> exact moved_of_same rfl rfl rfl trivial
  | initSharedVideoBuffers bufArr memories =>
    simp only [step, initSharedVideoBuffers]
    split_ifs <;> exact moved_of_same rfl rfl rfl trivial
  | releaseSharedVideoBuffers =>
    simp only [step, releaseSharedVideoBuffers]
    split_ifs <;> exact moved_of_same rfl rfl rfl trivial
  | resizeFrame memory =>
    simp only [step, withMemory]
    rcases VideoMemory.resizeFrame_cases s.toVideoMemory memory with
      ⟨heq, -⟩ | ⟨m, index, heq, -⟩ <;> rw [heq]
    · exact moved_of_same rfl rfl rfl trivial
    · exact moved_of_same rfl rfl (handedOut_resizeFrame _ m) trivial
  | notifyFrame => exact moved_notifyFrame h trivial
  | releaseRecordingFrame mem => exact moved_releaseRecordingFrame s mem
  | other a ha => exact moved_of_same rfl rfl (handedOut_step ha) trivial

/-! ### The invariant -/

/-- The recording frames after a step: the copies are the same, or some that were in the queues
come in. -/
lemma Moved.recorded {s s' : RecordingFrames} {C : Prop} (h : Moved s s' C) :
    ∃ new : List ℕ, s'.recorded.Perm (new ++ s.recorded) ∧ new.Nodup ∧
      handedOut s'.toAppCallbackNotifier = handedOut s.toAppCallbackNotifier ++ new ∧
      ∀ p ∈ new, p ∈ s.custody.held ∧ p ∉ s'.custody.held := by
  cases h with
  | hand new hgiven hreleased hout hnodup hleft hC =>
    refine ⟨new.map VideoMemory.Delivery.copy, ?_, hnodup, hout, fun p hp => ?_⟩
    · rw [RecordingFrames.recorded, hgiven, hreleased, List.map_append, List.append_assoc,
        RecordingFrames.recorded]
    · obtain ⟨d, hd, rfl⟩ := List.mem_map.mp hp
      exact hleft d hd
  | release mem d before after hgiven hgiven' hreleased hout hC =>
    refine ⟨[], ?_, List.nodup_nil, hout.trans (List.append_nil _).symm,
      fun p hp => absurd hp List.not_mem_nil⟩
    simp only [RecordingFrames.recorded, hgiven, hgiven', hreleased, List.map_append,
      List.map_cons, List.map_nil, List.append_assoc, List.nil_append, List.cons_append]
    -- the copy that is released goes from the first list to the end of the second
    refine List.Perm.append_left _ ?_
    rw [← List.append_assoc]
    exact List.perm_append_singleton _ _

/-- The map of addresses stays that of the slots. -/
lemma WellFormed.reverse_step {s : RecordingFrames} (h : WellFormed s) (a : Action) :
    (s.step a).mVideoMemoryReverseMap = KeyedVector.addAll ∅
      ((s.step a).mPreviewMemory.elim [] fun memory =>
        (s.step a).mPreviewBufs.zipIdx.map fun e =>
          (memory.data + mPreviewMemoryBufs (s.step a).size e.2, e.1)) ∧
      ((s.step a).mPreviewing = false → (s.step a).mPreviewMemory = none) := by
  cases a with
  | startMemory format w h' bufArr memory =>
    simp only [step, startMemory, VideoMemory.startPreviewCallbacks]
    split_ifs with hcount hon
    · exact ⟨h.reverse, h.stopped⟩
    · exact ⟨h.reverse, h.stopped⟩
    · cases memory with
      | none =>
        have hreverse := h.reverse
        rw [h.stopped (by simpa using hon)] at hreverse
        exact ⟨hreverse, fun _ => rfl⟩
      | some memory => exact ⟨rfl, fun hoff => by cases hoff⟩
  | stopMemory =>
    simp only [step, stopMemory, VideoMemory.stopPreviewCallbacks]
    split_ifs
    · exact ⟨rfl, fun _ => rfl⟩
    · exact ⟨h.reverse, h.stopped⟩
  | initSharedVideoBuffers bufArr memories =>
    simp only [step, initSharedVideoBuffers]
    split_ifs <;> exact ⟨h.reverse, h.stopped⟩
  | releaseSharedVideoBuffers =>
    simp only [step, releaseSharedVideoBuffers]
    split_ifs <;> exact ⟨h.reverse, h.stopped⟩
  | resizeFrame memory =>
    simp only [step, withMemory]
    rcases VideoMemory.resizeFrame_cases s.toVideoMemory memory with
      ⟨heq, -⟩ | ⟨m, index, heq, -⟩ <;> rw [heq] <;> exact ⟨h.reverse, h.stopped⟩
  | notifyFrame =>
    have hnotified := notified_notifyFrame s
    have hsame : ∀ metadata, (s.toVideoMemory.notifyFrame metadata).mVideoMemoryReverseMap =
          s.mVideoMemoryReverseMap ∧
        (s.toVideoMemory.notifyFrame metadata).mPreviewMemory = s.mPreviewMemory ∧
        (s.toVideoMemory.notifyFrame metadata).mPreviewBufs = s.mPreviewBufs ∧
        (s.toVideoMemory.notifyFrame metadata).size = s.size ∧
        (s.toVideoMemory.notifyFrame metadata).mPreviewing = s.mPreviewing := by
      intro metadata
      unfold VideoMemory.notifyFrame
      cases s.mFrameQ <;> exact ⟨rfl, rfl, rfl, rfl, rfl⟩
    simp only [step]
    generalize s.notifyFrame = s' at hnotified
    cases hnotified with
    | nothing p hp hrec hbuffer => exact ⟨h.reverse, h.stopped⟩
    | memory hnot =>
      obtain ⟨hreverse, hmemory, hbufs, hsize, hon⟩ := hsame false
      simp only [withMemory, hreverse, hmemory, hbufs, hsize, hon]
      exact ⟨h.reverse, h.stopped⟩
    | metadata p hp hrec hbuffer data =>
      obtain ⟨hreverse, hmemory, hbufs, hsize, hon⟩ := hsame true
      simp only [withMemory, hreverse, hmemory, hbufs, hsize, hon]
      exact ⟨h.reverse, h.stopped⟩
  | releaseRecordingFrame mem =>
    simp only [step, releaseRecordingFrame]
    split_ifs <;> exact ⟨h.reverse, h.stopped⟩
  | other a ha => exact ⟨h.reverse, h.stopped⟩

/-- **Every step keeps the invariant.** -/
theorem WellFormed.step {s : RecordingFrames} (h : WellFormed s) (a : Action) :
    WellFormed (s.step a) := by
  have hhandles := handles_step s a
  obtain ⟨new, hperm, hnodup, hout, hnew⟩ := (moved_step h a).recorded
  obtain ⟨hreverse, hstopped⟩ := h.reverse_step a
  refine ⟨hhandles.tracked h.tracked, hreverse, hstopped, ?_, ?_, fun p hp => ?_⟩
  · rw [hout]
    exact hperm.trans (List.perm_append_comm.trans (h.handed.append_right new))
  · refine hperm.nodup_iff.mpr (List.nodup_append'.mpr ⟨hnodup, h.once, fun p hp hold => ?_⟩)
    exact (h.left p hold).2 (hnew p hp).1
  · rcases List.mem_append.mp (hperm.mem_iff.mp hp) with hp | hp
    · exact ⟨lt_of_lt_of_le (h.tracked.held_lt p (hnew p hp).1) hhandles.heap_grows.length_le,
        (hnew p hp).2⟩
    · obtain ⟨hlt, hheld⟩ := h.left p hp
      exact ⟨lt_of_lt_of_le hlt hhandles.heap_grows.length_le,
        hhandles.notMem_held hlt hheld⟩

/-- A new notifier is well formed. -/
lemma wellFormed_create (settings : NotifierSettings) (resizeThread jpegThread : ThreadFlags) :
    WellFormed (create settings resizeThread jpegThread) where
  tracked := AppCallbackNotifier.tracked_create settings resizeThread jpegThread
  reverse := rfl
  stopped _ := rfl
  handed := List.Perm.refl _
  once := List.nodup_nil
  left _ hp := absurd hp List.not_mem_nil

/-- **A release returns a buffer exactly if the memory of the mode holds it at the address.** -/
theorem WellFormed.returns_eq_iff {s : RecordingFrames} (h : WellFormed s) (mem : ℕ)
    (buffer : Ptr) :
    s.returns mem = some (buffer, .VIDEO_FRAME_SYNC, .PREVIEW_STREAM_TYPE) ↔
      s.Holds mem buffer := by
  have hfind : (if s.settings.mUseMetaDataBufferMode then
      s.mVideoMetadataBufferReverseMap.find? mem else s.mVideoMemoryReverseMap.find? mem) =
        (KeyedVector.addAll ∅ s.places).find? mem := by
    unfold places
    split_ifs
    · rfl
    · rw [h.reverse]
  rw [Holds, ← KeyedVector.find?_addAll_eq_some_iff, returns, hfind]
  simp

/-! ### Runs -/

/-- The frame of a copy that was handed to the recorder stays. -/
lemma WellFormed.frame_step {s : RecordingFrames} (h : WellFormed s) (a : Action) {p : ℕ}
    (hp : p ∈ s.recorded) : (s.step a).frame p = s.frame p :=
  AppCallbackNotifier.frame_of_prefix (handles_step s a).heap_grows (h.left p hp).1

/-- The releases stay right exactly if a pointer is released at the right time. -/
lemma WellFormed.released_step_iff {s : RecordingFrames} (h : WellFormed s) (hs : s.Settled)
    (a : Action) :
    (∀ r ∈ (s.step a).released, r.returned =
        some (((s.step a).frame r.copy).mBuffer, .VIDEO_FRAME_SYNC, .PREVIEW_STREAM_TYPE)) ↔
      s.KeepsPointers a := by
  have hold : ∀ r ∈ s.released, r.returned =
      some (((s.step a).frame r.copy).mBuffer, .VIDEO_FRAME_SYNC, .PREVIEW_STREAM_TYPE) := by
    intro r hr
    rw [h.frame_step a (List.mem_append_right _ (List.mem_map_of_mem hr))]
    exact hs.released r hr
  cases moved_step h a with
  | hand new hgiven hreleased hout hnodup hleft hC =>
    rw [hreleased]
    exact iff_of_true hold hC
  | release mem d before after hgiven hgiven' hreleased hout hC =>
    have hd : d ∈ s.given := by
      rw [hgiven]
      exact List.mem_append_right _ List.mem_cons_self
    rw [hreleased, hC, ← h.returns_eq_iff,
      ← h.frame_step a (List.mem_append_left _ (List.mem_map_of_mem hd))]
    simp only [List.forall_mem_append, List.forall_mem_singleton]
    exact and_iff_right hold

/-- **A step keeps the frames settled exactly if it is careful.** -/
theorem settled_step_iff {s : RecordingFrames} (a : Action) (h : WellFormed s) (hs : s.Settled) :
    (s.step a).Settled ↔ s.Careful a := by
  have hcopies := (handles_step s a).accounted_iff h.tracked hs.copies
  have hreleased := h.released_step_iff hs a
  have hnext := h.step a
  constructor
  · exact fun h' => ⟨hcopies.mp h'.copies, hreleased.mp h'.released⟩
  · exact fun hC => ⟨hcopies.mpr hC.1, hnext.handed, hnext.once, hreleased.mpr hC.2⟩

/-- **Every frame is settled throughout a run if and only if all its steps are careful.**

**Proof sketch.** The copies in the queues are tracked in every state, so a step keeps the log
complete exactly if it discharges the copies that leave in it. Only the notification thread hands
frames to the recorder, and the recorder has them until it releases them; the map of the mode holds
what was entered last at an address, so a release returns the frame's own buffer exactly if the
memory of the mode holds it there. The rest is the exact invariant rule. -/
theorem always_settled_iff (settings : NotifierSettings) (resizeThread jpegThread : ThreadFlags)
    (run : List Action) :
    StepRun.Always step Settled (create settings resizeThread jpegThread) run ↔
      StepRun.Along step Careful (create settings resizeThread jpegThread) run := by
  have hwell := wellFormed_create settings resizeThread jpegThread
  refine StepRun.always_iff_along (fun _ a h => WellFormed.step h a)
    (fun _ a h hs => settled_step_iff a h hs) hwell ⟨?_, hwell.handed, hwell.once, ?_⟩
  · exact fun p hp => absurd hp (Nat.not_lt_zero p)
  · exact fun r hr => absurd hr List.not_mem_nil

/-- A metadata buffer. -/
def metadataBuffer : HeapMemory := ⟨0x9000, by decide⟩

/-- The settings of a camera service that wants recording frames as metadata. -/
def metadataSettings : NotifierSettings :=
  { AppCallbackNotifier.recordingSettings with mUseMetaDataBufferMode := true }

/-- A recording frame comes after `startRecording` has subscribed to recording frames and before it
sets `mRecording`: it is neither returned nor deleted. Or the recorder releases a frame that was
passed as metadata when `stopRecording` has released the metadata buffers: nothing is returned. -/
theorem not_always_settled_startRecording :
    ¬ StepRun.Always step Settled
        (create AppCallbackNotifier.recordingSettings ⟨false, false, false⟩ ⟨false, false, false⟩)
        [.other (.enableFrameNotification .VIDEO_FRAME_SYNC) rfl,
          .other (.frameCallback AppCallbackNotifier.recordingFrame) rfl,
          .other (.resizeFlush VIDEO_START_FLUSH) rfl, .other (.jpegFlush VIDEO_START_FLUSH) rfl,
          .other (.setRecording true) rfl] ∧
      ¬ StepRun.Always step Settled
        (create metadataSettings ⟨false, false, false⟩ ⟨false, false, false⟩)
        [.initSharedVideoBuffers [0x1000] [metadataBuffer],
          .other (.enableFrameNotification .VIDEO_FRAME_SYNC) rfl,
          .other (.resizeFlush VIDEO_START_FLUSH) rfl, .other (.jpegFlush VIDEO_START_FLUSH) rfl,
          .other (.setRecording true) rfl,
          .other (.frameCallback AppCallbackNotifier.recordingFrame) rfl, .notifyFrame,
          .other (.disableFrameNotification .VIDEO_FRAME_SYNC) rfl,
          .other (.setRecording false) rfl, .other (.resizeFlush VIDEO_STOP_FLUSH) rfl,
          .other (.jpegFlush VIDEO_STOP_FLUSH) rfl, .releaseSharedVideoBuffers,
          .releaseRecordingFrame 0x9000] := by
  constructor
  · intro h
    rcases h.last.copies 0 (by decide) with hheld | hdis
    · revert hheld
      decide
    · exact AppCallbackNotifier.not_discharged_nil _ 0 hdis
  · intro h
    have hreleased := h.last.released ⟨0, none⟩ (by decide +kernel)
    cases hreleased

end RecordingFrames

end CameraHal
