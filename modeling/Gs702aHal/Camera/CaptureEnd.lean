import Gs702aHal.Lib.StepRun
import Gs702aHal.Camera.FillBufferDone

set_option relaxedAutoImplicit false
set_option autoImplicit false

/-!
# The end of an image capture

The handler of filled buffers sends every captured frame to the subscribers of `RAW_FRAME_SYNC` and
`IMAGE_FRAME_SYNC`, and counts `mCapturedFrames` down afterwards. A consumer returns a frame under
`mReturnFrameLock`: `onReturnFrame` tests whether this is the end of the capture, and only then is
the reference dropped. Between the deliveries of a frame, and before the count, frames may be
returned. `onReturnFrame` does not call the callback of the end itself: it puts a message into the
queue of the command handler, whose thread calls the callback when it gets to the message.

## Main definitions

* `CameraHal.CameraStreamHub.getRefCountByFrameTypes` — the references of a mask of frame types.
* `CameraHal.ImageCapture`, `CameraHal.ImageCapture.step` — a capture and its steps.
* `CameraHal.ImageCapture.EndedOnce` — the callback is called once, after every frame has been sent
  and every reference dropped.
* `CameraHal.ImageCapture.Careful` — the condition on a step.

## Main results

* `CameraHal.CameraStreamHub.references_modifyBuffer` — how a change of one buffer changes the
  references.
* `CameraHal.ImageCapture.WellFormed.step` — what every run keeps.
* `CameraHal.ImageCapture.endedOnce_step_iff` — what a step keeps.
* `CameraHal.ImageCapture.always_endedOnce_iff` — the end is signalled as it should be throughout a
  run if and only if a frame was expected and all steps are careful.
-/

namespace CameraHal

open OMXCameraAdapter

/-! ### Counting references -/

namespace CameraStream

/-- `getRefCountByFrameTypes` of a stream. -/
def getRefCountByFrameTypes (s : CameraStream) (types : BitVec 32) : ℕ :=
  ((FrameType.all.filter fun t => t.mask &&& types ≠ 0).map fun t =>
    s.total fun buf => buf.mRefCount t).sum

end CameraStream

namespace CameraStreamHub

/-- `getRefCountByFrameTypes` of the hub. -/
def getRefCountByFrameTypes (hub : CameraStreamHub) (types : BitVec 32) : ℕ :=
  (hub.mStreams .PREVIEW_STREAM_TYPE).getRefCountByFrameTypes types +
    (hub.mStreams .IMAGE_STREAM_TYPE).getRefCountByFrameTypes types

/-- The stream in which `returnFrame` drops a reference. -/
def streamOf (hub : CameraStreamHub) (r : ReturnCall) : StreamType :=
  match r.streamType with
  | some s => s
  | none =>
    if (hub.buffer? .PREVIEW_STREAM_TYPE r.frameBuf).isSome then .PREVIEW_STREAM_TYPE
    else .IMAGE_STREAM_TYPE

variable (hub : CameraStreamHub)

/-- The references of the two frame types of a captured frame. -/
lemma getRefCountByFrameTypes_captureMask :
    hub.getRefCountByFrameTypes captureMask =
      ((hub.mStreams .PREVIEW_STREAM_TYPE).total (·.mRefCount .RAW_FRAME_SYNC) +
          (hub.mStreams .PREVIEW_STREAM_TYPE).total (·.mRefCount .IMAGE_FRAME_SYNC)) +
        ((hub.mStreams .IMAGE_STREAM_TYPE).total (·.mRefCount .RAW_FRAME_SYNC) +
          (hub.mStreams .IMAGE_STREAM_TYPE).total (·.mRefCount .IMAGE_FRAME_SYNC)) := by
  have hfilter : (FrameType.all.filter fun t => t.mask &&& captureMask ≠ 0) =
      [.RAW_FRAME_SYNC, .IMAGE_FRAME_SYNC] := by decide
  simp only [getRefCountByFrameTypes, CameraStream.getRefCountByFrameTypes, hfilter]
  simp

/-- The references on captured frames that a buffer has. -/
def bufferReferences (buf : CameraStreamBuffer) : ℕ :=
  buf.mRefCount .RAW_FRAME_SYNC + buf.mRefCount .IMAGE_FRAME_SYNC

/-- A change of one buffer changes the references by what it changes on that buffer. -/
lemma references_modifyBuffer (s : StreamType) (b : Ptr)
    (f : CameraStreamBuffer → CameraStreamBuffer) :
    (hub.modifyBuffer s b f).getRefCountByFrameTypes captureMask +
        (hub.buffer? s b).elim 0 bufferReferences =
      hub.getRefCountByFrameTypes captureMask +
        (hub.buffer? s b).elim 0 fun buf => bufferReferences (f buf) := by
  have hraw := (hub.mStreams s).total_modify b f (·.mRefCount .RAW_FRAME_SYNC)
  have himage := (hub.mStreams s).total_modify b f (·.mRefCount .IMAGE_FRAME_SYNC)
  rw [getRefCountByFrameTypes_captureMask, getRefCountByFrameTypes_captureMask]
  simp only [buffer?]
  cases hfind : (hub.mStreams s).find? b with
  | none =>
    rw [hfind] at hraw himage
    simp only [Option.elim_none, Nat.add_zero] at hraw himage ⊢
    cases s <;> simp [modifyBuffer, setStream, hraw, himage]
  | some buf =>
    rw [hfind] at hraw himage
    simp only [Option.elim_some, bufferReferences] at hraw himage ⊢
    cases s with
    | PREVIEW_STREAM_TYPE =>
      simp only [modifyBuffer, setStream, Function.update_self, ne_eq, reduceCtorEq,
        not_false_eq_true, Function.update_of_ne]
      omega
    | IMAGE_STREAM_TYPE =>
      simp only [modifyBuffer, setStream, Function.update_self, ne_eq, reduceCtorEq,
        not_false_eq_true, Function.update_of_ne]
      omega

/-- `returnFrame` drops a reference in `streamOf`. -/
lemma returnFrame_streamOf (r : ReturnCall) :
    hub.returnFrame r.frameBuf r.frameType r.streamType =
      hub.decRefCount (hub.streamOf r) r.frameBuf r.frameType := by
  unfold returnFrame streamOf
  cases r.streamType with
  | some s => rfl
  | none =>
    dsimp only
    split_ifs <;> rfl

/-- A reference dropped counts if it is on a captured frame. -/
lemma references_decRefCount {s : StreamType} {b : Ptr} {t : FrameType}
    (hheld : 0 < hub.refCount s b t) :
    (hub.decRefCount s b t).1.getRefCountByFrameTypes captureMask +
        (if t = .RAW_FRAME_SYNC ∨ t = .IMAGE_FRAME_SYNC then 1 else 0) =
      hub.getRefCountByFrameTypes captureMask := by
  unfold refCount at hheld
  unfold decRefCount
  cases hbuf : hub.buffer? s b with
  | none => simp [hbuf] at hheld
  | some buf =>
    have hchange := hub.references_modifyBuffer s b fun buf => (buf.decRefCount t).1
    simp only [hbuf, Option.elim_some, bufferReferences,
      CameraStreamBuffer.mRefCount_decRefCount] at hheld hchange ⊢
    cases t <;> simp at hheld hchange ⊢ <;> omega

end CameraStreamHub

/-! ### The capture -/

/-- How far the handler of filled buffers has got with a captured frame. -/
inductive CaptureStage
  | idle
  /-- The deliveries that are left. -/
  | sending (rounds : List Round)
  deriving DecidableEq

/-- An image capture. -/
structure ImageCapture where
  hub : CameraStreamHub
  mCapturedFrames : ℕ
  stage : CaptureStage
  /-- The return that owns `mReturnFrameLock` and has left `onReturnFrame`. -/
  returning : Option ReturnCall
  /-- The messages `CAMERA_END_IMAGE_CALLBACK` in the queue of the command handler. -/
  mCommandMsgQ : ℕ
  mEndImageCaptureCallback : Ptr
  /-- The number of calls of `mEndImageCaptureCallback`. -/
  signals : ℕ
  deriving DecidableEq

namespace ImageCapture

/-- The handler takes a filled buffer, which is a captured frame. -/
def fillBufferDone (s : ImageCapture) (frame : CameraFrame) (captureActive : Bool) :
    ImageCapture :=
  match s.stage with
  | .sending _ => s
  | .idle =>
    if s.mCapturedFrames < 1 then s
    else if !captureActive then s
    else { s with stage := .sending (s.hub.rounds frame captureMask) }

/-- One pass of the loop of `CameraStream::sendFrame`. A `NULL` callback gives its reference back
under the lock of the stream. -/
def deliver (hub : CameraStreamHub) (r : Round) : CameraStreamHub :=
  let taken := hub.incRefCount r.frame.mStreamType r.frame.mBuffer r.frame.mFrameType
  if r.callback = NULL then
    (taken.decRefCount r.frame.mStreamType r.frame.mBuffer r.frame.mFrameType).1
  else taken

/-- The handler makes its next delivery, or counts the frame. -/
def sendCallBacks (s : ImageCapture) : ImageCapture :=
  match s.stage with
  | .idle => s
  | .sending (r :: rounds) => { s with hub := deliver s.hub r, stage := .sending rounds }
  | .sending [] => { s with mCapturedFrames := s.mCapturedFrames - 1, stage := .idle }

/-- The frame types of a captured frame. -/
def captured (t : FrameType) : Bool := t == .RAW_FRAME_SYNC || t == .IMAGE_FRAME_SYNC

/-- `endImageCallback` puts a message for the command handler. -/
def endImageCallback (s : ImageCapture) : ImageCapture :=
  { s with mCommandMsgQ := s.mCommandMsgQ + 1 }

/-- `onReturnFrame`, without the exif data that it frees. -/
def onReturnFrame (s : ImageCapture) (r : ReturnCall) : ImageCapture :=
  if 1 > s.mCapturedFrames ∧ captured r.frameType ∧
      s.hub.getRefCountByFrameTypes captureMask = 1 then
    s.endImageCallback
  else s

/-- The command handler's thread gets the next message `CAMERA_END_IMAGE_CALLBACK`. -/
def commandHandler (s : ImageCapture) : ImageCapture :=
  if s.mCommandMsgQ = 0 then s  -- waits for a message
  else if s.mEndImageCaptureCallback ≠ NULL then
    { s with mCommandMsgQ := s.mCommandMsgQ - 1, signals := s.signals + 1 }
  else { s with mCommandMsgQ := s.mCommandMsgQ - 1 }

/-- Some consumer holds the reference that a return drops. -/
def Holds (s : ImageCapture) (r : ReturnCall) : Prop :=
  r.frameBuf ≠ NULL ∧ 0 < s.hub.refCount (s.hub.streamOf r) r.frameBuf r.frameType

instance (s : ImageCapture) (r : ReturnCall) : Decidable (s.Holds r) :=
  inferInstanceAs (Decidable (_ ∧ _))

/-- A consumer returns a reference that it holds: `returnFrame` up to the end of
`onReturnFrame`. -/
def returnFrame (s : ImageCapture) (r : ReturnCall) : ImageCapture :=
  match s.returning with
  | some _ => s  -- waits for `mReturnFrameLock`
  | none => if s.Holds r then { s.onReturnFrame r with returning := some r } else s

/-- `returnFrame` drops its reference. -/
def dropReference (s : ImageCapture) : ImageCapture :=
  match s.returning with
  | none => s
  | some r =>
    { s with
      hub := (s.hub.returnFrame r.frameBuf r.frameType r.streamType).1
      returning := none }

/-- The steps. -/
inductive Action
  | fillBufferDone (frame : CameraFrame) (captureActive : Bool)
  | sendCallBacks
  | returnFrame (r : ReturnCall)
  | dropReference
  | commandHandler

/-- One step. -/
def step (s : ImageCapture) : Action → ImageCapture
  | .fillBufferDone frame captureActive => s.fillBufferDone frame captureActive
  | .sendCallBacks => s.sendCallBacks
  | .returnFrame r => s.returnFrame r
  | .dropReference => s.dropReference
  | .commandHandler => s.commandHandler

/-- The references on captured frames that have not been dropped. -/
def references (s : ImageCapture) : ℕ := s.hub.getRefCountByFrameTypes captureMask

/-- Those of them whose return has left `onReturnFrame`. -/
def inReturn (s : ImageCapture) : ℕ :=
  match s.returning with
  | some r => if captured r.frameType then 1 else 0
  | none => 0

/-- Every expected frame was sent, and every reference was dropped. -/
def Over (s : ImageCapture) : Prop := s.mCapturedFrames = 0 ∧ s.references = 0

instance (s : ImageCapture) : Decidable s.Over := inferInstanceAs (Decidable (_ ∧ _))

/-- The end of the capture is signalled once when it is over, and not before. -/
structure EndedOnce (s : ImageCapture) : Prop where
  /-- The callback is not called before the capture is over. -/
  notEarly : 0 < s.signals → s.Over
  /-- It is not called, or asked for, twice. -/
  notTwice : s.signals + s.mCommandMsgQ ≤ 1
  /-- Once no return is left that could ask for it, it was asked for. -/
  notNever : s.mCapturedFrames = 0 → s.references = s.inReturn → 0 < s.signals + s.mCommandMsgQ

/-- The condition on a step: when the last frame is counted, some reference on a captured frame is
out whose return has not left `onReturnFrame`; and when the command handler gets to the message, no
return of a captured frame is between `onReturnFrame` and the drop of its reference. -/
def Careful (s : ImageCapture) : Action → Prop
  | .sendCallBacks => s.stage = .sending [] → s.mCapturedFrames = 1 → s.inReturn < s.references
  | .commandHandler => 0 < s.mCommandMsgQ → s.inReturn = 0
  | _ => True

instance Careful.decidable (s : ImageCapture) : ∀ a, Decidable (s.Careful a)
  | .sendCallBacks => inferInstanceAs (Decidable (_ → _ → _))
  | .commandHandler => inferInstanceAs (Decidable (_ → _))
  | .fillBufferDone _ _ | .returnFrame _ | .dropReference => .isTrue trivial

/-- A capture before its first frame, with the callback that `CameraHal::initialize` registers. -/
structure Ready (s : ImageCapture) : Prop where
  stage : s.stage = .idle
  returning : s.returning = none
  references : s.references = 0
  registered : s.mEndImageCaptureCallback ≠ NULL
  messages : s.mCommandMsgQ = 0
  signals : s.signals = 0

/-! ### What steps do to the references -/

/-- The invariant of all runs. -/
structure WellFormed (s : ImageCapture) : Prop where
  /-- A frame that is being sent has not been counted. -/
  sending : ∀ rounds, s.stage = .sending rounds → 0 < s.mCapturedFrames
  /-- The reference that is being returned has not been dropped. -/
  held : ∀ r, s.returning = some r → s.Holds r
  registered : s.mEndImageCaptureCallback ≠ NULL
  /-- The end is asked for when no other return is left. -/
  ended : 0 < s.signals + s.mCommandMsgQ → s.mCapturedFrames = 0 ∧ s.references = s.inReturn
  once : s.signals + s.mCommandMsgQ ≤ 1

/-- Before the first frame everything is in order. -/
lemma Ready.wellFormed {s : ImageCapture} (h : Ready s) : WellFormed s where
  sending := by simp [h.stage]
  held := by simp [h.returning]
  registered := h.registered
  ended := by simp [h.signals, h.messages]
  once := by simp [h.signals, h.messages]

/-- A delivery takes no reference away. -/
lemma refCount_deliver (hub : CameraStreamHub) (r : Round) (s : StreamType) (b : Ptr)
    (t : FrameType) : hub.refCount s b t ≤ (deliver hub r).refCount s b t := by
  unfold deliver
  split_ifs
  · rw [CameraStreamHub.refCount_decRefCount, CameraStreamHub.refCount_incRefCount]
    by_cases hsame : (s = r.frame.mStreamType ∧ b = r.frame.mBuffer) ∧ t = r.frame.mFrameType
    · obtain ⟨⟨rfl, rfl⟩, rfl⟩ := hsame
      cases hbuf : hub.buffer? r.frame.mStreamType r.frame.mBuffer with
      | none => simp [CameraStreamHub.refCount, hbuf]
      | some buf => simp
    · have hsame' : ¬ ((s = r.frame.mStreamType ∧ b = r.frame.mBuffer) ∧
          t = r.frame.mFrameType ∧
          (hub.buffer? r.frame.mStreamType r.frame.mBuffer).isSome) :=
        fun hc => hsame ⟨hc.1, hc.2.1⟩
      rw [if_neg hsame, if_neg hsame']
      omega
  · rw [CameraStreamHub.refCount_incRefCount]
    exact Nat.le_add_right _ _

/-- A delivery leaves the streams of the returns. -/
lemma streamOf_deliver (hub : CameraStreamHub) (r : Round) (call : ReturnCall) :
    (deliver hub r).streamOf call = hub.streamOf call := by
  have hsome : ((deliver hub r).buffer? .PREVIEW_STREAM_TYPE call.frameBuf).isSome =
      (hub.buffer? .PREVIEW_STREAM_TYPE call.frameBuf).isSome := by
    unfold deliver
    dsimp only
    split_ifs
    · rw [CameraStreamHub.isSome_buffer?_decRefCount, CameraStreamHub.isSome_buffer?_incRefCount]
    · rw [CameraStreamHub.isSome_buffer?_incRefCount]
  unfold CameraStreamHub.streamOf
  rw [hsome]

/-- A delivery leaves a reference that is held. -/
lemma Holds.deliver {s : ImageCapture} {call : ReturnCall} (h : s.Holds call) (r : Round)
    (stage : CaptureStage) :
    Holds { s with hub := ImageCapture.deliver s.hub r, stage := stage } call := by
  refine ⟨h.1, ?_⟩
  show 0 < (ImageCapture.deliver s.hub r).refCount _ _ _
  rw [streamOf_deliver]
  exact Nat.lt_of_lt_of_le h.2 (refCount_deliver s.hub r _ _ _)

/-- A reference on a captured frame that is held counts. -/
lemma Holds.references_pos {s : ImageCapture} {r : ReturnCall} (h : s.Holds r)
    (hcaptured : captured r.frameType = true) : 0 < s.references := by
  have hdrop := s.hub.references_decRefCount h.2
  have ht : r.frameType = .RAW_FRAME_SYNC ∨ r.frameType = .IMAGE_FRAME_SYNC := by
    simpa [captured] using hcaptured
  rw [if_pos ht] at hdrop
  rw [references, ← hdrop]
  exact Nat.succ_pos _

/-- A reference that is being returned counts. -/
lemma WellFormed.inReturn_le {s : ImageCapture} (h : WellFormed s) :
    s.inReturn ≤ s.references := by
  unfold inReturn
  split
  · rename_i r hreturning
    split_ifs with hcaptured
    · exact (h.held r hreturning).references_pos hcaptured
    · exact Nat.zero_le _
  · exact Nat.zero_le _

/-- While a frame is expected, nobody has asked for the end. -/
lemma WellFormed.not_ended {s : ImageCapture} (h : WellFormed s) (hpos : 0 < s.mCapturedFrames) :
    s.signals + s.mCommandMsgQ = 0 := by
  by_contra hne
  exact hpos.ne' (h.ended (Nat.pos_of_ne_zero hne)).1

/-- The references after the drop of the one that is being returned. -/
lemma WellFormed.references_dropReference {s : ImageCapture} (h : WellFormed s) :
    s.dropReference.references + s.inReturn = s.references := by
  unfold dropReference
  split
  · rename_i hreturning
    rw [inReturn, hreturning, Nat.add_zero]
  · rename_i r hreturning
    have hdrop := s.hub.references_decRefCount (h.held r hreturning).2
    rw [← CameraStreamHub.returnFrame_streamOf] at hdrop
    have hin : s.inReturn =
        if r.frameType = .RAW_FRAME_SYNC ∨ r.frameType = .IMAGE_FRAME_SYNC then 1 else 0 := by
      simp [inReturn, hreturning, captured]
    rw [hin]
    exact hdrop

/-- After the drop nothing is being returned, and nothing else has changed. -/
lemma dropReference_rest (s : ImageCapture) :
    s.dropReference.inReturn = 0 ∧ s.dropReference.returning = none ∧
      s.dropReference.mCapturedFrames = s.mCapturedFrames ∧ s.dropReference.stage = s.stage ∧
      s.dropReference.mCommandMsgQ = s.mCommandMsgQ ∧
      s.dropReference.mEndImageCaptureCallback = s.mEndImageCaptureCallback ∧
      s.dropReference.signals = s.signals := by
  unfold dropReference
  split
  · rename_i hreturning
    simp [inReturn, hreturning]
  · simp [inReturn]

/-- What a return does up to the end of `onReturnFrame`: nothing, or it is the last return of a
captured frame and asks for the end, or it is another return and asks for nothing. -/
inductive Returned (s : ImageCapture) : ImageCapture → Prop
  | waits : Returned s s
  | last (r : ReturnCall) (hreturning : s.returning = none) (hheld : s.Holds r)
      (hcounted : s.mCapturedFrames = 0) (hreferences : s.references = 1)
      (hcaptured : captured r.frameType = true) :
      Returned s { s with returning := some r, mCommandMsgQ := s.mCommandMsgQ + 1 }
  | other (r : ReturnCall) (hreturning : s.returning = none) (hheld : s.Holds r)
      (hother : s.mCapturedFrames = 0 → captured r.frameType = true → s.references ≠ 1) :
      Returned s { s with returning := some r }

/-- A return is of one of the three kinds. -/
lemma returned_returnFrame (s : ImageCapture) (r : ReturnCall) : Returned s (s.returnFrame r) := by
  unfold returnFrame
  cases hreturning : s.returning with
  | some r' => exact .waits
  | none =>
    dsimp only
    split_ifs with hheld
    · unfold onReturnFrame
      split_ifs with hlast
      · exact .last r hreturning hheld (Nat.lt_one_iff.mp hlast.1) hlast.2.2 hlast.2.1
      · exact .other r hreturning hheld fun hcounted hcaptured hone =>
          hlast ⟨Nat.lt_one_iff.mpr hcounted, hcaptured, hone⟩
    · exact .waits

/-- Without a return under way, no reference is being returned. -/
lemma inReturn_of_none {s : ImageCapture} (h : s.returning = none) : s.inReturn = 0 := by
  rw [inReturn, h]

/-- The invariant is kept when the handler takes a frame. -/
theorem WellFormed.fillBufferDone {s : ImageCapture} (h : WellFormed s) (frame : CameraFrame)
    (captureActive : Bool) : WellFormed (s.fillBufferDone frame captureActive) := by
  unfold ImageCapture.fillBufferDone
  split
  · exact h
  · split_ifs with hcount
    · exact h
    · exact h
    · exact ⟨fun _ _ => Nat.not_lt.mp hcount, h.held, h.registered, h.ended, h.once⟩

/-- The invariant is kept by a delivery, and when a frame is counted. -/
theorem WellFormed.sendCallBacks {s : ImageCapture} (h : WellFormed s) :
    WellFormed s.sendCallBacks := by
  unfold ImageCapture.sendCallBacks
  split
  · exact h
  · rename_i r rounds hstage
    have hpos := h.sending _ hstage
    exact ⟨fun _ _ => hpos, fun call hcall => (h.held call hcall).deliver r _, h.registered,
      fun hended => absurd (h.not_ended hpos) hended.ne', h.once⟩
  · rename_i hstage
    have hpos := h.sending _ hstage
    exact ⟨fun _ hs => absurd hs (by simp), h.held, h.registered,
      fun hended => absurd (h.not_ended hpos) hended.ne', h.once⟩

/-- The invariant is kept by a return up to the end of `onReturnFrame`. -/
theorem WellFormed.returnFrame {s : ImageCapture} (h : WellFormed s) (r : ReturnCall) :
    WellFormed (s.returnFrame r) := by
  have hkind := returned_returnFrame s r
  generalize s.returnFrame r = t at hkind ⊢
  cases hkind with
  | waits => exact h
  | last r hreturning hheld hcounted hreferences hcaptured =>
    have hzero := inReturn_of_none hreturning
    -- an end that was asked for before leaves no reference to return
    have hsum : s.signals + s.mCommandMsgQ = 0 := by
      by_contra hne
      have heq := (h.ended (Nat.pos_of_ne_zero hne)).2
      omega
    refine ⟨h.sending, fun call hcall => Option.some.inj hcall ▸ hheld, h.registered,
      fun _ => ⟨hcounted, ?_⟩, ?_⟩
    · exact hreferences.trans (if_pos hcaptured).symm
    · show s.signals + (s.mCommandMsgQ + 1) ≤ 1
      omega
  | other r hreturning hheld hother =>
    have hzero := inReturn_of_none hreturning
    refine ⟨h.sending, fun call hcall => Option.some.inj hcall ▸ hheld, h.registered,
      fun hended => ?_, h.once⟩
    obtain ⟨hcounted, heq⟩ := h.ended hended
    refine ⟨hcounted, heq.trans (hzero.trans (if_neg fun hcaptured => ?_).symm)⟩
    have hpos := hheld.references_pos hcaptured
    omega

/-- The invariant is kept when the reference is dropped. -/
theorem WellFormed.dropReference {s : ImageCapture} (h : WellFormed s) :
    WellFormed s.dropReference := by
  have hdrop := h.references_dropReference
  obtain ⟨hin, hreturning, hcount, hstage, hq, hcallback, hsignals⟩ := s.dropReference_rest
  refine ⟨?_, by simp [hreturning], hcallback ▸ h.registered, fun hended => ?_, ?_⟩
  · rw [hstage, hcount]
    exact h.sending
  · rw [hq, hsignals] at hended
    obtain ⟨hcounted, heq⟩ := h.ended hended
    exact ⟨hcount.trans hcounted, by omega⟩
  · rw [hq, hsignals]
    exact h.once

/-- The invariant is kept by the command handler. -/
theorem WellFormed.commandHandler {s : ImageCapture} (h : WellFormed s) :
    WellFormed s.commandHandler := by
  simp only [ImageCapture.commandHandler, if_pos h.registered]
  split_ifs with hempty
  · exact h
  · have honce := h.once
    refine ⟨h.sending, h.held, h.registered, fun _ => h.ended (by omega), ?_⟩
    show s.signals + 1 + (s.mCommandMsgQ - 1) ≤ 1
    omega

/-- **The invariant is kept by every step.** -/
theorem WellFormed.step {s : ImageCapture} (h : WellFormed s) (a : Action) :
    WellFormed (s.step a) := by
  cases a with
  | fillBufferDone frame captureActive => exact h.fillBufferDone frame captureActive
  | sendCallBacks => exact h.sendCallBacks
  | returnFrame r => exact h.returnFrame r
  | dropReference => exact h.dropReference
  | commandHandler => exact h.commandHandler

/-! ### The end -/

/-- Once the capture is over, the command handler's next turn leaves exactly one call of the
callback. -/
lemma EndedOnce.signals_commandHandler {s : ImageCapture} (he : EndedOnce s) (h : WellFormed s)
    (hover : s.Over) : s.commandHandler.signals = 1 := by
  have hle := h.inReturn_le
  have hreferences := hover.2
  have hasked := he.notNever hover.1 (by omega)
  have honce := he.notTwice
  simp only [commandHandler, if_pos h.registered]
  split_ifs with hempty
  · omega
  · show s.signals + 1 = 1
    omega

/-- The handler takes a frame without touching the end. -/
theorem EndedOnce.fillBufferDone {s : ImageCapture} (he : EndedOnce s) (frame : CameraFrame)
    (captureActive : Bool) : EndedOnce (s.fillBufferDone frame captureActive) := by
  unfold ImageCapture.fillBufferDone
  split
  · exact he
  · split_ifs
    · exact he
    · exact he
    · exact ⟨he.notEarly, he.notTwice, he.notNever⟩

/-- While a frame is expected nobody asks for the end; when the last frame is counted, some return
is left to ask for it exactly if the step is careful. -/
theorem endedOnce_sendCallBacks_iff {s : ImageCapture} (h : WellFormed s) (he : EndedOnce s) :
    EndedOnce s.sendCallBacks ↔ s.Careful .sendCallBacks := by
  have honce := h.sendCallBacks.once
  cases hstage : s.stage with
  | idle =>
    have hsame : s.sendCallBacks = s := by
      simp only [sendCallBacks, hstage]
    rw [hsame]
    exact iff_of_true he fun hs => absurd (hstage.symm.trans hs) (by simp)
  | sending rounds =>
    have hpos := h.sending rounds hstage
    have hsum := h.not_ended hpos
    have hsignals : ¬ 0 < s.signals := by omega
    cases rounds with
    | cons r rounds =>
      refine iff_of_true ?_ fun hs => absurd (hstage.symm.trans hs) (by simp)
      simp only [sendCallBacks, hstage] at honce ⊢
      exact ⟨fun hcalled => absurd hcalled hsignals, honce,
        fun hcounted => absurd hcounted hpos.ne'⟩
    | nil =>
      simp only [sendCallBacks, hstage] at honce ⊢
      have hle := h.inReturn_le
      constructor
      · intro hended _ hone
        by_contra hnot
        have hasked := hended.notNever (show s.mCapturedFrames - 1 = 0 by omega)
          (show s.references = s.inReturn by omega)
        exact absurd hsum hasked.ne'
      · intro hcareful
        refine ⟨fun hcalled => absurd hcalled hsignals, honce, fun hcounted heq => ?_⟩
        have hcounted' : s.mCapturedFrames - 1 = 0 := hcounted
        have heq' : s.references = s.inReturn := heq
        have hlt := hcareful hstage (by omega)
        omega

/-- Only the last return of a captured frame asks for the end, and it is the only one that does. -/
theorem EndedOnce.returnFrame {s : ImageCapture} (he : EndedOnce s) (h : WellFormed s)
    (r : ReturnCall) : EndedOnce (s.returnFrame r) := by
  have hkind := returned_returnFrame s r
  generalize s.returnFrame r = t at hkind ⊢
  cases hkind with
  | waits => exact he
  | last r hreturning hheld hcounted hreferences hcaptured =>
    refine ⟨fun hcalled => ?_, ?_, fun _ _ => Nat.succ_pos _⟩
    · -- a callback that was called before has left no reference to return
      have hover := (he.notEarly hcalled).2
      omega
    · have hzero := inReturn_of_none hreturning
      by_contra hnot
      have hasked : 0 < s.signals + s.mCommandMsgQ := by
        have hnot' : ¬ s.signals + (s.mCommandMsgQ + 1) ≤ 1 := hnot
        omega
      have heq := (h.ended hasked).2
      omega
  | other r hreturning hheld hother =>
    have hzero := inReturn_of_none hreturning
    refine ⟨he.notEarly, he.notTwice, fun hcounted heq => ?_⟩
    by_cases hcaptured : captured r.frameType = true
    · exact absurd (heq.trans (if_pos hcaptured)) (hother hcounted hcaptured)
    · refine he.notNever hcounted (Eq.trans ?_ hzero.symm)
      exact heq.trans (if_neg hcaptured)

/-- A reference that is dropped was counted as being returned. -/
theorem EndedOnce.dropReference {s : ImageCapture} (he : EndedOnce s) (h : WellFormed s) :
    EndedOnce s.dropReference := by
  have hdrop := h.references_dropReference
  obtain ⟨hin, -, hcount, -, hq, -, hsignals⟩ := s.dropReference_rest
  refine ⟨fun hcalled => ?_, ?_, fun hcounted heq => ?_⟩
  · obtain ⟨hcounted, hreferences⟩ := he.notEarly (hsignals ▸ hcalled)
    exact ⟨hcount.trans hcounted, by omega⟩
  · rw [hq, hsignals]
    exact he.notTwice
  · rw [hq, hsignals]
    exact he.notNever (hcount ▸ hcounted) (by omega)

/-- The callback is called too early exactly if the return that asked for it has not dropped its
reference. -/
theorem endedOnce_commandHandler_iff {s : ImageCapture} (h : WellFormed s) (he : EndedOnce s) :
    EndedOnce s.commandHandler ↔ s.Careful .commandHandler := by
  have honce := h.commandHandler.once
  simp only [commandHandler, if_pos h.registered] at honce ⊢
  split_ifs with hempty
  · exact iff_of_true he fun hpos => absurd hempty hpos.ne'
  · have hpos := Nat.pos_of_ne_zero hempty
    obtain ⟨hcounted, heq⟩ := h.ended (Nat.add_pos_right _ hpos)
    rw [if_neg hempty] at honce
    constructor
    · intro hended _
      have hover : s.references = 0 := (hended.notEarly (Nat.succ_pos _)).2
      omega
    · intro hcareful
      have hzero := hcareful hpos
      exact ⟨fun _ => ⟨hcounted, heq.trans hzero⟩, honce,
        fun _ _ => Nat.add_pos_left (Nat.succ_pos _) _⟩

/-- Steps keep the end of the capture exactly if they are careful.

**Proof sketch.** While a frame is expected nobody asks for the end. When the last frame is counted
and every return has left `onReturnFrame`, nobody will ask for it any more; otherwise the last
return asks for it, and the callback is called too early exactly if the command handler gets to the
message before that return drops its reference. -/
theorem endedOnce_step_iff {s : ImageCapture} (h : WellFormed s) (he : EndedOnce s) (a : Action) :
    EndedOnce (s.step a) ↔ s.Careful a := by
  cases a with
  | fillBufferDone frame captureActive =>
    exact iff_of_true (he.fillBufferDone frame captureActive) trivial
  | sendCallBacks => exact endedOnce_sendCallBacks_iff h he
  | returnFrame r => exact iff_of_true (he.returnFrame h r) trivial
  | dropReference => exact iff_of_true (he.dropReference h) trivial
  | commandHandler => exact endedOnce_commandHandler_iff h he

/-- **The end of a capture is signalled exactly once exactly if all steps are careful.** In a run
from before the first frame, the callback is called once when every expected frame was sent and
every reference dropped, and not before, if and only if a frame is expected at all; whenever the
last expected frame is counted, some reference on a captured frame is out whose return has not left
`onReturnFrame`; and whenever the command handler gets to the message of the end, the return that
put it has dropped its reference. -/
theorem always_endedOnce_iff {s : ImageCapture} (h : Ready s) (run : List Action) :
    StepRun.Always step EndedOnce s run ↔
      0 < s.mCapturedFrames ∧ StepRun.Along step Careful s run := by
  have hin : s.inReturn = 0 := inReturn_of_none h.returning
  have hstart : EndedOnce s ↔ 0 < s.mCapturedFrames := by
    constructor
    · intro he
      refine Nat.pos_of_ne_zero fun hzero => ?_
      have hasked := he.notNever hzero (h.references.trans hin.symm)
      rw [h.signals, h.messages] at hasked
      exact absurd hasked (by decide)
    · intro hpos
      exact ⟨fun hcalled => absurd h.signals hcalled.ne', h.wellFormed.once,
        fun hcounted => absurd hcounted hpos.ne'⟩
  have hiff : EndedOnce s →
      (StepRun.Always step EndedOnce s run ↔ StepRun.Along step Careful s run) := fun he =>
    StepRun.always_iff_along (J := WellFormed) (fun _ a hs => hs.step a)
      (fun _ a hs he => endedOnce_step_iff hs he a) h.wellFormed he
  constructor
  · intro halways
    exact ⟨hstart.mp halways.head, (hiff halways.head).mp halways⟩
  · rintro ⟨hpos, hcareful⟩
    exact (hiff (hstart.mpr hpos)).mpr hcareful

/-- One expected frame, and one subscriber of each of its types. -/
def oneFrame : ImageCapture where
  hub :=
    { mSubscribers := fun t =>
        if captured t then KeyedVector.add ∅ 100 200 else ∅
      mStreams := fun s =>
        if s = .IMAGE_STREAM_TYPE then KeyedVector.add ∅ 16 CameraStreamBuffer.fresh else ∅ }
  mCapturedFrames := 1
  stage := .idle
  returning := none
  mCommandMsgQ := 0
  mEndImageCaptureCallback := 300
  signals := 0

/-- It is before its first frame. -/
lemma ready_oneFrame : Ready oneFrame := ⟨rfl, rfl, by decide +kernel, by decide, rfl, rfl⟩

/-- The captured frame is sent. -/
def sendRun : List Action :=
  [.fillBufferDone (cameraFrame 16 .IMAGE_STREAM_TYPE) true, .sendCallBacks, .sendCallBacks]

/-- The return of its first reference, and the second up to the end of `onReturnFrame`. -/
def returnRun : List Action :=
  [.returnFrame ⟨16, .RAW_FRAME_SYNC, some .IMAGE_STREAM_TYPE⟩, .dropReference,
    .returnFrame ⟨16, .IMAGE_FRAME_SYNC, some .IMAGE_STREAM_TYPE⟩]

/-- The frame is counted before it is returned, and the command handler gets to its message after
the last reference is dropped. -/
theorem always_endedOnce_oneFrame :
    StepRun.Always step EndedOnce oneFrame
      (sendRun ++ .sendCallBacks :: returnRun ++ [.dropReference, .commandHandler]) :=
  (always_endedOnce_iff ready_oneFrame _).mpr ⟨by decide, by decide +kernel⟩

/-- If the consumer is faster than the count of the last frame the end is never signalled; if the
command handler is faster than the last drop it is signalled while a reference is out. -/
theorem not_always_endedOnce_fastConsumer :
    Ready oneFrame ∧
      ¬ StepRun.Always step EndedOnce oneFrame
        (sendRun ++ returnRun ++ [.dropReference, .sendCallBacks]) ∧
      ¬ StepRun.Always step EndedOnce oneFrame
        (sendRun ++ .sendCallBacks :: returnRun ++ [.commandHandler]) := by
  refine ⟨ready_oneFrame, fun hnever => ?_, fun hearly => ?_⟩
  · have hasked := hnever.last.notNever (by decide +kernel) (by decide +kernel)
    exact absurd hasked (by decide +kernel)
  · have hover := hearly.last.notEarly (by decide +kernel)
    exact absurd hover (by decide +kernel)

end ImageCapture

end CameraHal
