import Gs702aHal.Camera.CallbackNotifier
import Gs702aHal.Lib.Rendezvous

set_option relaxedAutoImplicit false
set_option autoImplicit false

/-!
# The resize thread and the JPEG thread

The functions that start and stop the preview, the capture and the recording ask both threads of the
notifier to flush their queues: under `mResizeThreadLock` and `mJpegThreadLock` they post a message
and wait on `mResizeThreadSem` and `mJpegThreadSem`. The threads take a message or a frame in each
pass, and copy a frame outside of all locks. Everything interleaves: any number of callers, the two
threads, the notification thread, and the frames that the camera delivers. `mRecordingLock`, which
`startRecording` and `stopRecording` hold from their beginning to their end, is not modelled; they
take it before the other locks, and nothing else takes it.

## Main definitions

* `CameraHal.Workshop` — the notifier, and the frame that each thread works on.
* `CameraHal.Workshop.service` — the two threads as servers.
* `CameraHal.stopPreviewItems` and the like — what the functions of the notifier do.
* `CameraHal.Workshop.Rests` — a thread neither works on frames of a kind nor will take one.

## Main results

* `CameraHal.Workshop.flushes_once` — each flush that a function asks for takes effect once, in
  order, before the function returns.
* `CameraHal.Workshop.flushes_goOn` — no function waits for ever.
* `CameraHal.Workshop.rests_of_returned` — after a function that stops has returned, the threads
  leave the frames alone until a function starts again.
-/

namespace CameraHal

open AppCallbackNotifier

/-- The threads that work on frames. -/
inductive Worker
  | mResizeThread
  | mJpegThread
  deriving DecidableEq, Repr

/-- The flags of a thread. -/
inductive ValidFlag
  | mPreviewValid
  | mPictureValid
  | mVideoValid
  deriving DecidableEq, Repr

namespace ValidFlag

/-- The bit of a flush that sets a flag. -/
def start : ValidFlag → BitVec 32
  | mPreviewValid => PREVIEW_START_FLUSH
  | mPictureValid => CAPTURE_START_FLUSH
  | mVideoValid => VIDEO_START_FLUSH

/-- The bit of a flush that resets a flag. -/
def stop : ValidFlag → BitVec 32
  | mPreviewValid => PREVIEW_STOP_FLUSH
  | mPictureValid => CAPTURE_STOP_FLUSH
  | mVideoValid => VIDEO_STOP_FLUSH

end ValidFlag

/-- A flag of a thread. -/
def ThreadFlags.flag (flags : ThreadFlags) : ValidFlag → Bool
  | .mPreviewValid => flags.mPreviewValid
  | .mPictureValid => flags.mPictureValid
  | .mVideoValid => flags.mVideoValid

/-- The flag that a thread looks at before it works on a frame: `resizeFrame` chooses it by the type
of the frame, `jpegEncode` does not. -/
def Worker.gate : Worker → FrameType → ValidFlag
  | .mResizeThread, .PREVIEW_FRAME_SYNC => .mPreviewValid
  | .mResizeThread, .VIDEO_FRAME_SYNC => .mVideoValid
  | _, _ => .mPictureValid

/-- The notifier, and the copy that each thread works on, with its type. -/
structure Workshop where
  notifier : AppCallbackNotifier
  inHand : Worker → Option (ℕ × FrameType)

/-- What a thread does with frames: it takes one, or is done with the one it works on. `memory` is
the memory that there was to copy into. -/
inductive Work
  | takes
  | finishes (memory : Option ℕ)
  deriving DecidableEq, Repr

/-- A step of the notifier that neither thread takes. -/
def AppCallbackNotifier.Action.ofOthers : Action → Bool
  | .resizeFrame _ => false
  | .jpegEncode _ => false
  | .resizeFlush _ => false
  | .jpegFlush _ => false
  | _ => true

/-- The steps of the other threads. -/
abbrev OtherAction := { a : Action // a.ofOthers = true }

namespace Workshop

/-- The flags of a thread. -/
def flags (s : Workshop) : Worker → ThreadFlags
  | .mResizeThread => s.notifier.resizeThread
  | .mJpegThread => s.notifier.jpegThread

/-- The beginning of `resizeFrame`, and of `jpegEncode`, for the first copy of the queue `p`, when
`n` is the notifier without it. -/
def takeFrame (s : Workshop) (w : Worker) (p : ℕ) (n : AppCallbackNotifier) : Workshop :=
  if (s.flags w).flag (w.gate (n.typeOf p)) then
    ⟨n, Function.update s.inHand w (some (p, n.typeOf p))⟩
  else ⟨n.note [n.deleteEvent p], s.inHand⟩

/-- A thread that works on no frame takes one from its queue. -/
def takes (s : Workshop) (w : Worker) : Workshop :=
  match s.inHand w, w with
  | none, .mResizeThread =>
    match s.notifier.mResizeQ with
    | [] => s
    | p :: rest => s.takeFrame w p { s.notifier with mResizeQ := rest }
  | none, .mJpegThread =>
    match s.notifier.mJpegQ with
    | [] => s
    | p :: rest => s.takeFrame w p { s.notifier with mJpegQ := rest }
  | some _, _ => s

/-- `resizeRawFrame`, or `encodePictureFrame`, is done with the copy that the thread works on. -/
def finishes (s : Workshop) (w : Worker) (memory : Option ℕ) : Workshop :=
  match s.inHand w with
  | none => s
  | some (p, _) =>
    ⟨match w with
      | .mResizeThread => s.notifier.resizeRawFrame p memory
      | .mJpegThread => s.notifier.encodePictureFrame p memory.isSome,
      Function.update s.inHand w none⟩

/-- A thread processes the message that asks it for a flush. -/
def flush (w : Worker) (m : BitVec 32) (s : Workshop) : Workshop :=
  { s with notifier := match w with
    | .mResizeThread => s.notifier.resizeFlush m
    | .mJpegThread => s.notifier.jpegFlush m }

/-- What a thread does with frames. -/
def work (w : Worker) (b : Work) (s : Workshop) : Workshop :=
  match b with
  | .takes => s.takes w
  | .finishes memory => s.finishes w memory

/-- What another thread does. -/
def act (a : OtherAction) (s : Workshop) : Workshop := { s with notifier := s.notifier.step a.1 }

/-- The two threads as servers: a thread that works on a frame does not look at its messages. -/
def service : Rendezvous.Service Worker (BitVec 32) Work OtherAction Workshop :=
  ⟨flush, work, act, fun w s => (s.inHand w).isNone⟩

end Workshop

/-- What a function of the notifier does: a step of its own, or asking a thread for a flush. -/
abbrev NotifierItem := Rendezvous.Item Worker (BitVec 32) OtherAction

/-- What a function of the notifier does, as a step of the notifier. -/
def NotifierItem.action : NotifierItem → Action
  | .act a => a.1
  | .ask .mResizeThread m => .resizeFlush m
  | .ask .mJpegThread m => .jpegFlush m

/-- Asking both threads for the same flush, the resize thread first. -/
def flushBoth (m : BitVec 32) : List NotifierItem := [.ask .mResizeThread m, .ask .mJpegThread m]

/-- What `startPreviewCallbacks` does when nothing is previewed yet and its memory is allocated;
`msgTypeEnabled` tells whether preview frames are wanted. -/
def startPreviewItems (msgTypeEnabled : Bool) : List NotifierItem :=
  (if msgTypeEnabled then [.act ⟨.enableFrameNotification .PREVIEW_FRAME_SYNC, rfl⟩] else []) ++
    flushBoth PREVIEW_START_FLUSH

/-- What `stopPreviewCallbacks` does for a notifier that is previewing. -/
def stopPreviewItems : List NotifierItem :=
  .act ⟨.disableFrameNotification .PREVIEW_FRAME_SYNC, rfl⟩ ::
    flushBoth (PREVIEW_STOP_FLUSH ||| CAPTURE_STOP_FLUSH ||| VIDEO_STOP_FLUSH) ++
    [.act ⟨.flushFrames, rfl⟩]

/-- What `startImageCallbacks` does. -/
def startImageItems : List NotifierItem := flushBoth CAPTURE_START_FLUSH

/-- What `stopImageCallbacks` and `waitforImageBufs` do. -/
def stopImageItems : List NotifierItem := flushBoth CAPTURE_STOP_FLUSH

/-- What `startRecording` does for a notifier that is not recording. -/
def startRecordingItems : List NotifierItem :=
  .act ⟨.enableFrameNotification .VIDEO_FRAME_SYNC, rfl⟩ ::
    flushBoth VIDEO_START_FLUSH ++ [.act ⟨.setRecording true, rfl⟩]

/-- What `stopRecording` does for a notifier that is recording. -/
def stopRecordingItems : List NotifierItem :=
  [.act ⟨.disableFrameNotification .VIDEO_FRAME_SYNC, rfl⟩, .act ⟨.setRecording false, rfl⟩] ++
    flushBoth VIDEO_STOP_FLUSH

/-- `stopPreviewCallbacks` asks both threads to reset each flag, -/
lemma stopPreviewItems_stops (w : Worker) (g : ValidFlag) :
    ∃ m, .ask w m ∈ stopPreviewItems ∧ m &&& g.stop ≠ 0 := by
  refine ⟨PREVIEW_STOP_FLUSH ||| CAPTURE_STOP_FLUSH ||| VIDEO_STOP_FLUSH, ?_, ?_⟩
  · cases w <;> simp [stopPreviewItems, flushBoth]
  · cases g <;> decide

/-- `stopImageCallbacks` and `waitforImageBufs` that for pictures, -/
lemma stopImageItems_stops (w : Worker) :
    ∃ m, .ask w m ∈ stopImageItems ∧ m &&& ValidFlag.mPictureValid.stop ≠ 0 := by
  refine ⟨CAPTURE_STOP_FLUSH, ?_, by decide⟩
  cases w <;> simp [stopImageItems, flushBoth]

/-- and `stopRecording` that for recording frames. -/
lemma stopRecordingItems_stops (w : Worker) :
    ∃ m, .ask w m ∈ stopRecordingItems ∧ m &&& ValidFlag.mVideoValid.stop ≠ 0 := by
  refine ⟨VIDEO_STOP_FLUSH, ?_, by decide⟩
  cases w <;> simp [stopRecordingItems, flushBoth]

/-- `stopPreviewCallbacks` does the steps that the notifier knows it by, -/
lemma map_action_stopPreviewItems :
    stopPreviewItems.map NotifierItem.action = stopPreviewCallbacks := rfl

/-- and so do `startRecording` -/
lemma map_action_startRecordingItems {s : AppCallbackNotifier} (hs : s.mRecording = false) :
    startRecordingItems.map NotifierItem.action = s.startRecording := by
  rw [startRecording, hs]
  rfl

/-- and `stopRecording`. -/
lemma map_action_stopRecordingItems {s : AppCallbackNotifier} (hs : s.mRecording = true) :
    stopRecordingItems.map NotifierItem.action = s.stopRecording := by
  rw [stopRecording, hs]
  rfl

namespace Workshop

/-- An item that is done is a step of the notifier. -/
lemma notifier_apply_item (s : Workshop) (i : ℕ) (y : NotifierItem) :
    (service.apply s (.item i y)).notifier = s.notifier.step y.action := by
  cases y with
  | act a => rfl
  | ask w m => cases w <;> rfl

/-- The resize thread looks at the flags that `resizeFrame` looks at. -/
lemma flag_gate_resize (flags : ThreadFlags) (t : FrameType) :
    flags.flag (Worker.gate .mResizeThread t) = valid flags t := by
  cases t <;> rfl

/-- A frame that the resize thread takes and is done with at once is resized in one step, -/
lemma notifier_resize (s : Workshop) (hs : s.inHand .mResizeThread = none) (memory : Option ℕ) :
    ((s.takes .mResizeThread).finishes .mResizeThread memory).notifier =
      s.notifier.resizeFrame memory := by
  have hidle : ∀ {n : AppCallbackNotifier},
      (finishes ⟨n, s.inHand⟩ .mResizeThread memory).notifier = n := by
    intro n
    simp only [finishes, hs]
  cases hq : s.notifier.mResizeQ with
  | nil =>
    simp only [takes, hs, hq, resizeFrame]
    exact hidle
  | cons p rest =>
    rw [resizeFrame_of_cons hq]
    simp only [takes, hs, hq, takeFrame, flag_gate_resize, flags]
    by_cases hvalid : valid s.notifier.resizeThread (s.notifier.typeOf p) = true
    · have htype : valid s.notifier.resizeThread
          (typeOf { s.notifier with mResizeQ := rest } p) = true := hvalid
      simp only [htype, hvalid, if_true, finishes, Function.update_self]
    · have htype : ¬ valid s.notifier.resizeThread
          (typeOf { s.notifier with mResizeQ := rest } p) = true := hvalid
      simp only [htype, hvalid]
      exact hidle

/-- and so is one that the JPEG thread encodes. -/
lemma notifier_encode (s : Workshop) (hs : s.inHand .mJpegThread = none) (memory : Option ℕ) :
    ((s.takes .mJpegThread).finishes .mJpegThread memory).notifier =
      s.notifier.jpegEncode memory.isSome := by
  have hidle : ∀ {n : AppCallbackNotifier},
      (finishes ⟨n, s.inHand⟩ .mJpegThread memory).notifier = n := by
    intro n
    simp only [finishes, hs]
  cases hq : s.notifier.mJpegQ with
  | nil =>
    simp only [takes, hs, hq, jpegEncode]
    exact hidle
  | cons p rest =>
    simp only [takes, hs, hq, takeFrame, flags, jpegEncode, Worker.gate, ThreadFlags.flag]
    by_cases hvalid : s.notifier.jpegThread.mPictureValid = true
    · simp only [hvalid, if_true, finishes, Function.update_self]
    · simp only [hvalid]
      exact hidle

/-! ### Each flush takes effect once -/

/-- The operations of all threads. -/
abbrev Move := Rendezvous.Move Worker (BitVec 32) Work OtherAction

/-- The threads at work. -/
abbrev Floor := Rendezvous.Hall Worker (BitVec 32) Work OtherAction Workshop

/-- The threads of a notifier that nobody has called. -/
def opened (s : AppCallbackNotifier) : Floor := Rendezvous.start ⟨s, fun _ => none⟩

/-- The threads of a notifier after a run. -/
def after (s : AppCallbackNotifier) (run : List Move) : Floor :=
  StepRun.final (Rendezvous.step service) (opened s) run

/-- A thread that does not take a frame keeps what it has in its hand. -/
lemma inHand_apply (s : Workshop) (d : Rendezvous.Deed Worker (BitVec 32) Work OtherAction)
    (w : Worker) (hd : ∀ b, d ≠ .work w b) : (service.apply s d).inHand w = s.inHand w := by
  cases d with
  | item i y => cases y <;> rfl
  | other c => rfl
  | work w' b =>
    have hne : w ≠ w' := by
      rintro rfl
      exact hd b rfl
    cases b with
    | takes =>
      simp only [Rendezvous.Service.apply, service, work, takes, takeFrame]
      split
      · split
        · rfl
        · split_ifs
          · exact Function.update_of_ne hne ..
          · rfl
      · split
        · rfl
        · split_ifs
          · exact Function.update_of_ne hne ..
          · rfl
      · rfl
    | finishes memory =>
      simp only [Rendezvous.Service.apply, service, work, finishes]
      split
      · rfl
      · exact Function.update_of_ne hne ..

/-- Whether a thread looks at its messages depends on its own work only. -/
lemma local_service : service.Local := fun s d w hd => by
  have hhand := inHand_apply s d w hd
  simp only [service] at hhand ⊢
  rw [hhand]

/-- The requests are in order in every run. -/
lemma orderly_after (s : AppCallbackNotifier) (run : List Move) :
    Rendezvous.Orderly (after s run) :=
  Rendezvous.orderly_final service (Rendezvous.orderly_start _) run

/-- A thread that has taken a message works on no frame. -/
lemma attentive_after (s : AppCallbackNotifier) (run : List Move) :
    Rendezvous.Attentive service (after s run) :=
  Rendezvous.attentive_final (Rendezvous.orderly_start _) (Rendezvous.attentive_start _)
    local_service run

/-- **Each flush takes effect once, in order, before the function that asks for it returns**,
however the threads interleave: what a caller has had done when it has returned is what it was
called for, and the notifier is in the state that comes from the deeds in the log, one after the
other. No thread flushes while it works on a frame.

**Proof sketch.** At each time the request of the holder of a lock is in one place only: not posted
yet, in the queue, in the thread's hand, or done. -/
theorem flushes_once (s : AppCallbackNotifier) (run : List Move) :
    (∀ i, ((after s run).caller i).todo = [] →
        (after s run).done i = (after s run).called i) ∧
      (after s run).served = StepRun.final service.apply ⟨s, fun _ => none⟩ (after s run).log ∧
      StepRun.Along service.apply (fun t d => d.Timely service t) ⟨s, fun _ => none⟩
        (after s run).log := by
  refine ⟨fun i hi => (orderly_after s run).done_of_returned hi, ?_⟩
  obtain ⟨deeds, hlog, hserved, halong⟩ := Rendezvous.served_final (v := service)
    (Rendezvous.orderly_start (⟨s, fun _ => none⟩ : Workshop)) (Rendezvous.attentive_start _)
    local_service run
  have hdeeds : (after s run).log = deeds := hlog
  rw [hdeeds]
  exact ⟨hserved, halong⟩

/-- **No function waits for ever**: as long as a caller has not returned, a caller or a thread with
a message can go on, or a thread is still working on a frame. -/
theorem flushes_goOn (s : AppCallbackNotifier) (run : List Move) {i : ℕ}
    (hi : ((after s run).caller i).todo ≠ []) :
    Rendezvous.CanGoOn service (after s run) ∨
      ∃ w, (after s run).served.inHand w ≠ none := by
  by_cases hfree : ∀ w, (after s run).served.inHand w = none
  · exact .inl (Rendezvous.exists_move (orderly_after s run)
      (fun w => Option.isNone_iff_eq_none.mpr (hfree w)) hi)
  · exact .inr (not_forall.mp hfree)

/-- The resize thread has taken a preview frame when `stopImageCallbacks` posts its message and
waits, and `stopPreviewCallbacks` waits for the lock. -/
def busyRun : List Move :=
  [.other ⟨.frameCallback { recordingFrame with mFrameType := .PREVIEW_FRAME_SYNC }, rfl⟩,
    .work .mResizeThread .takes, .call 0 stopImageItems, .advance 0, .advance 0,
    .call 1 stopPreviewItems, .advance 1, .advance 1]

/-- While both wait, the thread is at work. -/
theorem flushes_goOn_busyRun :
    ((after (create recordingSettings ⟨true, true, true⟩ ⟨true, true, true⟩)
        busyRun).caller 0).point = .waiting ∧
      ((after (create recordingSettings ⟨true, true, true⟩ ⟨true, true, true⟩)
        busyRun).desk .mResizeThread).queue ≠ [] ∧
      (Rendezvous.CanGoOn service
          (after (create recordingSettings ⟨true, true, true⟩ ⟨true, true, true⟩) busyRun) ∨
        ∃ w, (after (create recordingSettings ⟨true, true, true⟩ ⟨true, true, true⟩)
          busyRun).served.inHand w ≠ none) :=
  ⟨by decide, by decide, flushes_goOn _ busyRun (i := 0) (by decide)⟩

/-! ### What rests after a function has returned -/

/-- A thread works on no frame of a kind, and will take none. -/
structure Rests (w : Worker) (g : ValidFlag) (s : Workshop) : Prop where
  flag : (s.flags w).flag g = false
  inHand : ∀ p t, s.inHand w = some (p, t) → w.gate t ≠ g

/-- A deed lets a thread work on frames of a kind. -/
def Starts (w : Worker) (g : ValidFlag) : Rendezvous.Deed Worker (BitVec 32) Work OtherAction → Prop
  | .item _ (.ask w' m) => w' = w ∧ m &&& g.start ≠ 0 ∧ m &&& g.stop = 0
  | _ => False

instance (w : Worker) (g : ValidFlag) : DecidablePred (Starts w g)
  | .item _ (.ask w' m) =>
    inferInstanceAs (Decidable (w' = w ∧ m &&& g.start ≠ 0 ∧ m &&& g.stop = 0))
  | .item _ (.act _) => .isFalse id
  | .work _ _ => .isFalse id
  | .other _ => .isFalse id

/-- The flags after a flush, one by one. -/
lemma flag_flagsAfter (m : BitVec 32) (flags : ThreadFlags) (g : ValidFlag) :
    (flagsAfter m flags).flag g = flagAfter m g.start g.stop (flags.flag g) := by
  cases g <;> rfl

/-- Flushing the resize queue changes the flags of the resize thread only. -/
lemma threads_resizeFlush (n : AppCallbackNotifier) (m : BitVec 32) :
    (n.resizeFlush m).resizeThread = flagsAfter m n.resizeThread ∧
      (n.resizeFlush m).jpegThread = n.jpegThread := by
  unfold AppCallbackNotifier.resizeFlush
  simp only
  split_ifs <;> exact ⟨rfl, rfl⟩

/-- Flushing the JPEG queue changes the flags of the JPEG thread only. -/
lemma threads_jpegFlush (n : AppCallbackNotifier) (m : BitVec 32) :
    (n.jpegFlush m).jpegThread = flagsAfter m n.jpegThread ∧
      (n.jpegFlush m).resizeThread = n.resizeThread := by
  unfold AppCallbackNotifier.jpegFlush
  simp only
  split_ifs <;> exact ⟨rfl, rfl⟩

/-- The flags after a thread has flushed its queue. -/
lemma flags_flush (s : Workshop) (w w' : Worker) (m : BitVec 32) :
    (flush w' m s).flags w = if w' = w then flagsAfter m (s.flags w) else s.flags w := by
  cases w <;> cases w'
  · exact (threads_resizeFlush s.notifier m).1
  · exact (threads_jpegFlush s.notifier m).2
  · exact (threads_resizeFlush s.notifier m).2
  · exact (threads_jpegFlush s.notifier m).1

/-- The other threads leave the flags alone. -/
lemma threads_step (n : AppCallbackNotifier) (a : OtherAction) :
    (n.step a.1).resizeThread = n.resizeThread ∧ (n.step a.1).jpegThread = n.jpegThread := by
  obtain ⟨a, ha⟩ := a
  cases a with
  | frameCallback f =>
    have hdispatched := dispatched_dispatch (n.copyFrame f) n.heap.length f
    simp only [step, frameCallback]
    generalize (n.copyFrame f).dispatch n.heap.length f = n' at hdispatched
    cases hdispatched <;> exact ⟨rfl, rfl⟩
  | notifyFrame metadata =>
    simp only [step, notifyFrame]
    split <;> exact ⟨rfl, rfl⟩
  | resizeFrame => exact absurd ha Bool.false_ne_true
  | jpegEncode => exact absurd ha Bool.false_ne_true
  | resizeFlush => exact absurd ha Bool.false_ne_true
  | jpegFlush => exact absurd ha Bool.false_ne_true
  | flushFrames => exact ⟨rfl, rfl⟩
  | enableFrameNotification => exact ⟨rfl, rfl⟩
  | disableFrameNotification => exact ⟨rfl, rfl⟩
  | setRecording => exact ⟨rfl, rfl⟩
  | releaseRecordingFrame => exact ⟨rfl, rfl⟩
  | setSettings => exact ⟨rfl, rfl⟩

/-- The flags after something that is no flush. -/
lemma flags_act (s : Workshop) (w : Worker) (a : OtherAction) : (act a s).flags w = s.flags w := by
  obtain ⟨hresize, hjpeg⟩ := threads_step s.notifier a
  cases w
  · exact hresize
  · exact hjpeg

/-- A thread takes a frame whose flag is set. -/
lemma takeFrame_spec (s : Workshop) (w : Worker) (p : ℕ) {n : AppCallbackNotifier}
    (hn : n.resizeThread = s.notifier.resizeThread ∧ n.jpegThread = s.notifier.jpegThread) :
    (s.takeFrame w p n).flags = s.flags ∧
      ((s.takeFrame w p n).inHand = s.inHand ∨
        (s.takeFrame w p n).inHand = Function.update s.inHand w (some (p, n.typeOf p)) ∧
          (s.flags w).flag (w.gate (n.typeOf p)) = true) := by
  have hflags : ∀ {s' : Workshop}, s'.notifier.resizeThread = n.resizeThread →
      s'.notifier.jpegThread = n.jpegThread → s'.flags = s.flags := by
    intro s' hresize hjpeg
    funext w
    cases w
    · exact hresize.trans hn.1
    · exact hjpeg.trans hn.2
  unfold takeFrame
  by_cases hgate : (s.flags w).flag (w.gate (n.typeOf p)) = true
  · rw [if_pos hgate]
    exact ⟨hflags rfl rfl, .inr ⟨rfl, hgate⟩⟩
  · rw [if_neg hgate]
    exact ⟨hflags rfl rfl, .inl rfl⟩

/-- What a thread does with frames keeps its flags; what it takes has its flag set. -/
lemma work_spec (s : Workshop) (w : Worker) (b : Work) :
    (work w b s).flags = s.flags ∧
      ∀ p t, (work w b s).inHand w = some (p, t) →
        s.inHand w = some (p, t) ∨ (s.flags w).flag (w.gate t) = true := by
  have hsame : ∀ p t, s.inHand w = some (p, t) →
      s.inHand w = some (p, t) ∨ (s.flags w).flag (w.gate t) = true := fun _ _ h => .inl h
  have htake : ∀ {q : ℕ} {n : AppCallbackNotifier},
      n.resizeThread = s.notifier.resizeThread → n.jpegThread = s.notifier.jpegThread →
      (s.takeFrame w q n).flags = s.flags ∧ ∀ p t, (s.takeFrame w q n).inHand w = some (p, t) →
        s.inHand w = some (p, t) ∨ (s.flags w).flag (w.gate t) = true := by
    intro q n hresize hjpeg
    obtain ⟨hflags, hinHand⟩ := takeFrame_spec s w q ⟨hresize, hjpeg⟩
    refine ⟨hflags, fun p t hp => ?_⟩
    rcases hinHand with hinHand | ⟨hinHand, hgate⟩
    · rw [hinHand] at hp
      exact .inl hp
    · rw [hinHand, Function.update_self] at hp
      obtain ⟨rfl, rfl⟩ := Prod.mk.inj (Option.some_inj.mp hp)
      exact .inr hgate
  cases b with
  | takes =>
    simp only [work, takes]
    split
    · split
      · exact ⟨rfl, hsame⟩
      · exact htake rfl rfl
    · split
      · exact ⟨rfl, hsame⟩
      · exact htake rfl rfl
    · exact ⟨rfl, hsame⟩
  | finishes memory =>
    simp only [work, finishes]
    split
    · exact ⟨rfl, hsame⟩
    · refine ⟨?_, fun p t hp => ?_⟩
      · funext w'
        cases w <;> cases w' <;> rfl
      · simp only [Function.update_self] at hp
        cases hp

variable {w : Worker} {g : ValidFlag} {s : Workshop}

/-- A flush with the bit that resets a flag, by a thread that works on no frame, lets it rest. -/
lemma rests_flush (hfree : s.inHand w = none) {m : BitVec 32} (hstop : m &&& g.stop ≠ 0) :
    Rests w g (flush w m s) := by
  constructor
  · rw [flags_flush, if_pos rfl, flag_flagsAfter, flagAfter, if_pos hstop]
  · intro p t hp
    have hnone : s.inHand w = some (p, t) := hp
    rw [hfree] at hnone
    cases hnone

/-- What does not start a thread lets it rest. -/
lemma Rests.apply (h : Rests w g s) (d : Rendezvous.Deed Worker (BitVec 32) Work OtherAction)
    (hd : ¬ Starts w g d) : Rests w g (service.apply s d) := by
  cases d with
  | item i y =>
    cases y with
    | act a =>
      exact ⟨by rw [← h.flag]; exact congrArg (·.flag g) (flags_act s w a), h.inHand⟩
    | ask w' m =>
      refine ⟨?_, h.inHand⟩
      have hflags := flags_flush s w w' m
      by_cases hw : w' = w
      · rw [if_pos hw] at hflags
        have hflag : ((service.apply s (.item i (.ask w' m))).flags w).flag g =
            flagAfter m g.start g.stop ((s.flags w).flag g) := by
          rw [← flag_flagsAfter]
          exact congrArg (·.flag g) hflags
        rw [hflag, h.flag, flagAfter]
        split_ifs with hstop hstart
        · rfl
        · exact absurd ⟨hw, hstart, not_not.mp hstop⟩ hd
        · rfl
      · rw [if_neg hw] at hflags
        rw [← h.flag]
        exact congrArg (·.flag g) hflags
  | other a => exact ⟨by rw [← h.flag]; exact congrArg (·.flag g) (flags_act s w a), h.inHand⟩
  | work w' b =>
    obtain ⟨hflags, htakes⟩ := work_spec s w' b
    refine ⟨?_, fun p t hp => ?_⟩
    · rw [← h.flag]
      exact congrArg (fun flags : Worker → ThreadFlags => (flags w).flag g) hflags
    · by_cases hw : w' = w
      · subst hw
        rcases htakes p t hp with hsame | hgate
        · exact h.inHand p t hsame
        · rintro rfl
          rw [h.flag] at hgate
          cases hgate
      · have hhand := inHand_apply s (.work w' b) w fun b' hb => hw (by injection hb)
        rw [hhand] at hp
        exact h.inHand p t hp

/-- **After a function that stops has returned, the threads rest**: if a caller has returned from a
call that asks a thread to reset a flag, then from its return on the thread works on no frame of
this kind, and takes none, as long as no function is called that sets the flag again and none was
under way at the call. This holds for every interleaving with any number of other callers, with the
two threads, and with the frames that are delivered meanwhile.

**Proof sketch.** The thread works on no frame when it processes the message, and the flag is reset.
Only a message with the other bit sets it, and the thread looks at the flag before it takes a
frame. -/
theorem rests_of_returned (n : AppCallbackNotifier) (before : List Move) {i : ℕ}
    {items : List NotifierItem} {m : BitVec 32} (hitem : .ask w m ∈ items)
    (hstop : m &&& g.stop ≠ 0) (hi : ((after n before).caller i).todo = [])
    (hpending : (after n before).Pending fun d => ¬ Starts w g d) {run run' : List Move}
    (hcalls : ∀ mv ∈ .call i items :: run ++ run', mv.Allows fun d => ¬ Starts w g d)
    (hreturned : ((after n (before ++ .call i items :: run)).caller i).todo = []) :
    Rests w g (after n (before ++ (.call i items :: run ++ run'))).served := by
  rw [after, StepRun.final_append] at hreturned ⊢
  refine Rendezvous.holds_of_returned (v := service) (Q := fun d => ¬ Starts w g d)
    (P := Rests w g) (fun s hs => ?_) (fun s d hd _ hs => hs.apply d hd) (orderly_after n before)
    (attentive_after n before) local_service hpending hitem hi hcalls hreturned
  exact rests_flush (Option.isNone_iff_eq_none.mp hs) hstop

/-- A caller posts a message to a thread, -/
def posts (i : ℕ) : List Move := [.advance i, .advance i]

/-- the thread processes it, and the caller goes on. -/
def answers (i : ℕ) (w : Worker) : List Move :=
  [.serve w, .serve w, .serve w, .advance i, .advance i]

/-- `stopPreviewCallbacks`, posting its message while the resize thread works on a preview frame. -/
def stoppingRun : List Move :=
  .other ⟨.frameCallback { recordingFrame with mFrameType := .PREVIEW_FRAME_SYNC }, rfl⟩ ::
    .work .mResizeThread .takes :: .advance 0 :: posts 0 ++ .serve .mResizeThread ::
    .work .mResizeThread (.finishes none) :: answers 0 .mResizeThread ++
    posts 0 ++ answers 0 .mJpegThread ++ [.advance 0]

/-- After `stopPreviewCallbacks` the resize thread leaves the preview frames alone. -/
theorem rests_of_returned_stopPreview :
    Rests .mResizeThread .mPreviewValid
      (after (create recordingSettings ⟨true, true, true⟩ ⟨true, true, true⟩)
        ([] ++ (.call 0 stopPreviewItems :: stoppingRun ++ []))).served :=
  rests_of_returned (create recordingSettings ⟨true, true, true⟩ ⟨true, true, true⟩) []
    (m := PREVIEW_STOP_FLUSH ||| CAPTURE_STOP_FLUSH ||| VIDEO_STOP_FLUSH)
    (List.mem_cons_of_mem _ List.mem_cons_self) (by decide) rfl
    (fun _ _ hz => absurd hz List.not_mem_nil) (by decide) rfl

end Workshop

end CameraHal
