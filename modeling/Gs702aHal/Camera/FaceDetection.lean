import Gs702aHal.Lib.Custody
import Gs702aHal.Lib.StepRun
import Gs702aHal.Camera.VceTeardown

set_option relaxedAutoImplicit false
set_option autoImplicit false

/-!
# Preview frames in face detection

A preview frame that is to be searched for faces is delivered to
`OMXCameraAdapter::FDFrameCallback`, which submits it to the detector; the detector's
`onEmptyBufferDone` returns it. The commands that start, stop and pause the detection run on other
threads and share `mFaceDetectionRunning` and `mFaceDetectionPaused` with the callback.

Starting and stopping the detector are given by the state that they leave it in, whatever their
steps return. Every test or change of a shared flag is a step of its own.

## Main definitions

* `CameraHal.FaceDetection`, `CameraHal.FaceDetection.control` — the flags and the commands.
* `CameraHal.FaceFrames`, `CameraHal.FaceFrames.step` — the way of the frames.
* `CameraHal.FaceFrames.Accounted` — every delivered frame is on its way or was returned once.
* `CameraHal.FaceFrames.Careful` — the condition on a step.

## Main results

* `CameraHal.FaceFrames.accounted_step_iff` — a step keeps the frames accounted for exactly if it
  is careful.
* `CameraHal.FaceFrames.always_framesReturned_iff` — the frames are accounted for throughout a run
  if and only if all its steps are careful.
-/

namespace CameraHal

open Status

/-! ### The commands -/

/-- The command that holds `mFaceDetectionLock`, and how far it has got. -/
inductive FaceCommand
  /-- No command holds it. -/
  | idle
  /-- `startFaceDetection` has started the detector, and perhaps enabled the notification. -/
  | starting (enabled : Bool)
  /-- `stopFaceDetection` has cleared the flag, and perhaps disabled the notification. -/
  | stopping (disabled : Bool)
  deriving DecidableEq, Repr

/-- The state that starting or stopping leaves the detector in. -/
structure DetectorState where
  mComponentState : OMX_STATETYPE
  /-- The headers of the input buffers, by buffer handle. -/
  mInputBufferMap : KeyedVector Ptr Ptr
  deriving DecidableEq

/-- The flags of face detection and the detector. -/
structure FaceDetection where
  /-- `MAX_FD_HW_FACES`, as a number. -/
  maxFaces : ℤ
  mFaceDetectionRunning : Bool
  mFaceDetectionPaused : Bool
  /-- `FDFrameCallback` is subscribed to `FD_FRAME_SYNC`. -/
  subscribed : Bool
  detector : DetectorState
  command : FaceCommand
  deriving DecidableEq

namespace FaceDetection

/-- The steps of the commands, and of the callbacks that change the detector's state. -/
inductive Control
  | startFaceDetection (started : DetectorState)
  | stopFaceDetection
  | pauseFaceDetection (pause : Bool)
  | proceed (stopped : DetectorState)
  | onEvent (state : OMX_STATETYPE)

/-- `startFaceDetection` up to the start of the detector. What its steps return is not used. -/
def startFaceDetection (d : FaceDetection) (started : DetectorState) : FaceDetection :=
  if d.command ≠ .idle then d  -- waits for `mFaceDetectionLock`
  else if d.mFaceDetectionRunning then d
  else if d.maxFaces = 0 then d
  else { d with detector := started, command := .starting false }

/-- `stopFaceDetection` up to the change of the flag. -/
def stopFaceDetection (d : FaceDetection) : FaceDetection :=
  if d.command ≠ .idle then d  -- waits for `mFaceDetectionLock`
  else if !d.mFaceDetectionRunning then d
  else { d with mFaceDetectionRunning := false, command := .stopping false }

/-- `pauseFaceDetection`. -/
def pauseFaceDetection (d : FaceDetection) (pause : Bool) : FaceDetection :=
  if d.command ≠ .idle then d  -- waits for `mFaceDetectionLock`
  else if d.mFaceDetectionRunning then { d with mFaceDetectionPaused := pause }
  else d

/-- The next step of the command that holds the lock. -/
def proceed (d : FaceDetection) (stopped : DetectorState) : FaceDetection :=
  match d.command with
  | .idle => d
  | .starting false => { d with subscribed := true, command := .starting true }
  | .starting true => { d with mFaceDetectionRunning := true, command := .idle }
  | .stopping false => { d with subscribed := false, command := .stopping true }
  | .stopping true => { d with detector := stopped, command := .idle }

/-- A callback of the component changes its state. -/
def onEvent (d : FaceDetection) (state : OMX_STATETYPE) : FaceDetection :=
  { d with detector := { d.detector with mComponentState := state } }

/-- One step of the commands. -/
def control (d : FaceDetection) : Control → FaceDetection
  | .startFaceDetection started => d.startFaceDetection started
  | .stopFaceDetection => d.stopFaceDetection
  | .pauseFaceDetection pause => d.pauseFaceDetection pause
  | .proceed stopped => d.proceed stopped
  | .onEvent state => d.onEvent state

/-- The test of the flags in the callbacks. -/
def active (d : FaceDetection) : Bool := d.mFaceDetectionRunning && !d.mFaceDetectionPaused

end FaceDetection

/-! ### The frames -/

/-- Where the frame is that the handler of filled buffers works on. Delivered frames are
numbered. -/
inductive FaceStage
  | idle
  /-- `FD_FRAME_SYNC` is in the frame's mask. -/
  | masked (buf : Ptr)
  /-- The frame is delivered, and `FDFrameCallback` has not tested the flags. -/
  | delivered (frame : ℕ) (buf : Ptr)
  /-- The flags allow the frame to be submitted. -/
  | tested (frame : ℕ) (buf : Ptr)
  deriving DecidableEq, Repr

/-- Face detection with its frames. -/
structure FaceFrames extends FaceDetection where
  /-- The detector was initialised for synchronous use. -/
  mSync : Bool
  stage : FaceStage
  /-- The number of frames delivered so far. -/
  count : ℕ
  /-- The frames that the detector has accepted and not given back. -/
  submitted : List ℕ
  /-- The frames that were returned with `FD_FRAME_SYNC`, the latest last. -/
  returned : List ℕ

namespace FaceFrames

/-- A step of the commands. -/
def control (s : FaceFrames) (c : FaceDetection.Control) : FaceFrames :=
  { s with toFaceDetection := s.toFaceDetection.control c }

/-- The handler of filled buffers chooses the mask of a preview frame. -/
def fillBufferDone (s : FaceFrames) (buf : Ptr) : FaceFrames :=
  match s.stage with
  | .idle => if s.active then { s with stage := .masked buf } else s
  | _ => s

/-- The handler is done with its frame. -/
def drop (s : FaceFrames) : FaceFrames := { s with stage := .idle }

/-- `sendFrame` delivers the frame if there is a subscriber. -/
def sendFrame (s : FaceFrames) : FaceFrames :=
  match s.stage with
  | .masked buf =>
    if s.subscribed then { s with stage := .delivered s.count buf, count := s.count + 1 }
    else s.drop
  | _ => s

/-- `FDFrameCallback` tests the flags. -/
def FDFrameCallback (s : FaceFrames) : FaceFrames :=
  match s.stage with
  | .delivered frame buf =>
    if s.active then { s with stage := .tested frame buf } else s.drop
  | _ => s

/-- A frame is with the detector. -/
def submit (s : FaceFrames) (frame : ℕ) : FaceFrames :=
  { s with stage := .idle, submitted := s.submitted ++ [frame] }

/-- `processImageAsync`, called by `detectFaces`, whose result `FDFrameCallback` does not use. -/
def processImageAsync (s : FaceFrames) (answer : OMX_ERRORTYPE) : FaceFrames :=
  match s.stage with
  | .tested frame buf =>
    if s.detector.mComponentState ≠ .OMX_StateExecuting then s.drop
    else if s.mSync then s.drop
    else match s.detector.mInputBufferMap.find? buf with
    | none => s  -- `valueFor` aborts the process
    | some pBufferHdr =>
      if pBufferHdr = NULL then s.drop
      else if answer = .OMX_ErrorNone then s.submit frame
      else s.drop
  | _ => s

/-- `onEmptyBufferDone` for an accepted frame. -/
def onEmptyBufferDone (s : FaceFrames) (frame : ℕ) : FaceFrames :=
  if frame ∈ s.submitted then
    { s with
      submitted := s.submitted.erase frame
      returned := if s.mSync then s.returned else s.returned ++ [frame] }
  else s

/-- The steps. -/
inductive Action
  | control (c : FaceDetection.Control)
  | fillBufferDone (buf : Ptr)
  | sendFrame
  | FDFrameCallback
  | processImageAsync (answer : OMX_ERRORTYPE)
  | onEmptyBufferDone (frame : ℕ)

/-- One step. -/
def step (s : FaceFrames) : Action → FaceFrames
  | .control c => s.control c
  | .fillBufferDone buf => s.fillBufferDone buf
  | .sendFrame => s.sendFrame
  | .FDFrameCallback => s.FDFrameCallback
  | .processImageAsync answer => s.processImageAsync answer
  | .onEmptyBufferDone frame => s.onEmptyBufferDone frame

/-- The frame that the callback works on. -/
def current (s : FaceFrames) : List ℕ :=
  match s.stage with
  | .delivered frame _ | .tested frame _ => [frame]
  | _ => []

/-- The delivered frames: those in the callback and with the detector have not been returned. -/
def custody (s : FaceFrames) : Custody ℕ := ⟨s.count, s.current ++ s.submitted, s.returned⟩

/-- The entries about a frame. -/
def about (p r : ℕ) : Bool := r == p

/-- A frame was returned exactly once. -/
def ReturnedOnce (p : ℕ) (entries : List ℕ) : Prop := entries = [p]

/-- Every delivered frame is in the callback, or with the detector, or was returned once. -/
def Accounted (s : FaceFrames) : Prop := s.custody.Accounted about ReturnedOnce

/-- The condition on a step: the flags still allow the detection when the callback tests them, and
a frame that is submitted finds the detector Executing, with a header, and is accepted. -/
def Careful (s : FaceFrames) : Action → Prop
  | .FDFrameCallback => ∀ frame buf, s.stage = .delivered frame buf → s.active
  | .processImageAsync answer => ∀ frame buf, s.stage = .tested frame buf →
    s.detector.mComponentState = .OMX_StateExecuting ∧
      ∀ pBufferHdr, s.detector.mInputBufferMap.find? buf = some pBufferHdr →
        pBufferHdr ≠ NULL ∧ answer = .OMX_ErrorNone
  | _ => True

/-- Face detection before the first frame is delivered. -/
structure Ready (s : FaceFrames) : Prop where
  async : s.mSync = false
  stage : s.stage = .idle
  count : s.count = 0
  submitted : s.submitted = []
  returned : s.returned = []

/-! ### What steps do to the frames -/

/-- The invariant of all runs. -/
structure WellFormed (s : FaceFrames) : Prop where
  async : s.mSync = false
  tracked : s.custody.Tracked about

/-- Before the first frame everything is in order. -/
lemma Ready.wellFormed {s : FaceFrames} (h : Ready s) : WellFormed s := by
  have hcurrent : s.current = [] := by rw [current, h.stage]
  exact
    { async := h.async
      tracked :=
        { nodup := by simp [custody, hcurrent, h.submitted]
          held_lt := by simp [custody, hcurrent, h.submitted]
          silent := by simp [custody, h.returned] } }

/-- Before the first frame there is nothing to account for. -/
lemma Ready.accounted {s : FaceFrames} (h : Ready s) : Accounted s := by
  intro p hp
  exact absurd (h.count ▸ hp) (Nat.not_lt_zero p)

/-- What a step of the frames does: it takes in and lets out delivered frames, and keeps the
detector's mode. -/
structure Moves (s s' : FaceFrames) (new : ℕ) (out events : List ℕ) : Prop where
  mSync : s'.mSync = s.mSync
  custody : Custody.Moves about s.custody s'.custody new out events

namespace Moves

variable {s s' : FaceFrames} {new : ℕ} {out events : List ℕ}

/-- The invariant is kept. -/
lemma wellFormed (hm : Moves s s' new out events) (h : WellFormed s) : WellFormed s' :=
  ⟨hm.mSync.trans h.async, hm.custody.tracked h.tracked⟩

/-- A step that lets nothing out keeps the frames accounted for. -/
lemma accounted_of_nil (hm : Moves s s' new [] events) (h : WellFormed s) (ha : Accounted s) :
    Accounted s' :=
  (hm.custody.accounted_iff h.tracked (fun _ _ _ => Iff.rfl) ha).mpr fun _ hp =>
    absurd hp List.not_mem_nil

/-- A step that lets a frame out accounts for it exactly if it returns the frame once. -/
lemma accounted_singleton_iff {p : ℕ} (hm : Moves s s' new [p] events) (h : WellFormed s)
    (ha : Accounted s) : Accounted s' ↔ events.filter (about p) = [p] := by
  rw [Accounted, hm.custody.accounted_iff h.tracked (fun _ _ _ => Iff.rfl) ha]
  simp [ReturnedOnce]

/-- A step that leaves the frames where they are. -/
lemma stay (hsync : s'.mSync = s.mSync) (hcount : s'.count = s.count)
    (hheld : (s.current ++ s.submitted).Perm (s'.current ++ s'.submitted))
    (hreturned : s'.returned = s.returned) : Moves s s' 0 [] [] :=
  ⟨hsync, Custody.Moves.stay hcount hheld hreturned⟩

/-- A step that drops the frame of the callback. -/
lemma drop {p : ℕ} (hcurrent : s.current = [p]) (hsync : s'.mSync = s.mSync)
    (hcount : s'.count = s.count) (hcurrent' : s'.current = [])
    (hsubmitted : s'.submitted = s.submitted) (hreturned : s'.returned = s.returned) :
    Moves s s' 0 [p] [] :=
  ⟨hsync,
    { count := hcount
      held := by simp [FaceFrames.custody, hcurrent, hcurrent', hsubmitted]
      log := by simp [FaceFrames.custody, hreturned]
      about := fun _ _ => rfl }⟩

/-- A step that drops the frame of the callback does not account for it. -/
lemma not_accounted_of_drop {p : ℕ} (hm : Moves s s' 0 [p] []) (h : WellFormed s)
    (ha : Accounted s) : ¬ Accounted s' := by
  rw [hm.accounted_singleton_iff h ha]
  simp

end Moves

section Steps

variable (s : FaceFrames)

/-- The commands leave the frames alone. -/
lemma moves_control (c : FaceDetection.Control) : Moves s (s.control c) 0 [] [] :=
  .stay rfl rfl (List.Perm.refl _) rfl

/-- Choosing the mask leaves the frames alone. -/
lemma moves_fillBufferDone (buf : Ptr) : Moves s (s.fillBufferDone buf) 0 [] [] := by
  unfold fillBufferDone
  cases hstage : s.stage with
  | idle =>
    dsimp only
    split_ifs
    · exact .stay rfl rfl (by simp [current, hstage]) rfl
    · exact .stay rfl rfl (List.Perm.refl _) rfl
  | masked buf => exact .stay rfl rfl (List.Perm.refl _) rfl
  | delivered frame buf => exact .stay rfl rfl (List.Perm.refl _) rfl
  | tested frame buf => exact .stay rfl rfl (List.Perm.refl _) rfl

/-- A frame may be delivered. -/
lemma moves_sendFrame : ∃ new, Moves s s.sendFrame new [] [] := by
  unfold sendFrame
  cases hstage : s.stage with
  | idle => exact ⟨0, .stay rfl rfl (List.Perm.refl _) rfl⟩
  | delivered frame buf => exact ⟨0, .stay rfl rfl (List.Perm.refl _) rfl⟩
  | tested frame buf => exact ⟨0, .stay rfl rfl (List.Perm.refl _) rfl⟩
  | masked buf =>
    dsimp only
    split_ifs
    · refine ⟨1, rfl, ⟨rfl, ?_, by simp [custody], fun _ _ => rfl⟩⟩
      simp [custody, current, hstage]
    · exact ⟨0, .stay rfl rfl (by simp [current, drop, hstage]) rfl⟩

/-- The callback keeps its frame if the flags allow it, and drops it otherwise. -/
lemma moves_FDFrameCallback :
    Moves s s.FDFrameCallback 0 [] [] ∧ s.Careful .FDFrameCallback ∨
      (∃ p, Moves s s.FDFrameCallback 0 [p] []) ∧ ¬ s.Careful .FDFrameCallback := by
  unfold FDFrameCallback
  cases hstage : s.stage with
  | idle => exact Or.inl ⟨.stay rfl rfl (List.Perm.refl _) rfl, fun _ _ h => by simp [hstage] at h⟩
  | masked buf =>
    exact Or.inl ⟨.stay rfl rfl (List.Perm.refl _) rfl, fun _ _ h => by simp [hstage] at h⟩
  | tested frame buf =>
    exact Or.inl ⟨.stay rfl rfl (List.Perm.refl _) rfl, fun _ _ h => by simp [hstage] at h⟩
  | delivered frame buf =>
    dsimp only
    split_ifs with hactive
    · exact Or.inl ⟨.stay rfl rfl (by simp [current, hstage]) rfl, fun _ _ _ => hactive⟩
    · refine Or.inr ⟨⟨frame, .drop (by simp [current, hstage]) rfl rfl rfl rfl rfl⟩, ?_⟩
      intro hc
      exact hactive (hc frame buf hstage)

/-- The frame of the callback is submitted, or dropped. -/
lemma moves_processImageAsync (hasync : s.mSync = false) (answer : OMX_ERRORTYPE) :
    Moves s (s.processImageAsync answer) 0 [] [] ∧ s.Careful (.processImageAsync answer) ∨
      (∃ p, Moves s (s.processImageAsync answer) 0 [p] []) ∧
        ¬ s.Careful (.processImageAsync answer) := by
  unfold processImageAsync
  cases hstage : s.stage with
  | idle => exact Or.inl ⟨.stay rfl rfl (List.Perm.refl _) rfl, fun _ _ h => by simp [hstage] at h⟩
  | masked buf =>
    exact Or.inl ⟨.stay rfl rfl (List.Perm.refl _) rfl, fun _ _ h => by simp [hstage] at h⟩
  | delivered frame buf =>
    exact Or.inl ⟨.stay rfl rfl (List.Perm.refl _) rfl, fun _ _ h => by simp [hstage] at h⟩
  | tested frame buf =>
    have hcurrent : s.current = [frame] := by rw [current, hstage]
    have hdrop : Moves s s.drop 0 [frame] [] := .drop hcurrent rfl rfl rfl rfl rfl
    simp only [hasync, Bool.false_eq_true, if_false]
    by_cases hexec : s.detector.mComponentState ≠ .OMX_StateExecuting
    · rw [if_pos hexec]
      exact Or.inr ⟨⟨frame, hdrop⟩, fun hc => hexec (hc frame buf hstage).1⟩
    · rw [if_neg hexec]
      cases hfind : s.detector.mInputBufferMap.find? buf with
      | none =>
        refine Or.inl ⟨.stay rfl rfl (List.Perm.refl _) rfl, fun frame' buf' h => ?_⟩
        obtain ⟨rfl, rfl⟩ := FaceStage.tested.inj (hstage.symm.trans h)
        exact ⟨not_not.mp hexec, by simp [hfind]⟩
      | some pBufferHdr =>
        dsimp only
        split_ifs with hnull hanswer
        · exact Or.inr ⟨⟨frame, hdrop⟩, fun hc => ((hc frame buf hstage).2 _ hfind).1 hnull⟩
        · refine Or.inl ⟨.stay rfl rfl ?_ rfl, fun frame' buf' h => ?_⟩
          · simpa [submit, current, hstage] using
              (List.perm_append_singleton frame s.submitted).symm
          · obtain ⟨rfl, rfl⟩ := FaceStage.tested.inj (hstage.symm.trans h)
            refine ⟨not_not.mp hexec, fun hdr h => ?_⟩
            rw [hfind] at h
            exact ⟨Option.some.inj h ▸ hnull, hanswer⟩
        · exact Or.inr ⟨⟨frame, hdrop⟩, fun hc => hanswer ((hc frame buf hstage).2 _ hfind).2⟩

/-- A frame that comes back from the detector is returned once. -/
lemma moves_onEmptyBufferDone (hasync : s.mSync = false) (frame : ℕ) :
    Moves s (s.onEmptyBufferDone frame) 0 [] [] ∨
      Moves s (s.onEmptyBufferDone frame) 0 [frame] [frame] := by
  unfold onEmptyBufferDone
  by_cases hmem : frame ∈ s.submitted
  · rw [if_pos hmem]
    refine Or.inr ⟨rfl, rfl, ?_, by simp [custody, hasync], ?_⟩
    · have herase := (List.perm_cons_erase hmem).append_left s.current
      simpa [custody, current] using herase.trans List.perm_middle
    · intro p hp
      rw [List.mem_singleton] at hp
      simp [about, Ne.symm hp]
  · rw [if_neg hmem]
    exact Or.inl (.stay rfl rfl (List.Perm.refl _) rfl)

end Steps

/-- Steps keep the invariant, and keep the frames accounted for exactly if they are careful. -/
theorem accounted_step_iff {s : FaceFrames} (h : WellFormed s) (ha : Accounted s) (a : Action) :
    WellFormed (s.step a) ∧ (Accounted (s.step a) ↔ s.Careful a) := by
  cases a with
  | control c =>
    have hm := s.moves_control c
    exact ⟨hm.wellFormed h, fun _ => trivial, fun _ => hm.accounted_of_nil h ha⟩
  | fillBufferDone buf =>
    have hm := s.moves_fillBufferDone buf
    exact ⟨hm.wellFormed h, fun _ => trivial, fun _ => hm.accounted_of_nil h ha⟩
  | sendFrame =>
    obtain ⟨new, hm⟩ := s.moves_sendFrame
    exact ⟨hm.wellFormed h, fun _ => trivial, fun _ => hm.accounted_of_nil h ha⟩
  | FDFrameCallback =>
    rcases s.moves_FDFrameCallback with ⟨hm, hc⟩ | ⟨⟨p, hm⟩, hc⟩
    · exact ⟨hm.wellFormed h, fun _ => hc, fun _ => hm.accounted_of_nil h ha⟩
    · exact ⟨hm.wellFormed h, fun ha' => absurd ha' (hm.not_accounted_of_drop h ha),
        fun hc' => absurd hc' hc⟩
  | processImageAsync answer =>
    rcases s.moves_processImageAsync h.async answer with ⟨hm, hc⟩ | ⟨⟨p, hm⟩, hc⟩
    · exact ⟨hm.wellFormed h, fun _ => hc, fun _ => hm.accounted_of_nil h ha⟩
    · exact ⟨hm.wellFormed h, fun ha' => absurd ha' (hm.not_accounted_of_drop h ha),
        fun hc' => absurd hc' hc⟩
  | onEmptyBufferDone frame =>
    rcases s.moves_onEmptyBufferDone h.async frame with hm | hm
    · exact ⟨hm.wellFormed h, fun _ => trivial, fun _ => hm.accounted_of_nil h ha⟩
    · refine ⟨hm.wellFormed h, fun _ => trivial, fun _ => ?_⟩
      exact (hm.accounted_singleton_iff h ha).mpr (by simp [about])

/-- **Face detection gives every frame back exactly if its steps are careful.** In a run from
before the first frame, every frame that was delivered is in the callback, or with the detector, or
was returned exactly once throughout the run, if and only if the flags still allow the detection
whenever the callback tests them, and every frame that passes the test finds the detector Executing
and is accepted.

**Proof sketch.** A frame enters custody when it is delivered. It leaves custody when the detector
gives it back, which returns it once, or when the callback drops it, which does not. -/
theorem always_framesReturned_iff {s : FaceFrames} (h : Ready s) (run : List Action) :
    StepRun.Always step Accounted s run ↔ StepRun.Along step Careful s run := by
  refine StepRun.always_iff_along_of_invariant (I := fun s => WellFormed s ∧ Accounted s)
    (fun s hs => hs.2) (fun s a hs hc => ?_) (fun s a hs ha => ?_) ⟨h.wellFormed, h.accounted⟩
  · obtain ⟨hwf, hiff⟩ := accounted_step_iff hs.1 hs.2 a
    exact ⟨hwf, hiff.mpr hc⟩
  · exact (accounted_step_iff hs.1 hs.2 a).2.mp ha

/-- Face detection that is not running, and supports four faces. -/
def stopped : FaceFrames where
  maxFaces := 4
  mFaceDetectionRunning := false
  mFaceDetectionPaused := false
  subscribed := false
  detector := ⟨.OMX_StateLoaded, ∅⟩
  command := .idle
  mSync := false
  stage := .idle
  count := 0
  submitted := []
  returned := []

/-- The detector after a start that succeeded. -/
def started : DetectorState := ⟨.OMX_StateExecuting, KeyedVector.add ∅ 16 17⟩

/-- The steps of a start, and a frame that passes the test of the flags. -/
def startRun (d : DetectorState) : List Action :=
  [.control (.startFaceDetection d), .control (.proceed d), .control (.proceed d),
    .fillBufferDone 16, .sendFrame, .FDFrameCallback]

/-- A frame that is searched and given back. -/
theorem always_framesReturned_started :
    StepRun.Always step Accounted stopped
      (startRun started ++ [.processImageAsync .OMX_ErrorNone, .onEmptyBufferDone 0]) := by
  refine (always_framesReturned_iff ⟨rfl, rfl, rfl, rfl, rfl⟩ _).mpr ?_
  refine ⟨trivial, trivial, trivial, trivial, trivial, fun _ _ _ => rfl, fun frame buf h => ?_,
    trivial, trivial⟩
  cases h
  exact ⟨rfl, by decide⟩

/-- The detector failed to start, and the first frame is neither submitted nor returned. -/
theorem not_always_framesReturned_failedStart :
    ¬ ∀ (s : FaceFrames) (run : List Action), Ready s → StepRun.Always step Accounted s run := by
  intro hall
  have haccounted := (hall stopped
    (startRun ⟨.OMX_StateLoaded, ∅⟩ ++ [.processImageAsync .OMX_ErrorNone])
    ⟨rfl, rfl, rfl, rfl, rfl⟩).last
  rcases haccounted 0 (by decide) with hheld | hreturned
  · exact absurd hheld (by decide)
  · exact absurd hreturned (show ([] : List ℕ) ≠ [0] by decide)

end FaceFrames

end CameraHal
