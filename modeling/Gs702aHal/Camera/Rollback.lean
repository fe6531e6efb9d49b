import Gs702aHal.Lib.WhileLoop
import Gs702aHal.Camera.SendCommand

set_option relaxedAutoImplicit false
set_option autoImplicit false

/-!
# Rolling the adapter back

`rollbackToInitializedState` and `rollbackToPreviewState` undo the adapter's activities one
command at a time: the flags first, then capture, video and preview. Each pass of their loops
names the undo command of the current state. Three states have none, those in which buffers are
loaded and not used yet.

## Main definitions

* `CameraHal.BaseCameraAdapter.rollbackToPreviousState` — one pass.
* `CameraHal.BaseCameraAdapter.rollbackToInitializedState`, `rollbackToPreviewState` — the
  loops, with fuel.
* `CameraHal.BaseCameraAdapter.Unwinds`, `UnwindsFully` — when they succeed.
* `CameraHal.BaseCameraAdapter.BuffersTaken` — a command that registers buffers is accepted, and
  its hook succeeds.

## Main results

* `CameraHal.BaseCameraAdapter.rollsBackToInitialized_iff`,
  `CameraHal.BaseCameraAdapter.rollsBackToPreview_iff` — when the loops succeed, from any state.
* `CameraHal.BaseCameraAdapter.rollback_after_run` — when they succeed after a run of commands.
-/

namespace CameraHal

open Status AdapterState

namespace BaseCameraAdapter

/-- `rollbackToPreviousState`, given the status that the undo command's hook would return. -/
def rollbackToPreviousState (outcome : Status) (a : BaseCameraAdapter) :
    Status × BaseCameraAdapter :=
  if a.mAdapterState.Has ZOOM_ACTIVE then
    sendCommand .CAMERA_STOP_SMOOTH_ZOOM CommandValues.zero outcome a
  else if a.mAdapterState.Has AF_ACTIVE then
    sendCommand .CAMERA_CANCEL_AUTOFOCUS CommandValues.zero outcome a
  else if a.mAdapterState = INTIALIZED_STATE then (NO_ERROR, a)
  else if a.mAdapterState = PREVIEW_STATE then
    sendCommand .CAMERA_STOP_PREVIEW CommandValues.zero outcome a
  else if a.mAdapterState = CAPTURE_STATE then
    sendCommand .CAMERA_STOP_IMAGE_CAPTURE CommandValues.zero outcome a
  else if a.mAdapterState = VIDEO_STATE then
    sendCommand .CAMERA_STOP_VIDEO CommandValues.zero outcome a
  else if a.mAdapterState = VIDEO_CAPTURE_STATE then
    sendCommand .CAMERA_STOP_IMAGE_CAPTURE CommandValues.zero outcome a
  else (INVALID_OPERATION, a)

/-- One pass of the loops. The status that a hook returns may depend on the hooks called so
far. -/
def rollbackPass (outcome : List Hook → Status) (s : Status × BaseCameraAdapter) :
    Status × BaseCameraAdapter :=
  rollbackToPreviousState (outcome s.2.hooks) s.2

/-- The loop condition of `rollbackToInitializedState`. -/
def notInitialized (s : Status × BaseCameraAdapter) : Bool :=
  s.2.mAdapterState ≠ INTIALIZED_STATE ∧ s.1 = NO_ERROR

/-- The loop condition of `rollbackToPreviewState`. -/
def abovePreview (s : Status × BaseCameraAdapter) : Bool :=
  PREVIEW_STATE < s.2.mAdapterState ∧ s.1 = NO_ERROR

/-- `rollbackToInitializedState`, for at most `fuel` passes. -/
def rollbackToInitializedState (outcome : List Hook → Status) (fuel : ℕ)
    (a : BaseCameraAdapter) : Option (Status × BaseCameraAdapter) :=
  whileLoop notInitialized (rollbackPass outcome) fuel (NO_ERROR, a)

/-- `rollbackToPreviewState`, for at most `fuel` passes. -/
def rollbackToPreviewState (outcome : List Hook → Status) (fuel : ℕ)
    (a : BaseCameraAdapter) : Option (Status × BaseCameraAdapter) :=
  whileLoop abovePreview (rollbackPass outcome) fuel (NO_ERROR, a)

/-- Every hook succeeds. -/
def allSucceed : List Hook → Status := fun _ => NO_ERROR

/-- What `rollbackToInitializedState` should lead to. -/
structure Initialized (s : Status × BaseCameraAdapter) : Prop where
  /-- It returns `NO_ERROR`. -/
  status : s.1 = NO_ERROR
  /-- The adapter is initialized. -/
  state : s.2.mAdapterState = INTIALIZED_STATE
  /-- No buffers are registered. -/
  tables : ∀ st, s.2.mStreamHub.mStreams st = ∅
  /-- No video is being recorded. -/
  recording : s.2.mRecording = false

/-- What `rollbackToPreviewState` should lead to. -/
structure Previewing (s : Status × BaseCameraAdapter) : Prop where
  /-- It returns `NO_ERROR`. -/
  status : s.1 = NO_ERROR
  /-- The adapter is in its preview state. -/
  state : s.2.mAdapterState = PREVIEW_STATE
  /-- No image buffers are registered. -/
  image : s.2.mStreamHub.mStreams .IMAGE_STREAM_TYPE = ∅
  /-- No video is being recorded. -/
  recording : s.2.mRecording = false

/-- `rollbackToInitializedState` ends as it should when every hook succeeds. -/
def RollsBackToInitialized (a : BaseCameraAdapter) : Prop :=
  ∃ fuel s, rollbackToInitializedState allSucceed fuel a = some s ∧ Initialized s

/-- `rollbackToPreviewState` ends as it should when every hook succeeds. -/
def RollsBackToPreview (a : BaseCameraAdapter) : Prop :=
  ∃ fuel s, rollbackToPreviewState allSucceed fuel a = some s ∧ Previewing s

/-- The states that the undo commands lead out of, down to the preview state. -/
def unwinding : List AdapterState :=
  [PREVIEW_STATE, CAPTURE_STATE, VIDEO_STATE, VIDEO_CAPTURE_STATE]

/-- The adapter can be rolled back to its preview state: the base state has undo commands, the
recording flag agrees with it, and image buffers are registered only during a capture. -/
structure Unwinds (a : BaseCameraAdapter) : Prop where
  /-- The base state has undo commands. -/
  base : a.mAdapterState.base ∈ unwinding
  /-- The recording flag is set exactly in the video states. -/
  recording : a.mRecording = true ↔ a.mAdapterState.Has VIDEO_ACTIVE
  /-- Image buffers are registered only during a capture. -/
  image : a.mStreamHub.mStreams .IMAGE_STREAM_TYPE = ∅ ∨ a.mAdapterState.Has CAPTURE_ACTIVE

/-- The adapter can be rolled back to its initial state: it can be rolled back to the preview
state, or is initialized with nothing registered and nothing recorded. -/
def UnwindsFully (a : BaseCameraAdapter) : Prop :=
  Unwinds a ∨ Initialized (NO_ERROR, a)

/-! ### One pass -/

section Pass

variable (a : BaseCameraAdapter)

/-- A transaction whose hook succeeds and changes nothing but the record of the calls. -/
lemma transact_callHook (operation : CameraCommands) (h : Hook)
    (after : BaseCameraAdapter → BaseCameraAdapter) :
    transact operation (callHook h NO_ERROR) after a =
      match setState a.mAdapterState operation with
      | none => settle INVALID_OPERATION a
      | some next =>
        settle NO_ERROR (after { a with mNextState := next, hooks := a.hooks ++ [h] }) := by
  unfold transact
  cases setState a.mAdapterState operation <;> rfl

variable {a}

/-- The adapter after its state has been replaced. -/
lemma unwinds_congr {a' : BaseCameraAdapter} (hhub : a'.mStreamHub = a.mStreamHub)
    (hrec : a'.mRecording = a.mRecording) (hbase : a'.mAdapterState.base = a.mAdapterState.base) :
    Unwinds a' ↔ Unwinds a := by
  have hhas : ∀ bits, ~~~FLAGS &&& bits = bits →
      (a'.mAdapterState.Has bits ↔ a.mAdapterState.Has bits) := fun bits hbits => by
    rw [← has_base _ hbits, hbase, has_base _ hbits]
  constructor
  · rintro ⟨h1, h2, h3⟩
    exact ⟨hbase ▸ h1, by rw [← hrec, h2, hhas _ (by decide)],
      by rwa [← hhub, ← hhas _ (by decide)]⟩
  · rintro ⟨h1, h2, h3⟩
    exact ⟨hbase ▸ h1, by rw [hrec, h2, hhas _ (by decide)],
      by rwa [hhub, hhas _ (by decide)]⟩

/-- The states with undo commands have the preview active. -/
lemma has_preview_of_unwinding {w : AdapterState} (h : w.base ∈ unwinding) :
    w.Has PREVIEW_ACTIVE := by
  rw [← has_base _ (by decide)]
  have hall : unwinding.all fun w => w.Has PREVIEW_ACTIVE := by decide
  simpa using List.all_eq_true.mp hall _ h

/-- An adapter that unwinds has its preview active. -/
lemma Unwinds.has_preview (h : Unwinds a) : a.mAdapterState.Has PREVIEW_ACTIVE :=
  has_preview_of_unwinding h.base

/-- Unwinding from a given state. -/
lemma unwinds_iff {w : AdapterState} (hw : a.mAdapterState = w) :
    Unwinds a ↔ w.base ∈ unwinding ∧ (a.mRecording = true ↔ w.Has VIDEO_ACTIVE) ∧
      (a.mStreamHub.mStreams .IMAGE_STREAM_TYPE = ∅ ∨ w.Has CAPTURE_ACTIVE) := by
  subst hw
  exact ⟨fun h => ⟨h.1, h.2, h.3⟩, fun h => ⟨h.1, h.2.1, h.2.2⟩⟩

/-- Unwinding from the preview state. -/
lemma unwinds_PREVIEW_STATE (hw : a.mAdapterState = PREVIEW_STATE) :
    Unwinds a ↔ a.mRecording = false ∧ a.mStreamHub.mStreams .IMAGE_STREAM_TYPE = ∅ := by
  rw [unwinds_iff hw]
  simp [show PREVIEW_STATE.base ∈ unwinding by decide,
    show ¬ PREVIEW_STATE.Has VIDEO_ACTIVE by decide,
    show ¬ PREVIEW_STATE.Has CAPTURE_ACTIVE by decide]

/-- Unwinding from the capture state. -/
lemma unwinds_CAPTURE_STATE (hw : a.mAdapterState = CAPTURE_STATE) :
    Unwinds a ↔ a.mRecording = false := by
  rw [unwinds_iff hw]
  simp [show CAPTURE_STATE.base ∈ unwinding by decide,
    show ¬ CAPTURE_STATE.Has VIDEO_ACTIVE by decide,
    show CAPTURE_STATE.Has CAPTURE_ACTIVE by decide]

/-- Unwinding from the video state. -/
lemma unwinds_VIDEO_STATE (hw : a.mAdapterState = VIDEO_STATE) :
    Unwinds a ↔ a.mRecording = true ∧ a.mStreamHub.mStreams .IMAGE_STREAM_TYPE = ∅ := by
  rw [unwinds_iff hw]
  simp [show VIDEO_STATE.base ∈ unwinding by decide, show VIDEO_STATE.Has VIDEO_ACTIVE by decide,
    show ¬ VIDEO_STATE.Has CAPTURE_ACTIVE by decide]

/-- Unwinding from the video capture state. -/
lemma unwinds_VIDEO_CAPTURE_STATE (hw : a.mAdapterState = VIDEO_CAPTURE_STATE) :
    Unwinds a ↔ a.mRecording = true := by
  rw [unwinds_iff hw]
  simp [show VIDEO_CAPTURE_STATE.base ∈ unwinding by decide,
    show VIDEO_CAPTURE_STATE.Has VIDEO_ACTIVE by decide,
    show VIDEO_CAPTURE_STATE.Has CAPTURE_ACTIVE by decide]

/-- What a pass should do above the preview state. -/
structure GoodPass (a : BaseCameraAdapter) (r : Status × BaseCameraAdapter) : Prop where
  /-- The pass succeeds in an adapter that unwinds exactly if the adapter unwinds before. -/
  unwinds : r.1 = NO_ERROR ∧ Unwinds r.2 ↔ Unwinds a
  /-- A pass of an adapter that unwinds lowers the state word. -/
  lowers : Unwinds a → r.2.mAdapterState.toNat < a.mAdapterState.toNat
  /-- The pass does not lead to the initial state. -/
  not_initialized : r.1 = NO_ERROR → r.2.mAdapterState ≠ INTIALIZED_STATE

/-- A pass that fails is good if the adapter does not unwind. -/
lemma goodPass_of_error {r : Status × BaseCameraAdapter} (hr : r.1 ≠ NO_ERROR)
    (hu : ¬ Unwinds a) : GoodPass a r :=
  ⟨⟨fun hc => absurd hc.1 hr, fun h => absurd h hu⟩, fun h => absurd h hu,
    fun hc => absurd hc hr⟩

/-- Clearing a flag that is set lowers the state word. -/
lemma and_not_lt {w flag : AdapterState} (hflag : w.Has flag) :
    (w &&& ~~~flag).toNat < w.toNat := by
  refine lt_of_le_of_ne ?_ fun heq => hflag ?_
  · rw [BitVec.toNat_and]
    exact Nat.and_le_left
  · rw [← BitVec.eq_of_toNat_eq heq, BitVec.and_assoc, BitVec.and_comm (~~~flag),
      BitVec.and_not_self]
    exact BitVec.and_zero

/-- Clearing a flag is a good pass. -/
lemma goodPass_flag {operation : CameraCommands} {flag : AdapterState} (h : Hook)
    (hset : setState a.mAdapterState operation =
      if a.mAdapterState.Has PREVIEW_ACTIVE ∧ a.mAdapterState.Has flag then
        some (a.mAdapterState &&& ~~~flag) else none)
    (hflag : a.mAdapterState.Has flag) (hclear : ~~~flag &&& ~~~FLAGS = ~~~FLAGS) :
    GoodPass a (transact operation (callHook h NO_ERROR) id a) := by
  rw [transact_callHook, hset]
  by_cases hp : a.mAdapterState.Has PREVIEW_ACTIVE
  · rw [if_pos ⟨hp, hflag⟩]
    refine ⟨?_, fun _ => ?_, fun _ hinit => ?_⟩
    · rw [settle_status]
      exact (and_iff_right rfl).trans
        (unwinds_congr (settle_mStreamHub _ _) (settle_mRecording _ _) (by
          rw [settle_mAdapterState, if_pos rfl]
          exact base_and_not _ hclear))
    · rw [settle_mAdapterState, if_pos rfl]
      exact and_not_lt hflag
    · rw [settle_mAdapterState, if_pos rfl] at hinit
      have hword : a.mAdapterState &&& ~~~flag = INTIALIZED_STATE := hinit
      rw [← has_base _ (by decide), ← base_and_not _ hclear, hword] at hp
      exact absurd hp (by decide)
  · rw [if_neg fun hc => hp hc.1]
    refine goodPass_of_error ?_ fun hu => hp hu.has_preview
    rw [settle_status]
    decide

/-- **One pass.** Above the preview state, a pass whose hook succeeds succeeds in an adapter
that unwinds exactly if the adapter unwinds before the pass, and then it lowers the state word.

**Proof sketch.** A flag is cleared under the same base state. Without flags the word is its
base state, and each of the four states with an undo command goes to the state below it; the
recording flag is cleared with the video state and the image table with the capture. -/
theorem goodPass_rollbackToPreviousState (hinit : a.mAdapterState ≠ INTIALIZED_STATE)
    (hpreview : a.mAdapterState ≠ PREVIEW_STATE) :
    GoodPass a (rollbackToPreviousState NO_ERROR a) := by
  unfold rollbackToPreviousState
  split_ifs with hzoom haf hcapture hvideo hboth
  · exact goodPass_flag .stopSmoothZoom (setState_STOP_SMOOTH_ZOOM _) hzoom (by decide)
  · exact goodPass_flag .cancelAutoFocus (setState_CANCEL_AUTOFOCUS _) haf (by decide)
  · have hr : sendCommand .CAMERA_STOP_IMAGE_CAPTURE CommandValues.zero NO_ERROR a =
        settle NO_ERROR (removeAllFrameBuffer { a with
          mNextState := PREVIEW_STATE, hooks := a.hooks ++ [.stopImageCapture] }
            .IMAGE_STREAM_TYPE) := by
      rw [sendCommand, transact_callHook, hcapture]
      rfl
    rw [hr]
    refine ⟨?_, fun _ => ?_, fun _ => (by decide : PREVIEW_STATE ≠ INTIALIZED_STATE)⟩
    · rw [unwinds_CAPTURE_STATE hcapture, unwinds_PREVIEW_STATE (by simp; rfl)]
      simp [removeAllFrameBuffer, setStream, CameraStreamHub.setStream]
    · rw [hcapture, settle_mAdapterState, if_pos rfl]
      exact (by decide : PREVIEW_STATE.toNat < CAPTURE_STATE.toNat)
  · cases hrec : a.mRecording with
    | true =>
      have hr : sendCommand .CAMERA_STOP_VIDEO CommandValues.zero NO_ERROR a =
          settle NO_ERROR { a with
            mNextState := PREVIEW_STATE, mRecording := false
            hooks := a.hooks ++ [.stopVideoCapture] } := by
        simp only [sendCommand, transact, hvideo]
        simp [show setState VIDEO_STATE .CAMERA_STOP_VIDEO = some PREVIEW_STATE by decide,
          stopVideoCapture, callHook, hrec]
      rw [hr]
      refine ⟨?_, fun _ => ?_, fun _ => (by decide : PREVIEW_STATE ≠ INTIALIZED_STATE)⟩
      · rw [unwinds_VIDEO_STATE hvideo, unwinds_PREVIEW_STATE (by simp)]
        simp [hrec]
      · rw [hvideo, settle_mAdapterState, if_pos rfl]
        exact (by decide : PREVIEW_STATE.toNat < VIDEO_STATE.toNat)
    | false =>
      have hnot : ¬ Unwinds a := fun hu => by
        simp [(unwinds_VIDEO_STATE hvideo).mp hu] at hrec
      have hr : (sendCommand .CAMERA_STOP_VIDEO CommandValues.zero NO_ERROR a).1 = NO_INIT := by
        simp only [sendCommand, transact, hvideo]
        simp [show setState VIDEO_STATE .CAMERA_STOP_VIDEO = some PREVIEW_STATE by decide,
          stopVideoCapture, callHook, hrec]
      refine goodPass_of_error ?_ hnot
      rw [hr]
      decide
  · have hr : sendCommand .CAMERA_STOP_IMAGE_CAPTURE CommandValues.zero NO_ERROR a =
        settle NO_ERROR (removeAllFrameBuffer { a with
          mNextState := VIDEO_STATE, hooks := a.hooks ++ [.stopImageCapture] }
            .IMAGE_STREAM_TYPE) := by
      rw [sendCommand, transact_callHook, hboth]
      rfl
    rw [hr]
    refine ⟨?_, fun _ => ?_, fun _ => (by decide : VIDEO_STATE ≠ INTIALIZED_STATE)⟩
    · rw [unwinds_VIDEO_CAPTURE_STATE hboth, unwinds_VIDEO_STATE (by simp; rfl)]
      simp [removeAllFrameBuffer, setStream, CameraStreamHub.setStream]
    · rw [hboth, settle_mAdapterState, if_pos rfl]
      exact (by decide : VIDEO_STATE.toNat < VIDEO_CAPTURE_STATE.toNat)
  · have hnot : ¬ Unwinds a := fun hu => by
      have hbase := hu.base
      rw [base_eq_self _ haf hzoom] at hbase
      simp [unwinding, hpreview, hcapture, hvideo, hboth] at hbase
    exact goodPass_of_error (by decide : INVALID_OPERATION ≠ NO_ERROR) hnot

/-- The pass from the preview state. -/
lemma rollbackToPreviousState_PREVIEW_STATE (hw : a.mAdapterState = PREVIEW_STATE) :
    rollbackToPreviousState NO_ERROR a = settle NO_ERROR (removeAllFrameBuffer { a with
      mNextState := INTIALIZED_STATE, hooks := a.hooks ++ [.stopPreview] }
        .PREVIEW_STREAM_TYPE) := by
  have hz : ¬ PREVIEW_STATE.Has ZOOM_ACTIVE := by decide
  have ha : ¬ PREVIEW_STATE.Has AF_ACTIVE := by decide
  have hi : PREVIEW_STATE ≠ INTIALIZED_STATE := by decide
  rw [rollbackToPreviousState, hw, if_neg hz, if_neg ha, if_neg hi, if_pos rfl, sendCommand,
    transact_callHook, hw]
  rfl

end Pass

/-! ### The loops -/

/-- The states with undo commands are at or above the preview state. -/
lemma Unwinds.le_state {a : BaseCameraAdapter} (h : Unwinds a) :
    PREVIEW_STATE.toNat ≤ a.mAdapterState.base.toNat ∧
      a.mAdapterState.base.toNat ≤ a.mAdapterState.toNat := by
  have hall : unwinding.all fun w => PREVIEW_STATE.toNat ≤ w.toNat := by decide
  refine ⟨by simpa using List.all_eq_true.mp hall _ h.base, ?_⟩
  rw [AdapterState.base, BitVec.toNat_and]
  exact Nat.and_le_left

/-- **`rollbackToPreviewState` succeeds exactly from the adapters that unwind.**

**Proof sketch.** The exact loop rule, with the state word as the measure. At the exit the word
is at most the preview state, so that an adapter that unwinds is in the preview state. -/
theorem rollsBackToPreview_iff (a : BaseCameraAdapter) : RollsBackToPreview a ↔ Unwinds a := by
  suffices hloop : WhileLoop.EndsWith abovePreview (rollbackPass allSucceed) Previewing
      (NO_ERROR, a) ↔ NO_ERROR = NO_ERROR ∧ Unwinds a from hloop.trans (and_iff_right rfl)
  refine WhileLoop.endsWith_iff
    (C := fun s : Status × BaseCameraAdapter => s.1 = NO_ERROR ∧ Unwinds s.2)
    (fun s => s.2.mAdapterState.toNat) ?_ ?_ ?_ (NO_ERROR, a)
  · rintro ⟨ret, a⟩ hgo
    simp only [abovePreview, decide_eq_false_iff_not, not_and] at hgo
    constructor
    · rintro ⟨rfl, hu⟩
      have hle : a.mAdapterState.toNat ≤ PREVIEW_STATE.toNat :=
        not_lt.mp fun hlt => hgo (BitVec.lt_def.mpr hlt) rfl
      have hw : a.mAdapterState = PREVIEW_STATE :=
        BitVec.eq_of_toNat_eq (le_antisymm hle (hu.le_state.1.trans hu.le_state.2))
      obtain ⟨hrec, himage⟩ := (unwinds_PREVIEW_STATE hw).mp hu
      exact ⟨rfl, hw, himage, hrec⟩
    · rintro ⟨hret, hw, himage, hrec⟩
      exact ⟨hret, (unwinds_PREVIEW_STATE hw).mpr ⟨hrec, himage⟩⟩
  all_goals
    rintro ⟨ret, a⟩ hgo
    obtain ⟨hlt, rfl⟩ := of_decide_eq_true hgo
    have hgood : GoodPass a (rollbackToPreviousState NO_ERROR a) :=
      goodPass_rollbackToPreviousState
        (fun hw => absurd (hw ▸ hlt) (by decide)) (fun hw => absurd (hw ▸ hlt) (by decide))
  · exact fun hc => ⟨hgood.unwinds.mpr hc.2, hgood.lowers hc.2⟩
  · exact fun hc => ⟨rfl, hgood.unwinds.mp hc⟩

/-- **`rollbackToInitializedState` succeeds exactly from the adapters that unwind fully.**

**Proof sketch.** The exact loop rule, with the state word as the measure. From the preview
state the last pass drops the preview buffers; above it a pass is good. -/
theorem rollsBackToInitialized_iff (a : BaseCameraAdapter) :
    RollsBackToInitialized a ↔ UnwindsFully a := by
  suffices hloop : WhileLoop.EndsWith notInitialized (rollbackPass allSucceed) Initialized
      (NO_ERROR, a) ↔ NO_ERROR = NO_ERROR ∧ UnwindsFully a from hloop.trans (and_iff_right rfl)
  -- a pass from any state but the initial one
  have hpass : ∀ a : BaseCameraAdapter, a.mAdapterState ≠ INTIALIZED_STATE →
      ((rollbackToPreviousState NO_ERROR a).1 = NO_ERROR ∧
          UnwindsFully (rollbackToPreviousState NO_ERROR a).2 ↔ UnwindsFully a) ∧
        (UnwindsFully a → (rollbackToPreviousState NO_ERROR a).2.mAdapterState.toNat <
          a.mAdapterState.toNat) := by
    intro a hinit
    have hfully : UnwindsFully a ↔ Unwinds a :=
      or_iff_left fun hi => hinit hi.state
    rw [hfully]
    by_cases hw : a.mAdapterState = PREVIEW_STATE
    · rw [rollbackToPreviousState_PREVIEW_STATE hw, unwinds_PREVIEW_STATE hw]
      refine ⟨?_, fun _ => ?_⟩
      · constructor
        · rintro ⟨-, hu | hi⟩
          · exact absurd hu.base (by decide : INTIALIZED_STATE.base ∉ unwinding)
          · exact ⟨hi.recording, hi.tables .IMAGE_STREAM_TYPE⟩
        · rintro ⟨hrec, himage⟩
          refine ⟨rfl, Or.inr ⟨rfl, rfl, fun st => ?_, hrec⟩⟩
          cases st with
          | PREVIEW_STREAM_TYPE => rfl
          | IMAGE_STREAM_TYPE => exact himage
      · rw [hw]
        exact (by decide : INTIALIZED_STATE.toNat < PREVIEW_STATE.toNat)
    · have hgood := goodPass_rollbackToPreviousState hinit hw
      refine ⟨?_, hgood.lowers⟩
      rw [← hgood.unwinds]
      refine and_congr_right fun hret => or_iff_left fun hi => ?_
      exact hgood.not_initialized hret hi.state
  refine WhileLoop.endsWith_iff
    (C := fun s : Status × BaseCameraAdapter => s.1 = NO_ERROR ∧ UnwindsFully s.2)
    (fun s => s.2.mAdapterState.toNat) ?_ ?_ ?_ (NO_ERROR, a)
  · rintro ⟨ret, a⟩ hgo
    simp only [notInitialized, decide_eq_false_iff_not, not_and] at hgo
    constructor
    · rintro ⟨rfl, hu | hi⟩
      · have hw : a.mAdapterState = INTIALIZED_STATE := not_not.mp fun hne => hgo hne rfl
        have hbase := hu.base
        rw [hw] at hbase
        exact absurd hbase (by decide)
      · exact hi
    · rintro hi
      obtain rfl : ret = NO_ERROR := hi.status
      exact ⟨rfl, Or.inr hi⟩
  all_goals
    rintro ⟨ret, a⟩ hgo
    obtain ⟨hinit, rfl⟩ := of_decide_eq_true hgo
    obtain ⟨hiff, hlt⟩ := hpass a hinit
  · exact fun hc => ⟨hiff.mpr hc.2, hlt hc.2⟩
  · exact fun hc => ⟨rfl, hiff.mp hc⟩

/-! ### After a run of commands -/

/-- A command that registers the buffers of a descriptor is accepted, and its hook succeeds. -/
def BuffersTaken (a : BaseCameraAdapter) (r : Request) : Prop :=
  (registers? r.operation).isSome → r.values.desc.isSome →
    (setState a.mAdapterState r.operation).isSome ∧ r.outcome = NO_ERROR

instance (a : BaseCameraAdapter) (r : Request) : Decidable (BuffersTaken a r) :=
  inferInstanceAs (Decidable (_ → _ → _))

/-- The base state is one of the three in which buffers are loaded and not used yet. -/
def Loaded (w : AdapterState) : Prop :=
  w.base = LOADED_PREVIEW_STATE ∨ w.base = LOADED_CAPTURE_STATE ∨
    w.base = VIDEO_LOADED_CAPTURE_STATE

instance (w : AdapterState) : Decidable (Loaded w) := inferInstanceAs (Decidable (_ ∨ _))

/-- The recording flag and the tables go with the state. -/
structure Consistent (a : BaseCameraAdapter) : Prop where
  /-- The state is one of the table's. -/
  state : a.mAdapterState ∈ valid
  /-- The recording flag is set exactly in the video states. -/
  recording : a.mRecording = true ↔ a.mAdapterState.Has VIDEO_ACTIVE
  /-- Image buffers are registered only from their loading to the end of the capture. -/
  image : a.mStreamHub.mStreams .IMAGE_STREAM_TYPE = ∅ ∨
    a.mAdapterState.Has (LOADED_CAPTURE_ACTIVE ||| CAPTURE_ACTIVE)
  /-- Preview buffers are registered only from their loading to the end of the preview. -/
  preview : a.mStreamHub.mStreams .PREVIEW_STREAM_TYPE = ∅ ∨
    a.mAdapterState.Has (LOADED_PREVIEW_ACTIVE ||| PREVIEW_ACTIVE)

/-- A new adapter is consistent. -/
lemma consistent_fresh (mNextState : AdapterState)
    (subscribers : FrameType → KeyedVector Ptr Ptr) :
    Consistent (fresh mNextState subscribers) where
  state := List.mem_cons_self
  recording := by
    have hvideo : ¬ INTIALIZED_STATE.Has VIDEO_ACTIVE := by decide
    exact ⟨fun h => absurd h Bool.false_ne_true, fun h => absurd h hvideo⟩
  image := Or.inl rfl
  preview := Or.inl rfl

/-- What a hook that succeeds does: it sets or clears the recording flag if it is a video
hook. -/
lemma hook_succeeds {operation : CameraCommands} {v : CommandValues} {outcome : Status}
    {hook : BaseCameraAdapter → Status × BaseCameraAdapter}
    (hhook : hook? operation v outcome = some hook) {a : BaseCameraAdapter}
    (hret : (hook a).1 = NO_ERROR) : ∃ hooks, (hook a).2 = { a with
      mRecording := if operation = .CAMERA_START_VIDEO then true
        else if operation = .CAMERA_STOP_VIDEO then false else a.mRecording
      hooks := hooks } := by
  obtain ⟨hooks, heq⟩ := hook_eq hhook a
  rw [recordingAfter, if_pos hret] at heq
  exact ⟨hooks, heq⟩

/-- An adapter with the same state, flag and tables is consistent. -/
lemma Consistent.of_same {a a' : BaseCameraAdapter} (h : Consistent a)
    (hstate : a'.mAdapterState = a.mAdapterState) (hrec : a'.mRecording = a.mRecording)
    (hhub : a'.mStreamHub = a.mStreamHub) : Consistent a' :=
  ⟨hstate ▸ h.state, by rw [hrec, hstate, h.recording], by rw [hhub, hstate]; exact h.image,
    by rw [hhub, hstate]; exact h.preview⟩

/-- An adapter that follows an accepted command is consistent if its recording flag and its
tables are changed as the command does. -/
lemma Consistent.of_follows {a a' : BaseCameraAdapter} (h : Consistent a)
    {operation : CameraCommands} (hf : Follows a.mAdapterState operation a'.mAdapterState)
    (hrec : a'.mRecording = if operation = .CAMERA_START_VIDEO then true
      else if operation = .CAMERA_STOP_VIDEO then false else a.mRecording)
    (himage : a'.mStreamHub.mStreams .IMAGE_STREAM_TYPE = ∅ ∨
      operation = .CAMERA_USE_BUFFERS_IMAGE_CAPTURE ∨
      operation ≠ .CAMERA_STOP_IMAGE_CAPTURE ∧
        a'.mStreamHub.mStreams .IMAGE_STREAM_TYPE = a.mStreamHub.mStreams .IMAGE_STREAM_TYPE)
    (hpreview : a'.mStreamHub.mStreams .PREVIEW_STREAM_TYPE = ∅ ∨
      operation = .CAMERA_USE_BUFFERS_PREVIEW ∨
      operation ≠ .CAMERA_STOP_PREVIEW ∧ a'.mStreamHub.mStreams .PREVIEW_STREAM_TYPE =
        a.mStreamHub.mStreams .PREVIEW_STREAM_TYPE) : Consistent a' := by
  refine ⟨hf.next_valid, ?_, ?_, ?_⟩
  · have hvideo := hf.video
    rw [hrec]
    split_ifs at hvideo ⊢
    · exact iff_of_true rfl hvideo.2
    · exact iff_of_false not_false hvideo.2
    · rw [h.recording, hvideo]
  · rcases himage with hempty | rfl | ⟨hop, hsame⟩
    · exact Or.inl hempty
    · exact Or.inr (hf.capture.resolve_left (by decide) (Or.inl rfl))
    · rw [hsame]
      exact h.image.imp_right fun hw => hf.capture.resolve_left hop (Or.inr hw)
  · rcases hpreview with hempty | rfl | ⟨hop, hsame⟩
    · exact Or.inl hempty
    · exact Or.inr (hf.preview.resolve_left (by decide) (Or.inl rfl))
    · rw [hsame]
      exact h.preview.imp_right fun hw => hf.preview.resolve_left hop (Or.inr hw)

/-- A command with a hook keeps the adapter consistent: what it changes goes with the bits of the
state that it enters. -/
lemma consistent_transact {a : BaseCameraAdapter} (h : Consistent a) {operation : CameraCommands}
    {v : CommandValues} {outcome : Status} {hook : BaseCameraAdapter → Status × BaseCameraAdapter}
    (hhook : hook? operation v outcome = some hook) :
    Consistent (transact operation hook (dropBuffers operation) a).2 := by
  rw [transact]
  cases hset : setState a.mAdapterState operation with
  | none =>
    refine h.of_same ?_ (settle_mRecording _ _) (settle_mStreamHub _ _)
    rw [settle_mAdapterState, if_neg (by decide)]
  | some next =>
    by_cases hret : (hook { a with mNextState := next }).1 = NO_ERROR
    · obtain ⟨hooks, hsame⟩ := hook_succeeds hhook hret
      simp only [hret, if_true, hsame]
      refine h.of_follows (show Follows a.mAdapterState operation _ from ?_) ?_ ?_ ?_
      · rw [settle_mAdapterState, if_pos rfl, dropBuffers_mNextState]
        exact setState_valid h.state hset
      · rw [settle_mRecording, dropBuffers_mRecording]
      · rw [settle_mStreamHub, dropBuffers_image]
        by_cases hop : operation = .CAMERA_STOP_IMAGE_CAPTURE
        · exact Or.inl (if_pos hop)
        · exact Or.inr (Or.inr ⟨hop, if_neg hop⟩)
      · rw [settle_mStreamHub, dropBuffers_preview]
        by_cases hop : operation = .CAMERA_STOP_PREVIEW
        · exact Or.inl (if_pos hop)
        · exact Or.inr (Or.inr ⟨hop, if_neg hop⟩)
    · obtain ⟨hooks, hsame⟩ := hook_fails hhook hret
      simp only [if_neg hret, hsame]
      exact h.of_same (by simp [hret]) (by simp) (by simp)

/-- A command that registers buffers keeps the adapter consistent if it is accepted and its hook
succeeds. -/
lemma consistent_useBuffers {a : BaseCameraAdapter} (h : Consistent a)
    {operation : CameraCommands} {v : CommandValues} {st : StreamType × FrameType}
    {d : BuffersDescriptor} (hreg : registers? operation = some st) (hdesc : v.desc = some d)
    (haccept : (setState a.mAdapterState operation).isSome) :
    Consistent (sendCommand operation v NO_ERROR a).2 := by
  obtain ⟨next, hset⟩ := Option.isSome_iff_exists.mp haccept
  have hfollows := setState_valid h.state hset
  cases operation
  case CAMERA_USE_BUFFERS_PREVIEW =>
    simp only [sendCommand, useBuffersCommand, hdesc, hset]
    exact h.of_follows hfollows rfl (Or.inr (Or.inr ⟨by decide, rfl⟩)) (Or.inr (Or.inl rfl))
  case CAMERA_USE_BUFFERS_IMAGE_CAPTURE =>
    simp only [sendCommand, useBuffersCommand, hdesc, hset]
    exact h.of_follows hfollows rfl (Or.inr (Or.inl rfl)) (Or.inr (Or.inr ⟨by decide, rfl⟩))
  all_goals simp [registers?] at hreg

/-- **A command keeps the adapter consistent**, provided that buffers are registered only when
the command is accepted and its hook succeeds.

**Proof sketch.** A command that is rejected, or whose hook fails, leaves everything but the
proposed state alone. An accepted command changes the recording flag, and each table, in step
with the bits of the state that go with it. -/
lemma Consistent.step {a : BaseCameraAdapter} (h : Consistent a) {r : Request}
    (hr : BuffersTaken a r) : Consistent (step a r) := by
  obtain ⟨operation, v, outcome⟩ := r
  simp only [BaseCameraAdapter.step]
  cases hreg : registers? operation with
  | none =>
    by_cases hasks : AsksSetState operation
    · obtain ⟨hook, hhook, hsend⟩ := sendCommand_eq_transact v outcome a hasks hreg
      rw [hsend]
      exact consistent_transact h hhook
    · cases operation
      case CAMERA_START_FD | CAMERA_STOP_FD | CAMERA_SWITCH_TO_EXECUTING | CAMERA_SET_TIMEOUT |
          CAMERA_CANCEL_TIMEOUT | CAMERA_TIMEOUT_EXPIRED => exact h.of_same rfl rfl rfl
      all_goals exact absurd trivial hasks
  | some st =>
    cases hdesc : v.desc with
    | none =>
      obtain ⟨mode, -, hsend⟩ := sendCommand_eq_useBuffersCommand v outcome a hreg
      rw [hsend, hdesc]
      exact h
    | some d =>
      obtain ⟨haccept, hout⟩ := hr (by simp [hreg]) (by simp [hdesc])
      obtain rfl : outcome = NO_ERROR := hout
      exact consistent_useBuffers h hreg hdesc haccept

/-- The bits of the states that unwind, and of those that do not. -/
lemma valid_unwinding {w : AdapterState} (hw : w ∈ valid) :
    (¬ Loaded w ↔ w.base ∈ unwinding ∨ w = INTIALIZED_STATE) ∧
      (w = INTIALIZED_STATE → ¬ w.Has VIDEO_ACTIVE ∧
        ¬ w.Has (LOADED_CAPTURE_ACTIVE ||| CAPTURE_ACTIVE) ∧
        ¬ w.Has (LOADED_PREVIEW_ACTIVE ||| PREVIEW_ACTIVE)) ∧
      (w.base ∈ unwinding → w.Has (LOADED_CAPTURE_ACTIVE ||| CAPTURE_ACTIVE) →
        w.Has CAPTURE_ACTIVE) := by
  have hall : valid.all fun w =>
      (¬ Loaded w ↔ w.base ∈ unwinding ∨ w = INTIALIZED_STATE) ∧
        (w = INTIALIZED_STATE → ¬ w.Has VIDEO_ACTIVE ∧
          ¬ w.Has (LOADED_CAPTURE_ACTIVE ||| CAPTURE_ACTIVE) ∧
          ¬ w.Has (LOADED_PREVIEW_ACTIVE ||| PREVIEW_ACTIVE)) ∧
        (w.base ∈ unwinding → w.Has (LOADED_CAPTURE_ACTIVE ||| CAPTURE_ACTIVE) →
          w.Has CAPTURE_ACTIVE) := by decide +kernel
  exact of_decide_eq_true (List.all_eq_true.mp hall w hw)

/-- A consistent adapter whose base state has undo commands unwinds. -/
lemma Consistent.unwinds_iff {a : BaseCameraAdapter} (h : Consistent a) :
    Unwinds a ↔ a.mAdapterState.base ∈ unwinding :=
  ⟨Unwinds.base, fun hbase => ⟨hbase, h.recording,
    h.image.imp_right ((valid_unwinding h.state).2.2 hbase)⟩⟩

/-- A consistent adapter unwinds fully unless its buffers are loaded and not used. -/
lemma Consistent.unwindsFully_iff {a : BaseCameraAdapter} (h : Consistent a) :
    UnwindsFully a ↔ ¬ Loaded a.mAdapterState := by
  obtain ⟨hloaded, hinit, -⟩ := valid_unwinding h.state
  rw [UnwindsFully, h.unwinds_iff, hloaded]
  refine or_congr_right ⟨Initialized.state, fun hw => ?_⟩
  obtain ⟨hvideo, hcapture, hpreview⟩ := hinit hw
  refine ⟨rfl, hw, fun st => ?_, ?_⟩
  · cases st with
    | PREVIEW_STREAM_TYPE => exact h.preview.resolve_right hpreview
    | IMAGE_STREAM_TYPE => exact h.image.resolve_right hcapture
  · exact Bool.eq_false_iff.mpr fun hrec => hvideo (h.recording.mp hrec)

/-- Above the preview state, a consistent adapter unwinds unless its buffers are loaded and not
used. -/
lemma Consistent.unwinds_iff_not_loaded {a : BaseCameraAdapter} (h : Consistent a)
    (habove : PREVIEW_STATE < a.mAdapterState) : Unwinds a ↔ ¬ Loaded a.mAdapterState := by
  rw [h.unwinds_iff, (valid_unwinding h.state).1]
  refine (or_iff_left fun hw => ?_).symm
  rw [hw] at habove
  exact absurd habove (by decide)

/-- **Rolling back after a run of commands.** After any run from a new adapter, whatever the
hooks returned, the two rollbacks succeed exactly if the adapter unwinds. If all buffers of the
run were taken, it unwinds exactly if its base state is not one with loaded buffers. -/
theorem rollback_after_run (mNextState : AdapterState)
    (subscribers : FrameType → KeyedVector Ptr Ptr) (run : List Request) {a : BaseCameraAdapter}
    (ha : StepRun.final step (fresh mNextState subscribers) run = a) :
    (RollsBackToInitialized a ↔ UnwindsFully a) ∧ (RollsBackToPreview a ↔ Unwinds a) ∧
      (StepRun.Along step BuffersTaken (fresh mNextState subscribers) run →
        (RollsBackToInitialized a ↔ ¬ Loaded a.mAdapterState) ∧
          (PREVIEW_STATE < a.mAdapterState →
            (RollsBackToPreview a ↔ ¬ Loaded a.mAdapterState))) := by
  refine ⟨rollsBackToInitialized_iff a, rollsBackToPreview_iff a, fun hrun => ?_⟩
  have hconsistent : Consistent a := by
    rw [← ha]
    exact (StepRun.always_of_along (I := Consistent) (fun _ _ h hr => h.step hr)
      (consistent_fresh mNextState subscribers) hrun).last
  exact ⟨(rollsBackToInitialized_iff a).trans hconsistent.unwindsFully_iff,
    fun habove => (rollsBackToPreview_iff a).trans (hconsistent.unwinds_iff_not_loaded habove)⟩

/-! ### Loaded and unused preview buffers -/

/-- A preview that was started can be rolled back. -/
theorem rollsBackToInitialized_preview :
    RollsBackToInitialized (StepRun.final step (fresh INTIALIZED_STATE fun _ => ∅)
      [⟨.CAMERA_USE_BUFFERS_PREVIEW, oneBufferValues, NO_ERROR⟩,
        ⟨.CAMERA_START_PREVIEW, CommandValues.zero, NO_ERROR⟩]) := by
  have htaken : StepRun.Along step BuffersTaken (fresh INTIALIZED_STATE fun _ => ∅)
      [⟨.CAMERA_USE_BUFFERS_PREVIEW, oneBufferValues, NO_ERROR⟩,
        ⟨.CAMERA_START_PREVIEW, CommandValues.zero, NO_ERROR⟩] :=
    ⟨fun _ _ => by decide, fun h => absurd h (by decide), trivial⟩
  exact ((rollback_after_run INTIALIZED_STATE (fun _ => ∅) _ rfl).2.2 htaken).1.mpr (by decide)

/-- Preview buffers that were loaded for a preview that was not started cannot be rolled back,
and neither can image buffers for a picture that was not taken. -/
theorem not_rollsBack_loaded :
    ¬ RollsBackToInitialized (StepRun.final step (fresh INTIALIZED_STATE fun _ => ∅)
        [⟨.CAMERA_USE_BUFFERS_PREVIEW, oneBufferValues, NO_ERROR⟩]) ∧
      ¬ RollsBackToPreview (StepRun.final step (fresh INTIALIZED_STATE fun _ => ∅)
        [⟨.CAMERA_USE_BUFFERS_PREVIEW, oneBufferValues, NO_ERROR⟩,
          ⟨.CAMERA_START_PREVIEW, CommandValues.zero, NO_ERROR⟩,
          ⟨.CAMERA_USE_BUFFERS_IMAGE_CAPTURE, oneBufferValues, NO_ERROR⟩]) := by
  rw [rollsBackToInitialized_iff, rollsBackToPreview_iff]
  refine ⟨?_, fun h => absurd h.base (by decide)⟩
  rintro (h | h)
  · exact absurd h.base (by decide)
  · exact absurd h.state (by decide)

end BaseCameraAdapter

end CameraHal
