import Gs702aHal.Camera.Rollback

set_option relaxedAutoImplicit false
set_option autoImplicit false

/-!
# Rollbacks whose hooks may fail

A hook of an undo command may fail, and what it returns may depend on the hooks called before it.
The loops of the rollbacks end all the same. Where `rollbackToInitializedState` leads, and whether
it drops the preview buffers, is decided by the hooks of the undo commands from the state in which
it starts.

## Main definitions

* `CameraHal.BaseCameraAdapter.rolledBackToInitialized`, `rolledBackToPreview` — the rollbacks, run
  to their ends.
* `CameraHal.BaseCameraAdapter.KeepsOrDrops` — the preview buffers stay or are all dropped.
* `CameraHal.BaseCameraAdapter.Undoes` — the hooks of all undo commands succeed.

## Main results

* `CameraHal.BaseCameraAdapter.rollback_isSome` — the rollbacks end.
* `CameraHal.BaseCameraAdapter.keepsOrDrops_sendCommand`,
  `CameraHal.BaseCameraAdapter.keepsOrDrops_rollback` — what commands and rollbacks do to the
  preview buffers.
* `CameraHal.BaseCameraAdapter.rolledBackToInitialized_iff` — where the first rollback leads.
-/

namespace CameraHal

open Status AdapterState

namespace BaseCameraAdapter

/-! ### The rollbacks end -/

/-- A transaction that succeeds leads to the state that `setState` proposes. -/
lemma setState_of_transact {operation : CameraCommands}
    {hook : BaseCameraAdapter → Status × BaseCameraAdapter}
    {after : BaseCameraAdapter → BaseCameraAdapter} {a : BaseCameraAdapter}
    (hret : (transact operation hook after a).1 = NO_ERROR)
    (hhook : ∀ a, (hook a).2.mNextState = a.mNextState)
    (hafter : ∀ a, (after a).mNextState = a.mNextState) :
    setState a.mAdapterState operation =
      some (transact operation hook after a).2.mAdapterState := by
  unfold transact at hret ⊢
  cases hset : setState a.mAdapterState operation with
  | none =>
    rw [hset] at hret
    simp only [settle_status] at hret
    exact absurd hret (by decide)
  | some next =>
    simp only [hset, settle_status] at hret
    simp only [hret, if_true, settle_mAdapterState, hafter, hhook]

/-- A pass that succeeds lowers the state word, whatever its hook does. -/
lemma rollbackToPreviousState_lt {outcome : Status} {a : BaseCameraAdapter}
    (hinit : a.mAdapterState ≠ INTIALIZED_STATE)
    (hret : (rollbackToPreviousState outcome a).1 = NO_ERROR) :
    (rollbackToPreviousState outcome a).2.mAdapterState.toNat < a.mAdapterState.toNat := by
  have hstop : ∀ a, (stopVideoCapture outcome a).2.mNextState = a.mNextState := by
    intro a
    unfold stopVideoCapture
    dsimp only [callHook]
    split
    · rfl
    · split <;> rfl
  unfold rollbackToPreviousState at hret ⊢
  split_ifs at hret ⊢ with hzoom haf hpreview hcapture hvideo hboth
  · rw [sendCommand] at hret ⊢
    have hset := setState_of_transact hret (fun _ => rfl) (fun _ => rfl)
    rw [setState_STOP_SMOOTH_ZOOM] at hset
    split_ifs at hset
    exact Option.some.inj hset ▸ and_not_lt hzoom
  · rw [sendCommand] at hret ⊢
    have hset := setState_of_transact hret (fun _ => rfl) (fun _ => rfl)
    rw [setState_CANCEL_AUTOFOCUS] at hset
    split_ifs at hset
    exact Option.some.inj hset ▸ and_not_lt haf
  · rw [sendCommand] at hret ⊢
    have hset := setState_of_transact hret (fun _ => rfl) (fun _ => rfl)
    rw [hpreview] at hset ⊢
    exact Option.some.inj hset ▸ (by decide : INTIALIZED_STATE.toNat < PREVIEW_STATE.toNat)
  · rw [sendCommand] at hret ⊢
    have hset := setState_of_transact hret (fun _ => rfl) (fun _ => rfl)
    rw [hcapture] at hset ⊢
    exact Option.some.inj hset ▸ (by decide : PREVIEW_STATE.toNat < CAPTURE_STATE.toNat)
  · rw [sendCommand] at hret ⊢
    have hset := setState_of_transact hret hstop (fun _ => rfl)
    rw [hvideo] at hset ⊢
    exact Option.some.inj hset ▸ (by decide : PREVIEW_STATE.toNat < VIDEO_STATE.toNat)
  · rw [sendCommand] at hret ⊢
    have hset := setState_of_transact hret (fun _ => rfl) (fun _ => rfl)
    rw [hboth] at hset ⊢
    exact Option.some.inj hset ▸ (by decide : VIDEO_STATE.toNat < VIDEO_CAPTURE_STATE.toNat)
  · exact absurd hret (by decide : INVALID_OPERATION ≠ NO_ERROR)

/-- The rollback to the initial state, run to its end. -/
def rolledBackToInitialized (outcome : List Hook → Status) (a : BaseCameraAdapter) :
    BaseCameraAdapter :=
  ((rollbackToInitializedState outcome (a.mAdapterState.toNat + 1) a).getD (NO_ERROR, a)).2

/-- The rollback to the preview state, run to its end. -/
def rolledBackToPreview (outcome : List Hook → Status) (a : BaseCameraAdapter) :
    BaseCameraAdapter :=
  ((rollbackToPreviewState outcome (a.mAdapterState.toNat + 1) a).getD (NO_ERROR, a)).2

/-- The passes that a rollback may still make. -/
def passesLeft (s : Status × BaseCameraAdapter) : ℕ :=
  if s.1 = NO_ERROR then s.2.mAdapterState.toNat + 1 else 0

/-- A pass uses one up. -/
lemma passesLeft_rollbackPass (outcome : List Hook → Status) {s : Status × BaseCameraAdapter}
    (hinit : s.2.mAdapterState ≠ INTIALIZED_STATE) (hret : s.1 = NO_ERROR) :
    passesLeft (rollbackPass outcome s) < passesLeft s := by
  unfold passesLeft
  rw [if_pos hret]
  split_ifs with h
  · have hlt : (rollbackPass outcome s).2.mAdapterState.toNat < s.2.mAdapterState.toNat :=
      rollbackToPreviousState_lt hinit h
    omega
  · omega

/-- **The rollbacks end**, whatever their hooks return. -/
theorem rollback_isSome (outcome : List Hook → Status) (a : BaseCameraAdapter) :
    (rollbackToInitializedState outcome (a.mAdapterState.toNat + 1) a).isSome = true ∧
      (rollbackToPreviewState outcome (a.mAdapterState.toNat + 1) a).isSome = true := by
  constructor
  · refine WhileLoop.isSome_of_measure passesLeft ?_ le_rfl
    intro s hgo
    obtain ⟨hinit, hret⟩ := of_decide_eq_true hgo
    exact passesLeft_rollbackPass outcome hinit hret
  · refine WhileLoop.isSome_of_measure passesLeft ?_ le_rfl
    intro s hgo
    obtain ⟨habove, hret⟩ := of_decide_eq_true hgo
    refine passesLeft_rollbackPass outcome ?_ hret
    intro hinit
    rw [hinit] at habove
    exact absurd habove (by decide)

/-! ### The preview stream -/

/-- The table of the preview buffers. -/
def previewStream (a : BaseCameraAdapter) : CameraStream :=
  a.mStreamHub.mStreams .PREVIEW_STREAM_TYPE

/-- The preview buffers stay as they are or are all dropped. -/
def KeepsOrDrops (a a' : BaseCameraAdapter) : Prop :=
  a'.previewStream = a.previewStream ∨ a'.previewStream = ∅

/-- Nothing is dropped where nothing changes. -/
lemma KeepsOrDrops.refl (a : BaseCameraAdapter) : KeepsOrDrops a a := Or.inl rfl

/-- Dropped buffers do not come back. -/
lemma KeepsOrDrops.trans {a a' a'' : BaseCameraAdapter} (h : KeepsOrDrops a a')
    (h' : KeepsOrDrops a' a'') : KeepsOrDrops a a'' := by
  rcases h' with h' | h'
  · rcases h with h | h
    · exact Or.inl (h'.trans h)
    · exact Or.inr (h'.trans h)
  · exact Or.inr h'

/-- The preview buffers are part of the tables. -/
lemma keepsOrDrops_of_mStreamHub {a a' : BaseCameraAdapter}
    (h : a'.mStreamHub = a.mStreamHub) : KeepsOrDrops a a' := by
  left
  rw [previewStream, h, previewStream]

/-- A hook does not touch the tables. -/
lemma hook_mStreamHub {operation : CameraCommands} {v : CommandValues} {outcome : Status}
    {hook : BaseCameraAdapter → Status × BaseCameraAdapter}
    (hhook : hook? operation v outcome = some hook) (a : BaseCameraAdapter) :
    (hook a).2.mStreamHub = a.mStreamHub := by
  by_cases hret : (hook a).1 = NO_ERROR
  · obtain ⟨hooks, hsame⟩ := hook_succeeds hhook hret
    rw [hsame]
  · obtain ⟨hooks, hsame⟩ := hook_fails hhook hret
    rw [hsame]

/-- A command that does not load preview buffers keeps or drops them. -/
lemma keepsOrDrops_sendCommand {operation : CameraCommands}
    (hop : operation ≠ .CAMERA_USE_BUFFERS_PREVIEW) (v : CommandValues) (outcome : Status)
    (a : BaseCameraAdapter) : KeepsOrDrops a (sendCommand operation v outcome a).2 := by
  have hdrop : ∀ a, KeepsOrDrops a (dropBuffers operation a) := by
    intro a
    rw [KeepsOrDrops, previewStream, dropBuffers_preview]
    split_ifs
    · exact Or.inr rfl
    · exact Or.inl rfl
  by_cases hasks : AsksSetState operation
  · cases hreg : registers? operation with
    | none =>
      obtain ⟨hook, hhook, hsend⟩ := sendCommand_eq_transact v outcome a hasks hreg
      rw [hsend, transact]
      cases setState a.mAdapterState operation with
      | none => exact keepsOrDrops_of_mStreamHub (settle_mStreamHub _ a)
      | some next =>
        have hkept : KeepsOrDrops a (hook { a with mNextState := next }).2 :=
          keepsOrDrops_of_mStreamHub (hook_mStreamHub hhook { a with mNextState := next })
        dsimp only
        refine KeepsOrDrops.trans ?_ (keepsOrDrops_of_mStreamHub (settle_mStreamHub _ _))
        split_ifs
        · exact hkept.trans (hdrop _)
        · exact hkept
    | some st =>
      cases operation
      case CAMERA_USE_BUFFERS_PREVIEW => exact absurd rfl hop
      case CAMERA_USE_BUFFERS_IMAGE_CAPTURE =>
        left
        simp only [sendCommand, useBuffersCommand]
        cases v.desc with
        | none => rfl
        | some d =>
          dsimp only
          rw [previewStream, settle_mStreamHub]
          cases setState a.mAdapterState .CAMERA_USE_BUFFERS_IMAGE_CAPTURE <;> rfl
      all_goals simp [registers?] at hreg
  · cases operation
    case CAMERA_START_FD | CAMERA_STOP_FD | CAMERA_SWITCH_TO_EXECUTING | CAMERA_SET_TIMEOUT |
        CAMERA_CANCEL_TIMEOUT | CAMERA_TIMEOUT_EXPIRED => exact Or.inl rfl
    all_goals exact absurd trivial hasks

/-- Passes keep or drop the preview buffers, whatever the loop condition is. -/
lemma keepsOrDrops_whileLoop (go : Status × BaseCameraAdapter → Bool)
    (outcome : List Hook → Status) (fuel : ℕ) (a : BaseCameraAdapter) :
    KeepsOrDrops a
      ((whileLoop go (rollbackPass outcome) fuel (NO_ERROR, a)).getD (NO_ERROR, a)).2 := by
  have hpass : ∀ s : Status × BaseCameraAdapter, KeepsOrDrops a s.2 →
      KeepsOrDrops a (rollbackPass outcome s).2 := by
    intro s h
    refine h.trans ?_
    unfold rollbackPass rollbackToPreviousState
    split_ifs
    all_goals first
      | exact KeepsOrDrops.refl _
      | exact keepsOrDrops_sendCommand (by decide) _ _ _
  cases hloop : whileLoop go (rollbackPass outcome) fuel (NO_ERROR, a) with
  | none => exact KeepsOrDrops.refl a
  | some s =>
    exact WhileLoop.of_invariant (C := fun s => KeepsOrDrops a s.2) (fun s _ h => hpass s h)
      (KeepsOrDrops.refl a) hloop

/-- The rollbacks keep or drop the preview buffers. -/
lemma keepsOrDrops_rollback (outcome : List Hook → Status) (a : BaseCameraAdapter) :
    KeepsOrDrops a (a.rolledBackToInitialized outcome) ∧
      KeepsOrDrops a (a.rolledBackToPreview outcome) :=
  ⟨keepsOrDrops_whileLoop notInitialized outcome _ a,
    keepsOrDrops_whileLoop abovePreview outcome _ a⟩

/-! ### What a rollback undoes -/

/-- The hooks of the undo commands that lead from a state to the initial one. -/
def undoHooks (w : AdapterState) : List Hook :=
  (if w.Has ZOOM_ACTIVE then [.stopSmoothZoom] else []) ++
    (if w.Has AF_ACTIVE then [.cancelAutoFocus] else []) ++
    (if w.Has CAPTURE_ACTIVE then [.stopImageCapture] else []) ++
    (if w.Has VIDEO_ACTIVE then [.stopVideoCapture] else []) ++ [.stopPreview]

/-- Some hooks succeed when they are called one after the other. -/
def Succeed (outcome : List Hook → Status) : List Hook → List Hook → Prop
  | _, [] => True
  | called, h :: hooks => outcome called = NO_ERROR ∧ Succeed outcome (called ++ [h]) hooks

/-- The adapter can be rolled back from where it is active, after some hooks were called. -/
structure Undoes (outcome : List Hook → Status) (called : List Hook) (a : BaseCameraAdapter) :
    Prop where
  /-- The base state has undo commands. -/
  base : a.mAdapterState.base ∈ unwinding
  /-- In the video states a video is being recorded. -/
  recording : a.mAdapterState.Has VIDEO_ACTIVE → a.mRecording = true
  /-- The hooks of the undo commands succeed. -/
  hooks : Succeed outcome called (undoHooks a.mAdapterState)

/-- A flag that is set costs one hook. -/
lemma undoHooks_ZOOM_ACTIVE {w : AdapterState} (h : w.Has ZOOM_ACTIVE) :
    undoHooks w = .stopSmoothZoom :: undoHooks (w &&& ~~~ZOOM_ACTIVE) := by
  simp only [undoHooks, if_pos h, if_neg (not_has_and_not w ZOOM_ACTIVE),
    has_and_not w (by decide : ~~~ZOOM_ACTIVE &&& AF_ACTIVE = AF_ACTIVE),
    has_and_not w (by decide : ~~~ZOOM_ACTIVE &&& CAPTURE_ACTIVE = CAPTURE_ACTIVE),
    has_and_not w (by decide : ~~~ZOOM_ACTIVE &&& VIDEO_ACTIVE = VIDEO_ACTIVE)]
  rfl

/-- The autofocus flag is cleared once the smooth zoom flag is. -/
lemma undoHooks_AF_ACTIVE {w : AdapterState} (hzoom : ¬ w.Has ZOOM_ACTIVE)
    (h : w.Has AF_ACTIVE) :
    undoHooks w = .cancelAutoFocus :: undoHooks (w &&& ~~~AF_ACTIVE) := by
  simp only [undoHooks, if_pos h, if_neg hzoom, if_neg (not_has_and_not w AF_ACTIVE),
    has_and_not w (by decide : ~~~AF_ACTIVE &&& ZOOM_ACTIVE = ZOOM_ACTIVE),
    has_and_not w (by decide : ~~~AF_ACTIVE &&& CAPTURE_ACTIVE = CAPTURE_ACTIVE),
    has_and_not w (by decide : ~~~AF_ACTIVE &&& VIDEO_ACTIVE = VIDEO_ACTIVE)]
  rfl

/-- A pass has succeeded and left an adapter that can be rolled back. -/
def Continues (outcome : List Hook → Status) (r : Status × BaseCameraAdapter) : Prop :=
  r.1 = NO_ERROR ∧ Undoes outcome r.2.hooks r.2

/-- What a pass may do: where it leads is decided before it. -/
structure UndoPass (outcome : List Hook → Status) (a : BaseCameraAdapter)
    (r : Status × BaseCameraAdapter) : Prop where
  /-- It does not decide whether the adapter ends in its initial state. -/
  base_iff : (r.2.mAdapterState.base = INTIALIZED_STATE ∨ Continues outcome r) ↔
    (a.mAdapterState.base = INTIALIZED_STATE ∨ Undoes outcome a.hooks a)
  /-- It does not decide whether the preview buffers are dropped. -/
  stream_iff : (r.2.previewStream = ∅ ∨ Continues outcome r) ↔
    (a.previewStream = ∅ ∨ Undoes outcome a.hooks a)

/-- A pass that fails changes neither the state nor the preview buffers. -/
lemma undoPass_of_error {outcome : List Hook → Status} {a : BaseCameraAdapter}
    {r : Status × BaseCameraAdapter} (hret : r.1 ≠ NO_ERROR)
    (hstate : r.2.mAdapterState = a.mAdapterState) (hstream : r.2.previewStream = a.previewStream)
    (hnot : ¬ Undoes outcome a.hooks a) : UndoPass outcome a r := by
  have hends : ¬ Continues outcome r := fun h => hret h.1
  constructor
  · rw [or_iff_left hends, or_iff_left hnot, hstate]
  · rw [or_iff_left hends, or_iff_left hnot, hstream]

/-- After a hook that succeeds, the rest is undone if and only if all was to be undone. -/
lemma continues_settle_iff {outcome : List Hook → Status} {a : BaseCameraAdapter} {h : Hook}
    {next : AdapterState} {after : BaseCameraAdapter → BaseCameraAdapter}
    (hafter : ∀ a, (after a).mNextState = a.mNextState ∧ (after a).hooks = a.hooks ∧
      (after a).mRecording = a.mRecording)
    (hout : outcome a.hooks = NO_ERROR)
    (hhooks : undoHooks a.mAdapterState = h :: undoHooks next)
    (hbase : next.base ∈ unwinding ↔ a.mAdapterState.base ∈ unwinding)
    (hvideo : next.Has VIDEO_ACTIVE ↔ a.mAdapterState.Has VIDEO_ACTIVE) :
    Continues outcome (settle NO_ERROR
        (after { a with mNextState := next, hooks := a.hooks ++ [h] })) ↔
      Undoes outcome a.hooks a := by
  obtain ⟨h1, h2, h3⟩ := hafter { a with mNextState := next, hooks := a.hooks ++ [h] }
  have hstate : (settle NO_ERROR (after { a with
      mNextState := next, hooks := a.hooks ++ [h] })).2.mAdapterState = next := by
    rw [settle_mAdapterState, if_pos rfl, h1]
  constructor
  · rintro ⟨-, hu⟩
    refine ⟨hbase.mp (hstate ▸ hu.base), fun hv => ?_, ?_⟩
    · have hrec := hu.recording
      rw [hstate, settle_mRecording, h3] at hrec
      exact hrec (hvideo.mpr hv)
    · have hrest := hu.hooks
      rw [hstate, settle_hooks, h2] at hrest
      rw [hhooks]
      exact ⟨hout, hrest⟩
  · intro hu
    have hall := hu.hooks
    rw [hhooks] at hall
    refine ⟨settle_status _ _, ?_, ?_, ?_⟩
    · rw [hstate]
      exact hbase.mpr hu.base
    · rw [hstate, settle_mRecording, h3]
      exact fun hv => hu.recording (hvideo.mp hv)
    · rw [hstate, settle_hooks, h2]
      exact hall.2

/-- A pass that calls the first hook of those that are left. -/
lemma undoPass_of_hook {outcome : List Hook → Status} {a : BaseCameraAdapter}
    {operation : CameraCommands} {h : Hook} {next : AdapterState}
    {after : BaseCameraAdapter → BaseCameraAdapter}
    (hafter : ∀ a, (after a).mNextState = a.mNextState ∧ (after a).hooks = a.hooks ∧
      (after a).mRecording = a.mRecording ∧ (after a).previewStream = a.previewStream)
    (hset : setState a.mAdapterState operation = some next)
    (hhooks : undoHooks a.mAdapterState = h :: undoHooks next)
    (hbase : next.base ∈ unwinding ↔ a.mAdapterState.base ∈ unwinding)
    (hinit : next.base = INTIALIZED_STATE ↔ a.mAdapterState.base = INTIALIZED_STATE)
    (hvideo : next.Has VIDEO_ACTIVE ↔ a.mAdapterState.Has VIDEO_ACTIVE) :
    UndoPass outcome a (transact operation (callHook h (outcome a.hooks)) after a) := by
  have hsend : transact operation (callHook h (outcome a.hooks)) after a =
      settle (outcome a.hooks) (if outcome a.hooks = NO_ERROR then
        after { a with mNextState := next, hooks := a.hooks ++ [h] }
        else { a with mNextState := next, hooks := a.hooks ++ [h] }) := by
    rw [transact, hset]
    rfl
  rw [hsend]
  by_cases hout : outcome a.hooks = NO_ERROR
  · rw [if_pos hout, hout]
    obtain ⟨h1, -, -, h4⟩ := hafter { a with mNextState := next, hooks := a.hooks ++ [h] }
    have hundoes := continues_settle_iff
      (fun a => ⟨(hafter a).1, (hafter a).2.1, (hafter a).2.2.1⟩) hout hhooks hbase hvideo
    constructor
    · rw [hundoes, settle_mAdapterState, if_pos rfl, h1, hinit]
    · rw [hundoes, previewStream, settle_mStreamHub, ← previewStream, h4]
      rfl
  · rw [if_neg hout]
    refine undoPass_of_error ?_ ?_ ?_ ?_
    · rw [settle_status]
      exact hout
    · rw [settle_mAdapterState, if_neg hout]
    · rw [previewStream, settle_mStreamHub]
      rfl
    · intro hu
      have hfirst := hu.hooks
      rw [hhooks] at hfirst
      exact hout hfirst.1

/-- A command that is rejected. -/
lemma undoPass_of_rejected {outcome : List Hook → Status} {a : BaseCameraAdapter}
    {operation : CameraCommands} {hook : BaseCameraAdapter → Status × BaseCameraAdapter}
    {after : BaseCameraAdapter → BaseCameraAdapter}
    (hset : setState a.mAdapterState operation = none) (hnot : ¬ Undoes outcome a.hooks a) :
    UndoPass outcome a (transact operation hook after a) := by
  rw [transact, hset]
  refine undoPass_of_error ?_ ?_ ?_ hnot
  · rw [settle_status]
    decide
  · rw [settle_mAdapterState, if_neg (by decide)]
  · rw [previewStream, settle_mStreamHub, previewStream]

/-- The pass that clears a flag. -/
lemma undoPass_flag {outcome : List Hook → Status} {a : BaseCameraAdapter}
    {operation : CameraCommands} {flag : AdapterState} {h : Hook}
    (hset : setState a.mAdapterState operation =
      if a.mAdapterState.Has PREVIEW_ACTIVE ∧ a.mAdapterState.Has flag then
        some (a.mAdapterState &&& ~~~flag) else none)
    (hflag : a.mAdapterState.Has flag)
    (hhooks : undoHooks a.mAdapterState = h :: undoHooks (a.mAdapterState &&& ~~~flag))
    (hclear : ~~~flag &&& ~~~FLAGS = ~~~FLAGS) (hvideo : ~~~flag &&& VIDEO_ACTIVE = VIDEO_ACTIVE) :
    UndoPass outcome a (transact operation (callHook h (outcome a.hooks)) id a) := by
  by_cases hp : a.mAdapterState.Has PREVIEW_ACTIVE
  · rw [if_pos ⟨hp, hflag⟩] at hset
    have hbase := base_and_not a.mAdapterState hclear
    exact undoPass_of_hook (fun _ => ⟨rfl, rfl, rfl, rfl⟩) hset hhooks (by rw [hbase])
      (by rw [hbase]) (has_and_not _ hvideo)
  · rw [if_neg fun hc => hp hc.1] at hset
    exact undoPass_of_rejected hset fun hu => hp (has_preview_of_unwinding hu.base)

/-- The pass that stops the preview. -/
lemma undoPass_PREVIEW_STATE (outcome : List Hook → Status) {a : BaseCameraAdapter}
    (hpreview : a.mAdapterState = PREVIEW_STATE) :
    UndoPass outcome a
      (sendCommand .CAMERA_STOP_PREVIEW CommandValues.zero (outcome a.hooks) a) := by
  have hset : setState PREVIEW_STATE .CAMERA_STOP_PREVIEW = some INTIALIZED_STATE := by decide
  simp only [sendCommand, transact, hpreview, hset, callHook]
  by_cases hout : outcome a.hooks = NO_ERROR
  · rw [if_pos hout, hout]
    have hundoes : Undoes outcome a.hooks a := by
      refine ⟨?_, ?_, ?_⟩ <;> rw [hpreview]
      · decide
      · exact fun h => absurd h (by decide)
      · exact ⟨hout, trivial⟩
    refine ⟨iff_of_true (Or.inl ?_) (Or.inr hundoes), iff_of_true (Or.inl rfl) (Or.inr hundoes)⟩
    rw [settle_mAdapterState, if_pos rfl]
    exact (by decide : INTIALIZED_STATE.base = INTIALIZED_STATE)
  · rw [if_neg hout]
    refine undoPass_of_error ?_ ?_ ?_ ?_
    · rw [settle_status]
      exact hout
    · rw [settle_mAdapterState, if_neg hout, hpreview]
    · rw [previewStream, settle_mStreamHub, previewStream]
    · intro hu
      have hfirst := hu.hooks
      rw [hpreview] at hfirst
      exact hout hfirst.1

/-- The pass that stops the video: its hook also fails if no video is being recorded. -/
lemma undoPass_VIDEO_STATE (outcome : List Hook → Status) {a : BaseCameraAdapter}
    (hvideo : a.mAdapterState = VIDEO_STATE) :
    UndoPass outcome a (sendCommand .CAMERA_STOP_VIDEO CommandValues.zero (outcome a.hooks) a) := by
  have hset : setState VIDEO_STATE .CAMERA_STOP_VIDEO = some PREVIEW_STATE := by decide
  simp only [sendCommand, transact, hvideo, hset, stopVideoCapture, callHook]
  by_cases hout : outcome a.hooks = NO_ERROR
  · by_cases hrec : a.mRecording = true
    · simp only [hout, hrec, ne_eq, not_true_eq_false, if_false, Bool.not_true,
        Bool.false_eq_true, if_true, id_eq, settle, commitState]
      have hhooks : undoHooks VIDEO_STATE = .stopVideoCapture :: undoHooks PREVIEW_STATE := by
        decide
      -- the other hooks are those of the preview state
      have hundoes : Continues outcome (NO_ERROR, { a with
          mAdapterState := PREVIEW_STATE, mNextState := PREVIEW_STATE, mRecording := false
          hooks := a.hooks ++ [.stopVideoCapture] }) ↔ Undoes outcome a.hooks a := by
        constructor
        · rintro ⟨-, hu⟩
          refine ⟨?_, fun _ => hrec, ?_⟩ <;> rw [hvideo]
          · decide
          · rw [hhooks]
            exact ⟨hout, hu.hooks⟩
        · intro hu
          have hall := hu.hooks
          rw [hvideo, hhooks] at hall
          exact ⟨rfl, (by decide : PREVIEW_STATE.base ∈ unwinding),
            fun h => absurd h (by decide : ¬ PREVIEW_STATE.Has VIDEO_ACTIVE), hall.2⟩
      constructor
      · rw [hundoes, hvideo]
        exact or_congr_left (iff_of_false (by decide : PREVIEW_STATE.base ≠ INTIALIZED_STATE)
          (by decide))
      · rw [hundoes]
        exact Iff.rfl
    · have hnot : ¬ Undoes outcome a.hooks a := by
        intro hu
        apply hrec
        apply hu.recording
        rw [hvideo]
        decide
      simp only [Bool.not_eq_true] at hrec
      simp only [hout, hrec, ne_eq, not_true_eq_false, if_false, Bool.not_false, if_true]
      refine undoPass_of_error ?_ ?_ ?_ hnot
      · rw [settle_status]
        decide
      · rw [settle_mAdapterState, if_neg (by decide), if_neg (by decide), hvideo]
      · rw [previewStream, settle_mStreamHub, if_neg (by decide), previewStream]
  · have hnot : ¬ Undoes outcome a.hooks a := by
      intro hu
      have hfirst := hu.hooks
      rw [hvideo] at hfirst
      exact hout hfirst.1
    simp only [ne_eq, hout, not_false_eq_true, if_true, if_false]
    refine undoPass_of_error ?_ ?_ ?_ hnot
    · rw [settle_status]
      exact hout
    · rw [settle_mAdapterState, if_neg hout, hvideo]
    · rw [previewStream, settle_mStreamHub, previewStream]

/-- **One pass, whatever its hook returns.** Where a rollback leads is decided before each pass.

**Proof sketch.** A pass calls the first of the hooks that are left. If the hook succeeds, the
others are left; if it fails, or if the state has no undo command, nothing changes. -/
lemma undoPass_rollbackToPreviousState (outcome : List Hook → Status) {a : BaseCameraAdapter}
    (hinit : a.mAdapterState ≠ INTIALIZED_STATE) :
    UndoPass outcome a (rollbackToPreviousState (outcome a.hooks) a) := by
  unfold rollbackToPreviousState
  split_ifs with hzoom haf hpreview hcapture hvideo hboth
  · exact undoPass_flag (setState_STOP_SMOOTH_ZOOM _) hzoom (undoHooks_ZOOM_ACTIVE hzoom)
      (by decide) (by decide)
  · exact undoPass_flag (setState_CANCEL_AUTOFOCUS _) haf (undoHooks_AF_ACTIVE hzoom haf)
      (by decide) (by decide)
  · exact undoPass_PREVIEW_STATE outcome hpreview
  · have hset : setState a.mAdapterState .CAMERA_STOP_IMAGE_CAPTURE = some PREVIEW_STATE := by
      rw [hcapture]
      decide
    rw [sendCommand]
    refine undoPass_of_hook (fun _ => ⟨rfl, rfl, rfl, rfl⟩) hset ?_ ?_ ?_ ?_ <;> rw [hcapture] <;>
      decide
  · exact undoPass_VIDEO_STATE outcome hvideo
  · have hset : setState a.mAdapterState .CAMERA_STOP_IMAGE_CAPTURE = some VIDEO_STATE := by
      rw [hboth]
      decide
    rw [sendCommand]
    refine undoPass_of_hook (fun _ => ⟨rfl, rfl, rfl, rfl⟩) hset ?_ ?_ ?_ ?_ <;> rw [hboth] <;>
      decide
  · refine undoPass_of_error (by decide : INVALID_OPERATION ≠ NO_ERROR) rfl rfl fun hu => ?_
    have hbase := hu.base
    rw [base_eq_self _ haf hzoom] at hbase
    simp [unwinding, hpreview, hcapture, hvideo, hboth] at hbase

/-- **Where a rollback leads.** Whatever the hooks return, the adapter ends in its initial state,
or with its preview buffers dropped, exactly if it was so before or the hooks of its undo commands
succeed down to the preview.

**Proof sketch.** No pass decides it. At the end of the loop nothing is left to be undone: a pass
has failed or the state is the initial one. -/
theorem rolledBackToInitialized_iff (outcome : List Hook → Status) (a : BaseCameraAdapter) :
    ((a.rolledBackToInitialized outcome).mAdapterState.base = INTIALIZED_STATE ↔
      a.mAdapterState.base = INTIALIZED_STATE ∨ Undoes outcome a.hooks a) ∧
    ((a.rolledBackToInitialized outcome).previewStream = ∅ ↔
      a.previewStream = ∅ ∨ Undoes outcome a.hooks a) := by
  obtain ⟨s, hloop⟩ := Option.isSome_iff_exists.mp (rollback_isSome outcome a).1
  have hends : a.rolledBackToInitialized outcome = s.2 := by
    rw [rolledBackToInitialized, hloop]
    rfl
  have hstart : ∀ a : BaseCameraAdapter,
      Continues outcome (NO_ERROR, a) ↔ Undoes outcome a.hooks a := fun a => and_iff_right rfl
  have hpass : UndoPass outcome a s := by
    refine WhileLoop.of_invariant (C := UndoPass outcome a) ?_ ?_ hloop
    · rintro ⟨ret, b⟩ hgo hb
      obtain ⟨hinit, rfl⟩ := of_decide_eq_true hgo
      have hnext : UndoPass outcome b (rollbackPass outcome (NO_ERROR, b)) :=
        undoPass_rollbackToPreviousState outcome hinit
      have hbase := hb.base_iff
      have hstream := hb.stream_iff
      rw [hstart] at hbase hstream
      exact ⟨hnext.base_iff.trans hbase, hnext.stream_iff.trans hstream⟩
    · refine ⟨?_, ?_⟩ <;> rw [hstart]
  have hover : ¬ Continues outcome s := by
    rintro ⟨hret, hu⟩
    have hgo := WhileLoop.go_eq_false hloop
    simp only [notInitialized, decide_eq_false_iff_not, not_and] at hgo
    have hinit : s.2.mAdapterState = INTIALIZED_STATE := not_not.mp fun hne => hgo hne hret
    have hbase := hu.base
    rw [hinit] at hbase
    exact absurd hbase (by decide)
  rw [hends]
  have hbase := hpass.base_iff
  have hstream := hpass.stream_iff
  rw [or_iff_left hover] at hbase hstream
  exact ⟨hbase, hstream⟩

/-- Loading preview buffers replaces the table exactly if `setState` accepts the command. The status
is that of the hook. -/
lemma sendCommand_USE_BUFFERS_PREVIEW (d : BuffersDescriptor) (v : CommandValues)
    (hv : v.desc = some d) (outcome : Status) (a : BaseCameraAdapter) :
    (sendCommand .CAMERA_USE_BUFFERS_PREVIEW v outcome a).1 = outcome ∧
      (sendCommand .CAMERA_USE_BUFFERS_PREVIEW v outcome a).2.previewStream =
        if (setState a.mAdapterState .CAMERA_USE_BUFFERS_PREVIEW).isSome then
          registerBuffers d .PREVIEW_FRAME_SYNC
        else a.previewStream := by
  simp only [sendCommand, useBuffersCommand, hv, previewStream]
  constructor
  · exact settle_status _ _
  · rw [settle_mStreamHub]
    cases setState a.mAdapterState .CAMERA_USE_BUFFERS_PREVIEW <;> rfl

/-- Loaded preview buffers can be used: only the hook can fail. -/
lemma sendCommand_START_PREVIEW (v : CommandValues) (outcome : Status) {a : BaseCameraAdapter}
    (h : a.mAdapterState = LOADED_PREVIEW_STATE) :
    (sendCommand .CAMERA_START_PREVIEW v outcome a).1 = outcome := by
  have hset : setState LOADED_PREVIEW_STATE .CAMERA_START_PREVIEW = some PREVIEW_STATE := by
    decide
  simp only [sendCommand, transact, h, hset]
  exact settle_status _ _

/-- Starting the preview leaves the preview buffers as they are. -/
lemma previewStream_sendCommand_START_PREVIEW (v : CommandValues) (outcome : Status)
    (a : BaseCameraAdapter) :
    (sendCommand .CAMERA_START_PREVIEW v outcome a).2.previewStream = a.previewStream := by
  simp only [sendCommand, transact, previewStream]
  cases setState a.mAdapterState .CAMERA_START_PREVIEW with
  | none =>
    dsimp only
    rw [settle_mStreamHub]
  | some next =>
    dsimp only
    rw [settle_mStreamHub]
    split_ifs <;> rfl

/-- After preview buffers are loaded, the preview can be started: only its hook can fail. -/
lemma sendCommand_START_PREVIEW_of_loaded (v v' : CommandValues) {outcome : Status}
    {d : BuffersDescriptor} (hv : v.desc = some d) {a : BaseCameraAdapter}
    (haccept : (setState a.mAdapterState .CAMERA_USE_BUFFERS_PREVIEW).isSome = true)
    (hout : outcome = NO_ERROR) (outcome' : Status) :
    (sendCommand .CAMERA_START_PREVIEW v' outcome'
      (sendCommand .CAMERA_USE_BUFFERS_PREVIEW v outcome a).2).1 = outcome' := by
  obtain ⟨next, hset⟩ := Option.isSome_iff_exists.mp haccept
  have hnext : next = LOADED_PREVIEW_STATE := by
    rw [setState_USE_BUFFERS_PREVIEW] at hset
    split_ifs at hset
    exact (Option.some.inj hset).symm
  have hstate : (sendCommand .CAMERA_USE_BUFFERS_PREVIEW v outcome a).2.mAdapterState =
      LOADED_PREVIEW_STATE := by
    simp only [sendCommand, useBuffersCommand, hv, hset, callHook]
    rw [settle_mAdapterState, if_pos hout, ← hnext]
    rfl
  exact sendCommand_START_PREVIEW v' outcome' hstate

end BaseCameraAdapter

end CameraHal
