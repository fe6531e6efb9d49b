import Mathlib.Data.BitVec
import Gs702aHal.Camera.Types

set_option relaxedAutoImplicit false
set_option autoImplicit false

/-!
# The state word of the camera adapter

`CameraAdapter::AdapterState` is a word of activity bits. `BaseCameraAdapter::setState` decides
which commands a state accepts and which state follows; autofocus and smooth zoom are two bits
beside the base state that most transitions carry over.

## Main definitions

* `CameraHal.AdapterState`, `CameraHal.CameraCommands` — the state words and the commands.
* `CameraHal.AdapterState.setState` — the transition table.

## Main results

* `CameraHal.AdapterState.setState_STOP_SMOOTH_ZOOM`,
  `CameraHal.AdapterState.setState_CANCEL_AUTOFOCUS` — when the two flags can be cleared, for
  every word.
* `CameraHal.AdapterState.setState_valid` — the states that the table leads to, and the bits
  that each command changes.
-/

namespace CameraHal

/-- `CameraAdapter::CameraCommands`. -/
inductive CameraCommands
  | CAMERA_START_PREVIEW
  | CAMERA_STOP_PREVIEW
  | CAMERA_START_VIDEO
  | CAMERA_STOP_VIDEO
  | CAMERA_START_IMAGE_CAPTURE
  | CAMERA_STOP_IMAGE_CAPTURE
  | CAMERA_PERFORM_AUTOFOCUS
  | CAMERA_CANCEL_AUTOFOCUS
  | CAMERA_PREVIEW_FLUSH_BUFFERS
  | CAMERA_START_SMOOTH_ZOOM
  | CAMERA_STOP_SMOOTH_ZOOM
  | CAMERA_USE_BUFFERS_PREVIEW
  | CAMERA_SET_TIMEOUT
  | CAMERA_CANCEL_TIMEOUT
  | CAMERA_QUERY_RESOLUTION_PREVIEW
  | CAMERA_QUERY_BUFFER_SIZE_IMAGE_CAPTURE
  | CAMERA_USE_BUFFERS_IMAGE_CAPTURE
  | CAMERA_TIMEOUT_EXPIRED
  | CAMERA_START_FD
  | CAMERA_STOP_FD
  | CAMERA_SWITCH_TO_EXECUTING
  deriving DecidableEq, Repr

namespace CameraCommands

/-- The commands, in the order of their values. -/
def all : List CameraCommands :=
  [CAMERA_START_PREVIEW, CAMERA_STOP_PREVIEW, CAMERA_START_VIDEO, CAMERA_STOP_VIDEO,
    CAMERA_START_IMAGE_CAPTURE, CAMERA_STOP_IMAGE_CAPTURE, CAMERA_PERFORM_AUTOFOCUS,
    CAMERA_CANCEL_AUTOFOCUS, CAMERA_PREVIEW_FLUSH_BUFFERS, CAMERA_START_SMOOTH_ZOOM,
    CAMERA_STOP_SMOOTH_ZOOM, CAMERA_USE_BUFFERS_PREVIEW, CAMERA_SET_TIMEOUT,
    CAMERA_CANCEL_TIMEOUT, CAMERA_QUERY_RESOLUTION_PREVIEW,
    CAMERA_QUERY_BUFFER_SIZE_IMAGE_CAPTURE, CAMERA_USE_BUFFERS_IMAGE_CAPTURE,
    CAMERA_TIMEOUT_EXPIRED, CAMERA_START_FD, CAMERA_STOP_FD, CAMERA_SWITCH_TO_EXECUTING]

/-- Every command is listed. -/
lemma mem_all (op : CameraCommands) : op ∈ all := by cases op <;> decide

end CameraCommands

/-- `CameraAdapter::AdapterState`, a word of activity bits. -/
abbrev AdapterState := BitVec 32

namespace AdapterState

/-- `INTIALIZED_ACTIVE`. -/
def INTIALIZED_ACTIVE : AdapterState := 1#32 <<< 0
/-- `LOADED_PREVIEW_ACTIVE`. -/
def LOADED_PREVIEW_ACTIVE : AdapterState := 1#32 <<< 1
/-- `PREVIEW_ACTIVE`. -/
def PREVIEW_ACTIVE : AdapterState := 1#32 <<< 2
/-- `LOADED_CAPTURE_ACTIVE`. -/
def LOADED_CAPTURE_ACTIVE : AdapterState := 1#32 <<< 3
/-- `CAPTURE_ACTIVE`. -/
def CAPTURE_ACTIVE : AdapterState := 1#32 <<< 4
/-- `VIDEO_ACTIVE`. -/
def VIDEO_ACTIVE : AdapterState := 1#32 <<< 5
/-- `AF_ACTIVE`. -/
def AF_ACTIVE : AdapterState := 1#32 <<< 6
/-- `ZOOM_ACTIVE`. -/
def ZOOM_ACTIVE : AdapterState := 1#32 <<< 7

/-- `INTIALIZED_STATE`. -/
def INTIALIZED_STATE : AdapterState := INTIALIZED_ACTIVE
/-- `LOADED_PREVIEW_STATE`. -/
def LOADED_PREVIEW_STATE : AdapterState := LOADED_PREVIEW_ACTIVE ||| INTIALIZED_ACTIVE
/-- `PREVIEW_STATE`. -/
def PREVIEW_STATE : AdapterState := PREVIEW_ACTIVE ||| INTIALIZED_ACTIVE
/-- `LOADED_CAPTURE_STATE`. -/
def LOADED_CAPTURE_STATE : AdapterState :=
  LOADED_CAPTURE_ACTIVE ||| PREVIEW_ACTIVE ||| INTIALIZED_ACTIVE
/-- `CAPTURE_STATE`. -/
def CAPTURE_STATE : AdapterState := CAPTURE_ACTIVE ||| PREVIEW_ACTIVE ||| INTIALIZED_ACTIVE
/-- `VIDEO_STATE`. -/
def VIDEO_STATE : AdapterState := VIDEO_ACTIVE ||| PREVIEW_ACTIVE ||| INTIALIZED_ACTIVE
/-- `VIDEO_LOADED_CAPTURE_STATE`. -/
def VIDEO_LOADED_CAPTURE_STATE : AdapterState :=
  VIDEO_ACTIVE ||| LOADED_CAPTURE_ACTIVE ||| PREVIEW_ACTIVE ||| INTIALIZED_ACTIVE
/-- `VIDEO_CAPTURE_STATE`. -/
def VIDEO_CAPTURE_STATE : AdapterState :=
  VIDEO_ACTIVE ||| CAPTURE_ACTIVE ||| PREVIEW_ACTIVE ||| INTIALIZED_ACTIVE

/-- The bits of autofocus and smooth zoom. -/
def FLAGS : AdapterState := AF_ACTIVE ||| ZOOM_ACTIVE

/-- A bit, or one of several bits, is set. -/
def Has (w bits : AdapterState) : Prop := w &&& bits ≠ 0

instance (w bits : AdapterState) : Decidable (Has w bits) :=
  inferInstanceAs (Decidable (_ ≠ _))

/-- The base state: the word without its flags. -/
def base (w : AdapterState) : AdapterState := w &&& ~~~FLAGS

/-- The first switch of `setState`, over the base state. -/
def baseTransition (w : AdapterState) (operation : CameraCommands) : Option AdapterState :=
  if w.base = INTIALIZED_STATE then
    match operation with
    | .CAMERA_USE_BUFFERS_PREVIEW => some LOADED_PREVIEW_STATE
    | .CAMERA_QUERY_RESOLUTION_PREVIEW
    | .CAMERA_QUERY_BUFFER_SIZE_IMAGE_CAPTURE => some INTIALIZED_STATE
    | _ => none
  else if w.base = LOADED_PREVIEW_STATE then
    match operation with
    | .CAMERA_START_PREVIEW => some PREVIEW_STATE
    | .CAMERA_STOP_PREVIEW => some INTIALIZED_STATE
    | .CAMERA_QUERY_BUFFER_SIZE_IMAGE_CAPTURE => some LOADED_PREVIEW_STATE
    | _ => none
  else if w.base = PREVIEW_STATE then
    match operation with
    | .CAMERA_STOP_PREVIEW => if w.Has FLAGS then none else some INTIALIZED_STATE
    | .CAMERA_USE_BUFFERS_IMAGE_CAPTURE => some (LOADED_CAPTURE_STATE ||| (w &&& FLAGS))
    | .CAMERA_START_VIDEO => some (VIDEO_STATE ||| (w &&& FLAGS))
    | .CAMERA_QUERY_BUFFER_SIZE_IMAGE_CAPTURE => some (PREVIEW_STATE ||| (w &&& FLAGS))
    | _ => none
  else if w.base = LOADED_CAPTURE_STATE then
    match operation with
    | .CAMERA_START_IMAGE_CAPTURE => some (CAPTURE_STATE ||| (w &&& FLAGS))
    | _ => none
  else if w.base = CAPTURE_STATE then
    match operation with
    | .CAMERA_STOP_IMAGE_CAPTURE => some (PREVIEW_STATE ||| (w &&& FLAGS))
    | _ => none
  else if w.base = VIDEO_STATE then
    match operation with
    | .CAMERA_STOP_VIDEO => some (PREVIEW_STATE ||| (w &&& FLAGS))
    | .CAMERA_USE_BUFFERS_IMAGE_CAPTURE => some (VIDEO_LOADED_CAPTURE_STATE ||| (w &&& FLAGS))
    | .CAMERA_QUERY_BUFFER_SIZE_IMAGE_CAPTURE => some (VIDEO_STATE ||| (w &&& FLAGS))
    | _ => none
  else if w.base = VIDEO_LOADED_CAPTURE_STATE then
    match operation with
    | .CAMERA_START_IMAGE_CAPTURE => some (VIDEO_CAPTURE_STATE ||| (w &&& FLAGS))
    | _ => none
  else if w.base = VIDEO_CAPTURE_STATE then
    match operation with
    | .CAMERA_STOP_IMAGE_CAPTURE => some (VIDEO_STATE ||| (w &&& FLAGS))
    | _ => none
  else none

/-- The second switch, over the autofocus flag. -/
def focusTransition (w : AdapterState) (operation : CameraCommands) : Option AdapterState :=
  if w.Has AF_ACTIVE then
    match operation with
    | .CAMERA_CANCEL_AUTOFOCUS => some (w &&& ~~~AF_ACTIVE)
    | _ => none
  else
    match operation with
    | .CAMERA_PERFORM_AUTOFOCUS => some (w ||| AF_ACTIVE)
    | _ => none

/-- The third switch, over the smooth zoom flag. -/
def zoomTransition (w : AdapterState) (operation : CameraCommands) : Option AdapterState :=
  if w.Has ZOOM_ACTIVE then
    match operation with
    | .CAMERA_STOP_SMOOTH_ZOOM => some (w &&& ~~~ZOOM_ACTIVE)
    | _ => none
  else
    match operation with
    | .CAMERA_START_SMOOTH_ZOOM => some (w ||| ZOOM_ACTIVE)
    | _ => none

/-- `setState`: the next state, or `none` for `INVALID_OPERATION`. The flags are tried once the
base state has rejected the command, and only while the preview is active. -/
def setState (w : AdapterState) (operation : CameraCommands) : Option AdapterState :=
  match baseTransition w operation with
  | some next => some next
  | none =>
    if w.Has PREVIEW_ACTIVE then
      match focusTransition w operation with
      | some next => some next
      | none => zoomTransition w operation
    else none

/-! ### The flags of an arbitrary word -/

section Flags

variable (w : AdapterState)

/-- Clearing the smooth zoom flag. -/
lemma setState_STOP_SMOOTH_ZOOM :
    setState w .CAMERA_STOP_SMOOTH_ZOOM =
      if w.Has PREVIEW_ACTIVE ∧ w.Has ZOOM_ACTIVE then some (w &&& ~~~ZOOM_ACTIVE) else none := by
  have hbase : baseTransition w .CAMERA_STOP_SMOOTH_ZOOM = none := by
    unfold baseTransition
    simp only [ite_self]
  have hfocus : focusTransition w .CAMERA_STOP_SMOOTH_ZOOM = none := by
    unfold focusTransition
    simp only [ite_self]
  simp only [setState, hbase, hfocus, zoomTransition]
  by_cases hp : w.Has PREVIEW_ACTIVE <;> by_cases hz : w.Has ZOOM_ACTIVE <;> simp [hp, hz]

/-- Clearing the autofocus flag. -/
lemma setState_CANCEL_AUTOFOCUS :
    setState w .CAMERA_CANCEL_AUTOFOCUS =
      if w.Has PREVIEW_ACTIVE ∧ w.Has AF_ACTIVE then some (w &&& ~~~AF_ACTIVE) else none := by
  have hbase : baseTransition w .CAMERA_CANCEL_AUTOFOCUS = none := by
    unfold baseTransition
    simp only [ite_self]
  have hzoom : zoomTransition w .CAMERA_CANCEL_AUTOFOCUS = none := by
    unfold zoomTransition
    simp only [ite_self]
  simp only [setState, hbase, hzoom, focusTransition]
  by_cases hp : w.Has PREVIEW_ACTIVE <;> by_cases ha : w.Has AF_ACTIVE <;> simp [hp, ha]

/-- A command that only the initial state accepts. -/
lemma setState_of_initialized {operation : CameraCommands} {next : AdapterState}
    (hbase : baseTransition w operation = if w.base = INTIALIZED_STATE then some next else none)
    (hfocus : focusTransition w operation = none) (hzoom : zoomTransition w operation = none) :
    setState w operation = if w.base = INTIALIZED_STATE then some next else none := by
  simp only [setState, hbase, hfocus, hzoom]
  by_cases h : w.base = INTIALIZED_STATE <;> simp [h]

/-- Preview buffers are loaded from the initial state only. -/
lemma setState_USE_BUFFERS_PREVIEW :
    setState w .CAMERA_USE_BUFFERS_PREVIEW =
      if w.base = INTIALIZED_STATE then some LOADED_PREVIEW_STATE else none := by
  apply setState_of_initialized
  · unfold baseTransition
    simp only [ite_self]
  · unfold focusTransition
    simp only [ite_self]
  · unfold zoomTransition
    simp only [ite_self]

/-- The resolution of the preview is queried in the initial state only. -/
lemma setState_QUERY_RESOLUTION_PREVIEW :
    setState w .CAMERA_QUERY_RESOLUTION_PREVIEW =
      if w.base = INTIALIZED_STATE then some INTIALIZED_STATE else none := by
  apply setState_of_initialized
  · unfold baseTransition
    simp only [ite_self]
  · unfold focusTransition
    simp only [ite_self]
  · unfold zoomTransition
    simp only [ite_self]

/-- Clearing one of the flags keeps the base state. -/
lemma base_and_not {flag : AdapterState} (h : ~~~flag &&& ~~~FLAGS = ~~~FLAGS) :
    (w &&& ~~~flag).base = w.base := by
  rw [base, base, BitVec.and_assoc, h]

/-- Bits outside of the flags are those of the base state. -/
lemma has_base {bits : AdapterState} (h : ~~~FLAGS &&& bits = bits) :
    Has w.base bits ↔ w.Has bits := by
  rw [Has, Has, base, BitVec.and_assoc, h]

/-- Clearing some bits leaves the others. -/
lemma has_and_not {flag bits : AdapterState} (h : ~~~flag &&& bits = bits) :
    (w &&& ~~~flag).Has bits ↔ w.Has bits := by
  rw [Has, Has, BitVec.and_assoc, h]

/-- Cleared bits are clear. -/
lemma not_has_and_not (flag : AdapterState) : ¬ (w &&& ~~~flag).Has flag := by
  rw [Has, BitVec.and_assoc, BitVec.and_comm (~~~flag), BitVec.and_not_self]
  simp

/-- A word without flags is its base state. -/
lemma base_eq_self (ha : ¬ w.Has AF_ACTIVE) (hz : ¬ w.Has ZOOM_ACTIVE) : w.base = w := by
  have hall : w &&& (~~~FLAGS ||| (AF_ACTIVE ||| ZOOM_ACTIVE)) = w := by
    rw [show ~~~FLAGS ||| (AF_ACTIVE ||| ZOOM_ACTIVE) = BitVec.allOnes 32 by decide,
      BitVec.and_allOnes]
  rw [BitVec.and_or_distrib_left, BitVec.and_or_distrib_left, not_not.mp ha, not_not.mp hz] at hall
  simpa [base] using hall

end Flags

/-! ### The states of the table -/

/-- The states that the table leads to: the base states, with any flags while the preview is
active. -/
def valid : List AdapterState :=
  [INTIALIZED_STATE, LOADED_PREVIEW_STATE] ++
    [PREVIEW_STATE, LOADED_CAPTURE_STATE, CAPTURE_STATE, VIDEO_STATE, VIDEO_LOADED_CAPTURE_STATE,
      VIDEO_CAPTURE_STATE].flatMap fun b => [b, b ||| AF_ACTIVE, b ||| ZOOM_ACTIVE, b ||| FLAGS]

/-- What an accepted command does to the bits that go with the recording flag and with the
stream tables. -/
structure Follows (w : AdapterState) (operation : CameraCommands) (next : AdapterState) :
    Prop where
  /-- The table leads to its states. -/
  next_valid : next ∈ valid
  /-- The video bit is changed by the two video commands. -/
  video : if operation = .CAMERA_START_VIDEO then ¬ w.Has VIDEO_ACTIVE ∧ next.Has VIDEO_ACTIVE
    else if operation = .CAMERA_STOP_VIDEO then w.Has VIDEO_ACTIVE ∧ ¬ next.Has VIDEO_ACTIVE
    else (next.Has VIDEO_ACTIVE ↔ w.Has VIDEO_ACTIVE)
  /-- The capture bits are set with the image buffers and stay until the capture is stopped. -/
  capture : operation = .CAMERA_STOP_IMAGE_CAPTURE ∨
    (operation = .CAMERA_USE_BUFFERS_IMAGE_CAPTURE ∨
      w.Has (LOADED_CAPTURE_ACTIVE ||| CAPTURE_ACTIVE) →
        next.Has (LOADED_CAPTURE_ACTIVE ||| CAPTURE_ACTIVE))
  /-- The preview bits are set with the preview buffers and stay until the preview is stopped. -/
  preview : operation = .CAMERA_STOP_PREVIEW ∨
    (operation = .CAMERA_USE_BUFFERS_PREVIEW ∨
      w.Has (LOADED_PREVIEW_ACTIVE ||| PREVIEW_ACTIVE) →
        next.Has (LOADED_PREVIEW_ACTIVE ||| PREVIEW_ACTIVE))

instance (w : AdapterState) (operation : CameraCommands) (next : AdapterState) :
    Decidable (Follows w operation next) :=
  decidable_of_iff
    (next ∈ valid ∧
      (if operation = .CAMERA_START_VIDEO then ¬ w.Has VIDEO_ACTIVE ∧ next.Has VIDEO_ACTIVE
        else if operation = .CAMERA_STOP_VIDEO then w.Has VIDEO_ACTIVE ∧ ¬ next.Has VIDEO_ACTIVE
        else (next.Has VIDEO_ACTIVE ↔ w.Has VIDEO_ACTIVE)) ∧
      (operation = .CAMERA_STOP_IMAGE_CAPTURE ∨
        (operation = .CAMERA_USE_BUFFERS_IMAGE_CAPTURE ∨
          w.Has (LOADED_CAPTURE_ACTIVE ||| CAPTURE_ACTIVE) →
            next.Has (LOADED_CAPTURE_ACTIVE ||| CAPTURE_ACTIVE))) ∧
      (operation = .CAMERA_STOP_PREVIEW ∨
        (operation = .CAMERA_USE_BUFFERS_PREVIEW ∨
          w.Has (LOADED_PREVIEW_ACTIVE ||| PREVIEW_ACTIVE) →
            next.Has (LOADED_PREVIEW_ACTIVE ||| PREVIEW_ACTIVE))))
    ⟨fun h => ⟨h.1, h.2.1, h.2.2.1, h.2.2.2⟩, fun h => ⟨h.1, h.2, h.3, h.4⟩⟩

/-- **The table, from its own states.** Every accepted command leads to a state of the table and
changes the bits that it should. -/
theorem setState_valid {w next : AdapterState} {operation : CameraCommands} (hw : w ∈ valid)
    (h : setState w operation = some next) : Follows w operation next := by
  have htable : valid.all fun w => CameraCommands.all.all fun operation =>
      (setState w operation).all fun next => Follows w operation next := by decide +kernel
  have hop := List.all_eq_true.mp (List.all_eq_true.mp htable w hw) operation operation.mem_all
  exact of_decide_eq_true ((Option.all_eq_true _ _).mp hop next h)

end AdapterState

end CameraHal
