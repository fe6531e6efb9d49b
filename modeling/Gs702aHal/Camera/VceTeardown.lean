import Gs702aHal.Lib.KeyedVector
import Gs702aHal.Camera.Types

set_option relaxedAutoImplicit false
set_option autoImplicit false

/-!
# The teardown of the encoder component

`OMXVce::freeOmxHandle` switches the component to Loaded before it frees the handle, and the
switches (`switchToLoaded`, `switchToExec`, `execToIdle`) free the handle when one of their steps
fails: the functions are mutually recursive. They are run here with fuel, against any behaviour of
the component.

A switch runs at most once at each level of the recursion, so the component's behaviour is given
by one record for each level: the outcome of every registration, command and wait, and what the
callbacks on the component's thread have made of `mComponentState` before each test of it.

## Main definitions

* `CameraHal.OMXVce` — the state that the switches use, with the calls made so far.
* `CameraHal.OMXVce.freeOmxHandle`, `CameraHal.OMXVce.switchToLoaded`,
  `CameraHal.OMXVce.switchToExec`, `CameraHal.OMXVce.execToIdle` — the functions of the source.
* `CameraHal.OMXVce.FreesOnce` — what a teardown should do.
* `CameraHal.OMXVce.Settles` — the component does not refuse every attempt.

## Main results

* `CameraHal.OMXVce.freeOmxHandle_eq_none`, `CameraHal.OMXVce.freeOmxHandle_eq_some` — the
  recursion, level by level.
* `CameraHal.OMXVce.teardown_iff` — the functions return, and free the handle once, exactly if the
  component does not refuse every attempt.
-/

namespace CameraHal

namespace Status

/-- `NAME_NOT_FOUND`, which is `-ENOENT`. -/
def NAME_NOT_FOUND : Status := -2#32
/-- `PERMISSION_DENIED`, which is `-EPERM`. -/
def PERMISSION_DENIED : Status := -1#32
/-- `TIMED_OUT`, which is `-ETIMEDOUT`. -/
def TIMED_OUT : Status := -110#32
/-- `FAILED_TRANSACTION`. -/
def FAILED_TRANSACTION : Status := 0x80000002#32

end Status

open Status

/-- `OMX_STATETYPE`. -/
inductive OMX_STATETYPE
  | OMX_StateInvalid
  | OMX_StateLoaded
  | OMX_StateIdle
  | OMX_StateExecuting
  | OMX_StatePause
  | OMX_StateWaitForResources
  deriving DecidableEq, Repr

/-- `OMX_ERRORTYPE`, as far as the code tells the errors apart. -/
inductive OMX_ERRORTYPE
  | OMX_ErrorNone
  | OMX_ErrorBadParameter
  | OMX_ErrorInvalidComponentName
  | OMX_ErrorUndefined
  | OMX_ErrorStreamCorrupt
  | OMX_ErrorPortsNotCompatible
  | OMX_ErrorVersionMismatch
  | OMX_ErrorMbErrorsInFrame
  | OMX_ErrorInsufficientResources
  | OMX_ErrorComponentNotFound
  | OMX_ErrorNotImplemented
  | OMX_ErrorFormatNotDetected
  | OMX_ErrorUnsupportedSetting
  | OMX_ErrorUnderflow
  | OMX_ErrorOverflow
  | OMX_ErrorUnsupportedIndex
  | OMX_ErrorBadPortIndex
  | OMX_ErrorHardware
  | OMX_ErrorTimeout
  | OMX_ErrorSameState
  | OMX_ErrorIncorrectStateTransition
  | OMX_ErrorIncorrectStateOperation
  | OMX_ErrorTunnelingUnsupported
  | other
  deriving DecidableEq, Repr

/-- `ErrorUtils::omxToAndroidError`. -/
def omxToAndroidError : OMX_ERRORTYPE → Status
  | .OMX_ErrorNone => NO_ERROR
  | .OMX_ErrorBadParameter | .OMX_ErrorInvalidComponentName | .OMX_ErrorUndefined
  | .OMX_ErrorStreamCorrupt | .OMX_ErrorPortsNotCompatible | .OMX_ErrorVersionMismatch
  | .OMX_ErrorMbErrorsInFrame => BAD_VALUE
  | .OMX_ErrorInsufficientResources => NO_MEMORY
  | .OMX_ErrorComponentNotFound | .OMX_ErrorNotImplemented | .OMX_ErrorFormatNotDetected
  | .OMX_ErrorUnsupportedSetting => NAME_NOT_FOUND
  | .OMX_ErrorUnderflow | .OMX_ErrorOverflow | .OMX_ErrorUnsupportedIndex
  | .OMX_ErrorBadPortIndex => BAD_INDEX
  | .OMX_ErrorHardware => FAILED_TRANSACTION
  | .OMX_ErrorTimeout => TIMED_OUT
  | .OMX_ErrorSameState | .OMX_ErrorIncorrectStateTransition
  | .OMX_ErrorIncorrectStateOperation => PERMISSION_DENIED
  | .OMX_ErrorTunnelingUnsupported => INVALID_OPERATION
  | .other => UNKNOWN_ERROR

/-- Errors of the component stay errors. -/
@[simp] lemma omxToAndroidError_eq_NO_ERROR (e : OMX_ERRORTYPE) :
    omxToAndroidError e = NO_ERROR ↔ e = .OMX_ErrorNone := by
  cases e <;> decide

/-- The calls of the OMX core that are made with the component's handle. -/
inductive OmxCall
  | stateSet (state : OMX_STATETYPE)
  | portDisable (port : ℕ)
  | portEnable (port : ℕ)
  | freeBuffer (port : ℕ) (header : Ptr)
  | freeHandle
  deriving DecidableEq, Repr

/-- The state that the switches use. -/
structure OMXVce where
  /-- The component's handle, `none` being `NULL`. -/
  mOmxHandle : Option Ptr
  mComponentState : OMX_STATETYPE
  mInputPortIndex : ℕ
  mOutputPortIndex : ℕ
  mInputPortEnable : Bool
  mOutputPortEnable : Bool
  /-- The headers of the input buffers, by buffer handle. -/
  mInputBufferMap : KeyedVector Ptr Ptr
  /-- The headers of the output buffers, by address. -/
  mOutputBufferMap : KeyedVector Ptr Ptr
  /-- The calls so far with the handle that each was made with, the latest last. -/
  calls : List (OmxCall × Option Ptr)
  deriving DecidableEq

/-- The component's part in one change of its state. -/
structure SwitchAnswer where
  /-- The status of `RegisterForEvent`. -/
  registered : Status
  /-- The answer to the command. -/
  command : OMX_ERRORTYPE
  /-- The status of the wait for the event. -/
  wait : Status
  deriving DecidableEq

/-- The change of state goes through. -/
def SwitchAnswer.succeeds (b : SwitchAnswer) : Bool :=
  b.registered = NO_ERROR && b.command = .OMX_ErrorNone && b.wait = NO_ERROR

/-- The component's part in disabling a port, whose buffers are freed in between. -/
structure DisableAnswer extends SwitchAnswer where
  /-- The answers to `OMX_FreeBuffer`, by header. -/
  freeBuffer : Ptr → OMX_ERRORTYPE

/-- The component's part in one run of `switchToLoaded`. -/
structure LoadedAnswer where
  /-- What the callbacks have set `mComponentState` to before it is compared with Executing. -/
  first : Option OMX_STATETYPE
  toIdle : SwitchAnswer
  /-- What they have set it to before it is compared with Idle. -/
  second : Option OMX_STATETYPE
  disableInput : DisableAnswer
  disableOutput : DisableAnswer
  toLoaded : SwitchAnswer
  enableInput : OMX_ERRORTYPE
  enableOutput : OMX_ERRORTYPE

/-- The component's part in one run of `switchToExec`. -/
structure ExecAnswer where
  /-- What the callbacks have set `mComponentState` to before it is compared with Executing. -/
  first : Option OMX_STATETYPE
  /-- What they have set it to before it is compared with Loaded. -/
  second : Option OMX_STATETYPE
  disableInput : DisableAnswer
  disableOutput : DisableAnswer
  toIdle : SwitchAnswer
  /-- What they have set it to before it is compared with Idle. -/
  third : Option OMX_STATETYPE
  toExec : SwitchAnswer

/-- The component's part in one run of `execToIdle`. -/
structure IdleAnswer where
  /-- What the callbacks have set `mComponentState` to before it is compared with Executing. -/
  first : Option OMX_STATETYPE
  toIdle : SwitchAnswer

/-- A command is answered, and its event comes. -/
def SwitchAnswer.prompt (command : OMX_ERRORTYPE) : SwitchAnswer := ⟨NO_ERROR, command, NO_ERROR⟩

/-- The answers of a component that gives the same one to every command of an attempt. -/
def LoadedAnswer.uniform (command : OMX_ERRORTYPE) : LoadedAnswer where
  first := none
  toIdle := .prompt command
  second := none
  disableInput := ⟨.prompt command, fun _ => command⟩
  disableOutput := ⟨.prompt command, fun _ => command⟩
  toLoaded := .prompt command
  enableInput := command
  enableOutput := command

namespace OMXVce

/-- Statements that may end in `goto EXIT`, with the status at that point. -/
abbrev Statement := EStateM Status OMXVce Unit

/-- A call of the component with the current handle. -/
def call (s : OMXVce) (c : OmxCall) : OMXVce :=
  { s with calls := s.calls ++ [(c, s.mOmxHandle)] }

/-- The state is changed. -/
def setComponentState (s : OMXVce) (state : OMX_STATETYPE) : OMXVce :=
  { s with mComponentState := state }

/-- `OMXVCE_GOTO_EXIT_IF`, and the tests of `ret`. -/
def check (ret : Status) : Statement := if ret = NO_ERROR then pure () else throw ret

/-- The test for a handle that the switches begin with. -/
def checkHandle : Statement := fun s =>
  if s.mOmxHandle = none then .error NO_ERROR s else .ok () s

/-- The callbacks on the component's thread may have changed the state. -/
def onEvent (event : Option OMX_STATETYPE) : Statement :=
  modify fun s => s.setComponentState (event.getD s.mComponentState)

/-- A statement for one state of the component. -/
def whenState (state : OMX_STATETYPE) (p : Statement) : Statement := fun s =>
  if s.mComponentState = state then p s else .ok () s

/-- A statement for all states of the component but one. -/
def unlessState (state : OMX_STATETYPE) (p : Statement) : Statement := fun s =>
  if s.mComponentState = state then .ok () s else p s

/-- Register for the event, send the command and wait for the event. A registration whose event
has not come is removed. -/
def changeState (state : OMX_STATETYPE) (b : SwitchAnswer) : Statement := do
  check b.registered
  modify (call · (.stateSet state))
  check (omxToAndroidError b.command)
  check b.wait
  modify (setComponentState · state)

/-- The loop over the buffers of a port. -/
def freeBuffers (port : ℕ) (answer : Ptr → OMX_ERRORTYPE) : List Ptr → Statement
  | [] => pure ()
  | header :: headers => do
    modify (call · (.freeBuffer port header))
    check (omxToAndroidError (answer header))
    freeBuffers port answer headers

/-- The headers of a port's buffers. -/
def headers (s : OMXVce) (port : ℕ) : List Ptr :=
  (if port = s.mInputPortIndex then s.mInputBufferMap else s.mOutputBufferMap).entries.map Sigma.snd

/-- All buffers of a port are freed. -/
def freeAllBuffers (port : ℕ) (answer : Ptr → OMX_ERRORTYPE) : Statement := fun s =>
  freeBuffers port answer (s.headers port) s

/-- The flag of a port is cleared. -/
def clearEnable (s : OMXVce) (port : ℕ) : OMXVce :=
  if port = s.mInputPortIndex then { s with mInputPortEnable := false }
  else { s with mOutputPortEnable := false }

/-- The part of `disablePort` that may end at its `EXIT`. -/
def disablePortStatement (port : ℕ) (b : DisableAnswer) : Statement := do
  check b.registered
  modify (call · (.portDisable port))
  check (omxToAndroidError b.command)
  freeAllBuffers port b.freeBuffer
  check b.wait
  modify (clearEnable · port)

/-- `disablePort`. -/
def disablePort (port : ℕ) (b : DisableAnswer) (s : OMXVce) : Status × OMXVce :=
  if port = s.mInputPortIndex ∧ s.mInputPortEnable = false then (NO_ERROR, s)
  else if port = s.mOutputPortIndex ∧ s.mOutputPortEnable = false then (NO_ERROR, s)
  else match disablePortStatement port b s with
  | .ok _ s => (NO_ERROR, s)
  | .error ret s => (ret, s)

/-- `disableAllPorts`. -/
def disableAllPorts (input output : DisableAnswer) (s : OMXVce) : Status × OMXVce :=
  let (ret, s) := s.disablePort s.mInputPortIndex input
  let (ret', s) := s.disablePort s.mOutputPortIndex output
  (ret ||| ret', s)

/-- The flags of both ports are set. -/
def setEnable (s : OMXVce) : OMXVce :=
  { s with mInputPortEnable := true, mOutputPortEnable := true }

/-- The part of `switchToLoaded` from Idle. The status of `disableAllPorts` is not used. -/
def idleToLoaded (b : LoadedAnswer) : Statement := do
  modify fun s => (s.disableAllPorts b.disableInput b.disableOutput).2
  changeState .OMX_StateLoaded b.toLoaded
  modify fun s => s.call (.portEnable s.mInputPortIndex)
  check (omxToAndroidError b.enableInput)
  modify fun s => s.call (.portEnable s.mOutputPortIndex)
  check (omxToAndroidError b.enableOutput)
  modify setEnable

/-- `switchToLoaded` up to its `EXIT`. -/
def switchToLoadedStatement (b : LoadedAnswer) : Statement := do
  checkHandle
  onEvent b.first
  whenState .OMX_StateExecuting (changeState .OMX_StateIdle b.toIdle)
  onEvent b.second
  whenState .OMX_StateIdle (idleToLoaded b)

/-- The part of `switchToExec` from Loaded. -/
def loadedToIdle (b : ExecAnswer) : Statement := do
  modify fun s => (s.disableAllPorts b.disableInput b.disableOutput).2
  changeState .OMX_StateIdle b.toIdle

/-- `switchToExec` up to its `EXIT`. -/
def switchToExecStatement (b : ExecAnswer) : Statement := do
  checkHandle
  onEvent b.first
  unlessState .OMX_StateExecuting do
    onEvent b.second
    whenState .OMX_StateLoaded (loadedToIdle b)
    onEvent b.third
    whenState .OMX_StateIdle (changeState .OMX_StateExecuting b.toExec)

/-- `execToIdle` up to its `EXIT`. -/
def execToIdleStatement (b : IdleAnswer) : Statement := do
  checkHandle
  onEvent b.first
  whenState .OMX_StateExecuting (changeState .OMX_StateIdle b.toIdle)

/-- The end of a switch: its result, or at its `EXIT` a call of `freeOmxHandle`. -/
def atExit (freeOmxHandle : OMXVce → Option (Status × OMXVce)) :
    EStateM.Result Status OMXVce Unit → Option (Status × OMXVce)
  | .ok _ s => some (NO_ERROR, s)
  | .error ret s => (freeOmxHandle s).map fun r => (ret, r.2)

/-- `OMX_FreeHandle`, and the handle is forgotten. -/
def releaseHandle (s : OMXVce) : OMXVce :=
  { s.call .freeHandle with mOmxHandle := none, mComponentState := .OMX_StateInvalid }

/-- `freeOmxHandle` with its recursive calls; level `n` of the recursion meets the component's
answers `b n`, and `none` is a call that has used up its fuel. -/
def freeOmxHandle : ℕ → (ℕ → LoadedAnswer) → OMXVce → Option (Status × OMXVce)
  | 0, _, _ => none
  | fuel + 1, b, s =>
    if s.mOmxHandle = none then some (NO_ERROR, s.setComponentState .OMX_StateInvalid)
    else (atExit (freeOmxHandle fuel fun n => b (n + 1)) (switchToLoadedStatement (b 0) s)).map
      fun r => (NO_ERROR, r.2.releaseHandle)

/-- `switchToLoaded`. -/
def switchToLoaded (fuel : ℕ) (b : ℕ → LoadedAnswer) (s : OMXVce) : Option (Status × OMXVce) :=
  atExit (freeOmxHandle fuel fun n => b (n + 1)) (switchToLoadedStatement (b 0) s)

/-- `switchToExec`. -/
def switchToExec (fuel : ℕ) (e : ExecAnswer) (b : ℕ → LoadedAnswer) (s : OMXVce) :
    Option (Status × OMXVce) :=
  atExit (freeOmxHandle fuel b) (switchToExecStatement e s)

/-- `execToIdle`. -/
def execToIdle (fuel : ℕ) (e : IdleAnswer) (b : ℕ → LoadedAnswer) (s : OMXVce) :
    Option (Status × OMXVce) :=
  atExit (freeOmxHandle fuel b) (execToIdleStatement e s)

/-! ### What the component's answers amount to -/

/-- A run of `switchToLoaded` on a component in state `w` succeeds. -/
def loads (b : LoadedAnswer) (w : OMX_STATETYPE) : Bool :=
  let w := b.first.getD w
  if w = .OMX_StateExecuting && !b.toIdle.succeeds then false
  else
    let w := b.second.getD (if w = .OMX_StateExecuting then .OMX_StateIdle else w)
    w != .OMX_StateIdle || (b.toLoaded.succeeds && b.enableInput = .OMX_ErrorNone &&
      b.enableOutput = .OMX_ErrorNone)

/-- The state that a failing run of `switchToLoaded` leaves. -/
def refused (b : LoadedAnswer) (w : OMX_STATETYPE) : OMX_STATETYPE :=
  let w := b.first.getD w
  if w = .OMX_StateExecuting && !b.toIdle.succeeds then w
  else if b.toLoaded.succeeds then .OMX_StateLoaded else .OMX_StateIdle

/-- The state after a number of failing runs of `switchToLoaded`. -/
def word (b : ℕ → LoadedAnswer) (w : OMX_STATETYPE) : ℕ → OMX_STATETYPE
  | 0 => w
  | n + 1 => refused (b n) (word b w n)

/-- The component does not refuse every attempt to switch it to Loaded. -/
def Settles (b : ℕ → LoadedAnswer) (w : OMX_STATETYPE) : Prop := ∃ n, loads (b n) (word b w n)

/-- A run of `switchToExec` on a component in state `w` succeeds. -/
def executes (b : ExecAnswer) (w : OMX_STATETYPE) : Bool :=
  let w := b.first.getD w
  if w = .OMX_StateExecuting then true
  else
    let w := b.second.getD w
    if w = .OMX_StateLoaded && !b.toIdle.succeeds then false
    else
      let w := b.third.getD (if w = .OMX_StateLoaded then .OMX_StateIdle else w)
      w != .OMX_StateIdle || b.toExec.succeeds

/-- The state that a failing run of `switchToExec` leaves. -/
def executeRefused (b : ExecAnswer) (w : OMX_STATETYPE) : OMX_STATETYPE :=
  let w := b.second.getD (b.first.getD w)
  if w = .OMX_StateLoaded && !b.toIdle.succeeds then .OMX_StateLoaded else .OMX_StateIdle

/-- A run of `execToIdle` on a component in state `w` succeeds. -/
def idles (b : IdleAnswer) (w : OMX_STATETYPE) : Bool :=
  b.first.getD w != .OMX_StateExecuting || b.toIdle.succeeds

/-! ### What statements do -/

/-- The calls between two states are made with the handle, which stays, and do not free it. -/
structure Uses (s s' : OMXVce) : Prop where
  handle : s'.mOmxHandle = s.mOmxHandle
  calls : ∃ l, s'.calls = s.calls ++ l ∧ ∀ c ∈ l, c.2 = s.mOmxHandle ∧ c.1 ≠ .freeHandle

namespace Uses

variable {s s' s'' : OMXVce}

/-- Nothing is called. -/
lemma of_eq (hhandle : s'.mOmxHandle = s.mOmxHandle) (hcalls : s'.calls = s.calls) :
    Uses s s' :=
  ⟨hhandle, [], by rw [hcalls, List.append_nil], fun _ h => absurd h List.not_mem_nil⟩

/-- Nothing happens. -/
lemma refl (s : OMXVce) : Uses s s := of_eq rfl rfl

/-- Calls follow each other. -/
lemma trans (h : Uses s s') (h' : Uses s' s'') : Uses s s'' := by
  obtain ⟨hhandle, l, hl, huses⟩ := h
  obtain ⟨hhandle', l', hl', huses'⟩ := h'
  refine ⟨hhandle'.trans hhandle, l ++ l', by rw [hl', hl, List.append_assoc], ?_⟩
  intro c hc
  rcases List.mem_append.mp hc with hc | hc
  · exact huses c hc
  · exact ⟨(huses' c hc).1.trans hhandle, (huses' c hc).2⟩

/-- One call. -/
lemma call {c : OmxCall} (hc : c ≠ .freeHandle) : Uses s (s.call c) :=
  ⟨rfl, [(c, s.mOmxHandle)], rfl, fun d hd => by
    obtain rfl := List.mem_singleton.mp hd
    exact ⟨rfl, hc⟩⟩

end Uses

/-- The state that a statement ends in. -/
def stateOf : EStateM.Result Status OMXVce Unit → OMXVce
  | .ok _ s => s
  | .error _ s => s

/-- A statement has not jumped to `EXIT`. -/
def isOk : EStateM.Result Status OMXVce Unit → Bool
  | .ok _ _ => true
  | .error _ _ => false

/-- A sequence that jumps in its first statement. -/
lemma seq_error {p q : Statement} {s s' : OMXVce} {e : Status} (h : p s = .error e s') :
    (p >>= fun _ => q) s = .error e s' := by
  show EStateM.bind p (fun _ => q) s = _
  rw [EStateM.bind, h]

/-- A sequence whose first statement is completed. -/
lemma seq_ok {p q : Statement} {s s' : OMXVce} {u : Unit} (h : p s = .ok u s') :
    (p >>= fun _ => q) s = q s' := by
  show EStateM.bind p (fun _ => q) s = _
  rw [EStateM.bind, h]

/-- What a statement does from a state: whether it jumps, the state of the component that it
leaves, and calls with the handle only. -/
structure Does (p : Statement) (s : OMXVce) (done : Bool) (w : OMX_STATETYPE) : Prop where
  isOk : isOk (p s) = done
  word : (stateOf (p s)).mComponentState = w
  uses : Uses s (stateOf (p s))

namespace Does

variable {p q : Statement} {s : OMXVce} {done done' : Bool} {w w' : OMX_STATETYPE}

/-- Statements in sequence. -/
lemma seq (hp : Does p s done w)
    (hq : ∀ s', Uses s s' → s'.mComponentState = w → Does q s' done' w') :
    Does (p >>= fun _ => q) s (done && done') (if done then w' else w) := by
  obtain ⟨hok, hword, huses⟩ := hp
  cases hps : p s with
  | error e s' =>
    rw [hps] at hok hword huses
    obtain rfl : false = done := hok
    have hrun := seq_error (q := q) hps
    exact ⟨by rw [hrun]; rfl, by rw [hrun]; exact hword, by rw [hrun]; exact huses⟩
  | ok u s' =>
    rw [hps] at hok hword huses
    obtain rfl : true = done := hok
    have hrun := seq_ok (q := q) hps
    obtain ⟨hok', hword', huses'⟩ := hq s' huses hword
    exact ⟨by rw [hrun]; exact hok', by rw [hrun]; exact hword',
      by rw [hrun]; exact huses.trans huses'⟩

/-- An update that jumps nowhere. -/
lemma modify {f : OMXVce → OMXVce} (huses : Uses s (f s)) (hw : (f s).mComponentState = w) :
    Does (modify f) s true w :=
  ⟨rfl, hw, huses⟩

/-- A test of a status. -/
lemma check (ret : Status) (hw : s.mComponentState = w) :
    Does (OMXVce.check ret) s (ret = NO_ERROR) w := by
  unfold OMXVce.check
  by_cases h : ret = NO_ERROR
  · rw [if_pos h, decide_eq_true h]
    exact ⟨rfl, hw, Uses.refl s⟩
  · rw [if_neg h, decide_eq_false h]
    exact ⟨rfl, hw, Uses.refl s⟩

/-- The descriptions of a statement may be rewritten. -/
lemma congr (h : Does p s done w) (hdone : done = done') (hw : w = w') : Does p s done' w' :=
  hdone ▸ hw ▸ h

end Does

section Statements

variable {s : OMXVce} {w : OMX_STATETYPE}

/-- A change of state. -/
lemma does_changeState (state : OMX_STATETYPE) (b : SwitchAnswer) (hw : s.mComponentState = w) :
    Does (changeState state b) s b.succeeds (if b.succeeds then state else w) := by
  refine Does.congr (Does.seq (Does.check b.registered hw) fun s₁ _ hw₁ =>
    Does.seq (Does.modify (w := w) (Uses.call (by simp)) hw₁) fun s₂ _ hw₂ =>
    Does.seq (Does.check (omxToAndroidError b.command) hw₂) fun s₃ _ hw₃ =>
    Does.seq (Does.check b.wait hw₃) fun s₄ _ _ =>
    Does.modify (w := state) (Uses.of_eq rfl rfl) rfl) ?_ ?_
  · simp [SwitchAnswer.succeeds, Bool.and_assoc]
  · by_cases h₁ : b.registered = NO_ERROR <;> by_cases h₂ : b.command = .OMX_ErrorNone <;>
      by_cases h₃ : b.wait = NO_ERROR <;> simp [SwitchAnswer.succeeds, h₁, h₂, h₃]

/-- A statement that leaves the state of the component alone, and only makes calls with the
handle. -/
def Frames (p : Statement) : Prop :=
  ∀ s, (stateOf (p s)).mComponentState = s.mComponentState ∧ Uses s (stateOf (p s))

namespace Frames

variable {p q : Statement}

/-- Statements in sequence. -/
lemma seq (hp : Frames p) (hq : Frames q) : Frames (p >>= fun _ => q) := by
  intro s
  obtain ⟨hword, huses⟩ := hp s
  cases hps : p s with
  | error e s' =>
    rw [hps] at hword huses
    rw [seq_error hps]
    exact ⟨hword, huses⟩
  | ok u s' =>
    rw [hps] at hword huses
    rw [seq_ok hps]
    exact ⟨(hq s').1.trans hword, huses.trans (hq s').2⟩

/-- An update. -/
lemma modify {f : OMXVce → OMXVce} (hw : ∀ s, (f s).mComponentState = s.mComponentState)
    (huses : ∀ s, Uses s (f s)) : Frames (modify f) :=
  fun s => ⟨hw s, huses s⟩

/-- A test of a status. -/
lemma check (ret : Status) : Frames (check ret) := by
  intro s
  have h := Does.check (s := s) ret rfl
  exact ⟨h.word, h.uses⟩

/-- The loop over the buffers of a port. -/
lemma freeBuffers (port : ℕ) (answer : Ptr → OMX_ERRORTYPE) (headers : List Ptr) :
    Frames (freeBuffers port answer headers) := by
  induction headers with
  | nil => exact fun s => ⟨rfl, Uses.refl s⟩
  | cons header headers ih =>
    exact seq (modify (fun _ => rfl) fun _ => Uses.call (by simp)) (seq (check _) ih)

/-- The part of `disablePort` with an `EXIT`. -/
lemma disablePortStatement (port : ℕ) (b : DisableAnswer) :
    Frames (disablePortStatement port b) := by
  refine seq (check _) (seq (modify (fun _ => rfl) fun _ => Uses.call (by simp)) ?_)
  refine seq (check _) (seq (fun s => freeBuffers port b.freeBuffer (s.headers port) s) ?_)
  refine seq (check _) (modify (fun s => ?_) fun s => Uses.of_eq ?_ ?_)
  all_goals
    unfold clearEnable
    split_ifs <;> rfl

end Frames

/-- Disabling a port makes calls with the handle, whatever it returns. -/
lemma disablePort_frame (port : ℕ) (b : DisableAnswer) (s : OMXVce) :
    (s.disablePort port b).2.mComponentState = s.mComponentState ∧
      Uses s (s.disablePort port b).2 := by
  have h := Frames.disablePortStatement port b s
  unfold disablePort
  split_ifs
  · exact ⟨rfl, Uses.refl s⟩
  · exact ⟨rfl, Uses.refl s⟩
  · cases hrun : disablePortStatement port b s <;> rw [hrun] at h <;> exact h

/-- So does disabling both. -/
lemma disableAllPorts_frame (input output : DisableAnswer) (s : OMXVce) :
    (s.disableAllPorts input output).2.mComponentState = s.mComponentState ∧
      Uses s (s.disableAllPorts input output).2 := by
  obtain ⟨hword, huses⟩ := disablePort_frame s.mInputPortIndex input s
  let s₁ := (s.disablePort s.mInputPortIndex input).2
  obtain ⟨hword', huses'⟩ := disablePort_frame s₁.mOutputPortIndex output s₁
  exact ⟨hword'.trans hword, huses.trans huses'⟩

/-- A switch with a handle. -/
lemma does_checkHandle (hs : s.mOmxHandle ≠ none) (hw : s.mComponentState = w) :
    Does checkHandle s true w := by
  have hrun : checkHandle s = .ok () s := if_neg hs
  exact ⟨by rw [hrun]; rfl, by rw [hrun]; exact hw, by rw [hrun]; exact Uses.refl s⟩

/-- The callbacks change the state of the component and nothing else. -/
lemma does_onEvent (event : Option OMX_STATETYPE) (hw : s.mComponentState = w) :
    Does (onEvent event) s true (event.getD w) :=
  Does.modify (Uses.of_eq rfl rfl) (by rw [← hw]; rfl)

/-- A statement for one state of the component. -/
lemma does_whenState (state : OMX_STATETYPE) {w' : OMX_STATETYPE} {p : Statement} {done : Bool}
    (hw : s.mComponentState = w) (hp : w = state → Does p s done w') :
    Does (whenState state p) s (w != state || done) (if w = state then w' else w) := by
  by_cases h : w = state
  · have hrun : whenState state p s = p s := if_pos (hw.trans h)
    obtain ⟨hok, hword, huses⟩ := hp h
    refine ⟨by simp [hrun, hok, h], by simp [hrun, hword, h], by rw [hrun]; exact huses⟩
  · have hrun : whenState state p s = .ok () s := if_neg (fun h' => h (hw.symm.trans h'))
    exact ⟨by simp [hrun, isOk, h], by simp [hrun, stateOf, hw, h],
      by rw [hrun]; exact Uses.refl s⟩

/-- A statement for all states of the component but one. -/
lemma does_unlessState (state : OMX_STATETYPE) {w' : OMX_STATETYPE} {p : Statement} {done : Bool}
    (hw : s.mComponentState = w) (hp : w ≠ state → Does p s done w') :
    Does (unlessState state p) s (w == state || done) (if w = state then w else w') := by
  by_cases h : w = state
  · have hrun : unlessState state p s = .ok () s := if_pos (hw.trans h)
    exact ⟨by simp [hrun, isOk, h], by simp [hrun, stateOf, hw, h],
      by rw [hrun]; exact Uses.refl s⟩
  · have hrun : unlessState state p s = p s := if_neg (fun h' => h (hw.symm.trans h'))
    obtain ⟨hok, hword, huses⟩ := hp h
    refine ⟨by simp [hrun, hok, h], by simp [hrun, hword, h], by rw [hrun]; exact huses⟩

/-- The part of `switchToLoaded` from Idle. -/
lemma does_idleToLoaded (b : LoadedAnswer) (hw : s.mComponentState = w) :
    Does (idleToLoaded b) s
      (b.toLoaded.succeeds && b.enableInput = .OMX_ErrorNone && b.enableOutput = .OMX_ErrorNone)
      (if b.toLoaded.succeeds then .OMX_StateLoaded else w) := by
  obtain ⟨hword, huses⟩ := disableAllPorts_frame b.disableInput b.disableOutput s
  refine Does.congr (Does.seq (Does.modify (w := w) huses (hword.trans hw)) fun s₁ _ hw₁ =>
    Does.seq (does_changeState .OMX_StateLoaded b.toLoaded hw₁) fun s₂ _ hw₂ =>
    Does.seq (Does.modify (Uses.call (by simp)) hw₂) fun s₃ _ hw₃ =>
    Does.seq (Does.check (omxToAndroidError b.enableInput) hw₃) fun s₄ _ hw₄ =>
    Does.seq (Does.modify (Uses.call (by simp)) hw₄) fun s₅ _ hw₅ =>
    Does.seq (Does.check (omxToAndroidError b.enableOutput) hw₅) fun s₆ _ hw₆ =>
    Does.modify (Uses.of_eq rfl rfl) hw₆) ?_ ?_
  · simp [Bool.and_assoc]
  · simp

/-- The part of `switchToExec` from Loaded. -/
lemma does_loadedToIdle (b : ExecAnswer) (hw : s.mComponentState = w) :
    Does (loadedToIdle b) s b.toIdle.succeeds
      (if b.toIdle.succeeds then .OMX_StateIdle else w) := by
  obtain ⟨hword, huses⟩ := disableAllPorts_frame b.disableInput b.disableOutput s
  exact Does.congr (Does.seq (Does.modify (w := w) huses (hword.trans hw)) fun s₁ _ hw₁ =>
    does_changeState .OMX_StateIdle b.toIdle hw₁) (Bool.true_and _) (if_pos rfl)

/-- `switchToLoaded` up to its `EXIT`. -/
lemma does_switchToLoaded (b : LoadedAnswer) (hs : s.mOmxHandle ≠ none)
    (hw : s.mComponentState = w) :
    ∃ w', Does (switchToLoadedStatement b) s (loads b w) w' ∧
      (loads b w = false → w' = refused b w) := by
  have h := Does.seq (does_checkHandle hs hw) fun s₁ _ hw₁ =>
    Does.seq (does_onEvent b.first hw₁) fun s₂ _ hw₂ =>
    Does.seq (does_whenState .OMX_StateExecuting hw₂ fun _ =>
      does_changeState .OMX_StateIdle b.toIdle hw₂) fun s₃ _ hw₃ =>
    Does.seq (does_onEvent b.second hw₃) fun s₄ _ hw₄ =>
    does_whenState .OMX_StateIdle hw₄ fun _ => does_idleToLoaded b hw₄
  refine ⟨_, h.congr ?_ rfl, ?_⟩
  · simp only [loads]
    generalize b.first.getD w = w₁
    by_cases h₁ : w₁ = .OMX_StateExecuting <;> cases b.toIdle.succeeds <;> simp [h₁]
  · simp only [loads, refused]
    generalize b.first.getD w = w₁
    by_cases h₁ : w₁ = .OMX_StateExecuting <;> cases b.toIdle.succeeds <;> simp [h₁]
    all_goals
      intro h₂ _
      rw [h₂, if_pos rfl]

/-- `switchToExec` up to its `EXIT`. -/
lemma does_switchToExec (b : ExecAnswer) (hs : s.mOmxHandle ≠ none) (hw : s.mComponentState = w) :
    ∃ w', Does (switchToExecStatement b) s (executes b w) w' ∧
      (executes b w = false → w' = executeRefused b w) := by
  have hswitch : ∀ s₂ : OMXVce, s₂.mComponentState = b.first.getD w →
      b.first.getD w ≠ .OMX_StateExecuting → Does _ s₂ _ _ := fun s₂ hw₂ _ =>
    Does.seq (does_onEvent b.second hw₂) fun s₃ _ hw₃ =>
    Does.seq (does_whenState .OMX_StateLoaded hw₃ fun _ => does_loadedToIdle b hw₃) fun s₄ _ hw₄ =>
    Does.seq (does_onEvent b.third hw₄) fun s₅ _ hw₅ =>
    does_whenState .OMX_StateIdle hw₅ fun _ => does_changeState .OMX_StateExecuting b.toExec hw₅
  have h := Does.seq (does_checkHandle hs hw) fun s₁ _ hw₁ =>
    Does.seq (does_onEvent b.first hw₁) fun s₂ _ hw₂ =>
    does_unlessState .OMX_StateExecuting hw₂ (hswitch s₂ hw₂)
  refine ⟨_, h.congr ?_ rfl, ?_⟩
  · simp only [executes]
    generalize b.first.getD w = w₁
    generalize b.second.getD w₁ = w₂
    by_cases h₁ : w₁ = .OMX_StateExecuting <;> by_cases h₂ : w₂ = .OMX_StateLoaded <;>
      cases b.toIdle.succeeds <;> simp [bne, beq_eq_decide, h₁, h₂]
  · simp only [executes, executeRefused]
    generalize b.first.getD w = w₁
    generalize b.second.getD w₁ = w₂
    by_cases h₁ : w₁ = .OMX_StateExecuting <;> by_cases h₂ : w₂ = .OMX_StateLoaded <;>
      cases b.toIdle.succeeds <;> simp [h₁, h₂]
    all_goals
      intro h₃ hexec
      simp [h₃, hexec]

/-- `execToIdle` up to its `EXIT`. -/
lemma does_execToIdle (b : IdleAnswer) (hs : s.mOmxHandle ≠ none) (hw : s.mComponentState = w) :
    ∃ w', Does (execToIdleStatement b) s (idles b w) w' ∧
      (idles b w = false → w' = b.first.getD w) := by
  have h := Does.seq (does_checkHandle hs hw) fun s₁ _ hw₁ =>
    Does.seq (does_onEvent b.first hw₁) fun s₂ _ hw₂ =>
    does_whenState .OMX_StateExecuting hw₂ fun _ => does_changeState .OMX_StateIdle b.toIdle hw₂
  refine ⟨_, h.congr ?_ rfl, ?_⟩
  · simp [idles]
  · simp only [idles]
    cases b.toIdle.succeeds <;> simp

end Statements

/-! ### The recursion -/

section Recursion

variable {b : ℕ → LoadedAnswer} {s : OMXVce} {w : OMX_STATETYPE}

/-- The states after the first attempt. -/
lemma word_succ (b : ℕ → LoadedAnswer) (w : OMX_STATETYPE) (n : ℕ) :
    word b w (n + 1) = word (fun n => b (n + 1)) (refused (b 0) w) n := by
  induction n with
  | zero => rfl
  | succ n ih => rw [word, ih, word]

/-- The first attempt, or the attempts after it. -/
lemma settles_iff :
    Settles b w ↔ loads (b 0) w ∨ Settles (fun n => b (n + 1)) (refused (b 0) w) := by
  constructor
  · rintro ⟨n, hn⟩
    cases n with
    | zero => exact Or.inl hn
    | succ n => exact Or.inr ⟨n, word_succ b w n ▸ hn⟩
  · rintro (h | ⟨n, hn⟩)
    · exact ⟨0, h⟩
    · exact ⟨n + 1, (word_succ b w n).symm ▸ hn⟩

/-- A teardown: `OMX_FreeHandle` is called once with the handle, no call is made with it
afterwards, and the handle is `NULL` at the end. -/
structure FreesOnce (h : Ptr) (s s' : OMXVce) : Prop where
  handle : s'.mOmxHandle = none
  calls : ∃ before after, s'.calls = s.calls ++ before ++ (.freeHandle, some h) :: after ∧
    (∀ c ∈ before, c.1 ≠ .freeHandle) ∧ ∀ c ∈ after, c.2 ≠ some h

/-- Calls with the handle may precede a teardown. -/
lemma FreesOnce.of_uses {h : Ptr} {s s₁ s' : OMXVce} (huses : Uses s s₁)
    (hfree : FreesOnce h s₁ s') : FreesOnce h s s' := by
  obtain ⟨-, l, hl, huses⟩ := huses
  obtain ⟨hhandle, before, after, hcalls, hbefore, hafter⟩ := hfree
  refine ⟨hhandle, l ++ before, after, by rw [hcalls, hl, List.append_assoc s.calls l before],
    fun c hc => ?_, hafter⟩
  rcases List.mem_append.mp hc with hc | hc
  · exact (huses c hc).2
  · exact hbefore c hc

/-- A teardown in which `OMX_FreeHandle` is also called `n` times with `NULL`. -/
structure Frees (h : Ptr) (n : ℕ) (s s' : OMXVce) : Prop where
  handle : s'.mOmxHandle = none
  calls : ∃ before, (∀ c ∈ before, c.1 ≠ .freeHandle) ∧
    s'.calls = s.calls ++ before ++ (.freeHandle, some h) :: List.replicate n (.freeHandle, none)

namespace Frees

variable {h : Ptr} {n : ℕ} {s s₁ s' : OMXVce}

/-- Calls with `NULL` are no calls with the handle. -/
lemma freesOnce (hfree : Frees h n s s') : FreesOnce h s s' := by
  obtain ⟨hhandle, before, hbefore, hcalls⟩ := hfree
  refine ⟨hhandle, before, _, hcalls, hbefore, fun c hc => ?_⟩
  rw [List.eq_of_mem_replicate hc]
  simp

/-- Calls with the handle may precede a teardown. -/
lemma of_uses (huses : Uses s s₁) (hfree : Frees h n s₁ s') : Frees h n s s' := by
  obtain ⟨-, l, hl, huses⟩ := huses
  obtain ⟨hhandle, before, hbefore, hcalls⟩ := hfree
  refine ⟨hhandle, l ++ before, ?_, by rw [hcalls, hl, List.append_assoc s.calls l before]⟩
  intro c hc
  rcases List.mem_append.mp hc with hc | hc
  · exact (huses c hc).2
  · exact hbefore c hc

/-- `OMX_FreeHandle` with the handle. -/
lemma releaseHandle (hs : s.mOmxHandle = some h) : Frees h 0 s s.releaseHandle :=
  ⟨rfl, [], by simp, by simp [OMXVce.releaseHandle, call, hs]⟩

/-- `OMX_FreeHandle` with `NULL`, after a teardown. -/
lemma trans_releaseHandle (hfree : Frees h n s s') : Frees h (n + 1) s s'.releaseHandle := by
  obtain ⟨hhandle, before, hbefore, hcalls⟩ := hfree
  refine ⟨rfl, before, hbefore, ?_⟩
  simp [OMXVce.releaseHandle, call, hcalls, hhandle, List.replicate_succ']

end Frees

/-- A level whose attempt succeeds. -/
lemma freeOmxHandle_of_loads (hs : s.mOmxHandle ≠ none) (h : loads (b 0) s.mComponentState) :
    ∃ s', Uses s s' ∧
      ∀ fuel, freeOmxHandle (fuel + 1) b s = some (NO_ERROR, s'.releaseHandle) := by
  obtain ⟨w', ⟨hok, -, huses⟩, -⟩ := does_switchToLoaded (b 0) hs rfl
  rw [h] at hok
  cases hrun : switchToLoadedStatement (b 0) s with
  | error e s' => rw [hrun] at hok; exact absurd hok (by simp [isOk])
  | ok u s' =>
    rw [hrun] at huses
    refine ⟨s', huses, fun fuel => ?_⟩
    rw [freeOmxHandle, if_neg hs, hrun]
    rfl

/-- A level whose attempt fails. -/
lemma freeOmxHandle_of_refused (hs : s.mOmxHandle ≠ none)
    (h : loads (b 0) s.mComponentState = false) :
    ∃ s', Uses s s' ∧ s'.mComponentState = refused (b 0) s.mComponentState ∧
      ∀ fuel, freeOmxHandle (fuel + 1) b s =
        (freeOmxHandle fuel (fun n => b (n + 1)) s').map
          fun r => (NO_ERROR, r.2.releaseHandle) := by
  obtain ⟨w', ⟨hok, hword, huses⟩, hrefused⟩ := does_switchToLoaded (b 0) hs rfl
  rw [h] at hok
  cases hrun : switchToLoadedStatement (b 0) s with
  | ok u s' => rw [hrun] at hok; exact absurd hok (by simp [isOk])
  | error e s' =>
    rw [hrun] at huses hword
    refine ⟨s', huses, hword.trans (hrefused h), fun fuel => ?_⟩
    rw [freeOmxHandle, if_neg hs, hrun]
    simp only [atExit, Option.map_map]
    rfl

/-- `freeOmxHandle` does not return while the component refuses. -/
theorem freeOmxHandle_eq_none (hs : s.mOmxHandle ≠ none) (h : ¬ Settles b s.mComponentState)
    (fuel : ℕ) : freeOmxHandle fuel b s = none := by
  induction fuel generalizing b s with
  | zero => rfl
  | succ fuel ih =>
    rw [settles_iff, not_or, Bool.not_eq_true] at h
    obtain ⟨s', huses, hword, hrun⟩ := freeOmxHandle_of_refused hs h.1
    rw [hrun, ih (huses.handle ▸ hs) (hword ▸ h.2)]
    rfl

/-- **`freeOmxHandle` returns once the component complies.** It has then called `OMX_FreeHandle`
with the handle once, and with `NULL` as many times as attempts have failed.

**Proof sketch.** Induction on the number of attempts that fail. The innermost level calls
`OMX_FreeHandle` with the handle; the levels around it find `NULL`. -/
theorem freeOmxHandle_eq_some {h : Ptr} (hs : s.mOmxHandle = some h) {n : ℕ}
    (hrefused : ∀ m < n, loads (b m) (word b s.mComponentState m) = false)
    (hload : loads (b n) (word b s.mComponentState n)) :
    ∃ fuel s', freeOmxHandle fuel b s = some (NO_ERROR, s') ∧ Frees h n s s' := by
  have hne : s.mOmxHandle ≠ none := by simp [hs]
  induction n generalizing b s with
  | zero =>
    obtain ⟨s', huses, hrun⟩ := freeOmxHandle_of_loads hne hload
    exact ⟨1, _, hrun 0, .of_uses huses (.releaseHandle (huses.handle.trans hs))⟩
  | succ n ih =>
    obtain ⟨s₁, huses, hword, hrun⟩ := freeOmxHandle_of_refused hne (hrefused 0 n.succ_pos)
    have hs₁ : s₁.mOmxHandle = some h := huses.handle.trans hs
    obtain ⟨fuel, s', hrest, hfree⟩ := ih (b := fun n => b (n + 1)) hs₁
      (fun m hm => by rw [hword, ← word_succ]; exact hrefused (m + 1) (by omega))
      (by rw [hword, ← word_succ]; exact hload) (by simp [hs₁])
    exact ⟨fuel + 1, _, by rw [hrun, hrest]; rfl, .of_uses huses hfree.trans_releaseHandle⟩

/-- `freeOmxHandle` returns, and the teardown is as it should be. -/
def TornDown (h : Ptr) (s : OMXVce) (call : ℕ → Option (Status × OMXVce)) : Prop :=
  ∃ fuel ret s', call fuel = some (ret, s') ∧ FreesOnce h s s'

/-- A switch returns: it keeps the handle, or it has torn the component down. -/
def Switched (h : Ptr) (s : OMXVce) (call : ℕ → Option (Status × OMXVce)) : Prop :=
  ∃ fuel ret s', call fuel = some (ret, s') ∧ (Uses s s' ∨ FreesOnce h s s')

/-- `freeOmxHandle` returns only if the component settles. -/
lemma settles_of_eq_some (hs : s.mOmxHandle ≠ none) {fuel : ℕ} {r : Status × OMXVce}
    (hrun : freeOmxHandle fuel b s = some r) : Settles b s.mComponentState := by
  by_contra hsettles
  rw [freeOmxHandle_eq_none hs hsettles] at hrun
  exact absurd hrun (by simp)

/-- `freeOmxHandle` returns after a teardown if the component settles. -/
lemma exists_freesOnce {h : Ptr} (hs : s.mOmxHandle = some h)
    (hsettles : Settles b s.mComponentState) :
    ∃ fuel s', freeOmxHandle fuel b s = some (NO_ERROR, s') ∧ FreesOnce h s s' := by
  classical
  obtain ⟨fuel, s', hrun, hfree⟩ := freeOmxHandle_eq_some hs
    (fun m hm => Bool.eq_false_iff.mpr (Nat.find_min hsettles hm)) (Nat.find_spec hsettles)
  exact ⟨fuel, s', hrun, hfree.freesOnce⟩

/-- A switch returns exactly if it succeeds or the component settles afterwards. -/
lemma switched_iff {h : Ptr} (hs : s.mOmxHandle = some h) {p : Statement} {done : Bool}
    {w' : OMX_STATETYPE} (hp : Does p s done w') :
    Switched h s (fun fuel => atExit (freeOmxHandle fuel b) (p s)) ↔ done ∨ Settles b w' := by
  obtain ⟨hok, hword, huses⟩ := hp
  cases hrun : p s with
  | ok u s₁ =>
    rw [hrun] at hok huses
    obtain rfl : true = done := hok
    exact ⟨fun _ => Or.inl rfl, fun _ => ⟨0, NO_ERROR, s₁, rfl, Or.inl huses⟩⟩
  | error e s₁ =>
    rw [hrun] at hok hword huses
    obtain rfl : false = done := hok
    obtain rfl : s₁.mComponentState = w' := hword
    have hs₁ : s₁.mOmxHandle = some h := huses.handle.trans hs
    constructor
    · rintro ⟨fuel, ret, s', hcall, -⟩
      obtain ⟨r, hfree, -⟩ := Option.map_eq_some_iff.mp hcall
      exact Or.inr (settles_of_eq_some (by simp [hs₁]) hfree)
    · rintro (h | hsettles)
      · exact absurd h (by simp)
      · obtain ⟨fuel, s', hfree, honce⟩ := exists_freesOnce hs₁ hsettles
        exact ⟨fuel, e, s', by simp only [atExit, hfree, Option.map_some],
          Or.inr (.of_uses huses honce)⟩

/-- **The teardown terminates and frees once exactly if the component settles.** Each of the four
functions returns, with `OMX_FreeHandle` called once with the handle if it is freed, no call with
the handle afterwards and the handle `NULL` after `freeOmxHandle`, if and only if its own switch
succeeds or one of the attempts to switch to Loaded that follow it does.

**Proof sketch.** Each level of the recursion makes one attempt. A successful attempt ends the
recursion, and the outer levels find `NULL`; a failing one leads to the next level, with the state
that it has left. If all attempts fail no call returns, whatever the fuel. -/
theorem teardown_iff (b : ℕ → LoadedAnswer) (e : ExecAnswer) (i : IdleAnswer) (s : OMXVce)
    {h : Ptr} (hs : s.mOmxHandle = some h) :
    (TornDown h s (fun fuel => freeOmxHandle fuel b s) ↔ Settles b s.mComponentState) ∧
    (Switched h s (fun fuel => switchToLoaded fuel b s) ↔ Settles b s.mComponentState) ∧
    (Switched h s (fun fuel => switchToExec fuel e b s) ↔
      executes e s.mComponentState ∨ Settles b (executeRefused e s.mComponentState)) ∧
    (Switched h s (fun fuel => execToIdle fuel i b s) ↔
      idles i s.mComponentState ∨ Settles b (i.first.getD s.mComponentState)) := by
  have hne : s.mOmxHandle ≠ none := by simp [hs]
  refine ⟨⟨?_, ?_⟩, ?_, ?_, ?_⟩
  · rintro ⟨fuel, ret, s', hrun, -⟩
    exact settles_of_eq_some hne hrun
  · intro hsettles
    obtain ⟨fuel, s', hrun, honce⟩ := exists_freesOnce hs hsettles
    exact ⟨fuel, NO_ERROR, s', hrun, honce⟩
  · obtain ⟨w', hdoes, hrefused⟩ := does_switchToLoaded (b 0) hne rfl
    rw [settles_iff]
    refine (switched_iff hs hdoes).trans ?_
    cases hload : loads (b 0) s.mComponentState with
    | true => simp
    | false => rw [hrefused hload]
  · obtain ⟨w', hdoes, hrefused⟩ := does_switchToExec e hne rfl
    refine (switched_iff hs hdoes).trans ?_
    cases hload : executes e s.mComponentState with
    | true => simp
    | false => rw [hrefused hload]
  · obtain ⟨w', hdoes, hrefused⟩ := does_execToIdle i hne rfl
    refine (switched_iff hs hdoes).trans ?_
    cases hload : idles i s.mComponentState with
    | true => simp
    | false => rw [hrefused hload]

end Recursion

/-! ### A component that answers every command alike -/

/-- An executing encoder with the handle `1` and one buffer on each port. -/
def executing : OMXVce where
  mOmxHandle := some 1
  mComponentState := .OMX_StateExecuting
  mInputPortIndex := 0
  mOutputPortIndex := 1
  mInputPortEnable := true
  mOutputPortEnable := true
  mInputBufferMap := KeyedVector.add ∅ 16 17
  mOutputBufferMap := KeyedVector.add ∅ 32 33
  calls := []

/-- A component that rejects the commands of its first attempt only is torn down. -/
theorem tornDown_executing :
    TornDown 1 executing fun fuel => freeOmxHandle fuel
      (fun n => .uniform (if n = 0 then .OMX_ErrorTimeout else .OMX_ErrorNone)) executing :=
  (teardown_iff _ ⟨none, none, ⟨.prompt .OMX_ErrorNone, fun _ => .OMX_ErrorNone⟩,
    ⟨.prompt .OMX_ErrorNone, fun _ => .OMX_ErrorNone⟩, .prompt .OMX_ErrorNone, none,
    .prompt .OMX_ErrorNone⟩ ⟨none, .prompt .OMX_ErrorNone⟩ executing rfl).1.mpr ⟨1, by decide⟩

/-- A component that rejects every command stays in its state. -/
lemma not_settles_executing :
    ¬ Settles (fun _ => .uniform .OMX_ErrorTimeout) .OMX_StateExecuting := by
  rintro ⟨n, hn⟩
  have hword : ∀ m, word (fun _ => .uniform .OMX_ErrorTimeout) .OMX_StateExecuting m =
      .OMX_StateExecuting := by
    intro m
    induction m with
    | zero => rfl
    | succ m ih =>
      rw [word, ih]
      decide
  rw [hword] at hn
  exact absurd hn (by decide : loads (.uniform .OMX_ErrorTimeout) .OMX_StateExecuting ≠ true)

/-- The teardown of an executing encoder whose component rejects every command does not return. -/
theorem not_tornDown_executing :
    ¬ ∀ (b : ℕ → LoadedAnswer) (s : OMXVce) (h : Ptr), s.mOmxHandle = some h →
      TornDown h s (fun fuel => freeOmxHandle fuel b s) := by
  intro hall
  obtain ⟨fuel, ret, s', hrun, -⟩ := hall (fun _ => .uniform .OMX_ErrorTimeout) executing 1 rfl
  exact not_settles_executing (settles_of_eq_some (by decide) hrun)

end OMXVce

end CameraHal
