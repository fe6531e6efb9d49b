import Mathlib.Logic.Function.Basic
import Gs702aHal.Lib.ExitTriple
import Gs702aHal.Lib.StepRun
import Gs702aHal.Camera.VceTeardown

set_option relaxedAutoImplicit false
set_option autoImplicit false

/-!
# The waits of the encoder component

A switch of the encoder's state registers for the completion event of a command, sends the command,
waits for the event with a timeout, and removes the registration if the event has not come. The
events come on the component's thread. They are delivered here between the statements of a call: an
answer of the component says which events come before each of them.

A semaphore is given by the events that have signalled it, so that its count is their number. The
waits that have succeeded are recorded with the event whose signal they took.

The numbers of commands, events and states are those of OpenMAX IL.

## Main definitions

* `CameraHal.OMXEventSyncList` — the registrations, with `CameraHal.OMXEventSyncList.SignalEvent`,
  `CameraHal.OMXEventSyncList.RemoveEvent` and `CameraHal.OMXEventSyncList.FlushEvent`.
* `CameraHal.EventVce` — the encoder, with the switches of the source.
* `CameraHal.EventVce.Clean` — no registration and no signal is left, and every wait that has
  succeeded took the event of its own command.
* `CameraHal.VceAction.Prompt` — the condition on the component's answers to a call.

## Main results

* `CameraHal.EventVce.keeps_awaitCommand` — a command with prompt answers leaves nothing behind.
* `CameraHal.EventVce.always_clean_of_prompt` — in a run with prompt answers every state is clean.
-/

namespace CameraHal

open Status ExitTriple

/-! ### Events -/

/-- The event of a command that has completed. -/
def OMX_EventCmdComplete : ℕ := 0
/-- The event of an error. -/
def OMX_EventError : ℕ := 1
/-- The command that changes the state. -/
def OMX_CommandStateSet : ℕ := 0
/-- The command that disables a port. -/
def OMX_CommandPortDisable : ℕ := 2
/-- The error that ends the component. -/
def OMX_ErrorHardware : ℕ := 0x80001009

/-- The number of a state. -/
def OMX_STATETYPE.value : OMX_STATETYPE → ℕ
  | .OMX_StateInvalid => 0
  | .OMX_StateLoaded => 1
  | .OMX_StateIdle => 2
  | .OMX_StateExecuting => 3
  | .OMX_StatePause => 4
  | .OMX_StateWaitForResources => 5

/-- An event of the component. -/
structure OmxEvent where
  eEvent : ℕ
  nData1 : ℕ
  nData2 : ℕ
  deriving DecidableEq, Repr

/-- The completion of a command. -/
def OmxEvent.complete (command data : ℕ) : OmxEvent := ⟨OMX_EventCmdComplete, command, data⟩

/-- An error of the hardware. -/
def OmxEvent.fatal (e : OmxEvent) : Bool :=
  e.eEvent = OMX_EventError && e.nData1 = OMX_ErrorHardware

/-- The semaphores that the switches wait on. -/
inductive VceSem
  | mSwitchToExecSem
  | mSwitchToIdleSem
  | mSwitchToLoadedSem
  | mPortDisableSem
  deriving DecidableEq, Repr

/-- A registration: the event, its two data words and the semaphore. -/
structure Waiter where
  command : ℕ
  arg1 : ℕ
  arg2 : ℕ
  arg3 : VceSem
  deriving DecidableEq, Repr

/-- The test of `SignalEvent` and `RemoveEvent`. A word that is zero is not compared. -/
def Waiter.awaits (w : Waiter) (e : OmxEvent) : Bool :=
  (w.command ≠ 0 || w.command = e.eEvent) && (w.arg1 = 0 || w.arg1 = e.nData1) &&
    (w.arg2 = 0 || w.arg2 = e.nData2)

/-- The registrations for events, and the events that have signalled each semaphore. -/
structure OMXEventSyncList where
  mEventSignalQ : List Waiter
  signalled : VceSem → List OmxEvent

namespace OMXEventSyncList

/-- `SignalEvent`: the first registration that matches is removed and its semaphore signalled. -/
def SignalEvent (l : OMXEventSyncList) (e : OmxEvent) : OMXEventSyncList :=
  match l.mEventSignalQ.find? (·.awaits e) with
  | none => l
  | some w =>
    { mEventSignalQ := l.mEventSignalQ.eraseP (·.awaits e)
      signalled := Function.update l.signalled w.arg3 (l.signalled w.arg3 ++ [e]) }

/-- `RemoveEvent`: the first registration that matches is removed. -/
def RemoveEvent (l : OMXEventSyncList) (e : OmxEvent) : OMXEventSyncList :=
  { l with mEventSignalQ := l.mEventSignalQ.eraseP (·.awaits e) }

/-- The message of `RegisterForEvent` is added. -/
def add (l : OMXEventSyncList) (w : Waiter) : OMXEventSyncList :=
  { l with mEventSignalQ := l.mEventSignalQ ++ [w] }

/-- `FlushEvent`: all registrations are removed and their semaphores signalled. -/
def FlushEvent (l : OMXEventSyncList) (e : OmxEvent) : OMXEventSyncList :=
  { mEventSignalQ := []
    signalled := l.mEventSignalQ.foldl
      (fun signalled w => Function.update signalled w.arg3 (signalled w.arg3 ++ [e])) l.signalled }

/-- A semaphore is created anew. -/
def reset (l : OMXEventSyncList) (sem : VceSem) : OMXEventSyncList :=
  { l with signalled := Function.update l.signalled sem [] }

end OMXEventSyncList

/-! ### The encoder -/

/-- How `RegisterForEvent` ends: the message is added, there is no memory for it in the queue, or
there is none for the message itself, which is no error. -/
inductive Registration
  | added
  | noMemory
  | noMessage
  deriving DecidableEq, Repr

/-- The component's part in a command that is waited for: the events before the command is answered,
those up to the end of the wait, and if it times out those before the semaphore is created anew and
those before the registration is removed. -/
structure WaitAnswer where
  registered : Registration
  early : List OmxEvent
  command : OMX_ERRORTYPE
  during : List OmxEvent
  expired : List OmxEvent
  late : List OmxEvent

/-- The component's part in disabling a port, with the events before its buffers are freed. -/
structure PortAnswer extends WaitAnswer where
  freeing : List OmxEvent
  freeBuffer : Ptr → OMX_ERRORTYPE

/-- The component's part in `loadedToIdle`: the events before the first test, those before the
buffers are used, and for each input buffer and each output buffer the answer with the header (and
the buffer that was allocated). -/
structure IdleBuffersAnswer extends WaitAnswer where
  first : List OmxEvent
  handing : List OmxEvent
  useBuffer : Ptr → OMX_ERRORTYPE × Ptr
  allocateBuffer : ℕ → OMX_ERRORTYPE × Ptr × Ptr

/-- The component's part in one run of `switchToLoaded`. -/
structure ToLoadedAnswer where
  first : List OmxEvent
  toIdle : WaitAnswer
  second : List OmxEvent
  disableInput : PortAnswer
  disableOutput : PortAnswer
  toLoaded : WaitAnswer
  enableInput : OMX_ERRORTYPE
  enableOutput : OMX_ERRORTYPE

/-- The component's part in one run of `switchToExec`. -/
structure ToExecAnswer where
  first : List OmxEvent
  second : List OmxEvent
  disableInput : PortAnswer
  disableOutput : PortAnswer
  toIdle : WaitAnswer
  third : List OmxEvent
  toExec : WaitAnswer

/-- The component's part in one run of `execToIdle`. -/
structure ToIdleAnswer where
  first : List OmxEvent
  toIdle : WaitAnswer

/-- A wait that has succeeded: the command it was for, and the event whose signal it took. -/
structure WaitRecord where
  command : ℕ
  data : ℕ
  event : OmxEvent
  deriving DecidableEq, Repr

/-- The encoder. The state of the component is the number that the last event gave. -/
structure EventVce where
  mOmxHandle : Option Ptr
  mComponentState : ℕ
  /-- An observer is set. -/
  mObserver : Bool
  mInputPortIndex : ℕ
  mOutputPortIndex : ℕ
  mInputPortEnable : Bool
  mOutputPortEnable : Bool
  /-- The handles of the input buffers. -/
  mInputBuffers : List Ptr
  mOutputBufferCount : ℕ
  mInputBufferMap : KeyedVector Ptr Ptr
  mOutputBufferMap : KeyedVector Ptr Ptr
  mEventSyncList : OMXEventSyncList
  waits : List WaitRecord

namespace EventVce

/-- Statements that may end in `goto EXIT`, with the status at that point. -/
abbrev Statement := EStateM Status EventVce Unit

/-- The registrations are changed. -/
def sync (s : EventVce) (f : OMXEventSyncList → OMXEventSyncList) : EventVce :=
  { s with mEventSyncList := f s.mEventSyncList }

/-- The state is changed. -/
def setComponentState (s : EventVce) (state : OMX_STATETYPE) : EventVce :=
  { s with mComponentState := state.value }

/-- The part of `onEvent` for the completion of a change of state. -/
def onCmdComplete (e : OmxEvent) (s : EventVce) : EventVce :=
  if e.eEvent = OMX_EventCmdComplete ∧ e.nData1 = OMX_CommandStateSet then
    { s with mComponentState := e.nData2 }
  else s

/-- The part of `onEvent` for errors. -/
def onError (e : OmxEvent) (s : EventVce) : EventVce :=
  if e.fatal ∧ s.mObserver ∧ s.mComponentState ≠ OMX_STATETYPE.OMX_StateInvalid.value then
    (s.setComponentState .OMX_StateInvalid).sync (·.FlushEvent e)
  else s

/-- `onEvent`. -/
def onEvent (e : OmxEvent) (s : EventVce) : EventVce :=
  (onError e (onCmdComplete e s)).sync (·.SignalEvent e)

/-- Events come one after the other. -/
def deliver (events : List OmxEvent) (s : EventVce) : EventVce :=
  events.foldl (fun s e => onEvent e s) s

/-- `OMXVCE_GOTO_EXIT_IF`, and the tests of `ret`. -/
def check (ret : Status) : Statement := if ret = NO_ERROR then pure () else throw ret

/-- The test for a handle that the switches begin with. -/
def checkHandle : Statement := fun s =>
  if s.mOmxHandle = none then (throw NO_ERROR : Statement) s else (pure () : Statement) s

/-- A statement for one state of the component. -/
def whenState (state : OMX_STATETYPE) (p : Statement) : Statement := fun s =>
  if s.mComponentState = state.value then p s else (pure () : Statement) s

/-- A statement for all states of the component but one. -/
def unlessState (state : OMX_STATETYPE) (p : Statement) : Statement := fun s =>
  if s.mComponentState = state.value then (pure () : Statement) s else p s

/-- The end of `RegisterForEvent`. -/
def register (w : Waiter) : Registration → Statement
  | .added => modify (sync · (·.add w))
  | .noMemory => throw NO_MEMORY
  | .noMessage => pure ()

/-- `WaitTimeout`. If the time is up, the semaphore is created anew and the registration for the
event that `removal` gives is removed; the status is that of `sem_timedwait`. -/
def wait (w : Waiter) (removal : OmxEvent) (b : WaitAnswer) : Statement := fun s =>
  let s := deliver b.during s
  match s.mEventSyncList.signalled w.arg3 with
  | e :: rest =>
    .ok () { s with
      mEventSyncList := { s.mEventSyncList with
        signalled := Function.update s.mEventSyncList.signalled w.arg3 rest }
      waits := s.waits ++ [⟨w.arg1, w.arg2, e⟩] }
  | [] =>
    let s := (deliver b.expired s).sync (·.reset w.arg3)
    .error (-1#32) ((deliver b.late s).sync (·.RemoveEvent removal))

/-- Register for the completion of a command, send it, do what is needed for it to complete, and
wait. The removal is written out at each place. -/
def awaitCommand (w : Waiter) (removal : OmxEvent) (b : WaitAnswer) (body : Statement) :
    Statement := do
  register w b.registered
  modify (deliver b.early)
  check (omxToAndroidError b.command)
  body
  wait w removal b

/-- The registration for a change of state. -/
def stateWaiter (state : OMX_STATETYPE) (sem : VceSem) : Waiter :=
  ⟨OMX_EventCmdComplete, OMX_CommandStateSet, state.value, sem⟩

/-- The completion of a change of state. -/
def stateSet (state : OMX_STATETYPE) : OmxEvent := .complete OMX_CommandStateSet state.value

/-- The change to Idle, which `switchToExec`, `execToIdle` and `switchToLoaded` write out. -/
def changeToIdle (b : WaitAnswer) : Statement := do
  awaitCommand (stateWaiter .OMX_StateIdle .mSwitchToIdleSem) (stateSet .OMX_StateIdle) b (pure ())
  modify (setComponentState · .OMX_StateIdle)

/-- The change to Executing. The removal names Executing as the command and Idle as its data. -/
def changeToExec (b : WaitAnswer) : Statement := do
  awaitCommand (stateWaiter .OMX_StateExecuting .mSwitchToExecSem)
    (.complete OMX_STATETYPE.OMX_StateExecuting.value OMX_STATETYPE.OMX_StateIdle.value) b (pure ())
  modify (setComponentState · .OMX_StateExecuting)

/-- The change to Loaded. -/
def changeToLoaded (b : WaitAnswer) : Statement := do
  awaitCommand (stateWaiter .OMX_StateLoaded .mSwitchToLoadedSem) (stateSet .OMX_StateLoaded) b
    (pure ())
  modify (setComponentState · .OMX_StateLoaded)

/-- The loop over the buffers of a port. -/
def freeBuffers (answer : Ptr → OMX_ERRORTYPE) : List Ptr → Statement
  | [] => pure ()
  | header :: headers => do
    check (omxToAndroidError (answer header))
    freeBuffers answer headers

/-- The headers of a port's buffers. -/
def headers (s : EventVce) (port : ℕ) : List Ptr :=
  (if port = s.mInputPortIndex then s.mInputBufferMap else s.mOutputBufferMap).entries.map Sigma.snd

/-- All buffers of a port are freed. -/
def freeAllBuffers (port : ℕ) (b : PortAnswer) : Statement := do
  modify (deliver b.freeing)
  fun s => freeBuffers b.freeBuffer (s.headers port) s

/-- The flag of a port is cleared. -/
def clearEnable (s : EventVce) (port : ℕ) : EventVce :=
  if port = s.mInputPortIndex then { s with mInputPortEnable := false }
  else { s with mOutputPortEnable := false }

/-- The registration for the disabling of a port. -/
def portWaiter (port : ℕ) : Waiter :=
  ⟨OMX_EventCmdComplete, OMX_CommandPortDisable, port, .mPortDisableSem⟩

/-- The part of `disablePort` that may end at its `EXIT`. -/
def disablePortStatement (port : ℕ) (b : PortAnswer) : Statement := do
  awaitCommand (portWaiter port) (.complete OMX_CommandPortDisable port) b.toWaitAnswer
    (freeAllBuffers port b)
  modify (clearEnable · port)

/-- The end of a function with an empty `EXIT`. -/
def result : EStateM.Result Status EventVce Unit → Status × EventVce
  | .ok _ s => (NO_ERROR, s)
  | .error ret s => (ret, s)

/-- `disablePort`. -/
def disablePort (port : ℕ) (b : PortAnswer) (s : EventVce) : Status × EventVce :=
  if port = s.mInputPortIndex ∧ s.mInputPortEnable = false then (NO_ERROR, s)
  else if port = s.mOutputPortIndex ∧ s.mOutputPortEnable = false then (NO_ERROR, s)
  else result (disablePortStatement port b s)

/-- `disableAllPorts`. -/
def disableAllPorts (input output : PortAnswer) (s : EventVce) : Status × EventVce :=
  let (ret, s) := s.disablePort s.mInputPortIndex input
  let (ret', s) := s.disablePort s.mOutputPortIndex output
  (ret ||| ret', s)

/-- The flags of both ports are set. -/
def setEnable (s : EventVce) : EventVce :=
  { s with mInputPortEnable := true, mOutputPortEnable := true }

/-- The part of `switchToLoaded` from Idle. The status of `disableAllPorts` is not used. -/
def idleToLoaded (b : ToLoadedAnswer) : Statement := do
  modify fun s => (s.disableAllPorts b.disableInput b.disableOutput).2
  changeToLoaded b.toLoaded
  check (omxToAndroidError b.enableInput)
  check (omxToAndroidError b.enableOutput)
  modify setEnable

/-- `switchToLoaded` up to its `EXIT`. -/
def switchToLoadedStatement (b : ToLoadedAnswer) : Statement := do
  checkHandle
  modify (deliver b.first)
  whenState .OMX_StateExecuting (changeToIdle b.toIdle)
  modify (deliver b.second)
  whenState .OMX_StateIdle (idleToLoaded b)

/-- `switchToExec` up to its `EXIT`. -/
def switchToExecStatement (b : ToExecAnswer) : Statement := do
  checkHandle
  modify (deliver b.first)
  unlessState .OMX_StateExecuting do
    modify (deliver b.second)
    whenState .OMX_StateLoaded do
      modify fun s => (s.disableAllPorts b.disableInput b.disableOutput).2
      changeToIdle b.toIdle
    modify (deliver b.third)
    whenState .OMX_StateIdle (changeToExec b.toExec)

/-- `execToIdle` up to its `EXIT`. -/
def execToIdleStatement (b : ToIdleAnswer) : Statement := do
  checkHandle
  modify (deliver b.first)
  whenState .OMX_StateExecuting (changeToIdle b.toIdle)

/-- The loop of `loadedToIdle` over the input buffers. -/
def useInputBuffers (answer : Ptr → OMX_ERRORTYPE × Ptr) : List Ptr → Statement
  | [] => pure ()
  | handle :: handles => do
    check (omxToAndroidError (answer handle).1)
    modify fun s => { s with mInputBufferMap := s.mInputBufferMap.add handle (answer handle).2 }
    useInputBuffers answer handles

/-- The loop of `loadedToIdle` over the output buffers, from the `i`-th on. The map is extended
before the answer is looked at. -/
def allocateOutputBuffers (answer : ℕ → OMX_ERRORTYPE × Ptr × Ptr) : ℕ → ℕ → Statement
  | _, 0 => pure ()
  | i, n + 1 => do
    modify fun s =>
      { s with mOutputBufferMap := s.mOutputBufferMap.add (answer i).2.2 (answer i).2.1 }
    check (omxToAndroidError (answer i).1)
    allocateOutputBuffers answer (i + 1) n

/-- The buffers of both ports are handed to the component. -/
def useAllBuffers (b : IdleBuffersAnswer) : Statement := do
  modify (deliver b.handing)
  modify fun s => { s with mInputBufferMap := ∅ }
  fun s => useInputBuffers b.useBuffer s.mInputBuffers s
  modify fun s => { s with mOutputBufferMap := ∅ }
  fun s => allocateOutputBuffers b.allocateBuffer 0 s.mOutputBufferCount s

/-- `loadedToIdle` up to its `EXIT`. -/
def loadedToIdleStatement (b : IdleBuffersAnswer) : Statement := do
  modify (deliver b.first)
  whenState .OMX_StateLoaded do
    awaitCommand (stateWaiter .OMX_StateIdle .mSwitchToIdleSem) (stateSet .OMX_StateIdle)
      b.toWaitAnswer (useAllBuffers b)
    modify (setComponentState · .OMX_StateIdle)

/-- `loadedToIdle`. -/
def loadedToIdle (b : IdleBuffersAnswer) (s : EventVce) : Status × EventVce :=
  result (loadedToIdleStatement b s)

/-- The end of a switch: its result, or at its `EXIT` a call of `freeOmxHandle`. -/
def atExit (freeOmxHandle : EventVce → Option (Status × EventVce)) :
    EStateM.Result Status EventVce Unit → Option (Status × EventVce)
  | .ok _ s => some (NO_ERROR, s)
  | .error ret s => (freeOmxHandle s).map fun r => (ret, r.2)

/-- The handle is forgotten. -/
def releaseHandle (s : EventVce) : EventVce :=
  { s with mOmxHandle := none, mComponentState := OMX_STATETYPE.OMX_StateInvalid.value }

/-- `freeOmxHandle` with its recursive calls; level `n` of the recursion meets the component's
answers `b n`, and `none` is a call that has used up its fuel. -/
def freeOmxHandle : ℕ → (ℕ → ToLoadedAnswer) → EventVce → Option (Status × EventVce)
  | 0, _, _ => none
  | fuel + 1, b, s =>
    if s.mOmxHandle = none then some (NO_ERROR, s.setComponentState .OMX_StateInvalid)
    else (atExit (freeOmxHandle fuel fun n => b (n + 1)) (switchToLoadedStatement (b 0) s)).map
      fun r => (NO_ERROR, r.2.releaseHandle)

/-- `switchToLoaded`. -/
def switchToLoaded (fuel : ℕ) (b : ℕ → ToLoadedAnswer) (s : EventVce) :
    Option (Status × EventVce) :=
  atExit (freeOmxHandle fuel fun n => b (n + 1)) (switchToLoadedStatement (b 0) s)

/-- `switchToExec`. -/
def switchToExec (fuel : ℕ) (e : ToExecAnswer) (b : ℕ → ToLoadedAnswer) (s : EventVce) :
    Option (Status × EventVce) :=
  atExit (freeOmxHandle fuel b) (switchToExecStatement e s)

/-- `execToIdle`. -/
def execToIdle (fuel : ℕ) (e : ToIdleAnswer) (b : ℕ → ToLoadedAnswer) (s : EventVce) :
    Option (Status × EventVce) :=
  atExit (freeOmxHandle fuel b) (execToIdleStatement e s)

end EventVce

/-! ### Registrations and signals -/

namespace OMXEventSyncList

/-- No registration and no signal. -/
def idle : OMXEventSyncList := ⟨[], fun _ => []⟩

/-- One registration, and no signal. -/
def pending (w : Waiter) : OMXEventSyncList := ⟨[w], fun _ => []⟩

/-- One signal, and no registration. -/
def answered (w : Waiter) (e : OmxEvent) : OMXEventSyncList :=
  ⟨[], Function.update (fun _ => []) w.arg3 [e]⟩

/-- Registering. -/
lemma add_idle (w : Waiter) : idle.add w = pending w := rfl

/-- Without a registration an event signals nothing. -/
lemma signalEvent_of_nil {l : OMXEventSyncList} (h : l.mEventSignalQ = []) (e : OmxEvent) :
    l.SignalEvent e = l := by
  simp only [SignalEvent, h, List.find?_nil]

/-- Nor does an error. -/
lemma flushEvent_of_nil {l : OMXEventSyncList} (h : l.mEventSignalQ = []) (e : OmxEvent) :
    l.FlushEvent e = l := by
  obtain ⟨queue, signalled⟩ := l
  obtain rfl : queue = [] := h
  rfl

/-- The one registration is signalled if it matches. -/
lemma signalEvent_pending (w : Waiter) (e : OmxEvent) :
    (pending w).SignalEvent e = if w.awaits e then answered w e else pending w := by
  by_cases h : w.awaits e = true
  · simp [SignalEvent, pending, answered, h]
  · rw [Bool.not_eq_true] at h
    simp [SignalEvent, pending, h]

/-- An error signals it in any case. -/
lemma flushEvent_pending (w : Waiter) (e : OmxEvent) :
    (pending w).FlushEvent e = answered w e := rfl

/-- The one registration is removed if it matches. -/
lemma removeEvent_pending {w : Waiter} {e : OmxEvent} (h : w.awaits e = true) :
    (pending w).RemoveEvent e = idle := by
  simp [RemoveEvent, pending, idle, h]

/-- Without a registration there is none to remove. -/
lemma removeEvent_idle (e : OmxEvent) : idle.RemoveEvent e = idle := rfl

/-- A semaphore that is created anew has lost its signals. -/
lemma reset_answered (w : Waiter) (e : OmxEvent) : (answered w e).reset w.arg3 = idle := by
  simp [reset, answered, idle]

/-- Other semaphores keep them. -/
lemma reset_of_nil {l : OMXEventSyncList} {sem : VceSem} (h : l.signalled sem = []) :
    l.reset sem = l := by
  obtain ⟨queue, signalled⟩ := l
  simp only [reset, ← h, Function.update_eq_self]

end OMXEventSyncList

/-- An event that may end the registration. -/
def Waiter.reaches (w : Waiter) (e : OmxEvent) : Bool := w.awaits e || e.fatal

/-- The event that is registered for. -/
def Waiter.completion (w : Waiter) : OmxEvent := ⟨w.command, w.arg1, w.arg2⟩

namespace EventVce

open OMXEventSyncList

/-- Every wait that has succeeded took the event of its own command. -/
def Own (s : EventVce) : Prop := ∀ r ∈ s.waits, r.event = .complete r.command r.data

/-- No registration and no signal is left, and every wait that has succeeded took the event of its
own command. -/
def Clean (s : EventVce) : Prop := s.mEventSyncList = idle ∧ s.Own

/-- The encoder is clean and has the given ports. -/
structure At (input output : ℕ) (s : EventVce) : Prop where
  clean : s.Clean
  input_eq : s.mInputPortIndex = input
  output_eq : s.mOutputPortIndex = output

/-- The parts of the state that registrations, signals and ports make up. -/
structure Same (s s' : EventVce) : Prop where
  list : s'.mEventSyncList = s.mEventSyncList
  waits : s'.waits = s.waits
  input_eq : s'.mInputPortIndex = s.mInputPortIndex
  output_eq : s'.mOutputPortIndex = s.mOutputPortIndex

/-- Nothing happens. -/
lemma Same.refl (s : EventVce) : Same s s := ⟨rfl, rfl, rfl, rfl⟩

/-- Clean is a matter of these parts. -/
lemma At.of_same {input output : ℕ} {s s' : EventVce} (h : s.At input output)
    (hsame : Same s s') : s'.At input output := by
  refine ⟨⟨hsame.list.trans h.clean.1, ?_⟩, hsame.input_eq.trans h.input_eq,
    hsame.output_eq.trans h.output_eq⟩
  unfold Own
  rw [hsame.waits]
  exact h.clean.2

/-- What an event does to the registrations: it may flush them, if it is fatal, and signals. -/
lemma onEvent_list (e : OmxEvent) (s : EventVce) :
    (onEvent e s).mEventSyncList = s.mEventSyncList.SignalEvent e ∨
      e.fatal = true ∧
        (onEvent e s).mEventSyncList = (s.mEventSyncList.FlushEvent e).SignalEvent e := by
  have hcomplete : (onCmdComplete e s).mEventSyncList = s.mEventSyncList := by
    unfold onCmdComplete
    split_ifs <;> rfl
  show ((onError e (onCmdComplete e s)).mEventSyncList).SignalEvent e = _ ∨ _ ∧
    ((onError e (onCmdComplete e s)).mEventSyncList).SignalEvent e = _
  unfold onError
  split_ifs with h
  · right
    refine ⟨h.1, ?_⟩
    show ((onCmdComplete e s).mEventSyncList.FlushEvent e).SignalEvent e = _
    rw [hcomplete]
  · left
    rw [hcomplete]

/-- An event changes neither the record of the waits nor the ports. -/
lemma onEvent_frame (e : OmxEvent) (s : EventVce) :
    (onEvent e s).waits = s.waits ∧ (onEvent e s).mInputPortIndex = s.mInputPortIndex ∧
      (onEvent e s).mOutputPortIndex = s.mOutputPortIndex := by
  unfold onEvent onError onCmdComplete
  split_ifs <;> exact ⟨rfl, rfl, rfl⟩

/-- Without a registration, an event changes no signals either. -/
lemma onEvent_same {s : EventVce} (h : s.mEventSyncList.mEventSignalQ = []) (e : OmxEvent) :
    Same s (onEvent e s) := by
  obtain ⟨hwaits, hinput, houtput⟩ := onEvent_frame e s
  refine ⟨?_, hwaits, hinput, houtput⟩
  rcases onEvent_list e s with hlist | ⟨-, hlist⟩
  · rw [hlist, signalEvent_of_nil h]
  · rw [hlist, flushEvent_of_nil h, signalEvent_of_nil h]

/-- What an event does to the one registration. -/
lemma onEvent_pending {s : EventVce} {w : Waiter} (h : s.mEventSyncList = pending w)
    (e : OmxEvent) :
    ((onEvent e s).mEventSyncList = pending w ∧ w.awaits e = false) ∨
      ((onEvent e s).mEventSyncList = answered w e ∧ w.reaches e = true) := by
  rcases onEvent_list e s with hlist | ⟨hfatal, hlist⟩
  · rw [h, signalEvent_pending] at hlist
    by_cases hawaits : w.awaits e = true
    · rw [if_pos hawaits] at hlist
      exact Or.inr ⟨hlist, by rw [Waiter.reaches, hawaits, Bool.true_or]⟩
    · rw [if_neg hawaits] at hlist
      exact Or.inl ⟨hlist, Bool.eq_false_iff.mpr hawaits⟩
  · rw [h, flushEvent_pending, signalEvent_of_nil rfl] at hlist
    exact Or.inr ⟨hlist, by rw [Waiter.reaches, hfatal, Bool.or_true]⟩

/-- Without a registration, events change no signals. -/
lemma deliver_same {s : EventVce} (h : s.mEventSyncList.mEventSignalQ = [])
    (events : List OmxEvent) : Same s (deliver events s) := by
  induction events generalizing s with
  | nil => exact Same.refl s
  | cons e events ih =>
    obtain ⟨hlist, hwaits, hinput, houtput⟩ := onEvent_same h e
    have hrest := ih (s := onEvent e s) (by rw [hlist, h])
    exact ⟨hrest.list.trans hlist, hrest.waits.trans hwaits, hrest.input_eq.trans hinput,
      hrest.output_eq.trans houtput⟩

/-- Events change neither the record of the waits nor the ports. -/
lemma deliver_frame (events : List OmxEvent) (s : EventVce) :
    (deliver events s).waits = s.waits ∧
      (deliver events s).mInputPortIndex = s.mInputPortIndex ∧
        (deliver events s).mOutputPortIndex = s.mOutputPortIndex := by
  induction events generalizing s with
  | nil => exact ⟨rfl, rfl, rfl⟩
  | cons e events ih =>
    obtain ⟨hwaits, hinput, houtput⟩ := onEvent_frame e s
    obtain ⟨hwaits', hinput', houtput'⟩ := ih (onEvent e s)
    exact ⟨hwaits'.trans hwaits, hinput'.trans hinput, houtput'.trans houtput⟩

/-- What events do to the one registration. -/
lemma deliver_pending {s : EventVce} {w : Waiter} (h : s.mEventSyncList = pending w)
    (events : List OmxEvent) :
    ((deliver events s).mEventSyncList = pending w ∧ ∀ e ∈ events, w.awaits e = false) ∨
      ∃ e ∈ events, (deliver events s).mEventSyncList = answered w e ∧ w.reaches e = true := by
  induction events generalizing s with
  | nil => exact Or.inl ⟨h, List.forall_mem_nil _⟩
  | cons e events ih =>
    rcases onEvent_pending h e with ⟨hpending, hawaits⟩ | ⟨hanswered, hreaches⟩
    · rcases ih hpending with ⟨hlist, hall⟩ | ⟨e', hmem, hlist, hreaches⟩
      · exact Or.inl ⟨hlist, List.forall_mem_cons.mpr ⟨hawaits, hall⟩⟩
      · exact Or.inr ⟨e', List.mem_cons_of_mem e hmem, hlist, hreaches⟩
    · have hsame := deliver_same (s := onEvent e s) (by rw [hanswered]; rfl) events
      exact Or.inr ⟨e, List.mem_cons_self, hsame.list.trans hanswered, hreaches⟩

end EventVce

/-! ### One command -/

/-- The component answers a command that was registered for: it takes the command, the first event
that may end the registration is the completion, and if none comes before the semaphore is created
anew, none comes before the removal, which removes the registration. -/
structure WaitAnswer.Prompt (b : WaitAnswer) (w : Waiter) (removal : OmxEvent)
    (handing : List OmxEvent) : Prop where
  command : b.command = .OMX_ErrorNone
  own : ∀ e, (b.early ++ (handing ++ b.during)).find? w.reaches = some e → e = w.completion
  late : (∀ e ∈ b.early ++ handing ++ b.during ++ b.expired, w.awaits e = false) →
    (∀ e ∈ b.late, w.reaches e = false) ∧ w.awaits removal = true

/-- The completion is awaited. -/
lemma Waiter.awaits_completion (w : Waiter) : w.awaits w.completion = true := by
  simp [Waiter.awaits, Waiter.completion]

namespace EventVce

open OMXEventSyncList

variable {input output : ℕ}

/-- Between a registration and the end of its wait: no event of `past` has matched, and of the
events to come the first that may end the registration is the completion; or the completion has
come. -/
structure Awaiting (input output : ℕ) (w : Waiter) (past rest : List OmxEvent) (s : EventVce) :
    Prop where
  own : s.Own
  input_eq : s.mInputPortIndex = input
  output_eq : s.mOutputPortIndex = output
  list : (s.mEventSyncList = pending w ∧ (∀ e ∈ past, w.awaits e = false) ∧
      ∀ e, rest.find? w.reaches = some e → e = w.completion) ∨
    s.mEventSyncList = answered w w.completion

/-- The wait is a matter of the registrations, the record and the ports. -/
lemma Awaiting.of_same {w : Waiter} {past rest : List OmxEvent} {s s' : EventVce}
    (h : s.Awaiting input output w past rest) (hsame : Same s s') :
    s'.Awaiting input output w past rest := by
  refine ⟨?_, hsame.input_eq.trans h.input_eq, hsame.output_eq.trans h.output_eq, ?_⟩
  · unfold Own
    rw [hsame.waits]
    exact h.own
  · rw [hsame.list]
    exact h.list

/-- One event while a command is awaited. -/
lemma Awaiting.onEvent {w : Waiter} {past rest : List OmxEvent} {s : EventVce} {e : OmxEvent}
    (h : s.Awaiting input output w past (e :: rest)) :
    (onEvent e s).Awaiting input output w (past ++ [e]) rest := by
  obtain ⟨hwaits, hinput, houtput⟩ := onEvent_frame e s
  refine ⟨?_, hinput.trans h.input_eq, houtput.trans h.output_eq, ?_⟩
  · unfold Own
    rw [hwaits]
    exact h.own
  · rcases h.list with ⟨hpending, hpast, hown⟩ | hanswered
    · rcases onEvent_pending hpending e with ⟨hlist, hawaits⟩ | ⟨hlist, hreaches⟩
      · refine Or.inl ⟨hlist, fun e' he' => ?_, fun e' he' => hown e' ?_⟩
        · rcases List.mem_append.mp he' with he' | he'
          · exact hpast e' he'
          · rwa [List.mem_singleton.mp he']
        · -- an event that may end the registration is the completion, which would have done so
          rw [List.find?_cons_of_neg, he']
          intro hreaches
          obtain rfl := hown e (List.find?_cons_of_pos hreaches)
          rw [w.awaits_completion] at hawaits
          cases hawaits
      · obtain rfl := hown e (List.find?_cons_of_pos hreaches)
        exact Or.inr hlist
    · right
      have hsame := onEvent_same (s := s) (by rw [hanswered]; rfl) e
      exact hsame.list.trans hanswered

/-- Events while a command is awaited. -/
lemma Awaiting.deliver {w : Waiter} {past rest : List OmxEvent} {s : EventVce}
    (events : List OmxEvent) (h : s.Awaiting input output w past (events ++ rest)) :
    (deliver events s).Awaiting input output w (past ++ events) rest := by
  induction events generalizing s past with
  | nil =>
    rw [List.append_nil]
    exact h
  | cons e events ih =>
    have hnext := ih (s := EventVce.onEvent e s) h.onEvent
    rwa [List.append_assoc, List.singleton_append] at hnext

/-- The removal of a registration whose event has not come. -/
lemma at_of_timeout {w : Waiter} {removal : OmxEvent} {b : WaitAnswer} {s : EventVce}
    (hown : s.Own) (hinput : s.mInputPortIndex = input) (houtput : s.mOutputPortIndex = output)
    (hpending : s.mEventSyncList = pending w)
    (hlate : (∀ e ∈ b.expired, w.awaits e = false) →
      (∀ e ∈ b.late, w.reaches e = false) ∧ w.awaits removal = true) :
    ((EventVce.deliver b.late ((EventVce.deliver b.expired s).sync (·.reset w.arg3))).sync
      (·.RemoveEvent removal)).At input output := by
  obtain ⟨hwaits, hin, hout⟩ := deliver_frame b.expired s
  obtain ⟨hwaits', hin', hout'⟩ := deliver_frame b.late
    ((EventVce.deliver b.expired s).sync (·.reset w.arg3))
  refine ⟨⟨?_, ?_⟩, (hin'.trans hin).trans hinput, (hout'.trans hout).trans houtput⟩
  · show (EventVce.deliver b.late _).mEventSyncList.RemoveEvent removal = idle
    rcases deliver_pending hpending b.expired with ⟨hlist, hall⟩ | ⟨e, -, hlist, -⟩
    · obtain ⟨hnone, hremoval⟩ := hlate hall
      have hreset : ((EventVce.deliver b.expired s).sync (·.reset w.arg3)).mEventSyncList =
          pending w := by
        show (EventVce.deliver b.expired s).mEventSyncList.reset w.arg3 = _
        rw [hlist, reset_of_nil rfl]
      rcases deliver_pending hreset b.late with ⟨hlist', -⟩ | ⟨e, hmem, -, hreaches⟩
      · rw [hlist', removeEvent_pending hremoval]
      · rw [hnone e hmem] at hreaches
        cases hreaches
    · have hreset : ((EventVce.deliver b.expired s).sync (·.reset w.arg3)).mEventSyncList =
          idle := by
        show (EventVce.deliver b.expired s).mEventSyncList.reset w.arg3 = _
        rw [hlist, reset_answered]
      rw [(deliver_same (by rw [hreset]; rfl) b.late).list, hreset, removeEvent_idle]
  · show ∀ r ∈ (EventVce.deliver b.late _).waits, _
    rw [hwaits']
    show ∀ r ∈ (EventVce.deliver b.expired s).waits, _
    rw [hwaits]
    exact hown

/-- The wait for a command that is awaited. -/
lemma triple_wait {w : Waiter} {removal : OmxEvent} {b : WaitAnswer} {past : List OmxEvent}
    (hw : w.command = OMX_EventCmdComplete)
    (hlate : (∀ e ∈ past ++ b.during ++ b.expired, w.awaits e = false) →
      (∀ e ∈ b.late, w.reaches e = false) ∧ w.awaits removal = true) :
    Triple (Awaiting input output w past b.during) (wait w removal b) (At input output)
      (At input output) := by
  intro s hs
  have hduring : (EventVce.deliver b.during s).Awaiting input output w (past ++ b.during) [] :=
    Awaiting.deliver b.during (by rwa [List.append_nil])
  rcases hduring.list with ⟨hpending, hpast, -⟩ | hanswered
  · have hwait : wait w removal b s = .error (-1#32)
        ((EventVce.deliver b.late ((EventVce.deliver b.expired (EventVce.deliver b.during s)).sync
          (·.reset w.arg3))).sync (·.RemoveEvent removal)) := by
      simp only [wait, hpending]
      rfl
    rw [hwait]
    refine at_of_timeout hduring.own hduring.input_eq hduring.output_eq hpending fun hall => ?_
    refine hlate fun e he => ?_
    rcases List.mem_append.mp he with he | he
    · exact hpast e he
    · exact hall e he
  · have hsignalled : (EventVce.deliver b.during s).mEventSyncList.signalled w.arg3 =
        [w.completion] := by
      simp only [hanswered, answered, Function.update_self]
    have hwait : wait w removal b s = .ok () { EventVce.deliver b.during s with
        mEventSyncList := { (EventVce.deliver b.during s).mEventSyncList with
          signalled := Function.update (EventVce.deliver b.during s).mEventSyncList.signalled
            w.arg3 [] }
        waits := (EventVce.deliver b.during s).waits ++ [⟨w.arg1, w.arg2, w.completion⟩] } := by
      simp only [wait, hsignalled]
    rw [hwait]
    refine ⟨⟨?_, fun r hr => ?_⟩, hduring.input_eq, hduring.output_eq⟩
    · show OMXEventSyncList.mk _ _ = idle
      rw [hanswered]
      exact reset_answered w w.completion
    · rcases List.mem_append.mp hr with hr | hr
      · exact hduring.own r hr
      · obtain rfl := List.mem_singleton.mp hr
        show Waiter.completion w = _
        rw [Waiter.completion, hw]
        rfl

/-- Without a registration the wait times out and leaves nothing. -/
lemma keeps_wait (w : Waiter) (removal : OmxEvent) (b : WaitAnswer) :
    Keeps (At input output) (wait w removal b) := by
  intro s hs
  have hnil : ∀ {s : EventVce}, s.At input output → s.mEventSyncList.mEventSignalQ = [] :=
    fun h => by rw [h.clean.1]; rfl
  have hduring := hs.of_same (deliver_same (hnil hs) b.during)
  have hexpired := hduring.of_same (deliver_same (hnil hduring) b.expired)
  have hreset : ((EventVce.deliver b.expired (EventVce.deliver b.during s)).sync
      (·.reset w.arg3)).At input output := by
    refine hexpired.of_same ⟨reset_of_nil ?_, rfl, rfl, rfl⟩
    rw [hexpired.clean.1]
    rfl
  have hlate := hreset.of_same (deliver_same (hnil hreset) b.late)
  have hwait : wait w removal b s = .error (-1#32)
      ((EventVce.deliver b.late ((EventVce.deliver b.expired (EventVce.deliver b.during s)).sync
        (·.reset w.arg3))).sync (·.RemoveEvent removal)) := by
    simp only [wait, hduring.clean.1]
    rfl
  rw [hwait]
  refine hlate.of_same ⟨?_, rfl, rfl, rfl⟩
  show (EventVce.deliver b.late _).mEventSyncList.RemoveEvent removal = _
  rw [hlate.clean.1]
  rfl

end EventVce

namespace EventVce

open OMXEventSyncList

variable {input output : ℕ}

/-- A clean state before events is clean after them. -/
lemma keeps_deliver (events : List OmxEvent) :
    Keeps (At input output) (modify (EventVce.deliver events) : Statement) := by
  refine Triple.modify fun s hs => hs.of_same (deliver_same ?_ events)
  rw [hs.clean.1]
  rfl

/-- A condition on the registrations, the record and the ports. -/
def Stable (P : EventVce → Prop) : Prop := ∀ s s', Same s s' → P s → P s'

/-- A change of other parts of the state. -/
lemma triple_modify {P E : EventVce → Prop} (hP : Stable P) {f : EventVce → EventVce}
    (h : ∀ s, Same s (f s)) : Triple P (modify f : Statement) P E :=
  Triple.modify fun s hs => hP s (f s) (h s) hs

/-- To be clean is such a condition. -/
lemma stable_at : Stable (At input output) := fun _ _ hsame h => h.of_same hsame

/-- So is to await a command. -/
lemma stable_awaiting (w : Waiter) (past rest : List OmxEvent) :
    Stable (Awaiting input output w past rest) := fun _ _ hsame h => h.of_same hsame

/-- A test of a status. -/
lemma keeps_check {P : EventVce → Prop} (ret : Status) : Keeps P (check ret) := by
  unfold check
  split_ifs
  · exact Triple.pure fun _ h => h
  · exact Triple.throw fun _ h => h

/-- Nothing is done. -/
lemma triple_pure {P E : EventVce → Prop} : Triple P (pure () : Statement) P E :=
  Triple.pure fun _ h => h

/-- A test that is passed. -/
lemma check_none {P E : EventVce → Prop} {error : OMX_ERRORTYPE} (h : error = .OMX_ErrorNone) :
    Triple P (check (omxToAndroidError error)) P E := by
  subst h
  exact Triple.pure fun _ hs => hs

/-- **A command with prompt answers leaves nothing behind.** Registering, sending, what is done in
between and waiting keep the encoder clean, if the component's answers to a registration that was
made are prompt and what is done in between does not jump.

**Proof sketch.** After the registration, the events that come either leave it, or the first that
may end it is the completion, which signals the semaphore. The wait takes that signal; or it times
out, and then the registration is gone or the removal finds it. -/
theorem keeps_awaitCommand {w : Waiter} {removal : OmxEvent} {b : WaitAnswer} {body : Statement}
    {handing : List OmxEvent} (hw : w.command = OMX_EventCmdComplete)
    (hprompt : b.registered = .added → b.Prompt w removal handing)
    (hkeep : Keeps (At input output) body)
    (hbody : b.registered = .added →
      Triple (Awaiting input output w b.early (handing ++ b.during)) body
        (Awaiting input output w (b.early ++ handing) b.during) fun _ => False) :
    Keeps (At input output) (awaitCommand w removal b body) := by
  unfold awaitCommand
  cases hregistered : b.registered with
  | added =>
    obtain ⟨hcommand, hown, hlate⟩ := hprompt hregistered
    have hregister : Triple (At input output) (register w .added)
        (Awaiting input output w [] (b.early ++ (handing ++ b.during))) (At input output) := by
      refine Triple.modify fun s hs => ⟨hs.clean.2, hs.input_eq, hs.output_eq, Or.inl
        ⟨?_, List.forall_mem_nil _, hown⟩⟩
      show s.mEventSyncList.add w = _
      rw [hs.clean.1, add_idle]
    have hearly : Triple (Awaiting input output w [] (b.early ++ (handing ++ b.during)))
        (modify (EventVce.deliver b.early) : Statement)
        (Awaiting input output w b.early (handing ++ b.during)) (At input output) :=
      Triple.modify fun s hs => hs.deliver b.early
    have hlast : Triple (Awaiting input output w b.early (handing ++ b.during)) body
        (Awaiting input output w (b.early ++ handing) b.during) (At input output) :=
      Triple.imp (hbody hregistered) (fun _ h => h) (fun _ h => h) fun _ h => h.elim
    exact hregister.seq (hearly.seq ((check_none hcommand).seq (hlast.seq (triple_wait hw hlate))))
  | noMemory =>
    have hregister : Triple (At input output) (register w .noMemory) (fun _ => False)
        (At input output) := Triple.throw fun _ h => h
    exact hregister.seq fun _ h => h.elim
  | noMessage =>
    exact triple_pure.seq ((keeps_deliver _).seq ((keeps_check _).seq (hkeep.seq
      (keeps_wait w removal b))))

/-- A command with nothing to do in between. -/
lemma keeps_awaitCommand_pure {w : Waiter} {removal : OmxEvent} {b : WaitAnswer}
    (hw : w.command = OMX_EventCmdComplete)
    (hprompt : b.registered = .added → b.Prompt w removal []) :
    Keeps (At input output) (awaitCommand w removal b (pure ())) :=
  keeps_awaitCommand hw hprompt triple_pure fun _ => Triple.pure fun s hs => by
    rwa [List.append_nil]

end EventVce

/-! ### Prompt answers -/

/-- Prompt answers to the disabling of a port; the component frees its buffers. -/
def PortAnswer.Prompt (b : PortAnswer) (port : ℕ) : Prop :=
  b.registered = .added →
    b.toWaitAnswer.Prompt (EventVce.portWaiter port) (.complete OMX_CommandPortDisable port)
      b.freeing ∧ ∀ header, b.freeBuffer header = .OMX_ErrorNone

/-- Prompt answers in `loadedToIdle`; the component takes the buffers. -/
def IdleBuffersAnswer.Prompt (b : IdleBuffersAnswer) : Prop :=
  b.registered = .added →
    b.toWaitAnswer.Prompt (EventVce.stateWaiter .OMX_StateIdle .mSwitchToIdleSem)
      (EventVce.stateSet .OMX_StateIdle) b.handing ∧
    (∀ handle, (b.useBuffer handle).1 = .OMX_ErrorNone) ∧
    ∀ i, (b.allocateBuffer i).1 = .OMX_ErrorNone

/-- Prompt answers to a change of state with the removal of the same event. -/
def WaitAnswer.PromptState (b : WaitAnswer) (state : OMX_STATETYPE) (sem : VceSem) : Prop :=
  b.registered = .added →
    b.Prompt (EventVce.stateWaiter state sem) (EventVce.stateSet state) []

/-- Prompt answers to the change to Executing. The removal does not find the registration, so the
wait does not time out before it is ended. -/
def WaitAnswer.PromptExec (b : WaitAnswer) : Prop :=
  b.registered = .added →
    b.Prompt (EventVce.stateWaiter .OMX_StateExecuting .mSwitchToExecSem)
      (.complete OMX_STATETYPE.OMX_StateExecuting.value OMX_STATETYPE.OMX_StateIdle.value) []

/-- Prompt answers in one run of `switchToLoaded`. -/
structure ToLoadedAnswer.Prompt (b : ToLoadedAnswer) (input output : ℕ) : Prop where
  toIdle : b.toIdle.PromptState .OMX_StateIdle .mSwitchToIdleSem
  disableInput : b.disableInput.Prompt input
  disableOutput : b.disableOutput.Prompt output
  toLoaded : b.toLoaded.PromptState .OMX_StateLoaded .mSwitchToLoadedSem

/-- Prompt answers in one run of `switchToExec`. -/
structure ToExecAnswer.Prompt (b : ToExecAnswer) (input output : ℕ) : Prop where
  disableInput : b.disableInput.Prompt input
  disableOutput : b.disableOutput.Prompt output
  toIdle : b.toIdle.PromptState .OMX_StateIdle .mSwitchToIdleSem
  toExec : b.toExec.PromptExec

namespace EventVce

open OMXEventSyncList

variable {input output : ℕ}

/-- A statement for one state keeps what the statement keeps. -/
lemma keeps_whenState {p : Statement} (state : OMX_STATETYPE) (h : Keeps (At input output) p) :
    Keeps (At input output) (whenState state p) := Keeps.ite h triple_pure

/-- A statement for other states keeps what the statement keeps. -/
lemma keeps_unlessState {p : Statement} (state : OMX_STATETYPE) (h : Keeps (At input output) p) :
    Keeps (At input output) (unlessState state p) := Keeps.ite triple_pure h

/-- The test for a handle. -/
lemma keeps_checkHandle : Keeps (At input output) checkHandle :=
  Keeps.ite (Triple.throw fun _ h => h) triple_pure

/-- The change to Idle. -/
lemma keeps_changeToIdle {b : WaitAnswer} (h : b.PromptState .OMX_StateIdle .mSwitchToIdleSem) :
    Keeps (At input output) (changeToIdle b) :=
  (keeps_awaitCommand_pure rfl h).seq (triple_modify stable_at fun _ => ⟨rfl, rfl, rfl, rfl⟩)

/-- The change to Executing. -/
lemma keeps_changeToExec {b : WaitAnswer} (h : b.PromptExec) :
    Keeps (At input output) (changeToExec b) :=
  (keeps_awaitCommand_pure rfl h).seq (triple_modify stable_at fun _ => ⟨rfl, rfl, rfl, rfl⟩)

/-- The change to Loaded. -/
lemma keeps_changeToLoaded {b : WaitAnswer}
    (h : b.PromptState .OMX_StateLoaded .mSwitchToLoadedSem) :
    Keeps (At input output) (changeToLoaded b) :=
  (keeps_awaitCommand_pure rfl h).seq (triple_modify stable_at fun _ => ⟨rfl, rfl, rfl, rfl⟩)

/-- The loop that frees buffers only looks at the answers. -/
lemma triple_freeBuffers {P E : EventVce → Prop} {answer : Ptr → OMX_ERRORTYPE}
    (h : ∀ header, Triple P (check (omxToAndroidError (answer header))) P E) (l : List Ptr) :
    Triple P (freeBuffers answer l) P E := by
  induction l with
  | nil => exact triple_pure
  | cons header l ih => exact (h header).seq ih

/-- Disabling a port with prompt answers. -/
lemma keeps_disablePortStatement {port : ℕ} {b : PortAnswer} (h : b.Prompt port) :
    Keeps (At input output) (disablePortStatement port b) := by
  have hclear : ∀ s : EventVce, Same s (s.clearEnable port) := by
    intro s
    unfold clearEnable
    split_ifs <;> exact ⟨rfl, rfl, rfl, rfl⟩
  refine Keeps.seq (keeps_awaitCommand rfl (fun hadded => (h hadded).1) ?_ fun hadded => ?_)
    (triple_modify stable_at hclear)
  · exact (keeps_deliver _).seq fun s hs => triple_freeBuffers (fun _ => keeps_check _) _ s hs
  · refine Triple.seq (Triple.modify fun s hs => hs.deliver b.freeing) fun s hs => ?_
    exact triple_freeBuffers (fun header => check_none ((h hadded).2 header)) _ s hs

/-- `disablePort` with prompt answers. -/
lemma At.disablePort {s : EventVce} (hs : s.At input output) {port : ℕ} {b : PortAnswer}
    (h : b.Prompt port) : (s.disablePort port b).2.At input output := by
  unfold EventVce.disablePort
  split_ifs
  · exact hs
  · exact hs
  · cases hp : disablePortStatement port b s with
    | ok u s' => exact (keeps_disablePortStatement h).of_ok hs hp
    | error ret s' => exact (keeps_disablePortStatement h).of_error hs hp

/-- `disableAllPorts` with prompt answers. -/
lemma keeps_disableAllPorts {b b' : PortAnswer} (h : b.Prompt input) (h' : b'.Prompt output) :
    Keeps (At input output)
      (modify fun s : EventVce => (s.disableAllPorts b b').2 : Statement) := by
  refine Triple.modify fun s hs => ?_
  have hinput : (s.disablePort s.mInputPortIndex b).2.At input output :=
    hs.disablePort (hs.input_eq ▸ h)
  exact hinput.disablePort (hinput.output_eq ▸ h')

/-- `switchToLoaded` up to its `EXIT`. -/
lemma keeps_switchToLoadedStatement {b : ToLoadedAnswer} (h : b.Prompt input output) :
    Keeps (At input output) (switchToLoadedStatement b) := by
  have hidle : Keeps (At input output) (idleToLoaded b) :=
    (keeps_disableAllPorts h.disableInput h.disableOutput).seq
      ((keeps_changeToLoaded h.toLoaded).seq ((keeps_check _).seq ((keeps_check _).seq
        (triple_modify stable_at fun _ => ⟨rfl, rfl, rfl, rfl⟩))))
  exact keeps_checkHandle.seq ((keeps_deliver _).seq
    ((keeps_whenState _ (keeps_changeToIdle h.toIdle)).seq ((keeps_deliver _).seq
      (keeps_whenState _ hidle))))

/-- `switchToExec` up to its `EXIT`. -/
lemma keeps_switchToExecStatement {b : ToExecAnswer} (h : b.Prompt input output) :
    Keeps (At input output) (switchToExecStatement b) := by
  have hloaded := (keeps_disableAllPorts h.disableInput h.disableOutput).seq
    (keeps_changeToIdle h.toIdle)
  exact keeps_checkHandle.seq ((keeps_deliver _).seq (keeps_unlessState _
    ((keeps_deliver _).seq ((keeps_whenState _ hloaded).seq ((keeps_deliver _).seq
      (keeps_whenState _ (keeps_changeToExec h.toExec)))))))

/-- `execToIdle` up to its `EXIT`. -/
lemma keeps_execToIdleStatement {b : ToIdleAnswer}
    (h : b.toIdle.PromptState .OMX_StateIdle .mSwitchToIdleSem) :
    Keeps (At input output) (execToIdleStatement b) :=
  keeps_checkHandle.seq ((keeps_deliver _).seq (keeps_whenState _ (keeps_changeToIdle h)))

/-- The loop over the input buffers looks at the answers and changes their map. -/
lemma triple_useInputBuffers {P E : EventVce → Prop} (hP : Stable P)
    {answer : Ptr → OMX_ERRORTYPE × Ptr}
    (h : ∀ handle, Triple P (check (omxToAndroidError (answer handle).1)) P E) (l : List Ptr) :
    Triple P (useInputBuffers answer l) P E := by
  induction l with
  | nil => exact triple_pure
  | cons handle l ih =>
    refine (h handle).seq (Triple.seq ?_ ih)
    exact triple_modify hP fun _ => ⟨rfl, rfl, rfl, rfl⟩

/-- The loop over the output buffers looks at the answers and changes their map. -/
lemma triple_allocateOutputBuffers {P E : EventVce → Prop} (hP : Stable P)
    {answer : ℕ → OMX_ERRORTYPE × Ptr × Ptr}
    (h : ∀ i, Triple P (check (omxToAndroidError (answer i).1)) P E) (i n : ℕ) :
    Triple P (allocateOutputBuffers answer i n) P E := by
  induction n generalizing i with
  | zero => exact triple_pure
  | succ n ih =>
    refine Triple.seq ?_ ((h i).seq (ih (i + 1)))
    exact triple_modify hP fun _ => ⟨rfl, rfl, rfl, rfl⟩

/-- Handing the buffers to the component, after the events that come before. -/
lemma triple_useAllBuffers {P R E : EventVce → Prop} (hR : Stable R) {b : IdleBuffersAnswer}
    (hdeliver : Triple P (modify (EventVce.deliver b.handing) : Statement) R E)
    (huse : ∀ handle, Triple R (check (omxToAndroidError (b.useBuffer handle).1)) R E)
    (hallocate : ∀ i, Triple R (check (omxToAndroidError (b.allocateBuffer i).1)) R E) :
    Triple P (useAllBuffers b) R E := by
  refine hdeliver.seq (Triple.seq (R := R) ?_ (Triple.seq (R := R) ?_
    (Triple.seq (R := R) ?_ ?_)))
  · exact triple_modify hR fun _ => ⟨rfl, rfl, rfl, rfl⟩
  · exact fun s hs => triple_useInputBuffers hR huse _ s hs
  · exact triple_modify hR fun _ => ⟨rfl, rfl, rfl, rfl⟩
  · exact fun s hs => triple_allocateOutputBuffers hR hallocate _ _ s hs

/-- `loadedToIdle` up to its `EXIT`. -/
lemma keeps_loadedToIdleStatement {b : IdleBuffersAnswer} (h : b.Prompt) :
    Keeps (At input output) (loadedToIdleStatement b) := by
  have hcommand : Keeps (At input output)
      (awaitCommand (stateWaiter .OMX_StateIdle .mSwitchToIdleSem) (stateSet .OMX_StateIdle)
        b.toWaitAnswer (useAllBuffers b)) := by
    refine keeps_awaitCommand rfl (fun hadded => (h hadded).1) ?_ fun hadded => ?_
    · exact triple_useAllBuffers stable_at (keeps_deliver _) (fun _ => keeps_check _)
        fun _ => keeps_check _
    · obtain ⟨-, huse, hallocate⟩ := h hadded
      exact triple_useAllBuffers (stable_awaiting _ _ _)
        (Triple.modify fun s hs => hs.deliver b.handing)
        (fun handle => check_none (huse handle)) fun i => check_none (hallocate i)
  exact (keeps_deliver _).seq (keeps_whenState _
    (hcommand.seq (triple_modify stable_at fun _ => ⟨rfl, rfl, rfl, rfl⟩)))

/-- The recursion at the exits keeps the encoder clean.

**Proof sketch.** Induction on the fuel: one level is a run of `switchToLoaded`, whose exit is the
next level. -/
lemma at_freeOmxHandle (fuel : ℕ) {b : ℕ → ToLoadedAnswer} (hb : ∀ n, (b n).Prompt input output)
    {s s' : EventVce} {ret : Status} (hs : s.At input output)
    (h : freeOmxHandle fuel b s = some (ret, s')) : s'.At input output := by
  induction fuel generalizing b s s' ret with
  | zero => cases h
  | succ fuel ih =>
    unfold freeOmxHandle at h
    split_ifs at h
    · obtain rfl := congrArg Prod.snd (Option.some.inj h)
      exact hs.of_same ⟨rfl, rfl, rfl, rfl⟩
    · obtain ⟨⟨ret', s₁⟩, hexit, hr⟩ := Option.map_eq_some_iff.mp h
      obtain rfl := congrArg Prod.snd hr
      have hkeep := keeps_switchToLoadedStatement (hb 0)
      refine At.of_same ?_ (s := s₁) ⟨rfl, rfl, rfl, rfl⟩
      cases hp : switchToLoadedStatement (b 0) s with
      | ok u s₂ =>
        rw [hp] at hexit
        obtain rfl := congrArg Prod.snd (Option.some.inj hexit)
        exact hkeep.of_ok hs hp
      | error ret₂ s₂ =>
        rw [hp] at hexit
        obtain ⟨⟨ret₃, s₃⟩, hfree, hr⟩ := Option.map_eq_some_iff.mp hexit
        obtain rfl := congrArg Prod.snd hr
        exact ih (fun n => hb (n + 1)) (hkeep.of_error hs hp) hfree

/-- A switch that keeps the encoder clean up to its exit keeps it clean. -/
lemma at_atExit {p : Statement} (hp : Keeps (At input output) p) (fuel : ℕ)
    {b : ℕ → ToLoadedAnswer} (hb : ∀ n, (b n).Prompt input output) {s s' : EventVce}
    {ret : Status} (hs : s.At input output)
    (h : atExit (freeOmxHandle fuel b) (p s) = some (ret, s')) : s'.At input output := by
  cases hps : p s with
  | ok u s₁ =>
    rw [hps] at h
    obtain rfl := congrArg Prod.snd (Option.some.inj h)
    exact hp.of_ok hs hps
  | error ret₁ s₁ =>
    rw [hps] at h
    obtain ⟨⟨ret₂, s₂⟩, hfree, hr⟩ := Option.map_eq_some_iff.mp h
    obtain rfl := congrArg Prod.snd hr
    exact at_freeOmxHandle fuel hb (hp.of_error hs hps) hfree

end EventVce

/-! ### Runs -/

/-- The calls, with the component's answers to them, and the events between them. -/
inductive VceAction
  | event (e : OmxEvent)
  | switchToExec (fuel : ℕ) (e : ToExecAnswer) (b : ℕ → ToLoadedAnswer)
  | execToIdle (fuel : ℕ) (e : ToIdleAnswer) (b : ℕ → ToLoadedAnswer)
  | loadedToIdle (b : IdleBuffersAnswer)
  | disablePort (port : ℕ) (b : PortAnswer)
  | switchToLoaded (fuel : ℕ) (b : ℕ → ToLoadedAnswer)

/-- The condition on an action: where a registration was made, the component's answers are
prompt. -/
def VceAction.Prompt (input output : ℕ) : VceAction → Prop
  | .event _ => True
  | .switchToExec _ e b => e.Prompt input output ∧ ∀ n, (b n).Prompt input output
  | .execToIdle _ e b => e.toIdle.PromptState .OMX_StateIdle .mSwitchToIdleSem ∧
      ∀ n, (b n).Prompt input output
  | .loadedToIdle b => b.Prompt
  | .disablePort port b => b.Prompt port
  | .switchToLoaded _ b => ∀ n, (b n).Prompt input output

namespace EventVce

/-- One action. A call that does not return is no state. -/
def step : Option EventVce → VceAction → Option EventVce
  | none, _ => none
  | some s, .event e => some (onEvent e s)
  | some s, .switchToExec fuel e b => (switchToExec fuel e b s).map Prod.snd
  | some s, .execToIdle fuel e b => (execToIdle fuel e b s).map Prod.snd
  | some s, .loadedToIdle b => some (loadedToIdle b s).2
  | some s, .disablePort port b => some (disablePort port b s).2
  | some s, .switchToLoaded fuel b => (switchToLoaded fuel b s).map Prod.snd

/-- The encoder with a handle, before any of the switches. -/
def start (handle : Option Ptr) (state : ℕ) (observer : Bool) (input output : ℕ)
    (buffers : List Ptr) (count : ℕ) : EventVce where
  mOmxHandle := handle
  mComponentState := state
  mObserver := observer
  mInputPortIndex := input
  mOutputPortIndex := output
  mInputPortEnable := true
  mOutputPortEnable := true
  mInputBuffers := buffers
  mOutputBufferCount := count
  mInputBufferMap := ∅
  mOutputBufferMap := ∅
  mEventSyncList := .idle
  waits := []

/-- An action with prompt answers keeps the encoder clean, if it returns. -/
lemma At.step {input output : ℕ} {s s' : EventVce} (hs : s.At input output) {action : VceAction}
    (h : action.Prompt input output) (hstep : step (some s) action = some s') :
    s'.At input output := by
  cases action with
  | event e =>
    obtain rfl := Option.some.inj hstep
    exact hs.of_same (onEvent_same (by rw [hs.clean.1]; rfl) e)
  | switchToExec fuel e b =>
    obtain ⟨⟨ret, s₁⟩, hcall, rfl⟩ := Option.map_eq_some_iff.mp hstep
    exact at_atExit (keeps_switchToExecStatement h.1) fuel h.2 hs hcall
  | execToIdle fuel e b =>
    obtain ⟨⟨ret, s₁⟩, hcall, rfl⟩ := Option.map_eq_some_iff.mp hstep
    exact at_atExit (keeps_execToIdleStatement h.1) fuel h.2 hs hcall
  | loadedToIdle b =>
    obtain rfl := Option.some.inj hstep
    unfold EventVce.loadedToIdle
    cases hp : loadedToIdleStatement b s with
    | ok u s₁ => exact (keeps_loadedToIdleStatement h).of_ok hs hp
    | error ret s₁ => exact (keeps_loadedToIdleStatement h).of_error hs hp
  | disablePort port b =>
    obtain rfl := Option.some.inj hstep
    exact hs.disablePort h
  | switchToLoaded fuel b =>
    obtain ⟨⟨ret, s₁⟩, hcall, rfl⟩ := Option.map_eq_some_iff.mp hstep
    exact at_atExit (keeps_switchToLoadedStatement (h 0)) fuel (fun n => h (n + 1)) hs hcall

/-- **No stale registrations.** In a run of calls and events whose answers are prompt, every state
between the calls is clean: no registration and no signal of a semaphore is left, and every wait
that has succeeded was signalled by the completion of its own command.

**Proof sketch.** Each of the calls is made of commands that leave nothing behind, and of statements
that touch neither registrations nor semaphores. The recursion at the exits is an induction on its
levels; events between the calls find no registration. -/
theorem always_clean_of_prompt {handle : Option Ptr} {state : ℕ} {observer : Bool}
    {input output : ℕ} {buffers : List Ptr} {count : ℕ} {run : List VceAction}
    (hrun : StepRun.Along step (fun _ action => action.Prompt input output)
      (some (start handle state observer input output buffers count)) run) :
    StepRun.Always step (fun o => ∀ s ∈ o, Clean s)
      (some (start handle state observer input output buffers count)) run := by
  have hstart : (start handle state observer input output buffers count).At input output :=
    ⟨⟨rfl, List.forall_mem_nil _⟩, rfl, rfl⟩
  have hstep : ∀ (o : Option EventVce) (action : VceAction), (∀ s ∈ o, At input output s) →
      action.Prompt input output → ∀ s' ∈ step o action, At input output s' := by
    intro o action ho haction s' hs'
    cases o with
    | none => cases hs'
    | some s => exact (ho s rfl).step haction hs'
  have hfirst : ∀ s ∈ some (start handle state observer input output buffers count),
      At input output s := by
    intro s hs
    obtain rfl := Option.some.inj hs
    exact hstart
  exact (StepRun.always_of_along hstep hfirst hrun).imp fun o ho s hs => (ho s hs).clean

/-- The completion of a command comes while it is waited for. -/
def promptAnswer (w : Waiter) : WaitAnswer where
  registered := .added
  early := []
  command := .OMX_ErrorNone
  during := [w.completion]
  expired := []
  late := []

/-- Such an answer is prompt. -/
lemma prompt_promptAnswer (w : Waiter) (removal : OmxEvent) :
    (promptAnswer w).Prompt w removal [] := by
  refine ⟨rfl, fun e he => ?_, fun hnone => ?_⟩
  · exact List.mem_singleton.mp (List.mem_of_find?_eq_some he)
  · have hcompletion := hnone w.completion List.mem_cons_self
    rw [w.awaits_completion] at hcompletion
    cases hcompletion

/-- A port is disabled, and the completion comes in time. -/
theorem always_clean_portDisabled :
    StepRun.Always step (fun o => ∀ s ∈ o, Clean s)
      (some (start (some 1) OMX_STATETYPE.OMX_StateLoaded.value true 0 1 [] 0))
      [.disablePort 0 ⟨promptAnswer (portWaiter 0), [], fun _ => .OMX_ErrorNone⟩] :=
  always_clean_of_prompt
    ⟨fun _ => ⟨prompt_promptAnswer (portWaiter 0) _, fun _ => rfl⟩, trivial⟩

/-- The component refuses a command. -/
def refusedAnswer : WaitAnswer where
  registered := .added
  early := []
  command := .OMX_ErrorInsufficientResources
  during := []
  expired := []
  late := []

/-- A component that refuses to disable a port leaves the registration behind. The next call for
this port is answered in time, and still leaves one. -/
theorem not_always_clean_refused :
    ((StepRun.final step (some (start (some 1) OMX_STATETYPE.OMX_StateLoaded.value true 0 1 [] 0))
      [.disablePort 0 ⟨refusedAnswer, [], fun _ => .OMX_ErrorNone⟩,
        .disablePort 0 ⟨promptAnswer (portWaiter 0), [], fun _ => .OMX_ErrorNone⟩]).map
      fun s => s.mEventSyncList.mEventSignalQ) = some [portWaiter 0] ∧
    ¬ StepRun.Always step (fun o => ∀ s ∈ o, Clean s)
      (some (start (some 1) OMX_STATETYPE.OMX_StateLoaded.value true 0 1 [] 0))
      [.disablePort 0 ⟨refusedAnswer, [], fun _ => .OMX_ErrorNone⟩] := by
  refine ⟨rfl, fun h => ?_⟩
  have hlast := (h.last _ rfl).1
  have hqueue := congrArg OMXEventSyncList.mEventSignalQ hlast
  cases hqueue

end EventVce

end CameraHal
