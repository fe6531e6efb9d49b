import Gs702aHal.Camera.VceEvents

set_option relaxedAutoImplicit false
set_option autoImplicit false

/-!
# A component that serves its commands

The component serves a call if it takes every command and every buffer, completes each command
before the wait for it is over, and sends no other event that completes a command or ends the
component. Then a switch returns without an error, in the state that it switches to.

## Main definitions

* `CameraHal.WaitAnswer.Serves` and its variants for the switches — the condition on the answers.
* `CameraHal.EventVce.Rests` — the encoder is in a state, and waits for nothing.

## Main results

* `CameraHal.EventVce.triple_awaitCommand_serves` — a command that is served completes.
* `CameraHal.EventVce.switchToLoaded_serves`, `CameraHal.EventVce.loadedToIdle_serves`,
  `CameraHal.EventVce.switchToExec_serves` — the switches reach their states.
-/

namespace CameraHal

open Status ExitTriple

/-! ### Answers that serve -/

/-- The event neither completes a command nor ends the component. -/
def OmxEvent.Quiet (e : OmxEvent) : Prop := e.eEvent ≠ OMX_EventCmdComplete ∧ e.fatal = false

/-- Among the events is the one that is registered for, and the others are quiet. -/
def Waiter.Settled (w : Waiter) (events : List OmxEvent) : Prop :=
  ∃ before after, events = before ++ w.completion :: after ∧ ∀ e ∈ before ++ after, e.Quiet

/-- The registration is made, and the component takes the command and completes it in time;
`handing` are the events that come while its buffers are handed over or freed. -/
structure WaitAnswer.Serves (b : WaitAnswer) (w : Waiter) (handing : List OmxEvent) : Prop where
  registered : b.registered = .added
  command : b.command = .OMX_ErrorNone
  settled : w.Settled (b.early ++ (handing ++ b.during))

/-- The disabling of a port is served, and its buffers are freed. -/
structure PortAnswer.Serves (b : PortAnswer) (port : ℕ) : Prop where
  wait : b.toWaitAnswer.Serves (EventVce.portWaiter port) b.freeing
  freeBuffer : ∀ header, b.freeBuffer header = .OMX_ErrorNone

/-- `switchToLoaded` is served. -/
structure ToLoadedAnswer.Serves (b : ToLoadedAnswer) (input output : ℕ) : Prop where
  first : ∀ e ∈ b.first, e.Quiet
  toIdle : b.toIdle.Serves (EventVce.stateWaiter .OMX_StateIdle .mSwitchToIdleSem) []
  second : ∀ e ∈ b.second, e.Quiet
  disableInput : b.disableInput.Serves input
  disableOutput : b.disableOutput.Serves output
  toLoaded : b.toLoaded.Serves (EventVce.stateWaiter .OMX_StateLoaded .mSwitchToLoadedSem) []
  enableInput : b.enableInput = .OMX_ErrorNone
  enableOutput : b.enableOutput = .OMX_ErrorNone

/-- `loadedToIdle` is served: the buffers are taken, and get headers. -/
structure IdleBuffersAnswer.Serves (b : IdleBuffersAnswer) : Prop where
  first : ∀ e ∈ b.first, e.Quiet
  wait : b.toWaitAnswer.Serves (EventVce.stateWaiter .OMX_StateIdle .mSwitchToIdleSem) b.handing
  useBuffer : ∀ handle, (b.useBuffer handle).1 = .OMX_ErrorNone
  header : ∀ handle, (b.useBuffer handle).2 ≠ NULL
  allocateBuffer : ∀ i, (b.allocateBuffer i).1 = .OMX_ErrorNone

/-- `switchToExec` from Idle is served. -/
structure ToExecAnswer.Serves (b : ToExecAnswer) : Prop where
  first : ∀ e ∈ b.first, e.Quiet
  second : ∀ e ∈ b.second, e.Quiet
  third : ∀ e ∈ b.third, e.Quiet
  toExec : b.toExec.Serves (EventVce.stateWaiter .OMX_StateExecuting .mSwitchToExecSem) []

namespace EventVce

open OMXEventSyncList

/-- The fields that neither events nor the state of the component concern. -/
structure Parts where
  mOmxHandle : Option Ptr
  mInputPortIndex : ℕ
  mOutputPortIndex : ℕ
  mInputBuffers : List Ptr
  mInputBufferMap : KeyedVector Ptr Ptr

/-- These fields of the encoder. -/
def parts (s : EventVce) : Parts :=
  ⟨s.mOmxHandle, s.mInputPortIndex, s.mOutputPortIndex, s.mInputBuffers, s.mInputBufferMap⟩

/-- The encoder is in a state, and neither a registration nor a signal is left. -/
structure Rests (p : Parts) (state : OMX_STATETYPE) (s : EventVce) : Prop where
  parts : s.parts = p
  list : s.mEventSyncList = idle
  state_eq : s.mComponentState = state.value

/-- The state that the completion of a command gives. -/
def target (w : Waiter) (state : ℕ) : ℕ :=
  if w.arg1 = OMX_CommandStateSet then w.arg2 else state

/-- Between a registration and the end of its wait: the completion is among the events to come, or
it has come and the others are quiet. -/
structure Expects (p : Parts) (w : Waiter) (state : ℕ) (rest : List OmxEvent) (s : EventVce) :
    Prop where
  parts : s.parts = p
  list : s.mEventSyncList = pending w ∧ s.mComponentState = state ∧ w.Settled rest ∨
    s.mEventSyncList = answered w w.completion ∧ s.mComponentState = target w state ∧
      ∀ e ∈ rest, e.Quiet

/-! ### Events -/

/-- An event keeps these fields. -/
lemma parts_onEvent (e : OmxEvent) (s : EventVce) : (onEvent e s).parts = s.parts := by
  unfold onEvent onError onCmdComplete
  split_ifs <;> rfl

/-- A quiet event matches no registration for a completion. -/
lemma awaits_eq_false {e : OmxEvent} (he : e.Quiet) {w : Waiter}
    (hw : w.command = OMX_EventCmdComplete) : w.awaits e = false := by
  have hne : e.eEvent ≠ 0 := he.1
  simp [Waiter.awaits, hw, OMX_EventCmdComplete, hne.symm]

/-- **A quiet event does nothing**, if only completions are registered for. -/
theorem onEvent_of_quiet {e : OmxEvent} (he : e.Quiet) {s : EventVce}
    (hs : ∀ w ∈ s.mEventSyncList.mEventSignalQ, w.command = OMX_EventCmdComplete) :
    onEvent e s = s := by
  have hcomplete : onCmdComplete e s = s := by
    unfold onCmdComplete
    rw [if_neg fun h => he.1 h.1]
  have herror : onError e s = s := by
    unfold onError
    rw [if_neg fun h => ?_]
    rw [he.2] at h
    exact absurd h.1 Bool.false_ne_true
  have hsignal : s.mEventSyncList.SignalEvent e = s.mEventSyncList := by
    have hnone : s.mEventSyncList.mEventSignalQ.find? (·.awaits e) = none := by
      refine List.find?_eq_none.mpr fun w hw => ?_
      rw [awaits_eq_false he (hs w hw)]
      exact Bool.false_ne_true
    simp only [SignalEvent, hnone]
  rw [onEvent, hcomplete, herror]
  show { s with mEventSyncList := s.mEventSyncList.SignalEvent e } = s
  rw [hsignal]

/-- Quiet events do nothing. -/
lemma deliver_of_quiet {events : List OmxEvent} (hquiet : ∀ e ∈ events, e.Quiet) {s : EventVce}
    (hs : ∀ w ∈ s.mEventSyncList.mEventSignalQ, w.command = OMX_EventCmdComplete) :
    deliver events s = s := by
  induction events with
  | nil => rfl
  | cons e events ih =>
    obtain ⟨he, hevents⟩ := List.forall_mem_cons.mp hquiet
    show deliver events (onEvent e s) = s
    rw [onEvent_of_quiet he hs, ih hevents]

/-- The completion of the one command that is registered for. -/
lemma onEvent_completion {s : EventVce} {w : Waiter} (hw : w.command = OMX_EventCmdComplete)
    (hs : s.mEventSyncList = pending w) :
    (onEvent w.completion s).mEventSyncList = answered w w.completion ∧
      (onEvent w.completion s).mComponentState = target w s.mComponentState := by
  have hkind : w.completion.eEvent = OMX_EventCmdComplete := hw
  have hfatal : w.completion.fatal = false := by
    simp [OmxEvent.fatal, hkind, OMX_EventCmdComplete, OMX_EventError]
  have herror : ∀ t, onError w.completion t = t := fun t => by
    unfold onError
    rw [if_neg fun h => ?_]
    rw [hfatal] at h
    exact absurd h.1 Bool.false_ne_true
  have hlist : (onCmdComplete w.completion s).mEventSyncList = pending w := by
    unfold onCmdComplete
    split_ifs <;> exact hs
  constructor
  · rw [onEvent, herror]
    show (onCmdComplete w.completion s).mEventSyncList.SignalEvent w.completion = _
    rw [hlist, signalEvent_pending, if_pos w.awaits_completion]
  · rw [onEvent, herror]
    show (onCmdComplete w.completion s).mComponentState = _
    unfold onCmdComplete target
    by_cases hset : w.arg1 = OMX_CommandStateSet
    · rw [if_pos ⟨hkind, hset⟩, if_pos hset]
      rfl
    · rw [if_neg fun h => hset h.2, if_neg hset]

/-- Quiet events find an encoder at rest. -/
lemma Rests.deliver {p : Parts} {state : OMX_STATETYPE} {s : EventVce} (hs : Rests p state s)
    {events : List OmxEvent} (hquiet : ∀ e ∈ events, e.Quiet) : EventVce.deliver events s = s := by
  refine deliver_of_quiet hquiet ?_
  rw [hs.list]
  exact List.forall_mem_nil _

/-- One event while a command is served. -/
lemma Expects.onEvent {p : Parts} {w : Waiter} (hw : w.command = OMX_EventCmdComplete) {state : ℕ}
    {e : OmxEvent} {rest : List OmxEvent} {s : EventVce} (hs : Expects p w state (e :: rest) s) :
    Expects p w state rest (EventVce.onEvent e s) := by
  have hone : ∀ w' ∈ (pending w).mEventSignalQ, w'.command = OMX_EventCmdComplete := by
    intro w' hw'
    rw [List.mem_singleton.mp hw']
    exact hw
  refine ⟨(parts_onEvent e s).trans hs.parts, ?_⟩
  rcases hs.list with ⟨hlist, hstate, before, after, hsplit, hquiet⟩ | ⟨hlist, hstate, hquiet⟩
  · cases before with
    | nil =>
      obtain ⟨rfl, rfl⟩ := List.cons.inj hsplit
      obtain ⟨hlist', hstate'⟩ := onEvent_completion hw hlist
      rw [hstate] at hstate'
      exact .inr ⟨hlist', hstate', hquiet⟩
    | cons e' before =>
      obtain ⟨rfl, rfl⟩ := List.cons.inj hsplit
      obtain ⟨he, hquiet'⟩ := List.forall_mem_cons.mp hquiet
      rw [onEvent_of_quiet he (by rw [hlist]; exact hone)]
      exact .inl ⟨hlist, hstate, before, after, rfl, hquiet'⟩
  · obtain ⟨he, hquiet'⟩ := List.forall_mem_cons.mp hquiet
    rw [onEvent_of_quiet he (by rw [hlist]; exact List.forall_mem_nil _)]
    exact .inr ⟨hlist, hstate, hquiet'⟩

/-- Events while a command is served. -/
lemma Expects.deliver {p : Parts} {w : Waiter} (hw : w.command = OMX_EventCmdComplete) {state : ℕ}
    {events rest : List OmxEvent} {s : EventVce} (hs : Expects p w state (events ++ rest) s) :
    Expects p w state rest (EventVce.deliver events s) := by
  induction events generalizing s with
  | nil => exact hs
  | cons e events ih => exact ih (hs.onEvent hw)

/-! ### One command -/

/-- The wait for a command that is served. -/
lemma triple_wait_serves {p : Parts} {w : Waiter} (hw : w.command = OMX_EventCmdComplete)
    {removal : OmxEvent} {b : WaitAnswer} {state : ℕ} {state' : OMX_STATETYPE}
    (hstate : target w state = state'.value) :
    Triple (Expects p w state b.during) (wait w removal b) (Rests p state') fun _ => False := by
  intro s hs
  have hduring : Expects p w state [] (EventVce.deliver b.during s) :=
    Expects.deliver hw (by rwa [List.append_nil])
  rcases hduring.list with ⟨-, -, before, after, hsplit, -⟩ | ⟨hlist, htarget, -⟩
  · exact absurd hsplit (by simp)
  · have hsignalled : (EventVce.deliver b.during s).mEventSyncList.signalled w.arg3 =
        [w.completion] := by
      simp only [hlist, answered, Function.update_self]
    simp only [wait, hsignalled]
    refine ⟨hduring.parts, ?_, htarget.trans hstate⟩
    show OMXEventSyncList.mk _ _ = idle
    rw [hlist]
    exact reset_answered w w.completion

/-- **A command that is served completes.** What is done in between may change the encoder's
buffers. -/
theorem triple_awaitCommand_serves {p q : Parts} {w : Waiter}
    (hw : w.command = OMX_EventCmdComplete) {removal : OmxEvent} {b : WaitAnswer}
    {handing : List OmxEvent} (hb : b.Serves w handing) {body : Statement}
    {state : OMX_STATETYPE} (state' : OMX_STATETYPE) (hstate : target w state.value = state'.value)
    (hbody : Triple (Expects p w state.value (handing ++ b.during)) body
      (Expects q w state.value b.during) fun _ => False) :
    Triple (Rests p state) (awaitCommand w removal b body) (Rests q state') fun _ => False := by
  have hregister : Triple (Rests p state) (register w b.registered)
      (Expects p w state.value (b.early ++ (handing ++ b.during))) fun _ => False := by
    rw [hb.registered]
    refine Triple.modify fun s hs => ⟨hs.parts, .inl ⟨?_, hs.state_eq, hb.settled⟩⟩
    show s.mEventSyncList.add w = _
    rw [hs.list, add_idle]
  have hearly : Triple (Expects p w state.value (b.early ++ (handing ++ b.during)))
      (modify (EventVce.deliver b.early) : Statement)
      (Expects p w state.value (handing ++ b.during)) fun _ => False :=
    Triple.modify fun s hs => Expects.deliver hw hs
  exact hregister.seq (hearly.seq ((check_none hb.command).seq
    (hbody.seq (triple_wait_serves hw hstate))))

/-- A command with nothing to do in between. -/
lemma triple_awaitCommand_pure_serves {p : Parts} {w : Waiter}
    (hw : w.command = OMX_EventCmdComplete) {removal : OmxEvent} {b : WaitAnswer}
    (hb : b.Serves w []) {state : OMX_STATETYPE} (state' : OMX_STATETYPE)
    (hstate : target w state.value = state'.value) :
    Triple (Rests p state) (awaitCommand w removal b (pure ())) (Rests p state') fun _ => False :=
  triple_awaitCommand_serves hw hb state' hstate triple_pure

section Switches

variable {p : Parts} {state : OMX_STATETYPE}

/-- The change to Idle. -/
lemma triple_changeToIdle_serves {b : WaitAnswer}
    (hb : b.Serves (stateWaiter .OMX_StateIdle .mSwitchToIdleSem) []) :
    Triple (Rests p state) (changeToIdle b) (Rests p .OMX_StateIdle) fun _ => False :=
  (triple_awaitCommand_pure_serves rfl hb .OMX_StateIdle rfl).seq
    (Triple.modify fun _ hs => ⟨hs.parts, hs.list, rfl⟩)

/-- The change to Executing. -/
lemma triple_changeToExec_serves {b : WaitAnswer}
    (hb : b.Serves (stateWaiter .OMX_StateExecuting .mSwitchToExecSem) []) :
    Triple (Rests p state) (changeToExec b) (Rests p .OMX_StateExecuting) fun _ => False :=
  (triple_awaitCommand_pure_serves rfl hb .OMX_StateExecuting rfl).seq
    (Triple.modify fun _ hs => ⟨hs.parts, hs.list, rfl⟩)

/-- The change to Loaded. -/
lemma triple_changeToLoaded_serves {b : WaitAnswer}
    (hb : b.Serves (stateWaiter .OMX_StateLoaded .mSwitchToLoadedSem) []) :
    Triple (Rests p state) (changeToLoaded b) (Rests p .OMX_StateLoaded) fun _ => False :=
  (triple_awaitCommand_pure_serves rfl hb .OMX_StateLoaded rfl).seq
    (Triple.modify fun _ hs => ⟨hs.parts, hs.list, rfl⟩)

/-- Quiet events between the statements of a switch. -/
lemma triple_deliver_quiet {events : List OmxEvent} (hquiet : ∀ e ∈ events, e.Quiet) :
    Triple (Rests p state) (modify (EventVce.deliver events) : Statement) (Rests p state)
      fun _ => False :=
  Triple.modify fun _ hs => by rwa [hs.deliver hquiet]

/-- A statement for the state that the component is in. -/
lemma triple_whenState {q : Statement} {Q E : EventVce → Prop}
    (hq : Triple (Rests p state) q Q E) : Triple (Rests p state) (whenState state q) Q E :=
  fun s hs => by
    simp only [whenState, if_pos hs.state_eq]
    exact hq s hs

/-- A statement for another state. -/
lemma triple_whenState_of_ne {q : Statement} {E : EventVce → Prop} {state' : OMX_STATETYPE}
    (hne : state.value ≠ state'.value) :
    Triple (Rests p state) (whenState state' q) (Rests p state) E := fun s hs => by
  simp only [whenState, if_neg (hs.state_eq.trans_ne hne)]
  exact hs

/-- A statement for other states. -/
lemma triple_unlessState {q : Statement} {Q E : EventVce → Prop} {state' : OMX_STATETYPE}
    (hne : state.value ≠ state'.value) (hq : Triple (Rests p state) q Q E) :
    Triple (Rests p state) (unlessState state' q) Q E := fun s hs => by
  simp only [unlessState, if_neg (hs.state_eq.trans_ne hne)]
  exact hq s hs

/-- The test for a handle that is there. -/
lemma triple_checkHandle {E : EventVce → Prop} (hp : p.mOmxHandle ≠ none) :
    Triple (Rests p state) checkHandle (Rests p state) E := fun s hs => by
  have hhandle : s.mOmxHandle ≠ none := by
    have hfield : s.mOmxHandle = p.mOmxHandle := congrArg Parts.mOmxHandle hs.parts
    rwa [hfield]
  simp only [checkHandle, if_neg hhandle]
  exact hs

/-- Disabling a port. -/
lemma Rests.disablePort {s : EventVce} (hs : Rests p state s) {port : ℕ} {b : PortAnswer}
    (hb : b.Serves port) : Rests p state (s.disablePort port b).2 := by
  have hdone : Triple (Rests p state) (disablePortStatement port b) (Rests p state)
      fun _ => False := by
    have hfree : Triple (Expects p (portWaiter port) state.value (b.freeing ++ b.during))
        (freeAllBuffers port b) (Expects p (portWaiter port) state.value b.during)
        fun _ => False := by
      refine Triple.seq (Triple.modify fun s hs => Expects.deliver rfl hs) fun s hs => ?_
      exact triple_freeBuffers (fun header => check_none (hb.freeBuffer header)) _ s hs
    refine (triple_awaitCommand_serves rfl hb.wait state rfl hfree).seq ?_
    · refine Triple.modify fun s hs => ?_
      unfold clearEnable
      split_ifs <;> exact ⟨hs.parts, hs.list, hs.state_eq⟩
  unfold EventVce.disablePort
  split_ifs
  · exact hs
  · exact hs
  · obtain ⟨u, s', hrun, hs'⟩ := hdone.exists_ok hs
    rw [hrun]
    exact hs'

/-- Both ports are disabled. -/
lemma triple_disableAllPorts_serves {b b' : PortAnswer} (hb : b.Serves p.mInputPortIndex)
    (hb' : b'.Serves p.mOutputPortIndex) :
    Triple (Rests p state) (modify fun s : EventVce => (s.disableAllPorts b b').2 : Statement)
      (Rests p state) fun _ => False := by
  refine Triple.modify fun s hs => ?_
  have hinput : s.mInputPortIndex = p.mInputPortIndex :=
    congrArg Parts.mInputPortIndex hs.parts
  have hs' : Rests p state (s.disablePort s.mInputPortIndex b).2 :=
    hs.disablePort (by rwa [hinput])
  have houtput : (s.disablePort s.mInputPortIndex b).2.mOutputPortIndex = p.mOutputPortIndex :=
    congrArg Parts.mOutputPortIndex hs'.parts
  rw [← houtput] at hb'
  exact hs'.disablePort hb'

/-- `switchToLoaded` up to its `EXIT`. -/
lemma triple_switchToLoaded_serves (hp : p.mOmxHandle ≠ none)
    (hstate : state = .OMX_StateLoaded ∨ state = .OMX_StateExecuting) {b : ToLoadedAnswer}
    (hb : b.Serves p.mInputPortIndex p.mOutputPortIndex) :
    Triple (Rests p state) (switchToLoadedStatement b) (Rests p .OMX_StateLoaded)
      fun _ => False := by
  have hidle : Triple (Rests p .OMX_StateIdle) (idleToLoaded b) (Rests p .OMX_StateLoaded)
      fun _ => False :=
    (triple_disableAllPorts_serves hb.disableInput hb.disableOutput).seq
      ((triple_changeToLoaded_serves hb.toLoaded).seq ((check_none hb.enableInput).seq
        ((check_none hb.enableOutput).seq
          (Triple.modify fun _ hs => ⟨hs.parts, hs.list, hs.state_eq⟩))))
  rcases hstate with rfl | rfl
  · exact (triple_checkHandle hp).seq ((triple_deliver_quiet hb.first).seq
      ((triple_whenState_of_ne (by decide)).seq ((triple_deliver_quiet hb.second).seq
        (triple_whenState_of_ne (by decide)))))
  · exact (triple_checkHandle hp).seq ((triple_deliver_quiet hb.first).seq
      ((triple_whenState (triple_changeToIdle_serves hb.toIdle)).seq
        ((triple_deliver_quiet hb.second).seq (triple_whenState hidle))))

/-- **`switchToLoaded` reaches Loaded**, if it is served. -/
theorem switchToLoaded_serves {s : EventVce} (hs : Rests p state s) (hp : p.mOmxHandle ≠ none)
    (hstate : state = .OMX_StateLoaded ∨ state = .OMX_StateExecuting) (fuel : ℕ)
    {b : ℕ → ToLoadedAnswer} (hb : (b 0).Serves p.mInputPortIndex p.mOutputPortIndex) :
    ∃ s', switchToLoaded fuel b s = some (NO_ERROR, s') ∧ Rests p .OMX_StateLoaded s' := by
  obtain ⟨u, s', hrun, hs'⟩ := (triple_switchToLoaded_serves hp hstate hb).exists_ok hs
  unfold switchToLoaded
  rw [hrun]
  exact ⟨s', rfl, hs'⟩

/-- The headers of the input buffers that the component gives. -/
def givenHeaders (answer : Ptr → OMX_ERRORTYPE × Ptr) (handles : List Ptr) :
    KeyedVector Ptr Ptr :=
  KeyedVector.addAll ∅ (handles.map fun handle => (handle, (answer handle).2))

/-- The loop over the input buffers, while a command is served. -/
lemma triple_useInputBuffers_serves {w : Waiter} {n : ℕ} {rest : List OmxEvent}
    {answer : Ptr → OMX_ERRORTYPE × Ptr} (h : ∀ handle, (answer handle).1 = .OMX_ErrorNone)
    (handles : List Ptr) (m : KeyedVector Ptr Ptr) :
    Triple (Expects { p with mInputBufferMap := m } w n rest) (useInputBuffers answer handles)
      (Expects
        { p with
          mInputBufferMap := m.addAll (handles.map fun handle => (handle, (answer handle).2)) }
        w n rest) fun _ => False := by
  induction handles generalizing m with
  | nil => exact triple_pure
  | cons handle handles ih =>
    refine (check_none (h handle)).seq (Triple.seq (Triple.modify fun s hs => ?_)
      (ih (m.add handle (answer handle).2)))
    refine ⟨?_, hs.list⟩
    have hmap : s.mInputBufferMap = m := congrArg Parts.mInputBufferMap hs.parts
    rw [← hmap]
    exact congrArg (fun q : Parts => { q with
      mInputBufferMap := s.mInputBufferMap.add handle (answer handle).2 }) hs.parts

/-- The loop over the output buffers, while a command is served. -/
lemma triple_allocateOutputBuffers_serves {w : Waiter} {m : ℕ} {rest : List OmxEvent}
    {answer : ℕ → OMX_ERRORTYPE × Ptr × Ptr} (h : ∀ i, (answer i).1 = .OMX_ErrorNone) (i n : ℕ) :
    Triple (Expects p w m rest) (allocateOutputBuffers answer i n) (Expects p w m rest)
      fun _ => False := by
  induction n generalizing i with
  | zero => exact triple_pure
  | succ n ih =>
    exact Triple.seq (Triple.modify fun _ hs => ⟨hs.parts, hs.list⟩)
      ((check_none (h i)).seq (ih (i + 1)))

/-- **`loadedToIdle` reaches Idle**, if it is served, with the headers that were given. -/
theorem loadedToIdle_serves {s : EventVce} (hs : Rests p .OMX_StateLoaded s)
    {b : IdleBuffersAnswer} (hb : b.Serves) :
    ∃ s', loadedToIdle b s = (NO_ERROR, s') ∧
      Rests { p with mInputBufferMap := givenHeaders b.useBuffer p.mInputBuffers } .OMX_StateIdle
        s' := by
  have hbody : Triple (Expects p (stateWaiter .OMX_StateIdle .mSwitchToIdleSem)
      OMX_STATETYPE.OMX_StateLoaded.value (b.handing ++ b.during)) (useAllBuffers b)
      (Expects { p with mInputBufferMap := givenHeaders b.useBuffer p.mInputBuffers }
        (stateWaiter .OMX_StateIdle .mSwitchToIdleSem) OMX_STATETYPE.OMX_StateLoaded.value
        b.during) fun _ => False := by
    refine Triple.seq (Triple.modify fun s hs => Expects.deliver rfl hs) (Triple.seq
      (R := Expects { p with mInputBufferMap := ∅ } (stateWaiter .OMX_StateIdle .mSwitchToIdleSem)
        OMX_STATETYPE.OMX_StateLoaded.value b.during) ?_ (Triple.seq
      (R := Expects { p with mInputBufferMap := givenHeaders b.useBuffer p.mInputBuffers }
        (stateWaiter .OMX_StateIdle .mSwitchToIdleSem) OMX_STATETYPE.OMX_StateLoaded.value
        b.during) ?_ (Triple.seq
      (R := Expects { p with mInputBufferMap := givenHeaders b.useBuffer p.mInputBuffers }
        (stateWaiter .OMX_StateIdle .mSwitchToIdleSem) OMX_STATETYPE.OMX_StateLoaded.value
        b.during) ?_ ?_)))
    · refine Triple.modify fun s hs => ⟨?_, hs.list⟩
      exact congrArg (fun q : Parts => { q with mInputBufferMap := ∅ }) hs.parts
    · intro s hs
      have hbuffers : s.mInputBuffers = p.mInputBuffers := congrArg Parts.mInputBuffers hs.parts
      refine Triple.imp (triple_useInputBuffers_serves hb.useBuffer s.mInputBuffers ∅)
        (fun _ h => h) (fun _ h => ?_) (fun _ h => h) s hs
      rwa [hbuffers] at h
    · exact Triple.modify fun s hs => ⟨hs.parts, hs.list⟩
    · intro s hs
      exact triple_allocateOutputBuffers_serves hb.allocateBuffer _ _ s hs
  have hstatement : Triple (Rests p .OMX_StateLoaded) (loadedToIdleStatement b)
      (Rests { p with mInputBufferMap := givenHeaders b.useBuffer p.mInputBuffers }
        .OMX_StateIdle) fun _ => False :=
    (triple_deliver_quiet hb.first).seq (triple_whenState
      ((triple_awaitCommand_serves rfl hb.wait .OMX_StateIdle rfl hbody).seq
        (Triple.modify fun _ hs => ⟨hs.parts, hs.list, rfl⟩)))
  obtain ⟨u, s', hrun, hs'⟩ := hstatement.exists_ok hs
  unfold loadedToIdle
  rw [hrun]
  exact ⟨s', rfl, hs'⟩

/-- **`switchToExec` reaches Executing** from Idle, if it is served. -/
theorem switchToExec_serves {s : EventVce} (hs : Rests p .OMX_StateIdle s)
    (hp : p.mOmxHandle ≠ none) (fuel : ℕ) {e : ToExecAnswer} (he : e.Serves)
    (b : ℕ → ToLoadedAnswer) :
    ∃ s', switchToExec fuel e b s = some (NO_ERROR, s') ∧ Rests p .OMX_StateExecuting s' := by
  have hstatement : Triple (Rests p .OMX_StateIdle) (switchToExecStatement e)
      (Rests p .OMX_StateExecuting) fun _ => False :=
    (triple_checkHandle hp).seq ((triple_deliver_quiet he.first).seq
      (triple_unlessState (by decide) ((triple_deliver_quiet he.second).seq
        ((triple_whenState_of_ne (by decide)).seq ((triple_deliver_quiet he.third).seq
          (triple_whenState (triple_changeToExec_serves he.toExec)))))))
  obtain ⟨u, s', hrun, hs'⟩ := hstatement.exists_ok hs
  unfold switchToExec
  rw [hrun]
  exact ⟨s', rfl, hs'⟩

/-- The headers of the buffers that were handed over. -/
lemma find?_givenHeaders (answer : Ptr → OMX_ERRORTYPE × Ptr) (handles : List Ptr) (handle : Ptr) :
    (givenHeaders answer handles).find? handle =
      if handle ∈ handles then some (answer handle).2 else none := by
  have hkeys : ((givenHeaders answer handles).find? handle).isSome ↔ handle ∈ handles := by
    rw [givenHeaders, KeyedVector.isSome_find?_addAll]
    simp
  split_ifs with hmem
  · obtain ⟨header, hheader⟩ := Option.isSome_iff_exists.mp (hkeys.mpr hmem)
    rcases KeyedVector.mem_of_find?_addAll hheader with hpair | hempty
    · obtain ⟨handle', -, heq⟩ := List.mem_map.mp hpair
      obtain ⟨rfl, rfl⟩ := Prod.mk.inj heq
      exact hheader
    · rw [KeyedVector.find?_empty] at hempty
      cases hempty
  · exact Option.not_isSome_iff_eq_none.mp fun h => hmem (hkeys.mp h)

end Switches

end EventVce

end CameraHal
