import Gs702aHal.Lib.StepRun
import Gs702aHal.Camera.AdapterState
import Gs702aHal.Camera.VceTeardown

set_option relaxedAutoImplicit false
set_option autoImplicit false

/-!
# Autofocus

`CAMERA_PERFORM_AUTOFOCUS` sets `AF_ACTIVE` and sends a message to the thread of `AFHandler`, which
runs `doAutoFocus` and waits there for a focus status. The handler of filled buffers polls the
status in `checkFocusStatus`. Whichever of the two finds a status calls `returnFocusStatus`, which
cancels the autofocus and notifies the application; the application may cancel it as well.

The adapter's state changes under `mLock` between `setState` and `commitState` or `rollbackState`;
`mCheckAF` and the condition `mDoAFCond` have a mutex of their own. Every reading or change of
shared state is a step, and the parties take their steps in any order.

## Main definitions

* `CameraHal.AutoFocus`, `CameraHal.AutoFocus.step` — the parties and their steps.
* `CameraHal.AutoFocus.NotifiedOnce`, `CameraHal.AutoFocus.Honest` — what is asked of the
  notifications.
* `CameraHal.AutoFocus.Careful` — the condition on a step.

## Main results

* `CameraHal.AutoFocus.WellFormed.step` — the invariant of all runs.
* `CameraHal.AutoFocus.Fresh.step` — the invariant of careful runs.
* `CameraHal.AutoFocus.always_notifiedOnce_honest` — an activation is never notified twice, and in
  a run of careful steps no notification reports a status of an earlier activation.
-/

namespace CameraHal

open Status AdapterState

/-- `CameraHalEvent::FocusStatus`, as far as autofocus uses it. -/
inductive FocusStatus
  | FOCUS_STATUS_SUCCESS
  | FOCUS_STATUS_FAIL
  | FOCUS_STATUS_PENDING
  deriving DecidableEq, Repr

/-- `OMX_IMAGE_FOCUSCONTROLTYPE`, as far as the code tells the modes apart. -/
inductive OMX_IMAGE_FOCUSCONTROLTYPE
  | OMX_IMAGE_FocusControlOff
  | OMX_IMAGE_FocusControlAuto
  | other
  deriving DecidableEq, Repr

/-- `OMX_FOCUSSTATUSTYPE`, as far as the code tells the statuses apart. -/
inductive OMX_FOCUSSTATUSTYPE
  | OMX_FocusStatusRequest
  | OMX_FocusStatusReached
  | other
  deriving DecidableEq, Repr

/-- The two threads that call `returnFocusStatus`. -/
inductive FocusThread
  /-- The thread of `AFHandler`, in `doAutoFocus`. -/
  | af
  /-- The handler of filled buffers, in `checkFocusStatus`. -/
  | frame
  deriving DecidableEq, Repr

/-- The owners of `mLock`. -/
inductive FocusParty
  | application
  | thread (t : FocusThread)
  deriving DecidableEq, Repr

/-- A status to return. `source` is the activation begun last when the status was polled or when
the wait began that has timed out; other statuses have none. -/
structure FocusReport where
  status : FocusStatus
  source : Option ℕ
  deriving DecidableEq, Repr

/-- How far `notifyFocusSubscribers` has got. -/
inductive NotifyStage
  /-- It has not read the state. -/
  | reading
  /-- The state has `AF_ACTIVE`, and `CAMERA_CANCEL_AUTOFOCUS` is to be sent. -/
  | cancelling
  /-- `setState` has accepted the command. -/
  | stopping
  /-- `cancelAutoFocus` has returned. -/
  | stopped (ret : Status)
  /-- The subscribers are to be called. -/
  | delivering
  deriving DecidableEq, Repr

/-- How far a thread has got. -/
inductive FocusStage
  | idle
  /-- `AFHandler` has taken a message. -/
  | entered
  /-- `doAutoFocus` has read a state without `AF_ACTIVE`, and not read the next state. -/
  | reentered
  /-- `doAutoFocus` is about to wait. -/
  | armed
  /-- `doAutoFocus` waits; `source` is the activation begun last when the wait began. -/
  | waiting (source : ℕ)
  /-- `checkFocusStatus` is about to poll. -/
  | polling
  /-- `returnFocusStatus` has not read the state. -/
  | returning (r : FocusReport)
  /-- It has read a state without `AF_ACTIVE`, and not read the next state. -/
  | rereading (r : FocusReport)
  /-- It is about to call `setState`. -/
  | ending (r : FocusReport)
  /-- `setState` has accepted the end of the activation `ended`. -/
  | stopping (r : FocusReport) (ended : ℕ)
  /-- `stopAutoFocus` has returned. -/
  | stopped (r : FocusReport) (ended : ℕ) (ret : Status)
  /-- The end is committed. -/
  | notifying (r : FocusReport) (ended : ℕ) (n : NotifyStage)
  deriving DecidableEq, Repr

/-- How far a command of the application has got. -/
inductive FocusCommand
  | idle
  /-- `setState` has accepted `CAMERA_PERFORM_AUTOFOCUS`. -/
  | performing
  /-- `setState` has accepted `CAMERA_CANCEL_AUTOFOCUS`. -/
  | cancelling
  /-- `autoFocus` or `cancelAutoFocus` has returned. -/
  | done (ret : Status)
  deriving DecidableEq, Repr

/-- A call of the focus subscribers: the report, the activation that was ended for it, and the
activation begun last at that time. -/
structure FocusNotification where
  report : FocusReport
  ended : ℕ
  latest : ℕ
  deriving DecidableEq, Repr

/-- Autofocus. Activations are numbered as `setState` accepts them, the first one being `1`. -/
structure AutoFocus where
  /-- `FOCUS_SUPPORTED` is not `"false"`. -/
  supported : Bool
  mAdapterState : AdapterState
  mNextState : AdapterState
  mLock : Option FocusParty
  mCheckAF : Bool
  /-- The number of messages in the queue of `AFHandler`. -/
  messages : ℕ
  command : FocusCommand
  stage : FocusThread → FocusStage
  /-- The number of activations begun so far. -/
  count : ℕ
  /-- The notifications so far, the latest last. -/
  notified : List FocusNotification

namespace AutoFocus

/-- A thread goes on to a stage. -/
def goto (s : AutoFocus) (t : FocusThread) (stage : FocusStage) : AutoFocus :=
  { s with stage := Function.update s.stage t stage }

/-- A command goes on to a stage. -/
def proceed (s : AutoFocus) (command : FocusCommand) : AutoFocus := { s with command := command }

/-- `setState` accepts a command: `mLock` stays locked. -/
def setState (s : AutoFocus) (p : FocusParty) (next : AdapterState) : AutoFocus :=
  { s with mLock := some p, mNextState := next }

/-- `commitState`. -/
def commitState (s : AutoFocus) : AutoFocus :=
  { s with mAdapterState := s.mNextState, mLock := none }

/-- `rollbackState`. -/
def rollbackState (s : AutoFocus) : AutoFocus :=
  { s with mNextState := s.mAdapterState, mLock := none }

/-- The end of a transition. -/
def settle (s : AutoFocus) (ret : Status) : AutoFocus :=
  if ret = NO_ERROR then s.commitState else s.rollbackState

/-- A new activation. -/
def activate (s : AutoFocus) : AutoFocus := { s with count := s.count + 1 }

/-- `mDoAFCond.broadcast()`: `doAutoFocus` returns if it was waiting. -/
def broadcast (s : AutoFocus) : AutoFocus :=
  match s.stage .af with
  | .waiting _ => s.goto .af .idle
  | _ => s

/-- `mCheckAF` is cleared. -/
def clearCheckAF (s : AutoFocus) : AutoFocus := { s with mCheckAF := false }

/-- `stopAutoFocus`, which also returns what `setFocusMode` returns. -/
def stopAutoFocus (s : AutoFocus) : AutoFocus :=
  if s.mCheckAF then s.clearCheckAF.broadcast else s

/-! ### The commands of the application -/

/-- `CAMERA_PERFORM_AUTOFOCUS` up to `setState`. -/
def performAutoFocus (s : AutoFocus) : AutoFocus :=
  if s.mLock.isSome then s  -- waits for `mLock`
  else
    match s.mAdapterState.setState .CAMERA_PERFORM_AUTOFOCUS with
    | some next => ((s.setState .application next).activate).proceed .performing
    | none => s.rollbackState

/-- `CAMERA_CANCEL_AUTOFOCUS` up to `setState`. -/
def cancelAutoFocus (s : AutoFocus) : AutoFocus :=
  if s.mLock.isSome then s  -- waits for `mLock`
  else
    match s.mAdapterState.setState .CAMERA_CANCEL_AUTOFOCUS with
    | some next => (s.setState .application next).proceed .cancelling
    | none => s.rollbackState

/-- The next step of the command that is under way, with what `put` or `setFocusMode` returns. -/
def continueCommand (s : AutoFocus) (ret : Status) : AutoFocus :=
  match s.command with
  | .idle => s
  | .performing =>
    if ret = NO_ERROR then { s with messages := s.messages + 1, command := .done ret }
    else s.proceed (.done ret)
  | .cancelling => s.stopAutoFocus.proceed (.done ret)
  | .done ret => (s.settle ret).proceed .idle

/-- Another command, if it succeeds; otherwise it leaves the state. -/
def sendCommand (s : AutoFocus) (operation : CameraCommands) : AutoFocus :=
  if s.mLock.isSome ∨ operation = .CAMERA_PERFORM_AUTOFOCUS ∨
      operation = .CAMERA_CANCEL_AUTOFOCUS then s
  else
    match s.mAdapterState.setState operation with
    | some next => (s.setState .application next).commitState
    | none => s.rollbackState

/-! ### The thread of `AFHandler` -/

/-- `AFHandler` takes a message. -/
def get (s : AutoFocus) : AutoFocus :=
  match s.stage .af with
  | .idle => if s.messages = 0 then s else { s.goto .af .entered with messages := s.messages - 1 }
  | _ => s

/-- `returnFocusStatus` is called. -/
def callReturn (s : AutoFocus) (t : FocusThread) (status : FocusStatus) (source : Option ℕ) :
    AutoFocus :=
  s.goto t (.returning ⟨status, source⟩)

/-- `doAutoFocus` after the tests of the state. -/
def startWait (s : AutoFocus) (Focus : OMX_IMAGE_FOCUSCONTROLTYPE) : AutoFocus :=
  if Focus = .OMX_IMAGE_FocusControlOff then s.callReturn .af .FOCUS_STATUS_SUCCESS none
  else s.goto .af .armed

/-- `doAutoFocus` up to the first test of the state, with what it reads. -/
def doAutoFocus (s : AutoFocus) (mComponentState : OMX_STATETYPE) (semCount : ℕ)
    (Focus : OMX_IMAGE_FOCUSCONTROLTYPE) : AutoFocus :=
  match s.stage .af with
  | .entered =>
    if !s.supported then s.callReturn .af .FOCUS_STATUS_SUCCESS none
    else if mComponentState = .OMX_StateInvalid then s.callReturn .af .FOCUS_STATUS_FAIL none
    else if mComponentState ≠ .OMX_StateExecuting then s.callReturn .af .FOCUS_STATUS_FAIL none
    else if semCount ≠ 0 then s.callReturn .af .FOCUS_STATUS_FAIL none
    else if s.mLock.isSome then s  -- `getState` waits for `mLock`
    else if s.mAdapterState.Has AF_ACTIVE then s.startWait Focus
    else s.goto .af .reentered
  | .reentered =>
    if s.mLock.isSome then s  -- `getNextState` waits for `mLock`
    else if s.mNextState.Has AF_ACTIVE then s.startWait Focus
    else s.goto .af .idle
  | _ => s

/-- `doAutoFocus` sets `mCheckAF` and waits. -/
def wait (s : AutoFocus) : AutoFocus :=
  match s.stage .af with
  | .armed => { s.goto .af (.waiting s.count) with mCheckAF := true }
  | _ => s

/-- The wait times out. -/
def timeout (s : AutoFocus) : AutoFocus :=
  match s.stage .af with
  | .waiting source => s.callReturn .af .FOCUS_STATUS_FAIL (some source)
  | _ => s

/-! ### The handler of filled buffers -/

/-- `checkFocusStatus` up to the poll, with the focus mode that it reads. -/
def checkFocusStatus (s : AutoFocus) (Focus : OMX_IMAGE_FOCUSCONTROLTYPE) : AutoFocus :=
  match s.stage .frame with
  | .idle =>
    if ¬ s.mAdapterState.Has AF_ACTIVE then s
    else if Focus ≠ .OMX_IMAGE_FocusControlAuto then s
    else if !s.supported then s
    else s.goto .frame .polling
  | _ => s

/-- `getFocusStatus`, from what `OMX_GetConfig` returns. -/
def getFocusStatus : Option OMX_FOCUSSTATUSTYPE → FocusStatus
  | none => .FOCUS_STATUS_FAIL
  | some .OMX_FocusStatusRequest => .FOCUS_STATUS_PENDING
  | some .OMX_FocusStatusReached => .FOCUS_STATUS_SUCCESS
  | some .other => .FOCUS_STATUS_FAIL

/-- The poll of `checkFocusStatus`. -/
def poll (s : AutoFocus) (eFocusStatus : Option OMX_FOCUSSTATUSTYPE) : AutoFocus :=
  match s.stage .frame with
  | .polling =>
    if s.mCheckAF = false then s.goto .frame .idle
    else if getFocusStatus eFocusStatus = .FOCUS_STATUS_PENDING then s.goto .frame .idle
    else s.clearCheckAF.broadcast.callReturn .frame (getFocusStatus eFocusStatus) (some s.count)
  | _ => s

/-! ### `returnFocusStatus` -/

/-- The subscribers are called. -/
def deliver (s : AutoFocus) (r : FocusReport) (ended : ℕ) : AutoFocus :=
  { s with notified := s.notified ++ [⟨r, ended, s.count⟩] }

/-- The next step of `notifyFocusSubscribers`. -/
def notifyFocusSubscribers (s : AutoFocus) (t : FocusThread) (ret : Status) (subscribed : Bool)
    (r : FocusReport) (ended : ℕ) : NotifyStage → AutoFocus
  | .reading =>
    if s.mLock.isSome then s  -- `getState` waits for `mLock`
    else if s.mAdapterState.Has AF_ACTIVE then s.goto t (.notifying r ended .cancelling)
    else s.goto t (.notifying r ended .delivering)
  | .cancelling =>
    if s.mLock.isSome then s  -- waits for `mLock`
    else
      match s.mAdapterState.setState .CAMERA_CANCEL_AUTOFOCUS with
      | some next => (s.setState (.thread t) next).goto t (.notifying r ended .stopping)
      | none => s.rollbackState.goto t (.notifying r ended .delivering)
  | .stopping => s.stopAutoFocus.goto t (.notifying r ended (.stopped ret))
  | .stopped ret => (s.settle ret).goto t (.notifying r ended .delivering)
  | .delivering => if subscribed then (s.deliver r ended).goto t .idle else s.goto t .idle

/-- The next step of `returnFocusStatus`, with what `setFocusMode` returns and whether
there are subscribers. -/
def returnFocusStatus (s : AutoFocus) (t : FocusThread) (ret : Status) (subscribed : Bool) :
    AutoFocus :=
  match s.stage t with
  | .returning r =>
    if s.mAdapterState.Has AF_ACTIVE then s.goto t (.ending r) else s.goto t (.rereading r)
  | .rereading r =>
    if s.mNextState.Has AF_ACTIVE then s.goto t (.ending r) else s.goto t .idle
  | .ending r =>
    if s.mLock.isSome then s  -- waits for `mLock`
    else
      match s.mAdapterState.setState .CAMERA_CANCEL_AUTOFOCUS with
      | some next => (s.setState (.thread t) next).goto t (.stopping r s.count)
      | none => s.rollbackState.goto t .idle
  | .stopping r ended => s.stopAutoFocus.goto t (.stopped r ended ret)
  | .stopped r ended ret =>
    if ret = NO_ERROR then s.commitState.goto t (.notifying r ended .reading)
    else s.rollbackState.goto t .idle
  | .notifying r ended n => s.notifyFocusSubscribers t ret subscribed r ended n
  | _ => s

/-- The steps. -/
inductive Action
  | performAutoFocus
  | cancelAutoFocus
  | continueCommand (ret : Status)
  | sendCommand (operation : CameraCommands)
  | get
  | doAutoFocus (mComponentState : OMX_STATETYPE) (semCount : ℕ)
      (Focus : OMX_IMAGE_FOCUSCONTROLTYPE)
  | wait
  | timeout
  | checkFocusStatus (Focus : OMX_IMAGE_FOCUSCONTROLTYPE)
  | poll (eFocusStatus : Option OMX_FOCUSSTATUSTYPE)
  | returnFocusStatus (t : FocusThread) (ret : Status) (subscribed : Bool)

/-- One step. -/
def step (s : AutoFocus) : Action → AutoFocus
  | .performAutoFocus => s.performAutoFocus
  | .cancelAutoFocus => s.cancelAutoFocus
  | .continueCommand ret => s.continueCommand ret
  | .sendCommand operation => s.sendCommand operation
  | .get => s.get
  | .doAutoFocus mComponentState semCount Focus => s.doAutoFocus mComponentState semCount Focus
  | .wait => s.wait
  | .timeout => s.timeout
  | .checkFocusStatus Focus => s.checkFocusStatus Focus
  | .poll eFocusStatus => s.poll eFocusStatus
  | .returnFocusStatus t ret subscribed => s.returnFocusStatus t ret subscribed

/-- No activation was notified twice. -/
def NotifiedOnce (s : AutoFocus) : Prop := (s.notified.map FocusNotification.ended).Nodup

/-- Every status that was polled or timed out was of the activation that was ended for it, and no
later one had begun when it was reported. -/
def Honest (s : AutoFocus) : Prop :=
  ∀ n ∈ s.notified, ∀ j ∈ n.report.source, j = n.ended ∧ n.ended = n.latest

/-- The activation that a thread has ended and not yet notified. -/
def pending : FocusStage → List ℕ
  | .notifying _ ended _ => [ended]
  | _ => []

/-- The condition on a step: `setState` accepts a new activation only while no thread has ended one
without having notified it, and `returnFocusStatus` ends an activation only if none has begun since
its status was polled or its wait began. -/
def Careful (s : AutoFocus) : Action → Prop
  | .performAutoFocus =>
    s.mLock = none → (s.mAdapterState.setState .CAMERA_PERFORM_AUTOFOCUS).isSome →
      ∀ t, pending (s.stage t) = []
  | .returnFocusStatus t _ _ => ∀ r, s.stage t = .ending r → s.mLock = none →
    (s.mAdapterState.setState .CAMERA_CANCEL_AUTOFOCUS).isSome → ∀ j ∈ r.source, j = s.count
  | _ => True

/-- Autofocus before the first activation. -/
structure Ready (s : AutoFocus) : Prop where
  inactive : ¬ s.mAdapterState.Has AF_ACTIVE
  settled : s.mNextState = s.mAdapterState
  unlocked : s.mLock = none
  command : s.command = .idle
  stage : ∀ t, s.stage t = .idle
  notified : s.notified = []

/-! ### The autofocus bit -/

/-- `setState` of `CAMERA_CANCEL_AUTOFOCUS` clears the bit. -/
lemma not_has_of_cancel {w next : AdapterState}
    (h : w.setState .CAMERA_CANCEL_AUTOFOCUS = some next) :
    w.Has AF_ACTIVE ∧ ¬ next.Has AF_ACTIVE := by
  rw [setState_CANCEL_AUTOFOCUS] at h
  split_ifs at h with hbits
  obtain rfl := Option.some.inj h
  refine ⟨hbits.2, not_not.mpr ?_⟩
  rw [BitVec.and_assoc, show ~~~AF_ACTIVE &&& AF_ACTIVE = 0#32 by decide, BitVec.and_zero]
  rfl

/-- The flags that a transition carries over. -/
lemma has_of_carried {w b : AdapterState} (hb : b &&& AF_ACTIVE = 0#32)
    (h : (b ||| (w &&& FLAGS)).Has AF_ACTIVE) : w.Has AF_ACTIVE := by
  rw [Has, BitVec.and_or_distrib_right, hb, BitVec.zero_or, BitVec.and_assoc,
    show FLAGS &&& AF_ACTIVE = AF_ACTIVE by decide] at h
  exact h

/-- A transition of the base state leads to a base state, perhaps with the flags carried over. -/
lemma baseTransition_cases {w next : AdapterState} {operation : CameraCommands}
    (h : baseTransition w operation = some next) :
    ∃ b : AdapterState, b &&& AF_ACTIVE = 0#32 ∧ (next = b ∨ next = b ||| (w &&& FLAGS)) := by
  unfold baseTransition at h
  split_ifs at h
  all_goals try split at h
  all_goals cases h
  all_goals first
    | exact ⟨_, by decide, Or.inr rfl⟩
    | exact ⟨_, by decide, Or.inl rfl⟩

/-- No other command sets the bit. -/
lemma has_of_setState {w next : AdapterState} {operation : CameraCommands}
    (hop : operation ≠ .CAMERA_PERFORM_AUTOFOCUS) (h : w.setState operation = some next)
    (hnext : next.Has AF_ACTIVE) : w.Has AF_ACTIVE := by
  by_contra hnot
  unfold AdapterState.setState at h
  cases hbase : baseTransition w operation with
  | some next' =>
    rw [hbase] at h
    obtain rfl := Option.some.inj h
    obtain ⟨b, hb, rfl | rfl⟩ := baseTransition_cases hbase
    · exact hnext hb
    · exact hnot (has_of_carried hb hnext)
  | none =>
    have hfocus : focusTransition w operation = none := by
      unfold focusTransition
      rw [if_neg hnot]
      split
      · exact absurd rfl hop
      · rfl
    simp only [hbase, hfocus, zoomTransition] at h
    split_ifs at h
    · split at h
      · obtain rfl := Option.some.inj h
        refine hnot fun hw => hnext ?_
        rw [BitVec.and_assoc, show ~~~ZOOM_ACTIVE &&& AF_ACTIVE = AF_ACTIVE by decide]
        exact hw
      · exact absurd h (by simp)
    · split at h
      · obtain rfl := Option.some.inj h
        refine hnot fun hw => hnext ?_
        rw [BitVec.and_or_distrib_right, hw]
        rfl
      · exact absurd h (by simp)

/-! ### The invariant of all runs -/

/-- A thread owns `mLock` in these stages. -/
def holding : FocusStage → Bool
  | .stopping _ _ | .stopped _ _ _ => true
  | .notifying _ _ .stopping | .notifying _ _ (.stopped _) => true
  | _ => false

/-- The activations that were ended by `returnFocusStatus`. -/
def ended (s : AutoFocus) : List ℕ :=
  s.notified.map FocusNotification.ended ++
    (pending (s.stage .af) ++ pending (s.stage .frame))

/-- A thread that holds `mLock` owns it, and the activation that it is ending is the active one. -/
structure StageOk (s : AutoFocus) (t : FocusThread) : Prop where
  owner : holding (s.stage t) = true → s.mLock = some (.thread t)
  ending : ∀ r e, s.stage t = .stopping r e ∨ (∃ ret, s.stage t = .stopped r e ret) →
    e = s.count ∧ s.mAdapterState.Has AF_ACTIVE ∧ ¬ s.mNextState.Has AF_ACTIVE

/-- The invariant of all runs: no activation is ended twice, and an active one has not been
ended. -/
structure WellFormed (s : AutoFocus) : Prop where
  command : s.command ≠ .idle → s.mLock = some .application
  stages : ∀ t, StageOk s t
  ended_le : ∀ e ∈ s.ended, e ≤ s.count
  nodup : s.ended.Nodup
  active : s.mAdapterState.Has AF_ACTIVE ∨ s.mNextState.Has AF_ACTIVE → s.count ∉ s.ended

/-- Before the first activation everything is in order. -/
lemma Ready.wellFormed {s : AutoFocus} (h : Ready s) : WellFormed s := by
  have hended : s.ended = [] := by simp [ended, h.notified, h.stage, pending]
  refine ⟨fun hc => absurd h.command hc, fun t => ⟨?_, ?_⟩, ?_, ?_, ?_⟩
  · simp [h.stage t, holding]
  · simp [h.stage t]
  · simp [hended]
  · simp [hended]
  · simp [hended]

section Quiet

variable {s : AutoFocus} {t : FocusThread} {st : FocusStage}

/-- A thread's new stage. -/
@[simp] lemma stage_goto_self : (s.goto t st).stage t = st := by
  simp [goto]

/-- The stages of the other thread. -/
lemma stage_goto_of_ne {t' : FocusThread} (h : t' ≠ t) : (s.goto t st).stage t' = s.stage t' := by
  simp [goto, Function.update_of_ne h]

/-- Stages with the same pending activation make no difference to what was ended. -/
lemma ended_goto (hst : pending st = pending (s.stage t)) : (s.goto t st).ended = s.ended := by
  cases t <;> simp [ended, goto, hst]

/-- The other thread keeps the rules of the lock when a thread goes on. -/
lemma StageOk.goto_of_ne {t' : FocusThread} (h : StageOk s t') (ht : t' ≠ t) :
    StageOk (s.goto t st) t' := by
  have hstage : (s.goto t st).stage t' = s.stage t' := stage_goto_of_ne ht
  obtain ⟨howner, hending⟩ := h
  rw [← hstage] at howner hending
  exact ⟨howner, hending⟩

/-- A thread may go on to a stage with the same pending activation, if it keeps the rules of the
lock. -/
lemma WellFormed.goto (h : WellFormed s) (hst : pending st = pending (s.stage t))
    (hok : StageOk (s.goto t st) t) : WellFormed (s.goto t st) := by
  have hended := ended_goto hst
  refine ⟨h.command, fun t' => ?_, ?_, ?_, ?_⟩
  · by_cases ht : t' = t
    · rw [ht]
      exact hok
    · exact (h.stages t').goto_of_ne ht
  · rw [hended]
    exact h.ended_le
  · rw [hended]
    exact h.nodup
  · rw [hended]
    exact h.active

/-- Stages without the lock keep its rules. -/
lemma stageOk_of_free (hstage : holding (s.stage t) = false) : StageOk s t := by
  refine ⟨fun hh => ?_, fun r e hcase => ?_⟩
  · rw [hstage] at hh
    exact absurd hh (by decide)
  · rcases hcase with hs | ⟨ret, hs⟩
    · rw [hs] at hstage
      exact absurd hstage (by simp [holding])
    · rw [hs] at hstage
      exact absurd hstage (by simp [holding])

/-- A thread may go on to a stage without the lock. -/
lemma WellFormed.goto_free (h : WellFormed s) (hst : pending st = pending (s.stage t))
    (hfree : holding st = false) : WellFormed (s.goto t st) :=
  h.goto hst (stageOk_of_free (by rw [stage_goto_self]; exact hfree))

/-- `mCheckAF` plays no part. -/
lemma WellFormed.clearCheckAF (h : WellFormed s) : WellFormed s.clearCheckAF :=
  ⟨h.command, fun t => ⟨(h.stages t).owner, (h.stages t).ending⟩, h.ended_le, h.nodup, h.active⟩

/-- A broadcast ends a wait. -/
lemma WellFormed.broadcast (h : WellFormed s) : WellFormed s.broadcast := by
  unfold AutoFocus.broadcast
  split
  · rename_i source hstage
    exact h.goto_free (by rw [hstage]; rfl) rfl
  · exact h

/-- `stopAutoFocus` keeps the invariant. -/
lemma WellFormed.stopAutoFocus (h : WellFormed s) : WellFormed s.stopAutoFocus := by
  unfold AutoFocus.stopAutoFocus
  split_ifs
  · exact h.clearCheckAF.broadcast
  · exact h

/-- A thread that owns nothing does not hold `mLock`. -/
lemma WellFormed.free_of_ne (h : WellFormed s) (hlock : s.mLock ≠ some (.thread t)) :
    holding (s.stage t) = false := by
  by_contra hh
  exact hlock ((h.stages t).owner (Bool.eq_true_of_not_eq_false hh))

end Quiet

/-! ### Transitions -/

section Transitions

variable {s : AutoFocus}

/-- While `mLock` is free, no command is under way. -/
lemma WellFormed.command_idle (h : WellFormed s) (hlock : s.mLock ≠ some .application) :
    s.command = .idle := by
  by_contra hc
  exact hlock (h.command hc)

/-- `setState` takes `mLock`, and at most keeps the activation. -/
lemma WellFormed.setState (h : WellFormed s) (hlock : s.mLock = none) (p : FocusParty)
    {next : AdapterState} (hnext : next.Has AF_ACTIVE → s.mAdapterState.Has AF_ACTIVE) :
    WellFormed (s.setState p next) := by
  have hidle := h.command_idle (by simp [hlock])
  refine ⟨fun hc => absurd hidle hc, fun t => ?_, h.ended_le, h.nodup, ?_⟩
  · exact stageOk_of_free (h.free_of_ne (by simp [hlock]))
  · rintro (hactive | hactive)
    · exact h.active (Or.inl hactive)
    · exact h.active (Or.inl (hnext hactive))

/-- `setState` begins an activation. -/
lemma WellFormed.activate (h : WellFormed s) (hlock : s.mLock = none) (p : FocusParty)
    (next : AdapterState) : WellFormed (s.setState p next).activate := by
  have hidle := h.command_idle (by simp [hlock])
  refine ⟨fun hc => absurd hidle hc, fun t => ?_, fun e he => ?_, h.nodup, fun _ hmem => ?_⟩
  · exact stageOk_of_free (h.free_of_ne (by simp [hlock]))
  · exact Nat.le_succ_of_le (h.ended_le e he)
  · exact absurd (h.ended_le _ hmem) (Nat.not_succ_le_self s.count)

/-- A command goes on while the application owns `mLock`. -/
lemma WellFormed.proceed (h : WellFormed s) (command : FocusCommand)
    (hlock : s.mLock = some .application) : WellFormed (s.proceed command) :=
  ⟨fun _ => hlock, fun t => ⟨(h.stages t).owner, (h.stages t).ending⟩, h.ended_le, h.nodup,
    h.active⟩

/-- The end of a transition, once nobody needs `mLock` any more. -/
lemma WellFormed.settle (h : WellFormed s) (hidle : s.command = .idle)
    (hfree : ∀ t, holding (s.stage t) = false) (ret : Status) : WellFormed (s.settle ret) := by
  unfold AutoFocus.settle
  split_ifs
  · refine ⟨fun hc => absurd hidle hc, fun t => stageOk_of_free (hfree t), h.ended_le, h.nodup, ?_⟩
    rintro (hactive | hactive)
    · exact h.active (Or.inr hactive)
    · exact h.active (Or.inr hactive)
  · refine ⟨fun hc => absurd hidle hc, fun t => stageOk_of_free (hfree t), h.ended_le, h.nodup, ?_⟩
    rintro (hactive | hactive)
    · exact h.active (Or.inl hactive)
    · exact h.active (Or.inl hactive)

/-- A rejected command. -/
lemma WellFormed.rollbackState (h : WellFormed s) (hlock : s.mLock = none) :
    WellFormed s.rollbackState := by
  have hsettle := h.settle (h.command_idle (by simp [hlock]))
    (fun t => h.free_of_ne (by simp [hlock])) UNKNOWN_ERROR
  rwa [AutoFocus.settle, if_neg (by decide)] at hsettle

/-- The end of a transition and the next stage of a thread. -/
lemma settle_goto (t : FocusThread) (st : FocusStage) (ret : Status) :
    (s.settle ret).goto t st = (s.goto t st).settle ret := by
  unfold AutoFocus.settle
  split_ifs <;> rfl

/-- The end of a transition and the end of a command. -/
lemma settle_proceed (command : FocusCommand) (ret : Status) :
    (s.settle ret).proceed command = (s.proceed command).settle ret := by
  unfold AutoFocus.settle
  split_ifs <;> rfl

end Transitions

/-! ### The steps keep the invariant -/

section Steps

variable {s : AutoFocus}

/-- The free lock, as `setState` finds it. -/
lemma lock_eq_none (h : ¬ s.mLock.isSome = true) : s.mLock = none :=
  Option.not_isSome_iff_eq_none.mp h

/-- An activation that is accepted is new. -/
lemma WellFormed.performAutoFocus (h : WellFormed s) : WellFormed s.performAutoFocus := by
  unfold AutoFocus.performAutoFocus
  split_ifs with hlock
  · exact h
  · have hnone := lock_eq_none hlock
    split
    · rename_i next hset
      exact (h.activate hnone .application next).proceed .performing rfl
    · exact h.rollbackState hnone

/-- A cancel at most clears the bit. -/
lemma WellFormed.cancelAutoFocus (h : WellFormed s) : WellFormed s.cancelAutoFocus := by
  unfold AutoFocus.cancelAutoFocus
  split_ifs with hlock
  · exact h
  · have hnone := lock_eq_none hlock
    split
    · rename_i next hset
      have hcleared := (not_has_of_cancel hset).2
      exact (h.setState hnone .application fun hnext => absurd hnext hcleared).proceed _ rfl
    · exact h.rollbackState hnone

/-- The application goes on with its command, and gives `mLock` back. -/
lemma WellFormed.continueCommand (h : WellFormed s) (ret : Status) :
    WellFormed (s.continueCommand ret) := by
  unfold AutoFocus.continueCommand
  split
  · exact h
  · rename_i hc
    have hlock := h.command (by simp [hc])
    have hdone := h.proceed (.done ret) hlock
    split_ifs
    · exact ⟨hdone.command, fun t => ⟨(h.stages t).owner, (h.stages t).ending⟩, h.ended_le, h.nodup,
        h.active⟩
    · exact hdone
  · rename_i hc
    have hlock := h.command (by simp [hc])
    refine h.stopAutoFocus.proceed _ ?_
    unfold AutoFocus.stopAutoFocus AutoFocus.broadcast
    split_ifs
    · split <;> exact hlock
    · exact hlock
  · rename_i ret hc
    have hlock := h.command (by simp [hc])
    rw [settle_proceed]
    refine (h.proceed .idle hlock).settle rfl (fun t => ?_) ret
    exact h.free_of_ne (by simp [hlock])

/-- The other commands keep the bit. -/
lemma WellFormed.sendCommand (h : WellFormed s) (operation : CameraCommands) :
    WellFormed (s.sendCommand operation) := by
  unfold AutoFocus.sendCommand
  split_ifs with hblock
  · exact h
  · rw [not_or, not_or] at hblock
    have hnone := lock_eq_none hblock.1
    split
    · rename_i next hset
      have hset' := h.setState hnone .application (has_of_setState hblock.2.1 hset)
      have hfree : ∀ t, holding (s.stage t) = false := fun t => h.free_of_ne (by simp [hnone])
      have hsettle := hset'.settle (h.command_idle (by simp [hnone])) hfree NO_ERROR
      rwa [AutoFocus.settle, if_pos rfl] at hsettle
    · exact h.rollbackState hnone

/-- The thread of `AFHandler` takes a message. -/
lemma WellFormed.get (h : WellFormed s) : WellFormed s.get := by
  unfold AutoFocus.get
  split
  · rename_i hstage
    split_ifs
    · exact h
    · have hgoto : WellFormed (s.goto .af .entered) := h.goto_free (by rw [hstage]; rfl) rfl
      exact ⟨hgoto.command, fun t => ⟨(hgoto.stages t).owner, (hgoto.stages t).ending⟩,
        hgoto.ended_le, hgoto.nodup, hgoto.active⟩
  · exact h

/-- The thread of `AFHandler` decides to wait. -/
lemma WellFormed.startWait (h : WellFormed s) (hstage : pending (s.stage .af) = [])
    (Focus : OMX_IMAGE_FOCUSCONTROLTYPE) : WellFormed (s.startWait Focus) := by
  unfold AutoFocus.startWait callReturn
  split_ifs <;> exact h.goto_free hstage.symm rfl

/-- `doAutoFocus` tests the state. -/
lemma WellFormed.doAutoFocus (h : WellFormed s) (mComponentState : OMX_STATETYPE) (semCount : ℕ)
    (Focus : OMX_IMAGE_FOCUSCONTROLTYPE) :
    WellFormed (s.doAutoFocus mComponentState semCount Focus) := by
  unfold AutoFocus.doAutoFocus callReturn
  split
  · rename_i hstage
    have hpending : pending (s.stage .af) = [] := by rw [hstage]; rfl
    split_ifs
    all_goals first
      | exact h
      | exact h.startWait hpending Focus
      | exact h.goto_free hpending.symm rfl
  · rename_i hstage
    have hpending : pending (s.stage .af) = [] := by rw [hstage]; rfl
    split_ifs
    · exact h
    · exact h.startWait hpending Focus
    · exact h.goto_free hpending.symm rfl
  · exact h

/-- `doAutoFocus` begins to wait. -/
lemma WellFormed.wait (h : WellFormed s) : WellFormed s.wait := by
  unfold AutoFocus.wait
  split
  · rename_i hstage
    have hgoto : WellFormed (s.goto .af (.waiting s.count)) := h.goto_free (by rw [hstage]; rfl) rfl
    exact ⟨hgoto.command, fun t => ⟨(hgoto.stages t).owner, (hgoto.stages t).ending⟩,
      hgoto.ended_le, hgoto.nodup, hgoto.active⟩
  · exact h

/-- The wait times out. -/
lemma WellFormed.timeout (h : WellFormed s) : WellFormed s.timeout := by
  unfold AutoFocus.timeout callReturn
  split
  · rename_i hstage
    exact h.goto_free (by rw [hstage]; rfl) rfl
  · exact h

/-- A frame tests the state. -/
lemma WellFormed.checkFocusStatus (h : WellFormed s) (Focus : OMX_IMAGE_FOCUSCONTROLTYPE) :
    WellFormed (s.checkFocusStatus Focus) := by
  unfold AutoFocus.checkFocusStatus
  split
  · rename_i hstage
    split_ifs
    all_goals first
      | exact h
      | exact h.goto_free (by rw [hstage]; rfl) rfl
  · exact h

/-- A broadcast leaves the handler of filled buffers where it is. -/
@[simp] lemma stage_frame_broadcast : s.broadcast.stage .frame = s.stage .frame := by
  unfold AutoFocus.broadcast
  split
  · exact stage_goto_of_ne (by decide)
  · rfl

/-- A frame polls the status. -/
lemma WellFormed.poll (h : WellFormed s) (eFocusStatus : Option OMX_FOCUSSTATUSTYPE) :
    WellFormed (s.poll eFocusStatus) := by
  unfold AutoFocus.poll callReturn
  split
  · rename_i hstage
    split_ifs
    · exact h.goto_free (by rw [hstage]; rfl) rfl
    · exact h.goto_free (by rw [hstage]; rfl) rfl
    · refine h.clearCheckAF.broadcast.goto_free ?_ rfl
      rw [stage_frame_broadcast, AutoFocus.clearCheckAF, hstage]
      rfl
  · exact h

end Steps

/-! ### `returnFocusStatus` keeps the invariant -/

section Returning

variable {s : AutoFocus} {t : FocusThread}

/-- The invariant moves to a state that differs in the stages and the notifications, if nothing was
ended twice. -/
lemma WellFormed.of_ended {s' : AutoFocus} (h : WellFormed s) (hcommand : s'.command = s.command)
    (hlock : s'.mLock = s.mLock) (hstate : s'.mAdapterState = s.mAdapterState)
    (hnext : s'.mNextState = s.mNextState) (hcount : s'.count = s.count)
    (hstages : ∀ t, StageOk s' t) (hsub : ∀ e ∈ s'.ended, e ∈ s.ended) (hnodup : s'.ended.Nodup) :
    WellFormed s' := by
  refine ⟨?_, hstages, fun e he => ?_, hnodup, fun hactive hmem => ?_⟩
  · rw [hcommand, hlock]
    exact h.command
  · rw [hcount]
    exact h.ended_le e (hsub e he)
  · rw [hstate, hnext] at hactive
    rw [hcount] at hmem
    exact h.active hactive (hsub _ hmem)

/-- Both threads keep the rules of the lock when one of them goes on without it. -/
lemma stageOk_goto (h : WellFormed s) {st : FocusStage} (hfree : holding st = false)
    (t' : FocusThread) : StageOk (s.goto t st) t' := by
  by_cases ht : t' = t
  · rw [ht]
    exact stageOk_of_free (by rw [stage_goto_self]; exact hfree)
  · exact (h.stages t').goto_of_ne ht

/-- A thread that notifies has its activation pending. -/
@[simp] lemma pending_notifying (r : FocusReport) (e : ℕ) (n : NotifyStage) :
    pending (.notifying r e n) = [e] := rfl

/-- An idle thread has none. -/
@[simp] lemma pending_idle : pending .idle = [] := rfl

/-- An activation that is ended now. -/
lemma ended_goto_cons {r : FocusReport} {e : ℕ} {n : NotifyStage}
    (hstage : pending (s.stage t) = []) :
    (s.goto t (.notifying r e n)).ended.Perm (e :: s.ended) := by
  cases t with
  | af => simp [ended, goto, hstage]
  | frame =>
    have hperm := List.perm_append_singleton e
      (s.notified.map FocusNotification.ended ++ pending (s.stage .af))
    simpa [ended, goto, hstage] using hperm

/-- A notification is sent, or not. -/
lemma ended_deliver {r : FocusReport} {e : ℕ} {n : NotifyStage}
    (hstage : s.stage t = .notifying r e n) :
    s.ended.Perm (e :: (s.goto t .idle).ended) ∧
      ((s.deliver r e).goto t .idle).ended.Perm s.ended := by
  cases t with
  | af =>
    constructor
    · simp [ended, goto, hstage]
    · simp [ended, goto, deliver, hstage]
  | frame =>
    have hperm := List.perm_append_singleton e (pending (s.stage .af))
    constructor
    · have hlast := List.perm_append_singleton e
        (s.notified.map FocusNotification.ended ++ pending (s.stage .af))
      simpa [ended, goto, hstage] using hlast
    · simpa [ended, goto, deliver, hstage] using hperm.symm.append_left _

/-- `returnFocusStatus` commits the end of an activation. -/
lemma WellFormed.commitState (h : WellFormed s) {r : FocusReport} {e : ℕ} {ret : Status}
    (hstage : s.stage t = .stopped r e ret) (n : NotifyStage)
    (hn : holding (.notifying r e n) = false) :
    WellFormed (s.commitState.goto t (.notifying r e n)) := by
  obtain ⟨he, hactive, hcleared⟩ := (h.stages t).ending r e (Or.inr ⟨ret, hstage⟩)
  have hlock := (h.stages t).owner (by rw [hstage]; rfl)
  have hidle := h.command_idle (by simp [hlock])
  have hnot : e ∉ s.ended := he ▸ h.active (Or.inl hactive)
  have hperm : (s.commitState.goto t (.notifying r e n)).ended.Perm (e :: s.ended) :=
    ended_goto_cons (s := s.commitState) (by rw [AutoFocus.commitState, hstage]; rfl)
  refine ⟨fun hc => absurd hidle hc, fun t' => ?_, fun e' he' => ?_, ?_, ?_⟩
  · refine stageOk_of_free ?_
    by_cases ht : t' = t
    · rw [ht, stage_goto_self]
      exact hn
    · rw [stage_goto_of_ne ht]
      exact h.free_of_ne (by simp [hlock, Ne.symm ht])
  · rcases List.mem_cons.mp (hperm.mem_iff.mp he') with rfl | he'
    · exact he.le
    · exact h.ended_le e' he'
  · exact hperm.nodup_iff.mpr (List.nodup_cons.mpr ⟨hnot, h.nodup⟩)
  · rintro (hactive | hactive)
    · exact absurd hactive hcleared
    · exact absurd hactive hcleared

/-- A thread gives `mLock` back and goes on. -/
lemma WellFormed.settle_goto (h : WellFormed s) (hlock : s.mLock = some (.thread t))
    {st : FocusStage} (hst : pending st = pending (s.stage t)) (hfree : holding st = false)
    (ret : Status) : WellFormed ((s.settle ret).goto t st) := by
  rw [AutoFocus.settle_goto]
  refine (h.goto_free hst hfree).settle (h.command_idle (by simp [hlock])) (fun t' => ?_) ret
  by_cases ht : t' = t
  · rw [ht, stage_goto_self]
    exact hfree
  · rw [stage_goto_of_ne ht]
    exact h.free_of_ne (by simp [hlock, Ne.symm ht])

/-- A broadcast leaves a thread that does not wait where it is. -/
lemma stage_stopAutoFocus {st : FocusStage} (hstage : s.stage t = st)
    (hst : ∀ source, st ≠ .waiting source) : s.stopAutoFocus.stage t = st := by
  unfold stopAutoFocus broadcast
  split_ifs
  · split
    · rename_i source haf
      by_cases ht : t = .af
      · subst ht
        exact absurd (hstage.symm.trans haf) (hst source)
      · rw [stage_goto_of_ne ht]
        exact hstage
    · exact hstage
  · exact hstage

/-- `notifyFocusSubscribers` keeps the invariant. -/
lemma WellFormed.notifyFocusSubscribers (h : WellFormed s) {r : FocusReport} {e : ℕ}
    {n : NotifyStage} (hstage : s.stage t = .notifying r e n) (ret : Status) (subscribed : Bool) :
    WellFormed (s.notifyFocusSubscribers t ret subscribed r e n) := by
  have hpending : ∀ n', pending (.notifying r e n') = pending (s.stage t) := by simp [hstage]
  cases n with
  | reading =>
    simp only [AutoFocus.notifyFocusSubscribers]
    split_ifs
    · exact h
    · exact h.goto_free (hpending _) rfl
    · exact h.goto_free (hpending _) rfl
  | cancelling =>
    simp only [AutoFocus.notifyFocusSubscribers]
    split_ifs with hlock
    · exact h
    · have hnone := lock_eq_none hlock
      split
      · rename_i next hset
        have hcleared := (not_has_of_cancel hset).2
        refine (h.setState hnone (.thread t) fun hnext => absurd hnext hcleared).goto
          (hpending _) ?_
        exact ⟨fun _ => rfl, by simp⟩
      · exact (h.rollbackState hnone).goto_free (hpending _) rfl
  | stopping =>
    simp only [AutoFocus.notifyFocusSubscribers]
    have hkept := stage_stopAutoFocus hstage (by simp)
    refine h.stopAutoFocus.goto (by simp [hkept]) ⟨fun _ => ?_, by simp⟩
    exact (h.stopAutoFocus.stages t).owner (by rw [hkept]; rfl)
  | stopped ret =>
    exact h.settle_goto ((h.stages t).owner (by rw [hstage]; rfl)) (hpending _) rfl ret
  | delivering =>
    simp only [AutoFocus.notifyFocusSubscribers]
    obtain ⟨hdrop, hdeliver⟩ := ended_deliver hstage
    split_ifs
    · have hok : ∀ t', StageOk (s.goto t .idle) t' := stageOk_goto h rfl
      refine h.of_ended rfl rfl rfl rfl rfl (fun t' => ⟨(hok t').owner, (hok t').ending⟩) ?_ ?_
      · exact fun e' he' => hdeliver.mem_iff.mp he'
      · exact hdeliver.nodup_iff.mpr h.nodup
    · refine h.of_ended rfl rfl rfl rfl rfl (stageOk_goto h rfl) (fun e' he' => ?_) ?_
      · exact hdrop.mem_iff.mpr (List.mem_cons_of_mem e he')
      · exact (List.nodup_cons.mp (hdrop.nodup_iff.mp h.nodup)).2

/-- `returnFocusStatus` keeps the invariant. -/
lemma WellFormed.returnFocusStatus (h : WellFormed s) (t : FocusThread) (ret : Status)
    (subscribed : Bool) : WellFormed (s.returnFocusStatus t ret subscribed) := by
  unfold AutoFocus.returnFocusStatus
  cases hstage : s.stage t with
  | idle | entered | reentered | armed | waiting source | polling => exact h
  | returning r =>
    dsimp only
    split_ifs <;> exact h.goto_free (by rw [hstage]; rfl) rfl
  | rereading r =>
    dsimp only
    split_ifs <;> exact h.goto_free (by rw [hstage]; rfl) rfl
  | ending r =>
    dsimp only
    split_ifs with hlock
    · exact h
    · have hnone := lock_eq_none hlock
      split
      · rename_i next hset
        obtain ⟨hactive, hcleared⟩ := not_has_of_cancel hset
        have hset' := h.setState hnone (.thread t) fun hnext => absurd hnext hcleared
        refine hset'.goto (by simp [AutoFocus.setState, hstage, pending]) ⟨fun _ => rfl, ?_⟩
        intro r' e hcase
        simp only [stage_goto_self, FocusStage.stopping.injEq, reduceCtorEq, exists_false,
          or_false] at hcase
        exact ⟨hcase.2.symm, hactive, hcleared⟩
      · exact (h.rollbackState hnone).goto_free
          (by simp [AutoFocus.rollbackState, hstage, pending]) rfl
  | stopping r e =>
    have hkept := stage_stopAutoFocus hstage (by simp)
    have hok := h.stopAutoFocus.stages t
    refine h.stopAutoFocus.goto (by rw [hkept]; rfl) ⟨fun _ => hok.owner (by rw [hkept]; rfl), ?_⟩
    intro r' e' hcase
    simp only [stage_goto_self, FocusStage.stopped.injEq, reduceCtorEq, false_or] at hcase
    obtain ⟨ret', rfl, rfl, -⟩ := hcase
    exact hok.ending r e (Or.inl hkept)
  | stopped r e ret' =>
    dsimp only
    split_ifs with hret
    · exact h.commitState hstage .reading rfl
    · have hgoto : WellFormed ((s.settle ret').goto t .idle) :=
        h.settle_goto ((h.stages t).owner (by rw [hstage]; rfl)) (by rw [hstage]; rfl) rfl ret'
      rwa [AutoFocus.settle, if_neg hret] at hgoto
  | notifying r e n => exact h.notifyFocusSubscribers hstage ret subscribed

end Returning

/-- **Every step keeps the invariant.** -/
theorem WellFormed.step {s : AutoFocus} (h : WellFormed s) (a : Action) :
    WellFormed (s.step a) := by
  cases a with
  | performAutoFocus => exact h.performAutoFocus
  | cancelAutoFocus => exact h.cancelAutoFocus
  | continueCommand ret => exact h.continueCommand ret
  | sendCommand operation => exact h.sendCommand operation
  | get => exact h.get
  | doAutoFocus mComponentState semCount Focus => exact h.doAutoFocus mComponentState semCount Focus
  | wait => exact h.wait
  | timeout => exact h.timeout
  | checkFocusStatus Focus => exact h.checkFocusStatus Focus
  | poll eFocusStatus => exact h.poll eFocusStatus
  | returnFocusStatus t ret subscribed => exact h.returnFocusStatus t ret subscribed

/-- No activation is notified twice. -/
lemma WellFormed.notifiedOnce {s : AutoFocus} (h : WellFormed s) : NotifiedOnce s :=
  (List.nodup_append'.mp h.nodup).1

/-! ### The invariant of careful runs -/

/-- A thread ends the activation that its status is of, and no later one has begun until it has
notified it. -/
def Reports (count : ℕ) : FocusStage → Prop
  | .stopping r e | .stopped r e _ => ∀ j ∈ r.source, j = e
  | .notifying r e _ => e = count ∧ ∀ j ∈ r.source, j = e
  | _ => True

/-- The invariant of careful runs. -/
structure Fresh (s : AutoFocus) : Prop where
  reports : ∀ t, Reports s.count (s.stage t)
  honest : Honest s

/-- Before the first activation there is nothing to report. -/
lemma Ready.fresh {s : AutoFocus} (h : Ready s) : Fresh s :=
  ⟨fun t => by rw [h.stage t]; trivial, by simp [Honest, h.notified]⟩

namespace Fresh

variable {s : AutoFocus} {t : FocusThread}

/-- The invariant is about the stages, the activations and the notifications. -/
lemma congr {s' : AutoFocus} (h : Fresh s) (hstage : s'.stage = s.stage)
    (hcount : s'.count = s.count) (hnotified : s'.notified = s.notified) : Fresh s' := by
  refine ⟨fun t => ?_, ?_⟩
  · rw [hstage, hcount]
    exact h.reports t
  · rw [Honest, hnotified]
    exact h.honest

/-- A thread may go on to a stage that reports the right activation. -/
lemma goto (h : Fresh s) {st : FocusStage} (hst : Reports s.count st) : Fresh (s.goto t st) := by
  refine ⟨fun t' => ?_, h.honest⟩
  by_cases ht : t' = t
  · rw [ht, stage_goto_self]
    exact hst
  · rw [stage_goto_of_ne ht]
    exact h.reports t'

/-- A transition begins. -/
lemma setState (h : Fresh s) (p : FocusParty) (next : AdapterState) :
    Fresh (s.setState p next) := h.congr rfl rfl rfl

/-- A transition is committed. -/
lemma commitState (h : Fresh s) : Fresh s.commitState := h.congr rfl rfl rfl

/-- A transition is undone. -/
lemma rollbackState (h : Fresh s) : Fresh s.rollbackState := h.congr rfl rfl rfl

/-- The end of a transition. -/
lemma settle (h : Fresh s) (ret : Status) : Fresh (s.settle ret) := by
  unfold AutoFocus.settle
  split_ifs
  · exact h.commitState
  · exact h.rollbackState

/-- `stopAutoFocus`. -/
lemma stopAutoFocus (h : Fresh s) : Fresh s.stopAutoFocus := by
  unfold AutoFocus.stopAutoFocus broadcast
  have hclear : Fresh s.clearCheckAF := h.congr rfl rfl rfl
  split_ifs
  · split
    · exact hclear.goto trivial
    · exact hclear
  · exact h

/-- The commands of the application. -/
lemma command (h : Fresh s) : Fresh s.cancelAutoFocus ∧ (∀ ret, Fresh (s.continueCommand ret)) ∧
    ∀ operation, Fresh (s.sendCommand operation) := by
  refine ⟨?_, fun ret => ?_, fun operation => ?_⟩
  · unfold cancelAutoFocus
    split_ifs
    · exact h
    · split <;> exact h.congr rfl rfl rfl
  · unfold continueCommand
    split
    · exact h
    · split_ifs <;> exact h.congr rfl rfl rfl
    · exact h.stopAutoFocus.congr rfl rfl rfl
    · exact (h.settle _).congr rfl rfl rfl
  · unfold sendCommand
    split_ifs
    · exact h
    · split <;> exact h.congr rfl rfl rfl

/-- A new activation, while no thread has one pending and none holds `mLock`. -/
lemma performAutoFocus (h : Fresh s) (hwf : WellFormed s) (hc : s.Careful .performAutoFocus) :
    Fresh s.performAutoFocus := by
  unfold AutoFocus.performAutoFocus
  split_ifs with hlock
  · exact h
  · have hnone := lock_eq_none hlock
    split
    · rename_i next hset
      have hpending := hc hnone (by rw [hset]; rfl)
      refine ⟨fun t => ?_, h.honest⟩
      have hreports := h.reports t
      cases hstage : s.stage t with
      | stopping r e =>
        have hfree := hwf.free_of_ne (t := t) (by simp [hnone])
        rw [hstage] at hfree
        exact absurd hfree (by simp [holding])
      | stopped r e ret =>
        have hfree := hwf.free_of_ne (t := t) (by simp [hnone])
        rw [hstage] at hfree
        exact absurd hfree (by simp [holding])
      | notifying r e n =>
        have hempty := hpending t
        rw [hstage] at hempty
        exact absurd hempty (by simp)
      | _ => simp only [AutoFocus.proceed, AutoFocus.activate, AutoFocus.setState, hstage, Reports]
    · exact h.congr rfl rfl rfl

/-- The thread of `AFHandler` up to the return of a status, and the handler of filled buffers up
to it. -/
lemma search (h : Fresh s) : Fresh s.get ∧ (∀ mComponentState semCount Focus,
    Fresh (s.doAutoFocus mComponentState semCount Focus)) ∧ Fresh s.wait ∧ Fresh s.timeout ∧
    (∀ Focus, Fresh (s.checkFocusStatus Focus)) ∧ ∀ eFocusStatus, Fresh (s.poll eFocusStatus) := by
  have hstart : ∀ Focus, Fresh (s.startWait Focus) := fun Focus => by
    unfold startWait callReturn
    split_ifs <;> exact h.goto trivial
  refine ⟨?_, fun mComponentState semCount Focus => ?_, ?_, ?_, fun Focus => ?_, fun status => ?_⟩
  · unfold AutoFocus.get
    split
    · split_ifs
      · exact h
      · have hgoto : Fresh (s.goto .af .entered) := h.goto trivial
        exact hgoto.congr rfl rfl rfl
    · exact h
  · unfold AutoFocus.doAutoFocus callReturn
    split
    · split_ifs
      all_goals first
        | exact h
        | exact hstart Focus
        | exact h.goto trivial
    · split_ifs
      · exact h
      · exact hstart Focus
      · exact h.goto trivial
    · exact h
  · unfold AutoFocus.wait
    split
    · have hgoto : Fresh (s.goto .af (.waiting s.count)) := h.goto trivial
      exact hgoto.congr rfl rfl rfl
    · exact h
  · unfold AutoFocus.timeout callReturn
    split
    · exact h.goto trivial
    · exact h
  · unfold AutoFocus.checkFocusStatus
    split
    · split_ifs
      all_goals first
        | exact h
        | exact h.goto trivial
    · exact h
  · unfold AutoFocus.poll callReturn
    split
    · split_ifs
      · exact h.goto trivial
      · exact h.goto trivial
      · unfold broadcast
        have hclear : Fresh s.clearCheckAF := h.congr rfl rfl rfl
        refine Fresh.goto ?_ trivial
        split
        · exact hclear.goto trivial
        · exact hclear
    · exact h

/-- `notifyFocusSubscribers` reports the activation that was ended, which is the last one begun. -/
lemma notifyFocusSubscribers (h : Fresh s) {r : FocusReport} {e : ℕ} {n : NotifyStage}
    (hstage : s.stage t = .notifying r e n) (ret : Status) (subscribed : Bool) :
    Fresh (s.notifyFocusSubscribers t ret subscribed r e n) := by
  have hreports := h.reports t
  rw [hstage] at hreports
  have hcount : s.stopAutoFocus.count = s.count := by
    unfold AutoFocus.stopAutoFocus broadcast
    split_ifs
    · split <;> rfl
    · rfl
  cases n with
  | reading =>
    simp only [AutoFocus.notifyFocusSubscribers]
    split_ifs
    · exact h
    · exact h.goto hreports
    · exact h.goto hreports
  | cancelling =>
    simp only [AutoFocus.notifyFocusSubscribers]
    split_ifs
    · exact h
    · split
      · exact (h.setState _ _).goto hreports
      · exact h.rollbackState.goto hreports
  | stopping => exact h.stopAutoFocus.goto (by rw [hcount]; exact hreports)
  | stopped ret =>
    refine (h.settle ret).goto ?_
    unfold AutoFocus.settle
    split_ifs <;> exact hreports
  | delivering =>
    simp only [AutoFocus.notifyFocusSubscribers]
    split_ifs
    · have hdeliver : Fresh (s.deliver r e) := by
        refine ⟨h.reports, fun m hm => ?_⟩
        rcases List.mem_append.mp hm with hm | hm
        · exact h.honest m hm
        · rw [List.mem_singleton.mp hm]
          exact fun j hj => ⟨hreports.2 j hj, hreports.1⟩
      exact hdeliver.goto trivial
    · exact h.goto trivial

/-- A careful `returnFocusStatus` ends the activation that its status is of. -/
lemma returnFocusStatus (h : Fresh s) (hwf : WellFormed s) {ret : Status} {subscribed : Bool}
    (hc : s.Careful (.returnFocusStatus t ret subscribed)) :
    Fresh (s.returnFocusStatus t ret subscribed) := by
  have hreports := h.reports t
  unfold AutoFocus.returnFocusStatus
  cases hstage : s.stage t with
  | idle | entered | reentered | armed | waiting source | polling => exact h
  | returning r =>
    dsimp only
    split_ifs <;> exact h.goto trivial
  | rereading r =>
    dsimp only
    split_ifs <;> exact h.goto trivial
  | ending r =>
    dsimp only
    split_ifs with hlock
    · exact h
    · split
      · rename_i next hset
        refine (h.setState _ _).goto ?_
        exact hc r hstage (lock_eq_none hlock) (by rw [hset]; rfl)
      · exact h.rollbackState.goto trivial
  | stopping r e =>
    rw [hstage] at hreports
    exact h.stopAutoFocus.goto hreports
  | stopped r e ret' =>
    rw [hstage] at hreports
    have hended := ((hwf.stages t).ending r e (Or.inr ⟨ret', hstage⟩)).1
    dsimp only
    split_ifs
    · exact h.commitState.goto ⟨hended, hreports⟩
    · exact h.rollbackState.goto trivial
  | notifying r e n => exact h.notifyFocusSubscribers hstage ret subscribed

/-- **A careful step keeps the invariant of careful runs.** -/
theorem step (h : Fresh s) (hwf : WellFormed s) {a : Action} (hc : s.Careful a) :
    Fresh (s.step a) := by
  cases a with
  | performAutoFocus => exact h.performAutoFocus hwf hc
  | cancelAutoFocus => exact h.command.1
  | continueCommand ret => exact h.command.2.1 ret
  | sendCommand operation => exact h.command.2.2 operation
  | get => exact h.search.1
  | doAutoFocus mComponentState semCount Focus =>
    exact h.search.2.1 mComponentState semCount Focus
  | wait => exact h.search.2.2.1
  | timeout => exact h.search.2.2.2.1
  | checkFocusStatus Focus => exact h.search.2.2.2.2.1 Focus
  | poll eFocusStatus => exact h.search.2.2.2.2.2 eFocusStatus
  | returnFocusStatus t ret subscribed => exact h.returnFocusStatus hwf hc

end Fresh

/-- **Every activation is notified at most once, and honestly in careful runs.** In every run from
before the first activation no activation is notified twice. If `setState` accepts new activations
only while no thread has ended one without having notified it, and `returnFocusStatus` ends an
activation only if none has begun since its status was polled or its wait began, then every status
that was polled or timed out is of the activation that was ended for it, which is the last one begun
when it is reported.

**Proof sketch.** `setState` accepts the end of an activation only while it is active, and an
active one has not been ended; this invariant of all runs gives the first part. The lock keeps new
activations out between `setState` and `commitState`, and the first condition until the
notification, so the activation that a careful step ends is still the last one when it is
reported. -/
theorem always_notifiedOnce_honest {s : AutoFocus} (h : Ready s) (run : List Action) :
    StepRun.Always step NotifiedOnce s run ∧
      (StepRun.Along step Careful s run → StepRun.Always step Honest s run) := by
  constructor
  · have halways : StepRun.Always step WellFormed s run :=
      StepRun.always_of_along (fun _ a hs _ => hs.step a) h.wellFormed
        (StepRun.along_of_forall (C := fun _ _ => True) (fun _ _ => trivial) s run)
    exact halways.imp fun _ hs => hs.notifiedOnce
  · intro hcareful
    have halways : StepRun.Always step (fun s => WellFormed s ∧ Fresh s) s run :=
      StepRun.always_of_along (fun _ a hs hc => ⟨hs.1.step a, hs.2.step hs.1 hc⟩)
        ⟨h.wellFormed, h.fresh⟩ hcareful
    exact halways.imp fun _ hs => hs.2.honest

/-- A preview without autofocus. -/
def previewing : AutoFocus where
  supported := true
  mAdapterState := PREVIEW_STATE
  mNextState := PREVIEW_STATE
  mLock := none
  mCheckAF := false
  messages := 0
  command := .idle
  stage := fun _ => .idle
  count := 0
  notified := []

/-- The preview is ready. -/
lemma ready_previewing : Ready previewing :=
  ⟨by decide, rfl, rfl, rfl, fun _ => rfl, rfl⟩

/-- The application starts the autofocus. -/
def performRun : List Action :=
  [.performAutoFocus, .continueCommand NO_ERROR, .continueCommand NO_ERROR]

/-- The application cancels the autofocus. -/
def cancelRun : List Action :=
  [.cancelAutoFocus, .continueCommand NO_ERROR, .continueCommand NO_ERROR]

/-- `doAutoFocus` waits for the status. -/
def waitRun : List Action :=
  [.get, .doAutoFocus .OMX_StateExecuting 0 .OMX_IMAGE_FocusControlAuto, .wait]

/-- A thread returns its status. -/
def returnRun (t : FocusThread) : List Action :=
  List.replicate 6 (.returnFocusStatus t NO_ERROR true)

/-- A frame polls the status, and returns it. -/
def pollRun : List Action :=
  [.checkFocusStatus .OMX_IMAGE_FocusControlAuto, .poll (some .OMX_FocusStatusReached)] ++
    returnRun .frame

/-- A frame finds the focus reached, and the application is notified. -/
theorem always_honest_reached :
    StepRun.Always step NotifiedOnce previewing (performRun ++ waitRun ++ pollRun) ∧
      StepRun.Always step Honest previewing (performRun ++ waitRun ++ pollRun) := by
  obtain ⟨honce, hhonest⟩ :=
    always_notifiedOnce_honest ready_previewing (performRun ++ waitRun ++ pollRun)
  refine ⟨honce, hhonest ?_⟩
  -- `returnFocusStatus` is about to end the activation in the second of its steps only
  have hskip : ∀ {s : AutoFocus} {ret : Status} {subscribed : Bool},
      (match s.stage .frame with | .ending _ => false | _ => true) = true →
        s.Careful (.returnFocusStatus .frame ret subscribed) := by
    intro s ret subscribed hs r hstage
    rw [hstage] at hs
    exact absurd hs (by simp)
  refine ⟨fun _ _ _ => rfl, trivial, trivial, trivial, trivial, trivial, trivial, trivial,
    hskip (by decide +kernel), fun r hstage _ _ j hj => ?_, hskip (by decide +kernel),
    hskip (by decide +kernel), hskip (by decide +kernel), hskip (by decide +kernel), trivial⟩
  cases hstage
  cases hj
  rfl

/-- The wait times out, and before the thread goes on, the application cancels the autofocus and
starts it again: the second activation is reported to have failed. -/
theorem not_always_honest_timeout :
    ¬ ∀ (s : AutoFocus) (run : List Action), Ready s →
      StepRun.Always step NotifiedOnce s run ∧ StepRun.Always step Honest s run := by
  intro hall
  have hhonest := (hall previewing
    (performRun ++ waitRun ++ [.timeout] ++ cancelRun ++ performRun ++ returnRun .af)
    ready_previewing).2.last
  have hmem : (⟨⟨.FOCUS_STATUS_FAIL, some 1⟩, 2, 2⟩ : FocusNotification) ∈
      (StepRun.final step previewing
        (performRun ++ waitRun ++ [.timeout] ++ cancelRun ++ performRun ++
          returnRun .af)).notified := by decide +kernel
  exact absurd (hhonest _ hmem 1 rfl).1 (by decide)

end AutoFocus

end CameraHal
