import Gs702aHal.Camera.VceEvents

set_option relaxedAutoImplicit false
set_option autoImplicit false

/-!
# Fatal errors of the encoder component

The switches of the encoder's state run on the caller's thread, and `onEvent` on the component's.
Both write the state of the component. The statements of the switches are run here one at a time,
as the instructions of a stack of calls, and those of `onEvent` one at a time between them.

A wait that times out is the step of the caller's thread that finds no signal. What the observer
does with an error is not modelled; a run may end at any step.

## Main definitions

* `CameraHal.VceFatal.Routine.code` — the statements of the switches and of what they call.
* `CameraHal.VceFatal.Machine` — the encoder, the calls of the caller's thread and what is left of
  `onEvent`.
* `CameraHal.VceFatal.Machine.Final` — the component is in no state after a fatal error, and the
  switches that waited at the time have failed.
* `CameraHal.VceFatal.Machine.Spares` — the condition on a step.

## Main results

* `CameraHal.VceFatal.onEvent_reactions` — the steps of an event together are `onEvent`.
* `CameraHal.VceFatal.always_final_iff` — fatal errors are final, in a run and in each next step of
  the caller, exactly if the steps of the run satisfy the condition.
-/

namespace CameraHal.VceFatal

open Status EventVce

/-! ### The statements of the switches -/

/-- The functions of the encoder that the switches are made of. -/
inductive Routine
  | switchToExec
  | execToIdle
  | switchToLoaded
  | loadedToIdle
  | disablePort (port : ℕ)
  | freeOmxHandle
  | getOmxHandle
  deriving DecidableEq

/-- The four switches. -/
def Routine.isSwitch : Routine → Bool
  | .switchToExec | .execToIdle | .switchToLoaded | .loadedToIdle => true
  | .disablePort _ | .freeOmxHandle | .getOmxHandle => false

/-- The bodies of the tests of the state. -/
inductive Block
  /-- From Executing to Idle, in `execToIdle` and `switchToLoaded`. -/
  | executing
  /-- From Loaded to Idle, in `switchToExec`. -/
  | loaded
  /-- From Idle to Executing, in `switchToExec`. -/
  | idle
  /-- From Idle to Loaded, in `switchToLoaded`. -/
  | idleToLoaded

/-- The statements. The loops over buffers carry their counter. -/
inductive Instr
  /-- `if(mOmxHandle == NULL) goto EXIT`. -/
  | checkHandle
  /-- `if(mComponentState == state) return ret`. -/
  | returnIf (state : OMX_STATETYPE)
  /-- `if(mComponentState != state) return ret`. -/
  | returnUnless (state : OMX_STATETYPE)
  /-- The two tests of `disablePort`. -/
  | returnIfDisabled (port : ℕ)
  /-- `if(mComponentState == state)`. -/
  | ifState (state : OMX_STATETYPE) (block : Block)
  /-- A call of `disablePort`, from `disableAllPorts`. -/
  | disablePort (port : EventVce → ℕ)
  /-- `RegisterForEvent`. -/
  | register (w : Waiter)
  /-- `OMX_SendCommand`. -/
  | send
  /-- `OMX_FreeBuffer` for the `i`-th buffer and those after it. -/
  | freeBuffers (port i : ℕ)
  | clearInputBufferMap
  /-- `OMX_UseBuffer` for the `i`-th input buffer and those after it. -/
  | useInputBuffers (i : ℕ)
  | clearOutputBufferMap
  /-- `OMX_AllocateBuffer` for the `i`-th output buffer and those after it. -/
  | allocateOutputBuffers (i : ℕ)
  /-- `WaitTimeout`, with the registration that is removed when the time is up and the state that
  is written otherwise. -/
  | wait (w : Waiter) (removal : OmxEvent) (state : Option OMX_STATETYPE)
  /-- `mComponentState = state`. -/
  | setState (state : OMX_STATETYPE)
  /-- The flag of a port is cleared. -/
  | clearEnable (port : ℕ)
  /-- The flags of both ports are set. -/
  | setEnable
  /-- The semaphore is created anew. -/
  | resetSem (sem : VceSem)
  /-- `RemoveEvent`. -/
  | removeEvent (e : OmxEvent)
  /-- `goto EXIT`. -/
  | gotoExit (ret : Status)
  /-- `freeOmxHandle`, which has no `EXIT` and whose result is not used. -/
  | freeOmxHandle
  /-- `OMX_FreeHandle`, and `mOmxHandle = NULL`. -/
  | releaseHandle

/-- A change of the state: register, send, wait. -/
def changeTo (state : OMX_STATETYPE) (sem : VceSem) (removal : OmxEvent) : List Instr :=
  [.register (stateWaiter state sem), .send, .wait (stateWaiter state sem) removal (some state)]

/-- `disableAllPorts`. -/
def disableAllPorts : List Instr :=
  [.disablePort EventVce.mInputPortIndex, .disablePort EventVce.mOutputPortIndex]

/-- The statements of a block. -/
def Block.code : Block → List Instr
  | .executing => changeTo .OMX_StateIdle .mSwitchToIdleSem (stateSet .OMX_StateIdle)
  | .loaded =>
    disableAllPorts ++ changeTo .OMX_StateIdle .mSwitchToIdleSem (stateSet .OMX_StateIdle)
  | .idle => changeTo .OMX_StateExecuting .mSwitchToExecSem
      (.complete OMX_STATETYPE.OMX_StateExecuting.value OMX_STATETYPE.OMX_StateIdle.value)
  | .idleToLoaded =>
    disableAllPorts ++ changeTo .OMX_StateLoaded .mSwitchToLoadedSem (stateSet .OMX_StateLoaded) ++
      [.send, .send, .setEnable]

/-- The statements of a function up to its `EXIT`. Of `getOmxHandle` this is what follows
`OMX_GetHandle`. -/
def Routine.code : Routine → List Instr
  | .switchToExec =>
    [.checkHandle, .returnIf .OMX_StateExecuting, .ifState .OMX_StateLoaded .loaded,
      .ifState .OMX_StateIdle .idle]
  | .execToIdle => [.checkHandle, .ifState .OMX_StateExecuting .executing]
  | .switchToLoaded =>
    [.checkHandle, .ifState .OMX_StateExecuting .executing, .ifState .OMX_StateIdle .idleToLoaded]
  | .loadedToIdle =>
    [.returnUnless .OMX_StateLoaded,
      .register (stateWaiter .OMX_StateIdle .mSwitchToIdleSem), .send,
      .clearInputBufferMap, .useInputBuffers 0, .clearOutputBufferMap, .allocateOutputBuffers 0,
      .wait (stateWaiter .OMX_StateIdle .mSwitchToIdleSem) (stateSet .OMX_StateIdle)
        (some .OMX_StateIdle)]
  | .disablePort port =>
    [.returnIfDisabled port, .register (portWaiter port), .send, .freeBuffers port 0,
      .wait (portWaiter port) (.complete OMX_CommandPortDisable port) none, .clearEnable port]
  | .freeOmxHandle => [.freeOmxHandle]
  | .getOmxHandle => [.setState .OMX_StateLoaded]

/-- The statements at the `EXIT` of a function. -/
def Routine.exit : Routine → List Instr
  | .switchToExec | .execToIdle | .switchToLoaded => [.freeOmxHandle]
  | .loadedToIdle | .disablePort _ | .freeOmxHandle | .getOmxHandle => []

/-! ### Steps -/

/-- What the step of a statement meets: the end of `RegisterForEvent`, the answer to an OMX call,
and the header or handle and the buffer that come with it. -/
structure Answer where
  registered : Registration
  error : OMX_ERRORTYPE
  header : Ptr
  buffer : Ptr

/-- What comes after a statement: more statements of the function, its `EXIT`, or a call and the
statements after it. -/
inductive Next
  | go (code : List Instr)
  | exit (ret : Status)
  | call (f : Routine) (rest : List Instr)

/-- `OMXVCE_GOTO_EXIT_IF` with the answer to an OMX call. -/
def Next.checked (b : Answer) (code : List Instr) : Next :=
  if b.error = .OMX_ErrorNone then .go code else .exit (omxToAndroidError b.error)

/-- A statement, before the rest of its function. -/
def Instr.exec (b : Answer) (rest : List Instr) (s : EventVce) : Instr → EventVce × Next
  | .checkHandle => (s, if s.mOmxHandle = none then .exit NO_ERROR else .go rest)
  | .returnIf state => (s, .go (if s.mComponentState = state.value then [] else rest))
  | .returnUnless state => (s, .go (if s.mComponentState = state.value then rest else []))
  | .returnIfDisabled port =>
    (s, .go (if port = s.mInputPortIndex ∧ s.mInputPortEnable = false then []
      else if port = s.mOutputPortIndex ∧ s.mOutputPortEnable = false then [] else rest))
  | .ifState state block =>
    (s, .go (if s.mComponentState = state.value then block.code ++ rest else rest))
  | .disablePort port => (s, .call (.disablePort (port s)) rest)
  | .register w =>
    match b.registered with
    | .added => (s.sync (·.add w), .go rest)
    | .noMemory => (s, .exit NO_MEMORY)
    | .noMessage => (s, .go rest)
  | .send => (s, .checked b rest)
  | .freeBuffers port i =>
    (s, if i < (s.headers port).length then .checked b (.freeBuffers port (i + 1) :: rest)
      else .go rest)
  | .clearInputBufferMap => ({ s with mInputBufferMap := ∅ }, .go rest)
  | .useInputBuffers i =>
    match s.mInputBuffers[i]? with
    | none => (s, .go rest)
    | some handle =>
      (if b.error = .OMX_ErrorNone then
          { s with mInputBufferMap := s.mInputBufferMap.add handle b.header }
        else s, .checked b (.useInputBuffers (i + 1) :: rest))
  | .clearOutputBufferMap => ({ s with mOutputBufferMap := ∅ }, .go rest)
  | .allocateOutputBuffers i =>
    if i < s.mOutputBufferCount then
      -- the map is extended before the answer is looked at
      ({ s with mOutputBufferMap := s.mOutputBufferMap.add b.buffer b.header },
        .checked b (.allocateOutputBuffers (i + 1) :: rest))
    else (s, .go rest)
  | .wait w removal state =>
    match s.mEventSyncList.signalled w.arg3 with
    | e :: signals =>
      ({ s with
          mEventSyncList := { s.mEventSyncList with
            signalled := Function.update s.mEventSyncList.signalled w.arg3 signals }
          waits := s.waits ++ [⟨w.arg1, w.arg2, e⟩] },
        .go (match state with
          | some state => .setState state :: rest
          | none => rest))
    | [] => (s, .go (.resetSem w.arg3 :: .removeEvent removal :: .gotoExit (-1#32) :: rest))
  | .setState state => (s.setComponentState state, .go rest)
  | .clearEnable port => (s.clearEnable port, .go rest)
  | .setEnable => (s.setEnable, .go rest)
  | .resetSem sem => (s.sync (·.reset sem), .go rest)
  | .removeEvent e => (s.sync (·.RemoveEvent e), .go rest)
  | .gotoExit ret => (s, .exit ret)
  | .freeOmxHandle =>
    if s.mOmxHandle = none then (s, .go (.setState .OMX_StateInvalid :: rest))
    else (s, .call .switchToLoaded (.releaseHandle :: .setState .OMX_StateInvalid :: rest))
  | .releaseHandle => ({ s with mOmxHandle := none }, .go rest)

/-- A call: the statements that are left, its status, and whether it waited when a fatal error was
treated. -/
structure Frame where
  f : Routine
  code : List Instr
  ret : Status
  struck : Bool

/-- A call begins. -/
def Frame.new (f : Routine) : Frame := ⟨f, f.code, NO_ERROR, false⟩

/-- The statements of `onEvent` after those for completed commands. -/
inductive Reaction
  /-- The state becomes Invalid. -/
  | invalid (e : OmxEvent)
  /-- `FlushEvent`. -/
  | flush (e : OmxEvent)
  /-- `onOmxVceError` of the observer. -/
  | report
  /-- `SignalEvent`. -/
  | signal (e : OmxEvent)
  deriving DecidableEq

/-- The encoder with its two threads. -/
structure Machine where
  vce : EventVce
  /-- The calls of the caller's thread, the innermost first. -/
  stack : List Frame
  /-- What is left of `onEvent` on the component's thread. -/
  reacting : List Reaction
  /-- A fatal error has been treated since the handle was obtained. -/
  dead : Bool
  /-- The results of the switches that waited when a fatal error was treated. -/
  ended : List Status

/-- The steps: a call, a statement of the caller's thread, an event and its first statements, and a
later statement of `onEvent`. -/
inductive Action
  | call (f : Routine) (b : Answer)
  | tick (b : Answer)
  | event (e : OmxEvent)
  | react

namespace Machine

/-- The next statement of the caller's thread. -/
def next (m : Machine) : Option Instr := m.stack.head?.bind (·.code.head?)

/-- The caller's thread waits. -/
def waiting (m : Machine) : Bool :=
  match m.next with
  | some (.wait _ _ _) => true
  | _ => false

/-- A call on the caller's thread, which has no other. `getOmxHandle` begins with
`OMX_GetHandle`. -/
def call (f : Routine) (b : Answer) (m : Machine) : Machine :=
  match f with
  | .getOmxHandle =>
    { m with
      vce := if b.error = .OMX_ErrorNone then { m.vce with mOmxHandle := some b.header } else m.vce
      dead := if b.error = .OMX_ErrorNone then false else m.dead
      stack := [⟨f, f.code, omxToAndroidError b.error, false⟩] }
  | f => { m with stack := [.new f] }

/-- A call ends. -/
def leave (fr : Frame) (frs : List Frame) (m : Machine) : Machine :=
  { m with
    stack := frs
    ended := if fr.struck && fr.f.isSwitch then m.ended ++ [fr.ret] else m.ended }

/-- What comes after a statement of the innermost call `fr`. -/
def proceed (fr : Frame) (frs : List Frame) (m : Machine) : EventVce × Next → Machine
  | (vce, .go code) => { m with vce := vce, stack := { fr with code := code } :: frs }
  | (vce, .exit ret) =>
    { m with vce := vce, stack := { fr with code := fr.f.exit, ret := ret } :: frs }
  | (vce, .call f rest) =>
    { m with vce := vce, stack := .new f :: { fr with code := rest } :: frs }

/-- A statement of the caller's thread. -/
def tick (b : Answer) (m : Machine) : Machine :=
  match m.stack with
  | [] => m
  | fr :: frs =>
    match fr.code with
    | [] => m.leave fr frs
    | i :: rest => m.proceed fr frs (i.exec b rest m.vce)

/-- What `onEvent` does after its statements for completed commands. -/
def reactions (s : EventVce) (e : OmxEvent) : List Reaction :=
  (if e.fatal ∧ s.mObserver ∧ s.mComponentState ≠ OMX_STATETYPE.OMX_StateInvalid.value then
    [.invalid e, .flush e, .report] else []) ++ [.signal e]

/-- A statement of `onEvent`. -/
def reactTo (m : Machine) : Reaction → Machine
  | .invalid _ =>
    { m with
      vce := m.vce.setComponentState .OMX_StateInvalid
      dead := true
      stack := if m.waiting then m.stack.map fun fr => { fr with struck := true } else m.stack }
  | .flush e => { m with vce := m.vce.sync (·.FlushEvent e) }
  | .report => m
  | .signal e => { m with vce := m.vce.sync (·.SignalEvent e) }

/-- The next statement of `onEvent`. -/
def react (m : Machine) : Machine :=
  match m.reacting with
  | [] => m
  | r :: reacting => { m with reacting := reacting }.reactTo r

/-- One step. Calls wait for the end of the call before, events for the end of `onEvent`. -/
def step (m : Machine) : Action → Machine
  | .call f b => if m.stack = [] then m.call f b else m
  | .tick b => m.tick b
  | .event e =>
    if m.reacting = [] then
      { m with vce := m.vce.onCmdComplete e, reacting := reactions (m.vce.onCmdComplete e) e }
    else m
  | .react => m.react

/-- The encoder before any call and any event. -/
def start (s : EventVce) : Machine := ⟨s, [], [], false, []⟩

end Machine

/-- **The steps of an event.** The statements of `onEvent`, one after the other, are `onEvent`.

**Proof sketch.** The state is written and the registrations are flushed exactly under the test of
`onEvent`, and every event is signalled at the end. -/
theorem onEvent_reactions {m : Machine} (h : m.reacting = []) (e : OmxEvent) :
    (StepRun.final Machine.step m
      (.event e :: List.replicate 4 .react)).vce = m.vce.onEvent e := by
  obtain ⟨vce, stack, reacting, dead, ended⟩ := m
  obtain rfl : reacting = [] := h
  simp only [StepRun.final_cons, Machine.step, if_true, List.replicate_succ, List.replicate_zero,
    StepRun.final_nil, Machine.reactions, onEvent, onError]
  split_ifs with hfatal
  · rfl
  · rfl

/-! ### The law -/

/-- The states that a switch gives. -/
def live (state : OMX_STATETYPE) : Prop :=
  state = .OMX_StateLoaded ∨ state = .OMX_StateIdle ∨ state = .OMX_StateExecuting

/-- The states that a switch gives are not the state 0. -/
lemma value_ne_of_live {state : OMX_STATETYPE} (h : live state) :
    state.value ≠ OMX_STATETYPE.OMX_StateInvalid.value := by
  rcases h with rfl | rfl | rfl
  all_goals decide

/-- The statement writes a state other than Invalid. -/
def Instr.Writes (i : Instr) : Prop := ∃ state, i = .setState state ∧ live state

namespace Machine

/-- A fatal error is final: until there is a new handle the component is neither Loaded nor Idle
nor Executing, and the switches that waited at the time of an error have failed. -/
def Final (m : Machine) : Prop :=
  (m.dead → ∀ state, live state → m.vce.mComponentState ≠ state.value) ∧
    ∀ ret ∈ m.ended, ret ≠ NO_ERROR

/-- The assumption on a step: the dead component sends no completion. -/
def Silent (m : Machine) : Action → Prop
  | .event e => m.reacting = [] → m.dead → e.eEvent ≠ OMX_EventCmdComplete
  | _ => True

/-- The condition on a step: a fatal error is not treated while the caller is about to write a
state; a wait for a state that ends after a fatal error finds no signal; and the handle is not
refused after one. -/
def Spares (m : Machine) : Action → Prop
  | .call f b => f = .getOmxHandle → m.dead → m.stack = [] → b.error = .OMX_ErrorNone
  | .tick _ => ∀ w removal state, m.next = some (.wait w removal (some state)) → m.dead →
      m.vce.mEventSyncList.signalled w.arg3 = []
  | .event _ => True
  | .react => ∀ e, m.reacting.head? = some (.invalid e) → ∀ i, m.next = some i → ¬ i.Writes

end Machine

/-! ### Statements that lead to a failure -/

/-- The statement leaves for the `EXIT` with an error, or waits for a state. -/
def Instr.Fails : Instr → Prop
  | .gotoExit ret => ret ≠ NO_ERROR
  | .wait _ _ (some _) => True
  | _ => False

/-- The statement goes on or leaves for the `EXIT` with an error. -/
def Instr.Passes : Instr → Prop
  | .disablePort _ | .register _ | .send | .resetSem _ | .removeEvent _ => True
  | _ => False

/-- The statement is one of those of `freeOmxHandle`. -/
def Instr.Frees : Instr → Prop
  | .freeOmxHandle | .releaseHandle => True
  | .setState state => state = .OMX_StateInvalid
  | _ => False

/-- The statements lead to a wait for a state, unless they fail before. -/
def Owes : List Instr → Prop
  | [] => False
  | i :: rest => i.Fails ∨ (i.Passes ∧ Owes rest)

/-- A statement at its place, before the given rest of its function. -/
def Instr.Fits (switch : Bool) (rest : List Instr) : Instr → Prop
  | .wait _ _ (some state) => live state
  | .wait _ _ none => switch = false
  | .disablePort _ => switch = true → Owes rest
  | .gotoExit ret => ret ≠ NO_ERROR
  | .setState state => state = .OMX_StateInvalid ∨ live state
  | .freeOmxHandle => rest = []
  | _ => True

/-- Statements that are all at their places. -/
def Shape (switch : Bool) : List Instr → Prop
  | [] => True
  | i :: rest => i.Fits switch rest ∧ Shape switch rest

/-- A block is at its place before any statements. -/
lemma shape_block {switch : Bool} {rest : List Instr} (h : Shape switch rest) (block : Block) :
    Shape switch (block.code ++ rest) := by
  cases block with
  | executing => simpa [Block.code, changeTo, Shape, Instr.Fits, live] using h
  | loaded =>
    simpa [Block.code, disableAllPorts, changeTo, Shape, Instr.Fits, live, Owes, Instr.Fails,
      Instr.Passes] using h
  | idle => simpa [Block.code, changeTo, Shape, Instr.Fits, live] using h
  | idleToLoaded =>
    simpa [Block.code, disableAllPorts, changeTo, Shape, Instr.Fits, live, Owes, Instr.Fails,
      Instr.Passes] using h

/-- The statements of a function are at their places. -/
lemma Routine.shape_code (f : Routine) : Shape f.isSwitch f.code := by
  cases f with
  | switchToExec => simp [Routine.code, Routine.isSwitch, Shape, Instr.Fits]
  | execToIdle => simp [Routine.code, Routine.isSwitch, Shape, Instr.Fits]
  | switchToLoaded => simp [Routine.code, Routine.isSwitch, Shape, Instr.Fits]
  | loadedToIdle => simp [Routine.code, Routine.isSwitch, Shape, Instr.Fits, live]
  | disablePort port => simp [Routine.code, Routine.isSwitch, Shape, Instr.Fits]
  | freeOmxHandle => simp [Routine.code, Routine.isSwitch, Shape, Instr.Fits]
  | getOmxHandle => simp [Routine.code, Routine.isSwitch, Shape, Instr.Fits, live]

/-- So are those at its `EXIT`. -/
lemma Routine.shape_exit (f : Routine) : Shape f.isSwitch f.exit := by
  cases f <;> simp [Routine.exit, Shape, Instr.Fits]

/-- Statements none of which writes a state. -/
def Quiet (code : List Instr) : Prop := ∀ i ∈ code, ¬ i.Writes

/-- No block writes a state. -/
lemma quiet_block (block : Block) : Quiet block.code := by
  cases block <;>
    simp [Quiet, Block.code, disableAllPorts, changeTo, Instr.Writes]

/-- Only `getOmxHandle` begins with writing one. -/
lemma Routine.quiet_code {f : Routine} (h : f ≠ .getOmxHandle) : Quiet f.code := by
  cases f with
  | getOmxHandle => exact absurd rfl h
  | _ => simp [Quiet, Routine.code, Instr.Writes]

/-- No `EXIT` writes a state. -/
lemma Routine.quiet_exit (f : Routine) : Quiet f.exit := by
  cases f <;> simp [Quiet, Routine.exit, Instr.Writes]

namespace Frame

/-- A call of a switch that will fail: it has failed and is at its `EXIT`, or it comes to a wait for
a state. -/
def Failing (fr : Frame) : Prop :=
  fr.f.isSwitch → (fr.ret ≠ NO_ERROR ∧ ∀ i ∈ fr.code, i.Frees) ∨ Owes fr.code

/-- A call that will fail begins with a statement that fails, passes or frees. -/
lemma Failing.head {fr : Frame} {i : Instr} {rest : List Instr} (h : fr.Failing)
    (hcode : fr.code = i :: rest) (hswitch : fr.f.isSwitch = true) :
    i.Frees ∨ i.Fails ∨ i.Passes := by
  have hfr := h hswitch
  rw [hcode] at hfr
  rcases hfr with ⟨-, hfrees⟩ | hfails | ⟨hpasses, -⟩
  · exact .inl (hfrees i List.mem_cons_self)
  · exact .inr (.inl hfails)
  · exact .inr (.inr hpasses)

/-- A call with its statements at their places, only the first of which may write a state; if it
gives up the handle it has failed, or there is none. -/
structure Sound (handle : Option Ptr) (fr : Frame) : Prop where
  shape : Shape fr.f.isSwitch fr.code
  tail : Quiet fr.code.tail
  exit : fr.f.isSwitch → .freeOmxHandle ∈ fr.code → fr.ret ≠ NO_ERROR ∨ handle = none

/-- It stays so if the handle is lost. -/
lemma Sound.of_handle {handle handle' : Option Ptr} {fr : Frame} (h : fr.Sound handle)
    (hhandle : handle' = handle ∨ handle' = none) : fr.Sound handle' :=
  ⟨h.shape, h.tail, fun hswitch hfree => by
    rcases hhandle with rfl | rfl
    · exact h.exit hswitch hfree
    · exact .inr rfl⟩

/-- A call that begins is sound. -/
lemma sound_new (handle : Option Ptr) (f : Routine) : (Frame.new f).Sound handle := by
  refine ⟨f.shape_code, ?_, ?_⟩
  · by_cases hf : f = .getOmxHandle
    · subst hf
      exact List.forall_mem_nil _
    · exact fun i hi => Routine.quiet_code hf i (List.mem_of_mem_tail hi)
  · cases f <;> simp [Frame.new, Routine.isSwitch, Routine.code]

end Frame

/-! ### The invariant -/

namespace Machine

/-- What the steps under the condition keep. -/
structure Inv (m : Machine) : Prop where
  /-- After a fatal error the state is Invalid. -/
  state : m.dead → m.vce.mComponentState = OMX_STATETYPE.OMX_StateInvalid.value
  sound : ∀ fr ∈ m.stack, fr.Sound m.vce.mOmxHandle
  /-- The calls that have made a call write no state, and those of switches will fail. -/
  callers : ∀ fr ∈ m.stack.tail, Quiet fr.code ∧ fr.Failing
  /-- After a fatal error the innermost call writes no state either. -/
  quiet : m.dead → ∀ i, m.next = some i → ¬ i.Writes
  /-- The switches that waited at the time of an error will fail. -/
  struck : ∀ fr ∈ m.stack, fr.struck → m.dead ∧ fr.Failing
  ended : ∀ ret ∈ m.ended, ret ≠ NO_ERROR

variable {m : Machine} {fr : Frame} {frs : List Frame}

/-- Under the invariant fatal errors are final. -/
lemma Inv.final (h : m.Inv) : m.Final := by
  refine ⟨fun hdead state hlive => ?_, h.ended⟩
  rw [h.state hdead]
  exact (value_ne_of_live hlive).symm

/-- The encoder starts so. -/
lemma inv_start (s : EventVce) : (start s).Inv :=
  ⟨nofun, List.forall_mem_nil _, List.forall_mem_nil _, nofun, List.forall_mem_nil _,
    List.forall_mem_nil _⟩

/-- Without a call there is nothing to do. -/
lemma tick_of_nil (b : Answer) (hm : m.stack = []) : m.tick b = m := by
  simp only [tick, hm]

/-- A call without statements ends. -/
lemma tick_of_end (b : Answer) (hm : m.stack = fr :: frs) (hcode : fr.code = []) :
    m.tick b = m.leave fr frs := by
  simp only [tick, hm, hcode]

/-- The first statement of the innermost call is run. -/
lemma tick_of_cons (b : Answer) (hm : m.stack = fr :: frs) {i : Instr} {rest : List Instr}
    (hcode : fr.code = i :: rest) : m.tick b = m.proceed fr frs (i.exec b rest m.vce) := by
  simp only [tick, hm, hcode]

/-- A statement leaves the state that it leaves, whatever comes after it. -/
lemma proceed_vce (fr : Frame) (frs : List Frame) (m : Machine) (r : EventVce × Next) :
    (m.proceed fr frs r).vce = r.1 := by
  obtain ⟨v, code | ret | ⟨f, code⟩⟩ := r
  all_goals rfl

/-- The next statement is the first of the innermost call. -/
lemma next_cons (h : m.stack = fr :: frs) : m.next = fr.code.head? := by
  simp [next, h]

/-- What the invariant says about the innermost call and about the others. -/
lemma Inv.uncons (h : m.Inv) (hm : m.stack = fr :: frs) :
    (fr.Sound m.vce.mOmxHandle ∧ ∀ fr' ∈ frs, fr'.Sound m.vce.mOmxHandle) ∧
      (∀ fr' ∈ frs, Quiet fr'.code ∧ fr'.Failing) ∧
      (fr.struck → m.dead ∧ fr.Failing) ∧ ∀ fr' ∈ frs, fr'.struck → m.dead ∧ fr'.Failing := by
  obtain ⟨-, hsound, hcallers, -, hstruck, -⟩ := h
  rw [hm, List.forall_mem_cons] at hsound hstruck
  rw [hm, List.tail_cons] at hcallers
  exact ⟨hsound, hcallers, hstruck⟩

/-- The innermost call goes on. -/
lemma Inv.go (h : m.Inv) (hm : m.stack = fr :: frs) {v : EventVce} {code : List Instr}
    (hstate : m.dead → v.mComponentState = OMX_STATETYPE.OMX_StateInvalid.value)
    (hhandle : v.mOmxHandle = m.vce.mOmxHandle ∨ v.mOmxHandle = none)
    (hshape : Shape fr.f.isSwitch code) (htail : Quiet code.tail)
    (hfree : .freeOmxHandle ∈ code → .freeOmxHandle ∈ fr.code)
    (hquiet : m.dead → ∀ i, code.head? = some i → ¬ i.Writes)
    (hfail : m.dead → fr.Failing → ({ fr with code := code } : Frame).Failing) :
    (m.proceed fr frs (v, .go code)).Inv := by
  obtain ⟨hsound, hcallers, hstruck⟩ := h.uncons hm
  constructor
  case state => exact hstate
  case sound =>
    refine List.forall_mem_cons.mpr ⟨⟨hshape, htail, fun hswitch hmem => ?_⟩, fun fr' hfr' =>
      (hsound.2 fr' hfr').of_handle hhandle⟩
    exact (hsound.1.of_handle hhandle).exit hswitch (hfree hmem)
  case callers => exact hcallers
  case quiet => exact hquiet
  case struck =>
    refine List.forall_mem_cons.mpr ⟨fun hfr => ?_, hstruck.2⟩
    obtain ⟨hdead, hfailing⟩ := hstruck.1 hfr
    exact ⟨hdead, hfail hdead hfailing⟩
  case ended => exact h.ended

/-- The innermost call goes on with the statements after the first. -/
lemma Inv.goRest (h : m.Inv) (hm : m.stack = fr :: frs) {i : Instr} {rest : List Instr}
    (hcode : fr.code = i :: rest) {v : EventVce}
    (hstate : v.mComponentState = m.vce.mComponentState)
    (hhandle : v.mOmxHandle = m.vce.mOmxHandle ∨ v.mOmxHandle = none) (hi : ¬ i.Fails) :
    (m.proceed fr frs (v, .go rest)).Inv := by
  have hsound := h.sound fr (by rw [hm]; exact List.mem_cons_self)
  have hshape := hsound.shape
  have htail := hsound.tail
  rw [hcode] at hshape htail
  refine h.go hm (fun hdead => hstate.trans (h.state hdead)) hhandle hshape.2
    (fun j hj => htail j (List.mem_of_mem_tail hj)) (fun hmem => ?_)
    (fun _ j hj => htail j (List.mem_of_mem_head? hj)) (fun _ hfailing hswitch => ?_)
  · rw [hcode]
    exact List.mem_cons_of_mem _ hmem
  · have hfr := hfailing hswitch
    rw [hcode] at hfr
    rcases hfr with ⟨hret, hfrees⟩ | hfails | ⟨-, howes⟩
    · exact .inl ⟨hret, fun j hj => hfrees j (List.mem_cons_of_mem _ hj)⟩
    · exact absurd hfails hi
    · exact .inr howes

/-- The innermost call leaves for its `EXIT`. -/
lemma Inv.exit (h : m.Inv) (hm : m.stack = fr :: frs) {v : EventVce} {ret : Status}
    (hstate : v.mComponentState = m.vce.mComponentState)
    (hhandle : v.mOmxHandle = m.vce.mOmxHandle)
    (hret : ret ≠ NO_ERROR ∨ (v.mOmxHandle = none ∧ (fr.Failing → fr.f.isSwitch = false))) :
    (m.proceed fr frs (v, .exit ret)).Inv := by
  obtain ⟨hsound, hcallers, hstruck⟩ := h.uncons hm
  constructor
  case state => exact fun hdead => hstate.trans (h.state hdead)
  case sound =>
    refine List.forall_mem_cons.mpr ⟨⟨fr.f.shape_exit, fun i hi => ?_, fun _ _ => ?_⟩,
      fun fr' hfr' => (hsound.2 fr' hfr').of_handle (.inl hhandle)⟩
    · exact fr.f.quiet_exit i (List.mem_of_mem_tail hi)
    · exact hret.imp_right And.left
  case callers => exact hcallers
  case quiet => exact fun _ i hi => fr.f.quiet_exit i (List.mem_of_mem_head? hi)
  case struck =>
    refine List.forall_mem_cons.mpr ⟨fun hfr => ?_, hstruck.2⟩
    obtain ⟨hdead, hfailing⟩ := hstruck.1 hfr
    refine ⟨hdead, fun hswitch => ?_⟩
    rcases hret with hret | ⟨-, hnot⟩
    · refine .inl ⟨hret, ?_⟩
      cases fr.f <;> simp [Routine.exit, Instr.Frees]
    · rw [hnot hfailing] at hswitch
      cases hswitch
  case ended => exact h.ended

/-- The innermost call makes a call. -/
lemma Inv.enter (h : m.Inv) (hm : m.stack = fr :: frs) {f : Routine} {code : List Instr}
    (hf : f ≠ .getOmxHandle) (hshape : Shape fr.f.isSwitch code) (hquiet : Quiet code)
    (hfree : .freeOmxHandle ∈ code → .freeOmxHandle ∈ fr.code)
    (hfail : ({ fr with code := code } : Frame).Failing) :
    (m.proceed fr frs (m.vce, .call f code)).Inv := by
  obtain ⟨hsound, hcallers, hstruck⟩ := h.uncons hm
  constructor
  case state => exact h.state
  case sound =>
    refine List.forall_mem_cons.mpr ⟨Frame.sound_new _ f, List.forall_mem_cons.mpr
      ⟨⟨hshape, fun i hi => hquiet i (List.mem_of_mem_tail hi), fun hswitch hmem => ?_⟩,
        hsound.2⟩⟩
    exact hsound.1.exit hswitch (hfree hmem)
  case callers => exact List.forall_mem_cons.mpr ⟨⟨hquiet, hfail⟩, hcallers⟩
  case quiet => exact fun _ i hi => Routine.quiet_code hf i (List.mem_of_mem_head? hi)
  case struck =>
    refine List.forall_mem_cons.mpr ⟨nofun, List.forall_mem_cons.mpr ⟨fun hfr => ?_, hstruck.2⟩⟩
    exact ⟨(hstruck.1 hfr).1, hfail⟩
  case ended => exact h.ended

/-- The innermost call goes on, or leaves for its `EXIT` after an error of the component. -/
lemma Inv.checked (h : m.Inv) (hm : m.stack = fr :: frs) {b : Answer} {v : EventVce}
    {code : List Instr} (hgo : (m.proceed fr frs (v, .go code)).Inv)
    (hstate : v.mComponentState = m.vce.mComponentState)
    (hhandle : v.mOmxHandle = m.vce.mOmxHandle) :
    (m.proceed fr frs (v, .checked b code)).Inv := by
  unfold Next.checked
  split_ifs with herror
  · exact hgo
  · exact h.exit hm hstate hhandle
      (.inl fun heq => herror ((omxToAndroidError_eq_NO_ERROR _).mp heq))

/-- The innermost call goes on with other statements than those after the first. -/
lemma Inv.goElse (h : m.Inv) (hm : m.stack = fr :: frs) {i : Instr} {rest code : List Instr}
    (hcode : fr.code = i :: rest) {v : EventVce}
    (hstate : v.mComponentState = m.vce.mComponentState)
    (hhandle : v.mOmxHandle = m.vce.mOmxHandle) (hshape : Shape fr.f.isSwitch code)
    (hquiet : Quiet code) (hfree : .freeOmxHandle ∈ code → .freeOmxHandle ∈ rest)
    (hi : ¬ (i.Frees ∨ i.Fails ∨ i.Passes)) :
    (m.proceed fr frs (v, .go code)).Inv := by
  refine h.go hm (fun hdead => hstate.trans (h.state hdead)) (.inl hhandle) hshape
    (fun j hj => hquiet j (List.mem_of_mem_tail hj)) (fun hmem => ?_)
    (fun _ j hj => hquiet j (List.mem_of_mem_head? hj))
    (fun _ hfailing hswitch => absurd (hfailing.head hcode hswitch) hi)
  rw [hcode]
  exact List.mem_cons_of_mem _ (hfree hmem)

/-- The first statement of the innermost call is at its place, and those after it write no state. -/
lemma Inv.placed (h : m.Inv) (hm : m.stack = fr :: frs) {i : Instr} {rest : List Instr}
    (hcode : fr.code = i :: rest) :
    i.Fits fr.f.isSwitch rest ∧ Shape fr.f.isSwitch rest ∧ Quiet rest := by
  have hsound := h.sound fr (by rw [hm]; exact List.mem_cons_self)
  have hshape := hsound.shape
  have htail := hsound.tail
  rw [hcode] at hshape htail
  exact ⟨hshape.1, hshape.2, htail⟩

/-- A call that will fail has failed already, if its first statement frees only. -/
lemma Inv.failed_of_frees {i : Instr} {rest : List Instr} (hcode : fr.code = i :: rest)
    (hi : ¬ i.Fails ∧ ¬ i.Passes) (hfailing : fr.Failing) (hswitch : fr.f.isSwitch = true) :
    fr.ret ≠ NO_ERROR ∧ ∀ j ∈ rest, j.Frees := by
  have hfr := hfailing hswitch
  rw [hcode] at hfr
  rcases hfr with ⟨hret, hfrees⟩ | hfails | ⟨hpasses, -⟩
  · exact ⟨hret, fun j hj => hfrees j (List.mem_cons_of_mem _ hj)⟩
  · exact absurd hfails hi.1
  · exact absurd hpasses hi.2

/-- A wait: it takes a signal and goes on to write the state, or goes on to fail. -/
lemma Inv.exec_wait (h : m.Inv) (hm : m.stack = fr :: frs) {w : Waiter} {removal : OmxEvent}
    {state : Option OMX_STATETYPE} {rest : List Instr}
    (hcode : fr.code = .wait w removal state :: rest) (b : Answer)
    (hspares : ∀ state', state = some state' → m.dead →
      m.vce.mEventSyncList.signalled w.arg3 = []) :
    (m.proceed fr frs ((Instr.wait w removal state).exec b rest m.vce)).Inv := by
  obtain ⟨hfits, hrest, hquiet⟩ := h.placed hm hcode
  simp only [Instr.exec]
  cases hsignals : m.vce.mEventSyncList.signalled w.arg3 with
  | nil =>
    have hfailed : (-1#32 : Status) ≠ NO_ERROR := by decide
    refine h.go hm h.state (.inl rfl) ⟨trivial, trivial, hfailed, hrest⟩ ?_ ?_ ?_ ?_
    · exact List.forall_mem_cons.mpr ⟨by simp [Instr.Writes],
        List.forall_mem_cons.mpr ⟨by simp [Instr.Writes], hquiet⟩⟩
    · intro hmem
      simpa [hcode] using hmem
    · simp [Instr.Writes]
    · exact fun _ _ _ => .inr (.inr ⟨trivial, .inr ⟨trivial, .inl hfailed⟩⟩)
  | cons e signals =>
    cases state with
    | none => exact h.goRest hm hcode rfl (.inl rfl) id
    | some state =>
      -- without a fatal error the state may be written
      have halive : ¬ m.dead := fun hdead => by
        rw [hspares state rfl hdead] at hsignals
        cases hsignals
      refine h.go hm (fun hdead => absurd hdead halive) (.inl rfl) ⟨.inr hfits, hrest⟩ hquiet ?_
        (fun hdead => absurd hdead halive) fun hdead => absurd hdead halive
      intro hmem
      simpa [hcode] using hmem

/-- The state is written. -/
lemma Inv.exec_setState (h : m.Inv) (hm : m.stack = fr :: frs) {state : OMX_STATETYPE}
    {rest : List Instr} (hcode : fr.code = .setState state :: rest) (b : Answer) :
    (m.proceed fr frs ((Instr.setState state).exec b rest m.vce)).Inv := by
  obtain ⟨hfits, hrest, hquiet⟩ := h.placed hm hcode
  refine h.go hm (fun hdead => ?_) (.inl rfl) hrest (fun j hj =>
    hquiet j (List.mem_of_mem_tail hj)) (fun hmem => ?_) (fun _ j hj =>
    hquiet j (List.mem_of_mem_head? hj)) (fun _ hfailing hswitch => ?_)
  · rcases hfits with rfl | hlive
    · rfl
    · exact absurd ⟨state, rfl, hlive⟩
        (h.quiet hdead _ ((next_cons hm).trans (by rw [hcode]; rfl)))
  · rw [hcode]
    exact List.mem_cons_of_mem _ hmem
  · obtain ⟨hret, hfrees⟩ := Inv.failed_of_frees hcode ⟨id, id⟩ hfailing hswitch
    exact .inl ⟨hret, hfrees⟩

/-- The handle is freed: without one the state is written, else the component is loaded first. -/
lemma Inv.exec_freeOmxHandle (h : m.Inv) (hm : m.stack = fr :: frs) {rest : List Instr}
    (hcode : fr.code = .freeOmxHandle :: rest) (b : Answer) :
    (m.proceed fr frs (Instr.freeOmxHandle.exec b rest m.vce)).Inv := by
  obtain ⟨hfits, -, -⟩ := h.placed hm hcode
  obtain rfl : rest = [] := hfits
  simp only [Instr.exec]
  split_ifs with hhandle
  · refine h.go hm h.state (.inl rfl) ⟨.inl rfl, trivial⟩ (List.forall_mem_nil _) ?_ ?_ ?_
    · simp
    · simp [Instr.Writes, live]
    · intro _ hfailing hswitch
      obtain ⟨hret, -⟩ := Inv.failed_of_frees hcode ⟨id, id⟩ hfailing hswitch
      exact .inl ⟨hret, by simp [Instr.Frees]⟩
  · refine h.enter hm nofun ⟨trivial, .inl rfl, trivial⟩ ?_ ?_ ?_
    · simp [Quiet, Instr.Writes, live]
    · simp
    · intro hswitch
      have hsound := h.sound fr (by rw [hm]; exact List.mem_cons_self)
      have hret := hsound.exit hswitch (by rw [hcode]; exact List.mem_cons_self)
      exact .inl ⟨hret.resolve_right hhandle, by simp [Instr.Frees]⟩

/-- **A statement of the caller's thread** keeps the invariant, if a wait for a state that ends
after a fatal error finds no signal.

**Proof sketch.** One case for each statement. Most go on or leave for the `EXIT` with an error. A
wait that finds a signal goes on to write the state, which the invariant allows as no fatal error
has been treated; one that finds none goes on to fail. A call is made by a function that owes a
wait, or by one that is at its `EXIT`. -/
lemma Inv.exec (h : m.Inv) (hm : m.stack = fr :: frs) {i : Instr} {rest : List Instr}
    (hcode : fr.code = i :: rest) (b : Answer)
    (hspares : ∀ w removal state, i = .wait w removal (some state) → m.dead →
      m.vce.mEventSyncList.signalled w.arg3 = []) :
    (m.proceed fr frs (i.exec b rest m.vce)).Inv := by
  obtain ⟨hfits, hrest, hquiet⟩ := h.placed hm hcode
  have hreturn : ¬ (i.Frees ∨ i.Fails ∨ i.Passes) → (m.proceed fr frs (m.vce, .go [])).Inv :=
    h.goElse hm hcode rfl rfl trivial (List.forall_mem_nil _) nofun
  have hgo : ¬ i.Fails → (m.proceed fr frs (m.vce, .go rest)).Inv :=
    h.goRest hm hcode rfl (.inl rfl)
  have hagain : ∀ (v : EventVce) (j : Instr), v.mComponentState = m.vce.mComponentState →
      v.mOmxHandle = m.vce.mOmxHandle → j.Fits fr.f.isSwitch rest → ¬ j.Writes →
      j ≠ .freeOmxHandle → ¬ (i.Frees ∨ i.Fails ∨ i.Passes) →
      (m.proceed fr frs (v, .go (j :: rest))).Inv := by
    intro v j hstate hhandle hj hwrites hfree hi
    refine h.goElse hm hcode hstate hhandle ⟨hj, hrest⟩
      (List.forall_mem_cons.mpr ⟨hwrites, hquiet⟩) (fun hmem => ?_) hi
    exact (List.mem_cons.mp hmem).resolve_left hfree.symm
  cases i with
  | checkHandle =>
    simp only [Instr.exec]
    split_ifs with hhandle
    · refine h.exit hm rfl rfl (.inr ⟨hhandle, fun hfailing => ?_⟩)
      rw [← Bool.not_eq_true]
      exact fun hswitch => (hfailing.head hcode hswitch).elim id (·.elim id id)
    · exact hgo id
  | returnIf state =>
    simp only [Instr.exec]
    split_ifs
    · exact hreturn (by simp [Instr.Frees, Instr.Fails, Instr.Passes])
    · exact hgo id
  | returnUnless state =>
    simp only [Instr.exec]
    split_ifs
    · exact hgo id
    · exact hreturn (by simp [Instr.Frees, Instr.Fails, Instr.Passes])
  | returnIfDisabled port =>
    simp only [Instr.exec]
    split_ifs
    · exact hreturn (by simp [Instr.Frees, Instr.Fails, Instr.Passes])
    · exact hreturn (by simp [Instr.Frees, Instr.Fails, Instr.Passes])
    · exact hgo id
  | ifState state block =>
    simp only [Instr.exec]
    split_ifs
    · refine h.goElse hm hcode rfl rfl (shape_block hrest block)
        (List.forall_mem_append.mpr ⟨quiet_block block, hquiet⟩) (fun hmem => ?_)
        (by simp [Instr.Frees, Instr.Fails, Instr.Passes])
      refine (List.mem_append.mp hmem).resolve_left ?_
      cases block <;> simp [Block.code, disableAllPorts, changeTo]
    · exact hgo id
  | disablePort port =>
    refine h.enter hm nofun hrest hquiet (fun hmem => ?_) fun hswitch => .inr (hfits hswitch)
    rw [hcode]
    exact List.mem_cons_of_mem _ hmem
  | register w =>
    simp only [Instr.exec]
    cases b.registered with
    | added => exact h.goRest hm hcode rfl (.inl rfl) id
    | noMemory => exact h.exit hm rfl rfl (.inl (by decide))
    | noMessage => exact hgo id
  | send => exact h.checked hm (hgo id) rfl rfl
  | freeBuffers port i =>
    simp only [Instr.exec]
    split_ifs
    · refine h.checked hm (hagain _ _ rfl rfl trivial ?_ nofun ?_) rfl rfl
      · simp [Instr.Writes]
      · simp [Instr.Frees, Instr.Fails, Instr.Passes]
    · exact hgo id
  | clearInputBufferMap => exact h.goRest hm hcode rfl (.inl rfl) id
  | useInputBuffers i =>
    simp only [Instr.exec]
    cases m.vce.mInputBuffers[i]? with
    | none => exact hgo id
    | some handle =>
      refine h.checked hm (hagain _ _ ?_ ?_ trivial ?_ nofun ?_) ?_ ?_
      case refine_3 => simp [Instr.Writes]
      case refine_4 => simp [Instr.Frees, Instr.Fails, Instr.Passes]
      all_goals split_ifs <;> rfl
  | clearOutputBufferMap => exact h.goRest hm hcode rfl (.inl rfl) id
  | allocateOutputBuffers i =>
    simp only [Instr.exec]
    split_ifs
    · refine h.checked hm (hagain _ _ rfl rfl trivial ?_ nofun ?_) rfl rfl
      · simp [Instr.Writes]
      · simp [Instr.Frees, Instr.Fails, Instr.Passes]
    · exact hgo id
  | wait w removal state =>
    exact h.exec_wait hm hcode b fun state' hstate' => hspares w removal state' (hstate' ▸ rfl)
  | setState state => exact h.exec_setState hm hcode b
  | clearEnable port =>
    refine h.goRest hm hcode ?_ (.inl ?_) id
    all_goals
      simp only [EventVce.clearEnable]
      split_ifs <;> rfl
  | setEnable => exact h.goRest hm hcode rfl (.inl rfl) id
  | resetSem sem => exact h.goRest hm hcode rfl (.inl rfl) id
  | removeEvent e => exact h.goRest hm hcode rfl (.inl rfl) id
  | gotoExit ret => exact h.exit hm rfl rfl (.inl hfits)
  | freeOmxHandle => exact h.exec_freeOmxHandle hm hcode b
  | releaseHandle => exact h.goRest hm hcode rfl (.inr rfl) id

/-- The end of a call keeps the invariant: a switch that waited at the time of an error has
failed. -/
lemma Inv.leave (h : m.Inv) (hm : m.stack = fr :: frs) (hcode : fr.code = []) :
    (m.leave fr frs).Inv := by
  obtain ⟨hsound, hcallers, hstruck⟩ := h.uncons hm
  constructor
  case state => exact h.state
  case sound => exact hsound.2
  case callers => exact fun fr' hfr' => hcallers fr' (List.mem_of_mem_tail hfr')
  case quiet =>
    intro _ i hi
    cases frs with
    | nil => cases hi
    | cons fr' frs' =>
      exact (hcallers fr' List.mem_cons_self).1 i (List.mem_of_mem_head? hi)
  case struck => exact hstruck.2
  case ended =>
    simp only [Machine.leave, Bool.and_eq_true]
    split_ifs with hfr
    · refine List.forall_mem_append.mpr ⟨h.ended, List.forall_mem_singleton.mpr ?_⟩
      rcases (hstruck.1 hfr.1).2 hfr.2 with ⟨hret, -⟩ | howes
      · exact hret
      · rw [hcode] at howes
        exact howes.elim
    · exact h.ended

/-- A step of the caller's thread keeps the invariant. -/
lemma Inv.tick (h : m.Inv) {b : Answer} (hspares : m.Spares (.tick b)) : (m.tick b).Inv := by
  cases hm : m.stack with
  | nil =>
    rw [tick_of_nil b hm]
    exact h
  | cons fr frs =>
    cases hcode : fr.code with
    | nil =>
      rw [tick_of_end b hm hcode]
      exact h.leave hm hcode
    | cons i rest =>
      rw [tick_of_cons b hm hcode]
      refine h.exec hm hcode b fun w removal state hi => hspares w removal state ?_
      rw [next_cons hm, hcode, hi]
      rfl

/-- A call keeps the invariant. -/
lemma Inv.call (h : m.Inv) (hm : m.stack = []) {f : Routine} {b : Answer}
    (hspares : m.Spares (.call f b)) : (m.call f b).Inv := by
  have hnew : f ≠ .getOmxHandle → ({ m with stack := [.new f] } : Machine).Inv := fun hf =>
    { state := h.state
      sound := List.forall_mem_singleton.mpr (Frame.sound_new _ f)
      callers := List.forall_mem_nil _
      quiet := fun _ i hi => Routine.quiet_code hf i (List.mem_of_mem_head? hi)
      struck := List.forall_mem_singleton.mpr nofun
      ended := h.ended }
  cases f with
  | getOmxHandle =>
    have hdead : ¬ (if b.error = .OMX_ErrorNone then false else m.dead) := by
      split_ifs with herror
      · exact id
      · exact fun hdead => herror (hspares rfl hdead hm)
    exact
      { state := fun hd => absurd hd hdead
        sound := List.forall_mem_singleton.mpr
          ⟨Routine.shape_code _, List.forall_mem_nil _, nofun⟩
        callers := List.forall_mem_nil _
        quiet := fun hd => absurd hd hdead
        struck := List.forall_mem_singleton.mpr nofun
        ended := h.ended }
  | switchToExec => exact hnew nofun
  | execToIdle => exact hnew nofun
  | switchToLoaded => exact hnew nofun
  | loadedToIdle => exact hnew nofun
  | disablePort port => exact hnew nofun
  | freeOmxHandle => exact hnew nofun

/-- The first statements of an event keep the invariant, if a dead component sends no
completion. -/
lemma Inv.event (h : m.Inv) {e : OmxEvent}
    (hsilent : m.dead → e.eEvent ≠ OMX_EventCmdComplete) :
    ({ m with
      vce := m.vce.onCmdComplete e
      reacting := reactions (m.vce.onCmdComplete e) e } : Machine).Inv := by
  have hhandle : (m.vce.onCmdComplete e).mOmxHandle = m.vce.mOmxHandle := by
    unfold EventVce.onCmdComplete
    split_ifs <;> rfl
  refine ⟨fun hdead => ?_, ?_, h.callers, h.quiet, h.struck, h.ended⟩
  · have hcomplete : m.vce.onCmdComplete e = m.vce := if_neg fun he => hsilent hdead he.1
    change (m.vce.onCmdComplete e).mComponentState = _
    rw [hcomplete]
    exact h.state hdead
  · exact fun fr hfr => (h.sound fr hfr).of_handle (.inl hhandle)

/-- **The treatment of a fatal error** keeps the invariant, if the caller is not about to write a
state.

**Proof sketch.** The state is Invalid now. If the caller waits, its calls are marked; those that
have made a call will fail by the invariant, and the innermost one waits for a state, or it is no
switch. -/
lemma Inv.invalid (h : m.Inv) (e : OmxEvent) (hspares : ∀ i, m.next = some i → ¬ i.Writes) :
    (m.reactTo (.invalid e)).Inv := by
  by_cases hwaiting : m.waiting = true
  · have hreact : m.reactTo (.invalid e) =
        { m with
          vce := m.vce.setComponentState .OMX_StateInvalid
          dead := true
          stack := m.stack.map fun fr => { fr with struck := true } } := by
      simp only [reactTo, hwaiting, if_true]
    rw [hreact]
    constructor
    case state => exact fun _ => rfl
    case sound =>
      refine List.forall_mem_map.mpr fun fr hfr => ?_
      exact ⟨(h.sound fr hfr).shape, (h.sound fr hfr).tail, (h.sound fr hfr).exit⟩
    case callers =>
      simp only [← List.map_tail]
      exact List.forall_mem_map.mpr h.callers
    case quiet =>
      intro _ i hi
      refine hspares i ?_
      simpa [next, Option.bind_map, Function.comp_def] using hi
    case struck =>
      refine List.forall_mem_map.mpr fun fr hfr _ => ⟨rfl, ?_⟩
      obtain ⟨fr', frs, hm⟩ := List.exists_cons_of_ne_nil (List.ne_nil_of_mem hfr)
      have hsound := h.sound fr hfr
      have hcallers := h.callers
      rw [hm] at hfr
      rw [hm, List.tail_cons] at hcallers
      rcases List.mem_cons.mp hfr with rfl | hfr
      · -- the innermost call waits
        intro hswitch
        simp only [waiting, next_cons hm] at hwaiting
        cases hcode : fr.code with
        | nil => simp [hcode] at hwaiting
        | cons i rest =>
          have hfits := hsound.shape
          rw [hcode] at hfits
          rw [hcode, List.head?_cons] at hwaiting
          cases i with
          | wait w removal state =>
            cases state with
            | none =>
              have hnot : fr.f.isSwitch = false := hfits.1
              rw [hnot] at hswitch
              cases hswitch
            | some state => exact .inr (.inl trivial)
          | _ => cases hwaiting
      · exact (hcallers fr hfr).2
    case ended => exact h.ended
  · have hreact : m.reactTo (.invalid e) =
        { m with vce := m.vce.setComponentState .OMX_StateInvalid, dead := true } := by
      simp only [reactTo, hwaiting, Bool.false_eq_true, if_false]
    rw [hreact]
    exact ⟨fun _ => rfl, h.sound, h.callers, fun _ => hspares,
      fun fr hfr hstruck => ⟨rfl, (h.struck fr hfr hstruck).2⟩, h.ended⟩

/-- A statement of `onEvent` keeps the invariant. -/
lemma Inv.react (h : m.Inv) (hspares : m.Spares .react) : m.react.Inv := by
  unfold Machine.react
  cases hreacting : m.reacting with
  | nil => exact h
  | cons r reacting =>
    have h' : ({ m with reacting := reacting } : Machine).Inv :=
      ⟨h.state, h.sound, h.callers, h.quiet, h.struck, h.ended⟩
    cases r with
    | invalid e => exact h'.invalid e (hspares e (by rw [hreacting]; rfl))
    | flush e => exact ⟨h.state, h.sound, h.callers, h.quiet, h.struck, h.ended⟩
    | report => exact h'
    | signal e => exact ⟨h.state, h.sound, h.callers, h.quiet, h.struck, h.ended⟩

/-- **The step lemma.** A step under the assumption and the condition keeps the invariant. -/
lemma Inv.step (h : m.Inv) {a : Action} (hsilent : m.Silent a) (hspares : m.Spares a) :
    (m.step a).Inv := by
  cases a with
  | call f b =>
    simp only [Machine.step]
    split_ifs with hm
    · exact h.call hm hspares
    · exact h
  | tick b => exact h.tick hspares
  | event e =>
    simp only [Machine.step]
    split_ifs with hreacting
    · exact h.event (hsilent hreacting)
    · exact h
  | react => exact h.react hspares

/-! ### Steps outside the condition -/

/-- Before a fatal error each statement satisfies the condition. -/
lemma spares_of_alive {b : Answer} (h : m.dead = false) : m.Spares (.tick b) :=
  fun _ _ _ _ hdead => absurd hdead (by rw [h]; exact Bool.false_ne_true)

/-- So does each one that does not wait. -/
lemma spares_of_not_waiting {b : Answer} (h : m.waiting = false) : m.Spares (.tick b) := by
  intro w removal state hnext
  simp only [waiting, hnext] at h
  cases h

/-- The next statement belongs to a call. -/
lemma exists_of_next {i : Instr} (h : m.next = some i) :
    ∃ fr frs rest, m.stack = fr :: frs ∧ fr.code = i :: rest := by
  obtain ⟨fr, hfr, hi⟩ := Option.bind_eq_some_iff.mp h
  obtain ⟨frs, hm⟩ := List.head?_eq_some_iff.mp hfr
  obtain ⟨rest, hcode⟩ := List.head?_eq_some_iff.mp hi
  exact ⟨fr, frs, rest, hm, hcode⟩

/-- If the caller is about to write a state after a fatal error, the error is not final. -/
lemma not_final_of_writes {i : Instr} (hnext : m.next = some i) (hi : i.Writes)
    (hdead : m.dead = true) (b : Answer) : ¬ (m.tick b).Final := by
  obtain ⟨fr, frs, rest, hm, hcode⟩ := exists_of_next hnext
  obtain ⟨state, rfl, hlive⟩ := hi
  rw [tick_of_cons b hm hcode]
  exact fun hfinal => hfinal.1 hdead state hlive rfl

/-- A wait for a state that finds a signal leaves the caller about to write that state. -/
lemma tick_of_signal (b : Answer) {w : Waiter} {removal : OmxEvent} {state : OMX_STATETYPE}
    (hnext : m.next = some (.wait w removal (some state)))
    (hsignal : m.vce.mEventSyncList.signalled w.arg3 ≠ []) :
    (m.tick b).next = some (.setState state) ∧ (m.tick b).dead = m.dead ∧
      (m.tick b).ended = m.ended ∧
      (m.tick b).vce.mComponentState = m.vce.mComponentState := by
  obtain ⟨fr, frs, rest, hm, hcode⟩ := exists_of_next hnext
  obtain ⟨e, signals, hsignals⟩ := List.exists_cons_of_ne_nil hsignal
  rw [tick_of_cons b hm hcode]
  simp only [Instr.exec, hsignals]
  exact ⟨rfl, rfl, rfl, rfl⟩

/-- The next step of the caller keeps fatal errors final, whatever it finds. -/
lemma Inv.final_tick (h : m.Inv) (b : Answer) : (m.tick b).Final := by
  by_cases hspares : m.Spares (.tick b)
  · exact (h.tick hspares).final
  · simp only [Spares, not_forall] at hspares
    obtain ⟨w, removal, state, hnext, -, hsignal⟩ := hspares
    obtain ⟨-, hdead, hended, hstate⟩ := tick_of_signal b hnext hsignal
    obtain ⟨hfinal, hret⟩ := h.final
    exact ⟨fun hd => hstate ▸ hfinal (hdead ▸ hd), hended ▸ hret⟩

/-- **Steps outside the condition.** After a step that does not satisfy the condition, the next step
of the caller breaks the law.

**Proof sketch.** In each of the three cases the step leaves the caller about to write a state, and
a fatal error has been treated. -/
lemma Inv.spares_of_final (h : m.Inv) {a : Action} (b : Answer)
    (hfinal : ((m.step a).tick b).Final) : m.Spares a := by
  by_contra hspares
  refine absurd hfinal ?_
  cases a with
  | call f b' =>
    simp only [Spares, not_forall] at hspares
    obtain ⟨rfl, hdead, hm, herror⟩ := hspares
    simp only [Machine.step, if_pos hm, Machine.call, if_neg herror]
    refine not_final_of_writes ?_ ⟨.OMX_StateLoaded, rfl, .inl rfl⟩ ?_ b
    · rfl
    · exact hdead
  | tick b' =>
    simp only [Spares, not_forall] at hspares
    obtain ⟨w, removal, state, hnext, hdead, hsignal⟩ := hspares
    obtain ⟨hnext', hdead', -, -⟩ := tick_of_signal b' hnext hsignal
    obtain ⟨fr, frs, rest, hm, hcode⟩ := exists_of_next hnext
    have hshape := (h.sound fr (by rw [hm]; exact List.mem_cons_self)).shape
    rw [hcode] at hshape
    exact not_final_of_writes hnext' ⟨state, rfl, hshape.1⟩ (hdead'.trans hdead) b
  | event e => exact absurd trivial hspares
  | react =>
    simp only [Spares, not_forall, not_not] at hspares
    obtain ⟨e, hinvalid, i, hnext, hwrites⟩ := hspares
    obtain ⟨reacting, hreacting⟩ := List.head?_eq_some_iff.mp hinvalid
    obtain ⟨fr, frs, rest, hm, hcode⟩ := exists_of_next hnext
    have hnot : m.waiting = false := by
      obtain ⟨state, rfl, -⟩ := hwrites
      simp only [waiting, hnext]
    have hreact : m.step .react =
        { m with
          vce := m.vce.setComponentState .OMX_StateInvalid
          reacting := reacting
          dead := true } := by
      simp only [Machine.step, Machine.react, hreacting, reactTo]
      have hwaiting : ({ m with reacting := reacting } : Machine).waiting = false := hnot
      rw [hwaiting, if_neg Bool.false_ne_true]
    rw [hreact]
    refine not_final_of_writes ?_ hwrites ?_ b
    · exact hnext
    · rfl

end Machine

/-! ### Runs -/

/-- **Fatal errors are final.** Take a run of calls, statements of the caller's thread and
statements of `onEvent`, in which the dead component sends no completion. In every state of the
run, and after each step that the caller may take from there, the component is neither Loaded nor
Idle nor Executing after a fatal error until there is a new handle, and the switches that waited at
the time of the error have failed, exactly if every step of the run satisfies the condition: no
fatal error is treated while the caller is about to write a state, a wait for a state that ends
after a fatal error finds no signal, and the handle is not refused after one.

**Proof sketch.** The steps under the condition keep an invariant: after a fatal error nobody is
about to write a state, and the calls that waited lead to a wait or to an `EXIT` with an error. A
step outside the condition leaves the caller about to write one. -/
theorem always_final_iff (s : EventVce) {run : List Action}
    (hsilent : StepRun.Along Machine.step Machine.Silent (.start s) run) :
    StepRun.Always Machine.step (fun m => m.Final ∧ ∀ b, (m.step (.tick b)).Final) (.start s) run ↔
      StepRun.Along Machine.step Machine.Spares (.start s) run :=
  StepRun.always_iff_along_of_assumption (I := Machine.Inv)
    (fun _ h => ⟨h.final, h.final_tick⟩) (fun _ _ h hsilent hspares => h.step hsilent hspares)
    (fun _ _ h _ hnext => h.spares_of_final ⟨.added, .OMX_ErrorNone, 0, 0⟩ (hnext.2 _))
    (Machine.inv_start s) hsilent

/-- The answer to statements that ask for none. -/
def quietAnswer : Answer := ⟨.added, .OMX_ErrorNone, 0, 0⟩

/-- A fatal error. -/
def hardwareError : OmxEvent := ⟨OMX_EventError, OMX_ErrorHardware, 0⟩

/-- `execToIdle` waits when the error comes. -/
def strikeRun : List Action :=
  .call .execToIdle quietAnswer :: List.replicate 4 (.tick quietAnswer) ++
    [.event hardwareError, .react]

/-- The encoder executes. -/
def executing : EventVce :=
  EventVce.start (some 1) OMX_STATETYPE.OMX_StateExecuting.value true 0 1 [] 0

/-- The time is up before the registrations are flushed: the switch gives up the handle and
fails. -/
theorem always_final_expired :
    StepRun.Always Machine.step (fun m => m.Final ∧ ∀ b, (m.step (.tick b)).Final)
      (.start executing) (strikeRun ++ List.replicate 12 (.tick quietAnswer)) := by
  refine (always_final_iff executing ?_).mpr ?_
  · simp [strikeRun, List.replicate, StepRun.Along, Machine.Silent, hardwareError,
      OMX_EventError, OMX_EventCmdComplete]
  · refine ⟨fun hf => Routine.noConfusion hf, Machine.spares_of_alive rfl,
      Machine.spares_of_alive rfl, Machine.spares_of_alive rfl, Machine.spares_of_alive rfl,
      trivial, ?_, fun _ _ _ _ _ => rfl, ?_⟩
    · -- the caller waits
      rintro e - i hi ⟨state, rfl, -⟩
      cases hi
    · repeat refine ⟨Machine.spares_of_not_waiting rfl, ?_⟩
      trivial

/-- The flush wakes `execToIdle`, which writes Idle and returns no error. -/
theorem not_always_final_woken :
    StepRun.Along Machine.step Machine.Silent (.start executing)
        (strikeRun ++ .react :: List.replicate 3 (.tick quietAnswer)) ∧
      ¬ StepRun.Always Machine.step Machine.Final (.start executing)
        (strikeRun ++ .react :: List.replicate 3 (.tick quietAnswer)) := by
  constructor
  · simp [strikeRun, List.replicate, StepRun.Along, Machine.Silent, hardwareError,
      OMX_EventError, OMX_EventCmdComplete]
  · intro h
    exact h.last.1 rfl .OMX_StateIdle (.inr (.inl rfl)) rfl

/-- The status of that switch. -/
example : (StepRun.final Machine.step (.start executing)
    (strikeRun ++ .react :: List.replicate 3 (.tick quietAnswer))).ended = [NO_ERROR] := rfl

end CameraHal.VceFatal
