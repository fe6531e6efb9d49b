import Gs702aHal.Camera.VceFatal

set_option relaxedAutoImplicit false
set_option autoImplicit false

/-!
# Encoding with a component that may be lost

`OMXVceJpegEncoder::encode` switches the component to Loaded, sets its parameters, gives it its
buffers, switches it to Executing and has it process the image. A switch that fails frees the
component's handle. The statements of `encode` and `freeEncodeData` are run here one at a time, and
the switches that they call on the threads of `CameraHal.VceFatal`, so that the component's
callbacks come between any two statements. A component that has been freed calls nothing back.

Parameters that only go to the component are kept as data of the statement that sends them; the
fields of the Exif record are left out. `mSync` is set by the encoder's `init`.

## Main definitions

* `CameraHal.VceEncode.encodeCode`, `CameraHal.VceEncode.freeEncodeDataCode` — the statements.
* `CameraHal.VceEncode.Encoder` — the encoder with its calls.
* `CameraHal.VceEncode.Encoder.Safe` — no call is about to be made with `NULL` for a handle, the
  call that is under way goes on, and the calls of `encode` that have returned have an image or an
  error.
* `CameraHal.VceEncode.Encoder.Lasting` — the condition on a step.

## Main results

* `CameraHal.VceEncode.exec_plain` — what the statements of a switch do before its `EXIT`.
* `CameraHal.VceEncode.Encoder.Inv.step` — the handle is given up only where it is not used any
  more.
-/

namespace CameraHal.VceEncode

open Status VceFatal

/-! ### The statements -/

/-- A port definition, as far as `encode` writes and reads it. -/
structure PortDefinition where
  nBufferCountActual : ℕ
  nBufferSize : ℕ
  nFrameWidth : ℕ
  nFrameHeight : ℕ
  eColorFormat : ℤ
  eCompressionFormat : ℤ
  deriving DecidableEq

/-- `ImageJpegEncoderParam`, less what `encode` returns in it. -/
structure ImageJpegEncoderParam where
  inData : Ptr
  format : ℤ
  coding : ℤ
  /-- The first `buffersCount` of the buffers. -/
  buffers : List Ptr
  origWidth : ℕ
  origHeight : ℕ
  outputWidth : ℕ
  outputHeight : ℕ
  quality : ℕ
  thumbWidth : ℕ
  thumbHeight : ℕ

/-- The parameters that do not depend on the state. -/
inductive Parameter
  | exif
  | thumb (enable : Bool) (width height : ℕ)
  | quality (factor : ℕ)

/-- The two ports. -/
inductive Port
  | input
  | output

/-- The statements of `encode` and `freeEncodeData`. -/
inductive Stage
  /-- A switch, whose result may be tested. -/
  | call (f : Routine) (checked : Bool)
  /-- `OMX_SetParameter`, and the test of its result. -/
  | setParameter (p : Parameter)
  | getPortDefinition (port : Port)
  | setInputPortDefinition (param : ImageJpegEncoderParam)
  | setOutputPortDefinition (param : ImageJpegEncoderParam)
  /-- `useBuffers` for the input port. -/
  | useInputBuffers (buffers : List Ptr)
  /-- `useBuffers` for the output port. -/
  | useOutputBuffers
  /-- `fillAllOutputBuffers` from the `i`-th buffer on, with its status so far. -/
  | fillOutputBuffers (i : ℕ) (ret : Status)
  /-- `processImageSync` up to the reset of the output. -/
  | processImage (buf : Ptr)
  /-- `OMX_EmptyThisBuffer`. -/
  | emptyThisBuffer (header : Ptr)
  /-- The wait for `mFillBufferSyncAvilable`. -/
  | waitOutput
  /-- The output is read, and the results of `encode` are set. -/
  | collect
  | freeImageData (buf : Ptr)
  /-- The `EXIT` of `encode`. -/
  | exit (ret : Status)

/-- `setThumbnailSize`. -/
def setThumbnailSize (w h : ℕ) : Stage :=
  .setParameter (if w = 0 ∨ h = 0 then .thumb false 0 0 else .thumb true w h)

/-- The statements of `encode`; `exif` tells whether there is an Exif record. -/
def encodeCode (param : ImageJpegEncoderParam) (exif : Bool) : List Stage :=
  [.call .switchToLoaded false] ++
    (if exif then [.setParameter .exif, setThumbnailSize param.thumbWidth param.thumbHeight]
      else []) ++
    [.setParameter (.quality param.quality),
      .getPortDefinition .input, .setInputPortDefinition param,
      .getPortDefinition .output, .setOutputPortDefinition param, .getPortDefinition .output,
      .useInputBuffers param.buffers, .useOutputBuffers,
      .call .loadedToIdle true, .call .switchToExec true, .fillOutputBuffers 0 NO_ERROR,
      .processImage param.inData]

/-- The statements of `freeEncodeData`. -/
def freeEncodeDataCode (buf : Ptr) : List Stage :=
  (if buf = NULL then [] else [.freeImageData buf]) ++ [.call .switchToLoaded false]

/-! ### Steps -/

/-- An output buffer that the component has filled. -/
structure Image where
  buf : Ptr
  offset : ℕ
  size : ℕ
  deriving DecidableEq

/-- What a call of `encode` returned, and the buffer that was filled last since the call had reset
the output. -/
structure EncodeResult where
  ret : Status
  outData : Ptr
  outDataOffset : ℕ
  outDataSize : ℕ
  image : Option Image

/-- The encoder. -/
structure Encoder where
  /-- The state of `OMXVce` and its threads. -/
  m : Machine
  /-- What is left of the call, the switch that is running included. -/
  rest : List Stage
  mInputPortParam : PortDefinition
  mOutputPortParam : PortDefinition
  mImageProcessing : Bool
  mFillBufferSyncAvilable : Bool
  mOutputBuf : Ptr
  mOutputBufSize : ℕ
  mOutputBufOffset : ℕ
  /-- The callbacks that have written the output and not yet signalled it. -/
  signalling : ℕ
  /-- The buffer that was filled last since the output was reset. -/
  image : Option Image
  /-- What the calls of `encode` have returned. -/
  returned : List EncodeResult

/-- What the step of a statement meets: besides the answers to OMX calls whether there is memory,
and the port definition that the component gives. -/
structure EncodeAnswer extends Answer where
  memory : Bool
  definition : PortDefinition

/-- The steps: the calls, a statement of the caller's thread, an event and a statement of
`onEvent`, and the two halves of `onFillBufferDone`. -/
inductive EncodeAction
  | encode (param : ImageJpegEncoderParam) (exif : Bool)
  | freeEncodeData (buf : Ptr)
  | tick (b : EncodeAnswer)
  | event (ev : OmxEvent)
  | react
  | fill (image : Image)
  | signal

namespace Encoder

/-- The handle of the component. -/
def handle (e : Encoder) : Option Ptr := e.m.vce.mOmxHandle

/-- The component executes. -/
def executes (e : Encoder) : Bool :=
  e.m.vce.mComponentState = OMX_STATETYPE.OMX_StateExecuting.value

/-- The headers of the output buffers. -/
def outputHeaders (e : Encoder) : List Ptr := e.m.vce.mOutputBufferMap.entries.map Sigma.snd

/-- A statement goes on, or leaves for the `EXIT`, with a status. -/
def check (ret : Status) (rest : List Stage) (e : Encoder) : Encoder :=
  { e with rest := if ret = NO_ERROR then rest else [.exit ret] }

/-- The state of `OMXVce` is changed. -/
def withVce (e : Encoder) (f : EventVce → EventVce) : Encoder :=
  { e with m := { e.m with vce := f e.m.vce } }

/-- `OMX_INIT_STRUCT_PTR`, and the component's answer if there is one. -/
def setDefinition (port : Port) (b : EncodeAnswer) (e : Encoder) : Encoder :=
  let definition := if b.error = .OMX_ErrorNone then b.definition else ⟨0, 0, 0, 0, 0, 0⟩
  match port with
  | .input => { e with mInputPortParam := definition }
  | .output => { e with mOutputPortParam := definition }

/-- The results of `encode` from the output. -/
def collect (e : Encoder) : Encoder :=
  if e.mOutputBufSize = 0 then
    { e with rest := freeEncodeDataCode e.mOutputBuf ++ [.exit UNKNOWN_ERROR] }
  else
    { e with
      rest := []
      returned := e.returned ++
        [⟨NO_ERROR, e.mOutputBuf, e.mOutputBufOffset, e.mOutputBufSize, e.image⟩] }

/-- A statement, before the rest of its function. -/
def exec (b : EncodeAnswer) (rest : List Stage) (e : Encoder) : Stage → Encoder
  | .call f _ => { e with m := e.m.call f b.toAnswer }
  | .setParameter _ => e.check (omxToAndroidError b.error) rest
  | .getPortDefinition port => (e.setDefinition port b).check (omxToAndroidError b.error) rest
  | .setInputPortDefinition param =>
    check (omxToAndroidError b.error) rest
      { e with
        mInputPortParam := { e.mInputPortParam with
          nBufferCountActual := param.buffers.length
          nFrameWidth := param.origWidth
          nFrameHeight := param.origHeight
          eColorFormat := param.format
          eCompressionFormat := 0 } }
  | .setOutputPortDefinition param =>
    check (omxToAndroidError b.error) rest
      { e with
        mOutputPortParam := { e.mOutputPortParam with
          nBufferCountActual := 2
          nFrameWidth := param.outputWidth
          nFrameHeight := param.outputHeight
          eColorFormat := param.format
          eCompressionFormat := param.coding } }
  | .useInputBuffers buffers =>
    if e.m.vce.mComponentState ≠ OMX_STATETYPE.OMX_StateLoaded.value then
      (e.withVce fun s => { s with mInputBuffers := [] }).check INVALID_OPERATION rest
    else
      -- without memory there are no buffers, and no error
      (e.withVce fun s => { s with mInputBuffers := if b.memory then buffers else [] }).check
        NO_ERROR rest
  | .useOutputBuffers =>
    if e.m.vce.mComponentState ≠ OMX_STATETYPE.OMX_StateLoaded.value then
      (e.withVce fun s => { s with mOutputBufferCount := 0 }).check INVALID_OPERATION rest
    else
      (e.withVce fun s =>
        { s with mOutputBufferCount := e.mOutputPortParam.nBufferCountActual }).check NO_ERROR rest
  | .fillOutputBuffers i ret =>
    match e.outputHeaders[i]? with
    | none => e.check ret rest
    | some header =>
      if header = NULL then { e with rest := .fillOutputBuffers (i + 1) BAD_VALUE :: rest }
      else e.check (omxToAndroidError b.error) (.fillOutputBuffers (i + 1) ret :: rest)
  | .processImage buf =>
    if e.executes then
      if e.mImageProcessing then e  -- waits on `mImageCond`
      else match e.m.vce.mInputBufferMap.find? buf with
      | none => e  -- `valueFor` aborts the process
      | some header =>
        if header = NULL then e.check BAD_VALUE rest
        else
          { e with
            mImageProcessing := true
            mOutputBuf := NULL
            mOutputBufSize := 0
            mOutputBufOffset := 0
            image := none
            rest := [.emptyThisBuffer header, .waitOutput, .collect] }
    else
      -- `outSize` is 0, and `outBuf` is `NULL`
      { e with rest := freeEncodeDataCode NULL ++ [.exit UNKNOWN_ERROR] }
  | .emptyThisBuffer _ =>
    check (omxToAndroidError b.error) rest { e with mFillBufferSyncAvilable := false }
  | .waitOutput =>
    if e.mFillBufferSyncAvilable then { e with rest := rest }
    else check TIMED_OUT rest { e with mImageProcessing := false }
  | .collect => e.collect
  | .freeImageData _ =>
    -- the answer of `cycleOutputBuffer` to `OMX_FillThisBuffer` is not used
    { e with mImageProcessing := e.mImageProcessing && !e.executes, rest := rest }
  | .exit ret => { e with rest := rest, returned := e.returned ++ [⟨ret, NULL, 0, 0, none⟩] }

/-- A switch returns: its result is tested, or not. -/
def finishSwitch (fr : Frame) (e : Encoder) : Encoder :=
  match e.rest with
  | .call _ checked :: rest =>
    { e with
      m := e.m.leave fr []
      rest := if checked ∧ fr.ret ≠ NO_ERROR then [.exit fr.ret] else rest }
  | _ => { e with m := e.m.leave fr [] }

/-- A statement of the caller's thread. -/
def tick (b : EncodeAnswer) (e : Encoder) : Encoder :=
  match e.m.stack with
  | [] =>
    match e.rest with
    | [] => e
    | stage :: rest => e.exec b rest stage
  | [fr] =>
    match fr.code with
    | [] => e.finishSwitch fr
    | _ :: _ => { e with m := e.m.tick b.toAnswer }
  | _ :: _ :: _ => { e with m := e.m.tick b.toAnswer }

/-- One step. A call waits for the end of the call before. -/
def step (e : Encoder) : EncodeAction → Encoder
  | .encode param exif => if e.rest = [] then { e with rest := encodeCode param exif } else e
  | .freeEncodeData buf => if e.rest = [] then { e with rest := freeEncodeDataCode buf } else e
  | .tick b => e.tick b
  | .event ev => if e.handle = none then e else { e with m := e.m.step (.event ev) }
  | .react => { e with m := e.m.react }
  | .fill image =>
    if e.executes then
      { e with
        mOutputBuf := image.buf
        mOutputBufSize := image.size
        mOutputBufOffset := image.offset
        signalling := e.signalling + 1
        image := some image }
    else e
  | .signal =>
    if e.signalling = 0 then e
    else { e with mFillBufferSyncAvilable := true, signalling := e.signalling - 1 }

/-- The encoder with a handle, before any call. -/
def start (h : Ptr) (s : EventVce) : Encoder where
  m := .start { s with mOmxHandle := some h }
  rest := []
  mInputPortParam := ⟨0, 0, 0, 0, 0, 0⟩
  mOutputPortParam := ⟨0, 0, 0, 0, 0, 0⟩
  mImageProcessing := false
  mFillBufferSyncAvilable := false
  mOutputBuf := NULL
  mOutputBufSize := 0
  mOutputBufOffset := 0
  signalling := 0
  image := none
  returned := []

end Encoder

/-! ### The law -/

/-- The statement calls the component. -/
def CallsOmx (s : EventVce) : Instr → Prop
  | .send | .releaseHandle => True
  | .freeBuffers port i => i < (s.headers port).length
  | .useInputBuffers i => i < s.mInputBuffers.length
  | .allocateOutputBuffers i => i < s.mOutputBufferCount
  | _ => False

/-- The statement of `encode` or `freeEncodeData` calls the component. -/
def Stage.CallsOmx (e : Encoder) : Stage → Prop
  | .setParameter _ | .getPortDefinition _ | .setInputPortDefinition _
  | .setOutputPortDefinition _ | .emptyThisBuffer _ => True
  | .fillOutputBuffers i _ => ∃ header, e.outputHeaders[i]? = some header ∧ header ≠ NULL
  | .freeImageData buf => e.executes ∧ e.mImageProcessing ∧
      ∃ header, e.m.vce.mOutputBufferMap.find? buf = some header ∧ header ≠ NULL
  | _ => False

/-- The call has produced an image: a buffer that the component has filled and that is not
empty. -/
def EncodeResult.Produced (r : EncodeResult) : Prop :=
  r.image = some ⟨r.outData, r.outDataOffset, r.outDataSize⟩ ∧ r.outDataSize ≠ 0

/-- A call that has not produced an image returns an error, and no data. -/
def EncodeResult.Right (r : EncodeResult) : Prop :=
  ¬ r.Produced → r.ret ≠ NO_ERROR ∧ r.outData = NULL ∧ r.outDataSize = 0

/-- The statement does not use the handle, or finds out whether there is one. -/
def Stage.Free : Stage → Prop
  | .call .switchToLoaded _ | .freeImageData _ | .exit _ => True
  | _ => False

namespace Encoder

/-- The call stands still: `processImageSync` waits for the end of an image that nobody ends, or the
process is aborted because the image's buffer is not in the map. -/
def Stands (e : Encoder) : Prop :=
  e.m.stack = [] ∧ ∃ buf rest, e.rest = .processImage buf :: rest ∧ e.executes ∧
    (e.mImageProcessing ∨ e.m.vce.mInputBufferMap.find? buf = none)

/-- No call of the component is about to be made without a handle, the call that is under way goes
on, and the calls of `encode` that have returned have an image or an error. -/
structure Safe (e : Encoder) : Prop where
  switch : ∀ i, e.m.next = some i → CallsOmx e.m.vce i → e.handle ≠ none
  stage : e.m.stack = [] → ∀ st, e.rest.head? = some st → st.CallsOmx e → e.handle ≠ none
  goesOn : ¬ e.Stands
  returned : ∀ r ∈ e.returned, r.Right

/-- No statement leaves `switchToLoaded` for its `EXIT` when `freeOmxHandle` has called it, or when
statements that use the handle follow. -/
def KeepsHandle (e : Encoder) (b : EncodeAnswer) : Prop :=
  ∀ fr frs i code, e.m.stack = fr :: frs → fr.code = i :: code →
    fr.f = .switchToLoaded → (frs ≠ [] ∨ ¬ ∀ st ∈ e.rest.tail, st.Free) →
    ∀ ret, (i.exec b.toAnswer code e.m.vce).2 ≠ .exit ret

/-- `useBuffers` has memory for the input buffers, and `loadedToIdle` finds the component Loaded, as
`useBuffers` did. -/
structure KeepsBuffers (e : Encoder) (b : EncodeAnswer) : Prop where
  memory : e.m.stack = [] → ∀ buffers rest, e.rest = .useInputBuffers buffers :: rest →
    e.m.vce.mComponentState = OMX_STATETYPE.OMX_StateLoaded.value → b.memory = true
  loaded : ∀ fr frs state code, e.m.stack = fr :: frs → fr.code = .returnUnless state :: code →
    e.m.vce.mComponentState = state.value

/-- The condition on a step: a call of `encode` finds a handle, no image that is being processed,
and its image among its buffers; and statements keep the handle and the buffers. -/
def Lasting (e : Encoder) : EncodeAction → Prop
  | .encode param _ => e.rest = [] →
      e.handle ≠ none ∧ e.mImageProcessing = false ∧ param.inData ∈ param.buffers
  | .tick b => e.KeepsHandle b ∧ e.KeepsBuffers b
  | _ => True

end Encoder

/-! ### The statements of a switch -/

/-- A statement before the `EXIT` of a switch. -/
def Plain : Instr → Prop
  | .freeOmxHandle | .releaseHandle => False
  | .gotoExit ret => ret ≠ NO_ERROR
  | _ => True

/-- What comes after such a statement: more of them, the `EXIT` with an error, or a call of
`disablePort`. -/
def After (lost : Prop) : Next → Prop
  | .go code => ∀ i ∈ code, Plain i
  | .exit ret => ret ≠ NO_ERROR ∨ lost
  | .call f rest => (∃ port, f = .disablePort port) ∧ ∀ i ∈ rest, Plain i

/-- After an OMX call. -/
lemma after_checked {lost : Prop} {b : Answer} {code : List Instr} (h : ∀ i ∈ code, Plain i) :
    After lost (.checked b code) := by
  unfold Next.checked
  split_ifs with herror
  · exact h
  · exact .inl fun heq => herror ((omxToAndroidError_eq_NO_ERROR _).mp heq)

/-- The statements of a block. -/
lemma plain_block (block : Block) : ∀ i ∈ block.code, Plain i := by
  cases block <;> simp [Block.code, disableAllPorts, changeTo, Plain]

/-- The statements of a function other than `freeOmxHandle`. -/
lemma plain_code {f : Routine} (h : f ≠ .freeOmxHandle) : ∀ i ∈ f.code, Plain i := by
  cases f with
  | freeOmxHandle => exact absurd rfl h
  | _ => simp [Routine.code, Plain]

/-- **The statements of a switch** before its `EXIT` keep the handle. They go on with such
statements, leave for the `EXIT` with an error, or because there is no handle, or disable a port. -/
theorem exec_plain (b : Answer) {rest : List Instr} (s : EventVce) {i : Instr} (hi : Plain i)
    (hrest : ∀ j ∈ rest, Plain j) :
    (i.exec b rest s).1.mOmxHandle = s.mOmxHandle ∧
      After (s.mOmxHandle = none) (i.exec b rest s).2 := by
  have hcons : ∀ j, Plain j → ∀ k ∈ j :: rest, Plain k := fun j hj =>
    List.forall_mem_cons.mpr ⟨hj, hrest⟩
  cases i with
  | checkHandle =>
    refine ⟨rfl, ?_⟩
    simp only [Instr.exec]
    split_ifs with hlost
    · exact .inr hlost
    · exact hrest
  | returnIf state =>
    refine ⟨rfl, ?_⟩
    simp only [Instr.exec]
    split_ifs
    · exact List.forall_mem_nil _
    · exact hrest
  | returnUnless state =>
    refine ⟨rfl, ?_⟩
    simp only [Instr.exec]
    split_ifs
    · exact hrest
    · exact List.forall_mem_nil _
  | returnIfDisabled port =>
    refine ⟨rfl, ?_⟩
    simp only [Instr.exec]
    split_ifs
    · exact List.forall_mem_nil _
    · exact List.forall_mem_nil _
    · exact hrest
  | ifState state block =>
    refine ⟨rfl, ?_⟩
    simp only [Instr.exec]
    split_ifs
    · exact List.forall_mem_append.mpr ⟨plain_block block, hrest⟩
    · exact hrest
  | disablePort port => exact ⟨rfl, ⟨_, rfl⟩, hrest⟩
  | register w =>
    simp only [Instr.exec]
    cases b.registered with
    | added => exact ⟨rfl, hrest⟩
    | noMemory => exact ⟨rfl, .inl (by decide)⟩
    | noMessage => exact ⟨rfl, hrest⟩
  | send => exact ⟨rfl, after_checked hrest⟩
  | freeBuffers port i =>
    refine ⟨rfl, ?_⟩
    simp only [Instr.exec]
    split_ifs
    · exact after_checked (hcons _ trivial)
    · exact hrest
  | clearInputBufferMap => exact ⟨rfl, hrest⟩
  | useInputBuffers i =>
    simp only [Instr.exec]
    cases s.mInputBuffers[i]? with
    | none => exact ⟨rfl, hrest⟩
    | some handle =>
      refine ⟨?_, after_checked (hcons _ trivial)⟩
      split_ifs <;> rfl
  | clearOutputBufferMap => exact ⟨rfl, hrest⟩
  | allocateOutputBuffers i =>
    simp only [Instr.exec]
    split_ifs
    · exact ⟨rfl, after_checked (hcons _ trivial)⟩
    · exact ⟨rfl, hrest⟩
  | wait w removal state =>
    simp only [Instr.exec]
    cases s.mEventSyncList.signalled w.arg3 with
    | nil =>
      refine ⟨rfl, List.forall_mem_cons.mpr ⟨trivial, List.forall_mem_cons.mpr ⟨trivial, ?_⟩⟩⟩
      exact hcons _ (by simp [Plain, NO_ERROR])
    | cons e signals =>
      cases state with
      | none => exact ⟨rfl, hrest⟩
      | some state => exact ⟨rfl, hcons _ trivial⟩
  | setState state => exact ⟨rfl, hrest⟩
  | clearEnable port =>
    refine ⟨?_, hrest⟩
    simp only [Instr.exec, EventVce.clearEnable]
    split_ifs <;> rfl
  | setEnable => exact ⟨rfl, hrest⟩
  | resetSem sem => exact ⟨rfl, hrest⟩
  | removeEvent e => exact ⟨rfl, hrest⟩
  | gotoExit ret => exact ⟨rfl, .inl hi⟩
  | freeOmxHandle => exact hi.elim
  | releaseHandle => exact hi.elim

/-! ### The invariant -/

/-- A statement that calls a switch other than `switchToLoaded` tests the result, and an `EXIT` is
reached with an error. -/
def Stage.Ok : Stage → Prop
  | .call f checked =>
    f = .switchToLoaded ∨ (checked = true ∧ (f = .loadedToIdle ∨ f = .switchToExec))
  | .exit ret => ret ≠ NO_ERROR
  | _ => True

/-- The switch is running: what is left of the call begins with it. -/
def Running (fr : Frame) (rest : List Stage) : Prop :=
  ∃ checked after, rest = .call fr.f checked :: after

/-- The statements that follow the switch do not use the handle, or it has failed and they are not
reached. -/
def Settled (fr : Frame) (rest : List Stage) : Prop :=
  (∀ st ∈ rest.tail, st.Free) ∨
    (fr.ret ≠ NO_ERROR ∧ ∃ after, rest = .call fr.f true :: after)

/-- The switch is at its `EXIT` and has not freed the handle. -/
def Frees (fr : Frame) : Prop :=
  fr.code = [.freeOmxHandle] ∨ fr.code = [.releaseHandle, .setState .OMX_StateInvalid]

/-- The calls of the caller's thread: functions that have been called by others are before their
`EXIT`, and so is the switch that `encode` or `freeEncodeData` has called, unless it is settled. -/
def Calls (rest : List Stage) : List Frame → Prop
  | [] => True
  | [fr] => Running fr rest ∧ ((∀ i ∈ fr.code, Plain i) ∨ (Frees fr ∧ Settled fr rest))
  | fr :: fr' :: frs =>
    (fr.f = .switchToLoaded ∨ ∃ port, fr.f = .disablePort port) ∧ (∀ i ∈ fr.code, Plain i) ∧
      Calls rest (fr' :: frs)

/-- The `EXIT` of a switch without a handle, in the given state. -/
def Over (fr : Frame) (state : ℕ) : Prop :=
  fr.code = [.setState .OMX_StateInvalid] ∨ (state = OMX_STATETYPE.OMX_StateInvalid.value ∧
    (fr.code = [] ∨ fr.code = [.freeOmxHandle]))

/-- A switch that will find no handle, in the given state. -/
def Idle (fr : Frame) (state : ℕ) : Prop :=
  state = OMX_STATETYPE.OMX_StateInvalid.value ∧ (∃ code, fr.code = .checkHandle :: code) ∧
    fr.f.exit = [.freeOmxHandle]

namespace Encoder

/-- There is no handle: no call is running and none is left that uses it, or the one that is running
does nothing more. -/
inductive Lost (e : Encoder) : Prop
  | none (hm : e.m.stack = [])
    (hstate : e.m.vce.mComponentState = OMX_STATETYPE.OMX_StateInvalid.value)
    (hfree : ∀ st ∈ e.rest, st.Free)
  | idle (fr : Frame) (hm : e.m.stack = [fr]) (hidle : Idle fr e.m.vce.mComponentState)
    (hfree : ∀ st ∈ e.rest.tail, st.Free)
  | ended (fr : Frame) (hm : e.m.stack = [fr]) (hover : Over fr e.m.vce.mComponentState)
    (hsettled : Settled fr e.rest)

/-- What the steps under the condition keep. -/
structure Inv (e : Encoder) : Prop where
  rest : ∀ st ∈ e.rest, st.Ok
  calls : Calls e.rest e.m.stack
  lost : e.handle = none → e.Lost
  output : e.mOutputBufSize ≠ 0 →
    e.image = some ⟨e.mOutputBuf, e.mOutputBufOffset, e.mOutputBufSize⟩
  returned : ∀ r ∈ e.returned, r.Right

/-- Under the invariant no call of the component is about to be made without a handle. -/
lemma Inv.safe {e : Encoder} (h : e.Inv) (hgoes : ¬ e.Stands) : e.Safe := by
  refine ⟨fun i hnext hcalls hlost => ?_, fun hm st hst hcalls hlost => ?_, hgoes, h.returned⟩
  · cases h.lost hlost with
    | none hm => simp [Machine.next, hm] at hnext
    | idle fr hm hidle =>
      obtain ⟨-, ⟨code, hcode⟩, -⟩ := hidle
      rw [Machine.next_cons hm, hcode] at hnext
      obtain rfl := Option.some.inj hnext
      exact hcalls
    | ended fr hm hover =>
      rw [Machine.next_cons hm] at hnext
      rcases hover with hcode | ⟨-, hcode | hcode⟩
      · rw [hcode] at hnext
        obtain rfl := Option.some.inj hnext
        exact hcalls
      · rw [hcode] at hnext
        cases hnext
      · rw [hcode] at hnext
        obtain rfl := Option.some.inj hnext
        exact hcalls
  · cases h.lost hlost with
    | none _ hstate hfree =>
      have hst' := hfree st (List.mem_of_mem_head? hst)
      cases st with
      | freeImageData buf =>
        have hexecutes := hcalls.1
        simp only [executes, hstate] at hexecutes
        cases hexecutes
      | call f checked => exact hcalls
      | exit ret => exact hcalls
      | _ => exact hst'
    | idle fr hm' => rw [hm] at hm'; cases hm'
    | ended fr hm' => rw [hm] at hm'; cases hm'

/-- The encoder starts so. -/
lemma inv_start (h : Ptr) (s : EventVce) : (start h s).Inv :=
  ⟨List.forall_mem_nil _, trivial, nofun, fun hsize => absurd rfl hsize, List.forall_mem_nil _⟩

variable {e : Encoder} {fr : Frame} {frs : List Frame}

/-- The calls after a statement of the innermost one. -/
lemma calls_proceed {rest : List Stage} {m : Machine} {r : EventVce × Next} {lost : Prop}
    (hcalls : Calls rest (fr :: frs)) (hafter : After lost r.2)
    (hexit : ∀ ret, r.2 = .exit ret → (∀ i ∈ fr.f.exit, Plain i) ∨
      (frs = [] ∧ fr.f.exit = [.freeOmxHandle] ∧
        Settled { fr with code := fr.f.exit, ret := ret } rest)) :
    Calls rest (m.proceed fr frs r).stack := by
  obtain ⟨v, code | ret | ⟨f, code⟩⟩ := r
  · cases frs with
    | nil => exact ⟨hcalls.1, .inl hafter⟩
    | cons fr' frs => exact ⟨hcalls.1, hafter, hcalls.2.2⟩
  · rcases hexit ret rfl with hplain | ⟨rfl, hfrees, hsettled⟩
    · cases frs with
      | nil => exact ⟨hcalls.1, .inl hplain⟩
      | cons fr' frs => exact ⟨hcalls.1, hplain, hcalls.2.2⟩
    · exact ⟨hcalls.1, .inr ⟨.inl hfrees, hsettled⟩⟩
  · obtain ⟨⟨port, rfl⟩, hcode⟩ := hafter
    refine ⟨.inr ⟨port, rfl⟩, plain_code (f := .disablePort port) nofun, ?_⟩
    cases frs with
    | nil => exact ⟨hcalls.1, .inl hcode⟩
    | cons fr' frs => exact ⟨hcalls.1, hcode, hcalls.2.2⟩

/-- The state of `OMXVce` changes, and nothing of the call. -/
lemma Inv.withMachine (h : e.Inv) {m : Machine} (hcalls : Calls e.rest m.stack)
    (hlost : m.vce.mOmxHandle = none → ({ e with m := m } : Encoder).Lost) :
    ({ e with m := m } : Encoder).Inv :=
  ⟨h.rest, hcalls, hlost, h.output, h.returned⟩

/-- The innermost call of a switch that is settled is at its `EXIT` only if it is the switch
itself. -/
lemma frees_of_not_plain {rest : List Stage} (hcalls : Calls rest (fr :: frs))
    (hplain : ¬ ∀ i ∈ fr.code, Plain i) :
    frs = [] ∧ Running fr rest ∧ VceEncode.Frees fr ∧ Settled fr rest := by
  cases frs with
  | nil =>
    obtain ⟨hrunning, hp | ⟨hfrees, hsettled⟩⟩ := hcalls
    · exact absurd hp hplain
    · exact ⟨rfl, hrunning, hfrees, hsettled⟩
  | cons fr' frs => exact absurd hcalls.2.1 hplain

/-- A statement of a switch that has a handle. -/
lemma Inv.exec_of_handle (h : e.Inv) (hm : e.m.stack = fr :: frs) {i : Instr} {code : List Instr}
    (hcode : fr.code = i :: code) (b : EncodeAnswer) (hlasting : e.KeepsHandle b)
    (hhandle : e.handle ≠ none) :
    ({ e with m := e.m.proceed fr frs (i.exec b.toAnswer code e.m.vce) } : Encoder).Inv := by
  have hcalls := h.calls
  rw [hm] at hcalls
  by_cases hplain : ∀ j ∈ fr.code, Plain j
  · rw [hcode] at hplain
    obtain ⟨hi, hcode'⟩ := List.forall_mem_cons.mp hplain
    obtain ⟨hkeep, hafter⟩ := exec_plain b.toAnswer e.m.vce hi hcode'
    refine h.withMachine ?_ fun hlost => ?_
    · refine calls_proceed hcalls hafter fun ret hret => ?_
      -- an `EXIT` that frees the handle
      have hleave := fun hf hnext => hlasting fr frs i code hm hcode hf hnext ret hret
      have hne : ret ≠ NO_ERROR := by
        rw [hret] at hafter
        exact hafter.resolve_right hhandle
      cases frs with
      | nil =>
        obtain ⟨⟨checked, after, hrest⟩, -⟩ := hcalls
        have hok : Stage.Ok (.call fr.f checked) :=
          h.rest _ (by rw [hrest]; exact List.mem_cons_self)
        rcases hok with hf | ⟨rfl, hf | hf⟩
        · refine .inr ⟨rfl, by rw [hf]; rfl, .inl ?_⟩
          by_contra hfree
          exact hleave hf (.inr hfree)
        · left
          rw [hf]
          exact List.forall_mem_nil _
        · exact .inr ⟨rfl, by rw [hf]; rfl, .inr ⟨hne, after, hrest⟩⟩
      | cons fr' frs =>
        rcases hcalls.1 with hf | ⟨port, hf⟩
        · exact absurd (.inl (List.cons_ne_nil _ _)) (hleave hf)
        · left
          rw [hf]
          exact List.forall_mem_nil _
    · rw [Machine.proceed_vce, hkeep] at hlost
      exact absurd hlost hhandle
  · obtain ⟨rfl, hrunning, hfrees, hsettled⟩ := frees_of_not_plain hcalls hplain
    rcases hfrees with hfree | hrelease
    · rw [hfree] at hcode
      obtain ⟨rfl, rfl⟩ := List.cons_eq_cons.mp hcode
      have hexec : Instr.exec b.toAnswer [] e.m.vce .freeOmxHandle =
          (e.m.vce, .call .switchToLoaded [.releaseHandle, .setState .OMX_StateInvalid]) :=
        if_neg hhandle
      rw [hexec]
      refine h.withMachine ?_ fun hlost => absurd hlost hhandle
      exact ⟨.inl rfl, plain_code (f := .switchToLoaded) nofun, hrunning, .inr ⟨.inr rfl, hsettled⟩⟩
    · rw [hrelease] at hcode
      obtain ⟨rfl, rfl⟩ := List.cons_eq_cons.mp hcode
      refine h.withMachine ⟨hrunning, .inl ?_⟩ fun _ => .ended _ rfl (.inl rfl) hsettled
      exact List.forall_mem_singleton.mpr trivial

/-- A statement of a switch that has none. -/
lemma Inv.exec_of_lost (h : e.Inv) (hm : e.m.stack = fr :: frs) {i : Instr} {code : List Instr}
    (hcode : fr.code = i :: code) (b : EncodeAnswer) (hhandle : e.handle = none) :
    ({ e with m := e.m.proceed fr frs (i.exec b.toAnswer code e.m.vce) } : Encoder).Inv := by
  have hcalls := h.calls
  rw [hm] at hcalls
  cases h.lost hhandle with
  | none hm' =>
    rw [hm] at hm'
    cases hm'
  | idle fr' hm' hidle hfree =>
    rw [hm] at hm'
    obtain ⟨rfl, rfl⟩ := List.cons_eq_cons.mp hm'
    obtain ⟨hstate, ⟨code', hcheck⟩, hexit⟩ := hidle
    rw [hcode] at hcheck
    obtain ⟨rfl, rfl⟩ := List.cons_eq_cons.mp hcheck
    have hexec : Instr.exec b.toAnswer code e.m.vce .checkHandle = (e.m.vce, .exit NO_ERROR) := by
      have hnone : e.m.vce.mOmxHandle = none := hhandle
      simp only [Instr.exec, if_pos hnone]
    rw [hexec]
    exact h.withMachine ⟨hcalls.1, .inr ⟨.inl hexit, .inl hfree⟩⟩ fun _ =>
      .ended _ rfl (.inr ⟨hstate, .inr hexit⟩) (.inl hfree)
  | ended fr' hm' hover hsettled =>
    rw [hm] at hm'
    obtain ⟨rfl, rfl⟩ := List.cons_eq_cons.mp hm'
    rcases hover with hset | ⟨hstate, hnil | hfree⟩
    · rw [hcode] at hset
      obtain ⟨rfl, rfl⟩ := List.cons_eq_cons.mp hset
      exact h.withMachine ⟨hcalls.1, .inl (List.forall_mem_nil _)⟩ fun _ =>
        .ended _ rfl (.inr ⟨rfl, .inl rfl⟩) hsettled
    · rw [hcode] at hnil
      cases hnil
    · rw [hcode] at hfree
      obtain ⟨rfl, rfl⟩ := List.cons_eq_cons.mp hfree
      have hexec : Instr.exec b.toAnswer [] e.m.vce .freeOmxHandle =
          (e.m.vce, .go [.setState .OMX_StateInvalid]) := if_pos hhandle
      rw [hexec]
      exact h.withMachine ⟨hcalls.1, .inl (List.forall_mem_singleton.mpr trivial)⟩ fun _ =>
        .ended _ rfl (.inl rfl) hsettled

/-- A step of a switch. -/
lemma Inv.tick_switch (h : e.Inv) (hm : e.m.stack = fr :: frs) (b : EncodeAnswer)
    (hlasting : e.KeepsHandle b) (hne : fr.code ≠ [] ∨ frs ≠ []) :
    ({ e with m := e.m.tick b.toAnswer } : Encoder).Inv := by
  cases hcode : fr.code with
  | nil =>
    rw [Machine.tick_of_end _ hm hcode]
    have hcalls := h.calls
    rw [hm] at hcalls
    cases frs with
    | nil => exact absurd hcode (hne.resolve_right fun hfrs => hfrs rfl)
    | cons fr' frs =>
      refine h.withMachine hcalls.2.2 fun hlost => ?_
      cases h.lost hlost with
      | none hm' => rw [hm] at hm'; cases hm'
      | idle fr'' hm' => rw [hm] at hm'; cases hm'
      | ended fr'' hm' => rw [hm] at hm'; cases hm'
  | cons i code =>
    rw [Machine.tick_of_cons _ hm hcode]
    by_cases hhandle : e.handle = none
    · exact h.exec_of_lost hm hcode b hhandle
    · exact h.exec_of_handle hm hcode b hlasting hhandle

/-- The switch that `encode` or `freeEncodeData` has called returns. -/
lemma Inv.finishSwitch (h : e.Inv) (hm : e.m.stack = [fr]) (hcode : fr.code = []) :
    (e.finishSwitch fr).Inv := by
  have hcalls := h.calls
  rw [hm] at hcalls
  obtain ⟨⟨checked, after, hrest⟩, -⟩ := hcalls
  have hok := h.rest
  rw [hrest, List.forall_mem_cons] at hok
  have hexit : ∀ st ∈ [Stage.exit fr.ret], st.Free := List.forall_mem_singleton.mpr trivial
  simp only [Encoder.finishSwitch, hrest]
  refine ⟨?_, trivial, fun hlost => .none rfl ?_ ?_, h.output, h.returned⟩
  · split_ifs with hfailed
    · exact List.forall_mem_singleton.mpr hfailed.2
    · exact hok.2
  · cases h.lost hlost with
    | none hm' => rw [hm] at hm'; cases hm'
    | idle fr' hm' hidle => exact hidle.1
    | ended fr' hm' hover =>
      rw [hm] at hm'
      obtain ⟨rfl, -⟩ := List.cons_eq_cons.mp hm'
      rcases hover with hset | ⟨hstate, -⟩
      · rw [hcode] at hset
        cases hset
      · exact hstate
  · cases h.lost hlost with
    | none hm' => rw [hm] at hm'; cases hm'
    | idle fr' hm' hidle hfree =>
      rw [hrest] at hfree
      split_ifs
      · exact hexit
      · exact hfree
    | ended fr' hm' hover hsettled =>
      rw [hm] at hm'
      obtain ⟨rfl, -⟩ := List.cons_eq_cons.mp hm'
      rw [hrest] at hsettled
      split_ifs with hfailed
      · exact hexit
      · rcases hsettled with hfree | ⟨hret, after', heq⟩
        · exact hfree
        · obtain ⟨hcall, -⟩ := List.cons_eq_cons.mp heq
          obtain ⟨-, rfl⟩ := Stage.call.inj hcall
          exact absurd ⟨rfl, hret⟩ hfailed

/-! ### The statements of `encode` -/

/-- After a statement of `encode` that has run without a switch. -/
lemma Inv.of_stage {e' : Encoder} (hm : e'.m.stack = []) (hrest : ∀ st ∈ e'.rest, st.Ok)
    (hlost : e'.handle = none →
      e'.m.vce.mComponentState = OMX_STATETYPE.OMX_StateInvalid.value ∧ ∀ st ∈ e'.rest, st.Free)
    (houtput : e'.mOutputBufSize ≠ 0 →
      e'.image = some ⟨e'.mOutputBuf, e'.mOutputBufOffset, e'.mOutputBufSize⟩)
    (hreturned : ∀ r ∈ e'.returned, r.Right) : e'.Inv :=
  ⟨hrest, by rw [hm]; trivial, fun h => .none hm (hlost h).1 (hlost h).2, houtput, hreturned⟩

/-- The statements of `freeEncodeData`. -/
lemma ok_freeEncodeDataCode (buf : Ptr) : ∀ st ∈ freeEncodeDataCode buf, st.Ok ∧ st.Free := by
  unfold freeEncodeDataCode
  split_ifs <;> simp [Stage.Ok, Stage.Free]

/-- The statements of `freeEncodeData` with an `EXIT` after them. -/
lemma ok_freeEncodeDataCode_exit (buf : Ptr) :
    ∀ st ∈ freeEncodeDataCode buf ++ [.exit UNKNOWN_ERROR], st.Ok :=
  List.forall_mem_append.mpr ⟨fun st hst => (ok_freeEncodeDataCode buf st hst).1,
    List.forall_mem_singleton.mpr (show UNKNOWN_ERROR ≠ NO_ERROR by decide)⟩

/-- The statements of `encode`. -/
lemma ok_encodeCode (param : ImageJpegEncoderParam) (exif : Bool) :
    ∀ st ∈ encodeCode param exif, st.Ok := by
  unfold encodeCode setThumbnailSize
  cases exif <;> simp [Stage.Ok]

/-- A statement that goes on or leaves for the `EXIT` keeps the invariant, if there is a handle. -/
lemma Inv.check (h : e.Inv) (hm : e.m.stack = []) (hhandle : e.handle ≠ none)
    {rest : List Stage} (hrest : ∀ st ∈ rest, st.Ok) (ret : Status) (e' : Encoder)
    (hframe : e'.m.stack = e.m.stack ∧ e'.handle = e.handle)
    (houtput : (e'.mOutputBufSize, e'.image, e'.mOutputBuf, e'.mOutputBufOffset) =
      (e.mOutputBufSize, e.image, e.mOutputBuf, e.mOutputBufOffset))
    (hreturned : e'.returned = e.returned) : (e'.check ret rest).Inv := by
  simp only [Prod.mk.injEq] at houtput
  obtain ⟨hsize, himage, hbuf, hoffset⟩ := houtput
  refine .of_stage (hframe.1.trans hm) ?_ (fun hlost => absurd (hframe.2.symm.trans hlost) hhandle)
    ?_ ?_
  · simp only [Encoder.check]
    split_ifs with hret
    · exact hrest
    · exact List.forall_mem_singleton.mpr hret
  · simp only [Encoder.check, hsize, himage, hbuf, hoffset]
    exact h.output
  · simp only [Encoder.check, hreturned]
    exact h.returned

/-- The call of a switch keeps the invariant. -/
lemma Inv.exec_call (h : e.Inv) (hm : e.m.stack = []) {f : Routine} {checked : Bool}
    {rest : List Stage} (hrest : e.rest = .call f checked :: rest) (b : EncodeAnswer) :
    (e.exec b rest (.call f checked)).Inv := by
  have hok : Stage.Ok (.call f checked) := h.rest _ (by rw [hrest]; exact List.mem_cons_self)
  have hcall : e.m.call f b.toAnswer = { e.m with stack := [.new f] } := by
    rcases hok with rfl | ⟨-, rfl | rfl⟩
    all_goals rfl
  have hplain : ∀ i ∈ f.code, Plain i := by
    rcases hok with rfl | ⟨-, rfl | rfl⟩
    all_goals exact plain_code nofun
  simp only [Encoder.exec, hcall]
  refine h.withMachine ⟨⟨checked, rest, hrest⟩, .inl hplain⟩ fun hlost => ?_
  cases h.lost hlost with
  | none _ hstate hfree =>
    rw [hrest] at hfree
    obtain ⟨hf, htail⟩ : Stage.Free (.call f checked) ∧ ∀ st ∈ rest, st.Free :=
      List.forall_mem_cons.mp hfree
    obtain rfl : f = .switchToLoaded := by
      cases f <;> first | rfl | exact hf.elim
    refine .idle _ rfl ⟨hstate, ⟨_, rfl⟩, rfl⟩ ?_
    rw [hrest]
    exact htail
  | idle fr hm' => rw [hm] at hm'; cases hm'
  | ended fr hm' => rw [hm] at hm'; cases hm'

/-- **A statement of `encode` or `freeEncodeData`** keeps the invariant.

**Proof sketch.** One case for each statement. Those that use the handle are not reached without
one. The results of `encode` are set from the output, which is a buffer that the component has
filled since the reset unless it is empty, or at the `EXIT`. -/
lemma Inv.exec_stage (h : e.Inv) (hm : e.m.stack = []) {stage : Stage} {rest : List Stage}
    (hrest : e.rest = stage :: rest) (b : EncodeAnswer) : (e.exec b rest stage).Inv := by
  have hok := h.rest
  rw [hrest, List.forall_mem_cons] at hok
  have hlost : e.handle = none →
      e.m.vce.mComponentState = OMX_STATETYPE.OMX_StateInvalid.value ∧ stage.Free ∧
        ∀ st ∈ rest, st.Free := by
    intro hnone
    cases h.lost hnone with
    | none _ hstate hfree =>
      rw [hrest, List.forall_mem_cons] at hfree
      exact ⟨hstate, hfree⟩
    | idle fr hm' => rw [hm] at hm'; cases hm'
    | ended fr hm' => rw [hm] at hm'; cases hm'
  have hhandle : ¬ stage.Free → e.handle ≠ none := fun hfree hnone => hfree (hlost hnone).2.1
  cases stage with
  | call f checked => exact h.exec_call hm hrest b
  | setParameter p => exact h.check hm (hhandle id) hok.2 _ _ ⟨rfl, rfl⟩ rfl rfl
  | getPortDefinition port =>
    cases port with
    | input => exact h.check hm (hhandle id) hok.2 _ _ ⟨rfl, rfl⟩ rfl rfl
    | output => exact h.check hm (hhandle id) hok.2 _ _ ⟨rfl, rfl⟩ rfl rfl
  | setInputPortDefinition param => exact h.check hm (hhandle id) hok.2 _ _ ⟨rfl, rfl⟩ rfl rfl
  | setOutputPortDefinition param => exact h.check hm (hhandle id) hok.2 _ _ ⟨rfl, rfl⟩ rfl rfl
  | useInputBuffers buffers =>
    simp only [Encoder.exec]
    split_ifs
    all_goals exact h.check hm (hhandle id) hok.2 _ _ ⟨rfl, rfl⟩ rfl rfl
  | useOutputBuffers =>
    simp only [Encoder.exec]
    split_ifs
    all_goals exact h.check hm (hhandle id) hok.2 _ _ ⟨rfl, rfl⟩ rfl rfl
  | fillOutputBuffers i ret =>
    have hnext : ∀ ret, ∀ st ∈ Stage.fillOutputBuffers (i + 1) ret :: rest, st.Ok := fun ret =>
      List.forall_mem_cons.mpr ⟨trivial, hok.2⟩
    simp only [Encoder.exec]
    cases e.outputHeaders[i]? with
    | none => exact h.check hm (hhandle id) hok.2 _ _ ⟨rfl, rfl⟩ rfl rfl
    | some header =>
      dsimp only
      split_ifs
      · exact .of_stage hm (hnext _) (fun hnone => absurd hnone (hhandle id)) h.output h.returned
      · exact h.check hm (hhandle id) (hnext _) _ _ ⟨rfl, rfl⟩ rfl rfl
  | processImage buf =>
    simp only [Encoder.exec]
    split_ifs
    · exact h
    · cases e.m.vce.mInputBufferMap.find? buf with
      | none => exact h
      | some header =>
        dsimp only
        split_ifs
        · exact h.check hm (hhandle id) hok.2 _ _ ⟨rfl, rfl⟩ rfl rfl
        · refine .of_stage hm ?_ (fun hnone => absurd hnone (hhandle id))
            (fun hsize => absurd rfl hsize) h.returned
          simp [Stage.Ok]
    · exact .of_stage hm (ok_freeEncodeDataCode_exit _) (fun hnone => absurd hnone (hhandle id))
        h.output h.returned
  | emptyThisBuffer header => exact h.check hm (hhandle id) hok.2 _ _ ⟨rfl, rfl⟩ rfl rfl
  | waitOutput =>
    simp only [Encoder.exec]
    split_ifs
    · exact .of_stage hm hok.2 (fun hnone => absurd hnone (hhandle id)) h.output h.returned
    · exact h.check hm (hhandle id) hok.2 _ _ ⟨rfl, rfl⟩ rfl rfl
  | collect =>
    simp only [Encoder.exec, Encoder.collect]
    split_ifs with hsize
    · exact .of_stage hm (ok_freeEncodeDataCode_exit _) (fun hnone => absurd hnone (hhandle id))
        h.output h.returned
    · refine .of_stage hm (List.forall_mem_nil _) (fun hnone => absurd hnone (hhandle id)) h.output
        (List.forall_mem_append.mpr ⟨h.returned, List.forall_mem_singleton.mpr ?_⟩)
      exact fun hproduced => absurd ⟨h.output hsize, hsize⟩ hproduced
  | freeImageData buf =>
    exact .of_stage hm hok.2 (fun hnone => ⟨(hlost hnone).1, (hlost hnone).2.2⟩) h.output
      h.returned
  | exit ret =>
    refine .of_stage hm hok.2 (fun hnone => ⟨(hlost hnone).1, (hlost hnone).2.2⟩) h.output
      (List.forall_mem_append.mpr ⟨h.returned, List.forall_mem_singleton.mpr ?_⟩)
    exact fun _ => ⟨hok.1, rfl, rfl⟩

/-- A statement of the caller's thread keeps the invariant. -/
lemma Inv.tick (h : e.Inv) {b : EncodeAnswer} (hlasting : e.KeepsHandle b) :
    (e.tick b).Inv := by
  match hm : e.m.stack with
  | [] =>
    cases hrest : e.rest with
    | nil =>
      simp only [Encoder.tick, hm, hrest]
      exact h
    | cons stage rest =>
      simp only [Encoder.tick, hm, hrest]
      exact h.exec_stage hm hrest b
  | [fr] =>
    cases hcode : fr.code with
    | nil =>
      simp only [Encoder.tick, hm, hcode]
      exact h.finishSwitch hm hcode
    | cons i code =>
      simp only [Encoder.tick, hm, hcode]
      refine h.tick_switch hm b hlasting (.inl ?_)
      rw [hcode]
      exact List.cons_ne_nil _ _
  | fr :: fr' :: frs =>
    simp only [Encoder.tick, hm]
    exact h.tick_switch hm b hlasting (.inr (List.cons_ne_nil _ _))

/-- The calls of the caller's thread when some are marked. -/
lemma calls_marked {rest : List Stage} {stack : List Frame} (g : Frame → Bool)
    (hcalls : Calls rest stack) :
    Calls rest (stack.map fun fr => { fr with struck := g fr }) := by
  induction stack with
  | nil => trivial
  | cons fr frs ih =>
    cases frs with
    | nil => exact hcalls
    | cons fr' frs => exact ⟨hcalls.1, hcalls.2.1, ih hcalls.2.2⟩

/-- A step of the component's thread keeps the invariant: it may mark calls, and without a handle
the state stays or becomes Invalid. -/
lemma Inv.of_component (h : e.Inv) {m : Machine} (g : Frame → Bool)
    (hm : m.stack = e.m.stack.map fun fr => { fr with struck := g fr })
    (hhandle : m.vce.mOmxHandle = e.handle)
    (hstate : e.handle = none → m.vce.mComponentState = e.m.vce.mComponentState ∨
      m.vce.mComponentState = OMX_STATETYPE.OMX_StateInvalid.value) :
    ({ e with m := m } : Encoder).Inv := by
  refine h.withMachine (hm ▸ calls_marked g h.calls) fun hlost => ?_
  rw [hhandle] at hlost
  have hstate' : e.m.vce.mComponentState = OMX_STATETYPE.OMX_StateInvalid.value →
      m.vce.mComponentState = OMX_STATETYPE.OMX_StateInvalid.value := fun heq =>
    (hstate hlost).elim (·.trans heq) id
  cases h.lost hlost with
  | none hnil hinvalid hfree =>
    rw [hnil] at hm
    exact .none hm (hstate' hinvalid) hfree
  | idle fr hfr hidle hfree =>
    rw [hfr] at hm
    exact .idle _ hm ⟨hstate' hidle.1, hidle.2⟩ hfree
  | ended fr hfr hover hsettled =>
    rw [hfr] at hm
    exact .ended _ hm (hover.imp_right fun hover => ⟨hstate' hover.1, hover.2⟩) hsettled

/-- A statement of `onEvent` keeps the invariant. -/
lemma Inv.react (h : e.Inv) : ({ e with m := e.m.react } : Encoder).Inv := by
  have hsame : e.m.stack = e.m.stack.map fun fr => { fr with struck := fr.struck } :=
    (List.map_id _).symm
  unfold Machine.react
  cases e.m.reacting with
  | nil => exact h
  | cons r reacting =>
    cases r with
    | invalid ev =>
      by_cases hwaiting : ({ e.m with reacting := reacting } : Machine).waiting = true
      · refine h.of_component (fun _ => true) ?_ rfl fun _ => .inr rfl
        simp only [Machine.reactTo, if_pos hwaiting]
      · refine h.of_component Frame.struck ?_ rfl fun _ => .inr rfl
        simp only [Machine.reactTo, if_neg hwaiting]
        exact hsame
    | flush ev => exact h.of_component Frame.struck hsame rfl fun _ => .inl rfl
    | report => exact h.of_component Frame.struck hsame rfl fun _ => .inl rfl
    | signal ev => exact h.of_component Frame.struck hsame rfl fun _ => .inl rfl

/-- An event keeps the invariant: it comes from a component that has not been freed. -/
lemma Inv.event (h : e.Inv) (hhandle : e.handle ≠ none) (ev : OmxEvent) :
    ({ e with m := e.m.step (.event ev) } : Encoder).Inv := by
  simp only [Machine.step]
  split_ifs
  · refine h.of_component Frame.struck (List.map_id _).symm ?_ fun hnone => absurd hnone hhandle
    change (e.m.vce.onCmdComplete ev).mOmxHandle = _
    unfold EventVce.onCmdComplete
    split_ifs <;> rfl
  · exact h

/-- A loss of the handle does not depend on the output. -/
lemma Lost.congr (h : e.Lost) {e' : Encoder} (hm : e'.m = e.m) (hrest : e'.rest = e.rest) :
    e'.Lost := by
  cases h with
  | none hnil hstate hfree => exact .none (hm ▸ hnil) (hm ▸ hstate) (hrest ▸ hfree)
  | idle fr hfr hidle hfree => exact .idle fr (hm ▸ hfr) (hm ▸ hidle) (hrest ▸ hfree)
  | ended fr hfr hover hsettled => exact .ended fr (hm ▸ hfr) (hm ▸ hover) (hrest ▸ hsettled)

/-- The callback for a filled buffer keeps the invariant. -/
lemma Inv.fill (h : e.Inv) (image : Image) : (e.step (.fill image)).Inv := by
  simp only [Encoder.step]
  split_ifs
  · exact ⟨h.rest, h.calls, fun hlost => (h.lost hlost).congr rfl rfl, fun _ => rfl, h.returned⟩
  · exact h

/-- So does its end. -/
lemma Inv.signal (h : e.Inv) : (e.step .signal).Inv := by
  simp only [Encoder.step]
  split_ifs
  · exact h
  · exact ⟨h.rest, h.calls, fun hlost => (h.lost hlost).congr rfl rfl, h.output, h.returned⟩

/-- A switch is running only within a call. -/
lemma eq_nil_of_calls {stack : List Frame} (hcalls : Calls [] stack) : stack = [] := by
  induction stack with
  | nil => rfl
  | cons fr frs ih =>
    cases frs with
    | nil =>
      obtain ⟨⟨checked, after, hrest⟩, -⟩ := hcalls
      cases hrest
    | cons fr' frs => cases ih hcalls.2.2

/-- A call begins. -/
lemma Inv.begin (h : e.Inv) (hrest : e.rest = []) {rest : List Stage}
    (hok : ∀ st ∈ rest, st.Ok) (hlost : e.handle = none → ∀ st ∈ rest, st.Free) :
    ({ e with rest := rest } : Encoder).Inv := by
  have hcalls := h.calls
  rw [hrest] at hcalls
  have hm := eq_nil_of_calls hcalls
  refine .of_stage hm hok (fun hnone => ⟨?_, hlost hnone⟩) h.output h.returned
  cases h.lost hnone with
  | none _ hstate => exact hstate
  | idle fr hm' => rw [hm] at hm'; cases hm'
  | ended fr hm' => rw [hm] at hm'; cases hm'

/-- **The step lemma.** A step under the condition keeps the invariant. -/
lemma Inv.step (h : e.Inv) {a : EncodeAction} (hlasting : e.Lasting a) : (e.step a).Inv := by
  cases a with
  | encode param exif =>
    simp only [Encoder.step]
    split_ifs with hrest
    · exact h.begin hrest (ok_encodeCode param exif) fun hnone => absurd hnone (hlasting hrest).1
    · exact h
  | freeEncodeData buf =>
    simp only [Encoder.step]
    split_ifs with hrest
    · exact h.begin hrest (fun st hst => (ok_freeEncodeDataCode buf st hst).1)
        fun _ st hst => (ok_freeEncodeDataCode buf st hst).2
    · exact h
  | tick b => exact h.tick hlasting.1
  | event ev =>
    simp only [Encoder.step]
    split_ifs with hhandle
    · exact h
    · exact h.event hhandle ev
  | react => exact h.react
  | fill image => exact h.fill image
  | signal => exact h.signal

end Encoder

end CameraHal.VceEncode
