import Gs702aHal.Lib.StepRun
import Gs702aHal.Camera.VceTeardown

set_option relaxedAutoImplicit false
set_option autoImplicit false

/-!
# Synchronous encoding

`OMXVce::processImageSync` gives an image to the encoder and waits for the output that
`onFillBufferDone` reports; `freeImageData` gives the output buffer back. The two share
`mImageProcessing`, `mFillBufferSyncAvilable` and `mOutputBuf` with the callback, which runs on the
component's thread and may come after the wait has timed out.

Every access to a shared field that another thread may come before or after is a step of its own,
so a run is an interleaving of the calls with the callbacks. Encoding calls come one after another.
A call that finds `mImageLock` taken, or `mImageProcessing` set, waits: its step changes nothing.

## Main definitions

* `CameraHal.SyncVce`, `CameraHal.SyncVce.step` — the encoder with its component, and its steps.
* `CameraHal.SyncVce.Sound` — images are not mixed up, the encoder does not wedge, and no output
  buffer is lost.
* `CameraHal.SyncVce.Careful` — the condition on a step.
* `CameraHal.SyncVce.WellFormed` — the invariant.

## Main results

* `CameraHal.SyncVce.WellFormed.step` — careful steps keep the invariant.
* `CameraHal.SyncVce.always_sound_iff` — a run is sound throughout exactly if its steps are careful.
-/

namespace CameraHal

open Status

/-- Where the call that holds `mImageLock` is; calls are numbered. -/
inductive SyncStage
  /-- No call holds it. -/
  | idle
  /-- The shared fields are reset, and the image is not yet with the component. -/
  | preparing (call : ℕ)
  /-- Waiting for `mFillBufferSyncAvilable`. -/
  | waiting (call : ℕ)
  /-- The wait is over, and the output has not been read. -/
  | collecting (call : ℕ)
  deriving DecidableEq, Repr

/-- What a call of `processImageSync` returned, and whose image the output buffer held then. -/
structure SyncReturn where
  call : ℕ
  ret : Status
  outbuf : Ptr
  offset : ℕ
  size : ℕ
  image : Option ℕ
  deriving DecidableEq

/-- An encoder and its component. -/
structure SyncVce where
  mComponentState : OMX_STATETYPE
  mSync : Bool
  /-- The headers of the input buffers, by buffer handle. -/
  mInputBufferMap : KeyedVector Ptr Ptr
  /-- The headers of the output buffers, by address. -/
  mOutputBufferMap : KeyedVector Ptr Ptr
  mImageProcessing : Bool
  mFillBufferSyncAvilable : Bool
  mOutputBuf : Ptr
  mOutputBufSize : ℕ
  mOutputBufOffset : ℕ
  stage : SyncStage
  /-- The callbacks that have written the output and not yet signalled it. -/
  signalling : ℕ
  /-- The number of calls so far that have reset the shared fields. -/
  calls : ℕ
  /-- The calls whose image the component has accepted and not answered. -/
  accepted : List ℕ
  /-- The output buffers that are with the component. -/
  withComponent : List Ptr
  /-- The call whose image an output buffer was filled for last. -/
  image : Ptr → Option ℕ
  /-- The output buffers that were returned and not yet freed. -/
  outstanding : List Ptr
  /-- What the calls have returned, the latest last. -/
  returned : List SyncReturn

namespace SyncVce

/-- The call at a stage returns. -/
def finish (s : SyncVce) (r : SyncReturn) : SyncVce :=
  { s with stage := .idle, returned := s.returned ++ [r] }

/-- The image is no longer being processed. -/
def endProcessing (s : SyncVce) : SyncVce := { s with mImageProcessing := false }

/-- A call resets the shared fields. -/
def beginCall (s : SyncVce) : SyncVce :=
  { s with
    mImageProcessing := true
    mOutputBuf := NULL
    mOutputBufSize := 0
    mOutputBufOffset := 0
    stage := .preparing s.calls
    calls := s.calls + 1 }

/-- `processImageSync` up to the reset of the shared fields. -/
def processImageSync (s : SyncVce) (buf : Ptr) : SyncVce :=
  if s.mComponentState ≠ .OMX_StateExecuting then s
  else if s.mSync = false then s
  else if s.stage ≠ .idle then s  -- waits for `mImageLock`
  else if s.mImageProcessing then s  -- waits on `mImageCond`
  else match s.mInputBufferMap.find? buf with
  | none => s  -- `valueFor` aborts the process
  | some pBufferHdr => if pBufferHdr = NULL then s else s.beginCall

/-- `mFillBufferSyncAvilable` is cleared and the image is offered to the component. -/
def emptyThisBuffer (s : SyncVce) (answer : OMX_ERRORTYPE) : SyncVce :=
  match s.stage with
  | .preparing k =>
    let s := { s with mFillBufferSyncAvilable := false }
    if answer = .OMX_ErrorNone then
      { s with stage := .waiting k, accepted := s.accepted ++ [k] }
    else s.finish ⟨k, omxToAndroidError answer, NULL, 0, 0, none⟩
  | _ => s

/-- The component fills an output buffer for an accepted image. -/
def fill (s : SyncVce) (call : ℕ) (out : Ptr) : SyncVce :=
  { s with
    accepted := s.accepted.erase call
    withComponent := s.withComponent.erase out
    image := Function.update s.image out (some call) }

/-- `onFillBufferDone` up to its signal. -/
def onFillBufferDone (s : SyncVce) (out : Ptr) (nOffset nFilledLen : ℕ) : SyncVce :=
  if s.mComponentState ≠ .OMX_StateExecuting then s
  else if s.mSync = false then s  -- the buffer is sent to the observer
  else
    { s with
      mOutputBuf := out
      mOutputBufSize := nFilledLen
      mOutputBufOffset := nOffset
      signalling := s.signalling + 1 }

/-- The component answers an accepted image with one of its output buffers. -/
def fillBufferDone (s : SyncVce) (call : ℕ) (out : Ptr) (nOffset nFilledLen : ℕ) : SyncVce :=
  if call ∈ s.accepted ∧ out ∈ s.withComponent then
    (s.fill call out).onFillBufferDone out nOffset nFilledLen
  else s

/-- The end of `onFillBufferDone`. -/
def signal (s : SyncVce) : SyncVce :=
  if s.signalling = 0 then s
  else { s with mFillBufferSyncAvilable := true, signalling := s.signalling - 1 }

/-- The wait ends with the output available. -/
def wake (s : SyncVce) : SyncVce :=
  match s.stage with
  | .waiting k => if s.mFillBufferSyncAvilable then { s with stage := .collecting k } else s
  | _ => s

/-- The wait times out. -/
def timeout (s : SyncVce) : SyncVce :=
  match s.stage with
  | .waiting k =>
    s.endProcessing.finish ⟨k, TIMED_OUT, NULL, 0, 0, none⟩
  | _ => s

/-- The output is read and returned. -/
def collect (s : SyncVce) : SyncVce :=
  match s.stage with
  | .collecting k =>
    { s with
      outstanding := if s.mOutputBuf = NULL then s.outstanding
        else s.outstanding ++ [s.mOutputBuf] }.finish
      ⟨k, NO_ERROR, s.mOutputBuf, s.mOutputBufOffset, s.mOutputBufSize, s.image s.mOutputBuf⟩
  | _ => s

/-- `cycleOutputBuffer`. -/
def cycleOutputBuffer (s : SyncVce) (outbuf : Ptr) (answer : OMX_ERRORTYPE) : SyncVce :=
  match s.mOutputBufferMap.find? outbuf with
  | none => s
  | some pBufferHdr =>
    if pBufferHdr = NULL then s
    else if answer = .OMX_ErrorNone then { s with withComponent := s.withComponent ++ [outbuf] }
    else s

/-- The client gives a result back. -/
def release (s : SyncVce) (buf : Ptr) : SyncVce :=
  { s with outstanding := s.outstanding.erase buf }

/-- `freeImageData`, with the answer of the component if the buffer is offered to it. -/
def freeImageData (s : SyncVce) (buf : Ptr) (answer : OMX_ERRORTYPE) : SyncVce :=
  if s.mComponentState ≠ .OMX_StateExecuting then s.release buf
  else if s.mSync = false then (s.cycleOutputBuffer buf answer).release buf
  else if s.stage ≠ .idle then s  -- waits for `mImageLock`
  else if s.mImageProcessing then
    ((s.cycleOutputBuffer buf answer).release buf).endProcessing
  else s.release buf

/-- The steps of the calls and of the component. -/
inductive Action
  | processImageSync (buf : Ptr)
  | emptyThisBuffer (answer : OMX_ERRORTYPE)
  | fillBufferDone (call : ℕ) (out : Ptr) (nOffset nFilledLen : ℕ)
  | signal
  | wake
  | timeout
  | collect
  | freeImageData (buf : Ptr) (answer : OMX_ERRORTYPE)

/-- One step. -/
def step (s : SyncVce) : Action → SyncVce
  | .processImageSync buf => s.processImageSync buf
  | .emptyThisBuffer answer => s.emptyThisBuffer answer
  | .fillBufferDone call out nOffset nFilledLen => s.fillBufferDone call out nOffset nFilledLen
  | .signal => s.signal
  | .wake => s.wake
  | .timeout => s.timeout
  | .collect => s.collect
  | .freeImageData buf answer => s.freeImageData buf answer

/-! ### Soundness -/

/-- The output buffer that was filled for the call in progress and that it has not returned. -/
def transit (s : SyncVce) : List Ptr :=
  match s.stage with
  | .waiting k | .collecting k =>
    if s.mOutputBuf ≠ NULL ∧ s.image s.mOutputBuf = some k then [s.mOutputBuf] else []
  | _ => []

/-- The three properties of synchronous encoding. -/
structure Sound (s : SyncVce) : Prop where
  /-- An output that was returned was filled for the call's own image. -/
  own : ∀ r ∈ s.returned, r.ret = NO_ERROR → r.outbuf ≠ NULL → r.image = some r.call
  /-- While `mImageProcessing` is set, a call is in progress or a result waits to be freed, so
  that the calls that wait on `mImageCond` do not wait for ever. -/
  live : s.mImageProcessing → s.stage ≠ .idle ∨ s.outstanding ≠ []
  /-- At most one result is out. -/
  single : s.outstanding.length ≤ 1
  /-- Every output buffer is with the component, or on its way to the caller, or the result. -/
  buffers : (s.withComponent ++ s.transit ++ s.outstanding).Perm s.mOutputBufferMap.keys

/-- The condition on a step: the component accepts an image, unless a result is out that will be
freed; it answers a call only while that call waits; a call times out only if it has not been
answered, and returns its output only if no other result is out; a result is freed while
`mImageProcessing` is set, and the component takes it back; and what else is freed is not an output
buffer that the component takes. -/
def Careful (s : SyncVce) : Action → Prop
  | .emptyThisBuffer answer =>
    (∃ k, s.stage = .preparing k) → s.outstanding = [] → answer = .OMX_ErrorNone
  | .fillBufferDone call out _ _ =>
    call ∈ s.accepted → out ∈ s.withComponent → s.stage = .waiting call
  | .timeout => ∀ k, s.stage = .waiting k → k ∈ s.accepted
  | .collect => (∃ k, s.stage = .collecting k) → s.outstanding = []
  | .freeImageData buf answer => s.stage = .idle →
    if buf ∈ s.outstanding then s.mImageProcessing ∧ answer = .OMX_ErrorNone
    else s.mImageProcessing → buf ∈ s.mOutputBufferMap.keys → answer ≠ .OMX_ErrorNone
  | _ => True

/-- An encoder in sync mode and Executing, with all its output buffers with the component. -/
structure Ready (s : SyncVce) : Prop where
  executing : s.mComponentState = .OMX_StateExecuting
  sync : s.mSync = true
  notProcessing : s.mImageProcessing = false
  idle : s.stage = .idle
  signalling : s.signalling = 0
  accepted : s.accepted = []
  outstanding : s.outstanding = []
  returned : s.returned = []
  withComponent : s.withComponent.Perm s.mOutputBufferMap.keys
  /-- Output buffers have an address and a header. -/
  headers : ∀ {out pBufferHdr}, s.mOutputBufferMap.find? out = some pBufferHdr →
    out ≠ NULL ∧ pBufferHdr ≠ NULL

/-- The output of a call has been written. -/
structure Answered (s : SyncVce) (k : ℕ) : Prop where
  notAccepted : k ∉ s.accepted
  ne_null : s.mOutputBuf ≠ NULL
  image : s.image s.mOutputBuf = some k

/-- The output of a call has not been written, and no callback is about to signal. -/
structure Unanswered (s : SyncVce) : Prop where
  mOutputBuf : s.mOutputBuf = NULL
  signalling : s.signalling = 0

/-- What holds at each stage of a call. -/
def StageOk (s : SyncVce) : Prop :=
  match s.stage with
  | .idle => s.signalling = 0
  | .preparing k => k < s.calls ∧ k ∉ s.accepted ∧ s.Unanswered
  | .waiting k => k < s.calls ∧
    (k ∈ s.accepted ∧ s.Unanswered ∧ s.mFillBufferSyncAvilable = false ∨
      s.Answered k ∧ s.signalling = if s.mFillBufferSyncAvilable then 0 else 1)
  | .collecting k => k < s.calls ∧ s.Answered k ∧ s.signalling = 0

/-- The invariant of the runs of careful steps. -/
structure WellFormed (s : SyncVce) : Prop where
  executing : s.mComponentState = .OMX_StateExecuting
  sync : s.mSync = true
  headers : ∀ {out pBufferHdr}, s.mOutputBufferMap.find? out = some pBufferHdr →
    out ≠ NULL ∧ pBufferHdr ≠ NULL
  sound : Sound s
  stageOk : s.StageOk
  busy : s.stage ≠ .idle → s.mImageProcessing
  accepted_lt : ∀ k ∈ s.accepted, k < s.calls
  accepted_nodup : s.accepted.Nodup

/-- An encoder that is ready is well formed. -/
lemma Ready.wellFormed {s : SyncVce} (h : Ready s) : WellFormed s where
  executing := h.executing
  sync := h.sync
  headers := h.headers
  sound := by
    refine ⟨by simp [h.returned], by simp [h.notProcessing], by simp [h.outstanding], ?_⟩
    simpa [transit, h.idle, h.outstanding] using h.withComponent
  stageOk := by
    rw [StageOk, h.idle]
    exact h.signalling
  busy := fun hstage => absurd h.idle hstage
  accepted_lt := by simp [h.accepted]
  accepted_nodup := by simp [h.accepted]

/-- Buffers go missing if one is counted too little. -/
lemma Sound.length {s : SyncVce} (h : Sound s) :
    s.withComponent.length + s.transit.length + s.outstanding.length =
      s.mOutputBufferMap.keys.length := by
  have hlen := h.buffers.length_eq
  rwa [List.length_append, List.length_append] at hlen

namespace WellFormed

variable {s : SyncVce}

section Stages

variable (h : WellFormed s) {k : ℕ}

include h

/-- No callback is about to signal while no call is in progress. -/
lemma idle (hstage : s.stage = .idle) : s.signalling = 0 ∧ s.transit = [] := by
  have hok := h.stageOk
  rw [StageOk, hstage] at hok
  exact ⟨hok, by rw [transit, hstage]⟩

/-- A call that has reset the shared fields. -/
lemma preparing (hstage : s.stage = .preparing k) :
    k < s.calls ∧ k ∉ s.accepted ∧ s.Unanswered ∧ s.transit = [] := by
  have hok := h.stageOk
  rw [StageOk, hstage] at hok
  exact ⟨hok.1, hok.2.1, hok.2.2, by rw [transit, hstage]⟩

/-- A call that waits has been answered or not. -/
lemma waiting (hstage : s.stage = .waiting k) :
    k < s.calls ∧
      (k ∈ s.accepted ∧ s.Unanswered ∧ s.mFillBufferSyncAvilable = false ∧ s.transit = [] ∨
        s.Answered k ∧ (s.signalling = if s.mFillBufferSyncAvilable then 0 else 1) ∧
          s.transit = [s.mOutputBuf]) := by
  have hok := h.stageOk
  rw [StageOk, hstage] at hok
  obtain ⟨hlt, ⟨hacc, hunanswered, havail⟩ | ⟨hanswered, hcount⟩⟩ := hok
  · exact ⟨hlt, Or.inl ⟨hacc, hunanswered, havail, by simp [transit, hstage, hunanswered.1]⟩⟩
  · refine ⟨hlt, Or.inr ⟨hanswered, hcount, ?_⟩⟩
    simp [transit, hstage, hanswered.ne_null, hanswered.image]

/-- A call whose wait is over has been answered. -/
lemma collecting (hstage : s.stage = .collecting k) :
    k < s.calls ∧ s.Answered k ∧ s.signalling = 0 ∧ s.transit = [s.mOutputBuf] := by
  have hok := h.stageOk
  rw [StageOk, hstage] at hok
  refine ⟨hok.1, hok.2.1, hok.2.2, ?_⟩
  simp [transit, hstage, hok.2.1.ne_null, hok.2.1.image]

/-- An output buffer has an address and a header. -/
lemma exists_header {out : Ptr} (hkey : out ∈ s.mOutputBufferMap.keys) :
    ∃ pBufferHdr, s.mOutputBufferMap.find? out = some pBufferHdr ∧ out ≠ NULL ∧
      pBufferHdr ≠ NULL := by
  obtain ⟨pBufferHdr, hfind⟩ := Option.isSome_iff_exists.mp ((KeyedVector.mem_keys _ _).mp hkey)
  exact ⟨pBufferHdr, hfind, h.headers hfind⟩

/-- `cycleOutputBuffer` offers an output buffer to the component. -/
lemma cycleOutputBuffer_of_mem {buf : Ptr} (hkey : buf ∈ s.mOutputBufferMap.keys)
    (answer : OMX_ERRORTYPE) :
    s.cycleOutputBuffer buf answer =
      if answer = .OMX_ErrorNone then { s with withComponent := s.withComponent ++ [buf] }
      else s := by
  obtain ⟨pBufferHdr, hfind, -, hne⟩ := h.exists_header hkey
  rw [cycleOutputBuffer, hfind]
  exact if_neg hne

end Stages

/-- `cycleOutputBuffer` does nothing for other addresses. -/
lemma cycleOutputBuffer_of_notMem {buf : Ptr} (hkey : buf ∉ s.mOutputBufferMap.keys)
    (answer : OMX_ERRORTYPE) : s.cycleOutputBuffer buf answer = s := by
  rw [KeyedVector.mem_keys, Option.not_isSome_iff_eq_none] at hkey
  rw [cycleOutputBuffer, hkey]

/-- What is no result is given back without effect. -/
lemma release_of_notMem {buf : Ptr} (h : buf ∉ s.outstanding) : s.release buf = s := by
  rw [release, List.erase_of_not_mem h]

/-! ### Careful steps keep the invariant -/

/-- A call resets the shared fields. -/
lemma beginCall (h : WellFormed s) (hidle : s.stage = .idle) : WellFormed s.beginCall := by
  obtain ⟨hsig, htransit⟩ := h.idle hidle
  have hbuf := h.sound.buffers
  rw [htransit] at hbuf
  exact
    { executing := h.executing
      sync := h.sync
      headers := h.headers
      sound := ⟨h.sound.own, fun _ => Or.inl (by simp [SyncVce.beginCall]), h.sound.single, hbuf⟩
      stageOk := ⟨Nat.lt_succ_self _, fun hmem => (h.accepted_lt _ hmem).false, rfl, hsig⟩
      busy := fun _ => rfl
      accepted_lt := fun k hk => (h.accepted_lt k hk).trans (Nat.lt_succ_self _)
      accepted_nodup := h.accepted_nodup }

/-- `processImageSync` up to the reset of the shared fields. -/
lemma processImageSync (h : WellFormed s) (buf : Ptr) : WellFormed (s.processImageSync buf) := by
  unfold SyncVce.processImageSync
  split_ifs with h₁ h₂ h₃ h₄
  · exact h
  · exact h
  · exact h
  · exact h
  · cases s.mInputBufferMap.find? buf with
    | none => exact h
    | some pBufferHdr =>
      dsimp only
      split_ifs
      · exact h
      · exact h.beginCall (not_not.mp h₃)

/-- The component accepts an image, or a result is out. -/
lemma emptyThisBuffer (h : WellFormed s) {answer : OMX_ERRORTYPE}
    (hc : s.Careful (.emptyThisBuffer answer)) : WellFormed (s.emptyThisBuffer answer) := by
  unfold SyncVce.emptyThisBuffer
  cases hstage : s.stage with
  | idle => exact h
  | waiting k => exact h
  | collecting k => exact h
  | preparing k =>
    obtain ⟨hlt, hnot, hunanswered, htransit⟩ := h.preparing hstage
    have hbuf := h.sound.buffers
    rw [htransit] at hbuf
    dsimp only
    split_ifs with hanswer
    · exact
        { executing := h.executing
          sync := h.sync
          headers := h.headers
          sound := ⟨h.sound.own, fun _ => Or.inl (by simp), h.sound.single,
            by simpa [transit, hunanswered.mOutputBuf] using hbuf⟩
          stageOk := ⟨hlt, Or.inl ⟨by simp, ⟨hunanswered.1, hunanswered.2⟩, rfl⟩⟩
          busy := fun _ => h.busy (by simp [hstage])
          accepted_lt := fun j hj => by
            rcases List.mem_append.mp hj with hj | hj
            · exact h.accepted_lt j hj
            · exact List.mem_singleton.mp hj ▸ hlt
          accepted_nodup := List.nodup_append'.mpr ⟨h.accepted_nodup, List.nodup_singleton k,
            fun j hj hj' => hnot (List.mem_singleton.mp hj' ▸ hj)⟩ }
    · have hout : s.outstanding ≠ [] := fun hout => hanswer (hc ⟨k, hstage⟩ hout)
      exact
        { executing := h.executing
          sync := h.sync
          headers := h.headers
          sound := by
            refine ⟨fun r hr hret => ?_, fun _ => Or.inr hout, h.sound.single, hbuf⟩
            rcases List.mem_append.mp hr with hr | hr
            · exact h.sound.own r hr hret
            · obtain rfl := List.mem_singleton.mp hr
              exact fun hne => absurd rfl hne
          stageOk := hunanswered.signalling
          busy := fun hne => absurd rfl hne
          accepted_lt := h.accepted_lt
          accepted_nodup := h.accepted_nodup }

/-- A callback for the call that waits. -/
lemma fillBufferDone (h : WellFormed s) {call : ℕ} {out : Ptr} {nOffset nFilledLen : ℕ}
    (hc : s.Careful (.fillBufferDone call out nOffset nFilledLen)) :
    WellFormed (s.fillBufferDone call out nOffset nFilledLen) := by
  unfold SyncVce.fillBufferDone
  split_ifs with hguard
  · obtain ⟨hacc, hwith⟩ := hguard
    have hstage := hc hacc hwith
    have hbuf := h.sound.buffers
    obtain ⟨-, -, hnull, -⟩ := h.exists_header
      (hbuf.subset (List.mem_append_left _ (List.mem_append_left _ hwith)))
    obtain ⟨hlt, ⟨-, hunanswered, havail, htransit⟩ | ⟨hanswered, -⟩⟩ := h.waiting hstage
    · rw [htransit] at hbuf
      have hperm : (s.withComponent.erase out ++ [out] ++ s.outstanding).Perm
          s.mOutputBufferMap.keys := by
        refine List.Perm.trans (List.Perm.append_right _ ?_) hbuf
        simpa using List.perm_append_comm.trans (List.perm_cons_erase hwith).symm
      have hnot : call ∉ s.accepted.erase call := h.accepted_nodup.not_mem_erase
      rw [onFillBufferDone, if_neg (by simpa [fill] using h.executing),
        if_neg (by simp [fill, h.sync])]
      exact
        { executing := h.executing
          sync := h.sync
          headers := h.headers
          sound := ⟨h.sound.own, fun _ => Or.inl (by simp [fill, hstage]), h.sound.single,
            by simpa [transit, fill, hstage, hnull] using hperm⟩
          stageOk := by
            simp only [StageOk, fill, hstage]
            refine ⟨hlt, Or.inr ⟨⟨hnot, hnull, Function.update_self ..⟩, ?_⟩⟩
            simp [hunanswered.signalling, havail]
          busy := h.busy
          accepted_lt := fun j hj => h.accepted_lt j (List.mem_of_mem_erase hj)
          accepted_nodup := h.accepted_nodup.erase call }
    · exact absurd hacc hanswered.notAccepted
  · exact h

/-- The end of a callback. -/
lemma signal (h : WellFormed s) : WellFormed s.signal := by
  unfold SyncVce.signal
  split_ifs with hsig
  · exact h
  · exact
      { executing := h.executing
        sync := h.sync
        headers := h.headers
        sound := ⟨h.sound.own, h.sound.live, h.sound.single, h.sound.buffers⟩
        stageOk := by
          unfold StageOk
          cases hstage : s.stage with
          | idle => exact absurd (h.idle hstage).1 hsig
          | preparing k => exact absurd (h.preparing hstage).2.2.1.signalling hsig
          | collecting k => exact absurd (h.collecting hstage).2.2.1 hsig
          | waiting k =>
            obtain ⟨hlt, ⟨-, hunanswered, -⟩ | ⟨hanswered, hcount, -⟩⟩ := h.waiting hstage
            · exact absurd hunanswered.signalling hsig
            · refine ⟨hlt, Or.inr ⟨⟨hanswered.1, hanswered.2, hanswered.3⟩, ?_⟩⟩
              simp only [hcount, if_true]
              split_ifs <;> rfl
        busy := h.busy
        accepted_lt := h.accepted_lt
        accepted_nodup := h.accepted_nodup }

/-- The wait ends. -/
lemma wake (h : WellFormed s) : WellFormed s.wake := by
  unfold SyncVce.wake
  cases hstage : s.stage with
  | idle => exact h
  | preparing k => exact h
  | collecting k => exact h
  | waiting k =>
    dsimp only
    split_ifs with havail
    · have hbuf := h.sound.buffers
      rw [transit, hstage] at hbuf
      obtain ⟨hlt, ⟨-, -, hfalse, -⟩ | ⟨hanswered, hcount, -⟩⟩ := h.waiting hstage
      · exact absurd havail (by simp [hfalse])
      · rw [if_pos havail] at hcount
        exact
          { executing := h.executing
            sync := h.sync
            headers := h.headers
            sound := ⟨h.sound.own, fun _ => Or.inl (by simp), h.sound.single, hbuf⟩
            stageOk := ⟨hlt, ⟨hanswered.1, hanswered.2, hanswered.3⟩, hcount⟩
            busy := fun _ => h.busy (by simp [hstage])
            accepted_lt := h.accepted_lt
            accepted_nodup := h.accepted_nodup }
    · exact h

/-- A call that has not been answered times out. -/
lemma timeout (h : WellFormed s) (hc : s.Careful .timeout) : WellFormed s.timeout := by
  unfold SyncVce.timeout
  cases hstage : s.stage with
  | idle => exact h
  | preparing k => exact h
  | collecting k => exact h
  | waiting k =>
    have hbuf := h.sound.buffers
    obtain ⟨hlt, ⟨-, hunanswered, -, htransit⟩ | ⟨hanswered, -⟩⟩ := h.waiting hstage
    · rw [htransit] at hbuf
      exact
        { executing := h.executing
          sync := h.sync
          headers := h.headers
          sound := by
            refine ⟨fun r hr hret => ?_, fun hp => absurd hp (by simp [finish, endProcessing]),
              h.sound.single, hbuf⟩
            rcases List.mem_append.mp hr with hr | hr
            · exact h.sound.own r hr hret
            · obtain rfl := List.mem_singleton.mp hr
              exact absurd hret (show TIMED_OUT ≠ NO_ERROR by decide)
          stageOk := hunanswered.signalling
          busy := fun hne => absurd rfl hne
          accepted_lt := h.accepted_lt
          accepted_nodup := h.accepted_nodup }
    · exact absurd (hc k hstage) hanswered.notAccepted

/-- The output is returned to the caller. -/
lemma collect (h : WellFormed s) (hc : s.Careful .collect) : WellFormed s.collect := by
  unfold SyncVce.collect
  cases hstage : s.stage with
  | idle => exact h
  | preparing k => exact h
  | waiting k => exact h
  | collecting k =>
    have hout := hc ⟨k, hstage⟩
    obtain ⟨-, hanswered, hsig, htransit⟩ := h.collecting hstage
    have hbuf := h.sound.buffers
    rw [htransit] at hbuf
    have hnull := hanswered.ne_null
    exact
      { executing := h.executing
        sync := h.sync
        headers := h.headers
        sound := by
          refine ⟨fun r hr hret hne => ?_, fun _ => Or.inr (by simp [finish, hnull]),
            by simp [finish, hnull, hout], ?_⟩
          · rcases List.mem_append.mp hr with hr | hr
            · exact h.sound.own r hr hret hne
            · obtain rfl := List.mem_singleton.mp hr
              exact hanswered.image
          · simpa [transit, finish, hnull, hout] using hbuf
        stageOk := hsig
        busy := fun hne => absurd rfl hne
        accepted_lt := h.accepted_lt
        accepted_nodup := h.accepted_nodup }

/-- Steps that leave the stage idle and the output fields alone. -/
lemma of_idle (h : WellFormed s) (hidle : s.stage = .idle) {withComponent outstanding : List Ptr}
    {processing : Bool} (hlive : processing → outstanding ≠ []) (hsingle : outstanding.length ≤ 1)
    (hbuf : (withComponent ++ outstanding).Perm s.mOutputBufferMap.keys) :
    WellFormed { s with
      withComponent := withComponent, outstanding := outstanding,
      mImageProcessing := processing } where
  executing := h.executing
  sync := h.sync
  headers := h.headers
  sound := ⟨h.sound.own, fun hp => Or.inr (hlive hp), hsingle, by simpa [transit, hidle] using hbuf⟩
  stageOk := by
    simp only [StageOk, hidle]
    exact (h.idle hidle).1
  busy := fun hne => absurd hidle hne
  accepted_lt := h.accepted_lt
  accepted_nodup := h.accepted_nodup

/-- What is freed is the result, or nothing that matters. -/
lemma freeImageData (h : WellFormed s) {buf : Ptr} {answer : OMX_ERRORTYPE}
    (hc : s.Careful (.freeImageData buf answer)) : WellFormed (s.freeImageData buf answer) := by
  rw [SyncVce.freeImageData, if_neg (not_not.mpr h.executing), if_neg (by simp [h.sync])]
  split_ifs with hstage hproc
  · exact h
  · have hidle : s.stage = .idle := not_not.mp hstage
    have hfree := hc hidle
    have hbuf := h.sound.buffers
    rw [(h.idle hidle).2, List.append_nil] at hbuf
    by_cases hmem : buf ∈ s.outstanding
    · rw [if_pos hmem] at hfree
      obtain ⟨-, rfl⟩ := hfree
      have hsingle : (s.outstanding.erase buf).length ≤ 1 :=
        List.length_erase_le.trans h.sound.single
      rw [h.cycleOutputBuffer_of_mem (hbuf.subset (List.mem_append_right _ hmem)), if_pos rfl]
      have hperm : (s.withComponent ++ [buf] ++ s.outstanding.erase buf).Perm
          s.mOutputBufferMap.keys := by
        refine List.Perm.trans ?_ hbuf
        rw [List.append_assoc]
        exact List.Perm.append_left _ (List.perm_cons_erase hmem).symm
      exact h.of_idle hidle (by simp) hsingle hperm
    · rw [if_neg hmem] at hfree
      have hcycle : s.cycleOutputBuffer buf answer = s := by
        by_cases hkey : buf ∈ s.mOutputBufferMap.keys
        · rw [h.cycleOutputBuffer_of_mem hkey, if_neg (hfree hproc hkey)]
        · exact cycleOutputBuffer_of_notMem hkey answer
      rw [hcycle, release_of_notMem hmem]
      exact h.of_idle hidle (by simp) h.sound.single hbuf
  · have hidle : s.stage = .idle := not_not.mp hstage
    have hfree := hc hidle
    have hmem : buf ∉ s.outstanding := by
      intro hmem
      rw [if_pos hmem] at hfree
      exact hproc hfree.1
    rw [release_of_notMem hmem]
    exact h

/-- **Careful steps keep the invariant.** -/
theorem step (h : WellFormed s) {a : Action} (hc : s.Careful a) : WellFormed (s.step a) := by
  cases a with
  | processImageSync buf => exact h.processImageSync buf
  | emptyThisBuffer answer => exact h.emptyThisBuffer hc
  | fillBufferDone call out nOffset nFilledLen => exact h.fillBufferDone hc
  | signal => exact h.signal
  | wake => exact h.wake
  | timeout => exact h.timeout hc
  | collect => exact h.collect hc
  | freeImageData buf answer => exact h.freeImageData hc

/-! ### Other steps break soundness -/

/-- An image that the component rejects leaves `mImageProcessing` set. -/
lemma careful_emptyThisBuffer (h : WellFormed s) {answer : OMX_ERRORTYPE}
    (hs : Sound (s.emptyThisBuffer answer)) : s.Careful (.emptyThisBuffer answer) := by
  rintro ⟨k, hstage⟩ hout
  by_contra hanswer
  rw [SyncVce.emptyThisBuffer, hstage] at hs
  simp only [if_neg hanswer] at hs
  have hproc : s.mImageProcessing := h.busy (by simp [hstage])
  rcases hs.live hproc with hidle | hne
  · exact hidle rfl
  · exact hne hout

/-- An answer to a call that does not wait for it takes a buffer from the component. -/
lemma careful_fillBufferDone (h : WellFormed s) {call : ℕ} {out : Ptr} {nOffset nFilledLen : ℕ}
    (hs : Sound (s.fillBufferDone call out nOffset nFilledLen)) :
    s.Careful (.fillBufferDone call out nOffset nFilledLen) := by
  intro hacc hwith
  by_contra hstage
  have hbefore := h.sound.length
  have hafter := hs.length
  rw [SyncVce.fillBufferDone, if_pos ⟨hacc, hwith⟩, onFillBufferDone,
    if_neg (by simpa [fill] using h.executing), if_neg (by simp [fill, h.sync])] at hafter
  have htransit : transit
      { s.fill call out with
        mOutputBuf := out
        mOutputBufSize := nFilledLen
        mOutputBufOffset := nOffset
        signalling := (s.fill call out).signalling + 1 } = [] := by
    simp only [transit, fill, Function.update_self]
    cases hk : s.stage with
    | idle => rfl
    | preparing k => rfl
    | waiting k =>
      have hne : call ≠ k := by
        rintro rfl
        exact hstage hk
      simp [hne]
    | collecting k =>
      have hne : call ≠ k := by
        rintro rfl
        exact (h.collecting hk).2.1.notAccepted hacc
      simp [hne]
  rw [htransit] at hafter
  simp only [fill, List.length_erase_of_mem hwith, List.length_nil] at hafter
  have hpos := List.length_pos_of_mem hwith
  omega

/-- A call that times out after it has been answered loses the output buffer. -/
lemma careful_timeout (h : WellFormed s) (hs : Sound s.timeout) : s.Careful .timeout := by
  intro k hstage
  by_contra hacc
  obtain ⟨-, ⟨hmem, -⟩ | ⟨-, -, htransit⟩⟩ := h.waiting hstage
  · exact hacc hmem
  · have hbefore := h.sound.length
    have hafter := hs.length
    rw [htransit] at hbefore
    rw [SyncVce.timeout, hstage] at hafter
    simp only [transit, finish, endProcessing, List.length_nil, List.length_singleton]
      at hbefore hafter
    omega

/-- A second result. -/
lemma careful_collect (h : WellFormed s) (hs : Sound s.collect) : s.Careful .collect := by
  rintro ⟨k, hstage⟩
  obtain ⟨-, hanswered, -⟩ := h.collecting hstage
  have hsingle := hs.single
  rw [SyncVce.collect, hstage] at hsingle
  simp only [finish, if_neg hanswered.ne_null, List.length_append, List.length_singleton]
    at hsingle
  exact List.length_eq_zero_iff.mp (by omega)

/-- A result that the component does not get back, or a buffer that it gets twice. -/
lemma careful_freeImageData (h : WellFormed s) {buf : Ptr} {answer : OMX_ERRORTYPE}
    (hs : Sound (s.freeImageData buf answer)) : s.Careful (.freeImageData buf answer) := by
  intro hidle
  have hbefore := h.sound.length
  have hafter := hs.length
  rw [(h.idle hidle).2, List.length_nil, Nat.add_zero] at hbefore
  rw [SyncVce.freeImageData, if_neg (not_not.mpr h.executing), if_neg (by simp [h.sync]),
    if_neg (not_not.mpr hidle)] at hafter
  split_ifs with hmem
  · have hlen := List.length_erase_of_mem hmem
    have hpos := List.length_pos_of_mem hmem
    have hkey : buf ∈ s.mOutputBufferMap.keys :=
      h.sound.buffers.subset (List.mem_append_right _ hmem)
    rw [h.cycleOutputBuffer_of_mem hkey] at hafter
    by_cases hproc : s.mImageProcessing
    · refine ⟨hproc, ?_⟩
      by_contra hanswer
      rw [if_pos hproc, if_neg hanswer] at hafter
      simp only [transit, release, endProcessing, hidle, hlen, List.length_nil] at hafter
      omega
    · rw [if_neg hproc] at hafter
      simp only [transit, release, hidle, hlen, List.length_nil] at hafter
      omega
  · intro hproc hkey hanswer
    rw [if_pos hproc, h.cycleOutputBuffer_of_mem hkey, if_pos hanswer] at hafter
    simp only [transit, release, endProcessing, hidle, List.erase_of_not_mem hmem,
      List.length_append, List.length_singleton, List.length_nil] at hafter
    omega

end WellFormed

/-- **Synchronous encoding, exactly.** In a run from an encoder that is ready, images are never
mixed up, the encoder does not wedge and no output buffer is lost if and only if every step of the
run is careful.

**Proof sketch.** The invariant says what each stage of a call means for the shared fields: a
callback that is still to signal belongs to the call that waits, and the output buffer is the one
that was filled for it. Careful steps keep it. Any other step leaves `mImageProcessing` set with
nobody to reset it, or changes the number of buffers that are accounted for. -/
theorem always_sound_iff {s : SyncVce} (h : Ready s) (run : List Action) :
    StepRun.Always step Sound s run ↔ StepRun.Along step Careful s run := by
  refine StepRun.always_iff_along_of_invariant (I := WellFormed) (fun s hs => hs.sound)
    (fun s a hs hc => hs.step hc) (fun s a hs hsound => ?_) h.wellFormed
  cases a with
  | processImageSync buf => trivial
  | emptyThisBuffer answer => exact hs.careful_emptyThisBuffer hsound
  | fillBufferDone call out nOffset nFilledLen => exact hs.careful_fillBufferDone hsound
  | signal => trivial
  | wake => trivial
  | timeout => exact hs.careful_timeout hsound
  | collect => exact hs.careful_collect hsound
  | freeImageData buf answer => exact hs.careful_freeImageData hsound

/-- An encoder with one input buffer and two output buffers. -/
def encoder : SyncVce where
  mComponentState := .OMX_StateExecuting
  mSync := true
  mInputBufferMap := KeyedVector.add ∅ 16 17
  mOutputBufferMap := KeyedVector.addAll ∅ [(32, 33), (48, 49)]
  mImageProcessing := false
  mFillBufferSyncAvilable := false
  mOutputBuf := NULL
  mOutputBufSize := 0
  mOutputBufOffset := 0
  stage := .idle
  signalling := 0
  calls := 0
  accepted := []
  withComponent := [32, 48]
  image := fun _ => none
  outstanding := []
  returned := []

/-- The encoder is ready. -/
lemma ready_encoder : Ready encoder where
  executing := rfl
  sync := rfl
  notProcessing := rfl
  idle := rfl
  signalling := rfl
  accepted := rfl
  outstanding := rfl
  returned := rfl
  withComponent := List.Perm.refl _
  headers := by
    intro out pBufferHdr h
    rcases KeyedVector.mem_of_find?_addAll h with hmem | hnone
    · have hpair : (out, pBufferHdr) = (32, 33) ∨ (out, pBufferHdr) = (48, 49) := by
        simpa using hmem
      rcases hpair with hpair | hpair
      all_goals
        obtain ⟨rfl, rfl⟩ := Prod.mk.inj hpair
        decide
    · exact absurd hnone (by simp)

/-- An image that times out without an answer, and one that is encoded and freed. -/
theorem always_sound_encoder :
    StepRun.Always step Sound encoder
      [.processImageSync 16, .emptyThisBuffer .OMX_ErrorNone, .timeout, .processImageSync 16,
        .emptyThisBuffer .OMX_ErrorNone, .fillBufferDone 1 32 0 100, .signal, .wake, .collect,
        .freeImageData 32 .OMX_ErrorNone] :=
  (always_sound_iff ready_encoder _).mpr
    ⟨trivial, fun _ _ => rfl, fun k hk => by cases hk; decide, trivial, fun _ _ => rfl,
      fun _ _ => rfl, trivial, trivial, fun _ => rfl, fun _ => by decide, trivial⟩

/-- An image that times out and is answered during the next call: that call returns the output of
the earlier image. -/
theorem not_always_sound_late :
    ¬ ∀ (s : SyncVce) (run : List Action), Ready s → StepRun.Always step Sound s run := by
  intro hall
  have hsound := (hall encoder
    [.processImageSync 16, .emptyThisBuffer .OMX_ErrorNone, .timeout, .processImageSync 16,
      .emptyThisBuffer .OMX_ErrorNone, .fillBufferDone 0 32 0 100, .signal, .wake, .collect]
    ready_encoder).last
  have hown := hsound.own ⟨1, NO_ERROR, 32, 0, 100, some 0⟩ (by decide) rfl (by decide)
  exact absurd hown (by decide)

end SyncVce

end CameraHal
