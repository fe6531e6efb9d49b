import Gs702aHal.Lib.StepRun
import Gs702aHal.Camera.AdapterState
import Gs702aHal.Camera.VceTeardown

set_option relaxedAutoImplicit false
set_option autoImplicit false

/-!
# Digital zoom

The zoom of the camera adapter is an index into the table `ZOOM_STEPS`. `setParametersZoom` sets it
at once; a smooth zoom sets a target, which `advanceZoom` approaches by one step with every preview
frame. `stopSmoothZoom` leaves a request (`mReturnZoomStatus`) and a direction (`mZoomInc`) behind:
the next `advanceZoom` makes one more step in that direction and stays there.

The functions hold `mZoomLock`, so that each of them is a step. The adapter's state changes between
them, in any way that `setState`, `commitState` and `rollbackState` allow.

## Main definitions

* `CameraHal.OMXZoom` — what the zoom functions read and write.
* `CameraHal.OMXZoom.step` — the functions as steps.
* `CameraHal.OMXZoom.InTable` — both indices, and all that was read, are inside of the table.
* `CameraHal.OMXZoom.Careful` — the condition on a step.

## Main results

* `CameraHal.OMXZoom.always_inTable_iff` — the runs in which the indices stay inside of the table.
* `CameraHal.OMXZoom.careful_of_gentle` — a run that sets no zoom while a stop is pending is one of
  them.
-/

namespace CameraHal

open Status AdapterState

/-- The ports that `setPortZoom` tells apart: `mPrevPortIndex`, `mImagePortIndex`, any other. -/
inductive ZoomPort
  | preview
  | image
  | other
  deriving DecidableEq, Repr

/-- The parameters of a port that the zoom reads and writes. -/
structure ZoomPortParameters where
  mWidth : BitVec 32
  mHeight : BitVec 32
  mCropWidth : BitVec 32
  mCropHeight : BitVec 32
  mZoomXOff : BitVec 32
  mZoomYOff : BitVec 32
  mZoomWidth : BitVec 32
  mZoomHeight : BitVec 32

/-- What the zoom functions read and write. -/
structure OMXZoom where
  mCurrentZoomIdx : ℤ
  mTargetZoomIdx : ℤ
  mPreviousZoomIndx : ℤ
  mZoomParameterIdx : ℤ
  mZoomInc : ℤ
  mReturnZoomStatus : Bool
  mZoomUpdating : Bool
  mZoomUpdate : Bool
  mAdapterState : AdapterState
  mNextState : AdapterState
  mComponentState : OMX_STATETYPE
  mCameraPortParams : ZoomPort → ZoomPortParameters
  /-- What a reading of the table finds outside of it. -/
  around : ℤ → BitVec 32
  /-- The indices at which the table was read so far. -/
  reads : List ℤ
  /-- The calls of `notifyZoomSubscribers` so far. -/
  notified : List (ℤ × Bool)

/-- `SIZE_ALIGN_DOWN_16`. -/
def SIZE_ALIGN_DOWN_16 (s : BitVec 32) : BitVec 32 := s &&& ~~~15#32

/-- A port with a zoomed size. -/
def ZoomPortParameters.zoomTo (cap : ZoomPortParameters) (width height : BitVec 32) :
    ZoomPortParameters :=
  { cap with
    mZoomWidth := width
    mZoomHeight := height
    mZoomXOff := SIZE_ALIGN_DOWN_16 ((cap.mWidth - width) >>> 1)
    mZoomYOff := SIZE_ALIGN_DOWN_16 ((cap.mHeight - height) >>> 1) }

namespace OMXZoom

/-- `ZOOM_STEPS`. -/
def ZOOM_STEPS : List (BitVec 32) :=
  [65536, 68157, 70124, 72745,
    75366, 77988, 80609, 83231,
    86508, 89784, 92406, 95683,
    99615, 102892, 106168, 110100,
    114033, 117965, 122552, 126484,
    131072, 135660, 140247, 145490,
    150733, 155976, 161219, 167117,
    173015, 178913, 185467, 192020,
    198574, 205783, 212992, 220201,
    228065, 236585, 244449, 252969,
    262144]

/-- `ZOOM_STAGES`. -/
def ZOOM_STAGES : ℤ := ZOOM_STEPS.length

/-- `CROP_WIDTH_MIN`. -/
def CROP_WIDTH_MIN : BitVec 32 := 128
/-- `CROP_HEIGHT_MIN`. -/
def CROP_HEIGHT_MIN : BitVec 32 := 96

/-- An index of the table. -/
def InRange (index : ℤ) : Prop := 0 ≤ index ∧ index < ZOOM_STAGES

instance (index : ℤ) : Decidable (InRange index) := inferInstanceAs (Decidable (_ ∧ _))

/-- What `ZOOM_STEPS[index]` yields. -/
def zoomStep (s : OMXZoom) (index : ℤ) : BitVec 32 :=
  if InRange index then ZOOM_STEPS.getD index.toNat 0 else s.around index

/-- A size divided by a step of the table, not below the smallest crop. -/
def zoomedSize (crop step min : BitVec 32) : BitVec 32 :=
  let size := SIZE_ALIGN_DOWN_16 ((crop <<< 16) / step)
  if size < min then min else size

/-! ### The functions -/

/-- The parameters of a port are replaced. -/
def setPort (s : OMXZoom) (port : ZoomPort) (cap : ZoomPortParameters) : OMXZoom :=
  { s with mCameraPortParams := Function.update s.mCameraPortParams port cap }

/-- `setPortZoom`. An index that is out of range makes it return `-EINVAL`, but it goes on. -/
def setPortZoom (s : OMXZoom) (port : ZoomPort) (index : ℤ) : Status × OMXZoom :=
  let ret := if InRange index then NO_ERROR else EINVAL
  if port = .other then (EINVAL, s)
  else
    let cap := s.mCameraPortParams port
    if 0 < index then
      let step := s.zoomStep index
      let cap := cap.zoomTo (zoomedSize cap.mCropWidth step CROP_WIDTH_MIN)
        (zoomedSize cap.mCropHeight step CROP_HEIGHT_MIN)
      (ret, { s.setPort port cap with reads := s.reads ++ [index] })
    else (ret, s.setPort port (cap.zoomTo cap.mCropWidth cap.mCropHeight))

/-- `initZoom`. -/
def initZoom (s : OMXZoom) (port : ZoomPort) : OMXZoom := (s.setPortZoom port s.mCurrentZoomIdx).2

/-- The checks of `doZoom`. -/
def checkZoom (s : OMXZoom) (index : ℤ) : Status :=
  if InRange index then if s.mComponentState = .OMX_StateInvalid then -1 else NO_ERROR else EINVAL

/-- `doZoom`. -/
def doZoom (s : OMXZoom) (index : ℤ) : Status × OMXZoom :=
  if s.mPreviousZoomIndx = index then (NO_ERROR, s)
  else if s.checkZoom index = NO_ERROR then
    let ported := ((s.setPortZoom .preview index).2.setPortZoom .image index).2
    (NO_ERROR, { ported with mPreviousZoomIndx := index })
  else (s.checkZoom index, s)

/-- `notifyZoomSubscribers`. -/
def notifyZoomSubscribers (s : OMXZoom) (zoomIdx : ℤ) (targetReached : Bool) : OMXZoom :=
  { s with notified := s.notified ++ [(zoomIdx, targetReached)] }

/-- `setState`. -/
def setState (s : OMXZoom) (operation : CameraCommands) : Status × OMXZoom :=
  match s.mAdapterState.setState operation with
  | some next => (NO_ERROR, { s with mNextState := next })
  | none => (INVALID_OPERATION, s)

/-- `commitState`. -/
def commitState (s : OMXZoom) : OMXZoom := { s with mAdapterState := s.mNextState }

/-- `rollbackState`. -/
def rollbackState (s : OMXZoom) : OMXZoom := { s with mNextState := s.mAdapterState }

/-- The end of a smooth zoom, in `advanceZoom`. -/
def endSmoothZoom (s : OMXZoom) : OMXZoom :=
  let (ret, s) := s.setState .CAMERA_STOP_SMOOTH_ZOOM
  if ret = NO_ERROR then s.commitState else s.rollbackState

/-- `setParametersZoom`, with the zoom that is asked for and the state that the caller has read. -/
def setParametersZoom (s : OMXZoom) (zoom : ℤ) (state : AdapterState) : OMXZoom :=
  if state.Has ZOOM_ACTIVE then s
  else if 0 ≤ zoom ∧ zoom < ZOOM_STAGES then
    let s := { s with mTargetZoomIdx := zoom, mCurrentZoomIdx := zoom }
    if !s.mZoomUpdating then { (s.doZoom s.mCurrentZoomIdx).2 with mZoomUpdating := true }
    else { s with mZoomUpdate := true }
  else s

/-- `startSmoothZoom`. -/
def startSmoothZoom (s : OMXZoom) (targetIdx : ℤ) : Status × OMXZoom :=
  if 0 ≤ targetIdx ∧ targetIdx < ZOOM_STAGES then
    (NO_ERROR,
      { s with
        mTargetZoomIdx := targetIdx
        mZoomParameterIdx := s.mCurrentZoomIdx
        mReturnZoomStatus := false })
  else (EINVAL, s)

/-- The direction from the current index to the target. -/
def direction (s : OMXZoom) : ℤ := if s.mCurrentZoomIdx < s.mTargetZoomIdx then 1 else -1

/-- `stopSmoothZoom`. -/
def stopSmoothZoom (s : OMXZoom) : OMXZoom :=
  if s.mTargetZoomIdx ≠ s.mCurrentZoomIdx then
    { s with mZoomInc := s.direction, mReturnZoomStatus := true }
  else s

/-- The first case of `advanceZoom`: a stop is pending. -/
def returnZoom (s : OMXZoom) : OMXZoom :=
  let s :=
    { s with
      mCurrentZoomIdx := s.mCurrentZoomIdx + s.mZoomInc
      mTargetZoomIdx := s.mCurrentZoomIdx + s.mZoomInc
      mReturnZoomStatus := false }
  (s.doZoom s.mCurrentZoomIdx).2.notifyZoomSubscribers s.mCurrentZoomIdx true

/-- The current index moves towards the target: by one in a smooth zoom, else at once. -/
def moveIndex (s : OMXZoom) (state : AdapterState) : OMXZoom :=
  if state.Has ZOOM_ACTIVE then
    { s with mZoomInc := s.direction, mCurrentZoomIdx := s.mCurrentZoomIdx + s.direction }
  else { s with mCurrentZoomIdx := s.mTargetZoomIdx }

/-- What a smooth zoom does after a step, with what `doZoom` has returned. -/
def notifyZoom (s : OMXZoom) (ret : Status) : OMXZoom :=
  if s.mCurrentZoomIdx = s.mTargetZoomIdx then
    let s := if ret = NO_ERROR then s.endSmoothZoom else s
    { s with mReturnZoomStatus := false }.notifyZoomSubscribers s.mCurrentZoomIdx true
  else s.notifyZoomSubscribers s.mCurrentZoomIdx false

/-- The second case: the target is not reached. -/
def approachTarget (s : OMXZoom) (state : AdapterState) : OMXZoom :=
  let s := s.moveIndex state
  let (ret, s) := s.doZoom s.mCurrentZoomIdx
  if state.Has ZOOM_ACTIVE then s.notifyZoom ret else s

/-- The end of `advanceZoom`: a zoom that was set meanwhile is applied. -/
def applyUpdate (s : OMXZoom) : OMXZoom :=
  if s.mZoomUpdate then
    { (s.doZoom s.mTargetZoomIdx).2 with mZoomUpdate := false, mZoomUpdating := true }
  else { s with mZoomUpdating := false }

/-- `advanceZoom`. -/
def advanceZoom (s : OMXZoom) : OMXZoom :=
  let state := s.mAdapterState
  applyUpdate
    (if s.mReturnZoomStatus then s.returnZoom
    else if s.mCurrentZoomIdx ≠ s.mTargetZoomIdx then s.approachTarget state
    else if state.Has ZOOM_ACTIVE then s.endSmoothZoom
    else s)

/-- The zoom as `OMXCameraAdapter::initialize` sets it. -/
def initialized (mAdapterState mNextState : AdapterState) (mComponentState : OMX_STATETYPE)
    (mCameraPortParams : ZoomPort → ZoomPortParameters) (around : ℤ → BitVec 32) : OMXZoom where
  mCurrentZoomIdx := 0
  mTargetZoomIdx := 0
  mPreviousZoomIndx := -1
  mZoomParameterIdx := 0
  mZoomInc := 1
  mReturnZoomStatus := false
  mZoomUpdating := false
  mZoomUpdate := false
  mAdapterState := mAdapterState
  mNextState := mNextState
  mComponentState := mComponentState
  mCameraPortParams := mCameraPortParams
  around := around
  reads := []
  notified := []

/-! ### Runs -/

/-- The steps: the zoom functions, the changes of the adapter's state, and those of the rest that
they read. -/
inductive Action
  | initZoom (port : ZoomPort)
  | setParametersZoom (zoom : ℤ) (state : AdapterState)
  | startSmoothZoom (targetIdx : ℤ)
  | stopSmoothZoom
  | advanceZoom
  | setState (operation : CameraCommands)
  | commitState
  | rollbackState
  | setComponentState (state : OMX_STATETYPE)
  | setPort (port : ZoomPort) (cap : ZoomPortParameters)

/-- A step. -/
def step (s : OMXZoom) : Action → OMXZoom
  | .initZoom port => s.initZoom port
  | .setParametersZoom zoom state => s.setParametersZoom zoom state
  | .startSmoothZoom targetIdx => (s.startSmoothZoom targetIdx).2
  | .stopSmoothZoom => s.stopSmoothZoom
  | .advanceZoom => s.advanceZoom
  | .setState operation => (s.setState operation).2
  | .commitState => s.commitState
  | .rollbackState => s.rollbackState
  | .setComponentState state => { s with mComponentState := state }
  | .setPort port cap => s.setPort port cap

/-- Both indices are inside of the table, and it was only read inside. -/
structure InTable (s : OMXZoom) : Prop where
  current : InRange s.mCurrentZoomIdx
  target : InRange s.mTargetZoomIdx
  reads : ∀ index ∈ s.reads, InRange index

/-- When `advanceZoom` finds a stop pending, the current index is not at the end of the table that
the stop's direction leads to. -/
def Careful (s : OMXZoom) : Action → Prop
  | .advanceZoom => s.mReturnZoomStatus →
      ¬ (s.mCurrentZoomIdx = 0 ∧ s.mZoomInc = -1) ∧
        ¬ (s.mCurrentZoomIdx = ZOOM_STAGES - 1 ∧ s.mZoomInc = 1)
  | _ => True

/-! ### What the functions keep -/

/-- The indices, the direction and the pending stop are kept, and the table is read inside only. -/
structure Keeps (s s' : OMXZoom) : Prop where
  current : s'.mCurrentZoomIdx = s.mCurrentZoomIdx
  target : s'.mTargetZoomIdx = s.mTargetZoomIdx
  inc : s'.mZoomInc = s.mZoomInc
  pending : s'.mReturnZoomStatus = s.mReturnZoomStatus
  reads : ∀ index ∈ s'.reads, index ∈ s.reads ∨ InRange index

/-- A state keeps itself. -/
lemma Keeps.refl (s : OMXZoom) : Keeps s s := ⟨rfl, rfl, rfl, rfl, fun _ h => Or.inl h⟩

/-- Changes one after the other. -/
lemma Keeps.trans {s s' s'' : OMXZoom} (h : Keeps s s') (h' : Keeps s' s'') : Keeps s s'' where
  current := h'.current.trans h.current
  target := h'.target.trans h.target
  inc := h'.inc.trans h.inc
  pending := h'.pending.trans h.pending
  reads index hi := (h'.reads index hi).elim (h.reads index) Or.inr

/-- A change of the other fields. -/
lemma Keeps.congr {s s' t : OMXZoom} (h : Keeps s s')
    (ht : (t.mCurrentZoomIdx, t.mTargetZoomIdx, t.mZoomInc, t.mReturnZoomStatus, t.reads) =
      (s'.mCurrentZoomIdx, s'.mTargetZoomIdx, s'.mZoomInc, s'.mReturnZoomStatus, s'.reads)) :
    Keeps s t := by
  simp only [Prod.mk.injEq] at ht
  obtain ⟨hc, ht, hi, hp, hr⟩ := ht
  exact ⟨hc.trans h.current, ht.trans h.target, hi.trans h.inc, hp.trans h.pending,
    fun index hindex => h.reads index (hr ▸ hindex)⟩

/-- What is kept, is kept inside of the table. -/
lemma InTable.keeps {s s' : OMXZoom} (h : InTable s) (hk : Keeps s s') : InTable s' where
  current := hk.current ▸ h.current
  target := hk.target ▸ h.target
  reads index hi := (hk.reads index hi).elim (h.reads index) id

/-- `setPortZoom` reads the table at its index if that is positive. -/
lemma keeps_setPortZoom (s : OMXZoom) (port : ZoomPort) {index : ℤ}
    (h : 0 < index → InRange index) : Keeps s (s.setPortZoom port index).2 := by
  simp only [setPortZoom]
  by_cases hport : port = .other
  · rw [if_pos hport]
    exact Keeps.refl s
  · rw [if_neg hport]
    by_cases hpos : 0 < index
    · rw [if_pos hpos]
      refine ⟨rfl, rfl, rfl, rfl, fun i hi => ?_⟩
      rcases List.mem_append.mp hi with hi | hi
      · exact Or.inl hi
      · rw [List.mem_singleton.mp hi]
        exact Or.inr (h hpos)
    · rw [if_neg hpos]
      exact (Keeps.refl s).congr rfl

/-- `doZoom` checks its index before the table is read. -/
lemma keeps_doZoom (s : OMXZoom) (index : ℤ) : Keeps s (s.doZoom index).2 := by
  unfold doZoom
  split_ifs with hprev hcheck
  · exact Keeps.refl s
  · have hr : InRange index := by
      by_contra hr
      rw [checkZoom, if_neg hr] at hcheck
      exact absurd hcheck (by decide)
    have hpreview := keeps_setPortZoom s .preview fun _ : 0 < index => hr
    have himage := keeps_setPortZoom (s.setPortZoom .preview index).2 .image fun _ => hr
    exact (hpreview.trans himage).congr rfl
  · exact Keeps.refl s

/-- `setState` changes the next state only. -/
lemma keeps_setState (s : OMXZoom) (operation : CameraCommands) :
    Keeps s (s.setState operation).2 := by
  unfold setState
  split
  · exact (Keeps.refl s).congr rfl
  · exact Keeps.refl s

/-- The end of a smooth zoom changes the adapter's state only. -/
lemma keeps_endSmoothZoom (s : OMXZoom) : Keeps s s.endSmoothZoom := by
  simp only [endSmoothZoom]
  split_ifs
  · exact (keeps_setState s .CAMERA_STOP_SMOOTH_ZOOM).congr rfl
  · exact (keeps_setState s .CAMERA_STOP_SMOOTH_ZOOM).congr rfl

/-- The end of `advanceZoom`. -/
lemma keeps_applyUpdate (s : OMXZoom) : Keeps s s.applyUpdate := by
  unfold applyUpdate
  split_ifs
  · exact (keeps_doZoom s s.mTargetZoomIdx).congr rfl
  · exact (Keeps.refl s).congr rfl

/-- What is kept in the last step of a change was so before it. -/
lemma Keeps.inTable_iff {s s' : OMXZoom} (hk : Keeps s s') (hr : ∀ index ∈ s.reads, InRange index) :
    InTable s' ↔ InRange s.mCurrentZoomIdx ∧ InRange s.mTargetZoomIdx := by
  constructor
  · intro h
    exact ⟨hk.current ▸ h.current, hk.target ▸ h.target⟩
  · rintro ⟨hc, ht⟩
    exact (InTable.mk hc ht hr).keeps hk

/-! ### Steps -/

/-- The direction is one step, up or down. -/
def UnitInc (s : OMXZoom) : Prop := s.mZoomInc = 1 ∨ s.mZoomInc = -1

/-- A direction is one step. -/
lemma direction_unit (s : OMXZoom) : s.direction = 1 ∨ s.direction = -1 := by
  unfold direction
  split_ifs
  · exact Or.inl rfl
  · exact Or.inr rfl

/-- One step towards a target inside of the table stays inside. -/
lemma inRange_add_direction {s : OMXZoom} (h : InTable s)
    (hne : s.mCurrentZoomIdx ≠ s.mTargetZoomIdx) : InRange (s.mCurrentZoomIdx + s.direction) := by
  obtain ⟨⟨hc0, hc⟩, ⟨ht0, ht⟩, -⟩ := h
  unfold direction InRange
  split_ifs <;> omega

/-- The case of a pending stop. -/
lemma keeps_returnZoom (s : OMXZoom) :
    Keeps { s with
        mCurrentZoomIdx := s.mCurrentZoomIdx + s.mZoomInc
        mTargetZoomIdx := s.mCurrentZoomIdx + s.mZoomInc
        mReturnZoomStatus := false } s.returnZoom :=
  (keeps_doZoom _ _).congr rfl

/-- What a smooth zoom does after a step. -/
lemma keeps_notifyZoom {s : OMXZoom} (hp : s.mReturnZoomStatus = false) (ret : Status) :
    Keeps s (s.notifyZoom ret) := by
  simp only [notifyZoom]
  split_ifs
  · exact (keeps_endSmoothZoom s).trans
      ⟨rfl, rfl, rfl, ((keeps_endSmoothZoom s).pending.trans hp).symm, fun _ h => Or.inl h⟩
  · exact ⟨rfl, rfl, rfl, hp.symm, fun _ h => Or.inl h⟩
  · exact (Keeps.refl s).congr rfl

/-- The case of a target that is not reached: the move decides. -/
lemma keeps_approachTarget {s : OMXZoom} (hp : s.mReturnZoomStatus = false)
    (state : AdapterState) : Keeps (s.moveIndex state) (s.approachTarget state) := by
  have hzoom := keeps_doZoom (s.moveIndex state) (s.moveIndex state).mCurrentZoomIdx
  simp only [approachTarget]
  split_ifs with hactive
  · refine hzoom.trans (keeps_notifyZoom ?_ _)
    rw [hzoom.pending, moveIndex, if_pos hactive]
    exact hp
  · exact hzoom

/-- A move towards a target inside of the table stays inside. -/
lemma inTable_moveIndex {s : OMXZoom} (h : InTable s)
    (hne : s.mCurrentZoomIdx ≠ s.mTargetZoomIdx) (state : AdapterState) :
    InTable (s.moveIndex state) := by
  unfold moveIndex
  split_ifs
  · exact ⟨inRange_add_direction h hne, h.target, h.reads⟩
  · exact ⟨h.target, h.target, h.reads⟩

/-- **`advanceZoom` keeps the indices inside of the table exactly if it is careful.**

**Proof sketch.** Only the case of a pending stop can leave the table: it adds a direction that was
computed when the stop was requested, to an index that may have been set since. -/
lemma inTable_advanceZoom_iff {s : OMXZoom} (hinc : UnitInc s) (h : InTable s) :
    InTable s.advanceZoom ↔ Careful s .advanceZoom := by
  have hupdate : ∀ {t : OMXZoom}, InTable t → InTable t.applyUpdate := fun ht =>
    ht.keeps (keeps_applyUpdate _)
  cases hp : s.mReturnZoomStatus with
  | true =>
    have hkeeps := (keeps_returnZoom s).trans (keeps_applyUpdate s.returnZoom)
    have hiff := hkeeps.inTable_iff h.reads
    simp only [advanceZoom, hp, if_true]
    rw [hiff]
    simp only [Careful, hp, forall_const, and_self]
    obtain ⟨⟨hc0, hc⟩, -, -⟩ := h
    unfold InRange
    rcases hinc with hi | hi <;> rw [hi] <;> omega
  | false =>
    have hcareful : Careful s .advanceZoom := by
      intro hpending
      rw [hp] at hpending
      cases hpending
    refine iff_of_true ?_ hcareful
    simp only [advanceZoom, hp, Bool.false_eq_true, if_false]
    apply hupdate
    split_ifs with hne
    · exact (inTable_moveIndex h hne _).keeps (keeps_approachTarget hp _)
    · exact h.keeps (keeps_endSmoothZoom s)
    · exact h

/-- A zoom that is set lies inside of the table. -/
lemma inTable_setParametersZoom {s : OMXZoom} (h : InTable s) (zoom : ℤ) (state : AdapterState) :
    InTable (s.setParametersZoom zoom state) := by
  simp only [setParametersZoom]
  by_cases hactive : state.Has ZOOM_ACTIVE
  · rw [if_pos hactive]
    exact h
  · rw [if_neg hactive]
    by_cases hzoom : 0 ≤ zoom ∧ zoom < ZOOM_STAGES
    · rw [if_pos hzoom]
      have hset : InTable { s with mTargetZoomIdx := zoom, mCurrentZoomIdx := zoom } :=
        ⟨hzoom, hzoom, h.reads⟩
      split_ifs
      · exact hset.keeps ((keeps_doZoom _ zoom).congr rfl)
      · exact ⟨hzoom, hzoom, h.reads⟩
    · rw [if_neg hzoom]
      exact h

/-- **A step keeps the indices inside of the table exactly if it is careful.** -/
lemma inTable_step_iff {s : OMXZoom} (a : Action) (hinc : UnitInc s) (h : InTable s) :
    InTable (step s a) ↔ Careful s a := by
  cases a with
  | advanceZoom => exact inTable_advanceZoom_iff hinc h
  | initZoom port =>
    exact iff_of_true (h.keeps (keeps_setPortZoom s port fun _ => h.current)) trivial
  | setParametersZoom zoom state =>
    exact iff_of_true (inTable_setParametersZoom h zoom state) trivial
  | startSmoothZoom targetIdx =>
    refine iff_of_true ?_ trivial
    simp only [step, startSmoothZoom]
    split_ifs with ht
    · exact ⟨h.current, ht, h.reads⟩
    · exact h
  | stopSmoothZoom =>
    refine iff_of_true ?_ trivial
    simp only [step, stopSmoothZoom]
    split_ifs
    · exact ⟨h.current, h.target, h.reads⟩
    · exact h
  | setState operation => exact iff_of_true (h.keeps (keeps_setState s operation)) trivial
  | commitState => exact iff_of_true ⟨h.current, h.target, h.reads⟩ trivial
  | rollbackState => exact iff_of_true ⟨h.current, h.target, h.reads⟩ trivial
  | setComponentState state => exact iff_of_true ⟨h.current, h.target, h.reads⟩ trivial
  | setPort port cap => exact iff_of_true ⟨h.current, h.target, h.reads⟩ trivial

/-- A zoom that is set leaves the direction of an earlier stop. -/
lemma mZoomInc_setParametersZoom (s : OMXZoom) (zoom : ℤ) (state : AdapterState) :
    (s.setParametersZoom zoom state).mZoomInc = s.mZoomInc := by
  simp only [setParametersZoom]
  split_ifs
  · rfl
  · exact (keeps_doZoom { s with mTargetZoomIdx := zoom, mCurrentZoomIdx := zoom } zoom).inc
  · rfl
  · rfl

/-- The direction stays one step. -/
lemma unitInc_step {s : OMXZoom} (hinc : UnitInc s) (a : Action) : UnitInc (step s a) := by
  have hkeep : ∀ {t t' : OMXZoom}, Keeps t t' → UnitInc t → UnitInc t' := fun hk ht => by
    rwa [UnitInc, hk.inc]
  cases a with
  | advanceZoom =>
    refine hkeep (keeps_applyUpdate _) ?_
    cases hp : s.mReturnZoomStatus with
    | true => exact hkeep (keeps_returnZoom s) hinc
    | false =>
      simp only [Bool.false_eq_true, if_false]
      split_ifs with hne
      · refine hkeep (keeps_approachTarget hp s.mAdapterState) ?_
        unfold moveIndex
        split_ifs
        · exact direction_unit s
        · exact hinc
      · exact hkeep (keeps_endSmoothZoom s) hinc
      · exact hinc
  | initZoom port =>
    have hframe : (s.initZoom port).mZoomInc = s.mZoomInc := by
      simp only [initZoom, setPortZoom]
      split_ifs <;> rfl
    rwa [step, UnitInc, hframe]
  | setParametersZoom zoom state => rwa [step, UnitInc, mZoomInc_setParametersZoom]
  | startSmoothZoom targetIdx =>
    simp only [step, startSmoothZoom]
    split_ifs <;> exact hinc
  | stopSmoothZoom =>
    simp only [step, stopSmoothZoom]
    split_ifs
    · exact direction_unit s
    · exact hinc
  | setState operation => exact hkeep (keeps_setState s operation) hinc
  | commitState => exact hinc
  | rollbackState => exact hinc
  | setComponentState state => exact hinc
  | setPort port cap => exact hinc

/-! ### Runs -/

/-- A new zoom is at the start of the table. -/
lemma inTable_initialized (mAdapterState mNextState : AdapterState)
    (mComponentState : OMX_STATETYPE) (mCameraPortParams : ZoomPort → ZoomPortParameters)
    (around : ℤ → BitVec 32) :
    InTable (initialized mAdapterState mNextState mComponentState mCameraPortParams around) :=
  ⟨(by decide : InRange 0), (by decide : InRange 0), fun _ h => absurd h List.not_mem_nil⟩

/-- **The indices stay inside of the table exactly in the careful runs.**

**Proof sketch.** The direction is always one step (`unitInc_step`), so that a step keeps the
indices inside exactly if it is careful (`inTable_step_iff`). -/
theorem always_inTable_iff (mAdapterState mNextState : AdapterState)
    (mComponentState : OMX_STATETYPE) (mCameraPortParams : ZoomPort → ZoomPortParameters)
    (around : ℤ → BitVec 32) (run : List Action) :
    StepRun.Always step InTable
        (initialized mAdapterState mNextState mComponentState mCameraPortParams around) run ↔
      StepRun.Along step Careful
        (initialized mAdapterState mNextState mComponentState mCameraPortParams around) run :=
  StepRun.always_iff_along (fun _ a hinc => unitInc_step hinc a)
    (fun _ a hinc h => inTable_step_iff a hinc h) (Or.inl rfl) (inTable_initialized _ _ _ _ _)

/-- A smooth zoom is stopped after one frame; before the next frame the last stage is set. -/
def staleStop : List Action :=
  [.initZoom .preview, .setState .CAMERA_START_SMOOTH_ZOOM, .startSmoothZoom 40, .commitState,
    .advanceZoom, .setState .CAMERA_STOP_SMOOTH_ZOOM, .stopSmoothZoom, .commitState,
    .setParametersZoom 40 PREVIEW_STATE, .advanceZoom, .initZoom .preview]

/-- The stale direction leads out of the table, which is then read behind its end. -/
theorem not_always_inTable_staleStop :
    let s := initialized PREVIEW_STATE PREVIEW_STATE .OMX_StateExecuting
      (fun _ => ⟨640, 480, 640, 480, 0, 0, 640, 480⟩) fun _ => 1
    ¬ StepRun.Always step InTable s staleStop ∧
      (StepRun.final step s staleStop).mCurrentZoomIdx = ZOOM_STAGES ∧
      ZOOM_STAGES ∈ (StepRun.final step s staleStop).reads := by
  have hidx : (StepRun.final step (initialized PREVIEW_STATE PREVIEW_STATE .OMX_StateExecuting
      (fun _ => ⟨640, 480, 640, 480, 0, 0, 640, 480⟩) fun _ => 1) staleStop).mCurrentZoomIdx =
      ZOOM_STAGES := by decide
  refine ⟨fun h => ?_, hidx, by decide⟩
  have hlast := h.last.current.2
  rw [hidx] at hlast
  exact lt_irrefl _ hlast

/-! ### Runs that leave a pending stop alone -/

/-- While a stop is pending, its direction leads from the current index to the target. -/
def Pointed (s : OMXZoom) : Prop :=
  s.mReturnZoomStatus → s.mZoomInc = s.direction ∧ s.mCurrentZoomIdx ≠ s.mTargetZoomIdx

/-- No zoom is set while a stop is pending. -/
def Gentle (s : OMXZoom) : Action → Prop
  | .setParametersZoom zoom state =>
    s.mReturnZoomStatus → state.Has ZOOM_ACTIVE ∨ ¬ InRange zoom
  | _ => True

/-- A direction that leads to a target inside of the table is careful. -/
lemma careful_of_pointed {s : OMXZoom} (h : InTable s) (hp : Pointed s) (a : Action) :
    Careful s a := by
  cases a <;> try trivial
  intro hpending
  obtain ⟨hinc, hne⟩ := hp hpending
  obtain ⟨⟨hc0, hc⟩, ⟨ht0, ht⟩, -⟩ := h
  have hstages : ZOOM_STAGES = 41 := rfl
  rw [hinc, direction]
  by_cases hlt : s.mCurrentZoomIdx < s.mTargetZoomIdx
  · rw [if_pos hlt]
    omega
  · rw [if_neg hlt]
    omega

/-- Steps that leave a pending stop alone keep its direction right. -/
lemma pointed_step {s : OMXZoom} {a : Action} (hp : Pointed s) (ha : Gentle s a) :
    Pointed (step s a) := by
  have hkeep : ∀ {t t' : OMXZoom}, Keeps t t' → Pointed t → Pointed t' := fun hk ht => by
    rw [Pointed, direction, hk.pending, hk.inc, hk.current, hk.target]
    exact ht
  have hnone : ∀ {t : OMXZoom}, t.mReturnZoomStatus = false → Pointed t := fun ht hpending => by
    rw [ht] at hpending
    cases hpending
  cases a with
  | advanceZoom =>
    refine hkeep (keeps_applyUpdate _) ?_
    cases hs : s.mReturnZoomStatus with
    | true => exact hkeep (keeps_returnZoom s) (hnone rfl)
    | false =>
      simp only [Bool.false_eq_true, if_false]
      split_ifs with hne
      · refine hkeep (keeps_approachTarget hs s.mAdapterState) (hnone ?_)
        unfold moveIndex
        split_ifs <;> exact hs
      · exact hkeep (keeps_endSmoothZoom s) hp
      · exact hp
  | initZoom port =>
    simp only [step, initZoom, setPortZoom]
    split_ifs <;> exact hp
  | setParametersZoom zoom state =>
    simp only [step, setParametersZoom]
    by_cases hactive : state.Has ZOOM_ACTIVE
    · rw [if_pos hactive]
      exact hp
    · rw [if_neg hactive]
      by_cases hzoom : 0 ≤ zoom ∧ zoom < ZOOM_STAGES
      · rw [if_pos hzoom]
        have hs : s.mReturnZoomStatus = false := by
          by_contra hpending
          exact (ha (Bool.eq_true_of_not_eq_false hpending)).elim hactive fun h => h hzoom
        split_ifs
        · exact hnone ((keeps_doZoom _ zoom).pending.trans hs)
        · exact hnone hs
      · rw [if_neg hzoom]
        exact hp
  | startSmoothZoom targetIdx =>
    simp only [step, startSmoothZoom]
    split_ifs
    · exact hnone rfl
    · exact hp
  | stopSmoothZoom =>
    simp only [step, stopSmoothZoom]
    split_ifs with hne
    · exact fun _ => ⟨rfl, hne.symm⟩
    · exact hp
  | setState operation => exact hkeep (keeps_setState s operation) hp
  | commitState => exact hp
  | rollbackState => exact hp
  | setComponentState state => exact hp
  | setPort port cap => exact hp

/-- **A run that sets no zoom while a stop is pending is careful.**

**Proof sketch.** In such a run the direction of a pending stop leads from the current index to the
target (`pointed_step`), and both are inside of the table. -/
theorem careful_of_gentle {s : OMXZoom} (h : InTable s) (hinc : UnitInc s) (hp : Pointed s)
    {run : List Action} (hrun : StepRun.Along step Gentle s run) :
    StepRun.Along step Careful s run := by
  refine StepRun.along_of_along (I := fun s => InTable s ∧ UnitInc s ∧ Pointed s) ?_ ?_
    ⟨h, hinc, hp⟩ hrun
  · rintro s a ⟨h, hinc, hp⟩ ha
    exact ⟨(inTable_step_iff a hinc h).mpr (careful_of_pointed h hp a), unitInc_step hinc a,
      pointed_step hp ha⟩
  · rintro s a ⟨h, -, hp⟩ -
    exact careful_of_pointed h hp a

end OMXZoom

end CameraHal
