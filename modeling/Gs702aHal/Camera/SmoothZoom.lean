import Gs702aHal.Camera.Zoom

set_option relaxedAutoImplicit false
set_option autoImplicit false

/-!
# The zoom that the ports get

`doZoom` applies an index to the ports and keeps it in `mPreviousZoomIndx`. A zoom that
`setParametersZoom` sets while an earlier one has not seen a frame yet is left to the next
`advanceZoom` (`mZoomUpdate`), which applies the target at its end. In a smooth zoom the target is
not the current index.

## Main definitions

* `CameraHal.OMXZoom.SmoothRun` — the zoom, and whether a smooth zoom is in progress.
* `CameraHal.OMXZoom.SmoothRun.Steady` — a frame leaves the current index applied, and moves it by
  at most one towards the target of a smooth zoom.
* `CameraHal.OMXZoom.SmoothRun.Undisturbed` — the condition on a step.

## Main results

* `CameraHal.OMXZoom.SmoothRun.along_steady` — every frame is steady in the runs whose steps meet
  the condition.
-/

namespace CameraHal

open Status AdapterState

namespace OMXZoom

/-! ### Smooth zooms -/

/-- The zoom, and whether a smooth zoom is in progress: it was started, has not been stopped, and
its target is not reached. -/
structure SmoothRun where
  zoom : OMXZoom
  smooth : Bool

namespace SmoothRun

/-- A step. -/
def step (s : SmoothRun) (a : Action) : SmoothRun where
  zoom := OMXZoom.step s.zoom a
  smooth := match a with
    | .startSmoothZoom targetIdx =>
      if InRange targetIdx then decide (s.zoom.mCurrentZoomIdx ≠ targetIdx) else s.smooth
    | .stopSmoothZoom => false
    | a => s.smooth && decide
        ((OMXZoom.step s.zoom a).mCurrentZoomIdx ≠ (OMXZoom.step s.zoom a).mTargetZoomIdx)

/-- The applied index moves by at most one, towards a target. -/
def Towards (target applied applied' : ℤ) : Prop :=
  applied' = applied ∨ applied < target ∧ applied' = applied + 1 ∨
    target < applied ∧ applied' = applied - 1

/-- After a frame the current index is applied; in a smooth zoom the applied index has moved by at
most one, towards the target. -/
def Steady (s : SmoothRun) : Action → Prop
  | .advanceZoom =>
    s.zoom.advanceZoom.mPreviousZoomIndx = s.zoom.advanceZoom.mCurrentZoomIdx ∧
      (s.smooth = true → Towards s.zoom.mTargetZoomIdx s.zoom.mPreviousZoomIndx
        s.zoom.advanceZoom.mPreviousZoomIndx)
  | _ => True

/-- The conditions on a frame. -/
structure UndisturbedFrame (s : SmoothRun) : Prop where
  component : s.zoom.mComponentState ≠ .OMX_StateInvalid
  /-- A zoom was applied before, unless the frame applies one anyway. -/
  applied : s.zoom.mPreviousZoomIndx ≠ -1 ∨ s.zoom.mReturnZoomStatus = true ∨
    s.zoom.mZoomUpdate = true
  /-- A pending stop does not lead out of the table. -/
  careful : Careful s.zoom .advanceZoom
  /-- In a smooth zoom, no zoom that was set waits to be applied. -/
  update : s.smooth = true → s.zoom.mZoomUpdate = false
  /-- In a smooth zoom, the adapter is in the state for it, or one step is left. -/
  active : s.smooth = true → s.zoom.mAdapterState.Has ZOOM_ACTIVE ∨
    s.zoom.mTargetZoomIdx = s.zoom.mCurrentZoomIdx + s.zoom.direction

/-- The conditions on a step: those on a frame, and the component can apply a zoom that is set. -/
def Undisturbed (s : SmoothRun) : Action → Prop
  | .advanceZoom => UndisturbedFrame s
  | .setParametersZoom zoom state => ¬state.Has ZOOM_ACTIVE → InRange zoom →
      s.zoom.mZoomUpdating = false → s.zoom.mComponentState ≠ .OMX_StateInvalid
  | _ => True

end SmoothRun

/-! ### What the functions do -/

/-- What a frame depends on is the same, apart from the adapter's state. -/
structure Same (s s' : OMXZoom) : Prop where
  current : s'.mCurrentZoomIdx = s.mCurrentZoomIdx
  target : s'.mTargetZoomIdx = s.mTargetZoomIdx
  applied : s'.mPreviousZoomIndx = s.mPreviousZoomIndx
  pending : s'.mReturnZoomStatus = s.mReturnZoomStatus
  update : s'.mZoomUpdate = s.mZoomUpdate
  component : s'.mComponentState = s.mComponentState

/-- A state is the same as itself. -/
lemma Same.refl (s : OMXZoom) : Same s s := ⟨rfl, rfl, rfl, rfl, rfl, rfl⟩

/-- Changes one after the other. -/
lemma Same.trans {s s' s'' : OMXZoom} (h : Same s s') (h' : Same s' s'') : Same s s'' where
  current := h'.current.trans h.current
  target := h'.target.trans h.target
  applied := h'.applied.trans h.applied
  pending := h'.pending.trans h.pending
  update := h'.update.trans h.update
  component := h'.component.trans h.component

/-- `setPortZoom` changes the ports. -/
lemma same_setPortZoom (s : OMXZoom) (port : ZoomPort) (index : ℤ) :
    Same s (s.setPortZoom port index).2 := by
  simp only [setPortZoom]
  by_cases hport : port = .other
  · rw [if_pos hport]
    exact Same.refl s
  · rw [if_neg hport]
    split_ifs <;> exact ⟨rfl, rfl, rfl, rfl, rfl, rfl⟩

/-- `doZoom` applies an index of the table if the component is valid. -/
lemma same_doZoom {s : OMXZoom} {index : ℤ} (hr : InRange index)
    (hv : s.mComponentState ≠ .OMX_StateInvalid) :
    Same { s with mPreviousZoomIndx := index } (s.doZoom index).2 := by
  unfold doZoom
  by_cases hprev : s.mPreviousZoomIndx = index
  · rw [if_pos hprev]
    exact ⟨rfl, rfl, hprev, rfl, rfl, rfl⟩
  · have hcheck : s.checkZoom index = NO_ERROR := by
      rw [checkZoom, if_pos hr, if_neg hv]
    have hports := (same_setPortZoom s .preview index).trans (same_setPortZoom _ .image index)
    rw [if_neg hprev, if_pos hcheck]
    exact ⟨hports.current, hports.target, rfl, hports.pending, hports.update, hports.component⟩

/-- `setState` changes the adapter's next state. -/
lemma same_setState (s : OMXZoom) (operation : CameraCommands) :
    Same s (s.setState operation).2 := by
  unfold setState
  split <;> exact ⟨rfl, rfl, rfl, rfl, rfl, rfl⟩

/-- The end of a smooth zoom changes the adapter's state. -/
lemma same_endSmoothZoom (s : OMXZoom) : Same s s.endSmoothZoom := by
  have hstate := same_setState s .CAMERA_STOP_SMOOTH_ZOOM
  simp only [endSmoothZoom]
  split_ifs
  · exact hstate.trans ⟨rfl, rfl, rfl, rfl, rfl, rfl⟩
  · exact hstate.trans ⟨rfl, rfl, rfl, rfl, rfl, rfl⟩

/-- What a smooth zoom does after a step. -/
lemma same_notifyZoom {s : OMXZoom} (hp : s.mReturnZoomStatus = false) (ret : Status) :
    Same s (s.notifyZoom ret) := by
  have hend := same_endSmoothZoom s
  simp only [notifyZoom]
  split_ifs
  · exact ⟨hend.current, hend.target, hend.applied, hp.symm, hend.update, hend.component⟩
  · exact ⟨rfl, rfl, rfl, hp.symm, rfl, rfl⟩
  · exact ⟨rfl, rfl, rfl, rfl, rfl, rfl⟩

/-- The indices after a frame. -/
structure Frame (s : OMXZoom) (current target applied : ℤ) : Prop where
  current : s.mCurrentZoomIdx = current
  target : s.mTargetZoomIdx = target
  applied : s.mPreviousZoomIndx = applied
  pending : s.mReturnZoomStatus = false

/-- The end of `advanceZoom` applies the target if a zoom was set. -/
lemma frame_applyUpdate {s t : OMXZoom} (h : Same s t) (hp : s.mReturnZoomStatus = false)
    (hr : s.mZoomUpdate = true → InRange s.mTargetZoomIdx)
    (hv : s.mComponentState ≠ .OMX_StateInvalid) :
    Frame t.applyUpdate s.mCurrentZoomIdx s.mTargetZoomIdx
      (if s.mZoomUpdate then s.mTargetZoomIdx else s.mPreviousZoomIndx) := by
  unfold applyUpdate
  by_cases hupdate : s.mZoomUpdate = true
  · have hzoom := @same_doZoom t t.mTargetZoomIdx (h.target ▸ hr hupdate)
      (h.component ▸ hv)
    rw [if_pos (h.update.trans hupdate), if_pos hupdate]
    exact ⟨hzoom.current.trans h.current, hzoom.target.trans h.target,
      hzoom.applied.trans h.target, (hzoom.pending.trans h.pending).trans hp⟩
  · have hnone : t.mZoomUpdate = false := h.update.trans (Bool.eq_false_of_not_eq_true hupdate)
    rw [if_neg (by simp [hnone]), if_neg hupdate]
    exact ⟨h.current, h.target, h.applied, h.pending.trans hp⟩

/-- A frame in which a stop is pending. -/
lemma frame_pending {s : OMXZoom} (hp : s.mReturnZoomStatus = true)
    (hr : InRange (s.mCurrentZoomIdx + s.mZoomInc))
    (hv : s.mComponentState ≠ .OMX_StateInvalid) :
    Frame s.advanceZoom (s.mCurrentZoomIdx + s.mZoomInc) (s.mCurrentZoomIdx + s.mZoomInc)
      (s.mCurrentZoomIdx + s.mZoomInc) := by
  have hzoom : Same { s with
      mCurrentZoomIdx := s.mCurrentZoomIdx + s.mZoomInc
      mTargetZoomIdx := s.mCurrentZoomIdx + s.mZoomInc
      mReturnZoomStatus := false
      mPreviousZoomIndx := s.mCurrentZoomIdx + s.mZoomInc } s.returnZoom :=
    (same_doZoom (s := { s with
      mCurrentZoomIdx := s.mCurrentZoomIdx + s.mZoomInc
      mTargetZoomIdx := s.mCurrentZoomIdx + s.mZoomInc
      mReturnZoomStatus := false }) hr hv).trans ⟨rfl, rfl, rfl, rfl, rfl, rfl⟩
  have hframe := frame_applyUpdate hzoom rfl (fun _ => hr) hv
  rw [ite_self] at hframe
  simp only [advanceZoom, hp, if_true]
  exact hframe

/-- The move changes the current index and the direction. -/
lemma same_moveIndex (s : OMXZoom) (state : AdapterState) :
    Same { s with mCurrentZoomIdx := (s.moveIndex state).mCurrentZoomIdx } (s.moveIndex state) := by
  unfold moveIndex
  split_ifs <;> exact ⟨rfl, rfl, rfl, rfl, rfl, rfl⟩

/-- A frame in which the current index moves towards the target. -/
lemma frame_approach {s : OMXZoom} (hp : s.mReturnZoomStatus = false)
    (hne : s.mCurrentZoomIdx ≠ s.mTargetZoomIdx) (hupdate : s.mZoomUpdate = false)
    (hr : InRange (s.moveIndex s.mAdapterState).mCurrentZoomIdx)
    (hv : s.mComponentState ≠ .OMX_StateInvalid) :
    Frame s.advanceZoom (s.moveIndex s.mAdapterState).mCurrentZoomIdx s.mTargetZoomIdx
      (s.moveIndex s.mAdapterState).mCurrentZoomIdx := by
  have hmove := same_moveIndex s s.mAdapterState
  have hzoom := same_doZoom (s := s.moveIndex s.mAdapterState) hr (by rwa [hmove.component])
  have happroach : Same { s with
      mCurrentZoomIdx := (s.moveIndex s.mAdapterState).mCurrentZoomIdx
      mPreviousZoomIndx := (s.moveIndex s.mAdapterState).mCurrentZoomIdx }
      (s.approachTarget s.mAdapterState) := by
    have hset : Same { s with
        mCurrentZoomIdx := (s.moveIndex s.mAdapterState).mCurrentZoomIdx
        mPreviousZoomIndx := (s.moveIndex s.mAdapterState).mCurrentZoomIdx }
        { s.moveIndex s.mAdapterState with
          mPreviousZoomIndx := (s.moveIndex s.mAdapterState).mCurrentZoomIdx } :=
      ⟨rfl, hmove.target, rfl, hmove.pending, hmove.update, hmove.component⟩
    have hzoomed := hset.trans hzoom
    simp only [approachTarget]
    split_ifs
    · exact hzoomed.trans (same_notifyZoom (hzoomed.pending.trans hp) _)
    · exact hzoomed
  have hframe := frame_applyUpdate happroach hp
    (fun h => absurd (hupdate.symm.trans h) Bool.false_ne_true) hv
  rw [if_neg (fun h : s.mZoomUpdate = true => Bool.false_ne_true (hupdate.symm.trans h))] at hframe
  simp only [advanceZoom, hp, Bool.false_eq_true, if_false, if_pos hne]
  exact hframe

/-- A frame in which the current index stays. -/
lemma frame_rest {s : OMXZoom} (hp : s.mReturnZoomStatus = false)
    (heq : s.mCurrentZoomIdx = s.mTargetZoomIdx) (hr : InRange s.mTargetZoomIdx)
    (hv : s.mComponentState ≠ .OMX_StateInvalid) :
    Frame s.advanceZoom s.mCurrentZoomIdx s.mTargetZoomIdx
      (if s.mZoomUpdate then s.mTargetZoomIdx else s.mPreviousZoomIndx) := by
  have hsame : Same s (if s.mAdapterState.Has ZOOM_ACTIVE then s.endSmoothZoom else s) := by
    split_ifs
    · exact same_endSmoothZoom s
    · exact Same.refl s
  simp only [advanceZoom, hp, Bool.false_eq_true, if_false, heq, ne_eq, not_true_eq_false]
  rw [← heq]
  exact heq ▸ frame_applyUpdate hsame hp (fun _ => hr) hv

/-! ### Runs -/

namespace SmoothRun

/-- The applied index is the current one, unless a zoom that was set waits or none was applied yet.
Only a smooth zoom, or one that is being stopped, has another target than the current index. -/
structure Tracked (s : SmoothRun) : Prop where
  table : InTable s.zoom
  inc : UnitInc s.zoom
  applied : s.zoom.mZoomUpdate = true ∨ s.zoom.mPreviousZoomIndx = s.zoom.mCurrentZoomIdx ∨
    s.zoom.mPreviousZoomIndx = -1
  moving : s.zoom.mCurrentZoomIdx ≠ s.zoom.mTargetZoomIdx →
    s.smooth = true ∨ s.zoom.mReturnZoomStatus = true
  smooth : s.smooth = true →
    s.zoom.mCurrentZoomIdx ≠ s.zoom.mTargetZoomIdx ∧ s.zoom.mReturnZoomStatus = false

/-- One step in the direction of a target moves towards it. -/
lemma towards_direction {s : OMXZoom} (hne : s.mCurrentZoomIdx ≠ s.mTargetZoomIdx) :
    Towards s.mTargetZoomIdx s.mCurrentZoomIdx (s.mCurrentZoomIdx + s.direction) := by
  unfold Towards direction
  split_ifs <;> omega

/-- A frame of an undisturbed run applies the current index. It moves by one step in a smooth zoom,
and has reached the target otherwise. -/
lemma Tracked.frame {s : SmoothRun} (h : Tracked s) (hc : UndisturbedFrame s) :
    ∃ current target, Frame s.zoom.advanceZoom current target current ∧
      (s.smooth = true → Towards s.zoom.mTargetZoomIdx s.zoom.mPreviousZoomIndx current) ∧
      (current ≠ target → s.smooth = true) := by
  cases hp : s.zoom.mReturnZoomStatus with
  | true =>
    have hr : InRange (s.zoom.mCurrentZoomIdx + s.zoom.mZoomInc) := by
      obtain ⟨hlow, hhigh⟩ := hc.careful hp
      obtain ⟨hc0, hc1⟩ := h.table.current
      unfold InRange
      rcases h.inc with hinc | hinc <;> rw [hinc] at hlow hhigh ⊢ <;> omega
    refine ⟨_, _, frame_pending hp hr hc.component, fun hsmooth => ?_, fun hne => absurd rfl hne⟩
    exact absurd ((h.smooth hsmooth).2.symm.trans hp) Bool.false_ne_true
  | false =>
    by_cases hne : s.zoom.mCurrentZoomIdx = s.zoom.mTargetZoomIdx
    · have hframe := frame_rest hp hne h.table.target hc.component
      have happlied : (if s.zoom.mZoomUpdate then s.zoom.mTargetZoomIdx
          else s.zoom.mPreviousZoomIndx) = s.zoom.mCurrentZoomIdx := by
        split_ifs with hupdate
        · exact hne.symm
        · rcases h.applied with hset | heq | hnone
          · exact absurd hset hupdate
          · exact heq
          · rcases hc.applied with hany | hpending | hset
            · exact absurd hnone hany
            · exact absurd (hp.symm.trans hpending) Bool.false_ne_true
            · exact absurd hset hupdate
      rw [happlied] at hframe
      exact ⟨_, _, hframe, fun hsmooth => absurd hne (h.smooth hsmooth).1, fun hne' =>
        absurd hne hne'⟩
    · have hsmooth : s.smooth = true := (h.moving hne).resolve_right (by simp [hp])
      have hupdate := hc.update hsmooth
      have hcurrent : s.zoom.mPreviousZoomIndx = s.zoom.mCurrentZoomIdx := by
        rcases h.applied with hset | heq | hnone
        · exact absurd (hupdate.symm.trans hset) Bool.false_ne_true
        · exact heq
        · rcases hc.applied with hany | hpending | hset
          · exact absurd hnone hany
          · exact absurd (hp.symm.trans hpending) Bool.false_ne_true
          · exact absurd (hupdate.symm.trans hset) Bool.false_ne_true
      have hmove : (s.zoom.moveIndex s.zoom.mAdapterState).mCurrentZoomIdx =
          s.zoom.mCurrentZoomIdx + s.zoom.direction := by
        unfold moveIndex
        split_ifs with hactive
        · rfl
        · exact (hc.active hsmooth).resolve_left hactive
      have hframe := frame_approach hp hne hupdate
        (hmove ▸ inRange_add_direction h.table hne) hc.component
      rw [hmove] at hframe
      refine ⟨_, _, hframe, fun _ => ?_, fun _ => hsmooth⟩
      rw [hcurrent]
      exact towards_direction hne

/-- A step that leaves the indices. -/
lemma Tracked.same {s : SmoothRun} (h : Tracked s) {zoom : OMXZoom} (hsame : Same s.zoom zoom)
    (htable : InTable zoom) (hinc : UnitInc zoom) :
    Tracked ⟨zoom, s.smooth && decide (zoom.mCurrentZoomIdx ≠ zoom.mTargetZoomIdx)⟩ := by
  refine ⟨htable, hinc, ?_, ?_, ?_⟩
  · rw [hsame.update, hsame.applied, hsame.current]
    exact h.applied
  · rw [hsame.current, hsame.target, hsame.pending]
    intro hne
    simpa [hne] using h.moving hne
  · rw [hsame.current, hsame.target, hsame.pending]
    intro hsmooth
    exact h.smooth (Bool.and_eq_true_iff.mp hsmooth).1

/-- A frame. -/
lemma Tracked.advanceZoom {s : SmoothRun} (h : Tracked s) (hc : UndisturbedFrame s) :
    Tracked (step s .advanceZoom) := by
  obtain ⟨current, target, hframe, -, hmoving⟩ := h.frame hc
  refine ⟨(inTable_step_iff .advanceZoom h.inc h.table).mpr hc.careful,
    unitInc_step h.inc .advanceZoom, Or.inr (Or.inl ?_), fun hne => Or.inl ?_, fun hsmooth => ?_⟩
  · exact hframe.applied.trans hframe.current.symm
  · have hne' : s.zoom.advanceZoom.mCurrentZoomIdx ≠ s.zoom.advanceZoom.mTargetZoomIdx := hne
    show (s.smooth && decide (s.zoom.advanceZoom.mCurrentZoomIdx ≠
      s.zoom.advanceZoom.mTargetZoomIdx)) = true
    rw [decide_eq_true hne', Bool.and_true]
    rw [hframe.current, hframe.target] at hne'
    exact hmoving hne'
  · exact ⟨of_decide_eq_true (Bool.and_eq_true_iff.mp hsmooth).2, hframe.pending⟩

/-- A zoom that is set. -/
lemma Tracked.setParametersZoom {s : SmoothRun} (h : Tracked s) {zoom : ℤ} {state : AdapterState}
    (hc : Undisturbed s (.setParametersZoom zoom state)) :
    Tracked (step s (.setParametersZoom zoom state)) := by
  have htable := inTable_setParametersZoom h.table zoom state
  have hinc := unitInc_step h.inc (.setParametersZoom zoom state)
  by_cases hset : ¬state.Has ZOOM_ACTIVE ∧ InRange zoom
  · obtain ⟨hactive, hr⟩ := hset
    have hindices : (s.zoom.setParametersZoom zoom state).mCurrentZoomIdx = zoom ∧
        (s.zoom.setParametersZoom zoom state).mTargetZoomIdx = zoom ∧
        ((s.zoom.setParametersZoom zoom state).mZoomUpdate = true ∨
          (s.zoom.setParametersZoom zoom state).mPreviousZoomIndx = zoom) := by
      simp only [OMXZoom.setParametersZoom]
      rw [if_neg hactive, if_pos (show 0 ≤ zoom ∧ zoom < ZOOM_STAGES from hr)]
      by_cases hupdating : s.zoom.mZoomUpdating = true
      · rw [if_neg (by simp [hupdating])]
        exact ⟨rfl, rfl, Or.inl rfl⟩
      · have hnone := Bool.eq_false_of_not_eq_true hupdating
        have hzoom := same_doZoom (s := { s.zoom with
          mTargetZoomIdx := zoom, mCurrentZoomIdx := zoom }) hr (hc hactive hr hnone)
        rw [if_pos (by simp [hnone])]
        exact ⟨hzoom.current, hzoom.target, Or.inr hzoom.applied⟩
    obtain ⟨hcurrent, htarget, happlied⟩ := hindices
    have heq := hcurrent.trans htarget.symm
    refine ⟨htable, hinc, ?_, fun hne => absurd heq hne, fun hsmooth => ?_⟩
    · exact happlied.imp_right fun happlied => Or.inl (happlied.trans hcurrent.symm)
    · exact absurd heq (of_decide_eq_true (Bool.and_eq_true_iff.mp hsmooth).2)
  · have hsame : s.zoom.setParametersZoom zoom state = s.zoom := by
      simp only [OMXZoom.setParametersZoom]
      by_cases hactive : state.Has ZOOM_ACTIVE
      · rw [if_pos hactive]
      · have hr : ¬(0 ≤ zoom ∧ zoom < ZOOM_STAGES) := fun hr => hset ⟨hactive, hr⟩
        rw [if_neg hactive, if_neg hr]
    refine h.same ?_ htable hinc
    show Same s.zoom (s.zoom.setParametersZoom zoom state)
    rw [hsame]
    exact Same.refl s.zoom

/-- A smooth zoom that is started. -/
lemma Tracked.startSmoothZoom {s : SmoothRun} (h : Tracked s) (targetIdx : ℤ) :
    Tracked (step s (.startSmoothZoom targetIdx)) := by
  by_cases hr : InRange targetIdx
  · have hstart : step s (.startSmoothZoom targetIdx) = ⟨{ s.zoom with
        mTargetZoomIdx := targetIdx
        mZoomParameterIdx := s.zoom.mCurrentZoomIdx
        mReturnZoomStatus := false }, decide (s.zoom.mCurrentZoomIdx ≠ targetIdx)⟩ := by
      simp only [step, OMXZoom.step, OMXZoom.startSmoothZoom]
      rw [if_pos hr, if_pos (show 0 ≤ targetIdx ∧ targetIdx < ZOOM_STAGES from hr)]
    rw [hstart]
    exact ⟨⟨h.table.current, hr, h.table.reads⟩, h.inc, h.applied,
      fun hne => Or.inl (decide_eq_true hne), fun hsmooth => ⟨of_decide_eq_true hsmooth, rfl⟩⟩
  · have hstart : step s (.startSmoothZoom targetIdx) = s := by
      have hr' : ¬(0 ≤ targetIdx ∧ targetIdx < ZOOM_STAGES) := hr
      simp only [step, OMXZoom.step, OMXZoom.startSmoothZoom]
      rw [if_neg hr, if_neg hr']
    rw [hstart]
    exact h

/-- A smooth zoom that is stopped. -/
lemma Tracked.stopSmoothZoom {s : SmoothRun} (h : Tracked s) :
    Tracked (step s .stopSmoothZoom) := by
  by_cases hne : s.zoom.mTargetZoomIdx ≠ s.zoom.mCurrentZoomIdx
  · have hstop : step s .stopSmoothZoom = ⟨{ s.zoom with
        mZoomInc := s.zoom.direction, mReturnZoomStatus := true }, false⟩ := by
      simp only [step, OMXZoom.step, OMXZoom.stopSmoothZoom]
      rw [if_pos hne]
    rw [hstop]
    exact ⟨⟨h.table.current, h.table.target, h.table.reads⟩, direction_unit s.zoom, h.applied,
      fun _ => Or.inr rfl, fun hsmooth => absurd hsmooth Bool.false_ne_true⟩
  · have hstop : step s .stopSmoothZoom = ⟨s.zoom, false⟩ := by
      simp only [step, OMXZoom.step, OMXZoom.stopSmoothZoom]
      rw [if_neg hne]
    rw [hstop]
    exact ⟨h.table, h.inc, h.applied, fun hne' => absurd (not_not.mp hne).symm hne',
      fun hsmooth => absurd hsmooth Bool.false_ne_true⟩

/-- A step of an undisturbed run. -/
lemma Tracked.step {s : SmoothRun} (h : Tracked s) {a : Action} (hc : Undisturbed s a) :
    Tracked (step s a) := by
  have hinc := unitInc_step h.inc a
  cases a with
  | advanceZoom => exact h.advanceZoom hc
  | setParametersZoom zoom state => exact h.setParametersZoom hc
  | startSmoothZoom targetIdx => exact h.startSmoothZoom targetIdx
  | stopSmoothZoom => exact h.stopSmoothZoom
  | initZoom port =>
    exact h.same (same_setPortZoom s.zoom port _)
      ((inTable_step_iff (.initZoom port) h.inc h.table).mpr trivial) hinc
  | setState operation =>
    exact h.same (same_setState s.zoom operation)
      ((inTable_step_iff (.setState operation) h.inc h.table).mpr trivial) hinc
  | commitState =>
    exact h.same ⟨rfl, rfl, rfl, rfl, rfl, rfl⟩
      ((inTable_step_iff .commitState h.inc h.table).mpr trivial) hinc
  | rollbackState =>
    exact h.same ⟨rfl, rfl, rfl, rfl, rfl, rfl⟩
      ((inTable_step_iff .rollbackState h.inc h.table).mpr trivial) hinc
  | setComponentState state =>
    have hsame := h.same (Same.refl s.zoom) h.table h.inc
    exact ⟨⟨h.table.current, h.table.target, h.table.reads⟩, h.inc, hsame.applied, hsame.moving,
      hsame.smooth⟩
  | setPort port cap =>
    exact h.same ⟨rfl, rfl, rfl, rfl, rfl, rfl⟩
      ((inTable_step_iff (.setPort port cap) h.inc h.table).mpr trivial) hinc

/-- A frame of an undisturbed run is steady. -/
lemma Tracked.steady {s : SmoothRun} (h : Tracked s) {a : Action} (hc : Undisturbed s a) :
    Steady s a := by
  cases a with
  | advanceZoom =>
    obtain ⟨current, target, hframe, htowards, -⟩ := h.frame hc
    exact ⟨hframe.applied.trans hframe.current.symm, fun hsmooth =>
      hframe.applied ▸ htowards hsmooth⟩
  | _ => trivial

/-- The zoom at the start of a run. -/
def start (mAdapterState mNextState : AdapterState) (mComponentState : OMX_STATETYPE)
    (mCameraPortParams : ZoomPort → ZoomPortParameters) (around : ℤ → BitVec 32) : SmoothRun :=
  ⟨initialized mAdapterState mNextState mComponentState mCameraPortParams around, false⟩

/-- **Steady frames.** In every run whose steps meet the condition, each frame leaves the current
index applied to the ports, and moves the applied index of a smooth zoom by at most one, towards the
target.

**Proof sketch.** Outside of a smooth zoom the target is the current index, which is applied unless
a zoom that was set waits; the frame then applies the target. In a smooth zoom none waits, so that
the frame applies the next index. -/
theorem along_steady (mAdapterState mNextState : AdapterState) (mComponentState : OMX_STATETYPE)
    (mCameraPortParams : ZoomPort → ZoomPortParameters) (around : ℤ → BitVec 32)
    {run : List Action} (h : StepRun.Along step Undisturbed
      (start mAdapterState mNextState mComponentState mCameraPortParams around) run) :
    StepRun.Along step Steady
      (start mAdapterState mNextState mComponentState mCameraPortParams around) run := by
  have htracked : Tracked (start mAdapterState mNextState mComponentState mCameraPortParams
      around) :=
    ⟨inTable_initialized _ _ _ _ _, Or.inl rfl, Or.inr (Or.inr rfl), fun hne => absurd rfl hne,
      fun hsmooth => absurd hsmooth Bool.false_ne_true⟩
  exact StepRun.along_of_along (I := Tracked) (fun _ _ h hc => h.step hc)
    (fun _ _ h hc => h.steady hc) htracked h

/-- A preview at the start. -/
def preview : SmoothRun := start PREVIEW_STATE PREVIEW_STATE .OMX_StateExecuting
  (fun _ => ⟨640, 480, 640, 480, 0, 0, 640, 480⟩) fun _ => 1

/-- A zoom is set and seen by a frame; a smooth zoom then takes three frames to come two steps
further and to end. -/
theorem along_steady_twoSteps : StepRun.Along step Steady preview
    [.setParametersZoom 10 PREVIEW_STATE, .advanceZoom, .setState .CAMERA_START_SMOOTH_ZOOM,
      .startSmoothZoom 12, .commitState, .advanceZoom, .advanceZoom, .advanceZoom] := by
  refine along_steady _ _ _ _ _ ⟨fun _ _ _ => by decide, ⟨by decide, Or.inl (by decide),
    fun h => absurd h (by decide), fun h => absurd h (by decide), fun h => absurd h (by decide)⟩,
    trivial, trivial, trivial, ⟨by decide, Or.inl (by decide), fun h => absurd h (by decide),
      fun _ => by decide, fun _ => Or.inl (by decide)⟩, ⟨by decide, Or.inl (by decide),
      fun h => absurd h (by decide), fun _ => by decide, fun _ => Or.inl (by decide)⟩,
    ⟨by decide, Or.inl (by decide), fun h => absurd h (by decide),
      fun h => absurd h (by decide), fun h => absurd h (by decide)⟩, trivial⟩

/-- A second zoom is set before the first has seen a frame, and a smooth zoom is started. -/
def waitingZoom : List Action :=
  [.setParametersZoom 10 PREVIEW_STATE, .setParametersZoom 20 PREVIEW_STATE,
    .setState .CAMERA_START_SMOOTH_ZOOM, .startSmoothZoom 30, .commitState, .advanceZoom]

/-- The frame applies the target of the smooth zoom, while its current index is one step from where
it started. -/
theorem not_along_steady_waitingZoom :
    ¬StepRun.Along step Steady preview waitingZoom ∧
      (StepRun.final step preview waitingZoom).zoom.mCurrentZoomIdx = 21 ∧
      (StepRun.final step preview waitingZoom).zoom.mPreviousZoomIndx = 30 := by
  refine ⟨fun h => ?_, by decide, by decide⟩
  obtain ⟨-, -, -, -, -, ⟨happlied, -⟩, -⟩ := h
  exact absurd happlied (by decide)

end SmoothRun

end OMXZoom

end CameraHal
