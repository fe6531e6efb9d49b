import Mathlib.Algebra.Group.Nat.Defs
import Gs702aHal.Lib.Blocks
import Gs702aHal.Camera.FocusAreas

set_option relaxedAutoImplicit false
set_option autoImplicit false

/-!
# Touch focus

`setTouchFocus` sends the focus areas to the component, as a record with a region for each area that
it builds in a block of its own. The record is declared in headers of the component that are not
part of this repository: their layout is a parameter, with what these headers document. So is the
product of two floating-point numbers by which an area is scaled to the preview.

## Main definitions

* `CameraHal.FocusLayout` — the layout of the record.
* `CameraHal.CameraArea.transfrom` — the region of an area in the preview.
* `CameraHal.TouchFocus.setTouchFocus` — the function of the source: what it sends, and where it
  writes.
* `CameraHal.TouchFocus.Transmits` — it sends the areas, and writes into its block only.

## Main results

* `CameraHal.TouchFocus.transmits_iff` — when it does so.
-/

namespace CameraHal

open Status

/-! ### The record -/

/-- `OMX_FOCUSREGIONCONTROL`. -/
inductive FocusRegionsControl
  | OMX_FocusRegionControlAuto
  | OMX_FocusRegionControlManual
  deriving DecidableEq, Repr

/-- A region (`OMX_MANUALFOCUSRECTTYPE`). -/
structure FocusRect where
  nRectX : BitVec 32
  nRectY : BitVec 32
  nRectWidth : BitVec 32
  nRectHeight : BitVec 32
  deriving DecidableEq, Repr

/-- What the component reads from `OMX_CONFIG_FOCUSREGIONCONTROLTYPE`: as many regions as
`nFAreas` says. -/
structure FocusRegionControl where
  nFAreas : ℕ
  eFocusRegionsControl : FocusRegionsControl
  sManualFRegions : List FocusRect
  deriving DecidableEq, Repr

/-- The layout of `OMX_CONFIG_FOCUSREGIONCONTROLTYPE` and `OMX_MANUALFOCUSRECTTYPE`: their sizes,
and the places of the members. Each record begins with its size and its version, the regions come
last, and there is at least one. -/
structure FocusLayout where
  sizeofControl : ℕ
  sizeofRect : ℕ
  nFAreas : ℕ
  eFocusRegionsControl : ℕ
  sManualFRegions : ℕ
  header : 8 ≤ nFAreas ∧ 8 ≤ eFocusRegionsControl ∧
    nFAreas + 4 ≤ sManualFRegions ∧ eFocusRegionsControl + 4 ≤ sManualFRegions
  rect : sizeofRect = 16
  regions : sManualFRegions + sizeofRect ≤ sizeofControl

/-- A write of some bytes at a place of the block. -/
structure BlockWrite where
  offset : ℕ
  size : ℕ
  deriving DecidableEq, Repr

/-- A write lies in a block of the given length. -/
def BlockWrite.Inside (w : BlockWrite) (dataLen : ℕ) : Prop := w.offset + w.size ≤ dataLen

namespace FocusLayout

variable (layout : FocusLayout)

/-- The writes of `OMX_INIT_STRUCT_PTR`: the whole record, its size and the four bytes of its
version. -/
def initStruct : List BlockWrite :=
  [⟨0, layout.sizeofControl⟩, ⟨0, 4⟩, ⟨4, 1⟩, ⟨5, 1⟩, ⟨6, 1⟩, ⟨7, 1⟩]

/-- The writes of the two members before the regions. -/
def members : List BlockWrite := [⟨layout.nFAreas, 4⟩, ⟨layout.eFocusRegionsControl, 4⟩]

/-- The writes of one region. -/
def region (n : ℕ) : List BlockWrite :=
  let place := layout.sManualFRegions + n * layout.sizeofRect
  [⟨place, 4⟩, ⟨place + 4, 4⟩, ⟨place + 8, 4⟩, ⟨place + 12, 4⟩]

end FocusLayout

/-! ### The function -/

namespace CameraArea

/-- `transfrom`: the region of an area, with the top in `nRectX` and the left in `nRectY` as
`setTouchFocus` has it. `scale x extent range` is the `size_t` of
`x * ((double) extent / range)`. -/
def transfrom (scale : BitVec 32 → BitVec 32 → BitVec 32 → BitVec 32) (a : CameraArea)
    (width height : BitVec 32) : FocusRect :=
  let hRange := BitVec.ofInt 32 (RIGHT - LEFT)
  let vRange := BitVec.ofInt 32 (BOTTOM - TOP)
  let top := scale (BitVec.ofInt 32 a.mTop + vRange / 2) height vRange
  let left := scale (BitVec.ofInt 32 a.mLeft + hRange / 2) width hRange
  let areaHeight := scale (BitVec.ofInt 32 a.mBottom + vRange / 2) height vRange - top
  let areaWidth := scale (BitVec.ofInt 32 a.mRight + hRange / 2) width hRange - left
  ⟨top, left, areaWidth, areaHeight⟩

/-- `isZeroArea`. -/
def isZeroArea (a : CameraArea) : Bool :=
  0 == a.mTop && 0 == a.mLeft && 0 == a.mBottom && 0 == a.mRight && 0 == a.mWeight

end CameraArea

namespace TouchFocus

open CameraArea

/-- The size of a pointer. -/
def SIZEOF_POINTER : ℕ := 4

/-- What a call of `setTouchFocus` meets: the two capabilities, whether the focus mode is automatic
and the component valid, the size of the preview, the areas, whether there is memory, and what the
component answers. -/
structure TouchFocusCall where
  FOCUS_SUPPORTED : Text
  MAX_REAL_FOCUS_AREAS : Text
  focusControlAuto : Bool
  componentValid : Bool
  mWidth : BitVec 32
  mHeight : BitVec 32
  mFocusAreas : List CameraArea
  memory : Bool
  setConfig : Bool

/-- What a call does: what it sends, the length of the block, the writes into it, and the
status. -/
structure TouchFocusOutcome where
  sent : Option FocusRegionControl
  dataLen : ℕ
  writes : List BlockWrite
  ret : Status
  deriving DecidableEq

/-- A call that sends nothing. -/
def nothing (ret : Status) : TouchFocusOutcome := ⟨none, 0, [], ret⟩

/-- The answer of the component as a status. -/
def answer (setConfig : Bool) : Status := if setConfig then NO_ERROR else EINVAL

/-- The branch for several areas. -/
def manual (layout : FocusLayout) (scale : BitVec 32 → BitVec 32 → BitVec 32 → BitVec 32)
    (call : TouchFocusCall) : TouchFocusOutcome :=
  let regionSize := call.mFocusAreas.length
  -- the size of the pointer, not of the record
  { dataLen := (SIZEOF_POINTER + layout.sizeofRect * (regionSize - 1)) % 2 ^ 32
    writes := layout.initStruct ++ layout.members ++ Blocks.concat regionSize layout.region
    sent := some ⟨regionSize, .OMX_FocusRegionControlManual,
      call.mFocusAreas.map fun a => a.transfrom scale call.mWidth call.mHeight⟩
    ret := answer call.setConfig }

/-- The other branch. -/
def automatic (layout : FocusLayout) (call : TouchFocusCall) : TouchFocusOutcome where
  dataLen := layout.sizeofControl
  writes := layout.initStruct ++ layout.members
  sent := some ⟨0, .OMX_FocusRegionControlAuto, []⟩
  ret := answer call.setConfig

/-- `setTouchFocus`. -/
def setTouchFocus (layout : FocusLayout) (scale : BitVec 32 → BitVec 32 → BitVec 32 → BitVec 32)
    (call : TouchFocusCall) : TouchFocusOutcome :=
  if call.FOCUS_SUPPORTED = SetParameters.FALSE then nothing NO_ERROR
  else if call.MAX_REAL_FOCUS_AREAS = "0".toList then nothing NO_ERROR
  else if !call.focusControlAuto then nothing NO_ERROR
  else if !call.componentValid then nothing (-1#32)
  else if call.mFocusAreas.length = 1 ∧ call.mFocusAreas.all isZeroArea then nothing NO_ERROR
  else if !call.memory then nothing NO_MEMORY
  else if 1 < call.mFocusAreas.length then manual layout scale call
  else automatic layout call

/-! ### What is asked of it -/

/-- The call gets as far as the areas: there is an automatic focus with real areas, and the
component can be told. -/
structure Sends (call : TouchFocusCall) : Prop where
  supported : call.FOCUS_SUPPORTED ≠ SetParameters.FALSE
  realAreas : call.MAX_REAL_FOCUS_AREAS ≠ "0".toList
  focus : call.focusControlAuto = true
  component : call.componentValid = true
  memory : call.memory = true

/-- An area that can be sent. -/
def Sendable (a : CameraArea) : Prop := a.Valid ∧ a.isZeroArea = false

instance (a : CameraArea) : Decidable (Sendable a) := inferInstanceAs (Decidable (_ ∧ _))

/-- The area of zeros. -/
def zeroArea : CameraArea := ⟨0, 0, 0, 0, 0⟩

/-- What is asked of `setTouchFocus`: some areas that can be sent are sent, in order and with their
number, and everything is written into the block; for no area and for the area of zeros, the
component is told to choose the areas itself. -/
structure Transmits (layout : FocusLayout)
    (scale : BitVec 32 → BitVec 32 → BitVec 32 → BitVec 32) (call : TouchFocusCall) : Prop where
  manual : call.mFocusAreas ≠ [] → (∀ a ∈ call.mFocusAreas, Sendable a) →
    (setTouchFocus layout scale call).sent =
      some ⟨call.mFocusAreas.length, .OMX_FocusRegionControlManual,
        call.mFocusAreas.map fun a => a.transfrom scale call.mWidth call.mHeight⟩ ∧
    ∀ w ∈ (setTouchFocus layout scale call).writes,
      w.Inside (setTouchFocus layout scale call).dataLen
  automatic : call.mFocusAreas = [] ∨ call.mFocusAreas = [zeroArea] →
    (setTouchFocus layout scale call).sent = some ⟨0, .OMX_FocusRegionControlAuto, []⟩

variable {layout : FocusLayout} {scale : BitVec 32 → BitVec 32 → BitVec 32 → BitVec 32}
  {call : TouchFocusCall}

/-- A call that gets as far as the areas looks at them only. -/
lemma setTouchFocus_of_sends (h : Sends call) :
    setTouchFocus layout scale call =
      if call.mFocusAreas.length = 1 ∧ call.mFocusAreas.all isZeroArea then nothing NO_ERROR
      else if 1 < call.mFocusAreas.length then manual layout scale call
      else automatic layout call := by
  unfold setTouchFocus
  rw [if_neg h.supported, if_neg h.realAreas, if_neg (by simp [h.focus]),
    if_neg (by simp [h.component])]
  simp only [h.memory, Bool.not_true, Bool.false_eq_true, if_false]

/-- A call that does not get there sends nothing. -/
lemma sent_of_not_sends (h : ¬Sends call) : (setTouchFocus layout scale call).sent = none := by
  unfold setTouchFocus
  split_ifs with h₁ h₂ h₃ h₄ h₅ h₆
  · rfl
  · rfl
  · rfl
  · rfl
  · rfl
  · rfl
  · exact absurd ⟨h₁, h₂, by simpa using h₃, by simpa using h₄, by simpa using h₆⟩ h
  · exact absurd ⟨h₁, h₂, by simpa using h₃, by simpa using h₄, by simpa using h₆⟩ h

/-- The last region is not in the block. -/
lemma exists_not_inside (layout : FocusLayout) {k : ℕ} (hk : 0 < k) :
    ∃ w ∈ Blocks.concat k layout.region,
      ¬w.Inside ((SIZEOF_POINTER + layout.sizeofRect * (k - 1)) % 2 ^ 32) := by
  have hheader := layout.header
  have hcomm := Nat.mul_comm layout.sizeofRect (k - 1)
  have hmod := Nat.mod_le (SIZEOF_POINTER + layout.sizeofRect * (k - 1)) (2 ^ 32)
  refine ⟨⟨layout.sManualFRegions + (k - 1) * layout.sizeofRect, 4⟩,
    Blocks.mem_concat.mpr ⟨k - 1, by omega, List.mem_cons_self⟩, ?_⟩
  unfold BlockWrite.Inside
  unfold SIZEOF_POINTER at hmod ⊢
  dsimp only
  omega

/-- **What `setTouchFocus` transmits.** Whatever the layout of the record: a call that gets as far
as the areas does what is asked of it exactly if there is no area, or nothing is asked, which is the
case for several areas with one among them that cannot be sent. One area is never sent; for several
ones the last region lies behind the block; for the area of zeros nothing is sent. A call that does
not get there sends nothing.

**Proof sketch.** The block has the size of a pointer for what comes before the regions and the
first of them, and the members before the regions need more than that. -/
theorem transmits_iff (layout : FocusLayout)
    (scale : BitVec 32 → BitVec 32 → BitVec 32 → BitVec 32) (call : TouchFocusCall) :
    (Sends call → (Transmits layout scale call ↔
      call.mFocusAreas = [] ∨
        (call.mFocusAreas ≠ [zeroArea] ∧ ∃ a ∈ call.mFocusAreas, ¬Sendable a))) ∧
    (¬Sends call → (setTouchFocus layout scale call).sent = none) := by
  refine ⟨fun hsends => ?_, sent_of_not_sends⟩
  have hcall := @setTouchFocus_of_sends layout scale call hsends
  constructor
  · intro htransmits
    by_contra hcon
    rw [not_or, not_and, not_exists] at hcon
    obtain ⟨hne, hall⟩ := hcon
    by_cases hzero : call.mFocusAreas = [zeroArea]
    · have hsent := htransmits.automatic (Or.inr hzero)
      rw [hcall, hzero, if_pos ⟨rfl, by decide⟩] at hsent
      cases hsent
    · have hsendable : ∀ a ∈ call.mFocusAreas, Sendable a := fun a ha =>
        not_not.mp fun hnot => hall hzero a ⟨ha, hnot⟩
      obtain ⟨hsent, hinside⟩ := htransmits.manual hne hsendable
      have hnonzero : ¬(call.mFocusAreas.length = 1 ∧ call.mFocusAreas.all isZeroArea) := by
        rintro ⟨-, hzeros⟩
        obtain ⟨a, ha⟩ := List.exists_mem_of_ne_nil _ hne
        have ha' := List.all_eq_true.mp hzeros a ha
        rw [(hsendable a ha).2] at ha'
        cases ha'
      rw [hcall, if_neg hnonzero] at hsent hinside
      split_ifs at hsent hinside with hmany
      · obtain ⟨w, hw, hout⟩ := exists_not_inside layout (show 0 < call.mFocusAreas.length by omega)
        exact hout (hinside w (List.mem_append_right _ hw))
      · simp [automatic] at hsent
  · rintro (hnil | ⟨hzero, a, ha, hnot⟩)
    · refine ⟨fun hne => absurd hnil hne, fun _ => ?_⟩
      rw [hcall, hnil, if_neg (by simp), if_neg (by simp)]
      rfl
    · refine ⟨fun _ hall => absurd (hall a ha) hnot, ?_⟩
      rintro (hnil | heq)
      · rw [hnil] at ha
        cases ha
      · exact absurd heq hzero

/-- A layout without other members. -/
def packed : FocusLayout where
  sizeofControl := 32
  sizeofRect := 16
  nFAreas := 8
  eFocusRegionsControl := 12
  sManualFRegions := 16
  header := by decide
  rect := rfl
  regions := by decide

/-- A call for a preview of 640 x 480, with nothing in its way. -/
def touched (mFocusAreas : List CameraArea) : TouchFocusCall where
  FOCUS_SUPPORTED := SetParameters.TRUE
  MAX_REAL_FOCUS_AREAS := "1".toList
  focusControlAuto := true
  componentValid := true
  mWidth := 640#32
  mHeight := 480#32
  mFocusAreas := mFocusAreas
  memory := true
  setConfig := true

/-- The product as it is computed for whole numbers. -/
def wholeScale (x extent range : BitVec 32) : BitVec 32 := x * extent / range

/-- No area is transmitted as it should be. -/
theorem transmits_nil :
    Transmits packed wholeScale (touched []) ↔
      ([] : List CameraArea) = [] ∨
        (([] : List CameraArea) ≠ [zeroArea] ∧ ∃ a ∈ ([] : List CameraArea), ¬Sendable a) :=
  (transmits_iff packed wholeScale (touched [])).1 ⟨by decide, by decide, rfl, rfl, rfl⟩

/-- For one area, the component is told to choose the areas itself. -/
theorem not_transmits_oneArea :
    ¬Transmits packed wholeScale (touched [⟨-100, -100, 100, 100, 1⟩]) := by
  intro htransmits
  have hsent := (htransmits.manual (by decide) (by decide)).1
  revert hsent
  decide

end TouchFocus

end CameraHal
