import Gs702aHal.Camera.BestSize

set_option relaxedAutoImplicit false
set_option autoImplicit false

/-!
# Crop areas

A size that the sensor does not have is made from one that it has: `getCropArea` says which part of
the captured picture is taken, so that it has the proportions of the size that is asked for. The
hardware wants both sides of a part to be multiples of 16.

## Main definitions

* `CameraHal.CropArea.getCropArea` — the function of the source. It has no result if a division is
  by zero or a number does not fit in an `int`.
* `CameraHal.ExtendedResolution.findBestExSize` — the function of the source, with the record that
  it writes.
* `CameraHal.CropArea.Within` — the part lies in the picture, and its sides are multiples of 16.
* `CameraHal.Overwide` — the sizes for which it does not.

## Main results

* `CameraHal.crop_within_iff` — when the part lies in the picture.
-/

namespace CameraHal

open Status SentinelScan

/-! ### Numbers -/

/-- The outputs of `getCropArea`. -/
structure CropArea where
  needCrop : Bool
  cw : ℤ
  ch : ℤ
  deriving DecidableEq, Repr

namespace CropArea

/-- A number that is computed as an `int`. -/
def int (x : ℤ) : Option ℤ := if -2147483648 ≤ x ∧ x < 2147483648 then some x else none

/-- `a * b / c`, with the product an `int`. -/
def scaled (a b c : ℤ) : Option ℤ := do
  let product ← int (a * b)
  if c = 0 then none else int (product.tdiv c)

/-- `SIZE_ALIGN_DOWN_16` clears the four lowest bits. -/
def SIZE_ALIGN_DOWN_16 (s : ℤ) : ℤ := s / 16 * 16

/-- `MAX_SW_ENC_WIDTH`. -/
def MAX_SW_ENC_WIDTH : ℤ := 800
/-- `MAX_SW_ENC_HEIGHT`. -/
def MAX_SW_ENC_HEIGHT : ℤ := 600

/-! ### The functions -/

/-- `getCropArea`. -/
def getCropArea (sw sh dw dh : ℤ) (isImage : Bool) : Option CropArea := do
  let rw ← scaled sw 65536 dw
  let rh ← scaled sh 65536 dh
  if dw ≥ sw ∧ dh ≥ sh then
    if rw = rh then some ⟨false, sw, sh⟩
    else if rw < rh then
      some ⟨true, SIZE_ALIGN_DOWN_16 sw, SIZE_ALIGN_DOWN_16 (← scaled sw dh dw)⟩
    else some ⟨true, SIZE_ALIGN_DOWN_16 (← scaled dw sh dh), SIZE_ALIGN_DOWN_16 sh⟩
  else if dw < sw ∧ dh < sh then
    if isImage ∧ sw ≤ MAX_SW_ENC_WIDTH ∧ sh ≤ MAX_SW_ENC_HEIGHT then
      -- the software encoder makes small pictures smaller itself
      if rw = rh then some ⟨false, sw, sh⟩
      else if rw ≥ rh then
        some ⟨true, SIZE_ALIGN_DOWN_16 (← scaled sh dw dh), SIZE_ALIGN_DOWN_16 sh⟩
      else some ⟨true, SIZE_ALIGN_DOWN_16 sw, SIZE_ALIGN_DOWN_16 (← scaled sw dh dw)⟩
    else some ⟨true, SIZE_ALIGN_DOWN_16 dw, SIZE_ALIGN_DOWN_16 dh⟩
  else if dw > sw then
    some ⟨true, SIZE_ALIGN_DOWN_16 sw, SIZE_ALIGN_DOWN_16 (← scaled dh sw dw)⟩
  else some ⟨true, SIZE_ALIGN_DOWN_16 (← scaled dw sh dh), SIZE_ALIGN_DOWN_16 sh⟩

end CropArea

open CropArea

/-- A size that is made from another one. -/
structure ExtendedResolution where
  width : BitVec 32
  height : BitVec 32
  captureWidth : BitVec 32
  captureHeight : BitVec 32
  cropWidth : BitVec 32
  cropHeight : BitVec 32
  needCrop : Bool
  deriving DecidableEq, Repr

/-- The size of the hardware that `findBestExSize` takes. -/
def nearestExSize (hwSizes : List CameraResCfg) (r : CameraResCfg) (isImage : Bool) :
    Option CameraResCfg :=
  nearestSize r (hwSizes.filter fun hw => weighed r hw isImage)

/-- `findBestExSize` with the record that it writes; `none` if `getCropArea` has no result. -/
def ExtendedResolution.findBestExSize (hwSizes : List CameraResCfg) (r : CameraResCfg)
    (exres : ExtendedResolution) (isImage : Bool) : Option (Status × ExtendedResolution) :=
  match nearestExSize hwSizes r isImage with
  | none => some (BAD_VALUE, exres)
  | some hw => do
    let crop ← getCropArea hw.width.toInt hw.height.toInt r.width.toInt r.height.toInt isImage
    some (NO_ERROR, ⟨r.width, r.height, hw.width, hw.height, BitVec.ofInt 32 crop.cw,
      BitVec.ofInt 32 crop.ch, crop.needCrop⟩)

/-- A size is found exactly if the capabilities count the extended size as one. -/
lemma isSome_nearestExSize (hwSizes : List CameraResCfg) (r : CameraResCfg) (isImage : Bool) :
    (nearestExSize hwSizes r isImage).isSome = findBestExSize hwSizes r isImage := by
  rw [Bool.eq_iff_iff, nearestExSize, nearestSize, isSome_scan_iff, findBestExSize,
    List.any_eq_true]
  simp only [List.mem_filter, Bool.and_eq_true, decide_eq_true_eq, weightFor, and_assoc]

/-! ### What is asked of them -/

/-- A side from 1 to 32767. -/
def Side (x : ℤ) : Prop := 1 ≤ x ∧ x ≤ 32767

instance (x : ℤ) : Decidable (Side x) := inferInstanceAs (Decidable (_ ∧ _))

/-- The part lies in the picture of the given size, and its sides are multiples of 16 if a part is
needed. -/
structure CropArea.Within (c : CropArea) (sw sh : ℤ) : Prop where
  width : c.cw ≤ sw
  height : c.ch ≤ sh
  aligned : c.needCrop = true → 16 ∣ c.cw ∧ 16 ∣ c.ch

/-- The widths are equal, the height has to become smaller, and the width that has the proportions
of the smaller height exceeds that of the picture by a multiple of 16. -/
def Overwide (sw sh dw dh : ℤ) : Prop := dw = sw ∧ dh < sh ∧ (sw / 16 + 1) * 16 * dh ≤ sw * sh

instance (sw sh dw dh : ℤ) : Decidable (Overwide sw sh dw dh) :=
  inferInstanceAs (Decidable (_ ∧ _))

/-! ### Sides -/

namespace CropArea

/-- An aligned number is not larger. -/
lemma SIZE_ALIGN_DOWN_16_le (s : ℤ) : SIZE_ALIGN_DOWN_16 s ≤ s := by
  unfold SIZE_ALIGN_DOWN_16
  omega

/-- An aligned number is not negative if the number is not. -/
lemma SIZE_ALIGN_DOWN_16_nonneg {s : ℤ} (h : 0 ≤ s) : 0 ≤ SIZE_ALIGN_DOWN_16 s := by
  unfold SIZE_ALIGN_DOWN_16
  omega

/-- An aligned number is a multiple of 16. -/
lemma dvd_SIZE_ALIGN_DOWN_16 (s : ℤ) : 16 ∣ SIZE_ALIGN_DOWN_16 s := Int.dvd_mul_left _ _

/-- Sides are scaled without overflow. -/
lemma scaled_eq {a b c : ℤ} (ha : Side a) (hb : 0 ≤ b) (hb' : b ≤ 65536) (hc : Side c) :
    scaled a b c = some (a * b / c) := by
  obtain ⟨ha, ha'⟩ := ha
  obtain ⟨hc, -⟩ := hc
  have hnonneg : 0 ≤ a * b := Int.mul_nonneg (by omega) hb
  have hle : a * b ≤ 32767 * 65536 :=
    Int.mul_le_mul ha' hb' hb (by omega)
  have hquot : 0 ≤ a * b / c := Int.ediv_nonneg hnonneg (by omega)
  have hquot' : a * b / c ≤ a * b := Int.ediv_le_self c hnonneg
  unfold scaled int
  rw [if_pos (by omega)]
  simp only [Option.bind_eq_bind, Option.bind_some]
  rw [if_neg (by omega), Int.tdiv_eq_ediv_of_nonneg hnonneg, if_pos (by omega)]

/-- A side has the smaller ratio if the cross products say so. -/
lemma mul_lt_mul_of_ratio {sw sh dw dh : ℤ} (hdw : Side dw) (hdh : Side dh)
    (h : sw * 65536 / dw < sh * 65536 / dh) : sw * dh < sh * dw := by
  obtain ⟨hdw, -⟩ := hdw
  obtain ⟨hdh, -⟩ := hdh
  have hlow : sw * 65536 < (sw * 65536 / dw + 1) * dw := Int.lt_ediv_add_one_mul_self _ (by omega)
  have hhigh : sh * 65536 / dh * dh ≤ sh * 65536 := Int.ediv_mul_le _ (by omega)
  have hstep : (sw * 65536 / dw + 1) * (dw * dh) ≤ sh * 65536 / dh * (dw * dh) :=
    Int.mul_le_mul_of_nonneg_right (by omega) (Int.mul_nonneg (by omega) (by omega))
  have hcross : sw * 65536 * dh < sh * 65536 * dw := by
    calc sw * 65536 * dh < (sw * 65536 / dw + 1) * dw * dh :=
          Int.mul_lt_mul_of_pos_right hlow (by omega)
      _ = (sw * 65536 / dw + 1) * (dw * dh) := Int.mul_assoc _ _ _
      _ ≤ sh * 65536 / dh * (dw * dh) := hstep
      _ = sh * 65536 / dh * dh * dw := by
          rw [Int.mul_comm dw dh, Int.mul_assoc]
      _ ≤ sh * 65536 * dw := Int.mul_le_mul_of_nonneg_right hhigh (by omega)
  have hl : sw * 65536 * dh = 65536 * (sw * dh) := by
    rw [Int.mul_comm sw, Int.mul_assoc]
  have hr : sh * 65536 * dw = 65536 * (sh * dw) := by
    rw [Int.mul_comm sh, Int.mul_assoc]
  omega

/-- A scaled and aligned side is at most a bound if the products say so. -/
lemma aligned_le {a b c d : ℤ} (hc : Side c) (h : a * b ≤ d * c) :
    SIZE_ALIGN_DOWN_16 (a * b / c) ≤ d := by
  obtain ⟨hc, -⟩ := hc
  exact (SIZE_ALIGN_DOWN_16_le _).trans (Int.ediv_le_of_le_mul (by omega) h)

/-! ### The part -/

/-- The result of `getCropArea`, as far as it matters: nothing overflows, both sides are aligned,
and they are at most those of the picture, unless the widths are equal and the height has to become
smaller.

**Proof sketch.** Where a side is scaled by the ratio of the others, the comparison of the ratios
says that the cross products are in order. Only the last branch has no such comparison. -/
lemma getCropArea_spec {sw sh dw dh : ℤ} (hsw : Side sw) (hsh : Side sh) (hdw : Side dw)
    (hdh : Side dh) (isImage : Bool) :
    ∃ c, getCropArea sw sh dw dh isImage = some c ∧
      (c.needCrop = true → 16 ∣ c.cw ∧ 16 ∣ c.ch) ∧ 0 ≤ c.cw ∧ 0 ≤ c.ch ∧ c.ch ≤ sh ∧
      (¬(dw = sw ∧ dh < sh) → c.cw ≤ sw) ∧
      (dw = sw ∧ dh < sh → c.cw = SIZE_ALIGN_DOWN_16 (dw * sh / dh)) := by
  have hscaled := fun (a b c : ℤ) (ha : Side a) (hb : Side b) (hc : Side c) =>
    scaled_eq ha (show 0 ≤ b by unfold Side at hb; omega)
      (show b ≤ 65536 by unfold Side at hb; omega) hc
  have hnarrow := @mul_lt_mul_of_ratio sw sh dw dh hdw hdh
  have hwide := @mul_lt_mul_of_ratio sh sw dh dw hdh hdw
  have hcomm := Int.mul_comm sh dw
  have hdvd := dvd_SIZE_ALIGN_DOWN_16
  have hle := SIZE_ALIGN_DOWN_16_le
  -- a side that is scaled down is at most the side before
  have hshrinkw : dh ≥ sh → dw * sh ≤ dw * dh := fun h =>
    Int.mul_le_mul_of_nonneg_left h (by unfold Side at hdw; omega)
  have hshrinkh : dw > sw → dh * sw ≤ dh * dw := fun h =>
    Int.mul_le_mul_of_nonneg_left (by omega) (by unfold Side at hdh; omega)
  unfold getCropArea
  rw [scaled_eq hsw (by omega) (by omega) hdw, scaled_eq hsh (by omega) (by omega) hdh,
    hscaled sw dh dw hsw hdh hdw, hscaled dw sh dh hdw hsh hdh, hscaled sh dw dh hsh hdw hdh,
    hscaled dh sw dw hdh hsw hdw]
  simp only [Option.bind_eq_bind, Option.bind_some]
  have hsw0 : 0 ≤ sw := by unfold Side at hsw; omega
  have hsh0 : 0 ≤ sh := by unfold Side at hsh; omega
  have hpos := fun {x : ℤ} (hx : Side x) =>
    SIZE_ALIGN_DOWN_16_nonneg (show 0 ≤ x by unfold Side at hx; omega)
  have hquot := fun {a b c : ℤ} (ha : Side a) (hb : Side b) (hc : Side c) =>
    SIZE_ALIGN_DOWN_16_nonneg (Int.ediv_nonneg (Int.mul_nonneg
      (show 0 ≤ a by unfold Side at ha; omega) (show 0 ≤ b by unfold Side at hb; omega))
      (show 0 ≤ c by unfold Side at hc; omega))
  have hpair := fun x y : ℤ => fun _ : true = true => And.intro (hdvd x) (hdvd y)
  split_ifs with hgrow hsame hlt hshrink hsoft hsame hge hw
  · exact ⟨_, rfl, by simp, hsw0, hsh0, le_refl sh, fun _ => le_refl sw, by omega⟩
  · exact ⟨_, rfl, hpair _ _, hpos hsw, hquot hsw hdh hdw, aligned_le hdw (by omega),
      fun _ => hle sw, by omega⟩
  · exact ⟨_, rfl, hpair _ _, hquot hdw hsh hdh, hpos hsh, hle sh,
      fun _ => aligned_le hdh (by omega), by omega⟩
  · exact ⟨_, rfl, by simp, hsw0, hsh0, le_refl sh, fun _ => le_refl sw, by omega⟩
  · exact ⟨_, rfl, hpair _ _, hquot hsh hdw hdh, hpos hsh, hle sh,
      fun _ => aligned_le hdh (by omega), by omega⟩
  · exact ⟨_, rfl, hpair _ _, hpos hsw, hquot hsw hdh hdw, aligned_le hdw (by omega),
      fun _ => hle sw, by omega⟩
  · exact ⟨_, rfl, hpair _ _, hpos hdw, hpos hdh, (hle dh).trans (by omega),
      fun _ => (hle dw).trans (by omega), by omega⟩
  · refine ⟨_, rfl, hpair _ _, hpos hsw, hquot hdh hsw hdw, ?_, fun _ => hle sw, by omega⟩
    exact (aligned_le hdw (hshrinkh hw)).trans (by omega)
  · refine ⟨_, rfl, hpair _ _, hquot hdw hsh hdh, hpos hsh, hle sh, fun h => ?_, fun _ => rfl⟩
    exact (aligned_le hdh (hshrinkw (by omega))).trans (by omega)

/-- The width of the last branch is too large exactly for the sizes that are too wide. -/
lemma aligned_le_iff {sw sh dw dh : ℤ} (hdh : Side dh) (hdw : dw = sw) :
    SIZE_ALIGN_DOWN_16 (dw * sh / dh) ≤ sw ↔ ¬(sw / 16 + 1) * 16 * dh ≤ sw * sh := by
  subst hdw
  obtain ⟨hpos, -⟩ := hdh
  rw [not_le, ← Int.ediv_lt_iff_lt_mul (by omega)]
  unfold SIZE_ALIGN_DOWN_16
  omega

/-- The part lies in the picture unless the sizes are too wide. -/
lemma within_iff {sw sh dw dh : ℤ} (hsw : Side sw) (hsh : Side sh) (hdw : Side dw)
    (hdh : Side dh) (isImage : Bool) :
    (∃ c, getCropArea sw sh dw dh isImage = some c ∧ c.Within sw sh) ↔ ¬Overwide sw sh dw dh := by
  obtain ⟨c, hc, haligned, -, -, hch, hcw, hlast⟩ := getCropArea_spec hsw hsh hdw hdh isImage
  have hiff := @aligned_le_iff sw sh dw dh hdh
  constructor
  · rintro ⟨c', hc', hwithin⟩ ⟨hdw, hdh, hwide⟩
    rw [hc] at hc'
    obtain rfl := Option.some.inj hc'
    have hle := hwithin.width
    rw [hlast ⟨hdw, hdh⟩] at hle
    exact (hiff hdw).mp hle hwide
  · intro hnot
    refine ⟨c, hc, ?_, hch, haligned⟩
    by_cases hbranch : dw = sw ∧ dh < sh
    · rw [hlast hbranch]
      exact (hiff hbranch.1).mpr fun hwide => hnot ⟨hbranch.1, hbranch.2, hwide⟩
    · exact hcw hbranch

end CropArea

/-! ### The record -/

/-- Both sides of a size are sides. -/
def CameraResCfg.Sides (r : CameraResCfg) : Prop := Side r.width.toInt ∧ Side r.height.toInt

/-- The part that is recorded lies in the picture that is captured. -/
def ExtendedResolution.CropWithin (e : ExtendedResolution) : Prop :=
  e.cropWidth ≤ e.captureWidth ∧ e.cropHeight ≤ e.captureHeight

/-- The sizes are too wide for each other. -/
def CameraResCfg.Overwide (hw r : CameraResCfg) : Prop :=
  CameraHal.Overwide hw.width.toInt hw.height.toInt r.width.toInt r.height.toInt

/-- A number that is not negative and fits is compared as an unsigned word. -/
lemma ofInt_le_iff {x : ℤ} {y : BitVec 32} (hx : 0 ≤ x) (hfits : x < 2147483648)
    (hy : 0 ≤ y.toInt) : BitVec.ofInt 32 x ≤ y ↔ x ≤ y.toInt := by
  have hnat : (BitVec.ofInt 32 x).toNat = x.toNat := by
    rw [BitVec.toNat_ofInt]
    omega
  have hlt := y.isLt
  rw [BitVec.le_def, hnat]
  rw [BitVec.toInt_eq_toNat_cond] at hy ⊢
  split_ifs at hy ⊢ <;> omega

/-- The width of the part fits. -/
lemma scaled_lt {dw sh dh : ℤ} (hdw : Side dw) (hsh : Side sh) :
    CropArea.SIZE_ALIGN_DOWN_16 (dw * sh / dh) < 2147483648 := by
  obtain ⟨hdw, hdw'⟩ := hdw
  obtain ⟨hsh, hsh'⟩ := hsh
  have hnonneg : 0 ≤ dw * sh := Int.mul_nonneg (by omega) (by omega)
  have hle : dw * sh ≤ 32767 * 32767 := Int.mul_le_mul hdw' hsh' (by omega) (by omega)
  have hquot : dw * sh / dh ≤ dw * sh := Int.ediv_le_self dh hnonneg
  have halign := SIZE_ALIGN_DOWN_16_le (dw * sh / dh)
  omega

/-- What is recorded lies in the captured picture unless the sizes are too wide. -/
lemma cropWithin_iff {hwSizes : List CameraResCfg} {r hw : CameraResCfg} {isImage : Bool}
    (hfound : nearestExSize hwSizes r isImage = some hw) (hhw : hw.Sides) (hr : r.Sides)
    (exres : ExtendedResolution) :
    ∃ e, ExtendedResolution.findBestExSize hwSizes r exres isImage = some (NO_ERROR, e) ∧
      e.captureWidth = hw.width ∧ e.captureHeight = hw.height ∧
      (e.CropWithin ↔ ¬hw.Overwide r) := by
  obtain ⟨hsw, hsh⟩ := hhw
  obtain ⟨hdw, hdh⟩ := hr
  obtain ⟨c, hc, haligned, hcw0, hch0, hch, hcw, hlast⟩ :=
    getCropArea_spec hsw hsh hdw hdh isImage
  have hwithin := within_iff hsw hsh hdw hdh isImage
  have hfits : c.cw < 2147483648 := by
    by_cases hbranch : r.width.toInt = hw.width.toInt ∧ r.height.toInt < hw.height.toInt
    · rw [hlast hbranch]
      exact scaled_lt hdw hsh
    · have hle := hcw hbranch
      unfold Side at hsw
      omega
  refine ⟨⟨r.width, r.height, hw.width, hw.height, BitVec.ofInt 32 c.cw, BitVec.ofInt 32 c.ch,
    c.needCrop⟩, ?_, rfl, rfl, ?_⟩
  · simp only [ExtendedResolution.findBestExSize, hfound, hc, Option.bind_eq_bind,
      Option.bind_some]
  · unfold Side at hsw hsh
    unfold ExtendedResolution.CropWithin CameraResCfg.Overwide
    dsimp only
    rw [ofInt_le_iff hcw0 hfits (by omega), ofInt_le_iff hch0 (by omega) (by omega), ← hwithin]
    constructor
    · rintro ⟨hwidth, hheight⟩
      exact ⟨c, hc, hwidth, hheight, haligned⟩
    · rintro ⟨c', hc', h⟩
      rw [hc] at hc'
      obtain rfl := Option.some.inj hc'
      exact ⟨h.width, h.height⟩

/-- **The crop area lies in the picture** exactly if the sizes are not too wide for each other. For
all sides from 1 to 32767, for pictures and for previews, no number overflows and both sides of a
part are multiples of 16; the height is never too large, and the width is too large exactly if the
width that is asked for is that of the picture, the height is smaller, and the width that has these
proportions exceeds that of the picture by a multiple of 16. So what `findBestExSize` records lies
in the picture that it captures exactly if the size that it takes is not of this kind.

**Proof sketch.** Each scaled side of the first branches is bounded by the comparison of the ratios
or of the sides. The last branch also takes equal widths with a smaller height, for which the width
is scaled up. -/
theorem crop_within_iff (sw sh dw dh : ℤ) (isImage : Bool) (hwSizes : List CameraResCfg)
    (r : CameraResCfg) (exres : ExtendedResolution) :
    (Side sw → Side sh → Side dw → Side dh →
      ((∃ c, getCropArea sw sh dw dh isImage = some c ∧ c.Within sw sh) ↔
        ¬Overwide sw sh dw dh)) ∧
    ((∀ hw ∈ hwSizes, hw.Sides) → r.Sides →
      (nearestExSize hwSizes r isImage = none →
        ExtendedResolution.findBestExSize hwSizes r exres isImage = some (BAD_VALUE, exres)) ∧
      ∀ hw, nearestExSize hwSizes r isImage = some hw →
        ∃ e, ExtendedResolution.findBestExSize hwSizes r exres isImage = some (NO_ERROR, e) ∧
          e.captureWidth = hw.width ∧ e.captureHeight = hw.height ∧
          (e.CropWithin ↔ ¬hw.Overwide r)) := by
  refine ⟨fun hsw hsh hdw hdh => within_iff hsw hsh hdw hdh isImage,
    fun hall hr => ⟨fun hnone => ?_, fun hw hfound => ?_⟩⟩
  · rw [ExtendedResolution.findBestExSize, hnone]
  · have hmem := (List.mem_filter.mp (of_nearestSize hfound).1).1
    exact cropWithin_iff hfound (hall hw hmem) hr exres

/-- A picture of 640 x 480 is captured for a preview of 480 x 320. -/
theorem crop_within_preview :
    ((∃ c, getCropArea 640 480 480 320 false = some c ∧ c.Within 640 480) ↔
      ¬Overwide 640 480 480 320) ∧
    ∃ e, ExtendedResolution.findBestExSize [⟨640#32, 480#32⟩] ⟨480#32, 320#32⟩
        ⟨0#32, 0#32, 0#32, 0#32, 0#32, 0#32, false⟩ false = some (NO_ERROR, e) ∧
      e.captureWidth = 640#32 ∧ e.captureHeight = 480#32 ∧
      (e.CropWithin ↔ ¬CameraResCfg.Overwide ⟨640#32, 480#32⟩ ⟨480#32, 320#32⟩) := by
  have hspec := crop_within_iff 640 480 480 320 false [⟨640#32, 480#32⟩] ⟨480#32, 320#32⟩
    ⟨0#32, 0#32, 0#32, 0#32, 0#32, 0#32, false⟩
  refine ⟨hspec.1 (by decide) (by decide) (by decide) (by decide),
    (hspec.2 ?_ ?_).2 ⟨640#32, 480#32⟩ ?_⟩
  · intro hw hmem
    rw [List.mem_singleton.mp hmem]
    exact ⟨by decide, by decide⟩
  · exact ⟨by decide, by decide⟩
  · decide

/-- From a picture of 640 x 480, a part of 848 x 480 is taken for 640 x 360. -/
theorem not_crop_within :
    ¬∃ c, getCropArea 640 480 640 360 false = some c ∧ c.Within 640 480 := by
  rintro ⟨c, hc, hwithin⟩
  have hresult : getCropArea 640 480 640 360 false = some ⟨true, 848, 480⟩ := by decide
  rw [hresult] at hc
  obtain rfl := Option.some.inj hc
  exact absurd hwithin.width (by decide)

end CameraHal
