import Gs702aHal.Lib.SentinelScan
import Gs702aHal.Camera.Capabilities

set_option relaxedAutoImplicit false
set_option autoImplicit false

/-!
# The nearest size and the nearest frame rate

The camera adapter takes the default preview size and the default frame rate from what the sensor
supports: the size with the smallest weight of `sizeNearWeight`, and the first frame-rate mode with
the wanted rate, else the mode whose upper bound is nearest.

## Main definitions

* `CameraHal.findBestSize` — the function of the source, with its two outputs.
* `CameraHal.findBestFps` — the function of the source, with its three outputs.
* `CameraHal.FindsBestFps` — what is asked of it.

## Main results

* `CameraHal.findBestSize_spec` — the size that is found has the smallest weight, and is the size
  that was asked for if the list has it.
* `CameraHal.findsBestFps_iff` — when the mode that is found is the right one.
-/

namespace CameraHal

open Status SentinelScan

/-! ### Sizes -/

/-- The weight of a size of the hardware, for a size that is asked for. -/
def weightFor (request hw : CameraResCfg) : ℤ :=
  (sizeNearWeight request.width request.height hw.width hw.height).toInt

/-- The size with the smallest weight; a weight counts if it is below the largest `int`. -/
def nearestSize (request : CameraResCfg) (hwSizes : List CameraResCfg) : Option CameraResCfg :=
  (scan (weightFor request) 0x7fffffff hwSizes).1

/-- `findBestSize`. The two outputs are written only if a size is found. -/
def findBestSize (hwSizes : List CameraResCfg) (request best : CameraResCfg) :
    Status × CameraResCfg :=
  match nearestSize request hwSizes with
  | some hw => (NO_ERROR, hw)
  | none => (BAD_VALUE, best)

/-- The sides are less than 16384. -/
structure Small (r : CameraResCfg) : Prop where
  width : r.width.toNat < 16384
  height : r.height.toNat < 16384

/-- The smallest size that is asked for: 128 x 96. -/
structure Least (r : CameraResCfg) : Prop where
  width : 128 ≤ r.width.toNat
  height : 96 ≤ r.height.toNat

/-! ### The weight -/

/-- A number that fits in an `int` is its value as an `int`. -/
lemma bmod_of_fits {x : ℤ} (hlow : -2147483648 ≤ x) (hhigh : x < 2147483648) :
    x.bmod (2 ^ 32) = x :=
  Int.bmod_eq_of_le_mul_two (by omega) (by omega)

/-- A small word is its number. -/
lemma toInt_of_small {x : BitVec 32} (h : x.toNat < 16384) : x.toInt = x.toNat :=
  BitVec.toInt_eq_toNat_of_lt (by omega)

/-- The ratio by which one side has to grow, in units of 2⁻¹⁶. -/
def ratio (c d : BitVec 32) : BitVec 32 := ((d - c) <<< 16).sdiv c

/-- The ratio is computed without overflow. -/
lemma toInt_ratio {c d : BitVec 32} (hpos : 0 < c.toNat) (hc : c.toNat < 16384)
    (hd : d.toNat < 16384) :
    (ratio c d).toInt = (((d.toNat : ℤ) - c.toNat) * 65536).tdiv c.toNat := by
  have hsub : (d - c).toInt = (d.toNat : ℤ) - c.toNat := by
    rw [BitVec.toInt_sub, toInt_of_small hc, toInt_of_small hd]
    exact bmod_of_fits (by omega) (by omega)
  have hshift : ((d - c) <<< 16).toInt = ((d.toNat : ℤ) - c.toNat) * 65536 := by
    rw [BitVec.shiftLeft_eq_mul_twoPow, BitVec.toInt_mul, hsub,
      show (BitVec.twoPow 32 16).toInt = 65536 from rfl]
    exact bmod_of_fits (by omega) (by omega)
  have hc' : c ≠ -1#32 := fun h => by
    rw [h] at hc
    exact absurd hc (by decide)
  rw [ratio, BitVec.toInt_sdiv_of_ne_or_ne _ _ (Or.inr hc'), hshift, toInt_of_small hc]

/-- The ratio has the sign of the difference; if it is not zero it is at least four in absolute
value. -/
lemma ratio_cases {c d : BitVec 32} (hmin : 96 ≤ c.toNat) (hc : c.toNat < 16384)
    (hd : d.toNat < 16384) :
    (d = c ∧ (ratio c d).toInt = 0) ∨
      (c.toNat < d.toNat ∧ 4 ≤ (ratio c d).toInt ∧ (ratio c d).toInt ≤ 11184810) ∨
      (d.toNat < c.toNat ∧ -65536 ≤ (ratio c d).toInt ∧ (ratio c d).toInt ≤ -4) := by
  have hpos : (0 : ℤ) < c.toNat := by omega
  rw [toInt_ratio (by omega) hc hd]
  rcases Nat.lt_trichotomy c.toNat d.toNat with hlt | heq | hgt
  · right; left
    rw [Int.tdiv_eq_ediv_of_nonneg (by omega)]
    exact ⟨hlt, (Int.le_ediv_iff_mul_le hpos).mpr (by omega),
      Int.ediv_le_of_le_mul hpos (by omega)⟩
  · left
    refine ⟨BitVec.eq_of_toNat_eq heq.symm, ?_⟩
    rw [heq, Int.sub_self, Int.zero_mul, Int.zero_tdiv]
  · right; right
    have hneg : ((d.toNat : ℤ) - c.toNat) * 65536 = -(((c.toNat : ℤ) - d.toNat) * 65536) := by omega
    rw [hneg, Int.neg_tdiv, Int.tdiv_eq_ediv_of_nonneg (by omega)]
    have hfour : 4 ≤ ((c.toNat : ℤ) - d.toNat) * 65536 / c.toNat :=
      (Int.le_ediv_iff_mul_le hpos).mpr (by omega)
    have hall : ((c.toNat : ℤ) - d.toNat) * 65536 / c.toNat ≤ 65536 :=
      Int.ediv_le_of_le_mul hpos (by omega)
    exact ⟨hgt, by omega, by omega⟩

/-- The size of two ratios: the larger one if their signs agree, else their difference. -/
def spread (x y : BitVec 32) : BitVec 32 :=
  let w :=
    if x.toInt ≥ 0 ∧ y.toInt ≥ 0 then if x.toInt > y.toInt then x else y
    else if x.toInt ≤ 0 ∧ y.toInt ≤ 0 then if x.toInt > y.toInt then y else x
    else if x.toInt < 0 then y - x else x - y
  if w.toInt < 0 then -w else w

/-- The weight in terms of the ratios. -/
lemma sizeNearWeight_eq (cw ch dw dh : BitVec 32) :
    sizeNearWeight cw ch dw dh =
      let w := spread (ratio cw dw) (ratio ch dh)
      let w := if cw.toInt ≥ dw.toInt ∧ ch.toInt ≥ dh.toInt ∧ ratio cw dw = ratio ch dh
        then w.sshiftRight 2 else w
      if dw.toInt < 320 ∨ dh.toInt < 240 then w <<< 4 else w :=
  rfl

/-- A ratio of small sides. -/
def IsRatio (x : BitVec 32) : Prop :=
  x.toInt = 0 ∨ (4 ≤ x.toInt ∧ x.toInt ≤ 11184810) ∨ (-65536 ≤ x.toInt ∧ x.toInt ≤ -4)

/-- The difference of two ratios fits. -/
lemma IsRatio.toInt_sub {x y : BitVec 32} (hx : IsRatio x) (hy : IsRatio y) :
    (x - y).toInt = x.toInt - y.toInt := by
  rw [BitVec.toInt_sub]
  unfold IsRatio at hx hy
  exact bmod_of_fits (by omega) (by omega)

/-- Two ratios that are not both zero are at least four apart from zero; none is too large. -/
lemma spread_cases {x y : BitVec 32} (hx : IsRatio x) (hy : IsRatio y) :
    (x.toInt = 0 ∧ y.toInt = 0 ∧ (spread x y).toInt = 0) ∨
      (¬(x.toInt = 0 ∧ y.toInt = 0) ∧ 4 ≤ (spread x y).toInt ∧
        (spread x y).toInt ≤ 11250346) := by
  have hxy := hx.toInt_sub hy
  have hyx := hy.toInt_sub hx
  have hneg : ∀ w : BitVec 32, -11184810 ≤ w.toInt → w.toInt ≤ 11184810 →
      (-w).toInt = -w.toInt := by
    intro w hlow hhigh
    rw [BitVec.toInt_neg]
    exact bmod_of_fits (by omega) (by omega)
  have hnx := hneg x
  have hny := hneg y
  unfold IsRatio at hx hy
  unfold spread
  dsimp only
  split_ifs <;> omega

/-- A quarter of a word. -/
lemma toInt_sshiftRight_two (w : BitVec 32) : (w.sshiftRight 2).toInt = w.toInt / 4 := by
  rw [BitVec.toInt_sshiftRight, Int.shiftRight_eq_div_pow]
  rfl

/-- Sixteen times a word of the size of a spread fits. -/
lemma toInt_shiftLeft_four {w : BitVec 32} (hlow : 0 ≤ w.toInt) (hhigh : w.toInt ≤ 11250346) :
    (w <<< 4).toInt = w.toInt * 16 := by
  rw [BitVec.shiftLeft_eq_mul_twoPow, BitVec.toInt_mul,
    show (BitVec.twoPow 32 4).toInt = 16 from rfl]
  exact bmod_of_fits (by omega) (by omega)

/-- The ratio of small sides. -/
lemma isRatio_ratio {c d : BitVec 32} (hmin : 96 ≤ c.toNat) (hc : c.toNat < 16384)
    (hd : d.toNat < 16384) : IsRatio (ratio c d) := by
  have hcases := ratio_cases hmin hc hd
  unfold IsRatio
  omega

/-- The ratio of small sides is zero for equal sides only. -/
lemma toInt_ratio_eq_zero_iff {c d : BitVec 32} (hmin : 96 ≤ c.toNat) (hc : c.toNat < 16384)
    (hd : d.toNat < 16384) : (ratio c d).toInt = 0 ↔ d = c := by
  rcases ratio_cases hmin hc hd with ⟨heq, hzero⟩ | ⟨hlt, hfour, -⟩ | ⟨hlt, -, hfour⟩
  · exact iff_of_true hzero heq
  · refine iff_of_false (by omega) ?_
    rintro rfl
    exact Nat.lt_irrefl _ hlt
  · refine iff_of_false (by omega) ?_
    rintro rfl
    exact Nat.lt_irrefl _ hlt

/-- The weight in terms of the spread of the ratios: a quarter of it or sixteen times it are still
between zero and the sentinel. -/
lemma weightFor_of_spread {request hw : CameraResCfg}
    (hhigh : (spread (ratio request.width hw.width)
      (ratio request.height hw.height)).toInt ≤ 11250346) :
    ((spread (ratio request.width hw.width) (ratio request.height hw.height)).toInt = 0 →
      weightFor request hw = 0) ∧
    (4 ≤ (spread (ratio request.width hw.width) (ratio request.height hw.height)).toInt →
      0 < weightFor request hw ∧ weightFor request hw < 0x7fffffff) := by
  unfold weightFor
  rw [sizeNearWeight_eq]
  set w := spread (ratio request.width hw.width) (ratio request.height hw.height)
  have hquarter := toInt_sshiftRight_two w
  have hshift := fun hlow => toInt_shiftLeft_four (w := w) hlow hhigh
  have hboth := fun hlow => toInt_shiftLeft_four (w := w.sshiftRight 2) hlow (by omega)
  dsimp only
  split_ifs <;> omega

/-- A weight that is not zero is positive and not too large, and only the size that is asked for has
weight zero.

**Proof sketch.** The ratios of the sides are zero only for equal sides, and at least four else, so
that a quarter of them is not zero; sixteen times the largest is still far below the sentinel. -/
lemma weightFor_cases {request hw : CameraResCfg} (hleast : Least request)
    (hrequest : Small request) (hhw : Small hw) :
    (hw = request ∧ weightFor request hw = 0) ∨
      (hw ≠ request ∧ 0 < weightFor request hw ∧ weightFor request hw < 0x7fffffff) := by
  have hmin : 96 ≤ request.width.toNat := le_trans (by decide) hleast.width
  have hwidth := toInt_ratio_eq_zero_iff hmin hrequest.width hhw.width
  have hheight := toInt_ratio_eq_zero_iff hleast.height hrequest.height hhw.height
  rcases spread_cases (isRatio_ratio hmin hrequest.width hhw.width)
    (isRatio_ratio hleast.height hrequest.height hhw.height) with
    ⟨hx, hy, hzero⟩ | ⟨hne, hfour, hhigh⟩
  · left
    refine ⟨?_, (weightFor_of_spread (by omega)).1 hzero⟩
    have hweq := hwidth.mp hx
    have hheq := hheight.mp hy
    cases hw
    cases request
    exact congrArg₂ CameraResCfg.mk hweq hheq
  · right
    refine ⟨?_, (weightFor_of_spread hhigh).2 hfour⟩
    rintro rfl
    exact hne ⟨hwidth.mpr rfl, hheight.mpr rfl⟩

/-! ### The nearest size -/

/-- What is found is in the list, and nothing in the list has a smaller weight. -/
lemma of_nearestSize {request chosen : CameraResCfg} {hwSizes : List CameraResCfg}
    (h : nearestSize request hwSizes = some chosen) :
    chosen ∈ hwSizes ∧ ∀ hw ∈ hwSizes, weightFor request chosen ≤ weightFor request hw :=
  ⟨(of_scan_eq_some h).1, (of_scan_eq_some h).2.2⟩

/-- **The nearest size.** From every list of sizes, for every size that is asked for, what
`findBestSize` chooses is in the list and has the smallest weight of the list. If the sides in the
list are less than 16384 and the size that is asked for is at least 128 x 96, no weight overflows:
a size is chosen if the list has one, and the size that is asked for is chosen if it is in the list,
wherever it stands and whatever else the list has.

**Proof sketch.** The scan keeps the smallest weight. Only the size that is asked for has weight
zero, and no weight is negative or reaches the sentinel. -/
theorem findBestSize_spec (hwSizes : List CameraResCfg) (request best : CameraResCfg) :
    (0 < request.width.toInt → 0 < request.height.toInt →
      ∀ chosen, findBestSize hwSizes request best = (NO_ERROR, chosen) →
        chosen ∈ hwSizes ∧ ∀ hw ∈ hwSizes, weightFor request chosen ≤ weightFor request hw) ∧
    ((∀ hw ∈ hwSizes, Small hw) → Least request →
      (Small request → hwSizes ≠ [] →
        ∃ chosen, findBestSize hwSizes request best = (NO_ERROR, chosen)) ∧
      (request ∈ hwSizes → findBestSize hwSizes request best = (NO_ERROR, request))) := by
  have hchosen : ∀ chosen, nearestSize request hwSizes = some chosen →
      findBestSize hwSizes request best = (NO_ERROR, chosen) := by
    intro chosen h
    rw [findBestSize, h]
  refine ⟨fun _ _ chosen h => ?_, fun hsmall hleast => ⟨fun hrequest hne => ?_, fun hmem => ?_⟩⟩
  · unfold findBestSize at h
    split at h
    · rename_i hw hsome
      obtain rfl : hw = chosen := (Prod.mk.inj h).2
      exact of_nearestSize hsome
    · exact absurd (Prod.mk.inj h).1 (by decide)
  · obtain ⟨hw, hmem⟩ := List.exists_mem_of_ne_nil hwSizes hne
    have hbelow : weightFor request hw < 0x7fffffff := by
      rcases weightFor_cases hleast hrequest (hsmall hw hmem) with ⟨-, h⟩ | ⟨-, -, h⟩ <;> omega
    obtain ⟨chosen, hsome⟩ := Option.isSome_iff_exists.mp (isSome_scan_iff.mpr ⟨hw, hmem, hbelow⟩)
    exact ⟨chosen, hchosen chosen hsome⟩
  · have hrequest : Small request := hsmall request hmem
    have hself : weightFor request request = 0 := by
      rcases weightFor_cases hleast hrequest hrequest with ⟨-, h⟩ | ⟨h, -⟩
      · exact h
      · exact absurd rfl h
    obtain ⟨chosen, hsome⟩ := Option.isSome_iff_exists.mp
      (isSome_scan_iff.mpr ⟨request, hmem, show weightFor request request < 0x7fffffff by omega⟩)
    obtain ⟨hin, hle⟩ := of_nearestSize hsome
    have hzero := hle request hmem
    rw [hself] at hzero
    rcases weightFor_cases hleast hrequest (hsmall chosen hin) with ⟨heq, -⟩ | ⟨-, h, -⟩
    · rw [hchosen chosen hsome, heq]
    · omega

/-- A size between a larger and a smaller one is found. -/
theorem findBestSize_vga :
    (0 < (640#32).toInt → 0 < (480#32).toInt →
      ∀ chosen, findBestSize [⟨1280#32, 720#32⟩, ⟨640#32, 480#32⟩, ⟨320#32, 240#32⟩]
          ⟨640#32, 480#32⟩ ⟨0#32, 0#32⟩ = (NO_ERROR, chosen) →
        chosen ∈ [⟨1280#32, 720#32⟩, ⟨640#32, 480#32⟩, ⟨320#32, 240#32⟩] ∧
          ∀ hw ∈ [⟨1280#32, 720#32⟩, ⟨640#32, 480#32⟩, ⟨320#32, 240#32⟩],
            weightFor ⟨640#32, 480#32⟩ chosen ≤ weightFor ⟨640#32, 480#32⟩ hw) ∧
    findBestSize [⟨1280#32, 720#32⟩, ⟨640#32, 480#32⟩, ⟨320#32, 240#32⟩] ⟨640#32, 480#32⟩
      ⟨0#32, 0#32⟩ = (NO_ERROR, ⟨640#32, 480#32⟩) := by
  have hspec := findBestSize_spec [⟨1280#32, 720#32⟩, ⟨640#32, 480#32⟩, ⟨320#32, 240#32⟩]
    ⟨640#32, 480#32⟩ ⟨0#32, 0#32⟩
  have hsmall : ∀ hw ∈ [(⟨1280#32, 720#32⟩ : CameraResCfg), ⟨640#32, 480#32⟩, ⟨320#32, 240#32⟩],
      Small hw := by
    intro hw hmem
    simp only [List.mem_cons, List.not_mem_nil, or_false] at hmem
    rcases hmem with rfl | rfl | rfl <;> exact ⟨by decide, by decide⟩
  exact ⟨hspec.1, (hspec.2 hsmall ⟨by decide, by decide⟩).2 (by decide)⟩

/-! ### Frame rates -/

/-- A frame-rate mode of the sensor (`OMX_ACT_VARFPSTYPE`): its bounds. -/
structure VarFps where
  nVarFPSMin : BitVec 32
  nVarFPSMax : BitVec 32
  deriving DecidableEq, Repr

/-- The outputs of `findBestFps`. -/
structure BestFps where
  bestmin : BitVec 32
  bestmax : BitVec 32
  bestfps : BitVec 32
  deriving DecidableEq, Repr

/-- The mode has the rate; the code reads the bounds as `int`. -/
def VarFps.Contains (m : VarFps) (fps : BitVec 32) : Prop :=
  fps.toInt ≥ m.nVarFPSMin.toInt ∧ fps.toInt ≤ m.nVarFPSMax.toInt

instance (m : VarFps) (fps : BitVec 32) : Decidable (m.Contains fps) :=
  inferInstanceAs (Decidable (_ ∧ _))

/-- `abs`; the smallest `int` has no absolute value. -/
def intAbs (x : BitVec 32) : Option (BitVec 32) :=
  if x = BitVec.intMin 32 then none else some (if x.toInt < 0 then -x else x)

/-- The second loop of `findBestFps`, with `minIndex` (the mode itself here) and `min`; `none` if a
distance has no absolute value. -/
def nearestLoop (fps : BitVec 32) : List VarFps → Option VarFps → BitVec 32 →
    Option (Option VarFps)
  | [], minIndex, _ => some minIndex
  | m :: rest, minIndex, min =>
    match intAbs (fps - m.nVarFPSMax) with
    | none => none
    | some distance =>
      if distance.toInt < min.toInt then nearestLoop fps rest (some m) distance
      else nearestLoop fps rest minIndex min

/-- The mode that `findBestFps` takes its outputs from; `some none` if it has none. The smallest
distance starts as `0xffffffff`. -/
def chosenMode (hwFps : List VarFps) (fps : BitVec 32) : Option (Option VarFps) :=
  match hwFps.find? (·.Contains fps) with
  | some m => some (some m)
  | none => nearestLoop fps hwFps none 0xffffffff#32

/-- `findBestFps`. -/
def findBestFps (hwFps : List VarFps) (fps : BitVec 32) : Option BestFps :=
  (chosenMode hwFps fps).map fun
    | some m => ⟨m.nVarFPSMin, m.nVarFPSMin, m.nVarFPSMin⟩
    | none => ⟨30#32, 30#32, 30#32⟩

/-- The outputs are the bounds of a mode and a rate inside it. -/
structure BestFps.Of (b : BestFps) (m : VarFps) : Prop where
  bestmin : b.bestmin = m.nVarFPSMin
  bestmax : b.bestmax = m.nVarFPSMax
  bestfps : m.Contains b.bestfps

/-- What is asked of `findBestFps`: its outputs are those of the first mode with the rate, if there
is one, and else those of a mode whose upper bound is nearest; only for the empty list it takes the
default. -/
structure FindsBestFps (hwFps : List VarFps) (fps : BitVec 32) (b : BestFps) : Prop where
  first : ∀ m, hwFps.find? (·.Contains fps) = some m → b.Of m
  nearest : (∀ m ∈ hwFps, ¬m.Contains fps) → hwFps ≠ [] → ∃ m ∈ hwFps, b.Of m ∧
    ∀ other ∈ hwFps, (fps.toInt - m.nVarFPSMax.toInt).natAbs ≤
      (fps.toInt - other.nVarFPSMax.toInt).natAbs
  default : chosenMode hwFps fps = some none → hwFps = []
  empty : hwFps = [] → b = ⟨30#32, 30#32, 30#32⟩

/-- An absolute value is not negative. -/
lemma toInt_intAbs_nonneg {x distance : BitVec 32} (h : intAbs x = some distance) :
    0 ≤ distance.toInt := by
  unfold intAbs at h
  split_ifs at h with hmin hneg
  · rw [← Option.some.inj h, BitVec.toInt_neg_of_ne_intMin hmin]
    omega
  · rw [← Option.some.inj h]
    exact not_lt.mp hneg

/-- No distance is less than `0xffffffff`, which is `-1`. -/
lemma nearestLoop_eq (fps : BitVec 32) (hwFps : List VarFps) :
    nearestLoop fps hwFps none 0xffffffff#32 = none ∨
      nearestLoop fps hwFps none 0xffffffff#32 = some none := by
  induction hwFps with
  | nil => exact Or.inr rfl
  | cons m rest ih =>
    unfold nearestLoop
    cases habs : intAbs (fps - m.nVarFPSMax) with
    | none => exact Or.inl rfl
    | some distance =>
      have hnonneg := toInt_intAbs_nonneg habs
      have hsentinel : (0xffffffff#32).toInt = -1 := rfl
      simp only
      rw [if_neg (by omega)]
      exact ih

/-- **The frame rate that is found is right** exactly if there is no mode at all, or the first mode
with the rate has no other rate.

**Proof sketch.** Both outputs of a mode are its lower bound. Where no mode has the rate, the search
for the nearest one starts with a distance of `-1` and finds none, so that the default is taken. -/
theorem findsBestFps_iff (hwFps : List VarFps) (fps : BitVec 32) :
    (∃ b, findBestFps hwFps fps = some b ∧ FindsBestFps hwFps fps b) ↔
      hwFps = [] ∨
        ∃ m, hwFps.find? (·.Contains fps) = some m ∧ m.nVarFPSMin = m.nVarFPSMax := by
  cases hfind : hwFps.find? (·.Contains fps) with
  | some m =>
    have hmem := List.mem_of_find?_eq_some hfind
    have hcontains : m.Contains fps := by simpa using List.find?_some hfind
    have hne : hwFps ≠ [] := List.ne_nil_of_mem hmem
    have hchosen : chosenMode hwFps fps = some (some m) := by rw [chosenMode, hfind]
    have hresult : findBestFps hwFps fps = some ⟨m.nVarFPSMin, m.nVarFPSMin, m.nVarFPSMin⟩ := by
      rw [findBestFps, hchosen]
      rfl
    constructor
    · rintro ⟨b, hb, hbest⟩
      rw [hresult] at hb
      obtain rfl := Option.some.inj hb
      exact Or.inr ⟨m, rfl, (hbest.first m hfind).bestmax⟩
    · rintro (hnil | ⟨other, hother, hbounds⟩)
      · exact absurd hnil hne
      · obtain rfl := Option.some.inj hother
        refine ⟨_, hresult, fun k hk => ?_, fun hall _ => absurd hcontains (hall m hmem),
          fun h => ?_, fun h => absurd h hne⟩
        · rw [hfind] at hk
          obtain rfl := Option.some.inj hk
          exact ⟨rfl, hbounds, le_refl _, by rw [hbounds]⟩
        · rw [hchosen] at h
          cases h
  | none =>
    have hchosen : chosenMode hwFps fps = nearestLoop fps hwFps none 0xffffffff#32 := by
      rw [chosenMode, hfind]
    simp only [reduceCtorEq, false_and, exists_false, or_false]
    constructor
    · rintro ⟨b, hb, hbest⟩
      rcases nearestLoop_eq fps hwFps with hloop | hloop
      · rw [findBestFps, hchosen, hloop] at hb
        cases hb
      · exact hbest.default (hchosen.trans hloop)
    · rintro rfl
      refine ⟨⟨30#32, 30#32, 30#32⟩, rfl, fun m hm => ?_, fun _ hne => absurd rfl hne,
        fun _ => rfl, fun _ => rfl⟩
      cases hm

/-- In the only mode, from 15 to 30 frames, the upper bound is given as 15. -/
theorem not_findsBestFps :
    ¬∃ b, findBestFps [⟨15#32, 30#32⟩] 20#32 = some b ∧
      FindsBestFps [⟨15#32, 30#32⟩] 20#32 b := by
  rintro ⟨b, hb, hbest⟩
  have hresult : findBestFps [⟨15#32, 30#32⟩] 20#32 = some ⟨15#32, 15#32, 15#32⟩ := by decide
  rw [hresult] at hb
  obtain rfl := Option.some.inj hb
  exact absurd (hbest.first ⟨15#32, 30#32⟩ (by decide)).bestmax (by decide)

/-- Where no mode has the rate, the default is taken although there is a nearest mode. -/
example : findBestFps [⟨15#32, 15#32⟩, ⟨20#32, 25#32⟩] 40#32 = some ⟨30#32, 30#32, 30#32⟩ := by
  decide

end CameraHal
