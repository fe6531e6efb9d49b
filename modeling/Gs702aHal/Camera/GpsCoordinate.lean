import Gs702aHal.Camera.Exif
import Gs702aHal.Lib.MixedRadix
import Mathlib.Data.Rat.Floor
import Mathlib.Tactic.Linarith
import Mathlib.Tactic.NormNum

set_option relaxedAutoImplicit false
set_option autoImplicit false

/-!
# Coordinates of the position

`convertGPSCoord` writes the absolute value of a coordinate as degrees, minutes and thousandths of
a second; `setParametersEXIF` keeps the sign as a letter, and `setupEXIF_vce` stores both. The
floating-point arithmetic is taken as exact.

## Main definitions

* `CameraHal.Exif.convertGPSCoord` — the digits of a coordinate.
* `CameraHal.Exif.GpsField.Reads` — what `setParametersEXIF` should keep of a coordinate.
* `CameraHal.Exif.StoredField.Determines` — what `setupEXIF_vce` should store of it.

## Main results

* `CameraHal.Exif.convertGPSCoord_eq` — the digits are those in a mixed radix; the carries are
  never taken.
* `CameraHal.Exif.coordinates_survive` — every coordinate but zero is kept up to a thousandth of a
  second; zero is refused.
-/

namespace CameraHal

open NumberText ParamKey

namespace Exif

/-- The numbers of minutes in a degree and of seconds in a minute, and the parts of a second. -/
def GPS_MIN_DIV : ℕ := 60
def GPS_SEC_DIV : ℕ := 60
def GPS_SEC_ACCURACY : ℕ := 1000

/-- `convertGPSCoord`, and whether the coordinate is positive, as its caller asks. -/
def convertGPSCoord (coord : ℚ) : Option Coordinate :=
  if coord = 0 then none
  else
    let deg := ⌊|coord|⌋
    let tmp := (|coord| - ⌊|coord|⌋) * GPS_MIN_DIV
    let min := ⌊tmp⌋
    let tmp := (tmp - ⌊tmp⌋) * (GPS_SEC_DIV * GPS_SEC_ACCURACY : ℕ)
    let sec := ⌊tmp⌋
    let (sec, min) :=
      if sec ≥ (GPS_SEC_DIV * GPS_SEC_ACCURACY : ℕ) then (0, min + 1) else (sec, min)
    let (min, deg) := if min ≥ 60 then (0, deg + 1) else (min, deg)
    some
      { deg := BitVec.ofInt 32 deg
        min := BitVec.ofInt 32 min
        sec := BitVec.ofInt 32 sec
        secDivisor := BitVec.ofNat 32 GPS_SEC_ACCURACY
        positive := 0 < coord }

/-- Surroundings in which coordinates are read and converted. -/
def Surroundings.reading (s : Surroundings) (strtod : Text → ℚ) : Surroundings :=
  { s with convertGPSCoord := fun valstr => Exif.convertGPSCoord (strtod valstr) }

/-- The radices of minutes and of parts of a second. -/
def gpsRadices : List ℕ := [GPS_MIN_DIV, GPS_SEC_DIV * GPS_SEC_ACCURACY]

/-- The digits of a coordinate. -/
lemma digits_eq (x : ℚ) :
    MixedRadix.digits gpsRadices x =
      [⌊x⌋, ⌊(x - ⌊x⌋) * GPS_MIN_DIV⌋, ⌊((x - ⌊x⌋) * GPS_MIN_DIV - ⌊(x - ⌊x⌋) * GPS_MIN_DIV⌋) *
        (GPS_SEC_DIV * GPS_SEC_ACCURACY : ℕ)⌋] := rfl

/-- **The carries are never taken.** The conversion gives the digits of the absolute value: less
than 60 minutes, less than 60000 thousandths of a second, and together less than one thousandth
below it. -/
theorem convertGPSCoord_eq {c : ℚ} (hc : c ≠ 0) :
    ∃ deg min sec : ℤ, convertGPSCoord c = some ⟨BitVec.ofInt 32 deg, BitVec.ofInt 32 min,
        BitVec.ofInt 32 sec, BitVec.ofNat 32 GPS_SEC_ACCURACY, 0 < c⟩ ∧
      deg = ⌊|c|⌋ ∧ (0 ≤ min ∧ min < 60) ∧ (0 ≤ sec ∧ sec < 60000) ∧
      (deg + min / 60 + sec / 3600000 : ℚ) ≤ |c| ∧
      |c| < (deg + min / 60 + sec / 3600000 : ℚ) + 1 / 3600000 := by
  have hradices : ∀ b ∈ gpsRadices, 0 < b := by decide
  have hbounds := MixedRadix.digits_bounds hradices |c|
  obtain ⟨hle, hlt⟩ := MixedRadix.value_digits_error hradices |c|
  rw [digits_eq] at hbounds hle hlt
  simp only [gpsRadices, List.tail_cons, List.forall₂_cons, List.Forall₂.nil, and_true] at hbounds
  obtain ⟨hmin, hsec⟩ := hbounds
  simp only [gpsRadices, MixedRadix.value, MixedRadix.unit] at hle hlt
  have hprod : (([GPS_MIN_DIV, GPS_SEC_DIV * GPS_SEC_ACCURACY].prod : ℕ) : ℚ) = 3600000 := by
    norm_num [GPS_MIN_DIV, GPS_SEC_DIV, GPS_SEC_ACCURACY]
  have hcasts : ∀ m n : ℚ, (m + n / (GPS_SEC_DIV * GPS_SEC_ACCURACY : ℕ)) / (GPS_MIN_DIV : ℕ) =
      m / 60 + n / 3600000 := by
    intro m n
    norm_num [GPS_MIN_DIV, GPS_SEC_DIV, GPS_SEC_ACCURACY]
    ring
  rw [hcasts, ← add_assoc] at hle hlt
  rw [hprod] at hlt
  have hnoSec : ¬ ⌊((|c| - ⌊|c|⌋) * GPS_MIN_DIV - ⌊(|c| - ⌊|c|⌋) * GPS_MIN_DIV⌋) *
      (GPS_SEC_DIV * GPS_SEC_ACCURACY : ℕ)⌋ ≥ (GPS_SEC_DIV * GPS_SEC_ACCURACY : ℕ) :=
    not_le.mpr hsec.2
  have hnoMin : ¬ ⌊(|c| - ⌊|c|⌋) * GPS_MIN_DIV⌋ ≥ 60 := not_le.mpr hmin.2
  refine ⟨_, _, _, ?_, rfl, hmin, hsec, hle, hlt⟩
  simp only [convertGPSCoord, if_neg hc, if_neg hnoSec, if_neg hnoMin]

/-! ### What is kept -/

/-- One coordinate of `GPSData`. -/
structure GpsField where
  valid : Bool
  deg : BitVec 32
  min : BitVec 32
  sec : BitVec 32
  secDivisor : BitVec 32
  ref : Text

/-- The latitude. -/
def GPSData.latitudeField (g : GPSData) : GpsField :=
  ⟨g.mLatValid, g.mLatDeg, g.mLatMin, g.mLatSec, g.mLatSecDiv, g.mLatRef⟩

/-- The longitude. -/
def GPSData.longitudeField (g : GPSData) : GpsField :=
  ⟨g.mLongValid, g.mLongDeg, g.mLongMin, g.mLongSec, g.mLongSecDiv, g.mLongRef⟩

/-- One coordinate of `CameraHalExif`: numerators, denominators and the reference. -/
structure StoredField where
  numerators : Three
  denominators : Three
  ref : BitVec 32

/-- The latitude. -/
def CameraHalExif.latitudeField (exif : CameraHalExif) : StoredField :=
  ⟨exif.gpsLATH, exif.gpsLATL, exif.gpsLATREF⟩

/-- The longitude. -/
def CameraHalExif.longitudeField (exif : CameraHalExif) : StoredField :=
  ⟨exif.gpsLONGH, exif.gpsLONGL, exif.gpsLONGREF⟩

/-- The absolute value that the numbers of a coordinate denote. -/
def GpsField.magnitude (f : GpsField) : ℚ :=
  f.deg.toInt + (f.min.toInt : ℚ) / 60 + (f.sec.toInt : ℚ) / (3600 * f.secDivisor.toInt)

/-- The absolute value that the three fractions of a coordinate denote. -/
def StoredField.magnitude (e : StoredField) : ℚ :=
  (e.numerators.1.toNat : ℚ) / e.denominators.1.toNat +
    (e.numerators.2.1.toNat : ℚ) / e.denominators.2.1.toNat / 60 +
    (e.numerators.2.2.toNat : ℚ) / e.denominators.2.2.toNat / 3600

/-- The coordinate that is stored. -/
def StoredField.coordinate (e : StoredField) : ℚ := if e.ref = 1 then -e.magnitude else e.magnitude

/-- What is kept of a coordinate: it is valid, has its digits in their ranges, is less than one unit
of the last digit below the absolute value, and has the letter of its sign. -/
structure GpsField.Reads (f : GpsField) (c : ℚ) (positive negative : Text) : Prop where
  valid : f.valid = true
  min_range : 0 ≤ f.min.toInt ∧ f.min.toInt < 60
  sec_range : 0 ≤ f.sec.toInt ∧ f.sec.toInt < (GPS_SEC_DIV * GPS_SEC_ACCURACY : ℕ)
  below : f.magnitude ≤ |c|
  near : |c| < f.magnitude + 1 / (3600 * f.secDivisor.toInt)
  letter_pos : 0 < c → f.ref = positive
  letter_neg : c < 0 → f.ref = negative

/-- What is stored of a coordinate determines it up to one unit of the last digit. -/
def StoredField.Determines (e : StoredField) (c : ℚ) : Prop :=
  |c - e.coordinate| < 1 / (3600 * e.denominators.2.2.toNat)

/-- A coordinate that is not zero is kept and stored; zero is refused. -/
def Survives (c : ℚ) (positive negative : Text) (f : GpsField) (e : StoredField) : Prop :=
  (c ≠ 0 → f.Reads c positive negative ∧ e.Determines c) ∧ (c = 0 → f.valid = false)

/-- The numbers that are kept of a converted coordinate, with a letter for its sign. -/
def Coordinate.field (co : Coordinate) (positive negative : Text) : GpsField :=
  ⟨true, co.deg, co.min, co.sec, co.secDivisor, if co.positive then positive else negative⟩

/-- The numbers that are stored of a valid coordinate. -/
def GpsField.stored (f : GpsField) (negative : Text) : StoredField :=
  ⟨(f.deg.abs, f.min.abs, f.sec.abs), (1, 1, f.secDivisor.abs), if f.ref = negative then 1 else 0⟩

/-- A small number is read back from 32 bits, also through its absolute value. -/
lemma toInt_ofInt_small {n : ℤ} (h0 : 0 ≤ n) (h1 : n < 2 ^ 31) :
    (BitVec.ofInt 32 n).toInt = n ∧ (BitVec.ofInt 32 n).abs = BitVec.ofInt 32 n ∧
      ((BitVec.ofInt 32 n).toNat : ℤ) = n := by
  have hint : (BitVec.ofInt 32 n).toInt = n := by
    rw [BitVec.toInt_ofInt]
    exact Int.bmod_eq_of_le (by omega) (by omega)
  have hmsb : (BitVec.ofInt 32 n).msb = false := by
    rw [BitVec.msb_eq_toInt, hint]
    simpa using h0
  refine ⟨hint, by rw [BitVec.abs, hmsb]; rfl, ?_⟩
  rw [BitVec.toInt_eq_toNat_of_msb hmsb] at hint
  exact hint

/-- The coordinate with these digits. -/
def coordinateOf (deg min sec : ℤ) (positive : Bool) : Coordinate :=
  ⟨BitVec.ofInt 32 deg, BitVec.ofInt 32 min, BitVec.ofInt 32 sec,
    BitVec.ofNat 32 GPS_SEC_ACCURACY, positive⟩

/-- The absolute value of digits. -/
def dms (deg min sec : ℤ) : ℚ := deg + min / 60 + sec / 3600000

/-- The absolute value that is kept is that of the digits. -/
lemma magnitude_field {deg min sec : ℤ} (hdeg : 0 ≤ deg ∧ deg < 2 ^ 31)
    (hmin : 0 ≤ min ∧ min < 60) (hsec : 0 ≤ sec ∧ sec < 60000) (positive : Bool) (p n : Text) :
    ((coordinateOf deg min sec positive).field p n).magnitude = dms deg min sec := by
  have hdivisor : (BitVec.ofNat 32 GPS_SEC_ACCURACY).toInt = 1000 := by decide
  simp only [coordinateOf, Coordinate.field, GpsField.magnitude, dms,
    (toInt_ofInt_small hdeg.1 hdeg.2).1, (toInt_ofInt_small hmin.1 (by omega)).1,
    (toInt_ofInt_small hsec.1 (by omega)).1, hdivisor]
  norm_num

/-- The absolute value that is stored is that of the digits. -/
lemma magnitude_stored {deg min sec : ℤ} (hdeg : 0 ≤ deg ∧ deg < 2 ^ 31)
    (hmin : 0 ≤ min ∧ min < 60) (hsec : 0 ≤ sec ∧ sec < 60000) (positive : Bool) (p n : Text) :
    (((coordinateOf deg min sec positive).field p n).stored n).magnitude = dms deg min sec := by
  have hdivisor : ((BitVec.ofNat 32 GPS_SEC_ACCURACY).abs).toNat = 1000 := by decide
  obtain ⟨-, hdegAbs, hdegNat⟩ := toInt_ofInt_small hdeg.1 hdeg.2
  obtain ⟨-, hminAbs, hminNat⟩ := toInt_ofInt_small hmin.1 (by omega)
  obtain ⟨-, hsecAbs, hsecNat⟩ := toInt_ofInt_small hsec.1 (by omega)
  have hdegQ : ((BitVec.ofInt 32 deg).toNat : ℚ) = deg := by exact_mod_cast hdegNat
  have hminQ : ((BitVec.ofInt 32 min).toNat : ℚ) = min := by exact_mod_cast hminNat
  have hsecQ : ((BitVec.ofInt 32 sec).toNat : ℚ) = sec := by exact_mod_cast hsecNat
  have hone : (((1 : BitVec 32).toNat : ℕ) : ℚ) = 1 := by
    have hnat : (1 : BitVec 32).toNat = 1 := rfl
    rw [hnat, Nat.cast_one]
  simp only [coordinateOf, Coordinate.field, GpsField.stored, StoredField.magnitude, dms, hdegAbs,
    hminAbs, hsecAbs, hdegQ, hminQ, hsecQ, hdivisor, hone]
  norm_num
  ring

/-- **A converted coordinate survives.**

**Proof sketch.** The digits are small numbers, which 32 bits keep. The letter tells the sign, so
that what is stored lies on the same side of zero as the coordinate. -/
theorem field_survives {c : ℚ} (hc : c ≠ 0) (hrange : |c| ≤ 180) {positive negative : Text}
    (hletters : positive ≠ negative) {co : Coordinate} (hco : convertGPSCoord c = some co) :
    (co.field positive negative).Reads c positive negative ∧
      ((co.field positive negative).stored negative).Determines c := by
  obtain ⟨deg, min, sec, hconvert, hdeg, hmin, hsec, hle, hlt⟩ := convertGPSCoord_eq hc
  obtain rfl : co = coordinateOf deg min sec (0 < c) := Option.some.inj (hco.symm.trans hconvert)
  have hdegRange : 0 ≤ deg ∧ deg < 2 ^ 31 := by
    rw [hdeg]
    refine ⟨Int.floor_nonneg.mpr (abs_nonneg c), ?_⟩
    rw [Int.floor_lt]
    exact hrange.trans_lt (by norm_num)
  have hkept := magnitude_field hdegRange hmin hsec (0 < c) positive negative
  have hstored := magnitude_stored hdegRange hmin hsec (0 < c) positive negative
  have hle' : dms deg min sec ≤ |c| := hle
  have hlt' : |c| < dms deg min sec + 1 / 3600000 := hlt
  have hunit : (1 : ℚ) / (3600 * (BitVec.ofNat 32 GPS_SEC_ACCURACY).toInt) = 1 / 3600000 := by
    have hint : (BitVec.ofNat 32 GPS_SEC_ACCURACY).toInt = 1000 := by decide
    rw [hint]
    norm_num
  constructor
  · refine ⟨rfl, ?_, ?_, hkept.trans_le hle', ?_, fun hpos => if_pos (decide_eq_true hpos),
      fun hneg => if_neg (by simpa [coordinateOf] using hneg.le)⟩
    · rw [show ((coordinateOf deg min sec (0 < c)).field positive negative).min =
        BitVec.ofInt 32 min from rfl, (toInt_ofInt_small hmin.1 (by omega)).1]
      exact hmin
    · rw [show ((coordinateOf deg min sec (0 < c)).field positive negative).sec =
        BitVec.ofInt 32 sec from rfl, (toInt_ofInt_small hsec.1 (by omega)).1]
      exact hsec
    · rw [hkept]
      exact hlt'.trans_eq (congrArg _ hunit.symm)
  · have hgoal : |c - (((coordinateOf deg min sec (0 < c)).field positive negative).stored
        negative).coordinate| < 1 / 3600000 := by
      rw [StoredField.coordinate, hstored]
      rcases lt_or_gt_of_ne hc with hneg | hpos
      · have href : (((coordinateOf deg min sec (0 < c)).field positive negative).stored
            negative).ref = 1 := by
          simp [coordinateOf, Coordinate.field, GpsField.stored, not_lt.mpr hneg.le]
        rw [abs_of_neg hneg] at hle' hlt'
        rw [if_pos href, abs_of_nonpos (by linarith)]
        linarith
      · have href : (((coordinateOf deg min sec (0 < c)).field positive negative).stored
            negative).ref ≠ 1 := by
          simp [coordinateOf, Coordinate.field, GpsField.stored, hpos, hletters]
        rw [abs_of_pos hpos] at hle' hlt'
        rw [if_neg href, abs_of_nonneg (by linarith)]
        linarith
    have hnat : (((coordinateOf deg min sec (0 < c)).field positive negative).stored
        negative).denominators.2.2.toNat = 1000 := by
      simp only [coordinateOf, Coordinate.field, GpsField.stored]
      decide
    rw [StoredField.Determines, hnat]
    norm_num
    norm_num at hgoal
    exact hgoal

/-! ### Both coordinates -/

variable {P : Type} (api : CameraParameters P)

/-- What becomes of a coordinate: it survives, or is refused if it is zero. -/
lemma survives_of_field {c : ℚ} (hrange : |c| ≤ 180) {positive negative : Text}
    (hletters : positive ≠ negative) {f : GpsField} {e : StoredField}
    (hfield : ∀ co, convertGPSCoord c = some co → f = co.field positive negative)
    (hvalid : f.valid = (convertGPSCoord c).isSome)
    (hstored : f.valid = true → e = f.stored negative) : Survives c positive negative f e := by
  refine ⟨fun hc => ?_, fun hzero => ?_⟩
  · obtain ⟨deg, min, sec, hco, -⟩ := convertGPSCoord_eq hc
    have hf := hfield _ hco
    have he := hstored (hvalid.trans (Option.isSome_of_eq_some hco))
    obtain ⟨hreads, hdetermines⟩ := field_survives hc hrange hletters hco
    rw [he, hf]
    exact ⟨hreads, hdetermines⟩
  · rw [hvalid, convertGPSCoord, if_pos hzero]
    rfl

/-- **Coordinates survive, except zero.** For every latitude and longitude in their ranges that the
parameters give: a coordinate that is not zero is marked as valid, kept as degrees, less than 60
minutes and less than 60000 thousandths of a second, which denote its absolute value or less than
one thousandth of a second below it, and has the letter of its sign; the three fractions and the
reference that `setupEXIF_vce` stores determine it up to a thousandth of a second. Zero is refused
and marked as not valid. -/
theorem coordinates_survive (s : Surroundings) (strtod : Text → ℚ) {params : P}
    {latitude longitude : Text} (hlatitude : getText api params KEY_GPS_LATITUDE = some latitude)
    (hlongitude : getText api params KEY_GPS_LONGITUDE = some longitude)
    (hlatRange : |strtod latitude| ≤ 90) (hlongRange : |strtod longitude| ≤ 180) (old : EXIFData)
    (mEncodeWidth mEncodeHeight : BitVec 32) :
    let data := setParametersEXIF api (s.reading strtod) params old
    ∃ exif, setupEXIF_vce api (s.reading strtod) params data mEncodeWidth mEncodeHeight =
        some exif ∧
      Survives (strtod latitude) GPS_NORTH_REF GPS_SOUTH_REF data.mGPSData.latitudeField
        exif.latitudeField ∧
      Survives (strtod longitude) GPS_EAST_REF GPS_WEST_REF data.mGPSData.longitudeField
        exif.longitudeField := by
  intro data
  refine ⟨_, setupEXIF_vce_eq api (s.reading strtod)
    (consistent_setParametersEXIF api (s.reading strtod) params old) mEncodeWidth mEncodeHeight,
    ?_, ?_⟩
  · refine survives_of_field (hlatRange.trans (by norm_num)) (by decide) (fun co hco => ?_) ?_
      fun hvalid => ?_
    · simp [data, GPSData.latitudeField, setParametersEXIF, hlatitude, Surroundings.reading, hco,
        Coordinate.field]
    · simp [data, GPSData.latitudeField, setParametersEXIF, hlatitude, Surroundings.reading]
    · have hvalid' : data.mGPSData.mLatValid = true := hvalid
      simp [CameraHalExif.latitudeField, recordOf, filledExif, hvalid', GpsField.stored,
        GPSData.latitudeField, data]
  · refine survives_of_field hlongRange (by decide) (fun co hco => ?_) ?_ fun hvalid => ?_
    · simp [data, GPSData.longitudeField, setParametersEXIF, hlongitude, Surroundings.reading, hco,
        Coordinate.field]
    · simp [data, GPSData.longitudeField, setParametersEXIF, hlongitude, Surroundings.reading]
    · have hvalid' : data.mGPSData.mLongValid = true := hvalid
      simp [CameraHalExif.longitudeField, recordOf, filledExif, hvalid', GpsField.stored,
        GPSData.longitudeField, data]

/-- Parameters with a position only. -/
def positioned (latitude longitude : Text) : ParamKey → Option Text
  | KEY_GPS_LATITUDE => some latitude
  | KEY_GPS_LONGITUDE => some longitude
  | _ => none

/-- The number that one of two texts denotes. -/
def strtodNorthwest (text : Text) : ℚ := if text.head? = some '-' then -481 / 4 else 91 / 2

/-- A position in the north and the west. -/
theorem coordinates_survive_northwest :
    let s := noPosition.reading strtodNorthwest
    let params := positioned "45.5".toList "-120.25".toList
    let data := setParametersEXIF SetParameters.mapParameters s params noData
    ∃ exif, setupEXIF_vce SetParameters.mapParameters s params data 640 480 = some exif ∧
      Survives (strtodNorthwest "45.5".toList) GPS_NORTH_REF GPS_SOUTH_REF
        data.mGPSData.latitudeField exif.latitudeField ∧
      Survives (strtodNorthwest "-120.25".toList) GPS_EAST_REF GPS_WEST_REF
        data.mGPSData.longitudeField exif.longitudeField := by
  have hnorth : strtodNorthwest "45.5".toList = 91 / 2 := by
    simp [strtodNorthwest]
  have hwest : strtodNorthwest "-120.25".toList = -481 / 4 := by
    simp [strtodNorthwest]
  exact coordinates_survive SetParameters.mapParameters noPosition strtodNorthwest rfl rfl
    (by rw [hnorth, abs_le]; norm_num) (by rw [hwest, abs_le]; norm_num) noData 640 480

/-- **The latitude zero is marked as not valid.** -/
theorem not_survives_equator :
    getText SetParameters.mapParameters (positioned ['0'] ['9']) KEY_GPS_LATITUDE = some ['0'] ∧
      (setParametersEXIF SetParameters.mapParameters
        (noPosition.reading fun t => if t = ['0'] then 0 else 9) (positioned ['0'] ['9'])
          noData).mGPSData.mLatValid = false :=
  ⟨rfl, rfl⟩

end Exif

end CameraHal
