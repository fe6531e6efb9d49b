import Mathlib.Algebra.Order.Ring.Nat
import Gs702aHal.Camera.SetParameters
import Gs702aHal.Lib.NumberText

set_option relaxedAutoImplicit false
set_option autoImplicit false

/-!
# Exif writers

The metadata of a picture is written in three places. `setupEXIF_vce` collects it in a record, from
which `convertEXIF_libjpeg` fills the table of the software encoder and `setExif` the record of the
hardware encoder. `setupEXIF_libjpeg` fills the table from the parameters.

A text of the parameters, or in a buffer, ends at its first zero. Floating point and the calendar
are not modelled: what is computed from a coordinate, an altitude or a time is given.

## Main definitions

* `CameraHal.Exif.insertElement` — one element of the table of the software encoder.
* `CameraHal.Exif.runBlocks` — the common form of the writers: insertions, each in a block that is
  skipped after an error or if its condition fails.
* `CameraHal.Exif.setParametersEXIF`, `setupEXIF_vce`, `setupEXIF_libjpeg`, `convertEXIF_libjpeg`,
  `setExif` — the functions of the source.
* `CameraHal.Exif.Agree` — the writers agree on a picture.

## Main results

* `CameraHal.Exif.not_agree` — they agree on no picture: the software encoder is given the rotation
  in degrees.
* `CameraHal.Exif.agreesBut_iff` — when the two tables agree on the other tags.
-/

namespace CameraHal

open Status NumberText ParamKey

namespace Exif

/-! ### The table of the software encoder -/

/-- The tags. -/
inductive ExifTag
  | TAG_MODEL
  | TAG_MAKE
  | TAG_FOCALLENGTH
  | TAG_DATETIME
  | TAG_IMAGE_WIDTH
  | TAG_IMAGE_LENGTH
  | TAG_GPS_LAT
  | TAG_GPS_LAT_REF
  | TAG_GPS_LONG
  | TAG_GPS_LONG_REF
  | TAG_GPS_ALT
  | TAG_GPS_ALT_REF
  | TAG_GPS_MAP_DATUM
  | TAG_GPS_PROCESSING_METHOD
  | TAG_GPS_VERSION_ID
  | TAG_GPS_TIMESTAMP
  | TAG_GPS_DATESTAMP
  | TAG_ORIENTATION
  deriving DecidableEq, Repr

open ExifTag

/-- What the code uses of `jhead`: the eight bytes before a text of undefined type, and which tags
are those of the position. -/
structure Jhead where
  ExifAsciiPrefix : Text
  IsGpsTag : ExifTag → Bool
  length_prefix : ExifAsciiPrefix.length = 8

/-- `ExifElement_t`. There may be no memory for the value. -/
structure ExifElement where
  GpsTag : Bool
  Tag : ExifTag
  Value : Option Text
  DataLength : ℕ
  deriving DecidableEq, Repr

/-- `ExifElementsTable`; `position` is the length of the table. -/
structure ExifElementsTable where
  table : List ExifElement
  gps_tag_count : ℕ
  exif_tag_count : ℕ
  has_datetime_tag : Bool
  deriving DecidableEq, Repr

/-- The table as it is constructed. -/
def ExifElementsTable.empty : ExifElementsTable := ⟨[], 0, 0, false⟩

/-- `MAX_EXIF_TAGS_SUPPORTED`. -/
def MAX_EXIF_TAGS_SUPPORTED : ℕ := 30

/-- The terminator of a text. -/
def terminator : Char := Char.ofNat 0

/-- The text at the head of a memory, up to its terminator. -/
def cString (memory : Text) : Text := memory.takeWhile (· ≠ terminator)

/-- `isAsciiTag`. -/
def isAsciiTag (tag : ExifTag) : Bool := tag = TAG_GPS_PROCESSING_METHOD

variable (jhead : Jhead) (memory : ℕ → Bool)

/-- The bytes that are copied for a value, without the last one. The prefix of a text with one is
copied whatever it holds. -/
def content (tag : ExifTag) (value : Text) : Text :=
  if isAsciiTag tag then
    value.take jhead.ExifAsciiPrefix.length ++ cString (value.drop jhead.ExifAsciiPrefix.length)
  else cString value

/-- The element that is inserted. -/
def element (position : ℕ) (tag : ExifTag) (value : Text) : ExifElement :=
  { GpsTag := jhead.IsGpsTag tag
    Tag := tag
    Value := if memory position then some (content jhead tag value) else none
    DataLength := if memory position then (content jhead tag value).length + 1 else 0 }

/-- The table with one more element. -/
def ExifElementsTable.add (t : ExifElementsTable) (tag : ExifTag) (value : Text) :
    ExifElementsTable :=
  { table := t.table ++ [element jhead memory t.table.length tag value]
    gps_tag_count := if jhead.IsGpsTag tag then t.gps_tag_count + 1 else t.gps_tag_count
    exif_tag_count := if jhead.IsGpsTag tag then t.exif_tag_count else t.exif_tag_count + 1
    has_datetime_tag := t.has_datetime_tag || (!jhead.IsGpsTag tag && tag = TAG_DATETIME) }

/-- `insertElement`. The value is what is in the memory at its pointer. -/
def insertElement (tag : ExifTag) (value : Option Text) (t : ExifElementsTable) :
    Status × ExifElementsTable :=
  match value with
  | none => (EINVAL, t)
  | some value =>
    if t.table.length ≥ MAX_EXIF_TAGS_SUPPORTED then (NO_MEMORY, t)
    else (NO_ERROR, t.add jhead memory tag value)

/-- A block of a writer: insertions under the condition that there was no error and another one. The
error of an insertion is not looked at before the end of the block. -/
structure Block where
  condition : Bool
  insertions : List (ExifTag × Option Text)

/-- A block with one insertion. -/
def one (condition : Bool) (tag : ExifTag) (value : Option Text) : Block :=
  ⟨condition, [(tag, value)]⟩

/-- A block with two insertions. -/
def two (condition : Bool) (tag : ExifTag) (value : Text) (tag' : ExifTag) (value' : Text) :
    Block :=
  ⟨condition, [(tag, some value), (tag', some value')]⟩

/-- Insertions one after the other, with the result of the last. -/
def insertAll (l : List (ExifTag × Option Text)) (w : Status × ExifElementsTable) :
    Status × ExifElementsTable :=
  l.foldl (fun w e => insertElement jhead memory e.1 e.2 w.2) w

/-- The blocks of a writer. -/
def runBlocks (blocks : List Block) (t : ExifElementsTable) : Status × ExifElementsTable :=
  blocks.foldl
    (fun w b => if w.1 = NO_ERROR ∧ b.condition then insertAll jhead memory b.insertions w else w)
    (NO_ERROR, t)

/-- What the table has under a tag. -/
def ExifElementsTable.value (t : ExifElementsTable) (tag : ExifTag) : Option Text :=
  (t.table.find? fun e => e.Tag = tag).bind ExifElement.Value

/-! ### What the parameters give -/

/-- `GPSData`. -/
structure GPSData where
  mLongDeg : BitVec 32
  mLongMin : BitVec 32
  mLongSec : BitVec 32
  mLongSecDiv : BitVec 32
  mLongRef : Text
  mLongValid : Bool
  mLatDeg : BitVec 32
  mLatMin : BitVec 32
  mLatSec : BitVec 32
  mLatSecDiv : BitVec 32
  mLatRef : Text
  mLatValid : Bool
  mAltitude : BitVec 32
  mAltitudeRef : BitVec 32
  mAltitudeValid : Bool
  mMapDatum : Text
  mMapDatumValid : Bool
  mVersionId : Text
  mVersionIdValid : Bool
  mProcMethod : Text
  mProcMethodValid : Bool
  mDatestamp : Text
  mDatestampValid : Bool
  mTimeStampHour : BitVec 32
  mTimeStampMin : BitVec 32
  mTimeStampSec : BitVec 32
  mTimeStampValid : Bool
  deriving DecidableEq, Repr

/-- `EXIFData`. -/
structure EXIFData where
  mGPSData : GPSData
  mMakeValid : Bool
  mModelValid : Bool
  deriving DecidableEq, Repr

/-- What `convertGPSCoord` gives, and whether the coordinate is positive. -/
structure Coordinate where
  deg : BitVec 32
  min : BitVec 32
  sec : BitVec 32
  secDivisor : BitVec 32
  positive : Bool

/-- `struct tm`. -/
structure Tm where
  tm_year : BitVec 32
  tm_mon : BitVec 32
  tm_mday : BitVec 32
  tm_hour : BitVec 32
  tm_min : BitVec 32
  tm_sec : BitVec 32

/-- What the writers meet beside the parameters: the coordinate and the altitude that a text is read
as, the latter with its sign; the calendar; the time of the picture; memory for the copy of a text;
and what lies on the stack behind the text of the processing method. -/
structure Surroundings where
  convertGPSCoord : Text → Option Coordinate
  altitude : Text → BitVec 32 × Bool
  gmtime : ℤ → Option Tm
  localtime : Option Tm
  copied : Bool
  behind : Text

/-- `EXIF_MODEL_SIZE`. -/
def EXIF_MODEL_SIZE : ℕ := 100
/-- `EXIF_MAKE_SIZE`. -/
def EXIF_MAKE_SIZE : ℕ := 100
/-- `EXIF_DATE_TIME_SIZE`. -/
def EXIF_DATE_TIME_SIZE : ℕ := 20
/-- `GPS_DATESTAMP_SIZE`. -/
def GPS_DATESTAMP_SIZE : ℕ := 11
/-- `GPS_MAPDATUM_SIZE`. -/
def GPS_MAPDATUM_SIZE : ℕ := 100
/-- `GPS_PROCESSING_SIZE`. -/
def GPS_PROCESSING_SIZE : ℕ := 100
/-- `GPS_VERSION_SIZE`. -/
def GPS_VERSION_SIZE : ℕ := 4
/-- `GPS_NORTH_REF`. -/
def GPS_NORTH_REF : Text := ['N']
/-- `GPS_SOUTH_REF`. -/
def GPS_SOUTH_REF : Text := ['S']
/-- `GPS_EAST_REF`. -/
def GPS_EAST_REF : Text := ['E']
/-- `GPS_WEST_REF`. -/
def GPS_WEST_REF : Text := ['W']

/-- `KEY_FOCAL_LENGTH`. -/
def KEY_FOCAL_LENGTH : ParamKey := .other "focal-length".toList

/-- `strtol` for a `long`. -/
def longOf (text : Text) : ℤ := (strtol (-2147483648) 2147483647 text).1

/-- `strlcpy` into a buffer of zeros. -/
def strlcpy (size : ℕ) (src : Text) : Text := src.take (size - 1)

/-- `strncpy` to the head of a buffer. -/
def strncpy (n : ℕ) (src buffer : Text) : Text :=
  (src.take n).rightpad n terminator ++ buffer.drop n

/-- `%0nd`. -/
def printPadded (n : ℕ) (x : BitVec 32) : Text :=
  if x.toInt < 0 then '-' :: (Nat.toDigits 10 x.toInt.natAbs).leftpad (n - 1) '0'
  else (Nat.toDigits 10 x.toInt.toNat).leftpad n '0'

variable {P : Type} (api : CameraParameters P) (s : Surroundings)

/-- The text of a parameter. -/
def getText (params : P) (key : ParamKey) : Option Text := (api.get params key).map cString

/-- The date that `strftime` writes. A `long` has no year of five digits. -/
def dateText (time : Tm) : Text :=
  snprintf GPS_DATESTAMP_SIZE (printD (time.tm_year + 1900#32) ++
    ':' :: (printPadded 2 (time.tm_mon + 1#32) ++ ':' :: printPadded 2 time.tm_mday))

/-- `setParametersEXIF`. What is not given keeps its old values and is marked. -/
def setParametersEXIF (params : P) (mEXIFData : EXIFData) : EXIFData :=
  let old := mEXIFData.mGPSData
  let latitude := (getText api params KEY_GPS_LATITUDE).bind s.convertGPSCoord
  let longitude := (getText api params KEY_GPS_LONGITUDE).bind s.convertGPSCoord
  let altitude := (getText api params KEY_GPS_ALTITUDE).map s.altitude
  -- The date is that of the time stamp; its own key is not read.
  let timeinfo := (getText api params KEY_GPS_TIMESTAMP).bind fun valstr => s.gmtime (longOf valstr)
  let method := getText api params KEY_GPS_PROCESSING_METHOD
  let datum := getText api params KEY_GPS_MAPDATUM
  let version := getText api params KEY_GPS_VERSION
  { mGPSData :=
      { mLatDeg := latitude.elim old.mLatDeg Coordinate.deg
        mLatMin := latitude.elim old.mLatMin Coordinate.min
        mLatSec := latitude.elim old.mLatSec Coordinate.sec
        mLatSecDiv := latitude.elim old.mLatSecDiv Coordinate.secDivisor
        mLatRef := latitude.elim old.mLatRef fun c =>
          if c.positive then GPS_NORTH_REF else GPS_SOUTH_REF
        mLatValid := latitude.isSome
        mLongDeg := longitude.elim old.mLongDeg Coordinate.deg
        mLongMin := longitude.elim old.mLongMin Coordinate.min
        mLongSec := longitude.elim old.mLongSec Coordinate.sec
        mLongSecDiv := longitude.elim old.mLongSecDiv Coordinate.secDivisor
        mLongRef := longitude.elim old.mLongRef fun c =>
          if c.positive then GPS_EAST_REF else GPS_WEST_REF
        mLongValid := longitude.isSome
        mAltitude := altitude.elim old.mAltitude Prod.fst
        mAltitudeRef := altitude.elim old.mAltitudeRef fun a => if a.2 then 1#32 else 0#32
        mAltitudeValid := altitude.isSome
        mTimeStampHour := timeinfo.elim old.mTimeStampHour Tm.tm_hour
        mTimeStampMin := timeinfo.elim old.mTimeStampMin Tm.tm_min
        mTimeStampSec := timeinfo.elim old.mTimeStampSec Tm.tm_sec
        mTimeStampValid := timeinfo.isSome
        mDatestamp := timeinfo.elim old.mDatestamp dateText
        mDatestampValid := timeinfo.isSome
        mProcMethod := method.elim old.mProcMethod fun valstr =>
          strncpy (GPS_PROCESSING_SIZE - 1) valstr old.mProcMethod
        mProcMethodValid := method.isSome
        mMapDatum := datum.elim old.mMapDatum fun valstr =>
          strncpy (GPS_MAPDATUM_SIZE - 1) valstr old.mMapDatum
        mMapDatumValid := datum.isSome
        mVersionId := version.elim old.mVersionId fun valstr =>
          strncpy (GPS_VERSION_SIZE - 1) valstr old.mVersionId
        mVersionIdValid := version.isSome }
    mModelValid := (getText api params KEY_EXIF_MODEL).isSome
    mMakeValid := (getText api params KEY_EXIF_MAKE).isSome }

/-- `stringToRational`: the numerator and the denominator, zeros if the text is missing. A power
that does not fit becomes the largest number. -/
def stringToRational (str : Option Text) : BitVec 32 × BitVec 32 :=
  match str with
  | none => (0#32, 0#32)
  | some str =>
    if s.copied = false then (0#32, 0#32)
    else
      let numerator := match pieces ['.'] str with
        | [] => 0#32
        | temp :: _ => atoi temp
      let numerator := if numerator = 0#32 then 1#32 else numerator
      match pieces ['.'] str with
      | _ :: temp :: _ =>
        let denominator := BitVec.ofNat 32 (min (10 ^ temp.length) 4294967295)
        (numerator * denominator + atoi temp, denominator)
      | _ => (numerator, 1#32)

/-- The time of the picture, as both writers print it. -/
def timeText (pTime : Tm) : Text :=
  snprintf EXIF_DATE_TIME_SIZE (printPadded 4 (pTime.tm_year + 1900#32) ++
    ':' :: (printPadded 2 (pTime.tm_mon + 1#32) ++ ':' :: (printPadded 2 pTime.tm_mday ++
    ' ' :: (printPadded 2 pTime.tm_hour ++ ':' :: (printPadded 2 pTime.tm_min ++
    ':' :: printPadded 2 pTime.tm_sec)))))

/-- Three numbers of an array. -/
abbrev Three := BitVec 32 × BitVec 32 × BitVec 32

/-- `CameraHalExif`. The texts are those in its buffers, which are zeros behind them. -/
structure CameraHalExif where
  width : BitVec 32
  height : BitVec 32
  bExifEnable : Bool
  imageOri : BitVec 32
  dateTime : Text
  exifmake : Text
  exifmodel : Text
  focalLengthL : BitVec 32
  focalLengthH : BitVec 32
  bGPS : Bool
  gpsLATL : Three
  gpsLATH : Three
  gpsLATREF : BitVec 32
  gpsLONGL : Three
  gpsLONGH : Three
  gpsLONGREF : BitVec 32
  gpsALTL : BitVec 32
  gpsALTH : BitVec 32
  gpsALTREF : BitVec 32
  gpsProcessMethod : Text
  gpsTimeL : Three
  gpsTimeH : Three
  gpsDatestamp : Text
  deriving DecidableEq, Repr

/-- The text of a parameter that is copied if it is valid; `none` for copying from a null
pointer. -/
def validText (params : P) (valid : Bool) (key : ParamKey) : Option Text :=
  if valid then getText api params key else some []

/-- What `setupEXIF_vce` fills in, from the texts that are copied. -/
def filledExif (params : P) (mEXIFData : EXIFData) (mEncodeWidth mEncodeHeight : BitVec 32)
    (model make method : Text) : CameraHalExif :=
  let gps := mEXIFData.mGPSData
  let rational := stringToRational s (getText api params KEY_FOCAL_LENGTH)
  { width := mEncodeWidth
    height := mEncodeHeight
    bExifEnable := true
    imageOri := match getText api params KEY_ROTATION with
      | some valstr => BitVec.ofInt 32 (longOf valstr)
      | none => 0#32
    dateTime := match s.localtime with
      | some pTime => strlcpy EXIF_DATE_TIME_SIZE (timeText pTime)
      | none => []
    exifmake := strlcpy EXIF_MAKE_SIZE make
    exifmodel := strlcpy EXIF_MODEL_SIZE model
    focalLengthL := if rational.1 ≠ 0 ∨ rational.2 ≠ 0 then rational.2 else 0
    focalLengthH := if rational.1 ≠ 0 ∨ rational.2 ≠ 0 then rational.1 else 0
    bGPS := gps.mLatValid && gps.mLongValid
    gpsLATL := if gps.mLatValid then (1, 1, gps.mLatSecDiv.abs) else (1, 1, 1)
    gpsLATH :=
      if gps.mLatValid then (gps.mLatDeg.abs, gps.mLatMin.abs, gps.mLatSec.abs) else (0, 0, 0)
    gpsLATREF := if gps.mLatValid ∧ gps.mLatRef = GPS_SOUTH_REF then 1 else 0
    gpsLONGL := if gps.mLongValid then (1, 1, gps.mLongSecDiv.abs) else (1, 1, 1)
    gpsLONGH :=
      if gps.mLongValid then (gps.mLongDeg.abs, gps.mLongMin.abs, gps.mLongSec.abs)
      else (0, 0, 0)
    gpsLONGREF := if gps.mLongValid ∧ gps.mLongRef = GPS_WEST_REF then 1 else 0
    gpsALTL := 1
    gpsALTH := if gps.mAltitudeValid then gps.mAltitude.abs else 0
    gpsALTREF := if gps.mAltitudeValid then gps.mAltitudeRef else 0
    gpsProcessMethod := strlcpy GPS_PROCESSING_SIZE method
    gpsTimeL := (1, 1, 1)
    gpsTimeH :=
      if gps.mTimeStampValid then (gps.mTimeStampHour, gps.mTimeStampMin, gps.mTimeStampSec)
      else (0, 0, 0)
    gpsDatestamp :=
      if gps.mDatestampValid then strlcpy GPS_DATESTAMP_SIZE gps.mDatestamp else [] }

/-- `setupEXIF_vce`. -/
def setupEXIF_vce (params : P) (mEXIFData : EXIFData) (mEncodeWidth mEncodeHeight : BitVec 32) :
    Option CameraHalExif := do
  let model ← validText api params mEXIFData.mModelValid KEY_EXIF_MODEL
  let make ← validText api params mEXIFData.mMakeValid KEY_EXIF_MAKE
  let method ← validText api params mEXIFData.mGPSData.mProcMethodValid KEY_GPS_PROCESSING_METHOD
  some (filledExif api s params mEXIFData mEncodeWidth mEncodeHeight model make method)

/-! ### The writers -/

/-- `%u/%u`. -/
def ratioU (numerator denominator : BitVec 32) : Text :=
  printU numerator ++ '/' :: printU denominator

/-- `%d/%d`. -/
def ratioD (numerator denominator : BitVec 32) : Text :=
  printD numerator ++ '/' :: printD denominator

/-- `%d/%d,%d/%d,%d/%d`. -/
def ratios (numerators denominators : Three) : Text :=
  ratioD numerators.1 denominators.1 ++ ',' :: (ratioD numerators.2.1 denominators.2.1 ++
    ',' :: ratioD numerators.2.2 denominators.2.2)

/-- A buffer of a size with a text in it. -/
def buffer (size : ℕ) (text : Text) : Text := text.rightpad size terminator

/-- The blocks of `convertEXIF_libjpeg`. -/
def convertBlocks (exif : CameraHalExif) (mEncodeWidth mEncodeHeight : BitVec 32) : List Block :=
  [ one (exif.exifmodel ≠ []) TAG_MODEL (some exif.exifmodel),
    one (exif.exifmake ≠ []) TAG_MAKE (some exif.exifmake),
    one (exif.focalLengthH ≠ 0 ∨ exif.focalLengthL ≠ 0) TAG_FOCALLENGTH
      (some (snprintf 256 (ratioU exif.focalLengthH exif.focalLengthL))),
    one true TAG_DATETIME (some exif.dateTime),
    one true TAG_IMAGE_WIDTH (some (snprintf 5 (printU mEncodeWidth))),
    one true TAG_IMAGE_LENGTH (some (snprintf 5 (printU mEncodeHeight))),
    two exif.bGPS TAG_GPS_LAT (snprintf 255 (ratios exif.gpsLATH exif.gpsLATL))
      TAG_GPS_LAT_REF (if exif.gpsLATREF = 1 then GPS_SOUTH_REF else GPS_NORTH_REF),
    two exif.bGPS TAG_GPS_LONG (snprintf 255 (ratios exif.gpsLONGH exif.gpsLONGL))
      TAG_GPS_LONG_REF (if exif.gpsLONGREF = 1 then GPS_WEST_REF else GPS_EAST_REF),
    two exif.bGPS TAG_GPS_ALT (snprintf 255 (ratioD exif.gpsALTH exif.gpsALTL))
      TAG_GPS_ALT_REF (if exif.gpsALTREF = 1 then ['1'] else ['0']),
    one (exif.bGPS && exif.gpsProcessMethod ≠ []) TAG_GPS_PROCESSING_METHOD
      (some (buffer GPS_PROCESSING_SIZE exif.gpsProcessMethod)),
    one exif.bGPS TAG_GPS_TIMESTAMP (some (snprintf 255 (ratios exif.gpsTimeH exif.gpsTimeL))),
    one exif.bGPS TAG_GPS_DATESTAMP (some exif.gpsDatestamp),
    one true TAG_ORIENTATION (some (snprintf 4 (printD exif.imageOri))) ]

/-- `convertEXIF_libjpeg`. -/
def convertEXIF_libjpeg (exif : CameraHalExif) (t : ExifElementsTable)
    (mEncodeWidth mEncodeHeight : BitVec 32) : Status × ExifElementsTable :=
  runBlocks jhead memory (convertBlocks exif mEncodeWidth mEncodeHeight) t

/-- `degreesToExifOrientation`. -/
def degreesToExifOrientation (degrees : BitVec 32) : Option Text :=
  if degrees = 0 then some ['1']
  else if degrees = 90 then some ['6']
  else if degrees = 180 then some ['3']
  else if degrees = 270 then some ['8']
  else none

/-- The memory at the buffer in which the processing method is put together: it need not end in the
buffer. -/
def methodMemory (method : Text) : Text :=
  jhead.ExifAsciiPrefix ++
    ((method ++ [terminator]).take (GPS_PROCESSING_SIZE - jhead.ExifAsciiPrefix.length) ++ s.behind)

/-- The version that is printed, of a buffer of characters. -/
def versionText (mVersionId : Text) : Text :=
  let digit (i : ℕ) := Nat.toDigits 10 (mVersionId.getD i terminator).toNat
  digit 0 ++ ',' :: (digit 1 ++ ',' :: (digit 2 ++ ',' :: digit 3))

/-- The blocks of `setupEXIF_libjpeg`. -/
def setupBlocks (params : P) (mEXIFData : EXIFData) (mEncodeWidth mEncodeHeight : BitVec 32)
    (method : Text) : List Block :=
  let gps := mEXIFData.mGPSData
  let rational := stringToRational s (getText api params KEY_FOCAL_LENGTH)
  let orientation := (getText api params KEY_ROTATION).bind fun _ =>
    degreesToExifOrientation (api.getInt params KEY_ROTATION)
  [ one mEXIFData.mModelValid TAG_MODEL (getText api params KEY_EXIF_MODEL),
    one mEXIFData.mMakeValid TAG_MAKE (getText api params KEY_EXIF_MAKE),
    one (rational.1 ≠ 0 ∨ rational.2 ≠ 0) TAG_FOCALLENGTH
      (some (snprintf 256 (ratioU rational.1 rational.2))),
    one s.localtime.isSome TAG_DATETIME (s.localtime.map timeText),
    one true TAG_IMAGE_WIDTH (some (snprintf 5 (printU mEncodeWidth))),
    one true TAG_IMAGE_LENGTH (some (snprintf 5 (printU mEncodeHeight))),
    one gps.mLatValid TAG_GPS_LAT
      (some (snprintf 255 (ratios (gps.mLatDeg.abs, gps.mLatMin.abs, gps.mLatSec.abs)
        (1, 1, gps.mLatSecDiv.abs)))),
    one gps.mLatValid TAG_GPS_LAT_REF (some gps.mLatRef),
    one gps.mLongValid TAG_GPS_LONG
      (some (snprintf 255 (ratios (gps.mLongDeg.abs, gps.mLongMin.abs, gps.mLongSec.abs)
        (1, 1, gps.mLongSecDiv.abs)))),
    one gps.mLongValid TAG_GPS_LONG_REF (some gps.mLongRef),
    one gps.mAltitudeValid TAG_GPS_ALT (some (snprintf 255 (ratioD gps.mAltitude.abs 1))),
    one gps.mAltitudeValid TAG_GPS_ALT_REF (some (snprintf 4 (printD gps.mAltitudeRef))),
    one gps.mMapDatumValid TAG_GPS_MAP_DATUM (some gps.mMapDatum),
    one gps.mProcMethodValid TAG_GPS_PROCESSING_METHOD (some (methodMemory jhead s method)),
    one gps.mVersionIdValid TAG_GPS_VERSION_ID (some (snprintf 255 (versionText gps.mVersionId))),
    one gps.mTimeStampValid TAG_GPS_TIMESTAMP
      (some (snprintf 255 (ratios (gps.mTimeStampHour, gps.mTimeStampMin, gps.mTimeStampSec)
        (1, 1, 1)))),
    one gps.mDatestampValid TAG_GPS_DATESTAMP (some gps.mDatestamp),
    one orientation.isSome TAG_ORIENTATION orientation ]

/-- `setupEXIF_libjpeg`; `none` for copying from a null pointer. -/
def setupEXIF_libjpeg (params : P) (mEXIFData : EXIFData) (t : ExifElementsTable)
    (mEncodeWidth mEncodeHeight : BitVec 32) : Option (Status × ExifElementsTable) := do
  let method ← validText api params mEXIFData.mGPSData.mProcMethodValid KEY_GPS_PROCESSING_METHOD
  some (runBlocks jhead memory
    (setupBlocks jhead api s params mEXIFData mEncodeWidth mEncodeHeight method) t)

/-- `OMX_ACT_PARAM_EXIFPARAM`, without the port. -/
structure OMX_ACT_PARAM_EXIFPARAM where
  bExifEnable : Bool
  bGPS : Bool
  dataTime : Text
  exifmake : Text
  exifmodel : Text
  focalLengthL : BitVec 32
  focalLengthH : BitVec 32
  gpsDate : Text
  gpsLATL : Three
  gpsLATH : Three
  gpsLATREF : BitVec 32
  gpsLONGL : Three
  gpsLONGH : Three
  gpsLONGREF : BitVec 32
  gpsALTIL : BitVec 32
  gpsALTIH : BitVec 32
  gpsALTIREF : BitVec 32
  gpsprocessMethod : Text
  gpsTimeL : Three
  gpsTimeH : Three
  ImageOri : BitVec 32
  deriving DecidableEq, Repr

/-- The orientation that `setExif` gives for a number of degrees. -/
def imageOrientation (imageOri : BitVec 32) : BitVec 32 :=
  if imageOri = 0 then 1
  else if imageOri = 90 then 6
  else if imageOri = 180 then 3
  else if imageOri = 270 then 8
  else 1

/-- `setExif`; `none` if the metadata are disabled. -/
def setExif (exifParam : Option CameraHalExif) : Option OMX_ACT_PARAM_EXIFPARAM :=
  exifParam.map fun exif =>
    { bExifEnable := true
      bGPS := exif.bGPS
      dataTime := exif.dateTime
      exifmake := exif.exifmake
      exifmodel := exif.exifmodel
      focalLengthL := exif.focalLengthL
      focalLengthH := exif.focalLengthH
      gpsDate := exif.gpsDatestamp
      gpsLATL := exif.gpsLATL
      gpsLATH := exif.gpsLATH
      gpsLATREF := exif.gpsLATREF
      gpsLONGL := exif.gpsLONGL
      gpsLONGH := exif.gpsLONGH
      gpsLONGREF := exif.gpsLONGREF
      gpsALTIL := exif.gpsALTL
      gpsALTIH := exif.gpsALTH
      gpsALTIREF := exif.gpsALTREF
      gpsprocessMethod := exif.gpsProcessMethod
      gpsTimeL := exif.gpsTimeL
      gpsTimeH := exif.gpsTimeH
      ImageOri := imageOrientation exif.imageOri }

/-! ### Agreement -/

/-- What a value says: the text of undefined type follows its prefix. -/
def denoted (tag : ExifTag) (value : Text) : Text :=
  if isAsciiTag tag then value.drop jhead.ExifAsciiPrefix.length else value

/-- What a table says of a tag. -/
def ExifElementsTable.denotes (t : ExifElementsTable) (tag : ExifTag) : Option Text :=
  (t.value tag).map (denoted jhead tag)

/-- A text that is there if it is not empty. -/
def nonempty (text : Text) : Option Text := if text = [] then none else some text

/-- What the record of the hardware encoder says of a tag. -/
def OMX_ACT_PARAM_EXIFPARAM.denotes (exif : OMX_ACT_PARAM_EXIFPARAM) : ExifTag → Option Text
  | TAG_MODEL => nonempty exif.exifmodel
  | TAG_MAKE => nonempty exif.exifmake
  | TAG_FOCALLENGTH =>
    if exif.focalLengthH ≠ 0 ∨ exif.focalLengthL ≠ 0 then
      some (ratioU exif.focalLengthH exif.focalLengthL)
    else none
  | TAG_DATETIME => nonempty exif.dataTime
  | TAG_IMAGE_WIDTH => none
  | TAG_IMAGE_LENGTH => none
  | TAG_GPS_LAT => if exif.bGPS then some (ratios exif.gpsLATH exif.gpsLATL) else none
  | TAG_GPS_LAT_REF =>
    if exif.bGPS then some (if exif.gpsLATREF = 1 then GPS_SOUTH_REF else GPS_NORTH_REF) else none
  | TAG_GPS_LONG => if exif.bGPS then some (ratios exif.gpsLONGH exif.gpsLONGL) else none
  | TAG_GPS_LONG_REF =>
    if exif.bGPS then some (if exif.gpsLONGREF = 1 then GPS_WEST_REF else GPS_EAST_REF) else none
  | TAG_GPS_ALT => if exif.bGPS then some (ratioD exif.gpsALTIH exif.gpsALTIL) else none
  | TAG_GPS_ALT_REF => if exif.bGPS then some (printD exif.gpsALTIREF) else none
  | TAG_GPS_MAP_DATUM => none
  | TAG_GPS_PROCESSING_METHOD => if exif.bGPS then nonempty exif.gpsprocessMethod else none
  | TAG_GPS_VERSION_ID => none
  | TAG_GPS_TIMESTAMP => if exif.bGPS then some (ratios exif.gpsTimeH exif.gpsTimeL) else none
  | TAG_GPS_DATESTAMP => if exif.bGPS then nonempty exif.gpsDate else none
  | TAG_ORIENTATION => some (printU exif.ImageOri)

/-- The tags that the record for the hardware encoder has. -/
def KnownToHardware (tag : ExifTag) : Prop :=
  tag ∉ [TAG_IMAGE_WIDTH, TAG_IMAGE_LENGTH, TAG_GPS_MAP_DATUM, TAG_GPS_VERSION_ID]

/-- The tags that the software encoder is given from the record of the HAL. -/
def KnownToSoftware (tag : ExifTag) : Prop := tag ∉ [TAG_GPS_MAP_DATUM, TAG_GPS_VERSION_ID]

instance (tag : ExifTag) : Decidable (KnownToHardware tag) := inferInstanceAs (Decidable (_ ∉ _))

instance (tag : ExifTag) : Decidable (KnownToSoftware tag) := inferInstanceAs (Decidable (_ ∉ _))

/-- The three writers say the same of each tag that they know. -/
structure Agree (software direct : ExifElementsTable) (hardware : OMX_ACT_PARAM_EXIFPARAM) :
    Prop where
  hardware : ∀ tag, KnownToHardware tag → software.denotes jhead tag = hardware.denotes tag
  direct : ∀ tag, KnownToSoftware tag → software.denotes jhead tag = direct.denotes jhead tag

/-- The rotation is missing or a quarter turn. -/
def RotationGiven (params : P) : Prop :=
  ∀ valstr, getText api params KEY_ROTATION = some valstr →
    longOf valstr ∈ [(0 : ℤ), 90, 180, 270]

/-! ### A run of a writer -/

/-- The insertions of the blocks whose condition holds. -/
def inserted (blocks : List Block) : List (ExifTag × Option Text) :=
  blocks.flatMap fun b => if b.condition then b.insertions else []

/-- The value that is inserted for a tag. -/
def given (tag : ExifTag) (blocks : List Block) : Option Text :=
  ((inserted blocks).lookup tag).join

/-- No null pointer is inserted. -/
def NoNull (blocks : List Block) : Prop := ∀ e ∈ inserted blocks, e.2.isSome = true

/-- A table with some more elements. -/
def ExifElementsTable.addAll (t : ExifElementsTable) (l : List (ExifTag × Option Text)) :
    ExifElementsTable :=
  l.foldl (fun t e => t.add jhead memory e.1 (e.2.getD [])) t

/-- A block with one insertion comes first. -/
@[simp] lemma given_one (tag tag' : ExifTag) (c : Bool) (v : Option Text) (rest : List Block) :
    given tag (one c tag' v :: rest) = if c = true ∧ tag = tag' then v else given tag rest := by
  unfold given inserted one
  by_cases htag : tag = tag'
  · cases c <;> simp [htag]
  · have hbeq : (tag == tag') = false := beq_false_of_ne htag
    cases c <;> simp [htag, hbeq, List.lookup_cons]

/-- A block with two insertions comes first. -/
@[simp] lemma given_two (tag tag₁ tag₂ : ExifTag) (c : Bool) (v₁ v₂ : Text) (rest : List Block) :
    given tag (two c tag₁ v₁ tag₂ v₂ :: rest) =
      if c = true ∧ tag = tag₁ then some v₁ else if c = true ∧ tag = tag₂ then some v₂
      else given tag rest := by
  have hsplit : given tag (two c tag₁ v₁ tag₂ v₂ :: rest) =
      given tag (one c tag₁ (some v₁) :: one c tag₂ (some v₂) :: rest) := by
    unfold given inserted one two
    cases c <;> simp
  rw [hsplit, given_one, given_one]

/-- There are no blocks. -/
@[simp] lemma given_nil (tag : ExifTag) : given tag [] = none := rfl

/-- No null pointer in a block with one insertion and behind it. -/
@[simp] lemma noNull_one (tag : ExifTag) (c : Bool) (v : Option Text) (rest : List Block) :
    NoNull (one c tag v :: rest) ↔ (c = true → v.isSome = true) ∧ NoNull rest := by
  unfold NoNull inserted one
  cases c <;> simp

/-- No null pointer behind a block with two values. -/
@[simp] lemma noNull_two (tag tag' : ExifTag) (c : Bool) (v v' : Text) (rest : List Block) :
    NoNull (two c tag v tag' v' :: rest) ↔ NoNull rest := by
  unfold NoNull inserted two
  cases c <;> simp

/-- There are no blocks. -/
@[simp] lemma noNull_nil : NoNull [] := List.forall_mem_nil _

/-- There are at most as many insertions as there are in the blocks. -/
lemma length_inserted_le (blocks : List Block) :
    (inserted blocks).length ≤ (blocks.map fun b => b.insertions.length).sum := by
  induction blocks with
  | nil => exact Nat.le_refl 0
  | cons b rest ih =>
    have hb : (if b.condition then b.insertions else []).length ≤ b.insertions.length := by
      split_ifs <;> simp
    have hcons : inserted (b :: rest) =
        (if b.condition then b.insertions else []) ++ inserted rest := rfl
    rw [hcons, List.length_append, List.map_cons, List.sum_cons]
    omega

/-- Insertions of values into a table with room for them. -/
lemma insertAll_eq {l : List (ExifTag × Option Text)} (hvalues : ∀ e ∈ l, e.2.isSome = true)
    (t : ExifElementsTable) (hroom : t.table.length + l.length ≤ MAX_EXIF_TAGS_SUPPORTED) :
    insertAll jhead memory l (NO_ERROR, t) = (NO_ERROR, t.addAll jhead memory l) := by
  induction l generalizing t with
  | nil => rfl
  | cons e rest ih =>
    obtain ⟨v, hv⟩ := Option.isSome_iff_exists.mp (hvalues e List.mem_cons_self)
    rw [List.length_cons] at hroom
    have hlt : ¬ t.table.length ≥ MAX_EXIF_TAGS_SUPPORTED := by omega
    have hfirst : insertElement jhead memory e.1 e.2 t =
        (NO_ERROR, t.add jhead memory e.1 (e.2.getD [])) := by
      rw [hv, insertElement, if_neg hlt, Option.getD_some]
    have hlength : (t.add jhead memory e.1 (e.2.getD [])).table.length = t.table.length + 1 :=
      List.length_append
    have hrest := ih (fun f hf => hvalues f (List.mem_cons_of_mem e hf))
      (t.add jhead memory e.1 (e.2.getD [])) (by rw [hlength]; omega)
    unfold insertAll at hrest ⊢
    rw [List.foldl_cons, hfirst, hrest]
    rfl

/-- More elements follow those of the table. -/
lemma table_addAll (t : ExifElementsTable) (l : List (ExifTag × Option Text)) :
    ∃ more, (t.addAll jhead memory l).table = t.table ++ more ∧ more.length = l.length := by
  induction l generalizing t with
  | nil => exact ⟨[], (List.append_nil t.table).symm, rfl⟩
  | cons e rest ih =>
    obtain ⟨more, htable, hlength⟩ := ih (t.add jhead memory e.1 (e.2.getD []))
    refine ⟨element jhead memory t.table.length e.1 (e.2.getD []) :: more, ?_, ?_⟩
    · rw [List.append_cons]
      exact htable
    · rw [List.length_cons, List.length_cons, hlength]

/-- **A run of a writer.** Without null pointers and with room in the table, each block whose
condition holds inserts its elements, in order.

**Proof sketch.** Induction on the blocks: no insertion fails, so the status stays `NO_ERROR`. -/
lemma runBlocks_eq {blocks : List Block} (hvalues : NoNull blocks) (t : ExifElementsTable)
    (hroom : t.table.length + (inserted blocks).length ≤ MAX_EXIF_TAGS_SUPPORTED) :
    runBlocks jhead memory blocks t = (NO_ERROR, t.addAll jhead memory (inserted blocks)) := by
  induction blocks generalizing t with
  | nil => rfl
  | cons b rest ih =>
    have hcons : inserted (b :: rest) =
        (if b.condition then b.insertions else []) ++ inserted rest := rfl
    rw [NoNull, hcons] at hvalues
    rw [hcons, List.length_append] at hroom
    have hvaluesRest : NoNull rest := fun e he => hvalues e (List.mem_append_right _ he)
    by_cases hb : b.condition = true
    · rw [if_pos hb] at hcons hvalues hroom
      have hblock := insertAll_eq jhead memory
        (fun e he => hvalues e (List.mem_append_left _ he)) t (by omega)
      obtain ⟨more, htable, hlength⟩ := table_addAll jhead memory t b.insertions
      have hrest := ih hvaluesRest (t.addAll jhead memory b.insertions)
        (by rw [htable, List.length_append, hlength]; omega)
      unfold runBlocks at hrest ⊢
      rw [List.foldl_cons, if_pos ⟨rfl, hb⟩, hblock, hrest, hcons]
      unfold ExifElementsTable.addAll
      rw [List.foldl_append]
    · rw [if_neg hb] at hcons hroom
      have hrest := ih hvaluesRest t (by simpa using hroom)
      unfold runBlocks at hrest ⊢
      rw [List.foldl_cons, if_neg (fun h => hb h.2), hrest, hcons, List.nil_append]

/-- The first element with a tag gives its value. -/
lemma value_of_append {t : ExifElementsTable} {front back : List ExifElement} {e : ExifElement}
    (htable : t.table = front ++ e :: back) (hfront : ∀ f ∈ front, f.Tag ≠ e.Tag) :
    t.value e.Tag = e.Value := by
  have hnone : front.find? (fun f => decide (f.Tag = e.Tag)) = none := by
    rw [List.find?_eq_none]
    intro f hf
    simpa using hfront f hf
  rw [ExifElementsTable.value, htable, List.find?_append, hnone]
  simp

/-- The values of the elements that are added to a table without their tag. Where there is no memory
for a value, there is none. -/
lemma value_addAll {tag : ExifTag} (t : ExifElementsTable) (ht : ∀ e ∈ t.table, e.Tag ≠ tag)
    {l : List (ExifTag × Option Text)} (hvalues : ∀ e ∈ l, e.2.isSome = true) :
    (t.addAll jhead memory l).value tag = (l.lookup tag).join.map (content jhead tag) ∨
      (t.addAll jhead memory l).value tag = none ∧ ¬ ∀ i, memory i = true := by
  induction l generalizing t with
  | nil =>
    refine Or.inl ?_
    have hnone : t.table.find? (fun e => decide (e.Tag = tag)) = none := by
      rw [List.find?_eq_none]
      intro e he
      simpa using ht e he
    have hvalue : t.value tag = none := by rw [ExifElementsTable.value, hnone, Option.bind_none]
    exact hvalue
  | cons e rest ih =>
    obtain ⟨etag, evalue⟩ := e
    obtain ⟨v, rfl⟩ := Option.isSome_iff_exists.mp (hvalues (etag, evalue) List.mem_cons_self)
    by_cases htag : etag = tag
    · subst htag
      obtain ⟨more, htable, -⟩ := table_addAll jhead memory (t.add jhead memory etag v) rest
      have happend : (t.addAll jhead memory ((etag, some v) :: rest)).table =
          t.table ++ element jhead memory t.table.length etag v :: more := by
        rw [List.append_cons]
        exact htable
      have hvalue := value_of_append happend ht
      simp only [element] at hvalue
      rw [hvalue, List.lookup_cons_self, Option.join_some, Option.map_some]
      by_cases hmemory : memory t.table.length = true
      · exact Or.inl (if_pos hmemory)
      · exact Or.inr ⟨if_neg hmemory, fun hall => hmemory (hall _)⟩
    · have hlookup : ((etag, some v) :: rest).lookup tag = rest.lookup tag := by
        rw [List.lookup_cons, beq_false_of_ne (Ne.symm htag)]
      rw [hlookup]
      refine ih (t.add jhead memory etag v) ?_ fun f hf => hvalues f (List.mem_cons_of_mem _ hf)
      intro f hf
      rcases List.mem_append.mp hf with hf | hf
      · exact ht f hf
      · rw [List.mem_singleton.mp hf]
        exact htag

/-- What a writer leaves in an empty table. -/
lemma value_runBlocks {blocks : List Block} (hvalues : NoNull blocks)
    (hroom : (blocks.map fun b => b.insertions.length).sum ≤ MAX_EXIF_TAGS_SUPPORTED)
    (tag : ExifTag) :
    (runBlocks jhead memory blocks .empty).2.value tag =
        (given tag blocks).map (content jhead tag) ∨
      (runBlocks jhead memory blocks .empty).2.value tag = none ∧ ¬ ∀ i, memory i = true := by
  have hlength : ExifElementsTable.empty.table.length + (inserted blocks).length ≤
      MAX_EXIF_TAGS_SUPPORTED := by
    have hle := length_inserted_le blocks
    have hempty : ExifElementsTable.empty.table.length = 0 := rfl
    omega
  rw [runBlocks_eq jhead memory hvalues _ hlength]
  exact value_addAll jhead memory _ (List.forall_mem_nil _) hvalues

/-! ### The three writers -/

/-- What `setParametersEXIF` ensures of the data. -/
structure Consistent (params : P) (data : EXIFData) : Prop where
  model : data.mModelValid = (getText api params KEY_EXIF_MODEL).isSome
  make : data.mMakeValid = (getText api params KEY_EXIF_MAKE).isSome
  method : data.mGPSData.mProcMethodValid = (getText api params KEY_GPS_PROCESSING_METHOD).isSome
  latRef : data.mGPSData.mLatValid = true →
    data.mGPSData.mLatRef = GPS_NORTH_REF ∨ data.mGPSData.mLatRef = GPS_SOUTH_REF
  longRef : data.mGPSData.mLongValid = true →
    data.mGPSData.mLongRef = GPS_EAST_REF ∨ data.mGPSData.mLongRef = GPS_WEST_REF
  altitudeRef : data.mGPSData.mAltitudeValid = true →
    data.mGPSData.mAltitudeRef = 0#32 ∨ data.mGPSData.mAltitudeRef = 1#32
  date : data.mGPSData.mDatestampValid = data.mGPSData.mTimeStampValid
  dateFits : data.mGPSData.mDatestampValid = true → data.mGPSData.mDatestamp.length ≤ 10

/-- `setParametersEXIF` ensures it. -/
lemma consistent_setParametersEXIF (params : P) (old : EXIFData) :
    Consistent api params (setParametersEXIF api s params old) where
  model := rfl
  make := rfl
  method := rfl
  latRef h := by
    obtain ⟨c, hc⟩ := Option.isSome_iff_exists.mp h
    simp only [setParametersEXIF, hc, Option.elim_some]
    split_ifs <;> simp
  longRef h := by
    obtain ⟨c, hc⟩ := Option.isSome_iff_exists.mp h
    simp only [setParametersEXIF, hc, Option.elim_some]
    split_ifs <;> simp
  altitudeRef h := by
    obtain ⟨a, ha⟩ := Option.isSome_iff_exists.mp h
    simp only [setParametersEXIF, ha, Option.elim_some]
    split_ifs <;> simp
  date := rfl
  dateFits h := by
    obtain ⟨time, htime⟩ := Option.isSome_iff_exists.mp h
    simp only [setParametersEXIF, htime, Option.elim_some, dateText, snprintf, List.length_take]
    exact Nat.min_le_left _ _

/-- A text that is valid can be copied. -/
lemma validText_isSome_getText (params : P) (key : ParamKey) :
    validText api params (getText api params key).isSome key =
      some ((getText api params key).getD []) := by
  unfold validText
  cases getText api params key <;> rfl

/-- The record of the HAL for consistent data. -/
def recordOf (params : P) (data : EXIFData) (mEncodeWidth mEncodeHeight : BitVec 32) :
    CameraHalExif :=
  filledExif api s params data mEncodeWidth mEncodeHeight
    ((getText api params KEY_EXIF_MODEL).getD []) ((getText api params KEY_EXIF_MAKE).getD [])
    ((getText api params KEY_GPS_PROCESSING_METHOD).getD [])

/-- The blocks of the direct writer for consistent data. -/
def directBlocks (params : P) (data : EXIFData) (mEncodeWidth mEncodeHeight : BitVec 32) :
    List Block :=
  setupBlocks jhead api s params data mEncodeWidth mEncodeHeight
    ((getText api params KEY_GPS_PROCESSING_METHOD).getD [])

/-- With consistent data no null pointer is read. -/
lemma setupEXIF_vce_eq {params : P} {data : EXIFData} (h : Consistent api params data)
    (mEncodeWidth mEncodeHeight : BitVec 32) :
    setupEXIF_vce api s params data mEncodeWidth mEncodeHeight =
      some (recordOf api s params data mEncodeWidth mEncodeHeight) := by
  unfold setupEXIF_vce
  rw [h.model, h.make, h.method]
  simp only [validText_isSome_getText]
  rfl

/-- Nor is it by the direct writer. -/
lemma setupEXIF_libjpeg_eq {params : P} {data : EXIFData} (h : Consistent api params data)
    (mEncodeWidth mEncodeHeight : BitVec 32) :
    setupEXIF_libjpeg jhead memory api s params data .empty mEncodeWidth mEncodeHeight =
      some (runBlocks jhead memory
        (directBlocks jhead api s params data mEncodeWidth mEncodeHeight) .empty) := by
  unfold setupEXIF_libjpeg
  rw [h.method]
  simp only [validText_isSome_getText]
  rfl

/-- The software encoder is given no null pointer. -/
lemma noNull_convertBlocks (exif : CameraHalExif) (mEncodeWidth mEncodeHeight : BitVec 32) :
    NoNull (convertBlocks exif mEncodeWidth mEncodeHeight) := by
  simp [convertBlocks]

/-- The direct writer inserts no null pointer. -/
lemma noNull_directBlocks {params : P} {data : EXIFData} (h : Consistent api params data)
    (mEncodeWidth mEncodeHeight : BitVec 32) :
    NoNull (directBlocks jhead api s params data mEncodeWidth mEncodeHeight) := by
  simp [directBlocks, setupBlocks, h.model, h.make]

/-- What the software encoder is given for a tag. -/
lemma value_convertEXIF_libjpeg (exif : CameraHalExif) (mEncodeWidth mEncodeHeight : BitVec 32)
    (tag : ExifTag) :
    let t := (convertEXIF_libjpeg jhead memory exif .empty mEncodeWidth mEncodeHeight).2
    t.value tag = (given tag (convertBlocks exif mEncodeWidth mEncodeHeight)).map
        (content jhead tag) ∨
      t.value tag = none ∧ ¬ ∀ i, memory i = true :=
  value_runBlocks jhead memory (noNull_convertBlocks exif mEncodeWidth mEncodeHeight)
    (by simp [convertBlocks, one, two, MAX_EXIF_TAGS_SUPPORTED]) tag

/-- What the direct writer inserts for a tag. -/
lemma value_direct {params : P} {data : EXIFData} (h : Consistent api params data)
    (mEncodeWidth mEncodeHeight : BitVec 32) (tag : ExifTag) :
    let blocks := directBlocks jhead api s params data mEncodeWidth mEncodeHeight
    (runBlocks jhead memory blocks .empty).2.value tag =
        (given tag blocks).map (content jhead tag) ∨
      (runBlocks jhead memory blocks .empty).2.value tag = none ∧ ¬ ∀ i, memory i = true :=
  value_runBlocks jhead memory (noNull_directBlocks jhead api s h mEncodeWidth mEncodeHeight)
    (by simp [directBlocks, setupBlocks, one, MAX_EXIF_TAGS_SUPPORTED]) tag

/-- The number of degrees in the record of the HAL. -/
lemma imageOri_recordOf {params : P} (h : RotationGiven api params) (data : EXIFData)
    (mEncodeWidth mEncodeHeight : BitVec 32) :
    (recordOf api s params data mEncodeWidth mEncodeHeight).imageOri ∈
      [0#32, 90#32, 180#32, 270#32] := by
  have hori : (recordOf api s params data mEncodeWidth mEncodeHeight).imageOri =
      match getText api params KEY_ROTATION with
      | some valstr => BitVec.ofInt 32 (longOf valstr)
      | none => 0#32 := rfl
  rw [hori]
  cases htext : getText api params KEY_ROTATION with
  | none => decide
  | some valstr =>
    have hmem := h valstr htext
    show BitVec.ofInt 32 (longOf valstr) ∈ _
    generalize longOf valstr = degrees at hmem ⊢
    simp only [List.mem_cons, List.not_mem_nil, or_false] at hmem
    rcases hmem with rfl | rfl | rfl | rfl <;> decide

/-- The orientation that the software encoder is given is not that of the hardware encoder. -/
lemma orientation_ne {ori : BitVec 32} (h : ori ∈ [0#32, 90#32, 180#32, 270#32]) :
    cString (snprintf 4 (printD ori)) ≠ printU (imageOrientation ori) := by
  simp only [List.mem_cons, List.not_mem_nil, or_false] at h
  rcases h with rfl | rfl | rfl | rfl <;> decide

/-- The value under a condition. -/
def under (condition : Bool) (value : Option Text) : Option Text :=
  if condition then value else none

/-- What the software encoder is given, tag by tag. -/
def softwareGiven (exif : CameraHalExif) (mEncodeWidth mEncodeHeight : BitVec 32) :
    ExifTag → Option Text
  | TAG_MODEL => under (exif.exifmodel ≠ []) (some exif.exifmodel)
  | TAG_MAKE => under (exif.exifmake ≠ []) (some exif.exifmake)
  | TAG_FOCALLENGTH =>
    under (exif.focalLengthH ≠ 0 ∨ exif.focalLengthL ≠ 0)
      (some (snprintf 256 (ratioU exif.focalLengthH exif.focalLengthL)))
  | TAG_DATETIME => some exif.dateTime
  | TAG_IMAGE_WIDTH => some (snprintf 5 (printU mEncodeWidth))
  | TAG_IMAGE_LENGTH => some (snprintf 5 (printU mEncodeHeight))
  | TAG_GPS_LAT => under exif.bGPS (some (snprintf 255 (ratios exif.gpsLATH exif.gpsLATL)))
  | TAG_GPS_LAT_REF =>
    under exif.bGPS (some (if exif.gpsLATREF = 1 then GPS_SOUTH_REF else GPS_NORTH_REF))
  | TAG_GPS_LONG => under exif.bGPS (some (snprintf 255 (ratios exif.gpsLONGH exif.gpsLONGL)))
  | TAG_GPS_LONG_REF =>
    under exif.bGPS (some (if exif.gpsLONGREF = 1 then GPS_WEST_REF else GPS_EAST_REF))
  | TAG_GPS_ALT => under exif.bGPS (some (snprintf 255 (ratioD exif.gpsALTH exif.gpsALTL)))
  | TAG_GPS_ALT_REF => under exif.bGPS (some (if exif.gpsALTREF = 1 then ['1'] else ['0']))
  | TAG_GPS_MAP_DATUM => none
  | TAG_GPS_PROCESSING_METHOD =>
    under (exif.bGPS && exif.gpsProcessMethod ≠ [])
      (some (buffer GPS_PROCESSING_SIZE exif.gpsProcessMethod))
  | TAG_GPS_VERSION_ID => none
  | TAG_GPS_TIMESTAMP => under exif.bGPS (some (snprintf 255 (ratios exif.gpsTimeH exif.gpsTimeL)))
  | TAG_GPS_DATESTAMP => under exif.bGPS (some exif.gpsDatestamp)
  | TAG_ORIENTATION => some (snprintf 4 (printD exif.imageOri))

/-- Each tag is given once. -/
lemma given_convertBlocks (exif : CameraHalExif) (mEncodeWidth mEncodeHeight : BitVec 32)
    (tag : ExifTag) :
    given tag (convertBlocks exif mEncodeWidth mEncodeHeight) =
      softwareGiven exif mEncodeWidth mEncodeHeight tag := by
  cases tag <;> simp [convertBlocks, softwareGiven, under]

/-- What the direct writer inserts, tag by tag. -/
def directGiven (params : P) (data : EXIFData) (mEncodeWidth mEncodeHeight : BitVec 32) :
    ExifTag → Option Text :=
  let gps := data.mGPSData
  let rational := stringToRational s (getText api params KEY_FOCAL_LENGTH)
  fun
  | TAG_MODEL => getText api params KEY_EXIF_MODEL
  | TAG_MAKE => getText api params KEY_EXIF_MAKE
  | TAG_FOCALLENGTH =>
    under (rational.1 ≠ 0 ∨ rational.2 ≠ 0) (some (snprintf 256 (ratioU rational.1 rational.2)))
  | TAG_DATETIME => s.localtime.map timeText
  | TAG_IMAGE_WIDTH => some (snprintf 5 (printU mEncodeWidth))
  | TAG_IMAGE_LENGTH => some (snprintf 5 (printU mEncodeHeight))
  | TAG_GPS_LAT =>
    under gps.mLatValid (some (snprintf 255 (ratios (gps.mLatDeg.abs, gps.mLatMin.abs,
      gps.mLatSec.abs) (1, 1, gps.mLatSecDiv.abs))))
  | TAG_GPS_LAT_REF => under gps.mLatValid (some gps.mLatRef)
  | TAG_GPS_LONG =>
    under gps.mLongValid (some (snprintf 255 (ratios (gps.mLongDeg.abs, gps.mLongMin.abs,
      gps.mLongSec.abs) (1, 1, gps.mLongSecDiv.abs))))
  | TAG_GPS_LONG_REF => under gps.mLongValid (some gps.mLongRef)
  | TAG_GPS_ALT => under gps.mAltitudeValid (some (snprintf 255 (ratioD gps.mAltitude.abs 1)))
  | TAG_GPS_ALT_REF => under gps.mAltitudeValid (some (snprintf 4 (printD gps.mAltitudeRef)))
  | TAG_GPS_MAP_DATUM => under gps.mMapDatumValid (some gps.mMapDatum)
  | TAG_GPS_PROCESSING_METHOD =>
    (getText api params KEY_GPS_PROCESSING_METHOD).map (methodMemory jhead s)
  | TAG_GPS_VERSION_ID =>
    under gps.mVersionIdValid (some (snprintf 255 (versionText gps.mVersionId)))
  | TAG_GPS_TIMESTAMP =>
    under gps.mTimeStampValid (some (snprintf 255 (ratios (gps.mTimeStampHour, gps.mTimeStampMin,
      gps.mTimeStampSec) (1, 1, 1))))
  | TAG_GPS_DATESTAMP => under gps.mDatestampValid (some gps.mDatestamp)
  | TAG_ORIENTATION =>
    (getText api params KEY_ROTATION).bind fun _ =>
      degreesToExifOrientation (api.getInt params KEY_ROTATION)

/-- Each tag is inserted once. -/
lemma given_directBlocks {params : P} {data : EXIFData} (h : Consistent api params data)
    (mEncodeWidth mEncodeHeight : BitVec 32) (tag : ExifTag) :
    given tag (directBlocks jhead api s params data mEncodeWidth mEncodeHeight) =
      directGiven jhead api s params data mEncodeWidth mEncodeHeight tag := by
  have hsome : ∀ o : Option Text, (if o.isSome = true then o else none) = o := by
    intro o
    cases o <;> rfl
  have hmethod : ∀ o : Option Text,
      (if o.isSome = true then some (methodMemory jhead s (o.getD [])) else none) =
        o.map (methodMemory jhead s) := by
    intro o
    cases o <;> rfl
  have htime : (if s.localtime.isSome = true then s.localtime.map timeText else none) =
      s.localtime.map timeText := by
    cases s.localtime <;> rfl
  cases tag <;>
    simp [directBlocks, setupBlocks, directGiven, under, h.model, h.make, h.method, hsome, hmethod,
      htime]

/-- **The writers do not agree**, whatever the parameters are: `convertEXIF_libjpeg` inserts the
rotation in degrees, where `setExif` and `setupEXIF_libjpeg` give the code of the orientation.

**Proof sketch.** No null pointer is read, and the tables have room for all elements. So the
software encoder is given the text of `imageOri`, unless there is no memory for it; the hardware
encoder has one of the codes 1, 6, 3 and 8, which none of these texts is. -/
theorem not_agree {params : P} (hrotation : RotationGiven api params) (old : EXIFData)
    (memory' : ℕ → Bool) (mEncodeWidth mEncodeHeight : BitVec 32) :
    ∃ exif hardware direct,
      setupEXIF_vce api s params (setParametersEXIF api s params old) mEncodeWidth mEncodeHeight =
        some exif ∧
      setExif (some exif) = some hardware ∧
      setupEXIF_libjpeg jhead memory' api s params (setParametersEXIF api s params old) .empty
        mEncodeWidth mEncodeHeight = some direct ∧
      ¬ Agree jhead (convertEXIF_libjpeg jhead memory exif .empty mEncodeWidth mEncodeHeight).2
        direct.2 hardware := by
  have hconsistent := consistent_setParametersEXIF api s params old
  refine ⟨_, _, _, setupEXIF_vce_eq api s hconsistent mEncodeWidth mEncodeHeight, rfl,
    setupEXIF_libjpeg_eq jhead memory' api s hconsistent mEncodeWidth mEncodeHeight, fun h => ?_⟩
  have hori := imageOri_recordOf api s hrotation (setParametersEXIF api s params old) mEncodeWidth
    mEncodeHeight
  have htag := h.hardware TAG_ORIENTATION (by decide)
  unfold ExifElementsTable.denotes at htag
  rcases value_convertEXIF_libjpeg jhead memory
    (recordOf api s params (setParametersEXIF api s params old) mEncodeWidth mEncodeHeight)
    mEncodeWidth mEncodeHeight TAG_ORIENTATION with hvalue | ⟨hvalue, -⟩
  · rw [hvalue, given_convertBlocks] at htag
    exact orientation_ne hori (Option.some.inj htag)
  · rw [hvalue] at htag
    cases htag

/-- The prefix and the tags of the position, as `jhead` has them. -/
def jheadTags : Jhead where
  ExifAsciiPrefix := "ASCII\x00\x00\x00".toList
  IsGpsTag tag := tag ∈ [TAG_GPS_LAT, TAG_GPS_LAT_REF, TAG_GPS_LONG, TAG_GPS_LONG_REF, TAG_GPS_ALT,
    TAG_GPS_ALT_REF, TAG_GPS_MAP_DATUM, TAG_GPS_PROCESSING_METHOD, TAG_GPS_VERSION_ID,
    TAG_GPS_TIMESTAMP, TAG_GPS_DATESTAMP]
  length_prefix := rfl

/-- Surroundings without a position and with a time. -/
def noPosition : Surroundings where
  convertGPSCoord _ := none
  altitude _ := (0, false)
  gmtime _ := none
  localtime := some ⟨113, 5, 12, 10, 30, 0⟩
  copied := true
  behind := []

/-- Parameters with a quarter turn only. -/
def rotated : ParamKey → Option Text
  | KEY_ROTATION => some "90".toList
  | _ => none

/-- Data as they are at the start. -/
def noData : EXIFData :=
  ⟨⟨0, 0, 0, 0, [], false, 0, 0, 0, 0, [], false, 0, 0, false, [], false, [], false, [], false, [],
    false, 0, 0, 0, false⟩, false, false⟩

/-- The writers do not agree on a picture with a quarter turn. -/
theorem not_agree_rotated :
    ∃ exif hardware direct,
      setupEXIF_vce SetParameters.mapParameters noPosition rotated
        (setParametersEXIF SetParameters.mapParameters noPosition rotated noData) 640 480 =
          some exif ∧
      setExif (some exif) = some hardware ∧
      setupEXIF_libjpeg jheadTags (fun _ => true) SetParameters.mapParameters noPosition rotated
        (setParametersEXIF SetParameters.mapParameters noPosition rotated noData) .empty 640 480 =
          some direct ∧
      ¬ Agree jheadTags (convertEXIF_libjpeg jheadTags (fun _ => true) exif .empty 640 480).2
        direct.2 hardware :=
  not_agree jheadTags (fun _ => true) SetParameters.mapParameters noPosition
    (fun valstr h => by
      obtain rfl : "90".toList = valstr := Option.some.inj h
      decide) noData (fun _ => true) 640 480

/-- For the quarter turn the software encoder is given 90, the hardware encoder 6, and the direct
writer inserts 6. -/
theorem orientations_rotated :
    ∃ exif hardware direct,
      setupEXIF_vce SetParameters.mapParameters noPosition rotated
        (setParametersEXIF SetParameters.mapParameters noPosition rotated noData) 640 480 =
          some exif ∧
      setExif (some exif) = some hardware ∧
      setupEXIF_libjpeg jheadTags (fun _ => true) SetParameters.mapParameters noPosition rotated
        (setParametersEXIF SetParameters.mapParameters noPosition rotated noData) .empty 640 480 =
          some direct ∧
      (convertEXIF_libjpeg jheadTags (fun _ => true) exif .empty 640 480).2.denotes jheadTags
        TAG_ORIENTATION = some "90".toList ∧
      hardware.denotes TAG_ORIENTATION = some "6".toList ∧
      direct.2.denotes jheadTags TAG_ORIENTATION = some "6".toList ∧
      ¬ Agree jheadTags (convertEXIF_libjpeg jheadTags (fun _ => true) exif .empty 640 480).2
        direct.2 hardware := by
  refine ⟨_, _, _, rfl, rfl, rfl, by decide, by decide, by decide, fun h => ?_⟩
  exact absurd (h.hardware TAG_ORIENTATION (by decide)) (by decide)

/-! ### The other tags -/

/-- The terminator is not in a text. -/
lemma notMem_cString (memory : Text) : terminator ∉ cString memory := fun h => by
  simpa using List.mem_takeWhile_imp h

/-- A text without a terminator comes first. -/
lemma cString_append {x : Text} (hx : terminator ∉ x) (y : Text) :
    cString (x ++ y) = x ++ cString y :=
  List.takeWhile_append_of_pos fun c hc => by
    have hne : c ≠ terminator := fun h => hx (h ▸ hc)
    simpa using hne

/-- A text without a terminator. -/
lemma cString_eq_self {x : Text} (hx : terminator ∉ x) : cString x = x := by
  have happend := cString_append hx []
  rw [List.append_nil] at happend
  exact happend.trans (List.append_nil x)

/-- A text of the parameters has no terminator. -/
lemma notMem_getText {params : P} {key : ParamKey} {text : Text}
    (h : getText api params key = some text) : terminator ∉ text := by
  obtain ⟨stored, -, rfl⟩ := Option.map_eq_some_iff.mp h
  exact notMem_cString stored

/-- The meaning of a value that is inserted. -/
def meaning (tag : ExifTag) (value : Text) : Text := denoted jhead tag (content jhead tag value)

/-- The text of a parameter fits a buffer and is not empty. -/
def Fits (text : Option Text) : Prop := ∀ t, text = some t → t ≠ [] ∧ t.length ≤ 99

/-- A text that is copied to a buffer is the same if it fits and is not empty. -/
lemma copied_eq_iff {text : Option Text} (h : ∀ t, text = some t → terminator ∉ t) :
    (under (strlcpy 100 (text.getD []) ≠ []) (some (strlcpy 100 (text.getD [])))).map cString =
      text.map cString ↔ Fits text := by
  cases text with
  | none => simp [under, strlcpy, Fits]
  | some t =>
    have hzero := h t rfl
    have htake : terminator ∉ strlcpy 100 t := fun hmem => hzero (List.mem_of_mem_take hmem)
    simp only [Option.getD_some, Option.map_some, cString_eq_self hzero, Fits, Option.some.injEq,
      forall_eq']
    constructor
    · intro heq
      unfold under at heq
      split_ifs at heq with hne
      · rw [Option.map_some, cString_eq_self htake, Option.some.injEq] at heq
        refine ⟨fun hnil => of_decide_eq_true hne ?_, ?_⟩
        · rw [hnil]
          rfl
        · have hlength := congrArg List.length heq
          rw [strlcpy, List.length_take] at hlength
          omega
      · cases heq
    · rintro ⟨hne, hle⟩
      have hself : strlcpy 100 t = t := List.take_of_length_le hle
      simp only [hself, under]
      rw [if_pos (decide_eq_true hne), Option.map_some, cString_eq_self hzero]

/-- What the software encoder is told of a processing method: its first bytes count as the
prefix. -/
lemma meaning_buffer {method : Text} (hzero : terminator ∉ method) (hlength : method.length ≤ 99) :
    (meaning jhead TAG_GPS_PROCESSING_METHOD (buffer GPS_PROCESSING_SIZE method)).length ≤
      method.length - 8 := by
  have hprefix := jhead.length_prefix
  have hmeaning : meaning jhead TAG_GPS_PROCESSING_METHOD (buffer GPS_PROCESSING_SIZE method) =
      cString ((buffer GPS_PROCESSING_SIZE method).drop 8) := by
    have htake : ((buffer GPS_PROCESSING_SIZE method).take 8).length = 8 := by
      rw [List.length_take, buffer, List.length_rightpad]
      unfold GPS_PROCESSING_SIZE
      omega
    simp only [meaning, denoted, content, isAsciiTag, decide_true, if_true, hprefix]
    exact List.drop_left' htake
  have hpad : buffer GPS_PROCESSING_SIZE method =
      method ++ List.replicate (100 - method.length) terminator := rfl
  have hblank : ∀ n, cString (List.replicate n terminator) = [] := fun n => by
    cases n <;> rfl
  rw [hmeaning, hpad, List.drop_append]
  have hdrop : terminator ∉ method.drop 8 := fun hmem => hzero (List.mem_of_mem_drop hmem)
  rw [cString_append hdrop, List.drop_replicate, hblank, List.append_nil, List.length_drop]

/-- What the direct writer inserts of a processing method. -/
lemma meaning_methodMemory {method : Text} (hzero : terminator ∉ method) :
    min method.length 92 ≤
      (meaning jhead TAG_GPS_PROCESSING_METHOD (methodMemory jhead s method)).length := by
  have hprefix := jhead.length_prefix
  have hmeaning : meaning jhead TAG_GPS_PROCESSING_METHOD (methodMemory jhead s method) =
      cString ((method ++ [terminator]).take 92 ++ s.behind) := by
    simp only [meaning, denoted, content, isAsciiTag, decide_true, if_true, methodMemory,
      GPS_PROCESSING_SIZE, hprefix]
    have htake : ∀ x, (jhead.ExifAsciiPrefix ++ x).take 8 = jhead.ExifAsciiPrefix := fun x =>
      List.take_left' hprefix
    have hdrop : ∀ x, (jhead.ExifAsciiPrefix ++ x).drop 8 = x := fun x => List.drop_left' hprefix
    rw [htake, hdrop, hdrop]
  rw [hmeaning, List.take_append, List.append_assoc]
  have htake : terminator ∉ method.take 92 := fun hmem => hzero (List.mem_of_mem_take hmem)
  rw [cString_append htake, List.length_append, List.length_take]
  omega

/-- The processing method is said the same only if there is none. -/
lemma method_eq_iff {text : Option Text} (h : ∀ t, text = some t → terminator ∉ t) (c : Bool) :
    (under (c && strlcpy GPS_PROCESSING_SIZE (text.getD []) ≠ [])
        (some (buffer GPS_PROCESSING_SIZE (strlcpy GPS_PROCESSING_SIZE (text.getD []))))).map
          (meaning jhead TAG_GPS_PROCESSING_METHOD) =
      (text.map (methodMemory jhead s)).map (meaning jhead TAG_GPS_PROCESSING_METHOD) ↔
      text = none := by
  cases text with
  | none => simp [under, strlcpy]
  | some t =>
    have hzero := h t rfl
    have htake : terminator ∉ strlcpy GPS_PROCESSING_SIZE t := fun hmem =>
      hzero (List.mem_of_mem_take hmem)
    have hlength : (strlcpy GPS_PROCESSING_SIZE t).length = min 99 t.length := List.length_take
    simp only [reduceCtorEq, iff_false, Option.getD_some, Option.map_some]
    intro heq
    unfold under at heq
    split_ifs at heq with hc
    · have hsoftware := meaning_buffer jhead htake (by omega)
      have hdirect := meaning_methodMemory jhead s hzero
      have hsame := congrArg List.length (Option.some.inj heq)
      have hne := of_decide_eq_true (Bool.and_eq_true_iff.mp hc).2
      have hpos : 0 < (strlcpy GPS_PROCESSING_SIZE t).length := List.length_pos_of_ne_nil hne
      omega
    · cases heq

/-- The two tables say the same of each tag but the orientation. -/
def AgreesBut (software direct : ExifElementsTable) : Prop :=
  ∀ tag, KnownToSoftware tag → tag ≠ TAG_ORIENTATION →
    software.denotes jhead tag = direct.denotes jhead tag

/-- The names fit and are not empty, the time is known, the position is given with all its parts or
not at all, and there is no processing method. -/
structure Alike (params : P) (data : EXIFData) : Prop where
  model : Fits (getText api params KEY_EXIF_MODEL)
  make : Fits (getText api params KEY_EXIF_MAKE)
  time : s.localtime.isSome = true
  longitude : data.mGPSData.mLongValid = data.mGPSData.mLatValid
  altitude : data.mGPSData.mAltitudeValid = data.mGPSData.mLatValid
  timestamp : data.mGPSData.mTimeStampValid = data.mGPSData.mLatValid
  method : getText api params KEY_GPS_PROCESSING_METHOD = none

section Tags

variable {params : P} {data : EXIFData} (mEncodeWidth mEncodeHeight : BitVec 32)

/-- The two writers give the same for a tag. -/
def Same (params : P) (data : EXIFData) (mEncodeWidth mEncodeHeight : BitVec 32)
    (tag : ExifTag) : Prop :=
  (softwareGiven (recordOf api s params data mEncodeWidth mEncodeHeight) mEncodeWidth
      mEncodeHeight tag).map (meaning jhead tag) =
    (directGiven jhead api s params data mEncodeWidth mEncodeHeight tag).map (meaning jhead tag)

/-- The latitude is the same unless there is no longitude. -/
lemma same_lat : Same jhead api s params data mEncodeWidth mEncodeHeight TAG_GPS_LAT ↔
    (data.mGPSData.mLatValid = true → data.mGPSData.mLongValid = true) := by
  simp only [Same, softwareGiven, directGiven, recordOf, filledExif]
  cases data.mGPSData.mLatValid <;> cases data.mGPSData.mLongValid <;> simp [under]

/-- So is its letter. -/
lemma same_lat_ref (h : Consistent api params data) :
    Same jhead api s params data mEncodeWidth mEncodeHeight TAG_GPS_LAT_REF ↔
      (data.mGPSData.mLatValid = true → data.mGPSData.mLongValid = true) := by
  simp only [Same, softwareGiven, directGiven, recordOf, filledExif]
  by_cases hlat : data.mGPSData.mLatValid = true
  · rcases h.latRef hlat with href | href <;> cases data.mGPSData.mLongValid <;>
      simp [under, hlat, href, GPS_NORTH_REF, GPS_SOUTH_REF]
  · simp [under, hlat]

/-- The longitude is the same unless there is no latitude. -/
lemma same_long : Same jhead api s params data mEncodeWidth mEncodeHeight TAG_GPS_LONG ↔
    (data.mGPSData.mLongValid = true → data.mGPSData.mLatValid = true) := by
  simp only [Same, softwareGiven, directGiven, recordOf, filledExif]
  cases data.mGPSData.mLatValid <;> cases data.mGPSData.mLongValid <;> simp [under]

/-- So is its letter. -/
lemma same_long_ref (h : Consistent api params data) :
    Same jhead api s params data mEncodeWidth mEncodeHeight TAG_GPS_LONG_REF ↔
      (data.mGPSData.mLongValid = true → data.mGPSData.mLatValid = true) := by
  simp only [Same, softwareGiven, directGiven, recordOf, filledExif]
  by_cases hlong : data.mGPSData.mLongValid = true
  · rcases h.longRef hlong with href | href <;> cases data.mGPSData.mLatValid <;>
      simp [under, hlong, href, GPS_EAST_REF, GPS_WEST_REF]
  · simp [under, hlong]

/-- The altitude is the same if it is given with the position. -/
lemma same_alt : Same jhead api s params data mEncodeWidth mEncodeHeight TAG_GPS_ALT ↔
    ((data.mGPSData.mLatValid && data.mGPSData.mLongValid) = data.mGPSData.mAltitudeValid) := by
  simp only [Same, softwareGiven, directGiven, recordOf, filledExif]
  cases data.mGPSData.mLatValid && data.mGPSData.mLongValid <;>
    cases data.mGPSData.mAltitudeValid <;> simp [under]

/-- So is its sign. -/
lemma same_alt_ref (h : Consistent api params data) :
    Same jhead api s params data mEncodeWidth mEncodeHeight TAG_GPS_ALT_REF ↔
      ((data.mGPSData.mLatValid && data.mGPSData.mLongValid) = data.mGPSData.mAltitudeValid) := by
  have hone : snprintf 4 (printD 1#32) = ['1'] := by decide
  have hzero : snprintf 4 (printD 0#32) = ['0'] := by decide
  simp only [Same, softwareGiven, directGiven, recordOf, filledExif]
  by_cases halt : data.mGPSData.mAltitudeValid = true
  · rcases h.altitudeRef halt with href | href <;>
      cases data.mGPSData.mLatValid && data.mGPSData.mLongValid <;>
      simp [under, halt, href, hone, hzero]
  · cases data.mGPSData.mLatValid && data.mGPSData.mLongValid <;> simp [under, halt]

/-- The time is the same if it is given with the position. -/
lemma same_timestamp : Same jhead api s params data mEncodeWidth mEncodeHeight TAG_GPS_TIMESTAMP ↔
    ((data.mGPSData.mLatValid && data.mGPSData.mLongValid) = data.mGPSData.mTimeStampValid) := by
  simp only [Same, softwareGiven, directGiven, recordOf, filledExif]
  cases data.mGPSData.mLatValid && data.mGPSData.mLongValid <;>
    cases data.mGPSData.mTimeStampValid <;> simp [under]

/-- So is the date. -/
lemma same_datestamp (h : Consistent api params data) :
    Same jhead api s params data mEncodeWidth mEncodeHeight TAG_GPS_DATESTAMP ↔
      ((data.mGPSData.mLatValid && data.mGPSData.mLongValid) = data.mGPSData.mTimeStampValid) := by
  have hfits := h.dateFits
  simp only [Same, softwareGiven, directGiven, recordOf, filledExif]
  rw [← h.date]
  cases hdate : data.mGPSData.mDatestampValid with
  | false => cases data.mGPSData.mLatValid && data.mGPSData.mLongValid <;> simp [under]
  | true =>
    have hself : strlcpy GPS_DATESTAMP_SIZE data.mGPSData.mDatestamp = data.mGPSData.mDatestamp :=
      List.take_of_length_le (hfits hdate)
    cases data.mGPSData.mLatValid && data.mGPSData.mLongValid <;> simp [under, hself]

/-- The model is the same if it fits. -/
lemma same_model : Same jhead api s params data mEncodeWidth mEncodeHeight TAG_MODEL ↔
    Fits (getText api params KEY_EXIF_MODEL) :=
  copied_eq_iff fun _ => notMem_getText api

/-- The make is the same if it fits. -/
lemma same_make : Same jhead api s params data mEncodeWidth mEncodeHeight TAG_MAKE ↔
    Fits (getText api params KEY_EXIF_MAKE) :=
  copied_eq_iff fun _ => notMem_getText api

/-- The numbers of a fraction are kept, zeros being stored as such. -/
lemma kept_eq (r : BitVec 32 × BitVec 32) :
    (if r.1 ≠ 0 ∨ r.2 ≠ 0 then r.1 else 0) = r.1 ∧
      (if r.1 ≠ 0 ∨ r.2 ≠ 0 then r.2 else 0) = r.2 := by
  by_cases hzero : r.1 ≠ 0 ∨ r.2 ≠ 0
  · exact ⟨if_pos hzero, if_pos hzero⟩
  · rw [if_neg hzero, if_neg hzero]
    rw [not_or, not_not, not_not] at hzero
    exact ⟨hzero.1.symm, hzero.2.symm⟩

/-- The focal length is the same. -/
lemma same_focallength :
    Same jhead api s params data mEncodeWidth mEncodeHeight TAG_FOCALLENGTH := by
  obtain ⟨hnumerator, hdenominator⟩ :=
    kept_eq (stringToRational s (getText api params KEY_FOCAL_LENGTH))
  simp only [Same, softwareGiven, directGiven, recordOf, filledExif, hnumerator, hdenominator]

/-- The time of the picture is the same if it is known. -/
lemma same_datetime : Same jhead api s params data mEncodeWidth mEncodeHeight TAG_DATETIME ↔
    s.localtime.isSome = true := by
  simp only [Same, softwareGiven, directGiven, recordOf, filledExif]
  cases s.localtime with
  | none => simp
  | some pTime =>
    have hself : strlcpy EXIF_DATE_TIME_SIZE (timeText pTime) = timeText pTime :=
      List.take_of_length_le (List.length_take_le _ _)
    simp [hself]

/-- The processing method is never the same. -/
lemma same_method :
    Same jhead api s params data mEncodeWidth mEncodeHeight TAG_GPS_PROCESSING_METHOD ↔
      getText api params KEY_GPS_PROCESSING_METHOD = none :=
  method_eq_iff jhead s (fun _ => notMem_getText api) _

/-- With memory for the values, the tables agree on a tag exactly if the same is given for it. -/
lemma denotes_eq_iff {memory memory' : ℕ → Bool} (hmemory : ∀ i, memory i = true)
    (hmemory' : ∀ i, memory' i = true) (h : Consistent api params data) (tag : ExifTag) :
    let exif := recordOf api s params data mEncodeWidth mEncodeHeight
    let blocks := directBlocks jhead api s params data mEncodeWidth mEncodeHeight
    (convertEXIF_libjpeg jhead memory exif .empty mEncodeWidth mEncodeHeight).2.denotes jhead tag =
        (runBlocks jhead memory' blocks .empty).2.denotes jhead tag ↔
      Same jhead api s params data mEncodeWidth mEncodeHeight tag := by
  intro exif blocks
  have hsoftware := (value_convertEXIF_libjpeg jhead memory exif mEncodeWidth mEncodeHeight
    tag).resolve_right fun hnone => hnone.2 hmemory
  have hdirect := (value_direct jhead memory' api s h mEncodeWidth mEncodeHeight
    tag).resolve_right fun hnone => hnone.2 hmemory'
  rw [given_convertBlocks] at hsoftware
  rw [given_directBlocks jhead api s h] at hdirect
  unfold ExifElementsTable.denotes Same
  rw [hsoftware, hdirect, Option.map_map, Option.map_map]
  rfl

end Tags

/-- **When the tables agree on the other tags**: if there is memory for the values, exactly if the
names of the model and of the make fit their buffers and are not empty, the time is known, the
position is given as a whole or not at all, and there is no processing method. The record of the HAL
has one mark for the position, no mark for a name, and no prefix for a text of undefined type.

**Proof sketch.** Each tag is given at most once by each writer, so that the tables are compared tag
by tag. -/
theorem agreesBut_iff {memory' : ℕ → Bool} (hmemory : ∀ i, memory i = true)
    (hmemory' : ∀ i, memory' i = true) (params : P) (old : EXIFData)
    (mEncodeWidth mEncodeHeight : BitVec 32) :
    ∃ exif direct,
      setupEXIF_vce api s params (setParametersEXIF api s params old) mEncodeWidth mEncodeHeight =
        some exif ∧
      setupEXIF_libjpeg jhead memory' api s params (setParametersEXIF api s params old) .empty
        mEncodeWidth mEncodeHeight = some direct ∧
      (AgreesBut jhead (convertEXIF_libjpeg jhead memory exif .empty mEncodeWidth mEncodeHeight).2
        direct.2 ↔ Alike api s params (setParametersEXIF api s params old)) := by
  have h := consistent_setParametersEXIF api s params old
  generalize setParametersEXIF api s params old = data at h ⊢
  refine ⟨_, _, setupEXIF_vce_eq api s h mEncodeWidth mEncodeHeight,
    setupEXIF_libjpeg_eq jhead memory' api s h mEncodeWidth mEncodeHeight, ?_⟩
  have hiff := denotes_eq_iff jhead api s mEncodeWidth mEncodeHeight hmemory hmemory' h
  constructor
  · intro hagrees
    have hsame : ∀ tag, KnownToSoftware tag → tag ≠ TAG_ORIENTATION →
        Same jhead api s params data mEncodeWidth mEncodeHeight tag := fun tag hknown hne =>
      (hiff tag).mp (hagrees tag hknown hne)
    have hlat := (same_lat jhead api s _ _).mp (hsame TAG_GPS_LAT (by decide) (by decide))
    have hlong := (same_long jhead api s _ _).mp (hsame TAG_GPS_LONG (by decide) (by decide))
    have halt := (same_alt jhead api s _ _).mp (hsame TAG_GPS_ALT (by decide) (by decide))
    have htime := (same_timestamp jhead api s _ _).mp
      (hsame TAG_GPS_TIMESTAMP (by decide) (by decide))
    have hposition : data.mGPSData.mLongValid = data.mGPSData.mLatValid :=
      Bool.eq_iff_iff.mpr ⟨hlong, hlat⟩
    rw [hposition, Bool.and_self] at halt htime
    exact
      { model := (same_model jhead api s _ _).mp (hsame TAG_MODEL (by decide) (by decide))
        make := (same_make jhead api s _ _).mp (hsame TAG_MAKE (by decide) (by decide))
        time := (same_datetime jhead api s _ _).mp (hsame TAG_DATETIME (by decide) (by decide))
        longitude := hposition
        altitude := halt.symm
        timestamp := htime.symm
        method := (same_method jhead api s _ _).mp
          (hsame TAG_GPS_PROCESSING_METHOD (by decide) (by decide)) }
  · intro halike tag hknown hne
    have hwhole : ∀ valid, valid = data.mGPSData.mLatValid →
        (data.mGPSData.mLatValid && data.mGPSData.mLongValid) = valid := by
      intro valid hvalid
      rw [halike.longitude, Bool.and_self, hvalid]
    refine (hiff tag).mpr ?_
    cases tag with
    | TAG_MODEL => exact (same_model jhead api s _ _).mpr halike.model
    | TAG_MAKE => exact (same_make jhead api s _ _).mpr halike.make
    | TAG_FOCALLENGTH => exact same_focallength jhead api s _ _
    | TAG_DATETIME => exact (same_datetime jhead api s _ _).mpr halike.time
    | TAG_IMAGE_WIDTH => rfl
    | TAG_IMAGE_LENGTH => rfl
    | TAG_GPS_LAT => exact (same_lat jhead api s _ _).mpr fun hlat => halike.longitude.trans hlat
    | TAG_GPS_LAT_REF =>
      exact (same_lat_ref jhead api s _ _ h).mpr fun hlat => halike.longitude.trans hlat
    | TAG_GPS_LONG =>
      exact (same_long jhead api s _ _).mpr fun hlong => halike.longitude.symm.trans hlong
    | TAG_GPS_LONG_REF =>
      exact (same_long_ref jhead api s _ _ h).mpr fun hlong => halike.longitude.symm.trans hlong
    | TAG_GPS_ALT => exact (same_alt jhead api s _ _).mpr (hwhole _ halike.altitude)
    | TAG_GPS_ALT_REF => exact (same_alt_ref jhead api s _ _ h).mpr (hwhole _ halike.altitude)
    | TAG_GPS_MAP_DATUM => exact absurd hknown (by decide)
    | TAG_GPS_PROCESSING_METHOD => exact (same_method jhead api s _ _).mpr halike.method
    | TAG_GPS_VERSION_ID => exact absurd hknown (by decide)
    | TAG_GPS_TIMESTAMP => exact (same_timestamp jhead api s _ _).mpr (hwhole _ halike.timestamp)
    | TAG_GPS_DATESTAMP => exact (same_datestamp jhead api s _ _ h).mpr (hwhole _ halike.timestamp)
    | TAG_ORIENTATION => exact absurd rfl hne

end Exif

end CameraHal
