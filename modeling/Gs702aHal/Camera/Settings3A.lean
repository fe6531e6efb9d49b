import Mathlib.Algebra.Group.Int.Defs
import Gs702aHal.Camera.SetParameters
import Gs702aHal.Lib.StepRun

set_option relaxedAutoImplicit false
set_option autoImplicit false

/-!
# 3A settings

`setParameters3A` looks the texts of the parameters up in tables, stores the values in
`mParameters3A` and raises a flag for each setting that changed. `apply3Asettings` sends the
settings whose flag is raised to the OMX component. The look-up of an unknown text gives `-ENOENT`.

The constants of the OMX headers are not part of this repository: their values are a parameter of
the model.

## Main definitions

* `CameraHal.Settings3A.setParameters3A`, `CameraHal.Settings3A.apply3Asettings` — the functions of
  the source.
* `CameraHal.Settings3A.Wanted`, `CameraHal.Settings3A.ask` — what the requests so far ask for; it
  is unknown after a text that is stored without being known.
* `CameraHal.Settings3A.Meets` — what is sent is what the requests ask for.
* `CameraHal.Settings3A.Claimed` — what is sent is the table value of the last known request.

## Main results

* `CameraHal.Settings3A.serves_step` — each step keeps the stored settings what is asked for.
* `CameraHal.Settings3A.sends_meets` — so is what is sent, in every run.
* `CameraHal.Settings3A.not_claimed` — it is not always the value of the last known request.
-/

namespace CameraHal

open Status ParamKey

namespace Settings3A

/-! ### Tables -/

/-- The constants of the OMX headers that the code uses. -/
inductive OmxConstant
  | OMX_ExposureControlAuto
  | OMX_ExposureControlActHouse
  | OMX_ExposureControlBeach
  | OMX_ExposureControlSnow
  | OMX_ExposureControlSports
  | OMX_ExposureControlActSunset
  | OMX_ExposureControlActAction
  | OMX_ExposureControlActPortrait
  | OMX_ExposureControlActNight_Portrait
  | OMX_ExposureControlActTheatre
  | OMX_ExposureControlActStreadyPhoto
  | OMX_ExposureControlActFireworks
  | OMX_ExposureControlActParty
  | OMX_ExposureControlActCandlelight
  | OMX_ExposureControlActBarcode
  | OMX_WhiteBalControlAuto
  | OMX_WhiteBalControlSunLight
  | OMX_WhiteBalControlCloudy
  | OMX_WhiteBalControlFluorescent
  | OMX_WhiteBalControlIncandescent
  | OMX_WhiteBalControlHorizon
  | OMX_WhiteBalControlShade
  | OMX_FlickerRejectionOff
  | OMX_FlickerRejectionAuto
  | OMX_FlickerRejection50
  | OMX_FlickerRejection60
  | OMX_ImageFilterNone
  | OMX_ImageFilterNegative
  | OMX_ImageFilterSolarize
  | OMX_ImageFilterACTSEPIA
  | OMX_ImageFilterACTBW
  | OMX_IMAGE_FlashControlOff
  | OMX_IMAGE_FlashControlOn
  | OMX_IMAGE_FlashControlAuto
  | OMX_IMAGE_FlashControlTorch
  | OMX_IMAGE_FlashControlRedEyeReduction
  | OMX_IMAGE_FocusControlOff
  | OMX_IMAGE_FocusControlAuto
  deriving DecidableEq, Repr

open OmxConstant

/-- The values of the constants; an enumeration of OMX has no negative values. -/
structure OmxHeaders where
  value : OmxConstant → ℤ
  nonneg : ∀ c, 0 ≤ value c

variable (omx : OmxHeaders)

/-- `LUTtype`: the texts of the parameters with their values. -/
abbrev LUTtype := List (Text × ℤ)

/-- `ExpLUT`. -/
def ExpLUT : LUTtype :=
  [ ("auto".toList, omx.value OMX_ExposureControlAuto),
    ("night".toList, omx.value OMX_ExposureControlActHouse),
    ("beach".toList, omx.value OMX_ExposureControlBeach),
    ("snow".toList, omx.value OMX_ExposureControlSnow),
    ("sports".toList, omx.value OMX_ExposureControlSports),
    ("landscape".toList, omx.value OMX_ExposureControlActSunset),
    ("action".toList, omx.value OMX_ExposureControlActAction),
    ("portrait".toList, omx.value OMX_ExposureControlActPortrait),
    ("night-portrait".toList, omx.value OMX_ExposureControlActNight_Portrait),
    ("theatre".toList, omx.value OMX_ExposureControlActTheatre),
    ("steadyphoto".toList, omx.value OMX_ExposureControlActStreadyPhoto),
    ("fireworks".toList, omx.value OMX_ExposureControlActFireworks),
    ("party".toList, omx.value OMX_ExposureControlActParty),
    ("candlelight".toList, omx.value OMX_ExposureControlActCandlelight),
    ("barcode".toList, omx.value OMX_ExposureControlActBarcode) ]

/-- `WBalLUT`. -/
def WBalLUT : LUTtype :=
  [ ("auto".toList, omx.value OMX_WhiteBalControlAuto),
    ("daylight".toList, omx.value OMX_WhiteBalControlSunLight),
    ("cloudy-daylight".toList, omx.value OMX_WhiteBalControlCloudy),
    ("fluorescent".toList, omx.value OMX_WhiteBalControlFluorescent),
    ("incandescent".toList, omx.value OMX_WhiteBalControlIncandescent),
    ("twilight".toList, omx.value OMX_WhiteBalControlHorizon),
    ("shade".toList, omx.value OMX_WhiteBalControlShade) ]

/-- `FlickerLUT`. -/
def FlickerLUT : LUTtype :=
  [ ("off".toList, omx.value OMX_FlickerRejectionOff),
    ("auto".toList, omx.value OMX_FlickerRejectionAuto),
    ("50hz".toList, omx.value OMX_FlickerRejection50),
    ("60hz".toList, omx.value OMX_FlickerRejection60) ]

/-- `FlashLUT`. -/
def FlashLUT : LUTtype :=
  [ ("off".toList, omx.value OMX_IMAGE_FlashControlOff),
    ("on".toList, omx.value OMX_IMAGE_FlashControlOn),
    ("auto".toList, omx.value OMX_IMAGE_FlashControlAuto),
    ("torch".toList, omx.value OMX_IMAGE_FlashControlTorch),
    ("red-eye".toList, omx.value OMX_IMAGE_FlashControlRedEyeReduction) ]

/-- `EffLUT`. -/
def EffLUT : LUTtype :=
  [ ("none".toList, omx.value OMX_ImageFilterNone),
    ("negative".toList, omx.value OMX_ImageFilterNegative),
    ("solarize".toList, omx.value OMX_ImageFilterSolarize),
    ("sepia".toList, omx.value OMX_ImageFilterACTSEPIA),
    ("mono".toList, omx.value OMX_ImageFilterACTBW) ]

/-- `FocusLUT`. -/
def FocusLUT : LUTtype :=
  [ ("infinity".toList, omx.value OMX_IMAGE_FocusControlOff),
    ("auto".toList, omx.value OMX_IMAGE_FocusControlAuto) ]

/-- `IsoLUT`. -/
def IsoLUT : LUTtype :=
  [ ("auto".toList, 0), ("100".toList, 100), ("200".toList, 200), ("400".toList, 400),
    ("800".toList, 800), ("1000".toList, 1000), ("1200".toList, 1200), ("1600".toList, 1600) ]

/-- `ENOENT`. -/
def ENOENT : ℤ := 2

/-- The value of a text in a table, if the table has the text. -/
def known (LUT : LUTtype) (text : Text) : Option ℤ := LUT.lookup text

/-- `getLUTvalue_HALtoOMX`. -/
def getLUTvalue_HALtoOMX (HalValue : Option Text) (LUT : LUTtype) : ℤ :=
  (HalValue.bind (known LUT)).getD (-ENOENT)

/-! ### The settings -/

/-- `Gen3A_settings`. -/
structure Gen3A_settings where
  WhiteBallance : ℤ
  Flicker : ℤ
  SceneMode : ℤ
  Effect : ℤ
  Focus : ℤ
  EVCompensation : ℤ
  Contrast : ℤ
  Saturation : ℤ
  Sharpness : ℤ
  ISO : ℤ
  FlashMode : ℤ
  Denoise : ℤ
  Brightness : ℤ
  ExposureLock : Bool
  FocusLock : Bool
  WhiteBalanceLock : Bool
  deriving DecidableEq, Repr

/-- `E3ASettingsFlags`. -/
inductive E3ASettingsFlags
  | SetSceneMode
  | SetEVCompensation
  | SetWhiteBallance
  | SetFlicker
  | SetExposure
  | SetSharpness
  | SetBrightness
  | SetContrast
  | SetISO
  | SetSaturation
  | SetEffect
  | SetFocus
  | SetExpMode
  | SetFlash
  | SetExpLock
  | SetWBLock
  | SetMeteringAreas
  | SetDenoise
  deriving DecidableEq, Repr

open E3ASettingsFlags

/-- The flags in the order of their bits. -/
def allFlags : List E3ASettingsFlags :=
  [SetSceneMode, SetEVCompensation, SetWhiteBallance, SetFlicker, SetExposure, SetSharpness,
    SetBrightness, SetContrast, SetISO, SetSaturation, SetEffect, SetFocus, SetExpMode, SetFlash,
    SetExpLock, SetWBLock, SetMeteringAreas, SetDenoise]

/-- The state of the adapter that the functions use. -/
structure State where
  mParameters3A : Gen3A_settings
  mPending3Asettings : E3ASettingsFlags → Bool
  mFirstTimeInit : Bool
  mUserSetExpLock : Bool
  mUserSetWbLock : Bool

/-- Raises a flag. -/
def State.raise (s : State) (flag : E3ASettingsFlags) : State :=
  { s with mPending3Asettings := fun f => decide (f = flag) || s.mPending3Asettings f }

/-- Takes a flag down. -/
def State.clear (s : State) (flag : E3ASettingsFlags) : State :=
  { s with mPending3Asettings := fun f => !decide (f = flag) && s.mPending3Asettings f }

/-- `OMX_CONFIG_EXPOSUREVALUETYPE`, as far as it is used. -/
structure ExposureValue where
  bAutoSensitivity : Bool
  nSensitivity : ℤ
  xEVCompensation : ℤ
  deriving DecidableEq, Repr

/-- What is sent to the OMX component. The exposure value is sent for the compensation and for the
sensitivity. -/
inductive Sent
  | exposureControl (value : ℤ)
  | compensation (value : ExposureValue)
  | whiteBalance (value : ℤ)
  | flicker (value : ℤ)
  | sharpness (value : ℤ)
  | brightness (value : ℤ)
  | contrast (value : ℤ)
  | sensitivity (value : ExposureValue)
  | saturation (value : ℤ)
  | imageFilter (value : ℤ)
  | focusControl (value : ℤ)
  | flashControl (value : ℤ)
  | flashStrobe (bStrobeOn : Bool)
  | exposureLock (locked : Bool)
  | whiteBalanceLock (locked : Bool)
  | focusLock (locked : Bool)
  | denoise (value : ℤ)
  deriving DecidableEq, Repr

/-! ### `setParameters3A` -/

/-- The entries of the capabilities that say whether a setting is supported. -/
inductive Capability
  | CONTRAST_SUPPORTED
  | SHARPNESS_SUPPORTED
  | SATURATION_SUPPORTED
  | BRIGHTNESS_SUPPORTED
  | DENOISE_SUPPORTED
  | ANTIBANDING_SUPPORTED
  | ISO_SUPPORTED
  | FOCUS_SUPPORTED
  | FLASH_SUPPORTED
  | AUTO_EXPOSURE_LOCK_SUPPORTED
  | AUTO_WHITEBALANCE_LOCK
  | AUTO_FOCUS_LOCK_SUPPORTED
  deriving DecidableEq

open Capability SetParameters

/-- `KEY_SHARPNESS`. -/
def KEY_SHARPNESS : ParamKey := .other "sharpness".toList
/-- `KEY_AUTO_EXPOSURE_LOCK_SUPPORTED`. -/
def KEY_AUTO_EXPOSURE_LOCK_SUPPORTED : ParamKey := .other "auto-exposure-lock-supported".toList
/-- `KEY_AUTO_WHITEBALANCE_LOCK_SUPPORTED`. -/
def KEY_AUTO_WHITEBALANCE_LOCK_SUPPORTED : ParamKey :=
  .other "auto-whitebalance-lock-supported".toList
/-- `KEY_AUTO_FOCUS_LOCK`. -/
def KEY_AUTO_FOCUS_LOCK : ParamKey := .other "auto-focus-lock".toList

/-- `CONTRAST_OFFSET`. -/
def CONTRAST_OFFSET : ℤ := 0
/-- `SHARPNESS_OFFSET`. -/
def SHARPNESS_OFFSET : ℤ := 0
/-- `SATURATION_OFFSET`. -/
def SATURATION_OFFSET : ℤ := 0
/-- `Q16_OFFSET`. -/
def Q16_OFFSET : ℕ := 16

variable {P : Type} (api : CameraParameters P) (mCapabilities : Capability → Text)

/-- The block of the scene mode. Some scenes choose the flash mode, all but `auto` the white
balance. -/
def setSceneMode (str : Option Text) (s : State) : State :=
  let mode := getLUTvalue_HALtoOMX str (ExpLUT omx)
  if (s.mFirstTimeInit = true ∨ str ≠ none ∧ s.mParameters3A.SceneMode ≠ mode) ∧ 0 ≤ mode then
    let s := { s with mParameters3A.SceneMode := mode }.raise SetSceneMode
    if mode ≠ omx.value OMX_ExposureControlAuto then
      let s := { s with
        mParameters3A.WhiteBallance := omx.value OMX_WhiteBalControlAuto }.raise SetWhiteBallance
      if mode = omx.value OMX_ExposureControlActHouse then
        { s with mParameters3A.FlashMode := omx.value OMX_IMAGE_FlashControlOn }.raise SetFlash
      else if mode = omx.value OMX_ExposureControlActSunset then
        { s with mParameters3A.FlashMode := omx.value OMX_IMAGE_FlashControlOff }.raise SetFlash
      else s
    else s
  else s

/-- A setting that is stored before it is looked at whether its text is known. -/
structure ModeField where
  get : Gen3A_settings → ℤ
  put : ℤ → Gen3A_settings → Gen3A_settings
  flag : E3ASettingsFlags
  get_put : ∀ v g, get (put v g) = v

/-- The common form of the blocks of such settings. -/
def setMode (field : ModeField) (LUT : LUTtype) (str : Option Text) (s : State) : State :=
  let mode := getLUTvalue_HALtoOMX str LUT
  if s.mFirstTimeInit = true ∨ str ≠ none ∧ field.get s.mParameters3A ≠ mode then
    let s := { s with mParameters3A := field.put mode s.mParameters3A }
    if 0 ≤ mode then s.raise field.flag else s
  else s

/-- The white balance. -/
def whiteBallance : ModeField :=
  ⟨Gen3A_settings.WhiteBallance, fun v g => { g with WhiteBallance := v }, SetWhiteBallance,
    fun _ _ => rfl⟩

/-- The antibanding. -/
def flicker : ModeField :=
  ⟨Gen3A_settings.Flicker, fun v g => { g with Flicker := v }, SetFlicker, fun _ _ => rfl⟩

/-- The sensitivity. -/
def iso : ModeField :=
  ⟨Gen3A_settings.ISO, fun v g => { g with ISO := v }, SetISO, fun _ _ => rfl⟩

/-- The effect. -/
def effect : ModeField :=
  ⟨Gen3A_settings.Effect, fun v g => { g with Effect := v }, SetEffect, fun _ _ => rfl⟩

/-- The block of the white balance. -/
def setWhiteBallance (str : Option Text) (s : State) : State :=
  if s.mParameters3A.SceneMode = omx.value OMX_ExposureControlAuto then
    setMode whiteBallance (WBalLUT omx) str s
  else s

/-- The common form of the blocks of the numbers, which are kept with an offset. -/
def setNumber (get : Gen3A_settings → ℤ) (put : ℤ → Gen3A_settings → Gen3A_settings)
    (flag : E3ASettingsFlags) (offset : ℤ) (supported : Capability) (value : ℤ) (s : State) :
    State :=
  if mCapabilities supported = TRUE ∧ 0 ≤ value ∧
      (s.mFirstTimeInit = true ∨ get s.mParameters3A + offset ≠ value) then
    { s with mParameters3A := put (value - offset) s.mParameters3A }.raise flag
  else s

/-- The block of the antibanding. -/
def setFlicker (str : Option Text) (s : State) : State :=
  if mCapabilities ANTIBANDING_SUPPORTED = TRUE then setMode flicker (FlickerLUT omx) str s else s

/-- The block of the sensitivity. -/
def setISO (str : Option Text) (s : State) : State :=
  if mCapabilities ISO_SUPPORTED = TRUE then setMode iso IsoLUT str s else s

/-- The block of the focus mode. -/
def setFocus (str : Option Text) (s : State) : State :=
  let mode := getLUTvalue_HALtoOMX str (FocusLUT omx)
  if (s.mParameters3A.SceneMode = omx.value OMX_ExposureControlAuto ∧
      mCapabilities FOCUS_SUPPORTED = TRUE) ∧
      (s.mFirstTimeInit = true ∨ str ≠ none ∧ s.mParameters3A.Focus ≠ mode) then
    { s.raise SetFocus with mParameters3A.Focus := mode }
  else s

/-- The block of the exposure compensation. -/
def setEVCompensation (str : Option Text) (value : ℤ) (s : State) : State :=
  if s.mFirstTimeInit = true ∨ str ≠ none ∧ s.mParameters3A.EVCompensation ≠ value then
    { s with mParameters3A.EVCompensation := value }.raise SetEVCompensation
  else s

/-- The block of the flash mode. -/
def setFlash (str : Option Text) (s : State) : State :=
  let mode := getLUTvalue_HALtoOMX str (FlashLUT omx)
  if (s.mParameters3A.SceneMode = omx.value OMX_ExposureControlAuto ∧
      mCapabilities FLASH_SUPPORTED = TRUE) ∧
      (s.mFirstTimeInit = true ∨ str ≠ none ∧ s.mParameters3A.FlashMode ≠ mode) ∧ 0 ≤ mode then
    { s with mParameters3A.FlashMode := mode }.raise SetFlash
  else s

/-- The common form of the blocks of the locks: a lock that is supported and whose own text is
missing is compared with a null pointer. -/
def setLock (get : Gen3A_settings → Bool) (put : Bool → Gen3A_settings → Gen3A_settings)
    (putUser : Bool → State → State) (flag : E3ASettingsFlags) (supported str : Option Text)
    (s : State) : Option State :=
  if supported = some TRUE then
    str.map fun str =>
      let lock := decide (str = TRUE)
      let s := putUser lock s
      if get s.mParameters3A ≠ lock then
        { s with mParameters3A := put lock s.mParameters3A }.raise flag
      else s
  else some s

/-- `setFocusLock`. -/
def sendFocusLock (invalid : Bool) (g : Gen3A_settings) : List Sent :=
  if invalid then [] else [.focusLock g.FocusLock]

/-- The block of the focus lock, which is sent at once. -/
def setFocusLock (invalid : Bool) (str : Option Text) (s : State) : State × List Sent :=
  if mCapabilities AUTO_FOCUS_LOCK_SUPPORTED = TRUE then
    if str = some TRUE ∧ s.mParameters3A.FocusLock ≠ true then
      let s := { s with mParameters3A.FocusLock := true }
      (s, sendFocusLock invalid s.mParameters3A)
    else if str = some FALSE ∧ s.mParameters3A.FocusLock ≠ false then
      let s := { s with mParameters3A.FocusLock := false }
      (s, sendFocusLock invalid s.mParameters3A)
    else (s, [])
  else (s, [])

/-- The blocks of `setParameters3A` before the locks. -/
def setSettings (params : P) (s : State) : State :=
  let number key := (api.getInt params key).toInt
  let s := setSceneMode omx (api.get params KEY_SCENE_MODE) s
  let s := setWhiteBallance omx (api.get params KEY_WHITE_BALANCE) s
  let s := setNumber mCapabilities Gen3A_settings.Contrast (fun v g => { g with Contrast := v })
    SetContrast CONTRAST_OFFSET CONTRAST_SUPPORTED (number KEY_CONTRAST) s
  let s := setNumber mCapabilities Gen3A_settings.Sharpness (fun v g => { g with Sharpness := v })
    SetSharpness SHARPNESS_OFFSET SHARPNESS_SUPPORTED (number KEY_SHARPNESS) s
  let s := setNumber mCapabilities Gen3A_settings.Saturation (fun v g => { g with Saturation := v })
    SetSaturation SATURATION_OFFSET SATURATION_SUPPORTED (number KEY_SATURATION) s
  let s := setNumber mCapabilities Gen3A_settings.Brightness (fun v g => { g with Brightness := v })
    SetBrightness 0 BRIGHTNESS_SUPPORTED (number KEY_BRIGHTNESS) s
  let s := setNumber mCapabilities Gen3A_settings.Denoise (fun v g => { g with Denoise := v })
    SetDenoise 0 DENOISE_SUPPORTED (number KEY_DENOISE) s
  let s := setFlicker omx mCapabilities (api.get params KEY_ANTIBANDING) s
  let s := setISO mCapabilities (api.get params KEY_ISO) s
  let s := setFocus omx mCapabilities (api.get params KEY_FOCUS_MODE) s
  let s := setEVCompensation (api.get params KEY_EXPOSURE_COMPENSATION)
    (number KEY_EXPOSURE_COMPENSATION) s
  let s := setFlash omx mCapabilities (api.get params KEY_FLASH_MODE) s
  setMode effect (EffLUT omx) (api.get params KEY_EFFECT) s

/-- `setParameters3A`, which returns `NO_ERROR`; `none` for reading a null pointer. The component
may be in its invalid state. -/
def setParameters3A (params : P) (invalid : Bool) (s : State) : Option (State × List Sent) := do
  let s := setSettings omx api mCapabilities params s
  let s ← setLock Gen3A_settings.ExposureLock (fun v g => { g with ExposureLock := v })
    (fun v s => { s with mUserSetExpLock := v }) SetExpLock
    (api.get params KEY_AUTO_EXPOSURE_LOCK_SUPPORTED) (api.get params KEY_AUTO_EXPOSURE_LOCK) s
  let s ← setLock Gen3A_settings.WhiteBalanceLock (fun v g => { g with WhiteBalanceLock := v })
    (fun v s => { s with mUserSetWbLock := v }) SetWBLock
    (api.get params KEY_AUTO_WHITEBALANCE_LOCK_SUPPORTED)
    (api.get params KEY_AUTO_WHITEBALANCE_LOCK) s
  some (setFocusLock mCapabilities invalid (api.get params KEY_AUTO_FOCUS_LOCK) s)

/-! ### `apply3Asettings` -/

/-- What a call of `apply3Asettings` meets: a recording, what `canSetCapture3A` returns and says,
the invalid state of the component, an active autofocus, the hint of a recording, the exposure
values that are read for the compensation and for the sensitivity, and what each setter returns. -/
structure Meeting where
  mRecording : Bool
  canSetCapture3A : Status × Bool
  invalid : Bool
  afActive : Bool
  mIternalRecordingHint : Bool
  readCompensation : ExposureValue
  readSensitivity : ExposureValue
  result : E3ASettingsFlags → Status

/-- What `setEVCompensation` sends. -/
def compensationOf (g : Gen3A_settings) (old : ExposureValue) : ExposureValue :=
  { old with
    xEVCompensation := ((g.EVCompensation * 2 ^ Q16_OFFSET).bmod 4294967296).tdiv 10 }

/-- What `setISO` sends. -/
def sensitivityOf (g : Gen3A_settings) (old : ExposureValue) : ExposureValue :=
  if g.ISO = 0 then { old with bAutoSensitivity := true }
  else { old with bAutoSensitivity := false, nSensitivity := g.ISO }

/-- What the setter of a flag sends to a component that is not in its invalid state. The flash
control is switched off; the flash mode only decides about the strobe. -/
def setterSends (g : Gen3A_settings) (m : Meeting) : E3ASettingsFlags → List Sent
  | SetSceneMode => [.exposureControl g.SceneMode]
  | SetEVCompensation => [.compensation (compensationOf g m.readCompensation)]
  | SetWhiteBallance => [.whiteBalance g.WhiteBallance]
  | SetFlicker => [.flicker g.Flicker]
  | SetExposure => []
  | SetSharpness => [.sharpness g.Sharpness]
  | SetBrightness => [.brightness g.Brightness]
  | SetContrast => [.contrast g.Contrast]
  | SetISO => [.sensitivity (sensitivityOf g m.readSensitivity)]
  | SetSaturation => [.saturation g.Saturation]
  | SetEffect => [.imageFilter g.Effect]
  | SetFocus =>
    if m.afActive then []
    else if g.Focus = omx.value OMX_IMAGE_FocusControlAuto ∨
        g.Focus = omx.value OMX_IMAGE_FocusControlOff then
      if m.mIternalRecordingHint = false ∧ g.Focus = omx.value OMX_IMAGE_FocusControlAuto then
        [.focusControl (omx.value OMX_IMAGE_FocusControlAuto)]
      else [.focusControl (omx.value OMX_IMAGE_FocusControlOff)]
    else []
  | SetExpMode => []
  | SetFlash =>
    [ .flashControl (omx.value OMX_IMAGE_FlashControlOff),
      .flashStrobe (decide (g.FlashMode = omx.value OMX_IMAGE_FlashControlTorch)) ]
  | SetExpLock => [.exposureLock g.ExposureLock]
  | SetWBLock => [.whiteBalanceLock g.WhiteBalanceLock]
  | SetMeteringAreas => []
  | SetDenoise => [.denoise g.Denoise]

/-- The flags without a setter, or whose setter does nothing. -/
def noSetter : List E3ASettingsFlags := [SetExposure, SetExpMode, SetMeteringAreas]

/-- A setter: what it returns and sends. -/
def applySetting (g : Gen3A_settings) (m : Meeting) (flag : E3ASettingsFlags) :
    Status × List Sent :=
  if flag ∈ noSetter then (NO_ERROR, [])
  else if m.invalid then (NO_INIT, [])
  else (m.result flag, setterSends omx g m flag)

/-- The loop of `apply3Asettings`. -/
def applyLoop (m : Meeting) (flags : List E3ASettingsFlags) (w : Status × State × List Sent) :
    Status × State × List Sent :=
  flags.foldl
    (fun (ret, s, sent) flag =>
      if s.mPending3Asettings flag then
        let (result, more) := applySetting omx s.mParameters3A m flag
        (ret ||| result, s.clear flag, sent ++ more)
      else (ret, s, sent)) w

/-- `apply3Asettings`. -/
def apply3Asettings (m : Meeting) (s : State) : Status × State × List Sent :=
  if m.mRecording then (NO_ERROR, s, [])
  else if m.canSetCapture3A.1 ≠ NO_ERROR ∨ m.canSetCapture3A.2 = true then
    (m.canSetCapture3A.1, s, [])
  else applyLoop omx m allFlags (NO_ERROR, s, [])

/-! ### Runs -/

/-- The settings that `apply3ADefaults` stores. -/
def defaults (old : Gen3A_settings) : Gen3A_settings :=
  let mode text LUT := getLUTvalue_HALtoOMX (some text) LUT
  { Effect := mode "none".toList (EffLUT omx)
    FlashMode :=
      if mCapabilities FLASH_SUPPORTED = TRUE then mode "off".toList (FlashLUT omx)
      else old.FlashMode
    SceneMode := mode "auto".toList (ExpLUT omx)
    EVCompensation := 0
    Focus := mode "infinity".toList (FocusLUT omx)
    ISO := mode "auto".toList IsoLUT
    Flicker := mode "off".toList (FlickerLUT omx)
    Brightness := 0
    Saturation := 0 - SATURATION_OFFSET
    Sharpness := 0 - SHARPNESS_OFFSET
    Contrast := 0 - CONTRAST_OFFSET
    WhiteBallance := mode "auto".toList (WBalLUT omx)
    ExposureLock := false
    WhiteBalanceLock := false
    FocusLock := old.FocusLock
    Denoise := 0 }

/-- The adapter after `initialize`. -/
def initialized (old : Gen3A_settings) (mUserSetExpLock mUserSetWbLock : Bool) : State where
  mParameters3A := defaults omx mCapabilities old
  mPending3Asettings _ := false
  mFirstTimeInit := true
  mUserSetExpLock := mUserSetExpLock
  mUserSetWbLock := mUserSetWbLock

/-- What happens to the settings: the two functions are called; `setParameters`, `stopPreview` and
`initialize` write `mFirstTimeInit`; the focus mode is sent again after a change of the recording
hint and while a picture is taken. -/
inductive Event (P : Type)
  | setParameters3A (params : P) (invalid : Bool)
  | apply3Asettings (m : Meeting)
  | firstTimeInit (value : Bool)
  | raiseFocus

/-- What an event sends. -/
def sends (s : State) : Event P → List Sent
  | .setParameters3A params invalid =>
    (setParameters3A omx api mCapabilities params invalid s).elim [] Prod.snd
  | .apply3Asettings m => (apply3Asettings omx m s).2.2
  | .firstTimeInit _ => []
  | .raiseFocus => []

/-- One event, if the program has not crashed. -/
def step (s : Option State) (e : Event P) : Option State :=
  s.bind fun s => match e with
    | .setParameters3A params invalid =>
      (setParameters3A omx api mCapabilities params invalid s).map Prod.fst
    | .apply3Asettings m => some (apply3Asettings omx m s).2.1
    | .firstTimeInit value => some { s with mFirstTimeInit := value }
    | .raiseFocus => some (s.raise SetFocus)

/-- What an event sends after a run from `initialize`. -/
def sendsAfter (old : Gen3A_settings) (mUserSetExpLock mUserSetWbLock : Bool)
    (run : List (Event P)) (e : Event P) : List Sent :=
  (StepRun.final (step omx api mCapabilities)
    (some (initialized omx mCapabilities old mUserSetExpLock mUserSetWbLock)) run).elim []
      fun s => sends omx api mCapabilities s e

/-! ### What is asked for -/

/-- The values of a table. -/
def values (LUT : LUTtype) : List ℤ := LUT.map Prod.snd

/-- What the requests so far ask for. A setting is `none` if its last text was stored without being
known; so is the flash mode as long as it was not chosen. -/
structure Wanted where
  scene : ℤ
  whiteBalance : Option ℤ
  flicker : Option ℤ
  sensitivity : Option ℤ
  effect : Option ℤ
  flash : Option ℤ
  first : Bool

/-- What a text asks for. A missing text asks for nothing, but the first time it is stored. -/
def asked (first : Bool) (LUT : LUTtype) (str : Option Text) (old : Option ℤ) : Option ℤ :=
  match str with
  | some text => known LUT text
  | none => if first then none else old

/-- A known scene asks for itself, and one other than `auto` for the automatic white balance; some
scenes ask for a flash mode. -/
def askScene (str : Option Text) (w : Wanted) : Wanted :=
  match str.bind (known (ExpLUT omx)) with
  | none => w
  | some mode =>
    if mode = omx.value OMX_ExposureControlAuto then { w with scene := mode }
    else
      { w with
        scene := mode
        whiteBalance := some (omx.value OMX_WhiteBalControlAuto)
        flash :=
          if mode = omx.value OMX_ExposureControlActHouse then
            some (omx.value OMX_IMAGE_FlashControlOn)
          else if mode = omx.value OMX_ExposureControlActSunset then
            some (omx.value OMX_IMAGE_FlashControlOff)
          else w.flash }

/-- A white balance is asked for while the scene is `auto`. -/
def askWhiteBalance (str : Option Text) (w : Wanted) : Wanted :=
  if w.scene = omx.value OMX_ExposureControlAuto then
    { w with whiteBalance := asked w.first (WBalLUT omx) str w.whiteBalance }
  else w

/-- The antibanding is asked for if it is supported. -/
def askFlicker (str : Option Text) (w : Wanted) : Wanted :=
  if mCapabilities ANTIBANDING_SUPPORTED = TRUE then
    { w with flicker := asked w.first (FlickerLUT omx) str w.flicker }
  else w

/-- The sensitivity is asked for if it is supported. -/
def askSensitivity (str : Option Text) (w : Wanted) : Wanted :=
  if mCapabilities ISO_SUPPORTED = TRUE then
    { w with sensitivity := asked w.first IsoLUT str w.sensitivity }
  else w

/-- A known flash mode is asked for while the scene is `auto`, if it is supported. -/
def askFlash (str : Option Text) (w : Wanted) : Wanted :=
  if w.scene = omx.value OMX_ExposureControlAuto ∧ mCapabilities FLASH_SUPPORTED = TRUE then
    { w with flash := (str.bind (known (FlashLUT omx))).or w.flash }
  else w

/-- An effect is asked for. -/
def askEffect (str : Option Text) (w : Wanted) : Wanted :=
  { w with effect := asked w.first (EffLUT omx) str w.effect }

/-- What a set of parameters asks for. -/
def ask (params : P) (w : Wanted) : Wanted :=
  let w := askScene omx (api.get params KEY_SCENE_MODE) w
  let w := askWhiteBalance omx (api.get params KEY_WHITE_BALANCE) w
  let w := askFlicker omx mCapabilities (api.get params KEY_ANTIBANDING) w
  let w := askSensitivity mCapabilities (api.get params KEY_ISO) w
  let w := askFlash omx mCapabilities (api.get params KEY_FLASH_MODE) w
  askEffect omx (api.get params KEY_EFFECT) w

/-- What is asked for after an event. -/
def want (w : Wanted) : Event P → Wanted
  | .setParameters3A params _ => ask omx api mCapabilities params w
  | .apply3Asettings _ => w
  | .firstTimeInit value => { w with first := value }
  | .raiseFocus => w

/-- What the defaults ask for. -/
def wantedDefaults : Wanted where
  scene := omx.value OMX_ExposureControlAuto
  whiteBalance := some (omx.value OMX_WhiteBalControlAuto)
  flicker := some (omx.value OMX_FlickerRejectionOff)
  sensitivity := some 0
  effect := some (omx.value OMX_ImageFilterNone)
  flash :=
    if mCapabilities FLASH_SUPPORTED = TRUE then some (omx.value OMX_IMAGE_FlashControlOff)
    else none
  first := true

/-- What is sent is what is asked for, as far as it is known; it is a value of the table. The scene
and the flash mode are always known. The flash control is off, and the strobe is on exactly if the
torch is asked for. -/
def Meets (w : Wanted) : Sent → Prop
  | .exposureControl value => value = w.scene ∧ value ∈ values (ExpLUT omx)
  | .whiteBalance value =>
    ∀ mode, w.whiteBalance = some mode → value = mode ∧ value ∈ values (WBalLUT omx)
  | .flicker value =>
    ∀ mode, w.flicker = some mode → value = mode ∧ value ∈ values (FlickerLUT omx)
  | .sensitivity value =>
    ∀ mode, w.sensitivity = some mode → mode ∈ values IsoLUT ∧
      (value.bAutoSensitivity = true ↔ mode = 0) ∧ (mode ≠ 0 → value.nSensitivity = mode)
  | .imageFilter value =>
    ∀ mode, w.effect = some mode → value = mode ∧ value ∈ values (EffLUT omx)
  | .flashControl value =>
    value = omx.value OMX_IMAGE_FlashControlOff ∧ value ∈ values (FlashLUT omx)
  | .flashStrobe bStrobeOn =>
    ∃ mode ∈ values (FlashLUT omx), w.flash = some mode ∧
      (bStrobeOn = true ↔ mode = omx.value OMX_IMAGE_FlashControlTorch)
  | _ => True

/-- The value of the last text of a key that its table has. -/
def lastKnown (key : ParamKey) (LUT : LUTtype) (default : ℤ) (run : List (Event P)) : ℤ :=
  run.foldl
    (fun last e => match e with
      | .setParameters3A params _ => ((api.get params key).bind (known LUT)).getD last
      | _ => last)
    default

/-- What is sent is the value of the last known text, the white balance being automatic while the
scene is another than `auto`. -/
def Claimed (run : List (Event P)) : Sent → Prop
  | .exposureControl value =>
    value ∈ values (ExpLUT omx) ∧
      value = lastKnown api KEY_SCENE_MODE (ExpLUT omx) (omx.value OMX_ExposureControlAuto) run
  | .whiteBalance value =>
    value ∈ values (WBalLUT omx) ∧
      value =
        if lastKnown api KEY_SCENE_MODE (ExpLUT omx) (omx.value OMX_ExposureControlAuto) run =
            omx.value OMX_ExposureControlAuto then
          lastKnown api KEY_WHITE_BALANCE (WBalLUT omx) (omx.value OMX_WhiteBalControlAuto) run
        else omx.value OMX_WhiteBalControlAuto
  | .flicker value =>
    value ∈ values (FlickerLUT omx) ∧
      value = lastKnown api KEY_ANTIBANDING (FlickerLUT omx) (omx.value OMX_FlickerRejectionOff) run
  | .sensitivity value =>
    let mode := lastKnown api KEY_ISO IsoLUT 0 run
    mode ∈ values IsoLUT ∧ (value.bAutoSensitivity = true ↔ mode = 0) ∧
      (mode ≠ 0 → value.nSensitivity = mode)
  | .imageFilter value =>
    value ∈ values (EffLUT omx) ∧
      value = lastKnown api KEY_EFFECT (EffLUT omx) (omx.value OMX_ImageFilterNone) run
  | .flashControl value =>
    value ∈ values (FlashLUT omx) ∧
      value = lastKnown api KEY_FLASH_MODE (FlashLUT omx) (omx.value OMX_IMAGE_FlashControlOff) run
  | _ => True

/-! ### What is stored -/

/-- A value is what is asked for, if that is known, and in the table. -/
def Holds (LUT : LUTtype) (asked : Option ℤ) (stored : ℤ) : Prop :=
  ∀ mode, asked = some mode → stored = mode ∧ mode ∈ values LUT

/-- The part of the state that the look-up tables are about. -/
structure View where
  scene : ℤ
  whiteBalance : ℤ
  flicker : ℤ
  sensitivity : ℤ
  effect : ℤ
  flash : ℤ
  flashPending : Bool
  first : Bool

/-- That part. -/
def view (s : State) : View where
  scene := s.mParameters3A.SceneMode
  whiteBalance := s.mParameters3A.WhiteBallance
  flicker := s.mParameters3A.Flicker
  sensitivity := s.mParameters3A.ISO
  effect := s.mParameters3A.Effect
  flash := s.mParameters3A.FlashMode
  flashPending := s.mPending3Asettings SetFlash
  first := s.mFirstTimeInit

/-- What is stored serves what is asked for. In a scene other than `auto` the white balance and the
flash mode are those of the scene. -/
structure Serves (v : View) (w : Wanted) : Prop where
  scene : v.scene = w.scene ∧ w.scene ∈ values (ExpLUT omx)
  whiteBalance : Holds (WBalLUT omx) w.whiteBalance v.whiteBalance
  flicker : Holds (FlickerLUT omx) w.flicker v.flicker
  sensitivity : Holds IsoLUT w.sensitivity v.sensitivity
  effect : Holds (EffLUT omx) w.effect v.effect
  flash : Holds (FlashLUT omx) w.flash v.flash
  flashKnown : v.flashPending = true → w.flash.isSome = true
  first : v.first = w.first
  forced : w.scene ≠ omx.value OMX_ExposureControlAuto →
    w.whiteBalance = some (omx.value OMX_WhiteBalControlAuto)
  house : w.scene ≠ omx.value OMX_ExposureControlAuto →
    w.scene = omx.value OMX_ExposureControlActHouse →
      w.flash = some (omx.value OMX_IMAGE_FlashControlOn)
  sunset : w.scene ≠ omx.value OMX_ExposureControlAuto →
    w.scene ≠ omx.value OMX_ExposureControlActHouse →
      w.scene = omx.value OMX_ExposureControlActSunset →
        w.flash = some (omx.value OMX_IMAGE_FlashControlOff)

/-- A known text has a value of the table. -/
lemma mem_values {LUT : LUTtype} {text : Text} {mode : ℤ} (h : known LUT text = some mode) :
    mode ∈ values LUT := by
  induction LUT with
  | nil => cases h
  | cons e rest ih =>
    obtain ⟨key, value⟩ := e
    rw [known, List.lookup_cons] at h
    by_cases hkey : text = key
    · subst hkey
      rw [beq_self_eq_true, Option.some.injEq] at h
      exact h ▸ List.mem_cons_self
    · rw [beq_false_of_ne hkey] at h
      exact List.mem_cons_of_mem value (ih h)

/-- A known text is looked up. -/
lemma getLUTvalue_of_known {LUT : LUTtype} {str : Option Text} {mode : ℤ}
    (h : str.bind (known LUT) = some mode) : getLUTvalue_HALtoOMX str LUT = mode := by
  rw [getLUTvalue_HALtoOMX, h, Option.getD_some]

/-- The look-up of another text gives a negative number. -/
lemma getLUTvalue_of_unknown {LUT : LUTtype} {str : Option Text}
    (h : str.bind (known LUT) = none) : ¬ 0 ≤ getLUTvalue_HALtoOMX str LUT := by
  rw [getLUTvalue_HALtoOMX, h, Option.getD_none, ENOENT]
  omega

/-- The values of the scenes are not negative. -/
lemma nonneg_of_mem_ExpLUT {mode : ℤ} (h : mode ∈ values (ExpLUT omx)) : 0 ≤ mode := by
  have hall : ∀ v ∈ values (ExpLUT omx), 0 ≤ v := by simp [values, ExpLUT, omx.nonneg]
  exact hall mode h

/-- Nor are those of the flash modes. -/
lemma nonneg_of_mem_FlashLUT {mode : ℤ} (h : mode ∈ values (FlashLUT omx)) : 0 ≤ mode := by
  have hall : ∀ v ∈ values (FlashLUT omx), 0 ≤ v := by simp [values, FlashLUT, omx.nonneg]
  exact hall mode h

/-- Another flag than that of the flash is not seen. -/
@[simp] lemma view_raise (s : State) {flag : E3ASettingsFlags} (h : flag ≠ SetFlash) :
    view (s.raise flag) = view s := by
  simp [view, State.raise, h.symm]

/-! ### The blocks of `setParameters3A` -/

/-- A number is none of the settings with a table. -/
lemma view_setNumber (get : Gen3A_settings → ℤ) (put : ℤ → Gen3A_settings → Gen3A_settings)
    {flag : E3ASettingsFlags} (hflag : flag ≠ SetFlash) (offset : ℤ) (supported : Capability)
    (value : ℤ) (s : State)
    (hput : ∀ v, view { s with mParameters3A := put v s.mParameters3A } = view s) :
    view (setNumber mCapabilities get put flag offset supported value s) = view s := by
  unfold setNumber
  split_ifs
  · rw [view_raise _ hflag, hput]
  · rfl

/-- Nor is the focus mode. -/
lemma view_setFocus (str : Option Text) (s : State) :
    view (setFocus omx mCapabilities str s) = view s := by
  simp only [setFocus]
  split_ifs
  · exact view_raise s (by decide)
  · rfl

/-- Nor is the exposure compensation. -/
lemma view_setEVCompensation (str : Option Text) (value : ℤ) (s : State) :
    view (setEVCompensation str value s) = view s := by
  unfold setEVCompensation
  split_ifs
  · exact view_raise _ (by decide)
  · rfl

/-- Nor is a lock. -/
lemma view_setLock {get : Gen3A_settings → Bool} {put : Bool → Gen3A_settings → Gen3A_settings}
    {putUser : Bool → State → State} {flag : E3ASettingsFlags} {supported str : Option Text}
    {s s' : State} (h : setLock get put putUser flag supported str s = some s')
    (hflag : flag ≠ SetFlash)
    (hput : ∀ b s, view { s with mParameters3A := put b s.mParameters3A } = view s)
    (huser : ∀ b s, view (putUser b s) = view s) : view s' = view s := by
  unfold setLock at h
  split_ifs at h
  · obtain ⟨text, -, rfl⟩ := Option.map_eq_some_iff.mp h
    simp only
    split_ifs
    · rw [view_raise _ hflag, hput, huser]
    · exact huser _ s
  · exact congrArg view (Option.some.inj h).symm

/-- Nor is the focus lock. -/
lemma view_setFocusLock (invalid : Bool) (str : Option Text) (s : State) :
    view (setFocusLock mCapabilities invalid str s).1 = view s := by
  unfold setFocusLock
  split_ifs <;> rfl

/-- The focus lock is all that is sent at once. -/
lemma mem_setFocusLock {invalid : Bool} {str : Option Text} {s : State} {x : Sent}
    (h : x ∈ (setFocusLock mCapabilities invalid str s).2) : ∃ locked, x = .focusLock locked := by
  unfold setFocusLock sendFocusLock at h
  split_ifs at h <;> simp at h
  all_goals exact ⟨_, h⟩

/-- A setting that is stored before its text is looked at. -/
lemma holds_setMode (field : ModeField) (LUT : LUTtype) (str : Option Text) (s : State)
    {old : Option ℤ} (h : Holds LUT old (field.get s.mParameters3A)) :
    Holds LUT (asked s.mFirstTimeInit LUT str old)
      (field.get (setMode field LUT str s).mParameters3A) := by
  intro mode hmode
  have hstored : ∀ mode, getLUTvalue_HALtoOMX str LUT = mode →
      (str = none → field.get s.mParameters3A = mode) →
      field.get (setMode field LUT str s).mParameters3A = mode := by
    rintro mode rfl hnone
    simp only [setMode]
    split_ifs with hchange
    · exact field.get_put _ _
    · exact field.get_put _ _
    · rw [not_or, not_and, not_not] at hchange
      by_cases hstr : str = none
      · exact hnone hstr
      · exact hchange.2 hstr
  cases str with
  | some text =>
    have hknown : known LUT text = some mode := hmode
    exact ⟨hstored mode (getLUTvalue_of_known hknown) fun hnone => absurd hnone (by simp),
      mem_values hknown⟩
  | none =>
    unfold asked at hmode
    cases hfirst : s.mFirstTimeInit with
    | true =>
      rw [hfirst] at hmode
      cases hmode
    | false =>
      rw [hfirst] at hmode
      have hkeep : setMode field LUT none s = s := by
        unfold setMode
        rw [if_neg (by simp [hfirst])]
      rw [hkeep]
      exact h mode hmode

/-- A setting with a table changes its own part of the view and nothing else. -/
lemma view_setMode (field : ModeField) (put : ℤ → View → View) (hflag : field.flag ≠ SetFlash)
    (hput : ∀ v (s : State),
      view { s with mParameters3A := field.put v s.mParameters3A } = put v (view s))
    (hkeep : ∀ s : State, put (field.get s.mParameters3A) (view s) = view s)
    (LUT : LUTtype) (str : Option Text) (s : State) :
    view (setMode field LUT str s) =
      put (field.get (setMode field LUT str s).mParameters3A) (view s) := by
  simp only [setMode]
  split_ifs
  · rw [view_raise _ hflag, hput]
    exact congrArg (put · (view s)) (field.get_put _ _).symm
  · rw [hput]
    exact congrArg (put · (view s)) (field.get_put _ _).symm
  · exact (hkeep s).symm

/-- A white balance changes nothing else. -/
lemma view_setMode_whiteBallance (LUT : LUTtype) (str : Option Text) (s : State) :
    view (setMode whiteBallance LUT str s) =
      { view s with
        whiteBalance := whiteBallance.get (setMode whiteBallance LUT str s).mParameters3A } :=
  view_setMode whiteBallance (fun v w => { w with whiteBalance := v }) (by decide)
    (fun _ _ => rfl) (fun _ => rfl) LUT str s

/-- Nor does an antibanding. -/
lemma view_setMode_flicker (LUT : LUTtype) (str : Option Text) (s : State) :
    view (setMode flicker LUT str s) =
      { view s with flicker := flicker.get (setMode flicker LUT str s).mParameters3A } :=
  view_setMode flicker (fun v w => { w with flicker := v }) (by decide)
    (fun _ _ => rfl) (fun _ => rfl) LUT str s

/-- Nor does a sensitivity. -/
lemma view_setMode_iso (LUT : LUTtype) (str : Option Text) (s : State) :
    view (setMode iso LUT str s) =
      { view s with sensitivity := iso.get (setMode iso LUT str s).mParameters3A } :=
  view_setMode iso (fun v w => { w with sensitivity := v }) (by decide)
    (fun _ _ => rfl) (fun _ => rfl) LUT str s

/-- Nor does an effect. -/
lemma view_setMode_effect (LUT : LUTtype) (str : Option Text) (s : State) :
    view (setMode effect LUT str s) =
      { view s with effect := effect.get (setMode effect LUT str s).mParameters3A } :=
  view_setMode effect (fun v w => { w with effect := v }) (by decide)
    (fun _ _ => rfl) (fun _ => rfl) LUT str s

/-- A scene that is stored. -/
lemma view_scene (s : State) (mode : ℤ) :
    view ({ s with mParameters3A.SceneMode := mode }.raise SetSceneMode) =
      { view s with scene := mode } :=
  view_raise _ (by decide)

/-- A white balance that is stored. -/
lemma view_whiteBalance (s : State) (mode : ℤ) :
    view ({ s with mParameters3A.WhiteBallance := mode }.raise SetWhiteBallance) =
      { view s with whiteBalance := mode } :=
  view_raise _ (by decide)

/-- A flash mode that is stored. -/
lemma view_flash (s : State) (mode : ℤ) :
    view ({ s with mParameters3A.FlashMode := mode }.raise SetFlash) =
      { view s with flash := mode, flashPending := true } := by
  simp [view, State.raise]

/-- A value of a table holds what is asked for. -/
lemma holds_some {LUT : LUTtype} {mode : ℤ} (h : mode ∈ values LUT) : Holds LUT (some mode) mode :=
  fun _ hmode => ⟨Option.some.inj hmode, Option.some.inj hmode ▸ h⟩

/-- The automatic white balance is in its table. -/
lemma auto_mem_WBalLUT : omx.value OMX_WhiteBalControlAuto ∈ values (WBalLUT omx) :=
  List.mem_cons_self

/-- A flash that is off is in the table. -/
lemma off_mem_FlashLUT : omx.value OMX_IMAGE_FlashControlOff ∈ values (FlashLUT omx) :=
  List.mem_cons_self

/-- A flash that is on is in the table. -/
lemma on_mem_FlashLUT : omx.value OMX_IMAGE_FlashControlOn ∈ values (FlashLUT omx) :=
  List.mem_cons_of_mem _ List.mem_cons_self

variable {omx}

/-- A scene, which chooses the white balance and perhaps the flash mode.

**Proof sketch.** An unknown text changes nothing, and neither does the scene that is already
chosen, since the white balance and the flash mode are those of that scene. -/
lemma Serves.setSceneMode {s : State} {w : Wanted} (h : Serves omx (view s) w)
    (str : Option Text) :
    Serves omx (view (setSceneMode omx str s)) (askScene omx str w) := by
  cases hknown : str.bind (known (ExpLUT omx)) with
  | none =>
    have hneg := getLUTvalue_of_unknown hknown
    simp only [Settings3A.setSceneMode, askScene, hknown]
    rw [if_neg fun hc => hneg hc.2]
    exact h
  | some mode =>
    obtain ⟨text, rfl, htext⟩ := Option.bind_eq_some_iff.mp hknown
    have hmem := mem_values htext
    have hpos := nonneg_of_mem_ExpLUT omx hmem
    simp only [Settings3A.setSceneMode, askScene, hknown, getLUTvalue_of_known hknown]
    by_cases hchange : s.mFirstTimeInit = true ∨
        some text ≠ none ∧ s.mParameters3A.SceneMode ≠ mode
    · rw [if_pos ⟨hchange, hpos⟩]
      by_cases hauto : mode = omx.value OMX_ExposureControlAuto
      · rw [if_neg (not_not_intro hauto), if_pos hauto, view_scene]
        exact
          { h with
            scene := ⟨rfl, hmem⟩
            forced := fun hne => absurd hauto hne
            house := fun hne => absurd hauto hne
            sunset := fun hne => absurd hauto hne }
      · rw [if_pos hauto, if_neg hauto]
        have hbalance := holds_some (auto_mem_WBalLUT omx)
        by_cases hhouse : mode = omx.value OMX_ExposureControlActHouse
        · rw [if_pos hhouse, if_pos hhouse, view_flash, view_whiteBalance, view_scene]
          exact
            { h with
              scene := ⟨rfl, hmem⟩
              whiteBalance := hbalance
              flash := holds_some (on_mem_FlashLUT omx)
              flashKnown := fun _ => rfl
              forced := fun _ => rfl
              house := fun _ _ => rfl
              sunset := fun _ hne => absurd hhouse hne }
        · rw [if_neg hhouse, if_neg hhouse]
          by_cases hsunset : mode = omx.value OMX_ExposureControlActSunset
          · rw [if_pos hsunset, if_pos hsunset, view_flash, view_whiteBalance, view_scene]
            exact
              { h with
                scene := ⟨rfl, hmem⟩
                whiteBalance := hbalance
                flash := holds_some (off_mem_FlashLUT omx)
                flashKnown := fun _ => rfl
                forced := fun _ => rfl
                house := fun _ heq => absurd heq hhouse
                sunset := fun _ _ _ => rfl }
          · rw [if_neg hsunset, if_neg hsunset, view_whiteBalance, view_scene]
            exact
              { h with
                scene := ⟨rfl, hmem⟩
                whiteBalance := hbalance
                forced := fun _ => rfl
                house := fun _ heq => absurd heq hhouse
                sunset := fun _ _ heq => absurd heq hsunset }
    · rw [if_neg fun hc => hchange hc.1]
      rw [not_or, not_and, not_not] at hchange
      have hsame : w.scene = mode := h.scene.1.symm.trans (hchange.2 (by simp))
      subst hsame
      by_cases hauto : w.scene = omx.value OMX_ExposureControlAuto
      · rw [if_pos hauto]
        exact h
      · have hflash : (if w.scene = omx.value OMX_ExposureControlActHouse then
            some (omx.value OMX_IMAGE_FlashControlOn)
          else if w.scene = omx.value OMX_ExposureControlActSunset then
            some (omx.value OMX_IMAGE_FlashControlOff)
          else w.flash) = w.flash := by
          split_ifs with hhouse hsunset
          · exact (h.house hauto hhouse).symm
          · exact (h.sunset hauto hhouse hsunset).symm
          · rfl
        rw [if_neg hauto, hflash, ← h.forced hauto]
        exact h

/-- A white balance. -/
lemma Serves.setWhiteBallance {s : State} {w : Wanted} (h : Serves omx (view s) w)
    (str : Option Text) :
    Serves omx (view (setWhiteBallance omx str s)) (askWhiteBalance omx str w) := by
  have hscene : s.mParameters3A.SceneMode = w.scene := h.scene.1
  have hfirst : s.mFirstTimeInit = w.first := h.first
  unfold Settings3A.setWhiteBallance askWhiteBalance
  rw [hscene]
  split_ifs with hauto
  · have hholds := holds_setMode whiteBallance (WBalLUT omx) str s h.whiteBalance
    rw [hfirst] at hholds
    rw [view_setMode_whiteBallance]
    exact { h with whiteBalance := hholds, forced := fun hne => absurd hauto hne }
  · exact h

/-- An antibanding. -/
lemma Serves.setFlicker {s : State} {w : Wanted} (h : Serves omx (view s) w) (str : Option Text) :
    Serves omx (view (setFlicker omx mCapabilities str s))
      (askFlicker omx mCapabilities str w) := by
  have hfirst : s.mFirstTimeInit = w.first := h.first
  unfold Settings3A.setFlicker askFlicker
  split_ifs
  · have hholds := holds_setMode Settings3A.flicker (FlickerLUT omx) str s h.flicker
    rw [hfirst] at hholds
    rw [view_setMode_flicker]
    exact { h with flicker := hholds }
  · exact h

/-- A sensitivity. -/
lemma Serves.setISO {s : State} {w : Wanted} (h : Serves omx (view s) w) (str : Option Text) :
    Serves omx (view (setISO mCapabilities str s)) (askSensitivity mCapabilities str w) := by
  have hfirst : s.mFirstTimeInit = w.first := h.first
  unfold Settings3A.setISO askSensitivity
  split_ifs
  · have hholds := holds_setMode iso IsoLUT str s h.sensitivity
    rw [hfirst] at hholds
    rw [view_setMode_iso]
    exact { h with sensitivity := hholds }
  · exact h

/-- An effect. -/
lemma Serves.setEffect {s : State} {w : Wanted} (h : Serves omx (view s) w) (str : Option Text) :
    Serves omx (view (setMode Settings3A.effect (EffLUT omx) str s)) (askEffect omx str w) := by
  have hfirst : s.mFirstTimeInit = w.first := h.first
  have hholds := holds_setMode Settings3A.effect (EffLUT omx) str s h.effect
  rw [hfirst] at hholds
  rw [view_setMode_effect]
  exact { h with effect := hholds }

/-- A flash mode. -/
lemma Serves.setFlash {s : State} {w : Wanted} (h : Serves omx (view s) w) (str : Option Text) :
    Serves omx (view (setFlash omx mCapabilities str s)) (askFlash omx mCapabilities str w) := by
  have hscene : s.mParameters3A.SceneMode = w.scene := h.scene.1
  simp only [Settings3A.setFlash, askFlash]
  by_cases hgate : s.mParameters3A.SceneMode = omx.value OMX_ExposureControlAuto ∧
      mCapabilities FLASH_SUPPORTED = TRUE
  · have hauto : w.scene = omx.value OMX_ExposureControlAuto := hscene.symm.trans hgate.1
    rw [if_pos (show w.scene = omx.value OMX_ExposureControlAuto ∧ _ from ⟨hauto, hgate.2⟩)]
    cases hknown : str.bind (known (FlashLUT omx)) with
    | none =>
      have hneg := getLUTvalue_of_unknown hknown
      rw [if_neg fun hc => hneg hc.2.2, Option.none_or]
      exact h
    | some mode =>
      obtain ⟨text, rfl, htext⟩ := Option.bind_eq_some_iff.mp hknown
      have hmem := mem_values htext
      have hpos := nonneg_of_mem_FlashLUT omx hmem
      rw [getLUTvalue_of_known hknown, Option.some_or]
      split_ifs with hchange
      · rw [view_flash]
        exact
          { h with
            flash := holds_some hmem
            flashKnown := fun _ => rfl
            house := fun hne => absurd hauto hne
            sunset := fun hne => absurd hauto hne }
      · have hsame : s.mParameters3A.FlashMode = mode := by
          by_contra hne
          exact hchange ⟨hgate, Or.inr ⟨by simp, hne⟩, hpos⟩
        exact
          { h with
            flash := fun u hu => ⟨hsame.trans (Option.some.inj hu), Option.some.inj hu ▸ hmem⟩
            flashKnown := fun _ => rfl
            house := fun hne => absurd hauto hne
            sunset := fun hne => absurd hauto hne }
  · rw [if_neg fun hc => hgate hc.1, if_neg fun hc => hgate ⟨hscene.trans hc.1, hc.2⟩]
    exact h

/-- The blocks before the locks. -/
lemma Serves.setSettings {s : State} {w : Wanted} (h : Serves omx (view s) w) (params : P) :
    Serves omx (view (setSettings omx api mCapabilities params s))
      (ask omx api mCapabilities params w) := by
  have hscene := (h.setSceneMode (api.get params KEY_SCENE_MODE)).setWhiteBallance
    (api.get params KEY_WHITE_BALANCE)
  have hnumbers : ∀ s' w', Serves omx (view s') w' → ∀ value₁ value₂ value₃ value₄ value₅,
      Serves omx (view
        (setNumber mCapabilities Gen3A_settings.Denoise (fun v g => { g with Denoise := v })
          SetDenoise 0 DENOISE_SUPPORTED value₅
        (setNumber mCapabilities Gen3A_settings.Brightness (fun v g => { g with Brightness := v })
          SetBrightness 0 BRIGHTNESS_SUPPORTED value₄
        (setNumber mCapabilities Gen3A_settings.Saturation (fun v g => { g with Saturation := v })
          SetSaturation SATURATION_OFFSET SATURATION_SUPPORTED value₃
        (setNumber mCapabilities Gen3A_settings.Sharpness (fun v g => { g with Sharpness := v })
          SetSharpness SHARPNESS_OFFSET SHARPNESS_SUPPORTED value₂
        (setNumber mCapabilities Gen3A_settings.Contrast (fun v g => { g with Contrast := v })
          SetContrast CONTRAST_OFFSET CONTRAST_SUPPORTED value₁ s')))))) w' := by
    intro s' w' h' value₁ value₂ value₃ value₄ value₅
    rw [view_setNumber, view_setNumber, view_setNumber, view_setNumber, view_setNumber]
    exact h'
    all_goals first | decide | exact fun _ => rfl
  have hmodes := ((hnumbers _ _ hscene (api.getInt params KEY_CONTRAST).toInt
    (api.getInt params KEY_SHARPNESS).toInt (api.getInt params KEY_SATURATION).toInt
    (api.getInt params KEY_BRIGHTNESS).toInt (api.getInt params KEY_DENOISE).toInt).setFlicker
      mCapabilities (api.get params KEY_ANTIBANDING)).setISO mCapabilities (api.get params KEY_ISO)
  rw [← view_setFocus omx mCapabilities (api.get params KEY_FOCUS_MODE),
    ← view_setEVCompensation (api.get params KEY_EXPOSURE_COMPENSATION)
      (api.getInt params KEY_EXPOSURE_COMPENSATION).toInt] at hmodes
  exact (hmodes.setFlash mCapabilities (api.get params KEY_FLASH_MODE)).setEffect
    (api.get params KEY_EFFECT)

/-! ### What is sent -/

/-- The locks are none of the settings with a table, and only the focus lock is sent at once. -/
lemma setParameters3A_eq {params : P} {invalid : Bool} {s : State} {r : State × List Sent}
    (h : setParameters3A omx api mCapabilities params invalid s = some r) :
    view r.1 = view (setSettings omx api mCapabilities params s) ∧
      ∀ x ∈ r.2, ∃ locked, x = .focusLock locked := by
  obtain ⟨s₁, h₁, h⟩ := Option.bind_eq_some_iff.mp h
  obtain ⟨s₂, h₂, h⟩ := Option.bind_eq_some_iff.mp h
  obtain rfl := Option.some.inj h
  refine ⟨?_, fun x hx => mem_setFocusLock mCapabilities hx⟩
  rw [view_setFocusLock, view_setLock h₂ (by decide) (fun _ _ => rfl) (fun _ _ => rfl),
    view_setLock h₁ (by decide) (fun _ _ => rfl) (fun _ _ => rfl)]

/-- The loop sends the settings whose flag is raised, takes flags down and changes nothing else.

**Proof sketch.** Induction on the flags. -/
lemma applyLoop_spec (m : Meeting) (flags : List E3ASettingsFlags) (ret : Status) (s : State)
    (sent : List Sent) :
    (applyLoop omx m flags (ret, s, sent)).2.1.mParameters3A = s.mParameters3A ∧
      (applyLoop omx m flags (ret, s, sent)).2.1.mFirstTimeInit = s.mFirstTimeInit ∧
      (∀ flag, (applyLoop omx m flags (ret, s, sent)).2.1.mPending3Asettings flag = true →
        s.mPending3Asettings flag = true) ∧
      ∀ x ∈ (applyLoop omx m flags (ret, s, sent)).2.2, x ∈ sent ∨
        ∃ flag, s.mPending3Asettings flag = true ∧
          x ∈ (applySetting omx s.mParameters3A m flag).2 := by
  induction flags generalizing ret s sent with
  | nil => exact ⟨rfl, rfl, fun _ h => h, fun _ h => Or.inl h⟩
  | cons flag rest ih =>
    by_cases hflag : s.mPending3Asettings flag = true
    · have hcons : applyLoop omx m (flag :: rest) (ret, s, sent) =
          applyLoop omx m rest (ret ||| (applySetting omx s.mParameters3A m flag).1, s.clear flag,
            sent ++ (applySetting omx s.mParameters3A m flag).2) := by
        unfold applyLoop
        rw [List.foldl_cons]
        simp only [hflag, if_true]
      have hclear : ∀ f, (s.clear flag).mPending3Asettings f = true →
          s.mPending3Asettings f = true := fun f hf => (Bool.and_eq_true_iff.mp hf).2
      obtain ⟨hsettings, hfirst, hpending, hsent⟩ := ih
        (ret ||| (applySetting omx s.mParameters3A m flag).1) (s.clear flag)
        (sent ++ (applySetting omx s.mParameters3A m flag).2)
      rw [hcons]
      refine ⟨hsettings, hfirst, fun f hf => hclear f (hpending f hf), fun x hx => ?_⟩
      rcases hsent x hx with hx | ⟨f, hf, hx⟩
      · rcases List.mem_append.mp hx with hx | hx
        · exact Or.inl hx
        · exact Or.inr ⟨flag, hflag, hx⟩
      · exact Or.inr ⟨f, hclear f hf, hx⟩
    · have hcons : applyLoop omx m (flag :: rest) (ret, s, sent) =
          applyLoop omx m rest (ret, s, sent) := by
        unfold applyLoop
        rw [List.foldl_cons]
        simp only [hflag, Bool.false_eq_true, if_false]
      rw [hcons]
      exact ih ret s sent

/-- So does `apply3Asettings`. -/
lemma apply3Asettings_spec (m : Meeting) (s : State) :
    (apply3Asettings omx m s).2.1.mParameters3A = s.mParameters3A ∧
      (apply3Asettings omx m s).2.1.mFirstTimeInit = s.mFirstTimeInit ∧
      (∀ flag, (apply3Asettings omx m s).2.1.mPending3Asettings flag = true →
        s.mPending3Asettings flag = true) ∧
      ∀ x ∈ (apply3Asettings omx m s).2.2, ∃ flag, s.mPending3Asettings flag = true ∧
        x ∈ setterSends omx s.mParameters3A m flag := by
  unfold apply3Asettings
  split_ifs
  · exact ⟨rfl, rfl, fun _ h => h, List.forall_mem_nil _⟩
  · exact ⟨rfl, rfl, fun _ h => h, List.forall_mem_nil _⟩
  · obtain ⟨hsettings, hfirst, hpending, hsent⟩ := @applyLoop_spec omx m allFlags NO_ERROR s []
    refine ⟨hsettings, hfirst, hpending, fun x hx => ?_⟩
    rcases hsent x hx with hx | ⟨flag, hflag, hx⟩
    · cases hx
    · refine ⟨flag, hflag, ?_⟩
      unfold applySetting at hx
      split_ifs at hx
      · cases hx
      · cases hx
      · exact hx

/-- The settings of a step: an event keeps what is stored what is asked for. -/
theorem serves_step {s s' : State} {w : Wanted} (h : Serves omx (view s) w) {e : Event P}
    (hstep : step omx api mCapabilities (some s) e = some s') :
    Serves omx (view s') (want omx api mCapabilities w e) := by
  cases e with
  | setParameters3A params invalid =>
    obtain ⟨r, hr, rfl⟩ := Option.map_eq_some_iff.mp hstep
    rw [(setParameters3A_eq api mCapabilities hr).1]
    exact h.setSettings api mCapabilities params
  | apply3Asettings m =>
    obtain rfl := Option.some.inj hstep
    obtain ⟨hsettings, hfirst, hpending, -⟩ := @apply3Asettings_spec omx m s
    have hview : view (apply3Asettings omx m s).2.1 =
        { view s with
          flashPending := (apply3Asettings omx m s).2.1.mPending3Asettings SetFlash } := by
      simp only [view, hsettings, hfirst]
    rw [hview]
    exact { h with flashKnown := fun hp => h.flashKnown (hpending SetFlash hp) }
  | firstTimeInit value =>
    obtain rfl := Option.some.inj hstep
    exact { h with first := rfl }
  | raiseFocus =>
    obtain rfl := Option.some.inj hstep
    rw [view_raise s (by decide)]
    exact h

/-- What is sent for a flag that is raised is what is asked for. -/
lemma Serves.meets {s : State} {w : Wanted} (h : Serves omx (view s) w) (m : Meeting)
    {flag : E3ASettingsFlags} (hflag : s.mPending3Asettings flag = true) {x : Sent}
    (hx : x ∈ setterSends omx s.mParameters3A m flag) : Meets omx w x := by
  have hmode : ∀ {LUT : LUTtype} {asked : Option ℤ} {stored : ℤ}, Holds LUT asked stored →
      ∀ mode, asked = some mode → stored = mode ∧ stored ∈ values LUT := by
    intro LUT asked stored hholds mode hasked
    obtain ⟨rfl, hmem⟩ := hholds mode hasked
    exact ⟨rfl, hmem⟩
  cases flag with
  | SetSceneMode =>
    obtain rfl := List.mem_singleton.mp hx
    have hscene : s.mParameters3A.SceneMode = w.scene := h.scene.1
    exact ⟨hscene, hscene ▸ h.scene.2⟩
  | SetWhiteBallance =>
    obtain rfl := List.mem_singleton.mp hx
    exact hmode h.whiteBalance
  | SetFlicker =>
    obtain rfl := List.mem_singleton.mp hx
    exact hmode h.flicker
  | SetEffect =>
    obtain rfl := List.mem_singleton.mp hx
    exact hmode h.effect
  | SetISO =>
    obtain rfl := List.mem_singleton.mp hx
    intro mode hasked
    obtain ⟨hstored, hmem⟩ := h.sensitivity mode hasked
    have hiso : s.mParameters3A.ISO = mode := hstored
    refine ⟨hmem, ?_⟩
    unfold sensitivityOf
    rw [hiso]
    split_ifs with hzero
    · exact ⟨⟨fun _ => hzero, fun _ => rfl⟩, fun hne => absurd hzero hne⟩
    · exact ⟨by simp [hzero], fun _ => rfl⟩
  | SetFlash =>
    obtain ⟨mode, hknown⟩ := Option.isSome_iff_exists.mp (h.flashKnown hflag)
    obtain ⟨hstored, hmem⟩ := h.flash mode hknown
    have hflash : s.mParameters3A.FlashMode = mode := hstored
    rcases List.mem_cons.mp hx with rfl | hx
    · exact ⟨rfl, off_mem_FlashLUT omx⟩
    · obtain rfl := List.mem_singleton.mp hx
      refine ⟨mode, hmem, hknown, ?_⟩
      rw [hflash]
      exact decide_eq_true_iff
  | SetFocus =>
    simp only [setterSends] at hx
    split_ifs at hx <;> simp at hx <;> (subst hx; trivial)
  | SetEVCompensation | SetSharpness | SetBrightness | SetContrast | SetSaturation | SetExpLock
  | SetWBLock | SetDenoise =>
    obtain rfl := List.mem_singleton.mp hx
    trivial
  | SetExposure | SetExpMode | SetMeteringAreas => cases hx

/-- The defaults are what the requests ask for at first. -/
lemma serves_initialized (old : Gen3A_settings) (mUserSetExpLock mUserSetWbLock : Bool) :
    Serves omx (view (initialized omx mCapabilities old mUserSetExpLock mUserSetWbLock))
      (wantedDefaults omx mCapabilities) where
  scene := ⟨rfl, List.mem_cons_self⟩
  whiteBalance := holds_some (auto_mem_WBalLUT omx)
  flicker := holds_some List.mem_cons_self
  sensitivity := holds_some List.mem_cons_self
  effect := holds_some List.mem_cons_self
  flash := by
    intro mode hmode
    simp only [wantedDefaults] at hmode
    split_ifs at hmode with hsupported
    obtain rfl := Option.some.inj hmode
    refine ⟨?_, off_mem_FlashLUT omx⟩
    simp only [view, initialized, defaults, if_pos hsupported]
    rfl
  flashKnown hpending := Bool.noConfusion hpending
  first := rfl
  forced hne := absurd rfl hne
  house hne := absurd rfl hne
  sunset hne := absurd rfl hne

/-- What an event sends is what is asked for after it. -/
lemma Serves.sends {s : State} {w : Wanted} (h : Serves omx (view s) w) (e : Event P) {x : Sent}
    (hx : x ∈ sends omx api mCapabilities s e) : Meets omx w x := by
  cases e with
  | setParameters3A params invalid =>
    cases hr : setParameters3A omx api mCapabilities params invalid s with
    | none =>
      simp only [Settings3A.sends, hr, Option.elim_none] at hx
      cases hx
    | some r =>
      simp only [Settings3A.sends, hr, Option.elim_some] at hx
      obtain ⟨locked, rfl⟩ := (setParameters3A_eq api mCapabilities hr).2 x hx
      trivial
  | apply3Asettings m =>
    obtain ⟨-, -, -, hsent⟩ := @apply3Asettings_spec omx m s
    obtain ⟨flag, hflag, hx⟩ := hsent x hx
    exact h.meets m hflag hx
  | firstTimeInit value => cases hx
  | raiseFocus => cases hx

variable (omx)

/-- **In every run what is sent is what the requests ask for.** The values are those of the tables.
A scene or a flash mode that is not known changes nothing.

**Proof sketch.** What is stored serves what is asked for at first (`serves_initialized`), and each
event keeps that (`serves_step`), so it does after the run (`StepRun.simulates`). What is sent is
read from what is stored (`Serves.sends`). -/
theorem sends_meets (old : Gen3A_settings) (mUserSetExpLock mUserSetWbLock : Bool)
    (run : List (Event P)) (e : Event P) :
    ∀ x ∈ sendsAfter omx api mCapabilities old mUserSetExpLock mUserSetWbLock run e,
      Meets omx (StepRun.final (want omx api mCapabilities) (wantedDefaults omx mCapabilities) run)
        x := by
  intro x hx
  have hserves : ∀ s, StepRun.final (step omx api mCapabilities)
      (some (initialized omx mCapabilities old mUserSetExpLock mUserSetWbLock)) run = some s →
      Serves omx (view s)
        (StepRun.final (want omx api mCapabilities) (wantedDefaults omx mCapabilities) run) := by
    refine StepRun.simulates (R := fun o w => ∀ s, o = some s → Serves omx (view s) w) ?_ ?_ run
    · intro o w event hkeep s' hs'
      obtain ⟨s, hs, -⟩ := Option.bind_eq_some_iff.mp hs'
      subst hs
      exact serves_step api mCapabilities (hkeep s rfl) hs'
    · rintro s hs
      obtain rfl := Option.some.inj hs
      exact serves_initialized mCapabilities old mUserSetExpLock mUserSetWbLock
  unfold sendsAfter at hx
  cases hfinal : StepRun.final (step omx api mCapabilities)
      (some (initialized omx mCapabilities old mUserSetExpLock mUserSetWbLock)) run with
  | none =>
    rw [hfinal] at hx
    cases hx
  | some s =>
    rw [hfinal] at hx
    exact (hserves s hfinal).sends api mCapabilities e hx

/-! ### Runs that send another value -/

/-- Constants that are numbered in their order. -/
def numbered : OmxHeaders where
  value c := c.ctorIdx
  nonneg _ := Int.natCast_nonneg _

/-- Everything is supported. -/
def everything (_ : Capability) : Text := TRUE

/-- Settings before `initialize`. -/
def blank : Gen3A_settings := ⟨0, 0, 0, 0, 0, 0, 0, 0, 0, 0, 0, 0, 0, false, false, false⟩

/-- A component that accepts everything, with no picture or recording going on. -/
def idle : Meeting where
  mRecording := false
  canSetCapture3A := (NO_ERROR, false)
  invalid := false
  afActive := false
  mIternalRecordingHint := false
  readCompensation := ⟨true, 0, 0⟩
  readSensitivity := ⟨true, 0, 0⟩
  result _ := NO_ERROR

/-- A call with some texts. -/
def request (texts : List (ParamKey × Text)) : Event (ParamKey → Option Text) :=
  .setParameters3A (fun key => texts.lookup key) false

/-- The first call, with all texts, but for some. -/
def firstRequest (texts : List (ParamKey × Text)) : Event (ParamKey → Option Text) :=
  request (texts ++
    [ (KEY_SCENE_MODE, "auto".toList), (KEY_WHITE_BALANCE, "auto".toList),
      (KEY_ANTIBANDING, "off".toList), (KEY_ISO, "auto".toList),
      (KEY_FOCUS_MODE, "infinity".toList), (KEY_FLASH_MODE, "off".toList),
      (KEY_EFFECT, "none".toList) ])

/-- The torch is asked for. -/
def torchRun : List (Event (ParamKey → Option Text)) :=
  [firstRequest [(KEY_FLASH_MODE, "torch".toList)]]

/-- Daylight is asked for in the night scene, which is then left. -/
def nightRun : List (Event (ParamKey → Option Text)) :=
  [ firstRequest [], .firstTimeInit false,
    request [(KEY_SCENE_MODE, "night".toList), (KEY_WHITE_BALANCE, "daylight".toList)],
    request [(KEY_SCENE_MODE, "auto".toList)] ]

/-- Daylight is asked for, and then a white balance that is not known. -/
def unknownRun : List (Event (ParamKey → Option Text)) :=
  [ firstRequest [], .firstTimeInit false, request [(KEY_WHITE_BALANCE, "daylight".toList)],
    request [(KEY_WHITE_BALANCE, "moonlight".toList)] ]

/-- Applied to the run that asks for the torch: the strobe is on. -/
theorem sends_meets_torch :
    .flashStrobe true ∈ sendsAfter numbered mapParameters everything blank false false torchRun
        (.apply3Asettings idle) ∧
      Meets numbered (StepRun.final (want numbered mapParameters everything)
        (wantedDefaults numbered everything) torchRun) (.flashStrobe true) := by
  have hsent : .flashStrobe true ∈ sendsAfter numbered mapParameters everything blank false false
      torchRun (.apply3Asettings idle) := by decide +kernel
  exact ⟨hsent, sends_meets numbered mapParameters everything blank false false torchRun
    (.apply3Asettings idle) _ hsent⟩

/-- The torch switches the flash control off; the white balance that was asked for in the night
scene is not sent after it; and an unknown white balance is sent as an error number. -/
theorem not_claimed :
    (∃ x ∈ sendsAfter numbered mapParameters everything blank false false torchRun
        (.apply3Asettings idle), ¬ Claimed numbered mapParameters torchRun x) ∧
      (∃ x ∈ sendsAfter numbered mapParameters everything blank false false nightRun
        (.apply3Asettings idle), ¬ Claimed numbered mapParameters nightRun x) ∧
      ∃ x ∈ sendsAfter numbered mapParameters everything blank false false unknownRun
        (.apply3Asettings idle), ¬ Claimed numbered mapParameters unknownRun x := by
  refine ⟨⟨.flashControl 31, by decide, fun h => absurd h.2 (by decide)⟩,
    ⟨.whiteBalance 15, by decide, fun h => absurd h.2 (by decide)⟩,
    ⟨.whiteBalance (-2), by decide, fun h => absurd h.2 (by decide)⟩⟩

end Settings3A

end CameraHal
