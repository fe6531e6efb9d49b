import Gs702aHal.Camera.SetParameters

set_option relaxedAutoImplicit false
set_option autoImplicit false

/-!
# Error returns of `CameraHal::setParameters`

Each block of `setParameters` is described by a check, told from the texts of the call, the
properties of the camera and what is stored: when the block refuses, when it crashes, and when what
it copies is stored already. An error return leaves the stored parameters as they were if the checks
before the first refusal all find what is stored already. At the end, the camera adapter's refusal
restores the parameters, but not the video size.

## Main definitions

* `CameraHal.SetParameters.checks` — the checks of a call, one for each block.
* `CameraHal.SetParameters.Fails` — the camera adapter or the restart of the preview fails.
* `CameraHal.SetParameters.Harmless` — the condition.

## Main results

* `CameraHal.SetParameters.describes_blocks` — the checks tell what the blocks do.
* `CameraHal.SetParameters.restart_iff` — when the preview is to be restarted.
* `CameraHal.SetParameters.atomic_iff` — when an error return leaves what is stored.
-/

namespace CameraHal.SetParameters

open CheckedUpdates ParamKey

variable {P : Type} (api : CameraParameters P) (call : Call P) (stored : Stored P)

/-! ### The checks -/

/-- The call has a text under a key. -/
def Given (key : ParamKey) (valstr : Text) : Prop := api.get call.params key = some valstr

/-- Storing a text under a key changes nothing: it is there, or it is one that `set` ignores. -/
def Same (key : ParamKey) (value : Text) : Prop :=
  api.storable value = true → api.lookup stored.mParameters key = some value

/-- A check that does not crash. -/
def check (refuses same : Prop) : Check Stop where
  stops
    | .badValue => refuses
    | .crash => False
  same := same

/-- Of a name: it is refused unless the camera supports it. -/
def nameCheck (key : ParamKey) (supported : PropertyIndex) : Check Stop :=
  check
    (∃ v, Given api call key v ∧
      isParameterValid (some v) (some (call.properties supported)) = false)
    (∀ v, Given api call key v → Same api stored key v)

/-- Of a number between two bounds, which is copied if it is. -/
def rangeCheck (key : ParamKey) (min max : PropertyIndex) : Check Stop :=
  check False
    (∀ v, Given api call key v → (atoi (call.properties min)).sle (atoi v) = true →
      (atoi v).sle (atoi (call.properties max)) = true → Same api stored key v)

/-- Of a key that is copied as it is. -/
def plainCheck (key : ParamKey) : Check Stop :=
  check False (∀ v, Given api call key v → Same api stored key v)

/-- Of a number that is copied if it is not negative. -/
def numberCheck (key : ParamKey) : Check Stop :=
  check False
    ((0#32).sle (api.getInt call.params key) = true →
      Same api stored key (printD (api.getInt call.params key)))

/-- Of a key that is removed if it is not given. -/
def removableCheck (key : ParamKey) : Check Stop :=
  check False
    ((∀ v, Given api call key v → Same api stored key v) ∧
      (api.get call.params key = none → api.lookup stored.mParameters key = none))

/-- Of `KEY_VIDEO_STABILIZATION`, which is looked at without a preview only: `true` is refused
unless the camera supports it, and anything else is stored as `false` then. -/
def stabilizationCheck : Check Stop :=
  check
    (call.previewEnabled = false ∧ call.properties .VSTAB_SUPPORTED ≠ TRUE ∧
      Given api call KEY_VIDEO_STABILIZATION TRUE)
    (call.previewEnabled = false → ∀ v, Given api call KEY_VIDEO_STABILIZATION v →
      Same api stored KEY_VIDEO_STABILIZATION
        (if call.properties .VSTAB_SUPPORTED = TRUE then v else FALSE))

/-- Of `KEY_PREVIEW_FORMAT`, which is compared with the stored one: a new one is copied twice. -/
def formatCheck : Check Stop where
  stops
    | .badValue => ∃ v, Given api call KEY_PREVIEW_FORMAT v ∧
        isParameterValid (some v) (some (call.properties .SUPPORTED_PREVIEW_FORMATS)) = false
    | .crash => ∃ v, Given api call KEY_PREVIEW_FORMAT v ∧
        isParameterValid (some v) (some (call.properties .SUPPORTED_PREVIEW_FORMATS)) = true ∧
        api.get stored.mParameters KEY_PREVIEW_FORMAT = none
  same := ∀ v, Given api call KEY_PREVIEW_FORMAT v →
    api.get stored.mParameters KEY_PREVIEW_FORMAT = some v ∨
      Same api stored KEY_PREVIEW_FORMAT v ∧ Same api stored KEY_VIDEO_FRAME_FORMAT v

/-- The size in which a video of a size is captured. -/
def captureSize (size : Size) : Size :=
  match call.mExtendedVideoResolution.find? fun extVideoRes => extVideoRes.size = size with
  | some extVideoRes => (extVideoRes.captureWidth, extVideoRes.captureHeight)
  | none => size

/-- Of `KEY_PREVIEW_SIZE`, which is the video size as well. -/
def previewSizeCheck : Check Stop :=
  let size := api.getPreviewSize call.params
  check
    (size = (-1#32, -1#32) ∨
      isResolutionValid size.1 size.2 (some (call.properties .SUPPORTED_PREVIEW_SIZES)) = false)
    ((Same api stored KEY_PREVIEW_SIZE (sizeText size) ∧
      Same api stored KEY_RECORD_VIDEO_WIDTH (printD (captureSize call size).1) ∧
      Same api stored KEY_RECORD_VIDEO_HEIGHT (printD (captureSize call size).2)) ∧
      size = stored.mVideoSize)

/-- Of `KEY_RECORDING_HINT`, which is `false` if it is not given. -/
def hintCheck : Check Stop :=
  check (∃ v, Given api call KEY_RECORDING_HINT v ∧ v ≠ TRUE ∧ v ≠ FALSE)
    ((∀ v, Given api call KEY_RECORDING_HINT v → Same api stored KEY_RECORDING_HINT v) ∧
      (api.get call.params KEY_RECORDING_HINT = none → Same api stored KEY_RECORDING_HINT FALSE))

/-- Of `KEY_PICTURE_SIZE`. -/
def pictureSizeCheck : Check Stop :=
  let size := api.getPictureSize call.params
  check
    (isResolutionValid size.1 size.2 (some (call.properties .SUPPORTED_PICTURE_SIZES)) = false)
    (Same api stored KEY_PICTURE_SIZE (sizeText size))

/-- Of `KEY_PREVIEW_FRAME_RATE` and `KEY_PREVIEW_FPS_RANGE`: what the camera does not support is
refused in the build mode `CTS`, and a negative range in every one; a missing range is compared. -/
def frameRateCheck : Check Stop where
  stops
    | .badValue => frameRateInvalid api call = true ∧ call.buildMode = "CTS".toList ∨
        ∃ v, Given api call KEY_PREVIEW_FPS_RANGE v ∧ newFrameRate api call v = none
    | .crash => ¬ (frameRateInvalid api call = true ∧ call.buildMode = "CTS".toList) ∧
        api.get call.params KEY_PREVIEW_FPS_RANGE = none
  same := ∀ v rate, Given api call KEY_PREVIEW_FPS_RANGE v → newFrameRate api call v = some rate →
    Same api stored KEY_PREVIEW_FRAME_RATE (printD rate) ∧ Same api stored KEY_PREVIEW_FPS_RANGE v

/-- Of `KEY_ISO`, which is looked at only if the camera supports it. -/
def isoCheck : Check Stop :=
  check
    (call.properties .ISO_SUPPORTED = TRUE ∧ ∃ v, Given api call KEY_ISO v ∧
      isParameterValid (some v) (some (call.properties .SUPPORTED_ISO_VALUES)) = false)
    (call.properties .ISO_SUPPORTED = TRUE → ∀ v, Given api call KEY_ISO v →
      Same api stored KEY_ISO v)

/-- Of `KEY_ZOOM`; a text with a point is passed over. -/
def zoomCheck : Check Stop :=
  let varint := api.getInt call.params KEY_ZOOM
  check
    ((∃ v, Given api call KEY_ZOOM v ∧ '.' ∉ v) ∧
      ((0#32).sle varint && varint.sle call.mMaxZoomSupported) = false)
    (∀ v, Given api call KEY_ZOOM v → '.' ∉ v → Same api stored KEY_ZOOM v)

/-- The checks in their order. -/
def checks : List (Check Stop) :=
  [stabilizationCheck api call stored, formatCheck api call stored,
    previewSizeCheck api call stored, hintCheck api call stored,
    nameCheck api call stored KEY_FOCUS_MODE .SUPPORTED_FOCUS_MODES,
    nameCheck api call stored KEY_PICTURE_FORMAT .SUPPORTED_PICTURE_FORMATS,
    pictureSizeCheck api call stored, frameRateCheck api call stored,
    nameCheck api call stored KEY_WHITE_BALANCE .SUPPORTED_WHITE_BALANCE,
    rangeCheck api call stored KEY_CONTRAST .SUPPORTED_CONTRAST_MIN .SUPPORTED_CONTRAST_MAX,
    rangeCheck api call stored KEY_SATURATION .SUPPORTED_SATURATION_MIN .SUPPORTED_SATURATION_MAX,
    rangeCheck api call stored KEY_BRIGHTNESS .SUPPORTED_BRIGHTNESS_MIN .SUPPORTED_BRIGHTNESS_MAX,
    rangeCheck api call stored KEY_DENOISE .SUPPORTED_DENOISE_MIN .SUPPORTED_DENOISE_MAX,
    nameCheck api call stored KEY_ANTIBANDING .SUPPORTED_ANTIBANDING, isoCheck api call stored,
    plainCheck api call stored KEY_FOCUS_AREAS,
    plainCheck api call stored KEY_EXPOSURE_COMPENSATION,
    nameCheck api call stored KEY_SCENE_MODE .SUPPORTED_SCENE_MODES,
    nameCheck api call stored KEY_FLASH_MODE .SUPPORTED_FLASH_MODES,
    nameCheck api call stored KEY_EFFECT .SUPPORTED_EFFECTS,
    numberCheck api call stored KEY_ROTATION, numberCheck api call stored KEY_JPEG_QUALITY,
    numberCheck api call stored KEY_JPEG_THUMBNAIL_WIDTH,
    numberCheck api call stored KEY_JPEG_THUMBNAIL_HEIGHT,
    numberCheck api call stored KEY_JPEG_THUMBNAIL_QUALITY,
    removableCheck api call stored KEY_GPS_LATITUDE,
    removableCheck api call stored KEY_GPS_LONGITUDE,
    removableCheck api call stored KEY_GPS_ALTITUDE,
    removableCheck api call stored KEY_GPS_TIMESTAMP,
    removableCheck api call stored KEY_GPS_DATESTAMP,
    removableCheck api call stored KEY_GPS_PROCESSING_METHOD,
    removableCheck api call stored KEY_GPS_MAPDATUM,
    removableCheck api call stored KEY_GPS_VERSION, plainCheck api call stored KEY_EXIF_MODEL,
    plainCheck api call stored KEY_EXIF_MAKE, zoomCheck api call stored,
    plainCheck api call stored KEY_AUTO_EXPOSURE_LOCK,
    plainCheck api call stored KEY_AUTO_WHITEBALANCE_LOCK,
    plainCheck api call stored KEY_METERING_AREAS]

/-- The call asks for another preview format or size while the preview runs without a recording. -/
def RestartsPreview : Prop :=
  (call.previewEnabled = true ∧ call.mRecordingEnabled = false) ∧
    ((∃ v, Given api call KEY_PREVIEW_FORMAT v ∧
        api.get stored.mParameters KEY_PREVIEW_FORMAT ≠ some v) ∨
      api.getPreviewSize call.params ≠ api.getPreviewSize stored.mParameters)

/-- The restart of the preview fails, or there is none and the camera adapter refuses. -/
def Fails : Prop :=
  (RestartsPreview api call stored ∧ call.restartPreview ≠ Status.NO_ERROR) ∨
    (¬ RestartsPreview api call stored ∧ call.adapter.getD Status.NO_ERROR ≠ Status.NO_ERROR)

/-- The condition. The checks before the first refusal find what is stored already. And if no check
refuses, but the camera adapter or the restart of the preview fails, the preview size is the video
size already and, unless the camera adapter refuses, every check finds what is stored. -/
structure Harmless : Prop where
  refused : ∀ pre c post, checks api call stored = pre ++ c :: post → (∀ d ∈ pre, d.Goes) →
    c.stops .badValue → ∀ d ∈ pre, d.same
  failed : (∀ c ∈ checks api call stored, c.Goes) → Fails api call stored →
    api.getPreviewSize call.params = stored.mVideoSize ∧
      (call.adapter.getD Status.NO_ERROR = Status.NO_ERROR →
        ∀ c ∈ checks api call stored, c.same)

/-! ### The checks tell what the blocks do -/

/-- An effect leaves the video size. -/
def KeepsVideo (e : Effect) : Prop := ∀ size, e.video = some size → size = stored.mVideoSize

/-- A check tells what a block does. -/
abbrev Tells (b : ParamBlock api) (c : Check Stop) : Prop :=
  Describes (KeepsVideo stored) stored.mParameters b c

variable {api call stored}

/-- No effect leaves the video size. -/
lemma keepsVideo_none : KeepsVideo stored Effect.none := nofun

/-- A write of a text is idle if the text is stored. -/
lemma idle_iff {w : ParamWrite} {value : Text} (h : w.text = some value) :
    api.store.Idle stored.mParameters w ↔ Same api stored w.key value := by
  show api.change w (api.lookup stored.mParameters w.key) =
    api.lookup stored.mParameters w.key ↔ _
  simp only [CameraParameters.change, h, Same]
  split_ifs with hstorable
  · simp [hstorable, eq_comm]
  · simp [hstorable]

/-- So is a removal if there is no text. -/
lemma idle_remove_iff {key : ParamKey} : api.store.Idle stored.mParameters (.remove key) ↔
    api.lookup stored.mParameters key = none := eq_comm

/-- A check that does not refuse does not stop. -/
lemma goes_check {refuses same : Prop} : (check refuses same).Goes ↔ ¬ refuses :=
  ⟨fun h => h .badValue, fun h x => by cases x <;> simp [check, h]⟩

/-- A block that copies, told by a check that does not crash. -/
lemma tells_copy {b : ParamBlock api} {ws : List ParamWrite} {e : Effect} {refuses same : Prop}
    (hbody : b.body stored.mParameters = .copy ws e) (hrefuses : ¬ refuses)
    (hsame : same ↔ (∀ w ∈ ws, api.store.Idle stored.mParameters w) ∧ KeepsVideo stored e) :
    Tells api stored b (check refuses same) := by
  unfold Tells Describes
  rw [hbody]
  exact ⟨goes_check.mpr hrefuses, hsame⟩

/-- A block that refuses, told by such a check. -/
lemma tells_refuse {b : ParamBlock api} {refuses same : Prop}
    (hbody : b.body stored.mParameters = .stop .badValue) (hrefuses : refuses) :
    Tells api stored b (check refuses same) := by
  unfold Tells Describes
  rw [hbody]
  intro y
  cases y <;> simp [check, hrefuses]

/-- The copy of one text. -/
lemma idle_singleton (w : ParamWrite) {value : Text} (h : w.text = some value) :
    ((∀ w' ∈ [w], api.store.Idle stored.mParameters w') ∧ KeepsVideo stored Effect.none) ↔
      Same api stored w.key value := by
  rw [List.forall_mem_singleton, idle_iff h]
  exact and_iff_left keepsVideo_none

/-- No copies. -/
lemma idle_nil {same : Prop} (h : same) :
    same ↔ (∀ w ∈ ([] : List ParamWrite), api.store.Idle stored.mParameters w) ∧
      KeepsVideo stored Effect.none :=
  iff_of_true h ⟨List.forall_mem_nil _, keepsVideo_none⟩

/-- What is given is the text that is given. -/
lemma forall_given {key : ParamKey} {v : Text} (h : api.get call.params key = some v)
    {C : Text → Prop} : (∀ v', Given api call key v' → C v') ↔ C v := by
  constructor
  · exact fun hc => hc v h
  · intro hc v' hv'
    obtain rfl := Option.some.inj (h.symm.trans hv')
    exact hc

/-- What some given text does. -/
lemma exists_given {key : ParamKey} {v : Text} (h : api.get call.params key = some v)
    {C : Text → Prop} : (∃ v', Given api call key v' ∧ C v') ↔ C v := by
  constructor
  · rintro ⟨v', hv', hc⟩
    obtain rfl := Option.some.inj (h.symm.trans hv')
    exact hc
  · exact fun hc => ⟨v, h, hc⟩

/-- What is not given is no text. -/
lemma not_given {key : ParamKey} (h : api.get call.params key = none) (v : Text) :
    ¬ Given api call key v := by
  simp [Given, h]

/-- A name. -/
lemma tells_supportedName (key : ParamKey) (supported : PropertyIndex) :
    Tells api stored (supportedName api call key supported)
      (nameCheck api call stored key supported) := by
  cases hget : api.get call.params key with
  | none =>
    have hbody : (supportedName api call key supported).body stored.mParameters = copy [] := by
      simp only [supportedName, optional, Block.constant, hget]
    refine tells_copy hbody ?_ (idle_nil fun v hv => absurd hv (not_given hget v))
    rintro ⟨v, hv, -⟩
    exact not_given hget v hv
  | some valstr =>
    by_cases hvalid :
        isParameterValid (some valstr) (some (call.properties supported)) = true
    · have hbody : (supportedName api call key supported).body stored.mParameters =
          copy [.set key valstr] := by
        simp only [supportedName, optional, Block.constant, hget, if_pos hvalid]
      refine tells_copy hbody ?_ ?_
      · rw [exists_given hget]
        simp [hvalid]
      · rw [forall_given hget]
        exact (idle_singleton (.set key valstr) rfl).symm
    · have hbody : (supportedName api call key supported).body stored.mParameters = refuse := by
        simp only [supportedName, optional, Block.constant, hget, if_neg hvalid]
      refine tells_refuse hbody ?_
      rw [exists_given hget]
      exact Bool.not_eq_true _ ▸ hvalid

/-- A number between two bounds. -/
lemma tells_ranged (key : ParamKey) (min max : PropertyIndex) :
    Tells api stored (ranged api call key min max) (rangeCheck api call stored key min max) := by
  cases hget : api.get call.params key with
  | none =>
    have hbody : (ranged api call key min max).body stored.mParameters = copy [] := by
      simp only [ranged, optional, Block.constant, hget]
    exact tells_copy hbody id (idle_nil fun v hv => absurd hv (not_given hget v))
  | some valstr =>
    by_cases hrange : ((atoi (call.properties min)).sle (atoi valstr) &&
        (atoi valstr).sle (atoi (call.properties max))) = true
    · have hbody : (ranged api call key min max).body stored.mParameters =
          copy [.set key valstr] := by
        simp only [ranged, optional, Block.constant, hget, if_pos hrange]
      refine tells_copy hbody id ?_
      obtain ⟨hmin, hmax⟩ := Bool.and_eq_true_iff.mp hrange
      rw [forall_given hget, idle_singleton (.set key valstr) rfl]
      exact ⟨fun h => h hmin hmax, fun h _ _ => h⟩
    · have hbody : (ranged api call key min max).body stored.mParameters = copy [] := by
        simp only [ranged, optional, Block.constant, hget, if_neg hrange]
      refine tells_copy hbody id (idle_nil ?_)
      rw [forall_given hget]
      exact fun hmin hmax => absurd (Bool.and_eq_true_iff.mpr ⟨hmin, hmax⟩) hrange

/-- A key that is copied as it is. -/
lemma tells_plain (key : ParamKey) :
    Tells api stored (plain api call key) (plainCheck api call stored key) := by
  cases hget : api.get call.params key with
  | none =>
    have hbody : (plain api call key).body stored.mParameters = copy [] := by
      simp only [plain, optional, Block.constant, hget]
    exact tells_copy hbody id (idle_nil fun v hv => absurd hv (not_given hget v))
  | some valstr =>
    have hbody : (plain api call key).body stored.mParameters = copy [.set key valstr] := by
      simp only [plain, optional, Block.constant, hget, if_true]
    refine tells_copy hbody id ?_
    rw [forall_given hget]
    exact (idle_singleton (.set key valstr) rfl).symm

/-- A number that is not negative. -/
lemma tells_nonNegative (key : ParamKey) :
    Tells api stored (nonNegative api call key) (numberCheck api call stored key) := by
  by_cases hsign : (0#32).sle (api.getInt call.params key) = true
  · have hbody : (nonNegative api call key).body stored.mParameters =
        copy [.setInt key (api.getInt call.params key)] := by
      simp only [nonNegative, Block.constant, if_pos hsign]
    refine tells_copy hbody id ?_
    rw [idle_singleton (.setInt key (api.getInt call.params key)) rfl]
    exact ⟨fun h => h hsign, fun h _ => h⟩
  · have hbody : (nonNegative api call key).body stored.mParameters = copy [] := by
      simp only [nonNegative, Block.constant, if_neg hsign]
    exact tells_copy hbody id (idle_nil fun h => absurd h hsign)

/-- A key that is removed if it is not given. -/
lemma tells_copyOrRemove (key : ParamKey) :
    Tells api stored (copyOrRemove api call key) (removableCheck api call stored key) := by
  cases hget : api.get call.params key with
  | none =>
    have hbody : (copyOrRemove api call key).body stored.mParameters = copy [.remove key] := by
      simp only [copyOrRemove, Block.constant, hget]
    refine tells_copy hbody id ?_
    rw [List.forall_mem_singleton, idle_remove_iff, and_iff_left keepsVideo_none]
    exact ⟨fun h => h.2 hget, fun h => ⟨fun v hv => absurd hv (not_given hget v), fun _ => h⟩⟩
  | some valstr =>
    have hbody : (copyOrRemove api call key).body stored.mParameters =
        copy [.set key valstr] := by
      simp only [copyOrRemove, Block.constant, hget]
    refine tells_copy hbody id ?_
    rw [forall_given hget, idle_singleton (.set key valstr) rfl]
    exact and_iff_left fun hnone => absurd (hget.symm.trans hnone) (Option.some_ne_none _)

/-- `KEY_VIDEO_STABILIZATION`. -/
lemma tells_videoStabilization :
    Tells api stored (videoStabilization api call) (stabilizationCheck api call stored) := by
  cases henabled : call.previewEnabled with
  | true =>
    have hbody : (videoStabilization api call).body stored.mParameters = copy [] := by
      simp only [videoStabilization, Block.constant, henabled, if_true]
    exact tells_copy hbody (fun h => absurd (henabled.symm.trans h.1) (by decide))
      (idle_nil fun h => absurd (henabled.symm.trans h) (by decide))
  | false =>
    cases hget : api.get call.params KEY_VIDEO_STABILIZATION with
    | none =>
      have hbody : (videoStabilization api call).body stored.mParameters = copy [] := by
        simp only [videoStabilization, Block.constant, henabled, hget, Bool.false_eq_true, if_false]
      exact tells_copy hbody (fun h => not_given hget TRUE h.2.2)
        (idle_nil fun _ v hv => absurd hv (not_given hget v))
    | some valstr =>
      have hsame : (call.previewEnabled = false → ∀ v, Given api call KEY_VIDEO_STABILIZATION v →
          Same api stored KEY_VIDEO_STABILIZATION
            (if call.properties .VSTAB_SUPPORTED = TRUE then v else FALSE)) ↔
          Same api stored KEY_VIDEO_STABILIZATION
            (if call.properties .VSTAB_SUPPORTED = TRUE then valstr else FALSE) := by
        rw [forall_given hget]
        exact ⟨fun h => h henabled, fun h _ => h⟩
      by_cases hsupported : call.properties .VSTAB_SUPPORTED = TRUE
      · have hbody : (videoStabilization api call).body stored.mParameters =
            copy [.set KEY_VIDEO_STABILIZATION valstr] := by
          simp only [videoStabilization, Block.constant, henabled, hget, Bool.false_eq_true,
            if_false, if_pos hsupported]
        refine tells_copy hbody (fun h => h.2.1 hsupported) ?_
        rw [hsame, if_pos hsupported]
        exact (idle_singleton (.set KEY_VIDEO_STABILIZATION valstr) rfl).symm
      · by_cases htrue : valstr = TRUE
        · have hbody : (videoStabilization api call).body stored.mParameters = refuse := by
            simp only [videoStabilization, Block.constant, henabled, hget, Bool.false_eq_true,
              if_false, if_neg hsupported, if_pos htrue]
          exact tells_refuse hbody ⟨henabled, hsupported, htrue ▸ hget⟩
        · have hbody : (videoStabilization api call).body stored.mParameters =
              copy [.set KEY_VIDEO_STABILIZATION FALSE] := by
            simp only [videoStabilization, Block.constant, henabled, hget, Bool.false_eq_true,
              if_false, if_neg hsupported, if_neg htrue]
          refine tells_copy hbody (fun h => htrue (Option.some.inj (hget.symm.trans h.2.2))) ?_
          rw [hsame, if_neg hsupported]
          exact (idle_singleton (.set KEY_VIDEO_STABILIZATION FALSE) rfl).symm

/-- `KEY_PREVIEW_FORMAT`. -/
lemma tells_previewFormat :
    Tells api stored (previewFormat api call) (formatCheck api call stored) := by
  unfold Tells Describes
  cases hget : api.get call.params KEY_PREVIEW_FORMAT with
  | none =>
    have hbody : (previewFormat api call).body stored.mParameters = copy [] := by
      simp only [previewFormat, hget]
    rw [hbody]
    refine ⟨fun x => ?_, idle_nil fun v hv => absurd hv (not_given hget v)⟩
    cases x <;> simp [formatCheck, Given, hget]
  | some valstr =>
    by_cases hvalid :
        isParameterValid (some valstr) (some (call.properties .SUPPORTED_PREVIEW_FORMATS)) = true
    · cases hold : api.get stored.mParameters KEY_PREVIEW_FORMAT with
      | none =>
        have hbody : (previewFormat api call).body stored.mParameters = .stop .crash := by
          simp only [previewFormat, hget, hvalid, if_true, hold]
        rw [hbody]
        intro y
        cases y <;> simp [formatCheck, Given, hget, hvalid, hold]
      | some old_format =>
        have hgoes : (formatCheck api call stored).Goes := by
          intro x
          cases x <;> simp [formatCheck, Given, hget, hvalid, hold]
        have hsame : (formatCheck api call stored).same ↔ old_format = valstr ∨
            Same api stored KEY_PREVIEW_FORMAT valstr ∧
              Same api stored KEY_VIDEO_FRAME_FORMAT valstr := by
          simp only [formatCheck]
          rw [forall_given hget, hold, Option.some_inj]
        by_cases hnew : old_format ≠ valstr
        · have hbody : (previewFormat api call).body stored.mParameters = .copy
              [.set KEY_PREVIEW_FORMAT valstr, .set KEY_VIDEO_FRAME_FORMAT valstr]
              ⟨none, true⟩ := by
            simp only [previewFormat, hget, hvalid, if_true, hold, if_pos hnew]
          rw [hbody]
          refine ⟨hgoes, hsame.trans ?_⟩
          rw [List.forall_mem_cons, List.forall_mem_singleton, idle_iff rfl, idle_iff rfl,
            or_iff_right hnew]
          exact (and_iff_left fun v hv => absurd hv (Option.some_ne_none v).symm).symm
        · have hbody : (previewFormat api call).body stored.mParameters = copy [] := by
            simp only [previewFormat, hget, hvalid, if_true, hold, if_neg hnew]
          rw [hbody]
          exact ⟨hgoes, idle_nil (hsame.mpr (Or.inl (not_not.mp hnew)))⟩
    · have hbody : (previewFormat api call).body stored.mParameters = refuse := by
        simp only [previewFormat, hget, if_neg hvalid]
      rw [hbody]
      intro y
      cases y <;> simp [formatCheck, Given, hget, hvalid]

/-- `KEY_PREVIEW_SIZE`. -/
lemma tells_previewSize :
    Tells api stored (previewSize api call) (previewSizeCheck api call stored) := by
  by_cases hmissing : api.getPreviewSize call.params = (-1#32, -1#32)
  · have hbody : (previewSize api call).body stored.mParameters = refuse := by
      simp only [previewSize, if_pos hmissing]
    exact tells_refuse hbody (Or.inl hmissing)
  · cases hvalid : isResolutionValid (api.getPreviewSize call.params).1
      (api.getPreviewSize call.params).2 (some (call.properties .SUPPORTED_PREVIEW_SIZES)) with
    | false =>
      have hbody : (previewSize api call).body stored.mParameters = refuse := by
        simp only [previewSize, if_neg hmissing, hvalid, Bool.not_false, if_true]
      exact tells_refuse hbody (Or.inr hvalid)
    | true =>
      have hbody : (previewSize api call).body stored.mParameters = .copy
          [.setPreviewSize (api.getPreviewSize call.params),
            .setInt KEY_RECORD_VIDEO_WIDTH
              (captureSize call (api.getPreviewSize call.params)).1,
            .setInt KEY_RECORD_VIDEO_HEIGHT
              (captureSize call (api.getPreviewSize call.params)).2]
          ⟨some (api.getPreviewSize call.params), decide
            (api.getPreviewSize stored.mParameters ≠ api.getPreviewSize call.params)⟩ := by
        simp only [previewSize, if_neg hmissing, hvalid, Bool.not_true, Bool.false_eq_true,
          if_false]
        rfl
      refine tells_copy hbody (fun h => h.elim hmissing fun h => ?_) (and_congr ?_ ?_)
      · exact absurd (hvalid.symm.trans h) (by decide)
      · rw [List.forall_mem_cons, List.forall_mem_cons, List.forall_mem_singleton, idle_iff rfl,
          idle_iff rfl, idle_iff rfl]
        rfl
      · constructor
        · intro h size hsize
          exact Option.some.inj hsize ▸ h
        · exact fun h => h _ rfl

/-- `KEY_RECORDING_HINT`. -/
lemma tells_recordingHint :
    Tells api stored (recordingHint api call) (hintCheck api call stored) := by
  cases hget : api.get call.params KEY_RECORDING_HINT with
  | none =>
    have hbody : (recordingHint api call).body stored.mParameters =
        copy [.set KEY_RECORDING_HINT FALSE] := by
      simp only [recordingHint, Block.constant, hget]
    refine tells_copy hbody ?_ ?_
    · rintro ⟨v, hv, -⟩
      exact not_given hget v hv
    · rw [idle_singleton (.set KEY_RECORDING_HINT FALSE) rfl]
      exact ⟨fun h => h.2 hget, fun h => ⟨fun v hv => absurd hv (not_given hget v), fun _ => h⟩⟩
  | some valstr =>
    by_cases hhint : valstr = TRUE ∨ valstr = FALSE
    · have hbody : (recordingHint api call).body stored.mParameters =
          copy [.set KEY_RECORDING_HINT valstr] := by
        simp only [recordingHint, Block.constant, hget, if_pos hhint]
      refine tells_copy hbody ?_ ?_
      · rw [exists_given hget]
        exact fun h => hhint.elim h.1 h.2
      · rw [forall_given hget, idle_singleton (.set KEY_RECORDING_HINT valstr) rfl]
        exact and_iff_left fun hnone => absurd (hget.symm.trans hnone) (Option.some_ne_none _)
    · have hbody : (recordingHint api call).body stored.mParameters = refuse := by
        simp only [recordingHint, Block.constant, hget, if_neg hhint]
      refine tells_refuse hbody ?_
      rw [exists_given hget]
      exact not_or.mp hhint

/-- `KEY_PICTURE_SIZE`. -/
lemma tells_pictureSize :
    Tells api stored (pictureSize api call) (pictureSizeCheck api call stored) := by
  cases hvalid : isResolutionValid (api.getPictureSize call.params).1
      (api.getPictureSize call.params).2 (some (call.properties .SUPPORTED_PICTURE_SIZES)) with
  | false =>
    have hbody : (pictureSize api call).body stored.mParameters = refuse := by
      simp only [pictureSize, Block.constant, hvalid, Bool.false_eq_true, if_false]
    exact tells_refuse hbody hvalid
  | true =>
    have hbody : (pictureSize api call).body stored.mParameters =
        copy [.setPictureSize (api.getPictureSize call.params)] := by
      simp only [pictureSize, Block.constant, hvalid, if_true]
    refine tells_copy hbody (fun h => absurd (hvalid.symm.trans h) (by decide)) ?_
    exact (idle_singleton (.setPictureSize _) rfl).symm

/-- `KEY_PREVIEW_FRAME_RATE` and `KEY_PREVIEW_FPS_RANGE`. -/
lemma tells_frameRate :
    Tells api stored (frameRate api call) (frameRateCheck api call stored) := by
  unfold Tells Describes
  by_cases hcts : frameRateInvalid api call = true ∧ call.buildMode = "CTS".toList
  · have hbody : (frameRate api call).body stored.mParameters = refuse := by
      simp only [frameRate, Block.constant, Bool.and_eq_true, decide_eq_true_eq, if_pos hcts]
    rw [hbody]
    intro y
    cases y <;> simp [frameRateCheck, hcts]
  · cases hget : api.get call.params KEY_PREVIEW_FPS_RANGE with
    | none =>
      have hbody : (frameRate api call).body stored.mParameters = .stop .crash := by
        simp only [frameRate, Block.constant, Bool.and_eq_true, decide_eq_true_eq, if_neg hcts,
          hget]
      rw [hbody]
      intro y
      cases y with
      | badValue =>
        refine iff_of_false ?_ (by decide)
        rintro (h | ⟨v, hv, -⟩)
        · exact hcts h
        · exact not_given hget v hv
      | crash => exact iff_of_true ⟨hcts, hget⟩ rfl
    | some valstr =>
      cases hrate : newFrameRate api call valstr with
      | none =>
        have hbody : (frameRate api call).body stored.mParameters = refuse := by
          simp only [frameRate, Block.constant, Bool.and_eq_true, decide_eq_true_eq, if_neg hcts,
            hget, hrate]
        rw [hbody]
        intro y
        cases y <;> simp [frameRateCheck, Given, hget, hrate]
      | some framerate =>
        have hbody : (frameRate api call).body stored.mParameters =
            copy [.setInt KEY_PREVIEW_FRAME_RATE framerate, .set KEY_PREVIEW_FPS_RANGE valstr] := by
          simp only [frameRate, Block.constant, Bool.and_eq_true, decide_eq_true_eq, if_neg hcts,
            hget, hrate]
        rw [hbody]
        refine ⟨fun x => ?_, ?_⟩
        · cases x with
          | badValue =>
            rintro (h | ⟨v, hv, hnone⟩)
            · exact hcts h
            · obtain rfl := Option.some.inj (hget.symm.trans hv)
              exact absurd (hrate.symm.trans hnone) (Option.some_ne_none _)
          | crash => exact fun h => absurd (hget.symm.trans h.2) (Option.some_ne_none _)
        · rw [List.forall_mem_cons, List.forall_mem_singleton, idle_iff rfl, idle_iff rfl,
            and_iff_left keepsVideo_none]
          simp only [frameRateCheck]
          constructor
          · exact fun h => h valstr framerate hget hrate
          · intro h v rate hv hrate'
            obtain rfl := Option.some.inj (hget.symm.trans hv)
            obtain rfl := Option.some.inj (hrate.symm.trans hrate')
            exact h

/-- `KEY_ISO`. -/
lemma tells_iso : Tells api stored (iso api call) (isoCheck api call stored) := by
  by_cases hsupported : call.properties .ISO_SUPPORTED = TRUE
  · have hbody : (iso api call).body stored.mParameters =
        (supportedName api call KEY_ISO .SUPPORTED_ISO_VALUES).body stored.mParameters := by
      simp only [iso, Block.constant, if_pos hsupported]
      rfl
    have hcheck : isoCheck api call stored =
        nameCheck api call stored KEY_ISO .SUPPORTED_ISO_VALUES := by
      simp only [isoCheck, nameCheck, hsupported, true_and, true_implies]
    unfold Tells Describes
    rw [hbody, hcheck]
    exact tells_supportedName KEY_ISO .SUPPORTED_ISO_VALUES
  · have hbody : (iso api call).body stored.mParameters = copy [] := by
      simp only [iso, Block.constant, if_neg hsupported]
    exact tells_copy hbody (fun h => hsupported h.1) (idle_nil fun h => absurd h hsupported)

/-- `KEY_ZOOM`. -/
lemma tells_zoom : Tells api stored (zoom api call) (zoomCheck api call stored) := by
  cases hget : api.get call.params KEY_ZOOM with
  | none =>
    have hbody : (zoom api call).body stored.mParameters = copy [] := by
      simp only [zoom, Block.constant, hget]
    refine tells_copy hbody ?_ (idle_nil fun v hv => absurd hv (not_given hget v))
    rintro ⟨⟨v, hv, -⟩, -⟩
    exact not_given hget v hv
  | some valstr =>
    by_cases hpoint : '.' ∈ valstr
    · have hbody : (zoom api call).body stored.mParameters = copy [] := by
        simp only [zoom, Block.constant, hget, if_pos hpoint]
      refine tells_copy hbody ?_ (idle_nil ?_)
      · rw [exists_given hget]
        exact fun h => h.1 hpoint
      · rw [forall_given hget]
        exact fun h => absurd hpoint h
    · cases hrange : ((0#32).sle (api.getInt call.params KEY_ZOOM) &&
          (api.getInt call.params KEY_ZOOM).sle call.mMaxZoomSupported) with
      | false =>
        have hbody : (zoom api call).body stored.mParameters = refuse := by
          simp only [zoom, Block.constant, hget, if_neg hpoint, hrange, Bool.false_eq_true,
            if_false]
        refine tells_refuse hbody ⟨?_, hrange⟩
        rw [exists_given hget]
        exact hpoint
      | true =>
        have hbody : (zoom api call).body stored.mParameters = copy [.set KEY_ZOOM valstr] := by
          simp only [zoom, Block.constant, hget, if_neg hpoint, hrange, if_true]
        refine tells_copy hbody (fun h => absurd (hrange.symm.trans h.2) (by decide)) ?_
        rw [forall_given hget, idle_singleton (.set KEY_ZOOM valstr) rfl]
        exact ⟨fun h => h hpoint, fun h _ => h⟩

/-- **The checks tell what the blocks do.** -/
theorem describes_blocks :
    List.Forall₂ (Tells api stored) (blocks api call) (checks api call stored) := by
  unfold blocks checks
  repeat' apply List.Forall₂.cons
  all_goals first
    | exact tells_plain _
    | exact tells_supportedName _ _
    | exact tells_ranged _ _ _
    | exact tells_nonNegative _
    | exact tells_copyOrRemove _
    | skip
  · exact tells_videoStabilization
  · exact tells_previewFormat
  · exact tells_previewSize
  · exact tells_recordingHint
  · exact tells_pictureSize
  · exact tells_frameRate
  · exact tells_iso
  · exact tells_zoom
  · exact List.Forall₂.nil

/-! ### Effects beside the parameters -/

/-- The block has no effect. -/
def Silent (b : ParamBlock api) : Prop := ∀ p ws e, b.body p = .copy ws e → e = Effect.none

/-- A block that does not read the store has no effect if its verdict has none. -/
lemma silent_constant {keys : List ParamKey} {v : Verdict ParamWrite Effect Stop}
    {h : v.WritesIn api.store.key keys} (hv : ∀ ws e, v = .copy ws e → e = Effect.none) :
    Silent (Block.constant keys v h : ParamBlock api) :=
  fun _ => hv

/-- Nor has one that copies a key if it is given. -/
lemma silent_optional {key : ParamKey} {check : Text → Bool}
    {otherwise : Verdict ParamWrite Effect Stop} {h : otherwise.WritesIn ParamWrite.key [key]}
    (ho : ∀ ws e, otherwise = .copy ws e → e = Effect.none) :
    Silent (optional api call key check otherwise h) := by
  refine silent_constant fun ws e hv => ?_
  split at hv
  · cases hv
    rfl
  · split at hv
    · cases hv
      rfl
    · exact ho ws e hv

/-- A refusal has no effect. -/
lemma silent_refuse (ws : List ParamWrite) (e : Effect) (h : refuse = .copy ws e) :
    e = Effect.none := by
  cases h

/-- Copying nothing has no effect. -/
lemma silent_copy_nil (ws : List ParamWrite) (e : Effect) (h : copy [] = .copy ws e) :
    e = Effect.none := by
  cases h
  rfl

/-- Copying one text has no effect. -/
lemma silent_copy (w : ParamWrite) (ws : List ParamWrite) (e : Effect)
    (h : copy [w] = .copy ws e) : e = Effect.none := by
  cases h
  rfl

/-- A choice between two verdicts without an effect. -/
lemma silent_ite {c : Prop} [Decidable c] {v v' : Verdict ParamWrite Effect Stop}
    (hv : ∀ ws e, v = .copy ws e → e = Effect.none)
    (hv' : ∀ ws e, v' = .copy ws e → e = Effect.none) :
    ∀ ws e, (if c then v else v') = .copy ws e → e = Effect.none := by
  split_ifs
  · exact hv
  · exact hv'

/-- A name. -/
lemma silent_supportedName (key : ParamKey) (supported : PropertyIndex) :
    Silent (supportedName api call key supported) := silent_optional silent_refuse

/-- The recording hint. -/
lemma silent_recordingHint : Silent (recordingHint api call) := by
  refine silent_constant ?_
  cases api.get call.params KEY_RECORDING_HINT with
  | none => exact silent_copy _
  | some valstr => exact silent_ite (silent_copy _) silent_refuse

/-- The frame rate and the range. -/
lemma silent_frameRate : Silent (frameRate api call) := by
  refine silent_constant (silent_ite silent_refuse ?_)
  cases api.get call.params KEY_PREVIEW_FPS_RANGE with
  | none => exact fun ws e h => by cases h
  | some valstr =>
    dsimp only
    cases newFrameRate api call valstr with
    | none => exact silent_refuse
    | some framerate =>
      intro ws e h
      cases h
      rfl

/-- The ISO value. -/
lemma silent_iso : Silent (iso api call) :=
  silent_constant (silent_ite
    (silent_supportedName KEY_ISO .SUPPORTED_ISO_VALUES call.params) silent_copy_nil)

/-- The zoom. -/
lemma silent_zoom : Silent (zoom api call) := by
  refine silent_constant ?_
  cases api.get call.params KEY_ZOOM with
  | none => exact silent_copy_nil
  | some valstr => exact silent_ite silent_copy_nil (silent_ite (silent_copy _) silent_refuse)

/-- A key that is removed if it is not given. -/
lemma silent_copyOrRemove (key : ParamKey) : Silent (copyOrRemove api call key) := by
  refine silent_constant ?_
  cases api.get call.params key with
  | none => exact silent_copy _
  | some valstr => exact silent_copy _

/-- The video stabilization. -/
lemma silent_videoStabilization : Silent (videoStabilization api call) := by
  refine silent_constant (silent_ite silent_copy_nil ?_)
  cases api.get call.params KEY_VIDEO_STABILIZATION with
  | none => exact silent_copy_nil
  | some valstr => exact silent_ite (silent_copy _) (silent_ite silent_refuse (silent_copy _))

/-- The blocks after those of the preview's format and size are silent. -/
lemma silent_blocks : ∀ b ∈ (blocks api call).drop 3, Silent b := by
  unfold blocks
  simp only [List.drop_succ_cons, List.drop_zero, List.forall_mem_cons]
  repeat' apply And.intro
  all_goals first
    | exact silent_supportedName _ _
    | exact silent_optional silent_copy_nil
    | exact silent_constant (silent_ite (silent_copy _) silent_copy_nil)
    | exact silent_constant (silent_ite (silent_copy _) silent_refuse)
    | exact silent_copyOrRemove _
    | skip
  · exact silent_recordingHint
  · exact silent_frameRate
  · exact silent_iso
  · exact silent_zoom
  · exact List.forall_mem_nil _

/-- Silent blocks have no effects. -/
lemma effects_of_silent {bs : List (ParamBlock api)} (h : ∀ b ∈ bs, Silent b) (p : P) :
    ∀ e ∈ (survey bs p).effects, e = Effect.none := by
  induction bs with
  | nil => exact List.forall_mem_nil _
  | cons b bs ih =>
    obtain ⟨hb, hbs⟩ := List.forall_mem_cons.mp h
    cases hbody : b.body p with
    | stop x =>
      simp only [survey, hbody]
      exact List.forall_mem_nil _
    | copy ws e =>
      simp only [survey, hbody]
      exact List.forall_mem_cons.mpr ⟨hb p ws e hbody, ih hbs⟩

/-- What is done to the video size by an effect and by some that do nothing. -/
lemma videoSize_cons {e : Effect} {es : List Effect} (h : ∀ e ∈ es, e = Effect.none)
    (old : Size) : videoSize old (e :: es) = e.video.getD old := by
  unfold videoSize
  rw [List.foldl_cons]
  induction es with
  | nil => rfl
  | cons e' es ih =>
    obtain ⟨rfl, hes⟩ := List.forall_mem_cons.mp h
    exact ih hes

/-- The effects of a survey, and whether it stops. -/
lemma survey_cons_eq (b : ParamBlock api) (bs : List (ParamBlock api)) (p : P) :
    (survey (b :: bs) p).effects =
        (match b.body p with
          | .stop _ => []
          | .copy _ e => e :: (survey bs p).effects) ∧
      (survey (b :: bs) p).stopped =
        match b.body p with
        | .stop x => some x
        | .copy _ _ => (survey bs p).stopped := by
  cases hbody : b.body p <;> simp only [survey, hbody, and_self]

/-- A new preview format asks for a restart. -/
lemma effect_previewFormat {p : P} {ws : List ParamWrite} {e : Effect}
    (h : (previewFormat api call).body p = .copy ws e) :
    e.video = none ∧ (e.restartPreviewRequired = true ↔
      ∃ v, Given api call KEY_PREVIEW_FORMAT v ∧ api.get p KEY_PREVIEW_FORMAT ≠ some v) := by
  cases hget : api.get call.params KEY_PREVIEW_FORMAT with
  | none =>
    simp only [previewFormat, hget] at h
    cases h
    exact ⟨rfl, by simp [Effect.none, Given, hget]⟩
  | some valstr =>
    rw [exists_given hget]
    simp only [previewFormat, hget] at h
    split_ifs at h
    split at h
    · cases h
    · rename_i old_format hold
      split_ifs at h with hnew
      · cases h
        exact ⟨rfl, by simpa [hold] using hnew⟩
      · cases h
        exact ⟨rfl, by simpa [hold, Effect.none] using hnew⟩

/-- So does a new preview size. -/
lemma effect_previewSize {p : P} {ws : List ParamWrite} {e : Effect}
    (h : (previewSize api call).body p = .copy ws e) :
    e = ⟨some (api.getPreviewSize call.params),
      decide (api.getPreviewSize p ≠ api.getPreviewSize call.params)⟩ := by
  simp only [previewSize] at h
  split_ifs at h
  cases h
  rfl

/-- The blocks of the preview's format and size, and the others. -/
lemma blocks_eq : blocks api call = videoStabilization api call :: previewFormat api call ::
    previewSize api call :: (blocks api call).drop 3 := rfl

/-- The video size after a survey is the one that is stored exactly if every effect leaves it. -/
lemma videoSize_iff :
    videoSize stored.mVideoSize (survey (blocks api call) stored.mParameters).effects =
        stored.mVideoSize ↔
      ∀ e ∈ (survey (blocks api call) stored.mParameters).effects, KeepsVideo stored e := by
  -- effects that set no video size may stand before the others
  have hskip : ∀ (e : Effect) es, e.video = none →
      (videoSize stored.mVideoSize es = stored.mVideoSize ↔ ∀ e' ∈ es, KeepsVideo stored e') →
      (videoSize stored.mVideoSize (e :: es) = stored.mVideoSize ↔
        ∀ e' ∈ e :: es, KeepsVideo stored e') := by
    intro e es hvideo hes
    have hkeeps : KeepsVideo stored e := fun size hsize => by
      rw [hvideo] at hsize
      cases hsize
    rw [List.forall_mem_cons, and_iff_right hkeeps, ← hes]
    simp only [videoSize, List.foldl_cons, hvideo, Option.getD_none]
  have hnil : videoSize stored.mVideoSize [] = stored.mVideoSize ↔
      ∀ e ∈ ([] : List Effect), KeepsVideo stored e := by
    simp [videoSize]
  have hrest := effects_of_silent (@silent_blocks P api call) stored.mParameters
  rw [blocks_eq]
  simp only [survey_cons_eq]
  cases hvs : (videoStabilization api call).body stored.mParameters with
  | stop x => exact hnil
  | copy ws e =>
    refine hskip e _ ?_ ?_
    · rw [silent_videoStabilization _ ws e hvs]
      rfl
    · cases hpf : (previewFormat api call).body stored.mParameters with
      | stop x => exact hnil
      | copy ws e =>
        refine hskip e _ (effect_previewFormat hpf).1 ?_
        cases hps : (previewSize api call).body stored.mParameters with
        | stop x => exact hnil
        | copy ws e =>
          have he := effect_previewSize hps
          simp only [videoSize_cons hrest]
          rw [List.forall_mem_cons, he]
          simp only [Option.getD_some, KeepsVideo]
          constructor
          · intro h
            refine ⟨fun size hsize => ?_, fun e' he' size hsize => ?_⟩
            · exact Option.some.inj hsize ▸ h
            · rw [hrest e' he'] at hsize
              cases hsize
          · exact fun h => h.1 _ rfl

/-- **When the preview is to be restarted.** If no block stops, the effects ask for a restart
exactly if the call has another preview format or another preview size. -/
theorem restart_iff (hs : (survey (blocks api call) stored.mParameters).stopped = none) :
    ((survey (blocks api call) stored.mParameters).effects.any
        Effect.restartPreviewRequired && call.previewEnabled && !call.mRecordingEnabled) = true ↔
      RestartsPreview api call stored := by
  have hrest : ((survey ((blocks api call).drop 3) stored.mParameters).effects.any
      Effect.restartPreviewRequired) = false := by
    refine List.any_eq_false.mpr fun e he => ?_
    rw [effects_of_silent (@silent_blocks P api call) stored.mParameters e he]
    decide
  have hany : (survey (blocks api call) stored.mParameters).effects.any
        Effect.restartPreviewRequired = true ↔
      (∃ v, Given api call KEY_PREVIEW_FORMAT v ∧
          api.get stored.mParameters KEY_PREVIEW_FORMAT ≠ some v) ∨
        api.getPreviewSize call.params ≠ api.getPreviewSize stored.mParameters := by
    rw [blocks_eq] at hs ⊢
    simp only [survey_cons_eq] at hs ⊢
    cases hvs : (videoStabilization api call).body stored.mParameters with
    | stop x => simp [hvs] at hs
    | copy ws e =>
      cases hpf : (previewFormat api call).body stored.mParameters with
      | stop x => simp [hvs, hpf] at hs
      | copy ws' e' =>
        cases hps : (previewSize api call).body stored.mParameters with
        | stop x => simp [hvs, hpf, hps] at hs
        | copy ws'' e'' =>
          simp only [List.any_cons, hrest, Bool.or_false, Bool.or_eq_true]
          rw [silent_videoStabilization _ ws e hvs, (effect_previewFormat hpf).2,
            effect_previewSize hps, or_iff_right (by decide), decide_eq_true_iff]
          exact or_congr Iff.rfl ne_comm
  rw [Bool.and_eq_true, Bool.and_eq_true, hany, Bool.not_eq_true', and_assoc, and_comm]
  exact Iff.rfl

/-- If no block stops, the effects leave the video size exactly if it is the preview size. -/
lemma keepsVideo_iff (hs : (survey (blocks api call) stored.mParameters).stopped = none) :
    (∀ e ∈ (survey (blocks api call) stored.mParameters).effects, KeepsVideo stored e) ↔
      api.getPreviewSize call.params = stored.mVideoSize := by
  have hrest := effects_of_silent (@silent_blocks P api call) stored.mParameters
  have hsilent : ∀ e ∈ (survey ((blocks api call).drop 3) stored.mParameters).effects,
      KeepsVideo stored e := fun e he => hrest e he ▸ keepsVideo_none
  rw [blocks_eq] at hs ⊢
  simp only [survey_cons_eq] at hs ⊢
  cases hvs : (videoStabilization api call).body stored.mParameters with
  | stop x => simp [hvs] at hs
  | copy ws e =>
    cases hpf : (previewFormat api call).body stored.mParameters with
    | stop x => simp [hvs, hpf] at hs
    | copy ws' e' =>
      cases hps : (previewSize api call).body stored.mParameters with
      | stop x => simp [hvs, hpf, hps] at hs
      | copy ws'' e'' =>
        have hvideo := (effect_previewFormat hpf).1
        simp only [List.forall_mem_cons]
        rw [silent_videoStabilization _ ws e hvs, effect_previewSize hps,
          and_iff_right keepsVideo_none, and_iff_left hsilent]
        simp [KeepsVideo, hvideo]

/-- What `setParameters` returns if no block stops it. -/
lemma lastStatus_iff (hs : (survey (blocks api call) stored.mParameters).stopped = none) :
    lastStatus call (survey (blocks api call) stored.mParameters).effects ≠ Status.NO_ERROR ↔
      Fails api call stored := by
  unfold lastStatus Fails
  by_cases hrestart : RestartsPreview api call stored
  · rw [if_pos ((restart_iff hs).mpr hrestart)]
    simp [hrestart]
  · rw [if_neg fun h => hrestart ((restart_iff hs).mp h)]
    simp [hrestart]

/-! ### The condition is exact -/

variable (api call)

/-- A refusal in the middle. -/
lemma atomic_iff_of_badValue {stored : Stored P}
    (hs : (survey (blocks api call) stored.mParameters).stopped = some .badValue) :
    Atomic api call stored ↔
      (∀ w ∈ (survey (blocks api call) stored.mParameters).state,
        api.store.Idle stored.mParameters w) ∧
      videoSize stored.mVideoSize (survey (blocks api call) stored.mParameters).effects =
        stored.mVideoSize := by
  have hrun := run_eq_survey (independent_blocks api call) stored.mParameters
  have hidle := api.store.applyAll_eq_self_iff stored.mParameters
    ((nodup_keys_blocks api call).sublist (survey_keys_sublist _ stored.mParameters))
  rw [← hidle]
  have hcall : setParameters api call stored = some (Status.BAD_VALUE,
      ⟨api.store.applyAll stored.mParameters
        (survey (blocks api call) stored.mParameters).state,
        videoSize stored.mVideoSize (survey (blocks api call) stored.mParameters).effects⟩) := by
    unfold setParameters
    rw [hrun, hs]
  constructor
  · intro hatomic
    have heq := hatomic _ _ hcall (by decide)
    exact ⟨congrArg Stored.mParameters heq, congrArg Stored.mVideoSize heq⟩
  · rintro ⟨hparams, hvideo⟩ status stored' hreturn -
    rw [hcall, hparams, hvideo] at hreturn
    cases hreturn
    rfl

/-- No refusal in the middle. -/
lemma atomic_iff_of_none {stored : Stored P}
    (hs : (survey (blocks api call) stored.mParameters).stopped = none) :
    Atomic api call stored ↔
      lastStatus call (survey (blocks api call) stored.mParameters).effects = Status.NO_ERROR ∨
      videoSize stored.mVideoSize (survey (blocks api call) stored.mParameters).effects =
        stored.mVideoSize ∧
      (call.adapter.getD Status.NO_ERROR = Status.NO_ERROR →
        ∀ w ∈ (survey (blocks api call) stored.mParameters).state,
          api.store.Idle stored.mParameters w) := by
  have hrun := run_eq_survey (independent_blocks api call) stored.mParameters
  have hidle := api.store.applyAll_eq_self_iff stored.mParameters
    ((nodup_keys_blocks api call).sublist (survey_keys_sublist _ stored.mParameters))
  rw [← hidle]
  generalize hstate : api.store.applyAll stored.mParameters
    (survey (blocks api call) stored.mParameters).state = copied at *
  have hcall : setParameters api call stored =
      some (lastStatus call (survey (blocks api call) stored.mParameters).effects,
        ⟨if call.adapter.getD Status.NO_ERROR ≠ Status.NO_ERROR then stored.mParameters else copied,
          videoSize stored.mVideoSize
            (survey (blocks api call) stored.mParameters).effects⟩) := by
    unfold setParameters
    rw [hrun, hs]
  constructor
  · intro hatomic
    by_cases hlast :
        lastStatus call (survey (blocks api call) stored.mParameters).effects = Status.NO_ERROR
    · exact Or.inl hlast
    · have heq := hatomic _ _ hcall hlast
      refine Or.inr ⟨congrArg Stored.mVideoSize heq, ?_⟩
      intro hset
      have hparams := congrArg Stored.mParameters heq
      rwa [if_neg (not_not_intro hset)] at hparams
  · rintro hharmless status stored' hreturn hstatus
    rw [hcall] at hreturn
    cases hreturn
    rcases hharmless with hlast | ⟨hvideo, hparams⟩
    · exact absurd hlast hstatus
    · rw [hvideo]
      by_cases hset : call.adapter.getD Status.NO_ERROR = Status.NO_ERROR
      · rw [if_neg (not_not_intro hset), hparams hset]
      · rw [if_pos hset]

/-- **When an error return leaves the parameters and the video size as they were.** The checks
before the first refusal find what is stored already. And if none refuses, but the camera adapter
or the restart of the preview fails, the preview size is the video size already and, unless the
adapter refuses, every check finds what is stored.

**Proof sketch.** The checks do not depend on what the blocks before them copy
(`independent_blocks`), and each copy is to a key of its own (`nodup_keys_blocks`), so that the
copies leave the set exactly if each of them is idle. The checks tell when they are
(`describes_blocks`). -/
theorem atomic_iff (api : CameraParameters P) (call : Call P) (stored : Stored P) :
    Atomic api call stored ↔ Harmless api call stored := by
  have htells := @describes_blocks P api call stored
  rcases goes_or_stops (checks api call stored) with hgoes | ⟨pre, c, post, x, hchecks, hpre, hc⟩
  · obtain ⟨hstopped, hquiet⟩ := survey_of_goes htells hgoes
    unfold Quiet at hquiet
    rw [keepsVideo_iff hstopped] at hquiet
    rw [atomic_iff_of_none api call hstopped, or_iff_not_imp_left, ← ne_eq,
      lastStatus_iff hstopped, videoSize_iff, keepsVideo_iff hstopped]
    constructor
    · intro hfailed
      refine ⟨fun pre c post hsplit _ hc => ?_, fun _ hfails => ?_⟩
      · exact absurd hc (hgoes c (by rw [hsplit]; simp) .badValue)
      · obtain ⟨hvideo, hidle⟩ := hfailed hfails
        exact ⟨hvideo, fun hadapter => hquiet.mp ⟨hidle hadapter, hvideo⟩⟩
    · intro hharmless hfails
      obtain ⟨hvideo, hsame⟩ := hharmless.failed hgoes hfails
      exact ⟨hvideo, fun hadapter => (hquiet.mpr (hsame hadapter)).1⟩
  · have hstops : ¬ ∀ c ∈ checks api call stored, c.Goes := fun hgoes =>
      hgoes c (by rw [hchecks]; simp) x hc
    obtain ⟨hstopped, hquiet⟩ := survey_of_stops (hchecks ▸ htells) hpre hc
    cases x with
    | badValue =>
      rw [atomic_iff_of_badValue api call hstopped, videoSize_iff]
      constructor
      · intro hidle
        refine ⟨fun pre' c' post' hsplit hpre' hc' => ?_, fun hgoes => absurd hgoes hstops⟩
        exact (survey_of_stops (hsplit ▸ htells) hpre' hc').2.mp hidle
      · exact fun hharmless => hquiet.mpr (hharmless.refused pre c post hchecks hpre hc)
    | crash =>
      refine iff_of_true (fun status stored' hreturn => ?_)
        ⟨fun pre' c' post' hsplit hpre' hc' => ?_, fun hgoes => absurd hgoes hstops⟩
      · unfold setParameters at hreturn
        rw [run_eq_survey (independent_blocks api call) stored.mParameters, hstopped] at hreturn
        cases hreturn
      · have hrefused := (survey_of_stops (hsplit ▸ htells) hpre' hc').1
        exact absurd (hstopped.symm.trans hrefused) (by decide)

/-- A call that asks for a video stabilization and for a preview format that the camera does not
support. -/
def unsupportedFormat (stabilization : Text) : Call (ParamKey → Option Text) where
  params
    | KEY_VIDEO_STABILIZATION => some stabilization
    | KEY_PREVIEW_FORMAT => some "rgb565".toList
    | _ => none
  properties
    | .VSTAB_SUPPORTED => TRUE
    | .SUPPORTED_PREVIEW_FORMATS => "yuv420sp".toList
    | _ => []
  mExtendedVideoResolution := []
  previewEnabled := false
  mRecordingEnabled := false
  mMaxZoomSupported := 0#32
  buildMode := []
  maxFPS := 0#32
  adapter := some Status.NO_ERROR
  restartPreview := Status.NO_ERROR

/-- What is stored before these calls. -/
def notStabilized : Stored (ParamKey → Option Text) where
  mParameters
    | KEY_VIDEO_STABILIZATION => some FALSE
    | KEY_PREVIEW_FORMAT => some "yuv420sp".toList
    | _ => none
  mVideoSize := (640#32, 480#32)

/-- The preview format of these calls is refused. -/
lemma stops_formatCheck (stabilization : Text) :
    (formatCheck mapParameters (unsupportedFormat stabilization) notStabilized).stops
      .badValue := by
  have hinvalid : isParameterValid (some "rgb565".toList) (some "yuv420sp".toList) = false := by
    decide
  exact ⟨"rgb565".toList, rfl, hinvalid⟩

/-- The call that asks for the stabilization that is stored already is refused without a change. -/
theorem atomic_notStabilized :
    Atomic mapParameters (unsupportedFormat FALSE) notStabilized := by
  refine (atomic_iff mapParameters (unsupportedFormat FALSE) notStabilized).mpr
    ⟨fun pre c post hsplit hpre _ => ?_, fun hgoes _ => ?_⟩
  · -- the first check finds what is stored, and the second refuses
    cases pre with
    | nil => exact List.forall_mem_nil _
    | cons d pre =>
      obtain ⟨hd, hsplit⟩ := List.cons_eq_cons.mp hsplit
      cases pre with
      | nil =>
        refine List.forall_mem_singleton.mpr (hd ▸ fun _ v hv _ => ?_)
        obtain rfl : FALSE = v := Option.some.inj hv
        rfl
      | cons d' pre =>
        obtain ⟨rfl, -⟩ := List.cons_eq_cons.mp hsplit
        have hgoes := hpre _ (List.mem_cons_of_mem _ List.mem_cons_self)
        exact absurd (stops_formatCheck FALSE) (hgoes .badValue)
  · have hformat := hgoes (formatCheck mapParameters (unsupportedFormat FALSE) notStabilized)
      (List.mem_cons_of_mem _ List.mem_cons_self)
    exact absurd (stops_formatCheck FALSE) (hformat .badValue)

/-- The call that asks for stabilization leaves it stored when its preview format is refused. -/
theorem not_atomic_stabilized :
    ¬ Atomic mapParameters (unsupportedFormat TRUE) notStabilized := by
  intro hatomic
  have hreturn : setParameters mapParameters (unsupportedFormat TRUE) notStabilized =
      some (Status.BAD_VALUE,
        ⟨mapParameters.set notStabilized.mParameters KEY_VIDEO_STABILIZATION TRUE,
          (640#32, 480#32)⟩) := rfl
  have heq := hatomic _ _ hreturn (by decide)
  have hlookup := congrFun (congrArg Stored.mParameters heq) KEY_VIDEO_STABILIZATION
  revert hlookup
  decide

end CameraHal.SetParameters
