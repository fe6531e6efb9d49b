import Gs702aHal.Lib.CheckedUpdates
import Gs702aHal.Camera.Capabilities

set_option relaxedAutoImplicit false
set_option autoImplicit false

/-!
# `CameraHal::setParameters`

The application passes a whole set of parameters. `setParameters` goes through some forty keys,
checks each and copies it into `mParameters` at once, so that an error return in the middle leaves
the keys before it changed. Only a refusal by the camera adapter, at the end, restores the old set.

The class `CameraParameters` is not part of this repository: it is a parameter of the model.

## Main definitions

* `CameraHal.CameraParameters` — what the code relies on of that class;
  `CameraHal.SetParameters.mapParameters` is a map that does so.
* `CameraHal.SetParameters.Call` — a call, with what it meets on its way.
* `CameraHal.SetParameters.blocks` — the blocks of `setParameters`, in their order.
* `CameraHal.SetParameters.setParameters` — the function.
* `CameraHal.SetParameters.Atomic` — an error return leaves the parameters and the video size.

## Main results

* `CameraHal.SetParameters.independent_blocks` — no block reads what a block before it writes.
-/

namespace CameraHal

open CheckedUpdates

/-! ### Parameters and properties -/

/-- A text, as a list of characters. -/
abbrev Text := List Char

/-- The keys of `CameraParameters` and `ActCameraParameters` that `setParameters` copies; a set can
have others. -/
inductive ParamKey
  | KEY_VIDEO_STABILIZATION
  | KEY_PREVIEW_FORMAT
  | KEY_VIDEO_FRAME_FORMAT
  | KEY_PREVIEW_SIZE
  | KEY_RECORD_VIDEO_WIDTH
  | KEY_RECORD_VIDEO_HEIGHT
  | KEY_RECORDING_HINT
  | KEY_FOCUS_MODE
  | KEY_PICTURE_FORMAT
  | KEY_PICTURE_SIZE
  | KEY_PREVIEW_FRAME_RATE
  | KEY_PREVIEW_FPS_RANGE
  | KEY_WHITE_BALANCE
  | KEY_CONTRAST
  | KEY_SATURATION
  | KEY_BRIGHTNESS
  | KEY_DENOISE
  | KEY_ANTIBANDING
  | KEY_ISO
  | KEY_FOCUS_AREAS
  | KEY_EXPOSURE_COMPENSATION
  | KEY_SCENE_MODE
  | KEY_FLASH_MODE
  | KEY_EFFECT
  | KEY_ROTATION
  | KEY_JPEG_QUALITY
  | KEY_JPEG_THUMBNAIL_WIDTH
  | KEY_JPEG_THUMBNAIL_HEIGHT
  | KEY_JPEG_THUMBNAIL_QUALITY
  | KEY_GPS_LATITUDE
  | KEY_GPS_LONGITUDE
  | KEY_GPS_ALTITUDE
  | KEY_GPS_TIMESTAMP
  | KEY_GPS_DATESTAMP
  | KEY_GPS_PROCESSING_METHOD
  | KEY_GPS_MAPDATUM
  | KEY_GPS_VERSION
  | KEY_EXIF_MODEL
  | KEY_EXIF_MAKE
  | KEY_ZOOM
  | KEY_AUTO_EXPOSURE_LOCK
  | KEY_AUTO_WHITEBALANCE_LOCK
  | KEY_METERING_AREAS
  | other (key : Text)
  deriving DecidableEq

/-- The entries of `CameraProperties` that `setParameters` reads. -/
inductive PropertyIndex
  | VSTAB_SUPPORTED
  | SUPPORTED_PREVIEW_FORMATS
  | SUPPORTED_PREVIEW_SIZES
  | SUPPORTED_FOCUS_MODES
  | SUPPORTED_PICTURE_FORMATS
  | SUPPORTED_PICTURE_SIZES
  | PREVIEW_FRAMERATE_RANGE_SUPPORTED
  | SUPPORTED_PREVIEW_FRAME_RATES
  | PREVIEW_FRAMERATE_RANGE
  | PREVIEW_FRAME_RATE
  | SUPPORTED_WHITE_BALANCE
  | SUPPORTED_CONTRAST_MIN
  | SUPPORTED_CONTRAST_MAX
  | SUPPORTED_SATURATION_MIN
  | SUPPORTED_SATURATION_MAX
  | SUPPORTED_BRIGHTNESS_MIN
  | SUPPORTED_BRIGHTNESS_MAX
  | SUPPORTED_DENOISE_MIN
  | SUPPORTED_DENOISE_MAX
  | SUPPORTED_ANTIBANDING
  | ISO_SUPPORTED
  | SUPPORTED_ISO_VALUES
  | SUPPORTED_SCENE_MODES
  | SUPPORTED_FLASH_MODES
  | SUPPORTED_EFFECTS
  deriving DecidableEq

/-- A width and a height. -/
abbrev Size := BitVec 32 × BitVec 32

/-- The text of a size. -/
def sizeText (size : Size) : Text := printD size.1 ++ 'x' :: printD size.2

open ParamKey

/-- What the code relies on of the class `CameraParameters`: a set of parameters has a text or none
under each key and nothing else; `set` stores a text, except for some that it ignores; numbers and
sizes are stored as their texts; a reading depends on its own key. -/
structure CameraParameters (P : Type) where
  lookup : P → ParamKey → Option Text
  storable : Text → Bool
  get : P → ParamKey → Option Text
  getInt : P → ParamKey → BitVec 32
  getPreviewSize : P → Size
  getPictureSize : P → Size
  getPreviewFpsRange : P → BitVec 32 × BitVec 32
  set : P → ParamKey → Text → P
  setInt : P → ParamKey → BitVec 32 → P
  setPreviewSize : P → Size → P
  setPictureSize : P → Size → P
  remove : P → ParamKey → P
  ext : ∀ p q, (∀ k, lookup p k = lookup q k) → p = q
  lookup_set : ∀ p k v k',
    lookup (set p k v) k' = if k' = k then (if storable v then some v else lookup p k') else
      lookup p k'
  lookup_remove : ∀ p k k', lookup (remove p k) k' = if k' = k then none else lookup p k'
  setInt_eq : ∀ p k n, setInt p k n = set p k (printD n)
  setPreviewSize_eq : ∀ p size, setPreviewSize p size = set p KEY_PREVIEW_SIZE (sizeText size)
  setPictureSize_eq : ∀ p size, setPictureSize p size = set p KEY_PICTURE_SIZE (sizeText size)
  get_congr : ∀ p q k, lookup p k = lookup q k → get p k = get q k
  getPreviewSize_congr : ∀ p q,
    lookup p KEY_PREVIEW_SIZE = lookup q KEY_PREVIEW_SIZE → getPreviewSize p = getPreviewSize q

/-- The calls that change a set of parameters. `setPreviewFormat`, `setPictureFormat` and
`setPreviewFrameRate` are `set` under their keys. -/
inductive ParamWrite
  | set (key : ParamKey) (value : Text)
  | setInt (key : ParamKey) (value : BitVec 32)
  | setPreviewSize (size : Size)
  | setPictureSize (size : Size)
  | remove (key : ParamKey)

namespace ParamWrite

/-- The key that a call changes. -/
def key : ParamWrite → ParamKey
  | set key _ => key
  | setInt key _ => key
  | setPreviewSize _ => KEY_PREVIEW_SIZE
  | setPictureSize _ => KEY_PICTURE_SIZE
  | remove key => key

/-- The text that a call stores. -/
def text : ParamWrite → Option Text
  | set _ value => some value
  | setInt _ value => some (printD value)
  | setPreviewSize size => some (sizeText size)
  | setPictureSize size => some (sizeText size)
  | remove _ => none

end ParamWrite

namespace CameraParameters

variable {P : Type} (api : CameraParameters P)

/-- What a call makes of the text under its key. -/
def change (w : ParamWrite) (old : Option Text) : Option Text :=
  match w.text with
  | none => none
  | some v => if api.storable v then some v else old

/-- A call. -/
def apply (p : P) : ParamWrite → P
  | .set key value => api.set p key value
  | .setInt key value => api.setInt p key value
  | .setPreviewSize size => api.setPreviewSize p size
  | .setPictureSize size => api.setPictureSize p size
  | .remove key => api.remove p key

/-- A call changes the text under its key. -/
lemma lookup_apply (p : P) (w : ParamWrite) (k : ParamKey) :
    api.lookup (api.apply p w) k =
      if k = w.key then api.change w (api.lookup p k) else api.lookup p k := by
  cases w with
  | set key value => exact api.lookup_set p key value k
  | setInt key value =>
    rw [apply, api.setInt_eq]
    exact api.lookup_set p key (printD value) k
  | setPreviewSize size =>
    rw [apply, api.setPreviewSize_eq]
    exact api.lookup_set p KEY_PREVIEW_SIZE (sizeText size) k
  | setPictureSize size =>
    rw [apply, api.setPictureSize_eq]
    exact api.lookup_set p KEY_PICTURE_SIZE (sizeText size) k
  | remove key => exact api.lookup_remove p key k

/-- The set of parameters as a store. -/
def store : Store P ParamKey (Option Text) ParamWrite where
  view := api.lookup
  key := ParamWrite.key
  change := api.change
  apply := api.apply
  ext := api.ext
  view_apply := api.lookup_apply

end CameraParameters

/-! ### Numbers in texts -/

/-- The number of some digits, read up to the first other letter. -/
def digitsValue (text : Text) : ℕ :=
  (text.takeWhile Char.isDigit).foldl (fun n c => 10 * n + (c.toNat - '0'.toNat)) 0

/-- `atoi`; a number that does not fit becomes the largest or the smallest. -/
def atoi (text : Text) : BitVec 32 :=
  let text := text.dropWhile Char.isWhitespace
  let value : ℤ := match text with
    | '-' :: rest => -digitsValue rest
    | '+' :: rest => digitsValue rest
    | rest => digitsValue rest
  BitVec.ofInt 32 (max (-2147483648) (min 2147483647 value))

/-- `VFR_SCALE`; it is unsigned, so that the divisions by it are. -/
def VFR_SCALE : BitVec 32 := 1000#32

/-- The pieces that `strtok` finds. -/
def pieces (delimiters text : Text) : List Text :=
  (text.splitOnP fun c => delimiters.contains c).filter (· ≠ [])

/-- Letters that are no delimiters do not cut a text. -/
lemma contains_eq_false {delimiters piece : Text} (h : ∀ c ∈ piece, c ∉ delimiters) :
    ∀ c ∈ piece, delimiters.contains c = false := by
  intro c hc
  simpa using h c hc

/-- A delimiter before a text is skipped. -/
lemma pieces_cons_of_mem {delimiters : Text} {c : Char} (hc : c ∈ delimiters) (text : Text) :
    pieces delimiters (c :: text) = pieces delimiters text := by
  have hsplit := List.splitOnP_append_cons_of_forall_mem (p := fun c => delimiters.contains c)
    (contains_eq_false (List.forall_mem_nil _)) c (by simpa using hc) text
  rw [List.nil_append] at hsplit
  rw [pieces, hsplit, List.filter_cons_of_neg (by simp)]
  rfl

/-- The text before a delimiter is a piece. -/
lemma pieces_append_cons {delimiters piece : Text} (hne : piece ≠ [])
    (h : ∀ c ∈ piece, c ∉ delimiters) {c : Char} (hc : c ∈ delimiters) (text : Text) :
    pieces delimiters (piece ++ c :: text) = piece :: pieces delimiters text := by
  rw [pieces, List.splitOnP_append_cons_of_forall_mem (contains_eq_false h) c (by simpa using hc)
    text, List.filter_cons_of_pos (by simpa using hne)]
  rfl

/-- A text without a delimiter is a piece. -/
lemma pieces_eq_singleton {delimiters piece : Text} (hne : piece ≠ [])
    (h : ∀ c ∈ piece, c ∉ delimiters) : pieces delimiters piece = [piece] := by
  rw [pieces, List.splitOnP_eq_singleton (contains_eq_false h),
    List.filter_cons_of_pos (by simpa using hne), List.filter_nil]

/-- The loop of `selectFPSRange`. -/
def selectRange (framerate : BitVec 32) : List Text → Option (BitVec 32 × BitVec 32)
  | lo :: hi :: rest =>
    if framerate = atoi hi / VFR_SCALE then
      some (atoi lo / VFR_SCALE * VFR_SCALE, atoi hi / VFR_SCALE * VFR_SCALE)
    else selectRange framerate rest
  | _ => none

/-- `selectFPSRange`: the range it writes, if it finds one. -/
def selectFPSRange (framerate : BitVec 32) (supported : Text) : Option (BitVec 32 × BitVec 32) :=
  selectRange framerate (pieces " (,)".toList supported)

namespace SetParameters

variable {P : Type}

/-! ### The call -/

/-- `ExtendedResolution`: a size and the one in which it is captured. -/
structure ExtendedResolution where
  size : Size
  captureWidth : BitVec 32
  captureHeight : BitVec 32

/-- A call of `setParameters`, with what it meets: the properties of the camera, the state of the
preview and of the recording, `ro.build_mode`, what `maxFPS` holds before it is set, what the camera
adapter answers if there is one, and what `restartPreview` returns. -/
structure Call (P : Type) where
  params : P
  properties : PropertyIndex → Text
  mExtendedVideoResolution : List ExtendedResolution
  previewEnabled : Bool
  mRecordingEnabled : Bool
  mMaxZoomSupported : BitVec 32
  buildMode : Text
  maxFPS : BitVec 32
  adapter : Option Status
  restartPreview : Status

/-- `CameraParameters::TRUE`. -/
def TRUE : Text := "true".toList
/-- `CameraParameters::FALSE`. -/
def FALSE : Text := "false".toList

/-- Why a block stops: it returns `BAD_VALUE`, or it compares with the text of a null pointer. -/
inductive Stop
  | badValue
  | crash
  deriving DecidableEq

/-- What a block does beside the parameters: it sets the video size, it asks for a restart of the
preview. -/
structure Effect where
  video : Option Size
  restartPreviewRequired : Bool

/-- No effect. -/
def Effect.none : Effect := ⟨Option.none, false⟩

variable (api : CameraParameters P) (call : Call P)

/-- A block of `setParameters`. -/
abbrev ParamBlock := Block api.store Effect Stop

/-- Writes without an effect. -/
abbrev copy (ws : List ParamWrite) : Verdict ParamWrite Effect Stop := .copy ws Effect.none

/-- The error return in the middle. -/
abbrev refuse : Verdict ParamWrite Effect Stop := .stop .badValue

/-! ### Blocks that many keys share -/

/-- A key that is copied if it is given and passes its check. -/
def optional (key : ParamKey) (check : Text → Bool) (otherwise : Verdict ParamWrite Effect Stop)
    (h : otherwise.WritesIn ParamWrite.key [key]) : ParamBlock api :=
  .constant [key]
    (match api.get call.params key with
      | none => copy []
      | some valstr => if check valstr then copy [.set key valstr] else otherwise)
    (by
      split
      · exact List.nil_sublist _
      · split
        · exact List.Sublist.refl _
        · exact h)

/-- A name that the camera supports. -/
def supportedName (key : ParamKey) (supported : PropertyIndex) : ParamBlock api :=
  optional api call key
    (fun valstr => isParameterValid (some valstr) (some (call.properties supported))) refuse trivial

/-- A number between two bounds; another one is only logged. -/
def ranged (key : ParamKey) (min max : PropertyIndex) : ParamBlock api :=
  optional api call key
    (fun valstr =>
      let v := atoi valstr
      (atoi (call.properties min)).sle v && v.sle (atoi (call.properties max)))
    (copy []) (List.nil_sublist _)

/-- A key that is copied as it is. -/
def plain (key : ParamKey) : ParamBlock api :=
  optional api call key (fun _ => true) (copy []) (List.nil_sublist _)

/-- A number that is copied if it is not negative. -/
def nonNegative (key : ParamKey) : ParamBlock api :=
  let varint := api.getInt call.params key
  .constant [key] (if (0#32).sle varint then copy [.setInt key varint] else copy [])
    (by
      split
      · exact List.Sublist.refl _
      · exact List.nil_sublist _)

/-- A key that is removed if it is not given. -/
def copyOrRemove (key : ParamKey) : ParamBlock api :=
  .constant [key]
    (match api.get call.params key with
      | some valstr => copy [.set key valstr]
      | none => copy [.remove key])
    (by split <;> exact List.Sublist.refl _)

/-! ### The other blocks -/

/-- `KEY_VIDEO_STABILIZATION`. -/
def videoStabilization : ParamBlock api :=
  .constant [KEY_VIDEO_STABILIZATION]
    (if call.previewEnabled then copy []
    else
      match api.get call.params KEY_VIDEO_STABILIZATION with
      | none => copy []
      | some valstr =>
        if call.properties .VSTAB_SUPPORTED = TRUE then
          copy [.set KEY_VIDEO_STABILIZATION valstr]
        else if valstr = TRUE then refuse
        else copy [.set KEY_VIDEO_STABILIZATION FALSE])
    (by
      split
      · exact List.nil_sublist _
      · split
        · exact List.nil_sublist _
        · split
          · exact List.Sublist.refl _
          · split
            · trivial
            · exact List.Sublist.refl _)

/-- `KEY_PREVIEW_FORMAT`. -/
def previewFormat : ParamBlock api where
  keys := [KEY_PREVIEW_FORMAT, KEY_VIDEO_FRAME_FORMAT]
  reads := [KEY_PREVIEW_FORMAT]
  body mParameters :=
    match api.get call.params KEY_PREVIEW_FORMAT with
    | none => copy []
    | some valstr =>
      if isParameterValid (some valstr) (some (call.properties .SUPPORTED_PREVIEW_FORMATS)) then
        match api.get mParameters KEY_PREVIEW_FORMAT with
        -- `strcmp` of a null pointer.
        | none => .stop .crash
        | some old_format =>
          if old_format ≠ valstr then
            .copy [.set KEY_PREVIEW_FORMAT valstr, .set KEY_VIDEO_FRAME_FORMAT valstr] ⟨none, true⟩
          else copy []
      else refuse
  writes_in p := by
    split
    · exact List.nil_sublist _
    · split
      · split
        · trivial
        · split
          · exact List.Sublist.refl _
          · exact List.nil_sublist _
      · trivial
  body_congr p q h := by
    rw [api.get_congr p q KEY_PREVIEW_FORMAT (h KEY_PREVIEW_FORMAT List.mem_cons_self)]

/-- `KEY_PREVIEW_SIZE`, with the video size and the size of the video buffers. -/
def previewSize : ParamBlock api where
  keys := [KEY_PREVIEW_SIZE, KEY_RECORD_VIDEO_WIDTH, KEY_RECORD_VIDEO_HEIGHT]
  reads := [KEY_PREVIEW_SIZE]
  body mParameters :=
    let size := api.getPreviewSize call.params
    if size = (-1#32, -1#32) then refuse
    else if !isResolutionValid size.1 size.2 (some (call.properties .SUPPORTED_PREVIEW_SIZES)) then
      refuse
    else
      let oldSize := api.getPreviewSize mParameters
      let capture :=
        match call.mExtendedVideoResolution.find? fun extVideoRes => extVideoRes.size = size with
        | some extVideoRes => (extVideoRes.captureWidth, extVideoRes.captureHeight)
        | none => size
      .copy
        [.setPreviewSize size, .setInt KEY_RECORD_VIDEO_WIDTH capture.1,
          .setInt KEY_RECORD_VIDEO_HEIGHT capture.2]
        ⟨some size, oldSize ≠ size⟩
  writes_in p := by
    dsimp only
    split
    · trivial
    · split
      · trivial
      · exact List.Sublist.refl _
  body_congr p q h := by
    rw [api.getPreviewSize_congr p q (h KEY_PREVIEW_SIZE List.mem_cons_self)]

/-- `KEY_RECORDING_HINT`. -/
def recordingHint : ParamBlock api :=
  .constant [KEY_RECORDING_HINT]
    (match api.get call.params KEY_RECORDING_HINT with
      | some valstr =>
        if valstr = TRUE ∨ valstr = FALSE then copy [.set KEY_RECORDING_HINT valstr] else refuse
      | none => copy [.set KEY_RECORDING_HINT FALSE])
    (by
      split
      · split
        · exact List.Sublist.refl _
        · trivial
      · exact List.Sublist.refl _)

/-- `KEY_PICTURE_SIZE`. -/
def pictureSize : ParamBlock api :=
  let size := api.getPictureSize call.params
  .constant [KEY_PICTURE_SIZE]
    (if isResolutionValid size.1 size.2 (some (call.properties .SUPPORTED_PICTURE_SIZES)) then
      copy [.setPictureSize size]
    else refuse)
    (by
      split
      · exact List.Sublist.refl _
      · trivial)

/-- The frame rate that is stored, for a given range; `none` if the range is negative. -/
def newFrameRate (valstr : Text) : Option (BitVec 32) :=
  let framerate := api.getInt call.params KEY_PREVIEW_FRAME_RATE
  if valstr ≠ call.properties .PREVIEW_FRAMERATE_RANGE then
    let range := api.getPreviewFpsRange call.params
    if range.1.slt 0 || range.2.slt 0 then none else some (range.2 / VFR_SCALE)
  else if framerate ≠ atoi (call.properties .PREVIEW_FRAME_RATE) then
    let range := selectFPSRange framerate (call.properties .PREVIEW_FRAMERATE_RANGE_SUPPORTED)
    -- `maxFPS` keeps what it held if no range is found.
    some ((range.map Prod.snd).getD call.maxFPS / VFR_SCALE)
  else some framerate

/-- The given range or the given frame rate is not supported. -/
def frameRateInvalid : Bool :=
  !isParameterValid (api.get call.params KEY_PREVIEW_FPS_RANGE)
      (some (call.properties .PREVIEW_FRAMERATE_RANGE_SUPPORTED)) ||
    !isNumberValid (api.getInt call.params KEY_PREVIEW_FRAME_RATE)
      (some (call.properties .SUPPORTED_PREVIEW_FRAME_RATES))

/-- `KEY_PREVIEW_FRAME_RATE` and `KEY_PREVIEW_FPS_RANGE`. -/
def frameRate : ParamBlock api :=
  .constant [KEY_PREVIEW_FRAME_RATE, KEY_PREVIEW_FPS_RANGE]
    (if frameRateInvalid api call && call.buildMode = "CTS".toList then refuse
    else
      match api.get call.params KEY_PREVIEW_FPS_RANGE with
      -- `strcmp` of a null pointer.
      | none => .stop .crash
      | some valstr =>
        match newFrameRate api call valstr with
        | none => refuse
        | some framerate =>
          copy [.setInt KEY_PREVIEW_FRAME_RATE framerate, .set KEY_PREVIEW_FPS_RANGE valstr])
    (by
      split
      · trivial
      · split
        · trivial
        · split
          · trivial
          · exact List.Sublist.refl _)

/-- `KEY_ISO`. -/
def iso : ParamBlock api :=
  .constant [KEY_ISO]
    (if call.properties .ISO_SUPPORTED = TRUE then
      (supportedName api call KEY_ISO .SUPPORTED_ISO_VALUES).body call.params
    else copy [])
    (by
      split
      · exact (supportedName api call KEY_ISO .SUPPORTED_ISO_VALUES).writes_in call.params
      · exact List.nil_sublist _)

/-- `KEY_ZOOM`. -/
def zoom : ParamBlock api :=
  let varint := api.getInt call.params KEY_ZOOM
  .constant [KEY_ZOOM]
    (match api.get call.params KEY_ZOOM with
      | none => copy []
      | some valstr =>
        if '.' ∈ valstr then copy []
        else if (0#32).sle varint && varint.sle call.mMaxZoomSupported then
          copy [.set KEY_ZOOM valstr]
        else refuse)
    (by
      split
      · exact List.nil_sublist _
      · split
        · exact List.nil_sublist _
        · split
          · exact List.Sublist.refl _
          · trivial)

/-! ### The function -/

/-- The blocks in their order. -/
def blocks : List (ParamBlock api) :=
  [videoStabilization api call, previewFormat api call, previewSize api call,
    recordingHint api call, supportedName api call KEY_FOCUS_MODE .SUPPORTED_FOCUS_MODES,
    supportedName api call KEY_PICTURE_FORMAT .SUPPORTED_PICTURE_FORMATS, pictureSize api call,
    frameRate api call, supportedName api call KEY_WHITE_BALANCE .SUPPORTED_WHITE_BALANCE,
    ranged api call KEY_CONTRAST .SUPPORTED_CONTRAST_MIN .SUPPORTED_CONTRAST_MAX,
    ranged api call KEY_SATURATION .SUPPORTED_SATURATION_MIN .SUPPORTED_SATURATION_MAX,
    ranged api call KEY_BRIGHTNESS .SUPPORTED_BRIGHTNESS_MIN .SUPPORTED_BRIGHTNESS_MAX,
    ranged api call KEY_DENOISE .SUPPORTED_DENOISE_MIN .SUPPORTED_DENOISE_MAX,
    supportedName api call KEY_ANTIBANDING .SUPPORTED_ANTIBANDING, iso api call,
    plain api call KEY_FOCUS_AREAS, plain api call KEY_EXPOSURE_COMPENSATION,
    supportedName api call KEY_SCENE_MODE .SUPPORTED_SCENE_MODES,
    supportedName api call KEY_FLASH_MODE .SUPPORTED_FLASH_MODES,
    supportedName api call KEY_EFFECT .SUPPORTED_EFFECTS, nonNegative api call KEY_ROTATION,
    nonNegative api call KEY_JPEG_QUALITY, nonNegative api call KEY_JPEG_THUMBNAIL_WIDTH,
    nonNegative api call KEY_JPEG_THUMBNAIL_HEIGHT, nonNegative api call KEY_JPEG_THUMBNAIL_QUALITY,
    copyOrRemove api call KEY_GPS_LATITUDE, copyOrRemove api call KEY_GPS_LONGITUDE,
    copyOrRemove api call KEY_GPS_ALTITUDE, copyOrRemove api call KEY_GPS_TIMESTAMP,
    copyOrRemove api call KEY_GPS_DATESTAMP, copyOrRemove api call KEY_GPS_PROCESSING_METHOD,
    copyOrRemove api call KEY_GPS_MAPDATUM, copyOrRemove api call KEY_GPS_VERSION,
    plain api call KEY_EXIF_MODEL, plain api call KEY_EXIF_MAKE, zoom api call,
    plain api call KEY_AUTO_EXPOSURE_LOCK, plain api call KEY_AUTO_WHITEBALANCE_LOCK,
    plain api call KEY_METERING_AREAS]

/-- What `CameraHal` stores: the parameters and the video size. -/
structure Stored (P : Type) where
  mParameters : P
  mVideoSize : Size

/-- The video size after some effects. -/
def videoSize (old : Size) (effects : List Effect) : Size :=
  effects.foldl (fun size e => e.video.getD size) old

/-- What `setParameters` returns if no block stops it: what the camera adapter answers or, where the
preview is restarted, what that returns. -/
def lastStatus (effects : List Effect) : Status :=
  if effects.any Effect.restartPreviewRequired && call.previewEnabled && !call.mRecordingEnabled
  then call.restartPreview else call.adapter.getD Status.NO_ERROR

/-- `setParameters`: the status that it returns and what is stored then; `none` if it crashes. -/
def setParameters (stored : Stored P) : Option (Status × Stored P) :=
  let r := run (blocks api call) stored.mParameters
  let mVideoSize := videoSize stored.mVideoSize r.effects
  match r.stopped with
  | some .crash => none
  | some .badValue => some (Status.BAD_VALUE, ⟨r.state, mVideoSize⟩)
  | none =>
    -- On failure of the camera adapter the old parameters are restored.
    let mParameters :=
      if call.adapter.getD Status.NO_ERROR ≠ Status.NO_ERROR then stored.mParameters else r.state
    some (lastStatus call r.effects, ⟨mParameters, mVideoSize⟩)

/-! ### Error returns -/

/-- An error return leaves the parameters and the video size as they were. -/
def Atomic (stored : Stored P) : Prop :=
  ∀ status stored', setParameters api call stored = some (status, stored') →
    status ≠ Status.NO_ERROR → stored' = stored

/-! ### The blocks are independent -/

/-- The keys that the blocks may write. -/
def writtenKeys : List ParamKey :=
  [KEY_VIDEO_STABILIZATION, KEY_PREVIEW_FORMAT, KEY_VIDEO_FRAME_FORMAT, KEY_PREVIEW_SIZE,
    KEY_RECORD_VIDEO_WIDTH, KEY_RECORD_VIDEO_HEIGHT, KEY_RECORDING_HINT, KEY_FOCUS_MODE,
    KEY_PICTURE_FORMAT, KEY_PICTURE_SIZE, KEY_PREVIEW_FRAME_RATE, KEY_PREVIEW_FPS_RANGE,
    KEY_WHITE_BALANCE, KEY_CONTRAST, KEY_SATURATION, KEY_BRIGHTNESS, KEY_DENOISE, KEY_ANTIBANDING,
    KEY_ISO, KEY_FOCUS_AREAS, KEY_EXPOSURE_COMPENSATION, KEY_SCENE_MODE, KEY_FLASH_MODE, KEY_EFFECT,
    KEY_ROTATION, KEY_JPEG_QUALITY, KEY_JPEG_THUMBNAIL_WIDTH, KEY_JPEG_THUMBNAIL_HEIGHT,
    KEY_JPEG_THUMBNAIL_QUALITY, KEY_GPS_LATITUDE, KEY_GPS_LONGITUDE, KEY_GPS_ALTITUDE,
    KEY_GPS_TIMESTAMP, KEY_GPS_DATESTAMP, KEY_GPS_PROCESSING_METHOD, KEY_GPS_MAPDATUM,
    KEY_GPS_VERSION, KEY_EXIF_MODEL, KEY_EXIF_MAKE, KEY_ZOOM, KEY_AUTO_EXPOSURE_LOCK,
    KEY_AUTO_WHITEBALANCE_LOCK, KEY_METERING_AREAS]

/-- The blocks write these keys. -/
lemma flatMap_keys_blocks : (blocks api call).flatMap Block.keys = writtenKeys := rfl

/-- No key is written twice. -/
lemma nodup_keys_blocks : ((blocks api call).flatMap Block.keys).Nodup := by
  rw [flatMap_keys_blocks]
  decide

/-- What the blocks write and read does not depend on the call. Only the blocks of the preview's
format and size read what is stored, and no block before them writes that. -/
lemma independent_blocks : Independent (blocks api call) := by
  let apart (f f' : List ParamKey × List ParamKey) : Prop := ∀ k ∈ f'.2, k ∉ f.1
  have hfoot : ((blocks api call).map fun b => (b.keys, b.reads)).Pairwise apart :=
    of_decide_eq_true rfl
  exact List.pairwise_map.mp hfoot

/-! ### A set of parameters as a map -/

/-- The number under a key; `-1` if there is none. -/
def intOf (text : Option Text) : BitVec 32 := (text.map atoi).getD (-1#32)

/-- The two numbers of a text; `-1` if there are not two. -/
def pairOf (delimiter : Char) (text : Option Text) : BitVec 32 × BitVec 32 :=
  match text.map (pieces [delimiter]) with
  | some [first, second] => (atoi first, atoi second)
  | _ => (-1#32, -1#32)

/-- Sets of parameters as maps from keys to texts. A text with an equals sign is not stored. -/
def mapParameters : CameraParameters (ParamKey → Option Text) where
  lookup p k := p k
  storable v := !v.contains '='
  get p k := (p k).filter (· ≠ [])
  getInt p k := intOf (p k)
  getPreviewSize p := pairOf 'x' (p KEY_PREVIEW_SIZE)
  getPictureSize p := pairOf 'x' (p KEY_PICTURE_SIZE)
  getPreviewFpsRange p := pairOf ',' (p KEY_PREVIEW_FPS_RANGE)
  set p k v := if !v.contains '=' then Function.update p k (some v) else p
  setInt p k n :=
    if !(printD n).contains '=' then Function.update p k (some (printD n)) else p
  setPreviewSize p size :=
    if !(sizeText size).contains '=' then
      Function.update p KEY_PREVIEW_SIZE (some (sizeText size)) else p
  setPictureSize p size :=
    if !(sizeText size).contains '=' then
      Function.update p KEY_PICTURE_SIZE (some (sizeText size)) else p
  remove p k := Function.update p k none
  ext _ _ h := funext h
  lookup_set p k v k' := by
    by_cases hv : (!v.contains '=') = true
    · rw [if_pos hv, if_pos hv, Function.update_apply]
    · rw [if_neg hv, if_neg hv, ite_self]
  lookup_remove p k k' := Function.update_apply p k none k'
  setInt_eq _ _ _ := rfl
  setPreviewSize_eq _ _ := rfl
  setPictureSize_eq _ _ := rfl
  get_congr p q k h := congrArg (Option.filter (· ≠ [])) h
  getPreviewSize_congr p q h := congrArg (pairOf 'x') h

end SetParameters

end CameraHal
