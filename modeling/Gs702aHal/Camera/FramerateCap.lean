import Gs702aHal.Camera.FpsRange
import Mathlib.Algebra.Order.Ring.Nat

set_option relaxedAutoImplicit false
set_option autoImplicit false

/-!
# The frame rates that the adapter advertises

The adapter advertises two texts: the ranges of frame rates and the rates themselves. Built with
`CAMERA_FPS_FROM_OMX` it writes the modes of the sensor into them; the makefile builds it without,
and the texts are those of one fixed mode. `CameraHal` tests what an application asks for against
the two texts, and reads the range for a rate from the first of them with `selectFPSRange`.

## Main definitions

* `CameraHal.VarFPSMode` — a mode of the sensor, and the bounds that are advertised for it.
* `CameraHal.encodePrvVFramerateCap`, `CameraHal.insertPrvVFramerates` — the functions that write
  the texts.
* `CameraHal.advertised` — the modes that are advertised, with the default if there are none.

## Main results

* `CameraHal.advertised_rates` — what is advertised is accepted, and the range that is selected for
  a rate is that of the first mode with this rate.
-/

namespace CameraHal

open SeparatedText

/-- `FPS_MIN`. -/
def FPS_MIN : BitVec 32 := 5
/-- `FPS_MAX`. -/
def FPS_MAX : BitVec 32 := 60
/-- `VARFRAMERATE_COUNT`. -/
def VARFRAMERATE_COUNT : ℕ := 20

/-- A mode of the sensor with a variable frame rate. -/
structure VarFPSMode where
  nVarFPSMin : BitVec 32
  nVarFPSMax : BitVec 32
  deriving DecidableEq, Repr

namespace VarFPSMode

/-- The lower bound that is advertised. -/
def min (m : VarFPSMode) : BitVec 32 := if FPS_MIN > m.nVarFPSMin then FPS_MIN else m.nVarFPSMin

/-- The upper bound that is advertised. -/
def max (m : VarFPSMode) : BitVec 32 := if FPS_MAX < m.nVarFPSMax then FPS_MAX else m.nVarFPSMax

/-- The text of the range of a mode. -/
def text (m : VarFPSMode) : Text :=
  snprintf VARFRAMERATE_COUNT
    ('(' :: (printU (m.min * VFR_SCALE) ++ ',' :: (printU (m.max * VFR_SCALE) ++ [')'])))

/-- The text of the rate of a mode: the loop from `max` to `max` runs once. -/
def rateText (m : VarFPSMode) : Text := snprintf VARFRAMERATE_COUNT (printU m.max)

end VarFPSMode

/-- The texts of one mode go to the ends of the two buffers; `none` if one of them overflows. -/
def writeMode (buffers : Text × Text) (m : VarFPSMode) : Option (Text × Text) := do
  let buffer ← strncat MAX_PROP_VALUE_LENGTH buffers.1 m.text (MAX_PROP_VALUE_LENGTH - 1)
  let buffer ← strncat MAX_PROP_VALUE_LENGTH buffer [','] (MAX_PROP_VALUE_LENGTH - 1)
  let fpsBuffer ← strncat MAX_PROP_VALUE_LENGTH buffers.2 m.rateText (MAX_PROP_VALUE_LENGTH - 1)
  let fpsBuffer ← strncat MAX_PROP_VALUE_LENGTH fpsBuffer [','] (MAX_PROP_VALUE_LENGTH - 1)
  pure (buffer, fpsBuffer)

/-- `mVarFrameratesDefault`. -/
def mVarFrameratesDefault : VarFPSMode := ⟨15, 15⟩

/-- The default texts. -/
def defaultTexts : Text × Text :=
  (snprintf MAX_PROP_VALUE_LENGTH ('(' :: (printU (mVarFrameratesDefault.nVarFPSMin * VFR_SCALE) ++
    ',' :: (printU (mVarFrameratesDefault.nVarFPSMax * VFR_SCALE) ++ [')']))),
    snprintf MAX_PROP_VALUE_LENGTH (printU mVarFrameratesDefault.nVarFPSMax))

/-- What is used of `OMX_ACT_CAPTYPE`. -/
structure VarFPSCaps where
  tPrvVarFPSModes : List VarFPSMode

/-- `encodePrvVFramerateCap`. -/
def encodePrvVFramerateCap (caps : VarFPSCaps) : Option (Text × Text) := do
  let buffers ← caps.tPrvVarFPSModes.foldlM writeMode ([], [])
  pure (if buffers.1 = [] ∨ buffers.2 = [] then defaultTexts else buffers)

/-- `insertPrvVFramerates`: the values of `PREVIEW_FRAMERATE_RANGE_SUPPORTED` and of
`SUPPORTED_PREVIEW_FRAME_RATES`, built with `CAMERA_FPS_FROM_OMX` or without. -/
def insertPrvVFramerates (CAMERA_FPS_FROM_OMX : Bool) (caps : VarFPSCaps) :
    Option (Text × Text) :=
  if CAMERA_FPS_FROM_OMX then
    (encodePrvVFramerateCap caps).map fun texts =>
      (remove_last_sep texts.1, remove_last_sep texts.2)
  else some ("(5000,30000)".toList, "30".toList)

/-- The mode that is advertised without `CAMERA_FPS_FROM_OMX`. -/
def fixedMode : VarFPSMode := ⟨5, 30⟩

/-- The modes that are advertised. -/
def advertised (CAMERA_FPS_FROM_OMX : Bool) (modes : List VarFPSMode) : List VarFPSMode :=
  if CAMERA_FPS_FROM_OMX then if modes = [] then [mVarFrameratesDefault] else modes
  else [fixedMode]

/-! ### The texts -/

/-- `strncat` that does not overflow appends what it is given. -/
lemma strncat_eq_some {buffer text result : Text} (hlen : text.length ≤ MAX_PROP_VALUE_LENGTH - 1)
    (h : strncat MAX_PROP_VALUE_LENGTH buffer text (MAX_PROP_VALUE_LENGTH - 1) = some result) :
    result = buffer ++ text ∧ result.length < MAX_PROP_VALUE_LENGTH := by
  rw [strncat, List.take_of_length_le hlen] at h
  split_ifs at h with hfit
  rw [← Option.some_inj.mp h]
  exact ⟨rfl, hfit⟩

namespace VarFPSMode

/-- The upper bound that is advertised is at most sixty. -/
lemma max_le (m : VarFPSMode) : m.max.toNat ≤ 60 := by
  unfold VarFPSMode.max
  split_ifs with h
  · decide
  · exact BitVec.not_lt.mp h

/-- The upper bound of a range, as a number. -/
lemma toNat_max_mul (m : VarFPSMode) : (m.max * VFR_SCALE).toNat = m.max.toNat * 1000 := by
  have hle := m.max_le
  have hscale : VFR_SCALE.toNat = 1000 := rfl
  rw [BitVec.toNat_mul, hscale]
  exact Nat.mod_eq_of_lt (by omega)

/-- The lower bound of a range, as a number, if it fits an `int`. -/
lemma toNat_min_mul {m : VarFPSMode} (h : m.nVarFPSMin.toNat ≤ 2147483) :
    (m.min * VFR_SCALE).toNat = m.min.toNat * 1000 ∧ m.min.toNat ≤ 2147483 := by
  have hle : m.min.toNat ≤ 2147483 := by
    unfold VarFPSMode.min
    split_ifs
    · decide
    · exact h
  have hscale : VFR_SCALE.toNat = 1000 := rfl
  rw [BitVec.toNat_mul, hscale]
  exact ⟨Nat.mod_eq_of_lt (by omega), hle⟩

/-- The text of a rate is not cut. -/
lemma rateText_eq (m : VarFPSMode) : m.rateText = printU m.max :=
  List.take_of_length_le ((length_printU_le m.max).trans (by decide))

/-- The range as an application asks for it. -/
def parameter (m : VarFPSMode) : Text :=
  printU (m.min * VFR_SCALE) ++ ',' :: printU (m.max * VFR_SCALE)

/-- The text of a range is not cut. -/
lemma text_eq (m : VarFPSMode) : m.text = '(' :: (m.parameter ++ [')']) := by
  have htext : m.text = snprintf VARFRAMERATE_COUNT ('(' :: (m.parameter ++ [')'])) := by
    simp [text, parameter]
  have hmin := length_printU_le (m.min * VFR_SCALE)
  have hmax : (printU (m.max * VFR_SCALE)).length ≤ 5 := by
    have hle := m.max_le
    rw [printU, m.toNat_max_mul]
    exact (Nat.length_toDigits_le_iff (by decide) (by decide)).mpr (by omega)
  rw [htext]
  refine List.take_of_length_le ?_
  simp only [parameter, List.length_cons, List.length_append, VARFRAMERATE_COUNT, List.length_nil]
  omega

/-- The range that is advertised for a mode. -/
def range (m : VarFPSMode) (h : m.nVarFPSMin.toNat ≤ 2147483) : FpsRange where
  min := m.min.toNat * 1000
  max := m.max.toNat * 1000
  min_lt := by
    have hle := (toNat_min_mul h).2
    omega
  max_lt := by
    have hle := m.max_le
    omega

/-- What `selectFPSRange` makes of the lower bound, -/
lemma ofNat_min (m : VarFPSMode) (h : m.nVarFPSMin.toNat ≤ 2147483) :
    BitVec.ofNat 32 ((m.range h).min / 1000 * 1000) = m.min * VFR_SCALE := by
  have hmin : (m.range h).min = m.min.toNat * 1000 := rfl
  rw [hmin, Nat.mul_div_cancel _ (by decide), ← (toNat_min_mul h).1, BitVec.ofNat_toNat,
    BitVec.setWidth_eq]

/-- and of the upper bound. -/
lemma ofNat_max (m : VarFPSMode) (h : m.nVarFPSMin.toNat ≤ 2147483) :
    BitVec.ofNat 32 ((m.range h).max / 1000 * 1000) = m.max * VFR_SCALE := by
  have hmax : (m.range h).max = m.max.toNat * 1000 := rfl
  rw [hmax, Nat.mul_div_cancel _ (by decide), ← m.toNat_max_mul, BitVec.ofNat_toNat,
    BitVec.setWidth_eq]

/-- Its text is the one that is written. -/
lemma text_range (m : VarFPSMode) (h : m.nVarFPSMin.toNat ≤ 2147483) :
    (m.range h).text = m.text := by
  rw [text_eq, parameter, printU, printU, (toNat_min_mul h).1, m.toNat_max_mul]
  simp [FpsRange.text, range]

end VarFPSMode

/-- The loop appends the texts of the modes. -/
lemma writeModes_eq {modes : List VarFPSMode} {buffers result : Text × Text}
    (hroom : buffers.1.length < MAX_PROP_VALUE_LENGTH)
    (h : modes.foldlM writeMode buffers = some result) :
    result = (buffers.1 ++ terminated ',' (modes.map VarFPSMode.text),
        buffers.2 ++ terminated ',' (modes.map VarFPSMode.rateText)) ∧
      result.1.length < MAX_PROP_VALUE_LENGTH := by
  induction modes generalizing buffers with
  | nil =>
    obtain rfl : buffers = result := Option.some_inj.mp h
    simp [terminated, hroom]
  | cons m modes ih =>
    have htext : m.text.length ≤ MAX_PROP_VALUE_LENGTH - 1 :=
      (List.length_take_le _ _).trans (by decide)
    have hrate : m.rateText.length ≤ MAX_PROP_VALUE_LENGTH - 1 :=
      (List.length_take_le _ _).trans (by decide)
    have hsep : [','].length ≤ MAX_PROP_VALUE_LENGTH - 1 := by decide
    rw [List.foldlM_cons] at h
    obtain ⟨next, hnext, hrest⟩ := Option.bind_eq_some_iff.mp h
    obtain ⟨b₁, h₁, hnext⟩ := Option.bind_eq_some_iff.mp hnext
    obtain ⟨b₂, h₂, hnext⟩ := Option.bind_eq_some_iff.mp hnext
    obtain ⟨b₃, h₃, hnext⟩ := Option.bind_eq_some_iff.mp hnext
    obtain ⟨b₄, h₄, hnext⟩ := Option.bind_eq_some_iff.mp hnext
    obtain rfl : (b₂, b₄) = next := Option.some_inj.mp hnext
    obtain ⟨rfl, -⟩ := strncat_eq_some htext h₁
    obtain ⟨rfl, hfit⟩ := strncat_eq_some hsep h₂
    obtain ⟨rfl, -⟩ := strncat_eq_some hrate h₃
    obtain ⟨rfl, -⟩ := strncat_eq_some hsep h₄
    obtain ⟨rfl, hlen⟩ := ih hfit hrest
    refine ⟨?_, hlen⟩
    simp [terminated]

/-- The text of ranges is that of their texts with commas between them. -/
lemma rangesText_eq (ranges : List FpsRange) :
    rangesText ranges = commaSeparated (ranges.map FpsRange.text) := by
  induction ranges with
  | nil => rfl
  | cons r ranges ih =>
    cases ranges with
    | nil => exact (commaSeparated_singleton r.text).symm
    | cons s ranges =>
      rw [List.map_cons, commaSeparated_cons _ (by simp), ← ih]
      rfl

/-- What `remove_last_sep` leaves is not longer. -/
lemma length_remove_last_sep_le (text : Text) : (remove_last_sep text).length ≤ text.length := by
  unfold remove_last_sep
  simp only
  split_ifs
  · exact (List.length_take_le' _ _)
  · exact le_rfl

/-- **The texts that are advertised**: the ranges and the rates of the modes, with commas between
them, or those of the default or of the fixed mode. -/
theorem insertPrvVFramerates_eq {CAMERA_FPS_FROM_OMX : Bool} {caps : VarFPSCaps}
    {supported rates : Text}
    (h : insertPrvVFramerates CAMERA_FPS_FROM_OMX caps = some (supported, rates)) :
    let modes := advertised CAMERA_FPS_FROM_OMX caps.tPrvVarFPSModes
    supported = commaSeparated (modes.map VarFPSMode.text) ∧
      rates = commaSeparated (modes.map fun m => printU m.max) ∧
      supported.length < MAX_PROP_VALUE_LENGTH := by
  cases CAMERA_FPS_FROM_OMX with
  | false =>
    obtain ⟨rfl, rfl⟩ := Prod.mk.inj (Option.some_inj.mp h)
    have hfixed : advertised false caps.tPrvVarFPSModes = [fixedMode] := rfl
    simp only [hfixed]
    decide
  | true =>
    obtain ⟨texts, hencode, htexts⟩ := Option.map_eq_some_iff.mp h
    obtain ⟨buffers, hbuffers, hdefault⟩ := Option.bind_eq_some_iff.mp hencode
    obtain ⟨rfl, hlen⟩ := writeModes_eq (by decide) hbuffers
    obtain ⟨rfl, rfl⟩ := Prod.mk.inj htexts
    have hchoice := Option.some_inj.mp hdefault
    have hrate : VarFPSMode.rateText = fun m => printU m.max := funext VarFPSMode.rateText_eq
    simp only [List.nil_append, hrate] at hchoice hlen
    cases hmodes : caps.tPrvVarFPSModes with
    | nil =>
      rw [hmodes] at hchoice
      have htexts : texts = defaultTexts := by
        rw [← hchoice]
        exact if_pos (.inl rfl)
      subst htexts
      decide
    | cons m modes =>
      rw [hmodes] at hchoice hlen
      have htext : terminated ',' ((m :: modes).map VarFPSMode.text) ≠ [] := by
        simp [terminated, VarFPSMode.text_eq]
      have hrates : terminated ',' ((m :: modes).map fun m => printU m.max) ≠ [] := by
        simp [terminated]
      rw [if_neg (not_or.mpr ⟨htext, hrates⟩)] at hchoice
      subst hchoice
      exact ⟨rfl, rfl, (length_remove_last_sep_le _).trans_lt hlen⟩

/-! ### What an application gets -/

/-- What fits in the modes fits in those that are advertised. -/
lemma min_le_of_mem_advertised {CAMERA_FPS_FROM_OMX : Bool} {modes : List VarFPSMode}
    (h : CAMERA_FPS_FROM_OMX → ∀ m ∈ modes, m.nVarFPSMin.toNat ≤ 2147483) :
    ∀ m ∈ advertised CAMERA_FPS_FROM_OMX modes, m.nVarFPSMin.toNat ≤ 2147483 := by
  unfold advertised
  split_ifs with hbuild hnil
  · intro m hm
    rw [List.mem_singleton.mp hm]
    decide
  · exact h hbuild
  · intro m hm
    rw [List.mem_singleton.mp hm]
    decide

/-- A rate that is printed without a sign is found. -/
lemma printD_max (m : VarFPSMode) : printD m.max = printU m.max := by
  have hle := m.max_le
  have hint : m.max.toInt = m.max.toNat := BitVec.toInt_eq_toNat_of_lt (by omega)
  have hpos : ¬ m.max.toInt < 0 := by omega
  rw [printD, if_neg hpos, hint, Int.toNat_natCast, printU]

/-- The range that is found for a rate. -/
lemma roundedRange_pmap {modes : List VarFPSMode}
    (h : ∀ m ∈ modes, m.nVarFPSMin.toNat ≤ 2147483) (framerate : BitVec 32) :
    (roundedRange framerate (modes.pmap VarFPSMode.range h)).map
        (fun r => (BitVec.ofNat 32 (r.min / 1000 * 1000), BitVec.ofNat 32 (r.max / 1000 * 1000))) =
      (modes.find? fun m => m.max = framerate).map
        fun m => (m.min * VFR_SCALE, m.max * VFR_SCALE) := by
  induction modes with
  | nil => rfl
  | cons m modes ih =>
    have hm := h m List.mem_cons_self
    have hle := m.max_le
    have hint : m.max.toInt = m.max.toNat := BitVec.toInt_eq_toNat_of_lt (by omega)
    have hdiv : ((m.range hm).max : ℤ) / 1000 = m.max.toInt := by
      have hmax : (m.range hm).max = m.max.toNat * 1000 := rfl
      rw [hint, hmax]
      omega
    have hsame : framerate.toInt = ((m.range hm).max : ℤ) / 1000 ↔ m.max = framerate := by
      rw [hdiv, BitVec.toInt_inj, eq_comm]
    by_cases hrate : m.max = framerate
    · have hfound : roundedRange framerate ((m :: modes).pmap VarFPSMode.range h) =
          some (m.range hm) := List.find?_cons_of_pos (by simpa using hsame.mpr hrate)
      have hfind : (m :: modes).find? (fun m => m.max = framerate) = some m :=
        List.find?_cons_of_pos (by simpa using hrate)
      rw [hfound, hfind, Option.map_some, Option.map_some, m.ofNat_min hm, m.ofNat_max hm]
    · have hskip : roundedRange framerate ((m :: modes).pmap VarFPSMode.range h) =
          roundedRange framerate (modes.pmap VarFPSMode.range
            fun m hm => h m (List.mem_cons_of_mem _ hm)) :=
        List.find?_cons_of_neg (by simpa using mt hsame.mp hrate)
      have hrest : (m :: modes).find? (fun m => m.max = framerate) =
          modes.find? fun m => m.max = framerate :=
        List.find?_cons_of_neg (by simpa using hrate)
      rw [hskip, hrest]
      exact ih fun m hm => h m (List.mem_cons_of_mem _ hm)

/-- **What is advertised is accepted, and selects the right range**, in both builds: for all modes
whose texts fit in the buffers and, where they are advertised, whose lower bounds fit an `int`, the
rate and the range of each mode that is advertised pass the tests of `setParameters`, and the range
that `selectFPSRange` writes for a rate is that of the first mode with this rate, with its bounds as
they are advertised; it writes none for other rates.

**Proof sketch.** The bounds are multiples of `VFR_SCALE`, so dividing by it loses nothing. -/
theorem advertised_rates {CAMERA_FPS_FROM_OMX : Bool} {caps : VarFPSCaps} {supported rates : Text}
    (h : insertPrvVFramerates CAMERA_FPS_FROM_OMX caps = some (supported, rates))
    (hmin : CAMERA_FPS_FROM_OMX → ∀ m ∈ caps.tPrvVarFPSModes, m.nVarFPSMin.toNat ≤ 2147483) :
    (∀ m ∈ advertised CAMERA_FPS_FROM_OMX caps.tPrvVarFPSModes,
        isNumberValid m.max (some rates) = true ∧
          isParameterValid (some m.parameter) (some supported) = true) ∧
      ∀ framerate, copiedFPSRange framerate supported =
        some (((advertised CAMERA_FPS_FROM_OMX caps.tPrvVarFPSModes).find?
          fun m => m.max = framerate).map fun m => (m.min * VFR_SCALE, m.max * VFR_SCALE)) := by
  obtain ⟨hsupported, hrates, hlen⟩ := insertPrvVFramerates_eq h
  have hfits := min_le_of_mem_advertised hmin
  generalize advertised CAMERA_FPS_FROM_OMX caps.tPrvVarFPSModes = modes at hsupported hrates hfits
  constructor
  · intro m hm
    constructor
    · rw [isNumberValid_eq, hrates, isParameterValid_iff, printD_max]
      exact nameOccurs_of_mem (List.mem_map.mpr ⟨m, hm, rfl⟩)
    · rw [isParameterValid, strstr_iff, hsupported]
      have hinfix : m.parameter <:+: m.text := by
        rw [m.text_eq]
        exact ⟨['('], [')'], by simp⟩
      exact hinfix.trans (infix_commaSeparated_of_mem (List.mem_map.mpr ⟨m, hm, rfl⟩))
  · intro framerate
    have htext : supported = rangesText (modes.pmap VarFPSMode.range hfits) := by
      rw [hsupported, rangesText_eq, List.map_pmap]
      simp only [VarFPSMode.text_range, List.pmap_eq_map]
    have hroom : supported.length + 1 ≤ MAX_PROP_VALUE_LENGTH := hlen
    rw [copiedFPSRange, if_pos hroom, htext, selectFPSRange_rangesText, roundedRange_pmap]

/-- The fixed mode, and two modes of a sensor. -/
theorem advertised_rates_two :
    ((∀ m ∈ advertised false [⟨15, 15⟩, ⟨3, 90⟩],
        isNumberValid m.max (some "30".toList) = true ∧
          isParameterValid (some m.parameter) (some "(5000,30000)".toList) = true) ∧
      ∀ framerate, copiedFPSRange framerate "(5000,30000)".toList =
        some (((advertised false [⟨15, 15⟩, ⟨3, 90⟩]).find? fun m => m.max = framerate).map
          fun m => (m.min * VFR_SCALE, m.max * VFR_SCALE))) ∧
    (∀ m ∈ advertised true [⟨15, 15⟩, ⟨3, 90⟩],
        isNumberValid m.max (some "15,60".toList) = true ∧
          isParameterValid (some m.parameter) (some "(15000,15000),(5000,60000)".toList) = true) ∧
      ∀ framerate, copiedFPSRange framerate "(15000,15000),(5000,60000)".toList =
        some (((advertised true [⟨15, 15⟩, ⟨3, 90⟩]).find? fun m => m.max = framerate).map
          fun m => (m.min * VFR_SCALE, m.max * VFR_SCALE)) :=
  ⟨@advertised_rates false ⟨[⟨15, 15⟩, ⟨3, 90⟩]⟩ _ _ (by decide) (by decide),
    @advertised_rates true ⟨[⟨15, 15⟩, ⟨3, 90⟩]⟩ _ _ (by decide) (by decide)⟩

end CameraHal
