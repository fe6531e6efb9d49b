import Mathlib.Data.List.TakeWhile
import Gs702aHal.Camera.SetParameters

set_option relaxedAutoImplicit false
set_option autoImplicit false

/-!
# The range for a frame rate

An application that sets a constant frame rate gets the first supported range with that rate as its
upper bound: `selectFPSRange` cuts the text of the supported ranges with `strtok` and divides each
number by `VFR_SCALE` before it compares. Its caller has not set the two variables that it writes.

## Main definitions

* `CameraHal.FpsRange`, `CameraHal.rangesText` — a range, and the text of a list of ranges.
* `CameraHal.copiedFPSRange` — `selectFPSRange` with the copy of the text that it makes.
* `CameraHal.SetsListed` — it writes the bounds of the right range as they are listed.
* `CameraHal.SetParameters.StoresSetRange` — the frame rate that `setParameters` stores comes from a
  variable that was set.

## Main results

* `CameraHal.fpsRange_iff` — when it does so, and when the variable was set.
-/

namespace CameraHal

open CheckedUpdates ParamKey

/-! ### Ranges and their texts -/

/-- A range of frame rates, in thousandths; both bounds are an `int`. -/
structure FpsRange where
  min : ℕ
  max : ℕ
  min_lt : min < 2147483648
  max_lt : max < 2147483648

/-- The text of a range: `(min,max)`. -/
def FpsRange.text (r : FpsRange) : Text :=
  '(' :: (Nat.toDigits 10 r.min ++ ',' :: (Nat.toDigits 10 r.max ++ [')']))

/-- The text of a list of ranges, with commas between them. -/
def rangesText : List FpsRange → Text
  | [] => []
  | [r] => r.text
  | r :: rest => r.text ++ ',' :: rangesText rest

/-- The bounds of a range as `int`s. -/
def FpsRange.bounds (r : FpsRange) : BitVec 32 × BitVec 32 :=
  (BitVec.ofNat 32 r.min, BitVec.ofNat 32 r.max)

/-- `selectFPSRange` with the copy of the supported ranges on the stack, which has room for
`MAX_PROP_VALUE_LENGTH` letters: the range it writes, if any. -/
def copiedFPSRange (framerate : BitVec 32) (supported : Text) :
    Option (Option (BitVec 32 × BitVec 32)) :=
  if supported.length + 1 ≤ MAX_PROP_VALUE_LENGTH then some (selectFPSRange framerate supported)
  else none

/-- The first range whose upper bound is the frame rate. -/
def listedRange (framerate : BitVec 32) (ranges : List FpsRange) : Option FpsRange :=
  ranges.find? fun r => framerate.toInt * 1000 = r.max

/-- The first range whose upper bound is the frame rate if it is rounded down. -/
def roundedRange (framerate : BitVec 32) (ranges : List FpsRange) : Option FpsRange :=
  ranges.find? fun r => framerate.toInt = r.max / 1000

/-- The range that is written is the first one with the frame rate, with its bounds as they are
listed; nothing is written if there is none. -/
def SetsListed (framerate : BitVec 32) (ranges : List FpsRange) : Prop :=
  copiedFPSRange framerate (rangesText ranges) =
    some ((listedRange framerate ranges).map FpsRange.bounds)

/-- The lower bound that is listed is the one that is found, rounded down. -/
def Agree (framerate : BitVec 32) (ranges : List FpsRange) : Prop :=
  ∀ r, roundedRange framerate ranges = some r →
    ∃ s, listedRange framerate ranges = some s ∧ s.min = r.min / 1000 * 1000

/-! ### What `strtok` and `atoi` find -/

/-- A printed number has no delimiter. -/
lemma notMem_delimiters (n : ℕ) : ∀ c ∈ Nat.toDigits 10 n, c ∉ " (,)".toList := by
  intro c hc hmem
  have hdigit := Nat.isDigit_of_mem_toDigits (by decide) (by decide) hc
  revert hdigit
  rw [show " (,)".toList = [' ', '(', ',', ')'] from rfl] at hmem
  simp only [List.mem_cons, List.not_mem_nil, or_false] at hmem
  rcases hmem with rfl | rfl | rfl | rfl <;> decide

/-- The delimiters, one by one. -/
lemma mem_delimiters : '(' ∈ " (,)".toList ∧ ',' ∈ " (,)".toList ∧ ')' ∈ " (,)".toList := by
  decide

/-- The two numbers of a range are found before what follows. -/
lemma pieces_text (r : FpsRange) (text : Text) :
    pieces " (,)".toList (r.text ++ text) =
      Nat.toDigits 10 r.min :: Nat.toDigits 10 r.max :: pieces " (,)".toList text := by
  obtain ⟨hopen, hcomma, hclose⟩ := mem_delimiters
  have htext : r.text ++ text =
      '(' :: (Nat.toDigits 10 r.min ++ ',' :: (Nat.toDigits 10 r.max ++ ')' :: text)) := by
    simp only [FpsRange.text, List.cons_append, List.append_assoc, List.nil_append]
  rw [htext, pieces_cons_of_mem hopen,
    pieces_append_cons Nat.toDigits_ne_nil (notMem_delimiters r.min) hcomma,
    pieces_append_cons Nat.toDigits_ne_nil (notMem_delimiters r.max) hclose]

/-- The numbers of all ranges are found, in their order. -/
lemma pieces_rangesText (ranges : List FpsRange) :
    pieces " (,)".toList (rangesText ranges) =
      ranges.flatMap fun r => [Nat.toDigits 10 r.min, Nat.toDigits 10 r.max] := by
  induction ranges with
  | nil => rfl
  | cons r rest ih =>
    cases rest with
    | nil =>
      have hpieces := pieces_text r []
      rw [List.append_nil] at hpieces
      exact hpieces
    | cons s rest =>
      rw [List.flatMap_cons, ← ih]
      show pieces " (,)".toList (r.text ++ ',' :: rangesText (s :: rest)) = _
      rw [pieces_text, pieces_cons_of_mem mem_delimiters.2.1]
      rfl

/-- Digits of an `int` are read as their number. -/
lemma atoi_digits {digits : Text} (hne : digits ≠ []) (hdigits : ∀ c ∈ digits, c.isDigit = true)
    (h : Nat.ofDigitChars 10 digits 0 < 2147483648) :
    atoi digits = BitVec.ofNat 32 (Nat.ofDigitChars 10 digits 0) := by
  obtain ⟨d, ds, rfl⟩ := List.exists_cons_of_ne_nil hne
  have hd : d.isDigit = true := hdigits d List.mem_cons_self
  have hspace : d.isWhitespace = false := by
    by_contra hspace
    rw [Bool.not_eq_false] at hspace
    simp only [Char.isWhitespace, Bool.or_eq_true, decide_eq_true_eq] at hspace
    rcases hspace with ((rfl | rfl) | rfl) | rfl <;> exact absurd hd (by decide)
  have hvalue : digitsValue (d :: ds) = Nat.ofDigitChars 10 (d :: ds) 0 := by
    rw [digitsValue, List.takeWhile_eq_self_iff.mpr hdigits, ← Nat.ofDigitChars_eq_foldl]
  have hminus : d ≠ '-' := fun heq => absurd hd (by rw [heq]; decide)
  have hplus : d ≠ '+' := fun heq => absurd hd (by rw [heq]; decide)
  have hfits : ∀ value : ℤ, value = Nat.ofDigitChars 10 (d :: ds) 0 →
      BitVec.ofInt 32 (max (-2147483648) (min 2147483647 value)) =
        BitVec.ofNat 32 (Nat.ofDigitChars 10 (d :: ds) 0) := by
    rintro value rfl
    rw [min_eq_right (by omega), max_eq_right (by omega)]
    rfl
  unfold atoi
  rw [List.dropWhile_cons_of_neg (by rw [hspace]; decide)]
  apply hfits
  split
  · rename_i rest heq
    exact absurd (List.cons.inj heq).1 hminus
  · rename_i rest heq
    exact absurd (List.cons.inj heq).1 hplus
  · rw [hvalue]

/-- A printed number that is an `int` is read back. -/
lemma atoi_toDigits {n : ℕ} (h : n < 2147483648) :
    atoi (Nat.toDigits 10 n) = BitVec.ofNat 32 n := by
  have hvalue : Nat.ofDigitChars 10 (Nat.toDigits 10 n) 0 = n := Nat.ofDigitChars_ten_toDigits
  have hdigits : ∀ c ∈ Nat.toDigits 10 n, c.isDigit = true := fun c hc =>
    Nat.isDigit_of_mem_toDigits (by decide) (by decide) hc
  rw [atoi_digits Nat.toDigits_ne_nil hdigits (by rwa [hvalue]), hvalue]

/-- The loop compares the upper bounds rounded down, and writes both bounds rounded down. -/
lemma selectRange_eq (framerate : BitVec 32) (ranges : List FpsRange) :
    selectRange framerate
        (ranges.flatMap fun r => [Nat.toDigits 10 r.min, Nat.toDigits 10 r.max]) =
      (roundedRange framerate ranges).map fun r =>
        (BitVec.ofNat 32 (r.min / 1000 * 1000), BitVec.ofNat 32 (r.max / 1000 * 1000)) := by
  induction ranges with
  | nil => rfl
  | cons r rest ih =>
    have hmin := r.min_lt
    have hmax := r.max_lt
    have hdiv : ∀ n < 2147483648, BitVec.ofNat 32 n / VFR_SCALE = BitVec.ofNat 32 (n / 1000) := by
      intro n hn
      apply BitVec.eq_of_toNat_eq
      rw [BitVec.toNat_udiv, BitVec.toNat_ofNat, BitVec.toNat_ofNat,
        show VFR_SCALE.toNat = 1000 from rfl]
      omega
    have hmul : ∀ n < 2147483648, BitVec.ofNat 32 (n / 1000) * VFR_SCALE =
        BitVec.ofNat 32 (n / 1000 * 1000) := by
      intro n hn
      apply BitVec.eq_of_toNat_eq
      rw [BitVec.toNat_mul, BitVec.toNat_ofNat, BitVec.toNat_ofNat,
        show VFR_SCALE.toNat = 1000 from rfl]
      omega
    have hmatch : framerate = BitVec.ofNat 32 (r.max / 1000) ↔
        framerate.toInt = (r.max : ℤ) / 1000 := by
      have hlt := framerate.isLt
      rw [← BitVec.toNat_inj, BitVec.toNat_ofNat, BitVec.toInt_eq_toNat_cond]
      split_ifs <;> omega
    rw [List.flatMap_cons]
    show (if framerate = atoi (Nat.toDigits 10 r.max) / VFR_SCALE then _
      else selectRange framerate (rest.flatMap _)) = _
    rw [atoi_toDigits hmin, atoi_toDigits hmax, hdiv _ hmin, hdiv _ hmax, hmul _ hmin,
      hmul _ hmax, ih]
    by_cases hrate : framerate.toInt = (r.max : ℤ) / 1000
    · have hfind : roundedRange framerate (r :: rest) = some r :=
        List.find?_cons_of_pos (by simpa using hrate)
      rw [if_pos (hmatch.mpr hrate), hfind]
      rfl
    · have hfind : roundedRange framerate (r :: rest) = roundedRange framerate rest :=
        List.find?_cons_of_neg (by simpa using hrate)
      rw [if_neg fun h => hrate (hmatch.mp h), hfind]

/-- The range that is written, for a list of ranges. -/
lemma selectFPSRange_rangesText (framerate : BitVec 32) (ranges : List FpsRange) :
    selectFPSRange framerate (rangesText ranges) =
      (roundedRange framerate ranges).map fun r =>
        (BitVec.ofNat 32 (r.min / 1000 * 1000), BitVec.ofNat 32 (r.max / 1000 * 1000)) := by
  rw [selectFPSRange, pieces_rangesText, selectRange_eq]

/-! ### When the right range is written -/

/-- A range with the frame rate as its upper bound is one with the rounded bound. -/
lemma roundedRange_of_listedRange {framerate : BitVec 32} {ranges : List FpsRange}
    (h : roundedRange framerate ranges = none) : listedRange framerate ranges = none := by
  unfold roundedRange at h
  unfold listedRange
  rw [List.find?_eq_none] at h ⊢
  intro r hr
  have hne := h r hr
  simp only [decide_eq_true_eq] at hne ⊢
  omega

/-- Numbers that fit are equal if their words are. -/
lemma ofNat_inj {a b : ℕ} (ha : a < 2147483648) (hb : b < 2147483648) :
    BitVec.ofNat 32 a = BitVec.ofNat 32 b ↔ a = b := by
  rw [← BitVec.toNat_inj, BitVec.toNat_ofNat, BitVec.toNat_ofNat]
  omega

/-- With room for the copy, the right range is written exactly if the bounds agree. -/
lemma setsListed_iff (framerate : BitVec 32) (ranges : List FpsRange) :
    SetsListed framerate ranges ↔
      (rangesText ranges).length + 1 ≤ MAX_PROP_VALUE_LENGTH ∧ Agree framerate ranges := by
  unfold SetsListed copiedFPSRange Agree
  split_ifs with hroom
  · rw [selectFPSRange_rangesText, Option.some.injEq]
    simp only [hroom, true_and]
    cases hround : roundedRange framerate ranges with
    | none => simp [roundedRange_of_listedRange hround]
    | some r =>
      have hrate : framerate.toInt = (r.max : ℤ) / 1000 := by
        simpa using List.find?_some hround
      have hmin := r.min_lt
      have hmax := r.max_lt
      simp only [Option.map_some, Option.some.injEq, forall_eq']
      cases hlisted : listedRange framerate ranges with
      | none => simp
      | some s =>
        have hupper : framerate.toInt * 1000 = s.max := by simpa using List.find?_some hlisted
        have hslt := s.max_lt
        have hsmin := s.min_lt
        simp only [Option.map_some, Option.some.injEq, FpsRange.bounds, Prod.mk.injEq,
          exists_eq_left']
        rw [ofNat_inj (by omega) hsmin, ofNat_inj (by omega) hslt]
        omega
  · simp only [hroom, false_and]

namespace SetParameters

variable {P : Type} (api : CameraParameters P) (call : Call P)

/-! ### The frame rate that is stored -/

/-- What is stored for an accepted frame rate does not depend on what `maxFPS` held before it was
set. -/
def StoresSetRange : Prop :=
  ∀ mParameters ws effect, (frameRate api call).body mParameters = .copy ws effect →
    ∀ held, (frameRate api { call with maxFPS := held }).body mParameters = .copy ws effect

/-- The application leaves the range and gives a new frame rate, which is accepted. -/
structure NewConstantRate : Prop where
  accepted : ¬(frameRateInvalid api call = true ∧ call.buildMode = "CTS".toList)
  range : api.get call.params KEY_PREVIEW_FPS_RANGE =
    some (call.properties .PREVIEW_FRAMERATE_RANGE)
  rate : api.getInt call.params KEY_PREVIEW_FRAME_RATE ≠ atoi (call.properties .PREVIEW_FRAME_RATE)

/-- What the block does for a new constant frame rate. -/
lemma frameRate_of_newConstantRate (h : NewConstantRate api call) (mParameters : P) :
    (frameRate api call).body mParameters =
      copy [.setInt KEY_PREVIEW_FRAME_RATE
          (((selectFPSRange (api.getInt call.params KEY_PREVIEW_FRAME_RATE)
            (call.properties .PREVIEW_FRAMERATE_RANGE_SUPPORTED)).map Prod.snd).getD call.maxFPS /
              VFR_SCALE),
        .set KEY_PREVIEW_FPS_RANGE (call.properties .PREVIEW_FRAMERATE_RANGE)] := by
  show (if (frameRateInvalid api call && decide (call.buildMode = "CTS".toList)) = true then _
    else _) = _
  rw [if_neg (by simpa using h.accepted)]
  simp only [h.range, newFrameRate, ne_eq, not_true_eq_false, if_false, h.rate, not_false_eq_true,
    if_true]

/-- In every other case, `maxFPS` is not read, or set before. -/
lemma frameRate_congr (h : ¬NewConstantRate api call) (held : BitVec 32) (mParameters : P) :
    (frameRate api { call with maxFPS := held }).body mParameters =
      (frameRate api call).body mParameters := by
  show (if (frameRateInvalid api call && decide (call.buildMode = "CTS".toList)) = true then _
      else _) =
    (if (frameRateInvalid api call && decide (call.buildMode = "CTS".toList)) = true then _
      else _)
  by_cases hrefused : (frameRateInvalid api call && decide (call.buildMode = "CTS".toList)) = true
  · rw [if_pos hrefused, if_pos hrefused]
  · rw [if_neg hrefused, if_neg hrefused]
    have hnew : ∀ valstr, api.get call.params KEY_PREVIEW_FPS_RANGE = some valstr →
        newFrameRate api { call with maxFPS := held } valstr = newFrameRate api call valstr := by
      intro valstr hget
      unfold newFrameRate
      dsimp only
      split_ifs with hrange hnegative hrate
      · rfl
      · rfl
      · rw [ne_eq, not_not] at hrange
        exact absurd ⟨by simpa using hrefused, hrange ▸ hget, hrate⟩ h
      · rfl
    cases hget : api.get call.params KEY_PREVIEW_FPS_RANGE with
    | none => rfl
    | some valstr => simp only [hnew valstr hget]

/-- A different frame rate is stored for different contents of `maxFPS` if no range is found. -/
lemma storesSetRange_iff :
    StoresSetRange api call ↔
      (NewConstantRate api call →
        selectFPSRange (api.getInt call.params KEY_PREVIEW_FRAME_RATE)
          (call.properties .PREVIEW_FRAMERATE_RANGE_SUPPORTED) ≠ none) := by
  constructor
  · intro hstores hnew hnone
    have hheld : ∀ held, NewConstantRate api { call with maxFPS := held } := fun held =>
      ⟨hnew.accepted, hnew.range, hnew.rate⟩
    have hbody := frameRate_of_newConstantRate api call hnew call.params
    have hzero := hstores call.params _ _ hbody 0#32
    have hone := hstores call.params _ _ hbody 1000#32
    rw [frameRate_of_newConstantRate api _ (hheld 0#32)] at hzero
    rw [frameRate_of_newConstantRate api _ (hheld 1000#32)] at hone
    have heq := hzero.trans hone.symm
    simp only [hnone, copy, Option.map_none, Option.getD_none, Verdict.copy.injEq, List.cons.injEq,
      ParamWrite.setInt.injEq] at heq
    exact absurd heq.1.1.2 (by decide)
  · intro hfound mParameters ws effect hbody held
    by_cases hnew : NewConstantRate api call
    · have hnew' : NewConstantRate api { call with maxFPS := held } :=
        ⟨hnew.accepted, hnew.range, hnew.rate⟩
      obtain ⟨range, hrange⟩ := Option.ne_none_iff_exists'.mp (hfound hnew)
      rw [frameRate_of_newConstantRate api call hnew, hrange] at hbody
      rw [frameRate_of_newConstantRate api _ hnew', hrange]
      exact hbody
    · rw [frameRate_congr api call hnew]
      exact hbody

end SetParameters

open SetParameters

/-- **The range for a frame rate.** For every list of ranges and every frame rate, `selectFPSRange`
writes the bounds of the first range with that upper bound as they are listed, and nothing if there
is none, exactly if the text has room on the stack and rounding does no harm: if some upper bound is
the frame rate when it is rounded down, then some upper bound is the frame rate itself, and the
first such range has the lower bound that is found, rounded down to a multiple of `VFR_SCALE`. What
`setParameters` stores for an accepted frame rate comes from a variable that was set exactly if the
application did not give a new constant rate, or some range has it as its rounded upper bound.

**Proof sketch.** `strtok` finds the numbers of the ranges in order, so that the loop looks for the
first rounded upper bound. Without one it writes nothing, and the caller divides what it has. -/
theorem fpsRange_iff (ranges : List FpsRange) :
    (∀ framerate, SetsListed framerate ranges ↔
      (rangesText ranges).length + 1 ≤ MAX_PROP_VALUE_LENGTH ∧ Agree framerate ranges) ∧
    ∀ (P : Type) (api : CameraParameters P) (call : Call P),
      call.properties .PREVIEW_FRAMERATE_RANGE_SUPPORTED = rangesText ranges →
      (StoresSetRange api call ↔
        (NewConstantRate api call → ∃ r ∈ ranges,
          (api.getInt call.params KEY_PREVIEW_FRAME_RATE).toInt = r.max / 1000)) := by
  refine ⟨fun framerate => setsListed_iff framerate ranges, fun P api call hsupported => ?_⟩
  rw [storesSetRange_iff, hsupported, selectFPSRange_rangesText]
  refine imp_congr_right fun _ => ?_
  rw [ne_eq, Option.map_eq_none_iff, roundedRange, List.find?_eq_none]
  simp only [decide_eq_true_eq, not_forall, not_not, exists_prop]

/-- A call with a constant frame rate, and the range as it is stored. -/
def constantRate (rate supported : Text) : Call (ParamKey → Option Text) where
  params
    | KEY_PREVIEW_FRAME_RATE => some rate
    | KEY_PREVIEW_FPS_RANGE => some "5000,30000".toList
    | _ => none
  properties
    | .PREVIEW_FRAMERATE_RANGE => "5000,30000".toList
    | .PREVIEW_FRAMERATE_RANGE_SUPPORTED => supported
    | .PREVIEW_FRAME_RATE => "30".toList
    | .SUPPORTED_PREVIEW_FRAME_RATES => "15,30".toList
    | _ => []
  mExtendedVideoResolution := []
  previewEnabled := false
  mRecordingEnabled := false
  mMaxZoomSupported := 0#32
  buildMode := []
  maxFPS := 0#32
  adapter := some Status.NO_ERROR
  restartPreview := Status.NO_ERROR

/-- Two ranges, one for each supported rate. -/
def twoRanges : List FpsRange :=
  [⟨5000, 15000, by decide, by decide⟩, ⟨5000, 30000, by decide, by decide⟩]

/-- The range for fifteen frames a second is found among two. -/
theorem fpsRange_twoRanges :
    (SetsListed 15#32 twoRanges ↔
      (rangesText twoRanges).length + 1 ≤ MAX_PROP_VALUE_LENGTH ∧ Agree 15#32 twoRanges) ∧
    (StoresSetRange mapParameters (constantRate "15".toList (rangesText twoRanges)) ↔
      (NewConstantRate mapParameters (constantRate "15".toList (rangesText twoRanges)) →
        ∃ r ∈ twoRanges,
          (mapParameters.getInt (constantRate "15".toList (rangesText twoRanges)).params
            KEY_PREVIEW_FRAME_RATE).toInt = r.max / 1000)) :=
  ⟨(fpsRange_iff twoRanges).1 15#32, (fpsRange_iff twoRanges).2 _ mapParameters
    (constantRate "15".toList (rangesText twoRanges)) rfl⟩

/-- With the one range `(5000,30000)`, fifteen frames a second are accepted, and what is stored is
what happened to be in `maxFPS`. -/
theorem not_storesSetRange :
    ¬StoresSetRange mapParameters (constantRate "15".toList "(5000,30000)".toList) := by
  intro hstores
  rw [storesSetRange_iff] at hstores
  refine hstores ⟨?_, rfl, by decide⟩ (by decide)
  exact fun h => absurd h.2 (by decide)

/-- The bounds `7500` and `30999` are not written as they are listed. -/
example : selectFPSRange 30#32 "(7500,30999)".toList = some (7000#32, 30000#32) := by decide

end CameraHal
