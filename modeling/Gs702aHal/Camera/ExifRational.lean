import Gs702aHal.Camera.Exif
import Gs702aHal.Camera.FpsRange
import Mathlib.Tactic.FieldSimp
import Mathlib.Tactic.Ring

set_option relaxedAutoImplicit false
set_option autoImplicit false

/-!
# Decimal texts as rationals

`ExifElementsTable::stringToRational` cuts a decimal text at its point, reads the parts as integers
and puts them together over a power of ten. A zero before the point is taken for a one.

## Main definitions

* `CameraHal.Exif.decimalText` — a text of digits, with a point and further digits or without.
* `CameraHal.Exif.decimalValue` — the number that it denotes.
* `CameraHal.Exif.IsRational` — a numerator and a denominator of this number.

## Main results

* `CameraHal.Exif.stringToRational_decimalText` — what is computed for such a text.
* `CameraHal.Exif.stringToRational_exact_iff` — it is the number exactly if there is memory for the
  copy of the text and the part before the point is not zero.
-/

namespace CameraHal

namespace Exif

/-- The number of some digits. -/
def number (digits : Text) : ℕ := Nat.ofDigitChars 10 digits 0

/-- The decimal text with these digits before and after the point. -/
def decimalText (whole fraction : Text) : Text :=
  if fraction = [] then whole else whole ++ '.' :: fraction

/-- The number that a decimal text denotes. -/
def decimalValue (whole fraction : Text) : ℚ :=
  number whole + (number fraction : ℚ) / 10 ^ fraction.length

/-- A numerator and a denominator are the number that a decimal text denotes, over the power of ten
of the digits behind the point. -/
def IsRational (whole fraction : Text) (r : BitVec 32 × BitVec 32) : Prop :=
  r.2.toNat = 10 ^ fraction.length ∧ (r.1.toNat : ℚ) / r.2.toNat = decimalValue whole fraction

/-- Digits, the last at most nine behind the point, of a number whose numerator is an `int`. -/
structure IsDecimal (whole fraction : Text) : Prop where
  whole_ne : whole ≠ []
  digits : ∀ c ∈ whole ++ fraction, c.isDigit = true
  length_le : fraction.length ≤ 9
  fits : decimalValue whole fraction * 10 ^ fraction.length < 2 ^ 31

variable {s : Surroundings} {whole fraction : Text}

/-- The numerator of a decimal text. -/
lemma decimalValue_mul (whole fraction : Text) :
    decimalValue whole fraction * 10 ^ fraction.length =
      ((number whole * 10 ^ fraction.length + number fraction : ℕ) : ℚ) := by
  have hpow : (10 : ℚ) ^ fraction.length ≠ 0 := pow_ne_zero _ (by norm_num)
  rw [decimalValue, add_mul, div_mul_cancel₀ _ hpow]
  push_cast
  rfl

/-- The numerator is an `int`. -/
lemma IsDecimal.numerator_lt (h : IsDecimal whole fraction) :
    number whole * 10 ^ fraction.length + number fraction < 2 ^ 31 := by
  have hfits := h.fits
  rw [decimalValue_mul] at hfits
  exact_mod_cast hfits

/-- A digit is no point. -/
lemma notMem_point {digits : Text} (h : ∀ c ∈ digits, c.isDigit = true) :
    ∀ c ∈ digits, c ∉ ['.'] := by
  intro c hc hpoint
  obtain rfl := List.mem_singleton.mp hpoint
  exact absurd (h '.' hc) (by decide)

/-- The pieces of a decimal text are the digits before and after the point. -/
lemma pieces_decimalText (h : IsDecimal whole fraction) :
    pieces ['.'] (decimalText whole fraction) =
      if fraction = [] then [whole] else [whole, fraction] := by
  have hwhole := notMem_point fun c hc => h.digits c (List.mem_append_left fraction hc)
  have hfraction := notMem_point fun c hc => h.digits c (List.mem_append_right whole hc)
  unfold decimalText
  by_cases hnil : fraction = []
  · rw [if_pos hnil, if_pos hnil, pieces_eq_singleton h.whole_ne hwhole]
  · rw [if_neg hnil, if_neg hnil, pieces_append_cons h.whole_ne hwhole (List.mem_singleton.mpr rfl),
      pieces_eq_singleton hnil hfraction]

/-- The part before the point as it is used: a zero becomes a one. -/
def wholeRead (whole : Text) : ℕ := if number whole = 0 then 1 else number whole

/-- What `stringToRational` computes for a decimal text: numerator and denominator have no
overflow, and the part before the point is not zero. -/
lemma stringToRational_decimalText (h : IsDecimal whole fraction) (hcopied : s.copied = true) :
    stringToRational s (some (decimalText whole fraction)) =
      (BitVec.ofNat 32 (wholeRead whole * 10 ^ fraction.length + number fraction),
        BitVec.ofNat 32 (10 ^ fraction.length)) := by
  have hnum := h.numerator_lt
  have hpow : 10 ^ fraction.length ≤ 10 ^ 9 := Nat.pow_le_pow_right (by decide) h.length_le
  have hpos : 0 < 10 ^ fraction.length := Nat.pow_pos (by decide)
  have hwholeLe : number whole ≤ number whole * 10 ^ fraction.length :=
    Nat.le_mul_of_pos_right _ hpos
  have hwhole : atoi whole = BitVec.ofNat 32 (number whole) :=
    atoi_digits h.whole_ne (fun c hc => h.digits c (List.mem_append_left fraction hc))
      (show number whole < 2147483648 by omega)
  have hread : (if atoi whole = 0#32 then 1#32 else atoi whole) =
      BitVec.ofNat 32 (wholeRead whole) := by
    have hzero : BitVec.ofNat 32 (number whole) = 0#32 ↔ number whole = 0 := by
      rw [← BitVec.toNat_inj, BitVec.toNat_ofNat, BitVec.toNat_ofNat]
      omega
    simp only [hwhole, hzero, wholeRead]
    split <;> rfl
  unfold stringToRational
  simp only [hcopied, Bool.true_eq_false, if_false, pieces_decimalText h]
  by_cases hnil : fraction = []
  · subst hnil
    simp [hread, number]
  · have hfraction : atoi fraction = BitVec.ofNat 32 (number fraction) :=
      atoi_digits hnil (fun c hc => h.digits c (List.mem_append_right whole hc))
        (show number fraction < 2147483648 by omega)
    have hmin : min (10 ^ fraction.length) 4294967295 = 10 ^ fraction.length :=
      min_eq_left (by omega)
    simp only [if_neg hnil, hread, hfraction, hmin, BitVec.ofNat_add, BitVec.ofNat_mul]

/-- **A decimal text becomes the number that it denotes exactly if its part before the point is not
zero.** For every text of digits with at most nine digits behind a point, whose numerator is an
`int`: numerator and denominator are the number that the text denotes, over the power of ten of the
digits behind the point, exactly if there is memory for the copy of the text and the digits before
the point are not all zero.

**Proof sketch.** The parts are read as the numbers that they are, except that a zero before the
point is read as a one. Nothing overflows, so the fraction is the number with a one there. -/
theorem stringToRational_exact_iff (s : Surroundings) {whole fraction : Text}
    (h : IsDecimal whole fraction) :
    IsRational whole fraction (stringToRational s (some (decimalText whole fraction))) ↔
      s.copied = true ∧ number whole ≠ 0 := by
  have hnum := h.numerator_lt
  have hpow : 10 ^ fraction.length ≤ 10 ^ 9 := Nat.pow_le_pow_right (by decide) h.length_le
  have hpos : 0 < 10 ^ fraction.length := Nat.pow_pos (by decide)
  cases hcopied : s.copied with
  | false =>
    have hzeros : stringToRational s (some (decimalText whole fraction)) = (0#32, 0#32) := by
      simp [stringToRational, hcopied]
    rw [hzeros, IsRational]
    constructor
    · rintro ⟨hden, -⟩
      have hden' : 0 = 10 ^ fraction.length := hden
      omega
    · rintro ⟨hmemory, -⟩
      exact absurd hmemory Bool.false_ne_true
  | true =>
    have hden : (BitVec.ofNat 32 (10 ^ fraction.length)).toNat = 10 ^ fraction.length := by
      rw [BitVec.toNat_ofNat, Nat.mod_eq_of_lt (by omega)]
    have hden' : ((10 ^ fraction.length : ℕ) : ℚ) ≠ 0 := by
      rw [Nat.cast_ne_zero]
      omega
    have hvalue := decimalValue_mul whole fraction
    rw [stringToRational_decimalText h hcopied, IsRational]
    simp only [hden, true_and]
    rw [div_eq_iff hden', Nat.cast_pow, Nat.cast_ofNat, hvalue, Nat.cast_inj, BitVec.toNat_ofNat,
      wholeRead]
    split
    · rename_i hzero
      rw [hzero, Nat.mod_eq_of_lt (by omega)]
      omega
    · rename_i hne
      rw [Nat.mod_eq_of_lt (by omega)]
      simp [hne]

/-- One digit before the point and the digit five behind it. -/
lemma isDecimal_half {c : Char} (hdigit : c.isDigit = true) (hsmall : number [c] < 10) :
    IsDecimal [c] ['5'] where
  whole_ne := List.cons_ne_nil c []
  digits := by simpa using hdigit
  length_le := by decide
  fits := by
    have hnum : number [c] * 10 ^ 1 + number ['5'] < 2 ^ 31 := by
      have hfive : number ['5'] = 5 := by decide
      omega
    rw [decimalValue_mul]
    exact_mod_cast hnum

/-- The text `2.5`. -/
theorem stringToRational_exact_two :
    IsRational ['2'] ['5'] (stringToRational noPosition (some (decimalText ['2'] ['5']))) ↔
      noPosition.copied = true ∧ number ['2'] ≠ 0 :=
  stringToRational_exact_iff noPosition (isDecimal_half (by decide) (by decide))

/-- **The text `0.5` becomes `15/10`.** -/
theorem not_stringToRational_exact_half :
    stringToRational noPosition (some (decimalText ['0'] ['5'])) = (15#32, 10#32) ∧
      ¬ IsRational ['0'] ['5'] (stringToRational noPosition (some (decimalText ['0'] ['5']))) := by
  have hread := stringToRational_decimalText (s := noPosition)
    (isDecimal_half (c := '0') (by decide) (by decide)) rfl
  have hvalue : stringToRational noPosition (some (decimalText ['0'] ['5'])) = (15#32, 10#32) := by
    rw [hread]
    decide
  have hhalf : number ['0'] = 0 ∧ number ['5'] = 5 := by decide
  refine ⟨hvalue, ?_⟩
  rw [hvalue, IsRational, decimalValue, hhalf.1, hhalf.2]
  norm_num

end Exif

end CameraHal
