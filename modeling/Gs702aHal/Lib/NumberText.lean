import Mathlib.Data.List.TakeWhile
import Mathlib.Order.Lattice
import Mathlib.Data.Int.Order.Basic

set_option relaxedAutoImplicit false
set_option autoImplicit false

/-!
# Numbers in texts

The number at the head of a text, as `strtol` reads it: white space, a sign and digits. A number
that does not fit becomes the largest or the smallest one. A text that starts with no number gives
zero, and none of it is read.

## Main definitions

* `NumberText.strtol` — the number and the rest of the text.
* `NumberText.IsNumber` — the texts of a number.
* `NumberText.decimal` — the text that a number is printed as.

## Main results

* `NumberText.strtol_eq_iff` — what `strtol` reads before a letter that ends a number.
* `NumberText.isNumber_decimal` — a number that fits is read back from what it is printed as.
-/

namespace NumberText

/-- `isspace`. -/
def isSpace (c : Char) : Bool := c = ' ' || (9 ≤ c.toNat && c.toNat ≤ 13)

/-- Whether a text starts with a minus sign, and what follows the sign. -/
def signed : List Char → Bool × List Char
  | '-' :: rest => (true, rest)
  | '+' :: rest => (false, rest)
  | rest => (false, rest)

/-- The value of digits with a sign, within the bounds. -/
def clamped (lo hi : ℤ) (negative : Bool) (digits : List Char) : ℤ :=
  let value : ℤ := Nat.ofDigitChars 10 digits 0
  max lo (min hi (if negative then -value else value))

/-- The number at the head of a text, and where it ends. -/
def strtol (lo hi : ℤ) (text : List Char) : ℤ × List Char :=
  let (negative, body) := signed (text.dropWhile isSpace)
  let digits := body.takeWhile Char.isDigit
  if digits = [] then (0, text)
  else (clamped lo hi negative digits, body.dropWhile Char.isDigit)

/-- The texts of a sign. -/
def signText : Bool → List Char → Prop
  | true, sign => sign = ['-']
  | false, sign => sign = ['+'] ∨ sign = []

/-- The texts of a number: none for zero, or white space, a sign and digits. -/
def IsNumber (lo hi : ℤ) (text : List Char) (value : ℤ) : Prop :=
  (text = [] ∧ value = 0) ∨
    ∃ spaces negative sign digits, text = spaces ++ (sign ++ digits) ∧
      (∀ c ∈ spaces, isSpace c = true) ∧ signText negative sign ∧ digits ≠ [] ∧
      (∀ c ∈ digits, c.isDigit = true) ∧ value = clamped lo hi negative digits

/-- A letter that ends a number: no white space, no sign and no digit. -/
structure Ends (c : Char) : Prop where
  notSpace : isSpace c = false
  notDigit : c.isDigit = false
  not_minus : c ≠ '-'
  not_plus : c ≠ '+'

/-- A digit is no white space. -/
lemma isSpace_of_isDigit {c : Char} (h : c.isDigit = true) : isSpace c = false := by
  simp only [Char.isDigit, ge_iff_le, Bool.and_eq_true, decide_eq_true_eq] at h
  have hle : 48 ≤ c.toNat := h.1
  have hne : c ≠ ' ' := by
    rintro rfl
    exact absurd hle (by decide)
  simp only [isSpace, hne, decide_false, Bool.false_or, Bool.and_eq_false_iff,
    decide_eq_false_iff_not]
  omega

/-- A digit is no sign. -/
lemma ne_sign_of_isDigit {c : Char} (h : c.isDigit = true) : c ≠ '-' ∧ c ≠ '+' := by
  constructor <;> (rintro rfl; exact absurd h (by decide))

/-- A text that starts with no sign. -/
lemma signed_of_ne {c : Char} (hminus : c ≠ '-') (hplus : c ≠ '+') (rest : List Char) :
    signed (c :: rest) = (false, c :: rest) := by
  unfold signed
  split
  · rename_i heq
    exact absurd (List.cons.inj heq).1 hminus
  · rename_i heq
    exact absurd (List.cons.inj heq).1 hplus
  · rfl

/-- A sign is read as what it says. -/
lemma signed_append {negative : Bool} {sign : List Char} (h : signText negative sign) {c : Char}
    (hminus : c ≠ '-') (hplus : c ≠ '+') (rest : List Char) :
    signed (sign ++ c :: rest) = (negative, c :: rest) := by
  cases negative with
  | true =>
    obtain rfl : sign = ['-'] := h
    rfl
  | false =>
    rcases h with rfl | rfl
    · rfl
    · exact signed_of_ne hminus hplus rest

/-- What is read as a sign is the text of one. -/
lemma exists_sign (text : List Char) :
    ∃ sign, signText (signed text).1 sign ∧ text = sign ++ (signed text).2 := by
  unfold signed
  split
  · exact ⟨['-'], rfl, rfl⟩
  · exact ⟨['+'], Or.inl rfl, rfl⟩
  · exact ⟨[], Or.inr rfl, rfl⟩

/-- The text after a sign has no other sign before the digits of a number. -/
lemma head_sign {negative : Bool} {sign : List Char} (h : signText negative sign) {c : Char}
    (hc : c ∈ sign) : isSpace c = false := by
  cases negative with
  | true =>
    obtain rfl : sign = ['-'] := h
    obtain rfl := List.mem_singleton.mp hc
    decide
  | false =>
    rcases h with rfl | rfl
    · obtain rfl := List.mem_singleton.mp hc
      decide
    · cases hc

/-- White space before a letter that is none. -/
lemma dropWhile_spaces {spaces : List Char} (h : ∀ c ∈ spaces, isSpace c = true) {c : Char}
    (hc : isSpace c = false) (rest : List Char) :
    (spaces ++ c :: rest).dropWhile isSpace = c :: rest := by
  rw [List.dropWhile_append_of_pos h, List.dropWhile_cons_of_neg]
  rw [hc]
  decide

/-- **What `strtol` reads.** Before a letter that ends a number, it reads a text of a number and
nothing else.

**Proof sketch.** White space, sign and digits are the longest such parts of the text, so they are
determined by it: the letter that ends the number belongs to none of them. Without digits nothing
is read, which leaves the empty text. -/
theorem strtol_eq_iff {c : Char} (hc : Ends c) (lo hi : ℤ) (text rest : List Char) (value : ℤ) :
    strtol lo hi text = (value, c :: rest) ↔
      ∃ n, text = n ++ c :: rest ∧ IsNumber lo hi n value := by
  constructor
  · intro h
    unfold strtol at h
    obtain ⟨sign, hsign, hbody⟩ := exists_sign (text.dropWhile isSpace)
    generalize hsigned : signed (text.dropWhile isSpace) = s at h hsign hbody
    obtain ⟨negative, body⟩ := s
    simp only at h hsign hbody
    split_ifs at h with hdigits
    · obtain ⟨rfl, rfl⟩ := Prod.mk.inj h
      exact ⟨[], rfl, Or.inl ⟨rfl, rfl⟩⟩
    · obtain ⟨rfl, hrest⟩ := Prod.mk.inj h
      refine ⟨text.takeWhile isSpace ++ (sign ++ body.takeWhile Char.isDigit), ?_, Or.inr
        ⟨_, negative, sign, _, rfl, fun d hd => List.mem_takeWhile_imp hd, hsign, hdigits,
          fun d hd => List.mem_takeWhile_imp hd, rfl⟩⟩
      calc text = text.takeWhile isSpace ++ text.dropWhile isSpace :=
            List.takeWhile_append_dropWhile.symm
        _ = text.takeWhile isSpace ++ (sign ++ (body.takeWhile Char.isDigit ++ c :: rest)) := by
            rw [hbody, ← hrest, List.takeWhile_append_dropWhile]
        _ = _ := by simp only [List.append_assoc]
  · rintro ⟨n, rfl, ⟨rfl, rfl⟩ | ⟨spaces, negative, sign, digits, rfl, hspaces, hsign, hne, hdigits,
      rfl⟩⟩
    · rw [List.nil_append]
      have hdrop : (c :: rest).dropWhile isSpace = c :: rest :=
        @dropWhile_spaces [] (List.forall_mem_nil _) c hc.notSpace rest
      have htake : (c :: rest).takeWhile Char.isDigit = [] := by
        rw [List.takeWhile_cons_of_neg]
        rw [hc.notDigit]
        decide
      simp only [strtol, hdrop, signed_of_ne hc.not_minus hc.not_plus, htake, if_true]
    · obtain ⟨d, ds, rfl⟩ := List.exists_cons_of_ne_nil hne
      have hd := hdigits d List.mem_cons_self
      have hdrop : (spaces ++ (sign ++ d :: ds) ++ c :: rest).dropWhile isSpace =
          sign ++ d :: (ds ++ c :: rest) := by
        rw [List.append_assoc, List.append_assoc, List.cons_append]
        cases sign with
        | nil => exact dropWhile_spaces hspaces (isSpace_of_isDigit hd) _
        | cons e sign =>
          exact dropWhile_spaces hspaces (head_sign hsign List.mem_cons_self) _
      obtain ⟨hminus, hplus⟩ := ne_sign_of_isDigit hd
      have htake : (d :: (ds ++ c :: rest)).takeWhile Char.isDigit = d :: ds := by
        rw [← List.cons_append, List.takeWhile_append_of_pos hdigits, List.takeWhile_cons_of_neg,
          List.append_nil]
        rw [hc.notDigit]
        decide
      have hdropDigits : (d :: (ds ++ c :: rest)).dropWhile Char.isDigit = c :: rest := by
        rw [← List.cons_append, List.dropWhile_append_of_pos hdigits, List.dropWhile_cons_of_neg]
        rw [hc.notDigit]
        decide
      simp only [strtol, hdrop, signed_append hsign hminus hplus, htake, hdropDigits]
      rw [if_neg (List.cons_ne_nil d ds)]

/-! ### Printed numbers -/

/-- The decimal text of a number. -/
def decimal (value : ℤ) : List Char :=
  if value < 0 then '-' :: Nat.toDigits 10 value.natAbs else Nat.toDigits 10 value.natAbs

/-- Printed digits are digits. -/
lemma isDigit_toDigits (n : ℕ) : ∀ c ∈ Nat.toDigits 10 n, c.isDigit = true := fun _ hc =>
  Nat.isDigit_of_mem_toDigits (by decide) (by decide) hc

/-- No other letter is in a printed number. -/
lemma notMem_decimal {c : Char} (hdigit : c.isDigit = false) (hminus : c ≠ '-') (value : ℤ) :
    c ∉ decimal value := by
  intro hc
  unfold decimal at hc
  split_ifs at hc
  · rcases List.mem_cons.mp hc with rfl | hc
    · exact hminus rfl
    · exact absurd (isDigit_toDigits _ c hc) (by rw [hdigit]; decide)
  · exact absurd (isDigit_toDigits _ c hc) (by rw [hdigit]; decide)

/-- **Numbers that fit are read back.** -/
theorem isNumber_decimal {lo hi value : ℤ} (hlo : lo ≤ value) (hhi : value ≤ hi) :
    IsNumber lo hi (decimal value) value := by
  have hclamp : max lo (min hi value) = value := by
    rw [min_eq_right hhi, max_eq_right hlo]
  unfold decimal
  split_ifs with hneg
  · refine Or.inr ⟨[], true, ['-'], Nat.toDigits 10 value.natAbs, rfl, List.forall_mem_nil _, rfl,
      Nat.toDigits_ne_nil, isDigit_toDigits _, ?_⟩
    rw [clamped, Nat.ofDigitChars_ten_toDigits]
    have habs : -(value.natAbs : ℤ) = value := by omega
    simp only [habs, if_true, hclamp]
  · refine Or.inr ⟨[], false, [], Nat.toDigits 10 value.natAbs, rfl, List.forall_mem_nil _,
      Or.inr rfl, Nat.toDigits_ne_nil, isDigit_toDigits _, ?_⟩
    rw [clamped, Nat.ofDigitChars_ten_toDigits]
    have habs : (value.natAbs : ℤ) = value := by omega
    simp only [habs, Bool.false_eq_true, if_false, hclamp]

end NumberText
