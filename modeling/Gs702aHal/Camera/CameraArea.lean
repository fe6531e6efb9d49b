import Mathlib.Data.List.Forall2
import Gs702aHal.Camera.SetParameters
import Gs702aHal.Lib.NumberText

set_option relaxedAutoImplicit false
set_option autoImplicit false

/-!
# Camera areas

The focus and metering areas come as a text such as `(-10,-10,10,10,1),(0,0,5,5,2)`.
`CameraArea::parseAreas` cuts it at the opening parentheses with `strtok_r`, reads five numbers from
each piece with `strtol`, and checks them. It looks neither at what is before the first parenthesis
nor at what follows a closing one.

## Main definitions

* `CameraHal.CameraArea`, `CameraHal.CameraArea.Valid` — an area, and those that `checkArea` passes.
* `CameraHal.CameraArea.parseAreas` — the function of the source. Memory may be lacking.
* `CameraHal.CameraArea.Describes` — the pieces that describe an area.
* `CameraHal.CameraArea.areasText` — the text of a list of areas.

## Main results

* `CameraHal.CameraArea.checkArea_eq_NO_ERROR` — the areas that are checked successfully.
* `CameraHal.CameraArea.parseAreas_spec` — the texts that are accepted, with the areas that they
  give; the text of a list of areas gives that list.
-/

namespace CameraHal

open Status NumberText

/-- A camera area. -/
structure CameraArea where
  mTop : ℤ
  mLeft : ℤ
  mBottom : ℤ
  mRight : ℤ
  mWeight : ℕ
  deriving DecidableEq, Repr

namespace CameraArea

/-- The smallest vertical coordinate. -/
def TOP : ℤ := -1000
/-- The smallest horizontal coordinate. -/
def LEFT : ℤ := -1000
/-- The largest vertical coordinate. -/
def BOTTOM : ℤ := 1000
/-- The largest horizontal coordinate. -/
def RIGHT : ℤ := 1000
/-- The smallest weight. -/
def WEIGHT_MIN : ℤ := 1
/-- The largest weight. -/
def WEIGHT_MAX : ℤ := 1000

/-- The smallest number that `strtol` gives. -/
def LONG_MIN : ℤ := -2147483648
/-- The largest number that `strtol` gives. -/
def LONG_MAX : ℤ := 2147483647

/-- `checkArea`. -/
def checkArea (top left bottom right weight : ℤ) : Status :=
  if 0 = top ∧ 0 = left ∧ 0 = bottom ∧ 0 = right ∧ 0 = weight then NO_ERROR
  else if WEIGHT_MIN > weight ∨ WEIGHT_MAX < weight then EINVAL
  else if TOP > top ∨ BOTTOM < top then EINVAL
  else if TOP > bottom ∨ BOTTOM < bottom then EINVAL
  else if LEFT > left ∨ RIGHT < left then EINVAL
  else if LEFT > right ∨ RIGHT < right then EINVAL
  else if left ≥ right then EINVAL
  else if top ≥ bottom then EINVAL
  else NO_ERROR

/-- The number at the head of a text, with what follows the letter after it. -/
def field (c : Char) (pStart : Text) : Option (ℤ × Text) :=
  match strtol LONG_MIN LONG_MAX pStart with
  | (value, d :: rest) => if d = c then some (value, rest) else none
  | (_, []) => none

/-- The numbers of a piece, in the order of the text. -/
def scanArea (pStart : Text) : Option (ℤ × ℤ × ℤ × ℤ × ℤ) := do
  let (left, pEnd) ← field ',' pStart
  let (top, pEnd) ← field ',' pEnd
  let (right, pEnd) ← field ',' pEnd
  let (bottom, pEnd) ← field ',' pEnd
  let (weight, _) ← field ')' pEnd
  some (left, top, right, bottom, weight)

/-- The loop of `parseAreas` over the pieces. There may be no memory for an area. -/
def parseLoop (memory : ℕ → Bool) : List Text → List CameraArea → Status × List CameraArea
  | [], areas => (NO_ERROR, areas)
  | pArea :: rest, areas =>
    match scanArea pArea with
    | none => (EINVAL, areas)
    | some (left, top, right, bottom, weight) =>
      let ret := checkArea top left bottom right weight
      if ret ≠ NO_ERROR then (ret, areas)
      else if memory (areas.length + 1) then
        parseLoop memory rest (areas ++ [⟨top, left, bottom, right, weight.toNat⟩])
      else (NO_MEMORY, areas)

/-- `parseAreas` with an empty vector. The copy of the text is only read if it has the terminator,
and nothing behind it. -/
def parseAreas (memory : ℕ → Bool) (area : Option Text) (areaLength : ℕ) :
    Option (Status × List CameraArea) :=
  match area with
  | none => some (EINVAL, [])
  | some text =>
    if areaLength = 0 then some (EINVAL, [])
    else if memory 0 = false then some (NO_MEMORY, [])
    else if areaLength ≠ text.length + 1 then none
    else match pieces ['('] text with
      | [] => some (EINVAL, [])
      | pArea :: rest => some (parseLoop memory (pArea :: rest) [])

/-! ### Areas -/

/-- An area that `checkArea` passes. -/
def Valid (a : CameraArea) : Prop :=
  checkArea a.mTop a.mLeft a.mBottom a.mRight a.mWeight = NO_ERROR

instance (a : CameraArea) : Decidable a.Valid := inferInstanceAs (Decidable (_ = _))

/-- An error is no success. -/
private lemma einval_ne : (EINVAL = NO_ERROR) = False := by decide

/-- **The areas that are checked successfully**: the one of zeros, and those in the range. -/
theorem checkArea_eq_NO_ERROR (top left bottom right weight : ℤ) :
    checkArea top left bottom right weight = NO_ERROR ↔
      (top = 0 ∧ left = 0 ∧ bottom = 0 ∧ right = 0 ∧ weight = 0) ∨
        (1 ≤ weight ∧ weight ≤ 1000 ∧ -1000 ≤ top ∧ top < bottom ∧ bottom ≤ 1000 ∧ -1000 ≤ left ∧
          left < right ∧ right ≤ 1000) := by
  unfold checkArea TOP LEFT BOTTOM RIGHT WEIGHT_MIN WEIGHT_MAX
  split_ifs <;> simp only [einval_ne, true_iff, false_iff] <;> omega

/-- A weight that is checked successfully is not negative. -/
lemma weight_nonneg {top left bottom right weight : ℤ}
    (h : checkArea top left bottom right weight = NO_ERROR) : 0 ≤ weight := by
  rw [checkArea_eq_NO_ERROR] at h
  omega

/-- The numbers of a valid area fit. -/
lemma Valid.fits {a : CameraArea} (h : a.Valid) {value : ℤ}
    (hvalue : value ∈ [a.mLeft, a.mTop, a.mRight, a.mBottom, (a.mWeight : ℤ)]) :
    LONG_MIN ≤ value ∧ value ≤ LONG_MAX := by
  rw [Valid, checkArea_eq_NO_ERROR] at h
  simp only [List.mem_cons, List.not_mem_nil, or_false] at hvalue
  unfold LONG_MIN LONG_MAX
  rcases hvalue with rfl | rfl | rfl | rfl | rfl <;> omega

/-! ### Pieces -/

/-- The five numbers as they are written, the weight last. -/
structure Written where
  left : Text
  top : Text
  right : Text
  bottom : Text
  weight : Text

/-- The text of an area after its opening parenthesis. -/
def Written.text (n : Written) : Text :=
  n.left ++ ',' :: (n.top ++ ',' :: (n.right ++ ',' :: (n.bottom ++ ',' :: (n.weight ++ [')']))))

/-- The numbers are those of an area. -/
structure Written.Of (n : Written) (a : CameraArea) : Prop where
  left : IsNumber LONG_MIN LONG_MAX n.left a.mLeft
  top : IsNumber LONG_MIN LONG_MAX n.top a.mTop
  right : IsNumber LONG_MIN LONG_MAX n.right a.mRight
  bottom : IsNumber LONG_MIN LONG_MAX n.bottom a.mBottom
  weight : IsNumber LONG_MIN LONG_MAX n.weight a.mWeight

/-- A piece that starts with the numbers of a valid area. -/
def Describes (piece : Text) (a : CameraArea) : Prop :=
  (∃ n rest, piece = Written.text n ++ rest ∧ n.Of a) ∧ a.Valid

/-- A field is a number before the letter. -/
lemma field_eq_some_iff {c : Char} (hc : Ends c) (text rest : Text) (value : ℤ) :
    field c text = some (value, rest) ↔
      ∃ n, text = n ++ c :: rest ∧ IsNumber LONG_MIN LONG_MAX n value := by
  rw [← strtol_eq_iff hc]
  unfold field
  split
  · rename_i v d r heq
    rw [heq]
    split_ifs with hd
    · subst hd
      simp only [Option.some.injEq, Prod.mk.injEq, List.cons.injEq, true_and]
    · simp only [Prod.mk.injEq, List.cons.injEq, hd, false_and, and_false]
  · rename_i v heq
    simp only [heq, reduceCtorEq, Prod.mk.injEq, and_false]

/-- A comma ends a number. -/
lemma ends_comma : Ends ',' := ⟨by decide, by decide, by decide, by decide⟩

/-- So does a closing parenthesis. -/
lemma ends_paren : Ends ')' := ⟨by decide, by decide, by decide, by decide⟩

/-- The numbers that are scanned are those that the piece starts with. -/
lemma scanArea_eq_some_iff (piece : Text) (left top right bottom weight : ℤ) :
    scanArea piece = some (left, top, right, bottom, weight) ↔
      ∃ n rest, piece = Written.text n ++ rest ∧ IsNumber LONG_MIN LONG_MAX n.left left ∧
        IsNumber LONG_MIN LONG_MAX n.top top ∧ IsNumber LONG_MIN LONG_MAX n.right right ∧
        IsNumber LONG_MIN LONG_MAX n.bottom bottom ∧
        IsNumber LONG_MIN LONG_MAX n.weight weight := by
  constructor
  · intro h
    obtain ⟨⟨l, e₁⟩, h₁, h⟩ := Option.bind_eq_some_iff.mp h
    obtain ⟨⟨t, e₂⟩, h₂, h⟩ := Option.bind_eq_some_iff.mp h
    obtain ⟨⟨r, e₃⟩, h₃, h⟩ := Option.bind_eq_some_iff.mp h
    obtain ⟨⟨b, e₄⟩, h₄, h⟩ := Option.bind_eq_some_iff.mp h
    obtain ⟨⟨w, rest⟩, h₅, h⟩ := Option.bind_eq_some_iff.mp h
    simp only [Option.some.injEq, Prod.mk.injEq] at h
    obtain ⟨rfl, rfl, rfl, rfl, rfl⟩ := h
    obtain ⟨nl, rfl, hl⟩ := (field_eq_some_iff ends_comma _ _ _).mp h₁
    obtain ⟨nt, rfl, ht⟩ := (field_eq_some_iff ends_comma _ _ _).mp h₂
    obtain ⟨nr, rfl, hr⟩ := (field_eq_some_iff ends_comma _ _ _).mp h₃
    obtain ⟨nb, rfl, hb⟩ := (field_eq_some_iff ends_comma _ _ _).mp h₄
    obtain ⟨nw, rfl, hw⟩ := (field_eq_some_iff ends_paren _ _ _).mp h₅
    refine ⟨⟨nl, nt, nr, nb, nw⟩, rest, ?_, hl, ht, hr, hb, hw⟩
    simp only [Written.text, List.append_assoc, List.cons_append, List.nil_append]
  · rintro ⟨⟨nl, nt, nr, nb, nw⟩, rest, rfl, hl, ht, hr, hb, hw⟩
    simp only [Written.text, List.append_assoc, List.cons_append, List.nil_append]
    unfold scanArea
    rw [(field_eq_some_iff ends_comma _ _ _).mpr ⟨nl, rfl, hl⟩]
    simp only [Option.bind_eq_bind, Option.bind_some]
    rw [(field_eq_some_iff ends_comma _ _ _).mpr ⟨nt, rfl, ht⟩, Option.bind_some,
      (field_eq_some_iff ends_comma _ _ _).mpr ⟨nr, rfl, hr⟩, Option.bind_some,
      (field_eq_some_iff ends_comma _ _ _).mpr ⟨nb, rfl, hb⟩, Option.bind_some,
      (field_eq_some_iff ends_paren _ _ _).mpr ⟨nw, rfl, hw⟩]
    rfl

/-- A piece describes an area if its numbers are scanned and pass the check. -/
lemma describes_iff (piece : Text) (a : CameraArea) :
    Describes piece a ↔
      scanArea piece = some (a.mLeft, a.mTop, a.mRight, a.mBottom, (a.mWeight : ℤ)) ∧ a.Valid := by
  rw [Describes, scanArea_eq_some_iff]
  refine and_congr_left fun _ => ?_
  constructor
  · rintro ⟨n, rest, hpiece, h⟩
    exact ⟨n, rest, hpiece, h.left, h.top, h.right, h.bottom, h.weight⟩
  · rintro ⟨n, rest, hpiece, hl, ht, hr, hb, hw⟩
    exact ⟨n, rest, hpiece, hl, ht, hr, hb, hw⟩

/-- A piece describes at most one area. -/
lemma Describes.unique {piece : Text} {a b : CameraArea} (ha : Describes piece a)
    (hb : Describes piece b) : a = b := by
  have hscan := ((describes_iff piece a).mp ha).1.symm.trans ((describes_iff piece b).mp hb).1
  cases a
  cases b
  simp only [Option.some.injEq, Prod.mk.injEq, Int.natCast_inj] at hscan
  simp only [mk.injEq]
  exact ⟨hscan.2.1, hscan.1, hscan.2.2.2.1, hscan.2.2.1, hscan.2.2.2.2⟩

/-- A pass appends the area that its piece describes, if there is memory, and stops otherwise. -/
lemma parseLoop_cons (memory : ℕ → Bool) (piece : Text) (rest : List Text)
    (areas : List CameraArea) :
    (∃ a, Describes piece a ∧ memory (areas.length + 1) = true ∧
      parseLoop memory (piece :: rest) areas = parseLoop memory rest (areas ++ [a])) ∨
    (¬((∃ a, Describes piece a) ∧ memory (areas.length + 1) = true) ∧
      ∃ ret, ret ≠ NO_ERROR ∧ parseLoop memory (piece :: rest) areas = (ret, areas)) := by
  have hnot : ∀ a, Describes piece a → ∃ n, scanArea piece = some n ∧
      checkArea n.2.1 n.1 n.2.2.2.1 n.2.2.1 n.2.2.2.2 = NO_ERROR := fun a ha =>
    ⟨_, ((describes_iff piece a).mp ha).1, ha.2⟩
  rw [parseLoop]
  cases hscan : scanArea piece with
  | none =>
    right
    refine ⟨?_, EINVAL, by decide, rfl⟩
    rintro ⟨⟨a, ha⟩, -⟩
    obtain ⟨n, hn, -⟩ := hnot a ha
    rw [hscan] at hn
    cases hn
  | some n =>
    obtain ⟨left, top, right, bottom, weight⟩ := n
    simp only
    split_ifs with hcheck hmemory
    · right
      refine ⟨?_, _, hcheck, rfl⟩
      rintro ⟨⟨a, ha⟩, -⟩
      obtain ⟨n, hn, hok⟩ := hnot a ha
      rw [hscan] at hn
      obtain rfl := Option.some.inj hn
      exact hcheck hok
    · left
      rw [not_not] at hcheck
      have hweight : ((weight.toNat : ℕ) : ℤ) = weight :=
        Int.toNat_of_nonneg (weight_nonneg hcheck)
      refine ⟨⟨top, left, bottom, right, weight.toNat⟩, ?_, hmemory, rfl⟩
      rw [describes_iff, Valid, hweight]
      exact ⟨hscan, hcheck⟩
    · right
      exact ⟨fun h => hmemory h.2, NO_MEMORY, by decide, rfl⟩

/-- One pass of the loop succeeds if the piece describes an area and there is memory for it. -/
lemma parseLoop_cons_eq (memory : ℕ → Bool) (piece : Text) (rest : List Text)
    (areas result : List CameraArea) :
    parseLoop memory (piece :: rest) areas = (NO_ERROR, result) ↔
      ∃ a, Describes piece a ∧ memory (areas.length + 1) = true ∧
        parseLoop memory rest (areas ++ [a]) = (NO_ERROR, result) := by
  rcases parseLoop_cons memory piece rest areas with
    ⟨a, ha, hmemory, hpass⟩ | ⟨hstop, ret, hret, hpass⟩
  · rw [hpass]
    constructor
    · exact fun h => ⟨a, ha, hmemory, h⟩
    · rintro ⟨b, hb, -, h⟩
      rwa [ha.unique hb]
  · rw [hpass]
    refine iff_of_false (fun h => hret (Prod.mk.inj h).1) ?_
    rintro ⟨a, ha, hmemory, -⟩
    exact hstop ⟨⟨a, ha⟩, hmemory⟩

/-- **The loop** succeeds exactly if each piece describes an area and there is memory for all of
them; it appends the areas in the order of the pieces.

**Proof sketch.** Induction on the pieces, one pass at a time. -/
theorem parseLoop_eq_iff (memory : ℕ → Bool) (l : List Text) (areas result : List CameraArea) :
    parseLoop memory l areas = (NO_ERROR, result) ↔
      ∃ found, result = areas ++ found ∧ List.Forall₂ Describes l found ∧
        ∀ i, areas.length < i → i ≤ result.length → memory i = true := by
  induction l generalizing areas with
  | nil =>
    simp only [parseLoop, Prod.mk.injEq, true_and, List.forall₂_nil_left_iff]
    constructor
    · rintro rfl
      exact ⟨[], (List.append_nil areas).symm, rfl, fun i hlt hle => by omega⟩
    · rintro ⟨found, hresult, rfl, -⟩
      rw [hresult, List.append_nil]
  | cons piece rest ih =>
    rw [parseLoop_cons_eq]
    constructor
    · rintro ⟨a, hdescribes, hmemory, h⟩
      obtain ⟨found, rfl, hfound, hall⟩ := (ih (areas ++ [a])).mp h
      refine ⟨a :: found, by simp, List.Forall₂.cons hdescribes hfound, fun i hlt hle => ?_⟩
      rcases Nat.lt_or_ge (areas.length + 1) i with hnext | hfirst
      · exact hall i (by simpa using hnext) hle
      · obtain rfl : i = areas.length + 1 := by omega
        exact hmemory
    · rintro ⟨found, rfl, hfound, hall⟩
      cases hfound with
      | @cons _ a _ found hdescribes hfound =>
        refine ⟨a, hdescribes, hall _ (by omega) (by simp), (ih (areas ++ [a])).mpr
          ⟨found, by simp, hfound, fun i hlt hle => ?_⟩⟩
        rw [List.length_append, List.length_singleton] at hlt
        exact hall i (by omega) hle

/-! ### Texts -/

/-- The text of a list of areas, from the texts of their numbers: `(l,t,r,b,w)` with commas between
them. -/
def joined : List Written → Text
  | [] => []
  | [n] => '(' :: n.text
  | n :: rest => '(' :: (n.text ++ ',' :: joined rest)

/-- The numbers of an area, printed. -/
def written (a : CameraArea) : Written :=
  ⟨decimal a.mLeft, decimal a.mTop, decimal a.mRight, decimal a.mBottom, decimal a.mWeight⟩

/-- The text of a list of areas. -/
def areasText (areas : List CameraArea) : Text := joined (areas.map written)

/-- The texts that describe areas: at least one piece, and each piece describes an area. -/
def Accepted (text : Text) (areas : List CameraArea) : Prop :=
  areas ≠ [] ∧ List.Forall₂ Describes (pieces ['('] text) areas

/-- A letter other than the parenthesis is no delimiter. -/
lemma notMem_open {piece : Text} (hopen : '(' ∉ piece) : ∀ c ∈ piece, c ∉ ['('] := by
  intro c hc hmem
  exact hopen (List.mem_singleton.mp hmem ▸ hc)

/-- The text of an area is not empty. -/
lemma text_ne_nil (n : Written) (rest : Text) : n.text ++ rest ≠ [] := by
  simp [Written.text]

/-- A printed area has no parenthesis that opens. -/
lemma notMem_text (a : CameraArea) : '(' ∉ (written a).text := by
  have hdecimal : ∀ value, '(' ∉ decimal value := notMem_decimal (by decide) (by decide)
  simp [Written.text, written, hdecimal]

/-- A printed area describes it, whatever follows. -/
lemma describes_written {a : CameraArea} (h : a.Valid) (rest : Text) :
    Describes ((written a).text ++ rest) a := by
  have hnumber : ∀ value ∈ [a.mLeft, a.mTop, a.mRight, a.mBottom, (a.mWeight : ℤ)],
      IsNumber LONG_MIN LONG_MAX (decimal value) value := fun value hvalue =>
    isNumber_decimal (h.fits hvalue).1 (h.fits hvalue).2
  refine ⟨⟨written a, rest, rfl, ?_⟩, h⟩
  exact ⟨hnumber a.mLeft (by simp), hnumber a.mTop (by simp), hnumber a.mRight (by simp),
    hnumber a.mBottom (by simp), hnumber a.mWeight (by simp)⟩

/-- The pieces of a printed list describe it.

**Proof sketch.** Induction on the list: each area is the piece between its parenthesis and the next
one, with the comma at its end. -/
lemma forall₂_areasText {areas : List CameraArea} (h : ∀ a ∈ areas, a.Valid) :
    List.Forall₂ Describes (pieces ['('] (areasText areas)) areas := by
  induction areas with
  | nil => exact List.Forall₂.nil
  | cons a areas ih =>
    have ha := h a List.mem_cons_self
    have hareas := ih fun b hb => h b (List.mem_cons_of_mem a hb)
    cases areas with
    | nil =>
      show List.Forall₂ Describes (pieces ['('] ('(' :: (written a).text)) [a]
      have hdescribes := describes_written ha []
      rw [List.append_nil] at hdescribes
      rw [pieces_cons_of_mem List.mem_cons_self,
        pieces_eq_singleton (by simpa using text_ne_nil (written a) [])
          (notMem_open (notMem_text a))]
      exact List.Forall₂.cons hdescribes List.Forall₂.nil
    | cons b areas =>
      obtain ⟨tail, htail⟩ : ∃ tail, areasText (b :: areas) = '(' :: tail := by
        cases areas <;> exact ⟨_, rfl⟩
      have htext : areasText (a :: b :: areas) =
          '(' :: ((written a).text ++ [','] ++ areasText (b :: areas)) := by
        rw [List.append_assoc]
        rfl
      have hopen : '(' ∉ (written a).text ++ [','] := by
        rw [List.mem_append, not_or]
        exact ⟨notMem_text a, by decide⟩
      rw [htail, pieces_cons_of_mem List.mem_cons_self] at hareas
      rw [htext, htail, pieces_cons_of_mem List.mem_cons_self,
        pieces_append_cons (text_ne_nil _ _) (notMem_open hopen) List.mem_cons_self]
      exact List.Forall₂.cons (describes_written ha [',']) hareas

/-- With memory for the copy, the result is that of the loop over the pieces. -/
lemma parseAreas_eq (memory : ℕ → Bool) (text : Text) (result : List CameraArea) :
    parseAreas memory (some text) (text.length + 1) = some (NO_ERROR, result) ↔
      memory 0 = true ∧ pieces ['('] text ≠ [] ∧
        parseLoop memory (pieces ['('] text) [] = (NO_ERROR, result) := by
  simp only [parseAreas, Nat.add_one_ne_zero, if_false, not_true_eq_false, ne_eq]
  cases hmemory : memory 0 with
  | false =>
    simp only [if_true, Bool.false_eq_true, false_and, iff_false, Option.some.injEq,
      Prod.mk.injEq, not_and]
    exact fun h => absurd h (by decide)
  | true =>
    simp only [Bool.true_eq_false, if_false, true_and]
    cases pieces ['('] text with
    | nil =>
      simp only [not_true_eq_false, false_and, iff_false, Option.some.injEq, Prod.mk.injEq, not_and]
      exact fun h => absurd h (by decide)
    | cons piece rest => simp only [Option.some.injEq, reduceCtorEq, not_false_eq_true, true_and]

/-- **What `parseAreas` accepts.** Called with the length of the text and its terminator, it accepts
a text exactly if the text has a piece and each piece, up to the next opening parenthesis, starts
with the five numbers of a valid area, commas between them and a closing parenthesis behind them,
and if there is memory; it gives these areas in order. The text of a list of valid areas gives that
list.

**Proof sketch.** The loop is run on the pieces, which `strtol` reads exactly as described. The text
of a list is cut into the texts of its areas, with their commas. -/
theorem parseAreas_spec (memory : ℕ → Bool) :
    (∀ text areas, parseAreas memory (some text) (text.length + 1) = some (NO_ERROR, areas) ↔
      Accepted text areas ∧ ∀ i ≤ areas.length, memory i = true) ∧
    ∀ areas, areas ≠ [] → (∀ a ∈ areas, Valid a) → (∀ i ≤ areas.length, memory i = true) →
      parseAreas memory (some (areasText areas)) ((areasText areas).length + 1) =
        some (NO_ERROR, areas) := by
  have hspec : ∀ text areas,
      parseAreas memory (some text) (text.length + 1) = some (NO_ERROR, areas) ↔
        Accepted text areas ∧ ∀ i ≤ areas.length, memory i = true := by
    intro text areas
    rw [parseAreas_eq, parseLoop_eq_iff]
    constructor
    · rintro ⟨hmemory, hne, found, rfl, hfound, hall⟩
      refine ⟨⟨fun hnil => hne ?_, hfound⟩, fun i hi => ?_⟩
      · subst hnil
        exact List.forall₂_nil_right_iff.mp hfound
      · rcases Nat.eq_zero_or_pos i with rfl | hpos
        · exact hmemory
        · exact hall i hpos hi
    · rintro ⟨⟨hne, hfound⟩, hall⟩
      refine ⟨hall 0 (Nat.zero_le _), fun hnil => hne ?_, areas, rfl, hfound,
        fun i _ hi => hall i hi⟩
      rw [hnil] at hfound
      exact List.forall₂_nil_left_iff.mp hfound
  refine ⟨hspec, fun areas hne hvalid hall => ?_⟩
  exact (hspec _ areas).mpr ⟨⟨hne, forall₂_areasText hvalid⟩, hall⟩

/-- The text of two areas gives them in order. -/
theorem parseAreas_twoAreas :
    parseAreas (fun _ => true) (some (areasText [⟨-10, -20, 10, 20, 1⟩, ⟨0, 0, 100, 100, 1000⟩]))
        37 = some (NO_ERROR, [⟨-10, -20, 10, 20, 1⟩, ⟨0, 0, 100, 100, 1000⟩]) :=
  (parseAreas_spec fun _ => true).2 [⟨-10, -20, 10, 20, 1⟩, ⟨0, 0, 100, 100, 1000⟩]
    (List.cons_ne_nil _ _)
    (fun a ha => by
      rcases List.mem_pair.mp ha with rfl | rfl
      · decide
      · decide) fun _ _ => rfl

/-- A text without an opening parenthesis, with missing numbers and with letters behind the closing
parenthesis, is accepted. Every text of the form `(l,t,r,b,w)` starts with a parenthesis. -/
theorem parseAreas_noParenthesis :
    parseAreas (fun _ => true) (some "0,0,0,,)x".toList) 10 = some (NO_ERROR, [⟨0, 0, 0, 0, 0⟩]) ∧
      ∀ l, joined l ≠ "0,0,0,,)x".toList := by
  refine ⟨by decide, fun l h => ?_⟩
  match l with
  | [] => exact absurd h (by decide)
  | [n] => exact absurd (List.cons.inj h).1 (by decide)
  | n :: m :: l => exact absurd (List.cons.inj h).1 (by decide)

end CameraArea

end CameraHal
