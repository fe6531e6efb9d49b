import Mathlib.Algebra.GroupWithZero.Nat
import Gs702aHal.Lib.SeparatedText
import Gs702aHal.Camera.Types

set_option relaxedAutoImplicit false
set_option autoImplicit false

/-!
# Capability strings

`OMXCapabilities.cpp` writes the supported sizes as a comma-separated string of `WxH` entries, and
other capabilities as comma-separated names. `CameraHal` tests a parameter by searching for its text
in such a string. Texts are lists of characters, without the terminating zero.

## Main definitions

* `CameraHal.encodeSizes` — the loop that writes the sizes.
* `CameraHal.insertPreviewSizes`, `CameraHal.insertImageSizes` — the supported sizes, sorted and
  written.
* `CameraHal.isResolutionValid`, `CameraHal.isParameterValid` — the tests.
* `CameraHal.SizeOccurs`, `CameraHal.NameOccurs` — the texts that the tests find.

## Main results

* `CameraHal.encodeSizes_eq_some_iff` — when there is a string, and which.
* `CameraHal.isResolutionValid_iff`, `CameraHal.isParameterValid_iff` — what the tests accept.
* `CameraHal.sizeOccurs_iff_of_not_cut` — what they find where no entry is cut.
* `CameraHal.accepts_members_iff` — when the tests accept exactly the members of the list.
-/

namespace CameraHal

open SeparatedText

/-! ### Texts -/

/-- `%u`. -/
def printU (x : BitVec 32) : List Char := Nat.toDigits 10 x.toNat

/-- `%d`. -/
def printD (x : BitVec 32) : List Char :=
  if x.toInt < 0 then '-' :: Nat.toDigits 10 x.toInt.natAbs else Nat.toDigits 10 x.toInt.toNat

/-- `snprintf` into a buffer of a given size. -/
def snprintf (size : ℕ) (text : List Char) : List Char := text.take (size - 1)

/-- `strncat` into a buffer of a given size; `none` if it writes past its end. -/
def strncat (size : ℕ) (buffer text : List Char) (n : ℕ) : Option (List Char) :=
  let result := buffer ++ text.take n
  if result.length < size then some result else none

/-- `remove_last_sep`: the last separator is removed if only blanks follow it. -/
def remove_last_sep (buffer : List Char) : List Char :=
  let last := buffer.reverse.takeWhile (· ≠ ',')
  if ',' ∈ buffer ∧ last.all (· = ' ') then buffer.take (buffer.length - last.length - 1)
  else buffer

/-! ### The supported sizes -/

/-- `WHSIZE_COUNT`. -/
def WHSIZE_COUNT : ℕ := 12
/-- `MAX_PROP_NAME_LENGTH`. -/
def MAX_PROP_NAME_LENGTH : ℕ := 50
/-- `MAX_PROP_VALUE_LENGTH`. -/
def MAX_PROP_VALUE_LENGTH : ℕ := 2048
/-- `PARAM_BUFFER`. -/
def PARAM_BUFFER : ℕ := 256
/-- `MAX_PICTURE_WIDTH`. -/
def MAX_PICTURE_WIDTH : BitVec 32 := 2600#32
/-- `MAX_PICTURE_HEIGHT`. -/
def MAX_PICTURE_HEIGHT : BitVec 32 := 2000#32
/-- `MAX_CAMERA_SCALE`. -/
def MAX_CAMERA_SCALE : BitVec 32 := 8#32

/-- `CameraResCfg`; a size of the hardware (`OMX_ACT_VARRESTYPE`) has the same two words. -/
structure CameraResCfg where
  width : BitVec 32
  height : BitVec 32
  deriving DecidableEq, Repr

/-- `resCompareFunc`, for two sizes. -/
def resCompareFunc (lhs rhs : CameraResCfg) : ℤ :=
  if lhs.width = rhs.width then
    if lhs.height = rhs.height then 0
    else if lhs.height.toInt > rhs.height.toInt then 1 else -1
  else if lhs.width.toInt ≥ rhs.width.toInt then 1 else -1

/-- `sizeNearWeight`. -/
def sizeNearWeight (cw ch dw dh : BitVec 32) : BitVec 32 :=
  let rw := ((dw - cw) <<< 16).sdiv cw
  let rh := ((dh - ch) <<< 16).sdiv ch
  let w :=
    if rw.toInt ≥ 0 ∧ rh.toInt ≥ 0 then if rw.toInt > rh.toInt then rw else rh
    else if rw.toInt ≤ 0 ∧ rh.toInt ≤ 0 then if rw.toInt > rh.toInt then rh else rw
    else if rw.toInt < 0 then rh - rw else rw - rh
  let w := if w.toInt < 0 then -w else w
  let w := if cw.toInt ≥ dw.toInt ∧ ch.toInt ≥ dh.toInt ∧ rw = rh then w.sshiftRight 2 else w
  if dw.toInt < 320 ∨ dh.toInt < 240 then w <<< 4 else w

/-- A size of the hardware that `findBestExSize` weighs. -/
def weighed (r hw : CameraResCfg) (isImage : Bool) : Bool :=
  (r.width - 1) / hw.width < MAX_CAMERA_SCALE && (r.height - 1) / hw.height < MAX_CAMERA_SCALE &&
    !(isImage && (hw.width > MAX_PICTURE_WIDTH || hw.height > MAX_PICTURE_HEIGHT))

/-- `findBestExSize` finds a size. -/
def findBestExSize (hwSizes : List CameraResCfg) (r : CameraResCfg) (isImage : Bool) : Bool :=
  hwSizes.any fun hw =>
    weighed r hw isImage && (sizeNearWeight r.width r.height hw.width hw.height).toInt < 0x7fffffff

/-- The extended sizes that the hardware does not have itself but can be scaled to. -/
def extendedSizes (hwSizes listed exRes : List CameraResCfg) (isImage : Bool) :
    List CameraResCfg :=
  exRes.filter fun r => !listed.contains r && findBestExSize hwSizes r isImage

/-- The entry of one size. -/
def sizeEntry (r : CameraResCfg) : List Char :=
  snprintf WHSIZE_COUNT (printU r.width ++ 'x' :: printU r.height ++ [','])

/-- The loop that writes the sizes; `none` if it writes past the end of its buffer. -/
def writeSizes (l : List CameraResCfg) (supported : List Char) : Option (List Char) :=
  l.foldlM
    (fun supported r =>
      strncat MAX_PROP_VALUE_LENGTH supported (sizeEntry r) MAX_PROP_NAME_LENGTH)
    supported

/-- The sizes in the order of the string. -/
def sortedSizes (l : List CameraResCfg) : List CameraResCfg :=
  l.mergeSort fun lhs rhs => resCompareFunc lhs rhs ≤ 0

/-- The end of `insertPreviewSizes` and of `insertImageSizes`: the sizes are sorted and
written. -/
def encodeSizes (l : List CameraResCfg) : Option (List Char) :=
  (writeSizes (sortedSizes l) []).map remove_last_sep

/-- The sizes of `prevSupportedRes`, before they are sorted. -/
def prevSupportedRes (tPreviewRes prevExRes : List CameraResCfg) : List CameraResCfg :=
  tPreviewRes ++ extendedSizes tPreviewRes tPreviewRes prevExRes false

/-- The sizes of `imageSupportedRes`, before they are sorted. -/
def imageSupportedRes (tImageRes imageExRes : List CameraResCfg) : List CameraResCfg :=
  let listed := tImageRes.filter fun r =>
    !(r.width > MAX_PICTURE_WIDTH || r.height > MAX_PICTURE_HEIGHT)
  listed ++ extendedSizes tImageRes listed imageExRes true

/-- `insertPreviewSizes`: the value of `SUPPORTED_PREVIEW_SIZES`. -/
def insertPreviewSizes (tPreviewRes prevExRes : List CameraResCfg) : Option (List Char) :=
  encodeSizes (prevSupportedRes tPreviewRes prevExRes)

/-- `insertImageSizes`: the value of `SUPPORTED_PICTURE_SIZES`. -/
def insertImageSizes (tImageRes imageExRes : List CameraResCfg) : Option (List Char) :=
  encodeSizes (imageSupportedRes tImageRes imageExRes)

/-! ### The tests -/

/-- `isResolutionValid`. -/
def isResolutionValid (width height : BitVec 32) (supportedResolutions : Option (List Char)) :
    Bool :=
  match supportedResolutions with
  | none => false
  | some supported =>
    strstr (snprintf PARAM_BUFFER (printD width ++ 'x' :: printD height)) supported

/-- `isParameterValid` of a text. -/
def isParameterValid (param supportedParams : Option (List Char)) : Bool :=
  match supportedParams, param with
  | none, _ => false
  | some _, none => false
  | some supported, some param => strstr param supported

/-- `isParameterValid` of a number. -/
def isNumberValid (param : BitVec 32) (supportedParams : Option (List Char)) : Bool :=
  match supportedParams with
  | none => false
  | some supported => strstr (snprintf PARAM_BUFFER (printD param)) supported

/-- A comma-separated list of names, as the capabilities are written. -/
def commaSeparated (names : List (List Char)) : List Char :=
  remove_last_sep (terminated ',' names)

/-! ### What the tests find

An entry that is too long for its buffer loses its separator, and the end of its height before
that. Its height then runs into the width of the next entry. -/

/-- The entry of a size has no room for its separator. -/
abbrev Cut (r : CameraResCfg) : Prop :=
  WHSIZE_COUNT ≤ (printU r.width).length + (printU r.height).length + 2

/-- The part of the height that the entry of a size has room for. -/
def shownHeight (r : CameraResCfg) : List Char :=
  (printU r.height).take (WHSIZE_COUNT - 2 - (printU r.width).length)

/-- The digits that an entry leaves before the width of the next. -/
def carried : Option CameraResCfg → List Char
  | none => []
  | some r => if Cut r then shownHeight r else []

/-- The digits of the height of an entry and those that run into it from the next. -/
def shownRight (r : CameraResCfg) (next : Option CameraResCfg) : List Char :=
  shownHeight r ++ if Cut r then (next.map fun n => printU n.width).getD [] else []

/-- The entries of the sizes fit in the string. -/
def TextFits (l : List CameraResCfg) : Prop :=
  (l.map fun r =>
    min ((printU r.width).length + (printU r.height).length + 2) (WHSIZE_COUNT - 1)).sum <
      MAX_PROP_VALUE_LENGTH

/-- At one of the entries, the text of the width ends the digits on the left and the text of the
height begins those on the right. -/
def SizeOccurs (width height : BitVec 32) (l : List CameraResCfg) : Prop :=
  ∃ pre r post, sortedSizes l = pre ++ r :: post ∧
    printD width <:+ carried pre.getLast? ++ printU r.width ∧
    printD height <+: shownRight r post.head?

/-- The value is empty, or it occurs in one of the names or, with a comma, in the list. -/
def NameOccurs (value : List Char) (names : List (List Char)) : Prop :=
  value = [] ∨ (∃ n ∈ names, value <:+: n) ∨ ',' ∈ value ∧ value <:+: commaSeparated names

/-! ### Numbers -/

/-- A number is written with digits. -/
lemma isDigit_of_mem_printU {x : BitVec 32} {c : Char} (h : c ∈ printU x) : c.isDigit = true :=
  Nat.isDigit_of_mem_toDigits (by decide) (by decide) h

/-- A signed number is written with digits and the minus sign. -/
lemma isDigit_or_of_mem_printD {x : BitVec 32} {c : Char} (h : c ∈ printD x) :
    c.isDigit = true ∨ c = '-' := by
  unfold printD at h
  split at h
  · rcases List.mem_cons.mp h with rfl | h
    · exact Or.inr rfl
    · exact Or.inl (Nat.isDigit_of_mem_toDigits (by decide) (by decide) h)
  · exact Or.inl (Nat.isDigit_of_mem_toDigits (by decide) (by decide) h)

/-- No other letter occurs in a number. -/
lemma notMem_printU {c : Char} (h : c.isDigit = false) (x : BitVec 32) : c ∉ printU x := by
  intro hc
  rw [isDigit_of_mem_printU hc] at h
  cases h

/-- No other letter occurs in a signed number. -/
lemma notMem_printD {c : Char} (h : c.isDigit = false) (hm : c ≠ '-') (x : BitVec 32) :
    c ∉ printD x := by
  intro hc
  rcases isDigit_or_of_mem_printD hc with hd | rfl
  · rw [hd] at h
    cases h
  · exact hm rfl

/-- A number has at most ten digits. -/
lemma length_printU_le (x : BitVec 32) : (printU x).length ≤ 10 := by
  rw [printU, Nat.length_toDigits_le_iff (by decide) (by decide)]
  have := x.isLt
  omega

/-- A signed number has at most eleven letters. -/
lemma length_printD_le (x : BitVec 32) : (printD x).length ≤ 11 := by
  have hle := BitVec.le_toInt x
  have hlt := BitVec.toInt_lt (x := x)
  unfold printD
  split
  · rw [List.length_cons]
    have : (Nat.toDigits 10 x.toInt.natAbs).length ≤ 10 := by
      rw [Nat.length_toDigits_le_iff (by decide) (by decide)]
      omega
    omega
  · have : (Nat.toDigits 10 x.toInt.toNat).length ≤ 10 := by
      rw [Nat.length_toDigits_le_iff (by decide) (by decide)]
      omega
    omega

/-! ### The entries -/

/-- What stands behind the `x` of an entry. -/
def entryRight (r : CameraResCfg) : List Char :=
  shownHeight r ++ if Cut r then [] else [',']

/-- An entry is a pair. -/
lemma sizeEntry_eq (r : CameraResCfg) :
    sizeEntry r = printU r.width ++ 'x' :: entryRight r := by
  have hw := length_printU_le r.width
  obtain ⟨k, hk⟩ : ∃ k, 11 - (printU r.width).length = k + 1 :=
    ⟨10 - (printU r.width).length, by omega⟩
  have hk' : k = 10 - (printU r.width).length := by omega
  have htake : ∀ n, [','].take n = if n = 0 then ([] : List Char) else [','] := by
    intro n
    cases n with
    | zero => rfl
    | succ n => simp
  unfold sizeEntry snprintf entryRight shownHeight Cut WHSIZE_COUNT
  rw [List.append_assoc, List.cons_append, List.take_append, List.take_of_length_le (by omega), hk,
    List.take_succ_cons, List.take_append, htake]
  subst hk'
  congr 3
  exact if_congr (by omega) rfl rfl

/-- The length of an entry. -/
lemma length_sizeEntry (r : CameraResCfg) :
    (sizeEntry r).length =
      min ((printU r.width).length + (printU r.height).length + 2) (WHSIZE_COUNT - 1) := by
  simp only [sizeEntry, snprintf, List.length_take, List.length_append, List.length_cons,
    List.length_nil]
  omega

/-- Behind the `x` of an entry stand digits and a separator. -/
lemma notMem_entryRight {c : Char} (h : c.isDigit = false) (hc : c ≠ ',') (r : CameraResCfg) :
    c ∉ entryRight r := by
  unfold entryRight
  rw [List.mem_append, not_or]
  constructor
  · intro hmem
    exact notMem_printU h r.height (List.mem_of_mem_take hmem)
  · split
    · exact List.not_mem_nil
    · simpa using hc

/-- The entries of a list of sizes. -/
abbrev entries (l : List CameraResCfg) : List Char :=
  pairs (fun r => printU r.width) entryRight 'x' l

/-- The loop appends the entries, as long as they fit. -/
lemma writeSizes_eq (l : List CameraResCfg) {supported : List Char}
    (h : supported.length < MAX_PROP_VALUE_LENGTH) :
    writeSizes l supported =
      if (supported ++ entries l).length < MAX_PROP_VALUE_LENGTH
      then some (supported ++ entries l) else none := by
  induction l generalizing supported with
  | nil => simp [writeSizes, entries, pairs, h]
  | cons r l ih =>
    have hlen := length_sizeEntry r
    have htake : (sizeEntry r).take MAX_PROP_NAME_LENGTH = sizeEntry r := by
      apply List.take_of_length_le
      rw [hlen]
      exact (min_le_right _ _).trans (by decide)
    have hcons : entries (r :: l) = sizeEntry r ++ entries l := by
      rw [entries, pairs_cons, sizeEntry_eq]
      simp
    have hstep : writeSizes (r :: l) supported =
        (strncat MAX_PROP_VALUE_LENGTH supported (sizeEntry r) MAX_PROP_NAME_LENGTH).bind
          (writeSizes l) := rfl
    rw [hstep, hcons, strncat, htake, ← List.append_assoc]
    by_cases hfit : (supported ++ sizeEntry r).length < MAX_PROP_VALUE_LENGTH
    · rw [if_pos hfit, Option.bind_some, ih hfit]
    · rw [if_neg hfit, Option.bind_none, if_neg]
      rw [List.length_append]
      omega

/-- The length of the entries. -/
lemma length_entries (l : List CameraResCfg) :
    (entries l).length = (l.map fun r =>
      min ((printU r.width).length + (printU r.height).length + 2) (WHSIZE_COUNT - 1)).sum := by
  induction l with
  | nil => rfl
  | cons r l ih =>
    have hcons : entries (r :: l) = sizeEntry r ++ entries l := by
      rw [entries, pairs_cons, sizeEntry_eq]
      simp
    rw [hcons, List.length_append, ih, length_sizeEntry, List.map_cons, List.sum_cons]

/-- The sizes in the order of the string are the same sizes. -/
lemma sortedSizes_perm (l : List CameraResCfg) : (sortedSizes l).Perm l :=
  List.mergeSort_perm l _

/-- **There is a string exactly if the entries fit, and it is the entries of the sorted sizes
without the last separator.** -/
theorem encodeSizes_eq_some_iff (l : List CameraResCfg) (supported : List Char) :
    encodeSizes l = some supported ↔
      TextFits l ∧ supported = remove_last_sep (entries (sortedSizes l)) := by
  have hfits : (entries (sortedSizes l)).length < MAX_PROP_VALUE_LENGTH ↔ TextFits l := by
    rw [length_entries, TextFits, ((sortedSizes_perm l).map _).sum_nat]
  rw [encodeSizes, writeSizes_eq _ (by decide), List.nil_append]
  by_cases h : TextFits l
  · rw [if_pos (hfits.mpr h), Option.map_some, Option.some_inj, and_iff_right h]
    exact eq_comm
  · rw [if_neg (mt hfits.mp h)]
    simp [h]

/-! ### The last separator -/

/-- A separator at the end is removed. -/
lemma remove_last_sep_append_sep (text : List Char) : remove_last_sep (text ++ [',']) = text := by
  simp [remove_last_sep]

/-- Without blanks nothing else is removed. -/
lemma remove_last_sep_cases {text : List Char} (h : ' ' ∉ text) :
    remove_last_sep text = text ∨ text = remove_last_sep text ++ [','] := by
  rcases text.eq_nil_or_concat with rfl | ⟨t, c, rfl⟩
  · exact Or.inl rfl
  · by_cases hc : c = ','
    · subst hc
      rw [List.concat_eq_append, remove_last_sep_append_sep]
      exact Or.inr rfl
    · left
      have hblank : c ≠ ' ' := by
        rintro rfl
        exact h (by simp)
      simp [remove_last_sep, hc, hblank]

/-- The last separator plays no part in the search for a text without separators. -/
lemma infix_remove_last_sep_iff {text needle : List Char} (h : ' ' ∉ text) (hn : ',' ∉ needle) :
    needle <:+: remove_last_sep text ↔ needle <:+: text := by
  rcases remove_last_sep_cases h with heq | heq
  · rw [heq]
  · rw [heq, infix_append_singleton_iff hn, remove_last_sep_append_sep]

/-- There are no blanks in the entries. -/
lemma notMem_entries (l : List CameraResCfg) : ' ' ∉ entries l := by
  induction l with
  | nil => decide
  | cons r l ih =>
    rw [entries, pairs_cons, List.mem_append, List.mem_cons, List.mem_append, not_or, not_or,
      not_or]
    exact ⟨notMem_printU (by decide) r.width, by decide,
      notMem_entryRight (by decide) (by decide) r, ih⟩

/-! ### What the test of a size finds -/

/-- On the left of an entry stand the digits that the entry before it leaves. -/
lemma suffix_left_iff {a : List Char} (hx : 'x' ∉ a) (hc : ',' ∉ a) (pre : List CameraResCfg)
    (r : CameraResCfg) :
    a <:+ entries pre ++ printU r.width ↔ a <:+ carried pre.getLast? ++ printU r.width := by
  rcases pre.eq_nil_or_concat with rfl | ⟨pre, q, rfl⟩
  · simp [entries, pairs, carried]
  · have hsingle : entries [q] = printU q.width ++ 'x' :: entryRight q := by
      rw [entries, pairs_cons]
      simp [pairs]
    rw [List.concat_eq_append, List.getLast?_append, List.getLast?_singleton, entries, pairs_append]
    change a <:+ entries pre ++ entries [q] ++ printU r.width ↔ a <:+ carried (some q) ++ _
    rw [hsingle]
    by_cases hcut : Cut q
    · rw [carried, if_pos hcut, entryRight, if_pos hcut, List.append_nil]
      have hassoc : entries pre ++ (printU q.width ++ 'x' :: shownHeight q) ++ printU r.width =
          (entries pre ++ printU q.width) ++ 'x' :: (shownHeight q ++ printU r.width) := by
        simp
      rw [hassoc, suffix_append_sep_iff hx]
    · rw [carried, if_neg hcut, entryRight, if_neg hcut, List.nil_append]
      have hassoc : entries pre ++ (printU q.width ++ 'x' :: (shownHeight q ++ [','])) ++
          printU r.width =
          (entries pre ++ (printU q.width ++ 'x' :: shownHeight q)) ++ ',' :: printU r.width := by
        simp
      rw [hassoc, suffix_append_sep_iff hc]

/-- On the right of an entry stand its height and the digits that run into it. -/
lemma prefix_right_iff {b : List Char} (hx : 'x' ∉ b) (hc : ',' ∉ b) (r : CameraResCfg)
    (post : List CameraResCfg) :
    b <+: entryRight r ++ entries post ↔ b <+: shownRight r post.head? := by
  by_cases hcut : Cut r
  · rw [entryRight, if_pos hcut, List.append_nil, shownRight, if_pos hcut]
    cases post with
    | nil => simp [entries, pairs]
    | cons n post =>
      have hassoc : shownHeight r ++ entries (n :: post) =
          (shownHeight r ++ printU n.width) ++ 'x' :: (entryRight n ++ entries post) := by
        rw [entries, pairs_cons]
        simp
      rw [hassoc, prefix_append_sep_iff hx, List.head?_cons, Option.map_some, Option.getD_some]
  · have hassoc : entryRight r ++ entries post = shownHeight r ++ ',' :: entries post := by
      rw [entryRight, if_neg hcut]
      simp
    rw [hassoc, prefix_append_sep_iff hc, shownRight, if_neg hcut, List.append_nil]

/-- **The test of a size finds the pairs that occur.** -/
theorem isResolutionValid_iff {l : List CameraResCfg} {supported : List Char}
    (h : encodeSizes l = some supported) (width height : BitVec 32) :
    isResolutionValid width height (some supported) = true ↔ SizeOccurs width height l := by
  obtain ⟨-, rfl⟩ := (encodeSizes_eq_some_iff l supported).mp h
  have hkept : snprintf PARAM_BUFFER (printD width ++ 'x' :: printD height) =
      printD width ++ 'x' :: printD height := by
    have hw := length_printD_le width
    have hh := length_printD_le height
    apply List.take_of_length_le
    rw [List.length_append, List.length_cons, PARAM_BUFFER]
    omega
  have hcomma : ',' ∉ printD width ++ 'x' :: printD height := by
    rw [List.mem_append, List.mem_cons, not_or, not_or]
    exact ⟨notMem_printD (by decide) (by decide) width, by decide,
      notMem_printD (by decide) (by decide) height⟩
  rw [isResolutionValid, hkept, strstr_iff, infix_remove_last_sep_iff (notMem_entries _) hcomma,
    pair_infix_pairs_iff (fun r => notMem_printU (by decide) r.width)
      (notMem_entryRight (by decide) (by decide)), SizeOccurs]
  refine exists_congr fun pre => exists_congr fun r => exists_congr fun post => and_congr_right ?_
  intro hsplit
  exact and_congr
    (suffix_left_iff (notMem_printD (by decide) (by decide) width)
      (notMem_printD (by decide) (by decide) width) pre r)
    (prefix_right_iff (notMem_printD (by decide) (by decide) height)
      (notMem_printD (by decide) (by decide) height) r post)

/-- Where no entry is cut, a pair occurs if its texts end a listed width and begin the height that
goes with it. -/
theorem sizeOccurs_iff_of_not_cut {l : List CameraResCfg} (h : ∀ r ∈ l, ¬ Cut r)
    (width height : BitVec 32) :
    SizeOccurs width height l ↔
      ∃ r ∈ l, printD width <:+ printU r.width ∧ printD height <+: printU r.height := by
  have hright : ∀ r ∈ l, ∀ next, shownRight r next = printU r.height := by
    intro r hr next
    have hcut := h r hr
    rw [shownRight, if_neg hcut, List.append_nil, shownHeight]
    apply List.take_of_length_le
    unfold Cut WHSIZE_COUNT at hcut
    unfold WHSIZE_COUNT
    omega
  have hleft : ∀ pre : List CameraResCfg, (∀ r ∈ pre, r ∈ l) → carried pre.getLast? = [] := by
    intro pre hpre
    cases hlast : pre.getLast? with
    | none => rfl
    | some q => rw [carried, if_neg (h q (hpre q (List.mem_of_getLast? hlast)))]
  have hmem : ∀ r, r ∈ sortedSizes l ↔ r ∈ l := fun r => (sortedSizes_perm l).mem_iff
  constructor
  · rintro ⟨pre, r, post, hsplit, hw, hh⟩
    have hr : r ∈ l := (hmem r).mp (by rw [hsplit]; simp)
    rw [hleft pre fun q hq => (hmem q).mp (by rw [hsplit]; simp [hq]), List.nil_append] at hw
    rw [hright r hr] at hh
    exact ⟨r, hr, hw, hh⟩
  · rintro ⟨r, hr, hw, hh⟩
    obtain ⟨pre, post, hsplit⟩ := List.append_of_mem ((hmem r).mpr hr)
    refine ⟨pre, r, post, hsplit, ?_, ?_⟩
    · rwa [hleft pre fun q hq => (hmem q).mp (by rw [hsplit]; simp [hq]), List.nil_append]
    · rwa [hright r hr]

/-! ### What the test of a name finds -/

/-- A list of one name. -/
lemma commaSeparated_singleton (n : List Char) : commaSeparated [n] = n := by
  have hone : terminated ',' [n] = n ++ [','] := by simp [terminated]
  rw [commaSeparated, hone, remove_last_sep_append_sep]

/-- The separator that is removed is the one at the end. -/
lemma terminated_eq {names : List (List Char)} (h : names ≠ []) :
    terminated ',' names = commaSeparated names ++ [','] := by
  rcases names.eq_nil_or_concat with rfl | ⟨front, n, rfl⟩
  · exact absurd rfl h
  · have hlast : terminated ',' (front ++ [n]) = (terminated ',' front ++ n) ++ [','] := by
      simp [terminated]
    rw [List.concat_eq_append, commaSeparated, hlast, remove_last_sep_append_sep]

/-- A longer list. -/
lemma commaSeparated_cons (n : List Char) {names : List (List Char)} (h : names ≠ []) :
    commaSeparated (n :: names) = n ++ ',' :: commaSeparated names := by
  have hcons : terminated ',' (n :: names) = (n ++ ',' :: commaSeparated names) ++ [','] := by
    have hsplit : terminated ',' (n :: names) = n ++ ',' :: terminated ',' names := by
      simp [terminated]
    rw [hsplit, terminated_eq h]
    simp
  rw [commaSeparated, hcons, remove_last_sep_append_sep]

/-- A listed name occurs in the list. -/
lemma infix_commaSeparated_of_mem {n : List Char} {names : List (List Char)} (h : n ∈ names) :
    n <:+: commaSeparated names := by
  induction names with
  | nil => cases h
  | cons m names ih =>
    by_cases hnil : names = []
    · subst hnil
      rw [commaSeparated_singleton, List.mem_singleton.mp h]
    · rw [commaSeparated_cons m hnil]
      rcases List.mem_cons.mp h with rfl | h
      · exact (List.prefix_append n _).isInfix
      · exact (ih h).trans ((List.suffix_cons ',' _).trans (List.suffix_append m _)).isInfix

/-- **The test of a name finds the names that occur.** -/
theorem isParameterValid_iff (value : List Char) (names : List (List Char)) :
    isParameterValid (some value) (some (commaSeparated names)) = true ↔
      NameOccurs value names := by
  rw [isParameterValid, strstr_iff, NameOccurs]
  constructor
  · intro h
    by_cases hnil : value = []
    · exact Or.inl hnil
    · by_cases hc : ',' ∈ value
      · exact Or.inr (Or.inr ⟨hc, h⟩)
      · have hnames : names ≠ [] := by
          rintro rfl
          exact hnil (List.eq_nil_of_infix_nil h)
        have hin : value <:+: terminated ',' names := by
          rw [terminated_eq hnames, infix_append_singleton_iff hc]
          exact h
        exact Or.inr (Or.inl ((infix_terminated_iff hc hnil names).mp hin))
  · rintro (rfl | ⟨n, hn, hin⟩ | ⟨-, h⟩)
    · exact List.nil_infix
    · exact hin.trans (infix_commaSeparated_of_mem hn)
    · exact h

/-- The test of a number is that of its text. -/
lemma isNumberValid_eq (param : BitVec 32) (supported : List Char) :
    isNumberValid param (some supported) =
      isParameterValid (some (printD param)) (some supported) := by
  have hkept : snprintf PARAM_BUFFER (printD param) = printD param := by
    apply List.take_of_length_le
    exact (length_printD_le param).trans (by decide)
  rw [isNumberValid, hkept, isParameterValid]

/-- A listed name is found. -/
lemma nameOccurs_of_mem {value : List Char} {names : List (List Char)} (h : value ∈ names) :
    NameOccurs value names :=
  Or.inr (Or.inl ⟨value, h, List.infix_rfl⟩)

/-! ### Members -/

/-- The test of a size over the string of a list accepts a pair if and only if it is listed. -/
def SizeTestExact (supported : Option (List Char)) (l : List CameraResCfg)
    (width height : BitVec 32) : Prop :=
  ∃ text, supported = some text ∧
    (isResolutionValid width height (some text) = true ↔ ⟨width, height⟩ ∈ l)

/-- When the test of a size is right about a pair. -/
lemma sizeTestExact_iff (l : List CameraResCfg) (width height : BitVec 32) :
    SizeTestExact (encodeSizes l) l width height ↔
      TextFits l ∧ (⟨width, height⟩ ∈ l ↔ SizeOccurs width height l) := by
  constructor
  · rintro ⟨text, heq, hexact⟩
    refine ⟨((encodeSizes_eq_some_iff l text).mp heq).1, ?_⟩
    rw [← isResolutionValid_iff heq]
    exact hexact.symm
  · rintro ⟨hfits, hexact⟩
    have heq := (encodeSizes_eq_some_iff l _).mpr ⟨hfits, rfl⟩
    refine ⟨_, heq, ?_⟩
    rw [isResolutionValid_iff heq]
    exact hexact.symm

/-- When the test of a name is right about a value. -/
lemma nameTestExact_iff (value : List Char) (names : List (List Char)) :
    (isParameterValid (some value) (some (commaSeparated names)) = true ↔ value ∈ names) ↔
      value ∈ names ∨ ¬ NameOccurs value names := by
  rw [isParameterValid_iff]
  constructor
  · intro hexact
    by_cases h : value ∈ names
    · exact Or.inl h
    · exact Or.inr fun hoccurs => h (hexact.mp hoccurs)
  · rintro (h | h)
    · exact iff_of_true (nameOccurs_of_mem h) h
    · exact iff_of_false h fun hmem => h (nameOccurs_of_mem hmem)

/-- **When the tests accept exactly the members of the lists.** The sizes fit in their string, and
the pair is listed exactly if its texts end the digits before and begin the digits behind the `x` of
an entry; the value is listed or does not occur in a listed name.

**Proof sketch.** The search finds the pairs at the entries (`isResolutionValid_iff`) and the names
in the listed names (`isParameterValid_iff`). -/
theorem accepts_members_iff (hwRes exRes : List CameraResCfg) (width height param : BitVec 32)
    (names : List (List Char)) (value : List Char) :
    (SizeTestExact (insertPreviewSizes hwRes exRes) (prevSupportedRes hwRes exRes) width height ↔
      TextFits (prevSupportedRes hwRes exRes) ∧
      (⟨width, height⟩ ∈ prevSupportedRes hwRes exRes ↔
        SizeOccurs width height (prevSupportedRes hwRes exRes))) ∧
    (SizeTestExact (insertImageSizes hwRes exRes) (imageSupportedRes hwRes exRes) width height ↔
      TextFits (imageSupportedRes hwRes exRes) ∧
      (⟨width, height⟩ ∈ imageSupportedRes hwRes exRes ↔
        SizeOccurs width height (imageSupportedRes hwRes exRes))) ∧
    ((isParameterValid (some value) (some (commaSeparated names)) = true ↔ value ∈ names) ↔
      value ∈ names ∨ ¬ NameOccurs value names) ∧
    ((isNumberValid param (some (commaSeparated names)) = true ↔ printD param ∈ names) ↔
      printD param ∈ names ∨ ¬ NameOccurs (printD param) names) := by
  refine ⟨?_, ?_, ?_, ?_⟩
  · exact sizeTestExact_iff (prevSupportedRes hwRes exRes) width height
  · exact sizeTestExact_iff (imageSupportedRes hwRes exRes) width height
  · exact nameTestExact_iff value names
  · rw [isNumberValid_eq]
    exact nameTestExact_iff (printD param) names

/-- Forty by 480 is accepted where only 640 by 480 is supported, and a white balance that is not
supported where another that ends like it is. -/
theorem not_accepts_members_forty :
    insertPreviewSizes [⟨640#32, 480#32⟩] [] = some "640x480".toList ∧
      isResolutionValid 40#32 480#32 (some "640x480".toList) = true ∧
      (⟨40#32, 480#32⟩ : CameraResCfg) ∉ prevSupportedRes [⟨640#32, 480#32⟩] [] ∧
      isParameterValid (some "fluorescent".toList)
        (some (commaSeparated ["auto".toList, "warm-fluorescent".toList])) = true ∧
      "fluorescent".toList ∉ ["auto".toList, "warm-fluorescent".toList] := by
  have hsorted : sortedSizes [⟨640#32, 480#32⟩] = [⟨640#32, 480#32⟩] := List.mergeSort_singleton _
  refine ⟨?_, by decide, by decide, by decide, by decide⟩
  change encodeSizes [⟨640#32, 480#32⟩] = _
  rw [encodeSizes, hsorted]
  decide

end CameraHal
