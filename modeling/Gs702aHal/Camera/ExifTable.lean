import Gs702aHal.Camera.Exif
import Gs702aHal.Lib.StepRun

set_option relaxedAutoImplicit false
set_option autoImplicit false

/-!
# The table of the software encoder

`ExifElementsTable::insertElement` copies a value to the table. For the processing method of the
position it skips a prefix before it looks for the end of the text; `convertEXIF_libjpeg` inserts
the text without a prefix, as it is in the record.

## Main definitions

* `CameraHal.Exif.Insertion` — a call of `insertElement` with a text, and what lies behind it.
* `CameraHal.Exif.valueLength` — how many bytes of it are copied, less one.
* `CameraHal.Exif.freed` — what the destructor frees.
* `CameraHal.Exif.Insertion.Works` — what a call should do.

## Main results

* `CameraHal.Exif.Counted.step` — the two counters are the length of the table.
* `CameraHal.Exif.insertions_work_iff` — the calls of a run do what they should exactly if no
  processing method is shorter than the prefix, and there is memory for the copies.
* `CameraHal.Exif.not_insertions_work_gps` — the processing method `GPS`.
-/

namespace CameraHal

open Status

namespace Exif

open ExifTag

variable (jhead : Jhead) (memory : ℕ → Bool)

/-- A text that is inserted under a tag, and what lies in the memory behind its terminator. -/
structure Insertion where
  tag : ExifTag
  value : Text
  behind : Text
  zero : terminator ∉ value

namespace Insertion

/-- The memory from the value on. -/
def memoryAt (c : Insertion) : Text := c.value ++ terminator :: c.behind

end Insertion

/-- `value_length`: a text with a prefix ends at the first zero behind the prefix. -/
def valueLength (tag : ExifTag) (value : Text) : ℕ :=
  if isAsciiTag tag then
    jhead.ExifAsciiPrefix.length + (cString (value.drop jhead.ExifAsciiPrefix.length)).length
  else (cString value).length

/-- What a call does to the table. -/
def insertionStep (t : ExifElementsTable) (c : Insertion) : ExifElementsTable :=
  (insertElement jhead memory c.tag (some c.memoryAt) t).2

/-- Whether the table has a value at a position. -/
def stored (t : ExifElementsTable) (i : ℕ) : Bool := ((t.table[i]?).bind ExifElement.Value).isSome

/-- The positions whose values the destructor frees, one after the other. -/
def freed (t : ExifElementsTable) : List ℕ :=
  (List.range (t.gps_tag_count + t.exif_tag_count)).filter (stored t)

/-- The two counters are the number of elements, which is not too large. -/
def Counted (t : ExifElementsTable) : Prop :=
  t.gps_tag_count + t.exif_tag_count = t.table.length ∧ t.table.length ≤ MAX_EXIF_TAGS_SUPPORTED

/-- What a call should do. A full table stays as it is. Otherwise the bytes that are read, of which
there are `value_length + 1`, are those of the value with its terminator, and the element stored
has a copy of all of them; the counters are the number of elements, and the destructor would free
each stored value once. -/
def Insertion.Works (t : ExifElementsTable) (c : Insertion) : Prop :=
  (t.table.length = MAX_EXIF_TAGS_SUPPORTED → insertionStep jhead memory t c = t) ∧
    (t.table.length < MAX_EXIF_TAGS_SUPPORTED →
      valueLength jhead c.tag c.memoryAt + 1 ≤ c.value.length + 1 ∧
        ∃ e, (insertionStep jhead memory t c).table = t.table ++ [e] ∧ e.Value = some c.value ∧
          e.DataLength = c.value.length + 1) ∧
    Counted (insertionStep jhead memory t c) ∧
    ∀ i, (freed (insertionStep jhead memory t c)).count i =
      if stored (insertionStep jhead memory t c) i then 1 else 0

/-- The condition: while the table is not full, there is memory for the copy, and a processing
method is not shorter than the prefix. -/
def Insertion.Fits (t : ExifElementsTable) (c : Insertion) : Prop :=
  t.table.length < MAX_EXIF_TAGS_SUPPORTED →
    memory t.table.length = true ∧
      (isAsciiTag c.tag = true → jhead.ExifAsciiPrefix.length ≤ c.value.length)

variable {jhead memory} {t : ExifElementsTable} {c : Insertion}

/-- A full table stays as it is. -/
lemma insertionStep_of_full (h : t.table.length = MAX_EXIF_TAGS_SUPPORTED) :
    insertionStep jhead memory t c = t := by
  simp only [insertionStep, insertElement]
  rw [if_pos h.ge]

/-- A table that is not full gets the element. -/
lemma insertionStep_of_lt (h : t.table.length < MAX_EXIF_TAGS_SUPPORTED) :
    insertionStep jhead memory t c = t.add jhead memory c.tag c.memoryAt := by
  simp only [insertionStep, insertElement]
  rw [if_neg (not_le.mpr h)]

/-- The empty table is counted. -/
lemma counted_empty : Counted .empty := ⟨rfl, Nat.zero_le _⟩

/-- **Every call keeps the two counters equal to the number of elements.** -/
lemma Counted.step (h : Counted t) (c : Insertion) : Counted (insertionStep jhead memory t c) := by
  obtain ⟨hsum, hle⟩ := h
  rcases hle.lt_or_eq with hlt | hfull
  · rw [insertionStep_of_lt hlt]
    refine ⟨?_, ?_⟩
    · simp only [ExifElementsTable.add, List.length_append, List.length_singleton]
      split <;> omega
    · simp only [ExifElementsTable.add, List.length_append, List.length_singleton]
      omega
  · rw [insertionStep_of_full hfull]
    exact ⟨hsum, hle⟩

/-- There is no value behind the elements. -/
lemma stored_of_le {i : ℕ} (h : t.table.length ≤ i) : stored t i = false := by
  simp [stored, List.getElem?_eq_none h]

/-- **The destructor frees each stored value once.** -/
lemma Counted.freed_count (h : Counted t) (i : ℕ) :
    (freed t).count i = if stored t i then 1 else 0 := by
  have hnodup : (freed t).Nodup := List.nodup_range.filter _
  have hmem : i ∈ freed t ↔ stored t i = true := by
    rw [freed, h.1, List.mem_filter, List.mem_range]
    refine ⟨And.right, fun hstored => ⟨?_, hstored⟩⟩
    by_contra hlt
    rw [stored_of_le (not_lt.mp hlt)] at hstored
    exact absurd hstored Bool.false_ne_true
  rw [hnodup.count]
  exact if_congr hmem rfl rfl

/-- A text that is not shorter than a skipped prefix ends at its terminator; a shorter one does
not. -/
lemma valueLength_le_iff :
    valueLength jhead c.tag c.memoryAt ≤ c.value.length ↔
      (isAsciiTag c.tag = true → jhead.ExifAsciiPrefix.length ≤ c.value.length) := by
  have hself : cString c.memoryAt = c.value := by
    rw [Insertion.memoryAt, cString_append c.zero]
    exact List.append_nil c.value
  unfold valueLength
  cases hascii : isAsciiTag c.tag with
  | false => simp [hself]
  | true =>
    simp only [if_true, forall_const]
    constructor
    · intro h
      omega
    · intro h
      have hdrop : terminator ∉ c.value.drop jhead.ExifAsciiPrefix.length := fun hmem =>
        c.zero (List.mem_of_mem_drop hmem)
      have hrest : cString (c.memoryAt.drop jhead.ExifAsciiPrefix.length) =
          c.value.drop jhead.ExifAsciiPrefix.length := by
        rw [Insertion.memoryAt, List.drop_append_of_le_length h, cString_append hdrop]
        exact List.append_nil _
      rw [hrest, List.length_drop]
      omega

/-- A text that is read to its end is copied. -/
lemma content_eq (h : isAsciiTag c.tag = true → jhead.ExifAsciiPrefix.length ≤ c.value.length) :
    content jhead c.tag c.memoryAt = c.value := by
  unfold content
  cases hascii : isAsciiTag c.tag with
  | false =>
    rw [if_neg Bool.false_ne_true, Insertion.memoryAt, cString_append c.zero]
    exact List.append_nil c.value
  | true =>
    have hle := h hascii
    have hdrop : terminator ∉ c.value.drop jhead.ExifAsciiPrefix.length := fun hmem =>
      c.zero (List.mem_of_mem_drop hmem)
    have hrest : cString (c.value.drop jhead.ExifAsciiPrefix.length ++ terminator :: c.behind) =
        c.value.drop jhead.ExifAsciiPrefix.length := by
      rw [cString_append hdrop]
      exact List.append_nil _
    rw [if_pos rfl, Insertion.memoryAt, List.take_append_of_le_length hle,
      List.drop_append_of_le_length hle, hrest, List.take_append_drop]

/-- A call does what it should exactly under the condition. -/
lemma Insertion.works_iff (h : Counted t) : c.Works jhead memory t ↔ c.Fits jhead memory t := by
  have hcounted : Counted (insertionStep jhead memory t c) := h.step c
  constructor
  · rintro ⟨-, hworks, -⟩ hlt
    obtain ⟨hread, e, htable, hvalue, -⟩ := hworks hlt
    refine ⟨?_, valueLength_le_iff.mp (by omega)⟩
    rw [insertionStep_of_lt hlt, ExifElementsTable.add, List.append_cancel_left_eq,
      List.singleton_inj] at htable
    rw [← htable] at hvalue
    by_contra hmemory
    rw [element, if_neg hmemory] at hvalue
    cases hvalue
  · intro hfits
    refine ⟨insertionStep_of_full, fun hlt => ?_, hcounted, hcounted.freed_count⟩
    obtain ⟨hmemory, hprefix⟩ := hfits hlt
    have hread := valueLength_le_iff.mpr hprefix
    refine ⟨by omega, element jhead memory t.table.length c.tag c.memoryAt, ?_, ?_, ?_⟩
    · rw [insertionStep_of_lt hlt]
      rfl
    · simp only [element, if_pos hmemory, content_eq hprefix]
    · simp only [element, if_pos hmemory, content_eq hprefix]

/-- **Insertions work exactly if no processing method is shorter than the prefix.** For every
sequence of insertions of any texts under any tags, whatever lies behind the texts: every call
reads only the text, stores a copy of all of it and leaves the counters equal to the number of
elements, so that each value is freed once, and a call on a full table changes nothing, exactly if,
while the table is not full, there is memory for each copy, and each text under the tag of the
processing method has at least as many bytes as the prefix.

**Proof sketch.** The end of a text under that tag is searched behind the prefix, thus beyond the
end of a shorter text. -/
theorem insertions_work_iff (jhead : Jhead) (memory : ℕ → Bool) (calls : List Insertion) :
    StepRun.Along (insertionStep jhead memory) (fun t c => c.Works jhead memory t) .empty calls ↔
      StepRun.Along (insertionStep jhead memory) (fun t c => c.Fits jhead memory t) .empty calls :=
  StepRun.along_iff_along (I := Counted) (fun _ _ h => Insertion.works_iff h)
    (fun _ c h _ => h.step c) counted_empty

/-- The text of the processing method as `convertEXIF_libjpeg` inserts it. -/
def methodInsertion (method : Text) (hzero : terminator ∉ method) : Insertion where
  tag := TAG_GPS_PROCESSING_METHOD
  value := method
  behind := List.replicate (GPS_PROCESSING_SIZE - method.length - 1) terminator
  zero := hzero

/-- The memory that is read is the record's buffer. -/
lemma memoryAt_methodInsertion {method : Text} (hzero : terminator ∉ method)
    (hlength : method.length < GPS_PROCESSING_SIZE) :
    (methodInsertion method hzero).memoryAt = buffer GPS_PROCESSING_SIZE method := by
  have hsucc : GPS_PROCESSING_SIZE - method.length =
      GPS_PROCESSING_SIZE - method.length - 1 + 1 := by omega
  have hpad : buffer GPS_PROCESSING_SIZE method =
      method ++ List.replicate (GPS_PROCESSING_SIZE - method.length) terminator := rfl
  rw [hpad, hsucc, List.replicate_succ]
  rfl

/-- **The processing method `GPS` is not copied as it is.** Nine bytes are read from its buffer,
of which four are the text's, and stored. -/
theorem not_insertions_work_gps :
    ∃ c : Insertion, c.tag = TAG_GPS_PROCESSING_METHOD ∧ c.value = ['G', 'P', 'S'] ∧
      c.memoryAt = buffer GPS_PROCESSING_SIZE ['G', 'P', 'S'] ∧
      valueLength jheadTags c.tag c.memoryAt + 1 = 9 ∧
      ¬ StepRun.Along (insertionStep jheadTags fun _ => true)
        (fun t c => c.Works jheadTags (fun _ => true) t) .empty [c] := by
  have hzero : terminator ∉ ['G', 'P', 'S'] := by decide
  have hmemory := memoryAt_methodInsertion hzero (by decide)
  have hlength : valueLength jheadTags TAG_GPS_PROCESSING_METHOD
      (methodInsertion ['G', 'P', 'S'] hzero).memoryAt + 1 = 9 := by
    rw [hmemory]
    decide
  refine ⟨methodInsertion ['G', 'P', 'S'] hzero, rfl, rfl, hmemory, hlength, ?_⟩
  rintro ⟨⟨-, hworks, -⟩, -⟩
  have hread : _ ≤ 3 + 1 := (hworks (by decide)).1
  exact absurd (hlength.symm.trans_le hread) (by decide)

end Exif

end CameraHal
