import Mathlib.Data.List.DropRight
import Gs702aHal.Lib.CString
import Gs702aHal.Camera.SetParameters

set_option relaxedAutoImplicit false
set_option autoImplicit false

/-!
# The resolutions of a configuration

A system property lists extra resolutions by their names. `parserResList` walks through the text of
the property and changes it on the way: it puts a terminator in the place of each comma, `myTrim`
puts one behind the last letter of an entry, `myUpcase` writes the letters back. In a blank entry
`myTrim` takes the terminator itself for the last letter, so that its own terminator is written
over the first letter of the next entry.

## Main definitions

* `CameraHal.myTrim`, `CameraHal.myUpcase`, `CameraHal.parserResList` — the functions of
  `CameraConfigs.cpp`, on the buffer of the property.
* `CameraHal.CameraResTable.getResByName` — the table of names.
* `CameraHal.resolutionOf` — what an entry names.

## Main results

* `CameraHal.parserResList_eq` — what is read of a text.
* `CameraHal.parserResList_iff` — when that is what the entries name.
-/

namespace CameraHal

open CString

/-! ### The table of names -/

/-- `CameraResItem`. -/
structure CameraResItem where
  name : Text
  width : BitVec 32
  height : BitVec 32

namespace CameraResTable

/-- `sCameraResNameTable`. -/
def sCameraResNameTable : List CameraResItem :=
  [⟨"QCIF".toList, 176, 144⟩, ⟨"QVGA".toList, 320, 240⟩, ⟨"CIF".toList, 352, 288⟩,
    ⟨"D1".toList, 752, 480⟩, ⟨"VGA".toList, 640, 480⟩, ⟨"SVGA".toList, 800, 600⟩,
    ⟨"WVGA".toList, 800, 480⟩, ⟨"HD".toList, 1280, 720⟩, ⟨"UXGA".toList, 1600, 1200⟩,
    ⟨"FULLHD".toList, 1920, 1080⟩, ⟨"1M".toList, 1024, 768⟩, ⟨"1.3M".toList, 1280, 960⟩,
    ⟨"2M".toList, 1600, 1200⟩, ⟨"3M".toList, 2048, 1536⟩, ⟨"5M".toList, 2592, 1944⟩,
    ⟨"8M".toList, 3264, 2448⟩, ⟨"12M".toList, 4288, 2848⟩]

/-- `getResByName`. -/
def getResByName (name : Text) : Option CameraResItem :=
  sCameraResNameTable.find? fun item => item.name = name

end CameraResTable

/-! ### The functions on the buffer -/

/-- `isspace`, in the C locale. -/
def isspace (c : Char) : Bool :=
  c = ' ' || ('\t' ≤ c && c ≤ '\r')

/-- The second loop of `myTrim`: the place of the last letter that is not a space. -/
def lastMark : Text → ℕ → ℕ → ℕ
  | [], _, last => last
  | c :: s, cur, last => lastMark s (cur + 1) (if isspace c then last else cur)

/-- `myTrim`: the place of the first letter that is not a space, and the buffer with a terminator
behind the last one. -/
def myTrim (buf : Text) (str : ℕ) : Option (ℕ × Text) :=
  let str := str + ((text '\x00' buf str).takeWhile isspace).length
  let last := lastMark (text '\x00' buf str) str str
  (store buf (last + 1) '\x00').map fun buf => (str, buf)

/-- A letter in upper case. -/
def upcase (c : Char) : Char :=
  if 'a' ≤ c ∧ c ≤ 'z' then Char.ofNat (c.toNat + 'A'.toNat - 'a'.toNat) else c

/-- The loop of `myUpcase`, over the letters of the string. -/
def upcaseLoop : Text → ℕ → Text → Text
  | [], _, buf => buf
  | c :: s, cur, buf =>
    upcaseLoop s (cur + 1) (if 'a' ≤ c ∧ c ≤ 'z' then buf.set cur (upcase c) else buf)

/-- `myUpcase`. -/
def myUpcase (buf : Text) (str : ℕ) : Text :=
  upcaseLoop (text '\x00' buf str) str buf

/-- What `parserResList` does with one entry, in both branches of its loop. -/
def addEntry (buf : Text) (a : ℕ) (reslist : List CameraResCfg) :
    Option (Text × List CameraResCfg) :=
  (myTrim buf a).map fun (a, buf) =>
    let buf := myUpcase buf a
    match CameraResTable.getResByName (text '\x00' buf a) with
    | some resItem => (buf, reslist ++ [⟨resItem.width, resItem.height⟩])
    | none => (buf, reslist)

/-- The loop of `parserResList`. Each pass but the last leaves a comma behind it. -/
def resLoop : ℕ → Text → ℕ → List CameraResCfg → Option (List CameraResCfg)
  | 0, _, _, _ => none
  | fuel + 1, buf, a, reslist =>
    match strchr '\x00' buf a ',' with
    | none => (addEntry buf a reslist).map Prod.snd
    | some b =>
      (store buf b '\x00').bind fun buf =>
        (addEntry buf a reslist).bind fun (buf, reslist) => resLoop fuel buf (b + 1) reslist

/-- `parserResList`, for a buffer with a text: the list; `none` if it writes outside the buffer. -/
def parserResList (prop : Text) : Option (List CameraResCfg) :=
  if text '\x00' prop 0 = [] then some [] else resLoop prop.length prop 0 []

/-! ### What an entry names -/

/-- An entry of spaces only. -/
def IsBlank (e : Text) : Prop := ∀ c ∈ e, isspace c = true

instance : DecidablePred IsBlank := fun e => inferInstanceAs (Decidable (∀ c ∈ e, _))

/-- An entry without the spaces around it. -/
def trim (e : Text) : Text :=
  (e.dropWhile isspace).rdropWhile isspace

/-- The resolution that an entry names. -/
def resolutionOf (e : Text) : Option CameraResCfg :=
  (CameraResTable.getResByName ((trim e).map upcase)).map fun item => ⟨item.width, item.height⟩

/-- A blank entry has no letters left. -/
lemma trim_of_blank {e : Text} (he : IsBlank e) : trim e = [] := by
  rw [trim, List.dropWhile_eq_nil_iff.mpr he]
  rfl

/-- A blank entry names nothing. -/
lemma resolutionOf_of_blank {e : Text} (he : IsBlank e) : resolutionOf e = none := by
  rw [resolutionOf, trim_of_blank he]
  rfl

/-- An entry that is not blank is some spaces, its trimmed text and some more spaces. -/
lemma eq_trim (e : Text) :
    ∃ trail, e = e.takeWhile isspace ++ (trim e ++ trail) ∧ ∀ c ∈ trail, isspace c = true := by
  refine ⟨(e.dropWhile isspace).rtakeWhile isspace, ?_, ?_⟩
  · rw [trim, List.rdropWhile_append_rtakeWhile, List.takeWhile_append_dropWhile]
  · exact fun c hc => List.mem_rtakeWhile_imp hc

/-- The trimmed text of an entry that is not blank begins with a letter. -/
lemma trim_ne_nil {e : Text} (he : ¬ IsBlank e) : trim e ≠ [] := by
  intro hnil
  refine he fun c hc => ?_
  by_contra hspace
  rw [trim, List.rdropWhile_eq_nil_iff] at hnil
  have hne : e.dropWhile isspace ≠ [] := by
    intro hdrop
    exact hspace (List.dropWhile_eq_nil_iff.mp hdrop c hc)
  have hhead := List.head_dropWhile_not isspace hne
  rw [hnil _ (List.head_mem hne)] at hhead
  exact Bool.noConfusion hhead

/-! ### The loops over an entry -/

/-- The last letter decides about the place. -/
lemma lastMark_append (s : Text) (c : Char) (cur last : ℕ) :
    lastMark (s ++ [c]) cur last =
      if isspace c then lastMark s cur last else cur + s.length := by
  induction s generalizing cur last with
  | nil => simp [lastMark]
  | cons d s ih =>
    rw [List.cons_append, lastMark, lastMark, ih]
    simp only [List.length_cons]
    split <;> omega

/-- The loop of `myTrim` stops at the last letter that is not a space. -/
lemma lastMark_eq {s : Text} (hs : s.rdropWhile isspace ≠ []) (cur last : ℕ) :
    lastMark s cur last + 1 = cur + (s.rdropWhile isspace).length := by
  induction s using List.reverseRecOn with
  | nil => simp at hs
  | append_singleton s c ih =>
    rw [lastMark_append]
    cases hc : isspace c with
    | true =>
      rw [List.rdropWhile_concat_pos isspace s c hc] at hs ⊢
      simpa using ih hs
    | false =>
      rw [List.rdropWhile_concat_neg isspace s c (by simp [hc])]
      simp
      omega

/-- A letter stays a letter in upper case. -/
lemma upcase_ne_nul {c : Char} (hc : c ≠ '\x00') : upcase c ≠ '\x00' := by
  unfold upcase
  split
  case isTrue h =>
    have hall : ∀ n ≤ 122, 97 ≤ n → Char.ofNat (n + 'A'.toNat - 'a'.toNat) ≠ '\x00' := by decide
    exact hall c.toNat h.2 h.1
  case isFalse => exact hc

/-- The loop of `myUpcase` writes the letters of the string in upper case. -/
lemma upcaseLoop_eq (s pre rest : Text) :
    upcaseLoop s pre.length (pre ++ (s ++ rest)) = pre ++ (s.map upcase ++ rest) := by
  induction s generalizing pre with
  | nil => simp [upcaseLoop]
  | cons c s ih =>
    have hset : (if 'a' ≤ c ∧ c ≤ 'z' then (pre ++ (c :: s ++ rest)).set pre.length (upcase c)
        else pre ++ (c :: s ++ rest)) = (pre ++ [upcase c]) ++ (s ++ rest) := by
      split
      case isTrue h => simp
      case isFalse h => simp [upcase, h]
    rw [upcaseLoop, hset]
    have := ih (pre ++ [upcase c])
    simpa using this

/-! ### One entry -/

/-- `myTrim` on an entry that is not blank: it points to the trimmed text, which a terminator ends;
nothing behind the terminator of the entry changes.

**Proof sketch.** Cut the entry into spaces, the trimmed text and spaces. The store goes to the
first of the last spaces, or to the terminator itself if there are none. -/
lemma myTrim_of_not_blank {e : Text} (hnul : '\x00' ∉ e) (he : ¬ IsBlank e) (pre rest : Text) :
    ∃ lead gap, lead.length + (trim e).length + gap.length = e.length ∧
      myTrim (pre ++ (e ++ '\x00' :: rest)) pre.length =
        some ((pre ++ lead).length,
          (pre ++ lead) ++ (trim e ++ '\x00' :: (gap ++ rest))) := by
  obtain ⟨trail, heq, -⟩ := eq_trim e
  set lead := e.takeWhile isspace with hlead
  have hmem : pre ++ (e ++ '\x00' :: rest) =
      (pre ++ lead) ++ ((trim e ++ trail) ++ '\x00' :: rest) := by
    conv_lhs => rw [heq]
    simp only [List.append_assoc]
  have hdrop : e.dropWhile isspace = trim e ++ trail :=
    List.append_cancel_left ((List.takeWhile_append_dropWhile (p := isspace) (l := e)).trans heq)
  have hnul' : '\x00' ∉ trim e ++ trail :=
    fun h => hnul ((hdrop ▸ List.dropWhile_sublist isspace).subset h)
  have hlast : lastMark (trim e ++ trail) (pre ++ lead).length (pre ++ lead).length + 1 =
      ((pre ++ lead) ++ trim e).length := by
    rw [← hdrop, lastMark_eq (trim_ne_nil he), ← trim]
    exact List.length_append.symm
  have htrim : myTrim (pre ++ (e ++ '\x00' :: rest)) pre.length =
      (store (((pre ++ lead) ++ trim e) ++ (trail ++ '\x00' :: rest))
        ((pre ++ lead) ++ trim e).length '\x00').map fun buf => ((pre ++ lead).length, buf) := by
    rw [myTrim, text_eq hnul, ← hlead, ← List.length_append, hmem, text_eq hnul', hlast]
    simp only [List.append_assoc]
  have hlen := congrArg List.length heq
  simp only [List.length_append] at hlen
  cases trail with
  | nil =>
    refine ⟨lead, [], by simpa using hlen.symm, ?_⟩
    rw [htrim, List.nil_append, store_eq rfl]
    simp
  | cons c trail =>
    refine ⟨lead, trail ++ ['\x00'], by simp at hlen ⊢; omega, ?_⟩
    rw [htrim, List.cons_append, store_eq rfl]
    simp

/-- What an entry that is not blank adds.

**Proof sketch.** `myTrim` leaves its trimmed text, `myUpcase` puts it into upper case where it is,
and the table is asked for it. -/
lemma addEntry_of_not_blank {e : Text} (hnul : '\x00' ∉ e) (he : ¬ IsBlank e) (pre rest : Text)
    (reslist : List CameraResCfg) :
    ∃ done, done.length = e.length + 1 ∧
      addEntry (pre ++ (e ++ '\x00' :: rest)) pre.length reslist =
        some (pre ++ (done ++ rest), reslist ++ (resolutionOf e).toList) := by
  obtain ⟨lead, gap, hlen, htrim⟩ := myTrim_of_not_blank hnul he pre rest
  obtain ⟨trail, heq, -⟩ := eq_trim e
  have hnul' : '\x00' ∉ trim e := by
    intro h
    rw [heq] at hnul
    exact hnul (List.mem_append_right _ (List.mem_append_left _ h))
  have hup : '\x00' ∉ (trim e).map upcase := by
    intro h
    obtain ⟨c, hc, hcase⟩ := List.mem_map.mp h
    exact upcase_ne_nul (fun h => hnul' (h ▸ hc)) hcase
  refine ⟨lead ++ ((trim e).map upcase ++ '\x00' :: gap), by simp; omega, ?_⟩
  have hbuf : pre ++ ((lead ++ ((trim e).map upcase ++ '\x00' :: gap)) ++ rest) =
      (pre ++ lead) ++ ((trim e).map upcase ++ '\x00' :: (gap ++ rest)) := by simp
  rw [addEntry, htrim, Option.map_some]
  simp only
  rw [myUpcase, text_eq hnul', upcaseLoop_eq, text_eq hup, hbuf, resolutionOf]
  cases CameraResTable.getResByName ((trim e).map upcase) <;> simp

/-- In a blank entry, `myTrim` stores behind the terminator.

**Proof sketch.** The first loop stops at the terminator, and the second makes no pass. -/
lemma addEntry_of_blank {e : Text} (hnul : '\x00' ∉ e) (he : IsBlank e) (pre rest : Text)
    (reslist : List CameraResCfg) :
    addEntry (pre ++ (e ++ '\x00' :: rest)) pre.length reslist =
      match rest with
      | [] => none
      | _ :: rest => some (pre ++ (e ++ '\x00' :: '\x00' :: rest), reslist) := by
  have hmem (tail : Text) :
      pre ++ (e ++ '\x00' :: tail) = (pre ++ e) ++ ([] ++ '\x00' :: tail) := by simp
  have hnil (tail : Text) : text '\x00' (pre ++ (e ++ '\x00' :: tail)) (pre ++ e).length = [] := by
    rw [hmem]
    exact text_eq List.not_mem_nil _ _
  have htrim : myTrim (pre ++ (e ++ '\x00' :: rest)) pre.length =
      (store (pre ++ (e ++ '\x00' :: rest)) ((pre ++ e).length + 1) '\x00').map
        fun buf => ((pre ++ e).length, buf) := by
    rw [myTrim, text_eq hnul, List.takeWhile_eq_self_iff.mpr he, ← List.length_append, hnil]
    rfl
  rw [addEntry, htrim]
  cases rest with
  | nil =>
    rw [store_end (by simp; omega)]
    rfl
  | cons c rest =>
    have hstore : store (pre ++ (e ++ '\x00' :: c :: rest)) ((pre ++ e).length + 1) '\x00' =
        some (pre ++ (e ++ '\x00' :: '\x00' :: rest)) := by
      have hplace : (pre ++ e).length + 1 = (pre ++ (e ++ ['\x00'])).length := by simp; omega
      have hcell := store_eq hplace c rest '\x00'
      simpa using hcell
    rw [hstore, Option.map_some, Option.map_some]
    simp only [myUpcase, hnil, upcaseLoop]
    rfl

/-! ### The whole text -/

/-- The entries before the first blank one. -/
def beforeBlank (entries : List Text) : List Text :=
  entries.takeWhile fun e => ¬ IsBlank e

/-- The first blank entry and those behind it. -/
def fromBlank (entries : List Text) : List Text :=
  entries.dropWhile fun e => ¬ IsBlank e

/-- The last store goes behind the terminator of the text: the first blank entry is the last one,
or it stands before an empty last one. -/
def EndsBlank (entries : List Text) : Prop :=
  (fromBlank entries).length = 1 ∨ (fromBlank entries).tail = [[]]

instance : DecidablePred EndsBlank := fun _ => inferInstanceAs (Decidable (_ ∨ _))

/-- What is read of the entries, with some letters of the buffer behind the terminator. -/
def readEntries (rest : Text) (entries : List Text) : Option (List CameraResCfg) :=
  if rest = [] ∧ EndsBlank entries then none
  else some ((beforeBlank entries).filterMap resolutionOf)

/-- An entry that is not blank is read. -/
lemma readEntries_of_not_blank {e : Text} (he : ¬ IsBlank e) (rest : Text) (entries : List Text) :
    readEntries rest (e :: entries) =
      (readEntries rest entries).map ((resolutionOf e).toList ++ ·) := by
  have hends : EndsBlank (e :: entries) ↔ EndsBlank entries := by
    simp [EndsBlank, fromBlank, he]
  unfold readEntries
  simp only [hends]
  split
  case isTrue => rfl
  case isFalse =>
    simp only [Option.map_some, beforeBlank, List.takeWhile_cons, he, not_false_eq_true,
      decide_true, if_true, List.filterMap_cons]
    cases resolutionOf e <;> rfl

/-- Nothing is read from a blank entry on. -/
lemma readEntries_of_blank {e : Text} (he : IsBlank e) (rest : Text) (entries : List Text) :
    readEntries rest (e :: entries) =
      if rest = [] ∧ (entries = [] ∨ entries = [[]]) then none else some [] := by
  simp [readEntries, EndsBlank, fromBlank, beforeBlank, he]

/-- Where a terminator stands at the front, the pass is the last, and it stores one place further
on. -/
lemma resLoop_of_nil (fuel : ℕ) (pre rest : Text) (reslist : List CameraResCfg) :
    resLoop (fuel + 1) (pre ++ '\x00' :: rest) pre.length reslist =
      if rest = [] then none else some reslist := by
  have hsearch := strchr_eq_none (List.not_mem_nil (a := '\x00')) (List.not_mem_nil (a := ','))
    pre rest
  have hadd := addEntry_of_blank (e := []) List.not_mem_nil (by simp [IsBlank]) pre rest reslist
  rw [List.nil_append] at hsearch hadd
  rw [resLoop, hsearch, hadd]
  cases rest <;> simp

/-- What the loop reads of a text.

**Proof sketch.** Induction on the fuel, with the first entry cut off. An entry that is not blank
leaves the rest of the buffer as it is. A blank one puts a terminator at the front of the rest, so
that the next pass is the last, with an empty entry that stores one place further on. -/
lemma resLoop_eq {s : Text} (hnul : '\x00' ∉ s) (pre rest : Text) {fuel : ℕ}
    (hfuel : s.length < fuel) (reslist : List CameraResCfg) :
    resLoop fuel (pre ++ (s ++ '\x00' :: rest)) pre.length reslist =
      (readEntries rest (s.splitOn ',')).map (reslist ++ ·) := by
  induction fuel generalizing s pre reslist with
  | zero => omega
  | succ fuel ih =>
    by_cases hcomma : ',' ∈ s
    · obtain ⟨e, t, rfl, he⟩ := List.eq_append_cons_of_mem hcomma
      simp only [List.mem_append, List.mem_cons, not_or] at hnul
      obtain ⟨hnule, -, hnult⟩ := hnul
      simp only [List.length_append, List.length_cons] at hfuel
      have hmem : pre ++ (e ++ ',' :: t ++ '\x00' :: rest) =
          pre ++ (e ++ ',' :: (t ++ '\x00' :: rest)) := by simp
      have hstore : store (pre ++ (e ++ ',' :: (t ++ '\x00' :: rest))) (pre.length + e.length)
          '\x00' = some (pre ++ (e ++ '\x00' :: (t ++ '\x00' :: rest))) := by
        have hcell := store_eq (List.length_append : (pre ++ e).length = _).symm ','
          (t ++ '\x00' :: rest) '\x00'
        simpa using hcell
      rw [hmem, resLoop, strchr_eq_some hnule he (by decide) hnult]
      simp only [hstore, Option.bind_some]
      rw [List.splitOn_append_cons_self_of_not_mem he]
      by_cases hblank : IsBlank e
      · obtain ⟨fuel, rfl⟩ : ∃ k, fuel = k + 1 := ⟨fuel - 1, by omega⟩
        have hnext (tail : Text) : pre ++ (e ++ '\x00' :: '\x00' :: tail) =
            (pre ++ (e ++ ['\x00'])) ++ '\x00' :: tail := by simp
        have hplace : pre.length + e.length + 1 = (pre ++ (e ++ ['\x00'])).length := by simp; omega
        rw [addEntry_of_blank hnule hblank, readEntries_of_blank hblank]
        cases t with
        | nil =>
          simp only [List.nil_append, Option.bind_some]
          rw [hnext, hplace, resLoop_of_nil]
          cases rest <;> simp
        | cons c t =>
          have hne : (c :: t).splitOn ',' ≠ [[]] := by
            intro hnil
            have htext : [','].intercalate ((c :: t).splitOn ',') = c :: t :=
              List.intercalate_splitOn ','
            rw [hnil] at htext
            simp at htext
          simp only [List.cons_append, Option.bind_some]
          rw [hnext, hplace, resLoop_of_nil]
          simp [hne]
      · obtain ⟨done, hdone, hadd⟩ :=
          addEntry_of_not_blank hnule hblank pre (t ++ '\x00' :: rest) reslist
        have hplace : pre.length + e.length + 1 = (pre ++ done).length := by
          rw [List.length_append, hdone, Nat.add_assoc]
        rw [hadd, Option.bind_some, ← List.append_assoc, hplace, ih hnult _ (by omega),
          readEntries_of_not_blank hblank, Option.map_map]
        simp [Function.comp_def]
    · rw [resLoop, strchr_eq_none hnul hcomma, List.splitOn_eq_singleton hcomma]
      by_cases hblank : IsBlank s
      · rw [readEntries_of_blank hblank, addEntry_of_blank hnul hblank]
        cases rest <;> simp
      · obtain ⟨done, -, hadd⟩ := addEntry_of_not_blank hnul hblank pre rest reslist
        rw [readEntries_of_not_blank hblank, hadd]
        simp [readEntries, EndsBlank, fromBlank, beforeBlank]

/-- **What `parserResList` returns for every text.** The entries before the first blank one are
read; there is no result if the text fills the buffer and its last entry is blank, for then a
terminator goes behind the buffer. -/
theorem parserResList_eq {text : Text} (hnul : '\x00' ∉ text) (rest : Text) :
    parserResList (text ++ '\x00' :: rest) =
      if text = [] then some [] else readEntries rest (text.splitOn ',') := by
  have htext := text_eq hnul [] rest
  rw [List.nil_append, List.length_nil] at htext
  unfold parserResList
  rw [htext]
  split
  case isTrue => rfl
  case isFalse hne =>
    have hloop := @resLoop_eq _ hnul [] rest (text ++ '\x00' :: rest).length (by simp) []
    simpa using hloop

/-- The buffer has room for what is stored: it goes on behind the terminator, or the first blank
entry of the text is neither the last nor before an empty last one. -/
def HasRoom (text rest : Text) : Prop :=
  rest ≠ [] ∨ text = [] ∨ ¬ EndsBlank (text.splitOn ',')

/-- **The known names are read exactly if none of them stands behind a blank entry** and the buffer
has room for the last store.

**Proof sketch.** What is read is what the entries before the first blank one name; the entries
from there on have to add nothing. -/
theorem parserResList_iff {text : Text} (hnul : '\x00' ∉ text) (rest : Text) :
    parserResList (text ++ '\x00' :: rest) = some ((text.splitOn ',').filterMap resolutionOf) ↔
      HasRoom text rest ∧ ∀ e ∈ fromBlank (text.splitOn ','), resolutionOf e = none := by
  have hentries : (text.splitOn ',').filterMap resolutionOf =
      (beforeBlank (text.splitOn ',')).filterMap resolutionOf ++
        (fromBlank (text.splitOn ',')).filterMap resolutionOf := by
    rw [← List.filterMap_append, beforeBlank, fromBlank, List.takeWhile_append_dropWhile]
  rw [parserResList_eq hnul, hentries, HasRoom]
  by_cases htext : text = []
  · subst htext
    have hsplit : ([] : Text).splitOn ',' = [[]] := rfl
    have hfrom : fromBlank [[]] = [[]] := by simp [fromBlank, IsBlank]
    have hbefore : beforeBlank [[]] = [] := by simp [beforeBlank, IsBlank]
    have hnone : resolutionOf [] = none := resolutionOf_of_blank fun c hc => absurd hc
      List.not_mem_nil
    rw [if_pos rfl, hsplit, hfrom, hbefore]
    refine iff_of_true ?_ ⟨Or.inr (Or.inl rfl), ?_⟩
    · simp [hnone]
    · simp [hnone]
  · rw [if_neg htext, readEntries]
    split
    case isTrue h => simp [h.1, h.2, htext]
    case isFalse h =>
      have hroom : rest ≠ [] ∨ text = [] ∨ ¬ EndsBlank (text.splitOn ',') := by tauto
      simp [hroom, List.filterMap_eq_nil_iff]

example : parserResList "vga , Hd,nothing,12m\x00".toList =
    some [⟨640, 480⟩, ⟨1280, 720⟩, ⟨4288, 2848⟩] := by decide

/-- Known names at both ends of a text, and an unknown one between them. -/
theorem parserResList_iff_three_names :
    parserResList ("vga , nothing,12M".toList ++ '\x00' :: []) =
        some (("vga , nothing,12M".toList.splitOn ',').filterMap resolutionOf) ↔
      HasRoom "vga , nothing,12M".toList [] ∧
        ∀ e ∈ fromBlank ("vga , nothing,12M".toList.splitOn ','), resolutionOf e = none :=
  parserResList_iff (by decide) []

/-- An empty entry at the front hides the name behind it. -/
theorem parserResList_loses_name :
    parserResList (",VGA".toList ++ '\x00' :: ['\x00']) = some [] ∧
      (",VGA".toList.splitOn ',').filterMap resolutionOf = [⟨640, 480⟩] := by
  decide

end CameraHal
