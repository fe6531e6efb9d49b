import Mathlib.Data.Char
import Mathlib.Data.List.Lex
import Gs702aHal.Lib.KeyValueText
import Gs702aHal.Lib.KeyedVector
import Gs702aHal.Lib.NumberText

set_option relaxedAutoImplicit false
set_option autoImplicit false

/-!
# Display parameters

`DisplayParameters` keeps texts under keys. `flatten` writes them as one text, the items joined by
`;` and each key followed by `=`, and `unflatten` reads such a text. `set` refuses keys with one of
the two characters, and values with `=`.

## Main definitions

* `DisplayParameters.flatten`, `DisplayParameters.unflatten` — the functions.
* `DisplayParameters.build` — the parameters after a sequence of calls.
* `DisplayParameters.Restored` — reading what is written gives the parameters back.

## Main results

* `DisplayParameters.wellKeyed_build` — no key has one of the two characters.
* `DisplayParameters.restored_iff` — when the parameters are restored.
* `DisplayParameters.restored_of_plain` — the calls after which they are.
-/

open KeyValueText

/-- `String8`, the characters of a text. -/
abbrev String8 := List Char

/-- `DisplayParameters`. -/
structure DisplayParameters where
  mMap : KeyedVector String8 String8

namespace DisplayParameters

/-- The empty parameters. -/
def empty : DisplayParameters := ⟨∅⟩

/-- `flatten`. -/
def flatten (p : DisplayParameters) : String8 :=
  let size := p.mMap.size
  p.mMap.pairs.zipIdx.foldl
    (fun flattened e =>
      let flattened := flattened ++ e.1.1 ++ ['='] ++ e.1.2
      if e.2 ≠ size - 1 then flattened ++ [';'] else flattened)
    []

/-- The loop of `unflatten`. -/
def unflattenLoop (a : String8) (mMap : KeyedVector String8 String8) :
    KeyedVector String8 String8 :=
  match _hkey : strchr '=' a with
  | none => mMap
  | some (k, a') =>
    match _hvalue : strchr ';' a' with
    | none => mMap.add k a'
    | some (v, a'') => unflattenLoop a'' (mMap.add k v)
  termination_by a.length
  decreasing_by
    exact (length_lt_of_strchr _hvalue).trans (length_lt_of_strchr _hkey)

/-- `unflatten`. -/
def unflatten (params : String8) (_ : DisplayParameters) : DisplayParameters :=
  ⟨unflattenLoop params ∅⟩

/-- `set`. The second test looks at the key once more, and not at the value, for `;`. -/
def set (key value : String8) (p : DisplayParameters) : DisplayParameters :=
  if '=' ∈ key ∨ ';' ∈ key then p
  else if '=' ∈ value ∨ ';' ∈ key then p
  else ⟨p.mMap.add key value⟩

/-- `setInt`. -/
def setInt (key : String8) (value : BitVec 32) : DisplayParameters → DisplayParameters :=
  set key (NumberText.decimal value.toInt)

/-- `remove`. -/
def remove (key : String8) (p : DisplayParameters) : DisplayParameters := ⟨p.mMap.removeItem key⟩

/-- A call that changes the parameters. -/
inductive Call
  | set (key value : String8)
  | setInt (key : String8) (value : BitVec 32)
  | remove (key : String8)

/-- What a call does. -/
def step (p : DisplayParameters) : Call → DisplayParameters
  | .set key value => p.set key value
  | .setInt key value => p.setInt key value
  | .remove key => p.remove key

/-- The parameters after a sequence of calls. -/
def build (calls : List Call) : DisplayParameters := calls.foldl step empty

/-- Reading what is written gives the parameters back, whatever is read over. -/
def Restored (p : DisplayParameters) : Prop := ∀ old, unflatten p.flatten old = p

/-- No key has one of the two separators. -/
def WellKeyed (p : DisplayParameters) : Prop := ∀ e ∈ p.mMap.pairs, '=' ∉ e.1 ∧ ';' ∉ e.1

/-- `set` refuses keys with a separator. -/
lemma WellKeyed.set {p : DisplayParameters} (h : WellKeyed p) (key value : String8) :
    WellKeyed (p.set key value) := by
  unfold DisplayParameters.set
  split_ifs with hkey hvalue
  · exact h
  · exact h
  · rintro ⟨k, v⟩ he
    rw [KeyedVector.mem_pairs, KeyedVector.find?_add] at he
    split_ifs at he with heq
    · exact heq ▸ not_or.mp hkey
    · exact h (k, v) (KeyedVector.mem_pairs.mpr he)

/-- A removal leaves other keys. -/
lemma WellKeyed.remove {p : DisplayParameters} (h : WellKeyed p) (key : String8) :
    WellKeyed (p.remove key) := by
  rintro ⟨k, v⟩ he
  rw [DisplayParameters.remove, KeyedVector.mem_pairs, KeyedVector.find?_removeItem] at he
  split_ifs at he
  exact h (k, v) (KeyedVector.mem_pairs.mpr he)

/-- **In every run no key has a separator.** -/
theorem wellKeyed_build (calls : List Call) : WellKeyed (build calls) := by
  have hstep : ∀ (p : DisplayParameters) (call : Call), WellKeyed p → WellKeyed (step p call) := by
    intro p call hp
    cases call with
    | set key value => exact hp.set key value
    | setInt key value => exact hp.set key _
    | remove key => exact hp.remove key
  have hrun : ∀ (calls : List Call) (p : DisplayParameters), WellKeyed p →
      WellKeyed (calls.foldl step p) := by
    intro calls
    induction calls with
    | nil => exact fun p hp => hp
    | cons call calls ih => exact fun p hp => ih _ (hstep p call hp)
  exact hrun calls empty fun e he => absurd he List.not_mem_nil

/-! ### The text -/

/-- The text is that of the items.

**Proof sketch.** Induction on the items: all but the last are followed by a separator. -/
lemma flatten_eq (p : DisplayParameters) : p.flatten = joinItems '=' ';' p.mMap.pairs := by
  have hitems : ∀ (items : List (String8 × String8)) (i : ℕ) (text : String8),
      (items.zipIdx i).foldl
        (fun flattened e =>
          let flattened := flattened ++ e.1.1 ++ ['='] ++ e.1.2
          if e.2 ≠ i + items.length - 1 then flattened ++ [';'] else flattened)
        text = text ++ joinItems '=' ';' items := by
    intro items
    induction items with
    | nil => intro i text; simp [joinItems]
    | cons item items ih =>
      intro i text
      rw [List.zipIdx_cons, List.foldl_cons]
      cases items with
      | nil => simp [joinItems]
      | cons item' items =>
        have hnotLast : i ≠ i + (item :: item' :: items).length - 1 := by
          simp only [List.length_cons]
          omega
        have hsize : i + (item :: item' :: items).length = i + 1 + (item' :: items).length := by
          simp only [List.length_cons]
          omega
        simp only [if_pos hnotLast]
        rw [hsize, ih (i + 1), joinItems]
        simp
  have hsize : p.mMap.size = 0 + p.mMap.pairs.length := by
    rw [KeyedVector.size, KeyedVector.pairs, List.length_map, Nat.zero_add]
  unfold flatten
  simp only [hsize]
  exact hitems p.mMap.pairs 0 []

/-- The items that are read are added one after the other. -/
lemma unflattenLoop_eq (a : String8) (mMap : KeyedVector String8 String8) :
    unflattenLoop a mMap = mMap.addAll (parseItems '=' ';' a) := by
  induction a, mMap using unflattenLoop.induct with
  | case1 a mMap hkey =>
    rw [parseItems_of_none hkey, unflattenLoop]
    split
    · rfl
    · next hsome => rw [hkey] at hsome; cases hsome
  | case2 a mMap k a' hkey hvalue =>
    rw [parseItems_of_last hkey hvalue, unflattenLoop]
    split
    · next hnone => rw [hkey] at hnone; cases hnone
    · next k' v' heq =>
      obtain ⟨rfl, rfl⟩ := Prod.mk.inj (Option.some.inj (hkey.symm.trans heq))
      split
      · rfl
      · next hsome => rw [hvalue] at hsome; cases hsome
  | case3 a mMap k a' hkey v a'' hvalue ih =>
    rw [parseItems_of_item hkey hvalue, unflattenLoop]
    split
    · next hnone => rw [hkey] at hnone; cases hnone
    · next k' v' heq =>
      obtain ⟨rfl, rfl⟩ := Prod.mk.inj (Option.some.inj (hkey.symm.trans heq))
      split
      · next hnone => rw [hvalue] at hnone; cases hnone
      · next v' rest heq' =>
        obtain ⟨rfl, rfl⟩ := Prod.mk.inj (Option.some.inj (hvalue.symm.trans heq'))
        exact ih

/-- What is read from a text has no value with `;`. -/
lemma notMem_of_find?_unflattenLoop {a k v : String8}
    (h : (unflattenLoop a ∅).find? k = some v) : ';' ∉ v := by
  rw [unflattenLoop_eq] at h
  rcases KeyedVector.mem_of_find?_addAll h with hmem | hempty
  · exact notMem_of_mem_parseItems hmem
  · cases hempty

/-- **Parameters are restored if and only if none of their values has the character `;`.**

**Proof sketch.** Keys have no separator (`wellKeyed_build`), and the first `=` of an item ends its
key. So without `;` in the values the items are read back (`parseItems_joinItems`). A value that is
read never has `;`, so that parameters with such a value are never what is read. -/
theorem restored_iff (calls : List Call) :
    Restored (build calls) ↔
      ∀ key value, (build calls).mMap.find? key = some value → ';' ∉ value := by
  constructor
  · intro h key value hfind
    rw [← h empty] at hfind
    exact notMem_of_find?_unflattenLoop hfind
  · intro h old
    have hread : parseItems '=' ';' (build calls).flatten = (build calls).mMap.pairs := by
      rw [flatten_eq]
      refine parseItems_joinItems (fun e he => (wellKeyed_build calls e he).1) ?_
      rintro ⟨k, v⟩ he
      exact h k v (KeyedVector.mem_pairs.mp he)
    rw [unflatten, unflattenLoop_eq, hread, KeyedVector.addAll_pairs]

/-- A call that stores no value with `;`: a printed number has none. -/
def Call.Plain : Call → Prop
  | .set _ value => ';' ∉ value
  | .setInt _ _ => True
  | .remove _ => True

/-- After calls that store no value with `;` the parameters are restored. -/
theorem restored_of_plain {calls : List Call} (h : ∀ call ∈ calls, call.Plain) :
    Restored (build calls) := by
  have hset : ∀ (p : DisplayParameters) (key value : String8), ';' ∉ value →
      (∀ k v, p.mMap.find? k = some v → ';' ∉ v) →
      ∀ k v, (p.set key value).mMap.find? k = some v → ';' ∉ v := by
    intro p key value hvalue hp k v hfind
    unfold set at hfind
    split_ifs at hfind
    · exact hp k v hfind
    · exact hp k v hfind
    · rw [KeyedVector.find?_add] at hfind
      split_ifs at hfind
      · exact Option.some.inj hfind ▸ hvalue
      · exact hp k v hfind
  have hstep : ∀ (p : DisplayParameters) (call : Call), call.Plain →
      (∀ k v, p.mMap.find? k = some v → ';' ∉ v) →
      ∀ k v, (step p call).mMap.find? k = some v → ';' ∉ v := by
    intro p call hcall hp
    cases call with
    | set key value => exact hset p key value hcall hp
    | setInt key value =>
      exact hset p key _ (NumberText.notMem_decimal (by decide) (by decide) _) hp
    | remove key =>
      intro k v hfind
      rw [step, remove, KeyedVector.find?_removeItem] at hfind
      split_ifs at hfind
      exact hp k v hfind
  have hrun : ∀ (calls : List Call) (p : DisplayParameters), (∀ call ∈ calls, call.Plain) →
      (∀ k v, p.mMap.find? k = some v → ';' ∉ v) →
      ∀ k v, (calls.foldl step p).mMap.find? k = some v → ';' ∉ v := by
    intro calls
    induction calls with
    | nil => exact fun p _ hp => hp
    | cons call calls ih =>
      intro p hcalls hp
      exact ih _ (fun c hc => hcalls c (List.mem_cons_of_mem call hc))
        (hstep p call (hcalls call List.mem_cons_self) hp)
  exact (restored_iff calls).mpr (hrun calls empty h fun k v hnone => by cases hnone)

/-- The parameters with one value `a;b`. -/
def joinedValue : List Call := [.set "format".toList "a;b".toList]

/-- That value is cut at its separator. -/
theorem not_restored_joinedValue : ¬ Restored (build joinedValue) := by
  intro h
  have hfind : (build joinedValue).mMap.find? "format".toList = some "a;b".toList := by decide
  exact (restored_iff joinedValue).mp h _ _ hfind (by decide)

end DisplayParameters
