import Mathlib.Data.List.Infix

set_option relaxedAutoImplicit false
set_option autoImplicit false

/-!
# Texts of key/value items

A list of items is written as a text: each item is a key, one separator and a value, and the items
are joined by another separator. The text is read back by searching for the two separators by turns.

## Main definitions

* `KeyValueText.strchr` — a text, split at the first occurrence of a character.
* `KeyValueText.joinItems` — the text of a list of items.
* `KeyValueText.parseItems` — the items that are read from a text.

## Main results

* `KeyValueText.parseItems_joinItems` — items whose texts have no separators are read back.
* `KeyValueText.notMem_of_mem_parseItems` — what is read has no separators.
-/

namespace KeyValueText

variable {α : Type*} [DecidableEq α]

/-- What stands before and behind the first occurrence of a character. -/
def strchr (c : α) : List α → Option (List α × List α)
  | [] => none
  | x :: text => if x = c then some ([], text) else (strchr c text).map fun r => (x :: r.1, r.2)

/-- A character that does not occur is not found. -/
lemma strchr_eq_none {c : α} {text : List α} (h : c ∉ text) : strchr c text = none := by
  induction text with
  | nil => rfl
  | cons x text ih =>
    rw [List.mem_cons, not_or] at h
    rw [strchr, if_neg (Ne.symm h.1), ih h.2, Option.map_none]

/-- The first occurrence comes behind what does not have the character. -/
lemma strchr_append {c : α} {before : List α} (h : c ∉ before) (behind : List α) :
    strchr c (before ++ c :: behind) = some (before, behind) := by
  induction before with
  | nil => rw [List.nil_append, strchr, if_pos rfl]
  | cons x before ih =>
    rw [List.mem_cons, not_or] at h
    rw [List.cons_append, strchr, if_neg (Ne.symm h.1), ih h.2, Option.map_some]

/-- The character is between the two parts, and not in the first. -/
lemma eq_of_strchr {c : α} {text before behind : List α}
    (h : strchr c text = some (before, behind)) : text = before ++ c :: behind ∧ c ∉ before := by
  induction text generalizing before with
  | nil => cases h
  | cons x text ih =>
    rw [strchr] at h
    split_ifs at h with hx
    · obtain ⟨rfl, rfl⟩ := Prod.mk.inj (Option.some.inj h)
      exact ⟨by rw [hx, List.nil_append], List.not_mem_nil⟩
    · obtain ⟨⟨before', behind'⟩, hrest, heq⟩ := Option.map_eq_some_iff.mp h
      obtain ⟨rfl, rfl⟩ := Prod.mk.inj heq
      obtain ⟨rfl, hnot⟩ := ih hrest
      refine ⟨rfl, fun hmem => ?_⟩
      rcases List.mem_cons.mp hmem with hc | hc
      · exact hx hc.symm
      · exact hnot hc

/-- A character that is not found does not occur. -/
lemma notMem_of_strchr {c : α} {text : List α} (h : strchr c text = none) : c ∉ text := by
  induction text with
  | nil => exact List.not_mem_nil
  | cons x text ih =>
    rw [strchr] at h
    split_ifs at h with hx
    intro hmem
    rcases List.mem_cons.mp hmem with hc | hc
    · exact hx hc.symm
    · exact ih (Option.map_eq_none_iff.mp h) hc

/-- What stands behind a character is shorter than the text. -/
lemma length_lt_of_strchr {c : α} {text before behind : List α}
    (h : strchr c text = some (before, behind)) : behind.length < text.length := by
  rw [(eq_of_strchr h).1, List.length_append, List.length_cons]
  omega

variable (eq sep : α)

/-- The text of a list of items. -/
def joinItems : List (List α × List α) → List α
  | [] => []
  | [(key, value)] => key ++ eq :: value
  | (key, value) :: item :: items => key ++ eq :: (value ++ sep :: joinItems (item :: items))

/-- The items that are read from a text. -/
def parseItems (text : List α) : List (List α × List α) :=
  match _hkey : strchr eq text with
  | none => []
  | some (key, text') =>
    match _hvalue : strchr sep text' with
    | none => [(key, text')]
    | some (value, text'') => (key, value) :: parseItems text''
  termination_by text.length
  decreasing_by
    exact (length_lt_of_strchr _hvalue).trans (length_lt_of_strchr _hkey)

variable {eq sep}

/-- A text without the first separator has no items. -/
lemma parseItems_of_none {text : List α} (h : strchr eq text = none) :
    parseItems eq sep text = [] := by
  rw [parseItems]
  split
  · rfl
  · next hkey => rw [h] at hkey; cases hkey

/-- The last item of a text. -/
lemma parseItems_of_last {text key value : List α} (hkey : strchr eq text = some (key, value))
    (hvalue : strchr sep value = none) : parseItems eq sep text = [(key, value)] := by
  rw [parseItems]
  split
  · next hnone => rw [hkey] at hnone; cases hnone
  · next key' value' heq =>
    obtain ⟨rfl, rfl⟩ := Prod.mk.inj (Option.some.inj (hkey.symm.trans heq))
    split
    · rfl
    · next hsome => rw [hvalue] at hsome; cases hsome

/-- An item that others follow. -/
lemma parseItems_of_item {text text' key value rest : List α}
    (hkey : strchr eq text = some (key, text')) (hvalue : strchr sep text' = some (value, rest)) :
    parseItems eq sep text = (key, value) :: parseItems eq sep rest := by
  rw [parseItems]
  split
  · next hnone => rw [hkey] at hnone; cases hnone
  · next key' text'' heq =>
    obtain ⟨rfl, rfl⟩ := Prod.mk.inj (Option.some.inj (hkey.symm.trans heq))
    split
    · next hnone => rw [hvalue] at hnone; cases hnone
    · next value' rest' heq' =>
      obtain ⟨rfl, rfl⟩ := Prod.mk.inj (Option.some.inj (hvalue.symm.trans heq'))
      rfl

/-- **Items without separators are read back.**

**Proof sketch.** Induction on the list: the first `eq` of the text ends the first key, and the
first `sep` behind it the first value. -/
theorem parseItems_joinItems {items : List (List α × List α)}
    (hkeys : ∀ item ∈ items, eq ∉ item.1) (hvalues : ∀ item ∈ items, sep ∉ item.2) :
    parseItems eq sep (joinItems eq sep items) = items := by
  induction items with
  | nil => exact parseItems_of_none rfl
  | cons item items ih =>
    obtain ⟨key, value⟩ := item
    have hkey : eq ∉ key := hkeys (key, value) List.mem_cons_self
    have hvalue : sep ∉ value := hvalues (key, value) List.mem_cons_self
    cases items with
    | nil => exact parseItems_of_last (strchr_append hkey value) (strchr_eq_none hvalue)
    | cons item' items =>
      rw [joinItems, parseItems_of_item (strchr_append hkey _) (strchr_append hvalue _),
        ih (fun i hi => hkeys i (List.mem_cons_of_mem _ hi))
          fun i hi => hvalues i (List.mem_cons_of_mem _ hi)]

/-- **No value that is read has a separator.** -/
theorem notMem_of_mem_parseItems {text : List α} {item : List α × List α}
    (h : item ∈ parseItems eq sep text) : sep ∉ item.2 := by
  induction hn : text.length using Nat.strong_induction_on generalizing text with
  | _ n ih =>
    cases hkey : strchr eq text with
    | none =>
      rw [parseItems_of_none hkey] at h
      cases h
    | some r =>
      cases hvalue : strchr sep r.2 with
      | none =>
        rw [parseItems_of_last hkey hvalue] at h
        rw [List.mem_singleton.mp h]
        exact notMem_of_strchr hvalue
      | some r' =>
        rw [parseItems_of_item hkey hvalue] at h
        rcases List.mem_cons.mp h with rfl | hrest
        · exact (eq_of_strchr hvalue).2
        · have hlt := (length_lt_of_strchr hvalue).trans (length_lt_of_strchr hkey)
          exact ih _ (hn ▸ hlt) hrest rfl

end KeyValueText
