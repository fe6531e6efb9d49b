import Mathlib.Data.List.Basic
import Mathlib.Data.List.TakeWhile

set_option relaxedAutoImplicit false
set_option autoImplicit false

/-!
# Terminated strings in a memory

A memory is a list of letters; a string starts at a place of it and ends before the first
terminator. A store outside the memory has no result.

## Main definitions

* `CString.text` — the string at a place.
* `CString.strchr` — the place of the first occurrence of a letter in it.
* `CString.store` — a store.

## Main results

* `CString.text_eq` — the string behind a given part of the memory.
* `CString.strchr_eq_some`, `CString.strchr_eq_none` — what the search finds.
* `CString.store_eq` — a store behind a given part of the memory.
-/

namespace CString

variable {α : Type*}

/-! ### Stores -/

/-- A store into the memory; there is none outside. -/
def store (mem : List α) (p : ℕ) (c : α) : Option (List α) :=
  if p < mem.length then some (mem.set p c) else none

/-- A store behind a given part of the memory. -/
lemma store_eq {p : ℕ} {pre : List α} (hp : p = pre.length) (d : α) (rest : List α) (c : α) :
    store (pre ++ d :: rest) p c = some (pre ++ c :: rest) := by
  subst hp
  rw [store, if_pos (by simp)]
  simp

/-- There is no store behind the memory. -/
lemma store_end {p : ℕ} {mem : List α} (hp : mem.length ≤ p) (c : α) : store mem p c = none :=
  if_neg (by omega)

/-! ### Strings -/

variable [DecidableEq α] {nul : α}

/-- The string at a place: the letters before the first terminator. -/
def text (nul : α) (mem : List α) (p : ℕ) : List α :=
  (mem.drop p).takeWhile (· ≠ nul)

/-- The place of the first occurrence of a letter in the string at a place. -/
def strchr (nul : α) (mem : List α) (p : ℕ) (c : α) : Option ℕ :=
  if c ∈ text nul mem p then some (p + (text nul mem p).idxOf c) else none

/-- The string that is ended by a terminator. -/
lemma text_eq {s : List α} (hs : nul ∉ s) (pre rest : List α) :
    text nul (pre ++ (s ++ nul :: rest)) pre.length = s := by
  have hall : ∀ c ∈ s, decide (c ≠ nul) = true := by
    intro c hc
    simp only [ne_eq, decide_not, Bool.not_eq_true', decide_eq_false_iff_not]
    rintro rfl
    exact hs hc
  rw [text, List.drop_left, List.takeWhile_append_of_pos hall]
  simp

/-- The search finds the first occurrence. -/
lemma strchr_eq_some {s : List α} {c : α} (hs : nul ∉ s) (hc : c ∉ s) (hne : c ≠ nul) {t : List α}
    (ht : nul ∉ t) (pre rest : List α) :
    strchr nul (pre ++ (s ++ c :: (t ++ nul :: rest))) pre.length c =
      some (pre.length + s.length) := by
  have htext : text nul (pre ++ (s ++ c :: (t ++ nul :: rest))) pre.length = s ++ c :: t := by
    have hmem : nul ∉ s ++ c :: t := by
      simp only [List.mem_append, List.mem_cons, not_or]
      exact ⟨hs, hne.symm, ht⟩
    rw [← text_eq hmem pre rest]
    simp
  rw [strchr, htext, if_pos (by simp), List.idxOf_append_of_notMem hc]
  simp

/-- The search finds nothing in a string without the letter. -/
lemma strchr_eq_none {s : List α} {c : α} (hs : nul ∉ s) (hc : c ∉ s) (pre rest : List α) :
    strchr nul (pre ++ (s ++ nul :: rest)) pre.length c = none := by
  rw [strchr, text_eq hs, if_neg hc]

end CString
