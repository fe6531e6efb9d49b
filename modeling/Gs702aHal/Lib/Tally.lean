import Mathlib.Algebra.BigOperators.Group.Finset.Basic
import Mathlib.Algebra.BigOperators.Ring.Finset
import Mathlib.Algebra.Order.BigOperators.Group.Finset

set_option relaxedAutoImplicit false
set_option autoImplicit false

/-!
# Tallies: counters by kind

A tally counts references of finitely many kinds. Its total is the number of references of
all kinds together. The three operations on reference counts change one kind each: take one
reference, give one back, give all back.

## Main definitions

* `Tally.total` — the number of references of all kinds.
* `Tally.take`, `Tally.give`, `Tally.wipe` — the three operations.
* `Tally.ofList` — the tally of a list of references.
* `Tally.ofWords` — the tally that machine words stand for.

## Main results

* `Tally.total_take`, `Tally.total_give`, `Tally.total_wipe` — the operations on totals.
* `Tally.total_eq_zero` — a total is zero if and only if every counter is.
* `Tally.total_ofList` — the tally of a list by kind has the list's length as its total.
* `Tally.sum_update` — a total that is kept beside machine words stays their total, cut to the
  width of the words.
-/

/-- A number of references for each kind. -/
abbrev Tally (κ : Type*) := κ → ℕ

namespace Tally

variable {κ : Type*} [Fintype κ] [DecidableEq κ]

/-- The number of references of all kinds. -/
def total (c : Tally κ) : ℕ := ∑ k, c k

/-- Take one reference of a kind. -/
def take (c : Tally κ) (k : κ) : Tally κ := Function.update c k (c k + 1)

/-- Give one reference of a kind back. -/
def give (c : Tally κ) (k : κ) : Tally κ := Function.update c k (c k - 1)

/-- Give all references of a kind back. -/
def wipe (c : Tally κ) (k : κ) : Tally κ := Function.update c k 0

/-- The total after a change of one counter. -/
lemma total_update (c : Tally κ) (k : κ) (n : ℕ) :
    total (Function.update c k n) + c k = total c + n := by
  have h1 := Finset.sum_update_of_mem (Finset.mem_univ k) c n
  have h2 := Finset.add_sum_erase Finset.univ c (Finset.mem_univ k)
  rw [← Finset.sdiff_singleton_eq_erase] at h2
  simp only [total]
  omega

/-- Taking a reference adds one to the total. -/
lemma total_take (c : Tally κ) (k : κ) : total (c.take k) = total c + 1 := by
  have := total_update c k (c k + 1)
  simp only [take]
  omega

/-- Giving a reference back takes one from the total. -/
lemma total_give (c : Tally κ) (k : κ) (h : 0 < c k) : total (c.give k) + 1 = total c := by
  have := total_update c k (c k - 1)
  simp only [give]
  omega

/-- Giving all references of a kind back takes their number from the total. -/
lemma total_wipe (c : Tally κ) (k : κ) : total (c.wipe k) + c k = total c := by
  have := total_update c k 0
  simp only [wipe]
  omega

/-- One counter is at most the total. -/
lemma le_total (c : Tally κ) (k : κ) : c k ≤ total c := by
  have := total_wipe c k
  omega

omit [DecidableEq κ] in
/-- The total is zero if and only if every counter is. -/
lemma total_eq_zero (c : Tally κ) : total c = 0 ↔ ∀ k, c k = 0 := by
  simp [total]

/-- The total is positive if and only if some counter is. -/
lemma total_pos (c : Tally κ) : 0 < total c ↔ ∃ k, 0 < c k := by
  have := total_eq_zero c
  constructor
  · intro h
    by_contra hne
    push Not at hne
    exact h.ne' (this.mpr fun k => Nat.le_zero.mp (hne k))
  · rintro ⟨k, hk⟩
    exact hk.trans_le (c.le_total k)

/-! ### The tally of a list -/

/-- The number of entries of each kind in a list. -/
def ofList {α : Type*} (kind : α → κ) (l : List α) : Tally κ :=
  fun k => l.countP fun a => kind a = k

section OfList

variable {α : Type*} (kind : α → κ)

omit [Fintype κ] in
/-- The empty list counts nothing. -/
@[simp] lemma ofList_nil (k : κ) : ofList kind [] k = 0 := rfl

omit [Fintype κ] in
/-- A list counts its first entry and its rest. -/
lemma ofList_cons (a : α) (l : List α) (k : κ) :
    ofList kind (a :: l) k = ofList kind l k + if k = kind a then 1 else 0 := by
  by_cases h : k = kind a
  · simp [ofList, h]
  · simp [ofList, h, Ne.symm h]

omit [Fintype κ] in
/-- A list counts its last entry and its front. -/
lemma ofList_concat (a : α) (l : List α) (k : κ) :
    ofList kind (l ++ [a]) k = ofList kind l k + if k = kind a then 1 else 0 := by
  by_cases h : k = kind a
  · simp [ofList, h]
  · simp [ofList, h, Ne.symm h]

omit [Fintype κ] in
/-- A change of the entries that keeps their kinds keeps the tally. -/
lemma ofList_map {f : α → α} (h : ∀ a, kind (f a) = kind a) (l : List α) :
    ofList kind (l.map f) = ofList kind l := by
  funext k
  simp only [ofList, List.countP_map, Function.comp_def, h]

omit [Fintype κ] in
/-- Only the entries count, not their order. -/
lemma ofList_perm {l l' : List α} (h : l.Perm l') : ofList kind l = ofList kind l' :=
  funext fun _ => h.countP_eq _

/-- The tally of a list has the length of the list as its total. -/
lemma total_ofList (l : List α) : total (ofList kind l) = l.length := by
  induction l with
  | nil => simp [total]
  | cons a l ih =>
    simp only [total, ofList_cons, Finset.sum_add_distrib, Finset.sum_ite_eq', Finset.mem_univ,
      if_true] at ih ⊢
    rw [ih, List.length_cons]

end OfList

/-! ### The tally of machine words -/

section Words

variable {w : ℕ}

/-- The tally that counters of `w` bits stand for. -/
def ofWords (c : κ → BitVec w) : Tally κ := fun k => (c k).toNat

variable (c : κ → BitVec w) (k : κ) (x : BitVec w)

omit [Fintype κ] in
/-- The tally after a change of one word. -/
lemma ofWords_update :
    ofWords (Function.update c k x) = Function.update (ofWords c) k x.toNat := by
  funext j
  by_cases h : j = k
  · subst h; simp [ofWords]
  · simp [ofWords, h]

/-- **A total that is kept beside the words.** If a word is the total cut to `w` bits, it is so
again after one counter and the word have changed by the same amount.

**Proof sketch.** The totals before and after, each with the value of the counter that the other
one lacks, are equal (`total_update`). The equation stays true when it is cut to `w` bits, where
the values of the counter are words again. -/
theorem sum_update {s : BitVec w} (h : s = BitVec.ofNat w (ofWords c).total) :
    s + (x - c k) = BitVec.ofNat w (ofWords (Function.update c k x)).total := by
  have htotal := congrArg (BitVec.ofNat w) (total_update (ofWords c) k x.toNat)
  simp only [ofWords, BitVec.ofNat_add, BitVec.ofNat_toNat, BitVec.setWidth_eq] at htotal
  rw [ofWords_update, h]
  grind

end Words

end Tally
