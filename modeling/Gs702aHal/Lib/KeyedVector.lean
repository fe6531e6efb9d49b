import Mathlib.Algebra.GroupWithZero.Nat
import Mathlib.Data.List.Induction
import Mathlib.Data.List.Sigma
import Mathlib.Order.Lattice

set_option relaxedAutoImplicit false
set_option autoImplicit false

/-!
# Key-sorted vectors

A vector of key/value pairs kept strictly sorted by its keys, so that a key occurs at most
once and two vectors with the same lookups are the same vector. Insertion replaces the value
of a key that is already present. Values may also be updated in place, which models a vector
of pointers whose pointees change.

## Main definitions

* `KeyedVector` — the vectors, with their strict order as a field.
* `KeyedVector.find?`, `KeyedVector.add`, `KeyedVector.addAll`, `KeyedVector.removeItem` — lookup,
  insertion with replacement, removal.
* `KeyedVector.removeAll` — removal of several keys.
* `KeyedVector.modify`, `KeyedVector.mapValues` — updates of one value and of all values.
* `KeyedVector.total` — the sum of a quantity over the values.

## Main results

* `KeyedVector.ext_find?` — vectors with the same lookups are the same.
* `KeyedVector.addAll_pairs` — a vector is made again from its pairs.
* `KeyedVector.find?_add`, `KeyedVector.find?_removeItem`, `KeyedVector.find?_modify`,
  `KeyedVector.find?_mapValues` — how lookups see each operation.
* `KeyedVector.mem_keys` — the keys are those with a lookup.
* `KeyedVector.total_modify` — the sum after the update of one value.
-/

/-- A vector of key/value pairs, strictly sorted by key. -/
@[ext]
structure KeyedVector (κ ν : Type*) [LinearOrder κ] where
  /-- The pairs, in key order. -/
  entries : List (Sigma fun _ : κ => ν)
  /-- The keys increase strictly. -/
  sorted : entries.Pairwise fun a b => a.1 < b.1

namespace KeyedVector

variable {κ ν : Type*} [LinearOrder κ]

instance [DecidableEq ν] : DecidableEq (KeyedVector κ ν) := fun v w =>
  decidable_of_iff (v.entries = w.entries) KeyedVector.ext_iff.symm

/-- The vector without entries. -/
def empty : KeyedVector κ ν := ⟨[], List.Pairwise.nil⟩

instance : EmptyCollection (KeyedVector κ ν) := ⟨empty⟩

instance : Inhabited (KeyedVector κ ν) := ⟨empty⟩

/-- The number of entries. -/
def size (v : KeyedVector κ ν) : ℕ := v.entries.length

/-- The keys, in order. -/
def keys (v : KeyedVector κ ν) : List κ := v.entries.map Sigma.fst

/-- The value stored under a key. -/
def find? (v : KeyedVector κ ν) (k : κ) : Option ν := v.entries.dlookup k

/-- Keys occur once. -/
lemma nodupKeys (v : KeyedVector κ ν) : v.entries.NodupKeys :=
  List.nodupKeys_iff_pairwise.mpr (v.sorted.imp ne_of_lt)

/-- The keys are those with a lookup. -/
lemma mem_keys (v : KeyedVector κ ν) (k : κ) : k ∈ v.keys ↔ (v.find? k).isSome := by
  simp [keys, find?, List.dlookup_isSome, List.mem_keys]

/-- The empty vector has no lookups. -/
@[simp] lemma find?_empty (k : κ) : (∅ : KeyedVector κ ν).find? k = none := rfl

/-- **Vectors with the same lookups are the same.** -/
theorem ext_find? {v w : KeyedVector κ ν} (h : ∀ k, v.find? k = w.find? k) : v = w := by
  have hperm : v.entries.Perm w.entries :=
    List.lookup_ext v.nodupKeys w.nodupKeys fun k x => by
      rw [Option.mem_def, Option.mem_def]
      exact iff_of_eq (congrArg (· = some x) (h k))
  have hanti : ∀ a b, a ∈ v.entries → b ∈ w.entries → a.1 < b.1 → b.1 < a.1 → a = b :=
    fun a b _ _ hab hba => absurd hba hab.asymm
  exact KeyedVector.ext (hperm.eq_of_pairwise hanti v.sorted w.sorted)

/-! ### Insertion -/

/-- Insertion of a pair into a key-sorted list, replacing the pair with the same key. -/
def insertEntry (k : κ) (x : ν) :
    List (Sigma fun _ : κ => ν) → List (Sigma fun _ : κ => ν)
  | [] => [⟨k, x⟩]
  | e :: rest =>
    if e.1 < k then e :: insertEntry k x rest
    else if e.1 = k then ⟨k, x⟩ :: rest
    else ⟨k, x⟩ :: e :: rest

/-- An inserted list holds the new pair and old ones only. -/
lemma mem_insertEntry {k : κ} {x : ν} {a : Sigma fun _ : κ => ν}
    {l : List (Sigma fun _ : κ => ν)} (h : a ∈ insertEntry k x l) : a = ⟨k, x⟩ ∨ a ∈ l := by
  induction l with
  | nil => simpa [insertEntry] using h
  | cons e rest ih =>
    simp only [insertEntry] at h
    split_ifs at h <;> simp only [List.mem_cons] at h ⊢ <;> tauto

/-- Insertion keeps a list strictly sorted. -/
lemma pairwise_insertEntry (k : κ) (x : ν) {l : List (Sigma fun _ : κ => ν)}
    (h : l.Pairwise fun a b => a.1 < b.1) :
    (insertEntry k x l).Pairwise fun a b => a.1 < b.1 := by
  induction l with
  | nil => simp [insertEntry]
  | cons e rest ih =>
    obtain ⟨he, hrest⟩ := List.pairwise_cons.mp h
    simp only [insertEntry]
    split_ifs with hlt heq
    · refine List.pairwise_cons.mpr ⟨fun a ha => ?_, ih hrest⟩
      rcases mem_insertEntry ha with rfl | ha
      · exact hlt
      · exact he a ha
    · exact List.pairwise_cons.mpr ⟨fun a ha => heq ▸ he a ha, hrest⟩
    · have hke : k < e.1 := lt_of_le_of_ne (not_lt.mp hlt) (Ne.symm heq)
      refine List.pairwise_cons.mpr ⟨fun a ha => ?_, h⟩
      rcases List.mem_cons.mp ha with rfl | ha
      · exact hke
      · exact hke.trans (he a ha)

/-- Lookup in a nonempty list. -/
lemma dlookup_cons (k : κ) (e : Sigma fun _ : κ => ν) (l : List (Sigma fun _ : κ => ν)) :
    (e :: l).dlookup k = if k = e.1 then some e.2 else l.dlookup k := by
  obtain ⟨ke, xe⟩ := e
  split_ifs with h
  · subst h; simp
  · exact List.dlookup_cons_ne l ⟨ke, xe⟩ h

/-- Lookup after insertion. -/
lemma dlookup_insertEntry (k k' : κ) (x : ν) (l : List (Sigma fun _ : κ => ν)) :
    (insertEntry k x l).dlookup k' = if k' = k then some x else l.dlookup k' := by
  induction l with
  | nil => rw [insertEntry, dlookup_cons]
  | cons e rest ih =>
    rw [dlookup_cons, insertEntry]
    by_cases hlt : e.1 < k
    · rw [if_pos hlt, dlookup_cons, ih]
      by_cases hk : k' = k
      · subst hk; simp [hlt.ne']
      · simp [hk]
    · rw [if_neg hlt]
      by_cases heq : e.1 = k
      · rw [if_pos heq, dlookup_cons, heq]
        by_cases hk : k' = k <;> simp [hk]
      · rw [if_neg heq, dlookup_cons, dlookup_cons]

/-- Insertion, replacing the value of a present key. -/
def add (v : KeyedVector κ ν) (k : κ) (x : ν) : KeyedVector κ ν :=
  ⟨insertEntry k x v.entries, pairwise_insertEntry k x v.sorted⟩

/-- Lookup after insertion. -/
lemma find?_add (v : KeyedVector κ ν) (k k' : κ) (x : ν) :
    (v.add k x).find? k' = if k' = k then some x else v.find? k' :=
  dlookup_insertEntry k k' x v.entries

/-- Insertion of a list of pairs, one after the other. -/
def addAll (v : KeyedVector κ ν) (l : List (κ × ν)) : KeyedVector κ ν :=
  l.foldl (fun v e => v.add e.1 e.2) v

/-- What is found after an insertion of pairs is one of them or was there. -/
lemma mem_of_find?_addAll {v : KeyedVector κ ν} {l : List (κ × ν)} {k : κ} {x : ν}
    (h : (v.addAll l).find? k = some x) : (k, x) ∈ l ∨ v.find? k = some x := by
  induction l generalizing v with
  | nil => exact Or.inr h
  | cons e rest ih =>
    rcases ih h with hmem | hfind
    · exact Or.inl (List.mem_cons_of_mem e hmem)
    · rw [find?_add] at hfind
      split_ifs at hfind with hk
      · obtain rfl := Option.some.inj hfind
        exact Or.inl (hk ▸ List.mem_cons_self)
      · exact Or.inr hfind

/-- Insertions under other keys do not matter. -/
lemma find?_addAll_of_notMem {v : KeyedVector κ ν} {l : List (κ × ν)} {k : κ}
    (h : k ∉ l.map Prod.fst) : (v.addAll l).find? k = v.find? k := by
  induction l generalizing v with
  | nil => rfl
  | cons e rest ih =>
    rw [List.map_cons, List.mem_cons, not_or] at h
    exact (ih h.2).trans ((find?_add v e.1 k e.2).trans (if_neg h.1))

/-- A pair that is inserted under a key of its own is found. -/
lemma find?_addAll_of_mem {v : KeyedVector κ ν} {l : List (κ × ν)}
    (hnodup : (l.map Prod.fst).Nodup) {k : κ} {x : ν} (h : (k, x) ∈ l) :
    (v.addAll l).find? k = some x := by
  induction l generalizing v with
  | nil => exact absurd h List.not_mem_nil
  | cons e rest ih =>
    rw [List.map_cons, List.nodup_cons] at hnodup
    rcases List.mem_cons.mp h with rfl | hmem
    · refine (find?_addAll_of_notMem hnodup.1).trans ?_
      rw [find?_add, if_pos rfl]
    · exact ih hnodup.2 hmem

/-- What is found after an insertion of pairs is the last pair with the key. -/
lemma find?_addAll_eq_some_iff {l : List (κ × ν)} {k : κ} {x : ν} :
    ((∅ : KeyedVector κ ν).addAll l).find? k = some x ↔
      ∃ before after, l = before ++ (k, x) :: after ∧ k ∉ after.map Prod.fst := by
  constructor
  · induction l using List.reverseRecOn with
    | nil => exact fun h => by cases h
    | append_singleton l e ih =>
      intro h
      rw [addAll, List.foldl_append] at h
      have hfind := (find?_add (addAll ∅ l) e.1 k e.2).symm.trans h
      split_ifs at hfind with hk
      · obtain rfl := Option.some.inj hfind
        exact ⟨l, [], hk ▸ rfl, List.not_mem_nil⟩
      · obtain ⟨before, after, rfl, hafter⟩ := ih hfind
        refine ⟨before, after ++ [e], by simp, fun hmem => ?_⟩
        rw [List.map_append] at hmem
        rcases List.mem_append.mp hmem with hmem | hmem
        · exact hafter hmem
        · exact hk (List.mem_singleton.mp hmem)
  · rintro ⟨before, after, rfl, hafter⟩
    have hsplit : addAll (∅ : KeyedVector κ ν) (before ++ (k, x) :: after) =
        ((addAll ∅ before).add k x).addAll after := by
      rw [addAll, List.foldl_append]
      rfl
    rw [hsplit, find?_addAll_of_notMem hafter, find?_add, if_pos rfl]

/-- The pairs of a vector. -/
def pairs (v : KeyedVector κ ν) : List (κ × ν) := v.entries.map fun e => (e.1, e.2)

/-- The pairs are what is found. -/
lemma mem_pairs {v : KeyedVector κ ν} {k : κ} {x : ν} : (k, x) ∈ v.pairs ↔ v.find? k = some x := by
  rw [find?, ← Option.mem_def, List.mem_dlookup_iff v.nodupKeys, pairs, List.mem_map]
  constructor
  · rintro ⟨e, he, heq⟩
    obtain ⟨rfl, rfl⟩ := Prod.mk.inj heq
    exact he
  · exact fun h => ⟨⟨k, x⟩, h, rfl⟩

/-- **A vector is made again from its pairs.** -/
theorem addAll_pairs (v : KeyedVector κ ν) : (∅ : KeyedVector κ ν).addAll v.pairs = v := by
  have hnodup : (v.pairs.map Prod.fst).Nodup := by
    rw [pairs, List.map_map]
    exact v.nodupKeys
  refine ext_find? fun k => ?_
  cases hfind : v.find? k with
  | none =>
    refine find?_addAll_of_notMem fun hmem => ?_
    obtain ⟨⟨k', x⟩, hpair, rfl⟩ := List.mem_map.mp hmem
    rw [mem_pairs.mp hpair] at hfind
    cases hfind
  | some x => exact find?_addAll_of_mem hnodup (mem_pairs.mpr hfind)

/-- The keys after an insertion of pairs. -/
lemma isSome_find?_addAll (v : KeyedVector κ ν) (l : List (κ × ν)) (k : κ) :
    ((v.addAll l).find? k).isSome ↔ k ∈ l.map Prod.fst ∨ (v.find? k).isSome := by
  induction l generalizing v with
  | nil => simp [addAll]
  | cons e rest ih =>
    show (((v.add e.1 e.2).addAll rest).find? k).isSome ↔ _
    rw [ih, find?_add, List.map_cons, List.mem_cons]
    by_cases hk : k = e.1
    · simp [hk]
    · simp [hk]

/-! ### Removal -/

/-- Removal of a key. -/
def removeItem (v : KeyedVector κ ν) (k : κ) : KeyedVector κ ν :=
  ⟨v.entries.kerase k, v.sorted.sublist (List.kerase_sublist k _)⟩

/-- Lookup after removal. -/
lemma find?_removeItem (v : KeyedVector κ ν) (k k' : κ) :
    (v.removeItem k).find? k' = if k' = k then none else v.find? k' := by
  unfold find? removeItem
  split_ifs with h
  · subst h; exact List.dlookup_kerase _ v.nodupKeys
  · exact List.dlookup_kerase_ne h

/-- Removal of keys, one after the other. -/
def removeAll (v : KeyedVector κ ν) (ks : List κ) : KeyedVector κ ν := ks.foldl removeItem v

/-! ### Updates of values -/

/-- Apply a function to every value, by key. -/
def mapValues (v : KeyedVector κ ν) (f : κ → ν → ν) : KeyedVector κ ν :=
  ⟨v.entries.map fun e => ⟨e.1, f e.1 e.2⟩, List.pairwise_map.mpr v.sorted⟩

/-- Lookup after a map. -/
lemma find?_mapValues (v : KeyedVector κ ν) (f : κ → ν → ν) (k : κ) :
    (v.mapValues f).find? k = (v.find? k).map (f k) := by
  obtain ⟨l, hl⟩ := v
  simp only [find?, mapValues]
  clear hl
  induction l with
  | nil => rfl
  | cons e rest ih =>
    obtain ⟨ke, xe⟩ := e
    by_cases h : k = ke
    · subst h; simp
    · rw [List.map_cons, List.dlookup_cons_ne _ _ h, List.dlookup_cons_ne _ _ h, ih]

/-- Apply a function to the value of one key. -/
def modify (v : KeyedVector κ ν) (k : κ) (f : ν → ν) : KeyedVector κ ν :=
  v.mapValues fun k' x => if k' = k then f x else x

/-- Lookup after a modification. -/
lemma find?_modify (v : KeyedVector κ ν) (k k' : κ) (f : ν → ν) :
    (v.modify k f).find? k' = if k' = k then (v.find? k').map f else v.find? k' := by
  rw [modify, find?_mapValues]
  split_ifs with h
  · rfl
  · exact Option.map_id'

/-! ### Sums over the values -/

/-- The sum of a quantity over the values. -/
def total (v : KeyedVector κ ν) (g : ν → ℕ) : ℕ := (v.entries.map fun e => g e.2).sum

/-- The sum after a modification: the modified value, if there is one, counts with its new
quantity. -/
lemma total_modify (v : KeyedVector κ ν) (k : κ) (f : ν → ν) (g : ν → ℕ) :
    (v.modify k f).total g + (v.find? k).elim 0 g =
      v.total g + (v.find? k).elim 0 fun x => g (f x) := by
  obtain ⟨l, hl⟩ := v
  have hnodup : l.NodupKeys := (⟨l, hl⟩ : KeyedVector κ ν).nodupKeys
  simp only [total, find?, modify, mapValues, List.map_map, Function.comp_def]
  clear hl
  induction l with
  | nil => rfl
  | cons e rest ih =>
    obtain ⟨ke, xe⟩ := e
    obtain ⟨hnot, hrest⟩ := List.nodupKeys_cons.mp hnodup
    simp only [List.map_cons, List.sum_cons]
    by_cases h : k = ke
    · subst h
      have hother : (rest.map fun e => g (if e.1 = k then f e.2 else e.2)) =
          rest.map fun e => g e.2 := by
        refine List.map_congr_left fun ⟨k', x⟩ he => ?_
        rw [if_neg]
        rintro rfl
        have hkey := List.mem_keys_of_mem he
        exact hnot hkey
      rw [hother, List.dlookup_cons_eq, if_pos rfl]
      simp only [Option.elim_some]
      omega
    · rw [List.dlookup_cons_ne _ _ h, if_neg (Ne.symm h)]
      have hsum := ih hrest
      omega

end KeyedVector
