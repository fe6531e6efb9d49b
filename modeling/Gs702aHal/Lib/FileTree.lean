import Mathlib.Algebra.Order.Ring.Nat
import Mathlib.Data.List.Infix
import Mathlib.Data.List.Nodup

set_option relaxedAutoImplicit false
set_option autoImplicit false

/-!
# Trees of files

A tree of files says of each path what is there: nothing, a directory, or something that has
nothing below it. To put something at a path makes the directories on the way to it, and fails if
one of them is there as something else.

Things that are put one after the other do not get into each other's way if their paths differ and
only directories have others below them. Then what is there in the end does not depend on the order
in which they are put.

## Main definitions

* `FileTree.Tree`, `FileTree.put`, `FileTree.putAll` — trees, and putting something into them.
* `FileTree.Fits` — things that do not get into each other's way.
* `FileTree.laidOver` — what is there after they have been put over a tree.

## Main results

* `FileTree.putAll_eq` — things that fit together and into the tree are put without a failure.
* `FileTree.laidOver_perm` — their order does not matter.
-/

namespace FileTree

/-! ### Lookup in a list of pairs -/

section Lookup

variable {κ β : Type} [BEq κ] [LawfulBEq κ]

/-- If no key is there twice, looking up a key finds the pair with it. -/
lemma lookup_eq_some {l : List (κ × β)} (h : (l.map Prod.fst).Nodup) {k : κ} {b : β} :
    l.lookup k = some b ↔ (k, b) ∈ l := by
  induction l with
  | nil => simp
  | cons e l ih =>
    obtain ⟨hnot, hnd⟩ := List.nodup_cons.mp h
    obtain ⟨k', b'⟩ := e
    by_cases he : k = k'
    · subst he
      rw [List.lookup_cons_self, Option.some.injEq, List.mem_cons, Prod.mk.injEq]
      constructor
      · exact fun hb => .inl ⟨rfl, hb.symm⟩
      · rintro (⟨-, hb⟩ | hmem)
        · exact hb.symm
        · exact absurd (List.mem_map_of_mem hmem) hnot
    · have hne : (k == k') = false := by simpa using he
      rw [List.lookup_cons, hne, List.mem_cons]
      exact (ih hnd).trans ⟨.inr, fun hm => hm.resolve_left fun hm => he (congrArg Prod.fst hm)⟩

/-- A key is found if a pair has it. -/
lemma lookup_isSome {l : List (κ × β)} {k : κ} :
    (l.lookup k).isSome ↔ k ∈ l.map Prod.fst := by
  rw [List.lookup_isSome_iff]
  simp

/-- A key is not found if no pair has it. -/
lemma lookup_eq_none {l : List (κ × β)} {k : κ} : l.lookup k = none ↔ k ∉ l.map Prod.fst := by
  rw [← lookup_isSome, Option.not_isSome_iff_eq_none]

/-- The order of the pairs does not matter. -/
lemma lookup_perm {l l' : List (κ × β)} (h : (l.map Prod.fst).Nodup) (hp : l.Perm l') (k : κ) :
    l.lookup k = l'.lookup k := by
  apply Option.ext
  intro b
  rw [lookup_eq_some h, lookup_eq_some ((hp.map Prod.fst).nodup_iff.mp h)]
  exact hp.mem_iff

end Lookup

/-! ### Trees -/

/-- What is at a path. -/
inductive Entry (α : Type)
  | dir
  | leaf (a : α)
  deriving DecidableEq

/-- What is at each path, if anything. -/
abbrev Tree (κ α : Type) := List κ → Option (Entry α)

variable {κ α : Type}

/-- Nothing is put twice at one path, and only directories have something else below them. -/
structure Fits (l : List (List κ × Entry α)) : Prop where
  nodup : (l.map Prod.fst).Nodup
  above : ∀ a ∈ l, ∀ b ∈ l, a.1 <+: b.1 → a.1 ≠ b.1 → a.2 = .dir

/-- Part of what fits together does. -/
lemma Fits.tail {l : List (List κ × Entry α)} {e : List κ × Entry α} (h : Fits (e :: l)) :
    Fits l where
  nodup := (List.nodup_cons.mp h.nodup).2
  above a ha b hb := h.above a (List.mem_cons_of_mem e ha) b (List.mem_cons_of_mem e hb)

/-- What fits together does in any order. -/
lemma Fits.perm {l l' : List (List κ × Entry α)} (h : Fits l) (hp : l.Perm l') : Fits l' where
  nodup := (hp.map Prod.fst).nodup_iff.mp h.nodup
  above a ha b hb := h.above a (hp.mem_iff.mpr ha) b (hp.mem_iff.mpr hb)

section Over

/-- What can be put at a path: the directories on the way are there or can be made, and a directory
does not take the place of something else, nor something else that of a directory. -/
def Takes (t : Tree κ α) (path : List κ) (e : Entry α) : Prop :=
  (∀ q ∈ path.inits, q ≠ [] → q ≠ path → t q = none ∨ t q = some .dir) ∧
  (t path = some .dir → e = .dir) ∧ (e = .dir → t path = none ∨ t path = some .dir)

variable [DecidableEq κ]

/-- What is there when things have been put over a tree. -/
def laidOver (l : List (List κ × Entry α)) (t : Tree κ α) : Tree κ α := fun p =>
  (l.lookup p).orElse fun _ =>
    if p ≠ [] ∧ (t p).isNone ∧ ∃ e ∈ l, p <+: e.1 then some .dir else t p

variable {l l' : List (List κ × Entry α)} {t : Tree κ α}

/-- What is at a path when one thing has been put elsewhere. -/
lemma laidOver_singleton_of_ne {path q : List κ} {e : Entry α} (hq : q ≠ path) :
    laidOver [(path, e)] t q =
      if q ≠ [] ∧ (t q).isNone ∧ q <+: path then some .dir else t q := by
  have hne : (q == path) = false := by simpa using hq
  rw [laidOver, List.lookup_cons, hne, List.lookup_nil]
  simp

/-- It is what was there, or a directory on the way. -/
lemma laidOver_singleton {path q : List κ} {e : Entry α} (hq : q ≠ path) :
    laidOver [(path, e)] t q = t q ∨
      q <+: path ∧ laidOver [(path, e)] t q = some .dir := by
  rw [laidOver_singleton_of_ne hq]
  by_cases h : q ≠ [] ∧ (t q).isNone ∧ q <+: path
  · rw [if_pos h]
    exact .inr ⟨h.2.2, rfl⟩
  · rw [if_neg h]
    exact .inl rfl

/-- What has been put is there. -/
lemma laidOver_singleton_self (path : List κ) (e : Entry α) :
    laidOver [(path, e)] t path = some e := by
  rw [laidOver, List.lookup_cons_self, Option.orElse_some]

/-- What is there does not change when the first thing is put before the others. -/
lemma laidOver_cons {e : List κ × Entry α} (hnot : e.1 ∉ l.map Prod.fst) :
    laidOver l (laidOver [(e.1, e.2)] t) = laidOver (e :: l) t := by
  funext p
  by_cases hp : p = e.1
  · have hnone : l.lookup p = none := lookup_eq_none.mpr (hp ▸ hnot)
    have hself : laidOver [(e.1, e.2)] t p = some e.2 := by rw [hp, laidOver_singleton_self]
    rw [laidOver, hnone, Option.orElse_none, hself, laidOver, hp, List.lookup_cons_self]
    simp
  · have hne : (p == e.1) = false := by simpa using hp
    rw [laidOver, laidOver.eq_1 (e :: l), List.lookup_cons, hne]
    cases hl : l.lookup p with
    | some x => simp
    | none =>
      simp only [Option.orElse_none, List.mem_cons, exists_eq_or_imp]
      rw [laidOver_singleton_of_ne hp]
      by_cases h : p ≠ [] ∧ (t p).isNone ∧ p <+: e.1
      · simp [h.1, h.2.1, h.2.2]
      · -- nothing was made for the first thing at this path
        rw [if_neg h]
        refine if_congr ⟨fun hr => ⟨hr.1, hr.2.1, .inr hr.2.2⟩,
          fun hr => ⟨hr.1, hr.2.1, ?_⟩⟩ rfl rfl
        exact hr.2.2.resolve_left fun hpe => h ⟨hr.1, hr.2.1, hpe⟩

/-- **The order in which things are put does not matter.** -/
theorem laidOver_perm (hfit : Fits l) (hp : l.Perm l') (t : Tree κ α) :
    laidOver l t = laidOver l' t := by
  funext p
  rw [laidOver, laidOver, lookup_perm hfit.nodup hp p]
  simp only [hp.mem_iff]

/-- What has been put is there. -/
lemma laidOver_of_mem (hfit : Fits l) {e : List κ × Entry α} (he : e ∈ l) :
    laidOver l t e.1 = some e.2 := by
  rw [laidOver, (lookup_eq_some hfit.nodup).mpr he, Option.orElse_some]

/-- On the way to something that has been put is a directory, if nothing else was there. -/
lemma laidOver_of_above (hfit : Fits l) {e : List κ × Entry α} (he : e ∈ l) {p : List κ}
    (hnil : p ≠ []) (hpre : p <+: e.1) (hne : p ≠ e.1) (ht : t p = none ∨ t p = some .dir) :
    laidOver l t p = some .dir := by
  rw [laidOver]
  cases hl : l.lookup p with
  | some x =>
    have hdir : x = .dir := hfit.above _ ((lookup_eq_some hfit.nodup).mp hl) e he hpre hne
    rw [Option.orElse_some, hdir]
  | none =>
    rw [Option.orElse_none]
    rcases ht with ht | ht
    · rw [if_pos ⟨hnil, by rw [ht]; rfl, e, he, hpre⟩]
    · rw [ht]
      simp

/-- Where nothing has been put, nor below, nothing changes. -/
lemma laidOver_frame {p : List κ} (h : ∀ e ∈ l, e.1 ≠ p ∧ (p ≠ [] → ¬ p <+: e.1)) :
    laidOver l t p = t p := by
  have hnone : l.lookup p = none := by
    rw [lookup_eq_none, List.mem_map]
    rintro ⟨e, he, heq⟩
    exact (h e he).1 heq
  rw [laidOver, hnone, Option.orElse_none, if_neg]
  rintro ⟨hnil, -, e, he, hp⟩
  exact (h e he).2 hnil hp

/-- What fits beside a thing can still be put after it. -/
lemma Takes.after {a b : List κ × Entry α} (h : Takes t b.1 b.2) (hne : b.1 ≠ a.1)
    (hab : a.1 <+: b.1 → a.2 = .dir) (hba : b.1 <+: a.1 → b.2 = .dir) :
    Takes (laidOver [(a.1, a.2)] t) b.1 b.2 := by
  obtain ⟨hway, hover, hdir⟩ := h
  refine ⟨?_, ?_, ?_⟩
  · intro q hq hnil hqb
    by_cases hqa : q = a.1
    · rw [hqa, laidOver_singleton_self, hab (hqa ▸ (List.mem_inits q b.1).mp hq)]
      exact .inr rfl
    · rcases laidOver_singleton (t := t) (e := a.2) hqa with heq | ⟨-, heq⟩
      · rw [heq]
        exact hway q hq hnil hqb
      · exact .inr heq
  · intro hb
    rcases laidOver_singleton (t := t) (e := a.2) hne with heq | ⟨hpre, -⟩
    · exact hover (heq.symm.trans hb)
    · exact hba hpre
  · intro hb
    rcases laidOver_singleton (t := t) (e := a.2) hne with heq | ⟨-, heq⟩
    · rw [heq]
      exact hdir hb
    · exact .inr heq

end Over

variable [DecidableEq κ] [DecidableEq α]

instance (t : Tree κ α) (path : List κ) (e : Entry α) : Decidable (Takes t path e) :=
  inferInstanceAs (Decidable (_ ∧ _ ∧ _))

/-- Something is put at a path, and the directories on the way are made. -/
def put (path : List κ) (e : Entry α) (t : Tree κ α) : Option (Tree κ α) :=
  if Takes t path e then
    some fun q =>
      if q = path then some e
      else if q ≠ [] ∧ (t q).isNone ∧ q <+: path then some .dir else t q
  else none

/-- Things are put one after the other. -/
def putAll (l : List (List κ × Entry α)) (t : Tree κ α) : Option (Tree κ α) :=
  l.foldlM (fun t e => put e.1 e.2 t) t

variable {l l' : List (List κ × Entry α)} {t : Tree κ α}

@[simp]
lemma putAll_nil : putAll [] t = some t := rfl

/-- Two lists are put one after the other. -/
lemma putAll_append : putAll (l ++ l') t = (putAll l t).bind (putAll l') :=
  List.foldlM_append

/-- What is there when one thing has been put. -/
lemma put_eq {path : List κ} {e : Entry α} (h : Takes t path e) :
    put path e t = some (laidOver [(path, e)] t) := by
  rw [put, if_pos h, Option.some.injEq]
  funext q
  by_cases hq : q = path
  · rw [if_pos hq, hq, laidOver_singleton_self]
  · rw [if_neg hq, laidOver_singleton_of_ne hq]

/-- What is there when something is put is still there, as that or as something else. -/
lemma putAll_isSome {t' : Tree κ α} (h : putAll l t = some t') {p : List κ}
    (hp : (t p).isSome) : (t' p).isSome := by
  induction l generalizing t with
  | nil =>
    cases h
    exact hp
  | cons e l ih =>
    obtain ⟨t₁, (hput : put e.1 e.2 t = some t₁), hrest⟩ := Option.bind_eq_some_iff.mp h
    refine ih hrest ?_
    by_cases htake : Takes t e.1 e.2
    · rw [put_eq htake] at hput
      rw [← Option.some.inj hput]
      by_cases hself : p = e.1
      · rw [hself, laidOver_singleton_self]
        rfl
      · rcases laidOver_singleton (t := t) (e := e.2) hself with heq | ⟨-, heq⟩
        · rw [heq]
          exact hp
        · rw [heq]
          rfl
    · rw [put, if_neg htake] at hput
      cases hput

/-- **Things that fit are put without a failure.**

**Proof sketch.** By induction on the list: what is left of it still can be put when the first thing
is there, since the paths differ and only directories have others below them. -/
theorem putAll_eq (hfit : Fits l) (htake : ∀ e ∈ l, Takes t e.1 e.2) :
    putAll l t = some (laidOver l t) := by
  induction l generalizing t with
  | nil =>
    rw [putAll_nil, Option.some.injEq]
    funext p
    simp [laidOver]
  | cons e l ih =>
    have hnot : e.1 ∉ l.map Prod.fst := (List.nodup_cons.mp hfit.nodup).1
    have hput : put e.1 e.2 t = some (laidOver [(e.1, e.2)] t) := put_eq (htake e (by simp))
    have hrest : putAll l (laidOver [(e.1, e.2)] t) =
        some (laidOver l (laidOver [(e.1, e.2)] t)) := by
      refine ih hfit.tail fun b hb => ?_
      have hne : b.1 ≠ e.1 := fun heq => hnot (heq ▸ List.mem_map_of_mem hb)
      have hb' := List.mem_cons_of_mem e hb
      exact (htake b hb').after hne (fun h => hfit.above e (by simp) b hb' h hne.symm)
        fun h => hfit.above b hb' e (by simp) h hne
    rw [laidOver_cons hnot] at hrest
    rw [putAll, List.foldlM_cons, hput]
    exact hrest

end FileTree
