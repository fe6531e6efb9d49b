import Mathlib.Data.List.Nodup
import Mathlib.Data.List.Range

set_option relaxedAutoImplicit false
set_option autoImplicit false

/-!
# Objects in custody

Objects are numbered as they come into a system, stay in its custody for a while, and leave it
with some entries in a log. The log is good if every object that has left has the entries that it
should have; whether a step keeps it good depends on the entries of the objects that leave in
that step, and on nothing else.

## Main definitions

* `Custody` — the number of objects so far, those in custody, and the log.
* `Custody.Tracked` — objects in custody have no entries.
* `Custody.Accounted` — every object is in custody or has the entries that it should have.
* `Custody.Moves` — a step that takes objects in and lets objects out.

## Main results

* `Custody.Moves.tracked`, `Custody.Moves.accounted_iff` — what a step keeps.
-/

/-- The objects `0`, …, `count - 1` have come in; `held` lists those that have not left. -/
structure Custody (ε : Type*) where
  count : ℕ
  held : List ℕ
  log : List ε

namespace Custody

variable {ε : Type*} (about : ℕ → ε → Bool)

/-- An object is in custody once, and the log says nothing about it or about later ones. -/
structure Tracked (c : Custody ε) : Prop where
  nodup : c.held.Nodup
  held_lt : ∀ p ∈ c.held, p < c.count
  silent : ∀ p, p ∈ c.held ∨ c.count ≤ p → c.log.filter (about p) = []

/-- Every object is in custody or its entries are good. -/
def Accounted (good : ℕ → List ε → Prop) (c : Custody ε) : Prop :=
  ∀ p < c.count, p ∈ c.held ∨ good p (c.log.filter (about p))

/-- A step takes in `new` objects and lets the objects `out` leave, with entries about these
only. -/
structure Moves (c c' : Custody ε) (new : ℕ) (out : List ℕ) (events : List ε) : Prop where
  count : c'.count = c.count + new
  held : (c.held ++ List.range' c.count new).Perm (out ++ c'.held)
  log : c'.log = c.log ++ events
  about : ∀ p ∉ out, events.filter (about p) = []

variable {about} {c c' : Custody ε} {new : ℕ} {out : List ℕ} {events : List ε}

namespace Moves

/-- The objects taken in follow those in custody, each of them once. -/
lemma nodup_append (h : Tracked about c) : (c.held ++ List.range' c.count new).Nodup := by
  rw [List.nodup_append']
  refine ⟨h.nodup, List.nodup_range', fun p hp hnew => ?_⟩
  have hlt := h.held_lt p hp
  have hge := (List.mem_range'_1.mp hnew).1
  omega

/-- What leaves is no longer in custody. -/
lemma nodup_out (hm : Moves about c c' new out events) (h : Tracked about c) :
    (out ++ c'.held).Nodup :=
  hm.held.nodup_iff.mp (nodup_append h)

/-- What leaves or stays was in custody or has come in. -/
lemma mem_iff (hm : Moves about c c' new out events) (p : ℕ) :
    p ∈ out ∨ p ∈ c'.held ↔ p ∈ c.held ∨ c.count ≤ p ∧ p < c'.count := by
  rw [← List.mem_append, ← hm.held.mem_iff, List.mem_append, List.mem_range'_1, hm.count]

/-- What leaves has no earlier entries. -/
lemma silent_of_mem (hm : Moves about c c' new out events) (h : Tracked about c) {p : ℕ}
    (hp : p ∈ out ∨ p ∈ c'.held) : c.log.filter (about p) = [] := by
  apply h.silent
  rcases (hm.mem_iff p).mp hp with hheld | ⟨hge, -⟩
  · exact Or.inl hheld
  · exact Or.inr hge

/-- The entries after a step. -/
lemma filter_log (hm : Moves about c c' new out events) (p : ℕ) :
    c'.log.filter (about p) = c.log.filter (about p) ++ events.filter (about p) := by
  rw [hm.log, List.filter_append]

/-- A step keeps track of the objects in custody. -/
theorem tracked (hm : Moves about c c' new out events) (h : Tracked about c) :
    Tracked about c' where
  nodup := (List.nodup_append'.mp (hm.nodup_out h)).2.1
  held_lt p hp := by
    rcases (hm.mem_iff p).mp (Or.inr hp) with hheld | ⟨-, hlt⟩
    · have hlt := h.held_lt p hheld
      have hcount := hm.count
      omega
    · exact hlt
  silent p hp := by
    have hout : p ∉ out := by
      intro hout
      rcases hp with hp | hge
      · exact (List.nodup_append'.mp (hm.nodup_out h)).2.2 hout hp
      · have hcount := hm.count
        rcases (hm.mem_iff p).mp (Or.inl hout) with hheld | ⟨-, hlt⟩
        · have hlt := h.held_lt p hheld
          omega
        · omega
    have hbefore : c.log.filter (about p) = [] := by
      rcases hp with hp | hge
      · exact hm.silent_of_mem h (Or.inr hp)
      · have hcount := hm.count
        exact h.silent p (Or.inr (by omega))
    rw [hm.filter_log, hbefore, hm.about p hout, List.nil_append]

/-- **A step keeps the log good exactly if what leaves has good entries.**

**Proof sketch.** What stays is in custody, what left earlier has the entries it had, and what
leaves now has no entries but those of the step. -/
theorem accounted_iff {good good' : ℕ → List ε → Prop} (hm : Moves about c c' new out events)
    (ht : Tracked about c) (hgood : ∀ p < c.count, ∀ l, good' p l ↔ good p l)
    (h : Accounted about good c) :
    Accounted about good' c' ↔ ∀ p ∈ out, good' p (events.filter (about p)) := by
  have hlog : ∀ p ∈ out, c'.log.filter (about p) = events.filter (about p) := fun p hp => by
    rw [hm.filter_log, hm.silent_of_mem ht (Or.inl hp), List.nil_append]
  constructor
  · intro h' p hp
    have hlt : p < c'.count := by
      rcases (hm.mem_iff p).mp (Or.inl hp) with hheld | ⟨-, hlt⟩
      · have hlt := ht.held_lt p hheld
        have hcount := hm.count
        omega
      · exact hlt
    rcases h' p hlt with hheld | hpgood
    · exact absurd hheld ((List.nodup_append'.mp (hm.nodup_out ht)).2.2 hp)
    · rwa [hlog p hp] at hpgood
  · intro hout p hp
    by_cases hmem : p ∈ out ∨ p ∈ c'.held
    · rcases hmem with hmem | hmem
      · exact Or.inr (by rw [hlog p hmem]; exact hout p hmem)
      · exact Or.inl hmem
    · have hnot := mt (hm.mem_iff p).mpr hmem
      have hlt : p < c.count := by
        by_contra hge
        exact hnot (Or.inr ⟨not_lt.mp hge, hp⟩)
      rcases h p hlt with hheld | hpgood
      · exact absurd (Or.inl hheld) hnot
      · refine Or.inr ((hgood p hlt _).mpr ?_)
        rwa [hm.filter_log, hm.about p fun hp => hmem (Or.inl hp), List.append_nil]

/-- A step that lets nothing in or out. -/
lemma stay (hcount : c'.count = c.count) (hheld : c.held.Perm c'.held) (hlog : c'.log = c.log) :
    Moves about c c' 0 [] [] :=
  ⟨hcount, by simpa using hheld, by simpa using hlog, fun _ _ => rfl⟩

end Moves

end Custody
