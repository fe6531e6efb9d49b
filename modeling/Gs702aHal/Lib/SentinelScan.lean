import Mathlib.Data.List.Induction
import Mathlib.Order.Lattice

set_option relaxedAutoImplicit false
set_option autoImplicit false

/-!
# Scans for the smallest weight

A loop that looks for the element of a list with the smallest weight keeps the best element so far
and its weight. Before the first element there is none, and the weight is a *sentinel*: an element
counts only if its weight is below it.

## Main definitions

* `SentinelScan.scan` — the loop.
* `SentinelScan.IsBest` — what it has found, for the part of the list that it has seen.

## Main results

* `SentinelScan.isBest_scan` — the loop finds an element with the smallest weight.
* `SentinelScan.isSome_scan_iff` — it finds one if some weight is below the sentinel.
-/

namespace SentinelScan

variable {α β : Type*} [LinearOrder β]

/-- One pass of the loop. -/
def pass (weight : α → β) (best : Option α × β) (a : α) : Option α × β :=
  if weight a < best.2 then (some a, weight a) else best

/-- The loop. -/
def scan (weight : α → β) (sentinel : β) (l : List α) : Option α × β :=
  l.foldl (pass weight) (none, sentinel)

/-- What is found in a list: nothing if no weight is below the sentinel, else an element with the
smallest weight. -/
def IsBest (weight : α → β) (sentinel : β) (l : List α) : Option α × β → Prop
  | (none, least) => least = sentinel ∧ ∀ c ∈ l, sentinel ≤ weight c
  | (some a, least) =>
    least = weight a ∧ a ∈ l ∧ weight a < sentinel ∧ ∀ c ∈ l, weight a ≤ weight c

variable {weight : α → β} {sentinel : β} {l : List α}

/-- A pass takes one more element into account. -/
lemma IsBest.pass {best : Option α × β} (h : IsBest weight sentinel l best) (a : α) :
    IsBest weight sentinel (l ++ [a]) (pass weight best a) := by
  obtain ⟨found, least⟩ := best
  unfold SentinelScan.pass
  cases found with
  | none =>
    obtain ⟨rfl, hall⟩ := h
    split_ifs with hlt
    · refine ⟨rfl, by simp, hlt, fun c hc => ?_⟩
      rcases List.mem_append.mp hc with hc | hc
      · exact (hlt.trans_le (hall c hc)).le
      · rw [List.mem_singleton.mp hc]
    · refine ⟨rfl, fun c hc => ?_⟩
      rcases List.mem_append.mp hc with hc | hc
      · exact hall c hc
      · rw [List.mem_singleton.mp hc]
        exact not_lt.mp hlt
  | some b =>
    obtain ⟨rfl, hmem, hb, hall⟩ := h
    split_ifs with hlt
    · refine ⟨rfl, by simp, hlt.trans hb, fun c hc => ?_⟩
      rcases List.mem_append.mp hc with hc | hc
      · exact (hlt.trans_le (hall c hc)).le
      · rw [List.mem_singleton.mp hc]
    · refine ⟨rfl, List.mem_append_left _ hmem, hb, fun c hc => ?_⟩
      rcases List.mem_append.mp hc with hc | hc
      · exact hall c hc
      · rw [List.mem_singleton.mp hc]
        exact not_lt.mp hlt

/-- **The loop finds an element with the smallest weight**, if that is below the sentinel.

**Proof sketch.** Induction on the list from its end: what the loop has found in the part before the
last element, and one pass. -/
theorem isBest_scan (weight : α → β) (sentinel : β) (l : List α) :
    IsBest weight sentinel l (scan weight sentinel l) := by
  induction l using List.reverseRecOn with
  | nil => exact ⟨rfl, fun c hc => absurd hc List.not_mem_nil⟩
  | append_singleton l a ih =>
    rw [scan, List.foldl_append]
    exact ih.pass a

/-- What the loop finds is in the list, and no weight is smaller. -/
lemma of_scan_eq_some {a : α} (h : (scan weight sentinel l).1 = some a) :
    a ∈ l ∧ weight a < sentinel ∧ ∀ c ∈ l, weight a ≤ weight c := by
  have hbest := isBest_scan weight sentinel l
  cases hscan : scan weight sentinel l with
  | mk found least =>
    rw [hscan] at h hbest
    obtain rfl : found = some a := h
    exact hbest.2

/-- The loop finds an element if some weight is below the sentinel. -/
lemma isSome_scan_iff :
    (scan weight sentinel l).1.isSome = true ↔ ∃ c ∈ l, weight c < sentinel := by
  have hbest := isBest_scan weight sentinel l
  rcases hscan : scan weight sentinel l with ⟨_ | a, least⟩ <;> rw [hscan] at hbest
  · refine ⟨fun h => (Bool.false_ne_true h).elim, ?_⟩
    rintro ⟨c, hc, hlt⟩
    exact absurd hlt (not_lt.mpr (hbest.2 c hc))
  · exact ⟨fun _ => ⟨a, hbest.2.1, hbest.2.2.1⟩, fun _ => rfl⟩

end SentinelScan
