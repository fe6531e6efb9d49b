import Mathlib.Data.List.Range
import Mathlib.Tactic.Ring

set_option relaxedAutoImplicit false
set_option autoImplicit false

/-!
# Windows in a ring

The numbers `0, 1, 2, …` are put one after the other into the slots of a ring of `n` slots, the
number `m` into the slot `m % n`. A queue that holds the last `q` of the first `k` numbers
occupies a window of slots that ends just before the slot `k % n`, the next one to be used.

## Main definitions

* `RingWindow.slots` — the slots of the last `q` of `k` numbers.
* `RingWindow.distance` — how many slots lie between a slot and the next one to be used.
* `RingWindow.IsWindow` — a queue of slots is a window that ends before a slot.

## Main results

* `RingWindow.slots_succ`, `RingWindow.slots_pop` — the window moves at both ends.
* `RingWindow.mem_slots_iff` — a slot is in the window exactly if it is nearer than the window is
  long.
* `RingWindow.IsWindow.put`, `RingWindow.IsWindow.get` — a queue stays a window.
* `RingWindow.IsWindow.mem_iff`, `RingWindow.IsWindow.next_mem_iff` — which slots are in the queue,
  from its length.
-/

namespace RingWindow

/-- The slots of the numbers `k - q, …, k - 1`. -/
def slots (n k q : ℕ) : List ℕ := (List.range' (k - q) q).map (· % n)

/-- The number of slots after `j` and before `i`, going around the ring. -/
def distance (n i j : ℕ) : ℕ := (i + n - 1 - j) % n

variable {n k q j : ℕ}

/-- A number goes to the end of the window. -/
lemma slots_succ (hq : q ≤ k) : slots n (k + 1) (q + 1) = slots n k q ++ [k % n] := by
  have hstart : k + 1 - (q + 1) = k - q := by omega
  have hlast : k - q + q = k := by omega
  rw [slots, hstart, List.range'_1_concat, hlast, List.map_append]
  rfl

/-- A number leaves the window at its front. -/
lemma slots_pop (hq : q + 1 ≤ k) :
    slots n k (q + 1) = (k - (q + 1)) % n :: slots n k q := by
  have hstart : k - (q + 1) + 1 = k - q := by omega
  rw [slots, List.range'_succ, hstart, List.map_cons]
  rfl

/-- The distance of an earlier number's slot, from the numbers. -/
lemma distance_mod {m : ℕ} (hn : 0 < n) (hm : m < k) :
    distance n (k % n) (m % n) = (k - 1 - m) % n := by
  have hk := Nat.div_add_mod k n
  have hm' := Nat.div_add_mod m n
  have hlt := Nat.mod_lt m hn
  have hsum : k % n + n - 1 - m % n + n * (k / n) = k - 1 - m + n * (m / n + 1) := by
    have hsucc : n * (m / n + 1) = n * (m / n) + n := by ring
    omega
  calc distance n (k % n) (m % n)
      = (k % n + n - 1 - m % n + n * (k / n)) % n := (Nat.add_mul_mod_self_left _ _ _).symm
    _ = (k - 1 - m + n * (m / n + 1)) % n := by rw [hsum]
    _ = (k - 1 - m) % n := Nat.add_mul_mod_self_left _ _ _

/-- **A slot is in the window exactly if it is nearer than the window is long.**

**Proof sketch.** The number in a slot of the window is less than `q` before `k`, so the slot is
nearer than `q`. A slot at the distance `d < q` is the slot of the number `k - 1 - d`. -/
theorem mem_slots_iff (hn : 0 < n) (hq : q ≤ k) (hj : j < n) :
    j ∈ slots n k q ↔ distance n (k % n) j < q := by
  simp only [slots, List.mem_map, List.mem_range'_1]
  constructor
  · rintro ⟨m, ⟨hge, hlt⟩, rfl⟩
    have hmk : m < k := by omega
    rw [distance_mod hn hmk]
    have hle := Nat.mod_le (k - 1 - m) n
    omega
  · intro hd
    have hk := Nat.div_add_mod k n
    have hkn := Nat.mod_lt k hn
    refine ⟨k - 1 - distance n (k % n) j, by omega, ?_⟩
    by_cases hle : j + 1 ≤ k % n
    · have hdist : distance n (k % n) j = k % n - 1 - j := by
        have hsum : k % n + n - 1 - j = k % n - 1 - j + n * 1 := by omega
        rw [distance, hsum, Nat.add_mul_mod_self_left, Nat.mod_eq_of_lt (by omega)]
      have hnum : k - 1 - distance n (k % n) j = j + n * (k / n) := by omega
      rw [hnum, Nat.add_mul_mod_self_left, Nat.mod_eq_of_lt hj]
    · have hdist : distance n (k % n) j = k % n + n - 1 - j := by
        rw [distance, Nat.mod_eq_of_lt (by omega)]
      have hpos : 0 < k / n := by
        by_contra hzero
        have hdiv : k / n = 0 := Nat.eq_zero_of_not_pos hzero
        rw [hdiv, Nat.mul_zero] at hk
        omega
      obtain ⟨c, hc⟩ : ∃ c, k / n = c + 1 := ⟨k / n - 1, (Nat.succ_pred_eq_of_pos hpos).symm⟩
      have hsucc : n * (c + 1) = n * c + n := by ring
      rw [hc, hsucc] at hk
      have hnum : k - 1 - distance n (k % n) j = j + n * c := by omega
      rw [hnum, Nat.add_mul_mod_self_left, Nat.mod_eq_of_lt hj]

/-! ### Queues of slots -/

/-- A queue holds the slots of the last numbers, and `i` is the next slot to be used. -/
def IsWindow (n i : ℕ) (q : List ℕ) : Prop :=
  ∃ k, q.length ≤ k ∧ i = k % n ∧ q = slots n k q.length

namespace IsWindow

variable {i : ℕ} {l : List ℕ}

/-- The queue may be emptied. -/
lemma clear (h : IsWindow n i l) : IsWindow n i [] := by
  obtain ⟨k, -, hi, -⟩ := h
  exact ⟨k, Nat.zero_le k, hi, rfl⟩

/-- The next slot is used. -/
lemma put (h : IsWindow n i l) : IsWindow n ((i + 1) % n) (l ++ [i]) := by
  obtain ⟨k, hk, rfl, hl⟩ := h
  have hlen : (l ++ [k % n]).length = l.length + 1 := by simp
  refine ⟨k + 1, by omega, Nat.mod_add_mod k n 1, ?_⟩
  rw [hlen, slots_succ hk, ← hl]

/-- The first slot leaves the queue. -/
lemma get (h : IsWindow n i (j :: l)) : IsWindow n i l := by
  obtain ⟨k, hk, hi, hl⟩ := h
  rw [List.length_cons] at hk hl
  rw [slots_pop hk] at hl
  exact ⟨k, by omega, hi, (List.cons.inj hl).2⟩

/-- A slot is in the queue exactly if it is nearer than the queue is long. -/
lemma mem_iff (h : IsWindow n i l) (hn : 0 < n) (hj : j < n) :
    j ∈ l ↔ distance n i j < l.length := by
  obtain ⟨k, hk, rfl, hl⟩ := h
  rw [← mem_slots_iff hn hk hj, ← hl]

/-- The next slot is in the queue exactly if the queue goes around the ring. -/
lemma next_mem_iff (h : IsWindow n i l) (hn : 0 < n) : i ∈ l ↔ n ≤ l.length := by
  have hlt : i < n := by
    obtain ⟨k, -, rfl, -⟩ := h
    exact Nat.mod_lt k hn
  have hdist : distance n i i = n - 1 := by
    have hsub : i + n - 1 - i = n - 1 := by omega
    rw [distance, hsub, Nat.mod_eq_of_lt (by omega)]
  rw [h.mem_iff hn hlt, hdist]
  omega

end IsWindow

end RingWindow
