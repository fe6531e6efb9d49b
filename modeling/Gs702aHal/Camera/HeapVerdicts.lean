import Gs702aHal.Camera.HeapTracker

set_option relaxedAutoImplicit false
set_option autoImplicit false

/-!
# The verdicts of the heap tracker

A check of an allocation writes lines if it finds fault with it. What it says, and of which
allocation, follows from the bytes of the block alone.

## Main definitions

* `HeapTracker.Block.intact` — nothing was changed that the program must not write.

## Main results

* `HeapTracker.rearMismatches_covers` — the ranges that are reported are those of the changed bytes.
* `HeapTracker.check_allocation_blames` — a check blames the allocation exactly if it is not intact.
* `HeapTracker.check_allocation_lines` — and writes nothing if it is.
-/

namespace HeapTracker

section Verdicts

variable {c : Account} {hdr p : Addr} {tag : BitVec 32} {b : Block} {milist : List mapinfo}

/-- Nothing was changed that the program must not write. -/
def Block.intact (b : Block) : Bool :=
  b.is_front_guard_valid && b.is_rear_guard_valid.1 &&
    !(decide (b.tag = BACKLOG_TAG) && b.was_used_after_free)

/-- The lines of call stacks and of ranges, which name no allocation. -/
def Line.nameless : Line → Bool
  | .stars | .pc .. | .rearMismatch .. => true
  | _ => false

/-- The lines of a call stack name no allocation. -/
lemma nameless_print_backtrace {bt : List Addr} {line : Line}
    (h : line ∈ print_backtrace milist bt) : line.nameless := by
  rw [print_backtrace, List.mem_cons, List.mem_map] at h
  obtain rfl | ⟨⟨pc, cnt⟩, -, rfl⟩ := h
  · rfl
  · cases hpc : pc_to_mapinfo milist pc <;> simp [hpc, Line.nameless]

/-- Nor do the ranges of a rear guard. -/
lemma nameless_rearMismatches {guard : List Byte} {i : ℕ} {first_mismatch : Option ℕ} {line : Line}
    (h : line ∈ rearMismatches guard i first_mismatch) : line.nameless := by
  have hrange : ∀ i, line ∈ (first_mismatch.map (Line.rearMismatch · i)).toList →
      line.nameless := by
    intro i hi
    cases first_mismatch with
    | none => simp at hi
    | some f => rw [List.mem_singleton.mp hi]; rfl
  induction guard generalizing i first_mismatch with
  | nil => exact hrange i h
  | cons v guard ih =>
    rw [rearMismatches] at h
    split_ifs at h with hv
    · refine ih h fun i hi => ?_
      cases first_mismatch <;> rw [List.mem_singleton.mp hi] <;> rfl
    · rcases List.mem_append.mp h with h | h
      · exact hrange i h
      · exact ih h (by simp)

/-- What no nameless line is, is none of these lines. -/
lemma any_of_nameless {f : Line → Bool} (hf : ∀ line : Line, line.nameless → f line = false)
    {lines : List Line} (h : ∀ line ∈ lines, line.nameless) : lines.any f = false :=
  List.any_eq_false.mpr fun line hline => by rw [hf line (h line hline)]; exact Bool.false_ne_true

/-- Nothing is blamed by a nameless line. -/
lemma blames_of_nameless (p : Addr) {line : Line} (h : line.nameless) :
    line.blames p = false := by
  cases line <;> first | rfl | cases h

/-- A call stack blames nothing. -/
@[simp] lemma blames_print_backtrace (bt : List Addr) :
    (print_backtrace milist bt).any (Line.blames p) = false :=
  any_of_nameless (fun _ => blames_of_nameless p) fun _ => nameless_print_backtrace

/-- The ranges of the rear guard blame nothing by themselves. -/
@[simp] lemma blames_rearMismatches (guard : List Byte) (i : ℕ) (first_mismatch : Option ℕ) :
    (rearMismatches guard i first_mismatch).any (Line.blames p) = false :=
  any_of_nameless (fun _ => blames_of_nameless p) fun _ => nameless_rearMismatches

/-- A guard that was not changed has no ranges. -/
lemma rearMismatches_eq_nil {guard : List Byte} (h : ∀ v ∈ guard, v = REAR_GUARD) (i : ℕ) :
    rearMismatches guard i none = [] := by
  induction guard generalizing i with
  | nil => rfl
  | cons v guard ih =>
    have hv : ¬ v ≠ REAR_GUARD := not_not_intro (h v List.mem_cons_self)
    rw [rearMismatches, if_neg hv, ih (fun v hv => h v (List.mem_cons_of_mem _ hv))]
    rfl

/-- Whether a byte lies in a range that is reported. -/
def Line.covers (j : ℕ) : Line → Prop
  | .rearMismatch start stop => start ≤ j ∧ j < stop
  | _ => False

/-- **The ranges are those of the changed bytes.** A byte of the rear guard lies in a range that is
reported exactly if it was changed.

**Proof sketch.** By induction on the rest of the guard. Before it lies a run of changed bytes, from
the first mismatch on, which has not been reported yet. -/
theorem rearMismatches_covers (guard : List Byte) (i : ℕ) {first_mismatch : Option ℕ}
    (hfirst : ∀ f ∈ first_mismatch, f ≤ i) (j : ℕ) :
    (∃ line ∈ rearMismatches guard i first_mismatch, line.covers j) ↔
      (∃ f ∈ first_mismatch, f ≤ j ∧ j < i) ∨
        i ≤ j ∧ ∃ v, guard[j - i]? = some v ∧ v ≠ REAR_GUARD := by
  induction guard generalizing i first_mismatch with
  | nil => cases first_mismatch <;> simp [rearMismatches, Line.covers]
  | cons v guard ih =>
    have hhere : (i ≤ j ∧ ∃ w, (v :: guard)[j - i]? = some w ∧ w ≠ REAR_GUARD) ↔
        j = i ∧ v ≠ REAR_GUARD ∨
          i + 1 ≤ j ∧ ∃ w, guard[j - (i + 1)]? = some w ∧ w ≠ REAR_GUARD := by
      rcases lt_trichotomy j i with hlt | rfl | hlt
      · constructor <;> omega
      · simp
      · rw [show j - i = j - (i + 1) + 1 by omega, List.getElem?_cons_succ]
        simp [hlt.ne', hlt.le, Nat.succ_le_of_lt hlt]
    rw [rearMismatches, hhere]
    by_cases hv : v ≠ REAR_GUARD
    · -- the byte belongs to the run of changed ones
      have hrun : ∀ f ∈ first_mismatch.or (some i), f ≤ i + 1 := by
        cases first_mismatch with
        | none => simp
        | some f => simpa using (hfirst f rfl).trans (Nat.le_succ i)
      rw [if_pos hv, ih (i + 1) hrun]
      cases first_mismatch with
      | none => simp only [Option.none_or, Option.mem_def, Option.some.injEq]; grind
      | some f =>
        have hf := hfirst f rfl
        simp only [Option.some_or, Option.mem_def, Option.some.injEq]
        grind
    · -- the run, if there is one, ends before the byte
      rw [if_neg hv]
      have ih := @ih (i + 1) none (by simp)
      simp only [List.mem_append, or_and_right, exists_or, ih]
      cases first_mismatch <;> simp [Line.covers, hv]

/-- The guards are valid exactly if no byte of them was changed. -/
lemma check_guards_valid (hdr : Addr) (b : Block) :
    (check_guards hdr b).valid = (b.is_front_guard_valid && b.is_rear_guard_valid.1) := by
  rw [check_guards]
  by_cases hfront : b.is_front_guard_valid
  · rw [if_pos hfront, hfront, Bool.true_and]
    by_cases hrear : b.is_rear_guard_valid.1 <;> simp [hrear]
  · rw [if_neg hfront, Bool.eq_false_of_not_eq_true hfront]
    split_ifs <;> rfl

/-- A check of the guards blames the allocation exactly if they are not valid. -/
lemma check_guards_blames : (check_guards hdr b).lines.any (Line.blames p) =
    (!(check_guards hdr b).valid && decide (user hdr = p)) := by
  have hranges : b.is_rear_guard_valid.2.any (Line.blames p) = false := blames_rearMismatches ..
  rw [check_guards]
  by_cases hfront : b.is_front_guard_valid
  · rw [if_pos hfront]
    by_cases hrear : b.is_rear_guard_valid.1 <;> simp [hrear, hranges, Line.blames]
  · rw [if_neg hfront]
    split_ifs <;> simp [Line.blames]

/-- A check of valid guards writes nothing. -/
lemma check_guards_lines (h : (check_guards hdr b).valid) : (check_guards hdr b).lines = [] := by
  rw [check_guards_valid, Bool.and_eq_true] at h
  have hrear : ∀ v ∈ List.ofFn b.rear_guard, v = REAR_GUARD := by
    intro v hv
    obtain ⟨i, rfl⟩ := List.mem_ofFn.mp hv
    exact of_decide_eq_true h.2 i
  rw [check_guards, if_pos h.1, if_pos h.2]
  exact rearMismatches_eq_nil hrear 0

/-- The call stacks blame nothing. -/
lemma traces_blames (v : Verdict) :
    (traces milist hdr b v).lines.any (Line.blames p) = v.lines.any (Line.blames p) := by
  rw [traces]
  split_ifs <;> simp [Line.blames]

/-- A valid allocation has no call stacks printed. -/
lemma traces_lines {v : Verdict} (h : v.valid) : (traces milist hdr b v).lines = v.lines := by
  rw [traces, h]
  rfl

/-- **A check blames an allocation exactly if it is not intact**, and it blames no other. -/
lemma check_allocation_blames (htag : b.tag = ALLOCATION_TAG ∨ b.tag = BACKLOG_TAG) :
    (check_allocation milist hdr b).lines.any (Line.blames p) =
      (!b.intact && decide (user hdr = p)) := by
  have hvalid : ¬ (b.tag ≠ ALLOCATION_TAG ∧ b.tag ≠ BACKLOG_TAG) := fun h =>
    htag.elim h.1 h.2
  rw [check_allocation, if_neg hvalid, Block.intact, ← check_guards_valid hdr]
  by_cases hused : b.tag = BACKLOG_TAG ∧ b.was_used_after_free
  · rw [if_pos hused, traces_blames, List.any_cons, check_guards_blames]
    simp [Line.blames, hused.1, hused.2]
  · rw [if_neg hused, traces_blames, check_guards_blames]
    congr 2
    have hunused : (decide (b.tag = BACKLOG_TAG) && b.was_used_after_free) = false := by
      rw [← Bool.not_eq_true, Bool.and_eq_true, decide_eq_true_iff]
      exact hused
    rw [hunused, Bool.not_false, Bool.and_true]

/-- A check of an allocation that is intact writes nothing. -/
lemma check_allocation_lines (htag : b.tag = ALLOCATION_TAG ∨ b.tag = BACKLOG_TAG)
    (h : b.intact) : (check_allocation milist hdr b).lines = [] := by
  have hvalid : ¬ (b.tag ≠ ALLOCATION_TAG ∧ b.tag ≠ BACKLOG_TAG) := fun h =>
    htag.elim h.1 h.2
  rw [Block.intact, ← check_guards_valid hdr, Bool.and_eq_true] at h
  have hused : ¬ (b.tag = BACKLOG_TAG ∧ b.was_used_after_free) := by
    intro hused
    have hnot := h.2
    rw [hused.2, decide_eq_true hused.1] at hnot
    exact Bool.false_ne_true hnot
  rw [check_allocation, if_neg hvalid, if_neg hused, traces_lines h.1, check_guards_lines h.1]

/-- The lines that name a leak. -/
def Line.deletes : Line → Bool
  | .deleting .. => true
  | _ => false

/-- A nameless line names no leak. -/
lemma deletes_of_nameless {line : Line} (h : line.nameless) : line.deletes = false := by
  cases line <;> first | rfl | cases h

/-- A call stack names no leak. -/
@[simp] lemma deletes_print_backtrace (bt : List Addr) :
    (print_backtrace milist bt).any Line.deletes = false :=
  any_of_nameless (fun _ => deletes_of_nameless) fun _ => nameless_print_backtrace

/-- A check names no leak. -/
lemma check_allocation_deletes :
    (check_allocation milist hdr b).lines.any Line.deletes = false := by
  have hranges : b.is_rear_guard_valid.2.any Line.deletes = false :=
    any_of_nameless (fun _ => deletes_of_nameless) fun _ => nameless_rearMismatches
  have hguards : (check_guards hdr b).lines.any Line.deletes = false := by
    rw [check_guards]
    by_cases hfront : b.is_front_guard_valid
    · rw [if_pos hfront]
      by_cases hrear : b.is_rear_guard_valid.1
      · simp only [hrear, if_true, hranges]
      · simp only [Bool.eq_false_of_not_eq_true hrear, Bool.false_eq_true, if_false,
          List.any_append, hranges]
        rfl
    · rw [if_neg hfront]
      split_ifs <;> rfl
  have htraces : ∀ v : Verdict, v.lines.any Line.deletes = false →
      (traces milist hdr b v).lines.any Line.deletes = false := by
    intro v hv
    rw [traces]
    split_ifs
    · simp only [List.any_append, List.any_cons, hv, deletes_print_backtrace]
      rfl
    · simp only [List.any_append, List.any_cons, hv, deletes_print_backtrace]
      rfl
    · exact hv
  rw [check_allocation]
  split_ifs
  · rfl
  · exact htraces _ (by rw [List.any_cons, hguards]; rfl)
  · exact htraces _ hguards

end Verdicts

end HeapTracker
