import Gs702aHal.Lib.StepRun
import Gs702aHal.Camera.StreamBuffer

set_option relaxedAutoImplicit false
set_option autoImplicit false

/-!
# Interleaved calls on one stream buffer

The counters of a `CameraStreamBuffer` are changed in sections under its lock.
`incRefCount` is one such section. `decRefCount` decides in its section whether to hand the
buffer back. `clearRefCount` decides by comparing the total that it read before its section
with the total that it reads after, and both reads are made without the lock. This file runs
the calls of any number of threads on one buffer, a section or an unlocked read at a time. A
read during another thread's section sees the total before or after that section, since each
section writes the total once. The counters are numbers, which the words of the source are for fewer
than `2 ^ 32` references (`Gs702aHal.Camera.BufferRefCount`).

## Main definitions

* `CameraHal.RefCountRace.Call` — where a thread is in its call.
* `CameraHal.RefCountRace.step` — one section, one unlocked read, or one hand-back.
* `CameraHal.RefCountRace.Exact` — every time the total went from positive to zero has been
  handed back once, or is about to be.
* `CameraHal.RefCountRace.Undisturbed` — the total is taken to or from zero only while no other
  thread is between the two reads of `clearRefCount`.

## Main results

* `CameraHal.RefCountRace.exact_step_iff` — the one decision that can go wrong.
* `CameraHal.RefCountRace.always_exact` — the runs in which the hand-backs are exact, among
  them the undisturbed ones.
-/

namespace CameraHal

namespace RefCountRace

/-- Where a thread is: outside of any call, in `clearRefCount` with the total read first, in
`clearRefCount` past its section, or about to call `returnFrame`. Past the section it is noted
whether the section took the total from positive to zero. -/
inductive Call
  | idle
  | sampled (frameType : FrameType) (oldSum : ℕ)
  | cleared (frameType : FrameType) (oldSum : ℕ) (emptied : Bool)
  | needReturn (frameType : FrameType)
  deriving DecidableEq, Repr

/-- What a thread can do next. -/
inductive Action
  | incRefCount (frameType : FrameType)
  | decRefCount (frameType : FrameType)
  | sampleSum (frameType : FrameType)
  | clearSection
  | testSum
  | returnFrame
  deriving DecidableEq, Repr

/-- The buffer, the calls of all threads, the number of hand-backs so far, and the number of
times that the total went from positive to zero. -/
structure State (τ : Type*) where
  /-- The buffer. -/
  buf : CameraStreamBuffer
  /-- The call of each thread. -/
  call : τ → Call
  /-- The number of calls of `returnFrame`. -/
  handBacks : ℕ
  /-- The number of times that the total went from positive to zero. -/
  emptied : ℕ

/-- A section takes the total from positive to zero. -/
def Empties (b b' : CameraStreamBuffer) : Prop := 0 < b.mRefCountSum ∧ b'.mRefCountSum = 0

instance (b b' : CameraStreamBuffer) : Decidable (Empties b b') :=
  inferInstanceAs (Decidable (_ ∧ _))

/-- `returnFrame` is called for a total that this call took to zero, or will be once the total
is read again. -/
def Call.owes : Call → ℕ
  | .cleared _ _ true => 1
  | .needReturn _ => 1
  | _ => 0

variable {τ : Type*} [Fintype τ] [DecidableEq τ]

/-- A thread goes on to another place. -/
def State.goto (st : State τ) (i : τ) (c : Call) : State τ :=
  { st with call := Function.update st.call i c }

/-- A section changes the buffer. -/
def State.change (st : State τ) (buf : CameraStreamBuffer) : State τ :=
  { st with buf := buf, emptied := st.emptied + if Empties st.buf buf then 1 else 0 }

/-- One section, one unlocked read, or one hand-back of one thread. An action that is not the
thread's next one does nothing. -/
def step (st : State τ) : τ × Action → State τ
  | (i, .incRefCount t) =>
    match st.call i with
    | .idle => st.change (st.buf.incRefCount t)
    | _ => st
  | (i, .decRefCount t) =>
    match st.call i with
    | .idle =>
      let (buf, needReturn) := st.buf.decRefCount t
      (st.change buf).goto i (if needReturn then .needReturn t else .idle)
    | _ => st
  | (i, .sampleSum t) =>
    match st.call i with
    | .idle => st.goto i (.sampled t st.buf.mRefCountSum)
    | _ => st
  | (i, .clearSection) =>
    match st.call i with
    | .sampled t oldSum =>
      let buf := st.buf.clearSection t
      (st.change buf).goto i (.cleared t oldSum (Empties st.buf buf))
    | _ => st
  | (i, .testSum) =>
    match st.call i with
    | .cleared t oldSum _ =>
      st.goto i (if st.buf.mRefCountSum = 0 ∧ oldSum > 0 then .needReturn t else .idle)
    | _ => st
  | (i, .returnFrame) =>
    match st.call i with
    | .needReturn _ => { st.goto i .idle with handBacks := st.handBacks + 1 }
    | _ => st

/-- A buffer that no thread is working on. -/
def start (buf : CameraStreamBuffer) : State τ := ⟨buf, fun _ => .idle, 0, 0⟩

/-- The number of hand-backs that are still to be made. -/
def owing (st : State τ) : ℕ := Tally.total fun i => (st.call i).owes

/-- The hand-backs made and still to be made are the times that the total went from positive to
zero. -/
def Exact (st : State τ) : Prop := st.handBacks + owing st = st.emptied

/-- A thread is between the two reads of `clearRefCount`, and past its section it has seen the
buffer in use. -/
def Call.Between : Call → Prop
  | .sampled _ _ => True
  | .cleared _ oldSum _ => 0 < oldSum
  | _ => False

instance : DecidablePred Call.Between
  | .sampled _ _ => inferInstanceAs (Decidable True)
  | .cleared _ oldSum _ => inferInstanceAs (Decidable (0 < oldSum))
  | .idle | .needReturn _ => inferInstanceAs (Decidable False)

/-- The condition on a step: if it takes the total to zero or from zero, no other thread is
between the two reads of `clearRefCount`. -/
def Undisturbed (st : State τ) (a : τ × Action) : Prop :=
  (0 < st.buf.mRefCountSum ↔ 0 < (step st a).buf.mRefCountSum) ∨
    ∀ i ≠ a.1, ¬ (st.call i).Between

instance (st : State τ) (a : τ × Action) : Decidable (Undisturbed st a) :=
  inferInstanceAs (Decidable (_ ∨ _))

/-- The condition on a step that decides a hand-back: the two reads of `clearRefCount` agree with
what its section did. -/
def Agrees (st : State τ) : τ × Action → Prop
  | (i, .testSum) =>
    match st.call i with
    | .cleared _ oldSum emptied => emptied = true ↔ st.buf.mRefCountSum = 0 ∧ oldSum > 0
    | _ => True
  | _ => True

section Owing

variable (st : State τ) (i : τ)

omit [Fintype τ] in
/-- The calls after one thread has gone on. -/
@[simp] lemma call_goto (c : Call) (j : τ) :
    (st.goto i c).call j = if j = i then c else st.call j :=
  Function.update_apply _ _ _ _

/-- The hand-backs to be made after one thread has gone on. -/
lemma owing_goto (c : Call) : owing (st.goto i c) + (st.call i).owes = owing st + c.owes := by
  have hupdate : (fun j => ((st.goto i c).call j).owes) =
      Function.update (fun j => (st.call j).owes) i c.owes := by
    funext j
    by_cases h : j = i
    · subst h; simp
    · simp [h]
  have := Tally.total_update (fun j => (st.call j).owes) i c.owes
  rw [owing, hupdate]
  exact this

end Owing

/-- Going on keeps the hand-backs exact if the same number is owed as before. -/
lemma exact_goto {st : State τ} (h : Exact st) (i : τ) (c : Call) :
    Exact (st.goto i c) ↔ c.owes = (st.call i).owes := by
  have howing := owing_goto st i c
  have hmade : (st.goto i c).handBacks = st.handBacks := rfl
  have hemptied : (st.goto i c).emptied = st.emptied := rfl
  unfold Exact at h ⊢
  omega

/-- A section keeps the hand-backs exact if one is owed exactly when the section takes the total
from positive to zero. -/
lemma exact_change_goto {st : State τ} (h : Exact st) (i : τ) (buf : CameraStreamBuffer)
    (c : Call) (howes : (st.call i).owes = 0) :
    Exact ((st.change buf).goto i c) ↔ c.owes = if Empties st.buf buf then 1 else 0 := by
  have howing : owing ((st.change buf).goto i c) + (st.call i).owes = owing st + c.owes :=
    owing_goto (st.change buf) i c
  have hmade : ((st.change buf).goto i c).handBacks = st.handBacks := rfl
  have hemptied : ((st.change buf).goto i c).emptied =
      st.emptied + if Empties st.buf buf then 1 else 0 := rfl
  unfold Exact at h ⊢
  omega

/-- **The decisions that make the hand-backs exact.** From an exact state, a step leads to an
exact state unless it is the second read of a `clearRefCount` whose two reads do not agree with
what its section did.

**Proof sketch.** A section that takes the total from positive to zero adds one to both sides:
in `decRefCount` the lock makes the decision and the change one, and `clearRefCount` is counted
as owing until its second read. -/
theorem exact_step_iff {st : State τ} (hcounted : st.buf.Counted) (h : Exact st)
    (a : τ × Action) : Exact (step st a) ↔ Agrees st a := by
  obtain ⟨i, action⟩ := a
  cases action with
  | incRefCount t =>
    simp only [step, Agrees, iff_true]
    split
    · have hnot : ¬ Empties st.buf (st.buf.incRefCount t) := fun he => Nat.succ_ne_zero _ he.2
      simp only [Exact, State.change, if_neg hnot]
      exact h
    · exact h
  | decRefCount t =>
    simp only [step, Agrees, iff_true]
    split
    · next hidle =>
      rw [exact_change_goto h i _ _ (by rw [hidle]; rfl)]
      have hfires : (st.buf.decRefCount t).2 = true ↔ Empties st.buf (st.buf.decRefCount t).1 :=
        CameraStreamBuffer.decRefCount_fires t hcounted
      by_cases hneed : (st.buf.decRefCount t).2 = true
      · rw [if_pos hneed, if_pos (hfires.mp hneed)]
        rfl
      · rw [if_neg hneed, if_neg fun hc => hneed (hfires.mpr hc)]
        rfl
    · exact h
  | sampleSum t =>
    simp only [step, Agrees, iff_true]
    split
    · next hidle =>
      rw [exact_goto h, hidle]
      rfl
    · exact h
  | clearSection =>
    simp only [step, Agrees, iff_true]
    split
    · next t oldSum hsampled =>
      rw [exact_change_goto h i _ _ (by rw [hsampled]; rfl)]
      by_cases hempties : Empties st.buf (st.buf.clearSection t)
      · rw [decide_eq_true hempties, if_pos hempties]
        rfl
      · rw [decide_eq_false hempties, if_neg hempties]
        rfl
    · exact h
  | testSum =>
    simp only [step, Agrees]
    split
    · next t oldSum emptied hcleared =>
      rw [exact_goto h, hcleared]
      split_ifs with htest <;> cases emptied <;> simp [Call.owes, htest]
    · simpa using h
  | returnFrame =>
    simp only [step, Agrees, iff_true]
    split
    · next t hneed =>
      have howing := owing_goto st i .idle
      rw [hneed] at howing
      have hsame : owing { st.goto i .idle with handBacks := st.handBacks + 1 } =
          owing (st.goto i .idle) := rfl
      have hmade : st.handBacks + 1 + owing (st.goto i .idle) = st.emptied := by
        simp only [Call.owes] at howing
        unfold Exact at h
        omega
      exact hmade
    · exact h

/-! ### Undisturbed runs -/

/-- The reads of every `clearRefCount` that is under way still agree with its section, done or
to come. -/
structure Settled (st : State τ) : Prop where
  /-- The total agrees with the counters. -/
  counted : st.buf.Counted
  /-- A total read before the section is positive if and only if the total is. -/
  sampled : ∀ i t oldSum, st.call i = .sampled t oldSum →
    (0 < oldSum ↔ 0 < st.buf.mRefCountSum)
  /-- The second read would agree with the section. -/
  cleared : ∀ i t oldSum emptied, st.call i = .cleared t oldSum emptied →
    (emptied = true ↔ st.buf.mRefCountSum = 0 ∧ 0 < oldSum)

omit [Fintype τ] [DecidableEq τ] in
/-- A buffer that no thread is working on is settled. -/
lemma settled_start {buf : CameraStreamBuffer} (h : buf.Counted) :
    Settled (start buf : State τ) where
  counted := h
  sampled _ _ _ hc := absurd hc Call.noConfusion
  cleared _ _ _ _ hc := absurd hc Call.noConfusion

omit [Fintype τ] [DecidableEq τ] in
/-- In a settled state the reads agree with the sections. -/
lemma Settled.agrees {st : State τ} (h : Settled st) (a : τ × Action) : Agrees st a := by
  obtain ⟨i, action⟩ := a
  cases action with
  | testSum =>
    simp only [Agrees]
    split
    · next t oldSum emptied hcleared => exact h.cleared i t oldSum emptied hcleared
    · trivial
  | _ => trivial

omit [Fintype τ] in
/-- A change of the buffer by one thread, in step with the place it goes on to, keeps the state
settled if it leaves the total positive or zero, or if no other thread is between its reads. -/
lemma Settled.of_thread {st st' : State τ} (h : Settled st) (i : τ)
    (hother : ∀ j ≠ i, st'.call j = st.call j) (hcounted : st'.buf.Counted)
    (hsampled : ∀ t oldSum, st'.call i = .sampled t oldSum →
      (0 < oldSum ↔ 0 < st'.buf.mRefCountSum))
    (hcleared : ∀ t oldSum emptied, st'.call i = .cleared t oldSum emptied →
      (emptied = true ↔ st'.buf.mRefCountSum = 0 ∧ 0 < oldSum))
    (hundisturbed : (0 < st.buf.mRefCountSum ↔ 0 < st'.buf.mRefCountSum) ∨
      ∀ j ≠ i, ¬ (st.call j).Between) : Settled st' := by
  refine ⟨hcounted, fun j t oldSum hj => ?_, fun j t oldSum emptied hj => ?_⟩
  · by_cases hji : j = i
    · subst hji
      exact hsampled t oldSum hj
    · rw [hother j hji] at hj
      rcases hundisturbed with hsum | hnone
      · rw [h.sampled j t oldSum hj, hsum]
      · have hnot := hnone j hji
        rw [hj] at hnot
        exact absurd trivial hnot
  · by_cases hji : j = i
    · subst hji
      exact hcleared t oldSum emptied hj
    · rw [hother j hji] at hj
      have hbefore := h.cleared j t oldSum emptied hj
      rcases hundisturbed with hsum | hnone
      · rw [hbefore]
        exact and_congr_left fun _ => by omega
      · have hold := hnone j hji
        rw [hj] at hold
        rw [hbefore]
        exact ⟨fun hc => absurd hc.2 hold, fun hc => absurd hc.2 hold⟩

omit [Fintype τ] in
/-- An undisturbed step keeps the state settled. -/
lemma Settled.step {st : State τ} (h : Settled st) {a : τ × Action} (ha : Undisturbed st a) :
    Settled (step st a) := by
  obtain ⟨i, action⟩ := a
  have hmoved : ∀ (c : Call) (j : τ), j ≠ i → Function.update st.call i c j = st.call j :=
    fun c j hj => Function.update_of_ne hj c st.call
  unfold Undisturbed at ha
  cases action with
  | incRefCount t =>
    simp only [RefCountRace.step] at ha ⊢
    split at ha
    · next hidle =>
      refine h.of_thread i (fun _ _ => rfl) (h.counted.incRefCount t) ?_ ?_ ha
      · exact fun _ _ hc => absurd (hidle.symm.trans hc) Call.noConfusion
      · exact fun _ _ _ hc => absurd (hidle.symm.trans hc) Call.noConfusion
    · exact h
  | decRefCount t =>
    simp only [RefCountRace.step] at ha ⊢
    split at ha
    · refine h.of_thread i (hmoved _) (h.counted.decRefCount t) (fun _ _ hc => ?_)
        (fun _ _ _ hc => ?_) ha
      all_goals
        rw [call_goto, if_pos rfl] at hc
        split_ifs at hc
    · exact h
  | sampleSum t =>
    simp only [RefCountRace.step] at ha ⊢
    split at ha
    · refine h.of_thread i (hmoved _) h.counted (fun t' oldSum hc => ?_) (fun _ _ _ hc => ?_) ha
      all_goals rw [call_goto, if_pos rfl] at hc
      · obtain ⟨-, rfl⟩ := Call.sampled.inj hc
        exact Iff.rfl
      · exact absurd hc Call.noConfusion
    · exact h
  | clearSection =>
    simp only [RefCountRace.step] at ha ⊢
    split at ha
    · next t oldSum hsampled =>
      have hsum := h.sampled i t oldSum hsampled
      refine h.of_thread i (hmoved _) (h.counted.clearSection t) (fun _ _ hc => ?_)
        (fun t' oldSum' emptied hc => ?_) ha
      all_goals rw [call_goto, if_pos rfl] at hc
      · exact absurd hc Call.noConfusion
      · obtain ⟨-, rfl, rfl⟩ := Call.cleared.inj hc
        rw [decide_eq_true_eq, hsum]
        exact and_comm
    · exact h
  | testSum =>
    simp only [RefCountRace.step] at ha ⊢
    split at ha
    · refine h.of_thread i (hmoved _) h.counted (fun _ _ hc => ?_) (fun _ _ _ hc => ?_) ha
      all_goals
        rw [call_goto, if_pos rfl] at hc
        split_ifs at hc
    · exact h
  | returnFrame =>
    simp only [RefCountRace.step] at ha ⊢
    split at ha
    · refine h.of_thread i (hmoved _) h.counted (fun _ _ hc => ?_) (fun _ _ _ hc => ?_) ha
      all_goals
        simp only [call_goto, if_true] at hc
        exact absurd hc Call.noConfusion
    · exact h

omit [Fintype τ] in
/-- Every step keeps the total in agreement with the counters. -/
lemma counted_step {st : State τ} (h : st.buf.Counted) (a : τ × Action) :
    (RefCountRace.step st a).buf.Counted := by
  obtain ⟨i, action⟩ := a
  cases action with
  | incRefCount t =>
    simp only [RefCountRace.step]
    split
    · exact h.incRefCount t
    · exact h
  | decRefCount t =>
    simp only [RefCountRace.step]
    split
    · exact h.decRefCount t
    · exact h
  | clearSection =>
    simp only [RefCountRace.step]
    split
    · exact h.clearSection _
    · exact h
  | sampleSum | testSum | returnFrame =>
    simp only [RefCountRace.step]
    split <;> exact h

omit [DecidableEq τ] in
/-- A buffer that no thread is working on owes no hand-back. -/
lemma exact_start (buf : CameraStreamBuffer) : Exact (start buf : State τ) := by
  simp [Exact, owing, start, Call.owes, Tally.total]

/-- **The runs with exact hand-backs.** In every state of a run the hand-backs made and still to
be made are the times that the total went from positive to zero, if and only if at every second
read of `clearRefCount` its two reads agree with what its section did. They do if the total is
taken to and from zero only while no other thread is between the two reads.

**Proof sketch.** The first part is the step lemma, applied along the run. For the second,
undisturbed steps keep the reads of every `clearRefCount` under way in agreement with its
section. -/
theorem always_exact {buf : CameraStreamBuffer} (h : buf.Counted) (run : List (τ × Action)) :
    (StepRun.Always step Exact (start buf) run ↔ StepRun.Along step Agrees (start buf) run) ∧
      (StepRun.Along step Undisturbed (start buf) run →
        StepRun.Always step Exact (start buf) run) := by
  have hexact : StepRun.Always step Exact (start buf) run ↔
      StepRun.Along step Agrees (start buf) run :=
    StepRun.always_iff_along (J := fun st : State τ => st.buf.Counted)
      (fun _ a hst => counted_step hst a) (fun _ a hst he => exact_step_iff hst he a) h
      (exact_start buf)
  refine ⟨hexact, fun hrun => hexact.mpr ?_⟩
  exact StepRun.along_of_along (I := Settled) (fun _ _ hst ha => Settled.step hst ha)
    (fun _ a hst _ => Settled.agrees hst a) (settled_start h) hrun

/-! ### A race -/

/-- A buffer with one preview reference. -/
def heldOnce : CameraStreamBuffer := CameraStreamBuffer.fresh.incRefCount .PREVIEW_FRAME_SYNC

/-- It agrees with its total. -/
lemma counted_heldOnce : heldOnce.Counted :=
  CameraStreamBuffer.idle_fresh.counted.incRefCount _

/-- Without another thread between its reads, `clearRefCount` hands the buffer back. -/
theorem always_exact_heldOnce :
    StepRun.Always step Exact (start heldOnce : State (Fin 2))
      [(0, .sampleSum .PREVIEW_FRAME_SYNC), (0, .clearSection), (0, .testSum), (0, .returnFrame),
        (1, .incRefCount .PREVIEW_FRAME_SYNC), (1, .decRefCount .PREVIEW_FRAME_SYNC),
        (1, .returnFrame)] :=
  (always_exact counted_heldOnce _).2 (by decide)

/-- A return between the first read of `clearRefCount` and its section hands the buffer back a
second time. -/
theorem not_always_exact_heldOnce :
    heldOnce.Counted ∧
      ¬ StepRun.Always step Exact (start heldOnce : State (Fin 2))
        [(0, .sampleSum .PREVIEW_FRAME_SYNC), (1, .decRefCount .PREVIEW_FRAME_SYNC),
          (1, .returnFrame), (0, .clearSection), (0, .testSum), (0, .returnFrame)] :=
  ⟨counted_heldOnce, fun h => absurd h.last (by unfold Exact; decide)⟩

end RefCountRace

end CameraHal
