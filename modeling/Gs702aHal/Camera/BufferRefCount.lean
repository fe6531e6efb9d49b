import Gs702aHal.Lib.StepRun
import Gs702aHal.Camera.StreamBuffer

set_option relaxedAutoImplicit false
set_option autoImplicit false

/-!
# The 32 bits of the reference counts

`BaseCameraAdapter::BufferRefCount` holds the counters of a `CameraStreamBuffer` as `uint32_t`:
one for each frame type, and a total that `incRefCount`, `decRefCount` and `clearRefCount` keep
beside them and `initRefCount` overwrites. This file runs any sequence of these calls on the
words. Two things are kept apart: what holds of every call, and what holds of a sequence as long
as no reference is taken at a total of `UINT32_MAX`. In the second case the words stand for the
natural numbers of `Gs702aHal.Camera.StreamBuffer`.

## Main definitions

* `CameraHal.BufferRefCount` — the counters as words, with the four operations.
* `CameraHal.BufferRefCount.Regular`, `CameraHal.BufferRefCount.Exact` — what every call does,
  and what a call should do.
* `CameraHal.BufferRefCount.InRange` — the condition on a call.

## Main results

* `CameraHal.BufferRefCount.toBuffer_call`, `CameraHal.BufferRefCount.toBuffer_final` — a call
  and a run in range on the words are those on the numbers.
* `CameraHal.BufferRefCount.calls_exact_iff` — the sequences whose calls do what they should.
* `CameraHal.BufferRefCount.along_inRange_of_length_lt` — short sequences are in range.
-/

namespace CameraHal

/-- The counters of a stream buffer. -/
structure BufferRefCount where
  /-- The number of references of all frame types. -/
  mRefCountSum : BitVec 32
  /-- The number of references of each frame type. -/
  mRefCount : FrameType → BitVec 32
  deriving DecidableEq

/-- The calls that are made on a registered buffer. -/
inductive RefCountCall
  | incRefCount (frameType : FrameType)
  | decRefCount (frameType : FrameType)
  | clearRefCount (frameType : FrameType)
  deriving DecidableEq, Repr

/-- The call gives references back. -/
def RefCountCall.Drops : RefCountCall → Prop
  | .incRefCount _ => False
  | _ => True

namespace BufferRefCount

/-- The constructor of `BufferRefCount`. -/
def fresh : BufferRefCount := ⟨0, fun _ => 0⟩

/-- `incRefCount`. -/
def incRefCount (b : BufferRefCount) (t : FrameType) : BufferRefCount :=
  ⟨b.mRefCountSum + 1, Function.update b.mRefCount t (b.mRefCount t + 1)⟩

/-- `decRefCount`. The result says whether `needReturn` was set, in which case `returnFrame`
is called. -/
def decRefCount (b : BufferRefCount) (t : FrameType) : BufferRefCount × Bool :=
  if b.mRefCount t > 0 then
    (⟨b.mRefCountSum - 1, Function.update b.mRefCount t (b.mRefCount t - 1)⟩,
      b.mRefCountSum - 1 == 0)
  else (b, false)

/-- `initRefCount`. The total is overwritten, the counters of the other frame types stay. -/
def initRefCount (b : BufferRefCount) (t : FrameType) (refcnt : BitVec 32) : BufferRefCount :=
  ⟨refcnt, Function.update b.mRefCount t refcnt⟩

/-- `clearRefCount`, uninterrupted. The result says whether `returnFrame` is called. -/
def clearRefCount (b : BufferRefCount) (t : FrameType) : BufferRefCount × Bool :=
  let oldSum := b.mRefCountSum
  let b' : BufferRefCount :=
    if b.mRefCount t > 0 then
      ⟨b.mRefCountSum - b.mRefCount t, Function.update b.mRefCount t 0⟩
    else b
  (b', b'.mRefCountSum == 0 && decide (oldSum > 0))

/-- A call: the counters after it, and whether it calls `returnFrame`. -/
def call (b : BufferRefCount) : RefCountCall → BufferRefCount × Bool
  | .incRefCount t => (b.incRefCount t, false)
  | .decRefCount t => b.decRefCount t
  | .clearRefCount t => b.clearRefCount t

/-- The counters after a call. -/
def step (b : BufferRefCount) (c : RefCountCall) : BufferRefCount := (b.call c).1

/-- The counters with which a buffer is registered: new, or after one `initRefCount`, which
`sendCommand` makes for the buffers beyond `mMaxQueueable`. -/
def registered : Option (FrameType × BitVec 32) → BufferRefCount
  | none => fresh
  | some (t, refcnt) => fresh.initRefCount t refcnt

/-- The counters of the frame types as numbers. -/
def counts (b : BufferRefCount) : Tally FrameType := Tally.ofWords b.mRefCount

/-- The total is the number of references of all frame types. -/
def Counted (b : BufferRefCount) : Prop := b.mRefCountSum.toNat = b.counts.total

instance (b : BufferRefCount) : Decidable b.Counted :=
  inferInstanceAs (Decidable (b.mRefCountSum.toNat = b.counts.total))

/-- The total is the number of references of all frame types, cut to 32 bits. -/
def Congruent (b : BufferRefCount) : Prop := b.mRefCountSum = BitVec.ofNat 32 b.counts.total

/-- The call takes the total from positive to zero. -/
def Empties (b : BufferRefCount) (c : RefCountCall) : Prop :=
  0 < b.mRefCountSum ∧ (b.step c).mRefCountSum = 0

/-- What every call does. A counter from which too much is subtracted would wrap below zero and
be greater than before. -/
structure Regular (b : BufferRefCount) (c : RefCountCall) : Prop where
  /-- No counter of a frame type wraps below zero. -/
  counter_le : c.Drops → ∀ t, (b.step c).mRefCount t ≤ b.mRefCount t
  /-- A call that gives references back hands the buffer back exactly if it empties it. -/
  drop_fires : c.Drops → ((b.call c).2 = true ↔ b.Empties c)
  /-- `decRefCount` of a frame type without references changes nothing. -/
  unheld : ∀ t, c = .decRefCount t → b.mRefCount t = 0 → b.call c = (b, false)

/-- What a call should do. -/
structure Exact (b : BufferRefCount) (c : RefCountCall) : Prop extends Regular b c where
  /-- The total does not wrap below zero. -/
  sum_le : c.Drops → (b.step c).mRefCountSum ≤ b.mRefCountSum
  /-- A call hands the buffer back exactly if it empties it. -/
  fires : (b.call c).2 = true ↔ b.Empties c

/-- The condition on a call: a reference is taken only at a total below `UINT32_MAX`. -/
def InRange (b : BufferRefCount) : RefCountCall → Prop
  | .incRefCount _ => b.mRefCountSum ≠ 0xffffffff#32
  | _ => True

/-! ### Every call -/

section Calls

variable (b : BufferRefCount) (c : RefCountCall) (t : FrameType)

/-- `clearRefCount` takes what the counter holds, also if that is nothing. -/
lemma clearRefCount_fst : (b.clearRefCount t).1 =
    ⟨b.mRefCountSum - b.mRefCount t, Function.update b.mRefCount t 0⟩ := by
  simp only [clearRefCount]
  split_ifs with hpos
  · rfl
  · have hzero : b.mRefCount t = 0 := by bv_omega
    rw [hzero, Function.update_eq_self_iff.mpr hzero.symm]
    simp

/-- Lowering one counter raises none. -/
lemma update_le {x : BitVec 32} (hle : x ≤ b.mRefCount t) (u : FrameType) :
    Function.update b.mRefCount t x u ≤ b.mRefCount u := by
  by_cases hu : u = t
  · subst hu
    simpa using hle
  · simp [hu]

/-- **What every call does.** -/
theorem regular : Regular b c where
  counter_le hdrops u := by
    cases c with
    | incRefCount t => exact hdrops.elim
    | decRefCount t =>
      simp only [step, call, decRefCount]
      split_ifs with hpos
      · exact update_le b t (by bv_omega) u
      · exact BitVec.le_refl _
    | clearRefCount t =>
      simp only [step, call, clearRefCount_fst]
      exact update_le b t (by bv_omega) u
  drop_fires hdrops := by
    cases c with
    | incRefCount t => exact hdrops.elim
    | decRefCount t =>
      simp only [Empties, step, call, decRefCount]
      split_ifs with hpos
      · simp only [beq_iff_eq]
        bv_omega
      · simp only [false_iff]
        bv_omega
    | clearRefCount t => simp [Empties, step, call, clearRefCount, and_comm]
  unheld t hc hzero := by
    subst hc
    simp [call, decRefCount, hzero]

variable {b}

/-- Every call keeps the total congruent. -/
lemma Congruent.step (h : b.Congruent) : (b.step c).Congruent := by
  unfold Congruent counts at h ⊢
  cases c with
  | incRefCount t =>
    simp only [BufferRefCount.step, call, incRefCount]
    rw [← Tally.sum_update b.mRefCount t (b.mRefCount t + 1) h]
    bv_omega
  | decRefCount t =>
    simp only [BufferRefCount.step, call, decRefCount]
    split_ifs with hpos
    · rw [← Tally.sum_update b.mRefCount t (b.mRefCount t - 1) h]
      bv_omega
    · exact h
  | clearRefCount t =>
    simp only [BufferRefCount.step, call, clearRefCount_fst]
    rw [← Tally.sum_update b.mRefCount t 0 h]
    bv_omega

/-- An agreeing total is congruent. -/
lemma Counted.congruent (h : b.Counted) : b.Congruent := by
  rw [Congruent, ← h, BitVec.ofNat_toNat, BitVec.setWidth_eq]

/-- An agreeing total is at least each counter. -/
lemma Counted.le_sum (h : b.Counted) : b.mRefCount t ≤ b.mRefCountSum := by
  have hle := b.counts.le_total t
  rw [← h] at hle
  exact hle

end Calls

/-! ### The counters as numbers -/

/-- The buffer with these counters as numbers. -/
def toBuffer (b : BufferRefCount) (vaddr : Ptr) : CameraStreamBuffer :=
  ⟨b.mRefCountSum.toNat, b.counts, vaddr⟩

end BufferRefCount

namespace CameraStreamBuffer

/-- A call on the numbers: the buffer after it, and whether it calls `returnFrame`. -/
def call (b : CameraStreamBuffer) : RefCountCall → CameraStreamBuffer × Bool
  | .incRefCount t => (b.incRefCount t, false)
  | .decRefCount t => b.decRefCount t
  | .clearRefCount t => b.clearRefCount t

/-- The buffer after a call. -/
def step (b : CameraStreamBuffer) (c : RefCountCall) : CameraStreamBuffer := (b.call c).1

/-- Every call keeps the total in agreement. -/
lemma Counted.step {b : CameraStreamBuffer} (h : b.Counted) (c : RefCountCall) :
    (b.step c).Counted := by
  cases c with
  | incRefCount t => exact h.incRefCount t
  | decRefCount t => exact h.decRefCount t
  | clearRefCount t => exact h.clearRefCount t

end CameraStreamBuffer

namespace BufferRefCount

section Numbers

variable {b : BufferRefCount} (t : FrameType) (vaddr : Ptr)

/-- The words agree if and only if the numbers do. -/
lemma counted_toBuffer : (b.toBuffer vaddr).Counted ↔ b.Counted := Iff.rfl

/-- A registered buffer, as numbers. -/
lemma toBuffer_registered (init : Option (FrameType × BitVec 32)) :
    (registered init).toBuffer NULL = init.elim CameraStreamBuffer.fresh fun i =>
      CameraStreamBuffer.fresh.initRefCount i.1 i.2.toNat := by
  cases init with
  | none => rfl
  | some i =>
    simp only [registered, toBuffer, initRefCount, counts, Tally.ofWords_update]
    rfl

/-- A registered buffer agrees. -/
lemma counted_registered (init : Option (FrameType × BitVec 32)) : (registered init).Counted := by
  rw [← counted_toBuffer NULL, toBuffer_registered]
  cases init with
  | none => exact CameraStreamBuffer.idle_fresh.counted
  | some i => exact CameraStreamBuffer.idle_fresh.counted_initRefCount i.1 i.2.toNat

/-- `incRefCount` below `UINT32_MAX`, as numbers. -/
lemma toBuffer_incRefCount (h : b.Counted) (hrange : b.mRefCountSum ≠ 0xffffffff#32) :
    (b.incRefCount t).toBuffer vaddr = (b.toBuffer vaddr).incRefCount t := by
  have hle := h.le_sum t
  have hsum : (b.mRefCountSum + 1).toNat = b.mRefCountSum.toNat + 1 := by bv_omega
  have hcount : (b.mRefCount t + 1).toNat = (b.mRefCount t).toNat + 1 := by bv_omega
  simp only [toBuffer, incRefCount, counts, Tally.ofWords_update, hsum, hcount]
  rfl

/-- `decRefCount`, as numbers. -/
lemma toBuffer_decRefCount (h : b.Counted) :
    ((b.decRefCount t).1.toBuffer vaddr, (b.decRefCount t).2) =
      (b.toBuffer vaddr).decRefCount t := by
  have hle := h.le_sum t
  have hpos : b.mRefCount t > 0 ↔ (b.toBuffer vaddr).mRefCount t > 0 := BitVec.lt_def
  unfold decRefCount CameraStreamBuffer.decRefCount
  by_cases ht : b.mRefCount t > 0
  · have hsum : (b.mRefCountSum - 1).toNat = b.mRefCountSum.toNat - 1 := by bv_omega
    have hcount : (b.mRefCount t - 1).toNat = (b.mRefCount t).toNat - 1 := by bv_omega
    have hneed : (b.mRefCountSum - 1 == 0) = (b.mRefCountSum.toNat - 1 == 0) := by
      rw [Bool.eq_iff_iff, beq_iff_eq, beq_iff_eq]
      bv_omega
    rw [if_pos ht, if_pos (hpos.mp ht)]
    simp only [toBuffer, counts, Tally.ofWords_update, hsum, hcount, hneed]
    rfl
  · rw [if_neg ht, if_neg fun hc => ht (hpos.mpr hc)]

/-- `clearRefCount`, as numbers. -/
lemma toBuffer_clearRefCount (h : b.Counted) :
    ((b.clearRefCount t).1.toBuffer vaddr, (b.clearRefCount t).2) =
      (b.toBuffer vaddr).clearRefCount t := by
  have hle := h.le_sum t
  have hsum : (b.mRefCountSum - b.mRefCount t).toNat =
      b.mRefCountSum.toNat - (b.mRefCount t).toNat := by bv_omega
  have hsection : (b.clearRefCount t).1.toBuffer vaddr =
      ((b.toBuffer vaddr).clearRefCount t).1 := by
    simp only [clearRefCount_fst, CameraStreamBuffer.clearRefCount,
      CameraStreamBuffer.clearSection_eq, toBuffer, counts, Tally.ofWords_update, hsum]
    rfl
  -- both reads of the total are zero on the words exactly when they are on the numbers
  have hread := congrArg CameraStreamBuffer.mRefCountSum hsection
  have hwords : (b.clearRefCount t).2 = true ↔ b.Empties (.clearRefCount t) :=
    (regular b (.clearRefCount t)).drop_fires trivial
  have hfires : (b.clearRefCount t).2 = ((b.toBuffer vaddr).clearRefCount t).2 := by
    rw [Bool.eq_iff_iff, hwords, CameraStreamBuffer.clearRefCount_fires, ← hread]
    simp only [Empties, step, call, toBuffer]
    bv_omega
  rw [hsection, hfires]

/-- **A call in range on the words is the call on the numbers.** -/
theorem toBuffer_call (h : b.Counted) {c : RefCountCall} (hrange : b.InRange c) :
    ((b.call c).1.toBuffer vaddr, (b.call c).2) = (b.toBuffer vaddr).call c := by
  cases c with
  | incRefCount t => exact congrArg (·, false) (toBuffer_incRefCount t vaddr h hrange)
  | decRefCount t => exact toBuffer_decRefCount t vaddr h
  | clearRefCount t => exact toBuffer_clearRefCount t vaddr h

/-- A call in range keeps the total in agreement. -/
lemma Counted.step (h : b.Counted) {c : RefCountCall} (hrange : b.InRange c) :
    (b.step c).Counted := by
  have hcall := congrArg Prod.fst (toBuffer_call NULL h hrange)
  have hnumbers : ((b.toBuffer NULL).step c).Counted := ((counted_toBuffer NULL).mpr h).step c
  rw [CameraStreamBuffer.step, ← hcall] at hnumbers
  exact hnumbers

/-- **A run in range on the words is the run on the numbers.** -/
theorem toBuffer_final (h : b.Counted) {run : List RefCountCall}
    (hrun : StepRun.Along step InRange b run) :
    (StepRun.final step b run).toBuffer vaddr =
      StepRun.final CameraStreamBuffer.step (b.toBuffer vaddr) run := by
  refine (StepRun.simulates_of_along (R := fun b buf => b.Counted ∧ b.toBuffer vaddr = buf)
    (fun b buf c hb hrange => ?_) ⟨h, rfl⟩ hrun).2
  obtain ⟨hcounted, rfl⟩ := hb
  exact ⟨hcounted.step hrange, congrArg Prod.fst (toBuffer_call vaddr hcounted hrange)⟩

end Numbers

/-! ### Sequences of calls -/

section Sequences

variable {b : BufferRefCount} {c : RefCountCall}

/-- A call in range does what it should. -/
lemma exact_of_inRange (h : b.Counted) (hrange : b.InRange c) : Exact b c where
  toRegular := regular b c
  sum_le hdrops := by
    -- no counter has grown, so neither has their sum
    have htotal : (b.step c).counts.total ≤ b.counts.total :=
      Finset.sum_le_sum fun t _ => (regular b c).counter_le hdrops t
    rw [BitVec.le_def, h, h.step hrange]
    exact htotal
  fires := by
    cases c with
    | incRefCount t =>
      simp only [InRange] at hrange
      simp only [Empties, BufferRefCount.step, call, incRefCount, Bool.false_eq_true, false_iff]
      bv_omega
    | decRefCount t => exact (regular b _).drop_fires trivial
    | clearRefCount t => exact (regular b _).drop_fires trivial

/-- A call that does what it should is in range. -/
lemma Exact.inRange (h : Exact b c) : b.InRange c := by
  cases c with
  | incRefCount t =>
    intro hfull
    have hempties : b.Empties (.incRefCount t) := by
      simp only [Empties, BufferRefCount.step, call, incRefCount, hfull]
      decide
    exact Bool.false_ne_true (h.fires.mpr hempties)
  | _ => trivial

/-- **The sequences whose calls do what they should.** After any sequence of calls on a
registered buffer the total is the number of references cut to 32 bits, and each call is regular.
The total is the number of references throughout and each call does what it should if and only if
no reference is taken at a total of `UINT32_MAX`.

**Proof sketch.** Each call changes the total and one counter by the same amount, which keeps the
total congruent. In range a call on the words is the call on the numbers, where the total stays
in agreement; out of range it takes the total from positive to zero without a hand-back. -/
theorem calls_exact_iff (init : Option (FrameType × BitVec 32)) (run : List RefCountCall) :
    (StepRun.Always step Congruent (registered init) run ∧
        StepRun.Along step Regular (registered init) run) ∧
      (StepRun.Always step Counted (registered init) run ∧
          StepRun.Along step Exact (registered init) run ↔
        StepRun.Along step InRange (registered init) run) := by
  have hstart := counted_registered init
  have hregular : StepRun.Along step Regular (registered init) run :=
    StepRun.along_of_forall regular _ run
  refine ⟨⟨?_, hregular⟩, ?_, ?_⟩
  · exact StepRun.always_of_along (fun _ c h _ => h.step c) hstart.congruent hregular
  · rintro ⟨-, hexact⟩
    exact hexact.imp fun _ _ h => h.inRange
  · intro hrange
    exact ⟨StepRun.always_of_along (fun _ _ h => h.step) hstart hrange,
      StepRun.along_of_along (I := Counted) (fun _ _ h => h.step)
        (fun _ _ h => exact_of_inRange h) hstart hrange⟩

/-- **Short sequences are in range.** It takes as many calls as there are numbers from the total
to `2 ^ 32` to leave the range. -/
theorem along_inRange_of_length_lt (h : b.Counted) {run : List RefCountCall}
    (hlength : b.mRefCountSum.toNat + run.length < 2 ^ 32) :
    StepRun.Along step InRange b run := by
  induction run generalizing b with
  | nil => trivial
  | cons c run ih =>
    rw [List.length_cons] at hlength
    have hrange : b.InRange c := by
      cases c with
      | incRefCount t =>
        intro hfull
        have : (0xffffffff#32).toNat = 2 ^ 32 - 1 := rfl
        rw [hfull] at hlength
        omega
      | _ => trivial
    have hgrowth : (b.step c).mRefCountSum.toNat ≤ b.mRefCountSum.toNat + 1 := by
      cases c with
      | incRefCount t =>
        simp only [BufferRefCount.step, call, incRefCount]
        bv_omega
      | decRefCount t =>
        exact Nat.le_succ_of_le ((exact_of_inRange h hrange).sum_le trivial)
      | clearRefCount t =>
        exact Nat.le_succ_of_le ((exact_of_inRange h hrange).sum_le trivial)
    exact ⟨hrange, ih (h.step hrange) (by omega)⟩

/-! ### A full total -/

/-- `incRefCount` of one frame type, repeated. -/
lemma final_replicate_incRefCount (b : BufferRefCount) (t : FrameType) (n : ℕ) :
    StepRun.final step b (List.replicate n (.incRefCount t)) =
      ⟨b.mRefCountSum + BitVec.ofNat 32 n,
        Function.update b.mRefCount t (b.mRefCount t + BitVec.ofNat 32 n)⟩ := by
  induction n generalizing b with
  | zero => simp
  | succ n ih =>
    have hadd : ∀ x : BitVec 32, x + 1 + BitVec.ofNat 32 n = x + BitVec.ofNat 32 (n + 1) := by
      intro x
      rw [BitVec.ofNat_add]
      grind
    rw [List.replicate_succ, StepRun.final_cons, ih]
    simp only [step, call, incRefCount, Function.update_self, Function.update_idem, hadd]

/-- A number of preview references and as many video references. -/
def halves (n : ℕ) : List RefCountCall :=
  List.replicate n (.incRefCount .PREVIEW_FRAME_SYNC) ++
    List.replicate n (.incRefCount .VIDEO_FRAME_SYNC)

/-- The counters of a new buffer after these calls. -/
lemma final_halves (n : ℕ) : StepRun.final step (registered none) (halves n) =
    ⟨BitVec.ofNat 32 n + BitVec.ofNat 32 n,
      Function.update (Function.update (fun _ => 0) .PREVIEW_FRAME_SYNC (BitVec.ofNat 32 n))
        .VIDEO_FRAME_SYNC (BitVec.ofNat 32 n)⟩ := by
  rw [halves, StepRun.final_append, final_replicate_incRefCount, final_replicate_incRefCount]
  simp [registered, fresh]

/-- With `2 ^ 31` references of each of two frame types the total is zero: it does not agree, the
last call has emptied the buffer without handing it back, and the next `decRefCount` wraps the
total below zero. -/
theorem not_calls_exact_halves :
    ¬ StepRun.Always step Counted (registered none) (halves (2 ^ 31)) ∧
      ¬ StepRun.Along step Exact (registered none) (halves (2 ^ 31)) ∧
      (StepRun.final step (registered none) (halves (2 ^ 31))).mRefCountSum = 0 ∧
      ((StepRun.final step (registered none) (halves (2 ^ 31))).step
        (.decRefCount .PREVIEW_FRAME_SYNC)).mRefCountSum = 0xffffffff#32 := by
  have hnot : ¬ (StepRun.final step (registered none) (halves (2 ^ 31))).Counted := by
    rw [final_halves]
    decide
  refine ⟨fun h => hnot h.last, fun h => hnot ?_, ?_, ?_⟩
  · -- a sequence of exact calls is in range, so the total would agree after it
    have hrange := h.imp fun _ _ h => h.inRange
    exact (StepRun.always_of_along (fun _ _ h => h.step) (counted_registered none) hrange).last
  · rw [final_halves]
    decide
  · rw [final_halves]
    decide

end Sequences

end BufferRefCount

end CameraHal
