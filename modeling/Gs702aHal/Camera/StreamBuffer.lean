import Mathlib.Data.Fintype.Pi
import Gs702aHal.Lib.Tally
import Gs702aHal.Camera.Types

set_option relaxedAutoImplicit false
set_option autoImplicit false

/-!
# The reference counts of one stream buffer

`BaseCameraAdapter::CameraStreamBuffer`: a buffer of a camera stream counts the references
that consumers hold on it, by frame type and in total, and is handed back to the producer
(`returnFrame`) when its last reference is dropped. The functions of this file are the
uninterrupted calls; their interleavings are in `Gs702aHal.Camera.RefCountRace`.

The `uint32_t` counters are natural numbers here: each unit is one delivery that has not been
returned. Their 32 bits are in `Gs702aHal.Camera.BufferRefCount`.

## Main definitions

* `CameraHal.CameraStreamBuffer` — the counters and the mapped address of a buffer.
* `CameraHal.CameraStreamBuffer.incRefCount`, `decRefCount`, `clearRefCount`,
  `initRefCount` — the operations; the Boolean result says that `returnFrame` is called.
* `CameraHal.CameraStreamBuffer.Counted` — the total agrees with the counters.

## Main results

* `CameraHal.CameraStreamBuffer.decRefCount_fires`,
  `CameraHal.CameraStreamBuffer.clearRefCount_fires` — on an agreeing buffer, a call hands
  the buffer back exactly if it takes the total from positive to zero.
-/

namespace CameraHal

/-- A buffer of a stream, without the links to its address and its stream, which are its
place in the stream's table. -/
structure CameraStreamBuffer where
  /-- The number of references of all frame types. -/
  mRefCountSum : ℕ
  /-- The number of references of each frame type. -/
  mRefCount : Tally FrameType
  /-- The mapped address. -/
  mVaddr : Ptr
  deriving DecidableEq

namespace CameraStreamBuffer

/-- A new buffer: no references, no mapped address. -/
def fresh : CameraStreamBuffer := ⟨0, fun _ => 0, NULL⟩

/-- `setVaddr`. -/
def setVaddr (b : CameraStreamBuffer) (vaddr : Ptr) : CameraStreamBuffer :=
  { b with mVaddr := vaddr }

/-- `incRefCount`. -/
def incRefCount (b : CameraStreamBuffer) (t : FrameType) : CameraStreamBuffer :=
  { b with mRefCountSum := b.mRefCountSum + 1, mRefCount := b.mRefCount.take t }

/-- `decRefCount`. The result says whether `needReturn` was set, in which case `returnFrame`
is called. -/
def decRefCount (b : CameraStreamBuffer) (t : FrameType) : CameraStreamBuffer × Bool :=
  if b.mRefCount t > 0 then
    ({ b with mRefCountSum := b.mRefCountSum - 1, mRefCount := b.mRefCount.give t },
      b.mRefCountSum - 1 == 0)
  else (b, false)

/-- `initRefCount`. The counters of the other frame types stay. -/
def initRefCount (b : CameraStreamBuffer) (t : FrameType) (refcnt : ℕ) : CameraStreamBuffer :=
  { b with mRefCountSum := refcnt, mRefCount := Function.update b.mRefCount t refcnt }

/-- The locked section of `clearRefCount`. -/
def clearSection (b : CameraStreamBuffer) (t : FrameType) : CameraStreamBuffer :=
  if b.mRefCount t > 0 then
    { b with mRefCountSum := b.mRefCountSum - b.mRefCount t, mRefCount := b.mRefCount.wipe t }
  else b

/-- `clearRefCount`: the total is read before the locked section and after it. The result
says whether `returnFrame` is called. -/
def clearRefCount (b : CameraStreamBuffer) (t : FrameType) : CameraStreamBuffer × Bool :=
  let oldSum := b.mRefCountSum
  let b' := b.clearSection t
  (b', b'.mRefCountSum == 0 && decide (oldSum > 0))

/-- The total is the number of references of all frame types. -/
def Counted (b : CameraStreamBuffer) : Prop := b.mRefCountSum = b.mRefCount.total

instance (b : CameraStreamBuffer) : Decidable b.Counted :=
  inferInstanceAs (Decidable (b.mRefCountSum = b.mRefCount.total))

/-- The buffer holds no references at all. -/
def Idle (b : CameraStreamBuffer) : Prop := b.mRefCountSum = 0 ∧ ∀ t, b.mRefCount t = 0

/-- A new buffer holds no references. -/
lemma idle_fresh : Idle fresh := ⟨rfl, fun _ => rfl⟩

/-- A buffer without references agrees. -/
lemma Idle.counted {b : CameraStreamBuffer} (h : b.Idle) : b.Counted :=
  h.1.trans ((Tally.total_eq_zero _).mpr h.2).symm

section Counters

variable (b : CameraStreamBuffer) (t u : FrameType)

/-- The counters after `incRefCount`. -/
lemma mRefCount_incRefCount :
    (b.incRefCount t).mRefCount u = b.mRefCount u + if u = t then 1 else 0 := by
  by_cases h : u = t
  · subst h; simp [incRefCount, Tally.take]
  · simp [incRefCount, Tally.take, h]

/-- The counters after `decRefCount`. -/
lemma mRefCount_decRefCount :
    (b.decRefCount t).1.mRefCount u = b.mRefCount u - if u = t then 1 else 0 := by
  unfold decRefCount
  split_ifs with hpos h h
  · subst h; simp [Tally.give]
  · simp [Tally.give, h]
  · subst h; simp only; omega
  · rfl

/-- The locked section of `clearRefCount` takes what the counter holds, also if that is nothing. -/
lemma clearSection_eq : b.clearSection t =
    { b with mRefCountSum := b.mRefCountSum - b.mRefCount t, mRefCount := b.mRefCount.wipe t } := by
  unfold clearSection
  split_ifs with hpos
  · rfl
  · have hzero : b.mRefCount t = 0 := by omega
    rw [Tally.wipe, Function.update_eq_self_iff.mpr hzero.symm, hzero]
    rfl

/-- The counters after `clearRefCount`. -/
lemma mRefCount_clearRefCount :
    (b.clearRefCount t).1.mRefCount u = if u = t then 0 else b.mRefCount u := by
  simp only [clearRefCount, clearSection_eq]
  by_cases h : u = t
  · subst h; simp [Tally.wipe]
  · simp [Tally.wipe, h]

variable {b}

/-- `incRefCount` keeps the total in agreement. -/
lemma Counted.incRefCount (h : b.Counted) : (b.incRefCount t).Counted := by
  have := b.mRefCount.total_take t
  simp only [Counted, CameraStreamBuffer.incRefCount] at h ⊢
  omega

/-- `decRefCount` keeps the total in agreement. -/
lemma Counted.decRefCount (h : b.Counted) : (b.decRefCount t).1.Counted := by
  unfold CameraStreamBuffer.decRefCount
  split_ifs with hpos
  · have := b.mRefCount.total_give t hpos
    simp only [Counted] at h ⊢
    omega
  · exact h

/-- The locked section of `clearRefCount` keeps the total in agreement. -/
lemma Counted.clearSection (h : b.Counted) : (b.clearSection t).Counted := by
  have := b.mRefCount.total_wipe t
  simp only [Counted, clearSection_eq] at h ⊢
  omega

/-- `clearRefCount` keeps the total in agreement. -/
lemma Counted.clearRefCount (h : b.Counted) : (b.clearRefCount t).1.Counted :=
  h.clearSection t

/-- `initRefCount` of a buffer without references leaves the total in agreement. -/
lemma Idle.counted_initRefCount (h : b.Idle) (refcnt : ℕ) :
    (b.initRefCount t refcnt).Counted := by
  have hupdate := b.mRefCount.total_update t refcnt
  have htotal := (Tally.total_eq_zero b.mRefCount).mpr h.2
  have hcount := h.2 t
  simp only [Counted, CameraStreamBuffer.initRefCount]
  omega

/-- An agreeing buffer has a positive total if and only if it has a reference. -/
lemma Counted.sum_pos (h : b.Counted) : 0 < b.mRefCountSum ↔ ∃ t, 0 < b.mRefCount t := by
  rw [h, Tally.total_pos]

/-- **`decRefCount` hands the buffer back exactly if it drops the last reference.** -/
theorem decRefCount_fires (h : b.Counted) :
    (b.decRefCount t).2 = true ↔ 0 < b.mRefCountSum ∧ (b.decRefCount t).1.mRefCountSum = 0 := by
  have hle := b.mRefCount.le_total t
  simp only [Counted] at h
  unfold decRefCount
  split_ifs with hpos
  · simp only [beq_iff_eq]
    omega
  · simp only [false_iff]
    omega

/-- **An uninterrupted `clearRefCount` hands the buffer back exactly if it drops the last
reference.** -/
theorem clearRefCount_fires :
    (b.clearRefCount t).2 = true ↔
      0 < b.mRefCountSum ∧ (b.clearRefCount t).1.mRefCountSum = 0 := by
  simp [clearRefCount, and_comm]

end Counters

end CameraStreamBuffer

end CameraHal
