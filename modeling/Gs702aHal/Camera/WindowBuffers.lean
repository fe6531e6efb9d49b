import Mathlib.Algebra.Order.Interval.Finset.SuccPred
import Mathlib.Data.Finset.Card
import Mathlib.Data.Nat.SuccPred
import Mathlib.Order.Interval.Finset.Nat
import Gs702aHal.Lib.KeyedVector
import Gs702aHal.Lib.StepRun
import Gs702aHal.Camera.Types

set_option relaxedAutoImplicit false
set_option autoImplicit false

/-!
# The buffers of the native window

`ANativeWindowDisplayAdapter` takes buffers from the native window (`dequeue_buffer`), lends them to
the camera adapter, and gives them back to the window (`enqueue_buffer`, `cancel_buffer`). The map
`mFramesWithCameraAdapterMap` should hold exactly the buffers that the window has handed out.

The window is not part of the code. What its calls return is given with each operation; a call that
returns an error has no effect, and the window hands out a buffer only while it has it. A buffer is
known by its gralloc handle, and the address of the handle is identified with it.

## Main definitions

* `CameraHal.ANativeWindowDisplayAdapter` — the adapter's arrays and its map, with what the window
  has handed out.
* `CameraHal.ANativeWindowDisplayAdapter.allocateBuffer`, `PostFrame`, `handleFrameReturn`,
  `returnBuffersToWindow`, `freeBuffer` — the functions of the source.
* `CameraHal.ANativeWindowDisplayAdapter.Partitioned` — the map holds what the window has handed
  out, and the window was only given such buffers.
* `CameraHal.ANativeWindowDisplayAdapter.Careful` — the conditions on one operation.

## Main results

* `CameraHal.ANativeWindowDisplayAdapter.always_partitioned` — the map is right throughout the runs
  whose operations meet the conditions.
-/

namespace CameraHal

open Status

/-- `ENODEV`. The window's errors are negative, but the code compares them with this. -/
def ENODEV : Status := 19#32

/-- `LOCK_BUFFER_TRIES`. -/
def LOCK_BUFFER_TRIES : ℕ := 5

/-- A call of `enqueue_buffer` or `cancel_buffer`: for which buffer, `none` being an address that
was never set, and whether the window had handed it out. -/
structure Give where
  buffer : Option Ptr
  dequeued : Bool
  deriving DecidableEq

/-- The state of the display adapter around its buffers. -/
structure ANativeWindowDisplayAdapter where
  /-- `mANativeWindow` is not `NULL`. -/
  mANativeWindow : Bool
  mBufferCount : ℕ
  /-- The arrays, unless they are `NULL`; an entry is `none` until it is set. -/
  mBufferHandleMap : Option (List (Option Ptr))
  mGrallocHandleMap : Option (List (Option Ptr))
  mFramesWithCameraAdapterMap : KeyedVector Ptr ℕ
  /-- The buffers that the window has handed out and not got back. -/
  dequeued : Finset Ptr
  /-- What the window was given so far. -/
  given : List Give
  /-- A null pointer was used, which ends the process. -/
  crashed : Bool
  deriving DecidableEq

/-- What a call of `allocateBuffer` meets. -/
structure AllocateOutcome where
  set_usage : Status
  set_buffer_count : Status
  set_buffers_geometry : Status
  get_min_undequeued_buffer_count : Status
  /-- What `get_min_undequeued_buffer_count` stores, or `0` if it does not. -/
  undequeued : ℤ
  /-- The answers of `dequeue_buffer`, by index. -/
  dequeue : ℕ → Status × Ptr
  /-- The answers of `lock_buffer`, by index. -/
  lock_buffer : ℕ → Status
  /-- The answers of `cancel_buffer` in the loop that returns the rest, by index. -/
  cancel : ℕ → Status
  /-- Its answers in the loop after `fail`, by index. -/
  cleanUp : ℕ → Status
  /-- Its answers in `returnBuffersToWindow`, by position. -/
  giveBack : ℕ → Status

/-- What a call of `handleFrameReturn` meets. -/
structure ReturnOutcome where
  dequeue : Status × Ptr
  lock_buffer : Status
  /-- Whether an attempt of the gralloc mapper's `lock` succeeds. -/
  lock : ℕ → Bool

namespace ANativeWindowDisplayAdapter

/-! ### Calls of the window -/

/-- `dequeue_buffer`. A buffer that is out already cannot be handed out. -/
def dequeueBuffer (answer : Status × Ptr) (s : ANativeWindowDisplayAdapter) :
    Status × ANativeWindowDisplayAdapter :=
  if answer.1 ≠ NO_ERROR then (answer.1, s)
  else if answer.2 ∈ s.dequeued then (INVALID_OPERATION, s)
  else (NO_ERROR, { s with dequeued := insert answer.2 s.dequeued })

/-- `enqueue_buffer` and `cancel_buffer`. -/
def giveBuffer (err : Status) (buffer : Option Ptr) (s : ANativeWindowDisplayAdapter) :
    ANativeWindowDisplayAdapter :=
  { s with
    given := s.given ++ [⟨buffer, buffer.any (· ∈ s.dequeued)⟩]
    dequeued := if err = NO_ERROR then buffer.elim s.dequeued s.dequeued.erase else s.dequeued }

/-- The window is abandoned if the error is `ENODEV`. -/
def abandon (err : Status) (s : ANativeWindowDisplayAdapter) : ANativeWindowDisplayAdapter :=
  if err = ENODEV then { s with mANativeWindow := false } else s

/-- The process ends. -/
def crash (s : ANativeWindowDisplayAdapter) : ANativeWindowDisplayAdapter :=
  { s with crashed := true }

/-! ### The arrays -/

/-- `mBufferHandleMap[i]`. -/
def bufferAt (s : ANativeWindowDisplayAdapter) (i : ℕ) : Option Ptr :=
  s.mBufferHandleMap.bind fun buffers => buffers[i]?.join

/-- `mGrallocHandleMap[i]`. -/
def handleAt (s : ANativeWindowDisplayAdapter) (i : ℕ) : Option Ptr :=
  s.mGrallocHandleMap.bind fun handles => handles[i]?.join

/-- The loops that look for a buffer: its first index, or `mBufferCount`. -/
def indexOf (entry : ℕ → Option Ptr) (b : Ptr) (count : ℕ) : ℕ :=
  ((List.range count).find? fun i => entry i = some b).getD count

/-- `mFramesWithCameraAdapterMap.removeItem` for `mGrallocHandleMap[i]`. -/
def removeAt (i : ℕ) (s : ANativeWindowDisplayAdapter) : ANativeWindowDisplayAdapter :=
  match s.handleAt i with
  | none => s
  | some h => { s with
      mFramesWithCameraAdapterMap := s.mFramesWithCameraAdapterMap.removeItem h }

/-- A dequeued buffer is stored in the arrays and in the map. -/
def store (i : ℕ) (b : Ptr) (s : ANativeWindowDisplayAdapter) : ANativeWindowDisplayAdapter :=
  { s with
    mBufferHandleMap := s.mBufferHandleMap.map (·.set i (some b))
    mGrallocHandleMap := s.mGrallocHandleMap.map (·.set i (some b))
    mFramesWithCameraAdapterMap := s.mFramesWithCameraAdapterMap.add b i }

/-! ### The functions -/

/-- The loop of `returnBuffersToWindow` over the entries of the map, from a position on; with the
error that ends it, if one does. -/
def giveBackLoop (giveBack : ℕ → Status) : ℕ → List (Sigma fun _ : Ptr => ℕ) →
    ANativeWindowDisplayAdapter → Option Status × ANativeWindowDisplayAdapter
  | _, [], s => (none, s)
  | i, e :: rest, s =>
    let s := s.giveBuffer (giveBack i) (s.bufferAt e.2)
    if giveBack i ≠ NO_ERROR then (some (giveBack i), s.abandon (giveBack i))
    else giveBackLoop giveBack (i + 1) rest s

/-- `returnBuffersToWindow`. -/
def returnBuffersToWindow (giveBack : ℕ → Status) (s : ANativeWindowDisplayAdapter) :
    Status × ANativeWindowDisplayAdapter :=
  if s.mANativeWindow then
    if s.mGrallocHandleMap.isNone && s.mFramesWithCameraAdapterMap.size ≠ 0 then
      (NO_ERROR, s.crash)
    else
      match giveBackLoop giveBack 0 s.mFramesWithCameraAdapterMap.entries s with
      | (some err, s) => (-err, s)
      | (none, s) => (NO_ERROR, { s with mFramesWithCameraAdapterMap := ∅ })
  else (NO_ERROR, { s with mFramesWithCameraAdapterMap := ∅ })

/-- `freeBuffer` of `mGrallocHandleMap`. -/
def freeBuffer (giveBack : ℕ → Status) (s : ANativeWindowDisplayAdapter) :
    ANativeWindowDisplayAdapter :=
  let s := (s.returnBuffersToWindow giveBack).2
  if s.crashed then s else { s with mGrallocHandleMap := none, mBufferHandleMap := none }

/-- The loop of `allocateBuffer` that dequeues, over the indices that are left; with the index at
which it fails, if it does. -/
def dequeueLoop (o : AllocateOutcome) : List ℕ → ANativeWindowDisplayAdapter →
    Option ℕ × ANativeWindowDisplayAdapter
  | [], s => (none, s)
  | i :: rest, s =>
    let (err, s) := s.dequeueBuffer (o.dequeue i)
    if err ≠ NO_ERROR then (some i, s.abandon err)
    else dequeueLoop o rest (s.store i (o.dequeue i).2)

/-- The loop of `allocateBuffer` that returns the rest of the buffers. -/
def cancelLoop (o : AllocateOutcome) : List ℕ → ANativeWindowDisplayAdapter →
    Option ℕ × ANativeWindowDisplayAdapter
  | [], s => (none, s)
  | i :: rest, s =>
    let s := s.giveBuffer (o.cancel i) (s.bufferAt i)
    if o.cancel i ≠ NO_ERROR then (some i, s.abandon (o.cancel i))
    else cancelLoop o rest (s.removeAt i)

/-- The loop of `allocateBuffer` after `fail`. -/
def cleanUpLoop (o : AllocateOutcome) : List ℕ → ANativeWindowDisplayAdapter →
    ANativeWindowDisplayAdapter
  | [], s => s
  | start :: rest, s =>
    -- the loop does not ask whether there still is a window
    if !s.mANativeWindow then s.crash
    else
      let s := s.giveBuffer (o.cleanUp start) (s.bufferAt start)
      if o.cleanUp start ≠ NO_ERROR then s else cleanUpLoop o rest (s.removeAt start)

/-- `allocateBuffer` from its label `fail`. -/
def allocateFail (o : AllocateOutcome) (i : ℕ) (s : ANativeWindowDisplayAdapter) :
    ANativeWindowDisplayAdapter :=
  let s := cleanUpLoop o (List.range i) s
  if s.crashed then s else s.freeBuffer o.giveBack

/-- The number of buffers that are locked: `mBufferCount - undequeued`. -/
def lockedCount (numBufs : ℕ) (undequeued : ℤ) : ℤ := numBufs - undequeued

/-- The indices of the buffers that are returned at once. -/
def surplus (numBufs : ℕ) (undequeued : ℤ) : List ℕ :=
  if 0 ≤ lockedCount numBufs undequeued then
    List.range' (lockedCount numBufs undequeued).toNat
      (numBufs - (lockedCount numBufs undequeued).toNat)
  else []

/-- `allocateBuffer`; what it returns is `mGrallocHandleMap` or `NULL`. The answers of
`get_min_undequeued_buffer_count` and of `lock_buffer` are not looked at. -/
def allocateBuffer (numBufs : ℕ) (o : AllocateOutcome) (s : ANativeWindowDisplayAdapter) :
    Option (List (Option Ptr)) × ANativeWindowDisplayAdapter :=
  let s := { s with
    mBufferHandleMap := some (List.replicate numBufs none)
    mGrallocHandleMap := some (List.replicate numBufs none) }
  if !s.mANativeWindow then (none, s)
  else if o.set_usage ≠ NO_ERROR then (none, s.abandon o.set_usage)
  else if o.set_buffer_count ≠ NO_ERROR then (none, s.abandon o.set_buffer_count)
  else
    let s := { s with mBufferCount := numBufs }
    if o.set_buffers_geometry ≠ NO_ERROR then (none, s.abandon o.set_buffers_geometry)
    else
      match dequeueLoop o (List.range numBufs) s with
      | (some i, s) => (none, s.allocateFail o i)
      | (none, s) =>
        match cancelLoop o (surplus numBufs o.undequeued) s with
        | (some i, s) => (none, s.allocateFail o i)
        | (none, s) => (s.mGrallocHandleMap, s)

/-- `PostFrame`, given what `enqueue_buffer` or `cancel_buffer` returns. The frame is shown if the
display is started, not paused and not suspended; else it is cancelled. -/
def PostFrame (mBuffer : Ptr) (shown : Bool) (err : Status) (s : ANativeWindowDisplayAdapter) :
    Status × ANativeWindowDisplayAdapter :=
  if s.mGrallocHandleMap.isNone || mBuffer = NULL then (EINVAL, s)
  else if !s.mANativeWindow then (NO_ERROR, s.crash)
  else
    let i := indexOf s.handleAt mBuffer s.mBufferCount
    let s := s.giveBuffer err (s.bufferAt i)
    (if shown then err else NO_ERROR, { s with
      mFramesWithCameraAdapterMap := s.mFramesWithCameraAdapterMap.removeItem mBuffer })

/-- The loop that tries to lock a frame, from an attempt on, with the attempts that are left after
it. -/
def lockLoop (lock : ℕ → Bool) : ℕ → ℕ → Bool
  | 0, attempt => lock attempt
  | left + 1, attempt => if lock attempt then true else lockLoop lock left (attempt + 1)

/-- `handleFrameReturn`. -/
def handleFrameReturn (o : ReturnOutcome) (s : ANativeWindowDisplayAdapter) :
    Bool × ANativeWindowDisplayAdapter :=
  if !s.mANativeWindow then (false, s)
  else
    let (err, s) := s.dequeueBuffer o.dequeue
    if err ≠ NO_ERROR then (false, s.abandon err)
    else if o.lock_buffer ≠ NO_ERROR then (false, s.abandon o.lock_buffer)
    else
      let i := indexOf s.bufferAt o.dequeue.2 s.mBufferCount
      -- without arrays, or beyond them, there is no handle to lock
      match s.handleAt i with
      | none => (false, s.crash)
      | some handle =>
        if !lockLoop o.lock LOCK_BUFFER_TRIES 0 then (false, s)
        else (true, { s with
          mFramesWithCameraAdapterMap := s.mFramesWithCameraAdapterMap.add handle i })

end ANativeWindowDisplayAdapter

/-- The operations of the display adapter on its buffers. -/
inductive BufferAction
  | allocateBuffer (numBufs : ℕ) (o : AllocateOutcome)
  | PostFrame (mBuffer : Ptr) (shown : Bool) (err : Status)
  | handleFrameReturn (o : ReturnOutcome)
  | returnBuffersToWindow (giveBack : ℕ → Status)
  | freeBuffer (giveBack : ℕ → Status)

namespace ANativeWindowDisplayAdapter

/-- One operation. Nothing follows a crash. -/
def step (s : ANativeWindowDisplayAdapter) (a : BufferAction) : ANativeWindowDisplayAdapter :=
  if s.crashed then s
  else match a with
    | .allocateBuffer numBufs o => (s.allocateBuffer numBufs o).2
    | .PostFrame mBuffer shown err => (s.PostFrame mBuffer shown err).2
    | .handleFrameReturn o => (s.handleFrameReturn o).2
    | .returnBuffersToWindow giveBack => (s.returnBuffersToWindow giveBack).2
    | .freeBuffer giveBack => s.freeBuffer giveBack

/-- A new display adapter that has got its window. -/
def new : ANativeWindowDisplayAdapter where
  mANativeWindow := true
  mBufferCount := 0
  mBufferHandleMap := none
  mGrallocHandleMap := none
  mFramesWithCameraAdapterMap := ∅
  dequeued := ∅
  given := []
  crashed := false

/-! ### Partitioned buffers -/

/-- Every buffer is either in the map, having been handed out by the window, or the window has it;
and whenever the window was given a buffer, it had handed it out. -/
structure Partitioned (s : ANativeWindowDisplayAdapter) : Prop where
  held : ∀ b, (s.mFramesWithCameraAdapterMap.find? b).isSome = true ↔ b ∈ s.dequeued
  given : ∀ g ∈ s.given, g.dequeued = true

/-- Of some answers of `cancel_buffer`, either all are good or already the first is not. -/
def AllOrNothing (count : ℕ) (giveBack : ℕ → Status) : Prop :=
  (∀ i < count, giveBack i = NO_ERROR) ∨ giveBack 0 ≠ NO_ERROR

/-- Fewer answers are needed for fewer buffers. -/
lemma AllOrNothing.mono {count count' : ℕ} {giveBack : ℕ → Status}
    (h : AllOrNothing count giveBack) (hle : count' ≤ count) : AllOrNothing count' giveBack :=
  h.imp_left fun hall i hi => hall i (hi.trans_le hle)

/-- All buffers are dequeued: no call fails, and each hands out another buffer. -/
def Dequeues (numBufs : ℕ) (o : AllocateOutcome) : Prop :=
  ∀ i < numBufs, (o.dequeue i).1 = NO_ERROR ∧ ∀ j < i, (o.dequeue j).2 ≠ (o.dequeue i).2

/-- The rest of the buffers is returned: no call fails. -/
def ReturnsRest (numBufs : ℕ) (o : AllocateOutcome) : Prop :=
  ∀ i ∈ surplus numBufs o.undequeued, o.cancel i = NO_ERROR

instance (numBufs : ℕ) (o : AllocateOutcome) : Decidable (Dequeues numBufs o) :=
  inferInstanceAs (Decidable (∀ i < numBufs, _ ∧ ∀ j < i, _))

instance (numBufs : ℕ) (o : AllocateOutcome) : Decidable (ReturnsRest numBufs o) :=
  inferInstanceAs (Decidable (∀ i ∈ surplus numBufs o.undequeued, _))

/-- The conditions on the answers to a call of `allocateBuffer`. If buffers are returned at once,
either all of these calls succeed; or already the first fails, without the window being abandoned
when no buffer was to be kept; or a call after `fail` fails for a buffer that was to be kept. And
if anything fails, the calls of `returnBuffersToWindow` are all or nothing. -/
structure CarefulAllocate (numBufs : ℕ) (o : AllocateOutcome) : Prop where
  cancels : Dequeues numBufs o → ReturnsRest numBufs o ∨
    (∃ i, (surplus numBufs o.undequeued).head? = some i ∧ o.cancel i ≠ NO_ERROR ∧
      ¬ (i = 0 ∧ o.cancel i = ENODEV)) ∨
    ∃ start, (∀ i ∈ surplus numBufs o.undequeued, start < i) ∧ o.cleanUp start ≠ NO_ERROR
  givesBack : ¬ (Dequeues numBufs o ∧ ReturnsRest numBufs o) → AllOrNothing numBufs o.giveBack

/-- The conditions on a call of `returnBuffersToWindow`: where the map is not empty, there is a
window, and its calls are all or nothing. -/
def CarefulReturn (s : ANativeWindowDisplayAdapter) (giveBack : ℕ → Status) : Prop :=
  s.mFramesWithCameraAdapterMap.size ≠ 0 →
    s.mANativeWindow = true ∧ AllOrNothing s.mFramesWithCameraAdapterMap.size giveBack

/-- The conditions on an operation. -/
def Careful (s : ANativeWindowDisplayAdapter) : BufferAction → Prop
  | .allocateBuffer numBufs o =>
    s.mFramesWithCameraAdapterMap.size = 0 ∧
      (s.mANativeWindow = true → o.set_usage = NO_ERROR → o.set_buffer_count = NO_ERROR →
        o.set_buffers_geometry = NO_ERROR → CarefulAllocate numBufs o)
  | .PostFrame mBuffer _ err =>
    s.mGrallocHandleMap.isSome = true → mBuffer ≠ NULL → s.mANativeWindow = true ∧
      (s.mFramesWithCameraAdapterMap.find? mBuffer).isSome = true ∧ err = NO_ERROR
  | .handleFrameReturn o =>
    s.mANativeWindow = true → o.dequeue.1 = NO_ERROR → o.dequeue.2 ∉ s.dequeued →
      o.lock_buffer = NO_ERROR ∧ (∃ attempt ≤ LOCK_BUFFER_TRIES, o.lock attempt = true) ∧
        ∃ i < s.mBufferCount, s.bufferAt i = some o.dequeue.2
  | .returnBuffersToWindow giveBack | .freeBuffer giveBack => s.CarefulReturn giveBack

/-! ### Parts of the functions -/

/-- A buffer that is in an array is found there. -/
lemma indexOf_spec {entry : ℕ → Option Ptr} {b : Ptr} {count : ℕ}
    (h : ∃ i < count, entry i = some b) :
    indexOf entry b count < count ∧ entry (indexOf entry b count) = some b := by
  obtain ⟨i, hi, hentry⟩ := h
  have hsome : ((List.range count).find? fun i => entry i = some b).isSome = true :=
    List.find?_isSome.mpr ⟨i, List.mem_range.mpr hi, decide_eq_true hentry⟩
  obtain ⟨j, hj⟩ := Option.isSome_iff_exists.mp hsome
  have hfound : entry j = some b := by
    simpa using List.find?_some hj
  rw [indexOf, hj]
  exact ⟨List.mem_range.mp (List.mem_of_find?_eq_some hj), hfound⟩

/-- A frame is locked if one of the attempts succeeds. -/
lemma lockLoop_of_exists {lock : ℕ → Bool} {left attempt k : ℕ} (hge : attempt ≤ k)
    (hle : k ≤ attempt + left) (hk : lock k = true) : lockLoop lock left attempt = true := by
  induction left generalizing attempt with
  | zero =>
    obtain rfl : attempt = k := by omega
    exact hk
  | succ left ih =>
    rw [lockLoop]
    split_ifs with hlock
    · rfl
    · have hne : attempt ≠ k := by
        rintro rfl
        exact hlock hk
      exact ih (by omega) (by omega)

/-! ### The invariant -/

/-- The buffers are partitioned, and, as long as there are arrays, an entry of the map leads to its
buffer. -/
structure Settled (s : ANativeWindowDisplayAdapter) : Prop extends Partitioned s where
  same : s.mBufferHandleMap = s.mGrallocHandleMap
  entry : s.mGrallocHandleMap.isSome = true → ∀ b i,
    s.mFramesWithCameraAdapterMap.find? b = some i → i < s.mBufferCount ∧ s.handleAt i = some b

/-- The two arrays agree. -/
lemma bufferAt_eq_handleAt {s : ANativeWindowDisplayAdapter}
    (h : s.mBufferHandleMap = s.mGrallocHandleMap) (i : ℕ) : s.bufferAt i = s.handleAt i := by
  rw [bufferAt, handleAt, h]

/-- The window does not matter to the invariant. -/
lemma Settled.abandon {s : ANativeWindowDisplayAdapter} (h : Settled s) (err : Status) :
    Settled (s.abandon err) := by
  unfold ANativeWindowDisplayAdapter.abandon
  split_ifs
  · exact ⟨⟨h.held, h.given⟩, h.same, h.entry⟩
  · exact h

/-- A crash changes nothing. -/
lemma Settled.crash {s : ANativeWindowDisplayAdapter} (h : Settled s) : Settled s.crash :=
  ⟨⟨h.held, h.given⟩, h.same, h.entry⟩

/-- The window is given a buffer that it had handed out. -/
lemma given_giveBuffer {s : ANativeWindowDisplayAdapter} (err : Status) {b : Ptr}
    (h : ∀ g ∈ s.given, g.dequeued = true) (hb : b ∈ s.dequeued) :
    ∀ g ∈ (s.giveBuffer err (some b)).given, g.dequeued = true := by
  intro g hg
  rcases List.mem_append.mp hg with hg | hg
  · exact h g hg
  · rw [List.mem_singleton.mp hg]
    exact decide_eq_true hb

/-- A buffer that the window does not take stays where it is. -/
lemma Settled.giveBuffer_of_error {s : ANativeWindowDisplayAdapter} (h : Settled s) {err : Status}
    (herr : err ≠ NO_ERROR) {b : Ptr} (hb : b ∈ s.dequeued) :
    Settled (s.giveBuffer err (some b)) := by
  refine ⟨⟨?_, given_giveBuffer err h.given hb⟩, h.same, h.entry⟩
  simp only [giveBuffer, if_neg herr]
  exact h.held

/-- What is in the map under a key. -/
lemma Settled.bufferAt_of_find {s : ANativeWindowDisplayAdapter} (h : Settled s)
    (harrays : s.mGrallocHandleMap.isSome = true) {b : Ptr} {i : ℕ}
    (hfind : s.mFramesWithCameraAdapterMap.find? b = some i) :
    s.bufferAt i = some b ∧ b ∈ s.dequeued := by
  refine ⟨(bufferAt_eq_handleAt h.same i).trans (h.entry harrays b i hfind).2, ?_⟩
  apply (h.held b).mp
  rw [hfind]
  rfl

/-- A buffer that the window takes leaves the map. -/
lemma Settled.giveBuffer {s : ANativeWindowDisplayAdapter} (h : Settled s) {b : Ptr}
    (hb : b ∈ s.dequeued) : Settled { s.giveBuffer NO_ERROR (some b) with
      mFramesWithCameraAdapterMap := s.mFramesWithCameraAdapterMap.removeItem b } := by
  refine ⟨⟨?_, given_giveBuffer NO_ERROR h.given hb⟩, h.same, ?_⟩
  · intro b'
    have hout : b' ∈ (s.giveBuffer NO_ERROR (some b)).dequeued ↔ b' ≠ b ∧ b' ∈ s.dequeued :=
      Finset.mem_erase
    dsimp only
    rw [hout, ← h.held b', KeyedVector.find?_removeItem]
    by_cases hb' : b' = b <;> simp [hb']
  · intro harrays b' i hi
    dsimp only at hi
    rw [KeyedVector.find?_removeItem] at hi
    split_ifs at hi
    exact h.entry harrays b' i hi

/-- A buffer that the window hands out is put into the map. -/
lemma Settled.takeBuffer {s : ANativeWindowDisplayAdapter} (h : Settled s) {b : Ptr} {i : ℕ}
    (hi : i < s.mBufferCount) (hb : s.handleAt i = some b) : Settled { s with
      dequeued := insert b s.dequeued
      mFramesWithCameraAdapterMap := s.mFramesWithCameraAdapterMap.add b i } := by
  refine ⟨⟨?_, h.given⟩, h.same, ?_⟩
  · intro b'
    dsimp only
    rw [KeyedVector.find?_add, Finset.mem_insert, ← h.held b']
    by_cases hb' : b' = b <;> simp [hb']
  · intro harrays b' j hj
    dsimp only at hj
    rw [KeyedVector.find?_add] at hj
    split_ifs at hj with hb'
    · obtain rfl := Option.some.inj hj
      rw [hb']
      exact ⟨hi, hb⟩
    · exact h.entry harrays b' j hj

/-! ### Posting a frame -/

/-- `PostFrame`. -/
lemma settled_PostFrame {s : ANativeWindowDisplayAdapter} (h : Settled s) {mBuffer : Ptr}
    (shown : Bool) {err : Status} (hc : s.Careful (.PostFrame mBuffer shown err)) :
    Settled (s.PostFrame mBuffer shown err).2 := by
  unfold PostFrame
  by_cases hnull : (s.mGrallocHandleMap.isNone || mBuffer = NULL) = true
  · rw [if_pos hnull]
    exact h
  · rw [if_neg hnull]
    simp only [Bool.or_eq_true, Option.isNone_iff_eq_none, decide_eq_true_eq, not_or] at hnull
    have harrays : s.mGrallocHandleMap.isSome = true := Option.isSome_iff_ne_none.mpr hnull.1
    obtain ⟨hwindow, hheld, rfl⟩ := hc harrays hnull.2
    rw [if_neg (by simp [hwindow])]
    obtain ⟨i, hfind⟩ := Option.isSome_iff_exists.mp hheld
    have hindex : s.bufferAt (indexOf s.handleAt mBuffer s.mBufferCount) = some mBuffer := by
      rw [bufferAt_eq_handleAt h.same]
      exact (indexOf_spec ⟨i, h.entry harrays mBuffer i hfind⟩).2
    dsimp only
    rw [hindex]
    exact h.giveBuffer (h.bufferAt_of_find harrays hfind).2

/-! ### The return of a frame -/

/-- `handleFrameReturn`. -/
lemma settled_handleFrameReturn {s : ANativeWindowDisplayAdapter} (h : Settled s)
    {o : ReturnOutcome} (hc : s.Careful (.handleFrameReturn o)) :
    Settled (s.handleFrameReturn o).2 := by
  unfold handleFrameReturn dequeueBuffer
  by_cases hwindow : s.mANativeWindow = true
  · rw [if_neg (by simp [hwindow])]
    by_cases herr : o.dequeue.1 = NO_ERROR
    · rw [if_neg (not_not_intro herr)]
      by_cases hout : o.dequeue.2 ∈ s.dequeued
      · rw [if_pos hout]
        exact h.abandon INVALID_OPERATION
      · rw [if_neg hout]
        obtain ⟨hlock_buffer, ⟨attempt, hle, hlock⟩, hfound⟩ := hc hwindow herr hout
        obtain ⟨i, hi, hbuffer⟩ := hfound
        obtain ⟨hlt, hentry⟩ := indexOf_spec ⟨i, hi, hbuffer⟩
        have hindex : s.handleAt (indexOf s.bufferAt o.dequeue.2 s.mBufferCount) =
            some o.dequeue.2 := (bufferAt_eq_handleAt h.same _).symm.trans hentry
        have hlocked : lockLoop o.lock LOCK_BUFFER_TRIES 0 = true :=
          lockLoop_of_exists (Nat.zero_le attempt) (by omega) hlock
        dsimp only
        rw [if_neg (not_not_intro rfl), if_neg (not_not_intro hlock_buffer)]
        split
        · rename_i hnone
          exact absurd (hindex.symm.trans hnone) (Option.some_ne_none _)
        · rename_i handle hsome
          obtain rfl : o.dequeue.2 = handle := Option.some.inj (hindex.symm.trans hsome)
          rw [if_neg (by simp [hlocked])]
          exact h.takeBuffer hlt hindex
    · rw [if_pos herr]
      dsimp only
      rw [if_pos herr]
      exact h.abandon o.dequeue.1
  · rw [if_pos (by simpa using hwindow)]
    exact h

/-! ### Giving the buffers back -/

/-- The loop of `returnBuffersToWindow` if the window takes every buffer. -/
lemma giveBackLoop_all {giveBack : ℕ → Status} {i : ℕ} {entries : List (Sigma fun _ : Ptr => ℕ)}
    {s : ANativeWindowDisplayAdapter}
    (hgood : ∀ k, i ≤ k → k < i + entries.length → giveBack k = NO_ERROR)
    (hin : ∀ e ∈ entries, s.bufferAt e.2 = some e.1 ∧ e.1 ∈ s.dequeued)
    (hnodup : (entries.map Sigma.fst).Nodup) (hgiven : ∀ g ∈ s.given, g.dequeued = true) :
    ∃ out given, giveBackLoop giveBack i entries s =
        (none, { s with dequeued := out, given := given }) ∧
      (∀ b, b ∈ out ↔ b ∈ s.dequeued ∧ b ∉ entries.map Sigma.fst) ∧
      ∀ g ∈ given, g.dequeued = true := by
  induction entries generalizing i s with
  | nil => exact ⟨s.dequeued, s.given, rfl, by simp, hgiven⟩
  | cons e rest ih =>
    obtain ⟨hbuffer, hout⟩ := hin e List.mem_cons_self
    obtain ⟨hnot, hrest⟩ := List.nodup_cons.mp hnodup
    have hfirst : giveBack i = NO_ERROR := by
      apply hgood i le_rfl
      rw [List.length_cons]
      omega
    have hsome : ∀ e' ∈ rest, (s.giveBuffer NO_ERROR (some e.1)).bufferAt e'.2 = some e'.1 ∧
        e'.1 ∈ (s.giveBuffer NO_ERROR (some e.1)).dequeued := by
      intro e' he'
      obtain ⟨hbuffer', hout'⟩ := hin e' (List.mem_cons_of_mem e he')
      refine ⟨hbuffer', Finset.mem_erase.mpr ⟨?_, hout'⟩⟩
      intro heq
      exact hnot (heq ▸ List.mem_map_of_mem he')
    have hlater : ∀ k, i + 1 ≤ k → k < i + 1 + rest.length → giveBack k = NO_ERROR := by
      intro k hge hlt
      apply hgood k (by omega)
      rw [List.length_cons]
      omega
    obtain ⟨out, given, hloop, hmem, hright⟩ :=
      ih hlater hsome hrest (given_giveBuffer NO_ERROR hgiven hout)
    refine ⟨out, given, ?_, ?_, hright⟩
    · rw [giveBackLoop, hfirst, if_neg (not_not_intro rfl), hbuffer, hloop]
      rfl
    · intro b
      have herase : b ∈ (s.giveBuffer NO_ERROR (some e.1)).dequeued ↔ b ≠ e.1 ∧ b ∈ s.dequeued :=
        Finset.mem_erase
      rw [hmem, herase, List.map_cons, List.mem_cons]
      tauto

/-- `returnBuffersToWindow`. -/
lemma settled_returnBuffersToWindow {s : ANativeWindowDisplayAdapter} (h : Settled s)
    {giveBack : ℕ → Status} (hc : s.CarefulReturn giveBack) :
    Settled (s.returnBuffersToWindow giveBack).2 := by
  have hkeys : ∀ b, b ∈ s.dequeued ↔ b ∈ s.mFramesWithCameraAdapterMap.keys := fun b =>
    (h.held b).symm.trans (s.mFramesWithCameraAdapterMap.mem_keys b).symm
  unfold returnBuffersToWindow
  by_cases hsize : s.mFramesWithCameraAdapterMap.size = 0
  · have hempty : s.mFramesWithCameraAdapterMap = ∅ :=
      KeyedVector.ext (List.eq_nil_of_length_eq_zero hsize)
    have hsame : Settled { s with mFramesWithCameraAdapterMap := ∅ } := by
      rw [← hempty]
      exact h
    simp only [hsize, ne_eq, not_true_eq_false, decide_false, Bool.and_false, Bool.false_eq_true,
      if_false]
    split_ifs
    · rw [hempty]
      exact hsame
    · exact hsame
  · obtain ⟨hwindow, hanswers⟩ := hc hsize
    rw [if_pos hwindow]
    by_cases harrays : s.mGrallocHandleMap.isSome = true
    · rw [if_neg (by simp [Option.isNone_iff_eq_none, Option.isSome_iff_ne_none.mp harrays])]
      have hin : ∀ e ∈ s.mFramesWithCameraAdapterMap.entries,
          s.bufferAt e.2 = some e.1 ∧ e.1 ∈ s.dequeued := fun e he =>
        h.bufferAt_of_find harrays (List.mem_dlookup s.mFramesWithCameraAdapterMap.nodupKeys he)
      rcases hanswers with hall | hfirst
      · have hgood : ∀ k, 0 ≤ k → k < 0 + s.mFramesWithCameraAdapterMap.entries.length →
            giveBack k = NO_ERROR := by
          intro k _ hk
          rw [Nat.zero_add] at hk
          exact hall k hk
        obtain ⟨out, given, hloop, hmem, hright⟩ := giveBackLoop_all hgood hin
          s.mFramesWithCameraAdapterMap.nodupKeys h.given
        rw [hloop]
        refine ⟨⟨fun b => ?_, hright⟩, h.same, fun _ b i hfind => ?_⟩
        · refine iff_of_false (by simp) fun hb => ?_
          obtain ⟨hb, hnot⟩ := (hmem b).mp hb
          exact hnot ((hkeys b).mp hb)
        · simp at hfind
      · -- the loop ends at its first buffer, which stays in the map
        cases hentries : s.mFramesWithCameraAdapterMap.entries with
        | nil => exact absurd (congrArg List.length hentries) hsize
        | cons e rest =>
          obtain ⟨hbuffer, hout⟩ := hin e (hentries ▸ List.mem_cons_self)
          rw [giveBackLoop, if_pos hfirst, hbuffer]
          exact (h.giveBuffer_of_error hfirst hout).abandon (giveBack 0)
    · rw [if_pos (by simp [hsize, Option.not_isSome_iff_eq_none.mp harrays])]
      exact h.crash

/-- `freeBuffer`. -/
lemma settled_freeBuffer {s : ANativeWindowDisplayAdapter} (h : Settled s)
    {giveBack : ℕ → Status} (hc : s.CarefulReturn giveBack) :
    Settled (s.freeBuffer giveBack) := by
  have hreturned := settled_returnBuffersToWindow h hc
  unfold freeBuffer
  dsimp only
  split_ifs
  · exact hreturned
  · exact ⟨⟨hreturned.held, hreturned.given⟩, rfl, fun harrays => absurd harrays (by simp)⟩

/-! ### The allocation of buffers -/

/-- The indices that a loop leaves, after its first pass. -/
lemma erase_sdiff_Ico (held : Finset ℕ) {a k : ℕ} (h : a < k) :
    held.erase a \ Finset.Ico (a + 1) k = held \ Finset.Ico a k := by
  rw [← Finset.insert_Ico_add_one_left_eq_Ico h, Finset.sdiff_insert, Finset.erase_sdiff_comm]

/-- During the allocation: the first buffers are stored in the arrays, and those with the indices
`held` are in the map. -/
structure Holding (o : AllocateOutcome) (stored : ℕ) (held : Finset ℕ)
    (s : ANativeWindowDisplayAdapter) : Prop where
  map : ∀ b i, s.mFramesWithCameraAdapterMap.find? b = some i ↔ i ∈ held ∧ (o.dequeue i).2 = b
  dequeued : ∀ b, b ∈ s.dequeued ↔ ∃ i ∈ held, (o.dequeue i).2 = b
  distinct : ∀ i < stored, ∀ j < i, (o.dequeue j).2 ≠ (o.dequeue i).2
  handles : ∀ i < stored, s.handleAt i = some (o.dequeue i).2
  same : s.mBufferHandleMap = s.mGrallocHandleMap
  /-- The arrays are there, as long as the number of buffers. -/
  arrays : ∃ handles, s.mGrallocHandleMap = some handles ∧ handles.length = s.mBufferCount
  within : ∀ i ∈ held, i < stored
  count : stored ≤ s.mBufferCount
  given : ∀ g ∈ s.given, g.dequeued = true

section Holding

variable {o : AllocateOutcome} {stored : ℕ} {held : Finset ℕ} {s : ANativeWindowDisplayAdapter}

/-- The invariant holds during the allocation. -/
lemma Holding.settled (h : Holding o stored held s) : Settled s := by
  refine ⟨⟨fun b => ?_, h.given⟩, h.same, fun _ b i hfind => ?_⟩
  · rw [h.dequeued, Option.isSome_iff_exists]
    exact exists_congr fun i => h.map b i
  · obtain ⟨hi, rfl⟩ := (h.map b i).mp hfind
    have hlt := h.within i hi
    exact ⟨hlt.trans_le h.count, h.handles i hlt⟩

/-- The window does not matter. -/
lemma Holding.abandon (h : Holding o stored held s) (err : Status) :
    Holding o stored held (s.abandon err) := by
  unfold ANativeWindowDisplayAdapter.abandon
  split_ifs
  · exact ⟨h.map, h.dequeued, h.distinct, h.handles, h.same, h.arrays, h.within, h.count, h.given⟩
  · exact h

/-- A held buffer is where it should be. -/
lemma Holding.bufferAt (h : Holding o stored held s) {i : ℕ} (hi : i ∈ held) :
    s.bufferAt i = some (o.dequeue i).2 ∧ (o.dequeue i).2 ∈ s.dequeued :=
  ⟨(bufferAt_eq_handleAt h.same i).trans (h.handles i (h.within i hi)),
    (h.dequeued _).mpr ⟨i, hi, rfl⟩⟩

/-- A held buffer that the window does not take. -/
lemma Holding.giveBuffer_of_error (h : Holding o stored held s) {i : ℕ} (hi : i ∈ held)
    {err : Status} (herr : err ≠ NO_ERROR) :
    Holding o stored held (s.giveBuffer err (s.bufferAt i)) := by
  obtain ⟨hbuffer, hout⟩ := h.bufferAt hi
  rw [hbuffer]
  refine ⟨h.map, ?_, h.distinct, h.handles, h.same, h.arrays, h.within, h.count,
    given_giveBuffer err h.given hout⟩
  simp only [giveBuffer, if_neg herr]
  exact h.dequeued

/-- A held buffer that the window takes. -/
lemma Holding.giveBuffer (h : Holding o stored held s) {i : ℕ} (hi : i ∈ held) :
    Holding o stored (held.erase i) ((s.giveBuffer NO_ERROR (s.bufferAt i)).removeAt i) := by
  obtain ⟨hbuffer, hout⟩ := h.bufferAt hi
  have hhandle : (s.giveBuffer NO_ERROR (some (o.dequeue i).2)).handleAt i =
      some (o.dequeue i).2 := h.handles i (h.within i hi)
  -- an index determines its buffer, and a buffer its index
  have hother : ∀ j ∈ held, (o.dequeue j).2 = (o.dequeue i).2 ↔ j = i := by
    intro j hj
    refine ⟨fun heq => ?_, fun heq => heq ▸ rfl⟩
    rcases lt_trichotomy j i with hlt | rfl | hlt
    · exact absurd heq (h.distinct i (h.within i hi) j hlt)
    · rfl
    · exact absurd heq.symm (h.distinct j (h.within j hj) i hlt)
  rw [hbuffer, removeAt, hhandle]
  refine ⟨?_, ?_, h.distinct, h.handles, h.same, h.arrays, ?_, h.count,
    given_giveBuffer NO_ERROR h.given hout⟩
  · intro b j
    dsimp only
    rw [KeyedVector.find?_removeItem, Finset.mem_erase]
    split_ifs with hb
    · refine iff_of_false not_false ?_
      rintro ⟨⟨hne, hj⟩, heq⟩
      exact hne ((hother j hj).mp (heq.trans hb))
    · refine (h.map b j).trans ⟨fun ⟨hj, heq⟩ => ⟨⟨?_, hj⟩, heq⟩, fun ⟨hj, heq⟩ => ⟨hj.2, heq⟩⟩
      rintro rfl
      exact hb heq.symm
  · intro b
    have herase : b ∈ (s.giveBuffer NO_ERROR (some (o.dequeue i).2)).dequeued ↔
        b ≠ (o.dequeue i).2 ∧ b ∈ s.dequeued := Finset.mem_erase
    dsimp only
    rw [herase, h.dequeued]
    constructor
    · rintro ⟨hne, j, hj, rfl⟩
      exact ⟨j, Finset.mem_erase.mpr ⟨mt (hother j hj).mpr hne, hj⟩, rfl⟩
    · rintro ⟨j, hj, rfl⟩
      obtain ⟨hne, hj⟩ := Finset.mem_erase.mp hj
      exact ⟨mt (hother j hj).mp hne, j, hj, rfl⟩
  · exact fun j hj => h.within j (Finset.mem_of_mem_erase hj)

/-- A stored buffer is found at its index, and the others stay where they are. -/
lemma handleAt_store {handles : List (Option Ptr)} (harrays : s.mGrallocHandleMap = some handles)
    {i : ℕ} (hi : i < handles.length) (b : Ptr) (j : ℕ) :
    (store i b s).handleAt j = if j = i then some b else s.handleAt j := by
  show ((s.mGrallocHandleMap.map (·.set i (some b))).bind fun handles => handles[j]?.join) = _
  rw [handleAt, harrays]
  show (handles.set i (some b))[j]?.join = _
  split_ifs with hj
  · rw [hj, List.getElem?_set_self hi]
    rfl
  · rw [List.getElem?_set_ne (Ne.symm hj)]
    rfl

/-- A buffer that is dequeued and stored. -/
lemma Holding.store (h : Holding o stored (Finset.range stored) s) (hlt : stored < s.mBufferCount)
    (hnew : (o.dequeue stored).2 ∉ s.dequeued) :
    Holding o (stored + 1) (Finset.range (stored + 1)) (ANativeWindowDisplayAdapter.store stored
      (o.dequeue stored).2 { s with dequeued := insert (o.dequeue stored).2 s.dequeued }) := by
  obtain ⟨handles, harrays, hlength⟩ := h.arrays
  have hbefore : ∀ i < stored, (o.dequeue i).2 ≠ (o.dequeue stored).2 := fun i hi heq =>
    hnew ((h.dequeued _).mpr ⟨i, Finset.mem_range.mpr hi, heq⟩)
  refine ⟨?_, ?_, ?_, ?_, ?_, ?_, ?_, hlt, h.given⟩
  · intro b i
    show (s.mFramesWithCameraAdapterMap.add (o.dequeue stored).2 stored).find? b = some i ↔ _
    rw [KeyedVector.find?_add, Finset.range_add_one, Finset.mem_insert]
    split_ifs with hb
    · constructor
      · intro heq
        obtain rfl := Option.some.inj heq
        exact ⟨Or.inl rfl, hb.symm⟩
      · rintro ⟨rfl | hi, heq⟩
        · rfl
        · exact absurd (heq.trans hb) (hbefore i (Finset.mem_range.mp hi))
    · refine (h.map b i).trans ⟨fun ⟨hi, heq⟩ => ⟨Or.inr hi, heq⟩, fun ⟨hi, heq⟩ => ⟨?_, heq⟩⟩
      refine hi.resolve_left ?_
      rintro rfl
      exact hb heq.symm
  · intro b
    show b ∈ insert (o.dequeue stored).2 s.dequeued ↔ _
    rw [Finset.mem_insert, h.dequeued, Finset.range_add_one]
    constructor
    · rintro (rfl | ⟨i, hi, rfl⟩)
      · exact ⟨stored, Finset.mem_insert_self _ _, rfl⟩
      · exact ⟨i, Finset.mem_insert_of_mem hi, rfl⟩
    · rintro ⟨i, hi, rfl⟩
      rcases Finset.mem_insert.mp hi with rfl | hi
      · exact Or.inl rfl
      · exact Or.inr ⟨i, hi, rfl⟩
  · intro i hi j hj
    rcases Nat.lt_succ_iff_lt_or_eq.mp hi with hi | rfl
    · exact h.distinct i hi j hj
    · exact hbefore j hj
  · intro i hi
    have hentry := handleAt_store
      (s := { s with dequeued := insert (o.dequeue stored).2 s.dequeued }) harrays
      (hlength ▸ hlt) (o.dequeue stored).2 i
    rw [hentry]
    split_ifs with hlast
    · rw [hlast]
    · exact h.handles i (by omega)
  · show s.mBufferHandleMap.map _ = s.mGrallocHandleMap.map _
    rw [h.same]
  · refine ⟨handles.set stored (some (o.dequeue stored).2), ?_, ?_⟩
    · show s.mGrallocHandleMap.map _ = _
      rw [harrays]
      rfl
    · rw [List.length_set]
      exact hlength
  · exact fun i hi => Finset.mem_range.mp hi

/-- The map has no more entries than buffers are held. -/
lemma Holding.size_le_card (h : Holding o stored held s) :
    s.mFramesWithCameraAdapterMap.size ≤ held.card := by
  have hfind : ∀ e ∈ s.mFramesWithCameraAdapterMap.entries,
      e.2 ∈ held ∧ (o.dequeue e.2).2 = e.1 := fun e he =>
    (h.map e.1 e.2).mp (List.mem_dlookup s.mFramesWithCameraAdapterMap.nodupKeys he)
  have hnodup : (s.mFramesWithCameraAdapterMap.entries.map Sigma.snd).Nodup := by
    refine List.Nodup.map_on ?_ s.mFramesWithCameraAdapterMap.nodupKeys.nodup
    rintro ⟨b, i⟩ hb ⟨b', i'⟩ hb' (rfl : i = i')
    obtain rfl : b = b' := (hfind _ hb).2.symm.trans (hfind _ hb').2
    rfl
  have hsub : (s.mFramesWithCameraAdapterMap.entries.map Sigma.snd).toFinset ⊆ held := by
    intro i hi
    obtain ⟨e, he, rfl⟩ := List.mem_map.mp (List.mem_toFinset.mp hi)
    exact (hfind e he).1
  have hle := Finset.card_le_card hsub
  rwa [List.toFinset_card_of_nodup hnodup, List.length_map] at hle

/-- The map has no more entries than buffers are stored. -/
lemma Holding.size_le (h : Holding o stored held s) :
    s.mFramesWithCameraAdapterMap.size ≤ stored := by
  have hsub : held ⊆ Finset.range stored := fun i hi => Finset.mem_range.mpr (h.within i hi)
  have hcard := Finset.card_le_card hsub
  rw [Finset.card_range] at hcard
  exact h.size_le_card.trans hcard

/-- Removing an entry of the map is no crash and leaves the window and the arrays. -/
lemma removeAt_frame (i : ℕ) (s : ANativeWindowDisplayAdapter) :
    (s.removeAt i).mANativeWindow = s.mANativeWindow ∧ (s.removeAt i).crashed = s.crashed ∧
      (s.removeAt i).mGrallocHandleMap = s.mGrallocHandleMap := by
  unfold removeAt
  split <;> exact ⟨rfl, rfl, rfl⟩

/-- The index at which the loop after `fail` stops, if it starts for the indices before `k`. -/
def stop (o : AllocateOutcome) (k : ℕ) : ℕ :=
  ((List.range k).find? fun start => o.cleanUp start ≠ NO_ERROR).getD k

/-- The calls before the loop stops succeed; it stops at one that does not, or at the end. -/
lemma stop_spec (o : AllocateOutcome) (k : ℕ) :
    stop o k ≤ k ∧ (∀ i < stop o k, o.cleanUp i = NO_ERROR) ∧
      (stop o k = k ∨ o.cleanUp (stop o k) ≠ NO_ERROR) := by
  unfold stop
  cases hfind : (List.range k).find? fun start => o.cleanUp start ≠ NO_ERROR with
  | none =>
    rw [List.find?_eq_none] at hfind
    refine ⟨le_rfl, fun i hi => ?_, Or.inl rfl⟩
    simpa using hfind i (List.mem_range.mpr hi)
  | some j =>
    obtain ⟨hj, hlt, hbefore⟩ := List.find?_range_eq_some.mp hfind
    refine ⟨(List.mem_range.mp hlt).le, fun i hi => ?_, Or.inr (by simpa using hj)⟩
    simpa using hbefore i hi

/-- The loop after `fail` gives back the buffers before the index at which it stops. -/
lemma holding_cleanUpLoop_stop {a c j : ℕ} (h : Holding o stored held s) (haj : a ≤ j)
    (hjc : j ≤ a + c) (hgood : ∀ i, a ≤ i → i < j → i ∈ held ∧ o.cleanUp i = NO_ERROR)
    (hstop : j = a + c ∨ j ∈ held ∧ o.cleanUp j ≠ NO_ERROR) (hwindow : s.mANativeWindow = true) :
    Holding o stored (held \ Finset.Ico a j) (cleanUpLoop o (List.range' a c) s) ∧
      (cleanUpLoop o (List.range' a c) s).mANativeWindow = true ∧
      (cleanUpLoop o (List.range' a c) s).crashed = s.crashed := by
  induction c generalizing a held s with
  | zero =>
    obtain rfl : j = a := by omega
    rw [Finset.Ico_self, Finset.sdiff_empty]
    exact ⟨h, hwindow, rfl⟩
  | succ c ih =>
    rw [List.range'_succ, cleanUpLoop, if_neg (by simp [hwindow])]
    dsimp only
    rcases eq_or_lt_of_le haj with rfl | hlt
    · obtain ⟨ha, herr⟩ := hstop.resolve_left (by omega)
      rw [if_pos herr, Finset.Ico_self, Finset.sdiff_empty]
      exact ⟨h.giveBuffer_of_error ha herr, hwindow, rfl⟩
    · obtain ⟨ha, herr⟩ := hgood a le_rfl hlt
      obtain ⟨hwindow', hcrash, -⟩ := removeAt_frame a (s.giveBuffer NO_ERROR (s.bufferAt a))
      have hgood' : ∀ i, a + 1 ≤ i → i < j → i ∈ held.erase a ∧ o.cleanUp i = NO_ERROR :=
        fun i hge hi =>
          ⟨Finset.mem_erase.mpr ⟨by omega, (hgood i (by omega) hi).1⟩, (hgood i (by omega) hi).2⟩
      have hstop' : j = a + 1 + c ∨ j ∈ held.erase a ∧ o.cleanUp j ≠ NO_ERROR :=
        hstop.imp (fun heq => by omega) fun ⟨hj, hjerr⟩ =>
          ⟨Finset.mem_erase.mpr ⟨by omega, hj⟩, hjerr⟩
      rw [if_neg (not_not_intro herr), herr, ← erase_sdiff_Ico held hlt]
      obtain ⟨h', hwin, hcr⟩ := ih (h.giveBuffer ha) hlt (by omega) hgood' hstop'
        (hwindow'.trans hwindow)
      exact ⟨h', hwin, hcr.trans hcrash⟩

/-- The loop after `fail` for the indices before `i`: it may give back buffers that are held, and
must stop before it comes to others. -/
lemma holding_cleanUpLoop {i : ℕ} (h : Holding o stored held s)
    (hin : ∀ start < i, start ∈ held ∨ ∃ j < start, o.cleanUp j ≠ NO_ERROR)
    (hwindow : s.mANativeWindow = true) :
    Holding o stored (held \ Finset.Ico 0 (stop o i)) (cleanUpLoop o (List.range i) s) ∧
      (cleanUpLoop o (List.range i) s).mANativeWindow = true ∧
      (cleanUpLoop o (List.range i) s).crashed = s.crashed := by
  obtain ⟨hle, hbefore, hat⟩ := stop_spec o i
  have hheld : ∀ start < i, start ≤ stop o i → start ∈ held := by
    intro start hlt hstart
    refine (hin start hlt).resolve_right ?_
    rintro ⟨j, hj, hjerr⟩
    exact hjerr (hbefore j (by omega))
  rw [List.range_eq_range']
  refine holding_cleanUpLoop_stop h (Nat.zero_le _) (by omega) ?_ ?_ hwindow
  · exact fun start _ hlt => ⟨hheld start (by omega) hlt.le, hbefore start hlt⟩
  · rcases hat with heq | herr
    · exact Or.inl (heq.trans (Nat.zero_add i).symm)
    · refine (eq_or_lt_of_le hle).imp (fun heq => heq.trans (Nat.zero_add i).symm) fun hlt => ?_
      exact ⟨hheld _ hlt le_rfl, herr⟩

/-- The end of an allocation that fails. -/
lemma settled_allocateFail {i : ℕ} (h : Holding o stored held s)
    (hin : ∀ start < i, start ∈ held ∨ ∃ j < start, o.cleanUp j ≠ NO_ERROR)
    (hzero : i = 0 → s.mANativeWindow = false → held = ∅)
    (hback : AllOrNothing stored o.giveBack) : Settled (s.allocateFail o i) := by
  unfold allocateFail
  cases hwindow : s.mANativeWindow with
  | true =>
    obtain ⟨h', hwindow', -⟩ := holding_cleanUpLoop h hin hwindow
    dsimp only
    split_ifs
    · exact h'.settled
    · exact settled_freeBuffer h'.settled fun _ => ⟨hwindow', hback.mono h'.size_le⟩
  | false =>
    cases i with
    | zero =>
      have hsize : s.mFramesWithCameraAdapterMap.size = 0 := by
        rw [hzero rfl hwindow] at h
        exact Nat.le_zero.mp h.size_le_card
      show Settled (if s.crashed then s else s.freeBuffer o.giveBack)
      split_ifs
      · exact h.settled
      · exact settled_freeBuffer h.settled fun hne => absurd hsize hne
    | succ i =>
      -- the window is gone, but the loop calls it
      have hloop : cleanUpLoop o (List.range (i + 1)) s = s.crash := by
        rw [List.range_succ_eq_map, cleanUpLoop, if_pos (by simp [hwindow])]
      rw [hloop]
      exact h.settled.crash

/-- The window that is left after an error. -/
lemma mANativeWindow_abandon (err : Status) (s : ANativeWindowDisplayAdapter) :
    (s.abandon err).mANativeWindow = (s.mANativeWindow && decide (err ≠ ENODEV)) := by
  unfold ANativeWindowDisplayAdapter.abandon
  split_ifs with herr <;> simp [herr]

/-- An error of the window is no crash. -/
lemma crashed_abandon (err : Status) (s : ANativeWindowDisplayAdapter) :
    (s.abandon err).crashed = s.crashed := by
  unfold ANativeWindowDisplayAdapter.abandon
  split_ifs <;> rfl

/-- The loop that dequeues: it comes to its end, or fails at the first call that fails. -/
lemma holding_dequeueLoop {i c : ℕ} (h : Holding o i (Finset.range i) s)
    (hcount : s.mBufferCount = i + c) :
    (∃ s', dequeueLoop o (List.range' i c) s = (none, s') ∧
      Holding o (i + c) (Finset.range (i + c)) s' ∧ s'.mANativeWindow = s.mANativeWindow ∧
      s'.crashed = s.crashed ∧ ∀ k, i ≤ k → k < i + c → (o.dequeue k).1 = NO_ERROR) ∨
    ∃ k s', dequeueLoop o (List.range' i c) s = (some k, s') ∧ k < i + c ∧
      Holding o k (Finset.range k) s' ∧
      ((o.dequeue k).1 ≠ NO_ERROR ∨ ∃ j < k, (o.dequeue j).2 = (o.dequeue k).2) ∧
      s'.mANativeWindow = (s.mANativeWindow && decide ((o.dequeue k).1 ≠ ENODEV)) ∧
      s'.crashed = s.crashed ∧ ∀ j, i ≤ j → j < k → (o.dequeue j).1 = NO_ERROR := by
  induction c generalizing i s with
  | zero => exact Or.inl ⟨s, rfl, h, rfl, rfl, fun k hge hlt => by omega⟩
  | succ c ih =>
    rw [List.range'_succ, dequeueLoop]
    unfold dequeueBuffer
    by_cases herr : (o.dequeue i).1 = NO_ERROR
    · rw [if_neg (not_not_intro herr)]
      by_cases hout : (o.dequeue i).2 ∈ s.dequeued
      · right
        obtain ⟨j, hj, heq⟩ := (h.dequeued _).mp hout
        rw [if_pos hout]
        dsimp only
        rw [if_pos (by decide)]
        refine ⟨i, _, rfl, by omega, h.abandon INVALID_OPERATION,
          Or.inr ⟨j, Finset.mem_range.mp hj, heq⟩, ?_, rfl, fun j hge hlt => by omega⟩
        rw [herr, ANativeWindowDisplayAdapter.abandon, if_neg (by decide),
          decide_eq_true (by decide), Bool.and_true]
      · rw [if_neg hout]
        dsimp only
        rw [if_neg (not_not_intro rfl)]
        rcases ih (h.store (by omega) hout) (hcount.trans (by omega)) with
          ⟨s', hloop, h', hwindow, hcrash, hgood⟩ |
            ⟨k, s', hloop, hlt, h', hfail, hwindow, hcrash, hgood⟩
        · left
          rw [show i + (c + 1) = i + 1 + c by omega]
          refine ⟨s', hloop, h', hwindow, hcrash, fun k hge hlt => ?_⟩
          rcases eq_or_lt_of_le hge with rfl | hgt
          · exact herr
          · exact hgood k hgt hlt
        · refine Or.inr ⟨k, s', hloop, by omega, h', hfail, hwindow, hcrash, fun j hge hlt => ?_⟩
          rcases eq_or_lt_of_le hge with rfl | hgt
          · exact herr
          · exact hgood j hgt hlt
    · right
      rw [if_pos herr]
      dsimp only
      rw [if_pos herr]
      exact ⟨i, _, rfl, by omega, h.abandon _, Or.inl herr, mANativeWindow_abandon _ s,
        crashed_abandon _ s, fun j hge hlt => by omega⟩

/-- The loop that returns the rest of the buffers: it comes to its end, or fails at the first call
that fails. Only the buffers before that one are given back. -/
lemma holding_cancelLoop {a c : ℕ} (h : Holding o stored held s)
    (hin : ∀ i, a ≤ i → i < a + c → i ∈ held) :
    (∃ held' s', cancelLoop o (List.range' a c) s = (none, s') ∧ Holding o stored held' s' ∧
      ∀ i, a ≤ i → i < a + c → o.cancel i = NO_ERROR) ∨
    ∃ k s', cancelLoop o (List.range' a c) s = (some k, s') ∧
      Holding o stored (held \ Finset.Ico a k) s' ∧ (a ≤ k ∧ k < a + c) ∧ o.cancel k ≠ NO_ERROR ∧
      (∀ i, a ≤ i → i < k → o.cancel i = NO_ERROR) ∧
      s'.mANativeWindow = (s.mANativeWindow && decide (o.cancel k ≠ ENODEV)) ∧
      s'.crashed = s.crashed := by
  induction c generalizing a held s with
  | zero => exact Or.inl ⟨held, s, rfl, h, fun i hge hlt => by omega⟩
  | succ c ih =>
    have ha : a ∈ held := hin a le_rfl (by omega)
    rw [List.range'_succ, cancelLoop]
    by_cases herr : o.cancel a = NO_ERROR
    · rw [if_neg (not_not_intro herr), herr]
      have hin' : ∀ i, a + 1 ≤ i → i < a + 1 + c → i ∈ held.erase a := fun i hge hlt =>
        Finset.mem_erase.mpr ⟨by omega, hin i (by omega) (by omega)⟩
      obtain ⟨hwindow, hcrash, -⟩ := removeAt_frame a (s.giveBuffer NO_ERROR (s.bufferAt a))
      rcases ih (h.giveBuffer ha) hin' with
        ⟨held', s', hloop, h', hgood⟩ | ⟨k, s', hloop, h', hk, hkerr, hbefore, hwindow', hcrash'⟩
      · refine Or.inl ⟨held', s', hloop, h', fun i hge hlt => ?_⟩
        rcases eq_or_lt_of_le hge with rfl | hgt
        · exact herr
        · exact hgood i hgt (by omega)
      · have hheld := erase_sdiff_Ico held (show a < k by omega)
        refine Or.inr ⟨k, s', hloop, hheld ▸ h', ⟨by omega, by omega⟩, hkerr, ?_, ?_, ?_⟩
        · intro i hge hlt
          rcases eq_or_lt_of_le hge with rfl | hgt
          · exact herr
          · exact hbefore i hgt hlt
        · rw [hwindow', hwindow]
          rfl
        · exact hcrash'.trans hcrash
    · rw [if_pos herr]
      refine Or.inr ⟨a, _, rfl, ?_, ⟨le_rfl, by omega⟩, herr, fun i hge hlt => by omega,
        mANativeWindow_abandon _ _, crashed_abandon _ _⟩
      rw [Finset.Ico_self, Finset.sdiff_empty]
      exact (h.giveBuffer_of_error ha herr).abandon _

/-- The surplus is a range of indices up to the last. -/
lemma surplus_of_nonneg {numBufs : ℕ} {undequeued : ℤ}
    (h : 0 ≤ lockedCount numBufs undequeued) : surplus numBufs undequeued =
      List.range' (lockedCount numBufs undequeued).toNat
        (numBufs - (lockedCount numBufs undequeued).toNat) := if_pos h

/-- The indices of the surplus. -/
lemma mem_surplus_iff {numBufs : ℕ} {undequeued : ℤ} (h : 0 ≤ lockedCount numBufs undequeued)
    (i : ℕ) : i ∈ surplus numBufs undequeued ↔
      (lockedCount numBufs undequeued).toNat ≤ i ∧ i < numBufs := by
  rw [surplus_of_nonneg h, List.mem_range'_1]
  omega

/-- The allocation once the buffers are dequeued. -/
lemma settled_surplus {numBufs : ℕ} (h : Holding o numBufs (Finset.range numBufs) s)
    (hwindow : s.mANativeWindow = true) (hgood : ∀ i < numBufs, (o.dequeue i).1 = NO_ERROR)
    (hc : CarefulAllocate numBufs o) :
    Settled (match cancelLoop o (surplus numBufs o.undequeued) s with
      | (some i, s) => ((none : Option (List (Option Ptr))), s.allocateFail o i)
      | (none, s) => (s.mGrallocHandleMap, s)).2 := by
  have hdequeues : Dequeues numBufs o := fun i hi => ⟨hgood i hi, h.distinct i hi⟩
  by_cases hlocked : 0 ≤ lockedCount numBufs o.undequeued
  · have hsurplus := surplus_of_nonneg hlocked
    have hmem := fun i => mem_surplus_iff hlocked i
    generalize (lockedCount numBufs o.undequeued).toNat = first at hsurplus hmem
    have hin : ∀ i, first ≤ i → i < first + (numBufs - first) → i ∈ Finset.range numBufs :=
      fun i hge hlt => Finset.mem_range.mpr (by omega)
    rcases holding_cancelLoop h hin with
      ⟨held', s', hloop, h', -⟩ | ⟨k, s', hloop, h', hk, hkerr, hbefore, hkwindow, -⟩
    · rw [hsurplus, hloop]
      exact h'.settled
    · have hkmem : k ∈ surplus numBufs o.undequeued := (hmem k).mpr (by omega)
      have hback : AllOrNothing numBufs o.giveBack :=
        hc.givesBack fun hall => hkerr (hall.2 k hkmem)
      have hlow : ∀ start < first, start ∈ Finset.range numBufs \ Finset.Ico first k := by
        intro start hlt
        rw [Finset.mem_sdiff, Finset.mem_range, Finset.mem_Ico]
        omega
      rcases hc.cancels hdequeues with hrest | ⟨i, hhead, hierr, hnot⟩ | ⟨start₀, hstart₀, hstop⟩
      · exact absurd (hrest k hkmem) hkerr
      · obtain rfl : first = i := by
          rw [hsurplus, List.head?_range'] at hhead
          split_ifs at hhead
          exact Option.some.inj hhead
        obtain rfl : first = k := by
          by_contra hne
          exact hierr (hbefore first le_rfl (by omega))
        rw [hsurplus, hloop]
        refine settled_allocateFail h' (fun start hlt => Or.inl (hlow start hlt)) ?_ hback
        intro hzero hgone
        have hne : o.cancel first ≠ ENODEV := fun herr => hnot ⟨hzero, herr⟩
        rw [hkwindow, hwindow, decide_eq_true hne] at hgone
        cases hgone
      · have hlt := hstart₀ first ((hmem first).mpr (by omega))
        rw [hsurplus, hloop]
        refine settled_allocateFail h' (fun start hstart => ?_) (fun hzero => by omega) hback
        by_cases hkeep : start < first
        · exact Or.inl (hlow start hkeep)
        · exact Or.inr ⟨start₀, by omega, hstop⟩
  · rw [surplus, if_neg hlocked]
    exact h.settled

/-- The allocation from its first `dequeue_buffer` on. -/
lemma settled_dequeues {numBufs : ℕ} (h : Holding o 0 (Finset.range 0) s)
    (hcount : s.mBufferCount = numBufs) (hwindow : s.mANativeWindow = true)
    (hc : CarefulAllocate numBufs o) :
    Settled (match dequeueLoop o (List.range numBufs) s with
      | (some i, s) => ((none : Option (List (Option Ptr))), s.allocateFail o i)
      | (none, s) =>
        match cancelLoop o (surplus numBufs o.undequeued) s with
        | (some i, s) => (none, s.allocateFail o i)
        | (none, s) => (s.mGrallocHandleMap, s)).2 := by
  rw [List.range_eq_range']
  rcases holding_dequeueLoop (c := numBufs) h (hcount.trans (Nat.zero_add numBufs).symm) with
    ⟨s', hloop, h', hwindow', -, hgood⟩ | ⟨k, s', hloop, hlt, h', hfail, -⟩
  · rw [hloop]
    rw [Nat.zero_add] at h' hgood
    exact settled_surplus h' (hwindow'.trans hwindow) (fun i hi => hgood i (Nat.zero_le i) hi) hc
  · rw [hloop]
    rw [Nat.zero_add] at hlt
    have hnot : ¬ Dequeues numBufs o := by
      intro hall
      obtain ⟨hgood, hother⟩ := hall k hlt
      rcases hfail with herr | ⟨j, hj, heq⟩
      · exact herr hgood
      · exact hother j hj heq
    refine settled_allocateFail h' (fun start hs => Or.inl (Finset.mem_range.mpr hs)) ?_
      ((hc.givesBack fun hall => hnot hall.1).mono hlt.le)
    rintro rfl -
    rfl

end Holding

section NewArrays

variable {s : ANativeWindowDisplayAdapter}

/-- New arrays without buffers are as good as the old ones if the map is empty. -/
lemma settled_newArrays (h : Settled s) (hempty : s.mFramesWithCameraAdapterMap = ∅)
    (numBufs count : ℕ) : Settled { s with
      mBufferHandleMap := some (List.replicate numBufs none)
      mGrallocHandleMap := some (List.replicate numBufs none), mBufferCount := count } := by
  refine ⟨⟨h.held, h.given⟩, rfl, fun _ b i hfind => ?_⟩
  have hfind' : s.mFramesWithCameraAdapterMap.find? b = some i := hfind
  rw [hempty] at hfind'
  cases hfind'

/-- At first the allocation holds no buffer. -/
lemma holding_newArrays (h : Partitioned s) (hempty : s.mFramesWithCameraAdapterMap = ∅)
    (o : AllocateOutcome) (numBufs : ℕ) : Holding o 0 (Finset.range 0) { s with
      mBufferHandleMap := some (List.replicate numBufs none)
      mGrallocHandleMap := some (List.replicate numBufs none), mBufferCount := numBufs } := by
  have hnone : ∀ b, b ∉ s.dequeued := by
    intro b hb
    have hheld := (h.held b).mpr hb
    rw [hempty] at hheld
    cases hheld
  refine ⟨fun b i => ?_, fun b => ?_, fun i hi => by omega, fun i hi => by omega, rfl,
    ⟨_, rfl, List.length_replicate⟩, fun i hi => Finset.mem_range.mp hi, Nat.zero_le _, h.given⟩
  · dsimp only
    rw [hempty]
    simp
  · refine iff_of_false (hnone b) ?_
    rintro ⟨i, hi, -⟩
    exact absurd (Finset.mem_range.mp hi) (Nat.not_lt_zero i)

/-- `allocateBuffer`. -/
lemma settled_allocateBuffer (h : Settled s) {numBufs : ℕ} {o : AllocateOutcome}
    (hc : s.Careful (.allocateBuffer numBufs o)) : Settled (s.allocateBuffer numBufs o).2 := by
  obtain ⟨hsize, hcareful⟩ := hc
  have hempty : s.mFramesWithCameraAdapterMap = ∅ :=
    KeyedVector.ext (List.eq_nil_of_length_eq_zero hsize)
  have hnew := settled_newArrays h hempty numBufs
  unfold allocateBuffer
  dsimp only
  by_cases hwindow : s.mANativeWindow = true
  · rw [if_neg (by simp [hwindow])]
    by_cases husage : o.set_usage = NO_ERROR
    · rw [if_neg (not_not_intro husage)]
      by_cases hcount : o.set_buffer_count = NO_ERROR
      · rw [if_neg (not_not_intro hcount)]
        by_cases hgeometry : o.set_buffers_geometry = NO_ERROR
        · rw [if_neg (not_not_intro hgeometry)]
          exact settled_dequeues (holding_newArrays h.toPartitioned hempty o numBufs) rfl hwindow
            (hcareful hwindow husage hcount hgeometry)
        · rw [if_pos hgeometry]
          exact (hnew numBufs).abandon _
      · rw [if_pos hcount]
        exact (hnew s.mBufferCount).abandon _
    · rw [if_pos husage]
      exact (hnew s.mBufferCount).abandon _
  · rw [if_pos (by simpa using hwindow)]
    exact hnew s.mBufferCount

end NewArrays

/-! ### Runs -/

/-- A careful operation keeps the invariant. -/
lemma Settled.step {s : ANativeWindowDisplayAdapter} (h : Settled s) {a : BufferAction}
    (hc : s.Careful a) : Settled (s.step a) := by
  unfold ANativeWindowDisplayAdapter.step
  split_ifs
  · exact h
  · cases a with
    | allocateBuffer numBufs o => exact settled_allocateBuffer h hc
    | PostFrame mBuffer shown err => exact settled_PostFrame h shown hc
    | handleFrameReturn o => exact settled_handleFrameReturn h hc
    | returnBuffersToWindow giveBack => exact settled_returnBuffersToWindow h hc
    | freeBuffer giveBack => exact settled_freeBuffer h hc

/-- A new display adapter has no buffers. -/
lemma settled_new : Settled new :=
  ⟨⟨fun b => iff_of_false (by simp [new]) (Finset.notMem_empty b), fun _ hg => nomatch hg⟩, rfl,
    fun harrays => nomatch harrays⟩

/-- **The buffers of the window.** In every run of operations that meet their conditions, every
buffer is always either in the map, having been handed out, or with the window, and the window is
given only buffers that it has handed out.

**Proof sketch.** The invariant adds that an entry of the map leads to its buffer in the arrays.
During an allocation a stronger one says which indices are held; the loops give back held buffers
only. -/
theorem always_partitioned (run : List BufferAction) (h : StepRun.Along step Careful new run) :
    StepRun.Always step Partitioned new run :=
  (StepRun.always_of_along (I := Settled) (fun _ _ h hc => h.step hc) settled_new h).imp
    fun _ h => h.toPartitioned

/-- A call of `allocateBuffer` in which nothing fails; the window keeps one buffer. -/
def allocated : AllocateOutcome where
  set_usage := NO_ERROR
  set_buffer_count := NO_ERROR
  set_buffers_geometry := NO_ERROR
  get_min_undequeued_buffer_count := NO_ERROR
  undequeued := 1
  dequeue i := (NO_ERROR, i + 1)
  lock_buffer _ := NO_ERROR
  cancel _ := NO_ERROR
  cleanUp _ := NO_ERROR
  giveBack _ := NO_ERROR

/-- Two buffers go to the camera adapter and one stays; one is shown and comes back; then both go
back to the window. -/
theorem partitioned_shown : StepRun.Always step Partitioned new
    [.allocateBuffer 3 allocated, .PostFrame 1 true NO_ERROR,
      .handleFrameReturn ⟨(NO_ERROR, 1), NO_ERROR, fun attempt => attempt = 2⟩,
      .returnBuffersToWindow fun _ => NO_ERROR] := by
  refine always_partitioned _ ⟨⟨rfl, fun _ _ _ _ => ⟨fun _ => Or.inl ?_, fun h => ?_⟩⟩,
    fun _ _ => ⟨by decide, by decide, rfl⟩,
    fun _ _ _ => ⟨rfl, ⟨2, by decide, rfl⟩, 0, by decide, by decide⟩,
    fun _ => ⟨by decide, Or.inl fun _ _ => rfl⟩, trivial⟩
  · decide
  · exact absurd ⟨by decide, by decide⟩ h

/-- A buffer that the window does not take is dropped from the map; so is one that the window hands
out and that cannot be locked. After a failure in the second buffer to be returned, the first is
cancelled again. -/
theorem not_partitioned :
    ¬ StepRun.Always step Partitioned new
        [.allocateBuffer 3 allocated, .PostFrame 1 true EINVAL] ∧
      ¬ StepRun.Always step Partitioned new
        [.allocateBuffer 3 allocated, .PostFrame 1 true NO_ERROR,
          .handleFrameReturn ⟨(NO_ERROR, 1), EINVAL, fun _ => true⟩] ∧
      ¬ StepRun.Always step Partitioned new
        [.allocateBuffer 3 { allocated with
          undequeued := 2, cancel := fun i => if i = 1 then NO_ERROR else EINVAL }] := by
  refine ⟨fun h => ?_, fun h => ?_, fun h => ?_⟩
  · exact absurd ((h.last.held 1).mpr (by decide)) (by decide)
  · exact absurd ((h.last.held 1).mpr (by decide)) (by decide)
  · exact absurd (h.last.given ⟨some 2, false⟩ (by decide)) (by decide)

end ANativeWindowDisplayAdapter

end CameraHal
