import Gs702aHal.Camera.WindowBuffers

set_option relaxedAutoImplicit false
set_option autoImplicit false

/-!
# When the allocation of the window's buffers fails

`allocateBuffer` dequeues all buffers and gives the surplus back. If a call fails in one of the two
loops, the code behind the label `fail` cancels the buffers with the indices before the one at which
the loop failed, and frees the rest through the map. The two loops share the index, but not what it
says about the buffers.

## Main definitions

* `CameraHal.ANativeWindowDisplayAdapter.Succeeds` — no call of an allocation fails.
* `CameraHal.ANativeWindowDisplayAdapter.Released` — every buffer went back once, and neither the
  map nor the arrays hold anything.
* `CameraHal.ANativeWindowDisplayAdapter.Tidy` — the failures after which this is so.

## Main results

* `CameraHal.ANativeWindowDisplayAdapter.cleanedUp_iff` — the failures after which the allocation
  has cleaned up.
-/

namespace CameraHal

open Status

namespace ANativeWindowDisplayAdapter

/-! ### What is asked of a failed allocation -/

/-- No call of an allocation fails. -/
structure Succeeds (numBufs : ℕ) (o : AllocateOutcome) (s : ANativeWindowDisplayAdapter) :
    Prop where
  window : s.mANativeWindow = true
  usage : o.set_usage = NO_ERROR
  bufferCount : o.set_buffer_count = NO_ERROR
  geometry : o.set_buffers_geometry = NO_ERROR
  undequeuedCount : o.get_min_undequeued_buffer_count = NO_ERROR
  dequeues : Dequeues numBufs o
  locks : ∀ i : ℕ, i < lockedCount numBufs o.undequeued → o.lock_buffer i = NO_ERROR
  returnsRest : ReturnsRest numBufs o

/-- Each call that gives a buffer back is for one that the window has handed out, so that none is
given back twice; all are back; the map and the arrays are empty. -/
structure Released (s : ANativeWindowDisplayAdapter) : Prop where
  given : ∀ g ∈ s.given, g.dequeued = true
  back : s.dequeued = ∅
  map : s.mFramesWithCameraAdapterMap = ∅
  arrays : s.mBufferHandleMap = none ∧ s.mGrallocHandleMap = none
  alive : s.crashed = false

/-- An allocation returns `NULL` and has released everything. -/
def CleanedUp (numBufs : ℕ) (o : AllocateOutcome) (s : ANativeWindowDisplayAdapter) : Prop :=
  (s.allocateBuffer numBufs o).1 = none ∧ Released (s.allocateBuffer numBufs o).2

/-! ### Failures after which it is so -/

/-- A call of `dequeue_buffer` fails; the window hands out only what it has. -/
def DequeueFails (o : AllocateOutcome) (k : ℕ) : Prop :=
  (o.dequeue k).1 ≠ NO_ERROR ∨ ∃ j < k, (o.dequeue j).2 = (o.dequeue k).2

/-- The index of the first buffer that is given back at once. -/
def firstSurplus (numBufs : ℕ) (o : AllocateOutcome) : ℕ :=
  (lockedCount numBufs o.undequeued).toNat

/-- The first call of `dequeue_buffer` that fails does not find the window abandoned, unless it is
the very first; and all calls of `returnBuffersToWindow` succeed, for the buffers that the loop
after `fail` has not given back. -/
def TidyDequeue (numBufs : ℕ) (o : AllocateOutcome) : Prop :=
  ∀ k < numBufs, DequeueFails o k → (∀ i < k, ¬DequeueFails o i) →
    ((o.dequeue k).1 = ENODEV → k = 0) ∧
      ((o.dequeue k).1 ≠ ENODEV → ∀ p < k - stop o k, o.giveBack p = NO_ERROR)

/-- The first call of `cancel_buffer` that fails does not find the window abandoned; it is the first
call at all, or the loop after `fail` stops before it comes to the surplus; and all calls of
`returnBuffersToWindow` succeed. -/
def TidyCancel (numBufs : ℕ) (o : AllocateOutcome) : Prop :=
  Dequeues numBufs o → ∀ k ∈ surplus numBufs o.undequeued, o.cancel k ≠ NO_ERROR →
    (∀ i ∈ surplus numBufs o.undequeued, i < k → o.cancel i = NO_ERROR) →
    o.cancel k ≠ ENODEV ∧ (k = firstSurplus numBufs o ∨ stop o k < firstSurplus numBufs o) ∧
      ∀ p < (firstSurplus numBufs o - stop o k) + (numBufs - k), o.giveBack p = NO_ERROR

/-- The failures after which everything is released: none before the first `dequeue_buffer`, and
only tidy ones from there on, one of them in a call whose answer is looked at. The buffers of an
earlier allocation must have been freed. -/
structure Tidy (numBufs : ℕ) (o : AllocateOutcome) (s : ANativeWindowDisplayAdapter) : Prop where
  empty : s.mFramesWithCameraAdapterMap = ∅
  window : s.mANativeWindow = true
  usage : o.set_usage = NO_ERROR
  bufferCount : o.set_buffer_count = NO_ERROR
  geometry : o.set_buffers_geometry = NO_ERROR
  noticed : ¬(Dequeues numBufs o ∧ ReturnsRest numBufs o)
  dequeue : TidyDequeue numBufs o
  cancel : TidyCancel numBufs o

variable {o : AllocateOutcome} {stored : ℕ} {held : Finset ℕ} {s : ANativeWindowDisplayAdapter}

/-! ### Freeing the buffers -/

/-- The map has an entry for each buffer that is held. -/
lemma Holding.size_eq_card (h : Holding o stored held s) :
    s.mFramesWithCameraAdapterMap.size = held.card := by
  refine le_antisymm h.size_le_card ?_
  have hsub : held ⊆ (s.mFramesWithCameraAdapterMap.entries.map Sigma.snd).toFinset := by
    intro i hi
    have hfind := (h.map (o.dequeue i).2 i).mpr ⟨hi, rfl⟩
    exact List.mem_toFinset.mpr (List.mem_map.mpr ⟨⟨_, i⟩, List.of_mem_dlookup hfind, rfl⟩)
  have hcard := (Finset.card_le_card hsub).trans (List.toFinset_card_le _)
  rwa [List.length_map] at hcard

/-- The loop of `returnBuffersToWindow` ends at a call that fails; the map stays. -/
lemma giveBackLoop_error {giveBack : ℕ → Status} {i : ℕ}
    {l : List (Sigma fun _ : Ptr => ℕ)}
    (hfail : ∃ p, i ≤ p ∧ p < i + l.length ∧ giveBack p ≠ NO_ERROR) :
    ∃ err s', giveBackLoop giveBack i l s = (some err, s') ∧
      s'.mFramesWithCameraAdapterMap = s.mFramesWithCameraAdapterMap := by
  induction l generalizing i s with
  | nil =>
    obtain ⟨p, hge, hlt, -⟩ := hfail
    exact absurd hlt (by simpa using hge)
  | cons e rest ih =>
    obtain ⟨p, hge, hlt, herr⟩ := hfail
    rw [giveBackLoop]
    split_ifs with hfirst
    · refine ⟨_, _, rfl, ?_⟩
      unfold ANativeWindowDisplayAdapter.abandon
      split_ifs <;> rfl
    · rw [List.length_cons] at hlt
      have hne : p ≠ i := by
        rintro rfl
        exact hfirst herr
      obtain ⟨err, s', hloop, hmap⟩ := @ih (s.giveBuffer (giveBack i) (s.bufferAt e.2)) (i + 1)
        ⟨p, by omega, by omega, herr⟩
      exact ⟨err, s', hloop, hmap⟩

/-- With a window, `freeBuffer` releases everything exactly if it takes each buffer. -/
lemma released_freeBuffer_iff (h : Holding o stored held s) (hwindow : s.mANativeWindow = true)
    (halive : s.crashed = false) :
    Released (s.freeBuffer o.giveBack) ↔ ∀ p < held.card, o.giveBack p = NO_ERROR := by
  obtain ⟨handles, harrays, -⟩ := h.arrays
  have hsome : s.mGrallocHandleMap.isSome = true := by rw [harrays]; rfl
  have hnone : ¬(s.mGrallocHandleMap.isNone && decide (s.mFramesWithCameraAdapterMap.size ≠ 0)) =
      true := by simp [harrays]
  have hlength : s.mFramesWithCameraAdapterMap.entries.length = held.card := h.size_eq_card
  unfold freeBuffer returnBuffersToWindow
  rw [if_pos hwindow, if_neg hnone]
  constructor
  · intro hreleased
    by_contra hfail
    simp only [not_forall] at hfail
    obtain ⟨p, hp, herr⟩ := hfail
    obtain ⟨err, s', hloop, hmap⟩ := @giveBackLoop_error s o.giveBack 0
      s.mFramesWithCameraAdapterMap.entries ⟨p, Nat.zero_le p, by omega, herr⟩
    rw [hloop] at hreleased
    have hempty : s'.mFramesWithCameraAdapterMap = ∅ := by
      have hmap' := hreleased.map
      dsimp only at hmap'
      split_ifs at hmap' <;> exact hmap'
    rw [hmap] at hempty
    have hsize := h.size_eq_card
    rw [hempty] at hsize
    have hzero : held.card = 0 := hsize.symm
    omega
  · intro hall
    have hin : ∀ e ∈ s.mFramesWithCameraAdapterMap.entries,
        s.bufferAt e.2 = some e.1 ∧ e.1 ∈ s.dequeued := fun e he =>
      h.settled.bufferAt_of_find hsome
        (List.mem_dlookup s.mFramesWithCameraAdapterMap.nodupKeys he)
    have hgood : ∀ k, 0 ≤ k → k < 0 + s.mFramesWithCameraAdapterMap.entries.length →
        o.giveBack k = NO_ERROR := fun k _ hk => hall k (by omega)
    obtain ⟨out, given, hloop, hmem, hright⟩ := giveBackLoop_all hgood hin
      s.mFramesWithCameraAdapterMap.nodupKeys h.given
    have hout : out = ∅ := by
      rw [Finset.eq_empty_iff_forall_notMem]
      intro b hb
      obtain ⟨hb, hnot⟩ := (hmem b).mp hb
      have hkey : b ∈ s.mFramesWithCameraAdapterMap.keys :=
        (s.mFramesWithCameraAdapterMap.mem_keys b).mpr ((h.settled.held b).mpr hb)
      exact hnot hkey
    rw [hloop]
    dsimp only
    rw [if_neg (by simp [halive])]
    exact ⟨hright, hout, rfl, ⟨rfl, rfl⟩, halive⟩

/-! ### What every loop keeps -/

/-- A property that none of the steps in which buffers go back takes away. -/
structure Kept (P : ANativeWindowDisplayAdapter → Prop) : Prop where
  giveBuffer : ∀ {s} err i, P s → P (s.giveBuffer err (s.bufferAt i))
  abandon : ∀ {s} err, P s → P (s.abandon err)
  removeAt : ∀ {s} i, P s → P (s.removeAt i)
  crash : ∀ {s}, P s → P s.crash
  clear : ∀ {s}, P s → P { s with mFramesWithCameraAdapterMap := ∅ }
  free : ∀ {s}, P s → P { s with mGrallocHandleMap := none, mBufferHandleMap := none }

section Kept

variable {P : ANativeWindowDisplayAdapter → Prop}

/-- The loop that returns the surplus. -/
lemma Kept.cancelLoop (h : Kept P) (indices : List ℕ) (hs : P s) :
    P (cancelLoop o indices s).2 := by
  induction indices generalizing s with
  | nil => exact hs
  | cons i rest ih =>
    rw [ANativeWindowDisplayAdapter.cancelLoop]
    split_ifs
    · exact h.abandon _ (h.giveBuffer _ i hs)
    · exact ih (h.removeAt i (h.giveBuffer _ i hs))

/-- The loop after `fail`. -/
lemma Kept.cleanUpLoop (h : Kept P) (indices : List ℕ) (hs : P s) :
    P (cleanUpLoop o indices s) := by
  induction indices generalizing s with
  | nil => exact hs
  | cons start rest ih =>
    rw [ANativeWindowDisplayAdapter.cleanUpLoop]
    split_ifs
    · exact h.crash hs
    · exact h.giveBuffer _ start hs
    · exact ih (h.removeAt start (h.giveBuffer _ start hs))

/-- The loop of `returnBuffersToWindow`. -/
lemma Kept.giveBackLoop (h : Kept P) {giveBack : ℕ → Status} {i : ℕ}
    (l : List (Sigma fun _ : Ptr => ℕ)) (hs : P s) : P (giveBackLoop giveBack i l s).2 := by
  induction l generalizing i s with
  | nil => exact hs
  | cons e rest ih =>
    rw [ANativeWindowDisplayAdapter.giveBackLoop]
    split_ifs
    · exact h.abandon _ (h.giveBuffer _ e.2 hs)
    · exact ih (h.giveBuffer _ e.2 hs)

/-- `returnBuffersToWindow`. -/
lemma Kept.returnBuffersToWindow (h : Kept P) (giveBack : ℕ → Status) (hs : P s) :
    P (s.returnBuffersToWindow giveBack).2 := by
  have hloop : P (ANativeWindowDisplayAdapter.giveBackLoop giveBack 0
      s.mFramesWithCameraAdapterMap.entries s).2 := h.giveBackLoop _ hs
  unfold ANativeWindowDisplayAdapter.returnBuffersToWindow
  split_ifs
  · exact h.crash hs
  · split <;> rename_i heq <;> rw [heq] at hloop
    · exact hloop
    · exact h.clear hloop
  · exact h.clear hs

/-- `freeBuffer`. -/
lemma Kept.freeBuffer (h : Kept P) (giveBack : ℕ → Status) (hs : P s) :
    P (s.freeBuffer giveBack) := by
  unfold ANativeWindowDisplayAdapter.freeBuffer
  dsimp only
  split_ifs
  · exact h.returnBuffersToWindow giveBack hs
  · exact h.free (h.returnBuffersToWindow giveBack hs)

/-- The code after `fail`. -/
lemma Kept.allocateFail (h : Kept P) (k : ℕ) (hs : P s) : P (s.allocateFail o k) := by
  unfold ANativeWindowDisplayAdapter.allocateFail
  dsimp only
  split_ifs
  · exact h.cleanUpLoop _ hs
  · exact h.freeBuffer _ (h.cleanUpLoop _ hs)

end Kept

/-- What the window was given stays so. -/
lemma kept_given (g : Give) : Kept fun s => g ∈ s.given where
  giveBuffer _ _ hg := List.mem_append_left _ hg
  abandon err hg := by
    unfold ANativeWindowDisplayAdapter.abandon
    split_ifs <;> exact hg
  removeAt i hg := by
    unfold ANativeWindowDisplayAdapter.removeAt
    split <;> exact hg
  crash hg := hg
  clear hg := hg
  free hg := hg

/-- A buffer that is out, while the arrays do not lead to it. -/
def Forgotten (b : Ptr) (s : ANativeWindowDisplayAdapter) : Prop :=
  b ∈ s.dequeued ∧ ∀ i, s.bufferAt i ≠ some b

/-- A forgotten buffer does not go back. -/
lemma kept_forgotten (b : Ptr) : Kept (Forgotten b) where
  giveBuffer {s} err i := by
    rintro ⟨hout, hentry⟩
    refine ⟨?_, hentry⟩
    show b ∈ if err = NO_ERROR then (s.bufferAt i).elim s.dequeued s.dequeued.erase else s.dequeued
    split_ifs
    · cases hbuffer : s.bufferAt i with
      | none => exact hout
      | some b' =>
        have hne : b ≠ b' := by
          rintro rfl
          exact hentry i hbuffer
        exact Finset.mem_erase.mpr ⟨hne, hout⟩
    · exact hout
  abandon err hs := by
    unfold ANativeWindowDisplayAdapter.abandon
    split_ifs <;> exact hs
  removeAt i hs := by
    unfold ANativeWindowDisplayAdapter.removeAt
    split <;> exact hs
  crash hs := hs
  clear hs := hs
  free hs := ⟨hs.1, fun i => by simp [bufferAt]⟩

/-- A buffer that is stored is another one than the forgotten one. -/
lemma Forgotten.store {b b' : Ptr} (h : Forgotten b s) (i : ℕ) (hnew : b' ∉ s.dequeued) :
    Forgotten b (ANativeWindowDisplayAdapter.store i b'
      { s with dequeued := insert b' s.dequeued }) := by
  refine ⟨Finset.mem_insert_of_mem h.1, fun j => ?_⟩
  have hentry := h.2 j
  unfold bufferAt at hentry ⊢
  show ((s.mBufferHandleMap.map (·.set i (some b'))).bind fun buffers => buffers[j]?.join) ≠ some b
  cases harrays : s.mBufferHandleMap with
  | none => simp
  | some buffers =>
    rw [harrays] at hentry
    show (buffers.set i (some b'))[j]?.join ≠ some b
    rw [List.getElem?_set]
    split_ifs
    · rintro ⟨⟩
      exact hnew h.1
    · simp
    · exact hentry

/-- The loop that dequeues. -/
lemma Forgotten.dequeueLoop {b : Ptr} (h : Forgotten b s) (indices : List ℕ) :
    Forgotten b (dequeueLoop o indices s).2 := by
  induction indices generalizing s with
  | nil => exact h
  | cons i rest ih =>
    rw [ANativeWindowDisplayAdapter.dequeueLoop]
    unfold dequeueBuffer
    by_cases herr : (o.dequeue i).1 = NO_ERROR
    · rw [if_neg (not_not_intro herr)]
      by_cases hout : (o.dequeue i).2 ∈ s.dequeued
      · rw [if_pos hout]
        exact (kept_forgotten b).abandon _ h
      · rw [if_neg hout]
        exact ih (h.store i hout)
    · rw [if_pos herr]
      dsimp only
      rw [if_pos herr]
      exact (kept_forgotten b).abandon _ h

/-! ### The code after `fail` -/

/-- The loop after `fail` comes to a buffer that is not held any more, and gives it back again. -/
lemma exists_given_cleanUpLoop {a c f : ℕ} (h : Holding o stored held s) (haf : a ≤ f)
    (hfc : f < a + c) (hgood : ∀ i, a ≤ i → i < f → i ∈ held ∧ o.cleanUp i = NO_ERROR)
    (hf : f < stored) (hnot : f ∉ held) (hwindow : s.mANativeWindow = true) :
    ∃ g ∈ (cleanUpLoop o (List.range' a c) s).given, g.dequeued = false := by
  induction c generalizing a held s with
  | zero => omega
  | succ c ih =>
    rw [List.range'_succ, cleanUpLoop, if_neg (by simp [hwindow])]
    dsimp only
    rcases eq_or_lt_of_le haf with rfl | hlt
    · -- its handle is still in the array, but the window has the buffer
      have hbuffer : s.bufferAt a = some (o.dequeue a).2 :=
        (bufferAt_eq_handleAt h.same a).trans (h.handles a hf)
      have hback : (o.dequeue a).2 ∉ s.dequeued := by
        intro hout
        obtain ⟨j, hj, heq⟩ := (h.dequeued _).mp hout
        rcases lt_trichotomy j a with hlt | rfl | hlt
        · exact h.distinct a hf j hlt heq
        · exact hnot hj
        · exact h.distinct j (h.within j hj) a hlt heq.symm
      have hgiven : (⟨some (o.dequeue a).2, false⟩ : Give) ∈
          (s.giveBuffer (o.cleanUp a) (s.bufferAt a)).given := by
        rw [hbuffer]
        refine List.mem_append_right _ (List.mem_singleton.mpr ?_)
        simp [hback]
      refine ⟨⟨some (o.dequeue a).2, false⟩, ?_, rfl⟩
      split_ifs
      · exact hgiven
      · exact (kept_given _).cleanUpLoop _ ((kept_given _).removeAt a hgiven)
    · obtain ⟨ha, herr⟩ := hgood a le_rfl hlt
      obtain ⟨hwindow', -⟩ := removeAt_frame a (s.giveBuffer NO_ERROR (s.bufferAt a))
      rw [if_neg (not_not_intro herr), herr]
      refine ih (h.giveBuffer ha) hlt (by omega) (fun i hge hi => ?_)
        (fun hmem => hnot (Finset.mem_of_mem_erase hmem)) (hwindow'.trans hwindow)
      obtain ⟨hi', hierr⟩ := hgood i (by omega) hi
      exact ⟨Finset.mem_erase.mpr ⟨by omega, hi'⟩, hierr⟩

/-- The failed allocation gives a buffer back twice if the loop after `fail` comes to one that is
not held any more. -/
lemma not_released_allocateFail {k f : ℕ} (h : Holding o stored held s)
    (hwindow : s.mANativeWindow = true) (hfk : f < k) (hfstop : f ≤ stop o k)
    (hbefore : ∀ i < f, i ∈ held) (hf : f < stored) (hnot : f ∉ held) :
    ¬Released (s.allocateFail o k) := by
  intro hreleased
  obtain ⟨-, hgood, -⟩ := stop_spec o k
  obtain ⟨g, hg, hfalse⟩ := exists_given_cleanUpLoop (c := k) h (Nat.zero_le f) (by omega)
    (fun i _ hi => ⟨hbefore i hi, hgood i (by omega)⟩) hf hnot hwindow
  rw [← List.range_eq_range'] at hg
  have hgiven : g ∈ (s.allocateFail o k).given := by
    unfold allocateFail
    dsimp only
    split_ifs
    · exact hg
    · exact (kept_given g).freeBuffer _ hg
  exact Bool.false_ne_true (hfalse.symm.trans (hreleased.given g hgiven))

/-- If the loop after `fail` comes only to buffers that are held, everything is released exactly if
`freeBuffer` can give back those that are left. -/
lemma released_allocateFail_iff {k : ℕ} (h : Holding o stored held s)
    (hwindow : s.mANativeWindow = true) (halive : s.crashed = false)
    (hin : ∀ i < k, i ≤ stop o k → i ∈ held) :
    Released (s.allocateFail o k) ↔
      ∀ p < (held \ Finset.Ico 0 (stop o k)).card, o.giveBack p = NO_ERROR := by
  obtain ⟨hle, -, hat⟩ := stop_spec o k
  have hin' : ∀ start < k, start ∈ held ∨ ∃ j < start, o.cleanUp j ≠ NO_ERROR := by
    intro start hlt
    by_cases hstart : start ≤ stop o k
    · exact Or.inl (hin start hlt hstart)
    · exact Or.inr ⟨stop o k, by omega, hat.resolve_left (by omega)⟩
  obtain ⟨h', hwindow', hcrash⟩ := holding_cleanUpLoop h hin' hwindow
  have halive' := hcrash.trans halive
  unfold allocateFail
  dsimp only
  rw [if_neg (by simp [halive'])]
  exact released_freeBuffer_iff h' hwindow' halive'

/-- Without a window, the loop after `fail` ends the process if there is anything to give back. -/
lemma released_allocateFail_abandoned {k : ℕ} (h : Holding o stored held s)
    (hwindow : s.mANativeWindow = false) (halive : s.crashed = false) :
    Released (s.allocateFail o k) ↔ k = 0 ∧ held = ∅ := by
  cases k with
  | zero =>
    have hfree : s.allocateFail o 0 = { s with
        mFramesWithCameraAdapterMap := ∅
        mGrallocHandleMap := none
        mBufferHandleMap := none } := by
      show (if s.crashed then s else s.freeBuffer o.giveBack) = _
      simp [freeBuffer, returnBuffersToWindow, hwindow, halive]
    rw [hfree]
    constructor
    · intro hreleased
      refine ⟨rfl, Finset.eq_empty_iff_forall_notMem.mpr fun i hi => ?_⟩
      have hout := (h.bufferAt hi).2
      rw [show s.dequeued = ∅ from hreleased.back] at hout
      exact Finset.notMem_empty _ hout
    · rintro ⟨-, rfl⟩
      refine ⟨h.given, Finset.eq_empty_iff_forall_notMem.mpr fun b hb => ?_, rfl, ⟨rfl, rfl⟩,
        halive⟩
      obtain ⟨i, hi, -⟩ := (h.dequeued b).mp hb
      exact Finset.notMem_empty i hi
  | succ k =>
    have hloop : cleanUpLoop o (List.range (k + 1)) s = s.crash := by
      rw [List.range_succ_eq_map, cleanUpLoop, if_pos (by simp [hwindow])]
    refine iff_of_false (fun hreleased => ?_) fun hzero => absurd hzero.1 (Nat.succ_ne_zero k)
    have hcrashed : (s.allocateFail o (k + 1)).crashed = true := by
      unfold allocateFail
      rw [hloop]
      rfl
    exact Bool.false_ne_true (hreleased.alive.symm.trans hcrashed)

/-! ### The two loops -/

/-- The buffers that are left after a failure in the first loop. -/
lemma card_leftDequeue (j k : ℕ) :
    (Finset.range k \ Finset.Ico 0 j).card = k - j := by
  have hleft : Finset.range k \ Finset.Ico 0 j = Finset.Ico j k := by
    ext i
    simp only [Finset.mem_sdiff, Finset.mem_range, Finset.mem_Ico]
    omega
  rw [hleft, Nat.card_Ico]

/-- The buffers that are left after a failure in the second loop, if the loop after `fail` stops
before the surplus. -/
lemma card_leftCancel {n first j k : ℕ} (hj : j ≤ first) (hk : first ≤ k) (hn : k ≤ n) :
    ((Finset.range n \ Finset.Ico first k) \ Finset.Ico 0 j).card = (first - j) + (n - k) := by
  have hleft : (Finset.range n \ Finset.Ico first k) \ Finset.Ico 0 j =
      Finset.Ico j first ∪ Finset.Ico k n := by
    ext i
    simp only [Finset.mem_sdiff, Finset.mem_range, Finset.mem_Ico, Finset.mem_union]
    omega
  have hdisjoint : Disjoint (Finset.Ico j first) (Finset.Ico k n) := by
    rw [Finset.disjoint_left]
    intro i hi hi'
    simp only [Finset.mem_Ico] at hi hi'
    omega
  rw [hleft, Finset.card_union_of_disjoint hdisjoint, Nat.card_Ico, Nat.card_Ico]

/-- A failure at index `k` of the loop that dequeues. -/
lemma released_dequeue_iff {k : ℕ} (h : Holding o k (Finset.range k) s)
    (hwindow : s.mANativeWindow = decide ((o.dequeue k).1 ≠ ENODEV)) (halive : s.crashed = false) :
    Released (s.allocateFail o k) ↔ ((o.dequeue k).1 = ENODEV → k = 0) ∧
      ((o.dequeue k).1 ≠ ENODEV → ∀ p < k - stop o k, o.giveBack p = NO_ERROR) := by
  by_cases herr : (o.dequeue k).1 = ENODEV
  · rw [released_allocateFail_abandoned h (hwindow.trans (by simp [herr])) halive]
    constructor
    · rintro ⟨rfl, -⟩
      exact ⟨fun _ => rfl, fun hne => absurd herr hne⟩
    · intro hfirst
      obtain rfl := hfirst.1 herr
      exact ⟨rfl, Finset.range_zero⟩
  · rw [released_allocateFail_iff h (hwindow.trans (by simp [herr])) halive
      fun i hi _ => Finset.mem_range.mpr hi, card_leftDequeue]
    exact ⟨fun hall => ⟨fun heq => absurd heq herr, fun _ => hall⟩, fun hall => hall.2 herr⟩

/-- A failure at index `k` of the loop that returns the surplus, which starts at `first`. -/
lemma released_cancel_iff {numBufs first k : ℕ}
    (h : Holding o numBufs (Finset.range numBufs \ Finset.Ico first k) s) (hle : first ≤ k)
    (hlt : k < numBufs) (hwindow : s.mANativeWindow = decide (o.cancel k ≠ ENODEV))
    (halive : s.crashed = false) :
    Released (s.allocateFail o k) ↔ o.cancel k ≠ ENODEV ∧ (k = first ∨ stop o k < first) ∧
      ∀ p < (first - stop o k) + (numBufs - k), o.giveBack p = NO_ERROR := by
  have hheld : ∀ i, i ∈ Finset.range numBufs \ Finset.Ico first k ↔
      i < numBufs ∧ ¬(first ≤ i ∧ i < k) := fun i => by
    rw [Finset.mem_sdiff, Finset.mem_range, Finset.mem_Ico]
  have hstop := (stop_spec o k).1
  by_cases herr : o.cancel k = ENODEV
  · rw [released_allocateFail_abandoned h (hwindow.trans (by simp [herr])) halive]
    refine iff_of_false ?_ fun htidy => htidy.1 herr
    rintro ⟨-, hempty⟩
    have hk := (hheld k).mpr ⟨hlt, fun hmem => lt_irrefl k hmem.2⟩
    rw [hempty] at hk
    exact Finset.notMem_empty k hk
  · have hwindow' : s.mANativeWindow = true := hwindow.trans (by simp [herr])
    by_cases hbefore : k = first ∨ stop o k < first
    · rw [released_allocateFail_iff h hwindow' halive fun i hi histop =>
        (hheld i).mpr ⟨by omega, by omega⟩, card_leftCancel (by omega) hle hlt.le]
      exact ⟨fun hall => ⟨herr, hbefore, hall⟩, fun hall => hall.2.2⟩
    · refine iff_of_false ?_ fun htidy => hbefore htidy.2.1
      exact not_released_allocateFail h hwindow' (f := first) (by omega) (by omega)
        (fun i hi => (hheld i).mpr ⟨by omega, by omega⟩) (by omega)
        fun hmem => ((hheld first).mp hmem).2 ⟨le_rfl, by omega⟩

/-! ### The allocation -/

/-- A call that dequeues all buffers has no failure in the first loop. -/
lemma not_dequeueFails {numBufs : ℕ} (h : Dequeues numBufs o) {k : ℕ} (hk : k < numBufs) :
    ¬DequeueFails o k := by
  obtain ⟨hgood, hother⟩ := h k hk
  rintro (herr | ⟨j, hj, heq⟩)
  · exact herr hgood
  · exact hother j hj heq

/-- The allocation once the buffers are dequeued. -/
lemma released_surplus_iff {numBufs : ℕ} (h : Holding o numBufs (Finset.range numBufs) s)
    (hwindow : s.mANativeWindow = true) (halive : s.crashed = false)
    (hdequeues : Dequeues numBufs o) (hrest : ¬ReturnsRest numBufs o) :
    ∃ s', (match cancelLoop o (surplus numBufs o.undequeued) s with
      | (some i, s) => ((none : Option (List (Option Ptr))), s.allocateFail o i)
      | (none, s) => (s.mGrallocHandleMap, s)) = (none, s') ∧
      (Released s' ↔ TidyCancel numBufs o) := by
  by_cases hlocked : 0 ≤ lockedCount numBufs o.undequeued
  · have hsurplus : surplus numBufs o.undequeued =
        List.range' (firstSurplus numBufs o) (numBufs - firstSurplus numBufs o) :=
      surplus_of_nonneg hlocked
    have hmem : ∀ i, i ∈ surplus numBufs o.undequeued ↔
        firstSurplus numBufs o ≤ i ∧ i < numBufs := mem_surplus_iff hlocked
    have hin : ∀ i, firstSurplus numBufs o ≤ i →
        i < firstSurplus numBufs o + (numBufs - firstSurplus numBufs o) →
        i ∈ Finset.range numBufs := fun i hge hi => Finset.mem_range.mpr (by omega)
    rcases holding_cancelLoop h hin with
      ⟨held', t, -, -, hall⟩ | ⟨k, t, hloop, ht, hk, hkerr, hbefore, htwindow, htcrash⟩
    · refine absurd (fun i hi => ?_) hrest
      have hi' := (hmem i).mp hi
      exact hall i hi'.1 (by omega)
    · have hkmem : k ∈ surplus numBufs o.undequeued := (hmem k).mpr ⟨hk.1, by omega⟩
      refine ⟨t.allocateFail o k, by rw [hsurplus, hloop], ?_⟩
      rw [released_cancel_iff ht hk.1 (by omega) (by rw [htwindow, hwindow, Bool.true_and])
        (htcrash.trans halive)]
      refine ⟨fun hk' _ k' hmem' hkerr' hbefore' => ?_, fun htidy => ?_⟩
      · -- the loop fails at the first call that fails
        obtain rfl : k' = k := by
          rcases lt_trichotomy k' k with hlt | rfl | hlt
          · exact absurd (hbefore k' ((hmem k').mp hmem').1 hlt) hkerr'
          · rfl
          · exact absurd (hbefore' k hkmem hlt) hkerr
        exact hk'
      · exact htidy hdequeues k hkmem hkerr fun i hi hlt => hbefore i ((hmem i).mp hi).1 hlt
  · refine absurd (fun i hi => ?_) hrest
    rw [surplus, if_neg hlocked] at hi
    cases hi

/-- The allocation from its first `dequeue_buffer` on. -/
lemma released_loops_iff {numBufs : ℕ} (h : Holding o 0 (Finset.range 0) s)
    (hcount : s.mBufferCount = numBufs) (hwindow : s.mANativeWindow = true)
    (halive : s.crashed = false) (hfail : ¬(Dequeues numBufs o ∧ ReturnsRest numBufs o)) :
    ∃ s', (match dequeueLoop o (List.range numBufs) s with
      | (some i, s) => ((none : Option (List (Option Ptr))), s.allocateFail o i)
      | (none, s) =>
        match cancelLoop o (surplus numBufs o.undequeued) s with
        | (some i, s) => (none, s.allocateFail o i)
        | (none, s) => (s.mGrallocHandleMap, s)) = (none, s') ∧
      (Released s' ↔ TidyDequeue numBufs o ∧ TidyCancel numBufs o) := by
  rw [List.range_eq_range']
  rcases holding_dequeueLoop (c := numBufs) h (hcount.trans (Nat.zero_add numBufs).symm) with
    ⟨s', hloop, h', hwindow', hcrash, hgood⟩ |
      ⟨k, s', hloop, hlt, h', hkfail, hwindow', hcrash, hgood⟩
  · rw [Nat.zero_add] at h' hgood
    have hdequeues : Dequeues numBufs o := fun i hi =>
      ⟨hgood i (Nat.zero_le i) hi, h'.distinct i hi⟩
    have htidy : TidyDequeue numBufs o := fun k hk hkfail =>
      absurd hkfail (not_dequeueFails hdequeues hk)
    obtain ⟨t, hresult, hreleased⟩ := released_surplus_iff h' (hwindow'.trans hwindow)
      (hcrash.trans halive) hdequeues fun hrest => hfail ⟨hdequeues, hrest⟩
    refine ⟨t, ?_, hreleased.trans ⟨fun hcancel => ⟨htidy, hcancel⟩, fun hall => hall.2⟩⟩
    rw [hloop]
    exact hresult
  · rw [Nat.zero_add] at hlt
    have hnot : ¬Dequeues numBufs o := fun hall => not_dequeueFails hall hlt hkfail
    have hkbefore : ∀ i < k, ¬DequeueFails o i := by
      rintro i hi (herr | ⟨j, hj, heq⟩)
      · exact herr (hgood i (Nat.zero_le i) hi)
      · exact h'.distinct i hi j hj heq
    refine ⟨s'.allocateFail o k, by rw [hloop], ?_⟩
    rw [released_dequeue_iff h' (by rw [hwindow', hwindow, Bool.true_and]) (hcrash.trans halive)]
    refine ⟨fun hk => ⟨fun k' hlt' hkfail' hbefore' => ?_, fun hall => absurd hall hnot⟩,
      fun hall => hall.1 k hlt hkfail hkbefore⟩
    obtain rfl : k' = k := by
      rcases lt_trichotomy k' k with hlt | rfl | hlt
      · exact absurd hkfail' (hkbefore k' hlt)
      · rfl
      · exact absurd hkfail (hbefore' k hlt)
    exact hk

/-- While the arrays are there, not everything is released. -/
lemma not_released_of_arrays (harrays : s.mGrallocHandleMap.isSome = true) : ¬Released s := by
  intro hreleased
  rw [hreleased.arrays.2] at harrays
  cases harrays

/-- An error of the window leaves the arrays. -/
lemma arrays_abandon (err : Status) (harrays : s.mGrallocHandleMap.isSome = true) :
    (s.abandon err).mGrallocHandleMap.isSome = true := by
  unfold ANativeWindowDisplayAdapter.abandon
  split_ifs <;> exact harrays

/-- The calls before the first `dequeue_buffer` succeed. -/
def Ready (o : AllocateOutcome) (s : ANativeWindowDisplayAdapter) : Prop :=
  s.mANativeWindow = true ∧ o.set_usage = NO_ERROR ∧ o.set_buffer_count = NO_ERROR ∧
    o.set_buffers_geometry = NO_ERROR

/-- A failure before the first `dequeue_buffer` leaves the new arrays. -/
lemma allocateBuffer_of_not_ready {numBufs : ℕ} (h : ¬Ready o s) :
    ∃ s', s.allocateBuffer numBufs o = (none, s') ∧ s'.mGrallocHandleMap.isSome = true := by
  unfold allocateBuffer
  dsimp only
  split_ifs with hwindow husage hcount hgeometry
  · exact ⟨_, rfl, rfl⟩
  · exact ⟨_, rfl, arrays_abandon _ rfl⟩
  · exact ⟨_, rfl, arrays_abandon _ rfl⟩
  · exact ⟨_, rfl, arrays_abandon _ rfl⟩
  · refine absurd ⟨by simpa using hwindow, ?_, ?_, ?_⟩ h
    · exact not_not.mp husage
    · exact not_not.mp hcount
    · exact not_not.mp hgeometry

/-- The allocation after the calls before the first `dequeue_buffer`. -/
lemma allocateBuffer_of_ready {numBufs : ℕ} (h : Ready o s) : s.allocateBuffer numBufs o =
    (match dequeueLoop o (List.range numBufs) { s with
        mBufferHandleMap := some (List.replicate numBufs none)
        mGrallocHandleMap := some (List.replicate numBufs none), mBufferCount := numBufs } with
      | (some i, s) => (none, s.allocateFail o i)
      | (none, s) =>
        match cancelLoop o (surplus numBufs o.undequeued) s with
        | (some i, s) => (none, s.allocateFail o i)
        | (none, s) => (s.mGrallocHandleMap, s)) := by
  obtain ⟨hwindow, husage, hcount, hgeometry⟩ := h
  have hthere : ¬(!s.mANativeWindow) = true := by simp [hwindow]
  exact (if_neg hthere).trans ((if_neg (not_not_intro husage)).trans
    ((if_neg (not_not_intro hcount)).trans (if_neg (not_not_intro hgeometry))))

/-- If all buffers are dequeued and the surplus is returned, the arrays are returned, whatever the
other calls answer. -/
lemma isSome_allocateBuffer {numBufs : ℕ} (h : Partitioned s)
    (hempty : s.mFramesWithCameraAdapterMap = ∅) (hready : Ready o s)
    (hdequeues : Dequeues numBufs o) (hrest : ReturnsRest numBufs o) :
    (s.allocateBuffer numBufs o).1.isSome = true := by
  rw [allocateBuffer_of_ready hready, List.range_eq_range']
  rcases holding_dequeueLoop (c := numBufs) (holding_newArrays h hempty o numBufs)
      (Nat.zero_add numBufs).symm with
    ⟨s', hloop, h', -⟩ | ⟨k, s', -, hlt, -, hkfail, -⟩
  · rw [hloop]
    rw [Nat.zero_add] at h'
    by_cases hlocked : 0 ≤ lockedCount numBufs o.undequeued
    · have hin : ∀ i, firstSurplus numBufs o ≤ i →
          i < firstSurplus numBufs o + (numBufs - firstSurplus numBufs o) →
          i ∈ Finset.range numBufs := fun i hge hi => Finset.mem_range.mpr (by omega)
      rcases holding_cancelLoop h' hin with
        ⟨held', t, hcancel, ht, -⟩ | ⟨k, t, -, -, hk, hkerr, -⟩
      · obtain ⟨handles, harrays, -⟩ := ht.arrays
        have hsurplus : surplus numBufs o.undequeued = List.range' (firstSurplus numBufs o)
            (numBufs - firstSurplus numBufs o) := surplus_of_nonneg hlocked
        dsimp only
        rw [hsurplus, hcancel]
        dsimp only
        rw [harrays]
        rfl
      · have hkmem := (mem_surplus_iff hlocked k).mpr ⟨hk.1, by omega⟩
        exact absurd (hrest k hkmem) hkerr
    · obtain ⟨handles, harrays, -⟩ := h'.arrays
      dsimp only
      rw [surplus, if_neg hlocked, cancelLoop]
      dsimp only
      rw [harrays]
      rfl
  · exact absurd hkfail (not_dequeueFails hdequeues (by omega))

/-- A buffer that was out before the allocation stays out. -/
lemma not_released_of_mem {numBufs : ℕ} {b : Ptr} (hready : Ready o s) (hout : b ∈ s.dequeued) :
    ¬Released (s.allocateBuffer numBufs o).2 := by
  have hnew : Forgotten b { s with
      mBufferHandleMap := some (List.replicate numBufs none)
      mGrallocHandleMap := some (List.replicate numBufs none), mBufferCount := numBufs } := by
    refine ⟨hout, fun i => ?_⟩
    show (List.replicate numBufs (none : Option Ptr))[i]?.join ≠ some b
    rw [List.getElem?_replicate]
    split_ifs <;> simp
  have hdequeued := @Forgotten.dequeueLoop o _ b hnew (List.range numBufs)
  intro hreleased
  suffices hforgotten : Forgotten b (s.allocateBuffer numBufs o).2 from
    Finset.notMem_empty b (hreleased.back ▸ hforgotten.1)
  rw [allocateBuffer_of_ready hready]
  split <;> rename_i heq <;> rw [heq] at hdequeued
  · exact (kept_forgotten b).allocateFail _ hdequeued
  · have hcancelled := @Kept.cancelLoop o _ _ (kept_forgotten b) (surplus numBufs o.undequeued)
      hdequeued
    split <;> rename_i heq' <;> rw [heq'] at hcancelled
    · exact (kept_forgotten b).allocateFail _ hcancelled
    · exact hcancelled

/-- The allocation returns `NULL` with everything released exactly if a failure is noticed and tidy.

**Proof sketch.** If only calls fail whose answers are not looked at, the arrays are returned.
Before the first `dequeue_buffer` a failure leaves the new arrays. Behind the label `fail`, the loop
gives back the buffers from index 0 up to where it stops; if they are all held, `freeBuffer` has the
rest of the held ones to give back, and else a buffer is given back that the window has already. A
buffer of an earlier allocation never comes back, since no entry of the new arrays leads to it. -/
theorem cleanedUp_iff_tidy {numBufs : ℕ} (h : Partitioned s) (halive : s.crashed = false) :
    CleanedUp numBufs o s ↔ Tidy numBufs o s := by
  unfold CleanedUp
  by_cases hready : Ready o s
  · have ⟨hwindow, husage, hcount, hgeometry⟩ := hready
    by_cases hempty : s.mFramesWithCameraAdapterMap = ∅
    · by_cases hnoticed : Dequeues numBufs o ∧ ReturnsRest numBufs o
      · refine iff_of_false (fun hclean => ?_) fun htidy => htidy.noticed hnoticed
        have hsome := isSome_allocateBuffer h hempty hready hnoticed.1 hnoticed.2
        rw [hclean.1] at hsome
        cases hsome
      obtain ⟨s', hresult, hreleased⟩ := @released_loops_iff o _ numBufs
        (holding_newArrays h hempty o numBufs) rfl hwindow halive hnoticed
      rw [allocateBuffer_of_ready hready, hresult]
      constructor
      · rintro ⟨-, hclean⟩
        obtain ⟨hdequeue, hcancel⟩ := hreleased.mp hclean
        exact ⟨hempty, hwindow, husage, hcount, hgeometry, hnoticed, hdequeue, hcancel⟩
      · exact fun htidy => ⟨rfl, hreleased.mpr ⟨htidy.dequeue, htidy.cancel⟩⟩
    · refine iff_of_false (fun hclean => ?_) fun htidy => hempty htidy.empty
      obtain ⟨e, he⟩ := List.exists_mem_of_ne_nil s.mFramesWithCameraAdapterMap.entries
        fun hnil => hempty (KeyedVector.ext hnil)
      have hkey : e.1 ∈ s.mFramesWithCameraAdapterMap.keys := List.mem_map_of_mem he
      have hout := (h.held e.1).mp ((s.mFramesWithCameraAdapterMap.mem_keys e.1).mp hkey)
      exact not_released_of_mem hready hout hclean.2
  · obtain ⟨s', hresult, harrays⟩ := @allocateBuffer_of_not_ready o s numBufs hready
    rw [hresult]
    refine iff_of_false (fun hclean => not_released_of_arrays harrays hclean.2) fun htidy => ?_
    exact hready ⟨htidy.window, htidy.usage, htidy.bufferCount, htidy.geometry⟩

/-- **Cleaning up after a failed allocation.** If any call of the window fails, the allocation
returns `NULL` with every buffer given back once and nothing left in the map and the arrays, exactly
if no call fails or the failures are tidy. -/
theorem cleanedUp_iff {numBufs : ℕ} (h : Partitioned s) (halive : s.crashed = false) :
    (¬Succeeds numBufs o s → CleanedUp numBufs o s) ↔
      Succeeds numBufs o s ∨ Tidy numBufs o s := by
  rw [cleanedUp_iff_tidy h halive]
  exact or_iff_not_imp_left.symm

/-- The third buffer cannot be dequeued: the first two are cancelled. -/
theorem cleanedUp_thirdFails : CleanedUp 3 { allocated with
    dequeue := fun i => if i = 2 then (EINVAL, 0) else (NO_ERROR, i + 1) } new := by
  refine (cleanedUp_iff settled_new.toPartitioned rfl).mpr (Or.inr
    ⟨rfl, rfl, rfl, rfl, rfl, fun hall => absurd (hall.1 2 (by decide)).1 (by decide),
      fun k hk hkfail hbefore => ?_, fun hall => ?_⟩) fun h =>
        absurd (h.dequeues 2 (by decide)).1 (by decide)
  · obtain rfl : k = 2 := by
      by_contra hne
      obtain rfl | rfl : k = 0 ∨ k = 1 := by omega
      · exact absurd hkfail (by unfold DequeueFails; decide)
      · exact absurd hkfail (by unfold DequeueFails; decide)
    exact ⟨fun herr => absurd herr (by decide), fun _ p _ => rfl⟩
  · exact absurd (hall 2 (by decide)).1 (by decide)

/-- The window keeps two buffers; of the two that are returned at once it takes the first only. -/
def secondKept : AllocateOutcome :=
  { allocated with undequeued := 2, cancel := fun i => if i = 1 then NO_ERROR else EINVAL }

/-- No buffer can be locked. -/
def unlocked : AllocateOutcome := { allocated with lock_buffer := fun _ => EINVAL }

/-- The code after `fail` cancels a buffer again that the window took; a failed `lock_buffer` is
passed over, and the allocation returns the arrays. -/
theorem not_cleanedUp :
    ¬(¬Succeeds 3 secondKept new → CleanedUp 3 secondKept new) ∧
      ¬(¬Succeeds 3 unlocked new → CleanedUp 3 unlocked new) := by
  constructor
  · intro h
    have hclean := h fun hall => absurd (hall.returnsRest 2 (by decide)) (by decide)
    exact absurd (hclean.2.given ⟨some 2, false⟩ (by decide)) (by decide)
  · intro h
    have hclean := h fun hall => absurd (hall.locks 0 (by decide)) (by decide)
    exact absurd hclean.1 (by decide)

end ANativeWindowDisplayAdapter

end CameraHal
