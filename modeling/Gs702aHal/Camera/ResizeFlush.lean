import Gs702aHal.Camera.CallbackNotifier

set_option relaxedAutoImplicit false
set_option autoImplicit false

/-!
# A flush of the resize queue

The message `RESIZE_FLUSH` carries a mask that says for each class of frames whether they start or
stop being valid, and so whether the resize queue has to be cleared of them. `resizeFrame` knows
three classes: preview frames, recording frames, and everything else. The flush takes the frame
types one at a time: each time it drains the queue, keeps the frames of the other types aside, and
puts these back.

## Main definitions

* `CameraHal.AppCallbackNotifier.drainResizeQ`, `CameraHal.AppCallbackNotifier.refillResizeQ` — the
  two loops of `flushResizeQForFrame`.
* `CameraHal.AppCallbackNotifier.asked` — the classes that a mask asks to flush.
* `CameraHal.AppCallbackNotifier.FlushedExactly` — the queue is cleared of these, and each frame
  that is removed is returned to the provider and deleted once.

## Main results

* `CameraHal.AppCallbackNotifier.flushResizeQForFrame_eq` — what the two loops amount to.
* `CameraHal.AppCallbackNotifier.flushedExactly_iff` — a flush does so only if it is asked for no
  queued frame.
* `CameraHal.AppCallbackNotifier.queue_resizeFlush_iff` — the frames for which a flush leaves the
  right queue.
* `CameraHal.AppCallbackNotifier.deleted_resizeFlush` — what it removes is deleted once and not
  returned.
-/

namespace CameraHal

namespace AppCallbackNotifier

/-! ### The two loops -/

/-- The first loop of `flushResizeQForFrame`, over the messages that are left in the queue. It
returns the frames that are kept aside, and the deletions. -/
def drainResizeQ (s : AppCallbackNotifier) (frametype : FrameType) :
    List ℕ → List ℕ → List NotifierEvent → List ℕ × List NotifierEvent
  | [], reservedframe, deleted => (reservedframe, deleted)
  | frame :: queue, reservedframe, deleted =>
    if s.typeOf frame = frametype then
      s.drainResizeQ frametype queue reservedframe (deleted ++ [s.deleteEvent frame])
    else s.drainResizeQ frametype queue (reservedframe ++ [frame]) deleted

/-- The second loop: the frames that were kept aside are put back. -/
def refillResizeQ : List ℕ → List ℕ → List ℕ
  | [], queue => queue
  | frame :: reservedframe, queue => refillResizeQ reservedframe (queue ++ [frame])

/-- The first loop splits the queue by the frame type. -/
lemma drainResizeQ_eq (s : AppCallbackNotifier) (t : FrameType) (queue reserved : List ℕ)
    (deleted : List NotifierEvent) :
    s.drainResizeQ t queue reserved deleted =
      (reserved ++ queue.filter (fun p => s.typeOf p ≠ t),
        deleted ++ (queue.filter fun p => s.typeOf p = t).map s.deleteEvent) := by
  induction queue generalizing reserved deleted with
  | nil => simp [drainResizeQ]
  | cons p queue ih =>
    rw [drainResizeQ]
    split_ifs with ht
    · rw [ih]
      simp [ht]
    · rw [ih]
      simp [ht]

/-- The second loop keeps the order. -/
lemma refillResizeQ_eq (reserved queue : List ℕ) :
    refillResizeQ reserved queue = queue ++ reserved := by
  induction reserved generalizing queue with
  | nil => simp [refillResizeQ]
  | cons p reserved ih =>
    rw [refillResizeQ, ih, List.append_assoc]
    rfl

/-- **The two loops of `flushResizeQForFrame` delete the copies of one frame type and keep the
others in their order.** -/
theorem flushResizeQForFrame_eq (s : AppCallbackNotifier) (t : FrameType) :
    s.flushResizeQForFrame t =
      { s with mResizeQ := refillResizeQ (s.drainResizeQ t s.mResizeQ [] []).1 [] }.note
        (s.drainResizeQ t s.mResizeQ [] []).2 := by
  rw [drainResizeQ_eq, refillResizeQ_eq]
  rfl

/-! ### The whole flush -/

/-- A mask asks to flush the class of a frame type, which is the one that `resizeFrame` puts it
into. -/
def asked (flush : BitVec 32) (flags : ThreadFlags) : FrameType → Bool :=
  valid ⟨flushForPreview flush flags, flushForImage flush flags, flushForVideo flush flags⟩

/-- A mask asks to flush all classes. -/
def AskedAll (flush : BitVec 32) (flags : ThreadFlags) : Prop :=
  flushForImage flush flags ∧ flushForPreview flush flags ∧ flushForVideo flush flags

instance (flush : BitVec 32) (flags : ThreadFlags) : Decidable (AskedAll flush flags) :=
  inferInstanceAs (Decidable (_ ∧ _ ∧ _))

/-- The flush takes copies of a frame type out of the queue. -/
def removes (flush : BitVec 32) (flags : ThreadFlags) (t : FrameType) : Prop :=
  flushForImage flush flags ∧ t = .IMAGE_FRAME_SYNC ∨
    flushForPreview flush flags ∧ t = .PREVIEW_FRAME_SYNC ∨
    flushForVideo flush flags ∧ t = .VIDEO_FRAME_SYNC ∨ AskedAll flush flags

instance (flush : BitVec 32) (flags : ThreadFlags) : DecidablePred (removes flush flags) :=
  fun _ => inferInstanceAs (Decidable (_ ∨ _ ∨ _ ∨ _))

/-- After a flush the queue holds the frames of the other classes in their order, every frame that
was removed is returned to its provider and deleted once by what the flush has added to the log, and
no other copy is concerned. -/
structure FlushedExactly (s : AppCallbackNotifier) (flush : BitVec 32) : Prop where
  queue : (s.resizeFlush flush).mResizeQ =
    s.mResizeQ.filter fun p => !asked flush s.resizeThread (s.typeOf p)
  log : ∃ events, (s.resizeFlush flush).log = s.log ++ events ∧
    (∀ p ∈ s.mResizeQ, p ∉ (s.resizeFlush flush).mResizeQ →
      events.filter (NotifierEvent.about p) = [s.returnEvent p, s.deleteEvent p]) ∧
    ∀ p, p ∉ s.mResizeQ ∨ p ∈ (s.resizeFlush flush).mResizeQ →
      events.filter (NotifierEvent.about p) = []

/-- What the flush leaves in the queue. -/
lemma resizeFlush_mResizeQ (s : AppCallbackNotifier) (flush : BitVec 32) :
    (s.resizeFlush flush).mResizeQ =
      s.mResizeQ.filter fun p => ¬ removes flush s.resizeThread (s.typeOf p) := by
  cases himage : flushForImage flush s.resizeThread <;>
    cases hpreview : flushForPreview flush s.resizeThread <;>
      cases hvideo : flushForVideo flush s.resizeThread <;>
        simp [resizeFlush, removes, AskedAll, himage, hpreview, hvideo, flushResizeQ,
          flushResizeQForImage, flushResizeQForFrame, note, List.filter_filter, typeOf, frame,
          Bool.and_comm]

/-- Only classes that the mask asks for are removed. -/
lemma asked_of_removes {flush : BitVec 32} {flags : ThreadFlags} {t : FrameType}
    (h : removes flush flags t) : asked flush flags t = true := by
  rcases h with ⟨h, rfl⟩ | ⟨h, rfl⟩ | ⟨h, rfl⟩ | ⟨himage, hpreview, hvideo⟩
  · exact h
  · exact h
  · exact h
  · cases t
    · exact hpreview
    · exact hvideo
    · exact himage
    · exact himage
    · exact himage

/-- Frames of a class that the mask asks for are removed if their type is one of three, or if the
mask asks for everything. -/
lemma removes_iff {flush : BitVec 32} {flags : ThreadFlags} {t : FrameType}
    (h : asked flush flags t = true) :
    removes flush flags t ↔
      t = .PREVIEW_FRAME_SYNC ∨ t = .VIDEO_FRAME_SYNC ∨ t = .IMAGE_FRAME_SYNC ∨
        AskedAll flush flags := by
  cases t <;> simp_all [removes, asked, valid]

/-- **A flush leaves the frames of the other classes in the queue, in their order, exactly if each
queued frame of the classes that it is asked for is a preview, a recording or an image frame**,
unless all classes are asked for.

**Proof sketch.** What is removed is always of a class that is asked for. The converse fails for
the frames of the third class that are no image frames: nothing flushes these by themselves. -/
theorem queue_resizeFlush_iff (s : AppCallbackNotifier) (flush : BitVec 32) :
    (s.resizeFlush flush).mResizeQ =
        s.mResizeQ.filter (fun p => !asked flush s.resizeThread (s.typeOf p)) ↔
      ∀ p ∈ s.mResizeQ, asked flush s.resizeThread (s.typeOf p) = true →
        (s.typeOf p = .PREVIEW_FRAME_SYNC ∨ s.typeOf p = .VIDEO_FRAME_SYNC ∨
          s.typeOf p = .IMAGE_FRAME_SYNC ∨ AskedAll flush s.resizeThread) := by
  rw [resizeFlush_mResizeQ]
  constructor
  · intro hqueue p hp hasked
    rw [← removes_iff hasked]
    by_contra hnot
    have hkept : p ∈ s.mResizeQ.filter
        fun p => ¬ removes flush s.resizeThread (s.typeOf p) :=
      List.mem_filter.mpr ⟨hp, by simpa using hnot⟩
    rw [hqueue, List.mem_filter, hasked] at hkept
    exact Bool.false_ne_true hkept.2
  · intro h
    apply List.filter_congr
    intro p hp
    have hiff : removes flush s.resizeThread (s.typeOf p) ↔
        asked flush s.resizeThread (s.typeOf p) = true :=
      ⟨asked_of_removes, fun hasked => (removes_iff hasked).mpr (h p hp hasked)⟩
    simp [hiff]

/-- **What a flush removes is deleted once, and nothing else is said of it**: it is not returned. -/
theorem deleted_resizeFlush {s : AppCallbackNotifier} (flush : BitVec 32)
    (hq : s.custody.held.Nodup) :
    ∃ events, (s.resizeFlush flush).log = s.log ++ events ∧
      ∀ p, events.filter (NotifierEvent.about p) =
        if p ∈ s.mResizeQ ∧ removes flush s.resizeThread (s.typeOf p) then [s.deleteEvent p]
        else [] := by
  obtain ⟨out, hflush⟩ := flushes_resizeFlush s flush
  have hmem : ∀ p, p ∈ out ↔ p ∈ s.mResizeQ ∧ removes flush s.resizeThread (s.typeOf p) :=
    hflush.mem_out
  have hnodup : out.Nodup := (List.nodup_append'.mp (hflush.held.nodup_iff.mp hq)).1
  refine ⟨out.map s.deleteEvent, hflush.log, fun p => ?_⟩
  by_cases hp : p ∈ out
  · rw [if_pos ((hmem p).mp hp)]
    exact filter_map_delete_of_mem hnodup hp
  · rw [if_neg fun h => hp ((hmem p).mpr h)]
    exact filter_map_delete_of_notMem hp

/-- Deletions are not returns. -/
lemma returnEvent_notMem_delete (s : AppCallbackNotifier) (out : List ℕ) (p : ℕ) :
    s.returnEvent p ∉ out.map s.deleteEvent := by
  intro h
  obtain ⟨q, -, heq⟩ := List.mem_map.mp h
  cases heq

/-- **A flush clears the queue of the classes that it is asked for, and returns and deletes what it
removes, exactly if no queued frame is of such a class**: no flush returns a frame.

**Proof sketch.** A frame of a class that is asked for is removed or not. If it is not, the queue is
wrong; if it is, the log has its deletion alone. If there is none, nothing is removed. -/
theorem flushedExactly_iff (s : AppCallbackNotifier) (flush : BitVec 32) :
    FlushedExactly s flush ↔
      ∀ p ∈ s.mResizeQ, asked flush s.resizeThread (s.typeOf p) = false := by
  obtain ⟨out, hflush⟩ := flushes_resizeFlush s flush
  have hmem : ∀ p, p ∈ out ↔ p ∈ s.mResizeQ ∧ removes flush s.resizeThread (s.typeOf p) :=
    hflush.mem_out
  have hleft : ∀ p, p ∈ (s.resizeFlush flush).mResizeQ ↔
      p ∈ s.mResizeQ ∧ ¬ removes flush s.resizeThread (s.typeOf p) := hflush.mem_queue
  constructor
  · rintro ⟨hqueue, events, hlog, hremoved, -⟩ p hp
    by_contra hasked
    rw [Bool.not_eq_false] at hasked
    have hevents : events = out.map s.deleteEvent :=
      List.append_cancel_left (hlog.symm.trans hflush.log)
    have hremoves : removes flush s.resizeThread (s.typeOf p) := by
      by_contra hnot
      have hkept := (hleft p).mpr ⟨hp, hnot⟩
      rw [hqueue, List.mem_filter, hasked] at hkept
      exact Bool.false_ne_true hkept.2
    have hfreed := hremoved p hp fun h => ((hleft p).mp h).2 hremoves
    have hreturned : s.returnEvent p ∈ events.filter (NotifierEvent.about p) := by
      rw [hfreed]
      exact List.mem_cons_self
    rw [hevents] at hreturned
    exact returnEvent_notMem_delete s out p (List.mem_filter.mp hreturned).1
  · intro h
    have hnone : ∀ p ∈ s.mResizeQ, ¬ removes flush s.resizeThread (s.typeOf p) :=
      fun p hp hremoves => Bool.false_ne_true ((h p hp).symm.trans (asked_of_removes hremoves))
    have hout : out = [] := List.eq_nil_iff_forall_not_mem.mpr fun p hp =>
      hnone p ((hmem p).mp hp).1 ((hmem p).mp hp).2
    refine ⟨(queue_resizeFlush_iff s flush).mpr fun p hp hasked =>
      absurd ((h p hp).symm.trans hasked) Bool.false_ne_true, [], ?_, fun p hp hgone => ?_,
      fun p _ => rfl⟩
    · rw [hflush.log, hout]
      rfl
    · exact absurd ((hleft p).mpr ⟨hp, hnone p hp⟩) hgone

/-- A notifier with frames of given types in its resize queue. -/
def queuedFrames (types : List FrameType) : AppCallbackNotifier :=
  { create recordingSettings ⟨true, true, true⟩ ⟨true, true, true⟩ with
    mResizeQ := List.range types.length
    heap := types.map fun t => { recordingFrame with mFrameType := t } }

/-- A raw frame stays in the queue when the end of a capture flushes it, although it belongs to the
third class; an image frame is deleted and not returned. -/
theorem not_flushedExactly_rawFrame :
    ¬ FlushedExactly (queuedFrames [.RAW_FRAME_SYNC]) CAPTURE_STOP_FLUSH ∧
      ¬ FlushedExactly (queuedFrames [.IMAGE_FRAME_SYNC]) CAPTURE_STOP_FLUSH := by
  constructor
  · intro h
    have hqueue := h.queue
    revert hqueue
    decide
  · rintro ⟨-, events, hlog, hremoved, -⟩
    have hevents : events = [.delete 0 false] := by
      have hnew : [NotifierEvent.delete 0 false] = [] ++ events := hlog
      exact hnew.symm
    have hfreed := hremoved 0 (by decide) (by decide)
    rw [hevents] at hfreed
    revert hfreed
    decide

end AppCallbackNotifier

end CameraHal
