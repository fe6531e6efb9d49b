import Gs702aHal.Lib.KeyedVector
import Gs702aHal.Camera.StreamBuffer

set_option relaxedAutoImplicit false
set_option autoImplicit false

/-!
# Camera streams and the stream hub

`BaseCameraAdapter::CameraStream` is a table of stream buffers keyed by buffer address, and
`BaseCameraAdapter::CameraStreamHub` holds the two streams of the adapter together with the
subscribers of each frame type. This file has their tables and the operations that are
uninterrupted: registration of buffers, subscription, and the return of a frame. Sending a
frame, which runs the subscribers' callbacks on the way, is in `Gs702aHal.Camera.SendFrame`.

## Main definitions

* `CameraHal.CameraStream`, `CameraHal.CameraStreamHub` — the tables.
* `CameraHal.HubEvent` — the calls that leave or enter the hub.
* `CameraHal.CameraStreamHub.subscribe`, `unsubscribe`, `returnFrame` — the operations.

## Main results

* `CameraHal.CameraStreamHub.refCount_incRefCount`, `refCount_decRefCount`,
  `refCount_clearRefCount` — every reference count after every operation.
* `CameraHal.CameraStreamHub.Counted.decRefCount`, `Counted.clearRefCount` — the totals of
  all buffers stay in agreement with their counters.
* `CameraHal.CameraStreamHub.Counted.referenced_decRefCount`,
  `Counted.referenced_clearRefCount` — a referenced buffer stays so or is handed back.
-/

namespace CameraHal

open Status

/-- `CameraStream`: the buffers of a stream, by address. -/
abbrev CameraStream := KeyedVector Ptr CameraStreamBuffer

namespace CameraStream

/-- `addFrameBuffer`: a new buffer under an address, in place of an older one. -/
def addFrameBuffer (s : CameraStream) (frameBuf : Ptr) : CameraStream :=
  s.add frameBuf CameraStreamBuffer.fresh

/-- `removeAllFrameBuffer`. -/
def removeAllFrameBuffer (_ : CameraStream) : CameraStream := ∅

/-- `clearRefCount` of a stream: clear one frame type in every buffer. -/
def clearRefCount (s : CameraStream) (t : FrameType) : CameraStream :=
  s.mapValues fun _ b => (b.clearRefCount t).1

/-- The buffers that `clearRefCount` hands back, in table order. -/
def clearReturns (s : CameraStream) (t : FrameType) : List Ptr :=
  (s.entries.filter fun e => (e.2.clearRefCount t).2).map Sigma.fst

/-- A buffer is handed back by `clearRefCount` if and only if its own call hands it back. -/
lemma mem_clearReturns (s : CameraStream) (t : FrameType) (b : Ptr) :
    b ∈ s.clearReturns t ↔ ∃ buf, s.find? b = some buf ∧ (buf.clearRefCount t).2 = true := by
  simp only [clearReturns, List.mem_map, List.mem_filter]
  constructor
  · rintro ⟨⟨b', buf⟩, ⟨hmem, hret⟩, rfl⟩
    exact ⟨buf, List.mem_dlookup_iff s.nodupKeys |>.mpr hmem, hret⟩
  · rintro ⟨buf, hbuf, hret⟩
    exact ⟨⟨b, buf⟩, ⟨List.mem_dlookup_iff s.nodupKeys |>.mp hbuf, hret⟩, rfl⟩

/-- `clearRefCount` hands a buffer back once. -/
lemma nodup_clearReturns (s : CameraStream) (t : FrameType) : (s.clearReturns t).Nodup :=
  List.Nodup.sublist (List.filter_sublist.map _) s.nodupKeys

end CameraStream

/-- `CameraFrame`: the fields that the hub reads and sets. -/
structure CameraFrame where
  /-- The buffer that holds the frame. -/
  mBuffer : Ptr
  /-- The stream of the buffer. -/
  mStreamType : StreamType
  /-- The mapped address of the buffer. -/
  mVaddr : Ptr
  /-- The frame type that the frame is sent as. -/
  mFrameType : FrameType
  /-- The subscriber that the frame is sent to. -/
  mCookie : Ptr
  deriving DecidableEq, Repr

/-- What crosses the interface of the hub: a frame handed to a subscriber's callback, the
return of such a frame (`round` numbers the deliveries), and a buffer handed back to the
producer. -/
inductive HubEvent
  | callback (round : ℕ) (callback : Ptr) (frame : CameraFrame)
  | returned (round : ℕ)
  | fillThisBuffer (frameBuf : Ptr) (frameType : FrameType) (streamType : StreamType)
  deriving DecidableEq, Repr

/-- A hand-back of one buffer. -/
def HubEvent.isFillOf (s : StreamType) (b : Ptr) : HubEvent → Bool
  | .fillThisBuffer b' _ s' => s' = s ∧ b' = b
  | _ => false

/-- `CameraStreamHub`: the subscribers of each frame type (cookie and callback, a callback
address of `0` being `NULL`) and the two streams. -/
structure CameraStreamHub where
  /-- The subscribers, by frame type and cookie. -/
  mSubscribers : FrameType → KeyedVector Ptr Ptr
  /-- The streams. -/
  mStreams : StreamType → CameraStream
  deriving DecidableEq

namespace CameraStreamHub

variable (hub : CameraStreamHub)

/-- `getStreamBuffer` of a stream. -/
def buffer? (s : StreamType) (b : Ptr) : Option CameraStreamBuffer := (hub.mStreams s).find? b

/-- The reference count of one frame type on one buffer, `0` for an address that is not in the
stream. -/
def refCount (s : StreamType) (b : Ptr) (t : FrameType) : ℕ :=
  (hub.buffer? s b).elim 0 fun buf => buf.mRefCount t

/-- Replace one stream. -/
def setStream (s : StreamType) (stream : CameraStream) : CameraStreamHub :=
  { hub with mStreams := Function.update hub.mStreams s stream }

/-- Change one buffer in place. -/
def modifyBuffer (s : StreamType) (b : Ptr) (f : CameraStreamBuffer → CameraStreamBuffer) :
    CameraStreamHub :=
  hub.setStream s ((hub.mStreams s).modify b f)

/-- `incRefCount` of a registered buffer. -/
def incRefCount (s : StreamType) (b : Ptr) (t : FrameType) : CameraStreamHub :=
  hub.modifyBuffer s b (·.incRefCount t)

/-- `decRefCount` of a buffer, with the call of `fillThisBuffer` that `returnFrame` makes of
it. An address that is not in the stream is left alone. -/
def decRefCount (s : StreamType) (b : Ptr) (t : FrameType) :
    CameraStreamHub × List HubEvent :=
  match hub.buffer? s b with
  | none => (hub, [])
  | some buf =>
    (hub.modifyBuffer s b fun buf => (buf.decRefCount t).1,
      if (buf.decRefCount t).2 then [.fillThisBuffer b t s] else [])

/-- `clearRefCount` of both streams, in stream order. -/
def clearRefCount (t : FrameType) : CameraStreamHub × List HubEvent :=
  ({ hub with mStreams := fun s => (hub.mStreams s).clearRefCount t },
    ((hub.mStreams .PREVIEW_STREAM_TYPE).clearReturns t).map
        (.fillThisBuffer · t .PREVIEW_STREAM_TYPE) ++
      ((hub.mStreams .IMAGE_STREAM_TYPE).clearReturns t).map
        (.fillThisBuffer · t .IMAGE_STREAM_TYPE))

/-- `subscribe`. The frame type is given by its index. -/
def subscribe (frameTypeIndex : ℕ) (callback cookie : Ptr) : Status × CameraStreamHub :=
  match FrameType.ofIndex? frameTypeIndex with
  | none => (BAD_INDEX, hub)
  | some t =>
    (NO_ERROR, { hub with
      mSubscribers := Function.update hub.mSubscribers t
        ((hub.mSubscribers t).add cookie callback) })

/-- The removal of a cookie from the subscribers of a frame type. -/
def removeSubscriber (t : FrameType) (cookie : Ptr) : CameraStreamHub :=
  { hub with
    mSubscribers := Function.update hub.mSubscribers t
      ((hub.mSubscribers t).removeItem cookie) }

/-- `unsubscribe`. Only when no subscriber of the frame type is left are its references
cleared. -/
def unsubscribe (frameTypeIndex : ℕ) (cookie : Ptr) :
    Status × CameraStreamHub × List HubEvent :=
  match FrameType.ofIndex? frameTypeIndex with
  | none => (BAD_INDEX, hub, [])
  | some t =>
    let hub := hub.removeSubscriber t cookie
    if (hub.mSubscribers t).size > 0 then (NO_ERROR, hub, [])
    else (NO_ERROR, hub.clearRefCount t)

/-- `returnFrame`. With `UNKNOWN_STREAM_TYPE` (`none`) the preview stream is searched first,
then the image stream. -/
def returnFrame (frameBuf : Ptr) (t : FrameType) (streamType : Option StreamType) :
    CameraStreamHub × List HubEvent :=
  match streamType with
  | some s => hub.decRefCount s frameBuf t
  | none =>
    if (hub.buffer? .PREVIEW_STREAM_TYPE frameBuf).isSome then
      hub.decRefCount .PREVIEW_STREAM_TYPE frameBuf t
    else hub.decRefCount .IMAGE_STREAM_TYPE frameBuf t

/-- Some reference is held on a buffer. -/
def Referenced (s : StreamType) (b : Ptr) : Prop := ∃ t, 0 < hub.refCount s b t

/-- A return drops a reference in one of the streams. -/
lemma returnFrame_eq (frameBuf : Ptr) (t : FrameType) (streamType : Option StreamType) :
    ∃ s, hub.returnFrame frameBuf t streamType = hub.decRefCount s frameBuf t := by
  unfold returnFrame
  cases streamType with
  | some s => exact ⟨s, rfl⟩
  | none =>
    simp only
    split_ifs
    · exact ⟨.PREVIEW_STREAM_TYPE, rfl⟩
    · exact ⟨.IMAGE_STREAM_TYPE, rfl⟩

/-- The totals of all buffers agree with their counters. -/
def Counted : Prop := ∀ s b buf, hub.buffer? s b = some buf → buf.Counted

/-! ### Lookups after the operations -/

/-- Lookup after the change of one buffer. -/
lemma buffer?_modifyBuffer (s s' : StreamType) (b b' : Ptr)
    (f : CameraStreamBuffer → CameraStreamBuffer) :
    (hub.modifyBuffer s b f).buffer? s' b' =
      if s' = s ∧ b' = b then (hub.buffer? s' b').map f else hub.buffer? s' b' := by
  simp only [buffer?, modifyBuffer, setStream]
  by_cases hs : s' = s
  · subst hs
    simp [KeyedVector.find?_modify]
  · simp [hs]

/-- Lookup after `decRefCount`. -/
lemma buffer?_decRefCount (s s' : StreamType) (b b' : Ptr) (t : FrameType) :
    (hub.decRefCount s b t).1.buffer? s' b' =
      if s' = s ∧ b' = b then (hub.buffer? s' b').map fun buf => (buf.decRefCount t).1
      else hub.buffer? s' b' := by
  unfold decRefCount
  cases hbuf : hub.buffer? s b with
  | none =>
    split_ifs with h
    · rw [h.1, h.2, hbuf, Option.map_none]
    · rfl
  | some buf => exact hub.buffer?_modifyBuffer s s' b b' _

/-- Lookup after `clearRefCount`. -/
lemma buffer?_clearRefCount (t : FrameType) (s : StreamType) (b : Ptr) :
    (hub.clearRefCount t).1.buffer? s b =
      (hub.buffer? s b).map fun buf => (buf.clearRefCount t).1 :=
  KeyedVector.find?_mapValues _ _ _

/-- Unsubscribing touches no buffer. -/
@[simp] lemma buffer?_removeSubscriber (t : FrameType) (cookie : Ptr) (s : StreamType)
    (b : Ptr) : (hub.removeSubscriber t cookie).buffer? s b = hub.buffer? s b := rfl

/-- The counts after `incRefCount`. -/
lemma refCount_incRefCount (s s' : StreamType) (b b' : Ptr) (t t' : FrameType) :
    (hub.incRefCount s b t).refCount s' b' t' = hub.refCount s' b' t' +
      if (s' = s ∧ b' = b) ∧ t' = t ∧ (hub.buffer? s b).isSome then 1 else 0 := by
  simp only [refCount, incRefCount, buffer?_modifyBuffer]
  by_cases h : s' = s ∧ b' = b
  · obtain ⟨rfl, rfl⟩ := h
    cases hub.buffer? s' b' with
    | none => simp
    | some buf => simp [CameraStreamBuffer.mRefCount_incRefCount]
  · simp [h]

/-- The counts after `decRefCount`. -/
lemma refCount_decRefCount (s s' : StreamType) (b b' : Ptr) (t t' : FrameType) :
    (hub.decRefCount s b t).1.refCount s' b' t' = hub.refCount s' b' t' -
      if (s' = s ∧ b' = b) ∧ t' = t then 1 else 0 := by
  unfold decRefCount
  cases hbuf : hub.buffer? s b with
  | none =>
    by_cases h : s' = s ∧ b' = b
    · obtain ⟨rfl, rfl⟩ := h
      simp [refCount, hbuf]
    · simp [h]
  | some buf =>
    simp only [refCount, buffer?_modifyBuffer]
    by_cases h : s' = s ∧ b' = b
    · obtain ⟨rfl, rfl⟩ := h
      simp [hbuf, CameraStreamBuffer.mRefCount_decRefCount]
    · simp [h]

/-- `incRefCount` registers and removes nothing. -/
@[simp] lemma isSome_buffer?_incRefCount (s s' : StreamType) (b b' : Ptr) (t : FrameType) :
    ((hub.incRefCount s b t).buffer? s' b').isSome = (hub.buffer? s' b').isSome := by
  rw [incRefCount, buffer?_modifyBuffer]
  split_ifs <;> simp

/-- `decRefCount` registers and removes nothing. -/
@[simp] lemma isSome_buffer?_decRefCount (s s' : StreamType) (b b' : Ptr) (t : FrameType) :
    ((hub.decRefCount s b t).1.buffer? s' b').isSome = (hub.buffer? s' b').isSome := by
  unfold decRefCount
  cases hub.buffer? s b with
  | none => rfl
  | some buf =>
    simp only [buffer?_modifyBuffer]
    split_ifs <;> simp

/-- `clearRefCount` hands a registered buffer back once, if its own call does so. -/
lemma countP_clearRefCount {s : StreamType} {b : Ptr} {buf : CameraStreamBuffer}
    (hbuf : hub.buffer? s b = some buf) (t : FrameType) :
    (hub.clearRefCount t).2.countP (HubEvent.isFillOf s b) =
      if (buf.clearRefCount t).2 then 1 else 0 := by
  -- only the part of the buffer's own stream counts, and lists the buffer at most once
  have hpart : ∀ s', (((hub.mStreams s').clearReturns t).map
      fun b => HubEvent.fillThisBuffer b t s').countP (HubEvent.isFillOf s b) =
        if s' = s ∧ (buf.clearRefCount t).2 then 1 else 0 := by
    intro s'
    rw [List.countP_map]
    by_cases hs : s' = s
    · subst hs
      have hcount : ∀ l : List Ptr, l.countP (HubEvent.isFillOf s' b ∘
          fun b' => HubEvent.fillThisBuffer b' t s') = l.count b := fun l =>
        List.countP_congr fun b' _ => by simp [HubEvent.isFillOf]
      rw [hcount, List.Nodup.count (CameraStream.nodup_clearReturns _ t)]
      have hmem := CameraStream.mem_clearReturns (hub.mStreams s') t b
      rw [show (hub.mStreams s').find? b = some buf from hbuf] at hmem
      simp only [Option.some.injEq, exists_eq_left'] at hmem
      simp only [hmem, true_and]
    · rw [List.countP_eq_zero.mpr fun b' _ => by simp [HubEvent.isFillOf, hs]]
      simp [hs]
  simp only [clearRefCount, List.countP_append, hpart]
  cases s <;> simp

variable {hub}

/-- The change of one buffer keeps the totals in agreement if it does so on that buffer. -/
lemma Counted.modifyBuffer (h : hub.Counted) (s : StreamType) (b : Ptr)
    {f : CameraStreamBuffer → CameraStreamBuffer} (hf : ∀ buf, buf.Counted → (f buf).Counted) :
    (hub.modifyBuffer s b f).Counted := by
  intro s' b' buf' hbuf'
  rw [buffer?_modifyBuffer] at hbuf'
  split_ifs at hbuf'
  · obtain ⟨buf, hbuf, rfl⟩ := Option.map_eq_some_iff.mp hbuf'
    exact hf buf (h s' b' buf hbuf)
  · exact h s' b' buf' hbuf'

/-- `incRefCount` keeps the totals in agreement. -/
lemma Counted.incRefCount (h : hub.Counted) (s : StreamType) (b : Ptr) (t : FrameType) :
    (hub.incRefCount s b t).Counted :=
  h.modifyBuffer s b fun _ hb => hb.incRefCount t

/-- `decRefCount` keeps the totals in agreement. -/
lemma Counted.decRefCount (h : hub.Counted) (s : StreamType) (b : Ptr) (t : FrameType) :
    (hub.decRefCount s b t).1.Counted := by
  unfold CameraStreamHub.decRefCount
  cases hub.buffer? s b with
  | none => exact h
  | some buf => exact h.modifyBuffer s b fun _ hb => hb.decRefCount t

/-- `clearRefCount` keeps the totals in agreement. -/
lemma Counted.clearRefCount (h : hub.Counted) (t : FrameType) :
    (hub.clearRefCount t).1.Counted := by
  intro s b buf' hbuf'
  rw [buffer?_clearRefCount] at hbuf'
  obtain ⟨buf, hbuf, rfl⟩ := Option.map_eq_some_iff.mp hbuf'
  exact (h s b buf hbuf).clearRefCount t

/-- A reference dropped by `decRefCount` hands the buffer back exactly if it was the last. -/
lemma Counted.mem_decRefCount (h : hub.Counted) {s : StreamType} {b : Ptr}
    {buf : CameraStreamBuffer} (hbuf : hub.buffer? s b = some buf) (t : FrameType) :
    (hub.decRefCount s b t).2 = [.fillThisBuffer b t s] ∧ 0 < buf.mRefCountSum ∧
        (buf.decRefCount t).1.mRefCountSum = 0 ∨
      (hub.decRefCount s b t).2 = [] ∧
        ¬ (0 < buf.mRefCountSum ∧ (buf.decRefCount t).1.mRefCountSum = 0) := by
  have hfire := CameraStreamBuffer.decRefCount_fires t (h s b buf hbuf)
  simp only [CameraStreamHub.decRefCount, hbuf]
  by_cases hf : (buf.decRefCount t).2 = true
  · exact Or.inl ⟨by rw [if_pos hf], hfire.mp hf⟩
  · exact Or.inr ⟨by rw [if_neg hf], fun hc => hf (hfire.mpr hc)⟩

/-- A registered buffer is referenced if and only if its total is positive. -/
lemma Counted.referenced_iff (h : hub.Counted) {s : StreamType} {b : Ptr}
    {buf : CameraStreamBuffer} (hbuf : hub.buffer? s b = some buf) :
    hub.Referenced s b ↔ 0 < buf.mRefCountSum := by
  rw [(h s b buf hbuf).sum_pos]
  simp only [Referenced, refCount, hbuf, Option.elim_some]

/-- A reference taken is held. -/
lemma referenced_incRefCount (s s' : StreamType) (b b' : Ptr) (t : FrameType) :
    (hub.incRefCount s b t).Referenced s' b' ↔
      hub.Referenced s' b' ∨ (s' = s ∧ b' = b) ∧ (hub.buffer? s b).isSome := by
  simp only [Referenced, refCount_incRefCount]
  constructor
  · rintro ⟨t', ht'⟩
    split_ifs at ht' with hinc
    · exact Or.inr ⟨hinc.1, hinc.2.2⟩
    · exact Or.inl ⟨t', ht'⟩
  · rintro (⟨t', ht'⟩ | ⟨hon, hsome⟩)
    · exact ⟨t', Nat.lt_of_lt_of_le ht' (Nat.le_add_right _ _)⟩
    · refine ⟨t, ?_⟩
      rw [if_pos ⟨hon, rfl, hsome⟩]
      exact Nat.succ_pos _

/-- **A buffer that was referenced is still referenced or has been handed back.** Dropping a
reference does neither to a buffer that was not.

**Proof sketch.** The total of the buffer falls by one or stays. It is handed back exactly if the
total becomes zero. -/
theorem Counted.referenced_decRefCount (h : hub.Counted) (s s' : StreamType) (b b' : Ptr)
    (t : FrameType) :
    ((hub.decRefCount s b t).1.Referenced s' b' ∨
        ∃ t', .fillThisBuffer b' t' s' ∈ (hub.decRefCount s b t).2) ↔
      hub.Referenced s' b' := by
  by_cases hon : s' = s ∧ b' = b
  · obtain ⟨rfl, rfl⟩ := hon
    cases hbuf : hub.buffer? s' b' with
    | none => simp [CameraStreamHub.decRefCount, hbuf]
    | some buf =>
      have hbuf' := hub.buffer?_decRefCount s' s' b' b' t
      rw [if_pos ⟨rfl, rfl⟩, hbuf, Option.map_some] at hbuf'
      rw [h.referenced_iff hbuf, (h.decRefCount s' b' t).referenced_iff hbuf']
      have hle : (buf.decRefCount t).1.mRefCountSum ≤ buf.mRefCountSum := by
        unfold CameraStreamBuffer.decRefCount
        split_ifs
        · exact Nat.sub_le _ _
        · exact le_rfl
      rcases h.mem_decRefCount hbuf t with ⟨hevents, hpos, hzero⟩ | ⟨hevents, hnot⟩
      · simp [hevents, hpos]
      · simp only [hevents, List.not_mem_nil, exists_false, or_false]
        omega
  · have hevents : ∀ t', .fillThisBuffer b' t' s' ∉ (hub.decRefCount s b t).2 := by
      intro t' hmem
      unfold CameraStreamHub.decRefCount at hmem
      cases hbuf : hub.buffer? s b with
      | none =>
        rw [hbuf] at hmem
        exact List.not_mem_nil hmem
      | some buf =>
        simp only [hbuf] at hmem
        split_ifs at hmem
        · obtain ⟨hb, -, hs⟩ := HubEvent.fillThisBuffer.inj (List.mem_singleton.mp hmem)
          exact hon ⟨hs, hb⟩
        · exact List.not_mem_nil hmem
    have hcount : ∀ t', (hub.decRefCount s b t).1.refCount s' b' t' = hub.refCount s' b' t' := by
      intro t'
      rw [refCount_decRefCount, if_neg fun hc => hon hc.1, Nat.sub_zero]
    simp only [Referenced, hcount, hevents, exists_false, or_false]

/-- `clearRefCount` hands a buffer back in the stream that lists it. -/
lemma exists_mem_clearRefCount (t : FrameType) (s : StreamType) (b : Ptr) :
    (∃ t', .fillThisBuffer b t' s ∈ (hub.clearRefCount t).2) ↔
      b ∈ (hub.mStreams s).clearReturns t := by
  simp only [CameraStreamHub.clearRefCount, List.mem_append, List.mem_map,
    HubEvent.fillThisBuffer.injEq]
  constructor
  · rintro ⟨t', ⟨b', hb', rfl, -, rfl⟩ | ⟨b', hb', rfl, -, rfl⟩⟩ <;> exact hb'
  · intro hb
    cases s with
    | PREVIEW_STREAM_TYPE => exact ⟨t, Or.inl ⟨b, hb, rfl, rfl, rfl⟩⟩
    | IMAGE_STREAM_TYPE => exact ⟨t, Or.inr ⟨b, hb, rfl, rfl, rfl⟩⟩

/-- **Clearing the references of a frame type loses no buffer** either: a buffer that was
referenced is still referenced or has been handed back, and no other is. -/
theorem Counted.referenced_clearRefCount (h : hub.Counted) (t : FrameType) (s : StreamType)
    (b : Ptr) :
    ((hub.clearRefCount t).1.Referenced s b ∨
        ∃ t', .fillThisBuffer b t' s ∈ (hub.clearRefCount t).2) ↔ hub.Referenced s b := by
  rw [exists_mem_clearRefCount, CameraStream.mem_clearReturns]
  have hbuf' := hub.buffer?_clearRefCount t s b
  cases hbuf : hub.buffer? s b with
  | none =>
    rw [hbuf, Option.map_none] at hbuf'
    rw [show (hub.mStreams s).find? b = none from hbuf]
    simp [Referenced, refCount, hbuf, hbuf']
  | some buf =>
    rw [hbuf, Option.map_some] at hbuf'
    rw [show (hub.mStreams s).find? b = some buf from hbuf, h.referenced_iff hbuf,
      (h.clearRefCount t).referenced_iff hbuf']
    have hle : (buf.clearRefCount t).1.mRefCountSum ≤ buf.mRefCountSum := by
      simp only [CameraStreamBuffer.clearRefCount, CameraStreamBuffer.clearSection]
      split_ifs
      · exact Nat.sub_le _ _
      · exact le_rfl
    simp only [Option.some.injEq, exists_eq_left', CameraStreamBuffer.clearRefCount_fires]
    omega

end CameraStreamHub

end CameraHal
