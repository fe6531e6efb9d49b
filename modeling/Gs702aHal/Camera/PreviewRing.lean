import Gs702aHal.Lib.RingWindow
import Gs702aHal.Camera.CallbackNotifier

set_option relaxedAutoImplicit false
set_option autoImplicit false

/-!
# The preview ring

With `USE_PREVIEWBUF_AS_VIDEOBUF`, preview and recording frames are copied into one ring of
slots. Preview frames take the slots in turn; a recording frame takes the slot that belongs to its
camera buffer. A frame waits in the frame queue with the number of its slot until the notification
thread takes it. The thread takes it under the lock of the queue and calls the application without
the lock, so that the resize thread may copy in between. The application keeps the slot of a
recording frame until it releases it.

The ring is laid over the notifier: every step of the ring is a step of the notifier in which the
memory of a frame is a slot. The resize thread's copy and its message to the frame queue are one
step: the frame queue is only flushed after the thread has answered a flush of its own.

## Main definitions

* `CameraHal.RingMemory` — the memory of one preview, with what its maps keep as fields.
* `CameraHal.PreviewRing`, `CameraHal.PreviewRing.step` — the notifier with its ring, and with the
  frame in the hand of the notification thread.
* `CameraHal.PreviewRing.Intact` — every frame finds its own bytes.
* `CameraHal.PreviewRing.Careful` — the condition on a step.
* `CameraHal.PreviewRing.WellFormed` — the invariant: which slots are in use.

## Main results

* `CameraHal.PreviewRing.toAppCallbackNotifier_step` — the ring refines the notifier.
* `CameraHal.PreviewRing.WellFormed.step` — the invariant is kept.
* `CameraHal.PreviewRing.intact_step_iff` — a step leaves the frames intact exactly if it is
  careful.
* `CameraHal.PreviewRing.always_intact_iff` — the frames stay intact throughout a run if and only
  if all its steps are careful.
-/

namespace CameraHal

/-- `PREVIEW_COPY_BUFFERS`. -/
def PREVIEW_COPY_BUFFERS : ℕ := 8

/-- The memory that `startPreviewCallbacks` requests, and the maps between the camera's buffers and
the slots that recording frames in them take. -/
structure RingMemory where
  mPreviewMemoryCount : ℕ
  mVideoMemoryCount : ℕ
  mVideoMemoryMap : KeyedVector Ptr ℕ
  mVideoMemoryReverseMap : KeyedVector ℕ Ptr
  count_pos : 0 < mPreviewMemoryCount
  video_le : mVideoMemoryCount ≤ mPreviewMemoryCount
  map_lt : ∀ {b i}, mVideoMemoryMap.find? b = some i → i < mVideoMemoryCount
  reverse : ∀ {b i}, mVideoMemoryMap.find? b = some i → mVideoMemoryReverseMap.find? i = some b

namespace RingMemory

/-- The memory that `startPreviewCallbacks` requests for the camera's buffers. -/
def allocate (bufArr : List Ptr) : RingMemory where
  mPreviewMemoryCount :=
    if bufArr.length < PREVIEW_COPY_BUFFERS then PREVIEW_COPY_BUFFERS else bufArr.length
  mVideoMemoryCount := bufArr.length
  mVideoMemoryMap := KeyedVector.addAll ∅ bufArr.zipIdx
  mVideoMemoryReverseMap := KeyedVector.addAll ∅ (bufArr.zipIdx.map Prod.swap)
  count_pos := by
    unfold PREVIEW_COPY_BUFFERS
    split_ifs <;> omega
  video_le := by
    split_ifs <;> omega
  map_lt := by
    intro b i h
    rcases KeyedVector.mem_of_find?_addAll h with hmem | hnone
    · exact (List.getElem?_eq_some_iff.mp (List.mem_zipIdx_iff_getElem?.mp hmem)).1
    · exact absurd hnone (by simp)
  reverse := by
    intro b i h
    have hnodup : ((bufArr.zipIdx.map Prod.swap).map Prod.fst).Nodup := by
      have hkeys : (bufArr.zipIdx.map Prod.swap).map Prod.fst = List.range bufArr.length := by
        rw [List.map_map, List.range_eq_range']
        exact List.zipIdx_map_snd 0 bufArr
      rw [hkeys]
      exact List.nodup_range
    rcases KeyedVector.mem_of_find?_addAll h with hmem | hnone
    · exact KeyedVector.find?_addAll_of_mem hnodup (List.mem_map_of_mem hmem)
    · exact absurd hnone (by simp)

/-- Different buffers have different slots. -/
lemma map_injective (m : RingMemory) {b b' : Ptr} {i : ℕ}
    (h : m.mVideoMemoryMap.find? b = some i) (h' : m.mVideoMemoryMap.find? b' = some i) :
    b = b' :=
  Option.some.inj ((m.reverse h).symm.trans (m.reverse h'))

/-- The slots of recording frames are slots of the ring. -/
lemma slot_lt (m : RingMemory) {b : Ptr} {i : ℕ} (h : m.mVideoMemoryMap.find? b = some i) :
    i < m.mPreviewMemoryCount :=
  lt_of_lt_of_le (m.map_lt h) m.video_le

end RingMemory

/-- A frame that the notification thread has taken and calls the application with: its slot and
its copy, and whether it goes to the encoder, with `mDataCbTimestamp`, or not, with `mDataCb`. -/
structure TakenFrame where
  index : ℕ
  copy : ℕ
  recorded : Bool

/-- The slot and the copy of a frame. -/
def TakenFrame.reference (f : TakenFrame) : ℕ × ℕ := (f.index, f.copy)

/-- The notifier while it is previewing, with its ring. -/
structure PreviewRing extends AppCallbackNotifier where
  memory : RingMemory
  mPreviewMemoryIndex : ℕ
  /-- The copy whose frame a slot holds the bytes of. -/
  bytes : ℕ → Option ℕ
  /-- The frame in the hand of the notification thread. -/
  taken : Option TakenFrame
  /-- The slots, with their copies, that were handed to the encoder and not released. -/
  encoder : List (ℕ × ℕ)
  /-- The frames that the application received out of the ring, and whose bytes these were. -/
  received : List (ℕ × Option ℕ)

namespace PreviewRing

/-- A step of the notifier that does not concern the ring. -/
def outsideRing : AppCallbackNotifier.Action → Bool
  | .resizeFrame _ => false
  | .notifyFrame _ => false
  | .releaseRecordingFrame _ => false
  | _ => true

/-- The steps. `notifyFrame` goes as far as its callback into the application, which is a step of
its own. Recording frames are released by their slot; `memory` tells whether there is memory for a
picture. -/
inductive Action
  | resizeFrame (memory : Bool)
  | notifyFrame (metadata : Bool)
  | callback
  | releaseRecordingFrame (mem : ℕ)
  | other (a : AppCallbackNotifier.Action) (h : outsideRing a)

/-- The notifier takes a step, and the ring stays as it is. -/
def withNotifier (s : PreviewRing) (a : AppCallbackNotifier) : PreviewRing :=
  { s with toAppCallbackNotifier := a }

/-- `resizeFrame` with a copy into a slot. -/
def copyInto (s : PreviewRing) (index p : ℕ) : PreviewRing :=
  { s with
    toAppCallbackNotifier := s.toAppCallbackNotifier.resizeFrame (some index)
    bytes := Function.update s.bytes index (some p) }

/-- `resizeRawFrame` gets as far as to choose the memory for a copy. -/
def choosesMemory (s : AppCallbackNotifier) (p : ℕ) : Bool :=
  AppCallbackNotifier.valid s.resizeThread (s.typeOf p) && s.settings.started &&
    (s.frame p).mBuffer != NULL

/-- `resizeFrame`. -/
def resizeFrame (s : PreviewRing) (memory : Bool) : PreviewRing :=
  let a := s.toAppCallbackNotifier
  match s.mResizeQ with
  | [] => s
  | p :: _ =>
    if ¬ choosesMemory a p then s.withNotifier (a.resizeFrame none)
    else match a.typeOf p with
    | .VIDEO_FRAME_SYNC =>
      match s.memory.mVideoMemoryMap.find? (a.frame p).mBuffer with
      | none => s  -- `valueFor` aborts the process
      | some index =>
        if s.memory.mVideoMemoryCount ≤ index then s.withNotifier (a.resizeFrame none)
        else s.copyInto index p
    | .PREVIEW_FRAME_SYNC =>
      { s.copyInto s.mPreviewMemoryIndex p with
        mPreviewMemoryIndex := (s.mPreviewMemoryIndex + 1) % s.memory.mPreviewMemoryCount }
    | _ => s.withNotifier (a.resizeFrame (if memory then some 0 else none))

/-- The frame of the ring that the application is called with for one message. -/
def takes (s : PreviewRing) : FrameMessage → Option TakenFrame
  | .PROCESS_MEMORY_FRAME p (some index) =>
    if s.recordsMemory p then some ⟨index, p, true⟩
    else if s.typeOf p = .PREVIEW_FRAME_SYNC ∧ s.dataCallbacks p index ≠ [] then
      some ⟨index, p, false⟩
    else none
  | _ => none

/-- `notifyFrame` up to its callback. There is one notification thread, which takes no message
while it has one in its hand. -/
def notifyFrame (s : PreviewRing) (metadata : Bool) : PreviewRing :=
  match s.taken, s.mFrameQ with
  | none, msg :: _ =>
    { s with
      toAppCallbackNotifier := s.toAppCallbackNotifier.notifyFrame metadata
      taken := s.takes msg }
  | _, _ => s

/-- `mDataCb` or `mDataCbTimestamp`: the application receives what is in the slot by then. -/
def callback (s : PreviewRing) : PreviewRing :=
  match s.taken with
  | none => s
  | some f =>
    { s with
      taken := none
      encoder := if f.recorded then s.encoder ++ [f.reference] else s.encoder
      received := s.received ++ [(f.copy, s.bytes f.index)] }

/-- `releaseRecordingFrame` for a slot of the ring, which the maps of metadata buffers do not
know. -/
def releaseRecordingFrame (s : PreviewRing) (mem : ℕ) : PreviewRing :=
  if s.settings.mUseMetaDataBufferMode then s
  else match s.memory.mVideoMemoryReverseMap.find? mem with
  | none => s
  | some frame =>
    { s with
      toAppCallbackNotifier := s.toAppCallbackNotifier.step (.releaseRecordingFrame frame)
      encoder := s.encoder.filter fun e => e.1 ≠ mem }

/-- One step. -/
def step (s : PreviewRing) : Action → PreviewRing
  | .resizeFrame memory => s.resizeFrame memory
  | .notifyFrame metadata => s.notifyFrame metadata
  | .callback => s.callback
  | .releaseRecordingFrame mem => s.releaseRecordingFrame mem
  | .other a _ => s.withNotifier (s.toAppCallbackNotifier.step a)

/-- The ring that `startPreviewCallbacks` lays over the notifier. -/
def startPreviewCallbacks (s : AppCallbackNotifier) (bufArr : List Ptr) : PreviewRing where
  toAppCallbackNotifier := s
  memory := RingMemory.allocate bufArr
  mPreviewMemoryIndex := 0
  bytes := fun _ => none
  taken := none
  encoder := []
  received := []

/-! ### The frames in the ring -/

/-- The slot and the copy of a message, if it carries a frame of a type with memory. -/
def slot? (s : AppCallbackNotifier) (t : FrameType) : FrameMessage → Option (ℕ × ℕ)
  | .PROCESS_MEMORY_FRAME p (some index) => if s.typeOf p = t then some (index, p) else none
  | _ => none

/-- The slots and copies of the queued frames of a type. -/
def queued (s : AppCallbackNotifier) (t : FrameType) : List (ℕ × ℕ) :=
  s.mFrameQ.filterMap (slot? s t)

/-- The slots and copies of the recording frames that are queued, or with the encoder. -/
def outstanding (s : PreviewRing) : List (ℕ × ℕ) :=
  queued s.toAppCallbackNotifier .VIDEO_FRAME_SYNC ++ s.encoder

/-- The slot and the copy of the frame in the hand of the notification thread. -/
def inHand (s : PreviewRing) : List (ℕ × ℕ) := (s.taken.map TakenFrame.reference).toList

/-- All slots in use, with their copies. -/
def references (s : PreviewRing) : List (ℕ × ℕ) :=
  s.inHand ++ (queued s.toAppCallbackNotifier .PREVIEW_FRAME_SYNC ++ s.outstanding)

/-- No slot was overwritten while a frame that is queued or in the hand of the notification thread,
or the encoder, refers to it, and the application received the bytes of every frame with the
frame. -/
structure Intact (s : PreviewRing) : Prop where
  references : ∀ e ∈ s.references, s.bytes e.1 = some e.2
  received : ∀ r ∈ s.received, r.2 = some r.1

/-- The number of preview frames that wait in the frame queue. -/
def waiting (s : PreviewRing) : ℕ :=
  (queued s.toAppCallbackNotifier .PREVIEW_FRAME_SYNC).length

/-- The buffer of a copy is the one whose recording frames take a slot. -/
def hasSlot (s : PreviewRing) (p index : ℕ) : Prop :=
  s.memory.mVideoMemoryMap.find? (s.frame p).mBuffer = some index

/-- The condition on the copy of a frame. The frame in the hand of the notification thread is not in
the slot that is copied into. A preview frame is copied while fewer preview frames wait than the
ring has slots, and it is not the turn of the slot of an outstanding recording frame's buffer. A
recording frame is copied while no other recording frame of its buffer is outstanding, and the
waiting preview frames, which take the slots before the one whose turn it is, do not reach back to
its slot. -/
def CarefulCopy (s : PreviewRing) (p : ℕ) : Prop :=
  match s.typeOf p with
  | .PREVIEW_FRAME_SYNC => (∀ f ∈ s.taken, f.index ≠ s.mPreviewMemoryIndex) ∧
      s.waiting < s.memory.mPreviewMemoryCount ∧
        ∀ e ∈ s.outstanding, ¬ s.hasSlot e.2 s.mPreviewMemoryIndex
  | .VIDEO_FRAME_SYNC => ∀ index, s.hasSlot p index →
      (∀ f ∈ s.taken, f.index ≠ index) ∧
        (∀ e ∈ s.outstanding, (s.frame e.2).mBuffer ≠ (s.frame p).mBuffer) ∧
          s.waiting ≤
            RingWindow.distance s.memory.mPreviewMemoryCount s.mPreviewMemoryIndex index
  | _ => True

/-- The condition on a step. -/
def Careful (s : PreviewRing) : Action → Prop
  | .resizeFrame _ => ∀ p ∈ s.mResizeQ.head?,
      choosesMemory s.toAppCallbackNotifier p → s.CarefulCopy p
  | _ => True

/-! ### The ring refines the notifier -/

/-- What `resizeFrame` does: nothing, a step of the notifier with memory outside the ring or none,
or the copy of a preview frame or of a recording frame into its slot. -/
inductive Resized (s : PreviewRing) : PreviewRing → Prop
  | nothing (h : ∀ p ∈ s.mResizeQ.head?, s.CarefulCopy p) : Resized s s
  | pass (p : ℕ) (m : Option ℕ) (hq : p ∈ s.mResizeQ.head?)
    (hm : m = none ∨ s.typeOf p ≠ .PREVIEW_FRAME_SYNC ∧ s.typeOf p ≠ .VIDEO_FRAME_SYNC)
    (h : choosesMemory s.toAppCallbackNotifier p → s.CarefulCopy p) :
    Resized s (s.withNotifier (s.toAppCallbackNotifier.resizeFrame m))
  | preview (p : ℕ) (hq : p ∈ s.mResizeQ.head?)
    (hchooses : choosesMemory s.toAppCallbackNotifier p)
    (htype : s.typeOf p = .PREVIEW_FRAME_SYNC) :
    Resized s { s.copyInto s.mPreviewMemoryIndex p with
      mPreviewMemoryIndex := (s.mPreviewMemoryIndex + 1) % s.memory.mPreviewMemoryCount }
  | video (p index : ℕ) (hq : p ∈ s.mResizeQ.head?)
    (hchooses : choosesMemory s.toAppCallbackNotifier p)
    (htype : s.typeOf p = .VIDEO_FRAME_SYNC) (hslot : s.hasSlot p index) :
    Resized s (s.copyInto index p)

/-- A recording frame whose buffer has no slot is not copied. -/
lemma carefulCopy_of_noSlot {s : PreviewRing} {p : ℕ} (htype : s.typeOf p = .VIDEO_FRAME_SYNC)
    (hslot : s.memory.mVideoMemoryMap.find? (s.frame p).mBuffer = none) : s.CarefulCopy p := by
  simp [CarefulCopy, htype, hasSlot, hslot]

/-- A frame that is no preview and no recording frame is not copied into the ring. -/
lemma carefulCopy_of_picture {s : PreviewRing} {p : ℕ}
    (h : s.typeOf p ≠ .PREVIEW_FRAME_SYNC ∧ s.typeOf p ≠ .VIDEO_FRAME_SYNC) :
    s.CarefulCopy p := by
  unfold CarefulCopy
  split
  · exact absurd ‹_› h.1
  · exact absurd ‹_› h.2
  · trivial

/-- `resizeFrame` does one of these things. -/
lemma resized_resizeFrame (s : PreviewRing) (memory : Bool) : Resized s (s.resizeFrame memory) := by
  unfold resizeFrame
  cases hq : s.mResizeQ with
  | nil => exact .nothing (by simp [hq])
  | cons p rest =>
    have hhead : p ∈ s.mResizeQ.head? := by simp [hq]
    by_cases hchooses : choosesMemory s.toAppCallbackNotifier p
    · simp only [hchooses, not_true_eq_false, if_false]
      cases htype : s.typeOf p with
      | VIDEO_FRAME_SYNC =>
        cases hslot : s.memory.mVideoMemoryMap.find? (s.frame p).mBuffer with
        | none =>
          refine .nothing fun q hq' => ?_
          obtain rfl := Option.mem_unique hhead hq'
          exact carefulCopy_of_noSlot htype hslot
        | some index =>
          have hlt := s.memory.map_lt hslot
          simp only [if_neg (not_le.mpr hlt)]
          exact .video p index hhead hchooses htype hslot
      | PREVIEW_FRAME_SYNC => exact .preview p hhead hchooses htype
      | _ =>
        have hne : s.typeOf p ≠ .PREVIEW_FRAME_SYNC ∧ s.typeOf p ≠ .VIDEO_FRAME_SYNC := by
          simp [htype]
        exact .pass p _ hhead (Or.inr hne) fun _ => carefulCopy_of_picture hne
    · simp only [if_pos hchooses]
      exact .pass p none hhead (Or.inl rfl) fun h => absurd h hchooses

/-- **Every step of the ring is a step of the notifier, or nothing happens in the notifier.** -/
theorem toAppCallbackNotifier_step (s : PreviewRing) (a : Action) :
    (s.step a).toAppCallbackNotifier = s.toAppCallbackNotifier ∨
      ∃ b, (s.step a).toAppCallbackNotifier = s.toAppCallbackNotifier.step b := by
  cases a with
  | resizeFrame memory =>
    have hresized := resized_resizeFrame s memory
    change Resized s (s.step (.resizeFrame memory)) at hresized
    generalize s.step (.resizeFrame memory) = s' at hresized
    cases hresized with
    | nothing h => exact Or.inl rfl
    | pass p m hq hm h => exact Or.inr ⟨.resizeFrame m, rfl⟩
    | preview p hq hchooses htype =>
      exact Or.inr ⟨.resizeFrame (some s.mPreviewMemoryIndex), rfl⟩
    | video p index hq hchooses htype hslot => exact Or.inr ⟨.resizeFrame (some index), rfl⟩
  | notifyFrame metadata =>
    simp only [step, notifyFrame]
    split
    · exact Or.inr ⟨.notifyFrame metadata, rfl⟩
    · exact Or.inl rfl
  | callback =>
    simp only [step, callback]
    split <;> exact Or.inl rfl
  | releaseRecordingFrame mem =>
    by_cases hmeta : s.settings.mUseMetaDataBufferMode
    · exact Or.inl (by simp only [step, releaseRecordingFrame, if_pos hmeta])
    · simp only [step, releaseRecordingFrame, if_neg hmeta]
      cases s.memory.mVideoMemoryReverseMap.find? mem with
      | none => exact Or.inl rfl
      | some frame => exact Or.inr ⟨.releaseRecordingFrame frame, rfl⟩
  | other a h => exact Or.inr ⟨a, rfl⟩

/-- The memory stays as it is. -/
@[simp] lemma memory_step (s : PreviewRing) (a : Action) : (s.step a).memory = s.memory := by
  cases a with
  | resizeFrame memory =>
    have hresized := resized_resizeFrame s memory
    change (s.resizeFrame memory).memory = s.memory
    generalize s.resizeFrame memory = s' at hresized
    cases hresized <;> rfl
  | notifyFrame metadata =>
    simp only [step, notifyFrame]
    split <;> rfl
  | callback =>
    simp only [step, callback]
    split <;> rfl
  | releaseRecordingFrame mem =>
    simp only [step, releaseRecordingFrame]
    split_ifs
    · rfl
    · split <;> rfl
  | other a h => rfl

/-- The copies in the queues stay tracked. -/
lemma tracked_step' {s : PreviewRing} (a : Action)
    (ht : s.custody.Tracked NotifierEvent.about) :
    (s.step a).custody.Tracked NotifierEvent.about := by
  rcases toAppCallbackNotifier_step s a with heq | ⟨b, heq⟩
  · rwa [heq]
  · rw [heq]
    exact AppCallbackNotifier.tracked_step _ b ht

/-- The heap grows. -/
lemma heap_step (s : PreviewRing) (a : Action) : s.heap <+: (s.step a).heap := by
  rcases toAppCallbackNotifier_step s a with heq | ⟨b, heq⟩
  · rw [heq]
  · rw [heq]
    exact (AppCallbackNotifier.handles_step _ b).heap_grows

/-- What has left the notifier does not come back. -/
lemma notMem_held_step {s : PreviewRing} (a : Action) {p : ℕ} (hp : p < s.heap.length)
    (hheld : p ∉ s.custody.held) : p ∉ (s.step a).custody.held := by
  rcases toAppCallbackNotifier_step s a with heq | ⟨b, heq⟩
  · rwa [heq]
  · rw [heq]
    exact (AppCallbackNotifier.handles_step _ b).notMem_held hp hheld

/-! ### The queued frames -/

section Queue

variable {s s' : AppCallbackNotifier} {t : FrameType} {msg : FrameMessage}

/-- Copies in the frame queue exist. -/
lemma lt_of_mem_mFrameQ (ht : s.custody.Tracked NotifierEvent.about) (h : msg ∈ s.mFrameQ) :
    msg.frame < s.heap.length := by
  apply ht.held_lt
  simp only [AppCallbackNotifier.custody, List.mem_append]
  exact Or.inl (Or.inl (List.mem_map_of_mem h))

/-- The slot of a message depends on the type of its copy only. -/
lemma slot?_congr (h : s'.typeOf msg.frame = s.typeOf msg.frame) :
    slot? s' t msg = slot? s t msg := by
  cases msg with
  | PROCESS_FRAME p => rfl
  | PROCESS_MEMORY_FRAME p memory =>
    have htype : s'.typeOf p = s.typeOf p := h
    cases memory with
    | none => rfl
    | some index => simp only [slot?, htype]

/-- A queued frame has the slot and the copy of its message. -/
lemma slot?_eq_some_iff {e : ℕ × ℕ} :
    slot? s t msg = some e ↔ msg = .PROCESS_MEMORY_FRAME e.2 (some e.1) ∧ s.typeOf e.2 = t := by
  obtain ⟨index, p⟩ := e
  cases msg with
  | PROCESS_FRAME q => simp [slot?]
  | PROCESS_MEMORY_FRAME q memory =>
    cases memory with
    | none => simp [slot?]
    | some index' =>
      simp only [slot?, Option.ite_none_right_eq_some, Option.some.injEq, Prod.mk.injEq,
        FrameMessage.PROCESS_MEMORY_FRAME.injEq]
      constructor
      · rintro ⟨htype, rfl, rfl⟩
        exact ⟨⟨rfl, rfl⟩, htype⟩
      · rintro ⟨⟨rfl, rfl⟩, htype⟩
        exact ⟨htype, rfl, rfl⟩

/-- A queued frame is in the frame queue. -/
lemma mem_queued_iff {e : ℕ × ℕ} :
    e ∈ queued s t ↔ .PROCESS_MEMORY_FRAME e.2 (some e.1) ∈ s.mFrameQ ∧ s.typeOf e.2 = t := by
  simp only [queued, List.mem_filterMap, slot?_eq_some_iff]
  constructor
  · rintro ⟨msg, hmsg, rfl, htype⟩
    exact ⟨hmsg, htype⟩
  · rintro ⟨hmsg, htype⟩
    exact ⟨_, hmsg, rfl, htype⟩

/-- The copies of queued frames are in custody. -/
lemma mem_held_of_mem_queued {e : ℕ × ℕ} (h : e ∈ queued s t) : e.2 ∈ s.custody.held := by
  simp only [AppCallbackNotifier.custody, List.mem_append]
  exact Or.inl (Or.inl (List.mem_map_of_mem (mem_queued_iff.mp h).1))

/-- The frame queue stays as it is. -/
lemma queued_of_same (ht : s.custody.Tracked NotifierEvent.about) (hheap : s.heap <+: s'.heap)
    (hq : s'.mFrameQ = s.mFrameQ) : queued s' t = queued s t := by
  rw [queued, hq]
  refine List.filterMap_congr fun msg hmsg => slot?_congr ?_
  have hframe := AppCallbackNotifier.frame_of_prefix hheap (lt_of_mem_mFrameQ ht hmsg)
  simp only [AppCallbackNotifier.typeOf, hframe]

/-- A message is put into the frame queue. -/
lemma queued_of_put (ht : s.custody.Tracked NotifierEvent.about) (hheap : s.heap <+: s'.heap)
    (hq : s'.mFrameQ = s.mFrameQ ++ [msg]) :
    queued s' t = queued s t ++ (slot? s' t msg).toList := by
  have hold : s.mFrameQ.filterMap (slot? s' t) = queued s t := by
    refine List.filterMap_congr fun m hm => slot?_congr ?_
    have hframe := AppCallbackNotifier.frame_of_prefix hheap (lt_of_mem_mFrameQ ht hm)
    simp only [AppCallbackNotifier.typeOf, hframe]
  rw [queued, hq, List.filterMap_append, hold]
  cases h : slot? s' t msg <;> simp [h]

/-- A message is taken from the frame queue. -/
lemma queued_of_get (hheap : s'.heap = s.heap) (hq : s.mFrameQ = msg :: s'.mFrameQ) :
    queued s t = (slot? s t msg).toList ++ queued s' t := by
  have hrest : s'.mFrameQ.filterMap (slot? s t) = queued s' t := by
    refine List.filterMap_congr fun m _ => (slot?_congr ?_).symm
    simp only [AppCallbackNotifier.typeOf, AppCallbackNotifier.frame, hheap]
  rw [queued, hq, List.filterMap_cons, hrest]
  cases slot? s t msg <;> rfl

end Queue

/-! ### The steps seen from the ring -/

/-- The copies for the JPEG thread are pictures. -/
def Pictures (s : AppCallbackNotifier) : Prop :=
  ∀ p ∈ s.mJpegQ, s.typeOf p = .IMAGE_FRAME_SYNC

/-- Copies in the JPEG queue exist. -/
lemma lt_of_mem_mJpegQ {s : AppCallbackNotifier} (ht : s.custody.Tracked NotifierEvent.about)
    {p : ℕ} (h : p ∈ s.mJpegQ) : p < s.heap.length := by
  apply ht.held_lt
  simp only [AppCallbackNotifier.custody, List.mem_append]
  exact Or.inr h

/-- The JPEG thread's queue gets no other copies. -/
lemma pictures_of_subset {s s' : AppCallbackNotifier} (h : Pictures s)
    (ht : s.custody.Tracked NotifierEvent.about) (hheap : s.heap <+: s'.heap)
    (hq : s'.mJpegQ ⊆ s.mJpegQ) : Pictures s' := by
  intro p hp
  have hframe := AppCallbackNotifier.frame_of_prefix hheap (lt_of_mem_mJpegQ ht (hq hp))
  have htype := h p (hq hp)
  simpa only [AppCallbackNotifier.typeOf, hframe] using htype

/-- The copy that a delivery makes has the type of the frame. -/
lemma typeOf_copyFrame (s : AppCallbackNotifier) (f : NotifierFrame) :
    (s.copyFrame f).typeOf s.heap.length = f.mFrameType := by
  simp [AppCallbackNotifier.typeOf, AppCallbackNotifier.frame, AppCallbackNotifier.copyFrame]

/-- A flush keeps the frame queue and the queue of the JPEG thread. -/
lemma resizeFlush_queues (s : AppCallbackNotifier) (flush : BitVec 32) :
    (s.resizeFlush flush).mFrameQ = s.mFrameQ ∧ (s.resizeFlush flush).mJpegQ = s.mJpegQ := by
  simp only [AppCallbackNotifier.resizeFlush]
  split_ifs <;> exact ⟨rfl, rfl⟩

/-- A flush of the JPEG thread keeps the frame queue and only deletes copies. -/
lemma jpegFlush_queues (s : AppCallbackNotifier) (flush : BitVec 32) :
    (s.jpegFlush flush).mFrameQ = s.mFrameQ ∧ (s.jpegFlush flush).mJpegQ ⊆ s.mJpegQ := by
  simp only [AppCallbackNotifier.jpegFlush]
  split_ifs
  · exact ⟨rfl, List.nil_subset _⟩
  · exact ⟨rfl, List.Subset.refl _⟩

/-- The resize thread keeps the queue of the JPEG thread. -/
lemma resizeFrame_mJpegQ (s : AppCallbackNotifier) (memory : Option ℕ) :
    (s.resizeFrame memory).mJpegQ = s.mJpegQ := by
  unfold AppCallbackNotifier.resizeFrame
  split
  · rfl
  · simp only
    split_ifs <;> rfl

/-- The notification thread keeps the queue of the JPEG thread. -/
lemma notifyFrame_mJpegQ (s : AppCallbackNotifier) (metadata : Bool) :
    (s.notifyFrame metadata).mJpegQ = s.mJpegQ := by
  unfold AppCallbackNotifier.notifyFrame
  split <;> rfl

/-- The JPEG thread takes a copy from its queue and may put it into the frame queue. -/
lemma jpegEncode_queues (s : AppCallbackNotifier) (memory : Bool) :
    (s.jpegEncode memory).mJpegQ ⊆ s.mJpegQ ∧
      ((s.jpegEncode memory).mFrameQ = s.mFrameQ ∨
        ∃ p ∈ s.mJpegQ, ∃ m, (s.jpegEncode memory).mFrameQ =
          s.mFrameQ ++ [.PROCESS_MEMORY_FRAME p m]) := by
  unfold AppCallbackNotifier.jpegEncode
  cases hq : s.mJpegQ with
  | nil => exact ⟨by simp [hq], Or.inl rfl⟩
  | cons p rest =>
    simp only
    split_ifs
    · exact ⟨List.subset_cons_self p rest, Or.inr ⟨p, List.mem_cons_self, _, rfl⟩⟩
    · exact ⟨List.subset_cons_self p rest, Or.inl rfl⟩

/-- The copies for the JPEG thread stay pictures. -/
lemma pictures_step {s : AppCallbackNotifier} (a : AppCallbackNotifier.Action) (h : Pictures s)
    (ht : s.custody.Tracked NotifierEvent.about) : Pictures (s.step a) := by
  have hheap := (AppCallbackNotifier.handles_step s a).heap_grows
  cases a with
  | frameCallback f =>
    have hcopy : Pictures (s.copyFrame f) :=
      pictures_of_subset h ht (List.prefix_append _ _) (List.Subset.refl _)
    have hdispatch := AppCallbackNotifier.dispatched_dispatch (s.copyFrame f) s.heap.length f
    change Pictures ((s.copyFrame f).dispatch s.heap.length f)
    generalize (s.copyFrame f).dispatch s.heap.length f = s' at hdispatch
    cases hdispatch with
    | jpeg htype =>
      intro p hp
      rcases List.mem_append.mp hp with hp | hp
      · exact hcopy p hp
      · obtain rfl := List.mem_singleton.mp hp
        exact (typeOf_copyFrame s f).trans htype
    | _ => exact hcopy
  | resizeFrame memory =>
    exact pictures_of_subset h ht hheap ((resizeFrame_mJpegQ s memory) ▸ List.Subset.refl _)
  | jpegEncode memory => exact pictures_of_subset h ht hheap (jpegEncode_queues s memory).1
  | notifyFrame metadata =>
    exact pictures_of_subset h ht hheap ((notifyFrame_mJpegQ s metadata) ▸ List.Subset.refl _)
  | resizeFlush flush =>
    exact pictures_of_subset h ht hheap ((resizeFlush_queues s flush).2 ▸ List.Subset.refl _)
  | jpegFlush flush => exact pictures_of_subset h ht hheap (jpegFlush_queues s flush).2
  | _ => exact pictures_of_subset h ht hheap (List.Subset.refl _)

/-- A step outside the ring keeps the preview and recording frames in the frame queue, or empties
the queue. -/
lemma queued_step_other {s : AppCallbackNotifier} {a : AppCallbackNotifier.Action}
    (ha : outsideRing a) (h : Pictures s) (ht : s.custody.Tracked NotifierEvent.about)
    {t : FrameType} (hne : t ≠ .IMAGE_FRAME_SYNC) :
    queued (s.step a) t = queued s t ∨ queued (s.step a) t = [] := by
  have hheap := (AppCallbackNotifier.handles_step s a).heap_grows
  cases a with
  | resizeFrame memory => exact absurd ha Bool.false_ne_true
  | notifyFrame metadata => exact absurd ha Bool.false_ne_true
  | releaseRecordingFrame frameBuf => exact absurd ha Bool.false_ne_true
  | flushFrames => exact Or.inr rfl
  | frameCallback f =>
    left
    have hdispatch := AppCallbackNotifier.dispatched_dispatch (s.copyFrame f) s.heap.length f
    change s.heap <+: ((s.copyFrame f).dispatch s.heap.length f).heap at hheap
    change queued ((s.copyFrame f).dispatch s.heap.length f) t = queued s t
    generalize (s.copyFrame f).dispatch s.heap.length f = s' at hdispatch hheap
    cases hdispatch with
    | frameQ hvideo =>
      refine (queued_of_put ht hheap rfl).trans ?_
      exact List.append_nil _
    | _ => exact queued_of_same ht hheap rfl
  | jpegEncode memory =>
    left
    rcases (jpegEncode_queues s memory).2 with hq | ⟨p, hp, m, hq⟩
    · exact queued_of_same ht hheap hq
    · refine (queued_of_put ht hheap hq).trans ?_
      have hframe := AppCallbackNotifier.frame_of_prefix hheap (lt_of_mem_mJpegQ ht hp)
      have htype : (s.step (.jpegEncode memory)).typeOf p = .IMAGE_FRAME_SYNC := by
        rw [← h p hp]
        simp only [AppCallbackNotifier.typeOf, hframe]
      have hslot : slot? (s.step (.jpegEncode memory)) t (.PROCESS_MEMORY_FRAME p m) = none := by
        rw [Option.eq_none_iff_forall_ne_some]
        intro e he
        obtain ⟨hmsg, ht'⟩ := slot?_eq_some_iff.mp he
        obtain rfl : p = e.2 := (FrameMessage.PROCESS_MEMORY_FRAME.inj hmsg).1
        exact hne (ht'.symm.trans htype)
      rw [hslot]
      exact List.append_nil _
  | resizeFlush flush =>
    exact Or.inl (queued_of_same ht hheap (resizeFlush_queues s flush).1)
  | jpegFlush flush => exact Or.inl (queued_of_same ht hheap (jpegFlush_queues s flush).1)
  | _ => exact Or.inl (queued_of_same ht hheap rfl)

/-- What is kept in every state of a run. -/
structure WellFormed (s : PreviewRing) : Prop where
  tracked : s.custody.Tracked NotifierEvent.about
  pictures : Pictures s.toAppCallbackNotifier
  /-- The waiting preview frames have the last slots whose turn it was. -/
  window : RingWindow.IsWindow s.memory.mPreviewMemoryCount s.mPreviewMemoryIndex
    ((queued s.toAppCallbackNotifier .PREVIEW_FRAME_SYNC).map Prod.fst)
  slots : ∀ e ∈ s.outstanding, s.hasSlot e.2 e.1
  recorded : ∀ f ∈ s.taken, f.recorded → s.hasSlot f.copy f.index
  inHand : ∀ e ∈ s.inHand, e.2 < s.heap.length ∧ e.2 ∉ s.custody.held
  encoder : ∀ e ∈ s.encoder, e.2 < s.heap.length ∧ e.2 ∉ s.custody.held

/-- What a step does to the queued frames of the ring, to the bytes, to the hand of the
notification thread, to the encoder and to the application. `C` is the condition on the step. -/
inductive Moved (s s' : PreviewRing) (C : Prop) : Prop
  | quiet
    (hpreview : queued s'.toAppCallbackNotifier .PREVIEW_FRAME_SYNC =
        queued s.toAppCallbackNotifier .PREVIEW_FRAME_SYNC ∨
      queued s'.toAppCallbackNotifier .PREVIEW_FRAME_SYNC = [])
    (hvideo : queued s'.toAppCallbackNotifier .VIDEO_FRAME_SYNC ⊆
      queued s.toAppCallbackNotifier .VIDEO_FRAME_SYNC)
    (hindex : s'.mPreviewMemoryIndex = s.mPreviewMemoryIndex) (hbytes : s'.bytes = s.bytes)
    (htaken : s'.taken = s.taken) (hencoder : s'.encoder ⊆ s.encoder)
    (hreceived : s'.received = s.received) (hC : C)
  | copy (p index : ℕ) (hp : p ∈ s.mResizeQ.head?)
    (hturn : s.typeOf p = .PREVIEW_FRAME_SYNC ∧ index = s.mPreviewMemoryIndex ∧
        queued s'.toAppCallbackNotifier .PREVIEW_FRAME_SYNC =
          queued s.toAppCallbackNotifier .PREVIEW_FRAME_SYNC ++ [(index, p)] ∧
        queued s'.toAppCallbackNotifier .VIDEO_FRAME_SYNC =
          queued s.toAppCallbackNotifier .VIDEO_FRAME_SYNC ∧
        s'.mPreviewMemoryIndex =
          (s.mPreviewMemoryIndex + 1) % s.memory.mPreviewMemoryCount ∨
      s.typeOf p = .VIDEO_FRAME_SYNC ∧ s.hasSlot p index ∧
        queued s'.toAppCallbackNotifier .PREVIEW_FRAME_SYNC =
          queued s.toAppCallbackNotifier .PREVIEW_FRAME_SYNC ∧
        queued s'.toAppCallbackNotifier .VIDEO_FRAME_SYNC =
          queued s.toAppCallbackNotifier .VIDEO_FRAME_SYNC ++ [(index, p)] ∧
        s'.mPreviewMemoryIndex = s.mPreviewMemoryIndex)
    (hbytes : s'.bytes = Function.update s.bytes index (some p)) (htaken : s'.taken = s.taken)
    (hencoder : s'.encoder = s.encoder) (hreceived : s'.received = s.received)
    (hC : C ↔ s.CarefulCopy p)
  | take (e : ℕ × ℕ)
    (hturn : queued s.toAppCallbackNotifier .PREVIEW_FRAME_SYNC =
          e :: queued s'.toAppCallbackNotifier .PREVIEW_FRAME_SYNC ∧
        queued s'.toAppCallbackNotifier .VIDEO_FRAME_SYNC =
          queued s.toAppCallbackNotifier .VIDEO_FRAME_SYNC ∧
        (∀ f ∈ s'.taken, f.recorded = false) ∨
      queued s'.toAppCallbackNotifier .PREVIEW_FRAME_SYNC =
          queued s.toAppCallbackNotifier .PREVIEW_FRAME_SYNC ∧
        queued s.toAppCallbackNotifier .VIDEO_FRAME_SYNC =
          e :: queued s'.toAppCallbackNotifier .VIDEO_FRAME_SYNC)
    (htaken : ∀ f ∈ s'.taken, f.reference = e) (hout : e.2 ∉ s'.custody.held)
    (hindex : s'.mPreviewMemoryIndex = s.mPreviewMemoryIndex) (hbytes : s'.bytes = s.bytes)
    (hencoder : s'.encoder = s.encoder) (hreceived : s'.received = s.received) (hC : C)
  | callback (f : TakenFrame) (htaken : s.taken = some f) (hC : C) (heq : s' = s.callback)

/-- What the resize thread puts into the frame queue. -/
lemma resizeFrame_mFrameQ {s : AppCallbackNotifier} {p : ℕ} (hp : p ∈ s.mResizeQ.head?)
    (m : Option ℕ) :
    (choosesMemory s p → (s.resizeFrame m).mFrameQ = s.mFrameQ ++ [.PROCESS_MEMORY_FRAME p m]) ∧
      ((s.resizeFrame m).mFrameQ = s.mFrameQ ∨ ∃ m', (m' = none ∨ m' = m) ∧
        (s.resizeFrame m).mFrameQ = s.mFrameQ ++ [.PROCESS_MEMORY_FRAME p m']) := by
  obtain ⟨rest, hq⟩ := List.head?_eq_some_iff.mp hp
  rw [AppCallbackNotifier.resizeFrame_of_cons hq]
  set taken := if s.settings.started ∧ (s.frame p).mBuffer ≠ NULL then m else none with htaken
  constructor
  · intro hchooses
    simp only [choosesMemory, Bool.and_eq_true, bne_iff_ne] at hchooses
    obtain ⟨⟨hvalid, hstarted⟩, hbuffer⟩ := hchooses
    have hm : taken = m := if_pos ⟨hstarted, hbuffer⟩
    rw [if_pos hvalid]
    exact congrArg (fun m => s.mFrameQ ++ [.PROCESS_MEMORY_FRAME p m]) hm
  · by_cases hvalid : AppCallbackNotifier.valid s.resizeThread (s.typeOf p)
    · have hm : taken = none ∨ taken = m := by
        rw [htaken]
        split_ifs
        · exact Or.inr rfl
        · exact Or.inl rfl
      rw [if_pos hvalid]
      exact Or.inr ⟨taken, hm, rfl⟩
    · rw [if_neg hvalid]
      exact Or.inl rfl

/-- The copy that the resize thread takes is in custody, and not in the frame queue. -/
lemma head_mResizeQ {s : AppCallbackNotifier} (ht : s.custody.Tracked NotifierEvent.about)
    {p : ℕ} (hp : p ∈ s.mResizeQ.head?) :
    p ∈ s.custody.held ∧ ∀ t, ∀ e ∈ queued s t, e.2 ≠ p := by
  have hmem : p ∈ s.mResizeQ := List.mem_of_mem_head? hp
  refine ⟨?_, fun t e he heq => ?_⟩
  · simp only [AppCallbackNotifier.custody, List.mem_append]
    exact Or.inl (Or.inr hmem)
  · have hnodup := ht.nodup
    simp only [AppCallbackNotifier.custody, List.append_assoc, List.nodup_append'] at hnodup
    have hframe : p ∈ s.mFrameQ.map FrameMessage.frame :=
      List.mem_map.mpr ⟨_, (mem_queued_iff.mp he).1, heq⟩
    exact hnodup.2.2 hframe (List.mem_append_left _ hmem)

/-- A message with memory goes to the frames of its own type. -/
lemma toList_slot? {s : AppCallbackNotifier} {p : ℕ} {t : FrameType} (htype : s.typeOf p = t)
    (t' : FrameType) (index : ℕ) :
    (slot? s t' (.PROCESS_MEMORY_FRAME p (some index))).toList =
      if t = t' then [(index, p)] else [] := by
  simp only [slot?, htype]
  split_ifs <;> rfl

/-- The steps of `resizeFrame`. -/
lemma moved_resizeFrame {s : PreviewRing} (h : WellFormed s) (memory : Bool) :
    Moved s (s.resizeFrame memory) (s.Careful (.resizeFrame memory)) := by
  have hheap := heap_step s (.resizeFrame memory)
  change s.heap <+: (s.resizeFrame memory).heap at hheap
  have hresized := resized_resizeFrame s memory
  generalize s.resizeFrame memory = s' at hresized hheap
  -- the type of the copy is the same before and after
  have htypeOf : ∀ {p}, p ∈ s.mResizeQ.head? → s'.typeOf p = s.typeOf p := by
    intro p hp
    have hlt := h.tracked.held_lt p (head_mResizeQ h.tracked hp).1
    simp only [AppCallbackNotifier.typeOf, AppCallbackNotifier.frame_of_prefix hheap hlt]
  have hcareful : ∀ {p}, p ∈ s.mResizeQ.head? → choosesMemory s.toAppCallbackNotifier p →
      (s.Careful (.resizeFrame memory) ↔ s.CarefulCopy p) := by
    intro p hp hchooses
    simp only [Careful, Option.mem_def.mp hp, Option.mem_some_iff, forall_eq', hchooses,
      forall_const]
  cases hresized with
  | nothing hC =>
    exact .quiet (Or.inl rfl) (List.Subset.refl _) rfl rfl rfl (List.Subset.refl _) rfl
      fun p hp _ => hC p hp
  | pass p m hp hm hC =>
    have hqueued : ∀ {t : FrameType}, t = .PREVIEW_FRAME_SYNC ∨ t = .VIDEO_FRAME_SYNC →
        queued (s.toAppCallbackNotifier.resizeFrame m) t = queued s.toAppCallbackNotifier t := by
      intro t hring
      rcases (resizeFrame_mFrameQ hp m).2 with hq | ⟨m', hm', hq⟩
      · exact queued_of_same h.tracked hheap hq
      · refine (queued_of_put h.tracked hheap hq).trans ?_
        have hslot : slot? (s.withNotifier
            (s.toAppCallbackNotifier.resizeFrame m)).toAppCallbackNotifier t
            (.PROCESS_MEMORY_FRAME p m') = none := by
          rw [Option.eq_none_iff_forall_ne_some]
          intro e he
          obtain ⟨hmsg, ht⟩ := slot?_eq_some_iff.mp he
          obtain ⟨rfl, rfl⟩ := FrameMessage.PROCESS_MEMORY_FRAME.inj hmsg
          have htype : s.typeOf e.2 = t := (htypeOf hp).symm.trans ht
          rcases hm with rfl | ⟨hne, hne'⟩
          · rcases hm' with hm' | hm' <;> cases hm'
          · rcases hring with rfl | rfl
            · exact hne htype
            · exact hne' htype
        rw [hslot]
        exact List.append_nil _
    refine .quiet (Or.inl (hqueued (Or.inl rfl))) ((hqueued (Or.inr rfl)) ▸ List.Subset.refl _)
      rfl rfl rfl (List.Subset.refl _) rfl fun q hq hchooses => ?_
    obtain rfl := Option.mem_unique hp hq
    exact hC hchooses
  | preview p hp hchooses htype =>
    have hput := (resizeFrame_mFrameQ hp (some s.mPreviewMemoryIndex)).1 hchooses
    refine .copy p s.mPreviewMemoryIndex hp (Or.inl ⟨htype, rfl, ?_, ?_, rfl⟩) rfl rfl rfl rfl
      (hcareful hp hchooses)
    · refine (queued_of_put h.tracked hheap hput).trans ?_
      rw [toList_slot? ((htypeOf hp).trans htype), if_pos rfl]
    · refine (queued_of_put h.tracked hheap hput).trans ?_
      rw [toList_slot? ((htypeOf hp).trans htype), if_neg (by decide), List.append_nil]
  | video p index hp hchooses htype hslot =>
    have hput := (resizeFrame_mFrameQ hp (some index)).1 hchooses
    refine .copy p index hp (Or.inr ⟨htype, hslot, ?_, ?_, rfl⟩) rfl rfl rfl rfl
      (hcareful hp hchooses)
    · refine (queued_of_put h.tracked hheap hput).trans ?_
      rw [toList_slot? ((htypeOf hp).trans htype), if_neg (by decide), List.append_nil]
    · refine (queued_of_put h.tracked hheap hput).trans ?_
      rw [toList_slot? ((htypeOf hp).trans htype), if_pos rfl]

/-- The first message leaves the frame queue, and its copy the custody. -/
lemma notifyFrame_of_cons {s : AppCallbackNotifier} {msg : FrameMessage}
    {rest : List FrameMessage} (hq : s.mFrameQ = msg :: rest) (metadata : Bool) :
    (s.notifyFrame metadata).mFrameQ = rest ∧ (s.notifyFrame metadata).heap = s.heap ∧
      (s.notifyFrame metadata).custody.held =
        rest.map FrameMessage.frame ++ s.mResizeQ ++ s.mJpegQ := by
  rw [AppCallbackNotifier.notifyFrame, hq]
  exact ⟨rfl, rfl, rfl⟩

/-- Only video frames are recorded from memory. -/
lemma typeOf_of_recordsMemory {s : AppCallbackNotifier} {p : ℕ} (hrec : s.recordsMemory p) :
    s.typeOf p = .VIDEO_FRAME_SYNC := by
  simp only [AppCallbackNotifier.recordsMemory, Bool.and_eq_true] at hrec
  exact AppCallbackNotifier.typeOf_of_isVideo hrec.1.1

/-- The frame that is taken with a message has the slot and the copy of the message. -/
lemma reference_of_takes {s : PreviewRing} {p index : ℕ} {f : TakenFrame}
    (hf : f ∈ s.takes (.PROCESS_MEMORY_FRAME p (some index))) : f.reference = (index, p) := by
  simp only [takes] at hf
  split_ifs at hf
  · obtain rfl := Option.mem_some_iff.mp hf
    rfl
  · obtain rfl := Option.mem_some_iff.mp hf
    rfl
  · cases hf

/-- Frames are recorded with their memory only where they are video frames. -/
lemma recorded_of_takes {s : PreviewRing} {p index : ℕ} {f : TakenFrame}
    (hf : f ∈ s.takes (.PROCESS_MEMORY_FRAME p (some index)))
    (htype : s.typeOf p ≠ .VIDEO_FRAME_SYNC) : f.recorded = false := by
  simp only [takes, if_neg fun hrec => htype (typeOf_of_recordsMemory hrec)] at hf
  split_ifs at hf
  · obtain rfl := Option.mem_some_iff.mp hf
    rfl
  · cases hf

/-- A message without a slot of the ring concerns the notifier only. -/
lemma moved_of_unslotted {s : PreviewRing} {a : AppCallbackNotifier} {msg : FrameMessage}
    (hget : ∀ t, queued s.toAppCallbackNotifier t =
      (slot? s.toAppCallbackNotifier t msg).toList ++ queued a t)
    (hpreview : slot? s.toAppCallbackNotifier .PREVIEW_FRAME_SYNC msg = none)
    (hvideo : slot? s.toAppCallbackNotifier .VIDEO_FRAME_SYNC msg = none)
    (htaken : s.takes msg = s.taken) {C : Prop} (hC : C) :
    Moved s { s with toAppCallbackNotifier := a, taken := s.takes msg } C := by
  have hsame : ∀ {t}, slot? s.toAppCallbackNotifier t msg = none →
      queued a t = queued s.toAppCallbackNotifier t := by
    intro t hnone
    rw [hget t, hnone]
    rfl
  exact .quiet (Or.inl (hsame hpreview)) ((hsame hvideo) ▸ List.Subset.refl _) rfl rfl htaken
    (List.Subset.refl _) rfl hC

/-- The steps of `notifyFrame` up to its callback. -/
lemma moved_notifyFrame {s : PreviewRing} (h : WellFormed s) (metadata : Bool) {C : Prop}
    (hC : C) : Moved s (s.notifyFrame metadata) C := by
  unfold notifyFrame
  split
  case h_2 => exact .quiet (Or.inl rfl) (List.Subset.refl _) rfl rfl rfl (List.Subset.refl _) rfl hC
  case h_1 msg rest hnone hq =>
    obtain ⟨hrest, hheap, hheld⟩ := notifyFrame_of_cons hq metadata
    generalize s.toAppCallbackNotifier.notifyFrame metadata = a at hrest hheap hheld
    have hget : ∀ t, queued s.toAppCallbackNotifier t =
        (slot? s.toAppCallbackNotifier t msg).toList ++ queued a t :=
      fun t => queued_of_get hheap (hq.trans (congrArg _ hrest.symm))
    have hout : msg.frame ∉ a.custody.held := by
      have hnodup := h.tracked.nodup
      simp only [AppCallbackNotifier.custody, hq, List.map_cons, List.cons_append,
        List.nodup_cons] at hnodup
      rw [hheld]
      exact hnodup.1
    cases msg with
    | PROCESS_FRAME p => exact moved_of_unslotted hget rfl rfl hnone.symm hC
    | PROCESS_MEMORY_FRAME p memory =>
      cases memory with
      | none => exact moved_of_unslotted hget rfl rfl hnone.symm hC
      | some index =>
        have htaken : ∀ f ∈ s.takes (.PROCESS_MEMORY_FRAME p (some index)),
            f.reference = (index, p) := fun f hf => reference_of_takes hf
        by_cases hpreview : s.typeOf p = .PREVIEW_FRAME_SYNC
        · have hne : s.typeOf p ≠ .VIDEO_FRAME_SYNC := by
            rw [hpreview]
            decide
          refine .take (index, p) (Or.inl ⟨?_, ?_, fun f hf => recorded_of_takes hf hne⟩) htaken
            hout rfl rfl rfl rfl hC
          · rw [hget, toList_slot? hpreview, if_pos rfl]
            rfl
          · rw [hget, toList_slot? hpreview, if_neg (by decide)]
            rfl
        · by_cases hvideo : s.typeOf p = .VIDEO_FRAME_SYNC
          · refine .take (index, p) (Or.inr ⟨?_, ?_⟩) htaken hout rfl rfl rfl rfl hC
            · rw [hget, toList_slot? hvideo, if_neg (by decide)]
              rfl
            · rw [hget, toList_slot? hvideo, if_pos rfl]
              rfl
          · have hrec : ¬ s.recordsMemory p := fun hrec => hvideo (typeOf_of_recordsMemory hrec)
            refine moved_of_unslotted hget ?_ ?_ ?_ hC
            · simp only [slot?, if_neg hpreview]
            · simp only [slot?, if_neg hvideo]
            · simp [takes, hrec, hpreview, hnone]

/-- The callback. -/
lemma moved_callback (s : PreviewRing) {C : Prop} (hC : C) : Moved s s.callback C := by
  cases htaken : s.taken with
  | none =>
    have hsame : s.callback = s := by
      simp only [callback, htaken]
    rw [hsame]
    exact .quiet (Or.inl rfl) (List.Subset.refl _) rfl rfl rfl (List.Subset.refl _) rfl hC
  | some f => exact .callback f htaken hC rfl

/-- Every step is one of these. -/
lemma moved_step {s : PreviewRing} (h : WellFormed s) (a : Action) :
    Moved s (s.step a) (s.Careful a) := by
  cases a with
  | resizeFrame memory => exact moved_resizeFrame h memory
  | notifyFrame metadata => exact moved_notifyFrame h metadata trivial
  | callback => exact moved_callback s trivial
  | releaseRecordingFrame mem =>
    simp only [step, releaseRecordingFrame]
    split_ifs
    · exact .quiet (Or.inl rfl) (List.Subset.refl _) rfl rfl rfl (List.Subset.refl _) rfl trivial
    · split
      · exact .quiet (Or.inl rfl) (List.Subset.refl _) rfl rfl rfl (List.Subset.refl _) rfl
          trivial
      · exact .quiet (Or.inl rfl) (List.Subset.refl _) rfl rfl rfl (List.filter_subset_self _) rfl
          trivial
  | other a ha =>
    refine .quiet (queued_step_other ha h.pictures h.tracked (by decide)) ?_ rfl rfl rfl
      (List.Subset.refl _) rfl trivial
    rcases queued_step_other ha h.pictures h.tracked (t := .VIDEO_FRAME_SYNC) (by decide) with
      heq | heq
    · exact heq ▸ List.Subset.refl _
    · exact heq ▸ List.nil_subset _

/-! ### The invariant -/

/-- The slots of recording frames stay those of their buffers. -/
lemma hasSlot_step {s : PreviewRing} (a : Action) {p index : ℕ} (hp : p < s.heap.length)
    (h : s.hasSlot p index) : (s.step a).hasSlot p index := by
  have hframe := AppCallbackNotifier.frame_of_prefix (heap_step s a) hp
  simpa only [hasSlot, memory_step, hframe] using h

/-- What the callback does with the frame in the hand of the notification thread. -/
lemma callback_of_taken {s : PreviewRing} {f : TakenFrame} (htaken : s.taken = some f) :
    s.callback = { s with
      taken := none
      encoder := if f.recorded then s.encoder ++ [f.reference] else s.encoder
      received := s.received ++ [(f.copy, s.bytes f.index)] } := by
  simp only [callback, htaken]

/-- A frame is in the hand of the notification thread if it was taken. -/
lemma mem_inHand_iff {s : PreviewRing} {e : ℕ × ℕ} :
    e ∈ s.inHand ↔ ∃ f ∈ s.taken, f.reference = e := by
  simp only [inHand, Option.mem_toList, Option.mem_def, Option.map_eq_some_iff]

/-- What the encoder has after the callback was with it before, or is the frame that was in the
hand of the notification thread. -/
lemma mem_encoder_callback {s : PreviewRing} {f : TakenFrame} (htaken : s.taken = some f)
    {e : ℕ × ℕ} (he : e ∈ s.callback.encoder) :
    e ∈ s.encoder ∨ f.recorded ∧ f.reference = e := by
  rw [callback_of_taken htaken] at he
  dsimp only at he
  split_ifs at he with hrec
  · rcases List.mem_append.mp he with he | he
    · exact Or.inl he
    · exact Or.inr ⟨hrec, (List.mem_singleton.mp he).symm⟩
  · exact Or.inl he

/-- The copies of all frames in the ring exist. -/
lemma WellFormed.lt_of_mem {s : PreviewRing} (h : WellFormed s) {e : ℕ × ℕ}
    (he : e ∈ s.outstanding) : e.2 < s.heap.length := by
  rcases List.mem_append.mp he with he | he
  · exact h.tracked.held_lt _ (mem_held_of_mem_queued he)
  · exact (h.encoder e he).1

/-- The copy that the resize thread takes is not in the ring. -/
lemma WellFormed.fresh {s : PreviewRing} (h : WellFormed s) {p : ℕ} (hp : p ∈ s.mResizeQ.head?) :
    ∀ e ∈ s.references, e.2 ≠ p := by
  obtain ⟨hheld, hqueued⟩ := head_mResizeQ h.tracked hp
  intro e he
  simp only [references, outstanding, List.mem_append] at he
  rcases he with he | he | he | he
  · rintro rfl
    exact (h.inHand e he).2 hheld
  · exact hqueued _ e he
  · exact hqueued _ e he
  · rintro rfl
    exact (h.encoder e he).2 hheld

/-- What the notification thread has in its hand was there before, or was a queued frame of the
ring; it is recorded only if it was a recording frame. -/
lemma WellFormed.mem_taken {s : PreviewRing} (h : WellFormed s) (a : Action) {f : TakenFrame}
    (hf : f ∈ (s.step a).taken) :
    f ∈ s.taken ∨ f.copy ∉ (s.step a).custody.held ∧
      (f.reference ∈ queued s.toAppCallbackNotifier .VIDEO_FRAME_SYNC ∨
        f.reference ∈ queued s.toAppCallbackNotifier .PREVIEW_FRAME_SYNC ∧
          f.recorded = false) := by
  cases moved_step h a with
  | quiet hpreview hvideo hindex hbytes htaken hencoder hreceived hC => exact Or.inl (htaken ▸ hf)
  | copy p index hp hturn hbytes htaken hencoder hreceived hC => exact Or.inl (htaken ▸ hf)
  | take e hturn htaken hout hindex hbytes hencoder hreceived hC =>
    obtain rfl := htaken f hf
    refine Or.inr ⟨hout, ?_⟩
    rcases hturn with ⟨hpreview, -, hrec⟩ | ⟨-, hvideo⟩
    · exact Or.inr ⟨hpreview ▸ List.mem_cons_self, hrec f hf⟩
    · exact Or.inl (hvideo ▸ List.mem_cons_self)
  | callback f' htaken hC heq =>
    rw [heq, callback_of_taken htaken] at hf
    cases hf

/-- What the encoder has was with it or in the hand of the notification thread before. -/
lemma WellFormed.mem_encoder {s : PreviewRing} (h : WellFormed s) (a : Action) {e : ℕ × ℕ}
    (he : e ∈ (s.step a).encoder) :
    e ∈ s.encoder ∨ ∃ f ∈ s.taken, f.recorded ∧ f.reference = e := by
  cases moved_step h a with
  | quiet hpreview hvideo hindex hbytes htaken hencoder hreceived hC => exact Or.inl (hencoder he)
  | copy p index hp hturn hbytes htaken hencoder hreceived hC => exact Or.inl (hencoder ▸ he)
  | take e' hturn htaken hout hindex hbytes hencoder hreceived hC => exact Or.inl (hencoder ▸ he)
  | callback f htaken hC heq =>
    rw [heq] at he
    rcases mem_encoder_callback htaken he with he | hrec
    · exact Or.inl he
    · exact Or.inr ⟨f, htaken, hrec⟩

/-- A queued recording frame was queued before, or was copied into the slot of its buffer. -/
lemma WellFormed.mem_video {s : PreviewRing} (h : WellFormed s) (a : Action) {e : ℕ × ℕ}
    (he : e ∈ queued (s.step a).toAppCallbackNotifier .VIDEO_FRAME_SYNC) :
    e ∈ queued s.toAppCallbackNotifier .VIDEO_FRAME_SYNC ∨
      e.2 ∈ s.mResizeQ.head? ∧ s.hasSlot e.2 e.1 := by
  cases moved_step h a with
  | quiet hpreview hvideo hindex hbytes htaken hencoder hreceived hC => exact Or.inl (hvideo he)
  | copy p index hp hturn hbytes htaken hencoder hreceived hC =>
    rcases hturn with ⟨-, -, -, hvideo, -⟩ | ⟨-, hslot, -, hvideo, -⟩ <;> rw [hvideo] at he
    · exact Or.inl he
    · rcases List.mem_append.mp he with he | he
      · exact Or.inl he
      · obtain rfl := List.mem_singleton.mp he
        exact Or.inr ⟨hp, hslot⟩
  | take e' hturn htaken hout hindex hbytes hencoder hreceived hC =>
    rcases hturn with ⟨-, hvideo, -⟩ | ⟨-, hvideo⟩
    · exact Or.inl (hvideo ▸ he)
    · exact Or.inl (hvideo ▸ List.mem_cons_of_mem e' he)
  | callback f htaken hC heq =>
    rw [heq, callback_of_taken htaken] at he
    exact Or.inl he

/-- The waiting preview frames stay a window of the ring. -/
lemma WellFormed.window_step {s : PreviewRing} (h : WellFormed s) (a : Action) :
    RingWindow.IsWindow s.memory.mPreviewMemoryCount (s.step a).mPreviewMemoryIndex
      ((queued (s.step a).toAppCallbackNotifier .PREVIEW_FRAME_SYNC).map Prod.fst) := by
  cases moved_step h a with
  | quiet hpreview hvideo hindex hbytes htaken hencoder hreceived hC =>
    rw [hindex]
    rcases hpreview with hpreview | hpreview <;> rw [hpreview]
    · exact h.window
    · exact h.window.clear
  | copy p index hp hturn hbytes htaken hencoder hreceived hC =>
    rcases hturn with ⟨-, rfl, hpreview, -, hindex⟩ | ⟨-, -, hpreview, -, hindex⟩ <;>
      rw [hindex, hpreview]
    · rw [List.map_append]
      exact h.window.put
    · exact h.window
  | take e hturn htaken hout hindex hbytes hencoder hreceived hC =>
    rw [hindex]
    rcases hturn with ⟨hpreview, -, -⟩ | ⟨hpreview, -⟩
    · have hwindow := h.window
      rw [hpreview, List.map_cons] at hwindow
      exact hwindow.get
    · rw [hpreview]
      exact h.window
  | callback f htaken hC heq =>
    rw [heq, callback_of_taken htaken]
    exact h.window

/-- The copy in the hand of the notification thread has left the queues. -/
lemma WellFormed.left_of_mem_taken {s : PreviewRing} (h : WellFormed s) {f : TakenFrame}
    (hf : f ∈ s.taken) : f.copy < s.heap.length ∧ f.copy ∉ s.custody.held :=
  h.inHand f.reference (mem_inHand_iff.mpr ⟨f, hf, rfl⟩)

/-- Copies that have left the queues stay out of them. -/
lemma left_step {s : PreviewRing} (a : Action) {p : ℕ}
    (h : p < s.heap.length ∧ p ∉ s.custody.held) :
    p < (s.step a).heap.length ∧ p ∉ (s.step a).custody.held :=
  ⟨lt_of_lt_of_le h.1 (heap_step s a).length_le, notMem_held_step a h.1 h.2⟩

/-- No frame of the ring becomes a copy for the JPEG thread. -/
lemma WellFormed.pictures_step {s : PreviewRing} (h : WellFormed s) (a : Action) :
    Pictures (s.step a).toAppCallbackNotifier := by
  rcases toAppCallbackNotifier_step s a with heq | ⟨b, heq⟩
  · rw [heq]
    exact h.pictures
  · rw [heq]
    exact PreviewRing.pictures_step b h.pictures h.tracked

/-- The recording frames that are out keep the addresses of their slots. -/
lemma WellFormed.slots_step {s : PreviewRing} (h : WellFormed s) (a : Action) :
    ∀ e ∈ (s.step a).outstanding, (s.step a).hasSlot e.2 e.1 := by
  intro e he
  rcases List.mem_append.mp he with he | he
  · rcases h.mem_video a he with hold | ⟨hp, hs⟩
    · have hmem := List.mem_append_left s.encoder hold
      exact hasSlot_step a (h.lt_of_mem hmem) (h.slots e hmem)
    · exact hasSlot_step a (h.tracked.held_lt _ (head_mResizeQ h.tracked hp).1) hs
  · rcases h.mem_encoder a he with hold | ⟨f, hf, hrec, rfl⟩
    · have hmem := List.mem_append_right
        (queued s.toAppCallbackNotifier .VIDEO_FRAME_SYNC) hold
      exact hasSlot_step a (h.lt_of_mem hmem) (h.slots e hmem)
    · exact hasSlot_step a (h.left_of_mem_taken hf).1 (h.recorded f hf hrec)

/-- A recording frame in the hand of the notification thread keeps the address of its slot. -/
lemma WellFormed.recorded_step {s : PreviewRing} (h : WellFormed s) (a : Action) :
    ∀ f ∈ (s.step a).taken, f.recorded → (s.step a).hasSlot f.copy f.index := by
  intro f hf hrec
  rcases h.mem_taken a hf with hold | ⟨-, hvideo | ⟨-, hnot⟩⟩
  · exact hasSlot_step a (h.left_of_mem_taken hold).1 (h.recorded f hold hrec)
  · have hmem := List.mem_append_left s.encoder hvideo
    exact hasSlot_step a (h.lt_of_mem hmem) (h.slots f.reference hmem)
  · rw [hnot] at hrec
    cases hrec

/-- What the notification thread takes has left the queues. -/
lemma WellFormed.inHand_step {s : PreviewRing} (h : WellFormed s) (a : Action) :
    ∀ e ∈ (s.step a).inHand, e.2 < (s.step a).heap.length ∧ e.2 ∉ (s.step a).custody.held := by
  intro e he
  obtain ⟨f, hf, rfl⟩ := mem_inHand_iff.mp he
  rcases h.mem_taken a hf with hold | ⟨hout, hqueued⟩
  · exact left_step a (h.left_of_mem_taken hold)
  · have hlt : f.copy < s.heap.length := by
      rcases hqueued with hvideo | ⟨hpreview, -⟩
      · exact h.tracked.held_lt _ (mem_held_of_mem_queued hvideo)
      · exact h.tracked.held_lt _ (mem_held_of_mem_queued hpreview)
    exact ⟨lt_of_lt_of_le hlt (heap_step s a).length_le, hout⟩

/-- What the encoder holds has left the queues. -/
lemma WellFormed.encoder_step {s : PreviewRing} (h : WellFormed s) (a : Action) :
    ∀ e ∈ (s.step a).encoder, e.2 < (s.step a).heap.length ∧ e.2 ∉ (s.step a).custody.held := by
  intro e he
  rcases h.mem_encoder a he with hold | ⟨f, hf, -, rfl⟩
  · exact left_step a (h.encoder e hold)
  · exact left_step a (h.left_of_mem_taken hf)

/-- **The ring stays well formed.** -/
theorem WellFormed.step {s : PreviewRing} (h : WellFormed s) (a : Action) :
    WellFormed (s.step a) where
  tracked := tracked_step' a h.tracked
  pictures := h.pictures_step a
  window := by
    rw [memory_step]
    exact h.window_step a
  slots := h.slots_step a
  recorded := h.recorded_step a
  inHand := h.inHand_step a
  encoder := h.encoder_step a

/-! ### The bytes -/

/-- The frame in the hand of the notification thread is not in a slot. -/
lemma forall_inHand_iff {s : PreviewRing} {index : ℕ} :
    (∀ e ∈ s.inHand, e.1 ≠ index) ↔ ∀ f ∈ s.taken, f.index ≠ index := by
  simp only [mem_inHand_iff, forall_exists_index, and_imp]
  constructor
  · exact fun h f hf => h f.reference f hf rfl
  · rintro h e f hf rfl
    exact h f hf

/-- A copy is careful exactly if nothing in the ring refers to the slot. -/
lemma WellFormed.carefulCopy_preview_iff {s : PreviewRing} (h : WellFormed s) {p : ℕ}
    (htype : s.typeOf p = .PREVIEW_FRAME_SYNC) :
    s.CarefulCopy p ↔ ∀ e ∈ s.references, e.1 ≠ s.mPreviewMemoryIndex := by
  have hwindow := h.window.next_mem_iff s.memory.count_pos
  rw [List.length_map] at hwindow
  have hpreview : s.waiting < s.memory.mPreviewMemoryCount ↔
      ∀ e ∈ queued s.toAppCallbackNotifier .PREVIEW_FRAME_SYNC, e.1 ≠ s.mPreviewMemoryIndex := by
    rw [← not_le, waiting, ← hwindow, List.mem_map]
    exact not_exists.trans (forall_congr' fun e => not_and)
  have houtstanding : (∀ e ∈ s.outstanding, ¬ s.hasSlot e.2 s.mPreviewMemoryIndex) ↔
      ∀ e ∈ s.outstanding, e.1 ≠ s.mPreviewMemoryIndex := by
    refine forall₂_congr fun e he => not_congr ?_
    have hslot := h.slots e he
    constructor
    · exact fun hturn => Option.some.inj (hslot.symm.trans hturn)
    · rintro heq
      exact heq ▸ hslot
  simp only [CarefulCopy, htype, references, List.forall_mem_append]
  exact and_congr forall_inHand_iff.symm (and_congr hpreview houtstanding)

/-- A copy of a recording frame is careful exactly if nothing in the ring refers to its slot. -/
lemma WellFormed.carefulCopy_video_iff {s : PreviewRing} (h : WellFormed s) {p index : ℕ}
    (htype : s.typeOf p = .VIDEO_FRAME_SYNC) (hslot : s.hasSlot p index) :
    s.CarefulCopy p ↔ ∀ e ∈ s.references, e.1 ≠ index := by
  have hwindow := h.window.mem_iff s.memory.count_pos (s.memory.slot_lt hslot)
  rw [List.length_map] at hwindow
  have hpreview : s.waiting ≤
        RingWindow.distance s.memory.mPreviewMemoryCount s.mPreviewMemoryIndex index ↔
      ∀ e ∈ queued s.toAppCallbackNotifier .PREVIEW_FRAME_SYNC, e.1 ≠ index := by
    rw [← not_lt, waiting, ← hwindow, List.mem_map]
    exact not_exists.trans (forall_congr' fun e => not_and)
  have houtstanding : (∀ e ∈ s.outstanding, (s.frame e.2).mBuffer ≠ (s.frame p).mBuffer) ↔
      ∀ e ∈ s.outstanding, e.1 ≠ index := by
    refine forall₂_congr fun e he => not_congr ?_
    have hslot' := h.slots e he
    constructor
    · intro hbuffer
      rw [hasSlot, hbuffer] at hslot'
      exact Option.some.inj (hslot'.symm.trans hslot)
    · rintro rfl
      exact s.memory.map_injective hslot' hslot
  have hindex : ∀ index', s.hasSlot p index' → index' = index := fun index' hslot' =>
    Option.some.inj (hslot'.symm.trans hslot)
  simp only [CarefulCopy, htype, references, List.forall_mem_append]
  constructor
  · intro hcareful
    obtain ⟨hhand, hout, hwait⟩ := hcareful index hslot
    exact ⟨forall_inHand_iff.mpr hhand, hpreview.mp hwait, houtstanding.mp hout⟩
  · rintro ⟨hhand, hwait, hout⟩ index' hslot'
    obtain rfl := hindex index' hslot'
    exact ⟨forall_inHand_iff.mp hhand, houtstanding.mpr hout, hpreview.mpr hwait⟩

/-- A copy into a slot keeps the bytes of all other frames in the ring exactly if none of them is
in the slot. -/
lemma intact_copy_iff {s s' : PreviewRing} {index p : ℕ} (h : s.Intact)
    (hfresh : ∀ e ∈ s.references, e.2 ≠ p)
    (hreferences : ∀ e, e ∈ s'.references ↔ e ∈ s.references ∨ e = (index, p))
    (hbytes : s'.bytes = Function.update s.bytes index (some p))
    (hreceived : s'.received = s.received) :
    s'.Intact ↔ ∀ e ∈ s.references, e.1 ≠ index := by
  constructor
  · intro h' e he heq
    have hbytes' := h'.references e ((hreferences e).mpr (Or.inl he))
    rw [hbytes, heq, Function.update_self] at hbytes'
    exact hfresh e he (Option.some.inj hbytes').symm
  · intro hother
    refine ⟨fun e he => ?_, fun r hr => h.received r (hreceived ▸ hr)⟩
    rcases (hreferences e).mp he with he | rfl
    · rw [hbytes, Function.update_of_ne (hother e he)]
      exact h.references e he
    · rw [hbytes, Function.update_self]

/-- A callback keeps the frames intact: the application receives the bytes of the frame that was
taken. -/
lemma intact_callback {s : PreviewRing} (hi : s.Intact) {f : TakenFrame}
    (htaken : s.taken = some f) : s.callback.Intact := by
  have hmem : f.reference ∈ s.inHand := mem_inHand_iff.mpr ⟨f, htaken, rfl⟩
  refine ⟨fun e he => ?_, fun r hr => ?_⟩
  · have hbytes : s.callback.bytes = s.bytes := by
      rw [callback_of_taken htaken]
    have hqueued : ∀ t, queued s.callback.toAppCallbackNotifier t =
        queued s.toAppCallbackNotifier t := by
      rw [callback_of_taken htaken]
      exact fun t => rfl
    have hempty : s.callback.inHand = [] := by
      rw [callback_of_taken htaken]
      rfl
    rw [hbytes]
    apply hi.references
    simp only [references, outstanding, hqueued, hempty, List.nil_append, List.mem_append]
      at he ⊢
    rcases he with he | he | he
    · exact Or.inr (Or.inl he)
    · exact Or.inr (Or.inr (Or.inl he))
    · rcases mem_encoder_callback htaken he with he | ⟨-, rfl⟩
      · exact Or.inr (Or.inr (Or.inr he))
      · exact Or.inl hmem
  · rw [callback_of_taken htaken] at hr
    rcases List.mem_append.mp hr with hr | hr
    · exact hi.received r hr
    · obtain rfl := List.mem_singleton.mp hr
      exact hi.references f.reference (List.mem_append_left _ hmem)

/-- **A step keeps the frames intact exactly if it is careful.** -/
theorem intact_step_iff {s : PreviewRing} (a : Action) (h : WellFormed s) (hi : s.Intact) :
    (s.step a).Intact ↔ s.Careful a := by
  cases moved_step h a with
  | quiet hpreview hvideo hindex hbytes htaken hencoder hreceived hC =>
    refine iff_of_true ⟨fun e he => ?_, fun r hr => hi.received r (hreceived ▸ hr)⟩ hC
    rw [hbytes]
    apply hi.references
    simp only [references, outstanding, inHand, htaken, List.mem_append] at he ⊢
    rcases he with he | he | he | he
    · exact Or.inl he
    · rcases hpreview with hpreview | hpreview <;> rw [hpreview] at he
      · exact Or.inr (Or.inl he)
      · exact absurd he List.not_mem_nil
    · exact Or.inr (Or.inr (Or.inl (hvideo he)))
    · exact Or.inr (Or.inr (Or.inr (hencoder he)))
  | copy p index hp hturn hbytes htaken hencoder hreceived hC =>
    have hreferences : ∀ e, e ∈ (s.step a).references ↔ e ∈ s.references ∨ e = (index, p) := by
      intro e
      rcases hturn with ⟨-, -, hpreview, hvideo, -⟩ | ⟨-, -, hpreview, hvideo, -⟩ <;>
        simp only [references, outstanding, inHand, htaken, hpreview, hvideo, hencoder,
          List.mem_append, List.mem_singleton] <;> tauto
    rw [intact_copy_iff hi (h.fresh hp) hreferences hbytes hreceived, hC]
    rcases hturn with ⟨htype, rfl, -⟩ | ⟨htype, hslot, -⟩
    · exact (h.carefulCopy_preview_iff htype).symm
    · exact (h.carefulCopy_video_iff htype hslot).symm
  | take e hturn htaken hout hindex hbytes hencoder hreceived hC =>
    refine iff_of_true ⟨fun e' he' => ?_, fun r hr => hi.received r (hreceived ▸ hr)⟩ hC
    rw [hbytes]
    apply hi.references
    have hhand : e' ∈ (s.step a).inHand → e' = e := fun hmem => by
      obtain ⟨f, hf, rfl⟩ := mem_inHand_iff.mp hmem
      exact htaken f hf
    simp only [references, outstanding, List.mem_append] at he' ⊢
    rcases hturn with ⟨hpreview, hvideo, -⟩ | ⟨hpreview, hvideo⟩ <;>
      simp only [hpreview, hvideo, hencoder, List.mem_cons] at he' ⊢ <;> tauto
  | callback f htaken hC heq => exact iff_of_true (heq ▸ intact_callback hi htaken) hC

/-! ### Runs -/

/-- What `startPreviewCallbacks` finds: the copies in the queues are tracked, those for the JPEG
thread are pictures, and no frame with memory waits in the frame queue but pictures. -/
structure Ready (s : AppCallbackNotifier) : Prop where
  tracked : s.custody.Tracked NotifierEvent.about
  pictures : Pictures s
  preview : queued s .PREVIEW_FRAME_SYNC = []
  video : queued s .VIDEO_FRAME_SYNC = []

/-- A new notifier is ready. -/
lemma ready_create (settings : NotifierSettings) (resizeThread jpegThread : ThreadFlags) :
    Ready (AppCallbackNotifier.create settings resizeThread jpegThread) where
  tracked := AppCallbackNotifier.tracked_create settings resizeThread jpegThread
  pictures _ hp := absurd hp List.not_mem_nil
  preview := rfl
  video := rfl

/-- The ring of a ready notifier is well formed. -/
lemma wellFormed_start {s : AppCallbackNotifier} (h : Ready s) (bufArr : List Ptr) :
    WellFormed (startPreviewCallbacks s bufArr) where
  tracked := h.tracked
  pictures := h.pictures
  window := by
    have hq : queued (startPreviewCallbacks s bufArr).toAppCallbackNotifier
      .PREVIEW_FRAME_SYNC = [] := h.preview
    rw [hq]
    exact ⟨0, le_rfl, (Nat.zero_mod _).symm, rfl⟩
  slots e he := by
    have hq : (startPreviewCallbacks s bufArr).outstanding = [] := by
      rw [outstanding, show queued (startPreviewCallbacks s bufArr).toAppCallbackNotifier
        .VIDEO_FRAME_SYNC = [] from h.video]
      rfl
    exact absurd (hq ▸ he) List.not_mem_nil
  recorded f hf := by cases hf
  inHand e he := absurd he List.not_mem_nil
  encoder e he := absurd he List.not_mem_nil

/-- The ring of a ready notifier is empty. -/
lemma intact_start {s : AppCallbackNotifier} (h : Ready s) (bufArr : List Ptr) :
    (startPreviewCallbacks s bufArr).Intact where
  references e he := by
    have hq : (startPreviewCallbacks s bufArr).references = [] := by
      have hvideo : queued (startPreviewCallbacks s bufArr).toAppCallbackNotifier
        .VIDEO_FRAME_SYNC = [] := h.video
      have hpreview : queued (startPreviewCallbacks s bufArr).toAppCallbackNotifier
        .PREVIEW_FRAME_SYNC = [] := h.preview
      rw [references, outstanding, hvideo, hpreview]
      rfl
    exact absurd (hq ▸ he) List.not_mem_nil
  received r hr := absurd hr List.not_mem_nil

/-- **The frames in the ring stay intact throughout a run if and only if all its steps are
careful.**

**Proof sketch.** In every state the waiting preview frames have the last slots whose turn it was,
and the outstanding recording frames have the slots of their buffers, so a copy is careful exactly
if nothing in the ring refers to its slot, and that is what keeps the bytes of the other frames;
the rest is the exact invariant rule. -/
theorem always_intact_iff {s : AppCallbackNotifier} (h : Ready s) (bufArr : List Ptr)
    (run : List Action) :
    StepRun.Always step Intact (startPreviewCallbacks s bufArr) run ↔
      StepRun.Along step Careful (startPreviewCallbacks s bufArr) run := by
  have hback : ∀ (r : PreviewRing) a, WellFormed r → WellFormed (r.step a) := fun _ a hw =>
    hw.step a
  have hstep : ∀ (r : PreviewRing) a, WellFormed r → r.Intact →
      ((r.step a).Intact ↔ r.Careful a) := fun _ a hw hi => intact_step_iff a hw hi
  exact StepRun.always_iff_along hback hstep (wellFormed_start h bufArr) (intact_start h bufArr)

/-- A notifier that is recording or previewing with one camera buffer. -/
def oneBuffer : AppCallbackNotifier :=
  .create AppCallbackNotifier.recordingSettings ⟨true, true, true⟩ ⟨true, true, true⟩

/-- A preview frame in the buffer of the recording frame. -/
def previewFrame : NotifierFrame :=
  { AppCallbackNotifier.recordingFrame with mFrameType := .PREVIEW_FRAME_SYNC }

/-- A preview frame on its way to the application. -/
def previewRun : List Action :=
  [.other (.frameCallback previewFrame) rfl, .resizeFrame true, .notifyFrame false, .callback]

/-- The only frame in the ring stays intact. -/
theorem always_intact_previewRun :
    StepRun.Always step Intact (startPreviewCallbacks oneBuffer [0x1000]) previewRun := by
  refine (always_intact_iff (ready_create _ _ _) [0x1000] previewRun).mpr
    ⟨trivial, fun p hp _ => ?_, trivial, trivial, trivial⟩
  obtain rfl : 0 = p := Option.some.inj hp
  exact ⟨fun f hf => (by cases hf), by decide, fun e he => absurd he List.not_mem_nil⟩

/-- A recording that starts while a preview frame waits, or while the notification thread has one
in its hand: the recording frame of the first buffer is copied over the preview frame in the first
slot, and the application receives its bytes for the preview frame. -/
theorem not_always_intact_startRecording :
    ¬ StepRun.Always step Intact (startPreviewCallbacks oneBuffer [0x1000])
        [.other (.frameCallback previewFrame) rfl, .resizeFrame true,
          .other (.enableFrameNotification .VIDEO_FRAME_SYNC) rfl,
          .other (.resizeFlush VIDEO_START_FLUSH) rfl, .other (.jpegFlush VIDEO_START_FLUSH) rfl,
          .other (.setRecording true) rfl,
          .other (.frameCallback AppCallbackNotifier.recordingFrame) rfl, .resizeFrame true] ∧
      ¬ StepRun.Always step Intact (startPreviewCallbacks oneBuffer [0x1000])
        [.other (.frameCallback previewFrame) rfl, .resizeFrame true, .notifyFrame false,
          .other (.enableFrameNotification .VIDEO_FRAME_SYNC) rfl,
          .other (.resizeFlush VIDEO_START_FLUSH) rfl, .other (.jpegFlush VIDEO_START_FLUSH) rfl,
          .other (.setRecording true) rfl,
          .other (.frameCallback AppCallbackNotifier.recordingFrame) rfl, .resizeFrame true,
          .callback] := by
  constructor
  · intro h
    have hbytes := h.last.references (0, 0) (by decide)
    exact absurd hbytes (by decide)
  · intro h
    have hreceived := h.last.received (0, some 1) (by decide)
    exact absurd hreceived (by decide)

end PreviewRing

end CameraHal
