import Gs702aHal.Camera.SlotBounds

set_option relaxedAutoImplicit false
set_option autoImplicit false

/-!
# Recording frames over several previews

Each preview has its own memory. `startPreviewCallbacks` requests it and enters the camera's
buffers into two maps: from a buffer to the number of its slot, and from the address of a slot
to its buffer. The recorder is given the address of a slot with each recording frame and releases
the frame by this address, whenever it likes; `releaseRecordingFrame` looks the buffer up in the
map of the moment. `stopPreviewCallbacks` clears both maps.

## Main definitions

* `CameraHal.VideoMemory`, `CameraHal.VideoMemory.step` — the notifier with the memory of the
  preview of the moment and the pointers that the recorder has.
* `CameraHal.VideoMemory.Faithful` — the maps are inverse, and each release returned the buffer
  that was delivered.
* `CameraHal.VideoMemory.Timely` — the condition on a step.
* `CameraHal.VideoMemory.WellFormed` — the invariant.

## Main results

* `CameraHal.VideoMemory.find?_reverse_iff` — what the map of addresses holds.
* `CameraHal.VideoMemory.WellFormed.step` — the invariant is kept.
* `CameraHal.VideoMemory.always_faithful_iff` — the releases are faithful throughout a run exactly
  if all its steps are timely.
-/

namespace CameraHal

/-- `MAX_BUFFERS`. -/
def MAX_BUFFERS : ℕ := 20

/-- Memory that `mRequestMemory` provides. -/
structure HeapMemory where
  /-- The address of its first byte. -/
  data : ℕ
  /-- It is not `NULL`. -/
  pos : 0 < data
deriving DecidableEq

namespace VideoMemory

/-- A recording frame that the recorder was given: the pointer, the copy, and the number of the
preview that it was delivered in. -/
structure Delivery where
  mem : ℕ
  copy : ℕ
  preview : ℕ
deriving DecidableEq

/-- A release: the copy of the most recent delivery at the pointer, and what was returned to the
frame provider. -/
structure Release where
  copy : ℕ
  returned : Option (Ptr × FrameType × StreamType)
deriving DecidableEq

end VideoMemory

/-- The notifier, with the memory of the preview and the maps for recording frames. The memory of a
queued frame is the address of its slot. -/
structure VideoMemory extends AppCallbackNotifier where
  mPreviewing : Bool
  mPreviewMemory : Option HeapMemory
  /-- The size of a slot. -/
  size : ℕ
  mPreviewMemoryCount : ℕ
  mPreviewMemoryIndex : ℕ
  mPreviewBufs : List Ptr
  mVideoMemoryCount : ℕ
  mVideoMemoryMap : KeyedVector Ptr ℕ
  mVideoMemoryReverseMap : KeyedVector ℕ Ptr
  /-- The number of previews started so far. -/
  preview : ℕ
  /-- What the recorder was given and has not released, the most recent delivery first. -/
  given : List VideoMemory.Delivery
  /-- The releases of pointers that the recorder was given. -/
  released : List VideoMemory.Release

namespace VideoMemory

/-- The address of a slot of the preview memory. -/
def slot (s : VideoMemory) (index : ℕ) : Option ℕ :=
  s.mPreviewMemory.map fun memory => memory.data + mPreviewMemoryBufs s.size index

/-- The map from the addresses of slots to the buffers. -/
def reverseMap (data size : ℕ) (bufArr : List Ptr) : KeyedVector ℕ Ptr :=
  KeyedVector.addAll ∅ (bufArr.zipIdx.map fun e => (data + mPreviewMemoryBufs size e.2, e.1))

/-- The notifier takes a step, and the memory stays as it is. -/
def withNotifier (s : VideoMemory) (a : AppCallbackNotifier) : VideoMemory :=
  { s with toAppCallbackNotifier := a }

/-- The steps of `startPreviewCallbacks` that concern the notifier. -/
def previewStart (a : AppCallbackNotifier) : List AppCallbackNotifier.Action :=
  (if a.settings.msgTypeEnabled .CAMERA_MSG_PREVIEW_FRAME then
    [.enableFrameNotification .PREVIEW_FRAME_SYNC] else []) ++
    [.resizeFlush PREVIEW_START_FLUSH, .jpegFlush PREVIEW_START_FLUSH]

/-- `startPreviewCallbacks`, for a preview format and size and the camera's buffers; `memory` is
what `mRequestMemory` answers. The frame provider was set before. -/
def startPreviewCallbacks (s : VideoMemory) (mPreviewPixelFormat : FrameFormat) (w h : ℕ)
    (bufArr : List Ptr) (memory : Option HeapMemory) : VideoMemory :=
  if MAX_BUFFERS < bufArr.length then s  -- `errorNotify` aborts the process
  else if s.mPreviewing then s
  else match memory with
  | none =>
    { s with
      mPreviewMemory := none
      mPreviewMemoryCount := copyBufCount bufArr.length }
  | some memory =>
    { s with
      toAppCallbackNotifier := StepRun.final AppCallbackNotifier.step s.toAppCallbackNotifier
        (previewStart s.toAppCallbackNotifier)
      mPreviewing := true
      mPreviewMemory := some memory
      size := previewSize mPreviewPixelFormat w h
      mPreviewMemoryCount := copyBufCount bufArr.length
      mPreviewMemoryIndex := 0
      mPreviewBufs := bufArr
      mVideoMemoryCount := bufArr.length
      mVideoMemoryMap := KeyedVector.addAll ∅ bufArr.zipIdx
      mVideoMemoryReverseMap :=
        reverseMap memory.data (previewSize mPreviewPixelFormat w h) bufArr
      preview := s.preview + 1 }

/-- `stopPreviewCallbacks`. -/
def stopPreviewCallbacks (s : VideoMemory) : VideoMemory :=
  if ¬ s.mPreviewing then s
  else
    { s with
      toAppCallbackNotifier := StepRun.final AppCallbackNotifier.step s.toAppCallbackNotifier
        AppCallbackNotifier.stopPreviewCallbacks
      mPreviewing := false
      mPreviewMemory := none
      mPreviewMemoryCount := 0
      mPreviewMemoryIndex := 0
      mPreviewBufs := []
      mVideoMemoryMap := ∅
      mVideoMemoryReverseMap := ∅ }

/-- `resizeFrame`; `memory` tells whether there is memory for a picture. -/
def resizeFrame (s : VideoMemory) (memory : Bool) : VideoMemory :=
  let a := s.toAppCallbackNotifier
  match s.mResizeQ with
  | [] => s
  | p :: _ =>
    if ¬ PreviewRing.choosesMemory a p then s.withNotifier (a.resizeFrame none)
    else match a.typeOf p with
    | .VIDEO_FRAME_SYNC =>
      match s.mVideoMemoryMap.find? (a.frame p).mBuffer with
      | none => s  -- `valueFor` aborts the process
      | some index =>
        if s.mVideoMemoryCount ≤ index then s.withNotifier (a.resizeFrame none)
        else s.withNotifier (a.resizeFrame (s.slot index))
    | .PREVIEW_FRAME_SYNC =>
      { s.withNotifier (a.resizeFrame (s.slot s.mPreviewMemoryIndex)) with
        mPreviewMemoryIndex := (s.mPreviewMemoryIndex + 1) % s.mPreviewMemoryCount }
    | _ => s.withNotifier (a.resizeFrame (if memory then some 0 else none))

/-- What the recorder is given with one message. -/
def gives (s : VideoMemory) : FrameMessage → List Delivery
  | .PROCESS_MEMORY_FRAME p (some mem) =>
    if s.recordsMemory p then [⟨mem, p, s.preview⟩] else []
  | _ => []

/-- `notifyFrame`. -/
def notifyFrame (s : VideoMemory) (metadata : Bool) : VideoMemory :=
  match s.mFrameQ with
  | [] => s
  | msg :: _ =>
    { s with
      toAppCallbackNotifier := s.toAppCallbackNotifier.notifyFrame metadata
      given := s.gives msg ++ s.given }

/-- What `releaseRecordingFrame` returns to the frame provider for a pointer into a preview memory:
nothing where `valueFor` does not find it. The maps of metadata buffers do not know it. -/
def returns (s : VideoMemory) (mem : ℕ) : Option (Ptr × FrameType × StreamType) :=
  if s.settings.mUseMetaDataBufferMode then none
  else (s.mVideoMemoryReverseMap.find? mem).map
    fun frame => (frame, .VIDEO_FRAME_SYNC, .PREVIEW_STREAM_TYPE)

/-- The most recent delivery at a pointer. -/
def latest (s : VideoMemory) (mem : ℕ) : Option Delivery := s.given.find? fun d => d.mem = mem

/-- `releaseRecordingFrame`. -/
def releaseRecordingFrame (s : VideoMemory) (mem : ℕ) : VideoMemory :=
  if mem = NULL then s
  else
    { s with
      toAppCallbackNotifier := (s.returns mem).elim s.toAppCallbackNotifier
        fun r => s.toAppCallbackNotifier.step (.releaseRecordingFrame r.1)
      given := s.given.eraseP fun d => d.mem = mem
      released := s.released ++ ((s.latest mem).map fun d => ⟨d.copy, s.returns mem⟩).toList }

/-- The steps. -/
inductive Action
  | startPreviewCallbacks (mPreviewPixelFormat : FrameFormat) (w h : ℕ) (bufArr : List Ptr)
    (memory : Option HeapMemory)
  | stopPreviewCallbacks
  | resizeFrame (memory : Bool)
  | notifyFrame (metadata : Bool)
  | releaseRecordingFrame (mem : ℕ)
  | other (a : AppCallbackNotifier.Action) (h : PreviewRing.outsideRing a)

/-- One step. -/
def step (s : VideoMemory) : Action → VideoMemory
  | .startPreviewCallbacks format w h bufArr memory =>
    s.startPreviewCallbacks format w h bufArr memory
  | .stopPreviewCallbacks => s.stopPreviewCallbacks
  | .resizeFrame memory => s.resizeFrame memory
  | .notifyFrame metadata => s.notifyFrame metadata
  | .releaseRecordingFrame mem => s.releaseRecordingFrame mem
  | .other a _ => s.withNotifier (s.toAppCallbackNotifier.step a)

/-- The memory of a new notifier. -/
def create (settings : NotifierSettings) (resizeThread jpegThread : ThreadFlags) :
    VideoMemory where
  toAppCallbackNotifier := .create settings resizeThread jpegThread
  mPreviewing := false
  mPreviewMemory := none
  size := 0
  mPreviewMemoryCount := 0
  mPreviewMemoryIndex := 0
  mPreviewBufs := []
  mVideoMemoryCount := 0
  mVideoMemoryMap := ∅
  mVideoMemoryReverseMap := ∅
  preview := 0
  given := []
  released := []

/-- The ring of the moment has the slot of a buffer at an address. -/
def HasSlot (s : VideoMemory) (buffer : Ptr) (mem : ℕ) : Prop :=
  ∃ index : ℕ, s.mPreviewBufs[index]? = some buffer ∧ s.slot index = some mem

/-- **The recorder's releases are faithful**: the two maps are inverse to each other, each release
returned the buffer of the most recent delivery at its pointer, as a recording frame, and
different pointers stand for different deliveries. -/
structure Faithful (s : VideoMemory) : Prop where
  inverse : ∀ buffer mem,
    (∃ index, s.mVideoMemoryMap.find? buffer = some index ∧ s.slot index = some mem) ↔
      s.mVideoMemoryReverseMap.find? mem = some buffer
  released : ∀ r ∈ s.released,
    r.returned = some ((s.frame r.copy).mBuffer, .VIDEO_FRAME_SYNC, .PREVIEW_STREAM_TYPE)
  distinct : ∀ d ∈ s.given, ∀ d' ∈ s.given, d.mem ≠ d'.mem → d.copy ≠ d'.copy

/-- Two places of a list have the same buffer exactly if their slots have the same address: all
buffers are different and the slots are not empty, or all are the same and the slots are empty. -/
def SlotsMatch (size : ℕ) (bufArr : List Ptr) : Prop :=
  ∀ i < bufArr.length, ∀ j < bufArr.length,
    bufArr[i]? = bufArr[j]? ↔ mPreviewMemoryBufs size i = mPreviewMemoryBufs size j

instance (size : ℕ) (bufArr : List Ptr) : Decidable (SlotsMatch size bufArr) :=
  inferInstanceAs (Decidable (∀ i < _, ∀ j < _, _))

/-- The condition on a step. A preview starts with a list of buffers whose slots match. A pointer is
released while recording frames are not passed as metadata and the preview that it was
delivered in is still on, or the ring of the moment has the slot of the same buffer at the same
address. -/
def Timely (s : VideoMemory) : Action → Prop
  | .startPreviewCallbacks format w h bufArr memory =>
    bufArr.length ≤ MAX_BUFFERS → s.mPreviewing = false → memory.isSome →
      SlotsMatch (previewSize format w h) bufArr
  | .releaseRecordingFrame mem => ∀ d ∈ s.latest mem, mem ≠ NULL →
      s.settings.mUseMetaDataBufferMode = false ∧
        (s.mPreviewing = true ∧ d.preview = s.preview ∨ s.HasSlot (s.frame d.copy).mBuffer mem)
  | _ => True

/-! ### The maps of one preview -/

section Maps

variable {data size : ℕ} {bufArr : List Ptr}

/-- A buffer's slot is one of its places in the list. -/
lemma getElem?_of_find?_map {buffer : Ptr} {index : ℕ}
    (h : (KeyedVector.addAll ∅ bufArr.zipIdx).find? buffer = some index) :
    bufArr[index]? = some buffer := by
  rcases KeyedVector.mem_of_find?_addAll h with hmem | hnone
  · exact List.mem_zipIdx_iff_getElem?.mp hmem
  · exact absurd hnone (by simp)

/-- Every buffer of the list has a slot. -/
lemma exists_find?_map {buffer : Ptr} {index : ℕ} (h : bufArr[index]? = some buffer) :
    ∃ k, (KeyedVector.addAll ∅ bufArr.zipIdx).find? buffer = some k := by
  refine Option.isSome_iff_exists.mp ?_
  rw [KeyedVector.isSome_find?_addAll]
  exact Or.inl (List.mem_map.mpr ⟨(buffer, index), List.mem_zipIdx_iff_getElem?.mpr h, rfl⟩)

/-- What the map of addresses holds is a buffer at one of the places with this address. -/
lemma getElem?_of_find?_reverse {mem : ℕ} {buffer : Ptr}
    (h : (reverseMap data size bufArr).find? mem = some buffer) :
    ∃ index : ℕ, bufArr[index]? = some buffer ∧ data + mPreviewMemoryBufs size index = mem := by
  rcases KeyedVector.mem_of_find?_addAll h with hmem | hnone
  · obtain ⟨⟨b, index⟩, he, heq⟩ := List.mem_map.mp hmem
    obtain ⟨hmem', rfl⟩ := Prod.mk.inj heq
    exact ⟨index, List.mem_zipIdx_iff_getElem?.mp he, hmem'⟩
  · exact absurd hnone (by simp)

/-- Every address of a slot is in the map. -/
lemma exists_find?_reverse {buffer : Ptr} {index : ℕ} (h : bufArr[index]? = some buffer) :
    ∃ b, (reverseMap data size bufArr).find? (data + mPreviewMemoryBufs size index) = some b := by
  refine Option.isSome_iff_exists.mp ?_
  rw [reverseMap, KeyedVector.isSome_find?_addAll, List.map_map]
  exact Or.inl (List.mem_map.mpr ⟨(buffer, index), List.mem_zipIdx_iff_getElem?.mpr h, rfl⟩)

/-- **If the slots match, the map of addresses holds the buffer of each slot.** -/
theorem find?_reverse_iff (h : SlotsMatch size bufArr) (mem : ℕ) (buffer : Ptr) :
    (reverseMap data size bufArr).find? mem = some buffer ↔
      ∃ index : ℕ, bufArr[index]? = some buffer ∧
        data + mPreviewMemoryBufs size index = mem := by
  constructor
  · exact getElem?_of_find?_reverse
  · rintro ⟨i, hi, rfl⟩
    obtain ⟨b, hb⟩ := @exists_find?_reverse data size bufArr buffer i hi
    obtain ⟨j, hj, hslot⟩ := getElem?_of_find?_reverse hb
    have hbuffer := (h i (List.getElem?_eq_some_iff.mp hi).1 j
      (List.getElem?_eq_some_iff.mp hj).1).mpr (Nat.add_left_cancel hslot).symm
    rw [hb, ← hj, ← hbuffer, hi]

/-- If the slots match, the map of buffers leads to the address of every place of a buffer. -/
lemma find?_map_iff (h : SlotsMatch size bufArr) (mem : ℕ) (buffer : Ptr) :
    (∃ index, (KeyedVector.addAll ∅ bufArr.zipIdx).find? buffer = some index ∧
        data + mPreviewMemoryBufs size index = mem) ↔
      ∃ index : ℕ, bufArr[index]? = some buffer ∧
        data + mPreviewMemoryBufs size index = mem := by
  constructor
  · rintro ⟨index, hfind, hslot⟩
    exact ⟨index, getElem?_of_find?_map hfind, hslot⟩
  · rintro ⟨i, hi, rfl⟩
    obtain ⟨k, hk⟩ := exists_find?_map hi
    have hk' := getElem?_of_find?_map hk
    have hslot := (h k (List.getElem?_eq_some_iff.mp hk').1 i
      (List.getElem?_eq_some_iff.mp hi).1).mp (hk'.trans hi.symm)
    exact ⟨k, hk, by rw [hslot]⟩

/-- **The maps are inverse to each other only if the slots match.**

**Proof sketch.** If the slots are not empty, each address has one place, so that a buffer with two
places would have two slots; if they are empty, all buffers have one address, and the map of
addresses holds one of them. -/
theorem slotsMatch_of_inverse
    (h : ∀ buffer mem, (∃ index, (KeyedVector.addAll ∅ bufArr.zipIdx).find? buffer = some index ∧
        data + mPreviewMemoryBufs size index = mem) ↔
      (reverseMap data size bufArr).find? mem = some buffer) :
    SlotsMatch size bufArr := by
  intro i hi j hj
  have hi' := List.getElem?_eq_getElem hi
  have hj' := List.getElem?_eq_getElem hj
  rcases Nat.eq_zero_or_pos size with rfl | hsize
  · -- all slots have the address of the memory
    refine iff_of_true ?_ rfl
    have hfind : ∀ {b : Ptr} {k : ℕ}, bufArr[k]? = some b →
        (reverseMap data 0 bufArr).find? data = some b := by
      intro b k hk
      obtain ⟨index, hindex⟩ := exists_find?_map hk
      exact (h b data).mp ⟨index, hindex, rfl⟩
    have hsame := (hfind hi').symm.trans (hfind hj')
    rw [hi', hj', hsame]
  · have hinj : ∀ {k l : ℕ}, mPreviewMemoryBufs size k = mPreviewMemoryBufs size l → k = l :=
      fun heq => Nat.eq_of_mul_eq_mul_right hsize heq
    have hplace : ∀ {b : Ptr} {k : ℕ}, bufArr[k]? = some b →
        (KeyedVector.addAll ∅ bufArr.zipIdx).find? b = some k := by
      intro b k hk
      obtain ⟨c, hc⟩ := @exists_find?_reverse data size bufArr b k hk
      obtain ⟨l, hl, hslot⟩ := getElem?_of_find?_reverse hc
      obtain rfl := hinj (Nat.add_left_cancel hslot)
      obtain rfl := Option.some.inj (hl.symm.trans hk)
      obtain ⟨index, hindex, hslot'⟩ := (h _ _).mpr hc
      rw [hindex, hinj (Nat.add_left_cancel hslot')]
    constructor
    · intro heq
      have hfind := (hplace hi').symm.trans (hplace (heq.symm.trans hi'))
      rw [Option.some.inj hfind]
    · intro heq
      rw [hinj heq]

end Maps

/-! ### Runs of the notifier -/

/-- What a run of the notifier keeps: the copies in the queues stay tracked, those for the JPEG
thread stay pictures, the heap grows, and copies that have left do not come back. -/
structure Keeps (s s' : AppCallbackNotifier) : Prop where
  tracked : s.custody.Tracked NotifierEvent.about → s'.custody.Tracked NotifierEvent.about
  pictures : s.custody.Tracked NotifierEvent.about → PreviewRing.Pictures s →
    PreviewRing.Pictures s'
  heap : s.heap <+: s'.heap
  left : ∀ {p}, p < s.heap.length → p ∉ s.custody.held → p ∉ s'.custody.held

/-- Nothing happens. -/
lemma Keeps.refl (s : AppCallbackNotifier) : Keeps s s where
  tracked h := h
  pictures _ h := h
  heap := List.prefix_refl _
  left _ h := h

/-- One part after another. -/
lemma Keeps.trans {s s' s'' : AppCallbackNotifier} (h : Keeps s s') (h' : Keeps s' s'') :
    Keeps s s'' where
  tracked ht := h'.tracked (h.tracked ht)
  pictures ht hp := h'.pictures (h.tracked ht) (h.pictures ht hp)
  heap := h.heap.trans h'.heap
  left hlt hheld := h'.left (hlt.trans_le h.heap.length_le) (h.left hlt hheld)

/-- A step of the notifier. -/
lemma keeps_step (s : AppCallbackNotifier) (a : AppCallbackNotifier.Action) :
    Keeps s (s.step a) where
  tracked ht := AppCallbackNotifier.tracked_step s a ht
  pictures ht hp := PreviewRing.pictures_step a hp ht
  heap := (AppCallbackNotifier.handles_step s a).heap_grows
  left := (AppCallbackNotifier.handles_step s a).notMem_held

/-- A run of the notifier. -/
lemma keeps_final (s : AppCallbackNotifier) (run : List AppCallbackNotifier.Action) :
    Keeps s (StepRun.final AppCallbackNotifier.step s run) := by
  induction run generalizing s with
  | nil => exact .refl s
  | cons a run ih => exact (keeps_step s a).trans (ih (s.step a))

/-- What `resizeFrame` does: nothing, at most where memory is chosen for a copy, or a step of the
notifier in which the memory of a recording frame is the slot of its buffer. -/
lemma resizeFrame_cases (s : VideoMemory) (memory : Bool) :
    (s.resizeFrame memory = s ∧ ∀ p ∈ s.mResizeQ.head?,
      PreviewRing.choosesMemory s.toAppCallbackNotifier p) ∨ ∃ m index,
      s.resizeFrame memory = { s.withNotifier (s.toAppCallbackNotifier.resizeFrame m) with
        mPreviewMemoryIndex := index } ∧
      ∀ mem, m = some mem → ∀ p ∈ s.mResizeQ.head?, s.typeOf p = .VIDEO_FRAME_SYNC →
        ∃ k, s.mVideoMemoryMap.find? (s.frame p).mBuffer = some k ∧ s.slot k = some mem := by
  unfold resizeFrame
  cases hq : s.mResizeQ with
  | nil => exact Or.inl ⟨rfl, fun p hp => by cases hp⟩
  | cons p rest =>
    have hhead : ∀ {q}, q ∈ (p :: rest).head? → p = q := fun h => Option.some.inj h
    by_cases hchooses : PreviewRing.choosesMemory s.toAppCallbackNotifier p
    · simp only [hchooses, not_true_eq_false, if_false]
      cases htype : s.typeOf p with
      | VIDEO_FRAME_SYNC =>
        cases hfind : s.mVideoMemoryMap.find? (s.frame p).mBuffer with
        | none =>
          refine Or.inl ⟨rfl, fun q hq' => ?_⟩
          obtain rfl := hhead hq'
          exact hchooses
        | some index =>
          by_cases hcount : s.mVideoMemoryCount ≤ index
          · refine Or.inr ⟨none, _, by simp only [if_pos hcount]; rfl, fun mem hm => by cases hm⟩
          · refine Or.inr ⟨s.slot index, _, by simp only [if_neg hcount]; rfl, ?_⟩
            rintro mem hm q hq' -
            obtain rfl := hhead hq'
            exact ⟨index, hfind, hm⟩
      | PREVIEW_FRAME_SYNC =>
        refine Or.inr ⟨_, _, rfl, fun mem hm q hq' hvideo => ?_⟩
        obtain rfl := hhead hq'
        exact absurd (htype.symm.trans hvideo) (by decide)
      | _ =>
        refine Or.inr ⟨_, s.mPreviewMemoryIndex, rfl, fun mem hm q hq' hvideo => ?_⟩
        obtain rfl := hhead hq'
        exact absurd (htype.symm.trans hvideo) (by decide)
    · simp only [if_pos hchooses]
      exact Or.inr ⟨none, s.mPreviewMemoryIndex, rfl, fun mem hm => by cases hm⟩

/-- Every step runs the notifier. -/
lemma keeps_toAppCallbackNotifier (s : VideoMemory) (a : Action) :
    Keeps s.toAppCallbackNotifier (s.step a).toAppCallbackNotifier := by
  cases a with
  | startPreviewCallbacks format w h bufArr memory =>
    simp only [step, startPreviewCallbacks]
    split_ifs
    · exact .refl _
    · exact .refl _
    · cases memory with
      | none => exact .refl _
      | some memory => exact keeps_final _ _
  | stopPreviewCallbacks =>
    simp only [step, stopPreviewCallbacks]
    split_ifs
    · exact keeps_final _ _
    · exact .refl _
  | resizeFrame memory =>
    rcases resizeFrame_cases s memory with ⟨heq, -⟩ | ⟨m, index, heq, -⟩ <;>
      simp only [step, heq]
    · exact .refl _
    · exact keeps_step _ (.resizeFrame m)
  | notifyFrame metadata =>
    simp only [step, notifyFrame]
    split
    · exact .refl _
    · exact keeps_step _ (.notifyFrame metadata)
  | releaseRecordingFrame mem =>
    simp only [step, releaseRecordingFrame]
    split_ifs
    · exact .refl _
    · cases s.returns mem with
      | none => exact .refl _
      | some r => exact keeps_step _ (.releaseRecordingFrame r.1)
  | other a h => exact keeps_step _ a

/-! ### The invariant -/

/-- What holds in every state of a run whose steps are timely. -/
structure WellFormed (s : VideoMemory) : Prop where
  tracked : s.custody.Tracked NotifierEvent.about
  pictures : PreviewRing.Pictures s.toAppCallbackNotifier
  /-- The maps are those of the buffers of the preview. -/
  map : s.mVideoMemoryMap = KeyedVector.addAll ∅ s.mPreviewBufs.zipIdx
  reverse : ∀ memory ∈ s.mPreviewMemory,
    s.mVideoMemoryReverseMap = reverseMap memory.data s.size s.mPreviewBufs
  slots : SlotsMatch s.size s.mPreviewBufs
  /-- Between previews there are no buffers. -/
  off : s.mPreviewMemory = none → s.mPreviewBufs = [] ∧ s.mVideoMemoryReverseMap = ∅
  stopped : s.mPreviewing = false → s.mPreviewBufs = [] ∧ s.mVideoMemoryReverseMap = ∅
  /-- The recording frames that are queued have the slots of their buffers. -/
  queued : ∀ e ∈ PreviewRing.queued s.toAppCallbackNotifier .VIDEO_FRAME_SYNC,
    s.HasSlot (s.frame e.2).mBuffer e.1
  /-- So have those that the recorder was given in this preview. -/
  given : ∀ d ∈ s.given, s.mPreviewing = true → d.preview = s.preview →
    s.HasSlot (s.frame d.copy).mBuffer d.mem
  /-- The copies that the recorder was given have left. -/
  left : ∀ d ∈ s.given, d.preview ≤ s.preview ∧ d.copy < s.heap.length ∧
    d.copy ∉ s.custody.held
  nodup : (s.given.map Delivery.copy).Nodup
  released : ∀ r ∈ s.released, r.copy < s.heap.length ∧
    r.returned = some ((s.frame r.copy).mBuffer, .VIDEO_FRAME_SYNC, .PREVIEW_STREAM_TYPE)

/-- The map of addresses holds the slots of the ring of the moment. -/
lemma WellFormed.find?_reverse {s : VideoMemory} (h : WellFormed s) (mem : ℕ) (buffer : Ptr) :
    s.mVideoMemoryReverseMap.find? mem = some buffer ↔ s.HasSlot buffer mem := by
  cases hm : s.mPreviewMemory with
  | none =>
    obtain ⟨hbufs, hreverse⟩ := h.off hm
    simp [hreverse, HasSlot, hbufs]
  | some memory =>
    rw [h.reverse memory hm, find?_reverse_iff h.slots]
    simp [HasSlot, slot, hm]

/-- **The maps are inverse to each other.** -/
lemma WellFormed.inverse {s : VideoMemory} (h : WellFormed s) (buffer : Ptr) (mem : ℕ) :
    (∃ index, s.mVideoMemoryMap.find? buffer = some index ∧ s.slot index = some mem) ↔
      s.mVideoMemoryReverseMap.find? mem = some buffer := by
  rw [h.find?_reverse, h.map]
  cases hm : s.mPreviewMemory with
  | none => simp [HasSlot, slot, hm]
  | some memory =>
    have hmap := @find?_map_iff memory.data _ _ h.slots mem buffer
    simpa [HasSlot, slot, hm] using hmap

/-- Different deliveries have different copies. -/
lemma WellFormed.distinct {s : VideoMemory} (h : WellFormed s) :
    ∀ d ∈ s.given, ∀ d' ∈ s.given, d.mem ≠ d'.mem → d.copy ≠ d'.copy := by
  intro d hd d' hd' hne hcopy
  exact hne (congrArg Delivery.mem (List.inj_on_of_nodup_map h.nodup hd hd' hcopy))

/-- The releases are faithful in a well-formed state. -/
lemma WellFormed.faithful {s : VideoMemory} (h : WellFormed s) : Faithful s where
  inverse := h.inverse
  released r hr := (h.released r hr).2
  distinct := h.distinct

/-- A new notifier is well formed. -/
lemma wellFormed_create (settings : NotifierSettings) (resizeThread jpegThread : ThreadFlags) :
    WellFormed (create settings resizeThread jpegThread) where
  tracked := AppCallbackNotifier.tracked_create settings resizeThread jpegThread
  pictures _ hp := absurd hp List.not_mem_nil
  map := rfl
  reverse memory hm := by cases hm
  slots i hi := absurd hi (Nat.not_lt_zero i)
  off _ := ⟨rfl, rfl⟩
  stopped _ := ⟨rfl, rfl⟩
  queued e he := absurd he List.not_mem_nil
  given d hd := absurd hd List.not_mem_nil
  left d hd := absurd hd List.not_mem_nil
  nodup := List.nodup_nil
  released r hr := absurd hr List.not_mem_nil

/-! ### Steps within a preview -/

/-- The preview, its memory and its maps stay as they are. -/
structure SameRing (s s' : VideoMemory) : Prop where
  mPreviewing : s'.mPreviewing = s.mPreviewing
  mPreviewMemory : s'.mPreviewMemory = s.mPreviewMemory
  size : s'.size = s.size
  mPreviewBufs : s'.mPreviewBufs = s.mPreviewBufs
  mVideoMemoryMap : s'.mVideoMemoryMap = s.mVideoMemoryMap
  mVideoMemoryReverseMap : s'.mVideoMemoryReverseMap = s.mVideoMemoryReverseMap
  preview : s'.preview = s.preview

/-- The slots of the buffers stay. -/
lemma SameRing.hasSlot_iff {s s' : VideoMemory} (h : SameRing s s') (buffer : Ptr) (mem : ℕ) :
    s'.HasSlot buffer mem ↔ s.HasSlot buffer mem := by
  simp only [HasSlot, slot, h.mPreviewBufs, h.mPreviewMemory, h.size]

/-- A copy that exists keeps its frame. -/
lemma Keeps.frame {s s' : AppCallbackNotifier} (h : Keeps s s') {p : ℕ} (hp : p < s.heap.length) :
    s'.frame p = s.frame p :=
  AppCallbackNotifier.frame_of_prefix h.heap hp

/-- The copies of queued frames exist. -/
lemma WellFormed.lt_of_queued {s : VideoMemory} (h : WellFormed s) {t : FrameType} {e : ℕ × ℕ}
    (he : e ∈ PreviewRing.queued s.toAppCallbackNotifier t) : e.2 < s.heap.length :=
  h.tracked.held_lt _ (PreviewRing.mem_held_of_mem_queued he)

/-- A step within a preview keeps the invariant if the recording frames that it queues have their
slots, what it gives to the recorder was queued, and what it releases is returned. -/
lemma WellFormed.of_sameRing {s s' : VideoMemory} (h : WellFormed s) (hring : SameRing s s')
    (hk : Keeps s.toAppCallbackNotifier s'.toAppCallbackNotifier)
    (hqueued : ∀ e ∈ PreviewRing.queued s'.toAppCallbackNotifier .VIDEO_FRAME_SYNC,
      e ∈ PreviewRing.queued s.toAppCallbackNotifier .VIDEO_FRAME_SYNC ∨
        e.2 < s.heap.length ∧ s.HasSlot (s.frame e.2).mBuffer e.1)
    (hgiven : ∀ d ∈ s'.given, d ∈ s.given ∨ d.preview = s.preview ∧
      (d.mem, d.copy) ∈ PreviewRing.queued s.toAppCallbackNotifier .VIDEO_FRAME_SYNC ∧
        d.copy ∉ s'.custody.held)
    (hnodup : (s'.given.map Delivery.copy).Nodup)
    (hreleased : ∀ r ∈ s'.released, r ∈ s.released ∨ r.copy < s.heap.length ∧
      r.returned = some ((s.frame r.copy).mBuffer, .VIDEO_FRAME_SYNC, .PREVIEW_STREAM_TYPE)) :
    WellFormed s' where
  tracked := hk.tracked h.tracked
  pictures := hk.pictures h.tracked h.pictures
  map := by rw [hring.mVideoMemoryMap, hring.mPreviewBufs, h.map]
  reverse memory hm := by
    rw [hring.mPreviewMemory] at hm
    rw [hring.mVideoMemoryReverseMap, hring.size, hring.mPreviewBufs, h.reverse memory hm]
  slots := by
    rw [hring.size, hring.mPreviewBufs]
    exact h.slots
  off hm := by
    rw [hring.mPreviewMemory] at hm
    rw [hring.mPreviewBufs, hring.mVideoMemoryReverseMap]
    exact h.off hm
  stopped hp := by
    rw [hring.mPreviewing] at hp
    rw [hring.mPreviewBufs, hring.mVideoMemoryReverseMap]
    exact h.stopped hp
  queued e he := by
    rw [hring.hasSlot_iff]
    rcases hqueued e he with hold | ⟨hlt, hslot⟩
    · rw [hk.frame (h.lt_of_queued hold)]
      exact h.queued e hold
    · rwa [hk.frame hlt]
  given d hd hp hpreview := by
    rw [hring.hasSlot_iff]
    rw [hring.mPreviewing] at hp
    rw [hring.preview] at hpreview
    rcases hgiven d hd with hold | ⟨-, hold, -⟩
    · rw [hk.frame (h.left d hold).2.1]
      exact h.given d hold hp hpreview
    · rw [hk.frame (h.lt_of_queued hold)]
      exact h.queued _ hold
  left d hd := by
    rw [hring.preview]
    rcases hgiven d hd with hold | ⟨hpreview, hold, hout⟩
    · obtain ⟨hle, hlt, hheld⟩ := h.left d hold
      exact ⟨hle, hlt.trans_le hk.heap.length_le, hk.left hlt hheld⟩
    · exact ⟨hpreview.le, (h.lt_of_queued hold).trans_le hk.heap.length_le, hout⟩
  nodup := hnodup
  released r hr := by
    rcases hreleased r hr with hold | ⟨hlt, hreturned⟩
    · obtain ⟨hlt, hreturned⟩ := h.released r hold
      exact ⟨hlt.trans_le hk.heap.length_le, by rw [hk.frame hlt, hreturned]⟩
    · exact ⟨hlt.trans_le hk.heap.length_le, by rw [hk.frame hlt, hreturned]⟩

/-- What the resize thread queues. -/
lemma mem_queued_resizeFrame {s : AppCallbackNotifier}
    (ht : s.custody.Tracked NotifierEvent.about) {m : Option ℕ} {t : FrameType} {e : ℕ × ℕ}
    (he : e ∈ PreviewRing.queued (s.resizeFrame m) t) :
    e ∈ PreviewRing.queued s t ∨
      e.2 ∈ s.mResizeQ.head? ∧ e.2 < s.heap.length ∧ m = some e.1 ∧ s.typeOf e.2 = t := by
  have hk : Keeps s (s.resizeFrame m) := keeps_step s (.resizeFrame m)
  cases hq : s.mResizeQ with
  | nil =>
    have hsame : s.resizeFrame m = s := by simp only [AppCallbackNotifier.resizeFrame, hq]
    exact Or.inl (hsame ▸ he)
  | cons p rest =>
    have hp : p ∈ s.mResizeQ.head? := by rw [hq]; rfl
    have hlt : p < s.heap.length := ht.held_lt p (PreviewRing.head_mResizeQ ht hp).1
    rcases (PreviewRing.resizeFrame_mFrameQ hp m).2 with hsame | ⟨m', hm', hput⟩
    · rw [PreviewRing.queued_of_same ht hk.heap hsame] at he
      exact Or.inl he
    · rw [PreviewRing.queued_of_put ht hk.heap hput] at he
      rcases List.mem_append.mp he with hold | hnew
      · exact Or.inl hold
      · obtain ⟨hmsg, htype⟩ := PreviewRing.slot?_eq_some_iff.mp (Option.mem_toList.mp hnew)
        obtain ⟨rfl, rfl⟩ := FrameMessage.PROCESS_MEMORY_FRAME.inj hmsg
        have hframe := hk.frame hlt
        rw [AppCallbackNotifier.typeOf, hframe] at htype
        rcases hm' with hm' | hm'
        · cases hm'
        · exact Or.inr ⟨rfl, hlt, hm'.symm, htype⟩

/-- The resize thread keeps the invariant. -/
lemma WellFormed.resizeFrame {s : VideoMemory} (h : WellFormed s) (memory : Bool) :
    WellFormed (s.resizeFrame memory) := by
  have hk := keeps_toAppCallbackNotifier s (.resizeFrame memory)
  simp only [VideoMemory.step] at hk
  rcases resizeFrame_cases s memory with ⟨heq, -⟩ | ⟨m, index, heq, hslot⟩
  · rwa [heq]
  · rw [heq] at hk ⊢
    refine h.of_sameRing ⟨rfl, rfl, rfl, rfl, rfl, rfl, rfl⟩ hk (fun e he => ?_)
      (fun d hd => Or.inl hd) h.nodup fun r hr => Or.inl hr
    rcases mem_queued_resizeFrame h.tracked he with hold | ⟨hhead, hlt, hm, htype⟩
    · exact Or.inl hold
    · obtain ⟨k, hfind, hk⟩ := hslot e.1 hm e.2 hhead htype
      rw [h.map] at hfind
      exact Or.inr ⟨hlt, k, getElem?_of_find?_map hfind, hk⟩

/-- What the recorder is given with a message was queued for it. -/
lemma mem_gives_iff {s : VideoMemory} {msg : FrameMessage} {d : Delivery} :
    d ∈ s.gives msg ↔ msg = .PROCESS_MEMORY_FRAME d.copy (some d.mem) ∧
      s.recordsMemory d.copy = true ∧ d.preview = s.preview := by
  obtain ⟨mem, p, preview⟩ := d
  cases msg with
  | PROCESS_FRAME q => simp [gives]
  | PROCESS_MEMORY_FRAME q memory =>
    cases memory with
    | none => simp [gives]
    | some mem' =>
      by_cases hrec : s.recordsMemory q
      · simp only [gives, hrec, if_true, List.mem_singleton, Delivery.mk.injEq,
          FrameMessage.PROCESS_MEMORY_FRAME.injEq, Option.some.injEq]
        constructor
        · rintro ⟨rfl, rfl, rfl⟩
          exact ⟨⟨rfl, rfl⟩, hrec, rfl⟩
        · rintro ⟨⟨rfl, rfl⟩, -, rfl⟩
          exact ⟨rfl, rfl, rfl⟩
      · simp only [gives, if_neg hrec, List.not_mem_nil, FrameMessage.PROCESS_MEMORY_FRAME.injEq,
          false_iff]
        rintro ⟨⟨rfl, -⟩, hrec', -⟩
        exact hrec hrec'

/-- A message gives at most one frame. -/
lemma nodup_gives (s : VideoMemory) (msg : FrameMessage) :
    ((s.gives msg).map Delivery.copy).Nodup := by
  unfold gives
  split
  · split_ifs
    · exact List.nodup_singleton _
    · exact List.nodup_nil
  · exact List.nodup_nil

/-- The notification thread keeps the invariant. -/
lemma WellFormed.notifyFrame {s : VideoMemory} (h : WellFormed s) (metadata : Bool) :
    WellFormed (s.notifyFrame metadata) := by
  have hk := keeps_toAppCallbackNotifier s (.notifyFrame metadata)
  simp only [VideoMemory.step] at hk
  unfold VideoMemory.notifyFrame at hk ⊢
  cases hq : s.mFrameQ with
  | nil => exact h
  | cons msg rest =>
    simp only [hq] at hk ⊢
    obtain ⟨hrest, hheap, hheld⟩ := PreviewRing.notifyFrame_of_cons hq metadata
    have hget := @PreviewRing.queued_of_get _ _ .VIDEO_FRAME_SYNC _ hheap
      (hq.trans (congrArg _ hrest.symm))
    have hmsg : msg ∈ s.mFrameQ := hq ▸ List.mem_cons_self
    have hout : msg.frame ∉ (s.toAppCallbackNotifier.notifyFrame metadata).custody.held := by
      have hnodup := h.tracked.nodup
      simp only [AppCallbackNotifier.custody, hq, List.map_cons, List.cons_append,
        List.nodup_cons] at hnodup
      rw [hheld]
      exact hnodup.1
    have hin : msg.frame ∈ s.custody.held := by
      simp only [AppCallbackNotifier.custody, List.mem_append]
      exact Or.inl (Or.inl (List.mem_map_of_mem hmsg))
    refine h.of_sameRing ⟨rfl, rfl, rfl, rfl, rfl, rfl, rfl⟩ hk (fun e he => Or.inl ?_)
      (fun d hd => ?_) ?_ fun r hr => Or.inl hr
    · rw [hget]
      exact List.mem_append_right _ he
    · rcases List.mem_append.mp hd with hnew | hold
      · obtain ⟨rfl, hrec, hpreview⟩ := mem_gives_iff.mp hnew
        have htype := PreviewRing.typeOf_of_recordsMemory hrec
        exact Or.inr ⟨hpreview, PreviewRing.mem_queued_iff.mpr ⟨hmsg, htype⟩, hout⟩
      · exact Or.inl hold
    · -- the copy of the message is still held, those given before have left
      rw [List.map_append, List.nodup_append']
      refine ⟨nodup_gives s msg, h.nodup, fun p hnew hold => ?_⟩
      obtain ⟨d, hd, rfl⟩ := List.mem_map.mp hnew
      obtain ⟨d', hd', hcopy⟩ := List.mem_map.mp hold
      obtain ⟨rfl, -, -⟩ := mem_gives_iff.mp hd
      exact (h.left d' hd').2.2 (hcopy ▸ hin)

/-- A step outside of the ring keeps the invariant. -/
lemma WellFormed.other {s : VideoMemory} (h : WellFormed s) {a : AppCallbackNotifier.Action}
    (ha : PreviewRing.outsideRing a) :
    WellFormed (s.withNotifier (s.toAppCallbackNotifier.step a)) := by
  refine h.of_sameRing ⟨rfl, rfl, rfl, rfl, rfl, rfl, rfl⟩ (keeps_step _ a) (fun e he => ?_)
    (fun d hd => Or.inl hd) h.nodup fun r hr => Or.inl hr
  rcases PreviewRing.queued_step_other ha h.pictures h.tracked (t := .VIDEO_FRAME_SYNC)
    (by decide) with heq | heq
  · exact Or.inl (heq ▸ he)
  · exact absurd (heq ▸ he) List.not_mem_nil

/-- What a release returns, where the ring of the moment has the slot of a buffer. -/
lemma WellFormed.returns_eq_iff {s : VideoMemory} (h : WellFormed s) (mem : ℕ) (buffer : Ptr) :
    s.returns mem = some (buffer, .VIDEO_FRAME_SYNC, .PREVIEW_STREAM_TYPE) ↔
      s.settings.mUseMetaDataBufferMode = false ∧ s.HasSlot buffer mem := by
  rw [← h.find?_reverse]
  unfold returns
  cases s.settings.mUseMetaDataBufferMode <;> simp

/-- The most recent delivery at a pointer is one at this pointer. -/
lemma mem_of_latest {s : VideoMemory} {mem : ℕ} {d : Delivery} (hd : d ∈ s.latest mem) :
    d ∈ s.given ∧ d.mem = mem :=
  ⟨List.mem_of_find?_eq_some hd, by simpa using List.find?_some hd⟩

/-- A timely release keeps the invariant. -/
lemma WellFormed.releaseRecordingFrame {s : VideoMemory} (h : WellFormed s) {mem : ℕ}
    (htimely : s.Timely (.releaseRecordingFrame mem)) :
    WellFormed (s.releaseRecordingFrame mem) := by
  have hk := keeps_toAppCallbackNotifier s (.releaseRecordingFrame mem)
  simp only [VideoMemory.step] at hk
  unfold VideoMemory.releaseRecordingFrame at hk ⊢
  split_ifs at hk ⊢ with hnull
  · exact h
  · refine h.of_sameRing ⟨rfl, rfl, rfl, rfl, rfl, rfl, rfl⟩ hk (fun e he => Or.inl ?_)
      (fun d hd => Or.inl (List.mem_of_mem_eraseP hd))
      (h.nodup.sublist (List.eraseP_sublist.map _)) fun r hr => ?_
    · cases hreturns : s.returns mem with
      | none => simpa only [hreturns, Option.elim_none] using he
      | some r =>
        simp only [hreturns, Option.elim_some] at he
        rwa [PreviewRing.queued_of_same h.tracked (keeps_step _ _).heap rfl] at he
    · rcases List.mem_append.mp hr with hold | hnew
      · exact Or.inl hold
      · obtain ⟨d, hd, rfl⟩ := Option.map_eq_some_iff.mp (Option.mem_toList.mp hnew)
        obtain ⟨hgiven, rfl⟩ := mem_of_latest hd
        obtain ⟨hmode, hslot⟩ := htimely d hd hnull
        refine Or.inr ⟨(h.left d hgiven).2.1, (h.returns_eq_iff _ _).mpr ⟨hmode, ?_⟩⟩
        rcases hslot with ⟨hon, hpreview⟩ | hslot
        · exact h.given d hgiven hon hpreview
        · exact hslot

/-! ### The start and the end of a preview -/

/-- The start of a preview leaves the frame queue as it is. -/
lemma previewStart_mFrameQ (a : AppCallbackNotifier) :
    (StepRun.final AppCallbackNotifier.step a (previewStart a)).mFrameQ = a.mFrameQ := by
  have hflush : ∀ b : AppCallbackNotifier,
      ((b.step (.resizeFlush PREVIEW_START_FLUSH)).step
        (.jpegFlush PREVIEW_START_FLUSH)).mFrameQ = b.mFrameQ := fun b =>
    (PreviewRing.jpegFlush_queues _ _).1.trans (PreviewRing.resizeFlush_queues b _).1
  unfold previewStart
  split_ifs
  · exact hflush (a.step (.enableFrameNotification .PREVIEW_FRAME_SYNC))
  · exact hflush a

/-- Between previews no recording frame with memory is queued. -/
lemma WellFormed.queued_eq_nil {s : VideoMemory} (h : WellFormed s) (hbufs : s.mPreviewBufs = []) :
    PreviewRing.queued s.toAppCallbackNotifier .VIDEO_FRAME_SYNC = [] := by
  refine List.eq_nil_iff_forall_not_mem.mpr fun e he => ?_
  obtain ⟨index, hindex, -⟩ := h.queued e he
  simp [hbufs] at hindex

/-- What was released stays as it was. -/
lemma WellFormed.released_of_keeps {s : VideoMemory} (h : WellFormed s)
    {a : AppCallbackNotifier} (hk : Keeps s.toAppCallbackNotifier a) :
    ∀ r ∈ s.released, r.copy < a.heap.length ∧
      r.returned = some ((a.frame r.copy).mBuffer, .VIDEO_FRAME_SYNC, .PREVIEW_STREAM_TYPE) := by
  intro r hr
  obtain ⟨hlt, hreturned⟩ := h.released r hr
  exact ⟨hlt.trans_le hk.heap.length_le, by rw [hk.frame hlt, hreturned]⟩

/-- What the recorder was given has left, also after later steps. -/
lemma WellFormed.left_of_keeps {s : VideoMemory} (h : WellFormed s) {a : AppCallbackNotifier}
    (hk : Keeps s.toAppCallbackNotifier a) {preview : ℕ} (hle : s.preview ≤ preview) :
    ∀ d ∈ s.given, d.preview ≤ preview ∧ d.copy < a.heap.length ∧ d.copy ∉ a.custody.held := by
  intro d hd
  obtain ⟨hpreview, hlt, hheld⟩ := h.left d hd
  exact ⟨hpreview.trans hle, hlt.trans_le hk.heap.length_le, hk.left hlt hheld⟩

/-- A timely start keeps the invariant. -/
lemma WellFormed.startPreviewCallbacks {s : VideoMemory} (h : WellFormed s) {format : FrameFormat}
    {width height : ℕ} {bufArr : List Ptr} {memory : Option HeapMemory}
    (htimely : s.Timely (.startPreviewCallbacks format width height bufArr memory)) :
    WellFormed (s.startPreviewCallbacks format width height bufArr memory) := by
  unfold VideoMemory.startPreviewCallbacks
  split_ifs with hcount hon
  · exact h
  · exact h
  · have hoff : s.mPreviewing = false := by simpa using hon
    obtain ⟨hbufs, hreverse⟩ := h.stopped hoff
    have hqueued := h.queued_eq_nil hbufs
    cases memory with
    | none =>
      exact
        { tracked := h.tracked
          pictures := h.pictures
          map := h.map
          reverse := fun memory hm => by cases hm
          slots := h.slots
          off := fun _ => ⟨hbufs, hreverse⟩
          stopped := h.stopped
          queued := fun e he => absurd (hqueued ▸ he) List.not_mem_nil
          given := fun d hd hp => absurd (hoff.symm.trans hp) (by decide)
          left := h.left
          nodup := h.nodup
          released := h.released }
    | some memory =>
      have hk := keeps_final s.toAppCallbackNotifier (previewStart s.toAppCallbackNotifier)
      have hstill := PreviewRing.queued_of_same (t := .VIDEO_FRAME_SYNC) h.tracked hk.heap
        (previewStart_mFrameQ s.toAppCallbackNotifier)
      rw [hqueued] at hstill
      exact
        { tracked := hk.tracked h.tracked
          pictures := hk.pictures h.tracked h.pictures
          map := rfl
          reverse := fun m hm => by
            obtain rfl := Option.some.inj hm
            rfl
          slots := htimely (not_lt.mp hcount) hoff rfl
          off := fun hm => by cases hm
          stopped := fun hp => by cases hp
          queued := fun e he => absurd (hstill ▸ he) List.not_mem_nil
          given := fun d hd _ hpreview => by
            have hle := (h.left d hd).1
            have hnew : d.preview = s.preview + 1 := hpreview
            omega
          left := h.left_of_keeps hk (Nat.le_succ s.preview)
          nodup := h.nodup
          released := h.released_of_keeps hk }

/-- The end of a preview keeps the invariant. -/
lemma WellFormed.stopPreviewCallbacks {s : VideoMemory} (h : WellFormed s) :
    WellFormed s.stopPreviewCallbacks := by
  unfold VideoMemory.stopPreviewCallbacks
  split_ifs
  · have hk := keeps_final s.toAppCallbackNotifier AppCallbackNotifier.stopPreviewCallbacks
    exact
      { tracked := hk.tracked h.tracked
        pictures := hk.pictures h.tracked h.pictures
        map := rfl
        reverse := fun memory hm => by cases hm
        slots := fun i hi => absurd hi (Nat.not_lt_zero i)
        off := fun _ => ⟨rfl, rfl⟩
        stopped := fun _ => ⟨rfl, rfl⟩
        -- `flushFrames` comes last
        queued := fun e he => absurd he List.not_mem_nil
        given := fun d hd hp => by cases hp
        left := h.left_of_keeps hk le_rfl
        nodup := h.nodup
        released := h.released_of_keeps hk }
  · exact h

/-! ### Runs -/

/-- **A timely step keeps the invariant.** -/
theorem WellFormed.step {s : VideoMemory} (h : WellFormed s) {a : Action} (htimely : s.Timely a) :
    WellFormed (s.step a) := by
  cases a with
  | startPreviewCallbacks format w h' bufArr memory => exact h.startPreviewCallbacks htimely
  | stopPreviewCallbacks => exact h.stopPreviewCallbacks
  | resizeFrame memory => exact h.resizeFrame memory
  | notifyFrame metadata => exact h.notifyFrame metadata
  | releaseRecordingFrame mem => exact h.releaseRecordingFrame htimely
  | other a ha => exact h.other ha

/-- **A step after which the releases are faithful is timely.** -/
theorem timely_of_faithful {s : VideoMemory} (h : WellFormed s) {a : Action}
    (hstep : Faithful (s.step a)) : s.Timely a := by
  cases a with
  | startPreviewCallbacks format w h' bufArr memory =>
    intro hcount hoff hmemory
    obtain ⟨memory, rfl⟩ := Option.isSome_iff_exists.mp hmemory
    have hinverse := hstep.inverse
    simp only [VideoMemory.step, VideoMemory.startPreviewCallbacks, if_neg (not_lt.mpr hcount),
      hoff, Bool.false_eq_true, if_false, slot, Option.map_some, Option.some.injEq] at hinverse
    exact slotsMatch_of_inverse hinverse
  | releaseRecordingFrame mem =>
    intro d hd hnull
    obtain ⟨hgiven, rfl⟩ := mem_of_latest hd
    have hreleased := hstep.released ⟨d.copy, s.returns d.mem⟩ (by
      simp only [VideoMemory.step, VideoMemory.releaseRecordingFrame, if_neg hnull,
        Option.mem_def.mp hd]
      exact List.mem_append_right _ (List.mem_singleton.mpr rfl))
    have hframe := (keeps_toAppCallbackNotifier s (.releaseRecordingFrame d.mem)).frame
      (h.left d hgiven).2.1
    rw [show (s.step (.releaseRecordingFrame d.mem)).frame d.copy = s.frame d.copy from hframe,
      h.returns_eq_iff] at hreleased
    exact ⟨hreleased.1, Or.inr hreleased.2⟩
  | _ => trivial

/-- **The recorder's releases.** From a new notifier on, the two maps are inverse to each other,
each release returns the buffer of the most recent delivery at its pointer as a recording frame,
and different pointers stand for different deliveries, throughout a run exactly if each step is
timely.

**Proof sketch.** The recording frames that wait in the frame queue have the slots of their buffers
in the ring of the moment, and so have those that the recorder was given in this preview, because a
preview ends with an empty frame queue. If the slots match, the map of addresses holds the buffer
of each slot. Conversely the maps are inverse only if the slots match, and a release finds only the
buffer that has the slot. -/
theorem always_faithful_iff (settings : NotifierSettings) (resizeThread jpegThread : ThreadFlags)
    (run : List Action) :
    StepRun.Always step Faithful (create settings resizeThread jpegThread) run ↔
      StepRun.Along step Timely (create settings resizeThread jpegThread) run :=
  StepRun.always_iff_along_of_invariant (I := WellFormed) (fun _ => WellFormed.faithful)
    (fun _ _ h htimely => h.step htimely) (fun _ _ h hstep => timely_of_faithful h hstep)
    (wellFormed_create settings resizeThread jpegThread)

/-- The memory of two previews, one after the other. -/
def sameMemory : HeapMemory := ⟨0x8000, by decide⟩

/-- A recorder that releases its frame after the preview was started again, with another camera
buffer and the memory at the same address. -/
def lateRelease : List Action :=
  [.startPreviewCallbacks .CAMERA_FRAME_FORMAT_YUV420SP 640 480 [0x1000] (some sameMemory),
    .other (.setRecording true) rfl,
    .other (.frameCallback AppCallbackNotifier.recordingFrame) rfl, .resizeFrame true,
    .notifyFrame false, .stopPreviewCallbacks,
    .startPreviewCallbacks .CAMERA_FRAME_FORMAT_YUV420SP 640 480 [0x2000] (some sameMemory),
    .releaseRecordingFrame 0x8000]

/-- The buffer that is returned is that of the second preview, which was never delivered. -/
theorem not_always_faithful_lateRelease :
    ¬ ∀ (settings : NotifierSettings) (resizeThread jpegThread : ThreadFlags) (run : List Action),
      StepRun.Always step Faithful (create settings resizeThread jpegThread) run := by
  intro h
  have hlast := (h AppCallbackNotifier.recordingSettings ⟨true, true, true⟩ ⟨true, true, true⟩
    lateRelease).last
  set s := StepRun.final step (create AppCallbackNotifier.recordingSettings ⟨true, true, true⟩
    ⟨true, true, true⟩) lateRelease with hs
  have hwrong : ⟨0, some (0x2000, .VIDEO_FRAME_SYNC, .PREVIEW_STREAM_TYPE)⟩ ∈ s.released := by
    rw [hs]
    decide +kernel
  have hbuffer : (s.frame 0).mBuffer = 0x1000 := by
    rw [hs]
    decide +kernel
  have hreturned := hlast.released _ hwrong
  rw [hbuffer] at hreturned
  exact absurd hreturned (by decide)

end VideoMemory

end CameraHal
