import Gs702aHal.Lib.RingContents
import Gs702aHal.Lib.StepRun
import Mathlib.Data.List.Range
import Mathlib.Tactic.Ring

set_option relaxedAutoImplicit false
set_option autoImplicit false

/-!
# The ring of input events

`InputEventCircularReader` keeps the input events of a sensor's device in a buffer of twice as
many events as it holds at most. `fill` reads into the buffer from `mHead` on; what runs over the
logical end `mBufferEnd` is copied to the buffer's start. `readEvent` shows the event at `mCurr`,
and `next` steps over it.

## Main definitions

* `EventBuffer` — the allocated events, with a log of the slots that are touched.
* `InputEventCircularReader`, `InputEventCircularReader.fill`,
  `InputEventCircularReader.readEvent`, `InputEventCircularReader.next` — the class.
* `InputEventCircularReader.Unread` — the events that are filled and not yet stepped over.
* `ReaderSession` — a reader together with what has been filled into it and seen through it.

## Main results

* `InputEventCircularReader.Unread.fill`, `InputEventCircularReader.Unread.readEvent`,
  `InputEventCircularReader.Unread.next` — what the operations do to the unread events.
* `reader_isFifo` — the events seen are the events filled, over every sequence of calls.
-/

namespace SensorHal

/-- The error code of the C library for an invalid argument. -/
def EINVAL : ℤ := 22

variable {E : Type*}

/-! ### The buffer -/

/-- The events allocated by the constructor, and the slots touched so far. -/
structure EventBuffer (E : Type*) where
  slot : ℕ → E
  touched : List ℕ

/-- `read(fd, buffer + at, room * sizeof(input_event))`: the kernel may touch all of the room,
and puts the events into its first slots. -/
def EventBuffer.read (b : EventBuffer E) (start room : ℕ) (events : List E) : EventBuffer E where
  slot j := if start ≤ j then (events[j - start]?).getD (b.slot j) else b.slot j
  touched := b.touched ++ List.range' start room

/-- `memcpy(buffer + dst, buffer + src, s * sizeof(input_event))`. -/
def EventBuffer.memcpy (b : EventBuffer E) (dst src s : ℕ) : EventBuffer E where
  slot j := if dst ≤ j ∧ j < dst + s then b.slot (src + (j - dst)) else b.slot j
  touched := b.touched ++ List.range' src s ++ List.range' dst s

/-- The caller looks at the event behind a pointer into the buffer. -/
def EventBuffer.look (b : EventBuffer E) (p : ℕ) : EventBuffer E :=
  { b with touched := b.touched ++ [p] }

/-- Slots before the destination of a read keep their events. -/
lemma EventBuffer.read_of_lt (b : EventBuffer E) {start room j : ℕ} (events : List E)
    (hj : j < start) : (b.read start room events).slot j = b.slot j := by
  simp [EventBuffer.read, Nat.not_le.mpr hj]

/-- Slots behind what a read delivers keep their events. -/
lemma EventBuffer.read_of_le (b : EventBuffer E) {start room j : ℕ} {events : List E}
    (hj : start + events.length ≤ j) : (b.read start room events).slot j = b.slot j := by
  have hnone : events[j - start]? = none := List.getElem?_eq_none (by omega)
  simp [EventBuffer.read, hnone]

/-- The slots of a read's destination get what it delivers. -/
lemma EventBuffer.read_add (b : EventBuffer E) {start room k : ℕ} {events : List E}
    (hk : k < events.length) : (b.read start room events).slot (start + k) = events[k] := by
  simp [EventBuffer.read, hk]

/-! ### The reader -/

/-- What `read` reports: an error, bytes that end within an event, or whole events. The slots
given with a partial event are the ones the kernel has written to. -/
inductive ReadResult (E : Type*)
  | error (errno : ℕ)
  | partialEvent (slots : List E)
  | events (events : List E)

/-- The whole events that a read delivers. -/
def ReadResult.whole : ReadResult E → List E
  | .error _ => []
  | .partialEvent _ => []
  | .events received => received

/-- A read delivers no more than was asked for. -/
def ReadResult.Fits : ReadResult E → ℤ → Prop
  | .error _, _ => True
  | .partialEvent slots, room => slots.length ≤ room
  | .events received, room => received.length ≤ room

/-- The members of the class; the pointers are the numbers of the slots they point to. -/
structure InputEventCircularReader (E : Type*) where
  mBuffer : EventBuffer E
  mBufferEnd : ℕ
  mHead : ℕ
  mCurr : ℕ
  mFreeSpace : ℤ

namespace InputEventCircularReader

/-- The constructor. What `new` leaves in the allocated events is arbitrary. -/
def new (numEvents : ℕ) (allocated : ℕ → E) : InputEventCircularReader E where
  mBuffer := ⟨allocated, []⟩
  mBufferEnd := numEvents
  mHead := 0
  mCurr := 0
  mFreeSpace := numEvents

/-- `read` has delivered events to `mHead`. -/
def receive (r : InputEventCircularReader E) (events : List E) : InputEventCircularReader E :=
  { r with mBuffer := r.mBuffer.read r.mHead r.mFreeSpace.toNat events }

/-- Whole events have been read to `mHead`: it moves behind them, and what has run over the
logical end goes to the start of the buffer. -/
def advance (r : InputEventCircularReader E) (numEventsRead : ℕ) : InputEventCircularReader E :=
  let mHead := r.mHead + numEventsRead
  let mFreeSpace := r.mFreeSpace - numEventsRead
  if mHead > r.mBufferEnd then
    let s := mHead - r.mBufferEnd
    { r with mBuffer := r.mBuffer.memcpy 0 r.mBufferEnd s, mHead := s, mFreeSpace := mFreeSpace }
  else
    { r with mHead := mHead, mFreeSpace := mFreeSpace }

/-- `InputEventCircularReader::fill`, given what `read` reports if it is called. -/
def fill (r : InputEventCircularReader E) (nread : ReadResult E) :
    ℤ × InputEventCircularReader E :=
  if r.mFreeSpace ≠ 0 then
    match nread with
    | .error errno => (-errno, r)
    | .partialEvent slots => (-EINVAL, r.receive slots)
    | .events events =>
      let numEventsRead := events.length
      if numEventsRead ≠ 0 then (numEventsRead, (r.receive events).advance numEventsRead)
      else (numEventsRead, r.receive events)
  else (0, r)

/-- `InputEventCircularReader::readEvent`: the result, and the slot `*events` points to. -/
def readEvent (r : InputEventCircularReader E) : ℤ × ℕ :=
  let available := (r.mBufferEnd : ℤ) - r.mFreeSpace
  (if available ≠ 0 then 1 else 0, r.mCurr)

/-- `InputEventCircularReader::next`. -/
def next (r : InputEventCircularReader E) : InputEventCircularReader E :=
  let mCurr := r.mCurr + 1
  { r with
    mCurr := if mCurr ≥ r.mBufferEnd then 0 else mCurr
    mFreeSpace := r.mFreeSpace + 1 }

/-! ### The unread events -/

/-- The events `unread` have been filled and not yet stepped over, in a reader of the capacity
`n` that has stayed within its allocation. The head is the slot behind the last of them; where
the block ends at the logical end, it may also be that end itself. -/
structure Unread (n : ℕ) (r : InputEventCircularReader E) (unread : List E) : Prop where
  bufferEnd : r.mBufferEnd = n
  freeSpace : r.mFreeSpace = n - unread.length
  curr_lt : r.mCurr < n
  head_le : r.mHead ≤ n
  head : r.mHead = r.mCurr + unread.length ∨ r.mHead + n = r.mCurr + unread.length ∨
    r.mHead = n ∧ r.mCurr + unread.length = 0
  holds : RingContents.Holds n r.mBuffer.slot r.mCurr unread
  touched_lt : ∀ j ∈ r.mBuffer.touched, j < 2 * n

/-- A new reader has no unread events. -/
lemma unread_new {n : ℕ} (hn : 1 ≤ n) (allocated : ℕ → E) : Unread n (new n allocated) [] where
  bufferEnd := rfl
  freeSpace := by simp [new]
  curr_lt := hn
  head_le := Nat.zero_le n
  head := .inl rfl
  holds := .nil
  touched_lt := by simp [new]

variable {n : ℕ} {r : InputEventCircularReader E} {unread : List E}

/-- There is room for as many events as are missing to the capacity. -/
lemma Unread.length_le (h : Unread n r unread) : unread.length ≤ n := h.holds.length_le

/-- The place behind the unread events is the head. -/
lemma Unread.place_head (h : Unread n r unread) {k : ℕ} (hk : unread.length + k < n) :
    RingContents.place n r.mCurr (unread.length + k) = RingContents.place n r.mHead k := by
  have hcurr := h.curr_lt
  unfold RingContents.place
  obtain hhead | hhead | hhead := h.head
  · rw [hhead, Nat.add_assoc]
  · have hlow : ¬ r.mCurr + (unread.length + k) < n := by omega
    have hhigh : r.mHead + k < n := by omega
    rw [if_neg hlow, if_pos hhigh]
    omega
  · have hlow : r.mCurr + (unread.length + k) < n := by omega
    have hhigh : ¬ r.mHead + k < n := by omega
    rw [if_pos hlow, if_neg hhigh]
    omega

/-- The place of an unread event is none of the slots from the head on that are free. -/
lemma Unread.place_curr (h : Unread n r unread) {j : ℕ} (hj : j < unread.length) {k : ℕ}
    (hk : unread.length + k < n) :
    RingContents.place n r.mCurr j ≠ RingContents.place n r.mHead k := by
  have hcurr := h.curr_lt
  have hlen := h.length_le
  rw [← h.place_head hk]
  unfold RingContents.place
  split <;> split <;> omega

/-- The slots after the head has advanced: those before the overhang's length are copies of the
slots behind the logical end. -/
lemma advance_slot (r : InputEventCircularReader E) (k j : ℕ) :
    (r.advance k).mBuffer.slot j = if j + r.mBufferEnd < r.mHead + k
      then r.mBuffer.slot (r.mBufferEnd + j) else r.mBuffer.slot j := by
  unfold advance
  dsimp only
  by_cases hover : r.mHead + k > r.mBufferEnd
  · rw [if_pos hover]
    have hiff : (0 ≤ j ∧ j < 0 + (r.mHead + k - r.mBufferEnd)) ↔
        j + r.mBufferEnd < r.mHead + k := by omega
    simp only [EventBuffer.memcpy, hiff, Nat.sub_zero]
  · rw [if_neg hover, if_neg (by omega)]

/-- The events that were read are in the slots from the head on, going around the ring. -/
lemma receive_advance_new {events : List E} {k : ℕ} (hend : r.mBufferEnd = n)
    (hlen : events.length ≤ n) (hk : k < events.length) :
    ((r.receive events).advance events.length).mBuffer.slot
      (RingContents.place n r.mHead k) = events[k] := by
  have hdelivered : (r.receive events).mBuffer.slot (r.mHead + k) = events[k] :=
    r.mBuffer.read_add hk
  have hfields : (r.receive events).mHead = r.mHead ∧ (r.receive events).mBufferEnd = n :=
    ⟨rfl, hend⟩
  rw [advance_slot, hfields.1, hfields.2]
  by_cases hover : r.mHead + k < n
  · rw [RingContents.place, if_pos hover, if_neg (by omega), hdelivered]
  · have hsum : n + (r.mHead + k - n) = r.mHead + k := by omega
    rw [RingContents.place, if_neg hover, if_pos (by omega), hsum, hdelivered]

/-- The other slots of the ring keep their events. -/
lemma receive_advance_old {events : List E} {j : ℕ} (hend : r.mBufferEnd = n)
    (hhead : r.mHead ≤ n) (hj : j < n)
    (hne : ∀ k < events.length, j ≠ RingContents.place n r.mHead k) :
    ((r.receive events).advance events.length).mBuffer.slot j = r.mBuffer.slot j := by
  have hbefore : j + n < r.mHead + events.length → False := by
    intro hlt
    refine hne (n + j - r.mHead) (by omega) ?_
    rw [RingContents.place, if_neg (by omega)]
    omega
  have hbehind : r.mHead ≤ j → r.mHead + events.length ≤ j := by
    intro hle
    by_contra hlt
    refine hne (j - r.mHead) (by omega) ?_
    rw [RingContents.place, if_pos (by omega)]
    omega
  rw [advance_slot]
  simp only [receive, hend]
  rw [if_neg hbefore]
  by_cases hle : r.mHead ≤ j
  · exact r.mBuffer.read_of_le (hbehind hle)
  · exact r.mBuffer.read_of_lt events (by omega)

/-- A read of at most as many events as there is room for stays within the allocation. -/
lemma Unread.receive_touched (h : Unread n r unread) (events : List E) :
    ∀ j ∈ (r.receive events).mBuffer.touched, j < 2 * n := by
  have hfree := h.freeSpace
  have hhead := h.head_le
  intro j hj
  simp only [receive, EventBuffer.read, List.mem_append, List.mem_range'_1] at hj
  obtain hj | hj := hj
  · exact h.touched_lt j hj
  · omega

/-- Copying what has run over the logical end stays within the allocation. -/
lemma advance_touched {k : ℕ} (hend : r.mBufferEnd = n) (hhead : r.mHead ≤ n) (hk : k ≤ n)
    (h : ∀ j ∈ r.mBuffer.touched, j < 2 * n) :
    ∀ j ∈ (r.advance k).mBuffer.touched, j < 2 * n := by
  intro j hj
  unfold advance at hj
  dsimp only at hj
  split at hj
  · simp only [EventBuffer.memcpy, List.mem_append, List.mem_range'_1] at hj
    obtain (hj | hj) | hj := hj
    · exact h j hj
    · omega
    · omega
  · exact h j hj

/-- A read that delivers nothing whole leaves the unread events. -/
lemma Unread.receive (h : Unread n r unread) {slots : List E}
    (hfits : unread.length + slots.length ≤ n) : Unread n (r.receive slots) unread where
  bufferEnd := h.bufferEnd
  freeSpace := h.freeSpace
  curr_lt := h.curr_lt
  head_le := h.head_le
  head := h.head
  holds := by
    have hcurr := h.curr_lt
    have hhead := h.head
    refine h.holds.congr fun k hk => ?_
    unfold RingContents.place
    split
    · by_cases hlt : r.mCurr + k < r.mHead
      · exact r.mBuffer.read_of_lt slots hlt
      · exact r.mBuffer.read_of_le (by omega)
    · exact r.mBuffer.read_of_lt slots (by omega)
  touched_lt := h.receive_touched slots

/-- Whole events join the unread events. -/
lemma Unread.receive_advance (h : Unread n r unread) {events : List E}
    (hfits : unread.length + events.length ≤ n) :
    Unread n ((r.receive events).advance events.length) (unread ++ events) := by
  have hend := h.bufferEnd
  have hcurr := h.curr_lt
  have hhead := h.head
  have hheadLe := h.head_le
  have hfree := h.freeSpace
  have hlen : events.length ≤ n := by omega
  have hfields : ((r.receive events).advance events.length).mBufferEnd = n ∧
      ((r.receive events).advance events.length).mCurr = r.mCurr ∧
      ((r.receive events).advance events.length).mFreeSpace = r.mFreeSpace - events.length := by
    unfold advance
    dsimp only
    split <;> exact ⟨hend, rfl, rfl⟩
  have hnewHead : ((r.receive events).advance events.length).mHead =
      if r.mHead + events.length > n then r.mHead + events.length - n
      else r.mHead + events.length := by
    simp only [advance, InputEventCircularReader.receive, hend]
    split <;> rfl
  refine ⟨hfields.1, ?_, hfields.2.1 ▸ hcurr, ?_, ?_, ?_, ?_⟩
  · rw [hfields.2.2, hfree, List.length_append]
    push_cast
    ring
  · rw [hnewHead]
    split <;> omega
  · rw [hnewHead, hfields.2.1, List.length_append]
    split <;> omega
  · rw [hfields.2.1]
    refine h.holds.append hfits (fun k hk => ?_) fun k hk => ?_
    · exact receive_advance_old hend hheadLe (RingContents.place_lt hcurr (by omega))
        fun k' hk' => h.place_curr hk (by omega)
    · rw [h.place_head (by omega)]
      exact receive_advance_new hend hlen hk
  · exact advance_touched hend hheadLe hlen (h.receive_touched events)

/-- **`fill` appends the events it reads to the unread ones.**

**Proof sketch.** Without free space nothing is read. Otherwise an error changes nothing, the
slots written with a partial event are free, and whole events are stored from the head on, going
around the ring. -/
theorem Unread.fill (h : Unread n r unread) {nread : ReadResult E}
    (hfits : nread.Fits r.mFreeSpace) : Unread n (r.fill nread).2 (unread ++ nread.whole) := by
  have hfree := h.freeSpace
  unfold InputEventCircularReader.fill
  by_cases hspace : r.mFreeSpace = 0
  · rw [if_neg (not_not.mpr hspace)]
    have hnothing : nread.whole = [] := by
      cases nread with
      | error errno => rfl
      | partialEvent slots => rfl
      | events events =>
        simp only [ReadResult.Fits] at hfits
        have hzero : events.length = 0 := by omega
        exact List.eq_nil_of_length_eq_zero hzero
    rwa [hnothing, List.append_nil]
  · rw [if_pos hspace]
    cases nread with
    | error errno => rwa [ReadResult.whole, List.append_nil]
    | partialEvent slots =>
      simp only [ReadResult.Fits] at hfits
      rw [ReadResult.whole, List.append_nil]
      exact h.receive (by omega)
    | events events =>
      simp only [ReadResult.Fits] at hfits
      have hroom : unread.length + events.length ≤ n := by omega
      simp only [ReadResult.whole]
      split
      · exact h.receive_advance hroom
      · have hnil : events = [] := List.eq_nil_of_length_eq_zero (by omega)
        subst hnil
        rw [List.append_nil]
        exact h.receive hroom

/-- **`readEvent` tells whether there is an unread event, and shows the first.** -/
theorem Unread.readEvent (h : Unread n r unread) :
    (r.readEvent).1 = (if unread = [] then 0 else 1) ∧
      ∀ e rest, unread = e :: rest → r.mBuffer.slot (r.readEvent).2 = e := by
  have hfree := h.freeSpace
  have hend := h.bufferEnd
  constructor
  · have hiff : (r.mBufferEnd : ℤ) - r.mFreeSpace ≠ 0 ↔ ¬ unread = [] := by
      rw [← List.length_eq_zero_iff]
      omega
    simp only [InputEventCircularReader.readEvent, hiff, ite_not]
  · rintro e rest rfl
    exact h.holds.head h.curr_lt

/-- **`next` steps over the first unread event.** -/
theorem Unread.next {e : E} (h : Unread n r (e :: unread)) : Unread n r.next unread := by
  have hend := h.bufferEnd
  have hcurr := h.curr_lt
  have hhead := h.head
  have hheadLe := h.head_le
  have hfree := h.freeSpace
  rw [List.length_cons] at hhead hfree
  have hplace : r.next.mCurr = RingContents.place n r.mCurr 1 := by
    simp only [InputEventCircularReader.next, RingContents.place, hend]
    split <;> split <;> omega
  refine ⟨hend, ?_, ?_, h.head_le, ?_, ?_, h.touched_lt⟩
  · simp only [InputEventCircularReader.next]
    push_cast at hfree
    omega
  · rw [hplace]
    exact RingContents.place_lt hcurr (by omega)
  · have hkept : r.next.mHead = r.mHead := rfl
    rw [hkept, hplace, RingContents.place]
    split <;> omega
  · rw [hplace]
    exact h.holds.tail hcurr

/-- Looking at the event that `readEvent` shows changes nothing and stays within the
allocation. -/
lemma Unread.look (h : Unread n r unread) :
    Unread n { r with mBuffer := r.mBuffer.look r.mCurr } unread where
  bufferEnd := h.bufferEnd
  freeSpace := h.freeSpace
  curr_lt := h.curr_lt
  head_le := h.head_le
  head := h.head
  holds := h.holds
  touched_lt := by
    have hcurr := h.curr_lt
    intro j hj
    simp only [EventBuffer.look, List.mem_append, List.mem_singleton] at hj
    obtain hj | rfl := hj
    · exact h.touched_lt j hj
    · omega

end InputEventCircularReader

/-! ### Sequences of calls -/

/-- A call of a reader's user. -/
inductive ReaderCall (E : Type*)
  | fill (nread : ReadResult E)
  | readEvent
  | next

/-- A reader in use: the event that the last `readEvent` showed, until `next` steps over it, the
events filled so far, and the events seen, each noted when it is stepped over. -/
structure ReaderSession (E : Type*) where
  reader : InputEventCircularReader E
  event : Option E
  filled : List E
  seen : List E

namespace ReaderSession

/-- A reader that has just been constructed. -/
def new (numEvents : ℕ) (allocated : ℕ → E) : ReaderSession E where
  reader := .new numEvents allocated
  event := none
  filled := []
  seen := []

/-- What a call does. The user looks at the event that `readEvent` shows if it returns 1. -/
def step (s : ReaderSession E) : ReaderCall E → ReaderSession E
  | .fill nread =>
    { s with reader := (s.reader.fill nread).2, filled := s.filled ++ nread.whole }
  | .readEvent =>
    let (available, event) := s.reader.readEvent
    if available = 1 then
      { s with
        reader := { s.reader with mBuffer := s.reader.mBuffer.look event }
        event := some (s.reader.mBuffer.slot event) }
    else { s with event := none }
  | .next =>
    { s with reader := s.reader.next, event := none, seen := s.seen ++ s.event.toList }

/-- The calls that may be made: a read delivers at most what was asked for, and `next` follows a
`readEvent` that returned 1. -/
def Allowed (s : ReaderSession E) : ReaderCall E → Prop
  | .fill nread => nread.Fits s.reader.mFreeSpace
  | .readEvent => True
  | .next => s.event ≠ none

/-- A reader of the capacity `n` is a queue: the events filled are those seen, in order, followed
by the unread ones; the free space is what these leave; `readEvent` returns 1 exactly if there is
one, and shows the first; every slot touched has been allocated. -/
def IsFifo (n : ℕ) (s : ReaderSession E) : Prop :=
  ∃ unread : List E, s.filled = s.seen ++ unread ∧
    s.reader.mFreeSpace = n - unread.length ∧
    (s.reader.readEvent).1 = (if unread = [] then 0 else 1) ∧
    (∀ e rest, unread = e :: rest → s.reader.mBuffer.slot (s.reader.readEvent).2 = e) ∧
    ∀ j ∈ s.reader.mBuffer.touched, j < 2 * n

/-- The events filled are those seen and the unread ones, the first of which is the one that was
shown last. -/
def Good (n : ℕ) (s : ReaderSession E) : Prop :=
  ∃ unread : List E, s.filled = s.seen ++ unread ∧ s.reader.Unread n unread ∧
    ∀ e, s.event = some e → unread.head? = some e

variable {n : ℕ} {s : ReaderSession E}

/-- A good session is a queue. -/
lemma Good.isFifo (h : s.Good n) : s.IsFifo n := by
  obtain ⟨unread, hfilled, hunread, -⟩ := h
  exact ⟨unread, hfilled, hunread.freeSpace, hunread.readEvent.1, hunread.readEvent.2,
    hunread.touched_lt⟩

/-- Each call keeps a session good. -/
lemma Good.step (h : s.Good n) {call : ReaderCall E} (hcall : s.Allowed call) :
    (s.step call).Good n := by
  obtain ⟨unread, hfilled, hunread, hevent⟩ := h
  cases call with
  | fill nread =>
    refine ⟨unread ++ nread.whole, ?_, hunread.fill hcall, fun e he => ?_⟩
    · simp only [ReaderSession.step, hfilled, List.append_assoc]
    · simp [hevent e he]
  | readEvent =>
    have hread := hunread.readEvent
    simp only [ReaderSession.step]
    cases unread with
    | nil =>
      rw [hread.1, if_pos rfl, if_neg (by decide)]
      exact ⟨[], hfilled, hunread, by simp⟩
    | cons e rest =>
      have hone : (s.reader.readEvent).1 = 1 := hread.1
      rw [if_pos hone, hread.2 e rest rfl]
      exact ⟨e :: rest, hfilled, hunread.look, by simp⟩
  | next =>
    cases hshown : s.event with
    | none => exact absurd hshown hcall
    | some e =>
      have hhead := hevent e hshown
      obtain ⟨rest, rfl⟩ : ∃ rest, unread = e :: rest := List.head?_eq_some_iff.mp hhead
      refine ⟨rest, ?_, hunread.next, by simp [ReaderSession.step]⟩
      simp [ReaderSession.step, hfilled, hshown]

end ReaderSession

/-- **The reader is a queue.** Over every sequence of `fill`, `readEvent` and `next` calls, the
last only after a `readEvent` that returned 1, the events seen are the events filled, in order,
without loss or duplication; the free space is the capacity less the number of unread events; and
every access is to one of the `2 * n` allocated events.

**Proof sketch.** Each call keeps the ring's contents equal to the unread events: `fill` appends
what it reads, `next` drops the first one, which is the one `readEvent` has shown. -/
theorem reader_isFifo {n : ℕ} (hn : 1 ≤ n) (allocated : ℕ → E) (calls : List (ReaderCall E))
    (hcalls : StepRun.Along ReaderSession.step ReaderSession.Allowed (.new n allocated) calls) :
    StepRun.Always ReaderSession.step (ReaderSession.IsFifo n) (.new n allocated) calls := by
  have hnew : (ReaderSession.new n allocated).Good n :=
    ⟨[], rfl, InputEventCircularReader.unread_new hn allocated, by simp [ReaderSession.new]⟩
  exact (StepRun.always_of_along (fun _ _ h hcall => h.step hcall) hnew hcalls).imp
    fun _ h => h.isFifo

/-- A run of a reader of two events whose second read goes around the ring. -/
theorem reader_isFifo_around :
    StepRun.Along ReaderSession.step ReaderSession.Allowed (.new 2 fun _ => 0)
        [.fill (.events [5]), .readEvent, .next, .fill (.events [6, 7]), .readEvent] ∧
      StepRun.Always ReaderSession.step (ReaderSession.IsFifo 2) (.new 2 fun _ => 0)
        [.fill (.events [5]), .readEvent, .next, .fill (.events [6, 7]), .readEvent] := by
  have hcalls : StepRun.Along ReaderSession.step ReaderSession.Allowed (.new 2 fun _ => 0)
      [.fill (.events [5]), .readEvent, .next, .fill (.events [6, 7]), .readEvent] := by
    refine ⟨?_, trivial, ?_, ?_, trivial, trivial⟩
    · show ((1 : ℕ) : ℤ) ≤ 2
      decide
    · show some 5 ≠ none
      simp
    · show ((2 : ℕ) : ℤ) ≤ 2
      decide
  exact ⟨hcalls, reader_isFifo (by decide) (fun _ => 0) _ hcalls⟩

end SensorHal
