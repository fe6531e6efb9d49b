import Gs702aHal.Lib.WhileLoop
import Gs702aHal.Sensor.InputEventReader

set_option relaxedAutoImplicit false
set_option autoImplicit false

/-!
# The acceleration sensor

`AccelerationSensor::readEvents` reads input events into the ring, takes them from there, and
makes a sensor event of what it has gathered at each `EV_SYN`. It stops when the caller's array
is full, and goes on with the rest of the input at the next call.

## Main definitions

* `AccelerationSensor`, `AccelerationSensor.readEvents` — the class and its reading of events.
* `SensorsEvent.samples` — the sensor events of a stream of input events: one for each `EV_SYN`,
  with the values that were reported last before it.
* `SensorSession` — a sensor together with what its caller has got from it.

## Main results

* `SensorsEvent.samples_append` — a stream's samples from those of its beginning.
* `AccelerationSensor.Gathers.readEvents` — what a call returns and stores.
* `readEvents_samples` — the events returned over a sequence of calls are the samples of the
  input, however it is split.
-/

namespace SensorHal

/-! ### Input events and sensor events -/

/-- A time of the kernel: seconds and microseconds. -/
structure Timeval where
  tv_sec : ℤ
  tv_usec : ℤ

/-- An event of an input device. -/
structure InputEvent where
  time : Timeval
  type : ℕ
  code : ℕ
  value : ℤ

/-- The types of input events that the sensor knows, and the codes of the axes. -/
def EV_SYN : ℕ := 0
def EV_ABS : ℕ := 3
def EVENT_TYPE_ACCEL_X : ℕ := 0
def EVENT_TYPE_ACCEL_Y : ℕ := 1
def EVENT_TYPE_ACCEL_Z : ℕ := 2

/-- `SensorBase::timevalToNano`. -/
def timevalToNano (t : Timeval) : ℤ := t.tv_sec * 1000000000 + t.tv_usec * 1000

/-- A sensor event, with the three values of the acceleration. -/
structure SensorsEvent (F : Type*) where
  version : ℕ
  sensor : ℕ
  type : ℕ
  timestamp : ℤ
  x : F
  y : F
  z : F

variable {F : Type*} (scale : ℤ → F)

namespace SensorsEvent

/-- A value is reported for an axis: it is multiplied by the resolution. -/
def report (pending : SensorsEvent F) (event : InputEvent) : SensorsEvent F :=
  let value := event.value
  if event.code = EVENT_TYPE_ACCEL_X then { pending with x := scale value }
  else if event.code = EVENT_TYPE_ACCEL_Y then { pending with y := scale value }
  else if event.code = EVENT_TYPE_ACCEL_Z then { pending with z := scale value }
  else pending

end SensorsEvent

/-! ### The sensor -/

/-- The members of the class that reading events uses. -/
structure AccelerationSensor (F : Type*) where
  mEnabled : ℤ
  mInputReader : InputEventCircularReader InputEvent
  mPendingEvent : SensorsEvent F
  mHasPendingEvent : Bool

/-- What the loop of `readEvents` works on: the sensor, the events stored at `data`, the room
left there and the number of events received. -/
structure ReadLoop (F : Type*) where
  sensor : AccelerationSensor F
  data : List (SensorsEvent F)
  count : ℤ
  numEventReceived : ℤ

namespace AccelerationSensor

/-- The loop's condition: there is room, and the reader shows an event. -/
def more (s : ReadLoop F) : Bool :=
  decide (s.count ≠ 0 ∧ (s.sensor.mInputReader.readEvent).1 ≠ 0)

/-- What the loop does with an event. -/
def handle (s : ReadLoop F) (event : InputEvent) : ReadLoop F :=
  let a := s.sensor
  if event.type = EV_ABS then
    { s with sensor := { a with mPendingEvent := a.mPendingEvent.report scale event } }
  else if event.type = EV_SYN then
    let pending := { a.mPendingEvent with timestamp := timevalToNano event.time }
    if a.mEnabled ≠ 0 then
      { sensor := { a with mPendingEvent := pending }
        data := s.data ++ [pending]
        count := s.count - 1
        numEventReceived := s.numEventReceived + 1 }
    else { s with sensor := { a with mPendingEvent := pending } }
  else s

/-- `mInputReader.next()` -/
def nextEvent (s : ReadLoop F) : ReadLoop F :=
  { s with sensor := { s.sensor with mInputReader := s.sensor.mInputReader.next } }

/-- A pass of the loop. -/
def pass (s : ReadLoop F) : ReadLoop F :=
  let event := s.sensor.mInputReader.mBuffer.slot (s.sensor.mInputReader.readEvent).2
  nextEvent (handle scale s event)

/-- `AccelerationSensor::readEvents`, given the time and what `read` reports: the result, the
events stored at `data`, and the sensor afterwards. The loop may take as many passes as the ring
holds events; there is no result if it is not over by then. -/
def readEvents (now : ℤ) (nread : ReadResult InputEvent) (count : ℤ) (a : AccelerationSensor F) :
    Option (ℤ × List (SensorsEvent F) × AccelerationSensor F) :=
  if count < 1 then some (-EINVAL, [], a)
  else if a.mHasPendingEvent then
    let pending := { a.mPendingEvent with timestamp := now }
    some (if a.mEnabled ≠ 0 then 1 else 0, [pending],
      { a with mHasPendingEvent := false, mPendingEvent := pending })
  else
    let (n, reader) := a.mInputReader.fill nread
    let filled := { a with mInputReader := reader }
    if n < 0 then some (n, [], filled)
    else
      (whileLoop more (pass scale) reader.mBufferEnd ⟨filled, [], count, 0⟩).map fun s =>
        (s.numEventReceived, s.data, s.sensor)

end AccelerationSensor

/-! ### The samples of a stream -/

namespace SensorsEvent

/-- The value that a stream reports last for an axis. -/
def latest (stream : List InputEvent) (axis : ℕ) : Option ℤ :=
  ((stream.filter fun e => e.type = EV_ABS ∧ e.code = axis).getLast?).map (·.value)

/-- The sensor event for a time, after a stream: for each axis the value that was reported last,
or the one at the start. -/
def sample (start : SensorsEvent F) (stream : List InputEvent) (timestamp : ℤ) : SensorsEvent F :=
  { start with
    timestamp := timestamp
    x := ((latest stream EVENT_TYPE_ACCEL_X).map scale).getD start.x
    y := ((latest stream EVENT_TYPE_ACCEL_Y).map scale).getD start.y
    z := ((latest stream EVENT_TYPE_ACCEL_Z).map scale).getD start.z }

/-- The sensor event for an input event of a stream, if it is an `EV_SYN`. -/
def sampleOf (start : SensorsEvent F) (before : List InputEvent) (event : InputEvent) :
    List (SensorsEvent F) :=
  if event.type = EV_SYN then [sample scale start before (timevalToNano event.time)] else []

/-- The samples of a stream: one for each `EV_SYN`, with what was reported before it. -/
def samples (start : SensorsEvent F) (stream : List InputEvent) : List (SensorsEvent F) :=
  (List.range stream.length).flatMap fun i =>
    (stream[i]?).toList.flatMap (sampleOf scale start (stream.take i))

variable {scale} {start : SensorsEvent F}

/-- The samples of an event after a stream. -/
lemma samples_snoc (stream : List InputEvent) (event : InputEvent) :
    samples scale start (stream ++ [event]) =
      samples scale start stream ++ sampleOf scale start stream event := by
  have hold : ∀ i ∈ List.range stream.length,
      ((stream ++ [event])[i]?).toList.flatMap
          (sampleOf scale start ((stream ++ [event]).take i)) =
        (stream[i]?).toList.flatMap (sampleOf scale start (stream.take i)) := by
    intro i hi
    rw [List.mem_range] at hi
    rw [List.getElem?_append_left hi, List.take_append_of_le_length (by omega)]
  have hnew : ((stream ++ [event])[stream.length]?).toList.flatMap
      (sampleOf scale start ((stream ++ [event]).take stream.length)) =
        sampleOf scale start stream event := by simp
  rw [samples, List.length_append, List.length_singleton, List.range_succ, List.flatMap_append,
    List.flatMap_singleton, hnew, samples]
  exact congrArg (· ++ _) (List.flatMap_congr hold)

/-- **A stream's samples begin with those of its beginning.** -/
theorem samples_append (stream rest : List InputEvent) :
    samples scale start stream <+: samples scale start (stream ++ rest) := by
  induction rest generalizing stream with
  | nil => rw [List.append_nil]
  | cons event rest ih =>
    have hsnoc : samples scale start (stream ++ [event]) = _ := samples_snoc stream event
    have hnext := ih (stream ++ [event])
    rw [List.append_assoc, List.singleton_append, hsnoc] at hnext
    exact (List.prefix_append _ _).trans hnext

/-- The value reported last, after one more event. -/
lemma latest_snoc (stream : List InputEvent) (event : InputEvent) (axis : ℕ) :
    latest (stream ++ [event]) axis =
      if event.type = EV_ABS ∧ event.code = axis then some event.value else latest stream axis := by
  unfold latest
  rw [List.filter_append]
  by_cases hreports : event.type = EV_ABS ∧ event.code = axis
  · simp [hreports]
  · simp [hreports]

/-- A pending event carries what a stream has reported. -/
def Carries (scale : ℤ → F) (start : SensorsEvent F) (stream : List InputEvent)
    (pending : SensorsEvent F) : Prop :=
  ∀ t, { pending with timestamp := t } = sample scale start stream t

/-- At the start nothing has been reported. -/
lemma carries_nil : Carries scale start [] start := fun _ => rfl

/-- The time of the pending event does not matter. -/
lemma Carries.stamp {stream : List InputEvent} {pending : SensorsEvent F}
    (h : Carries scale start stream pending) (t : ℤ) :
    Carries scale start stream { pending with timestamp := t } := h

/-- An event that is not of the type `EV_ABS` reports nothing. -/
lemma Carries.skip {stream : List InputEvent} {pending : SensorsEvent F}
    (h : Carries scale start stream pending) {event : InputEvent} (hevent : event.type ≠ EV_ABS) :
    Carries scale start (stream ++ [event]) pending := by
  intro t
  rw [h t]
  simp [sample, latest_snoc, hevent]

/-- A report changes the value of its axis. -/
lemma Carries.report {stream : List InputEvent} {pending : SensorsEvent F}
    (h : Carries scale start stream pending) {event : InputEvent} (hevent : event.type = EV_ABS) :
    Carries scale start (stream ++ [event]) (pending.report scale event) := by
  intro t
  have hpending := h t
  simp only [sample, SensorsEvent.mk.injEq] at hpending
  obtain ⟨hversion, hsensor, htype, -, hx, hy, hz⟩ := hpending
  simp only [sample, latest_snoc, hevent, true_and]
  unfold SensorsEvent.report
  dsimp only
  by_cases hcx : event.code = EVENT_TYPE_ACCEL_X
  · simp [hcx, hversion, hsensor, htype, hy, hz, EVENT_TYPE_ACCEL_X, EVENT_TYPE_ACCEL_Y,
      EVENT_TYPE_ACCEL_Z]
  · by_cases hcy : event.code = EVENT_TYPE_ACCEL_Y
    · simp [hcy, hversion, hsensor, htype, hx, hz, EVENT_TYPE_ACCEL_X, EVENT_TYPE_ACCEL_Y,
        EVENT_TYPE_ACCEL_Z]
    · by_cases hcz : event.code = EVENT_TYPE_ACCEL_Z
      · simp [hcz, hversion, hsensor, htype, hx, hy, EVENT_TYPE_ACCEL_X, EVENT_TYPE_ACCEL_Y,
          EVENT_TYPE_ACCEL_Z]
      · simp [hcx, hcy, hcz, hversion, hsensor, htype, hx, hy, hz]

end SensorsEvent

/-! ### The loop -/

namespace AccelerationSensor

variable {scale} {start : SensorsEvent F} {n : ℕ} {consumed unread : List InputEvent}
  {a : AccelerationSensor F}

/-- An enabled sensor without a pending event has taken the input events `consumed` from the ring
and made samples of them, and the ring holds the events `unread`. -/
structure Gathers (scale : ℤ → F) (start : SensorsEvent F) (n : ℕ)
    (consumed unread : List InputEvent) (a : AccelerationSensor F) : Prop where
  enabled : a.mEnabled ≠ 0
  idle : a.mHasPendingEvent = false
  reader : a.mInputReader.Unread n unread
  carries : SensorsEvent.Carries scale start consumed a.mPendingEvent

/-- The loop has stored samples: with those returned earlier they are all that the consumed
events give, and they fill the caller's array from its start. -/
structure Stores (scale : ℤ → F) (start : SensorsEvent F) (consumed : List InputEvent)
    (earlier : List (SensorsEvent F)) (room : ℤ) (s : ReadLoop F) : Prop where
  samples : SensorsEvent.samples scale start consumed = earlier ++ s.data
  received : s.numEventReceived = s.data.length
  left : s.count + s.data.length = room
  left_nonneg : 0 ≤ s.count

/-- The loop's invariant: it is somewhere in the stream. -/
def Reading (scale : ℤ → F) (start : SensorsEvent F) (n : ℕ) (stream : List InputEvent)
    (earlier : List (SensorsEvent F)) (room : ℤ) (s : ReadLoop F) : Prop :=
  ∃ consumed unread, stream = consumed ++ unread ∧ s.sensor.Gathers scale start n consumed unread ∧
    Stores scale start consumed earlier room s

/-- Stepping over an event takes it from the unread ones. -/
lemma Gathers.nextEvent {s : ReadLoop F} {event : InputEvent}
    (h : s.sensor.Gathers scale start n consumed (event :: unread)) :
    (nextEvent s).sensor.Gathers scale start n consumed unread :=
  ⟨h.enabled, h.idle, h.reader.next, h.carries⟩

/-- What the loop does with an event, for the sensor: the event is taken into account. -/
lemma Gathers.handle {s : ReadLoop F} (h : s.sensor.Gathers scale start n consumed unread)
    (event : InputEvent) :
    (handle scale s event).sensor.Gathers scale start n (consumed ++ [event]) unread := by
  unfold AccelerationSensor.handle
  dsimp only
  by_cases habs : event.type = EV_ABS
  · rw [if_pos habs]
    exact ⟨h.enabled, h.idle, h.reader, h.carries.report habs⟩
  · rw [if_neg habs]
    have hcarries := h.carries.skip habs
    by_cases hsyn : event.type = EV_SYN
    · rw [if_pos hsyn, if_pos h.enabled]
      exact ⟨h.enabled, h.idle, h.reader, hcarries.stamp _⟩
    · rw [if_neg hsyn]
      exact ⟨h.enabled, h.idle, h.reader, hcarries⟩

/-- What the loop does with an event, for the caller: at an `EV_SYN` the sample is stored. -/
lemma Stores.handle {s : ReadLoop F} {earlier : List (SensorsEvent F)} {room : ℤ}
    (h : Stores scale start consumed earlier room s)
    (hsensor : s.sensor.Gathers scale start n consumed unread) (hroom : s.count ≠ 0)
    (event : InputEvent) :
    Stores scale start (consumed ++ [event]) earlier room (handle scale s event) := by
  have hleft := h.left
  have hnonneg := h.left_nonneg
  have hsamples : SensorsEvent.samples scale start (consumed ++ [event]) = _ :=
    SensorsEvent.samples_snoc consumed event
  rw [h.samples, SensorsEvent.sampleOf] at hsamples
  unfold AccelerationSensor.handle
  dsimp only
  by_cases hsyn : event.type = EV_SYN
  · have habs : event.type ≠ EV_ABS := by rw [hsyn]; decide
    rw [if_neg habs, if_pos hsyn, if_pos hsensor.enabled]
    rw [if_pos hsyn] at hsamples
    refine ⟨?_, ?_, ?_, ?_⟩
    · rw [hsamples, hsensor.carries, List.append_assoc]
    · simp [h.received]
    · simp only [List.length_append, List.length_singleton]
      push_cast
      omega
    · dsimp only
      omega
  · rw [if_neg hsyn, List.append_nil] at hsamples
    rw [if_neg hsyn]
    split <;> exact ⟨hsamples, h.received, hleft, hnonneg⟩

/-- A pass of the loop goes one event further in the stream. -/
lemma Reading.pass {s : ReadLoop F} {stream : List InputEvent} {earlier : List (SensorsEvent F)}
    {room : ℤ} (h : Reading scale start n stream earlier room s) (hmore : more s = true) :
    Reading scale start n stream earlier room (pass scale s) ∧
      ((n : ℤ) - (pass scale s).sensor.mInputReader.mFreeSpace).toNat <
        ((n : ℤ) - s.sensor.mInputReader.mFreeSpace).toNat := by
  obtain ⟨consumed, unread, hstream, hsensor, hstores⟩ := h
  rw [more, decide_eq_true_eq] at hmore
  obtain ⟨hroom, havailable⟩ := hmore
  have hread := hsensor.reader.readEvent
  cases unread with
  | nil => exact absurd (hread.1.trans (if_pos rfl)) havailable
  | cons event rest =>
    have hpass : AccelerationSensor.pass scale s =
        AccelerationSensor.nextEvent (AccelerationSensor.handle scale s event) := by
      rw [AccelerationSensor.pass, hread.2 event rest rfl]
    have hhandled := hsensor.handle event
    have hnext := hhandled.nextEvent
    have hfree := hnext.reader.freeSpace
    have hsame := hsensor.reader.freeSpace
    rw [hpass]
    refine ⟨⟨consumed ++ [event], rest, by simp [hstream], hnext, ?_⟩, ?_⟩
    · obtain ⟨hsamples, hreceived, hleft, hnonneg⟩ := hstores.handle hsensor hroom event
      exact ⟨hsamples, hreceived, hleft, hnonneg⟩
    · rw [hfree, hsame, List.length_cons]
      push_cast
      omega

/-- **A call goes on in the stream.** It returns; what it has read joins the unread events, and
the events it returns continue the samples of those consumed. It stores no more events than there
is room for: those it returns.

**Proof sketch.** If `fill` fails, nothing is consumed. Otherwise each pass consumes one of the
unread events, which are no more than the ring holds. -/
theorem Gathers.readEvents (h : a.Gathers scale start n consumed unread) {earlier : List _}
    (hearlier : SensorsEvent.samples scale start consumed = earlier) {nread : ReadResult InputEvent}
    (hfits : nread.Fits a.mInputReader.mFreeSpace) {count : ℤ} (hcount : 1 ≤ count) (now : ℤ) :
    ∃ ret stored a', readEvents scale now nread count a = some (ret, stored, a') ∧
      (stored.length : ℤ) ≤ count ∧ stored.length = ret.toNat ∧
      ∃ consumed' unread', consumed' ++ unread' = consumed ++ unread ++ nread.whole ∧
        a'.Gathers scale start n consumed' unread' ∧
        SensorsEvent.samples scale start consumed' = earlier ++ stored := by
  have hfill := h.reader.fill hfits
  have hfilled : ({ a with mInputReader := (a.mInputReader.fill nread).2 } :
      AccelerationSensor F).Gathers scale start n consumed (unread ++ nread.whole) :=
    ⟨h.enabled, h.idle, hfill, h.carries⟩
  unfold AccelerationSensor.readEvents
  rw [if_neg (not_lt.mpr hcount), if_neg (by rw [h.idle]; decide)]
  dsimp only
  by_cases herror : (a.mInputReader.fill nread).1 < 0
  · rw [if_pos herror]
    refine ⟨_, [], _, rfl, by simp; omega, (Int.toNat_of_nonpos herror.le).symm, consumed,
      unread ++ nread.whole, (List.append_assoc _ _ _).symm, hfilled, ?_⟩
    rw [hearlier, List.append_nil]
  · rw [if_neg herror]
    have hstart : Reading scale start n (consumed ++ unread ++ nread.whole) earlier count
        ⟨{ a with mInputReader := (a.mInputReader.fill nread).2 }, [], count, 0⟩ :=
      ⟨consumed, unread ++ nread.whole, List.append_assoc _ _ _, hfilled,
        by rw [hearlier, List.append_nil], rfl, by simp, by simp; omega⟩
    have hfuel : ((n : ℤ) - (a.mInputReader.fill nread).2.mFreeSpace).toNat ≤
        (a.mInputReader.fill nread).2.mBufferEnd := by
      have hlen := hfill.length_le
      rw [hfill.freeSpace, hfill.bufferEnd]
      omega
    obtain ⟨s, hloop, ⟨consumed', unread', hstream, hsensor, hstores⟩, -⟩ :=
      WhileLoop.some_of_measure
        (C := Reading scale start n (consumed ++ unread ++ nread.whole) earlier count)
        (s := ⟨{ a with mInputReader := (a.mInputReader.fill nread).2 }, [], count, 0⟩)
        (fun s : ReadLoop F => ((n : ℤ) - s.sensor.mInputReader.mFreeSpace).toNat)
        (fun s hmore hs => Reading.pass hs hmore) hfuel hstart
    have hleft := hstores.left
    have hnonneg := hstores.left_nonneg
    refine ⟨s.numEventReceived, s.data, s.sensor, by rw [hloop]; rfl, by omega, ?_, consumed',
      unread', hstream.symm, hsensor, hstores.samples⟩
    rw [hstores.received, Int.toNat_natCast]

end AccelerationSensor

/-! ### Sequences of calls -/

/-- A call of `readEvents`: the room in the caller's array, the time, and what `read` reports. -/
structure ReadCall where
  count : ℤ
  now : ℤ
  nread : ReadResult InputEvent

/-- A sensor in use: the input events read from the device so far, and the events returned to the
caller; `hung` tells that a call has not returned. -/
structure SensorSession (F : Type*) where
  sensor : AccelerationSensor F
  input : List InputEvent
  returned : List (SensorsEvent F)
  hung : Bool

namespace SensorSession

/-- What a call does. The caller takes as many events from its array as the call returns. -/
def step (s : SensorSession F) (call : ReadCall) : SensorSession F :=
  match s.sensor.readEvents scale call.now call.nread call.count with
  | some (ret, stored, sensor) =>
    { s with
      sensor := sensor
      input := s.input ++ call.nread.whole
      returned := s.returned ++ stored.take ret.toNat }
  | none => { s with hung := true }

/-- The calls that may be made: there is room for an event, and a read delivers at most what was
asked for. -/
def Allowed (s : SensorSession F) (call : ReadCall) : Prop :=
  1 ≤ call.count ∧ call.nread.Fits s.sensor.mInputReader.mFreeSpace

/-- No call has hung. The events returned begin the samples of every stream of which the input
read so far is the beginning, and are all samples of that input once it is consumed. -/
def IsSampled (start : SensorsEvent F) (s : SensorSession F) : Prop :=
  s.hung = false ∧
    (∀ stream, s.input <+: stream → s.returned <+: SensorsEvent.samples scale start stream) ∧
    ((s.sensor.mInputReader.readEvent).1 = 0 →
      s.returned = SensorsEvent.samples scale start s.input)

variable {scale}

/-- The sensor has consumed part of the input, and its samples have been returned. -/
def Good (scale : ℤ → F) (start : SensorsEvent F) (n : ℕ) (s : SensorSession F) : Prop :=
  s.hung = false ∧ ∃ consumed unread, consumed ++ unread = s.input ∧
    s.sensor.Gathers scale start n consumed unread ∧
    SensorsEvent.samples scale start consumed = s.returned

variable {start : SensorsEvent F} {n : ℕ} {s : SensorSession F}

/-- In a good session the events returned are samples of the input. -/
lemma Good.isSampled (h : s.Good scale start n) : s.IsSampled scale start := by
  obtain ⟨hhung, consumed, unread, hinput, hsensor, hreturned⟩ := h
  refine ⟨hhung, fun stream hstream => ?_, fun hempty => ?_⟩
  · obtain ⟨rest, rfl⟩ := hstream
    rw [← hreturned, ← hinput, List.append_assoc]
    exact SensorsEvent.samples_append consumed (unread ++ rest)
  · have hread := hsensor.reader.readEvent.1
    rw [hempty] at hread
    have hnil : unread = [] := by
      by_contra hne
      rw [if_neg hne] at hread
      exact absurd hread (by decide)
    rw [← hreturned, ← hinput, hnil, List.append_nil]

/-- A call keeps a session good. -/
lemma Good.step (h : s.Good scale start n) {call : ReadCall} (hcall : s.Allowed call) :
    (s.step scale call).Good scale start n := by
  obtain ⟨hhung, consumed, unread, hinput, hsensor, hreturned⟩ := h
  obtain ⟨ret, stored, a', hread, -, hret, consumed', unread', hstream, hsensor', hsamples⟩ :=
    hsensor.readEvents hreturned hcall.2 hcall.1 call.now
  unfold SensorSession.step
  rw [hread]
  refine ⟨hhung, consumed', unread', ?_, hsensor', ?_⟩
  · rw [hstream, hinput]
  · show SensorsEvent.samples scale start consumed' = s.returned ++ stored.take ret.toNat
    rw [hsamples, ← hret, List.take_length]

end SensorSession

/-- **Reading is independent of how the input is split.** From an enabled sensor without a pending
event whose ring holds the events `left`, over every sequence of `readEvents` calls with room for
an event, whatever the reads of each call deliver: the calls return, the events returned begin the
sequence with one sensor event for each `EV_SYN` of the input, with the values reported last
before it, and they are that whole sequence once the input read is consumed.

**Proof sketch.** A call takes some of the unread events, one after the other, and returns their
samples; the values not yet used stay in the pending event. -/
theorem readEvents_samples (scale : ℤ → F) {n : ℕ} {a : AccelerationSensor F}
    {left : List InputEvent} (hreader : a.mInputReader.Unread n left) (henabled : a.mEnabled ≠ 0)
    (hidle : a.mHasPendingEvent = false) (calls : List ReadCall)
    (hcalls : StepRun.Along (SensorSession.step scale) SensorSession.Allowed
      ⟨a, left, [], false⟩ calls) :
    StepRun.Always (SensorSession.step scale) (SensorSession.IsSampled scale a.mPendingEvent)
      ⟨a, left, [], false⟩ calls := by
  have hstart : SensorSession.Good scale a.mPendingEvent n ⟨a, left, [], false⟩ :=
    ⟨rfl, [], left, rfl, ⟨henabled, hidle, hreader, SensorsEvent.carries_nil⟩, rfl⟩
  exact (StepRun.always_of_along (fun _ _ h hcall => h.step hcall) hstart hcalls).imp
    fun _ h => h.isSampled

/-- An enabled sensor with an empty ring of four events, as the class has it. -/
def quietSensor : AccelerationSensor ℤ where
  mEnabled := 1
  mInputReader := .new 4 fun _ => ⟨⟨0, 0⟩, 0, 0, 0⟩
  mPendingEvent := ⟨0, 0, 1, 0, 0, 0, 0⟩
  mHasPendingEvent := false

/-- The values of a sample come with two reads, and the caller has room for one event. -/
def splitCalls : List ReadCall :=
  [⟨1, 0, .events [⟨⟨1, 0⟩, EV_ABS, EVENT_TYPE_ACCEL_X, 5⟩]⟩,
    ⟨1, 0, .events [⟨⟨1, 0⟩, EV_ABS, EVENT_TYPE_ACCEL_Z, 7⟩, ⟨⟨1, 0⟩, EV_SYN, 0, 0⟩]⟩]

/-- A run in which a sample is split over two reads. -/
theorem readEvents_samples_split :
    StepRun.Always (SensorSession.step (· * 2))
      (SensorSession.IsSampled (· * 2) quietSensor.mPendingEvent) ⟨quietSensor, [], [], false⟩
      splitCalls := by
  have hcalls : StepRun.Along (SensorSession.step (· * 2)) SensorSession.Allowed
      ⟨quietSensor, [], [], false⟩ splitCalls := by
    refine And.intro ⟨le_refl (1 : ℤ), ?_⟩ (And.intro ⟨le_refl (1 : ℤ), ?_⟩ trivial)
    · show ((1 : ℕ) : ℤ) ≤ 4
      decide
    · show ((2 : ℕ) : ℤ) ≤ 4
      decide
  exact readEvents_samples (· * 2) (InputEventCircularReader.unread_new (by decide) _) (by decide)
    rfl splitCalls hcalls

end SensorHal
