import Gs702aHal.Lib.StepRun
import Mathlib.Algebra.Order.Ring.Int
import Mathlib.Data.List.Range

set_option relaxedAutoImplicit false
set_option autoImplicit false

/-!
# Polling the sensors

`sensors_poll_context_t::pollEvents` goes around its sensors and lets each that may have events
write them to the caller's array, until the array is full or `poll` finds nothing more. What a
sensor's `readEvents` returns is subtracted from the room left and added to the total and to the
pointer into the array, also where it is an error code.

## Main definitions

* `PollEvents` — the state of a call of `pollEvents`, with a log of what is stored where.
* `PollEvents.step` — what the call does with an answer of a sensor or of `poll`.
* `PollEvents.Contract` — what `readEvents` and `poll` may answer.
* `PollEvents.Inside` — the call stays inside the array.

## Main results

* `pollEvents_inside_iff` — the call stays inside the array exactly if no events are read after an
  error, and no total is returned after an error unless it is negative.
* `pollEvents_before` — an error of a sensor that lets the next one write in front of the array.
-/

namespace SensorHal

variable {E : Type*}

/-- The error code of the C library for an interrupted call. -/
def EINTR : ℕ := 4

/-- Where a call of `pollEvents` is: about to look at a sensor, about to call `poll`, or back with
a result. -/
inductive PollPoint
  | sensor (i : ℕ)
  | poll
  | returned (ret : ℤ)

/-- What a call of `pollEvents` gets to know: whether the sensor it looks at has pending events
and, if it calls the sensor's `readEvents`, the result and the events written; and what `poll`
reports, with the sensors that have become readable. -/
inductive PollAnswer (E : Type*)
  | sensor (hasPendingEvents : Bool) (nb : ℤ) (events : List E)
  | poll (n : ℤ) (errno : ℕ) (pollin : ℕ → Bool)

/-- The state of a call: the variables of `pollEvents`, which of the descriptors are marked as
readable, the events stored with their places in the array, and whether a sensor has returned an
error. -/
structure PollEvents (E : Type*) where
  point : PollPoint
  pollin : ℕ → Bool
  count : ℤ
  nbEvents : ℤ
  data : ℤ
  stores : List (ℤ × E)
  failed : Bool

namespace PollEvents

variable (mSensors : List Bool)

/-- The loop over the sensors goes on with the sensor `i`, unless the array is full or there is no
such sensor; a full array ends the call. -/
def toSensor (s : PollEvents E) (i : ℕ) : PollEvents E :=
  if s.count ≠ 0 ∧ i < mSensors.length then { s with point := .sensor i }
  else if s.count ≠ 0 then { s with point := .poll }
  else { s with point := .returned s.nbEvents }

/-- A call of `pollEvents` with room for `count` events. -/
def start (pollin : ℕ → Bool) (count : ℤ) : PollEvents E :=
  toSensor mSensors ⟨.poll, pollin, count, 0, 0, [], false⟩ 0

/-- The events that a sensor writes from `data` on, with their places. -/
def placed (data : ℤ) (events : List E) : List (ℤ × E) :=
  ((List.range events.length).map fun k : ℕ => data + k).zip events

/-- The result of a sensor's `readEvents` is taken into account. -/
def take (s : PollEvents E) (i : ℕ) (nb : ℤ) (events : List E) : PollEvents E :=
  { s with
    pollin := if nb < s.count then Function.update s.pollin i false else s.pollin
    count := s.count - nb
    nbEvents := s.nbEvents + nb
    data := s.data + nb
    stores := s.stores ++ placed s.data events
    failed := s.failed || decide (nb < 0) }

/-- Whether the call reads events of the sensor `i`; the list tells which sensors there are. -/
def reads (s : PollEvents E) (i : ℕ) (hasPendingEvents : Bool) : Bool :=
  mSensors.getD i false && (s.pollin i || hasPendingEvents)

/-- What the call does with an answer. -/
def step (s : PollEvents E) (answer : PollAnswer E) : PollEvents E :=
  match s.point, answer with
  | .sensor i, .sensor hasPendingEvents nb events =>
    if reads mSensors s i hasPendingEvents then toSensor mSensors (s.take i nb events) (i + 1)
    else toSensor mSensors s (i + 1)
  | .poll, .poll n errno pollin =>
    if n < 0 ∧ errno = EINTR then s
    else if n < 0 then { s with point := .returned (-errno) }
    else if n ≠ 0 ∧ s.count ≠ 0 then toSensor mSensors { s with pollin := pollin } 0
    else { s with pollin := pollin, point := .returned s.nbEvents }
  | _, _ => s

/-- What sensors and `poll` may answer. A sensor is given the pointer and the room left; it writes
as many events as it returns, or returns an error and writes nothing. A failing `poll` sets the
error number. -/
def Contract (s : PollEvents E) : PollAnswer E → Prop
  | .sensor _ nb events =>
    (0 ≤ nb → nb ≤ s.count ∧ (events.length : ℤ) = nb) ∧ (nb < 0 → events = [])
  | .poll n errno _ => n < 0 → 0 < errno

/-- The events are stored at the places `0`, `1`, … of the array, and the call returns their
number or an error. -/
def Inside (size : ℤ) (s : PollEvents E) : Prop :=
  s.stores.map Prod.fst = (List.range s.stores.length).map (fun k : ℕ => (k : ℤ)) ∧
    (s.stores.length : ℤ) ≤ size ∧
    ∀ ret, s.point = .returned ret → ret = s.stores.length ∨ ret < 0

/-- After an error, no sensor writes events, and the total is returned only if it is negative. -/
def Harmless (s : PollEvents E) : PollAnswer E → Prop
  | .sensor hasPendingEvents nb _ =>
    ∀ i, s.point = .sensor i → reads mSensors s i hasPendingEvents = true → 0 < nb →
      s.failed = false
  | .poll n _ _ => s.point = .poll → n = 0 → s.failed = true → s.nbEvents < 0

/-! ### The events stored -/

/-- The places of the events that a sensor writes. -/
lemma placed_fst (data : ℤ) (events : List E) :
    (placed data events).map Prod.fst = (List.range events.length).map fun k : ℕ => data + k := by
  rw [placed, List.map_fst_zip (by simp)]

/-- As many places as events. -/
lemma placed_length (data : ℤ) (events : List E) : (placed data events).length = events.length := by
  simp [placed]

/-- The numbers of a call agree: the room left, the total and the pointer, with the events stored;
after an error, the total is less than their number. -/
structure Agree (size : ℤ) (s : PollEvents E) : Prop where
  places : s.stores.map Prod.fst = (List.range s.stores.length).map (fun k : ℕ => (k : ℤ))
  fits : (s.stores.length : ℤ) ≤ size
  count : s.count = size - s.nbEvents
  count_nonneg : 0 ≤ s.count
  data : s.data = s.nbEvents
  clean : s.failed = false → s.nbEvents = s.stores.length
  dirty : s.failed = true → s.nbEvents < s.stores.length

/-- The invariant of a call that harms nothing. -/
structure Runs (size : ℤ) (s : PollEvents E) : Prop extends Agree size s where
  polls : s.point = .poll → s.count ≠ 0
  result : ∀ ret, s.point = .returned ret → ret = s.stores.length ∨ ret < 0

variable {mSensors} {size : ℤ} {s : PollEvents E}

/-- A call that runs stays inside the array. -/
lemma Runs.inside (h : Runs size s) : s.Inside size := ⟨h.places, h.fits, h.result⟩

/-- A full array holds as many events as were received, without an error. -/
lemma Agree.nbEvents_of_full (h : Agree size s) (hfull : s.count = 0) :
    s.nbEvents = s.stores.length := by
  have hcount := h.count
  have hfits := h.fits
  cases hfailed : s.failed with
  | false => exact h.clean hfailed
  | true =>
    have hless := h.dirty hfailed
    omega

/-- The loop over the sensors keeps the numbers. -/
lemma Agree.toSensor (h : Agree size s) (i : ℕ) : Runs size (toSensor mSensors s i) := by
  unfold PollEvents.toSensor
  split
  · exact ⟨⟨h.places, h.fits, h.count, h.count_nonneg, h.data, h.clean, h.dirty⟩,
      nofun, nofun⟩
  · split
    · rename_i hroom
      exact ⟨⟨h.places, h.fits, h.count, h.count_nonneg, h.data, h.clean, h.dirty⟩,
        fun _ => hroom, nofun⟩
    · rename_i hfull
      refine ⟨⟨h.places, h.fits, h.count, h.count_nonneg, h.data, h.clean, h.dirty⟩, nofun,
        fun ret hret => .inl ?_⟩
      have hnb := h.nbEvents_of_full (not_not.mp hfull)
      rw [← hnb]
      exact (PollPoint.returned.inj hret).symm

/-- **A result that is no events after an error keeps the numbers.** -/
lemma Agree.take (h : Agree size s) {i : ℕ} {nb : ℤ} {events : List E}
    (hnb : 0 ≤ nb → nb ≤ s.count ∧ (events.length : ℤ) = nb) (herror : nb < 0 → events = [])
    (hclean : 0 < nb → s.failed = false) : Agree size (s.take i nb events) := by
  have hcount := h.count
  have hnonneg := h.count_nonneg
  have hfits := h.fits
  have hdata := h.data
  have hlen : (s.take i nb events).stores.length = s.stores.length + events.length := by
    simp [PollEvents.take, placed_length]
  have hevents : 0 < nb ∨ events = [] := by
    rcases lt_trichotomy nb 0 with hneg | rfl | hpos
    · exact .inr (herror hneg)
    · have hzero := (hnb le_rfl).2
      exact .inr (List.eq_nil_of_length_eq_zero (by omega))
    · exact .inl hpos
  refine ⟨?_, ?_, ?_, ?_, ?_, ?_, ?_⟩
  · rw [hlen]
    obtain hpos | rfl := hevents
    · have hnbEvents := h.clean (hclean hpos)
      simp only [PollEvents.take, List.map_append, h.places, placed_fst, hdata, hnbEvents,
        List.range_add, List.map_map]
      congr 1
    · simpa [PollEvents.take, placed] using h.places
  · rw [hlen]
    obtain hpos | rfl := hevents
    · have hnbEvents := h.clean (hclean hpos)
      have hsum := hnb hpos.le
      push_cast
      omega
    · simpa using hfits
  · simp only [PollEvents.take]
    omega
  · simp only [PollEvents.take]
    by_cases hneg : nb < 0
    · omega
    · have hle := hnb (not_lt.mp hneg)
      omega
  · simp only [PollEvents.take, hdata]
  · intro hfailed
    simp only [PollEvents.take, Bool.or_eq_false_iff, decide_eq_false_iff_not] at hfailed
    have hnbEvents := h.clean hfailed.1
    have hsum := hnb (not_lt.mp hfailed.2)
    rw [hlen]
    simp only [PollEvents.take]
    push_cast
    omega
  · intro hfailed
    simp only [PollEvents.take, Bool.or_eq_true, decide_eq_true_eq] at hfailed
    rw [hlen]
    simp only [PollEvents.take]
    push_cast
    obtain hfailed | hneg := hfailed
    · have hless := h.dirty hfailed
      have hle : ¬ 0 < nb := by
        intro hpos
        rw [hclean hpos] at hfailed
        exact absurd hfailed (by decide)
      omega
    · cases hbefore : s.failed with
      | false =>
        have hnbEvents := h.clean hbefore
        omega
      | true =>
        have hless := h.dirty hbefore
        omega

/-- A harmless answer keeps a call running. -/
lemma Runs.step (h : Runs size s) {answer : PollAnswer E} (hcontract : s.Contract answer)
    (hharmless : s.Harmless mSensors answer) : Runs size (s.step mSensors answer) := by
  unfold PollEvents.step
  cases hpoint : s.point with
  | sensor i =>
    cases answer with
    | sensor hasPendingEvents nb events =>
      dsimp only
      split
      · rename_i hreads
        exact (h.toAgree.take hcontract.1 hcontract.2 (hharmless i hpoint hreads)).toSensor (i + 1)
      · exact h.toAgree.toSensor (i + 1)
    | poll n errno pollin => exact h
  | poll =>
    cases answer with
    | sensor hasPendingEvents nb events => exact h
    | poll n errno pollin =>
      have hagree : ∀ point, Agree size { s with pollin := pollin, point := point } := fun _ =>
        ⟨h.places, h.fits, h.count, h.count_nonneg, h.data, h.clean, h.dirty⟩
      dsimp only
      split
      · exact h
      · split
        · rename_i hneg
          refine ⟨⟨h.places, h.fits, h.count, h.count_nonneg, h.data, h.clean, h.dirty⟩, nofun,
            fun ret hret => .inr ?_⟩
          have hret' : -(errno : ℤ) = ret := PollPoint.returned.inj hret
          have herrno := hcontract hneg
          omega
        · split
          · exact (hagree s.point).toSensor 0
          · rename_i hover
            refine ⟨hagree _, nofun, fun ret hret => ?_⟩
            have hzero : n = 0 := by
              by_contra hne
              exact hover ⟨hne, h.polls hpoint⟩
            have hret' : s.nbEvents = ret := PollPoint.returned.inj hret
            rw [← hret']
            cases hfailed : s.failed with
            | false => exact .inl (h.clean hfailed)
            | true => exact .inr (hharmless hpoint hzero hfailed)
  | returned ret => exact h

/-- An answer that leaves a running call inside the array is harmless: otherwise an event would
be stored at a place before the next one, or a wrong total returned. -/
lemma Runs.harmless (h : Runs size s) {answer : PollAnswer E} (hcontract : s.Contract answer)
    (hinside : (s.step mSensors answer).Inside size) : s.Harmless mSensors answer := by
  cases answer with
  | sensor hasPendingEvents nb events =>
    intro i hpoint hreads hpos
    by_contra hfailed
    rw [Bool.not_eq_false] at hfailed
    have hless := h.dirty hfailed
    have hlen := (hcontract.1 hpos.le).2
    have hstep : s.step mSensors (.sensor hasPendingEvents nb events) =
        PollEvents.toSensor mSensors (s.take i nb events) (i + 1) := by
      simp only [PollEvents.step, hpoint, hreads, if_true]
    have hstores : ∀ t : PollEvents E,
        (PollEvents.toSensor mSensors t (i + 1)).stores = t.stores := by
      intro t
      unfold PollEvents.toSensor
      split
      · rfl
      · split <;> rfl
    have hplaces := hinside.1
    rw [hstep, hstores] at hplaces
    have hnext := congrArg (·[s.stores.length]?) hplaces
    have hevents : 0 < events.length := by omega
    simp [PollEvents.take, placed_fst, placed_length, hevents, h.data] at hnext
    omega
  | poll n errno pollin =>
    intro hpoint hzero hfailed
    subst hzero
    have hless := h.dirty hfailed
    have hstep : s.step mSensors (.poll 0 errno pollin) =
        { s with pollin := pollin, point := .returned s.nbEvents } := by
      simp [PollEvents.step, hpoint]
    rw [hstep] at hinside
    obtain heq | hneg := hinside.2.2 s.nbEvents rfl
    · have heq' : s.nbEvents = s.stores.length := heq
      omega
    · exact hneg

end PollEvents

/-- **`pollEvents` stays inside the caller's array exactly if errors are followed by nothing.**
For every room of at least one event, whatever the sensors and `poll` answer: throughout the call
the events are stored at the places `0`, `1`, … of the array, one after the other and none over
another, and the call returns their number or a negative error, exactly if no sensor writes events
after one has returned an error, and the total is not returned after an error unless it is
negative.

**Proof sketch.** Without an error the total and the pointer are the number of events stored.
An error makes both smaller than that, and they stay so: the next event is stored at a place that
is taken or in front of the array, and a total that is not negative is too small. -/
theorem pollEvents_inside_iff (mSensors : List Bool) (pollin : ℕ → Bool) {count : ℤ}
    (hcount : 1 ≤ count) (answers : List (PollAnswer E))
    (hcontract : StepRun.Along (PollEvents.step mSensors) PollEvents.Contract
      (.start mSensors pollin count) answers) :
    StepRun.Always (PollEvents.step mSensors) (PollEvents.Inside count)
        (.start mSensors pollin count) answers ↔
      StepRun.Along (PollEvents.step mSensors) (PollEvents.Harmless mSensors)
        (.start mSensors pollin count) answers := by
  have hstart : PollEvents.Runs count (PollEvents.start (E := E) mSensors pollin count) := by
    refine PollEvents.Agree.toSensor ⟨rfl, ?_, ?_, ?_, rfl, fun _ => rfl,
      fun hfailed => absurd hfailed Bool.false_ne_true⟩ 0
    · show (0 : ℤ) ≤ count
      omega
    · show count = count - 0
      omega
    · show 0 ≤ count
      omega
  exact StepRun.always_iff_along_of_assumption (fun _ h => h.inside)
    (fun _ _ h hc hh => h.step hc hh) (fun _ _ h hc hi => h.harmless hc hi) hstart hcontract

/-- A call in which one sensor writes an event, and then `poll` finds nothing. -/
theorem pollEvents_inside_one :
    StepRun.Always (PollEvents.step [true, false]) (PollEvents.Inside 2)
        (.start [true, false] (fun _ => true) 2)
        [.sensor false 1 [7], .sensor false 0 [], .poll 0 0 fun _ => false] ↔
      StepRun.Along (PollEvents.step [true, false]) (PollEvents.Harmless [true, false])
        (.start [true, false] (fun _ => true) 2)
        [.sensor false 1 [7], .sensor false 0 [], .poll 0 0 fun _ => false] :=
  pollEvents_inside_iff [true, false] (fun _ => true) (by decide) _
    ⟨⟨fun _ => ⟨by decide, rfl⟩, fun h => absurd h (by decide)⟩,
      ⟨fun _ => ⟨by decide, rfl⟩, fun _ => rfl⟩, fun h => absurd h (by decide), trivial⟩

/-- **An error lets the next sensor write in front of the array.** In a call with room for four
events, the first sensor returns `-EINVAL`, as it does for a partial input event; the second one
writes an event, 22 places before the array. -/
theorem pollEvents_before :
    StepRun.Along (PollEvents.step [true, true]) PollEvents.Contract
        (.start [true, true] (fun _ => true) 4) [.sensor false (-22) [], .sensor false 1 [7]] ∧
      (StepRun.final (PollEvents.step [true, true]) (.start [true, true] (fun _ => true) 4)
        [.sensor false (-22) [], .sensor false 1 [7]]).stores = [(-22, 7)] ∧
      ¬ StepRun.Always (PollEvents.step [true, true]) (PollEvents.Inside 4)
        (.start [true, true] (fun _ => true) 4) [.sensor false (-22) [], .sensor false 1 [7]] := by
  have hstores : (StepRun.final (PollEvents.step [true, true])
      (.start [true, true] (fun _ => true) 4)
      [.sensor false (-22) [], .sensor false 1 [7]]).stores = [(-22, 7)] := rfl
  refine ⟨⟨⟨fun h => absurd h (by decide), fun _ => rfl⟩,
    ⟨fun _ => ⟨by decide, rfl⟩, fun h => absurd h (by decide)⟩, trivial⟩, hstores, fun h => ?_⟩
  have hplaces := h.last.1
  rw [hstores] at hplaces
  exact absurd hplaces (by decide)

end SensorHal
