import Mathlib.Algebra.GroupWithZero.Nat
import Gs702aHal.Camera.MessageQueue
import Gs702aHal.Camera.VceEvents

set_option relaxedAutoImplicit false
set_option autoImplicit false

/-!
# The event synchronisers

A thread that waits for an event of an OMX component registers a message: the code of the event, its
two data words and a semaphore. When an event comes, the queue of the messages is searched for one
that it matches, which is removed and its semaphore signalled. `OMXCameraAdapter` and
`OMXEventSyncList` have a copy of these functions each, with the same text.

The test lets every code but zero match any event.

## Main definitions

* `CameraHal.EventQueue` — the messages, and how often each semaphore has been signalled.
* `CameraHal.EventQueue.RegisterForEvent`, `CameraHal.EventQueue.takeEvent` — the functions.
* `CameraHal.EventQueue.TakesFirst` — the first message that an event is meant for leaves the queue.
* `CameraHal.EventQueue.NoStray` — no message ahead of it matches the event by its code alone.

## Main results

* `CameraHal.EventQueue.synchronises_iff` — the functions take the right message exactly if there is
  no stray one ahead.
* `CameraHal.EventQueue.always_synchronises` — they do so throughout if all registrations are for
  the completion of a command.
* `CameraHal.EventQueue.represents_takeEvent` — the encoder's registrations are such a queue.
-/

namespace CameraHal

open Status

/-! ### The messages -/

/-- An event as the component's callback reports it. -/
structure ComponentEvent where
  eEvent : BitVec 32
  nData1 : BitVec 32
  nData2 : BitVec 32
  deriving DecidableEq, Repr

/-- A semaphore that is passed by reference: its address. -/
abbrev SemaphoreRef := { address : BitVec 32 // address ≠ 0#32 }

namespace Message

/-- The test in the loops of `SignalEvent` and `RemoveEvent`. -/
def matchesEvent (msg : Message) (e : ComponentEvent) : Bool :=
  (msg.command ≠ 0#32 || msg.command = e.eEvent) && (msg.arg1 = 0#32 || msg.arg1 = e.nData1) &&
    (msg.arg2 = 0#32 || msg.arg2 = e.nData2) && msg.arg3 ≠ 0#32

/-- The data words are those of the event, as far as they are not left open. -/
def dataMatches (msg : Message) (e : ComponentEvent) : Bool :=
  (msg.arg1 = 0#32 || msg.arg1 = e.nData1) && (msg.arg2 = 0#32 || msg.arg2 = e.nData2)

/-- The message is registered for the event. -/
def expects (msg : Message) (e : ComponentEvent) : Bool :=
  msg.command = e.eEvent && msg.dataMatches e

/-- The message is registered for another event that has a code other than zero, with the same
data words. -/
def strays (msg : Message) (e : ComponentEvent) : Bool :=
  msg.command ≠ 0#32 && msg.command ≠ e.eEvent && msg.dataMatches e

/-- A message with a semaphore matches the event if it is registered for it, or is a stray one. -/
lemma matchesEvent_iff {msg : Message} (h : msg.arg3 ≠ 0#32) (e : ComponentEvent) :
    msg.matchesEvent e = true ↔ msg.expects e = true ∨ msg.strays e = true := by
  unfold matchesEvent expects strays dataMatches
  simp only [Bool.and_eq_true, Bool.or_eq_true, decide_eq_true_eq]
  by_cases hcommand : msg.command = e.eEvent
  · simp only [hcommand, h, ne_eq, not_true_eq_false, not_false_eq_true]
    tauto
  · simp only [hcommand, h, ne_eq, not_false_eq_true]
    tauto

/-- A stray message is not registered for the event. -/
lemma expects_of_strays {msg : Message} {e : ComponentEvent} (h : msg.strays e = true) :
    msg.expects e = false := by
  unfold strays at h
  unfold expects
  simp only [Bool.and_eq_true, decide_eq_true_eq] at h
  simp [h.1.2]

end Message

/-! ### The queue -/

/-- The registrations of a synchroniser. A registered semaphore is one passed by reference. -/
structure EventQueue where
  mEventSignalQ : List Message
  /-- How often the semaphore at an address has been signalled. -/
  signalled : BitVec 32 → ℕ
  semaphores : ∀ msg ∈ mEventSignalQ, msg.arg3 ≠ 0#32

namespace EventQueue

/-- `Signal` of the semaphore of a message. -/
def signal (msg : Message) (signalled : BitVec 32 → ℕ) : BitVec 32 → ℕ :=
  Function.update signalled msg.arg3 (signalled msg.arg3 + 1)

/-- The loop over the queue: the first message that passes the test, and the queue without it. -/
def takeMatch (e : ComponentEvent) : List Message → Option (Message × List Message)
  | [] => none
  | msg :: rest =>
    if msg.matchesEvent e then some (msg, rest)
    else (takeMatch e rest).map fun found => (found.1, msg :: found.2)

/-- What is left of the queue was in it. -/
lemma mem_of_takeMatch {e : ComponentEvent} {q rest : List Message} {msg m : Message}
    (h : takeMatch e q = some (msg, rest)) (hm : m ∈ rest) : m ∈ q := by
  induction q generalizing rest with
  | nil => cases h
  | cons head tail ih =>
    rw [takeMatch] at h
    split_ifs at h
    · cases h
      exact List.mem_cons_of_mem _ hm
    · obtain ⟨⟨found, left⟩, hfound, heq⟩ := Option.map_eq_some_iff.mp h
      cases heq
      rcases List.mem_cons.mp hm with rfl | hm
      · exact List.mem_cons_self
      · exact List.mem_cons_of_mem _ (ih hfound hm)

/-- `SignalEvent` and `RemoveEvent`: the first message that matches is removed; only the former
signals its semaphore. -/
def takeEvent (signals : Bool) (e : ComponentEvent) (s : EventQueue) : EventQueue :=
  match h : takeMatch e s.mEventSignalQ with
  | none => s
  | some (msg, rest) =>
    { mEventSignalQ := rest
      signalled := if signals then signal msg s.signalled else s.signalled
      semaphores := fun m hm => s.semaphores m (mem_of_takeMatch h hm) }

/-- A message is added to the queue. -/
def add (s : EventQueue) (msg : Message) (h : msg.arg3 ≠ 0#32) : EventQueue :=
  { s with
    mEventSignalQ := s.mEventSignalQ ++ [msg]
    semaphores := fun m hm => (List.mem_append.mp hm).elim (s.semaphores m) fun hm =>
      List.mem_singleton.mp hm ▸ h }

/-- `RegisterForEvent`, given the memory that `malloc` returns, if any, and whether the queue takes
the message. -/
def RegisterForEvent (hComponent : BitVec 32) (e : ComponentEvent) (semaphore : SemaphoreRef)
    (memory : Option Message) (added : Bool) (s : EventQueue) : Status × EventQueue :=
  match memory with
  | none => (NO_ERROR, s)
  | some msg =>
    if !added then (NO_MEMORY, s)
    else (NO_ERROR, s.add { msg with
      command := e.eEvent, arg1 := e.nData1, arg2 := e.nData2, arg3 := semaphore,
      arg4 := hComponent } semaphore.2)

/-- The loop that removes all messages and signals their semaphores. -/
def FlushEvent (s : EventQueue) : EventQueue where
  mEventSignalQ := []
  signalled := s.mEventSignalQ.foldl (fun signalled msg => signal msg signalled) s.signalled
  semaphores := fun _ hm => absurd hm List.not_mem_nil

/-- `OMXCameraAdapter::SignalEvent`. -/
def OMXCameraAdapter.SignalEvent : ComponentEvent → EventQueue → EventQueue := takeEvent true

/-- `OMXCameraAdapter::RemoveEvent`. -/
def OMXCameraAdapter.RemoveEvent : ComponentEvent → EventQueue → EventQueue := takeEvent false

/-- `OMXEventSyncList::SignalEvent`. -/
def OMXEventSyncList.SignalEvent : ComponentEvent → EventQueue → EventQueue := takeEvent true

/-- `OMXEventSyncList::RemoveEvent`. -/
def OMXEventSyncList.RemoveEvent : ComponentEvent → EventQueue → EventQueue := takeEvent false

/-! ### The right message -/

/-- The first message that is registered for the event, if there is one, is taken out of the queue;
the others stay in their order. -/
inductive TakesFirst (e : ComponentEvent) : List Message → Option Message → List Message → Prop
  | taken (before : List Message) (msg : Message) (after : List Message) :
      (∀ m ∈ before, m.expects e = false) → msg.expects e = true →
        TakesFirst e (before ++ msg :: after) (some msg) (before ++ after)
  | absent (q : List Message) : (∀ m ∈ q, m.expects e = false) → TakesFirst e q none q

/-- An event takes the right message out of the queue and signals its semaphore. -/
def Signals (f : ComponentEvent → EventQueue → EventQueue) (e : ComponentEvent)
    (s : EventQueue) : Prop :=
  ∃ msg, TakesFirst e s.mEventSignalQ msg (f e s).mEventSignalQ ∧
    (f e s).signalled = msg.elim s.signalled fun msg => signal msg s.signalled

/-- An event takes the right message out of the queue and signals nothing. -/
def Removes (f : ComponentEvent → EventQueue → EventQueue) (e : ComponentEvent)
    (s : EventQueue) : Prop :=
  ∃ msg, TakesFirst e s.mEventSignalQ msg (f e s).mEventSignalQ ∧ (f e s).signalled = s.signalled

/-- Up to the first message that is registered for the event, no message is a stray one. -/
def NoStray (e : ComponentEvent) : List Message → Prop
  | [] => True
  | msg :: rest => msg.strays e = false ∧ (msg.expects e = true ∨ NoStray e rest)

/-- A message that the event is not meant for stands ahead. -/
lemma TakesFirst.cons {e : ComponentEvent} {q q' : List Message} {found : Option Message}
    (h : TakesFirst e q found q') {msg : Message} (hmsg : msg.expects e = false) :
    TakesFirst e (msg :: q) found (msg :: q') := by
  cases h with
  | taken before m after hbefore hm =>
    exact .taken (msg :: before) m after (List.forall_mem_cons.mpr ⟨hmsg, hbefore⟩) hm
  | absent _ hnone => exact .absent _ (List.forall_mem_cons.mpr ⟨hmsg, hnone⟩)

/-- Without a stray message ahead, the loop takes the right one, or none. -/
lemma takesFirst_of_noStray {e : ComponentEvent} {q : List Message}
    (hq : ∀ msg ∈ q, msg.arg3 ≠ 0#32) (h : NoStray e q) :
    TakesFirst e q ((takeMatch e q).map Prod.fst) (((takeMatch e q).map Prod.snd).getD q) := by
  induction q with
  | nil => exact .absent [] fun _ hm => absurd hm List.not_mem_nil
  | cons msg rest ih =>
    obtain ⟨hmsg, hrest⟩ := List.forall_mem_cons.mp hq
    have hiff := Message.matchesEvent_iff hmsg e
    rw [takeMatch]
    split_ifs with hmatch
    · have hexpects : msg.expects e = true := (hiff.mp hmatch).resolve_right (by simp [h.1])
      exact .taken [] msg rest (fun _ hm => absurd hm List.not_mem_nil) hexpects
    · have hexpects : ¬msg.expects e = true := fun hexpects => hmatch (hiff.mpr (Or.inl hexpects))
      have htail := (ih hrest (h.2.resolve_left hexpects)).cons (Bool.eq_false_of_not_eq_true
        hexpects)
      cases hfound : takeMatch e rest with
      | none =>
        rw [hfound] at htail
        exact htail
      | some found =>
        rw [hfound] at htail
        exact htail

/-- If there is a stray message ahead, the loop takes one that the event is not meant for. -/
lemma takeMatch_of_stray {e : ComponentEvent} {q : List Message}
    (hq : ∀ msg ∈ q, msg.arg3 ≠ 0#32) (h : ¬NoStray e q) :
    ∃ msg rest, takeMatch e q = some (msg, rest) ∧ rest.length < q.length ∧
      rest.countP (·.expects e) = q.countP (·.expects e) := by
  induction q with
  | nil => exact absurd trivial h
  | cons msg rest ih =>
    obtain ⟨hmsg, hrest⟩ := List.forall_mem_cons.mp hq
    have hiff := Message.matchesEvent_iff hmsg e
    rw [takeMatch]
    by_cases hstrays : msg.strays e = true
    · rw [if_pos (hiff.mpr (Or.inr hstrays))]
      refine ⟨msg, rest, rfl, Nat.lt_succ_self _, ?_⟩
      rw [List.countP_cons, Message.expects_of_strays hstrays]
      rfl
    · have hexpects : ¬msg.expects e = true := fun hexpects =>
        h ⟨Bool.eq_false_of_not_eq_true hstrays, Or.inl hexpects⟩
      obtain ⟨found, left, hfound, hlength, hcount⟩ := ih hrest fun hno =>
        h ⟨Bool.eq_false_of_not_eq_true hstrays, Or.inr hno⟩
      rw [if_neg fun hmatch => (hiff.mp hmatch).elim hexpects hstrays, hfound]
      refine ⟨found, msg :: left, rfl, Nat.succ_lt_succ hlength, ?_⟩
      rw [List.countP_cons, List.countP_cons, hcount]

/-- The queue and the semaphores after `takeEvent`. -/
lemma takeEvent_spec (signals : Bool) (e : ComponentEvent) (s : EventQueue) :
    (takeEvent signals e s).mEventSignalQ =
        ((takeMatch e s.mEventSignalQ).map Prod.snd).getD s.mEventSignalQ ∧
      (takeEvent signals e s).signalled =
        if signals then ((takeMatch e s.mEventSignalQ).map Prod.fst).elim s.signalled
          fun msg => signal msg s.signalled
        else s.signalled := by
  unfold takeEvent
  split
  · rename_i hfound
    simp only [hfound]
    cases signals <;> exact ⟨rfl, rfl⟩
  · rename_i msg rest hfound
    simp only [hfound]
    cases signals <;> exact ⟨rfl, rfl⟩

/-- The right message leaves the queue exactly if there is no stray one ahead. -/
lemma noStray_of_takesFirst {signals : Bool} {e : ComponentEvent} {s : EventQueue}
    {msg : Option Message}
    (h : TakesFirst e s.mEventSignalQ msg (takeEvent signals e s).mEventSignalQ) :
    NoStray e s.mEventSignalQ := by
  by_contra hstray
  obtain ⟨found, rest, hfound, hlength, hcount⟩ := takeMatch_of_stray s.semaphores hstray
  rw [(takeEvent_spec signals e s).1, hfound] at h
  -- a message that the event is meant for would be missing
  generalize hq : s.mEventSignalQ = q at h hlength hcount
  generalize hq' : ((some (found, rest)).map Prod.snd).getD q = q' at h
  obtain rfl : rest = q' := hq'
  cases h with
  | taken before msg after hbefore hmsg =>
    rw [List.countP_append, List.countP_append, List.countP_cons, if_pos hmsg] at hcount
    omega
  | absent _ hnone => exact lt_irrefl _ hlength

/-- `SignalEvent`. -/
lemma signals_iff (e : ComponentEvent) (s : EventQueue) :
    Signals (takeEvent true) e s ↔ NoStray e s.mEventSignalQ := by
  obtain ⟨hqueue, hsignalled⟩ := takeEvent_spec true e s
  constructor
  · rintro ⟨msg, htakes, -⟩
    exact noStray_of_takesFirst htakes
  · intro hno
    refine ⟨_, ?_, hsignalled⟩
    rw [hqueue]
    exact takesFirst_of_noStray s.semaphores hno

/-- `RemoveEvent`. -/
lemma removes_iff (e : ComponentEvent) (s : EventQueue) :
    Removes (takeEvent false) e s ↔ NoStray e s.mEventSignalQ := by
  obtain ⟨hqueue, hsignalled⟩ := takeEvent_spec false e s
  constructor
  · rintro ⟨msg, htakes, -⟩
    exact noStray_of_takesFirst htakes
  · intro hno
    refine ⟨(takeMatch e s.mEventSignalQ).map Prod.fst, ?_, hsignalled⟩
    rw [hqueue]
    exact takesFirst_of_noStray s.semaphores hno

/-- **The right waiter.** In both copies, `SignalEvent` takes the first message that is registered
for the event out of the queue, signalling its semaphore, and `RemoveEvent` takes it without
signalling, exactly if no message ahead of it has a code other than zero and other than the event's,
with data words that match.

**Proof sketch.** The loop takes the first message that is registered for the event or stray. If
that one is stray, the queue keeps all messages that are registered for the event, while it should
lose one or stay as long as it is. -/
theorem synchronises_iff (e : ComponentEvent) (s : EventQueue) :
    ((Signals OMXCameraAdapter.SignalEvent e s ↔ NoStray e s.mEventSignalQ) ∧
      (Removes OMXCameraAdapter.RemoveEvent e s ↔ NoStray e s.mEventSignalQ)) ∧
    (Signals OMXEventSyncList.SignalEvent e s ↔ NoStray e s.mEventSignalQ) ∧
      (Removes OMXEventSyncList.RemoveEvent e s ↔ NoStray e s.mEventSignalQ) :=
  ⟨⟨signals_iff e s, removes_iff e s⟩, signals_iff e s, removes_iff e s⟩

/-- A synchroniser without registrations. -/
def empty : EventQueue where
  mEventSignalQ := []
  signalled _ := 0
  semaphores := fun _ hm => absurd hm List.not_mem_nil

/-- A thread waits for changed settings of a port (event 3) with the semaphore at address 64; the
event that comes tells that the component has become idle. The thread is woken, and in the other
function its registration is removed. -/
theorem not_synchronises :
    let s := (empty.RegisterForEvent 1 ⟨3, 0, 0⟩ ⟨64, by decide⟩ (some ⟨0, 0, 0, 0, 0, 0⟩) true).2
    (¬Signals OMXCameraAdapter.SignalEvent ⟨0, 0, 2⟩ s ∧
      ¬Removes OMXCameraAdapter.RemoveEvent ⟨0, 0, 2⟩ s) ∧
    ¬Signals OMXEventSyncList.SignalEvent ⟨0, 0, 2⟩ s ∧
      ¬Removes OMXEventSyncList.RemoveEvent ⟨0, 0, 2⟩ s := by
  intro s
  have hstray : ¬NoStray ⟨0, 0, 2⟩ s.mEventSignalQ := fun hno => absurd hno.1 (by decide)
  exact ⟨⟨fun h => hstray ((signals_iff _ s).mp h), fun h => hstray ((removes_iff _ s).mp h)⟩,
    fun h => hstray ((signals_iff _ s).mp h), fun h => hstray ((removes_iff _ s).mp h)⟩

/-! ### Runs -/

/-- A call of one of the functions. -/
inductive EventCall
  | RegisterForEvent (hComponent : BitVec 32) (e : ComponentEvent) (semaphore : SemaphoreRef)
      (memory : Option Message) (added : Bool)
  | SignalEvent (e : ComponentEvent)
  | RemoveEvent (e : ComponentEvent)
  | FlushEvent

/-- One call. -/
def step (s : EventQueue) : EventCall → EventQueue
  | .RegisterForEvent hComponent e semaphore memory added =>
    (s.RegisterForEvent hComponent e semaphore memory added).2
  | .SignalEvent e => takeEvent true e s
  | .RemoveEvent e => takeEvent false e s
  | .FlushEvent => s.FlushEvent

/-- A registration is for the completion of a command, as in all calls of the source. -/
def ForCompletion (_ : EventQueue) : EventCall → Prop
  | .RegisterForEvent _ e _ _ _ => e.eEvent = 0#32
  | _ => True

/-- All messages are registered for the completion of a command. -/
def Completions (s : EventQueue) : Prop := ∀ msg ∈ s.mEventSignalQ, msg.command = 0#32

/-- A message that waits for the completion of a command is not stray. -/
lemma noStray_of_completions {e : ComponentEvent} {q : List Message}
    (h : ∀ msg ∈ q, msg.command = 0#32) : NoStray e q := by
  induction q with
  | nil => trivial
  | cons msg rest ih =>
    obtain ⟨hmsg, hrest⟩ := List.forall_mem_cons.mp h
    refine ⟨?_, Or.inr (ih hrest)⟩
    unfold Message.strays
    simp [hmsg]

/-- What an event leaves in the queue was in it. -/
lemma mem_of_takeEvent {signals : Bool} {e : ComponentEvent} {s : EventQueue} {m : Message}
    (hm : m ∈ (takeEvent signals e s).mEventSignalQ) : m ∈ s.mEventSignalQ := by
  rw [(takeEvent_spec signals e s).1] at hm
  cases hfound : takeMatch e s.mEventSignalQ with
  | none => rwa [hfound] at hm
  | some found =>
    rw [hfound] at hm
    exact mem_of_takeMatch hfound hm

/-- The messages of a run that registers for completions only. -/
lemma Completions.step {s : EventQueue} (h : Completions s) {a : EventCall}
    (hc : ForCompletion s a) : Completions (s.step a) := by
  cases a with
  | RegisterForEvent hComponent e semaphore memory added =>
    cases memory with
    | none => exact h
    | some memory =>
      cases added with
      | false => exact h
      | true =>
        intro msg hmsg
        rcases List.mem_append.mp hmsg with hmsg | hmsg
        · exact h msg hmsg
        · rw [List.mem_singleton.mp hmsg]
          exact hc
  | SignalEvent e => exact fun msg hmsg => h msg (mem_of_takeEvent hmsg)
  | RemoveEvent e => exact fun msg hmsg => h msg (mem_of_takeEvent hmsg)
  | FlushEvent => exact fun msg hmsg => absurd hmsg List.not_mem_nil

/-- **The waits of the source.** As long as all registrations are for the completion of a command,
every event is taken by the right waiter. -/
theorem always_synchronises {run : List EventCall}
    (h : StepRun.Along step ForCompletion empty run) :
    StepRun.Always step (fun s => ∀ e, Signals (takeEvent true) e s ∧
      Removes (takeEvent false) e s) empty run := by
  have hempty : Completions empty := fun _ hm => absurd hm List.not_mem_nil
  refine (StepRun.always_of_along (I := Completions) (fun _ _ h hc => h.step hc) hempty h).imp ?_
  intro s hs e
  exact ⟨(signals_iff e s).mpr (noStray_of_completions hs),
    (removes_iff e s).mpr (noStray_of_completions hs)⟩

/-! ### The encoder's registrations -/

/-- The words of a waiter of the encoder are 32-bit words. -/
def WaiterFits (w : Waiter) : Prop := w.command < 2 ^ 32 ∧ w.arg1 < 2 ^ 32 ∧ w.arg2 < 2 ^ 32

/-- The words of an event are 32-bit words. -/
def EventFits (e : OmxEvent) : Prop := e.eEvent < 2 ^ 32 ∧ e.nData1 < 2 ^ 32 ∧ e.nData2 < 2 ^ 32

/-- An event of the encoder. -/
def ofOmxEvent (e : OmxEvent) : ComponentEvent :=
  ⟨BitVec.ofNat 32 e.eEvent, BitVec.ofNat 32 e.nData1, BitVec.ofNat 32 e.nData2⟩

/-- The message of a waiter of the encoder, whose semaphores have the given addresses. -/
def ofWaiter (address : VceSem → SemaphoreRef) (w : Waiter) : Message where
  command := BitVec.ofNat 32 w.command
  arg1 := BitVec.ofNat 32 w.arg1
  arg2 := BitVec.ofNat 32 w.arg2
  arg3 := address w.arg3
  arg4 := 0
  id := 0

/-- The registrations of the encoder as a queue of messages; a semaphore was signalled by as many
events as its count says. -/
structure Represents (address : VceSem → SemaphoreRef) (l : OMXEventSyncList) (s : EventQueue) :
    Prop where
  queue : s.mEventSignalQ = l.mEventSignalQ.map (ofWaiter address)
  signalled : ∀ sem, s.signalled (address sem) = (l.signalled sem).length

/-- Words that fit are told apart. -/
lemma ofNat_eq_ofNat_iff {a b : ℕ} (ha : a < 2 ^ 32) (hb : b < 2 ^ 32) :
    BitVec.ofNat 32 a = BitVec.ofNat 32 b ↔ a = b := by
  constructor
  · intro heq
    have hnat := congrArg BitVec.toNat heq
    rwa [BitVec.toNat_ofNat, BitVec.toNat_ofNat, Nat.mod_eq_of_lt ha, Nat.mod_eq_of_lt hb] at hnat
  · exact congrArg _

/-- The test is that of the encoder's waiters. -/
lemma matchesEvent_ofWaiter (address : VceSem → SemaphoreRef) {w : Waiter} {e : OmxEvent}
    (hw : WaiterFits w) (he : EventFits e) :
    (ofWaiter address w).matchesEvent (ofOmxEvent e) = w.awaits e := by
  obtain ⟨hcommand, harg1, harg2⟩ := hw
  obtain ⟨hevent, hdata1, hdata2⟩ := he
  have hzero : 0 < 2 ^ 32 := by decide
  unfold Message.matchesEvent Waiter.awaits ofWaiter ofOmxEvent
  simp only [ne_eq, ofNat_eq_ofNat_iff, hcommand, harg1, harg2, hevent, hdata1, hdata2, hzero,
    (address w.arg3).2, not_false_eq_true, decide_true, Bool.and_true]

/-- The loop takes the waiter that the encoder's model takes. -/
lemma takeMatch_map (address : VceSem → SemaphoreRef) {q : List Waiter} {e : OmxEvent}
    (hq : ∀ w ∈ q, WaiterFits w) (he : EventFits e) :
    takeMatch (ofOmxEvent e) (q.map (ofWaiter address)) = (q.find? (·.awaits e)).map fun w =>
      (ofWaiter address w, (q.eraseP (·.awaits e)).map (ofWaiter address)) := by
  induction q with
  | nil => rfl
  | cons w rest ih =>
    obtain ⟨hw, hrest⟩ := List.forall_mem_cons.mp hq
    rw [List.map_cons, takeMatch, matchesEvent_ofWaiter address hw he, List.find?_cons,
      List.eraseP_cons]
    cases hawaits : w.awaits e with
    | true => rfl
    | false =>
      simp only [Bool.false_eq_true, if_false]
      rw [ih hrest, Option.map_map]
      rfl

/-- **The encoder's copy.** `SignalEvent` and `RemoveEvent` of the encoder's model are those of the
queue. -/
theorem represents_takeEvent {address : VceSem → SemaphoreRef} {l : OMXEventSyncList}
    {s : EventQueue} {e : OmxEvent} (haddress : Function.Injective address)
    (h : Represents address l s) (hl : ∀ w ∈ l.mEventSignalQ, WaiterFits w) (he : EventFits e) :
    Represents address (l.SignalEvent e) (takeEvent true (ofOmxEvent e) s) ∧
      Represents address (l.RemoveEvent e) (takeEvent false (ofOmxEvent e) s) := by
  have htake := takeMatch_map address hl he
  rw [← h.queue] at htake
  obtain ⟨hqueue, hsignalled⟩ := takeEvent_spec true (ofOmxEvent e) s
  obtain ⟨hqueue', hsignalled'⟩ := takeEvent_spec false (ofOmxEvent e) s
  rw [htake] at hqueue hsignalled hqueue'
  unfold CameraHal.OMXEventSyncList.SignalEvent CameraHal.OMXEventSyncList.RemoveEvent
  cases hfind : l.mEventSignalQ.find? (·.awaits e) with
  | none =>
    rw [hfind] at hqueue hsignalled hqueue'
    have hsame : l.mEventSignalQ.eraseP (·.awaits e) = l.mEventSignalQ :=
      List.eraseP_of_forall_not (by simpa using hfind)
    refine ⟨⟨hqueue.trans h.queue, fun sem => ?_⟩, ⟨?_, fun sem => ?_⟩⟩
    · rw [hsignalled]
      exact h.signalled sem
    · rw [hsame]
      exact hqueue'.trans h.queue
    · rw [hsignalled']
      exact h.signalled sem
  | some w =>
    rw [hfind] at hqueue hsignalled hqueue'
    refine ⟨⟨hqueue, fun sem => ?_⟩, ⟨hqueue', fun sem => ?_⟩⟩
    · rw [hsignalled]
      show Function.update s.signalled (address w.arg3).1 _ (address sem).1 =
        (Function.update l.signalled w.arg3 _ sem).length
      by_cases hsem : sem = w.arg3
      · subst hsem
        rw [Function.update_self, Function.update_self, List.length_append]
        exact congrArg (· + 1) (h.signalled _)
      · have hne : (address sem).1 ≠ (address w.arg3).1 := fun heq =>
          hsem (haddress (Subtype.ext heq))
        rw [Function.update_of_ne hne, Function.update_of_ne hsem]
        exact h.signalled sem
    · rw [hsignalled']
      exact h.signalled sem

end EventQueue

end CameraHal
