import Gs702aHal.Camera.Types
import Gs702aHal.Lib.StepRun
import Mathlib.Data.Int.Basic

set_option relaxedAutoImplicit false
set_option autoImplicit false

/-!
# The message queue

`MessageQueue` hands `Message` objects from thread to thread through a pipe. `put` and `get` loop
over `write` and `read`, which may transfer fewer bytes than they are asked for. The model has
any number of threads; they interleave at the system calls, and the result of each system call is
part of the run.

## Main definitions

* `CameraHal.MessageObject`, `CameraHal.Message.ofBytes` — the 32 bytes of a `Message` on the
  32-bit target, and its fields.
* `CameraHal.QueueRun`, `CameraHal.QueueRun.step` — the queue, the pipe and the calls in
  progress; one entry into a call or one system call.
* `CameraHal.QueueRun.Faithful` — the `k`-th message got is the `k`-th message put, nothing
  outside the objects is written, and `get` fails at the end of the file.

## Main results

* `CameraHal.QueueRun.aligned_step` — whole transfers keep the pipe at the border of a message.
* `CameraHal.QueueRun.faithful_of_whole` — the queue is faithful as long as every system call
  transfers a whole message or fails.
-/

namespace CameraHal

open Status

/-- `sizeof(Message)`: five words, four bytes of padding and a 64-bit integer. -/
def SIZEOF_MESSAGE : ℕ := 32

/-- `sizeof(Message *)`. -/
def SIZEOF_POINTER : ℕ := 4

/-- `struct Message`. -/
structure Message where
  command : BitVec 32
  arg1 : BitVec 32
  arg2 : BitVec 32
  arg3 : BitVec 32
  arg4 : BitVec 32
  id : BitVec 64
  deriving DecidableEq, Repr

/-- The bytes that a `Message` occupies in memory, padding included. -/
structure MessageObject where
  bytes : List Byte
  length_bytes : bytes.length = SIZEOF_MESSAGE
  deriving DecidableEq

namespace Message

/-- The number that bytes stand for, the least significant first. -/
def littleEndian : List Byte → ℕ
  | [] => 0
  | b :: bytes => b.toNat + 256 * littleEndian bytes

/-- The `w`-bit integer at an offset. -/
def field (w offset : ℕ) (bytes : List Byte) : BitVec w :=
  BitVec.ofNat w (littleEndian ((bytes.drop offset).take (w / 8)))

/-- The fields of the object with the given bytes; `id` is aligned to eight bytes. -/
def ofBytes (bytes : List Byte) : Message where
  command := field 32 0 bytes
  arg1 := field 32 4 bytes
  arg2 := field 32 8 bytes
  arg3 := field 32 12 bytes
  arg4 := field 32 16 bytes
  id := field 64 24 bytes

end Message

/-! ### Memory -/

/-- The memory that the callers of `get` receive messages in. -/
abbrev Memory := Ptr → Byte

namespace Memory

/-- Store bytes from an address on. -/
def store (memory : Memory) (p : ℕ) (bytes : List Byte) : Memory :=
  fun (a : ℕ) => if p ≤ a then (bytes[a - p]?).getD (memory a) else memory a

/-- The address lies in the `Message` object at `msg`. -/
def InObject (msg a : ℕ) : Prop := msg ≤ a ∧ a < msg + SIZEOF_MESSAGE

/-- The bytes of the `Message` object at an address. -/
def objectAt (memory : Memory) (msg : Ptr) : List Byte :=
  (List.range SIZEOF_MESSAGE).map fun i => memory (msg + i)

/-- What lies outside the bytes that are stored stays. -/
lemma store_outside (memory : Memory) {p a : ℕ} {bytes : List Byte}
    (ha : ¬ (p ≤ a ∧ a < p + bytes.length)) : store memory p bytes a = memory a := by
  unfold store
  by_cases hp : p ≤ a
  · have hlen : bytes.length ≤ a - p := by omega
    rw [if_pos hp, List.getElem?_eq_none hlen, Option.getD_none]
  · rw [if_neg hp]

/-- A whole object that was stored is read back. -/
lemma objectAt_store (memory : Memory) (msg : Ptr) {bytes : List Byte}
    (hlen : bytes.length = SIZEOF_MESSAGE) : objectAt (store memory msg bytes) msg = bytes := by
  apply List.ext_getElem
  · simp [objectAt, hlen]
  · intro i _ hi
    simp [objectAt, store, hi]

end Memory

/-! ### The calls -/

/-- `MessageQueue`: the descriptors of the pipe, and the flag of the last `poll`. -/
structure MessageQueue where
  fd_read : ℤ
  fd_write : ℤ
  mHasMsg : Bool

/-- The result of a `write` or a `read`: the number of bytes transferred, or an error. A `read`
that transfers none reports the end of the file. -/
inductive Transfer
  | moved (n : ℕ)
  | failed

/-- Where a thread is: out of the queue, with the status of its last call, or at the system call
in the loop of `put` or `get`. -/
inductive Call
  | returned (status : Status)
  | putting (msg : MessageObject) (bytes : ℕ)
  | getting (msg : Ptr) (read_bytes : ℕ)
  deriving DecidableEq

/-- A thread of the camera HAL. -/
abbrev Thread := ℕ

/-- The queue with its pipe, the calls in progress, and the messages put and got by the calls that
were successful. -/
structure QueueRun where
  queue : MessageQueue
  pipe : List Byte
  memory : Memory
  calls : Thread → Call
  puts : List Message
  gets : List Message

namespace QueueRun

/-- A thread enters `put` or `get`, passes a system call there, or polls the queue; `poll` tells
whether the `poll` of `isEmpty` succeeds. -/
inductive Action
  | put (t : Thread) (msg : Option MessageObject)
  | write (t : Thread) (result : Transfer)
  | get (t : Thread) (msg : Ptr)
  | read (t : Thread) (result : Transfer)
  | isEmpty (poll : Bool)

/-- Move a thread. -/
def goto (s : QueueRun) (t : Thread) (call : Call) : QueueRun :=
  { s with calls := Function.update s.calls t call }

/-- `put` up to its loop. -/
def put (t : Thread) (msg : Option MessageObject) (s : QueueRun) : QueueRun :=
  match msg with
  | none => s.goto t (.returned BAD_VALUE)
  | some msg =>
    if s.queue.fd_write = 0 then s.goto t (.returned NO_INIT) else s.goto t (.putting msg 0)

/-- One pass of the loop of `put`. The pointer `p` is not advanced, and the loop ends after
`sizeof(msg)` bytes, the size of the pointer. -/
def write (t : Thread) (msg : MessageObject) (bytes : ℕ) (result : Transfer) (s : QueueRun) :
    QueueRun :=
  match result with
  | .failed => s.goto t (.returned UNKNOWN_ERROR)
  | .moved n =>
    let s := { s with pipe := s.pipe ++ msg.bytes.take n }
    if bytes + n < SIZEOF_POINTER then
      s.goto t (.putting msg (bytes + n))
    else
      { s with puts := s.puts ++ [Message.ofBytes msg.bytes] }.goto t (.returned NO_ERROR)

/-- `get` up to its loop. -/
def get (t : Thread) (msg : Ptr) (s : QueueRun) : QueueRun :=
  if msg = NULL then s.goto t (.returned BAD_VALUE)
  else if s.queue.fd_read = 0 then s.goto t (.returned NO_INIT)
  else s.goto t (.getting msg 0)

/-- One pass of the loop of `get`. The pointer `p` is not advanced, and the end of the file is a
transfer of no bytes. -/
def read (t : Thread) (msg : Ptr) (read_bytes : ℕ) (result : Transfer) (s : QueueRun) :
    QueueRun :=
  match result with
  | .failed => s.goto t (.returned UNKNOWN_ERROR)
  | .moved n =>
    let s := { s with memory := s.memory.store msg (s.pipe.take n), pipe := s.pipe.drop n }
    if read_bytes + n < SIZEOF_MESSAGE then
      s.goto t (.getting msg (read_bytes + n))
    else
      { s with
        queue := { s.queue with mHasMsg := false }
        gets := s.gets ++ [Message.ofBytes (s.memory.objectAt msg)] }.goto t (.returned NO_ERROR)

/-- `isEmpty`: the flag that `poll` sets, kept if there is no descriptor or `poll` fails. -/
def isEmpty (poll : Bool) (s : QueueRun) : QueueRun :=
  if s.queue.fd_read = 0 ∨ poll = false then s
  else { s with queue := { s.queue with mHasMsg := !s.pipe.isEmpty } }

/-- What `write` may do when asked for `32 - bytes` bytes: it fails, or it transfers some of
them. -/
def CanWrite (bytes : ℕ) : Transfer → Prop
  | .moved n => 0 < n ∧ n ≤ SIZEOF_MESSAGE - bytes
  | .failed => True

/-- What `read` may do when asked for `32 - read_bytes` bytes: it fails, it transfers some of
them, or it reports the end of the file when the pipe is empty. -/
def CanRead (pipe : List Byte) (read_bytes : ℕ) : Transfer → Prop
  | .moved n => n ≤ SIZEOF_MESSAGE - read_bytes ∧ n ≤ pipe.length ∧ (n = 0 → pipe = [])
  | .failed => True

instance (bytes : ℕ) (result : Transfer) : Decidable (CanWrite bytes result) := by
  cases result <;> unfold CanWrite <;> infer_instance

instance (pipe : List Byte) (read_bytes : ℕ) (result : Transfer) :
    Decidable (CanRead pipe read_bytes result) := by
  cases result <;> unfold CanRead <;> infer_instance

/-- One action. A thread enters a call only from outside the queue, and only the results that the
system calls permit are steps; anything else leaves the state as it is. -/
def step (s : QueueRun) : Action → QueueRun
  | .put t msg =>
    match s.calls t with
    | .returned _ => s.put t msg
    | _ => s
  | .write t result =>
    match s.calls t with
    | .putting msg bytes => if CanWrite bytes result then s.write t msg bytes result else s
    | _ => s
  | .get t msg =>
    match s.calls t with
    | .returned _ => s.get t msg
    | _ => s
  | .read t result =>
    match s.calls t with
    | .getting msg read_bytes =>
      if CanRead s.pipe read_bytes result then s.read t msg read_bytes result else s
    | _ => s
  | .isEmpty poll => s.isEmpty poll

/-- A queue with the given descriptors; the constructor sets both to `0` if it gets no pipe. -/
def start (fd_read fd_write : ℤ) (memory : Memory) : QueueRun where
  queue := ⟨fd_read, fd_write, false⟩
  pipe := []
  memory := memory
  calls := fun _ => .returned NO_ERROR
  puts := []
  gets := []

/-! ### What the queue is for -/

/-- The messages got so far are the first ones of the messages put, in their order and field for
field. -/
def Fifo (s : QueueRun) : Prop := s.gets <+: s.puts

/-- The step writes no byte outside the object of the `get` that it belongs to. -/
def KeepsOutside (s : QueueRun) (a : Action) : Prop :=
  ∀ p, (∀ t result msg read_bytes, a = .read t result → s.calls t = .getting msg read_bytes →
    ¬ Memory.InObject msg p) → (s.step a).memory p = s.memory p

/-- A `get` whose `read` reports the end of the file ends with an error. -/
def EndsAtEof (s : QueueRun) (a : Action) : Prop :=
  ∀ t msg read_bytes, a = .read t (.moved 0) → s.calls t = .getting msg read_bytes →
    s.pipe = [] → ∃ status, (s.step a).calls t = .returned status ∧ status ≠ NO_ERROR

/-- The step is a `read` in a `get` that reports the end of the file. -/
def ReportsEof (s : QueueRun) (a : Action) : Prop :=
  ∃ t msg read_bytes, a = .read t (.moved 0) ∧ s.calls t = .getting msg read_bytes ∧ s.pipe = []

/-- The queue works throughout a run. -/
structure Faithful (s : QueueRun) (run : List Action) : Prop where
  fifo : StepRun.Always step Fifo s run
  outside : StepRun.Along step KeepsOutside s run
  eof : StepRun.Along step EndsAtEof s run

/-- The action's system call, if any, transfers the bytes of a whole message or fails. -/
def Action.Whole : Action → Prop
  | .write _ (.moved n) => n = SIZEOF_MESSAGE
  | .read _ (.moved n) => n = SIZEOF_MESSAGE
  | _ => True

/-! ### Whole transfers -/

/-- The pipe holds the messages that were put and not got, no call is half-way. -/
structure Aligned (s : QueueRun) : Prop where
  pending : ∃ msgs : List MessageObject, s.pipe = (msgs.map MessageObject.bytes).flatten ∧
    s.puts = s.gets ++ msgs.map fun msg => Message.ofBytes msg.bytes
  putting : ∀ t msg bytes, s.calls t = .putting msg bytes → bytes = 0
  getting : ∀ t msg read_bytes, s.calls t = .getting msg read_bytes → read_bytes = 0

/-- A pipe of whole messages delivers them in order. -/
lemma Aligned.fifo {s : QueueRun} (h : Aligned s) : Fifo s := by
  obtain ⟨msgs, -, hputs⟩ := h.pending
  exact ⟨_, hputs.symm⟩

/-- A new queue is aligned. -/
lemma aligned_start (fd_read fd_write : ℤ) (memory : Memory) :
    Aligned (start fd_read fd_write memory) where
  pending := ⟨[], rfl, rfl⟩
  putting := by intro t msg bytes hcall; cases hcall
  getting := by intro t msg read_bytes hcall; cases hcall

/-- An aligned queue stays aligned when a thread enters or leaves a call and the messages pending
are the ones between those put and those got. -/
lemma Aligned.goto {s s' : QueueRun} (h : Aligned s) {t : Thread} {call : Call}
    (hcalls : s'.calls = Function.update s.calls t call)
    (hput : ∀ msg bytes, call = .putting msg bytes → bytes = 0)
    (hget : ∀ msg read_bytes, call = .getting msg read_bytes → read_bytes = 0)
    (hpending : ∃ msgs : List MessageObject, s'.pipe = (msgs.map MessageObject.bytes).flatten ∧
      s'.puts = s'.gets ++ msgs.map fun msg => Message.ofBytes msg.bytes) : Aligned s' := by
  refine ⟨hpending, ?_, ?_⟩
  · intro u msg bytes hu
    rw [hcalls, Function.update_apply] at hu
    split_ifs at hu
    · exact hput msg bytes hu
    · exact h.putting u msg bytes hu
  · intro u msg read_bytes hu
    rw [hcalls, Function.update_apply] at hu
    split_ifs at hu
    · exact hget msg read_bytes hu
    · exact h.getting u msg read_bytes hu

/-- A thread that returns leaves an aligned queue aligned. -/
lemma Aligned.returned {s : QueueRun} (h : Aligned s) (t : Thread) (status : Status) :
    Aligned (s.goto t (.returned status)) :=
  h.goto rfl (fun _ _ hcall => by cases hcall) (fun _ _ hcall => by cases hcall) h.pending

/-- A `write` of a whole message appends it to the pending ones. -/
lemma Aligned.write {s : QueueRun} (h : Aligned s) (t : Thread) (msg : MessageObject) :
    Aligned (s.write t msg 0 (.moved SIZEOF_MESSAGE)) := by
  obtain ⟨msgs, hpipe, hputs⟩ := h.pending
  have htake : msg.bytes.take SIZEOF_MESSAGE = msg.bytes :=
    List.take_of_length_le msg.length_bytes.le
  refine h.goto rfl (fun _ _ hcall => by cases hcall) (fun _ _ hcall => by cases hcall) ?_
  refine ⟨msgs ++ [msg], ?_, ?_⟩
  · show s.pipe ++ msg.bytes.take SIZEOF_MESSAGE = _
    simp [hpipe, htake]
  · show s.puts ++ [Message.ofBytes msg.bytes] = _
    simp [hputs]
    rfl

/-- A `read` of a whole message takes the first pending one.

**Proof sketch.** The pipe is not empty, so it starts with the bytes of a message; they are stored
in the object from its first byte on, which then has the fields of that message. -/
lemma Aligned.read {s : QueueRun} (h : Aligned s) (t : Thread) (msg : Ptr)
    (hlen : SIZEOF_MESSAGE ≤ s.pipe.length) :
    Aligned (s.read t msg 0 (.moved SIZEOF_MESSAGE)) := by
  obtain ⟨msgs, hpipe, hputs⟩ := h.pending
  cases msgs with
  | nil =>
    rw [hpipe] at hlen
    exact absurd hlen (by decide)
  | cons first msgs =>
    have htake : s.pipe.take SIZEOF_MESSAGE = first.bytes := by
      rw [hpipe, List.map_cons, List.flatten_cons, ← first.length_bytes, List.take_left]
    have hdrop : s.pipe.drop SIZEOF_MESSAGE = (msgs.map MessageObject.bytes).flatten := by
      rw [hpipe, List.map_cons, List.flatten_cons, ← first.length_bytes, List.drop_left]
    refine h.goto rfl (fun _ _ hcall => by cases hcall) (fun _ _ hcall => by cases hcall) ?_
    refine ⟨msgs, hdrop, ?_⟩
    show s.puts = (s.gets ++ [Message.ofBytes
      ((s.memory.store msg (s.pipe.take SIZEOF_MESSAGE)).objectAt msg)]) ++ _
    rw [htake, Memory.objectAt_store _ _ first.length_bytes, hputs, List.append_assoc]
    rfl

/-- **Whole transfers keep the queue aligned**, whatever the threads do otherwise. -/
lemma aligned_step {s : QueueRun} (h : Aligned s) {a : Action} (ha : a.Whole) :
    Aligned (s.step a) := by
  cases a with
  | put t msg =>
    simp only [step]
    split
    · cases msg with
      | none => exact h.returned t BAD_VALUE
      | some msg =>
        simp only [put]
        split_ifs
        · exact h.returned t NO_INIT
        · exact h.goto rfl (fun _ _ hcall => by cases hcall; rfl)
            (fun _ _ hcall => by cases hcall) h.pending
    · exact h
  | write t result =>
    simp only [step]
    split
    case h_1 msg bytes hcall =>
      obtain rfl := h.putting t msg bytes hcall
      split_ifs
      · cases result with
        | failed => exact h.returned t UNKNOWN_ERROR
        | moved n =>
          obtain rfl : n = SIZEOF_MESSAGE := ha
          exact h.write t msg
      · exact h
    case h_2 => exact h
  | get t msg =>
    simp only [step]
    split
    · simp only [get]
      split_ifs
      · exact h.returned t BAD_VALUE
      · exact h.returned t NO_INIT
      · exact h.goto rfl (fun _ _ hcall => by cases hcall)
          (fun _ _ hcall => by cases hcall; rfl) h.pending
    · exact h
  | read t result =>
    simp only [step]
    split
    case h_1 msg read_bytes hcall =>
      obtain rfl := h.getting t msg read_bytes hcall
      split_ifs with hcan
      · cases result with
        | failed => exact h.returned t UNKNOWN_ERROR
        | moved n =>
          obtain rfl : n = SIZEOF_MESSAGE := ha
          exact h.read t msg hcan.2.1
      · exact h
    case h_2 => exact h
  | isEmpty poll =>
    simp only [step, isEmpty]
    split_ifs
    · exact h
    · exact ⟨h.pending, h.putting, h.getting⟩

/-! ### Memory and the end of the file -/

/-- No step writes outside the object of its `get`, however the messages are split. -/
lemma keepsOutside (s : QueueRun) (a : Action) : KeepsOutside s a := by
  intro p hp
  cases a with
  | put t msg =>
    simp only [step, put]
    split
    · cases msg with
      | none => rfl
      | some msg => simp only; split_ifs <;> rfl
    · rfl
  | write t result =>
    simp only [step]
    split
    · split_ifs
      · cases result with
        | failed => rfl
        | moved n => simp only [write]; split_ifs <;> rfl
      · rfl
    · rfl
  | get t msg =>
    simp only [step, get]
    split
    · split_ifs <;> rfl
    · rfl
  | read t result =>
    simp only [step]
    split
    case h_1 msg read_bytes hcall =>
      split_ifs with hcan
      · cases result with
        | failed => rfl
        | moved n =>
          have hout := hp t (.moved n) msg read_bytes rfl hcall
          have hsame : s.memory.store msg (s.pipe.take n) p = s.memory p := by
            apply Memory.store_outside
            intro hin
            apply hout
            have hn := hcan.1
            have hlen := List.length_take_le n s.pipe
            unfold Memory.InObject
            omega
          simp only [read]
          split_ifs <;> exact hsame
      · rfl
    case h_2 => rfl
  | isEmpty poll =>
    simp only [step, isEmpty]
    split_ifs <;> rfl

/-- A `get` that is told the end of the file never ends with an error: the steps that meet the
requirement on the end of the file are exactly those that do not report it. -/
lemma endsAtEof_iff (s : QueueRun) (a : Action) : EndsAtEof s a ↔ ¬ ReportsEof s a := by
  constructor
  · rintro h ⟨t, msg, read_bytes, rfl, hcall, hpipe⟩
    obtain ⟨status, hreturned, herror⟩ := h t msg read_bytes rfl hcall hpipe
    have hcan : CanRead s.pipe read_bytes (.moved 0) :=
      ⟨Nat.zero_le _, Nat.zero_le _, fun _ => hpipe⟩
    simp only [step, hcall, if_pos hcan, read] at hreturned
    -- the loop goes on, or ends as if the object had been read
    split_ifs at hreturned
    · simp [goto] at hreturned
    · simp only [goto, Function.update_self, Call.returned.injEq] at hreturned
      exact herror hreturned.symm
  · intro h t msg read_bytes ha hcall hpipe
    exact absurd ⟨t, msg, read_bytes, ha, hcall, hpipe⟩ h

/-- **Whole transfers make the queue faithful.** In every run of any number of threads in which
every system call transfers the bytes of a whole message or fails, the messages got are the first
of the messages put, no byte outside the objects is written, and no `get` is left waiting at the
end of the file.

**Proof sketch.** The pipe stays at the border of a message. Memory is safe in any run, and a
`read` that reports the end of the file transfers no whole message. -/
theorem faithful_of_whole (fd_read fd_write : ℤ) (memory : Memory) {run : List Action}
    (hrun : StepRun.Along step (fun _ a => a.Whole) (start fd_read fd_write memory) run) :
    Faithful (start fd_read fd_write memory) run where
  fifo := by
    have haligned := StepRun.always_of_along (I := Aligned) (fun _ _ h ha => aligned_step h ha)
      (aligned_start fd_read fd_write memory) hrun
    rw [StepRun.always_iff_prefix] at haligned ⊢
    intro pre hpre
    exact (haligned pre hpre).fifo
  outside := hrun.imp fun s a _ => keepsOutside s a
  eof := hrun.imp fun s a ha => (endsAtEof_iff s a).mpr <| by
    rintro ⟨t, msg, read_bytes, rfl, -, -⟩
    exact absurd ha (by decide : 0 ≠ SIZEOF_MESSAGE)

/-! ### Transfers of other sizes -/

/-- The object with the bytes `0`, `1`, … `31`. -/
def countingObject : MessageObject := ⟨(List.range SIZEOF_MESSAGE).map (BitVec.ofNat 8), by simp⟩

/-- The object of which all bytes are set. -/
def fullObject : MessageObject := ⟨List.replicate SIZEOF_MESSAGE 0xFF#8, List.length_replicate⟩

/-- A queue with a pipe, and memory of zeros. -/
def fresh : QueueRun := start 3 4 fun _ => 0#8

/-- Two messages are put, the first of them in pieces if `write` transfers `n` bytes of it, and
one is got. -/
def shortWrite (n : ℕ) : List Action :=
  [.put 1 (some countingObject), .write 1 (.moved n), .write 1 (.moved (SIZEOF_MESSAGE - n)),
    .put 1 (some fullObject), .write 1 (.moved SIZEOF_MESSAGE),
    .get 2 100, .read 2 (.moved SIZEOF_MESSAGE)]

/-- A message is put, and got in two pieces of which the first has `n` bytes. -/
def shortRead (n : ℕ) : List Action :=
  [.put 1 (some countingObject), .write 1 (.moved SIZEOF_MESSAGE),
    .get 2 100, .read 2 (.moved n), .read 2 (.moved (SIZEOF_MESSAGE - n))]

instance (s : QueueRun) : Decidable (Fifo s) := inferInstanceAs (Decidable (s.gets <+: s.puts))

/-- A message got in one piece, while another thread is refused and a `write` fails. -/
theorem faithful_oneMessage : Faithful fresh
    [.put 1 (some countingObject), .put 3 none, .write 1 (.moved SIZEOF_MESSAGE),
      .put 3 (some fullObject), .write 3 .failed, .get 2 100,
      .read 2 (.moved SIZEOF_MESSAGE)] :=
  faithful_of_whole 3 4 (fun _ => 0#8)
    ⟨trivial, trivial, rfl, trivial, trivial, trivial, rfl, trivial⟩

/-- No size of a transfer but the whole one is harmless: if a single `write`, or a single `read`,
transfers fewer bytes, a message arrives that was not put. -/
theorem not_fifo_short (n : ℕ) (hpos : 0 < n) (hn : n < SIZEOF_MESSAGE) :
    ¬ Fifo (StepRun.final step fresh (shortWrite n)) ∧
      ¬ Fifo (StepRun.final step fresh (shortRead n)) := by
  have hall : (List.range SIZEOF_MESSAGE).all fun n => 0 < n →
      ¬ Fifo (StepRun.final step fresh (shortWrite n)) ∧
        ¬ Fifo (StepRun.final step fresh (shortRead n)) := by decide +kernel
  exact of_decide_eq_true (List.all_eq_true.mp hall n (List.mem_range.mpr hn)) hpos

/-- A message of which `read` delivers the first half and then the second is not got as it was
put, a `put` of which `write` takes the first four bytes succeeds, and a `get` at the end of the
file does not end. -/
theorem not_faithful_pieces : ¬ Faithful fresh (shortRead 16) ∧ ¬ Faithful fresh (shortWrite 4) ∧
    ¬ Faithful fresh [.get 2 100, .read 2 (.moved 0)] := by
  refine ⟨fun h => ?_, fun h => ?_, fun h => ?_⟩
  · exact absurd h.fifo.last (by decide +kernel)
  · exact absurd h.fifo.last (by decide +kernel)
  · exact (endsAtEof_iff _ _).mp h.eof.2.1 ⟨2, 100, 0, rfl, rfl, rfl⟩

end QueueRun

end CameraHal
