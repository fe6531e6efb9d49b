import Gs702aHal.Camera.StreamHub

set_option relaxedAutoImplicit false
set_option autoImplicit false

/-!
# Sending a frame to the subscribers

`CameraStreamHub::sendFrame` delivers a frame once for every frame type of a mask and every
subscriber of that type. Each delivery takes a reference on the buffer and then calls the
subscriber with the lock of the stream released, so that frames may be returned at any point
between two deliveries. The run of the hub keeps a ledger of the deliveries whose reference
has not been given back; the ledger is no part of the program and decides nothing in it.

Other activity during a `sendFrame` enters at numbered turns: turn `2k` is between the
reference and the callback of delivery `k`, and turn `2k + 1` lasts from that callback until
the next reference is taken, or for ever after the last delivery.

## Main definitions

* `CameraHal.Delivery`, `CameraHal.HubRun` — the ledger and the hub together with it.
* `CameraHal.HubRun.acquire`, `call`, `drop`, `returned` — the steps.
* `CameraHal.HubRun.sendFrame` — the function of the source.
* `CameraHal.CameraStreamHub.rounds` — the deliveries of a `sendFrame`.
* `CameraHal.HubRun.AccountedAt` — the reference counts of a buffer are those of the ledger.

## Main results

* `CameraHal.HubRun.sendFrame_eq_foldl` — `sendFrame` makes the deliveries of
  `CameraStreamHub.rounds`, one after the other.
* `CameraHal.HubRun.AccountedAt.acquire`, `AccountedAt.drop` — the ledger is kept.
* `CameraHal.HubRun.AccountedAt.drop_log` — a drop hands the buffer back exactly if no other
  reference is left on it.
-/

namespace CameraHal

open Status

/-- A delivery whose reference has not been given back. -/
structure Delivery where
  /-- The number of the delivery. -/
  round : ℕ
  /-- The frame as it is passed to the callback. -/
  frame : CameraFrame
  /-- The callback has been entered. -/
  called : Bool
  /-- The subscription that the frame was delivered under has not ended. -/
  live : Bool
  deriving DecidableEq, Repr

/-- The hub, the ledger of the references taken for deliveries, the number of deliveries made
so far, and what has crossed the interface. -/
structure HubRun where
  /-- The hub. -/
  hub : CameraStreamHub
  /-- The deliveries whose reference has not been given back. -/
  held : List Delivery
  /-- The number of the next delivery. -/
  rounds : ℕ
  /-- The events so far, the latest last. -/
  log : List HubEvent
  deriving DecidableEq

/-- One pass of the loop of `CameraStream::sendFrame`: the frame as it is passed, and the
callback, possibly `NULL`. -/
structure Round where
  /-- The frame with the type, the cookie and the mapped address filled in. -/
  frame : CameraFrame
  /-- The subscriber's callback. -/
  callback : Ptr
  deriving DecidableEq, Repr

/-- What happens at each turn of a `sendFrame`. -/
abbrev Turns := ℕ → HubRun → HubRun

namespace HubRun

/-- A hub before its first delivery. -/
def start (hub : CameraStreamHub) : HubRun := ⟨hub, [], 0, []⟩

/-- A delivery takes its reference. -/
def acquire (st : HubRun) (frame : CameraFrame) : HubRun :=
  { st with
    hub := st.hub.incRefCount frame.mStreamType frame.mBuffer frame.mFrameType
    held := st.held ++ [⟨st.rounds, frame, false, true⟩]
    rounds := st.rounds + 1 }

/-- The open delivery of a given number. -/
def find? (st : HubRun) (k : ℕ) : Option Delivery := st.held.find? (·.round = k)

/-- The note that the callback of a delivery has been entered. -/
def markCalled (k : ℕ) (d : Delivery) : Delivery :=
  if d.round = k then { d with called := true } else d

/-- The callback of a delivery is entered. -/
def call (st : HubRun) (k : ℕ) (callback : Ptr) (frame : CameraFrame) : HubRun :=
  { st with
    held := st.held.map (markCalled k)
    log := st.log ++ [.callback k callback frame] }

/-- The reference of a delivery is dropped: `decRefCount` on its buffer. -/
def drop (st : HubRun) (d : Delivery) : HubRun :=
  let (hub, events) :=
    st.hub.returnFrame d.frame.mBuffer d.frame.mFrameType (some d.frame.mStreamType)
  { st with hub := hub, held := st.held.erase d, log := st.log ++ events }

/-- A consumer returns the frame of a delivery that it has been called for. -/
def returned (st : HubRun) (k : ℕ) : HubRun :=
  match st.find? k with
  | some d =>
    if d.called then drop { st with log := st.log ++ [.returned k] } d else st
  | none => st

/-- One pass of the loop of `CameraStream::sendFrame`. A `NULL` callback gives the reference
back at once. -/
def deliver (turns : Turns) (st : HubRun) (r : Round) : HubRun :=
  let k := st.rounds
  let st := turns (2 * k) (st.acquire r.frame)
  turns (2 * k + 1)
    (if r.callback = NULL then ((st.find? k).map st.drop).getD st
      else st.call k r.callback r.frame)

/-- The loop of `CameraStream::sendFrame` over the subscribers that are left. -/
def streamLoop (turns : Turns) (frame : CameraFrame) :
    List (Sigma fun _ : Ptr => Ptr) → HubRun → Status × HubRun
  | [], st => (NO_ERROR, st)
  | subscriber :: rest, st =>
    let st := st.deliver turns ⟨{ frame with mCookie := subscriber.1 }, subscriber.2⟩
    if subscriber.2 = NULL then (EINVAL, st) else streamLoop turns frame rest st

/-- `CameraStream::sendFrame`. -/
def streamSendFrame (turns : Turns) (frame : CameraFrame) (subscribers : KeyedVector Ptr Ptr)
    (st : HubRun) : Status × HubRun :=
  match st.hub.buffer? frame.mStreamType frame.mBuffer with
  | none => (BAD_VALUE, st)
  | some buf => streamLoop turns { frame with mVaddr := buf.mVaddr } subscribers.entries st

/-- `sendFrameToSubscribers`. -/
def sendFrameToSubscribers (turns : Turns) (frame : CameraFrame) (t : FrameType)
    (st : HubRun) : Status × HubRun :=
  if (st.hub.mSubscribers t).size > 0 then
    streamSendFrame turns { frame with mFrameType := t } (st.hub.mSubscribers t) st
  else (NO_ERROR, st)

/-- The loop of `CameraStreamHub::sendFrame` over the frame types that are left. -/
def sendLoop (turns : Turns) (frame : CameraFrame) :
    List FrameType → BitVec 32 → Status → HubRun → Status × HubRun
  | [], _, ret, st => (ret, st)
  | t :: rest, types, ret, st =>
    if t.mask &&& types ≠ 0 then
      let (ret, st) := sendFrameToSubscribers turns frame t st
      let types := types &&& ~~~t.mask
      if types = 0 then (ret, st) else sendLoop turns frame rest types ret st
    else sendLoop turns frame rest types ret st

/-- `CameraStreamHub::sendFrame`. -/
def sendFrame (turns : Turns) (frame : CameraFrame) (types : BitVec 32) (st : HubRun) :
    Status × HubRun :=
  sendLoop turns frame FrameType.all types NO_ERROR st

end HubRun

/-! ### The deliveries of a `sendFrame` -/

namespace CameraStreamHub

/-- The deliveries that the loop of `CameraStream::sendFrame` makes: it ends at the first
`NULL` callback. -/
def streamRounds (frame : CameraFrame) : List (Sigma fun _ : Ptr => Ptr) → List Round
  | [] => []
  | subscriber :: rest =>
    ⟨{ frame with mCookie := subscriber.1 }, subscriber.2⟩ ::
      if subscriber.2 = NULL then [] else streamRounds frame rest

/-- The deliveries of one frame type. -/
def typeRounds (hub : CameraStreamHub) (frame : CameraFrame) (t : FrameType) : List Round :=
  match hub.buffer? frame.mStreamType frame.mBuffer with
  | none => []
  | some buf =>
    streamRounds { frame with mFrameType := t, mVaddr := buf.mVaddr }
      (hub.mSubscribers t).entries

/-- The deliveries of a `sendFrame`, in their order. -/
def rounds (hub : CameraStreamHub) (frame : CameraFrame) (types : BitVec 32) : List Round :=
  (FrameType.all.filter fun t => t.mask &&& types ≠ 0).flatMap (hub.typeRounds frame)

/-- A delivery of the loop is the frame, with a subscriber's cookie. -/
lemma mem_streamRounds {frame : CameraFrame} {l : List (Sigma fun _ : Ptr => Ptr)} {r : Round}
    (hr : r ∈ streamRounds frame l) : ∃ e ∈ l, r.frame = { frame with mCookie := e.1 } := by
  induction l with
  | nil => exact absurd hr List.not_mem_nil
  | cons e rest ih =>
    rw [streamRounds] at hr
    rcases List.mem_cons.mp hr with rfl | hr
    · exact ⟨e, List.mem_cons_self, rfl⟩
    · split_ifs at hr
      · exact absurd hr List.not_mem_nil
      · obtain ⟨e', he', hframe⟩ := ih hr
        exact ⟨e', List.mem_cons_of_mem _ he', hframe⟩

/-- A delivery of a `sendFrame` is the frame as it is sent to a subscriber of one of its
types. -/
lemma mem_rounds {hub : CameraStreamHub} {frame : CameraFrame} {types : BitVec 32} {r : Round}
    (hr : r ∈ hub.rounds frame types) :
    ∃ buf t, hub.buffer? frame.mStreamType frame.mBuffer = some buf ∧
      ∃ e ∈ (hub.mSubscribers t).entries,
        r.frame = { frame with mFrameType := t, mVaddr := buf.mVaddr, mCookie := e.1 } := by
  obtain ⟨t, -, hr⟩ := List.mem_flatMap.mp hr
  unfold typeRounds at hr
  cases hbuf : hub.buffer? frame.mStreamType frame.mBuffer with
  | none => simp [hbuf] at hr
  | some buf =>
    rw [hbuf] at hr
    exact ⟨buf, t, rfl, mem_streamRounds hr⟩

end CameraStreamHub

namespace HubRun

/-- What decides the deliveries of a `sendFrame`: the subscribers, and the mapped address under
which the frame's buffer is registered. -/
def SameTables (frame : CameraFrame) (hub hub' : CameraStreamHub) : Prop :=
  hub'.mSubscribers = hub.mSubscribers ∧
    (hub'.buffer? frame.mStreamType frame.mBuffer).map CameraStreamBuffer.mVaddr =
      (hub.buffer? frame.mStreamType frame.mBuffer).map CameraStreamBuffer.mVaddr

/-- The same tables give the same deliveries. -/
lemma SameTables.typeRounds_eq {frame : CameraFrame} {hub hub' : CameraStreamHub}
    (h : SameTables frame hub hub') (t : FrameType) :
    hub'.typeRounds frame t = hub.typeRounds frame t := by
  obtain ⟨hsub, hvaddr⟩ := h
  simp only [CameraStreamHub.typeRounds, hsub]
  cases hbuf : hub.buffer? frame.mStreamType frame.mBuffer <;>
    cases hbuf' : hub'.buffer? frame.mStreamType frame.mBuffer <;>
    simp_all

/-- The same tables on the way are the same tables. -/
lemma SameTables.trans {frame : CameraFrame} {hub hub' hub'' : CameraStreamHub}
    (h : SameTables frame hub hub') (h' : SameTables frame hub' hub'') :
    SameTables frame hub hub'' :=
  ⟨h'.1.trans h.1, h'.2.trans h.2⟩

/-- The frame's buffer is registered in both tables or in neither. -/
lemma SameTables.isSome_eq {frame : CameraFrame} {hub hub' : CameraStreamHub}
    (h : SameTables frame hub hub') :
    (hub'.buffer? frame.mStreamType frame.mBuffer).isSome =
      (hub.buffer? frame.mStreamType frame.mBuffer).isSome := by
  have := congrArg Option.isSome h.2
  simpa only [Option.isSome_map] using this

/-- A reference taken keeps the tables. -/
lemma sameTables_incRefCount (frame : CameraFrame) (hub : CameraStreamHub) (s : StreamType)
    (b : Ptr) (t : FrameType) : SameTables frame hub (hub.incRefCount s b t) := by
  refine ⟨rfl, ?_⟩
  simp only [CameraStreamHub.incRefCount, CameraStreamHub.buffer?_modifyBuffer]
  split_ifs
  · rw [Option.map_map]; rfl
  · rfl

/-- A reference dropped keeps the tables. -/
lemma sameTables_decRefCount (frame : CameraFrame) (hub : CameraStreamHub) (s : StreamType)
    (b : Ptr) (t : FrameType) : SameTables frame hub (hub.decRefCount s b t).1 := by
  refine ⟨?_, ?_⟩
  · unfold CameraStreamHub.decRefCount
    split <;> rfl
  · rw [CameraStreamHub.buffer?_decRefCount]
    split_ifs
    · rw [Option.map_map]
      congr 1
      funext buf
      simp only [Function.comp_def, CameraStreamBuffer.decRefCount]
      split_ifs <;> rfl
    · rfl

/-- Deliveries keep the tables. -/
lemma SameTables.acquire {frame : CameraFrame} {hub : CameraStreamHub} {st : HubRun}
    (h : SameTables frame hub st.hub) (frame' : CameraFrame) :
    SameTables frame hub (st.acquire frame').hub :=
  h.trans (sameTables_incRefCount frame st.hub _ _ _)

/-- Drops keep the tables. -/
lemma SameTables.drop {frame : CameraFrame} {hub : CameraStreamHub} {st : HubRun}
    (h : SameTables frame hub st.hub) (d : Delivery) : SameTables frame hub (st.drop d).hub :=
  h.trans (sameTables_decRefCount frame st.hub _ _ _)

/-- The loop over the subscribers makes their deliveries. -/
lemma streamLoop_eq_foldl (turns : Turns) (frame : CameraFrame)
    (l : List (Sigma fun _ : Ptr => Ptr)) (st : HubRun) :
    (streamLoop turns frame l st).2 =
      (CameraStreamHub.streamRounds frame l).foldl (deliver turns) st := by
  induction l generalizing st with
  | nil => rfl
  | cons subscriber rest ih =>
    simp only [streamLoop, CameraStreamHub.streamRounds]
    split_ifs
    · rfl
    · exact ih _

/-- `sendFrameToSubscribers` makes the deliveries of its frame type. -/
lemma sendFrameToSubscribers_eq_foldl (turns : Turns) (frame : CameraFrame) (t : FrameType)
    (st : HubRun) :
    (sendFrameToSubscribers turns frame t st).2 =
      (st.hub.typeRounds frame t).foldl (deliver turns) st := by
  simp only [sendFrameToSubscribers, streamSendFrame, CameraStreamHub.typeRounds]
  split_ifs with hsize
  · cases st.hub.buffer? frame.mStreamType frame.mBuffer with
    | none => rfl
    | some buf => exact streamLoop_eq_foldl _ _ _ _
  · have hnil : (st.hub.mSubscribers t).entries = [] :=
      List.length_eq_zero_iff.mp (Nat.le_zero.mp (not_lt.mp hsize))
    cases st.hub.buffer? frame.mStreamType frame.mBuffer with
    | none => rfl
    | some buf => simp [hnil, CameraStreamHub.streamRounds]

/-- Clearing the bit of one frame type leaves the others alone. -/
lemma mask_and_clear (t u : FrameType) (h : u ≠ t) (types : BitVec 32) :
    u.mask &&& (types &&& ~~~t.mask) = u.mask &&& types := by
  have hmask : u.mask &&& ~~~t.mask = u.mask := by
    cases t <;> cases u <;> first | exact absurd rfl h | decide
  rw [← BitVec.and_assoc, BitVec.and_comm u.mask types, BitVec.and_assoc, hmask,
    BitVec.and_comm]

/-- **`sendFrame` makes the deliveries of `CameraStreamHub.rounds`**, provided the tables that
decide them stay as they are.

**Proof sketch.** Induction on the frame types that are left. A type of the mask makes its
deliveries and its bit is cleared, which does not change whether a later type is in the mask;
if no bit is left, no later type is. -/
theorem sendLoop_eq_foldl {turns : Turns} {frame : CameraFrame} {hub : CameraStreamHub}
    (hround : ∀ (st : HubRun) (r : Round), SameTables frame hub st.hub →
      SameTables frame hub (st.deliver turns r).hub)
    (l : List FrameType) (hl : l.Nodup) (types : BitVec 32) (ret : Status) (st : HubRun)
    (hst : SameTables frame hub st.hub) :
    (sendLoop turns frame l types ret st).2 =
      ((l.filter fun t => t.mask &&& types ≠ 0).flatMap (hub.typeRounds frame)).foldl
        (deliver turns) st := by
  induction l generalizing types ret st with
  | nil => rfl
  | cons t rest ih =>
    obtain ⟨ht, hrest⟩ := List.nodup_cons.mp hl
    by_cases hmask : t.mask &&& types ≠ 0
    · have hclear : (rest.filter fun u => u.mask &&& (types &&& ~~~t.mask) ≠ 0) =
          rest.filter fun u => u.mask &&& types ≠ 0 :=
        List.filter_congr fun u hu => by
          rw [mask_and_clear t u (fun h => ht (h ▸ hu)) types]
      have hsend := sendFrameToSubscribers_eq_foldl turns frame t st
      have hst' : SameTables frame hub (sendFrameToSubscribers turns frame t st).2.hub := by
        rw [hsend]
        exact List.foldlRecOn _ (deliver turns) hst fun st' h r _ => hround st' r h
      rw [hst.typeRounds_eq] at hsend
      simp only [sendLoop, if_pos hmask]
      rw [List.filter_cons_of_pos (by simpa using hmask), List.flatMap_cons, List.foldl_append,
        ← hsend, ← hclear]
      split_ifs with hzero
      · simp [hzero]
      · exact ih hrest _ _ _ hst'
    · simp only [sendLoop, if_neg hmask]
      rw [List.filter_cons_of_neg (by simpa using hmask)]
      exact ih hrest _ _ _ hst

/-- **`sendFrame` makes the deliveries of `CameraStreamHub.rounds`**, one after the other,
provided the tables that decide them stay as they are. -/
theorem sendFrame_eq_foldl {turns : Turns} {frame : CameraFrame} (st : HubRun)
    (hround : ∀ (st' : HubRun) (r : Round), SameTables frame st.hub st'.hub →
      SameTables frame st.hub (st'.deliver turns r).hub) (types : BitVec 32) :
    (st.sendFrame turns frame types).2 = (st.hub.rounds frame types).foldl (deliver turns) st :=
  sendLoop_eq_foldl hround _ (by decide) types _ st ⟨rfl, rfl⟩

/-! ### The ledger -/

variable {st : HubRun} {s : StreamType} {b : Ptr}

/-- The open deliveries of one buffer whose subscription has not ended. -/
def owed (st : HubRun) (s : StreamType) (b : Ptr) : List Delivery :=
  st.held.filter fun d => d.live ∧ d.frame.mStreamType = s ∧ d.frame.mBuffer = b

/-- The reference counts of a registered buffer are those of its open deliveries. -/
def AccountedAt (st : HubRun) (s : StreamType) (b : Ptr) : Prop :=
  ∃ buf, st.hub.buffer? s b = some buf ∧ buf.Counted ∧
    ∀ t, buf.mRefCount t = Tally.ofList (·.frame.mFrameType) (st.owed s b) t

/-- A buffer without references agrees with an empty ledger. -/
lemma accountedAt_start {hub : CameraStreamHub} {buf : CameraStreamBuffer}
    (hbuf : hub.buffer? s b = some buf) (hidle : buf.Idle) : (start hub).AccountedAt s b :=
  ⟨buf, hbuf, hidle.counted, fun t => hidle.2 t⟩

/-- The total of an accounted buffer is the number of its open deliveries. -/
lemma AccountedAt.sum_eq (h : st.AccountedAt s b) {buf : CameraStreamBuffer}
    (hbuf : st.hub.buffer? s b = some buf) : buf.mRefCountSum = (st.owed s b).length := by
  obtain ⟨buf', hbuf', hcounted, hcount⟩ := h
  obtain rfl : buf' = buf := Option.some.inj (hbuf'.symm.trans hbuf)
  rw [hcounted, funext hcount, Tally.total_ofList]

/-- The ledger of a buffer after a delivery. -/
lemma owed_acquire (frame : CameraFrame) :
    (st.acquire frame).owed s b = st.owed s b ++
      if frame.mStreamType = s ∧ frame.mBuffer = b then [⟨st.rounds, frame, false, true⟩]
      else [] := by
  simp only [owed, acquire, List.filter_append, List.filter_singleton, true_and, cond_eq_ite,
    decide_eq_true_eq]

/-- A delivery keeps the reference counts in agreement with the ledger. -/
lemma AccountedAt.acquire (h : st.AccountedAt s b) (frame : CameraFrame) :
    (st.acquire frame).AccountedAt s b := by
  obtain ⟨buf, hbuf, hcounted, hcount⟩ := h
  have hlookup : (st.acquire frame).hub.buffer? s b =
      if s = frame.mStreamType ∧ b = frame.mBuffer then
        some (buf.incRefCount frame.mFrameType) else some buf := by
    simp only [HubRun.acquire, CameraStreamHub.incRefCount, CameraStreamHub.buffer?_modifyBuffer,
      hbuf, Option.map_some]
  by_cases hon : frame.mStreamType = s ∧ frame.mBuffer = b
  · refine ⟨buf.incRefCount frame.mFrameType, ?_, hcounted.incRefCount _, fun t => ?_⟩
    · rw [hlookup, if_pos ⟨hon.1.symm, hon.2.symm⟩]
    · rw [CameraStreamBuffer.mRefCount_incRefCount, owed_acquire, if_pos hon,
        Tally.ofList_concat, hcount]
  · refine ⟨buf, ?_, hcounted, fun t => ?_⟩
    · rw [hlookup, if_neg fun hc => hon ⟨hc.1.symm, hc.2.symm⟩]
    · rw [owed_acquire, if_neg hon, List.append_nil, hcount]

/-- The note leaves the frame alone. -/
@[simp] lemma markCalled_frame (k : ℕ) (d : Delivery) : (markCalled k d).frame = d.frame := by
  unfold markCalled
  split_ifs <;> rfl

/-- The note leaves the subscription alone. -/
@[simp] lemma markCalled_live (k : ℕ) (d : Delivery) : (markCalled k d).live = d.live := by
  unfold markCalled
  split_ifs <;> rfl

/-- The note leaves the number alone. -/
@[simp] lemma markCalled_round (k : ℕ) (d : Delivery) : (markCalled k d).round = d.round := by
  unfold markCalled
  split_ifs <;> rfl

/-- The delivery of the number is called. -/
@[simp] lemma markCalled_called (k : ℕ) (d : Delivery) :
    (markCalled k d).called = (d.called || decide (d.round = k)) := by
  unfold markCalled
  split_ifs with h <;> simp [h]

/-- The ledger of a buffer after a callback is entered. -/
lemma owed_call (k : ℕ) (callback : Ptr) (frame : CameraFrame) :
    (st.call k callback frame).owed s b = (st.owed s b).map (markCalled k) := by
  simp [owed, call, List.filter_map, Function.comp_def]

/-- Entering a callback keeps the reference counts in agreement with the ledger. -/
lemma AccountedAt.call (h : st.AccountedAt s b) (k : ℕ) (callback : Ptr) (frame : CameraFrame) :
    (st.call k callback frame).AccountedAt s b := by
  obtain ⟨buf, hbuf, hcounted, hcount⟩ := h
  refine ⟨buf, hbuf, hcounted, fun t => ?_⟩
  rw [owed_call, Tally.ofList_map _ fun d => by rw [markCalled_frame], hcount]

/-- The ledger after a drop. -/
@[simp] lemma held_drop (st : HubRun) (d : Delivery) : (st.drop d).held = st.held.erase d := rfl

/-- A drop is no delivery. -/
@[simp] lemma rounds_drop (st : HubRun) (d : Delivery) : (st.drop d).rounds = st.rounds := rfl

/-- Lookup after a drop. -/
lemma buffer?_drop (st : HubRun) (d : Delivery) (s : StreamType) (b : Ptr) :
    (st.drop d).hub.buffer? s b =
      if s = d.frame.mStreamType ∧ b = d.frame.mBuffer then
        (st.hub.buffer? s b).map fun buf => (buf.decRefCount d.frame.mFrameType).1
      else st.hub.buffer? s b :=
  st.hub.buffer?_decRefCount _ _ _ _ _

/-- The ledger of a buffer before and after the drop of an open delivery. -/
lemma owed_drop {d : Delivery} (hd : d ∈ st.held) :
    (st.owed s b).Perm
      ((if d.live ∧ d.frame.mStreamType = s ∧ d.frame.mBuffer = b then [d] else []) ++
        (st.drop d).owed s b) := by
  have hperm := (List.perm_cons_erase hd).filter
    fun d => d.live ∧ d.frame.mStreamType = s ∧ d.frame.mBuffer = b
  refine hperm.trans (List.Perm.of_eq ?_)
  rw [List.filter_cons]
  simp only [decide_eq_true_eq]
  split_ifs <;> rfl

/-- The drop of a live delivery keeps the reference counts in agreement with the ledger. -/
lemma AccountedAt.drop (h : st.AccountedAt s b) {d : Delivery} (hd : d ∈ st.held)
    (hlive : d.live = true) : (st.drop d).AccountedAt s b := by
  obtain ⟨buf, hbuf, hcounted, hcount⟩ := h
  have hlookup := st.buffer?_drop d s b
  have howed := Tally.ofList_perm (fun d : Delivery => d.frame.mFrameType)
    (owed_drop (s := s) (b := b) hd)
  rw [hbuf] at hlookup
  by_cases hon : d.frame.mStreamType = s ∧ d.frame.mBuffer = b
  · rw [if_pos ⟨hon.1.symm, hon.2.symm⟩] at hlookup
    rw [if_pos ⟨hlive, hon⟩] at howed
    refine ⟨_, hlookup, hcounted.decRefCount _, fun t => ?_⟩
    rw [CameraStreamBuffer.mRefCount_decRefCount, hcount, howed, List.singleton_append,
      Tally.ofList_cons]
    omega
  · rw [if_neg fun hc => hon ⟨hc.1.symm, hc.2.symm⟩] at hlookup
    rw [if_neg fun hc => hon hc.2, List.nil_append] at howed
    exact ⟨buf, hlookup, hcounted, fun t => by rw [hcount, howed]⟩

/-- **A drop hands the buffer back exactly if no open delivery of it is left.** -/
theorem AccountedAt.drop_log (h : st.AccountedAt s b) {d : Delivery} (hd : d ∈ st.held)
    (hlive : d.live = true) (hon : d.frame.mStreamType = s ∧ d.frame.mBuffer = b) :
    (st.drop d).log = st.log ++
      if (st.drop d).owed s b = [] then [.fillThisBuffer b d.frame.mFrameType s] else [] := by
  obtain ⟨rfl, rfl⟩ := hon
  have hafter := h.drop hd hlive
  obtain ⟨buf, hbuf, hcounted, -⟩ := id h
  have hsum := h.sum_eq hbuf
  have hlookup := st.buffer?_drop d d.frame.mStreamType d.frame.mBuffer
  rw [if_pos ⟨rfl, rfl⟩, hbuf, Option.map_some] at hlookup
  have hlength := (owed_drop (s := d.frame.mStreamType) (b := d.frame.mBuffer) hd).length_eq
  rw [if_pos ⟨hlive, rfl, rfl⟩, List.length_append, List.length_singleton] at hlength
  have hfires := CameraStreamBuffer.decRefCount_fires d.frame.mFrameType hcounted
  rw [hafter.sum_eq hlookup, hsum, List.length_eq_zero_iff] at hfires
  have hlog : (st.drop d).log = st.log ++
      if (buf.decRefCount d.frame.mFrameType).2 then
        [.fillThisBuffer d.frame.mBuffer d.frame.mFrameType d.frame.mStreamType] else [] := by
    simp only [HubRun.drop, CameraStreamHub.returnFrame, CameraStreamHub.decRefCount, hbuf]
  rw [hlog]
  congr 1
  by_cases hf : (buf.decRefCount d.frame.mFrameType).2 = true
  · rw [if_pos hf, if_pos (hfires.mp hf).2]
  · rw [if_neg hf, if_neg fun hnil => hf (hfires.mpr ⟨by omega, hnil⟩)]

end HubRun

end CameraHal
