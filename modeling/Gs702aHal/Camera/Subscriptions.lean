import Gs702aHal.Lib.StepRun
import Gs702aHal.Camera.HandBack

set_option relaxedAutoImplicit false
set_option autoImplicit false

/-!
# Subscriptions and the references of earlier deliveries

`unsubscribe` forgets who holds a reference: only when the last subscriber of a frame type is
gone are the references of that type cleared, all at once, and a frame that is returned later
takes its reference from whatever has been delivered since. This file runs the hub with
arbitrary interleavings of its operations and determines when every reference count is still
the number of deliveries made to current subscriptions.

## Main definitions

* `CameraHal.HubAction`, `CameraHal.HubRun.step` — the operations of the hub, a `sendFrame`
  taken apart into its deliveries.
* `CameraHal.HubRun.Faithful` — a step leaves the counts of the open deliveries, and hands a
  buffer back exactly when its last one closes.
* `CameraHal.HubRun.Undisturbed` — no late return meets a newer delivery, and nobody leaves
  while holding a frame that others were also sent.

## Main results

* `CameraHal.HubRun.sendFrame_is_run` — a `sendFrame` is a run of the steps.
* `CameraHal.HubRun.along_faithful_iff` — a run from unused buffers is faithful if and only if
  it is undisturbed.
-/

namespace CameraHal

/-- The operations of the hub. A `sendFrame` is a number of deliveries, each of which takes its
reference (`acquire`) and then enters the callback (`call`) or, for a `NULL` callback, gives
the reference back (`giveBack`). -/
inductive HubAction
  | subscribe (frameTypeIndex : ℕ) (callback cookie : Ptr)
  | unsubscribe (frameTypeIndex : ℕ) (cookie : Ptr)
  | acquire (frame : CameraFrame)
  | call (round : ℕ) (callback : Ptr) (frame : CameraFrame)
  | giveBack (round : ℕ)
  | returned (round : ℕ)
  deriving DecidableEq, Repr

namespace HubRun

/-- The end of the subscription that a delivery was made under. -/
def endSubscription (t : FrameType) (cookie : Ptr) (d : Delivery) : Delivery :=
  if d.frame.mFrameType = t ∧ d.frame.mCookie = cookie then { d with live := false } else d

/-- `unsubscribe`, which ends the subscription of the deliveries that the cookie holds. -/
def unsubscribe (st : HubRun) (frameTypeIndex : ℕ) (cookie : Ptr) : HubRun :=
  let (_, hub, events) := st.hub.unsubscribe frameTypeIndex cookie
  { st with
    hub := hub
    held := match FrameType.ofIndex? frameTypeIndex with
      | none => st.held
      | some t => st.held.map (endSubscription t cookie)
    log := st.log ++ events }

/-- A delivery can be made: the buffer is registered and the cookie subscribed. -/
def Deliverable (hub : CameraStreamHub) (frame : CameraFrame) : Prop :=
  (hub.buffer? frame.mStreamType frame.mBuffer).isSome ∧
    ((hub.mSubscribers frame.mFrameType).find? frame.mCookie).isSome

instance (hub : CameraStreamHub) (frame : CameraFrame) : Decidable (Deliverable hub frame) :=
  inferInstanceAs (Decidable (_ ∧ _))

/-- One operation of the hub. -/
def step (st : HubRun) : HubAction → HubRun
  | .subscribe i callback cookie => { st with hub := (st.hub.subscribe i callback cookie).2 }
  | .unsubscribe i cookie => st.unsubscribe i cookie
  | .acquire frame => if Deliverable st.hub frame then st.acquire frame else st
  | .call k callback frame => st.call k callback frame
  | .giveBack k => ((st.find? k).map st.drop).getD st
  | .returned k => st.returned k

/-- The number of times that a buffer has been handed back. -/
def handBacks (st : HubRun) (s : StreamType) (b : Ptr) : ℕ :=
  st.log.countP (HubEvent.isFillOf s b)

/-- Each reference count of a registered buffer is the number of deliveries of its frame type
that are open under a current subscription. -/
def CountsOpen (st : HubRun) : Prop :=
  ∀ s b, (st.hub.buffer? s b).isSome → ∀ t,
    st.hub.refCount s b t = Tally.ofList (·.frame.mFrameType) (st.owed s b) t

/-- Between two states, a registered buffer is handed back once if its last delivery under a
current subscription was closed, and not at all otherwise. -/
def HandsBack (st st' : HubRun) : Prop :=
  ∀ s b, (st.hub.buffer? s b).isSome →
    st'.handBacks s b = st.handBacks s b + if st.owed s b ≠ [] ∧ st'.owed s b = [] then 1 else 0

/-- What a step should do to the registered buffers. -/
def Faithful (st : HubRun) (a : HubAction) : Prop :=
  CountsOpen (st.step a) ∧ HandsBack st (st.step a)

/-- A return or a drop of a delivery whose subscription has ended meets no open delivery of the
same frame type on the same buffer. -/
def NotLate (st : HubRun) (d : Delivery) : Prop :=
  d.live = false →
    ∀ d' ∈ st.owed d.frame.mStreamType d.frame.mBuffer, d'.frame.mFrameType ≠ d.frame.mFrameType

instance (st : HubRun) (d : Delivery) : Decidable (NotLate st d) :=
  inferInstanceAs (Decidable (_ → _))

/-- A subscriber that leaves others behind holds no frame of its type. -/
def LeavesNothing (st : HubRun) (t : FrameType) (cookie : Ptr) : Prop :=
  ((st.hub.removeSubscriber t cookie).mSubscribers t).size > 0 →
    ∀ d ∈ st.held, d.live = true → ¬ (d.frame.mFrameType = t ∧ d.frame.mCookie = cookie)

instance (st : HubRun) (t : FrameType) (cookie : Ptr) : Decidable (LeavesNothing st t cookie) :=
  inferInstanceAs (Decidable (_ → _))

/-- The condition on a step: a late return meets no newer delivery, and a subscriber that
leaves others behind holds nothing. -/
def Undisturbed (st : HubRun) : HubAction → Prop
  | .unsubscribe i cookie => ∀ t ∈ FrameType.ofIndex? i, LeavesNothing st t cookie
  | .giveBack k => ∀ d ∈ st.find? k, NotLate st d
  | .returned k => ∀ d ∈ st.find? k, d.called = true → NotLate st d
  | _ => True

instance (st : HubRun) : ∀ a, Decidable (Undisturbed st a)
  | .unsubscribe i cookie =>
    inferInstanceAs (Decidable (∀ t ∈ FrameType.ofIndex? i, LeavesNothing st t cookie))
  | .giveBack k => inferInstanceAs (Decidable (∀ d ∈ st.find? k, NotLate st d))
  | .returned k => inferInstanceAs (Decidable (∀ d ∈ st.find? k, d.called = true → NotLate st d))
  | .subscribe .. | .acquire _ | .call .. => inferInstanceAs (Decidable True)

/-- The state of a run in which every step so far was undisturbed. -/
structure Clean (st : HubRun) : Prop where
  /-- The reference counts of the registered buffers are those of the ledger. -/
  accounted : ∀ s b, (st.hub.buffer? s b).isSome → st.AccountedAt s b
  /-- Deliveries are of registered buffers. -/
  registered : ∀ d ∈ st.held, (st.hub.buffer? d.frame.mStreamType d.frame.mBuffer).isSome
  /-- A subscription that has not ended is in the table. -/
  subscribed : ∀ d ∈ st.held, d.live = true →
    ((st.hub.mSubscribers d.frame.mFrameType).find? d.frame.mCookie).isSome

section Steps

variable {st : HubRun} {s : StreamType} {b : Ptr}

/-- The reference counts of an accounted buffer. -/
lemma AccountedAt.refCount_eq (h : st.AccountedAt s b) (t : FrameType) :
    st.hub.refCount s b t = Tally.ofList (·.frame.mFrameType) (st.owed s b) t := by
  obtain ⟨buf, hbuf, -, hcount⟩ := h
  rw [CameraStreamHub.refCount, hbuf, Option.elim_some, hcount]

/-- The ledger of a buffer after the end of a subscription. -/
lemma filter_map_endSubscription (p : CameraFrame → Prop) [DecidablePred p] (t : FrameType)
    (cookie : Ptr) (l : List Delivery) :
    (l.map (endSubscription t cookie)).filter (fun d => d.live ∧ p d.frame) =
      (l.filter fun d => d.live ∧ p d.frame).filter
        fun d => ¬ (d.frame.mFrameType = t ∧ d.frame.mCookie = cookie) := by
  induction l with
  | nil => rfl
  | cons d l ih =>
    by_cases h : d.frame.mFrameType = t ∧ d.frame.mCookie = cookie
    · rw [List.map_cons, endSubscription, if_pos h, List.filter_cons_of_neg (by simp), ih,
        List.filter_cons]
      split_ifs
      · rw [List.filter_cons_of_neg (by simpa using h)]
      · rfl
    · rw [List.map_cons, endSubscription, if_neg h, List.filter_cons, List.filter_cons, ih]
      split_ifs
      · rw [List.filter_cons, if_pos (decide_eq_true h)]
      · rfl

/-- A step that adds nothing to the log and closes no last delivery hands nothing back. -/
lemma handsBack_of_log_eq {st' : HubRun} (hlog : st'.log = st.log)
    (howed : ∀ s b, st'.owed s b = [] → st.owed s b = []) : HandsBack st st' := by
  intro s b _
  rw [if_neg fun hc => hc.1 (howed s b hc.2), handBacks, hlog]
  rfl

/-! ### Drops -/

/-- A late drop that meets no newer delivery changes no buffer and hands nothing back. -/
lemma drop_of_late {d : Delivery}
    (h : st.AccountedAt d.frame.mStreamType d.frame.mBuffer) (hlive : d.live = false)
    (hlate : NotLate st d) :
    (st.drop d).log = st.log ∧
      ∀ s b, (st.drop d).hub.buffer? s b = st.hub.buffer? s b := by
  obtain ⟨buf, hbuf, -, hcount⟩ := h
  have hzero : buf.mRefCount d.frame.mFrameType = 0 := by
    rw [hcount, Tally.ofList, List.countP_eq_zero]
    exact fun d' hd' => by simpa using hlate hlive d' hd'
  have hdec : buf.decRefCount d.frame.mFrameType = (buf, false) := by
    rw [CameraStreamBuffer.decRefCount, if_neg (by omega)]
  constructor
  · simp [drop, CameraStreamHub.returnFrame, CameraStreamHub.decRefCount, hbuf, hdec]
  · intro s b
    rw [buffer?_drop]
    split_ifs with hon
    · rw [hon.1, hon.2, hbuf, Option.map_some, hdec]
    · rfl

/-- The ledger of a buffer after the drop of a delivery that is not in it. -/
lemma owed_drop_of_not {d : Delivery} (hd : d ∈ st.held)
    (hnot : ¬ (d.live = true ∧ d.frame.mStreamType = s ∧ d.frame.mBuffer = b)) :
    (st.owed s b).Perm ((st.drop d).owed s b) := by
  have := owed_drop (s := s) (b := b) hd
  rwa [if_neg hnot, List.nil_append] at this

/-- A drop that is not late meets the guarantee on hand-backs. -/
lemma handsBack_drop {d : Delivery} (hd : d ∈ st.held)
    (h : st.AccountedAt d.frame.mStreamType d.frame.mBuffer) (hlate : NotLate st d) :
    HandsBack st (st.drop d) := by
  by_cases hlive : d.live = true
  · have hlog := h.drop_log hd hlive ⟨rfl, rfl⟩
    intro s b _
    by_cases hon : d.frame.mStreamType = s ∧ d.frame.mBuffer = b
    · obtain ⟨rfl, rfl⟩ := hon
      have hne : st.owed d.frame.mStreamType d.frame.mBuffer ≠ [] :=
        List.ne_nil_of_mem (List.mem_filter.mpr ⟨hd, by simp [hlive]⟩)
      rw [handBacks, hlog, List.countP_append, handBacks]
      by_cases hnil : (st.drop d).owed d.frame.mStreamType d.frame.mBuffer = []
      · simp [hnil, hne, HubEvent.isFillOf]
      · simp [hnil]
    · have hperm := owed_drop_of_not (s := s) (b := b) hd fun hc => hon hc.2
      have hother : ∀ l : List HubEvent,
          l = (if (st.drop d).owed d.frame.mStreamType d.frame.mBuffer = [] then
            [.fillThisBuffer d.frame.mBuffer d.frame.mFrameType d.frame.mStreamType] else []) →
          l.countP (HubEvent.isFillOf s b) = 0 := by
        rintro l rfl
        split_ifs
        · simpa [HubEvent.isFillOf] using hon
        · rfl
      rw [handBacks, hlog, List.countP_append, hother _ rfl,
        if_neg fun hc => hc.1 (hc.2 ▸ hperm).eq_nil, handBacks]
  · obtain ⟨hlog, -⟩ := drop_of_late h (by simpa using hlive) hlate
    refine handsBack_of_log_eq hlog fun s b hnil => ?_
    have hperm := owed_drop_of_not (s := s) (b := b) hd fun hc => hlive hc.1
    rw [hnil] at hperm
    exact hperm.eq_nil

/-- A drop that is not late keeps the state. -/
lemma Clean.drop (h : Clean st) {d : Delivery} (hd : d ∈ st.held) (hlate : NotLate st d) :
    Clean (st.drop d) := by
  have hsome : ∀ s b, ((st.drop d).hub.buffer? s b).isSome = (st.hub.buffer? s b).isSome :=
    fun s b => st.hub.isSome_buffer?_decRefCount _ _ _ _ _
  refine ⟨fun s b hb => ?_, fun d' hd' => ?_, fun d' hd' hlive' => ?_⟩
  · rw [hsome] at hb
    by_cases hlive : d.live = true
    · exact (h.accounted s b hb).drop hd hlive
    · obtain ⟨-, hlookup⟩ := drop_of_late (h.accounted _ _ (h.registered d hd))
        (by simpa using hlive) hlate
      obtain ⟨buf, hbuf, hcounted, hcount⟩ := h.accounted s b hb
      have howed := Tally.ofList_perm (fun d : Delivery => d.frame.mFrameType)
        (owed_drop_of_not (s := s) (b := b) hd fun hc => hlive hc.1)
      exact ⟨buf, by rw [hlookup, hbuf], hcounted, fun t => by rw [hcount, howed]⟩
  · rw [hsome]
    exact h.registered d' (List.mem_of_mem_erase hd')
  · have hsub : (st.drop d).hub.mSubscribers = st.hub.mSubscribers := by
      simp only [HubRun.drop, CameraStreamHub.returnFrame, CameraStreamHub.decRefCount]
      split <;> rfl
    rw [hsub]
    exact h.subscribed d' (List.mem_of_mem_erase hd') hlive'

/-- A late drop that meets a newer delivery lowers the count of that delivery. -/
lemma not_countsOpen_drop (h : Clean st) {d : Delivery} (hd : d ∈ st.held)
    (hlate : ¬ NotLate st d) : ¬ CountsOpen (st.drop d) := by
  unfold NotLate at hlate
  push Not at hlate
  obtain ⟨hlive, d', hd', htype⟩ := hlate
  intro hcounts
  have hreg := h.registered d hd
  have hsome : ((st.drop d).hub.buffer? d.frame.mStreamType d.frame.mBuffer).isSome := by
    rw [HubRun.drop, CameraStreamHub.returnFrame, st.hub.isSome_buffer?_decRefCount]
    exact hreg
  have hafter := hcounts _ _ hsome d.frame.mFrameType
  have hbefore := (h.accounted _ _ hreg).refCount_eq d.frame.mFrameType
  have howed := Tally.ofList_perm (fun d : Delivery => d.frame.mFrameType)
    (owed_drop_of_not (s := d.frame.mStreamType) (b := d.frame.mBuffer) hd
      fun hc => Bool.false_ne_true (hlive.symm.trans hc.1))
  have hpos : 0 < Tally.ofList (fun d : Delivery => d.frame.mFrameType)
      (st.owed d.frame.mStreamType d.frame.mBuffer) d.frame.mFrameType :=
    List.countP_pos_iff.mpr ⟨d', hd', by simpa using htype⟩
  have hdec : (st.drop d).hub.refCount d.frame.mStreamType d.frame.mBuffer d.frame.mFrameType =
      st.hub.refCount d.frame.mStreamType d.frame.mBuffer d.frame.mFrameType - 1 := by
    simp only [HubRun.drop, CameraStreamHub.returnFrame, CameraStreamHub.refCount_decRefCount,
      and_self, if_true]
  rw [hdec, hbefore, ← howed] at hafter
  omega

/-! ### Subscriptions -/

/-- Subscribing keeps the state. -/
lemma Clean.subscribe (h : Clean st) (i : ℕ) (callback cookie : Ptr) :
    Clean { st with hub := (st.hub.subscribe i callback cookie).2 } := by
  unfold CameraStreamHub.subscribe
  cases FrameType.ofIndex? i with
  | none => exact h
  | some t =>
    refine ⟨h.accounted, h.registered, fun d hd hlive => ?_⟩
    have hsub := h.subscribed d hd hlive
    by_cases ht : d.frame.mFrameType = t
    · subst ht
      simp only [Function.update_self, KeyedVector.find?_add]
      split_ifs
      · rfl
      · exact hsub
    · simpa [ht] using hsub

/-- The ledger of a buffer after an `unsubscribe`. -/
lemma owed_unsubscribe (st : HubRun) {i : ℕ} {t : FrameType} (hi : FrameType.ofIndex? i = some t)
    (cookie : Ptr) (s : StreamType) (b : Ptr) :
    (st.unsubscribe i cookie).owed s b = (st.owed s b).filter
      fun d => ¬ (d.frame.mFrameType = t ∧ d.frame.mCookie = cookie) := by
  simp only [owed, unsubscribe, hi]
  exact filter_map_endSubscription (fun f => f.mStreamType = s ∧ f.mBuffer = b) t cookie st.held

/-- The end of a subscription leaves the frame alone. -/
@[simp] lemma endSubscription_frame (t : FrameType) (cookie : Ptr) (d : Delivery) :
    (endSubscription t cookie d).frame = d.frame := by
  unfold endSubscription
  split_ifs <;> rfl

/-- A delivery whose subscription has not ended is another one's. -/
lemma live_of_endSubscription {t : FrameType} {cookie : Ptr} {d : Delivery}
    (h : (endSubscription t cookie d).live = true) :
    d.live = true ∧ ¬ (d.frame.mFrameType = t ∧ d.frame.mCookie = cookie) := by
  unfold endSubscription at h
  split_ifs at h with hc
  exact ⟨h, hc⟩

/-- A subscriber that leaves others behind changes no buffer. -/
lemma unsubscribe_of_others {i : ℕ} {t : FrameType} (hi : FrameType.ofIndex? i = some t)
    {cookie : Ptr} (hsize : ((st.hub.removeSubscriber t cookie).mSubscribers t).size > 0) :
    (st.unsubscribe i cookie).hub = st.hub.removeSubscriber t cookie ∧
      (st.unsubscribe i cookie).log = st.log := by
  simp [unsubscribe, CameraStreamHub.unsubscribe, hi, hsize]

/-- The last subscriber clears the references of its frame type. -/
lemma unsubscribe_of_last {i : ℕ} {t : FrameType} (hi : FrameType.ofIndex? i = some t)
    {cookie : Ptr} (hsize : ¬ ((st.hub.removeSubscriber t cookie).mSubscribers t).size > 0) :
    (st.unsubscribe i cookie).hub =
        ((st.hub.removeSubscriber t cookie).clearRefCount t).1 ∧
      (st.unsubscribe i cookie).log =
        st.log ++ ((st.hub.removeSubscriber t cookie).clearRefCount t).2 := by
  simp only [unsubscribe, CameraStreamHub.unsubscribe, hi, if_neg hsize, and_self]

/-- An `unsubscribe` removes no other subscriber. -/
lemma find?_removeSubscriber (hub : CameraStreamHub) (t u : FrameType) (cookie c : Ptr) :
    ((hub.removeSubscriber t cookie).mSubscribers u).find? c =
      if u = t ∧ c = cookie then none else (hub.mSubscribers u).find? c := by
  by_cases hu : u = t
  · subst hu
    simp [CameraStreamHub.removeSubscriber, KeyedVector.find?_removeItem]
  · simp [CameraStreamHub.removeSubscriber, hu]

/-- The subscriptions that have not ended are in the table after an `unsubscribe`. -/
lemma Clean.subscribed_unsubscribe (h : Clean st) {i : ℕ} {t : FrameType}
    (hi : FrameType.ofIndex? i = some t) (cookie : Ptr) {d : Delivery}
    (hd : d ∈ (st.unsubscribe i cookie).held) (hlive : d.live = true) :
    ((((st.hub.removeSubscriber t cookie).mSubscribers d.frame.mFrameType).find?
      d.frame.mCookie)).isSome := by
  simp only [unsubscribe, hi] at hd
  obtain ⟨d', hd', rfl⟩ := List.mem_map.mp hd
  obtain ⟨hlive', hother⟩ := live_of_endSubscription hlive
  rw [endSubscription_frame, find?_removeSubscriber, if_neg hother]
  exact h.subscribed d' hd' hlive'

/-- Without subscribers left, all open deliveries of the frame type were the leaving one's. -/
lemma Clean.owed_of_last (h : Clean st) {i : ℕ} {t : FrameType}
    (hi : FrameType.ofIndex? i = some t) {cookie : Ptr}
    (hsize : ¬ ((st.hub.removeSubscriber t cookie).mSubscribers t).size > 0)
    (s : StreamType) (b : Ptr) :
    (st.unsubscribe i cookie).owed s b =
      (st.owed s b).filter fun d => d.frame.mFrameType ≠ t := by
  rw [owed_unsubscribe st hi]
  refine List.filter_congr fun d hd => ?_
  rw [decide_eq_decide]
  refine not_congr ⟨And.left, fun ht => ⟨ht, ?_⟩⟩
  by_contra hne
  obtain ⟨hd, hon⟩ := List.mem_filter.mp hd
  have hsub := h.subscribed d hd (of_decide_eq_true hon).1
  -- another subscriber would still be in the table
  have hfind := find?_removeSubscriber st.hub t t cookie d.frame.mCookie
  rw [if_neg fun hc => hne hc.2, ← ht] at hfind
  rw [← hfind, KeyedVector.find?, ht] at hsub
  have hnil : ((st.hub.removeSubscriber t cookie).mSubscribers t).entries = [] :=
    List.length_eq_zero_iff.mp (Nat.le_zero.mp (not_lt.mp hsize))
  rw [hnil] at hsub
  simp at hsub

/-- The tally of the open deliveries without those of one frame type. -/
lemma ofList_filter_ne (t u : FrameType) (l : List Delivery) :
    Tally.ofList (·.frame.mFrameType) (l.filter fun d => d.frame.mFrameType ≠ t) u =
      if u = t then 0 else Tally.ofList (·.frame.mFrameType) l u := by
  simp only [Tally.ofList, List.countP_filter]
  split_ifs with hu
  · rw [List.countP_eq_zero]
    intro d _
    simp [hu]
  · refine List.countP_congr fun d _ => ?_
    simp only [ne_eq, decide_not, Bool.and_eq_true, decide_eq_true_eq, Bool.not_eq_eq_eq_not,
      Bool.not_true, decide_eq_false_iff_not, and_iff_left_iff_imp]
    rintro rfl
    exact hu

/-- A subscriber that leaves nothing behind, or nobody, keeps the state. -/
lemma Clean.unsubscribe (h : Clean st) {i : ℕ} {t : FrameType}
    (hi : FrameType.ofIndex? i = some t) {cookie : Ptr} (hleaves : LeavesNothing st t cookie) :
    Clean (st.unsubscribe i cookie) := by
  have hheld : (st.unsubscribe i cookie).held = st.held.map (endSubscription t cookie) := by
    simp only [HubRun.unsubscribe, hi]
  by_cases hsize : ((st.hub.removeSubscriber t cookie).mSubscribers t).size > 0
  · obtain ⟨hhub, -⟩ := unsubscribe_of_others hi hsize
    refine ⟨fun s b hb => ?_, fun d hd => ?_, fun d hd hlive => ?_⟩
    · rw [hhub] at hb
      obtain ⟨buf, hbuf, hcounted, hcount⟩ := h.accounted s b hb
      refine ⟨buf, by rw [hhub]; exact hbuf, hcounted, fun u => ?_⟩
      rw [hcount, owed_unsubscribe st hi, List.filter_eq_self.mpr fun d hd => ?_]
      obtain ⟨hd, hon⟩ := List.mem_filter.mp hd
      exact decide_eq_true (hleaves hsize d hd (of_decide_eq_true hon).1)
    · rw [hheld] at hd
      obtain ⟨d', hd', rfl⟩ := List.mem_map.mp hd
      rw [hhub, endSubscription_frame]
      exact h.registered d' hd'
    · rw [hhub]
      exact h.subscribed_unsubscribe hi cookie hd hlive
  · obtain ⟨hhub, -⟩ := unsubscribe_of_last hi hsize
    have hlookup : ∀ s b, (st.unsubscribe i cookie).hub.buffer? s b =
        (st.hub.buffer? s b).map fun buf => (buf.clearRefCount t).1 := fun s b => by
      rw [hhub]
      exact CameraStreamHub.buffer?_clearRefCount _ t s b
    refine ⟨fun s b hb => ?_, fun d hd => ?_, fun d hd hlive => ?_⟩
    · rw [hlookup, Option.isSome_map] at hb
      obtain ⟨buf, hbuf, hcounted, hcount⟩ := h.accounted s b hb
      refine ⟨_, by rw [hlookup, hbuf, Option.map_some], hcounted.clearRefCount t, fun u => ?_⟩
      rw [CameraStreamBuffer.mRefCount_clearRefCount, h.owed_of_last hi hsize, ofList_filter_ne,
        hcount]
    · rw [hheld] at hd
      obtain ⟨d', hd', rfl⟩ := List.mem_map.mp hd
      rw [hlookup, Option.isSome_map, endSubscription_frame]
      exact h.registered d' hd'
    · rw [hhub]
      exact h.subscribed_unsubscribe hi cookie hd hlive

/-- A subscriber that leaves nothing behind, or nobody, meets the guarantee on hand-backs. -/
lemma handsBack_unsubscribe (h : Clean st) {i : ℕ} {t : FrameType}
    (hi : FrameType.ofIndex? i = some t) {cookie : Ptr} (hleaves : LeavesNothing st t cookie) :
    HandsBack st (st.unsubscribe i cookie) := by
  have hclean := h.unsubscribe hi hleaves
  by_cases hsize : ((st.hub.removeSubscriber t cookie).mSubscribers t).size > 0
  · refine handsBack_of_log_eq (unsubscribe_of_others hi hsize).2 fun s b hnil => ?_
    rw [owed_unsubscribe st hi, List.filter_eq_self.mpr fun d hd => ?_] at hnil
    · exact hnil
    · obtain ⟨hd, hon⟩ := List.mem_filter.mp hd
      exact decide_eq_true (hleaves hsize d hd (of_decide_eq_true hon).1)
  · obtain ⟨hhub, hlog⟩ := unsubscribe_of_last hi hsize
    intro s b hb
    obtain ⟨buf, hbuf⟩ := Option.isSome_iff_exists.mp hb
    have hlookup : (st.unsubscribe i cookie).hub.buffer? s b = some (buf.clearRefCount t).1 := by
      rw [hhub, CameraStreamHub.buffer?_clearRefCount, CameraStreamHub.buffer?_removeSubscriber,
        hbuf, Option.map_some]
    have hsum := (h.accounted s b hb).sum_eq hbuf
    have hsum' := (hclean.accounted s b (by rw [hlookup]; rfl)).sum_eq hlookup
    have hfires := CameraStreamBuffer.clearRefCount_fires (b := buf) t
    rw [hsum, hsum', List.length_pos_iff, List.length_eq_zero_iff] at hfires
    rw [handBacks, hlog, List.countP_append,
      CameraStreamHub.countP_clearRefCount (st.hub.removeSubscriber t cookie) hbuf t, handBacks]
    simp only [hfires]

/-- A subscriber that leaves others behind while it holds frames leaves their counts behind. -/
lemma not_countsOpen_unsubscribe (h : Clean st) {i : ℕ} {t : FrameType}
    (hi : FrameType.ofIndex? i = some t) {cookie : Ptr} (hleaves : ¬ LeavesNothing st t cookie) :
    ¬ CountsOpen (st.unsubscribe i cookie) := by
  unfold LeavesNothing at hleaves
  push Not at hleaves
  obtain ⟨hsize, d, hd, hlive, rfl, rfl⟩ := hleaves
  obtain ⟨hhub, -⟩ := unsubscribe_of_others hi hsize
  have hreg := h.registered d hd
  intro hcounts
  have hafter := hcounts d.frame.mStreamType d.frame.mBuffer (by rw [hhub]; exact hreg)
    d.frame.mFrameType
  have hbefore := (h.accounted _ _ hreg).refCount_eq d.frame.mFrameType
  have hsame : (st.unsubscribe i d.frame.mCookie).hub.refCount d.frame.mStreamType
      d.frame.mBuffer d.frame.mFrameType =
        st.hub.refCount d.frame.mStreamType d.frame.mBuffer d.frame.mFrameType := by
    rw [hhub]
    rfl
  have hmem : d ∈ st.owed d.frame.mStreamType d.frame.mBuffer :=
    List.mem_filter.mpr ⟨hd, by simp [hlive]⟩
  -- the delivery counts before, and is filtered out after
  have hsplit := List.countP_eq_countP_filter_add (st.owed d.frame.mStreamType d.frame.mBuffer)
    (fun d' => decide (d'.frame.mFrameType = d.frame.mFrameType)) fun d' =>
      decide ¬ (d'.frame.mFrameType = d.frame.mFrameType ∧ d'.frame.mCookie = d.frame.mCookie)
  have hpos : 0 < ((st.owed d.frame.mStreamType d.frame.mBuffer).filter fun d' =>
      !decide ¬ (d'.frame.mFrameType = d.frame.mFrameType ∧
        d'.frame.mCookie = d.frame.mCookie)).countP
          fun d' => decide (d'.frame.mFrameType = d.frame.mFrameType) :=
    List.countP_pos_iff.mpr ⟨d, List.mem_filter.mpr ⟨hmem, by simp⟩, by simp⟩
  rw [hsame, hbefore, owed_unsubscribe st hi, Tally.ofList, Tally.ofList] at hafter
  omega

/-! ### Runs -/

/-- An undisturbed step keeps the state. -/
lemma Clean.step (h : Clean st) {a : HubAction} (ha : Undisturbed st a) : Clean (st.step a) := by
  cases a with
  | subscribe i callback cookie => exact h.subscribe i callback cookie
  | unsubscribe i cookie =>
    cases hi : FrameType.ofIndex? i with
    | none => simpa [HubRun.step, HubRun.unsubscribe, CameraStreamHub.unsubscribe, hi] using h
    | some t => exact h.unsubscribe hi (ha t hi)
  | acquire frame =>
    simp only [HubRun.step]
    split_ifs with hdel
    · have hsome : ∀ s b, ((st.acquire frame).hub.buffer? s b).isSome =
          (st.hub.buffer? s b).isSome := fun s b =>
        st.hub.isSome_buffer?_incRefCount _ _ _ _ _
      refine ⟨fun s b hb => ?_, fun d hd => ?_, fun d hd hlive => ?_⟩
      · rw [hsome] at hb
        exact (h.accounted s b hb).acquire frame
      · rw [hsome]
        rcases List.mem_append.mp hd with hd | hd
        · exact h.registered d hd
        · rw [List.mem_singleton.mp hd]
          exact hdel.1
      · rcases List.mem_append.mp hd with hd | hd
        · exact h.subscribed d hd hlive
        · rw [List.mem_singleton.mp hd]
          exact hdel.2
    · exact h
  | call k callback frame =>
    refine ⟨fun s b hb => (h.accounted s b hb).call k callback frame, fun d hd => ?_,
      fun d hd hlive => ?_⟩
    all_goals
      obtain ⟨d', hd', rfl⟩ := List.mem_map.mp hd
      rw [markCalled_frame]
    · exact h.registered d' hd'
    · exact h.subscribed d' hd' (by simpa using hlive)
  | giveBack k =>
    simp only [HubRun.step]
    cases hfind : st.find? k with
    | none => exact h
    | some d => exact h.drop (Sending.of_find? hfind).1 (ha d hfind)
  | returned k =>
    simp only [HubRun.step, HubRun.returned]
    cases hfind : st.find? k with
    | none => exact h
    | some d =>
      by_cases hcalled : d.called = true
      · have hnote : Clean { st with log := st.log ++ [.returned k] } := ⟨h.1, h.2, h.3⟩
        simp only [hcalled, if_true]
        exact hnote.drop (Sending.of_find? hfind).1 (ha d hfind hcalled)
      · simp only [hcalled]
        exact h

/-- An undisturbed step meets the guarantee on hand-backs. -/
lemma Clean.handsBack_step (h : Clean st) {a : HubAction} (ha : Undisturbed st a) :
    HandsBack st (st.step a) := by
  have hrefl : HandsBack st st := handsBack_of_log_eq rfl fun _ _ => id
  cases a with
  | subscribe i callback cookie => exact handsBack_of_log_eq rfl fun _ _ => id
  | unsubscribe i cookie =>
    cases hi : FrameType.ofIndex? i with
    | none => simpa [HubRun.step, HubRun.unsubscribe, CameraStreamHub.unsubscribe, hi] using hrefl
    | some t => exact handsBack_unsubscribe h hi (ha t hi)
  | acquire frame =>
    simp only [HubRun.step]
    split_ifs
    · refine handsBack_of_log_eq rfl fun s b hnil => ?_
      rw [owed_acquire] at hnil
      exact (List.append_eq_nil_iff.mp hnil).1
    · exact hrefl
  | call k callback frame =>
    intro s b _
    have hlog : (st.step (.call k callback frame)).handBacks s b = st.handBacks s b := by
      simp [handBacks, HubRun.step, HubRun.call, HubEvent.isFillOf]
    rw [hlog, if_neg]
    · rfl
    · rintro ⟨hne, hnil⟩
      rw [HubRun.step, owed_call, List.map_eq_nil_iff] at hnil
      exact hne hnil
  | giveBack k =>
    simp only [HubRun.step]
    cases hfind : st.find? k with
    | none => exact hrefl
    | some d =>
      obtain ⟨hd, -⟩ := Sending.of_find? hfind
      exact handsBack_drop hd (h.accounted _ _ (h.registered d hd)) (ha d hfind)
  | returned k =>
    simp only [HubRun.step, HubRun.returned]
    cases hfind : st.find? k with
    | none => exact hrefl
    | some d =>
      by_cases hcalled : d.called = true
      · obtain ⟨hd, -⟩ := Sending.of_find? hfind
        simp only [hcalled, if_true]
        have hnote : HandsBack { st with log := st.log ++ [.returned k] }
            (HubRun.drop { st with log := st.log ++ [.returned k] } d) :=
          handsBack_drop hd (h.accounted _ _ (h.registered d hd)) (ha d hfind hcalled)
        intro s b hb
        have hlog : handBacks { st with log := st.log ++ [.returned k] } s b =
            st.handBacks s b := by
          simp [handBacks, HubEvent.isFillOf]
        rw [hnote s b hb, hlog]
        rfl
      · simp only [hcalled]
        exact hrefl

/-- A disturbed step leaves some count wrong. -/
lemma Clean.not_countsOpen_step (h : Clean st) {a : HubAction} (ha : ¬ Undisturbed st a) :
    ¬ CountsOpen (st.step a) := by
  cases a with
  | subscribe | acquire | call => exact absurd trivial ha
  | unsubscribe i cookie =>
    simp only [Undisturbed, not_forall] at ha
    obtain ⟨t, hi, hleaves⟩ := ha
    exact not_countsOpen_unsubscribe h hi hleaves
  | giveBack k =>
    simp only [Undisturbed, not_forall] at ha
    obtain ⟨d, hfind, hlate⟩ := ha
    rw [Option.mem_def] at hfind
    simp only [HubRun.step, hfind]
    exact not_countsOpen_drop h (Sending.of_find? hfind).1 hlate
  | returned k =>
    simp only [Undisturbed, not_forall] at ha
    obtain ⟨d, hfind, hcalled, hlate⟩ := ha
    rw [Option.mem_def] at hfind
    have hnote : Clean { st with log := st.log ++ [.returned k] } := ⟨h.1, h.2, h.3⟩
    simp only [HubRun.step, HubRun.returned, hfind, hcalled, if_true]
    exact not_countsOpen_drop hnote (Sending.of_find? hfind).1 hlate

/-- A step is faithful exactly if it is undisturbed. -/
lemma Clean.faithful_iff (h : Clean st) (a : HubAction) : Faithful st a ↔ Undisturbed st a := by
  constructor
  · intro hf
    by_contra ha
    exact h.not_countsOpen_step ha hf.1
  · intro ha
    exact ⟨fun s b hb t => ((h.step ha).accounted s b hb).refCount_eq t, h.handsBack_step ha⟩

end Steps

/-- Every buffer of the hub is unused. -/
def Unused (hub : CameraStreamHub) : Prop :=
  ∀ s b buf, hub.buffer? s b = some buf → buf.Idle

/-- A hub of unused buffers is accounted for. -/
lemma clean_start {hub : CameraStreamHub} (h : Unused hub) : Clean (start hub) where
  accounted s b hb := by
    obtain ⟨buf, hbuf⟩ := Option.isSome_iff_exists.mp hb
    exact accountedAt_start hbuf (h s b buf hbuf)
  registered _ hd := absurd hd List.not_mem_nil
  subscribed _ hd := absurd hd List.not_mem_nil

/-- **The reference counts over runs of the hub.** From unused buffers, every step of a run
leaves each count the number of open deliveries and hands a buffer back exactly when its last
one closes, if and only if every step is undisturbed.

**Proof sketch.** In a state whose counts are those of the ledger, an undisturbed step keeps
them so, and the totals decide the hand-backs. A late return that meets a newer delivery takes
one from that delivery's count, and a subscriber that leaves others behind while it holds
frames leaves their counts behind. -/
theorem along_faithful_iff {hub : CameraStreamHub} (h : Unused hub) (run : List HubAction) :
    StepRun.Along step Faithful (start hub) run ↔
      StepRun.Along step Undisturbed (start hub) run :=
  StepRun.along_iff_along (I := Clean) (fun _ a hclean => Clean.faithful_iff hclean a)
    (fun _ _ hclean ha => Clean.step hclean ha) (clean_start h)

/-! ### A `sendFrame` as a run -/

section SendFrame

variable {st : HubRun} {frame : CameraFrame} (picks : ℕ → List ℕ)

/-- The turn of consumers is a run of returns. -/
lemma final_returned (i : ℕ) (st : HubRun) :
    StepRun.final step st ((picks i).map .returned) = holders picks i st :=
  List.foldl_map

/-- A delivery is a run: its reference, a turn of the consumers, its callback, and their next
turn. -/
lemma deliver_is_run {r : Round} (h : Deliverable st.hub r.frame) :
    ∃ run, st.deliver (holders picks) r = StepRun.final step st run := by
  refine ⟨[.acquire r.frame] ++ (picks (2 * st.rounds)).map .returned ++
    [if r.callback = NULL then .giveBack st.rounds else .call st.rounds r.callback r.frame] ++
    (picks (2 * st.rounds + 1)).map .returned, ?_⟩
  simp only [StepRun.final_append, final_returned, StepRun.final_cons, StepRun.final_nil]
  have hacquire : st.step (.acquire r.frame) = st.acquire r.frame := if_pos h
  rw [hacquire, deliver]
  split_ifs <;> rfl

/-- The deliveries of a `sendFrame` can be made. -/
lemma deliverable_of_mem_rounds {hub hub' : CameraStreamHub} {types : BitVec 32} {r : Round}
    (hr : r ∈ hub.rounds frame types) (hsame : SameTables frame hub hub') :
    Deliverable hub' r.frame := by
  obtain ⟨buf, t, hbuf, e, he, hframe⟩ := CameraStreamHub.mem_rounds hr
  rw [hframe]
  constructor
  · have := congrArg Option.isSome hsame.2
    rw [Option.isSome_map, Option.isSome_map, hbuf] at this
    exact this
  · rw [hsame.1, ← KeyedVector.mem_keys]
    exact List.mem_map_of_mem he

/-- **A `sendFrame` to consumers is a run of the hub's steps.** -/
theorem sendFrame_is_run (st : HubRun) (frame : CameraFrame) (types : BitVec 32) :
    ∃ run, (st.sendFrame (holders picks) frame types).2 = StepRun.final step st run := by
  rw [sendFrame_eq_foldl st (fun st' r h => h.deliver picks r)]
  have hfold : ∀ (rs : List Round) (st' : HubRun), SameTables frame st.hub st'.hub →
      (∀ r ∈ rs, r ∈ st.hub.rounds frame types) →
      ∃ run, rs.foldl (deliver (holders picks)) st' = StepRun.final step st' run := by
    intro rs
    induction rs with
    | nil => exact fun st' _ _ => ⟨[], rfl⟩
    | cons r rs ih =>
      intro st' hsame hrs
      obtain ⟨run, hrun⟩ := deliver_is_run picks
        (deliverable_of_mem_rounds (hrs r List.mem_cons_self) hsame)
      obtain ⟨run', hrun'⟩ := ih _ (hsame.deliver picks r)
        fun r' hr' => hrs r' (List.mem_cons_of_mem _ hr')
      refine ⟨run ++ run', ?_⟩
      rw [List.foldl_cons, hrun', StepRun.final_append, hrun]
  exact hfold _ st ⟨rfl, rfl⟩ fun _ hr => hr

end SendFrame

end HubRun

/-! ### A late return, and an early leave -/

/-- A hub with one preview buffer and no subscribers. -/
def oneBuffer : CameraStreamHub where
  mSubscribers _ := ∅
  mStreams s := if s = .PREVIEW_STREAM_TYPE then CameraStream.addFrameBuffer ∅ 7 else ∅

/-- Its buffer is unused. -/
lemma unused_oneBuffer : HubRun.Unused oneBuffer := by
  intro s b buf hbuf
  cases s with
  | PREVIEW_STREAM_TYPE =>
    have hfind : (if b = 7 then some CameraStreamBuffer.fresh else none) = some buf :=
      (KeyedVector.find?_add ∅ 7 b CameraStreamBuffer.fresh).symm.trans hbuf
    split_ifs at hfind
    exact Option.some.inj hfind ▸ CameraStreamBuffer.idle_fresh
  | IMAGE_STREAM_TYPE => exact absurd hbuf (Option.some_ne_none buf).symm

/-- The preview frame as it is delivered to a cookie. -/
def previewTo (cookie : Ptr) : CameraFrame := { previewFrame with mCookie := cookie }

/-- A subscriber that returns its frame before it leaves keeps the run faithful. -/
theorem along_faithful_oneBuffer :
    StepRun.Along HubRun.step HubRun.Faithful (HubRun.start oneBuffer)
      [.subscribe 0 101 1, .acquire (previewTo 1), .call 0 101 (previewTo 1), .returned 0,
        .unsubscribe 0 1] :=
  (HubRun.along_faithful_iff unused_oneBuffer _).mpr (by decide)

/-- A frame that is returned after its subscriber has left and come back takes the reference of
the next delivery, and the frame of a subscriber that leaves another one behind is never given
back. -/
theorem not_along_faithful_oneBuffer :
    HubRun.Unused oneBuffer ∧
      ¬ StepRun.Along HubRun.step HubRun.Faithful (HubRun.start oneBuffer)
        [.subscribe 0 101 1, .acquire (previewTo 1), .call 0 101 (previewTo 1),
          .unsubscribe 0 1, .subscribe 0 101 1, .acquire (previewTo 1), .returned 0] ∧
      ¬ StepRun.Along HubRun.step HubRun.Faithful (HubRun.start oneBuffer)
        [.subscribe 0 101 1, .subscribe 0 102 2, .acquire (previewTo 1),
          .call 0 101 (previewTo 1), .acquire (previewTo 2), .call 1 102 (previewTo 2),
          .unsubscribe 0 1] := by
  refine ⟨unused_oneBuffer, fun h => ?_, fun h => ?_⟩
  · have hcount := h.2.2.2.2.2.2.1.1 .PREVIEW_STREAM_TYPE 7 rfl .PREVIEW_FRAME_SYNC
    exact absurd hcount (by decide)
  · have hcount := h.2.2.2.2.2.2.1.1 .PREVIEW_STREAM_TYPE 7 rfl .PREVIEW_FRAME_SYNC
    exact absurd hcount (by decide)

end CameraHal
