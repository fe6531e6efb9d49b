import Gs702aHal.Camera.SendFrame

set_option relaxedAutoImplicit false
set_option autoImplicit false

/-!
# When a sent buffer is handed back

A buffer that is sent to several subscribers should go back to the producer once, after all of
them have returned it. `CameraStream::sendFrame` takes the references one at a time, each just
before its callback, so a buffer goes back as soon as the references taken so far are all
returned. This file determines when that happens too early.

## Main definitions

* `CameraHal.HubRun.holders` — consumers that return their frames at given turns.
* `CameraHal.HandedBackLast` — the buffer goes back at most once, after all returns.
* `CameraHal.SomeoneHolds` — at every further delivery an earlier one is still unreturned.

## Main results

* `CameraHal.HubRun.mem_held_run` — which deliveries are open after some of the deliveries.
* `CameraHal.HubRun.handedBackLast_iff` — a buffer without references that is sent is handed
  back last if and only if someone holds it at every further delivery.
-/

namespace CameraHal

/-- A hand-back to the producer. -/
def HubEvent.IsFill : HubEvent → Prop
  | .fillThisBuffer .. => True
  | _ => False

instance : DecidablePred HubEvent.IsFill := fun e => by
  cases e <;> unfold HubEvent.IsFill <;> infer_instance

/-- What a `sendFrame` should guarantee of the hand-backs among its events. -/
structure HandedBackLast (log : List HubEvent) : Prop where
  /-- A hand-back comes after the returns of all deliveries. -/
  all_returned : ∀ pre e post, log = pre ++ e :: post → e.IsFill →
    ∀ k callback frame, .callback k callback frame ∈ log → .returned k ∈ pre
  /-- No callback comes after a hand-back. -/
  no_callback : ∀ pre e post, log = pre ++ e :: post → e.IsFill →
    ∀ k callback frame, .callback k callback frame ∉ post
  /-- There is at most one hand-back. -/
  at_most_once : log.countP (·.IsFill) ≤ 1

/-- At every delivery but the first one, an earlier delivery has had its callback entered and
has not been returned: `picks i` are the deliveries returned at turn `i`. -/
def SomeoneHolds (picks : ℕ → List ℕ) (rs : List Round) : Prop :=
  ∀ k, 0 < k → k < rs.length → ∃ j < k, (∃ r, rs[j]? = some r ∧ r.callback ≠ NULL) ∧
    ∀ i, 2 * j + 1 ≤ i → i < 2 * k → j ∉ picks i

/-! ### Logs -/

/-- A log without hand-backs is fine. -/
lemma handedBackLast_of_quiet {log : List HubEvent} (h : ∀ e ∈ log, ¬ e.IsFill) :
    HandedBackLast log where
  all_returned _ e _ hlog he := absurd he (h e (by simp [hlog]))
  no_callback _ e _ hlog he := absurd he (h e (by simp [hlog]))
  at_most_once := by
    rw [List.countP_eq_zero.mpr fun e he => by simpa using h e he]
    exact Nat.zero_le 1

/-- A log whose only hand-back is its last event is fine if all deliveries were returned
before. -/
lemma handedBackLast_concat {log : List HubEvent} (h : ∀ e ∈ log, ¬ e.IsFill) (e : HubEvent)
    (hret : ∀ k callback frame, .callback k callback frame ∈ log → .returned k ∈ log)
    (he : e.IsFill) : HandedBackLast (log ++ [e]) := by
  -- the hand-back is the last event of any splitting at one
  have hsplit : ∀ pre e' post, log ++ [e] = pre ++ e' :: post → e'.IsFill →
      pre = log ∧ post = [] := by
    intro pre e' post hlog he'
    rcases List.eq_nil_or_concat' post with rfl | ⟨post, e'', rfl⟩
    · exact ⟨(List.append_inj' hlog rfl).1.symm, rfl⟩
    · have hinit : log = pre ++ e' :: post := by
        rw [← List.cons_append, ← List.append_assoc] at hlog
        exact (List.append_inj' hlog rfl).1
      exact absurd he' (h e' (by simp [hinit]))
  refine ⟨fun pre e' post hlog he' k callback frame hmem => ?_,
    fun pre e' post hlog he' k callback frame hmem => ?_, ?_⟩
  · obtain ⟨rfl, rfl⟩ := hsplit pre e' post hlog he'
    rcases List.mem_append.mp hmem with hmem | hmem
    · exact hret k callback frame hmem
    · rw [← List.mem_singleton.mp hmem] at he
      exact he.elim
  · obtain ⟨rfl, rfl⟩ := hsplit pre e' post hlog he'
    exact List.not_mem_nil hmem
  · rw [List.countP_append, List.countP_eq_zero.mpr fun e he => by simpa using h e he]
    simp [he]

/-- A callback or a second hand-back after a hand-back is not fine. -/
lemma not_handedBackLast {log mid rest : List HubEvent} {e e' : HubEvent} (he : e ∈ log)
    (hfill : e.IsFill) (hmid : e' ∈ mid)
    (hbad : e'.IsFill ∨ ∃ k callback frame, e' = .callback k callback frame) :
    ¬ HandedBackLast (log ++ mid ++ rest) := by
  intro h
  obtain ⟨pre, post, rfl⟩ := List.append_of_mem he
  rcases hbad with hbad | ⟨k, callback, frame, rfl⟩
  · have h1 : 0 < (pre ++ e :: post).countP (·.IsFill) :=
      List.countP_pos_iff.mpr ⟨e, he, by simpa using hfill⟩
    have h2 : 0 < mid.countP (·.IsFill) :=
      List.countP_pos_iff.mpr ⟨e', hmid, by simpa using hbad⟩
    have := h.at_most_once
    rw [List.countP_append, List.countP_append] at this
    omega
  · exact h.no_callback pre e (post ++ mid ++ rest) (by simp) hfill k callback frame
      (by simp [hmid])

namespace HubRun

/-- Consumers that return the deliveries `picks i` at turn `i`, in that order. -/
def holders (picks : ℕ → List ℕ) : Turns := fun i st => (picks i).foldl returned st

/-! ### The tables during a `sendFrame` -/

section Tables

variable {frame : CameraFrame} {hub : CameraStreamHub} {st : HubRun}

/-- Returns keep the tables. -/
lemma SameTables.returned (h : SameTables frame hub st.hub) (k : ℕ) :
    SameTables frame hub (st.returned k).hub := by
  unfold HubRun.returned
  split
  · split_ifs
    · exact h.drop _
    · exact h
  · exact h

/-- The turns of consumers keep the tables. -/
lemma SameTables.holders (h : SameTables frame hub st.hub) (picks : ℕ → List ℕ) (i : ℕ) :
    SameTables frame hub (holders picks i st).hub :=
  List.foldlRecOn (motive := fun st => SameTables frame hub st.hub) (picks i) HubRun.returned h
    fun _ h k _ => h.returned k

/-- A delivery under consumers keeps the tables. -/
lemma SameTables.deliver (picks : ℕ → List ℕ) (h : SameTables frame hub st.hub) (r : Round) :
    SameTables frame hub (st.deliver (HubRun.holders picks) r).hub := by
  have h1 := (h.acquire r.frame).holders picks (2 * st.rounds)
  refine SameTables.holders ?_ picks (2 * st.rounds + 1)
  split_ifs
  · cases (HubRun.holders picks (2 * st.rounds) (st.acquire r.frame)).find? st.rounds with
    | none => exact h1
    | some d => exact h1.drop d
  · exact h1

end Tables

/-! ### The state during a `sendFrame` -/

section Sending

variable {s : StreamType} {b : Ptr} {st : HubRun}

/-- The state while one buffer is sent: the ledger is accurate and lists deliveries of that
buffer only, by number; the deliveries whose callback was entered are open or returned; and a
buffer whose deliveries are all closed has been handed back. -/
structure Sending (s : StreamType) (b : Ptr) (st : HubRun) : Prop where
  /-- The reference counts of the buffer are those of the ledger. -/
  accounted : st.AccountedAt s b
  /-- The ledger lists deliveries of the buffer. -/
  on_buffer : ∀ d ∈ st.held, d.live = true ∧ d.frame.mStreamType = s ∧ d.frame.mBuffer = b
  /-- The ledger lists a delivery once. -/
  nodup : (st.held.map Delivery.round).Nodup
  /-- The ledger lists deliveries that were made. -/
  round_lt : ∀ d ∈ st.held, d.round < st.rounds
  /-- A delivery whose callback was entered is open or returned. -/
  settled : ∀ k callback frame, .callback k callback frame ∈ st.log →
    .returned k ∈ st.log ∨ ∃ d ∈ st.held, d.round = k ∧ d.called = true
  /-- Deliveries that are all closed have handed the buffer back. -/
  handed : 0 < st.rounds → st.held = [] → ∃ e ∈ st.log, e.IsFill

namespace Sending

/-- An open delivery is found by its number. -/
lemma find?_eq (h : Sending s b st) {d : Delivery} (hd : d ∈ st.held) :
    st.find? d.round = some d := by
  obtain ⟨d', hd'⟩ : ∃ d', st.find? d.round = some d' := by
    rw [← Option.isSome_iff_exists, HubRun.find?, List.find?_isSome]
    exact ⟨d, hd, by simp⟩
  have hround : d'.round = d.round := by simpa using List.find?_some hd'
  rw [hd', List.inj_on_of_nodup_map h.nodup (List.mem_of_find?_eq_some hd') hd hround]

/-- A delivery that is found is open and has the number. -/
lemma of_find? {d : Delivery} {k : ℕ} (hd : st.find? k = some d) :
    d ∈ st.held ∧ d.round = k :=
  ⟨List.mem_of_find?_eq_some hd, by simpa using List.find?_some hd⟩

/-- A buffer without references, before it is sent. -/
lemma of_idle {hub : CameraStreamHub} {buf : CameraStreamBuffer}
    (hbuf : hub.buffer? s b = some buf) (hidle : buf.Idle) : Sending s b (start hub) where
  accounted := accountedAt_start hbuf hidle
  on_buffer _ hd := absurd hd List.not_mem_nil
  nodup := List.nodup_nil
  round_lt _ hd := absurd hd List.not_mem_nil
  settled _ _ _ hk := absurd hk List.not_mem_nil
  handed h := absurd h (lt_irrefl 0)

/-- A delivery of the buffer keeps the state. -/
lemma acquire (h : Sending s b st) {frame : CameraFrame} (hs : frame.mStreamType = s)
    (hb : frame.mBuffer = b) : Sending s b (st.acquire frame) where
  accounted := h.accounted.acquire frame
  on_buffer d hd := by
    rcases List.mem_append.mp hd with hd | hd
    · exact h.on_buffer d hd
    · rw [List.mem_singleton.mp hd]
      exact ⟨rfl, hs, hb⟩
  nodup := by
    simp only [HubRun.acquire, List.map_append, List.map_singleton]
    refine List.nodup_append.mpr ⟨h.nodup, List.nodup_singleton _, fun k hk k' hk' => ?_⟩
    obtain ⟨d, hd, rfl⟩ := List.mem_map.mp hk
    rw [List.mem_singleton.mp hk']
    exact (h.round_lt d hd).ne
  round_lt d hd := by
    rcases List.mem_append.mp hd with hd | hd
    · exact (h.round_lt d hd).trans (Nat.lt_succ_self _)
    · rw [List.mem_singleton.mp hd]
      exact Nat.lt_succ_self _
  settled k callback frame hk := by
    rcases h.settled k callback frame hk with hret | ⟨d, hd, hdk⟩
    · exact Or.inl hret
    · exact Or.inr ⟨d, List.mem_append_left _ hd, hdk⟩
  handed _ hnil := absurd hnil (by simp [HubRun.acquire])

/-- Entering the callback of an open delivery keeps the state. -/
lemma call (h : Sending s b st) {d : Delivery} (hd : d ∈ st.held) (callback : Ptr)
    (frame : CameraFrame) : Sending s b (st.call d.round callback frame) where
  accounted := h.accounted.call d.round callback frame
  on_buffer d' hd' := by
    obtain ⟨d'', hd'', rfl⟩ := List.mem_map.mp hd'
    simpa using h.on_buffer d'' hd''
  nodup := by
    simpa [HubRun.call, Function.comp_def] using h.nodup
  round_lt d' hd' := by
    obtain ⟨d'', hd'', rfl⟩ := List.mem_map.mp hd'
    rw [markCalled_round]
    exact h.round_lt d'' hd''
  settled k callback' frame' hk := by
    rcases List.mem_append.mp hk with hk | hk
    · rcases h.settled k callback' frame' hk with hret | ⟨d', hd', hround, hcalled⟩
      · exact Or.inl (List.mem_append_left _ hret)
      · refine Or.inr ⟨markCalled d.round d', List.mem_map_of_mem hd', by simpa using hround, ?_⟩
        simp [hcalled]
    · obtain ⟨rfl, -, -⟩ := HubEvent.callback.inj (List.mem_singleton.mp hk)
      exact Or.inr ⟨markCalled d.round d, List.mem_map_of_mem hd, by simp, by simp⟩
  handed hpos hnil := by
    obtain ⟨e, he, hfill⟩ := h.handed hpos (List.map_eq_nil_iff.mp hnil)
    exact ⟨e, List.mem_append_left _ he, hfill⟩

/-- The log after a drop: the buffer is handed back exactly if the ledger is empty. -/
lemma drop_log (h : Sending s b st) {d : Delivery} (hd : d ∈ st.held) :
    (st.drop d).log = st.log ++
      if st.held.erase d = [] then [.fillThisBuffer b d.frame.mFrameType s] else [] := by
  have howed : (st.drop d).owed s b = st.held.erase d :=
    List.filter_eq_self.mpr fun d' hd' => by
      simpa using h.on_buffer d' (List.mem_of_mem_erase hd')
  obtain ⟨hlive, hon⟩ := h.on_buffer d hd
  rw [h.accounted.drop_log hd hlive hon, howed]

/-- The drop of a delivery that was returned, or never called, keeps the state. -/
lemma drop (h : Sending s b st) {d : Delivery} (hd : d ∈ st.held)
    (hret : d.called = true → .returned d.round ∈ st.log) : Sending s b (st.drop d) where
  accounted := h.accounted.drop hd (h.on_buffer d hd).1
  on_buffer d' hd' := h.on_buffer d' (List.mem_of_mem_erase hd')
  nodup := h.nodup.sublist (List.erase_sublist.map _)
  round_lt d' hd' := h.round_lt d' (List.mem_of_mem_erase hd')
  settled k callback frame hk := by
    rw [h.drop_log hd] at hk ⊢
    have hk : .callback k callback frame ∈ st.log := by
      rcases List.mem_append.mp hk with hk | hk
      · exact hk
      · split_ifs at hk <;> simp at hk
    rcases h.settled k callback frame hk with hk | ⟨d', hd', rfl, hcalled⟩
    · exact Or.inl (List.mem_append_left _ hk)
    · by_cases hdd : d' = d
      · subst hdd
        exact Or.inl (List.mem_append_left _ (hret hcalled))
      · exact Or.inr ⟨d', (List.mem_erase_of_ne hdd).mpr hd', rfl, hcalled⟩
  handed _ hnil := by
    rw [held_drop] at hnil
    rw [h.drop_log hd, if_pos hnil]
    exact ⟨_, List.mem_append_right _ (List.mem_singleton_self _), trivial⟩

/-- A note in the log keeps the state. -/
lemma note (h : Sending s b st) (k : ℕ) :
    Sending s b { st with log := st.log ++ [.returned k] } where
  accounted := h.accounted
  on_buffer := h.on_buffer
  nodup := h.nodup
  round_lt := h.round_lt
  settled k' callback frame hk := by
    have hk : .callback k' callback frame ∈ st.log := by simpa using hk
    exact (h.settled k' callback frame hk).imp_left (List.mem_append_left _)
  handed hpos hnil := by
    obtain ⟨e, he, hfill⟩ := h.handed hpos hnil
    exact ⟨e, List.mem_append_left _ he, hfill⟩

/-- What a return does: nothing, or the drop of an open delivery whose callback was entered,
with a note in the log. -/
lemma returned_cases (st : HubRun) (k : ℕ) :
    st.returned k = st ∨ ∃ d ∈ st.held, d.round = k ∧ d.called = true ∧
      st.returned k = HubRun.drop { st with log := st.log ++ [.returned k] } d := by
  unfold HubRun.returned
  cases hfind : st.find? k with
  | none => exact Or.inl rfl
  | some d =>
    obtain ⟨hd, hk⟩ := of_find? hfind
    by_cases hcalled : d.called = true
    · exact Or.inr ⟨d, hd, hk, hcalled, by simp only [hcalled, if_true]⟩
    · exact Or.inl (by simp only [hcalled, if_false, Bool.false_eq_true])

/-- A return keeps the state. -/
lemma returned (h : Sending s b st) (k : ℕ) : Sending s b (st.returned k) := by
  rcases returned_cases st k with heq | ⟨d, hd, hk, hcalled, heq⟩
  · rwa [heq]
  · rw [heq]
    exact (h.note k).drop hd fun _ => by simp [hk]

/-- The turn of consumers keeps the state. -/
lemma holders (h : Sending s b st) (picks : ℕ → List ℕ) (i : ℕ) :
    Sending s b (holders picks i st) :=
  List.foldlRecOn (picks i) HubRun.returned h fun _ h k _ => h.returned k

end Sending

/-! ### Open deliveries -/

/-- A return closes the delivery of its number, if it has been called. -/
lemma mem_held_returned (h : Sending s b st) (k : ℕ) (d : Delivery) :
    d ∈ (st.returned k).held ↔ d ∈ st.held ∧ ¬ (d.called = true ∧ d.round = k) := by
  unfold returned
  cases hfind : st.find? k with
  | none =>
    have hne : d ∈ st.held → d.round ≠ k := fun hd hk =>
      absurd hfind (by rw [← hk, h.find?_eq hd]; exact Option.some_ne_none d)
    exact ⟨fun hd => ⟨hd, fun hc => hne hd hc.2⟩, And.left⟩
  | some d' =>
    obtain ⟨hd', rfl⟩ := Sending.of_find? hfind
    have heq : d ∈ st.held → d.round = d'.round → d = d' := fun hd hk =>
      Option.some.inj ((h.find?_eq hd).symm.trans (hk ▸ hfind))
    by_cases hcalled : d'.called = true
    · simp only [hcalled, if_true, held_drop, (List.Nodup.of_map _ h.nodup).mem_erase_iff]
      constructor
      · rintro ⟨hne, hd⟩
        exact ⟨hd, fun hc => hne (heq hd hc.2)⟩
      · rintro ⟨hd, hc⟩
        exact ⟨fun hdd => hc ⟨hdd ▸ hcalled, hdd ▸ rfl⟩, hd⟩
    · simp only [hcalled, if_false, Bool.false_eq_true]
      exact ⟨fun hd => ⟨hd, fun hc => hcalled (heq hd hc.2 ▸ hc.1)⟩, And.left⟩

/-- The turn of consumers closes the deliveries that they return. -/
lemma mem_held_holders (h : Sending s b st) (picks : ℕ → List ℕ) (i : ℕ) (d : Delivery) :
    d ∈ (holders picks i st).held ↔
      d ∈ st.held ∧ ¬ (d.called = true ∧ d.round ∈ picks i) := by
  unfold holders
  generalize picks i = l
  induction l generalizing st with
  | nil => simp
  | cons k l ih =>
    rw [List.foldl_cons, ih (h.returned k), mem_held_returned h]
    simp only [List.mem_cons]
    tauto

/-- A return makes no delivery. -/
@[simp] lemma rounds_returned (st : HubRun) (k : ℕ) : (st.returned k).rounds = st.rounds := by
  rcases Sending.returned_cases st k with heq | ⟨d, -, -, -, heq⟩ <;> rw [heq]
  rfl

/-- The turn of consumers makes no delivery. -/
@[simp] lemma rounds_holders (picks : ℕ → List ℕ) (i : ℕ) (st : HubRun) :
    (holders picks i st).rounds = st.rounds :=
  List.foldlRecOn (motive := fun st' => st'.rounds = st.rounds) (picks i) HubRun.returned rfl
    fun st' h k _ => (rounds_returned st' k).trans h

end Sending

/-! ### One delivery of a `sendFrame` -/

section Deliver

variable {s : StreamType} {b : Ptr} {st : HubRun} (picks : ℕ → List ℕ) {r : Round}

/-- The state in which the callback of a delivery is looked at: its reference is taken and
turn `2k` is over. -/
def taken (st : HubRun) (r : Round) : HubRun := holders picks (2 * st.rounds) (st.acquire r.frame)

/-- The delivery while its callback has not been entered. -/
def fresh (st : HubRun) (r : Round) : Delivery := ⟨st.rounds, r.frame, false, true⟩

/-- The state once the callback is entered, or the reference is given back. -/
def answered (st : HubRun) (r : Round) : HubRun :=
  if r.callback = NULL then (taken picks st r).drop (fresh st r)
  else (taken picks st r).call st.rounds r.callback r.frame

variable (h : Sending s b st) (hs : r.frame.mStreamType = s) (hb : r.frame.mBuffer = b)

include h hs hb in
/-- The reference is taken in the state of a `sendFrame`. -/
lemma sending_taken : Sending s b (taken picks st r) := (h.acquire hs hb).holders picks _

include h hs hb in
/-- The open deliveries once the reference is taken. -/
lemma mem_held_taken (d : Delivery) :
    d ∈ (taken picks st r).held ↔
      d ∈ st.held ∧ ¬ (d.called = true ∧ d.round ∈ picks (2 * st.rounds)) ∨ d = fresh st r := by
  rw [taken, mem_held_holders (h.acquire hs hb)]
  simp only [acquire, List.mem_append, List.mem_singleton, fresh]
  constructor
  · rintro ⟨hd | hd, hc⟩
    · exact Or.inl ⟨hd, hc⟩
    · exact Or.inr hd
  · rintro (⟨hd, hc⟩ | rfl)
    · exact ⟨Or.inl hd, hc⟩
    · exact ⟨Or.inr rfl, fun hc => Bool.false_ne_true hc.1⟩

include h hs hb in
/-- The delivery in progress is open. -/
lemma fresh_mem : fresh st r ∈ (taken picks st r).held :=
  (mem_held_taken picks h hs hb _).mpr (Or.inr rfl)

include h hs hb in
/-- A delivery is its three parts. -/
lemma deliver_eq :
    st.deliver (holders picks) r = holders picks (2 * st.rounds + 1) (answered picks st r) := by
  have hfind : (taken picks st r).find? st.rounds = some (fresh st r) :=
    (sending_taken picks h hs hb).find?_eq (fresh_mem picks h hs hb)
  simp only [deliver, answered]
  rw [← taken, hfind]
  rfl

include h hs hb in
/-- The callback is entered, or the reference given back, in the state of a `sendFrame`. -/
lemma sending_answered : Sending s b (answered picks st r) := by
  have htaken := sending_taken picks h hs hb
  have hmem := fresh_mem picks h hs hb
  unfold answered
  split_ifs
  · exact htaken.drop hmem fun hc => absurd hc Bool.false_ne_true
  · exact htaken.call hmem r.callback r.frame

include h hs hb in
/-- A delivery of the buffer keeps the state. -/
lemma Sending.deliver : Sending s b (st.deliver (HubRun.holders picks) r) := by
  rw [deliver_eq picks h hs hb]
  exact (sending_answered picks h hs hb).holders picks _

/-- A delivery is counted. -/
@[simp] lemma rounds_answered : (answered picks st r).rounds = st.rounds + 1 := by
  unfold answered
  split_ifs <;> simp [taken, acquire, call]

/-- The delivery once its callback has been entered. -/
def entered (st : HubRun) (r : Round) : Delivery := ⟨st.rounds, r.frame, true, true⟩

include h hs hb in
/-- The open deliveries once the callback is entered or the reference given back. -/
lemma mem_held_answered (hcalled : ∀ d ∈ st.held, d.called = true) (d : Delivery) :
    d ∈ (answered picks st r).held ↔ d ∈ st.held ∧ d.round ∉ picks (2 * st.rounds) ∨
      d = entered st r ∧ r.callback ≠ NULL := by
  have hmem := mem_held_taken picks h hs hb
  have hlt : fresh st r ∉ st.held := fun hd => lt_irrefl _ (h.round_lt _ hd)
  unfold answered
  split_ifs with hnull
  · rw [held_drop, (List.Nodup.of_map _ (sending_taken picks h hs hb).nodup).mem_erase_iff, hmem]
    constructor
    · rintro ⟨hne, ⟨hd, hc⟩ | hd⟩
      · exact Or.inl ⟨hd, fun hp => hc ⟨hcalled d hd, hp⟩⟩
      · exact absurd hd hne
    · rintro (⟨hd, hp⟩ | ⟨-, hc⟩)
      · exact ⟨fun hdd => hlt (hdd ▸ hd), Or.inl ⟨hd, fun hc => hp hc.2⟩⟩
      · exact absurd hnull hc
  · have hmark : ∀ d' ∈ st.held, markCalled st.rounds d' = d' := fun d' hd' => by
      rw [markCalled, if_neg (h.round_lt d' hd').ne]
    have hfresh : markCalled st.rounds (fresh st r) = entered st r := by
      simp [markCalled, fresh, entered]
    simp only [call, List.mem_map, hmem]
    constructor
    · rintro ⟨d', ⟨hd', hc⟩ | rfl, rfl⟩
      · rw [hmark d' hd']
        exact Or.inl ⟨hd', fun hp => hc ⟨hcalled d' hd', hp⟩⟩
      · exact Or.inr ⟨hfresh, hnull⟩
    · rintro (⟨hd, hp⟩ | ⟨rfl, -⟩)
      · exact ⟨d, Or.inl ⟨hd, fun hc => hp hc.2⟩, hmark d hd⟩
      · exact ⟨fresh st r, Or.inr rfl, hfresh⟩

include h hs hb in
/-- The open deliveries after a delivery. -/
lemma mem_held_deliver (hcalled : ∀ d ∈ st.held, d.called = true) (d : Delivery) :
    d ∈ (st.deliver (holders picks) r).held ↔
      (d ∈ st.held ∧ d.round ∉ picks (2 * st.rounds) ∨ d = entered st r ∧ r.callback ≠ NULL) ∧
        d.round ∉ picks (2 * st.rounds + 1) := by
  rw [deliver_eq picks h hs hb, mem_held_holders (sending_answered picks h hs hb),
    mem_held_answered picks h hs hb hcalled]
  refine and_congr_right fun hd => not_congr ⟨And.right, fun hp => ⟨?_, hp⟩⟩
  rcases hd with ⟨hd, -⟩ | ⟨rfl, -⟩
  · exact hcalled d hd
  · rfl

include h hs hb in
/-- A delivery of a buffer that nobody holds calls back, or hands the buffer back, at once. -/
lemma answered_log_of_idle (hnil : st.held = []) :
    ∃ e, (answered picks st r).log = (taken picks st r).log ++ [e] ∧
      (e.IsFill ∨ ∃ k callback frame, e = .callback k callback frame) := by
  unfold answered
  split_ifs
  · have hheld : (taken picks st r).held.erase (fresh st r) = [] := by
      refine List.eq_nil_iff_forall_not_mem.mpr fun d hd => ?_
      have hnodup := List.Nodup.of_map _ (sending_taken picks h hs hb).nodup
      obtain ⟨hne, hd⟩ := hnodup.mem_erase_iff.mp hd
      simp [mem_held_taken picks h hs hb, hnil, hne] at hd
    have hlog := (sending_taken picks h hs hb).drop_log (fresh_mem picks h hs hb)
    rw [if_pos hheld] at hlog
    exact ⟨_, hlog, Or.inl trivial⟩
  · exact ⟨_, rfl, Or.inr ⟨_, _, _, rfl⟩⟩

end Deliver

/-! ### Logs grow -/

section Growth

/-- A drop adds to the log. -/
lemma log_prefix_drop (st : HubRun) (d : Delivery) : st.log <+: (st.drop d).log :=
  List.prefix_append _ _

/-- A return adds to the log. -/
lemma log_prefix_returned (st : HubRun) (k : ℕ) : st.log <+: (st.returned k).log := by
  rcases Sending.returned_cases st k with heq | ⟨d, -, -, -, heq⟩ <;> rw [heq]
  exact (List.prefix_append _ _).trans (log_prefix_drop { st with log := _ } d)

/-- The turn of consumers adds to the log. -/
lemma log_prefix_holders (picks : ℕ → List ℕ) (i : ℕ) (st : HubRun) :
    st.log <+: (holders picks i st).log :=
  List.foldlRecOn (motive := fun st' => st.log <+: st'.log) (picks i) HubRun.returned
    (List.prefix_refl _) fun st' h k _ => h.trans (log_prefix_returned st' k)

/-- A delivery adds to the log. -/
lemma log_prefix_deliver (picks : ℕ → List ℕ) (st : HubRun) (r : Round) :
    st.log <+: (st.deliver (holders picks) r).log := by
  have h1 := log_prefix_holders picks (2 * st.rounds) (st.acquire r.frame)
  refine (h1.trans ?_).trans (log_prefix_holders picks (2 * st.rounds + 1) _)
  split_ifs
  · cases (holders picks (2 * st.rounds) (st.acquire r.frame)).find? st.rounds with
    | none => exact List.prefix_refl _
    | some d => exact log_prefix_drop _ d
  · exact List.prefix_append _ _

/-- Deliveries add to the log. -/
lemma log_prefix_foldl (picks : ℕ → List ℕ) (rs : List Round) (st : HubRun) :
    st.log <+: (rs.foldl (deliver (holders picks)) st).log :=
  List.foldlRecOn (motive := fun st' => st.log <+: st'.log) rs (deliver (holders picks))
    (List.prefix_refl _) fun st' h r _ => h.trans (log_prefix_deliver picks st' r)

end Growth

/-! ### The deliveries of a whole `sendFrame` -/

/-- Either the buffer is held and has not been handed back, or nobody holds it and the events
so far are fine. -/
def Orderly (st : HubRun) : Prop :=
  st.held ≠ [] ∧ (∀ e ∈ st.log, ¬ e.IsFill) ∨ st.held = [] ∧ HandedBackLast st.log

namespace Orderly

variable {s : StreamType} {b : Ptr} {st : HubRun}

/-- In an orderly state the events so far are fine. -/
lemma handedBackLast (h : Orderly st) : HandedBackLast st.log := by
  rcases h with ⟨-, h⟩ | ⟨-, h⟩
  · exact handedBackLast_of_quiet h
  · exact h

/-- The drop of a delivery from a state without hand-backs is orderly: the last one hands the
buffer back after all returns. -/
lemma drop (h : Sending s b st) (hquiet : ∀ e ∈ st.log, ¬ e.IsFill) {d : Delivery}
    (hd : d ∈ st.held) (hret : d.called = true → .returned d.round ∈ st.log) :
    Orderly (st.drop d) := by
  have hlog := h.drop_log hd
  by_cases hnil : st.held.erase d = []
  · rw [if_pos hnil] at hlog
    refine Or.inr ⟨hnil, ?_⟩
    rw [hlog]
    refine handedBackLast_concat hquiet _ (fun k callback frame hk => ?_) trivial
    -- every delivery is settled after the drop, and none is open
    have hk' : HubEvent.callback k callback frame ∈ (st.drop d).log :=
      (log_prefix_drop st d).subset hk
    rcases (h.drop hd hret).settled k callback frame hk' with hk' | ⟨d', hd', -⟩
    · rw [hlog] at hk'
      simpa using hk'
    · rw [held_drop, hnil] at hd'
      exact absurd hd' List.not_mem_nil
  · rw [if_neg hnil, List.append_nil] at hlog
    exact Or.inl ⟨hnil, by rwa [hlog]⟩

/-- Returns keep the state orderly. -/
lemma returned (h : Sending s b st) (ho : Orderly st) (k : ℕ) : Orderly (st.returned k) := by
  rcases Sending.returned_cases st k with heq | ⟨d, hd, hk, -, heq⟩
  · rwa [heq]
  · rcases ho with ⟨-, hquiet⟩ | ⟨hnil, -⟩
    · rw [heq]
      refine drop (h.note k) (fun e he => ?_) hd fun _ => by simp [hk]
      rcases List.mem_append.mp he with he | he
      · exact hquiet e he
      · rw [List.mem_singleton.mp he]
        exact not_false
    · rw [hnil] at hd
      exact absurd hd List.not_mem_nil

/-- The turn of consumers keeps the state orderly. -/
lemma holders (h : Sending s b st) (ho : Orderly st) (picks : ℕ → List ℕ) (i : ℕ) :
    Orderly (holders picks i st) :=
  (List.foldlRecOn (motive := fun st => Sending s b st ∧ Orderly st) (picks i) HubRun.returned
    ⟨h, ho⟩ fun _ h k _ => ⟨h.1.returned k, returned h.1 h.2 k⟩).2

/-- A delivery from a state without hand-backs is orderly. -/
lemma deliver (picks : ℕ → List ℕ) {r : Round} (h : Sending s b st)
    (hs : r.frame.mStreamType = s) (hb : r.frame.mBuffer = b)
    (hquiet : ∀ e ∈ st.log, ¬ e.IsFill) : Orderly (st.deliver (HubRun.holders picks) r) := by
  have htaken := sending_taken picks h hs hb
  have hmem := fresh_mem picks h hs hb
  -- the delivery in progress keeps the buffer from being handed back
  have hquiet' : ∀ e ∈ (taken picks st r).log, ¬ e.IsFill := by
    have hacq : Orderly (st.acquire r.frame) := Or.inl ⟨by simp [acquire], hquiet⟩
    rcases holders (h.acquire hs hb) hacq picks (2 * st.rounds) with ⟨-, hq⟩ | ⟨hnil, -⟩
    · exact hq
    · exact absurd hmem (by rw [taken, hnil]; exact List.not_mem_nil)
  rw [deliver_eq picks h hs hb]
  refine holders (sending_answered picks h hs hb) ?_ picks _
  unfold answered
  split_ifs
  · exact drop htaken hquiet' hmem fun hc => absurd hc Bool.false_ne_true
  · refine Or.inl ⟨fun hnil => ?_, fun e he => ?_⟩
    · rw [call, List.map_eq_nil_iff] at hnil
      rw [hnil] at hmem
      exact List.not_mem_nil hmem
    · rcases List.mem_append.mp he with he | he
      · exact hquiet' e he
      · rw [List.mem_singleton.mp he]
        exact not_false

end Orderly

section Run

variable {hub : CameraStreamHub} {frame : CameraFrame} {buf : CameraStreamBuffer}

/-- The state after some deliveries to consumers. -/
def run (hub : CameraStreamHub) (picks : ℕ → List ℕ) (rs : List Round) : HubRun :=
  rs.foldl (deliver (holders picks)) (start hub)

/-- Runs continue. -/
lemma run_concat (picks : ℕ → List ℕ) (rs : List Round) (r : Round) :
    run hub picks (rs ++ [r]) = (run hub picks rs).deliver (holders picks) r :=
  List.foldl_concat ..

/-- Deliveries of one buffer. -/
def OfBuffer (frame : CameraFrame) (rs : List Round) : Prop :=
  ∀ r ∈ rs, r.frame.mStreamType = frame.mStreamType ∧ r.frame.mBuffer = frame.mBuffer

variable (hbuf : hub.buffer? frame.mStreamType frame.mBuffer = some buf) (hidle : buf.Idle)
  (picks : ℕ → List ℕ)

include hbuf hidle in
/-- The state of a `sendFrame` holds after any of its deliveries. -/
lemma sending_run {rs : List Round} (hrs : OfBuffer frame rs) :
    Sending frame.mStreamType frame.mBuffer (run hub picks rs) :=
  List.foldlRecOn rs _ (Sending.of_idle hbuf hidle) fun _ h r hr =>
    h.deliver picks (hrs r hr).1 (hrs r hr).2

include hbuf hidle in
/-- The deliveries are numbered. -/
lemma rounds_run {rs : List Round} (hrs : OfBuffer frame rs) :
    (run hub picks rs).rounds = rs.length := by
  induction rs using List.reverseRecOn with
  | nil => rfl
  | append_singleton rs r ih =>
    have hrs' : OfBuffer frame rs := fun r hr => hrs r (List.mem_append_left _ hr)
    obtain ⟨hs, hb⟩ := hrs r (by simp)
    rw [run_concat, deliver_eq picks (sending_run hbuf hidle picks hrs') hs hb]
    simp [ih hrs']

include hbuf hidle in
/-- **The open deliveries after some deliveries.** They are those whose callback was entered
and that no consumer has returned since. -/
lemma mem_held_run {rs : List Round} (hrs : OfBuffer frame rs) (d : Delivery) :
    d ∈ (run hub picks rs).held ↔
      (∃ r, rs[d.round]? = some r ∧ r.callback ≠ NULL ∧ d = ⟨d.round, r.frame, true, true⟩) ∧
        ∀ i, 2 * d.round + 1 ≤ i → i < 2 * rs.length → d.round ∉ picks i := by
  induction rs using List.reverseRecOn generalizing d with
  | nil => simp [run, start]
  | append_singleton rs r ih =>
    have hrs' : OfBuffer frame rs := fun r hr => hrs r (List.mem_append_left _ hr)
    obtain ⟨hs, hb⟩ := hrs r (by simp)
    have hrounds := rounds_run hbuf hidle picks hrs'
    have hcalled : ∀ d ∈ (run hub picks rs).held, d.called = true := fun d hd => by
      obtain ⟨⟨r, -, -, hd⟩, -⟩ := (ih hrs' d).mp hd
      rw [hd]
    rw [run_concat, mem_held_deliver picks (sending_run hbuf hidle picks hrs') hs hb hcalled,
      ih hrs', entered, hrounds, List.length_append, List.length_singleton]
    constructor
    · rintro ⟨⟨⟨⟨r', hr', hcb, hd⟩, hpicks⟩, h1⟩ | ⟨hd, hcb⟩, h2⟩
      · refine ⟨⟨r', ?_, hcb, hd⟩, fun i hi hlt => ?_⟩
        · rwa [List.getElem?_append_left (List.getElem?_eq_some_iff.mp hr').1]
        · rcases (by omega : i < 2 * rs.length ∨ i = 2 * rs.length ∨ i = 2 * rs.length + 1)
            with hi' | rfl | rfl
          exacts [hpicks i hi hi', h1, h2]
      · have hround : d.round = rs.length := by rw [hd]
        rw [hround] at h2 ⊢
        refine ⟨⟨r, by simp, hcb, hd⟩, fun i hi hlt => ?_⟩
        rwa [(by omega : i = 2 * rs.length + 1)]
    · rintro ⟨⟨r', hr', hcb, hd⟩, hpicks⟩
      have hlt : d.round < rs.length + 1 := by
        simpa using (List.getElem?_eq_some_iff.mp hr').1
      refine ⟨?_, hpicks _ (by omega) (by omega)⟩
      rcases Nat.lt_succ_iff_lt_or_eq.mp hlt with hlt | heq
      · rw [List.getElem?_append_left hlt] at hr'
        exact Or.inl ⟨⟨⟨r', hr', hcb, hd⟩, fun i hi hi' => hpicks i hi (by omega)⟩,
          hpicks _ (by omega) (by omega)⟩
      · rw [heq, List.getElem?_concat_length, Option.some.injEq] at hr'
        rw [heq] at hd
        exact Or.inr ⟨hr' ▸ hd, hr' ▸ hcb⟩

include hbuf hidle in
/-- Somebody holds the buffer after some deliveries if and only if an earlier delivery has been
called and not been returned. -/
lemma held_run_ne_nil {rs : List Round} (hrs : OfBuffer frame rs) :
    (run hub picks rs).held ≠ [] ↔
      ∃ j < rs.length, (∃ r, rs[j]? = some r ∧ r.callback ≠ NULL) ∧
        ∀ i, 2 * j + 1 ≤ i → i < 2 * rs.length → j ∉ picks i := by
  constructor
  · intro hne
    obtain ⟨d, hd⟩ := List.exists_mem_of_ne_nil _ hne
    obtain ⟨⟨r, hr, hcb, -⟩, hpicks⟩ := (mem_held_run hbuf hidle picks hrs d).mp hd
    exact ⟨d.round, (List.getElem?_eq_some_iff.mp hr).1, ⟨r, hr, hcb⟩, hpicks⟩
  · rintro ⟨j, -, ⟨r, hr, hcb⟩, hpicks⟩
    exact List.ne_nil_of_mem ((mem_held_run hbuf hidle picks hrs ⟨j, r.frame, true, true⟩).mpr
      ⟨⟨r, hr, hcb, rfl⟩, hpicks⟩)

/-- The condition at the delivery that follows some deliveries. -/
def HeldAfter (picks : ℕ → List ℕ) (rs : List Round) : Prop :=
  rs ≠ [] → ∃ j < rs.length, (∃ r, rs[j]? = some r ∧ r.callback ≠ NULL) ∧
    ∀ i, 2 * j + 1 ≤ i → i < 2 * rs.length → j ∉ picks i

/-- The condition speaks of the deliveries before each one. -/
lemma someoneHolds_iff (rs : List Round) :
    SomeoneHolds picks rs ↔ ∀ k < rs.length, HeldAfter picks (rs.take k) := by
  refine forall_congr' fun k => ?_
  constructor
  · intro h hk hne
    have hlen : (rs.take k).length = k := by simp [hk.le]
    have hpos : 0 < k := by
      rw [← hlen]
      exact List.length_pos_iff.mpr hne
    obtain ⟨j, hj, ⟨r, hr, hcb⟩, hpicks⟩ := h hpos hk
    rw [hlen]
    exact ⟨j, hj, ⟨r, by rwa [List.getElem?_take_of_lt hj], hcb⟩, hpicks⟩
  · intro h hpos hk
    have hlen : (rs.take k).length = k := by simp [hk.le]
    obtain ⟨j, hj, ⟨r, hr, hcb⟩, hpicks⟩ := h hk
      (List.ne_nil_of_length_pos (by rw [hlen]; exact hpos))
    rw [hlen] at hj hpicks
    exact ⟨j, hj, ⟨r, by rwa [List.getElem?_take_of_lt hj] at hr, hcb⟩, hpicks⟩

include hbuf hidle in
/-- If someone holds the buffer at every further delivery, the run is orderly. -/
lemma orderly_run {rs : List Round} (hrs : OfBuffer frame rs)
    (hheld : ∀ k < rs.length, HeldAfter picks (rs.take k)) (hne : rs ≠ []) :
    Orderly (run hub picks rs) := by
  induction rs using List.reverseRecOn with
  | nil => exact absurd rfl hne
  | append_singleton rs r ih =>
    have hrs' : OfBuffer frame rs := fun r hr => hrs r (List.mem_append_left _ hr)
    obtain ⟨hs, hb⟩ := hrs r (by simp)
    have hheld' : ∀ k < rs.length, HeldAfter picks (rs.take k) := fun k hk => by
      have := hheld k (by simp; omega)
      rwa [List.take_append_of_le_length hk.le] at this
    rw [run_concat]
    refine Orderly.deliver picks (sending_run hbuf hidle picks hrs') hs hb ?_
    by_cases hnil : rs = []
    · subst hnil
      exact fun e he => absurd he List.not_mem_nil
    · -- the buffer is still held, so it has not been handed back
      have hlast := hheld rs.length (by simp)
      rw [List.take_left'  rfl] at hlast
      rcases ih hrs' hheld' hnil with ⟨-, hquiet⟩ | ⟨hidle', -⟩
      · exact hquiet
      · exact absurd hidle' ((held_run_ne_nil hbuf hidle picks hrs').mpr (hlast hnil))

include hbuf hidle in
/-- If nobody holds the buffer at a further delivery, it is handed back too early. -/
lemma not_handedBackLast_run {rs rest : List Round} {r : Round}
    (hrs : OfBuffer frame (rs ++ r :: rest)) (hnot : ¬ HeldAfter picks rs) :
    ¬ HandedBackLast (run hub picks (rs ++ r :: rest)).log := by
  have hrs' : OfBuffer frame rs := fun r hr => hrs r (List.mem_append_left _ hr)
  obtain ⟨hs, hb⟩ := hrs r (by simp)
  have hsending := sending_run hbuf hidle picks hrs'
  obtain ⟨hne, hnone⟩ := Classical.not_imp.mp hnot
  have hnil : (run hub picks rs).held = [] :=
    not_not.mp fun h => hnone ((held_run_ne_nil hbuf hidle picks hrs').mp h)
  -- all references were given back, so the buffer has been handed back already
  obtain ⟨e, he, hfill⟩ := hsending.handed
    (by rw [rounds_run hbuf hidle picks hrs']; exact List.length_pos_iff.mpr hne) hnil
  obtain ⟨e', hlog, hbad⟩ := answered_log_of_idle picks hsending hs hb hnil
  have hpre : (run hub picks rs).log <+: (taken picks (run hub picks rs) r).log :=
    log_prefix_holders picks _ ((run hub picks rs).acquire r.frame)
  have hgrow : (answered picks (run hub picks rs) r).log <+:
      (run hub picks (rs ++ r :: rest)).log := by
    have hrun : run hub picks (rs ++ r :: rest) =
        rest.foldl (deliver (holders picks)) ((run hub picks rs).deliver (holders picks) r) := by
      rw [run, List.foldl_append, List.foldl_cons]
      rfl
    rw [hrun, deliver_eq picks hsending hs hb]
    exact (log_prefix_holders picks _ _).trans (log_prefix_foldl picks rest _)
  obtain ⟨tail, htail⟩ := hgrow
  rw [← htail, hlog]
  exact not_handedBackLast (hpre.subset he) hfill (List.mem_singleton_self e') hbad

include hbuf hidle in
/-- **Deliveries hand the buffer back last if and only if someone holds it at every further
delivery.** -/
theorem handedBackLast_run_iff {rs : List Round} (hrs : OfBuffer frame rs) :
    HandedBackLast (run hub picks rs).log ↔ SomeoneHolds picks rs := by
  rw [someoneHolds_iff]
  constructor
  · intro h k hk
    by_contra hnot
    have hsplit : rs = rs.take k ++ rs[k] :: rs.drop (k + 1) := by simp
    rw [hsplit] at h hrs
    exact not_handedBackLast_run hbuf hidle picks hrs hnot h
  · intro h
    by_cases hnil : rs = []
    · subst hnil
      exact handedBackLast_of_quiet fun e he => absurd he List.not_mem_nil
    · exact (orderly_run hbuf hidle picks hrs h hnil).handedBackLast

/-- The deliveries of a `sendFrame` are of the frame's buffer. -/
lemma ofBuffer_rounds (hub : CameraStreamHub) (frame : CameraFrame) (types : BitVec 32) :
    OfBuffer frame (hub.rounds frame types) := by
  intro r hr
  obtain ⟨buf, t, -, e, -, hframe⟩ := CameraStreamHub.mem_rounds hr
  rw [hframe]
  exact ⟨rfl, rfl⟩

/-- **When a sent buffer is handed back last.** A `sendFrame` of a registered buffer without
references hands it back at most once and after all returns if and only if, at each delivery
but the first, an earlier delivery has had its callback entered and has not been returned.

**Proof sketch.** The `sendFrame` makes the deliveries of `CameraStreamHub.rounds`. While an
earlier delivery is open, the total count of the buffer stays positive across the next one. If
no delivery is open at a further delivery, the total has gone to zero, so the buffer has been
handed back, and the further delivery calls back or hands it back again. -/
theorem handedBackLast_iff (hub : CameraStreamHub) (frame : CameraFrame) (types : BitVec 32)
    (picks : ℕ → List ℕ) {buf : CameraStreamBuffer}
    (hbuf : hub.buffer? frame.mStreamType frame.mBuffer = some buf) (hidle : buf.Idle) :
    HandedBackLast ((start hub).sendFrame (holders picks) frame types).2.log ↔
      SomeoneHolds picks (hub.rounds frame types) := by
  rw [sendFrame_eq_foldl (start hub) (fun st r h => h.deliver picks r)]
  exact handedBackLast_run_iff hbuf hidle picks (ofBuffer_rounds hub frame types)

end Run

end HubRun

/-! ### Two subscribers that return at once -/

/-- A hub with one preview buffer and two subscribers to preview frames. -/
def twoSubscribers : CameraStreamHub where
  mSubscribers t := if t = .PREVIEW_FRAME_SYNC then (KeyedVector.add ∅ 1 101).add 2 102 else ∅
  mStreams s := if s = .PREVIEW_STREAM_TYPE then CameraStream.addFrameBuffer ∅ 7 else ∅

/-- A frame in that buffer. -/
def previewFrame : CameraFrame := ⟨7, .PREVIEW_STREAM_TYPE, NULL, .PREVIEW_FRAME_SYNC, NULL⟩

/-- The buffer goes back last when the first consumer keeps its frame until the second one has
been called. -/
theorem handedBackLast_twoSubscribers :
    HandedBackLast ((HubRun.start twoSubscribers).sendFrame
      (HubRun.holders fun i => if i = 3 then [0, 1] else []) previewFrame 1#32).2.log := by
  have hbuf : twoSubscribers.buffer? previewFrame.mStreamType previewFrame.mBuffer =
      some CameraStreamBuffer.fresh := rfl
  refine (HubRun.handedBackLast_iff twoSubscribers previewFrame 1#32 _ hbuf
    CameraStreamBuffer.idle_fresh).mpr fun k hpos hlt => ?_
  have hlen : (twoSubscribers.rounds previewFrame 1#32).length = 2 := by decide
  obtain rfl : k = 1 := by omega
  refine ⟨0, hpos, ⟨_, rfl, by decide⟩, fun i hi hi' => ?_⟩
  obtain rfl : i = 1 := by omega
  simp

/-- The second consumer is called with a buffer that has been handed back when the first one
returns its frame within the callback. -/
theorem not_handedBackLast_twoSubscribers :
    ∃ buf, twoSubscribers.buffer? previewFrame.mStreamType previewFrame.mBuffer = some buf ∧
      buf.Idle ∧ ¬ HandedBackLast ((HubRun.start twoSubscribers).sendFrame
        (HubRun.holders fun i => if i = 1 then [0] else if i = 3 then [1] else [])
        previewFrame 1#32).2.log := by
  refine ⟨CameraStreamBuffer.fresh, rfl, CameraStreamBuffer.idle_fresh, fun h => ?_⟩
  have hlog : ((HubRun.start twoSubscribers).sendFrame
      (HubRun.holders fun i => if i = 1 then [0] else if i = 3 then [1] else [])
      previewFrame 1#32).2.log.countP (·.IsFill) = 2 := by decide
  have := h.at_most_once
  omega

end CameraHal
