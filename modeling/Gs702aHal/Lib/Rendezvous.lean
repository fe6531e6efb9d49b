import Gs702aHal.Lib.StepRun
import Mathlib.Algebra.Order.Ring.Nat
import Mathlib.Data.List.Basic
import Mathlib.Logic.Function.Basic

set_option relaxedAutoImplicit false
set_option autoImplicit false

/-!
# Asking a server and waiting for it

Callers ask servers to do something: a caller takes the lock of a server, puts a request into the
server's queue, waits on the server's semaphore, and gives the lock back. The server takes the
request, does what it is asked for, and signals the semaphore. Servers also do work of their own,
and other threads act in between. All of them interleave at the single operations.

## Main definitions

* `Rendezvous.Service` — what the servers and the other threads do to the state that they share.
* `Rendezvous.Hall` — the shared state, the desks of the servers, and the callers.
* `Rendezvous.step` — one operation of one thread; an operation that is not possible does nothing.
* `Rendezvous.Orderly` — where each request is, and that each caller's items are done in order.

## Main results

* `Rendezvous.orderly_step`, `Rendezvous.orderly_final` — the invariant of all interleavings.
* `Rendezvous.done_of_returned` — a caller that has returned has had everything done once, in order.
* `Rendezvous.served_final` — the shared state is what the deeds make of it, one after the other.
* `Rendezvous.exists_move` — nobody waits for ever: as long as the servers come back to their
  queues, some operation is possible while a caller has not returned.
-/

namespace Rendezvous

/-- What a caller does: something of its own, or asking a server for something. -/
inductive Item (ι μ γ : Type*)
  | act (c : γ)
  | ask (j : ι) (m : μ)
  deriving DecidableEq, Repr

/-- What has been done to the shared state: an item of a caller, a server's own work, or something
of another thread. -/
inductive Deed (ι μ β γ : Type*)
  | item (i : ℕ) (x : Item ι μ γ)
  | work (j : ι) (b : β)
  | other (c : γ)
  deriving DecidableEq, Repr

/-- What servers and threads do to the state that they share, and whether a server is free to look
at its queue. -/
structure Service (ι μ β γ σ : Type*) where
  handle : ι → μ → σ → σ
  work : ι → β → σ → σ
  act : γ → σ → σ
  free : ι → σ → Bool

/-- The effect of a deed. -/
def Service.apply {ι μ β γ σ : Type*} (v : Service ι μ β γ σ) (s : σ) : Deed ι μ β γ → σ
  | .item _ (.act c) => v.act c s
  | .item _ (.ask j m) => v.handle j m s
  | .work j b => v.work j b s
  | .other c => v.act c s

/-- What a server has in its hand: nothing, a request that it has taken, or one that it has done. -/
inductive Hand (μ : Type*)
  | empty
  | taken (i : ℕ) (m : μ)
  | handled (i : ℕ) (m : μ)
  deriving DecidableEq, Repr

/-- The lock of a server with its holder, the queue of requests, the server's hand, and the count of
the semaphore. -/
structure Desk (μ : Type*) where
  holder : Option ℕ
  queue : List (ℕ × μ)
  hand : Hand μ
  count : ℕ
  deriving DecidableEq, Repr

/-- The desk that nobody uses. -/
def Desk.idle {μ : Type*} : Desk μ := ⟨none, [], .empty, 0⟩

/-- How far a caller has come with the item that it is at. -/
inductive Point
  | free
  | locked
  | waiting
  | woken
  deriving DecidableEq, Repr

/-- A caller: the items that it has not come past, and how far it is with the first. -/
structure Caller (ι μ γ : Type*) where
  todo : List (Item ι μ γ)
  point : Point
  deriving DecidableEq, Repr

/-- The shared state, the desks, the callers, what each caller was called for, and what has been
done. -/
structure Hall (ι μ β γ σ : Type*) where
  served : σ
  desk : ι → Desk μ
  caller : ℕ → Caller ι μ γ
  called : ℕ → List (Item ι μ γ)
  log : List (Deed ι μ β γ)

/-- One operation of one thread: a caller is called for some items, or goes on; a server goes on
with a request, or does work of its own; another thread does something. -/
inductive Move (ι μ β γ : Type*)
  | call (i : ℕ) (items : List (Item ι μ γ))
  | advance (i : ℕ)
  | serve (j : ι)
  | work (j : ι) (b : β)
  | other (c : γ)
  deriving DecidableEq, Repr

section Step

variable {ι μ β γ σ : Type*} [DecidableEq ι] (v : Service ι μ β γ σ) (x : Hall ι μ β γ σ)

/-- Something is done to the shared state. -/
def Hall.perform (d : Deed ι μ β γ) : Hall ι μ β γ σ :=
  { x with served := v.apply x.served d, log := x.log ++ [d] }

/-- A caller moves on, and changes a desk. -/
def Hall.at (i : ℕ) (c : Caller ι μ γ) (j : ι) (d : Desk μ) : Hall ι μ β γ σ :=
  { x with caller := Function.update x.caller i c, desk := Function.update x.desk j d }

/-- A server changes its desk. -/
def Hall.serving (j : ι) (d : Desk μ) : Hall ι μ β γ σ :=
  { x with desk := Function.update x.desk j d }

/-- A caller goes on with its first item. -/
def advance (i : ℕ) : Hall ι μ β γ σ :=
  match x.caller i with
  | ⟨[], _⟩ => x
  | ⟨.act c :: todo, _⟩ =>
    { x.perform v (.item i (.act c)) with
      caller := Function.update x.caller i ⟨todo, .free⟩ }
  | ⟨.ask j m :: todo, .free⟩ =>
    if (x.desk j).holder = none then
      x.at i ⟨.ask j m :: todo, .locked⟩ j { x.desk j with holder := some i }
    else x
  | ⟨.ask j m :: todo, .locked⟩ =>
    x.at i ⟨.ask j m :: todo, .waiting⟩ j
      { x.desk j with queue := (x.desk j).queue ++ [(i, m)] }
  | ⟨.ask j m :: todo, .waiting⟩ =>
    if 0 < (x.desk j).count then
      x.at i ⟨.ask j m :: todo, .woken⟩ j { x.desk j with count := (x.desk j).count - 1 }
    else x
  | ⟨.ask j _ :: todo, .woken⟩ => x.at i ⟨todo, .free⟩ j { x.desk j with holder := none }

/-- A server goes on with a request: it takes the first one if it is free, does what it was asked
for, and signals the semaphore. -/
def serve (j : ι) : Hall ι μ β γ σ :=
  match (x.desk j).hand, (x.desk j).queue with
  | .empty, [] => x
  | .empty, (i, m) :: queue =>
    if v.free j x.served then
      x.serving j { x.desk j with queue := queue, hand := .taken i m }
    else x
  | .taken i m, _ =>
    (x.perform v (.item i (.ask j m))).serving j { x.desk j with hand := .handled i m }
  | .handled _ _, _ =>
    x.serving j { x.desk j with hand := .empty, count := (x.desk j).count + 1 }

/-- A caller that has returned is called for some items. -/
def call (i : ℕ) (items : List (Item ι μ γ)) : Hall ι μ β γ σ :=
  if (x.caller i).todo = [] then
    { x with
      caller := Function.update x.caller i ⟨items, .free⟩
      called := Function.update x.called i (x.called i ++ items) }
  else x

/-- A server does work of its own unless it has a request in its hand. -/
def work (j : ι) (b : β) : Hall ι μ β γ σ :=
  match (x.desk j).hand with
  | .empty => x.perform v (.work j b)
  | _ => x

/-- One operation. -/
def step : Move ι μ β γ → Hall ι μ β γ σ
  | .call i items => call x i items
  | .advance i => advance v x i
  | .serve j => serve v x j
  | .work j b => work v x j b
  | .other c => x.perform v (.other c)

end Step

/-- Nobody has been called yet. -/
def start {ι μ β γ σ : Type*} (s : σ) : Hall ι μ β γ σ :=
  ⟨s, fun _ => .idle, fun _ => ⟨[], .free⟩, fun _ => [], []⟩

/-! ### The invariant -/

section Invariant

variable {ι μ β γ σ : Type*}

/-- What a deed does for a caller. -/
def Deed.for (i : ℕ) : Deed ι μ β γ → Option (Item ι μ γ)
  | .item i' y => if i' = i then some y else none
  | _ => none

/-- What has been done for a caller. -/
def Hall.done (x : Hall ι μ β γ σ) (i : ℕ) : List (Item ι μ γ) := x.log.filterMap (Deed.for i)

/-- Where the request of a caller is that holds a desk, and what is left to be done for the caller:
the request is not posted yet, in the queue, in the server's hand, or done. -/
inductive Engaged (i : ℕ) (j : ι) (m : μ) (todo : List (Item ι μ γ)) :
    Point → Desk μ → List (Item ι μ γ) → Prop
  | locked : Engaged i j m todo .locked ⟨some i, [], .empty, 0⟩ (.ask j m :: todo)
  | posted : Engaged i j m todo .waiting ⟨some i, [(i, m)], .empty, 0⟩ (.ask j m :: todo)
  | taken : Engaged i j m todo .waiting ⟨some i, [], .taken i m, 0⟩ (.ask j m :: todo)
  | handled : Engaged i j m todo .waiting ⟨some i, [], .handled i m, 0⟩ todo
  | signalled : Engaged i j m todo .waiting ⟨some i, [], .empty, 1⟩ todo
  | woken : Engaged i j m todo .woken ⟨some i, [], .empty, 0⟩ todo

/-- Where a caller stands, and what is left to be done for it. -/
inductive Stands (desk : ι → Desk μ) (i : ℕ) : Caller ι μ γ → List (Item ι μ γ) → Prop
  | free (todo : List (Item ι μ γ)) : Stands desk i ⟨todo, .free⟩ todo
  | engaged {j : ι} {m : μ} {p : Point} {todo left : List (Item ι μ γ)}
    (h : Engaged i j m todo p (desk j) left) : Stands desk i ⟨.ask j m :: todo, p⟩ left

/-- A caller is at an item of a server. -/
def Caller.AtDesk (c : Caller ι μ γ) (j : ι) : Prop :=
  c.point ≠ .free ∧ ∃ m todo, c.todo = .ask j m :: todo

/-- Each caller stands somewhere, and what it was called for is what has been done for it and what
is left; a desk without a holder is idle, and a holder is at the desk that it holds. -/
structure Orderly (x : Hall ι μ β γ σ) : Prop where
  stands : ∀ i, ∃ left, Stands x.desk i (x.caller i) left ∧ x.called i = x.done i ++ left
  idle : ∀ j, (x.desk j).holder = none → x.desk j = .idle
  held : ∀ j i, (x.desk j).holder = some i → (x.caller i).AtDesk j

/-- A caller with a request holds the desk. -/
lemma Engaged.holder {i : ℕ} {j : ι} {m : μ} {p : Point} {d : Desk μ}
    {todo left : List (Item ι μ γ)} (h : Engaged i j m todo p d left) : d.holder = some i := by
  cases h <;> rfl

/-- A caller stands where it stood if the desks that it holds have not changed. -/
lemma Stands.frame {desk desk' : ι → Desk μ} {i : ℕ} {c : Caller ι μ γ}
    {left : List (Item ι μ γ)} (h : Stands desk i c left)
    (hdesk : ∀ j, (desk j).holder = some i → desk' j = desk j) : Stands desk' i c left := by
  cases h with
  | free => exact .free left
  | engaged h =>
    refine .engaged ?_
    rw [hdesk _ h.holder]
    exact h

/-- A caller for whom a desk was changed. -/
lemma Stands.of_update [DecidableEq ι] {desk : ι → Desk μ} {i : ℕ} {j : ι} {m : μ} {p : Point}
    {d : Desk μ} {todo left : List (Item ι μ γ)} (h : Engaged i j m todo p d left) :
    Stands (Function.update desk j d) i ⟨.ask j m :: todo, p⟩ left :=
  .engaged (by rwa [Function.update_self])

/-- A holder is at one desk only. -/
lemma Caller.AtDesk.unique {c : Caller ι μ γ} {j j' : ι} (h : c.AtDesk j) (h' : c.AtDesk j') :
    j = j' := by
  obtain ⟨-, m, todo, htodo⟩ := h
  obtain ⟨-, m', todo', htodo'⟩ := h'
  rw [htodo] at htodo'
  injection htodo' with hitem
  injection hitem

/-- At the beginning nobody has been called. -/
lemma orderly_start (s : σ) : Orderly (start s : Hall ι μ β γ σ) where
  stands _ := ⟨[], .free [], rfl⟩
  idle _ _ := rfl
  held _ _ h := by cases h

variable {x x' : Hall ι μ β γ σ}

/-- The holder of a desk has a request. -/
lemma Orderly.engaged (h : Orderly x) {i : ℕ} {j : ι} (hj : (x.desk j).holder = some i) :
    ∃ m todo p left, x.caller i = ⟨.ask j m :: todo, p⟩ ∧
      Engaged i j m todo p (x.desk j) left ∧ x.called i = x.done i ++ left := by
  obtain ⟨left, hleft, hcalled⟩ := h.stands i
  obtain ⟨hpoint, m, todo, htodo⟩ := h.held j i hj
  generalize x.caller i = c at hleft hpoint htodo
  cases hleft with
  | free => exact absurd rfl hpoint
  | engaged hengaged =>
    obtain ⟨⟨rfl, rfl⟩, rfl⟩ := by simpa using htodo
    exact ⟨_, _, _, left, rfl, hengaged, hcalled⟩

/-- A change at one desk, made for the caller who holds it or gets it. -/
lemma Orderly.change (h : Orderly x) (i : ℕ) (j : ι)
    (hdesk : ∀ k, k ≠ j → x'.desk k = x.desk k)
    (hcaller : ∀ k, k ≠ i → x'.caller k = x.caller k ∧ x'.called k = x.called k ∧
      x'.done k = x.done k)
    (hfrom : ∀ k, (x.desk j).holder = some k → k = i)
    (hother : ∀ k, (x.desk k).holder = some i → k = j)
    (hstands : ∃ left, Stands x'.desk i (x'.caller i) left ∧ x'.called i = x'.done i ++ left)
    (hidle : (x'.desk j).holder = none → x'.desk j = .idle)
    (hheld : ∀ k, (x'.desk j).holder = some k → k = i ∧ (x'.caller i).AtDesk j) : Orderly x' where
  stands k := by
    by_cases hk : k = i
    · rw [hk]
      exact hstands
    · obtain ⟨hc, hcalled, hdone⟩ := hcaller k hk
      obtain ⟨left, hleft, heq⟩ := h.stands k
      rw [hc, hcalled, hdone]
      refine ⟨left, hleft.frame fun k' hk' => hdesk k' ?_, heq⟩
      rintro rfl
      exact hk (hfrom k hk')
  idle k hk := by
    by_cases hkj : k = j
    · subst hkj
      exact hidle hk
    · rw [hdesk k hkj] at hk ⊢
      exact h.idle k hk
  held k i' hk := by
    by_cases hkj : k = j
    · subst hkj
      obtain ⟨rfl, hat⟩ := hheld i' hk
      exact hat
    · rw [hdesk k hkj] at hk
      have hne : i' ≠ i := by
        rintro rfl
        exact hkj (hother k hk)
      rw [(hcaller i' hne).1]
      exact h.held k i' hk

/-- A change of one caller who is at no desk, and is at none afterwards. -/
lemma Orderly.change_caller (h : Orderly x) (i : ℕ) (hdesk : x'.desk = x.desk)
    (hcaller : ∀ k, k ≠ i → x'.caller k = x.caller k ∧ x'.called k = x.called k ∧
      x'.done k = x.done k)
    (hnone : ∀ k, (x.desk k).holder ≠ some i)
    (hstands : ∃ left, Stands x'.desk i (x'.caller i) left ∧ x'.called i = x'.done i ++ left) :
    Orderly x' where
  stands k := by
    by_cases hk : k = i
    · rw [hk]
      exact hstands
    · obtain ⟨hc, hcalled, hdone⟩ := hcaller k hk
      rw [hc, hcalled, hdone, hdesk]
      exact h.stands k
  idle k hk := by
    rw [hdesk] at hk ⊢
    exact h.idle k hk
  held k i' hk := by
    rw [hdesk] at hk
    have hne : i' ≠ i := by
      rintro rfl
      exact hnone k hk
    rw [(hcaller i' hne).1]
    exact h.held k i' hk

/-- A caller at an item of its own, or one that has returned, is at no desk. -/
lemma Orderly.holder_ne (h : Orderly x) {i : ℕ} (hpoint : (x.caller i).point = .free) (k : ι) :
    (x.desk k).holder ≠ some i := fun hk => (h.held k i hk).1 hpoint

/-- Calling keeps the invariant. -/
lemma Orderly.call (h : Orderly x) (i : ℕ) (items : List (Item ι μ γ)) :
    Orderly (Rendezvous.call x i items) := by
  unfold Rendezvous.call
  split_ifs with htodo
  · obtain ⟨left, hleft, hcalled⟩ := h.stands i
    generalize hc : x.caller i = c at hleft htodo
    cases hleft with
    | free =>
      obtain rfl : left = [] := htodo
      have hpoint : (x.caller i).point = .free := by rw [hc]
      refine h.change_caller i rfl (fun k hk => ⟨Function.update_of_ne hk _ _,
        Function.update_of_ne hk _ _, rfl⟩) (h.holder_ne hpoint) ⟨items, ?_, ?_⟩
      · simp only [Function.update_self]
        exact .free items
      · simp only [Function.update_self]
        rw [hcalled, List.append_nil]
        rfl
    | engaged => cases htodo
  · exact h

variable (v : Service ι μ β γ σ)

/-- What is done for a caller is added to what has been done for it, -/
lemma done_perform (d : Deed ι μ β γ) (i : ℕ) :
    (x.perform v d).done i = x.done i ++ (d.for i).toList := by
  have hone : [d].filterMap (Deed.for i) = (d.for i).toList := by
    cases hd : d.for i <;> simp [hd]
  rw [Hall.done, Hall.perform, List.filterMap_append, hone, Hall.done]

/-- and nothing is added for the others. -/
lemma done_perform_item {i k : ℕ} (hk : k ≠ i) (y : Item ι μ γ) :
    (x.perform v (.item i y)).done k = x.done k := by
  have hnone : Deed.for k (.item i y : Deed ι μ β γ) = none := if_neg hk.symm
  rw [done_perform, hnone]
  exact List.append_nil _

/-- An item that is done for a caller is the last of those done for it. -/
lemma done_perform_self (i : ℕ) (y : Item ι μ γ) :
    (x.perform v (.item i y)).done i = x.done i ++ [y] := by
  have hsome : Deed.for i (.item i y : Deed ι μ β γ) = some y := if_pos rfl
  rw [done_perform, hsome]
  rfl

/-- What is not done for a caller keeps the invariant. -/
lemma Orderly.perform (h : Orderly x) {d : Deed ι μ β γ} (hd : ∀ i, d.for i = none) :
    Orderly (x.perform v d) where
  stands i := by
    rw [done_perform, hd i, Option.toList_none, List.append_nil]
    exact h.stands i
  idle := h.idle
  held := h.held

end Invariant

/-! ### Every operation keeps it -/

section Keeps

variable {ι μ β γ σ : Type*} [DecidableEq ι] (v : Service ι μ β γ σ) {x : Hall ι μ β γ σ}

/-- A caller moves on at a desk that it holds or gets. -/
lemma Orderly.at (h : Orderly x) {i : ℕ} {j : ι} {m : μ} {todo left : List (Item ι μ γ)}
    {c : Caller ι μ γ} {d : Desk μ} (htodo : (x.caller i).todo = .ask j m :: todo)
    (hfrom : ∀ k, (x.desk j).holder = some k → k = i) (hcalled : x.called i = x.done i ++ left)
    (hstands : Stands (Function.update x.desk j d) i c left)
    (hidle : d.holder = none → d = .idle)
    (hheld : ∀ k, d.holder = some k → k = i ∧ c.AtDesk j) : Orderly (x.at i c j d) := by
  have hdesk : (x.at i c j d).desk j = d := Function.update_self ..
  have hcaller : (x.at i c j d).caller i = c := Function.update_self ..
  refine h.change i j (fun k hk => Function.update_of_ne hk ..)
    (fun k hk => ⟨Function.update_of_ne hk .., rfl, rfl⟩) hfrom (fun k hk => ?_) ?_ ?_ ?_
  · obtain ⟨-, m', todo', htodo'⟩ := h.held k i hk
    rw [htodo] at htodo'
    injection htodo' with hitem
    injection hitem with hj
    exact hj.symm
  · rw [hcaller]
    exact ⟨left, hstands, hcalled⟩
  · rw [hdesk]
    exact hidle
  · rw [hdesk, hcaller]
    exact hheld

/-- The holder of a desk that is known. -/
lemma holder_eq {d : Desk μ} {i k : ℕ} (hd : d.holder = some i) (hk : d.holder = some k) :
    k = i := by
  rw [hd] at hk
  exact (Option.some_inj.mp hk).symm

/-- A caller that goes on keeps the invariant. -/
lemma Orderly.advance (h : Orderly x) (i : ℕ) : Orderly (Rendezvous.advance v x i) := by
  obtain ⟨left, hleft, hcalled⟩ := h.stands i
  unfold Rendezvous.advance
  generalize hc : x.caller i = c at hleft
  cases hleft with
  | free =>
    cases left with
    | nil => exact h
    | cons y todo =>
      cases y with
      | act y =>
        have hpoint : (x.caller i).point = .free := by rw [hc]
        refine h.change_caller i rfl (fun k hk => ⟨Function.update_of_ne hk _ _, rfl,
          done_perform_item v hk _⟩) (h.holder_ne hpoint) ⟨todo, ?_, ?_⟩
        · simp only [Function.update_self]
          exact .free todo
        · have hdone := done_perform_self v (x := x) i (.act y)
          refine hcalled.trans ?_
          rw [← List.singleton_append, ← List.append_assoc]
          exact congrArg (· ++ todo) hdone.symm
      | ask j m =>
        simp only
        split_ifs with hj
        · have hdesk : { x.desk j with holder := some i } = ⟨some i, [], .empty, 0⟩ := by
            rw [h.idle j hj]
            rfl
          rw [hdesk]
          refine h.at (by rw [hc]) (fun k hk => ?_) hcalled (.of_update .locked)
            (fun hd => by cases hd) fun k hk => ?_
          · rw [hj] at hk
            cases hk
          · exact ⟨holder_eq (by rfl) hk, by simp, m, todo, rfl⟩
        · exact h
  | @engaged j m p todo left hengaged =>
    have hfrom : ∀ k, (x.desk j).holder = some k → k = i := fun k hk =>
      holder_eq hengaged.holder hk
    generalize hd : x.desk j = d at hengaged
    cases hengaged with
    | locked =>
      simp only [hd, List.nil_append]
      exact h.at (by rw [hc]) hfrom hcalled (.of_update .posted) (fun hd => by cases hd)
        fun k hk => ⟨holder_eq (by rfl) hk, by simp, m, todo, rfl⟩
    | posted =>
      simp only [hd, lt_irrefl, if_false]
      exact h
    | taken =>
      simp only [hd, lt_irrefl, if_false]
      exact h
    | handled =>
      simp only [hd, lt_irrefl, if_false]
      exact h
    | signalled =>
      simp only [hd, Nat.one_pos, if_true]
      exact h.at (by rw [hc]) hfrom hcalled (.of_update .woken) (fun hd => by cases hd)
        fun k hk => ⟨holder_eq (by rfl) hk, by simp, m, _, rfl⟩
    | woken =>
      simp only [hd]
      exact h.at (by rw [hc]) hfrom hcalled (.free _) (fun _ => rfl) fun k hk => by cases hk

/-- A server changes its desk for the caller who holds it. -/
lemma Orderly.serving (h : Orderly x) {i : ℕ} {j : ι} {left : List (Item ι μ γ)}
    {y : Hall ι μ β γ σ} {d : Desk μ} (hy : y.desk = x.desk) (hcaller : y.caller = x.caller)
    (hcalls : y.called = x.called) (hdone : ∀ k, k ≠ i → y.done k = x.done k)
    (hj : (x.desk j).holder = some i) (hd : d.holder = some i)
    (hcalled : x.called i = y.done i ++ left)
    (hstands : Stands (Function.update x.desk j d) i (x.caller i) left) :
    Orderly (y.serving j d) := by
  have hdesk : (y.serving j d).desk j = d := Function.update_self ..
  have hat := h.held j i hj
  refine h.change i j (fun k hk => ?_) (fun k hk => ⟨congrFun hcaller k, congrFun hcalls k,
    hdone k hk⟩) (fun k hk => holder_eq hj hk) (fun k hk => (h.held k i hk).unique hat) ?_ ?_ ?_
  · exact (Function.update_of_ne hk ..).trans (congrFun hy k)
  · refine ⟨left, ?_, (congrFun hcalls i).trans hcalled⟩
    simp only [Hall.serving, hy, hcaller]
    exact hstands
  · rw [hdesk, hd]
    exact fun hnone => by cases hnone
  · rw [hdesk]
    intro k hk
    refine ⟨holder_eq hd hk, ?_⟩
    simp only [Hall.serving, hcaller]
    exact hat

/-- A server that goes on keeps the invariant. -/
lemma Orderly.serve (h : Orderly x) (j : ι) : Orderly (Rendezvous.serve v x j) := by
  unfold Rendezvous.serve
  cases hholder : (x.desk j).holder with
  | none =>
    simp only [h.idle j hholder, Desk.idle]
    exact h
  | some i =>
    obtain ⟨m, todo, p, left, hc, hengaged, hcalled⟩ := h.engaged hholder
    generalize hd : x.desk j = d at hengaged
    cases hengaged with
    | locked =>
      simp only
      exact h
    | posted =>
      simp only
      split_ifs
      · refine h.serving rfl rfl rfl (fun _ _ => rfl) hholder rfl hcalled ?_
        rw [hc]
        exact .of_update .taken
      · exact h
    | taken =>
      simp only
      have hleft : x.called i = (x.perform v (.item i (.ask j m))).done i ++ todo := by
        rw [done_perform_self, List.append_assoc]
        exact hcalled
      refine h.serving rfl rfl rfl (fun k hk => done_perform_item v hk _) hholder rfl hleft ?_
      rw [hc]
      exact .of_update .handled
    | handled =>
      simp only
      refine h.serving rfl rfl rfl (fun _ _ => rfl) hholder rfl hcalled ?_
      rw [hc]
      exact .of_update .signalled
    | signalled =>
      simp only
      exact h
    | woken =>
      simp only
      exact h

/-- **Every operation keeps the requests in order.**

**Proof sketch.** A caller only changes a desk that nobody holds, which is idle, or that it holds
itself; a server only changes its desk for the holder. So the others stand where they stood, and the
request of the caller goes from the queue over the server's hand to the semaphore. -/
theorem orderly_step (h : Orderly x) (mv : Move ι μ β γ) : Orderly (step v x mv) := by
  cases mv with
  | call i items => exact h.call i items
  | advance i => exact h.advance v i
  | serve j => exact h.serve v j
  | work j b =>
    simp only [step, work]
    split
    · exact h.perform v fun _ => rfl
    · exact h
  | other c => exact h.perform v fun _ => rfl

/-- The requests are in order in every interleaving. -/
theorem orderly_final (h : Orderly x) (run : List (Move ι μ β γ)) :
    Orderly (StepRun.final (step v) x run) := by
  induction run generalizing x with
  | nil => exact h
  | cons mv run ih => exact ih (orderly_step v h mv)

end Keeps

/-! ### What callers can rely on -/

section Returned

variable {ι μ β γ σ : Type*} {v : Service ι μ β γ σ} {x y : Hall ι μ β γ σ}

/-- **A caller that has returned has had everything done, once and in order.** -/
theorem Orderly.done_of_returned (h : Orderly x) {i : ℕ} (hi : (x.caller i).todo = []) :
    x.done i = x.called i := by
  obtain ⟨left, hleft, hcalled⟩ := h.stands i
  generalize x.caller i = c at hleft hi
  cases hleft with
  | free =>
    obtain rfl : left = [] := hi
    rw [hcalled, List.append_nil]
  | engaged => cases hi

/-- A request that a server has taken is one that its caller waits for. -/
lemma Orderly.mem_of_taken (h : Orderly x) {i : ℕ} {j : ι} {m : μ}
    (hhand : (x.desk j).hand = .taken i m) : .ask j m ∈ (x.caller i).todo := by
  cases hholder : (x.desk j).holder with
  | none =>
    rw [h.idle j hholder] at hhand
    cases hhand
  | some k =>
    obtain ⟨m', todo, p, left, hc, hengaged, -⟩ := h.engaged hholder
    generalize x.desk j = d at hhand hengaged
    cases hengaged with
    | locked => cases hhand
    | posted => cases hhand
    | taken =>
      cases hhand
      rw [hc]
      exact List.mem_cons_self
    | handled => cases hhand
    | signalled => cases hhand
    | woken => cases hhand

/-- Whether a server is free depends on its own work only. -/
def Service.Local (v : Service ι μ β γ σ) : Prop :=
  ∀ s d j, (∀ b, d ≠ .work j b) → v.free j (v.apply s d) = v.free j s

/-- A server that has taken a request is free. -/
def Attentive (v : Service ι μ β γ σ) (x : Hall ι μ β γ σ) : Prop :=
  ∀ j i m, (x.desk j).hand = .taken i m → v.free j x.served = true

/-- At the beginning no server has taken a request. -/
lemma attentive_start (s : σ) : Attentive v (start s) := fun j i m hj => by cases hj

/-- A request is done by a server that is free. -/
def Deed.Timely (v : Service ι μ β γ σ) (s : σ) : Deed ι μ β γ → Prop
  | .item _ (.ask j _) => v.free j s = true
  | _ => True

/-- The deeds of a move are of a kind: those that it does itself, and those that it calls for. -/
def Move.Allows (Q : Deed ι μ β γ → Prop) : Move ι μ β γ → Prop
  | .call i items => ∀ z ∈ items, Q (.item i z)
  | .work j b => Q (.work j b)
  | .other c => Q (.other c)
  | _ => True

instance (Q : Deed ι μ β γ → Prop) [DecidablePred Q] : DecidablePred (Move.Allows Q)
  | .call i items => inferInstanceAs (Decidable (∀ z ∈ items, Q (.item i z)))
  | .work j b => inferInstanceAs (Decidable (Q (.work j b)))
  | .other c => inferInstanceAs (Decidable (Q (.other c)))
  | .advance _ => .isTrue trivial
  | .serve _ => .isTrue trivial

/-- All deeds are deeds. -/
lemma allows_true (mv : Move ι μ β γ) : mv.Allows fun _ => True := by
  cases mv <;> simp [Move.Allows]

/-- What the callers are still to have done is of a kind. -/
def Hall.Pending (Q : Deed ι μ β γ → Prop) (x : Hall ι μ β γ σ) : Prop :=
  ∀ i, ∀ z ∈ (x.caller i).todo, Q (.item i z)

/-- The state after some deeds of a kind; what the callers are still to have done is of the same
kind. -/
structure After (v : Service ι μ β γ σ) (Q : Deed ι μ β γ → Prop) (x y : Hall ι μ β γ σ)
    (deeds : List (Deed ι μ β γ)) : Prop where
  log : y.log = x.log ++ deeds
  served : y.served = StepRun.final v.apply x.served deeds
  along : StepRun.Along v.apply (fun s d => Q d ∧ d.Timely v s) x.served deeds
  pending : y.Pending Q
  attentive : Attentive v y

variable {Q : Deed ι μ β γ → Prop}

/-- Nothing has been done. -/
lemma After.none (hlog : y.log = x.log) (hserved : y.served = x.served) (hpending : y.Pending Q)
    (hattentive : Attentive v y) : After v Q x y [] :=
  ⟨by rw [hlog, List.append_nil], hserved, trivial, hpending, hattentive⟩

/-- One thing has been done. -/
lemma After.one {d : Deed ι μ β γ} (hlog : y.log = x.log ++ [d])
    (hserved : y.served = v.apply x.served d) (hd : Q d) (htimely : d.Timely v x.served)
    (hpending : y.Pending Q) (hattentive : Attentive v y) : After v Q x y [d] :=
  ⟨hlog, hserved, ⟨⟨hd, htimely⟩, trivial⟩, hpending, hattentive⟩

/-- One caller goes on, and the others have to do what they had to do. -/
lemma Hall.Pending.update (h : x.Pending Q) {i : ℕ} {c : Caller ι μ γ}
    (hy : y.caller = Function.update x.caller i c) (hc : ∀ z ∈ c.todo, Q (.item i z)) :
    y.Pending Q := by
  intro k
  rw [hy]
  by_cases hk : k = i
  · subst hk
    rw [Function.update_self]
    exact hc
  · rw [Function.update_of_ne hk]
    exact h k

/-- A deed that is not the work of a server keeps the servers attentive. -/
lemma Attentive.of_apply (h : Attentive v x) (hlocal : v.Local) (d : Deed ι μ β γ)
    (hserved : y.served = v.apply x.served d)
    (hhand : ∀ j i m, (y.desk j).hand = .taken i m →
      (x.desk j).hand = .taken i m ∧ ∀ b, d ≠ .work j b) : Attentive v y := by
  intro j i m hj
  obtain ⟨hx, hd⟩ := hhand j i m hj
  rw [hserved, hlocal _ _ _ hd]
  exact h j i m hx

/-- What a server has taken does not change with the rest of its desk. -/
lemma Attentive.of_desk [DecidableEq ι] (h : Attentive v x) {j : ι} {d : Desk μ}
    (hserved : y.served = x.served) (hdesk : y.desk = Function.update x.desk j d)
    (hhand : ∀ i m, d.hand = .taken i m → v.free j x.served = true) : Attentive v y := by
  intro k i m hk
  rw [hserved]
  by_cases hkj : k = j
  · subst hkj
    rw [hdesk, Function.update_self] at hk
    exact hhand i m hk
  · rw [hdesk, Function.update_of_ne hkj] at hk
    exact h k i m hk

variable [DecidableEq ι]

/-- What one operation does. -/
lemma after_step (h : Orderly x) (hattentive : Attentive v x) (hlocal : v.Local)
    (hpending : x.Pending Q) {mv : Move ι μ β γ} (hmv : mv.Allows Q) :
    ∃ deeds, After v Q x (step v x mv) deeds := by
  cases mv with
  | call i items =>
    refine ⟨[], ?_⟩
    simp only [step, call]
    split_ifs
    · exact .none rfl rfl (hpending.update rfl hmv) hattentive
    · exact .none rfl rfl hpending hattentive
  | advance i =>
    simp only [step, advance]
    have htodo := hpending i
    split
    · exact ⟨[], .none rfl rfl hpending hattentive⟩
    · next c todo _ hc =>
      rw [hc] at htodo
      refine ⟨_, .one rfl rfl (htodo _ List.mem_cons_self) trivial
        (hpending.update rfl fun z hz => htodo z (List.mem_cons_of_mem _ hz)) ?_⟩
      exact hattentive.of_apply hlocal (.item i (.act c)) rfl
        fun j k m hj => ⟨hj, fun b hb => by cases hb⟩
    · next j m todo hc =>
      rw [hc] at htodo
      refine ⟨[], ?_⟩
      split_ifs
      · exact .none rfl rfl (hpending.update rfl htodo)
          (hattentive.of_desk rfl rfl fun k m' hk => hattentive j k m' hk)
      · exact .none rfl rfl hpending hattentive
    · next j m todo hc =>
      rw [hc] at htodo
      exact ⟨[], .none rfl rfl (hpending.update rfl htodo)
        (hattentive.of_desk rfl rfl fun k m' hk => hattentive j k m' hk)⟩
    · next j m todo hc =>
      rw [hc] at htodo
      refine ⟨[], ?_⟩
      split_ifs
      · exact .none rfl rfl (hpending.update rfl htodo)
          (hattentive.of_desk rfl rfl fun k m' hk => hattentive j k m' hk)
      · exact .none rfl rfl hpending hattentive
    · next j m todo hc =>
      rw [hc] at htodo
      exact ⟨[], .none rfl rfl (hpending.update rfl fun z hz =>
        htodo z (List.mem_cons_of_mem _ hz))
        (hattentive.of_desk rfl rfl fun k m' hk => hattentive j k m' hk)⟩
  | serve j =>
    simp only [step, serve]
    split
    · exact ⟨[], .none rfl rfl hpending hattentive⟩
    · refine ⟨[], ?_⟩
      split_ifs with hfree
      · exact .none rfl rfl hpending (hattentive.of_desk rfl rfl fun _ _ _ => hfree)
      · exact .none rfl rfl hpending hattentive
    · next i m hhand =>
      refine ⟨_, .one rfl rfl (hpending i _ (h.mem_of_taken hhand)) (hattentive j i m hhand)
        hpending ?_⟩
      refine hattentive.of_apply hlocal (.item i (.ask j m)) rfl fun k i' m' hk => ?_
      have hkj : k ≠ j := by
        rintro rfl
        simp only [Hall.serving, Function.update_self] at hk
        cases hk
      simp only [Hall.serving, Function.update_of_ne hkj] at hk
      exact ⟨hk, fun b hb => by cases hb⟩
    · exact ⟨[], .none rfl rfl hpending (hattentive.of_desk rfl rfl fun i m hk => by cases hk)⟩
  | work j b =>
    simp only [step, work]
    split
    · next hhand =>
      refine ⟨_, .one rfl rfl hmv trivial hpending ?_⟩
      refine hattentive.of_apply hlocal (.work j b) rfl fun k i m hk => ⟨hk, fun b' hb => ?_⟩
      injection hb with hjk
      rw [← hjk] at hk
      exact absurd (hhand.symm.trans hk) (by simp)
    · exact ⟨[], .none rfl rfl hpending hattentive⟩
  | other c =>
    exact ⟨_, .one rfl rfl hmv trivial hpending
      (hattentive.of_apply hlocal (.other c) rfl fun j i m hj => ⟨hj, fun b hb => by cases hb⟩)⟩

/-- What a run does. -/
lemma after_final (h : Orderly x) (hattentive : Attentive v x) (hlocal : v.Local)
    (hpending : x.Pending Q) (run : List (Move ι μ β γ)) (hrun : ∀ mv ∈ run, mv.Allows Q) :
    ∃ deeds, After v Q x (StepRun.final (step v) x run) deeds := by
  induction run generalizing x with
  | nil => exact ⟨[], .none rfl rfl hpending hattentive⟩
  | cons mv run ih =>
    obtain ⟨deeds, hstep⟩ :=
      after_step h hattentive hlocal hpending (hrun mv List.mem_cons_self)
    obtain ⟨deeds', hfinal⟩ := ih (orderly_step v h mv) hstep.attentive hstep.pending
      fun mv' hmv' => hrun mv' (List.mem_cons_of_mem _ hmv')
    refine ⟨deeds ++ deeds', ?_, ?_, ?_, hfinal.pending, hfinal.attentive⟩
    · rw [StepRun.final_cons, hfinal.log, hstep.log, List.append_assoc]
    · rw [StepRun.final_cons, hfinal.served, hstep.served, StepRun.final_append]
    · refine StepRun.along_append.mpr ⟨hstep.along, ?_⟩
      rw [← hstep.served]
      exact hfinal.along

/-- The servers are attentive in every interleaving. -/
lemma attentive_final (h : Orderly x) (hattentive : Attentive v x) (hlocal : v.Local)
    (run : List (Move ι μ β γ)) : Attentive v (StepRun.final (step v) x run) := by
  obtain ⟨deeds, hafter⟩ := after_final h hattentive hlocal (Q := fun _ => True)
    (fun _ _ _ => trivial) run fun mv _ => allows_true mv
  exact hafter.attentive

/-- **The shared state is what the deeds make of it**, one after the other: the requests take effect
one at a time, each by a server that is free. -/
theorem served_final (h : Orderly x) (hattentive : Attentive v x) (hlocal : v.Local)
    (run : List (Move ι μ β γ)) :
    ∃ deeds, (StepRun.final (step v) x run).log = x.log ++ deeds ∧
      (StepRun.final (step v) x run).served = StepRun.final v.apply x.served deeds ∧
      StepRun.Along v.apply (fun s d => d.Timely v s) x.served deeds := by
  obtain ⟨deeds, hafter⟩ := after_final h hattentive hlocal (Q := fun _ => True)
    (fun _ _ _ => trivial) run fun mv _ => allows_true mv
  exact ⟨deeds, hafter.log, hafter.served, hafter.along.imp fun _ _ hd => hd.2⟩

/-- What a caller has been called for stays. -/
lemma called_prefix (i : ℕ) (run : List (Move ι μ β γ)) :
    x.called i <+: (StepRun.final (step v) x run).called i := by
  induction run generalizing x with
  | nil => exact List.prefix_rfl
  | cons mv run ih =>
    refine List.IsPrefix.trans ?_ (ih (x := step v x mv))
    cases mv with
    | call k items =>
      simp only [step, call]
      split_ifs
      · by_cases hk : i = k
        · subst hk
          simp only [Function.update_self]
          exact List.prefix_append _ _
        · simp only [Function.update_of_ne hk]
          exact List.prefix_rfl
      · exact List.prefix_rfl
    | advance k =>
      simp only [step, advance]
      split <;> try split_ifs
      all_goals exact List.prefix_rfl
    | serve j =>
      simp only [step, serve]
      split <;> try split_ifs
      all_goals exact List.prefix_rfl
    | work j b =>
      simp only [step, work]
      split <;> exact List.prefix_rfl
    | other c => exact List.prefix_rfl

omit [DecidableEq ι] in
/-- A property that one step of a run gives and the others keep holds at its end. -/
lemma holds_final {α : Type*} {apply : σ → α → σ} {P : σ → Prop} {C : σ → α → Prop} {a : α}
    (hgives : ∀ s, C s a → P (apply s a)) (hkeeps : ∀ s b, C s b → P s → P (apply s b))
    {run : List α} {s : σ} (hrun : StepRun.Along apply C s run) (h : P s ∨ a ∈ run) :
    P (StepRun.final apply s run) := by
  induction run generalizing s with
  | nil => exact h.resolve_right List.not_mem_nil
  | cons b run ih =>
    refine ih hrun.2 ?_
    rcases h with hs | ha
    · exact .inl (hkeeps s b hrun.1 hs)
    · rcases List.mem_cons.mp ha with rfl | ha
      · exact .inl (hgives s hrun.1)
      · exact .inr ha

omit [DecidableEq ι] in
/-- A deed for a caller. -/
lemma eq_item_of_for {d : Deed ι μ β γ} {i : ℕ} {z : Item ι μ γ} (h : d.for i = some z) :
    d = .item i z := by
  cases d with
  | item k z' =>
    by_cases hk : k = i
    · subst hk
      rw [Deed.for, if_pos rfl] at h
      rw [Option.some_inj.mp h]
    · rw [Deed.for, if_neg hk] at h
      cases h
  | work j b => cases h
  | other c => cases h

/-- **What a call has brought about holds from its return on.** If an item gives a property, and
everything else that is done keeps it, then the property holds whenever the caller has returned from
a call with this item, and ever after.

**Proof sketch.** The item has been done when the caller has returned, and it was not done before
the call. What is done after it keeps the property. -/
theorem holds_of_returned {P : σ → Prop} {i : ℕ} {z : Item ι μ γ}
    (hgives : ∀ s, (Deed.item i z : Deed ι μ β γ).Timely v s → P (v.apply s (.item i z)))
    (hkeeps : ∀ s d, Q d → d.Timely v s → P s → P (v.apply s d)) (h : Orderly x)
    (hattentive : Attentive v x) (hlocal : v.Local) (hpending : x.Pending Q)
    {items : List (Item ι μ γ)} (hz : z ∈ items) (hi : (x.caller i).todo = [])
    {run run' : List (Move ι μ β γ)}
    (hallows : ∀ mv ∈ .call i items :: run ++ run', mv.Allows Q)
    (hreturned : ((StepRun.final (step v) x (.call i items :: run)).caller i).todo = []) :
    P (StepRun.final (step v) x (.call i items :: run ++ run')).served := by
  have hfinal := orderly_final v h (.call i items :: run)
  obtain ⟨deeds, hafter⟩ := after_final h hattentive hlocal hpending (.call i items :: run)
    fun mv hmv => hallows mv (List.mem_append_left _ hmv)
  obtain ⟨deeds', hafter'⟩ := after_final hfinal hafter.attentive hlocal hafter.pending run'
    fun mv hmv => hallows mv (List.mem_append_right _ hmv)
  -- what has been done for the caller since the call
  have hdone : (StepRun.final (step v) x (.call i items :: run)).done i =
      x.called i ++ deeds.filterMap (Deed.for i) := by
    rw [← h.done_of_returned hi, Hall.done, hafter.log, List.filterMap_append, Hall.done]
  have hcalled : (x.called i ++ items) <+:
      (StepRun.final (step v) x (.call i items :: run)).called i := by
    have hstep : (step v x (.call i items)).called i = x.called i ++ items := by
      simp only [step, call, if_pos hi, Function.update_self]
    rw [StepRun.final_cons, ← hstep]
    exact called_prefix (v := v) i run
  have hmem : z ∈ deeds.filterMap (Deed.for i) := by
    rw [← hfinal.done_of_returned hreturned, hdone] at hcalled
    exact ((List.prefix_append_right_inj _).mp hcalled).subset hz
  obtain ⟨d, hd, hfor⟩ := List.mem_filterMap.mp hmem
  obtain rfl := eq_item_of_for hfor
  rw [StepRun.final_append, hafter'.served, hafter.served, ← StepRun.final_append]
  refine holds_final (fun s hs => hgives s hs.2) (fun s e he => hkeeps s e he.1 he.2)
    (StepRun.along_append.mpr ⟨hafter.along, ?_⟩) (.inr (List.mem_append_left _ hd))
  rw [← hafter.served]
  exact hafter'.along

end Returned

/-! ### Nobody waits for ever -/

section Progress

variable {ι μ β γ σ : Type*} [DecidableEq ι] (v : Service ι μ β γ σ) {x : Hall ι μ β γ σ}

/-- A thread can go on: a caller, or a server with a request. -/
def CanGoOn (x : Hall ι μ β γ σ) : Prop :=
  (∃ i, advance v x i ≠ x) ∨ ∃ j, serve v x j ≠ x

variable {v}

/-- A caller whose point changes goes on. -/
lemma CanGoOn.of_point {i : ℕ} (h : ((advance v x i).caller i).point ≠ (x.caller i).point) :
    CanGoOn v x :=
  .inl ⟨i, fun heq => h (by rw [heq])⟩

/-- A server whose hand changes goes on. -/
lemma CanGoOn.of_hand {j : ι} (h : ((serve v x j).desk j).hand ≠ (x.desk j).hand) :
    CanGoOn v x :=
  .inr ⟨j, fun heq => h (by rw [heq])⟩

/-- Where there is a request, the caller or the server can go on. -/
lemma Orderly.canGoOn_of_engaged (h : Orderly x) {i : ℕ} {j : ι}
    (hj : (x.desk j).holder = some i) (hfree : v.free j x.served = true) : CanGoOn v x := by
  obtain ⟨m, todo, p, left, hc, hengaged, -⟩ := h.engaged hj
  generalize hd : x.desk j = d at hengaged
  cases hengaged with
  | locked => exact .of_point (i := i) (by simp [Rendezvous.advance, hc, Hall.at])
  | posted => exact .of_hand (j := j) (by simp [Rendezvous.serve, hd, hfree, Hall.serving])
  | taken => exact .of_hand (j := j) (by simp [Rendezvous.serve, hd, Hall.serving])
  | handled => exact .of_hand (j := j) (by simp [Rendezvous.serve, hd, Hall.serving])
  | signalled => exact .of_point (i := i) (by simp [Rendezvous.advance, hc, hd, Hall.at])
  | woken => exact .of_point (i := i) (by simp [Rendezvous.advance, hc, Hall.at])

/-- **Nobody waits for ever**: if all servers are free to look at their queues, then as long as a
caller has not returned, some caller or some server with a request can go on.

**Proof sketch.** A caller waits for a lock or for an answer. The holder of the lock, or the server
that has the request, can go on. -/
theorem exists_move (h : Orderly x) (hfree : ∀ j, v.free j x.served = true) {i : ℕ}
    (hi : (x.caller i).todo ≠ []) : CanGoOn v x := by
  obtain ⟨left, hleft, -⟩ := h.stands i
  generalize hc : x.caller i = c at hleft hi
  cases hleft with
  | free =>
    cases left with
    | nil => exact absurd rfl hi
    | cons y todo =>
      cases y with
      | act y =>
        refine .inl ⟨i, fun heq => ?_⟩
        have hlog : (advance v x i).log.length = x.log.length := by rw [heq]
        simp [advance, hc, Hall.perform] at hlog
      | ask j m =>
        cases hj : (x.desk j).holder with
        | none => exact .of_point (i := i) (by simp [advance, hc, hj, Hall.at])
        | some k => exact h.canGoOn_of_engaged hj (hfree j)
  | @engaged j m p todo left hengaged => exact h.canGoOn_of_engaged hengaged.holder (hfree j)

end Progress

end Rendezvous
