import Gs702aHal.Lib.StepRun
import Mathlib.Algebra.Group.Defs
import Mathlib.Algebra.Order.Ring.Nat
import Mathlib.Data.List.Count
import Mathlib.Logic.Function.Iterate

set_option relaxedAutoImplicit false
set_option autoImplicit false

/-!
# Commands and replies

A party sends commands to another one and reacts to their replies. A reply comes only to a command
that has not been answered yet. A party that either sends one more command or reports the end, at
each reply, is always waiting for one reply or has reported once.

## Main definitions

* `Exchange` — the party, how many of its commands are unanswered, and what it has done.
* `Exchange.reply` — the party reacts to a reply.
* `Exchange.Expected` — a reply comes to an unanswered command.
* `Exchange.Settled` — the party is busy and waits for one reply, or idle and has reported once.
* `Exchange.rounds` — a partner answers what is unanswered, round by round.

## Main results

* `Exchange.settled_final` — one report in all, over every run of expected replies.
* `Exchange.tracked_final` — the log adds up to what the party holds.
* `Exchange.count_final` — what happens once at each reply.
* `Exchange.rounds_count`, `Exchange.rounds_always` — invariants of the rounds with a partner.
* `Exchange.rounds_script` — what is still to be sent is sent, one command in each round.
-/

/-- One party of an exchange: its state, how many of its commands are unanswered, and what it has
done so far. -/
structure Exchange (σ α : Type*) where
  party : σ
  unanswered : ℕ
  log : List α

namespace Exchange

variable {σ ε α : Type*} (react : σ → ε → σ × List α) (sends : α → Bool)

/-- The party reacts to a reply, which answers one of its commands. -/
def reply (x : Exchange σ α) (e : ε) : Exchange σ α :=
  ⟨(react x.party e).1, x.unanswered - 1 + (react x.party e).2.countP sends,
    x.log ++ (react x.party e).2⟩

/-- There is a command to be answered. -/
def Expected (x : Exchange σ α) (_ : ε) : Prop := 0 < x.unanswered

instance (x : Exchange σ α) (e : ε) : Decidable (x.Expected e) :=
  inferInstanceAs (Decidable (0 < x.unanswered))

/-- A party that is busy waits for one reply and has not reported; one that is idle waits for none
and has reported once. -/
structure Settled (idle : σ → Prop) (reports : α → Bool) (x : Exchange σ α) : Prop where
  one : x.log.countP reports + x.unanswered = 1
  idle_iff : idle x.party ↔ x.unanswered = 0

variable {react sends} {idle : σ → Prop} {reports : α → Bool}

/-- A reaction that sends one command or reports once, and is idle after the second, keeps the
exchange settled. -/
lemma Settled.reply {x : Exchange σ α} (h : Settled idle reports x) {e : ε}
    (hone : (react x.party e).2.countP sends + (react x.party e).2.countP reports = 1)
    (hidle : idle (react x.party e).1 ↔ (react x.party e).2.countP sends = 0)
    (he : x.Expected e) : Settled idle reports (x.reply react sends e) := by
  have hsum := h.one
  have hpos : 0 < x.unanswered := he
  constructor
  · simp only [Exchange.reply, List.countP_append]
    omega
  · simp only [Exchange.reply, hidle]
    omega

/-- **One report in all.** If each reaction sends one command or reports once, and the party is
idle exactly after the second, then in every run of expected replies the party is busy and waits
for one reply, or idle and has reported once. -/
theorem settled_final
    (hone : ∀ s e, (react s e).2.countP sends + (react s e).2.countP reports = 1)
    (hidle : ∀ s e, idle (react s e).1 ↔ (react s e).2.countP sends = 0) {x : Exchange σ α}
    (h : Settled idle reports x) {run : List ε}
    (hrun : StepRun.Along (reply react sends) Expected x run) :
    Settled idle reports (StepRun.final (reply react sends) x run) :=
  (StepRun.always_of_along (C := Expected)
    (fun y e hy he => Settled.reply hy (hone y.party e) (hidle y.party e) he) h hrun).last

/-- **What the log adds up to** is what the party holds, over every run, if each reaction adds to
the log what the party takes.

**Proof sketch.** Induction on the run, with an invariant of the party. -/
theorem tracked_final {M : Type*} [AddMonoid M] {μ : List α → M}
    (hμ : ∀ l l', μ (l ++ l') = μ l + μ l') (held : σ → M) (I : σ → Prop)
    (hkeep : ∀ s e, I s → I (react s e).1)
    (hstep : ∀ s e, I s → held s + μ (react s e).2 = held (react s e).1) {x : Exchange σ α}
    (hI : I x.party) (h : μ x.log = held x.party) (run : List ε) :
    μ (StepRun.final (reply react sends) x run).log =
      held (StepRun.final (reply react sends) x run).party := by
  induction run generalizing x with
  | nil => exact h
  | cons e run ih =>
    apply ih
    · exact hkeep x.party e hI
    · simp only [reply]
      rw [hμ, h, hstep x.party e hI]

/-- What happens once at each reply happens as often as there are replies. -/
lemma count_final (p : α → Bool) (hstep : ∀ s e, (react s e).2.countP p = 1)
    (x : Exchange σ α) (run : List ε) :
    (StepRun.final (reply react sends) x run).log.countP p = x.log.countP p + run.length := by
  induction run generalizing x with
  | nil => rfl
  | cons e run ih =>
    rw [StepRun.final_cons, ih]
    simp only [reply, List.countP_append, hstep, List.length_cons]
    omega

/-! ### A partner that answers -/

section Partner

variable (react sends) (answer : Exchange σ α → ε)

/-- The partner answers if there is an unanswered command. -/
def round (x : Exchange σ α) : Exchange σ α :=
  if 0 < x.unanswered then x.reply react sends (answer x) else x

/-- The exchange after a number of rounds. -/
def rounds (n : ℕ) (x : Exchange σ α) : Exchange σ α := (round react sends answer)^[n] x

variable {react sends answer}

/-- A round with an unanswered command. -/
lemma round_of_pos {x : Exchange σ α} (h : 0 < x.unanswered) :
    round react sends answer x = x.reply react sends (answer x) := if_pos h

/-- A round without one. -/
lemma round_of_zero {x : Exchange σ α} (h : x.unanswered = 0) :
    round react sends answer x = x := if_neg (by omega)

/-- Nothing happens any more without an unanswered command. -/
lemma rounds_of_zero {x : Exchange σ α} (h : x.unanswered = 0) (n : ℕ) :
    rounds react sends answer n x = x := Function.iterate_fixed (round_of_zero h) n

/-- One more round. -/
lemma rounds_succ (n : ℕ) (x : Exchange σ α) :
    rounds react sends answer (n + 1) x =
      round react sends answer (rounds react sends answer n x) :=
  Function.iterate_succ_apply' _ n x

/-- Rounds come one after the other. -/
lemma rounds_add (m n : ℕ) (x : Exchange σ α) :
    rounds react sends answer (m + n) x =
      rounds react sends answer n (rounds react sends answer m x) := by
  rw [Nat.add_comm, rounds, Function.iterate_add_apply]
  rfl

/-- What has been done stays in the log. -/
lemma log_rounds_prefix {m n : ℕ} (h : m ≤ n) (x : Exchange σ α) :
    (rounds react sends answer m x).log <+: (rounds react sends answer n x).log := by
  induction n, h using Nat.le_induction with
  | base => exact List.prefix_refl _
  | succ n _ ih =>
    rw [rounds_succ]
    by_cases hpos : 0 < (rounds react sends answer n x).unanswered
    · rw [round_of_pos hpos]
      exact ih.trans (List.prefix_append _ _)
    · rw [round_of_zero (by omega)]
      exact ih

/-- An exchange that has come to an end stays there. -/
lemma rounds_of_le {m n : ℕ} (h : m ≤ n) {x : Exchange σ α}
    (hzero : (rounds react sends answer m x).unanswered = 0) :
    rounds react sends answer n x = rounds react sends answer m x := by
  obtain ⟨k, rfl⟩ := Nat.exists_eq_add_of_le h
  rw [rounds_add, rounds_of_zero hzero]

/-- **An invariant that counts the rounds.** -/
lemma rounds_count {I : ℕ → Exchange σ α → Prop} {n : ℕ} {x : Exchange σ α} (h0 : I 0 x)
    (hstep : ∀ j < n, ∀ y, I j y → I (j + 1) (round react sends answer y)) :
    ∀ j ≤ n, I j (rounds react sends answer j x) := by
  intro j hj
  induction j with
  | zero => exact h0
  | succ j ih =>
    rw [rounds_succ]
    exact hstep j hj _ (ih (Nat.le_of_succ_le hj))

/-- **What is still to be sent is sent in this order**, one command in each round, if each round
sends the first of it and leaves the rest. -/
theorem rounds_script {C : Type*} {cmds : List α → List C} {At : List C → Exchange σ α → Prop}
    (hnext : ∀ c todo x, At (c :: todo) x →
      At todo (round react sends answer x) ∧
        cmds (round react sends answer x).log = cmds x.log ++ [c])
    {todo : List C} {x : Exchange σ α} (h : At todo x) :
    ∀ n ≤ todo.length, At (todo.drop n) (rounds react sends answer n x) ∧
      cmds (rounds react sends answer n x).log = cmds x.log ++ todo.take n := by
  intro n hn
  induction n with
  | zero => exact ⟨h, (List.append_nil _).symm⟩
  | succ n ih =>
    obtain ⟨hat, hcmds⟩ := ih (Nat.le_of_succ_le hn)
    rw [List.drop_eq_getElem_cons hn] at hat
    obtain ⟨hat', hcmds'⟩ := hnext _ _ _ hat
    rw [rounds_succ, hcmds', hcmds, List.append_assoc, List.take_append_getElem]
    exact ⟨hat', rfl⟩

end Partner

end Exchange
