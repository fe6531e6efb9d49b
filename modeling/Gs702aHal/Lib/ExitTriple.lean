import Mathlib.Init

set_option relaxedAutoImplicit false
set_option autoImplicit false

/-!
# Statements with an exit

A statement changes a state and either goes on or jumps to an exit with an error. A triple gives a
condition under which it is started, one that holds where it goes on, and one that holds at its
exit.

## Main definitions

* `ExitTriple.Triple` — the triples.
* `ExitTriple.Keeps` — a statement that keeps a condition, wherever it ends.

## Main results

* `ExitTriple.Triple.seq`, `ExitTriple.Triple.modify`, `ExitTriple.Triple.throw` — one rule for each
  kind of statement.
* `ExitTriple.Keeps.seq`, `ExitTriple.Keeps.ite` — statements that keep a condition compose.
-/

namespace ExitTriple

variable {ε σ : Type}

/-- Started under `P`, the statement goes on under `Q` or jumps under `E`. -/
def Triple (P : σ → Prop) (p : EStateM ε σ Unit) (Q E : σ → Prop) : Prop :=
  ∀ s, P s → match p s with
    | .ok _ s' => Q s'
    | .error _ s' => E s'

/-- The statement keeps a condition, whether it goes on or jumps. -/
def Keeps (I : σ → Prop) (p : EStateM ε σ Unit) : Prop := Triple I p I I

variable {P P' Q Q' R E E' I : σ → Prop} {p q : EStateM ε σ Unit}

/-- **Sequence.** The second statement starts where the first one goes on; both have one exit. -/
theorem Triple.seq (h : Triple P p R E) (h' : Triple R q Q E) :
    Triple P (p >>= fun _ => q) Q E := by
  intro s hs
  have hfirst := h s hs
  show match EStateM.bind p (fun _ => q) s with
    | .ok _ s' => Q s'
    | .error _ s' => E s'
  unfold EStateM.bind
  cases hp : p s with
  | ok u s' =>
    rw [hp] at hfirst
    exact h' s' hfirst
  | error e s' =>
    rw [hp] at hfirst
    exact hfirst

/-- **Consequence.** -/
lemma Triple.imp (h : Triple P p Q E) (hP : ∀ s, P' s → P s) (hQ : ∀ s, Q s → Q' s)
    (hE : ∀ s, E s → E' s) : Triple P' p Q' E' := by
  intro s hs
  have hs' := h s (hP s hs)
  cases hp : p s with
  | ok u s' =>
    rw [hp] at hs'
    exact hQ s' hs'
  | error e s' =>
    rw [hp] at hs'
    exact hE s' hs'

/-- The state in which a statement goes on. -/
lemma Triple.of_ok (h : Triple P p Q E) {s s' : σ} {u : Unit} (hs : P s) (hp : p s = .ok u s') :
    Q s' := by
  have hend := h s hs
  rw [hp] at hend
  exact hend

/-- A statement without an exit goes on. -/
lemma Triple.exists_ok (h : Triple P p Q fun _ => False) {s : σ} (hs : P s) :
    ∃ u s', p s = .ok u s' ∧ Q s' := by
  have hs' := h s hs
  cases hp : p s with
  | ok u s' =>
    rw [hp] at hs'
    exact ⟨u, s', rfl, hs'⟩
  | error e s' =>
    rw [hp] at hs'
    exact hs'.elim

/-- A change of the state goes on. -/
lemma Triple.modify {f : σ → σ} (h : ∀ s, P s → Q (f s)) :
    Triple P (modify f : EStateM ε σ Unit) Q E := h

/-- Nothing is done. -/
lemma Triple.pure (h : ∀ s, P s → Q s) : Triple P (pure () : EStateM ε σ Unit) Q E := h

/-- A jump. -/
lemma Triple.throw {e : ε} (h : ∀ s, P s → E s) :
    Triple P (throw e : EStateM ε σ Unit) Q E := h

/-- The state chooses a statement. -/
lemma Triple.ite {c : σ → Prop} [DecidablePred c] (hp : Triple (fun s => P s ∧ c s) p Q E)
    (hq : Triple (fun s => P s ∧ ¬ c s) q Q E) :
    Triple P (fun s => if c s then p s else q s) Q E := by
  intro s hs
  by_cases hc : c s
  · simp only [if_pos hc]
    exact hp s ⟨hs, hc⟩
  · simp only [if_neg hc]
    exact hq s ⟨hs, hc⟩

/-- A sequence whose first statement goes on. -/
lemma seq_of_ok {s s' : σ} {u : Unit} (h : p s = .ok u s') : (p >>= fun _ => q) s = q s' := by
  show EStateM.bind p (fun _ => q) s = q s'
  rw [EStateM.bind, h]

/-- A sequence whose first statement jumps. -/
lemma seq_of_error {s s' : σ} {e : ε} (h : p s = .error e s') :
    (p >>= fun _ => q) s = .error e s' := by
  show EStateM.bind p (fun _ => q) s = .error e s'
  rw [EStateM.bind, h]

/-- The state after a statement that keeps a condition. -/
lemma Keeps.of_ok (h : Keeps I p) {s s' : σ} {u : Unit} (hs : I s) (hp : p s = .ok u s') :
    I s' :=
  Triple.of_ok h hs hp

/-- The state at the exit of a statement that keeps a condition. -/
lemma Keeps.of_error (h : Keeps I p) {s s' : σ} {e : ε} (hs : I s) (hp : p s = .error e s') :
    I s' := by
  have hkeep := h s hs
  rw [hp] at hkeep
  exact hkeep

/-- Statements that keep a condition follow each other. -/
lemma Keeps.seq (h : Keeps I p) (h' : Keeps I q) : Keeps I (p >>= fun _ => q) := Triple.seq h h'

/-- A choice between statements that keep a condition. -/
lemma Keeps.ite {c : σ → Prop} [DecidablePred c] (hp : Keeps I p) (hq : Keeps I q) :
    Keeps I (fun s => if c s then p s else q s) :=
  Triple.ite (Triple.imp hp (fun _ h => h.1) (fun _ h => h) fun _ h => h)
    (Triple.imp hq (fun _ h => h.1) (fun _ h => h) fun _ h => h)

end ExitTriple
