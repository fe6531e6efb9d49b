import Mathlib.Data.List.Infix

set_option relaxedAutoImplicit false
set_option autoImplicit false

/-!
# Runs of a step function

A system given by a total step function on its states is run by a list of actions. Two kinds
of properties of a run are kept apart: conditions on each step together with the state it is
taken in (`StepRun.Along`), and properties of every state that the run goes through
(`StepRun.Always`).

## Main definitions

* `StepRun.final` — the state after a run.
* `StepRun.Along` — every step of a run satisfies a condition.
* `StepRun.Always` — every state of a run satisfies a property.

## Main results

* `StepRun.always_iff_prefix` — the states of a run are the final states of its prefixes.
* `StepRun.always_of_along` — the invariant rule.
* `StepRun.along_of_along` — a condition that implies another under an invariant.
* `StepRun.along_iff_along` — two conditions that agree under an invariant hold along the same
  runs.
* `StepRun.always_iff_along_of_along`, `StepRun.always_iff_along` — a property that a step keeps
  exactly under a condition holds throughout a run exactly if every step satisfies the condition.
* `StepRun.always_iff_along_of_assumption`, `StepRun.always_iff_along_of_invariant` — the same for
  an invariant of the runs under the condition that is stronger than the property.
* `StepRun.simulates_of_along`, `StepRun.simulates` — a relation that the steps of two systems
  keep relates their runs.
-/

namespace StepRun

variable {σ α : Type*} (step : σ → α → σ)

/-- The state after a run. -/
def final (s : σ) (run : List α) : σ := run.foldl step s

/-- Every step of the run, together with the state it is taken in, satisfies `C`. -/
def Along (C : σ → α → Prop) : σ → List α → Prop
  | _, [] => True
  | s, a :: run => C s a ∧ Along C (step s a) run

/-- Every state of the run, the first and the last one included, satisfies `I`. -/
def Always (I : σ → Prop) : σ → List α → Prop
  | s, [] => I s
  | s, a :: run => I s ∧ Always I (step s a) run

instance Along.decidable (C : σ → α → Prop) [∀ s a, Decidable (C s a)] :
    ∀ (s : σ) (run : List α), Decidable (Along step C s run)
  | _, [] => .isTrue trivial
  | s, a :: run =>
    have := Along.decidable C (step s a) run
    inferInstanceAs (Decidable (C s a ∧ Along step C (step s a) run))

/-- The empty run stays. -/
@[simp] lemma final_nil (s : σ) : final step s [] = s := rfl

/-- A run continues after its first step. -/
@[simp] lemma final_cons (s : σ) (a : α) (run : List α) :
    final step s (a :: run) = final step (step s a) run := rfl

/-- Runs compose. -/
lemma final_append (s : σ) (run run' : List α) :
    final step s (run ++ run') = final step (final step s run) run' :=
  List.foldl_append

variable {step}

/-- A property of every state holds in the first. -/
lemma Always.head {I : σ → Prop} {s : σ} {run : List α} (h : Always step I s run) : I s := by
  cases run with
  | nil => exact h
  | cons a run => exact h.1

/-- A property of every state holds in the last. -/
lemma Always.last {I : σ → Prop} {s : σ} {run : List α} (h : Always step I s run) :
    I (final step s run) := by
  induction run generalizing s with
  | nil => exact h
  | cons a run ih => exact ih h.2

/-- Properties of every state weaken. -/
lemma Always.imp {I I' : σ → Prop} (hI : ∀ s, I s → I' s) {s : σ} {run : List α}
    (h : Always step I s run) : Always step I' s run := by
  induction run generalizing s with
  | nil => exact hI s h
  | cons a run ih => exact ⟨hI s h.1, ih h.2⟩

/-- The states of a run are the final states of its prefixes. -/
lemma always_iff_prefix {I : σ → Prop} {s : σ} {run : List α} :
    Always step I s run ↔ ∀ pre, pre <+: run → I (final step s pre) := by
  induction run generalizing s with
  | nil => simp [Always]
  | cons a run ih =>
    simp only [Always, ih]
    constructor
    · rintro ⟨h0, h⟩ pre hpre
      cases pre with
      | nil => exact h0
      | cons b pre =>
        obtain ⟨rfl, hpre'⟩ := List.cons_prefix_cons.mp hpre
        exact h pre hpre'
    · intro h
      refine ⟨h [] (List.nil_prefix), fun pre hpre => ?_⟩
      exact h (a :: pre) (List.cons_prefix_cons.mpr ⟨rfl, hpre⟩)

/-- Conditions on steps weaken. -/
lemma Along.imp {C C' : σ → α → Prop} (hC : ∀ s a, C s a → C' s a) {s : σ} {run : List α}
    (h : Along step C s run) : Along step C' s run := by
  induction run generalizing s with
  | nil => trivial
  | cons a run ih => exact ⟨hC s a h.1, ih h.2⟩

/-- Conditions on steps combine. -/
lemma Along.and {C C' : σ → α → Prop} {s : σ} {run : List α} (h : Along step C s run)
    (h' : Along step C' s run) : Along step (fun s a => C s a ∧ C' s a) s run := by
  induction run generalizing s with
  | nil => trivial
  | cons a run ih => exact ⟨⟨h.1, h'.1⟩, ih h.2 h'.2⟩

/-- A condition holds along two runs, one after the other, if it holds along the first and along
the second from where the first ends. -/
lemma along_append {C : σ → α → Prop} {s : σ} {run run' : List α} :
    Along step C s (run ++ run') ↔ Along step C s run ∧ Along step C (final step s run) run' := by
  induction run generalizing s with
  | nil => simp [Along]
  | cons a run ih =>
    simp only [List.cons_append, Along, ih, final_cons, and_assoc]

/-- Conditions on steps that agree hold along the same runs. -/
lemma along_congr {C C' : σ → α → Prop} (hC : ∀ s a, C s a ↔ C' s a) {s : σ} {run : List α} :
    Along step C s run ↔ Along step C' s run :=
  ⟨Along.imp fun s a => (hC s a).mp, Along.imp fun s a => (hC s a).mpr⟩

/-- **The invariant rule.** A property kept by every step that satisfies a condition holds
throughout the runs whose steps all satisfy it. -/
theorem always_of_along {I : σ → Prop} {C : σ → α → Prop}
    (hstep : ∀ s a, I s → C s a → I (step s a)) {s : σ} (h0 : I s) {run : List α}
    (h : Along step C s run) : Always step I s run := by
  induction run generalizing s with
  | nil => exact h0
  | cons a run ih => exact ⟨h0, ih (hstep s a h0 h.1) h.2⟩

/-- **Consequence under an invariant.** If the steps of a run satisfy a condition that keeps an
invariant and, under it, implies another condition, they satisfy that condition as well. -/
theorem along_of_along {I : σ → Prop} {C C' : σ → α → Prop}
    (hstep : ∀ s a, I s → C s a → I (step s a)) (himp : ∀ s a, I s → C s a → C' s a) {s : σ}
    (h0 : I s) {run : List α} (h : Along step C s run) : Along step C' s run := by
  induction run generalizing s with
  | nil => trivial
  | cons a run ih => exact ⟨himp s a h0 h.1, ih (hstep s a h0 h.1) h.2⟩

/-- **Agreement under an invariant.** Two conditions that agree in the states of an invariant,
the second of which keeps it, hold along the same runs.

**Proof sketch.** Induction on the run. The conditions agree at the first step; if they hold
there the invariant holds after it, so the induction hypothesis covers the rest. -/
theorem along_iff_along {I : σ → Prop} {C C' : σ → α → Prop}
    (hagree : ∀ s a, I s → (C s a ↔ C' s a)) (hstep : ∀ s a, I s → C' s a → I (step s a))
    {s : σ} (h0 : I s) {run : List α} : Along step C s run ↔ Along step C' s run := by
  induction run generalizing s with
  | nil => exact Iff.rfl
  | cons a run ih =>
    simp only [Along, hagree s a h0]
    exact and_congr_right fun hc => ih (hstep s a h0 hc)

/-- A condition that every step satisfies holds along every run. -/
lemma along_of_forall {C : σ → α → Prop} (h : ∀ s a, C s a) (s : σ) (run : List α) :
    Along step C s run := by
  induction run generalizing s with
  | nil => trivial
  | cons a run ih => exact ⟨h s a, ih (step s a)⟩

/-- **The exact invariant rule.** If, in the states of a background invariant, a step that
meets an assumption keeps a property exactly under a condition, the property holds throughout a
run that meets the assumption exactly if every step satisfies the condition.

**Proof sketch.** Induction on the run. The first step satisfies the condition exactly if it
keeps the property, and the rest of the run is covered by the induction hypothesis at the
state after that step; if the step breaks the property, both sides are false. -/
theorem always_iff_along_of_along {I J : σ → Prop} {C D : σ → α → Prop}
    (hback : ∀ s a, J s → D s a → J (step s a))
    (hstep : ∀ s a, J s → D s a → I s → (I (step s a) ↔ C s a))
    {s : σ} (hj : J s) (h0 : I s) {run : List α} (hd : Along step D s run) :
    Always step I s run ↔ Along step C s run := by
  induction run generalizing s with
  | nil => exact ⟨fun _ => trivial, fun _ => h0⟩
  | cons a run ih =>
    obtain ⟨hda, hdrun⟩ := hd
    have hj' := hback s a hj hda
    simp only [Always, Along]
    constructor
    · rintro ⟨-, h⟩
      have h1 := h.head
      exact ⟨(hstep s a hj hda h0).mp h1, (ih hj' h1 hdrun).mp h⟩
    · rintro ⟨hc, h⟩
      exact ⟨h0, (ih hj' ((hstep s a hj hda h0).mpr hc) hdrun).mpr h⟩

/-- The exact invariant rule for steps without an assumption. -/
theorem always_iff_along {I J : σ → Prop} {C : σ → α → Prop}
    (hback : ∀ s a, J s → J (step s a)) (hstep : ∀ s a, J s → I s → (I (step s a) ↔ C s a))
    {s : σ} (hj : J s) (h0 : I s) {run : List α} : Always step I s run ↔ Along step C s run :=
  always_iff_along_of_along (D := fun _ _ => True) (fun s a h _ => hback s a h)
    (fun s a h _ => hstep s a h) hj h0 (along_of_forall (fun _ _ => trivial) s run)

/-- **The exact rule with an invariant.** If an invariant implies a property, steps under an
assumption and a condition keep the invariant, and steps under the assumption alone that do not
satisfy the condition break the property, then the property holds throughout a run from the
invariant that meets the assumption exactly if every step satisfies the condition. -/
theorem always_iff_along_of_assumption {I P : σ → Prop} {C D : σ → α → Prop}
    (himp : ∀ s, I s → P s) (hkeep : ∀ s a, I s → D s a → C s a → I (step s a))
    (hbreak : ∀ s a, I s → D s a → P (step s a) → C s a) {s : σ} (h0 : I s) {run : List α}
    (hd : Along step D s run) : Always step P s run ↔ Along step C s run := by
  induction run generalizing s with
  | nil => exact ⟨fun _ => trivial, fun _ => himp s h0⟩
  | cons a run ih =>
    obtain ⟨hda, hdrun⟩ := hd
    constructor
    · rintro ⟨-, h⟩
      have hc := hbreak s a h0 hda h.head
      exact ⟨hc, (ih (hkeep s a h0 hda hc) hdrun).mp h⟩
    · rintro ⟨hc, h⟩
      exact ⟨himp s h0, (ih (hkeep s a h0 hda hc) hdrun).mpr h⟩

/-- The exact rule with an invariant for steps without an assumption. -/
theorem always_iff_along_of_invariant {I P : σ → Prop} {C : σ → α → Prop}
    (himp : ∀ s, I s → P s) (hkeep : ∀ s a, I s → C s a → I (step s a))
    (hbreak : ∀ s a, I s → P (step s a) → C s a) {s : σ} (h0 : I s) {run : List α} :
    Always step P s run ↔ Along step C s run :=
  always_iff_along_of_assumption (D := fun _ _ => True) himp (fun s a hi _ => hkeep s a hi)
    (fun s a hi _ => hbreak s a hi) h0 (along_of_forall (fun _ _ => trivial) s run)

/-- **Simulation under a condition.** If two systems that take the same actions stay related at
each step that satisfies a condition, they are related after each run whose steps all satisfy
it. -/
theorem simulates_of_along {τ : Type*} {step' : τ → α → τ} {R : σ → τ → Prop}
    {C : σ → α → Prop} (hstep : ∀ s t a, R s t → C s a → R (step s a) (step' t a)) {s : σ} {t : τ}
    (h0 : R s t) {run : List α} (h : Along step C s run) :
    R (final step s run) (final step' t run) := by
  induction run generalizing s t with
  | nil => exact h0
  | cons a run ih => exact ih (hstep s t a h0 h.1) h.2

/-- **Simulation.** If two systems that take the same actions stay related at each step, they are
related after each run. -/
theorem simulates {τ : Type*} {step' : τ → α → τ} {R : σ → τ → Prop}
    (hstep : ∀ s t a, R s t → R (step s a) (step' t a)) {s : σ} {t : τ} (h0 : R s t)
    (run : List α) : R (final step s run) (final step' t run) :=
  simulates_of_along (C := fun _ _ => True) (fun s t a h _ => hstep s t a h) h0
    (along_of_forall (fun _ _ => trivial) s run)

end StepRun
