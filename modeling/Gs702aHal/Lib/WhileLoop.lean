import Mathlib.Order.Basic

set_option relaxedAutoImplicit false
set_option autoImplicit false

/-!
# While loops with fuel

A `while` loop is run for at most a given number of passes. A run that uses up its fuel has no
result; a loop that ends has one result, whatever fuel is left.

## Main definitions

* `whileLoop` — the loop.
* `WhileLoop.EndsWith` — the loop ends, in a state with a property.

## Main results

* `WhileLoop.EndsWith.of_measure`, `WhileLoop.some_of_measure` — the rule for termination with an
  invariant, for some fuel and for given fuel.
* `WhileLoop.isSome_of_measure`, `WhileLoop.of_eq_some` — the two halves of it for given fuel.
* `WhileLoop.endsWith_iff` — a condition that every pass keeps and reflects, and that agrees with
  the property at the exit, holds exactly if the loop ends with the property.
-/

variable {σ : Type*}

/-- Run `body` while `go` holds, for at most `fuel` passes; `none` if the fuel is used up. -/
def whileLoop (go : σ → Bool) (body : σ → σ) : ℕ → σ → Option σ
  | 0, s => if go s then none else some s
  | fuel + 1, s => if go s then whileLoop go body fuel (body s) else some s

namespace WhileLoop

variable {go : σ → Bool} {body : σ → σ} {P C : σ → Prop}

/-- The loop ends, in a state with the property. -/
def EndsWith (go : σ → Bool) (body : σ → σ) (P : σ → Prop) (s : σ) : Prop :=
  ∃ fuel s', whileLoop go body fuel s = some s' ∧ P s'

/-- A loop that is over ends where it is. -/
lemma endsWith_of_exit {s : σ} (hgo : go s = false) : EndsWith go body P s ↔ P s := by
  constructor
  · rintro ⟨fuel, s', hloop, hs'⟩
    cases fuel <;> simp only [whileLoop, hgo, Bool.false_eq_true, if_false] at hloop <;>
      exact Option.some.inj hloop ▸ hs'
  · exact fun hs => ⟨0, s, by simp [whileLoop, hgo], hs⟩

/-- **Termination with an invariant, for given fuel.** If every pass keeps the invariant and
decreases a measure, the loop ends within as many passes as the measure tells, in a state with
the invariant in which it is over. -/
theorem some_of_measure (μ : σ → ℕ)
    (hpass : ∀ s, go s = true → C s → C (body s) ∧ μ (body s) < μ s) {fuel : ℕ} {s : σ}
    (hfuel : μ s ≤ fuel) (hs : C s) :
    ∃ s', whileLoop go body fuel s = some s' ∧ C s' ∧ go s' = false := by
  induction fuel generalizing s with
  | zero =>
    cases hgo : go s with
    | false => exact ⟨s, by simp [whileLoop, hgo], hs, hgo⟩
    | true => exact absurd (hpass s hgo hs).2 (by omega)
  | succ fuel ih =>
    cases hgo : go s with
    | false => exact ⟨s, by simp [whileLoop, hgo], hs, hgo⟩
    | true =>
      obtain ⟨hbody, hlt⟩ := hpass s hgo hs
      rw [whileLoop, if_pos hgo]
      exact ih (by omega) hbody

/-- **Termination with an invariant.** If every pass keeps the invariant and decreases a measure,
the loop ends in a state with the invariant in which it is over. -/
theorem EndsWith.of_measure (μ : σ → ℕ)
    (hpass : ∀ s, go s = true → C s → C (body s) ∧ μ (body s) < μ s) {s : σ} (hs : C s) :
    EndsWith go body (fun s' => C s' ∧ go s' = false) s :=
  ⟨μ s, some_of_measure μ hpass (Nat.le_refl (μ s)) hs⟩

/-- A loop whose passes decrease a measure ends within as many passes. -/
lemma isSome_of_measure (μ : σ → ℕ) (hpass : ∀ s, go s = true → μ (body s) < μ s) {fuel : ℕ} {s : σ}
    (hfuel : μ s ≤ fuel) : (whileLoop go body fuel s).isSome = true := by
  obtain ⟨s', hloop, -⟩ := some_of_measure (C := fun _ => True) μ
    (fun s hgo _ => ⟨trivial, hpass s hgo⟩) hfuel trivial
  rw [hloop, Option.isSome_some]

/-- Where the loop ends, it is over, and a property that every pass keeps holds. -/
lemma of_eq_some (hpass : ∀ s, go s = true → C s → C (body s)) {fuel : ℕ} {s s' : σ} (hs : C s)
    (hloop : whileLoop go body fuel s = some s') : C s' ∧ go s' = false := by
  induction fuel generalizing s with
  | zero =>
    cases hgo : go s with
    | false =>
      rw [whileLoop, hgo] at hloop
      exact Option.some.inj hloop ▸ ⟨hs, hgo⟩
    | true => simp [whileLoop, hgo] at hloop
  | succ fuel ih =>
    cases hgo : go s with
    | false =>
      rw [whileLoop, hgo] at hloop
      exact Option.some.inj hloop ▸ ⟨hs, hgo⟩
    | true =>
      rw [whileLoop, if_pos hgo] at hloop
      exact ih (hpass s hgo hs) hloop

/-- A property that every pass keeps holds where the loop ends. -/
lemma of_invariant (hpass : ∀ s, go s = true → C s → C (body s)) {fuel : ℕ} {s s' : σ} (hs : C s)
    (hloop : whileLoop go body fuel s = some s') : C s' :=
  (of_eq_some hpass hs hloop).1

/-- The loop is over where it ends. -/
lemma go_eq_false {fuel : ℕ} {s s' : σ} (hloop : whileLoop go body fuel s = some s') :
    go s' = false :=
  (of_eq_some (C := fun _ => True) (fun _ _ _ => trivial) trivial hloop).2

/-- **The exact rule.** A condition that every pass keeps, decreasing a measure, that holds
before a pass if it does after, and that agrees with a property at the exit, holds exactly if
the loop ends with the property.

**Proof sketch.** If the condition holds, the loop ends in a state with the condition, which has
the property. If the loop ends with the property, the condition holds at the exit, and back
through the passes, by induction on the fuel. -/
theorem endsWith_iff (μ : σ → ℕ) (hexit : ∀ s, go s = false → (C s ↔ P s))
    (hpass : ∀ s, go s = true → C s → C (body s) ∧ μ (body s) < μ s)
    (hback : ∀ s, go s = true → C (body s) → C s) (s : σ) : EndsWith go body P s ↔ C s := by
  constructor
  · rintro ⟨fuel, s', hloop, hs'⟩
    induction fuel generalizing s with
    | zero =>
      cases hgo : go s with
      | false => exact (hexit s hgo).mpr ((endsWith_of_exit hgo).mp ⟨0, s', hloop, hs'⟩)
      | true => simp [whileLoop, hgo] at hloop
    | succ fuel ih =>
      cases hgo : go s with
      | false => exact (hexit s hgo).mpr ((endsWith_of_exit hgo).mp ⟨fuel + 1, s', hloop, hs'⟩)
      | true =>
        rw [whileLoop, if_pos hgo] at hloop
        exact hback s hgo (ih (body s) hloop)
  · intro hs
    obtain ⟨fuel, s', hloop, hs', hgo⟩ := EndsWith.of_measure μ hpass hs
    exact ⟨fuel, s', hloop, (hexit s' hgo).mp hs'⟩

end WhileLoop
