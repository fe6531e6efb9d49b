import Mathlib.Data.List.Basic
import Mathlib.Logic.Function.Basic

set_option relaxedAutoImplicit false
set_option autoImplicit false

/-!
# Counted loops and logs of stores

A counted loop runs its body once for each index. A loop that fills a memory is described by the
stores it makes, in their order: the memory afterwards is the memory before with all of them made.

## Main definitions

* `forLoop` — the loop over the indices `0, …, n - 1`.
* `forLoopLog` — what its passes report.
* `StoreLog.storeAll` — a memory after a list of stores.
* `StoreLog.passes` — the stores of a loop, from those of each pass.
* `StoreLog.copyCells` — a memory after a block was copied into it.
* `StoreLog.WritesExactly` — a procedure sets some cells and keeps the others.

## Main results

* `forLoop_rule` — the rule for counted loops.
* `StoreLog.storeAll_of_notMem` — a cell that is not stored to keeps its value.
* `StoreLog.storeAll_congr` — what a cell that is stored to holds does not depend on the memory
  before.
* `StoreLog.storeAll_eq` — a cell to which only one value is stored holds it.
* `StoreLog.exists_storeAll_append_eq` — a cell holds what the last stores wrote to it.
* `StoreLog.writesExactly_storeAll_iff` — stores set the cells that they name, and no others.
-/

section Loop

variable {σ : Type*}

/-- `for (i = 0; i < n; i++)`. -/
def forLoop : ℕ → (ℕ → σ → σ) → σ → σ
  | 0, _, s => s
  | n + 1, body, s => body n (forLoop n body s)

/-- **Rule for counted loops.** What holds before the first pass, and is carried by each pass from
its index to the next, holds after the last pass. -/
theorem forLoop_rule (P : ℕ → σ → Prop) {body : ℕ → σ → σ} {s : σ} (hstart : P 0 s) :
    ∀ n, (∀ i t, i < n → P i t → P (i + 1) (body i t)) → P n (forLoop n body s) := by
  intro n
  induction n with
  | zero => exact fun _ => hstart
  | succ n ih =>
    intro hpass
    exact hpass n _ (Nat.lt_succ_self n) (ih fun i t hi => hpass i t (Nat.lt_succ_of_lt hi))

/-- A loop with a closed form for the state before each pass ends in its last value. -/
lemma forLoop_eq (f : ℕ → σ) {body : ℕ → σ → σ} (hpass : ∀ i, body i (f i) = f (i + 1)) (n : ℕ) :
    forLoop n body (f 0) = f n := by
  induction n with
  | zero => rfl
  | succ n ih => rw [forLoop, ih, hpass]

/-- Loops whose passes keep a relation between their states end in related states. -/
lemma forLoop_related {τ : Type*} {R : σ → τ → Prop} {body : ℕ → σ → σ} {body' : ℕ → τ → τ}
    {s : σ} {t : τ} (hstart : R s t)
    (hpass : ∀ i s t, R s t → R (body i s) (body' i t)) (n : ℕ) :
    R (forLoop n body s) (forLoop n body' t) := by
  induction n with
  | zero => exact hstart
  | succ n ih => exact hpass n _ _ ih

/-- What the passes of a loop report, each of them about the state that it starts in. -/
def forLoopLog {β : Type*} (n : ℕ) (body : ℕ → σ → σ) (report : ℕ → σ → List β) (s : σ) : List β :=
  (List.range n).flatMap fun i => report i (forLoop i body s)

/-- With a closed form for the state before each pass, the reports are about these states. -/
lemma mem_forLoopLog {β : Type*} (f : ℕ → σ) {body : ℕ → σ → σ}
    (hpass : ∀ i, body i (f i) = f (i + 1)) {report : ℕ → σ → List β} {n : ℕ} {b : β} :
    b ∈ forLoopLog n body report (f 0) ↔ ∃ i < n, b ∈ report i (f i) := by
  simp only [forLoopLog, forLoop_eq f hpass, List.mem_flatMap, List.mem_range]

end Loop

namespace StoreLog

variable {α : Type*} {m m' : ℕ → α} {ws : List (ℕ × α)} {k : ℕ}

/-- The memory after the stores of a list, made in its order. -/
def storeAll (ws : List (ℕ × α)) (m : ℕ → α) : ℕ → α :=
  ws.foldl (fun m w => Function.update m w.1 w.2) m

/-- The cells that a list stores to. -/
def targets (ws : List (ℕ × α)) : List ℕ := ws.map Prod.fst

@[simp] lemma storeAll_nil : storeAll [] m = m := rfl

@[simp] lemma storeAll_cons (w : ℕ × α) :
    storeAll (w :: ws) m = storeAll ws (Function.update m w.1 w.2) := rfl

/-- The stores of two lists are made one after the other. -/
lemma storeAll_append (ws ws' : List (ℕ × α)) :
    storeAll (ws ++ ws') m = storeAll ws' (storeAll ws m) := List.foldl_append

/-- A cell is stored to exactly if a store of the list names it. -/
lemma mem_targets : k ∈ targets ws ↔ ∃ v, (k, v) ∈ ws := by
  simp [targets]

/-- A cell that no store names keeps its value. -/
lemma storeAll_of_notMem (hk : k ∉ targets ws) : storeAll ws m k = m k := by
  induction ws generalizing m with
  | nil => rfl
  | cons w ws ih =>
    rw [targets, List.map_cons, List.mem_cons, not_or] at hk
    rw [storeAll_cons, ih hk.2, Function.update_of_ne hk.1]

/-- Stores of what the cells hold already change nothing. -/
lemma storeAll_of_same (h : ∀ w ∈ ws, w.2 = m w.1) : storeAll ws m = m := by
  induction ws with
  | nil => rfl
  | cons w ws ih =>
    rw [storeAll_cons, h w List.mem_cons_self, Function.update_eq_self]
    exact ih fun w' hw' => h w' (List.mem_cons_of_mem w hw')

/-- A cell that a store names holds the same, whatever the memory was before. -/
lemma storeAll_congr (hk : k ∈ targets ws) : storeAll ws m k = storeAll ws m' k := by
  induction ws generalizing m m' with
  | nil => simp [targets] at hk
  | cons w ws ih =>
    rw [storeAll_cons, storeAll_cons]
    by_cases hrest : k ∈ targets ws
    · exact ih hrest
    · have hw : k = w.1 := by
        rw [targets, List.map_cons, List.mem_cons] at hk
        exact hk.resolve_right hrest
      rw [storeAll_of_notMem hrest, storeAll_of_notMem hrest, hw, Function.update_self,
        Function.update_self]

/-- A cell that a store names holds what one of these stores wrote. -/
lemma exists_storeAll_eq (hk : k ∈ targets ws) (m : ℕ → α) :
    ∃ v, (k, v) ∈ ws ∧ storeAll ws m k = v := by
  induction ws generalizing m with
  | nil => simp [targets] at hk
  | cons w ws ih =>
    rw [storeAll_cons]
    by_cases hrest : k ∈ targets ws
    · obtain ⟨v, hv, heq⟩ := ih hrest (Function.update m w.1 w.2)
      exact ⟨v, List.mem_cons_of_mem w hv, heq⟩
    · have hw : k = w.1 := by
        rw [targets, List.map_cons, List.mem_cons] at hk
        exact hk.resolve_right hrest
      refine ⟨w.2, hw ▸ List.mem_cons_self, ?_⟩
      rw [storeAll_of_notMem hrest, hw, Function.update_self]

/-- **A cell to which one value is stored holds it**, however often it is stored. -/
theorem storeAll_eq {v : α} (hk : k ∈ targets ws) (hv : ∀ w ∈ ws, w.1 = k → w.2 = v) :
    storeAll ws m k = v := by
  obtain ⟨v', hmem, heq⟩ := exists_storeAll_eq hk m
  rw [heq]
  exact hv (k, v') hmem rfl

/-- **Later stores win**: a cell that the second of two lists names holds what that one wrote. -/
theorem exists_storeAll_append_eq {ws' : List (ℕ × α)} (hk : k ∈ targets ws') (m : ℕ → α) :
    ∃ v, (k, v) ∈ ws' ∧ storeAll (ws ++ ws') m k = v := by
  rw [storeAll_append]
  exact exists_storeAll_eq hk _

/-- The stores of a loop, from the stores of each pass. -/
def passes (n : ℕ) (stores : ℕ → List (ℕ × α)) : List (ℕ × α) := (List.range n).flatMap stores

@[simp] lemma passes_zero (stores : ℕ → List (ℕ × α)) : passes 0 stores = [] := rfl

/-- The last pass comes last. -/
@[simp] lemma passes_succ (n : ℕ) (stores : ℕ → List (ℕ × α)) :
    passes (n + 1) stores = passes n stores ++ stores n := by
  simp [passes, List.range_succ]

@[simp] lemma mem_passes {n : ℕ} {stores : ℕ → List (ℕ × α)} {w : ℕ × α} :
    w ∈ passes n stores ↔ ∃ i < n, w ∈ stores i := by
  simp [passes]

/-- Only the stores of the passes that are made count. -/
lemma passes_congr {n : ℕ} {stores stores' : ℕ → List (ℕ × α)}
    (h : ∀ i < n, stores i = stores' i) : passes n stores = passes n stores' := by
  induction n with
  | zero => rfl
  | succ n ih =>
    rw [passes_succ, passes_succ, ih fun i hi => h i (Nat.lt_succ_of_lt hi),
      h n (Nat.lt_succ_self n)]

/-- The passes of a loop can be made in two parts. -/
lemma passes_add (m n : ℕ) (stores : ℕ → List (ℕ × α)) :
    passes (m + n) stores = passes m stores ++ passes n fun i => stores (m + i) := by
  induction n with
  | zero => simp
  | succ n ih => rw [← Nat.add_assoc, passes_succ, ih, passes_succ, List.append_assoc]

/-- `memcpy` of `n` cells of `src`, from `s` on, to `d`. -/
def copyCells (m : ℕ → α) (d : ℕ) (src : ℕ → α) (s n : ℕ) : ℕ → α := fun k =>
  if d ≤ k ∧ k < d + n then src (s + (k - d)) else m k

/-- A copy of no cells changes nothing. -/
@[simp] lemma copyCells_zero (m : ℕ → α) (d : ℕ) (src : ℕ → α) (s : ℕ) :
    copyCells m d src s 0 = m := by
  funext k
  rw [copyCells, if_neg (by omega)]

/-- A copy makes one store for each cell. -/
lemma copyCells_eq_storeAll (m : ℕ → α) (d : ℕ) (src : ℕ → α) (s n : ℕ) :
    copyCells m d src s n = storeAll (passes n fun i => [(d + i, src (s + i))]) m := by
  funext k
  rw [copyCells]
  split_ifs with hk
  · obtain ⟨i, rfl⟩ := Nat.exists_eq_add_of_le hk.1
    refine (storeAll_eq ?_ ?_).symm
    · exact mem_targets.mpr ⟨src (s + i), mem_passes.mpr ⟨i, by omega, by simp⟩⟩
    · intro w hw hwk
      obtain ⟨j, -, hj⟩ := mem_passes.mp hw
      rw [List.mem_singleton.mp hj] at hwk ⊢
      have hij : j = i := Nat.add_left_cancel hwk
      rw [hij, Nat.add_sub_cancel_left]
  · refine (storeAll_of_notMem fun hmem => hk ?_).symm
    obtain ⟨v, hv⟩ := mem_targets.mp hmem
    obtain ⟨i, hi, hvi⟩ := mem_passes.mp hv
    have hki : k = d + i := congrArg Prod.fst (List.mem_singleton.mp hvi)
    omega

/-- A copy names the cells of its block. -/
lemma mem_targets_copy {d s n : ℕ} {src : ℕ → α} :
    k ∈ targets (passes n fun i => [(d + i, src (s + i))]) ↔ d ≤ k ∧ k < d + n := by
  rw [mem_targets]
  constructor
  · rintro ⟨v, hv⟩
    obtain ⟨i, hi, hvi⟩ := mem_passes.mp hv
    have hki : k = d + i := congrArg Prod.fst (List.mem_singleton.mp hvi)
    omega
  · rintro ⟨hle, hlt⟩
    obtain ⟨i, rfl⟩ := Nat.exists_eq_add_of_le hle
    exact ⟨src (s + i), mem_passes.mpr ⟨i, by omega, by simp⟩⟩

/-- A procedure that may fail succeeds on every memory; it sets the cells of `S` to values that do
not depend on the memory, and keeps the others. -/
def WritesExactly (run : (ℕ → α) → Option (ℕ → α)) (S : ℕ → Prop) : Prop :=
  ∀ m, ∃ out, run m = some out ∧ (∀ k, ¬ S k → out k = m k) ∧
    ∀ m' out', run m' = some out' → ∀ k, S k → out k = out' k

/-- **Stores set exactly the cells that they name.** -/
theorem writesExactly_storeAll_iff [Nontrivial α] {S : ℕ → Prop} :
    WritesExactly (fun m => some (storeAll ws m)) S ↔ ∀ k, k ∈ targets ws ↔ S k := by
  constructor
  · intro h k
    obtain ⟨a, b, hab⟩ := exists_pair_ne α
    obtain ⟨out, hout, hkept, hset⟩ := h fun _ => a
    obtain ⟨out', hout', hkept', -⟩ := h fun _ => b
    cases hout
    cases hout'
    constructor
    · intro hk
      by_contra hS
      have hsame := @storeAll_congr _ (fun _ => a) (fun _ => b) _ _ hk
      rw [hkept k hS, hkept' k hS] at hsame
      exact hab hsame
    · intro hS
      by_contra hk
      have hsame := hset (fun _ => b) _ rfl k hS
      rw [storeAll_of_notMem hk, storeAll_of_notMem hk] at hsame
      exact hab hsame
  · intro h m
    refine ⟨_, rfl, fun k hk => storeAll_of_notMem fun hmem => hk ((h k).mp hmem), ?_⟩
    rintro m' _ ⟨⟩ k hk
    exact storeAll_congr ((h k).mpr hk)

/-- A procedure that fails writes nothing exactly. -/
lemma not_writesExactly_none {S : ℕ → Prop} [Nonempty α] :
    ¬ WritesExactly (fun _ : ℕ → α => none) S := fun h => by
  obtain ⟨out, hout, -⟩ := h fun _ => Classical.arbitrary α
  cases hout

end StoreLog
