import Mathlib.Data.List.Forall2
import Mathlib.Data.List.Nodup
import Mathlib.Data.List.Pairwise

set_option relaxedAutoImplicit false
set_option autoImplicit false

/-!
# Checked updates

A request is carried out block by block: each block checks a part of the request and either stops
the whole or writes to a store. The blocks before the one that stops have already written. The store
is what it was before exactly if each of these writes was idle.

## Main definitions

* `CheckedUpdates.Store` — a store that is determined by its values, and writes to one key each.
* `CheckedUpdates.Block` — a block, with the keys that it writes and those that it reads.
* `CheckedUpdates.run` — the blocks one after the other, each on what the ones before it left.
* `CheckedUpdates.survey` — what the blocks do on the store as it was.
* `CheckedUpdates.Check`, `CheckedUpdates.Describes` — what a block does, told from the request and
  the store.

## Main results

* `CheckedUpdates.Store.applyAll_eq_self_iff` — when writes leave the store as it is.
* `CheckedUpdates.run_eq_survey` — independent blocks can be surveyed first.
* `CheckedUpdates.survey_of_goes`, `CheckedUpdates.survey_of_stops` — a survey, told from the
  checks.
-/

namespace CheckedUpdates

variable {P K V W E X : Type*} [DecidableEq K]

/-- A store that is determined by the values of its keys, with writes that each change the value of
one key. -/
structure Store (P K V W : Type*) [DecidableEq K] where
  view : P → K → V
  key : W → K
  change : W → V → V
  apply : P → W → P
  ext : ∀ p q, (∀ k, view p k = view q k) → p = q
  view_apply : ∀ p w k,
    view (apply p w) k = if k = key w then change w (view p k) else view p k

namespace Store

variable (st : Store P K V W)

/-- Writes one after the other. -/
def applyAll (p : P) (ws : List W) : P := ws.foldl st.apply p

/-- A write of the value that is stored already. -/
def Idle (p : P) (w : W) : Prop := st.change w (st.view p (st.key w)) = st.view p (st.key w)

/-- No writes change nothing. -/
@[simp] lemma applyAll_nil (p : P) : st.applyAll p [] = p := rfl

/-- The first write comes first. -/
lemma applyAll_cons (p : P) (w : W) (ws : List W) :
    st.applyAll p (w :: ws) = st.applyAll (st.apply p w) ws := rfl

/-- Writes in two parts. -/
lemma applyAll_append (p : P) (ws ws' : List W) :
    st.applyAll p (ws ++ ws') = st.applyAll (st.applyAll p ws) ws' := List.foldl_append

/-- The other keys keep their values. -/
lemma view_applyAll_of_notMem (p : P) {ws : List W} {k : K} (h : k ∉ ws.map st.key) :
    st.view (st.applyAll p ws) k = st.view p k := by
  induction ws generalizing p with
  | nil => rfl
  | cons w ws ih =>
    rw [List.map_cons, List.mem_cons, not_or] at h
    rw [applyAll_cons, ih (st.apply p w) h.2, st.view_apply, if_neg h.1]

/-- A key that is written once has the value of its write. -/
lemma view_applyAll_of_mem (p : P) {ws : List W} (hnd : (ws.map st.key).Nodup) {w : W}
    (hw : w ∈ ws) :
    st.view (st.applyAll p ws) (st.key w) = st.change w (st.view p (st.key w)) := by
  induction ws generalizing p with
  | nil => cases hw
  | cons v ws ih =>
    rw [List.map_cons, List.nodup_cons] at hnd
    rw [applyAll_cons]
    rcases List.mem_cons.mp hw with rfl | hw
    · rw [view_applyAll_of_notMem st _ hnd.1, st.view_apply, if_pos rfl]
    · have hne : st.key w ≠ st.key v := by
        intro heq
        exact hnd.1 (heq ▸ List.mem_map_of_mem hw)
      rw [ih (st.apply p v) hnd.2 hw, st.view_apply, if_neg hne]

/-- **Writes to different keys leave the store as it is exactly if each of them is idle.**

**Proof sketch.** The store is determined by its values; the value of a key that is written is that
of its one write. -/
theorem applyAll_eq_self_iff (p : P) {ws : List W} (hnd : (ws.map st.key).Nodup) :
    st.applyAll p ws = p ↔ ∀ w ∈ ws, st.Idle p w := by
  constructor
  · intro heq w hw
    have hview := st.view_applyAll_of_mem p hnd hw
    rw [heq] at hview
    exact hview.symm
  · intro hidle
    apply st.ext
    intro k
    by_cases hk : k ∈ ws.map st.key
    · obtain ⟨w, hw, rfl⟩ := List.mem_map.mp hk
      rw [st.view_applyAll_of_mem p hnd hw]
      exact hidle w hw
    · exact st.view_applyAll_of_notMem p hk

end Store

/-- What a block decides: to stop, or to write and to have an effect beside the store. -/
inductive Verdict (W E X : Type*)
  | stop (x : X)
  | copy (ws : List W) (e : E)

/-- The writes are to some of these keys, each at most once. -/
def Verdict.WritesIn (key : W → K) (keys : List K) : Verdict W E X → Prop
  | .stop _ => True
  | .copy ws _ => (ws.map key).Sublist keys

/-- A block, with the keys that it may write and those that it reads. -/
structure Block (st : Store P K V W) (E X : Type*) where
  keys : List K
  reads : List K
  body : P → Verdict W E X
  writes_in : ∀ p, (body p).WritesIn st.key keys
  body_congr : ∀ p q, (∀ k ∈ reads, st.view p k = st.view q k) → body p = body q

/-- A block that does not read the store. -/
def Block.constant {st : Store P K V W} (keys : List K) (v : Verdict W E X)
    (h : v.WritesIn st.key keys) : Block st E X where
  keys := keys
  reads := []
  body _ := v
  writes_in _ := h
  body_congr _ _ _ := rfl

/-- Where a run ends: why it stopped if it did, what it has, and its effects in their order. -/
structure Result (S E X : Type*) where
  stopped : Option X
  state : S
  effects : List E

variable {st : Store P K V W}

/-- The blocks one after the other. -/
def run : List (Block st E X) → P → Result P E X
  | [], p => ⟨none, p, []⟩
  | b :: bs, p =>
    match b.body p with
    | .stop x => ⟨some x, p, []⟩
    | .copy ws e =>
      let r := run bs (st.applyAll p ws)
      { r with effects := e :: r.effects }

/-- What the blocks do on the store as it is: the writes are collected. -/
def survey : List (Block st E X) → P → Result (List W) E X
  | [], _ => ⟨none, [], []⟩
  | b :: bs, p =>
    match b.body p with
    | .stop x => ⟨some x, [], []⟩
    | .copy ws e =>
      let r := survey bs p
      { r with state := ws ++ r.state, effects := e :: r.effects }

/-- No block reads what a block before it writes. -/
def Independent (bs : List (Block st E X)) : Prop :=
  bs.Pairwise fun b b' => ∀ k ∈ b'.reads, k ∉ b.keys

/-- A survey depends only on what the blocks read. -/
lemma survey_congr {bs : List (Block st E X)} {p q : P}
    (h : ∀ b ∈ bs, ∀ k ∈ b.reads, st.view p k = st.view q k) : survey bs p = survey bs q := by
  induction bs with
  | nil => rfl
  | cons b bs ih =>
    have hbody := b.body_congr p q (h b List.mem_cons_self)
    have hrest := ih fun b' hb' => h b' (List.mem_cons_of_mem b hb')
    rw [survey, survey, hbody, hrest]

/-- **Independent blocks can be surveyed first.**

**Proof sketch.** Induction on the blocks: what the first one writes, the others do not read. -/
theorem run_eq_survey {bs : List (Block st E X)} (h : Independent bs) (p : P) :
    run bs p =
      ⟨(survey bs p).stopped, st.applyAll p (survey bs p).state, (survey bs p).effects⟩ := by
  induction bs generalizing p with
  | nil => rfl
  | cons b bs ih =>
    obtain ⟨hfirst, hrest⟩ := List.pairwise_cons.mp h
    cases hbody : b.body p with
    | stop x => simp only [run, survey, hbody, Store.applyAll_nil]
    | copy ws e =>
      have hkeys : (ws.map st.key).Sublist b.keys := by
        have := b.writes_in p
        rwa [hbody] at this
      have hsame : survey bs (st.applyAll p ws) = survey bs p := by
        apply survey_congr
        intro b' hb' k hk
        apply st.view_applyAll_of_notMem
        intro hmem
        exact hfirst b' hb' k hk (hkeys.subset hmem)
      simp only [run, survey, hbody, ih hrest (st.applyAll p ws), hsame, Store.applyAll_append]

/-- The collected writes are to keys of the blocks, in their order. -/
lemma survey_keys_sublist (bs : List (Block st E X)) (p : P) :
    ((survey bs p).state.map st.key).Sublist (bs.flatMap Block.keys) := by
  induction bs with
  | nil => exact List.Sublist.refl []
  | cons b bs ih =>
    cases hbody : b.body p with
    | stop x =>
      simp only [survey, hbody, List.map_nil]
      exact List.nil_sublist _
    | copy ws e =>
      have hkeys : (ws.map st.key).Sublist b.keys := by
        have := b.writes_in p
        rwa [hbody] at this
      simp only [survey, hbody, List.map_append, List.flatMap_cons]
      exact hkeys.append ih

/-! ### Checks -/

/-- When a block stops and why, and when it copies only what is stored already. -/
structure Check (X : Type*) where
  stops : X → Prop
  same : Prop

/-- The block does not stop. -/
def Check.Goes (c : Check X) : Prop := ∀ x, ¬ c.stops x

/-- The check tells what the block does on the store; effects that meet `Q` change nothing. -/
def Describes (Q : E → Prop) (p : P) (b : Block st E X) (c : Check X) : Prop :=
  match b.body p with
  | .stop x => ∀ y, c.stops y ↔ y = x
  | .copy ws e => c.Goes ∧ (c.same ↔ (∀ w ∈ ws, st.Idle p w) ∧ Q e)

/-- The writes and the effects of a survey change nothing. -/
def Quiet (Q : E → Prop) (p : P) (r : Result (List W) E X) (st : Store P K V W) : Prop :=
  (∀ w ∈ r.state, st.Idle p w) ∧ ∀ e ∈ r.effects, Q e

variable {Q : E → Prop} {p : P}

/-- The first block copies. -/
lemma survey_cons_of_goes {b : Block st E X} {c : Check X} (h : Describes Q p b c) (hc : c.Goes)
    (bs : List (Block st E X)) :
    (survey (b :: bs) p).stopped = (survey bs p).stopped ∧
      (Quiet Q p (survey (b :: bs) p) st ↔ c.same ∧ Quiet Q p (survey bs p) st) := by
  unfold Describes at h
  cases hbody : b.body p with
  | stop x =>
    rw [hbody] at h
    exact absurd ((h x).mpr rfl) (hc x)
  | copy ws e =>
    rw [hbody] at h
    simp only [survey, hbody, Quiet, h.2, List.forall_mem_append, List.forall_mem_cons, true_and]
    tauto

/-- The first block stops. -/
lemma survey_cons_of_stops {b : Block st E X} {c : Check X} (h : Describes Q p b c) {x : X}
    (hc : c.stops x) (bs : List (Block st E X)) : survey (b :: bs) p = ⟨some x, [], []⟩ := by
  unfold Describes at h
  cases hbody : b.body p with
  | stop y =>
    rw [hbody] at h
    rw [(h x).mp hc, survey, hbody]
  | copy ws e =>
    rw [hbody] at h
    exact absurd hc (h.1 x)

/-- **If no block stops**, the survey changes nothing exactly if no block does. -/
theorem survey_of_goes {bs : List (Block st E X)} {cs : List (Check X)}
    (h : List.Forall₂ (Describes Q p) bs cs) (hcs : ∀ c ∈ cs, c.Goes) :
    (survey bs p).stopped = none ∧ (Quiet Q p (survey bs p) st ↔ ∀ c ∈ cs, c.same) := by
  induction h with
  | nil => simp [survey, Quiet]
  | cons hbc _ ih =>
    obtain ⟨hc, hcs⟩ := List.forall_mem_cons.mp hcs
    obtain ⟨hstopped, hquiet⟩ := ih hcs
    obtain ⟨hfirst, hsame⟩ := survey_cons_of_goes hbc hc _
    exact ⟨hfirst.trans hstopped, by rw [hsame, hquiet, List.forall_mem_cons]⟩

/-- **If a block stops first**, the survey changes nothing exactly if no block before it does. -/
theorem survey_of_stops {bs : List (Block st E X)} {pre post : List (Check X)} {c : Check X} {x : X}
    (h : List.Forall₂ (Describes Q p) bs (pre ++ c :: post)) (hpre : ∀ d ∈ pre, d.Goes)
    (hc : c.stops x) :
    (survey bs p).stopped = some x ∧ (Quiet Q p (survey bs p) st ↔ ∀ d ∈ pre, d.same) := by
  induction pre generalizing bs with
  | nil =>
    obtain ⟨b, bs, hbc, -, rfl⟩ := List.forall₂_cons_right_iff.mp h
    rw [survey_cons_of_stops hbc hc]
    simp [Quiet]
  | cons d pre ih =>
    obtain ⟨b, bs, hbd, hrest, rfl⟩ := List.forall₂_cons_right_iff.mp h
    obtain ⟨hd, hpre⟩ := List.forall_mem_cons.mp hpre
    obtain ⟨hstopped, hquiet⟩ := ih hrest hpre
    obtain ⟨hfirst, hsame⟩ := survey_cons_of_goes hbd hd bs
    exact ⟨hfirst.trans hstopped, by rw [hsame, hquiet, List.forall_mem_cons]⟩

/-- Either no block stops, or one stops first. -/
lemma goes_or_stops (cs : List (Check X)) :
    (∀ c ∈ cs, c.Goes) ∨
      ∃ pre c post x, cs = pre ++ c :: post ∧ (∀ d ∈ pre, d.Goes) ∧ c.stops x := by
  induction cs with
  | nil => exact Or.inl (List.forall_mem_nil _)
  | cons c cs ih =>
    by_cases hc : c.Goes
    · rcases ih with hgoes | ⟨pre, d, post, x, rfl, hpre, hd⟩
      · exact Or.inl (List.forall_mem_cons.mpr ⟨hc, hgoes⟩)
      · exact Or.inr ⟨c :: pre, d, post, x, rfl, List.forall_mem_cons.mpr ⟨hc, hpre⟩, hd⟩
    · obtain ⟨x, hx⟩ := not_forall_not.mp hc
      exact Or.inr ⟨[], c, cs, x, rfl, List.forall_mem_nil _, hx⟩

end CheckedUpdates
