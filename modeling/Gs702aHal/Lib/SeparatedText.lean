import Mathlib.Data.List.Infix

set_option relaxedAutoImplicit false
set_option autoImplicit false

/-!
# Separated text

A list of fields is written as a text by ending each field with a separator. A text without
separators that occurs in it occurs in one of the fields. In a list of pairs, each of two texts
joined by a separator, the separators show where a pair can occur.

## Main definitions

* `SeparatedText.terminated` — the text of a list of fields.
* `SeparatedText.strstr` — the search for a text in another.
* `SeparatedText.pairs` — the text of a list of pairs.

## Main results

* `SeparatedText.strstr_iff` — the search finds the occurrences.
* `SeparatedText.infix_terminated_iff` — occurrences in the text of a list.
* `SeparatedText.pair_infix_pairs_iff` — occurrences of a pair in the text of a list of pairs.
-/

namespace SeparatedText

variable {α : Type*}

/-- The text of a list of fields, each of them ended by a separator. -/
def terminated (sep : α) (fields : List (List α)) : List α :=
  (fields.map fun f => f ++ [sep]).flatten

/-- Search for an occurrence of a text. -/
def strstr [DecidableEq α] (needle : List α) : List α → Bool
  | [] => needle.isPrefixOf []
  | c :: text => needle.isPrefixOf (c :: text) || strstr needle text

/-- The search finds the occurrences. -/
lemma strstr_iff [DecidableEq α] (needle text : List α) :
    strstr needle text = true ↔ needle <:+: text := by
  induction text with
  | nil => simp [strstr]
  | cons c text ih =>
    rw [strstr, Bool.or_eq_true, ih, List.isPrefixOf_iff_prefix, List.infix_cons_iff]

variable {sep : α}

/-- A text without separators that occurs across a separator occurs on one side of it.

**Proof sketch.** Compare the place of the separator with that of the occurrence: it lies before,
after or in the occurrence, and in it there is none. -/
theorem infix_append_sep_iff {needle : List α} (h : sep ∉ needle) (a b : List α) :
    needle <:+: a ++ sep :: b ↔ needle <:+: a ∨ needle <:+: b := by
  constructor
  · rintro ⟨s, t, heq⟩
    rw [List.append_assoc] at heq
    rcases List.append_eq_append_iff.mp heq with ⟨a', rfl, hrest⟩ | ⟨s', rfl, hrest⟩
    · rcases List.append_eq_append_iff.mp hrest with ⟨n', rfl, -⟩ | ⟨y, rfl, hy⟩
      · exact Or.inl ⟨s, n', by rw [List.append_assoc]⟩
      · cases y with
        | nil => exact Or.inl ⟨s, [], by simp⟩
        | cons c y =>
          obtain ⟨rfl, -⟩ := List.cons.inj hy
          exact absurd (List.mem_append_right a' List.mem_cons_self) h
    · cases s' with
      | nil =>
        cases needle with
        | nil => exact Or.inl List.nil_infix
        | cons c needle =>
          obtain ⟨rfl, -⟩ := List.cons.inj hrest
          exact absurd List.mem_cons_self h
      | cons c s' =>
        obtain ⟨-, rfl⟩ := List.cons.inj hrest
        exact Or.inr ⟨s', t, List.append_assoc s' needle t⟩
  · rintro (hleft | hright)
    · exact hleft.trans (List.prefix_append a (sep :: b)).isInfix
    · exact hright.trans ((List.suffix_cons sep b).trans (List.suffix_append a (sep :: b))).isInfix

/-- **A text without separators occurs in the text of a list exactly if it occurs in a field.** The
empty text occurs in the text of the empty list as well. -/
theorem infix_terminated_iff {needle : List α} (h : sep ∉ needle) (hne : needle ≠ [])
    (fields : List (List α)) :
    needle <:+: terminated sep fields ↔ ∃ f ∈ fields, needle <:+: f := by
  induction fields with
  | nil => simp [terminated, hne]
  | cons f fields ih =>
    have hcons : terminated sep (f :: fields) = f ++ sep :: terminated sep fields := by
      simp [terminated]
    rw [hcons, infix_append_sep_iff h, ih, List.exists_mem_cons_iff]

/-- The last separator plays no part. -/
lemma infix_append_singleton_iff {needle : List α} (h : sep ∉ needle) (text : List α) :
    needle <:+: text ++ [sep] ↔ needle <:+: text := by
  rw [infix_append_sep_iff h, or_iff_left_of_imp]
  intro hnil
  rw [List.eq_nil_of_infix_nil hnil]
  exact List.nil_infix

/-- Before a text without separators, everything up to a separator plays no part. -/
lemma suffix_append_sep_iff {a : List α} (h : sep ∉ a) (u v : List α) :
    a <:+ u ++ sep :: v ↔ a <:+ v := by
  constructor
  · rintro ⟨s, heq⟩
    rcases List.append_eq_append_iff.mp heq with ⟨m, rfl, hm⟩ | ⟨m, rfl, hm⟩
    · exact absurd (hm ▸ List.mem_append_right m List.mem_cons_self) h
    · cases m with
      | nil =>
        obtain rfl : sep :: v = a := hm
        exact absurd List.mem_cons_self h
      | cons c m =>
        obtain ⟨rfl, rfl⟩ := List.cons.inj hm
        exact List.suffix_append m a
  · intro hv
    exact hv.trans ((List.suffix_cons sep v).trans (List.suffix_append u (sep :: v)))

/-- After a text without separators, everything from a separator on plays no part. -/
lemma prefix_append_sep_iff {b : List α} (h : sep ∉ b) (v u : List α) :
    b <+: v ++ sep :: u ↔ b <+: v := by
  constructor
  · rintro ⟨t, heq⟩
    rcases List.append_eq_append_iff.mp heq with ⟨m, rfl, -⟩ | ⟨m, rfl, hm⟩
    · exact List.prefix_append b m
    · cases m with
      | nil =>
        rw [List.append_nil]
      | cons c m =>
        obtain ⟨rfl, -⟩ := List.cons.inj hm
        exact absurd (List.mem_append_right v List.mem_cons_self) h
  · intro hv
    exact hv.trans (List.prefix_append v (sep :: u))

/-- A pair occurs where the text has a separator. -/
lemma pair_infix_iff_split (a b text : List α) :
    a ++ sep :: b <:+: text ↔ ∃ c d, text = c ++ sep :: d ∧ a <:+ c ∧ b <+: d := by
  constructor
  · rintro ⟨s, t, rfl⟩
    exact ⟨s ++ a, b ++ t, by simp, List.suffix_append s a, List.prefix_append b t⟩
  · rintro ⟨c, d, rfl, ⟨s, rfl⟩, ⟨t, rfl⟩⟩
    exact ⟨s, t, by simp⟩

section Pairs

variable {β : Type*} (left right : β → List α)

/-- The text of a list of pairs, the two texts of each pair joined by a separator. -/
def pairs (sep : α) (l : List β) : List α :=
  (l.map fun r => left r ++ sep :: right r).flatten

/-- The text of a longer list. -/
lemma pairs_cons (r : β) (l : List β) :
    pairs left right sep (r :: l) = left r ++ sep :: (right r ++ pairs left right sep l) := by
  simp [pairs]

/-- The text of two lists. -/
lemma pairs_append (l₁ l₂ : List β) :
    pairs left right sep (l₁ ++ l₂) = pairs left right sep l₁ ++ pairs left right sep l₂ := by
  simp [pairs]

variable {left right}

/-- The separators of the text are those of the pairs.

**Proof sketch.** Induction on the list: a separator is that of the first pair or lies behind the
first pair, for the texts of the pair have none. -/
lemma pairs_eq_append_iff (hl : ∀ r, sep ∉ left r) (hr : ∀ r, sep ∉ right r) (l : List β)
    (c d : List α) :
    pairs left right sep l = c ++ sep :: d ↔
      ∃ pre r post, l = pre ++ r :: post ∧ c = pairs left right sep pre ++ left r ∧
        d = right r ++ pairs left right sep post := by
  constructor
  · intro heq
    induction l generalizing c with
    | nil => simp [pairs] at heq
    | cons r l ih =>
      rw [pairs_cons] at heq
      rcases List.append_eq_append_iff.mp heq with ⟨c', rfl, hc⟩ | ⟨m, hm, hd⟩
      · cases c' with
        | nil =>
          obtain ⟨-, rfl⟩ := List.cons.inj hc
          exact ⟨[], r, l, rfl, by simp [pairs], rfl⟩
        | cons s c' =>
          obtain ⟨rfl, hrest⟩ := List.cons.inj hc
          have hbehind : ∃ e, c' = right r ++ e ∧ pairs left right sep l = e ++ sep :: d := by
            rcases List.append_eq_append_iff.mp hrest with ⟨e, rfl, he⟩ | ⟨m, hm, hd⟩
            · exact ⟨e, rfl, he⟩
            · cases m with
              | nil => exact ⟨[], by simpa using hm.symm, hd.symm⟩
              | cons s m =>
                obtain ⟨rfl, -⟩ := List.cons.inj hd
                exact absurd (hm ▸ List.mem_append_right c' List.mem_cons_self) (hr r)
          obtain ⟨e, rfl, he⟩ := hbehind
          obtain ⟨pre, r', post, rfl, rfl, rfl⟩ := ih e he
          exact ⟨r :: pre, r', post, rfl, by simp [pairs_cons], rfl⟩
      · cases m with
        | nil =>
          obtain ⟨-, rfl⟩ := List.cons.inj hd
          exact ⟨[], r, l, rfl, by simpa [pairs] using hm.symm, rfl⟩
        | cons s m =>
          obtain ⟨rfl, -⟩ := List.cons.inj hd
          exact absurd (hm ▸ List.mem_append_right c List.mem_cons_self) (hl r)
  · rintro ⟨pre, r, post, rfl, rfl, rfl⟩
    rw [pairs_append, pairs_cons, List.append_assoc]

/-- **A pair occurs in the text of a list of pairs exactly if, at one of the pairs, its first text
ends what stands before the separator and its second begins what stands after it.** -/
theorem pair_infix_pairs_iff (hl : ∀ r, sep ∉ left r) (hr : ∀ r, sep ∉ right r) (l : List β)
    (a b : List α) :
    a ++ sep :: b <:+: pairs left right sep l ↔
      ∃ pre r post, l = pre ++ r :: post ∧ a <:+ pairs left right sep pre ++ left r ∧
        b <+: right r ++ pairs left right sep post := by
  rw [pair_infix_iff_split]
  constructor
  · rintro ⟨c, d, heq, ha, hb⟩
    obtain ⟨pre, r, post, rfl, rfl, rfl⟩ := (pairs_eq_append_iff hl hr l c d).mp heq
    exact ⟨pre, r, post, rfl, ha, hb⟩
  · rintro ⟨pre, r, post, rfl, ha, hb⟩
    exact ⟨_, _, (pairs_eq_append_iff hl hr _ _ _).mpr ⟨pre, r, post, rfl, rfl, rfl⟩, ha, hb⟩

end Pairs

end SeparatedText
