import Mathlib.Algebra.Order.Ring.Nat
import Mathlib.Data.List.DropRight

set_option relaxedAutoImplicit false
set_option autoImplicit false

/-!
# Wrapped commands

The commands of the update script may be long. They are put together with a null character after
each parameter, and `_WordWrap` breaks them into lines of a given length: at each break it takes as
many parameters as fit, and a parameter that does not fit is a line of its own. What follows a break
is indented to the opening parenthesis. The null characters within a line become blanks.

A command whose parenthesis opens behind the end of a line has no result here.

## Main definitions

* `Release.search` — the search for the last parameter that fits.
* `Release.WordWrap` — the wrapped text of a command.

## Main results

* `Release.wordWrap_lines` — the text is the command with its null characters as blanks or as
  breaks, and only a single parameter is longer than a line.
-/

namespace Release

/-- `x.search(cmd)` for the pattern `^(.{,n})\0`: as many characters as possible, at most `n` and
none a newline, that a null character follows, and what comes after it. -/
def search : ℕ → List Char → Option (List Char × List Char)
  | _, [] => none
  | 0, c :: rest => if c = '\x00' then some ([], rest) else none
  | n + 1, c :: rest =>
    (if c = '\n' then none else (search n rest).map fun m => (c :: m.1, m.2)).orElse fun _ =>
      if c = '\x00' then some ([], rest) else none

/-- `cmd.split("\0", 1)`: what is before the first null character, and what is after it. -/
def split : List Char → List Char × Option (List Char)
  | [] => ([], none)
  | c :: rest => if c = '\x00' then ([], some rest) else (c :: (split rest).1, (split rest).2)

/-- One pass of the loop of `_WordWrap`: a line, and what is left of the command. -/
def nextLine (n : ℕ) (cmd : List Char) : List Char × Option (List Char) :=
  match search n cmd with
  | some m => (m.1, some m.2)
  | none => split cmd

/-- The loop of `_WordWrap`. Every pass shortens the command. -/
def wrapLines (n : ℕ) : ℕ → List Char → List (List Char)
  | 0, _ => []
  | fuel + 1, cmd =>
    match nextLine n cmd with
    | (line, none) => [line]
    | (line, some rest) => line :: wrapLines n fuel rest

/-- `out`, put together: every line but the first is indented, and each ends with a newline. -/
def layout (indent : ℕ) : Bool → List (List Char) → List Char
  | _, [] => []
  | first, line :: lines =>
    (if first then [] else List.replicate indent ' ') ++ line ++ '\n' :: layout indent false lines

/-- `.replace("\0", " ")`. -/
def blanked (text : List Char) : List Char := text.map fun c => if c = '\x00' then ' ' else c

/-- `_WordWrap`. -/
def WordWrap (cmd : List Char) (linelen : ℕ) : Option (List Char) :=
  let indent := cmd.idxOf '(' + 1
  if '(' ∈ cmd ∧ indent ≤ linelen then
    let out := wrapLines (linelen - indent) (cmd.length + 1) cmd
    some ((blanked (layout indent true out)).rdropWhile fun c => c = '\n')
  else none

/-! ### The lines -/

/-- What the search finds is at the start of the command, and not too long. -/
lemma search_eq_some {n : ℕ} {cmd line rest : List Char} (h : search n cmd = some (line, rest)) :
    cmd = line ++ '\x00' :: rest ∧ line.length ≤ n := by
  induction cmd generalizing n line with
  | nil =>
    rw [search] at h
    cases h
  | cons c cmd ih =>
    have hhere : (if c = '\x00' then some (([] : List Char), cmd) else none) = some (line, rest) →
        c :: cmd = line ++ '\x00' :: rest ∧ line.length ≤ n := by
      intro h
      by_cases hc : c = '\x00'
      · rw [if_pos hc] at h
        obtain ⟨rfl, rfl⟩ := Prod.mk.inj (Option.some.inj h)
        exact ⟨congrArg (· :: cmd) hc, Nat.zero_le n⟩
      · rw [if_neg hc] at h
        cases h
    cases n with
    | zero => exact hhere h
    | succ n =>
      rw [search] at h
      cases hm : (if c = '\n' then none else (search n cmd).map fun m => (c :: m.1, m.2)) with
      | none =>
        rw [hm, Option.orElse_none] at h
        exact hhere h
      | some m =>
        rw [hm, Option.orElse_some, Option.some.injEq] at h
        by_cases hc : c = '\n'
        · rw [if_pos hc] at hm
          cases hm
        · rw [if_neg hc] at hm
          obtain ⟨m', hm', rfl⟩ := Option.map_eq_some_iff.mp hm
          obtain ⟨rfl, rfl⟩ := Prod.mk.inj h
          obtain ⟨heq, hlen⟩ := ih hm'
          exact ⟨congrArg (c :: ·) heq, Nat.succ_le_succ hlen⟩

/-- What is split off has no null character, and ends before the first one. -/
lemma split_spec (cmd : List Char) :
    '\x00' ∉ (split cmd).1 ∧
      cmd = (split cmd).1 ++ ((split cmd).2.elim [] fun rest => '\x00' :: rest) := by
  induction cmd with
  | nil => exact ⟨List.not_mem_nil, rfl⟩
  | cons c cmd ih =>
    obtain ⟨hnot, heq⟩ := ih
    by_cases hc : c = '\x00'
    · rw [split, if_pos hc]
      exact ⟨List.not_mem_nil, congrArg (· :: cmd) hc⟩
    · rw [split, if_neg hc]
      refine ⟨fun hmem => ?_, congrArg (c :: ·) heq⟩
      rcases List.mem_cons.mp hmem with h | h
      · exact hc h.symm
      · exact hnot h

/-- A pass takes the start of the command up to a null character: a single parameter, or what fits
into the line. -/
lemma nextLine_spec (n : ℕ) (cmd : List Char) :
    ('\x00' ∉ (nextLine n cmd).1 ∨ (nextLine n cmd).1.length ≤ n) ∧
      cmd = (nextLine n cmd).1 ++ ((nextLine n cmd).2.elim [] fun rest => '\x00' :: rest) := by
  rw [nextLine]
  cases h : search n cmd with
  | none => exact ⟨.inl (split_spec cmd).1, (split_spec cmd).2⟩
  | some m =>
    obtain ⟨line, rest⟩ := m
    obtain ⟨heq, hlen⟩ := search_eq_some h
    exact ⟨.inr hlen, heq⟩

/-- The lines, joined by null characters, are the command; only a single parameter is a line that is
too long.

**Proof sketch.** By induction on the passes. What is left of the command is shorter, so that the
fuel is enough. -/
theorem wrapLines_spec (n fuel : ℕ) (cmd : List Char) (h : cmd.length < fuel) :
    wrapLines n fuel cmd ≠ [] ∧ ['\x00'].intercalate (wrapLines n fuel cmd) = cmd ∧
      ∀ line ∈ wrapLines n fuel cmd, '\x00' ∉ line ∨ line.length ≤ n := by
  induction fuel generalizing cmd with
  | zero => omega
  | succ fuel ih =>
    obtain ⟨hfits, heq⟩ := nextLine_spec n cmd
    rw [wrapLines]
    rcases hnext : nextLine n cmd with ⟨line, _ | rest⟩
    · rw [hnext] at hfits heq
      refine ⟨List.cons_ne_nil _ _, ?_, ?_⟩
      · rw [List.intercalate_singleton]
        exact (heq.trans (List.append_nil line)).symm
      · intro l hl
        rw [List.mem_singleton.mp hl]
        exact hfits
    · rw [hnext] at hfits heq
      have hlen : rest.length < fuel := by
        have hcmd := congrArg List.length heq
        simp only [Option.elim_some, List.length_append, List.length_cons] at hcmd
        omega
      obtain ⟨hne, hjoin, hall⟩ := ih rest hlen
      refine ⟨List.cons_ne_nil _ _, ?_, ?_⟩
      · rw [List.intercalate_cons_of_ne_nil hne, hjoin]
        simpa using heq.symm
      · intro l hl
        rcases List.mem_cons.mp hl with rfl | hl
        · exact hfits
        · exact hall l hl

/-! ### The text -/

/-- A break, with the indentation of the next line. -/
def lineBreak (indent : ℕ) : List Char := '\n' :: List.replicate indent ' '

/-- The lines are put together with breaks between them, and a newline at the end. -/
lemma layout_eq (indent : ℕ) (first : Bool) {lines : List (List Char)} (h : lines ≠ []) :
    layout indent first lines = (if first then [] else List.replicate indent ' ') ++
      (lineBreak indent).intercalate lines ++ ['\n'] := by
  induction lines generalizing first with
  | nil => exact absurd rfl h
  | cons line lines ih =>
    cases lines with
    | nil => rw [layout, layout, List.intercalate_singleton]
    | cons line' lines =>
      rw [layout, ih false (List.cons_ne_nil _ _), List.intercalate_cons_cons, lineBreak]
      simp

/-- Blanks stand for the null characters of each line; the breaks have none. -/
lemma blanked_intercalate (indent : ℕ) (lines : List (List Char)) :
    blanked ((lineBreak indent).intercalate lines) =
      (lineBreak indent).intercalate (lines.map blanked) := by
  have hbreak : blanked (lineBreak indent) = lineBreak indent := by
    simp [blanked, lineBreak]
  induction lines with
  | nil => rfl
  | cons line lines ih =>
    cases lines with
    | nil => rw [List.map_singleton, List.intercalate_singleton, List.intercalate_singleton]
    | cons line' lines =>
      rw [List.intercalate_cons_cons, List.map_cons, List.map_cons, List.intercalate_cons_cons,
        ← List.map_cons, ← ih, blanked, List.map_append, List.map_append]
      exact congrArg (_ ++ · ++ _) hbreak

/-- A text that does not end with a newline loses only the last one. -/
lemma rdropWhile_newline {text : List Char} (h : ∀ c ∈ text.getLast?, c ≠ '\n') :
    (text ++ ['\n']).rdropWhile (fun c => c = '\n') = text := by
  rw [List.rdropWhile_concat_pos _ _ _ (by decide)]
  refine List.rdropWhile_eq_self_iff.mpr fun hne => ?_
  rw [decide_eq_true_eq]
  exact h _ (List.getLast?_eq_getLast_of_ne_nil hne ▸ rfl)

/-- A text of lines without newlines does not end with one, if the lines after a break are
indented. -/
lemma getLast_intercalate {indent : ℕ} (hpos : 0 < indent) {lines : List (List Char)}
    (h : ∀ line ∈ lines, '\n' ∉ line) :
    ∀ c ∈ ((lineBreak indent).intercalate lines).getLast?, c ≠ '\n' := by
  induction lines with
  | nil =>
    intro c hc
    cases hc
  | cons line lines ih =>
    cases lines with
    | nil =>
      intro c hc heq
      rw [List.intercalate_singleton] at hc
      exact h line List.mem_cons_self (heq ▸ List.mem_of_mem_getLast? hc)
    | cons line' lines =>
      intro c hc
      rw [List.intercalate_cons_cons, List.getLast?_append] at hc
      rcases Option.or_eq_some_iff.mp hc with hc | ⟨-, hc⟩
      · exact ih (fun l hl => h l (List.mem_cons_of_mem line hl)) c hc
      · -- nothing is left behind the break: its last blank is the end
        obtain ⟨n, rfl⟩ := Nat.exists_eq_succ_of_ne_zero hpos.ne'
        have hbreak : (line ++ lineBreak (n + 1)).getLast? = some ' ' := by
          rw [lineBreak, List.replicate_succ', ← List.cons_append, ← List.append_assoc]
          exact List.getLast?_concat
        rw [hbreak] at hc
        rw [← Option.mem_some.mp hc]
        decide

/-- What a line has is in the command. -/
lemma mem_intercalate {sep : List Char} {lines : List (List Char)} {line : List Char}
    (h : line ∈ lines) {c : Char} (hc : c ∈ line) : c ∈ sep.intercalate lines := by
  induction lines with
  | nil => cases h
  | cons l lines ih =>
    cases lines with
    | nil =>
      rw [List.intercalate_singleton]
      exact List.mem_singleton.mp h ▸ hc
    | cons l' lines =>
      rw [List.intercalate_cons_cons]
      rcases List.mem_cons.mp h with rfl | h
      · exact List.mem_append_left _ (List.mem_append_left _ hc)
      · exact List.mem_append_right _ (ih h)

/-- Blanks put no newline into a line. -/
lemma newline_notMem_blanked {line : List Char} (h : '\n' ∉ line) : '\n' ∉ blanked line := by
  intro hmem
  obtain ⟨c, hc, heq⟩ := List.mem_map.mp hmem
  by_cases h0 : c = '\x00'
  · rw [if_pos h0] at heq
    cases heq
  · rw [if_neg h0] at heq
    exact h (heq ▸ hc)

/-- Of lines without newlines, what remains at the end is the lines with breaks between them. -/
lemma strip_layout {indent : ℕ} (hpos : 0 < indent) {lines : List (List Char)} (hne : lines ≠ [])
    (h : ∀ line ∈ lines, '\n' ∉ line) :
    (blanked (layout indent true lines)).rdropWhile (fun c => c = '\n') =
      (lineBreak indent).intercalate (lines.map blanked) := by
  have htext : blanked (layout indent true lines) =
      (lineBreak indent).intercalate (lines.map blanked) ++ ['\n'] := by
    rw [layout_eq indent true hne, if_pos rfl, List.nil_append, ← blanked_intercalate, blanked,
      List.map_append]
    rfl
  rw [htext]
  refine rdropWhile_newline (getLast_intercalate hpos fun line hline => ?_)
  obtain ⟨l, hl, rfl⟩ := List.mem_map.mp hline
  exact newline_notMem_blanked (h l hl)

/-- **Wrapping only chooses between blanks and breaks.** If a command has no newline, its wrapped
text is made of lines that give the command again when they are joined by null characters; the null
characters within a line have become blanks, each of the others a break with the indentation. A line
is too long only if it is a single parameter.

**Proof sketch.** `wrapLines_spec` says this of the lines. The text ends with the newline that is
stripped, and with no other: a line has none, and behind a break there are blanks. -/
theorem wordWrap_lines {cmd : List Char} {linelen : ℕ} (hopen : '(' ∈ cmd)
    (hlen : cmd.idxOf '(' + 1 ≤ linelen) (hnl : '\n' ∉ cmd) :
    ∃ lines, ['\x00'].intercalate lines = cmd ∧
      (∀ line ∈ lines, '\x00' ∉ line ∨ (cmd.idxOf '(' + 1) + line.length ≤ linelen) ∧
      WordWrap cmd linelen =
        some ((lineBreak (cmd.idxOf '(' + 1)).intercalate (lines.map blanked)) := by
  obtain ⟨hne, hjoin, hall⟩ := wrapLines_spec (linelen - (cmd.idxOf '(' + 1)) (cmd.length + 1) cmd
    (Nat.lt_succ_self _)
  refine ⟨_, hjoin, fun line hline => ?_, ?_⟩
  · rcases hall line hline with hnot | hle
    · exact .inl hnot
    · exact .inr (by omega)
  · have hclean : ∀ line ∈ wrapLines (linelen - (cmd.idxOf '(' + 1)) (cmd.length + 1) cmd,
        '\n' ∉ line :=
      fun line hline hmem => hnl (hjoin ▸ mem_intercalate hline hmem)
    rw [WordWrap]
    simp only [if_pos (And.intro hopen hlen)]
    rw [strip_layout (Nat.succ_pos _) hne hclean]

/-- A command for two links, in lines of 16 characters. -/
theorem wordWrap_lines_sample :
    ∃ lines, ['\x00'].intercalate lines = "symlink(\"a\", \"/b\",\x00\"/c\");".toList ∧
      (∀ line ∈ lines, '\x00' ∉ line ∨
        ("symlink(\"a\", \"/b\",\x00\"/c\");".toList.idxOf '(' + 1) + line.length ≤ 16) ∧
      WordWrap "symlink(\"a\", \"/b\",\x00\"/c\");".toList 16 =
        some ((lineBreak ("symlink(\"a\", \"/b\",\x00\"/c\");".toList.idxOf '(' + 1)).intercalate
          (lines.map blanked)) :=
  wordWrap_lines (by decide) (by decide) (by decide)

end Release
