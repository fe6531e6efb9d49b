import Gs702aHal.Lib.StepRun
import Gs702aHal.Camera.CameraArea

set_option relaxedAutoImplicit false
set_option autoImplicit false

/-!
# Focus areas

`setParametersFocus` parses the text of the focus areas into a vector of its own, compares it with
the areas that the camera adapter has, and replaces these before it looks at how many they are.
`parseAreas` itself appends each area to its output as soon as it has read it, whatever follows.

## Main definitions

* `CameraHal.CameraArea.parseAreasInto` — `parseAreas` with the content that its output has.
* `CameraHal.CameraArea.Atomic` — an error leaves the output, success appends the areas.
* `CameraHal.FocusAreas.setParametersFocus` — the function of the source.
* `CameraHal.FocusAreas.Obeys` — a call refuses what it has to refuse, and keeps the areas then.

## Main results

* `CameraHal.CameraArea.atomic_parseAreasInto_iff` — when `parseAreas` is atomic.
* `CameraHal.FocusAreas.along_obeys_iff` — the runs in which every call obeys.
-/

namespace CameraHal

open Status

namespace CameraArea

/-! ### Parsing into a vector -/

/-- `parseAreas` with the content of its output vector. The copy of the text is only read if it has
the terminator, and nothing behind it. -/
def parseAreasInto (memory : ℕ → Bool) (area : Option Text) (areaLength : ℕ)
    (areas : List CameraArea) : Option (Status × List CameraArea) :=
  match area with
  | none => some (EINVAL, areas)
  | some text =>
    if areaLength = 0 then some (EINVAL, areas)
    else if memory 0 = false then some (NO_MEMORY, areas)
    else if areaLength ≠ text.length + 1 then none
    else match pieces ['('] text with
      | [] => some (EINVAL, areas)
      | pArea :: rest => some (parseLoop memory (pArea :: rest) areas)

/-- With an empty vector it is `parseAreas`. -/
lemma parseAreasInto_nil (memory : ℕ → Bool) (area : Option Text) (areaLength : ℕ) :
    parseAreasInto memory area areaLength [] = parseAreas memory area areaLength :=
  rfl

/-- A call for a whole text is atomic: an error leaves the vector as it was, and success appends the
areas that the pieces of the text describe, in their order. -/
def Atomic (memory : ℕ → Bool) (text : Text) (areas : List CameraArea) : Prop :=
  ∃ ret areas', parseAreasInto memory (some text) (text.length + 1) areas = some (ret, areas') ∧
    (ret ≠ NO_ERROR → areas' = areas) ∧
    (ret = NO_ERROR → ∃ parsed, areas' = areas ++ parsed ∧
      List.Forall₂ Describes (pieces ['('] text) parsed)

/-- If the first piece of the text gives an area, all pieces do: there is no error behind it. -/
def NoLateError (memory : ℕ → Bool) (text : Text) (areas : List CameraArea) : Prop :=
  memory 0 = true → ∀ first rest, pieces ['('] text = first :: rest →
    (∃ a, Describes first a) → memory (areas.length + 1) = true →
    ∃ parsed, List.Forall₂ Describes (first :: rest) parsed ∧
      ∀ i, areas.length < i → i ≤ areas.length + parsed.length → memory i = true

/-- The loop keeps the content of the vector and appends to it. -/
lemma exists_parseLoop_eq_append (memory : ℕ → Bool) (l : List Text) (areas : List CameraArea) :
    ∃ added, (parseLoop memory l areas).2 = areas ++ added := by
  induction l generalizing areas with
  | nil => exact ⟨[], (List.append_nil areas).symm⟩
  | cons piece rest ih =>
    rcases parseLoop_cons memory piece rest areas with ⟨a, -, -, hloop⟩ | ⟨-, ret, -, hloop⟩
    · obtain ⟨added, hadded⟩ := ih (areas ++ [a])
      refine ⟨a :: added, ?_⟩
      rw [hloop, hadded, List.append_assoc, List.singleton_append]
    · exact ⟨[], by rw [hloop, List.append_nil]⟩

/-- **When `parseAreas` is atomic.** For every text, every content of the vector and whatever memory
there is, the call is atomic exactly if there is no error behind the first area: the areas of the
pieces before an error stay in the vector.

**Proof sketch.** The loop only appends. If its first pass appends an area and a later one fails,
the vector has changed; if the first pass fails, nothing was appended. -/
theorem atomic_parseAreasInto_iff (memory : ℕ → Bool) (text : Text) (areas : List CameraArea) :
    Atomic memory text areas ↔ NoLateError memory text areas := by
  unfold Atomic NoLateError parseAreasInto
  simp only [Nat.add_one_ne_zero, if_false, ne_eq, not_true_eq_false]
  cases hcopy : memory 0 with
  | false =>
    simp only [if_true, Bool.false_eq_true, false_implies, iff_true]
    exact ⟨NO_MEMORY, areas, rfl, fun _ => rfl, fun h => absurd h (by decide)⟩
  | true =>
    simp only [Bool.true_eq_false, if_false, true_implies]
    cases hpieces : pieces ['('] text with
    | nil =>
      simp only [reduceCtorEq, false_implies, implies_true, iff_true]
      exact ⟨EINVAL, areas, rfl, fun _ => rfl, fun h => absurd h (by decide)⟩
    | cons first rest =>
      simp only [Option.some.injEq]
      have hiff := parseLoop_eq_iff memory (first :: rest) areas
      rcases hloop : parseLoop memory (first :: rest) areas with ⟨ret, areas'⟩
      constructor
      · rintro ⟨ret', result, hresult, herror, hok⟩ _ _ heq ⟨a, ha⟩ hmemory
        obtain ⟨rfl, rfl⟩ := List.cons.inj heq
        obtain ⟨rfl, rfl⟩ := Prod.mk.inj hresult
        rcases parseLoop_cons memory first rest areas with ⟨b, -, -, hpass⟩ | ⟨hstop, -⟩
        · by_cases hret : ret = NO_ERROR
          · subst hret
            obtain ⟨parsed, rfl, hparsed, hall⟩ := (hiff areas').mp hloop
            exact ⟨parsed, hparsed, fun i hlt hle => hall i hlt (by simpa using hle)⟩
          · obtain ⟨added, hadded⟩ := exists_parseLoop_eq_append memory rest (areas ++ [b])
            rw [← hpass, hloop, herror hret] at hadded
            have hlength := congrArg List.length hadded
            simp only [List.length_append, List.length_singleton] at hlength
            omega
        · exact absurd ⟨⟨a, ha⟩, hmemory⟩ hstop
      · intro hlate
        refine ⟨ret, areas', rfl, fun hret => ?_, fun hret => ?_⟩
        · rcases parseLoop_cons memory first rest areas with ⟨b, hb, hmemory, -⟩ | ⟨-, _, -, hpass⟩
          · obtain ⟨parsed, hparsed, hall⟩ := hlate first rest rfl ⟨b, hb⟩ hmemory
            have hok := (hiff (areas ++ parsed)).mpr
              ⟨parsed, rfl, hparsed, fun i hlt hle => hall i hlt (by simpa using hle)⟩
            rw [hloop] at hok
            exact absurd (Prod.mk.inj hok).1 hret
          · rw [hloop] at hpass
            exact (Prod.mk.inj hpass).2
        · subst hret
          obtain ⟨parsed, hparsed, hforall, -⟩ := (hiff areas').mp hloop
          exact ⟨parsed, hparsed, hforall⟩

/-- The first of two areas stays in the vector when the second one is malformed. -/
theorem not_atomic_parseAreasInto :
    ¬Atomic (fun _ => true) "(0,0,10,10,1),(5".toList [] := by
  rintro ⟨ret, areas', hresult, herror, -⟩
  have hparse : parseAreasInto (fun _ => true) (some "(0,0,10,10,1),(5".toList)
      ("(0,0,10,10,1),(5".toList.length + 1) [] = some (EINVAL, [⟨0, 0, 10, 10, 1⟩]) := by decide
  rw [hparse] at hresult
  obtain ⟨rfl, rfl⟩ := Prod.mk.inj (Option.some.inj hresult)
  exact absurd (herror (by decide)) (by decide)

end CameraArea

namespace FocusAreas

open CameraArea StepRun

/-! ### Setting the focus areas -/

/-- `compare`. -/
def compare (a b : CameraArea) : Bool :=
  a.mTop == b.mTop && a.mLeft == b.mLeft && a.mBottom == b.mBottom && a.mRight == b.mRight &&
    a.mWeight == b.mWeight

/-- `areAreasDifferent`. -/
def areAreasDifferent (area1 area2 : List CameraArea) : Bool :=
  if area1.length ≠ area2.length then true
  else (area1.zip area2).any fun p => !compare p.1 p.2

/-- A call of `setParametersFocus`: the texts under the two keys that it reads, the first of which
need not be there, and the memory that it meets. -/
structure FocusCall where
  focusAreas : Option Text
  maxNumFocusAreas : Text
  memory : ℕ → Bool

/-- `MAX_FOCUS_AREAS`, a `size_t`. -/
def FocusCall.MAX_FOCUS_AREAS (call : FocusCall) : ℕ := (atoi call.maxNumFocusAreas).toNat

/-- What a call leaves: the status, the areas, and whether `setTouchFocus` was called. -/
structure FocusOutcome where
  ret : Status
  mFocusAreas : List CameraArea
  touched : Bool
  deriving DecidableEq

/-- The parsing at the beginning of `setParametersFocus`. -/
def parsed (call : FocusCall) : Status × List CameraArea :=
  match call.focusAreas with
  | none => (NO_ERROR, [])
  | some str => (parseAreas call.memory (some str) (str.length + 1)).getD (NO_ERROR, [])

/-- `setParametersFocus`. -/
def setParametersFocus (call : FocusCall) (mFocusAreas : List CameraArea) : FocusOutcome :=
  let (ret, tempAreas) := parsed call
  if ret = NO_ERROR ∧ areAreasDifferent mFocusAreas tempAreas then
    if call.MAX_FOCUS_AREAS < tempAreas.length then ⟨EINVAL, tempAreas, false⟩
    else ⟨ret, tempAreas, !tempAreas.isEmpty⟩
  else ⟨ret, mFocusAreas, false⟩

/-- The areas after a call. -/
def step (mFocusAreas : List CameraArea) (call : FocusCall) : List CameraArea :=
  (setParametersFocus call mFocusAreas).mFocusAreas

/-- The text of a call describes the areas, and there is memory for them. No text stands for no
areas. -/
def Gives (call : FocusCall) (areas : List CameraArea) : Prop :=
  match call.focusAreas with
  | none => areas = []
  | some str => Accepted str areas ∧ ∀ i ≤ areas.length, call.memory i = true

/-- The text of a call gives more areas than the camera supports. -/
def TooMany (call : FocusCall) : Prop :=
  ∃ areas, Gives call areas ∧ call.MAX_FOCUS_AREAS < areas.length

/-- A call obeys: a text that gives no areas or too many is refused, and the areas stay; the areas
of any other text are set. -/
structure Obeys (mFocusAreas : List CameraArea) (call : FocusCall) : Prop where
  refuses : (∀ areas, Gives call areas → call.MAX_FOCUS_AREAS < areas.length) →
    (setParametersFocus call mFocusAreas).ret ≠ NO_ERROR ∧
      (setParametersFocus call mFocusAreas).mFocusAreas = mFocusAreas
  sets : ∀ areas, Gives call areas → areas.length ≤ call.MAX_FOCUS_AREAS →
    (setParametersFocus call mFocusAreas).ret = NO_ERROR ∧
      (setParametersFocus call mFocusAreas).mFocusAreas = areas

/-- Areas compare as equal if they are. -/
lemma compare_eq_true_iff (a b : CameraArea) : compare a b = true ↔ a = b := by
  cases a
  cases b
  simp only [compare, Bool.and_eq_true, beq_iff_eq, mk.injEq, and_assoc]

/-- Lists of areas are different if they are not equal. -/
lemma areAreasDifferent_eq_false_iff (area1 area2 : List CameraArea) :
    areAreasDifferent area1 area2 = false ↔ area1 = area2 := by
  induction area1 generalizing area2 with
  | nil => cases area2 <;> simp [areAreasDifferent]
  | cons a area1 ih =>
    cases area2 with
    | nil => simp [areAreasDifferent]
    | cons b area2 =>
      rw [List.cons.injEq, ← ih area2, ← compare_eq_true_iff]
      unfold areAreasDifferent
      by_cases hlength : area1.length = area2.length <;>
        simp [hlength, compare_eq_true_iff]

/-- What is parsed is what the text gives. -/
lemma parsed_eq_iff (call : FocusCall) (areas : List CameraArea) :
    parsed call = (NO_ERROR, areas) ↔ Gives call areas := by
  unfold parsed Gives
  cases hstr : call.focusAreas with
  | none => simp [eq_comm]
  | some str =>
    have hspec := (parseAreas_spec call.memory).1 str areas
    have hsome : ∃ result, parseAreas call.memory (some str) (str.length + 1) = some result := by
      unfold parseAreas
      simp only [Nat.add_one_ne_zero, if_false, ne_eq, not_true_eq_false]
      split_ifs
      · exact ⟨_, rfl⟩
      · split <;> exact ⟨_, rfl⟩
    obtain ⟨result, hresult⟩ := hsome
    rw [hresult, Option.some.injEq] at hspec
    dsimp only
    rw [hresult, Option.getD_some]
    exact hspec

/-- A text that gives no areas is refused, and the areas stay. -/
lemma refuses_of_not_gives {call : FocusCall} (h : ∀ areas, ¬Gives call areas)
    (mFocusAreas : List CameraArea) :
    (setParametersFocus call mFocusAreas).ret ≠ NO_ERROR ∧
      (setParametersFocus call mFocusAreas).mFocusAreas = mFocusAreas := by
  rcases hparsed : parsed call with ⟨ret, tempAreas⟩
  have hret : ret ≠ NO_ERROR := fun heq => h tempAreas ((parsed_eq_iff call _).mp (heq ▸ hparsed))
  have hout : setParametersFocus call mFocusAreas = ⟨ret, mFocusAreas, false⟩ := by
    rw [setParametersFocus, hparsed]
    exact if_neg fun hand => hret hand.1
  rw [hout]
  exact ⟨hret, rfl⟩

/-- The areas of a text are always set, whatever areas there were; the call is refused if they are
too many and new. -/
lemma setParametersFocus_of_gives {call : FocusCall} {areas : List CameraArea}
    (h : Gives call areas) (mFocusAreas : List CameraArea) :
    (setParametersFocus call mFocusAreas).mFocusAreas = areas ∧
      ((setParametersFocus call mFocusAreas).ret = NO_ERROR ↔
        areas.length ≤ call.MAX_FOCUS_AREAS ∨ mFocusAreas = areas) := by
  have hparsed := (parsed_eq_iff call areas).mpr h
  by_cases heq : mFocusAreas = areas
  · have hsame := (areAreasDifferent_eq_false_iff mFocusAreas areas).mpr heq
    have hout : setParametersFocus call mFocusAreas = ⟨NO_ERROR, mFocusAreas, false⟩ := by
      rw [setParametersFocus, hparsed]
      exact if_neg fun hand => absurd hand.2 (by rw [hsame]; decide)
    rw [hout]
    exact ⟨heq, fun _ => Or.inr heq, fun _ => rfl⟩
  · have hdifferent : areAreasDifferent mFocusAreas areas = true := by
      rw [← Bool.not_eq_false, areAreasDifferent_eq_false_iff]
      exact heq
    have hout : setParametersFocus call mFocusAreas =
        if call.MAX_FOCUS_AREAS < areas.length then ⟨EINVAL, areas, false⟩
        else ⟨NO_ERROR, areas, !areas.isEmpty⟩ := by
      rw [setParametersFocus, hparsed]
      exact if_pos ⟨rfl, hdifferent⟩
    rw [hout]
    split_ifs with hlt
    · refine ⟨rfl, fun hret => absurd hret (show EINVAL ≠ NO_ERROR by decide), ?_⟩
      rintro (hle | heq')
      · omega
      · exact absurd heq' heq
    · exact ⟨rfl, fun _ => Or.inl (by omega), fun _ => rfl⟩

/-- What a text gives is unique. -/
lemma Gives.unique {call : FocusCall} {areas areas' : List CameraArea} (h : Gives call areas)
    (h' : Gives call areas') : areas = areas' := by
  have heq := ((parsed_eq_iff call areas).mpr h).symm.trans ((parsed_eq_iff call areas').mpr h')
  exact (Prod.mk.inj heq).2

/-- A call obeys unless its text gives too many areas. -/
lemma obeys_iff (mFocusAreas : List CameraArea) (call : FocusCall) :
    Obeys mFocusAreas call ↔ ¬TooMany call := by
  constructor
  · rintro hobeys ⟨areas, hgives, hmany⟩
    obtain ⟨hret, hstay⟩ := hobeys.refuses fun areas' h => h.unique hgives ▸ hmany
    obtain ⟨hset, hiff⟩ := setParametersFocus_of_gives hgives mFocusAreas
    exact hret (hiff.mpr (Or.inr (hstay.symm.trans hset)))
  · intro hnot
    refine ⟨fun hrefuse => refuses_of_not_gives (fun areas hgives => ?_) mFocusAreas,
      fun areas hgives hle => ?_⟩
    · exact hnot ⟨areas, hgives, hrefuse areas hgives⟩
    · obtain ⟨hset, hiff⟩ := setParametersFocus_of_gives hgives mFocusAreas
      exact ⟨hiff.mpr (Or.inl hle), hset⟩

/-- **The runs in which every call obeys** are those in which no text gives too many areas, from
whatever areas there are at the beginning. A text with too many areas always becomes the content of
`mFocusAreas`: it is refused only if it is new, and accepted when it comes again.

**Proof sketch.** The size is checked after the assignment, so that no list that is too long stays
out; the comparison before it then finds no difference. -/
theorem along_obeys_iff (mFocusAreas : List CameraArea) (run : List FocusCall) :
    (Along step Obeys mFocusAreas run ↔ ∀ call ∈ run, ¬TooMany call) ∧
    ∀ call areas, Gives call areas → call.MAX_FOCUS_AREAS < areas.length →
      ((setParametersFocus call (final step mFocusAreas run)).ret = NO_ERROR ↔
        final step mFocusAreas run = areas) ∧
      (setParametersFocus call (final step mFocusAreas (run ++ [call]))).ret = NO_ERROR := by
  constructor
  · induction run generalizing mFocusAreas with
    | nil => simp [Along]
    | cons call run ih =>
      rw [List.forall_mem_cons, ← ih (step mFocusAreas call), ← obeys_iff mFocusAreas call]
      exact Iff.rfl
  · intro call areas hgives hmany
    have hnot : ¬areas.length ≤ call.MAX_FOCUS_AREAS := by omega
    constructor
    · rw [(setParametersFocus_of_gives hgives _).2, or_iff_right hnot]
    · rw [(setParametersFocus_of_gives hgives _).2, final_append, or_iff_right hnot]
      exact (setParametersFocus_of_gives hgives _).1

/-- Two areas, for a camera that supports one. -/
def twoAreas : FocusCall where
  focusAreas := some "(0,0,10,10,1),(20,20,30,30,1)".toList
  maxNumFocusAreas := "1".toList
  memory _ := true

/-- What its text gives. -/
lemma gives_twoAreas : Gives twoAreas [⟨0, 0, 10, 10, 1⟩, ⟨20, 20, 30, 30, 1⟩] :=
  (parsed_eq_iff twoAreas _).mp (by decide)

/-- The areas are refused the first time and accepted the second time. -/
theorem along_obeys_twoAreas :
    (Along step Obeys [] [twoAreas] ↔ ∀ call ∈ [twoAreas], ¬TooMany call) ∧
    ((setParametersFocus twoAreas []).ret = NO_ERROR ↔
      ([] : List CameraArea) = [⟨0, 0, 10, 10, 1⟩, ⟨20, 20, 30, 30, 1⟩]) ∧
    (setParametersFocus twoAreas (step [] twoAreas)).ret = NO_ERROR :=
  ⟨(along_obeys_iff [] [twoAreas]).1,
    (along_obeys_iff [] []).2 twoAreas _ gives_twoAreas (by decide)⟩

/-- The two areas stay when they are refused, and are accepted when they come again. -/
theorem not_obeys_twoAreas :
    ¬Obeys [] twoAreas ∧ (setParametersFocus twoAreas []).ret = EINVAL ∧
      (setParametersFocus twoAreas (step [] twoAreas)).ret = NO_ERROR := by
  refine ⟨?_, by decide, by decide⟩
  rw [obeys_iff]
  exact not_not.mpr ⟨_, gives_twoAreas, by decide⟩

end FocusAreas

end CameraHal
