import Gs702aHal.Camera.VceEncode

set_option relaxedAutoImplicit false
set_option autoImplicit false

/-!
# Calls of the encoder that go on

`processImageSync` waits for the end of the image before, and it looks the buffer of its own image
up in a map that aborts the process if the buffer is not there. The map is filled by `loadedToIdle`
from the buffers that `useBuffers` has stored, if the component is still Loaded then. What is left
of a call tells what it needs of the map; the needs are computed backwards from `processImageSync`,
as a weakest precondition is.

## Main definitions

* `CameraHal.VceEncode.Provided` — the statements that are left find the buffer of the image.
* `CameraHal.VceEncode.Registers` — what is left of `loadedToIdle` fills the map.
* `CameraHal.VceEncode.Encoder.Prepared` — the invariant.

## Main results

* `CameraHal.VceEncode.registers_exec` — a statement of `loadedToIdle` leaves the map to be filled
  by the others, or fails.
* `CameraHal.VceEncode.Encoder.Prepared.step` — the invariant is kept.
* `CameraHal.VceEncode.always_safe_of_lasting` — runs under the condition are safe.
-/

namespace CameraHal.VceEncode

open Status VceFatal

/-! ### The map of the input buffers -/

/-- Every buffer is in the map. -/
def Full (buffers : List Ptr) (map : KeyedVector Ptr Ptr) : Prop :=
  ∀ b ∈ buffers, map.find? b ≠ none

/-- The statements of a call find the buffer of the image in the map, if they begin with the given
input buffers and the given map, and each `loadedToIdle` among them succeeds. -/
def Provided (buffers : List Ptr) (map : KeyedVector Ptr Ptr) : List Stage → Prop
  | [] => True
  | .processImage buf :: _ => map.find? buf ≠ none
  | .useInputBuffers buffers' :: rest => Provided buffers' map rest
  | .call .loadedToIdle _ :: rest => ∀ map', Full buffers map' → Provided buffers map' rest
  | _ :: rest => Provided buffers map rest

/-- If the statements of `loadedToIdle` reach the end, every buffer is in the map. -/
def Registers (buffers : List Ptr) (map : KeyedVector Ptr Ptr) : List Instr → Prop
  | [] => Full buffers map
  | .gotoExit _ :: _ => True
  | .clearInputBufferMap :: code => Registers buffers ∅ code
  | .useInputBuffers i :: code =>
    Full (buffers.take i) map ∧ ∀ map', Full buffers map' → Registers buffers map' code
  | _ :: code => Registers buffers map code

/-- Statements that do not use the handle look nothing up. -/
lemma provided_of_free {buffers : List Ptr} {map : KeyedVector Ptr Ptr} {rest : List Stage}
    (h : ∀ st ∈ rest, st.Free) : Provided buffers map rest := by
  induction rest with
  | nil => trivial
  | cons st rest ih =>
    obtain ⟨hst, hrest⟩ := List.forall_mem_cons.mp h
    cases st with
    | call f checked =>
      cases f with
      | switchToLoaded => exact ih hrest
      | _ => exact hst.elim
    | freeImageData buf => exact ih hrest
    | exit ret => exact ih hrest
    | _ => exact hst.elim

/-- Statements that do not use the handle process no image. -/
lemma notMem_of_free {rest : List Stage} (h : ∀ st ∈ rest, st.Free) (buf : Ptr) :
    .processImage buf ∉ rest :=
  fun hmem => h _ hmem

/-- The statements of `encode` find the image's buffer if it is one of the call's. -/
lemma provided_encodeCode {param : ImageJpegEncoderParam} (h : param.inData ∈ param.buffers)
    (exif : Bool) (buffers : List Ptr) (map : KeyedVector Ptr Ptr) :
    Provided buffers map (encodeCode param exif) := by
  have hrest : ∀ map', Full param.buffers map' → map'.find? param.inData ≠ none :=
    fun _ hfull => hfull _ h
  cases exif
  all_goals exact hrest

/-- The statements of `loadedToIdle` fill the map. -/
lemma registers_code (buffers : List Ptr) (map : KeyedVector Ptr Ptr) :
    Registers buffers map (Routine.code .loadedToIdle) :=
  ⟨List.forall_mem_nil _, fun _ hfull => hfull⟩

/-- Statements of `loadedToIdle`, of the other functions, and of both. -/
def Suits (f : Routine) : Instr → Prop
  | .clearInputBufferMap | .useInputBuffers _ | .clearOutputBufferMap | .allocateOutputBuffers _
  | .returnUnless _ => f = .loadedToIdle
  | .gotoExit ret => ret ≠ NO_ERROR
  | .register _ | .send | .wait _ _ _ | .setState _ | .resetSem _ | .removeEvent _ => True
  | _ => f ≠ .loadedToIdle

/-- What comes after a statement of `f` is in order. -/
def NextSuits (f : Routine) : Next → Prop
  | .go code | .call _ code => ∀ i ∈ code, Suits f i
  | .exit _ => True

/-- The statements of a function suit it. -/
lemma suits_code (f : Routine) : ∀ i ∈ f.code, Suits f i := by
  cases f <;> simp [Routine.code, Suits]

/-- So do those at its `EXIT`. -/
lemma suits_exit (f : Routine) : ∀ i ∈ f.exit, Suits f i := by
  cases f <;> simp [Routine.exit, Suits]

/-- The statements of a block suit the functions that have it. -/
lemma suits_block {f : Routine} (h : f ≠ .loadedToIdle) (block : Block) :
    ∀ i ∈ block.code, Suits f i := by
  cases block <;> simp [Block.code, disableAllPorts, changeTo, Suits, h]

/-- After an OMX call. -/
lemma nextSuits_checked {f : Routine} {b : Answer} {code : List Instr}
    (h : ∀ i ∈ code, Suits f i) : NextSuits f (.checked b code) := by
  unfold Next.checked
  split_ifs
  · exact h
  · trivial

/-- Statements are followed by statements of the same function. -/
lemma nextSuits_exec (b : Answer) (s : EventVce) {f : Routine} {i : Instr} {rest : List Instr}
    (hi : Suits f i) (hrest : ∀ j ∈ rest, Suits f j) : NextSuits f (i.exec b rest s).2 := by
  have hcons : ∀ j, Suits f j → ∀ k ∈ j :: rest, Suits f k := fun j hj =>
    List.forall_mem_cons.mpr ⟨hj, hrest⟩
  cases i with
  | checkHandle | returnIf state | returnUnless state | returnIfDisabled port =>
    simp only [Instr.exec]
    split_ifs <;> first | exact hrest | exact List.forall_mem_nil _ | trivial
  | ifState state block =>
    simp only [Instr.exec]
    split_ifs
    · exact List.forall_mem_append.mpr ⟨suits_block hi block, hrest⟩
    · exact hrest
  | disablePort port => exact hrest
  | register w =>
    simp only [Instr.exec]
    cases b.registered with
    | noMemory => trivial
    | _ => exact hrest
  | send => exact nextSuits_checked hrest
  | freeBuffers port i =>
    simp only [Instr.exec]
    split_ifs
    · exact nextSuits_checked (hcons _ hi)
    · exact hrest
  | useInputBuffers i =>
    simp only [Instr.exec]
    cases s.mInputBuffers[i]? with
    | none => exact hrest
    | some handle => exact nextSuits_checked (hcons _ hi)
  | allocateOutputBuffers i =>
    simp only [Instr.exec]
    split_ifs
    · exact nextSuits_checked (hcons _ hi)
    · exact hrest
  | wait w removal state =>
    simp only [Instr.exec]
    cases s.mEventSyncList.signalled w.arg3 with
    | nil =>
      refine List.forall_mem_cons.mpr ⟨trivial, List.forall_mem_cons.mpr ⟨trivial, ?_⟩⟩
      exact hcons _ (by simp [Suits, NO_ERROR])
    | cons e signals =>
      cases state with
      | none => exact hrest
      | some state => exact hcons _ trivial
  | gotoExit ret => trivial
  | freeOmxHandle =>
    simp only [Instr.exec]
    split_ifs
    · exact hcons _ trivial
    · exact List.forall_mem_cons.mpr ⟨hi, hcons _ trivial⟩
  | clearInputBufferMap | clearOutputBufferMap | setState state | clearEnable port | setEnable
  | resetSem sem | removeEvent e | releaseHandle => exact hrest

/-- No statement of a switch changes the input buffers, and only `loadedToIdle` changes their
map. -/
lemma exec_inputs (b : Answer) (rest : List Instr) (s : EventVce) {f : Routine} {i : Instr}
    (hi : Suits f i) :
    (i.exec b rest s).1.mInputBuffers = s.mInputBuffers ∧
      (f ≠ .loadedToIdle → (i.exec b rest s).1.mInputBufferMap = s.mInputBufferMap) := by
  cases i with
  | register w =>
    simp only [Instr.exec]
    cases b.registered <;> exact ⟨rfl, fun _ => rfl⟩
  | useInputBuffers i =>
    simp only [Instr.exec]
    cases s.mInputBuffers[i]? with
    | none => exact ⟨rfl, fun _ => rfl⟩
    | some handle =>
      refine ⟨?_, fun hf => absurd hi hf⟩
      split_ifs <;> rfl
  | clearInputBufferMap => exact ⟨rfl, fun hf => absurd hi hf⟩
  | allocateOutputBuffers i =>
    simp only [Instr.exec]
    split_ifs <;> exact ⟨rfl, fun _ => rfl⟩
  | wait w removal state =>
    simp only [Instr.exec]
    cases s.mEventSyncList.signalled w.arg3 <;> exact ⟨rfl, fun _ => rfl⟩
  | clearEnable port =>
    simp only [Instr.exec, EventVce.clearEnable]
    split_ifs <;> exact ⟨rfl, fun _ => rfl⟩
  | freeOmxHandle =>
    simp only [Instr.exec]
    split_ifs <;> exact ⟨rfl, fun _ => rfl⟩
  | _ => exact ⟨rfl, fun _ => rfl⟩

/-- What comes after a statement of `loadedToIdle`: others that fill the given map, or its end with
an error. -/
def Goes (buffers : List Ptr) (map : KeyedVector Ptr Ptr) : Next → Prop
  | .go code => Registers buffers map code
  | .exit ret => ret ≠ NO_ERROR
  | .call _ _ => False

/-- After an OMX call of `loadedToIdle`. -/
lemma goes_checked {buffers : List Ptr} {map : KeyedVector Ptr Ptr} {b : Answer}
    {code : List Instr} (h : b.error = .OMX_ErrorNone → Registers buffers map code) :
    Goes buffers map (.checked b code) := by
  unfold Next.checked
  split_ifs with herror
  · exact h herror
  · exact fun heq => herror ((omxToAndroidError_eq_NO_ERROR _).mp heq)

/-- **A statement of `loadedToIdle`** leaves the map to be filled by the others, or fails, if the
component is Loaded when it is looked at.

**Proof sketch.** The map is cleared before the loop, and each pass adds the next buffer to it. The
loop ends when no buffer is left; the statements after it do not change the map. -/
lemma registers_exec (b : Answer) (s : EventVce) {i : Instr} {rest : List Instr}
    (hi : Suits .loadedToIdle i)
    (h : Registers s.mInputBuffers s.mInputBufferMap (i :: rest))
    (hloaded : ∀ state, i = .returnUnless state → s.mComponentState = state.value) :
    Goes s.mInputBuffers (i.exec b rest s).1.mInputBufferMap (i.exec b rest s).2 := by
  cases i with
  | returnUnless state =>
    simp only [Instr.exec, if_pos (hloaded state rfl)]
    exact h
  | register w =>
    simp only [Instr.exec]
    cases b.registered with
    | noMemory => exact (by decide : NO_MEMORY ≠ NO_ERROR)
    | _ => exact h
  | send => exact goes_checked fun _ => h
  | clearInputBufferMap => exact h
  | useInputBuffers i =>
    obtain ⟨htake, hrest⟩ := h
    simp only [Instr.exec]
    cases hget : s.mInputBuffers[i]? with
    | none =>
      refine hrest _ ?_
      rwa [List.take_of_length_le (List.getElem?_eq_none_iff.mp hget)] at htake
    | some handle =>
      refine goes_checked fun herror => ?_
      simp only [if_pos herror]
      refine ⟨fun buf hbuf => ?_, hrest⟩
      rw [KeyedVector.find?_add]
      split_ifs with heq
      · exact Option.some_ne_none _
      · rw [List.take_add_one, hget] at hbuf
        rcases List.mem_append.mp hbuf with hbuf | hbuf
        · exact htake buf hbuf
        · exact absurd (List.mem_singleton.mp hbuf) heq
  | clearOutputBufferMap => exact h
  | allocateOutputBuffers i =>
    simp only [Instr.exec]
    split_ifs
    · exact goes_checked fun _ => h
    · exact h
  | wait w removal state =>
    simp only [Instr.exec]
    cases s.mEventSyncList.signalled w.arg3 with
    | nil => trivial
    | cons e signals => cases state <;> exact h
  | setState state => exact h
  | resetSem sem => exact h
  | removeEvent e => exact h
  | gotoExit ret => exact hi
  | _ => exact absurd rfl hi

/-! ### The invariant -/

namespace Encoder

/-- What lets a call go on: while an image is to be processed no other is, and its buffer is in the
map or will be. -/
structure Prepared (e : Encoder) : Prop where
  suits : ∀ fr ∈ e.m.stack, ∀ i ∈ fr.code, Suits fr.f i
  processing : ∀ buf, .processImage buf ∈ e.rest → e.mImageProcessing = false
  provided : Provided e.m.vce.mInputBuffers e.m.vce.mInputBufferMap e.rest
  registers : ∀ fr ∈ e.m.stack, fr.f = .loadedToIdle →
    (fr.ret ≠ NO_ERROR ∧ fr.code = []) ∨
      Registers e.m.vce.mInputBuffers e.m.vce.mInputBufferMap fr.code

variable {e : Encoder} {fr : Frame} {frs : List Frame}

/-- A prepared call does not stand still. -/
lemma Prepared.not_stands (h : e.Prepared) : ¬ e.Stands := by
  rintro ⟨-, buf, rest, hrest, -, hprocessing | hmissing⟩
  · have hidle := h.processing buf (by rw [hrest]; exact List.mem_cons_self)
    exact absurd (hidle.symm.trans hprocessing) (by decide)
  · have hfound := h.provided
    rw [hrest] at hfound
    exact hfound hmissing

/-- The encoder starts so. -/
lemma prepared_start (h : Ptr) (s : EventVce) : (start h s).Prepared :=
  ⟨List.forall_mem_nil _, fun _ hmem => absurd hmem List.not_mem_nil, trivial,
    List.forall_mem_nil _⟩

/-- After a statement of `encode` that has run without a switch. -/
lemma Prepared.of_stage {e' : Encoder} (hm : e'.m.stack = [])
    (hprocessing : ∀ buf, .processImage buf ∈ e'.rest → e'.mImageProcessing = false)
    (hprovided : Provided e'.m.vce.mInputBuffers e'.m.vce.mInputBufferMap e'.rest) :
    e'.Prepared :=
  ⟨by rw [hm]; exact List.forall_mem_nil _, hprocessing, hprovided,
    by rw [hm]; exact List.forall_mem_nil _⟩

/-- Statements that do not use the handle go on. -/
lemma Prepared.of_free {e' : Encoder} (hm : e'.m.stack = []) (hfree : ∀ st ∈ e'.rest, st.Free) :
    e'.Prepared :=
  .of_stage hm (fun buf hmem => absurd hmem (notMem_of_free hfree buf)) (provided_of_free hfree)

/-- A statement that goes on or leaves for the `EXIT`. -/
lemma Prepared.check (hm : e.m.stack = []) {rest : List Stage}
    (hprocessing : ∀ buf, .processImage buf ∈ rest → e.mImageProcessing = false)
    (hprovided : Provided e.m.vce.mInputBuffers e.m.vce.mInputBufferMap rest) (ret : Status)
    (e' : Encoder)
    (hsame : e'.m.stack = e.m.stack ∧ e'.mImageProcessing = e.mImageProcessing ∧
      e'.m.vce.mInputBuffers = e.m.vce.mInputBuffers ∧
      e'.m.vce.mInputBufferMap = e.m.vce.mInputBufferMap) : (e'.check ret rest).Prepared := by
  obtain ⟨hstack, himage, hbuffers, hmap⟩ := hsame
  unfold Encoder.check
  split_ifs
  · refine .of_stage (hstack.trans hm) (fun buf hmem => himage.trans (hprocessing buf hmem)) ?_
    show Provided e'.m.vce.mInputBuffers e'.m.vce.mInputBufferMap rest
    rwa [hbuffers, hmap]
  · exact .of_free (hstack.trans hm) (List.forall_mem_singleton.mpr trivial)

/-- The other calls of the caller's thread are not `loadedToIdle`. -/
lemma eq_nil_of_loadedToIdle {rest : List Stage} (hcalls : Calls rest (fr :: frs))
    (hf : fr.f = .loadedToIdle) : frs = [] := by
  cases frs with
  | nil => rfl
  | cons fr' frs =>
    rcases hcalls.1 with hf' | ⟨port, hf'⟩
    · exact absurd (hf.symm.trans hf') (by decide)
    · exact absurd (hf.symm.trans hf') (by simp)

/-- What a call of `loadedToIdle` is followed by does not depend on the map before it. -/
lemma provided_of_running {buffers : List Ptr} {map map' : KeyedVector Ptr Ptr}
    {rest : List Stage} (hrunning : Running fr rest) (hf : fr.f = .loadedToIdle)
    (h : Provided buffers map rest) : Provided buffers map' rest := by
  obtain ⟨checked, after, rfl⟩ := hrunning
  rw [hf] at h ⊢
  exact h

/-- A statement of a switch keeps what lets the call go on.

**Proof sketch.** Only the statements of `loadedToIdle` change the map. It runs alone, and what it
is followed by does not depend on the map before it. -/
lemma Prepared.exec (h : e.Prepared) (hinv : e.Inv) (hm : e.m.stack = fr :: frs) {i : Instr}
    {code : List Instr} (hcode : fr.code = i :: code) (b : EncodeAnswer)
    (hkeeps : e.KeepsBuffers b) :
    ({ e with m := e.m.proceed fr frs (i.exec b.toAnswer code e.m.vce) } : Encoder).Prepared := by
  have hcalls := hinv.calls
  rw [hm] at hcalls
  have hsuits := h.suits
  rw [hm, List.forall_mem_cons] at hsuits
  obtain ⟨hfr, hfrs⟩ := hsuits
  rw [hcode] at hfr
  obtain ⟨hi, hrest⟩ := List.forall_mem_cons.mp hfr
  have hnext := nextSuits_exec b.toAnswer e.m.vce hi hrest
  obtain ⟨hbuffers, hmap⟩ := exec_inputs b.toAnswer code e.m.vce hi
  have hregisters := h.registers
  rw [hm, List.forall_mem_cons] at hregisters
  rw [hcode] at hregisters
  -- the map that the calls find after the statement
  have hprovided : Provided (i.exec b.toAnswer code e.m.vce).1.mInputBuffers
      (i.exec b.toAnswer code e.m.vce).1.mInputBufferMap e.rest := by
    rw [hbuffers]
    by_cases hf : fr.f = .loadedToIdle
    · obtain rfl := eq_nil_of_loadedToIdle hcalls hf
      exact provided_of_running hcalls.1 hf h.provided
    · rw [hmap hf]
      exact h.provided
  have hothers : ∀ fr' ∈ frs, fr'.f = .loadedToIdle → (fr'.ret ≠ NO_ERROR ∧ fr'.code = []) ∨
      Registers (i.exec b.toAnswer code e.m.vce).1.mInputBuffers
        (i.exec b.toAnswer code e.m.vce).1.mInputBufferMap fr'.code := by
    intro fr' hfr' hf'
    by_cases hf : fr.f = .loadedToIdle
    · rw [eq_nil_of_loadedToIdle hcalls hf] at hfr'
      exact absurd hfr' List.not_mem_nil
    · rw [hbuffers, hmap hf]
      exact hregisters.2 fr' hfr' hf'
  have hgoes : fr.f = .loadedToIdle → Goes (i.exec b.toAnswer code e.m.vce).1.mInputBuffers
      (i.exec b.toAnswer code e.m.vce).1.mInputBufferMap (i.exec b.toAnswer code e.m.vce).2 := by
    intro hf
    rw [hf] at hi
    rw [hbuffers]
    have hreg := (hregisters.1 hf).resolve_left fun hended => absurd hended.2 (List.cons_ne_nil _ _)
    refine registers_exec b.toAnswer e.m.vce hi hreg fun state hstate => ?_
    exact hkeeps.loaded fr frs state code hm (hstate ▸ hcode)
  have hnew : ∀ g, Suits fr.f i → ∀ code', (i.exec b.toAnswer code e.m.vce).2 = .call g code' →
      fr.f ≠ .loadedToIdle := by
    intro g _ code' hcall hf
    have hgo := hgoes hf
    rw [hcall] at hgo
    exact hgo
  generalize i.exec b.toAnswer code e.m.vce = r at hnext hprovided hothers hgoes hnew ⊢
  obtain ⟨v, code' | ret | ⟨g, code'⟩⟩ := r
  · exact ⟨List.forall_mem_cons.mpr ⟨hnext, hfrs⟩, h.processing, hprovided,
      List.forall_mem_cons.mpr ⟨fun hf => .inr (hgoes hf), hothers⟩⟩
  · refine ⟨List.forall_mem_cons.mpr ⟨suits_exit fr.f, hfrs⟩, h.processing, hprovided,
      List.forall_mem_cons.mpr ⟨fun hf => .inl ⟨hgoes hf, ?_⟩, hothers⟩⟩
    rw [show fr.f = .loadedToIdle from hf]
    rfl
  · have hf := hnew g hi code' rfl
    refine ⟨List.forall_mem_cons.mpr ⟨suits_code g, List.forall_mem_cons.mpr ⟨hnext, hfrs⟩⟩,
      h.processing, hprovided, List.forall_mem_cons.mpr ⟨fun hg => .inr ?_,
        List.forall_mem_cons.mpr ⟨fun hf' => absurd hf' hf, hothers⟩⟩⟩
    have hg' : g = .loadedToIdle := hg
    rw [hg']
    exact registers_code _ _

/-- A switch that returns is followed by statements that find the buffer. -/
lemma Prepared.finishSwitch (h : e.Prepared) (hinv : e.Inv) (hm : e.m.stack = [fr])
    (hcode : fr.code = []) : (e.finishSwitch fr).Prepared := by
  have hcalls := hinv.calls
  rw [hm] at hcalls
  obtain ⟨⟨checked, after, hrest⟩, -⟩ := hcalls
  have hok : Stage.Ok (.call fr.f checked) :=
    hinv.rest _ (by rw [hrest]; exact List.mem_cons_self)
  have hprovided := h.provided
  rw [hrest] at hprovided
  have hprocessing : ∀ buf, .processImage buf ∈ after → e.mImageProcessing = false :=
    fun buf hmem => h.processing buf (by rw [hrest]; exact List.mem_cons_of_mem _ hmem)
  simp only [Encoder.finishSwitch, hrest]
  split_ifs with hfailed
  · exact .of_free rfl (List.forall_mem_singleton.mpr trivial)
  · refine .of_stage rfl hprocessing ?_
    show Provided e.m.vce.mInputBuffers e.m.vce.mInputBufferMap after
    rcases hok with hf | ⟨rfl, hf | hf⟩
    · rw [hf] at hprovided
      exact hprovided
    · rcases h.registers fr (by rw [hm]; exact List.mem_cons_self) hf with hended | hfull
      · exact absurd ⟨rfl, hended.1⟩ hfailed
      · rw [hf] at hprovided
        rw [hcode] at hfull
        exact hprovided _ hfull
    · rw [hf] at hprovided
      exact hprovided

/-- A statement of `encode` or `freeEncodeData` keeps what lets the call go on. -/
lemma Prepared.exec_stage (h : e.Prepared) (hinv : e.Inv) (hm : e.m.stack = []) {stage : Stage}
    {rest : List Stage} (hrest : e.rest = stage :: rest) {b : EncodeAnswer}
    (hkeeps : e.KeepsBuffers b) : (e.exec b rest stage).Prepared := by
  have hprovided := h.provided
  rw [hrest] at hprovided
  have hprocessing : ∀ buf, .processImage buf ∈ rest → e.mImageProcessing = false :=
    fun buf hmem => h.processing buf (by rw [hrest]; exact List.mem_cons_of_mem _ hmem)
  cases stage with
  | call f checked =>
    have hok : Stage.Ok (.call f checked) :=
      hinv.rest _ (by rw [hrest]; exact List.mem_cons_self)
    have hcall : e.m.call f b.toAnswer = { e.m with stack := [.new f] } := by
      rcases hok with rfl | ⟨-, rfl | rfl⟩
      all_goals rfl
    simp only [Encoder.exec, hcall]
    refine ⟨List.forall_mem_singleton.mpr (suits_code f), h.processing, h.provided,
      List.forall_mem_singleton.mpr fun hf => .inr ?_⟩
    have hf' : f = .loadedToIdle := hf
    rw [hf']
    exact registers_code _ _
  | setParameter p => exact .check hm hprocessing hprovided _ _ ⟨rfl, rfl, rfl, rfl⟩
  | getPortDefinition port =>
    cases port
    all_goals exact .check hm hprocessing hprovided _ _ ⟨rfl, rfl, rfl, rfl⟩
  | setInputPortDefinition param =>
    exact .check hm hprocessing hprovided _ _ ⟨rfl, rfl, rfl, rfl⟩
  | setOutputPortDefinition param =>
    exact .check hm hprocessing hprovided _ _ ⟨rfl, rfl, rfl, rfl⟩
  | useInputBuffers buffers =>
    simp only [Encoder.exec]
    by_cases hstate : e.m.vce.mComponentState = OMX_STATETYPE.OMX_StateLoaded.value
    · rw [if_neg (not_not.mpr hstate), if_pos (hkeeps.memory hm buffers rest hrest hstate),
        Encoder.check, if_pos rfl]
      exact .of_stage hm hprocessing hprovided
    · rw [if_pos hstate]
      exact .of_free hm (List.forall_mem_singleton.mpr trivial)
  | useOutputBuffers =>
    simp only [Encoder.exec]
    split_ifs
    all_goals exact .check hm hprocessing hprovided _ _ ⟨rfl, rfl, rfl, rfl⟩
  | fillOutputBuffers i ret =>
    have hnext : ∀ ret buf, .processImage buf ∈ Stage.fillOutputBuffers (i + 1) ret :: rest →
        e.mImageProcessing = false := fun ret buf hmem =>
      hprocessing buf ((List.mem_cons.mp hmem).resolve_left (by simp))
    simp only [Encoder.exec]
    cases e.outputHeaders[i]? with
    | none => exact .check hm hprocessing hprovided _ _ ⟨rfl, rfl, rfl, rfl⟩
    | some header =>
      dsimp only
      split_ifs
      · exact .of_stage hm (hnext _) hprovided
      · exact .check hm (hnext _) hprovided _ _ ⟨rfl, rfl, rfl, rfl⟩
  | processImage buf =>
    have hfree : ∀ st ∈ [Stage.exit UNKNOWN_ERROR], st.Free :=
      List.forall_mem_singleton.mpr trivial
    simp only [Encoder.exec]
    split_ifs
    · exact h
    · cases e.m.vce.mInputBufferMap.find? buf with
      | none => exact h
      | some header =>
        dsimp only
        split_ifs
        · refine .of_free hm ?_
          simp [Encoder.check, BAD_VALUE, NO_ERROR, Stage.Free]
        · exact .of_stage hm (fun _ hmem => absurd hmem (by simp)) trivial
    · exact .of_free hm (List.forall_mem_append.mpr
        ⟨fun st hst => (ok_freeEncodeDataCode _ st hst).2, hfree⟩)
  | emptyThisBuffer header => exact .check hm hprocessing hprovided _ _ ⟨rfl, rfl, rfl, rfl⟩
  | waitOutput =>
    simp only [Encoder.exec]
    split_ifs
    · exact .of_stage hm hprocessing hprovided
    · exact .of_free hm (List.forall_mem_singleton.mpr trivial)
  | collect =>
    simp only [Encoder.exec, Encoder.collect]
    split_ifs
    · exact .of_free hm (List.forall_mem_append.mpr
        ⟨fun st hst => (ok_freeEncodeDataCode _ st hst).2, List.forall_mem_singleton.mpr trivial⟩)
    · exact .of_free hm (List.forall_mem_nil _)
  | freeImageData buf =>
    refine .of_stage hm (fun buf hmem => ?_) hprovided
    show (e.mImageProcessing && !e.executes) = false
    rw [hprocessing buf hmem, Bool.false_and]
  | exit ret => exact .of_stage hm hprocessing hprovided

/-- A statement of the caller's thread keeps what lets the call go on. -/
lemma Prepared.tick (h : e.Prepared) (hinv : e.Inv) {b : EncodeAnswer}
    (hkeeps : e.KeepsBuffers b) : (e.tick b).Prepared := by
  have hswitch : ∀ fr frs, e.m.stack = fr :: frs → (fr.code ≠ [] ∨ frs ≠ []) →
      ({ e with m := e.m.tick b.toAnswer } : Encoder).Prepared := by
    intro fr frs hm hne
    cases hcode : fr.code with
    | nil =>
      have hkept := h.suits
      have hregisters := h.registers
      rw [hm, List.forall_mem_cons] at hkept hregisters
      rw [Machine.tick_of_end _ hm hcode]
      exact ⟨hkept.2, h.processing, h.provided, hregisters.2⟩
    | cons i code =>
      rw [Machine.tick_of_cons _ hm hcode]
      exact h.exec hinv hm hcode b hkeeps
  match hm : e.m.stack with
  | [] =>
    cases hrest : e.rest with
    | nil =>
      simp only [Encoder.tick, hm, hrest]
      exact h
    | cons stage rest =>
      simp only [Encoder.tick, hm, hrest]
      exact h.exec_stage hinv hm hrest hkeeps
  | [fr] =>
    cases hcode : fr.code with
    | nil =>
      simp only [Encoder.tick, hm, hcode]
      exact h.finishSwitch hinv hm hcode
    | cons i code =>
      simp only [Encoder.tick, hm, hcode]
      exact hswitch fr [] hm (.inl (by rw [hcode]; exact List.cons_ne_nil _ _))
  | fr :: fr' :: frs =>
    simp only [Encoder.tick, hm]
    exact hswitch fr (fr' :: frs) hm (.inr (List.cons_ne_nil _ _))

/-- A step of the component's thread keeps what lets the call go on. -/
lemma Prepared.of_component (h : e.Prepared) {m : Machine} (g : Frame → Bool)
    (hm : m.stack = e.m.stack.map fun fr => { fr with struck := g fr })
    (hbuffers : m.vce.mInputBuffers = e.m.vce.mInputBuffers)
    (hmap : m.vce.mInputBufferMap = e.m.vce.mInputBufferMap) :
    ({ e with m := m } : Encoder).Prepared := by
  refine ⟨fun fr hfr => ?_, h.processing, ?_, fun fr hfr => ?_⟩
  · obtain ⟨fr', hfr', rfl⟩ := List.mem_map.mp (hm ▸ hfr)
    exact h.suits fr' hfr'
  · show Provided m.vce.mInputBuffers m.vce.mInputBufferMap e.rest
    rw [hbuffers, hmap]
    exact h.provided
  · obtain ⟨fr', hfr', rfl⟩ := List.mem_map.mp (hm ▸ hfr)
    show fr'.f = .loadedToIdle → (fr'.ret ≠ NO_ERROR ∧ fr'.code = []) ∨
      Registers m.vce.mInputBuffers m.vce.mInputBufferMap fr'.code
    rw [hbuffers, hmap]
    exact h.registers fr' hfr'

/-- A statement of `onEvent` keeps what lets the call go on. -/
lemma Prepared.react (h : e.Prepared) : ({ e with m := e.m.react } : Encoder).Prepared := by
  have hsame : e.m.stack = e.m.stack.map fun fr => { fr with struck := fr.struck } :=
    (List.map_id _).symm
  unfold Machine.react
  cases e.m.reacting with
  | nil => exact h
  | cons r reacting =>
    cases r with
    | invalid ev =>
      by_cases hwaiting : ({ e.m with reacting := reacting } : Machine).waiting = true
      · refine h.of_component (fun _ => true) ?_ rfl rfl
        simp only [Machine.reactTo, if_pos hwaiting]
      · refine h.of_component Frame.struck ?_ rfl rfl
        simp only [Machine.reactTo, if_neg hwaiting]
        exact hsame
    | flush ev => exact h.of_component Frame.struck hsame rfl rfl
    | report => exact h.of_component Frame.struck hsame rfl rfl
    | signal ev => exact h.of_component Frame.struck hsame rfl rfl

/-- An event keeps what lets the call go on. -/
lemma Prepared.event (h : e.Prepared) (ev : OmxEvent) :
    ({ e with m := e.m.step (.event ev) } : Encoder).Prepared := by
  simp only [Machine.step]
  split_ifs
  · refine h.of_component Frame.struck (List.map_id _).symm ?_ ?_
    all_goals
      simp only [EventVce.onCmdComplete]
      split_ifs <;> rfl
  · exact h

/-- **What lets a call go on is kept** by the steps under the condition. -/
theorem Prepared.step (h : e.Prepared) (hinv : e.Inv) {a : EncodeAction} (hlasting : e.Lasting a) :
    (e.step a).Prepared := by
  have hstack : e.rest = [] → e.m.stack = [] := by
    intro hrest
    have hcalls := hinv.calls
    rw [hrest] at hcalls
    exact eq_nil_of_calls hcalls
  cases a with
  | encode param exif =>
    simp only [Encoder.step]
    split_ifs with hrest
    · obtain ⟨-, hidle, hmem⟩ := hlasting hrest
      exact .of_stage (hstack hrest) (fun _ _ => hidle) (provided_encodeCode hmem exif _ _)
    · exact h
  | freeEncodeData buf =>
    simp only [Encoder.step]
    split_ifs with hrest
    · exact .of_free (hstack hrest) fun st hst => (ok_freeEncodeDataCode buf st hst).2
    · exact h
  | tick b => exact h.tick hinv hlasting.2
  | event ev =>
    simp only [Encoder.step]
    split_ifs
    · exact h
    · exact h.event ev
  | react => exact h.react
  | fill image =>
    simp only [Encoder.step]
    split_ifs
    · exact ⟨h.suits, h.processing, h.provided, h.registers⟩
    · exact h
  | signal =>
    simp only [Encoder.step]
    split_ifs
    · exact h
    · exact ⟨h.suits, h.processing, h.provided, h.registers⟩

end Encoder

/-! ### Runs -/

/-- **Encoding survives a lost component** in every run of calls, statements and callbacks in which
each call of `encode` finds a handle, no image that is being processed and its image among its
buffers, in which `loadedToIdle` finds the component Loaded and `useBuffers` has memory, and in
which no `switchToLoaded` fails that `freeOmxHandle` has called or that `encode` begins with. In
every state of the run no call of the component is then about to be made with `NULL` for a handle,
the call that is under way goes on, and each call of `encode` that has not produced an image has
returned an error and no data.

**Proof sketch.** Without a handle no call is running, or one that only finishes its `EXIT`, and the
statements that are left do not use it. The handle is freed at the `EXIT` of a switch; under the
condition no other function waits there to free it again, and the statements after the switch are
not reached or do not use it. An image is processed while no other is, and its buffer has been put
into the map by `loadedToIdle`. -/
theorem always_safe_of_lasting (h : Ptr) (s : EventVce) {run : List EncodeAction}
    (hrun : StepRun.Along Encoder.step Encoder.Lasting (.start h s) run) :
    StepRun.Always Encoder.step Encoder.Safe (.start h s) run := by
  have hkeep : ∀ (e : Encoder) a, e.Inv ∧ e.Prepared → e.Lasting a →
      (e.step a).Inv ∧ (e.step a).Prepared := fun _ _ hinv hlasting =>
    ⟨hinv.1.step hlasting, hinv.2.step hinv.1 hlasting⟩
  have hstart := And.intro (Encoder.inv_start h s) (Encoder.prepared_start h s)
  exact (StepRun.always_of_along hkeep hstart hrun).imp fun _ hinv =>
    hinv.1.safe hinv.2.not_stands

/-- The component accepts what is asked of it. -/
def accepting : EncodeAnswer := ⟨⟨.added, .OMX_ErrorNone, 5, 6⟩, true, ⟨2, 100, 0, 0, 0, 0⟩⟩

/-- It refuses. -/
def refusing : EncodeAnswer := ⟨⟨.added, .OMX_ErrorHardware, 0, 0⟩, true, ⟨0, 0, 0, 0, 0, 0⟩⟩

/-- An image in the only buffer. -/
def oneBuffer : ImageJpegEncoderParam := ⟨10, 0, 0, [10], 0, 0, 0, 0, 0, 0, 0⟩

/-- The encoder after `init`. -/
def loaded : EventVce :=
  EventVce.start none OMX_STATETYPE.OMX_StateLoaded.value true 0 1 [] 0

/-- Statements that meet a component that accepts. -/
def statements (n : ℕ) : List EncodeAction := List.replicate n (.tick accepting)

/-- The component completes a command. -/
def completes (command data : ℕ) : List EncodeAction := [.event (.complete command data), .react]

/-- The component refuses the quality, and the call returns an error. -/
theorem always_safe_refused :
    StepRun.Always Encoder.step Encoder.Safe (.start 1 loaded)
      (.encode oneBuffer false :: statements 5 ++ List.replicate 2 (.tick refusing)) := by
  refine always_safe_of_lasting 1 loaded
    ⟨fun _ => ⟨Option.some_ne_none _, rfl, List.mem_cons_self⟩, ?_⟩
  refine ⟨?_, ?_, ?_, ?_, ?_, ?_, ?_, trivial⟩
  all_goals
    refine ⟨?_, fun _ buffers rest hrest => ?_, fun fr frs state code hm hcode => ?_⟩
    · rintro fr frs i code hm hcode - - ret
      cases hm
      try cases hcode
      try exact nofun
    · cases hrest
    · cases hm
      try cases hcode

/-- The component refuses to execute and dies: the call returns an error and the handle is freed.
The next call is then about to set the quality without a handle. -/
def diedRun : List EncodeAction :=
  .encode oneBuffer false :: statements 24 ++ completes OMX_CommandStateSet 2 ++ statements 9 ++
    [.tick refusing, .event hardwareError, .react] ++ statements 9 ++
    .encode oneBuffer false :: statements 5

/-- The component refuses the image, and the call returns an error. The next call waits for the end
of that image. -/
def refusedRun : List EncodeAction :=
  .encode oneBuffer false :: statements 24 ++ completes OMX_CommandStateSet 2 ++ statements 10 ++
    completes OMX_CommandStateSet 3 ++ statements 6 ++ [.tick refusing] ++ statements 1 ++
    .encode oneBuffer false :: statements 5 ++ completes OMX_CommandStateSet 2 ++ statements 9 ++
    completes OMX_CommandPortDisable 0 ++ statements 9 ++ completes OMX_CommandPortDisable 1 ++
    statements 5 ++ completes OMX_CommandStateSet 1 ++ statements 25 ++
    completes OMX_CommandStateSet 2 ++ statements 10 ++ completes OMX_CommandStateSet 3 ++
    statements 5

set_option maxRecDepth 4000 in
/-- Neither run is safe. -/
theorem not_always_safe_died :
    ¬ StepRun.Always Encoder.step Encoder.Safe (.start 1 loaded) diedRun ∧
      ¬ StepRun.Always Encoder.step Encoder.Safe (.start 1 loaded) refusedRun := by
  refine ⟨fun h => ?_, fun h => ?_⟩
  · exact h.last.stage rfl (.setParameter (.quality 0)) rfl trivial rfl
  · exact h.last.goesOn ⟨rfl, 10, [], rfl, rfl, .inl rfl⟩

end CameraHal.VceEncode
