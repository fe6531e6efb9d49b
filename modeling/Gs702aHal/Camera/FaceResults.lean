import Mathlib.Algebra.Group.Nat.Defs
import Gs702aHal.Camera.FaceDetection

set_option relaxedAutoImplicit false
set_option autoImplicit false

/-!
# Result buffers of face detection

The detector reports the faces of a frame in an output buffer. `OMXVce::onFillBufferDone` hands it
to `OMXCameraAdapter::sendFaces`, which copies the faces for the application and gives the buffer
back through `freeImageData`, which looks the buffer up by an address. The flags that `sendFaces`
tests are changed by the commands on other threads.

## Main definitions

* `CameraHal.FaceResults`, `CameraHal.FaceResults.step` — the way of the output buffers.
* `CameraHal.FaceResults.GivenBack` — every buffer was given back once, and no application was told
  about too many faces.
* `CameraHal.FaceResults.Careful` — the condition on a step.

## Main results

* `CameraHal.FaceResults.WellFormed.step` — the invariant of all runs.
* `CameraHal.FaceResults.givenBack_step_iff` — what a step keeps.
* `CameraHal.FaceResults.always_givenBack_iff` — while the component stays Executing, the buffers
  are given back throughout a run if and only if all its steps are careful.
-/

namespace CameraHal

/-- `MAX_FD_HW_NUM`. -/
def MAX_FD_HW_NUM : ℤ := 32

/-- A call of `OMX_FillThisBuffer` in the handling of a result. -/
structure FillCall where
  result : ℕ
  pBufferHdr : Ptr
  answer : OMX_ERRORTYPE
  deriving DecidableEq

/-- The result that `sendFaces` is called with. Results are numbered. -/
inductive ResultStage
  | idle
  | handed (result : ℕ) (data : Ptr) (offset : ℕ) (number_of_faces : ℤ)
  deriving DecidableEq, Repr

/-- Face detection with its output buffers. -/
structure FaceResults extends FaceDetection where
  /-- The detector was initialised for synchronous use. -/
  mSync : Bool
  /-- The headers of the output buffers, by address. -/
  mOutputBufferMap : KeyedVector Ptr Ptr
  /-- The headers that are with the component. -/
  withComponent : List Ptr
  stage : ResultStage
  /-- The number of results handed to `sendFaces` so far. -/
  count : ℕ
  /-- The header that each of them came with. -/
  header : ℕ → Ptr
  /-- The calls of `OMX_FillThisBuffer` so far, the latest last. -/
  filled : List FillCall
  /-- The numbers of faces that the application was told and that the component had reported. -/
  notified : List (ℤ × ℤ)

namespace FaceResults

/-- A step of the commands. -/
def control (s : FaceResults) (c : FaceDetection.Control) : FaceResults :=
  { s with toFaceDetection := s.toFaceDetection.control c }

/-- The component lets go of a buffer. -/
def take (s : FaceResults) (pBufferHdr : Ptr) : FaceResults :=
  { s with withComponent := s.withComponent.erase pBufferHdr }

/-- A result is handed to `sendFaces`. -/
def hand (s : FaceResults) (pBufferHdr data : Ptr) (offset : ℕ) (number_of_faces : ℤ) :
    FaceResults :=
  { s with
    stage := .handed s.count data offset number_of_faces
    count := s.count + 1
    header := Function.update s.header s.count pBufferHdr }

/-- `onFillBufferDone` for the output buffer at an address, up to the call of `sendFaces`. -/
def onFillBufferDone (s : FaceResults) (pBuffer : Ptr) (nOffset : ℕ) (number_of_faces : ℤ) :
    FaceResults :=
  match s.stage, s.mOutputBufferMap.find? pBuffer with
  | .idle, some pBufferHdr =>
    if pBufferHdr ∉ s.withComponent then s
    else if s.detector.mComponentState ≠ .OMX_StateExecuting then s.take pBufferHdr
    else if s.mSync then s.take pBufferHdr
    else (s.take pBufferHdr).hand pBufferHdr pBuffer nOffset number_of_faces
  | _, _ => s

/-- `OMX_FillThisBuffer`. -/
def fillThisBuffer (s : FaceResults) (result : ℕ) (pBufferHdr : Ptr) (answer : OMX_ERRORTYPE) :
    FaceResults :=
  { s with
    filled := s.filled ++ [⟨result, pBufferHdr, answer⟩]
    withComponent := if answer = .OMX_ErrorNone then s.withComponent ++ [pBufferHdr]
      else s.withComponent }

/-- `cycleOutputBuffer`. -/
def cycleOutputBuffer (s : FaceResults) (result : ℕ) (outbuf : Ptr) (answer : OMX_ERRORTYPE) :
    FaceResults :=
  match s.mOutputBufferMap.find? outbuf with
  | none => s
  | some pBufferHdr => if pBufferHdr = NULL then s else s.fillThisBuffer result pBufferHdr answer

/-- `freeImageData`, called by `freeFaceDetectData`. -/
def freeImageData (s : FaceResults) (result : ℕ) (buf : Ptr) (answer : OMX_ERRORTYPE) :
    FaceResults :=
  if s.detector.mComponentState ≠ .OMX_StateExecuting then s
  else if s.mSync = false then s.cycleOutputBuffer result buf answer
  else s

/-- The step of `sendFaces` that frees the faces unless their address is `NULL`. -/
def freeFaceDetectData (s : FaceResults) (result : ℕ) (frame_metadata : Ptr)
    (answer : OMX_ERRORTYPE) : FaceResults :=
  if frame_metadata ≠ NULL then s.freeImageData result frame_metadata answer else s

/-- The address of the faces, on 32 bits. -/
def metadata (data : Ptr) (offset : ℕ) : Ptr := (data + offset) % 2 ^ 32

/-- The number of faces that is copied. -/
def facenum (number_of_faces : ℤ) : ℤ :=
  if number_of_faces > MAX_FD_HW_NUM then MAX_FD_HW_NUM else number_of_faces

/-- The faces are passed to the application. -/
def notify (s : FaceResults) (number_of_faces : ℤ) : FaceResults :=
  { s with notified := s.notified ++ [(facenum number_of_faces, number_of_faces)] }

/-- `sendFaces` is over. -/
def finish (s : FaceResults) : FaceResults := { s with stage := .idle }

/-- `sendFaces`, given the outcome of its two allocations and the answer of the component to the
buffer. -/
def sendFaces (s : FaceResults) (faces faces_faces : Bool) (answer : OMX_ERRORTYPE) :
    FaceResults :=
  match s.stage with
  | .idle => s
  | .handed result data offset number_of_faces =>
    if !s.active then s.finish  -- there is no `frame_metadata` to free
    else
      let freed := s.freeFaceDetectData result (metadata data offset) answer
      if !faces then freed.finish
      else if !faces_faces then freed.finish
      else (freed.notify number_of_faces).finish

/-- The steps. -/
inductive Action
  | control (c : FaceDetection.Control)
  | onFillBufferDone (pBuffer : Ptr) (nOffset : ℕ) (number_of_faces : ℤ)
  | sendFaces (faces faces_faces : Bool) (answer : OMX_ERRORTYPE)

/-- One step. -/
def step (s : FaceResults) : Action → FaceResults
  | .control c => s.control c
  | .onFillBufferDone pBuffer nOffset number_of_faces =>
    s.onFillBufferDone pBuffer nOffset number_of_faces
  | .sendFaces faces faces_faces answer => s.sendFaces faces faces_faces answer

/-- The result that `sendFaces` works on. -/
def current (s : FaceResults) : List ℕ :=
  match s.stage with
  | .idle => []
  | .handed result _ _ _ => [result]

/-- The results: the one in `sendFaces` has not been given back. -/
def custody (s : FaceResults) : Custody FillCall := ⟨s.count, s.current, s.filled⟩

/-- The calls for a result. -/
def about (p : ℕ) (c : FillCall) : Bool := c.result == p

/-- A result was given back once: `OMX_FillThisBuffer` was called on its own header and accepted. -/
def FilledOnce (s : FaceResults) (p : ℕ) (entries : List FillCall) : Prop :=
  entries = [⟨p, s.header p, .OMX_ErrorNone⟩]

/-- Every result is in `sendFaces` or was given back once, and the application was never told about
more faces than fit or than the component reported. -/
structure GivenBack (s : FaceResults) : Prop where
  buffers : s.custody.Accounted about s.FilledOnce
  faces : ∀ n ∈ s.notified, n.1 ≤ MAX_FD_HW_NUM ∧ n.1 ≤ n.2

/-- The component is Executing. -/
def Executing (s : FaceResults) : Prop := s.detector.mComponentState = .OMX_StateExecuting

/-- The condition on a step: when `sendFaces` tests the flags they allow the detection, the result
lies at the start of its buffer, and the component accepts the buffer. -/
def Careful (s : FaceResults) : Action → Prop
  | .sendFaces _ _ answer => ∀ result data offset number_of_faces,
    s.stage = .handed result data offset number_of_faces →
      s.active ∧ offset % 2 ^ 32 = 0 ∧ answer = .OMX_ErrorNone
  | _ => True

/-- Output buffers have addresses on 32 bits, and headers of their own. -/
structure Headers (m : KeyedVector Ptr Ptr) : Prop where
  ne_null : ∀ {out pBufferHdr}, m.find? out = some pBufferHdr → out ≠ NULL ∧ pBufferHdr ≠ NULL
  lt : ∀ {out pBufferHdr}, m.find? out = some pBufferHdr → out < 2 ^ 32
  injective : ∀ {out out' pBufferHdr}, m.find? out = some pBufferHdr →
    m.find? out' = some pBufferHdr → out = out'

/-- Face detection before the first result. -/
structure Ready (s : FaceResults) : Prop where
  async : s.mSync = false
  headers : Headers s.mOutputBufferMap
  stage : s.stage = .idle
  count : s.count = 0
  filled : s.filled = []
  notified : s.notified = []

/-! ### What steps do to the buffers -/

/-- The invariant of all runs. -/
structure WellFormed (s : FaceResults) : Prop where
  async : s.mSync = false
  headers : Headers s.mOutputBufferMap
  tracked : s.custody.Tracked about
  handed : ∀ result data offset number_of_faces,
    s.stage = .handed result data offset number_of_faces →
      s.mOutputBufferMap.find? data = some (s.header result)

/-- Before the first result everything is in order. -/
lemma Ready.wellFormed {s : FaceResults} (h : Ready s) : WellFormed s := by
  have hcurrent : s.current = [] := by rw [current, h.stage]
  exact
    { async := h.async
      headers := h.headers
      tracked :=
        { nodup := by simp [custody, hcurrent]
          held_lt := by simp [custody, hcurrent]
          silent := by simp [custody, h.filled] }
      handed := by simp [h.stage] }

/-- Before the first result there is nothing to give back. -/
lemma Ready.givenBack {s : FaceResults} (h : Ready s) : GivenBack s where
  buffers p hp := absurd (h.count ▸ hp) (Nat.not_lt_zero p)
  faces := by simp [h.notified]

/-- What a step of the buffers does: it takes in and lets out results, and keeps the detector's
mode, the headers and what earlier results came with. -/
structure Moves (s s' : FaceResults) (new : ℕ) (out : List ℕ) (events : List FillCall) :
    Prop where
  mSync : s'.mSync = s.mSync
  map : s'.mOutputBufferMap = s.mOutputBufferMap
  header : ∀ p < s.count, s'.header p = s.header p
  handed : ∀ result data offset number_of_faces,
    s'.stage = .handed result data offset number_of_faces →
      s.stage = .handed result data offset number_of_faces ∧ result < s.count ∨
        s.mOutputBufferMap.find? data = some (s'.header result)
  custody : Custody.Moves about s.custody s'.custody new out events

namespace Moves

variable {s s' : FaceResults} {new : ℕ} {out : List ℕ} {events : List FillCall}

/-- The invariant is kept. -/
lemma wellFormed (hm : Moves s s' new out events) (h : WellFormed s) : WellFormed s' where
  async := hm.mSync.trans h.async
  headers := hm.map ▸ h.headers
  tracked := hm.custody.tracked h.tracked
  handed result data offset number_of_faces hstage := by
    rw [hm.map]
    rcases hm.handed result data offset number_of_faces hstage with ⟨hstage, hlt⟩ | hfind
    · rw [hm.header result hlt]
      exact h.handed result data offset number_of_faces hstage
    · exact hfind

/-- Whether the buffers are given back depends on the results that leave. -/
lemma buffers_iff (hm : Moves s s' new out events) (h : WellFormed s)
    (hb : s.custody.Accounted about s.FilledOnce) :
    s'.custody.Accounted about s'.FilledOnce ↔
      ∀ p ∈ out, s'.FilledOnce p (events.filter (about p)) := by
  refine hm.custody.accounted_iff h.tracked (fun p hp l => ?_) hb
  rw [FilledOnce, FilledOnce, hm.header p hp]

/-- A step that leaves the results where they are. -/
lemma stay (h : WellFormed s) (hsync : s'.mSync = s.mSync)
    (hmap : s'.mOutputBufferMap = s.mOutputBufferMap) (hheader : s'.header = s.header)
    (hstage : s'.stage = s.stage) (hcount : s'.count = s.count) (hfilled : s'.filled = s.filled) :
    Moves s s' 0 [] [] where
  mSync := hsync
  map := hmap
  header _ _ := by rw [hheader]
  handed result data offset number_of_faces hs' := by
    rw [hheader]
    exact Or.inr (h.handed result data offset number_of_faces (hstage ▸ hs'))
  custody := .stay hcount (by simp [FaceResults.custody, current, hstage]) hfilled

end Moves

/-- The commands leave the buffers alone. -/
lemma moves_control {s : FaceResults} (h : WellFormed s) (c : FaceDetection.Control) :
    Moves s (s.control c) 0 [] [] :=
  .stay h rfl rfl rfl rfl rfl rfl

/-- A filled buffer may be handed to `sendFaces`. -/
lemma moves_onFillBufferDone {s : FaceResults} (h : WellFormed s) (pBuffer : Ptr) (nOffset : ℕ)
    (number_of_faces : ℤ) :
    ∃ new, Moves s (s.onFillBufferDone pBuffer nOffset number_of_faces) new [] [] := by
  have hstay : Moves s s 0 [] [] := .stay h rfl rfl rfl rfl rfl rfl
  unfold onFillBufferDone
  cases hstage : s.stage with
  | handed result data offset n => exact ⟨0, hstay⟩
  | idle =>
    cases hfind : s.mOutputBufferMap.find? pBuffer with
    | none => exact ⟨0, hstay⟩
    | some pBufferHdr =>
      have htake : Moves s (s.take pBufferHdr) 0 [] [] := .stay h rfl rfl rfl rfl rfl rfl
      have hhand : Moves s ((s.take pBufferHdr).hand pBufferHdr pBuffer nOffset number_of_faces)
          1 [] [] := by
        refine ⟨rfl, rfl, fun p hp => ?_, fun result data offset n hs' => Or.inr ?_, rfl, ?_,
          by simp [custody, hand, take], fun _ _ => rfl⟩
        · exact Function.update_of_ne hp.ne _ _
        · obtain ⟨rfl, rfl, -, -⟩ := ResultStage.handed.inj hs'
          simpa [hand, take] using hfind
        · simp [custody, current, hstage, hand, take]
      by_cases hwith : pBufferHdr ∉ s.withComponent
      · exact ⟨0, by simpa only [if_pos hwith] using hstay⟩
      · by_cases hexec : s.detector.mComponentState ≠ .OMX_StateExecuting
        · exact ⟨0, by simpa only [if_neg hwith, if_pos hexec] using htake⟩
        · refine ⟨1, ?_⟩
          simpa only [if_neg hwith, if_neg hexec, h.async, Bool.false_eq_true, if_false] using hhand

/-! ### What `sendFaces` gives back -/

/-- The calls of `OMX_FillThisBuffer` of `cycleOutputBuffer`. -/
def fillCalls (s : FaceResults) (result : ℕ) (outbuf : Ptr) (answer : OMX_ERRORTYPE) :
    List FillCall :=
  match s.mOutputBufferMap.find? outbuf with
  | none => []
  | some pBufferHdr => if pBufferHdr = NULL then [] else [⟨result, pBufferHdr, answer⟩]

/-- The calls of `OMX_FillThisBuffer` of `sendFaces`. -/
def sendCalls (s : FaceResults) (result : ℕ) (data : Ptr) (offset : ℕ) (answer : OMX_ERRORTYPE) :
    List FillCall :=
  if s.active ∧ metadata data offset ≠ NULL then s.fillCalls result (metadata data offset) answer
  else []

/-- The fields that giving a buffer back may change. -/
structure Fills (s s' : FaceResults) (events : List FillCall) : Prop where
  mSync : s'.mSync = s.mSync
  map : s'.mOutputBufferMap = s.mOutputBufferMap
  header : s'.header = s.header
  count : s'.count = s.count
  filled : s'.filled = s.filled ++ events

/-- Nothing is given back. -/
lemma Fills.refl (s : FaceResults) : Fills s s [] := ⟨rfl, rfl, rfl, rfl, by simp⟩

/-- Telling the application gives nothing back. -/
lemma Fills.notify {s s' : FaceResults} {events : List FillCall} (h : Fills s s' events)
    (number_of_faces : ℤ) : Fills s (s'.notify number_of_faces) events :=
  ⟨h.mSync, h.map, h.header, h.count, h.filled⟩

/-- Neither does the end of `sendFaces`. -/
lemma Fills.finish {s s' : FaceResults} {events : List FillCall} (h : Fills s s' events) :
    Fills s s'.finish events :=
  ⟨h.mSync, h.map, h.header, h.count, h.filled⟩

/-- `freeImageData` in an Executing asynchronous detector makes the calls of
`cycleOutputBuffer`. -/
lemma fills_freeImageData {s : FaceResults} (hasync : s.mSync = false) (hexec : s.Executing)
    (result : ℕ) (buf : Ptr) (answer : OMX_ERRORTYPE) :
    Fills s (s.freeImageData result buf answer) (s.fillCalls result buf answer) := by
  have hstate : ¬ s.detector.mComponentState ≠ .OMX_StateExecuting := not_not.mpr hexec
  rw [freeImageData, if_neg hstate, if_pos hasync, cycleOutputBuffer, fillCalls]
  cases hfind : s.mOutputBufferMap.find? buf with
  | none => exact .refl s
  | some pBufferHdr =>
    dsimp only
    split_ifs
    · exact .refl s
    · exact ⟨rfl, rfl, rfl, rfl, rfl⟩

/-- The same for the step of `sendFaces` that frees the faces. -/
lemma fills_freeFaceDetectData {s : FaceResults} (hasync : s.mSync = false) (hexec : s.Executing)
    (result : ℕ) (frame_metadata : Ptr) (answer : OMX_ERRORTYPE) :
    Fills s (s.freeFaceDetectData result frame_metadata answer)
      (if frame_metadata ≠ NULL then s.fillCalls result frame_metadata answer else []) := by
  unfold freeFaceDetectData
  by_cases hnull : frame_metadata ≠ NULL
  · rw [if_pos hnull, if_pos hnull]
    exact fills_freeImageData hasync hexec result frame_metadata answer
  · rw [if_neg hnull, if_neg hnull]
    exact .refl s

/-- What `sendFaces` does to the fields of the buffers. -/
lemma fills_sendFaces {s : FaceResults} (hasync : s.mSync = false) (hexec : s.Executing)
    {result : ℕ} {data : Ptr} {offset : ℕ} {number_of_faces : ℤ}
    (hstage : s.stage = .handed result data offset number_of_faces) (faces faces_faces : Bool)
    (answer : OMX_ERRORTYPE) :
    Fills s (s.sendFaces faces faces_faces answer) (s.sendCalls result data offset answer) ∧
      (s.sendFaces faces faces_faces answer).stage = .idle := by
  unfold sendFaces sendCalls
  rw [hstage]
  dsimp only
  by_cases hactive : s.active = true
  · have hfree := fills_freeFaceDetectData hasync hexec result (metadata data offset) answer
    simp only [hactive, true_and, Bool.not_true, Bool.false_eq_true, if_false]
    cases faces with
    | false => exact ⟨hfree.finish, rfl⟩
    | true =>
      cases faces_faces with
      | false => exact ⟨hfree.finish, rfl⟩
      | true => exact ⟨(hfree.notify number_of_faces).finish, rfl⟩
  · rw [if_pos (by simp [hactive]), if_neg (fun h => hactive h.1)]
    exact ⟨⟨rfl, rfl, rfl, rfl, by simp [finish]⟩, rfl⟩

/-- The calls of `sendFaces` are about its result. -/
lemma about_of_mem_sendCalls {s : FaceResults} {result : ℕ} {data : Ptr} {offset : ℕ}
    {answer : OMX_ERRORTYPE} {c : FillCall} (hc : c ∈ s.sendCalls result data offset answer) :
    c.result = result := by
  unfold sendCalls fillCalls at hc
  split_ifs at hc
  · split at hc
    · exact absurd hc List.not_mem_nil
    · split_ifs at hc
      · exact absurd hc List.not_mem_nil
      · rw [List.mem_singleton.mp hc]
  · exact absurd hc List.not_mem_nil

/-- The faces lie at the start of their buffer exactly if their address is that of the buffer. -/
lemma metadata_eq_iff {data : ℕ} (hlt : data < 2 ^ 32) (offset : ℕ) :
    metadata data offset = data ↔ offset % 2 ^ 32 = 0 := by
  have hmod : (data + offset) % 2 ^ 32 = (data + offset % 2 ^ 32) % 2 ^ 32 :=
    (Nat.add_mod_mod data offset (2 ^ 32)).symm
  have hoffset : offset % 2 ^ 32 < 2 ^ 32 := Nat.mod_lt offset (by decide)
  rw [metadata, hmod]
  generalize offset % 2 ^ 32 = k at hoffset ⊢
  show (data + k) % 2 ^ 32 = data ↔ k = 0
  omega

/-- **`sendFaces` gives its buffer back exactly if it is careful.**

**Proof sketch.** It makes at most one call, on the header at the address of the faces. Headers
belong to one address, so it is the header of the result exactly if this is the address of the
buffer. -/
lemma sendCalls_eq_iff {s : FaceResults} (h : WellFormed s) {result : ℕ} {data : Ptr} {offset : ℕ}
    {number_of_faces : ℤ} (hstage : s.stage = .handed result data offset number_of_faces)
    (answer : OMX_ERRORTYPE) :
    s.sendCalls result data offset answer = [⟨result, s.header result, .OMX_ErrorNone⟩] ↔
      s.active ∧ offset % 2 ^ 32 = 0 ∧ answer = .OMX_ErrorNone := by
  have hfind := h.handed result data offset number_of_faces hstage
  obtain ⟨hdata, hheader⟩ := h.headers.ne_null hfind
  have haddress := metadata_eq_iff (h.headers.lt hfind) offset
  unfold sendCalls fillCalls
  constructor
  · intro heq
    split_ifs at heq with hactive
    · split at heq
      · exact absurd heq (by simp)
      · rename_i pBufferHdr hfind'
        split_ifs at heq
        simp only [List.cons.injEq, FillCall.mk.injEq, true_and, and_true] at heq
        obtain ⟨rfl, hanswer⟩ := heq
        exact ⟨hactive.1, haddress.mp (h.headers.injective hfind' hfind), hanswer⟩
  · rintro ⟨hactive, hoffset, rfl⟩
    have hmeta := haddress.mpr hoffset
    rw [hmeta, if_pos ⟨hactive, hdata⟩, hfind]
    dsimp only
    rw [if_neg hheader]

/-- `sendFaces` lets its result go with the calls that it makes. -/
lemma moves_sendFaces {s : FaceResults} (h : WellFormed s) (hexec : s.Executing)
    {result : ℕ} {data : Ptr} {offset : ℕ} {number_of_faces : ℤ}
    (hstage : s.stage = .handed result data offset number_of_faces) (faces faces_faces : Bool)
    (answer : OMX_ERRORTYPE) :
    Moves s (s.sendFaces faces faces_faces answer) 0 [result]
      (s.sendCalls result data offset answer) := by
  obtain ⟨hfills, hidle⟩ := fills_sendFaces h.async hexec hstage faces faces_faces answer
  refine ⟨hfills.mSync, hfills.map, fun p _ => by rw [hfills.header], ?_, hfills.count, ?_,
    hfills.filled, ?_⟩
  · intro result' data' offset' n' hs'
    rw [hidle] at hs'
    exact absurd hs' (by simp)
  · simp [custody, current, hstage, hidle]
  · intro p hp
    refine List.filter_eq_nil_iff.mpr fun c hc => ?_
    rw [about, about_of_mem_sendCalls hc, beq_iff_eq]
    intro heq
    exact hp (List.mem_singleton.mpr heq.symm)

/-! ### Faces -/

/-- No more faces are copied than fit, or than were reported. -/
lemma facenum_le (number_of_faces : ℤ) :
    facenum number_of_faces ≤ MAX_FD_HW_NUM ∧ facenum number_of_faces ≤ number_of_faces := by
  unfold facenum
  split_ifs with hgt <;> omega

/-- Giving a buffer back tells the application nothing. -/
lemma notified_freeFaceDetectData (s : FaceResults) (result : ℕ) (frame_metadata : Ptr)
    (answer : OMX_ERRORTYPE) :
    (s.freeFaceDetectData result frame_metadata answer).notified = s.notified := by
  unfold freeFaceDetectData freeImageData cycleOutputBuffer
  split_ifs
  · rfl
  · split
    · rfl
    · split_ifs <;> rfl
  · rfl
  · rfl

/-- The application is told of no faces, or of those that `sendFaces` copied. -/
lemma notified_step (s : FaceResults) (a : Action) :
    (s.step a).notified = s.notified ∨
      ∃ n, (s.step a).notified = s.notified ++ [(facenum n, n)] := by
  cases a with
  | control c => exact Or.inl rfl
  | onFillBufferDone pBuffer nOffset n =>
    refine Or.inl ?_
    simp only [step, onFillBufferDone]
    split
    · split_ifs <;> rfl
    · rfl
  | sendFaces faces faces_faces answer =>
    simp only [step, sendFaces]
    split
    · exact Or.inl rfl
    · rename_i result data offset n hstage
      have hfree := s.notified_freeFaceDetectData result (metadata data offset) answer
      split_ifs
      · exact Or.inl rfl
      · exact Or.inl hfree
      · exact Or.inl hfree
      · exact Or.inr ⟨n, by simp [finish, notify, hfree]⟩

/-- The bounds on the number of faces are kept by every step. -/
lemma faces_step {s : FaceResults}
    (h : ∀ n ∈ s.notified, n.1 ≤ MAX_FD_HW_NUM ∧ n.1 ≤ n.2) (a : Action) :
    ∀ n ∈ (s.step a).notified, n.1 ≤ MAX_FD_HW_NUM ∧ n.1 ≤ n.2 := by
  rcases s.notified_step a with heq | ⟨n, heq⟩
  · rwa [heq]
  · rw [heq]
    intro m hm
    rcases List.mem_append.mp hm with hm | hm
    · exact h m hm
    · rw [List.mem_singleton.mp hm]
      exact facenum_le n

/-! ### Runs -/

/-- A step, while the component is Executing: what leaves is given back exactly if the step is
careful. -/
lemma moves_step {s : FaceResults} (h : WellFormed s) (hexec : s.Executing) (a : Action) :
    ∃ new out events, Moves s (s.step a) new out events ∧
      ((∀ p ∈ out, (s.step a).FilledOnce p (events.filter (about p))) ↔ s.Careful a) := by
  cases a with
  | control c =>
    exact ⟨0, [], [], moves_control h c, fun _ => trivial, fun _ _ hp => absurd hp List.not_mem_nil⟩
  | onFillBufferDone pBuffer nOffset n =>
    obtain ⟨new, hm⟩ := moves_onFillBufferDone h pBuffer nOffset n
    exact ⟨new, [], [], hm, fun _ => trivial, fun _ _ hp => absurd hp List.not_mem_nil⟩
  | sendFaces faces faces_faces answer =>
    cases hstage : s.stage with
    | idle =>
      have hstay : s.step (.sendFaces faces faces_faces answer) = s := by
        simp only [step, sendFaces, hstage]
      rw [hstay]
      exact ⟨0, [], [], .stay h rfl rfl rfl rfl rfl rfl, fun _ _ _ _ _ hs => by simp [hstage] at hs,
        fun _ _ hp => absurd hp List.not_mem_nil⟩
    | handed result data offset n =>
      refine ⟨0, [result], _, moves_sendFaces h hexec hstage faces faces_faces answer, ?_⟩
      obtain ⟨hfills, -⟩ := fills_sendFaces h.async hexec hstage faces faces_faces answer
      have hcalls : (s.sendCalls result data offset answer).filter (about result) =
          s.sendCalls result data offset answer :=
        List.filter_eq_self.mpr fun c hc => by simp [about, about_of_mem_sendCalls hc]
      rw [List.forall_mem_singleton, hcalls, step, FilledOnce, hfills.header,
        sendCalls_eq_iff h hstage answer]
      constructor
      · intro hgood result' data' offset' n' hstage'
        obtain ⟨-, -, rfl, -⟩ := ResultStage.handed.inj (hstage.symm.trans hstage')
        exact hgood
      · intro hc
        exact hc result data offset n hstage

/-- The invariant is kept while the component is Executing. -/
lemma WellFormed.step {s : FaceResults} (h : WellFormed s) (hexec : s.Executing) (a : Action) :
    WellFormed (s.step a) := by
  obtain ⟨new, out, events, hm, -⟩ := moves_step h hexec a
  exact hm.wellFormed h

/-- A step keeps the buffers given back exactly if it is careful. -/
theorem givenBack_step_iff {s : FaceResults} (h : WellFormed s) (hexec : s.Executing)
    (hb : GivenBack s) (a : Action) : GivenBack (s.step a) ↔ s.Careful a := by
  obtain ⟨new, out, events, hm, hcareful⟩ := moves_step h hexec a
  rw [← hcareful, ← hm.buffers_iff h hb.buffers]
  exact ⟨fun hb' => hb'.buffers, fun hbuffers => ⟨hbuffers, faces_step hb.faces a⟩⟩

/-- **Face detection gives its result buffers back exactly if its steps are careful.** In a run
that starts before the first result and in which the component stays Executing, every buffer that
was handed to `sendFaces` is still in it or was given back once on its own header, and the bounds on
the number of faces hold, throughout the run, if and only if whenever `sendFaces` tests the flags
they allow the detection, the result lies at the start of its buffer, and the component accepts the
buffer.

**Proof sketch.** A result leaves custody at the end of `sendFaces`, with at most one call; that
call is the one it should have exactly if the step is careful. -/
theorem always_givenBack_iff {s : FaceResults} (h : Ready s) (run : List Action)
    (hexec : StepRun.Along step (fun s _ => s.Executing) s run) :
    StepRun.Always step GivenBack s run ↔ StepRun.Along step Careful s run :=
  StepRun.always_iff_along_of_along (J := WellFormed) (fun _ a hs hd => hs.step hd a)
    (fun _ a hs hd hb => givenBack_step_iff hs hd hb a) h.wellFormed h.givenBack hexec

/-- The detector Executing with two output buffers, both with the component. -/
def twoBuffers : FaceResults where
  maxFaces := 4
  mFaceDetectionRunning := true
  mFaceDetectionPaused := false
  subscribed := true
  detector := ⟨.OMX_StateExecuting, ∅⟩
  command := .idle
  mSync := false
  mOutputBufferMap := (KeyedVector.add ∅ 4096 16).add 8192 17
  withComponent := [16, 17]
  stage := .idle
  count := 0
  header := fun _ => 0
  filled := []
  notified := []

/-- The detector with two buffers is ready. -/
lemma ready_twoBuffers : Ready twoBuffers := by
  have hfind : ∀ {out pBufferHdr}, twoBuffers.mOutputBufferMap.find? out = some pBufferHdr →
      out = 4096 ∧ pBufferHdr = 16 ∨ out = 8192 ∧ pBufferHdr = 17 := by
    intro out pBufferHdr h
    simp only [twoBuffers, KeyedVector.find?_add, KeyedVector.find?_empty] at h
    split_ifs at h with h1 h2
    · exact Or.inr ⟨h1, (Option.some.inj h).symm⟩
    · exact Or.inl ⟨h2, (Option.some.inj h).symm⟩
  refine ⟨rfl, ⟨fun h => ?_, fun h => ?_, fun h h' => ?_⟩, rfl, rfl, rfl, rfl⟩
  · rcases hfind h with ⟨rfl, rfl⟩ | ⟨rfl, rfl⟩ <;> decide
  · rcases hfind h with ⟨rfl, rfl⟩ | ⟨rfl, rfl⟩ <;> decide
  · rcases hfind h with ⟨rfl, rfl⟩ | ⟨rfl, rfl⟩ <;> rcases hfind h' with ⟨rfl, h'⟩ | ⟨rfl, h'⟩
    · rfl
    · exact absurd h' (by decide)
    · exact absurd h' (by decide)
    · rfl

/-- Forty faces are reported, and the application is told of thirty-two. -/
theorem always_givenBack_fortyFaces :
    StepRun.Always step GivenBack twoBuffers
      [.onFillBufferDone 4096 0 40, .sendFaces true true .OMX_ErrorNone] := by
  have hexec : StepRun.Along step (fun s _ => s.Executing) twoBuffers
      [.onFillBufferDone 4096 0 40, .sendFaces true true .OMX_ErrorNone] := ⟨rfl, rfl, trivial⟩
  refine (always_givenBack_iff ready_twoBuffers _ hexec).mpr ⟨trivial, ?_, trivial⟩
  intro result data offset n hstage
  cases hstage
  exact ⟨rfl, rfl, rfl⟩

/-- The detection is paused before the flags are tested, and the buffer stays with the detector's
client. -/
theorem not_always_givenBack_paused :
    ¬ ∀ (s : FaceResults) (run : List Action), Ready s →
      StepRun.Along step (fun s _ => s.Executing) s run → StepRun.Always step GivenBack s run := by
  intro hall
  have hback := (hall twoBuffers
    [.onFillBufferDone 4096 0 1, .control (.pauseFaceDetection true),
      .sendFaces true true .OMX_ErrorNone] ready_twoBuffers ⟨rfl, rfl, rfl, trivial⟩).last.buffers
  rcases hback 0 (by decide) with hheld | hfilled
  · exact absurd hheld (by decide)
  · exact absurd hfilled (show ([] : List FillCall) ≠ [⟨0, 16, .OMX_ErrorNone⟩] by decide)

end FaceResults

end CameraHal
