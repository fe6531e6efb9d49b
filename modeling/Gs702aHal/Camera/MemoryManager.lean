import Mathlib.Data.List.TakeWhile
import Gs702aHal.Camera.Types
import Gs702aHal.Lib.KeyedVector
import Gs702aHal.Lib.StepRun

set_option relaxedAutoImplicit false
set_option autoImplicit false

/-!
# The memory manager

`MemoryManager` allocates arrays of ION buffers. For every buffer it keeps the handle, the file
descriptor of the mapping, the length and the physical address in four vectors, under the address
that the buffer is mapped at. All buffers share one descriptor of the ION device, which is opened
with the first buffer and closed with the last one. What the ION library returns is part of a call;
the addresses that it maps are not zero and not mapped already.

## Main definitions

* `CameraHal.MemoryManager.allocateBuffer`, `CameraHal.MemoryManager.freeBuffer`,
  `CameraHal.MemoryManager.getPhys` — the functions. A lookup of a missing key aborts the process,
  which is no result.
* `CameraHal.MemoryManager.Fresh` — the mappings of a call are distinct and not in use.
* `CameraHal.MemoryManager.CleanFailure` — a failing call releases its own buffers and leaves the
  other ones usable.
* `CameraHal.MemoryRun` — the manager and the arrays that its callers hold.
* `CameraHal.MemoryRun.Sound` — the four vectors have the live buffers as keys.

## Main results

* `CameraHal.MemoryManager.freeEntries_eq` — what freeing an array does.
* `CameraHal.MemoryManager.cleanFailure_iff` — which failures are clean.
* `CameraHal.MemoryRun.always_soundMemory_iff` — the vectors are sound throughout a run exactly if
  no step frees a buffer.
-/

namespace CameraHal

open Status

/-- What the manager does besides its own tables. -/
inductive MemoryCall
  | munmap (ptr : Ptr) (length : ℕ)
  | close (fd : ℕ)
  | ion_free (fd : ℤ) (handle : ℕ)
  | ion_close (fd : ℤ)
  | errorNotify (error : Status)
  deriving DecidableEq, Repr

/-- The calls that release a buffer. -/
def MemoryCall.isRelease : MemoryCall → Bool
  | .munmap .. | .close _ | .ion_free .. => true
  | .ion_close _ | .errorNotify _ => false

/-- A buffer that was allocated, mapped and looked up. -/
structure IonBuffer where
  handle : ℕ
  ptr : Ptr
  mmap_fd : ℕ
  phy : ℕ
  deriving DecidableEq, Repr

/-- Where the allocation of a buffer fails. A failing `ion_map` may leave an address (`MAP_FAILED`)
in the array, or leave it zero. -/
inductive IonFailure
  | ion_alloc
  | ion_map (handle : ℕ) (left : Ptr)
  | ion_phys (buffer : IonBuffer)
  deriving DecidableEq, Repr

/-- A call of `allocateBuffer` with what it is answered: the result of `ion_open`, should it be
called, whether there is no memory for the array, and the results for the `numBufs` buffers. -/
structure AllocateCall where
  bytes : BitVec 32
  ion_open : ℤ
  newFails : Bool
  results : List (Except IonFailure IonBuffer)

/-- The fields of `MemoryManager`, and the calls that it has made. -/
structure MemoryManager where
  mErrorNotifier : Bool := false
  mIonFd : ℤ := -1
  mIonHandleMap : KeyedVector Ptr ℕ := ∅
  mIonFdMap : KeyedVector Ptr ℕ := ∅
  mIonBufLength : KeyedVector Ptr ℕ := ∅
  mIonBufPhyMap : KeyedVector Ptr ℕ := ∅
  calls : List MemoryCall := []

namespace MemoryManager

/-- Make calls. -/
def log (m : MemoryManager) (calls : List MemoryCall) : MemoryManager :=
  { m with calls := m.calls ++ calls }

/-- Close the device, if it is open. -/
def closeDevice (m : MemoryManager) : MemoryManager :=
  if 0 ≤ m.mIonFd then { m.log [.ion_close m.mIonFd] with mIonFd := -1 } else m

/-- Enter a buffer into the tables. -/
def addBuffer (bytes : BitVec 32) (m : MemoryManager) (b : IonBuffer) : MemoryManager :=
  { m with
    mIonHandleMap := m.mIonHandleMap.add b.ptr b.handle
    mIonFdMap := m.mIonFdMap.add b.ptr b.mmap_fd
    mIonBufLength := m.mIonBufLength.add b.ptr bytes.toNat
    mIonBufPhyMap := m.mIonBufPhyMap.add b.ptr b.phy }

/-- The loop of `allocateBuffer`. An array is given by the entries that were set, the others are
zero; the flag tells whether all buffers were allocated. -/
def allocateLoop (bytes : BitVec 32) :
    List (Except IonFailure IonBuffer) → MemoryManager → List Ptr → MemoryManager × List Ptr × Bool
  | [], m, bufsArr => (m, bufsArr, true)
  | .ok b :: rest, m, bufsArr => allocateLoop bytes rest (addBuffer bytes m b) (bufsArr ++ [b.ptr])
  | .error .ion_alloc :: _, m, bufsArr => (m, bufsArr, false)
  | .error (.ion_map handle left) :: _, m, bufsArr =>
    (m.log [.ion_free m.mIonFd handle], bufsArr ++ [left], false)
  | .error (.ion_phys b) :: _, m, bufsArr =>
    (m.log [.munmap b.ptr bytes.toNat, .ion_free m.mIonFd b.handle], bufsArr ++ [b.ptr], false)

/-- The loop of `freeBuffer` over the entries before the first zero. `valueFor` aborts on a missing
key. -/
def freeEntries : List Ptr → MemoryManager → Option MemoryManager
  | [], m => some m
  | ptr :: rest, m => do
    let length ← m.mIonBufLength.find? ptr
    if length ≠ 0 then
      let fd ← m.mIonFdMap.find? ptr
      let handle ← m.mIonHandleMap.find? ptr
      let m := m.log [.munmap ptr length, .close fd, .ion_free m.mIonFd handle]
      freeEntries rest { m with
        mIonHandleMap := m.mIonHandleMap.removeItem ptr
        mIonBufLength := m.mIonBufLength.removeItem ptr
        mIonFdMap := m.mIonFdMap.removeItem ptr }
    else freeEntries rest m

/-- The entries of an array before the first zero. -/
def entries (bufsArr : List Ptr) : List Ptr := bufsArr.takeWhile (· ≠ NULL)

/-- `freeBuffer`. -/
def freeBuffer (m : MemoryManager) (buf : Option (List Ptr)) : Option (Status × MemoryManager) :=
  match buf with
  | none => some (BAD_VALUE, m)
  | some bufsArr => do
    let m ← freeEntries (entries bufsArr) m
    some (NO_ERROR, if m.mIonBufLength.size = 0 then m.closeDevice else m)

/-- The end of `allocateBuffer` after an error. -/
def allocateError (m : MemoryManager) : MemoryManager :=
  (if m.mErrorNotifier then m.log [.errorNotify NO_MEMORY] else m).closeDevice

/-- The device is opened if it is not. -/
def openDevice (m : MemoryManager) (ion_open : ℤ) : MemoryManager :=
  if m.mIonFd < 0 then { m with mIonFd := ion_open } else m

/-- `allocateBuffer`. The array is `none` for `NULL`. -/
def allocateBuffer (m : MemoryManager) (call : AllocateCall) :
    Option (Option (List Ptr) × MemoryManager) :=
  let m := m.openDevice call.ion_open
  if m.mIonFd < 0 then some (none, m)
  else if call.newFails then some (none, m.allocateError)
  else if call.bytes ≠ 0 then
    match allocateLoop call.bytes call.results m [] with
    | (m, bufsArr, true) => some (some bufsArr, m)
    | (m, bufsArr, false) => do
      let (_, m) ← m.freeBuffer (some bufsArr)
      some (none, m.allocateError)
  else some (some (call.results.map fun _ => NULL), m)

/-- `getPhys`. -/
def getPhys (m : MemoryManager) (buf : Ptr) : Ptr := (m.mIonBufPhyMap.find? buf).getD NULL

/-! ### The parts of a call -/

/-- The buffers of a call before the first failure. -/
def own : List (Except IonFailure IonBuffer) → List IonBuffer
  | .ok b :: rest => b :: own rest
  | _ => []

/-- The first failure. -/
def failure : List (Except IonFailure IonBuffer) → Option IonFailure
  | [] => none
  | .ok _ :: rest => failure rest
  | .error f :: _ => some f

/-- What a failure leaves in the array. -/
def leftEntries : IonFailure → List Ptr
  | .ion_alloc => []
  | .ion_map _ left => [left]
  | .ion_phys b => [b.ptr]

/-- The calls that follow a failure at once. -/
def failureCalls (bytes : BitVec 32) (fd : ℤ) : IonFailure → List MemoryCall
  | .ion_alloc => []
  | .ion_map handle _ => [.ion_free fd handle]
  | .ion_phys b => [.munmap b.ptr bytes.toNat, .ion_free fd b.handle]

/-- Enter buffers into the tables. -/
def addBuffers (bytes : BitVec 32) (m : MemoryManager) (bs : List IonBuffer) : MemoryManager :=
  { m with
    mIonHandleMap := m.mIonHandleMap.addAll (bs.map fun b => (b.ptr, b.handle))
    mIonFdMap := m.mIonFdMap.addAll (bs.map fun b => (b.ptr, b.mmap_fd))
    mIonBufLength := m.mIonBufLength.addAll (bs.map fun b => (b.ptr, bytes.toNat))
    mIonBufPhyMap := m.mIonBufPhyMap.addAll (bs.map fun b => (b.ptr, b.phy)) }

/-- The loop enters the buffers before the first failure, whose remains it leaves in the array. -/
lemma allocateLoop_eq (bytes : BitVec 32) (results : List (Except IonFailure IonBuffer))
    (m : MemoryManager) (bufsArr : List Ptr) :
    allocateLoop bytes results m bufsArr =
      match failure results with
      | none => (addBuffers bytes m (own results), bufsArr ++ (own results).map (·.ptr), true)
      | some f =>
        ((addBuffers bytes m (own results)).log (failureCalls bytes m.mIonFd f),
          bufsArr ++ ((own results).map (·.ptr) ++ leftEntries f), false) := by
  induction results generalizing m bufsArr with
  | nil =>
    show (m, bufsArr, true) = (m, bufsArr ++ [], true)
    rw [List.append_nil]
  | cons r rest ih =>
    cases r with
    | ok b =>
      show allocateLoop bytes rest (addBuffer bytes m b) (bufsArr ++ [b.ptr]) = _
      rw [ih]
      cases hf : failure rest <;> simp only [failure, hf, own, List.map_cons, List.append_assoc,
        List.cons_append, List.nil_append] <;> rfl
    | error f => cases f <;> simp [allocateLoop, failure, own, addBuffers, leftEntries,
        failureCalls, log, KeyedVector.addAll]

/-! ### Freeing -/

/-- The table of lengths lacks a buffer. -/
def Lacks (m : MemoryManager) (ptr : Ptr) : Prop := m.mIonBufLength.find? ptr = none

/-- A buffer is in the tables that `freeBuffer` consults, with a length. -/
structure Holds (m : MemoryManager) (length : ℕ) (b : IonBuffer) : Prop where
  handle : m.mIonHandleMap.find? b.ptr = some b.handle
  fd : m.mIonFdMap.find? b.ptr = some b.mmap_fd
  length : m.mIonBufLength.find? b.ptr = some length

/-- What `freeBuffer` calls for a buffer. -/
def release (length : ℕ) (fd : ℤ) (b : IonBuffer) : List MemoryCall :=
  [.munmap b.ptr length, .close b.mmap_fd, .ion_free fd b.handle]

/-- Forget an entry that was freed. -/
def forget (m : MemoryManager) (ptr : Ptr) : MemoryManager :=
  { m with
    mIonHandleMap := m.mIonHandleMap.removeItem ptr
    mIonBufLength := m.mIonBufLength.removeItem ptr
    mIonFdMap := m.mIonFdMap.removeItem ptr }

/-- One entry that is in the tables. -/
lemma freeEntries_cons_of_holds {m : MemoryManager} {length : ℕ} {b : IonBuffer}
    (h : m.Holds length b) (hlength : length ≠ 0) (rest : List Ptr) :
    freeEntries (b.ptr :: rest) m =
      freeEntries rest ((m.log (release length m.mIonFd b)).forget b.ptr) := by
  show (m.mIonBufLength.find? b.ptr).bind _ = _
  rw [h.length, Option.bind_some, if_pos hlength, h.fd, h.handle]
  rfl

/-- One entry that was freed before, or never allocated. -/
lemma freeEntries_cons_of_lacks {m : MemoryManager} {ptr : Ptr} (h : m.Lacks ptr)
    (rest : List Ptr) : freeEntries (ptr :: rest) m = none := by
  show (m.mIonBufLength.find? ptr).bind _ = none
  rw [h, Option.bind_none]

/-- What one entry of a loop that returns does: with no length it is skipped, else forgotten. -/
lemma freeEntries_cons_eq_some {m m' : MemoryManager} {ptr : Ptr} {rest : List Ptr}
    (h : freeEntries (ptr :: rest) m = some m') :
    (m.mIonBufLength.find? ptr = some 0 ∧ freeEntries rest m = some m') ∨
      ∃ calls, freeEntries rest ((m.log calls).forget ptr) = some m' := by
  cases hlength : m.mIonBufLength.find? ptr with
  | none =>
    rw [freeEntries_cons_of_lacks hlength] at h
    cases h
  | some length =>
    simp only [freeEntries, hlength, Option.bind_eq_bind, Option.bind_some] at h
    split_ifs at h with hzero
    · obtain ⟨fd, -, h⟩ := Option.bind_eq_some_iff.mp h
      obtain ⟨handle, -, h⟩ := Option.bind_eq_some_iff.mp h
      exact Or.inr ⟨_, h⟩
    · rw [not_not] at hzero
      exact Or.inl ⟨by rw [hzero], h⟩

/-- Arrays are freed one part after the other. -/
lemma freeEntries_append (l l' : List Ptr) (m : MemoryManager) :
    freeEntries (l ++ l') m = (freeEntries l m).bind (freeEntries l') := by
  induction l generalizing m with
  | nil => rfl
  | cons ptr rest ih =>
    simp only [List.cons_append, freeEntries, Option.bind_eq_bind, Option.bind_assoc]
    congr 1
    funext length
    split_ifs
    · simp only [Option.bind_assoc]
      congr 1
      funext fd
      congr 1
      funext handle
      exact ih _
    · exact ih m

/-- The loop over entries leaves the physical addresses and the descriptor, and enters nothing. -/
lemma freeEntries_frame {l : List Ptr} {m m' : MemoryManager} (h : freeEntries l m = some m') :
    m'.mIonBufPhyMap = m.mIonBufPhyMap ∧ m'.mIonFd = m.mIonFd ∧
      (∀ ptr n, m'.mIonBufLength.find? ptr = some n → m.mIonBufLength.find? ptr = some n) ∧
        ∀ ptr, m.mIonHandleMap.find? ptr = none → m'.mIonHandleMap.find? ptr = none := by
  induction l generalizing m with
  | nil =>
    obtain rfl := Option.some.inj h
    exact ⟨rfl, rfl, fun _ _ h => h, fun _ h => h⟩
  | cons ptr rest ih =>
    rcases freeEntries_cons_eq_some h with ⟨-, h⟩ | ⟨calls, h⟩
    · exact ih h
    · obtain ⟨hphy, hfd, hlength, hhandle⟩ := ih h
      refine ⟨hphy, hfd, fun k n hk => ?_, fun k hk => hhandle k ?_⟩
      · have hfind := hlength k n hk
        simp only [forget, log, KeyedVector.find?_removeItem] at hfind
        split_ifs at hfind
        exact hfind
      · simp only [forget, log, KeyedVector.find?_removeItem]
        split_ifs
        · rfl
        · exact hk

/-- The loop over entries forgets the handle of every entry with a length. -/
lemma freeEntries_handle {l : List Ptr} {m m' : MemoryManager}
    (hlen : ∀ ptr, m.mIonBufLength.find? ptr ≠ some 0) (h : freeEntries l m = some m') {ptr : Ptr}
    (hmem : ptr ∈ l) : m'.mIonHandleMap.find? ptr = none := by
  induction l generalizing m with
  | nil => cases hmem
  | cons p rest ih =>
    rcases freeEntries_cons_eq_some h with ⟨hzero, -⟩ | ⟨calls, h⟩
    · exact absurd hzero (hlen p)
    · rcases List.mem_cons.mp hmem with rfl | hmem
      · refine (freeEntries_frame h).2.2.2 ptr ?_
        simp only [forget, KeyedVector.find?_removeItem, if_pos]
      · refine ih (fun k hk => ?_) h hmem
        simp only [forget, log, KeyedVector.find?_removeItem] at hk
        split_ifs at hk
        exact hlen k hk

/-- An array with an entry that is not in the tables is not freed. -/
lemma freeEntries_of_lacks {l l' : List Ptr} {m : MemoryManager} {ptr : Ptr} (h : m.Lacks ptr) :
    freeEntries (l ++ ptr :: l') m = none := by
  rw [freeEntries_append]
  cases hl : freeEntries l m with
  | none => rfl
  | some m' =>
    refine freeEntries_cons_of_lacks (Option.eq_none_iff_forall_ne_some.mpr fun n hn => ?_) l'
    have hfind := (freeEntries_frame hl).2.2.1 ptr n hn
    rw [h] at hfind
    cases hfind

/-- Releases are releases. -/
lemma filter_release (length : ℕ) (fd : ℤ) (bs : List IonBuffer) :
    (bs.flatMap (release length fd)).filter MemoryCall.isRelease =
      bs.flatMap (release length fd) := by
  rw [List.filter_eq_self]
  intro call hcall
  obtain ⟨b, -, hb⟩ := List.mem_flatMap.mp hcall
  simp only [release, List.mem_cons, List.not_mem_nil, or_false] at hb
  rcases hb with rfl | rfl | rfl <;> rfl

/-- The manager after freeing an array. -/
def freed (m : MemoryManager) (length : ℕ) (bs : List IonBuffer) : MemoryManager :=
  { m with
    mIonHandleMap := m.mIonHandleMap.removeAll (bs.map (·.ptr))
    mIonFdMap := m.mIonFdMap.removeAll (bs.map (·.ptr))
    mIonBufLength := m.mIonBufLength.removeAll (bs.map (·.ptr))
    calls := m.calls ++ bs.flatMap (release length m.mIonFd) }

/-- **Freeing an array.** If its buffers are distinct and in the tables with a length, they are
released one by one and forgotten by three of the four vectors.

**Proof sketch.** Induction on the buffers. Releasing the first one leaves the entries of the
other ones, whose addresses differ. -/
theorem freeEntries_eq {bs : List IonBuffer} {m : MemoryManager} {length : ℕ}
    (hlength : length ≠ 0) (hnodup : (bs.map (·.ptr)).Nodup) (h : ∀ b ∈ bs, m.Holds length b) :
    freeEntries (bs.map (·.ptr)) m = some (m.freed length bs) := by
  induction bs generalizing m with
  | nil =>
    show some m = some { m with calls := m.calls ++ [] }
    rw [List.append_nil]
  | cons b rest ih =>
    rw [List.map_cons, List.nodup_cons] at hnodup
    rw [List.map_cons, freeEntries_cons_of_holds (h b List.mem_cons_self) hlength, ih hnodup.2]
    · unfold freed
      rw [List.flatMap_cons, ← List.append_assoc]
      rfl
    · intro b' hb'
      have hne : b'.ptr ≠ b.ptr := fun heq => hnodup.1 (heq ▸ List.mem_map_of_mem hb')
      obtain ⟨hhandle, hfd, hlen⟩ := h b' (List.mem_cons_of_mem b hb')
      constructor
      · rwa [forget, KeyedVector.find?_removeItem, if_neg hne]
      · rwa [forget, KeyedVector.find?_removeItem, if_neg hne]
      · rwa [forget, KeyedVector.find?_removeItem, if_neg hne]

/-! ### Allocating -/

/-- The four vectors. -/
def tables (m : MemoryManager) :
    KeyedVector Ptr ℕ × KeyedVector Ptr ℕ × KeyedVector Ptr ℕ × KeyedVector Ptr ℕ :=
  (m.mIonHandleMap, m.mIonFdMap, m.mIonBufLength, m.mIonBufPhyMap)

/-- Equal tables are equal one by one. -/
lemma tables_inj {m m' : MemoryManager} (h : m'.tables = m.tables) :
    m'.mIonHandleMap = m.mIonHandleMap ∧ m'.mIonFdMap = m.mIonFdMap ∧
      m'.mIonBufLength = m.mIonBufLength ∧ m'.mIonBufPhyMap = m.mIonBufPhyMap :=
  ⟨congrArg (fun t => t.1) h, congrArg (fun t => t.2.1) h, congrArg (fun t => t.2.2.1) h,
    congrArg (fun t => t.2.2.2) h⟩

/-- The loop of `allocateBuffer` is reached. -/
def Begun (m : MemoryManager) (call : AllocateCall) : Prop :=
  0 ≤ (m.openDevice call.ion_open).mIonFd ∧ call.newFails = false ∧ call.bytes ≠ 0

instance (m : MemoryManager) (call : AllocateCall) : Decidable (m.Begun call) :=
  inferInstanceAs (Decidable (_ ∧ _ ∧ _))

/-- Closing the device leaves it closed. -/
lemma closeDevice_mIonFd (m : MemoryManager) : m.closeDevice.mIonFd < 0 := by
  unfold closeDevice
  split_ifs with h
  · show (-1 : ℤ) < 0
    decide
  · exact not_le.mp h

/-- Closing the device leaves the tables. -/
@[simp] lemma tables_closeDevice (m : MemoryManager) : m.closeDevice.tables = m.tables := by
  unfold closeDevice
  split_ifs <;> rfl

/-- Opening the device leaves the tables. -/
@[simp] lemma tables_openDevice (m : MemoryManager) (fd : ℤ) :
    (m.openDevice fd).tables = m.tables := by
  unfold openDevice
  split_ifs <;> rfl

/-- The report of an error leaves the tables. -/
@[simp] lemma tables_allocateError (m : MemoryManager) : m.allocateError.tables = m.tables := by
  rw [allocateError, tables_closeDevice]
  split_ifs <;> rfl

/-- Opening the device releases nothing. -/
@[simp] lemma openDevice_calls (m : MemoryManager) (fd : ℤ) :
    (m.openDevice fd).calls = m.calls := by
  unfold openDevice
  split_ifs <;> rfl

/-- Zero entries end an array. -/
lemma entries_append {l l' : List Ptr} (h : ∀ ptr ∈ l, ptr ≠ NULL) :
    entries (l ++ l') = l ++ entries l' :=
  List.takeWhile_append_of_pos fun ptr hptr => decide_eq_true (h ptr hptr)

/-- An array without zero entries. -/
lemma entries_of_ne {l : List Ptr} (h : ∀ ptr ∈ l, ptr ≠ NULL) : entries l = l :=
  List.takeWhile_eq_self_iff.mpr fun ptr hptr => decide_eq_true (h ptr hptr)

/-- A call that does not reach the loop leaves the tables, and its array is empty. -/
lemma allocateBuffer_of_not_begun {m : MemoryManager} {call : AllocateCall}
    (h : ¬ m.Begun call) :
    ∃ bufsArr m', m.allocateBuffer call = some (bufsArr, m') ∧ m'.tables = m.tables ∧
      ∀ l, bufsArr = some l → entries l = [] := by
  unfold allocateBuffer
  simp only
  split_ifs with hopen hnew hbytes
  · exact ⟨_, _, rfl, tables_openDevice m _, fun l hl => by cases hl⟩
  · refine ⟨_, _, rfl, ?_, fun l hl => by cases hl⟩
    rw [tables_allocateError, tables_openDevice]
  · exact absurd ⟨not_lt.mp hopen, Bool.eq_false_iff.mpr hnew, hbytes⟩ h
  · refine ⟨_, _, rfl, tables_openDevice m _, fun l hl => ?_⟩
    obtain rfl := Option.some.inj hl
    cases call.results <;> rfl

/-- A call without a failure enters its buffers. -/
lemma allocateBuffer_of_none {m : MemoryManager} {call : AllocateCall} (h : m.Begun call)
    (hf : failure call.results = none) :
    m.allocateBuffer call = some (some ((own call.results).map (·.ptr)),
      addBuffers call.bytes (m.openDevice call.ion_open) (own call.results)) := by
  obtain ⟨hopen, hnew, hbytes⟩ := h
  simp only [allocateBuffer, if_neg (not_lt.mpr hopen), hnew, Bool.false_eq_true, if_false,
    if_pos hbytes, allocateLoop_eq, hf, List.nil_append]

/-- The state in which a failing call frees its array. -/
def failed (m : MemoryManager) (call : AllocateCall) (f : IonFailure) : MemoryManager :=
  (addBuffers call.bytes (m.openDevice call.ion_open) (own call.results)).log
    (failureCalls call.bytes (m.openDevice call.ion_open).mIonFd f)

/-- A call with a failure frees its array and closes the device. -/
lemma allocateBuffer_of_some {m : MemoryManager} {call : AllocateCall} {f : IonFailure}
    (h : m.Begun call) (hf : failure call.results = some f) :
    m.allocateBuffer call =
      ((m.failed call f).freeBuffer (some ((own call.results).map (·.ptr) ++ leftEntries f))).map
        fun r => (none, r.2.allocateError) := by
  obtain ⟨hopen, hnew, hbytes⟩ := h
  simp only [allocateBuffer, if_neg (not_lt.mpr hopen), hnew, Bool.false_eq_true, if_false,
    if_pos hbytes, allocateLoop_eq, hf, List.nil_append]
  exact Option.map_eq_bind.symm

/-- The addresses that a call is given, those of `MAP_FAILED` included. -/
def given (results : List (Except IonFailure IonBuffer)) : List Ptr :=
  (own results).map (·.ptr) ++ (failure results).elim [] fun f => entries (leftEntries f)

/-- What the documentation of the mapping promises: the addresses of a call are distinct and none
is in use, and mapped buffers are not at zero. -/
structure Fresh (live : Ptr → Prop) (results : List (Except IonFailure IonBuffer)) : Prop where
  nodup : (given results).Nodup
  notLive : ∀ ptr ∈ given results, ¬ live ptr
  own_ne : ∀ b ∈ own results, b.ptr ≠ NULL
  phys_ne : ∀ b, failure results = some (.ion_phys b) → b.ptr ≠ NULL

/-- The failures after which the array holds no address that was not entered. -/
def Harmless : IonFailure → Prop
  | .ion_alloc => True
  | .ion_map _ left => left = NULL
  | .ion_phys _ => False

/-- A fresh failure is harmless exactly if it leaves no entry. -/
lemma entries_leftEntries {live : Ptr → Prop} {results : List (Except IonFailure IonBuffer)}
    (hfresh : Fresh live results) {f : IonFailure} (hf : failure results = some f) :
    (Harmless f ∧ entries (leftEntries f) = []) ∨
      ¬ Harmless f ∧ ∃ ptr, entries (leftEntries f) = [ptr] := by
  cases f with
  | ion_alloc => exact Or.inl ⟨trivial, rfl⟩
  | ion_map handle left =>
    by_cases hleft : left = NULL
    · subst hleft
      exact Or.inl ⟨rfl, rfl⟩
    · refine Or.inr ⟨hleft, left, entries_of_ne fun ptr hptr => ?_⟩
      rwa [List.mem_singleton.mp hptr]
  | ion_phys b =>
    refine Or.inr ⟨id, b.ptr, entries_of_ne fun ptr hptr => ?_⟩
    rw [List.mem_singleton.mp hptr]
    exact hfresh.phys_ne b hf

/-- The entries of the array of a failing call. -/
lemma entries_failed {live : Ptr → Prop} {results : List (Except IonFailure IonBuffer)}
    (hfresh : Fresh live results) {f : IonFailure} (hf : failure results = some f) :
    entries ((own results).map (·.ptr) ++ leftEntries f) = given results := by
  rw [given, hf, Option.elim_some]
  refine entries_append fun ptr hptr => ?_
  obtain ⟨b, hb, rfl⟩ := List.mem_map.mp hptr
  exact hfresh.own_ne b hb

/-! ### Failing calls -/

/-- A buffer is allocated and not freed. -/
def Live (m : MemoryManager) (ptr : Ptr) : Prop := (m.mIonBufLength.find? ptr).isSome

/-- A call that returns no array. -/
def Fails (m : MemoryManager) (call : AllocateCall) : Prop :=
  (m.openDevice call.ion_open).mIonFd < 0 ∨ call.newFails = true ∨
    (m.Begun call ∧ (failure call.results).isSome)

/-- What a buffer that failed had already, to be released. -/
def failedReleases (bytes : BitVec 32) (fd : ℤ) : IonFailure → List MemoryCall
  | .ion_alloc => []
  | .ion_map handle _ => [.ion_free fd handle]
  | .ion_phys b => release bytes.toNat fd b

/-- The releases of what a failing call has obtained. -/
def obtained (m : MemoryManager) (call : AllocateCall) : List MemoryCall :=
  let fd := (m.openDevice call.ion_open).mIonFd
  if m.Begun call then
    (own call.results).flatMap (release call.bytes.toNat fd) ++
      (failure call.results).elim [] (failedReleases call.bytes fd)
  else []

/-- A failing call returns `NULL`, releases what it has obtained, each once, and nothing else, and
leaves the live buffers in the tables and their device open. -/
def CleanFailure (m : MemoryManager) (call : AllocateCall) : Prop :=
  ∃ m' calls, m.allocateBuffer call = some (none, m') ∧ m'.calls = m.calls ++ calls ∧
    (calls.filter MemoryCall.isRelease).Perm (m.obtained call) ∧
      ∀ ptr, m.Live ptr →
        m'.mIonHandleMap.find? ptr = m.mIonHandleMap.find? ptr ∧
        m'.mIonFdMap.find? ptr = m.mIonFdMap.find? ptr ∧
        m'.mIonBufLength.find? ptr = m.mIonBufLength.find? ptr ∧
        m'.mIonBufPhyMap.find? ptr = m.mIonBufPhyMap.find? ptr ∧
        m'.mIonFd = m.mIonFd ∧ ∀ fd, .ion_close fd ∉ calls

/-- Calls were made that release nothing. -/
def Quiet (m m' : MemoryManager) : Prop :=
  ∃ calls, m'.calls = m.calls ++ calls ∧ calls.filter MemoryCall.isRelease = []

/-- Quiet steps compose. -/
lemma Quiet.trans {m m' m'' : MemoryManager} (h : Quiet m m') (h' : Quiet m' m'') :
    Quiet m m'' := by
  obtain ⟨calls, hcalls, hfilter⟩ := h
  obtain ⟨calls', hcalls', hfilter'⟩ := h'
  refine ⟨calls ++ calls', ?_, ?_⟩
  · rw [hcalls', hcalls, List.append_assoc]
  · rw [List.filter_append, hfilter, hfilter', List.append_nil]

/-- Closing the device releases no buffer. -/
lemma quiet_closeDevice (m : MemoryManager) : Quiet m m.closeDevice := by
  unfold closeDevice
  split_ifs
  · exact ⟨[.ion_close m.mIonFd], rfl, rfl⟩
  · exact ⟨[], (List.append_nil _).symm, rfl⟩

/-- Neither does the report of an error. -/
lemma quiet_allocateError (m : MemoryManager) : Quiet m m.allocateError := by
  unfold allocateError
  split_ifs
  · exact Quiet.trans ⟨[.errorNotify NO_MEMORY], rfl, rfl⟩ (quiet_closeDevice _)
  · exact quiet_closeDevice m

/-- Opening the device releases no buffer either. -/
lemma quiet_openDevice (m : MemoryManager) (fd : ℤ) : Quiet m (m.openDevice fd) :=
  ⟨[], by rw [openDevice_calls, List.append_nil], rfl⟩

/-- A call that returns no array leaves the device closed. -/
lemma mIonFd_of_allocateBuffer {m m' : MemoryManager} {call : AllocateCall}
    (h : m.allocateBuffer call = some (none, m')) : m'.mIonFd < 0 := by
  by_cases hbegun : m.Begun call
  · cases hf : failure call.results with
    | none =>
      rw [allocateBuffer_of_none hbegun hf] at h
      cases h
    | some f =>
      rw [allocateBuffer_of_some hbegun hf, Option.map_eq_some_iff] at h
      obtain ⟨r, -, hr⟩ := h
      obtain rfl := congrArg Prod.snd hr
      exact closeDevice_mIonFd _
  · unfold allocateBuffer at h
    simp only at h
    split_ifs at h with hopen hnew hbytes
    · cases h
      exact hopen
    · cases h
      exact closeDevice_mIonFd _
    · exact absurd ⟨not_lt.mp hopen, Bool.eq_false_iff.mpr hnew, hbytes⟩ hbegun
    · cases h

/-- A clean failure has no live buffers, for the device is closed. -/
lemma CleanFailure.not_live {m : MemoryManager} {call : AllocateCall}
    (h : m.CleanFailure call) (hopen : ∀ ptr, m.Live ptr → 0 ≤ m.mIonFd) (ptr : Ptr) :
    ¬ m.Live ptr := by
  intro hlive
  obtain ⟨m', calls, hcall, -, -, hkeep⟩ := h
  obtain ⟨-, -, -, -, hfd, -⟩ := hkeep ptr hlive
  have hclosed := mIonFd_of_allocateBuffer hcall
  rw [hfd] at hclosed
  exact absurd (hopen ptr hlive) (not_le.mpr hclosed)

/-- The buffers that a call has entered are in the tables. -/
lemma holds_failed {m : MemoryManager} {call : AllocateCall} (f : IonFailure)
    (hnodup : ((own call.results).map (·.ptr)).Nodup) {b : IonBuffer}
    (hb : b ∈ own call.results) : (m.failed call f).Holds call.bytes.toNat b := by
  constructor
  · refine KeyedVector.find?_addAll_of_mem ?_ (List.mem_map.mpr ⟨b, hb, rfl⟩)
    rwa [List.map_map]
  · refine KeyedVector.find?_addAll_of_mem ?_ (List.mem_map.mpr ⟨b, hb, rfl⟩)
    rwa [List.map_map]
  · refine KeyedVector.find?_addAll_of_mem ?_ (List.mem_map.mpr ⟨b, hb, rfl⟩)
    rwa [List.map_map]

/-- A fresh address is not in the tables of a failing call, unless it was entered. -/
lemma lacks_failed {m : MemoryManager} {call : AllocateCall} {f : IonFailure}
    (hfresh : Fresh m.Live call.results) (hf : failure call.results = some f) {ptr : Ptr}
    (hptr : ptr ∈ entries (leftEntries f)) : (m.failed call f).Lacks ptr := by
  have hnodup := hfresh.nodup
  have hmem : ptr ∈ given call.results := by
    rw [given, hf]
    exact List.mem_append_right _ hptr
  rw [given, hf, Option.elim_some, List.nodup_append] at hnodup
  have hnot : ptr ∉ ((own call.results).map fun b => (b.ptr, call.bytes.toNat)).map Prod.fst := by
    rw [List.map_map]
    exact fun hown => hnodup.2.2 ptr hown ptr hptr rfl
  refine (KeyedVector.find?_addAll_of_notMem hnot).trans ?_
  have hlive := hfresh.notLive ptr hmem
  rw [(tables_inj (tables_openDevice m call.ion_open)).2.2.1]
  exact Option.not_isSome_iff_eq_none.mp hlive

/-- A failure that is not harmless aborts the process. -/
lemma allocateBuffer_eq_none {m : MemoryManager} {call : AllocateCall} {f : IonFailure}
    (hbegun : m.Begun call) (hfresh : Fresh m.Live call.results)
    (hf : failure call.results = some f) (hharm : ¬ Harmless f) :
    m.allocateBuffer call = none := by
  rcases entries_leftEntries hfresh hf with ⟨h, -⟩ | ⟨-, ptr, hptr⟩
  · exact absurd h hharm
  · have hmem : ptr ∈ entries (leftEntries f) := hptr ▸ List.mem_singleton_self ptr
    have hlacks := lacks_failed hfresh hf hmem
    rw [allocateBuffer_of_some hbegun hf, freeBuffer, entries_failed hfresh hf, given, hf,
      Option.elim_some, hptr, freeEntries_of_lacks hlacks]
    rfl

/-- A harmless failure releases what the call has obtained. -/
lemma allocateBuffer_of_harmless {m : MemoryManager} {call : AllocateCall} {f : IonFailure}
    (hbegun : m.Begun call) (hfresh : Fresh m.Live call.results)
    (hf : failure call.results = some f) (hharm : Harmless f) :
    ∃ m' calls, m.allocateBuffer call = some (none, m') ∧ m'.calls = m.calls ++ calls ∧
      (calls.filter MemoryCall.isRelease).Perm (m.obtained call) := by
  have hentries : given call.results = (own call.results).map (·.ptr) := by
    rcases entries_leftEntries hfresh hf with ⟨-, hnil⟩ | ⟨h, -⟩
    · rw [given, hf, Option.elim_some, hnil, List.append_nil]
    · exact absurd hharm h
  have hnodup := hfresh.nodup
  rw [hentries] at hnodup
  have hbytes : call.bytes.toNat ≠ 0 := fun h => hbegun.2.2 (BitVec.eq_of_toNat_eq h)
  have hfree := freeEntries_eq hbytes hnodup fun b hb => holds_failed (m := m) f hnodup hb
  set freed := (m.failed call f).freed call.bytes.toNat (own call.results) with hfreed
  have hquiet : Quiet freed (if freed.mIonBufLength.size = 0 then freed.closeDevice
      else freed).allocateError := by
    refine Quiet.trans ?_ (quiet_allocateError _)
    split_ifs
    · exact quiet_closeDevice freed
    · exact ⟨[], (List.append_nil _).symm, rfl⟩
  obtain ⟨calls, hcalls, hfilter⟩ := hquiet
  have hcall : m.allocateBuffer call = some (none,
      (if freed.mIonBufLength.size = 0 then freed.closeDevice else freed).allocateError) := by
    rw [allocateBuffer_of_some hbegun hf, freeBuffer, entries_failed hfresh hf, hentries, hfree]
    rfl
  refine ⟨_, failureCalls call.bytes (m.openDevice call.ion_open).mIonFd f ++
    (own call.results).flatMap (release call.bytes.toNat (m.openDevice call.ion_open).mIonFd) ++
      calls, hcall, ?_, ?_⟩
  · rw [hcalls, hfreed]
    show (m.openDevice call.ion_open).calls ++ _ ++ _ ++ calls = _
    rw [openDevice_calls, List.append_assoc, List.append_assoc, List.append_assoc]
    rfl
  · rw [List.filter_append, List.filter_append, hfilter, List.append_nil, filter_release,
      obtained, if_pos hbegun, hf, Option.elim_some]
    cases f with
    | ion_alloc => simp [failureCalls, failedReleases]
    | ion_map handle left => exact List.perm_append_comm
    | ion_phys b => exact absurd hharm id

/-- **Which failures are clean.** A failing call leaves the live buffers usable and releases what
it has obtained exactly if there are no live buffers and the failure left no address in the array
that was not entered: every failing call closes the shared device, and an entry that is not in the
tables aborts the process.

**Proof sketch.** The device is closed after every failing call, so a clean failure has no live
buffers. An array with an address that was not entered is not freed. Otherwise the array holds the
buffers of the call, which are distinct and in the tables, so each is released once. -/
theorem cleanFailure_iff {m : MemoryManager} {call : AllocateCall}
    (hopen : ∀ ptr, m.Live ptr → 0 ≤ m.mIonFd) (hfresh : Fresh m.Live call.results)
    (hfail : m.Fails call) :
    m.CleanFailure call ↔
      (∀ ptr, ¬ m.Live ptr) ∧ (m.Begun call → ∀ f ∈ failure call.results, Harmless f) := by
  constructor
  · intro h
    refine ⟨h.not_live hopen, fun hbegun f hf => ?_⟩
    by_contra hharm
    obtain ⟨m', calls, hcall, -⟩ := h
    rw [allocateBuffer_eq_none hbegun hfresh hf hharm] at hcall
    cases hcall
  · rintro ⟨hnone, hharm⟩
    by_cases hbegun : m.Begun call
    · rcases hfail with h | h | ⟨-, h⟩
      · exact absurd hbegun.1 (not_le.mpr h)
      · exact absurd hbegun.2.1 (by rw [h]; decide)
      · obtain ⟨f, hf⟩ := Option.isSome_iff_exists.mp h
        obtain ⟨m', calls, hcall, hcalls, hperm⟩ :=
          allocateBuffer_of_harmless hbegun hfresh hf (hharm hbegun f hf)
        exact ⟨m', calls, hcall, hcalls, hperm, fun ptr hlive => absurd hlive (hnone ptr)⟩
    · have hquiet : ∃ m', m.allocateBuffer call = some (none, m') ∧ Quiet m m' := by
        unfold allocateBuffer
        by_cases hfd : (m.openDevice call.ion_open).mIonFd < 0
        · rw [if_pos hfd]
          exact ⟨_, rfl, quiet_openDevice m _⟩
        · rcases hfail with h | h | ⟨h, -⟩
          · exact absurd h hfd
          · rw [if_neg hfd, if_pos h]
            exact ⟨_, rfl, (quiet_openDevice m _).trans (quiet_allocateError _)⟩
          · exact absurd h hbegun
      obtain ⟨m', hcall, calls, hcalls, hfilter⟩ := hquiet
      refine ⟨m', calls, hcall, hcalls, ?_, fun ptr hlive => absurd hlive (hnone ptr)⟩
      rw [hfilter, obtained, if_neg hbegun]

/-- A first call for one buffer whose allocation fails is clean. -/
theorem cleanFailure_firstCall :
    CleanFailure {} ⟨4096#32, 3, false, [.error .ion_alloc]⟩ := by
  have hnone : ∀ ptr, ¬ ({} : MemoryManager).Live ptr := fun ptr h => Bool.false_ne_true h
  have hfresh : Fresh ({} : MemoryManager).Live [.error .ion_alloc] := by
    constructor <;> simp [given, own, failure, leftEntries, entries]
  refine (cleanFailure_iff (fun ptr h => absurd h (hnone ptr)) hfresh
    (Or.inr (Or.inr ⟨by decide, rfl⟩))).mpr ⟨hnone, fun _ f hf => ?_⟩
  obtain rfl := Option.some.inj hf
  trivial

/-- A buffer of one page. -/
def onePage : IonBuffer := ⟨1, 0x40000000, 5, 0x80000000⟩

/-- The manager that has allocated it. -/
def onePageHeld : MemoryManager := addBuffers 4096#32 { mIonFd := 3 } [onePage]

/-- A second call, for one more buffer, whose allocation fails. The device that the live buffer
needs is closed. -/
theorem not_cleanFailure_secondCall :
    allocateBuffer {} ⟨4096#32, 3, false, [.ok onePage]⟩ = some (some [onePage.ptr], onePageHeld) ∧
      onePageHeld.Fails ⟨4096#32, 4, false, [.error .ion_alloc]⟩ ∧
      (onePageHeld.allocateBuffer ⟨4096#32, 4, false, [.error .ion_alloc]⟩).map
        (fun r => (r.1, r.2.mIonFd, r.2.calls)) = some (none, -1, [.ion_close 3]) ∧
      ¬ onePageHeld.CleanFailure ⟨4096#32, 4, false, [.error .ion_alloc]⟩ := by
  refine ⟨rfl, Or.inr (Or.inr ⟨by decide, rfl⟩), rfl, fun h => ?_⟩
  refine h.not_live (fun _ _ => ?_) onePage.ptr rfl
  show (0 : ℤ) ≤ 3
  decide

/-! ### Lengths -/

/-- No buffer has the length zero. -/
def HasLengths (m : MemoryManager) : Prop := ∀ ptr, m.mIonBufLength.find? ptr ≠ some 0

/-- Lengths are a matter of the tables. -/
lemma HasLengths.of_tables {m m' : MemoryManager} (h : m.HasLengths)
    (htables : m'.tables = m.tables) : m'.HasLengths := by
  intro ptr
  rw [(tables_inj htables).2.2.1]
  exact h ptr

/-- Buffers are entered with the length of the call. -/
lemma HasLengths.addBuffers {m : MemoryManager} (h : m.HasLengths) {bytes : BitVec 32}
    (hbytes : bytes ≠ 0) (bs : List IonBuffer) : (addBuffers bytes m bs).HasLengths := by
  intro ptr hzero
  rcases KeyedVector.mem_of_find?_addAll hzero with hmem | hfind
  · obtain ⟨b, -, hb⟩ := List.mem_map.mp hmem
    exact hbytes (BitVec.eq_of_toNat_eq (congrArg Prod.snd hb))
  · exact h ptr hfind

/-- Freeing keeps lengths. -/
lemma HasLengths.freeBuffer {m m' : MemoryManager} {ret : Status} {buf : Option (List Ptr)}
    (h : m.HasLengths) (hfree : m.freeBuffer buf = some (ret, m')) : m'.HasLengths := by
  cases buf with
  | none =>
    obtain rfl := congrArg Prod.snd (Option.some.inj hfree)
    exact h
  | some bufsArr =>
    obtain ⟨m₁, hentries, hclose⟩ := Option.bind_eq_some_iff.mp hfree
    obtain rfl := congrArg Prod.snd (Option.some.inj hclose)
    have h₁ : m₁.HasLengths := fun ptr hzero =>
      h ptr ((freeEntries_frame hentries).2.2.1 ptr 0 hzero)
    refine h₁.of_tables ?_
    split_ifs
    · exact tables_closeDevice m₁
    · rfl

/-- Allocating keeps lengths. -/
lemma HasLengths.allocateBuffer {m m' : MemoryManager} {call : AllocateCall}
    {bufsArr : Option (List Ptr)} (h : m.HasLengths)
    (halloc : m.allocateBuffer call = some (bufsArr, m')) : m'.HasLengths := by
  have hopened := h.of_tables (tables_openDevice m call.ion_open)
  by_cases hbegun : m.Begun call
  · have hadded := hopened.addBuffers hbegun.2.2 (own call.results)
    cases hf : failure call.results with
    | none =>
      rw [allocateBuffer_of_none hbegun hf] at halloc
      obtain rfl := congrArg Prod.snd (Option.some.inj halloc)
      exact hadded
    | some f =>
      rw [allocateBuffer_of_some hbegun hf, Option.map_eq_some_iff] at halloc
      obtain ⟨⟨ret, freed⟩, hfree, hr⟩ := halloc
      obtain rfl := congrArg Prod.snd hr
      exact (HasLengths.freeBuffer (m := m.failed call f) hadded hfree).of_tables
        (tables_allocateError freed)
  · obtain ⟨bufsArr', m₁, heq, htables, -⟩ := allocateBuffer_of_not_begun hbegun
    rw [heq] at halloc
    obtain rfl := congrArg Prod.snd (Option.some.inj halloc)
    exact h.of_tables htables

end MemoryManager

/-! ### Runs -/

/-- The manager, the arrays that its callers hold, and whether the process has aborted. -/
structure MemoryRun where
  manager : MemoryManager := {}
  arrays : List (List Ptr) := []
  aborted : Bool := false

/-- The calls. Callers free the arrays that they hold, or `NULL`. -/
inductive MemoryAction
  | allocateBuffer (call : AllocateCall)
  | freeBuffer (i : ℕ)
  | freeNull

namespace MemoryRun

open MemoryManager

/-- Keep the result of a call, unless it aborted. -/
def settle (s : MemoryRun) (result : Option (List (List Ptr) × MemoryManager)) : MemoryRun :=
  result.elim { s with aborted := true } fun r => { s with arrays := r.1, manager := r.2 }

/-- One call. An aborted process makes none. -/
def step (s : MemoryRun) (action : MemoryAction) : MemoryRun :=
  if s.aborted then s
  else match action with
    | .allocateBuffer call =>
      s.settle ((s.manager.allocateBuffer call).map fun r => (s.arrays ++ r.1.toList, r.2))
    | .freeBuffer i =>
      match s.arrays[i]? with
      | none => s
      | some bufsArr =>
        s.settle ((s.manager.freeBuffer (some bufsArr)).map fun r => (s.arrays.eraseIdx i, r.2))
    | .freeNull => s.settle ((s.manager.freeBuffer none).map fun r => (s.arrays, r.2))

/-- The buffers that are allocated and not freed. -/
def live (s : MemoryRun) : List Ptr := s.arrays.flatMap MemoryManager.entries

/-- The process runs, the keys of each vector are the live buffers, and no other buffer has a
physical address. -/
structure Sound (s : MemoryRun) : Prop where
  running : s.aborted = false
  handle : ∀ ptr, (s.manager.mIonHandleMap.find? ptr).isSome ↔ ptr ∈ s.live
  fd : ∀ ptr, (s.manager.mIonFdMap.find? ptr).isSome ↔ ptr ∈ s.live
  length : ∀ ptr, (s.manager.mIonBufLength.find? ptr).isSome ↔ ptr ∈ s.live
  phy : ∀ ptr, (s.manager.mIonBufPhyMap.find? ptr).isSome ↔ ptr ∈ s.live
  getPhys : ∀ ptr, ptr ∉ s.live → s.manager.getPhys ptr = NULL

/-- The mappings are fresh. -/
def Honest (s : MemoryRun) : MemoryAction → Prop
  | .allocateBuffer call => Fresh (· ∈ s.live) call.results
  | .freeBuffer _ | .freeNull => True

/-- No buffer is freed, neither on request nor after a failure. -/
def Careful (s : MemoryRun) : MemoryAction → Prop
  | .allocateBuffer call =>
    s.manager.Begun call → ∀ f ∈ failure call.results, own call.results = [] ∧ Harmless f
  | .freeBuffer i => ∀ bufsArr ∈ s.arrays[i]?, MemoryManager.entries bufsArr = []
  | .freeNull => True

/-- Soundness is a matter of the tables and the live buffers. -/
lemma Sound.congr {s s' : MemoryRun} (h : s.Sound) (hrunning : s'.aborted = false)
    (htables : s'.manager.tables = s.manager.tables) (hlive : s'.live = s.live) : s'.Sound := by
  obtain ⟨hhandle, hfd, hlength, hphy⟩ := tables_inj htables
  obtain ⟨-, h₁, h₂, h₃, h₄, h₅⟩ := h
  refine ⟨hrunning, ?_, ?_, ?_, ?_, ?_⟩
  · rwa [hhandle, hlive]
  · rwa [hfd, hlive]
  · rwa [hlength, hlive]
  · rwa [hphy, hlive]
  · rw [hlive]
    intro ptr hptr
    rw [MemoryManager.getPhys, hphy]
    exact h₅ ptr hptr

/-- Buffers without a physical address are those that are not live. -/
lemma Sound.of_keys {s : MemoryRun} (hrunning : s.aborted = false)
    (hhandle : ∀ ptr, (s.manager.mIonHandleMap.find? ptr).isSome ↔ ptr ∈ s.live)
    (hfd : ∀ ptr, (s.manager.mIonFdMap.find? ptr).isSome ↔ ptr ∈ s.live)
    (hlength : ∀ ptr, (s.manager.mIonBufLength.find? ptr).isSome ↔ ptr ∈ s.live)
    (hphy : ∀ ptr, (s.manager.mIonBufPhyMap.find? ptr).isSome ↔ ptr ∈ s.live) : s.Sound := by
  refine ⟨hrunning, hhandle, hfd, hlength, hphy, fun ptr hptr => ?_⟩
  rw [← hphy, Option.not_isSome_iff_eq_none] at hptr
  rw [MemoryManager.getPhys, hptr]
  rfl

/-- What is kept of a result has the lengths that the result has. -/
lemma hasLengths_settle {s : MemoryRun} (h : s.manager.HasLengths)
    {result : Option (List (List Ptr) × MemoryManager)}
    (hresult : ∀ r, result = some r → r.2.HasLengths) : (s.settle result).manager.HasLengths := by
  cases result with
  | none => exact h
  | some r => exact hresult r rfl

/-- Every call keeps the lengths. -/
lemma hasLengths_step {s : MemoryRun} (h : s.manager.HasLengths) (action : MemoryAction) :
    (s.step action).manager.HasLengths := by
  unfold step
  split_ifs
  · exact h
  · cases action with
    | allocateBuffer call =>
      refine hasLengths_settle h fun r hr => ?_
      obtain ⟨r', hcall, rfl⟩ := Option.map_eq_some_iff.mp hr
      exact h.allocateBuffer hcall
    | freeBuffer i =>
      show HasLengths (match s.arrays[i]? with
        | none => s
        | some bufsArr => s.settle _).manager
      split
      · exact h
      · refine hasLengths_settle h fun r hr => ?_
        obtain ⟨r', hfree, rfl⟩ := Option.map_eq_some_iff.mp hr
        exact h.freeBuffer hfree
    | freeNull => exact h

/-- A process that runs makes its calls. -/
lemma not_aborted {s : MemoryRun} (hs : s.Sound) : ¬ s.aborted = true := by
  rw [hs.running]
  decide

/-- A call that returns a result. -/
lemma step_allocateBuffer {s : MemoryRun} (hs : s.Sound) {call : AllocateCall}
    {bufsArr : Option (List Ptr)} {m : MemoryManager}
    (h : s.manager.allocateBuffer call = some (bufsArr, m)) :
    s.step (.allocateBuffer call) =
      { s with arrays := s.arrays ++ bufsArr.toList, manager := m } := by
  unfold step
  rw [if_neg (not_aborted hs)]
  show s.settle ((s.manager.allocateBuffer call).map _) = _
  rw [h]
  rfl

/-- A call that aborts. -/
lemma not_sound_of_eq_none {s : MemoryRun} (hs : s.Sound) {call : AllocateCall}
    (h : s.manager.allocateBuffer call = none) : ¬ (s.step (.allocateBuffer call)).Sound := by
  unfold step
  rw [if_neg (not_aborted hs)]
  show ¬ (s.settle ((s.manager.allocateBuffer call).map _)).Sound
  rw [h]
  exact fun hsound => Bool.false_ne_true hsound.running.symm

/-- Freeing an array. -/
lemma step_freeBuffer {s : MemoryRun} (hs : s.Sound) {i : ℕ} {bufsArr : List Ptr}
    (harray : s.arrays[i]? = some bufsArr) :
    s.step (.freeBuffer i) = s.settle
      ((s.manager.freeBuffer (some bufsArr)).map fun r => (s.arrays.eraseIdx i, r.2)) := by
  unfold step
  rw [if_neg (not_aborted hs)]
  simp only [harray]

/-- The live buffers after a call. -/
lemma live_append (s : MemoryRun) (bufsArr : Option (List Ptr)) (m : MemoryManager) :
    ({ s with arrays := s.arrays ++ bufsArr.toList, manager := m } : MemoryRun).live =
      s.live ++ (bufsArr.elim [] MemoryManager.entries) := by
  cases bufsArr <;> simp [live]

/-- Freeing an array without buffers leaves the live buffers. -/
lemma live_eraseIdx {s : MemoryRun} {i : ℕ} {bufsArr : List Ptr}
    (harray : s.arrays[i]? = some bufsArr) (hempty : MemoryManager.entries bufsArr = [])
    (m : MemoryManager) :
    ({ s with arrays := s.arrays.eraseIdx i, manager := m } : MemoryRun).live = s.live := by
  obtain ⟨hi, hget⟩ := List.getElem?_eq_some_iff.mp harray
  have hsplit : s.arrays = s.arrays.take i ++ bufsArr :: s.arrays.drop (i + 1) := by
    rw [← hget, List.cons_getElem_drop_succ, List.take_append_drop]
  show (s.arrays.eraseIdx i).flatMap MemoryManager.entries = s.arrays.flatMap MemoryManager.entries
  rw [List.eraseIdx_eq_take_drop_succ]
  conv_rhs => rw [hsplit]
  rw [List.flatMap_append, List.flatMap_append, List.flatMap_cons, hempty, List.nil_append]

/-- A state is not sound if a buffer has a physical address but no handle. -/
lemma Sound.handle_of_phy {s : MemoryRun} (h : s.Sound) (ptr : Ptr)
    (hphy : (s.manager.mIonBufPhyMap.find? ptr).isSome) :
    s.manager.mIonHandleMap.find? ptr ≠ none := by
  intro hnone
  have hsome := (h.handle ptr).mpr ((h.phy ptr).mp hphy)
  rw [hnone] at hsome
  cases hsome

/-- The vector of physical addresses keeps the keys of an array that is freed, the vector of handles
loses them. -/
lemma frees_phy {m m' : MemoryManager} {bufsArr : List Ptr} {ret : Status}
    (hlen : m.HasLengths) (h : m.freeBuffer (some bufsArr) = some (ret, m')) :
    m'.mIonBufPhyMap = m.mIonBufPhyMap ∧
      ∀ ptr ∈ MemoryManager.entries bufsArr, m'.mIonHandleMap.find? ptr = none := by
  obtain ⟨m₁, hentries, hclose⟩ := Option.bind_eq_some_iff.mp h
  have htables : m'.tables = m₁.tables := by
    obtain rfl := congrArg Prod.snd (Option.some.inj hclose)
    simp only
    split_ifs
    · exact tables_closeDevice m₁
    · rfl
  obtain ⟨hhandle, -, -, hphy⟩ := tables_inj htables
  refine ⟨hphy.trans (freeEntries_frame hentries).1, fun ptr hptr => ?_⟩
  rw [hhandle]
  exact freeEntries_handle hlen hentries hptr

/-- Freeing an array without buffers. -/
lemma freeBuffer_of_empty {m : MemoryManager} {bufsArr : List Ptr}
    (h : MemoryManager.entries bufsArr = []) :
    ∃ m', m.freeBuffer (some bufsArr) = some (NO_ERROR, m') ∧ m'.tables = m.tables := by
  refine ⟨if m.mIonBufLength.size = 0 then m.closeDevice else m, ?_, ?_⟩
  · rw [freeBuffer, h]
    rfl
  · split_ifs
    · exact tables_closeDevice m
    · rfl

/-- In a sound state the live buffers are those of the tables. -/
lemma Sound.live_eq {s : MemoryRun} (h : s.Sound) : s.manager.Live = (· ∈ s.live) := by
  funext ptr
  exact propext (h.length ptr)

/-- A call without a failure keeps the vectors sound. -/
lemma Sound.allocate_of_none {s : MemoryRun} (hs : s.Sound) {call : AllocateCall}
    (hfresh : Fresh (· ∈ s.live) call.results) (hbegun : s.manager.Begun call)
    (hf : failure call.results = none) : (s.step (.allocateBuffer call)).Sound := by
  rw [step_allocateBuffer hs (allocateBuffer_of_none hbegun hf)]
  have hentries : MemoryManager.entries ((own call.results).map (·.ptr)) =
      (own call.results).map (·.ptr) := by
    refine entries_of_ne fun ptr hptr => ?_
    obtain ⟨b, hb, rfl⟩ := List.mem_map.mp hptr
    exact hfresh.own_ne b hb
  have hlive : ∀ (v : KeyedVector Ptr ℕ) (g : IonBuffer → ℕ),
      (∀ ptr, (v.find? ptr).isSome ↔ ptr ∈ s.live) → ∀ ptr,
        ((v.addAll ((own call.results).map fun b => (b.ptr, g b))).find? ptr).isSome ↔
          ptr ∈ s.live ++ MemoryManager.entries ((own call.results).map (·.ptr)) := by
    intro v g hv ptr
    rw [KeyedVector.isSome_find?_addAll, hv, List.map_map, hentries, List.mem_append, or_comm]
    rfl
  obtain ⟨hhandle, hfd, hlength, hphy⟩ := tables_inj (tables_openDevice s.manager call.ion_open)
  refine Sound.of_keys hs.running ?_ ?_ ?_ ?_ <;> rw [live_append]
  · exact hlive _ _ (hhandle ▸ hs.handle)
  · exact hlive _ _ (hfd ▸ hs.fd)
  · exact hlive _ _ (hlength ▸ hs.length)
  · exact hlive _ _ (hphy ▸ hs.phy)

/-- A call that fails at its first buffer and leaves nothing in the array keeps them sound. -/
lemma Sound.allocate_of_harmless {s : MemoryRun} (hs : s.Sound) {call : AllocateCall}
    (hfresh : Fresh (· ∈ s.live) call.results) (hbegun : s.manager.Begun call) {f : IonFailure}
    (hf : failure call.results = some f) (hown : own call.results = []) (hharm : Harmless f) :
    (s.step (.allocateBuffer call)).Sound := by
  have hempty : MemoryManager.entries ((own call.results).map (·.ptr) ++ leftEntries f) = [] := by
    rcases entries_leftEntries hfresh hf with ⟨-, hnil⟩ | ⟨h, -⟩
    · rw [hown]
      exact hnil
    · exact absurd hharm h
  obtain ⟨m', hfree, htables⟩ := freeBuffer_of_empty (m := s.manager.failed call f) hempty
  have hcall : s.manager.allocateBuffer call = some (none, m'.allocateError) := by
    rw [allocateBuffer_of_some hbegun hf, hfree]
    rfl
  rw [step_allocateBuffer hs hcall]
  refine hs.congr hs.running ?_ ((live_append s none _).trans (List.append_nil _))
  show m'.allocateError.tables = _
  rw [tables_allocateError, htables, failed, hown]
  exact tables_openDevice s.manager call.ion_open

/-- A failing call that has entered a buffer leaves its physical address. -/
lemma not_sound_of_own {s : MemoryRun} (hs : s.Sound) (hlen : s.manager.HasLengths)
    {call : AllocateCall} (hfresh : Fresh (· ∈ s.live) call.results)
    (hbegun : s.manager.Begun call) {f : IonFailure} (hf : failure call.results = some f)
    (hown : own call.results ≠ []) : ¬ (s.step (.allocateBuffer call)).Sound := by
  intro hsound
  cases hcall : s.manager.allocateBuffer call with
  | none => exact not_sound_of_eq_none hs hcall hsound
  | some r =>
    obtain ⟨b, hb⟩ := List.exists_mem_of_ne_nil _ hown
    rw [step_allocateBuffer hs hcall] at hsound
    rw [allocateBuffer_of_some hbegun hf, Option.map_eq_some_iff] at hcall
    obtain ⟨⟨ret, m'⟩, hfree, rfl⟩ := hcall
    have hlengths : (s.manager.failed call f).HasLengths :=
      (hlen.of_tables (tables_openDevice s.manager call.ion_open)).addBuffers hbegun.2.2 _
    obtain ⟨hphy, hhandle⟩ := frees_phy hlengths hfree
    obtain ⟨hhandle', -, -, hphy'⟩ := tables_inj (tables_allocateError m')
    have hmem : b.ptr ∈ (own call.results).map (·.ptr) := List.mem_map_of_mem hb
    refine hsound.handle_of_phy b.ptr ?_ ?_
    · show (m'.allocateError.mIonBufPhyMap.find? b.ptr).isSome
      rw [hphy', hphy]
      refine (KeyedVector.isSome_find?_addAll _ _ _).mpr (Or.inl ?_)
      rw [List.map_map]
      exact hmem
    · show m'.allocateError.mIonHandleMap.find? b.ptr = none
      rw [hhandle']
      refine hhandle b.ptr ?_
      rw [entries_failed hfresh hf, given]
      exact List.mem_append_left _ hmem

/-- Allocation keeps the vectors sound exactly if it is careful. -/
lemma sound_allocateBuffer_iff {s : MemoryRun} (hs : s.Sound) (hlen : s.manager.HasLengths)
    {call : AllocateCall} (hfresh : Fresh (· ∈ s.live) call.results) :
    (s.step (.allocateBuffer call)).Sound ↔ s.Careful (.allocateBuffer call) := by
  by_cases hbegun : s.manager.Begun call
  · cases hf : failure call.results with
    | none =>
      refine iff_of_true (hs.allocate_of_none hfresh hbegun hf) fun _ f hmem => ?_
      rw [hf] at hmem
      cases hmem
    | some f =>
      constructor
      · intro hsound _ f' hf'
        obtain rfl := Option.some.inj (hf.symm.trans hf')
        constructor
        · by_contra hown
          exact not_sound_of_own hs hlen hfresh hbegun hf hown hsound
        · by_contra hharm
          exact not_sound_of_eq_none hs
            (allocateBuffer_eq_none hbegun (hs.live_eq ▸ hfresh) hf hharm) hsound
      · intro hcareful
        obtain ⟨hown, hharm⟩ := hcareful hbegun f hf
        exact hs.allocate_of_harmless hfresh hbegun hf hown hharm
  · refine iff_of_true ?_ fun h => absurd h hbegun
    obtain ⟨bufsArr, m', hcall, htables, hempty⟩ := allocateBuffer_of_not_begun hbegun
    rw [step_allocateBuffer hs hcall]
    refine hs.congr hs.running htables ((live_append s bufsArr m').trans ?_)
    cases bufsArr with
    | none => exact List.append_nil _
    | some l => rw [Option.elim_some, hempty l rfl, List.append_nil]

/-- Freeing keeps the vectors sound exactly if the array has no buffer. -/
lemma sound_freeBuffer_iff {s : MemoryRun} (hs : s.Sound) (hlen : s.manager.HasLengths) (i : ℕ) :
    (s.step (.freeBuffer i)).Sound ↔ s.Careful (.freeBuffer i) := by
  cases harray : s.arrays[i]? with
  | none =>
    refine iff_of_true ?_ fun bufsArr hmem => ?_
    · unfold step
      rw [if_neg (not_aborted hs)]
      simpa only [harray] using hs
    · rw [harray] at hmem
      cases hmem
  | some bufsArr =>
    rw [step_freeBuffer hs harray]
    constructor
    · intro hsound bufsArr' hmem
      obtain rfl := Option.some.inj (harray.symm.trans hmem)
      cases hfree : s.manager.freeBuffer (some bufsArr) with
      | none =>
        rw [hfree] at hsound
        exact absurd hsound.running.symm Bool.false_ne_true
      | some r =>
        rw [hfree] at hsound
        obtain ⟨hphy, hhandle⟩ := frees_phy hlen hfree
        refine List.eq_nil_iff_forall_not_mem.mpr fun ptr hptr => ?_
        have hlive : ptr ∈ s.live :=
          List.mem_flatMap.mpr ⟨bufsArr, List.mem_of_getElem? harray, hptr⟩
        refine hsound.handle_of_phy ptr ?_ (hhandle ptr hptr)
        show (r.2.mIonBufPhyMap.find? ptr).isSome
        rw [hphy]
        exact (hs.phy ptr).mpr hlive
    · intro hcareful
      have hempty := hcareful bufsArr harray
      obtain ⟨m', hfree, htables⟩ := freeBuffer_of_empty (m := s.manager) hempty
      rw [hfree]
      exact hs.congr hs.running htables (live_eraseIdx harray hempty m')

/-- **The vectors are sound as long as no buffer is freed.** Throughout a run from the start, the
four vectors have the live buffers as keys and only these have a physical address exactly if no
step frees a buffer: `freeBuffer` removes the entries of three vectors and leaves the physical
address, and it aborts on an entry that a failing call has left in its array.

**Proof sketch.** The lengths in the tables are never zero, so an array that is freed loses the
handles of its buffers. They keep their physical addresses, so the keys differ afterwards. The
other calls enter the same keys into all four vectors, or none. -/
theorem always_soundMemory_iff {run : List MemoryAction} (hrun : StepRun.Along step Honest {} run) :
    StepRun.Always step Sound {} run ↔ StepRun.Along step Careful {} run := by
  refine StepRun.always_iff_along_of_along (J := fun s => s.manager.HasLengths)
    (fun s action hlen _ => hasLengths_step hlen action) (fun s action hlen hhonest hs => ?_)
    (fun ptr h => by cases h) ?_ hrun
  · cases action with
    | allocateBuffer call => exact sound_allocateBuffer_iff hs hlen hhonest
    | freeBuffer i => exact sound_freeBuffer_iff hs hlen i
    | freeNull =>
      refine iff_of_true ?_ trivial
      unfold step
      rw [if_neg (not_aborted hs)]
      exact hs
  · refine Sound.of_keys rfl ?_ ?_ ?_ ?_ <;>
      exact fun ptr => iff_of_false Bool.false_ne_true List.not_mem_nil

/-- A page is allocated. -/
def allocatePage : MemoryAction := .allocateBuffer ⟨4096#32, 3, false, [.ok onePage]⟩

/-- The mapping of the first page is fresh. -/
lemma honest_allocatePage : Honest {} allocatePage := by
  constructor
  · decide
  · exact fun ptr _ hlive => absurd hlive List.not_mem_nil
  · intro b hb
    obtain rfl := List.mem_singleton.mp hb
    decide
  · intro b hb
    cases hb

/-- The vectors are sound after the first allocation. -/
theorem always_sound_allocatePage : StepRun.Always step Sound {} [allocatePage] := by
  have hhonest : StepRun.Along step Honest {} [allocatePage] := ⟨honest_allocatePage, trivial⟩
  refine (always_soundMemory_iff hhonest).mpr ⟨fun _ f hf => ?_, trivial⟩
  cases hf

/-- A page that is freed keeps its physical address, and nothing else. -/
theorem not_always_sound_freePage :
    StepRun.Along step Honest {} [allocatePage, .freeBuffer 0] ∧
      (StepRun.final step {} [allocatePage, .freeBuffer 0]).live = [] ∧
      (StepRun.final step {} [allocatePage, .freeBuffer 0]).manager.mIonHandleMap.find?
        onePage.ptr = none ∧
      (StepRun.final step {} [allocatePage, .freeBuffer 0]).manager.getPhys onePage.ptr =
        onePage.phy ∧
      ¬ StepRun.Always step Sound {} [allocatePage, .freeBuffer 0] := by
  have hlive : (StepRun.final step {} [allocatePage, .freeBuffer 0]).live = [] := rfl
  have hphy : (StepRun.final step {} [allocatePage, .freeBuffer 0]).manager.getPhys onePage.ptr =
      onePage.phy := rfl
  refine ⟨⟨honest_allocatePage, trivial, trivial⟩, hlive, rfl, hphy, fun h => ?_⟩
  have hnone := h.last.getPhys onePage.ptr (hlive ▸ List.not_mem_nil)
  rw [hphy] at hnone
  cases hnone

end MemoryRun

end CameraHal
