import Gs702aHal.Lib.Custody
import Gs702aHal.Lib.StepRun
import Gs702aHal.Camera.Types
import Gs702aHal.Camera.VceTeardown

set_option relaxedAutoImplicit false
set_option autoImplicit false

/-!
# The buffer tables of the encoder

`useBuffers` gives a port of the component its buffers: it frees the metadata blocks of the call
before, allocates a block for each buffer, and puts it into the port's table. One `EXIT` cleans up
for both ports. Where the build defines `OMX_VCE_OUTPUT_USEBUFFER`, the output port has blocks with
buffers of the graphics allocator, else only a number of buffers.

A block is named by the number of the allocations before it. A table has 20 entries; what a write
behind its end does is not defined.

## Main definitions

* `CameraHal.VceTables` — the tables with the metadata blocks, `CameraHal.VceTables.useBuffers` the
  function.
* `CameraHal.VceTables.Kept` — no block was freed twice, and none is lost.
* `CameraHal.VceTables.Works` — what is expected of a call.
* `CameraHal.VceTables.Provided` — the condition on a call.

## Main results

* `CameraHal.VceTables.works_iff_provided` — one call does what is expected exactly if it is
  provided for.
* `CameraHal.VceTables.useBuffers_works_iff` — so do all calls of a run.
-/

namespace CameraHal

open Status

/-- A metadata block (`video_metadata_t`): the number of the allocations before it. -/
abbrev Block := ℕ

/-- A table with the number of its entries in use: `mInputBuffers` with `mInputBufferCount`, or
`mOutputBuffers` with `mOutputBufferCount`. -/
structure BufferTable where
  buffers : ℕ → Block
  count : ℕ

namespace BufferTable

/-- The entries in use. -/
def live (t : BufferTable) : List Block := (List.range t.count).map t.buffers

/-- An entry is written, and the number goes up. -/
def put (t : BufferTable) (i : ℕ) (b : Block) : BufferTable where
  buffers := Function.update t.buffers i b
  count := t.count + 1

/-- The entries are given up. -/
def clear (t : BufferTable) : BufferTable := { t with count := 0 }

end BufferTable

/-- The ports that `useBuffers` tells apart: `mInputPortIndex`, `mOutputPortIndex`, any other. -/
inductive VcePort
  | input
  | output
  | other
  deriving DecidableEq, Repr

/-- What `useBuffers` reads and writes, and the metadata blocks. -/
structure VceTables where
  mComponentState : OMX_STATETYPE
  mInputBufferSize : ℕ
  mOutputBufferSize : ℕ
  mInputBuffers : BufferTable
  mOutputBuffers : BufferTable
  /-- No function writes this table. -/
  mOutputBufferHandles : ℕ → Ptr
  mOutputBufferHandleCount : ℕ
  /-- The allocations of metadata blocks so far. -/
  mallocs : ℕ
  /-- The field `handle` of the blocks. -/
  handle : Block → Ptr
  /-- What `free` was called with so far. -/
  freed : List Block
  /-- What the graphics allocator was called with to free it. -/
  released : List Ptr

/-- A call of `useBuffers`, with what the allocations of a pass yield: whether `malloc` has memory,
and the buffer of the graphics allocator. -/
structure UseBuffersCall where
  port : VcePort
  bufSize : ℕ
  bufs : ℕ → Ptr
  bufCount : ℕ
  memory : ℕ → Bool
  alloc : ℕ → Option Ptr

/-- `MAX_OMX_VCE_BUFFERS`. -/
def MAX_OMX_VCE_BUFFERS : ℕ := 20

/-- How the body of `useBuffers` ends: at its `return`, at `EXIT` with a status, or nowhere. -/
inductive UseBuffersEnd (σ : Type)
  | done (s : σ)
  | exit (ret : Status) (s : σ)
  | undefined

namespace VceTables

/-! ### The function -/

/-- The blocks of the input port are freed. -/
def freeInput (s : VceTables) : VceTables :=
  { s with
    freed := s.freed ++ s.mInputBuffers.live
    mInputBuffers := s.mInputBuffers.clear }

/-- The blocks of the output port are freed. -/
def freeOutput (s : VceTables) : VceTables :=
  { s with
    freed := s.freed ++ s.mOutputBuffers.live
    mOutputBuffers := s.mOutputBuffers.clear }

/-- The handles are given to the graphics allocator. -/
def releaseHandles (s : VceTables) : VceTables :=
  { s with
    released := s.released ++
      (List.range s.mOutputBufferHandleCount).map s.mOutputBufferHandles
    mOutputBufferHandleCount := 0 }

/-- A new block with a handle is put into the input table. -/
def addInput (s : VceTables) (i : ℕ) (handle : Ptr) : VceTables :=
  { s with
    mallocs := s.mallocs + 1
    handle := Function.update s.handle s.mallocs handle
    mInputBuffers := s.mInputBuffers.put i s.mallocs }

/-- A new block is put into the output table. -/
def addOutput (s : VceTables) (i : ℕ) : VceTables :=
  { s with
    mallocs := s.mallocs + 1
    mOutputBuffers := s.mOutputBuffers.put i s.mallocs }

/-- The block gets its handle. -/
def setOutputHandle (s : VceTables) (i : ℕ) (handle : Ptr) : VceTables :=
  { s with
    handle := Function.update s.handle (s.mOutputBuffers.buffers i) handle
    mOutputBufferHandleCount := s.mOutputBufferHandleCount + 1 }

/-- The loop for the input port, with the number of passes left. Without memory it leaves for `EXIT`
with the status unchanged. -/
def fillInput (call : UseBuffersCall) : ℕ → ℕ → VceTables → UseBuffersEnd VceTables
  | 0, _, s => .done s
  | n + 1, i, s =>
    if call.memory i = false then .exit NO_ERROR s
    else if i < MAX_OMX_VCE_BUFFERS then
      fillInput call n (i + 1) (s.addInput i (call.bufs i))
    else .undefined

/-- The loop for the output port. -/
def fillOutput (call : UseBuffersCall) : ℕ → ℕ → VceTables → UseBuffersEnd VceTables
  | 0, _, s => .done s
  | n + 1, i, s =>
    if call.memory i = false then .exit NO_ERROR s
    else if i < MAX_OMX_VCE_BUFFERS then
      match call.alloc i with
      | none => .exit (-NO_MEMORY) (s.addOutput i)
      | some buf => fillOutput call n (i + 1) ((s.addOutput i).setOutputHandle i buf)
    else .undefined

variable (usebuffer : Bool)

/-- `useBuffers` up to its `return` or its `EXIT`; `usebuffer` tells whether
`OMX_VCE_OUTPUT_USEBUFFER` is defined. -/
def useBuffersBody (call : UseBuffersCall) (s : VceTables) : UseBuffersEnd VceTables :=
  if s.mComponentState ≠ .OMX_StateLoaded then .exit INVALID_OPERATION s
  else match call.port with
  | .input => fillInput call call.bufCount 0 { s.freeInput with mInputBufferSize := call.bufSize }
  | .output =>
    if usebuffer then
      fillOutput call call.bufCount 0
        { s.freeOutput.releaseHandles with mOutputBufferSize := call.bufSize }
    else
      .done { s with
        mOutputBufferHandleCount := 0
        mOutputBuffers := { s.mOutputBuffers with count := call.bufCount }
        mOutputBufferSize := call.bufSize }
  | .other => .exit BAD_VALUE s

/-- The first part of `EXIT`: what is not the input port is taken for the output port. -/
def clearPort (port : VcePort) (s : VceTables) : VceTables :=
  if port = .input then { s.freeInput with mInputBufferSize := 0 }
  else if usebuffer then { s.freeOutput with mOutputBufferSize := 0 }
  else { s with mOutputBuffers := s.mOutputBuffers.clear, mOutputBufferSize := 0 }

/-- `EXIT`. -/
def exit (port : VcePort) (s : VceTables) : VceTables :=
  let s := s.clearPort usebuffer port
  if usebuffer then s.releaseHandles else { s with mOutputBufferHandleCount := 0 }

/-- `useBuffers`. -/
def useBuffers (call : UseBuffersCall) (s : VceTables) : Option (Status × VceTables) :=
  match s.useBuffersBody usebuffer call with
  | .done s' => some (NO_ERROR, s')
  | .exit ret s' => some (ret, s'.exit usebuffer call.port)
  | .undefined => none

/-- The tables of a new `OMXVce`. -/
def constructed (buffers buffers' : ℕ → Block) (handles : ℕ → Ptr) (handle : Block → Ptr) :
    VceTables where
  mComponentState := .OMX_StateInvalid
  mInputBufferSize := 0
  mOutputBufferSize := 0
  mInputBuffers := ⟨buffers, 0⟩
  mOutputBuffers := ⟨buffers', 0⟩
  mOutputBufferHandles := handles
  mOutputBufferHandleCount := 0
  mallocs := 0
  handle := handle
  freed := []
  released := []

/-! ### Runs -/

/-- The steps: calls of `useBuffers`, and changes of the component's state. -/
inductive Action
  | useBuffers (call : UseBuffersCall)
  | setComponentState (state : OMX_STATETYPE)

/-- A step. -/
def step (s : VceTables) : Action → VceTables
  | .useBuffers call => ((s.useBuffers usebuffer call).map Prod.snd).getD s
  | .setComponentState state => { s with mComponentState := state }

/-- The metadata blocks in the tables; the output table has some only in one of the builds. -/
def live (s : VceTables) : List Block :=
  s.mInputBuffers.live ++ if usebuffer then s.mOutputBuffers.live else []

/-- The metadata blocks: those in the tables are in custody, and the log has what was freed. -/
def custody (s : VceTables) : Custody Block := ⟨s.mallocs, s.live usebuffer, s.freed⟩

/-- No block was freed twice, and none is lost: every block is in the tables, once, and was not
freed, or it is not in them and was freed once. -/
structure Kept (s : VceTables) : Prop where
  tracked : Custody.Tracked (fun b freed => freed == b) (s.custody usebuffer)
  accounted : Custody.Accounted (fun b freed => freed == b) (fun b freed => freed = [b])
    (s.custody usebuffer)

/-- The table and the counts of the other port are unchanged. -/
def Unchanged (s s' : VceTables) : VcePort → Prop
  | .input => s'.mOutputBuffers = s.mOutputBuffers ∧
      s'.mOutputBufferHandleCount = s.mOutputBufferHandleCount
  | .output => s'.mInputBuffers = s.mInputBuffers
  | .other => s'.mInputBuffers = s.mInputBuffers ∧ s'.mOutputBuffers = s.mOutputBuffers ∧
      s'.mOutputBufferHandleCount = s.mOutputBufferHandleCount

/-- All buffers are recorded, in their order. -/
def Recorded (call : UseBuffersCall) (s : VceTables) : Prop :=
  match call.port with
  | .input => s.mInputBuffers.count = call.bufCount ∧
      ∀ i < call.bufCount, s.handle (s.mInputBuffers.buffers i) = call.bufs i
  | .output => s.mOutputBuffers.count = call.bufCount ∧
      (usebuffer = true → s.mOutputBufferHandleCount = call.bufCount ∧
        ∀ i < call.bufCount, call.alloc i = some (s.handle (s.mOutputBuffers.buffers i)))
  | .other => False

/-- The metadata blocks of a port. -/
def blocks (s : VceTables) : VcePort → List Block
  | .input => s.mInputBuffers.live
  | .output => if usebuffer then s.mOutputBuffers.live else []
  | .other => []

/-- The port's table is empty. -/
def Emptied (s : VceTables) : VcePort → Prop
  | .input => s.mInputBuffers.count = 0
  | .output => s.mOutputBuffers.count = 0 ∧ s.mOutputBufferHandleCount = 0
  | .other => True

/-- What is expected of a call: it returns; it succeeds and has recorded all buffers, or fails, has
emptied the port's table, and has freed once each block that it had allocated or found in it; the
other port is unchanged; and no block was freed twice, or is lost. -/
def CallWorks (call : UseBuffersCall) (s : VceTables) : Prop :=
  ∃ ret s', s.useBuffers usebuffer call = some (ret, s') ∧
    (ret = NO_ERROR ∧ s'.Recorded usebuffer call ∨
      ret ≠ NO_ERROR ∧ s'.Emptied call.port ∧
        ∀ b, b ∈ s.blocks usebuffer call.port ∨ s.mallocs ≤ b ∧ b < s'.mallocs →
          s'.freed.count b = 1) ∧
    Unchanged s s' call.port ∧ s'.Kept usebuffer

/-- What is expected of a step. -/
def Works (s : VceTables) : Action → Prop
  | .useBuffers call => s.CallWorks usebuffer call
  | .setComponentState _ => True

/-- A pass has memory and an entry of the table. -/
def HasBlock (call : UseBuffersCall) (i : ℕ) : Prop :=
  call.memory i = true ∧ i < MAX_OMX_VCE_BUFFERS

/-- The condition on a call. In a loaded component, each pass of the loop that is come to has memory
and an entry of the table. In one that is not loaded, a call for the input port finds no handles.
And a call for no port finds no buffers of the output port. -/
def CallProvided (call : UseBuffersCall) (s : VceTables) : Prop :=
  match call.port with
  | .input =>
    if s.mComponentState = .OMX_StateLoaded then
      ∀ i < call.bufCount, HasBlock call i
    else s.mOutputBufferHandleCount = 0
  | .output => s.mComponentState = .OMX_StateLoaded → usebuffer = true →
      ∀ i < call.bufCount, (∀ k < i, (call.alloc k).isSome = true) → HasBlock call i
  | .other => s.mOutputBuffers.count = 0 ∧ s.mOutputBufferHandleCount = 0

/-- The condition on a step. -/
def Provided (s : VceTables) : Action → Prop
  | .useBuffers call => s.CallProvided usebuffer call
  | .setComponentState _ => True

/-! ### The blocks -/

section Blocks

variable {usebuffer} {s s' : VceTables}

/-- A block is put behind the entries in use. -/
lemma live_put (t : BufferTable) (b : Block) : (t.put t.count b).live = t.live ++ [b] := by
  have hbefore : (List.range t.count).map (Function.update t.buffers t.count b) =
      (List.range t.count).map t.buffers := by
    refine List.map_congr_left fun k hk => ?_
    exact Function.update_of_ne (List.mem_range.mp hk).ne _ _
  show (List.range (t.count + 1)).map (Function.update t.buffers t.count b) = _
  rw [List.range_succ, List.map_append, hbefore, List.map_singleton, Function.update_self]
  rfl

/-- What is freed in a step was in the tables, and each block of it is freed once. -/
lemma Kept.of_moves (h : Kept usebuffer s) (new : ℕ) (out : List Block)
    (hcount : s'.mallocs = s.mallocs + new)
    (hheld : (s.live usebuffer ++ List.range' s.mallocs new).Perm (out ++ s'.live usebuffer))
    (hlog : s'.freed = s.freed ++ out) : Kept usebuffer s' := by
  have hm : Custody.Moves (fun b freed => freed == b) (s.custody usebuffer) (s'.custody usebuffer)
      new out out :=
    ⟨hcount, hheld, hlog, fun b hb => List.filter_eq_nil_iff.mpr fun b' hb' heq =>
      hb (beq_iff_eq.mp heq ▸ hb')⟩
  refine ⟨hm.tracked h.tracked,
    (hm.accounted_iff h.tracked (fun _ _ _ => Iff.rfl) h.accounted).mpr fun b hb => ?_⟩
  have hnodup : out.Nodup := (List.nodup_append'.mp (hm.nodup_out h.tracked)).1
  rw [List.filter_beq, List.count_eq_one_of_mem hnodup hb]
  rfl

/-- Steps that leave the blocks alone. -/
lemma Kept.congr (h : Kept usebuffer s) (hcustody : s'.custody usebuffer = s.custody usebuffer) :
    Kept usebuffer s' := by
  constructor
  · rw [hcustody]
    exact h.tracked
  · rw [hcustody]
    exact h.accounted

/-- A new block goes to the input table. -/
lemma Kept.addInput (h : Kept usebuffer s) (handle : Ptr) :
    Kept usebuffer (s.addInput s.mInputBuffers.count handle) := by
  refine h.of_moves 1 [] rfl ?_ (List.append_nil _).symm
  have hlive : (s.addInput s.mInputBuffers.count handle).live usebuffer =
      s.mInputBuffers.live ++ [s.mallocs] ++ if usebuffer then s.mOutputBuffers.live else [] :=
    congrArg (· ++ _) (live_put s.mInputBuffers s.mallocs)
  rw [hlive, live, List.nil_append, List.append_assoc, List.append_assoc]
  exact List.Perm.append_left _ List.perm_append_comm

/-- A new block goes to the output table. -/
lemma Kept.addOutput (h : Kept true s) : Kept true (s.addOutput s.mOutputBuffers.count) := by
  refine h.of_moves 1 [] rfl ?_ (List.append_nil _).symm
  have hlive : (s.addOutput s.mOutputBuffers.count).live true =
      s.mInputBuffers.live ++ (s.mOutputBuffers.live ++ [s.mallocs]) :=
    congrArg (s.mInputBuffers.live ++ ·) (live_put s.mOutputBuffers s.mallocs)
  rw [hlive, live, if_pos rfl, List.nil_append, List.append_assoc]
  exact List.Perm.refl _

/-- The blocks of the input port are freed. -/
lemma Kept.freeInput (h : Kept usebuffer s) : Kept usebuffer s.freeInput := by
  refine h.of_moves 0 s.mInputBuffers.live rfl ?_ rfl
  rw [List.range'_zero, List.append_nil]
  exact List.Perm.refl _

/-- The blocks of the output port are freed. -/
lemma Kept.freeOutput (h : Kept true s) : Kept true s.freeOutput := by
  refine h.of_moves 0 s.mOutputBuffers.live rfl ?_ rfl
  have hlive : s.freeOutput.live true = s.mInputBuffers.live ++ [] := rfl
  rw [List.range'_zero, List.append_nil, hlive, List.append_nil]
  exact List.perm_append_comm

/-- A block in the tables was allocated. -/
lemma Kept.lt_of_mem (h : Kept usebuffer s) {b : Block} (hb : b ∈ s.live usebuffer) :
    b < s.mallocs := h.tracked.held_lt b hb

/-- A block that is not in the tables was freed once. -/
lemma Kept.freed_once (h : Kept usebuffer s) {b : Block} (hlt : b < s.mallocs)
    (hb : b ∉ s.live usebuffer) : s.freed.count b = 1 := by
  have hfilter := (h.accounted b hlt).resolve_left hb
  rw [List.count, List.countP_eq_length_filter]
  exact congrArg List.length hfilter

end Blocks

/-! ### The loops -/

section Loops

variable {usebuffer} {call : UseBuffersCall} {s₀ s : VceTables}

/-- The input table after `i` passes. -/
structure InputFilled (usebuffer : Bool) (call : UseBuffersCall) (s₀ : VceTables) (i : ℕ)
    (s : VceTables) : Prop where
  kept : Kept usebuffer s
  count : s.mInputBuffers.count = i
  handles : ∀ k < i, s.handle (s.mInputBuffers.buffers k) = call.bufs k
  unchanged : Unchanged s₀ s .input
  mallocs : s₀.mallocs ≤ s.mallocs

/-- A pass for the input port. -/
lemma InputFilled.pass {i : ℕ} (h : InputFilled usebuffer call s₀ i s) :
    InputFilled usebuffer call s₀ (i + 1) (s.addInput i (call.bufs i)) where
  kept := by
    rw [← h.count]
    exact h.kept.addInput _
  count := congrArg (· + 1) h.count
  handles k hk := by
    show Function.update s.handle s.mallocs (call.bufs i)
      (Function.update s.mInputBuffers.buffers i s.mallocs k) = call.bufs k
    by_cases hlast : k = i
    · rw [hlast, Function.update_self, Function.update_self]
    · have hmem : s.mInputBuffers.buffers k ∈ s.live usebuffer :=
        List.mem_append_left _ (List.mem_map.mpr ⟨k, List.mem_range.mpr (by
          rw [h.count]
          omega), rfl⟩)
      rw [Function.update_of_ne hlast, Function.update_of_ne (h.kept.lt_of_mem hmem).ne]
      exact h.handles k (by omega)
  unchanged := h.unchanged
  mallocs := h.mallocs.trans (Nat.le_succ _)

/-- **The loop for the input port** comes to its end exactly if each pass has memory and an entry of
the table; where it leaves before, the status is `NO_ERROR`. -/
lemma fillInput_spec {n i : ℕ} (h : InputFilled usebuffer call s₀ i s) :
    match fillInput call n i s with
    | .done s' => InputFilled usebuffer call s₀ (i + n) s' ∧
        ∀ k, i ≤ k → k < i + n → HasBlock call k
    | .exit ret s' => ret = NO_ERROR ∧ (∃ j, InputFilled usebuffer call s₀ j s') ∧
        ∃ k, i ≤ k ∧ k < i + n ∧ ¬ HasBlock call k
    | .undefined => ∃ k, i ≤ k ∧ k < i + n ∧ ¬ HasBlock call k := by
  induction n generalizing i s with
  | zero => exact ⟨h, fun k hle hlt => absurd hlt (by omega)⟩
  | succ n ih =>
    unfold fillInput
    split_ifs with hmemory hlt
    · exact ⟨rfl, ⟨i, h⟩, i, le_rfl, by omega, fun hboth => by simp [hboth.1] at hmemory⟩
    · have hrest := ih h.pass
      have hhere : HasBlock call i := ⟨Bool.eq_true_of_not_eq_false hmemory, hlt⟩
      cases hend : fillInput call n (i + 1) (s.addInput i (call.bufs i)) with
      | done s' =>
        rw [hend] at hrest
        refine ⟨?_, fun k hle hk => ?_⟩
        · have hsum : i + 1 + n = i + (n + 1) := by omega
          exact hsum ▸ hrest.1
        · rcases hle.eq_or_lt with rfl | hgt
          · exact hhere
          · exact hrest.2 k hgt (by omega)
      | exit ret s' =>
        rw [hend] at hrest
        obtain ⟨hret, hfilled, k, hle, hk, hnot⟩ := hrest
        exact ⟨hret, hfilled, k, by omega, by omega, hnot⟩
      | undefined =>
        rw [hend] at hrest
        obtain ⟨k, hle, hk, hnot⟩ := hrest
        exact ⟨k, by omega, by omega, hnot⟩
    · exact ⟨i, le_rfl, by omega, fun hboth => hlt hboth.2⟩

/-- The output table after `i` passes, the last of which may be without a handle. -/
structure OutputFilled (s₀ : VceTables) (i : ℕ) (s : VceTables) : Prop where
  kept : Kept true s
  count : s.mOutputBuffers.count = i
  unchanged : Unchanged s₀ s .output
  mallocs : s₀.mallocs ≤ s.mallocs

/-- The output table after `i` passes. -/
structure OutputHandled (call : UseBuffersCall) (s₀ : VceTables) (i : ℕ) (s : VceTables) :
    Prop extends OutputFilled s₀ i s where
  handleCount : s.mOutputBufferHandleCount = i
  handles : ∀ k < i, call.alloc k = some (s.handle (s.mOutputBuffers.buffers k))

/-- A block is put into the output table. -/
lemma OutputFilled.add {i : ℕ} (h : OutputFilled s₀ i s) :
    OutputFilled s₀ (i + 1) (s.addOutput i) where
  kept := by
    rw [← h.count]
    exact h.kept.addOutput
  count := congrArg (· + 1) h.count
  unchanged := h.unchanged
  mallocs := h.mallocs.trans (Nat.le_succ _)

/-- A pass for the output port. -/
lemma OutputHandled.pass {i : ℕ} (h : OutputHandled call s₀ i s) {buf : Ptr}
    (hbuf : call.alloc i = some buf) :
    OutputHandled call s₀ (i + 1) ((s.addOutput i).setOutputHandle i buf) where
  kept := h.toOutputFilled.add.kept.congr rfl
  count := h.toOutputFilled.add.count
  unchanged := h.unchanged
  mallocs := h.toOutputFilled.add.mallocs
  handleCount := congrArg (· + 1) h.handleCount
  handles k hk := by
    show call.alloc k = some
      (Function.update s.handle (Function.update s.mOutputBuffers.buffers i s.mallocs i) buf
        (Function.update s.mOutputBuffers.buffers i s.mallocs k))
    rw [Function.update_self]
    by_cases hlast : k = i
    · rw [hlast, Function.update_self, Function.update_self, hbuf]
    · have hmem : s.mOutputBuffers.buffers k ∈ s.live true :=
        List.mem_append_right _ (List.mem_map.mpr ⟨k, List.mem_range.mpr (by
          rw [h.count]
          omega), rfl⟩)
      rw [Function.update_of_ne hlast, Function.update_of_ne (h.kept.lt_of_mem hmem).ne]
      exact h.handles k (by omega)

/-- From pass `i` on, all passes before pass `k` get a buffer. -/
def Reaches (call : UseBuffersCall) (i k : ℕ) : Prop :=
  ∀ j, i ≤ j → j < k → (call.alloc j).isSome = true

/-- **The loop for the output port** comes to its end if each pass has memory, an entry of the table
and a buffer. Where it leaves because there is no buffer, the status is an error; where there is no
memory, it is `NO_ERROR`. -/
lemma fillOutput_spec {n i : ℕ} (h : OutputHandled call s₀ i s) :
    match fillOutput call n i s with
    | .done s' => OutputHandled call s₀ (i + n) s' ∧ ∀ k, i ≤ k → k < i + n → HasBlock call k
    | .exit ret s' => (∃ j, OutputFilled s₀ j s') ∧
        (ret = NO_ERROR ∧ (∃ k, i ≤ k ∧ k < i + n ∧ Reaches call i k ∧ ¬ HasBlock call k) ∨
          ret ≠ NO_ERROR ∧ ∃ k, i ≤ k ∧ k < i + n ∧ call.alloc k = none ∧
            ∀ j, i ≤ j → j ≤ k → HasBlock call j)
    | .undefined => ∃ k, i ≤ k ∧ k < i + n ∧ Reaches call i k ∧ ¬ HasBlock call k := by
  induction n generalizing i s with
  | zero => exact ⟨h, fun k hle hlt => absurd hlt (by omega)⟩
  | succ n ih =>
    have hnone : Reaches call i i := fun j hle hlt => absurd hlt (by omega)
    unfold fillOutput
    split_ifs with hmemory hlt
    · exact ⟨⟨i, h.toOutputFilled⟩, Or.inl ⟨rfl, i, le_rfl, by omega, hnone, fun hboth => by
        simp [hboth.1] at hmemory⟩⟩
    · have hhere : HasBlock call i := ⟨Bool.eq_true_of_not_eq_false hmemory, hlt⟩
      cases hbuf : call.alloc i with
      | none =>
        refine ⟨⟨i + 1, h.toOutputFilled.add⟩, Or.inr ⟨by decide, i, le_rfl, by omega, hbuf, ?_⟩⟩
        intro j hle hj
        rw [Nat.le_antisymm hj hle]
        exact hhere
      | some buf =>
        dsimp only
        have hrest := ih (h.pass hbuf)
        have hreaches : ∀ {k}, Reaches call (i + 1) k → Reaches call i k := fun hk j hle hj => by
          rcases hle.eq_or_lt with rfl | hgt
          · simp [hbuf]
          · exact hk j hgt hj
        cases hend : fillOutput call n (i + 1) ((s.addOutput i).setOutputHandle i buf) with
        | done s' =>
          rw [hend] at hrest
          refine ⟨?_, fun k hle hk => ?_⟩
          · have hsum : i + 1 + n = i + (n + 1) := by omega
            exact hsum ▸ hrest.1
          · rcases hle.eq_or_lt with rfl | hgt
            · exact hhere
            · exact hrest.2 k hgt (by omega)
        | exit ret s' =>
          rw [hend] at hrest
          refine ⟨hrest.1, ?_⟩
          rcases hrest.2 with ⟨hret, k, hle, hk, hreach, hnot⟩ | ⟨hret, k, hle, hk, hnobuf, hall⟩
          · exact Or.inl ⟨hret, k, by omega, by omega, hreaches hreach, hnot⟩
          · refine Or.inr ⟨hret, k, by omega, by omega, hnobuf, fun j hj hjk => ?_⟩
            rcases hj.eq_or_lt with rfl | hgt
            · exact hhere
            · exact hall j hgt hjk
        | undefined =>
          rw [hend] at hrest
          obtain ⟨k, hle, hk, hreach, hnot⟩ := hrest
          exact ⟨k, by omega, by omega, hreaches hreach, hnot⟩
    · exact ⟨i, le_rfl, by omega, hnone, fun hboth => hlt hboth.2⟩

end Loops

/-! ### One call -/

section Call

variable {usebuffer} {call : UseBuffersCall} {s s' : VceTables}

/-- A table without entries has no blocks. -/
lemma live_of_count {t : BufferTable} (h : t.count = 0) : t.live = [] := by
  rw [BufferTable.live, h]
  rfl

/-- Where the port is emptied and the other one left alone, the blocks in the tables are those from
before less those of the port. -/
lemma perm_live {port : VcePort} (hemptied : s'.Emptied port) (hunchanged : Unchanged s s' port) :
    (s.blocks usebuffer port ++ s'.live usebuffer).Perm (s.live usebuffer) := by
  cases port with
  | input =>
    rw [blocks, live, live, live_of_count hemptied, hunchanged.1, List.nil_append]
  | output =>
    have hin : s'.mInputBuffers = s.mInputBuffers := hunchanged
    cases usebuffer with
    | false => simp [blocks, live, hin]
    | true =>
      simp only [blocks, live, if_true, live_of_count hemptied.1, hin, List.append_nil]
      exact List.perm_append_comm
  | other =>
    rw [blocks, live, live, hunchanged.1, hunchanged.2.1, List.nil_append]

/-- A call that fails does what is expected if it has emptied the port's table and has left the
other port alone. -/
lemma callWorks_of_error {ret : Status} (h : Kept usebuffer s) (h' : Kept usebuffer s')
    (hcall : s.useBuffers usebuffer call = some (ret, s')) (hret : ret ≠ NO_ERROR)
    (hemptied : s'.Emptied call.port) (hunchanged : Unchanged s s' call.port)
    (hmallocs : s.mallocs ≤ s'.mallocs) : s.CallWorks usebuffer call := by
  have hperm : (s.blocks usebuffer call.port ++ s'.live usebuffer).Perm (s.live usebuffer) :=
    perm_live hemptied hunchanged
  have hnodup : (s.blocks usebuffer call.port ++ s'.live usebuffer).Nodup :=
    hperm.nodup_iff.mpr h.tracked.nodup
  refine ⟨ret, s', hcall, Or.inr ⟨hret, hemptied, fun b hb => ?_⟩, hunchanged, h'⟩
  rcases hb with hb | ⟨hge, hlt⟩
  · have hlt := h.lt_of_mem (hperm.subset (List.mem_append_left _ hb))
    exact h'.freed_once (hlt.trans_le hmallocs) ((List.nodup_append'.mp hnodup).2.2 hb)
  · refine h'.freed_once hlt fun hmem => ?_
    exact absurd (h.lt_of_mem (hperm.subset (List.mem_append_right _ hmem))) (not_lt.mpr hge)

/-- After `EXIT` no block is lost. -/
lemma Kept.exit (h : Kept usebuffer s) (port : VcePort) :
    Kept usebuffer (s.exit usebuffer port) := by
  unfold VceTables.exit clearPort
  cases usebuffer with
  | false =>
    simp only [Bool.false_eq_true, if_false]
    split_ifs
    · exact h.freeInput.congr rfl
    · exact h.congr rfl
  | true =>
    simp only [if_true]
    split_ifs
    · exact h.freeInput.congr rfl
    · exact h.freeOutput.congr rfl

/-- `EXIT` empties the port's table, and for the output port the handles. -/
lemma emptied_exit (s : VceTables) (port : VcePort) : (s.exit usebuffer port).Emptied port := by
  unfold VceTables.exit clearPort
  cases port with
  | input => cases usebuffer <;> rfl
  | output => cases usebuffer <;> exact ⟨rfl, rfl⟩
  | other => trivial

/-- `EXIT` for the output port leaves the input port alone. -/
lemma unchanged_exit_output (s : VceTables) : Unchanged s (s.exit usebuffer .output) .output := by
  cases usebuffer <;> rfl

/-- `EXIT` for the input port leaves the output port alone if there are no handles. -/
lemma unchanged_exit_input_iff (s : VceTables) :
    Unchanged s (s.exit usebuffer .input) .input ↔ s.mOutputBufferHandleCount = 0 := by
  cases usebuffer <;> exact ⟨fun h => h.2.symm, fun h => ⟨rfl, h.symm⟩⟩

/-- `EXIT` for no port leaves both ports alone if the output port has no buffers. -/
lemma unchanged_exit_other_iff (s : VceTables) :
    Unchanged s (s.exit usebuffer .other) .other ↔
      s.mOutputBuffers.count = 0 ∧ s.mOutputBufferHandleCount = 0 := by
  have hclear : s.mOutputBuffers.clear = s.mOutputBuffers ↔ s.mOutputBuffers.count = 0 := by
    constructor
    · intro heq
      rw [← heq]
      rfl
    · intro hcount
      rw [BufferTable.clear, ← hcount]
  have hexit : (s.exit usebuffer .other).mInputBuffers = s.mInputBuffers ∧
      (s.exit usebuffer .other).mOutputBuffers = s.mOutputBuffers.clear ∧
      (s.exit usebuffer .other).mOutputBufferHandleCount = 0 := by
    cases usebuffer <;> exact ⟨rfl, rfl, rfl⟩
  rw [Unchanged, hexit.1, hexit.2.1, hexit.2.2, hclear]
  exact ⟨fun h => ⟨h.2.1, h.2.2.symm⟩, fun h => ⟨rfl, h.1, h.2.symm⟩⟩

/-- The allocations so far, after `EXIT`. -/
lemma mallocs_exit (s : VceTables) (port : VcePort) :
    (s.exit usebuffer port).mallocs = s.mallocs := by
  cases usebuffer <;> cases port <;> rfl

/-- A call in a component that is not loaded, or for no port, goes to `EXIT` with an error: it does
what is expected exactly if `EXIT` leaves the other port alone. -/
lemma callWorks_iff_of_exit (h : Kept usebuffer s) {ret : Status} (hret : ret ≠ NO_ERROR)
    (hbody : s.useBuffersBody usebuffer call = .exit ret s) :
    s.CallWorks usebuffer call ↔ Unchanged s (s.exit usebuffer call.port) call.port := by
  have hcall : s.useBuffers usebuffer call = some (ret, s.exit usebuffer call.port) := by
    rw [useBuffers, hbody]
  constructor
  · rintro ⟨ret', s', hcall', -, hunchanged, -⟩
    rw [hcall, Option.some.injEq, Prod.mk.injEq] at hcall'
    rw [hcall'.2]
    exact hunchanged
  · intro hunchanged
    exact callWorks_of_error h (h.exit call.port) hcall hret (emptied_exit s call.port) hunchanged
      (mallocs_exit s call.port).ge

/-- A call that succeeds does what is expected if all buffers are recorded. -/
lemma callWorks_of_done (h' : Kept usebuffer s')
    (hbody : s.useBuffersBody usebuffer call = .done s') (hrecorded : s'.Recorded usebuffer call)
    (hunchanged : Unchanged s s' call.port) : s.CallWorks usebuffer call :=
  ⟨NO_ERROR, s', by rw [useBuffers, hbody], Or.inl ⟨rfl, hrecorded⟩, hunchanged, h'⟩

/-- A call with buffers that leaves for `EXIT` with `NO_ERROR` does not do what is expected: it has
emptied the table. -/
lemma not_callWorks_of_exit (hbody : s.useBuffersBody usebuffer call = .exit NO_ERROR s')
    (hcount : 0 < call.bufCount) : ¬ s.CallWorks usebuffer call := by
  rintro ⟨ret, s'', hcall, hend, -⟩
  rw [useBuffers, hbody, Option.some.injEq, Prod.mk.injEq] at hcall
  obtain ⟨rfl, rfl⟩ := hcall
  have hempty : (s'.exit usebuffer call.port).Emptied call.port := emptied_exit s' call.port
  rcases hend with ⟨-, hrecorded⟩ | ⟨hret, -⟩
  · unfold Recorded at hrecorded
    cases hport : call.port with
    | input =>
      rw [hport] at hrecorded hempty
      exact hcount.ne (hempty.symm.trans hrecorded.1)
    | output =>
      rw [hport] at hrecorded hempty
      exact hcount.ne (hempty.1.symm.trans hrecorded.1)
    | other =>
      rw [hport] at hrecorded
      exact hrecorded
  · exact hret rfl

/-- A call whose behaviour is not defined does not do what is expected. -/
lemma not_callWorks_of_undefined (hbody : s.useBuffersBody usebuffer call = .undefined) :
    ¬ s.CallWorks usebuffer call := by
  rintro ⟨ret, s', hcall, -⟩
  rw [useBuffers, hbody] at hcall
  cases hcall

/-- A call for the input port of a loaded component. -/
lemma callWorks_input_iff (h : Kept usebuffer s) (hport : call.port = .input)
    (hloaded : s.mComponentState = .OMX_StateLoaded) :
    s.CallWorks usebuffer call ↔ ∀ i < call.bufCount, HasBlock call i := by
  have hfilled : InputFilled usebuffer call s 0
      { s.freeInput with mInputBufferSize := call.bufSize } :=
    ⟨h.freeInput.congr rfl, rfl, fun k hk => absurd hk (Nat.not_lt_zero k), ⟨rfl, rfl⟩, le_rfl⟩
  have hspec := fillInput_spec (n := call.bufCount) hfilled
  have hbody : s.useBuffersBody usebuffer call =
      fillInput call call.bufCount 0 { s.freeInput with mInputBufferSize := call.bufSize } := by
    rw [useBuffersBody, if_neg (not_not.mpr hloaded), hport]
  rw [Nat.zero_add] at hspec
  cases hend : fillInput call call.bufCount 0
      { s.freeInput with mInputBufferSize := call.bufSize } with
  | done s' =>
    rw [hend] at hspec hbody
    refine iff_of_true (callWorks_of_done hspec.1.kept hbody ?_ ?_) fun i hi =>
      hspec.2 i (Nat.zero_le i) hi
    · rw [Recorded, hport]
      exact ⟨hspec.1.count, hspec.1.handles⟩
    · rw [hport]
      exact hspec.1.unchanged
  | exit ret s' =>
    rw [hend] at hspec hbody
    obtain ⟨rfl, -, k, -, hk, hnot⟩ := hspec
    exact iff_of_false (not_callWorks_of_exit hbody (by omega)) fun hall => hnot (hall k hk)
  | undefined =>
    rw [hend] at hspec hbody
    obtain ⟨k, -, hk, hnot⟩ := hspec
    exact iff_of_false (not_callWorks_of_undefined hbody) fun hall => hnot (hall k hk)

/-- A call for the output port of a loaded component, with blocks. -/
lemma callWorks_output_iff (h : Kept true s) (hport : call.port = .output)
    (hloaded : s.mComponentState = .OMX_StateLoaded) :
    s.CallWorks true call ↔ ∀ i < call.bufCount, Reaches call 0 i → HasBlock call i := by
  let start : VceTables := { s.freeOutput.releaseHandles with mOutputBufferSize := call.bufSize }
  have hhandled : OutputHandled call s 0 start :=
    { kept := h.freeOutput.congr rfl
      count := rfl
      unchanged := rfl
      mallocs := le_rfl
      handleCount := rfl
      handles := fun k hk => absurd hk (Nat.not_lt_zero k) }
  have hspec := fillOutput_spec (n := call.bufCount) hhandled
  have hbody : s.useBuffersBody true call = fillOutput call call.bufCount 0 start := by
    rw [useBuffersBody, if_neg (not_not.mpr hloaded), hport]
    rfl
  rw [Nat.zero_add] at hspec
  cases hend : fillOutput call call.bufCount 0 start with
  | done s' =>
    rw [hend] at hspec hbody
    refine iff_of_true (callWorks_of_done hspec.1.kept hbody ?_ ?_) fun i hi _ =>
      hspec.2 i (Nat.zero_le i) hi
    · rw [Recorded, hport]
      exact ⟨hspec.1.count, fun _ => ⟨hspec.1.handleCount, hspec.1.handles⟩⟩
    · rw [hport]
      exact hspec.1.unchanged
  | exit ret s' =>
    rw [hend] at hspec hbody
    obtain ⟨⟨j, hfilled⟩, ⟨rfl, k, -, hk, hreach, hnot⟩ | ⟨hret, k, -, hk, hnobuf, hall⟩⟩ := hspec
    · exact iff_of_false (not_callWorks_of_exit hbody (by omega)) fun hall =>
        hnot (hall k hk hreach)
    · have hcall : s.useBuffers true call = some (ret, s'.exit true call.port) := by
        rw [useBuffers, hbody]
      refine iff_of_true (callWorks_of_error h (hfilled.kept.exit call.port) hcall hret
        (emptied_exit s' call.port) ?_ ?_) fun i hi hreach => ?_
      · rw [hport]
        exact (unchanged_exit_output s').trans hfilled.unchanged
      · rw [mallocs_exit]
        exact hfilled.mallocs
      · -- no pass behind the one without a buffer is come to
        refine hall i (Nat.zero_le i) (not_lt.mp fun hlt => ?_)
        have hsome := hreach k (Nat.zero_le k) hlt
        rw [hnobuf] at hsome
        cases hsome
  | undefined =>
    rw [hend] at hspec hbody
    obtain ⟨k, -, hk, hreach, hnot⟩ := hspec
    exact iff_of_false (not_callWorks_of_undefined hbody) fun hall => hnot (hall k hk hreach)

/-- **One call does what is expected exactly if it is provided for.**

**Proof sketch.** A call that goes to `EXIT` at once does what is expected exactly if `EXIT` leaves
the other port alone; in a loaded component the loop comes to its end, or leaves with an error,
exactly if it does not run out of memory or entries. -/
theorem works_iff_provided (h : Kept usebuffer s) :
    s.CallWorks usebuffer call ↔ s.CallProvided usebuffer call := by
  unfold CallProvided
  by_cases hloaded : s.mComponentState = .OMX_StateLoaded
  · cases hport : call.port with
    | input =>
      rw [callWorks_input_iff h hport hloaded]
      simp only [if_pos hloaded]
    | output =>
      cases usebuffer with
      | false =>
        let served : VceTables :=
          { s with
            mOutputBufferHandleCount := 0
            mOutputBuffers := { s.mOutputBuffers with count := call.bufCount }
            mOutputBufferSize := call.bufSize }
        have hbody : s.useBuffersBody false call = .done served := by
          rw [useBuffersBody, if_neg (not_not.mpr hloaded), hport]
          rfl
        have hkept : Kept false served := h.congr rfl
        refine iff_of_true (callWorks_of_done hkept hbody ?_ ?_) fun _ hfalse =>
          absurd hfalse Bool.false_ne_true
        · rw [Recorded, hport]
          exact ⟨rfl, fun hfalse => absurd hfalse Bool.false_ne_true⟩
        · rw [hport]
          rfl
      | true =>
        rw [callWorks_output_iff h hport hloaded]
        exact ⟨fun hall _ _ i hi hreach => hall i hi fun j _ hj => hreach j hj,
          fun hall i hi hreach => hall hloaded rfl i hi fun j hj => hreach j (Nat.zero_le j) hj⟩
    | other =>
      have hbody : s.useBuffersBody usebuffer call = .exit BAD_VALUE s := by
        rw [useBuffersBody, if_neg (not_not.mpr hloaded), hport]
      rw [callWorks_iff_of_exit h (by decide) hbody, hport, unchanged_exit_other_iff]
  · have hbody : s.useBuffersBody usebuffer call = .exit INVALID_OPERATION s := if_pos hloaded
    rw [callWorks_iff_of_exit h (by decide) hbody]
    cases call.port with
    | input => rw [unchanged_exit_input_iff, if_neg hloaded]
    | output =>
      exact iff_of_true (unchanged_exit_output s) fun hstate => absurd hstate hloaded
    | other => exact unchanged_exit_other_iff s

end Call

/-! ### Runs -/

/-- No block is lost in a step that does what is expected. -/
lemma kept_step {s : VceTables} (h : Kept usebuffer s) {a : Action} (ha : s.Works usebuffer a) :
    Kept usebuffer (s.step usebuffer a) := by
  cases a with
  | useBuffers call =>
    obtain ⟨ret, s', hcall, -, -, hkept⟩ := ha
    simp only [step, hcall, Option.map_some, Option.getD_some]
    exact hkept
  | setComponentState state => exact h.congr rfl

/-- No block is lost before the first allocation. -/
lemma kept_constructed (buffers buffers' : ℕ → Block) (handles : ℕ → Ptr) (handle : Block → Ptr) :
    Kept usebuffer (constructed buffers buffers' handles handle) where
  tracked := by
    have hlive : (constructed buffers buffers' handles handle).live usebuffer = [] := by
      cases usebuffer <;> rfl
    refine ⟨?_, ?_, fun _ _ => rfl⟩
    · show ((constructed buffers buffers' handles handle).live usebuffer).Nodup
      rw [hlive]
      exact List.nodup_nil
    · show ∀ b ∈ (constructed buffers buffers' handles handle).live usebuffer, _
      rw [hlive]
      exact fun b hb => absurd hb List.not_mem_nil
  accounted b hb := absurd hb (Nat.not_lt_zero b)

/-- **`useBuffers` does what is expected in the runs in which it is provided for.** In every
sequence of calls for the ports, and of changes of the component's state, whichever allocations
fail: each call has recorded all buffers, or fails with the port's table emptied and each of its
blocks freed once, with the other port unchanged and no block freed twice or lost, if and only if
each call is provided for.

**Proof sketch.** The blocks in the tables are in custody, and each other one was freed once; one
call keeps this and does what is expected exactly if it is provided for (`works_iff_provided`). -/
theorem useBuffers_works_iff (buffers buffers' : ℕ → Block) (handles : ℕ → Ptr)
    (handle : Block → Ptr) (run : List Action) :
    StepRun.Along (step usebuffer) (Works usebuffer)
        (constructed buffers buffers' handles handle) run ↔
      StepRun.Along (step usebuffer) (Provided usebuffer)
        (constructed buffers buffers' handles handle) run := by
  have hagree : ∀ s a, Kept usebuffer s → (s.Works usebuffer a ↔ s.Provided usebuffer a) := by
    intro s a h
    cases a with
    | useBuffers call => exact works_iff_provided h
    | setComponentState state => exact Iff.rfl
  exact StepRun.along_iff_along hagree
    (fun s a h ha => kept_step usebuffer h ((hagree s a h).mpr ha))
    (kept_constructed usebuffer buffers buffers' handles handle)

/-- A call for the input port with two buffers. -/
def twoBuffers (memory : ℕ → Bool) : UseBuffersCall where
  port := .input
  bufSize := 614400
  bufs := fun i => 0x1000 + i
  bufCount := 2
  memory := memory
  alloc := fun _ => none

/-- The tables of a component that has just been loaded. -/
def loaded : VceTables :=
  { constructed (fun _ => 0) (fun _ => 0) (fun _ => 0) fun _ => 0 with
    mComponentState := .OMX_StateLoaded }

/-- In the build without `OMX_VCE_OUTPUT_USEBUFFER`: where there is no memory for the second block,
the call returns `NO_ERROR` with an empty table. The 21st of the buffers is written behind the end
of the table. And a call for no port takes the buffers of the output port away. -/
theorem not_useBuffers_works :
    ((∃ s', loaded.useBuffers false (twoBuffers fun i => i = 0) = some (NO_ERROR, s') ∧
        s'.mInputBuffers.count = 0 ∧ s'.freed = [0]) ∧
      ¬ loaded.CallWorks false (twoBuffers fun i => i = 0)) ∧
    ¬ loaded.CallWorks false { twoBuffers (fun _ => true) with bufCount := 21 } ∧
    ¬ StepRun.Along (step false) (Works false) loaded
      [.useBuffers { twoBuffers (fun _ => true) with port := .output },
        .useBuffers { twoBuffers (fun _ => true) with port := .other }] := by
  refine ⟨⟨⟨_, rfl, rfl, rfl⟩, ?_⟩, ?_, ?_⟩
  · have hcount : 0 < (twoBuffers fun i => i = 0).bufCount := by decide
    exact not_callWorks_of_exit rfl hcount
  · exact not_callWorks_of_undefined rfl
  · rintro ⟨-, ⟨ret, s', hcall, -, hunchanged, -⟩, -⟩
    have hcount : s'.mOutputBuffers.count = 0 := by
      obtain ⟨rfl, rfl⟩ := Prod.mk.inj (Option.some.inj hcall)
      rfl
    rw [hunchanged.2.1] at hcount
    exact absurd hcount (by decide)

end VceTables

end CameraHal
