import Gs702aHal.Camera.JpegRows
import Gs702aHal.Lib.StepRun

set_option relaxedAutoImplicit false
set_option autoImplicit false

/-!
# The destination of the JPEG encoder

The JPEG library stores its output through a destination manager. It stores bytes by itself, as long
as the manager says that there is room, and calls the manager when the buffer is full. The manager
of the encoder then starts again at the beginning of the same buffer, without keeping what is in it,
and tells the library to go on. At the end it reports how much of the buffer is filled.

## Main definitions

* `CameraHal.LibjpegDestinationMgr` — the manager, with its three callbacks.
* `CameraHal.libraryStep`, `CameraHal.LibraryMay` — what the library does, and when it may.
* `CameraHal.encodeDestination` — the manager at the end of `encode`.
* `CameraHal.Accounts` — the output is complete, or its overflow is reported.

## Main results

* `CameraHal.fills_final` — what is in the buffer after any sequence of bytes and calls.
* `CameraHal.accounts_iff` — when the output is accounted for.
-/

namespace CameraHal

open StepRun

/-- `libjpeg_destination_mgr`. The buffer is the memory from the pointer `buf` on, and
`next_output_byte` is relative to it. -/
structure LibjpegDestinationMgr where
  next_output_byte : ℕ
  free_in_buffer : ℕ
  buf : Buffer
  bufsize : ℕ
  jpegsize : ℕ

/-- The constructor, which does not set the first two fields. -/
def libjpeg_destination_mgr (next_output_byte free_in_buffer : ℕ) (input : Buffer) (size : ℕ) :
    LibjpegDestinationMgr where
  next_output_byte := next_output_byte
  free_in_buffer := free_in_buffer
  buf := input
  bufsize := size
  jpegsize := 0

/-- `libjpeg_init_destination`. -/
def libjpeg_init_destination (dest : LibjpegDestinationMgr) : LibjpegDestinationMgr :=
  { dest with
    next_output_byte := 0
    free_in_buffer := dest.bufsize
    jpegsize := 0 }

/-- `libjpeg_empty_output_buffer`; the library is told to go on. -/
def libjpeg_empty_output_buffer (dest : LibjpegDestinationMgr) : LibjpegDestinationMgr × Bool :=
  ({ dest with
      next_output_byte := 0
      free_in_buffer := dest.bufsize }, true)

/-- `libjpeg_term_destination`. -/
def libjpeg_term_destination (dest : LibjpegDestinationMgr) : LibjpegDestinationMgr :=
  { dest with jpegsize := dest.bufsize - dest.free_in_buffer }

/-- What the library does with the manager between its first and its last callback. -/
inductive LibraryAct
  | emit (b : Byte)
  | emptyOutputBuffer
  deriving DecidableEq, Repr

/-- The manager after that. The library stores a byte by itself. -/
def libraryStep (dest : LibjpegDestinationMgr) : LibraryAct → LibjpegDestinationMgr
  | .emit b =>
    { dest with
      buf := Function.update dest.buf dest.next_output_byte b
      next_output_byte := dest.next_output_byte + 1
      free_in_buffer := dest.free_in_buffer - 1 }
  | .emptyOutputBuffer => (libjpeg_empty_output_buffer dest).1

/-- The protocol of the library: it stores where there is room, and calls when there is none. -/
def LibraryMay (dest : LibjpegDestinationMgr) : LibraryAct → Prop
  | .emit _ => 0 < dest.free_in_buffer
  | .emptyOutputBuffer => dest.free_in_buffer = 0

instance (dest : LibjpegDestinationMgr) : ∀ act, Decidable (LibraryMay dest act)
  | .emit _ => inferInstanceAs (Decidable (0 < dest.free_in_buffer))
  | .emptyOutputBuffer => inferInstanceAs (Decidable (dest.free_in_buffer = 0))

/-- The bytes that the library emits. -/
def emitted : List LibraryAct → List Byte
  | [] => []
  | .emit b :: acts => b :: emitted acts
  | .emptyOutputBuffer :: acts => emitted acts

/-- How often it calls `empty_output_buffer`. -/
def calls : List LibraryAct → ℕ
  | [] => 0
  | .emit _ :: acts => calls acts
  | .emptyOutputBuffer :: acts => calls acts + 1

/-- The manager at the end of `encode`, whose `jpegsize` is the result. If the parameters are
refused, the library is not called. -/
def encodeDestination (p : JpegParams) (dest : LibjpegDestinationMgr) (acts : List LibraryAct) :
    LibjpegDestinationMgr :=
  if p.Refused ∨ ¬ p.Raw then dest
  else libjpeg_term_destination (final libraryStep (libjpeg_init_destination dest) acts)

/-- What the library can do in a call of `encode`. -/
def LibraryRuns (p : JpegParams) (dest : LibjpegDestinationMgr) (acts : List LibraryAct) : Prop :=
  if p.Refused ∨ ¬ p.Raw then acts = []
  else Along libraryStep LibraryMay (libjpeg_init_destination dest) acts

/-- The buffer holds exactly the bytes that were emitted and their number is the result; or they are
more than the buffer has, and the result is a failure. -/
def Accounts (acts : List LibraryAct) (dest : LibjpegDestinationMgr) : Prop :=
  dest.jpegsize = (emitted acts).length ∧ (List.range dest.jpegsize).map dest.buf = emitted acts ∨
    dest.bufsize < (emitted acts).length ∧ dest.jpegsize = 0

/-! ### What is in the buffer -/

/-- After some bytes and calls, the buffer holds what was emitted since the last call. -/
structure Fills (size : ℕ) (bytes : List Byte) (k : ℕ) (dest : LibjpegDestinationMgr) : Prop where
  bufsize : dest.bufsize = size
  room : dest.next_output_byte + dest.free_in_buffer = size
  count : k * size + dest.next_output_byte = bytes.length
  held : (List.range dest.next_output_byte).map dest.buf = bytes.drop (k * size)

variable {size k : ℕ} {bytes : List Byte} {dest : LibjpegDestinationMgr}

/-- At first it holds nothing. -/
lemma fills_init (dest : LibjpegDestinationMgr) :
    Fills dest.bufsize [] 0 (libjpeg_init_destination dest) where
  bufsize := rfl
  room := Nat.zero_add _
  count := by simp [libjpeg_init_destination]
  held := by simp [libjpeg_init_destination]

/-- A byte that is emitted comes behind the others. -/
lemma fills_emit (h : Fills size bytes k dest) {b : Byte} (hmay : 0 < dest.free_in_buffer) :
    Fills size (bytes ++ [b]) k (libraryStep dest (.emit b)) where
  bufsize := h.bufsize
  room := by
    have := h.room
    simp only [libraryStep]
    omega
  count := by
    have := h.count
    simp only [libraryStep, List.length_append, List.length_singleton]
    omega
  held := by
    have hkept : (List.range dest.next_output_byte).map
        (Function.update dest.buf dest.next_output_byte b) =
          (List.range dest.next_output_byte).map dest.buf := by
      refine List.map_congr_left fun i hi => ?_
      exact Function.update_of_ne (List.mem_range.mp hi).ne _ _
    have hle : k * size ≤ bytes.length := Nat.le.intro h.count
    simp only [libraryStep]
    rw [List.range_succ, List.map_append, hkept, h.held, List.drop_append_of_le_length hle,
      List.map_singleton, Function.update_self]

/-- A call forgets what the buffer holds. -/
lemma fills_call (h : Fills size bytes k dest) (hmay : dest.free_in_buffer = 0) :
    Fills size bytes (k + 1) (libraryStep dest .emptyOutputBuffer) := by
  have hfull : (k + 1) * size = bytes.length := by
    have hroom := h.room
    rw [Nat.add_one_mul, ← h.count]
    omega
  refine ⟨h.bufsize, ?_, hfull, ?_⟩
  · simp [libraryStep, libjpeg_empty_output_buffer, h.bufsize]
  · simp [libraryStep, libjpeg_empty_output_buffer, hfull]

/-- **After any sequence of bytes and calls**, the buffer holds the bytes since the last call.

**Proof sketch.** Induction on the sequence. A byte goes to the first free place, and a call comes
when the buffer is full. -/
theorem fills_final {acts : List LibraryAct} (h : Fills size bytes k dest)
    (hruns : Along libraryStep LibraryMay dest acts) :
    Fills size (bytes ++ emitted acts) (k + calls acts) (final libraryStep dest acts) := by
  induction acts generalizing bytes k dest with
  | nil => simpa [emitted, calls] using h
  | cons act acts ih =>
    obtain ⟨hmay, hruns⟩ := hruns
    cases act with
    | emit b =>
      have hrest := ih (fills_emit h hmay) hruns
      rwa [List.append_assoc] at hrest
    | emptyOutputBuffer =>
      have hrest := ih (fills_call h hmay) hruns
      rwa [Nat.add_assoc, Nat.add_comm 1] at hrest

/-- The manager at the end, if the parameters are accepted. -/
lemma fills_encodeDestination {p : JpegParams} (haccept : ¬ (p.Refused ∨ ¬ p.Raw))
    {acts : List LibraryAct} (hruns : LibraryRuns p dest acts) :
    ∃ last, Fills dest.bufsize (emitted acts) (calls acts) last ∧
      encodeDestination p dest acts = libjpeg_term_destination last := by
  rw [LibraryRuns, if_neg haccept] at hruns
  have hfills := fills_final (fills_init dest) hruns
  rw [List.nil_append, Nat.zero_add] at hfills
  exact ⟨_, hfills, if_neg haccept⟩

/-- **The output is accounted for exactly if** the library never called `empty_output_buffer`, or it
did so more than once and emitted nothing after the last call.

**Proof sketch.** The result is the number of bytes since the last call. It is that of all bytes if
there was no call, and otherwise less; then it has to be none. -/
theorem accounts_iff (p : JpegParams) (next_output_byte free_in_buffer : ℕ) (dst : Buffer)
    {acts : List LibraryAct}
    (hruns : LibraryRuns p
      (libjpeg_destination_mgr next_output_byte free_in_buffer dst p.dst_size) acts) :
    Accounts acts (encodeDestination p
        (libjpeg_destination_mgr next_output_byte free_in_buffer dst p.dst_size) acts) ↔
      calls acts = 0 ∨
        2 ≤ calls acts ∧ (emitted acts).length = calls acts * p.dst_size := by
  by_cases haccept : p.Refused ∨ ¬ p.Raw
  · rw [LibraryRuns, if_pos haccept] at hruns
    rw [hruns, encodeDestination, if_pos haccept]
    exact iff_of_true (Or.inl ⟨rfl, rfl⟩) (Or.inl rfl)
  · obtain ⟨last, hfills, hlast⟩ := fills_encodeDestination haccept hruns
    have hsize : 0 < p.dst_size := by
      have hrefused := not_or.mp haccept
      simp only [JpegParams.Refused, not_or] at hrefused
      omega
    have hbufsize : last.bufsize = p.dst_size := hfills.bufsize
    have hroom : last.next_output_byte + last.free_in_buffer = p.dst_size := hfills.room
    have hcount : calls acts * p.dst_size + last.next_output_byte = (emitted acts).length :=
      hfills.count
    have hresult : p.dst_size - last.free_in_buffer = last.next_output_byte := by omega
    have hheld : (List.range last.next_output_byte).map last.buf =
        (emitted acts).drop (calls acts * p.dst_size) := hfills.held
    rw [hlast]
    simp only [Accounts, libjpeg_term_destination, hbufsize, hresult, hheld]
    obtain hnone | hsome := Nat.eq_zero_or_pos (calls acts)
    · rw [hnone, Nat.zero_mul, Nat.zero_add] at hcount
      simp [hnone, hcount]
    · have hle := Nat.mul_le_mul_right p.dst_size hsome
      constructor
      · rintro (⟨hall, -⟩ | ⟨hover, hzero⟩)
        · omega
        · refine Or.inr ⟨?_, by omega⟩
          by_contra hone
          obtain hone : calls acts = 1 := by omega
          rw [hone] at hcount
          omega
      · rintro (hnone | ⟨htwo, hlength⟩)
        · omega
        · have hle' := Nat.mul_le_mul_right p.dst_size htwo
          exact Or.inr ⟨by omega, by omega⟩

/-- Parameters with a buffer of two bytes. -/
def twoBytes : JpegParams where
  srcIsNull := false
  src_size := 6
  dstIsNull := false
  dst_size := 2
  quality := 85
  left_crop := 0
  top_crop := 0
  orig_width := 2
  orig_height := 2
  in_width := 2
  in_height := 2
  out_width := 2
  out_height := 2
  start_offset := 0
  format := .CAMERA_FRAME_FORMAT_YUV420SP
  crop_x := Nat.le_refl 2
  crop_y := Nat.le_refl 2
  out_width_lt := by decide
  out_height_lt := by decide

/-- One byte in a buffer of two. -/
theorem accounts_iff_oneByte :
    Accounts [.emit 0xff#8] (encodeDestination twoBytes
        (libjpeg_destination_mgr 0 0 (fun _ => 0#8) twoBytes.dst_size) [.emit 0xff#8]) ↔
      calls [.emit 0xff#8] = 0 ∨ 2 ≤ calls [.emit 0xff#8] ∧
        (emitted [.emit 0xff#8]).length = calls [.emit 0xff#8] * twoBytes.dst_size := by
  refine accounts_iff twoBytes 0 0 (fun _ => 0#8) ?_
  rw [LibraryRuns, if_neg (by decide)]
  decide

/-- Three bytes in a buffer of two are reported as one. -/
theorem not_accounts_threeBytes :
    LibraryRuns twoBytes (libjpeg_destination_mgr 0 0 (fun _ => 0#8) twoBytes.dst_size)
        [.emit 0xff#8, .emit 0xd8#8, .emptyOutputBuffer, .emit 0xd9#8] ∧
      (encodeDestination twoBytes
        (libjpeg_destination_mgr 0 0 (fun _ => 0#8) twoBytes.dst_size)
        [.emit 0xff#8, .emit 0xd8#8, .emptyOutputBuffer, .emit 0xd9#8]).jpegsize = 1 ∧
      ¬ Accounts [.emit 0xff#8, .emit 0xd8#8, .emptyOutputBuffer, .emit 0xd9#8]
        (encodeDestination twoBytes
          (libjpeg_destination_mgr 0 0 (fun _ => 0#8) twoBytes.dst_size)
          [.emit 0xff#8, .emit 0xd8#8, .emptyOutputBuffer, .emit 0xd9#8]) := by
  refine ⟨?_, by decide, ?_⟩
  · rw [LibraryRuns, if_neg (by decide)]
    decide
  · unfold Accounts
    decide

end CameraHal
