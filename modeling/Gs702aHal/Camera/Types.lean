import Mathlib.Data.Fintype.Basic

set_option relaxedAutoImplicit false
set_option autoImplicit false

/-!
# Status codes, frame types and stream types

The enumerations of `CameraHal.h` that the camera adapter and its clients share, and the
`status_t` codes of the Android headers. An address is a natural number, `NULL` being `0`.

## Main definitions

* `CameraHal.Byte` — one byte of a memory.
* `CameraHal.Status` — `status_t` with its named values.
* `CameraHal.FrameType`, `CameraHal.FrameType.mask` — `CameraFrame::FrameType`; the types are
  single bits of a mask.
* `CameraHal.StreamType` — the streams of `CameraFrame::StreamType` that have a buffer table.
-/

namespace CameraHal

/-- An address (`void *`); `0` is `NULL`. -/
abbrev Ptr := ℕ

/-- The null address. -/
def NULL : Ptr := 0

/-- A byte (`char`, `uint8_t`). -/
abbrev Byte := BitVec 8

/-- `status_t`, a 32-bit integer: zero on success, negative on errors. -/
abbrev Status := BitVec 32

namespace Status

/-- `NO_ERROR`. -/
def NO_ERROR : Status := 0#32
/-- `UNKNOWN_ERROR`, the smallest 32-bit integer. -/
def UNKNOWN_ERROR : Status := 0x80000000#32
/-- `INVALID_OPERATION`, which is `-ENOSYS`. -/
def INVALID_OPERATION : Status := -38#32
/-- `BAD_VALUE`, which is `-EINVAL`. -/
def BAD_VALUE : Status := -22#32
/-- `-EINVAL`, as the code also writes it. -/
def EINVAL : Status := -22#32
/-- `NO_INIT`, which is `-ENODEV`. -/
def NO_INIT : Status := -19#32
/-- `BAD_INDEX`, which is `-EOVERFLOW`. -/
def BAD_INDEX : Status := -75#32
/-- `NO_MEMORY`, which is `-ENOMEM`. -/
def NO_MEMORY : Status := -12#32
/-- `ALREADY_EXISTS`, which is `-EEXIST`. -/
def ALREADY_EXISTS : Status := -17#32

end Status

/-- `CameraFrame::FrameType`: the kinds of frames that a consumer can subscribe to. -/
inductive FrameType
  | PREVIEW_FRAME_SYNC
  | VIDEO_FRAME_SYNC
  | FD_FRAME_SYNC
  | RAW_FRAME_SYNC
  | IMAGE_FRAME_SYNC
  deriving DecidableEq, Repr

namespace FrameType

/-- The frame types in the order of their bits. -/
def all : List FrameType :=
  [PREVIEW_FRAME_SYNC, VIDEO_FRAME_SYNC, FD_FRAME_SYNC, RAW_FRAME_SYNC, IMAGE_FRAME_SYNC]

/-- Every frame type is listed. -/
lemma mem_all (t : FrameType) : t ∈ all := by cases t <;> decide

instance : Fintype FrameType := ⟨⟨all, by decide⟩, mem_all⟩

/-- `toFrameTypeIndex`, the number of trailing zeros of a type's bit. -/
def toFrameTypeIndex : FrameType → ℕ
  | PREVIEW_FRAME_SYNC => 0
  | VIDEO_FRAME_SYNC => 1
  | FD_FRAME_SYNC => 2
  | RAW_FRAME_SYNC => 3
  | IMAGE_FRAME_SYNC => 4

/-- The bit of a frame type. -/
def mask (t : FrameType) : BitVec 32 := 1#32 <<< t.toFrameTypeIndex

/-- The frame type with a given index; indices from `MAX_FRAME_TYPE` on have none. -/
def ofIndex? (i : ℕ) : Option FrameType := all[i]?

end FrameType

/-- `CameraFrame::StreamType`: the two streams. `UNKNOWN_STREAM_TYPE` (`-1`) is `none` where
it is allowed. -/
inductive StreamType
  | PREVIEW_STREAM_TYPE
  | IMAGE_STREAM_TYPE
  deriving DecidableEq, Repr

instance : Fintype StreamType :=
  ⟨{.PREVIEW_STREAM_TYPE, .IMAGE_STREAM_TYPE}, fun s => by cases s <;> decide⟩

end CameraHal
