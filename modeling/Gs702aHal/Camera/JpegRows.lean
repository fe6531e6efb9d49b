import Gs702aHal.Lib.Blocks
import Gs702aHal.Camera.FrameResize

set_option relaxedAutoImplicit false
set_option autoImplicit false

/-!
# The rows of the JPEG encoder

`Encoder_libjpeg::encode` hands an image to the JPEG library row by row, three bytes for each pixel.
If the crop rectangle has not the size of the output, it is scaled into a buffer first. Each row is
converted into a buffer of its own, except for `YUV422I`, whose rows are passed as they are. The
library takes exactly `3 * image_width` bytes of each row and counts the rows that it took.

The source is the image that `src` points at once `src_offset` is added; the offsets are relative to
it. The NEON instructions are those of the build (`CAMERA_NEON_INS`).

## Main definitions

* `CameraHal.JpegCall` — the parameters of a call, and whether its two buffers can be allocated.
* `CameraHal.nv12ToYuyv`, `CameraHal.yu12ToYuyv`, `CameraHal.rgb565ToRgb888` — the conversions of a
  row.
* `CameraHal.encode` — the function: the rows that the library is given, and all bytes that are
  read.
* `CameraHal.scanlineAt` — the variables of the loop before a row.
* `CameraHal.JpegCall.rowPixel` — the three bytes of a pixel, and `CameraHal.JpegCall.pixelPlaces`
  where they are read.

## Main results

* `CameraHal.encodeRows_spec` — the rows of an image, and the bytes that are read for them, pixel by
  pixel.
-/

namespace CameraHal

open StoreLog Blocks

/-! ### Calls -/

/-- `Encoder_libjpeg::params`. The crop rectangle lies inside of the image, and the size of the
output is a number of 31 bits. -/
structure JpegParams where
  srcIsNull : Bool
  src_size : ℕ
  dstIsNull : Bool
  dst_size : ℕ
  quality : ℕ
  left_crop : ℕ
  top_crop : ℕ
  orig_width : ℕ
  orig_height : ℕ
  in_width : ℕ
  in_height : ℕ
  out_width : ℕ
  out_height : ℕ
  start_offset : ℕ
  format : FrameFormat
  crop_x : left_crop + in_width ≤ orig_width
  crop_y : top_crop + in_height ≤ orig_height
  out_width_lt : out_width < 2 ^ 31
  out_height_lt : out_height < 2 ^ 31

/-- A call: its parameters, and whether the buffers of the scaled image and of a row can be
allocated. -/
structure JpegCall extends JpegParams where
  resize_src : Bool
  row_tmp : Bool

/-- The colour spaces of the JPEG library that are declared. -/
inductive ColorSpace
  | JCS_YCbCr
  | JCS_RGB
  deriving DecidableEq

/-- A byte that is read: of the source image, or of the buffer of the scaled image. -/
inductive Read
  | source (k : ℕ)
  | resized (k : ℕ)

/-- What the library is given: the declared colour space, and the rows, of which one is `none` if
its pointer is `NULL`. The reads are all that the call makes of images. -/
structure Encoded where
  in_color_space : ColorSpace
  scanlines : List (Option (List Byte))
  reads : List Read

namespace JpegParams

/-- The parameter check. -/
def Refused (p : JpegParams) : Prop :=
  p.in_width < 2 ∨ p.out_width < 2 ∨ p.in_height < 2 ∨ p.out_height < 2 ∨ p.srcIsNull = true ∨
    p.dstIsNull = true ∨ p.quality < 1 ∨ p.src_size < 1 ∨ p.dst_size < 1

instance (p : JpegParams) : Decidable p.Refused :=
  inferInstanceAs (Decidable (p.in_width < 2 ∨ _))

/-- The formats that can be encoded. -/
def Raw (p : JpegParams) : Prop :=
  p.format ≠ .CAMERA_FRAME_FORMAT_JPEG ∧ p.format ≠ .CAMERA_FRAME_FORMAT_PNG

instance (p : JpegParams) : Decidable p.Raw :=
  inferInstanceAs (Decidable (p.format ≠ .CAMERA_FRAME_FORMAT_JPEG ∧ _))

/-- The image has to be scaled. -/
def Scaled (p : JpegParams) : Prop := p.in_width ≠ p.out_width ∨ p.in_height ≠ p.out_height

instance (p : JpegParams) : Decidable p.Scaled :=
  inferInstanceAs (Decidable (p.in_width ≠ p.out_width ∨ _))

/-- `bpp`, the bytes of a pixel in the first plane. -/
def bpp (p : JpegParams) : ℕ :=
  match p.format with
  | .CAMERA_FRAME_FORMAT_YUV420SP | .CAMERA_FRAME_FORMAT_YUV420P => 1
  | _ => 2

/-! ### Scaling -/

/-- The arguments of the scaler. -/
def resize (p : JpegParams) : ImageResize :=
  ⟨p.orig_width, p.orig_height, ⟨p.left_crop, p.top_crop, p.in_width, p.in_height⟩, p.out_width,
    p.out_height⟩

/-- The test for copying: the crop rectangle is the whole image, and has the size of the output. -/
def Whole (p : JpegParams) : Prop :=
  p.orig_width = p.in_width ∧ p.orig_height = p.in_height ∧ p.left_crop = 0 ∧ p.top_crop = 0 ∧
    p.out_width = p.orig_width ∧ p.out_height = p.orig_height

instance (p : JpegParams) : Decidable p.Whole :=
  inferInstanceAs (Decidable (p.orig_width = p.in_width ∧ _))

/-- The common form of the resizers: a copy of an image with so many bits for each pixel, or a
scaler. -/
def resizeWith (p : JpegParams) (bits : ℕ) (scaler : Buffer → Buffer → Option Buffer)
    (src dst_buffer : Buffer) : Option Buffer :=
  if p.Whole then
    some (copyCells dst_buffer 0 src 0 (p.orig_width * p.orig_height * bits / 2 ^ 3))
  else scaler src dst_buffer

/-- `resizeNV12`. The planes of the output are laid out as those of the source. -/
def resizeNV12 (p : JpegParams) : Buffer → Buffer → Option Buffer :=
  p.resizeWith 12 (NVXXResize (nv12In p.out_width p.out_height)
    (nv12In p.orig_width p.orig_height) p.resize)

/-- `resizeYU12`. -/
def resizeYU12 (p : JpegParams) : Buffer → Buffer → Option Buffer :=
  p.resizeWith 12 (YX12Resize (yu12In p.out_width p.out_height)
    (yu12In p.orig_width p.orig_height) p.resize)

/-- `resizeYUYV`. -/
def resizeYUYV (p : JpegParams) : Buffer → Buffer → Option Buffer :=
  p.resizeWith 16 (YUYVResize {} {} p.resize)

/-- `resizeRGB565`. -/
def resizeRGB565 (p : JpegParams) : Buffer → Buffer → Option Buffer :=
  p.resizeWith 16 (RGB565Resize {} {} p.resize)

/-- The resizer of the format. -/
def resizer (p : JpegParams) : Buffer → Buffer → Option Buffer :=
  match p.format with
  | .CAMERA_FRAME_FORMAT_YUV420SP => p.resizeNV12
  | .CAMERA_FRAME_FORMAT_YUV420P => p.resizeYU12
  | .CAMERA_FRAME_FORMAT_YUV422I => p.resizeYUYV
  | .CAMERA_FRAME_FORMAT_RGB565 => p.resizeRGB565
  | .CAMERA_FRAME_FORMAT_JPEG | .CAMERA_FRAME_FORMAT_PNG => fun _ _ => none

/-- The position of an output column in the crop rectangle. -/
def wPos (p : JpegParams) (c : ℕ) : ℕ := coefAt (shiftedSize p.in_width / (p.out_width - 1)) c

/-- The position of an output row. -/
def hPos (p : JpegParams) (r : ℕ) : ℕ := coefAt (shiftedSize p.in_height / (p.out_height - 1)) r

/-- The source planes of a 4:2:0 format, with their strides. -/
def planes (p : JpegParams) : RGBOrYUV :=
  match p.format with
  | .CAMERA_FRAME_FORMAT_YUV420SP => (nv12In p.orig_width p.orig_height).semiPlanar p.orig_width
  | _ => (yu12In p.orig_width p.orig_height).planar p.orig_width (p.orig_width / 2)

/-- The places around a position that a scaler blends. -/
def neighbours (sample : ℕ → ℕ → ℕ) (hCoef wCoef : ℕ) : List ℕ :=
  [ sample (offsetOf hCoef) (offsetOf wCoef), sample (offsetOf hCoef + 1) (offsetOf wCoef),
    sample (offsetOf hCoef) (offsetOf wCoef + 1), sample (offsetOf hCoef + 1) (offsetOf wCoef + 1) ]

/-- The bytes of the source that a scaler reads for an output pixel. -/
def scalerReads (p : JpegParams) (r c : ℕ) : List ℕ :=
  match p.format with
  | .CAMERA_FRAME_FORMAT_YUV420SP | .CAMERA_FRAME_FORMAT_YUV420P =>
    neighbours (lumaAt p.planes p.resize) (p.hPos r) (p.wPos c) ++
      if r % 2 = 0 ∧ c % 2 = 0 then
        neighbours (chromaAt p.planes.u p.planes.uStride p.planes.du p.resize) (p.hPos r)
            (p.wPos c) ++
          neighbours (chromaAt p.planes.v p.planes.vStride p.planes.dv p.resize) (p.hPos r)
            (p.wPos c)
      else []
  | _ => (neighbours (packedAt {} p.resize) (p.hPos r) (p.wPos c)).flatMap fun k => [k, k + 1]

/-- The bytes of the source that the resizer reads. -/
def resizerReads (p : JpegParams) : List ℕ :=
  if p.Whole then List.range (p.orig_width * p.orig_height * (if p.bpp = 1 then 12 else 16) / 2 ^ 3)
  else concat p.out_height fun r => concat p.out_width fun c => p.scalerReads r c

end JpegParams

/-! ### Converting a row -/

/-- The variables of `nv12ToYuyv`. -/
structure Nv12Loop where
  y : ℕ
  uv : ℕ
  dst : List Byte
  reads : List ℕ

/-- Sixteen pixels of `nv12ToYuyv`, by NEON instructions. -/
def nv12Block (m : Buffer) (s : Nv12Loop) : Nv12Loop where
  y := s.y + 16
  uv := s.uv + 16
  dst := s.dst ++ concat 16 fun i => [m (s.y + i), m (s.uv + i / 2 * 2), m (s.uv + i / 2 * 2 + 1)]
  reads := s.reads ++ ((List.range 16).map (s.y + ·) ++ (List.range 16).map (s.uv + ·))

/-- A pixel of the rest of a row: the chroma goes on after each pixel or not at all. -/
def nv12Pixel (m : Buffer) (width : ℕ) (s : Nv12Loop) : Nv12Loop where
  y := s.y + 1
  uv := if width % 2 = 1 then s.uv + 2 else s.uv
  dst := s.dst ++ [m s.y, m s.uv, m (s.uv + 1)]
  reads := s.reads ++ [s.y, s.uv, s.uv + 1]

/-- `nv12ToYuyv`: the converted row and the bytes that are read for it. -/
def nv12ToYuyv (m : Buffer) (y uv width : ℕ) : List Byte × List ℕ :=
  let s := forLoop (width / 16) (fun _ => nv12Block m) ⟨y, uv, [], []⟩
  let s := forLoop (width % 16) (fun _ => nv12Pixel m width) s
  (s.dst, s.reads)

/-- The variables of `yu12ToYuyv`. -/
structure Yu12Loop where
  y : ℕ
  u : ℕ
  v : ℕ
  dst : List Byte
  reads : List ℕ

/-- `yu12ToYuyv`: the chroma goes on when the number of pixels that are left is even. -/
def yu12ToYuyv (m : Buffer) (y u v width : ℕ) : List Byte × List ℕ :=
  let pixel := fun i (s : Yu12Loop) =>
    let s := { s with
      y := s.y + 1
      dst := s.dst ++ [m s.y, m s.u, m s.v]
      reads := s.reads ++ [s.y, s.u, s.v] }
    if (width - 1 - i) % 2 = 0 then { s with u := s.u + 1, v := s.v + 1 } else s
  let s := forLoop width pixel ⟨y, u, v, [], []⟩
  (s.dst, s.reads)

/-- `R16_32`; the low bits of a pixel are its red. -/
def R16_32 (rgb : ℕ) : Byte := byte ((rgb &&& 0x001f) <<< 3 ||| (rgb &&& 0x001f) >>> 2)

/-- `G16_32`. -/
def G16_32 (rgb : ℕ) : Byte := byte ((rgb &&& 0x07e0) >>> 3 ||| (rgb &&& 0x07e0) >>> 9)

/-- `B16_32`. -/
def B16_32 (rgb : ℕ) : Byte := byte ((rgb &&& 0xf800) >>> 8 ||| (rgb &&& 0xf800) >>> 14)

/-- The three bytes of a 16-bit pixel. -/
def rgb888 (rgb : ℕ) : List Byte := [R16_32 rgb, G16_32 rgb, B16_32 rgb]

/-- The variables of `rgb565ToRgb888`. -/
structure Rgb565Loop where
  src : ℕ
  dst : List Byte
  reads : List ℕ

/-- `rgb565ToRgb888`. -/
def rgb565ToRgb888 (m : Buffer) (src width : ℕ) : List Byte × List ℕ :=
  let pixel := fun (_ : ℕ) (s : Rgb565Loop) =>
    { src := s.src + 2
      dst := s.dst ++ rgb888 (half m s.src)
      reads := s.reads ++ [s.src, s.src + 1] }
  let s := forLoop width pixel ⟨src, [], []⟩
  (s.dst, s.reads)

/-! ### `encode` -/

/-- The variables of the loop over the rows. -/
structure ScanlineLoop where
  row_src : ℕ
  row_uv : ℕ
  row_u : ℕ
  row_v : ℕ
  scanlines : List (Option (List Byte))
  reads : List ℕ

/-- The row that is passed, and the bytes that are read for it. The conversions do nothing without
their buffer. -/
def convertRow (call : JpegCall) (m : Buffer) (s : ScanlineLoop) : Option (List Byte) × List ℕ :=
  let converted := fun row : List Byte × List ℕ =>
    if call.row_tmp then (some row.1, row.2) else (none, [])
  match call.format with
  | .CAMERA_FRAME_FORMAT_YUV420SP =>
    converted (nv12ToYuyv m s.row_src s.row_uv call.out_width)
  | .CAMERA_FRAME_FORMAT_YUV420P =>
    converted (yu12ToYuyv m s.row_src s.row_u s.row_v call.out_width)
  | .CAMERA_FRAME_FORMAT_YUV422I =>
    (some ((List.range (3 * call.out_width)).map fun i => m (s.row_src + i)),
      (List.range (3 * call.out_width)).map (s.row_src + ·))
  | .CAMERA_FRAME_FORMAT_RGB565 => converted (rgb565ToRgb888 m s.row_src call.out_width)
  | .CAMERA_FRAME_FORMAT_JPEG | .CAMERA_FRAME_FORMAT_PNG => (none, [])

/-- One pass of the loop over the rows. -/
def encodeRow (call : JpegCall) (m : Buffer) (i : ℕ) (s : ScanlineLoop) : ScanlineLoop :=
  let row := convertRow call m s
  let next_scanline := i + 1
  { s with
    row_src := s.row_src + call.out_width * call.bpp
    row_uv :=
      if call.format = .CAMERA_FRAME_FORMAT_YUV420SP ∧ next_scanline % 2 = 0 then
        s.row_uv + call.out_width * call.bpp
      else s.row_uv
    -- `row_u` and `row_v` go on under a second test for `YUV420SP`, which is never reached
    scanlines := s.scanlines ++ [row.1]
    reads := s.reads ++ row.2 }

/-- The rows of an image. -/
def encodeRows (call : JpegCall) (m : Buffer) : ScanlineLoop :=
  let chroma := call.out_width * call.out_height * call.bpp
  forLoop call.out_height (encodeRow call m)
    ⟨call.start_offset, chroma, chroma, chroma + chroma / 2 ^ 2, [], []⟩

/-- The declared colour space. -/
def colorSpace (call : JpegCall) : ColorSpace :=
  if call.format = .CAMERA_FRAME_FORMAT_RGB565 then .JCS_RGB else .JCS_YCbCr

/-- `encode`, up to what the library makes of it. Without its buffer the image is not scaled, and
encoded as it is. -/
def encode (call : JpegCall) (src fresh : Buffer) : Option Encoded :=
  if call.Refused ∨ ¬ call.Raw then none
  else if call.Scaled ∧ call.resize_src = true then
    (call.resizer src fresh).map fun resized =>
      let rows := encodeRows call resized
      ⟨colorSpace call, rows.scanlines,
        call.resizerReads.map .source ++ rows.reads.map .resized⟩
  else
    let rows := encodeRows call src
    some ⟨colorSpace call, rows.scanlines, rows.reads.map .source⟩

/-! ### What a conversion makes -/

/-- A conversion has made some pixels from the bytes at their places. -/
structure Emits (pixel : ℕ → List Byte) (places : ℕ → List ℕ) (n : ℕ) (dst : List Byte)
    (reads : List ℕ) : Prop where
  dst : dst = concat n pixel
  reads : ∀ k, k ∈ reads ↔ ∃ c < n, k ∈ places c

/-- At first there are none. -/
lemma emits_nil (pixel : ℕ → List Byte) (places : ℕ → List ℕ) : Emits pixel places 0 [] [] where
  dst := rfl
  reads k := by simp

/-- Some more pixels. -/
lemma Emits.append {pixel : ℕ → List Byte} {places : ℕ → List ℕ} {n j : ℕ} {dst dst' : List Byte}
    {reads reads' : List ℕ} (h : Emits pixel places n dst reads)
    (hdst : dst' = concat j fun c => pixel (n + c))
    (hreads : ∀ k, k ∈ reads' ↔ ∃ c < j, k ∈ places (n + c)) :
    Emits pixel places (n + j) (dst ++ dst') (reads ++ reads') where
  dst := by rw [concat_add, h.dst, hdst]
  reads k := by
    rw [List.mem_append, h.reads, hreads]
    constructor
    · rintro (⟨c, hc, hk⟩ | ⟨c, hc, hk⟩)
      · exact ⟨c, by omega, hk⟩
      · exact ⟨n + c, by omega, hk⟩
    · rintro ⟨c, hc, hk⟩
      by_cases hlt : c < n
      · exact Or.inl ⟨c, hlt, hk⟩
      · exact Or.inr ⟨c - n, by omega, by rwa [Nat.add_sub_cancel' (not_lt.mp hlt)]⟩

/-- One more pixel. -/
lemma Emits.push {pixel : ℕ → List Byte} {places : ℕ → List ℕ} {n : ℕ} {dst : List Byte}
    {reads : List ℕ} (h : Emits pixel places n dst reads) :
    Emits pixel places (n + 1) (dst ++ pixel n) (reads ++ places n) :=
  h.append (by simp) fun k => by simp

/-- How far the chroma of a column is from the start of its row, in `nv12ToYuyv`. -/
def nv12Chroma (width c : ℕ) : ℕ :=
  if c < width / 16 * 16 then c / 2 * 2
  else width / 16 * 16 + if width % 2 = 1 then 2 * (c - width / 16 * 16) else 0

/-- How far it is in `yu12ToYuyv`. -/
def yu12Chroma (width c : ℕ) : ℕ := (c + width % 2) / 2

/-- The places of a pixel with luma and chroma. -/
def yuvPlaces (y u v : ℕ) : List ℕ := [y, u, v]

/-- **The pixels of `nv12ToYuyv`.**

**Proof sketch.** The blocks come first; each takes as many bytes of chroma as of luma. In the rest
the chroma is as far as the rule for the parity of the width has taken it. -/
theorem nv12ToYuyv_emits (m : Buffer) (y uv width : ℕ) :
    Emits (fun c => (yuvPlaces (y + c) (uv + nv12Chroma width c)
        (uv + nv12Chroma width c + 1)).map m)
      (fun c => yuvPlaces (y + c) (uv + nv12Chroma width c) (uv + nv12Chroma width c + 1)) width
      (nv12ToYuyv m y uv width).1 (nv12ToYuyv m y uv width).2 := by
  set places := fun c => yuvPlaces (y + c) (uv + nv12Chroma width c) (uv + nv12Chroma width c + 1)
    with hplaces
  have hblocks := @forLoop_rule _
    (fun i s => s.y = y + 16 * i ∧ s.uv = uv + 16 * i ∧
      Emits (fun c => (places c).map m) places (16 * i) s.dst s.reads)
    (fun _ => nv12Block m) ⟨y, uv, [], []⟩ ⟨rfl, rfl, emits_nil _ _⟩ (width / 16) ?_
  · obtain ⟨hy, huv, hemits⟩ := hblocks
    have hrest := @forLoop_rule _
      (fun i s => s.y = y + (16 * (width / 16) + i) ∧
        s.uv = uv + (16 * (width / 16) + if width % 2 = 1 then 2 * i else 0) ∧
        Emits (fun c => (places c).map m) places (16 * (width / 16) + i) s.dst s.reads)
      (fun _ => nv12Pixel m width)
      (forLoop (width / 16) (fun _ => nv12Block m) ⟨y, uv, [], []⟩)
      ⟨hy, by rw [huv]; split_ifs <;> omega, hemits⟩ (width % 16) ?_
    · have hwidth : 16 * (width / 16) + width % 16 = width := Nat.div_add_mod width 16
      rw [hwidth] at hrest
      exact hrest.2.2
    · rintro i s hi ⟨hy, huv, hemits⟩
      have hplace : places (16 * (width / 16) + i) = [s.y, s.uv, s.uv + 1] := by
        have hge : ¬ 16 * (width / 16) + i < width / 16 * 16 := by omega
        have hdone : 16 * (width / 16) + i - width / 16 * 16 = i := by omega
        simp only [hplaces, yuvPlaces, nv12Chroma, if_neg hge, hdone]
        rw [hy, huv, Nat.mul_comm 16]
      refine ⟨?_, ?_, ?_⟩
      · simp only [nv12Pixel, hy]
        omega
      · simp only [nv12Pixel, huv]
        split_ifs <;> omega
      · have hpush := hemits.push
        rw [hplace] at hpush
        exact hpush
  · rintro i s hi ⟨hy, huv, hemits⟩
    -- the pixels of a block share the chroma by pairs
    have hplace : ∀ c < 16, places (16 * i + c) =
        [s.y + c, s.uv + c / 2 * 2, s.uv + c / 2 * 2 + 1] := by
      intro c hc
      have hlt : 16 * i + c < width / 16 * 16 := by omega
      have hpair : (16 * i + c) / 2 * 2 = 16 * i + c / 2 * 2 := by omega
      simp only [hplaces, yuvPlaces, nv12Chroma, if_pos hlt, hpair]
      simp only [hy, huv, Nat.add_assoc]
    refine ⟨?_, ?_, ?_⟩
    · simp only [nv12Block, hy]
      omega
    · simp only [nv12Block, huv]
      omega
    · refine hemits.append (j := 16) ?_ fun k => ?_
      · refine concat_congr fun c hc => ?_
        rw [hplace c hc]
        rfl
      · simp only [List.mem_append, List.mem_map, List.mem_range]
        constructor
        · rintro (⟨c, hc, rfl⟩ | ⟨c, hc, rfl⟩)
          · exact ⟨c, hc, by rw [hplace c hc]; simp⟩
          · refine ⟨c, hc, ?_⟩
            rw [hplace c hc]
            rcases Nat.mod_two_eq_zero_or_one c with heven | hodd
            · have hc2 : c / 2 * 2 = c := by omega
              simp [hc2]
            · have hc2 : c / 2 * 2 + 1 = c := by omega
              simp [Nat.add_assoc, hc2]
        · rintro ⟨c, hc, hk⟩
          rw [hplace c hc] at hk
          simp only [List.mem_cons, List.not_mem_nil, or_false] at hk
          rcases hk with rfl | rfl | rfl
          · exact Or.inl ⟨c, hc, rfl⟩
          · exact Or.inr ⟨c / 2 * 2, by omega, rfl⟩
          · exact Or.inr ⟨c / 2 * 2 + 1, by omega, rfl⟩

/-- The pixels of `yu12ToYuyv`. -/
lemma yu12ToYuyv_emits (m : Buffer) (y u v width : ℕ) :
    Emits (fun c => (yuvPlaces (y + c) (u + yu12Chroma width c) (v + yu12Chroma width c)).map m)
      (fun c => yuvPlaces (y + c) (u + yu12Chroma width c) (v + yu12Chroma width c)) width
      (yu12ToYuyv m y u v width).1 (yu12ToYuyv m y u v width).2 := by
  set places := fun c => yuvPlaces (y + c) (u + yu12Chroma width c) (v + yu12Chroma width c)
    with hplaces
  refine (forLoop_rule
    (fun i (s : Yu12Loop) => s.y = y + i ∧ s.u = u + yu12Chroma width i ∧
      s.v = v + yu12Chroma width i ∧ Emits (fun c => (places c).map m) places i s.dst s.reads)
    ?_ width ?_).2.2.2
  · have hzero : yu12Chroma width 0 = 0 := by
      unfold yu12Chroma
      omega
    exact ⟨rfl, by rw [hzero]; rfl, by rw [hzero]; rfl, emits_nil _ _⟩
  · rintro i s hi ⟨hy, hu, hv, hemits⟩
    have hpush := hemits.push
    have hplace : places i = [s.y, s.u, s.v] := by
      rw [hplaces, hy, hu, hv]
      rfl
    rw [hplace] at hpush
    simp only
    split_ifs with hleft
    · have hnext : yu12Chroma width (i + 1) = yu12Chroma width i + 1 := by
        unfold yu12Chroma
        omega
      refine ⟨?_, ?_, ?_, hpush⟩ <;> simp only [hy, hu, hv, hnext] <;> omega
    · have hnext : yu12Chroma width (i + 1) = yu12Chroma width i := by
        unfold yu12Chroma
        omega
      refine ⟨?_, ?_, ?_, hpush⟩ <;> simp only [hy, hu, hv, hnext]
      omega

/-- The pixels of `rgb565ToRgb888`. -/
lemma rgb565ToRgb888_emits (m : Buffer) (src width : ℕ) :
    Emits (fun c => rgb888 (half m (src + 2 * c))) (fun c => [src + 2 * c, src + 2 * c + 1]) width
      (rgb565ToRgb888 m src width).1 (rgb565ToRgb888 m src width).2 := by
  refine (forLoop_rule
    (fun i (s : Rgb565Loop) => s.src = src + 2 * i ∧
      Emits (fun c => rgb888 (half m (src + 2 * c))) (fun c => [src + 2 * c, src + 2 * c + 1]) i
        s.dst s.reads)
    ⟨rfl, emits_nil _ _⟩ width ?_).2
  rintro i s hi ⟨hsrc, hemits⟩
  refine ⟨by simp only [hsrc]; omega, ?_⟩
  simp only [hsrc]
  exact hemits.push

/-! ### What is encoded -/

namespace JpegParams

/-- Where the luma of a pixel is read. -/
def yAt (p : JpegParams) (r c : ℕ) : ℕ := p.start_offset + (r * p.out_width + c)

/-- Where its first chroma sample is read. -/
def uAt (p : JpegParams) (r c : ℕ) : ℕ :=
  if p.format = .CAMERA_FRAME_FORMAT_YUV420SP then
    p.out_width * p.out_height + (r / 2 * p.out_width + nv12Chroma p.out_width c)
  else p.out_width * p.out_height + yu12Chroma p.out_width c

/-- Where its second one is read. -/
def vAt (p : JpegParams) (r c : ℕ) : ℕ :=
  if p.format = .CAMERA_FRAME_FORMAT_YUV420SP then p.uAt r c + 1
  else p.uAt r c + p.out_width * p.out_height / 2 ^ 2

/-- Where a 16-bit pixel is read. -/
def halfAt (p : JpegParams) (r c : ℕ) : ℕ := p.start_offset + 2 * (r * p.out_width + c)

/-- Where the bytes are read that are passed for a pixel. -/
def pixelPlaces (p : JpegParams) (r c : ℕ) : List ℕ :=
  match p.format with
  | .CAMERA_FRAME_FORMAT_RGB565 => [p.halfAt r c, p.halfAt r c + 1]
  | .CAMERA_FRAME_FORMAT_YUV422I =>
    let k := p.halfAt r 0 + 3 * c
    [k, k + 1, k + 2]
  | _ => yuvPlaces (p.yAt r c) (p.uAt r c) (p.vAt r c)

/-- The three bytes that are passed for a pixel. -/
def rowPixel (p : JpegParams) (m : Buffer) (r c : ℕ) : List Byte :=
  if p.format = .CAMERA_FRAME_FORMAT_RGB565 then rgb888 (half m (p.halfAt r c))
  else (p.pixelPlaces r c).map m

end JpegParams

/-- A row can be passed: it is converted into its buffer, or needs none. -/
def JpegCall.RowPassed (call : JpegCall) : Prop :=
  call.row_tmp = true ∨ call.format = .CAMERA_FRAME_FORMAT_YUV422I

/-- A format with planes has one byte for each pixel in the first of them. -/
lemma JpegParams.bpp_planar {p : JpegParams}
    (hfmt : p.format = .CAMERA_FRAME_FORMAT_YUV420SP ∨ p.format = .CAMERA_FRAME_FORMAT_YUV420P) :
    p.bpp = 1 := by
  rcases hfmt with hfmt | hfmt <;> simp [JpegParams.bpp, hfmt]

/-- The row of 16-bit pixels. -/
lemma halfAt_eq {call : JpegCall} (hbpp : call.bpp = 2) {row_src r : ℕ}
    (hsrc : row_src = call.start_offset + r * (call.out_width * call.bpp)) (c : ℕ) :
    call.halfAt r c = row_src + 2 * c := by
  have hrow : 2 * (r * call.out_width) = r * (call.out_width * 2) := by ring
  rw [hsrc, hbpp, JpegParams.halfAt, Nat.mul_add, hrow, Nat.add_assoc]

/-- The pixel of a row is what is in its places, unless the samples are 16 bits wide. -/
lemma rowPixel_of_ne {p : JpegParams} (hfmt : p.format ≠ .CAMERA_FRAME_FORMAT_RGB565) (m : Buffer)
    (r : ℕ) : p.rowPixel m r = fun c => (p.pixelPlaces r c).map m := by
  funext c
  rw [JpegParams.rowPixel, if_neg hfmt]

/-- The row that is passed, if the pointers are where they should be. -/
lemma convertRow_emits {call : JpegCall} (hraw : call.Raw) (hpassed : call.RowPassed) (m : Buffer)
    {s : ScanlineLoop} {r : ℕ}
    (hsrc : s.row_src = call.start_offset + r * (call.out_width * call.bpp))
    (huv : call.format = .CAMERA_FRAME_FORMAT_YUV420SP →
      s.row_uv = call.out_width * call.out_height + r / 2 * call.out_width)
    (hu : call.format = .CAMERA_FRAME_FORMAT_YUV420P →
      s.row_u = call.out_width * call.out_height ∧
        s.row_v = call.out_width * call.out_height +
          call.out_width * call.out_height / 2 ^ 2) :
    ∃ line, (convertRow call m s).1 = some line ∧
      Emits (call.rowPixel m r) (call.pixelPlaces r) call.out_width line
        (convertRow call m s).2 := by
  unfold JpegCall.RowPassed at hpassed
  cases hfmt : call.format with
  | CAMERA_FRAME_FORMAT_YUV420SP =>
    have htmp : call.row_tmp = true := hpassed.resolve_right (by simp [hfmt])
    have hemits := nv12ToYuyv_emits m s.row_src s.row_uv call.out_width
    have hbpp : call.bpp = 1 := JpegParams.bpp_planar (Or.inl hfmt)
    have hplaces : call.pixelPlaces r = fun c => yuvPlaces (s.row_src + c)
        (s.row_uv + nv12Chroma call.out_width c) (s.row_uv + nv12Chroma call.out_width c + 1) := by
      funext c
      rw [hsrc, huv hfmt, hbpp]
      simp only [JpegParams.pixelPlaces, JpegParams.yAt, JpegParams.vAt, JpegParams.uAt, hfmt,
        if_true, Nat.mul_one, Nat.add_assoc]
    have hpixel := rowPixel_of_ne (p := call.toJpegParams) (by simp [hfmt]) m r
    rw [hpixel, hplaces]
    simp only [convertRow, hfmt, htmp, if_true]
    exact ⟨_, rfl, hemits⟩
  | CAMERA_FRAME_FORMAT_YUV420P =>
    have htmp : call.row_tmp = true := hpassed.resolve_right (by simp [hfmt])
    have hemits := yu12ToYuyv_emits m s.row_src s.row_u s.row_v call.out_width
    have hbpp : call.bpp = 1 := JpegParams.bpp_planar (Or.inr hfmt)
    have hplaces : call.pixelPlaces r = fun c => yuvPlaces (s.row_src + c)
        (s.row_u + yu12Chroma call.out_width c) (s.row_v + yu12Chroma call.out_width c) := by
      funext c
      rw [hsrc, (hu hfmt).1, (hu hfmt).2, hbpp]
      simp only [JpegParams.pixelPlaces, JpegParams.yAt, JpegParams.vAt, JpegParams.uAt, hfmt,
        reduceCtorEq, if_false, Nat.mul_one, Nat.add_assoc,
        Nat.add_comm (yu12Chroma call.out_width c)]
    have hpixel := rowPixel_of_ne (p := call.toJpegParams) (by simp [hfmt]) m r
    rw [hpixel, hplaces]
    simp only [convertRow, hfmt, htmp, if_true]
    exact ⟨_, rfl, hemits⟩
  | CAMERA_FRAME_FORMAT_RGB565 =>
    have htmp : call.row_tmp = true := hpassed.resolve_right (by simp [hfmt])
    have hemits := rgb565ToRgb888_emits m s.row_src call.out_width
    have hbpp : call.bpp = 2 := by simp [JpegParams.bpp, hfmt]
    have hat := halfAt_eq hbpp hsrc
    have hplaces : call.pixelPlaces r = fun c => [s.row_src + 2 * c, s.row_src + 2 * c + 1] := by
      funext c
      simp only [JpegParams.pixelPlaces, hfmt, hat]
    have hpixel : call.rowPixel m r = fun c => rgb888 (half m (s.row_src + 2 * c)) := by
      funext c
      simp only [JpegParams.rowPixel, hfmt, if_true, hat]
    rw [hpixel, hplaces]
    simp only [convertRow, hfmt, htmp, if_true]
    exact ⟨_, rfl, hemits⟩
  | CAMERA_FRAME_FORMAT_YUV422I =>
    have hbpp : call.bpp = 2 := by simp [JpegParams.bpp, hfmt]
    have hat : call.halfAt r 0 = s.row_src := halfAt_eq hbpp hsrc 0
    have hplaces : call.pixelPlaces r =
        fun c => (List.range 3).map fun j => s.row_src + (3 * c + j) := by
      funext c
      simp only [JpegParams.pixelPlaces, hfmt, hat]
      rfl
    have hpixel := rowPixel_of_ne (p := call.toJpegParams) (by simp [hfmt]) m r
    simp only [convertRow, hfmt]
    refine ⟨_, rfl, ?_, fun k => ?_⟩
    · rw [map_range_mul, hpixel, hplaces]
      simp only [List.map_map]
      rfl
    · rw [map_range_mul, mem_concat, hplaces]
  | CAMERA_FRAME_FORMAT_JPEG => exact absurd hfmt hraw.1
  | CAMERA_FRAME_FORMAT_PNG => exact absurd hfmt hraw.2

/-- The variables before a row. -/
def scanlineAt (call : JpegCall) (m : Buffer) (r : ℕ) : ScanlineLoop :=
  let chroma := call.out_width * call.out_height * call.bpp
  forLoop r (encodeRow call m)
    ⟨call.start_offset, chroma, chroma, chroma + chroma / 2 ^ 2, [], []⟩

/-- Where the pointer of the first plane is before a row. -/
lemma scanlineAt_row_src (call : JpegCall) (m : Buffer) (r : ℕ) :
    (scanlineAt call m r).row_src = call.start_offset + r * (call.out_width * call.bpp) := by
  induction r with
  | zero => simp [scanlineAt, forLoop]
  | succ r ih =>
    have hpass : scanlineAt call m (r + 1) = encodeRow call m r (scanlineAt call m r) := rfl
    rw [hpass]
    simp only [encodeRow, ih]
    rw [Nat.add_one_mul r, Nat.add_assoc]

/-- Where the chroma pointers are before a row.

**Proof sketch.** One pass moves the pointer of `YUV420SP` on if the next row is even, and never
those of `YUV420P`. -/
lemma scanlineAt_chroma (call : JpegCall) (m : Buffer) (r : ℕ) :
    (call.format = .CAMERA_FRAME_FORMAT_YUV420SP → (scanlineAt call m r).row_uv =
        call.out_width * call.out_height * call.bpp + r / 2 * (call.out_width * call.bpp)) ∧
      (scanlineAt call m r).row_u = (scanlineAt call m 0).row_u ∧
        (scanlineAt call m r).row_v = (scanlineAt call m 0).row_v := by
  induction r with
  | zero => simp [scanlineAt, forLoop]
  | succ r ih =>
    obtain ⟨huv, hu, hv⟩ := ih
    have hpass : scanlineAt call m (r + 1) = encodeRow call m r (scanlineAt call m r) := rfl
    refine ⟨fun hfmt => ?_, hpass ▸ hu, hpass ▸ hv⟩
    rw [hpass]
    simp only [encodeRow, huv hfmt, hfmt, true_and]
    split_ifs with hnext
    · have hrow : (r + 1) / 2 = r / 2 + 1 := by omega
      rw [hrow, Nat.add_one_mul (r / 2), Nat.add_assoc]
    · have hrow : (r + 1) / 2 = r / 2 := by omega
      rw [hrow]

/-- **The rows of an image, and the bytes that are read for them.**

**Proof sketch.** Before the row `r` the pointer of the first plane is `r` rows on, and that of the
chroma of `YUV420SP` `r / 2` rows; those of `YUV420P` stay. So each row is the one that
`convertRow_emits` describes. -/
theorem encodeRows_spec {call : JpegCall} (hraw : call.Raw) (hpassed : call.RowPassed)
    (m : Buffer) :
    (encodeRows call m).scanlines =
        (List.range call.out_height).map
          (fun r => some (concat call.out_width (call.rowPixel m r))) ∧
      ∀ k, k ∈ (encodeRows call m).reads ↔
        ∃ r < call.out_height, ∃ c < call.out_width, k ∈ call.pixelPlaces r c := by
  have hrows : ∀ i, (scanlineAt call m i).scanlines =
        (List.range i).map (fun r => some (concat call.out_width (call.rowPixel m r))) ∧
      ∀ k, k ∈ (scanlineAt call m i).reads ↔
        ∃ r < i, ∃ c < call.out_width, k ∈ call.pixelPlaces r c := by
    intro i
    induction i with
    | zero => exact ⟨rfl, fun k => by simp [scanlineAt, forLoop]⟩
    | succ i ih =>
      obtain ⟨hlines, hreads⟩ := ih
      obtain ⟨huv, hu, hv⟩ := scanlineAt_chroma call m i
      have hsemi : call.format = .CAMERA_FRAME_FORMAT_YUV420SP → (scanlineAt call m i).row_uv =
          call.out_width * call.out_height + i / 2 * call.out_width := fun hfmt => by
        rw [huv hfmt, JpegParams.bpp_planar (Or.inl hfmt), Nat.mul_one, Nat.mul_one]
      have hplanar : call.format = .CAMERA_FRAME_FORMAT_YUV420P →
          (scanlineAt call m i).row_u = call.out_width * call.out_height ∧
            (scanlineAt call m i).row_v = call.out_width * call.out_height +
              call.out_width * call.out_height / 2 ^ 2 := fun hfmt => by
        rw [hu, hv]
        simp [scanlineAt, forLoop, JpegParams.bpp_planar (Or.inr hfmt)]
      obtain ⟨line, hline, hemits⟩ := convertRow_emits hraw hpassed m
        (scanlineAt_row_src call m i) hsemi hplanar
      have hpass : scanlineAt call m (i + 1) = encodeRow call m i (scanlineAt call m i) := rfl
      rw [hpass]
      refine ⟨?_, fun k => ?_⟩
      · simp only [encodeRow, hline, hlines]
        rw [List.range_succ, List.map_append, hemits.dst]
        rfl
      · simp only [encodeRow]
        rw [List.mem_append, hreads, hemits.reads]
        constructor
        · rintro (⟨r, hr, hk⟩ | hk)
          · exact ⟨r, by omega, hk⟩
          · exact ⟨i, by omega, hk⟩
        · rintro ⟨r, hr, hk⟩
          rcases Nat.lt_succ_iff_lt_or_eq.mp hr with hlt | rfl
          · exact Or.inl ⟨r, hlt, hk⟩
          · exact Or.inr hk
  exact hrows call.out_height

end CameraHal
