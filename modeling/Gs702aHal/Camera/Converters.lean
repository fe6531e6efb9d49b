import Gs702aHal.Camera.JpegRows
import Gs702aHal.Camera.ResizeAccess
import Gs702aHal.Lib.Plane

set_option relaxedAutoImplicit false
set_option autoImplicit false

/-!
# Conversions between YUV and RGB

The loops of `Converters.cpp` walk along their planes with running pointers: one for the pixels, one
for the luma and two for the chroma, of which one sample serves two columns and two rows. From YUV
to RGB the chroma pointers go back to the start of their row after every other line. From RGB to
YUV a pass takes a block of two by two pixels, and the rows are skipped by hand.

The machine is little endian, as the headers' `__BYTE_ORDER` selects.

## Main definitions

* `CameraHal.YUVToRGB565`, `CameraHal.YUVToRGB32`, `CameraHal.RGB565ToYUV` — one pixel.
* `CameraHal.YUV420SToRGB` — the loops from YUV, which log the pixels that they store.
* `CameraHal.RGB565ToYUV420S` — the loops from RGB, which log the samples that they store.
* `CameraHal.ConvertsPixels`, `CameraHal.ConvertsBlocks` — what they are for.

## Main results

* `CameraHal.yuv420SToRGB_converts` — the conversions from YUV are right.
* `CameraHal.convertsBlocks_iff` — when the conversion from RGB is.
-/

namespace CameraHal

open StoreLog

/-! ### From YUV to RGB -/

/-- `clamp`. -/
def clamp (x : ℤ) : ℤ :=
  if x > 255 then 255
  else if x < 0 then 0
  else x

/-- `YUV2RO`. -/
def YUV2RO (C _D E : ℤ) : ℤ := clamp ((298 * C + 409 * E + 128) >>> (8 : ℕ))

/-- `YUV2GO`. -/
def YUV2GO (C D E : ℤ) : ℤ := clamp ((298 * C - 100 * D - 208 * E + 128) >>> (8 : ℕ))

/-- `YUV2BO`. -/
def YUV2BO (C D _E : ℤ) : ℤ := clamp ((298 * C + 516 * D + 128) >>> (8 : ℕ))

/-- `YUV2R`. -/
def YUV2R (y _u v : ℤ) : ℤ := clamp ((298 * (y - 16) + 409 * (v - 128) + 128) >>> (8 : ℕ))

/-- `YUV2G`. -/
def YUV2G (y u v : ℤ) : ℤ :=
  clamp ((298 * (y - 16) - 100 * (u - 128) - 208 * (v - 128) + 128) >>> (8 : ℕ))

/-- `YUV2B`. -/
def YUV2B (y u _v : ℤ) : ℤ := clamp ((298 * (y - 16) + 516 * (u - 128) + 128) >>> (8 : ℕ))

/-- `RGB565`. -/
def RGB565 (r g b : ℕ) : BitVec 16 := BitVec.ofNat 16 ((b <<< 6 ||| g) <<< 5 ||| r)

/-- `YUVToRGB565`. -/
def YUVToRGB565 (y u v : ℤ) : BitVec 16 :=
  let C := y - 16
  let D := u - 128
  let E := v - 128
  let r := (YUV2RO C D E >>> (3 : ℕ)).toNat &&& 0x1f
  let g := (YUV2GO C D E >>> (2 : ℕ)).toNat &&& 0x3f
  let b := (YUV2BO C D E >>> (3 : ℕ)).toNat &&& 0x1f
  RGB565 r g b

/-- The bytes of the union `RGB32_t`. -/
structure RGB32_t where
  r : Byte
  g : Byte
  b : Byte
  a : Byte
  deriving DecidableEq, Repr

/-- `RGB32_t.color`. -/
def RGB32_t.color (rgb : RGB32_t) : BitVec 32 := rgb.a ++ rgb.b ++ rgb.g ++ rgb.r

/-- `YUVToRGB32`. The fourth byte is not set; it is what it was, `a`. -/
def YUVToRGB32 (a : Byte) (y u v : ℤ) : BitVec 32 :=
  let C := y - 16
  let D := u - 128
  let E := v - 128
  RGB32_t.color
    { r := byte ((YUV2RO C D E).toNat &&& 0xff)
      g := byte ((YUV2GO C D E).toNat &&& 0xff)
      b := byte ((YUV2BO C D E).toNat &&& 0xff)
      a := a }

/-- The variables of `_YUV420SToRGB565` and `_YUV420SToRGB32`, with the stores so far. -/
structure ConvertLoop (α : Type) where
  Y : ℕ
  U : ℕ
  V : ℕ
  U_pos : ℕ
  V_pos : ℕ
  rgb : ℕ
  written : List (ℕ × α)

section Planes

variable {α : Type} (convert : ℕ → ℤ → ℤ → ℤ → α) (src : Buffer) (Y U V dUV rgb width : ℕ)

/-- A pass of the inner loop: two pixels. -/
def yuvToRgbPair (s : ConvertLoop α) : ConvertLoop α :=
  let nU := (src s.U).toNat
  let nV := (src s.V).toNat
  { s with
    Y := s.Y + 1 + 1
    rgb := s.rgb + 1 + 1
    written := s.written ++ [(s.rgb, convert s.rgb (src s.Y).toNat nU nV)] ++
      [(s.rgb + 1, convert (s.rgb + 1) (src (s.Y + 1)).toNat nU nV)]
    U := s.U + dUV
    V := s.V + dUV }

/-- A pass of the outer loop: the chroma pointers go on after an odd line only. -/
def yuvToRgbRow (y : ℕ) (s : ConvertLoop α) : ConvertLoop α :=
  let s := forLoop ((width + 1) / 2) (fun _ => yuvToRgbPair convert src dUV) s
  if y &&& 0x1 ≠ 0 then { s with U_pos := s.U, V_pos := s.V }
  else { s with U := s.U_pos, V := s.V_pos }

/-- `_YUV420SToRGB565` and `_YUV420SToRGB32`, which differ in the conversion of a pixel: the stores
to the output. -/
def YUV420SToRGB (height : ℕ) : List (ℕ × α) :=
  (forLoop height (yuvToRgbRow convert src dUV width) ⟨Y, U, V, U, V, rgb, []⟩).written

end Planes

/-- `_YUV420SToRGB565`. -/
def YUV420SToRGB565 (src : Buffer) (Y U V dUV rgb width height : ℕ) : List (ℕ × BitVec 16) :=
  YUV420SToRGB (fun _ => YUVToRGB565) src Y U V dUV rgb width height

/-- `_YUV420SToRGB32`; `a` is the byte of each pixel that is not set. -/
def YUV420SToRGB32 (a : ℕ → Byte) (src : Buffer) (Y U V dUV rgb width height : ℕ) :
    List (ℕ × BitVec 32) :=
  YUV420SToRGB (fun k => YUVToRGB32 (a k)) src Y U V dUV rgb width height

/-- A 16-bit pixel has the colour of a sample: the colours take five, six and five bits. -/
structure IsRGB565 (word : BitVec 16) (y u v : ℤ) : Prop where
  red : (word.toNat : ℤ) % 2 ^ 5 = YUV2R y u v / 2 ^ 3
  green : (word.toNat : ℤ) / 2 ^ 5 % 2 ^ 6 = YUV2G y u v / 2 ^ 2
  blue : (word.toNat : ℤ) / 2 ^ 11 = YUV2B y u v / 2 ^ 3

/-- A 32-bit pixel has the colour of a sample: each colour takes a byte. -/
structure IsRGB32 (word : BitVec 32) (y u v : ℤ) : Prop where
  red : (word.toNat : ℤ) % 2 ^ 8 = YUV2R y u v
  green : (word.toNat : ℤ) / 2 ^ 8 % 2 ^ 8 = YUV2G y u v
  blue : (word.toNat : ℤ) / 2 ^ 16 % 2 ^ 8 = YUV2B y u v

/-- The stores convert a picture: they are one for each pixel, and then each pixel has the colour
of its luma and of the chroma of its block. -/
structure ConvertsPixels {α : Type} (IsColour : α → ℤ → ℤ → ℤ → Prop) (src : Buffer)
    (Y U V dUV rgb width height : ℕ) (written : List (ℕ × α)) : Prop where
  once : targets written = (List.range (height * width)).map (rgb + ·)
  pixel : ∀ m, ∀ y < height, ∀ x < width,
    IsColour (storeAll written m (rgb + (y * width + x)))
      (src (Y + (y * width + x))).toNat
      (src (U + (y / 2 * (width / 2) + x / 2) * dUV)).toNat
      (src (V + (y / 2 * (width / 2) + x / 2) * dUV)).toNat

/-- The range of a colour. -/
lemma clamp_range (x : ℤ) : 0 ≤ clamp x ∧ clamp x ≤ 255 := by
  unfold clamp
  split_ifs <;> omega

/-- Bits that are joined lie beside each other. -/
lemma shiftLeft_or {a b n : ℕ} (hb : b < 2 ^ n) : a <<< n ||| b = a * 2 ^ n + b := by
  rw [← Nat.shiftLeft_add_eq_or_of_lt hb, Nat.shiftLeft_eq]

/-- The leading bits of a colour. -/
lemma clamp_shiftRight (x : ℤ) {n k : ℕ} (hk : 255 / 2 ^ n < 2 ^ k) :
    (((clamp x >>> n).toNat &&& (2 ^ k - 1) : ℕ) : ℤ) = clamp x / 2 ^ n := by
  obtain ⟨hnonneg, hle⟩ := clamp_range x
  obtain ⟨c, hc⟩ := Int.eq_ofNat_of_zero_le hnonneg
  have hc255 : c ≤ 255 := by omega
  have hshift : (c : ℤ) >>> n = ((c / 2 ^ n : ℕ) : ℤ) := by
    rw [Int.shiftRight_eq_div_pow]
    norm_cast
  have hlt : c / 2 ^ n < 2 ^ k := (Nat.div_le_div_right hc255).trans_lt hk
  rw [hc, hshift, Int.toNat_natCast, Nat.and_two_pow_sub_one_eq_mod, Nat.mod_eq_of_lt hlt]
  norm_cast

/-- The bits of a 16-bit pixel.

**Proof sketch.** Each colour is shifted by the bits of the ones below it. -/
lemma toNat_RGB565 {r g b : ℕ} (hr : r < 2 ^ 5) (hg : g < 2 ^ 6) (hb : b < 2 ^ 5) :
    (RGB565 r g b).toNat = (b * 2 ^ 6 + g) * 2 ^ 5 + r := by
  rw [RGB565, shiftLeft_or hg, shiftLeft_or hr, BitVec.toNat_ofNat, Nat.mod_eq_of_lt (by omega)]

/-- The colours of a 16-bit pixel. -/
lemma isRGB565_YUVToRGB565 (y u v : ℤ) : IsRGB565 (YUVToRGB565 y u v) y u v := by
  have hred : (((YUV2RO (y - 16) (u - 128) (v - 128) >>> (3 : ℕ)).toNat &&& 0x1f : ℕ) : ℤ) =
      YUV2R y u v / 2 ^ 3 := @clamp_shiftRight _ 3 5 (by decide)
  have hgreen : (((YUV2GO (y - 16) (u - 128) (v - 128) >>> (2 : ℕ)).toNat &&& 0x3f : ℕ) : ℤ) =
      YUV2G y u v / 2 ^ 2 := @clamp_shiftRight _ 2 6 (by decide)
  have hblue : (((YUV2BO (y - 16) (u - 128) (v - 128) >>> (3 : ℕ)).toNat &&& 0x1f : ℕ) : ℤ) =
      YUV2B y u v / 2 ^ 3 := @clamp_shiftRight _ 3 5 (by decide)
  have hr := @Nat.and_lt_two_pow (YUV2RO (y - 16) (u - 128) (v - 128) >>> (3 : ℕ)).toNat 0x1f 5
    (by decide)
  have hg := @Nat.and_lt_two_pow (YUV2GO (y - 16) (u - 128) (v - 128) >>> (2 : ℕ)).toNat 0x3f 6
    (by decide)
  have hb := @Nat.and_lt_two_pow (YUV2BO (y - 16) (u - 128) (v - 128) >>> (3 : ℕ)).toNat 0x1f 5
    (by decide)
  have hword := toNat_RGB565 hr hg hb
  constructor
  · rw [YUVToRGB565, hword, ← hred]
    omega
  · rw [YUVToRGB565, hword, ← hgreen]
    omega
  · rw [YUVToRGB565, hword, ← hblue]
    omega

/-- A colour is its byte. -/
lemma toNat_byte_clamp (x : ℤ) : ((byte ((clamp x).toNat &&& 0xff)).toNat : ℤ) = clamp x := by
  have hmask : (((clamp x >>> (0 : ℕ)).toNat &&& (2 ^ 8 - 1) : ℕ) : ℤ) = clamp x / 2 ^ 0 :=
    clamp_shiftRight x (by decide)
  have hlt := @Nat.and_lt_two_pow (clamp x).toNat 0xff 8 (by decide)
  rw [Int.shiftRight_zero, pow_zero, Int.ediv_one] at hmask
  rw [byte, BitVec.toNat_ofNat, Nat.mod_eq_of_lt hlt]
  exact hmask

/-- The bytes of a 32-bit pixel lie beside each other. -/
lemma toNat_color (rgb : RGB32_t) :
    (rgb.color.toNat : ℤ) % 2 ^ 8 = rgb.r.toNat ∧
      (rgb.color.toNat : ℤ) / 2 ^ 8 % 2 ^ 8 = rgb.g.toNat ∧
        (rgb.color.toNat : ℤ) / 2 ^ 16 % 2 ^ 8 = rgb.b.toNat := by
  have hcolor : rgb.color.toNat =
      ((rgb.a.toNat * 2 ^ 8 + rgb.b.toNat) * 2 ^ 8 + rgb.g.toNat) * 2 ^ 8 + rgb.r.toNat := by
    simp only [RGB32_t.color, BitVec.toNat_append, shiftLeft_or (BitVec.isLt _)]
  have hr := rgb.r.isLt
  have hg := rgb.g.isLt
  have hb := rgb.b.isLt
  omega

/-- The colours of a 32-bit pixel, whatever the byte is that is not set. -/
lemma isRGB32_YUVToRGB32 (a : Byte) (y u v : ℤ) : IsRGB32 (YUVToRGB32 a y u v) y u v := by
  obtain ⟨hr, hg, hb⟩ := toNat_color
    { r := byte ((YUV2RO (y - 16) (u - 128) (v - 128)).toNat &&& 0xff)
      g := byte ((YUV2GO (y - 16) (u - 128) (v - 128)).toNat &&& 0xff)
      b := byte ((YUV2BO (y - 16) (u - 128) (v - 128)).toNat &&& 0xff)
      a := a }
  exact ⟨hr.trans (toNat_byte_clamp _), hg.trans (toNat_byte_clamp _),
    hb.trans (toNat_byte_clamp _)⟩

/-! ### The loops from YUV -/

section Planes

variable {α : Type} (convert : ℕ → ℤ → ℤ → ℤ → α) (src : Buffer) (Y U V dUV rgb width : ℕ)

/-- The store of the pixel `k`, counted through all lines. -/
def pixelStore (k : ℕ) : List (ℕ × α) :=
  let chroma := (k / width / 2 * (width / 2) + k % width / 2) * dUV
  [(rgb + k, convert (rgb + k) (src (Y + k)).toNat (src (U + chroma)).toNat
    (src (V + chroma)).toNat)]

/-- The store of a pixel, by its line and column. -/
lemma pixelStore_eq {x : ℕ} (hx : x < width) (y : ℕ) :
    pixelStore convert src Y U V dUV rgb width (y * width + x) =
      [(rgb + (y * width + x), convert (rgb + (y * width + x)) (src (Y + (y * width + x))).toNat
        (src (U + (y / 2 * (width / 2) + x / 2) * dUV)).toNat
        (src (V + (y / 2 * (width / 2) + x / 2) * dUV)).toNat)] := by
  have hline : (y * width + x) / width = y := by
    rw [Nat.mul_comm, Nat.mul_add_div (by omega), Nat.div_eq_of_lt hx, Nat.add_zero]
  have hcolumn : (y * width + x) % width = x := by
    rw [Nat.mul_comm, Nat.mul_add_mod, Nat.mod_eq_of_lt hx]
  simp only [pixelStore, hline, hcolumn]

/-- The variables before the pass `x` of the inner loop in the line `y`. -/
def yuvToRgbAt (y x : ℕ) : ConvertLoop α where
  Y := Y + (y * width + x * 2)
  U := U + (y / 2 * (width / 2) + x) * dUV
  V := V + (y / 2 * (width / 2) + x) * dUV
  U_pos := U + y / 2 * (width / 2) * dUV
  V_pos := V + y / 2 * (width / 2) * dUV
  rgb := rgb + (y * width + x * 2)
  written := passes (y * width + x * 2) (pixelStore convert src Y U V dUV rgb width)

/-- A pass of the inner loop. -/
lemma yuvToRgbPair_at {y x : ℕ} (hx : x * 2 + 1 < width) :
    yuvToRgbPair convert src dUV (yuvToRgbAt convert src Y U V dUV rgb width y x) =
      yuvToRgbAt convert src Y U V dUV rgb width y (x + 1) := by
  have hfirst := pixelStore_eq convert src Y U V dUV rgb width (Nat.lt_of_succ_lt hx) y
  have hsecond := pixelStore_eq convert src Y U V dUV rgb width hx y
  rw [Nat.mul_div_cancel x Nat.two_pos] at hfirst
  rw [show (x * 2 + 1) / 2 = x by omega] at hsecond
  have hwritten : passes (y * width + (x + 1) * 2) (pixelStore convert src Y U V dUV rgb width) =
      passes (y * width + x * 2) (pixelStore convert src Y U V dUV rgb width) ++
        pixelStore convert src Y U V dUV rgb width (y * width + x * 2) ++
          pixelStore convert src Y U V dUV rgb width (y * width + (x * 2 + 1)) := by
    rw [show y * width + (x + 1) * 2 = y * width + x * 2 + 1 + 1 by omega, passes_succ, passes_succ,
      Nat.add_assoc (y * width)]
  have hplace : y * width + (x + 1) * 2 = y * width + x * 2 + 1 + 1 := by omega
  have hchroma : (y / 2 * (width / 2) + (x + 1)) * dUV =
      (y / 2 * (width / 2) + x) * dUV + dUV := by
    rw [← Nat.add_assoc, Nat.add_one_mul]
  simp only [yuvToRgbPair, yuvToRgbAt, hwritten, hfirst, hsecond]
  rw [hplace, hchroma]
  simp only [Nat.add_assoc]

/-- The inner loop of a line. -/
lemma yuvToRgbPairs_at (hw : width % 2 = 0) (y : ℕ) :
    forLoop ((width + 1) / 2) (fun _ => yuvToRgbPair convert src dUV)
        (yuvToRgbAt convert src Y U V dUV rgb width y 0) =
      yuvToRgbAt convert src Y U V dUV rgb width y (width / 2) := by
  rw [show (width + 1) / 2 = width / 2 by omega]
  refine forLoop_rule (fun x s => s = yuvToRgbAt convert src Y U V dUV rgb width y x) rfl _ ?_
  rintro x s hx rfl
  exact yuvToRgbPair_at convert src Y U V dUV rgb width (by omega)

/-- A line. The chroma pointers go to the next chroma row, or back.

**Proof sketch.** After an even line they are set back to the start of the row that it shares with
the next line. -/
lemma yuvToRgbRow_at (hw : width % 2 = 0) (y : ℕ) :
    yuvToRgbRow convert src dUV width y (yuvToRgbAt convert src Y U V dUV rgb width y 0) =
      yuvToRgbAt convert src Y U V dUV rgb width (y + 1) 0 := by
  have hline : y * width + width / 2 * 2 = (y + 1) * width + 0 * 2 := by
    rw [Nat.add_one_mul]
    omega
  rw [yuvToRgbRow, yuvToRgbPairs_at convert src Y U V dUV rgb width hw]
  simp only [Nat.and_one_is_mod, yuvToRgbAt, hline]
  split_ifs with hodd
  · have hrow : (y + 1) / 2 = y / 2 + 1 := by omega
    simp only [hrow, Nat.add_zero, Nat.add_one_mul]
  · have hrow : (y + 1) / 2 = y / 2 := by omega
    simp only [hrow, Nat.add_zero]

/-- The stores of a call are those of the pixels in their order. -/
lemma YUV420SToRGB_eq (hw : width % 2 = 0) (height : ℕ) :
    YUV420SToRGB convert src Y U V dUV rgb width height =
      passes (height * width) (pixelStore convert src Y U V dUV rgb width) := by
  have hstart : (⟨Y, U, V, U, V, rgb, []⟩ : ConvertLoop α) =
      yuvToRgbAt convert src Y U V dUV rgb width 0 0 := by
    simp [yuvToRgbAt]
  rw [YUV420SToRGB, hstart,
    forLoop_eq (fun y => yuvToRgbAt convert src Y U V dUV rgb width y 0)
      (yuvToRgbRow_at convert src Y U V dUV rgb width hw)]
  simp [yuvToRgbAt]

/-- The stores of pixels convert a picture, if the conversion of each does. -/
lemma convertsPixels {IsColour : α → ℤ → ℤ → ℤ → Prop}
    (hcolour : ∀ k y u v, IsColour (convert k y u v) y u v) (hw : width % 2 = 0) (height : ℕ) :
    ConvertsPixels IsColour src Y U V dUV rgb width height
      (YUV420SToRGB convert src Y U V dUV rgb width height) := by
  rw [YUV420SToRGB_eq convert src Y U V dUV rgb width hw]
  constructor
  case once =>
    simp only [targets, passes, pixelStore, List.map_flatMap, List.map_cons, List.map_nil]
    exact List.map_eq_flatMap.symm
  case pixel =>
    intro m y hy x hx
    have hk : y * width + x < height * width := by
      have := Nat.mul_le_mul_right width (show y + 1 ≤ height from hy)
      rw [Nat.add_one_mul] at this
      omega
    have hstore := pixelStore_eq convert src Y U V dUV rgb width hx y
    have hheld := @storeAll_eq _ m (passes (height * width)
      (pixelStore convert src Y U V dUV rgb width)) (rgb + (y * width + x))
      (convert (rgb + (y * width + x)) (src (Y + (y * width + x))).toNat
        (src (U + (y / 2 * (width / 2) + x / 2) * dUV)).toNat
        (src (V + (y / 2 * (width / 2) + x / 2) * dUV)).toNat)
    rw [hheld]
    · exact hcolour _ _ _ _
    · exact mem_targets.mpr ⟨_, mem_passes.mpr ⟨_, hk, hstore ▸ List.mem_singleton_self _⟩⟩
    · -- the place of a store says of which pixel it is
      rintro w hw' hplace
      obtain ⟨k, -, hwk⟩ := mem_passes.mp hw'
      obtain rfl := List.mem_singleton.mp hwk
      obtain rfl : k = y * width + x := Nat.add_left_cancel hplace
      rw [pixelStore, List.singleton_inj] at hstore
      exact (Prod.mk.inj hstore).2

end Planes

/-- **The conversions from YUV are right**: for an even width, every pixel is stored once, with the
colour of its luma and of the chroma of its block, each colour clamped and in its own bits.

**Proof sketch.** The stores are those of the pixels in the order of their places: the chroma
pointers are set back after the even lines, so that two lines share a chroma row. -/
theorem yuv420SToRGB_converts {width : ℕ} (hw : width % 2 = 0) (a : ℕ → Byte) (src : Buffer)
    (Y U V dUV rgb height : ℕ) :
    ConvertsPixels IsRGB565 src Y U V dUV rgb width height
        (YUV420SToRGB565 src Y U V dUV rgb width height) ∧
      ConvertsPixels IsRGB32 src Y U V dUV rgb width height
        (YUV420SToRGB32 a src Y U V dUV rgb width height) :=
  ⟨convertsPixels _ src Y U V dUV rgb width (fun _ => isRGB565_YUVToRGB565) hw height,
    convertsPixels _ src Y U V dUV rgb width (fun k => isRGB32_YUVToRGB32 (a k)) hw height⟩

/-- A picture of two by two pixels. -/
theorem yuv420SToRGB_converts_twoByTwo :
    ConvertsPixels IsRGB565 (fun k => byte (60 * k)) 0 4 5 1 0 2 2
        (YUV420SToRGB565 (fun k => byte (60 * k)) 0 4 5 1 0 2 2) ∧
      ConvertsPixels IsRGB32 (fun k => byte (60 * k)) 0 4 5 1 0 2 2
        (YUV420SToRGB32 (fun _ => 0#8) (fun k => byte (60 * k)) 0 4 5 1 0 2 2) :=
  yuv420SToRGB_converts (by decide) (fun _ => 0#8) (fun k => byte (60 * k)) 0 4 5 1 0 2

/-! ### From RGB to YUV -/

/-- `RGB2Y`. -/
def RGB2Y (r g b : ℤ) : Byte :=
  BitVec.ofInt 8 (((66 * r + 129 * g + 25 * b + 128) >>> (8 : ℕ)) + 16)

/-- `RGB2U`. -/
def RGB2U (r g b : ℤ) : Byte :=
  BitVec.ofInt 8 (((-38 * r - 74 * g + 112 * b + 128) >>> (8 : ℕ)) + 128)

/-- `RGB2V`. -/
def RGB2V (r g b : ℤ) : Byte :=
  BitVec.ofInt 8 (((112 * r - 94 * g - 18 * b + 128) >>> (8 : ℕ)) + 128)

/-- A sample of each plane. -/
structure YUVPixel where
  Y : Byte
  U : Byte
  V : Byte
  deriving DecidableEq, Repr

/-- The sample for a plane. -/
def YUVPixel.sample (s : YUVPixel) : Channel → Byte
  | .y => s.Y
  | .u => s.U
  | .v => s.V

/-- `R8G8B8ToYUV`. -/
def R8G8B8ToYUV (r g b : Byte) : YUVPixel where
  Y := RGB2Y r.toNat g.toNat b.toNat
  U := RGB2U r.toNat g.toNat b.toNat
  V := RGB2V r.toNat g.toNat b.toNat

/-- `RGB565ToYUV`. -/
def RGB565ToYUV (rgb : BitVec 16) : YUVPixel :=
  R8G8B8ToYUV (R16_32 rgb.toNat) (G16_32 rgb.toNat) (B16_32 rgb.toNat)

/-- A picture of 16-bit pixels. -/
abbrev Pixels := ℕ → BitVec 16

/-- A store to one of the planes. -/
structure SampleStore where
  channel : Channel
  place : ℕ
  sample : Byte
  deriving DecidableEq, Repr

/-- The variables of `_RGB565ToYUV420S`, with the stores so far. -/
structure BlockLoop where
  rgb : ℕ
  Y : ℕ
  U : ℕ
  V : ℕ
  written : List SampleStore

/-- A pass of the inner loop: a block. Its upper left pixel does not count for the chroma, and the
one beside it counts twice. -/
def rgbToYuvBlock (src : Pixels) (dUV width : ℕ) (s : BlockLoop) : BlockLoop :=
  let p0 := RGB565ToYUV (src s.rgb)
  let p1 := RGB565ToYUV (src (s.rgb + 1))
  let p2 := RGB565ToYUV (src (s.rgb + width))
  let p3 := RGB565ToYUV (src (s.rgb + width + 1))
  { rgb := s.rgb + 2
    Y := s.Y + 2
    U := s.U + dUV
    V := s.V + dUV
    written := s.written ++
      [⟨.y, s.Y, p0.Y⟩, ⟨.y, s.Y + 1, p1.Y⟩, ⟨.y, s.Y + width, p2.Y⟩, ⟨.y, s.Y + width + 1, p3.Y⟩,
        ⟨.u, s.U, byte ((p1.U.toNat + p1.U.toNat + p2.U.toNat + p3.U.toNat) >>> 2)⟩,
        ⟨.v, s.V, byte ((p1.V.toNat + p1.V.toNat + p2.V.toNat + p3.V.toNat) >>> 2)⟩] }

/-- A pass of the outer loop. Only the luma pointer skips a line. -/
def rgbToYuvRow (src : Pixels) (dUV width : ℕ) (s : BlockLoop) : BlockLoop :=
  let s := forLoop (width >>> 1) (fun _ => rgbToYuvBlock src dUV width) s
  { s with Y := s.Y + width }

/-- `_RGB565ToYUV420S`: the stores to the planes. -/
def RGB565ToYUV420S (src : Pixels) (rgb Y U V dUV width height : ℕ) : List SampleStore :=
  (forLoop (height >>> 1) (fun _ => rgbToYuvRow src dUV width) ⟨rgb, Y, U, V, []⟩).written

/-- Where the pixels and the samples of a picture are; its sizes are even. -/
structure Planes420 where
  rgb : ℕ
  Y : ℕ
  U : ℕ
  V : ℕ
  dUV : ℕ
  width : ℕ
  height : ℕ
  dUV_pos : 0 < dUV
  width_even : width % 2 = 0
  height_even : height % 2 = 0

namespace Planes420

variable (p : Planes420)

/-- `_RGB565ToYUV420S` for these planes. -/
def convert (src : Pixels) : List SampleStore :=
  RGB565ToYUV420S src p.rgb p.Y p.U p.V p.dUV p.width p.height

/-- The place of a pixel. -/
def pixelPlace (r c : ℕ) : ℕ := p.rgb + (r * p.width + c)

/-- The samples of a pixel. -/
def yuvAt (src : Pixels) (r c : ℕ) : YUVPixel := RGB565ToYUV (src (p.pixelPlace r c))

/-- The planes of the samples: the chroma has half as many lines and columns as the luma. -/
def plane : Channel → Plane
  | .y => ⟨p.Y, p.width, 1, p.height, p.width⟩
  | .u => ⟨p.U, p.width / 2 * p.dUV, p.dUV, p.height / 2, p.width / 2⟩
  | .v => ⟨p.V, p.width / 2 * p.dUV, p.dUV, p.height / 2, p.width / 2⟩

/-- A sample of a pixel. -/
def sampleAt (src : Pixels) (channel : Channel) (r c : ℕ) : ℕ :=
  ((p.yuvAt src r c).sample channel).toNat

/-- The sum of a sample over the four pixels of a block. -/
def blockSum (src : Pixels) (channel : Channel) (i j : ℕ) : ℕ :=
  p.sampleAt src channel (2 * i) (2 * j) + p.sampleAt src channel (2 * i) (2 * j + 1) +
    p.sampleAt src channel (2 * i + 1) (2 * j) + p.sampleAt src channel (2 * i + 1) (2 * j + 1)

/-- Twice the right one of the pixels `2 * j` and `2 * j + 1` of the line `i`, with both of the next
line. -/
def lineSum (src : Pixels) (channel : Channel) (i j : ℕ) : ℕ :=
  2 * p.sampleAt src channel i (2 * j + 1) + p.sampleAt src channel (i + 1) (2 * j) +
    p.sampleAt src channel (i + 1) (2 * j + 1)

/-- The picture is converted: all stores are inside of the planes, each luma sample is that of its
pixel, and each chroma sample is the average over the four pixels of its block. -/
structure ConvertsBlocks (src : Pixels) : Prop where
  inside : ∀ s ∈ p.convert src, (p.plane s.channel).Has s.place
  luma : ∀ r < p.height, ∀ c < p.width, ∀ b,
    ⟨.y, (p.plane .y).cell r c, b⟩ ∈ p.convert src ↔ b = (p.yuvAt src r c).Y
  chroma : ∀ channel, channel ≠ .y → ∀ i < p.height / 2, ∀ j < p.width / 2, ∀ b,
    ⟨channel, (p.plane channel).cell i j, b⟩ ∈ p.convert src ↔
      b = byte (p.blockSum src channel i j / 4)

/-- A pixel counts for the chroma of a block: another colour of the pixel alone can change it. -/
def Counts (r c i j : ℕ) : Prop :=
  ∃ src src' : Pixels, (∀ k, k ≠ p.pixelPlace r c → src k = src' k) ∧
    ∃ channel b, channel ≠ .y ∧ ⟨channel, (p.plane channel).cell i j, b⟩ ∈ p.convert src ∧
      ⟨channel, (p.plane channel).cell i j, b⟩ ∉ p.convert src'

/-- Each pixel counts for the chroma of its own block, and of no other. -/
def CountsForItsBlock : Prop :=
  ∀ r < p.height, ∀ c < p.width, ∀ i < p.height / 2, ∀ j < p.width / 2,
    p.Counts r c i j ↔ i = r / 2 ∧ j = c / 2

/-! ### The loops from RGB -/

/-- The stores of a block. -/
def blockStores (src : Pixels) (i j : ℕ) : List SampleStore :=
  [⟨.y, (p.plane .y).cell (2 * i) (2 * j), (p.yuvAt src i (2 * j)).Y⟩,
    ⟨.y, (p.plane .y).cell (2 * i) (2 * j + 1), (p.yuvAt src i (2 * j + 1)).Y⟩,
    ⟨.y, (p.plane .y).cell (2 * i + 1) (2 * j), (p.yuvAt src (i + 1) (2 * j)).Y⟩,
    ⟨.y, (p.plane .y).cell (2 * i + 1) (2 * j + 1), (p.yuvAt src (i + 1) (2 * j + 1)).Y⟩,
    ⟨.u, (p.plane .u).cell i j, byte (p.lineSum src .u i j / 4)⟩,
    ⟨.v, (p.plane .v).cell i j, byte (p.lineSum src .v i j / 4)⟩]

/-- The stores of a line of blocks. -/
def rowStores (src : Pixels) (n i : ℕ) : List SampleStore :=
  (List.range n).flatMap (p.blockStores src i)

/-- The variables before the block `j` of the line `i` of blocks. -/
def blockAt (src : Pixels) (i j : ℕ) : BlockLoop where
  rgb := p.pixelPlace i (2 * j)
  Y := (p.plane .y).cell (2 * i) (2 * j)
  U := (p.plane .u).cell i j
  V := (p.plane .v).cell i j
  written := (List.range i).flatMap (p.rowStores src (p.width / 2)) ++ p.rowStores src j i

/-- A block.

**Proof sketch.** The pointers go on by two columns; a width further is the next line. -/
lemma rgbToYuvBlock_at (src : Pixels) (i j : ℕ) :
    rgbToYuvBlock src p.dUV p.width (p.blockAt src i j) = p.blockAt src i (j + 1) := by
  have hright (r c : ℕ) : p.pixelPlace r c + 1 = p.pixelPlace r (c + 1) := rfl
  have hbelow (r c : ℕ) : p.pixelPlace r c + p.width = p.pixelPlace (r + 1) c := by
    simp only [pixelPlace, Nat.add_one_mul]
    omega
  have hlumaRight (r c : ℕ) : (p.plane .y).cell r c + 1 = (p.plane .y).cell r (c + 1) := by
    simp only [plane, Plane.cell, Nat.mul_one, Nat.add_assoc]
  have hlumaBelow (r c : ℕ) :
      (p.plane .y).cell r c + p.width = (p.plane .y).cell (r + 1) c := by
    simp only [plane, Plane.cell, Nat.add_one_mul]
    omega
  have hu : (p.plane .u).cell i j + p.dUV = (p.plane .u).cell i (j + 1) := by
    simp only [plane, Plane.cell, Nat.add_one_mul, Nat.add_assoc]
  have hv : (p.plane .v).cell i j + p.dUV = (p.plane .v).cell i (j + 1) := by
    simp only [plane, Plane.cell, Nat.add_one_mul, Nat.add_assoc]
  have hstores : p.rowStores src (j + 1) i = p.rowStores src j i ++ p.blockStores src i j := by
    simp [rowStores, List.range_succ]
  have hnext : 2 * (j + 1) = 2 * j + 1 + 1 := rfl
  have hsum (channel : Channel) : p.lineSum src channel i j / 4 =
      (p.sampleAt src channel i (2 * j + 1) + p.sampleAt src channel i (2 * j + 1) +
        p.sampleAt src channel (i + 1) (2 * j) +
          p.sampleAt src channel (i + 1) (2 * j + 1)) >>> 2 := by
    rw [lineSum, Nat.two_mul, Nat.shiftRight_eq_div_pow]
  simp only [rgbToYuvBlock, blockAt, hstores, hnext, blockStores, hsum, sampleAt, YUVPixel.sample,
    yuvAt, ← hright, ← hbelow, ← hlumaRight, ← hlumaBelow, hu, hv, List.append_assoc]

/-- A line of blocks. -/
lemma rgbToYuvRow_at (src : Pixels) (i : ℕ) :
    rgbToYuvRow src p.dUV p.width (p.blockAt src i 0) = p.blockAt src (i + 1) 0 := by
  have hw := p.width_even
  have hpixel : p.pixelPlace i (2 * (p.width / 2)) = p.pixelPlace (i + 1) 0 := by
    simp only [pixelPlace, Nat.add_one_mul]
    omega
  have hluma : (p.plane .y).cell (2 * i) (2 * (p.width / 2)) + p.width =
      (p.plane .y).cell (2 * (i + 1)) 0 := by
    simp only [plane, Plane.cell, Nat.mul_add, Nat.add_mul]
    omega
  have hu : (p.plane .u).cell i (p.width / 2) = (p.plane .u).cell (i + 1) 0 := by
    simp only [plane, Plane.cell, Nat.add_one_mul, Nat.zero_mul, Nat.add_zero, Nat.add_assoc]
  have hv : (p.plane .v).cell i (p.width / 2) = (p.plane .v).cell (i + 1) 0 := by
    simp only [plane, Plane.cell, Nat.add_one_mul, Nat.zero_mul, Nat.add_zero, Nat.add_assoc]
  have hwritten : (p.blockAt src i (p.width / 2)).written = (p.blockAt src (i + 1) 0).written := by
    simp [blockAt, rowStores, List.range_succ]
  rw [rgbToYuvRow, Nat.shiftRight_one, forLoop_eq (p.blockAt src i) (p.rgbToYuvBlock_at src i)]
  simp only [blockAt] at hwritten ⊢
  rw [hpixel, hluma, hu, hv, hwritten]

/-- The stores of a call are those of the blocks. -/
lemma convert_eq (src : Pixels) :
    p.convert src = (List.range (p.height / 2)).flatMap (p.rowStores src (p.width / 2)) := by
  have hstart : (⟨p.rgb, p.Y, p.U, p.V, []⟩ : BlockLoop) = p.blockAt src 0 0 := by
    simp [blockAt, pixelPlace, plane, Plane.cell, rowStores]
  rw [convert, RGB565ToYUV420S, hstart, Nat.shiftRight_one,
    forLoop_eq (fun i => p.blockAt src i 0) (p.rgbToYuvRow_at src)]
  simp [blockAt, rowStores]

/-- A store of a call is one of a block. -/
lemma mem_convert {src : Pixels} {s : SampleStore} :
    s ∈ p.convert src ↔ ∃ i < p.height / 2, ∃ j < p.width / 2, s ∈ p.blockStores src i j := by
  simp only [convert_eq, rowStores, List.mem_flatMap, List.mem_range]

/-- The rows of the planes do not overlap. -/
lemma plane_fits (channel : Channel) : (p.plane channel).Fits := by
  have hdUV := p.dUV_pos
  cases channel with
  | y => exact ⟨Nat.one_pos, fun c hc => (Nat.mul_one c).symm ▸ hc⟩
  | u => exact ⟨hdUV, fun c hc => Nat.mul_lt_mul_of_pos_right hc hdUV⟩
  | v => exact ⟨hdUV, fun c hc => Nat.mul_lt_mul_of_pos_right hc hdUV⟩

/-- The luma that a block stores: the lines `i` and `i + 1`, in the places of `2 * i` and
`2 * i + 1`. -/
lemma luma_mem_blockStores {src : Pixels} {i j k : ℕ} {b : Byte} :
    ⟨.y, k, b⟩ ∈ p.blockStores src i j ↔ ∃ a < 2, ∃ d < 2,
      k = (p.plane .y).cell (2 * i + a) (2 * j + d) ∧
        b = (p.yuvAt src (i + a) (2 * j + d)).Y := by
  constructor
  · intro hmem
    simp only [blockStores, List.mem_cons, SampleStore.mk.injEq, reduceCtorEq, false_and, or_false,
      true_and, List.not_mem_nil] at hmem
    rcases hmem with h | h | h | h
    · exact ⟨0, by decide, 0, by decide, h⟩
    · exact ⟨0, by decide, 1, by decide, h⟩
    · exact ⟨1, by decide, 0, by decide, h⟩
    · exact ⟨1, by decide, 1, by decide, h⟩
  · rintro ⟨a, ha, d, hd, rfl, rfl⟩
    obtain rfl | rfl : a = 0 ∨ a = 1 := by omega
    all_goals obtain rfl | rfl : d = 0 ∨ d = 1 := by omega
    all_goals simp [blockStores]

/-- The chroma that a block stores. -/
lemma chroma_mem_blockStores {src : Pixels} {i j k : ℕ} {b : Byte} {channel : Channel}
    (hchannel : channel ≠ .y) :
    ⟨channel, k, b⟩ ∈ p.blockStores src i j ↔
      k = (p.plane channel).cell i j ∧ b = byte (p.lineSum src channel i j / 4) := by
  cases channel with
  | y => exact absurd rfl hchannel
  | u => simp [blockStores]
  | v => simp [blockStores]

/-- A luma sample comes from a line that is about half as far down.

**Proof sketch.** The place of a sample says in which block it was stored, and there where. -/
lemma luma_mem_convert {src : Pixels} {r c : ℕ} (hr : r < p.height) (hc : c < p.width) {b : Byte} :
    ⟨.y, (p.plane .y).cell r c, b⟩ ∈ p.convert src ↔
      b = (p.yuvAt src (r / 2 + r % 2) c).Y := by
  have hw := p.width_even
  have hh := p.height_even
  rw [mem_convert]
  constructor
  · rintro ⟨i, hi, j, hj, hmem⟩
    obtain ⟨a, ha, d, hd, hplace, rfl⟩ := p.luma_mem_blockStores.mp hmem
    obtain ⟨rfl, rfl⟩ := Plane.cell_inj (p.plane_fits .y) hc
      (show 2 * j + d < p.width by omega) hplace
    rw [show (2 * i + a) / 2 + (2 * i + a) % 2 = i + a by omega]
  · rintro rfl
    refine ⟨r / 2, by omega, c / 2, by omega, p.luma_mem_blockStores.mpr
      ⟨r % 2, Nat.mod_lt r Nat.two_pos, c % 2, Nat.mod_lt c Nat.two_pos, ?_, ?_⟩⟩
    · rw [Nat.div_add_mod, Nat.div_add_mod]
    · rw [Nat.div_add_mod]

/-- A chroma sample is the quotient of the sum of its block's pass. -/
lemma chroma_mem_convert {src : Pixels} {i j : ℕ} (hi : i < p.height / 2) (hj : j < p.width / 2)
    {b : Byte} {channel : Channel} (hchannel : channel ≠ .y) :
    ⟨channel, (p.plane channel).cell i j, b⟩ ∈ p.convert src ↔
      b = byte (p.lineSum src channel i j / 4) := by
  have hcols : (p.plane channel).cols = p.width / 2 := by
    cases channel with
    | y => exact absurd rfl hchannel
    | u => rfl
    | v => rfl
  rw [mem_convert]
  constructor
  · rintro ⟨i', hi', j', hj', hmem⟩
    obtain ⟨hplace, rfl⟩ := (p.chroma_mem_blockStores hchannel).mp hmem
    obtain ⟨rfl, rfl⟩ := Plane.cell_inj (p.plane_fits channel) (hcols ▸ hj) (hcols ▸ hj') hplace
    rfl
  · rintro rfl
    exact ⟨i, hi, j, hj, (p.chroma_mem_blockStores hchannel).mpr ⟨rfl, rfl⟩⟩

/-- All stores are inside of the planes. -/
lemma convert_inside (src : Pixels) : ∀ s ∈ p.convert src, (p.plane s.channel).Has s.place := by
  have hw := p.width_even
  have hh := p.height_even
  rintro ⟨channel, k, b⟩ hs
  obtain ⟨i, hi, j, hj, hmem⟩ := p.mem_convert.mp hs
  cases channel with
  | y =>
    obtain ⟨a, ha, d, hd, rfl, -⟩ := p.luma_mem_blockStores.mp hmem
    exact Plane.has_cell (show 2 * i + a < p.height by omega) (show 2 * j + d < p.width by omega)
  | u =>
    obtain ⟨rfl, -⟩ := (p.chroma_mem_blockStores (by decide)).mp hmem
    exact Plane.has_cell hi hj
  | v =>
    obtain ⟨rfl, -⟩ := (p.chroma_mem_blockStores (by decide)).mp hmem
    exact Plane.has_cell hi hj

/-- The lines from the second one on have the same luma if each has that of the line about half as
far down. -/
lemma luma_same {src : Pixels} {c : ℕ}
    (h : ∀ r < p.height, (p.yuvAt src (r / 2 + r % 2) c).Y = (p.yuvAt src r c).Y) :
    ∀ r < p.height, 0 < r → (p.yuvAt src r c).Y = (p.yuvAt src 1 c).Y := by
  intro r
  induction r using Nat.strong_induction_on with
  | _ r ih =>
    intro hr hpos
    by_cases hone : r = 1
    · rw [hone]
    · rw [← h r hr]
      exact ih (r / 2 + r % 2) (by omega) (by omega) (by omega)

/-- The quotient of a sum of four samples is a byte. -/
lemma byte_inj {a b : ℕ} (ha : a ≤ 4 * 255) (hb : b ≤ 4 * 255) :
    byte (a / 4) = byte (b / 4) ↔ a / 4 = b / 4 := by
  refine ⟨fun h => ?_, fun h => by rw [h]⟩
  have hnat := congrArg BitVec.toNat h
  rw [byte, byte, BitVec.toNat_ofNat, BitVec.toNat_ofNat] at hnat
  omega

/-- A sample is a byte. -/
lemma sampleAt_le (src : Pixels) (channel : Channel) (r c : ℕ) :
    p.sampleAt src channel r c ≤ 255 :=
  Nat.le_of_lt_succ (BitVec.isLt _)

/-- Which samples the conversion gets right.

**Proof sketch.** What is stored is known for each place: the luma of a line about half as far down,
and the quotient of the sum that the pass of the block takes. -/
lemma convertsBlocks_values (src : Pixels) :
    p.ConvertsBlocks src ↔
      (∀ r < p.height, 0 < r → ∀ c < p.width, (p.yuvAt src r c).Y = (p.yuvAt src 1 c).Y) ∧
        ∀ channel, channel ≠ .y → ∀ i < p.height / 2, ∀ j < p.width / 2,
          p.lineSum src channel i j / 4 = p.blockSum src channel i j / 4 := by
  have hquotient {channel : Channel} {i j : ℕ} :
      byte (p.lineSum src channel i j / 4) = byte (p.blockSum src channel i j / 4) ↔
        p.lineSum src channel i j / 4 = p.blockSum src channel i j / 4 := by
    have hle := p.sampleAt_le src channel
    apply byte_inj
    · have h1 := hle i (2 * j + 1)
      have h2 := hle (i + 1) (2 * j)
      have h3 := hle (i + 1) (2 * j + 1)
      unfold lineSum
      omega
    · have h0 := hle (2 * i) (2 * j)
      have h1 := hle (2 * i) (2 * j + 1)
      have h2 := hle (2 * i + 1) (2 * j)
      have h3 := hle (2 * i + 1) (2 * j + 1)
      unfold blockSum
      omega
  constructor
  · intro h
    refine ⟨fun r hr hpos c hc => ?_, fun channel hchannel i hi j hj => ?_⟩
    · refine p.luma_same (fun r hr => ?_) r hr hpos
      exact (h.luma r hr c hc _).mp ((p.luma_mem_convert hr hc).mpr rfl)
    · exact hquotient.mp ((h.chroma channel hchannel i hi j hj _).mp
        ((p.chroma_mem_convert hi hj hchannel).mpr rfl))
  · rintro ⟨hluma, hchroma⟩
    refine ⟨p.convert_inside src, fun r hr c hc b => ?_, fun channel hchannel i hi j hj b => ?_⟩
    · rw [p.luma_mem_convert hr hc]
      obtain rfl | hpos := Nat.eq_zero_or_pos r
      · rfl
      · rw [hluma r hr hpos c hc, hluma (r / 2 + r % 2) (by omega) (by omega) c hc]
    · rw [p.chroma_mem_convert hi hj hchannel, hquotient.mpr (hchroma channel hchannel i hi j hj)]

/-- The first pixel counts for no chroma.

**Proof sketch.** The sum of the first block is over the three pixels around it. -/
lemma not_counts_first (hw : p.width ≠ 0) (hh : p.height ≠ 0) : ¬ p.Counts 0 0 0 0 := by
  have hwe := p.width_even
  have hhe := p.height_even
  rintro ⟨src, src', hsame, channel, b, hchannel, hmem, hnot⟩
  have hsample {r c : ℕ} (hne : p.pixelPlace r c ≠ p.pixelPlace 0 0) :
      p.sampleAt src channel r c = p.sampleAt src' channel r c := by
    rw [sampleAt, sampleAt, yuvAt, yuvAt, hsame _ hne]
  have hsum : p.lineSum src channel 0 0 = p.lineSum src' channel 0 0 := by
    rw [lineSum, lineSum, hsample, hsample, hsample]
    all_goals
      simp only [pixelPlace]
      omega
  rw [p.chroma_mem_convert (by omega) (by omega) hchannel] at hmem hnot
  rw [hsum] at hmem
  exact hnot hmem

/-- **The conversion from RGB is right exactly if** in every column the luma is the same from the
second line on, and for every block the sum that its pass takes has the quotient of the sum over its
own pixels. Only in a picture without pixels does each pixel count for the chroma of its block.

**Proof sketch.** The pixel pointer does not skip a line as the luma pointer does, so that the pass
of a block reads the lines `i` and `i + 1`; and the upper left pixel of a block is left out. -/
theorem convertsBlocks_iff :
    (∀ src, p.ConvertsBlocks src ↔
      (∀ r < p.height, 0 < r → ∀ c < p.width, (p.yuvAt src r c).Y = (p.yuvAt src 1 c).Y) ∧
        ∀ channel, channel ≠ .y → ∀ i < p.height / 2, ∀ j < p.width / 2,
          p.lineSum src channel i j / 4 = p.blockSum src channel i j / 4) ∧
      (p.CountsForItsBlock ↔ p.width = 0 ∨ p.height = 0) := by
  refine ⟨p.convertsBlocks_values, fun h => ?_, fun h r hr c hc => ?_⟩
  · by_contra hne
    obtain ⟨hw, hh⟩ := not_or.mp hne
    have hwe := p.width_even
    have hhe := p.height_even
    exact p.not_counts_first hw hh ((h 0 (by omega) 0 (by omega) 0 (by omega) 0 (by omega)).mpr
      ⟨rfl, rfl⟩)
  · omega

end Planes420

/-- The planes of a picture of two by two pixels. -/
def twoByTwo : Planes420 where
  rgb := 0
  Y := 0
  U := 4
  V := 5
  dUV := 1
  width := 2
  height := 2
  dUV_pos := by decide
  width_even := by decide
  height_even := by decide

/-- A blue pixel beside three black ones does not count. -/
theorem not_convertsBlocks_blue :
    ¬ (twoByTwo.ConvertsBlocks (fun k => if k = 0 then 0xf800#16 else 0#16) ∧
      twoByTwo.CountsForItsBlock) := by
  rintro ⟨h, -⟩
  have hmem := (h.chroma .u (by decide) 0 (by decide) 0 (by decide) _).mpr rfl
  revert hmem
  decide

end CameraHal
