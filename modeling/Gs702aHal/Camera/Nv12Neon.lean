import Gs702aHal.Camera.JpegUnscaled
import Gs702aHal.Lib.Lanes

set_option relaxedAutoImplicit false
set_option autoImplicit false

/-!
# The two builds of `nv12ToYuyv`

With `CAMERA_NEON_INS` the row is converted in blocks of 16 pixels by NEON instructions, and what is
left by a loop that moves its chroma pointer on after each pixel of an odd row and not at all in an
even one. Without it, one loop converts the row, and moves the chroma pointer on when the number of
pixels that are left is even. For an even width that is after each pair; for an odd one the first
pixel has a chroma of its own.

## Main definitions

* `CameraHal.nv12NeonBlock` — a block, instruction by instruction.
* `CameraHal.nv12ToYuyvNeon`, `CameraHal.nv12ToYuyvPlain` — the two builds.
* `CameraHal.PairsAgree` — the chroma that the two take for the same pixels is the same.

## Main results

* `CameraHal.nv12ToYuyvNeon_eq` — the blocks do what they are documented to do.
* `CameraHal.builds_agree_iff` — when the two builds write the same row.
* `CameraHal.builds_always_agree_iff` — for which widths they always do.
-/

namespace CameraHal

open Blocks Lanes

/-! ### With NEON instructions -/

/-- The variables of the NEON build: the pointers, the register `q2`, and the bytes written. -/
structure Nv12Neon where
  y : ℕ
  uv : ℕ
  q2 : ℕ → Byte
  dst : List Byte

/-- `vld1.8` of a register of 16 lanes. -/
def vld1 (m : Buffer) (place : ℕ) : ℕ → Byte := fun i => m (place + i)

/-- Sixteen pixels. -/
def nv12NeonBlock (m : Buffer) (s : Nv12Neon) : Nv12Neon :=
  let q0 := vld1 m s.y
  let q1 := vld1 m s.uv
  let (q1, q2) := unzip 16 q1 s.q2
  -- `vmov` copies the first halves `d2` and `d4` to the second halves
  let d2 := q1
  let d4 := q2
  let d3 := d2
  let d5 := d4
  let (d2, d3) := zip 8 d2 d3
  let (d4, d5) := zip 8 d4 d5
  { y := s.y + 16
    uv := s.uv + 16
    q2 := join 8 d4 d5
    dst := s.dst ++ store3 8 q0 d2 d4 ++ store3 8 (high 8 q0) d3 d5 }

/-- `nv12ToYuyv` with `CAMERA_NEON_INS`; `q2` is what the register holds before. -/
def nv12ToYuyvNeon (m : Buffer) (q2 : ℕ → Byte) (y uv width : ℕ) : List Byte :=
  let s := forLoop (width / 16) (fun _ => nv12NeonBlock m) ⟨y, uv, q2, []⟩
  (forLoop (width % 16) (fun _ => nv12Pixel m width) ⟨s.y, s.uv, s.dst, []⟩).dst

/-! ### Without -/

/-- The variables of the plain build. -/
structure Nv12Plain where
  width : ℕ
  y : ℕ
  uv : ℕ
  dst : List Byte

/-- A pixel; the test is on the width that was decremented. -/
def nv12PlainPixel (m : Buffer) (s : Nv12Plain) : Nv12Plain :=
  let width := s.width - 1
  { width := width
    y := s.y + 1
    uv := if width % 2 = 0 then s.uv + 2 else s.uv
    dst := s.dst ++ [m s.y, m s.uv, m (s.uv + 1)] }

/-- `nv12ToYuyv` without `CAMERA_NEON_INS`. -/
def nv12ToYuyvPlain (m : Buffer) (y uv width : ℕ) : List Byte :=
  (forLoop width (fun _ => nv12PlainPixel m) ⟨width, y, uv, []⟩).dst

/-- A pair of chroma bytes. -/
def chromaPair (m : Buffer) (uv j : ℕ) : Byte × Byte := (m (uv + 2 * j), m (uv + 2 * j + 1))

/-- The chroma that the builds take for the same pixels is the same. In an even row, these are the
pairs behind the blocks. In an odd one, they are those of the blocks with the next one, and the
others without the last. -/
def PairsAgree (m : Buffer) (uv width : ℕ) : Prop :=
  if width % 2 = 0 then
    ∀ j, width / 16 * 8 ≤ j → j < width / 2 →
      chromaPair m uv j = chromaPair m uv (width / 16 * 8)
  else
    (∀ j ≤ width / 16 * 8, chromaPair m uv j = chromaPair m uv 0) ∧
      ∀ j, width / 16 * 8 < j → j < width / 16 * 8 + width % 16 →
        chromaPair m uv j = chromaPair m uv (width / 16 * 8 + 1)

variable {m : Buffer} {uv width : ℕ}

/-! ### The instructions -/

/-- A block by its instructions moves the pointers and writes the bytes of a block.

**Proof sketch.** The chroma bytes are unzipped into the first halves, and each of these is zipped
with its copy. -/
lemma nv12NeonBlock_eq (m : Buffer) {s : Nv12Neon} {t : Nv12Loop}
    (h : s.y = t.y ∧ s.uv = t.uv ∧ s.dst = t.dst) :
    (nv12NeonBlock m s).y = (nv12Block m t).y ∧ (nv12NeonBlock m s).uv = (nv12Block m t).uv ∧
      (nv12NeonBlock m s).dst = (nv12Block m t).dst := by
  obtain ⟨hy, huv, hdst⟩ := h
  refine ⟨congrArg (· + 16) hy, congrArg (· + 16) huv, ?_⟩
  simp only [nv12NeonBlock, nv12Block, List.append_assoc, hdst]
  congr 1
  rw [store3_join]
  refine concat_congr fun i hi => ?_
  have hpair := unzip_of_lt (vld1 m s.uv) s.q2 (show 2 * (i / 2) + 1 < 16 by omega)
  rw [join_zip_self, join_zip_self, hpair.1, hpair.2]
  simp only [vld1, hy, huv, Nat.mul_comm 2, Nat.add_assoc]

/-- **The blocks do what they are documented to do**, whatever the register `q2` holds before. -/
theorem nv12ToYuyvNeon_eq (m : Buffer) (q2 : ℕ → Byte) (y uv width : ℕ) :
    nv12ToYuyvNeon m q2 y uv width = (nv12ToYuyv m y uv width).1 := by
  obtain ⟨hy, huv, hdst⟩ := @forLoop_related _ _
    (fun (s : Nv12Neon) (t : Nv12Loop) => s.y = t.y ∧ s.uv = t.uv ∧ s.dst = t.dst)
    (fun _ => nv12NeonBlock m) (fun _ => nv12Block m) ⟨y, uv, q2, []⟩ ⟨y, uv, [], []⟩
    ⟨rfl, rfl, rfl⟩ (fun _ _ _ => nv12NeonBlock_eq m) (width / 16)
  have hrest := @forLoop_related _ _
    (fun s t : Nv12Loop => s.y = t.y ∧ s.uv = t.uv ∧ s.dst = t.dst)
    (fun _ => nv12Pixel m width) (fun _ => nv12Pixel m width)
    ⟨_, _, _, []⟩ (forLoop (width / 16) (fun _ => nv12Block m) ⟨y, uv, [], []⟩)
    ⟨hy, huv, hdst⟩ ?_ (width % 16)
  · exact hrest.2.2
  · rintro - s t ⟨hy, huv, hdst⟩
    simp only [nv12Pixel, hy, huv, hdst, and_self]

/-! ### The plain loop -/

/-- The pixels of the plain loop. -/
lemma nv12ToYuyvPlain_eq (m : Buffer) (y uv width : ℕ) :
    nv12ToYuyvPlain m y uv width =
      concat width fun c => [m (y + c), m (uv + 2 * yu12Chroma width c),
        m (uv + 2 * yu12Chroma width c + 1)] := by
  refine (forLoop_rule
    (fun i (s : Nv12Plain) => s.width = width - i ∧ s.y = y + i ∧
      s.uv = uv + 2 * yu12Chroma width i ∧
      s.dst = concat i fun c => [m (y + c), m (uv + 2 * yu12Chroma width c),
        m (uv + 2 * yu12Chroma width c + 1)])
    ?_ width ?_).2.2.2
  · have hzero : yu12Chroma width 0 = 0 := by
      unfold yu12Chroma
      omega
    exact ⟨rfl, rfl, by rw [hzero]; rfl, rfl⟩
  · rintro i s hi ⟨hwidth, hy, huv, hdst⟩
    simp only [nv12PlainPixel, hwidth, hy, huv, hdst, concat_succ, and_true]
    refine ⟨by omega, by omega, ?_⟩
    unfold yu12Chroma
    split_ifs <;> omega

/-! ### The same chroma -/

/-- The pair that the NEON build takes for a column. -/
def neonPair (width c : ℕ) : ℕ :=
  if c < width / 16 * 16 then c / 2
  else width / 16 * 8 + if width % 2 = 1 then c - width / 16 * 16 else 0

/-- It is where the pointer is. -/
lemma nv12Chroma_eq (width c : ℕ) : nv12Chroma width c = 2 * neonPair width c := by
  unfold nv12Chroma neonPair
  split_ifs <;> omega

/-- The builds write the same row exactly if they take the same chroma for each pixel. -/
lemma builds_agree_iff_pixels (m : Buffer) (q2 : ℕ → Byte) (y uv width : ℕ) :
    nv12ToYuyvNeon m q2 y uv width = nv12ToYuyvPlain m y uv width ↔
      ∀ c < width, chromaPair m uv (neonPair width c) = chromaPair m uv (yu12Chroma width c) := by
  rw [nv12ToYuyvNeon_eq, (nv12ToYuyv_emits m y uv width).dst, nv12ToYuyvPlain_eq,
    concat_eq_iff (k := 3) (fun _ _ => rfl) fun _ _ => rfl]
  simp only [yuvPlaces, List.map_cons, List.map_nil, List.cons.injEq, true_and, and_true,
    nv12Chroma_eq, chromaPair, Prod.mk.injEq]

/-- In an even row, the plain loop takes the pair of the column, and the NEON build the first one
behind the blocks. -/
lemma pairsAgree_even (hw : width % 2 = 0) :
    (∀ c < width, chromaPair m uv (neonPair width c) = chromaPair m uv (yu12Chroma width c)) ↔
      PairsAgree m uv width := by
  have hodd : ¬ width % 2 = 1 := by omega
  have hplain (c : ℕ) : yu12Chroma width c = c / 2 := by rw [yu12Chroma, hw, Nat.add_zero]
  rw [PairsAgree, if_pos hw]
  constructor
  · intro h j hle hlt
    have hcolumn := h (2 * j) (by omega)
    rw [neonPair, if_neg (by omega), if_neg hodd, hplain, Nat.add_zero] at hcolumn
    rw [hcolumn, Nat.mul_div_cancel_left j Nat.two_pos]
  · intro h c hc
    rw [hplain, neonPair, if_neg hodd, Nat.add_zero]
    split_ifs with hlt
    · rfl
    · exact (h (c / 2) (by omega) (by omega)).symm

/-- In an odd row, the plain loop takes the first pair once, and the NEON build goes on by a pair
for each column behind the blocks.

**Proof sketch.** In the blocks, an odd column makes each pair the same as the next one. Behind
them, a column makes its pair the same as one that is about half as far behind them. -/
lemma pairsAgree_odd (hw : width % 2 = 1) :
    (∀ c < width, chromaPair m uv (neonPair width c) = chromaPair m uv (yu12Chroma width c)) ↔
      PairsAgree m uv width := by
  have heven : ¬ width % 2 = 0 := by omega
  have hplain (c : ℕ) : yu12Chroma width c = (c + 1) / 2 := by rw [yu12Chroma, hw]
  rw [PairsAgree, if_neg heven]
  constructor
  · intro h
    refine ⟨fun j hj => ?_, fun j => ?_⟩
    · induction j with
      | zero => rfl
      | succ j ih =>
        have hcolumn := h (2 * j + 1) (by omega)
        rw [neonPair, if_pos (by omega), hplain, show (2 * j + 1) / 2 = j by omega,
          show (2 * j + 1 + 1) / 2 = j + 1 by omega] at hcolumn
        rw [← hcolumn, ih (by omega)]
    · induction j using Nat.strong_induction_on with
      | _ j ih =>
        intro hgt hlt
        by_cases hfirst : j = width / 16 * 8 + 1
        · rw [hfirst]
        · have hcolumn := h (width / 16 * 16 + (j - width / 16 * 8)) (by omega)
          rw [neonPair, if_neg (by omega), if_pos hw, hplain, Nat.add_sub_cancel_left,
            Nat.add_sub_cancel' hgt.le] at hcolumn
          rw [hcolumn]
          exact ih _ (by omega) (by omega) (by omega)
  · rintro ⟨hblocks, hrest⟩ c hc
    rw [hplain, neonPair, if_pos hw]
    split_ifs with hlt
    · rw [hblocks _ (by omega), hblocks ((c + 1) / 2) (by omega)]
    · by_cases hzero : c = width / 16 * 16
      · congr 1
        omega
      · rw [hrest _ (by omega) (by omega), hrest ((c + 1) / 2) (by omega) (by omega)]

/-- **The two builds write the same row exactly if** the chroma that they take for the same pixels
is the same.

**Proof sketch.** Both write three bytes for each pixel, of which the luma is the same. Which pair
each takes depends on the column and the width. -/
theorem builds_agree_iff (m : Buffer) (q2 : ℕ → Byte) (y uv width : ℕ) :
    nv12ToYuyvNeon m q2 y uv width = nv12ToYuyvPlain m y uv width ↔ PairsAgree m uv width := by
  rw [builds_agree_iff_pixels]
  obtain heven | hodd := Nat.mod_two_eq_zero_or_one width
  · exact pairsAgree_even heven
  · exact pairsAgree_odd hodd

/-- **The widths for which the builds always agree**: no pair is behind the first one of the rest of
an even row, and an odd row has one pixel.

**Proof sketch.** Otherwise two pairs next to each other would have to be the same in every row. -/
theorem builds_always_agree_iff (y uv width : ℕ) :
    (∀ m q2, nv12ToYuyvNeon m q2 y uv width = nv12ToYuyvPlain m y uv width) ↔
      width % 2 = 0 ∧ width % 16 ≤ 2 ∨ width = 1 := by
  have hapart {i j : ℕ} (h : ∀ m : Buffer, chromaPair m uv i = chromaPair m uv j) : i = j := by
    have hplace := place_eq_of_forall fun m => (Prod.mk.inj (h m)).1
    omega
  simp only [builds_agree_iff, forall_const, PairsAgree]
  obtain heven | hodd := Nat.mod_two_eq_zero_or_one width
  · simp only [if_pos heven]
    constructor
    · intro h
      by_contra hnot
      have := hapart fun m => h m (width / 16 * 8 + 1) (by omega) (by omega)
      omega
    · intro hwidth m j hle hlt
      rw [show j = width / 16 * 8 by omega]
  · have hne : ¬ width % 2 = 0 := by omega
    simp only [if_neg hne]
    constructor
    · intro h
      by_contra hnot
      by_cases hblock : width < 16
      · have := hapart fun m => (h m).2 (width / 16 * 8 + 2) (by omega) (by omega)
        omega
      · have := hapart fun m => (h m).1 1 (by omega)
        omega
    · intro hwidth m
      obtain rfl : width = 1 := by omega
      refine ⟨fun j hj => ?_, fun j hgt hlt => ?_⟩
      · rw [show j = 0 by omega]
      · omega

/-- A row of four pixels: the second pair is written as the first one. -/
theorem not_builds_agree_four :
    nv12ToYuyvNeon (fun k => byte k) (fun _ => 0#8) 0 4 4 ≠
      nv12ToYuyvPlain (fun k => byte k) 0 4 4 := by
  decide

end CameraHal
