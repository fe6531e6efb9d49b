import Gs702aHal.Lib.Octets

set_option relaxedAutoImplicit false
set_option autoImplicit false

/-!
# Commands for a Bluetooth controller

The vendor libraries write the commands for their controllers octet by octet: the opcode, the number
of the parameters, and the parameters, with the lowest octet of a number first. The controller
answers a command with an event that names the opcode.

## Main definitions

* `Bluetooth.UINT16_TO_STREAM`, `Bluetooth.UINT32_TO_STREAM`, `Bluetooth.STREAM_TO_UINT16` — the
  macros for numbers.
* `Bluetooth.line_speed_to_userial_baud` — the symbol of the serial port's speed.

## Main results

* `Bluetooth.UINT16_TO_STREAM_eq`, `Bluetooth.UINT32_TO_STREAM_eq` — the macros write octets.
* `Bluetooth.stream_to_uint16_to_stream` — what is written is read back.
-/

namespace Bluetooth

/-- An octet. -/
abbrev Byte := BitVec 8

/-- `UINT16_TO_STREAM`. -/
def UINT16_TO_STREAM (u16 : BitVec 16) : List Byte := [u16.setWidth 8, (u16 >>> 8).setWidth 8]

/-- `UINT32_TO_STREAM`. -/
def UINT32_TO_STREAM (u32 : BitVec 32) : List Byte :=
  [u32.setWidth 8, (u32 >>> 8).setWidth 8, (u32 >>> 16).setWidth 8, (u32 >>> 24).setWidth 8]

/-- `STREAM_TO_UINT16`, of two octets. -/
def STREAM_TO_UINT16 (low high : Byte) : BitVec 16 := low.setWidth 16 + high.setWidth 16 <<< 8

/-- The macro writes the octets of the number. -/
lemma UINT16_TO_STREAM_eq (u16 : BitVec 16) :
    UINT16_TO_STREAM u16 = Octets.ofNat 2 u16.toNat := by
  simp only [UINT16_TO_STREAM, Octets.ofNat, List.cons.injEq, and_true]
  constructor
  · exact (BitVec.ofNat_toNat 8 u16).symm
  · apply BitVec.eq_of_toNat_eq
    simp [BitVec.toNat_ushiftRight, Nat.shiftRight_eq_div_pow]

/-- The macro writes the octets of the number. -/
lemma UINT32_TO_STREAM_eq (u32 : BitVec 32) :
    UINT32_TO_STREAM u32 = Octets.ofNat 4 u32.toNat := by
  simp only [UINT32_TO_STREAM, Octets.ofNat, List.cons.injEq, and_true]
  refine ⟨(BitVec.ofNat_toNat 8 u32).symm, ?_, ?_, ?_⟩ <;>
    (apply BitVec.eq_of_toNat_eq
     simp [BitVec.toNat_ushiftRight, Nat.shiftRight_eq_div_pow, Nat.div_div_eq_div_mul])

/-- What is read from two octets is the number that they stand for. -/
lemma toNat_STREAM_TO_UINT16 (low high : Byte) :
    (STREAM_TO_UINT16 low high).toNat = Octets.value [low, high] := by
  have hlow := low.isLt
  have hhigh := high.isLt
  simp only [STREAM_TO_UINT16, Octets.value, BitVec.toNat_add, BitVec.toNat_shiftLeft,
    BitVec.toNat_setWidth, Nat.shiftLeft_eq]
  omega

/-- A number that was written is read back. -/
lemma stream_to_uint16_to_stream (u16 : BitVec 16) :
    STREAM_TO_UINT16 (u16.setWidth 8) ((u16 >>> 8).setWidth 8) = u16 := by
  apply BitVec.eq_of_toNat_eq
  have hvalue : Octets.value (Octets.ofNat 2 u16.toNat) = u16.toNat :=
    Octets.value_ofNat_toNat (by rfl) u16
  rw [← UINT16_TO_STREAM_eq] at hvalue
  rw [toNat_STREAM_TO_UINT16]
  exact hvalue

/-- The symbols of the speeds of the serial port. -/
inductive UserialBaud
  | USERIAL_BAUD_600
  | USERIAL_BAUD_1200
  | USERIAL_BAUD_9600
  | USERIAL_BAUD_19200
  | USERIAL_BAUD_57600
  | USERIAL_BAUD_115200
  | USERIAL_BAUD_230400
  | USERIAL_BAUD_460800
  | USERIAL_BAUD_921600
  | USERIAL_BAUD_1M
  | USERIAL_BAUD_1_5M
  | USERIAL_BAUD_2M
  | USERIAL_BAUD_3M
  | USERIAL_BAUD_4M
  deriving DecidableEq, Repr

open UserialBaud in
/-- `line_speed_to_userial_baud`. -/
def line_speed_to_userial_baud (line_speed : BitVec 32) : UserialBaud :=
  if line_speed = 4000000 then USERIAL_BAUD_4M
  else if line_speed = 3000000 then USERIAL_BAUD_3M
  else if line_speed = 2000000 then USERIAL_BAUD_2M
  else if line_speed = 1500000 then USERIAL_BAUD_1_5M
  else if line_speed = 1000000 then USERIAL_BAUD_1M
  else if line_speed = 921600 then USERIAL_BAUD_921600
  else if line_speed = 460800 then USERIAL_BAUD_460800
  else if line_speed = 230400 then USERIAL_BAUD_230400
  else if line_speed = 115200 then USERIAL_BAUD_115200
  else if line_speed = 57600 then USERIAL_BAUD_57600
  else if line_speed = 19200 then USERIAL_BAUD_19200
  else if line_speed = 9600 then USERIAL_BAUD_9600
  else if line_speed = 1200 then USERIAL_BAUD_1200
  else if line_speed = 600 then USERIAL_BAUD_600
  else USERIAL_BAUD_115200

end Bluetooth
