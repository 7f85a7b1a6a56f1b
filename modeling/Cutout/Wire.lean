import Cutout.Library.BinaryFloat

/-! Byte-level vocabulary shared by the codecs: big-endian words, the two
checksums, parser failures, and the floating-point telemetry units. -/

namespace Cutout.Protocols
open Library.BinaryFloat

abbrev Byte := UInt8

/-- `u16::from_be_bytes`. -/
def u16FromBe (high low : Byte) : Nat := high.toNat * 256 + low.toNat

/-- Big-endian unsigned value of a byte sequence. -/
def unsignedFromBe (bytes : List Byte) : Nat := bytes.foldl (fun value byte => value * 256 + byte.toNat) 0

/-- Two's-complement reading of an unsigned word of `bits` bits. -/
def twosComplement (bits value : Nat) : Int := if value < 2 ^ (bits - 1) then value else value - 2 ^ bits

def signedFromBe (bytes : List Byte) : Int := twosComplement (8 * bytes.length) (unsignedFromBe bytes)

/-- `u16::to_be_bytes`. -/
def u16ToBe (value : Nat) : List Byte := [UInt8.ofNat (value / 256), UInt8.ofNat value]

def crc16Shift : Nat → Nat → Nat
  | 0, crc => crc
  | bits + 1, crc =>
    crc16Shift bits (if crc / 2 ^ 15 % 2 = 1 then (crc * 2 % 2 ^ 16) ^^^ 0x1021 else crc * 2 % 2 ^ 16)

/-- CRC-16/XMODEM: polynomial 0x1021, zero initial value, no reflection. -/
def crc16Xmodem (bytes : List Byte) : Nat :=
  bytes.foldl (fun crc byte => crc16Shift 8 (crc ^^^ (byte.toNat * 256))) 0

def crc32Shift : Nat → Nat → Nat
  | 0, crc => crc
  | bits + 1, crc => crc32Shift bits (if crc % 2 = 1 then (crc / 2) ^^^ 0xEDB88320 else crc / 2)

/-- CRC-32 as `crc32fast` computes it: reflected 0x04C11DB7, inverted initial and final value. -/
def crc32 (bytes : List Byte) : Nat :=
  (bytes.foldl (fun crc byte => crc32Shift 8 (crc ^^^ byte.toNat)) 0xFFFFFFFF) ^^^ 0xFFFFFFFF

example : crc16Xmodem [49, 50, 51, 52, 53, 54, 55, 56, 57] = 0x31c3 := by decide +kernel

example : crc32 [49, 50, 51, 52, 53, 54, 55, 56, 57] = 0xCBF43926 := by decide +kernel

/-- The failures that decoders report; deadlines are not theirs. -/
inductive ParserError where
  | oversizedFrame (claimed max : Nat)
  | badChecksum | malformedFrame | unmatchedReply
  deriving Repr, DecidableEq

def i32Min : Int := -2 ^ 31
def i32Max : Int := 2 ^ 31 - 1
def i64Min : Int := -2 ^ 63
def i64Max : Int := 2 ^ 63 - 1
def u32Max : Nat := 2 ^ 32 - 1
def u64Max : Nat := 2 ^ 64 - 1

def saturatingAdd (a b : Nat) : Nat := min (a + b) u64Max

/-- `round_f32_to_i32`: saturating; a non-finite value becomes zero. -/
def roundF32ToI32 (value : Value) : Int :=
  if value.isFinite then value.round.toInt i32Min i32Max else 0

def roundF32ToI64 (value : Value) : Int :=
  if value.isFinite then value.round.toInt i64Min i64Max else 0

/-- `round_f32_to_u64`: non-finite and non-positive values become zero. -/
def roundF32ToU64 (value : Value) : Nat :=
  match value with
  | .finite x => if x ≤ 0 then 0 else (value.round.toInt 0 u64Max).toNat
  | _ => 0

/-- The f32 product with one thousand that every metric constructor rounds. -/
def thousandfold (value : Value) : Value := binary32.mul value (.finite 1000)

def connectedWheelMovementThreshold : Nat := 500

/-- `Speed::is_moving`, in millimetres per second. -/
def isMoving (speed : Int) : Bool := decide (connectedWheelMovementThreshold ≤ speed.natAbs)

end Cutout.Protocols
