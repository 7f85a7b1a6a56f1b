import Mathlib.Data.Int.Log
import Mathlib.Data.Rat.Floor
import Mathlib.Tactic

/-! Binary floating point over the rationals. A format has a precision, a
smallest quantum and an overflow threshold; every operation is the exact
rational operation followed by one rounding to nearest, ties to even. The two
zeros are one value, since no operation here can tell them apart. -/

namespace Cutout.Library.BinaryFloat

/-- Nearest integer; a tie goes to the even neighbour. -/
def roundHalfEven (x : ℚ) : ℤ :=
  let below := ⌊x⌋
  if x - below < 1 / 2 then below
  else if 1 / 2 < x - below then below + 1
  else if below % 2 = 0 then below else below + 1

/-- Nearest integer; a tie goes away from zero. -/
def roundHalfAway (x : ℚ) : ℤ :=
  if 0 ≤ x then ⌊x + 1 / 2⌋ else ⌈x - 1 / 2⌉

def truncate (x : ℚ) : ℤ := if 0 ≤ x then ⌊x⌋ else ⌈x⌉

structure Format where
  precision : Nat
  leastExponent : ℤ
  overflowExponent : ℤ
  deriving Repr, DecidableEq

def binary32 : Format := ⟨24, -149, 128⟩

def binary64 : Format := ⟨53, -1074, 1024⟩

/-- A floating-point datum up to the sign of zero. -/
inductive Value where
  | finite (value : ℚ)
  | infinite (negative : Bool)
  | nan
  deriving Repr, DecidableEq

namespace Format
variable (format : Format)

/-- Exponent of the last place kept for a number of the magnitude of `x`. -/
def quantumExponent (x : ℚ) : ℤ :=
  max (Int.log 2 |x| - (format.precision - 1)) format.leastExponent

def quantum (x : ℚ) : ℚ := 2 ^ format.quantumExponent x

/-- Rounding with an unbounded exponent upwards. -/
def nearest (x : ℚ) : ℚ := roundHalfEven (x / format.quantum x) * format.quantum x

def round (x : ℚ) : Value :=
  if 2 ^ format.overflowExponent ≤ |format.nearest x| then .infinite (decide (x < 0))
  else .finite (format.nearest x)

def mul : Value → Value → Value
  | .finite x, .finite y => format.round (x * y)
  | .nan, _ | _, .nan => .nan
  | .infinite s, .infinite t => .infinite (s != t)
  | .infinite s, .finite y | .finite y, .infinite s =>
    if y = 0 then .nan else .infinite (s != decide (y < 0))

/-- The difference of two finite numbers. -/
def subFinite (x y : ℚ) : Value := format.round (x - y)

/-- The sum of two finite numbers. -/
def addFinite (x y : ℚ) : Value := format.round (x + y)

/-- Division by a nonzero finite number. -/
def divBy (x : Value) (divisor : ℚ) : Value :=
  match x with
  | .finite x => format.round (x / divisor)
  | .infinite s => .infinite (s != decide (divisor < 0))
  | .nan => .nan

/-- Conversion of a wider datum into this format. -/
def convert : Value → Value
  | .finite x => format.round x
  | other => other

end Format

namespace Value

def isFinite : Value → Bool
  | .finite _ => true
  | _ => false

/-- The order of the data; nothing compares with an undefined value. -/
def le : Value → Value → Bool
  | .finite x, .finite y => decide (x ≤ y)
  | .infinite negative, .infinite other => negative || !other
  | .infinite negative, .finite _ => negative
  | .finite _, .infinite negative => !negative
  | _, _ => false

def lt : Value → Value → Bool
  | .finite x, .finite y => decide (x < y)
  | .infinite negative, .infinite other => negative && !other
  | .infinite negative, .finite _ => negative
  | .finite _, .infinite negative => !negative
  | _, _ => false

/-- Rounds to an integral value, ties away from zero. -/
def round : Value → Value
  | .finite x => .finite (roundHalfAway x)
  | other => other

/-- Saturating conversion to an integer range; an undefined value converts to zero. -/
def toInt (least greatest : ℤ) : Value → ℤ
  | .finite x => max least (min greatest (truncate x))
  | .infinite negative => if negative then least else greatest
  | .nan => 0

/-- Decodes the 32-bit interchange encoding. -/
def ofBits32 (bits : UInt32) : Value :=
  let sign : ℚ := if bits.toNat / 2 ^ 31 = 0 then 1 else -1
  let exponent : ℕ := bits.toNat / 2 ^ 23 % 2 ^ 8
  let fraction : ℕ := bits.toNat % 2 ^ 23
  if exponent = 255 then
    if fraction = 0 then .infinite (bits.toNat / 2 ^ 31 != 0) else .nan
  else if exponent = 0 then .finite (sign * fraction * 2 ^ (-149 : ℤ))
  else .finite (sign * (2 ^ 23 + fraction : ℕ) * 2 ^ ((exponent : ℤ) - 150))

end Value

/-- The 32-bit interchange encoding of a finite value of the format; zero is encoded as positive. -/
def toBits32 (x : ℚ) : UInt32 :=
  let sign := if x < 0 then 2 ^ 31 else 0
  let exponent := Int.log 2 |x|
  if |x| < 2 ^ (-126 : ℤ) then UInt32.ofNat (sign + ⌊|x| * 2 ^ (149 : ℤ)⌋.toNat)
  else UInt32.ofNat (sign + (exponent + 127).toNat * 2 ^ 23 +
    (⌊|x| * 2 ^ (23 - exponent)⌋.toNat - 2 ^ 23))

end Cutout.Library.BinaryFloat
