import RobotDriver.Bytes

/-!
# Single-precision values

Angles, speeds and brightnesses are binary fractions of 32 bits, kept as their bits so that two
values are equal exactly when the bits are. The robot receives them as whole numbers: `unitByte`
scales a value of the unit interval to a byte and `wholeDegrees` rounds an angle. Both clamp
first, take a value that is not a number for zero, and compute on the significand and the exponent.
-/

namespace RobotDriver

/-- A single-precision value, given by its bits: sign, eight bits of exponent, 23 bits of fraction. -/
structure Single where
  bits : UInt32
  deriving DecidableEq, Inhabited

namespace Single

def zero : Single := ⟨0⟩

def one : Single := ⟨0x3f800000⟩

/-- The bits without the sign. -/
def magnitude (x : Single) : Nat :=
  x.bits.toNat % 0x80000000

/-- The value is not a number. -/
def isNaN (x : Single) : Bool :=
  decide (x.magnitude > 0x7f800000)

/-- The sign bit is set. -/
def isNegative (x : Single) : Bool :=
  decide (x.bits.toNat ≥ 0x80000000)

/-- The exponent field, of which zero and one mean the same power of two. -/
def exponentField (x : Single) : Nat :=
  max (x.magnitude / 0x800000) 1

/-- The whole number that, divided by a power of two, gives the magnitude. -/
def significand (x : Single) : Nat :=
  if x.magnitude < 0x800000 then x.magnitude else x.magnitude % 0x800000 + 0x800000

/-- The power of two that divides the significand of a value below `2 ^ 23`. -/
def scale (x : Single) : Nat :=
  150 - x.exponentField

/-- The whole number nearest to `n / d`; halves go up. -/
def roundHalfUp (n d : Nat) : Nat :=
  (2 * n + d) / (2 * d)

/-- The whole number nearest to `n / d`; halves go to the even neighbour. -/
def roundHalfEven (n d : Nat) : Nat :=
  let q := n / d
  if 2 * (n % d) > d ∨ (2 * (n % d) = d ∧ q % 2 = 1) then q + 1 else q

/-- The number nearest to `n` that has at most 24 significant binary digits. -/
def round24 (n : Nat) : Nat :=
  let step := Nat.pow 2 (n.log2 - 23)
  roundHalfEven n step * step

/-- The value, clamped to `[0, 1]`, in units of 1/255: the product is a single-precision value
again, and its nearest whole number is taken, halves up. -/
def unitByte (x : Single) : UInt8 :=
  if x.isNaN || x.isNegative then 0
  else if x.magnitude ≥ 0x3f800000 then 255
  else (roundHalfUp (round24 (255 * x.significand)) (Nat.pow 2 x.scale)).toUInt8

/-- The angle, clamped to `[0, 359]`, in whole degrees, halves up. -/
def wholeDegrees (x : Single) : UInt16 :=
  if x.isNaN || x.isNegative then 0
  else if x.magnitude ≥ 0x43b38000 then 359
  else (roundHalfUp x.significand (Nat.pow 2 x.scale)).toUInt16

end Single

end RobotDriver
