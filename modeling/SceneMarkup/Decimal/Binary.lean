/-!
# Binary floating-point numbers taken apart

A finite binary64 number is a whole significand times a power of two. The whole part, the floor and the byte nearest to a
number are read off this form in exact whole-number arithmetic.
-/

namespace SceneMarkup

/-- A power of two. -/
def twoTo (n : Nat) : Nat := 1 <<< n

/-- A power of ten. -/
def tenTo (n : Nat) : Nat := Nat.pow 10 n

/-- A finite binary64 number taken apart: `significand · 2 ^ exponent`, below zero when `negative`. -/
structure Binary where
  negative : Bool
  significand : Nat
  exponent : Int
deriving DecidableEq, Repr

namespace Binary

/-- The parts of a finite number. An infinity or a NaN has none of its own and is read as if its exponent were one more. -/
def ofFloat (x : Float) : Binary :=
  let bits : Nat := x.toBits.toNat
  let fraction := bits % twoTo 52
  let biased : Nat := bits / twoTo 52 % twoTo 11
  { negative := twoTo 63 ≤ bits
    significand := if biased = 0 then fraction else twoTo 52 + fraction
    exponent := if biased = 0 then -1074 else Int.ofNat biased - 1075 }

/-- The magnitude as a quotient of whole numbers, numerator first. -/
def magnitude (b : Binary) : Nat × Nat :=
  (b.significand * twoTo b.exponent.toNat, twoTo (-b.exponent).toNat)

/-- The number has no fraction. -/
def isWhole (b : Binary) : Bool :=
  b.magnitude.1 % b.magnitude.2 == 0

/-- The magnitude with its fraction cut off. -/
def wholePart (b : Binary) : Nat :=
  b.magnitude.1 / b.magnitude.2

/-- The greatest whole number that is not above the number. -/
def floor (b : Binary) : Int :=
  if b.negative then
    if b.isWhole then -(b.wholePart : Int) else -(b.wholePart : Int) - 1
  else b.wholePart

/-- The magnitude rounded to a whole number, a half away from zero. -/
def nearest (b : Binary) : Nat :=
  (2 * b.magnitude.1 + b.magnitude.2) / (2 * b.magnitude.2)

end Binary

/-- The greatest whole number that is not above `x`, as a number; a number without fraction, an infinity and NaN are kept. -/
def floorOf (x : Float) : Float :=
  let b := Binary.ofFloat x
  if x.isFinite && !b.isWhole then Float.ofInt b.floor else x

/-- The byte nearest to `x`, a half away from zero, clamped to the byte range; NaN gives zero. -/
def nearestByte (x : Float) : Nat :=
  let b := Binary.ofFloat x
  if x.isNaN || b.negative then 0
  else if x.isFinite then min 255 b.nearest
  else 255

end SceneMarkup
