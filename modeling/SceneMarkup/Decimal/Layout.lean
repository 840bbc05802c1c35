import SceneMarkup.Decimal.Shortest

/-!
# Written numbers

A number is written with its shortest decimal. What differs between the places that write one is a small record: which
exponents are written positionally, whether a whole number shows a fraction, whether a positive exponent has a sign. A
decimal is read in two ways. In expressions and configurations it is the number nearest to it; a power of ten far outside
the binary64 range is answered before any power is computed. In JSON text its coefficient is scaled by a power of ten in
binary64, which rounds twice and can end beside the nearest number.
-/

namespace SceneMarkup

/-! ## Writing -/

/-- How a finite number is written. -/
structure NumberLayout where
  /-- The exponents of the first digit for which no power of ten is written; `none` means all of them. -/
  positional : Option (Int × Int)
  /-- A whole number written positionally ends in `.0`. -/
  fractionOfWhole : Bool
  /-- A positive power of ten has a plus sign. -/
  plus : Bool
  tie : TieRule

namespace NumberLayout

/-- The digits with the point `place` digits after their start. -/
def pointed (l : NumberLayout) (digits : List Char) (place : Int) : List Char :=
  if place ≤ 0 then '0' :: '.' :: (List.replicate (-place).toNat '0' ++ digits)
  else if digits.length ≤ place.toNat then
    digits ++ List.replicate (place.toNat - digits.length) '0' ++ (if l.fractionOfWhole then ['.', '0'] else [])
  else digits.take place.toNat ++ '.' :: digits.drop place.toNat

/-- The digits with the point after the first of them and the power of ten behind. -/
def powered (l : NumberLayout) (digits : List Char) (exponent : Int) : List Char :=
  let fraction := match digits.drop 1 with
    | [] => []
    | rest => '.' :: rest
  let sign := if exponent < 0 then ['-'] else if l.plus then ['+'] else []
  digits.take 1 ++ fraction ++ 'e' :: sign ++ (toString exponent.natAbs).toList

/-- The text of a finite number. -/
def write (l : NumberLayout) (x : Float) : List Char :=
  let d := Decimal.shortest l.tie x
  let digits := (toString d.coefficient).toList
  let exponent := if d.coefficient = 0 then 0 else d.exponent + digits.length - 1
  let body := match l.positional with
    | some (least, most) =>
      if least ≤ exponent ∧ exponent ≤ most then l.pointed digits (exponent + 1) else l.powered digits exponent
    | none => l.pointed digits (exponent + 1)
  if (Binary.ofFloat x).negative then '-' :: body else body

end NumberLayout

/-- Numbers in markup, rule values and templates are written without a power of ten. -/
def plainLayout : NumberLayout := ⟨none, false, false, .up⟩

/-- Numbers in JSON text keep a fraction digit and have a signed power of ten outside `1e-5` to `1e15`. -/
def jsonLayout : NumberLayout := ⟨some (-5, 15), true, true, .even⟩

/-- Number tokens in messages keep a fraction digit and have a power of ten outside `1e-4` to `1e15`. -/
def tokenLayout : NumberLayout := ⟨some (-4, 15), true, false, .up⟩

/-- The texts of the numbers that have no digits. -/
def nonFinite? (x : Float) : Option (List Char) :=
  if x.isNaN then some "NaN".toList
  else if x.isFinite then none
  else some (if (Binary.ofFloat x).negative then "-inf".toList else "inf".toList)

/-- The text of a computed number. A whole number below `10 ^ 15` in magnitude is written as a whole number, so that the
negative zero is `0`. -/
def formatNumber (x : Float) : String :=
  match nonFinite? x with
  | some text => String.ofList text
  | none =>
    let b := Binary.ofFloat x
    if b.isWhole && b.wholePart < tenTo 15 then toString b.floor
    else String.ofList (plainLayout.write x)

/-- The text of a number inside a message about an unexpected token. -/
def tokenNumber (x : Float) : List Char :=
  (nonFinite? x).getD (tokenLayout.write x)

/-! ## Reading -/

/-- The value of a run of decimal digits. -/
def digitsValue (digits : List Char) : Nat :=
  digits.foldl (fun n c => 10 * n + (c.toNat - '0'.toNat)) 0

/-- The binary64 number nearest to the decimal: zero or an infinity when it is out of range. -/
def Decimal.toFloat (d : Decimal) : Float :=
  let places := (toString d.coefficient).length
  if d.coefficient = 0 then 0
  else if 310 < (places : Int) + d.exponent then 1 / 0
  else if (places : Int) + d.exponent < -330 then 0
  else Float.ofScientific d.coefficient (d.exponent < 0) d.exponent.natAbs

/-- The decimal written as `whole`, a point, `fraction` and a power of ten. -/
def Decimal.ofParts (whole fraction : List Char) (power : Int) : Decimal :=
  ⟨digitsValue (whole ++ fraction), power - fraction.length⟩

/-- The largest power of ten that is a binary64 number. -/
def mostPower : Nat := 308

/-- The binary64 number nearest to a power of ten. -/
def powerOfTen (k : Nat) : Float :=
  Float.ofScientific 1 false k

/-- The number divided by the largest power of ten so many times; the division ends at zero. -/
def divideDown (x : Float) : (rounds : Nat) → Float
  | 0 => x
  | rounds + 1 => if x == 0 then x else divideDown (x / powerOfTen mostPower) rounds

/-- A decimal whose coefficient fits into 64 bits, scaled by its power of ten in binary64. There is none if the power alone is
out of range and the coefficient is positive; a product out of range is an infinity. -/
def Decimal.scale? (d : Decimal) : Option Float :=
  let x := d.coefficient.toUInt64.toFloat
  let places := d.exponent.natAbs
  if d.exponent < 0 then
    let rounds := (places - 1) / mostPower
    some (divideDown x rounds / powerOfTen (places - mostPower * rounds))
  else if places ≤ mostPower then some (x * powerOfTen places)
  else if d.coefficient = 0 then some x
  else none

end SceneMarkup
