import SceneMarkup.Decimal.Binary

/-!
# The shortest decimal that reads back

Reading a decimal rounds it to the nearest binary64 number, so every such number stands for an interval of reals. Its
shortest decimal is the one of fewest digits inside that interval, and of those the nearest to the number. The search
tries one digit, two digits and so on up to seventeen, which always suffice, with exact whole-number arithmetic.
-/

namespace SceneMarkup

/-- A decimal: `coefficient · 10 ^ exponent`. -/
structure Decimal where
  coefficient : Nat
  exponent : Int
deriving DecidableEq, Repr

/-- Which of two equally near decimals is taken. -/
inductive TieRule
  | up
  | even
deriving DecidableEq, Repr

/-- The reals that round to one positive number, from `low` by the number itself, `centre`, to `high`, all as numerators
over `unit`; `closed` when the two ends belong to it. -/
structure RoundingInterval where
  low : Nat
  centre : Nat
  high : Nat
  unit : Nat
  closed : Bool

namespace RoundingInterval

/-- Each end lies half way to the neighbouring number. Below a power of two the neighbour is only half as far away, and
the ends round to the number itself exactly if its significand is even. -/
def ofBinary (b : Binary) : RoundingInterval :=
  let exponent := b.exponent - 2
  let scale := twoTo exponent.toNat
  let below := if b.significand = twoTo 52 ∧ -1074 < b.exponent then 1 else 2
  { low := (4 * b.significand - below) * scale
    centre := 4 * b.significand * scale
    high := (4 * b.significand + 2) * scale
    unit := twoTo (-exponent).toNat
    closed := b.significand % 2 = 0 }

/-- The decimal lies in the interval. -/
def holds (i : RoundingInterval) (d : Decimal) : Bool :=
  let value := d.coefficient * tenTo d.exponent.toNat * i.unit
  let scale := tenTo (-d.exponent).toNat
  if i.closed then i.low * scale ≤ value && value ≤ i.high * scale
  else i.low * scale < value && value < i.high * scale

/-- The number is at least `10 ^ e`. -/
def atLeastPower (i : RoundingInterval) (e : Int) : Bool :=
  tenTo e.toNat * i.unit ≤ i.centre * tenTo (-e).toNat

/-- The exponent of the first digit of the number, from an estimate that is off by one at most. -/
def leadingExponent (i : RoundingInterval) (estimate : Int) : Int :=
  if i.atLeastPower (estimate + 1) then estimate + 1
  else if i.atLeastPower estimate then estimate
  else estimate - 1

/-- The decimals just below and just above the number among the multiples of `10 ^ e`, and whether the upper one is the
nearer of the two. -/
def neighbours (i : RoundingInterval) (tie : TieRule) (e : Int) : Decimal × Decimal × Bool :=
  let numerator := i.centre * tenTo (-e).toNat
  let denominator := i.unit * tenTo e.toNat
  let below := numerator / denominator
  let rest := 2 * (numerator % denominator)
  let upper := denominator < rest || (rest == denominator && (tie == .up || below % 2 == 1))
  (⟨below, e⟩, ⟨below + 1, e⟩, upper)

/-- The nearest decimal of the fewest digits inside the interval, where `left` more digits may be tried and the next try
ends at `10 ^ e`. -/
def search (i : RoundingInterval) (tie : TieRule) : (left : Nat) → (e : Int) → Decimal
  | 0, e => (i.neighbours tie e).1
  | left + 1, e =>
    let (below, above, upper) := i.neighbours tie e
    match below.coefficient != 0 && i.holds below, i.holds above with
    | true, true => if upper then above else below
    | true, false => below
    | false, true => above
    | false, false => search i tie left (e - 1)

end RoundingInterval

/-- The decimal without the zeros at its end, of which at most `left` are taken away. -/
def Decimal.trim : (left : Nat) → Decimal → Decimal
  | 0, d => d
  | left + 1, d =>
    if d.coefficient ≠ 0 ∧ d.coefficient % 10 = 0 then trim left ⟨d.coefficient / 10, d.exponent + 1⟩ else d

/-- The shortest decimal that reads back as the magnitude of a finite number; zero is `0 · 10 ^ 0`. -/
def Decimal.shortest (tie : TieRule) (x : Float) : Decimal :=
  let b := Binary.ofFloat x
  if b.significand = 0 then ⟨0, 0⟩
  else
    let i := RoundingInterval.ofBinary b
    let estimate := (((b.significand.log2 : Int) + b.exponent) * 30103).fdiv 100000
    Decimal.trim 20 (i.search tie 17 (i.leadingExponent estimate))

end SceneMarkup
