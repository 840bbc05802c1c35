import Mathlib
import SceneMarkup.Proofs.Decimal.Sign

/-!
# The order of binary64 numbers

Every number has a place in a linear order, in which the two zeros share one place. Comparing two numbers compares their
places (`lt_iff_place`, `beq_iff_place`), so comparison is a linear order of all numbers but NaN, where the zeros count as one.
-/

namespace SceneMarkup

namespace BitPattern

open Float.Model (UnpackedFloat)

/-- The place of what has been taken apart: the negative infinity, the negative numbers, the zeros, the positive numbers and
the positive infinity, where numbers of the same sign are placed by their exponents and then by their significands. -/
def place : UnpackedFloat → ℤ ×ₗ ℤ ×ₗ ℤ
  | .notANumber => toLex (0, toLex (0, 0))
  | .infinity .negative => toLex (-2, toLex (0, 0))
  | .infinity .positive => toLex (2, toLex (0, 0))
  | .zero _ => toLex (0, toLex (0, 0))
  | .finite .negative m e _ => toLex (-1, toLex (-e, -m))
  | .finite .positive m e _ => toLex (1, toLex (e, m))

/-- Natural numbers are compared as whole numbers. -/
theorem compare_natCast (m n : Nat) : compare (m : ℤ) n = compare m n := by
  rw [← cmp_eq_compare, ← cmp_eq_compare, Nat.strictMono_cast.cmp_map_eq]

/-- Numbers of the other sign are compared the other way round. -/
theorem compare_neg (a b : ℤ) : compare (-a) (-b) = (compare a b).swap := by
  have hneg : StrictAnti fun a : ℤ => -a := fun _ _ h => neg_lt_neg h
  rw [← cmp_eq_compare, hneg.cmp_map_eq, ← cmp_swap, cmp_eq_compare]

/-- The places of two numbers above zero. -/
theorem compare_place_positive {m n : Nat} {e f : ℤ} (hm : 0 < m) (hn : 0 < n) :
    compare (place (.finite .positive m e hm)) (place (.finite .positive n f hn)) =
      (compare e f).then (compare m n) := by
  rw [← compare_natCast]
  rfl

/-- The places of two numbers below zero. -/
theorem compare_place_negative {m n : Nat} {e f : ℤ} (hm : 0 < m) (hn : 0 < n) :
    compare (place (.finite .negative m e hm)) (place (.finite .negative n f hn)) =
      ((compare e f).then (compare m n)).swap := by
  rw [Ordering.swap_then, ← compare_natCast, ← compare_neg, ← compare_neg]
  rfl

/-- Numbers are compared by their places. -/
theorem compare_eq_place {u v : UnpackedFloat} (hu : IsNumber u) (hv : IsNumber v) :
    u.compare v = some (compare (place u) (place v)) := by
  cases u with
  | notANumber => exact absurd rfl hu
  | infinity s =>
    cases v with
    | notANumber => exact absurd rfl hv
    | infinity t => cases s <;> cases t <;> rfl
    | zero t => cases s <;> rfl
    | finite t n f hn => cases s <;> cases t <;> rfl
  | zero s =>
    cases v with
    | notANumber => exact absurd rfl hv
    | infinity t => cases t <;> rfl
    | zero t => rfl
    | finite t n f hn => cases t <;> rfl
  | finite s m e hm =>
    cases v with
    | notANumber => exact absurd rfl hv
    | infinity t => cases s <;> cases t <;> rfl
    | zero t => cases s <;> rfl
    | finite t n f hn =>
      cases s with
      | negative =>
        cases t with
        | negative => exact congrArg some (compare_place_negative hm hn).symm
        | positive => rfl
      | positive =>
        cases t with
        | negative => rfl
        | positive => exact congrArg some (compare_place_positive hm hn).symm

end BitPattern

open BitPattern

/-- The place of a number in the order of numbers. -/
def placeOf (x : Float) : ℤ ×ₗ ℤ ×ₗ ℤ :=
  place (read x.toBits.toBitVec)

/-- What is not NaN is a number. -/
theorem isNumber_of_isNaN {x : Float} (h : x.isNaN = false) : IsNumber (read x.toBits.toBitVec) := by
  intro hr
  have hx : x.isNaN = (read x.toBits.toBitVec).isNaN := rfl
  rw [hx, hr] at h
  cases h

section

variable {x y : Float} (hx : x.isNaN = false) (hy : y.isNaN = false)

include hx hy

/-- One number is less than another if its place is. -/
theorem lt_iff_place : x < y ↔ placeOf x < placeOf y := by
  rw [lt_iff, compare_eq_place (isNumber_of_isNaN hx) (isNumber_of_isNaN hy), Option.some_beq_some, beq_iff_eq]
  exact compare_lt_iff_lt

/-- Two numbers are equal by value if their places are. -/
theorem beq_iff_place : (x == y) = true ↔ placeOf x = placeOf y := by
  rw [beq_eq, compare_eq_place (isNumber_of_isNaN hx) (isNumber_of_isNaN hy), Option.some_beq_some, beq_iff_eq]
  exact compare_eq_iff_eq

end

end SceneMarkup
