import SceneMarkup.Json.Basic
import SceneMarkup.Proofs.Decimal.Equality

/-!
# JSON numbers are numbers

The binary64 number of a JSON number is a number, so it is equal to itself (`JsonNumber.toFloat_beq_self`).
-/

namespace SceneMarkup

namespace BitPattern

open Float.Model (Format UnpackedFloat)
open Float.Model.UnpackedFloat (Sign)

/-- What has been taken apart is a number. -/
def IsNumber (u : UnpackedFloat) : Prop :=
  u ≠ .notANumber

/-- A number is equal to itself. -/
theorem IsNumber.compare_self {u : UnpackedFloat} (h : IsNumber u) : u.compare u = some .eq := by
  cases u with
  | notANumber => exact absurd rfl h
  | infinity s => cases s <;> rfl
  | zero s => rfl
  | finite s m e hm =>
    have hparts : (compare e e).then (compare m m) = .eq :=
      Ordering.then_eq_eq.2 ⟨Int.compare_eq_eq.2 rfl, Nat.compare_eq_eq.2 rfl⟩
    cases s with
    | positive => exact congrArg some hparts
    | negative => exact congrArg (fun o => some o.swap) hparts

/-- An infinity is a number. -/
theorem isNumber_infinity (s : Sign) : IsNumber (.infinity s) := by
  intro h
  cases h

/-- A zero is a number. -/
theorem isNumber_zero (s : Sign) : IsNumber (.zero s) := by
  intro h
  cases h

/-- Any other finite number is a number. -/
theorem isNumber_finite (s : Sign) (m : Nat) (e : Int) (hm : 0 < m) : IsNumber (.finite s m e hm) := by
  intro h
  cases h

/-- Of two numbers each is a number. -/
theorem IsNumber.ite {p : Prop} [Decidable p] {u v : UnpackedFloat} (hu : IsNumber u) (hv : IsNumber v) :
    IsNumber (if p then u else v) := by
  split
  · exact hu
  · exact hv

/-- A bit pattern whose exponent is not the greatest is that of a number, and so is one without a fraction. -/
theorem isNumber_read {b : BitVec 64} (h : exponent b ≠ -1#11 ∨ fraction b = 0#52) : IsNumber (read b) := by
  by_cases he : exponent b = -1#11
  · have hf : fraction b = 0#52 := h.resolve_left (not_not_intro he)
    rw [show read b = .infinity (Sign.ofBitVec (sign b)) from (if_pos he).trans (if_pos hf)]
    exact isNumber_infinity _
  · by_cases h0 : exponent b = 0#11
    · by_cases hf : fraction b = 0#52
      · rw [show read b = .zero (Sign.ofBitVec (sign b)) from (if_neg he).trans ((if_pos h0).trans (dif_pos hf))]
        exact isNumber_zero _
      · rw [show read b = .finite _ _ _ _ from (if_neg he).trans ((if_pos h0).trans (dif_neg hf))]
        exact isNumber_finite _ _ _ _
    · rw [show read b = .finite _ _ _ _ from (if_neg he).trans (if_neg h0)]
      exact isNumber_finite _ _ _ _

/-- The parts of which a bit pattern is made are those that are read. -/
theorem isNumber_packComponents {s : Sign} {e : BitVec 11} {f : BitVec 52} (h : e ≠ -1#11 ∨ f = 0#52) :
    IsNumber (read (UnpackedFloat.packComponents .binary64 s e f)) := by
  have he : exponent (UnpackedFloat.packComponents .binary64 s e f) = e :=
    UnpackedFloat.unpackExponent_packComponents
  have hf : fraction (UnpackedFloat.packComponents .binary64 s e f) = f :=
    UnpackedFloat.unpackMantissa_packComponents
  exact isNumber_read (by rwa [he, hf])

/-- A number is packed as a number. -/
theorem IsNumber.pack {u : UnpackedFloat} (h : IsNumber u) : IsNumber (read (UnpackedFloat.pack .binary64 u)) := by
  cases u with
  | notANumber => exact absurd rfl h
  | infinity s => exact isNumber_packComponents (.inr rfl)
  | zero s => exact isNumber_packComponents (.inr rfl)
  | finite s m e hm =>
    unfold UnpackedFloat.pack
    simp only []
    split
    · exact isNumber_packComponents (.inr rfl)
    · rename_i hlt
      split
      · refine isNumber_packComponents (.inl fun he => ?_)
        have hmod := congrArg BitVec.toNat he
        have hgreatest : (-1#11).toNat = 2047 := rfl
        rw [hgreatest, BitVec.toNat_ofNat] at hmod
        omega
      · exact isNumber_packComponents (.inl (by decide))

/-- Rounding gives a number. -/
theorem isNumber_roundWithAccuracy (s : Sign) (m : Nat) (e : Int) (a : UnpackedFloat.Accuracy) :
    IsNumber (UnpackedFloat.roundWithAccuracy .binary64 s m e a) := by
  have hrounded : ∀ (n : Nat) (f : Int), IsNumber (if h : n = 0 then .zero s else .finite s n f (Nat.pos_of_ne_zero h)) := by
    intro n f
    by_cases hn : n = 0
    · rw [dif_pos hn]
      exact isNumber_zero s
    · rw [dif_neg hn]
      exact isNumber_finite s n f _
  exact hrounded _ _

/-- A number times a finite number that is not zero is a number. -/
theorem IsNumber.mul_finite {u : UnpackedFloat} (h : IsNumber u) (s : Sign) (m : Nat) (e : Int) (hm : 0 < m) :
    IsNumber (UnpackedFloat.mul .binary64 u (.finite s m e hm)) := by
  cases u with
  | notANumber => exact absurd rfl h
  | infinity r => exact isNumber_infinity _
  | zero r => exact isNumber_zero _
  | finite r n f hn => exact isNumber_roundWithAccuracy _ _ _ _

/-- A number with the other sign is a number. -/
theorem IsNumber.neg {u : UnpackedFloat} (h : IsNumber u) : IsNumber u.neg := by
  cases u with
  | notANumber => exact absurd rfl h
  | infinity s => exact isNumber_infinity _
  | zero s => exact isNumber_zero _
  | finite s m e hm => exact isNumber_finite _ _ _ _

/-- A whole number is rounded to a number. -/
theorem isNumber_ofInt (n : Int) : IsNumber (UnpackedFloat.ofInt .binary64 n) := by
  unfold UnpackedFloat.ofInt UnpackedFloat.normalize
  split
  · exact isNumber_roundWithAccuracy _ _ _ _
  · exact isNumber_zero _
  · exact isNumber_roundWithAccuracy _ _ _ _

/-- A whole number times a power of ten is rounded to a number. -/
theorem isNumber_ofScientific (m : Nat) {e : Int} (he : 0 ≤ e) : IsNumber (UnpackedFloat.ofScientific .binary64 m e) := by
  unfold UnpackedFloat.ofScientific
  by_cases hm : m = 0
  · rw [dif_pos hm]
    exact isNumber_zero _
  rw [dif_neg hm]
  refine IsNumber.ite (isNumber_infinity _) (IsNumber.ite (isNumber_zero _) ?_)
  rw [if_pos he]
  exact IsNumber.mul_finite (isNumber_finite _ _ _ _) _ _ _ _

/-- The first of the powers of ten that are exact is one. -/
theorem read_one :
    read (Float.ofBits 4607182418800017408).toBits.toBitVec = .finite .positive (twoTo 52) (-52) (by decide) := by
  rfl

end BitPattern

open BitPattern
open Float.Model (UnpackedFloat)

/-- The number of a natural number is a number. -/
theorem isNumber_read_ofNat (n : Nat) : IsNumber (read (Float.ofNat n).toBits.toBitVec) := by
  change IsNumber (read (Float.ofScientific n false 0).toBits.toBitVec)
  unfold Float.ofScientific
  split
  · change IsNumber (read (UnpackedFloat.pack .binary64 (UnpackedFloat.mul .binary64 (read n.toUInt64.toFloat.toBits.toBitVec)
      (read (Float.ofBits 4607182418800017408).toBits.toBitVec))))
    rw [read_one]
    exact IsNumber.pack (IsNumber.mul_finite (IsNumber.pack (isNumber_ofInt _)) .positive (twoTo 52) (-52) (by decide))
  · exact IsNumber.pack (isNumber_ofScientific n (Int.natCast_nonneg 0))

/-- The number of a whole number is a number. -/
theorem isNumber_read_ofInt (n : Int) : IsNumber (read (Float.ofInt n).toBits.toBitVec) := by
  cases n with
  | ofNat n => exact isNumber_read_ofNat n
  | negSucc n => exact IsNumber.pack (IsNumber.neg (isNumber_read_ofNat (n + 1)))

/-- A finite number is a number. -/
theorem isNumber_of_isFinite {x : Float} (h : x.isFinite = true) : IsNumber (read x.toBits.toBitVec) := by
  intro hr
  have hx : x.isFinite = (read x.toBits.toBitVec).isFinite := rfl
  rw [hx, hr] at h
  cases h

/-- The number of a JSON number is a number. -/
theorem JsonNumber.isNumber_toFloat (n : JsonNumber) : IsNumber (read n.toFloat.toBits.toBitVec) := by
  cases n with
  | whole n => exact isNumber_read_ofInt n
  | real x finite => exact isNumber_of_isFinite finite

/-- The number of a JSON number is equal to itself. -/
theorem JsonNumber.toFloat_beq_self (n : JsonNumber) : (n.toFloat == n.toFloat) = true := by
  rw [beq_eq, n.isNumber_toFloat.compare_self]
  rfl

end SceneMarkup
