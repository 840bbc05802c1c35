import Mathlib
import SceneMarkup.Proofs.Decimal.Number

/-!
# Numbers from zero up

A number from zero up is a zero, a finite number above zero or the infinity above all of them (`BitPattern.FromZero`). Half of
it is from zero up again (`zero_le_half`), and it is above zero unless it is equal to zero (`zero_lt_iff`).
-/

namespace SceneMarkup

namespace BitPattern

open Float.Model (UnpackedFloat)
open Float.Model.UnpackedFloat (Sign)

/-- What has been taken apart is a zero, or a number above zero. -/
inductive FromZero : UnpackedFloat → Prop where
  | infinity : FromZero (.infinity .positive)
  | zero (s : Sign) : FromZero (.zero s)
  | finite (m : Nat) (e : Int) (hm : 0 < m) : FromZero (.finite .positive m e hm)

variable {u : UnpackedFloat}

/-- Of what has been taken apart, the numbers from zero up are not below zero. -/
theorem fromZero_iff : FromZero u ↔ ((UnpackedFloat.zero .positive).compare u).any (·.isLE) = true := by
  constructor
  · intro h
    cases h <;> rfl
  · intro h
    cases u with
    | notANumber => nomatch h
    | infinity s =>
      cases s with
      | positive => exact .infinity
      | negative => nomatch h
    | zero s => exact .zero s
    | finite s m e hm =>
      cases s with
      | positive => exact .finite m e hm
      | negative => nomatch h

/-- A number from zero up is above zero, or it is a zero. -/
theorem FromZero.compare (h : FromZero u) (s : Sign) :
    ((UnpackedFloat.zero s).compare u == some .lt) = !(u.compare (.zero s) == some .eq) := by
  cases h <;> rfl

/-- A number that is not above zero is below it, or a zero. -/
theorem IsNumber.compare_zero (h : IsNumber u) (s t : Sign) :
    ((UnpackedFloat.zero s).compare u == some .lt) = !(u.compare (.zero t)).any (·.isLE) := by
  cases u with
  | notANumber => exact absurd rfl h
  | infinity r => cases r <;> rfl
  | zero r => rfl
  | finite r m e hm => cases r <;> rfl

/-- A number from zero up is a number. -/
theorem FromZero.isNumber (h : FromZero u) : IsNumber u := by
  cases h with
  | infinity => exact isNumber_infinity _
  | zero s => exact isNumber_zero s
  | finite m e hm => exact isNumber_finite _ m e hm

/-- A number whose sign is that of numbers above zero is from zero up. -/
theorem fromZero_read {b : BitVec 64} (hn : IsNumber (read b)) (hs : Sign.ofBitVec (sign b) = .positive) :
    FromZero (read b) := by
  rcases read_cases b with ⟨-, -, hr⟩ | hr | ⟨-, -, hr⟩ | ⟨-, m, e, hr⟩ | ⟨hm, hr⟩
  · rw [hr, hs]
    exact .infinity
  · exact absurd hr hn
  · rw [hr]
    exact .zero _
  · rw [hr, hs]
    exact .finite _ _ _
  · rw [hr, hs]
    exact .finite _ _ _

/-- The sign of which a bit pattern is made is the one that is read. -/
theorem sign_packComponents (s : Sign) (e : BitVec 11) (f : BitVec 52) :
    Sign.ofBitVec (sign (UnpackedFloat.packComponents .binary64 s e f)) = s := by
  have hsign : sign (UnpackedFloat.packComponents .binary64 s e f) = s.toBitVec :=
    @UnpackedFloat.unpackSign_packComponents .binary64 s e f
  rw [hsign]
  cases s <;> rfl

/-- A number from zero up is packed as one. -/
theorem FromZero.pack (h : FromZero u) : FromZero (read (UnpackedFloat.pack .binary64 u)) := by
  have hn := IsNumber.pack h.isNumber
  cases h with
  | infinity => exact fromZero_read hn (sign_packComponents ..)
  | zero s => cases s <;> exact .zero _
  | finite m e hm =>
    refine fromZero_read hn ?_
    -- an overflow, a full and a small significand are all packed with the sign of the number
    unfold UnpackedFloat.pack
    simp only []
    split
    · exact sign_packComponents ..
    · split <;> exact sign_packComponents ..

/-- A number above zero is rounded to one from zero up. -/
theorem fromZero_roundWithAccuracy (m : Nat) (e : Int) (a : UnpackedFloat.Accuracy) :
    FromZero (UnpackedFloat.roundWithAccuracy .binary64 .positive m e a) := by
  unfold UnpackedFloat.roundWithAccuracy
  simp only []
  split
  · exact .zero _
  · exact .finite _ _ _

/-- A number from zero up over a finite number above zero is from zero up. -/
theorem FromZero.div_finite (h : FromZero u) (m : Nat) (e : Int) (hm : 0 < m) :
    FromZero (UnpackedFloat.div .binary64 u (.finite .positive m e hm)) := by
  cases h with
  | infinity => exact .infinity
  | zero s => exact .zero _
  | finite n f hn => exact fromZero_roundWithAccuracy _ _ _

/-- Two is read as a finite number above zero. -/
theorem read_two : read (2 : Float).toBits.toBitVec = .finite .positive (twoTo 52) (-51) (by decide) := by
  rfl

/-- Numbers are compared as their bits are read. -/
theorem le_iff (x y : Float) :
    x ≤ y ↔ ((read x.toBits.toBitVec).compare (read y.toBits.toBitVec)).any (·.isLE) = true := by
  change decide (x.toModel ≤ y.toModel) = true ↔ _
  rw [decide_eq_true_iff]
  rfl

/-- Numbers are compared as their bits are read. -/
theorem lt_iff (x y : Float) :
    x < y ↔ ((read x.toBits.toBitVec).compare (read y.toBits.toBitVec) == some .lt) = true := by
  change decide (x.toModel < y.toModel) = true ↔ _
  rw [decide_eq_true_iff]
  rfl

/-- Half of a number is what its half is packed as. -/
theorem read_half (x : Float) :
    read (x / 2).toBits.toBitVec =
      read (UnpackedFloat.pack .binary64 (UnpackedFloat.div .binary64 (read x.toBits.toBitVec)
        (read (2 : Float).toBits.toBitVec))) := rfl

/-- The numbers from zero up are those that are read as such. -/
theorem zero_le_iff {x : Float} : 0 ≤ x ↔ FromZero (read x.toBits.toBitVec) := by
  rw [le_iff, fromZero_iff]
  rfl

end BitPattern

open BitPattern

variable {x : Float}

/-- A number from zero up is above zero unless it is equal to zero. -/
theorem zero_lt_iff (h : 0 ≤ x) : 0 < x ↔ (x == 0) = false := by
  have hcompare := (zero_le_iff.1 h).compare .positive
  rw [lt_iff, beq_eq]
  change ((Float.Model.UnpackedFloat.zero .positive).compare _ == _) = true ↔ _
  rw [hcompare, Bool.not_eq_true']
  rfl

/-- A number is above zero unless it is at most zero. -/
theorem le_zero_iff_not_lt (h : IsNumber (read x.toBits.toBitVec)) : x ≤ 0 ↔ ¬0 < x := by
  rw [lt_iff, le_iff]
  change ((read x.toBits.toBitVec).compare (.zero .positive)).any (·.isLE) = true ↔
    ¬((Float.Model.UnpackedFloat.zero .positive).compare (read x.toBits.toBitVec) == some .lt) = true
  rw [h.compare_zero .positive .positive]
  simp

/-- Half of a number from zero up is from zero up. -/
theorem zero_le_half (h : 0 ≤ x) : 0 ≤ x / 2 := by
  rw [zero_le_iff] at h ⊢
  rw [read_half, read_two]
  exact (h.div_finite _ _ _).pack

end SceneMarkup
