import SceneMarkup.Decimal.Binary
import SceneMarkup.Proofs.Decimal.Sign

/-!
# Whole parts

Taking a number apart into a significand and a power of two agrees with what its bits are read as
(`BitPattern.ofFloat_of_read`), so the whole part of a number from one up is at least one (`one_le_wholePart`).
-/

namespace SceneMarkup

/-- A power of two is above zero. -/
theorem twoTo_pos (n : Nat) : 0 < twoTo n := by
  rw [twoTo, Nat.one_shiftLeft]
  exact Nat.two_pow_pos n

/-- Greater exponents have greater powers of two. -/
theorem twoTo_le {a b : Nat} (h : a ≤ b) : twoTo a ≤ twoTo b := by
  rw [twoTo, twoTo, Nat.one_shiftLeft, Nat.one_shiftLeft]
  exact Nat.pow_le_pow_right (by decide) h

namespace BitPattern

open Float.Model (UnpackedFloat)
open Float.Model.UnpackedFloat (Sign)

/-- One is read as a finite number above zero. -/
theorem read_one_literal : read (1 : Float).toBits.toBitVec = .finite .positive (twoTo 52) (-52) (by decide) := by
  rfl

/-- A number without exponent bits has the least power of two. -/
theorem read_of_exponent_eq_zero {b : BitVec 64} (h : exponent b = 0#11) (hf : fraction b ≠ 0#52) :
    ∃ hm, read b = .finite (Sign.ofBitVec (sign b)) (fraction b).toNat (-1074) hm := by
  have he : exponent b ≠ -1#11 := by
    rw [h]
    decide
  have hread : ∃ hm, read b =
      .finite (Sign.ofBitVec (sign b)) (fraction b).toNat ((exponent b).toNat - 1075 + 1) hm :=
    ⟨_, (if_neg he).trans ((if_pos h).trans (dif_neg hf))⟩
  obtain ⟨hm, hread⟩ := hread
  rw [h] at hread
  exact ⟨hm, hread⟩

/-- The significand and the power of two of a number by its bits. -/
theorem ofFloat_eq (x : Float) :
    (Binary.ofFloat x).significand =
        (if (exponent x.toBits.toBitVec).toNat = 0 then (fraction x.toBits.toBitVec).toNat
          else twoTo 52 + (fraction x.toBits.toBitVec).toNat) ∧
      (Binary.ofFloat x).exponent =
        if (exponent x.toBits.toBitVec).toNat = 0 then -1074 else ((exponent x.toBits.toBitVec).toNat : Int) - 1075 := by
  rw [toNat_exponent, toNat_fraction]
  exact ⟨rfl, rfl⟩

/-- The parts of a finite number are those that its bits are read as, and only the least power of two has a significand of
fewer bits. -/
theorem ofFloat_of_read {x : Float} {s : Sign} {m : Nat} {e : Int} {hm : 0 < m}
    (h : read x.toBits.toBitVec = .finite s m e hm) :
    (Binary.ofFloat x).significand = m ∧ (Binary.ofFloat x).exponent = e ∧ (-1074 < e → twoTo 52 ≤ m) := by
  obtain ⟨hsignificand, hexponent⟩ := ofFloat_eq x
  rw [hsignificand, hexponent]
  by_cases h0 : exponent x.toBits.toBitVec = 0#11
  · by_cases hf : fraction x.toBits.toBitVec = 0#52
    · have he : exponent x.toBits.toBitVec ≠ -1#11 := by
        rw [h0]
        decide
      have hzero : read x.toBits.toBitVec = .zero (Sign.ofBitVec (sign x.toBits.toBitVec)) :=
        (if_neg he).trans ((if_pos h0).trans (dif_pos hf))
      rw [hzero] at h
      nomatch h
    · obtain ⟨_, hleast⟩ := read_of_exponent_eq_zero h0 hf
      rw [hleast] at h
      cases h
      rw [h0]
      exact ⟨rfl, rfl, fun hlt => absurd hlt (by decide)⟩
  · have hne : (exponent x.toBits.toBitVec).toNat ≠ 0 := fun hz => h0 (BitVec.eq_of_toNat_eq hz)
    obtain ⟨hz, -⟩ | ⟨rfl, rfl⟩ := (read_finite h).2
    · exact absurd hz hne
    · rw [if_neg hne, if_neg hne]
      exact ⟨rfl, rfl, fun _ => Nat.le_add_right ..⟩

end BitPattern

open BitPattern

/-- The whole part of a finite number from one up is at least one. -/
theorem one_le_wholePart {x : Float} (hf : x.isFinite = true) (h : 1 ≤ x) : 1 ≤ (Binary.ofFloat x).wholePart := by
  rw [BitPattern.le_iff, read_one_literal] at h
  have hfinite : (BitPattern.read x.toBits.toBitVec).isFinite = true := hf
  cases hx : BitPattern.read x.toBits.toBitVec with
  | notANumber =>
    rw [hx] at h
    nomatch h
  | infinity s =>
    rw [hx] at hfinite
    nomatch hfinite
  | zero s =>
    rw [hx] at h
    nomatch h
  | finite s m e hm =>
    obtain ⟨hsignificand, hexponent, hbits⟩ := ofFloat_of_read hx
    rw [hx] at h
    cases s with
    | negative => nomatch h
    | positive =>
      have hle : ((compare (-52) e).then (compare (twoTo 52) m)).isLE = true := h
      have he : -52 ≤ e := by
        refine Int.not_lt.1 fun hlt => ?_
        have hgt : compare (-52) e = .gt := Int.compare_eq_gt.2 hlt
        rw [hgt] at hle
        nomatch hle
      -- only numbers of the least power of two have fewer bits, and those are far below one
      have hm : twoTo 52 ≤ m := hbits (by omega)
      have hdivisor : twoTo (-e).toNat ≤ m * twoTo e.toNat := by
        calc twoTo (-e).toNat ≤ twoTo 52 := twoTo_le (by omega)
          _ ≤ m := hm
          _ ≤ m * twoTo e.toNat := Nat.le_mul_of_pos_right m (twoTo_pos _)
      unfold Binary.wholePart Binary.magnitude
      rw [hsignificand, hexponent]
      exact Nat.div_pos hdivisor (twoTo_pos _)

end SceneMarkup
