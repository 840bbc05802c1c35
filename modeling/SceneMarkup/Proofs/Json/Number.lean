import SceneMarkup.Json.Reader

/-!
# Numbers in JSON text

The coefficient that a number is scaled from fits into 64 bits (`Json.NumberParts.coefficient_decimal_lt`). If the digits of
the number do, it is the whole of them (`Json.NumberParts.decimal_eq_ofParts`). If they fit into 53 bits and the power of ten
is small, the number that is read is the nearest one (`Json.NumberParts.value?_eq_nearest`).
-/

namespace SceneMarkup

/-! ## Scaling by a power of ten -/

/-- The powers of ten up to the twenty-second are binary64 numbers. -/
theorem powerOfTen_eq_getElem : ∀ k : Fin Float.exactlyRepresentablePowersOfTen.size,
    powerOfTen k = Float.exactlyRepresentablePowersOfTen[k] := by
  decide +kernel

/-- If a coefficient and a power of ten are binary64 numbers, the number nearest to the decimal is their quotient or product. -/
theorem ofScientific_eq {n k : Nat} (hn : n < twoTo 53) (hk : k ≤ 22) (s : Bool) :
    Float.ofScientific n s k = if s then n.toUInt64.toFloat / powerOfTen k else n.toUInt64.toFloat * powerOfTen k := by
  have hsize : k < Float.exactlyRepresentablePowersOfTen.size := Nat.lt_succ_of_le hk
  have hpower : powerOfTen k = Float.exactlyRepresentablePowersOfTen[k] := powerOfTen_eq_getElem ⟨k, hsize⟩
  unfold Float.ofScientific
  rw [dif_pos ⟨hn, hk⟩, hpower]

/-- A decimal of few digits with a small power of ten is rounded once, so that scaling ends at the number nearest to it. -/
theorem Decimal.scale?_eq_toFloat {d : Decimal} (hc : d.coefficient < twoTo 53) (he : d.exponent.natAbs ≤ 22) :
    d.scale? = some d.toFloat := by
  have hbound : twoTo 53 < 10000000000000000 := by decide
  have hlength : (toString d.coefficient).length ≤ 16 := by
    rw [show toString d.coefficient = d.coefficient.repr from rfl, Nat.length_repr_le_iff (by decide)]
    exact Nat.lt_trans hc hbound
  have hzero : ∀ k < 23, ∀ s : Bool, Float.ofScientific 0 s k = 0 := by decide +kernel
  have hnearest : d.toFloat = Float.ofScientific d.coefficient (d.exponent < 0) d.exponent.natAbs := by
    unfold toFloat
    dsimp only
    by_cases h0 : d.coefficient = 0
    · rw [if_pos h0, h0]
      exact (hzero _ (Nat.lt_succ_of_le he) _).symm
    · rw [if_neg h0, if_neg (by omega), if_neg (by omega)]
  rw [hnearest, ofScientific_eq hc he]
  unfold scale?
  dsimp only
  by_cases hneg : d.exponent < 0
  · have hmost : d.exponent.natAbs - 1 < mostPower := Nat.lt_of_le_of_lt (Nat.le_trans (Nat.sub_le _ _) he) (by decide)
    rw [if_pos hneg, Nat.div_eq_of_lt hmost, if_pos (decide_eq_true hneg)]
    rfl
  · have hmost : d.exponent.natAbs ≤ mostPower := Nat.le_trans he (by decide)
    rw [if_neg hneg, if_pos hmost, decide_eq_false hneg, if_neg Bool.false_ne_true]

/-- With more digits the number can be beside the nearest one. -/
example : Decimal.toFloat ⟨31245270191439438, -15⟩ = 31.245270191439438 ∧
    Decimal.scale? ⟨31245270191439438, -15⟩ = some 31.24527019143944 := by
  decide +kernel

/-! ## Gathering digits -/

namespace Json

/-- What is gathered fits into 64 bits. -/
theorem gather_lt {n : Nat} (h : n < twoTo 64) (cs : List Char) : (gather n cs).1 < twoTo 64 := by
  induction cs generalizing n with
  | nil => exact h
  | cons c cs ih =>
    rw [gather]
    by_cases hnext : 10 * n + (c.toNat - '0'.toNat) < twoTo 64
    · rw [if_pos hnext]
      exact ih hnext
    · rw [if_neg hnext]
      exact h

/-- The number `n` continued by digits. -/
def continued (n : Nat) (cs : List Char) : Nat :=
  cs.foldl (fun n c => 10 * n + (c.toNat - '0'.toNat)) n

/-- Digits that continue a number do not make it smaller. -/
theorem le_continued (n : Nat) (cs : List Char) : n ≤ continued n cs := by
  induction cs generalizing n with
  | nil => exact Nat.le_refl n
  | cons c cs ih =>
    have hnext : n ≤ 10 * n + (c.toNat - '0'.toNat) := by omega
    exact Nat.le_trans hnext (ih _)

/-- All digits are gathered where the number that they continue fits into 64 bits. -/
theorem gather_of_lt {n : Nat} {cs : List Char} (h : continued n cs < twoTo 64) : gather n cs = (continued n cs, []) := by
  induction cs generalizing n with
  | nil => rfl
  | cons c cs ih =>
    have hnext : 10 * n + (c.toNat - '0'.toNat) < twoTo 64 := Nat.lt_of_le_of_lt (le_continued _ cs) h
    rw [gather, if_pos hnext]
    exact ih h

namespace NumberParts

/-- The coefficient that a number is scaled from fits into 64 bits. -/
theorem coefficient_decimal_lt (p : NumberParts) : p.decimal.coefficient < twoTo 64 :=
  gather_lt (gather_lt (by decide) p.whole) (p.fraction.getD [])

/-- A number whose digits fit into 64 bits is scaled from the decimal that is written. -/
theorem decimal_eq_ofParts {p : NumberParts} (h : digitsValue (p.whole ++ p.fraction.getD []) < twoTo 64) :
    p.decimal = Decimal.ofParts p.whole (p.fraction.getD []) (p.power.getD 0) := by
  have hall : digitsValue (p.whole ++ p.fraction.getD []) = continued (continued 0 p.whole) (p.fraction.getD []) :=
    List.foldl_append
  rw [hall] at h
  have hwhole := gather_of_lt (Nat.lt_of_le_of_lt (le_continued _ _) h)
  unfold decimal Decimal.ofParts
  rw [hwhole]
  dsimp only
  rw [gather_of_lt h, hall]
  simp

/-- A number with a fraction or a power of ten is read as the binary64 number nearest to it, if its digits fit into 53 bits and
the power of ten of the last digit is small. -/
theorem value?_eq_nearest (negative : Bool) {p : NumberParts} (hreal : (p.fraction.isSome || p.power.isSome) = true)
    (hc : digitsValue (p.whole ++ p.fraction.getD []) < twoTo 53)
    (he : (p.power.getD 0 - (p.fraction.getD []).length).natAbs ≤ 22) :
    p.value? negative =
      finite? (if negative then -(Decimal.ofParts p.whole (p.fraction.getD []) (p.power.getD 0)).toFloat
        else (Decimal.ofParts p.whole (p.fraction.getD []) (p.power.getD 0)).toFloat) := by
  have hdecimal := decimal_eq_ofParts (Nat.lt_trans hc (by decide))
  have hscale := Decimal.scale?_eq_toFloat (d := Decimal.ofParts p.whole (p.fraction.getD []) (p.power.getD 0)) hc he
  unfold value?
  dsimp only
  rw [if_pos hreal, hdecimal, hscale]
  rfl

end NumberParts

end Json

end SceneMarkup
