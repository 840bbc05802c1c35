import Mathlib
import SceneMarkup.Proofs.Decimal.Rounding

/-!
# Whole numbers as binary64 numbers

A whole number of 64 bits becomes the binary64 number with its first 53 bits, rounded (`BitPattern.isWhole_ofInt`). So two of
them are equal as binary64 numbers exactly if they are rounded to the same whole number (`beq_ofInt_iff`), which up to 53
bits is each number itself (`roundWhole_of_natAbs_le`).
-/

namespace SceneMarkup

namespace BitPattern

open Float.Model (Format UnpackedFloat totalExponent)
open Float.Model.UnpackedFloat (Sign)

variable {s : Sign} {x : ℚ} {u v : UnpackedFloat}

/-! ## Conversion -/

/-- A whole number times a power of two is rounded to the first bits of the whole number, if it has at least as many. -/
theorem normal_scaled (s : Sign) {n j : Nat} (hn : 0 < n) (hj : 52 ≤ n.log2 + j) :
    Normal s (roundNat n) (UnpackedFloat.roundWithAccuracy .binary64 s (n * 2 ^ j) (-j) .exact) := by
  obtain ⟨k, hk⟩ : ∃ k, n.log2 + j = 52 + k := ⟨n.log2 + j - 52, by omega⟩
  have hlow : 2 ^ (52 + k) ≤ n * 2 ^ j := by
    rw [← hk, Nat.pow_add]
    exact Nat.mul_le_mul_right _ (Nat.log2_self_le hn.ne')
  have hhigh : n * 2 ^ j < 2 ^ (53 + k) := by
    have hnext : 53 + k = n.log2 + 1 + j := by omega
    rw [hnext, Nat.pow_add]
    exact Nat.mul_lt_mul_of_pos_right Nat.lt_log2_self (Nat.two_pow_pos j)
  have h := normal_roundWithAccuracy s hlow hhigh (by omega : (-1074 : Int) ≤ -j + k)
  suffices hvalue : (roundedQuotient (n * 2 ^ j) (2 ^ k) : ℚ) * 2 ^ (-j + k : Int) = roundNat n by rwa [hvalue] at h
  by_cases hbits : n.log2 ≤ 52
  · have hj' : j = 52 - n.log2 + k := by omega
    have he : (-j + k : Int) = -(52 - n.log2 : Nat) := by omega
    rw [roundNat_of_log2_le hbits, he, hj', Nat.pow_add, ← Nat.mul_assoc, roundedQuotient_mul _ (Nat.two_pow_pos k),
      zpow_neg, zpow_natCast]
    push_cast
    exact mul_inv_cancel_right₀ (pow_ne_zero _ two_ne_zero) _
  · have hk' : k = n.log2 - 52 + j := by omega
    have he : (-j + k : Int) = (n.log2 - 52 : Nat) := by omega
    rw [he, hk', Nat.pow_add, roundedQuotient_mul_right _ _ (Nat.two_pow_pos j), zpow_natCast, roundNat]
    push_cast
    rfl

/-- A natural number is rounded by way of a significand with all of its bits. -/
theorem normal_round (s : Sign) {n : Nat} (hn : 0 < n) (h : n.log2 ≤ 52) :
    Normal s n (UnpackedFloat.round .binary64 s n 0) := by
  have htarget : Format.binary64.targetExponent (totalExponent n 0) = n.log2 - 52 := by
    rw [targetExponent_totalExponent (by omega), zero_add]
  have hshift : (-(n.log2 - 52 : Int)).toNat = 52 - n.log2 := by omega
  have hscaled := normal_scaled s (j := 52 - n.log2) hn (by omega)
  rw [roundNat_of_log2_le h, ← Nat.shiftLeft_eq] at hscaled
  unfold UnpackedFloat.round UnpackedFloat.decreaseExponent
  simp only [htarget, zero_sub, hshift]
  exact hscaled

/-- A natural number of at most 53 bits is converted as a word without rounding. -/
theorem normal_toFloat {n : Nat} (hn : 0 < n) (h : n < 2 ^ 53) :
    Normal .positive n (read n.toUInt64.toFloat.toBits.toBitVec) := by
  have hword : n.toUInt64.toNat = n := UInt64.toNat_ofNat_of_lt (h.trans (by decide))
  have hbits : n.log2 ≤ 52 := Nat.le_of_lt_succ ((Nat.log2_lt hn.ne').2 h)
  have hround : UnpackedFloat.ofInt .binary64 n = UnpackedFloat.round .binary64 .positive n 0 := by
    have hcompare : compare (n : Int) 0 = .gt := Int.compare_eq_gt.2 (by omega)
    unfold UnpackedFloat.ofInt UnpackedFloat.normalize
    rw [hcompare]
    rfl
  change Normal .positive n (read (UnpackedFloat.pack .binary64 (UnpackedFloat.ofInt .binary64 n.toUInt64.toNat)))
  rw [hword, hround, (normal_round .positive hn hbits).read_pack]
  · exact normal_round .positive hn hbits
  · exact_mod_cast hn
  · exact_mod_cast h.le.trans (by decide)

/-- Multiplying by one, whose significand has all of its bits, does not round. -/
theorem Normal.mul_one (h : Normal s x u) (hlow : 1 ≤ x) (hhigh : x ≤ 2 ^ 64) :
    Normal s x (UnpackedFloat.mul .binary64 u (.finite .positive (twoTo 52) (-52) (by decide))) := by
  obtain ⟨m, e, hm, low, high, rfl⟩ := h
  obtain ⟨hleast, -⟩ := exponent_bounds low high hlow hhigh
  have hsign : s * Sign.positive = s := by cases s <;> rfl
  have hprod := normal_roundWithAccuracy s (m := m * twoTo 52) (k := 52) (e := e + -52)
    (Nat.mul_le_mul_right (2 ^ 52) low) (Nat.mul_lt_mul_of_pos_right high (by decide)) (by omega)
  have hquotient : roundedQuotient (m * twoTo 52) (2 ^ 52) = m := roundedQuotient_mul m (by decide)
  rw [hquotient, Nat.cast_ofNat, neg_add_cancel_right] at hprod
  change Normal s _ (UnpackedFloat.roundWithAccuracy .binary64 (s * Sign.positive) (m * twoTo 52) (e + -52) .exact)
  rw [hsign]
  exact hprod

/-- A rounded number of 64 bits is from one up and has at most 64 bits. -/
theorem roundNat_range {n : Nat} (hn : 0 < n) (h : n < 2 ^ 64) : (1 : ℚ) ≤ roundNat n ∧ (roundNat n : ℚ) ≤ 2 ^ 64 := by
  obtain ⟨hleast, hmost⟩ := roundNat_bounds hn
  have hbits : n.log2 + 1 ≤ 64 := (Nat.log2_lt hn.ne').2 h
  constructor
  · exact_mod_cast (Nat.two_pow_pos _).trans_le hleast
  · exact_mod_cast hmost.trans (Nat.pow_le_pow_right (by decide) hbits)

/-- A number without a decimal exponent is rounded by way of a significand with 53 more bits. -/
theorem ofScientific_eq {n : Nat} (hn : 0 < n) : UnpackedFloat.ofScientific .binary64 n 0 =
    UnpackedFloat.roundWithAccuracy .binary64 .positive (n * 2 ^ 53) (-(53 : Nat)) .exact := by
  have hrange : ¬(0 : Int) < -(2 ^ Format.binary64.exponentBits + (n.log2 : Int)) := by
    have hpos : (0 : Int) < 2 ^ Format.binary64.exponentBits := by decide
    omega
  unfold UnpackedFloat.ofScientific
  rw [dif_neg hn.ne', if_neg (by decide), if_neg hrange, if_pos (by decide), ← Nat.shiftLeft_eq, ← Nat.mul_one (n <<< 53)]
  rfl

/-- A natural number of 64 bits is rounded to its first 53 bits. -/
theorem normal_ofNat {n : Nat} (hn : 0 < n) (h : n < 2 ^ 64) :
    Normal .positive (roundNat n) (read (Float.ofNat n).toBits.toBitVec) := by
  change Normal .positive (roundNat n) (read (Float.ofScientific n false 0).toBits.toBitVec)
  unfold Float.ofScientific
  -- a number of at most 53 bits is converted as a word and multiplied by one, any other is rounded at once
  split
  · rename_i hsmall
    have hbits : n.log2 ≤ 52 := Nat.le_of_lt_succ ((Nat.log2_lt hn.ne').2 hsmall.1)
    change Normal .positive (roundNat n) (read (UnpackedFloat.pack .binary64 (UnpackedFloat.mul .binary64
      (read n.toUInt64.toFloat.toBits.toBitVec) (read (Float.ofBits 4607182418800017408).toBits.toBitVec))))
    have hlow : (1 : ℚ) ≤ n := by exact_mod_cast hn
    have hhigh : (n : ℚ) ≤ 2 ^ 64 := by exact_mod_cast h.le
    have hmul := (normal_toFloat hn hsmall.1).mul_one hlow hhigh
    rw [read_one, roundNat_of_log2_le hbits, hmul.read_pack hlow hhigh]
    exact hmul
  · rename_i hlarge
    have hbits : 53 ≤ n.log2 := (Nat.le_log2 hn.ne').2 (by omega)
    have hscaled := normal_scaled .positive (j := 53) hn (by omega)
    obtain ⟨hlow, hhigh⟩ := roundNat_range hn h
    change Normal .positive (roundNat n) (read (UnpackedFloat.pack .binary64 (UnpackedFloat.ofScientific .binary64 n 0)))
    rw [ofScientific_eq hn, hscaled.read_pack hlow hhigh]
    exact hscaled

/-! ## Whole numbers -/

/-- What has been taken apart is this whole number. -/
inductive IsWhole : Int → UnpackedFloat → Prop where
  | zero (s : Sign) : IsWhole 0 (.zero s)
  | normal (s : Sign) {n : Nat} {u : UnpackedFloat} (hn : 0 < n) (h : Normal s n u) : IsWhole (s.apply n) u

/-- The number with the other sign. -/
theorem Normal.neg (h : Normal s x u) : Normal (-s) x u.neg := by
  obtain ⟨m, e, hm, low, high, value⟩ := h
  exact .finite m e hm low high value

/-- A magnitude above zero with a sign is not zero. -/
theorem apply_ne_zero {n : Nat} (hn : 0 < n) (s : Sign) : s.apply n ≠ 0 := by
  cases s <;> simp only [Sign.apply] <;> omega

/-- Magnitudes above zero with signs are the same only with the same sign. -/
theorem apply_injective {s t : Sign} {m n : Nat} (hm : 0 < m) (hn : 0 < n) (h : s.apply m = t.apply n) : s = t ∧ m = n := by
  cases s <;> cases t <;> simp only [Sign.apply, true_and, reduceCtorEq, false_and] at h ⊢ <;> omega

variable {a b : Int}

/-- It is no other whole number. -/
theorem IsWhole.unique (hu : IsWhole a u) (hv : IsWhole b u) : a = b := by
  cases hu with
  | zero s =>
    cases hv with
    | zero => rfl
    | normal t hn h => nomatch h
  | normal s hn h =>
    cases h with
    | finite m e hm low high value =>
      cases hv with
      | normal t hn' h' =>
        cases h' with
        | finite _ _ _ _ _ value' =>
          have hsame := value.symm.trans value'
          rw [Nat.cast_inj] at hsame
          rw [hsame]

/-- Whole numbers compare as equal only if they are the same. -/
theorem IsWhole.eq_of_compare (hu : IsWhole a u) (hv : IsWhole b v) (h : u.compare v = some .eq) : a = b := by
  rcases compare_eq_cases h with ⟨s, rfl, rfl⟩ | ⟨⟨s, rfl⟩, t, rfl⟩ | ⟨s, m, e, hm, rfl, rfl⟩
  · cases hu with
    | normal t hn h' => nomatch h'
  · -- both zeros are the whole number zero
    have hzero : ∀ {c : Int} {r : Sign}, IsWhole c (.zero r) → c = 0 := fun hc => hc.unique (.zero _)
    rw [hzero hu, hzero hv]
  · exact hu.unique hv

/-- The same whole number compares as equal. -/
theorem IsWhole.compare_self (hu : IsWhole a u) (hv : IsWhole a v) : u.compare v = some .eq := by
  generalize hb : a = b at hv
  cases hu with
  | zero s =>
    cases hv with
    | zero t => rfl
    | normal t hn h => exact absurd hb.symm (apply_ne_zero hn t)
  | normal s hn h =>
    cases hv with
    | zero t => exact absurd hb (apply_ne_zero hn s)
    | normal t hn' h' =>
      obtain ⟨rfl, rfl⟩ := apply_injective hn hn' hb
      obtain rfl := h.unique h'
      cases h with
      | finite m e hm low high value => exact (isNumber_finite _ _ _ _).compare_self

/-- A whole number of 64 bits is rounded to its first 53 bits. -/
theorem isWhole_ofInt {a : Int} (h : a.natAbs < 2 ^ 64) : IsWhole (roundWhole a) (read (Float.ofInt a).toBits.toBitVec) := by
  cases a with
  | ofNat n =>
    rcases Nat.eq_zero_or_pos n with rfl | hn
    · exact .zero .positive
    · have hround : roundWhole (Int.ofNat n) = Sign.positive.apply (roundNat n) := by
        rw [roundWhole, Int.ofNat_eq_natCast, Int.sign_natCast_of_ne_zero hn.ne', one_mul]
        rfl
      rw [hround]
      exact .normal _ ((Nat.two_pow_pos _).trans_le (roundNat_bounds hn).1) (normal_ofNat hn h)
  | negSucc n =>
    have hn : 0 < n + 1 := n.succ_pos
    have hround : roundWhole (Int.negSucc n) = Sign.negative.apply (roundNat (n + 1)) := by
      rw [roundWhole, Int.sign_negSucc, Int.natAbs_negSucc, neg_one_mul]
      rfl
    have hneg := (normal_ofNat hn h).neg
    obtain ⟨hlow, hhigh⟩ := roundNat_range hn h
    change IsWhole _ (read (UnpackedFloat.pack .binary64 (read (Float.ofNat (n + 1)).toBits.toBitVec).neg))
    rw [hround, hneg.read_pack hlow hhigh]
    exact .normal _ ((Nat.two_pow_pos _).trans_le (roundNat_bounds hn).1) hneg

end BitPattern

open BitPattern

/-- Whole numbers of 64 bits are equal as binary64 numbers exactly if they are rounded to the same whole number. -/
theorem beq_ofInt_iff {a b : Int} (ha : a.natAbs < 2 ^ 64) (hb : b.natAbs < 2 ^ 64) :
    (Float.ofInt a == Float.ofInt b) = true ↔ roundWhole a = roundWhole b := by
  rw [beq_eq, beq_iff_eq]
  constructor
  · exact (isWhole_ofInt ha).eq_of_compare (isWhole_ofInt hb)
  · intro h
    exact (isWhole_ofInt ha).compare_self (h ▸ isWhole_ofInt hb)

/-- A whole number of at most 53 bits, or the least one with one more, is not rounded. -/
theorem roundWhole_of_natAbs_le {a : Int} (h : a.natAbs ≤ 2 ^ 53) : roundWhole a = a := by
  have hround : roundNat a.natAbs = a.natAbs := by
    rcases Nat.lt_or_eq_of_le h with hlt | heq
    · by_cases hz : a.natAbs = 0
      · rw [hz]
        rfl
      · exact roundNat_of_log2_le (Nat.le_of_lt_succ ((Nat.log2_lt hz).2 hlt))
    · rw [heq]
      rfl
  rw [roundWhole, hround]
  exact Int.sign_mul_natAbs a

/-- The first whole number that is rounded. -/
example : roundWhole 9007199254740993 = 9007199254740992 := by decide

end SceneMarkup
