import Mathlib
import SceneMarkup.Proofs.Decimal.Sign

/-!
# Rounding to 53 bits

A significand is shifted to the right one bit at a time, and two more bits remember what has been shifted out
(`BitPattern.StandsFor`). They are enough to round the quotient to the nearest whole number, a half to the even one
(`StandsFor.roundedMantissa`). So a number that is neither too small nor too large keeps its first 53 bits, rounded in this
way (`normal_roundWithAccuracy`), and then it is packed as itself (`Normal.read_pack`).
-/

namespace SceneMarkup

/-- A quotient rounded to a whole number, a half to the even one. -/
def roundedQuotient (n unit : Nat) : Nat :=
  if 2 * (n % unit) < unit then n / unit
  else if unit < 2 * (n % unit) then n / unit + 1
  else n / unit + n / unit % 2

/-- A natural number rounded to its first 53 bits, a half to the even one. -/
def roundNat (n : Nat) : Nat :=
  roundedQuotient n (2 ^ (n.log2 - 52)) * 2 ^ (n.log2 - 52)

/-- A whole number rounded to its first 53 bits, a half to the even one. -/
def roundWhole (n : Int) : Int :=
  n.sign * roundNat n.natAbs

/-! ## Rounded quotients -/

/-- A quotient without a remainder is not rounded. -/
theorem roundedQuotient_mul (q : Nat) {unit : Nat} (hunit : 0 < unit) : roundedQuotient (q * unit) unit = q := by
  rw [roundedQuotient, Nat.mul_mod_left, if_pos (by omega), Nat.mul_div_cancel _ hunit]

/-- A quotient is rounded alike when both of its numbers are multiplied. -/
theorem roundedQuotient_mul_right (n unit : Nat) {factor : Nat} (hfactor : 0 < factor) :
    roundedQuotient (n * factor) (unit * factor) = roundedQuotient n unit := by
  unfold roundedQuotient
  rw [Nat.mul_mod_mul_right, Nat.mul_div_mul_right _ _ hfactor, ← Nat.mul_assoc]
  simp only [Nat.mul_lt_mul_right hfactor]

/-- A quotient is rounded down or up. -/
theorem roundedQuotient_bounds (n unit : Nat) :
    n / unit ≤ roundedQuotient n unit ∧ roundedQuotient n unit ≤ n / unit + 1 := by
  unfold roundedQuotient
  split
  · omega
  · split <;> omega

/-- The first 53 bits of a number are rounded to 53 bits, or to the least number of one more. -/
theorem roundedQuotient_bits {n k : Nat} (hlow : 2 ^ (52 + k) ≤ n) (hhigh : n < 2 ^ (53 + k)) :
    2 ^ 52 ≤ roundedQuotient n (2 ^ k) ∧ roundedQuotient n (2 ^ k) ≤ 2 ^ 53 := by
  obtain ⟨hdown, hup⟩ := roundedQuotient_bounds n (2 ^ k)
  have hpos : 0 < 2 ^ k := Nat.two_pow_pos k
  rw [Nat.pow_add] at hlow hhigh
  have hleast : 2 ^ 52 ≤ n / 2 ^ k := (Nat.le_div_iff_mul_le hpos).2 hlow
  have hmost : n / 2 ^ k < 2 ^ 53 := (Nat.div_lt_iff_lt_mul hpos).2 hhigh
  omega

/-- A number of at most 53 bits is not rounded. -/
theorem roundNat_of_log2_le {n : Nat} (h : n.log2 ≤ 52) : roundNat n = n := by
  have hunit : n.log2 - 52 = 0 := by omega
  have hone := roundedQuotient_mul n (by decide : 0 < 1)
  rw [roundNat, hunit, Nat.pow_zero, Nat.mul_one]
  rwa [Nat.mul_one] at hone

/-- A rounded number has as many bits as before, or it is the least one with one more. -/
theorem roundNat_bounds {n : Nat} (hn : 0 < n) : 2 ^ n.log2 ≤ roundNat n ∧ roundNat n ≤ 2 ^ (n.log2 + 1) := by
  have hlow := Nat.log2_self_le hn.ne'
  have hhigh := Nat.lt_log2_self (n := n)
  by_cases h : n.log2 ≤ 52
  · rw [roundNat_of_log2_le h]
    exact ⟨hlow, hhigh.le⟩
  · have hbits : n.log2 = 52 + (n.log2 - 52) := by omega
    have hnext : n.log2 + 1 = 53 + (n.log2 - 52) := by omega
    rw [hbits] at hlow
    rw [hnext] at hhigh
    obtain ⟨hleast, hmost⟩ := roundedQuotient_bits hlow hhigh
    constructor
    · calc 2 ^ n.log2 = 2 ^ 52 * 2 ^ (n.log2 - 52) := by rw [← Nat.pow_add, ← hbits]
        _ ≤ roundNat n := Nat.mul_le_mul_right _ hleast
    · calc roundNat n ≤ 2 ^ 53 * 2 ^ (n.log2 - 52) := Nat.mul_le_mul_right _ hmost
        _ = 2 ^ (n.log2 + 1) := by rw [← Nat.pow_add, ← hnext]

/-! ## Significands with two more bits -/

namespace BitPattern

open Float.Model (Format UnpackedFloat totalExponent)
open Float.Model.UnpackedFloat (Sign ExtendedMantissa Accuracy)

/-- A significand and the bit behind it are twice the quotient, without its fraction, and the last bit says whether there is
a fraction. -/
def StandsFor (em : ExtendedMantissa) (n unit : Nat) : Prop :=
  ∃ rest < unit, 2 * n = (2 * em.mantissa + em.roundBit.toNat) * unit + rest ∧ em.stickyBit = decide (rest ≠ 0)

/-- A number stands for itself. -/
theorem standsFor_exact (n : Nat) : StandsFor ⟨n, false, false⟩ n 1 :=
  ⟨0, by decide, by simp, rfl⟩

/-- Shifted by one bit it stands for half of the quotient. -/
theorem StandsFor.shiftRightOne {em : ExtendedMantissa} {n unit : Nat} (h : StandsFor em n unit) :
    StandsFor em.shiftRightOne n (unit * 2) := by
  obtain ⟨rest, hrest, hn, hsticky⟩ := h
  obtain ⟨m, round, sticky⟩ := em
  dsimp only at hn hsticky
  refine ⟨round.toNat * unit + rest, ?_, ?_, ?_⟩
  · cases round
    · simp; omega
    · simp; omega
  · have hm := Nat.div_add_mod m 2
    have hbit : (m % 2 != 0).toNat = m % 2 := by
      rcases Nat.mod_two_eq_zero_or_one m with h | h <;> rw [h] <;> rfl
    dsimp only [ExtendedMantissa.shiftRightOne]
    rw [hbit, hm, hn]
    ring
  · have hunit : 0 < unit := by omega
    dsimp only [ExtendedMantissa.shiftRightOne]
    rw [hsticky]
    cases round <;> simp [hunit.ne']

/-- Shifted by some bits it stands for the quotient over the power of two. -/
theorem StandsFor.shiftRight {em : ExtendedMantissa} {n unit : Nat} (h : StandsFor em n unit) (k : Nat) :
    StandsFor (em >>> k) n (unit * 2 ^ k) := by
  change StandsFor (Nat.repeat ExtendedMantissa.shiftRightOne k em) n (unit * 2 ^ k)
  induction k with
  | zero => simpa [Nat.repeat] using h
  | succ k ih =>
    rw [Nat.repeat, Nat.pow_succ, ← Nat.mul_assoc]
    exact ih.shiftRightOne

/-- It is rounded as the quotient is. -/
theorem StandsFor.roundedMantissa {em : ExtendedMantissa} {n unit : Nat} (h : StandsFor em n unit) :
    em.roundedMantissa = roundedQuotient n unit := by
  obtain ⟨rest, hrest, hn, hsticky⟩ := h
  obtain ⟨m, round, sticky⟩ := em
  dsimp only at hn hsticky
  -- the bits behind the significand say how twice the remainder compares to a unit
  obtain ⟨r, hr, hdouble⟩ : ∃ r, r + unit * m = n ∧ 2 * r = round.toNat * unit + rest := by
    refine ⟨n - unit * m, ?_, ?_⟩ <;> rw [Nat.add_mul, Nat.mul_assoc, Nat.mul_comm m unit] at hn <;> omega
  have hlt : r < unit := by
    cases round <;> simp at hdouble <;> omega
  obtain ⟨hdiv, hmod⟩ := (Nat.div_mod_unique (by omega)).2 ⟨hr, hlt⟩
  subst hsticky
  unfold roundedQuotient ExtendedMantissa.roundedMantissa
  rw [hdiv, hmod, hdouble]
  by_cases hz : rest = 0
  · cases round with
    | false => simp [ExtendedMantissa.accuracy, Accuracy.roundToNearestEven, hz, Nat.ne_zero_of_lt hrest]
    | true => simp [ExtendedMantissa.accuracy, Accuracy.roundToNearestEven, hz]
  · cases round with
    | false => simp [ExtendedMantissa.accuracy, Accuracy.roundToNearestEven, hz, hrest]
    | true => simp [ExtendedMantissa.accuracy, Accuracy.roundToNearestEven, hz]

/-! ## Rounding -/

variable {s : Sign} {x : ℚ} {u v : UnpackedFloat}

/-- What has been taken apart is a number whose significand has all of its bits, with this sign and this magnitude. -/
inductive Normal (s : Sign) (x : ℚ) : UnpackedFloat → Prop where
  | finite (m : Nat) (e : Int) (hm : 0 < m) (low : 2 ^ 52 ≤ m) (high : m < 2 ^ 53) (value : (m : ℚ) * 2 ^ e = x) :
    Normal s x (.finite s m e hm)

/-- The exponent at which a significand has 53 bits, unless it is too small. -/
theorem targetExponent_totalExponent {m : Nat} {e : Int} (he : -1074 ≤ e + m.log2 - 52) :
    Format.binary64.targetExponent (totalExponent m e) = e + m.log2 - 52 := by
  have hleast : Format.binary64.minExponent = -1074 := rfl
  have hcount : Format.binary64.mantissaBits = 53 := rfl
  unfold Format.targetExponent totalExponent
  rw [hleast, hcount]
  omega

/-- A significand of more than 53 bits is shifted to 53 bits, if its exponent allows that. -/
theorem shiftToTargetExponent_eq {m k : Nat} {e : Int} (hlow : 2 ^ (52 + k) ≤ m) (hhigh : m < 2 ^ (53 + k))
    (he : -1074 ≤ e + k) :
    UnpackedFloat.shiftToTargetExponent .binary64 m e .exact = ((⟨m, false, false⟩ : ExtendedMantissa) >>> k, e + k) := by
  have hm : m ≠ 0 := by
    have := Nat.two_pow_pos (52 + k)
    omega
  have hbits : m.log2 = 52 + k := by
    rw [Nat.log2_eq_iff hm, Nat.add_right_comm]
    exact ⟨hlow, hhigh⟩
  have htarget : Format.binary64.targetExponent (totalExponent m e) = e + k := by
    rw [targetExponent_totalExponent (by omega), hbits]
    omega
  unfold UnpackedFloat.shiftToTargetExponent UnpackedFloat.shiftToExponent
  have hshift : (e + k - e).toNat = k := by omega
  simp only [htarget, hshift]
  rfl

/-- Where rounding has carried over to one more bit, that bit is shifted out again. -/
theorem shiftToTargetExponent_carry {m : Nat} {e : Int} (hlow : 2 ^ 52 ≤ m) (hhigh : m ≤ 2 ^ 53) (he : -1074 ≤ e) :
    let shifted := UnpackedFloat.shiftToTargetExponent .binary64 m e .exact
    2 ^ 52 ≤ shifted.1.mantissa ∧ shifted.1.mantissa < 2 ^ 53 ∧
      (shifted.1.mantissa : ℚ) * 2 ^ shifted.2 = (m : ℚ) * 2 ^ e := by
  rcases Nat.lt_or_eq_of_le hhigh with hlt | rfl
  · have hsame := shiftToTargetExponent_eq (k := 0) hlow hlt (by omega : -1074 ≤ e + (0 : Nat))
    rw [hsame, Nat.cast_zero, add_zero]
    exact ⟨hlow, hlt, rfl⟩
  · have hcarry := shiftToTargetExponent_eq (k := 1) (by decide) (by decide : 2 ^ 53 < 2 ^ (53 + 1))
      (by omega : -1074 ≤ e + (1 : Nat))
    have hhalf : ((⟨2 ^ 53, false, false⟩ : ExtendedMantissa) >>> 1).mantissa = 2 ^ 52 := rfl
    dsimp only
    rw [hcarry]
    dsimp only
    rw [hhalf]
    refine ⟨by decide, by decide, ?_⟩
    rw [zpow_add₀ two_ne_zero]
    push_cast
    ring

/-- A significand of more than 53 bits is rounded to 53 bits, if its exponent allows that. -/
theorem normal_roundWithAccuracy (s : Sign) {m k : Nat} {e : Int} (hlow : 2 ^ (52 + k) ≤ m) (hhigh : m < 2 ^ (53 + k))
    (he : -1074 ≤ e + k) :
    Normal s (roundedQuotient m (2 ^ k) * 2 ^ (e + k)) (UnpackedFloat.roundWithAccuracy .binary64 s m e .exact) := by
  have hrounded : ((⟨m, false, false⟩ : ExtendedMantissa) >>> k).roundedMantissa = roundedQuotient m (2 ^ k) := by
    have h := ((standsFor_exact m).shiftRight k).roundedMantissa
    rwa [Nat.one_mul] at h
  obtain ⟨hleast, hmost⟩ := roundedQuotient_bits hlow hhigh
  obtain ⟨low, high, value⟩ := shiftToTargetExponent_carry hleast hmost he
  unfold UnpackedFloat.roundWithAccuracy
  simp only [shiftToTargetExponent_eq hlow hhigh he, hrounded]
  rw [dif_neg (by omega)]
  exact .finite _ _ _ low high value

/-- A bit pattern whose exponent is neither the least nor the greatest is that of a number with one more bit. -/
theorem read_packComponents {b : BitVec 11} {f : BitVec 52} (hleast : b ≠ 0#11) (hgreatest : b ≠ -1#11) :
    ∃ hm, read (UnpackedFloat.packComponents .binary64 s b f) = .finite s (twoTo 52 + f.toNat) (b.toNat - 1075) hm := by
  have hs := sign_packComponents s b f
  have hb : exponent (UnpackedFloat.packComponents .binary64 s b f) = b := UnpackedFloat.unpackExponent_packComponents
  have hf : fraction (UnpackedFloat.packComponents .binary64 s b f) = f := UnpackedFloat.unpackMantissa_packComponents
  generalize UnpackedFloat.packComponents .binary64 s b f = bits at hs hb hf ⊢
  subst hs hb hf
  cases hr : read bits with
  | notANumber => exact absurd hr (isNumber_read (.inl hgreatest))
  | infinity t => exact absurd (read_infinity hr).2.1 hgreatest
  | zero t => exact absurd (read_zero hr).2.1 hleast
  | finite t m e hm =>
    obtain ⟨rfl, ⟨hzero, -⟩ | ⟨rfl, rfl⟩⟩ := read_finite hr
    · exact absurd (BitVec.eq_of_toNat_eq hzero) hleast
    · exact ⟨hm, rfl⟩

/-- The exponent of a number is bounded by its magnitude. -/
theorem exponent_bounds {m : Nat} {e : Int} (low : 2 ^ 52 ≤ m) (high : m < 2 ^ 53) (hlow : 1 ≤ (m : ℚ) * 2 ^ e)
    (hhigh : (m : ℚ) * 2 ^ e ≤ 2 ^ 64) : -53 < e ∧ e ≤ 12 := by
  have htwo : (1 : ℚ) < 2 := one_lt_two
  have hpos : (0 : ℚ) < 2 ^ e := zpow_pos two_pos e
  constructor
  · have hlt : (2 : ℚ) ^ (0 : Int) < 2 ^ (53 + e) := by
      calc (2 : ℚ) ^ (0 : Int) ≤ m * 2 ^ e := by simpa using hlow
        _ < 2 ^ 53 * 2 ^ e := by gcongr; exact_mod_cast high
        _ = 2 ^ (53 + e) := by rw [zpow_add₀ two_ne_zero]; norm_cast
    have := (zpow_lt_zpow_iff_right₀ htwo).1 hlt
    omega
  · have hle : (2 : ℚ) ^ (52 + e) ≤ 2 ^ (64 : Int) := by
      calc (2 : ℚ) ^ (52 + e) = 2 ^ 52 * 2 ^ e := by rw [zpow_add₀ two_ne_zero]; norm_cast
        _ ≤ m * 2 ^ e := by gcongr; exact_mod_cast low
        _ ≤ 2 ^ (64 : Int) := by exact_mod_cast hhigh
    have := (zpow_le_zpow_iff_right₀ htwo).1 hle
    omega

/-- A number with all bits in its significand is packed as itself, if it is a number from one up of 64 bits. -/
theorem Normal.read_pack (h : Normal s x u) (hlow : 1 ≤ x) (hhigh : x ≤ 2 ^ 64) :
    read (UnpackedFloat.pack .binary64 u) = u := by
  obtain ⟨m, e, hm, low, high, rfl⟩ := h
  obtain ⟨hleast, hgreatest⟩ := exponent_bounds low high hlow hhigh
  have hbits : m.log2 + 1 = Format.binary64.mantissaBits :=
    congrArg (· + 1) ((Nat.log2_eq_iff hm.ne').2 ⟨low, high⟩)
  have hbias : (e + (Format.binary64.exponentBias : Nat) + (52 : Nat) : Int).toNat = (e + 1075).toNat := by
    have hvalue : Format.binary64.exponentBias = 1023 := rfl
    rw [hvalue]
    omega
  have hb : (BitVec.ofNat 11 (e + 1075).toNat).toNat = (e + 1075).toNat := by
    rw [BitVec.toNat_ofNat, Nat.mod_eq_of_lt (by omega)]
  have hf : twoTo 52 + (BitVec.ofNat 52 m).toNat = m := by
    have hpow : twoTo 52 = 2 ^ 52 := rfl
    rw [BitVec.toNat_ofNat, hpow]
    omega
  have hpack : UnpackedFloat.pack .binary64 (.finite s m e hm) =
      UnpackedFloat.packComponents .binary64 s (BitVec.ofNat 11 (e + 1075).toNat) (BitVec.ofNat 52 m) := by
    unfold UnpackedFloat.pack
    simp only [hbias]
    rw [if_neg (by omega), if_pos hbits]
  have hne : ∀ c : BitVec 11, c.toNat = 0 ∨ c.toNat = 2047 → BitVec.ofNat 11 (e + 1075).toNat ≠ c := by
    rintro c hc rfl
    rw [hb] at hc
    omega
  obtain ⟨hm', hread⟩ := read_packComponents (s := s) (f := BitVec.ofNat 52 m) (hne _ (.inl rfl)) (hne _ (.inr rfl))
  rw [hpack, hread]
  simp only [hf, hb]
  congr 1
  omega

/-- Of numbers of the same magnitude none has a smaller exponent, since a significand has all of its bits. -/
theorem exponent_le_of_value_eq {m n : Nat} {e f : Int} (high : m < 2 ^ 53) (low : 2 ^ 52 ≤ n)
    (h : (m : ℚ) * 2 ^ e = n * 2 ^ f) : f ≤ e := by
  refine Int.not_lt.1 fun hlt => ?_
  have hbound : (m : ℚ) * 2 ^ e < n * 2 ^ f := by
    calc (m : ℚ) * 2 ^ e < 2 ^ 53 * 2 ^ e := by gcongr; exact_mod_cast high
      _ = 2 ^ 52 * 2 ^ (e + 1) := by rw [zpow_add₀ two_ne_zero]; ring
      _ ≤ 2 ^ 52 * 2 ^ f := by gcongr; exacts [one_le_two, hlt]
      _ ≤ n * 2 ^ f := by gcongr; exact_mod_cast low
  exact absurd h hbound.ne

/-- The sign and the magnitude of a number determine it. -/
theorem Normal.unique (h : Normal s x u) (h' : Normal s x v) : u = v := by
  obtain ⟨m, e, hm, low, high, rfl⟩ := h
  obtain ⟨n, f, hn, low', high', heq⟩ := h'
  obtain rfl : e = f := le_antisymm (exponent_le_of_value_eq high' low heq) (exponent_le_of_value_eq high low' heq.symm)
  have hmn : (n : ℚ) = m := mul_right_cancel₀ (zpow_pos two_pos e).ne' heq
  obtain rfl : n = m := by exact_mod_cast hmn
  rfl

end BitPattern

end SceneMarkup
