import SceneMarkup.Decimal.Layout

/-!
# Equality of binary64 numbers

Comparing two numbers by value tells apart all numbers that differ, except for the two zeros (`same_of_beq`). What is
written in markup does not show which of the two zeros a number is (`formatNumber_same`).
-/

namespace SceneMarkup

/-- One of the two zeros. -/
def IsZero (x : Float) : Prop :=
  x = 0 ∨ x = -0

instance (x : Float) : Decidable (IsZero x) :=
  inferInstanceAs (Decidable (x = 0 ∨ x = -0))

/-- The same number, where the two zeros count as one. -/
def SameNumber (x y : Float) : Prop :=
  x = y ∨ IsZero x ∧ IsZero y

namespace BitPattern

open Float.Model (UnpackedFloat)
open Float.Model.UnpackedFloat (Sign unpackSign unpackExponent unpackMantissa)

/-- The bit of the sign. -/
abbrev sign (b : BitVec 64) : BitVec 1 := @unpackSign .binary64 b

/-- The bits of the exponent. -/
abbrev exponent (b : BitVec 64) : BitVec 11 := @unpackExponent .binary64 b

/-- The bits of the fraction. -/
abbrev fraction (b : BitVec 64) : BitVec 52 := @unpackMantissa .binary64 b

/-- The number that a bit pattern stands for, taken apart. -/
abbrev read (b : BitVec 64) : UnpackedFloat := UnpackedFloat.unpack .binary64 b

/-- The bits of the exponent as a quotient. -/
theorem toNat_exponent (b : BitVec 64) : (exponent b).toNat = b.toNat / twoTo 52 % twoTo 11 := by
  have hexponent : (exponent b).toNat = b.toNat >>> 52 % 2 ^ 11 := BitVec.extractLsb'_toNat 52 11 b
  rw [hexponent]
  simp only [twoTo, Nat.shiftRight_eq_div_pow, Nat.one_shiftLeft]

/-- The bits of the fraction as a remainder. -/
theorem toNat_fraction (b : BitVec 64) : (fraction b).toNat = b.toNat % twoTo 52 := by
  have hfraction : (fraction b).toNat = b.toNat >>> 0 % 2 ^ 52 := BitVec.extractLsb'_toNat 0 52 b
  rw [hfraction]
  simp only [twoTo, Nat.shiftRight_zero, Nat.one_shiftLeft]

/-- A bit pattern is its sign, its exponent and its fraction. -/
theorem toNat_eq (b : BitVec 64) :
    b.toNat = (sign b).toNat * twoTo 63 + (exponent b).toNat * twoTo 52 + (fraction b).toNat := by
  have hb := b.isLt
  have hsign : (sign b).toNat = b.toNat >>> 63 % 2 ^ 1 := BitVec.extractLsb'_toNat 63 1 b
  rw [hsign, toNat_exponent, toNat_fraction]
  simp only [twoTo, Nat.shiftRight_eq_div_pow, Nat.one_shiftLeft]
  omega

/-- The sign that is read determines the bit of the sign. -/
theorem sign_injective {s t : BitVec 1} (h : Sign.ofBitVec s = Sign.ofBitVec t) : s = t := by
  have hinv : ∀ s : BitVec 1, (Sign.ofBitVec s).toBitVec = s := by decide
  rw [← hinv s, ← hinv t, h]

/-- Bit patterns with the same parts are the same. -/
theorem eq_of_parts {a b : BitVec 64} (hs : Sign.ofBitVec (sign a) = Sign.ofBitVec (sign b))
    (he : (exponent a).toNat = (exponent b).toNat) (hf : (fraction a).toNat = (fraction b).toNat) : a = b := by
  apply BitVec.eq_of_toNat_eq
  rw [toNat_eq a, toNat_eq b, sign_injective hs, he, hf]

/-- What the parts of a bit pattern say: the greatest exponent is that of an infinity or of no number, no exponent that of a
zero or of a number with a fraction alone, and any other exponent that of a number with one more bit. -/
theorem read_cases (b : BitVec 64) :
    exponent b = -1#11 ∧ fraction b = 0#52 ∧ read b = .infinity (Sign.ofBitVec (sign b)) ∨
      read b = .notANumber ∨
      exponent b = 0#11 ∧ fraction b = 0#52 ∧ read b = .zero (Sign.ofBitVec (sign b)) ∨
      (exponent b = 0#11 ∧ ∃ e hm, read b = .finite (Sign.ofBitVec (sign b)) (fraction b).toNat e hm) ∨
      ∃ hm, read b = .finite (Sign.ofBitVec (sign b)) (1#1 ++ fraction b).toNat ((exponent b).toNat - 1075) hm := by
  by_cases he : exponent b = -1#11
  · by_cases hf : fraction b = 0#52
    · exact .inl ⟨he, hf, (if_pos he).trans (if_pos hf)⟩
    · exact .inr (.inl ((if_pos he).trans (if_neg hf)))
  · by_cases h0 : exponent b = 0#11
    · by_cases hf : fraction b = 0#52
      · exact .inr (.inr (.inl ⟨h0, hf, (if_neg he).trans ((if_pos h0).trans (dif_pos hf))⟩))
      · exact .inr (.inr (.inr (.inl ⟨h0, _, _, (if_neg he).trans ((if_pos h0).trans (dif_neg hf))⟩)))
    · exact .inr (.inr (.inr (.inr ⟨_, (if_neg he).trans (if_neg h0)⟩)))

/-- An infinity has the greatest exponent and no fraction. -/
theorem read_infinity {b : BitVec 64} {s : Sign} (h : read b = .infinity s) :
    Sign.ofBitVec (sign b) = s ∧ exponent b = -1#11 ∧ fraction b = 0#52 := by
  rcases read_cases b with ⟨he, hf, hr⟩ | hr | ⟨-, -, hr⟩ | ⟨-, _, _, hr⟩ | ⟨_, hr⟩ <;> rw [hr] at h <;> cases h
  exact ⟨rfl, he, hf⟩

/-- A zero has no exponent and no fraction. -/
theorem read_zero {b : BitVec 64} {s : Sign} (h : read b = .zero s) :
    Sign.ofBitVec (sign b) = s ∧ exponent b = 0#11 ∧ fraction b = 0#52 := by
  rcases read_cases b with ⟨-, -, hr⟩ | hr | ⟨he, hf, hr⟩ | ⟨-, _, _, hr⟩ | ⟨_, hr⟩ <;> rw [hr] at h <;> cases h
  exact ⟨rfl, he, hf⟩

/-- Any other finite number has no exponent, or one more bit than its fraction has. -/
theorem read_finite {b : BitVec 64} {s : Sign} {m : Nat} {e : Int} {hm : 0 < m} (h : read b = .finite s m e hm) :
    Sign.ofBitVec (sign b) = s ∧
      ((exponent b).toNat = 0 ∧ m = (fraction b).toNat ∨
        m = twoTo 52 + (fraction b).toNat ∧ e = (exponent b).toNat - 1075) := by
  rcases read_cases b with ⟨-, -, hr⟩ | hr | ⟨-, -, hr⟩ | ⟨h0, _, _, hr⟩ | ⟨_, hr⟩ <;> rw [hr] at h <;> cases h
  · exact ⟨rfl, .inl ⟨congrArg BitVec.toNat h0, rfl⟩⟩
  · refine ⟨rfl, .inr ⟨?_, rfl⟩⟩
    rw [BitVec.toNat_append, ← Nat.shiftLeft_add_eq_or_of_lt (fraction b).isLt]
    rfl

/-- Finite numbers that compare as equal have the same parts. -/
theorem compare_finite {s t : Sign} {m n : Nat} {e f : Int} {hm : 0 < m} {hn : 0 < n}
    (h : UnpackedFloat.compare (.finite s m e hm) (.finite t n f hn) = some .eq) : s = t ∧ m = n ∧ e = f := by
  have hparts : (compare e f).then (compare m n) = .eq → m = n ∧ e = f := by
    intro hc
    obtain ⟨he, hm⟩ := Ordering.then_eq_eq.1 hc
    exact ⟨Nat.compare_eq_eq.1 hm, Int.compare_eq_eq.1 he⟩
  cases s with
  | positive =>
    cases t with
    | positive => exact ⟨rfl, hparts (Option.some.inj h)⟩
    | negative => cases h
  | negative =>
    cases t with
    | positive => cases h
    | negative => exact ⟨rfl, hparts (Ordering.swap_eq_eq.1 (Option.some.inj h))⟩

/-- Numbers that compare as equal are the same infinity, two zeros, or the same finite number. -/
theorem compare_eq_cases {u v : UnpackedFloat} (h : u.compare v = some .eq) :
    (∃ s, u = .infinity s ∧ v = .infinity s) ∨ ((∃ s, u = .zero s) ∧ ∃ t, v = .zero t) ∨
      ∃ s m e hm, u = .finite s m e hm ∧ v = .finite s m e hm := by
  cases u with
  | notANumber => nomatch h
  | infinity s =>
    cases v with
    | infinity t => cases s <;> cases t <;> first | exact .inl ⟨_, rfl, rfl⟩ | nomatch h
    | notANumber => nomatch h
    | zero t => cases s <;> nomatch h
    | finite t n f hn => cases s <;> nomatch h
  | zero s =>
    cases v with
    | infinity t => cases t <;> nomatch h
    | notANumber => nomatch h
    | zero t => exact .inr (.inl ⟨⟨s, rfl⟩, t, rfl⟩)
    | finite t n f hn => cases t <;> nomatch h
  | finite s m e hm =>
    cases v with
    | infinity t => cases t <;> cases s <;> nomatch h
    | notANumber => cases s <;> nomatch h
    | zero t => cases s <;> nomatch h
    | finite t n f hn =>
      obtain ⟨rfl, rfl, rfl⟩ := compare_finite h
      exact .inr (.inr ⟨s, m, e, hm, rfl, rfl⟩)

/-- Bit patterns whose numbers compare as equal are the same, or both are zeros. -/
theorem eq_of_compare {a b : BitVec 64} (h : (read a).compare (read b) = some .eq) :
    a = b ∨ (∃ s, read a = .zero s) ∧ ∃ s, read b = .zero s := by
  rcases compare_eq_cases h with ⟨s, ha, hb⟩ | hz | ⟨s, m, e, hm, ha, hb⟩
  · obtain ⟨hsa, hea, hfa⟩ := read_infinity ha
    obtain ⟨hsb, heb, hfb⟩ := read_infinity hb
    exact .inl (eq_of_parts (hsa.trans hsb.symm) (by rw [hea, heb]) (by rw [hfa, hfb]))
  · exact .inr hz
  · obtain ⟨hsa, hpa⟩ := read_finite ha
    obtain ⟨hsb, hpb⟩ := read_finite hb
    have hla := (fraction a).isLt
    have hlb := (fraction b).isLt
    have hbit : twoTo 52 = 4503599627370496 := rfl
    -- A number without exponent bits is below every other one, so both have them or neither has.
    have hp : (exponent a).toNat = (exponent b).toNat ∧ (fraction a).toNat = (fraction b).toNat := by omega
    exact .inl (eq_of_parts (hsa.trans hsb.symm) hp.1 hp.2)

/-- A zero compares like any other zero. -/
theorem compare_zero (s t : Sign) (u : UnpackedFloat) :
    UnpackedFloat.compare (.zero s) u = UnpackedFloat.compare (.zero t) u ∧
      u.compare (.zero s) = u.compare (.zero t) := by
  cases u with
  | infinity r => cases r <;> exact ⟨rfl, rfl⟩
  | notANumber => exact ⟨rfl, rfl⟩
  | zero r => exact ⟨rfl, rfl⟩
  | finite r m e hm => cases r <;> exact ⟨rfl, rfl⟩

/-- Numbers with the same bits are the same. -/
theorem float_ext {x y : Float} (h : x.toBits.toBitVec = y.toBits.toBitVec) : x = y := by
  obtain ⟨⟨⟨a⟩, _⟩⟩ := x
  obtain ⟨⟨⟨b⟩, _⟩⟩ := y
  cases h
  rfl

/-- What is read as a zero is one of the two. -/
theorem isZero_of_read {x : Float} {s : Sign} (h : read x.toBits.toBitVec = .zero s) : IsZero x := by
  obtain ⟨hs, he, hf⟩ := read_zero h
  have heq : ∀ y : Float, read y.toBits.toBitVec = .zero s → x = y := by
    intro y hy
    obtain ⟨hs', he', hf'⟩ := read_zero hy
    exact float_ext (eq_of_parts (hs.trans hs'.symm) (by rw [he, he']) (by rw [hf, hf']))
  cases s with
  | positive => exact .inl (heq 0 rfl)
  | negative => exact .inr (heq (-0) rfl)

/-- Each of the two zeros is read as a zero. -/
theorem read_of_isZero {x : Float} (h : IsZero x) : ∃ s, read x.toBits.toBitVec = .zero s := by
  rcases h with rfl | rfl
  · exact ⟨.positive, rfl⟩
  · exact ⟨.negative, rfl⟩

/-- Numbers are compared as their bits are read. -/
theorem beq_eq (x y : Float) :
    (x == y) = ((read x.toBits.toBitVec).compare (read y.toBits.toBitVec) == some .eq) := rfl

end BitPattern

open BitPattern

/-- Numbers that are equal by value are the same number. -/
theorem same_of_beq {x y : Float} (h : (x == y) = true) : SameNumber x y := by
  rw [beq_eq, beq_iff_eq] at h
  rcases eq_of_compare h with hb | ⟨⟨s, hx⟩, t, hy⟩
  · exact .inl (float_ext hb)
  · exact .inr ⟨isZero_of_read hx, isZero_of_read hy⟩

namespace SameNumber

variable {x x' y y' : Float}

theorem refl (x : Float) : SameNumber x x := .inl rfl

theorem symm (h : SameNumber x y) : SameNumber y x :=
  h.elim (fun e => .inl e.symm) fun ⟨hx, hy⟩ => .inr ⟨hy, hx⟩

/-- A number that is not zero is only the same as itself. -/
theorem eq_of_not_isZero (h : SameNumber x y) (hx : ¬IsZero x) : x = y :=
  h.elim id fun hz => absurd hz.1 hx

/-- Comparing by value does not tell apart the two zeros. -/
theorem beq_congr (h : SameNumber x x') (h' : SameNumber y y') : (x == y) = (x' == y') := by
  have hleft : (x == y) = (x' == y) := by
    rcases h with rfl | ⟨hx, hx'⟩
    · rfl
    · obtain ⟨s, hs⟩ := read_of_isZero hx
      obtain ⟨t, ht⟩ := read_of_isZero hx'
      rw [beq_eq, beq_eq, hs, ht, (compare_zero s t _).1]
  have hright : (x' == y) = (x' == y') := by
    rcases h' with rfl | ⟨hy, hy'⟩
    · rfl
    · obtain ⟨s, hs⟩ := read_of_isZero hy
      obtain ⟨t, ht⟩ := read_of_isZero hy'
      rw [beq_eq, beq_eq, hs, ht, (compare_zero s t _).2]
  exact hleft.trans hright

end SameNumber

/-- Equality by value holds both ways. -/
theorem floatBeq_symm {x y : Float} (h : (x == y) = true) : (y == x) = true := by
  rwa [← (same_of_beq h).beq_congr (same_of_beq h).symm]

/-- Equality by value carries over from one number to the next. -/
theorem floatBeq_trans {x y z : Float} (h : (x == y) = true) (h' : (y == z) = true) : (x == z) = true := by
  rwa [← (SameNumber.refl x).beq_congr (same_of_beq h')]

/-- A zero is not above zero. -/
theorem IsZero.le_zero {x : Float} (h : IsZero x) : x ≤ 0 := by
  rcases h with rfl | rfl <;> decide

/-- Both zeros are written alike. -/
theorem IsZero.formatNumber_eq {x : Float} (h : IsZero x) : formatNumber x = "0" := by
  rcases h with rfl | rfl <;> rfl

/-- What is written does not show which of the two zeros a number is. -/
theorem formatNumber_same {x y : Float} (h : SameNumber x y) : formatNumber x = formatNumber y := by
  rcases h with rfl | ⟨hx, hy⟩
  · rfl
  · rw [hx.formatNumber_eq, hy.formatNumber_eq]

end SceneMarkup
