import Catalog.Proofs.Decimal.Rounding
import Catalog.Proofs.Decimal.Shortest

/-!
The quick way to read a decimal rounds up to three times. Main statement: for the shortest decimal of a
float it stays in the range of floats nevertheless.
-/

namespace Catalog.Decimal

open Float.Model (Format totalExponent)
open Float.Model.UnpackedFloat

/-! ### Decimals with an exponent -/

theorem representable_natCast {n : Nat} (h : n < 2 ^ 53) : Representable n :=
  ⟨n, 0, h, by simp⟩

/-- A natural number that a mantissa has room for is moved up to fill it. -/
theorem within_ofNat {n : Nat} (hpos : 0 < n) (h : n < 2 ^ 53) :
    Within (-52) n (Float.Model.UnpackedFloat.ofNat Format.binary64 n) := by
  have hlog : n.log2 ≤ 52 := Nat.le_of_lt_succ ((Nat.log2_lt hpos.ne').2 h)
  have hshift : (0 - Format.binary64.targetExponent (totalExponent n 0)).toNat = 52 - n.log2 := by
    simp only [Format.targetExponent, totalExponent, Format.mantissaBits, Format.minExponent]
    omega
  rw [zero_sub] at hshift
  have hround : Float.Model.UnpackedFloat.ofNat Format.binary64 n
      = roundWithAccuracy Format.binary64 .positive (n * 2 ^ (52 - n.log2))
          (-(52 - n.log2 : Nat)) .exact := by
    have hcompare : compare (n : Int) 0 = .gt := Int.compare_eq_gt.2 (by omega)
    rw [Float.Model.UnpackedFloat.ofNat, ofInt, Float.Model.UnpackedFloat.normalize, hcompare]
    simp only [Float.Model.UnpackedFloat.round, decreaseExponent, Int.toNat_natCast, zero_sub, hshift,
      Nat.shiftLeft_eq]
  rw [hround]
  refine (within_round ?_ (by omega) (representable_natCast h) (le_of_eq ?_)).mono (by omega)
  · have hpow : 2 ^ 52 = 2 ^ n.log2 * 2 ^ (52 - n.log2) := by
      rw [← Nat.pow_add]
      congr 1
      omega
    rw [hpow]
    exact Nat.mul_le_mul_right _ (Nat.log2_self_le hpos.ne')
  · rw [zpow_neg, zpow_natCast]
    push_cast
    exact mul_inv_cancel_right₀ (pow_ne_zero _ two_ne_zero) _

/-- Whether a float is a natural number and has a hidden leading bit. -/
def isExactly (n : Nat) : Float.Model.UnpackedFloat → Bool
  | .finite .positive m e _ =>
    2 ^ 52 ≤ m && m < 2 ^ 53 && -52 ≤ e && m * 2 ^ e.toNat = n * 2 ^ (-e).toNat
  | _ => false

theorem within_of_isExactly {n : Nat} {x : Float.Model.UnpackedFloat} (h : isExactly n x = true) :
    Within (-52) n x := by
  unfold isExactly at h
  split at h
  · rename_i m e hpos
    simp only [Bool.and_eq_true, decide_eq_true_eq] at h
    obtain ⟨⟨⟨hlow, hhigh⟩, he⟩, hvalue⟩ := h
    refine ⟨m, e, hpos, rfl, ⟨hlow, hhigh⟩, he, le_of_eq ?_⟩
    have hcast : (m : ℚ) * 2 ^ e.toNat = n * 2 ^ (-e).toNat := by exact_mod_cast hvalue
    obtain ⟨k, rfl | rfl⟩ := Int.eq_nat_or_neg e
    · simpa using hcast
    · rw [zpow_neg, zpow_natCast]
      simp only [Int.toNat_neg_natCast, pow_zero, mul_one, neg_neg, Int.toNat_natCast] at hcast
      rw [hcast]
      exact mul_inv_cancel_right₀ (pow_ne_zero _ two_ne_zero) _
  · cases h

/-- The table of the powers of ten is right. -/
theorem isExactly_table : ∀ e : Fin 23,
    isExactly (10 ^ e.val) Float.exactlyRepresentablePowersOfTen[e].toModel.unpack = true := by
  decide +kernel

theorem natCast_le_largest {n : Nat} (h : n < 2 ^ 53) : (n : ℚ) ≤ largest := by
  have hcast : (n : ℚ) ≤ 2 ^ 53 - 1 := by
    rw [le_sub_iff_add_le]
    exact_mod_cast h
  have hone : (1 : ℚ) ≤ 2 ^ (971 : Int) := one_le_zpow₀ one_le_two (by decide)
  exact hcast.trans (le_mul_of_one_le_right (by norm_num) hone)

/-- A natural number that a mantissa has room for, as a float. -/
theorem within_toFloat {n : Nat} (hpos : 0 < n) (h : n < 2 ^ 53) :
    Within (-52) n n.toUInt64.toFloat.toModel.unpack := by
  have hofNat := within_ofNat hpos h
  have hword : n.toUInt64.toNat = n := by
    rw [Nat.toUInt64_eq, UInt64.toNat_ofNat', Nat.mod_eq_of_lt (by omega)]
  have hmodel : n.toUInt64.toFloat.toModel.unpack
      = Float.Model.UnpackedFloat.ofNat Format.binary64 n := by
    refine Eq.trans ?_ (hofNat.unpack_pack (by decide) (natCast_le_largest h))
    rw [UInt64.toFloat, Float.Model.ofUInt64, Float.Model.UnpackedFloat.ofUInt64, hword]
  rwa [hmodel]

/-- A decimal without a table is an exact product that is rounded once. -/
theorem ofScientific_eq {n e : Nat} (hpos : 0 < n) (he : e ≤ 2 ^ 11) :
    Float.Model.UnpackedFloat.ofScientific Format.binary64 n (e : Int)
      = roundWithAccuracy Format.binary64 .positive (n * 2 ^ 53 * 10 ^ e) (-53) .exact := by
  have hbits : Format.binary64.exponentBits = 11 := rfl
  have hmantissa : Format.binary64.mantissaBits = 53 := rfl
  have hsign : Sign.positive * Sign.positive = Sign.positive := rfl
  have hlarge : ¬ (e : Int) > 2 ^ 11 := by omega
  have hsmall : ¬ (e : Int) < -((2 ^ 11 : Int) + n.log2) := by omega
  rw [Float.Model.UnpackedFloat.ofScientific, dif_neg hpos.ne', hbits, if_neg hlarge, if_neg hsmall,
    if_pos (Int.natCast_nonneg e), Float.Model.UnpackedFloat.mul, hmantissa, hsign,
    Int.toNat_natCast, Nat.shiftLeft_eq, add_zero]
  rfl

/-- A whole number times a power of ten stays within bounds when it is read. -/
theorem within_ofScientific {n e : Nat} {bound : ℚ} (hpos : 0 < n) (he : e ≤ 2 ^ 11)
    (hbound : Representable bound) (hlargest : bound ≤ largest) (h : (n : ℚ) * 10 ^ e ≤ bound) :
    Within (-104) bound (Float.ofScientific n false e).toModel.unpack := by
  unfold Float.ofScientific
  split
  · rename_i hsmall
    have hpower := within_of_isExactly (isExactly_table ⟨e, by omega⟩)
    exact within_mul (within_toFloat hpos hsmall.1) hpower (by decide) hbound hlargest
      (by push_cast; exact h)
  · have hmodel : Within (-104) bound
        (Float.Model.UnpackedFloat.ofScientific Format.binary64 n (e : Int)) := by
      rw [ofScientific_eq hpos he]
      refine (within_round ?_ (by decide) hbound ?_).mono (by decide)
      · calc 2 ^ 52 ≤ 1 * 2 ^ 53 * 1 := by decide
          _ ≤ n * 2 ^ 53 * 10 ^ e := by
            gcongr
            · exact hpos
            · exact Nat.one_le_pow _ _ (by decide)
      · refine le_of_eq_of_le ?_ h
        push_cast
        rw [zpow_neg]
        ring_nf
    have hunpack := hmodel.unpack_pack (by decide) hlargest
    rw [if_neg Bool.false_ne_true]
    exact hunpack.symm ▸ hmodel

/-! ### Decimals in range -/

/-- A size that a decimal of the second largest float does not pass: the middle between that and the
largest. -/
def sizeLimit : Nat :=
  (twoTo 55 - 6) * twoTo 969

/-- The most digits that a decimal may have, by their number and by its size. -/
def digitsLimit (e : Nat) : Nat :=
  min (tenTo 17) (sizeLimit / tenTo e)

/-- The number of bits of those digits that are sure to be zero. -/
def digitsPlace (e : Nat) : Nat :=
  if e < 292 then 17 else if e = 292 then 1 else 0

/-- The number of bits of a power of ten that a mantissa has no room for, by the binary logarithm of
ten. -/
def powerPlace (e : Nat) : Nat :=
  e * 3321929 / 1000000 - 52

/-- A mantissa that is large enough for a power of ten. -/
def powerMantissa (e : Nat) : Nat :=
  tenTo e / twoTo (powerPlace e) + 1

/-- The digits and the power of ten have room in a mantissa, and even when the power of ten is rounded
up, the product is no larger than the largest float. -/
theorem limits : ∀ e < 309, digitsLimit e % twoTo (digitsPlace e) = 0
    ∧ digitsLimit e / twoTo (digitsPlace e) < twoTo 53 ∧ powerMantissa e < twoTo 53
    ∧ digitsLimit e * (powerMantissa e * twoTo (powerPlace e)) ≤ (twoTo 53 - 1) * twoTo 971 := by
  decide +kernel

theorem representable_mul {k : Nat} (h : k < twoTo 53) (n : Nat) :
    Representable ((k * twoTo n : Nat) : ℚ) :=
  ⟨k, n, h, by simp [twoTo]⟩

theorem cast_twoTo (n : Nat) : ((twoTo n : Nat) : ℚ) = 2 ^ (n : Int) := by
  rw [zpow_natCast]
  exact Nat.cast_pow 2 n

theorem largest_eq : largest = ((twoTo 53 - 1) * twoTo 971 : Nat) := by
  have hmantissa : ((twoTo 53 - 1 : Nat) : ℚ) = 2 ^ 53 - 1 := by
    rw [Nat.cast_pred (twoTo_pos 53), cast_twoTo, zpow_natCast]
  rw [largest, Nat.cast_mul, hmantissa, cast_twoTo]
  rfl

theorem representable_largest : Representable largest := by
  rw [largest_eq]
  exact representable_mul (by decide) 971

theorem natCast_mul_le_largest {n m : Nat} (hm : 0 < m) (h : n * m ≤ (twoTo 53 - 1) * twoTo 971) :
    (n : ℚ) * m ≤ largest ∧ (n : ℚ) ≤ largest := by
  have hcast : ((n * m : Nat) : ℚ) ≤ ((twoTo 53 - 1) * twoTo 971 : Nat) := by exact_mod_cast h
  rw [largest_eq, ← Nat.cast_mul]
  exact ⟨hcast, hcast.trans' (by exact_mod_cast Nat.le_mul_of_pos_right n hm)⟩

/-- A decimal of up to seventeen digits that is not above the limit is in the range of floats. -/
theorem isInf_mul_powerOfTen {digits e : Nat} (hpos : 0 < digits) (hdigits : digits ≤ tenTo 17)
    (hsize : digits * tenTo e ≤ sizeLimit) (he : e < 309) :
    (Float.ofNat digits * powerOfTen e).isInf = false := by
  obtain ⟨hzeros, hroom, hmantissa, hproduct⟩ := limits e he
  have hlimit : digits ≤ digitsLimit e :=
    Nat.le_min.2 ⟨hdigits, (Nat.le_div_iff_mul_le (Nat.pow_pos (by decide))).2 hsize⟩
  have hdigitsLimit : Representable (digitsLimit e) := by
    rw [← Nat.div_mul_cancel (Nat.dvd_of_mod_eq_zero hzeros)]
    exact representable_mul hroom _
  have hpower : 0 < powerMantissa e * twoTo (powerPlace e) :=
    Nat.mul_pos (Nat.succ_pos _) (twoTo_pos _)
  have htop := natCast_mul_le_largest hpower hproduct
  have hx : Within (-104) (digitsLimit e) (Float.ofNat digits).toModel.unpack :=
    within_ofScientific hpos (by decide) hdigitsLimit htop.2
      (by rwa [pow_zero, mul_one, Nat.cast_le])
  have hy : Within (-104) ((powerMantissa e * twoTo (powerPlace e) : Nat) : ℚ)
      (powerOfTen e).toModel.unpack := by
    refine within_ofScientific Nat.one_pos (by omega) (representable_mul hmantissa _)
      (natCast_mul_le_largest (hpos.trans_le hlimit) (by rwa [Nat.mul_comm])).2 ?_
    have hle : tenTo e ≤ powerMantissa e * twoTo (powerPlace e) := by
      rw [powerMantissa, Nat.mul_comm]
      exact (Nat.lt_mul_div_succ _ (twoTo_pos _)).le
    rw [Nat.cast_one, one_mul]
    exact_mod_cast hle
  exact isInf_of_within (within_mul hx hy (by decide) representable_largest le_rfl htop.1)

/-- Such a decimal has a float. -/
theorem isSome_scaled? {digits : Nat} {exponent : Int} (hpos : 0 < digits)
    (hdigits : digits ≤ tenTo 17) (hsize : 0 ≤ exponent → digits * tenTo exponent.toNat ≤ sizeLimit) :
    (scaled? digits exponent).isSome = true := by
  unfold scaled?
  split
  · rfl
  · rename_i hsign
    replace hsize := hsize (by omega)
    have hexponent : exponent.toNat < 309 := by
      by_contra hlarge
      have hpow : tenTo 309 ≤ tenTo exponent.toNat := tenTo_le_tenTo (by omega)
      have hfalse : tenTo 309 ≤ sizeLimit :=
        hpow.trans ((Nat.le_mul_of_pos_left _ hpos).trans hsize)
      exact absurd hfalse (by decide +kernel)
    dsimp only
    rw [if_pos (by omega), isInf_mul_powerOfTen hpos hdigits hsize hexponent]
    rfl

/-! ### The decimals of floats -/

theorem mantissa_ofFloat_lt (x : Float) : (Binary.ofFloat x).mantissa < twoTo 53 := by
  have hfraction : x.toBits.toNat % twoTo 52 < twoTo 52 := Nat.mod_lt _ (twoTo_pos 52)
  have hdouble : twoTo 53 = twoTo 52 + twoTo 52 := rfl
  rw [Binary.ofFloat, Binary.ofBits]
  dsimp only
  split <;> omega

theorem exponent_ofFloat_le {x : Float} (h : x.isFinite = true) :
    (Binary.ofFloat x).exponent ≤ 971 := by
  have hfield : x.toBits.toNat / twoTo 52 % twoTo 11 ≠ 2047 := by
    intro hones
    have hexponent : @unpackExponent Format.binary64 x.toBits.toBitVec = -1#11 := by
      rw [← BitVec.toNat_inj, unpackExponent, BitVec.toNat_cast, BitVec.extractLsb_toNat,
        Nat.shiftRight_eq_div_pow]
      exact hones
    have hunpack : Float.Model.UnpackedFloat.isFinite
        (unpack Format.binary64 x.toBits.toBitVec) = true := h
    unfold unpack at hunpack
    dsimp only at hunpack
    rw [if_pos hexponent] at hunpack
    split at hunpack <;> cases hunpack
  have hmost : x.toBits.toNat / twoTo 52 % twoTo 11 < 2048 := Nat.mod_lt _ (twoTo_pos 11)
  rw [Binary.ofFloat, Binary.ofBits]
  dsimp only
  split <;> omega

/-- The rounding interval of a float, unless it is the largest one, stays below the limit. -/
theorem high_le_sizeLimit {b : Binary} (hmantissa : b.mantissa < twoTo 53)
    (hexponent : b.exponent ≤ 971) (h : ¬ (b.mantissa = twoTo 53 - 1 ∧ b.exponent = 971)) :
    (Interval.ofBinary b).high ≤ sizeLimit := by
  have hmost : twoTo 53 = 2 ^ 53 := rfl
  have hlimit : twoTo 55 = 2 ^ 55 := rfl
  change (4 * b.mantissa + 2) * twoTo (b.exponent - 2).toNat ≤ (twoTo 55 - 6) * twoTo 969
  obtain hlast | hbefore := Int.lt_or_eq_of_le hexponent
  · have hscale : 2 * twoTo (b.exponent - 2).toNat ≤ twoTo 969 := by
      have hpow : twoTo ((b.exponent - 2).toNat + 1) ≤ twoTo 969 :=
        twoTo_le_twoTo (by omega)
      have hdouble : twoTo ((b.exponent - 2).toNat + 1) = 2 * twoTo (b.exponent - 2).toNat := by
        rw [twoTo, twoTo, Nat.mul_comm]
        rfl
      omega
    calc (4 * b.mantissa + 2) * twoTo (b.exponent - 2).toNat
        ≤ (2 * (twoTo 55 - 6)) * twoTo (b.exponent - 2).toNat := by gcongr; omega
      _ = (twoTo 55 - 6) * (2 * twoTo (b.exponent - 2).toNat) := by ring
      _ ≤ (twoTo 55 - 6) * twoTo 969 := by gcongr
  · have hplace : (b.exponent - 2).toNat = 969 := by omega
    rw [hplace]
    gcongr
    omega

theorem shortest_largest : ∀ negative : Bool,
    shortest .toEven ⟨negative, twoTo 53 - 1, 971⟩ = ⟨negative, 17976931348623157, 292⟩ := by
  decide +kernel

theorem isSome_scaled?_largest : (scaled? 17976931348623157 292).isSome = true := by
  decide +kernel

/-- The shortest decimal of a finite float is in the range of floats. -/
theorem isSome_scaled?_shortest {x : Float} (h : x.isFinite = true)
    (hne : (shortest .toEven (.ofFloat x)).digits ≠ 0) :
    (scaled? (shortest .toEven (.ofFloat x)).digits
      (shortest .toEven (.ofFloat x)).exponent).isSome = true := by
  have hmantissa := mantissa_ofFloat_lt x
  have hexponent := exponent_ofFloat_le h
  generalize Binary.ofFloat x = b at hne hmantissa hexponent ⊢
  by_cases hlargest : b.mantissa = twoTo 53 - 1 ∧ b.exponent = 971
  · obtain ⟨negative, mantissa, exponent⟩ := b
    obtain ⟨rfl, rfl⟩ := hlargest
    rw [shortest_largest]
    exact isSome_scaled?_largest
  · have hzero : b.mantissa ≠ 0 := by
      intro hzero
      rw [shortest, if_pos hzero] at hne
      exact hne rfl
    have hfits := fits_shortest .toEven hzero
    refine isSome_scaled? (Nat.pos_of_ne_zero hne) hfits.digits_le fun hsign => ?_
    have hsize := hfits.size_le
    have hdenominator : 0 < (Interval.ofBinary b).denominator := twoTo_pos _
    have hone : (-(shortest .toEven b).exponent).toNat = 0 := by omega
    rw [hone] at hsize
    calc (shortest .toEven b).digits * tenTo (shortest .toEven b).exponent.toNat
        ≤ (shortest .toEven b).digits * (tenTo (shortest .toEven b).exponent.toNat
            * (Interval.ofBinary b).denominator) := by
          gcongr
          exact Nat.le_mul_of_pos_right _ hdenominator
      _ ≤ (Interval.ofBinary b).high * tenTo 0 := hsize
      _ = (Interval.ofBinary b).high := Nat.mul_one _
      _ ≤ sizeLimit := high_le_sizeLimit hmantissa hexponent hlargest

end Catalog.Decimal
