import Catalog.Decimal.Reading
import Mathlib

/-!
Rounding does not pass a number that a float can hold. So a product of floats is finite if the product of
bounds for them is within the range.
-/

namespace Catalog.Decimal

open Float.Model (Format totalExponent)
open Float.Model.UnpackedFloat

/-! ### Rounding a mantissa -/

theorem shiftRight_succ (em : ExtendedMantissa) (n : Nat) : em >>> (n + 1) = (em >>> n).shiftRightOne :=
  rfl

theorem mantissa_shiftRight (em : ExtendedMantissa) (n : Nat) :
    (em >>> n).mantissa = em.mantissa / 2 ^ n := by
  induction n with
  | zero => simp [HShiftRight.hShiftRight, Nat.repeat]
  | succ n ih =>
    rw [shiftRight_succ, ExtendedMantissa.shiftRightOne, ih, Nat.div_div_eq_div_mul, Nat.pow_succ]

/-- No bit is lost where the digits that go are zeros. -/
theorem shiftRight_of_dvd {m n : Nat} (h : 2 ^ n ∣ m) :
    ExtendedMantissa.mk m false false >>> n = ⟨m / 2 ^ n, false, false⟩ := by
  induction n with
  | zero => simp [HShiftRight.hShiftRight, Nat.repeat]
  | succ n ih =>
    have hfew : 2 ^ n ∣ m := (Nat.pow_dvd_pow 2 n.le_succ).trans h
    have heven : m / 2 ^ n % 2 = 0 := by
      rw [← Nat.dvd_iff_mod_eq_zero]
      exact Nat.dvd_div_of_mul_dvd (by rwa [Nat.pow_succ] at h)
    rw [shiftRight_succ, ih hfew, ExtendedMantissa.shiftRightOne]
    simp [heven, Nat.div_div_eq_div_mul, Nat.pow_succ]

theorem roundedMantissa_bounds (em : ExtendedMantissa) :
    em.mantissa ≤ em.roundedMantissa ∧ em.roundedMantissa ≤ em.mantissa + 1 := by
  obtain ⟨m, round, sticky⟩ := em
  cases round <;> cases sticky <;>
    simp [ExtendedMantissa.roundedMantissa, ExtendedMantissa.accuracy, Accuracy.roundToNearestEven]
  omega

/-- A whole bound stays a bound when the mantissa is shifted and rounded. -/
theorem roundedMantissa_le {m n bound : Nat} (h : m ≤ bound * 2 ^ n) :
    (ExtendedMantissa.mk m false false >>> n).roundedMantissa ≤ bound := by
  by_cases hdvd : 2 ^ n ∣ m
  · rw [shiftRight_of_dvd hdvd]
    exact (Nat.div_le_iff_le_mul_add_pred (Nat.two_pow_pos n)).2 (by rw [Nat.mul_comm]; omega)
  · have hlt : m < bound * 2 ^ n :=
      lt_of_le_of_ne h fun heq => hdvd ⟨bound, by rw [heq, Nat.mul_comm]⟩
    have hfloor : m / 2 ^ n < bound := (Nat.div_lt_iff_lt_mul (Nat.two_pow_pos n)).2 hlt
    have hround := (roundedMantissa_bounds (ExtendedMantissa.mk m false false >>> n)).2
    rw [mantissa_shiftRight] at hround
    exact hround.trans hfloor

/-! ### Rounding a number -/

/-- The mantissas of the floats with a hidden leading bit. -/
def FullMantissa (m : Nat) : Prop :=
  2 ^ 52 ≤ m ∧ m < 2 ^ 53

theorem FullMantissa.log2 {m : Nat} (h : FullMantissa m) : m.log2 = 52 :=
  (Nat.log2_eq_iff (by have := h.1; omega)).2 h

/-- The surplus bits of a mantissa are shifted out. -/
theorem shiftToTargetExponent_eq {m : Nat} {e : Int} (hm : 52 ≤ m.log2) (he : -1074 ≤ e) :
    shiftToTargetExponent Format.binary64 m e .exact
      = (ExtendedMantissa.mk m false false >>> (m.log2 - 52), e + (m.log2 - 52 : Nat)) := by
  have hshift : (Format.binary64.targetExponent (totalExponent m e) - e).toNat = m.log2 - 52 := by
    simp only [Format.targetExponent, totalExponent, Format.mantissaBits, Format.minExponent]
    omega
  rw [shiftToTargetExponent, shiftToExponent, hshift]
  rfl

/-- A mantissa is shifted and rounded, and shifted once more if that gave it another bit. -/
theorem exists_roundWithAccuracy {m : Nat} {e : Int} (hm : 2 ^ 52 ≤ m) (he : -1074 ≤ e)
    (sign : Sign) : ∃ (m' n : Nat) (h : 0 < m'),
      roundWithAccuracy Format.binary64 sign m e .exact = .finite sign m' (e + n) h
      ∧ FullMantissa m' ∧ 2 ^ 52 * 2 ^ (m.log2 - 52) ≤ m
      ∧ m' * 2 ^ n
        = (ExtendedMantissa.mk m false false >>> (m.log2 - 52)).roundedMantissa
          * 2 ^ (m.log2 - 52) := by
  have hne : m ≠ 0 := by omega
  have hlog : 52 ≤ m.log2 := (Nat.le_log2 hne).2 hm
  have hpow : 2 ^ 52 * 2 ^ (m.log2 - 52) = 2 ^ m.log2 := by
    rw [← Nat.pow_add]
    congr 1
    omega
  have hleast : 2 ^ 52 * 2 ^ (m.log2 - 52) ≤ m := hpow ▸ Nat.log2_self_le hne
  have hmost : m < 2 ^ 53 * 2 ^ (m.log2 - 52) := by
    have := Nat.lt_log2_self (n := m)
    omega
  obtain ⟨hbelow, -⟩ := roundedMantissa_bounds
    (ExtendedMantissa.mk m false false >>> (m.log2 - 52))
  have habove : (ExtendedMantissa.mk m false false >>> (m.log2 - 52)).roundedMantissa ≤ 2 ^ 53 :=
    roundedMantissa_le hmost.le
  rw [mantissa_shiftRight] at hbelow
  have hfull := (Nat.le_div_iff_mul_le (Nat.two_pow_pos _)).2 hleast |>.trans hbelow
  rw [roundWithAccuracy, shiftToTargetExponent_eq hlog he]
  dsimp only
  generalize (ExtendedMantissa.mk m false false >>> (m.log2 - 52)).roundedMantissa = rounded at *
  have hne' : rounded ≠ 0 := by omega
  have hlog' : 52 ≤ rounded.log2 := (Nat.le_log2 hne').2 hfull
  rw [shiftToTargetExponent_eq hlog' (by omega)]
  obtain hlt | rfl := Nat.lt_or_eq_of_le habove
  · have hsame : rounded.log2 - 52 = 0 := by rw [FullMantissa.log2 ⟨hfull, hlt⟩]
    refine ⟨rounded, m.log2 - 52, Nat.pos_of_ne_zero hne', ?_, ⟨hfull, hlt⟩, hleast, rfl⟩
    simp [hsame, mantissa_shiftRight, hne']
  · have hone : (2 ^ 53).log2 - 52 = 1 := by rw [Nat.log2_two_pow]
    refine ⟨2 ^ 52, m.log2 - 52 + 1, by decide, ?_, ⟨le_rfl, by decide⟩, hleast, by ring⟩
    rw [hone]
    simp [mantissa_shiftRight, add_assoc]

/-- A number that a mantissa has room for. -/
def Representable (bound : ℚ) : Prop :=
  ∃ (k : Nat) (j : Int), k < 2 ^ 53 ∧ bound = k * 2 ^ j

/-- A positive float with a hidden leading bit, whose exponent and whose size are within bounds. -/
def Within (least : Int) (bound : ℚ) (x : Float.Model.UnpackedFloat) : Prop :=
  ∃ (m : Nat) (e : Int) (h : 0 < m),
    x = .finite .positive m e h ∧ FullMantissa m ∧ least ≤ e ∧ (m : ℚ) * 2 ^ e ≤ bound

theorem zpow_two_add (e : Int) (n : Nat) : (2 : ℚ) ^ (e + (n : Int)) = 2 ^ e * 2 ^ n := by
  rw [zpow_add₀ two_ne_zero, zpow_natCast]

/-- A bound with room in a mantissa has no digits behind those that a longer mantissa keeps. -/
theorem exists_place {m k s : Nat} {e j : Int} (hk : k < 2 ^ 53) (hleast : 2 ^ 52 * 2 ^ s ≤ m)
    (h : (m : ℚ) * 2 ^ e ≤ k * 2 ^ j) : ∃ d : Nat, j = e + s + d ∧ m ≤ k * 2 ^ d * 2 ^ s := by
  have hscale : (0 : ℚ) < 2 ^ e := zpow_pos two_pos e
  have hplace : e + s ≤ j := by
    by_contra hlt
    have hcast : (k : ℚ) < 2 ^ 53 := by exact_mod_cast hk
    have hlow : (2 : ℚ) ^ 52 * 2 ^ s ≤ m := by exact_mod_cast hleast
    have hjump : (2 : ℚ) ^ (j + 1) ≤ 2 ^ e * 2 ^ s := by
      rw [← zpow_two_add]
      exact zpow_le_zpow_right₀ one_le_two (by omega)
    have hfalse : (m : ℚ) * 2 ^ e < m * 2 ^ e := calc
      (m : ℚ) * 2 ^ e ≤ k * 2 ^ j := h
      _ < 2 ^ 53 * 2 ^ j := by gcongr
      _ = 2 ^ 52 * 2 ^ (j + 1) := by rw [zpow_add_one₀ two_ne_zero]; ring
      _ ≤ 2 ^ 52 * (2 ^ e * 2 ^ s) := by gcongr
      _ = 2 ^ 52 * 2 ^ s * 2 ^ e := by ring
      _ ≤ m * 2 ^ e := by gcongr
    exact lt_irrefl _ hfalse
  obtain ⟨d, hd⟩ := Int.eq_ofNat_of_zero_le (sub_nonneg.2 hplace)
  have hj : j = e + s + d := by omega
  refine ⟨d, hj, ?_⟩
  rw [hj, zpow_two_add, zpow_two_add] at h
  have hwhole : (m : ℚ) * 2 ^ e ≤ k * 2 ^ d * 2 ^ s * 2 ^ e := by
    calc (m : ℚ) * 2 ^ e ≤ k * (2 ^ e * 2 ^ s * 2 ^ d) := h
      _ = k * 2 ^ d * 2 ^ s * 2 ^ e := by ring
  exact_mod_cast le_of_mul_le_mul_right hwhole hscale

/-- Rounding does not pass a number that a mantissa has room for. -/
theorem within_round {m : Nat} {e : Int} {bound : ℚ} (hm : 2 ^ 52 ≤ m) (he : -1074 ≤ e)
    (hbound : Representable bound) (h : (m : ℚ) * 2 ^ e ≤ bound) :
    Within e bound (roundWithAccuracy Format.binary64 .positive m e .exact) := by
  obtain ⟨k, j, hk, rfl⟩ := hbound
  obtain ⟨m', n, hpos, hround, hfull, hleast, hvalue⟩ := exists_roundWithAccuracy hm he .positive
  refine ⟨m', e + n, hpos, hround, hfull, by omega, ?_⟩
  generalize m.log2 - 52 = s at hleast hvalue
  obtain ⟨d, rfl, hwhole⟩ := exists_place hk hleast h
  have hle : m' * 2 ^ n ≤ k * 2 ^ d * 2 ^ s := by
    rw [hvalue]
    exact Nat.mul_le_mul_right _ (roundedMantissa_le hwhole)
  calc (m' : ℚ) * 2 ^ (e + (n : Int)) = (m' * 2 ^ n : Nat) * 2 ^ e := by
        rw [zpow_two_add]
        push_cast
        ring
    _ ≤ (k * 2 ^ d * 2 ^ s : Nat) * 2 ^ e := by gcongr
    _ = k * 2 ^ (e + s + d) := by
        rw [zpow_two_add, zpow_two_add]
        push_cast
        ring

/-! ### Floats in memory -/

theorem unpackSign_packComponents {spec : Format} {sign : Sign} {exponent : BitVec spec.exponentBits}
    {mantissa : BitVec spec.mantissaBitsWithoutImplicit} :
    unpackSign (packComponents spec sign exponent mantissa) = sign.toBitVec := by
  ext i hi
  obtain rfl : i = 0 := by omega
  simp [unpackSign, packComponents, BitVec.getLsbD_append, BitVec.getElem_append]

/-- The leading bit of a full mantissa need not be kept. -/
theorem toNat_hidden_append {m : Nat} (h : FullMantissa m) : (1#1 ++ BitVec.ofNat 52 m).toNat = m := by
  obtain ⟨hleast, hmost⟩ := h
  rw [BitVec.toNat_append, ← Nat.shiftLeft_add_eq_or_of_lt (BitVec.isLt _), BitVec.toNat_ofNat]
  simp only [BitVec.toNat_ofNat, Nat.shiftLeft_eq]
  omega

/-- The largest float. -/
def largest : ℚ :=
  (2 ^ 53 - 1) * 2 ^ (971 : Int)

/-- The exponent of a full mantissa that is in the range of floats. -/
theorem exponent_le {m : Nat} {e : Int} (hm : FullMantissa m) (h : (m : ℚ) * 2 ^ e ≤ largest) :
    e ≤ 971 := by
  by_contra hlt
  have hleast : (2 : ℚ) ^ 52 ≤ m := by exact_mod_cast hm.1
  have hjump : (2 : ℚ) * 2 ^ (971 : Int) ≤ 2 ^ e := by
    rw [← zpow_one_add₀ two_ne_zero]
    exact zpow_le_zpow_right₀ one_le_two (by omega)
  have hfalse : (2 : ℚ) ^ 53 * 2 ^ (971 : Int) ≤ (2 ^ 53 - 1) * 2 ^ (971 : Int) := calc
    (2 : ℚ) ^ 53 * 2 ^ (971 : Int) = 2 ^ 52 * (2 * 2 ^ (971 : Int)) := by ring
    _ ≤ (m : ℚ) * 2 ^ e := by gcongr
    _ ≤ _ := h
  have hpos : (0 : ℚ) < 2 ^ (971 : Int) := zpow_pos two_pos _
  have := le_of_mul_le_mul_right hfalse hpos
  norm_num at this

/-- A float that is in range comes out of memory as it went in. -/
theorem unpack_pack {m : Nat} {e : Int} (hm : FullMantissa m) (hleast : -1074 ≤ e)
    (hmost : e ≤ 971) (hpos : 0 < m) :
    (Float.Model.pack (.finite .positive m e hpos)).unpack = .finite .positive m e hpos := by
  have hbiased : (e + 1075).toNat < 2 ^ 11 - 1 ∧ 0 < (e + 1075).toNat := by omega
  have hexponent : (BitVec.ofNat 11 (e + 1075).toNat).toNat = (e + 1075).toNat := by
    rw [BitVec.toNat_ofNat, Nat.mod_eq_of_lt (by omega)]
  have hzero : BitVec.ofNat 11 (e + 1075).toNat ≠ 0#11 := by
    intro h
    rw [← BitVec.toNat_inj, hexponent] at h
    simp at h
    omega
  have hones : BitVec.ofNat 11 (e + 1075).toNat ≠ -1#11 := by
    intro h
    rw [← BitVec.toNat_inj, hexponent] at h
    have htop : (-1#11).toNat = 2 ^ 11 - 1 := rfl
    omega
  have hpack : pack Format.binary64 (.finite .positive m e hpos)
      = packComponents Format.binary64 .positive (BitVec.ofNat 11 (e + 1075).toNat)
          (BitVec.ofNat 52 m) := by
    have hbias : (e + Format.binary64.exponentBias + (52 : Nat)).toNat = (e + 1075).toNat := by
      have : (Format.binary64.exponentBias : Int) = 1023 := rfl
      omega
    rw [pack, hbias, if_neg (by simp; omega), hm.log2]
    exact if_pos rfl
  rw [Float.Model.unpack, Float.Model.pack, UInt64.toBitVec_ofBitVec, hpack, unpack]
  simp only [unpackMantissa_packComponents, unpackExponent_packComponents, unpackSign_packComponents,
    hzero, hones, if_false, hexponent, toNat_hidden_append hm]
  have hexp : ((e + 1075).toNat : Int) - (Format.binary64.exponentBias + (52 : Nat)) = e := by
    have : (Format.binary64.exponentBias : Int) = 1023 := rfl
    omega
  rw [hexp]
  rfl

/-! ### Products -/

theorem Within.mono {least least' : Int} {bound : ℚ} {x : Float.Model.UnpackedFloat}
    (h : Within least bound x) (hle : least' ≤ least) : Within least' bound x := by
  obtain ⟨m, e, hpos, hx, hm, hleast, hvalue⟩ := h
  exact ⟨m, e, hpos, hx, hm, hle.trans hleast, hvalue⟩

theorem Within.unpack_pack {least : Int} {bound : ℚ} {x : Float.Model.UnpackedFloat}
    (h : Within least bound x) (hleast : -1074 ≤ least) (hbound : bound ≤ largest) :
    (Float.Model.pack x).unpack = x := by
  obtain ⟨m, e, hpos, rfl, hm, he, hvalue⟩ := h
  exact Decimal.unpack_pack hm (hleast.trans he) (exponent_le hm (hvalue.trans hbound)) hpos

theorem Within.mul {least₁ least₂ : Int} {bound₁ bound₂ bound : ℚ}
    {x y : Float.Model.UnpackedFloat} (hx : Within least₁ bound₁ x) (hy : Within least₂ bound₂ y)
    (hleast : -1074 ≤ least₁ + least₂) (hbound : Representable bound)
    (h : bound₁ * bound₂ ≤ bound) :
    Within (least₁ + least₂) bound (Float.Model.UnpackedFloat.mul Format.binary64 x y) := by
  obtain ⟨m₁, e₁, -, rfl, hm₁, he₁, hvalue₁⟩ := hx
  obtain ⟨m₂, e₂, hpos₂, rfl, hm₂, he₂, hvalue₂⟩ := hy
  have hproduct : ((m₁ * m₂ : Nat) : ℚ) * 2 ^ (e₁ + e₂) ≤ bound := by
    have hsplit : ((m₁ * m₂ : Nat) : ℚ) * 2 ^ (e₁ + e₂) = m₁ * 2 ^ e₁ * (m₂ * 2 ^ e₂) := by
      rw [zpow_add₀ two_ne_zero]
      push_cast
      ring
    rw [hsplit]
    refine le_trans (mul_le_mul hvalue₁ hvalue₂ (by positivity) ?_) h
    exact le_trans (by positivity) hvalue₁
  exact (within_round (hm₁.1.trans (Nat.le_mul_of_pos_right _ hpos₂)) (by omega) hbound
    hproduct).mono (by omega)

theorem within_mul {least₁ least₂ : Int} {bound₁ bound₂ bound : ℚ} {x y : Float}
    (hx : Within least₁ bound₁ x.toModel.unpack) (hy : Within least₂ bound₂ y.toModel.unpack)
    (hleast : -1074 ≤ least₁ + least₂) (hbound : Representable bound) (hlargest : bound ≤ largest)
    (h : bound₁ * bound₂ ≤ bound) : Within (least₁ + least₂) bound (x * y).toModel.unpack := by
  have hmul := hx.mul hy hleast hbound h
  have hmodel : (x * y).toModel.unpack = _ := hmul.unpack_pack hleast hlargest
  rwa [hmodel]

theorem isInf_of_within {least : Int} {bound : ℚ} {x : Float}
    (h : Within least bound x.toModel.unpack) : x.isInf = false := by
  obtain ⟨m, e, hpos, hx, -⟩ := h
  rw [Float.isInf, Float.Model.isInf, hx]
  rfl

end Catalog.Decimal
