import Catalog.Decimal.Shortest
import Mathlib

/-!
The shortest decimal of a float has at most seventeen digits or is the power of ten behind them, and
its size is not above the rounding interval of the float.
-/

namespace Catalog.Decimal

/-! ### Powers of ten -/

theorem tenTo_pos (n : Nat) : 0 < tenTo n :=
  Nat.pow_pos (by decide)

theorem tenTo_add (n m : Nat) : tenTo (n + m) = tenTo n * tenTo m :=
  Nat.pow_add 10 n m

theorem tenTo_le_tenTo {n m : Nat} (h : n ≤ m) : tenTo n ≤ tenTo m :=
  Nat.pow_le_pow_right (by decide) h

theorem twoTo_pos (n : Nat) : 0 < twoTo n :=
  Nat.two_pow_pos n

theorem twoTo_le_twoTo {n m : Nat} (h : n ≤ m) : twoTo n ≤ twoTo m :=
  Nat.pow_le_pow_right (by decide) h

theorem lt_tenTo_digitCount (n : Nat) : n < tenTo (digitCount n) := by
  rw [digitCount]
  split
  · rename_i hzero
    rw [hzero]
    exact tenTo_pos 0
  · exact (Nat.length_toDigits_le_iff (by decide) Nat.length_toDigits_pos).1 le_rfl

theorem tenTo_digitCount_le {n : Nat} (h : 0 < n) : tenTo (digitCount n - 1) ≤ n := by
  rw [digitCount, if_neg h.ne']
  obtain hone | hmore : (Nat.toDigits 10 n).length = 1 ∨ 1 < (Nat.toDigits 10 n).length := by
    have := Nat.length_toDigits_pos (b := 10) (n := n)
    omega
  · rw [hone]
    exact h
  · by_contra hlt
    have := (Nat.length_toDigits_le_iff (b := 10) (n := n) (by decide)
      (Nat.sub_pos_of_lt hmore)).2 (Nat.lt_of_not_le hlt)
    omega

/-! ### The place of the point -/

/-- The value is below the power of ten at the point. -/
theorem value_lt_point {i : Interval} (hvalue : 0 < i.value) (hdenominator : 0 < i.denominator) :
    i.value * tenTo (-i.point).toNat < tenTo i.point.toNat * i.denominator := by
  unfold Interval.point
  split
  · have hlt := lt_tenTo_digitCount (i.value / i.denominator)
    rw [Nat.div_lt_iff_lt_mul hdenominator] at hlt
    have hzero : (-(digitCount (i.value / i.denominator) : Int)).toNat = 0 := by omega
    rw [hzero, Int.toNat_natCast]
    simpa [tenTo] using hlt
  · rename_i hsmall
    generalize hratio : (i.denominator + i.value - 1) / i.value = ratio
    have hmost : (ratio - 1) * i.value < i.denominator := by
      have hmul : ratio * i.value ≤ i.denominator + i.value - 1 :=
        hratio ▸ Nat.div_mul_le_self _ _
      rw [Nat.sub_mul]
      omega
    have hpos : 0 < ratio - 1 := by
      have htwo : 2 ≤ ratio := by
        rw [← hratio, Nat.le_div_iff_mul_le hvalue]
        omega
      omega
    have hcount : 0 < digitCount (ratio - 1) := by
      rw [digitCount, if_neg hpos.ne']
      exact Nat.length_toDigits_pos
    have hlow := tenTo_digitCount_le hpos
    have hplaces : (-(1 - (digitCount (ratio - 1) : Int))).toNat = digitCount (ratio - 1) - 1 := by
      omega
    have hzero : (1 - (digitCount (ratio - 1) : Int)).toNat = 0 := by omega
    rw [hplaces, hzero]
    calc i.value * tenTo (digitCount (ratio - 1) - 1) ≤ i.value * (ratio - 1) := by gcongr
      _ = (ratio - 1) * i.value := Nat.mul_comm _ _
      _ < i.denominator := hmost
      _ = tenTo 0 * i.denominator := by simp [tenTo]

/-- A grid of a few places below the point has few points up to the value. -/
theorem value_div_lt {i : Interval} (hvalue : 0 < i.value) (hdenominator : 0 < i.denominator)
    (places : Nat) : i.value * tenTo (-(i.point - places)).toNat
      / (tenTo (i.point - places).toNat * i.denominator) < tenTo places := by
  have hpoint := value_lt_point hvalue hdenominator
  rw [Nat.div_lt_iff_lt_mul (Nat.mul_pos (tenTo_pos _) hdenominator)]
  have hplaces : places + (i.point - places).toNat + (-i.point).toNat
      = i.point.toNat + (-(i.point - places)).toNat := by omega
  refine Nat.lt_of_mul_lt_mul_right (a := tenTo (-i.point).toNat) ?_
  calc i.value * tenTo (-(i.point - places)).toNat * tenTo (-i.point).toNat
      = i.value * tenTo (-i.point).toNat * tenTo (-(i.point - places)).toNat := by ring
    _ < tenTo i.point.toNat * i.denominator * tenTo (-(i.point - places)).toNat :=
        Nat.mul_lt_mul_of_pos_right hpoint (tenTo_pos _)
    _ = tenTo (places + (i.point - places).toNat + (-i.point).toNat) * i.denominator := by
        rw [hplaces, tenTo_add]
        ring
    _ = tenTo places * (tenTo (i.point - places).toNat * i.denominator)
          * tenTo (-i.point).toNat := by
        rw [tenTo_add, tenTo_add]
        ring

/-! ### Points of a grid -/

/-- A point that is found lies in the interval, and next to the value or at it. -/
theorem onGrid?_eq_some {tie : Tie} {i : Interval} {exponent : Int} {digits : Nat}
    (h : i.onGrid? tie exponent = some digits) :
    i.holds (digits * (tenTo exponent.toNat * i.denominator)) (tenTo (-exponent).toNat) = true
      ∧ digits ≤ i.value * tenTo (-exponent).toNat / (tenTo exponent.toNat * i.denominator) + 1 := by
  unfold Interval.onGrid? at h
  dsimp only at h
  split at h
  · rename_i hbelow habove
    split at h
    · cases h
      exact ⟨hbelow, Nat.le_succ _⟩
    · cases h
      exact ⟨habove, le_rfl⟩
  · rename_i hbelow _
    cases h
    exact ⟨hbelow, Nat.le_succ _⟩
  · rename_i _ habove
    cases h
    exact ⟨habove, le_rfl⟩
  · cases h

theorem holds_bounds {i : Interval} {candidate unit : Nat} (h : i.holds candidate unit = true) :
    i.low * unit ≤ candidate ∧ candidate ≤ i.high * unit := by
  unfold Interval.holds at h
  split at h
  · simpa using h
  · simp only [Bool.and_eq_true, decide_eq_true_eq] at h
    exact ⟨h.1.le, h.2.le⟩

/-- A decimal that is not above an interval, and of no more than seventeen digits or the least number
with more. Zero has no exponent. -/
structure Fits (i : Interval) (d : Decimal) : Prop where
  zero : d.digits = 0 → d.exponent = 0
  digits_le : d.digits ≤ tenTo 17
  size_le : d.digits * (tenTo d.exponent.toNat * i.denominator) ≤ i.high * tenTo (-d.exponent).toNat

theorem fits_zero (i : Interval) (negative : Bool) : Fits i ⟨negative, 0, 0⟩ :=
  ⟨fun _ => rfl, Nat.zero_le _, by simp⟩

theorem fits_of_onGrid? {tie : Tie} {i : Interval} {digits : Nat} (places : Nat) (hlow : 0 < i.low)
    (hvalue : 0 < i.value) (hdenominator : 0 < i.denominator) (hplaces : places ≤ 17)
    (h : i.onGrid? tie (i.point - places) = some digits) (negative : Bool) :
    Fits i ⟨negative, digits, i.point - places⟩ := by
  obtain ⟨hholds, hdigits⟩ := onGrid?_eq_some h
  obtain ⟨hleast, hmost⟩ := holds_bounds hholds
  refine ⟨fun hzero => ?_, ?_, hmost⟩
  · have hpos : 0 < i.low * tenTo (-(i.point - places)).toNat := Nat.mul_pos hlow (tenTo_pos _)
    rw [show digits = 0 from hzero, Nat.zero_mul] at hleast
    omega
  · exact (hdigits.trans (value_div_lt hvalue hdenominator places)).trans (tenTo_le_tenTo hplaces)

/-- Trailing zeros that are moved into the exponent change neither size nor fit. -/
theorem Fits.stripZeros {i : Interval} (fuel : Nat) {d : Decimal} (h : Fits i d) :
    Fits i (stripZeros fuel d) := by
  induction fuel generalizing d with
  | zero => exact h
  | succ fuel ih =>
    rw [Decimal.stripZeros]
    split
    · rename_i hzeros
      simp only [Bool.and_eq_true, decide_eq_true_eq] at hzeros
      obtain ⟨hlast, hne⟩ := hzeros
      have hten : d.digits = 10 * (d.digits / 10) := by omega
      refine ih ⟨fun hzero => absurd hzero (by dsimp only; omega),
        (Nat.div_le_self _ _).trans h.digits_le, ?_⟩
      have hsize := h.size_le
      rw [hten] at hsize
      dsimp only
      obtain hneg | hnonneg := Int.lt_or_le d.exponent 0
      · have hzero : d.exponent.toNat = 0 ∧ (d.exponent + 1).toNat = 0 := by omega
        have hplaces : (-d.exponent).toNat = (-(d.exponent + 1)).toNat + 1 := by omega
        rw [hzero.1, hplaces, tenTo_add] at hsize
        rw [hzero.2]
        have hone : tenTo 1 = 10 := rfl
        rw [hone] at hsize
        refine Nat.le_of_mul_le_mul_left (?_ : 10 * _ ≤ 10 * _) (by decide)
        linarith
      · have hzero : (-d.exponent).toNat = 0 ∧ (-(d.exponent + 1)).toNat = 0 := by omega
        have hplaces : (d.exponent + 1).toNat = d.exponent.toNat + 1 := by omega
        have hone : tenTo 1 = 10 := rfl
        rw [hzero.1] at hsize
        rw [hzero.2, hplaces, tenTo_add, hone]
        linarith
    · exact h

/-! ### Floats -/

/-- The shortest decimal of a float fits its rounding interval. -/
theorem fits_shortest (tie : Tie) {b : Binary} (h : b.mantissa ≠ 0) :
    Fits (Interval.ofBinary b) (shortest tie b) := by
  have hscale : 0 < twoTo (b.exponent - 2).toNat := twoTo_pos _
  have hlow : 0 < (Interval.ofBinary b).low := by
    refine Nat.mul_pos ?_ hscale
    split <;> omega
  have hvalue : 0 < (Interval.ofBinary b).value := Nat.mul_pos (by omega) hscale
  have hdenominator : 0 < (Interval.ofBinary b).denominator := twoTo_pos _
  rw [shortest, if_neg h]
  dsimp only
  refine Fits.stripZeros 20 ?_
  cases hfound : (List.range 17).findSome? fun (places : Nat) =>
      ((Interval.ofBinary b).onGrid? tie ((Interval.ofBinary b).point - (places + 1))).map
        fun digits => (⟨b.negative, digits, (Interval.ofBinary b).point - (places + 1)⟩ : Decimal) with
  | none => exact fits_zero _ _
  | some d =>
    obtain ⟨places, hplaces, hd⟩ := List.exists_of_findSome?_eq_some hfound
    rw [List.mem_range] at hplaces
    obtain ⟨digits, hdigits, rfl⟩ := Option.map_eq_some_iff.1 hd
    exact fits_of_onGrid? (places + 1) hlow hvalue hdenominator (by omega) hdigits _

theorem exists_fits_shortest (tie : Tie) (b : Binary) : ∃ i, Fits i (shortest tie b) := by
  by_cases h : b.mantissa = 0
  · rw [shortest, if_pos h]
    exact ⟨.ofBinary b, fits_zero _ _⟩
  · exact ⟨_, fits_shortest tie h⟩

end Catalog.Decimal
