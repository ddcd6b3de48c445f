import Catalog.Decimal.Binary

/-!
The shortest decimal that reads back as a given float, and among those of its length the nearest.
Where two of them are equally near, the format that the decimal is for decides. All arithmetic is
exact, on natural numbers over a common denominator.
-/

namespace Catalog

/-- The number `digits * 10 ^ exponent`, negated if `negative` holds. -/
structure Decimal where
  negative : Bool
  digits : Nat
  exponent : Int
  deriving DecidableEq, Repr

namespace Decimal

/-- Which of two neighbours on a grid stands for the point halfway between them. -/
inductive Tie
  /-- The one with the even last digit. -/
  | toEven
  /-- The larger one. -/
  | away
  deriving DecidableEq, Repr

/-- Whether the halfway point above a grid point goes down to it. -/
def Tie.goesDown (tie : Tie) (below : Nat) : Bool :=
  match tie with
  | toEven => below % 2 = 0
  | away => false

/-- The reals that read back as one positive float, in units of `1 / denominator`: the float itself,
the ends of its rounding interval, and whether the ends belong to it. -/
structure Interval where
  low : Nat
  value : Nat
  high : Nat
  denominator : Nat
  closed : Bool

/-- The rounding interval of a positive float. Its ends are the midpoints to its neighbours, and
ties go to even mantissas. Quarters of the last place make all of them whole. -/
def Interval.ofBinary (b : Binary) : Interval :=
  let shift := b.exponent - 2
  let scale := twoTo shift.toNat
  let denominator := twoTo (-shift).toNat
  let value := 4 * b.mantissa
  { low := (value - if b.narrowBelow then 1 else 2) * scale
    value := value * scale
    high := (value + 2) * scale
    denominator := denominator
    closed := b.mantissa % 2 = 0 }

/-- How many decimal digits a natural number has; none for zero. -/
def digitCount (n : Nat) : Nat :=
  if n = 0 then 0 else (Nat.toDigits 10 n).length

/-- The place of the decimal point: the least `p` with `value < 10 ^ p`. -/
def Interval.point (i : Interval) : Int :=
  if i.denominator ≤ i.value then digitCount (i.value / i.denominator)
  else
    let ratio := (i.denominator + i.value - 1) / i.value
    1 - (digitCount (ratio - 1) : Int)

/-- Whether `candidate / (denominator * unit)` lies in the interval. -/
def Interval.holds (i : Interval) (candidate unit : Nat) : Bool :=
  if i.closed then i.low * unit ≤ candidate && candidate ≤ i.high * unit
  else i.low * unit < candidate && candidate < i.high * unit

/-- The point of the grid `10 ^ exponent` that lies in the interval nearest to its value, if one of
the two grid points around the value does. -/
def Interval.onGrid? (tie : Tie) (i : Interval) (exponent : Int) : Option Nat :=
  let up := tenTo exponent.toNat
  let down := tenTo (-exponent).toNat
  let step := up * i.denominator
  let value := i.value * down
  let below := value / step
  let above := below + 1
  match i.holds (below * step) down, i.holds (above * step) down with
  | true, true =>
    let toBelow := value - below * step
    let toAbove := above * step - value
    if toBelow < toAbove || (toBelow = toAbove && tie.goesDown below) then some below
    else some above
  | true, false => some below
  | false, true => some above
  | false, false => none

/-- Moves trailing zeros of the digits into the exponent. -/
def stripZeros : Nat → Decimal → Decimal
  | 0, d => d
  | fuel + 1, d =>
    if d.digits % 10 = 0 && d.digits ≠ 0 then
      stripZeros fuel { d with digits := d.digits / 10, exponent := d.exponent + 1 }
    else d

/-- The shortest decimal of a finite float. Seventeen digits always suffice. -/
def shortest (tie : Tie) (b : Binary) : Decimal :=
  if b.mantissa = 0 then ⟨b.negative, 0, 0⟩
  else
    let i := Interval.ofBinary b
    let found := (List.range 17).findSome? fun (places : Nat) =>
      let exponent := i.point - (places + 1)
      (i.onGrid? tie exponent).map fun digits => (⟨b.negative, digits, exponent⟩ : Decimal)
    stripZeros 20 (found.getD ⟨b.negative, 0, 0⟩)

end Decimal

end Catalog
