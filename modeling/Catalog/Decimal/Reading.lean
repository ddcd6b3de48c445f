import Catalog.Decimal.Binary

/-!
Decimals as floats: rounded correctly, or through one multiplication or division by a power of ten,
which is quicker and may miss the nearest float by a place.
-/

namespace Catalog.Decimal

/-- The float nearest to `digits * 10 ^ exponent`. Exponents so large or small that the result is
infinite or zero are settled without computing the power. -/
def nearest (digits : Nat) (exponent : Int) : Float :=
  let lead := (Nat.toDigits 10 digits).length + exponent
  if digits = 0 || lead < -400 then 0
  else if 400 < lead then 1 / 0
  else Float.ofScientific digits (exponent < 0) exponent.natAbs

/-- The float of a power of ten that has one. -/
def powerOfTen (exponent : Nat) : Float :=
  Float.ofScientific 1 false exponent

/-- Divides by ten to the given power, at most 308 places at a time. -/
def shiftDown (x : Float) (places : Nat) : Float :=
  if places ≤ 308 then x / powerOfTen places
  else if x == 0 then x
  else shiftDown (x / powerOfTen 308) (places - 308)
termination_by places

/-- The float of `digits`, scaled by `10 ^ exponent`; nothing if it is out of range. -/
def scaled? (digits : Nat) (exponent : Int) : Option Float :=
  let x := Float.ofNat digits
  if exponent < 0 then some (shiftDown x exponent.natAbs)
  else if exponent ≤ 308 then
    let scaled := x * powerOfTen exponent.toNat
    if scaled.isInf then none else some scaled
  else if x == 0 then some x
  else none

end Catalog.Decimal
