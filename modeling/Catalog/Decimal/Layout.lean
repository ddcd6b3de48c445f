import Catalog.Decimal.Shortest

/-!
Laying out the digits of a decimal: positionally, or with an exponent.
-/

namespace Catalog.Decimal

/-- The digits of a natural number. -/
def digitChars (n : Nat) : List Char :=
  Nat.toDigits 10 n

/-- A whole number with its sign. -/
def intChars (n : Int) : List Char :=
  if n < 0 then '-' :: digitChars n.natAbs else digitChars n.natAbs

/-- The exponent of the first digit, as scientific notation shows it. -/
def leadExponent (d : Decimal) : Int :=
  (digitChars d.digits).length + d.exponent - 1

/-- The sign in front of a number. -/
def sign (d : Decimal) : List Char :=
  if d.negative then ['-'] else []

/-- The number without an exponent, with at least one digit on both sides of the point. -/
def positional (d : Decimal) : List Char :=
  let digits := digitChars d.digits
  let body :=
    if 0 ≤ d.exponent then digits ++ List.replicate d.exponent.toNat '0' ++ ['.', '0']
    else
      let places := (-d.exponent).toNat
      let padded := List.replicate (places + 1 - digits.length) '0' ++ digits
      padded.take (padded.length - places) ++ '.' :: padded.drop (padded.length - places)
  d.sign ++ body

/-- The number with one digit before the point and a signed exponent; a point is left out when no
digit follows it. -/
def scientific (d : Decimal) : List Char :=
  let mantissa :=
    match digitChars d.digits with
    | first :: second :: rest => first :: '.' :: second :: rest
    | digits => digits
  let exponent := d.leadExponent
  let sign := if exponent < 0 then '-' else '+'
  d.sign ++ mantissa ++ 'e' :: sign :: digitChars exponent.natAbs

end Catalog.Decimal
