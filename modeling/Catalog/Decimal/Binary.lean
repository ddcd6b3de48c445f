/-!
The number a 64-bit float stands for, as a sign, a natural number and a power of two.
-/

namespace Catalog.Decimal

/-- A power of two. -/
def twoTo (n : Nat) : Nat :=
  Nat.pow 2 n

/-- A power of ten. -/
def tenTo (n : Nat) : Nat :=
  Nat.pow 10 n

/-- A finite float: `mantissa * 2 ^ exponent`, negated if `negative` holds. -/
structure Binary where
  negative : Bool
  mantissa : Nat
  exponent : Int
  deriving DecidableEq, Repr

/-- The parts of the bits of a finite float. A zero field of exponent bits marks the numbers without
a hidden leading bit. -/
def Binary.ofBits (bits : UInt64) : Binary :=
  let n := bits.toNat
  let field := n / twoTo 52 % twoTo 11
  let fraction := n % twoTo 52
  { negative := twoTo 63 ≤ n
    mantissa := if field = 0 then fraction else fraction + twoTo 52
    exponent := (if field = 0 then 1 else field : Nat) - 1075 }

/-- The parts of a finite float. -/
def Binary.ofFloat (x : Float) : Binary :=
  .ofBits x.toBits

/-- Whether the next float below is only half as far away as the next one above. -/
def Binary.narrowBelow (b : Binary) : Bool :=
  b.mantissa = twoTo 52 && -1074 < b.exponent

end Catalog.Decimal
