/-!
The double nearest to a quotient of natural numbers, a tie going to the even neighbour.
The work is exact: the quotient is scaled until its integer part has as many bits as a
double keeps, and that part is rounded once.
-/

namespace ServerInventory.Decimal

/-- What the bits of a double count up to within one exponent. -/
def exponentStep : Nat := 0x10000000000000

/-- The bit of a double that stands for its sign. -/
def signBit : Nat := 0x8000000000000000

/-- A quotient rounded to the nearest natural number, a tie going to the even one. -/
def roundQuotient (numerator denominator : Nat) : Nat :=
  let quotient := numerator / denominator
  let remainder := numerator % denominator
  if 2 * remainder < denominator then quotient
  else if denominator < 2 * remainder then quotient + 1
  else quotient + quotient % 2

/-- The bits of the double nearest to a quotient; those of infinity beyond the largest. -/
def nearestBits (numerator denominator : Nat) : Nat :=
  if numerator = 0 then 0
  else
    -- The quotient lies in [2 ^ exponent, 2 ^ (exponent + 2)) for the guess, which is
    -- then corrected by one if need be.
    let guess : Int := (numerator.log2 : Int) - (denominator.log2 : Int) - 1
    let atLeast (exponent : Int) : Bool :=
      denominator * Nat.pow 2 exponent.toNat ≤ numerator * Nat.pow 2 (-exponent).toNat
    let exponent := if atLeast (guess + 1) then guess + 1 else guess
    -- One unit in the last place is 2 ^ unit, and no smaller than 2 ^ (-1074).
    let unit := max (exponent - 52) (-1074)
    let significand :=
      roundQuotient (numerator * Nat.pow 2 (-unit).toNat)
        (denominator * Nat.pow 2 unit.toNat)
    -- Carrying into the next exponent is what the addition does by itself.
    let bits :=
      if significand < exponentStep then significand
      else (unit + 1074).toNat * exponentStep + significand
    min bits (0x7FF * exponentStep)

/-- The double nearest to a quotient; infinity beyond the largest. -/
def nearest (numerator denominator : Nat) : Float :=
  Float.ofBits (UInt64.ofNat (nearestBits numerator denominator))

/-- The double nearest to `digits · 10 ^ exponent`. -/
def nearestDecimal (digits : Nat) (exponent : Int) : Float :=
  nearest (digits * Nat.pow 10 exponent.toNat) (Nat.pow 10 (-exponent).toNat)

end ServerInventory.Decimal
