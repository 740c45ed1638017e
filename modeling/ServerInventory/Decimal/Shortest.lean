import ServerInventory.Decimal.Nearest

/-!
The shortest decimal text of a double: the fewest digits that read back as the same double,
and of those the nearest to it. Everything is decided by exact arithmetic on the doubles
halfway to the two neighbours.
-/

namespace ServerInventory.Decimal

/-- A positive number `digits · 10 ^ exponent`. -/
structure Digits where
  digits : Nat
  exponent : Int
deriving DecidableEq, Repr

/-- The same number with at most `bound` zeros fewer at the end of its digits. -/
def Digits.withoutZeros (number : Digits) : Nat → Digits
  | 0 => number
  | bound + 1 =>
    if number.digits % 10 = 0 then
      withoutZeros ⟨number.digits / 10, number.exponent + 1⟩ bound
    else number

/-- A finite positive double as `significand · 2 ^ exponent`, and whether the double below
it is only half as far away as the one above. -/
structure Dyadic where
  significand : Nat
  exponent : Int
  closeBelow : Bool
deriving DecidableEq, Repr

/-- The number whose bits, without the sign, are given. -/
def Dyadic.ofBits (bits : Nat) : Dyadic :=
  let biased : Nat := bits / exponentStep
  let fraction : Nat := bits % exponentStep
  if biased = 0 then ⟨fraction, -1074, false⟩
  else ⟨exponentStep + fraction, (biased : Int) - 1075, fraction = 0 && 1 < biased⟩

/-- The reals that read back as a double, as quotients over one denominator. -/
structure Interval where
  low : Nat
  value : Nat
  high : Nat
  denominator : Nat
  /-- Whether the two ends belong to the interval. -/
  closed : Bool

/-- The reals nearer to a double than to its neighbours; a tie goes to the double whose
significand is even. -/
def Dyadic.interval (number : Dyadic) : Interval :=
  let scale := Nat.pow 2 (number.exponent - 2).toNat
  let below := if number.closeBelow then 1 else 2
  { low := (4 * number.significand - below) * scale
    value := 4 * number.significand * scale
    high := (4 * number.significand + 2) * scale
    denominator := Nat.pow 2 (2 - number.exponent).toNat
    closed := number.significand % 2 = 0 }

namespace Interval

/-- Whether `digits · 10 ^ exponent` lies in the interval. -/
def contains (interval : Interval) (digits : Nat) (exponent : Int) : Bool :=
  let scaled := digits * Nat.pow 10 exponent.toNat * interval.denominator
  let low := interval.low * Nat.pow 10 (-exponent).toNat
  let high := interval.high * Nat.pow 10 (-exponent).toNat
  if interval.closed then low ≤ scaled && scaled ≤ high else low < scaled && scaled < high

/-- Of the two multiples of `10 ^ exponent` around the value, the nearer one that the
interval contains; of two equally near ones the even. -/
def onGrid? (interval : Interval) (exponent : Int) : Option Digits :=
  let value := interval.value * Nat.pow 10 (-exponent).toNat
  let step := Nat.pow 10 exponent.toNat * interval.denominator
  let below := value / step
  let remainder := value % step
  let preferAbove :=
    if 2 * remainder = step then below % 2 = 1 else step < 2 * remainder
  let candidates := if preferAbove then [below + 1, below] else [below, below + 1]
  (candidates.find? fun digits => interval.contains digits exponent).map (⟨·, exponent⟩)

/-- The greatest `exponent` with `10 ^ exponent` at most the value. -/
def magnitude (interval : Interval) : Int :=
  let atLeast (exponent : Int) : Bool :=
    Nat.pow 10 exponent.toNat * interval.denominator ≤
      interval.value * Nat.pow 10 (-exponent).toNat
  -- A power of two lies between the powers of ten that its logarithm brackets.
  let bits : Int := (interval.value.log2 : Int) - (interval.denominator.log2 : Int)
  let guess : Int := Int.fdiv (bits * 30103) 100000
  let candidates : List Int := [guess + 1, guess, guess - 1]
  (candidates.find? atLeast).getD (guess - 2)

end Interval

/-- The shortest decimal that reads back as the double with the given bits, which stand for
a positive number. Seventeen digits always suffice; only a power of ten just above the
double's own magnitude ends in zeros, which are not counted. -/
def shortest (bits : Nat) : Digits :=
  let interval := (Dyadic.ofBits bits).interval
  let magnitude := interval.magnitude
  let grids : List Int := (List.range 17).map fun (count : Nat) => magnitude - (count : Int)
  ((grids.findSome? interval.onGrid?).getD ⟨0, 0⟩).withoutZeros 17

end ServerInventory.Decimal
