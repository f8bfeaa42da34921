import VirtualTables.Decimal.Binary64

/-!
The fewest decimal digits that read back as a given number.

Every finite number stands for the interval of reals that round to it, with its ends when the last
bit is even. `Decimal.shortest` takes the coarsest decimal grid with a point in that interval; if
a point of a grid lies there, so does one of the two grid points around the number, so only those
two are tried. Of two points the nearer is taken, and a rule decides an exact tie.
-/

namespace VirtualTables

/-- A positive decimal `0.d₁d₂… * 10 ^ point` whose last digit is not zero. -/
structure Decimal where
  digits : List Char
  /-- The position of the decimal point after the first digit's place. -/
  point : Int
deriving DecidableEq

/-- Which of two equally near grid points is taken. -/
inductive Tie where
  | up
  | toEven
deriving DecidableEq

namespace Decimal

open Binary64

/-- The decimal that an integer times a power of ten stands for, trailing zeros removed. -/
def ofScaled (number : Nat) (exponent : Int) : Decimal :=
  let digits := Nat.toDigits 10 number
  ⟨(digits.reverse.dropWhile (· == '0')).reverse, exponent + digits.length⟩

/-- The integer `p` with `10 ^ (p - 1) ≤ numerator / denominator < 10 ^ p`. -/
def pointOf (numerator denominator : Nat) : Int :=
  if denominator ≤ numerator then (Nat.toDigits 10 (numerator / denominator)).length
  else 1 - (Nat.toDigits 10 ((denominator - 1) / numerator)).length

/--
The interval of reals that round to a finite positive number, in quarters of the least positive
number, with the number itself between the ends. Below a power of two the spacing is half.
-/
structure Interval where
  low : Nat
  value : Nat
  high : Nat
  /-- Whether the ends themselves round to the number. -/
  closed : Bool

def Interval.of (number : Binary64) : Interval :=
  let m := number.significand
  let scale := 1 <<< number.step
  let below := if m = fractions ∧ 0 < number.step then 1 else 2
  ⟨(4 * m - below) * scale, 4 * m * scale, (4 * m + 2) * scale, m % 2 == 0⟩

/-- The point of the grid `10 ^ exponent` that stands for the number, if one does. -/
def pointOnGrid? (tie : Tie) (interval : Interval) (exponent : Int) : Option Nat :=
  let up := Nat.pow 10 (-exponent).toNat
  let unit := 4 * leastPerOne * Nat.pow 10 exponent.toNat
  let floor := interval.value * up / unit
  let rest := interval.value * up % unit
  let inside (candidate : Nat) : Bool :=
    if interval.closed then
      interval.low * up ≤ candidate * unit && candidate * unit ≤ interval.high * up
    else interval.low * up < candidate * unit && candidate * unit < interval.high * up
  let nearer :=
    if 2 * rest < unit then floor
    else if unit < 2 * rest then floor + 1
    else
      match tie with
      | .up => floor + 1
      | .toEven => floor + floor % 2
  if inside nearer then some nearer
  else if inside floor then some floor
  else if inside (floor + 1) then some (floor + 1)
  else none

/-- The shortest decimal that reads back as a finite positive number. Seventeen digits do. -/
def shortest (tie : Tie) (number : Binary64) : Decimal :=
  let interval := Interval.of number
  let point := pointOf interval.value (4 * leastPerOne)
  let onGrid (count : Nat) : Option Decimal :=
    let exponent := point - count
    (pointOnGrid? tie interval exponent).map (ofScaled · exponent)
  ((List.range 17).findSome? fun count => onGrid (count + 1)).getD ⟨['0'], 1⟩

end Decimal

end VirtualTables
