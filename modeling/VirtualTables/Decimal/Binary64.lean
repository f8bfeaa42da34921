/-!
Binary floating-point numbers of 64 bits, as bit patterns, and the rounding of exact ratios to
them. All arithmetic here is on natural numbers, so each result is the exact one rounded once, to
the nearest number and from the midpoint to the one with an even last bit.
-/

namespace VirtualTables

/-- A floating-point number given by its 64 bits: sign, eleven exponent bits, 52 fraction bits. -/
structure Binary64 where
  bits : UInt64
deriving DecidableEq

namespace Binary64

def signBit : Nat :=
  0x8000000000000000

/-- How many fractions there are: `2 ^ 52`. -/
def fractions : Nat :=
  0x10000000000000

/-- How many of the least positive number make one: `2 ^ 1074`. -/
def leastPerOne : Nat :=
  1 <<< 1074

/-- The bits below the sign. They grow with the magnitude. -/
def magnitudeBits (number : Binary64) : Nat :=
  number.bits.toNat % signBit

def isNegative (number : Binary64) : Bool :=
  signBit ≤ number.bits.toNat

def infinityBits : Nat :=
  0x7FF0000000000000

def isNaN (number : Binary64) : Bool :=
  infinityBits < number.magnitudeBits

def isInfinite (number : Binary64) : Bool :=
  number.magnitudeBits == infinityBits

def isFinite (number : Binary64) : Bool :=
  number.magnitudeBits < infinityBits

/-- The integer `m` of a finite magnitude `m * 2 ^ (step - 1074)`. -/
def significand (number : Binary64) : Nat :=
  let fraction := number.magnitudeBits % fractions
  if number.magnitudeBits < fractions then fraction else fractions + fraction

/-- The number `step` of a finite magnitude `m * 2 ^ (step - 1074)`. -/
def step (number : Binary64) : Nat :=
  number.magnitudeBits / fractions - 1

def ofMagnitude (negative : Bool) (magnitude : Nat) : Binary64 :=
  ⟨UInt64.ofNat (if negative then signBit + magnitude else magnitude)⟩

def infinity (negative : Bool) : Binary64 :=
  ofMagnitude negative infinityBits

def nan : Binary64 :=
  ⟨0x7FF8000000000000⟩

def roundHalfEven (numerator denominator : Nat) : Nat :=
  let quotient := numerator / denominator
  let twice := 2 * (numerator % denominator)
  if twice < denominator then quotient
  else if denominator < twice then quotient + 1
  else quotient + quotient % 2

/--
The number nearest to the ratio of two natural numbers, the second not zero.

The ratio is measured in units of `2 ^ (step - 1074)` with the least `step` for which the integer
part has at most 53 bits; rounding up to `2 ^ 53` carries into the exponent by itself, because the
magnitude bits are `step * 2 ^ 52 + m`.
-/
def ofRatio (negative : Bool) (numerator denominator : Nat) : Binary64 :=
  if numerator = 0 then ofMagnitude negative 0
  else
    let scaled := numerator * leastPerOne
    let step := (scaled / denominator).log2 - 52
    let magnitude := step * fractions + roundHalfEven scaled (denominator <<< step)
    if infinityBits ≤ magnitude then infinity negative else ofMagnitude negative magnitude

def ofNat (number : Nat) : Binary64 :=
  ofRatio false number 1

def ofInt (number : Int) : Binary64 :=
  ofRatio (number < 0) number.natAbs 1

def ratio (number : Binary64) : Nat × Nat :=
  (number.significand <<< number.step, leastPerOne)

/-- The product of a finite number and a positive ratio, rounded once. -/
def scale (number : Binary64) (numerator denominator : Nat) : Binary64 :=
  ofRatio number.isNegative (number.ratio.1 * numerator) (number.ratio.2 * denominator)

def negate (number : Binary64) : Binary64 :=
  ofMagnitude (!number.isNegative) number.magnitudeBits

end Binary64

end VirtualTables
