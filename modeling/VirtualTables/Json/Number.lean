import VirtualTables.Decimal.Binary64
import VirtualTables.Text.Ascii

/-!
Numbers of JSON texts.

A number without fraction and exponent that fits 64 bits is an integer. Any other is a
floating-point number that is reached in two steps: its digits, as many as stay below `2 ^ 64`, are
rounded to a floating-point number, and that is multiplied or divided by a power of ten. Either
step can round, so the result may differ in its last bit from the nearest number.
-/

namespace VirtualTables.Json

open Text

structure NumberText where
  negative : Bool
  whole : List Char
  fraction : Option (List Char)
  /-- Whether the exponent is negative and its digits, if there is one. -/
  exponent : Option (Bool × List Char)

inductive Number where
  /-- A number without a sign, below `2 ^ 64`. -/
  | natural (value : Nat)
  /-- A negative number, down to `-2 ^ 63`. -/
  | negative (value : Int)
  | float (value : Binary64)

def digits? (text : List Char) : Option (List Char × List Char) :=
  if (text.takeWhile isDigit).isEmpty then none
  else some (text.takeWhile isDigit, text.dropWhile isDigit)

/-- The digits before the point: a zero stands alone. -/
def whole? : List Char → Option (List Char × List Char)
  | '0' :: rest =>
      match rest with
      | next :: _ => if isDigit next then none else some (['0'], rest)
      | [] => some (['0'], [])
  | text => digits? text

def fraction? : List Char → Option (Option (List Char) × List Char)
  | '.' :: rest => (digits? rest).map fun (digits, rest) => (some digits, rest)
  | text => some (none, text)

def exponent? : List Char → Option (Option (Bool × List Char) × List Char)
  | [] => some (none, [])
  | mark :: rest =>
      if mark = 'e' ∨ mark = 'E' then
        let (negative, rest) :=
          match rest with
          | '+' :: rest => (false, rest)
          | '-' :: rest => (true, rest)
          | rest => (false, rest)
        (digits? rest).map fun (digits, rest) => (some (negative, digits), rest)
      else some (none, mark :: rest)

def numberText? (text : List Char) : Option (NumberText × List Char) := do
  let (negative, text) :=
    match text with
    | '-' :: rest => (true, rest)
    | rest => (false, rest)
  let (whole, text) ← whole? text
  let (fraction, text) ← fraction? text
  let (exponent, text) ← exponent? text
  return (⟨negative, whole, fraction, exponent⟩, text)

/-- Put digits behind a number as long as it stays below `2 ^ 64`; and count those left over. -/
def appendDigits : Nat → List Char → Nat × Nat
  | number, [] => (number, 0)
  | number, digit :: rest =>
      let longer := number * 10 + digitValue digit
      if longer < UInt64.size then appendDigits longer rest else (number, rest.length + 1)

def powerOfTen (exponent : Nat) : Binary64 :=
  Binary64.ofNat (Nat.pow 10 exponent)

def divideByPower (number : Binary64) (exponent : Nat) : Binary64 :=
  let (numerator, denominator) := (powerOfTen exponent).ratio
  number.scale denominator numerator

/-- Divide by a power of ten, by `10 ^ 308` at most at once and not beyond zero. -/
def divideDown (number : Binary64) (size : Nat) : Binary64 :=
  if size ≤ 308 then divideByPower number size
  else if number.magnitudeBits = 0 then number
  else divideDown (divideByPower number 308) (size - 308)
termination_by size

/-- Multiply or divide by a power of ten. A result beyond the finite numbers is refused. -/
def scaleByPower? (number : Binary64) (exponent : Int) : Option Binary64 :=
  if exponent < 0 then some (divideDown number exponent.natAbs)
  else if number.magnitudeBits = 0 then some number
  else if 308 < exponent then none
  else
    let (numerator, denominator) := (powerOfTen exponent.toNat).ratio
    let product := number.scale numerator denominator
    if product.isInfinite then none else some product

def NumberText.value? (parts : NumberText) : Option Number :=
  let (start, leftOver) := appendDigits 0 parts.whole
  if parts.fraction.isNone ∧ parts.exponent.isNone ∧ leftOver = 0 ∧
      !(parts.negative && (start == 0 || 0x8000000000000000 < start)) then
    some (if parts.negative then .negative (-start) else .natural start)
  else
    let fraction := parts.fraction.getD []
    let (significand, ignored) := appendDigits start fraction
    let shift : Int := (leftOver : Int) - ((fraction.length - ignored : Nat) : Int)
    let signed (number : Binary64) : Number :=
      .float (if parts.negative then number.negate else number)
    let scaled (exponent : Int) : Option Number :=
      (scaleByPower? (Binary64.ofNat significand) exponent).map signed
    match parts.exponent with
    | none => scaled shift
    | some (negative, digits) =>
        let size := natOfDigits digits
        if 0x7FFFFFFF < size then
          if significand ≠ 0 ∧ !negative then none else some (signed (Binary64.ofNat 0))
        else scaled (if negative then shift - size else shift + size)

def number? (text : List Char) : Option (Number × List Char) := do
  let (parts, rest) ← numberText? text
  let value ← parts.value?
  return (value, rest)

def Number.toBinary64 : Number → Binary64
  | .natural value => Binary64.ofNat value
  | .negative value => Binary64.ofInt value
  | .float value => value

end VirtualTables.Json
