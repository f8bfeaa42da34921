import VirtualTables.Decimal.Binary64
import VirtualTables.Text.Ascii

/-!
Reading a decimal text as the nearest floating-point number.

A decimal is an optional sign, digits with an optional point among them, at least one digit, and an
optional exponent with at least one digit; or one of the words `inf`, `infinity` and `nan` in any
case.
-/

namespace VirtualTables.Binary64

open Text

def ofDecimal (negative : Bool) (digits : List Char) (exponent : Int) : Binary64 :=
  let significant := digits.dropWhile (· == '0')
  let point := exponent + significant.length
  if significant.isEmpty || point < -330 then ofMagnitude negative 0
  else if 330 < point then infinity negative
  else
    ofRatio negative (natOfDigits significant * Nat.pow 10 exponent.toNat)
      (Nat.pow 10 (-exponent).toNat)

/-- The exponent that stands at the front, zero if nothing is left. -/
def exponent? : List Char → Option Int
  | [] => some 0
  | mark :: rest =>
      if mark = 'e' ∨ mark = 'E' then
        let read (negative : Bool) (digits : List Char) : Option Int :=
          if digits.isEmpty || !digits.all isDigit then none
          else
            let size : Int := natOfDigits digits
            some (if negative then -size else size)
        match rest with
        | '-' :: digits => read true digits
        | '+' :: digits => read false digits
        | digits => read false digits
      else none

def ofUnsigned? (negative : Bool) (text : List Char) : Option Binary64 :=
  if sameLetters text "inf".toList || sameLetters text "infinity".toList then
    some (infinity negative)
  else if sameLetters text "nan".toList then
    some (if negative then nan.negate else nan)
  else
    let whole := text.takeWhile isDigit
    let afterWhole := text.dropWhile isDigit
    let (fraction, rest) :=
      match afterWhole with
      | '.' :: rest => (rest.takeWhile isDigit, rest.dropWhile isDigit)
      | rest => ([], rest)
    if whole.isEmpty && fraction.isEmpty then none
    else do
      let exponent ← exponent? rest
      return ofDecimal negative (whole ++ fraction) (exponent - fraction.length)

def ofText? : List Char → Option Binary64
  | '-' :: rest => ofUnsigned? true rest
  | '+' :: rest => ofUnsigned? false rest
  | text => ofUnsigned? false text

end VirtualTables.Binary64
