import VirtualTables.Decimal.Shortest

/-!
The written form of a floating-point number: the shortest digits that read back, in positional
notation within a range of exponents and with an exponent of ten outside it.
-/

namespace VirtualTables

structure NumberStyle where
  /-- Which of two equally near shortest decimals is taken. -/
  tie : Tie
  /-- The exponents of ten, least and greatest, written without an exponent; `none` for all. -/
  positional : Option (Int × Int)
  /-- Whether an integral number in positional notation ends in `.0`. -/
  marksWhole : Bool
  signsExponent : Bool

namespace NumberStyle

def positionalText (style : NumberStyle) (digits : List Char) (point : Int) : List Char :=
  if point ≤ 0 then
    '0' :: '.' :: List.replicate (-point).toNat '0' ++ digits
  else
    let whole := digits.take point.toNat
    let fraction := digits.drop point.toNat
    let whole := whole ++ List.replicate (point.toNat - digits.length) '0'
    if fraction.isEmpty then whole ++ (if style.marksWhole then ['.', '0'] else [])
    else whole ++ '.' :: fraction

/-- One digit, the others after a point, and the exponent of ten of the first. -/
def exponentText (style : NumberStyle) (digits : List Char) (exponent : Int) : List Char :=
  let sign := if style.signsExponent ∧ 0 ≤ exponent then ['+'] else []
  let fraction := if digits.length ≤ 1 then [] else '.' :: digits.drop 1
  digits.take 1 ++ fraction ++ 'e' :: sign ++ (toString exponent).toList

def decimalText (style : NumberStyle) (decimal : Decimal) : List Char :=
  let exponent := decimal.point - 1
  match style.positional with
  | none => style.positionalText decimal.digits decimal.point
  | some (least, greatest) =>
      if least ≤ exponent ∧ exponent ≤ greatest then
        style.positionalText decimal.digits decimal.point
      else style.exponentText decimal.digits exponent

/-- The written form of a number. Zero keeps its sign; what is no number has none. -/
def text (style : NumberStyle) (number : Binary64) : String :=
  if number.isNaN then "NaN"
  else
    let sign := if number.isNegative then ['-'] else []
    let body :=
      if number.isInfinite then ['i', 'n', 'f']
      else if number.magnitudeBits = 0 then
        if style.marksWhole then ['0', '.', '0'] else ['0']
      else style.decimalText (Decimal.shortest style.tie number)
    String.ofList (sign ++ body)

end NumberStyle

end VirtualTables
