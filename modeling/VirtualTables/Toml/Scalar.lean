import VirtualTables.Calendar.Date
import VirtualTables.Decimal.Reading
import VirtualTables.Toml.Value

/-!
The values of TOML documents that are one word: truth values, numbers and times.
-/

namespace VirtualTables.Toml

open Text

/-- Digits with single underscores between them, the underscores removed. -/
def underscored? (isDigit : Char → Bool) (text : List Char) : Option (List Char) :=
  let groups := text.splitBy fun left right => (left == '_') == (right == '_')
  let separators := groups.filter fun group => group.head? == some '_'
  let digits := groups.filter fun group => group.head? != some '_'
  if text.isEmpty || text.head? == some '_' || text.getLast? == some '_' ||
      separators.any (1 < ·.length) || !digits.all (·.all isDigit) then none
  else some digits.flatten

/-- The digits of a whole decimal number, which begins with zero only if it is zero. -/
def wholeDigits? (text : List Char) : Option (List Char) := do
  let digits ← underscored? isDigit text
  if 1 < digits.length ∧ digits.head? = some '0' then none else some digits

def ranged (value : Int) : Option Value :=
  if Int64.minValue.toInt ≤ value ∧ value ≤ Int64.maxValue.toInt then some (.integer value)
  else none

def sign (text : List Char) : Bool × List Char :=
  match text with
  | '-' :: rest => (true, rest)
  | '+' :: rest => (false, rest)
  | rest => (false, rest)

def inBase? (base : Nat) (text : List Char) : Option Value := do
  let digits ← underscored? (fun character => (digitValue? base character).isSome) text
  ranged (← natInBase? base digits)

def integer? (text : List Char) : Option Value :=
  match text with
  | '0' :: 'x' :: rest => inBase? 16 rest
  | '0' :: 'o' :: rest => inBase? 8 rest
  | '0' :: 'b' :: rest => inBase? 2 rest
  | text => do
      let (negative, text) := sign text
      let size : Int := natOfDigits (← wholeDigits? text)
      ranged (if negative then -size else size)

def isExponentMark (character : Char) : Bool :=
  character == 'e' || character == 'E'

def fraction? (mantissa : List Char) : Option (List Char) :=
  match mantissa.dropWhile (· != '.') with
  | [] => some []
  | _ :: digits => underscored? isDigit digits

def exponent? (text : List Char) : Option Int :=
  match text.dropWhile (!isExponentMark ·) with
  | [] => some 0
  | _ :: exponent =>
      let (negative, digits) := sign exponent
      (underscored? isDigit digits).map fun digits =>
        if negative then -(natOfDigits digits : Int) else natOfDigits digits

/-- The value of a number in decimal notation: a whole part and a fraction, an exponent or both.
A positive one that is too large is refused. -/
def decimal? (negative : Bool) (text : List Char) : Option Binary64 := do
  let mantissa := text.takeWhile (!isExponentMark ·)
  let whole ← wholeDigits? (mantissa.takeWhile (· != '.'))
  let fraction ← fraction? mantissa
  let exponent ← exponent? text
  if mantissa.contains '.' ∨ text.any isExponentMark then
    let value := Binary64.ofDecimal negative (whole ++ fraction) (exponent - fraction.length)
    if value = .infinity false then none else return value
  else none

def float? (text : List Char) : Option Value :=
  let (negative, size) := sign text
  match String.ofList size with
  | "inf" => some (.float (.infinity negative))
  | "nan" => some (.float (if negative then Binary64.nan.negate else .nan))
  | _ => (decimal? negative size).map .float

def twoDigits? (most : Nat) : List Char → Option Nat
  | [first, second] =>
      if isDigit first && isDigit second && natOfDigits [first, second] ≤ most then
        some (natOfDigits [first, second])
      else none
  | _ => none

def isTime (text : List Char) : Bool :=
  let fraction := text.drop 8
  (twoDigits? 23 (text.take 2)).isSome && (text.drop 2).head? == some ':' &&
    (twoDigits? 59 ((text.drop 3).take 2)).isSome && (text.drop 5).head? == some ':' &&
    (twoDigits? 60 ((text.drop 6).take 2)).isSome &&
    (match fraction with
      | [] => true
      | '.' :: digits => !digits.isEmpty && digits.all isDigit
      | _ => false)

def isOffsetTime (text : List Char) : Bool :=
  let time := text.takeWhile fun c => isDigit c || c == ':' || c == '.'
  isTime time &&
    (match text.drop time.length with
      | [] => true
      | ['Z'] => true
      | ['z'] => true
      | mark :: offset =>
          (mark == '+' || mark == '-') && offset.length == 5 &&
            (twoDigits? 23 (offset.take 2)).isSome && (offset.drop 2).head? == some ':' &&
            (twoDigits? 59 (offset.drop 3)).isSome)

def isDate (text : List Char) : Bool :=
  let year := text.take 4
  text.length == 10 && year.all isDigit && (text.drop 4).head? == some '-' &&
    (text.drop 7).head? == some '-' &&
    (match twoDigits? 12 ((text.drop 5).take 2), twoDigits? 31 (text.drop 8) with
      | some month, some day => Date.isValid ⟨natOfDigits year, month, day⟩
      | _, _ => false)

def datetime? (text : List Char) : Option Value :=
  let isMark (character : Char) : Bool := ['T', 't', ' '].contains character
  let holds :=
    if isDate (text.take 10) then
      match text.drop 10 with
      | [] => true
      | mark :: time => isMark mark && isOffsetTime time
    else isTime text
  if holds then some (.datetime text) else none

def isWordChar (character : Char) : Bool :=
  let small := lower character
  isDigit character || ('a' ≤ small && small ≤ 'z') ||
    ['+', '-', '.', '_', ':'].contains character

/-- The word at the front, and the rest; a day and a time behind one space are one word. -/
def word (text : List Char) : List Char × List Char :=
  let first := text.takeWhile isWordChar
  let rest := text.dropWhile isWordChar
  match rest with
  | ' ' :: next :: others =>
      if isDate first && isDigit next then
        (first ++ ' ' :: (next :: others).takeWhile isWordChar,
          (next :: others).dropWhile isWordChar)
      else (first, rest)
  | _ => (first, rest)

def scalar? (text : List Char) : Option Value :=
  match String.ofList text with
  | "true" => some (.boolean true)
  | "false" => some (.boolean false)
  | _ => datetime? text <|> float? text <|> integer? text

end VirtualTables.Toml
