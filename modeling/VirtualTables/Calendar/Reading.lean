import VirtualTables.Calendar.Instant
import VirtualTables.Text.Blank

/-!
Reading an instant from a text such as `2024-05-17T08:30:00.123Z`.

The parts may be separated by blanks as well, and need not be padded with zeros. The offset from
universal time is `Z`, `UTC`, or a sign, two digits of hours and two of minutes.
-/

namespace VirtualTables.Instant

open Text

/-- The number that at most `most` digits at the front write, and the rest. -/
def digits? (most : Nat) (text : List Char) : Option (Nat × List Char) :=
  let digits := (text.take most).takeWhile isDigit
  if digits.isEmpty then none else some (natOfDigits digits, text.drop digits.length)

/-- A number of at most two digits, blanks before it aside. -/
def twoDigits? (text : List Char) : Option (Nat × List Char) :=
  digits? 2 (text.dropWhile isBlank)

def mark? (mark : Char) (text : List Char) : Option (List Char) :=
  match text.dropWhile isBlank with
  | [] => none
  | first :: rest => if first = mark then some rest else none

/-- A year: with a sign of any number of digits, without one of at most four. -/
def year? (text : List Char) : Option (Int × List Char) :=
  match text.dropWhile isBlank with
  | '-' :: rest => (digits? rest.length rest).map fun (year, rest) => (-(year : Int), rest)
  | '+' :: rest => (digits? rest.length rest).map fun (year, rest) => ((year : Int), rest)
  | rest => (digits? 4 rest).map fun (year, rest) => ((year : Int), rest)

def date? (text : List Char) : Option (Date × List Char) := do
  let (year, text) ← year? text
  let text ← mark? '-' text
  let (month, text) ← twoDigits? text
  let text ← mark? '-' text
  let (day, text) ← twoDigits? text
  return (⟨year, month, day⟩, text)

/-- The fraction of a second in nanoseconds, if a point follows; digits after the ninth are passed
over. -/
def nanos? : List Char → Option (Nat × List Char)
  | '.' :: text =>
      (digits? 9 text).map fun (number, rest) =>
        (number * Nat.pow 10 (9 - (text.length - rest.length)), rest.dropWhile isDigit)
  | text => some (0, text)

/-- The second and nanosecond of the day; the second 60 is the leap second. -/
def timeOfDay? (text : List Char) : Option ((Nat × Nat) × List Char) := do
  let (hour, text) ← twoDigits? text
  let text ← mark? ':' text
  let (minute, text) ← twoDigits? text
  let text ← mark? ':' text
  let (second, text) ← twoDigits? text
  let (nanos, text) ← nanos? text
  if hour < 24 ∧ minute < 60 ∧ second ≤ 60 then
    let whole := hour * 3600 + minute * 60
    return (if second = 60 then (whole + 59, nanos + 1000000000) else (whole + second, nanos), text)
  else none

def exactlyTwo? : List Char → Option (Nat × List Char)
  | first :: second :: rest =>
      if isDigit first && isDigit second then
        some (digitValue first * 10 + digitValue second, rest)
      else none
  | _ => none

def offset? (text : List Char) : Option (Int × List Char) :=
  let signed (negative : Bool) (text : List Char) : Option (Int × List Char) := do
    let (hours, text) ← exactlyTwo? text
    let (minutes, text) ← exactlyTwo? (text.dropWhile fun c => c = ':' || isBlank c)
    let size : Int := hours * 3600 + minutes * 60
    if minutes < 60 ∧ size < 86400 then return (if negative then -size else size, text) else none
  match text with
  | 'Z' :: rest => some (0, rest)
  | 'z' :: rest => some (0, rest)
  | '+' :: rest => signed false rest
  | '-' :: rest => signed true rest
  | '\u2212' :: rest => signed true rest
  | rest => if sameLetters (rest.take 3) "UTC".toList then some (0, rest.drop 3) else none

def ofText? (text : List Char) : Option Instant := do
  let (date, text) ← date? text
  let text ←
    match text with
    | first :: rest => if first = 't' ∨ first = 'T' ∨ first = ' ' then some rest else none
    | [] => none
  let ((second, nanos), text) ← timeOfDay? text
  let (offset, text) ← offset? (text.dropWhile isBlank)
  if !(text.all isBlank && date.isValid) then none
  else
    let instant := date.toDays * 86400 + second
    let _ ← ofUnix? instant 0
    ofUnix? (instant - offset) nanos

end VirtualTables.Instant
