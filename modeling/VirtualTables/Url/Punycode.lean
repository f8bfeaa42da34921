import VirtualTables.Text.Ascii

/-!
Punycode: names with characters beyond ASCII, written in small letters, digits and hyphens.

The ASCII characters of a name come first, behind them a hyphen. Then follow the others in
ascending order. Each is given by the number of choices of a place and a greater character that are
passed over before it, in a notation of base thirty-six in which the thresholds between the last
digit and the others follow the size of the numbers.
-/

namespace VirtualTables.Url.Punycode

open Text

def digit (value : Nat) : Char :=
  Char.ofNat (if value < 26 then 0x61 + value else 0x30 + (value - 26))

/-- The value of a digit; letters of either case come before the decimal digits. -/
def valueOf? (character : Char) : Option Nat :=
  if isDigit character then some (digitValue character + 26)
  else if 'a' ≤ lower character ∧ lower character ≤ 'z' then
    some ((lower character).toNat - 0x61)
  else none

/-- Below this value a digit at a place ends its number. -/
def threshold (place bias : Nat) : Nat :=
  max 1 (min 26 (place - bias))

theorem one_le_threshold (place bias : Nat) : 1 ≤ threshold place bias := by
  unfold threshold
  omega

def biasFor (size : Nat) : Nat :=
  if 455 < size then 36 + biasFor (size / 35) else 36 * size / (size + 38)
termination_by size
decreasing_by omega

/-- The bias behind a number, with the count of the characters placed by then. -/
def nextBias (isFirst : Bool) (number count : Nat) : Nat :=
  let size := if isFirst then number / 700 else number / 2
  biasFor (size + size / count)

def digits (place bias number : Nat) : List Char :=
  let least := threshold place bias
  if ends : number < least then [digit number]
  else
    digit (least + (number - least) % (36 - least)) ::
      digits (place + 36) bias ((number - least) / (36 - least))
termination_by number
decreasing_by
  have : ¬number < threshold place bias := ends
  have := one_le_threshold place bias
  have := Nat.div_le_self (number - threshold place bias) (36 - threshold place bias)
  omega

def number? (place bias weight : Nat) : List Char → Option (Nat × List Char)
  | [] => none
  | character :: rest => do
      let value ← valueOf? character
      let least := threshold place bias
      if value < least then return (value * weight, rest)
      else
        let (number, rest) ← number? (place + 36) bias (weight * (36 - least)) rest
        return (value * weight + number, rest)

structure Writing where
  written : List Char
  /-- The choices passed over since the last character that was placed. -/
  passed : Nat
  bias : Nat
  placed : Nat

def isAscii (character : Char) : Bool :=
  character.toNat < 0x80

/-- Pass a character of the name while those equal to `current` are placed. -/
def Writing.pass (ascii : Nat) (current : Char) (writing : Writing) (character : Char) :
    Writing :=
  if character = current then
    ⟨writing.written ++ digits 36 writing.bias writing.passed, 0,
      nextBias (writing.placed == ascii) writing.passed (writing.placed + 1), writing.placed + 1⟩
  else if character < current then { writing with passed := writing.passed + 1 }
  else writing

def Writing.place (name : List Char) (ascii : Nat) : Nat → List Char → Writing → Writing
  | _, [], writing => writing
  | code, current :: others, writing =>
      let passed := writing.passed + (current.toNat - code) * (writing.placed + 1)
      let after := name.foldl (pass ascii current) { writing with passed }
      place name ascii (current.toNat + 1) others { after with passed := after.passed + 1 }

def encode (name : List Char) : List Char :=
  let ascii := name.filter isAscii
  let others := ((name.filter (!isAscii ·)).mergeSort fun left right => left ≤ right).eraseReps
  let writing := Writing.place name ascii.length 0x80 others ⟨[], 0, 72, ascii.length⟩
  (if ascii.isEmpty then [] else ascii ++ ['-']) ++ writing.written

/-- Put characters between those of a name as digits say: the next choice is that of a place and
a code. With the number of characters at most. -/
def insertAll : (most place code bias : Nat) → (isFirst : Bool) → (name text : List Char) →
    Option (List Char)
  | _, _, _, _, _, name, [] => some name
  | 0, _, _, _, _, _, _ => none
  | most + 1, place, code, bias, isFirst, name, text => do
      let (number, rest) ← number? 36 bias 1 text
      let count := name.length + 1
      let code := code + (place + number) / count
      let place := (place + number) % count
      if code < 0x110000 ∧ (code < 0xD800 ∨ 0xE000 ≤ code) then
        let name := name.take place ++ Char.ofNat code :: name.drop place
        insertAll most (place + 1) code (nextBias isFirst number count) false name rest
      else none

def decode? (text : List Char) : Option (List Char) :=
  let back := text.reverse.takeWhile (· != '-')
  let front := (text.reverse.drop (back.length + 1)).reverse
  insertAll text.length 0 0x80 72 true front back.reverse

end VirtualTables.Url.Punycode
