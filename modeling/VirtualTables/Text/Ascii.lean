/-!
ASCII letters and digits: case folding, comparison without case, hexadecimal and decimal digits.

Only the letters `A` to `Z` have another case here; every other character stands for itself. The
digits that write a number are read as that number (`intOfText?_toDigits`).
-/

namespace VirtualTables.Text

def lower (character : Char) : Char :=
  if 'A' ≤ character ∧ character ≤ 'Z' then Char.ofNat (character.toNat + 32) else character

def sameLetters (left right : List Char) : Bool :=
  left.map lower == right.map lower

def sameName (left right : String) : Bool :=
  sameLetters left.toList right.toList

def isDigit (character : Char) : Bool :=
  '0' ≤ character && character ≤ '9'

def digitValue (character : Char) : Nat :=
  character.toNat - 48

def natOfDigits (digits : List Char) : Nat :=
  digits.foldl (fun total digit => total * 10 + digitValue digit) 0

/-- The value of a digit in a base of at most thirty-six, letters of either case. -/
def digitValue? (base : Nat) (character : Char) : Option Nat :=
  let value :=
    if isDigit character then digitValue character
    else if 'a' ≤ lower character ∧ lower character ≤ 'z' then (lower character).toNat - 87
    else base
  if value < base then some value else none

def natInBase? (base : Nat) (text : List Char) : Option Nat :=
  text.foldl (fun total? character => do
    let total ← total?
    let value ← digitValue? base character
    return total * base + value) (some 0)

/-- An integer of a given range: an optional sign and at least one decimal digit. -/
def intOfText? (least greatest : Int) (text : List Char) : Option Int :=
  let read (negative : Bool) (digits : List Char) : Option Int :=
    if digits.isEmpty || !digits.all isDigit then none
    else
      let size : Int := natOfDigits digits
      let value := if negative then -size else size
      if least ≤ value && value ≤ greatest then some value else none
  match text with
  | '-' :: digits => read true digits
  | '+' :: digits => read false digits
  | digits => read false digits

theorem natOfDigits_eq (digits : List Char) :
    natOfDigits digits = Nat.ofDigitChars 10 digits 0 := by
  unfold natOfDigits
  generalize 0 = total
  induction digits generalizing total with
  | nil => simp
  | cons digit digits inductionHypothesis =>
      rw [List.foldl_cons, inductionHypothesis, Nat.ofDigitChars_cons, Nat.mul_comm]
      rfl

theorem isDigit_of_mem_toDigits {number : Nat} {digit : Char}
    (inside : digit ∈ Nat.toDigits 10 number) : isDigit digit = true := by
  have known := Nat.isDigit_of_mem_toDigits (by decide) (by decide) inside
  simpa [Char.isDigit, isDigit, Char.le_def] using known

theorem bounds_of_intOfText? {least greatest value : Int} {text : List Char}
    (read : intOfText? least greatest text = some value) : least ≤ value ∧ value ≤ greatest := by
  unfold intOfText? at read
  grind

theorem intOfText?_toDigits {least greatest : Int} {number : Nat} (low : least ≤ number)
    (high : number ≤ greatest) :
    intOfText? least greatest (Nat.toDigits 10 number) = some ↑number := by
  have nonempty : Nat.toDigits 10 number ≠ [] := Nat.toDigits_ne_nil
  have digits : (Nat.toDigits 10 number).all isDigit = true :=
    List.all_eq_true.mpr fun digit => isDigit_of_mem_toDigits
  have value : natOfDigits (Nat.toDigits 10 number) = number := by
    rw [natOfDigits_eq, Nat.ofDigitChars_ten_toDigits]
  unfold intOfText?
  split
  · next more written => simp [written, isDigit] at digits
  · next more written => simp [written, isDigit] at digits
  · simp [nonempty, digits, value, low, high]

def paddedNat (width number : Nat) : List Char :=
  let digits := Nat.toDigits 10 number
  List.replicate (width - digits.length) '0' ++ digits

def paddedHex (width number : Nat) : List Char :=
  let digits := Nat.toDigits 16 number
  List.replicate (width - digits.length) '0' ++ digits

end VirtualTables.Text
