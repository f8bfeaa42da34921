import VirtualTables.Json.Number
import VirtualTables.Json.Quoted
import VirtualTables.Proofs.Text.Digits

/-!
Written strings and whole numbers are read back from the front of any text.

A string ends at its own closing quote, whatever follows. A number ends where no digit, point or
exponent follows (`EndsNumber`).
-/

namespace VirtualTables.Json

open Text

section Strings

variable {character : Char} {text rest : List Char}

theorem string?_quote (rest : List Char) : string? ('"' :: rest) = some ([], rest) := by
  rw [string?]

theorem string?_escape (found : escape? text = some (character, rest)) :
    string? ('\\' :: text) =
      (string? rest).map fun found => (character :: found.1, found.2) := by
  rw [string?]
  split
  · next missing => cases missing.symm.trans found
  · next same =>
      cases same.symm.trans found
      rfl

theorem string?_plain (noQuote : character ≠ '"') (noBackslash : character ≠ '\\')
    (noControl : ¬ character < ' ') (rest : List Char) :
    string? (character :: rest) =
      (string? rest).map fun found => (character :: found.1, found.2) := by
  rw [string?]
  · exact if_neg noControl
  · exact noQuote
  · exact noBackslash

theorem natInBase?_paddedHex : ∀ code < 32,
    (paddedHex 4 code).length = 4 ∧ natInBase? 16 (paddedHex 4 code) = some code := by
  decide

theorem escape?_paddedHex (control : character < ' ') (rest : List Char) :
    escape? ('u' :: (paddedHex 4 character.toNat ++ rest)) = some (character, rest) := by
  have low : character.toNat < 32 := control
  obtain ⟨length, value⟩ := natInBase?_paddedHex _ low
  obtain ⟨a, b, c, d, digits⟩ : ∃ a b c d, paddedHex 4 character.toNat = [a, b, c, d] :=
    ⟨_, _, _, _, List.eq_getElem_of_length_eq_four _ length⟩
  rw [digits] at value ⊢
  change unicodeEscape? (a :: b :: c :: d :: rest) = _
  rw [unicodeEscape?, value]
  simp only [Option.bind_eq_bind, Option.bind_some]
  rw [if_pos (Or.inl (by omega)), Char.ofNat_toNat]
  rfl

theorem string?_quotedChar (character : Char) (rest : List Char) :
    string? (quotedChar character ++ rest) =
      (string? rest).map fun found => (character :: found.1, found.2) := by
  unfold quotedChar
  split
  · exact string?_escape rfl
  · exact string?_escape rfl
  · exact string?_escape rfl
  · exact string?_escape rfl
  · exact string?_escape rfl
  · exact string?_escape rfl
  · exact string?_escape rfl
  · next noQuote noBackslash _ _ _ _ _ =>
      split
      · next control => exact string?_escape (escape?_paddedHex control rest)
      · next printable => exact string?_plain noQuote noBackslash printable rest

/-- The closing quote is the first one that stands behind the whole text. -/
theorem string?_quoted (text rest : List Char) :
    string? (text.flatMap quotedChar ++ '"' :: rest) = some (text, rest) := by
  induction text with
  | nil => exact string?_quote rest
  | cons character text inductionHypothesis =>
      rw [List.flatMap_cons, List.append_assoc, string?_quotedChar, inductionHypothesis]
      rfl

end Strings

section Numbers

variable {number : Nat} {rest : List Char}

/-- Nothing that would belong to a number stands at the front. -/
def EndsNumber (rest : List Char) : Prop :=
  ∀ character, rest.head? = some character →
    isDigit character = false ∧ character ≠ '.' ∧ character ≠ 'e' ∧ character ≠ 'E'

theorem EndsNumber.endsDigits (ends : EndsNumber rest) : EndsDigits rest :=
  fun character first => (ends character first).1

theorem EndsNumber.fraction? (ends : EndsNumber rest) :
    Json.fraction? rest = some (none, rest) := by
  cases rest with
  | nil => rfl
  | cons character rest =>
      rw [Json.fraction?]
      rintro _ ⟨⟩
      exact (ends '.' rfl).2.1 rfl

theorem EndsNumber.exponent? (ends : EndsNumber rest) :
    Json.exponent? rest = some (none, rest) := by
  cases rest with
  | nil => rfl
  | cons character rest =>
      have noMark : ¬ (character = 'e' ∨ character = 'E') := not_or.mpr (ends character rfl).2.2
      exact if_neg noMark

theorem digits?_toDigits (number : Nat) (ends : EndsDigits rest) :
    digits? (Nat.toDigits 10 number ++ rest) = some (Nat.toDigits 10 number, rest) := by
  have digits : ∀ character ∈ Nat.toDigits 10 number, isDigit character = true :=
    fun _ => isDigit_of_mem_toDigits
  rw [digits?, takeWhile_digits digits ends, dropWhile_digits digits ends]
  exact if_neg (mt List.isEmpty_iff.mp Nat.toDigits_ne_nil)

theorem exists_toDigits_of_pos (positive : 0 < number) :
    ∃ first others, Nat.toDigits 10 number = first :: others ∧ first ≠ '0' := by
  induction number using Nat.strongRecOn with
  | ind number inductionHypothesis =>
      by_cases small : number < 10
      · have single : ∀ digit < 10, 0 < digit → digit.digitChar ≠ '0' := by decide
        exact ⟨_, [], Nat.toDigits_of_lt_base small, single number small positive⟩
      · obtain ⟨first, others, digits, noZero⟩ :=
          inductionHypothesis (number / 10) (by omega) (by omega)
        rw [Nat.toDigits_of_base_le (by decide) (Nat.le_of_not_lt small), digits]
        exact ⟨first, _, rfl, noZero⟩

/-- Zero is written with one digit, and any other number without a zero at the front. -/
theorem whole?_toDigits (number : Nat) (ends : EndsDigits rest) :
    whole? (Nat.toDigits 10 number ++ rest) = some (Nat.toDigits 10 number, rest) := by
  rcases Nat.eq_zero_or_pos number with rfl | positive
  · change whole? ('0' :: rest) = some (['0'], rest)
    cases rest with
    | nil => rfl
    | cons character rest =>
        have noDigit : ¬ isDigit character = true := by
          rw [ends character rfl]
          exact Bool.false_ne_true
        exact if_neg noDigit
  · obtain ⟨first, others, digits, noZero⟩ := exists_toDigits_of_pos positive
    rw [← digits?_toDigits number ends, digits, List.cons_append, whole?]
    rintro _ ⟨⟩
    exact noZero rfl

theorem le_foldl_digits (start : Nat) (digits : List Char) :
    start ≤ digits.foldl (fun total digit => total * 10 + digitValue digit) start := by
  induction digits generalizing start with
  | nil => exact Nat.le_refl start
  | cons digit digits inductionHypothesis =>
      have step : start ≤ start * 10 + digitValue digit := by omega
      exact Nat.le_trans step (inductionHypothesis _)

theorem appendDigits_of_lt {start : Nat} {digits : List Char}
    (fits : digits.foldl (fun total digit => total * 10 + digitValue digit) start < UInt64.size) :
    appendDigits start digits =
      (digits.foldl (fun total digit => total * 10 + digitValue digit) start, 0) := by
  induction digits generalizing start with
  | nil => rfl
  | cons digit digits inductionHypothesis =>
      have next := Nat.lt_of_le_of_lt (le_foldl_digits _ digits) fits
      rw [appendDigits]
      exact (if_pos next).trans (inductionHypothesis fits)

theorem appendDigits_toDigits (fits : number < UInt64.size) :
    appendDigits 0 (Nat.toDigits 10 number) = (number, 0) := by
  have value : natOfDigits (Nat.toDigits 10 number) = number := natOfDigits_toDigits number
  have read := appendDigits_of_lt (show natOfDigits (Nat.toDigits 10 number) < UInt64.size by
    rwa [value])
  exact read.trans (congrArg (·, 0) value)

theorem number?_of_parts {text : List Char} {parts : NumberText} {value : Number}
    (written : numberText? text = some (parts, rest)) (meant : parts.value? = some value) :
    number? text = some (value, rest) := by
  simp only [number?, written, meant, Option.bind_eq_bind, Option.bind_some, Option.pure_def]

theorem number?_toDigits (fits : number < UInt64.size) (ends : EndsNumber rest) :
    number? (Nat.toDigits 10 number ++ rest) = some (.natural number, rest) := by
  have written : numberText? (Nat.toDigits 10 number ++ rest) =
      some (⟨false, Nat.toDigits 10 number, none, none⟩, rest) := by
    obtain ⟨first, others, digits, digit⟩ := exists_toDigits number
    rw [numberText?]
    · simp only [whole?_toDigits number ends.endsDigits, ends.fraction?, ends.exponent?,
        Option.bind_eq_bind, Option.bind_some, Option.pure_def]
    · intro others minus
      rw [digits] at minus
      cases minus
      exact absurd digit (by decide)
  apply number?_of_parts written
  rw [NumberText.value?, appendDigits_toDigits fits]
  rfl

theorem number?_minus (positive : 0 < number) (fits : number ≤ 0x8000000000000000)
    (ends : EndsNumber rest) :
    number? ('-' :: (Nat.toDigits 10 number ++ rest)) = some (.negative (-number), rest) := by
  have written : numberText? ('-' :: (Nat.toDigits 10 number ++ rest)) =
      some (⟨true, Nat.toDigits 10 number, none, none⟩, rest) := by
    simp only [numberText?, whole?_toDigits number ends.endsDigits, ends.fraction?,
      ends.exponent?, Option.bind_eq_bind, Option.bind_some, Option.pure_def]
  have small : number < UInt64.size := Nat.lt_of_le_of_lt fits (by decide)
  apply number?_of_parts written
  rw [NumberText.value?, appendDigits_toDigits small]
  refine if_pos ⟨rfl, rfl, rfl, ?_⟩
  simp only [Bool.true_and, Bool.not_eq_true', Bool.or_eq_false_iff, beq_eq_false_iff_ne,
    decide_eq_false_iff_not]
  omega

end Numbers

end VirtualTables.Json
