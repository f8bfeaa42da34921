import VirtualTables.Text.Ascii

/-!
Written numbers: digits in front of something else, and numbers padded with zeros.
-/

namespace VirtualTables.Text

variable {width number : Nat} {text rest : List Char}

def EndsDigits (rest : List Char) : Prop :=
  ∀ character, rest.head? = some character → isDigit character = false

theorem EndsDigits.takeWhile (ends : EndsDigits rest) : rest.takeWhile isDigit = [] := by
  cases rest with
  | nil => rfl
  | cons character rest => rw [List.takeWhile_cons, ends character rfl]; rfl

theorem EndsDigits.dropWhile (ends : EndsDigits rest) : rest.dropWhile isDigit = rest := by
  cases rest with
  | nil => rfl
  | cons character rest => rw [List.dropWhile_cons, ends character rfl]; rfl

theorem EndsDigits.take (ends : EndsDigits rest) (count : Nat) : EndsDigits (rest.take count) := by
  cases rest with
  | nil =>
      rw [List.take_nil]
      exact ends
  | cons character rest =>
      cases count with
      | zero => exact nofun
      | succ count => exact fun other first => ends other first

theorem takeWhile_digits (digits : ∀ character ∈ text, isDigit character = true)
    (ends : EndsDigits rest) : (text ++ rest).takeWhile isDigit = text := by
  rw [List.takeWhile_append_of_pos digits, ends.takeWhile, List.append_nil]

theorem dropWhile_digits (digits : ∀ character ∈ text, isDigit character = true)
    (ends : EndsDigits rest) : (text ++ rest).dropWhile isDigit = rest := by
  rw [List.dropWhile_append_of_pos digits, ends.dropWhile]

theorem exists_cons_of_digits (nonempty : text ≠ [])
    (digits : ∀ character ∈ text, isDigit character = true) :
    ∃ first others, text = first :: others ∧ isDigit first = true := by
  obtain ⟨first, others, rfl⟩ := List.exists_cons_of_ne_nil nonempty
  exact ⟨first, others, rfl, digits first List.mem_cons_self⟩

theorem exists_toDigits (number : Nat) :
    ∃ first others, Nat.toDigits 10 number = first :: others ∧ isDigit first = true :=
  exists_cons_of_digits Nat.toDigits_ne_nil fun _ => isDigit_of_mem_toDigits

theorem natOfDigits_toDigits (number : Nat) : natOfDigits (Nat.toDigits 10 number) = number := by
  rw [natOfDigits_eq, Nat.ofDigitChars_ten_toDigits]

theorem isDigit_of_mem_paddedNat {character : Char}
    (inside : character ∈ paddedNat width number) : isDigit character = true := by
  rcases List.mem_append.mp inside with isZero | isDigit
  · rw [List.eq_of_mem_replicate isZero]
    decide
  · exact isDigit_of_mem_toDigits isDigit

theorem natOfDigits_paddedNat (width number : Nat) :
    natOfDigits (paddedNat width number) = number := by
  rw [natOfDigits_eq, paddedNat, Nat.ofDigitChars_append, Nat.ofDigitChars_replicate_zero,
    Nat.mul_zero, Nat.ofDigitChars_ten_toDigits]

theorem paddedNat_ne_nil (width number : Nat) : paddedNat width number ≠ [] := by
  intro empty
  exact Nat.toDigits_ne_nil (List.append_eq_nil_iff.mp empty).2

theorem exists_paddedNat (width number : Nat) :
    ∃ first others, paddedNat width number = first :: others ∧ isDigit first = true :=
  exists_cons_of_digits (paddedNat_ne_nil width number) fun _ => isDigit_of_mem_paddedNat

theorem length_paddedNat (positive : 0 < width) (small : number < Nat.pow 10 width) :
    (paddedNat width number).length = width := by
  have fits : (Nat.toDigits 10 number).length ≤ width :=
    (Nat.length_toDigits_le_iff (by decide) positive).mpr small
  rw [paddedNat, List.length_append, List.length_replicate]
  omega

end VirtualTables.Text
