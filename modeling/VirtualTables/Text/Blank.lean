/-!
White space as the Unicode property `White_Space` defines it, and trimming by it.

`stripBoth` removes a class of characters from the two ends of a text; `trim` is its instance
for blanks. A text that `IsStripped` stays as it is.
-/

namespace VirtualTables.Text

/-- The characters with the Unicode property `White_Space`. -/
def isBlank (character : Char) : Bool :=
  let code := character.toNat
  (0x09 ≤ code && code ≤ 0x0D) || code == 0x20 || code == 0x85 || code == 0xA0 ||
    code == 0x1680 || (0x2000 ≤ code && code ≤ 0x200A) || code == 0x2028 || code == 0x2029 ||
    code == 0x202F || code == 0x205F || code == 0x3000

/-- Remove the characters of a class from both ends. -/
def stripBoth (inClass : Char → Bool) (text : List Char) : List Char :=
  ((text.dropWhile inClass).reverse.dropWhile inClass).reverse

def trim (text : List Char) : List Char :=
  stripBoth isBlank text

/-- No character of a class stands at either end of a text. -/
structure IsStripped (inClass : Char → Bool) (text : List Char) : Prop where
  first : ∀ character, text.head? = some character → inClass character = false
  last : ∀ character, text.getLast? = some character → inClass character = false

section IsStripped

variable {inClass : Char → Bool} {text : List Char}

theorem isStripped_of_forall_mem (none : ∀ character ∈ text, inClass character = false) :
    IsStripped inClass text := by
  constructor
  · intro character isFirst
    exact none character (List.mem_of_head? isFirst)
  · intro character isLast
    exact none character (List.mem_of_getLast? isLast)

theorem IsStripped.reverse (stripped : IsStripped inClass text) :
    IsStripped inClass text.reverse := by
  constructor
  · intro character isFirst
    exact stripped.last character (List.head?_reverse.symm.trans isFirst)
  · intro character isLast
    exact stripped.first character (List.getLast?_reverse.symm.trans isLast)

theorem IsStripped.dropWhile (stripped : IsStripped inClass text) :
    text.dropWhile inClass = text := by
  cases text with
  | nil => rfl
  | cons character rest => simp [stripped.first character rfl]

theorem stripBoth_eq_self (stripped : IsStripped inClass text) : stripBoth inClass text = text := by
  rw [stripBoth, stripped.dropWhile, stripped.reverse.dropWhile, List.reverse_reverse]

end IsStripped

end VirtualTables.Text
