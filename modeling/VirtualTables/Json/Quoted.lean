import VirtualTables.Text.Ascii

/-!
Strings of JSON texts. Writing escapes the quote, the backslash and the control characters below
the space; reading accepts every escape that JSON has and no control character.
-/

namespace VirtualTables.Json

open Text

def quotedChar (character : Char) : List Char :=
  match character with
  | '"' => ['\\', '"']
  | '\\' => ['\\', '\\']
  | '\x08' => ['\\', 'b']
  | '\x0c' => ['\\', 'f']
  | '\n' => ['\\', 'n']
  | '\r' => ['\\', 'r']
  | '\t' => ['\\', 't']
  | other => if other < ' ' then '\\' :: 'u' :: paddedHex 4 other.toNat else [other]

def quoted (text : List Char) : List Char :=
  '"' :: text.flatMap quotedChar ++ ['"']

def shortEscape? : Char → Option Char
  | '"' => some '"'
  | '\\' => some '\\'
  | '/' => some '/'
  | 'b' => some '\x08'
  | 'f' => some '\x0c'
  | 'n' => some '\n'
  | 'r' => some '\r'
  | 't' => some '\t'
  | _ => none

/-- The character of an escape with four hexadecimal digits, or with two times four for a pair of
surrogates, and the rest. A surrogate outside such a pair is refused. -/
def unicodeEscape? : List Char → Option (Char × List Char)
  | a :: b :: c :: d :: rest => do
      let code ← natInBase? 16 [a, b, c, d]
      if code < 0xD800 ∨ 0xE000 ≤ code then return (Char.ofNat code, rest)
      else if 0xDC00 ≤ code then none
      else
        match rest with
        | '\\' :: 'u' :: e :: f :: g :: h :: rest => do
            let low ← natInBase? 16 [e, f, g, h]
            if 0xDC00 ≤ low ∧ low < 0xE000 then
              return (Char.ofNat (0x10000 + (code - 0xD800) * 1024 + (low - 0xDC00)), rest)
            else none
        | _ => none
  | _ => none

/-- The character of an escape whose backslash has been read, and the rest. -/
def escape? : List Char → Option (Char × List Char)
  | [] => none
  | 'u' :: rest => unicodeEscape? rest
  | letter :: rest => (shortEscape? letter).map (·, rest)

theorem unicodeEscape?_length {text rest : List Char} {character : Char}
    (found : unicodeEscape? text = some (character, rest)) : rest.length < text.length := by
  unfold unicodeEscape? at found
  split at found
  · simp only [Option.bind_eq_bind, Option.bind_eq_some_iff] at found
    obtain ⟨code, _, found⟩ := found
    split at found
    · simp only [Option.pure_def, Option.some.injEq, Prod.mk.injEq] at found
      obtain ⟨_, rfl⟩ := found
      simp only [List.length_cons]
      omega
    · split at found
      · simp at found
      · split at found
        · simp only [Option.bind_eq_some_iff] at found
          obtain ⟨low, _, found⟩ := found
          split at found
          · simp only [Option.pure_def, Option.some.injEq, Prod.mk.injEq] at found
            obtain ⟨_, rfl⟩ := found
            simp only [List.length_cons]
            omega
          · simp at found
        · simp at found
  · simp at found

theorem escape?_length {text rest : List Char} {character : Char}
    (found : escape? text = some (character, rest)) : rest.length < text.length := by
  unfold escape? at found
  split at found
  · simp at found
  · have := unicodeEscape?_length found
    simp only [List.length_cons]
    omega
  · simp only [Option.map_eq_some_iff, Prod.mk.injEq] at found
    obtain ⟨_, _, _, rfl⟩ := found
    simp

/-- The text of a JSON string whose opening quote has been read, and what follows it. -/
def string? (text : List Char) : Option (List Char × List Char) :=
  match text with
  | [] => none
  | '"' :: rest => some ([], rest)
  | '\\' :: rest =>
      match _ : escape? rest with
      | none => none
      | some (character, rest) =>
          (string? rest).map fun (value, rest) => (character :: value, rest)
  | character :: rest =>
      if character < ' ' then none
      else (string? rest).map fun (value, rest) => (character :: value, rest)
termination_by text.length
decreasing_by
  · have := escape?_length ‹_›
    simp only [List.length_cons]
    omega
  · simp

end VirtualTables.Json
