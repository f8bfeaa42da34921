import VirtualTables.Text.Ascii

/-!
The strings of TOML documents: basic ones with escapes and literal ones without, on one line or
between three quotes on several.
-/

namespace VirtualTables.Toml

open Text

def isSpace (character : Char) : Bool :=
  character == ' ' || character == '\t'

def isPrintable (character : Char) : Bool :=
  character == '\t' || (0x20 ≤ character.toNat && character.toNat != 0x7F)

def lineBreak? : List Char → Option (List Char)
  | '\n' :: rest => some rest
  | '\r' :: '\n' :: rest => some rest
  | _ => none

def shortEscape? : Char → Option Char
  | 'b' => some '\x08'
  | 't' => some '\t'
  | 'n' => some '\n'
  | 'f' => some '\x0c'
  | 'r' => some '\r'
  | '"' => some '"'
  | '\\' => some '\\'
  | _ => none

/-- The character of an escape whose backslash has been read, and the rest. -/
def escape? : List Char → Option (Char × List Char)
  | [] => none
  | mark :: rest =>
      let count := if mark = 'u' then 4 else if mark = 'U' then 8 else 0
      if count = 0 then (shortEscape? mark).map (·, rest)
      else do
        let code ← natInBase? 16 (rest.take count)
        if (rest.take count).length = count ∧
            (code < 0xD800 ∨ (0xE000 ≤ code ∧ code < 0x110000)) then
          return (Char.ofNat code, rest.drop count)
        else none

/-- The rest behind a line break that a backslash joins: without the blanks and line breaks that
follow. -/
def joined? (text : List Char) : Option (List Char) :=
  match lineBreak? (text.dropWhile isSpace) with
  | none => none
  | some rest => some (rest.dropWhile fun c => isSpace c || c == '\n' || c == '\r')

/-- The content of a string and the rest, given what has been read of it, the latest first; with
the number of characters to read at most. -/
def basic? : (most : Nat) → List Char → List Char → Option (List Char × List Char)
  | 0, _, _ => none
  | _ + 1, [], _ => none
  | _ + 1, '"' :: rest, before => some (before.reverse, rest)
  | most + 1, '\\' :: rest, before => do
      let (character, rest) ← escape? rest
      basic? most rest (character :: before)
  | most + 1, character :: rest, before =>
      if isPrintable character then basic? most rest (character :: before) else none

/-- The quotes at the end of a string between three quotes: up to two more belong to it. -/
def closing? (quote : Char) (text : List Char) : Option (List Char × List Char) :=
  let quotes := (text.takeWhile (· == quote)).length
  if 3 ≤ quotes then
    let inside := min (quotes - 3) 2
    some (List.replicate inside quote, text.drop (inside + 3))
  else none

def longBasic? : (most : Nat) → List Char → List Char → Option (List Char × List Char)
  | 0, _, _ => none
  | _ + 1, [], _ => none
  | most + 1, character :: rest, before =>
      match closing? '"' (character :: rest), lineBreak? (character :: rest) with
      | some (quotes, rest), _ => some (before.reverse ++ quotes, rest)
      | none, some rest => longBasic? most rest ('\n' :: before)
      | none, none =>
          if character = '\\' then
            match joined? rest with
            | some rest => longBasic? most rest before
            | none => do
                let (escaped, rest) ← escape? rest
                longBasic? most rest (escaped :: before)
          else if isPrintable character then longBasic? most rest (character :: before)
          else none

def longLiteral? : (most : Nat) → List Char → List Char → Option (List Char × List Char)
  | 0, _, _ => none
  | _ + 1, [], _ => none
  | most + 1, character :: rest, before =>
      match closing? '\'' (character :: rest), lineBreak? (character :: rest) with
      | some (quotes, rest), _ => some (before.reverse ++ quotes, rest)
      | none, some rest => longLiteral? most rest ('\n' :: before)
      | none, none =>
          if isPrintable character then longLiteral? most rest (character :: before) else none

def literal? (text : List Char) : Option (List Char × List Char) :=
  let content := text.takeWhile fun c => c != '\'' && isPrintable c
  match text.drop content.length with
  | '\'' :: rest => some (content, rest)
  | _ => none

def withoutBreak (text : List Char) : List Char :=
  (lineBreak? text).getD text

def shortString? : List Char → Option (List Char × List Char)
  | '"' :: rest => basic? (rest.length + 1) rest []
  | '\'' :: rest => literal? rest
  | _ => none

def string? : List Char → Option (List Char × List Char)
  | '"' :: '"' :: '"' :: rest => longBasic? (rest.length + 1) (withoutBreak rest) []
  | '\'' :: '\'' :: '\'' :: rest => longLiteral? (rest.length + 1) (withoutBreak rest) []
  | text => shortString? text

end VirtualTables.Toml
