import VirtualTables.Toml.Quoted
import VirtualTables.Text.Split
import VirtualTables.Toml.Scalar

/-!
Reading TOML documents, line by line.

Every line is empty, a header, or a key with its value; a comment may end it. A document that breaks
a rule of the format, also one on keys given twice, is refused as a whole.
-/

namespace VirtualTables.Toml

open Text

def skipSpaces (text : List Char) : List Char :=
  text.dropWhile isSpace

def isCommentChar (character : Char) : Bool :=
  character == '\t' || 0x20 ≤ character.toNat

def skipComment (text : List Char) : List Char :=
  match text with
  | '#' :: rest => rest.dropWhile isCommentChar
  | text => text

/-- Pass over blanks, comments and line breaks; with the number of lines at most. -/
def skipLines : (most : Nat) → List Char → List Char
  | 0, text => text
  | most + 1, text =>
      let text := skipComment (skipSpaces text)
      match lineBreak? text with
      | none => text
      | some rest => skipLines most rest

def isKeyChar (character : Char) : Bool :=
  let small := lower character
  isDigit character || ('a' ≤ small && small ≤ 'z') || character == '_' || character == '-'

def keyPart? (text : List Char) : Option (String × List Char) :=
  match shortString? text with
  | some (key, rest) => some (String.ofList key, rest)
  | none =>
      let key := text.takeWhile isKeyChar
      if key.isEmpty then none else some (String.ofList key, text.dropWhile isKeyChar)

/-- A key: parts with dots between them, the last part apart; with the number of parts at most. -/
def key? : (most : Nat) → List Char → Option ((List String × String) × List Char)
  | 0, _ => none
  | most + 1, text => do
      let (part, text) ← keyPart? (skipSpaces text)
      match skipSpaces text with
      | '.' :: rest => do
          let ((path, key), rest) ← key? most rest
          return ((part :: path, key), rest)
      | rest => return (([], part), rest)

mutual

def value? : (most : Nat) → List Char → Option (Value × List Char)
  | 0, _ => none
  | most + 1, text =>
      match text with
      | '[' :: rest => (items? most rest []).map fun (values, rest) => (.array false values, rest)
      | '\x7b' :: rest =>
          match skipSpaces rest with
          | '\x7d' :: rest => some (.table .closed [], rest)
          | rest => (pairs? most rest []).map fun (entries, rest) => (.table .closed entries, rest)
      | text =>
          match text.head? with
          | some '"' => (string? text).map fun (content, rest) => (.string content, rest)
          | some '\'' => (string? text).map fun (content, rest) => (.string content, rest)
          | _ => (scalar? (word text).1).map (·, (word text).2)

def items? : (most : Nat) → List Char → List Value → Option (List Value × List Char)
  | 0, _, _ => none
  | most + 1, text, before =>
      match skipLines (text.length + 1) text with
      | ']' :: rest => some (before.reverse, rest)
      | text => do
          let (value, text) ← value? most text
          match skipLines (text.length + 1) text with
          | ',' :: rest => items? most rest (value :: before)
          | ']' :: rest => some ((value :: before).reverse, rest)
          | _ => none

def pairs? : (most : Nat) → List Char → Entries → Option (Entries × List Char)
  | 0, _, _ => none
  | most + 1, text, before => do
      let ((path, key), text) ← key? (text.length + 1) text
      match text with
      | '=' :: rest => do
          let (value, text) ← value? most (skipSpaces rest)
          let entries ← before.define path key value .defined
          match skipSpaces text with
          | ',' :: rest => pairs? most rest entries
          | '\x7d' :: rest => some (entries, rest)
          | _ => none
      | _ => none

end

/-- The tables read so far and the path of the table that keys belong to. -/
structure Document where
  entries : Entries
  current : List String

namespace Document

/-- The header of a table or, between double brackets, of an item of an array of tables. -/
def header? (document : Document) (text : List Char) : Option (Document × List Char) :=
  match text with
  | '[' :: rest => do
      let ((path, key), rest) ← key? (rest.length + 1) rest
      let rest ← afterStart? [']', ']'] rest
      let entries ← document.entries.beginItem path key
      return (⟨entries, path ++ [key]⟩, rest)
  | text => do
      let ((path, key), rest) ← key? (text.length + 1) text
      let rest ← afterStart? [']'] rest
      let entries ← document.entries.beginTable path key
      return (⟨entries, path ++ [key]⟩, rest)

def pair? (document : Document) (text : List Char) : Option (Document × List Char) := do
  let ((path, key), text) ← key? (text.length + 1) text
  let rest ← afterStart? ['='] text
  let rest := skipSpaces rest
  let (value, rest) ← value? (3 * rest.length + 3) rest
  let entries ← document.entries.extend false (Entries.define path key value) document.current
    .defined
  return ({ document with entries }, rest)

/-- What a line holds, its comment and break aside, and the rest behind it. -/
def line? (document : Document) (text : List Char) : Option (Document × List Char) :=
  match skipSpaces text with
  | [] => some (document, [])
  | '[' :: rest => document.header? rest
  | first :: rest =>
      if first = '#' ∨ first = '\r' ∨ first = '\n' then some (document, first :: rest)
      else document.pair? (first :: rest)

def lines? : (most : Nat) → Document → List Char → Option Document
  | 0, _, _ => none
  | most + 1, document, text => do
      let (document, rest) ← document.line? text
      match skipComment (skipSpaces rest) with
      | [] => return document
      | rest => do lines? most document (← lineBreak? rest)

end Document

def read? (text : String) : Option Entries :=
  let text := (afterStart? ['\uFEFF'] text.toList).getD text.toList
  (Document.lines? (text.length + 1) ⟨[], []⟩ text).map (·.entries)

end VirtualTables.Toml
