import VirtualTables.Decimal.Reading
import VirtualTables.Settings.Value
import VirtualTables.Text.Blank
import VirtualTables.Text.Split
import VirtualTables.Toml.Quoted

/-!
Settings from environment variables.

A name with the right beginning is a path of keys, with two underscores between them. The text of a
variable is a truth value, a number, a quoted text or character, a list between brackets or a table
between braces; everything else stands for itself.
-/

namespace VirtualTables.Settings.Value

open Text

def isGap (character : Char) : Bool :=
  [' ', '\t', '\n', '\x0c', '\r'].contains character

def skipGap (text : List Char) : List Char :=
  text.dropWhile isGap

def endsWord (character : Char) : Bool :=
  [',', '{', '}', '[', ']'].contains character

def isKeyChar (character : Char) : Bool :=
  let small := lower character
  isDigit character || ('a' ≤ small && small ≤ 'z') || character == '_' || character == '-'

/-- The value of a word without quotes: a number with a point, an integer, or the word itself. -/
def ofWord (word : List Char) : Value :=
  let float? := if word.contains '.' then Binary64.ofText? word else none
  match float?, intOfText? Int64.minValue.toInt (UInt64.size - 1) word with
  | some value, _ => .float value
  | none, some value => .integer value
  | none, none => .string word

def key? (text : List Char) : Option (String × List Char) := do
  let (key, text) ←
    match skipGap text with
    | '"' :: rest => Toml.basic? (rest.length + 1) rest []
    | text =>
        let key := text.takeWhile isKeyChar
        if key.isEmpty then none else some (key, text.dropWhile isKeyChar)
  let text ← afterStart? ['='] (skipGap text)
  return (String.ofList key, text)

mutual

/-- The value at the front, with the blanks around it; with the number of steps at most. -/
def value? : (most : Nat) → List Char → Option (Value × List Char)
  | 0, _ => none
  | most + 1, text =>
      let text := skipGap text
      let found : Option (Value × List Char) :=
        match afterStart? "true".toList text, afterStart? "false".toList text with
        | some rest, _ => some (.truth true, rest)
        | none, some rest => some (.truth false, rest)
        | none, none =>
            match text with
            | '\x7b' :: rest =>
                (pairs? most rest []).map fun (entries, rest) => (.table entries, rest)
            | '[' :: rest => (items? most rest []).map fun (values, rest) => (.list values, rest)
            | '"' :: rest =>
                (Toml.basic? (rest.length + 1) rest []).map fun (content, rest) =>
                  (.string content, rest)
            | '\'' :: character :: '\'' :: rest => some (.string [character], rest)
            | '\'' :: _ => none
            | text =>
                some (ofWord (trim (text.takeWhile (!endsWord ·))), text.dropWhile (!endsWord ·))
      found.map fun (value, rest) => (value, skipGap rest)

def items? : (most : Nat) → List Char → List Value → Option (List Value × List Char)
  | 0, _, _ => none
  | _ + 1, ']' :: rest, before => some (before.reverse, rest)
  | most + 1, text, before => do
      let (value, text) ← value? most text
      match text with
      | ',' :: rest => items? most rest (value :: before)
      | ']' :: rest => some ((value :: before).reverse, rest)
      | _ => none

def pairs? :
    (most : Nat) → List Char → List (String × Value) → Option (List (String × Value) × List Char)
  | 0, _, _ => none
  | _ + 1, '\x7d' :: rest, before => some (before, rest)
  | most + 1, text, before => do
      let (key, text) ← key? text
      let (value, text) ← value? most text
      match text with
      | ',' :: rest => pairs? most rest (put key value before)
      | '\x7d' :: rest => some (put key value before, rest)
      | _ => none

end

def ofText (text : List Char) : Value :=
  let text := trim text
  match value? (2 * text.length + 2) text with
  | some (value, []) => value
  | _ => .string text

/-- The parts of a name between two underscores or points. -/
def segments : List Char → List (List Char)
  | [] => [[]]
  | '_' :: '_' :: rest => [] :: segments rest
  | '.' :: rest => [] :: segments rest
  | character :: rest =>
      match segments rest with
      | [] => [[character]]
      | segment :: others => (character :: segment) :: others

def nameStart : List Char := "dataservice_".toList

/-- The path of keys that the name of a variable stands for, if it begins as it has to. -/
def path? (name : String) : Option (List String) := do
  let rest ← afterStart? nameStart ((trim name.toList).map lower)
  let keys := segments rest
  if keys.any (·.isEmpty) then none else some (keys.map String.ofList)

/-- What the variables of an environment say together, the later ones over the earlier. -/
def ofVariables (environment : List (String × String)) : Value :=
  environment.foldl (fun value entry =>
    match path? entry.1 with
    | none => value
    | some path => merge value (nested path (ofText entry.2.toList))) (.table [])

end VirtualTables.Settings.Value
