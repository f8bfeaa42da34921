import VirtualTables.Calendar.Reading
import VirtualTables.Cell.Text
import VirtualTables.Json.Number
import VirtualTables.Json.Quoted
import VirtualTables.Text.Split

/-!
Cells as JSON texts: an object with the name of the type as its only key, such as
`{"Integer":5}`, or the string `"Null"`.

`Cell.toJson` writes without blanks. `Cell.ofJson?` also takes blanks between the tokens, any
escape in a string and `{"Null":null}`, and refuses every other shape, a number out of range and
text after the end. A number that is no number has the JSON text `null`, which cannot be read back.
-/

namespace VirtualTables

/-- Numbers in JSON texts: an exponent below 0.00001 and from 10 ^ 16 on. -/
def NumberStyle.json : NumberStyle :=
  ⟨.toEven, some (-5, 15), true, true⟩

namespace Cell

open Json

/-- The value of a cell, without its type, as a JSON text. -/
def jsonValue : Cell → List Char
  | .null => "null".toList
  | .number value => if value.isFinite then (NumberStyle.json.text value).toList else "null".toList
  | .string value => Json.quoted value.toList
  | .date value => Json.quoted value.isoText.toList
  | .boolean value => (Text.Diagnostic.boolean value).toList
  | .integer value => (toString value.toInt).toList
  | .bigNumber value => Json.quoted value.toList
  | .binary value =>
      '[' :: [','].intercalate (value.map fun byte => (toString byte.toNat).toList) ++ [']']
  | .timestamp value => Json.quoted value.isoText.toList

def toJson (cell : Cell) : String :=
  match cell.type? with
  | none => "\"Null\""
  | some type =>
      String.ofList
        ('\x7b' :: Json.quoted type.name.toList ++ ':' :: cell.jsonValue ++ ['\x7d'])

def isJsonBlank (character : Char) : Bool :=
  character == ' ' || character == '\n' || character == '\t' || character == '\r'

def skipBlanks (text : List Char) : List Char :=
  text.dropWhile isJsonBlank

def token? (token : Char) (text : List Char) : Option (List Char) :=
  match skipBlanks text with
  | [] => none
  | first :: rest => if first = token then some rest else none

def stringToken? (text : List Char) : Option (List Char × List Char) := do
  let text ← token? '"' text
  Json.string? text

def word? (word : String) (text : List Char) : Option (List Char) :=
  Text.afterStart? word.toList (skipBlanks text)

def byteToken? (text : List Char) : Option (UInt8 × List Char) :=
  match Json.number? (skipBlanks text) with
  | some (.natural value, rest) => if value < 256 then some (UInt8.ofNat value, rest) else none
  | _ => none

/-- The bytes after a first one, each behind a comma, up to the closing bracket; with the number of
bytes to read at most. -/
def moreBytes? : Nat → List Char → Option (List UInt8 × List Char)
  | 0, _ => none
  | most + 1, text =>
      match token? ']' text with
      | some rest => some ([], rest)
      | none => do
          let text ← token? ',' text
          let (byte, text) ← byteToken? text
          let (bytes, rest) ← moreBytes? most text
          return (byte :: bytes, rest)

def bytesToken? (text : List Char) : Option (List UInt8 × List Char) := do
  let text ← token? '[' text
  match token? ']' text with
  | some rest => return ([], rest)
  | none =>
      let (byte, text) ← byteToken? text
      let (bytes, rest) ← moreBytes? text.length text
      return (byte :: bytes, rest)

def instantToken? (text : List Char) : Option (Instant × List Char) := do
  let (value, rest) ← stringToken? text
  let instant ← Instant.ofText? value
  return (instant, rest)

def ofJsonValue? (type : CellType) (text : List Char) : Option (Cell × List Char) :=
  match type with
  | .number => (Json.number? (skipBlanks text)).map fun (n, rest) => (.number n.toBinary64, rest)
  | .string => (stringToken? text).map fun (value, rest) => (.string (String.ofList value), rest)
  | .date => (instantToken? text).map fun (value, rest) => (.date value, rest)
  | .boolean =>
      match word? "true" text with
      | some rest => some (.boolean true, rest)
      | none => (word? "false" text).map fun rest => (.boolean false, rest)
  | .integer =>
      match Json.number? (skipBlanks text) with
      | some (.natural value, rest) =>
          if value < 0x8000000000000000 then some (.integer (Int64.ofNat value), rest) else none
      | some (.negative value, rest) => some (.integer (Int64.ofInt value), rest)
      | _ => none
  | .bigNumber =>
      (stringToken? text).map fun (value, rest) => (.bigNumber (String.ofList value), rest)
  | .binary => (bytesToken? text).map fun (value, rest) => (.binary value, rest)
  | .timestamp => (instantToken? text).map fun (value, rest) => (.timestamp value, rest)

/-- The type with a name, which must match letter for letter. -/
def typeNamed? (name : List Char) : Option CellType :=
  CellType.all.find? fun type => type.name.toList == name

/-- The cell that a quoted name stands for; the opening quote has been read. -/
def named? (text : List Char) : Option (Cell × List Char) := do
  let (name, rest) ← Json.string? text
  if name = "Null".toList then some (.null, rest) else none

/-- The cell in an object with one key, whose opening brace has been read. -/
def keyed? (text : List Char) : Option (Cell × List Char) := do
  let (name, text) ← stringToken? text
  let text ← token? ':' text
  let (cell, text) ←
    if name = "Null".toList then (word? "null" text).map (Cell.null, ·)
    else (typeNamed? name).bind (ofJsonValue? · text)
  let rest ← token? '\x7d' text
  return (cell, rest)

def ofJson? (text : String) : Option Cell := do
  let (cell, rest) ←
    match skipBlanks text.toList with
    | '"' :: text => named? text
    | '\x7b' :: text => keyed? text
    | _ => none
  if (skipBlanks rest).isEmpty then some cell else none

end Cell

end VirtualTables
