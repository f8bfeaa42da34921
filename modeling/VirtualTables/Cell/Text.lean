import VirtualTables.Cell.Basic
import VirtualTables.Decimal.Notation
import VirtualTables.Text.Diagnostic

/-!
The two texts of a cell: the plain one, in which rows are shown, and the diagnostic one, which
names the type and quotes what is inside.
-/

namespace VirtualTables

/-- Numbers in shown rows: always positional, a whole number without a point. -/
def NumberStyle.plain : NumberStyle :=
  ⟨.up, none, false, false⟩

/-- Numbers in diagnostics: an exponent below 0.0001 and from 10 ^ 16 on. -/
def NumberStyle.diagnostic : NumberStyle :=
  ⟨.up, some (-4, 15), true, false⟩

namespace Cell

def shown : Cell → String
  | .null => "NULL"
  | .number value => NumberStyle.plain.text value
  | .string value => value
  | .date value => value.millisText
  | .boolean value => Text.Diagnostic.boolean value
  | .integer value => toString value.toInt
  | .bigNumber value => value
  | .binary value => "<" ++ toString value.length ++ " bytes>"
  | .timestamp value => value.nanosText

def diagnostic : Cell → String
  | .null => "Null"
  | .number value => "Number(" ++ NumberStyle.diagnostic.text value ++ ")"
  | .string value => "String(" ++ Text.quoted value ++ ")"
  | .date value => "Date(" ++ value.isoText ++ ")"
  | .boolean value => "Boolean(" ++ Text.Diagnostic.boolean value ++ ")"
  | .integer value => "Integer(" ++ toString value.toInt ++ ")"
  | .bigNumber value => "BigNumber(" ++ Text.quoted value ++ ")"
  | .binary value =>
      "Binary(" ++ Text.Diagnostic.list (value.map fun byte => toString byte.toNat) ++ ")"
  | .timestamp value => "Timestamp(" ++ value.isoText ++ ")"

end Cell

end VirtualTables
