import VirtualTables.Calendar.Instant
import VirtualTables.Cell.Type
import VirtualTables.Decimal.Reading

/-!
The values of table cells, their types, and their views as simpler values.
-/

namespace VirtualTables

/-- The value of one cell. A big number is kept as the text that writes it. -/
inductive Cell where
  | null
  | number (value : Binary64)
  | string (value : String)
  | date (value : Instant)
  | boolean (value : Bool)
  | integer (value : Int64)
  | bigNumber (value : String)
  | binary (value : List UInt8)
  | timestamp (value : Instant)
deriving DecidableEq

namespace Cell

def type? : Cell → Option CellType
  | .null => none
  | .number _ => some .number
  | .string _ => some .string
  | .date _ => some .date
  | .boolean _ => some .boolean
  | .integer _ => some .integer
  | .bigNumber _ => some .bigNumber
  | .binary _ => some .binary
  | .timestamp _ => some .timestamp

def isNull : Cell → Bool
  | .null => true
  | _ => false

def text? : Cell → Option String
  | .string value => some value
  | .bigNumber value => some value
  | _ => none

/-- The value of an integer, or the milliseconds of a date or timestamp. -/
def integer? : Cell → Option Int
  | .integer value => some value.toInt
  | .date value => some value.millis
  | .timestamp value => some value.millis
  | _ => none

def number? : Cell → Option Binary64
  | .number value => some value
  | .integer value => some (Binary64.ofInt value.toInt)
  | .bigNumber value => Binary64.ofText? value.toList
  | _ => none

def boolean? : Cell → Option Bool
  | .boolean value => some value
  | _ => none

def instant? : Cell → Option Instant
  | .date value => some value
  | .timestamp value => some value
  | _ => none

def bytes? : Cell → Option (List UInt8)
  | .binary value => some value
  | _ => none

theorem isNull_of_type? {cell : Cell} {type : CellType} (typed : cell.type? = some type) :
    cell.isNull = false := by
  cases cell with
  | null => cases typed
  | _ => rfl

end Cell

/-- Whether a column of a type can hold a value: every column can hold null. -/
def CellType.fits (type : CellType) (cell : Cell) : Bool :=
  match cell.type? with
  | none => true
  | some other => other == type

theorem CellType.fits_iff {type : CellType} {cell : Cell} :
    type.fits cell = true ↔ cell = .null ∨ cell.type? = some type := by
  cases cell <;> simp [fits, Cell.type?]

end VirtualTables
