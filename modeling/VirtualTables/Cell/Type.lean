import VirtualTables.Text.Ascii
import VirtualTables.Text.Blank

/-!
The types that a column of a virtual table can have, with their numbers in row streams, their
names in service listings and their SQL types.
-/

namespace VirtualTables

inductive CellType where
  | number
  | string
  | date
  | boolean
  | integer
  | bigNumber
  | binary
  | timestamp
deriving DecidableEq

namespace CellType

def all : List CellType :=
  [.number, .string, .date, .boolean, .integer, .bigNumber, .binary, .timestamp]

/-- The number of a type in the layout of a row stream. Seven names no type. -/
def wireId : CellType → Nat
  | .number => 1
  | .string => 2
  | .date => 3
  | .boolean => 4
  | .integer => 5
  | .bigNumber => 6
  | .binary => 8
  | .timestamp => 9

def ofWireId? (number : Int) : Option CellType :=
  all.find? fun type => (type.wireId : Int) == number

def name : CellType → String
  | .number => "Number"
  | .string => "String"
  | .date => "Date"
  | .boolean => "Boolean"
  | .integer => "Integer"
  | .bigNumber => "BigNumber"
  | .binary => "Binary"
  | .timestamp => "Timestamp"

/-- The type with a name, blanks around it and the case of its letters aside. -/
def ofName? (name : String) : Option CellType :=
  let name := Text.trim name.toList
  all.find? fun type => Text.sameLetters type.name.toList name

def sqlType : CellType → Int
  | .number => 8
  | .string => 12
  | .date => 91
  | .boolean => 16
  | .integer => -5
  | .bigNumber => 3
  | .binary => -4
  | .timestamp => 93

def sqlTypeName : CellType → String
  | .number => "DOUBLE"
  | .string => "VARCHAR"
  | .date => "DATE"
  | .boolean => "BOOLEAN"
  | .integer => "BIGINT"
  | .bigNumber => "DECIMAL"
  | .binary => "LONGVARBINARY"
  | .timestamp => "TIMESTAMP"

@[simp]
theorem ofWireId?_wireId (type : CellType) : ofWireId? type.wireId = some type := by
  cases type <;> decide

theorem wireId_of_ofWireId? {number : Int} {type : CellType}
    (found : ofWireId? number = some type) : (type.wireId : Int) = number := by
  have chosen : ((type.wireId : Int) == number) = true :=
    List.find?_some (p := fun type : CellType => (type.wireId : Int) == number) found
  exact eq_of_beq chosen

@[simp]
theorem ofName?_name (type : CellType) : ofName? type.name = some type := by
  cases type <;> decide

end CellType

end VirtualTables
