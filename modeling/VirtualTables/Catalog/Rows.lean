import VirtualTables.Catalog.Introspection
import VirtualTables.Catalog.Pattern
import VirtualTables.Listing.Service

/-!
The catalog of virtual tables: one schema, one table for each service, one column for each field.

Each entry has a form as a row, in the layout of its kind of question.
-/

namespace VirtualTables.Catalog

def schemaName : String := "Kettle"

def tableType : String := "TABLE"

structure Schema where
  name : String
deriving DecidableEq

structure Table where
  schema : String
  name : String
  type : String
deriving DecidableEq

structure TableColumn where
  schema : String
  table : String
  name : String
  type : CellType
  size : Option Int32
  decimalDigits : Option Int32
  /-- The position in the table, from one. -/
  ordinal : Nat
deriving DecidableEq

def integerCell (value : Int) : Cell :=
  .integer (Int64.ofInt value)

def optionalCell (value : Option Int32) : Cell :=
  match value with
  | none => .null
  | some number => integerCell number.toInt

def Schema.row (schema : Schema) : Row :=
  ⟨[.string schema.name, .null]⟩

def Table.row (table : Table) : Row :=
  ⟨[.null, .string table.schema, .string table.name, .string table.type, .null]⟩

def TableColumn.row (column : TableColumn) : Row :=
  ⟨[.null, .string column.schema, .string column.table, .string column.name,
    integerCell column.type.sqlType, .string column.type.sqlTypeName, optionalCell column.size,
    optionalCell column.decimalDigits, integerCell 1, integerCell column.ordinal, .string "YES"]⟩

def schemas : List Schema :=
  [⟨schemaName⟩]

def tableOf (service : Service) : Table :=
  ⟨schemaName, service.name, tableType⟩

def tables (services : List Service) (names : NamePattern) : List Table :=
  (services.filter fun service => names.accepts service.name).map tableOf

def columnsOf (service : Service) : List TableColumn :=
  service.fields.zipIdx.map fun (field, index) =>
    ⟨schemaName, service.name, field.name, field.type, field.length, field.precision, index + 1⟩

def columns (services : List Service) (names columnNames : NamePattern) : List TableColumn :=
  (services.filter fun service => names.accepts service.name).flatMap fun service =>
    (columnsOf service).filter fun column => columnNames.accepts column.name

end VirtualTables.Catalog
