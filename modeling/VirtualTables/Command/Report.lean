import VirtualTables.Cell.Json
import VirtualTables.Command.Arguments
import VirtualTables.Dictionary
import VirtualTables.Session

/-!
What the tasks of the command line print.
-/

namespace VirtualTables.Command

variable {σ : Type}

structure Report where
  lines : List String
  /-- A remark at the end, or the failure that ends the task. -/
  ending : Except Fault (Option String)

def tabbed (pieces : List String) : String :=
  "\t".intercalate pieces

def serviceLines (service : Service) : List String :=
  service.name :: service.fields.map fun field => "  " ++ field.name ++ " " ++ field.type.name

def tableLine (table : Catalog.Table) : String :=
  tabbed [table.schema, table.name, table.type]

def columnLine (column : Catalog.TableColumn) : String :=
  tabbed [column.table, toString column.ordinal, column.name, column.type.sqlTypeName,
    column.type.name]

def rowMembers (layout : Layout) (row : Row) : Dictionary Cell :=
  .ofList (layout.names.zip row.cells)

def rowObject (layout : Layout) (row : Row) : String :=
  let members := (rowMembers layout row).entries.map fun (name, cell) =>
    String.ofList (Json.quoted name.toList) ++ ":" ++ cell.toJson
  "\x7b" ++ ",".intercalate members ++ "\x7d"

def rowLine (asJson : Bool) (layout : Layout) (row : Row) : String :=
  if asJson then rowObject layout row else tabbed (row.cells.map Cell.shown)

/-- What is printed of a row stream: the names of the columns, unless rows are printed as JSON, and
the rows up to the end or the first failure. -/
def rowReport (asJson : Bool) (cursor : Cursor) : Report :=
  let (rows, fault?) := cursor.drain.1
  let heading := if asJson then [] else [tabbed cursor.layout.names]
  ⟨heading ++ rows.map (rowLine asJson cursor.layout),
    match fault? with
    | none => .ok (some (toString rows.length ++ " row(s)"))
    | some fault => .error (.rows fault)⟩

def Report.ofLines (lines : List String) : Report :=
  ⟨lines, .ok none⟩

def Task.report (task : Task) (session : Session σ) : Attempt σ Report :=
  match task with
  | .status => return .ofLines ["OK " ++ session.address.baseUrl]
  | .services => do
      return .ofLines ((← session.backend.services).flatMap serviceLines)
  | .tables schema table => do
      return .ofLines ((← Catalog.findTables session.backend schema table).map tableLine)
  | .columns schema table column => do
      return .ofLines ((← Catalog.findColumns session.backend schema table column).map columnLine)
  | .query sql maxRows asJson => do
      return rowReport asJson (← session.execute (.ofStatement sql maxRows))

end VirtualTables.Command
