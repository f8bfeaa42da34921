import VirtualTables.Cell.Text

/-!
Rows of cells and the layout of columns that names and types them.

`Layout.indexOf?` finds a column by its exact name before it looks for one whose name differs in
the case of letters only.
-/

namespace VirtualTables

structure Column where
  /-- The name, which need not be unique. -/
  name : String
  type : CellType
deriving DecidableEq

structure Layout where
  columns : List Column
deriving DecidableEq

namespace Layout

def size (layout : Layout) : Nat :=
  layout.columns.length

def isEmpty (layout : Layout) : Bool :=
  layout.columns.isEmpty

def names (layout : Layout) : List String :=
  layout.columns.map (·.name)

/-- The position of the column with a name: an exact match first, then one up to case. -/
def indexOf? (layout : Layout) (name : String) : Option Nat :=
  (layout.columns.findIdx? fun column => column.name == name) <|>
    layout.columns.findIdx? fun column => Text.sameName column.name name

end Layout

structure Row where
  cells : List Cell
deriving DecidableEq

namespace Row

def get? (row : Row) (layout : Layout) (name : String) : Option Cell :=
  (layout.indexOf? name).bind (row.cells[·]?)

/-- The text of a row: its cells between parentheses. -/
def shown (row : Row) : String :=
  "(" ++ ", ".intercalate (row.cells.map Cell.shown) ++ ")"

end Row

/-- Whether a row has one cell for every column and each cell fits its column. -/
def Layout.accepts (layout : Layout) (row : Row) : Bool :=
  row.cells.length == layout.size &&
    (layout.columns.zip row.cells).all fun (column, cell) => column.type.fits cell

end VirtualTables
