import VirtualTables.Row
import VirtualTables.RowStream.Banner
import VirtualTables.RowStream.Reader

/-!
Reading the parts of a row stream: the banner, the layout and the records of rows.

A record is a marker byte followed, for each column, by a null flag and the cell unless the flag is
set. The bytes after the marker that ends the rows are never looked at.
-/

namespace VirtualTables.RowStream

def rowMarker : UInt8 := 0x01

def endMarker : UInt8 := 0x00

namespace Reader

def banner : Reader Banner := do
  let serviceName ← shortText "service name"
  let serviceTransformation ← shortText "service transformation"
  let serviceObjectId ← shortText "service object id"
  let sqlTransformation ← shortText "sql transformation"
  let sqlObjectId ← shortText "sql object id"
  return { serviceName, serviceTransformation, serviceObjectId, sqlTransformation, sqlObjectId }

def column : Reader Column := do
  let number ← int32 "field type"
  match CellType.ofWireId? number with
  | none => throw (.unknownType number)
  | some type => return ⟨← shortText "field name", type⟩

def columns : Nat → List Column → Reader (List Column)
  | 0, before => return before.reverse
  | count + 1, before => do columns count ((← column) :: before)

def layout : Reader Layout := do
  let count ← int32 "field count"
  if count < 0 then throw (.negativeCount count)
  return ⟨← columns count.toNat []⟩

def instant (item : String) : Reader Instant := do
  let word ← word64 item
  match Instant.ofMillis? word.toInt64.toInt with
  | none => throw (.dateOutOfRange item word.toInt64.toInt)
  | some instant => return instant

/-- A cell that is not null. -/
def value (item : String) : CellType → Reader Cell
  | .number => return .number ⟨← word64 item⟩
  | .string => return .string (← longText item)
  | .date => return .date (← instant item)
  | .boolean => return .boolean ((← byte item) != 0)
  | .integer => return .integer (← word64 item).toInt64
  | .bigNumber => return .bigNumber (← longText item)
  | .binary => return .binary (← longBytes item)
  | .timestamp => return .timestamp (← instant item)

/-- The cell of a column; a null flag that is not zero stands for null. -/
def cell (column : Column) : Reader Cell := do
  if (← byte column.name) != 0 then return .null
  value column.name column.type

def cells : List Column → List Cell → Reader (List Cell)
  | [], before => return before.reverse
  | column :: columns, before => do cells columns ((← cell column) :: before)

/-- What follows a marker: a row, or `none` after the marker that ends the rows. -/
def marked (layout : Layout) (marker : Nat) : Reader (Option Row) :=
  if marker = rowMarker.toNat then do return some ⟨← cells layout.columns []⟩
  else if marker = endMarker.toNat then return none
  else throw (.unknownMarker (UInt8.ofNat marker))

def record (layout : Layout) : Reader (Option Row) := do
  marked layout (← byte "row marker")

namespace Composed

theorem banner : Composed banner :=
  .bind (.shortText _) fun _ => .bind (.shortText _) fun _ => .bind (.shortText _) fun _ =>
    .bind (.shortText _) fun _ => .bind (.shortText _) fun _ => .pure _

theorem column : Composed column := by
  refine .bind (.int32 _) fun number => ?_
  split
  · exact .throw rfl rfl
  · exact .bind (.shortText _) fun _ => .pure _

theorem columns (count : Nat) (before : List Column) : Composed (columns count before) := by
  induction count generalizing before with
  | zero => exact .pure _
  | succ count inductionHypothesis => exact .bind .column fun _ => inductionHypothesis _

theorem layout : Composed layout := by
  refine .bind (.int32 _) fun count => ?_
  by_cases negative : count < 0
  · simp only [if_pos negative]
    exact .bind (.throw rfl rfl) fun _ => .bind (.columns _ _) fun _ => .pure _
  · simp only [if_neg negative]
    exact .bind (.columns _ _) fun _ => .pure _

theorem instant (item : String) : Composed (instant item) := by
  refine .bind (.word64 _) fun word => ?_
  split
  · exact .throw rfl rfl
  · exact .pure _

theorem value (item : String) (type : CellType) : Composed (value item type) := by
  cases type with
  | number => exact .bind (.word64 _) fun _ => .pure _
  | string => exact .bind (.longText _) fun _ => .pure _
  | date => exact .bind (.instant _) fun _ => .pure _
  | boolean => exact .bind (.byte _) fun _ => .pure _
  | integer => exact .bind (.word64 _) fun _ => .pure _
  | bigNumber => exact .bind (.longText _) fun _ => .pure _
  | binary => exact .bind (.longBytes _) fun _ => .pure _
  | timestamp => exact .bind (.instant _) fun _ => .pure _

theorem cell (column : Column) : Composed (cell column) := by
  refine .bind (.byte _) fun flag => ?_
  split
  · exact .pure _
  · exact .value _ _

theorem cells (columns : List Column) (before : List Cell) : Composed (cells columns before) := by
  induction columns generalizing before with
  | nil => exact .pure _
  | cons column columns inductionHypothesis =>
      exact .bind (.cell _) fun _ => inductionHypothesis _

theorem marked (layout : Layout) (marker : Nat) : Composed (marked layout marker) := by
  unfold Reader.marked
  split
  · exact .bind (.cells _ _) fun _ => .pure _
  · split
    · exact .pure _
    · exact .throw rfl rfl

theorem record (layout : Layout) : Composed (record layout) :=
  .bind (.byte _) fun _ => .marked _ _

end Composed

theorem record_length {layout : Layout} {source rest : ByteSource} {row? : Option Row}
    (run : record layout source = .ok (row?, rest)) :
    rest.bytes.length < source.bytes.length := by
  obtain ⟨marker, between, ranMarker, ranMarked⟩ := run_bind run
  obtain ⟨bytes, between', ranTake, ranPure⟩ := run_bind ranMarker
  cases ranPure
  have shorter := take_length ranTake
  have notLonger := ((Composed.marked layout _).consumes ranMarked).1.length_le
  omega

end Reader

end VirtualTables.RowStream
