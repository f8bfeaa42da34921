import VirtualTables.RowStream.Decode
import VirtualTables.Text.Diagnostic

/-!
A cursor over the rows of a stream.

The banner and the layout are read when the cursor is made; each step then reads one row. The
cursor closes for good at the end of the rows, at its limit, at the first failure, or on request.
-/

namespace VirtualTables

open RowStream Text.Diagnostic

structure Cursor where
  banner : Banner
  layout : Layout
  /-- The number of rows to hand out at most; zero for all. -/
  maxRows : Nat
  rowsRead : Nat
  /-- The rest of the stream; `none` once the cursor is closed. -/
  source? : Option ByteSource

namespace Cursor

def ofSource (source : ByteSource) (maxRows : Nat) : Except StreamFault Cursor := do
  let (banner, source) ← Reader.banner source
  let (layout, source) ← Reader.layout source
  return { banner, layout, maxRows, rowsRead := 0, source? := some source }

def isClosed (cursor : Cursor) : Bool :=
  cursor.source?.isNone

def close (cursor : Cursor) : Cursor :=
  { cursor with source? := none }

def atLimit (cursor : Cursor) : Bool :=
  0 < cursor.maxRows && cursor.maxRows ≤ cursor.rowsRead

/-- The next row, or `none` at the end, or a failure; and the cursor after it. -/
def next (cursor : Cursor) : Except StreamFault (Option Row) × Cursor :=
  if cursor.atLimit then (.ok none, cursor.close)
  else
    match cursor.source? with
    | none => (.ok none, cursor)
    | some source =>
        match Reader.record cursor.layout source with
        | .error fault => (.error fault, cursor.close)
        | .ok (none, _) => (.ok none, cursor.close)
        | .ok (some row, rest) =>
            (.ok (some row), { cursor with rowsRead := cursor.rowsRead + 1, source? := some rest })

/-- The number of bytes that can still be read. -/
def remaining (cursor : Cursor) : Nat :=
  match cursor.source? with
  | none => 0
  | some source => source.bytes.length

theorem remaining_next {cursor after : Cursor} {row : Row}
    (stepped : cursor.next = (.ok (some row), after)) : after.remaining < cursor.remaining := by
  unfold next at stepped
  split at stepped
  · cases stepped
  · split at stepped
    · cases stepped
    · next source found =>
        split at stepped
        · cases stepped
        · cases stepped
        · next row' rest run =>
            cases stepped
            simp only [remaining, found]
            exact Reader.record_length run

/-- All rows that are left, and the failure that ends them, if one does. -/
def drain (cursor : Cursor) : (List Row × Option StreamFault) × Cursor :=
  match _ : cursor.next with
  | (.error fault, after) => (([], some fault), after)
  | (.ok none, after) => (([], none), after)
  | (.ok (some row), after) =>
      let ((rows, fault?), last) := drain after
      ((row :: rows, fault?), last)
termination_by cursor.remaining
decreasing_by exact remaining_next ‹_›

/-- All rows that are left, or the failure that ends them. -/
def collect (cursor : Cursor) : Except StreamFault (List Row) :=
  match cursor.drain.1 with
  | (rows, none) => .ok rows
  | (_, some fault) => .error fault

def diagnostic (cursor : Cursor) : String :=
  let banner := record "StreamHeader" [
    field "service_name" (Text.quoted cursor.banner.serviceName),
    field "service_transformation" (Text.quoted cursor.banner.serviceTransformation),
    field "service_object_id" (Text.quoted cursor.banner.serviceObjectId),
    field "sql_transformation" (Text.quoted cursor.banner.sqlTransformation),
    field "sql_object_id" (Text.quoted cursor.banner.sqlObjectId)]
  let columns := cursor.layout.columns.map fun column =>
    record "FieldMeta" [field "name" (Text.quoted column.name), field "field_type" column.type.name]
  record "RowStream" [
    field "header" banner,
    field "row_meta" (record "RowMeta" [field "fields" (list columns)]),
    field "max_rows" (toString cursor.maxRows),
    field "rows_read" (toString cursor.rowsRead),
    field "closed" (boolean cursor.isClosed)]

end Cursor

end VirtualTables
