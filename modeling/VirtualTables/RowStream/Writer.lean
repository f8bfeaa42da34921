import VirtualTables.Row
import VirtualTables.RowStream.Banner
import VirtualTables.RowStream.Bytes
import VirtualTables.RowStream.Decode

/-!
Writing row streams to a sink of limited or unlimited room.

A row is checked as a whole before its first byte is written, so a row that does not fit the layout
leaves no trace. A sink that is full takes what fits and fails; what it took stays.
-/

namespace VirtualTables.RowStream

inductive WriteFault where
  | arity (found declared : Nat)
  | misfit (cell : Cell) (column : Column)
  /-- A text of the banner or a column's name is longer than 65535 bytes. -/
  | longText
  | manyColumns
  | largeValue
  | noRoom
deriving DecidableEq

inductive WriteFault.Kind where
  | invalidInput
  | storageFull
deriving DecidableEq

def WriteFault.kind : WriteFault → WriteFault.Kind
  | .noRoom => .storageFull
  | _ => .invalidInput

def WriteFault.message : WriteFault → String
  | .arity found declared =>
      "row has " ++ toString found ++ " values, metadata declares " ++ toString declared
  | .misfit cell column =>
      "value " ++ cell.diagnostic ++ " does not fit field '" ++ column.name ++ "' of type " ++
        column.type.name
  | .longText => "string longer than 65535 bytes"
  | .manyColumns => "too many fields"
  | .largeValue => "value too large"
  | .noRoom => "no room"

structure Sink where
  written : List UInt8
  /-- The number of bytes that can still be written; `none` for any number. -/
  room : Option Nat

def Sink.unlimited : Sink := ⟨[], none⟩

def Sink.ofRoom (room : Option Nat) : Sink := ⟨[], room⟩

/-- A computation that writes to a sink; what was written before a failure stays. -/
abbrev Recording (α : Type) := ExceptT WriteFault (StateM Sink) α

namespace Recording

def write (bytes : List UInt8) : Recording Unit := do
  let sink ← get
  match sink.room with
  | none => set { sink with written := sink.written ++ bytes }
  | some room =>
      set (⟨sink.written ++ bytes.take room, some (room - bytes.length)⟩ : Sink)
      if room < bytes.length then throw .noRoom

def word64 (value : UInt64) : Recording Unit :=
  write (bytesOfNat 8 value.toNat)

def shortText (text : String) : Recording Unit := do
  let bytes := Text.Utf8.encode text.toList
  if 65535 < bytes.length then throw .longText
  write (bytesOfNat 2 bytes.length)
  write bytes

def longBytes (bytes : List UInt8) : Recording Unit := do
  if 0x7FFFFFFF < bytes.length then throw .largeValue
  write (bytesOfNat 4 bytes.length)
  write bytes

def longText (text : String) : Recording Unit :=
  longBytes (Text.Utf8.encode text.toList)

def cell : Cell → Recording Unit
  | .null => write [1]
  | .number value => do write [0]; word64 value.bits
  | .string value => do write [0]; longText value
  | .date value => do write [0]; word64 (Int64.ofInt value.millis).toUInt64
  | .boolean value => do write [0]; write [if value then 1 else 0]
  | .integer value => do write [0]; word64 value.toUInt64
  | .bigNumber value => do write [0]; longText value
  | .binary value => do write [0]; longBytes value
  | .timestamp value => do write [0]; word64 (Int64.ofInt value.millis).toUInt64

def banner (banner : Banner) : Recording Unit := do
  shortText banner.serviceName
  shortText banner.serviceTransformation
  shortText banner.serviceObjectId
  shortText banner.sqlTransformation
  shortText banner.sqlObjectId

def column (column : Column) : Recording Unit := do
  write (bytesOfNat 4 column.type.wireId)
  shortText column.name

def layout (layout : Layout) : Recording Unit := do
  if 0x7FFFFFFF < layout.size then throw .manyColumns
  write (bytesOfNat 4 layout.size)
  layout.columns.forM column

/-- Fail unless a row has a cell for every column and each fits. -/
def check (layout : Layout) (row : Row) : Except WriteFault Unit := do
  if row.cells.length ≠ layout.size then throw (.arity row.cells.length layout.size)
  match (layout.columns.zip row.cells).find? fun (column, cell) => !column.type.fits cell with
  | some (column, cell) => throw (.misfit cell column)
  | none => return ()

def row (layout : Layout) (row : Row) : Recording Unit := do
  match check layout row with
  | .error fault => throw fault
  | .ok _ =>
      write [rowMarker]
      row.cells.forM cell

def finish : Recording Unit :=
  write [endMarker]

end Recording

structure Writer where
  layout : Layout
  sink : Sink
  rowsWritten : Nat

namespace Writer

def ofSink (banner : Banner) (layout : Layout) (sink : Sink) : Except WriteFault Writer :=
  match (do Recording.banner banner; Recording.layout layout : Recording Unit).run sink with
  | (.error fault, _) => .error fault
  | (.ok _, sink) => .ok ⟨layout, sink, 0⟩

/-- Write a row. After a failure the stream can be written on. -/
def offer (writer : Writer) (row : Row) : Except WriteFault Unit × Writer :=
  match (Recording.row writer.layout row).run writer.sink with
  | (.error fault, sink) => (.error fault, { writer with sink })
  | (.ok _, sink) => (.ok (), { writer with sink, rowsWritten := writer.rowsWritten + 1 })

/-- Write the end of the rows and hand out all bytes. -/
def finish (writer : Writer) : Except WriteFault (List UInt8) :=
  match Recording.finish.run writer.sink with
  | (.error fault, _) => .error fault
  | (.ok _, sink) => .ok sink.written

end Writer

def encode (banner : Banner) (layout : Layout) (rows : List Row) :
    Except WriteFault (List UInt8) :=
  let all : Recording Unit := do
    Recording.banner banner
    Recording.layout layout
    rows.forM (Recording.row layout)
    Recording.finish
  match all.run Sink.unlimited with
  | (.error fault, _) => .error fault
  | (.ok _, sink) => .ok sink.written

end VirtualTables.RowStream
