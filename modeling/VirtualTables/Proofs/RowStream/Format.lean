import VirtualTables.RowStream.Writer

/-!
The written form of row streams.

`stream` is the whole form as a list of bytes, apart from any sink, and `Writable` says which
banners, layouts and rows have one. `encode_eq_ok_iff` says that these two describe the encoder:
each step of the recorder is a single `write` of the bytes that stand here.
-/

namespace VirtualTables.RowStream

namespace Format

def shortText (text : String) : List UInt8 :=
  bytesOfNat 2 (Text.Utf8.encode text.toList).length ++ Text.Utf8.encode text.toList

def word64 (value : UInt64) : List UInt8 :=
  bytesOfNat 8 value.toNat

def longBytes (bytes : List UInt8) : List UInt8 :=
  bytesOfNat 4 bytes.length ++ bytes

def longText (text : String) : List UInt8 :=
  longBytes (Text.Utf8.encode text.toList)

/-- The bytes behind the null flag of a cell. -/
def value : Cell → List UInt8
  | .null => []
  | .number value => word64 value.bits
  | .string value => longText value
  | .date value => word64 (Int64.ofInt value.millis).toUInt64
  | .boolean value => [if value then 1 else 0]
  | .integer value => word64 value.toUInt64
  | .bigNumber value => longText value
  | .binary value => longBytes value
  | .timestamp value => word64 (Int64.ofInt value.millis).toUInt64

def cell (cell : Cell) : List UInt8 :=
  (if cell.isNull then 1 else 0) :: value cell

def banner (banner : Banner) : List UInt8 :=
  shortText banner.serviceName ++ shortText banner.serviceTransformation ++
    shortText banner.serviceObjectId ++ shortText banner.sqlTransformation ++
    shortText banner.sqlObjectId

def column (column : Column) : List UInt8 :=
  bytesOfNat 4 column.type.wireId ++ shortText column.name

def layout (layout : Layout) : List UInt8 :=
  bytesOfNat 4 layout.size ++ layout.columns.flatMap column

/-- What stands in front of the rows. -/
def head (banner : Banner) (layout : Layout) : List UInt8 :=
  Format.banner banner ++ Format.layout layout

def record (row : Row) : List UInt8 :=
  rowMarker :: row.cells.flatMap cell

def stream (banner : Banner) (layout : Layout) (rows : List Row) : List UInt8 :=
  head banner layout ++ (rows.flatMap record ++ [endMarker])

/-- Sixteen bits count the bytes of a text. -/
def IsShort (text : String) : Prop :=
  (Text.Utf8.encode text.toList).length ≤ 65535

/-- A signed number of 32 bits counts some bytes. -/
def IsCountable (bytes : List UInt8) : Prop :=
  bytes.length ≤ 0x7FFFFFFF

def CellFits : Cell → Prop
  | .string value | .bigNumber value => IsCountable (Text.Utf8.encode value.toList)
  | .binary value => IsCountable value
  | _ => True

instance (text : String) : Decidable (IsShort text) :=
  inferInstanceAs (Decidable (_ ≤ _))

instance (bytes : List UInt8) : Decidable (IsCountable bytes) :=
  inferInstanceAs (Decidable (_ ≤ _))

instance : DecidablePred CellFits
  | .string _ | .bigNumber _ | .binary _ => inferInstanceAs (Decidable (IsCountable _))
  | .null | .number _ | .date _ | .boolean _ | .integer _ | .timestamp _ =>
      inferInstanceAs (Decidable True)

structure BannerFits (banner : Banner) : Prop where
  serviceName : IsShort banner.serviceName
  serviceTransformation : IsShort banner.serviceTransformation
  serviceObjectId : IsShort banner.serviceObjectId
  sqlTransformation : IsShort banner.sqlTransformation
  sqlObjectId : IsShort banner.sqlObjectId

structure LayoutFits (layout : Layout) : Prop where
  size : layout.size ≤ 0x7FFFFFFF
  names : ∀ column ∈ layout.columns, IsShort column.name

structure RowFits (layout : Layout) (row : Row) : Prop where
  accepted : layout.accepts row = true
  cells : ∀ cell ∈ row.cells, CellFits cell

/-- The banners, layouts and rows that have a written form. -/
structure Writable (banner : Banner) (layout : Layout) (rows : List Row) : Prop where
  bannerFits : BannerFits banner
  layoutFits : LayoutFits layout
  rowsFit : ∀ row ∈ rows, RowFits layout row

end Format

end VirtualTables.RowStream
