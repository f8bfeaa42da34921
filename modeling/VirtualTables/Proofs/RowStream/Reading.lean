import VirtualTables.Proofs.RowStream.Format

/-!
Readers take the written form from the front of a source.

`Reads reader bytes value` says that a reader takes exactly these bytes, whatever follows them, and
gives this value. There is one such lemma for each item of the format; `Reads.bind` puts the bytes
of two items behind each other.
-/

namespace VirtualTables

namespace Instant

theorem millis_of_ofMillis? {millis : Int} {instant : Instant}
    (found : ofMillis? millis = some instant) : instant.millis = millis := by
  unfold ofMillis? ofUnix? at found
  split at found
  · split at found
    · cases found
      simp only [Instant.millis]
      omega
    · cases found
  · cases found

theorem millis_bounds (instant : Instant) :
    -8334601228800000 ≤ instant.millis ∧ instant.millis < 8210266876801000 := by
  have inYears := instant.inYears
  have nanos_lt := instant.nanos_lt
  unfold Instant.millis
  omega

/-- What whole milliseconds keep of an instant. -/
def stored (instant : Instant) : Instant :=
  (ofMillis? instant.millis).getD instant

end Instant

/-- What a row stream keeps of a cell: all of it but what a date has below its milliseconds. -/
def Cell.stored : Cell → Cell
  | .date value => .date value.stored
  | .timestamp value => .timestamp value.stored
  | cell => cell

/-- Whether the milliseconds of a date lead back to an instant. -/
def Cell.isDecodable (cell : Cell) : Bool :=
  cell.instant?.all fun instant => (Instant.ofMillis? instant.millis).isSome

def Row.stored (row : Row) : Row :=
  ⟨row.cells.map Cell.stored⟩

def Row.isDecodable (row : Row) : Bool :=
  row.cells.all Cell.isDecodable

namespace RowStream.Reader

/-- A reader takes exactly some bytes, whatever follows them, and gives a value. -/
def Reads {α : Type} (reader : Reader α) (bytes : List UInt8) (value : α) : Prop :=
  ∀ rest ending, reader ⟨bytes ++ rest, ending⟩ = .ok (value, ⟨rest, ending⟩)

namespace Reads

variable {α β : Type} {reader : Reader α} {next : α → Reader β} {bytes more : List UInt8}
  {first : α} {second : β}

theorem pure (result : α) : Reads (pure result) [] result :=
  fun _ _ => rfl

theorem bind (reads : Reads reader bytes first) (readsNext : Reads (next first) more second) :
    Reads (reader >>= next) (bytes ++ more) second := by
  intro rest ending
  change (reader ⟨bytes ++ more ++ rest, ending⟩ >>= fun (first, between) => next first between) = _
  rw [List.append_assoc, reads (more ++ rest) ending]
  exact readsNext rest ending

theorem bind_done (reads : Reads reader bytes first) (readsNext : Reads (next first) [] second) :
    Reads (reader >>= next) bytes second := by
  have both := reads.bind readsNext
  rw [List.append_nil] at both
  exact both

theorem map (reads : Reads reader bytes first) (convert : α → β) :
    Reads (do return convert (← reader)) bytes (convert first) :=
  reads.bind_done (.pure _)

theorem take (item : String) {count : Nat} (short : Nat → StreamFault)
    (size : bytes.length = count) : Reads (take item count short) bytes bytes := by
  subst size
  intro rest ending
  unfold Reader.take
  simp only [List.take_left, List.drop_left, if_true]

theorem fixed (item : String) {count : Nat} (size : bytes.length = count) :
    Reads (fixed item count) bytes bytes :=
  .take item _ size

theorem announced (item : String) (bytes : List UInt8) :
    Reads (announced item bytes.length) bytes bytes :=
  .take item _ rfl

theorem byte (item : String) (value : UInt8) : Reads (byte item) [value] value.toNat := by
  have one : [value].length = 1 := rfl
  have reads := (Reads.fixed item one).map natOfBytes
  have number : natOfBytes [value] = value.toNat := Nat.zero_add _
  rw [number] at reads
  exact reads

theorem int32 (item : String) {value : Nat} (small : value ≤ 0x7FFFFFFF) :
    Reads (int32 item) (bytesOfNat 4 value) value := by
  have reads := (Reads.fixed item (length_bytesOfNat 4 value)).map fun bytes =>
    (UInt32.ofNat (natOfBytes bytes)).toInt32.toInt
  have fits : value < Nat.pow 256 4 := Nat.lt_of_le_of_lt small (by decide)
  have number : (UInt32.ofNat value).toInt32.toInt = value :=
    Int32.toInt_ofNat_of_lt (Nat.lt_of_le_of_lt small (by decide))
  rw [natOfBytes_bytesOfNat fits, number] at reads
  exact reads

theorem word64 (item : String) (value : UInt64) :
    Reads (word64 item) (Format.word64 value) value := by
  have reads := (Reads.fixed item (length_bytesOfNat 8 value.toNat)).map fun bytes =>
    UInt64.ofNat (natOfBytes bytes)
  have fits : value.toNat < Nat.pow 256 8 := value.toNat_lt
  rw [natOfBytes_bytesOfNat fits, UInt64.ofNat_toNat] at reads
  exact reads

theorem text (item : String) (value : String) :
    Reads (text item (Text.Utf8.encode value.toList)) [] value := by
  intro rest ending
  unfold Reader.text
  rw [Text.Utf8.decode_encode]
  change Except.ok (String.ofList value.toList, _) = _
  rw [String.ofList_toList]
  rfl

theorem shortText (item : String) {value : String} (short : Format.IsShort value) :
    Reads (shortText item) (Format.shortText value) value := by
  have fits : (Text.Utf8.encode value.toList).length < Nat.pow 256 2 :=
    Nat.lt_of_le_of_lt short (by decide)
  apply (Reads.fixed item (length_bytesOfNat 2 _)).bind
  rw [natOfBytes_bytesOfNat fits]
  exact (Reads.announced item _).bind_done (.text item value)

theorem longBytes (item : String) {bytes : List UInt8} (countable : Format.IsCountable bytes) :
    Reads (longBytes item) (Format.longBytes bytes) bytes := by
  apply (Reads.int32 item countable).bind
  have nonnegative : ¬ (bytes.length : Int) < 0 := by omega
  simp only [if_neg nonnegative]
  exact .announced item bytes

theorem longText (item : String) {value : String}
    (countable : Format.IsCountable (Text.Utf8.encode value.toList)) :
    Reads (longText item) (Format.longText value) value :=
  (Reads.longBytes item countable).bind_done (.text item value)

theorem instant (item : String) {value : Instant}
    (decodable : (Instant.ofMillis? value.millis).isSome = true) :
    Reads (instant item) (Format.word64 (Int64.ofInt value.millis).toUInt64) value.stored := by
  have bounds := value.millis_bounds
  have read : (Int64.ofInt value.millis).toInt = value.millis :=
    Int64.toInt_ofInt_of_le (by omega) (by omega)
  obtain ⟨stored, found⟩ := Option.isSome_iff_exists.mp decodable
  apply (Reads.word64 item _).bind_done
  rw [Int64.toInt64_toUInt64, read, Instant.stored, found]
  exact .pure stored

theorem value (item : String) {type : CellType} {cell : Cell} (typed : cell.type? = some type)
    (fits : Format.CellFits cell) (decodable : cell.isDecodable = true) :
    Reads (value item type) (Format.value cell) cell.stored := by
  cases cell with
  | null => cases typed
  | number value =>
      cases typed
      exact (Reads.word64 item value.bits).map fun bits => Cell.number ⟨bits⟩
  | string value =>
      cases typed
      exact (Reads.longText item fits).map Cell.string
  | date value =>
      cases typed
      exact (Reads.instant item decodable).map Cell.date
  | boolean value =>
      cases typed
      have reads := (Reads.byte item (if value then 1 else 0)).map fun byte =>
        Cell.boolean (byte != 0)
      cases value with
      | false => exact reads
      | true => exact reads
  | integer value =>
      cases typed
      have reads := (Reads.word64 item value.toUInt64).map fun word => Cell.integer word.toInt64
      rw [Int64.toInt64_toUInt64] at reads
      exact reads
  | bigNumber value =>
      cases typed
      exact (Reads.longText item fits).map Cell.bigNumber
  | binary value =>
      cases typed
      exact (Reads.longBytes item fits).map Cell.binary
  | timestamp value =>
      cases typed
      exact (Reads.instant item decodable).map Cell.timestamp

theorem cell {column : Column} {cell : Cell} (typed : column.type.fits cell = true)
    (fits : Format.CellFits cell) (decodable : cell.isDecodable = true) :
    Reads (Reader.cell column) (Format.cell cell) cell.stored := by
  rcases CellType.fits_iff.mp typed with rfl | typed
  · exact (Reads.byte column.name 1).bind_done (.pure _)
  · have flag : Format.cell cell = [0] ++ Format.value cell := by
      rw [Format.cell, Cell.isNull_of_type? typed]
      rfl
    rw [flag]
    exact (Reads.byte column.name 0).bind (.value column.name typed fits decodable)

theorem cells {columns : List Column} {cells : List Cell} (before : List Cell)
    (arity : cells.length = columns.length)
    (typed : ∀ pair ∈ columns.zip cells, pair.1.type.fits pair.2 = true)
    (fits : ∀ cell ∈ cells, Format.CellFits cell)
    (decodable : ∀ cell ∈ cells, cell.isDecodable = true) :
    Reads (Reader.cells columns before) (cells.flatMap Format.cell)
      (before.reverse ++ cells.map Cell.stored) := by
  induction columns generalizing cells before with
  | nil =>
      obtain rfl : cells = [] := List.length_eq_zero_iff.mp arity
      rw [List.map_nil, List.append_nil]
      exact .pure _
  | cons column columns inductionHypothesis =>
      cases cells with
      | nil => cases arity
      | cons cell cells =>
          rw [List.zip_cons_cons, List.forall_mem_cons] at typed
          rw [List.forall_mem_cons] at fits decodable
          have first := Reads.cell typed.1 fits.1 decodable.1
          have others := inductionHypothesis (cell.stored :: before) (Nat.succ.inj arity) typed.2
            fits.2 decodable.2
          rw [List.reverse_cons, List.append_assoc] at others
          exact first.bind others

theorem column {column : Column} (short : Format.IsShort column.name) :
    Reads Reader.column (Format.column column) column := by
  have small : column.type.wireId ≤ 0x7FFFFFFF := by
    cases column.type <;> decide
  apply (Reads.int32 "field type" small).bind
  rw [CellType.ofWireId?_wireId]
  exact (Reads.shortText "field name" short).map fun name => Column.mk name column.type

theorem columns {columns : List Column} (before : List Column)
    (short : ∀ column ∈ columns, Format.IsShort column.name) :
    Reads (Reader.columns columns.length before) (columns.flatMap Format.column)
      (before.reverse ++ columns) := by
  induction columns generalizing before with
  | nil =>
      rw [List.append_nil]
      exact .pure _
  | cons column columns inductionHypothesis =>
      rw [List.forall_mem_cons] at short
      have others := inductionHypothesis (column :: before) short.2
      rw [List.reverse_cons, List.append_assoc] at others
      exact (Reads.column short.1).bind others

theorem layout {layout : Layout} (fits : Format.LayoutFits layout) :
    Reads Reader.layout (Format.layout layout) layout := by
  apply (Reads.int32 "field count" fits.size).bind
  have nonnegative : ¬ (layout.size : Int) < 0 := by omega
  simp only [if_neg nonnegative]
  exact (Reads.columns [] fits.names).map Layout.mk

theorem banner {banner : Banner} (fits : Format.BannerFits banner) :
    Reads Reader.banner (Format.banner banner) banner := by
  unfold Format.banner
  simp only [List.append_assoc]
  exact (Reads.shortText _ fits.serviceName).bind
    ((Reads.shortText _ fits.serviceTransformation).bind
      ((Reads.shortText _ fits.serviceObjectId).bind
        ((Reads.shortText _ fits.sqlTransformation).bind
          ((Reads.shortText _ fits.sqlObjectId).bind_done (.pure banner)))))

theorem record {layout : Layout} {row : Row} (fits : Format.RowFits layout row)
    (decodable : row.isDecodable = true) :
    Reads (Reader.record layout) (Format.record row) (some row.stored) := by
  have accepted := fits.accepted
  simp only [Layout.accepts, Bool.and_eq_true, beq_iff_eq, List.all_eq_true] at accepted
  exact (Reads.byte "row marker" rowMarker).bind
    ((Reads.cells [] accepted.1 accepted.2 fits.cells (List.all_eq_true.mp decodable)).map
      fun cells => some (Row.mk cells))

theorem endMarker (layout : Layout) :
    Reads (Reader.record layout) [RowStream.endMarker] none :=
  (Reads.byte "row marker" RowStream.endMarker).bind_done (.pure none)

end Reads

end RowStream.Reader

end VirtualTables
