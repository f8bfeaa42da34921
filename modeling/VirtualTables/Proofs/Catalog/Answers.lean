import VirtualTables.Proofs.Catalog.Series
import VirtualTables.Proofs.RowStream.Offering
import VirtualTables.Proofs.RowStream.RoundTrip

/-!
Answers about the catalog fit their layouts.

The entries of the catalog have their forms as rows, and the kinds of questions have their layouts,
each written down apart from the other. That they agree makes every answer a table that can be
written as a row stream and read back.
-/

namespace VirtualTables

open RowStream

/-- No column holds points in time, which a row stream does not keep to the nanosecond. -/
def Layout.IsTimeless (layout : Layout) : Prop :=
  ∀ column ∈ layout.columns, column.type ≠ .date ∧ column.type ≠ .timestamp

instance : DecidablePred Layout.IsTimeless := fun layout =>
  inferInstanceAs (Decidable (∀ column ∈ layout.columns, _))

theorem Cell.instant?_of_type? {cell : Cell} {type : CellType} (typed : cell.type? = some type)
    (timeless : type ≠ .date ∧ type ≠ .timestamp) : cell.instant? = none := by
  cases cell with
  | date value => exact absurd (Option.some.inj typed).symm timeless.1
  | timestamp value => exact absurd (Option.some.inj typed).symm timeless.2
  | _ => rfl

namespace Layout.Suits

variable {layout : Layout} {row : Row}

theorem exists_column (suits : layout.Suits row) {cell : Cell} (inside : cell ∈ row.cells) :
    ∃ column ∈ layout.columns, cell = .null ∨ cell.type? = some column.type := by
  obtain ⟨index, below, rfl⟩ := List.mem_iff_getElem.mp inside
  have belowToo : index < layout.columns.length := below.trans_eq suits.arity
  have paired : (layout.columns[index], row.cells[index]) ∈ layout.columns.zip row.cells := by
    rw [← List.getElem_zip (h := by rw [List.length_zip]; omega)]
    exact List.getElem_mem _
  exact ⟨_, List.getElem_mem belowToo, suits.typed _ paired⟩

theorem instant? (suits : layout.Suits row) (timeless : layout.IsTimeless) {cell : Cell}
    (inside : cell ∈ row.cells) : cell.instant? = none := by
  obtain ⟨column, among, null | typed⟩ := suits.exists_column inside
  · rw [null]
    rfl
  · exact Cell.instant?_of_type? typed (timeless column among)

theorem isDecodable (suits : layout.Suits row) (timeless : layout.IsTimeless) :
    row.isDecodable = true := by
  refine List.all_eq_true.mpr fun cell inside => ?_
  rw [Cell.isDecodable, suits.instant? timeless inside]
  rfl

theorem stored (suits : layout.Suits row) (timeless : layout.IsTimeless) : row.stored = row := by
  have same : ∀ cell ∈ row.cells, cell.stored = cell := by
    intro cell inside
    have noInstant := suits.instant? timeless inside
    cases cell with
    | date value => cases noInstant
    | timestamp value => cases noInstant
    | _ => rfl
  rw [Row.stored, List.map_congr_left same, List.map_id']

end Layout.Suits

/-- Where no column holds points in time, the rows are read as they were written. -/
theorem Transcript.ofSource_timeless {banner : Banner} {layout : Layout} {rows : List Row}
    (writable : Format.Writable banner layout rows) (timeless : layout.IsTimeless)
    (trailing : List UInt8) (ending : ByteSource.Ending) :
    Transcript.ofSource ⟨Format.stream banner layout rows ++ trailing, ending⟩ 0 =
      ⟨some (banner, layout), rows, none⟩ := by
  have suits : ∀ row ∈ rows, layout.Suits row :=
    fun row inside => Layout.accepts_iff.mp (writable.rowsFit row inside).accepted
  have decodable : ∀ row ∈ rows, row.isDecodable = true :=
    fun row inside => (suits row inside).isDecodable timeless
  have stored : rows.map Row.stored = rows := by
    rw [List.map_congr_left fun row inside => (suits row inside).stored timeless, List.map_id']
  have behind := Reader.Reads.head writable.bannerFits writable.layoutFits
    (rows.flatMap Format.record ++ ([endMarker] ++ trailing)) ending
  obtain ⟨after, -, uncapped, opened, drained⟩ := Cursor.drain_records
    (.start (banner, layout) 0 ⟨rows.flatMap Format.record ++ ([endMarker] ++ trailing), ending⟩)
    writable.rowsFit decodable rfl rfl
  have ended := Cursor.Step.ended (Cursor.atLimit_of_uncapped uncapped) opened
    (Reader.Reads.endMarker after.layout trailing ending)
  rw [Format.stream, List.append_assoc, List.append_assoc, ofSource_of_ok 0 behind, drained,
    Cursor.drain_of_end ended, stored, List.append_nil]
  rfl

namespace Catalog

theorem layoutFits (kind : Introspection) : Format.LayoutFits kind.layout := by
  cases kind <;> exact ⟨by decide, by decide +kernel⟩

theorem isTimeless_layout (kind : Introspection) : kind.layout.IsTimeless := by
  cases kind <;> decide

theorem accepts_schema (schema : Schema) : Introspection.schemas.layout.accepts schema.row = true :=
  rfl

theorem accepts_table (table : Table) : Introspection.tables.layout.accepts table.row = true :=
  rfl

theorem accepts_column (column : TableColumn) :
    Introspection.columns.layout.accepts column.row = true := by
  obtain ⟨schema, table, name, type, size, decimalDigits, ordinal⟩ := column
  cases size <;> cases decimalDigits <;> rfl

theorem Answer.suits_ofServices (services : List Service) (kind : Introspection) :
    ∀ row ∈ (ofServices services kind).rows, kind.layout.Suits row := by
  intro row inside
  apply Layout.accepts_iff.mp
  -- Only three kinds have rows, each those of its entries.
  cases kind with
  | schemas =>
      obtain ⟨schema, -, rfl⟩ := List.mem_map.mp inside
      exact accepts_schema schema
  | tables =>
      obtain ⟨table, -, rfl⟩ := List.mem_map.mp inside
      exact accepts_table table
  | columns =>
      obtain ⟨column, -, rfl⟩ := List.mem_map.mp inside
      exact accepts_column column
  | _ => cases inside

theorem run_answer {σ : Type} {backend : Backend σ} {world after : σ} {services : List Service}
    (fetched : backend.services.run world = (.ok services, after)) (kind : Introspection) :
    ∃ last, (answer backend kind).run world = (.ok (.ofServices services kind), last) := by
  by_cases needs : kind = .tables ∨ kind = .columns
  · refine ⟨after, ?_⟩
    rw [fetchesOnce_answer backend needs world, fetched]
    rfl
  · exact ⟨world, neverFetches_answer backend needs services world⟩

/-- Whatever services a backend has, the answer to a question of each kind has the layout of its
kind, and its rows suit it: a cell for every column, null or of the type of its column. So a writer
accepts every row, and what is encoded is decoded to the same answer. -/
theorem answer_suits {σ : Type} {backend : Backend σ} {world after : σ} {services : List Service}
    (fetched : backend.services.run world = (.ok services, after)) (kind : Introspection) :
    ∃ found last, (answer backend kind).run world = (.ok found, last) ∧
      found.kind = kind ∧ found.layout = ⟨kind.columnsOf⟩ ∧
      (∀ row ∈ found.rows, found.layout.Suits row ∧
        Recording.check found.layout row = .ok ()) ∧
      ((∀ row ∈ found.rows, ∀ cell ∈ row.cells, Format.CellFits cell) →
        (∀ writer : Writer, writer.layout = found.layout → writer.sink.room = none →
          ∀ row ∈ found.rows, (writer.offer row).1 = .ok ()) ∧
        ∀ banner,
          ((∃ bytes, encode banner found.layout found.rows = .ok bytes) ↔
            Format.BannerFits banner) ∧
          ∀ bytes, encode banner found.layout found.rows = .ok bytes → ∀ trailing ending,
            Transcript.ofSource ⟨bytes ++ trailing, ending⟩ 0 =
              ⟨some (banner, found.layout), found.rows, none⟩) := by
  obtain ⟨last, ran⟩ := run_answer fetched kind
  have suits := Answer.suits_ofServices services kind
  refine ⟨.ofServices services kind, last, ran, rfl, rfl, ?_, ?_⟩
  · intro row inside
    exact ⟨suits row inside, Recording.check_eq_ok (suits row inside)⟩
  · intro countable
    refine ⟨?_, fun banner => ⟨⟨?_, ?_⟩, ?_⟩⟩
    · rintro ⟨layout, ⟨written, room⟩, count⟩ rfl rfl row inside
      rw [Writer.offer_unlimited written count (countable row inside)]
      exact Recording.check_eq_ok (suits row inside)
    · rintro ⟨bytes, encoded⟩
      exact (encode_eq_ok_iff.mp encoded).1.bannerFits
    · intro bannerFits
      exact ⟨_, encode_eq_ok_iff.mpr
        ⟨Format.writable_of_suits bannerFits (layoutFits kind) countable suits, rfl⟩⟩
    · intro bytes encoded trailing ending
      obtain ⟨writable, rfl⟩ := encode_eq_ok_iff.mp encoded
      exact Transcript.ofSource_timeless writable (isTimeless_layout kind) trailing ending

/-- A service with one field of nine digits, whose places are not told, is answered with one
column, and its row is read back. -/
theorem answer_suits_columns :
    let backend : Backend Unit :=
      ⟨pure (), pure [⟨"s", [⟨"a", .number, some 9, none⟩]⟩], fun _ => throw .noLocalService⟩
    let layout := Introspection.columns.layout
    let row : Row :=
      ⟨[.null, .string "Kettle", .string "s", .string "a", .integer 8, .string "DOUBLE",
        .integer 9, .null, .integer 1, .integer 1, .string "YES"]⟩
    let banner : Banner := ⟨"", "", "", "", ""⟩
    (∃ services, backend.services.run () = (.ok services, ())) ∧
      (answer backend .columns).run () = (.ok ⟨.columns, layout, [row]⟩, ()) ∧
      layout.Suits row ∧
      (Writer.offer ⟨layout, .unlimited, 0⟩ row).1 = .ok () ∧
      ∃ bytes, encode banner layout [row] = .ok bytes ∧
        Transcript.ofSource ⟨bytes ++ [7], .breaks⟩ 0 = ⟨some (banner, layout), [row], none⟩ := by
  intro backend layout row banner
  have fetched : backend.services.run () = (.ok [⟨"s", [⟨"a", .number, some 9, none⟩]⟩], ()) := rfl
  have answered : (answer backend .columns).run () = (.ok ⟨.columns, layout, [row]⟩, ()) := rfl
  obtain ⟨found, last, ran, -, -, suits, streams⟩ := answer_suits fetched .columns
  obtain ⟨rfl, rfl⟩ : found = ⟨.columns, layout, [row]⟩ ∧ last = () := by
    rw [answered] at ran
    cases ran
    exact ⟨rfl, rfl⟩
  have countable : ∀ line ∈ [row], ∀ cell ∈ line.cells, Format.CellFits cell := by decide
  obtain ⟨accepted, streamed⟩ := streams countable
  obtain ⟨encodes, decodes⟩ := streamed banner
  obtain ⟨bytes, encoded⟩ := encodes.mpr (by constructor <;> decide)
  exact ⟨⟨_, fetched⟩, answered, (suits row (List.mem_singleton_self row)).1,
    accepted _ rfl rfl row (List.mem_singleton_self row),
    bytes, encoded, decodes bytes encoded [7] .breaks⟩

end Catalog

end VirtualTables
