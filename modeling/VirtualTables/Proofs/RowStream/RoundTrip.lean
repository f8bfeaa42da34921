import VirtualTables.Proofs.RowStream.Reading
import VirtualTables.Proofs.RowStream.Transcript
import VirtualTables.Proofs.RowStream.Writing

/-!
Streams that were encoded are read back.

`drain_records` is the induction over the records; the bytes behind the end marker, and whether the
source ends or fails behind them, never matter.
-/

namespace VirtualTables

open RowStream

theorem RowStream.Reader.Reads.head {banner : Banner} {layout : Layout}
    (bannerFits : Format.BannerFits banner) (layoutFits : Format.LayoutFits layout) :
    Reader.Reads Reader.head (Format.head banner layout) (banner, layout) :=
  (Reader.Reads.banner bannerFits).bind ((Reader.Reads.layout layoutFits).map fun layout =>
    (banner, layout))

theorem Cursor.drain_records (cursor : Cursor) {rows : List Row} {rest : List UInt8}
    {ending : ByteSource.Ending} (fits : ∀ row ∈ rows, Format.RowFits cursor.layout row)
    (decodable : ∀ row ∈ rows, row.isDecodable = true) (uncapped : cursor.maxRows = 0)
    (opened : cursor.source? = some ⟨rows.flatMap Format.record ++ rest, ending⟩) :
    ∃ after : Cursor, after.layout = cursor.layout ∧ after.maxRows = 0 ∧
      after.source? = some ⟨rest, ending⟩ ∧
      cursor.drain.1 = (rows.map Row.stored ++ after.drain.1.1, after.drain.1.2) := by
  induction rows generalizing cursor with
  | nil => exact ⟨cursor, rfl, uncapped, opened, rfl⟩
  | cons row rows inductionHypothesis =>
      rw [List.forall_mem_cons] at fits decodable
      rw [List.flatMap_cons, List.append_assoc] at opened
      have ran := Reader.Reads.record fits.1 decodable.1 (rows.flatMap Format.record ++ rest) ending
      have step := Step.row (atLimit_of_uncapped uncapped) opened ran
      rcases inductionHypothesis
        { cursor with rowsRead := cursor.rowsRead + 1, source? := some ⟨_, ending⟩ }
        fits.2 decodable.2 uncapped rfl with
        ⟨after, layoutAfter, uncappedAfter, openedAfter, drained⟩
      refine ⟨after, layoutAfter, uncappedAfter, openedAfter, ?_⟩
      rw [drain_of_row step, drained]
      rfl

/-- What was encoded is handed out again, whatever stands behind the encoded bytes: the banner, the
layout, and the rows as the stream keeps them, without a failure. -/
theorem Transcript.ofSource_encode {banner : Banner} {layout : Layout} {rows : List Row}
    {bytes : List UInt8} (encoded : encode banner layout rows = .ok bytes)
    (decodable : ∀ row ∈ rows, row.isDecodable = true) (trailing : List UInt8)
    (ending : ByteSource.Ending) :
    Transcript.ofSource ⟨bytes ++ trailing, ending⟩ 0 =
      ⟨some (banner, layout), rows.map Row.stored, none⟩ := by
  obtain ⟨writable, rfl⟩ := encode_eq_ok_iff.mp encoded
  have opened := Reader.Reads.head writable.bannerFits writable.layoutFits
    (rows.flatMap Format.record ++ ([endMarker] ++ trailing)) ending
  rcases Cursor.drain_records (.start (banner, layout) 0 _) writable.rowsFit decodable rfl rfl with
    ⟨after, layoutAfter, uncapped, openedAfter, drained⟩
  have ended := Cursor.Step.ended (Cursor.atLimit_of_uncapped uncapped) openedAfter
    (Reader.Reads.endMarker after.layout trailing ending)
  rw [Format.stream, List.append_assoc, List.append_assoc, Transcript.ofSource_of_ok 0 opened,
    drained, Cursor.drain_of_end ended, List.append_nil]
  rfl

/-- Of a date half a millisecond before 1970 the stream keeps a whole one; null stays null. -/
theorem Transcript.ofSource_encode_early_date :
    let layout : Layout := ⟨[⟨"é", .date⟩]⟩
    let early : Instant := ⟨-1, 999500000, by decide, by decide⟩
    let kept : Instant := ⟨-1, 999000000, by decide, by decide⟩
    let rows : List Row := [⟨[.date early]⟩, ⟨[.null]⟩]
    let bytes : List UInt8 :=
      [0, 0, 0, 0, 0, 0, 0, 0, 0, 0, 0, 0, 0, 1, 0, 0, 0, 3, 0, 2, 0xC3, 0xA9,
        1, 0, 0xFF, 0xFF, 0xFF, 0xFF, 0xFF, 0xFF, 0xFF, 0xFF, 1, 1, 0]
    encode ⟨"", "", "", "", ""⟩ layout rows = .ok bytes ∧
      (∀ row ∈ rows, row.isDecodable = true) ∧
      Transcript.ofSource ⟨bytes ++ [7], .breaks⟩ 0 =
        ⟨some (⟨"", "", "", "", ""⟩, layout), [⟨[.date kept]⟩, ⟨[.null]⟩], none⟩ := by
  intro layout early kept rows bytes
  have encoded : encode ⟨"", "", "", "", ""⟩ layout rows = .ok bytes := by decide +kernel
  have decodable : ∀ row ∈ rows, row.isDecodable = true := by decide
  have stored : rows.map Row.stored = [⟨[.date kept]⟩, ⟨[.null]⟩] := by decide
  refine ⟨encoded, decodable, ?_⟩
  rw [← stored]
  exact ofSource_encode encoded decodable [7] .breaks

end VirtualTables
