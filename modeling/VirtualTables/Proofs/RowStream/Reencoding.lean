import VirtualTables.Proofs.RowStream.Taking
import VirtualTables.Proofs.RowStream.Writing

/-!
Streams that were read are encoded again.

Every stream that is read to its end marker has a written form, and its bytes up to the marker stand
for it place by place: only null flags and truth values of another encoder can be written anew.
-/

namespace VirtualTables

open RowStream

namespace RowStream.Reader

/-- Records are read up to the end marker: their rows, and what is left behind it. -/
inductive Records (layout : Layout) : ByteSource → List Row → ByteSource → Prop where
  | ended {source rest : ByteSource} (ran : record layout source = .ok (none, rest)) :
      Records layout source [] rest
  | row {source between rest : ByteSource} {row : Row} {rows : List Row}
      (ran : record layout source = .ok (some row, between))
      (records : Records layout between rows rest) : Records layout source (row :: rows) rest

theorem Records.takes {layout : Layout} {source rest : ByteSource} {rows : List Row}
    (records : Records layout source rows rest) :
    ∃ bytes, source = ⟨bytes ++ rest.bytes, rest.ending⟩ ∧
      (∀ row ∈ rows, Format.RowFits layout row) ∧
      Tolerated (rows.flatMap Format.recordPlaces ++ [.exact]) bytes
        (rows.flatMap Format.record ++ [endMarker]) := by
  induction records with
  | ended ran =>
      obtain ⟨bytes, split, rfl⟩ := Takes.record layout ran
      refine ⟨_, split, ?_, .cons rfl .nil⟩
      intro row inside
      cases inside
  | row ran _ inductionHypothesis =>
      rcases inductionHypothesis with ⟨more, rfl, fitOthers, toleratedOthers⟩
      obtain ⟨bytes, rfl, fits, tolerated⟩ := Takes.record layout ran
      refine ⟨bytes ++ more, by rw [List.append_assoc], ?_, ?_⟩
      · rw [List.forall_mem_cons]
        exact ⟨fits, fitOthers⟩
      · simp only [List.flatMap_cons, List.append_assoc]
        exact tolerated.append toleratedOthers

/-- A stream is read up to its end marker: its head and rows, and what is left behind the marker. -/
def Leaves (source : ByteSource) (head : Banner × Layout) (rows : List Row) (rest : ByteSource) :
    Prop :=
  ∃ between, Reader.head source = .ok (head, between) ∧ Records head.2 between rows rest

theorem Leaves.takes {source rest : ByteSource} {banner : Banner} {layout : Layout}
    {rows : List Row} (leaves : Leaves source (banner, layout) rows rest) :
    ∃ bytes, source = ⟨bytes ++ rest.bytes, rest.ending⟩ ∧ Format.Writable banner layout rows ∧
      Tolerated (Format.places banner layout rows) bytes (Format.stream banner layout rows) := by
  obtain ⟨between, ranHead, records⟩ := leaves
  obtain ⟨more, rfl, rowsFit, tolerated⟩ := records.takes
  obtain ⟨bytes, rfl, bannerFits, layoutFits, rfl⟩ := Takes.head ranHead
  refine ⟨_ ++ more, by rw [List.append_assoc], ⟨bannerFits, layoutFits, rowsFit⟩, ?_⟩
  exact (Tolerated.exact _).append tolerated

end RowStream.Reader

theorem Cursor.records_of_drain (cursor : Cursor) {source : ByteSource} {rows : List Row}
    (uncapped : cursor.maxRows = 0) (opened : cursor.source? = some source)
    (drained : cursor.drain.1 = (rows, none)) :
    ∃ rest, Reader.Records cursor.layout source rows rest := by
  induction cursor using drain.induct generalizing source rows with
  | case1 cursor fault after stepped =>
      rw [drain_of_error (step_iff.mpr stepped)] at drained
      cases drained
  | case2 cursor after stepped =>
      rw [drain_of_end (step_iff.mpr stepped)] at drained
      cases drained
      cases step_iff.mpr stepped with
      | limited atLimit =>
          rw [atLimit_of_uncapped uncapped] at atLimit
          cases atLimit
      | closed _ closed =>
          rw [opened] at closed
          cases closed
      | ended _ openedToo ran =>
          obtain rfl := Option.some.inj (opened.symm.trans openedToo)
          exact ⟨_, .ended ran⟩
  | case3 cursor row after stepped _ _ _ _ inductionHypothesis =>
      rw [drain_of_row (step_iff.mpr stepped)] at drained
      obtain ⟨rfl, unfailing⟩ := Prod.mk.inj drained
      cases step_iff.mpr stepped with
      | row _ openedToo ran =>
          obtain rfl := Option.some.inj (opened.symm.trans openedToo)
          rcases inductionHypothesis uncapped rfl (Prod.ext rfl unfailing) with ⟨rest, records⟩
          exact ⟨rest, .row ran records⟩

namespace Transcript

theorem leaves_of_ofSource {source : ByteSource} {banner : Banner} {layout : Layout}
    {rows : List Row} (drained : ofSource source 0 = ⟨some (banner, layout), rows, none⟩) :
    ∃ rest, Reader.Leaves source (banner, layout) rows rest := by
  cases ran : Reader.head source with
  | error fault =>
      rw [ofSource_of_error 0 ran] at drained
      cases drained
  | ok pair =>
      obtain ⟨head, between⟩ := pair
      rw [ofSource_of_ok 0 ran, opened, Transcript.mk.injEq] at drained
      obtain ⟨sameHead, sameRows, unfailing⟩ := drained
      obtain rfl := Option.some.inj sameHead
      rcases Cursor.records_of_drain (.start (banner, layout) 0 between) rfl rfl
        (Prod.ext sameRows unfailing) with
        ⟨rest, records⟩
      exact ⟨rest, between, ran, records⟩

/-- What was handed out without a failure is encoded to the bytes that were read up to the end
marker, as far as these are what an encoder writes: a null flag other than zero and a truth value
other than zero become one. -/
theorem encode_ofSource {bytes : List UInt8} {ending : ByteSource.Ending} {banner : Banner}
    {layout : Layout} {rows : List Row}
    (drained : ofSource ⟨bytes, ending⟩ 0 = ⟨some (banner, layout), rows, none⟩) :
    (∀ row ∈ rows, row.cells.length = layout.size ∧
      ∀ pair ∈ layout.columns.zip row.cells,
        pair.2 = .null ∨ pair.2.type? = some pair.1.type) ∧
    ∃ read rest written : List UInt8,
      bytes = read ++ rest ∧
      Reader.Leaves ⟨bytes, ending⟩ (banner, layout) rows ⟨rest, ending⟩ ∧
      encode banner layout rows = .ok written ∧
      written.length = read.length ∧
      (∀ (index : Nat) (byte : UInt8), read[index]? = some byte → written[index]? = some byte ∨
        ((Format.places banner layout rows)[index]? = some (.nullFlag true) ∨
          (Format.places banner layout rows)[index]? = some .truth) ∧
        byte ≠ 0 ∧ written[index]? = some 1) ∧
      (written = read ↔ ∀ (index : Nat) (place : Place) (byte : UInt8),
        (Format.places banner layout rows)[index]? = some place → place.isFlag = true →
          read[index]? = some byte → byte = 0 ∨ byte = 1) := by
  obtain ⟨⟨rest, after⟩, leaves⟩ := leaves_of_ofSource drained
  obtain ⟨read, split, writable, tolerated⟩ := leaves.takes
  obtain ⟨rfl, rfl⟩ := ByteSource.mk.inj split
  constructor
  · intro row inside
    have accepted := (writable.rowsFit row inside).accepted
    simp only [Layout.accepts, Bool.and_eq_true, beq_iff_eq, List.all_eq_true] at accepted
    refine ⟨accepted.1, ?_⟩
    intro pair paired
    exact CellType.fits_iff.mp (accepted.2 pair paired)
  · refine ⟨read, rest, Format.stream banner layout rows, rfl, leaves,
      encode_eq_ok_iff.mpr ⟨writable, rfl⟩, tolerated.length_eq, ?_, tolerated.same_iff⟩
    intro index byte found
    obtain ⟨place, other, placed, foundToo, admits⟩ := tolerated.admits_at found
    rw [placed, foundToo]
    rcases admits.same_or with rfl | ⟨rfl | rfl, nonzero, rfl⟩
    · exact .inl rfl
    · exact .inr ⟨.inl rfl, nonzero, rfl⟩
    · exact .inr ⟨.inr rfl, nonzero, rfl⟩

/-- Nine for true and seven for null become one; the byte behind the end marker is left. -/
theorem encode_ofSource_large_flags :
    let banner : Banner := ⟨"", "", "", "", ""⟩
    let layout : Layout := ⟨[⟨"a", .boolean⟩]⟩
    let rows : List Row := [⟨[.boolean true]⟩, ⟨[.null]⟩]
    let head : List UInt8 := [0, 0, 0, 0, 0, 0, 0, 0, 0, 0, 0, 0, 0, 1, 0, 0, 0, 4, 0, 1, 0x61]
    let bytes : List UInt8 := head ++ [1, 0, 9, 1, 7, 0] ++ [5]
    ofSource ⟨bytes, .ends⟩ 0 = ⟨some (banner, layout), rows, none⟩ ∧
      Reader.Leaves ⟨bytes, .ends⟩ (banner, layout) rows ⟨[5], .ends⟩ ∧
      encode banner layout rows = .ok (head ++ [1, 0, 1, 1, 1, 0]) := by
  intro banner layout rows head bytes
  have drained : ofSource ⟨bytes, .ends⟩ 0 = ⟨some (banner, layout), rows, none⟩ := by
    decide +kernel
  have encoded : encode banner layout rows = .ok (head ++ [1, 0, 1, 1, 1, 0]) := by decide +kernel
  obtain ⟨_, read, rest, written, split, leaves, encodedToo, size, _⟩ := encode_ofSource drained
  obtain rfl := Except.ok.inj (encoded.symm.trans encodedToo)
  have pieces : (head ++ [1, 0, 9, 1, 7, 0]) ++ [5] = read ++ rest := split
  obtain rfl := (List.append_inj pieces size).2
  exact ⟨drained, leaves, encoded⟩

end Transcript

end VirtualTables
